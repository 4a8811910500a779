import ConnectionTopology.ScanQueue.Interleaving
import ConnectionTopology.ScanQueue.BatchInvariant

/-!
# Items that are left behind

An item inserted while its task still has the status that the transaction read
stays with its task: the key-share lock keeps settlements out until the commit, and
a settlement that holds the row has loaded every committed item. An item inserted
after a settlement committed carries the old status for ever.
-/
namespace ConnectionTopology

/-- Own rows are fresh, and flushed items agree with their tasks. -/
structure EnqueueOk (db : Database) (e : EnqueueTx) : Prop where
  own : ∀ t ∈ e.ownTasks, t.id < db.sequences.scanTasks ∧ t.id ∉ db.scanTasks.map (·.id)
  ownNodup : (e.ownTasks.map (·.id)).Nodup
  items : ∀ i ∈ e.ownItems, ∃ t ∈ db.scanTasks ++ e.ownTasks, t.id = i.taskId ∧ i.status = t.status
  pending : ∀ i ∈ e.pending, i.taskId ∈ db.scanTasks.map (·.id) ∨
    ∃ t ∈ e.ownTasks, t.id = i.taskId ∧ i.status = t.status
  holding : ∀ t, e.stage = .holding t ∨ e.stage = .flush (some t) →
    t.id ∈ db.scanTasks.map (·.id) ∨ ∃ u ∈ e.ownTasks, u.id = t.id ∧ t.status = u.status

/-- The loaded items are the committed items of the locked task. -/
structure SettleOk (db : Database) (t : SettleTx) : Prop where
  all : ∀ loaded, t.items = some loaded →
    ∀ i ∈ db.scanBatchItems, i.taskId = t.taskId → loaded.any i.sameRow
  only : ∀ loaded, t.items = some loaded → ∀ j ∈ loaded, j.taskId = t.taskId

/-- The invariant of the interleaving. -/
structure RaceInv (s : RaceState) : Prop where
  items : ItemsFollow s.db
  enqueue : ∀ e, .enqueue e ∈ s.txs → EnqueueOk s.db e
  settle : ∀ t, .settle t ∈ s.txs → SettleOk s.db t
  locks : ∀ e t, .enqueue e ∈ s.txs → .settle t ∈ s.txs → ∀ i ∈ e.ownItems, i.taskId ≠ t.taskId
  apart : ∀ (n m : ℕ) (e f : EnqueueTx), n ≠ m → s.txs[n]? = some (.enqueue e) →
    s.txs[m]? = some (.enqueue f) → ∀ t ∈ e.ownTasks, ∀ u ∈ f.ownTasks, t.id ≠ u.id

/-- The status that an enqueuing transaction read is still the committed one when it
inserts the item. -/
def statusStillRead (s : RaceState) : RaceAction → Bool
  | .enqueue n .insertItem =>
    match s.txs[n]? with
    | some (.enqueue e) =>
      match e.pending with
      | item :: _ => s.db.scanTasks.all fun t => t.id ≠ item.taskId || t.status = item.status
      | [] => true
    | _ => true
  | _ => true

theorem statusStillRead_insertItem {s : RaceState} {n : ℕ} {e : EnqueueTx} {item : ScanBatchItem}
    {rest : List ScanBatchItem} (h : statusStillRead s (.enqueue n .insertItem))
    (hn : s.txs[n]? = some (.enqueue e)) (hpending : e.pending = item :: rest) :
    ∀ t ∈ s.db.scanTasks, t.id = item.taskId → t.status = item.status := by
  intro t ht hid
  simp only [statusStillRead, hn, hpending, List.all_eq_true] at h
  simpa [hid] using h t ht

/-! ## Replacing one transaction -/

theorem lockedForUpdate_eq_false {s : RaceState} {taskId : ℕ} :
    s.lockedForUpdate taskId = false ↔ ∀ t, .settle t ∈ s.txs → t.taskId ≠ taskId := by
  unfold RaceState.lockedForUpdate
  rw [List.any_eq_false]
  constructor
  · intro h t ht
    simpa using h _ ht
  · intro h tx htx
    cases tx with
    | settle t => simpa using h t htx
    | enqueue e => simp
    | done => simp

theorem keyShared_eq_false {s : RaceState} {taskId : ℕ} :
    s.keyShared taskId = false ↔
      ∀ e, .enqueue e ∈ s.txs → ∀ i ∈ e.ownItems, i.taskId ≠ taskId := by
  unfold RaceState.keyShared
  rw [List.any_eq_false]
  constructor
  · intro h e he
    simpa using h _ he
  · intro h tx htx
    cases tx with
    | enqueue e => simpa using h e htx
    | settle t => simp
    | done => simp

/-! ## What other transactions may do to a transaction's view -/

/-- Keys stay, statuses change only where the transaction has no item in flight, and
foreign new rows do not take its keys. -/
theorem EnqueueOk.mono {db db' : Database} {e : EnqueueTx} (h : EnqueueOk db e)
    (hseq : db.sequences.scanTasks ≤ db'.sequences.scanTasks)
    (hkeep : ∀ t ∈ db.scanTasks, ∃ t' ∈ db'.scanTasks, t'.id = t.id ∧
      ((∃ i ∈ e.ownItems, i.taskId = t.id) → t'.status = t.status))
    (hnew : ∀ t' ∈ db'.scanTasks, t'.id ∈ db.scanTasks.map (·.id) ∨ ∀ u ∈ e.ownTasks, u.id ≠ t'.id) :
    EnqueueOk db' e := by
  have hids : ∀ id, id ∈ db.scanTasks.map (·.id) → id ∈ db'.scanTasks.map (·.id) := by
    intro id hid
    obtain ⟨t, ht, rfl⟩ := List.mem_map.mp hid
    obtain ⟨t', ht', heq, -⟩ := hkeep t ht
    exact List.mem_map.mpr ⟨t', ht', heq⟩
  refine ⟨?_, h.ownNodup, ?_, ?_, ?_⟩
  · intro u hu
    obtain ⟨hlt, hfresh⟩ := h.own u hu
    refine ⟨by omega, ?_⟩
    intro hmem
    obtain ⟨t', ht', heq⟩ := List.mem_map.mp hmem
    rcases hnew t' ht' with hold | hother
    · exact hfresh (heq ▸ hold)
    · exact hother u hu heq.symm
  · intro i hi
    obtain ⟨t, ht, hid, hstatus⟩ := h.items i hi
    rcases List.mem_append.mp ht with ht | ht
    · obtain ⟨t', ht', heq, hsame⟩ := hkeep t ht
      exact ⟨t', List.mem_append_left _ ht', heq.trans hid,
        hstatus.trans (hsame ⟨i, hi, hid.symm⟩).symm⟩
    · exact ⟨t, List.mem_append_right _ ht, hid, hstatus⟩
  · intro i hi
    rcases h.pending i hi with hold | hown
    · exact Or.inl (hids _ hold)
    · exact Or.inr hown
  · intro t ht
    rcases h.holding t ht with hold | hown
    · exact Or.inl (hids _ hold)
    · exact Or.inr hown

/-- Only the sequence may have moved. -/
theorem EnqueueOk.of_eq {db db' : Database} {e : EnqueueTx} (h : EnqueueOk db e)
    (htasks : db'.scanTasks = db.scanTasks)
    (hseq : db.sequences.scanTasks ≤ db'.sequences.scanTasks) : EnqueueOk db' e := by
  apply h.mono hseq
  · intro t ht
    exact ⟨t, by rw [htasks]; exact ht, rfl, fun _ => rfl⟩
  · intro t' ht'
    rw [htasks] at ht'
    exact Or.inl (List.mem_map_of_mem ht')

theorem SettleOk.mono {db db' : Database} {t : SettleTx} (h : SettleOk db t)
    (hitems : ∀ i ∈ db'.scanBatchItems, i.taskId = t.taskId →
      ∃ j ∈ db.scanBatchItems, j.batchId = i.batchId ∧ j.deviceId = i.deviceId ∧
        j.taskId = i.taskId) : SettleOk db' t := by
  refine ⟨?_, h.only⟩
  intro loaded hloaded i hi htask
  obtain ⟨j, hj, hb, hd, ht⟩ := hitems i hi htask
  have hany := h.all loaded hloaded j hj (ht.trans htask)
  simpa [ScanBatchItem.sameRow, hb, hd, ht] using hany

/-! ## Statements of an enqueuing transaction -/

/-- A statement changes the transaction itself and at most the key sequence. -/
theorem RaceInv.enqueueStep {s : RaceState} (h : RaceInv s) {n : ℕ} {e e' : EnqueueTx}
    (hn : s.txs[n]? = some (.enqueue e)) {db' : Database}
    (htasks : db'.scanTasks = s.db.scanTasks) (hitems : db'.scanBatchItems = s.db.scanBatchItems)
    (hseq : s.db.sequences.scanTasks ≤ db'.sequences.scanTasks) (hok : EnqueueOk db' e')
    (hown : ∀ i ∈ e'.ownItems, i ∈ e.ownItems ∨ s.lockedForUpdate i.taskId = false)
    (hnew : ∀ t ∈ e'.ownTasks, t ∈ e.ownTasks ∨ s.db.sequences.scanTasks ≤ t.id) :
    RaceInv ⟨db', s.txs.set n (.enqueue e')⟩ := by
  have hmem : ∀ m tx, s.txs[m]? = some tx → tx ∈ s.txs := fun m tx => List.mem_of_getElem?
  have hfresh : ∀ m f, s.txs[m]? = some (.enqueue f) → m ≠ n →
      ∀ t ∈ e'.ownTasks, ∀ u ∈ f.ownTasks, t.id ≠ u.id := by
    intro m f hf hmn t ht u hu
    rcases hnew t ht with ht | hge
    · exact h.apart n m e f hmn.symm hn hf t ht u hu
    · have := ((h.enqueue f (hmem m _ hf)).own u hu).1
      omega
  refine ⟨⟨?_, ?_, ?_⟩, ?_, ?_, ?_, ?_⟩
  · rw [htasks]
    exact h.items.nodup
  · intro t ht
    rw [htasks] at ht
    exact lt_of_lt_of_le (h.items.fresh t ht) hseq
  · rw [htasks, hitems]
    exact h.items.status
  · intro f hf
    rcases Machine.mem_set_cases hf with hf | ⟨m, -, hf⟩
    · cases hf
      exact hok
    · exact (h.enqueue f (hmem m _ hf)).of_eq htasks hseq
  · intro t ht
    rcases Machine.mem_set_cases ht with ht | ⟨m, -, ht⟩
    · cases ht
    · apply (h.settle t (hmem m _ ht)).mono
      intro i hi _
      rw [hitems] at hi
      exact ⟨i, hi, rfl, rfl, rfl⟩
  · intro f t hf ht i hi
    rcases Machine.mem_set_cases ht with ht | ⟨m, -, ht⟩
    · cases ht
    · have ht := hmem m _ ht
      rcases Machine.mem_set_cases hf with hf | ⟨k, -, hf⟩
      · cases hf
        rcases hown i hi with hold | hfree
        · exact h.locks e t (hmem n _ hn) ht i hold
        · exact fun he => lockedForUpdate_eq_false.mp hfree t ht he.symm
      · exact h.locks f t (hmem k _ hf) ht i hi
  · intro a b f g hab hf hg t ht u hu
    rcases Machine.getElem?_set_cases hf with ⟨ha, hf⟩ | ⟨ha, hf⟩
    · cases hf
      rcases Machine.getElem?_set_cases hg with ⟨hb, -⟩ | ⟨hb, hg⟩
      · exact absurd (ha.trans hb.symm) hab
      · exact hfresh b g hg hb t ht u hu
    · rcases Machine.getElem?_set_cases hg with ⟨hb, hg⟩ | ⟨hb, hg⟩
      · cases hg
        exact fun he => hfresh a f hf ha u hu t ht he.symm
      · exact h.apart a b f g hab hf hg t ht u hu

/-- The object in hand, reused or read back, is a task the transaction can see. -/
theorem EnqueueOk.reuse {db : Database} {e : EnqueueTx} (h : EnqueueOk db e) {task : ScanTask}
    (htask : task ∈ db.scanTasks ++ e.ownTasks) : EnqueueOk db (e.reuse task) := by
  have hseen : ∀ t : ScanTask, t.id = task.id → t.status = task.status →
      t.id ∈ db.scanTasks.map (·.id) ∨ ∃ u ∈ e.ownTasks, u.id = t.id ∧ t.status = u.status := by
    intro t hid hstatus
    rcases List.mem_append.mp htask with ht | ht
    · exact Or.inl (List.mem_map.mpr ⟨task, ht, hid.symm⟩)
    · exact Or.inr ⟨task, ht, hid.symm, hstatus⟩
  unfold EnqueueTx.reuse
  split_ifs
  · refine ⟨h.own, h.ownNodup, h.items, h.pending, ?_⟩
    rintro t (ht | ht)
    · cases ht
      exact hseen _ rfl rfl
    · cases ht
  · refine ⟨h.own, h.ownNodup, h.items, h.pending, ?_⟩
    rintro t (ht | ht)
    · cases ht
      exact hseen _ rfl rfl
    · cases ht

theorem EnqueueOk.attach {db : Database} {e : EnqueueTx} (h : EnqueueOk db e) {task : ScanTask}
    (htask : e.stage = .holding task) : EnqueueOk db (e.attach db task) := by
  have hquiet : EnqueueOk db { e with stage := .select } := by
    refine ⟨h.own, h.ownNodup, h.items, h.pending, ?_⟩
    rintro t (ht | ht) <;> cases ht
  unfold EnqueueTx.attach
  split
  · exact hquiet
  · split_ifs
    · exact hquiet
    · refine ⟨h.own, h.ownNodup, h.items, ?_, hquiet.holding⟩
      intro i hi
      rcases List.mem_append.mp hi with hi | hi
      · exact h.pending i hi
      · rw [List.mem_singleton.mp hi]
        exact h.holding task (Or.inl htask)

theorem EnqueueOk.insertTask {s : RaceState} {e : EnqueueTx} (h : EnqueueOk s.db e)
    (hfollow : ItemsFollow s.db) (deviceId : ℕ) (wall : Timestamp) :
    let inserted := insertTask deviceId e.trigger e.priority wall s.db
    EnqueueOk { s.db with sequences := inserted.2.sequences }
      { e with ownTasks := e.ownTasks ++ [inserted.1], stage := .flush (some inserted.1) } := by
  have hgrow : ∀ {P : ScanTask → Prop}, (∃ t ∈ e.ownTasks, P t) →
      ∃ t ∈ e.ownTasks ++ [(ConnectionTopology.insertTask deviceId e.trigger e.priority wall s.db).1],
        P t := by
    rintro P ⟨t, ht, hp⟩
    exact ⟨t, List.mem_append_left _ ht, hp⟩
  refine ⟨?_, ?_, ?_, ?_, ?_⟩
  · intro t ht
    rcases List.mem_append.mp ht with ht | ht
    · obtain ⟨hlt, hfresh⟩ := h.own t ht
      refine ⟨?_, hfresh⟩
      simp only [ConnectionTopology.insertTask]
      omega
    · rw [List.mem_singleton.mp ht]
      refine ⟨by simp [ConnectionTopology.insertTask], ?_⟩
      intro hmem
      obtain ⟨u, hu, hid⟩ := List.mem_map.mp hmem
      have := hfollow.fresh u hu
      simp only [ConnectionTopology.insertTask] at hid
      omega
  · simp only [List.map_append, List.map_cons, List.map_nil]
    rw [List.nodup_append]
    refine ⟨h.ownNodup, by simp, ?_⟩
    intro a ha b hb
    obtain ⟨t, ht, rfl⟩ := List.mem_map.mp ha
    have := (h.own t ht).1
    rw [List.mem_singleton.mp hb]
    simp only [ConnectionTopology.insertTask]
    omega
  · intro i hi
    obtain ⟨t, ht, hid⟩ := h.items i hi
    rcases List.mem_append.mp ht with ht | ht
    · exact ⟨t, List.mem_append_left _ ht, hid⟩
    · exact ⟨t, List.mem_append_right _ (List.mem_append_left _ ht), hid⟩
  · intro i hi
    rcases h.pending i hi with hold | hown
    · exact Or.inl hold
    · exact Or.inr (hgrow hown)
  · rintro t (ht | ht)
    · cases ht
    · cases ht
      exact Or.inr ⟨_, List.mem_append_right _ (List.mem_singleton.mpr rfl), rfl, rfl⟩

/-- Inserting the item is where the status that was read has to be the current one. -/
theorem EnqueueOk.insertItem {db : Database} {e : EnqueueTx} (h : EnqueueOk db e)
    {item : ScanBatchItem} {rest : List ScanBatchItem} (hpending : e.pending = item :: rest)
    (hstill : ∀ t ∈ db.scanTasks, t.id = item.taskId → t.status = item.status) :
    EnqueueOk db { e with pending := rest, ownItems := e.ownItems ++ [item] } := by
  refine ⟨h.own, h.ownNodup, ?_, ?_, h.holding⟩
  · intro i hi
    rcases List.mem_append.mp hi with hi | hi
    · exact h.items i hi
    · rw [List.mem_singleton.mp hi]
      rcases h.pending item (by simp [hpending]) with hold | ⟨t, ht, hid, hstatus⟩
      · obtain ⟨t, ht, hid⟩ := List.mem_map.mp hold
        exact ⟨t, List.mem_append_left _ ht, hid, (hstill t ht hid).symm⟩
      · exact ⟨t, List.mem_append_right _ ht, hid, hstatus⟩
  · intro i hi
    exact h.pending i (by simp [hpending, hi])

theorem EnqueueOk.endFlush {db : Database} {e : EnqueueTx} (h : EnqueueOk db e) {task : ScanTask}
    (hstage : e.stage = .flush (some task)) : EnqueueOk db { e with stage := .holding task } := by
  refine ⟨h.own, h.ownNodup, h.items, h.pending, ?_⟩
  rintro t (ht | ht)
  · cases ht
    exact h.holding task (Or.inr hstage)
  · cases ht

/-- A stage without a task in hand asks for nothing. -/
theorem EnqueueOk.stage {db : Database} {e : EnqueueTx} (h : EnqueueOk db e) {e' : EnqueueTx}
    (htasks : e'.ownTasks = e.ownTasks) (hitems : e'.ownItems = e.ownItems)
    (hpending : e'.pending = e.pending)
    (hstage : ∀ t, e'.stage = .holding t ∨ e'.stage = .flush (some t) → e'.stage = e.stage) :
    EnqueueOk db e' := by
  refine ⟨?_, ?_, ?_, ?_, ?_⟩
  · rw [htasks]; exact h.own
  · rw [htasks]; exact h.ownNodup
  · rw [htasks, hitems]; exact h.items
  · rw [htasks, hpending]; exact h.pending
  · intro t ht
    rw [htasks]
    rw [hstage t ht] at ht
    exact h.holding t ht

theorem RaceInv.enqueueStatement {queueSize : ℕ} {s : RaceState} (h : RaceInv s) {n : ℕ}
    {e : EnqueueTx} (hn : s.txs[n]? = some (.enqueue e)) {statement : EnqueueStatement}
    (hstill : statusStillRead s (.enqueue n statement)) {r : Database × EnqueueTx}
    (hstep : e.step queueSize s statement = some r) :
    RaceInv ⟨r.1, s.txs.set n (.enqueue r.2)⟩ := by
  have hok := h.enqueue e (List.mem_of_getElem? hn)
  have hlocal : ∀ e' : EnqueueTx, EnqueueOk s.db e' → e'.ownItems = e.ownItems →
      e'.ownTasks = e.ownTasks → RaceInv ⟨s.db, s.txs.set n (.enqueue e')⟩ := by
    intro e' hok' hitems htasks
    apply h.enqueueStep hn rfl rfl (le_refl _) hok'
    · intro i hi
      exact Or.inl (hitems ▸ hi)
    · intro t ht
      exact Or.inl (htasks ▸ ht)
  cases statement with
  | readTask =>
    simp only [EnqueueTx.step] at hstep
    split at hstep
    · split_ifs at hstep
      split at hstep
      · cases hstep
        refine hlocal _ ?_ rfl rfl
        refine hok.stage rfl rfl rfl ?_
        rintro t (ht | ht) <;> cases ht
      · rename_i deviceId rest _ _ _ _ task hactive
        cases hstep
        have hbase : EnqueueOk s.db { e with todo := rest } :=
          hok.stage rfl rfl rfl fun _ _ => rfl
        apply hlocal
        · exact hbase.reuse (List.mem_of_find?_eq_some hactive)
        · unfold EnqueueTx.reuse
          split_ifs <;> rfl
        · unfold EnqueueTx.reuse
          split_ifs <;> rfl
    · cases hstep
  | insertTask wall =>
    simp only [EnqueueTx.step] at hstep
    split at hstep
    · rename_i deviceId _
      split_ifs at hstep
      cases hstep
      refine h.enqueueStep hn rfl rfl ?_ (hok.insertTask h.items deviceId wall) ?_ ?_
      · simp [ConnectionTopology.insertTask]
      · intro i hi
        exact Or.inl hi
      · intro t ht
        rcases List.mem_append.mp ht with ht | ht
        · exact Or.inl ht
        · rw [List.mem_singleton.mp ht]
          exact Or.inr (le_refl _)
    · cases hstep
  | attach =>
    simp only [EnqueueTx.step] at hstep
    split at hstep
    · rename_i task hstage
      cases hstep
      apply hlocal
      · exact hok.attach hstage
      · unfold EnqueueTx.attach
        split
        · rfl
        · split_ifs <;> rfl
      · unfold EnqueueTx.attach
        split
        · rfl
        · split_ifs <;> rfl
    · cases hstep
  | beginFlush =>
    simp only [EnqueueTx.step] at hstep
    split at hstep
    · cases hstep
      refine hlocal _ ?_ rfl rfl
      refine hok.stage rfl rfl rfl ?_
      rintro t (ht | ht) <;> cases ht
    · cases hstep
  | flushPriority =>
    simp only [EnqueueTx.step] at hstep
    split at hstep
    · split_ifs at hstep
      cases hstep
      refine hlocal _ ?_ rfl rfl
      exact hok.stage rfl rfl rfl fun _ _ => rfl
    · cases hstep
  | insertItem =>
    simp only [EnqueueTx.step] at hstep
    split at hstep
    · rename_i item rest _ _ hpending
      split_ifs at hstep with hfree
      cases hstep
      simp only [Bool.or_eq_true, not_or, Bool.not_eq_true] at hfree
      refine h.enqueueStep hn rfl rfl (le_refl _)
        (hok.insertItem hpending (statusStillRead_insertItem hstill hn hpending)) ?_ ?_
      · intro i hi
        rcases List.mem_append.mp hi with hi | hi
        · exact Or.inl hi
        · rw [List.mem_singleton.mp hi]
          exact Or.inr hfree.1
      · intro t ht
        exact Or.inl ht
    · cases hstep
  | endFlush =>
    simp only [EnqueueTx.step] at hstep
    split at hstep
    · rename_i task hstage _ _
      cases hstep
      exact hlocal _ (hok.endFlush hstage) rfl rfl
    · cases hstep

/-! ## Beginning, ending and settling -/

/-- A transaction that ends without a trace. -/
theorem RaceInv.finish {s : RaceState} (h : RaceInv s) {n : ℕ} {db' : Database}
    (hitems : ItemsFollow db')
    (henqueue : ∀ m e, m ≠ n → s.txs[m]? = some (.enqueue e) → EnqueueOk db' e)
    (hsettle : ∀ m t, m ≠ n → s.txs[m]? = some (.settle t) → SettleOk db' t) :
    RaceInv ⟨db', s.txs.set n .done⟩ := by
  have hmem : ∀ m tx, s.txs[m]? = some tx → tx ∈ s.txs := fun m tx => List.mem_of_getElem?
  refine ⟨hitems, ?_, ?_, ?_, ?_⟩
  · intro e he
    rcases Machine.mem_set_cases he with he | ⟨m, hm, he⟩
    · cases he
    · exact henqueue m e hm he
  · intro t ht
    rcases Machine.mem_set_cases ht with ht | ⟨m, hm, ht⟩
    · cases ht
    · exact hsettle m t hm ht
  · intro e t he ht
    rcases Machine.mem_set_cases he with he | ⟨m, -, he⟩
    · cases he
    · rcases Machine.mem_set_cases ht with ht | ⟨k, -, ht⟩
      · cases ht
      · exact h.locks e t (hmem m _ he) (hmem k _ ht)
  · intro a b e f hab he hf
    rcases Machine.getElem?_set_cases he with ⟨-, he⟩ | ⟨-, he⟩
    · cases he
    · rcases Machine.getElem?_set_cases hf with ⟨-, hf⟩ | ⟨-, hf⟩
      · cases hf
      · exact h.apart a b e f hab he hf

theorem RaceInv.rollback {s : RaceState} (h : RaceInv s) (n : ℕ) :
    RaceInv { s with txs := s.txs.set n .done } :=
  h.finish h.items (fun _ _ _ he => h.enqueue _ (List.mem_of_getElem? he))
    fun _ _ _ ht => h.settle _ (List.mem_of_getElem? ht)

theorem EnqueueTx.mem_commit {e : EnqueueTx} {db : Database} {t' : ScanTask}
    (h : t' ∈ (e.commit db).scanTasks) :
    (∃ t ∈ db.scanTasks, t'.id = t.id ∧ t'.status = t.status) ∨ t' ∈ e.ownTasks := by
  rcases List.mem_append.mp h with h | h
  · obtain ⟨t, ht, rfl⟩ := List.mem_map.mp h
    refine Or.inl ⟨t, ht, ?_⟩
    split_ifs <;> exact ⟨rfl, rfl⟩
  · exact Or.inr h

theorem EnqueueTx.commit_keeps (e : EnqueueTx) {db : Database} {t : ScanTask}
    (h : t ∈ db.scanTasks) :
    ∃ t' ∈ (e.commit db).scanTasks, t'.id = t.id ∧ t'.status = t.status := by
  refine ⟨_, List.mem_append_left _ (List.mem_map_of_mem h), ?_⟩
  split_ifs <;> exact ⟨rfl, rfl⟩

theorem ItemsFollow.commitEnqueue {db : Database} {e : EnqueueTx} (h : ItemsFollow db)
    (hok : EnqueueOk db e) : ItemsFollow (e.commit db) := by
  have hids : ((e.commit db).scanTasks).map (·.id) =
      db.scanTasks.map (·.id) ++ e.ownTasks.map (·.id) := by
    simp only [EnqueueTx.commit, List.map_append, List.map_map]
    congr 1
    apply List.map_congr_left
    intro t _
    simp only [Function.comp_apply]
    split_ifs <;> rfl
  refine ⟨?_, ?_, ?_⟩
  · rw [hids, List.nodup_append]
    refine ⟨h.nodup, hok.ownNodup, ?_⟩
    intro a ha b hb hab
    obtain ⟨u, hu, rfl⟩ := List.mem_map.mp hb
    exact (hok.own u hu).2 (hab ▸ ha)
  · intro t' ht'
    rcases EnqueueTx.mem_commit ht' with ⟨t, ht, hid, -⟩ | hown
    · rw [hid]
      exact h.fresh t ht
    · exact (hok.own t' hown).1
  · intro i hi
    rcases List.mem_append.mp hi with hi | hi
    · obtain ⟨t, ht, hid, hstatus⟩ := h.status i hi
      obtain ⟨t', ht', hid', hstatus'⟩ := e.commit_keeps ht
      exact ⟨t', ht', hid'.trans hid, hstatus.trans hstatus'.symm⟩
    · obtain ⟨t, ht, hid, hstatus⟩ := hok.items i hi
      rcases List.mem_append.mp ht with ht | ht
      · obtain ⟨t', ht', hid', hstatus'⟩ := e.commit_keeps ht
        exact ⟨t', ht', hid'.trans hid, hstatus.trans hstatus'.symm⟩
      · exact ⟨t, List.mem_append_right _ ht, hid, hstatus⟩

theorem RaceInv.commitEnqueue {s : RaceState} (h : RaceInv s) {n : ℕ} {e : EnqueueTx}
    (hn : s.txs[n]? = some (.enqueue e)) : RaceInv ⟨e.commit s.db, s.txs.set n .done⟩ := by
  have hok := h.enqueue e (List.mem_of_getElem? hn)
  apply h.finish (h.items.commitEnqueue hok)
  · intro m f hm hf
    refine (h.enqueue f (List.mem_of_getElem? hf)).mono (le_refl _) ?_ ?_
    · intro t ht
      obtain ⟨t', ht', hid, hstatus⟩ := e.commit_keeps ht
      exact ⟨t', ht', hid, fun _ => hstatus⟩
    · intro t' ht'
      rcases EnqueueTx.mem_commit ht' with ⟨t, ht, hid, -⟩ | hown
      · exact Or.inl (List.mem_map.mpr ⟨t, ht, hid.symm⟩)
      · exact Or.inr fun u hu => h.apart m n f e hm hf hn u hu t' hown
  · intro m t _ ht
    have ht := List.mem_of_getElem? ht
    apply (h.settle t ht).mono
    intro i hi htask
    rcases List.mem_append.mp hi with hi | hi
    · exact ⟨i, hi, rfl, rfl, rfl⟩
    · exact absurd htask (h.locks e t (List.mem_of_getElem? hn) ht i hi)

theorem RaceInv.begin {s : RaceState} (h : RaceInv s) (batchId : Option ℕ) (trigger : ScanTrigger)
    (priority : ℤ) (todo : List ℕ) :
    RaceInv { s with txs := s.txs ++ [.enqueue { batchId, trigger, priority, todo }] } := by
  have hnew : ∀ {e}, Tx.enqueue e ∈ s.txs ++ [.enqueue { batchId, trigger, priority, todo }] →
      Tx.enqueue e ∈ s.txs ∨ e = { batchId, trigger, priority, todo } := by
    intro e he
    rcases List.mem_append.mp he with he | he
    · exact Or.inl he
    · exact Or.inr (Tx.enqueue.inj (List.mem_singleton.mp he))
  have hsettle : ∀ {t}, Tx.settle t ∈ s.txs ++ [.enqueue { batchId, trigger, priority, todo }] →
      Tx.settle t ∈ s.txs := by
    intro t ht
    rcases List.mem_append.mp ht with ht | ht
    · exact ht
    · cases List.mem_singleton.mp ht
  have hidx : ∀ {m : ℕ} {e : EnqueueTx}, e.ownTasks ≠ [] →
      (s.txs ++ [.enqueue { batchId, trigger, priority, todo }])[m]? = some (.enqueue e) →
      s.txs[m]? = some (.enqueue e) := by
    intro m e hown hm
    rw [List.getElem?_append] at hm
    split_ifs at hm with hlt
    · exact hm
    · rcases List.mem_singleton.mp (List.mem_of_getElem? hm) with heq
      cases heq
      exact absurd rfl hown
  refine ⟨h.items, ?_, fun t ht => h.settle t (hsettle ht), ?_, ?_⟩
  · intro e he
    rcases hnew he with he | rfl
    · exact h.enqueue e he
    · refine ⟨by simp, by simp, by simp, by simp, ?_⟩
      rintro t (ht | ht) <;> cases ht
  · intro e t he ht i hi
    rcases hnew he with he | rfl
    · exact h.locks e t he (hsettle ht) i hi
    · cases hi
  · intro n m e f hnm he hf t ht u hu
    exact h.apart n m e f hnm (hidx (List.ne_nil_of_mem ht) he) (hidx (List.ne_nil_of_mem hu) hf)
      t ht u hu

/-- The lock is granted only when no uncommitted item refers to the task. -/
theorem RaceInv.lockTask {s : RaceState} (h : RaceInv s) {taskId : ℕ} (settlement : Settlement)
    (hfree : s.keyShared taskId = false) :
    RaceInv { s with txs := s.txs ++ [.settle { taskId, settlement }] } := by
  have henqueue : ∀ {e}, Tx.enqueue e ∈ s.txs ++ [.settle { taskId, settlement }] →
      Tx.enqueue e ∈ s.txs := by
    intro e he
    rcases List.mem_append.mp he with he | he
    · exact he
    · cases List.mem_singleton.mp he
  have hidx : ∀ {m : ℕ} {e : EnqueueTx},
      (s.txs ++ [.settle { taskId, settlement }])[m]? = some (.enqueue e) →
      s.txs[m]? = some (.enqueue e) := by
    intro m e hm
    rw [List.getElem?_append] at hm
    split_ifs at hm with hlt
    · exact hm
    · cases List.mem_singleton.mp (List.mem_of_getElem? hm)
  refine ⟨h.items, fun e he => h.enqueue e (henqueue he), ?_, ?_, ?_⟩
  · intro t ht
    rcases List.mem_append.mp ht with ht | ht
    · exact h.settle t ht
    · cases List.mem_singleton.mp ht
      exact ⟨by simp, by simp⟩
  · intro e t he ht i hi
    rcases List.mem_append.mp ht with ht | ht
    · exact h.locks e t (henqueue he) ht i hi
    · cases List.mem_singleton.mp ht
      exact keyShared_eq_false.mp hfree e (henqueue he) i hi
  · intro n m e f hnm he hf
    exact h.apart n m e f hnm (hidx he) (hidx hf)

theorem RaceInv.readItems {s : RaceState} (h : RaceInv s) {n : ℕ} {t : SettleTx}
    (hn : s.txs[n]? = some (.settle t)) :
    RaceInv { s with txs := s.txs.set n (.settle { t with
      items := some (s.db.scanBatchItems.filter (·.taskId = t.taskId)) }) } := by
  have hmem : ∀ m tx, s.txs[m]? = some tx → tx ∈ s.txs := fun m tx => List.mem_of_getElem?
  refine ⟨h.items, ?_, ?_, ?_, ?_⟩
  · intro e he
    rcases Machine.mem_set_cases he with he | ⟨m, -, he⟩
    · cases he
    · exact h.enqueue e (hmem m _ he)
  · intro u hu
    rcases Machine.mem_set_cases hu with hu | ⟨m, -, hu⟩
    · cases hu
      refine ⟨?_, ?_⟩
      · rintro loaded ⟨⟩ i hi htask
        rw [List.any_eq_true]
        exact ⟨i, List.mem_filter.mpr ⟨hi, by simpa using htask⟩, by simp [ScanBatchItem.sameRow]⟩
      · rintro loaded ⟨⟩ j hj
        simpa using (List.mem_filter.mp hj).2
    · exact h.settle u (hmem m _ hu)
  · intro e u he hu i hi
    rcases Machine.mem_set_cases he with he | ⟨m, -, he⟩
    · cases he
    · rcases Machine.mem_set_cases hu with hu | ⟨k, -, hu⟩
      · cases hu
        exact h.locks e t (hmem m _ he) (hmem n _ hn) i hi
      · exact h.locks e u (hmem m _ he) (hmem k _ hu) i hi
  · intro a b e f hab he hf
    rcases Machine.getElem?_set_cases he with ⟨-, he⟩ | ⟨-, he⟩
    · cases he
    · rcases Machine.getElem?_set_cases hf with ⟨-, hf⟩ | ⟨-, hf⟩
      · cases hf
      · exact h.apart a b e f hab he hf

/-- What a committed settlement leaves: the task and its loaded items have the new
status, every other row keeps its key and status. -/
theorem SettleTx.commit_spec {t : SettleTx} {loaded : List ScanBatchItem} {wall : Timestamp}
    {db db' : Database} (h : t.commit loaded wall db = some db') :
    db'.sequences.scanTasks = db.sequences.scanTasks ∧
      (∃ g : ScanTask → ScanTask, db'.scanTasks = db.scanTasks.map g ∧
        ∀ row, (g row).id = row.id ∧
          (g row).status = if row.id = t.taskId then t.settlement.status else row.status) ∧
      db'.scanBatchItems = (setLoadedItems loaded t.settlement.status db).scanBatchItems := by
  obtain ⟨⟨fields, mid⟩, hwrite, rfl⟩ := Option.map_eq_some_iff.mp h
  obtain ⟨htasks, hitems, -, hseq, hfields⟩ := Settlement.write_frame hwrite
  refine ⟨hseq, ⟨_, congrArg (List.map _) htasks, ?_⟩, ?_⟩
  · intro row
    dsimp only
    split_ifs with hid
    · exact ⟨(hfields row).1, rfl⟩
    · exact ⟨rfl, rfl⟩
  · simp only [setLoadedItems, Database.updateTask]
    rw [hitems]

theorem RaceInv.commitSettle {s : RaceState} (h : RaceInv s) {n : ℕ} {t : SettleTx}
    (hn : s.txs[n]? = some (.settle t)) {loaded : List ScanBatchItem}
    (hloaded : t.items = some loaded) {wall : Timestamp} {db' : Database}
    (hcommit : t.commit loaded wall s.db = some db') : RaceInv ⟨db', s.txs.set n .done⟩ := by
  have hmem := List.mem_of_getElem? hn
  have hok := h.settle t hmem
  obtain ⟨hseq, ⟨g, htasks, hg⟩, hitems⟩ := SettleTx.commit_spec hcommit
  have hrows : ∀ i ∈ db'.scanBatchItems, ∃ j ∈ s.db.scanBatchItems, j.batchId = i.batchId ∧
      j.deviceId = i.deviceId ∧ j.taskId = i.taskId ∧
      i.status = if j.taskId = t.taskId then t.settlement.status else j.status := by
    intro i hi
    rw [hitems] at hi
    obtain ⟨j, hj, rfl⟩ := List.mem_map.mp hi
    refine ⟨j, hj, ?_⟩
    by_cases htask : j.taskId = t.taskId
    · rw [if_pos (hok.all loaded hloaded j hj htask), if_pos htask]
      exact ⟨rfl, rfl, rfl, rfl⟩
    · rw [if_neg htask, if_neg]
      · exact ⟨rfl, rfl, rfl, rfl⟩
      · intro hany
        obtain ⟨k, hk, hrow⟩ := List.any_eq_true.mp hany
        simp only [ScanBatchItem.sameRow, Bool.and_eq_true, decide_eq_true_eq] at hrow
        exact htask (hrow.2.trans (hok.only loaded hloaded k hk))
  have hids : db'.scanTasks.map (·.id) = s.db.scanTasks.map (·.id) := by
    rw [htasks, List.map_map]
    apply List.map_congr_left
    intro row _
    exact (hg row).1
  apply h.finish
  · refine ⟨?_, ?_, ?_⟩
    · rw [hids]
      exact h.items.nodup
    · intro row hrow
      rw [htasks] at hrow
      obtain ⟨row, hold, rfl⟩ := List.mem_map.mp hrow
      rw [(hg row).1, hseq]
      exact h.items.fresh row hold
    · intro i hi
      obtain ⟨j, hj, -, -, htask, hstatus⟩ := hrows i hi
      obtain ⟨row, hrow, hid, hsame⟩ := h.items.status j hj
      refine ⟨g row, by rw [htasks]; exact List.mem_map_of_mem hrow, ?_, ?_⟩
      · rw [(hg row).1, hid, htask]
      · rw [hstatus, (hg row).2, hid, hsame]
  · intro m e _ he
    apply (h.enqueue e (List.mem_of_getElem? he)).mono (le_of_eq hseq.symm)
    · intro row hrow
      refine ⟨g row, by rw [htasks]; exact List.mem_map_of_mem hrow, (hg row).1, ?_⟩
      rintro ⟨i, hi, hid⟩
      have hother := h.locks e t (List.mem_of_getElem? he) hmem i hi
      rw [(hg row).2, if_neg (by rw [← hid]; exact hother)]
    · intro row hrow
      exact Or.inl (hids ▸ List.mem_map_of_mem hrow)
  · intro m u _ hu
    apply (h.settle u (List.mem_of_getElem? hu)).mono
    intro i hi _
    obtain ⟨j, hj, hb, hd, ht, -⟩ := hrows i hi
    exact ⟨j, hj, hb, hd, ht⟩

/-! ## Runs -/

/-- One step that inserts no item with an outdated status keeps the invariant. -/
theorem RaceInv.step {queueSize : ℕ} {s s' : RaceState} {a : RaceAction} (h : RaceInv s)
    (hstill : statusStillRead s a) (hstep : s.step queueSize a = some s') : RaceInv s' := by
  cases a with
  | beginEnqueue batchId trigger priority deviceIds =>
    cases hstep
    exact h.begin batchId trigger priority (uniqueIds deviceIds)
  | enqueue n statement =>
    simp only [RaceState.step] at hstep
    split at hstep
    · rename_i e hn
      obtain ⟨r, hr, rfl⟩ := Option.map_eq_some_iff.mp hstep
      exact h.enqueueStatement hn hstill hr
    · cases hstep
  | commitEnqueue n =>
    simp only [RaceState.step] at hstep
    split at hstep
    · rename_i e hn
      split_ifs at hstep
      cases hstep
      exact h.commitEnqueue hn
    · cases hstep
  | lockTask workerId taskId now settlement =>
    simp only [RaceState.step] at hstep
    split_ifs at hstep with hfree
    obtain ⟨task, hheld, rfl⟩ := Option.map_eq_some_iff.mp hstep
    simp only [Bool.or_eq_true, not_or, Bool.not_eq_true] at hfree
    have hid : task.id = taskId := by
      have hp := List.find?_some hheld
      simp only [Bool.and_eq_true, decide_eq_true_eq] at hp
      exact hp.1
    rw [hid]
    exact h.lockTask settlement hfree.2
  | readItems n =>
    simp only [RaceState.step] at hstep
    split at hstep
    · rename_i t hn
      split_ifs at hstep
      cases hstep
      exact h.readItems hn
    · cases hstep
  | commitSettle n wall =>
    simp only [RaceState.step] at hstep
    split at hstep
    · rename_i t hn
      split at hstep
      · cases hstep
      · rename_i loaded hloaded
        obtain ⟨db', hcommit, rfl⟩ := Option.map_eq_some_iff.mp hstep
        exact h.commitSettle hn hloaded hcommit
    · cases hstep
  | rollback n =>
    cases hstep
    exact h.rollback n

/-- In every interleaving in which each item is inserted while its task still has the
status that was read, every state reached has all items in step with their tasks. -/
theorem items_follow_when_status_still_read {queueSize : ℕ} {db₀ : Database}
    (h₀ : ItemsFollow db₀) {actions : List RaceAction} {s : RaceState}
    (hmeets : Machine.Meets (RaceState.step queueSize) (statusStillRead · ·) ⟨db₀, []⟩ actions)
    (hrun : Machine.run (RaceState.step queueSize) ⟨db₀, []⟩ actions = some s) :
    ItemsFollow s.db := by
  have hstart : RaceInv ⟨db₀, []⟩ :=
    ⟨h₀, by simp, by simp, by simp, by simp⟩
  have hinv := Machine.run_invariant_of_meets RaceInv
    (fun _ _ _ hs hcond hstep => RaceInv.step hs hcond hstep) actions _ s hstart hmeets hrun
  exact hinv.items

/-- One running task, held by a worker, and no item yet. -/
def oneRunningTask : Database where
  devices := [{ id := 1, name := "web-01", host := "10.0.0.10" }]
  scanTasks := [
    { id := 1, deviceId := 1, triggerType := .manual, priority := 100, status := .running,
      workerId := some "worker-a", leaseExpiresAt := some 90 }]
  sequences := { scanTasks := 2 }

/-- A batch reads the running task; the task is settled before the item is inserted. -/
def lateItemActions : List RaceAction :=
  [.beginEnqueue (some 7) .batch 80 [1], .enqueue 0 .readTask, .enqueue 0 .attach,
    .lockTask "worker-a" 1 5 .fail, .readItems 1, .commitSettle 1 9,
    .enqueue 0 .beginFlush, .enqueue 0 .insertItem, .commitEnqueue 0]

theorem item_left_behind :
    ItemsFollow oneRunningTask ∧
      ∃ s, Machine.run (RaceState.step 10) ⟨oneRunningTask, []⟩ lateItemActions = some s ∧
        s.Quiescent ∧ ∃ i ∈ s.db.scanBatchItems, ∃ t ∈ s.db.scanTasks,
          t.id = i.taskId ∧ t.status = .failed ∧ i.status = .running := by
  obtain ⟨s, hs⟩ : ∃ s, Machine.run (RaceState.step 10) ⟨oneRunningTask, []⟩ lateItemActions =
    some s := ⟨_, rfl⟩
  refine ⟨⟨by decide, by decide, by decide⟩, s, hs, ?_, ?_⟩
  · cases hs
    decide
  · cases hs
    decide

/-- The same batch flushes before the settlement starts. -/
def earlyItemActions : List RaceAction :=
  [.beginEnqueue (some 7) .batch 80 [1], .enqueue 0 .readTask, .enqueue 0 .attach,
    .enqueue 0 .beginFlush, .enqueue 0 .insertItem, .commitEnqueue 0,
    .lockTask "worker-a" 1 5 .fail, .readItems 1, .commitSettle 1 9]

theorem early_item_follows_its_task :
    ∃ s, Machine.run (RaceState.step 10) ⟨oneRunningTask, []⟩ earlyItemActions = some s ∧
      s.Quiescent ∧ s.db.scanBatchItems.map (·.status) = [.failed] ∧ ItemsFollow s.db := by
  obtain ⟨s, hs⟩ : ∃ s, Machine.run (RaceState.step 10) ⟨oneRunningTask, []⟩ earlyItemActions =
    some s := ⟨_, rfl⟩
  have h₀ : ItemsFollow oneRunningTask := ⟨by decide, by decide, by decide⟩
  have hmeets : Machine.Meets (RaceState.step 10) (statusStillRead · ·) ⟨oneRunningTask, []⟩
      earlyItemActions := by decide
  refine ⟨s, hs, ?_, ?_, items_follow_when_status_still_read h₀ hmeets hs⟩
  · cases hs
    decide
  · cases hs
    decide

end ConnectionTopology
