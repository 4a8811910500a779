import ConnectionTopology.ScanQueue.EnqueueProgress

/-!
# Concurrent requests join one task

Two calls that look up a device without an active task both go on to insert one. The first
to commit wins; the `INSERT` of the other meets a committed row and the whole call fails,
be it one device or a large batch. In every run in which no insert comes too late and no call
is a deadlock victim in all its attempts, every call succeeds with the device's single task.
-/
namespace ConnectionTopology

/-! ## Condition and property -/

/-- The claim's setting: the queue has room whenever it is asked. -/
def EnqueueRace.hasRoom (queueSize : ℕ) (s : EnqueueRace) : EnqueueAction → Bool
  | .begin n =>
    match s.calls[n]? with
    | some { call := .batch _ deviceIds _, .. } =>
      batchFits queueSize s.race.db (selectedIds s.race.db deviceIds)
    | _ => true
  | .statement n (.insertTask _) =>
    match s.calls[n]? with
    | some { stage := .running k _ _, .. } =>
      match s.race.txs[k]? with
      | some (.enqueue e) => activeCount (e.visible s.race.db) < queueSize
      | _ => true
    | _ => true
  | _ => true

/-- No insert comes after another call has committed a task for its device, and no call is
aborted in its last attempt. -/
def EnqueueRace.insertsInTime (s : EnqueueRace) : EnqueueAction → Bool
  | .statement n (.insertTask _) =>
    match s.calls[n]? with
    | some { stage := .running k _ _, .. } =>
      match s.race.txs[k]? with
      | some (.enqueue { stage := .missing deviceId, .. }) => (activeTask s.race.db deviceId).isNone
      | _ => true
    | _ => true
  | .abort n =>
    match s.calls[n]? with
    | some r => r.attempts + 1 < maxAttempts
    | none => true
  | _ => true

/-- The call returned the device's single active task, or a batch with an item for each of
its devices. -/
def EnqueueCall.Succeeded (db : Database) : EnqueueCall → EnqueueResult → Prop
  | .device deviceId _ _, .task taskId =>
    ∃ t ∈ db.scanTasks, t.id = taskId ∧ t.deviceId = deviceId ∧ t.status.isActive = true ∧
      ∀ u ∈ db.scanTasks, u.deviceId = deviceId → u.status.isActive = true → u = t
  | .batch _ deviceIds _, .batch batchId =>
    (∃ b ∈ db.scanBatches, b.id = batchId) ∧
      ∀ deviceId ∈ deviceIds, ∃ i ∈ db.scanBatchItems, i.batchId = batchId ∧ i.deviceId = deviceId
  | _, _ => False


/-! ## One active task per device -/

/-- Committed and uncommitted active tasks of one device are one task. -/
structure RaceState.OneTask (s : RaceState) : Prop where
  committed : ∀ t ∈ s.db.scanTasks, ∀ u ∈ s.db.scanTasks, t.status.isActive = true →
    u.status.isActive = true → t.deviceId = u.deviceId → t = u
  own_committed : ∀ (k : ℕ) (e : EnqueueTx), s.txs[k]? = some (.enqueue e) → ∀ t ∈ e.ownTasks,
    ∀ u ∈ s.db.scanTasks, u.status.isActive = true → u.deviceId ≠ t.deviceId
  own_own : ∀ (k l : ℕ) (e f : EnqueueTx), s.txs[k]? = some (.enqueue e) →
    s.txs[l]? = some (.enqueue f) → ∀ t ∈ e.ownTasks, ∀ u ∈ f.ownTasks,
    t.deviceId = u.deviceId → k = l ∧ t = u

variable {queueSize : ℕ} {s s' : RaceState} {e e' : EnqueueTx} {db : Database} {k : ℕ}

theorem RaceState.OneTask.of_sub (h : s.OneTask) (hdb : s'.db.scanTasks = s.db.scanTasks)
    (hown : ∀ (k : ℕ) (e' : EnqueueTx), s'.txs[k]? = some (.enqueue e') → ∀ t ∈ e'.ownTasks,
      ∃ e, s.txs[k]? = some (.enqueue e) ∧ t ∈ e.ownTasks) : s'.OneTask where
  committed := hdb ▸ h.committed
  own_committed k e' he' t ht := by
    obtain ⟨e, he, hmem⟩ := hown k e' he' t ht
    rw [hdb]
    exact h.own_committed k e he t hmem
  own_own k l e' f' he' hf' t ht u hu := by
    obtain ⟨e, he, hte⟩ := hown k e' he' t ht
    obtain ⟨f, hf, huf⟩ := hown l f' hf' u hu
    exact h.own_own k l e f he hf t hte u huf

theorem RaceState.OneTask.done (h : s.OneTask) (k : ℕ) :
    RaceState.OneTask { s with txs := s.txs.set k .done } := by
  refine h.of_sub rfl ?_
  intro l e' he' t ht
  rcases Machine.getElem?_set_cases he' with ⟨-, heq⟩ | ⟨-, hl⟩
  · cases heq
  · exact ⟨e', hl, ht⟩

theorem RaceState.OneTask.begin (h : s.OneTask) (hdb : db.scanTasks = s.db.scanTasks)
    (hown : e.ownTasks = []) : RaceState.OneTask ⟨db, s.txs ++ [.enqueue e]⟩ := by
  refine h.of_sub hdb ?_
  intro l e' he' t ht
  rcases Machine.getElem?_append_cases he' with hl | ⟨-, heq⟩
  · exact ⟨e', hl, ht⟩
  · cases heq
    simp [hown] at ht

/-- `deviceFree`: no committed active task, and no uncommitted one. -/
theorem RaceState.deviceFree_spec {deviceId : ℕ} (h : s.deviceFree deviceId = true) :
    (∀ u ∈ s.db.scanTasks, u.status.isActive = true → u.deviceId ≠ deviceId) ∧
      ∀ (k : ℕ) (e : EnqueueTx), s.txs[k]? = some (.enqueue e) → ∀ t ∈ e.ownTasks,
        t.deviceId ≠ deviceId := by
  simp only [RaceState.deviceFree, Bool.and_eq_true, Option.isNone_iff_eq_none, activeTask,
    List.find?_eq_none, List.all_eq_true, decide_eq_true_eq, not_and] at h
  obtain ⟨hdb, htxs⟩ := h
  constructor
  · intro u hu hactive hdevice
    exact hdb u hu hdevice hactive
  · intro k e he t ht
    have hall := htxs _ (List.mem_of_getElem? he)
    simp only [List.all_eq_true, decide_eq_true_eq, ne_eq] at hall
    exact hall t ht

theorem EnqueueTx.attach_ownTasks (e : EnqueueTx) (db : Database) (task : ScanTask) :
    (e.attach db task).ownTasks = e.ownTasks := by
  unfold EnqueueTx.attach
  split
  · rfl
  · split_ifs <;> rfl

/-- One statement adds at most a task of a device that was free. -/
theorem EnqueueTx.Moved.ownTasks_cases (h : e.Moved s e') :
    e'.ownTasks = e.ownTasks ∨
      ∃ task, e'.ownTasks = e.ownTasks ++ [task] ∧ s.deviceFree task.deviceId = true := by
  cases h with
  | inserted deviceId task hstage hfree hdevice hactive =>
    right
    exact ⟨task, rfl, by rw [hdevice]; exact hfree⟩
  | attached task hstage => exact Or.inl (attach_ownTasks e s.db task)
  | _ => exact Or.inl rfl

theorem RaceState.OneTask.moved (h : s.OneTask) (hk : s.txs[k]? = some (.enqueue e))
    (hmoved : e.Moved s e') (hdb : db.scanTasks = s.db.scanTasks) :
    RaceState.OneTask ⟨db, s.txs.set k (.enqueue e')⟩ := by
  rcases hmoved.ownTasks_cases with hsame | ⟨task, hown, hfree⟩
  · refine h.of_sub hdb ?_
    intro l f' hf' t ht
    rcases Machine.getElem?_set_cases hf' with ⟨rfl, heq⟩ | ⟨-, hl⟩
    · cases heq
      exact ⟨e, hk, hsame ▸ ht⟩
    · exact ⟨f', hl, ht⟩
  · obtain ⟨hcommitted, hothers⟩ := RaceState.deviceFree_spec hfree
    -- Each task of the new state is an old one or the new one of this transaction.
    have hcases : ∀ (l : ℕ) (f' : EnqueueTx),
        (s.txs.set k (.enqueue e'))[l]? = some (.enqueue f') → ∀ t ∈ f'.ownTasks,
        (∃ f, s.txs[l]? = some (.enqueue f) ∧ t ∈ f.ownTasks) ∨ (l = k ∧ t = task) := by
      intro l f' hf' t ht
      rcases Machine.getElem?_set_cases hf' with ⟨rfl, heq⟩ | ⟨-, hl⟩
      · cases heq
        rw [hown] at ht
        rcases List.mem_append.mp ht with ht | ht
        · exact Or.inl ⟨e, hk, ht⟩
        · exact Or.inr ⟨rfl, List.mem_singleton.mp ht⟩
      · exact Or.inl ⟨f', hl, ht⟩
    constructor
    · exact hdb ▸ h.committed
    · intro l f' hf' t ht u hu
      rw [hdb] at hu
      rcases hcases l f' hf' t ht with ⟨f, hf, hmem⟩ | ⟨-, rfl⟩
      · exact h.own_committed l f hf t hmem u hu
      · exact hcommitted u hu
    · intro l m f' g' hf' hg' t ht u hu hdevice
      rcases hcases l f' hf' t ht with ⟨f, hf, hft⟩ | ⟨rfl, rfl⟩
      · rcases hcases m g' hg' u hu with ⟨g, hg, hgu⟩ | ⟨rfl, rfl⟩
        · exact h.own_own l m f g hf hg t hft u hgu hdevice
        · exact absurd hdevice (hothers l f hf t hft)
      · rcases hcases m g' hg' u hu with ⟨g, hg, hgu⟩ | ⟨rfl, rfl⟩
        · exact absurd hdevice.symm (hothers m g hg u hgu)
        · exact ⟨rfl, rfl⟩

/-- Where a committed row of the new state comes from. -/
theorem EnqueueTx.mem_commit_scanTasks {t : ScanTask} (ht : t ∈ (e.commit db).scanTasks) :
    (∃ t₀ ∈ db.scanTasks, t.status = t₀.status ∧ t.deviceId = t₀.deviceId ∧
        t = if t₀.id ∈ e.raised then { t₀ with priority := e.priority, triggerType := e.trigger }
          else t₀) ∨ t ∈ e.ownTasks := by
  rcases List.mem_append.mp ht with ht | ht
  · left
    obtain ⟨t₀, ht₀, rfl⟩ := List.mem_map.mp ht
    refine ⟨t₀, ht₀, ?_⟩
    split_ifs <;> exact ⟨rfl, rfl, rfl⟩
  · exact Or.inr ht

theorem RaceState.OneTask.commit (h : s.OneTask) (hk : s.txs[k]? = some (.enqueue e))
    (hdb : db.scanTasks = (e.commit s.db).scanTasks) :
    RaceState.OneTask ⟨db, s.txs.set k .done⟩ := by
  have hothers : ∀ (l : ℕ) (f : EnqueueTx), (s.txs.set k .done)[l]? = some (.enqueue f) →
      l ≠ k ∧ s.txs[l]? = some (.enqueue f) := by
    intro l f hf
    rcases Machine.getElem?_set_cases hf with ⟨-, heq⟩ | hl
    · cases heq
    · exact hl
  constructor
  · intro t ht u hu htactive huactive hdevice
    rcases e.mem_commit_scanTasks (hdb ▸ ht) with ⟨t₀, ht₀, hts, htd, rfl⟩ | htown
    · rcases e.mem_commit_scanTasks (hdb ▸ hu) with ⟨u₀, hu₀, hus, hud, rfl⟩ | huown
      · have heq : t₀ = u₀ := h.committed t₀ ht₀ u₀ hu₀ (hts ▸ htactive) (hus ▸ huactive)
          (htd.symm.trans (hdevice.trans hud))
        rw [heq]
      · exact absurd (htd.symm.trans hdevice) (h.own_committed k e hk u huown t₀ ht₀ (hts ▸ htactive))
    · rcases e.mem_commit_scanTasks (hdb ▸ hu) with ⟨u₀, hu₀, hus, hud, rfl⟩ | huown
      · exact absurd (hud.symm.trans hdevice.symm)
          (h.own_committed k e hk t htown u₀ hu₀ (hus ▸ huactive))
      · exact (h.own_own k k e e hk hk t htown u huown hdevice).2
  · intro l f hf t ht u hu huactive hdevice
    obtain ⟨hne, hl⟩ := hothers l f hf
    rcases e.mem_commit_scanTasks (hdb ▸ hu) with ⟨u₀, hu₀, hus, hud, rfl⟩ | huown
    · exact h.own_committed l f hl t ht u₀ hu₀ (hus ▸ huactive) (hud.symm.trans hdevice)
    · exact hne (h.own_own k l e f hk hl u huown t ht hdevice).1.symm
  · intro l m f g hf hg
    exact h.own_own l m f g (hothers l f hf).2 (hothers m g hg).2

/-! ## The calls -/

/-- `Succeeded`, less the uniqueness of the task. -/
def EnqueueCall.Reached (db : Database) : EnqueueCall → EnqueueResult → Prop
  | .device deviceId _ _, .task taskId =>
    ∃ t ∈ db.scanTasks, t.id = taskId ∧ t.deviceId = deviceId ∧ t.status.isActive = true
  | .batch _ deviceIds _, .batch batchId =>
    (∃ b ∈ db.scanBatches, b.id = batchId) ∧
      ∀ deviceId ∈ deviceIds, ∃ i ∈ db.scanBatchItems, i.batchId = batchId ∧ i.deviceId = deviceId
  | _, _ => False

/-- What holds of a call at its stage. -/
inductive EnqueueRecord.Ok (s : RaceState) : EnqueueCall → EnqueueCallStage → Prop
  | waiting (call : EnqueueCall) : Ok s call .waiting
  | admitted (batchType : ScanBatchType) (deviceIds selected : List ℕ) (clusterId : Option ℕ)
      (hsub : ∀ id ∈ deviceIds, id ∈ selected) :
      Ok s (.batch batchType deviceIds clusterId) (.admitted selected)
  | device (deviceId : ℕ) (trigger : ScanTrigger) (priority : ℤ) (k : ℕ) (taskId : Option ℕ)
      (e : EnqueueTx) (hk : s.txs[k]? = some (.enqueue e))
      (hfor : e.ForDevice s.db deviceId taskId) :
      Ok s (.device deviceId trigger priority) (.running k none taskId)
  | batch (batchType : ScanBatchType) (deviceIds : List ℕ) (clusterId : Option ℕ) (k : ℕ)
      (batch : ScanBatch) (taskId : Option ℕ) (e : EnqueueTx) (hk : s.txs[k]? = some (.enqueue e))
      (hfor : e.ForBatch s.db batch.id deviceIds) :
      Ok s (.batch batchType deviceIds clusterId) (.running k (some batch) taskId)
  | returned (call : EnqueueCall) (result : EnqueueResult) (hreached : call.Reached s.db result) :
      Ok s call (.returned result)

/-- The transaction of a running call. -/
def EnqueueCallStage.tx? : EnqueueCallStage → Option ℕ
  | .running k _ _ => some k
  | _ => none

theorem EnqueueRecord.Ok.tx_lt {call : EnqueueCall} {stage : EnqueueCallStage}
    (h : EnqueueRecord.Ok s call stage) (hk : stage.tx? = some k) : k < s.txs.length := by
  cases h with
  | device _ _ _ l _ _ hl =>
    cases hk
    exact (List.getElem?_eq_some_iff.mp hl).1
  | batch _ _ _ l _ _ _ hl =>
    cases hk
    exact (List.getElem?_eq_some_iff.mp hl).1
  | _ => cases hk

theorem EnqueueCall.Reached.mono {db' : Database} {call : EnqueueCall} {result : EnqueueResult}
    (h : call.Reached db result) (hgrows : db.Grows db') : call.Reached db' result := by
  match call, result, h with
  | .device _ _ _, .task _, ⟨t, ht, hid, hdevice, hactive⟩ =>
    obtain ⟨t', ht', hid', hdevice', hstatus'⟩ := hgrows.tasks t ht
    exact ⟨t', ht', hid'.trans hid, hdevice'.trans hdevice, by rw [hstatus', hactive]⟩
  | .batch _ _ _, .batch _, ⟨⟨b, hb, hid⟩, hitems⟩ =>
    constructor
    · obtain ⟨b', hb', hid'⟩ := hgrows.batches b hb
      exact ⟨b', hb', hid'.trans hid⟩
    · intro deviceId hdevice
      obtain ⟨i, hi, hkey⟩ := hitems deviceId hdevice
      exact ⟨i, hgrows.items i hi, hkey⟩

/-- Other transactions move and commit; this call's own stays. -/
theorem EnqueueRecord.Ok.frame {call : EnqueueCall} {stage : EnqueueCallStage}
    (h : EnqueueRecord.Ok s call stage) (hgrows : s.db.Grows s'.db)
    (htxs : ∀ k, stage.tx? = some k → s'.txs[k]? = s.txs[k]?) :
    EnqueueRecord.Ok s' call stage := by
  cases h with
  | waiting => exact .waiting call
  | admitted _ _ _ _ hsub => exact .admitted _ _ _ _ hsub
  | device _ _ _ k _ e hk hfor =>
    exact .device _ _ _ k _ e ((htxs k rfl).trans hk) (hfor.mono hgrows)
  | batch _ _ _ k _ _ e hk hfor =>
    exact .batch _ _ _ k _ _ e ((htxs k rfl).trans hk) (hfor.mono hgrows)
  | returned _ _ hreached => exact .returned _ _ (hreached.mono hgrows)

structure EnqueueRace.Inv (s : EnqueueRace) : Prop where
  tasks : s.race.OneTask
  devices : ∀ r ∈ s.calls, ∀ id ∈ r.call.deviceIds,
    ∃ d ∈ s.race.db.devices, d.id = id ∧ d.collectionEnabled = true
  calls : ∀ r ∈ s.calls, EnqueueRecord.Ok s.race r.call r.stage
  apart : ∀ (n m : ℕ) (r q : EnqueueRecord) (k : ℕ), s.calls[n]? = some r → s.calls[m]? = some q →
    r.stage.tx? = some k → q.stage.tx? = some k → n = m

/-- One call goes on, and only its own transaction moves. -/
theorem EnqueueRace.Inv.update {s : EnqueueRace} (h : s.Inv) {n : ℕ} {r r' : EnqueueRecord}
    (hr : s.calls[n]? = some r) (hcall : r'.call = r.call) (htasks : s'.OneTask)
    (hgrows : s.race.db.Grows s'.db)
    (hothers : ∀ k, r.stage.tx? ≠ some k → k < s.race.txs.length → s'.txs[k]? = s.race.txs[k]?)
    (hok : EnqueueRecord.Ok s' r'.call r'.stage)
    (htx : ∀ k, r'.stage.tx? = some k → r.stage.tx? = some k ∨ s.race.txs.length ≤ k) :
    EnqueueRace.Inv ⟨s', s.calls.set n r'⟩ := by
  have hne : ∀ (m : ℕ) (q : EnqueueRecord), m ≠ n → s.calls[m]? = some q →
      ∀ k, q.stage.tx? = some k → r.stage.tx? ≠ some k ∧ k < s.race.txs.length := by
    intro m q hmn hq k hk
    exact ⟨fun hrk => hmn (h.apart m n q r k hq hr hk hrk),
      (h.calls q (List.mem_of_getElem? hq)).tx_lt hk⟩
  have hnew : ∀ (m : ℕ) (q : EnqueueRecord) (k : ℕ), m ≠ n → s.calls[m]? = some q →
      q.stage.tx? = some k → r'.stage.tx? ≠ some k := by
    intro m q k hmn hq hk hk'
    obtain ⟨hrk, hlt⟩ := hne m q hmn hq k hk
    rcases htx k hk' with hold | hge
    · exact hrk hold
    · omega
  constructor
  · exact htasks
  · intro q hq id hid
    simp only [hgrows.devices]
    rcases Machine.mem_set_cases hq with rfl | ⟨m, -, hm⟩
    · exact h.devices r (List.mem_of_getElem? hr) id (hcall ▸ hid)
    · exact h.devices q (List.mem_of_getElem? hm) id hid
  · intro q hq
    rcases Machine.mem_set_cases hq with rfl | ⟨m, hmn, hm⟩
    · exact hok
    · refine (h.calls q (List.mem_of_getElem? hm)).frame hgrows ?_
      intro k hk
      obtain ⟨hrk, hlt⟩ := hne m q hmn hm k hk
      exact hothers k hrk hlt
  · intro i j p q k hi hj hp hq
    rcases Machine.getElem?_set_cases hi with ⟨hin, rfl⟩ | ⟨hin, hip⟩
    · rcases Machine.getElem?_set_cases hj with ⟨hjn, -⟩ | ⟨hjn, hjq⟩
      · exact hin.trans hjn.symm
      · exact absurd hp (hnew j q k hjn hjq hq)
    · rcases Machine.getElem?_set_cases hj with ⟨-, rfl⟩ | ⟨-, hjq⟩
      · exact absurd hq (hnew i p k hin hip hp)
      · exact h.apart i j p q k hip hjq hp hq

/-! ## One step -/

theorem EnqueueRace.Inv.call {s : EnqueueRace} (h : s.Inv) {process : ℕ} {call : EnqueueCall}
    (hvalid : call.valid s.race.db = true) :
    EnqueueRace.Inv { s with calls := s.calls ++ [{ process, call }] } := by
  constructor
  · exact h.tasks
  · intro r hr id hid
    rcases List.mem_append.mp hr with hr | hr
    · exact h.devices r hr id hid
    · rw [List.mem_singleton.mp hr] at hid
      simp only [EnqueueCall.valid, Bool.and_eq_true, List.all_eq_true, List.any_eq_true,
        decide_eq_true_eq] at hvalid
      exact hvalid.1 id hid
  · intro r hr
    rcases List.mem_append.mp hr with hr | hr
    · exact h.calls r hr
    · rw [List.mem_singleton.mp hr]
      exact .waiting call
  · intro n m r q k hn hm hr hq
    rcases Machine.getElem?_append_cases hn with hn | ⟨-, rfl⟩
    · rcases Machine.getElem?_append_cases hm with hm | ⟨-, rfl⟩
      · exact h.apart n m r q k hn hm hr hq
      · cases hq
    · cases hr

theorem EnqueueRace.Inv.beginTx {s : EnqueueRace} (h : s.Inv) {n : ℕ} {r : EnqueueRecord}
    (hr : s.calls[n]? = some r) {batch : Option ScanBatch}
    (hgrows : s.race.db.Grows db) (htasks : db.scanTasks = s.race.db.scanTasks)
    (hown : e.ownTasks = [])
    (hok : EnqueueRecord.Ok ⟨db, s.race.txs ++ [.enqueue e]⟩ r.call
      (.running s.race.txs.length batch none)) :
    (s.beginTx n r db e batch).Inv := by
  refine h.update hr rfl (h.tasks.begin htasks hown) hgrows ?_ hok ?_
  · intro k _ hlt
    exact List.getElem?_append_left hlt
  · intro k hk
    cases hk
    exact Or.inr le_rfl

theorem EnqueueRace.Inv.begin {s t : EnqueueRace} (h : s.Inv) {n : ℕ}
    (hroom : s.hasRoom queueSize (.begin n) = true)
    (hstep : s.step queueSize (.begin n) = some t) : t.Inv := by
  simp only [EnqueueRace.step] at hstep
  split at hstep
  · rename_i r hr
    split at hstep
    · rename_i deviceId trigger priority hstage hcall
      cases hstep
      refine h.beginTx hr (.refl _) rfl rfl ?_
      rw [hcall]
      refine .device _ _ _ _ _ _ List.getElem?_concat_length ?_
      exact ⟨rfl, by simp, by simp [EnqueueStage.deviceId?], by simp [EnqueueTx.Holds], by simp⟩
    · rename_i batchType deviceIds clusterId hstage hcall
      split_ifs at hstep with hfits
      · cases hstep
        refine h.update hr rfl h.tasks (.refl _) (fun _ _ _ => rfl) ?_ (by simp [EnqueueCallStage.tx?])
        rw [hcall]
        apply EnqueueRecord.Ok.admitted
        intro id hid
        have hdevice := h.devices r (List.mem_of_getElem? hr) id
          (by rw [hcall]; exact hid)
        exact mem_selectedIds.mpr ⟨hid, hdevice⟩
      · exfalso
        apply hfits
        obtain ⟨process, call, attempts, stage⟩ := r
        cases hcall
        simpa [EnqueueRace.hasRoom, hr] using hroom
    · cases hstep
  · cases hstep

theorem EnqueueRace.Inv.insertBatch {s t : EnqueueRace} (h : s.Inv) {n : ℕ} {wall : Timestamp}
    (hstep : s.step queueSize (.insertBatch n wall) = some t) : t.Inv := by
  simp only [EnqueueRace.step] at hstep
  split at hstep
  · rename_i r hr
    split at hstep
    · rename_i selected batchType deviceIds clusterId hstage hcall
      cases hstep
      have hok := h.calls r (List.mem_of_getElem? hr)
      rw [hstage, hcall] at hok
      obtain ⟨⟩ | ⟨_, _, _, _, hsub⟩ := hok
      refine h.beginTx hr (.of_eq rfl rfl rfl rfl) rfl rfl ?_
      rw [hcall]
      refine .batch _ _ _ _ _ _ _ List.getElem?_concat_length ?_
      exact ⟨rfl, by simp, fun id hid => Or.inl (hsub id hid)⟩
    · cases hstep
  · cases hstep

/-- One statement of the transaction behind a call. -/
theorem RaceState.step_enqueue {statement : EnqueueStatement} (hk : s.txs[k]? = some (.enqueue e))
    (hstep : s.step queueSize (.enqueue k statement) = some s') :
    ∃ r, e.step queueSize s statement = some r ∧ s' = ⟨r.1, s.txs.set k (.enqueue r.2)⟩ := by
  simp only [RaceState.step, hk, Option.map_eq_some_iff] at hstep
  obtain ⟨r, hr, rfl⟩ := hstep
  exact ⟨r, hr, rfl⟩

/-- The call goes on with its transaction moved by one statement. -/
theorem EnqueueRace.Inv.moved {s : EnqueueRace} (h : s.Inv) {n : ℕ} {r : EnqueueRecord}
    (r' : EnqueueRecord) (hr : s.calls[n]? = some r) (hcall : r'.call = r.call) (htx : r.stage.tx? = some k)
    (htx' : r'.stage.tx? = some k) (hk : s.race.txs[k]? = some (.enqueue e))
    {statement : EnqueueStatement} {x : Database × EnqueueTx}
    (hx : e.step queueSize s.race statement = some x)
    (hok : e.Moved s.race x.2 → s.race.db.Grows x.1 →
      EnqueueRecord.Ok ⟨x.1, s.race.txs.set k (.enqueue x.2)⟩ r'.call r'.stage) :
    EnqueueRace.Inv ⟨⟨x.1, s.race.txs.set k (.enqueue x.2)⟩, s.calls.set n r'⟩ := by
  obtain ⟨hmoved, htasks, hitems, hbatches, hdevices⟩ := EnqueueTx.step_moved hx
  have hgrows : s.race.db.Grows x.1 := .of_eq htasks hitems hbatches hdevices
  refine h.update hr hcall (h.tasks.moved hk hmoved htasks) hgrows ?_ (hok hmoved hgrows) ?_
  · intro l hl _
    have hne : k ≠ l := fun heq => hl (heq ▸ htx)
    exact List.getElem?_set_ne hne
  · intro l hl
    exact Or.inl (htx.trans (htx'.symm.trans hl))

theorem EnqueueRecord.Ok.moved {call : EnqueueCall} {batch : Option ScanBatch} {taskId : Option ℕ}
    (h : EnqueueRecord.Ok s call (.running k batch taskId)) (hk : s.txs[k]? = some (.enqueue e))
    (hmoved : e.Moved s e') (hgrows : s.db.Grows db) :
    EnqueueRecord.Ok ⟨db, s.txs.set k (.enqueue e')⟩ call (.running k batch taskId) := by
  have hset : (s.txs.set k (.enqueue e'))[k]? = some (.enqueue e') :=
    List.getElem?_set_self (List.getElem?_eq_some_iff.mp hk).1
  cases h with
  | device _ _ _ _ _ f hf hfor =>
    obtain rfl : e = f := by simpa [hk] using hf
    exact .device _ _ _ _ _ e' hset ((hmoved.forDevice hfor).mono hgrows)
  | batch _ _ _ _ _ _ f hf hfor =>
    obtain rfl : e = f := by simpa [hk] using hf
    exact .batch _ _ _ _ _ _ e' hset ((hmoved.forBatch hfor).mono hgrows)

theorem EnqueueTx.step_attach {x : Database × EnqueueTx}
    (h : e.step queueSize s .attach = some x) :
    ∃ task, e.stage = .holding task ∧ x = (s.db, e.attach s.db task) := by
  simp only [EnqueueTx.step] at h
  split at h
  · rename_i task hstage
    cases h
    exact ⟨task, hstage, rfl⟩
  · cases h

/-- After `_attach_batch_item` the call has its result. -/
theorem EnqueueRecord.Ok.attached {call : EnqueueCall} {batch : Option ScanBatch}
    {taskId : Option ℕ} {task : ScanTask}
    (h : EnqueueRecord.Ok s call (.running k batch taskId)) (hk : s.txs[k]? = some (.enqueue e))
    (hstage : e.stage = .holding task) :
    EnqueueRecord.Ok ⟨s.db, s.txs.set k (.enqueue (e.attach s.db task))⟩ call
      (.running k batch e.returnedTask) := by
  have hset : (s.txs.set k (.enqueue (e.attach s.db task)))[k]? =
      some (.enqueue (e.attach s.db task)) :=
    List.getElem?_set_self (List.getElem?_eq_some_iff.mp hk).1
  cases h with
  | device _ _ _ _ _ f hf hfor =>
    obtain rfl : e = f := by simpa [hk] using hf
    exact .device _ _ _ _ _ _ hset (hfor.attached hstage)
  | batch _ _ _ _ _ _ f hf hfor =>
    obtain rfl : e = f := by simpa [hk] using hf
    exact .batch _ _ _ _ _ _ _ hset ((EnqueueTx.Moved.attached task hstage).forBatch hfor)

/-- The call keeps its record while its transaction moves. -/
theorem EnqueueRace.Inv.statement_race {s t : EnqueueRace} (h : s.Inv) {n : ℕ} {r : EnqueueRecord}
    (hr : s.calls[n]? = some r) {batch : Option ScanBatch} {taskId : Option ℕ}
    (hstage : r.stage = .running k batch taskId) (hk : s.race.txs[k]? = some (.enqueue e))
    {statement : EnqueueStatement}
    (hstep : ((s.race.step queueSize (.enqueue k statement)).map fun race => { s with race }) =
      some t) : t.Inv := by
  obtain ⟨race, hrace, rfl⟩ := Option.map_eq_some_iff.mp hstep
  obtain ⟨x, hx, rfl⟩ := RaceState.step_enqueue hk hrace
  have hok := h.calls r (List.mem_of_getElem? hr)
  rw [hstage] at hok
  have hinv := h.moved r hr rfl (by rw [hstage]; rfl) (by rw [hstage]; rfl) hk hx
    (fun hmoved hgrows => by rw [hstage]; exact hok.moved hk hmoved hgrows)
  rwa [Machine.set_of_getElem? hr] at hinv

/-- Under the two conditions an insert raises nothing. -/
theorem EnqueueRace.insertError_none {s : EnqueueRace} {n : ℕ} {r : EnqueueRecord}
    (hr : s.calls[n]? = some r) {batch : Option ScanBatch} {taskId : Option ℕ} {wall : Timestamp}
    (hstage : r.stage = .running k batch taskId) (hk : s.race.txs[k]? = some (.enqueue e))
    (hroom : s.hasRoom queueSize (.statement n (.insertTask wall)) = true)
    (htime : s.insertsInTime (.statement n (.insertTask wall)) = true) :
    e.insertError queueSize s.race.db = none := by
  obtain ⟨process, call, attempts, stage⟩ := r
  cases hstage
  simp only [EnqueueRace.hasRoom, EnqueueRace.insertsInTime, hr, hk, decide_eq_true_eq] at hroom htime
  unfold EnqueueTx.insertError
  split
  · rename_i deviceId hmissing
    obtain ⟨batchId, trigger, priority, todo, estage⟩ := e
    cases hmissing
    rw [if_neg (by omega), if_neg]
    simpa using htime
  · rfl

theorem EnqueueRace.Inv.statement {s t : EnqueueRace} (h : s.Inv) {n : ℕ}
    {statement : EnqueueStatement}
    (hroom : s.hasRoom queueSize (.statement n statement) = true)
    (htime : s.insertsInTime (.statement n statement) = true)
    (hstep : s.step queueSize (.statement n statement) = some t) : t.Inv := by
  simp only [EnqueueRace.step] at hstep
  split at hstep
  · rename_i r hr
    split at hstep
    · rename_i k batch taskId hstage
      split at hstep
      · rename_i e hk
        cases statement with
        | insertTask wall =>
          simp only [EnqueueRace.statementStep, insertError_none hr hstage hk hroom htime] at hstep
          exact h.statement_race hr hstage hk hstep
        | attach =>
          simp only [EnqueueRace.statementStep] at hstep
          obtain ⟨race, hrace, rfl⟩ := Option.map_eq_some_iff.mp hstep
          obtain ⟨x, hx, rfl⟩ := RaceState.step_enqueue hk hrace
          obtain ⟨task, hholding, rfl⟩ := EnqueueTx.step_attach hx
          have hok := h.calls r (List.mem_of_getElem? hr)
          rw [hstage] at hok
          exact h.moved { r with stage := .running k batch e.returnedTask } hr rfl
            (by rw [hstage]; rfl) rfl hk hx fun _ _ => hok.attached hk hholding
        | _ => exact h.statement_race hr hstage hk hstep
      · cases hstep
    · cases hstep
  · cases hstep

theorem RaceState.step_commitEnqueue (hk : s.txs[k]? = some (.enqueue e))
    (hstep : s.step queueSize (.commitEnqueue k) = some s') :
    e.stage = .flush none ∧ e.pending = [] ∧ s' = ⟨e.commit s.db, s.txs.set k .done⟩ := by
  simp only [RaceState.step, hk] at hstep
  split_ifs at hstep with hend
  cases hstep
  exact ⟨hend.1, hend.2.2, rfl⟩

/-- `enqueue_device` commits: the returned task is there. -/
theorem EnqueueTx.ForDevice.commit {deviceId taskId : ℕ} (h : e.ForDevice db deviceId (some taskId)) :
    ∃ t ∈ (e.commit db).scanTasks, t.id = taskId ∧ t.deviceId = deviceId ∧
      t.status.isActive = true := by
  obtain ⟨t, ht, hid, hdevice, hactive⟩ := h.result taskId rfl
  obtain ⟨t', ht', hid', hdevice', hstatus'⟩ := EnqueueTx.commit_task ht
  exact ⟨t', ht', hid'.trans hid, hdevice'.trans hdevice, by rw [hstatus', hactive]⟩

/-- `create_batch` commits: every device has its item. -/
theorem EnqueueTx.ForBatch.commit {batchId : ℕ} {deviceIds : List ℕ}
    (h : e.ForBatch db batchId deviceIds) (hstage : e.stage = .flush none) (hpending : e.pending = []) :
    ∀ deviceId ∈ deviceIds, ∃ i ∈ (e.commit db).scanBatchItems,
      i.batchId = batchId ∧ i.deviceId = deviceId := by
  intro deviceId hdevice
  rcases h.devices deviceId hdevice with htodo | hhand | ⟨i, hi, hkey⟩
  · simp [h.ended hstage] at htodo
  · simp [hstage, EnqueueStage.deviceId?] at hhand
  · exact ⟨i, by simpa [hpending, EnqueueTx.visible, EnqueueTx.commit] using hi, hkey⟩

theorem EnqueueRace.Inv.commit {s t : EnqueueRace} (h : s.Inv) {n : ℕ} {wall : Timestamp}
    (hstep : s.step queueSize (.commit n wall) = some t) : t.Inv := by
  simp only [EnqueueRace.step] at hstep
  split at hstep
  · rename_i r hr
    split at hstep
    · rename_i k batch taskId hstage
      simp only [EnqueueRace.commitStep, Option.bind_eq_some_iff] at hstep
      obtain ⟨race, hrace, hstep⟩ := hstep
      have hok := h.calls r (List.mem_of_getElem? hr)
      rw [hstage] at hok
      have hothers : ∀ l, r.stage.tx? ≠ some l → l < s.race.txs.length →
          (s.race.txs.set k .done)[l]? = s.race.txs[l]? := by
        intro l hl _
        rw [hstage] at hl
        have hne : k ≠ l := fun heq => hl (congrArg some heq)
        exact List.getElem?_set_ne hne
      generalize hcall : r.call = call at hok
      cases hok with
      | device deviceId trigger priority _ _ e hk hfor =>
        obtain ⟨hend, hpending, rfl⟩ := RaceState.step_commitEnqueue hk hrace
        cases taskId with
        | none => cases hstep
        | some id =>
          cases hstep
          refine h.update hr rfl (h.tasks.commit hk rfl) (e.commit_grows _) hothers ?_
            (by simp [EnqueueCallStage.tx?])
          rw [hcall]
          exact .returned _ _ hfor.commit
      | batch batchType deviceIds clusterId _ b _ e hk hfor =>
        obtain ⟨hend, hpending, rfl⟩ := RaceState.step_commitEnqueue hk hrace
        cases hstep
        obtain ⟨hgrows, hbatch⟩ := refreshed_batch_grows wall b (e.commit s.race.db)
        refine h.update hr rfl (h.tasks.commit hk (by simp)) ((e.commit_grows _).trans hgrows)
          hothers ?_ (by simp [EnqueueCallStage.tx?])
        rw [hcall]
        refine .returned _ _ ⟨hbatch, ?_⟩
        intro deviceId hdevice
        obtain ⟨i, hi, hkey⟩ := hfor.commit hend hpending deviceId hdevice
        exact ⟨i, hgrows.items i hi, hkey⟩
    · cases hstep
  · cases hstep

theorem EnqueueRace.Inv.abort {s t : EnqueueRace} (h : s.Inv) {n : ℕ}
    (htime : s.insertsInTime (.abort n) = true)
    (hstep : s.step queueSize (.abort n) = some t) : t.Inv := by
  simp only [EnqueueRace.step] at hstep
  split at hstep
  · rename_i r hr
    split at hstep
    · rename_i k batch taskId hstage
      have hleft : r.attempts + 1 < maxAttempts := by
        simpa [EnqueueRace.insertsInTime, hr] using htime
      rw [if_pos hleft] at hstep
      cases hstep
      refine h.update hr rfl (h.tasks.done k) (.refl _) ?_ (.waiting _)
        (by simp [EnqueueCallStage.tx?])
      intro l hl _
      rw [hstage] at hl
      have hne : k ≠ l := fun heq => hl (congrArg some heq)
      exact List.getElem?_set_ne hne
    · cases hstep
  · cases hstep

theorem EnqueueRace.Inv.step {s t : EnqueueRace} (h : s.Inv) {a : EnqueueAction}
    (hroom : s.hasRoom queueSize a = true) (htime : s.insertsInTime a = true)
    (hstep : s.step queueSize a = some t) : t.Inv := by
  cases a with
  | call process call =>
    simp only [EnqueueRace.step] at hstep
    split_ifs at hstep with hguard
    cases hstep
    simp only [Bool.and_eq_true] at hguard
    exact h.call hguard.2
  | begin n => exact h.begin hroom hstep
  | insertBatch n wall => exact h.insertBatch hstep
  | statement n statement => exact h.statement hroom htime hstep
  | commit n wall => exact h.commit hstep
  | abort n => exact h.abort htime hstep

/-! ## Every run -/

/-- The partial unique index on active tasks. -/
def Database.uniqueActiveTask (db : Database) : Prop :=
  ∀ t ∈ db.scanTasks, ∀ u ∈ db.scanTasks, t.status.isActive = true → u.status.isActive = true →
    t.deviceId = u.deviceId → t = u

instance (db : Database) : Decidable db.uniqueActiveTask :=
  inferInstanceAs (Decidable (∀ _ ∈ _, _))

theorem EnqueueRace.Inv.init (hdb : db.uniqueActiveTask) : EnqueueRace.Inv ⟨⟨db, []⟩, []⟩ where
  tasks := ⟨hdb, by simp, by simp⟩
  devices := by simp
  calls := by simp
  apart := by simp

/-- In every run with room in the queue, in which no insert comes too late and no call loses its
last attempt, every call that has returned has succeeded. -/
theorem concurrent_calls_join_one_task {actions : List EnqueueAction} {t : EnqueueRace}
    (hdb : db.uniqueActiveTask)
    (hmeets : Machine.Meets (EnqueueRace.step queueSize)
      (fun s a => s.hasRoom queueSize a = true ∧ s.insertsInTime a = true)
      { race := ⟨db, []⟩ } actions)
    (hrun : Machine.run (EnqueueRace.step queueSize) { race := ⟨db, []⟩ } actions = some t) :
    ∀ r ∈ t.calls, ∀ result, r.stage = .returned result → r.call.Succeeded t.race.db result := by
  have hinv : t.Inv := Machine.run_invariant_of_meets EnqueueRace.Inv
    (fun s a u hs hcond hstep => hs.step hcond.1 hcond.2 hstep) actions _ t
    (EnqueueRace.Inv.init hdb) hmeets hrun
  intro r hr result hresult
  have hok := hinv.calls r hr
  rw [hresult] at hok
  generalize r.call = call at hok ⊢
  cases hok with
  | returned _ _ hreached =>
    match call, result, hreached with
    | .device _ _ _, .task _, ⟨task, htask, hid, hdevice, hactive⟩ =>
      refine ⟨task, htask, hid, hdevice, hactive, ?_⟩
      intro u hu hudevice huactive
      exact hinv.tasks.committed u hu task htask huactive hactive (hudevice.trans hdevice.symm)
    | .batch _ _ _, .batch _, hitems => exact hitems

/-- Two devices without tasks. -/
def idleDevices : Database where
  devices := [{ id := 1, name := "web-01", host := "10.0.0.10" },
    { id := 2, name := "web-02", host := "10.0.0.11" }]
  sequences := { scanTasks := 1, scanBatches := 1, devices := 3 }

/-- A manual scan of device 1 in process 1, up to the look-up. -/
def manualLooksUp : List EnqueueAction :=
  [.call 1 (.device 1 .manual 100), .begin 0, .statement 0 .readTask]

def manualCommits : List EnqueueAction :=
  [.statement 0 (.insertTask 5), .statement 0 .endFlush, .statement 0 .attach,
    .statement 0 .beginFlush, .commit 0 6]

/-- A batch over both devices in process 2, up to its first look-up. -/
def batchLooksUp : List EnqueueAction :=
  [.call 2 (.batch .all [1, 2] none), .begin 1, .insertBatch 1 4, .statement 1 .readTask]

/-- The batch found the task of device 1 and makes one for device 2. -/
def batchCommits : List EnqueueAction :=
  [.statement 1 .attach, .statement 1 .readTask, .statement 1 (.insertTask 7),
    .statement 1 .insertItem, .statement 1 .endFlush, .statement 1 .attach,
    .statement 1 .beginFlush, .statement 1 .insertItem, .commit 1 8]

theorem batch_joins_manual_scan :
    ∃ t, Machine.run (EnqueueRace.step 10) { race := ⟨idleDevices, []⟩ }
        (manualLooksUp ++ manualCommits ++ batchLooksUp ++ batchCommits) = some t ∧
      t.calls.map (·.stage) = [.returned (.task 1), .returned (.batch 1)] ∧
      ∀ r ∈ t.calls, ∀ result, r.stage = .returned result →
        r.call.Succeeded t.race.db result := by
  have hmeets : Machine.Meets (EnqueueRace.step 10)
      (fun s a => s.hasRoom 10 a = true ∧ s.insertsInTime a = true) { race := ⟨idleDevices, []⟩ }
      (manualLooksUp ++ manualCommits ++ batchLooksUp ++ batchCommits) := by decide +kernel
  have hrun : ((Machine.run (EnqueueRace.step 10) { race := ⟨idleDevices, []⟩ }
      (manualLooksUp ++ manualCommits ++ batchLooksUp ++ batchCommits)).any fun t =>
        t.calls.map (·.stage) = [.returned (.task 1), .returned (.batch 1)]) = true := by
    decide +kernel
  obtain ⟨t, ht, hstages⟩ := (Option.any_eq_true _ _).mp hrun
  exact ⟨t, ht, by simpa using hstages,
    concurrent_calls_join_one_task (by decide) hmeets ht⟩

/-- Both processes look up device 1 and find no task; the manual scan commits its own. The insert
of the batch then raises `IntegrityError`, and neither device gets an item. -/
theorem late_insert_fails_the_batch :
    ∃ t, Machine.run (EnqueueRace.step 10) { race := ⟨idleDevices, []⟩ }
        (manualLooksUp ++ batchLooksUp ++ manualCommits ++ [.statement 1 (.insertTask 7)]) = some t ∧
      Machine.Meets (EnqueueRace.step 10) (fun s a => s.hasRoom 10 a = true)
        { race := ⟨idleDevices, []⟩ }
        (manualLooksUp ++ batchLooksUp ++ manualCommits ++ [.statement 1 (.insertTask 7)]) ∧
      t.calls.map (·.stage) = [.returned (.task 1), .returned (.raised .integrityError)] ∧
      t.race.db.scanBatches = [] ∧ t.race.db.scanBatchItems = [] ∧
      ¬ ∀ r ∈ t.calls, ∀ result, r.stage = .returned result →
        r.call.Succeeded t.race.db result := by
  have hrun : ((Machine.run (EnqueueRace.step 10) { race := ⟨idleDevices, []⟩ }
      (manualLooksUp ++ batchLooksUp ++ manualCommits ++ [.statement 1 (.insertTask 7)])).any fun t =>
        t.calls.map (·.stage) = [.returned (.task 1), .returned (.raised .integrityError)] &&
          t.race.db.scanBatches = [] && t.race.db.scanBatchItems = []) = true := by
    decide +kernel
  obtain ⟨t, ht, hend⟩ := (Option.any_eq_true _ _).mp hrun
  simp only [Bool.and_eq_true, decide_eq_true_eq] at hend
  obtain ⟨⟨hstages, hbatches⟩, hitems⟩ := hend
  refine ⟨t, ht, by decide +kernel, hstages, hbatches, hitems, ?_⟩
  intro hall
  have hmem : EnqueueCallStage.returned (.raised .integrityError) ∈ t.calls.map (·.stage) := by
    rw [hstages]
    simp
  obtain ⟨r, hr, hstage⟩ := List.mem_map.mp hmem
  have hsucceeded := hall r hr _ hstage
  cases hcall : r.call <;> simp [EnqueueCall.Succeeded, hcall] at hsucceeded

end ConnectionTopology
