import ConnectionTopology.ScanQueue.Frames
import ConnectionTopology.ScanQueue.Transactions

/-!
# Batch counters agree with their items

`BatchAgrees` states what the stored counters, status and finish time of a batch
mean. Operations break it only for batches they remember: `StaleOnly ids` says
that every batch outside `ids` still agrees, each primitive says which batches it
adds to `ids`, and a refresh of `ids` restores the invariant.
-/
namespace ConnectionTopology

def Database.itemsOf (db : Database) (batchId : ℕ) : List ScanBatchItem :=
  db.scanBatchItems.filter (·.batchId = batchId)

/-- Task keys are distinct and drawn from the sequence, and every item carries the
status of its task. -/
structure ItemsFollow (db : Database) : Prop where
  nodup : (db.scanTasks.map (·.id)).Nodup
  fresh : ∀ t ∈ db.scanTasks, t.id < db.sequences.scanTasks
  status : ∀ i ∈ db.scanBatchItems, ∃ t ∈ db.scanTasks, t.id = i.taskId ∧ i.status = t.status

/-- The stored fields of a batch are those of its items. -/
structure BatchAgrees (db : Database) (b : ScanBatch) : Prop where
  total : b.totalTasks = (db.itemsOf b.id).length
  sum : b.totalTasks = b.pendingTasks + b.runningTasks + b.successTasks + b.failedTasks
  pending : b.pendingTasks = (db.itemsOf b.id).countP (·.status = .pending)
  running : b.runningTasks = (db.itemsOf b.id).countP (·.status = .running)
  success : b.successTasks = (db.itemsOf b.id).countP (·.status = .success)
  failed : b.failedTasks =
    (db.itemsOf b.id).countP fun i => i.status = .failed || i.status = .cancelled
  completed_iff : b.status = .completed ↔
    ∀ i ∈ db.itemsOf b.id, i.status ≠ .pending ∧ i.status ≠ .running
  pending_iff : b.status = .pending ↔
    (∀ i ∈ db.itemsOf b.id, i.status = .pending) ∧ db.itemsOf b.id ≠ []
  running_iff : b.status = .running ↔
    (∃ i ∈ db.itemsOf b.id, i.status = .pending ∨ i.status = .running) ∧
      ∃ i ∈ db.itemsOf b.id, i.status ≠ .pending
  finished_iff : b.finishedAt.isSome ↔ b.status = .completed

/-- Items follow their tasks, and only the batches in `ids` may disagree. -/
structure StaleOnly (ids : List ℕ) (db : Database) : Prop where
  items : ItemsFollow db
  batches : ∀ b ∈ db.scanBatches, b.id ∉ ids → BatchAgrees db b

/-! ## Counting -/

theorem itemCount_eq (db : Database) (batchId : ℕ) (status : ScanTaskStatus) :
    db.itemCount batchId status = (db.itemsOf batchId).countP (·.status = status) := by
  rw [Database.itemsOf, List.countP_filter]
  unfold Database.itemCount
  congr 1
  funext i
  rw [Bool.and_comm]

theorem length_eq_sum_countP (items : List ScanBatchItem) :
    items.length = items.countP (·.status = .pending) + items.countP (·.status = .running) +
      items.countP (·.status = .success) + items.countP (·.status = .failed) +
        items.countP (·.status = .cancelled) := by
  induction items with
  | nil => rfl
  | cons i items ih =>
    cases h : i.status <;> simp [h] <;> omega

theorem countP_failed_or_cancelled (items : List ScanBatchItem) :
    items.countP (fun i => i.status = .failed || i.status = .cancelled) =
      items.countP (·.status = .failed) + items.countP (·.status = .cancelled) := by
  induction items with
  | nil => rfl
  | cons i items ih =>
    cases h : i.status <;> simp_all <;> omega

theorem countP_active_eq_zero (items : List ScanBatchItem) :
    items.countP (·.status = .pending) = 0 ∧ items.countP (·.status = .running) = 0 ↔
      ∀ i ∈ items, i.status ≠ .pending ∧ i.status ≠ .running := by
  simp only [List.countP_eq_zero, decide_eq_true_eq]
  constructor
  · intro h i hi
    exact ⟨h.1 i hi, h.2 i hi⟩
  · intro h
    exact ⟨fun i hi => (h i hi).1, fun i hi => (h i hi).2⟩

theorem countP_other_eq_zero (items : List ScanBatchItem) :
    items.countP (·.status = .running) = 0 ∧ items.countP (·.status = .success) = 0 ∧
        items.countP (·.status = .failed) + items.countP (·.status = .cancelled) = 0 ↔
      ∀ i ∈ items, i.status = .pending := by
  simp only [Nat.add_eq_zero_iff, List.countP_eq_zero, decide_eq_true_eq]
  constructor
  · rintro ⟨hr, hs, hf, hc⟩ i hi
    have hr := hr i hi
    have hs := hs i hi
    have hf := hf i hi
    have hc := hc i hi
    cases h : i.status <;> simp_all
  · intro h
    refine ⟨?_, ?_, ?_, ?_⟩ <;> intro i hi <;> simp [h i hi]

/-! ## A refreshed batch agrees -/

theorem refreshedBatch_counters (wall : Timestamp) (db : Database) (batch : ScanBatch) :
    let b := refreshedBatch wall db batch
    b.id = batch.id ∧ b.totalTasks = db.itemTotal batch.id ∧
      b.pendingTasks = db.itemCount batch.id .pending ∧
      b.runningTasks = db.itemCount batch.id .running ∧
      b.successTasks = db.itemCount batch.id .success ∧
      b.failedTasks = db.itemCount batch.id .failed + db.itemCount batch.id .cancelled := by
  unfold refreshedBatch
  dsimp only
  split_ifs <;> simp

theorem refreshedBatch_status (wall : Timestamp) (db : Database) (batch : ScanBatch) :
    let b := refreshedBatch wall db batch
    (b.finishedAt.isSome ↔ b.status = .completed) ∧
    (b.status = .completed ↔
      ∀ i ∈ db.itemsOf batch.id, i.status ≠ .pending ∧ i.status ≠ .running) ∧
    (b.status = .pending ↔
      (∀ i ∈ db.itemsOf batch.id, i.status = .pending) ∧ db.itemsOf batch.id ≠ []) ∧
    (b.status = .running ↔
      (∃ i ∈ db.itemsOf batch.id, i.status = .pending ∨ i.status = .running) ∧
        ∃ i ∈ db.itemsOf batch.id, i.status ≠ .pending) := by
  have hdone := countP_active_eq_zero (db.itemsOf batch.id)
  have hall := countP_other_eq_zero (db.itemsOf batch.id)
  unfold refreshedBatch
  simp only [itemCount_eq]
  split_ifs with hactive hmixed
  · have hother : ∃ i ∈ db.itemsOf batch.id, i.status ≠ .pending := by
      by_contra hno
      push Not at hno
      have := hall.mpr hno
      omega
    have hsome : ∃ i ∈ db.itemsOf batch.id, i.status = .pending ∨ i.status = .running := by
      by_contra hno
      push Not at hno
      have := hdone.mpr hno
      omega
    have hnotall : ¬ ∀ i ∈ db.itemsOf batch.id, i.status = .pending := by simpa using hother
    have hnotdone : ¬ ∀ i ∈ db.itemsOf batch.id, i.status ≠ .pending ∧ i.status ≠ .running := by
      simpa [imp_iff_not_or] using hsome
    simp [hother, hsome, hnotall, hnotdone]
  · have hpending : ∀ i ∈ db.itemsOf batch.id, i.status = .pending := hall.mp (by omega)
    have hnone : ¬ ∃ i ∈ db.itemsOf batch.id, i.status ≠ .pending := by simpa using hpending
    have hnotdone : ¬ ∀ i ∈ db.itemsOf batch.id, i.status ≠ .pending ∧ i.status ≠ .running := by
      rw [← hdone]
      omega
    have hne : db.itemsOf batch.id ≠ [] := by
      intro h
      simp [h] at hnotdone
    refine ⟨by simp, by simpa using hnotdone, by simpa [hne] using hpending, ?_⟩
    simp [hnone]
  · have hfinished : ∀ i ∈ db.itemsOf batch.id, i.status ≠ .pending ∧ i.status ≠ .running :=
      hdone.mp (by omega)
    have hnoactive : ¬ ∃ i ∈ db.itemsOf batch.id, i.status = .pending ∨ i.status = .running := by
      rintro ⟨i, hi, hp | hr⟩
      · exact (hfinished i hi).1 hp
      · exact (hfinished i hi).2 hr
    have hnotpending : ¬ ((∀ i ∈ db.itemsOf batch.id, i.status = .pending) ∧
        db.itemsOf batch.id ≠ []) := by
      rintro ⟨hp, hne⟩
      obtain ⟨i, hi⟩ := List.exists_mem_of_ne_nil _ hne
      exact (hfinished i hi).1 (hp i hi)
    refine ⟨by simp, by simpa using hfinished, ?_, ?_⟩
    · simpa using hnotpending
    · simp [hnoactive]

theorem refreshedBatch_agrees (wall : Timestamp) (db : Database) (batch : ScanBatch) :
    BatchAgrees db (refreshedBatch wall db batch) := by
  obtain ⟨hid, ht, hp, hr, hs, hf⟩ := refreshedBatch_counters wall db batch
  obtain ⟨hfin, hcomp, hpend, hrun⟩ := refreshedBatch_status wall db batch
  have htotal := length_eq_sum_countP (db.itemsOf batch.id)
  have hfailed := countP_failed_or_cancelled (db.itemsOf batch.id)
  simp only [Database.itemTotal, itemCount_eq] at ht hp hr hs hf
  constructor
  case total => rw [hid, ht, htotal]
  case sum => omega
  case pending => rw [hid, hp]
  case running => rw [hid, hr]
  case success => rw [hid, hs]
  case failed => rw [hid, hf, hfailed]
  case completed_iff => rw [hid, hcomp]
  case pending_iff => rw [hid, hpend]
  case running_iff => rw [hid, hrun]
  case finished_iff => exact hfin

/-! ## How the primitives change what is stale -/

theorem BatchAgrees.congr {db db' : Database} {b : ScanBatch} (h : BatchAgrees db b)
    (hitems : db'.itemsOf b.id = db.itemsOf b.id) : BatchAgrees db' b := by
  constructor
  case total => rw [hitems, h.total]
  case sum => exact h.sum
  case pending => rw [hitems, h.pending]
  case running => rw [hitems, h.running]
  case success => rw [hitems, h.success]
  case failed => rw [hitems, h.failed]
  case completed_iff => rw [hitems, h.completed_iff]
  case pending_iff => rw [hitems, h.pending_iff]
  case running_iff => rw [hitems, h.running_iff]
  case finished_iff => exact h.finished_iff

theorem StaleOnly.mono {ids ids' : List ℕ} {db : Database} (h : StaleOnly ids db)
    (hsub : ids ⊆ ids') : StaleOnly ids' db :=
  ⟨h.items, fun b hb hid => h.batches b hb fun hmem => hid (hsub hmem)⟩

theorem map_id_moveTask {tasks : List ScanTask} (taskId : ℕ) (g : ScanTask → ScanTask)
    (hg : ∀ t, (g t).id = t.id) :
    (tasks.map fun t => if t.id = taskId then g t else t).map (·.id) = tasks.map (·.id) := by
  rw [List.map_map]
  apply List.map_congr_left
  intro t _
  simp only [Function.comp_apply]
  split_ifs
  · exact hg t
  · rfl

theorem ItemsFollow.moveTask {db : Database} (h : ItemsFollow db) (taskId : ℕ)
    (status : ScanTaskStatus) {f : ScanTask → ScanTask} (hf : ∀ t, (f t).id = t.id) :
    ItemsFollow (db.moveTask taskId status f) := by
  refine ⟨?_, ?_, ?_⟩
  · rw [moveTask_scanTasks, map_id_moveTask taskId (fun t => { f t with status := status }) hf]
    exact h.nodup
  · intro t ht
    obtain ⟨s, hs, rfl⟩ := List.mem_map.mp ht
    have := h.fresh s hs
    split_ifs
    · exact (hf s).symm ▸ this
    · exact this
  · intro i hi
    obtain ⟨j, hj, rfl⟩ := List.mem_map.mp hi
    obtain ⟨t, ht, htask, hstatus⟩ := h.status j hj
    refine ⟨_, List.mem_map.mpr ⟨t, ht, rfl⟩, ?_⟩
    by_cases hmoved : j.taskId = taskId
    · simp [htask, hmoved, hf]
    · simp [htask, hmoved, hstatus]

theorem itemsOf_moveTask {db : Database} {taskId batchId : ℕ} (status : ScanTaskStatus)
    (f : ScanTask → ScanTask) (hb : batchId ∉ db.itemBatchIds taskId) :
    (db.moveTask taskId status f).itemsOf batchId = db.itemsOf batchId := by
  have hkeep : ∀ i ∈ db.scanBatchItems, i.batchId = batchId → i.taskId ≠ taskId := by
    intro i hi hib htask
    apply hb
    simp only [Database.itemBatchIds, List.mem_map, List.mem_filter, decide_eq_true_eq]
    exact ⟨i, ⟨hi, htask⟩, hib⟩
  unfold Database.itemsOf
  rw [moveTask_scanBatchItems]
  generalize db.scanBatchItems = items at hkeep
  induction items with
  | nil => rfl
  | cons i items ih =>
    have ih := ih fun j hj => hkeep j (by simp [hj])
    by_cases hib : i.batchId = batchId
    · have hne := hkeep i (by simp) hib
      simp [hib, hne, ih]
    · by_cases htask : i.taskId = taskId
      · simp [hib, htask, ih]
      · simp [hib, htask, ih]

/-- A moved task makes exactly the batches of its items stale. -/
theorem StaleOnly.moveTask {ids : List ℕ} {db : Database} (h : StaleOnly ids db) (taskId : ℕ)
    (status : ScanTaskStatus) {f : ScanTask → ScanTask} (hf : ∀ t, (f t).id = t.id) :
    StaleOnly (ids ++ db.itemBatchIds taskId) (db.moveTask taskId status f) := by
  refine ⟨h.items.moveTask taskId status hf, ?_⟩
  intro b hb hid
  simp only [List.mem_append, not_or] at hid
  exact (h.batches b hb hid.1).congr (itemsOf_moveTask status f hid.2)

theorem StaleOnly.moveTasks {move : ℕ → Database → Database}
    (hmove : ∀ taskId ids db, StaleOnly ids db →
      StaleOnly (ids ++ db.itemBatchIds taskId) (move taskId db)) :
    ∀ (taskIds : List ℕ) (acc : List ℕ × Database), StaleOnly acc.1 acc.2 →
      StaleOnly (ConnectionTopology.moveTasks move taskIds acc).1
        (ConnectionTopology.moveTasks move taskIds acc).2 := by
  intro taskIds
  induction taskIds with
  | nil => intro acc h; exact h
  | cons taskId rest ih =>
    intro acc h
    exact ih (acc.1 ++ acc.2.itemBatchIds taskId, move taskId acc.2) (hmove taskId acc.1 acc.2 h)

/-! ## A loop of refreshes is one map -/

theorem refreshedBatch_congr {db db' : Database} (h : db'.scanBatchItems = db.scanBatchItems)
    (wall : Timestamp) (b : ScanBatch) : refreshedBatch wall db' b = refreshedBatch wall db b := by
  have hcount : db'.itemCount = db.itemCount := by
    funext batchId status
    rw [Database.itemCount, h, Database.itemCount]
  unfold refreshedBatch Database.itemTotal
  rw [hcount]

theorem refreshScanBatches_scanBatches (wall : Timestamp) (ids : List ℕ) (db : Database) :
    (refreshScanBatches wall ids db).scanBatches = db.scanBatches.map fun b =>
      if b.id ∈ ids then refreshedBatch wall db b else b := by
  have hloop : ∀ (order : List ℕ) (start : Database), order.Nodup →
      (order.foldl (refreshScanBatch wall) start).scanBatches = start.scanBatches.map fun b =>
        if b.id ∈ order then refreshedBatch wall start b else b := by
    intro order
    induction order with
    | nil => intro start _; simp
    | cons id rest ih =>
      intro start hnodup
      obtain ⟨hnotin, hrest⟩ := List.nodup_cons.mp hnodup
      rw [List.foldl_cons, ih _ hrest]
      simp only [refreshScanBatch, List.map_map]
      apply List.map_congr_left
      intro b _
      have hid := (refreshedBatch_counters wall start b).1
      by_cases hb : b.id = id
      · simp [hb, hid, hnotin]
      · have hsame : refreshedBatch wall (refreshScanBatch wall start id) b =
            refreshedBatch wall start b := refreshedBatch_congr rfl wall b
        simp only [refreshScanBatch] at hsame
        simp only [Function.comp_apply, hb, ↓reduceIte, List.mem_cons, false_or, hsame]
  have horder : (ids.dedup.insertionSort (· ≤ ·)).Nodup :=
    (List.perm_insertionSort _ _).nodup_iff.mpr (List.nodup_dedup ids)
  rw [refreshScanBatches, hloop _ _ horder]
  simp

/-- A batch of the refreshed database was refreshed or is an old batch outside the list. -/
theorem mem_refreshScanBatches {wall : Timestamp} {ids : List ℕ} {db : Database} {b : ScanBatch}
    (hb : b ∈ (refreshScanBatches wall ids db).scanBatches) :
    BatchAgrees db b ∨ (b ∈ db.scanBatches ∧ b.id ∉ ids) := by
  rw [refreshScanBatches_scanBatches] at hb
  obtain ⟨old, hold, rfl⟩ := List.mem_map.mp hb
  split_ifs with hid
  · exact .inl (refreshedBatch_agrees wall db old)
  · exact .inr ⟨hold, hid⟩

/-- Refreshing the stale batches restores the invariant. -/
theorem StaleOnly.refresh {ids : List ℕ} {db : Database} (h : StaleOnly ids db)
    (wall : Timestamp) : StaleOnly [] (refreshScanBatches wall ids db) := by
  have hitems : ∀ n, (refreshScanBatches wall ids db).itemsOf n = db.itemsOf n := fun n => by
    simp [Database.itemsOf]
  refine ⟨⟨by simpa using h.items.nodup, by simpa using h.items.fresh, by simpa using h.items.status⟩, ?_⟩
  intro b hb _
  rcases mem_refreshScanBatches hb with hagree | ⟨hmem, hid⟩
  · exact hagree.congr (hitems _)
  · exact (h.batches b hmem hid).congr (hitems _)

end ConnectionTopology
