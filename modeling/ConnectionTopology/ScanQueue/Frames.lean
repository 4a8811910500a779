import ConnectionTopology.Services.ScanQueue

/-!
# What each operation leaves alone

One rewriting rule per primitive: which tables a refresh, a moved task or an
attached item can touch, and how task rows and item rows correspond before and
after. The invariants of the queue are derived from these rules and never unfold
an operation again.
-/
namespace ConnectionTopology

/-! ## Refreshing -/

theorem refreshScanBatches_eq (wall : Timestamp) (ids : List ℕ) (db : Database) :
    refreshScanBatches wall ids db =
      { db with scanBatches := (refreshScanBatches wall ids db).scanBatches } := by
  unfold refreshScanBatches
  induction ids.dedup.insertionSort (· ≤ ·) generalizing db with
  | nil => rfl
  | cons id rest ih =>
    rw [List.foldl_cons, ih]
    rfl

@[simp] theorem refreshScanBatches_scanTasks (wall : Timestamp) (ids : List ℕ) (db : Database) :
    (refreshScanBatches wall ids db).scanTasks = db.scanTasks := by rw [refreshScanBatches_eq]

@[simp] theorem refreshScanBatches_scanBatchItems (wall : Timestamp) (ids : List ℕ)
    (db : Database) : (refreshScanBatches wall ids db).scanBatchItems = db.scanBatchItems := by
  rw [refreshScanBatches_eq]

@[simp] theorem refreshScanBatches_devices (wall : Timestamp) (ids : List ℕ) (db : Database) :
    (refreshScanBatches wall ids db).devices = db.devices := by rw [refreshScanBatches_eq]

@[simp] theorem refreshScanBatches_scanRuns (wall : Timestamp) (ids : List ℕ) (db : Database) :
    (refreshScanBatches wall ids db).scanRuns = db.scanRuns := by rw [refreshScanBatches_eq]

@[simp] theorem refreshScanBatches_sequences (wall : Timestamp) (ids : List ℕ) (db : Database) :
    (refreshScanBatches wall ids db).sequences = db.sequences := by rw [refreshScanBatches_eq]

/-- The key fields of scan batches survive a refresh. -/
theorem refreshScanBatches_fields (wall : Timestamp) (ids : List ℕ) (db : Database) :
    (refreshScanBatches wall ids db).scanBatches.map
        (fun b => (b.id, b.sourceImportBatchId, b.batchType)) =
      db.scanBatches.map fun b => (b.id, b.sourceImportBatchId, b.batchType) := by
  unfold refreshScanBatches
  induction ids.dedup.insertionSort (· ≤ ·) generalizing db with
  | nil => rfl
  | cons id rest ih =>
    rw [List.foldl_cons, ih]
    simp only [refreshScanBatch, List.map_map]
    apply List.map_congr_left
    intro b _
    simp only [Function.comp_apply]
    split_ifs
    · simp only [refreshedBatch]
      split_ifs <;> rfl
    · rfl

/-! ## Selecting devices -/

theorem mem_uniqueIds {deviceIds : List ℕ} {id : ℕ} : id ∈ uniqueIds deviceIds ↔ id ∈ deviceIds := by
  have hfold : ∀ (ids seen : List ℕ),
      id ∈ ids.foldl (fun seen id => if id ∈ seen then seen else seen ++ [id]) seen ↔
        id ∈ seen ∨ id ∈ ids := by
    intro ids
    induction ids with
    | nil => simp
    | cons a rest ih =>
      intro seen
      rw [List.foldl_cons, ih]
      by_cases ha : a ∈ seen
      · rw [if_pos ha, List.mem_cons]
        constructor
        · rintro (h | h)
          · exact Or.inl h
          · exact Or.inr (Or.inr h)
        · rintro (h | rfl | h)
          · exact Or.inl h
          · exact Or.inl ha
          · exact Or.inr h
      · rw [if_neg ha, List.mem_append, List.mem_singleton, List.mem_cons, or_assoc]
  simpa [uniqueIds] using hfold deviceIds []

theorem mem_selectedIds {db : Database} {deviceIds : List ℕ} {id : ℕ} :
    id ∈ selectedIds db deviceIds ↔
      id ∈ deviceIds ∧ ∃ d ∈ db.devices, d.id = id ∧ d.collectionEnabled = true := by
  simp only [selectedIds, List.mem_filter, mem_uniqueIds, List.any_eq_true, Bool.and_eq_true,
    decide_eq_true_eq]

/-! ## Moving one task -/

@[simp] theorem moveTask_scanTasks (db : Database) (taskId : ℕ) (status : ScanTaskStatus)
    (f : ScanTask → ScanTask) :
    (db.moveTask taskId status f).scanTasks =
      db.scanTasks.map fun t => if t.id = taskId then { f t with status := status } else t := rfl

@[simp] theorem moveTask_scanBatchItems (db : Database) (taskId : ℕ) (status : ScanTaskStatus)
    (f : ScanTask → ScanTask) :
    (db.moveTask taskId status f).scanBatchItems =
      db.scanBatchItems.map fun i => if i.taskId = taskId then { i with status := status } else i :=
  rfl

@[simp] theorem moveTask_scanBatches (db : Database) (taskId : ℕ) (status : ScanTaskStatus)
    (f : ScanTask → ScanTask) : (db.moveTask taskId status f).scanBatches = db.scanBatches := rfl

@[simp] theorem moveTask_devices (db : Database) (taskId : ℕ) (status : ScanTaskStatus)
    (f : ScanTask → ScanTask) : (db.moveTask taskId status f).devices = db.devices := rfl

@[simp] theorem moveTask_scanRuns (db : Database) (taskId : ℕ) (status : ScanTaskStatus)
    (f : ScanTask → ScanTask) : (db.moveTask taskId status f).scanRuns = db.scanRuns := rfl

@[simp] theorem moveTask_sequences (db : Database) (taskId : ℕ) (status : ScanTaskStatus)
    (f : ScanTask → ScanTask) : (db.moveTask taskId status f).sequences = db.sequences := rfl

/-! ## Loops over tasks -/

/-- A property kept by every single move is kept by the loop. -/
theorem moveTasks_induction {move : ℕ → Database → Database} {P : Database → Prop} :
    ∀ (ids : List ℕ) (acc : List ℕ × Database), P acc.2 →
      (∀ id ∈ ids, ∀ db, P db → P (move id db)) → P (moveTasks move ids acc).2 := by
  intro ids
  induction ids with
  | nil => intro acc h _; exact h
  | cons id rest ih =>
    intro acc h hmove
    exact ih _ (hmove id (by simp) acc.2 h) fun id' hid' => hmove id' (by simp [hid'])

/-! ## Persisting an outcome -/

/-- A persisted outcome adds exactly one scan run and leaves the queue tables alone. -/
theorem addScanOutcome_ok {outcome : ScanOutcome} {db db' : Database} {run : ScanRun}
    (h : addScanOutcome outcome db = .ok (run, db')) :
    (∃ d ∈ db.devices, d.id = outcome.deviceId) ∧ db'.scanRuns = db.scanRuns ++ [run] ∧
      db'.scanTasks = db.scanTasks ∧ db'.scanBatches = db.scanBatches ∧
      db'.scanBatchItems = db.scanBatchItems ∧ db'.devices.map (·.id) = db.devices.map (·.id) ∧
      db'.sequences.scanTasks = db.sequences.scanTasks ∧
      db'.sequences.scanBatches = db.sequences.scanBatches := by
  unfold addScanOutcome at h
  split at h
  · cases h
  · rename_i device hdevice
    dsimp only at h
    rw [syncServiceObservations_eq] at h
    cases h
    have hd := List.find?_some hdevice
    refine ⟨⟨device, List.mem_of_find?_eq_some hdevice, by simpa using hd⟩, rfl, rfl, rfl, rfl, ?_,
      rfl, rfl⟩
    simp only [insertScan, List.map_map]
    apply List.map_congr_left
    intro d _
    simp only [Function.comp_apply]
    split_ifs <;> rfl

/-- The only failure of persisting is a device that is gone. -/
theorem addScanOutcome_of_device {outcome : ScanOutcome} {db : Database}
    (h : ∃ d ∈ db.devices, d.id = outcome.deviceId) :
    ∃ run db', addScanOutcome outcome db = .ok (run, db') := by
  obtain ⟨d, hd, hid⟩ := h
  unfold addScanOutcome
  cases hfind : db.devices.find? (·.id = outcome.deviceId) with
  | none =>
    rw [List.find?_eq_none] at hfind
    exact absurd hid (by simpa using hfind d hd)
  | some device => exact ⟨_, _, rfl⟩

end ConnectionTopology
