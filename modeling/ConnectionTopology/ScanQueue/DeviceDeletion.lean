import ConnectionTopology.Routes.Devices
import ConnectionTopology.ScanQueue.BatchInvariant

/-!
# Batches of a deleted device

`cancel_device` refreshes the batches of the active task, and then the foreign keys delete
the items of every task that the device ever had. No batch is refreshed behind that, so a
batch agrees with its items afterwards exactly when it has lost none.
-/
namespace ConnectionTopology

/-- The item belongs to the device or to one of its tasks, and goes with it. -/
def Database.ownsItem (db : Database) (deviceId : ℕ) (i : ScanBatchItem) : Bool :=
  i.deviceId = deviceId || db.scanTasks.any fun t => t.id = i.taskId && t.deviceId = deviceId

theorem dropDevice_scanBatchItems (db : Database) (deviceId : ℕ) :
    (db.dropDevice deviceId).scanBatchItems =
      db.scanBatchItems.filter fun i => !db.ownsItem deviceId i := by
  simp only [Database.dropDevice, Database.ownsItem, Bool.not_or, ne_eq, decide_not]

/-- An agreeing batch goes on to agree exactly when none of its items goes. -/
theorem BatchAgrees.dropDevice_iff {db : Database} {b : ScanBatch} (h : BatchAgrees db b)
    (deviceId : ℕ) :
    BatchAgrees (db.dropDevice deviceId) b ↔
      ∀ i ∈ db.itemsOf b.id, db.ownsItem deviceId i = false := by
  have hitems : (db.dropDevice deviceId).itemsOf b.id =
      (db.itemsOf b.id).filter fun i => !db.ownsItem deviceId i := by
    unfold Database.itemsOf
    rw [dropDevice_scanBatchItems, List.filter_comm]
  constructor
  · intro hafter
    have hlength : ((db.itemsOf b.id).filter fun i => !db.ownsItem deviceId i).length =
        (db.itemsOf b.id).length := by
      rw [← hitems, ← hafter.total, h.total]
    intro i hi
    have hkept := List.length_filter_eq_length_iff.mp hlength i hi
    simpa using hkept
  · intro hnone
    apply h.congr
    rw [hitems, List.filter_eq_self]
    intro i hi
    simp [hnone i hi]

/-! ## Cancelling -/

/-- Cancelling keeps the batches and whom tasks and items belong to. -/
theorem cancelDevice_ids (deviceId : ℕ) (wall : Timestamp) (db : Database) :
    (cancelDevice deviceId wall db).2.scanBatches.map (·.id) = db.scanBatches.map (·.id) ∧
      (cancelDevice deviceId wall db).2.scanTasks.map (fun t => (t.id, t.deviceId)) =
        db.scanTasks.map (fun t => (t.id, t.deviceId)) ∧
      (cancelDevice deviceId wall db).2.scanBatchItems.map
          (fun i => (i.batchId, i.taskId, i.deviceId)) =
        db.scanBatchItems.map fun i => (i.batchId, i.taskId, i.deviceId) := by
  unfold cancelDevice
  split
  · exact ⟨rfl, rfl, rfl⟩
  · split_ifs
    · exact ⟨rfl, rfl, rfl⟩
    · refine ⟨?_, ?_, ?_⟩
      · rw [refreshScanBatches_scanBatches, List.map_map]
        apply List.map_congr_left
        intro b _
        simp only [Function.comp_apply]
        split_ifs
        · exact (refreshedBatch_counters wall _ b).1
        · rfl
      · simp only [refreshScanBatches_scanTasks, moveTask_scanTasks, List.map_map]
        apply List.map_congr_left
        intro t _
        simp only [Function.comp_apply]
        split_ifs <;> rfl
      · simp only [refreshScanBatches_scanBatchItems, moveTask_scanBatchItems, List.map_map]
        apply List.map_congr_left
        intro i _
        simp only [Function.comp_apply]
        split_ifs <;> rfl

theorem cancelDevice_agrees {db : Database} (h : ∀ b ∈ db.scanBatches, BatchAgrees db b)
    (deviceId : ℕ) (wall : Timestamp) :
    ∀ b ∈ (cancelDevice deviceId wall db).2.scanBatches,
      BatchAgrees (cancelDevice deviceId wall db).2 b := by
  unfold cancelDevice
  split
  · exact h
  · rename_i task _
    split_ifs
    · exact h
    · dsimp only
      set moved := db.moveTask task.id .cancelled fun t => { t with finishedAt := some wall }
      have hitems : ∀ n, (refreshScanBatches wall (db.itemBatchIds task.id) moved).itemsOf n =
          moved.itemsOf n := by
        intro n
        simp [Database.itemsOf]
      intro b hb
      obtain hagree | ⟨hmem, hid⟩ := mem_refreshScanBatches hb
      · exact hagree.congr (hitems _)
      · apply (h b hmem).congr
        rw [hitems, itemsOf_moveTask _ _ hid]

/-- Which items a device owns depends on whom tasks and items belong to. -/
theorem exists_ownsItem_iff {db db' : Database} (deviceId : ℕ)
    (htasks : db'.scanTasks.map (fun t => (t.id, t.deviceId)) =
      db.scanTasks.map fun t => (t.id, t.deviceId))
    (hitems : db'.scanBatchItems.map (fun i => (i.batchId, i.taskId, i.deviceId)) =
      db.scanBatchItems.map fun i => (i.batchId, i.taskId, i.deviceId)) :
    (∀ i ∈ db'.scanBatchItems, db'.ownsItem deviceId i = false) ↔
      ∀ i ∈ db.scanBatchItems, db.ownsItem deviceId i = false := by
  have howns : ∀ (d : Database) (i : ScanBatchItem), d.ownsItem deviceId i =
      (i.deviceId = deviceId || (d.scanTasks.map fun t => (t.id, t.deviceId)).any
        fun t => t.1 = i.taskId && t.2 = deviceId) := by
    intro d i
    simp only [Database.ownsItem, List.any_map]
    rfl
  have hall : ∀ d : Database, (∀ i ∈ d.scanBatchItems, d.ownsItem deviceId i = false) ↔
      ∀ x ∈ d.scanBatchItems.map (fun i => (i.batchId, i.taskId, i.deviceId)),
        (x.2.2 = deviceId || (d.scanTasks.map fun t => (t.id, t.deviceId)).any
          fun t => t.1 = x.2.1 && t.2 = deviceId) = false := by
    intro d
    simp only [howns, List.forall_mem_map]
  rw [hall, hall, htasks, hitems]

/-! ## Deleting -/

/-- After a successful deletion every batch agrees with its remaining items exactly when the
device had no items. -/
theorem deletion_keeps_batches_iff {deviceId : ℕ} {wall : Timestamp} {db db' : Database}
    (hbatches : ∀ b ∈ db.scanBatches, BatchAgrees db b)
    (hitems : ∀ i ∈ db.scanBatchItems, ∃ b ∈ db.scanBatches, b.id = i.batchId)
    (hdelete : deleteDevice deviceId wall db = .ok db') :
    (∀ b ∈ db'.scanBatches, BatchAgrees db' b) ↔
      ∀ i ∈ db.scanBatchItems, db.ownsItem deviceId i = false := by
  obtain ⟨hids, htasks, hkept⟩ := cancelDevice_ids deviceId wall db
  have hagree := cancelDevice_agrees hbatches deviceId wall
  rw [← exists_ownsItem_iff deviceId htasks hkept]
  unfold deleteDevice at hdelete
  split_ifs at hdelete
  dsimp only at hdelete
  split_ifs at hdelete
  cases hdelete
  set cancelled := (cancelDevice deviceId wall db).2 with hcancelled
  constructor
  · intro hafter i hi
    -- the batch of the item is still there, and agrees before and after
    obtain ⟨j, hj, hjkeys⟩ : ∃ j ∈ db.scanBatchItems, (j.batchId, j.taskId, j.deviceId) =
        (i.batchId, i.taskId, i.deviceId) := by
      rw [← List.mem_map, ← hkept]
      exact List.mem_map_of_mem hi
    obtain ⟨b, hb, hbid⟩ := hitems j hj
    obtain ⟨c, hc, hcid⟩ : ∃ c ∈ cancelled.scanBatches, c.id = b.id := by
      rw [← List.mem_map, hids]
      exact List.mem_map_of_mem hb
    have hbatch : i.batchId = c.id := by
      rw [hcid, hbid]
      exact (congrArg Prod.fst hjkeys).symm
    apply ((hagree c hc).dropDevice_iff deviceId).mp (hafter c hc)
    simp [Database.itemsOf, hi, hbatch]
  · intro hnone b hb
    apply ((hagree b hb).dropDevice_iff deviceId).mpr
    intro i hi
    exact hnone i (List.mem_of_mem_filter hi)

/-- Two devices, and a batch in which only the second was scanned. -/
def scannedSecondDevice : Database :=
  { devices := [{ id := 1, name := "a", host := "10.0.0.1" }, { id := 2, name := "b", host := "10.0.0.2" }]
    scanTasks := [{ id := 1, deviceId := 2, triggerType := .manual, priority := 20, status := .success }]
    scanBatches := [{ id := 1, batchType := .all, status := .completed, totalTasks := 1, successTasks := 1,
                      finishedAt := some 5 }]
    scanBatchItems := [{ batchId := 1, taskId := 1, deviceId := 2, status := .success }] }

theorem scannedSecondDevice_agrees : ∀ b ∈ scannedSecondDevice.scanBatches,
    BatchAgrees scannedSecondDevice b := by
  intro b hb
  cases List.mem_singleton.mp hb
  constructor <;> decide

/-- The first device goes and the batch is as before. -/
theorem first_device_deletion_keeps_batches :
    ∃ db', deleteDevice 1 7 scannedSecondDevice = .ok db' ∧
      ((∀ b ∈ db'.scanBatches, BatchAgrees db' b) ↔
        ∀ i ∈ scannedSecondDevice.scanBatchItems, scannedSecondDevice.ownsItem 1 i = false) :=
  ⟨_, rfl, deletion_keeps_batches_iff scannedSecondDevice_agrees (by decide) rfl⟩

/-- The second device goes with its item, and the batch still counts a success. -/
theorem second_device_deletion_breaks_batch :
    (∀ b ∈ scannedSecondDevice.scanBatches, BatchAgrees scannedSecondDevice b) ∧
      ∃ db', deleteDevice 2 7 scannedSecondDevice = .ok db' ∧
        ∃ b ∈ db'.scanBatches, b.totalTasks = 1 ∧ b.successTasks = 1 ∧ db'.itemsOf b.id = [] ∧
          ¬BatchAgrees db' b := by
  refine ⟨scannedSecondDevice_agrees, _, rfl, _, List.mem_singleton.mpr rfl, rfl, rfl, by decide, ?_⟩
  intro h
  have htotal := h.total
  revert htotal
  decide

end ConnectionTopology
