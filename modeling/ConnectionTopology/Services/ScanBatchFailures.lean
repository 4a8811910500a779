import ConnectionTopology.Library.Chunks
import ConnectionTopology.Library.LikePattern
import ConnectionTopology.Library.Text
import ConnectionTopology.Models
import Mathlib.Data.List.ReduceOption

/-!
# The failures of a batch

`scan_batch_failures.py`: the failed and cancelled items of a batch with what is known of their
tasks and devices, searched and cut into pages, and the devices that a retry takes.
-/
namespace ConnectionTopology

structure BatchFailureRow where
  deviceId : ℕ
  deviceName : String
  host : String
  clusterName : Option String
  status : ScanTaskStatus
  errorMessage : String
  startedAt : Option Timestamp
  finishedAt : Option Timestamp
  deriving DecidableEq, Repr

structure BatchFailurePage where
  batchId : ℕ
  batchStatus : ScanBatchStatus
  total : ℕ
  page : ℕ
  pageSize : ℕ
  pages : ℕ
  items : List BatchFailureRow
  deriving DecidableEq, Repr

def failedBatchItemStatuses : List ScanTaskStatus := [.failed, .cancelled]

def failedItems (batchId : ℕ) (db : Database) : List ScanBatchItem :=
  db.scanBatchItems.filter fun i => i.batchId = batchId && decide (i.status ∈ failedBatchItemStatuses)

/-- An item with the rows that the query joins to it. -/
structure JoinedItem where
  item : ScanBatchItem
  task : ScanTask
  device : Device
  cluster : Option Cluster
  deriving DecidableEq, Repr

/-- The task and the device must be there, the cluster need not. -/
def joinItem (db : Database) (item : ScanBatchItem) : Option JoinedItem :=
  match db.scanTasks.find? (·.id = item.taskId), db.devices.find? (·.id = item.deviceId) with
  | some task, some device =>
    some ⟨item, task, device, device.clusterId.bind fun id => db.clusters.find? (·.id = id)⟩
  | _, _ => none

/-- The columns that are searched. -/
def JoinedItem.columns (j : JoinedItem) : List String :=
  [some j.device.name, some j.device.host, j.cluster.map (·.name), j.task.errorMessage].reduceOption

/-- `_failure_filters` for a query that has been stripped; nothing in it is escaped. -/
def JoinedItem.isFound (lower : Char → Char) (query : String) (j : JoinedItem) : Bool :=
  query = "" || j.columns.any fun column =>
    LikePattern.ilike lower (LikePattern.anywhere query.toList) column.toList

/-- `ORDER BY finished_at DESC NULLS LAST`. -/
def JoinedItem.listedBefore (a b : JoinedItem) : Prop :=
  (b.task.finishedAt.all fun second => a.task.finishedAt.any fun first => second ≤ first) = true

instance : DecidableRel JoinedItem.listedBefore := fun _ _ => inferInstanceAs (Decidable (_ = true))

/-- Items that end at one time are listed from the last one inserted to the first. -/
def failureItems (lower : Char → Char) (batchId : ℕ) (query : String) (db : Database) :
    List JoinedItem :=
  (((failedItems batchId db).filterMap (joinItem db)).filter
    (·.isFound lower query)).reverse.insertionSort JoinedItem.listedBefore

def JoinedItem.row (j : JoinedItem) : BatchFailureRow where
  deviceId := j.item.deviceId
  deviceName := j.device.name
  host := j.device.host
  clusterName := j.cluster.map (·.name)
  status := j.item.status
  errorMessage :=
    match j.task.errorMessage with
    | none | some "" => if j.item.status = .cancelled then "采集任务已取消" else "采集任务发生内部错误"
    | some message => message
  startedAt := j.task.startedAt
  finishedAt := j.task.finishedAt

/-- The error is a `LookupError`. -/
def listBatchFailures (lower : Char → Char) (batchId page pageSize : ℕ) (query : String)
    (db : Database) : Except String BatchFailurePage :=
  match db.scanBatches.find? (·.id = batchId) with
  | none => .error "扫描批次不存在"
  | some batch =>
    let rows := failureItems lower batchId (Text.strip query) db
    .ok {
      batchId, page, pageSize
      batchStatus := batch.status
      total := rows.length
      pages := if rows.length = 0 then 0 else rows.length ⌈/⌉ pageSize
      items := ((rows.drop ((page - 1) * pageSize)).take pageSize).map JoinedItem.row }

/-- Each device once, in the order of the keys. -/
def failedDeviceIds (batchId : ℕ) (db : Database) : List ℕ :=
  ((failedItems batchId db).map (·.deviceId)).dedup.insertionSort (· ≤ ·)

variable {lower : Char → Char} {batchId : ℕ} {query : String} {db : Database}

theorem mem_failedDeviceIds {deviceId : ℕ} :
    deviceId ∈ failedDeviceIds batchId db ↔ ∃ i ∈ db.scanBatchItems, i.batchId = batchId ∧
      (i.status = .failed ∨ i.status = .cancelled) ∧ i.deviceId = deviceId := by
  rw [failedDeviceIds, List.mem_insertionSort, List.mem_dedup, List.mem_map]
  simp [failedItems, failedBatchItemStatuses, and_assoc]

theorem failedDeviceIds_eq_nil : failedDeviceIds batchId db = [] ↔ failedItems batchId db = [] := by
  rw [List.eq_nil_iff_forall_not_mem, List.eq_nil_iff_forall_not_mem]
  constructor
  · intro h i hi
    exact h i.deviceId ((List.mem_insertionSort _).mpr
      (List.mem_dedup.mpr (List.mem_map_of_mem hi)))
  · intro h id hid
    rw [failedDeviceIds, List.mem_insertionSort, List.mem_dedup] at hid
    obtain ⟨i, hi, -⟩ := List.mem_map.mp hid
    exact h i hi

/-! ## The join -/

theorem joinItem_item {item : ScanBatchItem} {j : JoinedItem} (h : joinItem db item = some j) :
    j.item = item ∧ j.task ∈ db.scanTasks ∧ j.task.id = item.taskId ∧ j.device ∈ db.devices ∧
      j.device.id = item.deviceId := by
  unfold joinItem at h
  split at h
  · rename_i task device htask hdevice
    cases h
    exact ⟨rfl, List.mem_of_find?_eq_some htask, by simpa using List.find?_some htask,
      List.mem_of_find?_eq_some hdevice, by simpa using List.find?_some hdevice⟩
  · cases h

/-- An item whose references do not dangle is joined. -/
theorem joinItem_isSome {item : ScanBatchItem} (htask : item.taskId ∈ db.scanTasks.map (·.id))
    (hdevice : item.deviceId ∈ db.devices.map (·.id)) : (joinItem db item).isSome = true := by
  have hfound : ∀ {α : Type} (key : α → ℕ) (rows : List α) (k : ℕ), k ∈ rows.map key →
      ∃ r, rows.find? (fun r => key r = k) = some r := by
    intro α key rows k hk
    obtain ⟨r, hr, hkey⟩ := List.mem_map.mp hk
    exact Option.isSome_iff_exists.mp (List.find?_isSome.mpr ⟨r, hr, by simpa using hkey⟩)
  obtain ⟨task, htask⟩ := hfound ScanTask.id _ _ htask
  obtain ⟨device, hdevice⟩ := hfound Device.id _ _ hdevice
  unfold joinItem
  rw [htask, hdevice]
  rfl

theorem mem_joined {j : JoinedItem} (h : j ∈ (failedItems batchId db).filterMap (joinItem db)) :
    j.task ∈ db.scanTasks ∧ j.task.id = j.item.taskId ∧ j.device ∈ db.devices ∧
      j.device.id = j.item.deviceId := by
  obtain ⟨item, -, hjoin⟩ := List.mem_filterMap.mp h
  obtain ⟨hitem, hrest⟩ := joinItem_item hjoin
  rwa [hitem]

/-- The join loses no item whose references do not dangle. -/
theorem map_item_joined (h : ∀ i ∈ failedItems batchId db, (joinItem db i).isSome = true) :
    ((failedItems batchId db).filterMap (joinItem db)).map (·.item) = failedItems batchId db := by
  have hjoin : ∀ i ∈ failedItems batchId db, (joinItem db i).map (·.item) = some i := by
    intro i hi
    obtain ⟨j, hj⟩ := Option.isSome_iff_exists.mp (h i hi)
    rw [hj, Option.map_some, (joinItem_item hj).1]
  rw [List.map_filterMap, List.filterMap_congr hjoin, List.filterMap_some]

/-! ## The order -/

theorem JoinedItem.listedBefore_trans {a b c : JoinedItem} (hab : a.listedBefore b)
    (hbc : b.listedBefore c) : a.listedBefore c := by
  unfold JoinedItem.listedBefore at hab hbc ⊢
  cases hc : c.task.finishedAt with
  | none => rfl
  | some third =>
    cases hb : b.task.finishedAt with
    | none => simp [hb, hc] at hbc
    | some second =>
      cases ha : a.task.finishedAt with
      | none => simp [ha, hb] at hab
      | some first =>
        simp only [ha, hb, hc, Option.all_some, Option.any_some, decide_eq_true_eq] at hab hbc ⊢
        exact hbc.trans hab

theorem JoinedItem.listedBefore_total (a b : JoinedItem) : a.listedBefore b ∨ b.listedBefore a := by
  unfold JoinedItem.listedBefore
  cases a.task.finishedAt with
  | none => exact Or.inr rfl
  | some first =>
    cases b.task.finishedAt with
    | none => exact Or.inl rfl
    | some second => simpa using le_total second first

theorem failureItems_sorted (lower : Char → Char) (batchId : ℕ) (query : String) (db : Database) :
    (failureItems lower batchId query db).Pairwise JoinedItem.listedBefore := by
  have htotal : Std.Total JoinedItem.listedBefore := ⟨JoinedItem.listedBefore_total⟩
  have htrans : IsTrans JoinedItem JoinedItem.listedBefore :=
    ⟨fun _ _ _ => JoinedItem.listedBefore_trans⟩
  exact List.pairwise_insertionSort _ _

/-! ## The search -/

/-- The name of the device is searched, so there is a text that contains the empty query. -/
theorem JoinedItem.name_mem_columns (j : JoinedItem) : j.device.name ∈ j.columns :=
  List.reduceOption_mem_iff.mpr List.mem_cons_self

theorem JoinedItem.isFound_iff {lower : Char → Char} {j : JoinedItem}
    (h : ∀ text : List Char, LikePattern.ilike lower (LikePattern.anywhere query.toList) text = true ↔
      query.toList.map lower <:+: text.map lower) :
    j.isFound lower query = true ↔
      ∃ column ∈ j.columns, query.toList.map lower <:+: column.toList.map lower := by
  unfold JoinedItem.isFound
  rw [Bool.or_eq_true, decide_eq_true_eq, List.any_eq_true]
  constructor
  · rintro (rfl | ⟨column, hcolumn, hfound⟩)
    · exact ⟨j.device.name, j.name_mem_columns, List.nil_infix⟩
    · exact ⟨column, hcolumn, (h _).mp hfound⟩
  · rintro ⟨column, hcolumn, hinfix⟩
    exact Or.inr ⟨column, hcolumn, (h _).mpr hinfix⟩

end ConnectionTopology
