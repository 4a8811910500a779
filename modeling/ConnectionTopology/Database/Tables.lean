import ConnectionTopology.Library.ForeignKeys
import ConnectionTopology.ScanQueue.Frames
import ConnectionTopology.Routes.Requests
import ConnectionTopology.Services.Purge

/-!
# The keys and foreign keys of the tables

The `ForeignKey` columns of `models.py`. Batch items and observations have no keys here, because
nothing refers to them.
-/
namespace ConnectionTopology

inductive Table
  | clusters
  | devices
  | scanRuns
  | connectionRecords
  | scanTasks
  | scanBatches
  | importBatches
  | importRowResults
  deriving DecidableEq, Repr

/-- A foreign key by its table and column. -/
inductive ForeignKey
  | deviceCluster
  | runDevice
  | recordRun
  | observationRun
  | observationDevice
  | taskDevice
  | taskRun
  | batchCluster
  | batchImport
  | itemBatch
  | itemTask
  | itemDevice
  | importScanBatch
  | rowBatch
  | rowDevice
  deriving DecidableEq, Repr

def ForeignKey.target : ForeignKey → Table
  | .deviceCluster | .batchCluster => .clusters
  | .runDevice | .observationDevice | .taskDevice | .itemDevice | .rowDevice => .devices
  | .recordRun | .observationRun | .taskRun => .scanRuns
  | .itemTask => .scanTasks
  | .itemBatch | .importScanBatch => .scanBatches
  | .batchImport | .rowBatch => .importBatches

def Database.content (db : Database) : ForeignKeys.Content Table ForeignKey where
  keys
    | .clusters => db.clusters.map (·.id)
    | .devices => db.devices.map (·.id)
    | .scanRuns => db.scanRuns.map (·.id)
    | .connectionRecords => db.connectionRecords.map (·.id)
    | .scanTasks => db.scanTasks.map (·.id)
    | .scanBatches => db.scanBatches.map (·.id)
    | .importBatches => db.importBatches.map (·.id)
    | .importRowResults => db.importRowResults.map (·.id)
  next
    | .clusters => db.sequences.clusters
    | .devices => db.sequences.devices
    | .scanRuns => db.sequences.scanRuns
    | .connectionRecords => db.sequences.connectionRecords
    | .scanTasks => db.sequences.scanTasks
    | .scanBatches => db.sequences.scanBatches
    | .importBatches => db.sequences.importBatches
    | .importRowResults => db.sequences.importRowResults
  refs
    | .deviceCluster => db.devices.filterMap (·.clusterId)
    | .runDevice => db.scanRuns.map (·.deviceId)
    | .recordRun => db.connectionRecords.map (·.scanRunId)
    | .observationRun => db.observations.map (·.scanRunId)
    | .observationDevice => db.observations.map (·.deviceId)
    | .taskDevice => db.scanTasks.map (·.deviceId)
    | .taskRun => db.scanTasks.filterMap (·.scanRunId)
    | .batchCluster => db.scanBatches.filterMap (·.clusterId)
    | .batchImport => db.scanBatches.filterMap (·.sourceImportBatchId)
    | .itemBatch => db.scanBatchItems.map (·.batchId)
    | .itemTask => db.scanBatchItems.map (·.taskId)
    | .itemDevice => db.scanBatchItems.map (·.deviceId)
    | .importScanBatch => db.importBatches.filterMap (·.scanBatchId)
    | .rowBatch => db.importRowResults.map (·.batchId)
    | .rowDevice => db.importRowResults.filterMap (·.deviceId)

/-- Keys are distinct and drawn from their sequences, and no foreign key dangles. -/
abbrev Database.Linked (db : Database) : Prop := ForeignKeys.Linked ForeignKey.target db.content

abbrev Database.KeepsLinks (db db' : Database) : Prop :=
  ForeignKeys.Grows ForeignKey.target db.content db'.content

abbrev Database.Shrinks (db db' : Database) : Prop :=
  ForeignKeys.Shrinks ForeignKey.target db.content db'.content

open ForeignKeys

variable {db db' : Database}

/-! ## Rows that are rewritten -/

theorem Database.KeepsLinks.refreshScanBatch (wall : Timestamp) (db : Database) (batchId : ℕ) :
    db.KeepsLinks (refreshScanBatch wall db batchId) := by
  have hbatch : ∀ b, (refreshedBatch wall db b).id = b.id ∧
      (refreshedBatch wall db b).clusterId = b.clusterId ∧
      (refreshedBatch wall db b).sourceImportBatchId = b.sourceImportBatchId := by
    intro b
    unfold refreshedBatch
    dsimp only
    split_ifs <;> exact ⟨rfl, rfl, rfl⟩
  apply ForeignKeys.Grows.of_eq
  · intro t
    cases t
    case scanBatches => exact map_update (p := fun b => b.id = batchId) (fun b => (hbatch b).1) _
    all_goals rfl
  · exact fun _ => le_rfl
  · intro f
    cases f
    case batchCluster =>
      exact filterMap_update (p := fun b => b.id = batchId) (fun b => (hbatch b).2.1) _
    case batchImport =>
      exact filterMap_update (p := fun b => b.id = batchId) (fun b => (hbatch b).2.2) _
    all_goals rfl

theorem Database.KeepsLinks.refreshScanBatches (wall : Timestamp) (ids : List ℕ) (db : Database) :
    db.KeepsLinks (refreshScanBatches wall ids db) := by
  unfold ConnectionTopology.refreshScanBatches
  induction ids.dedup.insertionSort (· ≤ ·) generalizing db with
  | nil => exact ForeignKeys.Grows.refl _
  | cons id rest ih => exact (Database.KeepsLinks.refreshScanBatch wall db id).trans (ih _)

/-- A task may be given a scan run that is there. -/
theorem Database.KeepsLinks.mapTasks (db : Database) {p : ScanTask → Prop} [DecidablePred p]
    {f : ScanTask → ScanTask} (hid : ∀ t, (f t).id = t.id) (hdevice : ∀ t, (f t).deviceId = t.deviceId)
    (hrun : ∀ t r, (f t).scanRunId = some r → t.scanRunId = some r ∨ r ∈ db.scanRuns.map (·.id)) :
    db.KeepsLinks { db with scanTasks := db.scanTasks.map fun t => if p t then f t else t } := by
  apply ForeignKeys.Grows.of_same
  · intro t
    cases t
    case scanTasks => exact map_update hid _
    all_goals rfl
  · exact fun _ => le_rfl
  · intro f r hr
    rw [List.mem_append]
    cases f
    case taskRun =>
      obtain ⟨t', ht', hr⟩ := List.mem_filterMap.mp hr
      obtain ⟨t, ht, rfl⟩ := List.mem_map.mp ht'
      split_ifs at hr
      · exact (hrun t r hr).imp_left fun hold => List.mem_filterMap.mpr ⟨t, ht, hold⟩
      · exact Or.inl (List.mem_filterMap.mpr ⟨t, ht, hr⟩)
    case taskDevice =>
      have hsame := map_update (p := p) hdevice db.scanTasks
      exact Or.inl ((congrArg (r ∈ ·) hsame).mp hr)
    all_goals exact Or.inl hr

theorem Database.KeepsLinks.setItems (db : Database) (taskId : ℕ) (status : ScanTaskStatus) :
    db.KeepsLinks (db.setItems taskId status) := by
  have hsame : ∀ column : ScanBatchItem → ℕ, (∀ i, column { i with status := status } = column i) →
      (db.setItems taskId status).scanBatchItems.map column = db.scanBatchItems.map column :=
    fun _ hcolumn => map_update hcolumn _
  apply ForeignKeys.Grows.of_eq
  · intro t
    cases t <;> rfl
  · exact fun _ => le_rfl
  · intro f
    cases f
    case itemBatch => exact hsame (·.batchId) fun _ => rfl
    case itemTask => exact hsame (·.taskId) fun _ => rfl
    case itemDevice => exact hsame (·.deviceId) fun _ => rfl
    all_goals rfl

theorem Database.KeepsLinks.moveTask (db : Database) (taskId : ℕ) (status : ScanTaskStatus)
    {f : ScanTask → ScanTask} (hid : ∀ t, (f t).id = t.id) (hdevice : ∀ t, (f t).deviceId = t.deviceId)
    (hrun : ∀ t r, (f t).scanRunId = some r → t.scanRunId = some r ∨ r ∈ db.scanRuns.map (·.id)) :
    db.KeepsLinks (db.moveTask taskId status f) := by
  have htask : db.KeepsLinks (db.updateTask taskId fun t => { f t with status := status }) :=
    Database.KeepsLinks.mapTasks db hid hdevice hrun
  exact htask.trans (Database.KeepsLinks.setItems _ taskId status)

theorem Database.KeepsLinks.mapImportRows (db : Database) {p : ImportRowResult → Prop}
    [DecidablePred p] {f : ImportRowResult → ImportRowResult}
    (hf : ∀ r, (f r).id = r.id ∧ (f r).batchId = r.batchId ∧ (f r).deviceId = r.deviceId) :
    db.KeepsLinks { db with
      importRowResults := db.importRowResults.map fun r => if p r then f r else r } := by
  apply ForeignKeys.Grows.of_eq
  · intro t
    cases t
    case importRowResults => exact map_update (fun r => (hf r).1) _
    all_goals rfl
  · exact fun _ => le_rfl
  · intro f
    cases f
    case rowBatch => exact map_update (fun r => (hf r).2.1) _
    case rowDevice => exact filterMap_update (fun r => (hf r).2.2) _
    all_goals rfl

/-- An import may be given a scan batch that is there. -/
theorem Database.KeepsLinks.mapImportBatches (db : Database) {p : ImportBatch → Prop}
    [DecidablePred p] {f : ImportBatch → ImportBatch} (hid : ∀ b, (f b).id = b.id)
    (hscan : ∀ b k, (f b).scanBatchId = some k →
      b.scanBatchId = some k ∨ k ∈ db.scanBatches.map (·.id)) :
    db.KeepsLinks { db with
      importBatches := db.importBatches.map fun b => if p b then f b else b } := by
  apply ForeignKeys.Grows.of_same
  · intro t
    cases t
    case importBatches => exact map_update hid _
    all_goals rfl
  · exact fun _ => le_rfl
  · intro f
    cases f
    case importScanBatch =>
      intro k hk
      obtain ⟨b', hb', hk⟩ := List.mem_filterMap.mp hk
      obtain ⟨b, hb, rfl⟩ := List.mem_map.mp hb'
      rw [List.mem_append]
      split_ifs at hk
      · exact (hscan b k hk).imp_left fun hold => List.mem_filterMap.mpr ⟨b, hb, hold⟩
      · exact Or.inl (List.mem_filterMap.mpr ⟨b, hb, hk⟩)
    all_goals exact fun _ hk => List.mem_append_left _ hk

theorem Database.KeepsLinks.mapClusters (db : Database) {p : Cluster → Prop} [DecidablePred p]
    {f : Cluster → Cluster} (hf : ∀ c, (f c).id = c.id) :
    db.KeepsLinks { db with clusters := db.clusters.map fun c => if p c then f c else c } := by
  apply ForeignKeys.Grows.of_eq
  · intro t
    cases t
    case clusters => exact map_update hf _
    all_goals rfl
  · exact fun _ => le_rfl
  · intro f
    cases f <;> rfl

/-- A device may be moved to a cluster that is there. -/
theorem Database.KeepsLinks.mapDevices (db : Database) {p : Device → Prop} [DecidablePred p]
    {f : Device → Device} (hid : ∀ d, p d → (f d).id = d.id)
    (hcluster : ∀ d k, (f d).clusterId = some k →
      d.clusterId = some k ∨ k ∈ db.clusters.map (·.id)) :
    db.KeepsLinks { db with devices := db.devices.map fun d => if p d then f d else d } := by
  apply ForeignKeys.Grows.of_same
  · intro t
    cases t
    case devices =>
      rw [Database.content, Database.content]
      dsimp only
      rw [List.map_map]
      apply List.map_congr_left
      intro d _
      simp only [Function.comp_apply]
      split_ifs with hd
      · exact hid d hd
      · rfl
    all_goals rfl
  · exact fun _ => le_rfl
  · intro f
    cases f
    case deviceCluster =>
      intro k hk
      obtain ⟨d', hd', hk⟩ := List.mem_filterMap.mp hk
      obtain ⟨d, hd, rfl⟩ := List.mem_map.mp hd'
      rw [List.mem_append]
      split_ifs at hk
      · exact (hcluster d k hk).imp_left fun hold => List.mem_filterMap.mpr ⟨d, hd, hold⟩
      · exact Or.inl (List.mem_filterMap.mpr ⟨d, hd, hk⟩)
    all_goals exact fun _ hk => List.mem_append_left _ hk

end ConnectionTopology
