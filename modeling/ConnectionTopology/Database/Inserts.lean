import ConnectionTopology.Database.Tables
import ConnectionTopology.Topology.Backfill
import ConnectionTopology.Clusters.ScanPolicy

/-!
# Inserting rows

Each insert of the services takes the next key of its table, and what the new row refers to is
there.
-/
namespace ConnectionTopology

open ForeignKeys

variable {db db' : Database}

/-! ## The queue -/

/-- One row with the next key of its table. -/
theorem keys_append_one {keys new : List ℕ} {next next' : ℕ} (hnew : new = keys ++ [next])
    (hnext : next < next') : ∃ more, new = keys ++ more ∧ more.Nodup ∧
      ∀ k ∈ more, next ≤ k ∧ k < next' := by
  refine ⟨[next], hnew, List.nodup_singleton next, fun k hk => ?_⟩
  rw [List.mem_singleton.mp hk]
  exact ⟨le_rfl, hnext⟩

theorem keys_append_none (keys : List ℕ) (next next' : ℕ) : ∃ more, keys = keys ++ more ∧
    more.Nodup ∧ ∀ k ∈ more, next ≤ k ∧ k < next' :=
  ⟨[], by simp⟩

theorem Database.KeepsLinks.insertTask {deviceId : ℕ} (hdevice : deviceId ∈ db.devices.map (·.id))
    (trigger : ScanTrigger) (priority : ℤ) (wall : Timestamp) :
    db.KeepsLinks (insertTask deviceId trigger priority wall db).2 := by
  constructor
  · intro t
    cases t
    case scanTasks => exact keys_append_one List.map_append (Nat.lt_succ_self _)
    all_goals exact keys_append_none _ _ _
  · intro t
    cases t
    case scanTasks => exact Nat.le_succ _
    all_goals exact le_rfl
  · intro f k hk
    rw [List.mem_append]
    cases f
    case taskDevice =>
      rcases mem_map_insert hk with hold | rfl
      · exact Or.inl hold
      · exact Or.inr hdevice
    case taskRun => exact (mem_filterMap_insert hk).imp_right nofun
    all_goals exact Or.inl hk

/-- The foreign keys of a new item. -/
theorem Database.KeepsLinks.attachBatchItem {batchId : ℕ} {task : ScanTask}
    (htask : task.id ∈ db.scanTasks.map (·.id)) (hdevice : task.deviceId ∈ db.devices.map (·.id))
    (hok : attachBatchItem batchId task db = .ok db') : db.KeepsLinks db' := by
  unfold ConnectionTopology.attachBatchItem at hok
  split_ifs at hok with hthere hbatch
  · cases hok
    exact ForeignKeys.Grows.refl _
  · cases hok
    obtain ⟨b, hb, hid⟩ := List.any_eq_true.mp hbatch
    constructor
    · exact fun t => keys_append_none _ _ _
    · exact fun _ => le_rfl
    · intro f k hk
      rw [List.mem_append]
      cases f
      case itemBatch =>
        refine (mem_map_insert hk).imp_right fun hnew => ?_
        exact List.mem_map.mpr ⟨b, hb, (of_decide_eq_true hid).trans hnew⟩
      case itemTask =>
        rcases mem_map_insert hk with hold | rfl
        · exact Or.inl hold
        · exact Or.inr htask
      case itemDevice =>
        rcases mem_map_insert hk with hold | rfl
        · exact Or.inl hold
        · exact Or.inr hdevice
      all_goals exact Or.inl hk

theorem Database.KeepsLinks.insertBatch {clusterId sourceImportBatchId : Option ℕ}
    (hok : batchReferencesOk db clusterId sourceImportBatchId = true) (batchType : ScanBatchType)
    (wall : Timestamp) :
    db.KeepsLinks (insertBatch batchType clusterId sourceImportBatchId wall db).2 := by
  rw [batchReferencesOk, Bool.and_eq_true, Option.all_eq_true, Option.all_eq_true] at hok
  constructor
  · intro t
    cases t
    case scanBatches => exact keys_append_one List.map_append (Nat.lt_succ_self _)
    all_goals exact keys_append_none _ _ _
  · intro t
    cases t
    case scanBatches => exact Nat.le_succ _
    all_goals exact le_rfl
  · intro f k hk
    rw [List.mem_append]
    cases f
    case batchCluster =>
      refine (mem_filterMap_insert hk).imp_right fun hnew => ?_
      obtain ⟨c, hc, hid⟩ := List.any_eq_true.mp (hok.1 k hnew)
      exact List.mem_map.mpr ⟨c, hc, of_decide_eq_true hid⟩
    case batchImport =>
      refine (mem_filterMap_insert hk).imp_right fun hnew => ?_
      have hthere := hok.2 k hnew
      rw [Bool.and_eq_true] at hthere
      obtain ⟨i, hi, hid⟩ := List.any_eq_true.mp hthere.1
      exact List.mem_map.mpr ⟨i, hi, of_decide_eq_true hid⟩
    all_goals exact Or.inl hk

/-! ## Scans -/

/-- The columns of the observations that a sync writes. -/
theorem mem_syncSql {lower upper : ℕ} {o : ConnectionServiceObservation}
    (ho : o ∈ (syncSql lower upper db).observations) :
    o ∈ db.observations ∨ ∃ scan ∈ db.scanRuns, o.scanRunId = scan.id ∧ o.deviceId = scan.deviceId := by
  refine (mem_foldl_insertObservation ho).imp_right fun hnew => ?_
  obtain ⟨⟨key, group⟩, hgroup, rfl⟩ := List.mem_map.mp hnew
  obtain ⟨⟨row, hrow, rfl⟩, -⟩ := Grouping.mem_groupBy.mp hgroup
  exact ⟨row.scan, (mem_syncRows.mp hrow).2.2.1, rfl, rfl⟩

theorem Database.KeepsLinks.syncSql (h : db.Linked) (lower upper : ℕ) :
    db.KeepsLinks (syncSql lower upper db) := by
  apply ForeignKeys.Grows.of_same
  · intro t
    cases t <;> rfl
  · exact fun _ => le_rfl
  · intro f k hk
    rw [List.mem_append]
    cases f
    case observationRun =>
      obtain ⟨o, ho, rfl⟩ := List.mem_map.mp hk
      rcases mem_syncSql ho with hold | ⟨scan, hscan, hid, -⟩
      · exact Or.inl (List.mem_map_of_mem hold)
      · exact Or.inr (List.mem_map.mpr ⟨scan, hscan, hid.symm⟩)
    case observationDevice =>
      obtain ⟨o, ho, rfl⟩ := List.mem_map.mp hk
      rcases mem_syncSql ho with hold | ⟨scan, hscan, -, hdevice⟩
      · exact Or.inl (List.mem_map_of_mem hold)
      · rw [hdevice]
        exact Or.inr (h.linked .runDevice (List.mem_map_of_mem hscan))
    all_goals exact Or.inl hk

theorem Database.KeepsLinks.syncServiceObservations (h : db.Linked) (scan : ScanRun) :
    db.KeepsLinks (syncServiceObservations scan db) := by
  unfold ConnectionTopology.syncServiceObservations
  split_ifs
  · exact Database.KeepsLinks.syncSql h _ _
  · exact ForeignKeys.Grows.refl _

/-- The keys of the kept rows, and the scan that they belong to. -/
theorem insertScan_records (outcome : ScanOutcome) (db : Database) :
    ∃ records, (insertScan outcome db).2.connectionRecords = db.connectionRecords ++ records ∧
      records.map (·.id) = List.range' db.sequences.connectionRecords records.length ∧
      db.sequences.connectionRecords + records.length ≤
        (insertScan outcome db).2.sequences.connectionRecords ∧
      ∀ r ∈ records, r.scanRunId = (insertScan outcome db).1.id := by
  refine ⟨_, rfl, ?_, ?_, ?_⟩
  · rw [List.map_map, List.length_map, List.length_zipIdx]
    exact List.zipIdx_map_snd ..
  · simp [insertScan]
  · intro r hr
    obtain ⟨row, -, rfl⟩ := List.mem_map.mp hr
    rfl

theorem Database.KeepsLinks.insertScan {outcome : ScanOutcome}
    (hdevice : outcome.deviceId ∈ db.devices.map (·.id)) :
    db.KeepsLinks (insertScan outcome db).2 := by
  obtain ⟨records, hrecords, hids, hnext, hscan⟩ := insertScan_records outcome db
  constructor
  · intro t
    cases t
    case scanRuns => exact keys_append_one List.map_append (Nat.lt_succ_self _)
    case connectionRecords =>
      refine ⟨records.map (·.id), (congrArg (List.map _) hrecords).trans List.map_append, ?_, ?_⟩
      · rw [hids]
        exact List.nodup_range'
      · intro k hk
        rw [hids] at hk
        obtain ⟨hle, hlt⟩ := List.mem_range'_1.mp hk
        exact ⟨hle, hlt.trans_le hnext⟩
    all_goals exact keys_append_none _ _ _
  · intro t
    cases t
    case scanRuns => exact Nat.le_succ _
    case connectionRecords => exact Nat.le_add_right _ _
    all_goals exact le_rfl
  · intro f k hk
    rw [List.mem_append]
    cases f
    case runDevice =>
      rcases mem_map_insert hk with hold | rfl
      · exact Or.inl hold
      · exact Or.inr hdevice
    case recordRun =>
      obtain ⟨r, hr, rfl⟩ := List.mem_map.mp hk
      rw [hrecords] at hr
      rcases List.mem_append.mp hr with hold | hnew
      · exact Or.inl (List.mem_map_of_mem hold)
      · rw [hscan r hnew]
        exact Or.inr (List.mem_map_of_mem (List.mem_append_right _ List.mem_cons_self))
    all_goals exact Or.inl hk

/-- The new run is there afterwards. -/
theorem Database.KeepsLinks.addScanOutcome {outcome : ScanOutcome} {run : ScanRun} (h : db.Linked)
    (hok : addScanOutcome outcome db = .ok (run, db')) :
    db.KeepsLinks db' ∧ db'.scanRuns = db.scanRuns ++ [run] ∧ run.deviceId = outcome.deviceId := by
  obtain ⟨⟨d, hd, hid⟩, hruns, -⟩ := addScanOutcome_ok hok
  have hinsert : db.KeepsLinks (ConnectionTopology.insertScan outcome db).2 :=
    Database.KeepsLinks.insertScan (List.mem_map.mpr ⟨d, hd, hid⟩)
  have hsync := Database.KeepsLinks.syncServiceObservations (h.grows hinsert)
    (ConnectionTopology.insertScan outcome db).1
  unfold ConnectionTopology.addScanOutcome at hok
  split at hok
  · cases hok
  · cases hok
    refine ⟨(hinsert.trans hsync).trans (Database.KeepsLinks.mapDevices _ (fun _ _ => rfl) ?_), hruns, rfl⟩
    exact fun _ _ => Or.inl

/-! ## Clusters and devices -/

section
variable {casing : Casing} {b : Backend}

theorem Database.KeepsLinks.replaceInternalNetworks {clusterId : ℕ} {cidrs : List String}
    (hok : replaceInternalNetworks clusterId cidrs db = .ok db') : db.KeepsLinks db' := by
  unfold ConnectionTopology.replaceInternalNetworks at hok
  split at hok
  · cases hok
  · cases hok
    exact Database.KeepsLinks.mapClusters db fun _ => rfl

/-- The networks of a cluster are no keys. -/
theorem replaceInternalNetworks_frame {clusterId : ℕ} {cidrs : List String}
    (hok : replaceInternalNetworks clusterId cidrs db = .ok db') :
    db' = { db with clusters := db'.clusters } ∧
      db'.clusters.map (·.id) = db.clusters.map (·.id) ∧
      db'.clusters.map (·.name) = db.clusters.map (·.name) := by
  unfold replaceInternalNetworks at hok
  split at hok
  · cases hok
  · rename_i normalized _
    cases hok
    have hsame : ∀ {β : Type} (column : Cluster → β), (∀ c : Cluster, column { c with
        internalNetworks := replacedNetworks c.internalNetworks normalized } = column c) →
        (db.updateCluster clusterId fun c => { c with
          internalNetworks := replacedNetworks c.internalNetworks normalized }).clusters.map column =
          db.clusters.map column :=
      fun _ hcolumn => map_update hcolumn _
    exact ⟨rfl, hsame _ fun _ => rfl, hsame _ fun _ => rfl⟩

/-- A new cluster has a name of its own. -/
theorem createCluster_grows {name : String} {networks : List String} {interval id : ℕ}
    {enabled : Bool} (hok : createCluster casing name networks interval enabled db = .ok (id, db')) :
    db.KeepsLinks db' ∧ ∃ normalized, normalized ∉ db.clusters.map (·.name) ∧
      db'.clusters.map (·.name) = db.clusters.map (·.name) ++ [normalized] := by
  unfold createCluster at hok
  split at hok
  · cases hok
  · rename_i normalized _
    split at hok
    · cases hok
    · cases hok
    · split_ifs at hok with hname
      dsimp only at hok
      split at hok
      · cases hok
      · rename_i replaced hreplace
        cases hok
        obtain ⟨-, -, hnames⟩ := replaceInternalNetworks_frame hreplace
        have hnetworks := Database.KeepsLinks.replaceInternalNetworks hreplace
        refine ⟨ForeignKeys.Grows.trans ?_ hnetworks, normalized, ?_, ?_⟩
        · constructor
          · intro t
            cases t
            case clusters => exact keys_append_one List.map_append (Nat.lt_succ_self _)
            all_goals exact keys_append_none _ _ _
          · intro t
            cases t
            case clusters => exact Nat.le_succ _
            all_goals exact le_rfl
          · exact fun f k hk => List.mem_append_left _ (by cases f <;> exact hk)
        · intro hmem
          obtain ⟨c, hc, hcname⟩ := List.mem_map.mp hmem
          exact hname (List.any_eq_true.mpr ⟨c, hc, decide_eq_true hcname⟩)
        · rw [hnames, List.map_append]
          rfl

/-- What choosing a cluster for a device may write: at most a new cluster. -/
structure Database.ChoosesCluster (db db' : Database) : Prop where
  grows : db.KeepsLinks db'
  only : OnlyClusters db db'
  names : (db.clusters.map (·.name)).Nodup → (db'.clusters.map (·.name)).Nodup

theorem Database.ChoosesCluster.refl (db : Database) : db.ChoosesCluster db :=
  ⟨ForeignKeys.Grows.refl _, rfl, id⟩

theorem Database.ChoosesCluster.created {name : String} {networks : List String} {interval id : ℕ}
    {enabled : Bool} (hok : createCluster casing name networks interval enabled db = .ok (id, db')) :
    db.ChoosesCluster db' := by
  obtain ⟨hgrows, normalized, hnew, hnames⟩ := createCluster_grows hok
  refine ⟨hgrows, createCluster_frame hok, fun hnodup => ?_⟩
  rw [hnames, List.nodup_append']
  exact ⟨hnodup, List.nodup_singleton _, by simpa using hnew⟩

theorem resolveCluster_chooses {clusterId : Option ℕ} {newClusterName : Option String}
    {cluster : Option Cluster}
    (hok : resolveCluster casing clusterId newClusterName db = .ok (cluster, db')) :
    db.ChoosesCluster db' := by
  unfold resolveCluster at hok
  split at hok
  · split_ifs at hok
    split at hok <;> cases hok
    exact .refl db
  · split_ifs at hok
    · cases hok
      exact .refl db
    · split at hok
      · cases hok
      · cases hok
        exact .refl db
      · split at hok
        · cases hok
        · rename_i hcreate
          cases hok
          exact .created hcreate

theorem rowCluster_chooses {parsed : ParsedRow} {cluster : Option Cluster}
    (hok : rowCluster casing parsed db = .ok (cluster, db')) : db.ChoosesCluster db' := by
  unfold rowCluster at hok
  split_ifs at hok
  · cases hok
    exact .refl db
  · split at hok
    · cases hok
    · cases hok
      exact .refl db
    · split at hok
      · cases hok
      · rename_i hcreate
        cases hok
        exact .created hcreate

theorem Database.KeepsLinks.insertDevice {device : Device} (hid : device.id = db.sequences.devices)
    (hcluster : ∀ k, device.clusterId = some k → k ∈ db.clusters.map (·.id)) :
    db.KeepsLinks (db.insertDevice device) := by
  constructor
  · intro t
    cases t
    case devices =>
      refine keys_append_one ?_ (Nat.lt_succ_self _)
      exact List.map_append.trans (congrArg (db.devices.map (·.id) ++ [·]) hid)
    all_goals exact keys_append_none _ _ _
  · intro t
    cases t
    case devices => exact Nat.le_succ _
    all_goals exact le_rfl
  · intro f k hk
    rw [List.mem_append]
    cases f
    case deviceCluster => exact (mem_filterMap_insert hk).imp_right (hcluster k)
    all_goals exact Or.inl hk

theorem Database.KeepsLinks.updateDevice {device : Device}
    (hcluster : ∀ k, device.clusterId = some k → k ∈ db.clusters.map (·.id)) :
    db.KeepsLinks (db.updateDevice device) :=
  Database.KeepsLinks.mapDevices db (fun _ hd => hd.symm) fun _ k hk => Or.inr (hcluster k hk)

end

/-! ## Imports -/

theorem Database.KeepsLinks.createImportBatch (filename : String) (totalRows : ℕ) (db : Database) :
    db.KeepsLinks (createImportBatch filename totalRows db).2 := by
  constructor
  · intro t
    cases t
    case importBatches => exact keys_append_one List.map_append (Nat.lt_succ_self _)
    all_goals exact keys_append_none _ _ _
  · intro t
    cases t
    case importBatches => exact Nat.le_succ _
    all_goals exact le_rfl
  · intro f k hk
    rw [List.mem_append]
    cases f
    case importScanBatch => exact (mem_filterMap_insert hk).imp_right nofun
    all_goals exact Or.inl hk

/-- Counters and states of an import are no keys. -/
theorem Database.KeepsLinks.updateImportBatch (db : Database) (batchId : ℕ)
    {f : ImportBatch → ImportBatch} (hid : ∀ b, (f b).id = b.id)
    (hscan : ∀ b, (f b).scanBatchId = b.scanBatchId) :
    db.KeepsLinks (db.updateImportBatch batchId f) :=
  Database.KeepsLinks.mapImportBatches db hid fun b _ hk => Or.inl (hscan b ▸ hk)

theorem Database.KeepsLinks.insertRowResult {row : ImportedRow} {batchId : ℕ}
    (hbatch : batchId ∈ db.importBatches.map (·.id))
    (hdevice : ∀ k, (row.result db.sequences.importRowResults batchId).deviceId = some k →
      k ∈ db.devices.map (·.id)) : db.KeepsLinks (insertRowResult row batchId db) := by
  have hresult : ∀ id, (row.result id batchId).id = id ∧
      (row.result id batchId).batchId = batchId := by
    intro id
    unfold ImportedRow.result
    dsimp only
    split <;> exact ⟨rfl, rfl⟩
  constructor
  · intro t
    cases t
    case importRowResults =>
      refine keys_append_one ?_ (Nat.lt_succ_self _)
      exact List.map_append.trans
        (congrArg (db.importRowResults.map (·.id) ++ [·]) (hresult _).1)
    all_goals exact keys_append_none _ _ _
  · intro t
    cases t
    case importRowResults => exact Nat.le_succ _
    all_goals exact le_rfl
  · intro f k hk
    rw [List.mem_append]
    cases f
    case rowBatch =>
      rcases mem_map_insert hk with hold | hnew
      · exact Or.inl hold
      · right
        rw [← hnew, (hresult _).2]
        exact hbatch
    case rowDevice => exact (mem_filterMap_insert hk).imp_right (hdevice k)
    all_goals exact Or.inl hk

/-- A row writes its result, its device and some counters of its batch. -/
theorem importRow_eq (row : ImportedRow) (copy : ImportBatch) (db : Database) :
    ∃ f : ImportBatch → ImportBatch, (∀ b, (f b).id = b.id ∧ (f b).scanBatchId = b.scanBatchId) ∧
      (importRow row copy db).2 =
        ({ insertRowResult row copy.id db with
          devices := db.devices ++ row.outcome.devices } : Database).updateImportBatch copy.id f := by
  unfold importRow
  cases houtcome : row.outcome with
  | imported device =>
    dsimp only
    split_ifs
    · refine ⟨_, ?_, rfl⟩
      exact fun _ => ⟨rfl, rfl⟩
    · refine ⟨_, ?_, rfl⟩
      exact fun _ => ⟨rfl, rfl⟩
  | skipped deviceId =>
    refine ⟨_, ?_, by simp only [RowOutcome.devices, List.append_nil]; rfl⟩
    exact fun _ => ⟨rfl, rfl⟩
  | annotationConflict deviceId =>
    refine ⟨_, ?_, by simp only [RowOutcome.devices, List.append_nil]; rfl⟩
    exact fun _ => ⟨rfl, rfl⟩
  | failed failure transactionOpen =>
    have hcopy : (if transactionOpen then (db.importBatch? copy.id).getD copy else copy).id =
        copy.id := by
      split_ifs
      · cases hfind : db.importBatch? copy.id with
        | none => rfl
        | some found => simpa using List.find?_some hfind
      · rfl
    dsimp only
    rw [hcopy]
    refine ⟨_, ?_, by simp only [RowOutcome.devices, List.append_nil]; rfl⟩
    exact fun _ => ⟨rfl, rfl⟩

end ConnectionTopology
