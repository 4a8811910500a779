import ConnectionTopology.Database.Links
import ConnectionTopology.ScanQueue.Transactions
import ConnectionTopology.Scheduler.WantedJobs

/-!
# Runs of the whole application

Every transaction of the repository that writes, in any order: the queue, the requests, the rows
of an import, the connection tests, the purges and the backfill. Imports and purges appear with
their single transactions, so others may come in between.
-/
namespace ConnectionTopology

open ForeignKeys

inductive AppAction
  | queue (call : Call)
  | request (request : Request)
  | createImportBatch (filename : String) (totalRows : ℕ)
  /-- One row of an import; `copy` is the batch object of its session. -/
  | importRow (copy : ImportBatch) (rowNumber : ℕ) (cells : ImportCells)
  | finishImport (copy : ImportBatch) (wall : Timestamp)
  | claimTests (workerId : String) (localCapacity globalLimit : ℤ) (leaseSeconds : ℕ)
      (now wall : Timestamp)
  | claimSpecific (workerId : String) (rowId : ℕ) (globalLimit : ℤ) (leaseSeconds : ℕ)
      (now wall : Timestamp)
  | renewTests (workerId : String) (rowIds : List ℕ) (leaseSeconds : ℕ) (now : Timestamp)
  | saveResult (workerId : String) (rowId : ℕ) (outcome : ImportTestOutcome) (now wall : Timestamp)
  /-- One round of a purge. -/
  | deleteScanRuns (scanIds : List ℕ)
  | deleteConnectionRecords (scanIds : List ℕ)
  /-- One round of the backfill. -/
  | syncObservations (lowerScanId upperScanId : ℕ)
  deriving DecidableEq, Repr

/-- What is to be persisted, and for which task. -/
def Transaction.outcome? : Transaction → Option (ℕ × ScanOutcome)
  | .persistOutcome _ taskId outcome | .recordTransactionConflict _ taskId outcome =>
    some (taskId, outcome)
  | _ => none

/-- `collect` was called with the device of the task. -/
def Call.collectsOwn (db : Database) (call : Call) : Bool :=
  call.transaction.outcome?.all fun r =>
    db.scanTasks.all fun t => t.id ≠ r.1 || t.deviceId = r.2.deviceId

def appStep (b : Backend) (db : Database) : AppAction → Option Database
  | .queue call => if call.collectsOwn db then some (perform call db).2 else none
  | .request request => requestStep b db request
  | .createImportBatch filename totalRows => some (createImportBatch filename totalRows db).2
  | .importRow copy rowNumber cells =>
    if db.importBatches.any (·.id = copy.id) then
      let row := rowOutcome b.toCasing b.encrypt cells rowNumber db
      some (importRow row.1 copy row.2).2
    else none
  | .finishImport copy wall => some (finishImport wall copy db)
  | .claimTests workerId localCapacity globalLimit leaseSeconds now wall =>
    some (claimImportTests workerId localCapacity globalLimit leaseSeconds now wall db).2
  | .claimSpecific workerId rowId globalLimit leaseSeconds now wall =>
    some (claimSpecific workerId rowId globalLimit leaseSeconds now wall db)
  | .renewTests workerId rowIds leaseSeconds now =>
    some (renewImportTestLeases workerId rowIds leaseSeconds now db).2
  | .saveResult workerId rowId outcome now wall =>
    match saveResult workerId rowId outcome now wall db with
    | .error _ => some db
    | .ok r => some r.2
  | .deleteScanRuns scanIds => some (deleteScanRuns scanIds db)
  | .deleteConnectionRecords scanIds => some (deleteConnectionRecords scanIds db)
  | .syncObservations lowerScanId upperScanId => some (syncSql lowerScanId upperScanId db)

variable {db db' : Database} {b : Backend}

/-! ## The queue -/

theorem Database.Sound.perform (h : db.Sound) {call : Call} (hown : call.collectsOwn db = true) :
    (perform call db).2.Sound := by
  obtain ⟨now, wall, transaction⟩ := call
  have hcommit : ∀ {α : Type} (reply : α → Reply) (result : Except QueueError (α × Database)),
      (∀ r, result = .ok r → r.2.Sound) → (Reply.commit reply db result).2.Sound := by
    intro α reply result hok
    cases result with
    | error e => exact h
    | ok r => exact hok r rfl
  cases transaction with
  | enqueueDevice queueSize deviceId trigger priority batchId =>
    refine hcommit .task _ fun r hok => ?_
    unfold enqueueDevice at hok
    split at hok
    · cases hok
    · rename_i hsession
      have hsound := h.extends (enqueueInSession_extends hsession)
      split at hok <;> cases hok
      · exact hsound
      · exact hsound.extends (.refresh wall _ _)
  | createBatch queueSize batchType deviceIds clusterId sourceImportBatchId =>
    exact hcommit (fun id => .batch (some id)) _ fun r hok =>
      h.extends (createBatchInSession_extends hok).1
  | createImportScanBatch queueSize importBatchId =>
    exact hcommit .batch _ fun r hok => h.extends (createImportScanBatch_extends hok)
  | claimScanTasks workerId localCapacity globalLimit leaseSeconds =>
    exact h.extends (claimScanTasks_extends ..)
  | renewScanLeases workerId taskIds leaseSeconds => exact h.extends (renewScanLeases_extends ..)
  | persistOutcome workerId taskId outcome =>
    have howned : ∀ t ∈ db.scanTasks, t.id = taskId → outcome.deviceId = t.deviceId := by
      intro t ht hid
      have hall := List.all_eq_true.mp hown t ht
      simpa [hid, eq_comm] using hall
    exact hcommit .settled _ fun r hok => h.persistOutcome howned hok
  | recordTransactionConflict workerId taskId outcome =>
    have howned : ∀ t ∈ db.scanTasks, t.id = taskId →
        (conflictOutcome outcome wall).deviceId = t.deviceId := by
      intro t ht hid
      have hall := List.all_eq_true.mp hown t ht
      simpa [hid, eq_comm, conflictOutcome] using hall
    exact hcommit .settled _ fun r hok => h.persistOutcome howned hok
  | failUnexpectedTask workerId taskId =>
    unfold ConnectionTopology.perform
    dsimp only
    unfold failUnexpectedTask
    split
    · rename_i hok
      split at hok <;> cases hok
      refine h.extends (settleTask_extends _ _ ?_ _ _)
      exact fun _ => ⟨rfl, rfl, rfl⟩
    · exact h
  | cancelDevice deviceId => exact h.extends (cancelDevice_extends deviceId wall db)

/-! ## Imports and their tests -/

theorem Database.Extends.refreshImportBatches (wall : Timestamp) (ids : List ℕ) (db : Database) :
    db.Extends (refreshImportBatches wall ids db).2 := by
  unfold ConnectionTopology.refreshImportBatches
  suffices hfold : ∀ (ids : List ℕ) (acc : List ℕ × Database), db.Extends acc.2 →
      db.Extends (ids.foldl (refreshImportBatch wall) acc).2 from hfold _ _ (.refl db)
  intro ids
  induction ids with
  | nil => exact fun _ hacc => hacc
  | cons id rest ih =>
    intro acc hacc
    apply ih
    unfold refreshImportBatch
    split
    · exact hacc
    · have hrefresh : acc.2.Extends
          (acc.2.updateImportBatch id (refreshedImportBatch wall acc.2)) := by
        refine .of_tasks (Database.KeepsLinks.updateImportBatch acc.2 id ?_ ?_) rfl rfl
        all_goals
          intro batch
          unfold refreshedImportBatch
          dsimp only
          split_ifs <;> rfl
      dsimp only
      split_ifs <;> exact hacc.trans hrefresh

theorem Database.Extends.updateImportRows (db : Database) (rowIds : List ℕ)
    {f : ImportRowResult → ImportRowResult}
    (hf : ∀ r, (f r).id = r.id ∧ (f r).batchId = r.batchId ∧ (f r).deviceId = r.deviceId) :
    db.Extends (db.updateImportRows rowIds f) :=
  .of_tasks (Database.KeepsLinks.mapImportRows db hf) rfl rfl

theorem claimImportTests_extends (workerId : String) (localCapacity globalLimit : ℤ)
    (leaseSeconds : ℕ) (now wall : Timestamp) (db : Database) :
    db.Extends (claimImportTests workerId localCapacity globalLimit leaseSeconds now wall db).2 := by
  unfold claimImportTests
  split_ifs
  · exact .refl db
  · refine Database.Extends.trans ?_ (.refreshImportBatches wall _ _)
    have hswept : db.Extends (db.updateImportRows ((db.importRowResults.filter (·.isExpired now)).map
        (·.id)) ImportRowResult.requeued) := .updateImportRows db _ fun _ => ⟨rfl, rfl, rfl⟩
    exact hswept.trans (.updateImportRows _ _ fun _ => ⟨rfl, rfl, rfl⟩)

theorem claimSpecific_extends (workerId : String) (rowId : ℕ) (globalLimit : ℤ)
    (leaseSeconds : ℕ) (now wall : Timestamp) (db : Database) :
    db.Extends (claimSpecific workerId rowId globalLimit leaseSeconds now wall db) := by
  unfold claimSpecific
  split
  · exact .refl db
  · split_ifs
    · refine Database.Extends.trans ?_ (.refreshImportBatches wall _ _)
      exact .updateImportRows db _ fun _ => ⟨rfl, rfl, rfl⟩
    · exact .refl db

theorem renewImportTestLeases_extends (workerId : String) (rowIds : List ℕ) (leaseSeconds : ℕ)
    (now : Timestamp) (db : Database) :
    db.Extends (renewImportTestLeases workerId rowIds leaseSeconds now db).2 := by
  unfold renewImportTestLeases
  split_ifs
  · exact .refl db
  · exact .of_tasks (Database.KeepsLinks.mapImportRows db fun _ => ⟨rfl, rfl, rfl⟩) rfl rfl

theorem saveResult_extends {workerId : String} {rowId : ℕ} {outcome : ImportTestOutcome}
    {now wall : Timestamp} {r : Option ℕ × Database}
    (hok : saveResult workerId rowId outcome now wall db = .ok r) : db.Extends r.2 := by
  unfold saveResult at hok
  split at hok
  · cases hok
  · cases hok
    refine Database.Extends.trans ?_ (.refreshImportBatches wall _ _)
    exact .updateImportRows db _ fun _ => ⟨rfl, rfl, rfl⟩

/-- How a row of the file ends: the device that it adds takes the next key and a cluster that is
there, and the device that it refers to exists. -/
theorem rowOutcome_links (casing : Casing) (encrypt : String → String) (cells : ImportCells)
    (rowNumber : ℕ) (db : Database) :
    let row := rowOutcome casing encrypt cells rowNumber db
    (∃ mid device, db.ChoosesCluster mid ∧ row.1.outcome = .imported device ∧
      device.id = mid.sequences.devices ∧
      (∀ k, device.clusterId = some k → k ∈ mid.clusters.map (·.id)) ∧
      (∀ d ∈ mid.devices, d.sameIdentity device = false) ∧
      row.2 = { mid with sequences := { mid.sequences with devices := mid.sequences.devices + 1 } }) ∨
    row.2 = db ∧ row.1.outcome.devices = [] ∧
      ∀ id batchId k, (row.1.result id batchId).deviceId = some k → k ∈ db.devices.map (·.id) := by
  unfold rowOutcome
  dsimp only
  split
  · exact Or.inr ⟨rfl, rfl, nofun⟩
  · rename_i parsed _
    split
    · rename_i duplicate hfind
      have hmem := List.mem_of_find?_eq_some hfind
      split_ifs
      · refine Or.inr ⟨rfl, rfl, ?_⟩
        rintro id batchId k ⟨⟩
        exact List.mem_map_of_mem hmem
      · refine Or.inr ⟨rfl, rfl, ?_⟩
        rintro id batchId k ⟨⟩
        exact List.mem_map_of_mem hmem
    · rename_i hnone
      split
      · exact Or.inr ⟨rfl, rfl, nofun⟩
      · exact Or.inr ⟨rfl, rfl, nofun⟩
      · rename_i cluster mid hcluster
        have hchooses := rowCluster_chooses hcluster
        have hsequence := hchooses.only.sequence.1
        refine Or.inl ⟨mid, _, hchooses, rfl, hsequence.symm, ?_, ?_, by rw [hsequence]⟩
        · intro k hk
          obtain ⟨c, hc, rfl⟩ := Option.map_eq_some_iff.mp hk
          exact List.mem_map_of_mem ((rowCluster_ok hcluster).1 c hc)
        · intro d hd
          rw [hchooses.only.devices] at hd
          have hother := List.find?_eq_none.mp hnone d hd
          simpa [Device.sameIdentity, ParsedRow.device] using hother

/-- The device of a row and its result are written together. -/
theorem Database.KeepsLinks.insertImported {device : Device} {row : ImportedRow} {batchId : ℕ}
    (hid : device.id = db.sequences.devices)
    (hcluster : ∀ k, device.clusterId = some k → k ∈ db.clusters.map (·.id))
    (hbatch : batchId ∈ db.importBatches.map (·.id)) (houtcome : row.outcome = .imported device) :
    db.KeepsLinks { ConnectionTopology.insertRowResult row batchId { db with
        sequences := { db.sequences with devices := db.sequences.devices + 1 } } with
      devices := db.devices ++ [device] } := by
  have hdevice : db.KeepsLinks (db.insertDevice device) := .insertDevice hid hcluster
  have hrow : (db.insertDevice device).KeepsLinks
      (ConnectionTopology.insertRowResult row batchId (db.insertDevice device)) := by
    have hstays : batchId ∈ (db.insertDevice device).importBatches.map (·.id) := hbatch
    apply Database.KeepsLinks.insertRowResult hstays
    intro k hk
    have hresult : (row.result db.sequences.importRowResults batchId).deviceId = some device.id := by
      unfold ImportedRow.result
      rw [houtcome]
    rw [← Option.some.inj (hresult.symm.trans hk)]
    exact List.mem_map_of_mem (List.mem_append_right _ List.mem_cons_self)
  exact hdevice.trans hrow

theorem importRow_extends (casing : Casing) (encrypt : String → String) (cells : ImportCells)
    (rowNumber : ℕ) {copy : ImportBatch} (hbatch : copy.id ∈ db.importBatches.map (·.id)) :
    db.Extends (importRow (rowOutcome casing encrypt cells rowNumber db).1 copy
      (rowOutcome casing encrypt cells rowNumber db).2).2 := by
  set row := rowOutcome casing encrypt cells rowNumber db with hrow
  obtain ⟨f, hf, heq⟩ := importRow_eq row.1 copy row.2
  rw [heq]
  have hupdate : ∀ mid : Database, mid.Extends (mid.updateImportBatch copy.id f) := by
    intro mid
    have hlinks := Database.KeepsLinks.updateImportBatch mid copy.id (fun b => (hf b).1)
      fun b => (hf b).2
    exact .of_tasks hlinks rfl rfl
  refine Database.Extends.trans ?_ (hupdate _)
  rcases rowOutcome_links casing encrypt cells rowNumber db with
    ⟨mid, device, hchooses, houtcome, hid, hcluster, -, hmid⟩ | ⟨hmid, hnone, hdevice⟩
  · rw [← hrow] at houtcome hmid
    rw [hmid, houtcome]
    have hchosen : db.Extends mid :=
      .of_tasks hchooses.grows (by rw [hchooses.only]) (by rw [hchooses.only])
    have hmem : copy.id ∈ mid.importBatches.map (·.id) := by rwa [hchooses.only]
    have hinserted := Database.KeepsLinks.insertImported hid hcluster hmem houtcome
    exact hchosen.trans (.of_tasks hinserted rfl rfl)
  · rw [← hrow] at hmid hnone hdevice
    rw [hmid, hnone, List.append_nil]
    exact .of_tasks (Database.KeepsLinks.insertRowResult hbatch (hdevice _ _)) rfl rfl

theorem importRows_extends (casing : Casing) (encrypt : String → String)
    {rows : List (ℕ × ImportCells)} {copy : ImportBatch}
    (hbatch : copy.id ∈ db.importBatches.map (·.id)) :
    db.Extends (importRows casing encrypt rows copy db).2 ∧
      (importRows casing encrypt rows copy db).1.id = copy.id := by
  induction rows generalizing copy db with
  | nil => exact ⟨.refl db, rfl⟩
  | cons row rest ih =>
    have hrow := importRow_extends casing encrypt row.2 row.1 hbatch
    have hid := (importRow_results (rowOutcome casing encrypt row.2 row.1 db).1 copy
      (rowOutcome casing encrypt row.2 row.1 db).2).1
    obtain ⟨hrest, hcopy⟩ := ih (hid ▸ hrow.grows.subset .importBatches hbatch)
    exact ⟨hrow.trans hrest, hcopy.trans hid⟩

theorem finishImport_extends (wall : Timestamp) (copy : ImportBatch) (db : Database) :
    db.Extends (finishImport wall copy db) :=
  .of_tasks (Database.KeepsLinks.updateImportBatch db copy.id (fun _ => rfl) fun _ => rfl) rfl rfl

theorem createImportBatch_extends (filename : String) (totalRows : ℕ) (db : Database) :
    db.Extends (createImportBatch filename totalRows db).2 :=
  .of_tasks (Database.KeepsLinks.createImportBatch filename totalRows db) rfl rfl

theorem importDevices_extends (casing : Casing) (encrypt : String → String) (filename : String)
    (rows : List (ℕ × ImportCells)) (wall : Timestamp) (db : Database) :
    db.Extends (importDevices casing encrypt filename rows wall db).2 := by
  have hcreated := createImportBatch_extends filename rows.length db
  have hbatch : (createImportBatch filename rows.length db).1.id ∈
      (createImportBatch filename rows.length db).2.importBatches.map (·.id) :=
    List.mem_map_of_mem (List.mem_append_right _ List.mem_cons_self)
  exact hcreated.trans ((importRows_extends casing encrypt hbatch).1.trans (finishImport_extends ..))

/-! ## Requests -/

theorem Database.ChoosesCluster.extends (h : db.ChoosesCluster db') : db.Extends db' :=
  .of_tasks h.grows (by rw [h.only]) (by rw [h.only])

theorem createDevice_extends {p : DeviceCreate} {device : Device}
    (hok : createDevice b p db = .ok (device, db')) : db.Extends db' := by
  obtain ⟨cluster, mid, hresolve, rfl, rfl⟩ := createDevice_ok hok
  refine (resolveCluster_chooses hresolve).extends.trans
    (.of_tasks (Database.KeepsLinks.insertDevice rfl fun k hk => ?_) rfl rfl)
  obtain ⟨c, hc, rfl⟩ := Option.map_eq_some_iff.mp hk
  exact List.mem_map_of_mem ((resolveCluster_ok hresolve).1 c hc)

theorem assignCluster_chooses {p : DeviceUpdate} {x y : DeviceDraft} {d : Device}
    (hok : p.assignCluster b x d db = .ok (y, db')) : db.ChoosesCluster db' := by
  unfold DeviceUpdate.assignCluster at hok
  split_ifs at hok
  · split at hok
    · cases hok
    · rename_i hresolve
      cases hok
      exact resolveCluster_chooses hresolve
    · rename_i hresolve
      split_ifs at hok
      cases hok
      exact resolveCluster_chooses hresolve
  · cases hok
    exact .refl db

theorem updateDevice_extends (h : db.Linked) {deviceId : ℕ} {p : DeviceUpdate} {device : Device}
    (hok : updateDevice b deviceId p db = .ok (device, db')) : db.Extends db' := by
  obtain ⟨old, hold, -, draft, mid, row, hassign, hflush, rfl, rfl⟩ := updateDevice_ok hok
  have hchooses := assignCluster_chooses hassign
  refine hchooses.extends.trans (.of_tasks (Database.KeepsLinks.updateDevice fun k hk => ?_) rfl rfl)
  rw [(withPassword_policy b p row).2.1, (flush_policy hflush).2.1] at hk
  obtain ⟨-, -, ⟨-, rfl, rfl⟩ | hnone | ⟨c, hc, hcluster, -⟩⟩ := assignCluster_ok hassign
  · exact h.linked .deviceCluster (List.mem_filterMap.mpr ⟨old, hold, hk⟩)
  · rw [hnone] at hk
    cases hk
  · rw [hcluster] at hk
    cases hk
    exact List.mem_map_of_mem hc

theorem editCluster_extends {clusterId : ℕ} {p : ClusterPayload} {members : List Device}
    (hok : editCluster b clusterId p db = .ok (members, db')) : db.Extends db' := by
  unfold editCluster at hok
  split_ifs at hok
  split at hok
  · cases hok
  · rename_i cluster hfind
    split at hok
    · cases hok
    · rename_i normalized _
      split at hok
      · cases hok
      · cases hok
      · split_ifs at hok
        split at hok
        · cases hok
        · rename_i replaced hreplace
          cases hok
          have hedit : db.Extends (db.updateCluster clusterId fun c =>
              { p.applyTo c with name := normalized }) :=
            .of_tasks (Database.KeepsLinks.mapClusters db fun _ => rfl) rfl rfl
          have hnetworks : (db.updateCluster clusterId fun c =>
              { p.applyTo c with name := normalized }).Extends replaced := by
            refine .of_tasks (Database.KeepsLinks.replaceInternalNetworks hreplace) ?_ ?_
            all_goals rw [(replaceInternalNetworks_frame hreplace).1]
          refine hedit.trans (hnetworks.trans (.of_tasks ?_ rfl rfl))
          exact Database.KeepsLinks.mapDevices replaced (fun _ _ => rfl) fun _ _ => Or.inl

theorem Database.Sound.deleteDevice (h : db.Sound) {deviceId : ℕ} {wall : Timestamp}
    (hok : deleteDevice deviceId wall db = .ok db') : db'.Sound := by
  unfold ConnectionTopology.deleteDevice at hok
  split_ifs at hok
  dsimp only at hok
  split_ifs at hok
  cases hok
  exact (h.extends (cancelDevice_extends deviceId wall db)).dropDevice deviceId

theorem Database.Sound.requestStep (h : db.Sound) {request : Request}
    (hstep : requestStep b db request = some db') : db'.Sound := by
  unfold ConnectionTopology.requestStep at hstep
  split at hstep
  · cases hstep
    exact h
  · rename_i r hperform
    cases hstep
    cases request with
    | createDevice payload =>
      obtain ⟨r, hcreate, rfl⟩ := Except.map_eq_ok hperform
      exact h.extends (createDevice_extends hcreate)
    | updateDevice deviceId payload =>
      obtain ⟨r, hupdate, rfl⟩ := Except.map_eq_ok hperform
      exact h.extends (updateDevice_extends h.linked hupdate)
    | deleteDevice deviceId wall =>
      simp only [performRequest] at hperform
      split at hperform
      · cases hperform
      · rename_i hdelete
        cases hperform
        exact h.deleteDevice hdelete
    | addCluster payload =>
      obtain ⟨r, hadd, rfl⟩ := Except.map_eq_ok hperform
      unfold addCluster at hadd
      split_ifs at hadd
      split at hadd
      · cases hadd
      · rename_i hcreate
        cases hadd
        have hcreated := (Database.ChoosesCluster.created hcreate).extends
        refine h.extends (hcreated.trans (.of_tasks ?_ rfl rfl))
        exact Database.KeepsLinks.mapClusters _ fun _ => rfl
    | editCluster clusterId payload => exact h.extends (editCluster_extends hperform)
    | removeCluster clusterId =>
      obtain ⟨r, hremove, rfl⟩ := Except.map_eq_ok hperform
      unfold removeCluster at hremove
      split_ifs at hremove
      cases hremove
      exact h.deleteCluster clusterId
    | importDevices filename rows wall =>
      cases hperform
      exact h.extends (importDevices_extends ..)

/-! ## Runs -/

theorem Database.Sound.empty : Database.Sound {} := by
  have howned : Database.RunsOwned {} := by
    intro t ht
    exact absurd ht List.not_mem_nil
  refine ⟨⟨fun t => ?_, fun t => ?_, fun f => ?_⟩, howned⟩
  · cases t <;> exact List.nodup_nil
  · cases t <;> exact nofun
  · cases f <;> exact nofun

theorem Database.Sound.appStep (h : db.Sound) {action : AppAction}
    (hstep : appStep b db action = some db') : db'.Sound := by
  cases action with
  | queue call =>
    simp only [ConnectionTopology.appStep] at hstep
    split_ifs at hstep with hown
    cases hstep
    exact h.perform hown
  | request request => exact h.requestStep hstep
  | createImportBatch filename totalRows =>
    cases hstep
    exact h.extends (createImportBatch_extends filename totalRows db)
  | importRow copy rowNumber cells =>
    simp only [ConnectionTopology.appStep] at hstep
    split_ifs at hstep with hcopy
    cases hstep
    obtain ⟨batch, hmem, hid⟩ := List.any_eq_true.mp hcopy
    refine h.extends (importRow_extends _ _ _ _ ?_)
    exact List.mem_map.mpr ⟨batch, hmem, of_decide_eq_true hid⟩
  | finishImport copy wall =>
    cases hstep
    exact h.extends (finishImport_extends wall copy db)
  | claimTests workerId localCapacity globalLimit leaseSeconds now wall =>
    cases hstep
    exact h.extends (claimImportTests_extends ..)
  | claimSpecific workerId rowId globalLimit leaseSeconds now wall =>
    cases hstep
    exact h.extends (claimSpecific_extends ..)
  | renewTests workerId rowIds leaseSeconds now =>
    cases hstep
    exact h.extends (renewImportTestLeases_extends ..)
  | saveResult workerId rowId outcome now wall =>
    simp only [ConnectionTopology.appStep] at hstep
    split at hstep
    · cases hstep
      exact h
    · rename_i hsave
      cases hstep
      exact h.extends (saveResult_extends hsave)
  | deleteScanRuns scanIds =>
    cases hstep
    exact h.deleteScanRuns scanIds
  | deleteConnectionRecords scanIds =>
    cases hstep
    exact h.deleteConnectionRecords scanIds
  | syncObservations lowerScanId upperScanId =>
    cases hstep
    exact h.extends (.of_tasks (Database.KeepsLinks.syncSql h.linked _ _) rfl rfl)

/-- Whatever the order of the transactions, no key is used twice, no reference dangles and every
task refers to a scan run of its own device. -/
theorem sound_of_run {actions : List AppAction}
    (hrun : Machine.run (appStep b) {} actions = some db) : db.Sound :=
  Machine.run_invariant Database.Sound (fun _ _ _ h hstep => h.appStep hstep) .empty hrun

/-- Two devices are added and the first is scanned; then the second one is deleted. -/
def scanThenDelete : List AppAction :=
  let device (name host : String) : AppAction := .request (.createDevice
    { name, host, osType := .linux, username := "root", password := "secret" })
  [device "web-01" "10.0.0.10", device "web-02" "10.0.0.11",
    .queue ⟨1, 1, .enqueueDevice 10 1 .manual 0 none⟩,
    .queue ⟨1, 1, .enqueueDevice 10 2 .manual 0 none⟩,
    .queue ⟨2, 2, .claimScanTasks "w" 1 5 60⟩,
    .queue ⟨3, 3, .persistOutcome "w" 1 ⟨1, .manual, .success, 2, 3, [], none, none, none⟩⟩,
    .request (.deleteDevice 2 4)]

theorem scanThenDelete_sound :
    ∃ db, Machine.run (appStep plainBackend) {} scanThenDelete = some db ∧
      db.devices.map (·.id) = [1] ∧ db.scanRuns.map (·.deviceId) = [1] ∧ db.Sound := by
  have hrun : ((Machine.run (appStep plainBackend) {} scanThenDelete).any fun db =>
      db.devices.map (·.id) = [1] ∧ db.scanRuns.map (·.deviceId) = [1]) = true := by decide +kernel
  obtain ⟨db, hdb, hrows⟩ := (Option.any_eq_true _ _).mp hrun
  obtain ⟨hdevices, hruns⟩ := of_decide_eq_true hrows
  exact ⟨db, hdb, hdevices, hruns, sound_of_run hdb⟩

end ConnectionTopology
