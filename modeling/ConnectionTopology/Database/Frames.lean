import ConnectionTopology.Database.Application

/-!
# What a transaction leaves alone

The queue writes neither the inventory nor what was scanned, but for the one transaction that
records a scan. The requests and the imports leave the scans alone, but for deletions.
-/
namespace ConnectionTopology

open ForeignKeys

variable {db db' db'' : Database} {b : Backend}

/-- What was scanned. -/
structure ScanHistory where
  scanRuns : List ScanRun
  connectionRecords : List ConnectionRecord
  observations : List ConnectionServiceObservation
  deriving DecidableEq, Repr

def Database.history (db : Database) : ScanHistory :=
  ⟨db.scanRuns, db.connectionRecords, db.observations⟩

/-- The tasks of the queue and what they brought. -/
structure Scans where
  tasks : List ScanTask
  history : ScanHistory
  deriving DecidableEq, Repr

def Database.scans (db : Database) : Scans := ⟨db.scanTasks, db.history⟩

/-- Nothing but the queue and the imports is written. -/
def Database.SameStore (db db' : Database) : Prop :=
  db'.clusters = db.clusters ∧ db'.devices = db.devices ∧ db'.history = db.history

theorem Database.SameStore.refl (db : Database) : db.SameStore db := ⟨rfl, rfl, rfl⟩

theorem Database.SameStore.trans (h : db.SameStore db') (h' : db'.SameStore db'') :
    db.SameStore db'' :=
  ⟨h'.1.trans h.1, h'.2.1.trans h.2.1, h'.2.2.trans h.2.2⟩

/-- Nothing but the tables of the queue is written, and which batch an import has. -/
def Database.LeavesRest (db db' : Database) : Prop :=
  db.SameStore db' ∧ db'.importRowResults = db.importRowResults

theorem Database.LeavesRest.refl (db : Database) : db.LeavesRest db := ⟨.refl db, rfl⟩

theorem Database.LeavesRest.trans (h : db.LeavesRest db') (h' : db'.LeavesRest db'') :
    db.LeavesRest db'' :=
  ⟨h.1.trans h'.1, h'.2.trans h.2⟩

theorem Database.LeavesRest.refresh (wall : Timestamp) (ids : List ℕ) (db : Database) :
    db.LeavesRest (refreshScanBatches wall ids db) := by
  rw [refreshScanBatches_eq]
  exact .refl db

/-! ## The queue -/

theorem enqueueInSession_rest {queueSize deviceId : ℕ} {trigger : ScanTrigger} {priority : ℤ}
    {batchId : Option ℕ} {wall : Timestamp} {task : ScanTask}
    (hok : enqueueInSession queueSize deviceId trigger priority batchId wall db = .ok (task, db')) :
    db.LeavesRest db' := by
  unfold enqueueInSession at hok
  split at hok
  · cases hok
  · split_ifs at hok
    split at hok
    · cases hok
    · rename_i reused mid hreuse
      have hreused : db.LeavesRest mid := by
        unfold reuseOrInsertTask at hreuse
        split at hreuse
        · split_ifs at hreuse
          cases hreuse
          exact .refl db
        · have hraised := Except.ok.inj hreuse
          unfold raisePriority at hraised
          split_ifs at hraised <;> cases hraised <;> exact .refl db
      split at hok
      · cases hok
        exact hreused
      · split at hok
        · cases hok
        · rename_i attached
          cases hok
          unfold attachBatchItem at attached
          split_ifs at attached <;> cases attached <;> exact hreused

theorem enqueueAll_rest {queueSize batchId : ℕ} {trigger : ScanTrigger} {priority : ℤ}
    {wall : Timestamp} {deviceIds : List ℕ}
    (hok : enqueueAll queueSize trigger priority batchId wall deviceIds db = .ok db') :
    db.LeavesRest db' := by
  induction deviceIds generalizing db with
  | nil =>
    cases hok
    exact .refl _
  | cons deviceId rest ih =>
    rw [enqueueAll] at hok
    split at hok
    · cases hok
    · rename_i hfirst
      exact (enqueueInSession_rest hfirst).trans (ih hok)

theorem createBatchInSession_rest {queueSize : ℕ} {batchType : ScanBatchType}
    {deviceIds : List ℕ} {clusterId sourceImportBatchId : Option ℕ} {wall : Timestamp}
    {batchId : ℕ} (hok : createBatchInSession queueSize batchType deviceIds clusterId
      sourceImportBatchId wall db = .ok (batchId, db')) : db.LeavesRest db' := by
  unfold createBatchInSession at hok
  dsimp only at hok
  split_ifs at hok
  split at hok
  · cases hok
  · rename_i hall
    cases hok
    have hloop := enqueueAll_rest hall
    exact hloop.trans (.refresh wall _ _)

theorem createImportScanBatch_rest {queueSize importBatchId : ℕ} {wall : Timestamp}
    {batchId : Option ℕ} (hok : createImportScanBatch queueSize importBatchId wall db =
      .ok (batchId, db')) : db.LeavesRest db' := by
  unfold createImportScanBatch at hok
  split at hok
  · cases hok
    exact .refl db
  · split at hok
    · cases hok
      exact .refl db
    · split at hok
      · cases hok
      · rename_i hcreate
        cases hok
        have hcreated := createBatchInSession_rest hcreate
        exact hcreated

theorem claimScanTasks_rest (workerId : String) (localCapacity globalLimit : ℤ)
    (leaseSeconds : ℕ) (now wall : Timestamp) (db : Database) :
    db.LeavesRest
      (claimScanTasks workerId localCapacity globalLimit leaseSeconds now wall db).2 := by
  unfold claimScanTasks
  split_ifs
  · exact .refl db
  · dsimp only
    refine Database.LeavesRest.trans ?_ (.refresh wall _ _)
    apply moveTasks_induction (P := db.LeavesRest)
    · apply moveTasks_induction (P := db.LeavesRest) _ _ (.refl db)
      exact fun _ _ _ hmid => hmid
    · exact fun _ _ _ hmid => hmid

theorem settleTask_rest (taskId : ℕ) (status : ScanTaskStatus) (f : ScanTask → ScanTask)
    (wall : Timestamp) (db : Database) : db.LeavesRest (settleTask taskId status f wall db) :=
  .refresh wall _ _

/-- The scan that a transaction records. -/
def Call.recorded? (call : Call) : Option ScanOutcome :=
  match call.transaction with
  | .persistOutcome _ _ outcome => some outcome
  | .recordTransactionConflict _ _ outcome => some (conflictOutcome outcome call.wall)
  | _ => none

theorem persistOutcome_rest {workerId : String} {taskId : ℕ} {outcome : ScanOutcome}
    {now wall : Timestamp} {success : Bool}
    (hok : persistOutcome workerId taskId outcome now wall db = .ok (success, db')) :
    ∃ run mid, addScanOutcome outcome db = .ok (run, mid) ∧ mid.LeavesRest db' := by
  unfold persistOutcome at hok
  split at hok
  · cases hok
  · split at hok
    · cases hok
    · rename_i run mid hadd
      cases hok
      exact ⟨run, mid, hadd, .refresh wall _ _⟩

theorem cancelDevice_rest (deviceId : ℕ) (wall : Timestamp) (db : Database) :
    db.LeavesRest (cancelDevice deviceId wall db).2 := by
  unfold cancelDevice
  split
  · exact .refl db
  · split_ifs
    · exact .refl db
    · exact Database.LeavesRest.refresh wall _ _

/-- A transaction of the queue records a scan or leaves everything else alone. -/
theorem perform_rest (call : Call) (db : Database) :
    db.LeavesRest (perform call db).2 ∨
      ∃ outcome run mid, call.recorded? = some outcome ∧ addScanOutcome outcome db = .ok (run, mid) ∧
        mid.LeavesRest (perform call db).2 := by
  obtain ⟨now, wall, transaction⟩ := call
  have hcommit : ∀ {α : Type} (reply : α → Reply) (result : Except QueueError (α × Database)),
      (∀ r, result = .ok r → db.LeavesRest r.2) →
        db.LeavesRest (Reply.commit reply db result).2 := by
    intro α reply result hok
    cases result with
    | error e => exact .refl db
    | ok r => exact hok r rfl
  have hrecord : ∀ (workerId : String) (taskId : ℕ) (outcome : ScanOutcome),
      db.LeavesRest (Reply.commit .settled db
        (persistOutcome workerId taskId outcome now wall db)).2 ∨
      ∃ run mid, addScanOutcome outcome db = .ok (run, mid) ∧ mid.LeavesRest
        (Reply.commit .settled db (persistOutcome workerId taskId outcome now wall db)).2 := by
    intro workerId taskId outcome
    cases hpersist : persistOutcome workerId taskId outcome now wall db with
    | error e => exact Or.inl (.refl db)
    | ok r => exact Or.inr (persistOutcome_rest hpersist)
  cases transaction with
  | enqueueDevice queueSize deviceId trigger priority batchId =>
    refine Or.inl (hcommit .task _ fun r hok => ?_)
    unfold enqueueDevice at hok
    split at hok
    · cases hok
    · rename_i hsession
      have hsame := enqueueInSession_rest hsession
      split at hok <;> cases hok
      · exact hsame
      · exact hsame.trans (.refresh wall _ _)
  | createBatch queueSize batchType deviceIds clusterId sourceImportBatchId =>
    exact Or.inl (hcommit (fun id => .batch (some id)) _ fun r => createBatchInSession_rest)
  | createImportScanBatch queueSize importBatchId =>
    exact Or.inl (hcommit .batch _ fun r => createImportScanBatch_rest)
  | claimScanTasks workerId localCapacity globalLimit leaseSeconds =>
    exact Or.inl (claimScanTasks_rest ..)
  | renewScanLeases workerId taskIds leaseSeconds =>
    left
    show db.LeavesRest (renewScanLeases workerId taskIds leaseSeconds now db).2
    unfold renewScanLeases
    split_ifs <;> exact .refl db
  | persistOutcome workerId taskId outcome =>
    refine (hrecord workerId taskId outcome).imp_right ?_
    exact fun ⟨run, mid, h⟩ => ⟨outcome, run, mid, rfl, h⟩
  | recordTransactionConflict workerId taskId outcome =>
    refine (hrecord workerId taskId (conflictOutcome outcome wall)).imp_right ?_
    exact fun ⟨run, mid, h⟩ => ⟨conflictOutcome outcome wall, run, mid, rfl, h⟩
  | failUnexpectedTask workerId taskId =>
    left
    unfold perform failUnexpectedTask
    dsimp only
    split
    · rename_i hok
      split at hok <;> cases hok
      exact settleTask_rest ..
    · exact .refl db
  | cancelDevice deviceId => exact Or.inl (cancelDevice_rest deviceId wall db)

/-- The inventory and what was scanned. -/
theorem perform_store (call : Call) (db : Database) :
    db.SameStore (perform call db).2 ∨
      ∃ outcome run mid, call.recorded? = some outcome ∧ addScanOutcome outcome db = .ok (run, mid) ∧
        mid.SameStore (perform call db).2 := by
  rcases perform_rest call db with hrest | ⟨outcome, run, mid, hrecorded, hadd, hrest⟩
  · exact Or.inl hrest.1
  · exact Or.inr ⟨outcome, run, mid, hrecorded, hadd, hrest.1⟩

/-- The rows of the imports, which no transaction of the queue writes. -/
theorem perform_importRows (call : Call) (db : Database) :
    (perform call db).2.importRowResults = db.importRowResults := by
  rcases perform_rest call db with hrest | ⟨outcome, run, mid, -, hadd, hrest⟩
  · exact hrest.2
  · refine hrest.2.trans ?_
    unfold addScanOutcome at hadd
    split at hadd
    · cases hadd
    · dsimp only at hadd
      rw [syncServiceObservations_eq] at hadd
      cases hadd
      rfl

/-! ## Connection tests -/

/-- Nothing but the imports is written. -/
def OnlyImports (db db' : Database) : Prop :=
  db' = { db with importBatches := db'.importBatches, importRowResults := db'.importRowResults }

theorem OnlyImports.store (h : OnlyImports db db') : db.SameStore db' := by
  rw [h]
  exact .refl db

theorem OnlyImports.scans (h : OnlyImports db db') : db'.scans = db.scans := by
  rw [h]
  rfl

theorem OnlyImports.refresh (wall : Timestamp) (ids : List ℕ) (h : OnlyImports db db') :
    OnlyImports db (refreshImportBatches wall ids db').2 := by
  unfold refreshImportBatches
  suffices hfold : ∀ (ids : List ℕ) (acc : List ℕ × Database), OnlyImports db acc.2 →
      OnlyImports db (ids.foldl (refreshImportBatch wall) acc).2 from hfold _ _ h
  intro ids
  induction ids with
  | nil => exact fun _ hacc => hacc
  | cons id rest ih =>
    intro acc hacc
    apply ih
    unfold refreshImportBatch
    split
    · exact hacc
    · have hwritten : OnlyImports db
          (acc.2.updateImportBatch id (refreshedImportBatch wall acc.2)) := by
        unfold OnlyImports at hacc ⊢
        rw [hacc]
        rfl
      dsimp only
      split_ifs <;> exact hwritten

theorem claimImportTests_only (workerId : String) (localCapacity globalLimit : ℤ)
    (leaseSeconds : ℕ) (now wall : Timestamp) (db : Database) : OnlyImports db
      (claimImportTests workerId localCapacity globalLimit leaseSeconds now wall db).2 := by
  unfold claimImportTests
  split_ifs
  · rfl
  · exact OnlyImports.refresh wall _ rfl

theorem claimSpecific_only (workerId : String) (rowId : ℕ) (globalLimit : ℤ) (leaseSeconds : ℕ)
    (now wall : Timestamp) (db : Database) :
    OnlyImports db (claimSpecific workerId rowId globalLimit leaseSeconds now wall db) := by
  unfold claimSpecific
  split
  · rfl
  · split_ifs
    · exact OnlyImports.refresh wall _ rfl
    · rfl

theorem renewImportTestLeases_only (workerId : String) (rowIds : List ℕ) (leaseSeconds : ℕ)
    (now : Timestamp) (db : Database) :
    OnlyImports db (renewImportTestLeases workerId rowIds leaseSeconds now db).2 := by
  unfold renewImportTestLeases
  split_ifs <;> rfl

theorem saveResult_only {workerId : String} {rowId : ℕ} {outcome : ImportTestOutcome}
    {now wall : Timestamp} {r : Option ℕ × Database}
    (hok : saveResult workerId rowId outcome now wall db = .ok r) : OnlyImports db r.2 := by
  unfold saveResult at hok
  split at hok
  · cases hok
  · cases hok
    exact OnlyImports.refresh wall _ rfl

/-! ## Requests and imports -/

theorem OnlyClusters.scans (h : OnlyClusters db db') : db'.scans = db.scans := by
  rw [h]
  rfl

theorem importRow_scans (casing : Casing) (encrypt : String → String) (cells : ImportCells)
    (rowNumber : ℕ) (copy : ImportBatch) (db : Database) :
    (importRow (rowOutcome casing encrypt cells rowNumber db).1 copy
      (rowOutcome casing encrypt cells rowNumber db).2).2.scans = db.scans := by
  obtain ⟨f, -, heq⟩ := importRow_eq (rowOutcome casing encrypt cells rowNumber db).1 copy
    (rowOutcome casing encrypt cells rowNumber db).2
  rw [heq]
  show (rowOutcome casing encrypt cells rowNumber db).2.scans = db.scans
  rcases rowOutcome_links casing encrypt cells rowNumber db with
    ⟨mid, device, hchooses, -, -, -, -, hmid⟩ | ⟨hmid, -, -⟩
  · rw [hmid]
    exact hchooses.only.scans
  · rw [hmid]

theorem importRows_scans (casing : Casing) (encrypt : String → String)
    (rows : List (ℕ × ImportCells)) (copy : ImportBatch) (db : Database) :
    (importRows casing encrypt rows copy db).2.scans = db.scans := by
  induction rows generalizing copy db with
  | nil => rfl
  | cons row rest ih => exact (ih _ _).trans (importRow_scans casing encrypt row.2 row.1 copy db)

/-- Neither what was scanned nor the rows of the imports. -/
def Database.KeepsRows (db db' : Database) : Prop :=
  db'.scans = db.scans ∧ db'.importRowResults = db.importRowResults

theorem OnlyClusters.keepsRows (h : OnlyClusters db db') : db.KeepsRows db' :=
  ⟨h.scans, h.importRowResults⟩

/-- A request deletes a device, imports a file or leaves scans and imports alone. -/
theorem requestStep_cases {request : Request} (hstep : requestStep b db request = some db') :
    db.KeepsRows db' ∨
      (∃ deviceId wall, request = .deleteDevice deviceId wall ∧
        deleteDevice deviceId wall db = .ok db') ∨
      ∃ filename rows wall, request = .importDevices filename rows wall ∧
        db' = (importDevices b.toCasing b.encrypt filename rows wall db).2 := by
  unfold requestStep at hstep
  split at hstep
  · cases hstep
    exact Or.inl ⟨rfl, rfl⟩
  · rename_i hperform
    cases hstep
    cases request with
    | createDevice payload =>
      left
      obtain ⟨r, hcreate, rfl⟩ := Except.map_eq_ok hperform
      obtain ⟨cluster, mid, hresolve, -, hinserted⟩ := createDevice_ok hcreate
      rw [hinserted]
      exact (resolveCluster_ok hresolve).2.1.keepsRows
    | updateDevice deviceId payload =>
      left
      obtain ⟨r, hupdate, rfl⟩ := Except.map_eq_ok hperform
      obtain ⟨old, -, -, draft, mid, row, hassign, -, -, hwritten⟩ := updateDevice_ok hupdate
      rw [hwritten]
      exact (assignCluster_ok hassign).1.keepsRows
    | deleteDevice deviceId wall =>
      right
      left
      simp only [performRequest] at hperform
      split at hperform
      · cases hperform
      · rename_i hdelete
        cases hperform
        exact ⟨deviceId, wall, rfl, hdelete⟩
    | addCluster payload =>
      left
      obtain ⟨r, hadd, rfl⟩ := Except.map_eq_ok hperform
      unfold addCluster at hadd
      split_ifs at hadd
      split at hadd
      · cases hadd
      · rename_i hcreate
        cases hadd
        exact (createCluster_frame hcreate).keepsRows
    | editCluster clusterId payload =>
      left
      simp only [performRequest] at hperform
      unfold editCluster at hperform
      split_ifs at hperform
      split at hperform
      · cases hperform
      · split at hperform
        · cases hperform
        · split at hperform
          · cases hperform
          · cases hperform
          · split_ifs at hperform
            split at hperform
            · cases hperform
            · rename_i hreplace
              cases hperform
              have hframe := (replaceInternalNetworks_frame hreplace).1
              have hscans := congrArg Database.scans hframe
              have hrows := congrArg Database.importRowResults hframe
              exact ⟨hscans, hrows⟩
    | removeCluster clusterId =>
      left
      obtain ⟨r, hremove, rfl⟩ := Except.map_eq_ok hperform
      unfold removeCluster at hremove
      split_ifs at hremove
      cases hremove
      exact ⟨rfl, rfl⟩
    | importDevices filename rows wall =>
      right
      right
      cases hperform
      exact ⟨filename, rows, wall, rfl, rfl⟩

/-- Only the deletion of a device touches the scans. -/
theorem requestStep_scans {request : Request} (hstep : requestStep b db request = some db') :
    db'.scans = db.scans ∨ ∃ deviceId wall, request = .deleteDevice deviceId wall ∧
      deleteDevice deviceId wall db = .ok db' := by
  rcases requestStep_cases hstep with ⟨hscans, -⟩ | hdelete | ⟨filename, rows, wall, -, rfl⟩
  · exact Or.inl hscans
  · exact Or.inr hdelete
  · exact Or.inl (importRows_scans b.toCasing b.encrypt rows _ _)

end ConnectionTopology
