import ConnectionTopology.Services.ScanQueue

/-!
# Connection tests of imported rows

`import_test_leases.py` and the transactions of `import_testing.py`: recounting a
batch from its rows, claiming rows, and saving the result of one row. Each
definition is one whole transaction.
-/
namespace ConnectionTopology

/-! ## Recounting -/

def Database.importRowsOf (db : Database) (batchId : ℕ) : List ImportRowResult :=
  db.importRowResults.filter (·.batchId = batchId)

def Database.importRowCount (db : Database) (batchId : ℕ) (status : ImportTestStatus) : ℕ :=
  (db.importRowsOf batchId).countP (·.testStatus = status)

def Database.importBatch? (db : Database) (batchId : ℕ) : Option ImportBatch :=
  db.importBatches.find? (·.id = batchId)

/-- Write some columns of one import batch. -/
def Database.updateImportBatch (db : Database) (batchId : ℕ) (f : ImportBatch → ImportBatch) :
    Database :=
  { db with importBatches := db.importBatches.map fun b => if b.id = batchId then f b else b }

/-- The body of the loop of `refresh_import_batches` for a batch that exists. -/
def refreshedImportBatch (wall : Timestamp) (db : Database) (batch : ImportBatch) : ImportBatch :=
  let pending := db.importRowCount batch.id .pending
  let running := db.importRowCount batch.id .running
  let counted : ImportBatch := { batch with
    testPendingRows := pending
    testRunningRows := running
    testSuccessRows := db.importRowCount batch.id .success
    testFailedRows := db.importRowCount batch.id .failed }
  if pending ≠ 0 ∨ running ≠ 0 then { counted with status := .testing, finishedAt := none }
  else { counted with status := .completed, finishedAt := some wall }

/-- One batch; the accumulator collects the batches that became completed. -/
def refreshImportBatch (wall : Timestamp) (acc : List ℕ × Database) (batchId : ℕ) :
    List ℕ × Database :=
  match acc.2.importBatch? batchId with
  | none => acc
  | some batch =>
    let refreshed := refreshedImportBatch wall acc.2 batch
    let db := acc.2.updateImportBatch batchId (refreshedImportBatch wall acc.2)
    if refreshed.status = .completed ∧ batch.status ≠ .completed then (acc.1 ++ [batchId], db)
    else (acc.1, db)

def refreshImportBatches (wall : Timestamp) (batchIds : List ℕ) (db : Database) :
    List ℕ × Database :=
  (batchIds.dedup.insertionSort (· ≤ ·)).foldl (refreshImportBatch wall) ([], db)

/-! ## Claims -/

/-- A running test whose lease is missing or over at `now`. -/
def ImportRowResult.isExpired (now : Timestamp) (r : ImportRowResult) : Bool :=
  r.testStatus = .running && (match r.testLeaseExpiresAt with
    | none => true
    | some lease => lease ≤ now)

def ImportRowResult.isLeased (now : Timestamp) (r : ImportRowResult) : Bool :=
  match r.testLeaseExpiresAt with
  | none => false
  | some lease => now < lease

/-- The `WHERE` clause of loading and saving: a live lease held by the worker. -/
def ImportRowResult.isHeldBy (workerId : String) (now : Timestamp) (r : ImportRowResult) : Bool :=
  r.testStatus = .running && r.testWorkerId = some workerId && r.isLeased now

def ImportRowResult.releaseLease (r : ImportRowResult) : ImportRowResult :=
  { r with testWorkerId := none, testLeaseExpiresAt := none, testHeartbeatAt := none }

/-- An expired row goes back to the queue. -/
def ImportRowResult.requeued (r : ImportRowResult) : ImportRowResult :=
  { r with testStatus := .pending, testMessage := none }.releaseLease

def ImportRowResult.claimedBy (workerId : String) (now leaseUntil : Timestamp)
    (r : ImportRowResult) : ImportRowResult :=
  { r with
    testStatus := .running
    testMessage := some "正在测试连接"
    testWorkerId := some workerId
    testLeaseExpiresAt := some leaseUntil
    testHeartbeatAt := some now
    testAttemptCount := r.testAttemptCount + 1 }

/-- Update the rows with the given keys. -/
def Database.updateImportRows (db : Database) (rowIds : List ℕ)
    (f : ImportRowResult → ImportRowResult) : Database :=
  { db with
    importRowResults := db.importRowResults.map fun r => if r.id ∈ rowIds then f r else r }

def activeTests (now : Timestamp) (db : Database) : ℕ :=
  db.importRowResults.countP fun r => r.testStatus = .running && r.isLeased now

def claimImportTests (workerId : String) (localCapacity globalLimit : ℤ) (leaseSeconds : ℕ)
    (now wall : Timestamp) (db : Database) : List ℕ × Database :=
  if localCapacity ≤ 0 then ([], db)
  else
    let expired := db.importRowResults.filter (·.isExpired now)
    let swept := db.updateImportRows (expired.map (·.id)) ImportRowResult.requeued
    let limit := min localCapacity (max (globalLimit - activeTests now swept) 0)
    let rows :=
      if limit ≠ 0 then
        ((swept.importRowResults.filter (·.testStatus = .pending)).insertionSort
          fun a b => a.id ≤ b.id).take limit.toNat
      else []
    let leaseUntil := now + leaseSeconds * microsPerSecond
    let claimed := swept.updateImportRows (rows.map (·.id))
      (ImportRowResult.claimedBy workerId now leaseUntil)
    (rows.map (·.id),
      (refreshImportBatches wall ((expired ++ rows).map (·.batchId)) claimed).2)

/-- `_claim_specific`: claim one pending row if the global limit leaves room. -/
def claimSpecific (workerId : String) (rowId : ℕ) (globalLimit : ℤ) (leaseSeconds : ℕ)
    (now wall : Timestamp) (db : Database) : Database :=
  match db.importRowResults.find? (·.id = rowId) with
  | none => db
  | some row =>
    if row.testStatus = .pending ∧ (activeTests now db : ℤ) < globalLimit then
      (refreshImportBatches wall [row.batchId] (db.updateImportRows [rowId]
        (ImportRowResult.claimedBy workerId now (now + leaseSeconds * microsPerSecond)))).2
    else db

/-- `renew_import_test_leases`: the rows that are no longer owned, and the renewed leases. -/
def renewImportTestLeases (workerId : String) (rowIds : List ℕ) (leaseSeconds : ℕ)
    (now : Timestamp) (db : Database) : List ℕ × Database :=
  if rowIds.isEmpty then ([], db)
  else
    let renews := fun r : ImportRowResult => decide (r.id ∈ rowIds) && r.isHeldBy workerId now
    let renewed := (db.importRowResults.filter renews).map (·.id)
    (rowIds.dedup.filter (· ∉ renewed), { db with
      importRowResults := db.importRowResults.map fun r =>
        if renews r then
          { r with
            testHeartbeatAt := some now
            testLeaseExpiresAt := some (now + leaseSeconds * microsPerSecond) }
        else r })

/-! ## Results -/

/-- `ImportTestLeaseLost`. -/
structure ImportTestLeaseLost where
  rowId : ℕ
  deriving DecidableEq, Repr

def ImportTestLeaseLost.message (e : ImportTestLeaseLost) : String :=
  "import test lease lost: " ++ toString e.rowId

/-- `ImportTestOutcome`; its status is `SUCCESS` or `FAILED`. -/
structure ImportTestOutcome where
  success : Bool
  message : String
  deriving DecidableEq, Repr

def ImportTestOutcome.status (outcome : ImportTestOutcome) : ImportTestStatus :=
  if outcome.success then .success else .failed

def heldRow (workerId : String) (rowId : ℕ) (now : Timestamp) (db : Database) :
    Option ImportRowResult :=
  db.importRowResults.find? fun r => r.id = rowId && r.isHeldBy workerId now

def ImportRowResult.withOutcome (outcome : ImportTestOutcome) (r : ImportRowResult) :
    ImportRowResult :=
  { r with testStatus := outcome.status, testMessage := some outcome.message }.releaseLease

/-- `_save_result_for_worker`: the batch that this result completed, if any. -/
def saveResult (workerId : String) (rowId : ℕ) (outcome : ImportTestOutcome)
    (now wall : Timestamp) (db : Database) : Except ImportTestLeaseLost (Option ℕ × Database) :=
  match heldRow workerId rowId now db with
  | none => .error ⟨rowId⟩
  | some row =>
    let saved := db.updateImportRows [row.id] (ImportRowResult.withOutcome outcome)
    let refreshed := refreshImportBatches wall [row.batchId] saved
    .ok (if row.batchId ∈ refreshed.1 then some row.batchId else none, refreshed.2)

/-- `_load_target`: claim the row if it is still pending, then find the device to test;
nothing when the device is gone. -/
def loadTarget (workerId : String) (rowId : ℕ) (globalLimit : ℤ) (leaseSeconds : ℕ)
    (now wall : Timestamp) (db : Database) :
    Except ImportTestLeaseLost (Option Device × Database) :=
  let db := claimSpecific workerId rowId globalLimit leaseSeconds now wall db
  match heldRow workerId rowId now db with
  | none => .error ⟨rowId⟩
  | some row => .ok (db.devices.find? fun d => some d.id = row.deviceId, db)

end ConnectionTopology
