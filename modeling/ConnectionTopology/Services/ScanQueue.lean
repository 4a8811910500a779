import ConnectionTopology.Services.TaskLeases

/-!
# The scan queue's transactions

`scan_queue.py`: enqueuing devices and batches, persisting or failing a task, and
cancelling. Every definition is one transaction of the service as a function of
the committed database; an error leaves the database as it was, because the
transaction is rolled back.
-/
namespace ConnectionTopology

def priorityScheduled : ℤ := 20
def priorityImport : ℤ := 60
def priorityBatch : ℤ := 80
def priorityManual : ℤ := 100

/-- `_active_task`: the device's task that is pending or running. -/
def activeTask (db : Database) (deviceId : ℕ) : Option ScanTask :=
  db.scanTasks.find? fun t => t.deviceId = deviceId && t.status.isActive

/-- `_active_count`. -/
def activeCount (db : Database) : ℕ := db.scanTasks.countP (·.status.isActive)

/-- `_attach_batch_item`. The foreign key refuses an item of a batch that is not there. -/
def attachBatchItem (batchId : ℕ) (task : ScanTask) (db : Database) :
    Except QueueError Database :=
  if db.scanBatchItems.any fun i => i.batchId = batchId && i.deviceId = task.deviceId then .ok db
  else if db.scanBatches.any (·.id = batchId) then
    .ok { db with scanBatchItems := db.scanBatchItems ++
      [{ batchId, taskId := task.id, deviceId := task.deviceId, status := task.status }] }
  else .error .integrityError

/-- `session.add(ScanTask(...)); session.flush()`. -/
def insertTask (deviceId : ℕ) (trigger : ScanTrigger) (priority : ℤ) (wall : Timestamp)
    (db : Database) : ScanTask × Database :=
  let task : ScanTask := {
    id := db.sequences.scanTasks
    deviceId := deviceId
    triggerType := trigger
    priority := priority
    createdAt := wall }
  (task, { db with
    scanTasks := db.scanTasks ++ [task]
    sequences := { db.sequences with scanTasks := db.sequences.scanTasks + 1 } })

/-- A repeated request may only raise the priority of the active task. -/
def raisePriority (task : ScanTask) (trigger : ScanTrigger) (priority : ℤ) (db : Database) :
    ScanTask × Database :=
  if task.priority < priority then
    ({ task with priority := priority, triggerType := trigger },
      db.updateTask task.id fun t => { t with priority := priority, triggerType := trigger })
  else (task, db)

/-- The device's active task, reused or newly queued. -/
def reuseOrInsertTask (queueSize deviceId : ℕ) (trigger : ScanTrigger) (priority : ℤ)
    (wall : Timestamp) (db : Database) : Except QueueError (ScanTask × Database) :=
  match activeTask db deviceId with
  | none =>
    if queueSize ≤ activeCount db then .error .scanQueueFull
    else .ok (insertTask deviceId trigger priority wall db)
  | some task => .ok (raisePriority task trigger priority db)

def enqueueInSession (queueSize deviceId : ℕ) (trigger : ScanTrigger) (priority : ℤ)
    (batchId : Option ℕ) (wall : Timestamp) (db : Database) :
    Except QueueError (ScanTask × Database) :=
  match db.devices.find? (·.id = deviceId) with
  | none => .error .valueError
  | some device =>
    if device.collectionEnabled = false then .error .deviceCollectionDisabled
    else
      match reuseOrInsertTask queueSize deviceId trigger priority wall db with
      | .error e => .error e
      | .ok (task, db) =>
        match batchId with
        | none => .ok (task, db)
        | some batchId =>
          match attachBatchItem batchId task db with
          | .error e => .error e
          | .ok db => .ok (task, db)

/-- `enqueue_device`: the identifier of the task that now covers the device. -/
def enqueueDevice (queueSize deviceId : ℕ) (trigger : ScanTrigger) (priority : ℤ)
    (batchId : Option ℕ) (wall : Timestamp) (db : Database) : Except QueueError (ℕ × Database) :=
  match enqueueInSession queueSize deviceId trigger priority batchId wall db with
  | .error e => .error e
  | .ok (task, db) =>
    match batchId with
    | none => .ok (task.id, db)
    | some batchId => .ok (task.id, refreshScanBatches wall [batchId] db)

/-- `_batch_trigger_and_priority`. -/
def batchTriggerAndPriority : ScanBatchType → ScanTrigger × ℤ
  | .import_ => (.import_, priorityImport)
  | .all | .cluster | .retry => (.batch, priorityBatch)

/-- `list(dict.fromkeys(device_ids))`: the first occurrences, in order. -/
def uniqueIds (deviceIds : List ℕ) : List ℕ :=
  deviceIds.foldl (fun seen id => if id ∈ seen then seen else seen ++ [id]) []

/-- The distinct requested devices that exist and are enabled for collection. -/
def selectedIds (db : Database) (deviceIds : List ℕ) : List ℕ :=
  (uniqueIds deviceIds).filter fun id =>
    db.devices.any fun d => d.id = id && d.collectionEnabled

/-- The loop of `_create_batch_in_session` over the selected devices. -/
def enqueueAll (queueSize : ℕ) (trigger : ScanTrigger) (priority : ℤ) (batchId : ℕ)
    (wall : Timestamp) : List ℕ → Database → Except QueueError Database
  | [], db => .ok db
  | deviceId :: rest, db =>
    match enqueueInSession queueSize deviceId trigger priority (some batchId) wall db with
    | .error e => .error e
    | .ok (_, db) => enqueueAll queueSize trigger priority batchId wall rest db

/-- The foreign keys and the unique `source_import_batch_id` of a new batch row. -/
def batchReferencesOk (db : Database) (clusterId sourceImportBatchId : Option ℕ) : Bool :=
  clusterId.all (fun c => db.clusters.any (·.id = c)) &&
    sourceImportBatchId.all fun i => db.importBatches.any (·.id = i) &&
      !db.scanBatches.any (·.sourceImportBatchId = some i)

def insertBatch (batchType : ScanBatchType) (clusterId sourceImportBatchId : Option ℕ)
    (wall : Timestamp) (db : Database) : ScanBatch × Database :=
  let batch : ScanBatch := {
    id := db.sequences.scanBatches
    batchType := batchType
    clusterId := clusterId
    sourceImportBatchId := sourceImportBatchId
    createdAt := wall }
  (batch, { db with
    scanBatches := db.scanBatches ++ [batch]
    sequences := { db.sequences with scanBatches := db.sequences.scanBatches + 1 } })

/-- `_create_batch_in_session`: the identifier of the new batch. -/
def createBatchInSession (queueSize : ℕ) (batchType : ScanBatchType) (deviceIds : List ℕ)
    (clusterId sourceImportBatchId : Option ℕ) (wall : Timestamp) (db : Database) :
    Except QueueError (ℕ × Database) :=
  let selected := selectedIds db deviceIds
  let activeDeviceIds :=
    ((db.scanTasks.filter fun t => decide (t.deviceId ∈ selected) && t.status.isActive).map
      (·.deviceId)).dedup
  let newTaskCount : ℤ := (selected.length : ℤ) - activeDeviceIds.length
  if (activeCount db : ℤ) + newTaskCount > queueSize then .error .scanQueueFull
  else if !batchReferencesOk db clusterId sourceImportBatchId then .error .integrityError
  else
    let inserted := insertBatch batchType clusterId sourceImportBatchId wall db
    let (trigger, priority) := batchTriggerAndPriority batchType
    match enqueueAll queueSize trigger priority inserted.1.id wall selected inserted.2 with
    | .error e => .error e
    | .ok db => .ok (inserted.1.id, refreshScanBatches wall [inserted.1.id] db)

def createBatch (queueSize : ℕ) (batchType : ScanBatchType) (deviceIds : List ℕ)
    (clusterId sourceImportBatchId : Option ℕ) (wall : Timestamp) (db : Database) :
    Except QueueError (ℕ × Database) :=
  createBatchInSession queueSize batchType deviceIds clusterId sourceImportBatchId wall db

/-- The devices of the import's successfully tested rows. -/
def importScanDeviceIds (db : Database) (importBatchId : ℕ) : List ℕ :=
  (db.importRowResults.filter fun r => r.batchId = importBatchId && r.testStatus = .success).filterMap
    (·.deviceId)

/-- `create_import_scan_batch`: nothing for an unknown import, the recorded batch
for one that has been scanned, else a new `IMPORT` batch. -/
def createImportScanBatch (queueSize importBatchId : ℕ) (wall : Timestamp) (db : Database) :
    Except QueueError (Option ℕ × Database) :=
  match db.importBatches.find? (·.id = importBatchId) with
  | none => .ok (none, db)
  | some importBatch =>
    match importBatch.scanBatchId with
    | some batchId => .ok (some batchId, db)
    | none =>
      match createBatchInSession queueSize .import_ (importScanDeviceIds db importBatchId) none
          (some importBatchId) wall db with
      | .error e => .error e
      | .ok (batchId, db) => .ok (some batchId, { db with
          importBatches := db.importBatches.map fun b =>
            if b.id = importBatchId then { b with scanBatchId := some batchId } else b })

/-- `SELECT ... WHERE id = task_id AND <live lease of the worker> FOR UPDATE`. -/
def heldTask (workerId : String) (taskId : ℕ) (now : Timestamp) (db : Database) :
    Option ScanTask :=
  db.scanTasks.find? fun t => t.id = taskId && t.isHeldBy workerId now

def settledStatus (outcome : ScanOutcome) : ScanTaskStatus :=
  if outcome.status = .success then .success else .failed

/-- Move a held task to a terminal state and refresh every batch it belongs to. -/
def settleTask (taskId : ℕ) (status : ScanTaskStatus) (f : ScanTask → ScanTask)
    (wall : Timestamp) (db : Database) : Database :=
  refreshScanBatches wall (db.itemBatchIds taskId)
    (db.moveTask taskId status fun t => (f t).releaseLease)

/-- The fields that `_persist_outcome` copies from the run and the outcome. -/
def ScanTask.withOutcome (run : ScanRun) (outcome : ScanOutcome) (t : ScanTask) : ScanTask :=
  { t with
    scanRunId := some run.id
    finishedAt := some outcome.finishedAt
    errorMessage := outcome.errorMessage }

/-- The fields that `_fail_unexpected_task` writes. -/
def ScanTask.withInternalError (wall : Timestamp) (t : ScanTask) : ScanTask :=
  { t with errorMessage := some "扫描任务发生内部错误", finishedAt := some wall }

/-- `_persist_outcome`: whether the outcome was a success. -/
def persistOutcome (workerId : String) (taskId : ℕ) (outcome : ScanOutcome)
    (now wall : Timestamp) (db : Database) : Except QueueError (Bool × Database) :=
  match heldTask workerId taskId now db with
  | none => .error (.taskLeaseLost taskId)
  | some task =>
    match addScanOutcome outcome db with
    | .error e => .error e
    | .ok (run, db) =>
      let status := settledStatus outcome
      .ok (status = .success, settleTask task.id status (ScanTask.withOutcome run outcome) wall db)

/-- `TRANSACTION_CONFLICT_MESSAGE`. -/
def transactionConflictMessage : String := "数据库事务冲突，请重试"

def conflictOutcome (outcome : ScanOutcome) (wall : Timestamp) : ScanOutcome where
  deviceId := outcome.deviceId
  trigger := outcome.trigger
  status := .failed
  startedAt := outcome.startedAt
  finishedAt := wall
  errorCode := some "transaction_conflict"
  errorMessage := some transactionConflictMessage

/-- `_record_transaction_conflict`: the same transaction with a failed outcome. -/
def recordTransactionConflict (workerId : String) (taskId : ℕ) (outcome : ScanOutcome)
    (now wall : Timestamp) (db : Database) : Except QueueError (Bool × Database) :=
  persistOutcome workerId taskId (conflictOutcome outcome wall) now wall db

/-- `_fail_unexpected_task`. -/
def failUnexpectedTask (workerId : String) (taskId : ℕ) (now wall : Timestamp) (db : Database) :
    Except QueueError Database :=
  match heldTask workerId taskId now db with
  | none => .error (.taskLeaseLost taskId)
  | some task => .ok (settleTask task.id .failed (ScanTask.withInternalError wall) wall db)

/-- `cancel_device`: false when the device's task is already running. -/
def cancelDevice (deviceId : ℕ) (wall : Timestamp) (db : Database) : Bool × Database :=
  match activeTask db deviceId with
  | none => (true, db)
  | some task =>
    if task.status = .running then (false, db)
    else (true, refreshScanBatches wall (db.itemBatchIds task.id)
      (db.moveTask task.id .cancelled fun t => { t with finishedAt := some wall }))

end ConnectionTopology
