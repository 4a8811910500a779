import ConnectionTopology.Services.ServiceObservations

/-!
# Persisting the outcome of one collection

`add_scan_outcome` writes the scan run, the kept connection rows, the service
observations of the run and the device's last scan fields.
-/
namespace ConnectionTopology

structure ScanOutcome where
  deviceId : ℕ
  trigger : ScanTrigger
  status : ScanStatus
  startedAt : Timestamp
  finishedAt : Timestamp
  connections : List NormalizedConnection := []
  warningMessage : Option String := none
  errorCode : Option String := none
  errorMessage : Option String := none
  deriving DecidableEq, Repr

/-- What a transaction of the scan queue can raise. -/
inductive QueueError
  | taskLeaseLost (taskId : ℕ)
  | deviceNotFound (deviceId : ℕ)
  | valueError
  | deviceCollectionDisabled
  | scanQueueFull
  | integrityError
  deriving DecidableEq, Repr

/-- `COLLECTION_DISABLED_MESSAGE`. -/
def collectionDisabledMessage : String := "该设备仅用于集群标注，未配置采集凭据"

/-- The text carried by each error; integrity violations keep the driver's own text. -/
def QueueError.message : QueueError → Option String
  | .taskLeaseLost taskId => some ("scan task lease lost: " ++ toString taskId)
  | .deviceNotFound deviceId => some ("设备 " ++ toString deviceId ++ " 不存在")
  | .valueError => some "设备不存在"
  | .deviceCollectionDisabled => some collectionDisabledMessage
  | .scanQueueFull => some "扫描队列已满，请稍后重试"
  | .integrityError => none

def ConnectionRecord.ofConnection (id scanRunId : ℕ) (row : NormalizedConnection) :
    ConnectionRecord where
  id := id
  scanRunId := scanRunId
  protocol := row.protocol
  addressFamily := row.addressFamily
  localIp := row.localIp
  localPort := row.localPort
  remoteIp := row.remoteIp
  remotePort := row.remotePort
  state := row.state
  pid := row.pid
  processName := row.processName

def scanRunOf (id : ℕ) (outcome : ScanOutcome) (connectionCount : ℕ) : ScanRun where
  id := id
  deviceId := outcome.deviceId
  triggerType := outcome.trigger
  status := outcome.status
  startedAt := outcome.startedAt
  finishedAt := some outcome.finishedAt
  connectionCount := connectionCount
  warningMessage := outcome.warningMessage
  errorCode := outcome.errorCode
  errorMessage := outcome.errorMessage

/-- The run and its kept connection rows, before observations are synced. -/
def insertScan (outcome : ScanOutcome) (db : Database) : ScanRun × Database :=
  let connections := outcome.connections.filter keepConnectionRecord
  let run := scanRunOf db.sequences.scanRuns outcome connections.length
  let records := (connections.zipIdx db.sequences.connectionRecords).map fun row =>
    ConnectionRecord.ofConnection row.2 run.id row.1
  (run, { db with
    scanRuns := db.scanRuns ++ [run]
    connectionRecords := db.connectionRecords ++ records
    sequences := { db.sequences with
      scanRuns := db.sequences.scanRuns + 1
      connectionRecords := db.sequences.connectionRecords + connections.length } })

def addScanOutcome (outcome : ScanOutcome) (db : Database) :
    Except QueueError (ScanRun × Database) :=
  match db.devices.find? (·.id = outcome.deviceId) with
  | none => .error (.deviceNotFound outcome.deviceId)
  | some device =>
    let inserted := insertScan outcome db
    let synced := syncServiceObservations inserted.1 inserted.2
    .ok (inserted.1, { synced with
      devices := synced.devices.map fun d =>
        if d.id = device.id then
          { d with lastScanStatus := some outcome.status, lastScanAt := some outcome.finishedAt }
        else d })

end ConnectionTopology
