import Mathlib.Tactic

/-!
# Tables of the application database

The rows follow `app/models.py`. A timestamp is the number of microseconds since
1970-01-01T00:00:00Z, the resolution of both Python and PostgreSQL. Surrogate
keys are drawn from per-table sequences, so an identifier is never reused.
Columns that no modelled function reads (creation and update times of devices
and clusters, the surrogate keys of batch items and observations) are left out.
-/
namespace ConnectionTopology

abbrev Timestamp := ℕ

def microsPerSecond : ℕ := 1000000

inductive OSType
  | linux
  | windows
  deriving DecidableEq, Repr

inductive ScanTrigger
  | manual
  | scheduled
  | import_
  | batch
  deriving DecidableEq, Repr

inductive ScanStatus
  | running
  | success
  | failed
  deriving DecidableEq, Repr

inductive ScanTaskStatus
  | pending
  | running
  | success
  | failed
  | cancelled
  deriving DecidableEq, Repr

inductive ScanBatchStatus
  | pending
  | running
  | completed
  deriving DecidableEq, Repr

inductive ScanBatchType
  | all
  | cluster
  | import_
  | retry
  deriving DecidableEq, Repr

inductive ImportBatchStatus
  | importing
  | testing
  | completed
  | failed
  deriving DecidableEq, Repr

inductive ImportStatus
  | imported
  | skipped
  | error
  deriving DecidableEq, Repr

inductive ImportTestStatus
  | pending
  | running
  | success
  | failed
  | notApplicable
  deriving DecidableEq, Repr

structure Cluster where
  id : ℕ
  name : String
  description : Option String := none
  historyRetentionDays : Option ℕ := none
  scanIntervalMinutes : ℕ := 5
  scheduledEnabled : Bool := true
  /-- The `cidr` column of the cluster's `internal_networks` rows. -/
  internalNetworks : List String := []
  deriving DecidableEq, Repr

structure Device where
  id : ℕ
  name : String
  host : String
  osType : OSType := .linux
  port : ℕ := 22
  username : String := ""
  encryptedPassword : String := ""
  clusterId : Option ℕ := none
  scanIntervalMinutes : ℕ := 5
  scheduledEnabled : Bool := true
  collectionEnabled : Bool := true
  historyRetentionDays : Option ℕ := none
  lastScanStatus : Option ScanStatus := none
  lastScanAt : Option Timestamp := none
  deriving DecidableEq, Repr

structure ScanRun where
  id : ℕ
  deviceId : ℕ
  triggerType : ScanTrigger := .scheduled
  status : ScanStatus
  startedAt : Timestamp
  finishedAt : Option Timestamp := none
  connectionCount : ℕ := 0
  warningMessage : Option String := none
  errorCode : Option String := none
  errorMessage : Option String := none
  deriving DecidableEq, Repr

structure ConnectionRecord where
  id : ℕ
  scanRunId : ℕ
  protocol : String
  addressFamily : String := "ipv4"
  localIp : String
  localPort : ℤ
  remoteIp : Option String
  remotePort : Option ℤ
  state : Option String := none
  pid : Option ℤ := none
  processName : Option String := none
  remoteHostname : Option String := none
  deriving DecidableEq, Repr

/-- One row per successful scan and service key. `remotePort` and `processName`
hold the coalesced key, `localIps`, `localPorts` and `pids` comma-separated sets. -/
structure ConnectionServiceObservation where
  scanRunId : ℕ
  deviceId : ℕ
  startedAt : Timestamp
  protocol : String
  remoteIp : String
  remotePort : ℤ
  processName : String
  sampleConnectionId : ℕ
  remoteHostname : Option String := none
  localIps : String
  localPorts : String
  pids : Option String := none
  deriving DecidableEq, Repr

structure ScanTask where
  id : ℕ
  deviceId : ℕ
  triggerType : ScanTrigger
  priority : ℤ
  status : ScanTaskStatus := .pending
  scanRunId : Option ℕ := none
  errorMessage : Option String := none
  createdAt : Timestamp := 0
  startedAt : Option Timestamp := none
  finishedAt : Option Timestamp := none
  workerId : Option String := none
  leaseExpiresAt : Option Timestamp := none
  heartbeatAt : Option Timestamp := none
  attemptCount : ℕ := 0
  deriving DecidableEq, Repr

structure ScanBatch where
  id : ℕ
  batchType : ScanBatchType
  status : ScanBatchStatus := .pending
  clusterId : Option ℕ := none
  sourceImportBatchId : Option ℕ := none
  totalTasks : ℕ := 0
  pendingTasks : ℕ := 0
  runningTasks : ℕ := 0
  successTasks : ℕ := 0
  failedTasks : ℕ := 0
  createdAt : Timestamp := 0
  finishedAt : Option Timestamp := none
  deriving DecidableEq, Repr

structure ScanBatchItem where
  batchId : ℕ
  taskId : ℕ
  deviceId : ℕ
  status : ScanTaskStatus := .pending
  deriving DecidableEq, Repr

structure ImportBatch where
  id : ℕ
  filename : String := ""
  status : ImportBatchStatus := .importing
  totalRows : ℕ := 0
  importedRows : ℕ := 0
  skippedRows : ℕ := 0
  errorRows : ℕ := 0
  testPendingRows : ℕ := 0
  testRunningRows : ℕ := 0
  testSuccessRows : ℕ := 0
  testFailedRows : ℕ := 0
  finishedAt : Option Timestamp := none
  scanBatchId : Option ℕ := none
  deriving DecidableEq, Repr

structure ImportRowResult where
  id : ℕ
  batchId : ℕ
  rowNumber : ℕ
  deviceName : Option String := none
  host : Option String := none
  deviceId : Option ℕ := none
  importStatus : ImportStatus
  importMessage : String := ""
  testStatus : ImportTestStatus := .notApplicable
  testMessage : Option String := none
  testWorkerId : Option String := none
  testLeaseExpiresAt : Option Timestamp := none
  testHeartbeatAt : Option Timestamp := none
  testAttemptCount : ℕ := 0
  deriving DecidableEq, Repr

/-- The next value of each table's key sequence. -/
structure Sequences where
  scanRuns : ℕ := 1
  connectionRecords : ℕ := 1
  scanTasks : ℕ := 1
  scanBatches : ℕ := 1
  importRowResults : ℕ := 1
  clusters : ℕ := 1
  devices : ℕ := 1
  importBatches : ℕ := 1
  deriving DecidableEq, Repr

/-- The committed contents of the database. -/
structure Database where
  clusters : List Cluster := []
  devices : List Device := []
  scanRuns : List ScanRun := []
  connectionRecords : List ConnectionRecord := []
  observations : List ConnectionServiceObservation := []
  scanTasks : List ScanTask := []
  scanBatches : List ScanBatch := []
  scanBatchItems : List ScanBatchItem := []
  importBatches : List ImportBatch := []
  importRowResults : List ImportRowResult := []
  sequences : Sequences := {}
  deriving DecidableEq, Repr

/-- `PENDING` and `RUNNING`, the states of the partial unique index on devices. -/
def ScanTaskStatus.isActive : ScanTaskStatus → Bool
  | .pending | .running => true
  | .success | .failed | .cancelled => false

/-- `TERMINAL_TASK_STATUSES`. -/
def ScanTaskStatus.isTerminal (s : ScanTaskStatus) : Bool := !s.isActive

end ConnectionTopology
