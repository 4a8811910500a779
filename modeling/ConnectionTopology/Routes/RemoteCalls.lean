import ConnectionTopology.Library.Sessions
import ConnectionTopology.Routes.Devices
import ConnectionTopology.Services.DatabaseTransactions
import ConnectionTopology.Services.ImportTests

/-!
# Where remote hosts are called

`test_device`, `create_device`, `update_device`, `_execute_task` and `test_row` with the
sessions that they open, as programs of one thread. A value that a function reads comes from
the database that its statements see; the functions on databases say what is made of it.
How many statements a longer operation takes is left open, and each of them may fail. Caches,
the scheduler and the log do not touch a session and are left out.
-/
namespace ConnectionTopology.RemoteCalls

open Sessions

inductive CallKind
  | testConnection
  | collect
  deriving DecidableEq, Repr

/-- A call of a collector: its `DeviceConnectionSpec` and the password. -/
structure RemoteCall where
  kind : CallKind
  collector : OSType
  host : Option String
  port : Option ℕ
  username : Option String
  deviceId : Option ℕ := none
  password : String
  deriving DecidableEq, Repr

/-- `CollectionResult`; a connection test returns none. -/
structure CollectionResult where
  connections : List NormalizedConnection := []
  warning : Option String := none
  deriving DecidableEq, Repr

inductive Raised
  | database (failure : Failure String)
  /-- `DatabaseUnavailable` and `TransactionConflict`. -/
  | unavailable
  | conflict
  /-- An `HTTPException`. -/
  | api (error : ApiError)
  /-- `CollectorError`. -/
  | collector (code message : String)
  /-- `CredentialError`. -/
  | credential
  /-- `self.collectors[os_type]` without such a collector. -/
  | keyError
  | queue (error : QueueError)
  | rowLeaseLost (error : ImportTestLeaseLost)
  /-- `ScanAlreadyRunning`. -/
  | scanAlreadyRunning
  | other (message : String)
  deriving DecidableEq, Repr

/-- `str(exc)`. -/
def Raised.message : Raised → String
  | .database (.dbapi _ _ error) | .database (.poolTimeout error) | .database (.other error) => error
  | .unavailable => "数据库暂时不可用，请稍后重试"
  | .conflict => transactionConflictMessage
  | .api (.http _ detail) => detail
  | .api (.collector _ message) | .collector _ message => message
  | .api .validation | .api .internal => ""
  | .credential => "无法使用当前 APP_SECRET_KEY 解密设备凭据"
  | .keyError => "None"
  | .queue error => error.message.getD ""
  | .rowLeaseLost error => error.message
  | .scanAlreadyRunning => "该设备已有采集任务正在运行"
  | .other message => message

/-- `safe_error_message`. -/
def safeErrorMessage (message : String) (secrets : List String) : String :=
  String.ofList (((secrets.filter (· ≠ "")).foldl
    (fun cleaned secret => cleaned.replace secret "[REDACTED]") message).toList.take 500)

/-- What the thread meets. The functions of a number give what is found after so many
operations on the database. -/
structure Surroundings where
  workerId : String
  globalLimit : ℤ
  leaseSeconds : ℕ
  /-- `len(retry_delays)`. -/
  retries : ℕ
  casing : Casing
  decrypt : String → Option String
  /-- The collectors. -/
  reply : RemoteCall → Except Raised CollectionResult
  /-- What the operation raises. -/
  fault : ℕ → Option (Failure String)
  /-- The database that the statements see. -/
  view : ℕ → Database
  clock : ℕ → Timestamp
  /-- How many statements a longer operation takes. -/
  statements : ℕ → ℕ
  /-- Another collection holds the lock of the device. -/
  deviceLocked : ℕ → Bool
  /-- The heartbeat has marked the task or the row as lost. -/
  leaseLost : ℕ → Bool

variable (env : Surroundings)

/-! ## The database -/

def Surroundings.perform (session : ℕ) (op : Operation) : Program RemoteCall Raised Unit :=
  Sessions.perform (fun n => (env.fault n).map Raised.database) session op

/-- One statement and its result. -/
def Surroundings.select {α : Type} (session : ℕ) (f : Timestamp → Database → α) :
    Program RemoteCall Raised α := do
  let found ← ask fun n => f (env.clock n) (env.view n)
  env.perform session .statement
  pure found

/-- The statements of an operation and its result. -/
def Surroundings.work {α : Type} (session : ℕ) (f : Timestamp → Database → α) :
    Program RemoteCall Raised α := do
  let result ← ask fun n => f (env.clock n) (env.view n)
  let statements ← ask env.statements
  performAll (fun n => (env.fault n).map Raised.database) session statements
  pure result

/-- `_rollback_safely` swallows what the driver raises. -/
def rollbackSafely (session : ℕ) : Program RemoteCall Raised Unit :=
  tryCatch (env.perform session .rollback) fun e =>
    match e with
    | .database (.other _) => throw e
    | _ => pure ()

/-- The `for` loop of `PostgresTransactionRunner.run`, with the given number of attempts left.
The semaphore only delays an attempt. -/
def runAttempts {α : Type} (operation : ℕ → Program RemoteCall Raised α) :
    ℕ → Program RemoteCall Raised α
  | 0 => throw (.other "事务重试循环未返回")
  | left + 1 => do
    let session ← openSession
    tryCatch
      (closing session do
        let result ← operation session
        env.perform session .commit
        pure result)
      fun e =>
        match e with
        | .database (.dbapi sqlstate operational error) => do
          rollbackSafely env session
          if !(Failure.dbapi sqlstate operational error).isRetryable then
            throw (if operational then .unavailable else e)
          else if left = 0 then throw .conflict
          else runAttempts operation left
        | .database (.poolTimeout _) => do
          rollbackSafely env session
          throw .unavailable
        | _ => throw e

/-- `PostgresTransactionRunner.run`. -/
def runTransaction {α : Type} (operation : ℕ → Program RemoteCall Raised α) :
    Program RemoteCall Raised α :=
  runAttempts env operation (env.retries + 1)

/-- `_write_request`, with the `except` clauses of `guard`. -/
def writeRequest {α : Type} (body : Program RemoteCall Raised α) : Program RemoteCall Raised α :=
  tryCatch body fun e =>
    match e with
    | .database (.dbapi sqlstate operational error) =>
      if (Failure.dbapi sqlstate operational error).isRetryable then
        throw (.api (.http 503 transactionConflictMessage))
      else if operational then throw (.api (.http 503 Raised.unavailable.message))
      else throw e
    | .database (.poolTimeout _) => throw (.api (.http 503 Raised.unavailable.message))
    | _ => throw e

/-! ## Requests -/

/-- `ScanService.test_connection`. -/
def testConnection (osType : Option OSType) (host : Option String) (port : Option ℕ)
    (username : Option String) (password : String) : Program RemoteCall Raised CollectionResult :=
  match osType with
  | none => throw .keyError
  | some osType =>
    let call : RemoteCall := {
      kind := .testConnection
      collector := osType
      host := host
      port := port
      username := username
      password := password }
    remote call (env.reply call)

/-- The test of a request; a `CollectorError` is answered with 502. -/
def requestTest (osType : Option OSType) (host : Option String) (port : Option ℕ)
    (username : Option String) (password : String) : Program RemoteCall Raised CollectionResult :=
  tryCatch (testConnection env osType host port username password) fun e =>
    match e with
    | .collector code message => throw (.api (.collector code message))
    | _ => throw e

structure DeviceTest where
  host : String
  osType : OSType
  port : Option ℕ := none
  username : String
  password : String
  deriving DecidableEq, Repr

def DeviceTest.accepted (p : DeviceTest) : Bool :=
  lengthBetween 1 255 p.host && p.port.all (between 1 65535) && lengthBetween 1 255 p.username &&
    lengthBetween 1 1024 p.password

/-- `set_default_port`. -/
def DeviceTest.effectivePort (p : DeviceTest) : ℕ :=
  p.port.getD (if p.osType = .linux then 22 else 5985)

/-- `test_device`; `get_db` opens the session of a request and closes it at the end. -/
def testDevice (p : DeviceTest) : Program RemoteCall Raised Unit :=
  if !p.accepted then throw (.api .validation)
  else withSession fun _ => do
    let _ ← requestTest env (some p.osType) (some p.host) (some p.effectivePort) (some p.username)
      p.password

/-- An `IntegrityError`: the class 23 of SQL states. -/
def Raised.isIntegrity : Raised → Bool
  | .database (.dbapi (some sqlstate) _ _) => sqlstate.toList.take 2 = ['2', '3']
  | _ => false

/-- `resolve_cluster` in a handler; a `ValueError` is answered with 422. -/
def requestCluster (db : ℕ) (clusterId : Option ℕ) (newClusterName : Option String) :
    Program RemoteCall Raised (Option Cluster) := do
  let resolved ← env.work db fun _ view => resolveCluster env.casing clusterId newClusterName view
  match resolved with
  | .ok (cluster, _) => pure cluster
  | .error e =>
    match e.message with
    | none => throw (.database (.dbapi (some "23505") false ""))
    | some message =>
      env.perform db .rollback
      throw (.api (.http 422 message))

/-- The notification and the commit; the commit flushes. -/
def commitDevice (db : ℕ) : Program RemoteCall Raised Unit :=
  tryCatch
    (do
      env.perform db .statement
      env.perform db .commit)
    fun e =>
      if e.isIntegrity then do
        env.perform db .rollback
        throw (.api identityConflict)
      else throw e

/-- `create_device`. -/
def createDevice (p : DeviceCreate) : Program RemoteCall Raised Unit :=
  if !p.accepted then throw (.api .validation)
  else withSession fun db => do
    let _ ← requestTest env (some p.osType) (some p.host) (some p.effectivePort) (some p.username)
      p.password
    writeRequest do
      let _ ← requestCluster env db p.clusterId p.newClusterName
      commitDevice env db
      -- `db.refresh`
      env.perform db .statement
    -- `_system_retention_days`
    env.perform db .statement

/-- The part of `update_device` between the load and the write: a changed connection is tested. -/
def testChanged (p : DeviceUpdate) (device : Device) : Program RemoteCall Raised Unit := do
  let password := p.password.join.getD ""
  match (if password ≠ "" then some password else env.decrypt device.encryptedPassword) with
  | none => throw .credential
  | some effective =>
    if p.changesConnection then
      let _ ← requestTest env (p.osType.getD (some device.osType)) (p.host.getD (some device.host))
        (p.port.getD (some device.port)) (p.username.getD (some device.username)) effective

/-- The part of `update_device` after the test. -/
def writeUpdate (db : ℕ) (p : DeviceUpdate) : Program RemoteCall Raised Unit := do
  writeRequest do
    if p.choosesCluster then
      let _ ← requestCluster env db p.clusterId.join p.newClusterName.join
    commitDevice env db
    env.perform db .statement
  env.perform db .statement

/-- `update_device` with the session of the request. -/
def updateInSession (db deviceId : ℕ) (p : DeviceUpdate) : Program RemoteCall Raised Unit := do
  let found ← env.select db fun _ view => view.devices.find? (·.id = deviceId)
  match found with
  | none => throw (.api (.http 404 "设备不存在"))
  | some device =>
    testChanged env p device
    writeUpdate env db p

/-- `update_device`. -/
def updateDevice (deviceId : ℕ) (p : DeviceUpdate) : Program RemoteCall Raised Unit :=
  if !p.accepted then throw (.api .validation)
  else withSession fun db => updateInSession env db deviceId p

/-! ## Scans -/

/-- `ScanService._load_target`. -/
def loadScanTarget (deviceId : ℕ) : Program RemoteCall Raised Device :=
  withSession fun session => do
    let found ← env.select session fun _ view => view.devices.find? (·.id = deviceId)
    match found with
    | none => throw (.queue (.deviceNotFound deviceId))
    | some device =>
      if !device.collectionEnabled then throw (.queue .deviceCollectionDisabled)
      else pure device

/-- What `collect` makes of an exception. -/
def failedOutcome (deviceId : ℕ) (trigger : ScanTrigger) (startedAt finishedAt : Timestamp)
    (password : String) (e : Raised) : ScanOutcome where
  deviceId := deviceId
  trigger := trigger
  status := .failed
  startedAt := startedAt
  finishedAt := finishedAt
  errorCode := match e with
    | .collector code _ => some code
    | _ => some "internal_error"
  errorMessage := some (safeErrorMessage e.message [password])

/-- `ScanService.collect`. -/
def collect (deviceId : ℕ) (trigger : ScanTrigger) : Program RemoteCall Raised ScanOutcome := do
  let locked ← ask env.deviceLocked
  if locked then throw .scanAlreadyRunning
  else
    let target ← loadScanTarget env deviceId
    let startedAt ← ask env.clock
    match env.decrypt target.encryptedPassword with
    | none => pure (failedOutcome deviceId trigger startedAt startedAt "" .credential)
    | some password =>
      let call : RemoteCall := {
        kind := .collect
        collector := target.osType
        host := some target.host
        port := some target.port
        username := some target.username
        deviceId := some target.id
        password := password }
      tryCatch
        (do
          let result ← remote call (env.reply call)
          let finishedAt ← ask env.clock
          pure {
            deviceId := deviceId
            trigger := trigger
            status := .success
            startedAt := startedAt
            finishedAt := finishedAt
            connections := result.connections
            warningMessage := result.warning })
        fun e => do
          let finishedAt ← ask env.clock
          pure (failedOutcome deviceId trigger startedAt finishedAt password e)

/-- `_persist_outcome` in a transaction of its own. -/
def persistScan (taskId : ℕ) (outcome : ScanOutcome) : Program RemoteCall Raised Bool :=
  runTransaction env fun session => do
    let persisted ← env.work session fun now view =>
      persistOutcome env.workerId taskId outcome now now view
    match persisted with
    | .error e => throw (.queue e)
    | .ok (successful, _) => pure successful

/-- `_execute_task`. -/
def executeTask (taskId : ℕ) : Program RemoteCall Raised Unit := do
  let task ← withSession fun session => do
    let found ← env.select session fun now view => heldTask env.workerId taskId now view
    match found with
    | none => throw (.queue (.taskLeaseLost taskId))
    | some task => pure task
  let outcome ← collect env task.deviceId task.triggerType
  let lost ← ask env.leaseLost
  if lost then throw (.queue (.taskLeaseLost taskId))
  else
    tryCatch
      (do
        let _ ← persistScan env taskId outcome)
      fun e =>
        if e = .conflict then
          tryCatch
            (do
              let finishedAt ← ask env.clock
              let _ ← persistScan env taskId (conflictOutcome outcome finishedAt))
            fun e => if e = .unavailable ∨ e = .conflict then pure () else throw e
        else throw e

/-! ## Import tests -/

/-- `ImportTestService._load_target`: the device to test, if it is still there. -/
def loadImportTarget (rowId : ℕ) : Program RemoteCall Raised (Option Device) :=
  runTransaction env fun session => do
    let loaded ← env.work session fun now view =>
      loadTarget env.workerId rowId env.globalLimit env.leaseSeconds now now view
    match loaded with
    | .error e => throw (.rowLeaseLost e)
    | .ok (target, _) => pure target

/-- `_test_target`. -/
def testTarget (target : Option Device) : Program RemoteCall Raised ImportTestOutcome :=
  match target with
  | none => pure ⟨false, "导入设备不存在"⟩
  | some target =>
    match env.decrypt target.encryptedPassword with
    | none => pure ⟨false, safeErrorMessage Raised.credential.message [""]⟩
    | some password =>
      let call : RemoteCall := {
        kind := .testConnection
        collector := target.osType
        host := some target.host
        port := some target.port
        username := some target.username
        deviceId := some target.id
        password := password }
      tryCatch
        (do
          let _ ← remote call (env.reply call)
          pure ⟨true, "连接测试成功"⟩)
        fun e => pure ⟨false, safeErrorMessage e.message [password]⟩

/-- `_save_result`: the batch that this result completed, if any. -/
def saveRowResult (rowId : ℕ) (outcome : ImportTestOutcome) :
    Program RemoteCall Raised (Option ℕ) :=
  runTransaction env fun session => do
    let saved ← env.work session fun now view =>
      saveResult env.workerId rowId outcome now now view
    match saved with
    | .error e => throw (.rowLeaseLost e)
    | .ok (completed, _) => pure completed

/-- The last `except` clause of `test_row`. -/
def saveInternalFailure (rowId : ℕ) (e : Raised) : Program RemoteCall Raised Unit :=
  tryCatch
    (do
      runTransaction env fun session => env.work session fun _ _ => ()
      let _ ← saveRowResult env rowId
        ⟨false, "连接测试内部异常：" ++ safeErrorMessage e.message []⟩)
    fun e =>
      match e with
      | .rowLeaseLost _ => pure ()
      | _ => throw e

/-- `test_row`; its callback is `create_import_scan_batch`, one more transaction. -/
def testRow (rowId : ℕ) : Program RemoteCall Raised Unit :=
  tryCatch
    (do
      let target ← loadImportTarget env rowId
      let outcome ← testTarget env target
      let lost ← ask env.leaseLost
      if lost then throw (.rowLeaseLost ⟨rowId⟩)
      else
        let completed ← saveRowResult env rowId outcome
        if completed.isSome then
          runTransaction env fun session => env.work session fun _ _ => ())
    fun e =>
      match e with
      | .rowLeaseLost _ | .unavailable | .conflict => pure ()
      | _ => saveInternalFailure env rowId e

/-! ## The thread -/

/-- What leads to a remote call. -/
inductive Entry
  | testDevice (payload : DeviceTest)
  | createDevice (payload : DeviceCreate)
  | updateDevice (deviceId : ℕ) (payload : DeviceUpdate)
  | executeTask (taskId : ℕ)
  | testRow (rowId : ℕ)
  deriving DecidableEq, Repr

def Entry.program : Entry → Program RemoteCall Raised Unit
  | .testDevice payload => RemoteCalls.testDevice env payload
  | .createDevice payload => RemoteCalls.createDevice env payload
  | .updateDevice deviceId payload => RemoteCalls.updateDevice env deviceId payload
  | .executeTask taskId => RemoteCalls.executeTask env taskId
  | .testRow rowId => RemoteCalls.testRow env rowId

/-- A thread of a pool serves one entry after the other. -/
def serve (entries : List Entry) (t : Thread RemoteCall) : Thread RemoteCall :=
  entries.foldl (fun t entry => (entry.program env t).2) t

end ConnectionTopology.RemoteCalls
