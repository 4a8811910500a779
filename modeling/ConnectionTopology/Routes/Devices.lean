import ConnectionTopology.Services.ScanQueue
import ConnectionTopology.Services.Clusters

/-!
# Requests on devices

`create_device`, `update_device` and `delete_device` of `api.py`, each as a function of
the committed database. A payload that the schema refuses never reaches the handler.
`delete_device` cancels the pending scan and removes the device row in one transaction;
the foreign keys delete the device's scans, tasks and items and clear the reference of
its import results.
-/
namespace ConnectionTopology

/-- What the handlers use from outside: credentials and the connection test. -/
structure Backend extends Casing where
  encrypt : String → String
  decrypt : String → Option String
  /-- The code and text of the `CollectorError`, if the test fails. -/
  testConnection : Option OSType → Option String → Option ℕ → Option String → String →
    Option (String × String)

inductive ApiError
  /-- The schema refuses the payload. -/
  | validation
  | http (status : ℕ) (detail : String)
  | collector (code message : String)
  /-- An exception that no handler expects. -/
  | internal
  deriving DecidableEq, Repr

def ApiError.status : ApiError → ℕ
  | .validation => 422
  | .http status _ => status
  | .collector _ _ => 502
  | .internal => 500

/-- `except ValueError` of the device handlers. -/
def ClusterError.deviceError (e : ClusterError) : ApiError :=
  match e.message with
  | some message => .http 422 message
  | none => .internal

/-- `uq_device_identity`. -/
def Device.sameIdentity (a b : Device) : Bool :=
  a.host = b.host && a.port = b.port && a.username = b.username

def identityConflict : ApiError := .http 409 "相同地址、端口和用户名的设备已存在"

/-- `Field(min_length=..., max_length=...)`. -/
def lengthBetween (low high : ℕ) (text : String) : Bool := low ≤ text.length && text.length ≤ high

/-- `Field(ge=..., le=...)`. -/
def between (low high n : ℕ) : Bool := low ≤ n && n ≤ high

/-! ## Creating -/

structure DeviceCreate where
  name : String
  host : String
  osType : OSType
  port : Option ℕ := none
  username : String
  password : String
  scanIntervalMinutes : ℕ := 5
  scheduledEnabled : Bool := true
  historyRetentionDays : Option ℕ := none
  clusterId : Option ℕ := none
  newClusterName : Option String := none
  deriving DecidableEq, Repr

def DeviceCreate.accepted (p : DeviceCreate) : Bool :=
  lengthBetween 1 100 p.name && lengthBetween 1 255 p.host && p.port.all (between 1 65535) &&
    lengthBetween 1 255 p.username && lengthBetween 1 1024 p.password &&
    between 1 10080 p.scanIntervalMinutes && p.historyRetentionDays.all (between 1 3650) &&
    p.clusterId.all (1 ≤ ·) && p.newClusterName.all (lengthBetween 0 100) &&
    !(p.clusterId.isSome && p.newClusterName.getD "" ≠ "")

/-- `set_default_port`. -/
def DeviceCreate.effectivePort (p : DeviceCreate) : ℕ :=
  p.port.getD (if p.osType = .linux then 22 else 5985)

/-- The new row, with the scan values of its cluster. -/
def DeviceCreate.device (b : Backend) (p : DeviceCreate) (cluster : Option Cluster) (id : ℕ) :
    Device where
  id := id
  name := p.name
  host := p.host
  osType := p.osType
  port := p.effectivePort
  username := p.username
  encryptedPassword := b.encrypt p.password
  clusterId := cluster.map (·.id)
  scanIntervalMinutes := (clusterScanValues cluster p.scanIntervalMinutes p.scheduledEnabled).1
  scheduledEnabled := (clusterScanValues cluster p.scanIntervalMinutes p.scheduledEnabled).2
  historyRetentionDays := p.historyRetentionDays

def Database.insertDevice (db : Database) (device : Device) : Database :=
  { db with
    devices := db.devices ++ [device]
    sequences := { db.sequences with devices := db.sequences.devices + 1 } }

def createDevice (b : Backend) (p : DeviceCreate) (db : Database) :
    Except ApiError (Device × Database) :=
  if !p.accepted then .error .validation
  else
    match b.testConnection (some p.osType) (some p.host) (some p.effectivePort) (some p.username)
        p.password with
    | some (code, message) => .error (.collector code message)
    | none =>
      match resolveCluster b.toCasing p.clusterId p.newClusterName db with
      | .error e => .error e.deviceError
      | .ok (cluster, db) =>
        let device := p.device b cluster db.sequences.devices
        if db.devices.any device.sameIdentity then .error identityConflict
        else .ok (device, db.insertDevice device)

/-! ## Updating -/

/-- A field of a partial update: unset, null or a value. -/
abbrev UpdateField (α : Type) := Option (Option α)

structure DeviceUpdate where
  name : UpdateField String := none
  host : UpdateField String := none
  osType : UpdateField OSType := none
  port : UpdateField ℕ := none
  username : UpdateField String := none
  password : UpdateField String := none
  scanIntervalMinutes : UpdateField ℕ := none
  scheduledEnabled : UpdateField Bool := none
  historyRetentionDays : UpdateField ℕ := none
  clusterId : UpdateField ℕ := none
  newClusterName : UpdateField String := none
  deriving DecidableEq, Repr

def UpdateField.all {α : Type} (f : UpdateField α) (p : α → Bool) : Bool := f.join.all p

def DeviceUpdate.accepted (p : DeviceUpdate) : Bool :=
  UpdateField.all p.name (lengthBetween 1 100) && UpdateField.all p.host (lengthBetween 1 255) &&
    UpdateField.all p.port (between 1 65535) && UpdateField.all p.username (lengthBetween 1 255) &&
    UpdateField.all p.password (lengthBetween 0 1024) &&
    UpdateField.all p.scanIntervalMinutes (between 1 10080) &&
    UpdateField.all p.historyRetentionDays (between 1 3650) &&
    UpdateField.all p.clusterId (1 ≤ ·) && UpdateField.all p.newClusterName (lengthBetween 0 100) &&
    !(p.clusterId.join.isSome && p.newClusterName.join.getD "" ≠ "")

/-- The device object between `setattr` and the flush; a column may be null there. -/
structure DeviceDraft where
  name : Option String
  host : Option String
  osType : Option OSType
  port : Option ℕ
  username : Option String
  scanIntervalMinutes : Option ℕ
  scheduledEnabled : Option Bool
  historyRetentionDays : Option ℕ
  clusterId : Option ℕ
  deriving DecidableEq, Repr

def DeviceUpdate.draft (p : DeviceUpdate) (d : Device) : DeviceDraft where
  name := p.name.getD (some d.name)
  host := p.host.getD (some d.host)
  osType := p.osType.getD (some d.osType)
  port := p.port.getD (some d.port)
  username := p.username.getD (some d.username)
  scanIntervalMinutes := p.scanIntervalMinutes.getD (some d.scanIntervalMinutes)
  scheduledEnabled := p.scheduledEnabled.getD (some d.scheduledEnabled)
  historyRetentionDays := p.historyRetentionDays.getD d.historyRetentionDays
  clusterId := d.clusterId

/-- The row that a flush writes; `none` is a violated `NOT NULL`. -/
def DeviceDraft.flush (x : DeviceDraft) (d : Device) : Option Device :=
  match x.name, x.host, x.osType, x.port, x.username, x.scanIntervalMinutes, x.scheduledEnabled with
  | some name, some host, some osType, some port, some username, some interval, some enabled =>
    some { d with
      name := name
      host := host
      osType := osType
      port := port
      username := username
      scanIntervalMinutes := interval
      scheduledEnabled := enabled
      historyRetentionDays := x.historyRetentionDays
      clusterId := x.clusterId }
  | _, _, _, _, _, _, _ => none

/-- The row may be written next to the other devices. -/
def Database.admitsDevice (db : Database) (device : Device) : Bool :=
  db.devices.all fun d => d.id = device.id || !d.sameIdentity device

def DeviceUpdate.choosesCluster (p : DeviceUpdate) : Bool :=
  p.clusterId.isSome || p.newClusterName.join.getD "" ≠ ""

/-- The block under `if cluster_id_was_set or new_cluster_name`. A new cluster is flushed
together with the changed device. -/
def DeviceUpdate.assignCluster (b : Backend) (p : DeviceUpdate) (x : DeviceDraft) (d : Device)
    (db : Database) : Except ApiError (DeviceDraft × Database) :=
  if p.choosesCluster then
    match resolveCluster b.toCasing p.clusterId.join p.newClusterName.join db with
    | .error e => .error e.deviceError
    | .ok (none, db') => .ok ({ x with clusterId := none }, db')
    | .ok (some cluster, db') =>
      if db'.clusters.length ≠ db.clusters.length && !(x.flush d).any db.admitsDevice then
        .error .internal
      else .ok ({ x with
        clusterId := some cluster.id
        scanIntervalMinutes := some cluster.scanIntervalMinutes
        scheduledEnabled := some cluster.scheduledEnabled }, db')
  else .ok (x, db)

def DeviceUpdate.changesConnection (p : DeviceUpdate) : Bool :=
  p.host.isSome || p.port.isSome || p.username.isSome || p.osType.isSome ||
    p.password.join.getD "" ≠ ""

/-- A non-empty new password also enables collection. -/
def DeviceUpdate.withPassword (b : Backend) (p : DeviceUpdate) (d : Device) : Device :=
  let password := p.password.join.getD ""
  if password ≠ "" then
    { d with encryptedPassword := b.encrypt password, collectionEnabled := true }
  else d

/-- The test of the changed connection, with the new or the stored password. -/
def DeviceUpdate.testError (b : Backend) (p : DeviceUpdate) (d : Device) : Option ApiError :=
  let password := p.password.join.getD ""
  match (if password ≠ "" then some password else b.decrypt d.encryptedPassword) with
  | none => some .internal
  | some effective =>
    if p.changesConnection then
      (b.testConnection (p.osType.getD (some d.osType)) (p.host.getD (some d.host))
        (p.port.getD (some d.port)) (p.username.getD (some d.username)) effective).map
        fun e => .collector e.1 e.2
    else none

def Database.updateDevice (db : Database) (device : Device) : Database :=
  { db with devices := db.devices.map fun d => if d.id = device.id then device else d }

def updateDevice (b : Backend) (deviceId : ℕ) (p : DeviceUpdate) (db : Database) :
    Except ApiError (Device × Database) :=
  if !p.accepted then .error .validation
  else
    match db.devices.find? (·.id = deviceId) with
    | none => .error (.http 404 "设备不存在")
    | some device =>
      match p.testError b device with
      | some e => .error e
      | none =>
        match p.assignCluster b (p.draft device) device db with
        | .error e => .error e
        | .ok (draft, db) =>
          match draft.flush device with
          | none => .error identityConflict
          | some row =>
            let row := p.withPassword b row
            if db.admitsDevice row then .ok (row, db.updateDevice row) else .error identityConflict

/-! ## Deleting -/

/-- `db.delete(device)` with the `ON DELETE` rules of the tables that refer to it. -/
def Database.dropDevice (db : Database) (deviceId : ℕ) : Database :=
  let gone := fun scanRunId => db.scanRuns.any fun r => r.id = scanRunId && r.deviceId = deviceId
  { db with
    devices := db.devices.filter (·.id ≠ deviceId)
    scanRuns := db.scanRuns.filter (·.deviceId ≠ deviceId)
    connectionRecords := db.connectionRecords.filter fun c => !gone c.scanRunId
    observations := db.observations.filter fun o => o.deviceId ≠ deviceId && !gone o.scanRunId
    scanTasks := db.scanTasks.filter (·.deviceId ≠ deviceId)
    scanBatchItems := db.scanBatchItems.filter fun i => i.deviceId ≠ deviceId &&
      !db.scanTasks.any fun t => t.id = i.taskId && t.deviceId = deviceId
    importRowResults := db.importRowResults.map fun r =>
      if r.deviceId = some deviceId then { r with deviceId := none } else r }

inductive DeleteError
  | notFound
  | scanning
  deriving DecidableEq, Repr

def DeleteError.status : DeleteError → ℕ
  | .notFound => 404
  | .scanning => 409

def DeleteError.detail : DeleteError → String
  | .notFound => "设备不存在"
  | .scanning => "该设备正在扫描，请稍后再删除"

/-- `delete_device`: the committed database, or the refused request. -/
def deleteDevice (deviceId : ℕ) (wall : Timestamp) (db : Database) : Except DeleteError Database :=
  if db.devices.any (·.id = deviceId) then
    let cancelled := cancelDevice deviceId wall db
    if cancelled.1 then .ok (cancelled.2.dropDevice deviceId) else .error .scanning
  else .error .notFound

end ConnectionTopology
