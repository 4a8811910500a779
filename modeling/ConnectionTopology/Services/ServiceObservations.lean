import ConnectionTopology.Models
import ConnectionTopology.Library.Dict
import ConnectionTopology.Library.Text
import Mathlib.Data.List.Sort

/-!
# Per-scan service observations

`_SYNC_SQL` of `service_observations.py` as a query over the tables: join the
records of the successful scans of an identifier window with their scans, group
them by the service key, and insert one row per group unless the unique
constraint already has it. Aggregated text is ordered by code points.
-/
namespace ConnectionTopology

/-- A connection as both collectors report it. -/
structure NormalizedConnection where
  protocol : String
  addressFamily : String
  localIp : String
  localPort : ℤ
  remoteIp : Option String
  remotePort : Option ℤ
  state : Option String
  pid : Option ℤ
  processName : Option String
  deriving DecidableEq, Repr

/-- The upper case of a character, exact for the characters whose upper case
consists of letters of `ESTABLISHED`; any other character stays outside them. -/
def upperChar (c : Char) : List Char :=
  match c with
  | 'ß' => ['S', 'S']
  | 'ı' => ['I']
  | 'ſ' => ['S']
  | 'ﬅ' => ['S', 'T']
  | 'ﬆ' => ['S', 'T']
  | c => [c.toUpper]

/-- `_KEPT_TCP_STATES`. -/
def keptTcpStates : List String := ["ESTAB", "ESTABLISHED"]

def keepConnectionRecord (row : NormalizedConnection) : Bool :=
  if row.remoteIp.isNone then true
  else if row.protocol = "udp" then true
  else String.ofList ((row.state.getD "").toList.flatMap upperChar) ∈ keptTcpStates

/-- `string_agg(DISTINCT value, ',')`; null for no rows. -/
def stringAggDistinct (values : List String) : Option String :=
  match values.dedup.insertionSort (· ≤ ·) with
  | [] => none
  | v :: vs => some (Text.join ',' (v :: vs))

/-- A row of the join: a record with a remote address, and its scan. -/
structure SyncRow where
  scan : ScanRun
  record : ConnectionRecord
  remoteIp : String
  deriving DecidableEq, Repr

/-- The `GROUP BY` list of `_SYNC_SQL`. -/
structure SyncKey where
  scanRunId : ℕ
  deviceId : ℕ
  startedAt : Timestamp
  protocol : String
  remoteIp : String
  remotePort : ℤ
  processName : String
  deriving DecidableEq, Repr

def SyncRow.key (row : SyncRow) : SyncKey where
  scanRunId := row.scan.id
  deviceId := row.scan.deviceId
  startedAt := row.scan.startedAt
  protocol := row.record.protocol
  remoteIp := row.remoteIp
  remotePort := row.record.remotePort.getD 0
  processName := row.record.processName.getD ""

/-- The `FROM`, `JOIN` and `WHERE` part of `_SYNC_SQL`. -/
def syncRows (lowerScanId upperScanId : ℕ) (db : Database) : List SyncRow :=
  db.connectionRecords.flatMap fun record =>
    match record.remoteIp with
    | none => []
    | some remoteIp =>
      (db.scanRuns.filter fun scan =>
        scan.id = record.scanRunId && lowerScanId ≤ scan.id && scan.id < upperScanId &&
          scan.status = .success).map fun scan => ⟨scan, record, remoteIp⟩

/-- The `SELECT` list of `_SYNC_SQL` for one group. -/
def syncObservation (key : SyncKey) (group : List SyncRow) : ConnectionServiceObservation where
  scanRunId := key.scanRunId
  deviceId := key.deviceId
  startedAt := key.startedAt
  protocol := key.protocol
  remoteIp := key.remoteIp
  remotePort := key.remotePort
  processName := key.processName
  sampleConnectionId := ((group.map (·.record.id)).max?).getD 0
  remoteHostname :=
    ((group.insertionSort fun a b => b.record.id ≤ a.record.id).filterMap
      (·.record.remoteHostname)).head?
  localIps := (stringAggDistinct (group.map (·.record.localIp))).getD ""
  localPorts := (stringAggDistinct (group.map fun row => toString row.record.localPort)).getD ""
  pids := stringAggDistinct (group.filterMap fun row => row.record.pid.map toString)

/-- The columns of `uq_observation_scan_service`. -/
def ConnectionServiceObservation.uniqueKey (o : ConnectionServiceObservation) :
    ℕ × String × String × ℤ × String :=
  (o.scanRunId, o.protocol, o.remoteIp, o.remotePort, o.processName)

/-- `ON CONFLICT ON CONSTRAINT uq_observation_scan_service DO NOTHING`. -/
def insertObservation (table : List ConnectionServiceObservation)
    (row : ConnectionServiceObservation) : List ConnectionServiceObservation :=
  if table.any (·.uniqueKey = row.uniqueKey) then table else table ++ [row]

def syncSql (lowerScanId upperScanId : ℕ) (db : Database) : Database :=
  { db with
    observations :=
      ((Grouping.groupBy SyncRow.key (syncRows lowerScanId upperScanId db)).map fun g =>
        syncObservation g.1 g.2).foldl insertObservation db.observations }

def syncServiceObservations (scan : ScanRun) (db : Database) : Database :=
  if scan.status = .success then syncSql scan.id (scan.id + 1) db else db

/-- `_SCAN_ID_BOUNDS_SQL`; null for no successful scan. -/
def scanIdBounds (db : Database) : Option (ℕ × ℕ) :=
  let ids := (db.scanRuns.filter (·.status = .success)).map (·.id)
  match ids.min?, ids.max? with
  | some least, some greatest => some (least, greatest)
  | _, _ => none

/-- The loop of `backfill_service_observations`, for at most `rounds` tests of its condition. -/
def backfillLoop (scanIdBatchSize maxScanId : ℕ) : ℕ → ℕ → Database → Option Database
  | 0, _, _ => none
  | rounds + 1, lower, db =>
    if lower ≤ maxScanId then
      let upper := lower + scanIdBatchSize
      backfillLoop scanIdBatchSize maxScanId rounds upper (syncSql lower upper db)
    else some db

def backfillServiceObservations (scanIdBatchSize : ℕ) (db : Database) : Option Database :=
  match scanIdBounds db with
  | none => some db
  | some (minScanId, maxScanId) =>
    backfillLoop scanIdBatchSize maxScanId (maxScanId - minScanId + 2) minScanId db

/-- A sync writes the observations only. -/
theorem syncServiceObservations_eq (scan : ScanRun) (db : Database) :
    syncServiceObservations scan db =
      { db with observations := (syncServiceObservations scan db).observations } := by
  unfold syncServiceObservations
  split_ifs <;> rfl

end ConnectionTopology
