import ConnectionTopology.Services.ServiceObservations
import ConnectionTopology.Collectors.Base
import Mathlib.Data.Finset.Sort
import Mathlib.Data.Prod.Lex

/-!
# Service groups of a time window

`topology_history.py`: the plain aggregation of raw connection rows, and the queries
that aggregate the per-scan observations instead. A time is kept as a timestamp where
the source renders it with `isoformat`. Python sets are finite sets. `str` stands for
the text of a key tuple, by which the result is ordered.
-/
namespace ConnectionTopology

inductive TopologyWindow
  | current
  | oneDay
  | threeDays
  | sevenDays
  deriving DecidableEq, Repr

/-- `WINDOW_DELTAS`; the current window has none. -/
def TopologyWindow.delta : TopologyWindow → Option ℕ
  | .current => none
  | .oneDay => some (24 * 3600 * microsPerSecond)
  | .threeDays => some (72 * 3600 * microsPerSecond)
  | .sevenDays => some (168 * 3600 * microsPerSecond)

/-- A service key, raw or normalized. -/
structure ServiceKey where
  deviceId : ℕ
  protocol : String
  remoteIp : String
  remotePort : Option ℤ
  processName : String
  deriving DecidableEq, Repr

/-- The entries of a service that come from its latest row. -/
structure ServiceValues where
  id : ℕ
  protocol : String
  addressFamily : String
  localIp : String
  localPort : Option ℤ
  remoteIp : String
  remotePort : Option ℤ
  state : Option String
  pid : Option ℤ
  processName : Option String
  remoteHostname : Option String
  sourceDeviceId : ℕ
  scanId : ℕ
  scanTime : Timestamp
  deriving DecidableEq, Repr

structure Service extends ServiceValues where
  isCurrent : Bool
  firstSeen : Timestamp
  lastSeen : Timestamp
  observationCount : ℕ
  observedLocalIps : List String
  observedLocalPorts : List ℤ
  observedPids : List ℤ
  deriving DecidableEq, Repr

/-- The truth value of an optional text. -/
def truthy (a : Option String) : Bool := a.getD "" ≠ ""

/-- Python `a or b` for optional texts. -/
def orText (a b : Option String) : Option String := if truthy a then a else b

/-! ## Current scans -/

/-- The first row of a device's partition: `ORDER BY started_at DESC, id DESC`. -/
def latestScan (deviceId : ℕ) (db : Database) : Option ScanRun :=
  ((db.scanRuns.filter fun s => s.deviceId = deviceId ∧ s.status = .success).insertionSort
    fun a b => toLex (b.startedAt, b.id) ≤ toLex (a.startedAt, a.id)).head?

/-- The values of the dictionary; a scan stands under its device. -/
def loadCurrentScans (deviceIds : List ℕ) (db : Database) : List ScanRun :=
  (deviceIds.dedup.insertionSort (· ≤ ·)).filterMap (latestScan · db)

/-! ## Plain aggregation -/

structure ConnectionObservation where
  scanId : ℕ
  deviceId : ℕ
  startedAt : Timestamp
  row : ConnectionRecord
  deriving DecidableEq, Repr

/-- The sort key `(started_at, scan_id, row.id)`. -/
def ConnectionObservation.marker (o : ConnectionObservation) : ℕ ×ₗ ℕ ×ₗ ℕ :=
  toLex (o.startedAt, toLex (o.scanId, o.row.id))

/-- `_service_key`, for the rows that the loop does not skip. -/
def ConnectionObservation.key? (o : ConnectionObservation) : Option ServiceKey :=
  match o.row.remoteIp with
  | none => none
  | some remoteIp =>
    if isLoopbackAddress remoteIp then none
    else some
      { deviceId := o.deviceId
        protocol := o.row.protocol
        remoteIp := normalizeIpAddress remoteIp
        remotePort := o.row.remotePort
        processName := o.row.processName.getD "" }

/-- `connection_dict` with the normalized remote address, and the scan of the row. -/
def ConnectionObservation.values (o : ConnectionObservation) (remoteIp : String) :
    ServiceValues where
  id := o.row.id
  protocol := o.row.protocol
  addressFamily := addressFamily (normalizeIpAddress o.row.localIp)
  localIp := normalizeIpAddress o.row.localIp
  localPort := some o.row.localPort
  remoteIp := remoteIp
  remotePort := o.row.remotePort
  state := o.row.state
  pid := o.row.pid
  processName := o.row.processName
  remoteHostname := o.row.remoteHostname
  sourceDeviceId := o.deviceId
  scanId := o.scanId
  scanTime := o.startedAt

/-- The working copy of one service. -/
structure Bucket extends ServiceValues where
  isCurrent : Bool
  firstSeen : Timestamp
  lastSeen : Timestamp
  scanIds : Finset ℕ
  localIps : Finset String
  localPorts : Finset ℤ
  pids : Finset ℤ

/-- One pass of the loop over the sorted rows, for a row of key `item.1`. -/
def Bucket.observe (currentScanIds : List ℕ) (bucket : Option Bucket)
    (item : ServiceKey × ConnectionObservation) : Bucket :=
  let o := item.2
  let values := o.values item.1.remoteIp
  match bucket with
  | none =>
    { values with
      isCurrent := o.scanId ∈ currentScanIds
      firstSeen := o.startedAt
      lastSeen := o.startedAt
      scanIds := {o.scanId}
      localIps := {values.localIp}
      localPorts := {o.row.localPort}
      pids := values.pid.toFinset }
  | some b =>
    { values with
      remoteHostname := orText values.remoteHostname b.remoteHostname
      sourceDeviceId := b.sourceDeviceId
      isCurrent := b.isCurrent || o.scanId ∈ currentScanIds
      firstSeen := b.firstSeen
      lastSeen := o.startedAt
      scanIds := insert o.scanId b.scanIds
      localIps := insert values.localIp b.localIps
      localPorts := insert o.row.localPort b.localPorts
      pids := b.pids ∪ values.pid.toFinset }

/-! Shortcuts to what `Finset.sort` needs of the two orders. -/

instance isTrans_int_le : IsTrans ℤ fun a b => a ≤ b := inferInstance

instance antisymm_int_le : Std.Antisymm fun a b : ℤ => a ≤ b := inferInstance

instance isTrans_string_le : IsTrans String fun a b => a ≤ b := inferInstance

instance antisymm_string_le : Std.Antisymm fun a b : String => a ≤ b := inferInstance

def Bucket.service (b : Bucket) : Service :=
  { b.toServiceValues with
    isCurrent := b.isCurrent
    firstSeen := b.firstSeen
    lastSeen := b.lastSeen
    observationCount := b.scanIds.card
    observedLocalIps := b.localIps.sort
    observedLocalPorts := b.localPorts.sort
    observedPids := b.pids.sort }

/-- `[groups[key] for key in sorted(groups, key=str)]`. -/
def sortedByKey {ν : Type} (str : ServiceKey → String) (groups : Dict ServiceKey ν) :
    List (ServiceKey × ν) :=
  groups.entries.insertionSort fun a b => str a.1 ≤ str b.1

def aggregateConnectionObservations (str : ServiceKey → String)
    (observations : List ConnectionObservation) (currentScanIds : List ℕ) : List Service :=
  let sorted := observations.insertionSort fun a b => a.marker ≤ b.marker
  let keyed := sorted.filterMap fun o => o.key?.map (·, o)
  let groups := Dict.collect Prod.fst (Bucket.observe currentScanIds) keyed
  (sortedByKey str groups).map fun g => g.2.service

/-- `scan.connections`. -/
def ScanRun.connections (scan : ScanRun) (db : Database) : List ConnectionRecord :=
  db.connectionRecords.filter (·.scanRunId = scan.id)

/-- The rows of the scans, each with its scan. -/
def connectionObservations (scans : List ScanRun) (db : Database) : List ConnectionObservation :=
  scans.flatMap fun scan => (scan.connections db).map fun row =>
    { scanId := scan.id, deviceId := scan.deviceId, startedAt := scan.startedAt, row := row }

def aggregateServiceConnections (str : ServiceKey → String) (scans : List ScanRun)
    (currentScanIds : List ℕ) (db : Database) : List Service :=
  aggregateConnectionObservations str (connectionObservations scans db) currentScanIds

/-! ## Aggregation of observations -/

/-- What narrows the observations of a query. -/
structure Narrowing where
  sourceDeviceIds : Option (List ℕ) := none
  inboundAddresses : Option (List String) := none
  remoteAddresses : Option (List String) := none
  deriving DecidableEq, Repr

def Narrowing.admits (n : Narrowing) (o : ConnectionServiceObservation) : Bool :=
  (if n.sourceDeviceIds.isSome || n.inboundAddresses.isSome then
      o.deviceId ∈ n.sourceDeviceIds.getD [] || o.remoteIp ∈ n.inboundAddresses.getD []
    else true) &&
  (match n.remoteAddresses with
    | none => true
    | some addresses => o.remoteIp ∈ addresses)

/-- The scans that a window keeps. -/
def keepsScan (deviceIds currentScanIds : List ℕ) (cutoff : Option Timestamp)
    (deviceId scanId : ℕ) (startedAt : Timestamp) : Bool :=
  deviceId ∈ deviceIds &&
  match cutoff with
  | none => scanId ∈ currentScanIds
  | some time => time ≤ startedAt || scanId ∈ currentScanIds

/-- The `WHERE` clause shared by both queries. -/
def observationConditions (deviceIds currentScanIds : List ℕ) (cutoff : Option Timestamp)
    (narrowing : Narrowing) (o : ConnectionServiceObservation) : Bool :=
  keepsScan deviceIds currentScanIds cutoff o.deviceId o.scanRunId o.startedAt &&
    narrowing.admits o

/-- The `raw_key` columns. -/
def ConnectionServiceObservation.rawKey (o : ConnectionServiceObservation) : ServiceKey where
  deviceId := o.deviceId
  protocol := o.protocol
  remoteIp := o.remoteIp
  remotePort := some o.remotePort
  processName := o.processName

/-- Three numerals of twenty digits. -/
def markerText (startedAt scanId sampleId : ℕ) : String :=
  Text.lpad 20 '0' (toString startedAt) ++ "|" ++ Text.lpad 20 '0' (toString scanId) ++ "|" ++
    Text.lpad 20 '0' (toString sampleId)

/-- The `latest_marker` column. -/
def ConnectionServiceObservation.marker (o : ConnectionServiceObservation) : String :=
  markerText o.startedAt o.scanRunId o.sampleConnectionId

structure AggregateRow where
  key : ServiceKey
  firstSeen : Timestamp
  lastSeen : Timestamp
  latestMarker : String
  scanIds : String
  hostnamePayload : Option String
  deriving DecidableEq, Repr

/-- One row of the first query. -/
def aggregateRow (key : ServiceKey) (group : List ConnectionServiceObservation) :
    AggregateRow where
  key := key
  firstSeen := ((group.map (·.startedAt)).min?).getD 0
  lastSeen := ((group.map (·.startedAt)).max?).getD 0
  latestMarker := ((group.map (·.marker)).max?).getD ""
  scanIds := Text.join ',' (group.map fun o => toString o.scanRunId)
  hostnamePayload :=
    (group.filterMap fun o => o.remoteHostname.map fun h => o.marker ++ "\x1f" ++ h).max?

def aggregateRows (selected : List ConnectionServiceObservation) : List AggregateRow :=
  (Grouping.groupBy ConnectionServiceObservation.rawKey selected).map fun g => aggregateRow g.1 g.2

structure CsvRow where
  localIps : Option String
  localPorts : Option String
  pids : Option String
  deriving DecidableEq, Repr

/-- The row of the second query under a key, from the distinct column values. -/
def csvRow (selected : List ConnectionServiceObservation) (key : ServiceKey) : CsvRow :=
  let distinct :=
    ((selected.filter (·.rawKey = key)).map fun o => (o.localIps, o.localPorts, o.pids)).dedup
  { localIps := stringAggDistinct (distinct.map (·.1))
    localPorts := stringAggDistinct (distinct.map (·.2.1))
    pids := stringAggDistinct (distinct.filterMap (·.2.2)) }

/-- `_csv_str_set`. -/
def csvStrSet (value : Option String) : Finset String :=
  if truthy value then (Text.split ',' (value.getD "")).toFinset else ∅

/-- `_csv_int_set`; the items were printed by the database. -/
def csvIntSet (value : Option String) : Finset ℤ :=
  if truthy value then ((Text.split ',' (value.getD "")).filterMap Text.int).toFinset else ∅

/-- A sample row with its scan. -/
structure Sample where
  connectionId : ℕ
  protocol : String
  localIp : String
  localPort : Option ℤ
  remotePort : Option ℤ
  state : Option String
  pid : Option ℤ
  processName : Option String
  scanId : ℕ
  startedAt : Timestamp
  deviceId : ℕ
  deriving DecidableEq, Repr

/-- The sample query joined with the scans, looked up by its key. -/
def latestById (db : Database) (connectionId : ℕ) : Option Sample :=
  (db.connectionRecords.find? (·.id = connectionId)).bind fun record =>
    (db.scanRuns.find? (·.id = record.scanRunId)).map fun scan =>
      { connectionId := record.id
        protocol := record.protocol
        localIp := record.localIp
        localPort := some record.localPort
        remotePort := record.remotePort
        state := record.state
        pid := record.pid
        processName := record.processName
        scanId := scan.id
        startedAt := scan.startedAt
        deviceId := scan.deviceId }

/-- The numbers in a marker, in their order. -/
def markerParts (marker : String) : List ℕ :=
  (Text.rsplit '|' 2 marker).map fun part => ((Text.int part).getD 0).toNat

/-- `_degraded_sample`. -/
def degradedSample (row : AggregateRow) (localIps : Finset String) (localPorts pids : Finset ℤ) :
    Option Sample :=
  match localIps.sort with
  | [] => none
  | localIp :: _ =>
    let parts := markerParts row.latestMarker
    some
      { connectionId := parts.getD 2 0
        protocol := row.key.protocol
        localIp := localIp
        localPort := localPorts.sort.head?
        remotePort := if row.key.remotePort = some 0 then none else row.key.remotePort
        state := none
        pid := pids.sort.head?
        processName := if row.key.processName = "" then none else some row.key.processName
        scanId := parts.getD 1 0
        startedAt := parts.getD 0 0
        deviceId := row.key.deviceId }

/-- The working copy of one group of aggregate rows. -/
structure ObservationBucket extends ServiceValues where
  firstSeen : Timestamp
  lastSeen : Timestamp
  latestMarker : ℕ ×ₗ ℕ ×ₗ ℕ
  scanIds : Finset ℕ
  localIps : Finset String
  localPorts : Finset ℤ
  pids : Finset ℤ

/-- The hostname of the latest row that has one. -/
def AggregateRow.hostname (row : AggregateRow) : Option String :=
  if truthy row.hostnamePayload then row.hostnamePayload.map (Text.after '\x1f') else none

def AggregateRow.normalizedKey (row : AggregateRow) : ServiceKey :=
  { row.key with remoteIp := normalizeIpAddress row.key.remoteIp }

def CsvRow.localIpSet (csv : CsvRow) : Finset String :=
  (csvStrSet csv.localIps).image normalizeIpAddress

/-- The sample row of an aggregate row, or its stand-in. -/
def latestSample (db : Database) (csv : CsvRow) (row : AggregateRow) : Option Sample :=
  (latestById db ((markerParts row.latestMarker).getD 2 0)).or
    (degradedSample row csv.localIpSet (csvIntSet csv.localPorts) (csvIntSet csv.pids))

/-- The bucket that one aggregate row starts. -/
def startBucket (csv : CsvRow) (row : AggregateRow) (latest : Sample) : ObservationBucket where
  id := latest.connectionId
  protocol := latest.protocol
  addressFamily := if ':' ∈ (normalizeIpAddress latest.localIp).toList then "ipv6" else "ipv4"
  localIp := normalizeIpAddress latest.localIp
  localPort := latest.localPort
  remoteIp := row.normalizedKey.remoteIp
  remotePort := latest.remotePort
  state := latest.state
  pid := latest.pid
  processName := latest.processName
  remoteHostname := row.hostname
  sourceDeviceId := latest.deviceId
  scanId := latest.scanId
  scanTime := latest.startedAt
  firstSeen := row.firstSeen
  lastSeen := row.lastSeen
  latestMarker := toLex (latest.startedAt, toLex (latest.scanId, latest.connectionId))
  scanIds := (csvIntSet (some row.scanIds)).image Int.toNat
  localIps := csv.localIpSet
  localPorts := csvIntSet csv.localPorts
  pids := csvIntSet csv.pids

/-- What one aggregate row says about its service; `none` is a skipped row. -/
def observationBucket (db : Database) (selected : List ConnectionServiceObservation)
    (row : AggregateRow) : Option (ServiceKey × ObservationBucket) :=
  let csv := csvRow selected row.key
  if isLoopbackAddress row.normalizedKey.remoteIp then none
  else (latestSample db csv row).map fun latest => (row.normalizedKey, startBucket csv row latest)

/-- Another aggregate row of a service that is already there. -/
def ObservationBucket.merge (b n : ObservationBucket) : ObservationBucket :=
  let hostname :=
    if truthy n.remoteHostname && !truthy b.remoteHostname then n.remoteHostname
    else b.remoteHostname
  let values :=
    if b.latestMarker < n.latestMarker then
      { n.toServiceValues with
        remoteIp := b.remoteIp
        sourceDeviceId := b.sourceDeviceId
        remoteHostname := orText n.remoteHostname hostname }
    else { b.toServiceValues with remoteHostname := hostname }
  { values with
    firstSeen := if n.firstSeen < b.firstSeen then n.firstSeen else b.firstSeen
    lastSeen := if b.lastSeen < n.lastSeen then n.lastSeen else b.lastSeen
    latestMarker := if b.latestMarker < n.latestMarker then n.latestMarker else b.latestMarker
    scanIds := b.scanIds ∪ n.scanIds
    localIps := b.localIps ∪ n.localIps
    localPorts := b.localPorts ∪ n.localPorts
    pids := b.pids ∪ n.pids }

def ObservationBucket.add (bucket : Option ObservationBucket)
    (item : ServiceKey × ObservationBucket) : ObservationBucket :=
  match bucket with
  | none => item.2
  | some b => b.merge item.2

def ObservationBucket.service (currentScanIds : List ℕ) (b : ObservationBucket) : Service :=
  { b.toServiceValues with
    isCurrent := decide (∃ id ∈ b.scanIds, id ∈ currentScanIds)
    firstSeen := b.firstSeen
    lastSeen := b.lastSeen
    observationCount := b.scanIds.card
    observedLocalIps := b.localIps.sort
    observedLocalPorts := b.localPorts.sort
    observedPids := b.pids.sort }

/-- `_aggregate_observation_groups` after the rows have been selected. -/
def aggregateSelected (str : ServiceKey → String) (currentScanIds : List ℕ) (db : Database)
    (selected : List ConnectionServiceObservation) : List Service :=
  let buckets := (aggregateRows selected).filterMap (observationBucket db selected)
  let groups := Dict.collect Prod.fst ObservationBucket.add buckets
  (sortedByKey str groups).map fun g => g.2.service currentScanIds

def aggregateObservationGroups (str : ServiceKey → String) (deviceIds currentScanIds : List ℕ)
    (cutoff : Option Timestamp) (narrowing : Narrowing) (db : Database) : List Service :=
  aggregateSelected str currentScanIds db
    (db.observations.filter (observationConditions deviceIds currentScanIds cutoff narrowing))

def aggregateCurrentConnections (str : ServiceKey → String) (currentScans : List ScanRun)
    (narrowing : Narrowing) (db : Database) : List Service :=
  aggregateObservationGroups str (currentScans.map (·.deviceId)) (currentScans.map (·.id)) none
    narrowing db

def aggregateHistoricalConnections (str : ServiceKey → String) (deviceIds currentScanIds : List ℕ)
    (window : TopologyWindow) (now : Timestamp) (narrowing : Narrowing) (db : Database) :
    Except String (List Service) :=
  match window.delta with
  | none => .error "历史聚合不接受 current 时间范围"
  | some delta =>
    .ok (aggregateObservationGroups str deviceIds currentScanIds (some (now - delta)) narrowing db)

end ConnectionTopology
