import ConnectionTopology.Routes.Devices
import ConnectionTopology.Services.DeviceTopology

/-!
# Requests for scans

`get_topology`, `get_latest_topology` and `get_scan_diff` of the routes. A history window is
computed at the time of the request; the cache in front of it is left out.
-/
namespace ConnectionTopology

/-- `scan.device`, which the foreign key promises. -/
def ScanRun.device (scan : ScanRun) (db : Database) : Except ApiError Device :=
  match db.devices.find? (·.id = scan.deviceId) with
  | none => .error .internal
  | some device => .ok device

/-- `_scan_with_connections`. -/
def scanWithConnections (db : Database) (scanId : ℕ) : Except ApiError ScanRun :=
  match db.scanRuns.find? (·.id = scanId) with
  | none => .error (.http 404 "采集批次不存在")
  | some scan => .ok scan

def getTopology (str : ServiceKey → String) (scanId : ℕ) (db : Database) :
    Except ApiError DeviceTopology := do
  let scan ← scanWithConnections db scanId
  if scan.status ≠ .success then
    throw (.http 409 "失败或运行中的批次没有完整拓扑")
  let device ← scan.device db
  return buildTopology str device scan none .current none db

def getLatestTopology (str : ServiceKey → String) (deviceId : ℕ) (window : TopologyWindow)
    (now : Timestamp) (db : Database) : Except ApiError DeviceTopology := do
  match (loadCurrentScans [deviceId] db).find? (·.deviceId = deviceId) with
  | none => throw (.http 404 "该设备还没有成功采集快照")
  | some scan =>
    let device ← scan.device db
    if window = .current then return buildTopology str device scan none window none db
    match aggregateHistoricalConnections str [deviceId] [scan.id] window now {} db with
    | .error _ => throw .internal
    | .ok services => return buildTopology str device scan none window (some services) db

/-- `SELECT id ... WHERE started_at < current.started_at ORDER BY started_at DESC`. -/
def previousScan (current : ScanRun) (db : Database) : Option ScanRun :=
  ((db.scanRuns.filter fun s => s.deviceId = current.deviceId ∧ s.status = .success ∧
    s.startedAt < current.startedAt).insertionSort fun a b => b.startedAt ≤ a.startedAt).head?

def getScanDiff (serviceStr : ServiceKey → String) (str : ConnectionKey → String) (scanId : ℕ)
    (db : Database) : Except ApiError ScanDiff := do
  let current ← scanWithConnections db scanId
  match previousScan current db with
  | none =>
    let device ← current.device db
    let topology := buildTopology serviceStr device current none .current none db
    return {
      previousScanId := none
      currentScanId := current.id
      added := .services (topology.edges.flatMap (·.connections))
      removed := [] }
  | some previous =>
    let previous ← scanWithConnections db previous.id
    return diffScans str previous current db

end ConnectionTopology
