import ConnectionTopology.Services.TopologyHistory

/-!
# The view of one device

`connection_dict`, `build_topology` and `diff_scans` of `topology.py`: the peers and listeners
of one scan, and the connections that two scans do not share. `str` stands for the text of a
key tuple, by which the rows of a difference are ordered.
-/
namespace ConnectionTopology

/-- `connection_key`. -/
structure ConnectionKey where
  protocol : String
  localIp : String
  localPort : ℤ
  remoteIp : Option String
  remotePort : Option ℤ
  pid : Option ℤ
  processName : Option String
  deriving DecidableEq, Repr

def connectionKey (row : ConnectionRecord) : ConnectionKey where
  protocol := row.protocol
  localIp := normalizeIpAddress row.localIp
  localPort := row.localPort
  remoteIp := row.remoteIp.map normalizeIpAddress
  remotePort := row.remotePort
  pid := row.pid
  processName := row.processName

/-- `connection_dict`. -/
structure ConnectionDict where
  id : ℕ
  protocol : String
  addressFamily : String
  localIp : String
  localPort : ℤ
  remoteIp : Option String
  remotePort : Option ℤ
  state : Option String
  pid : Option ℤ
  processName : Option String
  remoteHostname : Option String
  deriving DecidableEq, Repr

def connectionDict (row : ConnectionRecord) : ConnectionDict where
  id := row.id
  protocol := row.protocol
  addressFamily := addressFamily (normalizeIpAddress row.localIp)
  localIp := normalizeIpAddress row.localIp
  localPort := row.localPort
  remoteIp := row.remoteIp.map normalizeIpAddress
  remotePort := row.remotePort
  state := row.state
  pid := row.pid
  processName := row.processName
  remoteHostname := row.remoteHostname

/-! ## Topology -/

inductive PeerKind
  | server
  | peer
  deriving DecidableEq, Repr

structure PeerNode where
  id : String
  label : String
  kind : PeerKind
  subtitle : String
  count : Option ℕ := none
  deriving DecidableEq, Repr

structure PeerEdge where
  id : String
  source : String
  target : String
  label : String
  count : ℕ
  currentCount : ℕ
  historicalCount : ℕ
  observationCount : ℕ
  isCurrent : Bool
  connections : List Service
  deriving DecidableEq, Repr

structure ScanSummary where
  id : ℕ
  deviceId : ℕ
  deviceName : String
  startedAt : Timestamp
  connectionCount : ℕ
  deriving DecidableEq, Repr

structure DeviceTopology where
  window : TopologyWindow
  scan : ScanSummary
  nodes : List PeerNode
  edges : List PeerEdge
  listeners : List ConnectionDict
  deriving DecidableEq, Repr

/-- `sorted(groups.items())`: the services of each remote address. -/
def peerGroups (services : List Service) : List (String × List Service) :=
  (Dict.appendAll (services.map fun s => (s.remoteIp, s))).entries.insertionSort
    fun a b => a.1 ≤ b.1

def peerNode (index : ℕ) (remoteIp : String) (rows : List Service) : PeerNode where
  id := "peer-" ++ toString index
  label := orText ((rows.filter fun r => truthy r.remoteHostname).head?.bind (·.remoteHostname))
    (some remoteIp) |>.getD ""
  kind := .peer
  subtitle := remoteIp
  count := some rows.length

def peerEdge (serverId : String) (index : ℕ) (rows : List Service) : PeerEdge :=
  let currentCount := rows.countP (·.isCurrent)
  { id := "edge-" ++ toString index
    source := serverId
    target := "peer-" ++ toString index
    label := toString rows.length
    count := rows.length
    currentCount := currentCount
    historicalCount := rows.length - currentCount
    observationCount := (rows.map (·.observationCount)).sum
    isCurrent := decide (0 < currentCount)
    connections := rows }

/-- `build_topology`; without given services, those of the given scans or of the scan itself. -/
def buildTopology (str : ServiceKey → String) (device : Device) (scan : ScanRun)
    (scans : Option (List ScanRun)) (window : TopologyWindow) (services : Option (List Service))
    (db : Database) : DeviceTopology :=
  let serverId := "device-" ++ toString device.id
  let selected := services.getD
    (aggregateServiceConnections str (scans.getD [scan]) [scan.id] db)
  let groups := (peerGroups selected).zipIdx
  { window := window
    scan :=
      { id := scan.id
        deviceId := device.id
        deviceName := device.name
        startedAt := scan.startedAt
        connectionCount := scan.connectionCount }
    nodes :=
      { id := serverId, label := device.name, kind := .server, subtitle := device.host } ::
        groups.map fun g => peerNode g.2 g.1.1 g.1.2
    edges := groups.map fun g => peerEdge serverId g.2 g.1.2
    listeners := ((scan.connections db).filter (·.remoteIp.isNone)).map connectionDict }

/-! ## Difference -/

/-- What a difference lists as added: connections, or the services of a first scan. -/
inductive AddedRows
  | connections (rows : List ConnectionDict)
  | services (rows : List Service)
  deriving DecidableEq, Repr

structure ScanDiff where
  previousScanId : Option ℕ
  currentScanId : ℕ
  added : AddedRows
  removed : List ConnectionDict
  deriving DecidableEq, Repr

/-- The last row of each key. -/
def connectionsByKey (scan : ScanRun) (db : Database) : Dict ConnectionKey ConnectionRecord :=
  Dict.collect connectionKey (fun _ row => row) (scan.connections db)

/-- The rows under the keys that the other scan does not have. -/
def connectionsOnlyIn (str : ConnectionKey → String)
    (rows others : Dict ConnectionKey ConnectionRecord) : List ConnectionDict :=
  ((rows.entries.filter fun e => e.1 ∉ others.keys).insertionSort
    fun a b => str a.1 ≤ str b.1).map fun e => connectionDict e.2

def diffScans (str : ConnectionKey → String) (previous current : ScanRun) (db : Database) :
    ScanDiff where
  previousScanId := some previous.id
  currentScanId := current.id
  added := .connections
    (connectionsOnlyIn str (connectionsByKey current db) (connectionsByKey previous db))
  removed := connectionsOnlyIn str (connectionsByKey previous db) (connectionsByKey current db)

end ConnectionTopology
