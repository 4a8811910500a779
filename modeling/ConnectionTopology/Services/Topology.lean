import ConnectionTopology.Services.TopologyHistory

/-!
# The cluster graph

`topology.py` from the cluster graph context on. The context carries what the tables
promise: identifiers are distinct and positive, a device's cluster exists, owners are
devices. `lower` stands for `str.lower`. The resolver is a function of the host.
-/
namespace ConnectionTopology

/-- A resolver that answers the same for the same host, with a set of addresses. -/
structure HostAddressResolver where
  resolve : String → List String
  nodup : ∀ host, (resolve host).Nodup

/-- `_managed_node_id`. -/
def managedNodeId (device : Device) : String :=
  match device.clusterId with
  | none => "device-" ++ toString device.id
  | some clusterId =>
    if clusterId ≠ 0 then "cluster-" ++ toString clusterId else "device-" ++ toString device.id

/-! ## Internal networks -/

/-- The IPv4 networks of a cluster's rules. -/
def Cluster.networks (cluster : Cluster) : List IPv4Network :=
  cluster.internalNetworks.filterMap fun cidr => (ipNetwork cidr).join

/-- The warnings of a cluster's rules. -/
def Cluster.networkWarnings (cluster : Cluster) : List String :=
  (cluster.internalNetworks.filter fun cidr => (ipNetwork cidr).isNone).map fun cidr =>
    "集群 " ++ cluster.name ++ " 存在无效内部地址段，已忽略：" ++ cidr

/-- `_cluster_network_map`. -/
def clusterNetworkMap (clusters : List Cluster) : Dict ℕ (List IPv4Network) :=
  Dict.collect Cluster.id (fun _ cluster => cluster.networks) clusters

/-- `_is_cluster_internal_address`. -/
def isClusterInternalAddress (remoteIp : String) (clusterId : Option ℕ)
    (networksByCluster : Dict ℕ (List IPv4Network)) : Bool :=
  match clusterId with
  | none => false
  | some clusterId =>
    match ipAddress remoteIp with
    | some (.v4 address) =>
      ((networksByCluster.get? clusterId).getD []).any fun network => network.contains address
    | _ => false

/-! ## The context -/

/-- What the tables promise about devices and clusters. -/
structure InventoryOk (devices : List Device) (clusters : List Cluster) : Prop where
  deviceIds : (devices.map (·.id)).Nodup
  clusterIds : (clusters.map (·.id)).Nodup
  assigned : ∀ d ∈ devices, ∀ c, d.clusterId = some c → c ≠ 0 ∧ ∃ cluster ∈ clusters, cluster.id = c

structure ClusterGraphContext where
  devices : List Device
  clusters : List Cluster
  devicesById : Dict ℕ Device
  clusterMembers : Dict ℕ (List Device)
  addressOwners : Dict String (List Device)
  networksByCluster : Dict ℕ (List IPv4Network)
  warnings : List String
  inventory : InventoryOk devices clusters
  byId : ∀ id d, devicesById.get? id = some d ↔ d ∈ devices ∧ d.id = id
  members : ∀ c d, d ∈ (clusterMembers.get? c).getD [] ↔ d ∈ devices ∧ d.clusterId = some c ∧ c ≠ 0
  owners : ∀ address, ∀ d ∈ (addressOwners.get? address).getD [], d ∈ devices
  networks : ∀ cluster ∈ clusters, networksByCluster.get? cluster.id = some cluster.networks

/-- `address_owners` of the devices. -/
def addressOwnersOf (resolver : HostAddressResolver) (devices : List Device) :
    Dict String (List Device) :=
  Dict.appendAll (devices.flatMap fun d => (resolver.resolve d.host).map fun address => (address, d))

/-- `cluster_members` of the devices. -/
def clusterMembersOf (devices : List Device) : Dict ℕ (List Device) :=
  Dict.appendAll (devices.filterMap fun d =>
    match d.clusterId with
    | none => none
    | some c => if c ≠ 0 then some (c, d) else none)

def ambiguityWarnings (addressOwners : Dict String (List Device)) : List String :=
  (addressOwners.entries.filter fun e => 1 < e.2.length).map fun e =>
    "地址 " ++ e.1 ++ " 同时匹配多台设备，已按外部地址处理"

theorem InventoryOk.perm {devices devices' : List Device} {clusters clusters' : List Cluster}
    (h : InventoryOk devices clusters) (hdevices : devices'.Perm devices)
    (hclusters : clusters'.Perm clusters) : InventoryOk devices' clusters' := by
  refine ⟨(hdevices.map _).nodup_iff.mpr h.deviceIds, (hclusters.map _).nodup_iff.mpr h.clusterIds, ?_⟩
  intro d hd c hc
  obtain ⟨hpos, cluster, hcluster, hid⟩ := h.assigned d (hdevices.mem_iff.mp hd) c hc
  exact ⟨hpos, cluster, hclusters.mem_iff.mpr hcluster, hid⟩

theorem mem_addressOwnersOf {resolver : HostAddressResolver} {devices : List Device}
    {address : String} {d : Device} :
    d ∈ ((addressOwnersOf resolver devices).get? address).getD [] ↔
      d ∈ devices ∧ address ∈ resolver.resolve d.host := by
  simp only [addressOwnersOf, Dict.getD_appendAll, List.mem_map, List.mem_filter, List.mem_flatMap,
    decide_eq_true_eq, Prod.exists, Prod.mk.injEq]
  constructor
  · rintro ⟨a, d', ⟨⟨e, he, a', ha', rfl, rfl⟩, rfl⟩, rfl⟩
    exact ⟨he, ha'⟩
  · rintro ⟨hd, haddress⟩
    exact ⟨address, d, ⟨⟨d, hd, address, haddress, rfl, rfl⟩, rfl⟩, rfl⟩

theorem mem_clusterMembersOf {devices : List Device} {c : ℕ} {d : Device} :
    d ∈ ((clusterMembersOf devices).get? c).getD [] ↔
      d ∈ devices ∧ d.clusterId = some c ∧ c ≠ 0 := by
  simp only [clusterMembersOf, Dict.getD_appendAll, List.mem_map, List.mem_filter,
    List.mem_filterMap, decide_eq_true_eq, Prod.exists]
  constructor
  · rintro ⟨c', d', ⟨⟨e, he, hpair⟩, rfl⟩, rfl⟩
    split at hpair
    · cases hpair
    · rename_i c'' hc
      split_ifs at hpair with hpos
      cases hpair
      exact ⟨he, hc, hpos⟩
  · rintro ⟨hd, hc, hpos⟩
    exact ⟨c, d, ⟨⟨d, hd, by simp [hc, hpos]⟩, rfl⟩, rfl⟩

/-- The context of given lists of devices and clusters. -/
def ClusterGraphContext.ofLists (resolver : HostAddressResolver) (devices : List Device)
    (clusters : List Cluster) (h : InventoryOk devices clusters) : ClusterGraphContext where
  devices := devices
  clusters := clusters
  devicesById := Dict.collect Device.id (fun _ d => d) devices
  clusterMembers := clusterMembersOf devices
  addressOwners := addressOwnersOf resolver devices
  networksByCluster := clusterNetworkMap clusters
  warnings :=
    clusters.flatMap Cluster.networkWarnings ++ ambiguityWarnings (addressOwnersOf resolver devices)
  inventory := h
  byId := by
    intro id d
    constructor
    · intro hget
      have hkey : id ∈ (Dict.collect Device.id (fun _ d => d) devices).keys :=
        Dict.mem_keys_iff.mpr (by rw [hget]; rfl)
      obtain ⟨e, he, rfl⟩ := Dict.mem_keys_collect.mp hkey
      rw [Dict.get?_collect_of_mem h.deviceIds he] at hget
      cases hget
      exact ⟨he, rfl⟩
    · rintro ⟨hd, rfl⟩
      exact Dict.get?_collect_of_mem h.deviceIds hd
  members := fun _ _ => mem_clusterMembersOf
  owners := fun _ _ hd => (mem_addressOwnersOf.mp hd).1
  networks := fun _ hcluster => Dict.get?_collect_of_mem h.clusterIds hcluster

/-- `load_cluster_graph_context`: devices and clusters in the order of their names. -/
def loadClusterGraphContext (resolver : HostAddressResolver) (db : Database)
    (h : InventoryOk db.devices db.clusters) : ClusterGraphContext :=
  .ofLists resolver (db.devices.insertionSort fun a b => a.name ≤ b.name)
    (db.clusters.insertionSort fun a b => a.name ≤ b.name)
    (h.perm (List.perm_insertionSort _ _) (List.perm_insertionSort _ _))

/-! ## Filters -/

structure ServiceFilter where
  protocol : Option String := none
  state : Option String := none
  process : Option String := none
  deriving DecidableEq, Repr

/-- `process_query`. -/
def ServiceFilter.processQuery (lower : String → String) (f : ServiceFilter) : String :=
  if truthy f.process then lower (Text.strip (f.process.getD "")) else ""

/-- The text in which the process query is looked for. -/
def Service.haystack (lower : String → String) (service : Service) : String :=
  let observed := Text.join ' ' (service.observedPids.map toString)
  let pids := if observed = "" then (service.pid.map toString).getD "" else observed
  lower (service.processName.getD "" ++ " " ++ pids)

/-- The conditions under which the loop keeps a service. -/
def ServiceFilter.keeps (lower : String → String) (f : ServiceFilter) (service : Service) : Bool :=
  !(truthy f.protocol && some service.protocol ≠ f.protocol) &&
  !(truthy f.state && service.state ≠ f.state) &&
  !(f.processQuery lower ≠ "" &&
      ¬ (f.processQuery lower).toList <:+: (service.haystack lower).toList)

def filterServiceConnections (lower : String → String) (f : ServiceFilter)
    (services : List Service) : List Service :=
  if !truthy f.protocol && !truthy f.state && f.processQuery lower = "" then services
  else services.filter (f.keeps lower)

/-! ## Edges -/

/-- A service on an edge, with the names of both ends. -/
structure EdgeConnection extends Service where
  sourceDeviceName : String
  targetDeviceId : Option ℕ
  targetDeviceName : Option String
  deriving DecidableEq, Repr

/-- `_service_edge_target`. -/
def serviceEdgeTarget (service : Service) (source : Device) (context : ClusterGraphContext) :
    Option (String × Option Device) :=
  let owners := (context.addressOwners.get? service.remoteIp).getD []
  match owners with
  | [target] =>
    if target.id = source.id then none
    else if source.clusterId ≠ none ∧ source.clusterId = target.clusterId then none
    else some (managedNodeId target, some target)
  | _ =>
    if owners = [] ∧
        isClusterInternalAddress service.remoteIp source.clusterId context.networksByCluster then none
    else some ("external-" ++ service.remoteIp, none)

/-- One pass of the grouping loop, for a service of the device `source`. -/
def edgeItem (context : ClusterGraphContext) (service : Service) (source : Device) :
    Option ((String × String) × EdgeConnection) :=
  match serviceEdgeTarget service source context with
  | none => none
  | some (targetId, target) =>
    if managedNodeId source = targetId then none
    else some ((managedNodeId source, targetId),
      { service with
        sourceDeviceName := source.name
        targetDeviceId := target.map (·.id)
        targetDeviceName := target.map (·.name) })

/-- What a modelled function can raise. -/
inductive TopologyError
  | valueError (message : String)
  | keyError (deviceId : ℕ)
  deriving DecidableEq, Repr

/-- The items of the grouping loop; an unknown source device is a `KeyError`. -/
def edgeItems (context : ClusterGraphContext) :
    List Service → Except TopologyError (List ((String × String) × EdgeConnection))
  | [] => .ok []
  | service :: services =>
    match context.devicesById.get? service.sourceDeviceId with
    | none => .error (.keyError service.sourceDeviceId)
    | some source => (edgeItems context services).map ((edgeItem context service source).toList ++ ·)

def groupClusterEdges (services : List Service) (context : ClusterGraphContext) :
    Except TopologyError (Dict (String × String) (List EdgeConnection)) :=
  (edgeItems context services).map Dict.appendAll

/-! ## The graph -/

inductive NodeKind
  | cluster
  | device
  | external
  deriving DecidableEq, Repr

structure ClusterMember where
  id : ℕ
  name : String
  host : String
  lastScanStatus : Option ScanStatus
  scanId : Option ℕ
  scanTime : Option Timestamp
  deriving DecidableEq, Repr

structure Node where
  id : String
  label : String
  kind : NodeKind
  subtitle : String
  members : List ClusterMember := []
  scanId : Option ℕ := none
  scanTime : Option Timestamp := none
  deriving DecidableEq, Repr

structure Edge where
  id : String
  source : String
  target : String
  label : String
  count : ℕ
  currentCount : ℕ
  historicalCount : ℕ
  observationCount : ℕ
  isCurrent : Bool
  connections : Option (List EdgeConnection)
  deriving DecidableEq, Repr

structure ClusterTopology where
  generatedAt : Timestamp
  window : TopologyWindow
  nodes : List Node
  edges : List Edge
  warnings : List String
  deriving DecidableEq, Repr

def clusterNode (context : ClusterGraphContext) (latestScans : List ScanRun) (cluster : Cluster) :
    Node where
  id := "cluster-" ++ toString cluster.id
  label := cluster.name
  kind := .cluster
  subtitle := toString ((context.clusterMembers.get? cluster.id).getD []).length ++ " 台设备"
  members := ((context.clusterMembers.get? cluster.id).getD []).map fun d =>
    let scan := latestScans.find? (·.deviceId = d.id)
    { id := d.id
      name := d.name
      host := d.host
      lastScanStatus := d.lastScanStatus
      scanId := scan.map (·.id)
      scanTime := scan.map (·.startedAt) }

def deviceNode (latestScans : List ScanRun) (device : Device) : Node :=
  let scan := latestScans.find? (·.deviceId = device.id)
  { id := "device-" ++ toString device.id
    label := device.name
    kind := .device
    subtitle := device.host
    scanId := scan.map (·.id)
    scanTime := scan.map (·.startedAt) }

def externalNode (address : String) : Node where
  id := "external-" ++ address
  label := address
  kind := .external
  subtitle := "外部地址"

/-- `nodes_by_id`: clusters and single devices, then the external ends of edges. -/
def nodesById (context : ClusterGraphContext) (latestScans : List ScanRun)
    (edgeGroups : Dict (String × String) (List EdgeConnection)) : Dict String Node :=
  let managed := Dict.collect Node.id (fun _ node => node)
    (context.clusters.map (clusterNode context latestScans) ++
      (context.devices.filter (·.clusterId = none)).map (deviceNode latestScans))
  let external := edgeGroups.keys.filterMap fun key =>
    (Text.dropStart "external-" key.2).map externalNode
  external.foldl (fun nodes node => nodes.upsert node.id (·.getD node)) managed

/-- One entry of `edges`. -/
def clusterEdge (embedConnections : Bool) (index : ℕ) (key : String × String)
    (details : List EdgeConnection) : Edge :=
  let currentCount := details.countP (·.isCurrent)
  { id := "cluster-edge-" ++ toString index
    source := key.1
    target := key.2
    label := toString details.length
    count := details.length
    currentCount := currentCount
    historicalCount := details.length - currentCount
    observationCount := (details.map (·.observationCount)).sum
    isCurrent := decide (0 < currentCount)
    connections := if embedConnections then some details else none }

/-- `sorted(edge_groups.items())`. -/
def sortedEdgeGroups (edgeGroups : Dict (String × String) (List EdgeConnection)) :
    List ((String × String) × List EdgeConnection) :=
  edgeGroups.entries.insertionSort fun a b => toLex a.1 ≤ toLex b.1

def clusterEdges (embedConnections : Bool)
    (edgeGroups : Dict (String × String) (List EdgeConnection)) : List Edge :=
  (sortedEdgeGroups edgeGroups).zipIdx.map fun e => clusterEdge embedConnections e.2 e.1.1 e.1.2

/-- The nodes and edges within one hop of a cluster. -/
def oneHop (clusterId : ℕ) (nodes : List Node) (edges : List Edge) : List Node × List Edge :=
  let target := "cluster-" ++ toString clusterId
  let edges := edges.filter fun e => e.source = target || e.target = target
  let visible := target :: edges.flatMap fun e => [e.source, e.target]
  (nodes.filter (·.id ∈ visible), edges)

/-- `build_cluster_topology` from the services on. -/
def clusterGraph (context : ClusterGraphContext) (latestScans : List ScanRun)
    (embedConnections : Bool) (services : List Service) :
    Except TopologyError (List Node × List Edge) :=
  (groupClusterEdges services context).map fun edgeGroups =>
    ((nodesById context latestScans edgeGroups).values, clusterEdges embedConnections edgeGroups)

/-- The choice between the two aggregations. -/
def windowConnections (str : ServiceKey → String) (window : TopologyWindow) (now : Timestamp)
    (deviceIds : List ℕ) (latestScans : List ScanRun) (narrowing : Narrowing) (db : Database) :
    Except TopologyError (List Service) :=
  if window = .current then .ok (aggregateCurrentConnections str latestScans narrowing db)
  else
    (aggregateHistoricalConnections str deviceIds (latestScans.map (·.id)) window now narrowing
      db).mapError .valueError

/-- The addresses of devices, and the same addresses mapped to IPv6. -/
def reachableAddresses (resolver : HostAddressResolver) (devices : List Device) : List String :=
  let addresses := (devices.flatMap fun d => resolver.resolve d.host).dedup
  addresses ++ (addresses.filter fun a => ':' ∉ a.toList).map ("::ffff:" ++ ·)

/-- The narrowing to one cluster: its members, or an address of a member. -/
def clusterNarrowing (resolver : HostAddressResolver) (context : ClusterGraphContext)
    (clusterId : ℕ) : Narrowing :=
  let members := (context.clusterMembers.get? clusterId).getD []
  { sourceDeviceIds := some (members.map (·.id))
    inboundAddresses := some (reachableAddresses resolver members) }

def buildClusterTopology (str : ServiceKey → String) (lower : String → String)
    (resolver : HostAddressResolver) (window : TopologyWindow) (now : Option Timestamp)
    (wall : Timestamp) (targetClusterId : Option ℕ) (embedConnections : Bool) (f : ServiceFilter)
    (db : Database) (h : InventoryOk db.devices db.clusters) :
    Except TopologyError ClusterTopology := do
  let context := loadClusterGraphContext resolver db h
  if targetClusterId.any fun c => context.clusters.all (·.id ≠ c) then
    throw (.valueError "集群不存在")
  let deviceIds := context.devices.map (·.id)
  let latestScans := loadCurrentScans deviceIds db
  let narrowing := (targetClusterId.map (clusterNarrowing resolver context)).getD {}
  let services ← windowConnections str window (now.getD wall) deviceIds latestScans narrowing db
  let (nodes, edges) ← clusterGraph context latestScans embedConnections
    (filterServiceConnections lower f services)
  let (nodes, edges) := match targetClusterId with
    | none => (nodes, edges)
    | some c => oneHop c nodes edges
  return { generatedAt := wall, window, nodes, edges, warnings := context.warnings }

/-! ## The edge drawer -/

/-- `dict.get` with an integer that Python has parsed. -/
def getInt? {ν : Type} (d : Dict ℕ ν) (n : ℤ) : Option ν := if n < 0 then none else d.get? n.toNat

/-- `_node_source_devices`. -/
def nodeSourceDevices (nodeId : String) (context : ClusterGraphContext) : List Device :=
  match Text.dropStart "cluster-" nodeId with
  | some rest =>
    match Text.int rest with
    | none => []
    | some clusterId => (getInt? context.clusterMembers clusterId).getD []
  | none =>
    match Text.dropStart "device-" nodeId with
    | some rest =>
      match Text.int rest with
      | none => []
      | some deviceId => (getInt? context.devicesById deviceId).toList
    | none => []

/-- `_node_target_addresses`. -/
def nodeTargetAddresses (nodeId : String) (context : ClusterGraphContext)
    (resolver : HostAddressResolver) : List String :=
  match Text.dropStart "external-" nodeId with
  | some address => [address]
  | none => reachableAddresses resolver (nodeSourceDevices nodeId context)

/-- `_connection_group_sort_key`. -/
def EdgeConnection.sortKey (row : EdgeConnection) :
    String ×ₗ ℤ ×ₗ String ×ₗ String ×ₗ ℕ ×ₗ ℕ :=
  toLex (row.remoteIp, toLex (row.remotePort.getD 0, toLex (row.protocol,
    toLex (row.processName.getD "", toLex (row.sourceDeviceId, row.id)))))

def buildEdgeConnections (str : ServiceKey → String) (lower : String → String)
    (resolver : HostAddressResolver) (sourceId targetId : String) (window : TopologyWindow)
    (now : Option Timestamp) (wall : Timestamp) (f : ServiceFilter) (db : Database)
    (h : InventoryOk db.devices db.clusters) : Except TopologyError (List EdgeConnection) := do
  let context := loadClusterGraphContext resolver db h
  let sourceDevices := nodeSourceDevices sourceId context
  let targetAddresses := nodeTargetAddresses targetId context resolver
  if sourceDevices = [] ∨ targetAddresses = [] then return []
  let sourceDeviceIds := sourceDevices.map (·.id)
  let latestScans := loadCurrentScans sourceDeviceIds db
  let services ← windowConnections str window (now.getD wall) sourceDeviceIds latestScans
    { remoteAddresses := some targetAddresses } db
  let edgeGroups ← groupClusterEdges (filterServiceConnections lower f services) context
  let rows := (edgeGroups.get? (sourceId, targetId)).getD []
  return rows.insertionSort fun a b => a.sortKey ≤ b.sortKey

end ConnectionTopology
