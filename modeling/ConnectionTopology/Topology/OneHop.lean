import ConnectionTopology.Topology.Narrowing

/-!
# The graph of one cluster

The graph that is narrowed to a cluster is the part of the full graph within one hop
of it: the same edges with the same contents, and the nodes at their ends.
-/
namespace ConnectionTopology

/-! ## Edges up to their positional identifiers -/

def Edge.withoutId (e : Edge) : Edge := { e with id := "" }

/-- One end of the edge is the cluster. -/
def Edge.touches (clusterId : ℕ) (e : Edge) : Bool :=
  e.source = "cluster-" ++ toString clusterId || e.target = "cluster-" ++ toString clusterId

def touchesKey (clusterId : ℕ) (key : String × String) : Bool :=
  key.1 = "cluster-" ++ toString clusterId || key.2 = "cluster-" ++ toString clusterId

theorem clusterEdges_withoutId (embed : Bool)
    (groups : Dict (String × String) (List EdgeConnection)) :
    (clusterEdges embed groups).map Edge.withoutId =
      (sortedEdgeGroups groups).map fun g => (clusterEdge embed 0 g.1 g.2).withoutId := by
  unfold clusterEdges
  rw [List.map_map]
  have hcomp : (Edge.withoutId ∘ fun e : ((String × String) × List EdgeConnection) × ℕ =>
      clusterEdge embed e.2 e.1.1 e.1.2) =
      (fun g : (String × String) × List EdgeConnection =>
        (clusterEdge embed 0 g.1 g.2).withoutId) ∘ Prod.fst := rfl
  rw [hcomp, ← List.map_map, List.zipIdx_map_fst]

theorem touches_withoutId (clusterId : ℕ) (edges : List Edge) :
    (edges.filter (·.touches clusterId)).map Edge.withoutId =
      (edges.map Edge.withoutId).filter (·.touches clusterId) := by
  rw [List.filter_map]
  rfl

/-- The edges at a cluster are determined by the groups at this cluster. -/
theorem touching_edges (embed : Bool) (clusterId : ℕ)
    (groups : Dict (String × String) (List EdgeConnection)) :
    ((clusterEdges embed groups).filter (·.touches clusterId)).map Edge.withoutId =
      ((groups.entries.filter fun g => touchesKey clusterId g.1).insertionSort
        fun a b => toLex a.1 ≤ toLex b.1).map fun g => (clusterEdge embed 0 g.1 g.2).withoutId := by
  rw [touches_withoutId, clusterEdges_withoutId, List.filter_map]
  have hcomp : ((fun e : Edge => e.touches clusterId) ∘ fun g : (String × String) ×
      List EdgeConnection => (clusterEdge embed 0 g.1 g.2).withoutId) =
      fun g => touchesKey clusterId g.1 := rfl
  rw [hcomp, sortedEdgeGroups, filter_insertionSort]

/-! ## Nodes -/

/-- The external nodes of the edge groups. -/
theorem external_head? (groups : Dict (String × String) (List EdgeConnection)) (id : String) :
    ((groups.keys.filterMap fun key => (Text.dropStart "external-" key.2).map externalNode).filter
        (·.id = id)).head? =
      if id ∈ groups.keys.map Prod.snd then (Text.dropStart "external-" id).map externalNode
      else none := by
  cases hlist : (groups.keys.filterMap fun key =>
      (Text.dropStart "external-" key.2).map externalNode).filter (·.id = id) with
  | nil =>
    rw [List.filter_eq_nil_iff] at hlist
    split_ifs with hmem
    · obtain ⟨key, hkey, rfl⟩ := List.mem_map.mp hmem
      cases hdrop : Text.dropStart "external-" key.2 with
      | none => rfl
      | some address =>
        have hid : (externalNode address).id = key.2 := (Text.dropStart_eq_some.mp hdrop).symm
        exact absurd (by simpa using hid) (hlist (externalNode address)
          (List.mem_filterMap.mpr ⟨key, hkey, by rw [hdrop]; rfl⟩))
    · rfl
  | cons n rest =>
    have hn : n ∈ (groups.keys.filterMap fun key =>
        (Text.dropStart "external-" key.2).map externalNode).filter (·.id = id) := by
      rw [hlist]
      simp
    rw [List.mem_filter, List.mem_filterMap, decide_eq_true_eq] at hn
    obtain ⟨⟨key, hkey, hnode⟩, rfl⟩ := hn
    obtain ⟨address, hdrop, rfl⟩ := Option.map_eq_some_iff.mp hnode
    have hid : key.2 = (externalNode address).id := Text.dropStart_eq_some.mp hdrop
    rw [if_pos (List.mem_map.mpr ⟨key, hkey, hid⟩), ← hid, hdrop]
    rfl

/-- The node under an identifier depends on the edges only if it is external. -/
theorem nodesById_congr {context : ClusterGraphContext} {latestScans : List ScanRun}
    {groups groups' : Dict (String × String) (List EdgeConnection)} {id : String}
    (h : ∀ address, id = "external-" ++ address →
      (id ∈ groups.keys.map Prod.snd ↔ id ∈ groups'.keys.map Prod.snd)) :
    (nodesById context latestScans groups).get? id =
      (nodesById context latestScans groups').get? id := by
  unfold nodesById
  dsimp only
  rw [Dict.get?_foldl_upsert Node.id (fun old node => old.getD node),
    Dict.get?_foldl_upsert Node.id (fun old node => old.getD node), Dict.folded_getD,
    Dict.folded_getD, external_head?, external_head?]
  cases hdrop : Text.dropStart "external-" id with
  | none => simp
  | some address => simp only [h address (Text.dropStart_eq_some.mp hdrop)]

theorem mem_nodes_iff {context : ClusterGraphContext} {latestScans : List ScanRun}
    {groups : Dict (String × String) (List EdgeConnection)} {n : Node} :
    n ∈ (nodesById context latestScans groups).values ↔
      (nodesById context latestScans groups).get? n.id = some n := by
  constructor
  · intro hn
    obtain ⟨⟨k, v⟩, hentry, rfl⟩ := List.mem_map.mp hn
    have hget := Dict.mem_entries_iff.mp hentry
    rwa [← nodesById_id context latestScans groups k v hget] at hget
  · intro hget
    exact List.mem_map.mpr ⟨(n.id, n), Dict.mem_entries_iff.mpr hget, rfl⟩

/-! ## Services at the cluster -/

section

variable {resolver : HostAddressResolver} {db : Database}
  {h : InventoryOk db.devices db.clusters}

theorem mem_ownersOf {address : String} {d : Device} :
    d ∈ (loadClusterGraphContext resolver db h).ownersOf address ↔
      d ∈ (loadClusterGraphContext resolver db h).devices ∧ address ∈ resolver.resolve d.host :=
  mem_addressOwnersOf

theorem mem_reachableAddresses {devices : List Device} {d : Device} (hd : d ∈ devices)
    {address : String} (ha : address ∈ resolver.resolve d.host) :
    address ∈ reachableAddresses resolver devices := by
  unfold reachableAddresses
  apply List.mem_append_left
  rw [List.mem_dedup, List.mem_flatMap]
  exact ⟨d, hd, ha⟩

/-- A destination is the node of a device that resolves to the address, or external. -/
theorem destination_cases (address : String) :
    (∃ owner ∈ (loadClusterGraphContext resolver db h).devices,
      (loadClusterGraphContext resolver db h).destination address = managedNodeId owner ∧
      address ∈ resolver.resolve owner.host) ∨
    (loadClusterGraphContext resolver db h).destination address = "external-" ++ address := by
  unfold ClusterGraphContext.destination
  split
  · rename_i owner hlist
    have howner : owner ∈ (loadClusterGraphContext resolver db h).ownersOf address := by
      rw [hlist]
      simp
    obtain ⟨hmem, hresolve⟩ := mem_ownersOf.mp howner
    exact Or.inl ⟨owner, hmem, rfl, hresolve⟩
  · exact Or.inr rfl

theorem clusterId_of_managedNodeId {context : ClusterGraphContext} {d : Device}
    (hd : d ∈ context.devices) {c : ℕ} (hid : managedNodeId d = "cluster-" ++ toString c) :
    d.clusterId = some c ∧ c ≠ 0 := by
  cases hc : d.clusterId with
  | none =>
    rw [managedNodeId_of_none hc] at hid
    exact absurd hid.symm (cluster_ne_device _ _)
  | some c' =>
    have hpos := (context.inventory.assigned d hd c' hc).1
    rw [managedNodeId_of_some hc hpos] at hid
    rw [← nodeId_inj hid]
    exact ⟨rfl, hpos⟩

/-- What the narrowing to a cluster admits. -/
def admitsService (n : Narrowing) (deviceId : ℕ) (remoteIp : String) : Bool :=
  deviceId ∈ n.sourceDeviceIds.getD [] || remoteIp ∈ n.inboundAddresses.getD []

/-- A service shown at the cluster is admitted by its narrowing. -/
theorem admits_of_touches {c : ℕ} {s : Service} {key : String × String}
    (hkey : touchesKey c key = true)
    (hplaced : (loadClusterGraphContext resolver db h).Placed s key.1 key.2) :
    admitsService (clusterNarrowing resolver (loadClusterGraphContext resolver db h) c)
      s.sourceDeviceId s.remoteIp = true := by
  set context := loadClusterGraphContext resolver db h with hcontext
  obtain ⟨d, hd, hid, hshown, hsource, htarget⟩ := hplaced
  simp only [touchesKey, Bool.or_eq_true, decide_eq_true_eq] at hkey
  unfold admitsService clusterNarrowing
  rw [Bool.or_eq_true]
  rcases hkey with hkey | hkey
  · left
    rw [hsource] at hkey
    obtain ⟨hcluster, hpos⟩ := clusterId_of_managedNodeId hd hkey
    rw [← hid]
    exact decide_eq_true
      (List.mem_map.mpr ⟨d, (context.members c d).mpr ⟨hd, hcluster, hpos⟩, rfl⟩)
  · right
    rw [htarget] at hkey
    rcases @destination_cases resolver db h s.remoteIp with ⟨owner, howner, hdest, hresolve⟩ | hdest
    · obtain ⟨hcluster, hpos⟩ := clusterId_of_managedNodeId howner (hdest.symm.trans hkey)
      exact decide_eq_true
        (mem_reachableAddresses ((context.members c owner).mpr ⟨howner, hcluster, hpos⟩) hresolve)
    · exact absurd (hkey.symm.trans hdest) (cluster_ne_external _ _)

end

/-! ## Both graphs -/

section

variable (str : ServiceKey → String) (lower : String → String) (resolver : HostAddressResolver)
  (window : TopologyWindow) (now : Option Timestamp) (wall : Timestamp) (embed : Bool)
  (f : ServiceFilter) {db : Database} (h : InventoryOk db.devices db.clusters)

/-- The services that the full graph shows or hides. -/
def fullServices : List Service :=
  let deviceIds := (loadClusterGraphContext resolver db h).devices.map (·.id)
  filterServiceConnections lower f
    (windowServices str window (now.getD wall) deviceIds (loadCurrentScans deviceIds db) db)

theorem fullServices_known (hobs : ObservationsOk db) :
    ∀ s ∈ fullServices str lower resolver window now wall f h,
      ∃ d ∈ (loadClusterGraphContext resolver db h).devices, d.id = s.sourceDeviceId := by
  intro s hs
  have hmem := windowServices_source hobs str window _ _ s (mem_filterServiceConnections hs)
  obtain ⟨d, hd, hid⟩ := List.mem_map.mp hmem
  exact ⟨d, hd, hid⟩

/-- The scans that give the nodes their last scan. -/
def graphScans : List ScanRun :=
  loadCurrentScans ((loadClusterGraphContext resolver db h).devices.map (·.id)) db

/-- The full graph is the graph of the full services. -/
theorem buildClusterTopology_full (hobs : ObservationsOk db) :
    ∃ full, buildClusterTopology str lower resolver window now wall none embed f db h = .ok full ∧
      full.nodes = (nodesById (loadClusterGraphContext resolver db h) (graphScans resolver h)
        (edgeGroups (loadClusterGraphContext resolver db h)
          (fullServices str lower resolver window now wall f h))).values ∧
      full.edges = clusterEdges embed (edgeGroups (loadClusterGraphContext resolver db h)
        (fullServices str lower resolver window now wall f h)) := by
  have hknown := fullServices_known str lower resolver window now wall f h hobs
  have hgraph := @clusterGraph_eq _ (graphScans resolver h) embed _ hknown
  unfold fullServices graphScans at hgraph
  unfold buildClusterTopology
  simp only [Option.any_none, Bool.false_eq_true, if_false, Option.map_none, Option.getD_none,
    windowConnections_full]
  dsimp only [bind, Except.bind] at hgraph ⊢
  rw [hgraph]
  exact ⟨_, rfl, rfl, rfl⟩

/-- What the narrowing to a cluster leaves of the services. -/
def narrowedServices (c : ℕ) : List Service :=
  (fullServices str lower resolver window now wall f h).filter fun s =>
    admitsService (clusterNarrowing resolver (loadClusterGraphContext resolver db h) c)
      s.sourceDeviceId s.remoteIp

theorem windowConnections_cluster (hobs : ObservationsOk db) (hnormal : NormalAddresses db) (c : ℕ)
    (time : Timestamp) (deviceIds : List ℕ) (scans : List ScanRun) :
    windowConnections str window time deviceIds scans
        (clusterNarrowing resolver (loadClusterGraphContext resolver db h) c) db =
      .ok ((windowServices str window time deviceIds scans db).filter fun s =>
        admitsService (clusterNarrowing resolver (loadClusterGraphContext resolver db h) c)
          s.sourceDeviceId s.remoteIp) := by
  rw [windowConnections_eq]
  set narrowing := clusterNarrowing resolver (loadClusterGraphContext resolver db h) c with hn
  have hadmits : ∀ o : ConnectionServiceObservation,
      narrowing.admits o = admitsService narrowing o.deviceId o.remoteIp := by
    intro o
    rw [hn]
    exact Bool.and_true _
  have hselect : (db.observations.filter fun o =>
      windowKeeps window time deviceIds scans o && narrowing.admits o) =
      (db.observations.filter (windowKeeps window time deviceIds scans)).filter fun o =>
        admitsService narrowing o.deviceId o.remoteIp := by
    rw [List.filter_filter]
    apply List.filter_congr
    intro o _
    rw [hadmits, Bool.and_comm]
  rw [hselect, aggregateSelected_filter hobs (fun o ho => List.mem_of_mem_filter ho)
    (fun o ho => hnormal o (List.mem_of_mem_filter ho)) str _ (fun _ _ _ => Iff.rfl)]
  rfl

theorem buildClusterTopology_narrowed (hobs : ObservationsOk db) (hnormal : NormalAddresses db)
    {c : ℕ} (hc : ∃ cluster ∈ db.clusters, cluster.id = c) :
    ∃ narrowed,
      buildClusterTopology str lower resolver window now wall (some c) embed f db h = .ok narrowed ∧
      (narrowed.nodes, narrowed.edges) = oneHop c
        (nodesById (loadClusterGraphContext resolver db h) (graphScans resolver h)
          (edgeGroups (loadClusterGraphContext resolver db h)
            (narrowedServices str lower resolver window now wall f h c))).values
        (clusterEdges embed (edgeGroups (loadClusterGraphContext resolver db h)
          (narrowedServices str lower resolver window now wall f h c))) := by
  have hknown := fullServices_known str lower resolver window now wall f h hobs
  have hgraph := @clusterGraph_eq _ (graphScans resolver h) embed
    (narrowedServices str lower resolver window now wall f h c)
    fun s hs => hknown s (List.mem_of_mem_filter hs)
  have hexists : ((loadClusterGraphContext resolver db h).clusters.all (·.id ≠ c)) = false := by
    obtain ⟨cluster, hcluster, hid⟩ := hc
    rw [List.all_eq_false]
    exact ⟨cluster, (List.mem_insertionSort _).mpr hcluster, by simpa using hid⟩
  unfold buildClusterTopology
  simp only [Option.any_some, hexists, Bool.false_eq_true, if_false, Option.map_some,
    Option.getD_some, windowConnections_cluster str resolver window h hobs hnormal]
  unfold narrowedServices fullServices graphScans at hgraph
  dsimp only [bind, Except.bind] at hgraph ⊢
  rw [filterServiceConnections_filter, hgraph]
  exact ⟨_, rfl, rfl⟩

/-- The node is the cluster, or an end of an edge at the cluster. -/
def WithinOneHop (c : ℕ) (edges : List Edge) (id : String) : Prop :=
  id = "cluster-" ++ toString c ∨ ∃ e ∈ edges, e.touches c = true ∧ (id = e.source ∨ id = e.target)

theorem mem_oneHop_nodes {c : ℕ} {nodes : List Node} {edges : List Edge} {n : Node} :
    n ∈ (oneHop c nodes edges).1 ↔ n ∈ nodes ∧ WithinOneHop c edges n.id := by
  unfold oneHop WithinOneHop
  simp only [List.mem_filter, decide_eq_true_eq, List.mem_cons, List.mem_flatMap, List.not_mem_nil,
    or_false, and_assoc]
  rfl

/-- Edges that agree up to their identifiers have the same ends. -/
theorem withinOneHop_congr {c : ℕ} {edges edges' : List Edge}
    (h : (edges'.filter (·.touches c)).map Edge.withoutId =
      (edges.filter (·.touches c)).map Edge.withoutId) (id : String) :
    WithinOneHop c edges' id ↔ WithinOneHop c edges id := by
  have hends : ∀ {l l' : List Edge}, (l'.filter (·.touches c)).map Edge.withoutId =
      (l.filter (·.touches c)).map Edge.withoutId →
      (∃ e ∈ l', e.touches c = true ∧ (id = e.source ∨ id = e.target)) →
      ∃ e ∈ l, e.touches c = true ∧ (id = e.source ∨ id = e.target) := by
    rintro l l' heq ⟨e, he, htouch, hid⟩
    have hmem : e.withoutId ∈ (l'.filter (·.touches c)).map Edge.withoutId :=
      List.mem_map.mpr ⟨e, List.mem_filter.mpr ⟨he, htouch⟩, rfl⟩
    rw [heq] at hmem
    obtain ⟨e', he', hsame⟩ := List.mem_map.mp hmem
    obtain ⟨he', htouch'⟩ := List.mem_filter.mp he'
    have hsource : e'.source = e.source :=
      (congrArg Edge.source hsame : e'.withoutId.source = e.withoutId.source)
    have htarget : e'.target = e.target :=
      (congrArg Edge.target hsame : e'.withoutId.target = e.withoutId.target)
    exact ⟨e', he', htouch', by rwa [hsource, htarget]⟩
  unfold WithinOneHop
  exact or_congr Iff.rfl ⟨hends h, hends h.symm⟩

/-- An external node within one hop is the target of an edge. -/
theorem external_target {context : ClusterGraphContext} {services : List Service}
    (hknown : ∀ s ∈ services, ∃ d ∈ context.devices, d.id = s.sourceDeviceId) {embed : Bool} {c : ℕ}
    {address : String}
    (hwithin : WithinOneHop c (clusterEdges embed (edgeGroups context services))
      ("external-" ++ address)) :
    "external-" ++ address ∈ (edgeGroups context services).keys.map Prod.snd := by
  rcases hwithin with hcluster | ⟨e, he, -, hsource | htarget⟩
  · exact absurd hcluster.symm (cluster_ne_external _ _)
  · obtain ⟨s, -, d, -, -, -, hmanaged, -⟩ := exists_placed_of_edge hknown he
    exact absurd (hmanaged.symm.trans hsource.symm) (managedNodeId_ne_external d address)
  · obtain ⟨-, details, hget, -⟩ := mem_clusterEdges he
    refine List.mem_map.mpr ⟨(e.source, e.target), ?_, htarget.symm⟩
    rw [Dict.mem_keys_iff, hget]
    rfl

theorem withinOneHop_mem_nodes {context : ClusterGraphContext} {latestScans : List ScanRun}
    {services : List Service}
    (hknown : ∀ s ∈ services, ∃ d ∈ context.devices, d.id = s.sourceDeviceId) {embed : Bool} {c : ℕ}
    (hc : ∃ cluster ∈ context.clusters, cluster.id = c) {id : String}
    (hwithin : WithinOneHop c (clusterEdges embed (edgeGroups context services)) id) :
    id ∈ (nodesById context latestScans (edgeGroups context services)).keys := by
  rcases hwithin with rfl | ⟨e, he, -, hid⟩
  · obtain ⟨cluster, hcluster, rfl⟩ := hc
    exact mem_nodes_keys.mpr (Or.inl ⟨cluster, hcluster, rfl⟩)
  · obtain ⟨s, hs, hplaced⟩ := exists_placed_of_edge hknown he
    obtain ⟨hsource, htarget⟩ := @placed_endpoints context latestScans services hknown s hs _ _ hplaced
    rcases hid with rfl | rfl
    · exact hsource
    · exact htarget

/-- The graph narrowed to a cluster is the full graph within one hop of it. -/
theorem narrowed_graph_is_one_hop (hobs : ObservationsOk db) (hnormal : NormalAddresses db)
    {c : ℕ} (hc : ∃ cluster ∈ db.clusters, cluster.id = c) :
    ∃ full narrowed,
      buildClusterTopology str lower resolver window now wall none embed f db h = .ok full ∧
      buildClusterTopology str lower resolver window now wall (some c) embed f db h = .ok narrowed ∧
      narrowed.edges.map Edge.withoutId =
        (full.edges.filter (·.touches c)).map Edge.withoutId ∧
      (∀ n, n ∈ narrowed.nodes ↔ n ∈ full.nodes ∧ WithinOneHop c full.edges n.id) ∧
      (∀ id, id ∈ narrowed.nodes.map (·.id) ↔ WithinOneHop c full.edges id) ∧
      (narrowed.nodes.map (·.id)).Nodup := by
  obtain ⟨full, hfull, hfullNodes, hfullEdges⟩ :=
    buildClusterTopology_full str lower resolver window now wall embed f h hobs
  obtain ⟨narrowed, hnarrowed, hparts⟩ :=
    buildClusterTopology_narrowed str lower resolver window now wall embed f h hobs hnormal hc
  obtain ⟨hnodes, hedges⟩ := Prod.mk.inj hparts
  have hknown := fullServices_known str lower resolver window now wall f h hobs
  have hknown' : ∀ s ∈ narrowedServices str lower resolver window now wall f h c,
      ∃ d ∈ (loadClusterGraphContext resolver db h).devices, d.id = s.sourceDeviceId :=
    fun s hs => hknown s (List.mem_of_mem_filter hs)
  have hcluster : ∃ cluster ∈ (loadClusterGraphContext resolver db h).clusters, cluster.id = c := by
    obtain ⟨cluster, hmem, hid⟩ := hc
    exact ⟨cluster, (List.mem_insertionSort _).mpr hmem, hid⟩
  -- the groups at the cluster are the same in both graphs
  have hgroups := @edgeGroups_filter (loadClusterGraphContext resolver db h) _ hknown
    (fun s => admitsService (clusterNarrowing resolver (loadClusterGraphContext resolver db h) c)
      s.sourceDeviceId s.remoteIp) (touchesKey c) (fun s _ key hkey hp => admits_of_touches hkey hp)
  have hsame : ((clusterEdges embed (edgeGroups (loadClusterGraphContext resolver db h)
      (narrowedServices str lower resolver window now wall f h c))).filter (·.touches c)).map
        Edge.withoutId = (full.edges.filter (·.touches c)).map Edge.withoutId := by
    rw [hfullEdges, touching_edges, touching_edges, narrowedServices, hgroups]
  have hmem : ∀ n, n ∈ narrowed.nodes ↔ n ∈ full.nodes ∧ WithinOneHop c full.edges n.id := by
    intro n
    change n ∈ (narrowed.nodes, narrowed.edges).1 ↔ _
    rw [hparts, mem_oneHop_nodes, withinOneHop_congr hsame]
    apply and_congr_left
    intro hwithin
    rw [hfullNodes, mem_nodes_iff, mem_nodes_iff]
    have hwithin' := (withinOneHop_congr hsame n.id).mpr hwithin
    rw [hfullEdges] at hwithin
    rw [nodesById_congr]
    intro address hid
    rw [hid] at hwithin hwithin' ⊢
    exact iff_of_true (external_target hknown' hwithin') (external_target hknown hwithin)
  refine ⟨full, narrowed, hfull, hnarrowed, ?_, hmem, ?_, ?_⟩
  · rw [hedges]
    exact hsame
  · intro id
    rw [List.mem_map]
    constructor
    · rintro ⟨n, hn, rfl⟩
      exact ((hmem n).mp hn).2
    · intro hwithin
      have hkey : id ∈ full.nodes.map (·.id) := by
        rw [hfullNodes, nodes_ids]
        rw [hfullEdges] at hwithin
        exact withinOneHop_mem_nodes hknown hcluster hwithin
      obtain ⟨n, hn, rfl⟩ := List.mem_map.mp hkey
      exact ⟨n, (hmem n).mpr ⟨hn, hwithin⟩, rfl⟩
  · rw [hnodes]
    refine List.Nodup.sublist (List.filter_sublist.map _) ?_
    rw [nodes_ids]
    exact (nodesById _ _ _).nodup

end

/-- `str(key)` of a key whose texts need no escapes. -/
def plainStr (key : ServiceKey) : String :=
  "(" ++ toString key.deviceId ++ ", '" ++ key.protocol ++ "', '" ++ key.remoteIp ++ "', " ++
    (key.remotePort.map toString).getD "None" ++ ", '" ++ key.processName ++ "')"

/-- The office after a scan of the web server. -/
def scannedOffice : Database :=
  { officeDatabase with
    scanRuns := [{ id := 1, deviceId := 1, status := .success, startedAt := 1000000 }]
    connectionRecords :=
      [{ id := 1, scanRunId := 1, protocol := "tcp", localIp := "10.0.0.1", localPort := 40000,
         remoteIp := some "10.0.0.2", remotePort := some 5432, state := some "ESTAB" }]
    observations :=
      [{ scanRunId := 1, deviceId := 1, startedAt := 1000000, protocol := "tcp",
         remoteIp := "10.0.0.2", remotePort := 5432, processName := "", sampleConnectionId := 1,
         localIps := "10.0.0.1", localPorts := "40000" }] }

theorem scannedOffice_inventory : InventoryOk scannedOffice.devices scannedOffice.clusters :=
  officeDatabase_inventory

theorem scannedOffice_ok : ObservationsOk scannedOffice :=
  ⟨by decide, by decide, by decide, by decide, by decide⟩

theorem scannedOffice_normal : NormalAddresses scannedOffice := by
  intro o ho
  cases List.mem_singleton.mp ho
  decide +kernel

theorem office_cluster_is_one_hop :
    ∃ full narrowed,
      buildClusterTopology plainStr String.toLower literalResolver .current none 2000000 none true {}
        scannedOffice scannedOffice_inventory = .ok full ∧
      buildClusterTopology plainStr String.toLower literalResolver .current none 2000000 (some 1) true {}
        scannedOffice scannedOffice_inventory = .ok narrowed ∧
      narrowed.edges.map Edge.withoutId =
        (full.edges.filter (·.touches 1)).map Edge.withoutId ∧
      (∀ n, n ∈ narrowed.nodes ↔ n ∈ full.nodes ∧ WithinOneHop 1 full.edges n.id) ∧
      (∀ id, id ∈ narrowed.nodes.map (·.id) ↔ WithinOneHop 1 full.edges id) ∧
      (narrowed.nodes.map (·.id)).Nodup :=
  narrowed_graph_is_one_hop plainStr String.toLower literalResolver .current none 2000000 true {}
    scannedOffice_inventory scannedOffice_ok scannedOffice_normal ⟨_, List.mem_singleton.mpr rfl, rfl⟩

end ConnectionTopology
