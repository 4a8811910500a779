import ConnectionTopology.Services.Topology

/-!
# The cluster graph shows every connection once

Where a service belongs is said in terms of owners, clusters and internal networks.
The graph that the code builds places each service there, or hides it, and its nodes
are exactly what its edges need and more.
-/
namespace ConnectionTopology

/-! ## Node identifiers -/

theorem toString_nat_inj {a b : ℕ} (h : toString a = toString b) : a = b := by
  have hint := congrArg Text.int h
  rw [Text.int_toString_nat, Text.int_toString_nat] at hint
  simpa using hint

theorem nodeId_inj {start : String} {a b : ℕ} (h : start ++ toString a = start ++ toString b) :
    a = b := by
  rw [← String.toList_inj, String.toList_append, String.toList_append] at h
  exact toString_nat_inj (String.toList_inj.mp (List.append_cancel_left h))

/-- Identifiers of different kinds differ in their first letter. -/
theorem nodeId_ne {start other : String} {c d : Char} (hstart : start.toList.head? = some c)
    (hother : other.toList.head? = some d) (hne : c ≠ d) (a b : String) : start ++ a ≠ other ++ b := by
  intro h
  rw [← String.toList_inj, String.toList_append, String.toList_append] at h
  have hhead := congrArg List.head? h
  rw [List.head?_append, List.head?_append, hstart, hother] at hhead
  exact hne (by simpa using hhead)

theorem cluster_ne_device (a b : String) : "cluster-" ++ a ≠ "device-" ++ b :=
  nodeId_ne rfl rfl (by decide) a b

theorem cluster_ne_external (a b : String) : "cluster-" ++ a ≠ "external-" ++ b :=
  nodeId_ne rfl rfl (by decide) a b

theorem device_ne_external (a b : String) : "device-" ++ a ≠ "external-" ++ b :=
  nodeId_ne rfl rfl (by decide) a b

theorem managedNodeId_of_none {d : Device} (h : d.clusterId = none) :
    managedNodeId d = "device-" ++ toString d.id := by
  unfold managedNodeId
  rw [h]

theorem managedNodeId_of_some {d : Device} {c : ℕ} (h : d.clusterId = some c) (hc : c ≠ 0) :
    managedNodeId d = "cluster-" ++ toString c := by
  unfold managedNodeId
  rw [h]
  exact if_pos hc

theorem managedNodeId_ne_external (d : Device) (address : String) :
    managedNodeId d ≠ "external-" ++ address := by
  unfold managedNodeId
  split
  · exact device_ne_external _ _
  · split_ifs
    · exact cluster_ne_external _ _
    · exact device_ne_external _ _

namespace ClusterGraphContext

variable (context : ClusterGraphContext)

/-- The devices that resolve to the address. -/
def ownersOf (address : String) : List Device := (context.addressOwners.get? address).getD []

/-- The address lies in an IPv4 internal network of the device's cluster. -/
def Internal (source : Device) (address : String) : Prop :=
  ∃ cluster ∈ context.clusters, source.clusterId = some cluster.id ∧
    ∃ network ∈ cluster.networks, ∃ v4, ipAddress address = some (.v4 v4) ∧ network.contains v4

/-- Connections of a device that the graph does not show. -/
def Hidden (source : Device) (address : String) : Prop :=
  (∃ owner, context.ownersOf address = [owner] ∧
    (owner = source ∨ ∃ c, source.clusterId = some c ∧ owner.clusterId = some c)) ∨
  (context.ownersOf address = [] ∧ context.Internal source address)

/-- The other end of a shown connection. -/
def destination (address : String) : String :=
  match context.ownersOf address with
  | [owner] => managedNodeId owner
  | _ => "external-" ++ address

/-- The service is shown between two nodes. -/
def Placed (service : Service) (source target : String) : Prop :=
  ∃ d ∈ context.devices, d.id = service.sourceDeviceId ∧ ¬ context.Hidden d service.remoteIp ∧
    source = managedNodeId d ∧ target = context.destination service.remoteIp

variable {context}

theorem device_unique {d e : Device} (hd : d ∈ context.devices) (he : e ∈ context.devices)
    (h : d.id = e.id) : d = e :=
  List.inj_on_of_nodup_map context.inventory.deviceIds hd he h

theorem isClusterInternalAddress_iff {source : Device} {address : String}
    (hsource : source ∈ context.devices) :
    isClusterInternalAddress address source.clusterId context.networksByCluster = true ↔
      context.Internal source address := by
  unfold isClusterInternalAddress Internal
  constructor
  · intro h
    split at h
    · cases h
    · rename_i c hc
      obtain ⟨-, cluster, hcluster, rfl⟩ := context.inventory.assigned source hsource c hc
      split at h
      · rename_i v4 hv4
        rw [context.networks cluster hcluster, Option.getD_some, List.any_eq_true] at h
        obtain ⟨network, hnetwork, hcontains⟩ := h
        exact ⟨cluster, hcluster, hc, network, hnetwork, v4, hv4, hcontains⟩
      · cases h
  · rintro ⟨cluster, hcluster, hc, network, hnetwork, v4, hv4, hcontains⟩
    rw [hc]
    dsimp only
    rw [hv4, context.networks cluster hcluster]
    exact List.any_eq_true.mpr ⟨network, hnetwork, hcontains⟩

/-- Devices with one node are one device or share a cluster. -/
theorem managedNodeId_eq {d e : Device} (hd : d ∈ context.devices) (he : e ∈ context.devices)
    (h : managedNodeId d = managedNodeId e) :
    d = e ∨ ∃ c, d.clusterId = some c ∧ e.clusterId = some c := by
  cases hdc : d.clusterId with
  | none =>
    cases hec : e.clusterId with
    | none =>
      rw [managedNodeId_of_none hdc, managedNodeId_of_none hec] at h
      exact Or.inl (device_unique hd he (nodeId_inj h))
    | some c =>
      have hc := (context.inventory.assigned e he c hec).1
      rw [managedNodeId_of_none hdc, managedNodeId_of_some hec hc] at h
      exact absurd h.symm (cluster_ne_device _ _)
  | some c =>
    have hc := (context.inventory.assigned d hd c hdc).1
    cases hec : e.clusterId with
    | none =>
      rw [managedNodeId_of_some hdc hc, managedNodeId_of_none hec] at h
      exact absurd h (cluster_ne_device _ _)
    | some c' =>
      have hc' := (context.inventory.assigned e he c' hec).1
      rw [managedNodeId_of_some hdc hc, managedNodeId_of_some hec hc'] at h
      exact Or.inr ⟨c, rfl, by rw [nodeId_inj h]⟩

/-! ## One service -/

/-- `_service_edge_target` hides what is hidden and leads to the destination. -/
theorem serviceEdgeTarget_spec {service : Service} {source : Device}
    (hsource : source ∈ context.devices) :
    (context.Hidden source service.remoteIp ∧ serviceEdgeTarget service source context = none) ∨
    (¬ context.Hidden source service.remoteIp ∧
      ∃ target, serviceEdgeTarget service source context =
        some (context.destination service.remoteIp, target)) := by
  have hinternal := @isClusterInternalAddress_iff context source service.remoteIp hsource
  have howners := context.owners service.remoteIp
  unfold serviceEdgeTarget Hidden destination ownersOf
  cases hcase : (context.addressOwners.get? service.remoteIp).getD [] with
  | nil =>
    dsimp only
    by_cases hint : context.Internal source service.remoteIp
    · left
      exact ⟨Or.inr ⟨rfl, hint⟩, if_pos ⟨rfl, hinternal.mpr hint⟩⟩
    · right
      refine ⟨?_, none, if_neg fun h => hint (hinternal.mp h.2)⟩
      rintro (⟨owner, howner, -⟩ | ⟨-, h⟩)
      · cases howner
      · exact hint h
  | cons owner rest =>
    cases rest with
    | nil =>
      dsimp only
      have howner : owner ∈ context.devices := howners owner (by rw [hcase]; simp)
      by_cases hsame : owner.id = source.id
      · left
        refine ⟨Or.inl ⟨owner, rfl, Or.inl (device_unique howner hsource hsame)⟩, if_pos hsame⟩
      · rw [if_neg hsame]
        by_cases hcluster : source.clusterId ≠ none ∧ source.clusterId = owner.clusterId
        · left
          obtain ⟨c, hc⟩ := Option.ne_none_iff_exists'.mp hcluster.1
          refine ⟨Or.inl ⟨owner, rfl, Or.inr ⟨c, hc, hcluster.2.symm.trans hc⟩⟩, if_pos hcluster⟩
        · right
          refine ⟨?_, some owner, if_neg hcluster⟩
          rintro (⟨owner', hlist, hrel⟩ | ⟨hnil, -⟩)
          · cases hlist
            rcases hrel with rfl | ⟨c, hs, ho⟩
            · exact hsame rfl
            · exact hcluster ⟨by simp [hs], hs.trans ho.symm⟩
          · cases hnil
    | cons second rest =>
      right
      refine ⟨?_, none, if_neg fun h => by simp at h⟩
      rintro (⟨owner', hlist, -⟩ | ⟨hnil, -⟩)
      · cases hlist
      · cases hnil

/-- A shown service does not lead back to its own node. -/
theorem destination_ne_source {source : Device} (hsource : source ∈ context.devices)
    {address : String} (h : ¬ context.Hidden source address) :
    managedNodeId source ≠ context.destination address := by
  have howners := context.owners address
  unfold destination
  split
  · rename_i owner hlist
    intro heq
    apply h
    have howner : owner ∈ context.devices := howners owner (by
      change owner ∈ context.ownersOf address
      rw [hlist]
      simp)
    refine Or.inl ⟨owner, hlist, ?_⟩
    rcases managedNodeId_eq hsource howner heq with rfl | hcluster
    · exact Or.inl rfl
    · exact Or.inr hcluster
  · exact managedNodeId_ne_external source address

/-- What the grouping loop makes of a service. -/
def item? (context : ClusterGraphContext) (service : Service) :
    Option ((String × String) × EdgeConnection) :=
  (context.devicesById.get? service.sourceDeviceId).bind (edgeItem context service)

theorem edgeItems_eq {services : List Service}
    (h : ∀ s ∈ services, ∃ d ∈ context.devices, d.id = s.sourceDeviceId) :
    edgeItems context services = .ok (services.filterMap context.item?) := by
  induction services with
  | nil => rfl
  | cons s services ih =>
    obtain ⟨d, hd, hid⟩ := h s (by simp)
    have hget : context.devicesById.get? s.sourceDeviceId = some d := (context.byId _ d).mpr ⟨hd, hid⟩
    rw [edgeItems, hget, ih fun t ht => h t (by simp [ht])]
    dsimp only [Except.map]
    rw [List.filterMap_cons]
    unfold item?
    rw [hget, Option.bind_some]
    cases edgeItem context s d <;> rfl

/-- A service gets an item exactly at the place where it is shown. -/
theorem item?_spec {service : Service} (h : ∃ d ∈ context.devices, d.id = service.sourceDeviceId)
    (key : String × String) :
    context.Placed service key.1 key.2 ↔ ∃ detail, context.item? service = some (key, detail) := by
  obtain ⟨d, hd, hid⟩ := h
  have hget : context.devicesById.get? service.sourceDeviceId = some d := (context.byId _ d).mpr ⟨hd, hid⟩
  have hplaced : context.Placed service key.1 key.2 ↔ ¬ context.Hidden d service.remoteIp ∧
      key = (managedNodeId d, context.destination service.remoteIp) := by
    unfold Placed
    constructor
    · rintro ⟨e, he, hid', hshown, hsource, htarget⟩
      obtain rfl := device_unique hd he (hid.trans hid'.symm)
      exact ⟨hshown, Prod.ext hsource htarget⟩
    · rintro ⟨hshown, rfl⟩
      exact ⟨d, hd, hid, hshown, rfl, rfl⟩
  rw [hplaced]
  unfold item? edgeItem
  rw [hget, Option.bind_some]
  rcases @serviceEdgeTarget_spec context service d hd with ⟨hhidden, htarget⟩ | ⟨hshown, target, htarget⟩
  · rw [htarget]
    simp [hhidden]
  · rw [htarget]
    dsimp only
    rw [if_neg (destination_ne_source hd hshown)]
    constructor
    · rintro ⟨-, rfl⟩
      exact ⟨_, rfl⟩
    · rintro ⟨detail, hdetail⟩
      cases hdetail
      exact ⟨hshown, rfl⟩

theorem item?_service {service : Service} {key : String × String} {detail : EdgeConnection}
    (h : context.item? service = some (key, detail)) : detail.toService = service := by
  unfold item? at h
  obtain ⟨d, -, hitem⟩ := Option.bind_eq_some_iff.mp h
  unfold edgeItem at hitem
  split at hitem
  · cases hitem
  · split_ifs at hitem
    cases hitem
    rfl

/-! ## Edges -/

open Classical in
/-- The services shown between two nodes. -/
noncomputable def shown (context : ClusterGraphContext) (services : List Service)
    (source target : String) : List Service :=
  services.filter fun s => context.Placed s source target

theorem mem_shown {services : List Service} {source target : String} {s : Service} :
    s ∈ context.shown services source target ↔ s ∈ services ∧ context.Placed s source target := by
  simp [shown]

/-- The details under a key are the services shown there, in their order. -/
theorem details_toService {services : List Service}
    (h : ∀ s ∈ services, ∃ d ∈ context.devices, d.id = s.sourceDeviceId) (key : String × String) :
    (((services.filterMap context.item?).filter (·.1 = key)).map Prod.snd).map (·.toService) =
      context.shown services key.1 key.2 := by
  unfold shown
  induction services with
  | nil => rfl
  | cons s services ih =>
    have hrest := ih fun t ht => h t (by simp [ht])
    have hspec := item?_spec (h s (by simp)) key
    cases hitem : context.item? s with
    | none =>
      have hnot : ¬ context.Placed s key.1 key.2 := by
        rw [hspec, hitem]
        simp
      rw [List.filterMap_cons_none hitem, List.filter_cons_of_neg (by simpa using hnot)]
      exact hrest
    | some item =>
      obtain ⟨k, detail⟩ := item
      rw [List.filterMap_cons_some hitem]
      by_cases hk : k = key
      · have hplaced : context.Placed s key.1 key.2 := by
          rw [hspec, hitem, hk]
          exact ⟨detail, rfl⟩
        rw [List.filter_cons_of_pos (by simpa using hk), List.filter_cons_of_pos (by simpa using hplaced),
          List.map_cons, List.map_cons, hrest, item?_service hitem]
      · have hnot : ¬ context.Placed s key.1 key.2 := by
          rw [hspec, hitem]
          rintro ⟨_, hd⟩
          cases hd
          exact hk rfl
        rw [List.filter_cons_of_neg (by simpa using hk), List.filter_cons_of_neg (by simpa using hnot)]
        exact hrest

end ClusterGraphContext

/-- The edges stand under the sorted keys. -/
theorem clusterEdges_keys (embed : Bool) (groups : Dict (String × String) (List EdgeConnection)) :
    (clusterEdges embed groups).map (fun e => (e.source, e.target)) =
      (sortedEdgeGroups groups).map Prod.fst := by
  unfold clusterEdges
  rw [List.map_map]
  have hcomp : ((fun e : Edge => (e.source, e.target)) ∘ fun e : ((String × String) ×
      List EdgeConnection) × ℕ => clusterEdge embed e.2 e.1.1 e.1.2) = Prod.fst ∘ Prod.fst := rfl
  rw [hcomp, ← List.map_map, List.zipIdx_map_fst]

theorem nodup_clusterEdges (embed : Bool)
    (groups : Dict (String × String) (List EdgeConnection)) :
    ((clusterEdges embed groups).map fun e => (e.source, e.target)).Nodup := by
  rw [clusterEdges_keys]
  exact ((List.perm_insertionSort _ _).map _).nodup_iff.mpr groups.nodup

theorem mem_clusterEdges {embed : Bool} {groups : Dict (String × String) (List EdgeConnection)}
    {e : Edge} (h : e ∈ clusterEdges embed groups) :
    ∃ index details, groups.get? (e.source, e.target) = some details ∧
      e = clusterEdge embed index (e.source, e.target) details := by
  obtain ⟨⟨⟨key, details⟩, index⟩, hmem, rfl⟩ := List.mem_map.mp h
  have hentry : (key, details) ∈ groups.entries :=
    (List.mem_insertionSort _).mp (List.fst_mem_of_mem_zipIdx hmem)
  exact ⟨index, details, Dict.mem_entries_iff.mp hentry, rfl⟩

theorem clusterEdges_of_get? {embed : Bool}
    {groups : Dict (String × String) (List EdgeConnection)} {key : String × String}
    {details : List EdgeConnection} (h : groups.get? key = some details) :
    ∃ e ∈ clusterEdges embed groups, (e.source, e.target) = key := by
  have hmem : key ∈ (sortedEdgeGroups groups).map Prod.fst :=
    List.mem_map.mpr ⟨(key, details), (List.mem_insertionSort _).mpr (Dict.mem_entries_iff.mpr h), rfl⟩
  rw [← clusterEdges_keys embed groups] at hmem
  obtain ⟨e, he, hkey⟩ := List.mem_map.mp hmem
  exact ⟨e, he, hkey⟩

/-! ## Nodes -/

/-- A node stands under its own identifier. -/
theorem nodesById_id (context : ClusterGraphContext) (latestScans : List ScanRun)
    (groups : Dict (String × String) (List EdgeConnection)) :
    ∀ k n, (nodesById context latestScans groups).get? k = some n → n.id = k := by
  unfold nodesById
  refine @Dict.forall_foldl_upsert _ _ _ _ Node.id (fun old node => old.getD node) _ _
    (fun k n => n.id = k) ?_ ?_
  · refine @Dict.forall_foldl_upsert _ _ _ _ Node.id (fun _ node => node) _ _ _ ?_ ?_
    · intro k v hv
      cases hv
    · intro node _ old _
      rfl
  · intro node _ old hold
    cases old with
    | none => rfl
    | some v => exact hold v rfl

theorem nodes_ids (context : ClusterGraphContext) (latestScans : List ScanRun)
    (groups : Dict (String × String) (List EdgeConnection)) :
    (nodesById context latestScans groups).values.map Node.id =
      (nodesById context latestScans groups).keys := by
  unfold Dict.values Dict.keys
  rw [List.map_map]
  apply List.map_congr_left
  rintro ⟨k, n⟩ hentry
  exact nodesById_id context latestScans groups k n (Dict.mem_entries_iff.mp hentry)

theorem mem_nodes_keys {context : ClusterGraphContext} {latestScans : List ScanRun}
    {groups : Dict (String × String) (List EdgeConnection)} {id : String} :
    id ∈ (nodesById context latestScans groups).keys ↔
      (∃ cluster ∈ context.clusters, "cluster-" ++ toString cluster.id = id) ∨
      (∃ d ∈ context.devices, d.clusterId = none ∧ "device-" ++ toString d.id = id) ∨
      ∃ source address, (source, "external-" ++ address) ∈ groups.keys ∧ "external-" ++ address = id := by
  unfold nodesById
  rw [Dict.mem_keys_foldl_upsert, Dict.mem_keys_collect, or_assoc.symm]
  apply or_congr
  · simp only [List.mem_append, List.mem_map, List.mem_filter, decide_eq_true_eq]
    constructor
    · rintro ⟨n, ⟨c, hc, rfl⟩ | ⟨d, ⟨hd, hnone⟩, rfl⟩, rfl⟩
      · exact Or.inl ⟨c, hc, rfl⟩
      · exact Or.inr ⟨d, hd, hnone, rfl⟩
    · rintro (⟨c, hc, rfl⟩ | ⟨d, hd, hnone, rfl⟩)
      · exact ⟨_, Or.inl ⟨c, hc, rfl⟩, rfl⟩
      · exact ⟨_, Or.inr ⟨d, ⟨hd, hnone⟩, rfl⟩, rfl⟩
  · simp only [List.mem_filterMap, Option.map_eq_some_iff, Text.dropStart_eq_some]
    constructor
    · rintro ⟨n, ⟨⟨source, target⟩, hkey, address, rfl, rfl⟩, rfl⟩
      exact ⟨source, address, hkey, rfl⟩
    · rintro ⟨source, address, hkey, rfl⟩
      exact ⟨_, ⟨_, hkey, address, rfl, rfl⟩, rfl⟩

theorem managedNodeId_mem_nodes {context : ClusterGraphContext} {latestScans : List ScanRun}
    {groups : Dict (String × String) (List EdgeConnection)} {d : Device}
    (hd : d ∈ context.devices) :
    managedNodeId d ∈ (nodesById context latestScans groups).keys := by
  rw [mem_nodes_keys]
  cases hc : d.clusterId with
  | none =>
    rw [managedNodeId_of_none hc]
    exact Or.inr (Or.inl ⟨d, hd, hc, rfl⟩)
  | some c =>
    obtain ⟨hpos, cluster, hcluster, rfl⟩ := context.inventory.assigned d hd c hc
    rw [managedNodeId_of_some hc hpos]
    exact Or.inl ⟨cluster, hcluster, rfl⟩

/-! ## The whole graph -/

/-- The graph neither loses nor invents connections, and it is well formed. -/
structure ShowsAll (context : ClusterGraphContext) (embed : Bool) (services : List Service)
    (nodes : List Node) (edges : List Edge) : Prop where
  placed : ∀ s ∈ services, ∀ d ∈ context.devices, d.id = s.sourceDeviceId →
    (context.Hidden d s.remoteIp ∧ ∀ e ∈ edges, ¬ context.Placed s e.source e.target) ∨
    (¬ context.Hidden d s.remoteIp ∧ ∃! e, e ∈ edges ∧ context.Placed s e.source e.target)
  details : ∀ e ∈ edges, e.connections.map (·.map (·.toService)) =
    if embed then some (context.shown services e.source e.target) else none
  count : ∀ e ∈ edges, e.count = (context.shown services e.source e.target).length
  split : ∀ e ∈ edges, e.count = e.currentCount + e.historicalCount
  nonempty : ∀ e ∈ edges, 0 < e.count
  endpoints : ∀ e ∈ edges, e.source ∈ nodes.map (·.id) ∧ e.target ∈ nodes.map (·.id)
  noLoop : ∀ e ∈ edges, e.source ≠ e.target
  nodeIds : (nodes.map (·.id)).Nodup

section

variable {context : ClusterGraphContext} {latestScans : List ScanRun} {embed : Bool}
  {services : List Service}

/-- The groups of the services of a context. -/
def edgeGroups (context : ClusterGraphContext) (services : List Service) :
    Dict (String × String) (List EdgeConnection) :=
  Dict.appendAll (services.filterMap context.item?)

theorem groupClusterEdges_eq
    (h : ∀ s ∈ services, ∃ d ∈ context.devices, d.id = s.sourceDeviceId) :
    groupClusterEdges services context = .ok (edgeGroups context services) := by
  unfold groupClusterEdges
  rw [ClusterGraphContext.edgeItems_eq h]
  rfl

theorem clusterGraph_eq (h : ∀ s ∈ services, ∃ d ∈ context.devices, d.id = s.sourceDeviceId) :
    clusterGraph context latestScans embed services =
      .ok ((nodesById context latestScans (edgeGroups context services)).values,
        clusterEdges embed (edgeGroups context services)) := by
  unfold clusterGraph
  rw [groupClusterEdges_eq h]
  rfl

/-- A group holds the services shown there, and there is no empty group. -/
theorem edgeGroups_get? (h : ∀ s ∈ services, ∃ d ∈ context.devices, d.id = s.sourceDeviceId)
    {key : String × String} {details : List EdgeConnection}
    (hget : (edgeGroups context services).get? key = some details) :
    details.map (·.toService) = context.shown services key.1 key.2 ∧
      context.shown services key.1 key.2 ≠ [] := by
  rw [edgeGroups, Dict.get?_appendAll] at hget
  split_ifs at hget with hnil
  cases hget
  rw [← ClusterGraphContext.details_toService h]
  exact ⟨rfl, by simpa using hnil⟩

theorem edgeGroups_of_placed (h : ∀ s ∈ services, ∃ d ∈ context.devices, d.id = s.sourceDeviceId)
    {s : Service} (hs : s ∈ services) {key : String × String}
    (hplaced : context.Placed s key.1 key.2) :
    ∃ details, (edgeGroups context services).get? key = some details := by
  obtain ⟨detail, hitem⟩ := (ClusterGraphContext.item?_spec (h s hs) key).mp hplaced
  have hmem : (key, detail) ∈ (services.filterMap context.item?).filter (·.1 = key) := by
    rw [List.mem_filter, List.mem_filterMap]
    exact ⟨⟨s, hs, hitem⟩, by simp⟩
  rw [edgeGroups, Dict.get?_appendAll, if_neg (List.ne_nil_of_mem hmem)]
  exact ⟨_, rfl⟩

/-- Every edge shows a service. -/
theorem exists_placed_of_edge
    (h : ∀ s ∈ services, ∃ d ∈ context.devices, d.id = s.sourceDeviceId) {e : Edge}
    (he : e ∈ clusterEdges embed (edgeGroups context services)) :
    ∃ s ∈ services, context.Placed s e.source e.target := by
  obtain ⟨-, details, hget, -⟩ := mem_clusterEdges he
  obtain ⟨s, hs⟩ := List.exists_mem_of_ne_nil _ (edgeGroups_get? h hget).2
  obtain ⟨hs, hplaced⟩ := ClusterGraphContext.mem_shown.mp hs
  exact ⟨s, hs, hplaced⟩

/-- Both ends of a shown service are nodes. -/
theorem placed_endpoints (h : ∀ s ∈ services, ∃ d ∈ context.devices, d.id = s.sourceDeviceId)
    {s : Service} (hs : s ∈ services) {source target : String}
    (hplaced : context.Placed s source target) :
    source ∈ (nodesById context latestScans (edgeGroups context services)).keys ∧
      target ∈ (nodesById context latestScans (edgeGroups context services)).keys := by
  obtain ⟨details, hget⟩ := @edgeGroups_of_placed context services h s hs (source, target) hplaced
  obtain ⟨d, hd, -, -, rfl, rfl⟩ := hplaced
  refine ⟨managedNodeId_mem_nodes hd, ?_⟩
  unfold ClusterGraphContext.destination at hget ⊢
  split
  · rename_i owner hlist
    have howner : owner ∈ context.ownersOf s.remoteIp := by
      rw [hlist]
      simp
    exact managedNodeId_mem_nodes (context.owners s.remoteIp owner howner)
  · rename_i hmany
    rw [mem_nodes_keys]
    refine Or.inr (Or.inr ⟨managedNodeId d, s.remoteIp, ?_, rfl⟩)
    rw [Dict.mem_keys_iff]
    split at hget
    · rename_i owner hlist
      exact absurd hlist (hmany owner)
    · rw [hget]
      rfl

/-- A service is shown on at most one edge. -/
theorem placed_unique {s : Service} {source target source' target' : String}
    (hplaced : context.Placed s source target) (hplaced' : context.Placed s source' target') :
    (source, target) = (source', target') := by
  obtain ⟨d, hd, hid, -, rfl, rfl⟩ := hplaced
  obtain ⟨e, he, hid', -, rfl, rfl⟩ := hplaced'
  obtain rfl := ClusterGraphContext.device_unique hd he (hid.trans hid'.symm)
  rfl

/-- For every context and every list of services of its devices, the graph is built and
shows each service that is not hidden on exactly one edge. -/
theorem cluster_graph_shows_all
    (h : ∀ s ∈ services, ∃ d ∈ context.devices, d.id = s.sourceDeviceId) :
    ∃ nodes edges, clusterGraph context latestScans embed services = .ok (nodes, edges) ∧
      ShowsAll context embed services nodes edges := by
  refine ⟨_, _, clusterGraph_eq h, ?_⟩
  have hcount : ∀ e ∈ clusterEdges embed (edgeGroups context services),
      e.count = (context.shown services e.source e.target).length := by
    intro e he
    obtain ⟨index, details, hget, hedge⟩ := mem_clusterEdges he
    rw [← (edgeGroups_get? h hget).1, List.length_map, hedge]
    rfl
  refine ⟨?_, ?_, hcount, ?_, ?_, ?_, ?_, ?_⟩
  · intro s hs d hd hid
    by_cases hhidden : context.Hidden d s.remoteIp
    · left
      refine ⟨hhidden, ?_⟩
      rintro e - ⟨d', hd', hid', hshown, -, -⟩
      obtain rfl := ClusterGraphContext.device_unique hd hd' (hid.trans hid'.symm)
      exact hshown hhidden
    · right
      refine ⟨hhidden, ?_⟩
      have hplaced : context.Placed s (managedNodeId d) (context.destination s.remoteIp) :=
        ⟨d, hd, hid, hhidden, rfl, rfl⟩
      obtain ⟨details, hget⟩ := @edgeGroups_of_placed context services h s hs
        (managedNodeId d, context.destination s.remoteIp) hplaced
      obtain ⟨e, he, hkey⟩ := @clusterEdges_of_get? embed _ _ _ hget
      obtain ⟨hsource, htarget⟩ := Prod.mk.inj hkey
      rw [← hsource, ← htarget] at hplaced
      refine ⟨e, ⟨he, hplaced⟩, ?_⟩
      rintro e' ⟨he', hplaced'⟩
      exact List.inj_on_of_nodup_map (nodup_clusterEdges embed _) he' he
        (placed_unique hplaced' hplaced)
  · intro e he
    obtain ⟨index, details, hget, hedge⟩ := mem_clusterEdges he
    rw [← (edgeGroups_get? h hget).1, hedge]
    cases embed <;> rfl
  · intro e he
    obtain ⟨index, details, -, hedge⟩ := mem_clusterEdges he
    have hle : details.countP (·.isCurrent) ≤ details.length := List.countP_le_length
    rw [hedge]
    simp only [clusterEdge]
    omega
  · intro e he
    obtain ⟨s, hs, hplaced⟩ := exists_placed_of_edge h he
    rw [hcount e he, List.length_pos_iff]
    exact List.ne_nil_of_mem (ClusterGraphContext.mem_shown.mpr ⟨hs, hplaced⟩)
  · intro e he
    obtain ⟨s, hs, hplaced⟩ := exists_placed_of_edge h he
    rw [nodes_ids]
    exact placed_endpoints h hs hplaced
  · intro e he
    obtain ⟨s, hs, d, hd, -, hshown, hsource, htarget⟩ := exists_placed_of_edge h he
    rw [hsource, htarget]
    exact ClusterGraphContext.destination_ne_source hd hshown
  · rw [nodes_ids]
    exact (nodesById context latestScans (edgeGroups context services)).nodup

end

/-- The answers of the resolver for hosts that are addresses. -/
def literalResolver : HostAddressResolver where
  resolve host := [normalizeIpAddress host]
  nodup := by simp

/-- A clustered web server, and a database server of its own. -/
def officeDatabase : Database where
  clusters := [{ id := 1, name := "web", internalNetworks := ["10.9.0.0/16"] }]
  devices :=
    [{ id := 1, name := "web-1", host := "10.0.0.1", clusterId := some 1 },
      { id := 2, name := "db-1", host := "10.0.0.2" }]

theorem officeDatabase_inventory : InventoryOk officeDatabase.devices officeDatabase.clusters := by
  refine ⟨by decide, by decide, ?_⟩
  intro d hd c hc
  rcases List.mem_cons.mp hd with rfl | hd
  · cases hc
    exact ⟨by decide, _, List.mem_singleton.mpr rfl, rfl⟩
  · cases List.mem_singleton.mp hd
    cases hc

/-- A query of the web server to the database. -/
def officeService : Service where
  id := 1
  protocol := "tcp"
  addressFamily := "ipv4"
  localIp := "10.0.0.1"
  localPort := some 40000
  remoteIp := "10.0.0.2"
  remotePort := some 5432
  state := some "ESTAB"
  pid := none
  processName := none
  remoteHostname := none
  sourceDeviceId := 1
  scanId := 1
  scanTime := 0
  isCurrent := true
  firstSeen := 0
  lastSeen := 0
  observationCount := 1
  observedLocalIps := ["10.0.0.1"]
  observedLocalPorts := [40000]
  observedPids := []

theorem office_graph_shows_all :
    ∃ nodes edges,
      clusterGraph (loadClusterGraphContext literalResolver officeDatabase officeDatabase_inventory)
        [] true [officeService] = .ok (nodes, edges) ∧
      ShowsAll (loadClusterGraphContext literalResolver officeDatabase officeDatabase_inventory) true
        [officeService] nodes edges := by
  apply cluster_graph_shows_all
  intro s hs
  cases List.mem_singleton.mp hs
  exact ⟨_, (List.mem_insertionSort _).mpr (List.mem_cons_self ..), rfl⟩

end ConnectionTopology
