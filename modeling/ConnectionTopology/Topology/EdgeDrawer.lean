import ConnectionTopology.Topology.OneHop

/-!
# The connections of one edge

`build_edge_connections` asks for the devices and addresses behind two node
identifiers only. Every service that the full graph shows on the edge is among the
answers, and the shared grouping rules leave nothing else on it.
-/
namespace ConnectionTopology

/-! ## Node identifiers read back -/

theorem dropStart_cluster_device (text : String) :
    Text.dropStart "cluster-" ("device-" ++ text) = none := by
  rw [Option.eq_none_iff_forall_ne_some]
  intro rest h
  exact cluster_ne_device _ _ (Text.dropStart_eq_some.mp h).symm

theorem dropStart_external_managed (d : Device) :
    Text.dropStart "external-" (managedNodeId d) = none := by
  rw [Option.eq_none_iff_forall_ne_some]
  intro rest h
  exact managedNodeId_ne_external d rest (Text.dropStart_eq_some.mp h)

theorem getInt?_natCast {ν : Type} (d : Dict ℕ ν) (n : ℕ) : getInt? d (n : ℤ) = d.get? n := by
  simp [getInt?]

/-- A device is among the devices of its own node. -/
theorem mem_nodeSourceDevices {context : ClusterGraphContext} {d : Device}
    (hd : d ∈ context.devices) : d ∈ nodeSourceDevices (managedNodeId d) context := by
  unfold nodeSourceDevices
  cases hc : d.clusterId with
  | none =>
    rw [managedNodeId_of_none hc, dropStart_cluster_device, Text.dropStart_append]
    dsimp only
    rw [Text.int_toString_nat]
    dsimp only
    rw [getInt?_natCast, (context.byId d.id d).mpr ⟨hd, rfl⟩]
    simp
  | some c =>
    have hpos := (context.inventory.assigned d hd c hc).1
    rw [managedNodeId_of_some hc hpos, Text.dropStart_append]
    dsimp only
    rw [Text.int_toString_nat]
    dsimp only
    rw [getInt?_natCast]
    exact (context.members c d).mpr ⟨hd, hc, hpos⟩

/-- The devices of a node are devices of the context. -/
theorem nodeSourceDevices_subset {context : ClusterGraphContext} {nodeId : String} {d : Device}
    (hd : d ∈ nodeSourceDevices nodeId context) : d ∈ context.devices := by
  unfold nodeSourceDevices at hd
  split at hd
  · split at hd
    · cases hd
    · rename_i n _
      unfold getInt? at hd
      split_ifs at hd
      · cases hd
      · exact ((context.members _ d).mp hd).1
  · split at hd
    · split at hd
      · cases hd
      · unfold getInt? at hd
        split_ifs at hd
        · cases hd
        · rw [Option.mem_toList] at hd
          exact ((context.byId _ d).mp hd).1
    · cases hd

section

variable {resolver : HostAddressResolver} {db : Database}
  {h : InventoryOk db.devices db.clusters}

/-- A shown service has its device and its address behind the two identifiers. -/
theorem placed_behind {s : Service} {sourceId targetId : String}
    (hplaced : (loadClusterGraphContext resolver db h).Placed s sourceId targetId) :
    s.sourceDeviceId ∈ (nodeSourceDevices sourceId (loadClusterGraphContext resolver db h)).map (·.id) ∧
      s.remoteIp ∈ nodeTargetAddresses targetId (loadClusterGraphContext resolver db h) resolver := by
  obtain ⟨d, hd, hid, -, rfl, rfl⟩ := hplaced
  refine ⟨List.mem_map.mpr ⟨d, mem_nodeSourceDevices hd, hid⟩, ?_⟩
  unfold nodeTargetAddresses
  rcases @destination_cases resolver db h s.remoteIp with ⟨owner, howner, hdest, hresolve⟩ | hdest
  · rw [hdest, dropStart_external_managed]
    exact mem_reachableAddresses (mem_nodeSourceDevices howner) hresolve
  · rw [hdest, Text.dropStart_append]
    exact List.mem_singleton.mpr rfl

end

/-! ## The narrowed window -/

section

variable {db : Database} (hobs : ObservationsOk db) {sourceIds allIds : List ℕ}
  (hsub : ∀ id ∈ sourceIds, id ∈ allIds)

include hobs hsub

/-- For an observation of a source device it does not matter whose scans are known. -/
theorem mem_currentIds_iff {o : ConnectionServiceObservation} (ho : o ∈ db.observations)
    (hdevice : o.deviceId ∈ sourceIds) :
    o.scanRunId ∈ (loadCurrentScans sourceIds db).map (·.id) ↔
      o.scanRunId ∈ (loadCurrentScans allIds db).map (·.id) := by
  simp only [List.mem_map, mem_loadCurrentScans]
  constructor
  · rintro ⟨s, ⟨d, hd, hlatest⟩, hid⟩
    exact ⟨s, ⟨d, hsub d hd, hlatest⟩, hid⟩
  · rintro ⟨s, ⟨d, hd, hlatest⟩, hid⟩
    obtain ⟨hs, hsd, -⟩ := latestScan_spec hlatest
    have hsame := hobs.scan o ho s hs hid
    refine ⟨s, ⟨d, ?_, hlatest⟩, hid⟩
    rw [← hsd, hsame]
    exact hdevice

theorem windowKeeps_sources {window : TopologyWindow} {now : Timestamp}
    {o : ConnectionServiceObservation} (ho : o ∈ db.observations) :
    windowKeeps window now sourceIds (loadCurrentScans sourceIds db) o = true ↔
      windowKeeps window now allIds (loadCurrentScans allIds db) o = true ∧
        o.deviceId ∈ sourceIds := by
  constructor
  · intro hkeeps
    have hdevice := deviceId_of_windowKeeps hkeeps
    refine ⟨?_, hdevice⟩
    have hcurrent := mem_currentIds_iff hobs hsub ho hdevice
    unfold windowKeeps at hkeeps ⊢
    split at hkeeps
    · simp only [keepsScan, Bool.and_eq_true, decide_eq_true_eq] at hkeeps ⊢
      refine ⟨?_, hcurrent.mp hkeeps.2⟩
      obtain ⟨s, hs, hsd⟩ := List.mem_map.mp hkeeps.1
      obtain ⟨d, hd, hlatest⟩ := mem_loadCurrentScans.mp hs
      exact List.mem_map.mpr ⟨s, mem_loadCurrentScans.mpr ⟨d, hsub d hd, hlatest⟩, hsd⟩
    · simp only [keepsScan, Bool.and_eq_true, Bool.or_eq_true, decide_eq_true_eq] at hkeeps ⊢
      refine ⟨hsub _ hdevice, ?_⟩
      rcases hkeeps.2 with htime | hscan
      · exact Or.inl htime
      · exact Or.inr (hcurrent.mp hscan)
  · rintro ⟨hkeeps, hdevice⟩
    have hcurrent := mem_currentIds_iff hobs hsub ho hdevice
    unfold windowKeeps at hkeeps ⊢
    split at hkeeps
    · simp only [keepsScan, Bool.and_eq_true, decide_eq_true_eq] at hkeeps ⊢
      have hscan := hcurrent.mpr hkeeps.2
      refine ⟨?_, hscan⟩
      obtain ⟨s, hs, hid⟩ := List.mem_map.mp hscan
      obtain ⟨d, -, hlatest⟩ := mem_loadCurrentScans.mp hs
      exact List.mem_map.mpr ⟨s, hs, hobs.scan o ho s (latestScan_spec hlatest).1 hid⟩
    · simp only [keepsScan, Bool.and_eq_true, Bool.or_eq_true, decide_eq_true_eq] at hkeeps ⊢
      refine ⟨hdevice, ?_⟩
      rcases hkeeps.2 with htime | hscan
      · exact Or.inl htime
      · exact Or.inr (hcurrent.mpr hscan)

/-- The narrowed window holds the services of the full window between the sources and the
addresses. -/
theorem windowConnections_edge (hnormal : NormalAddresses db) (str : ServiceKey → String)
    (window : TopologyWindow) (now : Timestamp) (addresses : List String) :
    windowConnections str window now sourceIds (loadCurrentScans sourceIds db)
        { remoteAddresses := some addresses } db =
      .ok ((windowServices str window now allIds (loadCurrentScans allIds db) db).filter fun s =>
        s.sourceDeviceId ∈ sourceIds && s.remoteIp ∈ addresses) := by
  rw [windowConnections_eq]
  have hselect : (db.observations.filter fun o =>
      windowKeeps window now sourceIds (loadCurrentScans sourceIds db) o &&
        ({ remoteAddresses := some addresses } : Narrowing).admits o) =
      (db.observations.filter (windowKeeps window now allIds (loadCurrentScans allIds db))).filter
        fun o => o.deviceId ∈ sourceIds && o.remoteIp ∈ addresses := by
    rw [List.filter_filter]
    apply List.filter_congr
    intro o ho
    rw [Bool.eq_iff_iff]
    have hkeeps := @windowKeeps_sources db hobs sourceIds allIds hsub window now o ho
    simp only [Bool.and_eq_true, hkeeps, decide_eq_true_eq]
    simp only [Narrowing.admits, Option.isSome_none, Bool.or_self, Bool.false_eq_true, if_false,
      Bool.true_and, decide_eq_true_eq]
    tauto
  rw [hselect, aggregateSelected_filter hobs (fun o ho => List.mem_of_mem_filter ho)
    (fun o ho => hnormal o (List.mem_of_mem_filter ho)) str
    (fun deviceId remoteIp => deviceId ∈ sourceIds && remoteIp ∈ addresses)]
  · rfl
  · intro o ho hq
    rw [Bool.and_eq_true, decide_eq_true_eq] at hq
    exact mem_currentIds_iff hobs hsub (List.mem_of_mem_filter ho) hq.1

end

/-! ## The drawer -/

section

variable (str : ServiceKey → String) (lower : String → String) (resolver : HostAddressResolver)
  (sourceId targetId : String) (window : TopologyWindow) (now : Option Timestamp)
  (wall : Timestamp) (f : ServiceFilter) {db : Database} (h : InventoryOk db.devices db.clusters)

/-- The group of the edge in the full graph. -/
def edgeDetails : List EdgeConnection :=
  ((edgeGroups (loadClusterGraphContext resolver db h)
    (fullServices str lower resolver window now wall f h)).get? (sourceId, targetId)).getD []

/-- Without devices or addresses behind the identifiers the graph has no such edge. -/
theorem edgeDetails_eq_nil (hobs : ObservationsOk db)
    (hempty : nodeSourceDevices sourceId (loadClusterGraphContext resolver db h) = [] ∨
      nodeTargetAddresses targetId (loadClusterGraphContext resolver db h) resolver = []) :
    edgeDetails str lower resolver sourceId targetId window now wall f h = [] := by
  unfold edgeDetails
  cases hget : (edgeGroups (loadClusterGraphContext resolver db h)
      (fullServices str lower resolver window now wall f h)).get? (sourceId, targetId) with
  | none => rfl
  | some details =>
    have hknown := fullServices_known str lower resolver window now wall f h hobs
    obtain ⟨s, hs⟩ := List.exists_mem_of_ne_nil _ (edgeGroups_get? hknown hget).2
    obtain ⟨hsource, htarget⟩ := placed_behind (ClusterGraphContext.mem_shown.mp hs).2
    rcases hempty with hnil | hnil
    · rw [hnil] at hsource
      cases hsource
    · rw [hnil] at htarget
      cases htarget

/-- The drawer returns the group of the edge, sorted. -/
theorem buildEdgeConnections_eq (hobs : ObservationsOk db) (hnormal : NormalAddresses db) :
    buildEdgeConnections str lower resolver sourceId targetId window now wall f db h =
      .ok ((edgeDetails str lower resolver sourceId targetId window now wall f h).insertionSort
        fun a b => a.sortKey ≤ b.sortKey) := by
  unfold buildEdgeConnections
  dsimp only
  split_ifs with hempty
  · rw [edgeDetails_eq_nil str lower resolver sourceId targetId window now wall f h hobs hempty]
    rfl
  · set context := loadClusterGraphContext resolver db h with hcontext
    set sourceIds := (nodeSourceDevices sourceId context).map (·.id) with hsources
    set addresses := nodeTargetAddresses targetId context resolver with haddresses
    have hsub : ∀ id ∈ sourceIds, id ∈ context.devices.map (·.id) := by
      intro id hid
      obtain ⟨d, hd, rfl⟩ := List.mem_map.mp hid
      exact List.mem_map.mpr ⟨d, nodeSourceDevices_subset hd, rfl⟩
    have hknown := fullServices_known str lower resolver window now wall f h hobs
    rw [windowConnections_edge hobs hsub hnormal]
    dsimp only [bind, Except.bind]
    have hgroup := @groupClusterEdges_eq context
      ((fullServices str lower resolver window now wall f h).filter
        fun s => s.sourceDeviceId ∈ sourceIds && s.remoteIp ∈ addresses)
      fun s hs => hknown s (List.mem_of_mem_filter hs)
    unfold fullServices at hgroup
    dsimp only at hgroup
    rw [filterServiceConnections_filter, hgroup]
    -- every service of this edge is among those asked for
    have hgroups := @edgeGroups_filter context _ hknown
      (fun s => s.sourceDeviceId ∈ sourceIds && s.remoteIp ∈ addresses)
      (fun key => key = (sourceId, targetId)) (by
        intro s _ key hkey hplaced
        rw [decide_eq_true_eq] at hkey
        subst hkey
        obtain ⟨hsource, htarget⟩ := placed_behind hplaced
        rw [Bool.and_eq_true, decide_eq_true_eq, decide_eq_true_eq]
        exact ⟨hsource, htarget⟩)
    have hget := Dict.get?_congr hgroups
    unfold edgeDetails
    rw [← hget]
    rfl

/-- The drawer returns, up to order, the connections that the full graph counts on the
edge, and nothing when the graph has no such edge. -/
theorem drawer_shows_the_edge (hobs : ObservationsOk db) (hnormal : NormalAddresses db) :
    ∃ rows full,
      buildEdgeConnections str lower resolver sourceId targetId window now wall f db h = .ok rows ∧
      buildClusterTopology str lower resolver window now wall none true f db h = .ok full ∧
      (∀ e ∈ full.edges, e.source = sourceId → e.target = targetId →
        ∃ details, e.connections = some details ∧ rows.Perm details) ∧
      ((∀ e ∈ full.edges, ¬ (e.source = sourceId ∧ e.target = targetId)) → rows = []) := by
  obtain ⟨full, hfull, -, hedges⟩ :=
    buildClusterTopology_full str lower resolver window now wall true f h hobs
  refine ⟨_, full, buildEdgeConnections_eq str lower resolver sourceId targetId window now wall f h
    hobs hnormal, hfull, ?_, ?_⟩
  · rintro e he rfl rfl
    rw [hedges] at he
    obtain ⟨index, details, hget, hedge⟩ := mem_clusterEdges he
    refine ⟨details, by rw [hedge]; rfl, ?_⟩
    unfold edgeDetails
    rw [hget]
    exact List.perm_insertionSort _ _
  · intro hnone
    unfold edgeDetails
    cases hget : (edgeGroups (loadClusterGraphContext resolver db h)
        (fullServices str lower resolver window now wall f h)).get? (sourceId, targetId) with
    | none => rfl
    | some details =>
      obtain ⟨e, he, hkey⟩ := @clusterEdges_of_get? true _ _ _ hget
      rw [← hedges] at he
      exact absurd (Prod.mk.inj hkey) (hnone e he)

end

theorem office_drawer_shows_the_edge :
    ∃ rows full,
      buildEdgeConnections plainStr String.toLower literalResolver "cluster-1" "device-2" .current none
        2000000 {} scannedOffice scannedOffice_inventory = .ok rows ∧
      buildClusterTopology plainStr String.toLower literalResolver .current none 2000000 none true {}
        scannedOffice scannedOffice_inventory = .ok full ∧
      (∀ e ∈ full.edges, e.source = "cluster-1" → e.target = "device-2" →
        ∃ details, e.connections = some details ∧ rows.Perm details) ∧
      ((∀ e ∈ full.edges, ¬ (e.source = "cluster-1" ∧ e.target = "device-2")) → rows = []) :=
  drawer_shows_the_edge plainStr String.toLower literalResolver "cluster-1" "device-2" .current none
    2000000 {} scannedOffice_inventory scannedOffice_ok scannedOffice_normal

end ConnectionTopology
