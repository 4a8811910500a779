import ConnectionTopology.Topology.EdgeDrawer
import ConnectionTopology.Topology.ServiceKeys
import ConnectionTopology.Library.Chunks

/-!
# Pages of an edge

The rows of an edge are sorted by what they show. Apart from the row number this is the key
under which services are grouped, so it never ties: it fixes the place of every row among
any others, whatever the order in which the services came.
-/
namespace ConnectionTopology

/-- The answer of `get_edge_connections`. -/
structure EdgeConnectionsPage where
  source : String
  target : String
  total : ℕ
  connections : List EdgeConnection
  deriving DecidableEq, Repr

/-- What `get_edge_connections` makes of the rows; `limit` and `offset` are checked before. -/
def getEdgeConnections (source target : String) (rows : List EdgeConnection) (limit offset : ℕ) :
    EdgeConnectionsPage where
  source := source
  target := target
  total := rows.length
  connections := (rows.drop offset).take limit

/-- `_connection_group_sort_key` without its last component. -/
def EdgeConnection.placeKey (row : EdgeConnection) : String ×ₗ ℤ ×ₗ String ×ₗ String ×ₗ ℕ :=
  toLex (row.remoteIp, toLex (row.remotePort.getD 0, toLex (row.protocol,
    toLex (row.processName.getD "", row.sourceDeviceId))))

/-- The rows of an edge among given services. -/
def edgeRows (lower : String → String) (f : ServiceFilter) (context : ClusterGraphContext)
    (sourceId targetId : String) (services : List Service) :
    Except TopologyError (List EdgeConnection) :=
  (groupClusterEdges (filterServiceConnections lower f services) context).map fun edgeGroups =>
    ((edgeGroups.get? (sourceId, targetId)).getD []).insertionSort fun a b => a.sortKey ≤ b.sortKey

/-- The services that `build_edge_connections` aggregates for an edge. -/
def edgeServices (str : ServiceKey → String) (resolver : HostAddressResolver)
    (sourceId targetId : String) (window : TopologyWindow) (now : Timestamp)
    (context : ClusterGraphContext) (db : Database) : Except TopologyError (List Service) :=
  let sourceDeviceIds := (nodeSourceDevices sourceId context).map (·.id)
  windowConnections str window now sourceDeviceIds (loadCurrentScans sourceDeviceIds db)
    { remoteAddresses := some (nodeTargetAddresses targetId context resolver) } db

/-! ## The key of a place -/

theorem EdgeConnection.placeKey_le {a b : EdgeConnection} (h : a.sortKey ≤ b.sortKey) :
    a.placeKey ≤ b.placeKey := by
  unfold EdgeConnection.sortKey at h
  unfold EdgeConnection.placeKey
  simp only [Prod.Lex.toLex_le_toLex] at h ⊢
  rcases h with h | ⟨hip, h⟩
  · exact Or.inl h
  · refine Or.inr ⟨hip, ?_⟩
    rcases h with h | ⟨hport, h⟩
    · exact Or.inl h
    · refine Or.inr ⟨hport, ?_⟩
      rcases h with h | ⟨hprotocol, h⟩
      · exact Or.inl h
      · refine Or.inr ⟨hprotocol, ?_⟩
        rcases h with h | ⟨hprocess, h⟩
        · exact Or.inl h
        · refine Or.inr ⟨hprocess, ?_⟩
          rcases h with h | ⟨hdevice, -⟩
          · exact h.le
          · exact hdevice.le

/-- The place of a row tells its service, and the service its place. -/
theorem EdgeConnection.placeKey_eq_iff {a b : EdgeConnection} :
    a.placeKey = b.placeKey ↔ a.groupKey = b.groupKey := by
  simp only [EdgeConnection.placeKey, ServiceValues.groupKey, ServiceKey.mk.injEq, toLex_inj,
    Prod.mk.injEq, Option.some.injEq]
  tauto

theorem EdgeConnection.placeKey_lt_iff {a b a' b' : EdgeConnection}
    (ha : a.groupKey = a'.groupKey) (hb : b.groupKey = b'.groupKey) :
    a.placeKey < b.placeKey ↔ a'.placeKey < b'.placeKey := by
  rw [EdgeConnection.placeKey_eq_iff.mpr ha, EdgeConnection.placeKey_eq_iff.mpr hb]

/-- Rows of different services are sorted strictly. -/
theorem insertionSort_placeKey {details : List EdgeConnection}
    (h : (details.map fun row => row.groupKey).Nodup) :
    (details.insertionSort fun a b => a.sortKey ≤ b.sortKey).Pairwise fun a b =>
      a.placeKey < b.placeKey := by
  set rows := details.insertionSort fun a b => a.sortKey ≤ b.sortKey with hrows
  have hsorted : rows.Pairwise fun a b => a.sortKey ≤ b.sortKey := List.pairwise_insertionSort _ _
  have hperm : rows.Perm details := List.perm_insertionSort _ _
  have hdistinct : rows.Pairwise fun a b => a.groupKey ≠ b.groupKey := by
    have hnodup := (hperm.map fun row => row.groupKey).nodup_iff.mpr h
    exact List.pairwise_map.mp hnodup
  refine (hsorted.and hdistinct).imp ?_
  intro a b hab
  refine lt_of_le_of_ne (EdgeConnection.placeKey_le hab.1) ?_
  intro heq
  exact hab.2 (EdgeConnection.placeKey_eq_iff.mp heq)

/-- Two lists of the same rows are sorted alike. -/
theorem insertionSort_perm {details details' : List EdgeConnection}
    (h : (details.map fun row => row.groupKey).Nodup) (hperm : details'.Perm details) :
    (details'.insertionSort fun a b => a.sortKey ≤ b.sortKey) =
      details.insertionSort fun a b => a.sortKey ≤ b.sortKey := by
  have h' : (details'.map fun row => row.groupKey).Nodup := (hperm.map _).nodup_iff.mpr h
  apply List.Perm.eq_of_pairwise _ (insertionSort_placeKey h') (insertionSort_placeKey h)
  · exact (List.perm_insertionSort _ _).trans (hperm.trans (List.perm_insertionSort _ _).symm)
  · intro a b _ _ hab hba
    exact absurd hba hab.asymm

/-! ## The rows of services -/

section
variable {lower : String → String} {f : ServiceFilter} {context : ClusterGraphContext}
  {sourceId targetId : String} {services : List Service}

/-- Services with different keys from known devices. -/
structure DistinctServices (context : ClusterGraphContext) (services : List Service) : Prop where
  known : ∀ s ∈ services, ∃ d ∈ context.devices, d.id = s.sourceDeviceId
  keys : (services.map fun s => s.groupKey).Nodup

theorem DistinctServices.sublist {services' : List Service}
    (h : DistinctServices context services) (hsub : services'.Sublist services) :
    DistinctServices context services' :=
  ⟨fun s hs => h.known s (hsub.mem hs), h.keys.sublist (hsub.map _)⟩

theorem DistinctServices.perm {services' : List Service} (h : DistinctServices context services)
    (hperm : services'.Perm services) : DistinctServices context services' :=
  ⟨fun s hs => h.known s (hperm.mem_iff.mp hs), (hperm.map _).nodup_iff.mpr h.keys⟩

/-- The details of an edge, before they are sorted. -/
theorem edgeRows_eq (h : DistinctServices context services) :
    edgeRows lower f context sourceId targetId services =
      .ok (((((filterServiceConnections lower f services).filterMap context.item?).filter
        (·.1 = (sourceId, targetId))).map Prod.snd).insertionSort fun a b => a.sortKey ≤ b.sortKey) := by
  have hknown : ∀ s ∈ filterServiceConnections lower f services,
      ∃ d ∈ context.devices, d.id = s.sourceDeviceId :=
    fun s hs => h.known s (mem_filterServiceConnections hs)
  unfold edgeRows
  rw [groupClusterEdges_eq hknown, edgeGroups]
  simp only [Except.map, Dict.getD_appendAll]

theorem details_groupKey_nodup (h : DistinctServices context services) (key : String × String) :
    ((((services.filterMap context.item?).filter (·.1 = key)).map Prod.snd).map fun row =>
      row.groupKey).Nodup := by
  have hshown := ClusterGraphContext.details_toService h.known key
  have hmap : ((((services.filterMap context.item?).filter (·.1 = key)).map Prod.snd).map fun row =>
      row.groupKey) = (context.shown services key.1 key.2).map fun s => s.groupKey := by
    rw [← hshown]
    simp only [List.map_map]
    rfl
  rw [hmap]
  exact h.keys.sublist (List.filter_sublist.map _)

theorem DistinctServices.filter (h : DistinctServices context services) :
    DistinctServices context (filterServiceConnections lower f services) := by
  rw [filterServiceConnections_eq]
  exact h.sublist List.filter_sublist

/-- The rows of different services never tie, and come out alike in whatever order the services
are given. -/
theorem edgeRows_spec (lower : String → String) (f : ServiceFilter) (sourceId targetId : String)
    (h : DistinctServices context services) :
    ∃ rows, rows.Pairwise (fun a b => a.placeKey < b.placeKey) ∧
      ∀ services', services'.Perm services →
        edgeRows lower f context sourceId targetId services' = .ok rows := by
  have hfilter : DistinctServices context (filterServiceConnections lower f services) := h.filter
  have hdetails := details_groupKey_nodup hfilter (sourceId, targetId)
  refine ⟨_, insertionSort_placeKey hdetails, ?_⟩
  intro services' hperm
  rw [edgeRows_eq (h.perm hperm)]
  congr 1
  apply insertionSort_perm hdetails
  · simp only [filterServiceConnections_eq]
    exact (((hperm.filter _).filterMap _).filter _).map _

end

/-! ## The rows of an edge -/

section
variable (str : ServiceKey → String) (lower : String → String) (resolver : HostAddressResolver)
  (sourceId targetId : String) (window : TopologyWindow) (now : Option Timestamp)
  (wall : Timestamp) (f : ServiceFilter) {db : Database} (h : InventoryOk db.devices db.clusters)

/-- The services of an edge differ in their keys and come from its source devices. -/
theorem edgeServices_distinct (hcopied : CopiedObservations db) (now : Timestamp) :
    ∃ services, edgeServices str resolver sourceId targetId window now
        (loadClusterGraphContext resolver db h) db = .ok services ∧
      DistinctServices (loadClusterGraphContext resolver db h) services ∧
      (nodeSourceDevices sourceId (loadClusterGraphContext resolver db h) = [] ∨
        nodeTargetAddresses targetId (loadClusterGraphContext resolver db h) resolver = [] →
          services = []) := by
  set context := loadClusterGraphContext resolver db h with hcontext
  unfold edgeServices
  dsimp only
  rw [windowConnections_eq]
  set selected := db.observations.filter fun o =>
    windowKeeps window now ((nodeSourceDevices sourceId context).map (·.id))
      (loadCurrentScans ((nodeSourceDevices sourceId context).map (·.id)) db) o &&
      ({ remoteAddresses := some (nodeTargetAddresses targetId context resolver) } :
        Narrowing).admits o with hselected
  have hsub : ∀ o ∈ selected, o ∈ db.observations := fun o ho => List.mem_of_mem_filter ho
  have hdevice : ∀ o ∈ selected, o.deviceId ∈ (nodeSourceDevices sourceId context).map (·.id) := by
    intro o ho
    have hkeeps := (List.mem_filter.mp ho).2
    rw [Bool.and_eq_true] at hkeeps
    exact deviceId_of_windowKeeps hkeeps.1
  refine ⟨_, rfl, ⟨?_, aggregateSelected_groupKey_nodup hcopied hsub str _⟩, ?_⟩
  · intro s hs
    rw [aggregateSelected_eq] at hs
    obtain ⟨g, hg, rfl⟩ := List.mem_map.mp hs
    have hok := aggregateEntries_ok hcopied.observationsOk hsub str g hg
    obtain ⟨o, ho, hid⟩ := hok.source
    obtain ⟨d, hd, hdid⟩ := List.mem_map.mp (hdevice o ho)
    refine ⟨d, nodeSourceDevices_subset hd, ?_⟩
    change d.id = g.2.sourceDeviceId
    rw [hdid, hid, hok.device]
  · intro hempty
    have hnone : selected = [] := by
      rw [List.eq_nil_iff_forall_not_mem]
      intro o ho
      rcases hempty with hnil | hnil
      · have hmem := hdevice o ho
        rw [hnil] at hmem
        cases hmem
      · have hadmits := (List.mem_filter.mp ho).2
        rw [hnil] at hadmits
        simp [Narrowing.admits] at hadmits
    rw [hnone]
    rfl

theorem buildEdgeConnections_edgeRows {services : List Service}
    (hservices : edgeServices str resolver sourceId targetId window (now.getD wall)
      (loadClusterGraphContext resolver db h) db = .ok services)
    (hempty : nodeSourceDevices sourceId (loadClusterGraphContext resolver db h) = [] ∨
      nodeTargetAddresses targetId (loadClusterGraphContext resolver db h) resolver = [] →
        services = []) :
    buildEdgeConnections str lower resolver sourceId targetId window now wall f db h =
      edgeRows lower f (loadClusterGraphContext resolver db h) sourceId targetId services := by
  unfold edgeServices at hservices
  unfold buildEdgeConnections edgeRows
  dsimp only at hservices ⊢
  split_ifs with hnil
  · rw [hempty hnil, filterServiceConnections_eq]
    rfl
  · rw [hservices]
    rfl

/-- Two lists of rows have the services that they share in the same order. -/
def SameOrder (rows rows' : List EdgeConnection) : Prop :=
  ∀ (i j i' j' : ℕ) a b a' b', rows[i]? = some a → rows[j]? = some b → rows'[i']? = some a' →
    rows'[j']? = some b' → a.groupKey = a'.groupKey → b.groupKey = b'.groupKey →
      (i < j ↔ i' < j')

theorem SameOrder.of_placeKey {rows rows' : List EdgeConnection}
    (hrows : rows.Pairwise fun a b => a.placeKey < b.placeKey)
    (hrows' : rows'.Pairwise fun a b => a.placeKey < b.placeKey) : SameOrder rows rows' := by
  intro i j i' j' a b a' b' hi hj hi' hj' ha hb
  rw [Chunks.index_lt_iff hrows hi hj, Chunks.index_lt_iff hrows' hi' hj']
  exact EdgeConnection.placeKey_lt_iff ha hb

theorem buildEdgeConnections_increasing (hcopied : CopiedObservations db) :
    ∃ rows services, buildEdgeConnections str lower resolver sourceId targetId window now wall f db h =
        .ok rows ∧
      rows.Pairwise (fun a b => a.placeKey < b.placeKey) ∧
      edgeServices str resolver sourceId targetId window (now.getD wall)
        (loadClusterGraphContext resolver db h) db = .ok services ∧
      ∀ services', services'.Perm services →
        edgeRows lower f (loadClusterGraphContext resolver db h) sourceId targetId services' =
          .ok rows := by
  obtain ⟨services, hservices, hdistinct, hempty⟩ :=
    edgeServices_distinct str resolver sourceId targetId window h hcopied (now.getD wall)
  obtain ⟨rows, hsorted, hrows⟩ := edgeRows_spec lower f sourceId targetId hdistinct
  refine ⟨rows, services, ?_, hsorted, hservices, hrows⟩
  rw [buildEdgeConnections_edgeRows str lower resolver sourceId targetId window now wall f h
    hservices hempty]
  exact hrows services (List.Perm.refl _)

/-- The rows of an edge increase strictly without their numbers, in whatever order the services
were aggregated; the pages of any size hold each of them once and in its place; and the services
that the edge has in another state of the database stand in the same order there. -/
theorem edge_pages_never_drift (hcopied : CopiedObservations db) :
    ∃ rows services, buildEdgeConnections str lower resolver sourceId targetId window now wall f db h =
        .ok rows ∧
      rows.Pairwise (fun a b => a.placeKey < b.placeKey) ∧
      (edgeServices str resolver sourceId targetId window (now.getD wall)
          (loadClusterGraphContext resolver db h) db = .ok services ∧
        ∀ services', services'.Perm services →
          edgeRows lower f (loadClusterGraphContext resolver db h) sourceId targetId services' =
            .ok rows) ∧
      (∀ limit ≥ 1, ∀ pages, rows.length ≤ pages * limit →
        rows.Nodup ∧ ((List.range pages).flatMap fun page =>
          (getEdgeConnections sourceId targetId rows limit (page * limit)).connections) = rows) ∧
      ∀ (str' : ServiceKey → String) (resolver' : HostAddressResolver) (now' : Option Timestamp)
        (wall' : Timestamp) (db' : Database) (h' : InventoryOk db'.devices db'.clusters) rows',
        CopiedObservations db' →
        buildEdgeConnections str' lower resolver' sourceId targetId window now' wall' f db' h' =
          .ok rows' → SameOrder rows rows' := by
  obtain ⟨rows, services, hbuild, hsorted, hservices, hperm⟩ := buildEdgeConnections_increasing str
    lower resolver sourceId targetId window now wall f h hcopied
  refine ⟨rows, services, hbuild, hsorted, ⟨hservices, hperm⟩, ?_, ?_⟩
  · intro limit _ pages hpages
    constructor
    · exact hsorted.imp fun hlt heq => absurd (heq ▸ hlt) (lt_irrefl _)
    · have hall := Chunks.flatMap_pages rows limit pages
      rwa [List.take_of_length_le hpages] at hall
  · intro str' resolver' now' wall' db' h' rows' hcopied' hbuild'
    obtain ⟨rows'', -, hbuild'', hsorted', -⟩ := buildEdgeConnections_increasing str' lower resolver'
      sourceId targetId window now' wall' f h' hcopied'
    rw [hbuild'] at hbuild''
    cases hbuild''
    exact SameOrder.of_placeKey hsorted hsorted'

end

theorem scannedOffice_copied : CopiedObservations scannedOffice := by
  constructor
  case scanIds => decide
  case recordIds => decide
  case fits => decide
  case scan => decide
  case sample =>
    intro o ho r hr _
    cases List.mem_singleton.mp ho
    cases List.mem_singleton.mp hr
    constructor <;> decide

theorem office_pages_never_drift :
    ∃ rows services, buildEdgeConnections plainStr String.toLower literalResolver "cluster-1"
        "device-2" .current none 2000000 {} scannedOffice scannedOffice_inventory = .ok rows ∧
      rows.Pairwise (fun a b => a.placeKey < b.placeKey) ∧
      (edgeServices plainStr literalResolver "cluster-1" "device-2" .current 2000000
          (loadClusterGraphContext literalResolver scannedOffice scannedOffice_inventory)
          scannedOffice = .ok services ∧
        ∀ services', services'.Perm services →
          edgeRows String.toLower {}
            (loadClusterGraphContext literalResolver scannedOffice scannedOffice_inventory)
            "cluster-1" "device-2" services' = .ok rows) ∧
      (∀ limit ≥ 1, ∀ pages, rows.length ≤ pages * limit →
        rows.Nodup ∧ ((List.range pages).flatMap fun page =>
          (getEdgeConnections "cluster-1" "device-2" rows limit (page * limit)).connections) = rows) ∧
      ∀ (str' : ServiceKey → String) (resolver' : HostAddressResolver) (now' : Option Timestamp)
        (wall' : Timestamp) (db' : Database) (h' : InventoryOk db'.devices db'.clusters) rows',
        CopiedObservations db' →
        buildEdgeConnections str' String.toLower resolver' "cluster-1" "device-2" .current now' wall'
          {} db' h' = .ok rows' → SameOrder rows rows' :=
  edge_pages_never_drift plainStr String.toLower literalResolver "cluster-1" "device-2" .current none
    2000000 {} scannedOffice_inventory scannedOffice_copied

end ConnectionTopology
