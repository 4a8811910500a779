import ConnectionTopology.Topology.Encodings
import ConnectionTopology.Topology.ClusterGraph

/-!
# Narrowed queries

A query that is narrowed to some source devices and remote addresses returns the part
of the unrestricted answer with these devices and addresses, in the same order: stored
addresses are in normal form, so a service group is selected as a whole or not at all.
-/
namespace ConnectionTopology

/-- What the tables promise about observations. They are copied from their scans, sample
rows belong to the same scan, and the numbers fit their columns. -/
structure ObservationsOk (db : Database) : Prop where
  scanIds : (db.scanRuns.map (·.id)).Nodup
  recordIds : (db.connectionRecords.map (·.id)).Nodup
  fits : ∀ o ∈ db.observations,
    FitsMarker o.startedAt ∧ FitsMarker o.scanRunId ∧ FitsMarker o.sampleConnectionId
  scan : ∀ o ∈ db.observations, ∀ s ∈ db.scanRuns, s.id = o.scanRunId → s.deviceId = o.deviceId
  sample : ∀ o ∈ db.observations, ∀ r ∈ db.connectionRecords, r.id = o.sampleConnectionId →
    r.scanRunId = o.scanRunId

/-- The stored remote addresses are in normal form, as both collectors write them. -/
def NormalAddresses (db : Database) : Prop :=
  ∀ o ∈ db.observations, normalizeIpAddress o.remoteIp = o.remoteIp

/-- `aggregateSelected` before its buckets become services. -/
def aggregateEntries (str : ServiceKey → String) (db : Database)
    (selected : List ConnectionServiceObservation) : List (ServiceKey × ObservationBucket) :=
  sortedByKey str (Dict.collect Prod.fst ObservationBucket.add
    ((aggregateRows selected).filterMap (observationBucket db selected)))

theorem aggregateSelected_eq (str : ServiceKey → String) (current : List ℕ) (db : Database)
    (selected : List ConnectionServiceObservation) :
    aggregateSelected str current db selected =
      (aggregateEntries str db selected).map fun g => g.2.service current := rfl

section

variable {db : Database} {selected : List ConnectionServiceObservation}

/-! ## One aggregate row -/

theorem mem_aggregateRows {row : AggregateRow} (h : row ∈ aggregateRows selected) :
    ∃ group, group ≠ [] ∧ group = selected.filter (·.rawKey = row.key) ∧
      row = aggregateRow row.key group := by
  obtain ⟨⟨key, group⟩, hmem, rfl⟩ := List.mem_map.mp h
  exact ⟨group, Grouping.ne_nil_of_mem_groupBy hmem, (Grouping.mem_groupBy.mp hmem).2, rfl⟩

/-- The observation behind the latest marker of an aggregate row. -/
theorem exists_latest {row : AggregateRow} (hrow : row ∈ aggregateRows selected) :
    ∃ o ∈ selected, o.rawKey = row.key ∧ row.latestMarker = o.marker ∧
      ∀ p ∈ selected, p.rawKey = row.key → p.marker ≤ o.marker := by
  obtain ⟨group, hne, hgroup, hrowEq⟩ := mem_aggregateRows hrow
  have hmap : group.map (·.marker) ≠ [] := by simpa using hne
  have hgroupMem : ∀ p, p ∈ group ↔ p ∈ selected ∧ p.rawKey = row.key := by
    intro p
    rw [hgroup, List.mem_filter, decide_eq_true_eq]
  obtain ⟨m, hm⟩ := Option.ne_none_iff_exists'.mp (fun h => hmap (List.max?_eq_none_iff.mp h))
  obtain ⟨hmem, hgreatest⟩ := List.max?_eq_some_iff.mp hm
  obtain ⟨o, ho, rfl⟩ := List.mem_map.mp hmem
  obtain ⟨hselected, hkey⟩ := (hgroupMem o).mp ho
  refine ⟨o, hselected, hkey, ?_, ?_⟩
  · rw [hrowEq]
    simp only [aggregateRow, hm, Option.getD_some]
  · intro p hp hpkey
    exact hgreatest _ (List.mem_map.mpr ⟨p, (hgroupMem p).mpr ⟨hp, hpkey⟩, rfl⟩)

/-- A sample that is found belongs to the device of the group. -/
theorem latestById_deviceId (h : ObservationsOk db) {o : ConnectionServiceObservation}
    (ho : o ∈ db.observations) {sample : Sample}
    (hfound : latestById db o.sampleConnectionId = some sample) : sample.deviceId = o.deviceId := by
  unfold latestById at hfound
  obtain ⟨record, hrecord, hfound⟩ := Option.bind_eq_some_iff.mp hfound
  obtain ⟨scan, hscan, rfl⟩ := Option.map_eq_some_iff.mp hfound
  have hrid : record.id = o.sampleConnectionId := by simpa using List.find?_some hrecord
  have hsid : scan.id = record.scanRunId := by simpa using List.find?_some hscan
  have hrun := h.sample o ho record (List.mem_of_find?_eq_some hrecord) hrid
  exact h.scan o ho scan (List.mem_of_find?_eq_some hscan) (hsid.trans hrun)

theorem latestSample_deviceId (h : ObservationsOk db)
    (hselected : ∀ o ∈ selected, o ∈ db.observations) {row : AggregateRow}
    (hrow : row ∈ aggregateRows selected) {csv : CsvRow} {sample : Sample}
    (hsample : latestSample db csv row = some sample) : sample.deviceId = row.key.deviceId := by
  obtain ⟨o, ho, hkey, hmarker, -⟩ := exists_latest hrow
  obtain ⟨hfit1, hfit2, hfit3⟩ := h.fits o (hselected o ho)
  unfold latestSample at hsample
  rw [hmarker, ConnectionServiceObservation.marker, markerParts_markerText hfit1 hfit2 hfit3] at hsample
  -- either the sample row is there, or it is rebuilt from the group
  rcases Option.or_eq_some_iff.mp hsample with hfound | ⟨-, hdegraded⟩
  · rw [latestById_deviceId h (hselected o ho) hfound, ← hkey]
    rfl
  · unfold degradedSample at hdegraded
    split at hdegraded
    · cases hdegraded
    · cases hdegraded
      rfl

theorem observationBucket_eq_some {row : AggregateRow} {key : ServiceKey} {b : ObservationBucket}
    (h : observationBucket db selected row = some (key, b)) :
    key = row.normalizedKey ∧ isLoopbackAddress key.remoteIp = false ∧
      ∃ latest, latestSample db (csvRow selected row.key) row = some latest ∧
        b = startBucket (csvRow selected row.key) row latest := by
  unfold observationBucket at h
  dsimp only at h
  split_ifs at h with hloop
  obtain ⟨latest, hlatest, hpair⟩ := Option.map_eq_some_iff.mp h
  cases hpair
  exact ⟨rfl, by simpa using hloop, latest, hlatest, rfl⟩

/-- The scans of a bucket are the scans of the selected rows with its key. -/
theorem mem_startBucket_scanIds {row : AggregateRow} (hrow : row ∈ aggregateRows selected)
    {csv : CsvRow} {latest : Sample} {id : ℕ} :
    id ∈ (startBucket csv row latest).scanIds ↔
      ∃ o ∈ selected, o.rawKey = row.key ∧ o.scanRunId = id := by
  obtain ⟨group, hne, hgroup, hrowEq⟩ := mem_aggregateRows hrow
  have hscans : row.scanIds = Text.join ',' (group.map fun o => toString o.scanRunId) := by
    rw [hrowEq]
    rfl
  change id ∈ (csvIntSet (some row.scanIds)).image Int.toNat ↔ _
  rw [hscans, mem_scanIds hne, hgroup]
  simp only [List.mem_filter, decide_eq_true_eq, and_assoc]

/-! ## Selecting by device and address -/

/-- What the entries of the answer know about the rows they come from. -/
structure EntryOk (db : Database) (selected : List ConnectionServiceObservation) (key : ServiceKey)
    (b : ObservationBucket) : Prop where
  remoteIp : b.remoteIp = key.remoteIp
  device : b.sourceDeviceId = key.deviceId
  source : ∃ o ∈ selected, o.deviceId = key.deviceId
  scans : ∀ id ∈ b.scanIds, ∃ o ∈ selected,
    o.deviceId = key.deviceId ∧ normalizeIpAddress o.remoteIp = key.remoteIp ∧ o.scanRunId = id

theorem EntryOk.merge {key : ServiceKey} {b n : ObservationBucket} (hb : EntryOk db selected key b)
    (hn : EntryOk db selected key n) : EntryOk db selected key (b.merge n) := by
  refine ⟨?_, ?_, hb.source, ?_⟩
  · unfold ObservationBucket.merge
    dsimp only
    split_ifs <;> exact hb.remoteIp
  · unfold ObservationBucket.merge
    dsimp only
    split_ifs <;> exact hb.device
  · intro id hid
    rcases Finset.mem_union.mp hid with hid | hid
    · exact hb.scans id hid
    · exact hn.scans id hid

theorem aggregateEntries_ok (h : ObservationsOk db) (hselected : ∀ o ∈ selected, o ∈ db.observations)
    (str : ServiceKey → String) :
    ∀ g ∈ aggregateEntries str db selected, EntryOk db selected g.1 g.2 := by
  rintro ⟨key, b⟩ hg
  have hentry := Dict.mem_entries_iff.mp ((List.mem_insertionSort _).mp hg)
  refine @Dict.forall_foldl_upsert _ _ _ _ Prod.fst ObservationBucket.add _ _
    (EntryOk db selected) ?_ ?_ key b hentry
  · intro k v hv
    cases hv
  · rintro ⟨k, n⟩ hitem old hold
    obtain ⟨row, hrow, hbucket⟩ := List.mem_filterMap.mp hitem
    obtain ⟨rfl, -, latest, hlatest, rfl⟩ := observationBucket_eq_some hbucket
    have hnew : EntryOk db selected row.normalizedKey (startBucket (csvRow selected row.key) row latest) := by
      have hdevice := latestSample_deviceId h hselected hrow hlatest
      obtain ⟨group, hne, hgroup, -⟩ := mem_aggregateRows hrow
      obtain ⟨o, ho⟩ := List.exists_mem_of_ne_nil _ hne
      rw [hgroup, List.mem_filter, decide_eq_true_eq] at ho
      refine ⟨rfl, hdevice, ⟨o, ho.1, congrArg ServiceKey.deviceId ho.2⟩, ?_⟩
      intro id hid
      obtain ⟨o, ho, hkey, hscan⟩ := (mem_startBucket_scanIds hrow).mp hid
      have haddress : o.remoteIp = row.key.remoteIp := congrArg ServiceKey.remoteIp hkey
      refine ⟨o, ho, congrArg ServiceKey.deviceId hkey, ?_, hscan⟩
      rw [haddress]
      rfl
    cases old with
    | none => exact hnew
    | some v => exact (hold v rfl).merge hnew

/-- With stored addresses in normal form no two groups are merged. -/
theorem normalizedKey_eq (hnormal : ∀ o ∈ selected, normalizeIpAddress o.remoteIp = o.remoteIp)
    {row : AggregateRow} (hrow : row ∈ aggregateRows selected) : row.normalizedKey = row.key := by
  obtain ⟨group, hne, hgroup, -⟩ := mem_aggregateRows hrow
  obtain ⟨o, ho⟩ := List.exists_mem_of_ne_nil _ hne
  rw [hgroup, List.mem_filter, decide_eq_true_eq] at ho
  have haddress := hnormal o ho.1
  unfold AggregateRow.normalizedKey
  rw [← ho.2]
  simp only [ConnectionServiceObservation.rawKey, haddress]

theorem csvRow_filter {q : ServiceKey → Bool} {key : ServiceKey} (hq : q key = true) :
    csvRow (selected.filter fun o => q o.rawKey) key = csvRow selected key := by
  have hgroup : (selected.filter fun o => q o.rawKey).filter (·.rawKey = key) =
      selected.filter (·.rawKey = key) := by
    rw [List.filter_filter]
    apply List.filter_congr
    intro o _
    by_cases hkey : o.rawKey = key
    · simp [hkey, hq]
    · simp [hkey]
  unfold csvRow
  rw [hgroup]

/-- Rows selected by device and address make up the entries with such a key. -/
theorem aggregateEntries_filter (str : ServiceKey → String)
    (hnormal : ∀ o ∈ selected, normalizeIpAddress o.remoteIp = o.remoteIp) (q : ℕ → String → Bool) :
    aggregateEntries str db (selected.filter fun o => q o.deviceId o.remoteIp) =
      (aggregateEntries str db selected).filter fun g => q g.1.deviceId g.1.remoteIp := by
  have hrows : aggregateRows (selected.filter fun o => q o.deviceId o.remoteIp) =
      (aggregateRows selected).filter fun row => q row.key.deviceId row.key.remoteIp := by
    have hgroups := Grouping.groupBy_filter ConnectionServiceObservation.rawKey
      (fun k => q k.deviceId k.remoteIp) selected
    unfold aggregateRows
    rw [List.filter_map]
    exact congrArg (List.map fun g => aggregateRow g.1 g.2) hgroups
  have hbuckets : (aggregateRows (selected.filter fun o => q o.deviceId o.remoteIp)).filterMap
      (observationBucket db (selected.filter fun o => q o.deviceId o.remoteIp)) =
      ((aggregateRows selected).filterMap (observationBucket db selected)).filter
        fun item => q item.1.deviceId item.1.remoteIp := by
    rw [hrows, List.filterMap_filter, List.filter_filterMap]
    apply List.filterMap_congr
    intro row hrow
    have hkey : row.normalizedKey = row.key := normalizedKey_eq hnormal hrow
    have hitem : ∀ item, observationBucket db selected row = some item →
        q item.1.deviceId item.1.remoteIp = q row.key.deviceId row.key.remoteIp := by
      rintro ⟨k, b⟩ hb
      rw [(observationBucket_eq_some hb).1, hkey]
    by_cases hq : q row.key.deviceId row.key.remoteIp = true
    · have hsame : observationBucket db (selected.filter fun o => q o.deviceId o.remoteIp) row =
          observationBucket db selected row := by
        have hcsv : csvRow (selected.filter fun o => q o.deviceId o.remoteIp) row.key =
            csvRow selected row.key :=
          @csvRow_filter selected (fun k => q k.deviceId k.remoteIp) row.key hq
        unfold observationBucket
        rw [hcsv]
      rw [if_pos hq, hsame]
      cases hb : observationBucket db selected row with
      | none => rfl
      | some item => simp [Option.filter, hitem item hb, hq]
    · rw [if_neg hq]
      cases hb : observationBucket db selected row with
      | none => rfl
      | some item => simp [Option.filter, hitem item hb, hq]
  unfold aggregateEntries sortedByKey
  rw [hbuckets, Dict.entries_collect_filter Prod.fst ObservationBucket.add
    (fun k => q k.deviceId k.remoteIp), ← filter_insertionSort]

/-- The narrowed answer is the part of the full answer with the chosen devices and
addresses, also when the current scans are known for these only. -/
theorem aggregateSelected_filter (h : ObservationsOk db)
    (hselected : ∀ o ∈ selected, o ∈ db.observations)
    (hnormal : ∀ o ∈ selected, normalizeIpAddress o.remoteIp = o.remoteIp)
    (str : ServiceKey → String) (q : ℕ → String → Bool) {current current' : List ℕ}
    (hcurrent : ∀ o ∈ selected, q o.deviceId o.remoteIp = true →
      (o.scanRunId ∈ current' ↔ o.scanRunId ∈ current)) :
    aggregateSelected str current' db (selected.filter fun o => q o.deviceId o.remoteIp) =
      (aggregateSelected str current db selected).filter fun s => q s.sourceDeviceId s.remoteIp := by
  have hok := aggregateEntries_ok h hselected str
  rw [aggregateSelected_eq, aggregateSelected_eq, aggregateEntries_filter str hnormal, List.filter_map]
  have hfilter : (aggregateEntries str db selected).filter
      ((fun s : Service => q s.sourceDeviceId s.remoteIp) ∘ fun g => g.2.service current) =
      (aggregateEntries str db selected).filter fun g => q g.1.deviceId g.1.remoteIp := by
    apply List.filter_congr
    intro g hg
    change q g.2.sourceDeviceId g.2.remoteIp = _
    rw [(hok g hg).device, (hok g hg).remoteIp]
  rw [hfilter]
  apply List.map_congr_left
  intro g hg
  obtain ⟨hg, hq⟩ := List.mem_filter.mp hg
  have hscans : (∃ id ∈ g.2.scanIds, id ∈ current') ↔ ∃ id ∈ g.2.scanIds, id ∈ current := by
    have heach : ∀ id ∈ g.2.scanIds, (id ∈ current' ↔ id ∈ current) := by
      intro id hid
      obtain ⟨o, ho, hdevice, haddress, rfl⟩ := (hok g hg).scans id hid
      apply hcurrent o ho
      rw [hdevice, ← hnormal o ho, haddress]
      exact hq
    constructor
    · rintro ⟨id, hid, hmem⟩
      exact ⟨id, hid, (heach id hid).mp hmem⟩
    · rintro ⟨id, hid, hmem⟩
      exact ⟨id, hid, (heach id hid).mpr hmem⟩
  unfold ObservationBucket.service
  simp only [hscans]

end

/-! ## Windows -/

/-- The observations that a window keeps. -/
def windowKeeps (window : TopologyWindow) (now : Timestamp) (deviceIds : List ℕ)
    (latestScans : List ScanRun) (o : ConnectionServiceObservation) : Bool :=
  match window.delta with
  | none =>
    keepsScan (latestScans.map (·.deviceId)) (latestScans.map (·.id)) none o.deviceId o.scanRunId
      o.startedAt
  | some delta =>
    keepsScan deviceIds (latestScans.map (·.id)) (some (now - delta)) o.deviceId o.scanRunId
      o.startedAt

/-- The services of a window without narrowing. -/
def windowServices (str : ServiceKey → String) (window : TopologyWindow) (now : Timestamp)
    (deviceIds : List ℕ) (latestScans : List ScanRun) (db : Database) : List Service :=
  aggregateSelected str (latestScans.map (·.id)) db
    (db.observations.filter (windowKeeps window now deviceIds latestScans))

theorem windowConnections_eq (str : ServiceKey → String) (window : TopologyWindow) (now : Timestamp)
    (deviceIds : List ℕ) (latestScans : List ScanRun) (narrowing : Narrowing) (db : Database) :
    windowConnections str window now deviceIds latestScans narrowing db =
      .ok (aggregateSelected str (latestScans.map (·.id)) db
        (db.observations.filter fun o =>
          windowKeeps window now deviceIds latestScans o && narrowing.admits o)) := by
  cases window <;> rfl

theorem windowConnections_full (str : ServiceKey → String) (window : TopologyWindow)
    (now : Timestamp) (deviceIds : List ℕ) (latestScans : List ScanRun) (db : Database) :
    windowConnections str window now deviceIds latestScans {} db =
      .ok (windowServices str window now deviceIds latestScans db) := by
  rw [windowConnections_eq]
  simp only [Narrowing.admits, Option.isSome_none, Bool.or_self, Bool.false_eq_true, if_false,
    Bool.and_true]
  rfl

theorem mem_loadCurrentScans {deviceIds : List ℕ} {db : Database} {s : ScanRun} :
    s ∈ loadCurrentScans deviceIds db ↔ ∃ d ∈ deviceIds, latestScan d db = some s := by
  simp [loadCurrentScans]

theorem latestScan_spec {deviceId : ℕ} {db : Database} {s : ScanRun}
    (h : latestScan deviceId db = some s) :
    s ∈ db.scanRuns ∧ s.deviceId = deviceId ∧ s.status = .success := by
  have hmem := (List.mem_insertionSort _).mp (List.mem_of_head? h)
  rw [List.mem_filter] at hmem
  simpa using hmem

theorem deviceId_of_windowKeeps {window : TopologyWindow} {now : Timestamp} {deviceIds : List ℕ}
    {db : Database} {o : ConnectionServiceObservation}
    (h : windowKeeps window now deviceIds (loadCurrentScans deviceIds db) o = true) :
    o.deviceId ∈ deviceIds := by
  unfold windowKeeps at h
  split at h
  · simp only [keepsScan, Bool.and_eq_true, decide_eq_true_eq, List.mem_map] at h
    obtain ⟨⟨s, hs, hdevice⟩, -⟩ := h
    obtain ⟨d, hd, hlatest⟩ := mem_loadCurrentScans.mp hs
    rw [← hdevice, (latestScan_spec hlatest).2.1]
    exact hd
  · simp only [keepsScan, Bool.and_eq_true, decide_eq_true_eq] at h
    exact h.1

/-- Services come from the devices that were asked for. -/
theorem windowServices_source {db : Database} (h : ObservationsOk db) (str : ServiceKey → String)
    (window : TopologyWindow) (now : Timestamp) (deviceIds : List ℕ) :
    ∀ s ∈ windowServices str window now deviceIds (loadCurrentScans deviceIds db) db,
      s.sourceDeviceId ∈ deviceIds := by
  intro s hs
  obtain ⟨g, hg, rfl⟩ := List.mem_map.mp hs
  have hok := aggregateEntries_ok h (fun o ho => List.mem_of_mem_filter ho) str g hg
  obtain ⟨o, ho, hdevice⟩ := hok.source
  change g.2.sourceDeviceId ∈ deviceIds
  rw [hok.device, ← hdevice]
  exact deviceId_of_windowKeeps (List.mem_filter.mp ho).2

/-! ## Filters -/

theorem filterServiceConnections_eq (lower : String → String) (f : ServiceFilter)
    (services : List Service) :
    filterServiceConnections lower f services = services.filter (f.keeps lower) := by
  unfold filterServiceConnections
  split_ifs with h
  · simp only [Bool.and_eq_true, Bool.not_eq_true', decide_eq_true_eq] at h
    obtain ⟨⟨hprotocol, hstate⟩, hprocess⟩ := h
    rw [List.filter_eq_self.mpr]
    intro s _
    simp [ServiceFilter.keeps, hprotocol, hstate, hprocess]
  · rfl

theorem filterServiceConnections_filter (lower : String → String) (f : ServiceFilter)
    (p : Service → Bool) (services : List Service) :
    filterServiceConnections lower f (services.filter p) =
      (filterServiceConnections lower f services).filter p := by
  rw [filterServiceConnections_eq, filterServiceConnections_eq, List.filter_comm]

theorem mem_filterServiceConnections {lower : String → String} {f : ServiceFilter}
    {services : List Service} {s : Service} (h : s ∈ filterServiceConnections lower f services) :
    s ∈ services := by
  rw [filterServiceConnections_eq] at h
  exact List.mem_of_mem_filter h

/-! ## Groups of fewer services -/

/-- Leaving out services that are shown elsewhere does not change the groups in view. -/
theorem edgeGroups_filter {context : ClusterGraphContext} {services : List Service}
    (h : ∀ s ∈ services, ∃ d ∈ context.devices, d.id = s.sourceDeviceId) {p : Service → Bool}
    {inView : String × String → Bool}
    (hp : ∀ s ∈ services, ∀ key, inView key = true → context.Placed s key.1 key.2 → p s = true) :
    (edgeGroups context (services.filter p)).entries.filter (fun e => inView e.1) =
      (edgeGroups context services).entries.filter fun e => inView e.1 := by
  have hitems : ((services.filter p).filterMap context.item?).filter (fun i => inView i.1) =
      (services.filterMap context.item?).filter fun i => inView i.1 := by
    rw [List.filterMap_filter, List.filter_filterMap, List.filter_filterMap]
    apply List.filterMap_congr
    intro s hs
    by_cases hps : p s = true
    · rw [if_pos hps]
    · rw [if_neg hps]
      cases hitem : context.item? s with
      | none => rfl
      | some item =>
        have hout : inView item.1 = false := by
          rw [Bool.eq_false_iff]
          intro hview
          apply hps
          apply hp s hs item.1 hview
          rw [ClusterGraphContext.item?_spec (h s hs)]
          exact ⟨item.2, hitem⟩
        simp [Option.filter, hout]
  unfold edgeGroups Dict.appendAll
  rw [← Dict.entries_collect_filter Prod.fst _ inView, ← Dict.entries_collect_filter Prod.fst _ inView,
    hitems]

end ConnectionTopology
