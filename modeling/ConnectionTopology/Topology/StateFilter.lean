import ConnectionTopology.Topology.ServiceKeys
import ConnectionTopology.Topology.ObservationDigests
import ConnectionTopology.Topology.RawPurge
import ConnectionTopology.Scheduler.ChunkedPurges

/-!
# State filters after the raw purge

A service whose sample row has been purged is rebuilt from its observations without a state, so
no filter that names a state keeps it. Every other service is as before.
-/
namespace ConnectionTopology

open Latest

/-- Every observation names a local address, and no empty list of process numbers. -/
structure RebuildableObservations (db : Database) : Prop extends CopiedObservations db where
  localIps : ∀ o ∈ db.observations, o.localIps ≠ ""
  pids : ∀ o ∈ db.observations, ∀ v, o.pids = some v → v ≠ ""

theorem SyncedDatabase.rebuildable {scans : List ScanRun} {records : List ConnectionRecord}
    {db : Database} (h : SyncedDatabase scans records db) : RebuildableObservations db := by
  constructor
  · constructor
    case scanIds => exact h.scanIds
    case recordIds => exact h.recordIds.sublist (h.present.map _)
    case fits => exact fun o ho => h.fits ho
    case scan =>
      intro o ho s hs hid
      obtain ⟨scan, -, hscan, -, hfrom⟩ := h.syncedFrom ho
      obtain rfl := List.inj_on_of_nodup_map h.scanIds hs hscan (hid.trans hfrom.scanId)
      exact ⟨hfrom.device.symm, hfrom.startedAt.symm⟩
    case sample => exact fun o ho r hr hid => h.covers_sample ho hr hid
  · intro o ho
    obtain ⟨scan, -, -, -, hfrom⟩ := h.syncedFrom ho
    exact hfrom.localIps_ne
  · intro o ho
    obtain ⟨scan, -, -, -, hfrom⟩ := h.syncedFrom ho
    exact hfrom.pids_ne

/-! ## What a service shows -/

/-- The process numbers of an observation. -/
def ConnectionServiceObservation.pidList (o : ConnectionServiceObservation) : List ℤ :=
  (Text.split ',' (o.pids.getD "")).filterMap Text.int

/-- The values come from the sample row of the observation, or, without it, lack a state. -/
structure ObservationBucket.ShownFrom (db : Database) (o : ConnectionServiceObservation)
    (b : ObservationBucket) : Prop where
  marker : b.latestMarker = o.sampleMarker
  found : ∀ s, latestById db o.sampleConnectionId = some s → b.protocol = s.protocol ∧
    b.remotePort = s.remotePort ∧ b.state = s.state ∧ b.pid = s.pid ∧ b.processName = s.processName
  lost : latestById db o.sampleConnectionId = none → b.state = none

/-- The bucket shows the latest of these observations, and all their process numbers. -/
structure ObservationBucket.Shows (db : Database) (observed : Set ConnectionServiceObservation)
    (b : ObservationBucket) : Prop where
  latest : ∃ o, IsLatest ConnectionServiceObservation.sampleMarker observed o ∧ b.ShownFrom db o
  pids : ∀ pid, pid ∈ b.pids ↔ ∃ o ∈ observed, pid ∈ o.pidList

/-- Latest observations have the same sample. -/
theorem ObservationBucket.Shows.shownFrom {db : Database}
    {observed : Set ConnectionServiceObservation} {b : ObservationBucket} (h : b.Shows db observed)
    {o : ConnectionServiceObservation}
    (ho : IsLatest ConnectionServiceObservation.sampleMarker observed o) : b.ShownFrom db o := by
  obtain ⟨p, hp, hshown⟩ := h.latest
  have hmarker : o.sampleMarker = p.sampleMarker := le_antisymm (hp.2 o ho.1) (ho.2 p hp.1)
  have hid : o.sampleConnectionId = p.sampleConnectionId :=
    congrArg (fun m => (ofLex (ofLex m).2).2) hmarker
  constructor
  case marker => rw [hshown.marker, hmarker]
  case found =>
    rw [hid]
    exact hshown.found
  case lost =>
    rw [hid]
    exact hshown.lost

theorem ObservationBucket.Shows.merge {db : Database}
    {observed observed' : Set ConnectionServiceObservation} {b n : ObservationBucket}
    (hb : b.Shows db observed) (hn : n.Shows db observed') :
    (b.merge n).Shows db (observed ∪ observed') := by
  obtain ⟨o, ho, hshown⟩ := hb.latest
  obtain ⟨p, hp, hshown'⟩ := hn.latest
  constructor
  case pids =>
    intro pid
    change pid ∈ b.pids ∪ n.pids ↔ _
    simp only [Finset.mem_union, hb.pids, hn.pids, Set.mem_union, or_and_right, exists_or]
  case latest =>
    by_cases hlater : b.latestMarker < n.latestMarker
    · have hle : o.sampleMarker ≤ p.sampleMarker := by
        rw [← hshown.marker, ← hshown'.marker]
        exact hlater.le
      refine ⟨p, ho.union_right hp hle, ?_⟩
      constructor
      case marker => simpa [ObservationBucket.merge, hlater] using hshown'.marker
      case found => simpa [ObservationBucket.merge, hlater] using hshown'.found
      case lost => simpa [ObservationBucket.merge, hlater] using hshown'.lost
    · have hle : p.sampleMarker ≤ o.sampleMarker := by
        rw [← hshown.marker, ← hshown'.marker]
        exact not_lt.mp hlater
      refine ⟨o, ho.union_left hp hle, ?_⟩
      constructor
      case marker => simpa [ObservationBucket.merge, hlater] using hshown.marker
      case found => simpa [ObservationBucket.merge, hlater] using hshown.found
      case lost => simpa [ObservationBucket.merge, hlater] using hshown.lost

/-! ## One aggregate row -/

section

variable {db : Database} {selected : List ConnectionServiceObservation}

/-- The rows of some scans are deleted. -/
theorem RebuildableObservations.delete (h : RebuildableObservations db) (scanIds : List ℕ) :
    RebuildableObservations (deleteConnectionRecords scanIds db) := by
  constructor
  · constructor
    case scanIds => exact h.scanIds
    case recordIds => exact h.recordIds.sublist (List.filter_sublist.map _)
    case fits => exact h.fits
    case scan => exact h.scan
    case sample => exact fun o ho r hr hid => h.sample o ho r (List.mem_of_mem_filter hr) hid
  · exact h.localIps
  · exact h.pids

theorem latestById_delete (h : RebuildableObservations db) (scanIds : List ℕ)
    {o : ConnectionServiceObservation} (ho : o ∈ db.observations) :
    latestById (deleteConnectionRecords scanIds db) o.sampleConnectionId =
      if o.scanRunId ∈ scanIds then none else latestById db o.sampleConnectionId := by
  have hfind : (deleteConnectionRecords scanIds db).connectionRecords.find?
      (·.id = o.sampleConnectionId) =
      if o.scanRunId ∈ scanIds then none
      else db.connectionRecords.find? (·.id = o.sampleConnectionId) := by
    have hrun : ∀ r ∈ db.connectionRecords, r.id = o.sampleConnectionId →
        r.scanRunId = o.scanRunId := fun r hr hid => (h.sample o ho r hr hid).scan
    unfold deleteConnectionRecords
    dsimp only
    rw [← List.head?_filter, ← List.head?_filter, List.filter_filter]
    split_ifs with hgone
    · rw [List.filter_eq_nil_iff.mpr]
      · rfl
      · intro r hr
        by_cases hid : r.id = o.sampleConnectionId
        · simp [hid, hrun r hr hid, hgone]
        · simp [hid]
    · congr 1
      apply List.filter_congr
      intro r hr
      by_cases hid : r.id = o.sampleConnectionId
      · simp [hid, hrun r hr hid, hgone]
      · simp [hid]
  unfold latestById
  rw [hfind]
  split_ifs
  · rfl
  · rfl

/-- There is a local address to rebuild a sample with. -/
theorem localIpSet_ne_nil (h : RebuildableObservations db)
    (hselected : ∀ o ∈ selected, o ∈ db.observations) {o : ConnectionServiceObservation}
    (ho : o ∈ selected) : (csvRow selected o.rawKey).localIpSet.sort ≠ [] := by
  have hne : ∀ o ∈ selected, o.localIps ≠ "" := fun o ho => h.localIps o (hselected o ho)
  obtain ⟨text, htext⟩ := List.exists_mem_of_ne_nil _ (Text.split_ne_nil ',' o.localIps)
  intro hnil
  have hmem : normalizeIpAddress text ∈ (csvRow selected o.rawKey).localIpSet :=
    Finset.mem_image_of_mem _ ((mem_csvRow_localIps hne).mpr ⟨o, ho, rfl, htext⟩)
  rw [← Finset.mem_sort (· ≤ ·), hnil] at hmem
  cases hmem

theorem degradedSample_isSome {row : AggregateRow} {localIps : Finset String}
    {localPorts pids : Finset ℤ} (hips : localIps.sort ≠ []) :
    (degradedSample row localIps localPorts pids).isSome = true := by
  unfold degradedSample
  split
  · contradiction
  · rfl

theorem degradedSample_state {row : AggregateRow} {localIps : Finset String}
    {localPorts pids : Finset ℤ} {s : Sample}
    (hs : degradedSample row localIps localPorts pids = some s) : s.state = none := by
  unfold degradedSample at hs
  split at hs
  · cases hs
  · cases hs
    rfl

theorem observationBucket_isSome (h : RebuildableObservations db)
    (hselected : ∀ o ∈ selected, o ∈ db.observations) {row : AggregateRow}
    (hrow : row ∈ aggregateRows selected)
    (hloop : isLoopbackAddress row.normalizedKey.remoteIp = false) :
    (observationBucket db selected row).isSome = true := by
  obtain ⟨o, ho, hkey, -⟩ := exists_latest hrow
  have hips := localIpSet_ne_nil h hselected ho
  rw [hkey] at hips
  unfold observationBucket latestSample
  simp only [hloop, Bool.false_eq_true, if_false, Option.isSome_map, Option.isSome_or,
    degradedSample_isSome hips, Bool.or_true]

theorem mem_pidSet (h : RebuildableObservations db)
    (hselected : ∀ o ∈ selected, o ∈ db.observations) {key : ServiceKey} {pid : ℤ} :
    pid ∈ csvIntSet (csvRow selected key).pids ↔ ∃ o ∈ keyed selected key, pid ∈ o.pidList := by
  rw [mem_csvRow_pids fun o ho => h.pids o (hselected o ho)]
  simp only [keyed, Set.mem_ofPred_eq, ConnectionServiceObservation.pidList, List.mem_filterMap]
  constructor
  · rintro ⟨o, ho, hkey, v, hv, text, htext, hpid⟩
    exact ⟨o, ⟨ho, hkey⟩, text, by rwa [hv], hpid⟩
  · rintro ⟨o, ⟨ho, hkey⟩, text, htext, hpid⟩
    cases hv : o.pids with
    | none =>
      exfalso
      rw [hv] at htext
      have hempty : Text.split ',' "" = [""] := by decide
      have hnone : Text.int "" = none := by decide
      rw [Option.getD_none, hempty, List.mem_singleton] at htext
      rw [htext, hnone] at hpid
      cases hpid
    | some v =>
      rw [hv] at htext
      exact ⟨o, ho, hkey, v, hv, text, htext, hpid⟩

/-- The bucket of an aggregate row shows its latest observation. -/
theorem startBucket_shows (h : RebuildableObservations db)
    (hselected : ∀ o ∈ selected, o ∈ db.observations) {row : AggregateRow}
    (hrow : row ∈ aggregateRows selected) {s : Sample}
    (hs : latestSample db (csvRow selected row.key) row = some s) :
    (startBucket (csvRow selected row.key) row s).Shows db (keyed selected row.key) := by
  obtain ⟨o, ho, hkey, hmarker, hgreatest⟩ := exists_latest hrow
  have hdb := hselected o ho
  unfold latestSample at hs
  rw [markerParts_sample h.toCopiedObservations hdb hmarker] at hs
  have hof : s.Of o := by
    rcases Option.or_eq_some_iff.mp hs with hfound | ⟨-, hdegraded⟩
    · exact latestById_of h.toCopiedObservations hdb hfound
    · exact degradedSample_of h.toCopiedObservations hdb hkey hmarker hdegraded
  constructor
  case pids => exact fun pid => mem_pidSet h hselected
  case latest =>
    refine ⟨o, ⟨⟨ho, hkey⟩, ?_⟩, ?_⟩
    · rintro p ⟨hp, hpkey⟩
      exact sampleMarker_le (h.fits o hdb) (h.fits p (hselected p hp)) (hgreatest p hp hpkey)
    · constructor
      case marker =>
        simp only [startBucket, ConnectionServiceObservation.sampleMarker, hof.startedAt, hof.scanId,
          hof.connectionId]
      case found =>
        intro s' hfound
        rw [hfound, Option.some_or] at hs
        cases hs
        simp only [startBucket, and_self]
      case lost =>
        intro hlost
        rw [hlost, Option.none_or] at hs
        exact degradedSample_state hs

/-! ## The groups -/

/-- The services are those of the selected observations, loopback addresses aside. -/
theorem RebuildableObservations.mem_keys (h : RebuildableObservations db)
    (hselected : ∀ o ∈ selected, o ∈ db.observations) {key : ServiceKey} :
    key ∈ (observationGroups db selected).keys ↔
      isLoopbackAddress key.remoteIp = false ∧ ∃ o ∈ selected, o.serviceKey = key := by
  apply mem_keys_of_buckets
  intro row hrow
  exact observationBucket_isSome h hselected hrow

theorem observationGroups_shows (h : RebuildableObservations db)
    (hselected : ∀ o ∈ selected, o ∈ db.observations) {key : ServiceKey} {b : ObservationBucket}
    (hget : (observationGroups db selected).get? key = some b) :
    b.Shows db (ofService selected key) := by
  have hloop : isLoopbackAddress key.remoteIp = false :=
    ((h.mem_keys hselected).mp (Dict.mem_keys_iff.mpr (by rw [hget]; rfl))).1
  apply observationGroups_induction _ _ _ hget
  · intro row hrow _ n hn
    obtain ⟨-, -, s, hs, rfl⟩ := observationBucket_eq_some hn
    exact startBucket_shows h hselected hrow hs
  · exact fun _ _ _ _ hb hn => hb.merge hn
  · rintro row hrow rfl
    exact observationBucket_isSome h hselected hrow hloop

end

/-! ## State filters -/

/-- The filter keeps a service with the values of this row and these process numbers. -/
def ServiceFilter.keepsRow (lower : String → String) (f : ServiceFilter) (pids : Finset ℤ)
    (r : ConnectionRecord) : Bool :=
  let observed := Text.join ' ' (pids.sort.map toString)
  let pidText := if observed = "" then (r.pid.map toString).getD "" else observed
  !(truthy f.protocol && some r.protocol ≠ f.protocol) &&
  !(truthy f.state && r.state ≠ f.state) &&
  !(f.processQuery lower ≠ "" && ¬ (f.processQuery lower).toList <:+:
    (lower (r.processName.getD "" ++ " " ++ pidText)).toList)

/-- The process numbers that the selected observations list for a service. -/
def servicePids (selected : List ConnectionServiceObservation) (key : ServiceKey) : Finset ℤ :=
  ((selected.filter (·.serviceKey = key)).flatMap (·.pidList)).toFinset

/-- The filter keeps a service whose sample row, that of its latest observation, is outdated. -/
def ServiceFilter.LosesRow (lower : String → String) (f : ServiceFilter) (cutoff : Timestamp)
    (db : Database) (selected : List ConnectionServiceObservation) : Prop :=
  ∃ o, IsLatest ConnectionServiceObservation.sampleMarker (ofService selected o.serviceKey) o ∧
    isLoopbackAddress o.serviceKey.remoteIp = false ∧
    ∃ r ∈ db.connectionRecords, r.id = o.sampleConnectionId ∧ r.isOutdated cutoff db = true ∧
      f.keepsRow lower (servicePids selected o.serviceKey) r = true

/-- The columns by which services are told apart. -/
def ServiceValues.shownKey (v : ServiceValues) : ℕ × String × String × Option ℤ × Option String :=
  (v.sourceDeviceId, v.protocol, v.remoteIp, v.remotePort, v.processName)

/-- The observations of a history window. -/
def historyObservations (deviceIds currentScanIds : List ℕ) (window : TopologyWindow)
    (now : Timestamp) (narrowing : Narrowing) (db : Database) : List ConnectionServiceObservation :=
  db.observations.filter (observationConditions deviceIds currentScanIds
    (window.delta.map (now - ·)) narrowing)

/-- The services of a history window that the filter keeps. -/
def filteredHistory (str : ServiceKey → String) (lower : String → String) (f : ServiceFilter)
    (deviceIds currentScanIds : List ℕ) (window : TopologyWindow) (now : Timestamp)
    (narrowing : Narrowing) (db : Database) :
    Except String (Finset (ℕ × String × String × Option ℤ × Option String)) :=
  (aggregateHistoricalConnections str deviceIds currentScanIds window now narrowing db).map
    fun services => ((filterServiceConnections lower f services).map fun s => s.shownKey).toFinset

theorem filteredHistory_eq {window : TopologyWindow} (hwindow : window ≠ .current)
    (str : ServiceKey → String) (lower : String → String) (f : ServiceFilter)
    (deviceIds currentScanIds : List ℕ) (now : Timestamp) (narrowing : Narrowing) (db : Database) :
    filteredHistory str lower f deviceIds currentScanIds window now narrowing db =
      .ok ((filterServiceConnections lower f (aggregateSelected str currentScanIds db
        (historyObservations deviceIds currentScanIds window now narrowing db))).map
          fun s => s.shownKey).toFinset := by
  cases window with
  | current => contradiction
  | oneDay => rfl
  | threeDays => rfl
  | sevenDays => rfl

section

variable {db : Database} {selected : List ConnectionServiceObservation} {key : ServiceKey}
  {b b' : ObservationBucket} {lower : String → String} {f : ServiceFilter}

theorem ObservationBucket.Shows.pids_eq (h : b.Shows db (ofService selected key)) :
    b.pids = servicePids selected key := by
  ext pid
  rw [h.pids]
  simp only [servicePids, List.mem_toFinset, List.mem_flatMap, List.mem_filter, decide_eq_true_eq,
    ofService, Set.mem_ofPred_eq]

/-- The filter sees the sample row and the process numbers only. -/
theorem keeps_of_found (h : b.Shows db (ofService selected key)) {r : ConnectionRecord}
    (hrow : b.protocol = r.protocol ∧ b.state = r.state ∧ b.pid = r.pid ∧
      b.processName = r.processName) (current : List ℕ) :
    f.keeps lower (b.service current) = f.keepsRow lower (servicePids selected key) r := by
  obtain ⟨hprotocol, hstate, hpid, hprocess⟩ := hrow
  simp only [ServiceFilter.keeps, ServiceFilter.keepsRow, Service.haystack,
    ObservationBucket.service, hprotocol, hstate, hpid, hprocess, h.pids_eq]

theorem state_ne_none (hstate : truthy f.state = true) {current : List ℕ}
    (hkeeps : f.keeps lower (b.service current) = true) : b.state ≠ none := by
  intro hnone
  have hfilter : f.state ≠ none := by
    intro h
    rw [h] at hstate
    cases hstate
  simp [ServiceFilter.keeps, ObservationBucket.service, hstate, hnone, Ne.symm hfilter] at hkeeps

/-- The sample row and its scan. -/
theorem latestById_eq_some {id : ℕ} {s : Sample} (h : latestById db id = some s) :
    ∃ r ∈ db.connectionRecords, r.id = id ∧ s.protocol = r.protocol ∧ s.state = r.state ∧
      s.pid = r.pid ∧ s.processName = r.processName := by
  unfold latestById at h
  obtain ⟨r, hr, h⟩ := Option.bind_eq_some_iff.mp h
  obtain ⟨scan, hscan, rfl⟩ := Option.map_eq_some_iff.mp h
  exact ⟨r, List.mem_of_find?_eq_some hr, by simpa using List.find?_some hr, rfl, rfl, rfl, rfl⟩

theorem latestById_isSome (hids : (db.connectionRecords.map (·.id)).Nodup) {r : ConnectionRecord}
    (hr : r ∈ db.connectionRecords) {s : ScanRun} (hs : s ∈ db.scanRuns)
    (hid : s.id = r.scanRunId) : (latestById db r.id).isSome = true := by
  have hscan : (db.scanRuns.find? (·.id = r.scanRunId)).isSome = true := by
    rw [List.find?_isSome]
    exact ⟨s, hs, by simpa using hid⟩
  unfold latestById
  rw [Dict.find?_key_of_mem hids hr, Option.bind_some, Option.isSome_map]
  exact hscan

end

section

variable {db : Database} {selected : List ConnectionServiceObservation} {lower : String → String}
  {f : ServiceFilter} {str : ServiceKey → String} {current scanIds : List ℕ}

theorem mem_aggregateEntries {g : ServiceKey × ObservationBucket} :
    g ∈ aggregateEntries str db selected ↔ (observationGroups db selected).get? g.1 = some g.2 := by
  unfold aggregateEntries sortedByKey
  rw [List.mem_insertionSort]
  exact Dict.mem_entries_iff

theorem mem_filtered {k : ℕ × String × String × Option ℤ × Option String} :
    k ∈ ((filterServiceConnections lower f (aggregateSelected str current db selected)).map
        fun s => s.shownKey).toFinset ↔
      ∃ key b, (observationGroups db selected).get? key = some b ∧
        f.keeps lower (b.service current) = true ∧ b.shownKey = k := by
  rw [filterServiceConnections_eq, aggregateSelected_eq]
  simp only [List.mem_toFinset, List.mem_map, List.mem_filter]
  constructor
  · rintro ⟨s, ⟨⟨g, hg, rfl⟩, hkeeps⟩, rfl⟩
    exact ⟨g.1, g.2, mem_aggregateEntries.mp hg, hkeeps, rfl⟩
  · rintro ⟨key, b, hget, hkeeps, rfl⟩
    exact ⟨_, ⟨⟨(key, b), mem_aggregateEntries.mpr hget, rfl⟩, hkeeps⟩, rfl⟩

variable (h : RebuildableObservations db) (hselected : ∀ o ∈ selected, o ∈ db.observations)

include h hselected

theorem shownKey_determines {key key' : ServiceKey} {b b' : ObservationBucket}
    (hget : (observationGroups db selected).get? key = some b)
    (hget' : (observationGroups (deleteConnectionRecords scanIds db) selected).get? key' = some b')
    (hshown : b'.shownKey = b.shownKey) : key' = key := by
  have hkey : b.groupKey = key := aggregateEntries_groupKey h.toCopiedObservations hselected
    ServiceKey.remoteIp (key, b) (mem_aggregateEntries.mpr hget)
  have hkey' : b'.groupKey = key' := aggregateEntries_groupKey (h.delete scanIds).toCopiedObservations
    hselected ServiceKey.remoteIp (key', b') (mem_aggregateEntries.mpr hget')
  simp only [ServiceValues.shownKey, Prod.mk.injEq] at hshown
  obtain ⟨hdevice, hprotocol, hremote, hport, hprocess⟩ := hshown
  rw [← hkey, ← hkey']
  simp only [ServiceValues.groupKey, hdevice, hprotocol, hremote, hport, hprocess]

/-- A service whose sample row stays is shown and filtered as before. -/
theorem kept_of_sample_stays {key : ServiceKey} {b b' : ObservationBucket}
    (hget : (observationGroups db selected).get? key = some b)
    (hget' : (observationGroups (deleteConnectionRecords scanIds db) selected).get? key = some b')
    {o : ConnectionServiceObservation}
    (ho : IsLatest ConnectionServiceObservation.sampleMarker (ofService selected key) o)
    {s : Sample} (hfound : latestById db o.sampleConnectionId = some s) (hstays : o.scanRunId ∉ scanIds) :
    f.keeps lower (b'.service current) = f.keeps lower (b.service current) ∧
      b'.shownKey = b.shownKey := by
  have hshows := observationGroups_shows h hselected hget
  have hshows' := observationGroups_shows (h.delete scanIds) hselected hget'
  have hfound' : latestById (deleteConnectionRecords scanIds db) o.sampleConnectionId = some s := by
    rw [latestById_delete h scanIds (hselected o ho.1.1), if_neg hstays, hfound]
  obtain ⟨hprotocol, hport, hstate, hpid, hprocess⟩ := (hshows.shownFrom ho).found s hfound
  obtain ⟨hprotocol', hport', hstate', hpid', hprocess'⟩ := (hshows'.shownFrom ho).found s hfound'
  have hok := aggregateEntries_ok h.observationsOk hselected ServiceKey.remoteIp (key, b)
    (mem_aggregateEntries.mpr hget)
  have hok' := aggregateEntries_ok (h.delete scanIds).observationsOk hselected ServiceKey.remoteIp
    (key, b') (mem_aggregateEntries.mpr hget')
  have hdevice : b'.sourceDeviceId = b.sourceDeviceId := hok'.device.trans hok.device.symm
  have hremote : b'.remoteIp = b.remoteIp := hok'.remoteIp.trans hok.remoteIp.symm
  obtain ⟨r, -, -, hrprotocol, hrstate, hrpid, hrprocess⟩ := latestById_eq_some hfound
  constructor
  · rw [keeps_of_found hshows ⟨hprotocol.trans hrprotocol, hstate.trans hrstate, hpid.trans hrpid,
      hprocess.trans hrprocess⟩, keeps_of_found hshows' ⟨hprotocol'.trans hrprotocol,
      hstate'.trans hrstate, hpid'.trans hrpid, hprocess'.trans hrprocess⟩]
  · simp only [ServiceValues.shownKey, hdevice, hremote, hprotocol, hprotocol', hport, hport',
      hprocess, hprocess']

/-- A service is there before and after. -/
theorem get?_delete (goneIds : List ℕ) (key : ServiceKey) :
    ((observationGroups (deleteConnectionRecords goneIds db) selected).get? key).isSome =
      ((observationGroups db selected).get? key).isSome := by
  rw [Bool.eq_iff_iff, ← Dict.mem_keys_iff, ← Dict.mem_keys_iff, h.mem_keys hselected,
    (h.delete goneIds).mem_keys hselected]

theorem state_of_sample_gone {key : ServiceKey} {b' : ObservationBucket}
    (hget' : (observationGroups (deleteConnectionRecords scanIds db) selected).get? key = some b')
    {o : ConnectionServiceObservation}
    (ho : IsLatest ConnectionServiceObservation.sampleMarker (ofService selected key) o)
    (hgone : o.scanRunId ∈ scanIds) : b'.state = none := by
  apply ((observationGroups_shows (h.delete scanIds) hselected hget').shownFrom ho).lost
  rw [latestById_delete h scanIds (hselected o ho.1.1), if_pos hgone]

/-- With a state in the filter, a service stays exactly if its sample row does. -/
theorem filtered_eq_iff (hstate : truthy f.state = true) (hids : (db.scanRuns.map (·.id)).Nodup)
    (hpos : ∀ s ∈ db.scanRuns, 0 < s.id) (cutoff : Timestamp) :
    ((filterServiceConnections lower f (aggregateSelected str current
          (deleteConnectionRecords (rawPurgeRest cutoff 0 db) db) selected)).map
        fun s => s.shownKey).toFinset =
      ((filterServiceConnections lower f (aggregateSelected str current db selected)).map
        fun s => s.shownKey).toFinset ↔
      ¬ f.LosesRow lower cutoff db selected := by
  constructor
  · rintro hsame ⟨o, ho, hloop, r, hr, hrid, hold, hkeeps⟩
    have hkey := Dict.mem_keys_iff.mp ((h.mem_keys hselected).mpr ⟨hloop, o, ho.1.1, rfl⟩)
    obtain ⟨b, hget⟩ := Option.isSome_iff_exists.mp hkey
    -- before the purge the service is shown from the row
    obtain ⟨scan, hscan, hscanId⟩ : ∃ s ∈ db.scanRuns, s.id = r.scanRunId := by
      obtain ⟨scan, hscan, hcond⟩ := List.any_eq_true.mp hold
      simp only [Bool.and_eq_true, decide_eq_true_eq] at hcond
      exact ⟨scan, hscan, hcond.1.1⟩
    obtain ⟨s, hs⟩ := Option.isSome_iff_exists.mp (latestById_isSome h.recordIds hr hscan hscanId)
    obtain ⟨r', hr', hrid', hprotocol, hrstate, hpid, hprocess⟩ := latestById_eq_some hs
    obtain rfl := List.inj_on_of_nodup_map h.recordIds hr' hr hrid'
    rw [hrid] at hs
    have hshows := observationGroups_shows h hselected hget
    obtain ⟨hbprotocol, -, hbstate, hbpid, hbprocess⟩ := (hshows.shownFrom ho).found s hs
    have hbefore : b.shownKey ∈ ((filterServiceConnections lower f (aggregateSelected str current db
        selected)).map fun s => s.shownKey).toFinset := by
      rw [mem_filtered]
      refine ⟨o.serviceKey, b, hget, ?_, rfl⟩
      rw [keeps_of_found hshows ⟨hbprotocol.trans hprotocol, hbstate.trans hrstate,
        hbpid.trans hpid, hbprocess.trans hprocess⟩]
      exact hkeeps
    -- afterwards it has no state
    rw [← hsame, mem_filtered] at hbefore
    obtain ⟨key', b', hget', hkeeps', hshown⟩ := hbefore
    obtain rfl := shownKey_determines h hselected hget hget' hshown
    have hgone : o.scanRunId ∈ rawPurgeRest cutoff 0 db := by
      rw [← (h.sample o (hselected o ho.1.1) _ hr hrid).scan]
      exact (mem_rawPurgeRest_iff hids hpos cutoff _).mpr hold
    exact state_ne_none hstate hkeeps' (state_of_sample_gone h hselected hget' ho hgone)
  · intro hloses
    ext k
    rw [mem_filtered, mem_filtered]
    constructor
    · rintro ⟨key, b', hget', hkeeps, rfl⟩
      have hsome := get?_delete h hselected (rawPurgeRest cutoff 0 db) key
      rw [hget'] at hsome
      obtain ⟨b, hget⟩ := Option.isSome_iff_exists.mp hsome.symm
      obtain ⟨o, ho, -⟩ := (observationGroups_shows h hselected hget).latest
      have hne := state_ne_none hstate hkeeps
      have hstays : o.scanRunId ∉ rawPurgeRest cutoff 0 db :=
        fun hgone => hne (state_of_sample_gone h hselected hget' ho hgone)
      cases hfound : latestById db o.sampleConnectionId with
      | none =>
        exfalso
        apply hne
        apply ((observationGroups_shows (h.delete _) hselected hget').shownFrom ho).lost
        rw [latestById_delete h _ (hselected o ho.1.1), if_neg hstays, hfound]
      | some s =>
        obtain ⟨hsame, hshown⟩ := kept_of_sample_stays h hselected hget hget' ho hfound hstays
        exact ⟨key, b, hget, hsame.symm.trans hkeeps, hshown.symm⟩
    · rintro ⟨key, b, hget, hkeeps, rfl⟩
      have hsome := get?_delete h hselected (rawPurgeRest cutoff 0 db) key
      rw [hget] at hsome
      obtain ⟨b', hget'⟩ := Option.isSome_iff_exists.mp hsome
      have hshows := observationGroups_shows h hselected hget
      obtain ⟨o, ho, hshown⟩ := hshows.latest
      obtain ⟨s, hs⟩ := Option.ne_none_iff_exists'.mp
        fun hnone => state_ne_none hstate hkeeps (hshown.lost hnone)
      obtain ⟨r, hr, hrid, hprotocol, hrstate, hpid, hprocess⟩ := latestById_eq_some hs
      obtain ⟨hbprotocol, -, hbstate, hbpid, hbprocess⟩ := hshown.found s hs
      obtain ⟨hmem, rfl⟩ := ho.1
      have hstays : o.scanRunId ∉ rawPurgeRest cutoff 0 db := by
        intro hgone
        apply hloses
        have hloop := ((h.mem_keys hselected).mp (Dict.mem_keys_iff.mpr (by rw [hget]; rfl))).1
        refine ⟨o, ho, hloop, r, hr, hrid, ?_, ?_⟩
        · rw [← mem_rawPurgeRest_iff hids hpos, (h.sample o (hselected o hmem) r hr hrid).scan]
          exact hgone
        · rw [← keeps_of_found hshows ⟨hbprotocol.trans hprotocol, hbstate.trans hrstate,
            hbpid.trans hpid, hbprocess.trans hprocess⟩]
          exact hkeeps
      obtain ⟨hsame, hshown'⟩ := kept_of_sample_stays h hselected hget hget' ho hs hstays
      exact ⟨o.serviceKey, b', hget', hsame.trans hkeeps, hshown'⟩

end

/-- With a state in the filter, a history window keeps the same services before and after the
purge exactly if the purge deletes the sample row of none of them. -/
theorem state_filter_same_iff {db : Database} (h : RebuildableObservations db)
    (hpos : ∀ s ∈ db.scanRuns, 0 < s.id) (str : ServiceKey → String) (lower : String → String)
    {f : ServiceFilter} (hstate : truthy f.state = true) (deviceIds currentScanIds : List ℕ)
    {window : TopologyWindow} (hwindow : window ≠ .current) (now : Timestamp)
    (narrowing : Narrowing) (rawDays : ℕ) (purgeNow : Timestamp) {chunkSize : ℕ}
    (hsize : 1 ≤ chunkSize) :
    ∃ deleted db', purgeRawConnectionRecords rawDays purgeNow chunkSize db = some (deleted, db') ∧
      (filteredHistory str lower f deviceIds currentScanIds window now narrowing db' =
          filteredHistory str lower f deviceIds currentScanIds window now narrowing db ↔
        ¬ f.LosesRow lower (retentionCutoff purgeNow rawDays) db
          (historyObservations deviceIds currentScanIds window now narrowing db)) := by
  refine ⟨_, _, purgeRawConnectionRecords_delete h.scanIds hsize rawDays purgeNow, ?_⟩
  rw [filteredHistory_eq hwindow, filteredHistory_eq hwindow, Except.ok.injEq]
  exact filtered_eq_iff h (fun o ho => List.mem_of_mem_filter ho) hstate h.scanIds hpos _

/-- Three scans of one device; only the first has seen the service of `10.0.0.30`. -/
def endedService : Database :=
  { threeScans with
    connectionRecords := threeScans.connectionRecords.map fun r =>
      { r with remoteIp := some (if r.scanRunId = 1 then "10.0.0.30" else "10.0.0.20") } }

def syncedEndedService : Database := syncAll endedService.scanRuns endedService

theorem syncedEndedService_synced :
    SyncedDatabase endedService.scanRuns endedService.connectionRecords syncedEndedService := by
  constructor
  case scanIds => decide +kernel
  case recordIds => decide +kernel
  case known => decide +kernel
  case present => decide +kernel
  case wellFormed =>
    intro _ _ r hr _
    obtain ⟨original, horiginal, rfl⟩ := List.mem_map.mp hr
    obtain ⟨n, -, rfl⟩ := List.mem_map.mp horiginal
    exact ⟨by simp, by simp, by simp, by simp⟩
  case scanFits => decide +kernel
  case recordFits => decide +kernel
  case synced => decide +kernel

/-- The established connections of the week. -/
def establishedHistory (db : Database) :
    Except String (Finset (ℕ × String × String × Option ℤ × Option String)) :=
  filteredHistory ServiceKey.remoteIp id { state := some "ESTAB" } [1] [3] .sevenDays
    (48 * 3600 * microsPerSecond) {} db

theorem established_same_iff :
    ∃ deleted db', purgeRawConnectionRecords 1 (48 * 3600 * microsPerSecond) 2000 syncedEndedService =
        some (deleted, db') ∧
      (establishedHistory db' = establishedHistory syncedEndedService ↔
        ¬ ServiceFilter.LosesRow id { state := some "ESTAB" }
          (retentionCutoff (48 * 3600 * microsPerSecond) 1) syncedEndedService
          (historyObservations [1] [3] .sevenDays (48 * 3600 * microsPerSecond) {}
            syncedEndedService)) :=
  state_filter_same_iff syncedEndedService_synced.rebuildable (by decide +kernel)
    ServiceKey.remoteIp id (by decide) [1] [3] (by decide) _ {} 1 _ (by decide)

theorem ended_service_vanishes :
    SyncedDatabase endedService.scanRuns endedService.connectionRecords syncedEndedService ∧
      ∃ deleted db', purgeRawConnectionRecords 1 (48 * 3600 * microsPerSecond) 2000
          syncedEndedService = some (deleted, db') ∧
        establishedHistory db' ≠ establishedHistory syncedEndedService := by
  refine ⟨syncedEndedService_synced, _, _,
    purgeRawConnectionRecords_delete syncedEndedService_synced.scanIds (by decide) 1 _, ?_⟩
  have hbefore : establishedHistory syncedEndedService = .ok
      {(1, "tcp", "10.0.0.20", some 443, none), (1, "tcp", "10.0.0.30", some 443, none)} := by
    unfold establishedHistory
    rw [filteredHistory_eq (by decide)]
    congr 1
    decide +kernel
  have hafter : establishedHistory (deleteConnectionRecords (rawPurgeRest
      (retentionCutoff (48 * 3600 * microsPerSecond) 1) 0 syncedEndedService) syncedEndedService) =
      .ok {(1, "tcp", "10.0.0.20", some 443, none)} := by
    unfold establishedHistory
    rw [filteredHistory_eq (by decide)]
    congr 1
    decide +kernel
  rw [hbefore, hafter, ne_eq, Except.ok.injEq]
  decide

end ConnectionTopology
