import ConnectionTopology.Topology.SyncedObservations
import ConnectionTopology.Topology.Narrowing

/-!
# The key that a service shows

Services are grouped under a key with coalesced columns, and shown with the values of the latest
sample row. The sample row, or its stand-in, has the columns of the group, so the shown values
give the key back and no two services of an answer show the same one.
-/
namespace ConnectionTopology

/-- Observations are copies of what the sync has read: of their scan, and of a sample row that
has their key. The row may be gone since. -/
structure CopiedObservations (db : Database) : Prop where
  scanIds : (db.scanRuns.map (·.id)).Nodup
  recordIds : (db.connectionRecords.map (·.id)).Nodup
  fits : ∀ o ∈ db.observations,
    FitsMarker o.startedAt ∧ FitsMarker o.scanRunId ∧ FitsMarker o.sampleConnectionId
  scan : ∀ o ∈ db.observations, ∀ s ∈ db.scanRuns, s.id = o.scanRunId →
    s.deviceId = o.deviceId ∧ s.startedAt = o.startedAt
  sample : ∀ o ∈ db.observations, ∀ r ∈ db.connectionRecords, r.id = o.sampleConnectionId →
    o.Covers r

theorem CopiedObservations.observationsOk {db : Database} (h : CopiedObservations db) :
    ObservationsOk db where
  scanIds := h.scanIds
  recordIds := h.recordIds
  fits := h.fits
  scan := fun o ho s hs hid => (h.scan o ho s hs hid).1
  sample := fun o ho r hr hid => (h.sample o ho r hr hid).scan

/-- The columns of the group, read off the shown values. -/
def ServiceValues.groupKey (v : ServiceValues) : ServiceKey where
  deviceId := v.sourceDeviceId
  protocol := v.protocol
  remoteIp := v.remoteIp
  remotePort := some (v.remotePort.getD 0)
  processName := v.processName.getD ""

section

variable {db : Database} {selected : List ConnectionServiceObservation}

/-- What a sample or its stand-in has in common with its observation. -/
structure Sample.Of (s : Sample) (o : ConnectionServiceObservation) : Prop where
  connectionId : s.connectionId = o.sampleConnectionId
  scanId : s.scanId = o.scanRunId
  startedAt : s.startedAt = o.startedAt
  deviceId : s.deviceId = o.deviceId
  protocol : s.protocol = o.protocol
  remotePort : s.remotePort.getD 0 = o.remotePort
  processName : s.processName.getD "" = o.processName

theorem latestById_of (h : CopiedObservations db) {o : ConnectionServiceObservation}
    (ho : o ∈ db.observations) {s : Sample}
    (hfound : latestById db o.sampleConnectionId = some s) : s.Of o := by
  unfold latestById at hfound
  obtain ⟨r, hr, hfound⟩ := Option.bind_eq_some_iff.mp hfound
  obtain ⟨scan, hscan, rfl⟩ := Option.map_eq_some_iff.mp hfound
  have hrid : r.id = o.sampleConnectionId := by simpa using List.find?_some hr
  have hsid : scan.id = r.scanRunId := by simpa using List.find?_some hscan
  have hcovers := h.sample o ho r (List.mem_of_find?_eq_some hr) hrid
  have hscanId := hsid.trans hcovers.scan
  obtain ⟨hdevice, hstarted⟩ := h.scan o ho scan (List.mem_of_find?_eq_some hscan) hscanId
  exact ⟨hrid, hscanId, hstarted, hdevice, hcovers.protocol, hcovers.remotePort, hcovers.processName⟩

theorem degradedSample_of (h : CopiedObservations db) {o : ConnectionServiceObservation}
    (ho : o ∈ db.observations) {row : AggregateRow} (hkey : o.rawKey = row.key)
    (hmarker : row.latestMarker = o.marker) {localIps : Finset String} {localPorts pids : Finset ℤ}
    {s : Sample} (hs : degradedSample row localIps localPorts pids = some s) : s.Of o := by
  obtain ⟨hfit, hfit', hfit''⟩ := h.fits o ho
  unfold degradedSample at hs
  split at hs
  · cases hs
  · cases hs
    rw [hmarker, ConnectionServiceObservation.marker, markerParts_markerText hfit hfit' hfit'',
      ← hkey]
    constructor
    case remotePort =>
      simp only [ConnectionServiceObservation.rawKey, Option.some.injEq]
      split_ifs with hport
      · exact hport.symm
      · rfl
    case processName =>
      change (if o.processName = "" then none else some o.processName).getD "" = o.processName
      split_ifs with hprocess
      · exact hprocess.symm
      · rfl
    all_goals rfl

/-- The number of the sample row in a marker. -/
theorem markerParts_sample (h : CopiedObservations db) {o : ConnectionServiceObservation}
    (ho : o ∈ db.observations) {row : AggregateRow} (hmarker : row.latestMarker = o.marker) :
    (markerParts row.latestMarker).getD 2 0 = o.sampleConnectionId := by
  obtain ⟨hfit, hfit', hfit''⟩ := h.fits o ho
  rw [hmarker, ConnectionServiceObservation.marker, markerParts_markerText hfit hfit' hfit'']
  rfl

/-- The sample of an aggregate row is one of its latest observation. -/
theorem latestSample_of (h : CopiedObservations db)
    (hselected : ∀ o ∈ selected, o ∈ db.observations) {row : AggregateRow}
    (hrow : row ∈ aggregateRows selected) {csv : CsvRow} {s : Sample}
    (hs : latestSample db csv row = some s) :
    ∃ o ∈ selected, o.rawKey = row.key ∧ row.latestMarker = o.marker ∧ s.Of o := by
  obtain ⟨o, ho, hkey, hmarker, -⟩ := exists_latest hrow
  refine ⟨o, ho, hkey, hmarker, ?_⟩
  unfold latestSample at hs
  rw [markerParts_sample h (hselected o ho) hmarker] at hs
  rcases Option.or_eq_some_iff.mp hs with hfound | ⟨-, hdegraded⟩
  · exact latestById_of h (hselected o ho) hfound
  · exact degradedSample_of h (hselected o ho) hkey hmarker hdegraded

theorem startBucket_groupKey {row : AggregateRow} {csv : CsvRow} {s : Sample}
    {o : ConnectionServiceObservation} (hkey : o.rawKey = row.key) (hs : s.Of o) :
    (startBucket csv row s).groupKey = row.normalizedKey := by
  simp only [ServiceValues.groupKey, startBucket, AggregateRow.normalizedKey, ← hkey,
    ConnectionServiceObservation.rawKey, hs.deviceId, hs.protocol, hs.remotePort, hs.processName]

theorem merge_groupKey {b n : ObservationBucket} (h : n.groupKey = b.groupKey) :
    (b.merge n).groupKey = b.groupKey := by
  by_cases hlater : b.latestMarker < n.latestMarker
  · simp only [ServiceValues.groupKey, ServiceKey.mk.injEq] at h ⊢
    obtain ⟨-, hprotocol, -, hport, hprocess⟩ := h
    simp only [ObservationBucket.merge, hlater, if_true, hprotocol, hport, hprocess, and_self]
  · simp only [ObservationBucket.merge, hlater, if_false, ServiceValues.groupKey]

/-- Every service shows the key under which it was grouped. -/
theorem aggregateEntries_groupKey (h : CopiedObservations db)
    (hselected : ∀ o ∈ selected, o ∈ db.observations) (str : ServiceKey → String) :
    ∀ g ∈ aggregateEntries str db selected, g.2.groupKey = g.1 := by
  rintro ⟨key, b⟩ hg
  have hentry := Dict.mem_entries_iff.mp ((List.mem_insertionSort _).mp hg)
  refine @Dict.forall_foldl_upsert _ _ _ _ Prod.fst ObservationBucket.add _ _
    (fun key b => b.groupKey = key) ?_ ?_ key b hentry
  · intro k v hv
    cases hv
  · rintro ⟨k, n⟩ hitem old hold
    obtain ⟨row, hrow, hbucket⟩ := List.mem_filterMap.mp hitem
    obtain ⟨rfl, -, latest, hlatest, rfl⟩ := observationBucket_eq_some hbucket
    obtain ⟨o, -, hkey, -, hof⟩ := latestSample_of h hselected hrow hlatest
    have hnew : (startBucket (csvRow selected row.key) row latest).groupKey = row.normalizedKey :=
      startBucket_groupKey hkey hof
    cases old with
    | none => exact hnew
    | some v =>
      have hv : v.groupKey = row.normalizedKey := hold v rfl
      exact (merge_groupKey (hnew.trans hv.symm)).trans hv

theorem aggregateEntries_keys_nodup (str : ServiceKey → String) (db : Database)
    (selected : List ConnectionServiceObservation) :
    ((aggregateEntries str db selected).map Prod.fst).Nodup :=
  ((List.perm_insertionSort _ _).map Prod.fst).nodup_iff.mpr (Dict.nodup _)

/-- No two services of an answer show the same key. -/
theorem aggregateSelected_groupKey_nodup (h : CopiedObservations db)
    (hselected : ∀ o ∈ selected, o ∈ db.observations) (str : ServiceKey → String)
    (current : List ℕ) :
    ((aggregateSelected str current db selected).map fun s => s.groupKey).Nodup := by
  have hkeys : (aggregateSelected str current db selected).map (fun s => s.groupKey) =
      (aggregateEntries str db selected).map Prod.fst := by
    rw [aggregateSelected_eq, List.map_map]
    apply List.map_congr_left
    intro g hg
    exact aggregateEntries_groupKey h hselected str g hg
  rw [hkeys]
  exact aggregateEntries_keys_nodup str db selected

end

end ConnectionTopology
