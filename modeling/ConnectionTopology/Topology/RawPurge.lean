import ConnectionTopology.Topology.SyncedObservations
import ConnectionTopology.Topology.Narrowing
import ConnectionTopology.Services.Purge
import ConnectionTopology.Routes.Scans

/-!
# Raw retention and the views of history

The purge leaves the raw rows of the two latest successful scans of every device. What is read
from raw rows is read from these; a service of a history window is rebuilt from its
observations when its sample row is gone, with the same key, counts, sets and times.
-/
namespace ConnectionTopology

/-! ## What the purge deletes -/

/-- Nothing but raw rows of scans outside the kept ones is gone. -/
structure Thinned (db db' : Database) (kept : List ℕ) : Prop where
  frame : db' = { db with connectionRecords := db'.connectionRecords }
  filter : ∃ p : ℕ → Bool, (∀ id ∈ kept, p id = true) ∧
    db'.connectionRecords = db.connectionRecords.filter fun r => p r.scanRunId

variable {db db' : Database} {kept : List ℕ}

theorem Thinned.refl (db : Database) (kept : List ℕ) : Thinned db db kept :=
  ⟨rfl, fun _ => true, by simp, by simp⟩

theorem Thinned.trans {db'' : Database} (h : Thinned db db' kept) (h' : Thinned db' db'' kept) :
    Thinned db db'' kept := by
  obtain ⟨hframe, p, hp, hrecords⟩ := h
  obtain ⟨hframe', p', hp', hrecords'⟩ := h'
  refine ⟨?_, fun id => p id && p' id, ?_, ?_⟩
  · rw [hframe', hframe]
  · intro id hid
    simp [hp id hid, hp' id hid]
  · rw [hrecords', hrecords, List.filter_filter]
    simp only [Bool.and_comm]

theorem mem_rawPurgeChunk {cutoff : Timestamp} {chunkSize lastScanId id : ℕ}
    (h : id ∈ rawPurgeChunk cutoff chunkSize lastScanId db) :
    lastScanId < id ∧ id ∉ keptScanIds db ∧ ∃ s ∈ db.scanRuns, s.id = id := by
  have hmem := (List.mem_insertionSort _).mp (List.mem_of_mem_take h)
  obtain ⟨s, hs, rfl⟩ := List.mem_map.mp hmem
  obtain ⟨hs, hcond⟩ := List.mem_filter.mp hs
  simp only [decide_eq_true_eq] at hcond
  exact ⟨hcond.2.1, hcond.2.2, s, hs, rfl⟩

theorem deleteConnectionRecords_thinned {scanIds : List ℕ} (h : ∀ id ∈ scanIds, id ∉ kept) :
    Thinned db (deleteConnectionRecords scanIds db) kept := by
  refine ⟨rfl, fun id => id ∉ scanIds, ?_, rfl⟩
  intro id hid
  rw [decide_eq_true_eq]
  exact fun hmem => h id hmem hid

theorem rawPurgeLoop_thinned {cutoff : Timestamp} {chunkSize : ℕ} :
    ∀ (rounds deleted lastScanId : ℕ) (db : Database) (r : ℕ × Database),
      rawPurgeLoop cutoff chunkSize rounds deleted lastScanId db = some r →
      Thinned db r.2 (keptScanIds db) := by
  intro rounds
  induction rounds with
  | zero => exact fun _ _ _ _ h => by cases h
  | succ rounds ih =>
    intro deleted lastScanId db r h
    unfold rawPurgeLoop at h
    split at h
    · cases h
      exact .refl _ _
    · have hchunk : Thinned db (deleteConnectionRecords
          (rawPurgeChunk cutoff chunkSize lastScanId db) db) (keptScanIds db) :=
        deleteConnectionRecords_thinned fun id hid => (mem_rawPurgeChunk hid).2.1
      exact hchunk.trans (ih _ _ _ r h)

/-- The loop ends: every round leaves fewer scans above the watermark. -/
theorem rawPurgeLoop_ends {cutoff : Timestamp} {chunkSize : ℕ} :
    ∀ (rounds deleted lastScanId : ℕ) (db : Database),
      (db.scanRuns.filter fun s => lastScanId < s.id).length < rounds →
      (rawPurgeLoop cutoff chunkSize rounds deleted lastScanId db).isSome = true := by
  intro rounds
  induction rounds with
  | zero => exact fun _ _ _ h => absurd h (Nat.not_lt_zero _)
  | succ rounds ih =>
    intro deleted lastScanId db h
    unfold rawPurgeLoop
    split
    · rfl
    · rename_i last hlast
      obtain ⟨hlt, -, s, hs, rfl⟩ := mem_rawPurgeChunk (List.mem_of_getLast? hlast)
      apply ih
      have hfewer : (db.scanRuns.filter fun t => s.id < t.id).length <
          (db.scanRuns.filter fun t => lastScanId < t.id).length := by
        have hsub : (db.scanRuns.filter fun t => s.id < t.id) =
            (db.scanRuns.filter fun t => lastScanId < t.id).filter fun t => s.id < t.id := by
          rw [List.filter_filter]
          apply List.filter_congr
          intro t _
          rw [← Bool.decide_and, decide_eq_decide]
          omega
        rw [hsub, List.length_filter_lt_length_iff_exists]
        exact ⟨s, List.mem_filter.mpr ⟨hs, by simpa using hlt⟩, by simp⟩
      exact lt_of_lt_of_le hfewer (Nat.lt_succ_iff.mp h)

theorem purgeRawConnectionRecords_ends (rawDays : ℕ) (now : Timestamp) (chunkSize : ℕ)
    (db : Database) : (purgeRawConnectionRecords rawDays now chunkSize db).isSome = true :=
  rawPurgeLoop_ends _ _ _ _ (Nat.lt_succ_of_le (List.length_filter_le _ _))

/-! ## The kept scans -/

theorem take_two_of_head? {s : ScanRun} {scans : List ScanRun} (h : scans.head? = some s) :
    s ∈ scans.take 2 := by
  obtain ⟨rest, rfl⟩ := List.head?_eq_some_iff.mp h
  simp

theorem mem_keptScanIds {s : ScanRun} (hs : s ∈ db.scanRuns)
    (hkept : s ∈ (successfulScans s.deviceId db).take rawRetentionKeptScansPerDevice) :
    s.id ∈ keptScanIds db := by
  refine List.mem_flatMap.mpr ⟨s.deviceId, ?_, List.mem_map.mpr ⟨s, hkept, rfl⟩⟩
  exact List.mem_dedup.mpr (List.mem_map.mpr ⟨s, hs, rfl⟩)

theorem latestScan_kept {deviceId : ℕ} {s : ScanRun} (h : latestScan deviceId db = some s) :
    s.id ∈ keptScanIds db := by
  obtain ⟨hs, rfl, -⟩ := latestScan_spec h
  exact mem_keptScanIds hs (take_two_of_head? h)

/-- The successful scans of one device start at different times. -/
def DistinctStarts (db : Database) : Prop :=
  ∀ s ∈ db.scanRuns, ∀ t ∈ db.scanRuns, s.status = .success → t.status = .success →
    s.deviceId = t.deviceId → s.startedAt = t.startedAt → s = t

theorem mem_successfulScans {deviceId : ℕ} {s : ScanRun} :
    s ∈ successfulScans deviceId db ↔
      s ∈ db.scanRuns ∧ s.deviceId = deviceId ∧ s.status = .success := by
  simp [successfulScans]

theorem successfulScans_sorted (deviceId : ℕ) (db : Database) :
    (successfulScans deviceId db).Pairwise fun a b => b.startedAt ≤ a.startedAt := by
  have hsorted := List.pairwise_insertionSort
    (fun a b : ScanRun => (toLex (b.startedAt, b.id) : ℕ ×ₗ ℕ) ≤ toLex (a.startedAt, a.id))
    (db.scanRuns.filter fun s => s.deviceId = deviceId ∧ s.status = .success)
  refine hsorted.imp ?_
  intro a b hab
  rcases Prod.Lex.toLex_le_toLex.mp hab with hlt | ⟨heq, -⟩
  · exact hlt.le
  · exact heq.le

theorem previousScan_spec {current p : ScanRun} (h : previousScan current db = some p) :
    (p ∈ db.scanRuns ∧ p.deviceId = current.deviceId ∧ p.status = .success ∧
      p.startedAt < current.startedAt) ∧
    ∀ q ∈ db.scanRuns, q.deviceId = current.deviceId → q.status = .success →
      q.startedAt < current.startedAt → q.startedAt ≤ p.startedAt := by
  obtain ⟨rest, hrest⟩ := List.head?_eq_some_iff.mp h
  have hmem : ∀ q, q ∈ p :: rest ↔ q ∈ db.scanRuns ∧ q.deviceId = current.deviceId ∧
      q.status = .success ∧ q.startedAt < current.startedAt := by
    intro q
    rw [← hrest, List.mem_insertionSort, List.mem_filter]
    simp
  have hsorted := List.pairwise_insertionSort (fun a b : ScanRun => b.startedAt ≤ a.startedAt)
    (db.scanRuns.filter fun s => s.deviceId = current.deviceId ∧ s.status = .success ∧
      s.startedAt < current.startedAt)
  rw [hrest, List.pairwise_cons] at hsorted
  refine ⟨(hmem p).mp List.mem_cons_self, ?_⟩
  intro q hq hdevice hstatus hlt
  rcases List.mem_cons.mp ((hmem q).mpr ⟨hq, hdevice, hstatus, hlt⟩) with rfl | hqr
  · exact le_rfl
  · exact hsorted.1 q hqr

/-- The predecessor of the latest successful scan is the second one. -/
theorem previousScan_kept (hids : (db.scanRuns.map (·.id)).Nodup) (hdistinct : DistinctStarts db)
    {deviceId : ℕ} {current p : ScanRun} (hlatest : latestScan deviceId db = some current)
    (hprevious : previousScan current db = some p) : p.id ∈ keptScanIds db := by
  obtain ⟨hcurrent, rfl, hsuccess⟩ := latestScan_spec hlatest
  obtain ⟨⟨hp, hpdevice, hpsuccess, hplt⟩, hgreatest⟩ := previousScan_spec hprevious
  apply mem_keptScanIds hp
  rw [hpdevice]
  have hsorted := successfulScans_sorted current.deviceId db
  have hnodup : (successfulScans current.deviceId db).Nodup :=
    (List.perm_insertionSort _ _).nodup_iff.mpr ((List.Nodup.of_map _ hids).filter _)
  have hpmem : p ∈ successfulScans current.deviceId db :=
    mem_successfulScans.mpr ⟨hp, hpdevice, hpsuccess⟩
  obtain ⟨rest, hrest⟩ := List.head?_eq_some_iff.mp hlatest
  have hrest : successfulScans current.deviceId db = current :: rest := hrest
  rw [hrest] at hpmem hsorted hnodup ⊢
  have hpne : p ≠ current := by
    rintro rfl
    exact lt_irrefl _ hplt
  have hprest : p ∈ rest := (List.mem_cons.mp hpmem).resolve_left hpne
  cases rest with
  | nil => cases hprest
  | cons q rest =>
    have hqmem : q ∈ successfulScans current.deviceId db := by
      rw [hrest]
      simp
    obtain ⟨hq, hqdevice, hqsuccess⟩ := mem_successfulScans.mp hqmem
    have hqne : q ≠ current := by
      rintro rfl
      simp at hnodup
    have hqle : q.startedAt ≤ current.startedAt := (List.pairwise_cons.mp hsorted).1 q (by simp)
    have hqlt : q.startedAt < current.startedAt := by
      refine lt_of_le_of_ne hqle fun heq => hqne ?_
      exact hdistinct q hq current hcurrent hqsuccess hsuccess hqdevice heq
    have hpq : p.startedAt ≤ q.startedAt := by
      rcases List.mem_cons.mp hprest with rfl | hpr
      · exact le_rfl
      · exact (List.pairwise_cons.mp (List.pairwise_cons.mp hsorted).2).1 p hpr
    have heq : q = p := hdistinct q hq p hp hqsuccess hpsuccess (hqdevice.trans hpdevice.symm)
      (le_antisymm (hgreatest q hq hqdevice hqsuccess hqlt) hpq)
    rw [heq]
    simp [rawRetentionKeptScansPerDevice]

/-! ## Samples -/

/-- A sample without what a stand-in cannot know. -/
def Sample.undetailed (s : Sample) : Sample :=
  { s with localIp := "", localPort := none, state := none, pid := none }

/-- What every sample of an observation agrees on. -/
def ConnectionServiceObservation.sample (o : ConnectionServiceObservation) : Sample where
  connectionId := o.sampleConnectionId
  protocol := o.protocol
  localIp := ""
  localPort := none
  remotePort := if o.remotePort = 0 then none else some o.remotePort
  state := none
  pid := none
  processName := if o.processName = "" then none else some o.processName
  scanId := o.scanRunId
  startedAt := o.startedAt
  deviceId := o.deviceId

section

variable {scans : List ScanRun} {records : List ConnectionRecord}
  {selected : List ConnectionServiceObservation}

theorem latestById_undetailed (h : SyncedDatabase scans records db)
    {o : ConnectionServiceObservation} (ho : o ∈ db.observations) {s : Sample}
    (hs : latestById db o.sampleConnectionId = some s) : s.undetailed = o.sample := by
  unfold latestById at hs
  obtain ⟨r, hr, hs⟩ := Option.bind_eq_some_iff.mp hs
  obtain ⟨scan, hscan, rfl⟩ := Option.map_eq_some_iff.mp hs
  have hrid : r.id = o.sampleConnectionId := by simpa using List.find?_some hr
  have hrmem := List.mem_of_find?_eq_some hr
  have hcovers := h.covers_sample ho hrmem hrid
  obtain ⟨scan₀, hsynced, hscan₀, -, hfrom⟩ := h.syncedFrom ho
  have hwell := h.wellFormed scan₀ hsynced r (h.present.subset hrmem)
    (hcovers.scan.trans hfrom.scanId)
  have hscanEq : scan = scan₀ := by
    rw [hcovers.scan, hfrom.scanId, Dict.find?_key_of_mem h.scanIds hscan₀] at hscan
    exact (Option.some.inj hscan).symm
  subst hscanEq
  have hport : r.remotePort = if o.remotePort = 0 then none else some o.remotePort := by
    rw [← hcovers.remotePort]
    cases hp : r.remotePort with
    | none => rfl
    | some p =>
      have hpos := hwell.remotePort p hp
      simp only [Option.getD_some]
      rw [if_neg (by omega)]
  have hprocess : r.processName =
      if o.processName = "" then none else some o.processName := by
    rw [← hcovers.processName]
    cases hn : r.processName with
    | none => rfl
    | some name =>
      simp only [Option.getD_some]
      rw [if_neg (hwell.processName name hn)]
  simp only [Sample.undetailed, ConnectionServiceObservation.sample, Sample.mk.injEq, true_and]
  exact ⟨hrid, hcovers.protocol, hport, hprocess, hfrom.scanId.symm, hfrom.startedAt.symm,
    hfrom.device.symm⟩

theorem degradedSample_undetailed (h : SyncedDatabase scans records db)
    {o : ConnectionServiceObservation} (ho : o ∈ db.observations) {row : AggregateRow}
    (hkey : o.rawKey = row.key) (hmarker : row.latestMarker = o.marker)
    {localIps : Finset String} {localPorts pids : Finset ℤ} {s : Sample}
    (hs : degradedSample row localIps localPorts pids = some s) : s.undetailed = o.sample := by
  obtain ⟨hfit, hfit', hfit''⟩ := h.fits ho
  unfold degradedSample at hs
  split at hs
  · cases hs
  · cases hs
    rw [hmarker, ConnectionServiceObservation.marker, markerParts_markerText hfit hfit' hfit'',
      ← hkey]
    simp only [Sample.undetailed, ConnectionServiceObservation.sample,
      ConnectionServiceObservation.rawKey, Option.some.injEq]
    rfl

/-- The separated set of an aggregate row is never empty. -/
theorem localIpSet_nonempty (h : SyncedDatabase scans records db)
    (hselected : ∀ o ∈ selected, o ∈ db.observations) {o : ConnectionServiceObservation}
    (ho : o ∈ selected) : (csvRow selected o.rawKey).localIpSet.Nonempty := by
  have hne : ∀ o ∈ selected, o.localIps ≠ "" := by
    intro o ho
    obtain ⟨scan, -, -, -, hfrom⟩ := h.syncedFrom (hselected o ho)
    exact hfrom.localIps_ne
  obtain ⟨scan, -, -, -, hfrom⟩ := h.syncedFrom (hselected o ho)
  obtain ⟨r, hr, hcovers, -⟩ := hfrom.sample
  have htext := (hfrom.localIps r.localIp).mpr ⟨r, hr, hcovers, rfl⟩
  refine ⟨normalizeIpAddress r.localIp, Finset.mem_image_of_mem _ ?_⟩
  exact (mem_csvRow_localIps hne).mpr ⟨o, ho, rfl, htext⟩

/-- Every aggregate row has a sample, which says what its latest observation says. -/
theorem latestSample_undetailed (h : SyncedDatabase scans records db)
    (hselected : ∀ o ∈ selected, o ∈ db.observations) {row : AggregateRow}
    {o : ConnectionServiceObservation} (ho : o ∈ selected) (hkey : o.rawKey = row.key)
    (hmarker : row.latestMarker = o.marker) :
    ∃ s, latestSample db (csvRow selected row.key) row = some s ∧ s.undetailed = o.sample := by
  have hdb := hselected o ho
  obtain ⟨hfit, hfit', hfit''⟩ := h.fits hdb
  have hid : (markerParts row.latestMarker).getD 2 0 = o.sampleConnectionId := by
    rw [hmarker, ConnectionServiceObservation.marker, markerParts_markerText hfit hfit' hfit'']
    rfl
  unfold latestSample
  rw [hid]
  cases hfound : latestById db o.sampleConnectionId with
  | some s => exact ⟨s, rfl, latestById_undetailed h hdb hfound⟩
  | none =>
    rw [Option.none_or]
    have hips := localIpSet_nonempty h hselected ho
    rw [hkey] at hips
    cases hs : degradedSample row (csvRow selected row.key).localIpSet
        (csvIntSet (csvRow selected row.key).localPorts) (csvIntSet (csvRow selected row.key).pids) with
    | some s => exact ⟨s, rfl, degradedSample_undetailed h hdb hkey hmarker hs⟩
    | none =>
      exfalso
      unfold degradedSample at hs
      split at hs
      · rename_i hnil
        obtain ⟨ip, hip⟩ := hips
        have hmem := (Finset.mem_sort (· ≤ ·)).mpr hip
        rw [hnil] at hmem
        cases hmem
      · cases hs

/-! ## Buckets and services -/

def ObservationBucket.undetailed (b : ObservationBucket) : ObservationBucket :=
  { b with addressFamily := "", localIp := "", localPort := none, state := none, pid := none }

/-- A service without `state`, `pid`, `local_ip`, `local_port` and `address_family`. -/
def Service.undetailed (s : Service) : Service :=
  { s with addressFamily := "", localIp := "", localPort := none, state := none, pid := none }

theorem startBucket_undetailed {csv : CsvRow} {row : AggregateRow} {s s' : Sample}
    (h : s.undetailed = s'.undetailed) :
    (startBucket csv row s).undetailed = (startBucket csv row s').undetailed := by
  simp only [Sample.undetailed, Sample.mk.injEq, true_and] at h
  obtain ⟨hid, hprotocol, hport, hprocess, hscan, hstarted, hdevice⟩ := h
  simp only [ObservationBucket.undetailed, startBucket, hid, hprotocol, hport, hprocess, hscan,
    hstarted, hdevice]

theorem merge_undetailed (b n : ObservationBucket) :
    (b.undetailed.merge n.undetailed).undetailed = (b.merge n).undetailed := by
  by_cases hlater : b.latestMarker < n.latestMarker
  · simp [ObservationBucket.merge, ObservationBucket.undetailed, hlater]
    exact ⟨rfl, rfl⟩
  · simp [ObservationBucket.merge, ObservationBucket.undetailed, hlater]
    exact ⟨rfl, rfl⟩

theorem add_undetailed (old : Option ObservationBucket) (item : ServiceKey × ObservationBucket) :
    (ObservationBucket.add (old.map ObservationBucket.undetailed)
      (item.1, item.2.undetailed)).undetailed = (ObservationBucket.add old item).undetailed := by
  cases old with
  | none => rfl
  | some b => exact merge_undetailed b item.2

theorem observationBucket_undetailed (h : SyncedDatabase scans records db)
    (h' : SyncedDatabase scans records db') (hselected : ∀ o ∈ selected, o ∈ db.observations)
    (hselected' : ∀ o ∈ selected, o ∈ db'.observations) {row : AggregateRow}
    (hrow : row ∈ aggregateRows selected) :
    (observationBucket db selected row).map (fun e => (e.1, e.2.undetailed)) =
      (observationBucket db' selected row).map fun e => (e.1, e.2.undetailed) := by
  obtain ⟨o, ho, hkey, hmarker, -⟩ := exists_latest hrow
  obtain ⟨s, hs, hsample⟩ := latestSample_undetailed h hselected ho hkey hmarker
  obtain ⟨s', hs', hsample'⟩ := latestSample_undetailed h' hselected' ho hkey hmarker
  unfold observationBucket
  dsimp only
  split_ifs
  · rfl
  · rw [hs, hs', Option.map_some, Option.map_some, Option.map_some, Option.map_some,
      startBucket_undetailed (hsample.trans hsample'.symm)]

/-- The entries of a window as far as the observations decide them. -/
theorem aggregateEntries_undetailed (h : SyncedDatabase scans records db)
    (h' : SyncedDatabase scans records db') (hselected : ∀ o ∈ selected, o ∈ db.observations)
    (hselected' : ∀ o ∈ selected, o ∈ db'.observations) (str : ServiceKey → String) :
    (aggregateEntries str db selected).map (fun e => (e.1, e.2.undetailed)) =
      (aggregateEntries str db' selected).map fun e => (e.1, e.2.undetailed) := by
  have hrows : ((aggregateRows selected).filterMap (observationBucket db selected)).map
        (fun e => (e.1, e.2.undetailed)) =
      ((aggregateRows selected).filterMap (observationBucket db' selected)).map
        fun e => (e.1, e.2.undetailed) := by
    rw [List.map_filterMap, List.map_filterMap]
    apply List.filterMap_congr
    intro row hrow
    exact observationBucket_undetailed h h' hselected hselected' hrow
  have hentries : ∀ rows : List (ServiceKey × ObservationBucket),
      (Dict.collect Prod.fst ObservationBucket.add rows).entries.map
          (fun e => (e.1, e.2.undetailed)) =
        (Dict.collect Prod.fst (fun old item => (ObservationBucket.add old item).undetailed)
          (rows.map fun e => (e.1, e.2.undetailed))).entries := by
    intro rows
    symm
    apply Dict.entries_collect_map
    · exact fun _ => rfl
    · exact add_undetailed
  have hsort : ∀ entries : List (ServiceKey × ObservationBucket),
      (entries.insertionSort fun a b => str a.1 ≤ str b.1).map (fun e => (e.1, e.2.undetailed)) =
        (entries.map fun e => (e.1, e.2.undetailed)).insertionSort fun a b => str a.1 ≤ str b.1 :=
    fun entries => List.map_insertionSort _ _ _ _ fun _ _ _ _ => Iff.rfl
  unfold aggregateEntries sortedByKey
  rw [hsort, hsort, hentries, hentries, hrows]

theorem aggregateSelected_undetailed (h : SyncedDatabase scans records db)
    (h' : SyncedDatabase scans records db') (hselected : ∀ o ∈ selected, o ∈ db.observations)
    (hselected' : ∀ o ∈ selected, o ∈ db'.observations) (str : ServiceKey → String)
    (current : List ℕ) :
    (aggregateSelected str current db selected).map Service.undetailed =
      (aggregateSelected str current db' selected).map Service.undetailed := by
  have hservices : ∀ entries : List (ServiceKey × ObservationBucket),
      (entries.map fun g => g.2.service current).map Service.undetailed =
        (entries.map fun e => (e.1, e.2.undetailed)).map fun g =>
          (g.2.service current).undetailed := by
    intro entries
    rw [List.map_map, List.map_map]
    rfl
  rw [aggregateSelected_eq, aggregateSelected_eq, hservices, hservices,
    aggregateEntries_undetailed h h' hselected hselected']

/-! ## Current views -/

/-- Samples that stay give the same services. -/
theorem aggregateSelected_congr (h : SyncedDatabase scans records db)
    (hselected : ∀ o ∈ selected, o ∈ db.observations)
    (hsame : ∀ o ∈ selected,
      latestById db' o.sampleConnectionId = latestById db o.sampleConnectionId)
    (str : ServiceKey → String) (current : List ℕ) :
    aggregateSelected str current db' selected = aggregateSelected str current db selected := by
  have hrows : (aggregateRows selected).filterMap (observationBucket db' selected) =
      (aggregateRows selected).filterMap (observationBucket db selected) := by
    apply List.filterMap_congr
    intro row hrow
    obtain ⟨o, ho, hkey, hmarker, -⟩ := exists_latest hrow
    obtain ⟨hfit, hfit', hfit''⟩ := h.fits (hselected o ho)
    have hid : (markerParts row.latestMarker).getD 2 0 = o.sampleConnectionId := by
      rw [hmarker, ConnectionServiceObservation.marker, markerParts_markerText hfit hfit' hfit'']
      rfl
    unfold observationBucket latestSample
    rw [hid, hsame o ho]
  unfold aggregateSelected
  rw [hrows]

/-! ## Thinned databases -/

theorem Thinned.synced (h : SyncedDatabase scans records db) (hthin : Thinned db db' kept) :
    SyncedDatabase scans records db' := by
  obtain ⟨hframe, p, -, hrecords⟩ := hthin
  rw [hframe]
  constructor
  case scanIds => exact h.scanIds
  case recordIds => exact h.recordIds
  case known => exact h.known
  case present =>
    simp only [hrecords]
    exact List.filter_sublist.trans h.present
  case wellFormed => exact h.wellFormed
  case scanFits => exact h.scanFits
  case recordFits => exact h.recordFits
  case synced => exact h.synced

/-- Kept scans keep their raw rows. -/
theorem Thinned.connections (hthin : Thinned db db' kept) {scan : ScanRun} (hkept : scan.id ∈ kept) :
    scan.connections db' = scan.connections db := by
  obtain ⟨-, p, hp, hrecords⟩ := hthin
  unfold ScanRun.connections
  rw [hrecords, List.filter_filter]
  apply List.filter_congr
  intro r _
  by_cases hr : r.scanRunId = scan.id
  · simp [hr, hp _ hkept]
  · simp [hr]

/-- The sample rows of kept scans stay. -/
theorem Thinned.latestById (h : SyncedDatabase scans records db) (hthin : Thinned db db' kept)
    {o : ConnectionServiceObservation} (ho : o ∈ db.observations) (hkept : o.scanRunId ∈ kept) :
    latestById db' o.sampleConnectionId = latestById db o.sampleConnectionId := by
  have hfind : db'.connectionRecords.find? (·.id = o.sampleConnectionId) =
      db.connectionRecords.find? (·.id = o.sampleConnectionId) := by
    obtain ⟨-, p, hp, hrecords⟩ := hthin
    rw [hrecords, ← List.head?_filter, ← List.head?_filter, List.filter_filter]
    congr 1
    apply List.filter_congr
    intro r hr
    by_cases hid : r.id = o.sampleConnectionId
    · have hcovers := h.covers_sample ho hr hid
      simp [hid, hcovers.scan, hp _ hkept]
    · simp [hid]
  unfold ConnectionTopology.latestById
  rw [hfind, hthin.frame]

theorem Thinned.loadCurrentScans (hthin : Thinned db db' kept) (deviceIds : List ℕ) :
    loadCurrentScans deviceIds db' = loadCurrentScans deviceIds db := by
  rw [hthin.frame]
  rfl

/-! ## The views -/

/-- The current services, the current views of a device, of the clusters and of an edge, and the
difference of a device's latest successful scan against the one before it. -/
structure SameCurrentViews (serviceStr : ServiceKey → String) (str : ConnectionKey → String)
    (db db' : Database) : Prop where
  services : ∀ deviceIds narrowing,
    aggregateCurrentConnections serviceStr (loadCurrentScans deviceIds db') narrowing db' =
      aggregateCurrentConnections serviceStr (loadCurrentScans deviceIds db) narrowing db
  topology : ∀ deviceId now, getLatestTopology serviceStr deviceId .current now db' =
    getLatestTopology serviceStr deviceId .current now db
  clusters : ∀ lower resolver now wall targetClusterId embedConnections f
      (hdb : InventoryOk db.devices db.clusters) (hdb' : InventoryOk db'.devices db'.clusters),
    buildClusterTopology serviceStr lower resolver .current now wall targetClusterId
        embedConnections f db' hdb' =
      buildClusterTopology serviceStr lower resolver .current now wall targetClusterId
        embedConnections f db hdb
  edges : ∀ lower resolver sourceId targetId now wall f
      (hdb : InventoryOk db.devices db.clusters) (hdb' : InventoryOk db'.devices db'.clusters),
    buildEdgeConnections serviceStr lower resolver sourceId targetId .current now wall f db' hdb' =
      buildEdgeConnections serviceStr lower resolver sourceId targetId .current now wall f db hdb
  diff : ∀ deviceId current, latestScan deviceId db = some current →
    getScanDiff serviceStr str current.id db' = getScanDiff serviceStr str current.id db

/-- Every history window, up to the details of samples. -/
def SameHistory (serviceStr : ServiceKey → String) (db db' : Database) : Prop :=
  ∀ deviceIds currentScanIds window now narrowing,
    (aggregateHistoricalConnections serviceStr deviceIds currentScanIds window now narrowing
        db').map (List.map Service.undetailed) =
      (aggregateHistoricalConnections serviceStr deviceIds currentScanIds window now narrowing
        db).map (List.map Service.undetailed)

theorem Thinned.history (h : SyncedDatabase scans records db) (hthin : Thinned db db' kept)
    (serviceStr : ServiceKey → String) : SameHistory serviceStr db db' := by
  intro deviceIds currentScanIds window now narrowing
  have hobservations : db'.observations = db.observations := by rw [hthin.frame]
  unfold aggregateHistoricalConnections
  split
  · rfl
  · simp only [Except.map, aggregateObservationGroups, hobservations]
    congr 1
    apply aggregateSelected_undetailed (hthin.synced h) h
    · intro o ho
      rw [hobservations]
      exact List.mem_of_mem_filter ho
    · exact fun o ho => List.mem_of_mem_filter ho

theorem Thinned.currentServices (h : SyncedDatabase scans records db)
    (hthin : Thinned db db' (keptScanIds db)) (serviceStr : ServiceKey → String)
    (deviceIds : List ℕ) (narrowing : Narrowing) :
    aggregateCurrentConnections serviceStr (ConnectionTopology.loadCurrentScans deviceIds db')
        narrowing db' =
      aggregateCurrentConnections serviceStr (ConnectionTopology.loadCurrentScans deviceIds db)
        narrowing db := by
  have hobservations : db'.observations = db.observations := by rw [hthin.frame]
  rw [hthin.loadCurrentScans]
  unfold aggregateCurrentConnections aggregateObservationGroups
  rw [hobservations]
  apply aggregateSelected_congr h
  · exact fun o ho => List.mem_of_mem_filter ho
  · intro o ho
    obtain ⟨ho, hcond⟩ := List.mem_filter.mp ho
    simp only [observationConditions, keepsScan, Bool.and_eq_true, decide_eq_true_eq,
      List.mem_map] at hcond
    obtain ⟨s, hs, hid⟩ := hcond.1.2
    obtain ⟨d, -, hlatest⟩ := mem_loadCurrentScans.mp hs
    exact hthin.latestById h ho (hid ▸ latestScan_kept hlatest)

theorem Thinned.windowConnections (h : SyncedDatabase scans records db)
    (hthin : Thinned db db' (keptScanIds db)) (serviceStr : ServiceKey → String) (now : Timestamp)
    (deviceIds : List ℕ) (narrowing : Narrowing) :
    windowConnections serviceStr .current now deviceIds
        (ConnectionTopology.loadCurrentScans deviceIds db) narrowing db' =
      windowConnections serviceStr .current now deviceIds
        (ConnectionTopology.loadCurrentScans deviceIds db) narrowing db := by
  unfold ConnectionTopology.windowConnections
  rw [if_pos rfl, if_pos rfl, ← hthin.currentServices h, hthin.loadCurrentScans]

/-- The context is made of devices and clusters only. -/
theorem Thinned.clusterGraphContext (hthin : Thinned db db' kept) (resolver : HostAddressResolver)
    (hdb : InventoryOk db.devices db.clusters) (hdb' : InventoryOk db'.devices db'.clusters) :
    loadClusterGraphContext resolver db' hdb' = loadClusterGraphContext resolver db hdb := by
  obtain ⟨records', rfl⟩ : ∃ records', db' = { db with connectionRecords := records' } :=
    ⟨_, hthin.frame⟩
  rfl

theorem Thinned.buildTopology (hthin : Thinned db db' kept) {scan : ScanRun}
    (hkept : scan.id ∈ kept) (serviceStr : ServiceKey → String) (device : Device)
    (window : TopologyWindow) :
    buildTopology serviceStr device scan none window none db' =
      buildTopology serviceStr device scan none window none db := by
  simp only [ConnectionTopology.buildTopology, aggregateServiceConnections, connectionObservations,
    Option.getD_none, List.flatMap_cons, List.flatMap_nil, List.append_nil,
    hthin.connections hkept]

theorem Thinned.device (hthin : Thinned db db' kept) (scan : ScanRun) :
    scan.device db' = scan.device db := by
  rw [hthin.frame]
  rfl

theorem Thinned.scanWithConnections (hthin : Thinned db db' kept) (scanId : ℕ) :
    scanWithConnections db' scanId = scanWithConnections db scanId := by
  rw [hthin.frame]
  rfl

theorem Thinned.previousScan (hthin : Thinned db db' kept) (scan : ScanRun) :
    previousScan scan db' = previousScan scan db := by
  rw [hthin.frame]
  rfl

theorem Thinned.latestTopology (hthin : Thinned db db' (keptScanIds db))
    (serviceStr : ServiceKey → String) (deviceId : ℕ) (now : Timestamp) :
    getLatestTopology serviceStr deviceId .current now db' =
      getLatestTopology serviceStr deviceId .current now db := by
  unfold getLatestTopology
  rw [hthin.loadCurrentScans]
  cases hfind : (ConnectionTopology.loadCurrentScans [deviceId] db).find? (·.deviceId = deviceId) with
  | none => rfl
  | some scan =>
    obtain ⟨d, -, hlatest⟩ := mem_loadCurrentScans.mp (List.mem_of_find?_eq_some hfind)
    simp only [hthin.device, hthin.buildTopology (latestScan_kept hlatest), if_true]

theorem Thinned.scanDiff (h : SyncedDatabase scans records db) (hdistinct : DistinctStarts db)
    (hthin : Thinned db db' (keptScanIds db)) (serviceStr : ServiceKey → String)
    (str : ConnectionKey → String) {deviceId : ℕ} {current : ScanRun}
    (hlatest : latestScan deviceId db = some current) :
    getScanDiff serviceStr str current.id db' = getScanDiff serviceStr str current.id db := by
  have hcurrent : ConnectionTopology.scanWithConnections db current.id = .ok current := by
    unfold ConnectionTopology.scanWithConnections
    rw [Dict.find?_key_of_mem h.scanIds (latestScan_spec hlatest).1]
  have hkept := latestScan_kept hlatest
  unfold getScanDiff
  rw [hthin.scanWithConnections, hcurrent]
  simp only [bind, Except.bind, hthin.previousScan, hthin.device,
    hthin.buildTopology hkept]
  cases hprevious : ConnectionTopology.previousScan current db with
  | none => rfl
  | some p =>
    have hpkept := previousScan_kept h.scanIds hdistinct hlatest hprevious
    have hp : ConnectionTopology.scanWithConnections db p.id = .ok p := by
      unfold ConnectionTopology.scanWithConnections
      rw [Dict.find?_key_of_mem h.scanIds (previousScan_spec hprevious).1.1]
    simp only [hthin.scanWithConnections, hp, diffScans, connectionsByKey,
      hthin.connections hkept, hthin.connections hpkept]

/-- The purge ends, and leaves every current view, the latest difference of every device, and
every history window up to the details of samples. -/
theorem raw_purge_keeps_the_views (h : SyncedDatabase scans records db)
    (hdistinct : DistinctStarts db) (serviceStr : ServiceKey → String)
    (str : ConnectionKey → String) (rawDays : ℕ) (now : Timestamp) (chunkSize : ℕ) :
    ∃ deleted db', purgeRawConnectionRecords rawDays now chunkSize db = some (deleted, db') ∧
      SameCurrentViews serviceStr str db db' ∧ SameHistory serviceStr db db' := by
  obtain ⟨⟨deleted, db'⟩, hpurge⟩ :=
    Option.isSome_iff_exists.mp (purgeRawConnectionRecords_ends rawDays now chunkSize db)
  have hthin : Thinned db db' (keptScanIds db) := rawPurgeLoop_thinned _ _ _ _ _ hpurge
  refine ⟨deleted, db', hpurge, ?_, hthin.history h serviceStr⟩
  constructor
  case services => exact hthin.currentServices h serviceStr
  case topology => exact hthin.latestTopology serviceStr
  case clusters =>
    intro lower resolver now wall targetClusterId embedConnections f hdb hdb'
    unfold buildClusterTopology
    simp only [hthin.clusterGraphContext resolver hdb hdb', hthin.windowConnections h,
      hthin.loadCurrentScans]
  case edges =>
    intro lower resolver sourceId targetId now wall f hdb hdb'
    unfold buildEdgeConnections
    simp only [hthin.clusterGraphContext resolver hdb hdb', hthin.windowConnections h,
      hthin.loadCurrentScans]
  case diff => exact fun _ _ hlatest => hthin.scanDiff h hdistinct serviceStr str hlatest

end

/-- Three scans of one device, each with a connection to the same service. -/
def threeScans : Database where
  devices := [{ id := 1, name := "web-01", host := "10.0.0.10" }]
  scanRuns := [{ id := 1, deviceId := 1, status := .success, startedAt := 10 },
    { id := 2, deviceId := 1, status := .success, startedAt := 20 },
    { id := 3, deviceId := 1, status := .success, startedAt := 30 }]
  connectionRecords := [1, 2, 3].map fun n =>
    { id := n, scanRunId := n, protocol := "tcp", localIp := "10.0.0.10", localPort := 50000 + n,
      remoteIp := some "10.0.0.20", remotePort := some 443, state := some "ESTAB" }

def syncedScans : Database := syncAll threeScans.scanRuns threeScans

theorem syncedScans_synced :
    SyncedDatabase threeScans.scanRuns threeScans.connectionRecords syncedScans := by
  constructor
  case scanIds => decide +kernel
  case recordIds => decide +kernel
  case known => decide +kernel
  case present => decide +kernel
  case wellFormed =>
    intro _ _ r hr _
    obtain ⟨n, -, rfl⟩ := List.mem_map.mp hr
    exact ⟨by simp, by simp, by simp, by simp⟩
  case scanFits => decide +kernel
  case recordFits => decide +kernel
  case synced => decide +kernel

theorem old_scan_is_purged :
    ∃ db', purgeRawConnectionRecords 1 (48 * 3600 * microsPerSecond) 1 syncedScans =
        some (1, db') ∧
      SameCurrentViews ServiceKey.remoteIp ConnectionKey.localIp syncedScans db' ∧
      SameHistory ServiceKey.remoteIp syncedScans db' := by
  have hdistinct : DistinctStarts syncedScans := by
    unfold DistinctStarts
    decide +kernel
  obtain ⟨deleted, db', hpurge, hviews⟩ := raw_purge_keeps_the_views syncedScans_synced hdistinct
    ServiceKey.remoteIp ConnectionKey.localIp 1 (48 * 3600 * microsPerSecond) 1
  have hdeleted : (purgeRawConnectionRecords 1 (48 * 3600 * microsPerSecond) 1 syncedScans).map
      Prod.fst = some 1 := by decide +kernel
  rw [hpurge] at hdeleted
  cases hdeleted
  exact ⟨db', hpurge, hviews⟩

end ConnectionTopology
