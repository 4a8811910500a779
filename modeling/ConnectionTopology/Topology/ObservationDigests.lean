import ConnectionTopology.Topology.Digests
import ConnectionTopology.Topology.SyncedObservations
import ConnectionTopology.Topology.Narrowing

/-!
# The observation path makes digests too

A row of the first query stands for the raw rows behind its group of observations: its bucket
holds their digest, whichever text the database used on the way. Buckets whose addresses
normalize to the same text are merged into the digest of the union.
-/
namespace ConnectionTopology

open Latest

/-- The raw rows behind an observation, each with its scan. -/
def ConnectionServiceObservation.rows (o : ConnectionServiceObservation)
    (records : List ConnectionRecord) : Set ConnectionObservation :=
  {x | x.row ∈ records ∧ o.Covers x.row ∧ x.scanId = o.scanRunId ∧ x.deviceId = o.deviceId ∧
    x.startedAt = o.startedAt}

/-- The raw rows behind the selected observations of one raw key. -/
def rawRows (records : List ConnectionRecord) (selected : List ConnectionServiceObservation)
    (key : ServiceKey) : Set ConnectionObservation :=
  {x | ∃ o ∈ selected, o.rawKey = key ∧ x ∈ o.rows records}

def ObservationBucket.digest (b : ObservationBucket) : Digest where
  values := b.toServiceValues.withoutHostname
  firstSeen := b.firstSeen
  lastSeen := b.lastSeen
  scanIds := b.scanIds
  localIps := b.localIps
  localPorts := b.localPorts
  pids := b.pids

/-- What the buckets have made of raw rows with one normalized key. -/
structure ObservationBucket.Sums (deviceId : ℕ) (remoteIp : String)
    (rows : Set ConnectionObservation) (b : ObservationBucket) : Prop where
  digest : b.digest.Of deviceId remoteIp rows
  marker : b.latestMarker = toLex (b.scanTime, toLex (b.scanId, b.id))

/-! ## One aggregate row -/

section

variable {db : Database} {scans : List ScanRun} {selected : List ConnectionServiceObservation}

/-- The marker of the sample, as numbers. -/
def ConnectionServiceObservation.sampleMarker (o : ConnectionServiceObservation) : ℕ ×ₗ ℕ ×ₗ ℕ :=
  toLex (o.startedAt, toLex (o.scanRunId, o.sampleConnectionId))

/-- The markers of observations are ordered as those of their samples. -/
theorem sampleMarker_le {o p : ConnectionServiceObservation}
    (ho : FitsMarker o.startedAt ∧ FitsMarker o.scanRunId ∧ FitsMarker o.sampleConnectionId)
    (hp : FitsMarker p.startedAt ∧ FitsMarker p.scanRunId ∧ FitsMarker p.sampleConnectionId)
    (hle : p.marker ≤ o.marker) : p.sampleMarker ≤ o.sampleMarker := by
  by_contra hnot
  have hlt := (markerText_lt_iff ho.1 ho.2.1 ho.2.2 hp.1 hp.2.1 hp.2.2).mpr (not_le.mp hnot)
  exact absurd hle (not_le.mpr hlt)

/-- The sample row of an observation, with its scan. -/
theorem exists_sample (h : SyncedDatabase scans db.connectionRecords db)
    {o : ConnectionServiceObservation} (ho : o ∈ db.observations) :
    ∃ x ∈ o.rows db.connectionRecords, x.marker = o.sampleMarker ∧
      (∀ y ∈ o.rows db.connectionRecords, y.marker ≤ x.marker) ∧
      latestById db o.sampleConnectionId = some
        { connectionId := x.row.id
          protocol := x.row.protocol
          localIp := x.row.localIp
          localPort := some x.row.localPort
          remotePort := x.row.remotePort
          state := x.row.state
          pid := x.row.pid
          processName := x.row.processName
          scanId := x.scanId
          startedAt := x.startedAt
          deviceId := x.deviceId } := by
  obtain ⟨scan, -, hscan, -, hfrom⟩ := h.syncedFrom ho
  obtain ⟨r, hr, hcovers, hid⟩ := hfrom.sample
  let x : ConnectionObservation := ⟨o.scanRunId, o.deviceId, o.startedAt, r⟩
  have hmarker : x.marker = o.sampleMarker := by
    simp only [x, ConnectionObservation.marker, ConnectionServiceObservation.sampleMarker, hid]
  refine ⟨x, ⟨hr, hcovers, rfl, rfl, rfl⟩, hmarker, ?_, ?_⟩
  · rintro y ⟨hy, hycovers, hyscan, -, hystart⟩
    have hnewest := hfrom.newest y.row hy hycovers
    rw [hmarker]
    simp only [ConnectionObservation.marker, ConnectionServiceObservation.sampleMarker, hyscan,
      hystart, Prod.Lex.toLex_le_toLex, lt_self_iff_false, false_or, true_and]
    exact hnewest
  · unfold latestById
    have hrecord : db.connectionRecords.find? (·.id = o.sampleConnectionId) = some r := by
      rw [← hid]
      exact Dict.find?_key_of_mem h.recordIds hr
    have hrun : db.scanRuns.find? (·.id = r.scanRunId) = some scan := by
      rw [hcovers.scan, hfrom.scanId]
      exact Dict.find?_key_of_mem h.scanIds hscan
    rw [hrecord, Option.bind_some, hrun]
    simp only [Option.map_some, x, hfrom.scanId, hfrom.startedAt, hfrom.device]

/-- The selected observations of one raw key. -/
def keyed (selected : List ConnectionServiceObservation) (key : ServiceKey) :
    Set ConnectionServiceObservation :=
  {o | o ∈ selected ∧ o.rawKey = key}

theorem seen_bounds {row : AggregateRow} (hrow : row ∈ aggregateRows selected) :
    IsLeast (Set.image (·.startedAt) (keyed selected row.key)) row.firstSeen ∧
      IsGreatest (Set.image (·.startedAt) (keyed selected row.key)) row.lastSeen := by
  obtain ⟨group, hne, hgroup, hrowEq⟩ := mem_aggregateRows hrow
  have htimes : ∀ t, t ∈ group.map (·.startedAt) ↔
      t ∈ Set.image (·.startedAt) (keyed selected row.key) := by
    intro t
    simp only [hgroup, List.mem_map, List.mem_filter, decide_eq_true_eq, Set.mem_image, keyed,
      Set.mem_ofPred_eq]
  have hmap : group.map (·.startedAt) ≠ [] := by simpa using hne
  obtain ⟨least, hleast⟩ :=
    Option.ne_none_iff_exists'.mp fun h => hmap (List.min?_eq_none_iff.mp h)
  obtain ⟨greatest, hgreatest⟩ :=
    Option.ne_none_iff_exists'.mp fun h => hmap (List.max?_eq_none_iff.mp h)
  have hfirst : row.firstSeen = least := by
    rw [hrowEq]
    simp only [aggregateRow, hleast, Option.getD_some]
  have hlast : row.lastSeen = greatest := by
    rw [hrowEq]
    simp only [aggregateRow, hgreatest, Option.getD_some]
  obtain ⟨hleastMem, hleastLe⟩ := List.min?_eq_some_iff.mp hleast
  obtain ⟨hgreatestMem, hgreatestLe⟩ := List.max?_eq_some_iff.mp hgreatest
  rw [hfirst, hlast]
  constructor
  · exact ⟨(htimes _).mp hleastMem, fun t ht => hleastLe t ((htimes t).mpr ht)⟩
  · exact ⟨(htimes _).mp hgreatestMem, fun t ht => hgreatestLe t ((htimes t).mpr ht)⟩

section

variable (h : SyncedDatabase scans db.connectionRecords db)
  (hselected : ∀ o ∈ selected, o ∈ db.observations)

include h hselected

/-- What an observation has in common with its rows. -/
theorem image_rawRows {β : Type} {f : ConnectionObservation → β}
    {g : ConnectionServiceObservation → β}
    (hfg : ∀ o, ∀ x ∈ o.rows db.connectionRecords, f x = g o) (key : ServiceKey) :
    Set.image f (rawRows db.connectionRecords selected key) = Set.image g (keyed selected key) := by
  ext b
  constructor
  · rintro ⟨x, ⟨o, ho, hkey, hx⟩, rfl⟩
    exact ⟨o, ⟨ho, hkey⟩, (hfg o x hx).symm⟩
  · rintro ⟨o, ⟨ho, hkey⟩, rfl⟩
    obtain ⟨x, hx, -⟩ := exists_sample h (hselected o ho)
    exact ⟨x, ⟨o, ho, hkey, hx⟩, hfg o x hx⟩

/-- The texts of a column come from the rows behind the selected observations. -/
theorem exists_text_iff {column : ConnectionServiceObservation → String → Prop}
    {value : ConnectionRecord → String → Prop}
    (hcolumn : ∀ scan o, SyncedFrom db.connectionRecords scan o → ∀ text,
      column o text ↔ ∃ r ∈ db.connectionRecords, o.Covers r ∧ value r text)
    (key : ServiceKey) (text : String) :
    (∃ o ∈ selected, o.rawKey = key ∧ column o text) ↔
      ∃ x ∈ rawRows db.connectionRecords selected key, value x.row text := by
  constructor
  · rintro ⟨o, ho, hkey, htext⟩
    obtain ⟨scan, -, -, -, hfrom⟩ := h.syncedFrom (hselected o ho)
    obtain ⟨r, hr, hcovers, hvalue⟩ := (hcolumn scan o hfrom text).mp htext
    exact ⟨⟨o.scanRunId, o.deviceId, o.startedAt, r⟩,
      ⟨o, ho, hkey, hr, hcovers, rfl, rfl, rfl⟩, hvalue⟩
  · rintro ⟨x, ⟨o, ho, hkey, hr, hcovers, -⟩, hvalue⟩
    obtain ⟨scan, -, -, -, hfrom⟩ := h.syncedFrom (hselected o ho)
    exact ⟨o, ho, hkey, (hcolumn scan o hfrom text).mpr ⟨x.row, hr, hcovers, hvalue⟩⟩

theorem coe_localIpSet (key : ServiceKey) :
    ((csvRow selected key).localIpSet : Set String) =
      Set.image (fun x => normalizeIpAddress x.row.localIp)
        (rawRows db.connectionRecords selected key) := by
  have hne : ∀ o ∈ selected, o.localIps ≠ "" := by
    intro o ho
    obtain ⟨scan, -, -, -, hfrom⟩ := h.syncedFrom (hselected o ho)
    exact hfrom.localIps_ne
  have htexts := exists_text_iff h hselected (fun _ _ hfrom => hfrom.localIps) key
  ext ip
  simp only [CsvRow.localIpSet, Finset.coe_image, Set.mem_image, Finset.mem_coe,
    mem_csvRow_localIps hne, htexts]
  constructor
  · rintro ⟨text, ⟨x, hx, rfl⟩, rfl⟩
    exact ⟨x, hx, rfl⟩
  · rintro ⟨x, hx, rfl⟩
    exact ⟨_, ⟨x, hx, rfl⟩, rfl⟩

theorem coe_localPortSet (key : ServiceKey) :
    (csvIntSet (csvRow selected key).localPorts : Set ℤ) =
      Set.image (fun x => x.row.localPort) (rawRows db.connectionRecords selected key) := by
  have hne : ∀ o ∈ selected, o.localPorts ≠ "" := by
    intro o ho
    obtain ⟨scan, -, -, -, hfrom⟩ := h.syncedFrom (hselected o ho)
    exact hfrom.localPorts_ne
  have htexts := exists_text_iff h hselected (fun _ _ hfrom => hfrom.localPorts) key
  ext port
  simp only [Set.mem_image, Finset.mem_coe, mem_csvRow_localPorts hne]
  constructor
  · rintro ⟨o, ho, hkey, text, htext, hport⟩
    obtain ⟨x, hx, rfl⟩ := (htexts text).mp ⟨o, ho, hkey, htext⟩
    rw [Text.int_toString] at hport
    exact ⟨x, hx, Option.some.inj hport⟩
  · rintro ⟨x, hx, rfl⟩
    obtain ⟨o, ho, hkey, htext⟩ := (htexts _).mpr ⟨x, hx, rfl⟩
    exact ⟨o, ho, hkey, _, htext, Text.int_toString _⟩

theorem coe_pidSet (key : ServiceKey) :
    (csvIntSet (csvRow selected key).pids : Set ℤ) =
      {pid | ∃ x ∈ rawRows db.connectionRecords selected key, x.row.pid = some pid} := by
  have hne : ∀ o ∈ selected, ∀ v, o.pids = some v → v ≠ "" := by
    intro o ho
    obtain ⟨scan, -, -, -, hfrom⟩ := h.syncedFrom (hselected o ho)
    exact hfrom.pids_ne
  have htexts := exists_text_iff h hselected (fun _ _ hfrom => hfrom.pids) key
  ext pid
  simp only [Set.mem_ofPred_eq, Finset.mem_coe, mem_csvRow_pids hne]
  constructor
  · rintro ⟨o, ho, hkey, v, hv, text, htext, hpid⟩
    obtain ⟨x, hx, pid', hrpid, rfl⟩ := (htexts text).mp ⟨o, ho, hkey, v, hv, htext⟩
    rw [Text.int_toString] at hpid
    cases hpid
    exact ⟨x, hx, hrpid⟩
  · rintro ⟨x, hx, hpid⟩
    obtain ⟨o, ho, hkey, v, hv, htext⟩ := (htexts _).mpr ⟨x, hx, pid, hpid, rfl⟩
    exact ⟨o, ho, hkey, v, hv, _, htext, Text.int_toString _⟩

/-- The bucket of an aggregate row holds the digest of the rows behind it. -/
theorem startBucket_sums {row : AggregateRow} (hrow : row ∈ aggregateRows selected) :
    ∃ latest, latestSample db (csvRow selected row.key) row = some latest ∧
      (startBucket (csvRow selected row.key) row latest).Sums row.key.deviceId
        (normalizeIpAddress row.key.remoteIp) (rawRows db.connectionRecords selected row.key) := by
  obtain ⟨o, ho, hkey, hmarker, hgreatest⟩ := exists_latest hrow
  obtain ⟨hfit, hfit', hfit''⟩ := h.fits (hselected o ho)
  obtain ⟨x, hx, hxmarker, hxlatest, hfound⟩ := exists_sample h (hselected o ho)
  have hid : (markerParts row.latestMarker).getD 2 0 = o.sampleConnectionId := by
    rw [hmarker, ConnectionServiceObservation.marker, markerParts_markerText hfit hfit' hfit'']
    rfl
  refine ⟨_, by rw [latestSample, hid, hfound, Option.some_or], ?_⟩
  constructor
  case marker => rfl
  constructor
  case device =>
    rintro y ⟨p, -, hpkey, -, -, -, hdevice, -⟩
    rw [hdevice, ← hpkey]
    rfl
  case latest =>
    refine ⟨x, ⟨⟨o, ho, hkey, hx⟩, ?_⟩, ?_⟩
    · rintro y ⟨p, hp, hpkey, hy⟩
      obtain ⟨z, -, hzmarker, hzlatest, -⟩ := exists_sample h (hselected p hp)
      calc y.marker ≤ z.marker := hzlatest y hy
        _ = p.sampleMarker := hzmarker
        _ ≤ o.sampleMarker :=
          sampleMarker_le (h.fits (hselected o ho)) (h.fits (hselected p hp)) (hgreatest p hp hpkey)
        _ = x.marker := hxmarker.symm
    · simp only [ObservationBucket.digest, startBucket, ServiceValues.withoutHostname,
        ConnectionObservation.values, addressFamily_eq, normalizeIpAddress_idem,
        AggregateRow.normalizedKey]
  case firstSeen =>
    rw [image_rawRows h hselected (fun p y hy => hy.2.2.2.2)]
    exact (seen_bounds hrow).1
  case lastSeen =>
    rw [image_rawRows h hselected (fun p y hy => hy.2.2.2.2)]
    exact (seen_bounds hrow).2
  case scanIds =>
    rw [image_rawRows h hselected (fun p y hy => hy.2.2.1)]
    ext id
    simp only [ObservationBucket.digest, Finset.mem_coe, mem_startBucket_scanIds hrow, keyed,
      Set.mem_image, Set.mem_ofPred_eq, and_assoc]
  case localIps => exact coe_localIpSet h hselected row.key
  case localPorts => exact coe_localPortSet h hselected row.key
  case pids => exact coe_pidSet h hselected row.key

end

end

/-! ## Merging -/

section

variable {deviceId : ℕ} {remoteIp : String} {rows rows' : Set ConnectionObservation}
  {b n : ObservationBucket}

theorem ObservationBucket.Sums.latest (h : b.Sums deviceId remoteIp rows) :
    ∃ o, IsLatest ConnectionObservation.marker rows o ∧ b.latestMarker = o.marker ∧
      b.toServiceValues.withoutHostname = (o.values remoteIp).withoutHostname ∧
      b.remoteIp = remoteIp ∧ b.sourceDeviceId = deviceId := by
  obtain ⟨o, hlatest, hvalues⟩ := h.digest.latest
  have hvalues : b.toServiceValues.withoutHostname = (o.values remoteIp).withoutHostname := hvalues
  have hfields : b.scanTime = o.startedAt ∧ b.scanId = o.scanId ∧ b.id = o.row.id ∧
      b.remoteIp = remoteIp ∧ b.sourceDeviceId = o.deviceId := by
    have hcopy := hvalues
    simp only [ServiceValues.withoutHostname, ConnectionObservation.values,
      ServiceValues.mk.injEq] at hcopy
    obtain ⟨hid, -, -, -, -, hremote, -, -, -, -, -, hsource, hscan, htime⟩ := hcopy
    exact ⟨htime, hscan, hid, hremote, hsource⟩
  obtain ⟨htime, hscan, hid, hremote, hsource⟩ := hfields
  refine ⟨o, hlatest, ?_, hvalues, hremote, hsource.trans (h.digest.device o hlatest.1)⟩
  rw [h.marker, htime, hscan, hid]
  rfl

theorem ObservationBucket.Sums.merge (hb : b.Sums deviceId remoteIp rows)
    (hn : n.Sums deviceId remoteIp rows') : (b.merge n).Sums deviceId remoteIp (rows ∪ rows') := by
  obtain ⟨o, ho, hmarker, hvalues, hremote, hsource⟩ := hb.latest
  obtain ⟨p, hp, hmarker', hvalues', hremote', hsource'⟩ := hn.latest
  have hfirst : (b.merge n).firstSeen = min b.firstSeen n.firstSeen := by
    simp only [ObservationBucket.merge]
    split_ifs with h
    · exact (min_eq_right h.le).symm
    · exact (min_eq_left (not_lt.mp h)).symm
  have hlast : (b.merge n).lastSeen = max b.lastSeen n.lastSeen := by
    simp only [ObservationBucket.merge]
    split_ifs with h
    · exact (max_eq_right h.le).symm
    · exact (max_eq_left (not_lt.mp h)).symm
  by_cases hlater : b.latestMarker < n.latestMarker
  · have hle : o.marker ≤ p.marker := hmarker ▸ hmarker' ▸ hlater.le
    have hmerged : (b.merge n).toServiceValues.withoutHostname =
        n.toServiceValues.withoutHostname := by
      simp [ObservationBucket.merge, hlater, ServiceValues.withoutHostname, hremote, hremote',
        hsource, hsource']
    constructor
    · exact hb.digest.union hn.digest
        ⟨p, ho.union_right hp hle, hmerged.trans hvalues'⟩ hfirst hlast rfl rfl rfl rfl
    · have hm := hn.marker
      simpa [ObservationBucket.merge, hlater] using hm
  · have hle : p.marker ≤ o.marker := hmarker ▸ hmarker' ▸ not_lt.mp hlater
    have hmerged : (b.merge n).toServiceValues.withoutHostname =
        b.toServiceValues.withoutHostname := by
      simp [ObservationBucket.merge, hlater, ServiceValues.withoutHostname]
    constructor
    · exact hb.digest.union hn.digest
        ⟨o, ho.union_left hp hle, hmerged.trans hvalues⟩ hfirst hlast rfl rfl rfl rfl
    · have hm := hb.marker
      simpa [ObservationBucket.merge, hlater] using hm

end

/-! ## The groups -/

/-- The key of an observation's service. -/
def ConnectionServiceObservation.serviceKey (o : ConnectionServiceObservation) : ServiceKey :=
  { o.rawKey with remoteIp := normalizeIpAddress o.remoteIp }

/-- The groups of the observation path. -/
def observationGroups (db : Database) (selected : List ConnectionServiceObservation) :
    Dict ServiceKey ObservationBucket :=
  Dict.collect Prod.fst ObservationBucket.add
    ((aggregateRows selected).filterMap (observationBucket db selected))

/-- The raw rows behind the selected observations of one service. -/
def serviceRows (records : List ConnectionRecord) (selected : List ConnectionServiceObservation)
    (key : ServiceKey) : Set ConnectionObservation :=
  {x | ∃ o ∈ selected, o.serviceKey = key ∧ x ∈ o.rows records}

section

variable {db : Database} {scans : List ScanRun} {selected : List ConnectionServiceObservation}
  (h : SyncedDatabase scans db.connectionRecords db)
  (hselected : ∀ o ∈ selected, o ∈ db.observations)

theorem exists_row {o : ConnectionServiceObservation} (ho : o ∈ selected) :
    ∃ row ∈ aggregateRows selected, row.key = o.rawKey := by
  refine ⟨_, List.mem_map.mpr ⟨(o.rawKey, selected.filter (·.rawKey = o.rawKey)), ?_, rfl⟩, rfl⟩
  exact Grouping.mem_groupBy.mpr ⟨⟨o, ho, rfl⟩, rfl⟩

theorem normalizedKey_of_rawKey {row : AggregateRow} {o : ConnectionServiceObservation}
    (hkey : o.rawKey = row.key) : row.normalizedKey = o.serviceKey := by
  simp only [AggregateRow.normalizedKey, ConnectionServiceObservation.serviceKey, ← hkey]
  rfl

/-- The selected observations of one service. -/
def ofService (selected : List ConnectionServiceObservation) (key : ServiceKey) :
    Set ConnectionServiceObservation :=
  {o | o ∈ selected ∧ o.serviceKey = key}

omit h hselected in
/-- What holds of the bucket of every aggregate row of a service, and of merged buckets, holds of
the bucket of the service. -/
theorem observationGroups_induction {P : Set ConnectionServiceObservation → ObservationBucket → Prop}
    {key : ServiceKey}
    (hrow : ∀ row ∈ aggregateRows selected, row.normalizedKey = key → ∀ b,
      observationBucket db selected row = some (key, b) → P (keyed selected row.key) b)
    (hmerge : ∀ observed observed' b n, P observed b → P observed' n →
      P (observed ∪ observed') (b.merge n))
    (hsome : ∀ row ∈ aggregateRows selected, row.normalizedKey = key →
      (observationBucket db selected row).isSome = true)
    {b : ObservationBucket} (hget : (observationGroups db selected).get? key = some b) :
    P (ofService selected key) b := by
  unfold observationGroups at hget
  rw [Dict.get?_collect, List.filter_filterMap] at hget
  have hitem : ∀ row ∈ aggregateRows selected, ∀ item : ServiceKey × ObservationBucket,
      (observationBucket db selected row).filter (fun i => decide (i.1 = key)) = some item →
        row.normalizedKey = key ∧ P (keyed selected row.key) item.2 := by
    intro row hmem item hg
    obtain ⟨hbucket, hkey⟩ := Option.filter_eq_some_iff.mp hg
    obtain ⟨k, n⟩ := item
    obtain rfl : k = key := by simpa using hkey
    have hnormal := (observationBucket_eq_some hbucket).1.symm
    exact ⟨hnormal, hrow row hmem hnormal n hbucket⟩
  have hfolded : P {o | ∃ row ∈ (aggregateRows selected).filter
      (fun row => ((observationBucket db selected row).filter fun i => decide (i.1 = key)).isSome),
      o ∈ keyed selected row.key} b := by
    refine Dict.folded_induction
      (R := fun seen b => P {o | ∃ row ∈ seen, o ∈ keyed selected row.key} b)
      (List.pairwise_of_forall fun _ _ => trivial) ?_ ?_ hget
    · intro row hmem item hg
      simpa [ObservationBucket.add] using (hitem row hmem item hg).2
    · intro seen b row hmem item hg _ hb
      have hset : {o | ∃ r ∈ seen ++ [row], o ∈ keyed selected r.key} =
          {o | ∃ r ∈ seen, o ∈ keyed selected r.key} ∪ keyed selected row.key := by
        ext o
        simp only [List.mem_append, List.mem_singleton, Set.mem_ofPred_eq, Set.mem_union, or_and_right,
          exists_or, exists_eq_left]
      rw [hset]
      exact hmerge _ _ _ _ hb (hitem row hmem item hg).2
  have hset : {o | ∃ row ∈ (aggregateRows selected).filter
      (fun row => ((observationBucket db selected row).filter fun i => decide (i.1 = key)).isSome),
      o ∈ keyed selected row.key} = ofService selected key := by
    ext o
    constructor
    · rintro ⟨row, hmem, ho, hkey⟩
      obtain ⟨hmem, hbucket⟩ := List.mem_filter.mp hmem
      obtain ⟨item, hitemEq⟩ := Option.isSome_iff_exists.mp hbucket
      exact ⟨ho, (normalizedKey_of_rawKey hkey).symm.trans (hitem row hmem item hitemEq).1⟩
    · rintro ⟨ho, rfl⟩
      obtain ⟨row, hmem, hkey⟩ := exists_row ho
      have hnormal := normalizedKey_of_rawKey hkey.symm
      obtain ⟨⟨k, n⟩, hbucket⟩ := Option.isSome_iff_exists.mp (hsome row hmem hnormal)
      have hk : k = o.serviceKey := (observationBucket_eq_some hbucket).1.trans hnormal
      refine ⟨row, List.mem_filter.mpr ⟨hmem, ?_⟩, ho, hkey.symm⟩
      simp [hbucket, hk]
  rwa [hset] at hfolded

/-- The services are those of the selected observations, loopback addresses aside, as long as
no other row is left out. -/
theorem mem_keys_of_buckets
    (hbucket : ∀ row ∈ aggregateRows selected,
      isLoopbackAddress row.normalizedKey.remoteIp = false →
        (observationBucket db selected row).isSome = true) {key : ServiceKey} :
    key ∈ (observationGroups db selected).keys ↔
      isLoopbackAddress key.remoteIp = false ∧ ∃ o ∈ selected, o.serviceKey = key := by
  unfold observationGroups
  rw [Dict.mem_keys_collect]
  constructor
  · rintro ⟨⟨_, b⟩, hmem, rfl⟩
    obtain ⟨row, hrow, hsome⟩ := List.mem_filterMap.mp hmem
    obtain ⟨hkey, hloop, -⟩ := observationBucket_eq_some hsome
    obtain ⟨o, ho, horaw, -⟩ := exists_latest hrow
    exact ⟨hloop, o, ho, (normalizedKey_of_rawKey horaw).symm.trans hkey.symm⟩
  · rintro ⟨hloop, o, ho, rfl⟩
    obtain ⟨row, hrow, hkey⟩ := exists_row ho
    have hnormal := normalizedKey_of_rawKey hkey.symm
    obtain ⟨⟨k, b⟩, hsome⟩ := Option.isSome_iff_exists.mp (hbucket row hrow (by rwa [hnormal]))
    exact ⟨_, List.mem_filterMap.mpr ⟨row, hrow, hsome⟩,
      (observationBucket_eq_some hsome).1.trans hnormal⟩

include h hselected

/-- Every aggregate row counts, but for the loopback addresses. -/
theorem observationBucket_sums {row : AggregateRow} (hrow : row ∈ aggregateRows selected)
    {key : ServiceKey} (hkey : row.normalizedKey = key) (hloop : isLoopbackAddress key.remoteIp = false) :
    ∃ b, observationBucket db selected row = some (key, b) ∧
      b.Sums key.deviceId key.remoteIp (rawRows db.connectionRecords selected row.key) := by
  obtain ⟨latest, hlatest, hsums⟩ := startBucket_sums h hselected hrow
  subst hkey
  refine ⟨startBucket (csvRow selected row.key) row latest, ?_, hsums⟩
  unfold observationBucket
  simp only [hloop, hlatest, Bool.false_eq_true, if_false, Option.map_some]

theorem mem_keys_observationGroups {key : ServiceKey} :
    key ∈ (observationGroups db selected).keys ↔
      isLoopbackAddress key.remoteIp = false ∧ ∃ o ∈ selected, o.serviceKey = key := by
  apply mem_keys_of_buckets
  intro row hrow hloop
  obtain ⟨b, hbucket, -⟩ := observationBucket_sums h hselected hrow rfl hloop
  rw [hbucket]
  rfl

theorem observationGroups_sums {key : ServiceKey} {b : ObservationBucket}
    (hget : (observationGroups db selected).get? key = some b) :
    b.Sums key.deviceId key.remoteIp (serviceRows db.connectionRecords selected key) := by
  have hloop : isLoopbackAddress key.remoteIp = false :=
    ((mem_keys_observationGroups h hselected).mp (Dict.mem_keys_iff.mpr (by rw [hget]; rfl))).1
  have hsums := observationGroups_induction
    (P := fun observed b => b.Sums key.deviceId key.remoteIp
      {x | ∃ o ∈ observed, x ∈ o.rows db.connectionRecords}) ?_ ?_ ?_ hget
  · have hset : {x | ∃ o ∈ ofService selected key, x ∈ o.rows db.connectionRecords} =
        serviceRows db.connectionRecords selected key := by
      ext x
      simp only [ofService, serviceRows, Set.mem_ofPred_eq, and_assoc]
    rwa [hset] at hsums
  · intro row hrow hkey n hn
    obtain ⟨b', hb', hsums⟩ := observationBucket_sums h hselected hrow hkey hloop
    obtain rfl : b' = n := by simpa using hb'.symm.trans hn
    have hset : {x | ∃ o ∈ keyed selected row.key, x ∈ o.rows db.connectionRecords} =
        rawRows db.connectionRecords selected row.key := by
      ext x
      simp only [keyed, rawRows, Set.mem_ofPred_eq, and_assoc]
    rwa [hset]
  · intro observed observed' b n hb hn
    have hset : {x | ∃ o ∈ observed ∪ observed', x ∈ o.rows db.connectionRecords} =
        {x | ∃ o ∈ observed, x ∈ o.rows db.connectionRecords} ∪
          {x | ∃ o ∈ observed', x ∈ o.rows db.connectionRecords} := by
      ext x
      simp only [Set.mem_union, Set.mem_ofPred_eq, or_and_right, exists_or]
    rw [hset]
    exact hb.merge hn
  · intro row hrow hkey
    obtain ⟨b', hb', -⟩ := observationBucket_sums h hselected hrow hkey hloop
    rw [hb']
    rfl

end

end ConnectionTopology
