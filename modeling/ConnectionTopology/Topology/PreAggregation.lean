import ConnectionTopology.Topology.ObservationDigests

/-!
# The pre-aggregated history agrees with the plain one

Both paths make digests of the same raw rows: the rows behind the selected observations are the
rows of the scans that the window keeps. Their keys differ where a row has no remote port, which
the observations keep as zero; no other row has that port.
-/
namespace ConnectionTopology

variable {db : Database} {scans : List ScanRun} {deviceIds current : List ℕ}
  {cutoff : Option Timestamp}

/-- A service without `remote_hostname`. -/
def Service.withoutHostname (s : Service) : Service :=
  { s with remoteHostname := none }

/-- The service of a digest. -/
def Digest.service (currentScanIds : List ℕ) (d : Digest) : Service :=
  { d.values with
    isCurrent := decide (∃ id ∈ d.scanIds, id ∈ currentScanIds)
    firstSeen := d.firstSeen
    lastSeen := d.lastSeen
    observationCount := d.scanIds.card
    observedLocalIps := d.localIps.sort
    observedLocalPorts := d.localPorts.sort
    observedPids := d.pids.sort }

theorem ObservationBucket.service_withoutHostname (current : List ℕ) (b : ObservationBucket) :
    (b.service current).withoutHostname = b.digest.service current := rfl

theorem Bucket.Sums.service_withoutHostname {key : ServiceKey} {rows : Set ConnectionObservation}
    {b : Bucket} (h : b.Sums current key rows) :
    b.service.withoutHostname = b.digest.service current := by
  have hcurrent : b.isCurrent = decide (∃ id ∈ b.scanIds, id ∈ current) := by
    rw [Bool.eq_iff_iff, decide_eq_true_eq]
    exact h.isCurrent
  simp only [Bucket.service, Service.withoutHostname, Digest.service, Bucket.digest, hcurrent]
  rfl

/-- The key under which the observations of a service are grouped. -/
def ServiceKey.encoded (key : ServiceKey) : ServiceKey :=
  { key with remotePort := some (key.remotePort.getD 0) }

/-- The scans that a window keeps. -/
def keptScans (deviceIds current : List ℕ) (cutoff : Option Timestamp) (scans : List ScanRun) :
    List ScanRun :=
  scans.filter fun s => keepsScan deviceIds current cutoff s.deviceId s.id s.startedAt

/-- The observations that a window keeps. -/
def keptObservations (deviceIds current : List ℕ) (cutoff : Option Timestamp) (db : Database) :
    List ConnectionServiceObservation :=
  db.observations.filter (observationConditions deviceIds current cutoff {})

theorem mem_connectionObservations {x : ConnectionObservation} :
    x ∈ connectionObservations scans db ↔
      ∃ scan ∈ scans, x.row ∈ db.connectionRecords ∧ x.row.scanRunId = scan.id ∧
        x.scanId = scan.id ∧ x.deviceId = scan.deviceId ∧ x.startedAt = scan.startedAt := by
  simp only [connectionObservations, ScanRun.connections, List.mem_flatMap, List.mem_map,
    List.mem_filter, decide_eq_true_eq]
  constructor
  · rintro ⟨scan, hscan, row, ⟨hrow, hid⟩, rfl⟩
    exact ⟨scan, hscan, hrow, hid, rfl, rfl, rfl⟩
  · rintro ⟨scan, hscan, hrow, hid, hscanId, hdevice, hstarted⟩
    refine ⟨scan, hscan, x.row, ⟨hrow, hid⟩, ?_⟩
    rw [← hscanId, ← hdevice, ← hstarted]

theorem mem_keptObservations {o : ConnectionServiceObservation} :
    o ∈ keptObservations deviceIds current cutoff db ↔
      o ∈ db.observations ∧
        keepsScan deviceIds current cutoff o.deviceId o.scanRunId o.startedAt = true := by
  simp [keptObservations, observationConditions, Narrowing.admits]

/-- The key of a row that is not skipped. -/
theorem key?_eq_some {x : ConnectionObservation} {remoteIp : String}
    (hremote : x.row.remoteIp = some remoteIp) {key : ServiceKey} :
    x.key? = some key ↔ isLoopbackAddress remoteIp = false ∧
      key = { deviceId := x.deviceId
              protocol := x.row.protocol
              remoteIp := normalizeIpAddress remoteIp
              remotePort := x.row.remotePort
              processName := x.row.processName.getD "" } := by
  unfold ConnectionObservation.key?
  simp only [hremote, Option.ite_none_left_eq_some, Option.some.injEq, Bool.not_eq_true]
  exact and_congr_right fun _ => eq_comm

/-- The rows behind an observation have its key. -/
theorem encoded_eq_serviceKey {records : List ConnectionRecord} {o : ConnectionServiceObservation}
    {x : ConnectionObservation} (hx : x ∈ o.rows records) {key : ServiceKey}
    (hkey : x.key? = some key) : key.encoded = o.serviceKey := by
  obtain ⟨-, hcovers, -, hdevice, -⟩ := hx
  obtain ⟨-, rfl⟩ := (key?_eq_some hcovers.remoteIp).mp hkey
  simp only [ServiceKey.encoded, ConnectionServiceObservation.serviceKey,
    ConnectionServiceObservation.rawKey, hdevice, hcovers.protocol, hcovers.remotePort,
    hcovers.processName]

section

variable (h : SyncedDatabase scans db.connectionRecords db)
  (hsuccess : ∀ s ∈ scans, s.status = .success)

include h

theorem mem_connectionObservations_of_rows {o : ConnectionServiceObservation}
    (ho : o ∈ keptObservations deviceIds current cutoff db) {x : ConnectionObservation}
    (hx : x ∈ o.rows db.connectionRecords) :
    x ∈ connectionObservations (keptScans deviceIds current cutoff scans) db := by
  obtain ⟨hdb, hkept⟩ := mem_keptObservations.mp ho
  obtain ⟨scan, hscan, -, -, hfrom⟩ := h.syncedFrom hdb
  obtain ⟨hrow, hcovers, hscanId, hdevice, hstarted⟩ := hx
  rw [hfrom.scanId, hfrom.device, hfrom.startedAt] at hkept
  exact mem_connectionObservations.mpr ⟨scan, List.mem_filter.mpr ⟨hscan, hkept⟩, hrow,
    hcovers.scan.trans hfrom.scanId, hscanId.trans hfrom.scanId, hdevice.trans hfrom.device,
    hstarted.trans hfrom.startedAt⟩

include hsuccess

theorem exists_rows_of_mem_connectionObservations {x : ConnectionObservation}
    (hx : x ∈ connectionObservations (keptScans deviceIds current cutoff scans) db)
    {remoteIp : String} (hremote : x.row.remoteIp = some remoteIp) :
    ∃ o ∈ keptObservations deviceIds current cutoff db, x ∈ o.rows db.connectionRecords := by
  obtain ⟨scan, hmem, hrow, hrun, hscanId, hdevice, hstarted⟩ := mem_connectionObservations.mp hx
  obtain ⟨hscan, hkept⟩ := List.mem_filter.mp hmem
  obtain ⟨o, ho, hfrom, hcovers⟩ :=
    h.exists_covers hscan (hsuccess scan hscan) hrow hrun hremote
  refine ⟨o, mem_keptObservations.mpr ⟨ho, ?_⟩, hrow, hcovers, ?_, ?_, ?_⟩
  · rw [hfrom.scanId, hfrom.device, hfrom.startedAt]
    exact hkept
  · exact hscanId.trans hfrom.scanId.symm
  · exact hdevice.trans hfrom.device.symm
  · exact hstarted.trans hfrom.startedAt.symm

/-- The rows behind the kept observations are the rows of the kept scans. -/
theorem mem_serviceRows {key : ServiceKey} (hloop : isLoopbackAddress key.remoteIp = false)
    {x : ConnectionObservation} :
    x ∈ serviceRows db.connectionRecords (keptObservations deviceIds current cutoff db) key ↔
      x ∈ connectionObservations (keptScans deviceIds current cutoff scans) db ∧
        ∃ k, x.key? = some k ∧ k.encoded = key := by
  constructor
  · rintro ⟨o, ho, rfl, hx⟩
    refine ⟨mem_connectionObservations_of_rows h ho hx, ?_⟩
    have hloop : isLoopbackAddress o.remoteIp = false := by
      simpa [ConnectionServiceObservation.serviceKey] using hloop
    have hkey := (key?_eq_some hx.2.1.remoteIp).mpr ⟨hloop, rfl⟩
    exact ⟨_, hkey, encoded_eq_serviceKey hx hkey⟩
  · rintro ⟨hx, k, hk, rfl⟩
    cases hremote : x.row.remoteIp with
    | none => simp [ConnectionObservation.key?, hremote] at hk
    | some remoteIp =>
      obtain ⟨o, ho, hrows⟩ := exists_rows_of_mem_connectionObservations h hsuccess hx hremote
      exact ⟨o, ho, (encoded_eq_serviceKey hrows hk).symm, hrows⟩

omit hsuccess

/-- No row has the port zero, so the encoded keys are as distinct as the keys. -/
theorem encoded_injOn {x y : ConnectionObservation} (hx : x ∈ connectionObservations scans db)
    (hy : y ∈ connectionObservations scans db) {k l : ServiceKey} (hk : x.key? = some k)
    (hl : y.key? = some l) (hkl : k.encoded = l.encoded) : k = l := by
  have hport : ∀ z ∈ connectionObservations scans db, ∀ m, z.key? = some m →
      ∀ p, m.remotePort = some p → 0 < p := by
    intro z hz m hm p hp
    obtain ⟨scan, hscan, hrow, hrun, -⟩ := mem_connectionObservations.mp hz
    have hwell := h.wellFormed scan hscan z.row hrow hrun
    cases hremote : z.row.remoteIp with
    | none => simp [ConnectionObservation.key?, hremote] at hm
    | some remoteIp =>
      obtain ⟨-, rfl⟩ := (key?_eq_some hremote).mp hm
      exact hwell.remotePort p hp
  have hkport := hport x hx k hk
  have hlport := hport y hy l hl
  cases k
  cases l
  simp only [ServiceKey.encoded, ServiceKey.mk.injEq, Option.some.injEq] at hkl ⊢
  obtain ⟨hdevice, hprotocol, hremote, hports, hprocess⟩ := hkl
  refine ⟨hdevice, hprotocol, hremote, ?_, hprocess⟩
  rename_i p _ _ _ _ q _
  dsimp only at hkport hlport
  cases p with
  | none =>
    cases q with
    | none => rfl
    | some q =>
      have hpos := hlport q rfl
      simp only [Option.getD_none, Option.getD_some] at hports
      omega
  | some p =>
    have hpos := hkport p rfl
    cases q with
    | none =>
      simp only [Option.getD_none, Option.getD_some] at hports
      omega
    | some q => simpa using hports

/-- A marker belongs to one row. -/
theorem marker_injOn : Set.InjOn ConnectionObservation.marker
    {x | x ∈ connectionObservations scans db} := by
  intro x hx y hy hmarker
  obtain ⟨scan, hscan, hrow, hrun, hscanId, hdevice, hstarted⟩ := mem_connectionObservations.mp hx
  obtain ⟨scan', hscan', hrow', hrun', hscanId', hdevice', hstarted'⟩ :=
    mem_connectionObservations.mp hy
  have hid : x.row.id = y.row.id := congrArg (fun m => (ofLex (ofLex m).2).2) hmarker
  have hrows : x.row = y.row := List.inj_on_of_nodup_map h.recordIds hrow hrow' hid
  have hscans : scan = scan' := by
    apply List.inj_on_of_nodup_map h.scanIds (h.known scan hscan) (h.known scan' hscan')
    rw [← hrun, ← hrun', hrows]
  subst hscans
  cases x
  cases y
  simp only [ConnectionObservation.mk.injEq]
  exact ⟨hscanId.trans hscanId'.symm, hdevice.trans hdevice'.symm, hstarted.trans hstarted'.symm,
    hrows⟩

include hsuccess in
/-- The groups of the two paths correspond, and say the same. -/
theorem groups_agree :
    ((plainGroups (connectionObservations (keptScans deviceIds current cutoff scans) db)
        current).entries.map fun e => e.2.service.withoutHostname).Perm
      ((observationGroups db (keptObservations deviceIds current cutoff db)).entries.map fun e =>
        (e.2.service current).withoutHostname) := by
  have hselected : ∀ o ∈ keptObservations deviceIds current cutoff db, o ∈ db.observations :=
    fun o ho => (mem_keptObservations.mp ho).1
  have hkept : ∀ x ∈ connectionObservations (keptScans deviceIds current cutoff scans) db,
      x ∈ connectionObservations scans db := by
    intro x hx
    obtain ⟨scan, hscan, hrest⟩ := mem_connectionObservations.mp hx
    exact mem_connectionObservations.mpr ⟨scan, List.mem_of_mem_filter hscan, hrest⟩
  have hinj : ∀ x ∈ connectionObservations (keptScans deviceIds current cutoff scans) db,
      ∀ y ∈ connectionObservations (keptScans deviceIds current cutoff scans) db, ∀ k l,
      x.key? = some k → y.key? = some l → k.encoded = l.encoded → k = l :=
    fun x hx y hy k l hk hl => encoded_injOn h (hkept x hx) (hkept y hy) hk hl
  have hloop : ∀ (x : ConnectionObservation) (k : ServiceKey), x.key? = some k →
      isLoopbackAddress k.encoded.remoteIp = false := by
    intro x k hk
    cases hremote : x.row.remoteIp with
    | none => simp [ConnectionObservation.key?, hremote] at hk
    | some remoteIp =>
      obtain ⟨hloop, rfl⟩ := (key?_eq_some hremote).mp hk
      simpa [ServiceKey.encoded] using hloop
  apply Dict.perm_map_values ServiceKey.encoded (fun b : Bucket => b.service.withoutHostname)
    fun b : ObservationBucket => (b.service current).withoutHostname
  · intro k hk l hl hkl
    obtain ⟨x, hx, hxk⟩ := mem_keys_plainGroups.mp hk
    obtain ⟨y, hy, hyl⟩ := mem_keys_plainGroups.mp hl
    exact hinj x hx y hy k l hxk hyl hkl
  · intro key
    rw [mem_keys_observationGroups h hselected]
    constructor
    · rintro ⟨hkeyLoop, o, ho, rfl⟩
      obtain ⟨x, hx, -⟩ := exists_sample h (hselected o ho)
      obtain ⟨hmem, k, hk, hencoded⟩ :=
        (mem_serviceRows h hsuccess hkeyLoop).mp ⟨o, ho, rfl, hx⟩
      exact ⟨k, mem_keys_plainGroups.mpr ⟨x, hmem, hk⟩, hencoded⟩
    · rintro ⟨k, hk, rfl⟩
      obtain ⟨x, hx, hxk⟩ := mem_keys_plainGroups.mp hk
      have hkeyLoop := hloop x k hxk
      obtain ⟨o, ho, hkey, -⟩ := (mem_serviceRows h hsuccess hkeyLoop).mpr ⟨hx, k, hxk, rfl⟩
      exact ⟨hkeyLoop, o, ho, hkey⟩
  · intro k b b' hb hb'
    obtain ⟨x, hx, hxk⟩ := mem_keys_plainGroups.mp (Dict.mem_keys_iff.mpr (by rw [hb]; rfl))
    have hplain := plainGroups_sums hb
    have hgrouped := observationGroups_sums h hselected hb'
    have hrows : serviceRows db.connectionRecords (keptObservations deviceIds current cutoff db)
        k.encoded =
        {o | o ∈ connectionObservations (keptScans deviceIds current cutoff scans) db ∧
          o.key? = some k} := by
      ext y
      rw [mem_serviceRows h hsuccess (hloop x k hxk)]
      refine and_congr_right fun hy => ?_
      constructor
      · rintro ⟨l, hl, hlk⟩
        rw [hl, hinj y hy x hx l k hl hxk hlk]
      · exact fun hk => ⟨k, hk, rfl⟩
    rw [hrows] at hgrouped
    have hmarker : Set.InjOn ConnectionObservation.marker
        {o | o ∈ connectionObservations (keptScans deviceIds current cutoff scans) db ∧
          o.key? = some k} :=
      (marker_injOn h).mono fun y hy => hkept y hy.1
    have hdigest : b.digest = b'.digest := hplain.digest.unique hmarker hgrouped.digest
    rw [hplain.service_withoutHostname, b'.service_withoutHostname, hdigest]

include hsuccess in
/-- The observations and the raw rows of the same scans give the same services. -/
theorem preaggregated_history_agrees (str str' : ServiceKey → String) (deviceIds current : List ℕ)
    (cutoff : Option Timestamp) :
    ((aggregateObservationGroups str deviceIds current cutoff {} db).map
        Service.withoutHostname).Perm
      ((aggregateServiceConnections str'
        (scans.filter fun s => keepsScan deviceIds current cutoff s.deviceId s.id s.startedAt)
        current db).map Service.withoutHostname) := by
  have hobserved : ((aggregateObservationGroups str deviceIds current cutoff {} db).map
      Service.withoutHostname).Perm
      ((observationGroups db (keptObservations deviceIds current cutoff db)).entries.map fun e =>
        (e.2.service current).withoutHostname) := by
    unfold aggregateObservationGroups aggregateSelected sortedByKey
    rw [List.map_map]
    exact (List.perm_insertionSort _ _).map _
  have hplain : ((aggregateServiceConnections str' (keptScans deviceIds current cutoff scans)
      current db).map Service.withoutHostname).Perm
      ((plainGroups (connectionObservations (keptScans deviceIds current cutoff scans) db)
        current).entries.map fun e => e.2.service.withoutHostname) := by
    unfold aggregateServiceConnections aggregateConnectionObservations sortedByKey
    rw [List.map_map]
    exact (List.perm_insertionSort _ _).map _
  exact hobserved.trans ((groups_agree h hsuccess).symm.trans hplain.symm)

end

/-- Two scans of one device at the same time, with two spellings of an address, a connection
without a remote port and two connections of one service. -/
def spelledScans : Database where
  devices := [{ id := 1, name := "web-01", host := "10.0.0.10" }]
  scanRuns := [{ id := 1, deviceId := 1, status := .success, startedAt := 10 },
    { id := 2, deviceId := 1, status := .success, startedAt := 10 }]
  connectionRecords := [(1, 1, "10.0.0.20", some 443), (2, 1, "10.0.0.20", some 443),
    (3, 2, "::ffff:10.0.0.20", some 443), (4, 2, "10.0.0.30", none)].map fun r =>
      { id := r.1, scanRunId := r.2.1, protocol := "tcp", localIp := "10.0.0.10",
        localPort := 50000 + r.1, remoteIp := some r.2.2.1, remotePort := r.2.2.2 }

theorem spelledScans_synced : SyncedDatabase spelledScans.scanRuns spelledScans.connectionRecords
    (syncAll spelledScans.scanRuns spelledScans) := by
  constructor
  case scanIds => decide +kernel
  case recordIds => decide +kernel
  case known => decide +kernel
  case present => decide +kernel
  case wellFormed =>
    intro _ _ r hr _
    obtain ⟨row, hrow, rfl⟩ := List.mem_map.mp hr
    refine ⟨by simp, by simp, ?_, by simp⟩
    simp only [List.mem_cons, List.not_mem_nil, or_false] at hrow
    rcases hrow with rfl | rfl | rfl | rfl <;> simp
  case scanFits => decide +kernel
  case recordFits => decide +kernel
  case synced => decide +kernel

theorem spelled_scans_agree :
    ((aggregateObservationGroups ServiceKey.remoteIp [1] [2] (some 5) {}
        (syncAll spelledScans.scanRuns spelledScans)).map Service.withoutHostname).Perm
      ((aggregateServiceConnections ServiceKey.remoteIp (spelledScans.scanRuns.filter fun s =>
          keepsScan [1] [2] (some 5) s.deviceId s.id s.startedAt) [2]
        (syncAll spelledScans.scanRuns spelledScans)).map Service.withoutHostname) :=
  preaggregated_history_agrees spelledScans_synced (by decide +kernel) ServiceKey.remoteIp
    ServiceKey.remoteIp [1] [2] (some 5)

end ConnectionTopology
