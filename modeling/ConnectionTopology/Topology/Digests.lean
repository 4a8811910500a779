import ConnectionTopology.Library.Latest
import ConnectionTopology.Services.TopologyHistory

/-!
# What a group of rows says about its service

The digest of a set of raw rows with one service key: the values of its latest row, the first
and last time, and the sets that were observed. A set of rows has one digest. The plain
aggregation, which visits the rows in their order, makes the digest of every key's rows.
-/
namespace ConnectionTopology

open Latest

/-- A service group apart from its host name. -/
structure Digest where
  values : ServiceValues
  firstSeen : Timestamp
  lastSeen : Timestamp
  scanIds : Finset ℕ
  localIps : Finset String
  localPorts : Finset ℤ
  pids : Finset ℤ

def ServiceValues.withoutHostname (v : ServiceValues) : ServiceValues :=
  { v with remoteHostname := none }

/-- The digest of rows of one device, with the remote address of their key. -/
structure Digest.Of (deviceId : ℕ) (remoteIp : String) (rows : Set ConnectionObservation)
    (d : Digest) : Prop where
  device : ∀ o ∈ rows, o.deviceId = deviceId
  latest : ∃ o, IsLatest ConnectionObservation.marker rows o ∧
    d.values = (o.values remoteIp).withoutHostname
  firstSeen : IsLeast (Set.image ConnectionObservation.startedAt rows) d.firstSeen
  lastSeen : IsGreatest (Set.image ConnectionObservation.startedAt rows) d.lastSeen
  scanIds : (d.scanIds : Set ℕ) = Set.image ConnectionObservation.scanId rows
  localIps : (d.localIps : Set String) = Set.image (fun o => normalizeIpAddress o.row.localIp) rows
  localPorts : (d.localPorts : Set ℤ) = Set.image (fun o => o.row.localPort) rows
  pids : (d.pids : Set ℤ) = {pid | ∃ o ∈ rows, o.row.pid = some pid}

variable {deviceId : ℕ} {remoteIp : String} {rows rows' : Set ConnectionObservation}

theorem Digest.Of.unique (hinj : Set.InjOn ConnectionObservation.marker rows) {d d' : Digest}
    (h : d.Of deviceId remoteIp rows) (h' : d'.Of deviceId remoteIp rows) : d = d' := by
  obtain ⟨o, hlatest, hvalues⟩ := h.latest
  obtain ⟨o', hlatest', hvalues'⟩ := h'.latest
  obtain rfl := hlatest.unique hinj hlatest'
  have hscanIds := h.scanIds.trans h'.scanIds.symm
  have hlocalIps := h.localIps.trans h'.localIps.symm
  have hlocalPorts := h.localPorts.trans h'.localPorts.symm
  have hpids := h.pids.trans h'.pids.symm
  cases d
  cases d'
  simp only [Digest.mk.injEq]
  exact ⟨hvalues.trans hvalues'.symm, h.firstSeen.unique h'.firstSeen,
    h.lastSeen.unique h'.lastSeen, Finset.coe_injective hscanIds, Finset.coe_injective hlocalIps,
    Finset.coe_injective hlocalPorts, Finset.coe_injective hpids⟩

/-- The digest of a union is put together from the digests of its parts. -/
theorem Digest.Of.union {a b c : Digest} (ha : a.Of deviceId remoteIp rows)
    (hb : b.Of deviceId remoteIp rows')
    (hlatest : ∃ o, IsLatest ConnectionObservation.marker (rows ∪ rows') o ∧
      c.values = (o.values remoteIp).withoutHostname)
    (hfirst : c.firstSeen = min a.firstSeen b.firstSeen)
    (hlast : c.lastSeen = max a.lastSeen b.lastSeen) (hscans : c.scanIds = a.scanIds ∪ b.scanIds)
    (hips : c.localIps = a.localIps ∪ b.localIps)
    (hports : c.localPorts = a.localPorts ∪ b.localPorts) (hpids : c.pids = a.pids ∪ b.pids) :
    c.Of deviceId remoteIp (rows ∪ rows') := by
  constructor
  case device =>
    rintro o (ho | ho)
    · exact ha.device o ho
    · exact hb.device o ho
  case latest => exact hlatest
  case firstSeen =>
    rw [hfirst, Set.image_union]
    exact ha.firstSeen.union hb.firstSeen
  case lastSeen =>
    rw [hlast, Set.image_union]
    exact ha.lastSeen.union hb.lastSeen
  case scanIds => rw [hscans, Finset.coe_union, ha.scanIds, hb.scanIds, Set.image_union]
  case localIps => rw [hips, Finset.coe_union, ha.localIps, hb.localIps, Set.image_union]
  case localPorts => rw [hports, Finset.coe_union, ha.localPorts, hb.localPorts, Set.image_union]
  case pids =>
    rw [hpids, Finset.coe_union, ha.pids, hb.pids]
    ext pid
    simp only [Set.mem_union, Set.mem_ofPred_eq]
    constructor
    · rintro (⟨o, ho, hpid⟩ | ⟨o, ho, hpid⟩)
      · exact ⟨o, Or.inl ho, hpid⟩
      · exact ⟨o, Or.inr ho, hpid⟩
    · rintro ⟨o, ho | ho, hpid⟩
      · exact Or.inl ⟨o, ho, hpid⟩
      · exact Or.inr ⟨o, ho, hpid⟩

/-! ## The plain aggregation -/

theorem startedAt_le_of_marker_le {o p : ConnectionObservation} (h : o.marker ≤ p.marker) :
    o.startedAt ≤ p.startedAt := by
  rcases Prod.Lex.toLex_le_toLex.mp h with hlt | ⟨heq, -⟩
  · exact hlt.le
  · exact heq.le

/-- The digest of one row. -/
def ConnectionObservation.digest (o : ConnectionObservation) (remoteIp : String) : Digest where
  values := (o.values remoteIp).withoutHostname
  firstSeen := o.startedAt
  lastSeen := o.startedAt
  scanIds := {o.scanId}
  localIps := {normalizeIpAddress o.row.localIp}
  localPorts := {o.row.localPort}
  pids := o.row.pid.toFinset

theorem ConnectionObservation.digest_of (o : ConnectionObservation) (remoteIp : String) :
    (o.digest remoteIp).Of o.deviceId remoteIp {o} := by
  constructor
  case device =>
    intro p hp
    rw [Set.mem_singleton_iff.mp hp]
  case latest => exact ⟨o, isLatest_singleton o, rfl⟩
  case firstSeen =>
    rw [Set.image_singleton]
    exact isLeast_singleton
  case lastSeen =>
    rw [Set.image_singleton]
    exact isGreatest_singleton
  case scanIds => simp [ConnectionObservation.digest]
  case localIps => simp [ConnectionObservation.digest]
  case localPorts => simp [ConnectionObservation.digest]
  case pids =>
    ext pid
    simp [ConnectionObservation.digest]

def Bucket.digest (b : Bucket) : Digest where
  values := b.toServiceValues.withoutHostname
  firstSeen := b.firstSeen
  lastSeen := b.lastSeen
  scanIds := b.scanIds
  localIps := b.localIps
  localPorts := b.localPorts
  pids := b.pids

/-- What the loop has made of the rows of a key. -/
structure Bucket.Sums (current : List ℕ) (key : ServiceKey) (rows : Set ConnectionObservation)
    (b : Bucket) : Prop where
  digest : b.digest.Of key.deviceId key.remoteIp rows
  isCurrent : b.isCurrent = true ↔ ∃ id ∈ b.scanIds, id ∈ current

theorem Bucket.sums_observe_none (current : List ℕ) {key : ServiceKey} {o : ConnectionObservation}
    (hdevice : o.deviceId = key.deviceId) :
    (Bucket.observe current none (key, o)).Sums current key {o} := by
  constructor
  case digest =>
    rw [← hdevice]
    exact o.digest_of key.remoteIp
  case isCurrent => simp [Bucket.observe]

/-- A later row takes the values over. -/
theorem Bucket.Sums.observe {current : List ℕ} {key : ServiceKey} {b : Bucket}
    (h : b.Sums current key rows) {o : ConnectionObservation} (hdevice : o.deviceId = key.deviceId)
    (hlater : ∀ p ∈ rows, p.marker ≤ o.marker) :
    (Bucket.observe current (some b) (key, o)).Sums current key (rows ∪ {o}) := by
  obtain ⟨p, hp, hvalues⟩ := h.digest.latest
  have hsource : b.sourceDeviceId = o.deviceId := by
    have hb : b.digest.values.sourceDeviceId = p.deviceId := by
      rw [hvalues]
      rfl
    exact hb.trans ((h.digest.device p hp.1).trans hdevice.symm)
  have hsingle := o.digest_of key.remoteIp
  rw [hdevice] at hsingle
  constructor
  case digest =>
    apply h.digest.union hsingle
    · refine ⟨o, hp.union_right (isLatest_singleton o) (hlater p hp.1), ?_⟩
      simp only [Bucket.digest, Bucket.observe, ServiceValues.withoutHostname, hsource]
      rfl
    · obtain ⟨q, hq, hfirst⟩ := h.digest.firstSeen.1
      have hle : b.firstSeen ≤ o.startedAt := by
        rw [show b.firstSeen = q.startedAt from hfirst.symm]
        exact startedAt_le_of_marker_le (hlater q hq)
      exact (min_eq_left hle).symm
    · obtain ⟨q, hq, hlast⟩ := h.digest.lastSeen.1
      have hle : b.lastSeen ≤ o.startedAt := by
        rw [show b.lastSeen = q.startedAt from hlast.symm]
        exact startedAt_le_of_marker_le (hlater q hq)
      exact (max_eq_right hle).symm
    · simp only [Bucket.digest, Bucket.observe, ConnectionObservation.digest]
      rw [Finset.union_comm, Finset.insert_eq]
    · simp only [Bucket.digest, Bucket.observe, ConnectionObservation.digest]
      rw [Finset.union_comm, Finset.insert_eq]
      rfl
    · simp only [Bucket.digest, Bucket.observe, ConnectionObservation.digest]
      rw [Finset.union_comm, Finset.insert_eq]
    · rfl
  case isCurrent =>
    simp only [Bucket.observe, Bool.or_eq_true, h.isCurrent, decide_eq_true_eq, Finset.mem_insert]
    constructor
    · rintro (⟨id, hid, hcurrent⟩ | hcurrent)
      · exact ⟨id, Or.inr hid, hcurrent⟩
      · exact ⟨o.scanId, Or.inl rfl, hcurrent⟩
    · rintro ⟨id, rfl | hid, hcurrent⟩
      · exact Or.inr hcurrent
      · exact Or.inl ⟨id, hid, hcurrent⟩

theorem deviceId_of_key? {o : ConnectionObservation} {key : ServiceKey} (h : o.key? = some key) :
    o.deviceId = key.deviceId := by
  unfold ConnectionObservation.key? at h
  split at h
  · cases h
  · split_ifs at h
    cases h
    rfl

/-- The groups of the plain aggregation. -/
def plainGroups (observations : List ConnectionObservation) (current : List ℕ) :
    Dict ServiceKey Bucket :=
  Dict.collect Prod.fst (Bucket.observe current)
    ((observations.insertionSort fun a b => a.marker ≤ b.marker).filterMap fun o =>
      o.key?.map (·, o))

theorem mem_keys_plainGroups {observations : List ConnectionObservation} {current : List ℕ}
    {key : ServiceKey} :
    key ∈ (plainGroups observations current).keys ↔ ∃ o ∈ observations, o.key? = some key := by
  unfold plainGroups
  rw [Dict.mem_keys_collect]
  simp only [List.mem_filterMap, List.mem_insertionSort, Option.map_eq_some_iff]
  constructor
  · rintro ⟨_, ⟨o, ho, k, hk, rfl⟩, rfl⟩
    exact ⟨o, ho, hk⟩
  · rintro ⟨o, ho, hk⟩
    exact ⟨(key, o), ⟨o, ho, key, hk, rfl⟩, rfl⟩

theorem plainGroups_sums {observations : List ConnectionObservation} {current : List ℕ}
    {key : ServiceKey} {b : Bucket} (h : (plainGroups observations current).get? key = some b) :
    b.Sums current key {o | o ∈ observations ∧ o.key? = some key} := by
  unfold plainGroups at h
  rw [Dict.get?_collect, List.filter_filterMap] at h
  have hitem : ∀ (o : ConnectionObservation) (item : ServiceKey × ConnectionObservation),
      (o.key?.map (·, o)).filter (fun i => decide (i.1 = key)) = some item ↔
        o.key? = some key ∧ item = (key, o) := by
    intro o item
    rw [Option.filter_eq_some_iff, Option.map_eq_some_iff]
    constructor
    · rintro ⟨⟨k, hk, rfl⟩, hkey⟩
      obtain rfl : k = key := by simpa using hkey
      exact ⟨hk, rfl⟩
    · rintro ⟨hk, rfl⟩
      exact ⟨⟨key, hk, rfl⟩, by simp⟩
  have hsums : b.Sums current key
      {o | o ∈ (observations.insertionSort fun a b => a.marker ≤ b.marker).filter
        (fun o => ((o.key?.map (·, o)).filter fun i => decide (i.1 = key)).isSome)} := by
    refine Dict.folded_induction (R := fun seen b => b.Sums current key {o | o ∈ seen})
      (List.pairwise_insertionSort (fun a b => a.marker ≤ b.marker) observations) ?_ ?_ h
    · intro o _ item hg
      obtain ⟨hk, rfl⟩ := (hitem o item).mp hg
      simpa using Bucket.sums_observe_none current (deviceId_of_key? hk)
    · intro seen b o _ item hg hseen hb
      obtain ⟨hk, rfl⟩ := (hitem o item).mp hg
      have hset : {p | p ∈ seen ++ [o]} = {p | p ∈ seen} ∪ {o} := by
        ext p
        simp [or_comm]
      rw [hset]
      exact hb.observe (deviceId_of_key? hk) fun p hp => (hseen p hp).2
  have hset : {o | o ∈ (observations.insertionSort fun a b => a.marker ≤ b.marker).filter
      (fun o => ((o.key?.map (·, o)).filter fun i => decide (i.1 = key)).isSome)} =
      {o | o ∈ observations ∧ o.key? = some key} := by
    ext o
    simp only [Set.mem_ofPred_eq, List.mem_filter, List.mem_insertionSort,
      Option.isSome_iff_exists, hitem, exists_and_left]
    simp
  rwa [hset] at hsums

end ConnectionTopology
