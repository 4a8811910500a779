import ConnectionTopology.Library.Chunks
import ConnectionTopology.Services.Purge

/-!
# The purges, chunk by chunk and at once

A round of either loop takes a prefix of the identifiers that are still to come. Where the scans
vanish, the next round finds the rest by the same query; where they stay, the watermark leaves
exactly the rest. Either way the rounds add up to one statement over all identifiers.
-/
namespace ConnectionTopology

variable {db : Database}

/-! ## Deleting scans -/

theorem deleteScanRuns_congr {ids ids' : List ℕ} (h : ∀ id, id ∈ ids ↔ id ∈ ids') :
    deleteScanRuns ids db = deleteScanRuns ids' db := by
  have hmem : ∀ id, decide (id ∉ ids) = decide (id ∉ ids') := by
    intro id
    rw [decide_eq_decide, h id]
  simp only [deleteScanRuns, hmem]

theorem deleteScanRuns_nil : deleteScanRuns [] db = db := by
  have htasks : db.scanTasks.map (fun t => { t with scanRunId := t.scanRunId.filter fun _ => true }) =
      db.scanTasks := by
    apply List.map_id''
    intro t
    have hrun : t.scanRunId.filter (fun _ => true) = t.scanRunId := by
      cases t.scanRunId <;> rfl
    rw [hrun]
  simp [deleteScanRuns, htasks]

theorem deleteScanRuns_deleteScanRuns (ids ids' : List ℕ) :
    deleteScanRuns ids' (deleteScanRuns ids db) = deleteScanRuns (ids ++ ids') db := by
  have hmem : ∀ id, (decide (id ∉ ids') && decide (id ∉ ids)) = decide (id ∉ ids ++ ids') := by
    intro id
    rw [Bool.eq_iff_iff]
    simp only [Bool.and_eq_true, decide_eq_true_eq, List.mem_append, not_or]
    exact and_comm
  have hmem' : ∀ id, (decide (id ∉ ids) && decide (id ∉ ids')) = decide (id ∉ ids ++ ids') := by
    intro id
    rw [Bool.and_comm, hmem]
  simp only [deleteScanRuns, List.filter_filter, hmem, List.map_map]
  congr 1
  apply List.map_congr_left
  intro t _
  simp only [Function.comp_apply, Option.filter_filter, hmem']

/-- Scans with distinct identifiers are deleted as they are selected. -/
theorem filter_notMem_ids {scans : List ScanRun} (hids : (scans.map (·.id)).Nodup)
    (p : ScanRun → Bool) :
    scans.filter (fun s => s.id ∉ (scans.filter p).map (·.id)) = scans.filter fun s => !p s := by
  apply List.filter_congr
  intro s hs
  rw [Bool.eq_iff_iff, decide_eq_true_eq, Bool.not_eq_true']
  constructor
  · intro hnot
    by_contra hp
    exact hnot (List.mem_map.mpr ⟨s, List.mem_filter.mpr ⟨hs, by simpa using hp⟩, rfl⟩)
  · intro hp hmem
    obtain ⟨t, ht, hid⟩ := List.mem_map.mp hmem
    obtain ⟨ht, hpt⟩ := List.mem_filter.mp ht
    rw [List.inj_on_of_nodup_map hids ht hs hid, hp] at hpt
    cases hpt

theorem countP_split {α : Type} (l : List α) {p q : α → Bool} (h : ∀ a ∈ l, q a = true → p a = true) :
    l.countP p = l.countP q + (l.filter fun a => !q a).countP p := by
  rw [List.countP_eq_countP_filter_add l p q]
  congr 1
  rw [List.countP_filter]
  apply List.countP_congr
  intro a ha
  simp only [Bool.and_eq_true]
  exact ⟨And.right, fun hq => ⟨h a ha hq, hq⟩⟩

/-- The rounds delete the selected scans, and count them. -/
theorem deleteScansInChunks_spec {p : ScanRun → Bool} {chunkSize : ℕ} (hsize : 1 ≤ chunkSize) :
    ∀ (rounds deleted : ℕ) (db : Database), (db.scanRuns.map (·.id)).Nodup →
      (db.scanRuns.filter p).length < rounds →
      deleteScansInChunks p chunkSize rounds deleted db =
        some (deleted + db.scanRuns.countP p,
          deleteScanRuns ((db.scanRuns.filter p).map (·.id)) db) := by
  intro rounds
  induction rounds with
  | zero => exact fun _ _ _ h => absurd h (Nat.not_lt_zero _)
  | succ rounds ih =>
    intro deleted db hids hrounds
    have hchunk : ∀ id ∈ (((db.scanRuns.filter p).map (·.id)).insertionSort (· ≤ ·)).take chunkSize,
        ∃ s ∈ db.scanRuns.filter p, s.id = id := by
      intro id hid
      exact List.mem_map.mp ((List.mem_insertionSort _).mp (List.mem_of_mem_take hid))
    have hempty : (((db.scanRuns.filter p).map (·.id)).insertionSort (· ≤ ·)).take chunkSize = [] →
        db.scanRuns.filter p = [] := by
      intro hnil
      have hlength := congrArg List.length hnil
      rw [List.length_take, List.length_insertionSort, List.length_map, List.length_nil] at hlength
      exact List.length_eq_zero_iff.mp (by omega)
    unfold deleteScansInChunks
    generalize (((db.scanRuns.filter p).map (·.id)).insertionSort (· ≤ ·)).take chunkSize = chunk
      at hchunk hempty ⊢
    dsimp only
    split_ifs with hnil
    · have hnone := hempty hnil
      rw [hnone, List.map_nil, deleteScanRuns_nil, List.countP_eq_length_filter, hnone]
      rfl
    · have hsub : ∀ s ∈ db.scanRuns, decide (s.id ∈ chunk) = true → p s = true := by
        intro s hs hid
        obtain ⟨t, ht, htid⟩ := hchunk s.id (of_decide_eq_true hid)
        obtain ⟨ht, hpt⟩ := List.mem_filter.mp ht
        rwa [← List.inj_on_of_nodup_map hids ht hs htid]
      have hscans : (deleteScanRuns chunk db).scanRuns =
          db.scanRuns.filter fun s => !decide (s.id ∈ chunk) := by
        simp [deleteScanRuns]
      have hrest : (deleteScanRuns chunk db).scanRuns.filter p =
          (db.scanRuns.filter p).filter fun s => !decide (s.id ∈ chunk) := by
        rw [hscans, List.filter_comm]
      have hfewer : ((deleteScanRuns chunk db).scanRuns.filter p).length <
          (db.scanRuns.filter p).length := by
        obtain ⟨id, hid⟩ := List.exists_mem_of_ne_nil _ hnil
        obtain ⟨s, hs, rfl⟩ := hchunk id hid
        rw [hrest]
        apply List.length_filter_lt_length_iff_exists.mpr
        exact ⟨s, hs, by simpa using hid⟩
      rw [ih _ _ (by rw [hscans]; exact hids.sublist (List.filter_sublist.map _)) (by omega)]
      have hcount := countP_split db.scanRuns hsub
      rw [← hscans] at hcount
      rw [hcount, Nat.add_assoc, deleteScanRuns_deleteScanRuns]
      congr 2
      apply deleteScanRuns_congr
      intro id
      rw [List.mem_append, hrest]
      constructor
      · rintro (hid | hid)
        · obtain ⟨s, hs, rfl⟩ := hchunk id hid
          exact List.mem_map.mpr ⟨s, hs, rfl⟩
        · obtain ⟨s, hs, rfl⟩ := List.mem_map.mp hid
          exact List.mem_map.mpr ⟨s, List.mem_of_mem_filter hs, rfl⟩
      · intro hid
        obtain ⟨s, hs, rfl⟩ := List.mem_map.mp hid
        by_cases hin : s.id ∈ chunk
        · exact Or.inl hin
        · exact Or.inr (List.mem_map.mpr ⟨s, List.mem_filter.mpr ⟨hs, by simpa using hin⟩, rfl⟩)

/-! ## The groups of devices -/

/-- The cutoff of a retention. -/
def retentionCutoff (now : Timestamp) (days : ℕ) : Timestamp := now - days * 24 * 3600 * microsPerSecond

/-- The scan is selected for one of the groups. -/
def inGroups (now : Timestamp) (groups : List (ℕ × List ℕ)) (s : ScanRun) : Bool :=
  groups.any fun g => s.deviceId ∈ g.2 && s.startedAt < retentionCutoff now g.1

theorem purgeGroups_spec (now : Timestamp) {chunkSize : ℕ} (hsize : 1 ≤ chunkSize)
    (groups : List (ℕ × List ℕ)) (deleted : ℕ) (db : Database)
    (hids : (db.scanRuns.map (·.id)).Nodup) :
    purgeGroups now chunkSize groups deleted db =
      some (deleted + db.scanRuns.countP (inGroups now groups),
        deleteScanRuns ((db.scanRuns.filter (inGroups now groups)).map (·.id)) db) := by
  induction groups generalizing deleted db with
  | nil =>
    have hnone : inGroups now [] = fun _ => false := rfl
    simp [purgeGroups, hnone, deleteScanRuns_nil]
  | cons g groups ih =>
    obtain ⟨days, deviceIds⟩ := g
    let p : ScanRun → Bool := fun s => s.deviceId ∈ deviceIds && s.startedAt < retentionCutoff now days
    have hcons : ∀ s, inGroups now ((days, deviceIds) :: groups) s = (p s || inGroups now groups s) :=
      fun _ => rfl
    have hchunks := deleteScansInChunks_spec (p := p) hsize (db.scanRuns.length + 1) 0 db hids
      (Nat.lt_succ_of_le (List.length_filter_le _ _))
    have hscans : (deleteScanRuns ((db.scanRuns.filter p).map (·.id)) db).scanRuns =
        db.scanRuns.filter fun s => !p s := filter_notMem_ids hids p
    have hsplit := countP_split db.scanRuns (p := inGroups now ((days, deviceIds) :: groups)) (q := p)
      fun s _ hp => by rw [hcons, hp, Bool.true_or]
    have hrest : (db.scanRuns.filter fun s => !p s).countP (inGroups now ((days, deviceIds) :: groups)) =
        (db.scanRuns.filter fun s => !p s).countP (inGroups now groups) := by
      apply List.countP_congr
      intro s hs
      have hp : p s = false := by simpa using (List.mem_filter.mp hs).2
      rw [hcons, hp, Bool.false_or]
    unfold purgeGroups
    dsimp only
    rw [show deleteScansInChunks (fun s => decide (s.deviceId ∈ deviceIds) &&
      decide (s.startedAt < now - days * 24 * 3600 * microsPerSecond)) chunkSize
        (db.scanRuns.length + 1) 0 db = _ from hchunks, Option.bind_some]
    dsimp only
    rw [ih _ _ (by rw [hscans]; exact hids.sublist (List.filter_sublist.map _)), hscans, hsplit, hrest,
      deleteScanRuns_deleteScanRuns]
    congr 2
    · omega
    · apply deleteScanRuns_congr
      intro id
      simp only [List.mem_append, List.mem_map, List.mem_filter, hcons, Bool.or_eq_true,
        Bool.not_eq_true']
      constructor
      · rintro (⟨s, ⟨hs, hp⟩, rfl⟩ | ⟨s, ⟨⟨hs, -⟩, hgroups⟩, rfl⟩)
        · exact ⟨s, ⟨hs, Or.inl hp⟩, rfl⟩
        · exact ⟨s, ⟨hs, Or.inr hgroups⟩, rfl⟩
      · rintro ⟨s, ⟨hs, hp⟩, rfl⟩
        cases hps : p s with
        | true => exact Or.inl ⟨s, ⟨hs, hps⟩, rfl⟩
        | false =>
          rw [hps] at hp
          exact Or.inr ⟨s, ⟨⟨hs, hps⟩, hp.resolve_left Bool.false_ne_true⟩, rfl⟩

/-- The days for which a device's scans are kept: its own, else its cluster's, else the system's. -/
def Device.retentionDays (d : Device) (systemDays : ℕ) (db : Database) : ℕ :=
  (d.historyRetentionDays.or ((d.clusterId.bind fun id => db.clusters.find? (·.id = id)).bind
    (·.historyRetentionDays))).getD systemDays

/-- The scan is older than its device's retention. -/
def ScanRun.isOutdated (systemDays : ℕ) (now : Timestamp) (db : Database) (s : ScanRun) : Bool :=
  db.devices.any fun d =>
    d.id = s.deviceId && s.startedAt < retentionCutoff now (d.retentionDays systemDays db)

theorem resolveDeviceRetention_eq (d : Device) (systemDays : ℕ) (db : Database) :
    resolveDeviceRetention d systemDays db = d.retentionDays systemDays db := by
  unfold resolveDeviceRetention Device.retentionDays
  cases d.historyRetentionDays <;> rfl

theorem inGroups_retentionGroups (systemDays : ℕ) (now : Timestamp) (db : Database) :
    inGroups now (retentionGroups systemDays db).entries = ScanRun.isOutdated systemDays now db := by
  funext s
  have hgroup : ∀ days ids, (days, ids) ∈ (retentionGroups systemDays db).entries →
      ∀ id, id ∈ ids ↔ ∃ d ∈ db.devices, d.retentionDays systemDays db = days ∧ d.id = id := by
    intro days ids hentry id
    have hget := Dict.mem_entries_iff.mp hentry
    have hids := Dict.getD_appendAll (db.devices.map fun d =>
      (resolveDeviceRetention d systemDays db, d.id)) days
    rw [show (Dict.appendAll (db.devices.map fun d => (resolveDeviceRetention d systemDays db,
      d.id))).get? days = some ids from hget, Option.getD_some] at hids
    rw [hids]
    simp only [List.mem_map, List.mem_filter, decide_eq_true_eq, resolveDeviceRetention_eq]
    constructor
    · rintro ⟨_, ⟨⟨d, hd, rfl⟩, hdays⟩, rfl⟩
      exact ⟨d, hd, hdays, rfl⟩
    · rintro ⟨d, hd, rfl, rfl⟩
      exact ⟨_, ⟨⟨d, hd, rfl⟩, rfl⟩, rfl⟩
  rw [Bool.eq_iff_iff]
  unfold inGroups ScanRun.isOutdated
  simp only [List.any_eq_true, Bool.and_eq_true, decide_eq_true_eq]
  constructor
  · rintro ⟨⟨days, ids⟩, hentry, hid, hold⟩
    obtain ⟨d, hd, rfl, hdevice⟩ := (hgroup days ids hentry s.deviceId).mp hid
    exact ⟨d, hd, hdevice, hold⟩
  · rintro ⟨d, hd, hdevice, hold⟩
    have hkey : d.retentionDays systemDays db ∈ (retentionGroups systemDays db).keys :=
      Dict.mem_keys_collect.mpr ⟨_, List.mem_map.mpr ⟨d, hd, rfl⟩,
        resolveDeviceRetention_eq d systemDays db⟩
    obtain ⟨⟨days, ids⟩, hentry, hdays⟩ := List.mem_map.mp hkey
    obtain rfl : days = d.retentionDays systemDays db := hdays
    exact ⟨_, hentry, (hgroup _ ids hentry s.deviceId).mpr ⟨d, hd, rfl, hdevice⟩, hold⟩

/-! ## Raw rows -/

/-- The order of a device's scans: by start, then by identifier. -/
def ScanRun.orderKey (s : ScanRun) : ℕ ×ₗ ℕ := toLex (s.startedAt, s.id)

/-- One of the two latest successful scans of its device. -/
def ScanRun.isBaseline (db : Database) (s : ScanRun) : Bool :=
  s.status = .success && (db.scanRuns.filter fun t => t.deviceId = s.deviceId && t.status = .success).countP
    (fun t => s.orderKey < t.orderKey) < rawRetentionKeptScansPerDevice

theorem mem_keptScanIds_iff (hids : (db.scanRuns.map (·.id)).Nodup) {s : ScanRun}
    (hs : s ∈ db.scanRuns) : s.id ∈ keptScanIds db ↔ s.isBaseline db = true := by
  have hmem : ∀ deviceId t, t ∈ successfulScans deviceId db ↔
      t ∈ db.scanRuns ∧ t.deviceId = deviceId ∧ t.status = .success := by
    intro deviceId t
    simp [successfulScans]
  have hstrict : ∀ deviceId, (successfulScans deviceId db).Pairwise fun a b =>
      b.orderKey < a.orderKey := by
    intro deviceId
    have hle : (successfulScans deviceId db).Pairwise fun a b => b.orderKey ≤ a.orderKey :=
      have : Std.Total fun a b : ScanRun => b.orderKey ≤ a.orderKey :=
        ⟨fun a b => le_total b.orderKey a.orderKey⟩
      have : IsTrans ScanRun fun a b => b.orderKey ≤ a.orderKey := ⟨fun _ _ _ h h' => h'.trans h⟩
      List.pairwise_insertionSort (fun a b : ScanRun => b.orderKey ≤ a.orderKey) _
    have hne : (successfulScans deviceId db).Pairwise fun a b => a.id ≠ b.id := by
      have hperm : (successfulScans deviceId db).Perm _ := List.perm_insertionSort _ _
      exact List.pairwise_map.mp ((hperm.map ScanRun.id).nodup_iff.mpr
        (hids.sublist (List.filter_sublist.map ScanRun.id)))
    apply (hle.and hne).imp
    rintro a b ⟨hab, hid⟩
    apply lt_of_le_of_ne hab
    intro heq
    exact hid (congrArg (fun k => (ofLex k).2) heq).symm
  have hcount : ∀ deviceId, (successfulScans deviceId db).countP (fun t => s.orderKey < t.orderKey) =
      (db.scanRuns.filter fun t => t.deviceId = deviceId && t.status = .success).countP
        (fun t => s.orderKey < t.orderKey) := by
    intro deviceId
    have hperm : (successfulScans deviceId db).Perm _ := List.perm_insertionSort _ _
    rw [hperm.countP_eq]
    congr 1
    apply List.filter_congr
    intro t _
    simp
  have htake : ∀ deviceId, s ∈ (successfulScans deviceId db).take rawRetentionKeptScansPerDevice ↔
      s ∈ successfulScans deviceId db ∧
        (successfulScans deviceId db).countP (fun t => s.orderKey < t.orderKey) <
          rawRetentionKeptScansPerDevice :=
    fun deviceId => Chunks.mem_take_iff (fun _ _ h h' => lt_asymm h h') (hstrict deviceId) _
  simp only [keptScanIds, List.mem_flatMap, List.mem_dedup, List.mem_map, ScanRun.isBaseline,
    Bool.and_eq_true, decide_eq_true_eq]
  constructor
  · rintro ⟨_, ⟨t, ht, rfl⟩, s', hs', hid⟩
    obtain ⟨hscan', -⟩ := (hmem _ s').mp (List.mem_of_mem_take hs')
    obtain rfl := List.inj_on_of_nodup_map hids hscan' hs hid
    obtain ⟨hsuccessful, hfew⟩ := (htake _).mp hs'
    obtain ⟨-, hdevice, hsuccess⟩ := (hmem _ s').mp hsuccessful
    rw [hcount, ← hdevice] at hfew
    exact ⟨hsuccess, by simpa using hfew⟩
  · rintro ⟨hsuccess, hfew⟩
    refine ⟨s.deviceId, ⟨s, hs, rfl⟩, s, (htake _).mpr ⟨(hmem _ s).mpr ⟨hs, rfl, hsuccess⟩, ?_⟩, rfl⟩
    rw [hcount]
    simpa using hfew

/-- The identifiers above a watermark that the raw purge has still to visit, in their order. -/
def rawPurgeRest (cutoff : Timestamp) (lastScanId : ℕ) (db : Database) : List ℕ :=
  ((db.scanRuns.filter fun s =>
    s.startedAt < cutoff ∧ lastScanId < s.id ∧ s.id ∉ keptScanIds db).map (·.id)).insertionSort (· ≤ ·)

theorem mem_rawPurgeRest {cutoff : Timestamp} {lastScanId id : ℕ} :
    id ∈ rawPurgeRest cutoff lastScanId db ↔
      lastScanId < id ∧ ∃ s ∈ db.scanRuns, s.startedAt < cutoff ∧ s.id ∉ keptScanIds db ∧ s.id = id := by
  simp only [rawPurgeRest, List.mem_insertionSort, List.mem_map, List.mem_filter, decide_eq_true_eq]
  constructor
  · rintro ⟨s, ⟨hs, hold, hlast, hkept⟩, rfl⟩
    exact ⟨hlast, s, hs, hold, hkept, rfl⟩
  · rintro ⟨hlast, s, hs, hold, hkept, rfl⟩
    exact ⟨s, ⟨hs, hold, hlast, hkept⟩, rfl⟩

theorem rawPurgeRest_sorted (hids : (db.scanRuns.map (·.id)).Nodup) (cutoff : Timestamp)
    (lastScanId : ℕ) : (rawPurgeRest cutoff lastScanId db).Pairwise (· < ·) := by
  have hle : (rawPurgeRest cutoff lastScanId db).Pairwise (· ≤ ·) := List.pairwise_insertionSort _ _
  have hnodup : (rawPurgeRest cutoff lastScanId db).Nodup := by
    rw [rawPurgeRest, (List.perm_insertionSort _ _).nodup_iff]
    exact hids.sublist (List.filter_sublist.map _)
  exact (hle.and hnodup).imp fun h => lt_of_le_of_ne h.1 h.2

/-- From a watermark among them, the rest is what lies above it. -/
theorem rawPurgeRest_filter (hids : (db.scanRuns.map (·.id)).Nodup) (cutoff : Timestamp)
    {lastScanId last : ℕ} (hle : lastScanId ≤ last) :
    rawPurgeRest cutoff last db = (rawPurgeRest cutoff lastScanId db).filter (last < ·) := by
  have hsorted := rawPurgeRest_sorted hids cutoff last
  have hsorted' := (rawPurgeRest_sorted hids cutoff lastScanId).filter (fun id => last < id)
  have hperm : (rawPurgeRest cutoff last db).Perm
      ((rawPurgeRest cutoff lastScanId db).filter (last < ·)) := by
    apply (List.perm_ext_iff_of_nodup (hsorted.imp ne_of_lt) (hsorted'.imp ne_of_lt)).mpr
    intro id
    rw [List.mem_filter, mem_rawPurgeRest, mem_rawPurgeRest, decide_eq_true_eq]
    constructor
    · rintro ⟨hlast, hs⟩
      exact ⟨⟨hle.trans_lt hlast, hs⟩, hlast⟩
    · rintro ⟨⟨-, hs⟩, hlast⟩
      exact ⟨hlast, hs⟩
  exact hperm.eq_of_pairwise (fun a b _ _ hab hba => absurd hba (lt_asymm hab)) hsorted hsorted'

/-- The rounds delete the rows of the scans above the watermark, and count them. -/
theorem rawPurgeLoop_spec {cutoff : Timestamp} {chunkSize : ℕ} (hsize : 1 ≤ chunkSize) :
    ∀ (rounds deleted lastScanId : ℕ) (db : Database), (db.scanRuns.map (·.id)).Nodup →
      (rawPurgeRest cutoff lastScanId db).length < rounds →
      rawPurgeLoop cutoff chunkSize rounds deleted lastScanId db =
        some (deleted + db.connectionRecords.countP (·.scanRunId ∈ rawPurgeRest cutoff lastScanId db),
          deleteConnectionRecords (rawPurgeRest cutoff lastScanId db) db) := by
  intro rounds
  induction rounds with
  | zero => exact fun _ _ _ _ h => absurd h (Nat.not_lt_zero _)
  | succ rounds ih =>
    intro deleted lastScanId db hids hrounds
    have hchunk : rawPurgeChunk cutoff chunkSize lastScanId db =
        (rawPurgeRest cutoff lastScanId db).take chunkSize := rfl
    have hsorted := rawPurgeRest_sorted hids cutoff lastScanId
    unfold rawPurgeLoop
    rw [hchunk]
    cases hlast : ((rawPurgeRest cutoff lastScanId db).take chunkSize).getLast? with
    | none =>
      have hlength := congrArg List.length (List.getLast?_eq_none_iff.mp hlast)
      rw [List.length_take, List.length_nil] at hlength
      have hnil : rawPurgeRest cutoff lastScanId db = [] :=
        List.length_eq_zero_iff.mp (by omega)
      simp [hnil, deleteConnectionRecords]
    | some last =>
      have hmem : last ∈ rawPurgeRest cutoff lastScanId db :=
        List.mem_of_mem_take (List.mem_of_getLast? hlast)
      have hwatermark := (mem_rawPurgeRest.mp hmem).1
      have hrest : rawPurgeRest cutoff last db = (rawPurgeRest cutoff lastScanId db).drop chunkSize := by
        rw [rawPurgeRest_filter hids cutoff hwatermark.le, Chunks.filter_lt_last hsorted hlast]
      have hsplit : ∀ id, id ∈ rawPurgeRest cutoff lastScanId db ↔
          id ∈ (rawPurgeRest cutoff lastScanId db).take chunkSize ∨
            id ∈ rawPurgeRest cutoff last db := by
        intro id
        rw [hrest, ← List.mem_append, List.take_append_drop]
      generalize (rawPurgeRest cutoff lastScanId db).take chunkSize = chunk at hlast hsplit ⊢
      have hframe : rawPurgeRest cutoff last (deleteConnectionRecords chunk db) =
          rawPurgeRest cutoff last db := rfl
      have hfewer : (rawPurgeRest cutoff last db).length <
          (rawPurgeRest cutoff lastScanId db).length := by
        rw [hrest, List.length_drop]
        have hpos := List.length_pos_of_mem hmem
        omega
      have hrecords : (deleteConnectionRecords chunk db).connectionRecords =
          db.connectionRecords.filter fun r => !decide (r.scanRunId ∈ chunk) := by
        simp [deleteConnectionRecords]
      have hcount : db.connectionRecords.countP (·.scanRunId ∈ rawPurgeRest cutoff lastScanId db) =
          db.connectionRecords.countP (·.scanRunId ∈ chunk) +
            (deleteConnectionRecords chunk db).connectionRecords.countP
              (·.scanRunId ∈ rawPurgeRest cutoff last db) := by
        rw [countP_split db.connectionRecords (q := fun r => r.scanRunId ∈ chunk) fun r _ hr => by
          rw [decide_eq_true_eq] at hr ⊢
          exact (hsplit _).mpr (Or.inl hr), hrecords]
        congr 1
        apply List.countP_congr
        intro r hr
        have hnot : r.scanRunId ∉ chunk := by simpa using (List.mem_filter.mp hr).2
        simp only [decide_eq_true_eq, hsplit, hnot, false_or]
      have hdelete : deleteConnectionRecords (rawPurgeRest cutoff last db)
          (deleteConnectionRecords chunk db) =
          deleteConnectionRecords (rawPurgeRest cutoff lastScanId db) db := by
        simp only [deleteConnectionRecords, List.filter_filter]
        congr 1
        apply List.filter_congr
        intro r _
        rw [Bool.eq_iff_iff]
        simp only [Bool.and_eq_true, decide_eq_true_eq, hsplit, not_or]
        exact and_comm
      dsimp only
      rw [ih _ _ (deleteConnectionRecords chunk db) hids (by rw [hframe]; omega), hframe, hdelete,
        hcount, Nat.add_assoc]

/-- The raw row is older than the cutoff and belongs to no baseline. -/
def ConnectionRecord.isOutdated (cutoff : Timestamp) (db : Database) (r : ConnectionRecord) : Bool :=
  db.scanRuns.any fun s => s.id = r.scanRunId && s.startedAt < cutoff && !s.isBaseline db

theorem mem_rawPurgeRest_iff (hids : (db.scanRuns.map (·.id)).Nodup)
    (hpos : ∀ s ∈ db.scanRuns, 0 < s.id) (cutoff : Timestamp) (r : ConnectionRecord) :
    r.scanRunId ∈ rawPurgeRest cutoff 0 db ↔ r.isOutdated cutoff db = true := by
  rw [mem_rawPurgeRest]
  simp only [ConnectionRecord.isOutdated, List.any_eq_true, Bool.and_eq_true, decide_eq_true_eq,
    Bool.not_eq_true']
  constructor
  · rintro ⟨-, s, hs, hold, hkept, hid⟩
    rw [mem_keptScanIds_iff hids hs, Bool.not_eq_true] at hkept
    exact ⟨s, hs, ⟨hid, hold⟩, hkept⟩
  · rintro ⟨s, hs, ⟨hid, hold⟩, hkept⟩
    rw [← hid]
    refine ⟨hpos s hs, s, hs, hold, ?_, rfl⟩
    rw [mem_keptScanIds_iff hids hs, hkept]
    exact Bool.false_ne_true

/-- The purge is one deletion of the rows of all scans above the watermark 0. -/
theorem purgeRawConnectionRecords_delete (hids : (db.scanRuns.map (·.id)).Nodup) {chunkSize : ℕ}
    (hsize : 1 ≤ chunkSize) (rawDays : ℕ) (now : Timestamp) :
    purgeRawConnectionRecords rawDays now chunkSize db =
      some (db.connectionRecords.countP
          (·.scanRunId ∈ rawPurgeRest (retentionCutoff now rawDays) 0 db),
        deleteConnectionRecords (rawPurgeRest (retentionCutoff now rawDays) 0 db) db) := by
  have hlength : (rawPurgeRest (retentionCutoff now rawDays) 0 db).length < db.scanRuns.length + 1 := by
    rw [rawPurgeRest, List.length_insertionSort, List.length_map]
    exact Nat.lt_succ_of_le (List.length_filter_le _ _)
  have hloop := rawPurgeLoop_spec hsize (db.scanRuns.length + 1) 0 0 db hids hlength
  rw [Nat.zero_add] at hloop
  exact hloop

theorem purgeRawConnectionRecords_eq (hids : (db.scanRuns.map (·.id)).Nodup)
    (hpos : ∀ s ∈ db.scanRuns, 0 < s.id) {chunkSize : ℕ} (hsize : 1 ≤ chunkSize) (rawDays : ℕ)
    (now : Timestamp) :
    purgeRawConnectionRecords rawDays now chunkSize db =
      some (db.connectionRecords.countP (·.isOutdated (retentionCutoff now rawDays) db),
        { db with connectionRecords :=
          db.connectionRecords.filter fun r => !r.isOutdated (retentionCutoff now rawDays) db }) := by
  have hrows : ∀ r : ConnectionRecord, decide (r.scanRunId ∈ rawPurgeRest (retentionCutoff now rawDays) 0 db) =
      r.isOutdated (retentionCutoff now rawDays) db := by
    intro r
    rw [Bool.eq_iff_iff, decide_eq_true_eq, mem_rawPurgeRest_iff hids hpos]
  rw [purgeRawConnectionRecords_delete hids hsize]
  simp only [deleteConnectionRecords, ← hrows, decide_not]

/-- Both purges are what one statement would do, whatever the size of their chunks. -/
theorem chunked_purges_equal_one_shot (hids : (db.scanRuns.map (·.id)).Nodup)
    (hpos : ∀ s ∈ db.scanRuns, 0 < s.id) {chunkSize : ℕ} (hsize : 1 ≤ chunkSize) (now : Timestamp) :
    (∀ systemDays, ∃ db',
      purgeExpiredScans systemDays now chunkSize db =
          some (db.scanRuns.countP (ScanRun.isOutdated systemDays now db), db') ∧
        db' = deleteScanRuns ((db.scanRuns.filter (ScanRun.isOutdated systemDays now db)).map (·.id)) db ∧
        db'.scanRuns = db.scanRuns.filter fun s => !s.isOutdated systemDays now db) ∧
    ∀ rawDays, ∃ db',
      purgeRawConnectionRecords rawDays now chunkSize db =
          some (db.connectionRecords.countP (·.isOutdated (retentionCutoff now rawDays) db), db') ∧
        db' = { db with connectionRecords :=
          db.connectionRecords.filter fun r => !r.isOutdated (retentionCutoff now rawDays) db } ∧
        ∀ chunkSize', 1 ≤ chunkSize' →
          purgeRawConnectionRecords rawDays now chunkSize' db' = some (0, db') := by
  constructor
  · intro systemDays
    have hgroups := purgeGroups_spec now hsize (retentionGroups systemDays db).entries 0 db hids
    rw [inGroups_retentionGroups, Nat.zero_add] at hgroups
    exact ⟨_, hgroups, rfl, filter_notMem_ids hids _⟩
  · intro rawDays
    refine ⟨_, purgeRawConnectionRecords_eq hids hpos hsize rawDays now, rfl, ?_⟩
    intro chunkSize' hsize'
    let db' : Database := { db with
      connectionRecords :=
        db.connectionRecords.filter fun r => !r.isOutdated (retentionCutoff now rawDays) db }
    have hsame : ∀ r : ConnectionRecord, r.isOutdated (retentionCutoff now rawDays) db' =
        r.isOutdated (retentionCutoff now rawDays) db := fun _ => rfl
    have hids' : (db'.scanRuns.map (·.id)).Nodup := hids
    have hagain := purgeRawConnectionRecords_eq hids' hpos hsize' rawDays now
    simp only [hsame] at hagain
    have hnone : db'.connectionRecords.countP (·.isOutdated (retentionCutoff now rawDays) db) = 0 := by
      rw [List.countP_eq_zero]
      intro r hr
      simpa using (List.mem_filter.mp hr).2
    have hrest : db'.connectionRecords.filter
        (fun r => !r.isOutdated (retentionCutoff now rawDays) db) = db'.connectionRecords := by
      rw [List.filter_filter]
      simp only [Bool.and_self]
      rfl
    rw [hnone, hrest] at hagain
    exact hagain

/-- Two devices with retentions of their own, and raw rows beyond the baselines of the first. -/
def agedScans : Database where
  clusters := [{ id := 1, name := "edge", historyRetentionDays := some 1 }]
  devices := [{ id := 1, name := "web-01", host := "10.0.0.10", historyRetentionDays := some 2 },
    { id := 2, name := "web-02", host := "10.0.0.11", clusterId := some 1 }]
  scanRuns := [{ id := 1, deviceId := 1, status := .success, startedAt := 10 },
    { id := 2, deviceId := 1, status := .success, startedAt := 10 },
    { id := 3, deviceId := 1, status := .success, startedAt := 10 },
    { id := 4, deviceId := 2, status := .failed, startedAt := 10 }]
  connectionRecords := [1, 2, 3].map fun n =>
    { id := n, scanRunId := n, protocol := "tcp", localIp := "10.0.0.10", localPort := 50000,
      remoteIp := some "10.0.0.20", remotePort := some 443 }

theorem aged_scans_purged :
    (∃ db', purgeExpiredScans 7 (retentionCutoff (48 * 3600 * microsPerSecond) 0) 1 agedScans =
        some (1, db') ∧ db'.scanRuns.length = 3) ∧
    ∃ db', purgeRawConnectionRecords 1 (retentionCutoff (48 * 3600 * microsPerSecond) 0) 1 agedScans =
      some (1, db') ∧ purgeRawConnectionRecords 1
        (retentionCutoff (48 * 3600 * microsPerSecond) 0) 2 db' = some (0, db') := by
  obtain ⟨hexpired, hraw⟩ := @chunked_purges_equal_one_shot agedScans (by decide) (by decide) 1 le_rfl
    (retentionCutoff (48 * 3600 * microsPerSecond) 0)
  constructor
  · obtain ⟨db', hpurge, -, hscans⟩ := hexpired 7
    refine ⟨db', hpurge, ?_⟩
    rw [hscans]
    decide +kernel
  · obtain ⟨db', hpurge, -, hagain⟩ := hraw 1
    exact ⟨db', hpurge, hagain 2 (by decide)⟩

end ConnectionTopology
