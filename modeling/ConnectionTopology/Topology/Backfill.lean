import ConnectionTopology.Topology.SyncedObservations

/-!
# Backfilling the observations

A table of observations that is made of whole scans stays one: a window of identifiers adds the
scans of the window, and conflict-ignoring inserts leave what is there. So the windows of the
backfill and the syncs of the scans, one by one, end with the same rows.
-/
namespace ConnectionTopology

variable {db : Database} {table : List ConnectionServiceObservation} {P Q : ScanRun → Prop}

/-- The table holds the observations of the successful scans with `P`, each once. -/
structure HoldsScans (db : Database) (P : ScanRun → Prop)
    (table : List ConnectionServiceObservation) : Prop where
  mem : ∀ o, o ∈ table ↔
    ∃ scan ∈ db.scanRuns, scan.status = .success ∧ P scan ∧ o ∈ scanObservations scan db
  keys : (table.map ConnectionServiceObservation.uniqueKey).Nodup

theorem HoldsScans.isSynced (h : HoldsScans db P table) {o : ConnectionServiceObservation}
    (ho : o ∈ table) : IsSynced db o := by
  obtain ⟨scan, hscan, hsuccess, -, hmem⟩ := (h.mem o).mp ho
  exact ⟨scan, hscan, hsuccess, hmem⟩

theorem HoldsScans.congr (h : HoldsScans db P table)
    (hPQ : ∀ scan ∈ db.scanRuns, scan.status = .success → (P scan ↔ Q scan)) :
    HoldsScans db Q table := by
  refine ⟨fun o => ?_, h.keys⟩
  rw [h.mem]
  constructor
  · rintro ⟨scan, hscan, hsuccess, hP, ho⟩
    exact ⟨scan, hscan, hsuccess, (hPQ scan hscan hsuccess).mp hP, ho⟩
  · rintro ⟨scan, hscan, hsuccess, hQ, ho⟩
    exact ⟨scan, hscan, hsuccess, (hPQ scan hscan hsuccess).mpr hQ, ho⟩

/-- Two such tables have the same rows. -/
theorem HoldsScans.perm {table' : List ConnectionServiceObservation} (h : HoldsScans db P table)
    (h' : HoldsScans db P table') : table.Perm table' := by
  apply (List.perm_ext_iff_of_nodup (List.Nodup.of_map _ h.keys) (List.Nodup.of_map _ h'.keys)).mpr
  intro o
  rw [h.mem, h'.mem]

/-! ## Conflict-ignoring inserts -/

theorem nodup_foldl_insertObservation {rows : List ConnectionServiceObservation}
    (h : (table.map ConnectionServiceObservation.uniqueKey).Nodup) :
    ((rows.foldl insertObservation table).map ConnectionServiceObservation.uniqueKey).Nodup := by
  induction rows generalizing table with
  | nil => exact h
  | cons row rows ih =>
    rw [List.foldl_cons]
    apply ih
    unfold insertObservation
    split_ifs with hany
    · exact h
    · rw [List.map_append, List.nodup_append]
      refine ⟨h, List.nodup_singleton _, ?_⟩
      rintro key hkey _ hrow rfl
      obtain ⟨o, ho, hkey⟩ := List.mem_map.mp hkey
      rw [List.map_singleton, List.mem_singleton] at hrow
      exact hany (List.any_eq_true.mpr ⟨o, ho, by simpa using hkey.trans hrow⟩)

/-- Rows that are there already are not inserted again. -/
theorem foldl_insertObservation_eq {rows : List ConnectionServiceObservation}
    (h : ∀ row ∈ rows, row ∈ table) : rows.foldl insertObservation table = table := by
  induction rows with
  | nil => rfl
  | cons row rows ih =>
    have hrow : insertObservation table row = table := by
      unfold insertObservation
      rw [if_pos (List.any_eq_true.mpr ⟨row, h row (by simp), by simp⟩)]
    rw [List.foldl_cons, hrow]
    exact ih fun row' hrow' => h row' (by simp [hrow'])

/-! ## One window -/

/-- The rows that `_SYNC_SQL` selects. -/
def windowObservations (lower upper : ℕ) (db : Database) : List ConnectionServiceObservation :=
  (Grouping.groupBy SyncRow.key (syncRows lower upper db)).map fun g => syncObservation g.1 g.2

/-- The part of a window that belongs to one of its scans. -/
theorem syncRows_filter {lower upper id : ℕ} (hlower : lower ≤ id) (hupper : id < upper) :
    (syncRows lower upper db).filter (fun row => row.key.scanRunId = id) =
      syncRows id (id + 1) db := by
  unfold syncRows
  rw [List.filter_flatMap]
  congr 1
  funext record
  cases record.remoteIp with
  | none => rfl
  | some remoteIp =>
    simp only [List.filter_map, List.filter_filter]
    congr 1
    apply List.filter_congr
    intro scan _
    rw [Bool.eq_iff_iff]
    simp only [Function.comp_apply, SyncRow.key, Bool.and_eq_true, decide_eq_true_eq]
    constructor
    · rintro ⟨hid, ⟨⟨hrun, -⟩, -⟩, hsuccess⟩
      obtain rfl : scan.id = id := of_decide_eq_true hid
      exact ⟨⟨⟨hrun, le_rfl⟩, Nat.lt_succ_self _⟩, hsuccess⟩
    · rintro ⟨⟨⟨hrun, hle⟩, hlt⟩, hsuccess⟩
      obtain rfl : scan.id = id := by omega
      exact ⟨decide_eq_true rfl, ⟨⟨hrun, hlower⟩, hupper⟩, hsuccess⟩

theorem mem_windowObservations {lower upper : ℕ} {o : ConnectionServiceObservation} :
    o ∈ windowObservations lower upper db ↔
      ∃ scan ∈ db.scanRuns, scan.status = .success ∧ (lower ≤ scan.id ∧ scan.id < upper) ∧
        o ∈ scanObservations scan db := by
  have hgroups : ∀ id, lower ≤ id → id < upper →
      Grouping.groupBy SyncRow.key (syncRows id (id + 1) db) =
        (Grouping.groupBy SyncRow.key (syncRows lower upper db)).filter
          (fun g => g.1.scanRunId = id) := by
    intro id hlower hupper
    rw [← syncRows_filter hlower hupper]
    exact Grouping.groupBy_filter SyncRow.key (fun k => k.scanRunId = id) _
  unfold windowObservations scanObservations
  simp only [List.mem_map]
  constructor
  · rintro ⟨⟨key, group⟩, hgroup, rfl⟩
    obtain ⟨⟨row, hrow, hkey⟩, -⟩ := Grouping.mem_groupBy.mp hgroup
    obtain ⟨-, -, hscan, -, hlower, hupper, hsuccess⟩ := mem_syncRows.mp hrow
    have hid : key.scanRunId = row.scan.id := by
      rw [← hkey]
      rfl
    refine ⟨row.scan, hscan, hsuccess, ⟨hlower, hupper⟩, (key, group), ?_, rfl⟩
    rw [hgroups row.scan.id hlower hupper, List.mem_filter]
    exact ⟨hgroup, by simpa using hid⟩
  · rintro ⟨scan, -, -, ⟨hlower, hupper⟩, g, hg, rfl⟩
    rw [hgroups scan.id hlower hupper] at hg
    exact ⟨g, List.mem_of_mem_filter hg, rfl⟩

section

variable (hids : (db.scanRuns.map (·.id)).Nodup)

include hids

/-- A window adds its scans. -/
theorem HoldsScans.insertWindow (h : HoldsScans db P table) (lower upper : ℕ) :
    HoldsScans db (fun scan => P scan ∨ lower ≤ scan.id ∧ scan.id < upper)
      ((windowObservations lower upper db).foldl insertObservation table) := by
  refine ⟨fun o => ?_, nodup_foldl_insertObservation h.keys⟩
  have hsynced : ∀ o, o ∈ table ∨ o ∈ windowObservations lower upper db → IsSynced db o := by
    rintro o (ho | ho)
    · exact h.isSynced ho
    · obtain ⟨scan, hscan, hsuccess, -, hmem⟩ := mem_windowObservations.mp ho
      exact ⟨scan, hscan, hsuccess, hmem⟩
  have hmem : o ∈ (windowObservations lower upper db).foldl insertObservation table ↔
      o ∈ table ∨ o ∈ windowObservations lower upper db := by
    constructor
    · exact mem_foldl_insertObservation
    · intro ho
      obtain ⟨o', ho', hkey⟩ := foldl_insertObservation_keys ho
      rwa [← (hsynced o' (mem_foldl_insertObservation ho')).eq_of_uniqueKey hids (hsynced o ho)
        hkey]
  rw [hmem, h.mem, mem_windowObservations]
  constructor
  · rintro (⟨scan, hscan, hsuccess, hP, ho⟩ | ⟨scan, hscan, hsuccess, hwindow, ho⟩)
    · exact ⟨scan, hscan, hsuccess, Or.inl hP, ho⟩
    · exact ⟨scan, hscan, hsuccess, Or.inr hwindow, ho⟩
  · rintro ⟨scan, hscan, hsuccess, hP | hwindow, ho⟩
    · exact Or.inl ⟨scan, hscan, hsuccess, hP, ho⟩
    · exact Or.inr ⟨scan, hscan, hsuccess, hwindow, ho⟩

omit hids in
/-- A window whose scans are there changes nothing. -/
theorem HoldsScans.insertWindow_eq (h : HoldsScans db P table) (lower upper : ℕ)
    (hP : ∀ scan ∈ db.scanRuns, scan.status = .success → lower ≤ scan.id → scan.id < upper →
      P scan) :
    (windowObservations lower upper db).foldl insertObservation table = table := by
  apply foldl_insertObservation_eq
  intro o ho
  obtain ⟨scan, hscan, hsuccess, ⟨hlower, hupper⟩, hmem⟩ := mem_windowObservations.mp ho
  exact (h.mem o).mpr ⟨scan, hscan, hsuccess, hP scan hscan hsuccess hlower hupper, hmem⟩

/-! ## Syncs, one by one -/

/-- The window of a scan holds no other scan. -/
theorem mem_window_iff {scan other : ScanRun} (hscan : scan ∈ db.scanRuns)
    (hother : other ∈ db.scanRuns) :
    (scan.id ≤ other.id ∧ other.id < scan.id + 1) ↔ other = scan := by
  constructor
  · rintro ⟨hlower, hupper⟩
    exact List.inj_on_of_nodup_map hids hother hscan (by omega)
  · rintro rfl
    omega

theorem HoldsScans.sync (h : HoldsScans db P table) {scan : ScanRun} (hscan : scan ∈ db.scanRuns) :
    HoldsScans db (fun s => P s ∨ s = scan)
      (syncServiceObservations scan { db with observations := table }).observations := by
  unfold syncServiceObservations
  split_ifs with hsuccess
  · apply (h.insertWindow hids scan.id (scan.id + 1)).congr
    intro other hother _
    rw [mem_window_iff hids hscan hother]
  · apply h.congr
    intro other _ hother
    constructor
    · exact Or.inl
    · rintro (hP | rfl)
      · exact hP
      · exact absurd hother hsuccess

theorem HoldsScans.syncs (h : HoldsScans db P table) {scans : List ScanRun}
    (hscans : ∀ scan ∈ scans, scan ∈ db.scanRuns) :
    HoldsScans db (fun s => P s ∨ s ∈ scans)
      (scans.foldl (fun db scan => syncServiceObservations scan db)
        { db with observations := table }).observations := by
  induction scans generalizing P table with
  | nil => simpa using h
  | cons scan scans ih =>
    rw [List.foldl_cons, syncServiceObservations_eq]
    apply (ih (h.sync hids (hscans scan (by simp))) fun s hs => hscans s (by simp [hs])).congr
    intro s _ _
    simp [or_assoc]

omit hids in
theorem holdsScans_nil : HoldsScans db (fun _ => False) [] := by
  refine ⟨fun o => ?_, List.nodup_nil⟩
  simp

theorem holdsScans_syncAll {scans : List ScanRun} (hscans : ∀ scan ∈ scans, scan ∈ db.scanRuns) :
    HoldsScans db (· ∈ scans) (syncAll scans db).observations := by
  apply (holdsScans_nil.syncs hids hscans).congr
  simp

/-! ## The loop over the windows -/

/-- The loop ends with the scans from `lower` on added. -/
theorem backfillLoop_spec {size maxScanId : ℕ} (hsize : 1 ≤ size) :
    ∀ (rounds lower : ℕ) (P : ScanRun → Prop) (table : List ConnectionServiceObservation),
      HoldsScans db P table → maxScanId + 1 - lower < rounds →
      ∃ table', backfillLoop size maxScanId rounds lower { db with observations := table } =
          some { db with observations := table' } ∧
        ∃ upper, maxScanId < upper ∧
          HoldsScans db (fun scan => P scan ∨ lower ≤ scan.id ∧ scan.id < upper) table' := by
  intro rounds
  induction rounds with
  | zero => exact fun _ _ _ _ h => absurd h (Nat.not_lt_zero _)
  | succ rounds ih =>
    intro lower P table h hrounds
    unfold backfillLoop
    by_cases hlower : lower ≤ maxScanId
    · rw [if_pos hlower]
      obtain ⟨table', hloop, upper, hupper, htable⟩ :=
        ih (lower + size) _ _ (h.insertWindow hids lower (lower + size)) (by omega)
      refine ⟨table', hloop, max upper (lower + size), by omega, htable.congr fun scan _ _ => ?_⟩
      constructor
      · rintro ((hP | ⟨hl, hu⟩) | ⟨hl, hu⟩)
        · exact Or.inl hP
        · exact Or.inr ⟨hl, by omega⟩
        · exact Or.inr ⟨by omega, by omega⟩
      · rintro (hP | ⟨hl, hu⟩)
        · exact Or.inl (Or.inl hP)
        · by_cases hwindow : scan.id < lower + size
          · exact Or.inl (Or.inr ⟨hl, hwindow⟩)
          · exact Or.inr ⟨by omega, by omega⟩
    · rw [if_neg hlower]
      refine ⟨table, rfl, lower, by omega, h.congr fun scan _ _ => ?_⟩
      constructor
      · exact Or.inl
      · rintro (hP | ⟨hl, hu⟩)
        · exact hP
        · omega

omit hids in
theorem scanIdBounds_spec (db : Database) :
    (scanIdBounds db = none ∧ ∀ scan ∈ db.scanRuns, scan.status ≠ .success) ∨
      ∃ least greatest, scanIdBounds db = some (least, greatest) ∧
        ∀ scan ∈ db.scanRuns, scan.status = .success → least ≤ scan.id ∧ scan.id ≤ greatest := by
  have hids : ∀ scan ∈ db.scanRuns, scan.status = .success →
      scan.id ∈ (db.scanRuns.filter (·.status = .success)).map (·.id) := by
    intro scan hscan hsuccess
    exact List.mem_map.mpr ⟨scan, List.mem_filter.mpr ⟨hscan, by simpa using hsuccess⟩, rfl⟩
  unfold scanIdBounds
  cases hleast : ((db.scanRuns.filter (·.status = .success)).map (·.id)).min? with
  | none =>
    have hnil := List.min?_eq_none_iff.mp hleast
    refine Or.inl ⟨by simp only [hleast], fun scan hscan hsuccess => ?_⟩
    have hmem := hids scan hscan hsuccess
    rw [hnil] at hmem
    cases hmem
  | some least =>
    cases hgreatest : ((db.scanRuns.filter (·.status = .success)).map (·.id)).max? with
    | none =>
      rw [List.max?_eq_none_iff.mp hgreatest] at hleast
      cases hleast
    | some greatest =>
      refine Or.inr ⟨least, greatest, by simp only [hleast, hgreatest], fun scan hscan hsuccess => ?_⟩
      have hmem := hids scan hscan hsuccess
      exact ⟨(List.min?_eq_some_iff.mp hleast).2 _ hmem, (List.max?_eq_some_iff.mp hgreatest).2 _ hmem⟩

/-- The backfill adds every successful scan. -/
theorem backfill_spec {size : ℕ} (hsize : 1 ≤ size) (h : HoldsScans db P table) :
    ∃ table', backfillServiceObservations size { db with observations := table } =
        some { db with observations := table' } ∧ HoldsScans db (fun _ => True) table' := by
  have hbounds : scanIdBounds { db with observations := table } = scanIdBounds db := rfl
  unfold backfillServiceObservations
  rw [hbounds]
  rcases scanIdBounds_spec db with ⟨hnone, hfailed⟩ | ⟨least, greatest, hsome, hrange⟩
  · rw [hnone]
    refine ⟨table, rfl, h.congr fun scan hscan hsuccess => ?_⟩
    exact absurd hsuccess (hfailed scan hscan)
  · rw [hsome]
    have hrounds : greatest + 1 - least < greatest - least + 2 := by omega
    obtain ⟨table', hloop, upper, hupper, htable⟩ :=
      backfillLoop_spec hids hsize (greatest - least + 2) least P table h hrounds
    refine ⟨table', hloop, htable.congr fun scan hscan hsuccess => ?_⟩
    obtain ⟨hl, hu⟩ := hrange scan hscan hsuccess
    exact ⟨fun _ => trivial, fun _ => Or.inr ⟨hl, hu.trans_lt hupper⟩⟩

omit hids in
/-- A table with every successful scan is not changed any more. -/
theorem backfill_again {size : ℕ} (hsize : 1 ≤ size) (h : HoldsScans db (fun _ => True) table) :
    backfillServiceObservations size { db with observations := table } =
      some { db with observations := table } := by
  have hloop : ∀ rounds lower maxScanId, maxScanId + 1 - lower < rounds →
      backfillLoop size maxScanId rounds lower { db with observations := table } =
        some { db with observations := table } := by
    intro rounds
    induction rounds with
    | zero => exact fun _ _ hlt => absurd hlt (Nat.not_lt_zero _)
    | succ rounds ih =>
      intro lower maxScanId hrounds
      have hwindow : syncSql lower (lower + size) { db with observations := table } =
          { db with observations := table } := by
        have hrows := h.insertWindow_eq lower (lower + size) fun _ _ _ _ _ => trivial
        unfold syncSql
        exact congrArg (fun rows => { db with observations := rows }) hrows
      unfold backfillLoop
      split_ifs with hlower
      · dsimp only
        rw [hwindow]
        exact ih _ _ (by omega)
      · rfl
  have hbounds : scanIdBounds { db with observations := table } = scanIdBounds db := rfl
  unfold backfillServiceObservations
  rw [hbounds]
  cases scanIdBounds db with
  | none => rfl
  | some bounds => exact hloop _ _ _ (by omega)

end

/-! ## The whole backfill -/

/-- The columns of the unique constraint that a record falls under. -/
def ConnectionRecord.observedKey? (r : ConnectionRecord) :
    Option (ℕ × String × String × ℤ × String) :=
  r.remoteIp.map fun remoteIp =>
    (r.scanRunId, r.protocol, remoteIp, r.remotePort.getD 0, r.processName.getD "")

theorem observedKey?_eq {o : ConnectionServiceObservation} {r : ConnectionRecord} :
    r.observedKey? = some o.uniqueKey ↔ o.Covers r := by
  unfold ConnectionRecord.observedKey? ConnectionServiceObservation.uniqueKey
  constructor
  · intro h
    obtain ⟨remoteIp, hremote, hkey⟩ := Option.map_eq_some_iff.mp h
    simp only [Prod.mk.injEq] at hkey
    obtain ⟨hscan, hprotocol, rfl, hport, hprocess⟩ := hkey
    exact ⟨hscan, hprotocol, hremote, hport, hprocess⟩
  · rintro ⟨hscan, hprotocol, hremote, hport, hprocess⟩
    rw [hremote, Option.map_some, hscan, hprotocol, hport, hprocess]

/-- The keys of a complete table are those of the records of successful scans. -/
theorem HoldsScans.mem_keys (hids : (db.scanRuns.map (·.id)).Nodup)
    (h : HoldsScans db (fun _ => True) table) (key : ℕ × String × String × ℤ × String) :
    key ∈ table.map ConnectionServiceObservation.uniqueKey ↔
      ∃ scan ∈ db.scanRuns, scan.status = .success ∧
        ∃ r ∈ db.connectionRecords, r.scanRunId = scan.id ∧ r.observedKey? = some key := by
  rw [List.mem_map]
  constructor
  · rintro ⟨o, ho, rfl⟩
    obtain ⟨scan, hscan, hsuccess, -, hmem⟩ := (h.mem o).mp ho
    obtain ⟨⟨k, group⟩, hgroup, rfl⟩ := List.mem_map.mp hmem
    obtain ⟨⟨hid, -, -⟩, hcovered⟩ := mem_group_iff hids hscan hsuccess hgroup
    obtain ⟨row, hrow⟩ := List.exists_mem_of_ne_nil _ (Grouping.ne_nil_of_mem_groupBy hgroup)
    obtain ⟨hr, hcovers⟩ := (hcovered row.record).mp ⟨row, hrow, rfl⟩
    exact ⟨scan, hscan, hsuccess, row.record, hr, hcovers.scan.trans hid, observedKey?_eq.mpr hcovers⟩
  · rintro ⟨scan, hscan, hsuccess, r, hr, hrun, hkey⟩
    obtain ⟨remoteIp, hremote, -⟩ := Option.map_eq_some_iff.mp hkey
    obtain ⟨o, ho, hcovers⟩ := exists_covers hids hscan hsuccess hr hrun hremote
    refine ⟨o, (h.mem o).mpr ⟨scan, hscan, hsuccess, trivial, ho⟩, ?_⟩
    have hsame := observedKey?_eq.mpr hcovers
    rw [hkey] at hsame
    exact (Option.some.inj hsame).symm

/-- `db'` has the observations of every successful scan of `db`, once, and is otherwise `db`;
syncing once more, in either way, leaves it as it is. -/
structure FullySynced (db db' : Database) : Prop where
  frame : db' = { db with observations := db'.observations }
  keys : ∀ key, key ∈ db'.observations.map ConnectionServiceObservation.uniqueKey ↔
    ∃ scan ∈ db.scanRuns, scan.status = .success ∧
      ∃ r ∈ db.connectionRecords, r.scanRunId = scan.id ∧ r.observedKey? = some key
  once : (db'.observations.map ConnectionServiceObservation.uniqueKey).Nodup
  backfill : ∀ size, 1 ≤ size → backfillServiceObservations size db' = some db'
  sync : ∀ scan ∈ db.scanRuns, syncServiceObservations scan db' = db'

theorem HoldsScans.fullySynced (hids : (db.scanRuns.map (·.id)).Nodup)
    (h : HoldsScans db (fun _ => True) table) :
    FullySynced db { db with observations := table } := by
  constructor
  case frame => rfl
  case keys => exact h.mem_keys hids
  case once => exact h.keys
  case backfill => exact fun size hsize => backfill_again hsize h
  case sync =>
    intro scan _
    unfold syncServiceObservations
    split_ifs
    · have hrows := h.insertWindow_eq scan.id (scan.id + 1) fun _ _ _ _ _ => trivial
      unfold syncSql
      exact congrArg (fun rows => { db with observations := rows }) hrows
    · rfl

/-- Whatever has been synced before, the backfill ends with the rows that the syncs of all
successful scans leave, in any order. -/
theorem backfill_equals_syncs (hids : (db.scanRuns.map (·.id)).Nodup) {synced : List ScanRun}
    (hsynced : ∀ scan ∈ synced, scan ∈ db.scanRuns) {size : ℕ} (hsize : 1 ≤ size) :
    ∃ db', backfillServiceObservations size (syncAll synced db) = some db' ∧ FullySynced db db' ∧
      ∀ order : List ScanRun, order.Perm (db.scanRuns.filter (·.status = .success)) →
        db'.observations.Perm (order.foldl (fun db scan => syncServiceObservations scan db)
          (syncAll synced db)).observations := by
  have hstart := holdsScans_syncAll hids hsynced
  obtain ⟨table, hbackfill, htable⟩ := backfill_spec hids hsize hstart
  rw [syncAll_frame]
  refine ⟨_, hbackfill, htable.fullySynced hids, fun order horder => ?_⟩
  have hknown : ∀ scan, scan ∈ order ↔ scan ∈ db.scanRuns ∧ scan.status = .success := by
    intro scan
    rw [horder.mem_iff, List.mem_filter, decide_eq_true_eq]
  have hsyncs := hstart.syncs hids fun scan hscan => ((hknown scan).mp hscan).1
  apply htable.perm (hsyncs.congr fun scan hscan hsuccess => ?_)
  exact ⟨fun _ => trivial, fun _ => Or.inr ((hknown scan).mpr ⟨hscan, hsuccess⟩)⟩

/-- Scans with a gap between their identifiers and a failed one; the first is synced. -/
def gappedScans : Database where
  scanRuns := [{ id := 2, deviceId := 1, status := .success, startedAt := 10 },
    { id := 5, deviceId := 1, status := .failed, startedAt := 20 },
    { id := 9, deviceId := 1, status := .success, startedAt := 30 }]
  connectionRecords := [2, 5, 9].map fun n =>
    { id := n, scanRunId := n, protocol := "tcp", localIp := "10.0.0.10", localPort := 50000,
      remoteIp := some "10.0.0.20", remotePort := some 443 }

theorem gapped_scans_backfilled :
    ∃ db', backfillServiceObservations 2 (syncAll (gappedScans.scanRuns.take 1) gappedScans) =
        some db' ∧ FullySynced gappedScans db' ∧
      ∀ order : List ScanRun, order.Perm (gappedScans.scanRuns.filter (·.status = .success)) →
        db'.observations.Perm (order.foldl (fun db scan => syncServiceObservations scan db)
          (syncAll (gappedScans.scanRuns.take 1) gappedScans)).observations :=
  backfill_equals_syncs (by decide) (by decide) (by decide)

end ConnectionTopology
