import ConnectionTopology.Database.Frames
import ConnectionTopology.Collectors.NormalForms

/-!
# What was collected stays

Raw rows are purged, and observations are synced at the scan, by the backfill and again by either.
Whatever was purged or synced, a stored scan has the observations of what was collected, and of
its raw rows it has all or none.
-/
namespace ConnectionTopology

open ForeignKeys

variable {db db' : Database} {b : Backend} {P : ScanOutcome → Prop}

/-- The raw rows of an outcome, under the keys from `first` on. -/
def collectedRecords (outcome : ScanOutcome) (first scanRunId : ℕ) : List ConnectionRecord :=
  ((outcome.connections.filter keepConnectionRecord).zipIdx first).map fun row =>
    .ofConnection row.2 scanRunId row.1

/-- The observations of a scan with these raw rows. -/
def recordObservations (scan : ScanRun) (records : List ConnectionRecord) :
    List ConnectionServiceObservation :=
  (Grouping.groupBy SyncRow.key (records.filterMap fun r =>
    r.remoteIp.map fun remoteIp => ⟨scan, r, remoteIp⟩)).map fun g => syncObservation g.1 g.2

def Database.recordsOf (db : Database) (scanRunId : ℕ) : List ConnectionRecord :=
  db.connectionRecords.filter (·.scanRunId = scanRunId)

def Database.observationsOf (db : Database) (scanRunId : ℕ) : List ConnectionServiceObservation :=
  db.observations.filter (·.scanRunId = scanRunId)

/-- What is stored of a scan is what its outcome brought. -/
structure CollectedScan (db : Database) (scan : ScanRun) (outcome : ScanOutcome) (first : ℕ) :
    Prop where
  run : scan = scanRunOf scan.id outcome (outcome.connections.filter keepConnectionRecord).length
  records : db.recordsOf scan.id = collectedRecords outcome first scan.id ∨
    db.recordsOf scan.id = []
  observations : db.observationsOf scan.id =
    if scan.status = .success then
      recordObservations scan (collectedRecords outcome first scan.id)
    else []

/-- Every stored scan comes from an outcome with `P`. -/
structure Collected (P : ScanOutcome → Prop) (db : Database) : Prop where
  scans : ∀ scan ∈ db.scanRuns, ∃ outcome first, P outcome ∧ CollectedScan db scan outcome first
  unique : (db.observations.map ConnectionServiceObservation.uniqueKey).Nodup

/-! ## The observations of one scan -/

theorem syncRows_scan (hids : (db.scanRuns.map (·.id)).Nodup) {scan : ScanRun}
    (hscan : scan ∈ db.scanRuns) (hsuccess : scan.status = .success) :
    syncRows scan.id (scan.id + 1) db =
      (db.recordsOf scan.id).filterMap fun r => r.remoteIp.map fun ip => ⟨scan, r, ip⟩ := by
  have hmatches : ∀ record : ConnectionRecord, (db.scanRuns.filter fun s =>
      s.id = record.scanRunId && scan.id ≤ s.id && s.id < scan.id + 1 && s.status = .success) =
      if record.scanRunId = scan.id then [scan] else [] := by
    intro record
    split_ifs with hof
    · rw [← Dict.filter_key_eq_singleton hids hscan]
      apply List.filter_congr
      intro s hs
      rw [Bool.eq_iff_iff]
      simp only [Bool.and_eq_true, decide_eq_true_eq]
      constructor
      · exact fun h => h.1.1.1.trans hof
      · intro hid
        have hsame := List.inj_on_of_nodup_map hids hs hscan hid
        subst hsame
        exact ⟨⟨⟨hof.symm, le_rfl⟩, Nat.lt_succ_self _⟩, hsuccess⟩
    · rw [List.filter_eq_nil_iff]
      intro s _ hselected
      simp only [Bool.and_eq_true, decide_eq_true_eq] at hselected
      omega
  unfold syncRows Database.recordsOf
  induction db.connectionRecords with
  | nil => rfl
  | cons record rest ih =>
    rw [List.flatMap_cons, ih, List.filter_cons]
    cases hremote : record.remoteIp with
    | none => split_ifs <;> simp [hremote]
    | some remoteIp =>
      dsimp only
      rw [hmatches]
      split_ifs with hof hof' hof'
      · simp [hremote]
      · exact absurd (decide_eq_true hof) hof'
      · exact absurd (of_decide_eq_true hof') hof
      · rfl

theorem scanObservations_eq (hids : (db.scanRuns.map (·.id)).Nodup) {scan : ScanRun}
    (hscan : scan ∈ db.scanRuns) (hsuccess : scan.status = .success) :
    scanObservations scan db = recordObservations scan (db.recordsOf scan.id) := by
  unfold scanObservations recordObservations
  rw [syncRows_scan hids hscan hsuccess]

/-- The key of a group is that of one of its rows. -/
theorem mem_recordObservations {scan : ScanRun} {records : List ConnectionRecord}
    {o : ConnectionServiceObservation} (ho : o ∈ recordObservations scan records) :
    ∃ record ∈ records, ∃ remoteIp group, record.remoteIp = some remoteIp ∧
      o = syncObservation (SyncRow.key ⟨scan, record, remoteIp⟩) group := by
  obtain ⟨⟨key, group⟩, hgroup, rfl⟩ := List.mem_map.mp ho
  obtain ⟨⟨row, hrow, rfl⟩, -⟩ := Grouping.mem_groupBy.mp hgroup
  obtain ⟨record, hrecord, hmapped⟩ := List.mem_filterMap.mp hrow
  obtain ⟨remoteIp, hremote, rfl⟩ := Option.map_eq_some_iff.mp hmapped
  exact ⟨record, hrecord, remoteIp, group, hremote, rfl⟩

theorem recordObservations_scan {scan : ScanRun} {records : List ConnectionRecord}
    {o : ConnectionServiceObservation} (ho : o ∈ recordObservations scan records) :
    o.scanRunId = scan.id ∧ o.deviceId = scan.deviceId ∧ o.startedAt = scan.startedAt := by
  obtain ⟨record, -, remoteIp, group, -, rfl⟩ := mem_recordObservations ho
  exact ⟨rfl, rfl, rfl⟩

/-- Different groups of one scan are different services. -/
theorem recordObservations_unique (scan : ScanRun) (records : List ConnectionRecord) :
    ((recordObservations scan records).map ConnectionServiceObservation.uniqueKey).Nodup := by
  unfold recordObservations Grouping.groupBy
  rw [List.map_map, List.map_map]
  apply List.Nodup.map_on _ (List.nodup_dedup _)
  intro key hkey key' hkey' hsame
  have hof : ∀ key ∈ ((records.filterMap fun r => r.remoteIp.map fun remoteIp =>
      (⟨scan, r, remoteIp⟩ : SyncRow)).map SyncRow.key).dedup,
      key.deviceId = scan.deviceId ∧ key.startedAt = scan.startedAt := by
    intro key hkey
    obtain ⟨row, hrow, rfl⟩ := List.mem_map.mp (List.mem_dedup.mp hkey)
    obtain ⟨record, -, hmapped⟩ := List.mem_filterMap.mp hrow
    obtain ⟨remoteIp, -, rfl⟩ := Option.map_eq_some_iff.mp hmapped
    exact ⟨rfl, rfl⟩
  obtain ⟨hdevice, hstarted⟩ := hof key hkey
  obtain ⟨hdevice', hstarted'⟩ := hof key' hkey'
  simp only [Function.comp_apply, ConnectionServiceObservation.uniqueKey, syncObservation,
    Prod.mk.injEq] at hsame
  obtain ⟨hscan, hprotocol, hremote, hport, hprocess⟩ := hsame
  cases key
  cases key'
  simp only [SyncKey.mk.injEq]
  exact ⟨hscan, hdevice.trans hdevice'.symm, hstarted.trans hstarted'.symm, hprotocol, hremote,
    hport, hprocess⟩

/-- New services are inserted at the end. -/
theorem foldl_insertObservation_append {rows table : List ConnectionServiceObservation}
    (hunique : (rows.map ConnectionServiceObservation.uniqueKey).Nodup)
    (hnew : ∀ row ∈ rows, ∀ o ∈ table, o.uniqueKey ≠ row.uniqueKey) :
    rows.foldl insertObservation table = table ++ rows := by
  induction rows generalizing table with
  | nil => exact (List.append_nil _).symm
  | cons row rest ih =>
    have hinsert : insertObservation table row = table ++ [row] := by
      unfold insertObservation
      rw [if_neg]
      intro hany
      obtain ⟨o, ho, hkey⟩ := List.any_eq_true.mp hany
      exact hnew row List.mem_cons_self o ho (of_decide_eq_true hkey)
    rw [List.map_cons, List.nodup_cons] at hunique
    rw [List.foldl_cons, hinsert, ih hunique.2, List.append_assoc, List.singleton_append]
    intro row' hrow' o ho
    rcases List.mem_append.mp ho with hold | hrow
    · exact hnew row' (List.mem_cons_of_mem _ hrow') o hold
    · rw [List.mem_singleton.mp hrow]
      intro hsame
      exact hunique.1 (hsame ▸ List.mem_map_of_mem hrow')

/-! ## What the transactions do -/

theorem Collected.congr (h : Collected P db) (hhistory : db'.history = db.history) :
    Collected P db' := by
  obtain ⟨hruns, hrecords, hobservations⟩ := ScanHistory.mk.inj hhistory
  constructor
  · intro scan hscan
    obtain ⟨outcome, first, hP, hrun, hraw, hsummary⟩ := h.scans scan (hruns ▸ hscan)
    refine ⟨outcome, first, hP, hrun, ?_, ?_⟩
    · unfold Database.recordsOf
      rw [hrecords]
      exact hraw
    · unfold Database.observationsOf
      rw [hobservations]
      exact hsummary
  · rw [hobservations]
    exact h.unique

/-- Scans may go, and raw rows of the scans that stay. -/
theorem Collected.shrinks (h : Collected P db)
    (hruns : ∀ scan ∈ db'.scanRuns, scan ∈ db.scanRuns)
    (hrecords : ∀ scan ∈ db'.scanRuns, db'.recordsOf scan.id = db.recordsOf scan.id ∨
      db'.recordsOf scan.id = [])
    (hsummary : ∀ scan ∈ db'.scanRuns, db'.observationsOf scan.id = db.observationsOf scan.id)
    (hobservations : db'.observations.Sublist db.observations) : Collected P db' := by
  constructor
  · intro scan hscan
    obtain ⟨outcome, first, hP, hrun, hraw, hold⟩ := h.scans scan (hruns scan hscan)
    refine ⟨outcome, first, hP, hrun, ?_, (hsummary scan hscan).trans hold⟩
    rcases hrecords scan hscan with hsame | hgone
    · rwa [hsame]
    · exact Or.inr hgone
  · exact h.unique.sublist (hobservations.map _)

theorem Collected.deleteConnectionRecords (h : Collected P db) (scanIds : List ℕ) :
    Collected P (deleteConnectionRecords scanIds db) := by
  refine h.shrinks (fun _ hscan => hscan) ?_ (fun _ _ => rfl) (List.Sublist.refl _)
  intro scan _
  unfold Database.recordsOf ConnectionTopology.deleteConnectionRecords
  dsimp only
  rw [List.filter_filter]
  by_cases hpurged : scan.id ∈ scanIds
  · right
    rw [List.filter_eq_nil_iff]
    intro record _ hkept
    simp only [Bool.and_eq_true, decide_eq_true_eq] at hkept
    exact hkept.2 (hkept.1 ▸ hpurged)
  · left
    apply List.filter_congr
    intro record _
    by_cases hof : record.scanRunId = scan.id
    · simp [hof, hpurged]
    · simp [hof]

/-- Rows of a scan that stays are not among those that go. -/
theorem filter_filter_of_imp {α : Type} {p q : α → Bool} {rows : List α}
    (h : ∀ a ∈ rows, p a = true → q a = true) : (rows.filter q).filter p = rows.filter p := by
  rw [List.filter_filter]
  apply List.filter_congr
  intro a ha
  cases hp : p a with
  | false => rfl
  | true => simp [h a ha hp]

theorem Collected.deleteScanRuns (h : Collected P db) (scanIds : List ℕ) :
    Collected P (deleteScanRuns scanIds db) := by
  refine h.shrinks (fun _ hscan => List.mem_of_mem_filter hscan) ?_ ?_ List.filter_sublist
  all_goals
    intro scan hscan
    have hstays := of_decide_eq_true (List.mem_filter.mp hscan).2
  · left
    apply filter_filter_of_imp
    intro record _ hof
    simp only [decide_eq_true_eq] at hof ⊢
    rwa [hof]
  · apply filter_filter_of_imp
    intro o _ hof
    simp only [decide_eq_true_eq] at hof ⊢
    rwa [hof]

theorem CollectedScan.observation {scan : ScanRun} {outcome : ScanOutcome} {first : ℕ}
    (h : CollectedScan db scan outcome first) {o : ConnectionServiceObservation}
    (ho : o ∈ db.observations) (hof : o.scanRunId = scan.id) :
    scan.status = .success ∧ o ∈ recordObservations scan (collectedRecords outcome first scan.id) := by
  have hmem : o ∈ db.observationsOf scan.id := List.mem_filter.mpr ⟨ho, decide_eq_true hof⟩
  rw [h.observations] at hmem
  split_ifs at hmem with hsuccess
  · exact ⟨hsuccess, hmem⟩
  · cases hmem

theorem Collected.dropDevice (h : Collected P db) (hlinked : db.Linked) (deviceId : ℕ) :
    Collected P (db.dropDevice deviceId) := by
  have hstays : ∀ scan ∈ (db.dropDevice deviceId).scanRuns,
      scan ∈ db.scanRuns ∧ scan.deviceId ≠ deviceId ∧
        (db.scanRuns.any fun r => r.id = scan.id && r.deviceId = deviceId) = false := by
    intro scan hscan
    obtain ⟨hmem, hother⟩ := List.mem_filter.mp hscan
    have hother : scan.deviceId ≠ deviceId := of_decide_eq_true hother
    refine ⟨hmem, hother, List.any_eq_false.mpr fun r hr hgone => ?_⟩
    simp only [Bool.and_eq_true, decide_eq_true_eq] at hgone
    have hsame := List.inj_on_of_nodup_map (hlinked.distinct .scanRuns) hr hmem hgone.1
    exact hother (hsame ▸ hgone.2)
  refine h.shrinks (fun scan hscan => (hstays scan hscan).1) ?_ ?_ List.filter_sublist
  all_goals
    intro scan hscan
    obtain ⟨hmem, hother, hgone⟩ := hstays scan hscan
  · left
    apply filter_filter_of_imp
    intro record _ hof
    dsimp only
    rw [of_decide_eq_true hof, hgone]
    rfl
  · apply filter_filter_of_imp
    intro o ho hof
    have hof : o.scanRunId = scan.id := of_decide_eq_true hof
    obtain ⟨outcome, first, -, hcollected⟩ := h.scans scan hmem
    obtain ⟨-, hdevice, -⟩ := recordObservations_scan (hcollected.observation ho hof).2
    dsimp only
    rw [hof, hgone, hdevice]
    simpa using hother

/-- Syncing a window again finds every observation in its place. -/
theorem Collected.syncSql (h : Collected P db) (hlinked : db.Linked) (lower upper : ℕ) :
    Collected P (syncSql lower upper db) := by
  apply h.congr
  have hsame : (windowObservations lower upper db).foldl insertObservation db.observations =
      db.observations := by
    apply foldl_insertObservation_eq
    intro o ho
    obtain ⟨scan, hscan, hsuccess, -, hmem⟩ := mem_windowObservations.mp ho
    rw [scanObservations_eq (hlinked.distinct .scanRuns) hscan hsuccess] at hmem
    obtain ⟨outcome, first, -, hcollected⟩ := h.scans scan hscan
    rcases hcollected.records with hwhole | hpurged
    · have hstored := hcollected.observations
      rw [if_pos hsuccess, ← hwhole] at hstored
      rw [← hstored] at hmem
      exact List.mem_of_mem_filter hmem
    · rw [hpurged] at hmem
      cases hmem
  show (⟨db.scanRuns, db.connectionRecords, (windowObservations lower upper db).foldl
    insertObservation db.observations⟩ : ScanHistory) = db.history
  rw [hsame]
  rfl

/-! ## Recording a scan -/

section
variable (outcome : ScanOutcome)

theorem collectedRecords_scan {outcome : ScanOutcome} {first scanRunId : ℕ}
    {record : ConnectionRecord} (h : record ∈ collectedRecords outcome first scanRunId) :
    record.scanRunId = scanRunId := by
  obtain ⟨row, -, rfl⟩ := List.mem_map.mp h
  rfl

theorem run_ne_of_linked (hlinked : db.Linked) {k : ℕ} (hk : k ∈ db.scanRuns.map (·.id)) :
    k ≠ (insertScan outcome db).1.id :=
  (hlinked.drawn .scanRuns k hk).ne

theorem insertScan_recordsOf_run (hlinked : db.Linked) :
    (insertScan outcome db).2.recordsOf (insertScan outcome db).1.id =
      collectedRecords outcome db.sequences.connectionRecords (insertScan outcome db).1.id := by
  have hold : db.connectionRecords.filter (·.scanRunId = (insertScan outcome db).1.id) = [] := by
    rw [List.filter_eq_nil_iff]
    intro record hrecord hof
    have hmem := hlinked.linked .recordRun (List.mem_map_of_mem hrecord)
    exact run_ne_of_linked outcome hlinked hmem (of_decide_eq_true hof)
  have hnew : (collectedRecords outcome db.sequences.connectionRecords
      (insertScan outcome db).1.id).filter (·.scanRunId = (insertScan outcome db).1.id) =
      collectedRecords outcome db.sequences.connectionRecords (insertScan outcome db).1.id := by
    rw [List.filter_eq_self]
    exact fun record hrecord => decide_eq_true (collectedRecords_scan hrecord)
  show (db.connectionRecords ++ collectedRecords outcome db.sequences.connectionRecords
    (insertScan outcome db).1.id).filter (·.scanRunId = (insertScan outcome db).1.id) = _
  rw [List.filter_append, hold, hnew, List.nil_append]

theorem insertScan_recordsOf (hlinked : db.Linked) {scan : ScanRun} (hscan : scan ∈ db.scanRuns) :
    (insertScan outcome db).2.recordsOf scan.id = db.recordsOf scan.id := by
  have hnew : (collectedRecords outcome db.sequences.connectionRecords
      (insertScan outcome db).1.id).filter (·.scanRunId = scan.id) = [] := by
    rw [List.filter_eq_nil_iff]
    intro record hrecord hof
    have hid : scan.id = (insertScan outcome db).1.id :=
      (of_decide_eq_true hof).symm.trans (collectedRecords_scan hrecord)
    exact run_ne_of_linked outcome hlinked (List.mem_map_of_mem hscan) hid
  show (db.connectionRecords ++ collectedRecords outcome db.sequences.connectionRecords
    (insertScan outcome db).1.id).filter (·.scanRunId = scan.id) = _
  rw [List.filter_append, hnew, List.append_nil]
  rfl

/-- The sync of a new scan meets no observation of its own. -/
theorem insertScan_observations (hlinked : db.Linked)
    (hids : ((insertScan outcome db).2.scanRuns.map (·.id)).Nodup) :
    (syncServiceObservations (insertScan outcome db).1 (insertScan outcome db).2).observations =
      db.observations ++
        if (insertScan outcome db).1.status = .success then
          recordObservations (insertScan outcome db).1 (collectedRecords outcome
            db.sequences.connectionRecords (insertScan outcome db).1.id)
        else [] := by
  rw [syncServiceObservations_observations]
  split_ifs with hsuccess
  · have hmem : (insertScan outcome db).1 ∈ (insertScan outcome db).2.scanRuns :=
      List.mem_append_right _ List.mem_cons_self
    rw [scanObservations_eq hids hmem hsuccess, insertScan_recordsOf_run outcome hlinked]
    apply foldl_insertObservation_append (recordObservations_unique _ _)
    intro row hrow o ho hkey
    have hof : o.scanRunId = (insertScan outcome db).1.id :=
      (congrArg Prod.fst hkey).trans (recordObservations_scan hrow).1
    have hold := hlinked.linked .observationRun (List.mem_map_of_mem ho)
    exact run_ne_of_linked outcome hlinked hold hof
  · exact (List.append_nil _).symm

end

/-- The new scan has all that was collected, and the other scans keep theirs. -/
theorem Collected.insertScan (h : Collected P db) (hlinked : db.Linked) {outcome : ScanOutcome}
    (hP : P outcome) : Collected P { (insertScan outcome db).2 with
      observations := db.observations ++
        if (insertScan outcome db).1.status = .success then
          recordObservations (insertScan outcome db).1 (collectedRecords outcome
            db.sequences.connectionRecords (insertScan outcome db).1.id)
        else [] } := by
  set run := (ConnectionTopology.insertScan outcome db).1 with hrun
  set new := if run.status = .success then
    recordObservations run (collectedRecords outcome db.sequences.connectionRecords run.id)
    else [] with hnew
  have hof : ∀ o ∈ new, o.scanRunId = run.id := by
    intro o ho
    rw [hnew] at ho
    split_ifs at ho
    · exact (recordObservations_scan ho).1
    · cases ho
  have hother : ∀ o ∈ db.observations, o.scanRunId ≠ run.id := by
    intro o ho
    have hold := hlinked.linked .observationRun (List.mem_map_of_mem ho)
    exact run_ne_of_linked outcome hlinked hold
  constructor
  · intro scan hscan
    rcases List.mem_append.mp hscan with hold | hadded
    · obtain ⟨earlier, first, hearlier, hcollected, hraw, hsummary⟩ := h.scans scan hold
      refine ⟨earlier, first, hearlier, hcollected, ?_, ?_⟩
      · exact insertScan_recordsOf outcome hlinked hold ▸ hraw
      · have hnone : new.filter (·.scanRunId = scan.id) = [] := by
          rw [List.filter_eq_nil_iff]
          intro o ho hid
          have hsame := (of_decide_eq_true hid).symm.trans (hof o ho)
          exact run_ne_of_linked outcome hlinked (List.mem_map_of_mem hold) hsame
        rw [← hsummary]
        show (db.observations ++ new).filter (·.scanRunId = scan.id) = _
        rw [List.filter_append, hnone, List.append_nil]
        rfl
    · obtain rfl : scan = run := List.mem_singleton.mp hadded
      refine ⟨outcome, db.sequences.connectionRecords, hP, rfl, Or.inl ?_, ?_⟩
      · exact insertScan_recordsOf_run outcome hlinked
      · show (db.observations ++ new).filter (·.scanRunId = run.id) = new
        rw [List.filter_append, List.filter_eq_nil_iff.mpr, List.nil_append, List.filter_eq_self.mpr]
        · exact fun o ho => decide_eq_true (hof o ho)
        · exact fun o ho hid => hother o ho (of_decide_eq_true hid)
  · show ((db.observations ++ new).map ConnectionServiceObservation.uniqueKey).Nodup
    rw [List.map_append, List.nodup_append']
    refine ⟨h.unique, ?_, ?_⟩
    · rw [hnew]
      split_ifs
      · exact recordObservations_unique run _
      · exact List.nodup_nil
    · intro key hold hadded
      obtain ⟨o, ho, rfl⟩ := List.mem_map.mp hold
      obtain ⟨o', ho', hkey⟩ := List.mem_map.mp hadded
      exact hother o ho ((congrArg Prod.fst hkey).symm.trans (hof o' ho'))

theorem Collected.addScanOutcome (h : Collected P db) (hlinked : db.Linked) {outcome : ScanOutcome}
    (hP : P outcome) {run : ScanRun} (hok : addScanOutcome outcome db = .ok (run, db')) :
    Collected P db' := by
  obtain ⟨hlinks, hruns, -⟩ := Database.KeepsLinks.addScanOutcome hlinked hok
  have hids := (hlinked.grows hlinks).distinct .scanRuns
  apply (h.insertScan hlinked hP).congr
  unfold ConnectionTopology.addScanOutcome at hok
  split at hok
  · cases hok
  · dsimp only at hok
    rw [syncServiceObservations_eq] at hok
    cases hok
    have hobservations := insertScan_observations outcome hlinked hids
    unfold Database.history
    dsimp only
    rw [hobservations]

/-! ## Runs -/

/-- The scan that an action records. -/
def AppAction.recorded? : AppAction → Option ScanOutcome
  | .queue call => call.recorded?
  | _ => none

theorem Collected.appStep (h : Collected P db) (hlinked : db.Linked) {action : AppAction}
    (hP : ∀ outcome, action.recorded? = some outcome → P outcome)
    (hstep : appStep b db action = some db') : Collected P db' := by
  cases action with
  | queue call =>
    simp only [ConnectionTopology.appStep] at hstep
    split_ifs at hstep
    cases hstep
    rcases perform_store call db with hsame | ⟨outcome, run, mid, hrecorded, hadd, hsame⟩
    · exact h.congr hsame.2.2
    · exact (h.addScanOutcome hlinked (hP outcome hrecorded) hadd).congr hsame.2.2
  | request request =>
    rcases requestStep_scans hstep with hsame | ⟨deviceId, wall, -, hdelete⟩
    · exact h.congr (congrArg Scans.history hsame)
    · unfold ConnectionTopology.deleteDevice at hdelete
      split_ifs at hdelete
      dsimp only at hdelete
      split_ifs at hdelete
      cases hdelete
      have hcancelled := h.congr (cancelDevice_rest deviceId wall db).1.2.2
      exact hcancelled.dropDevice (hlinked.grows (cancelDevice_extends deviceId wall db).grows) deviceId
  | importRow copy rowNumber cells =>
    simp only [ConnectionTopology.appStep] at hstep
    split_ifs at hstep
    cases hstep
    exact h.congr (congrArg Scans.history (importRow_scans ..))
  | claimTests workerId localCapacity globalLimit leaseSeconds now wall =>
    cases hstep
    exact h.congr (claimImportTests_only ..).store.2.2
  | claimSpecific workerId rowId globalLimit leaseSeconds now wall =>
    cases hstep
    exact h.congr (claimSpecific_only ..).store.2.2
  | renewTests workerId rowIds leaseSeconds now =>
    cases hstep
    exact h.congr (renewImportTestLeases_only ..).store.2.2
  | saveResult workerId rowId outcome now wall =>
    simp only [ConnectionTopology.appStep] at hstep
    split at hstep
    · cases hstep
      exact h
    · rename_i hsave
      cases hstep
      exact h.congr (saveResult_only hsave).store.2.2
  | createImportBatch filename totalRows =>
    cases hstep
    exact h.congr rfl
  | finishImport copy wall =>
    cases hstep
    exact h.congr rfl
  | deleteScanRuns scanIds =>
    cases hstep
    exact h.deleteScanRuns scanIds
  | deleteConnectionRecords scanIds =>
    cases hstep
    exact h.deleteConnectionRecords scanIds
  | syncObservations lowerScanId upperScanId =>
    cases hstep
    exact h.syncSql hlinked lowerScanId upperScanId

/-- A condition on the recorded outcomes alone. -/
theorem collected_of_recorded {actions : List AppAction}
    (hP : ∀ action ∈ actions, ∀ outcome, action.recorded? = some outcome → P outcome)
    (hrun : Machine.run (appStep b) {} actions = some db) : db.Sound ∧ Collected P db := by
  have hmeets : Machine.Meets (appStep b)
      (fun _ action => ∀ outcome, action.recorded? = some outcome → P outcome) {} actions :=
    Machine.meets_of_forall hP _
  exact Machine.run_invariant_of_meets (fun db => db.Sound ∧ Collected P db)
    (fun _ _ _ h hP hstep => ⟨h.1.appStep hstep, h.2.appStep h.1.linked hP hstep⟩)
    actions {} db ⟨.empty, ⟨nofun, List.nodup_nil⟩⟩ hmeets hrun

/-- Whatever was purged, deleted or synced in the meantime, the observations of a stored scan are
those of an outcome that was recorded, and so are its raw rows, unless they are all gone. -/
theorem collected_of_run {actions : List AppAction}
    (hrun : Machine.run (appStep b) {} actions = some db) :
    Collected (fun outcome => ∃ action ∈ actions, action.recorded? = some outcome) db :=
  (collected_of_recorded (fun action haction _ hrecorded => ⟨action, haction, hrecorded⟩) hrun).2

def sshSession : NormalizedConnection :=
  ⟨"tcp", "ipv4", "10.0.0.10", 22, some "10.0.0.11", some 5000, some "ESTAB", none, none⟩

/-- A scan whose raw rows are purged before the backfill comes by. -/
def scanThenPurge : List AppAction :=
  [.request (.createDevice
      { name := "web-01", host := "10.0.0.10", osType := .linux, username := "root",
        password := "secret" }),
    .queue ⟨1, 1, .enqueueDevice 10 1 .manual 0 none⟩,
    .queue ⟨2, 2, .claimScanTasks "w" 1 5 60⟩,
    .queue ⟨3, 3,
      .persistOutcome "w" 1 ⟨1, .manual, .success, 2, 3, [sshSession], none, none, none⟩⟩,
    .deleteConnectionRecords [1],
    .syncObservations 0 10]

theorem scanThenPurge_collected :
    ∃ db, Machine.run (appStep plainBackend) {} scanThenPurge = some db ∧
      db.connectionRecords = [] ∧ db.observations.map (·.remoteIp) = ["10.0.0.11"] ∧
      Collected (fun outcome => ∃ action ∈ scanThenPurge, action.recorded? = some outcome) db := by
  have hrun : ((Machine.run (appStep plainBackend) {} scanThenPurge).any fun db =>
      db.connectionRecords = [] ∧ db.observations.map (·.remoteIp) = ["10.0.0.11"]) = true := by
    decide +kernel
  obtain ⟨db, hdb, hrows⟩ := (Option.any_eq_true _ _).mp hrun
  have hstored : db.connectionRecords = [] ∧
      db.observations.map (·.remoteIp) = ["10.0.0.11"] := of_decide_eq_true hrows
  exact ⟨db, hdb, hstored.1, hstored.2, collected_of_run hdb⟩

/-! ## Addresses -/

/-- The rows that a collector can return. -/
inductive ParsedBy (upper : String → String) (tools : JsonTools) : List NormalizedConnection → Prop
  | none : ParsedBy upper tools []
  | linux {output : String} {connections : List NormalizedConnection}
      (hparsed : parseSsOutput upper output = .ok connections) : ParsedBy upper tools connections
  | windows {output : String} {connections : List NormalizedConnection}
      (hparsed : parseWindowsJson tools output = .ok connections) : ParsedBy upper tools connections

theorem ParsedBy.isNormal {upper : String → String} {tools : JsonTools}
    {connections : List NormalizedConnection} (h : ParsedBy upper tools connections) :
    ∀ c ∈ connections, c.IsNormal := by
  cases h with
  | none => exact nofun
  | linux hparsed => exact parseSsOutput_isNormal hparsed
  | windows hparsed => exact parseWindowsJson_isNormal hparsed

/-- A raw row has normal addresses, and one with a peer is of UDP or of an established
connection. -/
structure ConnectionRecord.IsNormal (c : ConnectionRecord) : Prop where
  localIp : normalizeIpAddress c.localIp = c.localIp
  remoteIp : ∀ ip, c.remoteIp = some ip → normalizeIpAddress ip = ip
  family : c.addressFamily = if ':' ∈ c.localIp.toList then "ipv6" else "ipv4"
  established : c.remoteIp = none ∨ c.protocol = "udp" ∨
    String.ofList ((c.state.getD "").toList.flatMap upperChar) ∈ keptTcpStates

theorem collectedRecords_isNormal {outcome : ScanOutcome} {first scanRunId : ℕ}
    (h : ∀ c ∈ outcome.connections, c.IsNormal) {record : ConnectionRecord}
    (hrecord : record ∈ collectedRecords outcome first scanRunId) : record.IsNormal := by
  obtain ⟨⟨c, id⟩, hrow, rfl⟩ := List.mem_map.mp hrecord
  have hmem : c ∈ outcome.connections.filter keepConnectionRecord :=
    List.mem_of_getElem? (List.mk_mem_zipIdx_iff_le_and_getElem?_sub.mp hrow).2
  obtain ⟨hc, hkept⟩ := List.mem_filter.mp hmem
  obtain ⟨hlocal, hremote, hfamily⟩ := h c hc
  refine ⟨hlocal, hremote, hfamily, ?_⟩
  unfold keepConnectionRecord at hkept
  split_ifs at hkept with hnone hudp
  · exact Or.inl (Option.isNone_iff_eq_none.mp hnone)
  · exact Or.inr (Or.inl hudp)
  · exact Or.inr (Or.inr (of_decide_eq_true hkept))

/-- Where the collectors' rows are recorded, every stored address is in normal form. -/
theorem stored_addresses_normal {upper : String → String} {tools : JsonTools}
    {actions : List AppAction}
    (hparsed : ∀ action ∈ actions, ∀ outcome, action.recorded? = some outcome →
      ParsedBy upper tools outcome.connections)
    (hrun : Machine.run (appStep b) {} actions = some db) :
    (∀ record ∈ db.connectionRecords, record.IsNormal) ∧
      ∀ o ∈ db.observations, normalizeIpAddress o.remoteIp = o.remoteIp := by
  obtain ⟨hsound, hcollected⟩ := collected_of_recorded hparsed hrun
  constructor
  · intro record hrecord
    obtain ⟨scan, hscan, hid⟩ := List.mem_map.mp
      (hsound.linked.linked .recordRun (List.mem_map_of_mem hrecord))
    obtain ⟨outcome, first, hparsed, hstored⟩ := hcollected.scans scan hscan
    have hmem : record ∈ db.recordsOf scan.id := List.mem_filter.mpr ⟨hrecord, decide_eq_true hid.symm⟩
    rcases hstored.records with hwhole | hpurged
    · rw [hwhole] at hmem
      exact collectedRecords_isNormal hparsed.isNormal hmem
    · rw [hpurged] at hmem
      cases hmem
  · intro o ho
    obtain ⟨scan, hscan, hid⟩ := List.mem_map.mp
      (hsound.linked.linked .observationRun (List.mem_map_of_mem ho))
    obtain ⟨outcome, first, hparsed, hstored⟩ := hcollected.scans scan hscan
    obtain ⟨record, hrecord, remoteIp, group, hremote, rfl⟩ :=
      mem_recordObservations (hstored.observation ho hid.symm).2
    exact (collectedRecords_isNormal hparsed.isNormal hrecord).remoteIp remoteIp hremote

theorem scanThenPurge_parsed : ∀ action ∈ scanThenPurge, ∀ outcome,
    action.recorded? = some outcome → ParsedBy id ⟨fun _ => none, fun _ => "", id⟩
      outcome.connections := by
  have hparsed : parseSsOutput id "tcp ESTAB 0 0 10.0.0.10:22 10.0.0.11:5000" =
      .ok [sshSession] := by decide +kernel
  intro action haction outcome hrecorded
  simp only [scanThenPurge, List.mem_cons, List.not_mem_nil, or_false] at haction
  rcases haction with rfl | rfl | rfl | rfl | rfl | rfl
  all_goals
    simp only [AppAction.recorded?, Call.recorded?, Option.some.injEq, reduceCtorEq] at hrecorded
  subst hrecorded
  exact .linux hparsed

theorem scanThenPurge_normal :
    ∃ db, Machine.run (appStep plainBackend) {} scanThenPurge = some db ∧
      (∀ record ∈ db.connectionRecords, record.IsNormal) ∧
        ∀ o ∈ db.observations, normalizeIpAddress o.remoteIp = o.remoteIp := by
  have hrun : (Machine.run (appStep plainBackend) {} scanThenPurge).isSome = true := by
    decide +kernel
  obtain ⟨db, hdb⟩ := Option.isSome_iff_exists.mp hrun
  exact ⟨db, hdb, stored_addresses_normal scanThenPurge_parsed hdb⟩

end ConnectionTopology
