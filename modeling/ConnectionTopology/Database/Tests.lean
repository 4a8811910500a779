import ConnectionTopology.Database.Frames
import ConnectionTopology.Database.Seats
import ConnectionTopology.Imports.ImportRace

/-!
# Connection tests as jobs

An imported row that is to be tested is a job under a lease too, and it is one only once: what a
worker has found about it is kept for good. A transaction is one step here; what another one can do
between the statements of `_claim_specific` is the subject of `Imports.RowOwner`.
-/
namespace ConnectionTopology

open Leases

variable {db db' : Database} {b : Backend}

/-- What has become of the test of a row. -/
def ImportRowResult.test (r : ImportRowResult) : Option (Option (Job ℕ String Timestamp)) :=
  match r.testStatus with
  | .notApplicable => none
  | .pending => some (some { ticket := r.id })
  | .running =>
    let lease := r.testWorkerId.bind fun worker => r.testLeaseExpiresAt.map fun due => (worker, due)
    some (some { ticket := r.id, lease })
  | .success | .failed => some none

def Database.tests (db : Database) : ℕ → Option (Option (Job ℕ String Timestamp)) :=
  Machine.rowState (·.id) ImportRowResult.test none db.importRowResults

/-- The lease columns are set exactly while the test runs. -/
def ImportRowResult.LeaseOk (r : ImportRowResult) : Prop :=
  if r.testStatus = .running then
    r.testWorkerId.isSome ∧ r.testLeaseExpiresAt.isSome ∧ r.testHeartbeatAt.isSome
  else r.testWorkerId = none ∧ r.testLeaseExpiresAt = none ∧ r.testHeartbeatAt = none

instance (r : ImportRowResult) : Decidable r.LeaseOk := by
  unfold ImportRowResult.LeaseOk
  infer_instance

def TestsOk (db : Database) : Prop := ∀ r ∈ db.importRowResults, r.LeaseOk

/-- What an action has done to the test of one row, by its reply where it has one. -/
def AppAction.testActs (db : Database) (action : AppAction) (r : ImportRowResult) : List JobAct :=
  match action with
  | .claimTests workerId localCapacity globalLimit leaseSeconds now wall =>
    let claimed := (claimImportTests workerId localCapacity globalLimit leaseSeconds now wall db).1
    (if 0 < localCapacity && r.isExpired now then [.expire now] else []) ++
      if r.id ∈ claimed then [.claim workerId (now + leaseSeconds * microsPerSecond)] else []
  | .claimSpecific workerId rowId globalLimit leaseSeconds now _ =>
    if r.id = rowId ∧ r.testStatus = .pending ∧ (activeTests now db : ℤ) < globalLimit then
      [.claim workerId (now + leaseSeconds * microsPerSecond)]
    else []
  | .renewTests workerId rowIds leaseSeconds now =>
    if r.id ∈ rowIds ∧ r.id ∉ (renewImportTestLeases workerId rowIds leaseSeconds now db).1 then
      [.renew workerId now (now + leaseSeconds * microsPerSecond)]
    else []
  | .saveResult workerId rowId outcome now wall =>
    match ConnectionTopology.saveResult workerId rowId outcome now wall db with
    | .ok _ => if r.id = rowId then [.settle workerId now] else []
    | .error _ => []
  | _ => []

/-- What a new row does. -/
def ImportRowResult.begins (r : ImportRowResult) : List JobAct :=
  if r.testStatus = .pending then [.submit r.id] else []

/-- The moves of an action: of the rows that were there, and then of the new rows. -/
def AppAction.testMoves (b : Backend) (db : Database) (action : AppAction) : List (ℕ × JobAct) :=
  Machine.rowActions (·.id) (action.testActs db) db.importRowResults ++
    Machine.rowActions (·.id) ImportRowResult.begins
      ((appStep b db action).elim [] fun db' =>
        db'.importRowResults.drop db.importRowResults.length)

/-! ## Rows rewritten and added -/

/-- A row that waits for its test, or is not to be tested. -/
def ImportRowResult.Fresh (r : ImportRowResult) : Prop :=
  r.LeaseOk ∧ (r.testStatus = .pending ∨ r.testStatus = .notApplicable)

theorem ImportRowResult.Fresh.run {r : ImportRowResult} (h : r.Fresh) :
    Machine.run onceStep none r.begins = some r.test := by
  unfold ImportRowResult.begins ImportRowResult.test
  rcases h.2 with hstatus | hstatus
  · rw [hstatus]
    rfl
  · rw [hstatus]
    rfl

/-- What one row becomes by its acts; without any it stays as it is, but for its device. -/
structure TestsRow (acts : List JobAct) (r r' : ImportRowResult) : Prop where
  leased : r.LeaseOk → r'.LeaseOk
  run : r.LeaseOk → Machine.run onceStep r.test acts = some r'.test
  idle : acts = [] → { r' with deviceId := r.deviceId } = r

theorem TestsRow.same (r : ImportRowResult) (deviceId : Option ℕ) :
    TestsRow [] r { r with deviceId := deviceId } :=
  ⟨id, fun _ => rfl, fun _ => rfl⟩

theorem TestsRow.trans {acts acts' : List JobAct} {r r' r'' : ImportRowResult}
    (h : TestsRow acts r r') (h' : TestsRow acts' r' r'') : TestsRow (acts ++ acts') r r'' := by
  refine ⟨fun hok => h'.leased (h.leased hok), fun hok => ?_, fun hnone => ?_⟩
  · rw [Machine.run_append, h.run hok, Option.bind_some]
    exact h'.run (h.leased hok)
  · obtain ⟨hfirst, hsecond⟩ := List.append_eq_nil_iff.mp hnone
    have hkept := congrArg (fun s => { s with deviceId := r.deviceId }) (h'.idle hsecond)
    exact hkept.trans (h.idle hfirst)

/-- The rows are rewritten as their acts say, and new ones begin. -/
structure Tested (acts : ImportRowResult → List JobAct) (db db' : Database) : Prop where
  rows : ∃ g new, db'.importRowResults = db.importRowResults.map g ++ new ∧ (∀ r, (g r).id = r.id) ∧
    (∀ r ∈ db.importRowResults, TestsRow (acts r) r (g r)) ∧ ∀ r ∈ new, r.Fresh

/-- Rows that are rewritten where they are. -/
theorem Tested.map {acts : ImportRowResult → List JobAct} {g : ImportRowResult → ImportRowResult}
    (h : db'.importRowResults = db.importRowResults.map g) (hid : ∀ r, (g r).id = r.id)
    (hacts : ∀ r ∈ db.importRowResults, TestsRow (acts r) r (g r)) : Tested acts db db' :=
  ⟨g, [], by rw [h, List.append_nil], hid, hacts, fun _ hr => absurd hr List.not_mem_nil⟩

theorem Tested.added {new : List ImportRowResult}
    (h : db'.importRowResults = db.importRowResults ++ new) (hnew : ∀ r ∈ new, r.Fresh) :
    Tested (fun _ => []) db db' :=
  ⟨id, new, by rw [h, List.map_id], fun _ => rfl, fun r _ => .same r r.deviceId, hnew⟩

theorem Tested.same (h : db'.importRowResults = db.importRowResults) :
    Tested (fun _ => []) db db' :=
  .added (by rw [h, List.append_nil]) fun _ hr => absurd hr List.not_mem_nil

theorem Tested.run {action : AppAction} (hlinked : db.Linked) (hlinked' : db'.Linked)
    (hok : TestsOk db) (hstep : appStep b db action = some db')
    (h : Tested (action.testActs db) db db') : TestsOk db' ∧
      Machine.run (Machine.each onceStep) db.tests (action.testMoves b db) = some db'.tests := by
  obtain ⟨g, new, hrows, hid, hold, hnew⟩ := h
  have hkeys : (db.importRowResults.map (·.id)).Nodup := hlinked.distinct .importRowResults
  have hkeys' : (db'.importRowResults.map (·.id)).Nodup := hlinked'.distinct .importRowResults
  refine ⟨?_, ?_⟩
  · intro r hr
    rw [hrows] at hr
    rcases List.mem_append.mp hr with hr | hr
    · obtain ⟨old, hmem, rfl⟩ := List.mem_map.mp hr
      exact (hold old hmem).leased (hok old hmem)
    · exact (hnew r hr).1
  · have hdrop : db'.importRowResults.drop db.importRowResults.length = new := by
      rw [hrows, List.drop_left' (List.length_map _)]
    have hmapped : Machine.run (Machine.each onceStep) db.tests
        (Machine.rowActions (·.id) (action.testActs db) db.importRowResults) =
          some (Machine.rowState (·.id) ImportRowResult.test none (db.importRowResults.map g)) :=
      Machine.run_each_map hkeys hid fun r hr => (hold r hr).run (hok r hr)
    rw [hrows] at hkeys'
    rw [AppAction.testMoves, hstep, Option.elim, hdrop, Machine.run_append, hmapped,
      Option.bind_some]
    unfold Database.tests
    rw [hrows]
    exact Machine.run_each_append hkeys' fun r hr => (hnew r hr).run

/-! ## One row -/

variable {r : ImportRowResult} {workerId : String} {now due : Timestamp}

theorem ImportRowResult.test_pending (h : r.testStatus = .pending) :
    r.test = some (some { ticket := r.id }) := by
  rw [ImportRowResult.test, h]

theorem ImportRowResult.test_running {expires : Timestamp} (h : r.testStatus = .running)
    (hworker : r.testWorkerId = some workerId) (hlease : r.testLeaseExpiresAt = some expires) :
    r.test = some (some { ticket := r.id, lease := some (workerId, expires) }) := by
  rw [ImportRowResult.test, h, hworker, hlease]
  rfl

theorem ImportRowResult.LeaseOk.running (h : r.LeaseOk) (hrunning : r.testStatus = .running) :
    ∃ worker expires, r.testWorkerId = some worker ∧ r.testLeaseExpiresAt = some expires := by
  rw [ImportRowResult.LeaseOk, if_pos hrunning] at h
  obtain ⟨worker, hworker⟩ := Option.isSome_iff_exists.mp h.1
  obtain ⟨expires, hlease⟩ := Option.isSome_iff_exists.mp h.2.1
  exact ⟨worker, expires, hworker, hlease⟩

theorem ImportRowResult.leaseOk_of_released (h : r.testStatus ≠ .running) :
    r.releaseLease.LeaseOk := by
  have hstill : r.releaseLease.testStatus ≠ .running := h
  rw [ImportRowResult.LeaseOk, if_neg hstill]
  exact ⟨rfl, rfl, rfl⟩

/-- The row after the sweep of a claim. -/
def ImportRowResult.swept (now : Timestamp) (r : ImportRowResult) : ImportRowResult :=
  if r.isExpired now then r.requeued else r

theorem ImportRowResult.swept_test (r : ImportRowResult) (now : Timestamp) :
    TestsRow (if r.isExpired now then [.expire now] else []) r (r.swept now) := by
  unfold ImportRowResult.swept
  by_cases hexpired : r.isExpired now = true
  · rw [if_pos hexpired, if_pos hexpired]
    simp only [ImportRowResult.isExpired, Bool.and_eq_true, decide_eq_true_eq] at hexpired
    obtain ⟨hrunning, hover⟩ := hexpired
    refine ⟨fun _ => ?_, fun hok => ?_, fun h => absurd h (List.cons_ne_nil _ _)⟩
    · apply ImportRowResult.leaseOk_of_released
      intro h
      cases h
    obtain ⟨worker, expires, hworker, hlease⟩ := hok.running hrunning
    rw [hlease] at hover
    have hover : expires ≤ now := of_decide_eq_true hover
    rw [ImportRowResult.test_running hrunning hworker hlease]
    simp only [Machine.run, onceStep, step, if_pos hover]
    rfl
  · rw [if_neg hexpired, if_neg hexpired]
    exact .same r r.deviceId

theorem ImportRowResult.claimedBy_test (h : r.testStatus = .pending) (workerId : String)
    (now due : Timestamp) : TestsRow [.claim workerId due] r (r.claimedBy workerId now due) := by
  refine ⟨fun _ => ⟨rfl, rfl, rfl⟩, fun _ => ?_, fun h => absurd h (List.cons_ne_nil _ _)⟩
  rw [ImportRowResult.test_pending h]
  rfl

theorem ImportRowResult.isHeldBy_iff : r.isHeldBy workerId now = true ↔ r.testStatus = .running ∧
    r.testWorkerId = some workerId ∧ ∃ expires, r.testLeaseExpiresAt = some expires ∧
      now < expires := by
  unfold ImportRowResult.isHeldBy ImportRowResult.isLeased
  cases r.testLeaseExpiresAt <;> simp [and_assoc]

theorem ImportRowResult.renewed_test (h : r.isHeldBy workerId now = true) (due : Timestamp) :
    TestsRow [.renew workerId now due] r
      { r with testHeartbeatAt := some now, testLeaseExpiresAt := some due } := by
  obtain ⟨hrunning, hworker, expires, hlease, hbefore⟩ := ImportRowResult.isHeldBy_iff.mp h
  refine ⟨fun _ => ?_, fun _ => ?_, fun h => absurd h (List.cons_ne_nil _ _)⟩
  · rw [ImportRowResult.LeaseOk, if_pos hrunning]
    exact ⟨Option.isSome_iff_exists.mpr ⟨workerId, hworker⟩, rfl, rfl⟩
  · rw [ImportRowResult.test_running hrunning hworker hlease]
    simp only [Machine.run, onceStep, step, true_and, if_pos hbefore, ImportRowResult.test,
      hrunning, hworker]
    rfl

theorem ImportRowResult.withOutcome_test (h : r.isHeldBy workerId now = true)
    (outcome : ImportTestOutcome) :
    TestsRow [.settle workerId now] r (r.withOutcome outcome) := by
  obtain ⟨hrunning, hworker, expires, hlease, hbefore⟩ := ImportRowResult.isHeldBy_iff.mp h
  have hended : (r.withOutcome outcome).test = some none ∧ outcome.status ≠ .running := by
    unfold ImportRowResult.test ImportRowResult.withOutcome ImportRowResult.releaseLease
      ImportTestOutcome.status
    cases outcome.success <;> exact ⟨rfl, by decide⟩
  refine ⟨fun _ => ImportRowResult.leaseOk_of_released hended.2, fun _ => ?_,
    fun h => absurd h (List.cons_ne_nil _ _)⟩
  rw [ImportRowResult.test_running hrunning hworker hlease, hended.1]
  simp only [Machine.run, onceStep, step, true_and, if_pos hbefore]
  rfl

/-! ## The transactions of the tests -/

theorem mem_ids_filter {rows : List ImportRowResult} {p : ImportRowResult → Bool}
    (hids : (rows.map (·.id)).Nodup) (hr : r ∈ rows) :
    r.id ∈ (rows.filter p).map (·.id) ↔ p r = true := by
  constructor
  · intro hmem
    obtain ⟨s, hs, hid⟩ := List.mem_map.mp hmem
    obtain ⟨hs, hp⟩ := List.mem_filter.mp hs
    rwa [← List.inj_on_of_nodup_map hids hs hr hid]
  · exact fun hp => List.mem_map_of_mem (List.mem_filter.mpr ⟨hr, hp⟩)

/-- A claim sweeps all rows, and those that it takes wait after the sweep. -/
theorem claimImportTests_rows (hids : (db.importRowResults.map (·.id)).Nodup) (workerId : String)
    {localCapacity : ℤ} (hcapacity : 0 < localCapacity) (globalLimit : ℤ) (leaseSeconds : ℕ)
    (now wall : Timestamp) :
    let reply := claimImportTests workerId localCapacity globalLimit leaseSeconds now wall db
    reply.2.importRowResults = db.importRowResults.map (fun r =>
        if r.id ∈ reply.1 then
          (r.swept now).claimedBy workerId now (now + leaseSeconds * microsPerSecond)
        else r.swept now) ∧
      ∀ r ∈ db.importRowResults, r.id ∈ reply.1 → (r.swept now).testStatus = .pending := by
  unfold claimImportTests
  rw [if_neg (not_le.mpr hcapacity)]
  dsimp only
  rw [refreshImportBatches_rows]
  generalize now + leaseSeconds * microsPerSecond = due
  set swept := db.updateImportRows ((db.importRowResults.filter (·.isExpired now)).map (·.id))
    ImportRowResult.requeued
  have hswept : swept.importRowResults = db.importRowResults.map (·.swept now) := by
    apply List.map_congr_left
    intro r hr
    unfold ImportRowResult.swept
    exact if_congr (mem_ids_filter hids hr) rfl rfl
  have hsameId : ∀ r : ImportRowResult, (r.swept now).id = r.id := by
    intro r
    unfold ImportRowResult.swept
    split_ifs <;> rfl
  set rows := if min localCapacity (max (globalLimit - activeTests now swept) 0) ≠ 0 then _ else []
    with hrows
  refine ⟨?_, ?_⟩
  · unfold Database.updateImportRows
    dsimp only
    rw [hswept, List.map_map]
    apply List.map_congr_left
    intro r _
    rw [Function.comp_apply, hsameId]
  · intro r hr hmem
    obtain ⟨s, hs, hid⟩ := List.mem_map.mp hmem
    have hpending : s ∈ swept.importRowResults.filter (·.testStatus = .pending) := by
      rw [hrows] at hs
      split_ifs at hs
      · exact (List.mem_insertionSort _).mp (List.mem_of_mem_take hs)
      · cases hs
    obtain ⟨hs, hpending⟩ := List.mem_filter.mp hpending
    rw [hswept] at hs
    obtain ⟨old, hold, rfl⟩ := List.mem_map.mp hs
    rw [hsameId] at hid
    rw [← List.inj_on_of_nodup_map hids hold hr hid]
    exact of_decide_eq_true hpending

theorem claimImportTests_tested (hids : (db.importRowResults.map (·.id)).Nodup) (workerId : String)
    (localCapacity globalLimit : ℤ) (leaseSeconds : ℕ) (now wall : Timestamp) :
    Tested ((AppAction.claimTests workerId localCapacity globalLimit leaseSeconds now
      wall).testActs db) db
      (claimImportTests workerId localCapacity globalLimit leaseSeconds now wall db).2 := by
  by_cases hcapacity : 0 < localCapacity
  · obtain ⟨hrows, hwaits⟩ :=
      claimImportTests_rows hids workerId hcapacity globalLimit leaseSeconds now wall
    have hacts : (AppAction.claimTests workerId localCapacity globalLimit leaseSeconds now
        wall).testActs db = fun r => (if r.isExpired now then [.expire now] else []) ++
          if r.id ∈ (claimImportTests workerId localCapacity globalLimit leaseSeconds now
            wall db).1 then [.claim workerId (now + leaseSeconds * microsPerSecond)] else [] := by
      funext r
      simp only [AppAction.testActs, hcapacity, decide_true, Bool.true_and]
    rw [hacts]
    generalize now + leaseSeconds * microsPerSecond = due at hrows ⊢
    apply Tested.map hrows
    · intro r
      unfold ImportRowResult.swept
      split_ifs <;> rfl
    · intro r hr
      apply (r.swept_test now).trans
      split_ifs with hmem
      · exact ImportRowResult.claimedBy_test (hwaits r hr hmem) workerId now due
      · exact .same _ _
  · have hnothing : claimImportTests workerId localCapacity globalLimit leaseSeconds now wall db =
        ([], db) := by
      rw [claimImportTests, if_pos (not_lt.mp hcapacity)]
    have hacts : (AppAction.claimTests workerId localCapacity globalLimit leaseSeconds now
        wall).testActs db = fun _ => [] := by
      funext r
      simp [AppAction.testActs, hcapacity, hnothing]
    rw [hacts, hnothing]
    exact .same rfl

theorem claimSpecific_tested (hids : (db.importRowResults.map (·.id)).Nodup) (workerId : String)
    (rowId : ℕ) (globalLimit : ℤ) (leaseSeconds : ℕ) (now wall : Timestamp) :
    Tested ((AppAction.claimSpecific workerId rowId globalLimit leaseSeconds now
      wall).testActs db) db
      (claimSpecific workerId rowId globalLimit leaseSeconds now wall db) := by
  show Tested (fun r =>
    if r.id = rowId ∧ r.testStatus = .pending ∧ (activeTests now db : ℤ) < globalLimit then
      [.claim workerId (now + leaseSeconds * microsPerSecond)]
    else []) db _
  unfold claimSpecific
  generalize now + leaseSeconds * microsPerSecond = due
  cases hfind : db.importRowResults.find? (·.id = rowId) with
  | none =>
    refine .map (g := id) (List.map_id _).symm (fun _ => rfl) fun r hr => ?_
    have hother : r.id ≠ rowId := by simpa using List.find?_eq_none.mp hfind r hr
    rw [if_neg fun h => hother h.1]
    exact .same r r.deviceId
  | some row =>
    have hrow := List.mem_of_find?_eq_some hfind
    have hrowId : row.id = rowId := by simpa using List.find?_some hfind
    have hsame : ∀ r ∈ db.importRowResults, r.id = rowId → r = row := fun r hr hid =>
      List.inj_on_of_nodup_map hids hr hrow (hid.trans hrowId.symm)
    dsimp only
    split_ifs with hroom
    · apply Tested.map (g := fun r => if r.id ∈ [rowId] then r.claimedBy workerId now due else r)
      · rw [refreshImportBatches_rows]
        rfl
      · intro r
        split_ifs <;> rfl
      · intro r hr
        by_cases hid : r.id = rowId
        · obtain rfl := hsame r hr hid
          rw [if_pos (List.mem_singleton.mpr hid), if_pos ⟨hid, hroom⟩]
          exact ImportRowResult.claimedBy_test hroom.1 workerId now due
        · rw [if_neg fun h => hid (List.mem_singleton.mp h), if_neg fun h => hid h.1]
          exact .same r r.deviceId
    · refine .map (g := id) (List.map_id _).symm (fun _ => rfl) fun r hr => ?_
      rw [if_neg]
      · exact .same r r.deviceId
      · rintro ⟨hid, hclaims⟩
        rw [hsame r hr hid] at hclaims
        exact hroom hclaims

theorem renewImportTestLeases_tested (hids : (db.importRowResults.map (·.id)).Nodup)
    (workerId : String) (rowIds : List ℕ) (leaseSeconds : ℕ) (now : Timestamp) :
    Tested ((AppAction.renewTests workerId rowIds leaseSeconds now).testActs db) db
      (renewImportTestLeases workerId rowIds leaseSeconds now db).2 := by
  show Tested (fun r =>
    if r.id ∈ rowIds ∧ r.id ∉ (renewImportTestLeases workerId rowIds leaseSeconds now db).1 then
      [.renew workerId now (now + leaseSeconds * microsPerSecond)]
    else []) db _
  by_cases hnone : rowIds.isEmpty = true
  · have hnothing : renewImportTestLeases workerId rowIds leaseSeconds now db = ([], db) := by
      rw [renewImportTestLeases, if_pos hnone]
    obtain rfl := List.isEmpty_iff.mp hnone
    rw [hnothing]
    simp only [List.not_mem_nil, false_and, if_false]
    exact .same rfl
  · unfold renewImportTestLeases
    rw [if_neg hnone]
    dsimp only
    generalize now + leaseSeconds * microsPerSecond = due
    set renews := fun r : ImportRowResult => decide (r.id ∈ rowIds) && r.isHeldBy workerId now
    -- a row that was asked for is not lost exactly when it was renewed
    have hkept : ∀ r ∈ db.importRowResults, (r.id ∈ rowIds ∧ r.id ∉ rowIds.dedup.filter
        (· ∉ (db.importRowResults.filter renews).map (·.id))) ↔ renews r = true := by
      intro r hr
      rw [List.mem_filter, List.mem_dedup, decide_eq_true_eq, mem_ids_filter hids hr,
        not_and_not_right]
      constructor
      · exact fun h => h.2 h.1
      · exact fun h => ⟨of_decide_eq_true (Bool.and_eq_true_iff.mp h).1, fun _ => h⟩
    apply Tested.map rfl
    · intro r
      split_ifs <;> rfl
    · intro r hr
      rw [if_congr (hkept r hr) rfl rfl]
      split_ifs with hrenewed
      · exact ImportRowResult.renewed_test (Bool.and_eq_true_iff.mp hrenewed).2 due
      · exact .same r r.deviceId

theorem saveResult_tested (hids : (db.importRowResults.map (·.id)).Nodup) {workerId : String}
    {rowId : ℕ} {outcome : ImportTestOutcome} {now wall : Timestamp} {r : Option ℕ × Database}
    (hsave : saveResult workerId rowId outcome now wall db = .ok r) :
    Tested ((AppAction.saveResult workerId rowId outcome now wall).testActs db) db r.2 := by
  have hacts : (AppAction.saveResult workerId rowId outcome now wall).testActs db =
      fun r => if r.id = rowId then [.settle workerId now] else [] := by
    funext r
    simp only [AppAction.testActs, hsave]
  rw [hacts]
  unfold saveResult at hsave
  cases hheld : heldRow workerId rowId now db with
  | none =>
    rw [hheld] at hsave
    cases hsave
  | some row =>
    rw [hheld] at hsave
    cases hsave
    obtain ⟨hrow, hrowId, -⟩ := heldRow_spec hheld
    have hholds : row.isHeldBy workerId now = true := by
      have hfound := List.find?_some hheld
      exact (Bool.and_eq_true _ _ ▸ hfound).2
    apply Tested.map
      (g := fun r => if r.id ∈ [row.id] then r.withOutcome outcome else r)
    · rw [refreshImportBatches_rows]
      rfl
    · intro r
      split_ifs <;> rfl
    · intro r hr
      by_cases hid : r.id = rowId
      · obtain rfl := List.inj_on_of_nodup_map hids hr hrow (hid.trans hrowId.symm)
        rw [if_pos (List.mem_singleton.mpr rfl), if_pos hid]
        exact ImportRowResult.withOutcome_test hholds outcome
      · have hother : r.id ∉ [row.id] := fun h => hid ((List.mem_singleton.mp h).trans hrowId)
        rw [if_neg hother, if_neg hid]
        exact .same r r.deviceId

/-! ## Requests and imports -/

theorem ImportedRow.result_fresh (row : ImportedRow) (id batchId : ℕ) :
    (row.result id batchId).Fresh := by
  have hstatus := row.result_testStatus id batchId
  refine ⟨?_, ?_⟩
  · have hidle : (row.result id batchId).testStatus ≠ .running := by
      rw [hstatus]
      split_ifs <;> nofun
    rw [ImportRowResult.LeaseOk, if_neg hidle]
    unfold ImportedRow.result
    cases row.outcome <;> exact ⟨rfl, rfl, rfl⟩
  · rw [hstatus]
    split_ifs
    · exact Or.inl rfl
    · exact Or.inr rfl

theorem importRow_fresh (casing : Casing) (encrypt : String → String) (cells : ImportCells)
    (rowNumber : ℕ) (copy : ImportBatch) (db : Database) :
    ∃ new, (importRow (rowOutcome casing encrypt cells rowNumber db).1 copy
      (rowOutcome casing encrypt cells rowNumber db).2).2.importRowResults =
        db.importRowResults ++ new ∧ ∀ r ∈ new, r.Fresh := by
  obtain ⟨-, hrows, -⟩ := rowOutcome_frame casing encrypt cells rowNumber db
  obtain ⟨-, hadded, -⟩ := importRow_results (rowOutcome casing encrypt cells rowNumber db).1 copy
    (rowOutcome casing encrypt cells rowNumber db).2
  rw [hrows] at hadded
  refine ⟨_, hadded, fun r hr => ?_⟩
  rw [List.mem_singleton.mp hr]
  exact ImportedRow.result_fresh ..

/-- Every row of a file gets one result. -/
theorem importRows_fresh (casing : Casing) (encrypt : String → String)
    (rows : List (ℕ × ImportCells)) (copy : ImportBatch) (db : Database) :
    ∃ new, (importRows casing encrypt rows copy db).2.importRowResults =
      db.importRowResults ++ new ∧ ∀ r ∈ new, r.Fresh := by
  induction rows generalizing copy db with
  | nil => exact ⟨[], (List.append_nil _).symm, fun _ hr => absurd hr List.not_mem_nil⟩
  | cons cells rest ih =>
    obtain ⟨new, hfresh, hnew⟩ := importRow_fresh casing encrypt cells.2 cells.1 copy db
    obtain ⟨later, hrest, hlater⟩ := ih _ _
    refine ⟨new ++ later, ?_, ?_⟩
    · rw [importRows, hrest, hfresh, List.append_assoc]
    · intro r hr
      exact (List.mem_append.mp hr).elim (hnew r) (hlater r)

/-- A device that is deleted leaves the rows that imported it. -/
theorem deleteDevice_tested {deviceId : ℕ} {wall : Timestamp}
    (hdelete : deleteDevice deviceId wall db = .ok db') : Tested (fun _ => []) db db' := by
  have hcancelled := (cancelDevice_rest deviceId wall db).2
  unfold deleteDevice at hdelete
  split_ifs at hdelete
  dsimp only at hdelete
  split_ifs at hdelete
  cases hdelete
  apply Tested.map
    (g := fun r => if r.deviceId = some deviceId then { r with deviceId := none } else r)
  · rw [← hcancelled]
    rfl
  · intro r
    split_ifs <;> rfl
  · intro r _
    split_ifs
    · exact .same r none
    · exact .same r r.deviceId

theorem appStep_tested (hlinked : db.Linked) {action : AppAction}
    (hstep : appStep b db action = some db') : Tested (action.testActs db) db db' := by
  have hids : (db.importRowResults.map (·.id)).Nodup := hlinked.distinct .importRowResults
  cases action with
  | queue call =>
    simp only [appStep] at hstep
    split_ifs at hstep
    cases hstep
    exact .same (perform_importRows call db)
  | request request =>
    simp only [appStep] at hstep
    rcases requestStep_cases hstep with hkept | ⟨deviceId, wall, -, hdelete⟩ |
      ⟨filename, rows, wall, -, rfl⟩
    · exact .same hkept.2
    · exact deleteDevice_tested hdelete
    · obtain ⟨new, hrows, hnew⟩ := importRows_fresh b.toCasing b.encrypt rows
        (createImportBatch filename rows.length db).1 (createImportBatch filename rows.length db).2
      exact .added hrows hnew
  | importRow copy rowNumber cells =>
    simp only [appStep] at hstep
    split_ifs at hstep
    cases hstep
    obtain ⟨new, hrows, hnew⟩ := importRow_fresh b.toCasing b.encrypt cells rowNumber copy db
    exact .added hrows hnew
  | claimTests workerId localCapacity globalLimit leaseSeconds now wall =>
    cases hstep
    exact claimImportTests_tested hids workerId localCapacity globalLimit leaseSeconds now wall
  | claimSpecific workerId rowId globalLimit leaseSeconds now wall =>
    cases hstep
    exact claimSpecific_tested hids workerId rowId globalLimit leaseSeconds now wall
  | renewTests workerId rowIds leaseSeconds now =>
    cases hstep
    exact renewImportTestLeases_tested hids workerId rowIds leaseSeconds now
  | saveResult workerId rowId outcome now wall =>
    simp only [appStep] at hstep
    split at hstep
    · rename_i hrefused
      cases hstep
      have hacts : (AppAction.saveResult workerId rowId outcome now wall).testActs db =
          fun _ => [] := by
        funext r
        simp only [AppAction.testActs, hrefused]
      rw [hacts]
      exact .same rfl
    · rename_i hsave
      cases hstep
      exact saveResult_tested hids hsave
  | createImportBatch filename totalRows | finishImport copy wall | deleteScanRuns scanIds
  | deleteConnectionRecords scanIds | syncObservations lowerScanId upperScanId =>
    cases hstep
    exact .same rfl

/-! ## Runs of the application -/

/-- The moves of a run. -/
def testMoves (b : Backend) (actions : List AppAction) : List (ℕ × JobAct) :=
  Machine.trace (appStep b) (AppAction.testMoves b) {} actions

theorem testsOk_empty : TestsOk {} := fun _ hr => absurd hr List.not_mem_nil

/-- From any database in order, the actions of a run answer with moves that lead to its tests. -/
theorem run_tested {start : Database} (hsound : start.Sound) (hok : TestsOk start)
    {actions : List AppAction} (hrun : Machine.run (appStep b) start actions = some db) :
    (db.Sound ∧ TestsOk db) ∧ Machine.run (Machine.each onceStep) start.tests
      (Machine.trace (appStep b) (AppAction.testMoves b) start actions) = some db.tests := by
  apply Machine.run_trace (fun db => db.Sound ∧ TestsOk db) Database.tests _ actions start db
    ⟨hsound, hok⟩ hrun
  rintro db action db' ⟨hsound, hok⟩ hstep
  have hsound' := hsound.appStep hstep
  obtain ⟨hok', hmoves⟩ :=
    (appStep_tested hsound.linked hstep).run hsound.linked hsound'.linked hok hstep
  exact ⟨⟨hsound', hok'⟩, hmoves⟩

/-- Along every run the imported rows are a table of leased jobs, each of which is used once: what
the actions have answered are moves that the table allows, and they lead to the tests that are
stored. -/
theorem tests_of_run {actions : List AppAction}
    (hrun : Machine.run (appStep b) {} actions = some db) : TestsOk db ∧
      Machine.run (Machine.each onceStep) (fun _ => none) (testMoves b actions) =
        some db.tests := by
  obtain ⟨⟨-, hok⟩, hmoves⟩ := run_tested .empty testsOk_empty hrun
  exact ⟨hok, hmoves⟩

/-- A file with one device, which a worker tests. -/
def importThenTest : List AppAction :=
  [.createImportBatch "devices.xlsx" 1,
    .importRow { id := 1, filename := "devices.xlsx", totalRows := 1 } 2
      { name := .text "web-01", host := .text "10.0.0.10", osType := .text "linux", port := .empty,
        username := .text "root", password := .text "secret", clusterName := .empty,
        scanIntervalMinutes := .empty, scheduledEnabled := .empty },
    .claimTests "w" 1 5 60 1000000 1,
    .renewTests "w" [1] 60 2000000,
    .saveResult "w" 1 ⟨true, "ok"⟩ 3000000 3]

theorem importThenTest_tests :
    ∃ db, Machine.run (appStep plainBackend) {} importThenTest = some db ∧ TestsOk db ∧
      Machine.run (Machine.each onceStep) (fun _ => none) (testMoves plainBackend importThenTest) =
        some db.tests := by
  have hrun : (Machine.run (appStep plainBackend) {} importThenTest).isSome = true := by
    decide +kernel
  obtain ⟨db, hdb⟩ := Option.isSome_iff_exists.mp hrun
  exact ⟨db, hdb, tests_of_run hdb⟩

/-- No test is lost and none is saved twice: a row is submitted once at most, its result is saved
once at most, and each claim has expired, was saved or is still running. -/
theorem tests_conserved {actions : List AppAction}
    (hrun : Machine.run (appStep b) {} actions = some db) (rowId : ℕ) :
    let acts := Machine.actionsOf rowId (testMoves b actions)
    let row := db.importRowResults.find? (·.id = rowId)
    acts.countP Act.isSubmit = (if row.any (·.testStatus ≠ .notApplicable) then 1 else 0) ∧
      acts.countP Act.isEnd =
        (if row.any fun r => r.testStatus = .success ∨ r.testStatus = .failed then 1 else 0) ∧
      acts.countP Act.isClaim = acts.countP Act.isRelease +
        if row.any (·.testStatus = .running) then 1 else 0 := by
  intro acts row
  obtain ⟨⟨-, hok⟩, hmoves⟩ := run_tested .empty testsOk_empty hrun
  have hacts : Machine.run onceStep none acts = some (db.tests rowId) :=
    Machine.run_each_iff.mp hmoves rowId
  obtain ⟨hsubmits, hends⟩ := run_once_counts hacts
  obtain ⟨-, hleases⟩ := run_conserves (run_once_join hacts)
  have hcounts : begun (db.tests rowId) =
        (if row.any (·.testStatus ≠ .notApplicable) then 1 else 0) ∧
      ended (db.tests rowId) =
        (if row.any fun r => r.testStatus = .success ∨ r.testStatus = .failed then 1 else 0) ∧
      leased (db.tests rowId).join = if row.any (·.testStatus = .running) then 1 else 0 := by
    unfold Database.tests Machine.rowState
    cases hrow : db.importRowResults.find? (·.id = rowId) with
    | none => simp [row, hrow, begun, ended, leased]
    | some r =>
      have hleased := hok r (List.mem_of_find?_eq_some hrow)
      cases hstatus : r.testStatus with
      | running =>
        obtain ⟨worker, expires, hworker, hlease⟩ := hleased.running hstatus
        simp [row, hrow, begun, ended, leased, hstatus,
          ImportRowResult.test_running hstatus hworker hlease]
      | _ => simp [row, hrow, begun, ended, leased, ImportRowResult.test, hstatus]
  have hempty : begun (ι := ℕ) (ω := String) (τ := Timestamp) none = 0 ∧
      ended (ι := ℕ) (ω := String) (τ := Timestamp) none = 0 ∧
      leased (ι := ℕ) (ω := String) (τ := Timestamp) (Option.join none) = 0 := ⟨rfl, rfl, rfl⟩
  omega

theorem importThenTest_conserved :
    ∃ db, Machine.run (appStep plainBackend) {} importThenTest = some db ∧
      let acts := Machine.actionsOf 1 (testMoves plainBackend importThenTest)
      let row := db.importRowResults.find? (·.id = 1)
      acts.countP Act.isSubmit = (if row.any (·.testStatus ≠ .notApplicable) then 1 else 0) ∧
        acts.countP Act.isEnd =
          (if row.any fun r => r.testStatus = .success ∨ r.testStatus = .failed then 1 else 0) ∧
        acts.countP Act.isClaim = acts.countP Act.isRelease +
          if row.any (·.testStatus = .running) then 1 else 0 := by
  have hrun : (Machine.run (appStep plainBackend) {} importThenTest).isSome = true := by
    decide +kernel
  obtain ⟨db, hdb⟩ := Option.isSome_iff_exists.mp hrun
  exact ⟨db, hdb, tests_conserved hdb 1⟩

/-! ## Results are final -/

/-- A row whose test is over stays as it is, but for its device. -/
theorem Tested.result_stays {action : AppAction} {row : ImportRowResult}
    (hrow : row ∈ db.importRowResults) (hok : TestsOk db) (hended : row.test = some none)
    (h : Tested (action.testActs db) db db') : ∃ row' ∈ db'.importRowResults,
      { row' with deviceId := row.deviceId } = row := by
  obtain ⟨g, new, hrows, -, hold, -⟩ := h
  obtain ⟨-, hacts, hidle⟩ := hold row hrow
  refine ⟨g row, ?_, hidle ?_⟩
  · rw [hrows]
    exact List.mem_append_left _ (List.mem_map_of_mem hrow)
  · have hblocked := hacts (hok row hrow)
    rw [hended] at hblocked
    cases hnext : action.testActs db row with
    | nil => rfl
    | cons act rest =>
      rw [hnext] at hblocked
      cases hblocked

theorem test_eq_of_kept {row row' : ImportRowResult}
    (h : { row' with deviceId := row.deviceId } = row) : row'.test = row.test := by
  rw [← h]
  rfl

theorem run_result_stays {start : Database} (hsound : start.Sound) (hok : TestsOk start)
    {row : ImportRowResult} (hrow : row ∈ start.importRowResults) (hended : row.test = some none)
    {actions : List AppAction} (hrun : Machine.run (appStep b) start actions = some db) :
    ∃ row' ∈ db.importRowResults, { row' with deviceId := row.deviceId } = row := by
  induction actions generalizing start row with
  | nil =>
    cases hrun
    exact ⟨row, hrow, rfl⟩
  | cons action rest ih =>
    obtain ⟨mid, hstep, hrest⟩ := Option.bind_eq_some_iff.mp hrun
    have htested := appStep_tested hsound.linked hstep
    have hsound' := hsound.appStep hstep
    obtain ⟨row', hrow', hkept⟩ := htested.result_stays hrow hok hended
    obtain ⟨row'', hrow'', hkept'⟩ := ih hsound' (htested.run hsound.linked hsound'.linked hok
      hstep).1 hrow' ((test_eq_of_kept hkept).trans hended) hrest
    have hboth := congrArg (fun r => { r with deviceId := row.deviceId }) hkept'
    exact ⟨row'', hrow'', hboth.trans hkept⟩

/-- A result that was saved is never written again, and its row is never deleted. -/
theorem test_result_is_final {earlier actions : List AppAction} {row : ImportRowResult}
    (hearlier : Machine.run (appStep b) {} earlier = some db) (hrow : row ∈ db.importRowResults)
    (hended : row.testStatus = .success ∨ row.testStatus = .failed)
    (hrun : Machine.run (appStep b) db actions = some db') :
    ∃ row' ∈ db'.importRowResults, { row' with deviceId := row.deviceId } = row := by
  obtain ⟨⟨hsound, hok⟩, -⟩ := run_tested .empty testsOk_empty hearlier
  have htest : row.test = some none := by
    unfold ImportRowResult.test
    rcases hended with hstatus | hstatus <;> rw [hstatus]
  exact run_result_stays hsound hok hrow htest hrun

/-- The device is deleted, and another worker looks for tests after the lease would be over. -/
def deleteThenClaim : List AppAction :=
  [.request (.deleteDevice 1 4), .claimTests "v" 1 5 60 200000000 5]

theorem importThenTest_is_final :
    ∃ db db', ∃ row ∈ db.importRowResults,
      Machine.run (appStep plainBackend) {} importThenTest = some db ∧
        Machine.run (appStep plainBackend) db deleteThenClaim = some db' ∧
          row.testStatus = .success ∧
            ∃ row' ∈ db'.importRowResults, { row' with deviceId := row.deviceId } = row := by
  have hfirst : ((Machine.run (appStep plainBackend) {} importThenTest).any fun db =>
      db.importRowResults.any (·.testStatus = .success)) = true := by decide +kernel
  have hboth : (Machine.run (appStep plainBackend) {}
      (importThenTest ++ deleteThenClaim)).isSome = true := by decide +kernel
  obtain ⟨db, hearlier, hrows⟩ := (Option.any_eq_true _ _).mp hfirst
  obtain ⟨row, hrow, hstatus⟩ := List.any_eq_true.mp hrows
  have hstatus : row.testStatus = .success := of_decide_eq_true hstatus
  obtain ⟨db', hboth⟩ := Option.isSome_iff_exists.mp hboth
  rw [Machine.run_append, hearlier, Option.bind_some] at hboth
  exact ⟨db, db', row, hrow, hearlier, hboth, hstatus,
    test_result_is_final hearlier hrow (Or.inl hstatus) hboth⟩

end ConnectionTopology
