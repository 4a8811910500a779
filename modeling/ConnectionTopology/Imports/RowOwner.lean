import ConnectionTopology.Imports.TestStatements

/-!
# One owner for each tested row

A claim locks rows that are pending or expired, so it takes none from a live worker.
`_claim_specific` decides on a row that it read before the advisory lock was granted. As
long as no claim of the row has committed since then, its update is as good as a locked one;
otherwise it takes the row from the worker that has claimed it, and one claim goes missing
in the count.
-/
namespace ConnectionTopology

/-- No claim has committed since `_claim_specific` read the row that it updates. -/
def TestRowState.claimsUnseen (s : TestRowState) : TestRowAction → Bool
  | .specific n =>
    match s.txs[n]? with
    | some (.specific { rowId, stage := .counted row, .. }) =>
      s.db.importRowResults.all fun r =>
        r.id ≠ rowId || r.testAttemptCount = row.testAttemptCount
    | _ => true
  | _ => true

/-! ## The invariant -/

/-- What is known of a row that the transaction has locked. -/
def TestTx.RowOk (tx : TestTx) (r : ImportRowResult) : Prop :=
  match tx with
  | .claim c => r.testStatus = .pending ∨ r.isLeased c.now = false
  | .save _ => r.testStatus = .running
  | .specific { stage := .written row, .. } =>
    r.testStatus = .pending ∧ r.testAttemptCount = row.testAttemptCount
  | _ => True

/-- The object in hand before the update. -/
def SpecificStage.row? : SpecificStage → Option ImportRowResult
  | .waiting row | .locked row | .counted row => some row
  | .reading | .written _ => none

/-- The row is still pending if no claim has counted up since it was read. -/
def SpecificTx.Knows (c : SpecificTx) (rows : List ImportRowResult) : Prop :=
  ∀ row, c.stage.row? = some row → ∀ r ∈ rows, r.id = c.rowId →
    row.testAttemptCount ≤ r.testAttemptCount ∧
      (r.testAttemptCount = row.testAttemptCount → r.testStatus = .pending)

/-- What a commit may do to a row: claims count up, and a live owner stays. -/
structure RowMoves (clock : Timestamp) (r r' : ImportRowResult) : Prop where
  attempts : r.testAttemptCount ≤ r'.testAttemptCount
  pending : r'.testAttemptCount = r.testAttemptCount → r.testStatus = .pending →
    r'.testStatus = .pending
  owner : r.testStatus = .running → r.isLeased clock = true →
    ∀ workerId, r'.testWorkerId = some workerId → r.testWorkerId = some workerId

structure RowInv (s : TestRowState) : Prop where
  locks : RowLocks.Inv (·.id) TestTx.locked TestTx.RowOk s.db.importRowResults s.txs
  begun : ∀ c, .claim c ∈ s.txs → c.now ≤ s.clock
  chosen : ∀ c expired rows, .claim c ∈ s.txs → c.stage = .claiming expired rows → rows.Nodup
  knows : ∀ c, .specific c ∈ s.txs → c.Knows s.db.importRowResults
  counted : ∀ r ∈ s.db.importRowResults, r.testAttemptCount = s.claims.count r.id

/-- No worker becomes the owner of a row that another one holds. -/
def OneOwner (s s' : TestRowState) : Prop :=
  ∀ r ∈ s.db.importRowResults, r.testStatus = .running → r.isLeased s.clock = true →
    ∀ r' ∈ s'.db.importRowResults, r'.id = r.id →
      ∀ workerId, r'.testWorkerId = some workerId → r.testWorkerId = some workerId

theorem RowMoves.refl (clock : Timestamp) (r : ImportRowResult) : RowMoves clock r r := by
  constructor
  case attempts => exact le_rfl
  case pending => exact fun _ h => h
  case owner => exact fun _ _ _ h => h

theorem SpecificTx.Knows.change {c : SpecificTx} {held : List ℕ} {clock : Timestamp}
    {rows rows' : List ImportRowResult} (h : c.Knows rows)
    (hchange : RowLocks.Change (·.id) held (RowMoves clock) rows rows') : c.Knows rows' := by
  intro row hrow r' hr' hid
  obtain ⟨r, hr, hkey, hmoves, -⟩ := hchange.mem hr'
  obtain ⟨hle, hpending⟩ := h row hrow r hr (Eq.trans hkey hid)
  have hup := hmoves.attempts
  refine ⟨by omega, fun hsame => ?_⟩
  exact hmoves.pending (by omega) (hpending (by omega))

variable {globalLimit : ℕ} {s : TestRowState}

/-- Rows keep their owner when every change is of the allowed kind. -/
theorem RowInv.oneOwner (h : RowInv s) {held : List ℕ} {s' : TestRowState}
    (hchange : RowLocks.Change (·.id) held (RowMoves s.clock) s.db.importRowResults
      s'.db.importRowResults) : OneOwner s s' := by
  intro r hr hrunning hlive r' hr' hid
  obtain ⟨old, hold, hkey, hmoves, -⟩ := hchange.mem hr'
  obtain rfl := h.locks.unique hold hr (Eq.trans hkey hid)
  exact hmoves.owner hrunning hlive

theorem RowInv.sameRows (h : RowInv s) {s' : TestRowState}
    (hrows : s'.db.importRowResults = s.db.importRowResults) : OneOwner s s' := by
  have hsame : RowLocks.Change (·.id) [] (RowMoves s.clock) s.db.importRowResults
      s'.db.importRowResults := by
    rw [hrows]
    exact RowLocks.Change.refl (RowMoves.refl s.clock)
  exact h.oneOwner hsame

/-! ## Moving on, beginning and ending -/

/-- A transaction moves on without a commit. -/
theorem RowInv.setTx (h : RowInv s) {n : ℕ} {old tx : TestTx} (hn : s.txs[n]? = some old)
    (hlocks : ∀ id ∈ tx.locked, id ∈ old.locked ∨ s.lockedByOther n id = false)
    (hrows : ∀ r ∈ s.db.importRowResults, r.id ∈ tx.locked → tx.RowOk r)
    (hclaim : ∀ c, tx = .claim c → c.now ≤ s.clock ∧
      ∀ expired rows, c.stage = .claiming expired rows → rows.Nodup)
    (hknows : ∀ c, tx = .specific c → c.Knows s.db.importRowResults) :
    RowInv (s.setTx n tx) := by
  constructor
  case locks =>
    exact h.locks.finish hn (RowLocks.Change.refl (RowMoves.refl s.clock)) hlocks hrows
  case begun =>
    intro c hc
    rcases Machine.mem_set_cases hc with hnew | ⟨m, -, hm⟩
    · exact (hclaim c hnew.symm).1
    · exact h.begun c (List.mem_of_getElem? hm)
  case chosen =>
    intro c expired rows hc
    rcases Machine.mem_set_cases hc with hnew | ⟨m, -, hm⟩
    · exact (hclaim c hnew.symm).2 expired rows
    · exact h.chosen c expired rows (List.mem_of_getElem? hm)
  case knows =>
    intro c hc
    rcases Machine.mem_set_cases hc with hnew | ⟨m, -, hm⟩
    · exact hknows c hnew.symm
    · exact h.knows c (List.mem_of_getElem? hm)
  case counted => exact h.counted

/-- A transaction ends with a commit that changes only rows that it had locked. -/
theorem RowInv.finish (h : RowInv s) {n : ℕ} {old : TestTx} {db : Database} {claimed : List ℕ}
    (hn : s.txs[n]? = some old)
    (hchange : RowLocks.Change (·.id) old.locked (RowMoves s.clock) s.db.importRowResults
      db.importRowResults)
    (hcounted : ∀ r ∈ db.importRowResults, r.testAttemptCount = (s.claims ++ claimed).count r.id) :
    RowInv (s.finish n db claimed) := by
  constructor
  case locks => exact h.locks.leave hn hchange rfl
  case begun =>
    intro c hc
    rcases Machine.mem_set_cases hc with hnew | ⟨m, -, hm⟩
    · cases hnew
    · exact h.begun c (List.mem_of_getElem? hm)
  case chosen =>
    intro c expired rows hc
    rcases Machine.mem_set_cases hc with hnew | ⟨m, -, hm⟩
    · cases hnew
    · exact h.chosen c expired rows (List.mem_of_getElem? hm)
  case knows =>
    intro c hc
    rcases Machine.mem_set_cases hc with hnew | ⟨m, -, hm⟩
    · cases hnew
    · exact (h.knows c (List.mem_of_getElem? hm)).change hchange
  case counted => exact hcounted

theorem RowInv.begin (h : RowInv s) {tx : TestTx} (hlocked : tx.locked = [])
    (hclaim : ∀ c, tx = .claim c → c.now ≤ s.clock ∧ c.stage = .waiting)
    (hspecific : ∀ c, tx = .specific c → c.stage = .reading) : RowInv (s.begin tx) := by
  constructor
  case locks => exact h.locks.begin hlocked
  case begun =>
    intro c hc
    rcases List.mem_append.mp hc with hold | hnew
    · exact h.begun c hold
    · exact (hclaim c (List.mem_singleton.mp hnew).symm).1
  case chosen =>
    intro c expired rows hc hstage
    rcases List.mem_append.mp hc with hold | hnew
    · exact h.chosen c expired rows hold hstage
    · rw [(hclaim c (List.mem_singleton.mp hnew).symm).2] at hstage
      cases hstage
  case knows =>
    intro c hc row hrow
    rcases List.mem_append.mp hc with hold | hnew
    · exact h.knows c hold row hrow
    · rw [hspecific c (List.mem_singleton.mp hnew).symm] at hrow
      cases hrow
  case counted => exact h.counted

/-- A transaction is over without a commit. -/
theorem RowInv.drop (h : RowInv s) (n : ℕ) : RowInv (s.setTx n .done) := by
  cases hn : s.txs[n]? with
  | none =>
    have hsame : s.txs.set n .done = s.txs := List.set_eq_of_length_le (by simpa using hn)
    simpa [TestRowState.setTx, hsame] using h
  | some old =>
    apply h.setTx hn
    · simp [TestTx.locked]
    · simp [TestTx.locked]
    · exact fun _ hc => by cases hc
    · exact fun _ hc => by cases hc

/-! ## `claim_import_tests` -/

theorem ImportRowResult.not_leased_mono {r : ImportRowResult} {now later : Timestamp}
    (h : now ≤ later) (hover : r.isLeased now = false) : r.isLeased later = false := by
  unfold ImportRowResult.isLeased at *
  cases hlease : r.testLeaseExpiresAt with
  | none => rfl
  | some lease =>
    simp only [hlease, decide_eq_false_iff_not, not_lt] at hover ⊢
    exact le_trans hover h

theorem ImportRowResult.not_leased_of_expired {r : ImportRowResult} {now : Timestamp}
    (h : r.isExpired now = true) : r.isLeased now = false := by
  unfold ImportRowResult.isExpired at h
  unfold ImportRowResult.isLeased
  cases hlease : r.testLeaseExpiresAt with
  | none => rfl
  | some lease => simpa [hlease] using (Bool.and_eq_true_iff.mp h).2

@[simp] theorem sweptRows_id (expired : List ℕ) (r : ImportRowResult) :
    (if r.id ∈ expired then r.requeued else r).id = r.id := by
  split_ifs <;> rfl

theorem mem_pendingRows {n : ℕ} {expired : List ℕ} {limit id : ℕ}
    (h : id ∈ s.pendingRows n expired limit) : ∃ r ∈ s.db.importRowResults, r.id = id ∧
      (id ∈ expired ∨ r.testStatus = .pending) ∧ s.lockedByOther n id = false := by
  unfold TestRowState.pendingRows at h
  obtain ⟨row, hrow, rfl⟩ := List.mem_map.mp h
  have hsorted := List.mem_of_mem_take hrow
  rw [List.mem_insertionSort, List.mem_filter] at hsorted
  obtain ⟨hswept, hpending⟩ := hsorted
  simp only [Bool.and_eq_true, decide_eq_true_eq, Bool.not_eq_true'] at hpending
  obtain ⟨r, hr, rfl⟩ := List.mem_map.mp hswept
  rw [sweptRows_id] at hpending ⊢
  refine ⟨r, hr, rfl, ?_, hpending.2⟩
  by_cases hexp : r.id ∈ expired
  · exact Or.inl hexp
  · rw [if_neg hexp] at hpending
    exact Or.inr hpending.1

theorem nodup_pendingRows (hkeys : (s.db.importRowResults.map (·.id)).Nodup) (n : ℕ)
    (expired : List ℕ) (limit : ℕ) : (s.pendingRows n expired limit).Nodup := by
  have hswept : ((sweptRows expired s.db.importRowResults).map (·.id)).Nodup := by
    have hsame : (sweptRows expired s.db.importRowResults).map (·.id) =
        s.db.importRowResults.map (·.id) := by
      simp [sweptRows, Function.comp_def]
    rwa [hsame]
  unfold TestRowState.pendingRows
  apply ((List.take_sublist _ _).map _).nodup
  apply ((List.perm_insertionSort _ _).map _).nodup_iff.mpr
  exact (List.filter_sublist.map _).nodup hswept

/-- A claim locks rows that nobody else has locked, pending ones or expired ones. -/
theorem RowInv.claim (h : RowInv s) {n : ℕ} {c d : ClaimTx} (hn : s.txs[n]? = some (.claim c))
    (hstep : c.testStep globalLimit s n = some d) : RowInv (s.setTx n (.claim d)) := by
  have hmem := List.mem_of_getElem? hn
  have hheld : ∀ r ∈ s.db.importRowResults, r.id ∈ (TestTx.claim c).locked →
      r.testStatus = .pending ∨ r.isLeased c.now = false := h.locks.knows _ hmem
  have hsame : d.now = c.now ∧ (∀ expired rows, d.stage = .claiming expired rows → rows.Nodup) ∧
      ∀ id ∈ (TestTx.claim d).locked, id ∈ (TestTx.claim c).locked ∨
        s.lockedByOther n id = false ∧ ∃ r ∈ s.db.importRowResults, r.id = id ∧
          (r.testStatus = .pending ∨ r.isLeased c.now = false) := by
    unfold ClaimTx.testStep at hstep
    split at hstep
    · split_ifs at hstep
      cases hstep
      exact ⟨rfl, (fun _ _ he => by cases he), by simp [TestTx.locked]⟩
    · cases hstep
      refine ⟨rfl, (fun _ _ he => by cases he), ?_⟩
      intro id hid
      obtain ⟨r, hr, rfl⟩ := List.mem_map.mp hid
      simp only [List.mem_filter, Bool.and_eq_true, Bool.not_eq_true'] at hr
      exact Or.inr ⟨hr.2.2, r, hr.1, rfl, Or.inr (ImportRowResult.not_leased_of_expired hr.2.1)⟩
    · rename_i hstage
      cases hstep
      refine ⟨rfl, (fun _ _ he => by cases he), ?_⟩
      intro id hid
      left
      simpa [TestTx.locked, hstage] using hid
    · rename_i expired limit hstage
      cases hstep
      refine ⟨rfl, ?_, ?_⟩
      · rintro _ _ ⟨⟩
        exact nodup_pendingRows h.locks.keys n expired limit
      · intro id hid
        rcases List.mem_append.mp hid with hexp | hchosen
        · left
          simpa [TestTx.locked, hstage] using hexp
        · obtain ⟨r, hr, rfl, hkind, hfree⟩ := mem_pendingRows hchosen
          rcases hkind with hexp | hpending
          · left
            simpa [TestTx.locked, hstage] using hexp
          · exact Or.inr ⟨hfree, r, hr, rfl, Or.inl hpending⟩
    · cases hstep
  obtain ⟨hnow, hnodup, hlocks⟩ := hsame
  apply h.setTx hn
  · intro id hid
    rcases hlocks id hid with hold | ⟨hfree, -⟩
    · exact Or.inl hold
    · exact Or.inr hfree
  · intro r hr hid
    simp only [TestTx.RowOk, hnow]
    rcases hlocks r.id hid with hold | ⟨-, u, hu, huid, hok⟩
    · exact hheld r hr hold
    · rw [← h.locks.unique hu hr huid]
      exact hok
  · rintro _ ⟨⟩
    exact ⟨hnow ▸ h.begun c hmem, hnodup⟩
  · exact fun _ hc => by cases hc

/-- Claiming counts up; it needs a row without a live owner. -/
theorem RowMoves.claimedBy {clock : Timestamp} {r u : ImportRowResult} {workerId : String}
    {now leaseUntil : Timestamp} (hcount : u.testAttemptCount = r.testAttemptCount)
    (hfree : r.testStatus = .running → r.isLeased clock = false) :
    RowMoves clock r (u.claimedBy workerId now leaseUntil) := by
  have hup : (u.claimedBy workerId now leaseUntil).testAttemptCount = r.testAttemptCount + 1 := by
    rw [← hcount]
    rfl
  constructor
  case attempts => omega
  case pending => intro hsame; omega
  case owner =>
    intro hrunning hlive
    rw [hfree hrunning] at hlive
    cases hlive

theorem RowMoves.requeued (clock : Timestamp) (r : ImportRowResult) :
    RowMoves clock r r.requeued := by
  constructor
  case attempts => exact le_rfl
  case pending => exact fun _ _ => rfl
  case owner => exact fun _ _ _ h => by cases h

theorem RowInv.change_commitClaim (h : RowInv s) {n : ℕ} {c : ClaimTx} {expired rows : List ℕ}
    (hn : s.txs[n]? = some (.claim c)) (hstage : c.stage = .claiming expired rows) :
    RowLocks.Change (·.id) (TestTx.claim c).locked (RowMoves s.clock) s.db.importRowResults
      (c.testCommit expired rows s.db).importRowResults := by
  have hmem := List.mem_of_getElem? hn
  have hlocked : (TestTx.claim c).locked = expired ++ rows := by simp [TestTx.locked, hstage]
  have hok := h.locks.knows _ hmem
  rw [hlocked] at hok ⊢
  have hrows : (c.testCommit expired rows s.db).importRowResults = _ := List.map_map
  rw [hrows]
  refine ⟨_, List.Sublist.refl _, ?_⟩
  intro r hr
  -- a row that the claim has locked is nobody's at the current time either
  have hfree : r.id ∈ rows → r.testStatus = .running → r.isLeased s.clock = false := by
    intro hid hrunning
    rcases hok r hr (List.mem_append_right expired hid) with hpending | hover
    · rw [hpending] at hrunning
      cases hrunning
    · exact ImportRowResult.not_leased_mono (h.begun c hmem) hover
  simp only [Function.comp_apply, sweptRows_id]
  by_cases hexp : r.id ∈ expired <;> by_cases hchosen : r.id ∈ rows
  · rw [if_pos hexp, if_pos hchosen]
    exact ⟨rfl, RowMoves.claimedBy rfl (hfree hchosen), fun hnot => absurd (by simp [hexp]) hnot⟩
  · rw [if_pos hexp, if_neg hchosen]
    exact ⟨rfl, RowMoves.requeued s.clock r, fun hnot => absurd (by simp [hexp]) hnot⟩
  · rw [if_neg hexp, if_pos hchosen]
    exact ⟨rfl, RowMoves.claimedBy rfl (hfree hchosen), fun hnot => absurd (by simp [hchosen]) hnot⟩
  · rw [if_neg hexp, if_neg hchosen]
    exact ⟨rfl, RowMoves.refl s.clock r, fun _ => rfl⟩

theorem RowInv.counted_commitClaim (h : RowInv s) {c : ClaimTx} {expired rows : List ℕ}
    (hnodup : rows.Nodup) : ∀ r ∈ (c.testCommit expired rows s.db).importRowResults,
      r.testAttemptCount = (s.claims ++ rows).count r.id := by
  intro r' hr'
  have hrows : (c.testCommit expired rows s.db).importRowResults = _ := List.map_map
  rw [hrows] at hr'
  obtain ⟨r, hr, rfl⟩ := List.mem_map.mp hr'
  have hcount := h.counted r hr
  rw [List.count_append]
  by_cases hexp : r.id ∈ expired <;> by_cases hchosen : r.id ∈ rows
  all_goals
    simp [hexp, hchosen, ImportRowResult.claimedBy, ImportRowResult.requeued,
      ImportRowResult.releaseLease, hcount, List.count_eq_one_of_mem hnodup,
      List.count_eq_zero_of_not_mem]

/-! ## Renewing and saving -/

theorem RowInv.renew (h : RowInv s) {n : ℕ} {r r' : RenewTx} (hn : s.txs[n]? = some (.renew r))
    (hstep : r.testStep s n = some r') : RowInv (s.setTx n (.renew r')) := by
  have hlocks : ∀ id ∈ r'.renewed, id ∈ r.renewed ∨ s.lockedByOther n id = false := by
    intro id hid
    unfold RenewTx.testStep at hstep
    split at hstep
    · cases hstep
      exact Or.inl hid
    · cases hstep
    · split_ifs at hstep with hother hheld
      · cases hstep
        rcases List.mem_append.mp hid with hold | hnew
        · exact Or.inl hold
        · rw [List.mem_singleton.mp hnew]
          exact Or.inr (by simpa using hother)
      · cases hstep
        exact Or.inl hid
  refine h.setTx hn hlocks (fun _ _ _ => trivial) ?_ ?_
  · exact fun _ hc => by cases hc
  · exact fun _ hc => by cases hc

/-- A commit that rewrites some rows in place, keeps their keys and counts nothing. -/
theorem RowInv.commitRows (h : RowInv s) {n : ℕ} {old : TestTx} {rowIds : List ℕ}
    {f : ImportRowResult → ImportRowResult} (hn : s.txs[n]? = some old)
    (hids : ∀ id ∈ rowIds, id ∈ old.locked) (hkey : ∀ r, (f r).id = r.id)
    (hcount : ∀ r, (f r).testAttemptCount = r.testAttemptCount)
    (hmoves : ∀ r ∈ s.db.importRowResults, r.id ∈ rowIds → RowMoves s.clock r (f r)) :
    RowInv (s.finish n (s.db.updateImportRows rowIds f) []) ∧
      OneOwner s (s.finish n (s.db.updateImportRows rowIds f) []) := by
  have hchange : RowLocks.Change (·.id) old.locked (RowMoves s.clock) s.db.importRowResults
      (s.db.updateImportRows rowIds f).importRowResults := by
    refine ⟨_, List.Sublist.refl _, ?_⟩
    intro r hr
    dsimp only
    split_ifs with hid
    · exact ⟨hkey r, hmoves r hr hid, fun hnot => absurd (hids r.id hid) hnot⟩
    · exact ⟨rfl, RowMoves.refl s.clock r, fun _ => rfl⟩
  refine ⟨h.finish hn hchange ?_, h.oneOwner hchange⟩
  intro r' hr'
  obtain ⟨r, hr, rfl⟩ := List.mem_map.mp hr'
  rw [List.append_nil]
  split_ifs
  · rw [hcount, hkey]
    exact h.counted r hr
  · exact h.counted r hr

theorem RowInv.commitRenew (h : RowInv s) {n : ℕ} {r : RenewTx}
    (hn : s.txs[n]? = some (.renew r)) :
    RowInv (s.finish n (r.testCommit s.db) []) ∧ OneOwner s (s.finish n (r.testCommit s.db) []) := by
  refine h.commitRows hn (fun _ hid => hid) (fun _ => rfl) (fun _ => rfl) ?_
  intro row _ _
  exact ⟨le_rfl, fun _ hpending => hpending, fun _ _ _ howner => howner⟩

theorem SaveTx.lock_cases {n : ℕ} {t : SaveTx} {tx : TestTx} (h : t.lock s n = some tx) :
    tx = .done ∨ ∃ row, heldRow t.workerId t.rowId t.now s.db = some row ∧
      s.lockedByOther n row.id = false ∧ tx = .save { t with holding := true } := by
  unfold SaveTx.lock at h
  grind

theorem RowInv.lockRow (h : RowInv s) {n : ℕ} {t : SaveTx} {tx : TestTx}
    (hn : s.txs[n]? = some (.save t)) (hlock : t.lock s n = some tx) : RowInv (s.setTx n tx) := by
  rcases SaveTx.lock_cases hlock with rfl | ⟨row, hrow, hother, rfl⟩
  · exact h.drop n
  · have hfound := List.find?_some hrow
    simp only [ImportRowResult.isHeldBy, Bool.and_eq_true, decide_eq_true_eq] at hfound
    obtain ⟨hid, ⟨hrunning, -⟩, -⟩ := hfound
    apply h.setTx hn
    · intro id hmem
      right
      simp only [TestTx.locked, if_true, List.mem_singleton] at hmem
      rw [hmem, ← hid]
      exact hother
    · intro r hr hmem
      simp only [TestTx.locked, if_true, List.mem_singleton] at hmem
      rw [h.locks.unique hr (List.mem_of_find?_eq_some hrow) (hmem.trans hid.symm)]
      exact hrunning
    · exact fun _ hc => by cases hc
    · exact fun _ hc => by cases hc

theorem RowInv.commitSave (h : RowInv s) {n : ℕ} {t : SaveTx} (hn : s.txs[n]? = some (.save t))
    (hholding : t.holding = true) :
    RowInv (s.finish n (t.commit s.db) []) ∧ OneOwner s (s.finish n (t.commit s.db) []) := by
  have hlocked : (TestTx.save t).locked = [t.rowId] := by simp [TestTx.locked, hholding]
  refine h.commitRows hn (fun _ hid => hlocked ▸ hid) (fun _ => rfl) (fun _ => rfl) ?_
  intro r hr hid
  have hrunning : r.testStatus = .running :=
    h.locks.knows _ (List.mem_of_getElem? hn) r hr (hlocked ▸ hid)
  constructor
  case attempts => exact le_rfl
  case pending =>
    intro _ hpending
    rw [hrunning] at hpending
    cases hpending
  case owner => exact fun _ _ _ howner => by cases howner

/-! ## `_claim_specific` -/

/-- The ways in which a single claim goes on. -/
theorem SpecificTx.step_cases {n : ℕ} {c : SpecificTx} {tx : TestTx}
    (h : c.step globalLimit s n = some tx) :
    tx = .done ∨
      (∃ row, s.db.importRowResults.find? (·.id = c.rowId) = some row ∧
        row.testStatus = .pending ∧ tx = .specific { c with stage := .waiting row }) ∨
      (∃ row stage, c.stage.row? = some row ∧ stage.row? = some row ∧
        tx = .specific { c with stage := stage }) ∨
      ∃ row, c.stage = .counted row ∧ s.lockedByOther n c.rowId = false ∧
        tx = .specific { c with stage := .written row } := by
  unfold SpecificTx.step at h
  split at h
  · split at h
    · left
      exact (Option.some.inj h).symm
    · rename_i row hfind
      split_ifs at h with hpending
      · right; left
        exact ⟨row, hfind, hpending, (Option.some.inj h).symm⟩
      · left
        exact (Option.some.inj h).symm
  · rename_i row hstage
    split_ifs at h
    right; right; left
    exact ⟨row, .locked row, by rw [hstage]; rfl, rfl, (Option.some.inj h).symm⟩
  · rename_i row hstage
    split_ifs at h
    · right; right; left
      exact ⟨row, .counted row, by rw [hstage]; rfl, rfl, (Option.some.inj h).symm⟩
    · left
      exact (Option.some.inj h).symm
  · rename_i row hstage
    split_ifs at h with hother
    right; right; right
    exact ⟨row, hstage, by simpa using hother, (Option.some.inj h).symm⟩
  · cases h

theorem SpecificStage.not_locked {c : SpecificTx} {row : ImportRowResult}
    (h : c.stage.row? = some row) : (TestTx.specific c).locked = [] := by
  cases hstage : c.stage <;> simp_all [SpecificStage.row?, TestTx.locked]

theorem RowInv.specific (h : RowInv s) {n : ℕ} {c : SpecificTx} {tx : TestTx}
    (hn : s.txs[n]? = some (.specific c)) (hstep : c.step globalLimit s n = some tx)
    (hcond : s.claimsUnseen (.specific n) = true) : RowInv (s.setTx n tx) := by
  have hmem := List.mem_of_getElem? hn
  rcases SpecificTx.step_cases hstep with
    rfl | ⟨row, hfind, hpending, rfl⟩ | ⟨row, stage, hold, hnew, rfl⟩ | ⟨row, hstage, hother, rfl⟩
  · exact h.drop n
  · apply h.setTx hn
    · simp [TestTx.locked]
    · simp [TestTx.locked]
    · exact fun _ hc => by cases hc
    · rintro _ ⟨⟩ _ ⟨⟩ r hr hid
      have hrow : row.id = c.rowId := by simpa using List.find?_some hfind
      obtain rfl := h.locks.unique hr (List.mem_of_find?_eq_some hfind) (Eq.trans hid hrow.symm)
      exact ⟨le_rfl, fun _ => hpending⟩
  · have hlocked := SpecificStage.not_locked (c := { c with stage := stage }) hnew
    apply h.setTx hn
    · simp [hlocked]
    · simp [hlocked]
    · exact fun _ hc => by cases hc
    · rintro _ ⟨⟩ row' hrow' r hr hid
      rw [hnew] at hrow'
      cases hrow'
      exact h.knows c hmem row hold r hr hid
  · have hknows := h.knows c hmem row (by rw [hstage]; rfl)
    have hsame : ∀ r ∈ s.db.importRowResults, r.id = c.rowId →
        r.testAttemptCount = row.testAttemptCount := by
      obtain ⟨workerId, rowId, leaseSeconds, now, stage⟩ := c
      obtain rfl : stage = .counted row := hstage
      simp only [TestRowState.claimsUnseen, hn, List.all_eq_true] at hcond
      intro r hr hid
      have hall := hcond r hr
      simpa [show r.id = rowId from hid] using hall
    apply h.setTx hn
    · intro id hid
      right
      simp only [TestTx.locked, List.mem_singleton] at hid
      rw [hid]
      exact hother
    · intro r hr hid
      simp only [TestTx.locked, List.mem_singleton] at hid
      exact ⟨(hknows r hr hid).2 (hsame r hr hid), hsame r hr hid⟩
    · exact fun _ hc => by cases hc
    · rintro _ ⟨⟩ _ ⟨⟩

theorem RowInv.commitSpecific (h : RowInv s) {n : ℕ} {c : SpecificTx} {row : ImportRowResult}
    (hn : s.txs[n]? = some (.specific c)) (hstage : c.stage = .written row) :
    RowInv (s.finish n (c.commit row s.db) [c.rowId]) ∧
      OneOwner s (s.finish n (c.commit row s.db) [c.rowId]) := by
  have hlocked : (TestTx.specific c).locked = [c.rowId] := by simp [TestTx.locked, hstage]
  have hok : ∀ r ∈ s.db.importRowResults, r.id = c.rowId →
      r.testStatus = .pending ∧ r.testAttemptCount = row.testAttemptCount := by
    intro r hr hid
    have hrow := h.locks.knows _ (List.mem_of_getElem? hn) r hr (by simp [hlocked, hid])
    obtain ⟨workerId, rowId, leaseSeconds, now, stage⟩ := c
    obtain rfl : stage = .written row := hstage
    exact hrow
  have hchange : RowLocks.Change (·.id) (TestTx.specific c).locked (RowMoves s.clock)
      s.db.importRowResults (c.commit row s.db).importRowResults := by
    refine ⟨_, List.Sublist.refl _, ?_⟩
    intro r hr
    dsimp only
    rw [hlocked]
    split_ifs with hid
    · obtain ⟨hpending, hcount⟩ := hok r hr (List.mem_singleton.mp hid)
      refine ⟨rfl, ⟨?_, ?_, ?_⟩, fun hnot => absurd hid hnot⟩
      · simp only [ImportRowResult.claimedBy]
        omega
      · simp only [ImportRowResult.claimedBy]
        omega
      · intro hrunning
        rw [hpending] at hrunning
        cases hrunning
    · exact ⟨rfl, RowMoves.refl s.clock r, fun _ => rfl⟩
  refine ⟨h.finish hn hchange ?_, h.oneOwner hchange⟩
  intro r' hr'
  obtain ⟨r, hr, rfl⟩ := List.mem_map.mp hr'
  have hclaims := h.counted r hr
  rw [List.count_append]
  split_ifs with hid
  · have hrow := List.mem_singleton.mp hid
    have hcount := (hok r hr hrow).2
    simp only [ImportRowResult.claimedBy, hrow, List.count_singleton_self]
    rw [hrow] at hclaims
    omega
  · have hother : c.rowId ≠ r.id := fun he => hid (by simp [he])
    simp [hclaims, hother]

/-! ## Every run -/

theorem RowInv.step (h : RowInv s) {a : TestRowAction} {s' : TestRowState}
    (hcond : s.claimsUnseen a = true) (hstep : s.step globalLimit a = some s') :
    RowInv s' ∧ OneOwner s s' := by
  cases a with
  | tick duration =>
    cases hstep
    have hbegun : ∀ c, .claim c ∈ s.txs → c.now ≤ s.clock + duration :=
      fun c hc => le_trans (h.begun c hc) (Nat.le_add_right _ _)
    exact ⟨⟨h.locks, hbegun, h.chosen, h.knows, h.counted⟩, h.sameRows rfl⟩
  | beginClaim workerId localCapacity leaseSeconds =>
    simp only [TestRowState.step] at hstep
    split_ifs at hstep
    cases hstep
    refine ⟨h.begin rfl ?_ ?_, h.sameRows rfl⟩
    · rintro _ ⟨⟩
      exact ⟨le_rfl, rfl⟩
    · exact fun _ hc => by cases hc
  | claim n =>
    simp only [TestRowState.step] at hstep
    split at hstep
    · rename_i c hn
      obtain ⟨d, hd, rfl⟩ := Option.map_eq_some_iff.mp hstep
      exact ⟨h.claim hn hd, h.sameRows rfl⟩
    · cases hstep
  | commitClaim n =>
    simp only [TestRowState.step] at hstep
    split at hstep
    · rename_i c hn
      split at hstep
      · rename_i expired rows hstage
        cases hstep
        have hchange := h.change_commitClaim hn hstage
        have hnodup := h.chosen c expired rows (List.mem_of_getElem? hn) hstage
        exact ⟨h.finish hn hchange (h.counted_commitClaim hnodup), h.oneOwner hchange⟩
      · cases hstep
    · cases hstep
  | beginRenew workerId rowIds leaseSeconds =>
    cases hstep
    refine ⟨h.begin rfl ?_ ?_, h.sameRows rfl⟩
    · exact fun _ hc => by cases hc
    · exact fun _ hc => by cases hc
  | renew n =>
    simp only [TestRowState.step] at hstep
    split at hstep
    · rename_i r hn
      obtain ⟨r', hr', rfl⟩ := Option.map_eq_some_iff.mp hstep
      exact ⟨h.renew hn hr', h.sameRows rfl⟩
    · cases hstep
  | commitRenew n =>
    simp only [TestRowState.step] at hstep
    split at hstep
    · rename_i r hn
      split_ifs at hstep
      cases hstep
      exact h.commitRenew hn
    · cases hstep
  | beginSave workerId rowId outcome =>
    cases hstep
    refine ⟨h.begin rfl ?_ ?_, h.sameRows rfl⟩
    · exact fun _ hc => by cases hc
    · exact fun _ hc => by cases hc
  | lockRow n =>
    simp only [TestRowState.step] at hstep
    split at hstep
    · rename_i t hn
      obtain ⟨tx, hlock, rfl⟩ := Option.map_eq_some_iff.mp hstep
      exact ⟨h.lockRow hn hlock, h.sameRows rfl⟩
    · cases hstep
  | commitSave n =>
    simp only [TestRowState.step] at hstep
    split at hstep
    · rename_i t hn
      split_ifs at hstep with hholding
      cases hstep
      exact h.commitSave hn hholding
    · cases hstep
  | beginSpecific workerId rowId leaseSeconds =>
    cases hstep
    refine ⟨h.begin rfl ?_ ?_, h.sameRows rfl⟩
    · exact fun _ hc => by cases hc
    · rintro _ ⟨⟩
      rfl
  | specific n =>
    simp only [TestRowState.step] at hstep
    split at hstep
    · rename_i c hn
      obtain ⟨tx, htx, rfl⟩ := Option.map_eq_some_iff.mp hstep
      exact ⟨h.specific hn htx hcond, h.sameRows rfl⟩
    · cases hstep
  | commitSpecific n =>
    simp only [TestRowState.step] at hstep
    split at hstep
    · rename_i c hn
      split at hstep
      · rename_i row hstage
        cases hstep
        exact h.commitSpecific hn hstage
      · cases hstep
    · cases hstep
  | rollback n =>
    cases hstep
    exact ⟨h.drop n, h.sameRows rfl⟩

/-- In every run in which `_claim_specific` never updates a row that was claimed after it read
it, claims are counted one by one and no worker takes a row that another one holds. -/
theorem import_row_has_one_owner {db : Database} {clock : Timestamp} {claims : List ℕ}
    {actions : List TestRowAction} (hids : (db.importRowResults.map (·.id)).Nodup)
    (hcounted : ∀ r ∈ db.importRowResults, r.testAttemptCount = claims.count r.id)
    (hmeets : Machine.Meets (TestRowState.step globalLimit) (fun s a => s.claimsUnseen a = true)
      { db, clock, claims } actions)
    (hrun : Machine.run (TestRowState.step globalLimit) { db, clock, claims } actions = some s) :
    (∀ r ∈ s.db.importRowResults, r.testAttemptCount = s.claims.count r.id) ∧
      ∀ a s', s.claimsUnseen a = true → s.step globalLimit a = some s' → OneOwner s s' := by
  have hstart : RowInv { db, clock, claims } := by
    constructor
    case locks => exact RowLocks.Inv.init hids
    case begun => exact fun _ hc => absurd hc List.not_mem_nil
    case chosen => exact fun _ _ _ hc => absurd hc List.not_mem_nil
    case knows => exact fun _ hc => absurd hc List.not_mem_nil
    case counted => exact hcounted
  have hinv := Machine.run_invariant_of_meets RowInv
    (fun _ _ _ hinv hcond hstep => (hinv.step hcond hstep).1) actions _ s hstart hmeets hrun
  exact ⟨hinv.counted, fun _ _ hcond hstep => (hinv.step hcond hstep).2⟩

/-- One imported row that waits for its test. -/
def pendingTest : Database where
  importBatches := [{ id := 1, status := .testing, totalRows := 1, testPendingRows := 1 }]
  importRowResults := [{ id := 1, batchId := 1, rowNumber := 2, importStatus := .imported,
                         testStatus := .pending }]

/-- `claim_import_tests` from its first to its last statement. -/
def claimTests (n : ℕ) : List TestRowAction :=
  [.claim n, .claim n, .claim n, .claim n, .commitClaim n]

/-- Worker a claims the row by itself; a minute later worker b takes the expired row over. -/
def takenOver : List TestRowAction :=
  [.beginSpecific "a" 1 60, .specific 0, .specific 0, .specific 0, .specific 0, .commitSpecific 0,
    .tick 60000000, .beginClaim "b" 1 60] ++ claimTests 1

/-- Worker b claims the row between worker a's read and its update. -/
def claimedBetween : List TestRowAction :=
  [.beginSpecific "a" 1 60, .specific 0, .beginClaim "b" 1 60] ++ claimTests 1 ++
    [.specific 0, .specific 0, .specific 0]

theorem taken_over_row_is_counted :
    ∃ s, Machine.run (TestRowState.step 20) { db := pendingTest } takenOver = some s ∧
      s.claims = [1, 1] ∧ (∀ r ∈ s.db.importRowResults, r.testAttemptCount = s.claims.count r.id) ∧
      ∀ a s', s.claimsUnseen a = true → s.step 20 a = some s' → OneOwner s s' := by
  have hmeets : Machine.Meets (TestRowState.step 20) (fun s a => s.claimsUnseen a = true)
      { db := pendingTest } takenOver := by decide +kernel
  have hrun : ((Machine.run (TestRowState.step 20) { db := pendingTest } takenOver).map fun s =>
      s.claims) = some [1, 1] := by decide +kernel
  obtain ⟨s, hs, hclaims⟩ := Option.map_eq_some_iff.mp hrun
  exact ⟨s, hs, hclaims, import_row_has_one_owner (by decide) (by decide) hmeets hs⟩

/-- Worker b holds the row with a live lease when worker a becomes its owner, and two claims
count as one. -/
theorem stale_claim_takes_the_row :
    ∃ s s', Machine.run (TestRowState.step 20) { db := pendingTest } claimedBetween = some s ∧
      (s.db.importRowResults.any fun r => r.isHeldBy "b" s.clock) = true ∧
      s.step 20 (.commitSpecific 0) = some s' ∧
      (s'.db.importRowResults.any fun r => r.id = 1 && r.testWorkerId = some "a") = true ∧
      s'.claims.count 1 = 2 ∧ s'.db.importRowResults.map (·.testAttemptCount) = [1] :=
  ⟨_, _, rfl, by decide +kernel, rfl, by decide +kernel, by decide +kernel, by decide +kernel⟩

end ConnectionTopology
