import ConnectionTopology.Imports.BatchView
import ConnectionTopology.Services.Imports
import ConnectionTopology.Library.Machine

/-!
# Tests that overlap the import

`import_devices` writes counters and the final status from the object it keeps in
memory, while claims and saved results recount the stored rows. Both agree in the
end if, as long as the import runs, a saved result leaves another row of the batch
to be tested.
-/
namespace ConnectionTopology

/-- One running `import_devices` and the committed database. -/
structure ImportState where
  db : Database
  /-- The `ImportBatch` object of the session. -/
  copy : ImportBatch
  remaining : ℕ
  returned : Bool := false
  deriving DecidableEq, Repr

inductive ImportAction
  | row (row : ImportedRow)
  | finish (wall : Timestamp)
  | claim (workerId : String) (localCapacity globalLimit : ℤ) (leaseSeconds : ℕ)
      (now wall : Timestamp)
  | save (workerId : String) (rowId : ℕ) (outcome : ImportTestOutcome) (now wall : Timestamp)
  deriving DecidableEq, Repr

def ImportState.step (s : ImportState) : ImportAction → Option ImportState
  | .row row =>
    if s.remaining = 0 then none
    else
      let result := importRow row s.copy s.db
      some { s with copy := result.1, db := result.2, remaining := s.remaining - 1 }
  | .finish wall =>
    if s.remaining = 0 ∧ s.returned = false then
      some { s with db := finishImport wall s.copy s.db, returned := true }
    else none
  | .claim workerId localCapacity globalLimit leaseSeconds now wall =>
    some { s with
      db := (claimImportTests workerId localCapacity globalLimit leaseSeconds now wall s.db).2 }
  | .save workerId rowId outcome now wall =>
    match saveResult workerId rowId outcome now wall s.db with
    | .ok (_, db) => some { s with db := db }
    | .error _ => some s

/-- A fresh batch: stored as created, loaded into the session, without rows. -/
structure FreshImport (db : Database) (batch : ImportBatch) : Prop where
  rowsOk : RowsOk db
  stored : db.importBatch? batch.id = some batch
  importing : batch.status = .importing
  uncounted : batch.testPendingRows = 0 ∧ batch.testRunningRows = 0 ∧ batch.testSuccessRows = 0 ∧
    batch.testFailedRows = 0
  noRows : db.importRowsOf batch.id = []

/-- The batch is not completed while rows are left to import, and once the import has
returned and every row is tested its counters are right and it is completed. -/
def ImportState.Truthful (s : ImportState) : Prop :=
  (s.remaining ≠ 0 → ∀ b, s.db.importBatch? s.copy.id = some b → b.status ≠ .completed) ∧
  (s.returned → ¬ s.db.hasActiveRow s.copy.id →
    ∃ b, s.db.importBatch? s.copy.id = some b ∧ CountersAgree s.db b ∧ b.status = .completed)

/-- While the import runs, a result is saved only if another row of the batch is still
to be tested, or if the last row is committed and the session's object counts no
pending row. -/
def leavesActiveRow (s : ImportState) : ImportAction → Bool
  | .save workerId rowId _ now _ =>
    s.returned || match heldRow workerId rowId now s.db with
      | none => true
      | some row => row.batchId ≠ s.copy.id ||
          ((s.db.importRowsOf row.batchId).any fun r => r.id ≠ row.id && r.testStatus.isActive) ||
          (s.remaining = 0 && s.copy.testPendingRows = 0)
  | _ => true

theorem leavesActiveRow_save {s : ImportState} {workerId : String} {rowId : ℕ}
    {outcome : ImportTestOutcome} {now wall : Timestamp} {row : ImportRowResult}
    (h : leavesActiveRow s (.save workerId rowId outcome now wall)) (hreturned : s.returned = false)
    (hheld : heldRow workerId rowId now s.db = some row) (hbatch : row.batchId = s.copy.id) :
    (∃ r ∈ s.db.importRowsOf row.batchId, r.id ≠ row.id ∧ r.testStatus.isActive) ∨
      (s.remaining = 0 ∧ s.copy.testPendingRows = 0) := by
  simp only [leavesActiveRow, hreturned, hheld, hbatch] at h
  rw [hbatch]
  simpa [List.any_eq_true] using h

/-! ## The row transactions -/

theorem RowsOk.insert {db : Database} (h : RowsOk db) (row : ImportedRow) (batchId : ℕ) :
    RowsOk (insertRowResult row batchId db) := by
  have hid : (row.result db.sequences.importRowResults batchId).id =
      db.sequences.importRowResults := by
    unfold ImportedRow.result
    dsimp only
    split <;> rfl
  constructor
  · simp only [insertRowResult, List.map_append, List.map_cons, List.map_nil, hid]
    rw [List.nodup_append]
    refine ⟨h.nodup, by simp, ?_⟩
    intro a ha b hb
    obtain ⟨r, hr, rfl⟩ := List.mem_map.mp ha
    have := h.fresh r hr
    rw [List.mem_singleton.mp hb]
    omega
  · intro r hr
    simp only [insertRowResult, List.mem_append, List.mem_singleton] at hr ⊢
    rcases hr with hr | rfl
    · have := h.fresh r hr
      omega
    · rw [hid]
      omega

theorem importRowsOf_insert (db : Database) (row : ImportedRow) (batchId : ℕ) :
    (insertRowResult row batchId db).importRowsOf batchId =
      db.importRowsOf batchId ++ [row.result db.sequences.importRowResults batchId] := by
  have hbatch : (row.result db.sequences.importRowResults batchId).batchId = batchId := by
    unfold ImportedRow.result
    dsimp only
    split <;> rfl
  simp [Database.importRowsOf, insertRowResult, List.filter_append, hbatch]

/-- The row is imported with credentials and waits for its test. -/
def ImportedRow.collects (row : ImportedRow) : Bool :=
  match row.outcome with
  | .imported device => device.collectionEnabled
  | _ => false

theorem ImportedRow.result_testStatus (row : ImportedRow) (id batchId : ℕ) :
    (row.result id batchId).testStatus = if row.collects then .pending else .notApplicable := by
  unfold ImportedRow.result ImportedRow.collects
  dsimp only
  split <;> simp_all

/-- A change of a batch row that leaves its key and status alone. -/
def KeepsStatus (g : ImportBatch → ImportBatch) : Prop :=
  ∀ b, (g b).id = b.id ∧ (g b).status = b.status

/-- The four test counters are not touched. -/
def KeepsCounters (g : ImportBatch → ImportBatch) : Prop :=
  ∀ b, (g b).testPendingRows = b.testPendingRows ∧ (g b).testRunningRows = b.testRunningRows ∧
    (g b).testSuccessRows = b.testSuccessRows ∧ (g b).testFailedRows = b.testFailedRows

/-- What the transaction of one row does. -/
structure RowDone (row : ImportedRow) (copy : ImportBatch) (db : Database) (copy' : ImportBatch)
    (db' : Database) : Prop where
  rowsOk : RowsOk db'
  rows : db'.importRowsOf copy.id =
    db.importRowsOf copy.id ++ [row.result db.sequences.importRowResults copy.id]
  batch : ∃ g, db'.importBatch? copy.id = (db.importBatch? copy.id).map g ∧ KeepsStatus g ∧
    (row.collects = false → KeepsCounters g)
  id : copy'.id = copy.id
  /-- The object keeps its attributes, or they are loaded again. -/
  cached : (copy'.status = copy.status ∧
      (row.collects = false → copy'.testPendingRows = copy.testPendingRows)) ∨
    ∃ b, db.importBatch? copy.id = some b ∧ copy'.status = b.status ∧
      copy'.testPendingRows = b.testPendingRows

/-- The result is inserted and some columns of the batch are written. -/
theorem rowDone_of_update {row : ImportedRow} {copy copy' : ImportBatch} {db mid : Database}
    (h : RowsOk db) {g : ImportBatch → ImportBatch}
    (hrows : mid.importRowResults = (insertRowResult row copy.id db).importRowResults)
    (hseq : mid.sequences = (insertRowResult row copy.id db).sequences)
    (hbatches : mid.importBatches = db.importBatches) (hstatus : KeepsStatus g)
    (hcounters : row.collects = false → KeepsCounters g) (hid : copy'.id = copy.id)
    (hcached : (copy'.status = copy.status ∧
        (row.collects = false → copy'.testPendingRows = copy.testPendingRows)) ∨
      ∃ b, db.importBatch? copy.id = some b ∧ copy'.status = b.status ∧
        copy'.testPendingRows = b.testPendingRows) :
    RowDone row copy db copy' (mid.updateImportBatch copy.id g) := by
  have hok := h.insert row copy.id
  refine ⟨⟨?_, ?_⟩, ?_, ⟨g, ?_, hstatus, hcounters⟩, hid, hcached⟩
  · exact hrows ▸ hok.nodup
  · intro r hr
    have hr' : r ∈ (insertRowResult row copy.id db).importRowResults := hrows ▸ hr
    exact lt_of_lt_of_eq (hok.fresh r hr') (congrArg Sequences.importRowResults hseq).symm
  · rw [← importRowsOf_insert db row copy.id]
    exact congrArg (List.filter _) hrows
  · rw [importBatch?_update fun b => (hstatus b).1, if_pos rfl]
    simp only [Database.importBatch?, hbatches]

theorem importRow_done {row : ImportedRow} {copy : ImportBatch} {db : Database} (h : RowsOk db) :
    RowDone row copy db (importRow row copy db).1 (importRow row copy db).2 := by
  unfold importRow
  cases houtcome : row.outcome with
  | imported device =>
    dsimp only
    split_ifs with hcollect
    · have hcollects : row.collects = true := by simp [ImportedRow.collects, houtcome, hcollect]
      refine rowDone_of_update h rfl rfl rfl (fun b => ⟨rfl, rfl⟩) ?_ rfl (Or.inl ⟨rfl, ?_⟩)
      · simp [hcollects]
      · simp [hcollects]
    · exact rowDone_of_update h rfl rfl rfl (fun b => ⟨rfl, rfl⟩) (fun _ b => ⟨rfl, rfl, rfl, rfl⟩) rfl
        (Or.inl ⟨rfl, fun _ => rfl⟩)
  | skipped deviceId =>
    exact rowDone_of_update h rfl rfl rfl (fun b => ⟨rfl, rfl⟩) (fun _ b => ⟨rfl, rfl, rfl, rfl⟩) rfl
      (Or.inl ⟨rfl, fun _ => rfl⟩)
  | annotationConflict deviceId =>
    exact rowDone_of_update h rfl rfl rfl (fun b => ⟨rfl, rfl⟩) (fun _ b => ⟨rfl, rfl, rfl, rfl⟩) rfl
      (Or.inl ⟨rfl, fun _ => rfl⟩)
  | failed failure transactionOpen =>
    have hcopy : ∀ c : ImportBatch, c.id = copy.id →
        ((c.status = copy.status ∧ (row.collects = false →
            c.testPendingRows = copy.testPendingRows)) ∨
          ∃ b, db.importBatch? copy.id = some b ∧ c.status = b.status ∧
            c.testPendingRows = b.testPendingRows) →
        RowDone row copy db { c with errorRows := c.errorRows + 1 }
          ((insertRowResult row c.id db).updateImportBatch c.id fun b =>
            { b with errorRows := c.errorRows + 1 }) := by
      intro c hid hc
      rw [hid]
      exact rowDone_of_update h rfl rfl rfl (fun b => ⟨rfl, rfl⟩) (fun _ b => ⟨rfl, rfl, rfl, rfl⟩)
        rfl hc
    dsimp only
    split_ifs
    · cases hb : db.importBatch? copy.id with
      | none => exact hcopy copy rfl (Or.inl ⟨rfl, fun _ => rfl⟩)
      | some b => exact hcopy b (id_of_importBatch? hb) (Or.inr ⟨b, hb, rfl, rfl⟩)
    · exact hcopy copy rfl (Or.inl ⟨rfl, fun _ => rfl⟩)

/-! ## The invariant -/

/-- The stored batch is completed, with the right counters. -/
def ImportState.Settled (s : ImportState) : Prop :=
  ∃ b, s.db.importBatch? s.copy.id = some b ∧ CountersAgree s.db b ∧ b.status = .completed

/-- Where a running import stands: rows are being tested, or none was ever to be
tested, or the last row is committed and every test has ended. -/
inductive ImportPhase (s : ImportState) : Prop
  | testing (active : s.db.hasActiveRow s.copy.id)
      (isOpen : ∀ b, s.db.importBatch? s.copy.id = some b → b.status ≠ .completed)
  | untested (rows : ∀ r ∈ s.db.importRowsOf s.copy.id, r.testStatus = .notApplicable)
      (cached : s.copy.testPendingRows = 0)
      (stored : ∃ b, s.db.importBatch? s.copy.id = some b ∧ CountersAgree s.db b ∧
        b.status ≠ .completed)
  | tested (last : s.remaining = 0) (cached : s.copy.testPendingRows = 0)
      (none : ¬ s.db.hasActiveRow s.copy.id) (settled : s.Settled)

structure ImportInv (s : ImportState) : Prop where
  rowsOk : RowsOk s.db
  stored : ∃ b, s.db.importBatch? s.copy.id = some b
  before : s.returned = false → s.copy.status ≠ .completed ∧ ImportPhase s
  after : s.returned = true → s.remaining = 0 ∧ (¬ s.db.hasActiveRow s.copy.id → s.Settled)

theorem ImportInv.truthful {s : ImportState} (h : ImportInv s) : s.Truthful := by
  constructor
  · intro hremaining b hb
    cases hreturned : s.returned with
    | true => exact absurd (h.after hreturned).1 hremaining
    | false =>
      cases (h.before hreturned).2 with
      | testing _ isOpen => exact isOpen b hb
      | untested _ _ stored =>
        obtain ⟨c, hc, -, hstatus⟩ := stored
        rw [hb] at hc
        cases hc
        exact hstatus
      | tested last => exact absurd last hremaining
  · intro hreturned hnone
    exact (h.after hreturned).2 hnone

theorem CountersAgree.of_untested {db : Database} {b : ImportBatch}
    (hrows : ∀ r ∈ db.importRowsOf b.id, r.testStatus = .notApplicable)
    (hb : b.testPendingRows = 0 ∧ b.testRunningRows = 0 ∧ b.testSuccessRows = 0 ∧
      b.testFailedRows = 0) : CountersAgree db b := by
  have hzero : ∀ status, status ≠ .notApplicable → db.importRowCount b.id status = 0 := by
    intro status hne
    rw [importRowCount_eq_zero]
    intro r hr he
    exact hne (he.symm.trans (hrows r hr))
  exact ⟨by rw [hb.1, hzero _ (by simp)], by rw [hb.2.1, hzero _ (by simp)],
    by rw [hb.2.2.1, hzero _ (by simp)], by rw [hb.2.2.2, hzero _ (by simp)]⟩

/-- The other direction: without tested rows every counter is zero. -/
theorem CountersAgree.zero {db : Database} {b : ImportBatch} (h : CountersAgree db b)
    (hrows : ∀ r ∈ db.importRowsOf b.id, r.testStatus = .notApplicable) :
    b.testPendingRows = 0 ∧ b.testRunningRows = 0 ∧ b.testSuccessRows = 0 ∧
      b.testFailedRows = 0 := by
  have hzero : ∀ status, status ≠ .notApplicable → db.importRowCount b.id status = 0 := by
    intro status hne
    rw [importRowCount_eq_zero]
    intro r hr he
    exact hne (he.symm.trans (hrows r hr))
  exact ⟨by rw [h.pending, hzero _ (by simp)], by rw [h.running, hzero _ (by simp)],
    by rw [h.success, hzero _ (by simp)], by rw [h.failed, hzero _ (by simp)]⟩

theorem not_hasActiveRow_of_untested {db : Database} {batchId : ℕ}
    (h : ∀ r ∈ db.importRowsOf batchId, r.testStatus = .notApplicable) :
    ¬ db.hasActiveRow batchId := by
  rintro ⟨r, hr, hactive⟩
  rw [h r hr] at hactive
  cases hactive

/-- A transaction that does not concern the batch. -/
theorem ImportInv.sameBatch {s : ImportState} (h : ImportInv s) {db' : Database}
    (hok : RowsOk db') (hsame : SameBatch s.copy.id s.db db') :
    ImportInv { s with db := db' } := by
  obtain ⟨hrows, hbatch⟩ := hsame
  have hactive := hasActiveRow_congr hrows
  have hsettled : s.Settled → ImportState.Settled { s with db := db' } := by
    rintro ⟨b, hb, hcounters, hstatus⟩
    refine ⟨b, hbatch.trans hb, hcounters.congr ?_, hstatus⟩
    rw [id_of_importBatch? hb]
    exact hrows
  refine ⟨hok, ?_, ?_, ?_⟩
  · obtain ⟨b, hb⟩ := h.stored
    exact ⟨b, hbatch.trans hb⟩
  · intro hreturned
    refine ⟨(h.before hreturned).1, ?_⟩
    cases (h.before hreturned).2 with
    | testing active isOpen =>
      exact .testing (hactive.mpr active) fun b hb => isOpen b (hbatch.symm.trans hb)
    | untested rows cached stored =>
      obtain ⟨b, hb, hcounters, hstatus⟩ := stored
      refine .untested (by rw [hrows]; exact rows) cached ⟨b, hbatch.trans hb, ?_, hstatus⟩
      apply hcounters.congr
      rw [id_of_importBatch? hb]
      exact hrows
    | tested last cached none settled =>
      exact .tested last cached (fun ha => none (hactive.mp ha)) (hsettled settled)
  · intro hreturned
    obtain ⟨hlast, hdone⟩ := h.after hreturned
    exact ⟨hlast, fun hnone => hsettled (hdone fun ha => hnone (hactive.mpr ha))⟩

/-- The batch was recounted. -/
theorem recounted {db db' : Database} {batchId : ℕ} {wall : Timestamp}
    (hstored : ∃ b, db.importBatch? batchId = some b)
    (hbatch : db'.importBatch? batchId = (db.importBatch? batchId).map (refreshedImportBatch wall db')) :
    ∃ b, db'.importBatch? batchId = some b ∧ CountersAgree db' b ∧
      (b.status = .completed ↔ ¬ db'.hasActiveRow batchId) := by
  obtain ⟨b, hb⟩ := hstored
  rw [hb] at hbatch
  refine ⟨_, hbatch, refreshedImportBatch_counters wall db' b, ?_⟩
  rw [refreshedImportBatch_status, id_of_importBatch? hb]

theorem ImportInv.claim {s : ImportState} (h : ImportInv s) (workerId : String)
    (localCapacity globalLimit : ℤ) (leaseSeconds : ℕ) (now wall : Timestamp) :
    ImportInv { s with
      db := (claimImportTests workerId localCapacity globalLimit leaseSeconds now wall s.db).2 } := by
  obtain ⟨hok, hsame | ⟨hbefore, hafter, hbatch⟩⟩ := claimImportTests_spec h.rowsOk workerId
    localCapacity globalLimit leaseSeconds now wall s.copy.id
  · exact h.sameBatch hok hsame
  · obtain ⟨b, hb, -, hstatus⟩ := recounted h.stored hbatch
    refine ⟨hok, ⟨b, hb⟩, ?_, ?_⟩
    · intro hreturned
      refine ⟨(h.before hreturned).1, .testing hafter ?_⟩
      intro c hc
      rw [hb] at hc
      cases hc
      exact fun he => hstatus.mp he hafter
    · intro hreturned
      exact ⟨(h.after hreturned).1, fun hnone => absurd hafter hnone⟩

theorem ImportInv.save {s : ImportState} (h : ImportInv s) {workerId : String} {rowId : ℕ}
    {outcome : ImportTestOutcome} {now wall : Timestamp}
    (hcond : leavesActiveRow s (.save workerId rowId outcome now wall)) {s' : ImportState}
    (hstep : s.step (.save workerId rowId outcome now wall) = some s') : ImportInv s' := by
  simp only [ImportState.step] at hstep
  rcases saveResult_spec h.rowsOk workerId rowId outcome now wall with
    ⟨-, hlost⟩ | ⟨row, completed, db', hheld, hok, hsaved⟩
  · rw [hlost] at hstep
    cases hstep
    exact h
  · rw [hok] at hstep
    cases hstep
    by_cases hbatch : row.batchId = s.copy.id
    · have hactive := hsaved.active
      have hrecount := hsaved.batch
      rw [hbatch] at hactive hrecount
      obtain ⟨b, hb, hcounters, hstatus⟩ := recounted h.stored hrecount
      refine ⟨hsaved.rowsOk, ⟨b, hb⟩, ?_, ?_⟩
      · intro hreturned
        refine ⟨(h.before hreturned).1, ?_⟩
        by_cases hleft : db'.hasActiveRow s.copy.id
        · refine .testing hleft ?_
          intro c hc
          rw [hb] at hc
          cases hc
          exact fun he => hstatus.mp he hleft
        · rcases leavesActiveRow_save hcond hreturned hheld hbatch with hother | ⟨hlast, hpending⟩
          · rw [hbatch] at hother
            exact absurd (hactive.mpr hother) hleft
          · exact .tested hlast hpending hleft ⟨b, hb, hcounters, hstatus.mpr hleft⟩
      · intro hreturned
        exact ⟨(h.after hreturned).1, fun hnone => ⟨b, hb, hcounters, hstatus.mpr hnone⟩⟩
    · exact h.sameBatch hsaved.rowsOk (hsaved.others _ fun he => hbatch he.symm)

theorem ImportInv.row {s : ImportState} (h : ImportInv s) (row : ImportedRow)
    (hremaining : s.remaining ≠ 0) :
    ImportInv { s with
      copy := (importRow row s.copy s.db).1
      db := (importRow row s.copy s.db).2
      remaining := s.remaining - 1 } := by
  have hreturned : s.returned = false := by
    cases hr : s.returned with
    | false => rfl
    | true => exact absurd (h.after hr).1 hremaining
  have hdone := @importRow_done row s.copy s.db h.rowsOk
  obtain ⟨g, hg, hstatus, hcounters⟩ := hdone.batch
  obtain ⟨b, hb⟩ := h.stored
  rw [hb, Option.map_some] at hg
  have hbstatus : b.status ≠ .completed := h.truthful.1 hremaining b hb
  have hcopy : (importRow row s.copy s.db).1.status ≠ .completed := by
    rcases hdone.cached with ⟨hsame, -⟩ | ⟨c, hc, hsame, -⟩
    · rw [hsame]
      exact (h.before hreturned).1
    · rw [hb] at hc
      cases hc
      rw [hsame]
      exact hbstatus
  have hnew := row.result_testStatus s.db.sequences.importRowResults s.copy.id
  have hid := hdone.id
  refine ⟨hdone.rowsOk, ⟨g b, by rw [hid]; exact hg⟩, fun _ => ⟨hcopy, ?_⟩, ?_⟩
  · by_cases hactive : (importRow row s.copy s.db).2.hasActiveRow s.copy.id
    · refine .testing (by rw [hid]; exact hactive) ?_
      intro c hc
      rw [hid, hg] at hc
      cases hc
      rw [(hstatus b).2]
      exact hbstatus
    · -- nothing to test before or after this row
      have hnotCollects : row.collects = false := by
        by_contra hcollects
        apply hactive
        refine ⟨_, by rw [hdone.rows]; exact List.mem_append_right _ (List.mem_singleton.mpr rfl), ?_⟩
        rw [Bool.not_eq_false] at hcollects
        rw [hnew, if_pos hcollects]
        rfl
      have hbefore : ∀ r ∈ s.db.importRowsOf s.copy.id, r.testStatus = .notApplicable := by
        cases (h.before hreturned).2 with
        | testing active =>
          obtain ⟨r, hr, hract⟩ := active
          exact absurd ⟨r, by rw [hdone.rows]; exact List.mem_append_left _ hr, hract⟩ hactive
        | untested rows => exact rows
        | tested last => exact absurd last hremaining
      have hrows : ∀ r ∈ (importRow row s.copy s.db).2.importRowsOf s.copy.id,
          r.testStatus = .notApplicable := by
        intro r hr
        rw [hdone.rows] at hr
        rcases List.mem_append.mp hr with hr | hr
        · exact hbefore r hr
        · rw [List.mem_singleton.mp hr, hnew, hnotCollects]
          rfl
      have hzero : b.testPendingRows = 0 ∧ b.testRunningRows = 0 ∧ b.testSuccessRows = 0 ∧
          b.testFailedRows = 0 ∧ s.copy.testPendingRows = 0 := by
        cases (h.before hreturned).2 with
        | testing active => exact absurd active (not_hasActiveRow_of_untested hbefore)
        | untested rows cached stored =>
          obtain ⟨c, hc, hagree, -⟩ := stored
          rw [hb] at hc
          cases hc
          have hz := hagree.zero (by rw [id_of_importBatch? hb]; exact rows)
          exact ⟨hz.1, hz.2.1, hz.2.2.1, hz.2.2.2, cached⟩
        | tested last => exact absurd last hremaining
      obtain ⟨hp, hr, hs, hf, hcached⟩ := hzero
      have hkeep := hcounters hnotCollects b
      refine .untested (by rw [hid]; exact hrows) ?_ ⟨g b, by rw [hid]; exact hg, ?_, ?_⟩
      · rcases hdone.cached with ⟨-, hsame⟩ | ⟨c, hc, -, hsame⟩
        · exact (hsame hnotCollects).trans hcached
        · rw [hb] at hc
          cases hc
          exact hsame.trans hp
      · apply CountersAgree.of_untested
        · rw [(hstatus b).1, id_of_importBatch? hb]
          exact hrows
        · exact ⟨hkeep.1.trans hp, hkeep.2.1.trans hr, hkeep.2.2.1.trans hs, hkeep.2.2.2.trans hf⟩
      · rw [(hstatus b).2]
        exact hbstatus
  · intro hr
    exact absurd hr (by simp [hreturned])

theorem ImportInv.finish {s : ImportState} (h : ImportInv s) (hlast : s.remaining = 0)
    (hreturned : s.returned = false) (wall : Timestamp) :
    ImportInv { s with db := finishImport wall s.copy s.db, returned := true } := by
  obtain ⟨hcopy, hphase⟩ := h.before hreturned
  obtain ⟨b, hb⟩ := h.stored
  have hfinished : (finishImport wall s.copy s.db).importBatch? s.copy.id =
      some (finishedBatch wall s.copy b) := by
    have hkeep : ∀ c, (finishedBatch wall s.copy c).id = c.id := fun _ => rfl
    unfold finishImport
    rw [importBatch?_update hkeep, if_pos rfl, hb, Option.map_some]
  -- without pending rows in memory the batch is written as completed
  have hcompleted : s.copy.testPendingRows = 0 → CountersAgree s.db b →
      ImportState.Settled { s with db := finishImport wall s.copy s.db, returned := true } := by
    intro hpending hcounters
    have hstatus : finishStatus s.copy = .completed := by simp [finishStatus, hpending]
    refine ⟨_, hfinished, ⟨hcounters.pending, hcounters.running, hcounters.success,
      hcounters.failed⟩, ?_⟩
    simp [finishedBatch, hstatus, Ne.symm hcopy]
  refine ⟨⟨h.rowsOk.nodup, h.rowsOk.fresh⟩, ⟨_, hfinished⟩, ?_, ?_⟩
  · intro hfalse
    cases hfalse
  · intro _
    refine ⟨hlast, ?_⟩
    intro hnone
    cases hphase with
    | testing active => exact absurd active hnone
    | untested rows cached stored =>
      obtain ⟨c, hc, hagree, -⟩ := stored
      rw [hb] at hc
      cases hc
      exact hcompleted cached hagree
    | tested last cached none settled =>
      obtain ⟨c, hc, hagree, -⟩ := settled
      rw [hb] at hc
      cases hc
      exact hcompleted cached hagree

/-! ## Runs -/

theorem ImportInv.step {s s' : ImportState} {a : ImportAction} (h : ImportInv s)
    (hcond : leavesActiveRow s a) (hstep : s.step a = some s') : ImportInv s' := by
  cases a with
  | row row =>
    simp only [ImportState.step] at hstep
    split_ifs at hstep with hremaining
    cases hstep
    exact h.row row hremaining
  | finish wall =>
    simp only [ImportState.step] at hstep
    split_ifs at hstep with hlast
    cases hstep
    exact h.finish hlast.1 hlast.2 wall
  | claim workerId localCapacity globalLimit leaseSeconds now wall =>
    cases hstep
    exact h.claim workerId localCapacity globalLimit leaseSeconds now wall
  | save workerId rowId outcome now wall => exact h.save hcond hstep

theorem FreshImport.inv {db : Database} {batch : ImportBatch} (h : FreshImport db batch) (n : ℕ) :
    ImportInv ⟨db, batch, n, false⟩ := by
  have hrows : ∀ r ∈ db.importRowsOf batch.id, r.testStatus = .notApplicable := by
    rw [h.noRows]
    simp
  refine ⟨h.rowsOk, ⟨batch, h.stored⟩, fun _ => ⟨by rw [h.importing]; simp, ?_⟩, by simp⟩
  refine .untested hrows h.uncounted.1 ⟨batch, h.stored, ?_, by rw [h.importing]; simp⟩
  exact CountersAgree.of_untested hrows h.uncounted

/-- In every interleaving in which the results saved during the import leave another
row to be tested, the status of the batch is truthful in every state reached. -/
theorem import_status_truthful {db : Database} {batch : ImportBatch} (h : FreshImport db batch)
    {n : ℕ} {actions : List ImportAction} {s : ImportState}
    (hmeets : Machine.Meets ImportState.step (leavesActiveRow · ·) ⟨db, batch, n, false⟩ actions)
    (hrun : Machine.run ImportState.step ⟨db, batch, n, false⟩ actions = some s) : s.Truthful := by
  have hinv := Machine.run_invariant_of_meets ImportInv
    (fun _ _ _ hs hcond hstep => ImportInv.step hs hcond hstep) actions _ s (h.inv n) hmeets hrun
  exact hinv.truthful

/-- A batch that has just been created. -/
def newImport : ImportBatch := { id := 1, filename := "devices.xlsx", totalRows := 2 }

def newImportDatabase : Database where
  importBatches := [newImport]

theorem newImport_fresh : FreshImport newImportDatabase newImport :=
  ⟨⟨by simp [newImportDatabase], by simp [newImportDatabase]⟩, by decide, rfl, by decide, by decide⟩

/-- A row imported with credentials. -/
def collectedRow (n : ℕ) : ImportedRow where
  rowNumber := n
  outcome := .imported { id := n, name := "web", host := "10.0.0.10" }

/-- The first row is tested before the second is imported. -/
def eagerTestActions : List ImportAction :=
  [.row (collectedRow 2), .claim "worker-a" 1 1 90 0 0,
    .save "worker-a" 1 ⟨true, "连接测试成功"⟩ 1 1, .row ⟨3, none, none, .skipped 9⟩, .finish 2]

theorem eager_test_breaks_import_status :
    FreshImport newImportDatabase newImport ∧
    (∃ s, Machine.run ImportState.step ⟨newImportDatabase, newImport, 2, false⟩
        (eagerTestActions.take 3) = some s ∧ s.remaining = 1 ∧
        s.db.importBatches.map (·.status) = [.completed]) ∧
    ∃ s, Machine.run ImportState.step ⟨newImportDatabase, newImport, 2, false⟩ eagerTestActions =
        some s ∧ s.returned ∧ s.db.importRowResults.map (·.testStatus) = [.success, .notApplicable] ∧
        s.db.importBatches.map (·.status) = [.testing] := by
  refine ⟨newImport_fresh, ?_, ?_⟩
  · obtain ⟨s, hs⟩ : ∃ s, Machine.run ImportState.step ⟨newImportDatabase, newImport, 2, false⟩
      (eagerTestActions.take 3) = some s := ⟨_, rfl⟩
    refine ⟨s, hs, ?_, ?_⟩
    · cases hs
      decide
    · cases hs
      decide
  · obtain ⟨s, hs⟩ : ∃ s, Machine.run ImportState.step ⟨newImportDatabase, newImport, 2, false⟩
      eagerTestActions = some s := ⟨_, rfl⟩
    refine ⟨s, hs, ?_, ?_, ?_⟩
    · cases hs
      decide
    · cases hs
      decide
    · cases hs
      decide

/-- The same tests with the result saved after the import has returned. -/
def patientTestActions : List ImportAction :=
  [.row (collectedRow 2), .claim "worker-a" 1 1 90 0 0, .row ⟨3, none, none, .skipped 9⟩, .finish 2,
    .save "worker-a" 1 ⟨true, "连接测试成功"⟩ 3 3]

theorem patient_test_keeps_import_status :
    ∃ s, Machine.run ImportState.step ⟨newImportDatabase, newImport, 2, false⟩ patientTestActions =
        some s ∧ s.returned ∧ s.db.importBatches.map (·.status) = [.completed] ∧ s.Truthful := by
  obtain ⟨s, hs⟩ : ∃ s, Machine.run ImportState.step ⟨newImportDatabase, newImport, 2, false⟩
    patientTestActions = some s := ⟨_, rfl⟩
  have hmeets : Machine.Meets ImportState.step (leavesActiveRow · ·)
      ⟨newImportDatabase, newImport, 2, false⟩ patientTestActions := by decide
  refine ⟨s, hs, ?_, ?_, import_status_truthful newImport_fresh hmeets hs⟩
  · cases hs
    decide
  · cases hs
    decide

end ConnectionTopology
