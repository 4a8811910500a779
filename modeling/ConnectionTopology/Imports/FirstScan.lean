import ConnectionTopology.Imports.TestThreads
import ConnectionTopology.Imports.ImportScan

/-!
# A finished import and its first scan

The batch is completed by exactly one saved result. The execution that saved it
calls back, unless the result was saved by the last `except` branch, which drops the
answer of `_save_result`.
-/
namespace ConnectionTopology

/-! ## One batch between transactions -/

/-- Some row is still to be tested and the batch is not completed. -/
def IsOpen (batchId : ℕ) (db : Database) : Prop :=
  ∃ b, db.importBatch? batchId = some b ∧ b.status ≠ .completed ∧ db.hasActiveRow batchId

/-- Every row is tested and the batch is completed. -/
def IsClosed (batchId : ℕ) (db : Database) : Prop :=
  ∃ b, db.importBatch? batchId = some b ∧ b.status = .completed ∧ ¬ db.hasActiveRow batchId

/-- The transaction neither completes the batch nor creates its scan. -/
structure Steady (batchId : ℕ) (db db' : Database) : Prop where
  tables : TablesOk db'
  opened : IsOpen batchId db → IsOpen batchId db'
  closed : IsClosed batchId db → IsClosed batchId db'
  unscanned : Unscanned batchId db → Unscanned batchId db'

theorem Steady.refl {batchId : ℕ} {db : Database} (h : TablesOk db) : Steady batchId db db :=
  ⟨h, fun h => h, fun h => h, fun h => h⟩

/-- The transaction wrote import tables only. -/
def ImportTablesOnly (db db' : Database) : Prop :=
  db' = { db with importBatches := db'.importBatches, importRowResults := db'.importRowResults }

theorem TablesOk.importTables {db db' : Database} (h : TablesOk db) (hrows : RowsOk db')
    (hframe : ImportTablesOnly db db') : TablesOk db' := by
  have hdevices : db'.devices = db.devices := by rw [hframe]
  have hbatches : db'.scanBatches = db.scanBatches := by rw [hframe]
  have hitems : db'.scanBatchItems = db.scanBatchItems := by rw [hframe]
  have hseq : db'.sequences = db.sequences := by rw [hframe]
  refine ⟨hrows, ?_, ?_, ?_⟩
  · rw [hdevices]
    exact h.devices
  · rw [hbatches, hseq]
    exact h.batches
  · rw [hitems, hseq]
    exact h.items

@[simp] theorem refreshedImportBatch_scanBatchId (wall : Timestamp) (db : Database)
    (b : ImportBatch) : (refreshedImportBatch wall db b).scanBatchId = b.scanBatchId := by
  unfold refreshedImportBatch
  dsimp only
  split_ifs <;> rfl

/-- Recounting keeps the link to the scan batch. -/
theorem Unscanned.recount {batchId : ℕ} {wall : Timestamp} {db db' : Database}
    (h : Unscanned batchId db) (hframe : ImportTablesOnly db db')
    (hbatch : db'.importBatch? batchId = db.importBatch? batchId ∨
      db'.importBatch? batchId = (db.importBatch? batchId).map (refreshedImportBatch wall db')) :
    Unscanned batchId db' := by
  have hbatches : db'.scanBatches = db.scanBatches := by rw [hframe]
  constructor
  · intro b hb
    rcases hbatch with hsame | hrefreshed
    · exact h.unlinked b (hsame.symm.trans hb)
    · rw [hb] at hrefreshed
      obtain ⟨c, hc, rfl⟩ := Option.map_eq_some_iff.mp hrefreshed.symm
      rw [refreshedImportBatch_scanBatchId]
      exact h.unlinked c hc
  · rw [hbatches]
    exact h.unsourced

theorem Steady.of_same {batchId : ℕ} {db db' : Database} (h : TablesOk db) (hrows : RowsOk db')
    (hframe : ImportTablesOnly db db') (hsame : SameBatch batchId db db') :
    Steady batchId db db' := by
  have hactive := hasActiveRow_congr hsame.1
  refine ⟨h.importTables hrows hframe, ?_, ?_, ?_⟩
  · rintro ⟨b, hb, hstatus, hact⟩
    exact ⟨b, hsame.2.trans hb, hstatus, hactive.mpr hact⟩
  · rintro ⟨b, hb, hstatus, hact⟩
    exact ⟨b, hsame.2.trans hb, hstatus, fun ha => hact (hactive.mp ha)⟩
  · intro hun
    exact @Unscanned.recount batchId 0 db db' hun hframe (Or.inl hsame.2)

theorem Steady.of_reclaimed {batchId : ℕ} {wall : Timestamp} {db db' : Database} (h : TablesOk db)
    (hrows : RowsOk db') (hframe : ImportTablesOnly db db') (hre : Reclaimed batchId wall db db') :
    Steady batchId db db' := by
  obtain ⟨hbefore, hafter, hbatch⟩ := hre
  refine ⟨h.importTables hrows hframe, ?_, ?_, ?_⟩
  · rintro ⟨b, hb, -, -⟩
    rw [hb] at hbatch
    refine ⟨_, hbatch, ?_, hafter⟩
    rw [ne_eq, refreshedImportBatch_status, id_of_importBatch? hb]
    exact fun hnone => hnone hafter
  · rintro ⟨b, -, -, hnone⟩
    exact absurd hbefore hnone
  · intro hun
    exact hun.recount hframe (Or.inr hbatch)

/-! ## The transactions -/

theorem claimImportTests_frame (workerId : String) (localCapacity globalLimit : ℤ)
    (leaseSeconds : ℕ) (now wall : Timestamp) (db : Database) :
    ImportTablesOnly db
      (claimImportTests workerId localCapacity globalLimit leaseSeconds now wall db).2 := by
  unfold claimImportTests ImportTablesOnly
  split_ifs
  · rfl
  · dsimp only
    rw [refreshImportBatches_eq]
    rfl

theorem claimImportTests_steady {db : Database} (h : TablesOk db) (batchId : ℕ) (workerId : String)
    (localCapacity globalLimit : ℤ) (leaseSeconds : ℕ) (now wall : Timestamp) :
    Steady batchId db
      (claimImportTests workerId localCapacity globalLimit leaseSeconds now wall db).2 := by
  have hframe := claimImportTests_frame workerId localCapacity globalLimit leaseSeconds now wall db
  obtain ⟨hrows, hsame | hre⟩ := claimImportTests_spec h.rows workerId localCapacity globalLimit
    leaseSeconds now wall batchId
  · exact Steady.of_same h hrows hframe hsame
  · exact Steady.of_reclaimed h hrows hframe hre

theorem claimSpecific_steady {db : Database} (h : TablesOk db) (batchId : ℕ) (workerId : String)
    (rowId : ℕ) (globalLimit : ℤ) (leaseSeconds : ℕ) (now wall : Timestamp) :
    Steady batchId db (claimSpecific workerId rowId globalLimit leaseSeconds now wall db) := by
  unfold claimSpecific
  split
  · exact Steady.refl h
  · rename_i row hfind
    split_ifs with hclaim
    · have hmem := List.mem_of_find?_eq_some hfind
      have hid : row.id = rowId := by simpa using List.find?_some hfind
      have hkeys := keepsKeys_claimedBy workerId now (now + leaseSeconds * microsPerSecond)
      set mid := db.updateImportRows [rowId]
        (ImportRowResult.claimedBy workerId now (now + leaseSeconds * microsPerSecond)) with hmid
      have hrows : RowsOk (refreshImportBatches wall [row.batchId] mid).2 :=
        (h.rows.update hkeys).refresh wall _
      have hframe : ImportTablesOnly db (refreshImportBatches wall [row.batchId] mid).2 := by
        unfold ImportTablesOnly
        rw [refreshImportBatches_eq]
        rfl
      have hquiet : batchId ∉ [row.batchId] → mid.importRowsOf batchId = db.importRowsOf batchId := by
        intro hne
        apply importRowsOf_update hkeys
        intro r hr hr'
        rw [h.rows.unique hr hmem ((List.mem_singleton.mp hr').trans hid.symm)]
        exact fun he => hne (by simp [he])
      rcases @sameBatch_or_refreshed db mid [row.batchId] batchId wall rfl hquiet with
        hsame | ⟨hin, hbatch⟩
      · exact Steady.of_same h hrows hframe hsame
      · have hbid : batchId = row.batchId := List.mem_singleton.mp hin
        have hbefore : db.hasActiveRow batchId :=
          ⟨row, mem_importRowsOf.mpr ⟨hmem, hbid.symm⟩, by rw [hclaim.1]; rfl⟩
        have hafter : mid.hasActiveRow batchId := hasActiveRow_update hkeys (fun _ => rfl) hbefore
        apply Steady.of_reclaimed h hrows hframe
        exact ⟨hbefore, (hasActiveRow_congr (importRowsOf_refresh wall _ mid batchId)).mpr hafter, hbatch⟩
    · exact Steady.refl h

/-- Rows keep their key, batch and test status. -/
def KeepsTests (f : ImportRowResult → ImportRowResult) : Prop :=
  ∀ r, (f r).id = r.id ∧ (f r).batchId = r.batchId ∧ (f r).testStatus = r.testStatus

theorem hasActiveRow_map {db db' : Database} {f : ImportRowResult → ImportRowResult}
    (hf : KeepsTests f) (hrows : db'.importRowResults = db.importRowResults.map f) (batchId : ℕ) :
    db'.hasActiveRow batchId ↔ db.hasActiveRow batchId := by
  simp only [Database.hasActiveRow, mem_importRowsOf, hrows, List.mem_map]
  constructor
  · rintro ⟨_, ⟨⟨r, hr, rfl⟩, hb⟩, hact⟩
    rw [(hf r).2.1] at hb
    rw [(hf r).2.2] at hact
    exact ⟨r, ⟨hr, hb⟩, hact⟩
  · rintro ⟨r, ⟨hr, hb⟩, hact⟩
    exact ⟨f r, ⟨⟨r, hr, rfl⟩, (hf r).2.1.trans hb⟩, by rw [(hf r).2.2]; exact hact⟩

theorem RowsOk.map {db db' : Database} (h : RowsOk db) {f : ImportRowResult → ImportRowResult}
    (hf : KeepsTests f) (hrows : db'.importRowResults = db.importRowResults.map f)
    (hseq : db'.sequences.importRowResults = db.sequences.importRowResults) : RowsOk db' := by
  constructor
  · have hids : db'.importRowResults.map (·.id) = db.importRowResults.map (·.id) := by
      rw [hrows, List.map_map]
      apply List.map_congr_left
      intro r _
      exact (hf r).1
    rw [hids]
    exact h.nodup
  · intro r hr
    rw [hrows] at hr
    obtain ⟨s, hs, rfl⟩ := List.mem_map.mp hr
    rw [(hf s).1, hseq]
    exact h.fresh s hs

/-- Neither the rows' test status nor the import batches change. -/
theorem Steady.of_map {batchId : ℕ} {db db' : Database} (htables : TablesOk db')
    {f : ImportRowResult → ImportRowResult} (hf : KeepsTests f)
    (hrows : db'.importRowResults = db.importRowResults.map f)
    (hbatches : db'.importBatches = db.importBatches)
    (hsourced : Unscanned batchId db → ∀ b ∈ db'.scanBatches, b.sourceImportBatchId ≠ some batchId) :
    Steady batchId db db' := by
  have hactive := hasActiveRow_map hf hrows batchId
  have hbatch : db'.importBatch? batchId = db.importBatch? batchId := by
    simp only [Database.importBatch?, hbatches]
  refine ⟨htables, ?_, ?_, ?_⟩
  · rintro ⟨b, hb, hstatus, hact⟩
    exact ⟨b, hbatch.trans hb, hstatus, hactive.mpr hact⟩
  · rintro ⟨b, hb, hstatus, hact⟩
    exact ⟨b, hbatch.trans hb, hstatus, fun ha => hact (hactive.mp ha)⟩
  · intro hun
    exact ⟨fun b hb => hun.unlinked b (hbatch.symm.trans hb), hsourced hun⟩

theorem renewImportTestLeases_steady {db : Database} (h : TablesOk db) (batchId : ℕ)
    (workerId : String) (rowIds : List ℕ) (leaseSeconds : ℕ) (now : Timestamp) :
    Steady batchId db (renewImportTestLeases workerId rowIds leaseSeconds now db).2 := by
  unfold renewImportTestLeases
  split_ifs
  · exact Steady.refl h
  · have hkeeps : KeepsTests fun r : ImportRowResult =>
        if (decide (r.id ∈ rowIds) && r.isHeldBy workerId now) = true then
          { r with
            testHeartbeatAt := some now
            testLeaseExpiresAt := some (now + leaseSeconds * microsPerSecond) }
        else r := by
      intro r
      dsimp only
      split_ifs <;> exact ⟨rfl, rfl, rfl⟩
    refine Steady.of_map ?_ hkeeps rfl rfl fun hun => hun.unsourced
    exact ⟨h.rows.map hkeeps rfl rfl, h.devices, h.batches, h.items⟩

/-- A cancelled task changes task rows, items' status and counters only. -/
theorem cancelDevice_spec (deviceId : ℕ) (wall : Timestamp) (db : Database) :
    (cancelDevice deviceId wall db).2 = { db with
        scanTasks := (cancelDevice deviceId wall db).2.scanTasks
        scanBatchItems := (cancelDevice deviceId wall db).2.scanBatchItems
        scanBatches := (cancelDevice deviceId wall db).2.scanBatches } ∧
      (cancelDevice deviceId wall db).2.scanBatches.map
          (fun b => (b.id, b.sourceImportBatchId, b.batchType)) =
        db.scanBatches.map (fun b => (b.id, b.sourceImportBatchId, b.batchType)) ∧
      (cancelDevice deviceId wall db).2.scanBatchItems.map (·.batchId) =
        db.scanBatchItems.map (·.batchId) := by
  unfold cancelDevice
  split
  · exact ⟨rfl, rfl, rfl⟩
  · split_ifs
    · exact ⟨rfl, rfl, rfl⟩
    · refine ⟨?_, ?_, ?_⟩
      · dsimp only
        rw [refreshScanBatches_eq]
        rfl
      · exact refreshScanBatches_fields wall _ _
      · simp only [refreshScanBatches_scanBatchItems, moveTask_scanBatchItems, List.map_map]
        apply List.map_congr_left
        intro i _
        simp only [Function.comp_apply]
        split_ifs <;> rfl

theorem deleteDevice_steady {db db' : Database} (h : TablesOk db) (batchId : ℕ) {deviceId : ℕ}
    {wall : Timestamp} (hok : deleteDevice deviceId wall db = .ok db') : Steady batchId db db' := by
  unfold deleteDevice at hok
  dsimp only at hok
  split_ifs at hok
  cases hok
  obtain ⟨hframe, hfields, hitemIds⟩ := cancelDevice_spec deviceId wall db
  set mid := (cancelDevice deviceId wall db).2
  have hdevices : mid.devices = db.devices := by rw [hframe]
  have hrows : mid.importRowResults = db.importRowResults := by rw [hframe]
  have hbatches : mid.importBatches = db.importBatches := by rw [hframe]
  have hseq : mid.sequences = db.sequences := by rw [hframe]
  have hfieldsOf : ∀ b ∈ mid.scanBatches, ∃ c ∈ db.scanBatches, c.id = b.id ∧
      c.sourceImportBatchId = b.sourceImportBatchId := by
    intro b hb
    have hmem : (b.id, b.sourceImportBatchId, b.batchType) ∈
        mid.scanBatches.map (fun b => (b.id, b.sourceImportBatchId, b.batchType)) :=
      List.mem_map_of_mem hb
    rw [hfields] at hmem
    obtain ⟨c, hc, heq⟩ := List.mem_map.mp hmem
    exact ⟨c, hc, congrArg Prod.fst heq, congrArg (fun p => p.2.1) heq⟩
  have hkeeps : KeepsTests fun r : ImportRowResult =>
      if r.deviceId = some deviceId then { r with deviceId := none } else r := by
    intro r
    dsimp only
    split_ifs <;> exact ⟨rfl, rfl, rfl⟩
  have hmap : (mid.dropDevice deviceId).importRowResults = db.importRowResults.map fun r =>
      if r.deviceId = some deviceId then { r with deviceId := none } else r := by
    rw [← hrows]
    rfl
  refine Steady.of_map ⟨?_, ?_, ?_, ?_⟩ hkeeps hmap hbatches ?_
  · exact h.rows.map hkeeps hmap (congrArg Sequences.importRowResults hseq)
  · have hsub : ((mid.dropDevice deviceId).devices.map (·.id)).Sublist (db.devices.map (·.id)) := by
      rw [← hdevices]
      exact List.filter_sublist.map _
    exact hsub.nodup h.devices
  · intro b hb
    obtain ⟨c, hc, hid, -⟩ := hfieldsOf b hb
    have := h.batches c hc
    rw [← hid]
    exact lt_of_lt_of_eq this (congrArg Sequences.scanBatches hseq).symm
  · intro i hi
    have hmem : i.batchId ∈ mid.scanBatchItems.map (·.batchId) :=
      List.mem_map_of_mem (List.mem_filter.mp hi).1
    rw [hitemIds] at hmem
    obtain ⟨j, hj, hid⟩ := List.mem_map.mp hmem
    have := h.items j hj
    rw [← hid]
    exact lt_of_lt_of_eq this (congrArg Sequences.scanBatches hseq).symm
  · intro hun b hb
    obtain ⟨c, hc, -, hsource⟩ := hfieldsOf b hb
    rw [← hsource]
    exact hun.unsourced c hc

/-- A saved result either leaves the batch open or is the one that closes it. -/
theorem Saved.steady_or_closes {row : ImportRowResult} {outcome : ImportTestOutcome}
    {wall : Timestamp} {db db' : Database} {completed : Option ℕ} (h : TablesOk db)
    (hsaved : Saved row outcome wall db completed db') (hrow : row ∈ db.importRowResults)
    (hrunning : row.testStatus = .running) (batchId : ℕ) :
    (completed ≠ some batchId ∧ Steady batchId db db') ∨
      (completed = some batchId ∧ TablesOk db' ∧ IsClosed batchId db' ∧ ¬ IsClosed batchId db ∧
        (Unscanned batchId db → Unscanned batchId db')) := by
  have hframe : ImportTablesOnly db db' := by
    have hrows : db'.importRowResults = (db.updateImportRows [row.id]
        (ImportRowResult.withOutcome outcome)).importRowResults := by rw [hsaved.frame]
    unfold ImportTablesOnly
    rw [hrows]
    exact hsaved.frame
  have htables := h.importTables hsaved.rowsOk hframe
  by_cases hbatch : batchId = row.batchId
  · subst hbatch
    have hbefore : db.hasActiveRow row.batchId :=
      ⟨row, mem_importRowsOf.mpr ⟨hrow, rfl⟩, by rw [hrunning]; rfl⟩
    have hun : Unscanned row.batchId db → Unscanned row.batchId db' :=
      fun hun => hun.recount hframe (Or.inr hsaved.batch)
    have hnotClosed : ¬ IsClosed row.batchId db := by
      rintro ⟨b, -, -, hnone⟩
      exact hnone hbefore
    by_cases hdone : completed = some row.batchId
    · right
      obtain ⟨-, ⟨b, hb, -⟩, hnone⟩ := (hsaved.completed _).mp hdone
      have hstored := hsaved.batch
      rw [hb] at hstored
      refine ⟨hdone, htables, ⟨_, hstored, ?_, hnone⟩, hnotClosed, hun⟩
      rw [refreshedImportBatch_status, id_of_importBatch? hb]
      exact hnone
    · left
      refine ⟨hdone, htables, ?_, fun hc => absurd hc hnotClosed, hun⟩
      rintro ⟨b, hb, hstatus, -⟩
      have hactive : db'.hasActiveRow row.batchId := by
        by_contra hnone
        exact hdone ((hsaved.completed _).mpr ⟨rfl, ⟨b, hb, hstatus⟩, hnone⟩)
      have hstored := hsaved.batch
      rw [hb] at hstored
      refine ⟨_, hstored, ?_, hactive⟩
      rw [ne_eq, refreshedImportBatch_status, id_of_importBatch? hb]
      exact fun hnone => hnone hactive
  · left
    refine ⟨?_, Steady.of_same h hsaved.rowsOk hframe (hsaved.others batchId hbatch)⟩
    intro hdone
    exact hbatch ((hsaved.completed _).mp hdone).1

theorem ImportScanned.steady {importBatchId : ℕ} {db db' : Database}
    (h : ImportScanned importBatchId db db') {batchId : ℕ} :
    (IsOpen batchId db → IsOpen batchId db') ∧ (IsClosed batchId db → IsClosed batchId db') := by
  have hactive : db'.hasActiveRow batchId ↔ db.hasActiveRow batchId := by
    apply hasActiveRow_congr
    simp only [Database.importRowsOf, h.importRows]
  have hstatus : ∀ b, db.importBatch? batchId = some b →
      ∃ b', db'.importBatch? batchId = some b' ∧ b'.status = b.status := by
    intro b hb
    have hmap := h.status batchId
    rw [hb, Option.map_some] at hmap
    exact Option.map_eq_some_iff.mp hmap
  constructor
  · rintro ⟨b, hb, hopen, hact⟩
    obtain ⟨b', hb', hsame⟩ := hstatus b hb
    exact ⟨b', hb', by rw [hsame]; exact hopen, hactive.mpr hact⟩
  · rintro ⟨b, hb, hclosed, hact⟩
    obtain ⟨b', hb', hsame⟩ := hstatus b hb
    exact ⟨b', hb', hsame.trans hclosed, fun ha => hact (hactive.mp ha)⟩

/-! ## The invariant of the executions -/

/-- The result of the last `except` branch leaves another row of the batch to be tested. -/
def errorBranchLeavesRow (batchId : ℕ) (s : TestState) : TestAction → Bool
  | .saveFailed n _ now _ =>
    match s.threads[n]? with
    | none => true
    | some t =>
      match heldRow t.workerId t.rowId now s.db with
      | none => true
      | some row => row.batchId ≠ batchId ||
          (s.db.importRowsOf batchId).any fun r => r.id ≠ row.id && r.testStatus.isActive
  | _ => true

structure TestInv (batchId : ℕ) (s : TestState) : Prop where
  tables : TablesOk s.db
  phase : (s.completions batchId = 0 ∧ IsOpen batchId s.db) ∨
    (s.completions batchId = 1 ∧ IsClosed batchId s.db)
  calls : s.callbacks batchId + s.waiting batchId = s.completions batchId
  unscanned : s.callbacks batchId = 0 → Unscanned batchId s.db

/-- A transaction that does not touch the log or the executions' callbacks. -/
theorem TestInv.steady {batchId : ℕ} {s s' : TestState} (h : TestInv batchId s)
    (hsteady : Steady batchId s.db s'.db) (hcompletions : s'.completions batchId = s.completions batchId)
    (hcallbacks : s'.callbacks batchId = s.callbacks batchId)
    (hwaiting : s'.waiting batchId = s.waiting batchId) : TestInv batchId s' := by
  refine ⟨hsteady.tables, ?_, ?_, ?_⟩
  · rw [hcompletions]
    rcases h.phase with ⟨hzero, hopen⟩ | ⟨hone, hclosed⟩
    · exact Or.inl ⟨hzero, hsteady.opened hopen⟩
    · exact Or.inr ⟨hone, hsteady.closed hclosed⟩
  · rw [hcallbacks, hwaiting, hcompletions]
    exact h.calls
  · intro hzero
    rw [hcallbacks] at hzero
    exact hsteady.unscanned (h.unscanned hzero)

/-- The number of executions about to call back, when one of them moves. -/
theorem waiting_moveTo {s : TestState} {n : ℕ} {t : TestThread} (hn : s.threads[n]? = some t)
    (point : TestPoint) (batchId : ℕ) :
    (s.moveTo n t point).waiting batchId + (if t.point = .callback batchId then 1 else 0) =
      s.waiting batchId + (if point = .callback batchId then 1 else 0) := by
  have hcount := Machine.countP_set_add (fun u : TestThread => decide (u.point = .callback batchId))
    { t with point := point } hn
  simpa [TestState.moveTo, TestState.waiting] using hcount

/-- Moves between points that do not call back. -/
theorem waiting_moveTo_same {s : TestState} {n : ℕ} {t : TestThread}
    (hn : s.threads[n]? = some t) {point : TestPoint} {batchId : ℕ}
    (hfrom : t.point ≠ .callback batchId) (hto : point ≠ .callback batchId) :
    (s.moveTo n t point).waiting batchId = s.waiting batchId := by
  have hcount := waiting_moveTo hn point batchId
  rw [if_neg hfrom, if_neg hto] at hcount
  exact hcount

theorem completions_record (s : TestState) (completed : Option ℕ) (batchId : ℕ) :
    (s.record completed).completions batchId =
      s.completions batchId + (if completed = some batchId then 1 else 0) := by
  cases completed with
  | none => simp [TestState.record, TestState.completions]
  | some b =>
    by_cases hb : b = batchId
    · subst hb
      simp [TestState.record, TestState.completions, List.count_append]
    · simp [TestState.record, TestState.completions, List.count_append, hb]

theorem callbacks_record (s : TestState) (completed : Option ℕ) (batchId : ℕ) :
    (s.record completed).callbacks batchId = s.callbacks batchId := by
  cases completed with
  | none => simp [TestState.record, TestState.callbacks]
  | some b => simp [TestState.record, TestState.callbacks, List.count_append]

/-- Saving a result at any point; `point` is where the execution goes on. -/
theorem TestInv.save {batchId : ℕ} {s : TestState} (h : TestInv batchId s) {n : ℕ}
    {t : TestThread} (hn : s.threads[n]? = some t) (hfrom : t.point ≠ .callback batchId)
    {row : ImportRowResult} {outcome : ImportTestOutcome} {wall : Timestamp}
    {completed : Option ℕ} {db' : Database} (hsaved : Saved row outcome wall s.db completed db')
    (hrow : row ∈ s.db.importRowResults) (hrunning : row.testStatus = .running) {point : TestPoint}
    (hpoint : point = .callback batchId ↔ completed = some batchId) :
    TestInv batchId (({ s with db := db' }.record completed).moveTo n t point) := by
  have hcompletions : (({ s with db := db' }.record completed).moveTo n t point).completions batchId =
      s.completions batchId + (if completed = some batchId then 1 else 0) :=
    completions_record { s with db := db' } completed batchId
  have hcallbacks : (({ s with db := db' }.record completed).moveTo n t point).callbacks batchId =
      s.callbacks batchId := callbacks_record { s with db := db' } completed batchId
  have hwaiting := @waiting_moveTo ({ s with db := db' }.record completed) n t hn point batchId
  rw [if_neg hfrom] at hwaiting
  have hsame : ({ s with db := db' }.record completed).waiting batchId = s.waiting batchId := rfl
  rcases hsaved.steady_or_closes h.tables hrow hrunning batchId with
    ⟨hnot, hsteady⟩ | ⟨hdone, htables, hclosed, hopen, hun⟩
  · rw [if_neg hnot] at hcompletions
    rw [if_neg fun hp => hnot (hpoint.mp hp), hsame] at hwaiting
    exact h.steady hsteady hcompletions hcallbacks hwaiting
  · rw [if_pos hdone] at hcompletions
    rw [if_pos (hpoint.mpr hdone), hsame] at hwaiting
    have hzero : s.completions batchId = 0 := by
      rcases h.phase with ⟨hzero, -⟩ | ⟨-, hc⟩
      · exact hzero
      · exact absurd hc hopen
    have hcalls := h.calls
    refine ⟨htables, Or.inr ⟨by rw [hcompletions, hzero], hclosed⟩, ?_, ?_⟩
    · rw [hcallbacks, hcompletions]
      omega
    · intro hcb
      rw [hcallbacks] at hcb
      exact hun (h.unscanned hcb)

theorem callbacks_append (s : TestState) (called batchId : ℕ) :
    ({ s with log := s.log ++ [.callback called] } : TestState).callbacks batchId =
      s.callbacks batchId + (if called = batchId then 1 else 0) := by
  by_cases hb : called = batchId
  · simp [TestState.callbacks, List.count_append, hb]
  · simp [TestState.callbacks, List.count_append, hb]

theorem completions_append (s : TestState) (called batchId : ℕ) :
    ({ s with log := s.log ++ [.callback called] } : TestState).completions batchId =
      s.completions batchId := by
  simp [TestState.completions, List.count_append]

/-- The callback is made, whatever it answers. -/
theorem TestInv.callback {batchId called : ℕ} {s : TestState} (h : TestInv batchId s) {n : ℕ}
    {t : TestThread} (hn : s.threads[n]? = some t) (hfrom : t.point = .callback called)
    {db' : Database} (htables : TablesOk db')
    (hphase : (IsOpen batchId s.db → IsOpen batchId db') ∧ (IsClosed batchId s.db → IsClosed batchId db'))
    (hun : called ≠ batchId → Unscanned batchId s.db → Unscanned batchId db') {point : TestPoint}
    (hto : point ≠ .callback batchId) :
    TestInv batchId ({ s with log := s.log ++ [ImportEvent.callback called], db := db' }.moveTo n t point) := by
  have hcallbacks := callbacks_append s called batchId
  have hcompletions := completions_append s called batchId
  have hwaiting := @waiting_moveTo { s with log := s.log ++ [ImportEvent.callback called], db := db' }
    n t hn point batchId
  rw [if_neg hto, hfrom] at hwaiting
  simp only [TestPoint.callback.injEq] at hwaiting
  have hcalls := h.calls
  have hsame : ({ s with log := s.log ++ [.callback called], db := db' } : TestState).waiting batchId =
      s.waiting batchId := rfl
  rw [hsame] at hwaiting
  refine ⟨htables, ?_, ?_, ?_⟩
  · rcases h.phase with ⟨hzero, hopen⟩ | ⟨hone, hclosed⟩
    · exact Or.inl ⟨hcompletions.trans hzero, hphase.1 hopen⟩
    · exact Or.inr ⟨hcompletions.trans hone, hphase.2 hclosed⟩
  · refine (congrArg (· + _) hcallbacks).trans ?_
    refine Eq.trans ?_ hcompletions.symm
    omega
  · intro hzero
    have hzero' := hcallbacks.symm.trans hzero
    have hne : called ≠ batchId := by
      rintro rfl
      rw [if_pos rfl] at hzero'
      omega
    rw [if_neg hne] at hzero'
    exact hun hne (h.unscanned hzero')

theorem TestInv.step {c : TestSettings} {batchId : ℕ} {s s' : TestState} {a : TestAction}
    (h : TestInv batchId s) (hcond : errorBranchLeavesRow batchId s a)
    (hstep : s.step c a = some s') : TestInv batchId s' := by
  cases a with
  | claim workerId localCapacity now wall =>
    cases hstep
    exact h.steady (claimImportTests_steady h.tables batchId workerId localCapacity c.globalLimit
      c.leaseSeconds now wall) rfl rfl rfl
  | renew workerId rowIds now =>
    cases hstep
    exact h.steady (renewImportTestLeases_steady h.tables batchId workerId rowIds c.leaseSeconds now)
      rfl rfl rfl
  | deleteDevice deviceId wall =>
    simp only [TestState.step] at hstep
    split at hstep
    · rename_i hok
      cases hstep
      exact h.steady (deleteDevice_steady h.tables batchId hok) rfl rfl rfl
    · cases hstep
      exact h
  | begin workerId rowId =>
    cases hstep
    refine h.steady (Steady.refl h.tables) rfl rfl ?_
    simp [TestState.waiting, List.countP_append]
  | load n outcome now wall =>
    simp only [TestState.step] at hstep
    split at hstep
    · rename_i t hn
      split_ifs at hstep with hpoint
      have hfrom : t.point ≠ .callback batchId := by simp [hpoint]
      split at hstep
      · cases hstep
        exact h.steady (Steady.refl h.tables) rfl rfl (waiting_moveTo_same hn hfrom (by simp))
      · rename_i target db' hload
        cases hstep
        have hdb : db' = claimSpecific t.workerId t.rowId c.globalLimit c.leaseSeconds now wall s.db := by
          unfold loadTarget at hload
          dsimp only at hload
          split at hload
          · cases hload
          · cases hload
            rfl
        refine h.steady ?_ rfl rfl (@waiting_moveTo_same { s with db := db' } n t hn _ _ hfrom (by simp))
        rw [hdb]
        exact claimSpecific_steady h.tables batchId t.workerId t.rowId c.globalLimit c.leaseSeconds
          now wall
    · cases hstep
  | lose n =>
    simp only [TestState.step] at hstep
    split at hstep
    · rename_i t hn
      split at hstep
      · rename_i hpoint
        cases hstep
        exact h.steady (Steady.refl h.tables) rfl rfl
          (waiting_moveTo_same hn (by simp [hpoint]) (by simp))
      · cases hstep
    · cases hstep
  | save n now wall =>
    simp only [TestState.step] at hstep
    split at hstep
    · rename_i t hn
      split at hstep
      · rename_i outcome hpoint
        have hfrom : t.point ≠ .callback batchId := by simp [hpoint]
        rcases saveResult_spec h.tables.rows t.workerId t.rowId outcome now wall with
          ⟨-, hlost⟩ | ⟨row, completed, db', hheld, hok, hsaved⟩
        · rw [hlost] at hstep
          cases hstep
          exact h.steady (Steady.refl h.tables) rfl rfl (waiting_moveTo_same hn hfrom (by simp))
        · rw [hok] at hstep
          obtain ⟨hrow, -, hrunning⟩ := heldRow_spec hheld
          cases completed with
          | none =>
            cases hstep
            have hdone : TestPoint.done = .callback batchId ↔ (none : Option ℕ) = some batchId := by simp
            simpa [TestState.record] using h.save hn hfrom hsaved hrow hrunning hdone
          | some done =>
            cases hstep
            exact h.save hn hfrom hsaved hrow hrunning (by simp)
      · cases hstep
    · cases hstep
  | callback n wall =>
    simp only [TestState.step] at hstep
    split at hstep
    · rename_i t hn
      split at hstep
      · rename_i called hpoint
        split at hstep
        · rename_i reply db' hok
          cases hstep
          have hscan := createImportScanBatch_scanned h.tables hok
          refine h.callback hn hpoint hscan.tablesOk hscan.steady ?_ ?_
          · exact fun hne => hscan.unscanned batchId hne.symm
          · simp
        · cases hstep
          refine h.callback hn hpoint h.tables ⟨fun ho => ho, fun hc => hc⟩ (fun _ hu => hu) ?_
          simp
      · cases hstep
    · cases hstep
  | raise n =>
    simp only [TestState.step] at hstep
    split at hstep
    · rename_i t hn
      split at hstep <;> rename_i hpoint
      · cases hstep
        exact h.steady (Steady.refl h.tables) rfl rfl
          (waiting_moveTo_same hn (by simp [hpoint]) (by simp))
      · cases hstep
        exact h.steady (Steady.refl h.tables) rfl rfl
          (waiting_moveTo_same hn (by simp [hpoint]) (by simp))
      · cases hstep
        exact h.steady (Steady.refl h.tables) rfl rfl
          (waiting_moveTo_same hn (by simp [hpoint]) (by simp))
      · cases hstep
        exact h.steady (Steady.refl h.tables) rfl rfl
          (waiting_moveTo_same hn (by simp [hpoint]) (by simp))
      · cases hstep
      · cases hstep
    · cases hstep
  | claimFailed n now wall =>
    simp only [TestState.step] at hstep
    split at hstep
    · rename_i t hn
      split_ifs at hstep with hpoint
      cases hstep
      exact h.steady (claimSpecific_steady h.tables batchId t.workerId t.rowId c.globalLimit
        c.leaseSeconds now wall) rfl rfl
        (@waiting_moveTo_same { s with db := _ } n t hn _ _ (by simp [hpoint]) (by simp))
    · cases hstep
  | saveFailed n message now wall =>
    simp only [TestState.step] at hstep
    split at hstep
    · rename_i t hn
      split_ifs at hstep with hpoint
      have hfrom : t.point ≠ .callback batchId := by simp [hpoint]
      rcases saveResult_spec h.tables.rows t.workerId t.rowId ⟨false, "连接测试内部异常：" ++ message⟩
        now wall with ⟨-, hlost⟩ | ⟨row, completed, db', hheld, hok, hsaved⟩
      · rw [hlost] at hstep
        cases hstep
        exact h.steady (Steady.refl h.tables) rfl rfl (waiting_moveTo_same hn hfrom (by simp))
      · rw [hok] at hstep
        cases hstep
        obtain ⟨hrow, -, hrunning⟩ := heldRow_spec hheld
        -- the dropped answer is never this batch: another row is still to be tested
        have hother : completed ≠ some batchId := by
          intro hdone
          obtain ⟨hbatch, -, hnone⟩ := (hsaved.completed _).mp hdone
          apply hnone
          rw [hsaved.active, ← hbatch]
          simp only [errorBranchLeavesRow, hn, hheld, hbatch] at hcond
          rw [hbatch]
          simpa [List.any_eq_true] using hcond
        exact h.save hn hfrom hsaved hrow hrunning (by simp [hother])
    · cases hstep

/-! ## Runs -/

/-- The tests of a batch begin: its rows are committed and it has no scan batch. -/
structure TestsStart (batchId : ℕ) (db : Database) : Prop where
  tables : TablesOk db
  isOpen : IsOpen batchId db
  unscanned : Unscanned batchId db

/-- In every run in which the last `except` branch never saves the last result of the
batch, the batch is completed at most once, each completion is matched by one
callback, made or about to be made, and that callback creates the import's scan. -/
theorem finished_import_calls_back_once {c : TestSettings} {batchId : ℕ} {db : Database}
    (h : TestsStart batchId db) {actions : List TestAction} {s : TestState}
    (hmeets : Machine.Meets (TestState.step c) (errorBranchLeavesRow batchId · ·) ⟨db, [], []⟩ actions)
    (hrun : Machine.run (TestState.step c) ⟨db, [], []⟩ actions = some s) :
    s.completions batchId ≤ 1 ∧
    ((∃ b, s.db.importBatch? batchId = some b ∧ b.status = .completed) ↔ s.completions batchId = 1) ∧
    s.callbacks batchId + s.waiting batchId = s.completions batchId ∧
    (s.waiting batchId ≠ 0 → ∀ wall,
      createImportScanBatch c.queueSize batchId wall s.db = .error .scanQueueFull ∨
        ∃ scanBatchId db', createImportScanBatch c.queueSize batchId wall s.db =
          .ok (some scanBatchId, db') ∧ FirstScan batchId scanBatchId s.db db') := by
  have hstart : TestInv batchId ⟨db, [], []⟩ :=
    ⟨h.tables, Or.inl ⟨rfl, h.isOpen⟩, rfl, fun _ => h.unscanned⟩
  have hinv := Machine.run_invariant_of_meets (TestInv batchId)
    (fun _ _ _ hs hc hstep => TestInv.step hs hc hstep) actions _ s hstart hmeets hrun
  have hcalls := hinv.calls
  refine ⟨?_, ?_, hcalls, ?_⟩
  · rcases hinv.phase with ⟨hzero, -⟩ | ⟨hone, -⟩ <;> omega
  · constructor
    · rintro ⟨b, hb, hstatus⟩
      rcases hinv.phase with ⟨-, b', hb', hopen, -⟩ | ⟨hone, -⟩
      · rw [hb] at hb'
        cases hb'
        exact absurd hstatus hopen
      · exact hone
    · intro hone
      rcases hinv.phase with ⟨hzero, -⟩ | ⟨-, b, hb, hstatus, -⟩
      · omega
      · exact ⟨b, hb, hstatus⟩
  · intro hwaiting wall
    have hnone : s.callbacks batchId = 0 := by
      rcases hinv.phase with ⟨hzero, -⟩ | ⟨hone, -⟩ <;> omega
    have hstored : ∃ b, s.db.importBatch? batchId = some b := by
      rcases hinv.phase with ⟨-, b, hb, -⟩ | ⟨-, b, hb, -⟩ <;> exact ⟨b, hb⟩
    exact createImportScanBatch_first hinv.tables (hinv.unscanned hnone) hstored c.queueSize wall

/-- An import of one device, returned and waiting for its test. -/
def testingDatabase : Database where
  devices := [{ id := 1, name := "web", host := "10.0.0.10" }]
  importBatches :=
    [{ id := 1, status := .testing, totalRows := 1, importedRows := 1, testPendingRows := 1 }]
  importRowResults :=
    [{ id := 1, batchId := 1, rowNumber := 2, deviceId := some 1, importStatus := .imported,
       testStatus := .pending }]
  sequences := { importRowResults := 2 }

theorem testingDatabase_start : TestsStart 1 testingDatabase := by
  refine ⟨⟨⟨by decide, by decide⟩, by decide, by decide, by decide⟩, ?_, ⟨?_, by decide⟩⟩
  · exact ⟨_, rfl, by decide, _, List.mem_singleton.mpr rfl, by decide⟩
  · intro b hb
    cases hb
    rfl

def defaultTestSettings : TestSettings where
  globalLimit := 10
  leaseSeconds := 90
  queueSize := 10

def calledBackActions : List TestAction :=
  [.begin "worker-a" 1, .load 0 ⟨true, "连接测试成功"⟩ 0 0, .save 0 1 1]

theorem tested_import_gets_its_scan :
    ∃ s, Machine.run (TestState.step defaultTestSettings) ⟨testingDatabase, [], []⟩ calledBackActions =
        some s ∧ s.completions 1 = 1 ∧ s.waiting 1 = 1 ∧
      ∃ scanBatchId db', createImportScanBatch 10 1 2 s.db = .ok (some scanBatchId, db') ∧
        FirstScan 1 scanBatchId s.db db' := by
  obtain ⟨s, hs⟩ : ∃ s, Machine.run (TestState.step defaultTestSettings)
    ⟨testingDatabase, [], []⟩ calledBackActions = some s := ⟨_, rfl⟩
  have hmeets : Machine.Meets (TestState.step defaultTestSettings) (errorBranchLeavesRow 1 · ·)
      ⟨testingDatabase, [], []⟩ calledBackActions := by decide
  have hcompletions : s.completions 1 = 1 := by
    cases hs
    decide
  have hwaiting : s.waiting 1 = 1 := by
    cases hs
    decide
  have hroom : createImportScanBatch 10 1 2 s.db ≠ .error .scanQueueFull := by
    cases hs
    decide
  obtain ⟨-, -, -, hcreates⟩ := finished_import_calls_back_once testingDatabase_start hmeets hs
  refine ⟨s, hs, hcompletions, hwaiting, ?_⟩
  rcases hcreates (by omega) 2 with hfull | hscan
  · exact absurd hfull hroom
  · exact hscan

/-- `_load_target` raises, and the last `except` branch completes the batch. -/
def erredActions : List TestAction :=
  [.begin "worker-a" 1, .raise 0, .claimFailed 0 0 0, .saveFailed 0 "no cipher" 1 1]

theorem erred_import_is_never_scanned :
    TestsStart 1 testingDatabase ∧
    ∃ s, Machine.run (TestState.step defaultTestSettings) ⟨testingDatabase, [], []⟩ erredActions =
        some s ∧ s.threads.map (·.point) = [.done] ∧
      s.db.importBatches.map (·.status) = [.completed] ∧
      s.completions 1 = 1 ∧ s.callbacks 1 = 0 ∧ s.db.scanBatches = [] := by
  refine ⟨testingDatabase_start, ?_⟩
  obtain ⟨s, hs⟩ : ∃ s, Machine.run (TestState.step defaultTestSettings)
    ⟨testingDatabase, [], []⟩ erredActions = some s := ⟨_, rfl⟩
  refine ⟨s, hs, ?_⟩
  cases hs
  decide

end ConnectionTopology
