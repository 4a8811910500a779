import ConnectionTopology.Services.ImportTests

/-!
# What each transaction does to one batch of an import

A batch is seen through its row in `import_batches` and through its row results. A
recount touches only the batches it is given, and claims and saved results touch a
batch only through a row that is still to be tested.
-/
namespace ConnectionTopology

/-- The row is waiting for its test or being tested. -/
def ImportTestStatus.isActive : ImportTestStatus → Bool
  | .pending | .running => true
  | .success | .failed | .notApplicable => false

/-- Some row of the batch is still to be tested. -/
def Database.hasActiveRow (db : Database) (batchId : ℕ) : Prop :=
  ∃ r ∈ db.importRowsOf batchId, r.testStatus.isActive

/-- The stored test counters are the numbers of rows with that status. -/
structure CountersAgree (db : Database) (b : ImportBatch) : Prop where
  pending : b.testPendingRows = db.importRowCount b.id .pending
  running : b.testRunningRows = db.importRowCount b.id .running
  success : b.testSuccessRows = db.importRowCount b.id .success
  failed : b.testFailedRows = db.importRowCount b.id .failed

/-! ## A recounted batch -/

theorem importRowCount_eq_zero {db : Database} {batchId : ℕ} {status : ImportTestStatus} :
    db.importRowCount batchId status = 0 ↔ ∀ r ∈ db.importRowsOf batchId, r.testStatus ≠ status := by
  simp [Database.importRowCount, List.countP_eq_zero]

theorem active_counts_iff {db : Database} {batchId : ℕ} :
    db.importRowCount batchId .pending ≠ 0 ∨ db.importRowCount batchId .running ≠ 0 ↔
      db.hasActiveRow batchId := by
  simp only [ne_eq, importRowCount_eq_zero]
  push Not
  constructor
  · rintro (⟨r, hr, hstatus⟩ | ⟨r, hr, hstatus⟩)
    · exact ⟨r, hr, by rw [hstatus]; rfl⟩
    · exact ⟨r, hr, by rw [hstatus]; rfl⟩
  · rintro ⟨r, hr, hactive⟩
    cases hstatus : r.testStatus with
    | pending => exact Or.inl ⟨r, hr, hstatus⟩
    | running => exact Or.inr ⟨r, hr, hstatus⟩
    | success => simp [hstatus, ImportTestStatus.isActive] at hactive
    | failed => simp [hstatus, ImportTestStatus.isActive] at hactive
    | notApplicable => simp [hstatus, ImportTestStatus.isActive] at hactive

@[simp] theorem refreshedImportBatch_id (wall : Timestamp) (db : Database) (b : ImportBatch) :
    (refreshedImportBatch wall db b).id = b.id := by
  unfold refreshedImportBatch
  dsimp only
  split_ifs <;> rfl

theorem refreshedImportBatch_counters (wall : Timestamp) (db : Database) (b : ImportBatch) :
    CountersAgree db (refreshedImportBatch wall db b) := by
  unfold refreshedImportBatch
  dsimp only
  split_ifs <;> exact ⟨rfl, rfl, rfl, rfl⟩

theorem refreshedImportBatch_status (wall : Timestamp) (db : Database) (b : ImportBatch) :
    (refreshedImportBatch wall db b).status = .completed ↔ ¬ db.hasActiveRow b.id := by
  rw [← active_counts_iff]
  unfold refreshedImportBatch
  dsimp only
  split_ifs with h
  · constructor
    · intro hc
      cases hc
    · intro hn
      exact absurd h hn
  · exact ⟨fun _ => h, fun _ => rfl⟩

theorem CountersAgree.congr {db db' : Database} {b : ImportBatch} (h : CountersAgree db b)
    (hrows : db'.importRowsOf b.id = db.importRowsOf b.id) : CountersAgree db' b := by
  constructor <;> simp only [Database.importRowCount, hrows]
  · exact h.pending
  · exact h.running
  · exact h.success
  · exact h.failed

/-! ## Recounting touches the given batches only -/

theorem importBatch?_update {db : Database} {batchId target : ℕ} {f : ImportBatch → ImportBatch}
    (hf : ∀ b, (f b).id = b.id) :
    (db.updateImportBatch batchId f).importBatch? target =
      if target = batchId then (db.importBatch? target).map f else db.importBatch? target := by
  simp only [Database.importBatch?, Database.updateImportBatch]
  induction db.importBatches with
  | nil => simp
  | cons b rest ih =>
    rw [List.map_cons, List.find?_cons, List.find?_cons]
    by_cases hb : b.id = batchId
    · rw [if_pos hb]
      by_cases ht : b.id = target
      · have htarget : target = batchId := ht.symm.trans hb
        simp [hf, ht, htarget]
      · simpa [hf, ht] using ih
    · rw [if_neg hb]
      by_cases ht : b.id = target
      · have hother : target ≠ batchId := fun he => hb (ht.trans he)
        simp [ht, hother]
      · simpa [ht] using ih

theorem id_of_importBatch? {db : Database} {batchId : ℕ} {b : ImportBatch}
    (h : db.importBatch? batchId = some b) : b.id = batchId := by
  simpa using List.find?_some h

/-- The recount turns the batch into a completed one. -/
def Completes (db : Database) (batchId : ℕ) : Prop :=
  ∃ b, db.importBatch? batchId = some b ∧ b.status ≠ .completed ∧ ¬ db.hasActiveRow batchId

theorem refreshImportBatch_spec (wall : Timestamp) (acc : List ℕ × Database) (batchId : ℕ) :
    (refreshImportBatch wall acc batchId).2 = { acc.2 with
      importBatches := (refreshImportBatch wall acc batchId).2.importBatches } ∧
    (∀ target, (refreshImportBatch wall acc batchId).2.importBatch? target =
      if target = batchId then (acc.2.importBatch? target).map (refreshedImportBatch wall acc.2)
      else acc.2.importBatch? target) ∧
    ∀ target, target ∈ (refreshImportBatch wall acc batchId).1 ↔
      target ∈ acc.1 ∨ (target = batchId ∧ Completes acc.2 target) := by
  unfold refreshImportBatch
  cases hb : acc.2.importBatch? batchId with
  | none =>
    refine ⟨rfl, ?_, ?_⟩
    · intro target
      split_ifs with ht
      · simp [ht, hb]
      · rfl
    · intro target
      constructor
      · exact Or.inl
      · rintro (h | ⟨rfl, b, hsome, -⟩)
        · exact h
        · rw [hb] at hsome
          cases hsome
  | some b =>
    have hid := id_of_importBatch? hb
    have hcompletes : ((refreshedImportBatch wall acc.2 b).status = .completed ∧
        b.status ≠ .completed) ↔ Completes acc.2 batchId := by
      rw [refreshedImportBatch_status, hid]
      constructor
      · rintro ⟨hnone, hstatus⟩
        exact ⟨b, hb, hstatus, hnone⟩
      · rintro ⟨c, hc, hstatus, hnone⟩
        rw [hb] at hc
        cases hc
        exact ⟨hnone, hstatus⟩
    have hupdate := fun target => @importBatch?_update acc.2 batchId target
      (refreshedImportBatch wall acc.2) (refreshedImportBatch_id wall acc.2)
    dsimp only
    split_ifs with hdone
    · refine ⟨rfl, hupdate, ?_⟩
      intro target
      rw [List.mem_append, List.mem_singleton]
      constructor
      · rintro (h | rfl)
        · exact Or.inl h
        · exact Or.inr ⟨rfl, hcompletes.mp hdone⟩
      · rintro (h | ⟨rfl, -⟩)
        · exact Or.inl h
        · exact Or.inr rfl
    · refine ⟨rfl, hupdate, ?_⟩
      intro target
      constructor
      · exact Or.inl
      · rintro (h | ⟨rfl, h⟩)
        · exact h
        · exact absurd (hcompletes.mpr h) hdone

theorem refreshedImportBatch_congr {wall : Timestamp} {db db' : Database}
    (h : db'.importRowResults = db.importRowResults) :
    refreshedImportBatch wall db' = refreshedImportBatch wall db := by
  have hcount : db'.importRowCount = db.importRowCount := by
    funext batchId status
    simp only [Database.importRowCount, Database.importRowsOf, h]
  funext b
  unfold refreshedImportBatch
  rw [hcount]

theorem foldl_refreshImportBatch_spec (wall : Timestamp) :
    ∀ (ids : List ℕ) (acc : List ℕ × Database), ids.Nodup →
      (ids.foldl (refreshImportBatch wall) acc).2 = { acc.2 with
        importBatches := (ids.foldl (refreshImportBatch wall) acc).2.importBatches } ∧
      (∀ target, (ids.foldl (refreshImportBatch wall) acc).2.importBatch? target =
        if target ∈ ids then (acc.2.importBatch? target).map (refreshedImportBatch wall acc.2)
        else acc.2.importBatch? target) ∧
      ∀ target, target ∈ (ids.foldl (refreshImportBatch wall) acc).1 ↔
        target ∈ acc.1 ∨ (target ∈ ids ∧ Completes acc.2 target) := by
  intro ids
  induction ids with
  | nil =>
    intro acc _
    simp
  | cons id rest ih =>
    intro acc hnodup
    obtain ⟨hid, hrest⟩ := List.nodup_cons.mp hnodup
    obtain ⟨hdb, hbatch, hdone⟩ := refreshImportBatch_spec wall acc id
    obtain ⟨hdb', hbatch', hdone'⟩ := ih (refreshImportBatch wall acc id) hrest
    have hrows : (refreshImportBatch wall acc id).2.importRowResults = acc.2.importRowResults := by
      rw [hdb]
    have hcompletes : ∀ target ∈ rest, Completes (refreshImportBatch wall acc id).2 target ↔
        Completes acc.2 target := by
      intro target ht
      have hne : target ≠ id := fun he => hid (he ▸ ht)
      simp only [Completes, hbatch target, if_neg hne, Database.hasActiveRow,
        Database.importRowsOf, hrows]
    rw [List.foldl_cons]
    refine ⟨?_, ?_, ?_⟩
    · rw [hdb', hdb]
    · intro target
      rw [hbatch', hbatch, refreshedImportBatch_congr hrows]
      by_cases ht : target ∈ rest
      · have hne : target ≠ id := fun he => hid (he ▸ ht)
        simp [ht, hne]
      · by_cases hne : target = id
        · subst hne
          simp [ht]
        · simp [ht, hne]
    · intro target
      rw [hdone', hdone, List.mem_cons]
      constructor
      · rintro ((h | ⟨rfl, h⟩) | ⟨ht, h⟩)
        · exact Or.inl h
        · exact Or.inr ⟨Or.inl rfl, h⟩
        · exact Or.inr ⟨Or.inr ht, (hcompletes target ht).mp h⟩
      · rintro (h | ⟨rfl | ht, h⟩)
        · exact Or.inl (Or.inl h)
        · exact Or.inl (Or.inr ⟨rfl, h⟩)
        · exact Or.inr ⟨ht, (hcompletes target ht).mpr h⟩

theorem mem_sorted_dedup {ids : List ℕ} {target : ℕ} :
    target ∈ ids.dedup.insertionSort (· ≤ ·) ↔ target ∈ ids := by
  rw [List.mem_insertionSort, List.mem_dedup]

theorem nodup_sorted_dedup (ids : List ℕ) : (ids.dedup.insertionSort (· ≤ ·)).Nodup :=
  (List.perm_insertionSort _ _).nodup_iff.mpr (List.nodup_dedup ids)

theorem refreshImportBatches_eq (wall : Timestamp) (ids : List ℕ) (db : Database) :
    (refreshImportBatches wall ids db).2 = { db with
      importBatches := (refreshImportBatches wall ids db).2.importBatches } :=
  (foldl_refreshImportBatch_spec wall _ ([], db) (nodup_sorted_dedup ids)).1

@[simp] theorem refreshImportBatches_rows (wall : Timestamp) (ids : List ℕ) (db : Database) :
    (refreshImportBatches wall ids db).2.importRowResults = db.importRowResults := by
  rw [refreshImportBatches_eq]

theorem importBatch?_refresh (wall : Timestamp) (ids : List ℕ) (db : Database) (target : ℕ) :
    (refreshImportBatches wall ids db).2.importBatch? target =
      if target ∈ ids then (db.importBatch? target).map (refreshedImportBatch wall db)
      else db.importBatch? target := by
  have h := (foldl_refreshImportBatch_spec wall _ ([], db) (nodup_sorted_dedup ids)).2.1 target
  simpa only [refreshImportBatches, mem_sorted_dedup] using h

theorem mem_refreshImportBatches {wall : Timestamp} {ids : List ℕ} {db : Database} {target : ℕ} :
    target ∈ (refreshImportBatches wall ids db).1 ↔ target ∈ ids ∧ Completes db target := by
  have h := (foldl_refreshImportBatch_spec wall _ ([], db) (nodup_sorted_dedup ids)).2.2 target
  simpa [refreshImportBatches, mem_sorted_dedup] using h

/-! ## Updating rows -/

/-- Row results have distinct keys drawn from the sequence. -/
structure RowsOk (db : Database) : Prop where
  nodup : (db.importRowResults.map (·.id)).Nodup
  fresh : ∀ r ∈ db.importRowResults, r.id < db.sequences.importRowResults

theorem RowsOk.unique {db : Database} (h : RowsOk db) {r s : ImportRowResult}
    (hr : r ∈ db.importRowResults) (hs : s ∈ db.importRowResults) (hid : r.id = s.id) : r = s :=
  List.inj_on_of_nodup_map h.nodup hr hs hid

/-- An update of rows that keeps keys and batches. -/
def KeepsKeys (f : ImportRowResult → ImportRowResult) : Prop :=
  ∀ r, (f r).id = r.id ∧ (f r).batchId = r.batchId

theorem RowsOk.update {db : Database} (h : RowsOk db) {ids : List ℕ}
    {f : ImportRowResult → ImportRowResult} (hf : KeepsKeys f) :
    RowsOk (db.updateImportRows ids f) := by
  constructor
  · have hids : (db.updateImportRows ids f).importRowResults.map (·.id) =
        db.importRowResults.map (·.id) := by
      simp only [Database.updateImportRows, List.map_map]
      apply List.map_congr_left
      intro r _
      simp only [Function.comp_apply]
      split_ifs
      · exact (hf r).1
      · rfl
    rw [hids]
    exact h.nodup
  · intro r hr
    obtain ⟨s, hs, rfl⟩ := List.mem_map.mp hr
    split_ifs
    · rw [(hf s).1]
      exact h.fresh s hs
    · exact h.fresh s hs

theorem RowsOk.refresh {db : Database} (h : RowsOk db) (wall : Timestamp) (ids : List ℕ) :
    RowsOk (refreshImportBatches wall ids db).2 := by
  rw [refreshImportBatches_eq]
  exact ⟨h.nodup, h.fresh⟩

theorem mem_importRowsOf {db : Database} {batchId : ℕ} {r : ImportRowResult} :
    r ∈ db.importRowsOf batchId ↔ r ∈ db.importRowResults ∧ r.batchId = batchId := by
  simp [Database.importRowsOf]

theorem importRowsOf_update {db : Database} {ids : List ℕ} {f : ImportRowResult → ImportRowResult}
    (hf : KeepsKeys f) {batchId : ℕ}
    (hother : ∀ r ∈ db.importRowResults, r.id ∈ ids → r.batchId ≠ batchId) :
    (db.updateImportRows ids f).importRowsOf batchId = db.importRowsOf batchId := by
  unfold Database.importRowsOf Database.updateImportRows
  dsimp only
  generalize db.importRowResults = rows at hother ⊢
  induction rows with
  | nil => rfl
  | cons r rest ih =>
    have hrest := ih fun s hs => hother s (List.mem_cons_of_mem _ hs)
    rw [List.map_cons, List.filter_cons, List.filter_cons, hrest]
    by_cases hr : r.id ∈ ids
    · have hne := hother r (by simp) hr
      simp [hr, (hf r).2, hne]
    · simp [hr]

theorem hasActiveRow_update {db : Database} {ids : List ℕ} {f : ImportRowResult → ImportRowResult}
    (hf : KeepsKeys f) (hactive : ∀ r, (f r).testStatus.isActive) {batchId : ℕ}
    (h : db.hasActiveRow batchId) : (db.updateImportRows ids f).hasActiveRow batchId := by
  obtain ⟨r, hr, hr'⟩ := h
  rw [mem_importRowsOf] at hr
  refine ⟨if r.id ∈ ids then f r else r, ?_, ?_⟩
  · rw [mem_importRowsOf]
    refine ⟨List.mem_map.mpr ⟨r, hr.1, rfl⟩, ?_⟩
    split_ifs
    · rw [(hf r).2, hr.2]
    · exact hr.2
  · split_ifs
    · exact hactive r
    · exact hr'

theorem hasActiveRow_congr {db db' : Database} {batchId : ℕ}
    (h : db'.importRowsOf batchId = db.importRowsOf batchId) :
    db'.hasActiveRow batchId ↔ db.hasActiveRow batchId := by
  simp only [Database.hasActiveRow, h]

/-! ## Claims -/

theorem keepsKeys_requeued : KeepsKeys ImportRowResult.requeued := fun _ => ⟨rfl, rfl⟩

theorem keepsKeys_claimedBy (workerId : String) (now leaseUntil : Timestamp) :
    KeepsKeys (ImportRowResult.claimedBy workerId now leaseUntil) := fun _ => ⟨rfl, rfl⟩

/-- A batch is not concerned by a transaction. -/
def SameBatch (batchId : ℕ) (db db' : Database) : Prop :=
  db'.importRowsOf batchId = db.importRowsOf batchId ∧ db'.importBatch? batchId = db.importBatch? batchId

/-- A batch had a row to test, still has one, and has been recounted. -/
def Reclaimed (batchId : ℕ) (wall : Timestamp) (db db' : Database) : Prop :=
  db.hasActiveRow batchId ∧ db'.hasActiveRow batchId ∧
    db'.importBatch? batchId = (db.importBatch? batchId).map (refreshedImportBatch wall db')

theorem sameBatch_refl (batchId : ℕ) (db : Database) : SameBatch batchId db db := ⟨rfl, rfl⟩

theorem importRowsOf_refresh (wall : Timestamp) (ids : List ℕ) (db : Database) (batchId : ℕ) :
    (refreshImportBatches wall ids db).2.importRowsOf batchId = db.importRowsOf batchId := by
  simp [Database.importRowsOf]

/-- Rows of the given batches are updated and these batches recounted. -/
theorem sameBatch_or_refreshed {db mid : Database} {batchIds : List ℕ} {batchId : ℕ}
    (wall : Timestamp) (hbatch : mid.importBatch? batchId = db.importBatch? batchId)
    (hrows : batchId ∉ batchIds → mid.importRowsOf batchId = db.importRowsOf batchId) :
    SameBatch batchId db (refreshImportBatches wall batchIds mid).2 ∨
      (batchId ∈ batchIds ∧ (refreshImportBatches wall batchIds mid).2.importBatch? batchId =
        (db.importBatch? batchId).map
          (refreshedImportBatch wall (refreshImportBatches wall batchIds mid).2)) := by
  by_cases hmem : batchId ∈ batchIds
  · right
    refine ⟨hmem, ?_⟩
    rw [importBatch?_refresh, if_pos hmem, hbatch,
      refreshedImportBatch_congr (refreshImportBatches_rows wall batchIds mid)]
  · left
    refine ⟨?_, ?_⟩
    · rw [importRowsOf_refresh, hrows hmem]
    · rw [importBatch?_refresh, if_neg hmem, hbatch]

theorem claimImportTests_spec {db : Database} (h : RowsOk db) (workerId : String)
    (localCapacity globalLimit : ℤ) (leaseSeconds : ℕ) (now wall : Timestamp) (batchId : ℕ) :
    let db' := (claimImportTests workerId localCapacity globalLimit leaseSeconds now wall db).2
    RowsOk db' ∧ (SameBatch batchId db db' ∨ Reclaimed batchId wall db db') := by
  unfold claimImportTests
  split_ifs
  · exact ⟨h, Or.inl (sameBatch_refl batchId db)⟩
  · dsimp only
    set expired := db.importRowResults.filter (·.isExpired now) with hexpired
    set swept := db.updateImportRows (expired.map (·.id)) ImportRowResult.requeued with hswept
    set limit := min localCapacity (max (globalLimit - activeTests now swept) 0)
    set rows := if limit ≠ 0 then ((swept.importRowResults.filter (·.testStatus = .pending)).insertionSort
      fun a b => a.id ≤ b.id).take limit.toNat else [] with hrows
    set claimed := swept.updateImportRows (rows.map (·.id))
      (ImportRowResult.claimedBy workerId now (now + leaseSeconds * microsPerSecond)) with hclaimed
    have hsweptOk : RowsOk swept := h.update keepsKeys_requeued
    have hclaimedOk : RowsOk claimed := hsweptOk.update (keepsKeys_claimedBy _ _ _)
    have hexp : ∀ e ∈ expired, e ∈ db.importRowResults ∧ e.testStatus = .running := by
      intro e he
      obtain ⟨hmem, hover⟩ := List.mem_filter.mp he
      simp only [ImportRowResult.isExpired, Bool.and_eq_true, decide_eq_true_eq] at hover
      exact ⟨hmem, hover.1⟩
    have hpend : ∀ r ∈ rows, r ∈ swept.importRowResults ∧ r.testStatus = .pending := by
      intro r hr
      rw [hrows] at hr
      split_ifs at hr
      · have hsort := List.mem_of_mem_take hr
        rw [List.mem_insertionSort, List.mem_filter] at hsort
        exact ⟨hsort.1, by simpa using hsort.2⟩
      · cases hr
    refine ⟨hclaimedOk.refresh wall _, ?_⟩
    have hquiet : batchId ∉ (expired ++ rows).map (·.batchId) →
        claimed.importRowsOf batchId = db.importRowsOf batchId := by
      intro hnot
      simp only [List.map_append, List.mem_append, not_or] at hnot
      rw [hclaimed, importRowsOf_update (keepsKeys_claimedBy _ _ _), hswept,
        importRowsOf_update keepsKeys_requeued]
      · intro r hr hid
        obtain ⟨e, he, heid⟩ := List.mem_map.mp hid
        rw [← h.unique (hexp e he).1 hr heid]
        exact fun hb => hnot.1 (List.mem_map.mpr ⟨e, he, hb⟩)
      · intro r hr hid
        obtain ⟨s, hs, hsid⟩ := List.mem_map.mp hid
        rw [← hsweptOk.unique (hpend s hs).1 hr hsid]
        exact fun hb => hnot.2 (List.mem_map.mpr ⟨s, hs, hb⟩)
    have hbatches : claimed.importBatch? batchId = db.importBatch? batchId := rfl
    rcases sameBatch_or_refreshed wall hbatches hquiet with hsame | ⟨hmem, hbatch⟩
    · exact Or.inl hsame
    · right
      have hbefore : db.hasActiveRow batchId := by
        rw [List.map_append, List.mem_append] at hmem
        rcases hmem with hmem | hmem
        · obtain ⟨e, he, hb⟩ := List.mem_map.mp hmem
          refine ⟨e, mem_importRowsOf.mpr ⟨(hexp e he).1, hb⟩, ?_⟩
          rw [(hexp e he).2]
          rfl
        · obtain ⟨r, hr, hb⟩ := List.mem_map.mp hmem
          obtain ⟨hrs, hst⟩ := hpend r hr
          obtain ⟨s, hs, rfl⟩ := List.mem_map.mp hrs
          split_ifs at hst hb with hid
          · obtain ⟨e, he, heid⟩ := List.mem_map.mp hid
            have hse := h.unique (hexp e he).1 hs heid
            refine ⟨s, mem_importRowsOf.mpr ⟨hs, hb⟩, ?_⟩
            rw [← hse, (hexp e he).2]
            rfl
          · refine ⟨s, mem_importRowsOf.mpr ⟨hs, hb⟩, ?_⟩
            rw [hst]
            rfl
      have hafter : claimed.hasActiveRow batchId :=
        hasActiveRow_update (keepsKeys_claimedBy _ _ _) (fun _ => rfl)
          (hasActiveRow_update keepsKeys_requeued (fun _ => rfl) hbefore)
      exact ⟨hbefore, (hasActiveRow_congr (importRowsOf_refresh wall _ claimed batchId)).mpr hafter,
        hbatch⟩

/-! ## Results -/

theorem heldRow_spec {workerId : String} {rowId : ℕ} {now : Timestamp} {db : Database}
    {row : ImportRowResult} (h : heldRow workerId rowId now db = some row) :
    row ∈ db.importRowResults ∧ row.id = rowId ∧ row.testStatus = .running := by
  have hp := List.find?_some h
  simp only [Bool.and_eq_true, decide_eq_true_eq, ImportRowResult.isHeldBy] at hp
  exact ⟨List.mem_of_find?_eq_some h, hp.1, hp.2.1.1⟩

theorem ImportTestOutcome.status_not_active (outcome : ImportTestOutcome) :
    outcome.status.isActive = false := by
  unfold ImportTestOutcome.status
  split_ifs <;> rfl

/-- What saving the result of `row` does: only its batch is concerned, it is
recounted, and the reply names it when this made it completed. -/
structure Saved (row : ImportRowResult) (outcome : ImportTestOutcome) (wall : Timestamp)
    (db : Database) (completed : Option ℕ) (db' : Database) : Prop where
  frame : db' = { db with
    importBatches := db'.importBatches
    importRowResults := (db.updateImportRows [row.id]
      (ImportRowResult.withOutcome outcome)).importRowResults }
  rowsOk : RowsOk db'
  others : ∀ batchId, batchId ≠ row.batchId → SameBatch batchId db db'
  batch : db'.importBatch? row.batchId =
    (db.importBatch? row.batchId).map (refreshedImportBatch wall db')
  active : db'.hasActiveRow row.batchId ↔
    ∃ r ∈ db.importRowsOf row.batchId, r.id ≠ row.id ∧ r.testStatus.isActive
  completed : ∀ batchId, completed = some batchId ↔ batchId = row.batchId ∧
    (∃ b, db.importBatch? row.batchId = some b ∧ b.status ≠ .completed) ∧
      ¬ db'.hasActiveRow row.batchId

theorem saveResult_spec {db : Database} (h : RowsOk db) (workerId : String) (rowId : ℕ)
    (outcome : ImportTestOutcome) (now wall : Timestamp) :
    (heldRow workerId rowId now db = none ∧
      saveResult workerId rowId outcome now wall db = .error ⟨rowId⟩) ∨
    ∃ row completed db', heldRow workerId rowId now db = some row ∧
      saveResult workerId rowId outcome now wall db = .ok (completed, db') ∧
      Saved row outcome wall db completed db' := by
  unfold saveResult
  cases hheld : heldRow workerId rowId now db with
  | none => exact Or.inl ⟨rfl, rfl⟩
  | some row =>
    right
    obtain ⟨hmem, -, -⟩ := heldRow_spec hheld
    have hkeys : KeepsKeys (ImportRowResult.withOutcome outcome) := fun _ => ⟨rfl, rfl⟩
    dsimp only
    set saved := db.updateImportRows [row.id] (ImportRowResult.withOutcome outcome) with hsaved
    have hsavedOk : RowsOk saved := h.update hkeys
    have hrowsOf : (refreshImportBatches wall [row.batchId] saved).2.importRowsOf row.batchId =
        saved.importRowsOf row.batchId := importRowsOf_refresh wall _ saved _
    have hactive : saved.hasActiveRow row.batchId ↔
        ∃ r ∈ db.importRowsOf row.batchId, r.id ≠ row.id ∧ r.testStatus.isActive := by
      constructor
      · rintro ⟨r, hr, hact⟩
        obtain ⟨hr, hb⟩ := mem_importRowsOf.mp hr
        obtain ⟨s, hs, rfl⟩ := List.mem_map.mp hr
        split_ifs at hact hb with hid
        · rw [ImportRowResult.withOutcome, ImportRowResult.releaseLease,
            outcome.status_not_active] at hact
          cases hact
        · exact ⟨s, mem_importRowsOf.mpr ⟨hs, hb⟩, by simpa using hid, hact⟩
      · rintro ⟨r, hr, hid, hact⟩
        obtain ⟨hr, hb⟩ := mem_importRowsOf.mp hr
        refine ⟨r, mem_importRowsOf.mpr ⟨List.mem_map.mpr ⟨r, hr, ?_⟩, hb⟩, hact⟩
        simp [hid]
    have hquiet : ∀ batchId, batchId ∉ [row.batchId] →
        saved.importRowsOf batchId = db.importRowsOf batchId := by
      intro batchId hne
      apply importRowsOf_update hkeys
      intro r hr hid
      have hsame : r = row := h.unique hr hmem (by simpa using hid)
      rw [hsame]
      exact fun he => hne (by simp [he])
    refine ⟨row, _, _, rfl, rfl, ?_, hsavedOk.refresh wall _, ?_, ?_, ?_, ?_⟩
    · rw [refreshImportBatches_eq]
      rfl
    · intro batchId hne
      rcases @sameBatch_or_refreshed db saved [row.batchId] batchId wall rfl (hquiet batchId) with
        hsame | ⟨hin, -⟩
      · exact hsame
      · exact absurd (List.mem_singleton.mp hin) hne
    · rw [importBatch?_refresh, if_pos (List.mem_singleton.mpr rfl),
        refreshedImportBatch_congr (refreshImportBatches_rows wall [row.batchId] saved)]
      rfl
    · rw [hasActiveRow_congr hrowsOf]
      exact hactive
    · intro batchId
      have hcompletes : row.batchId ∈ (refreshImportBatches wall [row.batchId] saved).1 ↔
          (∃ b, db.importBatch? row.batchId = some b ∧ b.status ≠ .completed) ∧
            ¬ (refreshImportBatches wall [row.batchId] saved).2.hasActiveRow row.batchId := by
        rw [mem_refreshImportBatches, hasActiveRow_congr hrowsOf]
        constructor
        · rintro ⟨-, b, hb, hstatus, hnone⟩
          exact ⟨⟨b, hb, hstatus⟩, hnone⟩
        · rintro ⟨⟨b, hb, hstatus⟩, hnone⟩
          exact ⟨List.mem_singleton.mpr rfl, b, hb, hstatus, hnone⟩
      rw [← hcompletes]
      split_ifs with hin
      · simp [hin, eq_comm]
      · simp [hin]

end ConnectionTopology
