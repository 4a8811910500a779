import ConnectionTopology.Imports.BatchView
import ConnectionTopology.ScanQueue.TaskEvolution

/-!
# The scan batch of a finished import

`create_import_scan_batch` on a database in which the import has no scan batch yet:
it either finds the queue full or creates one batch whose items are the
collection-enabled devices of the successful rows.
-/
namespace ConnectionTopology

/-- Keys of devices are distinct, and batch keys, also those that items refer to, come
from the sequence. -/
structure TablesOk (db : Database) : Prop where
  rows : RowsOk db
  devices : (db.devices.map (·.id)).Nodup
  batches : ∀ b ∈ db.scanBatches, b.id < db.sequences.scanBatches
  items : ∀ i ∈ db.scanBatchItems, i.batchId < db.sequences.scanBatches

/-- The batch has an item for the device. -/
def Database.hasItem (db : Database) (batchId deviceId : ℕ) : Prop :=
  ∃ i ∈ db.scanBatchItems, i.batchId = batchId ∧ i.deviceId = deviceId

/-! ## Enqueuing into a batch -/

/-- What one call of `_enqueue_in_session` for a batch leaves unchanged and adds. -/
structure Enqueued (batchId deviceId : ℕ) (db db' : Database) : Prop where
  frame : db' = { db with
    scanTasks := db'.scanTasks
    scanBatchItems := db'.scanBatchItems
    sequences := { db.sequences with scanTasks := db'.sequences.scanTasks } }
  items : ∀ b d, db'.hasItem b d ↔ db.hasItem b d ∨ (b = batchId ∧ d = deviceId)

theorem reuseOrInsertTask_spec {queueSize deviceId : ℕ} {trigger : ScanTrigger} {priority : ℤ}
    {wall : Timestamp} {db db' : Database} {task : ScanTask}
    (h : reuseOrInsertTask queueSize deviceId trigger priority wall db = .ok (task, db')) :
    task.deviceId = deviceId ∧ db' = { db with
      scanTasks := db'.scanTasks
      sequences := { db.sequences with scanTasks := db'.sequences.scanTasks } } := by
  unfold reuseOrInsertTask at h
  split at h
  · split_ifs at h
    cases h
    exact ⟨rfl, rfl⟩
  · rename_i active hactive
    have hdevice := (activeTask_spec hactive).2.1
    have hraise := Except.ok.inj h
    unfold raisePriority at hraise
    split_ifs at hraise
    · cases hraise
      exact ⟨hdevice, rfl⟩
    · cases hraise
      exact ⟨hdevice, rfl⟩

theorem attachBatchItem_spec {batchId : ℕ} {task : ScanTask} {db db' : Database}
    (h : attachBatchItem batchId task db = .ok db') : Enqueued batchId task.deviceId db db' := by
  unfold attachBatchItem at h
  split_ifs at h with hexists hbatch
  · cases h
    refine ⟨rfl, ?_⟩
    intro b d
    constructor
    · exact Or.inl
    · rintro (h | ⟨rfl, rfl⟩)
      · exact h
      · simpa [Database.hasItem, List.any_eq_true] using hexists
  · cases h
    refine ⟨rfl, ?_⟩
    intro b d
    simp only [Database.hasItem, List.mem_append, List.mem_singleton]
    constructor
    · rintro ⟨i, hi | rfl, hb, hd⟩
      · exact Or.inl ⟨i, hi, hb, hd⟩
      · exact Or.inr ⟨hb.symm, hd.symm⟩
    · rintro (⟨i, hi, hb, hd⟩ | ⟨rfl, rfl⟩)
      · exact ⟨i, Or.inl hi, hb, hd⟩
      · exact ⟨_, Or.inr rfl, rfl, rfl⟩

/-- A device that exists and is enabled can only meet a full queue. -/
theorem enqueueInSession_cases {queueSize deviceId batchId : ℕ} {trigger : ScanTrigger}
    {priority : ℤ} {wall : Timestamp} {db : Database} {device : Device}
    (hdevice : db.devices.find? (·.id = deviceId) = some device)
    (henabled : device.collectionEnabled = true)
    (hbatch : ∃ b ∈ db.scanBatches, b.id = batchId) :
    enqueueInSession queueSize deviceId trigger priority (some batchId) wall db =
        .error .scanQueueFull ∨
      ∃ task db', enqueueInSession queueSize deviceId trigger priority (some batchId) wall db =
        .ok (task, db') ∧ Enqueued batchId deviceId db db' := by
  unfold enqueueInSession
  simp only [hdevice, henabled, Bool.true_eq_false, if_false]
  cases hreuse : reuseOrInsertTask queueSize deviceId trigger priority wall db with
  | error e =>
    left
    unfold reuseOrInsertTask at hreuse
    split at hreuse
    · split_ifs at hreuse
      cases hreuse
      rfl
    · cases hreuse
  | ok r =>
    right
    obtain ⟨task, mid⟩ := r
    obtain ⟨hid, hmid⟩ := reuseOrInsertTask_spec hreuse
    have hsame : mid.scanBatches = db.scanBatches := by rw [hmid]
    have hitems : mid.scanBatchItems = db.scanBatchItems := by rw [hmid]
    dsimp only
    cases hattach : attachBatchItem batchId task mid with
    | error e =>
      exfalso
      unfold attachBatchItem at hattach
      rw [hsame] at hattach
      obtain ⟨b, hb, hbid⟩ := hbatch
      have hany : db.scanBatches.any (·.id = batchId) = true :=
        List.any_eq_true.mpr ⟨b, hb, by simpa using hbid⟩
      split_ifs at hattach
    | ok db' =>
      have hspec := attachBatchItem_spec hattach
      refine ⟨task, db', rfl, ?_, ?_⟩
      · rw [hspec.frame, hmid]
      · intro b d
        rw [hspec.items b d, hid]
        simp only [Database.hasItem, hitems]

/-- The loop over the selected devices. -/
structure EnqueuedAll (batchId : ℕ) (deviceIds : List ℕ) (db db' : Database) : Prop where
  frame : db' = { db with
    scanTasks := db'.scanTasks
    scanBatchItems := db'.scanBatchItems
    sequences := { db.sequences with scanTasks := db'.sequences.scanTasks } }
  items : ∀ b d, db'.hasItem b d ↔ db.hasItem b d ∨ (b = batchId ∧ d ∈ deviceIds)

theorem enqueueAll_cases {queueSize batchId : ℕ} {trigger : ScanTrigger} {priority : ℤ}
    {wall : Timestamp} : ∀ {deviceIds : List ℕ} {db : Database},
      (∀ id ∈ deviceIds, ∃ device, db.devices.find? (·.id = id) = some device ∧
        device.collectionEnabled = true) →
      (∃ b ∈ db.scanBatches, b.id = batchId) →
      enqueueAll queueSize trigger priority batchId wall deviceIds db = .error .scanQueueFull ∨
      ∃ db', enqueueAll queueSize trigger priority batchId wall deviceIds db = .ok db' ∧
        EnqueuedAll batchId deviceIds db db' := by
  intro deviceIds
  induction deviceIds with
  | nil =>
    intro db _ _
    exact Or.inr ⟨db, rfl, rfl, by simp⟩
  | cons deviceId rest ih =>
    intro db hdevices hbatch
    obtain ⟨device, hfind, henabled⟩ := hdevices deviceId (by simp)
    rw [enqueueAll]
    rcases @enqueueInSession_cases queueSize deviceId batchId trigger priority wall db device hfind
      henabled hbatch with hfull | ⟨task, mid, hok, hmid⟩
    · rw [hfull]
      exact Or.inl rfl
    · rw [hok]
      dsimp only
      have hsameDevices : mid.devices = db.devices := by rw [hmid.frame]
      have hsameBatches : mid.scanBatches = db.scanBatches := by rw [hmid.frame]
      have hrest := @ih mid (by
        rw [hsameDevices]
        exact fun id hid => hdevices id (List.mem_cons_of_mem _ hid)) (by
        rw [hsameBatches]
        exact hbatch)
      rcases hrest with hfull | ⟨db', hok', hdb'⟩
      · exact Or.inl hfull
      · refine Or.inr ⟨db', hok', ?_, ?_⟩
        · rw [hdb'.frame, hmid.frame]
        · intro b d
          rw [hdb'.items, hmid.items, List.mem_cons]
          tauto

/-! ## The selected devices -/

theorem mem_importScanDeviceIds {db : Database} {importBatchId id : ℕ} :
    id ∈ importScanDeviceIds db importBatchId ↔
      ∃ r ∈ db.importRowsOf importBatchId, r.testStatus = .success ∧ r.deviceId = some id := by
  simp only [importScanDeviceIds, List.mem_filterMap, List.mem_filter, Bool.and_eq_true,
    decide_eq_true_eq, mem_importRowsOf]
  constructor
  · rintro ⟨r, ⟨hr, hb, hs⟩, hd⟩
    exact ⟨r, ⟨hr, hb⟩, hs, hd⟩
  · rintro ⟨r, ⟨hr, hb⟩, hs, hd⟩
    exact ⟨r, ⟨hr, hb, hs⟩, hd⟩

/-! ## The first scan batch -/

/-- The import has no scan batch yet. -/
structure Unscanned (batchId : ℕ) (db : Database) : Prop where
  unlinked : ∀ b, db.importBatch? batchId = some b → b.scanBatchId = none
  unsourced : ∀ b ∈ db.scanBatches, b.sourceImportBatchId ≠ some batchId

/-- The devices that the first scan has to cover. -/
def Database.hasScannableRow (db : Database) (importBatchId deviceId : ℕ) : Prop :=
  (∃ r ∈ db.importRowsOf importBatchId, r.testStatus = .success ∧ r.deviceId = some deviceId) ∧
    ∃ d ∈ db.devices, d.id = deviceId ∧ d.collectionEnabled = true

/-- Exactly one scan batch of the import exists, and its items are the scannable devices. -/
structure FirstScan (importBatchId scanBatchId : ℕ) (db db' : Database) : Prop where
  only : ∃ batch, db'.scanBatches.filter (·.sourceImportBatchId = some importBatchId) = [batch] ∧
    batch.id = scanBatchId ∧ batch.batchType = .import_
  linked : (db'.importBatch? importBatchId).map (·.scanBatchId) = some (some scanBatchId)
  devices : ∀ deviceId, db'.hasItem scanBatchId deviceId ↔ db.hasScannableRow importBatchId deviceId

/-- Batches with one source, found through the key fields that a refresh keeps. -/
theorem sourced_of_fields {batches batches' : List ScanBatch} {source : ℕ}
    (h : batches'.map (fun b => (b.id, b.sourceImportBatchId, b.batchType)) =
      batches.map fun b => (b.id, b.sourceImportBatchId, b.batchType)) :
    (batches'.filter (·.sourceImportBatchId = some source)).map
        (fun b => (b.id, b.sourceImportBatchId, b.batchType)) =
      (batches.filter (·.sourceImportBatchId = some source)).map
        fun b => (b.id, b.sourceImportBatchId, b.batchType) := by
  have hfilter : ∀ l : List ScanBatch, (l.filter (·.sourceImportBatchId = some source)).map
      (fun b => (b.id, b.sourceImportBatchId, b.batchType)) =
      (l.map fun b => (b.id, b.sourceImportBatchId, b.batchType)).filter
        fun p => p.2.1 = some source := by
    intro l
    rw [List.filter_map]
    rfl
  rw [hfilter, hfilter, h]

/-- What a successful `_create_batch_in_session` leaves behind. -/
structure BatchCreated (batchType : ScanBatchType) (source : Option ℕ) (deviceIds : List ℕ)
    (db db' : Database) : Prop where
  devices : db'.devices = db.devices
  importBatches : db'.importBatches = db.importBatches
  importRows : db'.importRowResults = db.importRowResults
  rowSequence : db'.sequences.importRowResults = db.sequences.importRowResults
  sequence : db'.sequences.scanBatches = db.sequences.scanBatches + 1
  batches : db'.scanBatches.map (fun b => (b.id, b.sourceImportBatchId, b.batchType)) =
    db.scanBatches.map (fun b => (b.id, b.sourceImportBatchId, b.batchType)) ++
      [(db.sequences.scanBatches, source, batchType)]
  items : ∀ b d, db'.hasItem b d ↔
    db.hasItem b d ∨ (b = db.sequences.scanBatches ∧ d ∈ selectedIds db deviceIds)

theorem createBatchInSession_cases {queueSize : ℕ} {batchType : ScanBatchType}
    {deviceIds : List ℕ} {clusterId source : Option ℕ} {wall : Timestamp} {db : Database}
    (h : TablesOk db) (href : batchReferencesOk db clusterId source = true) :
    createBatchInSession queueSize batchType deviceIds clusterId source wall db =
        .error .scanQueueFull ∨
      ∃ db', createBatchInSession queueSize batchType deviceIds clusterId source wall db =
        .ok (db.sequences.scanBatches, db') ∧ BatchCreated batchType source deviceIds db db' := by
  unfold createBatchInSession
  dsimp only
  split_ifs with hfull hbad
  · exact Or.inl rfl
  · simp [href] at hbad
  · set mid := (insertBatch batchType clusterId source wall db).2 with hmid
    have hselected : ∀ id ∈ selectedIds db deviceIds, ∃ device,
        mid.devices.find? (·.id = id) = some device ∧ device.collectionEnabled = true := by
      intro id hid
      obtain ⟨-, d, hd, rfl, henabled⟩ := mem_selectedIds.mp hid
      exact ⟨d, Dict.find?_key_of_mem h.devices hd, henabled⟩
    have hpresent : ∃ b ∈ mid.scanBatches, b.id = db.sequences.scanBatches :=
      ⟨_, List.mem_append_right _ (List.mem_singleton.mpr rfl), rfl⟩
    rcases @enqueueAll_cases queueSize db.sequences.scanBatches
      (batchTriggerAndPriority batchType).1 (batchTriggerAndPriority batchType).2 wall _ mid hselected
      hpresent with hqueue | ⟨db', hok, hall⟩
    · left
      have hid : (insertBatch batchType clusterId source wall db).1.id =
          db.sequences.scanBatches := rfl
      rw [hid, hqueue]
    · right
      have hid : (insertBatch batchType clusterId source wall db).1.id =
          db.sequences.scanBatches := rfl
      rw [hid, hok]
      refine ⟨_, rfl, ?_, ?_, ?_, ?_, ?_, ?_, ?_⟩
      · rw [refreshScanBatches_eq, hall.frame]
        rfl
      · rw [refreshScanBatches_eq, hall.frame]
        rfl
      · rw [refreshScanBatches_eq, hall.frame]
        rfl
      · rw [refreshScanBatches_eq, hall.frame]
        rfl
      · rw [refreshScanBatches_eq, hall.frame]
        rfl
      · have hbatches : db'.scanBatches = mid.scanBatches := by rw [hall.frame]
        rw [refreshScanBatches_fields, hbatches]
        simp [hmid, insertBatch]
      · intro b d
        have hitems : (refreshScanBatches wall [db.sequences.scanBatches] db').hasItem b d ↔
            db'.hasItem b d := by simp [Database.hasItem]
        rw [hitems, hall.items]
        rfl

theorem BatchCreated.tablesOk {batchType : ScanBatchType} {source : Option ℕ}
    {deviceIds : List ℕ} {db db' : Database} (hnew : BatchCreated batchType source deviceIds db db')
    (h : TablesOk db) : TablesOk db' := by
  refine ⟨⟨?_, ?_⟩, ?_, ?_, ?_⟩
  · rw [hnew.importRows]
    exact h.rows.nodup
  · rw [hnew.importRows, hnew.rowSequence]
    exact h.rows.fresh
  · rw [hnew.devices]
    exact h.devices
  · intro b hb
    have hfields : (b.id, b.sourceImportBatchId, b.batchType) ∈
        db'.scanBatches.map (fun b => (b.id, b.sourceImportBatchId, b.batchType)) :=
      List.mem_map_of_mem hb
    rw [hnew.batches, List.mem_append, List.mem_singleton] at hfields
    rw [hnew.sequence]
    rcases hfields with hold | hlast
    · obtain ⟨c, hc, heq⟩ := List.mem_map.mp hold
      have := h.batches c hc
      have hid : c.id = b.id := congrArg Prod.fst heq
      omega
    · have hid : b.id = db.sequences.scanBatches := congrArg Prod.fst hlast
      omega
  · intro i hi
    have hitem : db'.hasItem i.batchId i.deviceId := ⟨i, hi, rfl, rfl⟩
    rw [hnew.sequence]
    rcases (hnew.items _ _).mp hitem with ⟨j, hj, hb, -⟩ | ⟨hb, -⟩
    · have := h.items j hj
      omega
    · omega

/-- What a successful `create_import_scan_batch` does to any import. -/
structure ImportScanned (importBatchId : ℕ) (db db' : Database) : Prop where
  tablesOk : TablesOk db'
  importRows : db'.importRowResults = db.importRowResults
  status : ∀ batchId, (db'.importBatch? batchId).map (·.status) =
    (db.importBatch? batchId).map (·.status)
  unscanned : ∀ batchId, batchId ≠ importBatchId → Unscanned batchId db → Unscanned batchId db'

theorem ImportScanned.refl {importBatchId : ℕ} {db : Database} (h : TablesOk db) :
    ImportScanned importBatchId db db := ⟨h, rfl, fun _ => rfl, fun _ _ hu => hu⟩

/-- Linking the import to its new batch. -/
theorem BatchCreated.importBatch?_link {batchType : ScanBatchType} {source : Option ℕ}
    {deviceIds : List ℕ} {db mid : Database} (h : BatchCreated batchType source deviceIds db mid)
    (importBatchId scanBatchId target : ℕ) :
    Database.importBatch? { mid with
        importBatches := mid.importBatches.map fun b =>
          if b.id = importBatchId then { b with scanBatchId := some scanBatchId } else b } target =
      if target = importBatchId then
        (db.importBatch? target).map fun b => { b with scanBatchId := some scanBatchId }
      else db.importBatch? target := by
  have hkeep : ∀ b : ImportBatch, { b with scanBatchId := some scanBatchId }.id = b.id := fun _ => rfl
  have hlink := @importBatch?_update mid importBatchId target _ hkeep
  have hsame : mid.importBatch? target = db.importBatch? target := by
    simp only [Database.importBatch?, h.importBatches]
  rw [hsame] at hlink
  exact hlink

theorem createImportScanBatch_scanned {queueSize importBatchId : ℕ} {wall : Timestamp}
    {db db' : Database} {reply : Option ℕ} (h : TablesOk db)
    (hok : createImportScanBatch queueSize importBatchId wall db = .ok (reply, db')) :
    ImportScanned importBatchId db db' := by
  unfold createImportScanBatch at hok
  split at hok
  · cases hok
    exact ImportScanned.refl h
  · split at hok
    · cases hok
      exact ImportScanned.refl h
    · split at hok
      · cases hok
      · rename_i scanBatchId mid hcreate
        have href : batchReferencesOk db none (some importBatchId) = true := by
          by_contra hbad
          unfold createBatchInSession at hcreate
          dsimp only at hcreate
          split_ifs at hcreate with hfull hbad'
          exact hbad' (by simpa using hbad)
        rcases @createBatchInSession_cases queueSize .import_ (importScanDeviceIds db importBatchId)
          none (some importBatchId) wall db h href with hfull | ⟨mid', hmid', hnew⟩
        · rw [hfull] at hcreate
          cases hcreate
        · rw [hmid'] at hcreate
          cases hcreate
          cases hok
          have htables := hnew.tablesOk h
          refine ⟨⟨⟨htables.rows.nodup, htables.rows.fresh⟩, htables.devices, htables.batches,
            htables.items⟩, hnew.importRows, ?_, ?_⟩
          · intro batchId
            rw [hnew.importBatch?_link]
            split_ifs
            · rw [Option.map_map]
              rfl
            · rfl
          · intro batchId hne hun
            constructor
            · intro b hb
              rw [hnew.importBatch?_link, if_neg hne] at hb
              exact hun.unlinked b hb
            · intro b hb
              have hfields : (b.id, b.sourceImportBatchId, b.batchType) ∈
                  mid.scanBatches.map (fun b => (b.id, b.sourceImportBatchId, b.batchType)) :=
                List.mem_map_of_mem hb
              rw [hnew.batches, List.mem_append, List.mem_singleton] at hfields
              rcases hfields with hold | hlast
              · obtain ⟨c, hc, heq⟩ := List.mem_map.mp hold
                have hsource : c.sourceImportBatchId = b.sourceImportBatchId :=
                  congrArg (fun p => p.2.1) heq
                rw [← hsource]
                exact hun.unsourced c hc
              · have hsource : b.sourceImportBatchId = some importBatchId :=
                  congrArg (fun p => p.2.1) hlast
                rw [hsource]
                simpa using fun he => hne he.symm

/-- The first call for an import finds the queue full or creates its scan batch. -/
theorem createImportScanBatch_first {importBatchId : ℕ} {db : Database} (h : TablesOk db)
    (hun : Unscanned importBatchId db) (hstored : ∃ b, db.importBatch? importBatchId = some b)
    (queueSize : ℕ) (wall : Timestamp) :
    createImportScanBatch queueSize importBatchId wall db = .error .scanQueueFull ∨
      ∃ scanBatchId db', createImportScanBatch queueSize importBatchId wall db =
        .ok (some scanBatchId, db') ∧ FirstScan importBatchId scanBatchId db db' := by
  obtain ⟨b, hb⟩ := hstored
  have hfind : db.importBatches.find? (·.id = importBatchId) = some b := hb
  have hlink := hun.unlinked b hb
  have href : batchReferencesOk db none (some importBatchId) = true := by
    simp only [batchReferencesOk, Option.all_none, Option.all_some, Bool.true_and, Bool.and_eq_true,
      Bool.not_eq_true', List.any_eq_true, List.any_eq_false, decide_eq_true_eq]
    exact ⟨⟨b, List.mem_of_find?_eq_some hfind, id_of_importBatch? hb⟩, hun.unsourced⟩
  unfold createImportScanBatch
  simp only [hfind, hlink]
  rcases @createBatchInSession_cases queueSize .import_ (importScanDeviceIds db importBatchId)
    none (some importBatchId) wall db h href with hfull | ⟨mid, hmid, hnew⟩
  · left
    rw [hfull]
  · right
    rw [hmid]
    refine ⟨_, _, rfl, ?_, ?_, ?_⟩
    · set created : ScanBatch :=
        ⟨db.sequences.scanBatches, .import_, .pending, none, some importBatchId, 0, 0, 0, 0, 0, 0,
          none⟩ with hcreated
      have hfields : mid.scanBatches.map (fun b => (b.id, b.sourceImportBatchId, b.batchType)) =
          (db.scanBatches ++ [created]).map fun b => (b.id, b.sourceImportBatchId, b.batchType) := by
        rw [hnew.batches, List.map_append]
        rfl
      have hnone : db.scanBatches.filter (·.sourceImportBatchId = some importBatchId) = [] := by
        rw [List.filter_eq_nil_iff]
        intro c hc
        simpa using hun.unsourced c hc
      have hsourced := @sourced_of_fields _ _ importBatchId hfields
      rw [List.filter_append, hnone, List.nil_append] at hsourced
      simp only [hcreated, List.filter_cons, decide_true, if_true, List.filter_nil, List.map_cons,
        List.map_nil] at hsourced
      obtain ⟨batch, hbatch, heq⟩ := List.map_eq_singleton_iff.mp hsourced
      exact ⟨batch, hbatch, congrArg Prod.fst heq, congrArg (fun p => p.2.2) heq⟩
    · rw [hnew.importBatch?_link, if_pos rfl, hb]
      rfl
    · intro deviceId
      have hfresh : ¬ db.hasItem db.sequences.scanBatches deviceId := by
        rintro ⟨i, hi, hid, -⟩
        have := h.items i hi
        omega
      have hitems : ∀ batches, Database.hasItem { mid with importBatches := batches }
          db.sequences.scanBatches deviceId ↔ mid.hasItem db.sequences.scanBatches deviceId :=
        fun _ => Iff.rfl
      rw [hitems, hnew.items]
      simp only [hfresh, false_or, true_and, mem_selectedIds, mem_importScanDeviceIds,
        Database.hasScannableRow]

end ConnectionTopology
