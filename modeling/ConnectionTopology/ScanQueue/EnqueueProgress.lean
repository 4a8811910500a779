import ConnectionTopology.ScanQueue.EnqueueCalls

/-!
# What an enqueuing transaction has reached

An `enqueue_device` transaction is about its one device throughout, and the task it returns is
an active task that it sees. In a `create_batch` transaction every selected device is still
ahead, at hand, or covered by an item. One statement keeps this, and so does the commit of any
other transaction, because committed rows only grow.
-/
namespace ConnectionTopology

/-! ## What a running transaction has reached -/

/-- An active task of the device that the transaction sees. -/
def EnqueueTx.Sees (e : EnqueueTx) (db : Database) (taskId deviceId : ℕ) : Prop :=
  ∃ t ∈ (e.visible db).scanTasks, t.id = taskId ∧ t.deviceId = deviceId ∧ t.status.isActive = true

/-- The device that the current stage is about. -/
def EnqueueStage.deviceId? : EnqueueStage → Option ℕ
  | .missing deviceId => some deviceId
  | .holding task | .flush (some task) => some task.deviceId
  | .select | .flush none => none

/-- The task in hand, if there is one, is an active one. -/
def EnqueueTx.Holds (e : EnqueueTx) (db : Database) : Prop :=
  ∀ task, e.stage = .holding task ∨ e.stage = .flush (some task) →
    e.Sees db task.id task.deviceId

/-- `enqueue_device`: everything is about the one device. -/
structure EnqueueTx.ForDevice (e : EnqueueTx) (db : Database) (deviceId : ℕ)
    (taskId : Option ℕ) : Prop where
  batch : e.batchId = none
  todo : ∀ id ∈ e.todo, id = deviceId
  stage : ∀ id, e.stage.deviceId? = some id → id = deviceId
  holds : e.Holds db
  result : ∀ id, taskId = some id → e.Sees db id deviceId

/-- An item of the batch for the device, in the database or on its way. -/
def EnqueueTx.Covers (e : EnqueueTx) (db : Database) (batchId deviceId : ℕ) : Prop :=
  ∃ i ∈ (e.visible db).scanBatchItems ++ e.pending, i.batchId = batchId ∧ i.deviceId = deviceId

/-- `create_batch`: every device is ahead, at hand or covered. -/
structure EnqueueTx.ForBatch (e : EnqueueTx) (db : Database) (batchId : ℕ)
    (deviceIds : List ℕ) : Prop where
  batch : e.batchId = some batchId
  ended : e.stage = .flush none → e.todo = []
  devices : ∀ id ∈ deviceIds, id ∈ e.todo ∨ e.stage.deviceId? = some id ∨ e.Covers db batchId id

variable {queueSize : ℕ} {s : RaceState} {e e' : EnqueueTx} {db db' : Database}

/-- What one statement does to its transaction. -/
inductive EnqueueTx.Moved (s : RaceState) (e : EnqueueTx) : EnqueueTx → Prop
  | found (deviceId : ℕ) (rest : List ℕ) (task held : ScanTask) (dirty : List ℕ)
      (hstage : e.stage = .select) (htodo : e.todo = deviceId :: rest)
      (hactive : activeTask (e.visible s.db) deviceId = some task) (hid : held.id = task.id)
      (hdevice : held.deviceId = task.deviceId) :
      Moved s e { e with todo := rest, stage := .holding held, dirty := dirty }
  | missing (deviceId : ℕ) (rest : List ℕ) (hstage : e.stage = .select)
      (htodo : e.todo = deviceId :: rest) :
      Moved s e { e with todo := rest, stage := .missing deviceId }
  | inserted (deviceId : ℕ) (task : ScanTask) (hstage : e.stage = .missing deviceId)
      (hfree : s.deviceFree deviceId = true) (hdevice : task.deviceId = deviceId)
      (hactive : task.status.isActive = true) :
      Moved s e { e with ownTasks := e.ownTasks ++ [task], stage := .flush (some task) }
  | attached (task : ScanTask) (hstage : e.stage = .holding task) :
      Moved s e (e.attach s.db task)
  | flushing (hstage : e.stage = .select) (htodo : e.todo = []) :
      Moved s e { e with stage := .flush none }
  | priority (dirty raised : List ℕ) : Moved s e { e with dirty := dirty, raised := raised }
  | item (item : ScanBatchItem) (rest : List ScanBatchItem) (hpending : e.pending = item :: rest) :
      Moved s e { e with pending := rest, ownItems := e.ownItems ++ [item] }
  | flushed (task : ScanTask) (hstage : e.stage = .flush (some task)) :
      Moved s e { e with stage := .holding task }

theorem EnqueueTx.step_moved {statement : EnqueueStatement} {r : Database × EnqueueTx}
    (h : e.step queueSize s statement = some r) :
    e.Moved s r.2 ∧ r.1.scanTasks = s.db.scanTasks ∧ r.1.scanBatchItems = s.db.scanBatchItems ∧
      r.1.scanBatches = s.db.scanBatches ∧ r.1.devices = s.db.devices := by
  cases statement with
  | readTask =>
    simp only [EnqueueTx.step] at h
    split at h
    · rename_i deviceId rest hstage htodo
      split_ifs at h
      split at h
      · cases h
        exact ⟨.missing deviceId rest hstage htodo, rfl, rfl, rfl, rfl⟩
      · rename_i task hactive
        cases h
        refine ⟨?_, rfl, rfl, rfl, rfl⟩
        unfold EnqueueTx.reuse
        split_ifs
        · exact .found deviceId rest task _ _ hstage htodo hactive rfl rfl
        · exact .found deviceId rest task _ _ hstage htodo hactive rfl rfl
    · cases h
  | insertTask wall =>
    simp only [EnqueueTx.step] at h
    split at h
    · rename_i deviceId hstage
      split_ifs at h with hroom
      cases h
      exact ⟨.inserted deviceId _ hstage hroom.2 rfl rfl, rfl, rfl, rfl, rfl⟩
    · cases h
  | attach =>
    simp only [EnqueueTx.step] at h
    split at h
    · rename_i task hstage
      cases h
      exact ⟨.attached task hstage, rfl, rfl, rfl, rfl⟩
    · cases h
  | beginFlush =>
    simp only [EnqueueTx.step] at h
    split at h
    · rename_i hstage htodo
      cases h
      exact ⟨.flushing hstage htodo, rfl, rfl, rfl, rfl⟩
    · cases h
  | flushPriority =>
    simp only [EnqueueTx.step] at h
    split at h
    · split_ifs at h
      cases h
      exact ⟨.priority _ _, rfl, rfl, rfl, rfl⟩
    · cases h
  | insertItem =>
    simp only [EnqueueTx.step] at h
    split at h
    · rename_i item rest _ _ hpending
      split_ifs at h
      cases h
      exact ⟨.item item rest hpending, rfl, rfl, rfl, rfl⟩
    · cases h
  | endFlush =>
    simp only [EnqueueTx.step] at h
    split at h
    · rename_i task hstage _ _
      cases h
      exact ⟨.flushed task hstage, rfl, rfl, rfl, rfl⟩
    · cases h

/-! ## The committed rows only grow -/

/-- Rows stay, with their keys and statuses. -/
structure Database.Grows (db db' : Database) : Prop where
  tasks : ∀ t ∈ db.scanTasks, ∃ t' ∈ db'.scanTasks,
    t'.id = t.id ∧ t'.deviceId = t.deviceId ∧ t'.status = t.status
  items : ∀ i ∈ db.scanBatchItems, i ∈ db'.scanBatchItems
  batches : ∀ b ∈ db.scanBatches, ∃ b' ∈ db'.scanBatches, b'.id = b.id
  devices : db'.devices = db.devices

theorem Database.Grows.of_eq (htasks : db'.scanTasks = db.scanTasks)
    (hitems : db'.scanBatchItems = db.scanBatchItems) (hbatches : db'.scanBatches = db.scanBatches)
    (hdevices : db'.devices = db.devices) : db.Grows db' where
  tasks t ht := ⟨t, htasks ▸ ht, rfl, rfl, rfl⟩
  items _ hi := hitems ▸ hi
  batches b hb := ⟨b, hbatches ▸ hb, rfl⟩
  devices := hdevices

theorem Database.Grows.refl (db : Database) : db.Grows db := .of_eq rfl rfl rfl rfl

theorem Database.Grows.trans {db₁ db₂ db₃ : Database} (h : db₁.Grows db₂) (h' : db₂.Grows db₃) :
    db₁.Grows db₃ where
  tasks t ht := by
    obtain ⟨u, hu, hid, hdevice, hstatus⟩ := h.tasks t ht
    obtain ⟨v, hv, hid', hdevice', hstatus'⟩ := h'.tasks u hu
    exact ⟨v, hv, hid'.trans hid, hdevice'.trans hdevice, hstatus'.trans hstatus⟩
  items i hi := h'.items i (h.items i hi)
  batches b hb := by
    obtain ⟨c, hc, hid⟩ := h.batches b hb
    obtain ⟨d, hd, hid'⟩ := h'.batches c hc
    exact ⟨d, hd, hid'.trans hid⟩
  devices := h'.devices.trans h.devices

/-- A row that the transaction sees is there once it has committed. -/
theorem EnqueueTx.commit_task {t : ScanTask} (ht : t ∈ (e.visible db).scanTasks) :
    ∃ t' ∈ (e.commit db).scanTasks,
      t'.id = t.id ∧ t'.deviceId = t.deviceId ∧ t'.status = t.status := by
  rcases List.mem_append.mp ht with ht | ht
  · refine ⟨_, List.mem_append_left _ (List.mem_map_of_mem ht), ?_⟩
    split_ifs <;> exact ⟨rfl, rfl, rfl⟩
  · exact ⟨t, List.mem_append_right _ ht, rfl, rfl, rfl⟩

theorem EnqueueTx.commit_grows (e : EnqueueTx) (db : Database) : db.Grows (e.commit db) where
  tasks _ ht := commit_task (List.mem_append_left _ ht)
  items _ hi := List.mem_append_left _ hi
  batches b hb := ⟨b, hb, rfl⟩
  devices := rfl

/-- The commit of `create_batch`, with its recounted row. -/
theorem refreshed_batch_grows (wall : Timestamp) (batch : ScanBatch) (db : Database) :
    let db' := refreshScanBatches wall [batch.id]
      { db with scanBatches := db.scanBatches ++ [batch] }
    db.Grows db' ∧ ∃ b ∈ db'.scanBatches, b.id = batch.id := by
  have hids : ∀ b ∈ db.scanBatches ++ [batch],
      ∃ b' ∈ (refreshScanBatches wall [batch.id]
        { db with scanBatches := db.scanBatches ++ [batch] }).scanBatches, b'.id = b.id := by
    intro b hb
    have hfields := refreshScanBatches_fields wall [batch.id]
      { db with scanBatches := db.scanBatches ++ [batch] }
    have hmem := List.mem_map_of_mem (f := fun b => (b.id, b.sourceImportBatchId, b.batchType)) hb
    rw [← hfields] at hmem
    obtain ⟨b', hb', heq⟩ := List.mem_map.mp hmem
    exact ⟨b', hb', congrArg Prod.fst heq⟩
  constructor
  · exact {
      tasks := fun t ht => ⟨t, by simpa using ht, rfl, rfl, rfl⟩
      items := fun i hi => by simpa using hi
      batches := fun b hb => hids b (List.mem_append_left _ hb)
      devices := by simp }
  · exact hids batch (by simp)

/-! ## A transaction keeps what it has reached -/

theorem EnqueueTx.Sees.mono {taskId deviceId : ℕ} (h : e.Sees db taskId deviceId)
    (hown : ∀ t ∈ e.ownTasks, t ∈ e'.ownTasks) (hgrows : db.Grows db') :
    e'.Sees db' taskId deviceId := by
  obtain ⟨t, ht, hid, hdevice, hactive⟩ := h
  rcases List.mem_append.mp ht with ht | ht
  · obtain ⟨t', ht', hid', hdevice', hstatus'⟩ := hgrows.tasks t ht
    exact ⟨t', List.mem_append_left _ ht', hid'.trans hid, hdevice'.trans hdevice,
      by rw [hstatus', hactive]⟩
  · exact ⟨t, List.mem_append_right _ (hown t ht), hid, hdevice, hactive⟩

theorem EnqueueTx.Covers.mono {batchId deviceId : ℕ} (h : e.Covers db batchId deviceId)
    (hgrows : db.Grows db') : e.Covers db' batchId deviceId := by
  obtain ⟨i, hi, hkey⟩ := h
  refine ⟨i, ?_, hkey⟩
  simp only [EnqueueTx.visible, List.append_assoc, List.mem_append] at hi ⊢
  exact hi.imp_left (hgrows.items i)

theorem EnqueueTx.ForDevice.mono {deviceId : ℕ} {taskId : Option ℕ}
    (h : e.ForDevice db deviceId taskId) (hgrows : db.Grows db') :
    e.ForDevice db' deviceId taskId where
  batch := h.batch
  todo := h.todo
  stage := h.stage
  holds task htask := (h.holds task htask).mono (fun _ ht => ht) hgrows
  result id hid := (h.result id hid).mono (fun _ ht => ht) hgrows

theorem EnqueueTx.ForBatch.mono {batchId : ℕ} {deviceIds : List ℕ}
    (h : e.ForBatch db batchId deviceIds) (hgrows : db.Grows db') :
    e.ForBatch db' batchId deviceIds where
  batch := h.batch
  ended := h.ended
  devices id hid := (h.devices id hid).imp_right (Or.imp_right fun hc => hc.mono hgrows)

theorem EnqueueTx.Moved.ownTasks_sub (h : e.Moved s e') : ∀ t ∈ e.ownTasks, t ∈ e'.ownTasks := by
  intro t ht
  cases h with
  | inserted => exact List.mem_append_left _ ht
  | attached =>
    unfold EnqueueTx.attach
    split
    · exact ht
    · split_ifs <;> exact ht
  | _ => exact ht

theorem mem_of_activeTask {deviceId : ℕ} {task : ScanTask} (h : activeTask db deviceId = some task) :
    task ∈ db.scanTasks ∧ task.deviceId = deviceId ∧ task.status.isActive = true := by
  have hp := List.find?_some h
  simp only [Bool.and_eq_true, decide_eq_true_eq] at hp
  exact ⟨List.mem_of_find?_eq_some h, hp⟩

theorem EnqueueTx.Moved.holds (h : e.Moved s e') (hold : e.Holds s.db) : e'.Holds s.db := by
  have hsub := h.ownTasks_sub
  intro t ht
  cases h with
  | found deviceId rest task held dirty hstage htodo hactive hid hdevice =>
    obtain rfl : held = t := by simpa using ht
    obtain ⟨hmem, -, hact⟩ := mem_of_activeTask hactive
    exact ⟨task, hmem, hid.symm, hdevice.symm, hact⟩
  | missing => simp at ht
  | inserted deviceId task hstage hfree hdevice hactive =>
    obtain rfl : task = t := by simpa using ht
    exact ⟨task, by simp [EnqueueTx.visible], rfl, rfl, hactive⟩
  | attached task hstage =>
    exfalso
    unfold EnqueueTx.attach at ht
    split at ht
    · simp at ht
    · split_ifs at ht <;> simp at ht
  | flushing => simp at ht
  | priority => exact (hold t ht).mono hsub (.refl _)
  | item => exact (hold t ht).mono hsub (.refl _)
  | flushed task hstage =>
    obtain rfl : task = t := by simpa using ht
    exact (hold task (Or.inr hstage)).mono hsub (.refl _)

theorem EnqueueTx.attach_single (hbatch : e.batchId = none) (task : ScanTask) :
    e.attach db task = { e with stage := .select } := by
  unfold EnqueueTx.attach
  rw [hbatch]

theorem EnqueueTx.Moved.forDevice {deviceId : ℕ} {taskId : Option ℕ} (h : e.Moved s e')
    (hfor : e.ForDevice s.db deviceId taskId) : e'.ForDevice s.db deviceId taskId := by
  have hsub := h.ownTasks_sub
  have hholds := h.holds hfor.holds
  have hresult := fun id hid => (hfor.result id hid).mono hsub (.refl s.db)
  cases h with
  | found id rest task held dirty hstage htodo hactive hid hdevice =>
    have hhead : id = deviceId := hfor.todo id (by simp [htodo])
    refine ⟨hfor.batch, fun id' hid' => hfor.todo id' (by simp [htodo, hid']), ?_, hholds, hresult⟩
    intro id' hid'
    obtain rfl : held.deviceId = id' := by simpa [EnqueueStage.deviceId?] using hid'
    rw [hdevice, (mem_of_activeTask hactive).2.1, hhead]
  | missing id rest hstage htodo =>
    refine ⟨hfor.batch, fun id' hid' => hfor.todo id' (by simp [htodo, hid']), ?_, hholds, hresult⟩
    intro id' hid'
    obtain rfl : id = id' := by simpa [EnqueueStage.deviceId?] using hid'
    exact hfor.todo id (by simp [htodo])
  | inserted id task hstage hfree hdevice hactive =>
    refine ⟨hfor.batch, hfor.todo, ?_, hholds, hresult⟩
    intro id' hid'
    obtain rfl : task.deviceId = id' := by simpa [EnqueueStage.deviceId?] using hid'
    exact hdevice.trans (hfor.stage id (by rw [hstage]; rfl))
  | attached task hstage =>
    rw [attach_single hfor.batch] at *
    exact ⟨hfor.batch, hfor.todo, fun id' hid' => by simp [EnqueueStage.deviceId?] at hid', hholds,
      hresult⟩
  | flushing hstage htodo =>
    exact ⟨hfor.batch, hfor.todo, fun id' hid' => by simp [EnqueueStage.deviceId?] at hid', hholds,
      hresult⟩
  | priority => exact ⟨hfor.batch, hfor.todo, hfor.stage, hholds, hresult⟩
  | item => exact ⟨hfor.batch, hfor.todo, hfor.stage, hholds, hresult⟩
  | flushed task hstage =>
    refine ⟨hfor.batch, hfor.todo, ?_, hholds, hresult⟩
    intro id' hid'
    exact hfor.stage id' (by rw [hstage]; exact hid')

/-- `_enqueue_in_session` returns the task in hand. -/
theorem EnqueueTx.ForDevice.attached {deviceId : ℕ} {taskId : Option ℕ} {task : ScanTask}
    (hfor : e.ForDevice s.db deviceId taskId) (hstage : e.stage = .holding task) :
    (e.attach s.db task).ForDevice s.db deviceId e.returnedTask := by
  have hmoved := (EnqueueTx.Moved.attached task hstage).forDevice hfor
  refine ⟨hmoved.batch, hmoved.todo, hmoved.stage, hmoved.holds, ?_⟩
  intro id hid
  have hreturned : e.returnedTask = some task.id := by simp [EnqueueTx.returnedTask, hstage]
  obtain rfl : task.id = id := by simpa [hreturned] using hid
  have hdevice : task.deviceId = deviceId := hfor.stage _ (by rw [hstage]; rfl)
  have hsees := hfor.holds task (Or.inl hstage)
  rw [hdevice] at hsees
  exact hsees.mono (EnqueueTx.Moved.attached task hstage).ownTasks_sub (.refl _)

/-- After `_attach_batch_item` the device of the task in hand is covered. -/
theorem EnqueueTx.attach_covers {batchId : ℕ} {task : ScanTask} (hbatch : e.batchId = some batchId) :
    (e.attach db task).stage = .select ∧ (e.attach db task).todo = e.todo ∧
      (e.attach db task).batchId = some batchId ∧
      (e.attach db task).Covers db batchId task.deviceId ∧
      ∀ id, e.Covers db batchId id → (e.attach db task).Covers db batchId id := by
  unfold EnqueueTx.attach
  rw [hbatch]
  simp only
  split_ifs with hany
  · obtain ⟨i, hi, hkey⟩ := List.any_eq_true.mp hany
    simp only [Bool.and_eq_true, decide_eq_true_eq] at hkey
    exact ⟨rfl, rfl, rfl, ⟨i, List.mem_append_left _ hi, hkey⟩, fun _ h => h⟩
  · let item : ScanBatchItem :=
      { batchId, taskId := task.id, deviceId := task.deviceId, status := task.status }
    refine ⟨rfl, rfl, rfl, ⟨item, ?_, rfl, rfl⟩, ?_⟩
    · exact List.mem_append_right _ (List.mem_append_right _ (List.mem_singleton_self item))
    · rintro id ⟨i, hi, hkey⟩
      refine ⟨i, ?_, hkey⟩
      rcases List.mem_append.mp hi with hi | hi
      · exact List.mem_append_left _ hi
      · exact List.mem_append_right _ (List.mem_append_left _ hi)

theorem EnqueueTx.Moved.forBatch {batchId : ℕ} {deviceIds : List ℕ} (h : e.Moved s e')
    (hfor : e.ForBatch s.db batchId deviceIds) : e'.ForBatch s.db batchId deviceIds := by
  cases h with
  | found deviceId rest task held dirty hstage htodo hactive hid hdevice =>
    refine ⟨hfor.batch, by simp, ?_⟩
    intro id hmem
    rcases hfor.devices id hmem with h | h | h
    · rcases List.mem_cons.mp (htodo ▸ h) with rfl | h
      · right; left
        simp only [EnqueueStage.deviceId?, hdevice, (mem_of_activeTask hactive).2.1]
      · exact Or.inl h
    · simp [hstage, EnqueueStage.deviceId?] at h
    · exact Or.inr (Or.inr h)
  | missing deviceId rest hstage htodo =>
    refine ⟨hfor.batch, by simp, ?_⟩
    intro id hmem
    rcases hfor.devices id hmem with h | h | h
    · rcases List.mem_cons.mp (htodo ▸ h) with rfl | h
      · exact Or.inr (Or.inl rfl)
      · exact Or.inl h
    · simp [hstage, EnqueueStage.deviceId?] at h
    · exact Or.inr (Or.inr h)
  | inserted deviceId task hstage hfree hdevice hactive =>
    refine ⟨hfor.batch, by simp, ?_⟩
    intro id hmem
    rcases hfor.devices id hmem with h | h | h
    · exact Or.inl h
    · rw [hstage] at h
      exact Or.inr (Or.inl ((congrArg some hdevice).trans h))
    · exact Or.inr (Or.inr h)
  | attached task hstage =>
    obtain ⟨hselect, htodo, hbatch, hcovers, hkeep⟩ := attach_covers hfor.batch
    refine ⟨hbatch, by simp [hselect], ?_⟩
    intro id hmem
    rw [htodo]
    rcases hfor.devices id hmem with h | h | h
    · exact Or.inl h
    · obtain rfl : task.deviceId = id := by simpa [hstage, EnqueueStage.deviceId?] using h
      exact Or.inr (Or.inr hcovers)
    · exact Or.inr (Or.inr (hkeep id h))
  | flushing hstage htodo =>
    refine ⟨hfor.batch, fun _ => htodo, ?_⟩
    intro id hmem
    rcases hfor.devices id hmem with h | h | h
    · exact Or.inl h
    · simp [hstage, EnqueueStage.deviceId?] at h
    · exact Or.inr (Or.inr h)
  | priority => exact ⟨hfor.batch, hfor.ended, hfor.devices⟩
  | item item rest hpending =>
    refine ⟨hfor.batch, hfor.ended, ?_⟩
    intro id hmem
    rcases hfor.devices id hmem with h | h | ⟨i, hi, hkey⟩
    · exact Or.inl h
    · exact Or.inr (Or.inl h)
    · refine Or.inr (Or.inr ⟨i, ?_, hkey⟩)
      simpa [EnqueueTx.visible, hpending] using hi
  | flushed task hstage =>
    refine ⟨hfor.batch, by simp, ?_⟩
    intro id hmem
    rcases hfor.devices id hmem with h | h | h
    · exact Or.inl h
    · rw [hstage] at h
      exact Or.inr (Or.inl h)
    · exact Or.inr (Or.inr h)

end ConnectionTopology
