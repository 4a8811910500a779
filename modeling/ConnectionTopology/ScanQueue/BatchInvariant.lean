import ConnectionTopology.ScanQueue.Bookkeeping

/-!
# The bookkeeping invariant over whole runs

Each transaction is a sequence of the primitives of `Bookkeeping`, closed by a
refresh of the batches it made stale. Starting from a database whose batches
agree with their items, they agree after every transaction of every run.
-/
namespace ConnectionTopology

/-- Every item follows its task and every batch agrees with its items. -/
def Bookkept (db : Database) : Prop := StaleOnly [] db

theorem ItemsFollow.of_eq {db db' : Database} (h : ItemsFollow db)
    (htasks : db'.scanTasks = db.scanTasks) (hitems : db'.scanBatchItems = db.scanBatchItems)
    (hseq : db'.sequences.scanTasks = db.sequences.scanTasks) : ItemsFollow db' := by
  refine ⟨?_, ?_, ?_⟩
  · rw [htasks]; exact h.nodup
  · rw [htasks, hseq]; exact h.fresh
  · rw [htasks, hitems]; exact h.status

theorem StaleOnly.of_eq {ids : List ℕ} {db db' : Database} (h : StaleOnly ids db)
    (htasks : db'.scanTasks = db.scanTasks) (hitems : db'.scanBatchItems = db.scanBatchItems)
    (hbatches : db'.scanBatches = db.scanBatches)
    (hseq : db'.sequences.scanTasks = db.sequences.scanTasks) : StaleOnly ids db' := by
  refine ⟨h.items.of_eq htasks hitems hseq, ?_⟩
  intro b hb hid
  rw [hbatches] at hb
  exact (h.batches b hb hid).congr (by simp [Database.itemsOf, hitems])

/-! ## Enqueuing -/

/-- Task updates that keep key and status leave every batch as it was. -/
theorem StaleOnly.mapTasks {ids : List ℕ} {db : Database} (h : StaleOnly ids db)
    {g : ScanTask → ScanTask} (hid : ∀ t, (g t).id = t.id) (hstatus : ∀ t, (g t).status = t.status) :
    StaleOnly ids { db with scanTasks := db.scanTasks.map g } := by
  refine ⟨⟨?_, ?_, ?_⟩, fun b hb hb' => (h.batches b hb hb').congr rfl⟩
  · simpa [Function.comp_def, hid] using h.items.nodup
  · intro t ht
    obtain ⟨s, hs, rfl⟩ := List.mem_map.mp ht
    rw [hid]
    exact h.items.fresh s hs
  · intro i hi
    obtain ⟨t, ht, htask, hst⟩ := h.items.status i hi
    exact ⟨g t, List.mem_map.mpr ⟨t, ht, rfl⟩, by rw [hid, htask], by rw [hstatus, hst]⟩

theorem StaleOnly.raisePriority {ids : List ℕ} {db : Database} (h : StaleOnly ids db)
    {task : ScanTask} (htask : task ∈ db.scanTasks) (trigger : ScanTrigger) (priority : ℤ) :
    StaleOnly ids (raisePriority task trigger priority db).2 ∧
      (raisePriority task trigger priority db).1 ∈ (raisePriority task trigger priority db).2.scanTasks := by
  unfold ConnectionTopology.raisePriority
  split_ifs
  · refine ⟨h.mapTasks ?_ ?_, ?_⟩
    · intro t
      split_ifs <;> rfl
    · intro t
      split_ifs <;> rfl
    · exact List.mem_map.mpr ⟨task, htask, by simp⟩
  · exact ⟨h, htask⟩

theorem StaleOnly.insertTask {ids : List ℕ} {db : Database} (h : StaleOnly ids db)
    (deviceId : ℕ) (trigger : ScanTrigger) (priority : ℤ) (wall : Timestamp) :
    StaleOnly ids (insertTask deviceId trigger priority wall db).2 ∧
      (insertTask deviceId trigger priority wall db).1 ∈
        (insertTask deviceId trigger priority wall db).2.scanTasks := by
  refine ⟨⟨⟨?_, ?_, ?_⟩, fun b hb hb' => (h.batches b hb hb').congr rfl⟩, ?_⟩
  · simp only [ConnectionTopology.insertTask, List.map_append, List.map_cons, List.map_nil]
    rw [List.nodup_append]
    refine ⟨h.items.nodup, by simp, ?_⟩
    intro a ha b hb
    obtain ⟨t, ht, rfl⟩ := List.mem_map.mp ha
    have := h.items.fresh t ht
    simp only [List.mem_singleton] at hb
    omega
  · intro t ht
    simp only [ConnectionTopology.insertTask, List.mem_append, List.mem_singleton] at ht ⊢
    rcases ht with ht | rfl
    · have := h.items.fresh t ht
      omega
    · simp
  · intro i hi
    obtain ⟨t, ht, htask⟩ := h.items.status i hi
    exact ⟨t, by simp [ConnectionTopology.insertTask, ht], htask⟩
  · simp [ConnectionTopology.insertTask]

theorem StaleOnly.reuseOrInsertTask {ids : List ℕ} {db db' : Database} {task : ScanTask}
    (h : StaleOnly ids db) {queueSize deviceId : ℕ} {trigger : ScanTrigger} {priority : ℤ}
    {wall : Timestamp}
    (hok : reuseOrInsertTask queueSize deviceId trigger priority wall db = .ok (task, db')) :
    StaleOnly ids db' ∧ task ∈ db'.scanTasks := by
  unfold ConnectionTopology.reuseOrInsertTask at hok
  split at hok
  · split_ifs at hok
    have hins := h.insertTask deviceId trigger priority wall
    cases hok
    exact hins
  · rename_i active hactive
    have hraise := h.raisePriority (List.mem_of_find?_eq_some hactive) trigger priority
    rw [Except.ok.inj hok] at hraise
    exact hraise

/-- An attached item makes its batch stale and nothing else. -/
theorem StaleOnly.attachBatchItem {ids : List ℕ} {db db' : Database} {task : ScanTask}
    {batchId : ℕ} (h : StaleOnly ids db) (htask : task ∈ db.scanTasks)
    (hok : attachBatchItem batchId task db = .ok db') : StaleOnly (batchId :: ids) db' := by
  unfold ConnectionTopology.attachBatchItem at hok
  split_ifs at hok
  · cases hok
    exact h.mono (List.subset_cons_self _ _)
  · cases hok
    refine ⟨⟨h.items.nodup, h.items.fresh, ?_⟩, ?_⟩
    · intro i hi
      rcases List.mem_append.mp hi with hi | hi
      · exact h.items.status i hi
      · rw [List.mem_singleton.mp hi]
        exact ⟨task, htask, rfl, rfl⟩
    · intro b hb hid
      simp only [List.mem_cons, not_or] at hid
      have hother : ¬ batchId = b.id := fun he => hid.1 he.symm
      exact (h.batches b hb hid.2).congr (by simp [Database.itemsOf, List.filter_append, hother])

theorem StaleOnly.enqueueInSession {ids : List ℕ} {db db' : Database} {task : ScanTask}
    (h : StaleOnly ids db) {queueSize deviceId : ℕ} {trigger : ScanTrigger} {priority : ℤ}
    {batchId : Option ℕ} {wall : Timestamp}
    (hok : enqueueInSession queueSize deviceId trigger priority batchId wall db = .ok (task, db')) :
    StaleOnly (batchId.toList ++ ids) db' := by
  unfold ConnectionTopology.enqueueInSession at hok
  split at hok
  · cases hok
  · split_ifs at hok
    split at hok
    · cases hok
    · rename_i reused mid hreuse
      obtain ⟨hmid, hmem⟩ := h.reuseOrInsertTask hreuse
      split at hok
      · cases hok
        exact hmid
      · split at hok
        · cases hok
        · rename_i attached
          cases hok
          exact hmid.attachBatchItem hmem attached

theorem StaleOnly.enqueueAll {queueSize batchId : ℕ} {trigger : ScanTrigger} {priority : ℤ}
    {wall : Timestamp} : ∀ {deviceIds : List ℕ} {ids : List ℕ} {db db' : Database},
      StaleOnly (batchId :: ids) db →
      enqueueAll queueSize trigger priority batchId wall deviceIds db = .ok db' →
      StaleOnly (batchId :: ids) db' := by
  intro deviceIds
  induction deviceIds with
  | nil =>
    intro ids db db' h hok
    cases hok
    exact h
  | cons deviceId rest ih =>
    intro ids db db' h hok
    rw [ConnectionTopology.enqueueAll] at hok
    split at hok
    · cases hok
    · rename_i first mid hfirst
      exact ih ((h.enqueueInSession hfirst).mono (by simp)) hok

theorem Bookkept.enqueueDevice {db db' : Database} {taskId : ℕ} (h : Bookkept db)
    {queueSize deviceId : ℕ} {trigger : ScanTrigger} {priority : ℤ} {batchId : Option ℕ}
    {wall : Timestamp}
    (hok : enqueueDevice queueSize deviceId trigger priority batchId wall db = .ok (taskId, db')) :
    Bookkept db' := by
  unfold ConnectionTopology.enqueueDevice at hok
  split at hok
  · cases hok
  · rename_i task mid henqueue
    have hmid := StaleOnly.enqueueInSession h henqueue
    cases batchId with
    | none =>
      cases hok
      exact hmid
    | some batchId =>
      cases hok
      exact hmid.refresh wall

theorem Bookkept.createBatchInSession {db db' : Database} {batchId : ℕ} (h : Bookkept db)
    {queueSize : ℕ} {batchType : ScanBatchType} {deviceIds : List ℕ}
    {clusterId sourceImportBatchId : Option ℕ} {wall : Timestamp}
    (hok : createBatchInSession queueSize batchType deviceIds clusterId sourceImportBatchId wall db =
      .ok (batchId, db')) : Bookkept db' := by
  unfold ConnectionTopology.createBatchInSession at hok
  dsimp only at hok
  split_ifs at hok
  split at hok
  · cases hok
  · rename_i mid hall
    -- the new batch row is stale until the refresh at the end of the transaction
    have hinserted : StaleOnly [db.sequences.scanBatches]
        (insertBatch batchType clusterId sourceImportBatchId wall db).2 := by
      refine ⟨h.items.of_eq rfl rfl rfl, ?_⟩
      intro b hb hid
      rcases List.mem_append.mp hb with hb | hb
      · exact (h.batches b hb (by simp)).congr rfl
      · rw [List.mem_singleton.mp hb] at hid
        simp at hid
    cases hok
    exact (hinserted.enqueueAll hall).refresh wall

theorem Bookkept.createImportScanBatch {db db' : Database} {batchId : Option ℕ} (h : Bookkept db)
    {queueSize importBatchId : ℕ} {wall : Timestamp}
    (hok : createImportScanBatch queueSize importBatchId wall db = .ok (batchId, db')) :
    Bookkept db' := by
  unfold ConnectionTopology.createImportScanBatch at hok
  split at hok
  · cases hok
    exact h
  · split at hok
    · cases hok
      exact h
    · split at hok
      · cases hok
      · rename_i created mid hcreate
        have hmid := Bookkept.createBatchInSession h hcreate
        cases hok
        exact StaleOnly.of_eq hmid rfl rfl rfl rfl

/-! ## Claims, leases and settlement -/

theorem Bookkept.claimScanTasks {db : Database} (h : Bookkept db) (workerId : String)
    (localCapacity globalLimit : ℤ) (leaseSeconds : ℕ) (now wall : Timestamp) :
    Bookkept (claimScanTasks workerId localCapacity globalLimit leaseSeconds now wall db).2 := by
  unfold ConnectionTopology.claimScanTasks
  split_ifs
  · exact h
  · have hreset : ∀ taskId ids db, StaleOnly ids db →
        StaleOnly (ids ++ db.itemBatchIds taskId) (resetExpiredScanTask taskId db) :=
      fun taskId ids db hdb => hdb.moveTask taskId .pending fun _ => rfl
    have hclaim : ∀ leaseUntil taskId ids db, StaleOnly ids db →
        StaleOnly (ids ++ db.itemBatchIds taskId)
          (markScanTaskRunning workerId now leaseUntil taskId db) :=
      fun _ taskId ids db hdb => hdb.moveTask taskId .running fun _ => rfl
    have hswept := StaleOnly.moveTasks hreset ((db.scanTasks.filter (·.isExpired now)).map (·.id))
      ([], db) h
    exact (StaleOnly.moveTasks (hclaim _) _ _ hswept).refresh wall

theorem Bookkept.renewScanLeases {db : Database} (h : Bookkept db) (workerId : String)
    (taskIds : List ℕ) (leaseSeconds : ℕ) (now : Timestamp) :
    Bookkept (renewScanLeases workerId taskIds leaseSeconds now db).2 := by
  unfold ConnectionTopology.renewScanLeases
  split_ifs
  · exact h
  · refine StaleOnly.mapTasks h ?_ ?_
    · intro t
      split_ifs <;> rfl
    · intro t
      split_ifs <;> rfl

theorem Bookkept.settleTask {db : Database} (h : Bookkept db) (taskId : ℕ)
    (status : ScanTaskStatus) {f : ScanTask → ScanTask} (hf : ∀ t, (f t).id = t.id)
    (wall : Timestamp) : Bookkept (settleTask taskId status f wall db) := by
  have hmoved := StaleOnly.moveTask h taskId status (f := fun t => (f t).releaseLease) hf
  exact (hmoved.mono (by simp)).refresh wall

theorem Bookkept.persistOutcome {db db' : Database} {done : Bool} (h : Bookkept db)
    {workerId : String} {taskId : ℕ} {outcome : ScanOutcome} {now wall : Timestamp}
    (hok : persistOutcome workerId taskId outcome now wall db = .ok (done, db')) :
    Bookkept db' := by
  unfold ConnectionTopology.persistOutcome at hok
  split at hok
  · cases hok
  · split at hok
    · cases hok
    · rename_i run mid hadd
      obtain ⟨-, -, htasks, hbatches, hitems, -, hseq, -⟩ := addScanOutcome_ok hadd
      have hmid : Bookkept mid := StaleOnly.of_eq h htasks hitems hbatches hseq
      cases hok
      apply hmid.settleTask
      intro t
      rfl

theorem Bookkept.failUnexpectedTask {db db' : Database} (h : Bookkept db) {workerId : String}
    {taskId : ℕ} {now wall : Timestamp}
    (hok : failUnexpectedTask workerId taskId now wall db = .ok db') : Bookkept db' := by
  unfold ConnectionTopology.failUnexpectedTask at hok
  split at hok
  · cases hok
  · cases hok
    apply h.settleTask
    intro t
    rfl

theorem Bookkept.cancelDevice {db : Database} (h : Bookkept db) (deviceId : ℕ)
    (wall : Timestamp) : Bookkept (cancelDevice deviceId wall db).2 := by
  unfold ConnectionTopology.cancelDevice
  split
  · exact h
  · split_ifs
    · exact h
    · apply StaleOnly.refresh
      refine (StaleOnly.moveTask h _ .cancelled ?_).mono (by simp)
      intro t
      rfl

/-! ## Runs -/

theorem Bookkept.commit {α : Type} {db : Database} (h : Bookkept db) (reply : α → Reply)
    {result : Except QueueError (α × Database)}
    (hok : ∀ a db', result = .ok (a, db') → Bookkept db') :
    Bookkept (Reply.commit reply db result).2 := by
  cases result with
  | error e => exact h
  | ok r => exact hok r.1 r.2 rfl

/-- One step: every transaction keeps the books. -/
theorem Bookkept.perform {db : Database} (h : Bookkept db) (call : Call) :
    Bookkept (perform call db).2 := by
  unfold ConnectionTopology.perform
  cases call.transaction with
  | enqueueDevice queueSize deviceId trigger priority batchId =>
    exact h.commit _ fun _ _ hok => h.enqueueDevice hok
  | createBatch queueSize batchType deviceIds clusterId sourceImportBatchId =>
    exact h.commit _ fun _ _ hok => h.createBatchInSession hok
  | createImportScanBatch queueSize importBatchId =>
    exact h.commit _ fun _ _ hok => h.createImportScanBatch hok
  | claimScanTasks workerId localCapacity globalLimit leaseSeconds =>
    exact h.claimScanTasks workerId localCapacity globalLimit leaseSeconds call.now call.wall
  | renewScanLeases workerId taskIds leaseSeconds =>
    exact h.renewScanLeases workerId taskIds leaseSeconds call.now
  | persistOutcome workerId taskId outcome =>
    exact h.commit _ fun _ _ hok => h.persistOutcome hok
  | recordTransactionConflict workerId taskId outcome =>
    exact h.commit _ fun _ _ hok => h.persistOutcome hok
  | failUnexpectedTask workerId taskId =>
    dsimp only
    split
    · rename_i hok
      exact h.failUnexpectedTask hok
    · exact h
  | cancelDevice deviceId => exact h.cancelDevice deviceId call.wall

theorem Bookkept.run {j j' : Journal} {calls : List Call} (h : Bookkept j.database)
    (hrun : Machine.run Journal.step j calls = some j') : Bookkept j'.database := by
  refine Machine.run_invariant (fun j => Bookkept j.database) ?_ h hrun
  intro j call j' hj hstep
  rw [Journal.step_eq_some] at hstep
  subst hstep
  exact hj.perform call

/-- After every transaction of every run, each item has its task's status and each
batch's counters, status and finish time are those of its items. -/
theorem batches_agree_in_every_run {db₀ : Database} (h₀ : Bookkept db₀) {calls : List Call}
    {j : Journal} (hrun : Machine.run Journal.step ⟨db₀, []⟩ calls = some j) :
    (∀ i ∈ j.database.scanBatchItems,
      ∃ t ∈ j.database.scanTasks, t.id = i.taskId ∧ i.status = t.status) ∧
    ∀ b ∈ j.database.scanBatches, BatchAgrees j.database b := by
  have h := Bookkept.run (j := ⟨db₀, []⟩) h₀ hrun
  exact ⟨h.items.status, fun b hb => h.batches b hb (by simp)⟩

theorem oneDeviceDatabase_bookkept : Bookkept oneDeviceDatabase := by
  refine ⟨⟨?_, ?_, ?_⟩, ?_⟩ <;> simp [oneDeviceDatabase]

/-- A batch is created twice for the device and its single task is claimed. -/
def queueTwiceThenClaim : List Call :=
  [⟨0, 0, .createBatch 10 .all [1] none none⟩, ⟨0, 0, .createBatch 10 .cluster [1, 1, 7] none none⟩,
    ⟨5, 5, .claimScanTasks "worker-a" 1 1 90⟩]

theorem batches_agree_after_shared_claim :
    ∃ j, Machine.run Journal.step ⟨oneDeviceDatabase, []⟩ queueTwiceThenClaim = some j ∧
      j.database.scanBatches.map (·.runningTasks) = [1, 1] ∧
      ∀ b ∈ j.database.scanBatches, BatchAgrees j.database b := by
  obtain ⟨j, hj⟩ : ∃ j, Machine.run Journal.step ⟨oneDeviceDatabase, []⟩ queueTwiceThenClaim =
    some j := ⟨_, rfl⟩
  refine ⟨j, hj, ?_, (batches_agree_in_every_run oneDeviceDatabase_bookkept hj).2⟩
  cases hj
  decide

end ConnectionTopology
