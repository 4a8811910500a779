import ConnectionTopology.ScanQueue.Executions
import ConnectionTopology.ScanQueue.Reclaim

/-!
# The heartbeat and the two sets of a process

`_active_task_ids` and `_lost_task_ids` follow the leases in the database, but a claim, a renewal
and a release reach them later than the database. As long as no claimed task is still being
executed in the process, or waits in an answer that the heartbeat has yet to apply, the lost set
holds no task with a live lease of the process, and every execution is known.
-/
namespace ConnectionTopology

/-! ## Tasks without a live lease -/

/-- No row with this key is running under the worker with a lease beyond `now`. -/
def Database.Unheld (workerId : String) (taskId : ℕ) (now : Timestamp) (db : Database) : Prop :=
  ∀ t ∈ db.scanTasks, t.id = taskId → t.isHeldBy workerId now = false

section

variable {workerId : String} {taskId : ℕ} {now : Timestamp} {db : Database}

theorem ScanTask.isHeldBy_iff {t : ScanTask} :
    t.isHeldBy workerId now = true ↔
      t.status = .running ∧ t.workerId = some workerId ∧ t.isLeased now = true := by
  simp only [ScanTask.isHeldBy, Bool.and_eq_true, decide_eq_true_eq, and_assoc]

/-- A lease that is over stays over. -/
theorem Database.Unheld.later {later : Timestamp} (h : db.Unheld workerId taskId now)
    (hle : now ≤ later) : db.Unheld workerId taskId later := by
  intro t ht hid
  by_contra hheld
  rw [Bool.not_eq_false, ScanTask.isHeldBy_iff] at hheld
  obtain ⟨hrunning, hworker, hleased⟩ := hheld
  have hnow : t.isHeldBy workerId now = true := by
    rw [ScanTask.isHeldBy_iff]
    refine ⟨hrunning, hworker, ?_⟩
    unfold ScanTask.isLeased at hleased ⊢
    split at hleased
    · cases hleased
    · rw [decide_eq_true_eq] at hleased ⊢
      exact hle.trans_lt hleased
  rw [h t ht hid] at hnow
  cases hnow

theorem Database.Unheld.of_scanTasks {db' : Database} (h : db.Unheld workerId taskId now)
    (htasks : db'.scanTasks = db.scanTasks) : db'.Unheld workerId taskId now := by
  unfold Database.Unheld
  rw [htasks]
  exact h

theorem Database.Unheld.refresh (h : db.Unheld workerId taskId now) (wall : Timestamp)
    (batchIds : List ℕ) : (refreshScanBatches wall batchIds db).Unheld workerId taskId now :=
  h.of_scanTasks (refreshScanBatches_scanTasks wall batchIds db)

/-- A move that does not start the task for the worker. -/
theorem Database.Unheld.moveTask (h : db.Unheld workerId taskId now) {moved : ℕ}
    {status : ScanTaskStatus} {f : ScanTask → ScanTask} (hf : ∀ t, (f t).id = t.id)
    (hmove : moved = taskId → status ≠ .running ∨ ∀ t, (f t).workerId ≠ some workerId) :
    (db.moveTask moved status f).Unheld workerId taskId now := by
  intro t' ht' hid
  obtain ⟨t, ht, rfl⟩ := List.mem_map.mp ht'
  split_ifs at hid ⊢ with hmoved
  · by_contra hheld
    rw [Bool.not_eq_false, ScanTask.isHeldBy_iff] at hheld
    rcases hmove (hmoved.symm.trans ((hf t).symm.trans hid)) with hstatus | hworker
    · exact hstatus hheld.1
    · exact hworker t hheld.2.1
  · exact h t ht hid

theorem Database.Unheld.claimScanTasks (h : db.Unheld workerId taskId now) (claimant : String)
    (localCapacity globalLimit : ℤ) (leaseSeconds : ℕ) (start wall : Timestamp)
    (hclaim : claimant = workerId → taskId ∉ (claimScanTasks claimant localCapacity globalLimit
      leaseSeconds start wall db).1) :
    (claimScanTasks claimant localCapacity globalLimit leaseSeconds start wall db).2.Unheld
      workerId taskId now := by
  unfold ConnectionTopology.claimScanTasks at hclaim ⊢
  split_ifs at hclaim ⊢
  · exact h
  · apply Database.Unheld.refresh
    dsimp only at hclaim ⊢
    apply moveTasks_induction (P := Database.Unheld workerId taskId now)
    · apply moveTasks_induction (P := Database.Unheld workerId taskId now) _ _ h
      intro id _ db hdb
      exact hdb.moveTask (fun _ => rfl) fun _ => Or.inl (by decide)
    · intro id hid db hdb
      apply hdb.moveTask
      · exact fun _ => rfl
      · rintro rfl
        right
        intro t hworker
        exact hclaim (Option.some.inj hworker) hid

theorem Database.Unheld.renewScanLeases (h : db.Unheld workerId taskId now) (renewer : String)
    (taskIds : List ℕ) (leaseSeconds : ℕ) (start : Timestamp)
    (hrenew : renewer = workerId → taskId ∉ taskIds) :
    (renewScanLeases renewer taskIds leaseSeconds start db).2.Unheld workerId taskId now := by
  unfold ConnectionTopology.renewScanLeases
  split_ifs
  · exact h
  · intro t' ht' hid
    obtain ⟨t, ht, rfl⟩ := List.mem_map.mp ht'
    split_ifs at hid ⊢ with hrenews
    · by_contra hheld
      rw [Bool.not_eq_false, ScanTask.isHeldBy_iff] at hheld
      simp only [Bool.and_eq_true, decide_eq_true_eq] at hrenews
      have hworker := (ScanTask.isHeldBy_iff.mp hrenews.2).2.1
      have hsame : renewer = workerId := Option.some.inj (hworker.symm.trans hheld.2.1)
      exact hrenew hsame (hid ▸ hrenews.1)
    · exact h t ht hid

/-- What a renewal reports as lost has no live lease. -/
theorem unheld_of_lost {taskIds : List ℕ} {leaseSeconds : ℕ}
    (hlost : taskId ∈ (renewScanLeases workerId taskIds leaseSeconds now db).1) :
    (renewScanLeases workerId taskIds leaseSeconds now db).2.Unheld workerId taskId now := by
  unfold renewScanLeases at hlost ⊢
  split_ifs at hlost ⊢
  · cases hlost
  · obtain ⟨htask, hnot⟩ := List.mem_filter.mp hlost
    rw [List.mem_dedup] at htask
    rw [decide_eq_true_eq] at hnot
    intro t' ht' hid
    obtain ⟨t, ht, rfl⟩ := List.mem_map.mp ht'
    split_ifs at hid ⊢ with hrenews
    · exfalso
      exact hnot (List.mem_map.mpr ⟨t, List.mem_filter.mpr ⟨ht, hrenews⟩, hid⟩)
    · by_contra hheld
      rw [Bool.not_eq_false] at hheld
      exact hrenews (by simp [hid, htask, hheld])

theorem Database.Unheld.reuseOrInsertTask (h : db.Unheld workerId taskId now) {queueSize deviceId : ℕ}
    {trigger : ScanTrigger} {priority : ℤ} {wall : Timestamp} {task : ScanTask} {db' : Database}
    (hok : reuseOrInsertTask queueSize deviceId trigger priority wall db = .ok (task, db')) :
    db'.Unheld workerId taskId now := by
  unfold ConnectionTopology.reuseOrInsertTask at hok
  split at hok
  · split_ifs at hok
    cases hok
    intro t ht hid
    rcases List.mem_append.mp ht with hold | hnew
    · exact h t hold hid
    · rw [List.mem_singleton.mp hnew]
      rfl
  · rename_i active _
    have hraised := Except.ok.inj hok
    unfold raisePriority at hraised
    split_ifs at hraised
    · cases hraised
      intro t' ht' hid
      obtain ⟨t, ht, rfl⟩ := List.mem_map.mp ht'
      split_ifs at hid ⊢
      · exact h t ht hid
      · exact h t ht hid
    · cases hraised
      exact h

theorem Database.Unheld.enqueueInSession (h : db.Unheld workerId taskId now)
    {queueSize deviceId : ℕ} {trigger : ScanTrigger} {priority : ℤ} {batchId : Option ℕ}
    {wall : Timestamp} {task : ScanTask} {db' : Database}
    (hok : enqueueInSession queueSize deviceId trigger priority batchId wall db = .ok (task, db')) :
    db'.Unheld workerId taskId now := by
  unfold ConnectionTopology.enqueueInSession at hok
  split at hok
  · cases hok
  · split_ifs at hok
    split at hok
    · cases hok
    · rename_i reused mid hreuse
      have hmid := h.reuseOrInsertTask hreuse
      split at hok
      · cases hok
        exact hmid
      · split at hok
        · cases hok
        · rename_i attached
          cases hok
          unfold attachBatchItem at attached
          split_ifs at attached
          · cases attached
            exact hmid
          · cases attached
            exact hmid.of_scanTasks rfl

theorem Database.Unheld.enqueueAll {queueSize batchId : ℕ} {trigger : ScanTrigger} {priority : ℤ}
    {wall : Timestamp} {deviceIds : List ℕ} {db' : Database} (h : db.Unheld workerId taskId now)
    (hok : enqueueAll queueSize trigger priority batchId wall deviceIds db = .ok db') :
    db'.Unheld workerId taskId now := by
  induction deviceIds generalizing db with
  | nil =>
    cases hok
    exact h
  | cons deviceId rest ih =>
    rw [ConnectionTopology.enqueueAll] at hok
    split at hok
    · cases hok
    · rename_i first mid hfirst
      exact ih (h.enqueueInSession hfirst) hok

theorem Database.Unheld.createBatchInSession (h : db.Unheld workerId taskId now) {queueSize : ℕ}
    {batchType : ScanBatchType} {deviceIds : List ℕ} {clusterId sourceImportBatchId : Option ℕ}
    {wall : Timestamp} {batchId : ℕ} {db' : Database}
    (hok : createBatchInSession queueSize batchType deviceIds clusterId sourceImportBatchId wall db =
      .ok (batchId, db')) : db'.Unheld workerId taskId now := by
  unfold ConnectionTopology.createBatchInSession at hok
  dsimp only at hok
  split_ifs at hok
  split at hok
  · cases hok
  · rename_i mid hall
    cases hok
    have hinserted : (insertBatch batchType clusterId sourceImportBatchId wall db).2.Unheld workerId
        taskId now := h.of_scanTasks rfl
    exact (hinserted.enqueueAll hall).refresh wall _

theorem Database.Unheld.settleTask (h : db.Unheld workerId taskId now) {settled : ℕ}
    {status : ScanTaskStatus} (hstatus : status ≠ .running) {f : ScanTask → ScanTask}
    (hf : ∀ t, (f t).id = t.id) (wall : Timestamp) :
    (settleTask settled status f wall db).Unheld workerId taskId now := by
  unfold ConnectionTopology.settleTask
  apply Database.Unheld.refresh
  exact h.moveTask hf fun _ => Or.inl hstatus

theorem Database.Unheld.persistOutcome (h : db.Unheld workerId taskId now) (settler : String)
    (settled : ℕ) (outcome : ScanOutcome) (start wall : Timestamp) :
    (Reply.commit .settled db (persistOutcome settler settled outcome start wall db)).2.Unheld
      workerId taskId now := by
  unfold ConnectionTopology.persistOutcome
  split
  · exact h
  · split
    · exact h
    · rename_i run mid hadd
      have hmid : mid.Unheld workerId taskId now := h.of_scanTasks (addScanOutcome_ok hadd).2.2.1
      dsimp only [Reply.commit]
      apply hmid.settleTask (settledStatus_ne_running outcome)
      exact fun _ => rfl

/-- A transaction makes a task live for the worker only by claiming or renewing it. -/
theorem Database.Unheld.perform (h : db.Unheld workerId taskId now) (call : Call)
    (hclaim : ∀ localCapacity globalLimit leaseSeconds,
      call.transaction = .claimScanTasks workerId localCapacity globalLimit leaseSeconds →
        taskId ∉ (ConnectionTopology.claimScanTasks workerId localCapacity globalLimit leaseSeconds
          call.now call.wall db).1)
    (hrenew : ∀ taskIds leaseSeconds,
      call.transaction = .renewScanLeases workerId taskIds leaseSeconds → taskId ∉ taskIds) :
    (perform call db).2.Unheld workerId taskId now := by
  obtain ⟨start, wall, transaction⟩ := call
  cases transaction with
  | enqueueDevice queueSize deviceId trigger priority batchId =>
    unfold ConnectionTopology.perform
    dsimp only
    unfold enqueueDevice
    split
    · exact h
    · rename_i task mid henqueue
      have hmid := h.enqueueInSession henqueue
      cases batchId with
      | none => exact hmid
      | some batchId => exact hmid.refresh wall _
  | createBatch queueSize batchType deviceIds clusterId sourceImportBatchId =>
    unfold ConnectionTopology.perform
    dsimp only
    unfold createBatch
    cases hok : ConnectionTopology.createBatchInSession queueSize batchType deviceIds clusterId
        sourceImportBatchId wall db with
    | error e => exact h
    | ok result => exact h.createBatchInSession hok
  | createImportScanBatch queueSize importBatchId =>
    unfold ConnectionTopology.perform
    dsimp only
    unfold createImportScanBatch
    split
    · exact h
    · split
      · exact h
      · split
        · exact h
        · rename_i created mid hcreate
          exact (h.createBatchInSession hcreate).of_scanTasks rfl
  | claimScanTasks claimant localCapacity globalLimit leaseSeconds =>
    apply h.claimScanTasks
    rintro rfl
    exact hclaim _ _ _ rfl
  | renewScanLeases renewer taskIds leaseSeconds =>
    apply h.renewScanLeases
    rintro rfl
    exact hrenew _ _ rfl
  | persistOutcome settler settled outcome => exact h.persistOutcome settler settled outcome start wall
  | recordTransactionConflict settler settled outcome =>
    exact h.persistOutcome settler settled (conflictOutcome outcome wall) start wall
  | failUnexpectedTask settler settled =>
    unfold ConnectionTopology.perform
    dsimp only
    unfold failUnexpectedTask
    split
    · rename_i db' hok
      split at hok
      · cases hok
      · cases hok
        apply h.settleTask
        · decide
        · exact fun _ => rfl
    · exact h
  | cancelDevice deviceId =>
    unfold ConnectionTopology.perform
    dsimp only
    unfold cancelDevice
    split
    · exact h
    · split_ifs
      · exact h
      · apply Database.Unheld.refresh
        exact h.moveTask (fun _ => rfl) fun _ => Or.inl (by decide)

end

/-! ## The service among others -/

/-- The threads of the process, and any transaction of another worker or of a request. -/
def ScanProcess.serviceStep (settings : QueueSettings) (s : ScanProcess) :
    ProcessAction → Option ScanProcess
  | .other call =>
    if call.transaction.worker? = some settings.workerId then none else some (s.transact call)
  | a => s.step settings a

/-- The execution has not reached the end of `_release_active_task`. -/
def Execution.inProgress (e : Execution) : Bool :=
  match e.stage with
  | .failing _ | .finished => false
  | _ => true

/-- The tasks of a claim that the sets do not know yet. -/
def DispatcherStage.untracked : DispatcherStage → List ℕ
  | .claimed taskIds _ => taskIds
  | _ => []

/-- The tasks that are tracked and wait for their executions. -/
def DispatcherStage.tracked : DispatcherStage → List ℕ
  | .submitting taskIds _ => taskIds
  | _ => []

/-- The copy of `_active_task_ids` that is about to be renewed. -/
def HeartbeatStage.copied : HeartbeatStage → List ℕ
  | .renewing taskIds => taskIds
  | _ => []

/-- The answer that is about to be moved to `_lost_task_ids`. -/
def HeartbeatStage.answered : HeartbeatStage → List ℕ
  | .marking lost => lost
  | _ => []

/-- No transaction so far began after this time. -/
def ScanProcess.Reaches (s : ScanProcess) (now : Timestamp) : Prop :=
  ∀ event ∈ s.journal.events, event.1.now ≤ now

/-- The process has no live lease of the task, now or later. -/
def ScanProcess.Disowned (workerId : String) (s : ScanProcess) (taskId : ℕ) : Prop :=
  ∀ now, s.Reaches now → s.journal.database.Unheld workerId taskId now

/-- No task in the lost set has a live lease of the process, and the sets know the task of every
execution. -/
structure ScanProcess.SetsAgree (workerId : String) (s : ScanProcess) : Prop where
  lost : ∀ taskId ∈ s.lostTaskIds, s.Disowned workerId taskId
  known : ∀ e ∈ s.executions, e.inProgress = true →
    e.taskId ∈ s.activeTaskIds ∨ e.taskId ∈ s.lostTaskIds

/-- When a claim reaches the sets, none of its tasks is still being executed here, and none is in
the answer that the heartbeat has yet to apply. -/
def ScanProcess.tracksFresh (s : ScanProcess) : ProcessAction → Bool
  | .track => s.dispatcher.untracked.all fun taskId =>
      decide (taskId ∉ s.heartbeat.answered) &&
        s.executions.all fun e => e.taskId ≠ taskId || !e.inProgress
  | _ => true

/-! ## The invariant -/

structure HeartbeatInv (workerId : String) (s : ScanProcess) : Prop where
  tasks : TasksOk s.journal.database
  lost : ∀ taskId ∈ s.lostTaskIds, taskId ∉ s.dispatcher.untracked → s.Disowned workerId taskId
  answered : ∀ taskId ∈ s.heartbeat.answered, taskId ∉ s.dispatcher.untracked →
    s.Disowned workerId taskId
  apart : ∀ taskId ∈ s.activeTaskIds, taskId ∉ s.lostTaskIds
  copied : ∀ taskId ∈ s.heartbeat.copied, taskId ∉ s.lostTaskIds
  known : ∀ e ∈ s.executions, e.inProgress = true →
    e.taskId ∈ s.activeTaskIds ∨ e.taskId ∈ s.lostTaskIds
  unique : ∀ (n m : ℕ) (e e' : Execution), s.executions[n]? = some e → s.executions[m]? = some e' →
    e.inProgress = true → e'.inProgress = true → e.taskId = e'.taskId → n = m
  nodup : s.dispatcher.untracked.Nodup ∧ s.dispatcher.tracked.Nodup
  tracked : ∀ taskId ∈ s.dispatcher.tracked,
    (taskId ∈ s.activeTaskIds ∨ taskId ∈ s.lostTaskIds) ∧
      ∀ e ∈ s.executions, e.taskId = taskId → e.inProgress = false

variable {settings : QueueSettings} {s : ScanProcess} {workerId : String}

theorem ScanProcess.Reaches.of_transact {call : Call} {now : Timestamp}
    (h : (s.transact call).Reaches now) : s.Reaches now ∧ call.now ≤ now := by
  constructor
  · intro event hevent
    exact h event (List.mem_append_left _ hevent)
  · exact h (call, _) (List.mem_append_right _ (List.mem_singleton.mpr rfl))

/-- A transaction that neither claims nor renews the task. -/
theorem ScanProcess.Disowned.transact {taskId : ℕ} (h : s.Disowned workerId taskId) {call : Call}
    (hclaim : ∀ localCapacity globalLimit leaseSeconds,
      call.transaction = .claimScanTasks workerId localCapacity globalLimit leaseSeconds →
        taskId ∉ (claimScanTasks workerId localCapacity globalLimit leaseSeconds call.now call.wall
          s.journal.database).1)
    (hrenew : ∀ taskIds leaseSeconds,
      call.transaction = .renewScanLeases workerId taskIds leaseSeconds → taskId ∉ taskIds) :
    (s.transact call).Disowned workerId taskId :=
  fun now hreaches => (h now hreaches.of_transact.1).perform call hclaim hrenew

/-- Neither a claim nor a renewal of this worker. -/
def Transaction.settlesOrForeign (workerId : String) : Transaction → Bool
  | .claimScanTasks claimant _ _ _ => claimant ≠ workerId
  | .renewScanLeases renewer _ _ => renewer ≠ workerId
  | _ => true

theorem HeartbeatInv.transact (h : HeartbeatInv workerId s) {call : Call}
    (hcall : call.transaction.settlesOrForeign workerId = true) :
    HeartbeatInv workerId (s.transact call) := by
  have hkeeps : ∀ {taskId}, s.Disowned workerId taskId →
      (s.transact call).Disowned workerId taskId := by
    intro taskId hdisowned
    apply hdisowned.transact
    · intro _ _ _ htransaction
      simp [htransaction, Transaction.settlesOrForeign] at hcall
    · intro _ _ htransaction
      simp [htransaction, Transaction.settlesOrForeign] at hcall
  constructor
  case tasks =>
    obtain ⟨_, hevolves, -⟩ := perform_evolves h.tasks call
    exact h.tasks.evolve hevolves
  case lost => exact fun taskId hlost huntracked => hkeeps (h.lost taskId hlost huntracked)
  case answered => exact fun taskId hlost huntracked => hkeeps (h.answered taskId hlost huntracked)
  case apart => exact h.apart
  case copied => exact h.copied
  case known => exact h.known
  case unique => exact h.unique
  case nodup => exact h.nodup
  case tracked => exact h.tracked

/-- An execution moves on; it does not come back into progress. -/
theorem HeartbeatInv.setStage (h : HeartbeatInv workerId s) {n : ℕ} {e : Execution}
    (hn : s.executions[n]? = some e) {stage : ExecutionStage}
    (hstage : ({ e with stage := stage } : Execution).inProgress = true → e.inProgress = true) :
    HeartbeatInv workerId (s.setStage n e stage) := by
  have hback : ∀ (m : ℕ) (e' : Execution), (s.setStage n e stage).executions[m]? = some e' →
      e'.inProgress = true →
      ∃ e₀, s.executions[m]? = some e₀ ∧ e₀.inProgress = true ∧ e₀.taskId = e'.taskId := by
    intro m e' hm hprogress
    rcases Machine.getElem?_set_cases hm with ⟨rfl, rfl⟩ | ⟨-, hold⟩
    · exact ⟨e, hn, hstage hprogress, rfl⟩
    · exact ⟨e', hold, hprogress, rfl⟩
  have hmem : ∀ e' ∈ (s.setStage n e stage).executions, e'.inProgress = true →
      ∃ e₀ ∈ s.executions, e₀.inProgress = true ∧ e₀.taskId = e'.taskId := by
    intro e' he' hprogress
    obtain ⟨m, hm⟩ := List.mem_iff_getElem?.mp he'
    obtain ⟨e₀, hm₀, hprogress₀, htask⟩ := hback m e' hm hprogress
    exact ⟨e₀, List.mem_of_getElem? hm₀, hprogress₀, htask⟩
  constructor
  case tasks => exact h.tasks
  case lost => exact h.lost
  case answered => exact h.answered
  case apart => exact h.apart
  case copied => exact h.copied
  case known =>
    intro e' he' hprogress
    obtain ⟨e₀, he₀, hprogress₀, htask⟩ := hmem e' he' hprogress
    rw [← htask]
    exact h.known e₀ he₀ hprogress₀
  case unique =>
    intro k m e₁ e₂ hk hm hprogress hprogress' htask
    obtain ⟨e₁', hk', hprog, hid⟩ := hback k e₁ hk hprogress
    obtain ⟨e₂', hm', hprog', hid'⟩ := hback m e₂ hm hprogress'
    exact h.unique k m e₁' e₂' hk' hm' hprog hprog' (by rw [hid, hid', htask])
  case nodup => exact h.nodup
  case tracked =>
    intro taskId htask
    obtain ⟨hknown, hnone⟩ := h.tracked taskId htask
    refine ⟨hknown, ?_⟩
    intro e' he' hid
    by_contra hprogress
    rw [Bool.not_eq_false] at hprogress
    obtain ⟨e₀, he₀, hprogress₀, hid₀⟩ := hmem e' he' hprogress
    rw [hnone e₀ he₀ (hid₀.trans hid)] at hprogress₀
    cases hprogress₀

/-- The end of an execution takes its task, and no other one's, out of both sets. -/
theorem HeartbeatInv.release (h : HeartbeatInv workerId s) {n : ℕ} {e : Execution}
    (hn : s.executions[n]? = some e) (hprogress : e.inProgress = true)
    (error : Option ExecutionError) : HeartbeatInv workerId (s.releaseStep n e error) := by
  have hmoved : ∀ stage, HeartbeatInv workerId (s.setStage n e stage) :=
    fun _ => h.setStage hn fun _ => hprogress
  have hover : ∀ (m : ℕ) (e' : Execution), (s.releaseStep n e error).executions[m]? = some e' →
      e'.inProgress = true → e'.taskId ≠ e.taskId := by
    intro m e' hm hprogress' htask
    rcases Machine.getElem?_set_cases hm with ⟨rfl, rfl⟩ | ⟨hne, hold⟩
    · cases error with
      | none => cases hprogress'
      | some error => cases hprogress'
    · exact hne (h.unique m n e' e hold hn hprogress' hprogress htask)
  have hkeep : ∀ {taskId}, taskId ≠ e.taskId →
      taskId ∈ s.activeTaskIds ∨ taskId ∈ s.lostTaskIds →
      taskId ∈ (s.releaseStep n e error).activeTaskIds ∨
        taskId ∈ (s.releaseStep n e error).lostTaskIds := by
    intro taskId hne hknown
    simpa [ScanProcess.releaseStep, hne] using hknown
  constructor
  case tasks => exact h.tasks
  case lost => exact fun taskId hlost => h.lost taskId (List.mem_of_mem_filter hlost)
  case answered => exact h.answered
  case apart =>
    intro taskId hactive hlost
    exact h.apart taskId (List.mem_of_mem_filter hactive) (List.mem_of_mem_filter hlost)
  case copied =>
    intro taskId hcopied hlost
    exact h.copied taskId hcopied (List.mem_of_mem_filter hlost)
  case known =>
    intro e' he' hprogress'
    obtain ⟨m, hm⟩ := List.mem_iff_getElem?.mp he'
    exact hkeep (hover m e' hm hprogress') ((hmoved _).known e' he' hprogress')
  case unique => exact (hmoved _).unique
  case nodup => exact h.nodup
  case tracked =>
    intro taskId htask
    obtain ⟨hknown, hnone⟩ := h.tracked taskId htask
    refine ⟨hkeep ?_ hknown, ((hmoved _).tracked taskId htask).2⟩
    rintro rfl
    rw [hnone e (List.mem_of_getElem? hn) rfl] at hprogress
    cases hprogress

/-! ## Steps of the dispatcher and the heartbeat -/

theorem HeartbeatInv.claim (h : HeartbeatInv settings.workerId s) {available : ℤ}
    {now wall : Timestamp} {s' : ScanProcess}
    (hstep : s.claimStep settings available now wall = some s') :
    HeartbeatInv settings.workerId s' := by
  unfold ScanProcess.claimStep at hstep
  split_ifs at hstep with hidle
  rw [not_not] at hidle
  simp only [Option.some.injEq] at hstep
  set call : Call := ⟨now, wall, .claimScanTasks settings.workerId available settings.maxWorkers
    settings.leaseSeconds⟩ with hcall
  set taskIds := (claimScanTasks settings.workerId available settings.maxWorkers
    settings.leaseSeconds now wall s.journal.database).1 with htaskIds
  have huntracked : s'.dispatcher.untracked = taskIds ∧ s'.dispatcher.tracked = [] := by
    rw [← hstep]
    dsimp only
    split_ifs with hnil
    · exact ⟨hnil.symm, rfl⟩
    · exact ⟨rfl, rfl⟩
  have hkeeps : ∀ {taskId}, taskId ∉ taskIds → s.Disowned settings.workerId taskId →
      s'.Disowned settings.workerId taskId := by
    intro taskId hnot hdisowned
    have hmoved : (s.transact call).Disowned settings.workerId taskId := by
      apply hdisowned.transact
      · rintro _ _ _ ⟨⟩
        exact hnot
      · intro _ _ htransaction
        cases htransaction
    rw [← hstep]
    exact hmoved
  have hbefore : ∀ taskId, taskId ∉ s.dispatcher.untracked := by
    intro taskId
    rw [hidle]
    exact List.not_mem_nil
  constructor
  case tasks =>
    rw [← hstep]
    obtain ⟨_, hevolves, -⟩ := perform_evolves h.tasks call
    exact h.tasks.evolve hevolves
  case lost =>
    intro taskId hlost hnot
    rw [huntracked.1] at hnot
    apply hkeeps hnot
    rw [← hstep] at hlost
    exact h.lost taskId hlost (hbefore taskId)
  case answered =>
    intro taskId hanswered hnot
    rw [huntracked.1] at hnot
    apply hkeeps hnot
    rw [← hstep] at hanswered
    exact h.answered taskId hanswered (hbefore taskId)
  case apart =>
    rw [← hstep]
    exact h.apart
  case copied =>
    rw [← hstep]
    exact h.copied
  case known =>
    rw [← hstep]
    exact h.known
  case unique =>
    rw [← hstep]
    exact h.unique
  case nodup =>
    rw [huntracked.1, huntracked.2]
    exact ⟨nodup_claimScanTasks h.tasks, List.nodup_nil⟩
  case tracked =>
    intro taskId htask
    rw [huntracked.2] at htask
    cases htask

theorem HeartbeatInv.track (h : HeartbeatInv workerId s) {taskIds : List ℕ} {claim : ℕ}
    (hdispatcher : s.dispatcher = .claimed taskIds claim) (hfresh : s.tracksFresh .track = true) :
    HeartbeatInv workerId { s with
      dispatcher := .submitting taskIds claim
      activeTaskIds := s.activeTaskIds ++ taskIds
      lostTaskIds := s.lostTaskIds.filter (· ∉ taskIds) } := by
  have huntracked : s.dispatcher.untracked = taskIds := by rw [hdispatcher]; rfl
  have hcond : ∀ taskId ∈ taskIds, taskId ∉ s.heartbeat.answered ∧
      ∀ e ∈ s.executions, e.taskId = taskId → e.inProgress = false := by
    intro taskId htask
    simp only [ScanProcess.tracksFresh, huntracked, List.all_eq_true, Bool.and_eq_true,
      decide_eq_true_eq] at hfresh
    obtain ⟨hanswered, hover⟩ := hfresh taskId htask
    refine ⟨hanswered, fun e he hid => ?_⟩
    simpa [hid] using hover e he
  have hlostMem : ∀ {taskId}, taskId ∈ s.lostTaskIds.filter (· ∉ taskIds) →
      taskId ∈ s.lostTaskIds ∧ taskId ∉ taskIds := by
    intro taskId hlost
    simpa using hlost
  have hkeep : ∀ {taskId}, taskId ∈ s.activeTaskIds ∨ taskId ∈ s.lostTaskIds →
      taskId ∈ s.activeTaskIds ++ taskIds ∨ taskId ∈ s.lostTaskIds.filter (· ∉ taskIds) := by
    intro taskId hknown
    by_cases htask : taskId ∈ taskIds
    · exact Or.inl (List.mem_append_right _ htask)
    · rcases hknown with hactive | hlost
      · exact Or.inl (List.mem_append_left _ hactive)
      · right
        simp [hlost, htask]
  constructor
  case tasks => exact h.tasks
  case lost =>
    intro taskId hlost _
    obtain ⟨hlost, hnot⟩ := hlostMem hlost
    exact h.lost taskId hlost (by rwa [huntracked])
  case answered =>
    intro taskId hanswered _
    apply h.answered taskId hanswered
    rw [huntracked]
    exact fun htask => (hcond taskId htask).1 hanswered
  case apart =>
    intro taskId hactive hlost
    obtain ⟨hlost, hnot⟩ := hlostMem hlost
    rcases List.mem_append.mp hactive with hactive | htask
    · exact h.apart taskId hactive hlost
    · exact hnot htask
  case copied => exact fun taskId hcopied hlost => h.copied taskId hcopied (hlostMem hlost).1
  case known => exact fun e he hprogress => hkeep (h.known e he hprogress)
  case unique => exact h.unique
  case nodup =>
    have hnodup := h.nodup.1
    rw [huntracked] at hnodup
    exact ⟨List.nodup_nil, hnodup⟩
  case tracked =>
    intro taskId (htask : taskId ∈ taskIds)
    exact ⟨Or.inl (List.mem_append_right _ htask), (hcond taskId htask).2⟩

theorem HeartbeatInv.submit (h : HeartbeatInv workerId s) {taskId claim : ℕ} {rest : List ℕ}
    (hdispatcher : s.dispatcher = .submitting (taskId :: rest) claim) :
    HeartbeatInv workerId { s with
      dispatcher := .submitting rest claim
      executions := s.executions ++ [{ taskId, claim }] } := by
  have htracked : s.dispatcher.tracked = taskId :: rest := by rw [hdispatcher]; rfl
  have huntracked : s.dispatcher.untracked = [] := by rw [hdispatcher]; rfl
  have hnodup := h.nodup.2
  rw [htracked, List.nodup_cons] at hnodup
  obtain ⟨hknown, hnone⟩ := h.tracked taskId (by rw [htracked]; exact List.mem_cons_self)
  constructor
  case tasks => exact h.tasks
  case lost => exact fun id hlost _ => h.lost id hlost (by rw [huntracked]; exact List.not_mem_nil)
  case answered =>
    exact fun id hanswered _ => h.answered id hanswered (by rw [huntracked]; exact List.not_mem_nil)
  case apart => exact h.apart
  case copied => exact h.copied
  case known =>
    intro e he hprogress
    rcases List.mem_append.mp he with hold | hnew
    · exact h.known e hold hprogress
    · rw [List.mem_singleton.mp hnew]
      exact hknown
  case unique =>
    have hother : ∀ (n : ℕ) (e : Execution), s.executions[n]? = some e → e.inProgress = true →
        e.taskId ≠ taskId := by
      intro n e hn hprogress hid
      rw [hnone e (List.mem_of_getElem? hn) hid] at hprogress
      cases hprogress
    intro n m e e' hn hm hprogress hprogress' htask
    rcases Machine.getElem?_append_cases hn with hn' | ⟨rfl, rfl⟩ <;>
      rcases Machine.getElem?_append_cases hm with hm' | ⟨rfl, rfl⟩
    · exact h.unique n m e e' hn' hm' hprogress hprogress' htask
    · exact absurd htask (hother n e hn' hprogress)
    · exact absurd htask.symm (hother m e' hm' hprogress')
    · rfl
  case nodup => exact ⟨List.nodup_nil, hnodup.2⟩
  case tracked =>
    intro id (hid : id ∈ rest)
    obtain ⟨hknown, hnone⟩ := h.tracked id (by rw [htracked]; exact List.mem_cons_of_mem _ hid)
    refine ⟨hknown, ?_⟩
    intro e he htask
    rcases List.mem_append.mp he with hold | hnew
    · exact hnone e hold htask
    · rw [List.mem_singleton.mp hnew] at htask
      subst htask
      exact absurd hid hnodup.1

/-- The copy is renewed; what the answer calls lost has no live lease. -/
theorem HeartbeatInv.renew (h : HeartbeatInv settings.workerId s) {taskIds : List ℕ}
    (hheartbeat : s.heartbeat = .renewing taskIds) (now wall : Timestamp) :
    HeartbeatInv settings.workerId { s.transact ⟨now, wall, .renewScanLeases settings.workerId taskIds
        settings.leaseSeconds⟩ with
      heartbeat := .marking (renewScanLeases settings.workerId taskIds settings.leaseSeconds now
        s.journal.database).1 } := by
  set call : Call := ⟨now, wall, .renewScanLeases settings.workerId taskIds settings.leaseSeconds⟩
    with hcall
  have hcopied : s.heartbeat.copied = taskIds := by rw [hheartbeat]; rfl
  constructor
  case tasks =>
    obtain ⟨_, hevolves, -⟩ := perform_evolves h.tasks call
    exact h.tasks.evolve hevolves
  case lost =>
    intro taskId hlost huntracked
    apply (h.lost taskId hlost huntracked).transact
    · intro _ _ _ htransaction
      cases htransaction
    · rintro _ _ ⟨⟩ hmem
      exact h.copied taskId (by rwa [hcopied]) hlost
  case answered =>
    intro taskId hanswered _ later hreaches
    exact (unheld_of_lost hanswered).later (ScanProcess.Reaches.of_transact hreaches).2
  case apart => exact h.apart
  case copied => exact fun _ hmem => absurd hmem List.not_mem_nil
  case known => exact h.known
  case unique => exact h.unique
  case nodup => exact h.nodup
  case tracked => exact h.tracked

theorem HeartbeatInv.markLost (h : HeartbeatInv workerId s) {lost : List ℕ}
    (hheartbeat : s.heartbeat = .marking lost) :
    HeartbeatInv workerId { s with
      heartbeat := .waiting
      activeTaskIds := s.activeTaskIds.filter (· ∉ lost)
      lostTaskIds := s.lostTaskIds ++ lost } := by
  have hanswered : s.heartbeat.answered = lost := by rw [hheartbeat]; rfl
  have hkeep : ∀ {taskId}, taskId ∈ s.activeTaskIds ∨ taskId ∈ s.lostTaskIds →
      taskId ∈ s.activeTaskIds.filter (· ∉ lost) ∨ taskId ∈ s.lostTaskIds ++ lost := by
    intro taskId hknown
    by_cases hlost : taskId ∈ lost
    · exact Or.inr (List.mem_append_right _ hlost)
    · rcases hknown with hactive | hold
      · left
        simp [hactive, hlost]
      · exact Or.inr (List.mem_append_left _ hold)
  constructor
  case tasks => exact h.tasks
  case lost =>
    intro taskId hlost huntracked
    rcases List.mem_append.mp hlost with hold | hnew
    · exact h.lost taskId hold huntracked
    · exact h.answered taskId (by rwa [hanswered]) huntracked
  case answered => exact fun _ hmem => absurd hmem List.not_mem_nil
  case apart =>
    intro taskId hactive hlost
    obtain ⟨hactive, hnot⟩ := List.mem_filter.mp hactive
    rcases List.mem_append.mp hlost with hold | hnew
    · exact h.apart taskId hactive hold
    · exact of_decide_eq_true hnot hnew
  case copied => exact fun _ hmem => absurd hmem List.not_mem_nil
  case known => exact fun e he hprogress => hkeep (h.known e he hprogress)
  case unique => exact h.unique
  case nodup => exact h.nodup
  case tracked =>
    intro taskId htask
    obtain ⟨hknown, hnone⟩ := h.tracked taskId htask
    exact ⟨hkeep hknown, hnone⟩

/-! ## Steps of an execution -/

/-- An execution moves on, after a transaction on its task or without one, or it releases its
task. -/
theorem executionStep_cases {n : ℕ} {e : Execution} {a : ProcessAction} {s' : ScanProcess}
    (hstep : s.executionStep settings n e a = some s') :
    (∃ stage, s' = s.setStage n e stage ∧
      (({ e with stage := stage } : Execution).inProgress = true → e.inProgress = true)) ∨
    (∃ call stage, s' = (s.transact call).setStage n e stage ∧
      call.transaction.settlesOrForeign settings.workerId = true ∧
      (({ e with stage := stage } : Execution).inProgress = true → e.inProgress = true)) ∨
    ∃ error, e.stage = .releasing error ∧ s' = s.releaseStep n e error := by
  have hmove : ∀ {stage}, e.inProgress = true → ∃ stage', s.setStage n e stage = s.setStage n e stage' ∧
      (({ e with stage := stage' } : Execution).inProgress = true → e.inProgress = true) :=
    fun {stage} hprogress => ⟨stage, rfl, fun _ => hprogress⟩
  cases a with
  | checkLease _ now =>
    simp only [ScanProcess.executionStep] at hstep
    split_ifs at hstep with hstage
    have hprogress : e.inProgress = true := by simp [Execution.inProgress, not_not.mp hstage]
    split at hstep
    · cases hstep
      exact Or.inl (hmove hprogress)
    · cases hstep
      exact Or.inl (hmove hprogress)
  | acquire _ =>
    simp only [ScanProcess.executionStep] at hstep
    split at hstep
    · rename_i hstage
      have hprogress : e.inProgress = true := by simp [Execution.inProgress, hstage]
      split_ifs at hstep
      · cases hstep
        exact Or.inl (hmove hprogress)
      · cases hstep
        exact Or.inl (hmove hprogress)
    · cases hstep
  | loadTarget _ =>
    simp only [ScanProcess.executionStep] at hstep
    split at hstep
    · rename_i hstage
      have hprogress : e.inProgress = true := by simp [Execution.inProgress, hstage]
      split at hstep
      · cases hstep
        exact Or.inl (hmove hprogress)
      · split_ifs at hstep
        · cases hstep
          exact Or.inl (hmove hprogress)
        · cases hstep
          exact Or.inl (hmove hprogress)
    · cases hstep
  | collect _ outcome =>
    simp only [ScanProcess.executionStep] at hstep
    split at hstep
    · rename_i hstage
      have hprogress : e.inProgress = true := by simp [Execution.inProgress, hstage]
      split_ifs at hstep
      cases hstep
      exact Or.inl (hmove hprogress)
    · cases hstep
  | raiseIfLost _ =>
    simp only [ScanProcess.executionStep] at hstep
    split at hstep
    · rename_i hstage
      have hprogress : e.inProgress = true := by simp [Execution.inProgress, hstage]
      split_ifs at hstep
      · cases hstep
        exact Or.inl (hmove hprogress)
      · cases hstep
        exact Or.inl (hmove hprogress)
    · cases hstep
  | persist _ now wall =>
    simp only [ScanProcess.executionStep] at hstep
    split at hstep
    · rename_i outcome hstage
      have hprogress : e.inProgress = true := by simp [Execution.inProgress, hstage]
      cases hstep
      exact Or.inr (Or.inl ⟨_, _, rfl, rfl, fun _ => hprogress⟩)
    · cases hstep
  | recordConflict _ now wall =>
    simp only [ScanProcess.executionStep] at hstep
    split at hstep
    · rename_i outcome hstage
      have hprogress : e.inProgress = true := by simp [Execution.inProgress, hstage]
      cases hstep
      exact Or.inr (Or.inl ⟨_, _, rfl, rfl, fun _ => hprogress⟩)
    · cases hstep
  | release _ =>
    simp only [ScanProcess.executionStep] at hstep
    split at hstep
    · rename_i error hstage
      cases hstep
      exact Or.inr (Or.inr ⟨error, hstage, rfl⟩)
    · cases hstep
  | fail _ now wall =>
    simp only [ScanProcess.executionStep] at hstep
    split at hstep
    · cases hstep
      exact Or.inr (Or.inl ⟨_, _, rfl, rfl, fun hfinished => by cases hfinished⟩)
    · cases hstep
  | databaseFails _ conflict =>
    simp only [ScanProcess.executionStep] at hstep
    left
    unfold Execution.inProgress
    grind
  | other | claim | track | submit | beat | renew | renewFails | markLost => cases hstep

theorem HeartbeatInv.executionStep (h : HeartbeatInv settings.workerId s) {n : ℕ} {e : Execution}
    (hn : s.executions[n]? = some e) {a : ProcessAction} {s' : ScanProcess}
    (hstep : s.executionStep settings n e a = some s') : HeartbeatInv settings.workerId s' := by
  rcases executionStep_cases hstep with ⟨stage, rfl, hstage⟩ | ⟨call, stage, rfl, hcall, hstage⟩ |
    ⟨error, hstage, rfl⟩
  · exact h.setStage hn hstage
  · exact (h.transact hcall).setStage hn hstage
  · exact h.release hn (by simp [Execution.inProgress, hstage]) error

/-! ## Every run -/

theorem settlesOrForeign_of_worker {workerId : String} {transaction : Transaction}
    (h : transaction.worker? ≠ some workerId) : transaction.settlesOrForeign workerId = true := by
  cases transaction with
  | claimScanTasks claimant => simpa [Transaction.settlesOrForeign, Transaction.worker?] using h
  | renewScanLeases renewer => simpa [Transaction.settlesOrForeign, Transaction.worker?] using h
  | _ => rfl

theorem HeartbeatInv.serviceStep (h : HeartbeatInv settings.workerId s) {a : ProcessAction}
    (hfresh : s.tracksFresh a = true) {s' : ScanProcess}
    (hstep : s.serviceStep settings a = some s') : HeartbeatInv settings.workerId s' := by
  cases a with
  | other call =>
    simp only [ScanProcess.serviceStep] at hstep
    split_ifs at hstep with hworker
    cases hstep
    exact h.transact (settlesOrForeign_of_worker hworker)
  | claim available now wall => exact h.claim hstep
  | track =>
    simp only [ScanProcess.serviceStep, ScanProcess.step, ProcessAction.execution?] at hstep
    split at hstep
    · rename_i hdispatcher
      cases hstep
      exact h.track hdispatcher hfresh
    · cases hstep
  | submit =>
    simp only [ScanProcess.serviceStep, ScanProcess.step, ProcessAction.execution?] at hstep
    split at hstep
    · rename_i hdispatcher
      cases hstep
      have huntracked : s.dispatcher.untracked = [] := by rw [hdispatcher]; rfl
      exact ⟨h.tasks, fun id hid _ => h.lost id hid (by simp [huntracked]),
        fun id hid _ => h.answered id hid (by simp [huntracked]), h.apart, h.copied, h.known, h.unique,
        ⟨List.nodup_nil, List.nodup_nil⟩, fun _ hid => absurd hid List.not_mem_nil⟩
    · rename_i hdispatcher
      cases hstep
      exact h.submit hdispatcher
    · cases hstep
  | beat =>
    simp only [ScanProcess.serviceStep, ScanProcess.step, ProcessAction.execution?] at hstep
    split_ifs at hstep
    cases hstep
    exact ⟨h.tasks, h.lost, fun _ hid => absurd hid List.not_mem_nil, h.apart, h.apart, h.known,
      h.unique, h.nodup, h.tracked⟩
  | renew now wall =>
    simp only [ScanProcess.serviceStep, ScanProcess.step, ProcessAction.execution?] at hstep
    split at hstep
    · rename_i hheartbeat
      cases hstep
      exact h.renew hheartbeat now wall
    · cases hstep
  | renewFails =>
    simp only [ScanProcess.serviceStep, ScanProcess.step, ProcessAction.execution?] at hstep
    split at hstep
    · cases hstep
      exact ⟨h.tasks, h.lost, fun _ hid => absurd hid List.not_mem_nil, h.apart,
        fun _ hid => absurd hid List.not_mem_nil, h.known, h.unique, h.nodup, h.tracked⟩
    · cases hstep
  | markLost =>
    simp only [ScanProcess.serviceStep, ScanProcess.step, ProcessAction.execution?] at hstep
    split at hstep
    · rename_i hheartbeat
      cases hstep
      exact h.markLost hheartbeat
    · cases hstep
  | checkLease n | acquire n | loadTarget n | collect n | raiseIfLost n | persist n
  | recordConflict n | release n | fail n | databaseFails n =>
    simp only [ScanProcess.serviceStep, ScanProcess.step, ProcessAction.execution?] at hstep
    split at hstep
    · rename_i hn
      exact h.executionStep hn hstep
    · cases hstep

/-- In every run in which each claim reaches the sets when none of its tasks is still executed
here or waits in an answer of the heartbeat, the sets agree with the leases and the executions in
every state in which no claim is on its way to them. -/
theorem sets_agree {db : Database} (h₀ : TasksOk db) {actions : List ProcessAction}
    (hmeets : Machine.Meets (ScanProcess.serviceStep settings)
      (fun s a => s.tracksFresh a = true) { journal := ⟨db, []⟩ } actions)
    (hrun : Machine.run (ScanProcess.serviceStep settings) { journal := ⟨db, []⟩ } actions = some s)
    (hclaimed : ∀ taskIds claim, s.dispatcher ≠ .claimed taskIds claim) :
    s.SetsAgree settings.workerId := by
  have hstart : HeartbeatInv settings.workerId { journal := ⟨db, []⟩ } := by
    constructor
    case tasks => exact h₀
    case lost => exact fun _ hid => absurd hid List.not_mem_nil
    case answered => exact fun _ hid => absurd hid List.not_mem_nil
    case apart => exact fun _ hid => absurd hid List.not_mem_nil
    case copied => exact fun _ hid => absurd hid List.not_mem_nil
    case known => exact fun _ he => absurd he List.not_mem_nil
    case unique => simp
    case nodup => exact ⟨List.nodup_nil, List.nodup_nil⟩
    case tracked => exact fun _ hid => absurd hid List.not_mem_nil
  have hinv := Machine.run_invariant_of_meets (HeartbeatInv settings.workerId)
    (fun _ _ _ hinv hfresh hstep => hinv.serviceStep hfresh hstep) actions _ s hstart hmeets hrun
  have huntracked : s.dispatcher.untracked = [] := by
    cases hdispatcher : s.dispatcher with
    | claimed taskIds claim => exact absurd hdispatcher (hclaimed taskIds claim)
    | idle => rfl
    | submitting taskIds claim => rfl
  constructor
  case lost =>
    intro taskId hlost
    exact hinv.lost taskId hlost (by simp [huntracked])
  case known => exact hinv.known

/-- The heartbeat finds the lease over and says so before the execution ends; then the process
claims the task again. -/
def releasedThenReclaimed : List ProcessAction :=
  firstExecution ++ [.beat, .renew 90000000 90000000, .markLost,
    .collect 0 (collectedOutcome 2 90000001), .raiseIfLost 0, .release 0,
    .claim 2 90000002 90000002, .track, .submit, .submit, .checkLease 1 90000003]

theorem released_task_is_reclaimed :
    ∃ s, Machine.run (ScanProcess.serviceStep oneWorker) { journal := ⟨queuedScan, []⟩ }
        releasedThenReclaimed = some s ∧
      s.activeTaskIds = [1] ∧ s.lostTaskIds = [] ∧ s.SetsAgree "w" := by
  have hmeets : Machine.Meets (ScanProcess.serviceStep oneWorker)
      (fun s a => s.tracksFresh a = true) { journal := ⟨queuedScan, []⟩ }
      releasedThenReclaimed := by decide +kernel
  have hrun : ((Machine.run (ScanProcess.serviceStep oneWorker) { journal := ⟨queuedScan, []⟩ }
      releasedThenReclaimed).any fun s => s.activeTaskIds = [1] && s.lostTaskIds = [] &&
        s.dispatcher = .idle) = true := by decide +kernel
  obtain ⟨s, hs, hsets⟩ := (Option.any_eq_true _ _).mp hrun
  simp only [Bool.and_eq_true, decide_eq_true_eq] at hsets
  obtain ⟨⟨hactive, hlost⟩, hidle⟩ := hsets
  have hok : TasksOk queuedScan := ⟨by decide, by decide, by decide⟩
  refine ⟨s, hs, hactive, hlost, sets_agree hok hmeets hs ?_⟩
  intro _ _ hclaimed
  rw [hidle] at hclaimed
  cases hclaimed

/-- The answer that the first execution's task is lost comes after the task has been claimed
again. -/
def staleAnswer : List ProcessAction :=
  firstExecution ++ [.beat, .renew 90000000 90000000, .collect 0 (collectedOutcome 2 90000001),
    .raiseIfLost 0, .persist 0 90000001 90000001, .release 0, .claim 2 90000002 90000002, .track,
    .markLost]

/-- The first execution ends after its task has been claimed again. -/
def staleRelease : List ProcessAction :=
  reclaimedWhileCollecting ++ [.collect 0 (collectedOutcome 2 90000001), .raiseIfLost 0,
    .databaseFails 0 false, .release 0]

theorem reclaimed_task_is_disowned :
    (∃ s, Machine.run (ScanProcess.serviceStep oneWorker) { journal := ⟨queuedScan, []⟩ }
        staleAnswer = some s ∧ s.heartbeat = .waiting ∧ s.dispatcher = .submitting [1] 3 ∧
      s.lostTaskIds = [1] ∧ (∀ event ∈ s.journal.events, event.1.now ≤ 90000002) ∧
      (∃ t ∈ s.journal.database.scanTasks, t.id = 1 ∧ t.isHeldBy "w" 90000002 = true) ∧
      ¬ s.SetsAgree "w") ∧
    ∃ s, Machine.run (ScanProcess.serviceStep oneWorker) { journal := ⟨queuedScan, []⟩ }
        staleRelease = some s ∧ s.heartbeat = .waiting ∧ s.dispatcher = .idle ∧
      (∃ e ∈ s.executions, e.taskId = 1 ∧ e.inProgress = true) ∧
      s.activeTaskIds = [] ∧ s.lostTaskIds = [] ∧ ¬ s.SetsAgree "w" := by
  constructor
  · have hrun : ((Machine.run (ScanProcess.serviceStep oneWorker) { journal := ⟨queuedScan, []⟩ }
        staleAnswer).any fun s => decide (s.heartbeat = .waiting ∧ s.dispatcher = .submitting [1] 3 ∧
          s.lostTaskIds = [1] ∧ (∀ event ∈ s.journal.events, event.1.now ≤ 90000002) ∧
          ∃ t ∈ s.journal.database.scanTasks, t.id = 1 ∧ t.isHeldBy "w" 90000002 = true)) = true := by
      decide +kernel
    obtain ⟨s, hs, hstate⟩ := (Option.any_eq_true _ _).mp hrun
    obtain ⟨hwaiting, hsubmitting, hlost, hnow, t, ht, hid, hheld⟩ := of_decide_eq_true hstate
    refine ⟨s, hs, hwaiting, hsubmitting, hlost, hnow, ⟨t, ht, hid, hheld⟩, ?_⟩
    intro hagree
    have hnot := hagree.lost 1 (by simp [hlost]) 90000002 hnow t ht hid
    rw [hheld] at hnot
    cases hnot
  · have hrun : ((Machine.run (ScanProcess.serviceStep oneWorker) { journal := ⟨queuedScan, []⟩ }
        staleRelease).any fun s => decide (s.heartbeat = .waiting ∧ s.dispatcher = .idle ∧
          (∃ e ∈ s.executions, e.taskId = 1 ∧ e.inProgress = true) ∧
          s.activeTaskIds = [] ∧ s.lostTaskIds = [])) = true := by decide +kernel
    obtain ⟨s, hs, hstate⟩ := (Option.any_eq_true _ _).mp hrun
    obtain ⟨hwaiting, hidle, ⟨e, he, hid, hprogress⟩, hactive, hlost⟩ := of_decide_eq_true hstate
    refine ⟨s, hs, hwaiting, hidle, ⟨e, he, hid, hprogress⟩, hactive, hlost, ?_⟩
    intro hagree
    have hknown := hagree.known e he hprogress
    simp [hactive, hlost] at hknown

end ConnectionTopology
