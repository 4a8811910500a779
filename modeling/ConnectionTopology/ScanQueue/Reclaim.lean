import ConnectionTopology.ScanQueue.Executions
import ConnectionTopology.ScanQueue.Fencing

/-!
# Claiming a task again in the same process

Settling is fenced by `worker_id`, which all executions of a process share. As long as a
process does not claim a task of which one of its executions may still settle, the worker
tells the execution, and every task is settled by the execution of its latest claim. When a
task is claimed again over a slow execution, the old one settles it, or its device lock makes
the new one fail.
-/
namespace ConnectionTopology

/-! ## The latest claim -/

/-- The position of the last event in which a worker of the given kind claimed the task. -/
def latestClaimBy (p : String → Bool) (events : List (Call × Reply)) (taskId : ℕ) : Option ℕ :=
  (events.zipIdx.filter fun e => (claimOf taskId e.1).any p).getLast?.map (·.2)

def latestClaim (events : List (Call × Reply)) (taskId : ℕ) : Option ℕ :=
  latestClaimBy (fun _ => true) events taskId

theorem latestClaimBy_append (p : String → Bool) (events : List (Call × Reply))
    (event : Call × Reply) (taskId : ℕ) :
    latestClaimBy p (events ++ [event]) taskId =
      if (claimOf taskId event).any p then some events.length else latestClaimBy p events taskId := by
  unfold latestClaimBy
  rw [List.zipIdx_append, List.filter_append]
  split_ifs with h
  · simp [h]
  · simp [h]

/-- When the last claimant is of the kind, its claim is the latest one. -/
theorem latestClaimBy_of_lastClaim {p : String → Bool} {workerId : String} (hp : p workerId = true)
    {taskId : ℕ} (events : List (Call × Reply)) :
    lastClaim events taskId = some workerId →
      latestClaimBy p events taskId = latestClaim events taskId := by
  induction events using List.reverseRecOn with
  | nil => exact fun _ => rfl
  | append_singleton events event ih =>
    intro h
    rw [lastClaim_append] at h
    rw [latestClaim, latestClaimBy_append, latestClaimBy_append]
    cases hclaim : claimOf taskId event with
    | none =>
      rw [hclaim] at h
      simpa [latestClaim] using ih (by simpa using h)
    | some worker =>
      rw [hclaim] at h
      have hworker : worker = workerId := by simpa using h
      simp [hworker, hp]

/-! ## Condition and property -/

/-- The execution may still reach a settling transaction. -/
def Execution.unsettled (e : Execution) : Bool :=
  match e.stage with
  | .releasing none | .finished => false
  | _ => true

/-- The process claims no task of which one of its own executions may still settle. -/
def ScanProcess.claimsSettled (settings : QueueSettings) (s : ScanProcess) : ProcessAction → Bool
  | .claim available now wall =>
    (claimScanTasks settings.workerId available settings.maxWorkers settings.leaseSeconds now wall
      s.journal.database).1.all fun taskId =>
        s.executions.all fun e => e.taskId ≠ taskId || !e.unsettled
  | _ => true

/-- The row carries this outcome and its scan run. -/
def HasOutcome (outcome : ScanOutcome) (db : Database) (t : ScanTask) : Prop :=
  t.status = settledStatus outcome ∧ ∃ run ∈ db.scanRuns, t.scanRunId = some run.id ∧
    run.deviceId = outcome.deviceId ∧ run.status = outcome.status ∧
    run.startedAt = outcome.startedAt ∧ run.finishedAt = some outcome.finishedAt

/-- The row carries what the execution had to write. -/
def Execution.Wrote (e : Execution) (db : Database) (t : ScanTask) : Prop :=
  match e.stage with
  | .persisting outcome => HasOutcome outcome db t
  | .conflicted outcome => ∃ wall, HasOutcome (conflictOutcome outcome wall) db t
  | .failing _ => t.status = .failed
  | _ => False

/-- In this step a task of the process is settled only by the execution of its latest claim,
and no execution finds the device lock with another execution of its task. -/
structure SettledByLatest (workerId : String) (s : ScanProcess) (a : ProcessAction)
    (s' : ScanProcess) : Prop where
  settled : ∀ t ∈ s.journal.database.scanTasks, t.status = .running → t.workerId = some workerId →
    ∀ t' ∈ s'.journal.database.scanTasks, t'.id = t.id → t'.status.isTerminal = true →
      ∃ n e, a.execution? = some n ∧ s.executions[n]? = some e ∧ e.taskId = t.id ∧
        latestClaim s.journal.events t.id = some e.claim ∧ e.Wrote s'.journal.database t'
  unblocked : ∀ n e, a = .acquire n → s.executions[n]? = some e → ∀ m e', m ≠ n →
    s.executions[m]? = some e' → e'.taskId = e.taskId → e'.stage.lockedDevice = none

/-! ## What a transaction does to a running task -/

theorem settleTask_scanTasks (taskId : ℕ) (status : ScanTaskStatus) (f : ScanTask → ScanTask)
    (wall : Timestamp) (db : Database) : (settleTask taskId status f wall db).scanTasks =
      db.scanTasks.map fun t =>
        if t.id = taskId then { (f t).releaseLease with status := status } else t := by
  simp only [settleTask, refreshScanBatches_scanTasks, moveTask_scanTasks]

theorem persistOutcome_rows {workerId : String} {taskId : ℕ} {outcome : ScanOutcome}
    {now wall : Timestamp} {db db' : Database} {done : Bool}
    (hok : persistOutcome workerId taskId outcome now wall db = .ok (done, db')) :
    (∃ task, heldTask workerId taskId now db = some task) ∧
      ∃ g : ScanTask → ScanTask, db'.scanTasks = db.scanTasks.map g ∧
        ∀ t, (g t).id = t.id ∧ (t.id ≠ taskId → g t = t) ∧
          (t.id = taskId → HasOutcome outcome db' (g t)) := by
  unfold persistOutcome at hok
  split at hok
  · cases hok
  · rename_i task hheld
    obtain ⟨-, hid, -, -⟩ := heldTask_spec hheld
    split at hok
    · cases hok
    · rename_i run mid hadd
      have hrun : run = scanRunOf db.sequences.scanRuns outcome
          (outcome.connections.filter keepConnectionRecord).length := by
        unfold addScanOutcome at hadd
        split at hadd
        · cases hadd
        · cases hadd
          rfl
      obtain ⟨-, hruns, htasks, -⟩ := addScanOutcome_ok hadd
      cases hok
      have hrows := settleTask_scanTasks task.id (settledStatus outcome)
        (ScanTask.withOutcome run outcome) wall mid
      rw [htasks] at hrows
      refine ⟨⟨task, hheld⟩, _, hrows, ?_⟩
      intro t
      split_ifs with hrow
      · refine ⟨rfl, fun hne => absurd (hrow.trans hid) hne, fun _ => ⟨rfl, run, ?_, rfl, ?_⟩⟩
        · simp [settleTask, hruns]
        · rw [hrun]
          exact ⟨rfl, rfl, rfl, rfl⟩
      · exact ⟨rfl, fun _ => rfl, fun he => absurd (he.trans hid.symm) hrow⟩

theorem failUnexpectedTask_rows {workerId : String} {taskId : ℕ} {now wall : Timestamp}
    {db db' : Database} (hok : failUnexpectedTask workerId taskId now wall db = .ok db') :
    (∃ task, heldTask workerId taskId now db = some task) ∧
      ∃ g : ScanTask → ScanTask, db'.scanTasks = db.scanTasks.map g ∧
        ∀ t, (g t).id = t.id ∧ (t.id ≠ taskId → g t = t) ∧
          (t.id = taskId → (g t).status = .failed) := by
  unfold failUnexpectedTask at hok
  split at hok
  · cases hok
  · rename_i task hheld
    obtain ⟨-, hid, -, -⟩ := heldTask_spec hheld
    cases hok
    have hrows := settleTask_scanTasks task.id .failed (ScanTask.withInternalError wall) wall db
    refine ⟨⟨task, hheld⟩, _, hrows, ?_⟩
    intro t
    split_ifs with hrow
    · exact ⟨rfl, fun hne => absurd (hrow.trans hid) hne, fun _ => rfl⟩
    · exact ⟨rfl, fun _ => rfl, fun he => absurd (he.trans hid.symm) hrow⟩

/-- A claim leaves a task that is not terminal so. -/
theorem claimScanTasks_keeps_active {workerId : String} {localCapacity globalLimit : ℤ}
    {leaseSeconds : ℕ} {now wall : Timestamp} {db : Database} {taskIds : List ℕ}
    (h : NoneTerminal taskIds db) : NoneTerminal taskIds
      (claimScanTasks workerId localCapacity globalLimit leaseSeconds now wall db).2 := by
  unfold claimScanTasks
  split_ifs
  · exact h
  · intro t ht
    rw [refreshScanBatches_scanTasks] at ht
    have hswept : NoneTerminal taskIds (moveTasks resetExpiredScanTask
        ((db.scanTasks.filter (·.isExpired now)).map (·.id)) ([], db)).2 :=
      moveTasks_induction (P := NoneTerminal taskIds) _ _ h fun id _ db hdb => hdb.moveTask rfl
    exact moveTasks_induction (P := NoneTerminal taskIds) _ _ hswept
      (fun id _ db hdb => hdb.moveTask rfl) t ht

theorem renewScanLeases_keeps_active {workerId : String} {taskIds renewed : List ℕ}
    {leaseSeconds : ℕ} {now : Timestamp} {db : Database} (h : NoneTerminal taskIds db) :
    NoneTerminal taskIds (renewScanLeases workerId renewed leaseSeconds now db).2 := by
  unfold renewScanLeases
  split_ifs
  · exact h
  · intro t' ht' hid
    obtain ⟨t, ht, rfl⟩ := List.mem_map.mp ht'
    split_ifs at hid ⊢
    · exact h t ht hid
    · exact h t ht hid

theorem nodup_claimScanTasks {workerId : String} {localCapacity globalLimit : ℤ}
    {leaseSeconds : ℕ} {now wall : Timestamp} {db : Database} (h : TasksOk db) :
    (claimScanTasks workerId localCapacity globalLimit leaseSeconds now wall db).1.Nodup := by
  have hexpired : NoneTerminal ((db.scanTasks.filter (·.isExpired now)).map (·.id)) db := by
    apply h.noneTerminal
    intro t ht
    obtain ⟨hmem, hexp⟩ := List.mem_filter.mp ht
    simp only [ScanTask.isExpired, Bool.and_eq_true, decide_eq_true_eq] at hexp
    exact ⟨hmem, by rw [hexp.1]; rfl⟩
  have hswept := (h.evolve (evolves_sweep _ ([], db) hexpired)).nodup
  unfold claimScanTasks
  split_ifs
  · exact List.nodup_nil
  · dsimp only
    split_ifs
    · apply ((List.take_sublist _ _).map _).nodup
      apply ((List.perm_insertionSort _ _).map _).nodup_iff.mpr
      exact (List.filter_sublist.map _).nodup hswept
    · exact List.nodup_nil

theorem not_terminal_of_running {t : ScanTask} (h : t.status = .running) :
    t.status.isTerminal = false := by
  rw [h]
  rfl

theorem noneTerminal_of_running {db : Database} (h : TasksOk db) {t : ScanTask}
    (ht : t ∈ db.scanTasks) (hrunning : t.status = .running) : NoneTerminal [t.id] db := by
  intro u hu huid
  rw [h.unique hu ht (by simpa using huid)]
  exact not_terminal_of_running hrunning

/-- A running task of one worker is not settled by a transaction of another. -/
theorem perform_other_keeps_active {workerId other : String} {call : Call} {db : Database}
    (h : TasksOk db) (hother : call.transaction.worker? = some other) (hne : other ≠ workerId)
    {t t' : ScanTask} (ht : t ∈ db.scanTasks) (hrunning : t.status = .running)
    (howner : t.workerId = some workerId) (ht' : t' ∈ (perform call db).2.scanTasks)
    (hid : t'.id = t.id) : t'.status.isTerminal = false := by
  have hactive := noneTerminal_of_running h ht hrunning
  have hmem : t'.id ∈ [t.id] := by simp [hid]
  -- a settlement needs the row to be held by the other worker
  have hheld : ∀ {taskId now task}, heldTask other taskId now db = some task → t.id ≠ taskId := by
    intro taskId now task hheld hsame
    obtain ⟨htask, htaskid, -, hworker⟩ := heldTask_spec hheld
    rw [h.unique htask ht (htaskid.trans hsame.symm), howner] at hworker
    exact hne (Option.some.inj hworker).symm
  have hpersist : ∀ taskId outcome now wall,
      t' ∈ (Reply.commit .settled db (persistOutcome other taskId outcome now wall db)).2.scanTasks →
      t'.status.isTerminal = false := by
    intro taskId outcome now wall hrow
    cases hok : persistOutcome other taskId outcome now wall db with
    | error e =>
      rw [hok] at hrow
      exact hactive t' hrow hmem
    | ok result =>
      obtain ⟨⟨task, htask⟩, g, hrows, hg⟩ := persistOutcome_rows hok
      rw [hok] at hrow
      simp only [Reply.commit, hrows] at hrow
      obtain ⟨u, hu, rfl⟩ := List.mem_map.mp hrow
      obtain rfl := h.unique hu ht ((hg u).1.symm.trans hid)
      rw [(hg u).2.1 (hheld htask)]
      exact hactive u ht (by simp)
  obtain ⟨now, wall, transaction⟩ := call
  cases transaction with
  | claimScanTasks w localCapacity globalLimit leaseSeconds =>
    exact claimScanTasks_keeps_active hactive t' ht' hmem
  | renewScanLeases w taskIds leaseSeconds => exact renewScanLeases_keeps_active hactive t' ht' hmem
  | persistOutcome w taskId outcome =>
    obtain rfl : w = other := by simpa [Transaction.worker?] using hother
    exact hpersist taskId outcome now wall ht'
  | recordTransactionConflict w taskId outcome =>
    obtain rfl : w = other := by simpa [Transaction.worker?] using hother
    exact hpersist taskId (conflictOutcome outcome wall) now wall ht'
  | failUnexpectedTask w taskId =>
    obtain rfl : w = other := by simpa [Transaction.worker?] using hother
    cases hok : failUnexpectedTask w taskId now wall db with
    | error e =>
      simp only [perform, hok] at ht'
      exact hactive t' ht' hmem
    | ok db' =>
      obtain ⟨⟨task, htask⟩, g, hrows, hg⟩ := failUnexpectedTask_rows hok
      simp only [perform, hok, hrows] at ht'
      obtain ⟨u, hu, rfl⟩ := List.mem_map.mp ht'
      obtain rfl := h.unique hu ht ((hg u).1.symm.trans hid)
      rw [(hg u).2.1 (hheld htask)]
      exact hactive u ht (by simp)
  | enqueueDevice | createBatch | createImportScanBatch | cancelDevice => cases hother

/-! ## The invariant -/

/-- The tasks that the dispatcher has still to submit, and the claim that took them. -/
def DispatcherStage.toSubmit : DispatcherStage → List ℕ × ℕ
  | .idle => ([], 0)
  | .claimed taskIds claim | .submitting taskIds claim => (taskIds, claim)

/-- Every execution that may still settle belongs to the process's latest claim of its task,
and there is one of them per task. -/
structure ReclaimInv (workerId : String) (runs : ℕ) (s : ScanProcess) : Prop where
  fenced : Fenced runs s.journal
  latest : ∀ e ∈ s.executions, e.unsettled = true →
    latestClaimBy (· = workerId) s.journal.events e.taskId = some e.claim
  unique : ∀ (n m : ℕ) (e e' : Execution), s.executions[n]? = some e → s.executions[m]? = some e' →
    e.unsettled = true → e'.unsettled = true → e.taskId = e'.taskId → n = m
  nodup : s.dispatcher.toSubmit.1.Nodup
  waiting : ∀ taskId ∈ s.dispatcher.toSubmit.1,
    latestClaimBy (· = workerId) s.journal.events taskId = some s.dispatcher.toSubmit.2 ∧
      ∀ e ∈ s.executions, e.taskId = taskId → e.unsettled = false

variable {settings : QueueSettings} {runs : ℕ} {s : ScanProcess}

/-- An execution that holds a device lock may still settle. -/
theorem Execution.unsettled_of_lockedDevice {e : Execution} {deviceId : ℕ}
    (h : e.stage.lockedDevice = some deviceId) : e.unsettled = true := by
  unfold Execution.unsettled
  cases hstage : e.stage <;> simp_all [ExecutionStage.lockedDevice]

theorem worker_of_claimOf {taskId : ℕ} {call : Call} {reply : Reply} {workerId : String}
    (h : claimOf taskId (call, reply) = some workerId) :
    call.transaction.worker? = some workerId := by
  obtain ⟨now, wall, transaction⟩ := call
  cases transaction with
  | claimScanTasks =>
    cases reply with
    | claimed taskIds =>
      simp only [claimOf, Option.ite_none_right_eq_some] at h
      exact h.2
    | _ => cases h
  | _ => cases h

/-- Events in which the process claims nothing leave its latest claims alone. -/
theorem latestClaimBy_transact {call : Call} {workerId : String}
    (h : ∀ taskId reply, claimOf taskId (call, reply) ≠ some workerId) (taskId : ℕ) :
    latestClaimBy (· = workerId) (s.transact call).journal.events taskId =
      latestClaimBy (· = workerId) s.journal.events taskId := by
  simp only [ScanProcess.transact, latestClaimBy_append]
  rw [if_neg]
  intro hany
  obtain ⟨w, hw, hsame⟩ := (Option.any_eq_true _ _).mp hany
  exact h taskId _ (by simpa [decide_eq_true_eq.mp hsame] using hw)

theorem ReclaimInv.transact (h : ReclaimInv settings.workerId runs s) {call : Call}
    (hcall : ∀ taskId reply, claimOf taskId (call, reply) ≠ some settings.workerId) :
    ReclaimInv settings.workerId runs (s.transact call) := by
  constructor
  case fenced => exact h.fenced.step (Journal.step_eq_some.mpr rfl)
  case latest =>
    intro e he hunsettled
    rw [latestClaimBy_transact hcall]
    exact h.latest e he hunsettled
  case unique => exact h.unique
  case nodup => exact h.nodup
  case waiting =>
    intro taskId htask
    rw [latestClaimBy_transact hcall]
    exact h.waiting taskId htask

/-- An execution moves on; it does not become unsettled again. -/
theorem ReclaimInv.setStage (h : ReclaimInv settings.workerId runs s) {n : ℕ} {e : Execution}
    (hn : s.executions[n]? = some e) {stage : ExecutionStage}
    (hstage : ({ e with stage := stage } : Execution).unsettled = true → e.unsettled = true) :
    ReclaimInv settings.workerId runs (s.setStage n e stage) := by
  have hmem := List.mem_of_getElem? hn
  constructor
  case fenced => exact h.fenced
  case latest =>
    intro e' he' hunsettled
    rcases Machine.mem_set_cases he' with rfl | ⟨m, -, hm⟩
    · exact h.latest e hmem (hstage hunsettled)
    · exact h.latest e' (List.mem_of_getElem? hm) hunsettled
  case unique =>
    intro i j e₁ e₂ hi hj hun₁ hun₂ htask
    rcases Machine.getElem?_set_cases hi with ⟨rfl, rfl⟩ | ⟨-, hi'⟩ <;>
      rcases Machine.getElem?_set_cases hj with ⟨rfl, rfl⟩ | ⟨-, hj'⟩
    · rfl
    · exact h.unique i j e e₂ hn hj' (hstage hun₁) hun₂ htask
    · exact h.unique i j e₁ e hi' hn hun₁ (hstage hun₂) htask
    · exact h.unique i j e₁ e₂ hi' hj' hun₁ hun₂ htask
  case nodup => exact h.nodup
  case waiting =>
    intro taskId htask
    refine ⟨(h.waiting taskId htask).1, ?_⟩
    intro e' he' hid
    rcases Machine.mem_set_cases he' with rfl | ⟨m, -, hm⟩
    · by_contra hunsettled
      have hold := (h.waiting taskId htask).2 e hmem hid
      rw [hstage (by simpa using hunsettled)] at hold
      cases hold
    · exact (h.waiting taskId htask).2 e' (List.mem_of_getElem? hm) hid

/-! ## The dispatcher -/

theorem claimOf_claimScanTasks {workerId : String} {available globalLimit : ℤ} {leaseSeconds : ℕ}
    {now wall : Timestamp} {taskIds : List ℕ} {taskId : ℕ} :
    claimOf taskId (⟨now, wall, .claimScanTasks workerId available globalLimit leaseSeconds⟩,
      .claimed taskIds) = if taskId ∈ taskIds then some workerId else none := rfl

theorem ReclaimInv.claim (h : ReclaimInv settings.workerId runs s) {available : ℤ}
    {now wall : Timestamp} {s' : ScanProcess}
    (hcond : s.claimsSettled settings (.claim available now wall) = true)
    (hstep : s.claimStep settings available now wall = some s') :
    ReclaimInv settings.workerId runs s' := by
  unfold ScanProcess.claimStep at hstep
  split_ifs at hstep with hidle
  simp only [Option.some.injEq] at hstep
  set call : Call := ⟨now, wall, .claimScanTasks settings.workerId available settings.maxWorkers
    settings.leaseSeconds⟩
  set taskIds := (claimScanTasks settings.workerId available settings.maxWorkers
    settings.leaseSeconds now wall s.journal.database).1 with htaskIds
  have hsettled : ∀ taskId ∈ taskIds, ∀ e ∈ s.executions, e.taskId = taskId →
      e.unsettled = false := by
    intro taskId htask e he hid
    simp only [ScanProcess.claimsSettled, List.all_eq_true] at hcond
    simpa [hid] using hcond taskId htask e he
  have hlatest : ∀ taskId, latestClaimBy (· = settings.workerId) (s.transact call).journal.events
      taskId = if taskId ∈ taskIds then some s.journal.events.length
        else latestClaimBy (· = settings.workerId) s.journal.events taskId := by
    intro taskId
    have hreply : (perform call s.journal.database).1 = .claimed taskIds := rfl
    simp only [ScanProcess.transact, latestClaimBy_append, hreply]
    rw [show claimOf taskId (call, .claimed taskIds) = _ from claimOf_claimScanTasks]
    by_cases hmem : taskId ∈ taskIds <;> simp [hmem]
  subst hstep
  constructor
  case fenced => exact h.fenced.step (Journal.step_eq_some.mpr rfl)
  case latest =>
    intro e he hunsettled
    rw [hlatest, if_neg]
    · exact h.latest e he hunsettled
    · intro htask
      rw [hsettled e.taskId htask e he rfl] at hunsettled
      cases hunsettled
  case unique => exact h.unique
  case nodup =>
    dsimp only
    split_ifs
    · exact List.nodup_nil
    · exact nodup_claimScanTasks h.fenced.tasks
  case waiting =>
    dsimp only
    split_ifs
    · exact fun _ htask => absurd htask List.not_mem_nil
    · intro taskId (htask : taskId ∈ taskIds)
      refine ⟨?_, hsettled taskId htask⟩
      rw [hlatest, if_pos htask]
      rfl

/-- The next submitted execution is the only one of its task that may settle. -/
theorem ReclaimInv.submit (h : ReclaimInv settings.workerId runs s) {taskId claim : ℕ}
    {rest : List ℕ} (hdispatcher : s.dispatcher = .submitting (taskId :: rest) claim) :
    ReclaimInv settings.workerId runs { s with
      dispatcher := .submitting rest claim
      executions := s.executions ++ [{ taskId, claim }] } := by
  have hnodup := h.nodup
  have hwaiting := h.waiting
  rw [hdispatcher] at hnodup hwaiting
  have hfirst := hwaiting taskId List.mem_cons_self
  -- no unsettled execution of the task is there yet
  have hnone : ∀ (n : ℕ) (e : Execution), s.executions[n]? = some e → e.unsettled = true →
      e.taskId ≠ taskId := by
    intro n e hn hunsettled hid
    rw [hfirst.2 e (List.mem_of_getElem? hn) hid] at hunsettled
    cases hunsettled
  constructor
  case fenced => exact h.fenced
  case latest =>
    intro e he hunsettled
    rcases List.mem_append.mp he with hold | hnew
    · exact h.latest e hold hunsettled
    · rw [List.mem_singleton.mp hnew]
      exact hfirst.1
  case unique =>
    intro n m e e' hn hm hun hun' htask
    rcases Machine.getElem?_append_cases hn with hn' | ⟨rfl, rfl⟩ <;>
      rcases Machine.getElem?_append_cases hm with hm' | ⟨rfl, rfl⟩
    · exact h.unique n m e e' hn' hm' hun hun' htask
    · exact absurd htask (hnone n e hn' hun)
    · exact absurd htask.symm (hnone m e' hm' hun')
    · rfl
  case nodup => exact (List.nodup_cons.mp hnodup).2
  case waiting =>
    intro id hid
    have hold := hwaiting id (List.mem_cons_of_mem taskId hid)
    refine ⟨hold.1, ?_⟩
    intro e he htask
    rcases List.mem_append.mp he with hmem | hnew
    · exact hold.2 e hmem htask
    · rw [List.mem_singleton.mp hnew] at htask
      subst htask
      exact absurd hid (List.nodup_cons.mp hnodup).1

/-! ## Executions -/

/-- A step that leaves the tasks of the process active. -/
theorem SettledByLatest.of_active {a : ProcessAction} {s' : ScanProcess}
    (hactive : ∀ t ∈ s.journal.database.scanTasks, t.status = .running →
      t.workerId = some settings.workerId → ∀ t' ∈ s'.journal.database.scanTasks, t'.id = t.id →
        t'.status.isTerminal = false)
    (hunblocked : ∀ n e, a = .acquire n → s.executions[n]? = some e → ∀ m e', m ≠ n →
      s.executions[m]? = some e' → e'.taskId = e.taskId → e'.stage.lockedDevice = none) :
    SettledByLatest settings.workerId s a s' := by
  refine ⟨?_, hunblocked⟩
  intro t ht hrunning howner t' ht' hid hterminal
  rw [hactive t ht hrunning howner t' ht' hid] at hterminal
  cases hterminal

theorem ReclaimInv.active_of_same (h : ReclaimInv settings.workerId runs s) {s' : ScanProcess}
    (hdb : s'.journal.database = s.journal.database) :
    ∀ t ∈ s.journal.database.scanTasks, t.status = .running →
      t.workerId = some settings.workerId → ∀ t' ∈ s'.journal.database.scanTasks, t'.id = t.id →
        t'.status.isTerminal = false := by
  intro t ht hrunning _ t' ht' hid
  rw [hdb] at ht'
  rw [h.fenced.tasks.unique ht' ht hid]
  exact not_terminal_of_running hrunning

/-- A step that commits nothing settles nothing. -/
theorem ReclaimInv.quiet (h : ReclaimInv settings.workerId runs s) {a : ProcessAction}
    {s' : ScanProcess} (hdb : s'.journal.database = s.journal.database)
    (hacquire : ∀ n, a ≠ .acquire n) : SettledByLatest settings.workerId s a s' :=
  SettledByLatest.of_active (h.active_of_same hdb) fun n _ ha => absurd ha (hacquire n)

/-- The execution that settles a task of the process was started by the latest claim. -/
theorem ReclaimInv.latestClaim_eq (h : ReclaimInv settings.workerId runs s) {e : Execution}
    (he : e ∈ s.executions) (hunsettled : e.unsettled = true) {t : ScanTask}
    (ht : t ∈ s.journal.database.scanTasks) (hrunning : t.status = .running)
    (howner : t.workerId = some settings.workerId) (hid : e.taskId = t.id) :
    latestClaim s.journal.events t.id = some e.claim := by
  have hlast : lastClaim s.journal.events t.id = some settings.workerId := by
    rw [← h.fenced.claimed t ht hrunning]
    exact howner
  rw [← latestClaimBy_of_lastClaim (p := (· = settings.workerId)) (by simp) _ hlast, ← hid]
  exact h.latest e he hunsettled

/-- A settling transaction of an unsettled execution. -/
theorem ReclaimInv.settles (h : ReclaimInv settings.workerId runs s) {n : ℕ} {e : Execution}
    (hn : s.executions[n]? = some e) (hunsettled : e.unsettled = true) {a : ProcessAction}
    (ha : a.execution? = some n) (hacquire : ∀ n, a ≠ .acquire n) {s' : ScanProcess}
    {g : ScanTask → ScanTask}
    (hrows : s'.journal.database.scanTasks = s.journal.database.scanTasks.map g)
    (hg : ∀ t, (g t).id = t.id ∧ (t.id ≠ e.taskId → g t = t) ∧
      (t.id = e.taskId → e.Wrote s'.journal.database (g t))) :
    SettledByLatest settings.workerId s a s' := by
  constructor
  case settled =>
    intro t ht hrunning howner t' ht' hid hterminal
    rw [hrows] at ht'
    obtain ⟨u, hu, rfl⟩ := List.mem_map.mp ht'
    obtain rfl := h.fenced.tasks.unique hu ht ((hg u).1.symm.trans hid)
    by_cases htask : u.id = e.taskId
    · exact ⟨n, e, ha, hn, htask.symm, h.latestClaim_eq (List.mem_of_getElem? hn) hunsettled hu
        hrunning howner htask.symm, (hg u).2.2 htask⟩
    · rw [(hg u).2.1 htask, not_terminal_of_running hrunning] at hterminal
      cases hterminal
  case unblocked => exact fun n _ ha => absurd ha (hacquire n)

/-- `_persist_outcome` by an execution, with the outcome that it has to write. -/
theorem ReclaimInv.persists (h : ReclaimInv settings.workerId runs s) {n : ℕ} {e : Execution}
    (hn : s.executions[n]? = some e) (hunsettled : e.unsettled = true) {a : ProcessAction}
    (ha : a.execution? = some n) (hacquire : ∀ n, a ≠ .acquire n) {outcome : ScanOutcome}
    {now wall : Timestamp} {s' : ScanProcess}
    (hdb : s'.journal.database = (Reply.commit .settled s.journal.database (persistOutcome
      settings.workerId e.taskId outcome now wall s.journal.database)).2)
    (hwrote : ∀ t, HasOutcome outcome s'.journal.database t → e.Wrote s'.journal.database t) :
    SettledByLatest settings.workerId s a s' := by
  cases hok : persistOutcome settings.workerId e.taskId outcome now wall s.journal.database with
  | error error =>
    rw [hok] at hdb
    exact h.quiet hdb hacquire
  | ok result =>
    obtain ⟨-, g, hrows, hg⟩ := persistOutcome_rows hok
    rw [hok] at hdb
    simp only [Reply.commit] at hdb
    rw [← hdb] at hrows hg
    apply h.settles hn hunsettled ha hacquire hrows
    intro t
    exact ⟨(hg t).1, (hg t).2.1, fun hid => hwrote _ ((hg t).2.2 hid)⟩

/-- While an execution may still settle, no other one of its task holds a device lock. -/
theorem ReclaimInv.unlocked (h : ReclaimInv settings.workerId runs s) {n m : ℕ} {e e' : Execution}
    (hn : s.executions[n]? = some e) (hunsettled : e.unsettled = true) (hmn : m ≠ n)
    (hm : s.executions[m]? = some e') (htask : e'.taskId = e.taskId) :
    e'.stage.lockedDevice = none := by
  by_contra hlocked
  obtain ⟨deviceId, hdevice⟩ := Option.ne_none_iff_exists'.mp hlocked
  exact hmn (h.unique m n e' e hm hn (Execution.unsettled_of_lockedDevice hdevice) hunsettled htask)

theorem ReclaimInv.executionStep (h : ReclaimInv settings.workerId runs s) {n : ℕ} {e : Execution}
    (hn : s.executions[n]? = some e) {a : ProcessAction} (ha : a.execution? = some n)
    {s' : ScanProcess} (hstep : s.executionStep settings n e a = some s') :
    ReclaimInv settings.workerId runs s' ∧ SettledByLatest settings.workerId s a s' := by
  have hmove : ∀ stage, e.unsettled = true → ReclaimInv settings.workerId runs (s.setStage n e stage) :=
    fun stage hunsettled => h.setStage hn fun _ => hunsettled
  cases a with
  | checkLease _ now =>
    simp only [ScanProcess.executionStep] at hstep
    split_ifs at hstep with hstage
    have hunsettled : e.unsettled = true := by
      simp [Execution.unsettled, not_not.mp hstage]
    split at hstep
    · cases hstep
      exact ⟨hmove _ hunsettled, h.quiet rfl (by simp)⟩
    · cases hstep
      exact ⟨hmove _ hunsettled, h.quiet rfl (by simp)⟩
  | acquire k =>
    obtain rfl : k = n := by simpa [ProcessAction.execution?] using ha
    simp only [ScanProcess.executionStep] at hstep
    split at hstep
    · rename_i deviceId trigger hstage
      have hunsettled : e.unsettled = true := by simp [Execution.unsettled, hstage]
      have hsafe : ∀ stage, SettledByLatest settings.workerId s (.acquire k) (s.setStage k e stage) := by
        intro stage
        refine SettledByLatest.of_active (h.active_of_same rfl) ?_
        rintro _ e' ⟨⟩ he'
        obtain rfl := Option.some.inj (hn.symm.trans he')
        exact fun m e' hmn hm htask => h.unlocked hn hunsettled hmn hm htask
      split_ifs at hstep
      · cases hstep
        exact ⟨hmove _ hunsettled, hsafe _⟩
      · cases hstep
        exact ⟨hmove _ hunsettled, hsafe _⟩
    · cases hstep
  | loadTarget _ =>
    simp only [ScanProcess.executionStep] at hstep
    split at hstep
    · rename_i deviceId trigger hstage
      have hunsettled : e.unsettled = true := by simp [Execution.unsettled, hstage]
      split at hstep
      · cases hstep
        exact ⟨hmove _ hunsettled, h.quiet rfl (by simp)⟩
      · split_ifs at hstep
        · cases hstep
          exact ⟨hmove _ hunsettled, h.quiet rfl (by simp)⟩
        · cases hstep
          exact ⟨hmove _ hunsettled, h.quiet rfl (by simp)⟩
    · cases hstep
  | collect _ outcome =>
    simp only [ScanProcess.executionStep] at hstep
    split at hstep
    · rename_i deviceId trigger hstage
      have hunsettled : e.unsettled = true := by simp [Execution.unsettled, hstage]
      split_ifs at hstep
      cases hstep
      exact ⟨hmove _ hunsettled, h.quiet rfl (by simp)⟩
    · cases hstep
  | raiseIfLost _ =>
    simp only [ScanProcess.executionStep] at hstep
    split at hstep
    · rename_i outcome hstage
      have hunsettled : e.unsettled = true := by simp [Execution.unsettled, hstage]
      split_ifs at hstep
      · cases hstep
        exact ⟨hmove _ hunsettled, h.quiet rfl (by simp)⟩
      · cases hstep
        exact ⟨hmove _ hunsettled, h.quiet rfl (by simp)⟩
    · cases hstep
  | persist _ now wall =>
    simp only [ScanProcess.executionStep] at hstep
    split at hstep
    · rename_i outcome hstage
      have hunsettled : e.unsettled = true := by simp [Execution.unsettled, hstage]
      cases hstep
      constructor
      · apply (h.transact ?_).setStage hn fun _ => hunsettled
        exact fun _ _ hclaim => by cases hclaim
      · apply h.persists hn hunsettled ha (by simp) rfl
        intro t ht
        simpa [Execution.Wrote, hstage] using ht
    · cases hstep
  | recordConflict _ now wall =>
    simp only [ScanProcess.executionStep] at hstep
    split at hstep
    · rename_i outcome hstage
      have hunsettled : e.unsettled = true := by simp [Execution.unsettled, hstage]
      cases hstep
      constructor
      · apply (h.transact ?_).setStage hn fun _ => hunsettled
        exact fun _ _ hclaim => by cases hclaim
      · apply h.persists hn hunsettled ha (by simp) rfl
        intro t ht
        simp only [Execution.Wrote, hstage]
        exact ⟨wall, ht⟩
    · cases hstep
  | release _ =>
    simp only [ScanProcess.executionStep] at hstep
    split at hstep
    · rename_i error hstage
      cases hstep
      refine ⟨?_, h.quiet rfl (by simp)⟩
      cases error with
      | none =>
        have hmoved : ReclaimInv settings.workerId runs (s.setStage n e .finished) :=
          h.setStage hn (by simp [Execution.unsettled])
        exact ⟨hmoved.fenced, hmoved.latest, hmoved.unique, hmoved.nodup, hmoved.waiting⟩
      | some error =>
        have hmoved := hmove (.failing error) (by simp [Execution.unsettled, hstage])
        exact ⟨hmoved.fenced, hmoved.latest, hmoved.unique, hmoved.nodup, hmoved.waiting⟩
    · cases hstep
  | fail _ now wall =>
    simp only [ScanProcess.executionStep] at hstep
    split at hstep
    · rename_i error hstage
      have hunsettled : e.unsettled = true := by simp [Execution.unsettled, hstage]
      cases hstep
      constructor
      · apply (h.transact ?_).setStage hn fun _ => hunsettled
        exact fun _ _ hclaim => by cases hclaim
      · cases hok : failUnexpectedTask settings.workerId e.taskId now wall s.journal.database with
        | error error =>
          apply h.quiet _ (by simp)
          simp [ScanProcess.setStage, ScanProcess.transact, perform, hok]
        | ok db =>
          obtain ⟨-, g, hrows, hg⟩ := failUnexpectedTask_rows hok
          apply h.settles hn hunsettled ha (by simp)
          · simpa [ScanProcess.setStage, ScanProcess.transact, perform, hok] using hrows
          · intro t
            refine ⟨(hg t).1, (hg t).2.1, fun hid => ?_⟩
            simpa [Execution.Wrote, hstage] using (hg t).2.2 hid
    · cases hstep
  | databaseFails _ conflict =>
    simp only [ScanProcess.executionStep] at hstep
    have hunsettled : e.unsettled = true := by
      unfold Execution.unsettled
      grind
    have hmoved : ∃ stage, s' = s.setStage n e stage := by grind
    obtain ⟨stage, rfl⟩ := hmoved
    exact ⟨hmove _ hunsettled, h.quiet rfl (by simp)⟩
  | other | claim | track | submit | beat | renew | renewFails | markLost => cases ha

/-! ## Every run -/

theorem ReclaimInv.step (h : ReclaimInv settings.workerId runs s) {a : ProcessAction}
    {s' : ScanProcess} (hcond : s.claimsSettled settings a = true)
    (hstep : s.step settings a = some s') :
    ReclaimInv settings.workerId runs s' ∧ SettledByLatest settings.workerId s a s' := by
  unfold ScanProcess.step at hstep
  split at hstep
  · rename_i n ha
    split at hstep
    · rename_i e hn
      exact h.executionStep hn ha hstep
    · cases hstep
  · split at hstep
    · rename_i call _
      split at hstep
      · rename_i other hother
        split_ifs at hstep with hne
        cases hstep
        constructor
        · apply h.transact
          intro taskId reply hclaim
          rw [worker_of_claimOf hclaim] at hother
          exact hne (Option.some.inj hother).symm
        · refine SettledByLatest.of_active ?_ (by simp)
          intro t ht hrunning howner t' ht' hid
          exact perform_other_keeps_active h.fenced.tasks hother hne ht hrunning howner ht' hid
      · cases hstep
    · rename_i available now wall _
      refine ⟨h.claim hcond hstep, ?_⟩
      unfold ScanProcess.claimStep at hstep
      split_ifs at hstep
      cases hstep
      refine SettledByLatest.of_active ?_ (by simp)
      intro t ht hrunning _ t' ht' hid
      have hactive := noneTerminal_of_running h.fenced.tasks ht hrunning
      exact claimScanTasks_keeps_active hactive t' ht' (by simp [hid])
    · split at hstep
      · rename_i taskIds claim hdispatcher
        cases hstep
        have hnodup := h.nodup
        have hwaiting := h.waiting
        rw [hdispatcher] at hnodup hwaiting
        exact ⟨⟨h.fenced, h.latest, h.unique, hnodup, hwaiting⟩, h.quiet rfl (by simp)⟩
      · cases hstep
    · split at hstep
      · cases hstep
        refine ⟨⟨h.fenced, h.latest, h.unique, List.nodup_nil, ?_⟩, h.quiet rfl (by simp)⟩
        exact fun _ htask => absurd htask List.not_mem_nil
      · rename_i taskId rest claim hdispatcher
        cases hstep
        exact ⟨h.submit hdispatcher, h.quiet rfl (by simp)⟩
      · cases hstep
    · split_ifs at hstep
      cases hstep
      exact ⟨⟨h.fenced, h.latest, h.unique, h.nodup, h.waiting⟩, h.quiet rfl (by simp)⟩
    · rename_i now wall _
      split at hstep
      · rename_i taskIds hheartbeat
        cases hstep
        constructor
        · have hmoved : ReclaimInv settings.workerId runs (s.transact
              ⟨now, wall, .renewScanLeases settings.workerId taskIds settings.leaseSeconds⟩) :=
            h.transact fun _ _ hclaim => by cases hclaim
          exact ⟨hmoved.fenced, hmoved.latest, hmoved.unique, hmoved.nodup, hmoved.waiting⟩
        · refine SettledByLatest.of_active ?_ (by simp)
          intro t ht hrunning _ t' ht' hid
          have hactive := noneTerminal_of_running h.fenced.tasks ht hrunning
          exact renewScanLeases_keeps_active hactive t' ht' (by simp [hid])
      · cases hstep
    · split at hstep
      · cases hstep
        exact ⟨⟨h.fenced, h.latest, h.unique, h.nodup, h.waiting⟩, h.quiet rfl (by simp)⟩
      · cases hstep
    · split at hstep
      · cases hstep
        exact ⟨⟨h.fenced, h.latest, h.unique, h.nodup, h.waiting⟩, h.quiet rfl (by simp)⟩
      · cases hstep
    · cases hstep

/-- In every run in which the process claims no task that one of its own executions may still
settle, each of its tasks is settled by the execution of the latest claim, whose scan run it
gets, and no execution fails because an earlier one of the same task holds the device lock. -/
theorem settled_by_latest_claim {db : Database} (h₀ : TasksOk db)
    (hidle : ∀ t ∈ db.scanTasks, t.status ≠ .running) {actions : List ProcessAction}
    (hmeets : Machine.Meets (ScanProcess.step settings)
      (fun s a => s.claimsSettled settings a = true) { journal := ⟨db, []⟩ } actions)
    (hrun : Machine.run (ScanProcess.step settings) { journal := ⟨db, []⟩ } actions = some s)
    {a : ProcessAction} {s' : ScanProcess} (hcond : s.claimsSettled settings a = true)
    (hstep : s.step settings a = some s') : SettledByLatest settings.workerId s a s' := by
  have hstart : ReclaimInv settings.workerId db.scanRuns.length { journal := ⟨db, []⟩ } := by
    constructor
    case fenced =>
      exact ⟨h₀, fun t ht hrunning => absurd hrunning (hidle t ht), by simp, by simp, by simp⟩
    case latest => exact fun _ he => absurd he List.not_mem_nil
    case unique => simp
    case nodup => exact List.nodup_nil
    case waiting => exact fun _ htask => absurd htask List.not_mem_nil
  have hinv := Machine.run_invariant_of_meets (ReclaimInv settings.workerId db.scanRuns.length)
    (fun _ _ _ hinv hcond hstep => (hinv.step hcond hstep).1) actions _ s hstart hmeets hrun
  exact (hinv.step hcond hstep).2

/-- One device with a pending task. -/
def queuedScan : Database where
  devices := [{ id := 1, name := "web-01", host := "10.0.0.10" }]
  scanTasks := [{ id := 1, deviceId := 1, triggerType := .manual, priority := 100 }]
  sequences := { scanTasks := 2, devices := 2 }

def oneWorker : QueueSettings := { workerId := "w", maxWorkers := 2, leaseSeconds := 90 }

def collectedOutcome (startedAt finishedAt : Timestamp) : ScanOutcome :=
  { deviceId := 1, trigger := .manual, status := .success, startedAt, finishedAt }

/-- The first claim, and its execution up to the device lock. -/
def firstExecution : List ProcessAction :=
  [.claim 2 0 0, .track, .submit, .submit, .checkLease 0 1, .acquire 0, .loadTarget 0]

/-- The lease is over when the heartbeat comes; the first execution finds it lost and is about
to release the task when the process claims it again. -/
def lostThenReclaimed : List ProcessAction :=
  firstExecution ++ [.beat, .renew 90000000 90000000, .markLost,
    .collect 0 (collectedOutcome 2 90000001), .raiseIfLost 0, .claim 2 90000002 90000002, .track,
    .submit, .submit, .release 0, .checkLease 1 90000003, .acquire 1, .loadTarget 1,
    .collect 1 (collectedOutcome 90000004 90000005), .raiseIfLost 1]

/-- The process claims the task again while the first execution is still collecting. -/
def reclaimedWhileCollecting : List ProcessAction :=
  firstExecution ++ [.claim 1 90000000 90000000, .track, .submit, .submit]

/-- The first execution persists although the task has been claimed again. -/
def earlierPersists : List ProcessAction :=
  reclaimedWhileCollecting ++ [.collect 0 (collectedOutcome 2 90000001), .raiseIfLost 0]

/-- The second execution asks for the device lock of the first. -/
def laterAcquires : List ProcessAction :=
  reclaimedWhileCollecting ++ [.checkLease 1 90000001, .acquire 1, .release 1]

theorem reclaimed_scan_is_settled_by_latest :
    ∃ s s', Machine.run (ScanProcess.step oneWorker) { journal := ⟨queuedScan, []⟩ }
        lostThenReclaimed = some s ∧
      s.step oneWorker (.persist 1 90000006 90000006) = some s' ∧
      s'.journal.database.scanTasks.map (·.status) = [.success] ∧
      SettledByLatest "w" s (.persist 1 90000006 90000006) s' := by
  have hmeets : Machine.Meets (ScanProcess.step oneWorker)
      (fun s a => s.claimsSettled oneWorker a = true) { journal := ⟨queuedScan, []⟩ }
      lostThenReclaimed := by decide +kernel
  have hrun : ((Machine.run (ScanProcess.step oneWorker) { journal := ⟨queuedScan, []⟩ }
      lostThenReclaimed).any fun s => (s.step oneWorker (.persist 1 90000006 90000006)).any fun s' =>
        s'.journal.database.scanTasks.map (·.status) = [.success]) = true := by decide +kernel
  obtain ⟨s, hs, hnext⟩ := (Option.any_eq_true _ _).mp hrun
  obtain ⟨s', hs', hstatus⟩ := (Option.any_eq_true _ _).mp hnext
  have hok : TasksOk queuedScan := ⟨by decide, by decide, by decide⟩
  exact ⟨s, s', hs, hs', by simpa using hstatus,
    settled_by_latest_claim hok (by decide) hmeets hs rfl hs'⟩

/-- After the second claim the first execution settles the task with its own outcome; or it
holds the device lock, and the second execution marks the task as failed. -/
theorem reclaimed_scan_is_settled_by_earlier :
    (∃ s s', Machine.run (ScanProcess.step oneWorker) { journal := ⟨queuedScan, []⟩ }
        earlierPersists = some s ∧
      s.step oneWorker (.persist 0 90000002 90000002) = some s' ∧
      latestClaim s.journal.events 1 = some 1 ∧ s.executions.map (·.claim) = [0, 1] ∧
      s'.journal.database.scanTasks.map (fun t => (t.status, t.scanRunId)) = [(.success, some 1)] ∧
      s'.journal.database.scanRuns.map (·.startedAt) = [2]) ∧
    (∃ s s', Machine.run (ScanProcess.step oneWorker) { journal := ⟨queuedScan, []⟩ }
        laterAcquires = some s ∧
      s.executions.map (fun e => (e.claim, e.stage)) =
        [(0, .collecting 1 .manual), (1, .failing .scanAlreadyRunning)] ∧
      s.step oneWorker (.fail 1 90000002 90000002) = some s' ∧
      s'.journal.database.scanTasks.map (·.status) = [.failed]) := by
  constructor
  · exact ⟨_, _, rfl, rfl, by decide +kernel, by decide +kernel, by decide +kernel,
      by decide +kernel⟩
  · exact ⟨_, _, rfl, by decide +kernel, rfl, by decide +kernel⟩

end ConnectionTopology
