import ConnectionTopology.Library.PoolLifecycle
import ConnectionTopology.ScanQueue.Heartbeat

/-!
# The scan queue service and its worker pool

`start`, `shutdown`, `_dispatch_loop`, `_future_done` and the executor of `ScanQueueService`,
around the threads of its process. The room that a claim asks for is now what `_dispatch_loop`
counts, an execution takes steps only while a worker runs it, and its future is done when it has
finished. The controlling thread is the one that runs the lifespan of the application.
-/
namespace ConnectionTopology

/-- What `_claim_tasks` or the renewal of the leases raises. -/
inductive ServiceError
  | databaseUnavailable
  | transactionConflict
  | other
  deriving DecidableEq, Repr

/-- `_dispatch_loop` has no `except` clause; `_heartbeat_loop` goes on after every exception. -/
def QueueSettings.pool (settings : QueueSettings) : WorkerPool.Settings ServiceError where
  maxWorkers := settings.maxWorkers
  claimCaught := fun _ => false
  renewCaught := fun _ => true

structure ScanQueueService where
  process : ScanProcess
  pool : WorkerPool.State ℕ := {}
  deriving DecidableEq, Repr

inductive ServiceAction
  | pool (a : WorkerPool.Action ℕ ServiceError)
  | process (a : ProcessAction)
  /-- The claim of `_dispatch_loop` commits. -/
  | claim (available : ℤ) (now wall : Timestamp)
  /-- `executor.submit(self._execute_safely, task_id)`. -/
  | submit
  deriving DecidableEq, Repr

/-- The steps of the pool that the process takes no part in, or has prepared. -/
def ScanQueueService.mayStepPool (s : ScanQueueService) : WorkerPool.Action ℕ ServiceError → Bool
  | .claim _ | .submit => false
  | .finish n => s.process.executions[n]?.any (·.stage = .finished)
  | .renew | .renewRaises _ => s.process.heartbeat = .waiting
  | _ => true

/-- The steps of the process that the pool takes no part in, or has prepared. -/
def ScanQueueService.mayStepProcess (s : ScanQueueService) : ProcessAction → Bool
  | .claim _ _ _ => false
  | .other _ | .track => true
  -- the end of the loop over the claimed tasks
  | .submit => s.process.dispatcher.toSubmit.1 = []
  | .beat | .renew _ _ | .renewFails | .markLost => s.pool.heartbeat = .renewing
  | a => a.execution?.any fun n => s.pool.jobs[n]?.any (·.stage = .running)

def ScanQueueService.step (settings : QueueSettings) (s : ScanQueueService) :
    ServiceAction → Option ScanQueueService
  | .pool a =>
    if s.mayStepPool a then (s.pool.step settings.pool a).map fun pool => { s with pool } else none
  | .process a =>
    if s.mayStepProcess a then
      (s.process.serviceStep settings a).map fun process => { s with process }
    else none
  | .claim available now wall =>
    if s.pool.dispatcher = .claiming available then
      match s.process.claimStep settings available now wall with
      | none => none
      | some process =>
        (s.pool.step settings.pool (.claim process.dispatcher.toSubmit.1)).map fun pool =>
          { process, pool }
    else none
  | .submit =>
    if s.process.dispatcher.toSubmit.1 = [] then none
    else
      match s.process.serviceStep settings .submit with
      | none => none
      | some process => (s.pool.step settings.pool .submit).map fun pool => { process, pool }

/-- The tasks that a worker has claimed, in the order of the claims. -/
def claimedTasks (workerId : String) (events : List (Call × Reply)) : List ℕ :=
  events.flatMap fun
    | (⟨_, _, .claimScanTasks claimant _ _ _⟩, .claimed taskIds) =>
      if claimant = workerId then taskIds else []
    | _ => []

/-! ## The two halves agree -/

structure ServiceInv (settings : QueueSettings) (s : ScanQueueService) : Prop where
  pool : WorkerPool.Inv settings.pool s.pool
  undead : s.pool.heartbeat ≠ .died
  jobs : s.pool.jobs.map (·.item) = s.process.executions.map (·.taskId)
  items : s.pool.dispatcher.items = s.process.dispatcher.toSubmit.1
  finished : ∀ (n : ℕ) (job : WorkerPool.Job ℕ) (e : Execution), s.pool.jobs[n]? = some job →
    s.process.executions[n]? = some e → job.isDone = true → e.stage = .finished
  claimed : claimedTasks settings.workerId s.process.journal.events =
    s.process.executions.map (·.taskId) ++ s.process.dispatcher.toSubmit.1

variable {settings : QueueSettings} {s t : ScanQueueService}

theorem claimedTasks_append (workerId : String) (events events' : List (Call × Reply)) :
    claimedTasks workerId (events ++ events') =
      claimedTasks workerId events ++ claimedTasks workerId events' :=
  List.flatMap_append

/-- A transaction that is not a claim of the worker adds nothing to its tasks. -/
theorem claimedTasks_transact {p : ScanProcess} {call : Call} {workerId : String}
    (h : call.transaction.settlesOrForeign workerId = true ∨
      ∃ renewer taskIds seconds, call.transaction = .renewScanLeases renewer taskIds seconds) :
    claimedTasks workerId (p.transact call).journal.events = claimedTasks workerId p.journal.events := by
  obtain ⟨now, wall, transaction⟩ := call
  rw [ScanProcess.transact, claimedTasks_append]
  have hnone : claimedTasks workerId [(⟨now, wall, transaction⟩,
      (perform ⟨now, wall, transaction⟩ p.journal.database).1)] = [] := by
    cases transaction with
    | claimScanTasks claimant localCapacity globalLimit leaseSeconds =>
      rcases h with hforeign | ⟨_, _, _, hrenew⟩
      · have hne : claimant ≠ workerId := by simpa [Transaction.settlesOrForeign] using hforeign
        simp [claimedTasks, perform, hne]
      · cases hrenew
    | _ => rfl
  rw [hnone, List.append_nil]

theorem ServiceInv.initial (db : Database) :
    ServiceInv settings { process := { journal := ⟨db, []⟩ } } where
  pool := WorkerPool.Inv.initial
  undead := nofun
  jobs := rfl
  items := rfl
  finished := by simp
  claimed := rfl

/-- A step of the pool alone. -/
theorem ServiceInv.poolStep (h : ServiceInv settings s) {a : WorkerPool.Action ℕ ServiceError}
    (hmay : s.mayStepPool a = true) {pool : WorkerPool.State ℕ}
    (hstep : s.pool.step settings.pool a = some pool) : ServiceInv settings { s with pool } := by
  have hclaim : ∀ items, a ≠ .claim items := by
    rintro items rfl
    cases hmay
  have hsubmit : a ≠ .submit := by
    rintro rfl
    cases hmay
  obtain ⟨hitems, hjobs, hdone⟩ := h.pool.sameItems hclaim hsubmit hstep
  constructor
  · refine h.pool.step ?_ hstep
    cases a <;> trivial
  · exact WorkerPool.State.heartbeat_survives h.undead (fun _ _ => rfl) hstep
  · exact hjobs.trans h.jobs
  · exact hitems.trans h.items
  · intro n job e hjob he hover
    rcases hdone n job hjob hover with rfl | ⟨before, hbefore, hover'⟩
    · simpa [ScanQueueService.mayStepPool, he] using hmay
    · exact h.finished n before e hbefore he hover'
  · exact h.claimed

/-- The process goes on with the tasks that it has, and only one execution moves. -/
structure ScanProcess.SameTasks (workerId : String) (p q : ScanProcess) (a : ProcessAction) : Prop where
  executions : q.executions.map (·.taskId) = p.executions.map (·.taskId)
  others : ∀ (m : ℕ) (e : Execution), q.executions[m]? = some e →
    a.execution? = some m ∨ p.executions[m]? = some e
  toSubmit : q.dispatcher.toSubmit.1 = p.dispatcher.toSubmit.1
  claimed : claimedTasks workerId q.journal.events = claimedTasks workerId p.journal.events

theorem ScanProcess.SameTasks.of_executions {workerId : String} {p q : ScanProcess}
    {a : ProcessAction} (hexecutions : q.executions = p.executions)
    (htoSubmit : q.dispatcher.toSubmit.1 = p.dispatcher.toSubmit.1)
    (hclaimed : claimedTasks workerId q.journal.events = claimedTasks workerId p.journal.events) :
    p.SameTasks workerId q a where
  executions := by rw [hexecutions]
  others := fun m e he => Or.inr (hexecutions ▸ he)
  toSubmit := htoSubmit
  claimed := hclaimed

theorem ScanProcess.SameTasks.of_set {workerId : String} {p q : ScanProcess} {a : ProcessAction}
    {n : ℕ} {e : Execution} (hn : p.executions[n]? = some e) (ha : a.execution? = some n)
    {stage : ExecutionStage} (hexecutions : q.executions = p.executions.set n { e with stage })
    (htoSubmit : q.dispatcher = p.dispatcher)
    (hclaimed : claimedTasks workerId q.journal.events = claimedTasks workerId p.journal.events) :
    p.SameTasks workerId q a := by
  refine ⟨?_, ?_, by rw [htoSubmit], hclaimed⟩
  · rw [hexecutions, List.map_set]
    exact Machine.set_of_getElem? (by rw [List.getElem?_map, hn]; rfl)
  · intro m other hother
    rw [hexecutions] at hother
    rcases Machine.getElem?_set_cases hother with ⟨rfl, -⟩ | ⟨-, hold⟩
    · exact Or.inl ha
    · exact Or.inr hold

theorem ScanProcess.sameTasks_executionStep {p q : ScanProcess} {n : ℕ} {e : Execution}
    (hn : p.executions[n]? = some e) {a : ProcessAction} (ha : a.execution? = some n)
    (hstep : p.executionStep settings n e a = some q) : p.SameTasks settings.workerId q a := by
  rcases executionStep_cases hstep with ⟨stage, rfl, -⟩ | ⟨call, stage, rfl, hcall, -⟩ |
    ⟨error, -, rfl⟩
  · exact .of_set hn ha rfl rfl rfl
  · exact .of_set hn ha rfl rfl (claimedTasks_transact (Or.inl hcall))
  · exact .of_set hn ha rfl rfl rfl

/-- Everything but a claim and a submission. -/
theorem ScanProcess.sameTasks_serviceStep {p q : ScanProcess} {a : ProcessAction}
    (hclaim : ∀ available now wall, a ≠ .claim available now wall)
    (hsubmit : a = .submit → p.dispatcher.toSubmit.1 = [])
    (hstep : p.serviceStep settings a = some q) : p.SameTasks settings.workerId q a := by
  cases a with
  | other call =>
    simp only [ScanProcess.serviceStep] at hstep
    split_ifs at hstep with hworker
    cases hstep
    exact .of_executions rfl rfl (claimedTasks_transact (Or.inl (settlesOrForeign_of_worker hworker)))
  | claim available now wall => exact absurd rfl (hclaim _ _ _)
  | track =>
    simp only [ScanProcess.serviceStep, ScanProcess.step, ProcessAction.execution?] at hstep
    split at hstep
    · rename_i hdispatcher
      cases hstep
      exact .of_executions rfl (by rw [hdispatcher]; rfl) rfl
    · cases hstep
  | submit =>
    simp only [ScanProcess.serviceStep, ScanProcess.step, ProcessAction.execution?] at hstep
    split at hstep
    · rename_i hdispatcher
      cases hstep
      exact .of_executions rfl (by rw [hdispatcher]; rfl) rfl
    · rename_i hdispatcher
      simp [hdispatcher, DispatcherStage.toSubmit] at hsubmit
    · cases hstep
  | beat =>
    simp only [ScanProcess.serviceStep, ScanProcess.step, ProcessAction.execution?] at hstep
    split_ifs at hstep
    cases hstep
    exact .of_executions rfl rfl rfl
  | renew now wall =>
    simp only [ScanProcess.serviceStep, ScanProcess.step, ProcessAction.execution?] at hstep
    split at hstep
    · cases hstep
      exact .of_executions rfl rfl (claimedTasks_transact (Or.inr ⟨_, _, _, rfl⟩))
    · cases hstep
  | renewFails | markLost =>
    simp only [ScanProcess.serviceStep, ScanProcess.step, ProcessAction.execution?] at hstep
    split at hstep
    · cases hstep
      exact .of_executions rfl rfl rfl
    · cases hstep
  | checkLease n | acquire n | loadTarget n | collect n | raiseIfLost n | persist n
  | recordConflict n | release n | fail n | databaseFails n =>
    simp only [ScanProcess.serviceStep, ScanProcess.step, ProcessAction.execution?] at hstep
    split at hstep
    · rename_i hn
      exact sameTasks_executionStep hn rfl hstep
    · cases hstep

/-- A step of the process alone. -/
theorem ServiceInv.processStep (h : ServiceInv settings s) {a : ProcessAction}
    (hmay : s.mayStepProcess a = true) {process : ScanProcess}
    (hstep : s.process.serviceStep settings a = some process) :
    ServiceInv settings { s with process } := by
  have hclaim : ∀ available now wall, a ≠ .claim available now wall := by
    rintro available now wall rfl
    cases hmay
  have hsubmit : a = .submit → s.process.dispatcher.toSubmit.1 = [] := by
    rintro rfl
    simpa [ScanQueueService.mayStepProcess] using hmay
  obtain ⟨hexecutions, hothers, htoSubmit, hclaimed⟩ :=
    ScanProcess.sameTasks_serviceStep hclaim hsubmit hstep
  constructor
  · exact h.pool
  · exact h.undead
  · exact h.jobs.trans hexecutions.symm
  · exact h.items.trans htoSubmit.symm
  · intro n job e hjob he hdone
    rcases hothers n e he with ha | hold
    · -- the job of an execution that moves is running
      have hrunning : s.pool.jobs[n]?.any (·.stage = .running) = true := by
        cases a <;> cases ha
        all_goals simpa [ScanQueueService.mayStepProcess, ProcessAction.execution?] using hmay
      rw [hjob, Option.any_some, decide_eq_true_eq] at hrunning
      simp [WorkerPool.Job.isDone, hrunning] at hdone
    · exact h.finished n job e hjob hold hdone
  · rw [hclaimed, hexecutions, htoSubmit]
    exact h.claimed

theorem length_claimScanTasks_le (workerId : String) (localCapacity globalLimit : ℤ)
    (leaseSeconds : ℕ) (now wall : Timestamp) (db : Database) :
    ((claimScanTasks workerId localCapacity globalLimit leaseSeconds now wall db).1.length : ℤ) ≤
      max localCapacity 0 := by
  unfold claimScanTasks
  split_ifs with hnone
  · simp
  · dsimp only
    split_ifs
    · rw [List.length_map]
      have hle := List.length_take_le
        (min localCapacity (max (globalLimit - ((moveTasks resetExpiredScanTask
          ((db.scanTasks.filter (·.isExpired now)).map (·.id)) ([], db)).2.scanTasks.countP
            fun t => t.status = .running && t.isLeased now)) 0)).toNat
        (((moveTasks resetExpiredScanTask ((db.scanTasks.filter (·.isExpired now)).map (·.id))
          ([], db)).2.scanTasks.filter (·.status = .pending)).insertionSort claimsBefore)
      omega
    · simp

/-- `_claim_tasks` with the room that `_dispatch_loop` has counted. -/
theorem ServiceInv.claim (h : ServiceInv settings s) {available : ℤ} {now wall : Timestamp}
    (hroom : s.pool.dispatcher = .claiming available) {process : ScanProcess}
    (hclaim : s.process.claimStep settings available now wall = some process)
    {pool : WorkerPool.State ℕ}
    (hstep : s.pool.step settings.pool (.claim process.dispatcher.toSubmit.1) = some pool) :
    ServiceInv settings { process, pool } := by
  unfold ScanProcess.claimStep at hclaim
  split_ifs at hclaim with hidle
  simp only [Option.some.injEq] at hclaim
  set call : Call := ⟨now, wall, .claimScanTasks settings.workerId available settings.maxWorkers
    settings.leaseSeconds⟩
  set taskIds := (claimScanTasks settings.workerId available settings.maxWorkers
    settings.leaseSeconds now wall s.process.journal.database).1 with htaskIds
  have htoSubmit : process.dispatcher.toSubmit.1 = taskIds := by
    rw [← hclaim]
    dsimp only
    split_ifs with hnil
    · exact hnil.symm
    · rfl
  have hexecutions : process.executions = s.process.executions := by rw [← hclaim]; rfl
  have hdone : s.process.dispatcher.toSubmit.1 = [] := by rw [not_not.mp hidle]; rfl
  have hpool := hstep
  simp only [WorkerPool.State.step, WorkerPool.State.dispatcherStep, hroom, Option.some.injEq] at hpool
  constructor
  · refine h.pool.step ?_ hstep
    intro room hp
    obtain rfl : available = room := by
      rw [hroom] at hp
      cases hp
      rfl
    rw [htoSubmit]
    exact length_claimScanTasks_le ..
  · refine WorkerPool.State.heartbeat_survives h.undead ?_ hstep
    intro error hp
    cases hp
  · rw [← hpool, hexecutions]
    exact h.jobs
  · rw [← hpool]
    exact WorkerPool.items_afterClaim _
  · intro n job e hjob he
    rw [← hpool] at hjob
    rw [hexecutions] at he
    exact h.finished n job e hjob he
  · have hevents : process.journal.events = s.process.journal.events ++ [(call, .claimed taskIds)] := by
      rw [← hclaim]
      rfl
    have hnew : claimedTasks settings.workerId [(call, .claimed taskIds)] = taskIds := by
      simp [claimedTasks, call]
    rw [hevents, claimedTasks_append, hnew, h.claimed, hdone, List.append_nil, hexecutions, htoSubmit]

theorem ServiceInv.submit (h : ServiceInv settings s)
    (hsome : s.process.dispatcher.toSubmit.1 ≠ []) {process : ScanProcess}
    (hsubmit : s.process.serviceStep settings .submit = some process) {pool : WorkerPool.State ℕ}
    (hstep : s.pool.step settings.pool .submit = some pool) :
    ServiceInv settings { process, pool } := by
  simp only [ScanProcess.serviceStep, ScanProcess.step, ProcessAction.execution?] at hsubmit
  split at hsubmit
  · rename_i hdispatcher
    exact absurd (by rw [hdispatcher]; rfl) hsome
  · rename_i taskId rest claim hdispatcher
    cases hsubmit
    have hitems := h.items
    have hclaimed := h.claimed
    rw [hdispatcher, DispatcherStage.toSubmit] at hitems hclaimed
    have hpool := hstep
    simp only [WorkerPool.State.step, WorkerPool.State.dispatcherStep] at hpool
    split at hpool
    any_goals contradiction
    rename_i item items _ hsubmitting
    obtain ⟨rfl, rfl⟩ : item = taskId ∧ items = rest := by
      rw [hsubmitting] at hitems
      exact List.cons.inj hitems
    cases hpool
    have haligned : s.pool.jobs.length = s.process.executions.length := by
      simpa using congrArg List.length h.jobs
    constructor
    · exact h.pool.step (a := .submit) trivial hstep
    · exact h.undead
    · simp [h.jobs]
    · rfl
    · intro n job e hjob he hdone
      rcases Machine.getElem?_append_cases hjob with hjob | ⟨rfl, rfl⟩
      · rcases Machine.getElem?_append_cases he with he | ⟨rfl, -⟩
        · exact h.finished n job e hjob he hdone
        · have hlt := (List.getElem?_eq_some_iff.mp hjob).1
          omega
      · cases hdone
    · rw [hclaimed]
      simp [DispatcherStage.toSubmit]
  · cases hsubmit

theorem ServiceInv.step (h : ServiceInv settings s) {a : ServiceAction}
    (hstep : s.step settings a = some t) : ServiceInv settings t := by
  cases a with
  | pool a =>
    simp only [ScanQueueService.step] at hstep
    split_ifs at hstep with hmay
    obtain ⟨pool, hpool, rfl⟩ := Option.map_eq_some_iff.mp hstep
    exact h.poolStep hmay hpool
  | process a =>
    simp only [ScanQueueService.step] at hstep
    split_ifs at hstep with hmay
    obtain ⟨process, hprocess, rfl⟩ := Option.map_eq_some_iff.mp hstep
    exact h.processStep hmay hprocess
  | claim available now wall =>
    simp only [ScanQueueService.step] at hstep
    split_ifs at hstep with hroom
    split at hstep
    · cases hstep
    · rename_i process hprocess
      obtain ⟨pool, hpool, rfl⟩ := Option.map_eq_some_iff.mp hstep
      exact h.claim hroom hprocess hpool
  | submit =>
    simp only [ScanQueueService.step] at hstep
    split_ifs at hstep with hnone
    split at hstep
    · cases hstep
    · rename_i process hprocess
      obtain ⟨pool, hpool, rfl⟩ := Option.map_eq_some_iff.mp hstep
      exact h.submit hnone hprocess hpool

theorem ServiceInv.run {db : Database} {actions : List ServiceAction}
    (hrun : Machine.run (ScanQueueService.step settings) { process := { journal := ⟨db, []⟩ } }
      actions = some s) : ServiceInv settings s :=
  Machine.run_invariant (ServiceInv settings) (fun _ _ _ hs hstep => hs.step hstep)
    (ServiceInv.initial db) hrun

/-- What the threads of the process see of a step. -/
def ServiceAction.processActions : ServiceAction → List ProcessAction
  | .pool _ => []
  | .process a => [a]
  | .claim available now wall => [.claim available now wall]
  | .submit => [.submit]

/-- The pool only decides which runs of the process happen: what holds in every run of the process
holds in every run of the service. -/
theorem ScanQueueService.run_process {actions : List ServiceAction}
    (hrun : Machine.run (ScanQueueService.step settings) s actions = some t) :
    Machine.run (ScanProcess.serviceStep settings) s.process
      (actions.flatMap ServiceAction.processActions) = some t.process := by
  induction actions generalizing s with
  | nil =>
    cases hrun
    rfl
  | cons a rest ih =>
    obtain ⟨u, hu, hrest⟩ := Option.bind_eq_some_iff.mp hrun
    rw [List.flatMap_cons, Machine.run_append]
    suffices hstep : Machine.run (ScanProcess.serviceStep settings) s.process a.processActions =
        some u.process by
      rw [hstep]
      exact ih hrest
    cases a with
    | pool a =>
      simp only [ScanQueueService.step] at hu
      split_ifs at hu
      obtain ⟨pool, -, rfl⟩ := Option.map_eq_some_iff.mp hu
      rfl
    | process a =>
      simp only [ScanQueueService.step] at hu
      split_ifs at hu
      obtain ⟨process, hprocess, rfl⟩ := Option.map_eq_some_iff.mp hu
      simp [ServiceAction.processActions, Machine.run, hprocess]
    | claim available now wall =>
      simp only [ScanQueueService.step] at hu
      split_ifs at hu
      split at hu
      · cases hu
      · rename_i process hprocess
        obtain ⟨pool, -, rfl⟩ := Option.map_eq_some_iff.mp hu
        have hclaim : s.process.serviceStep settings (.claim available now wall) = some process :=
          hprocess
        simp [ServiceAction.processActions, Machine.run, hclaim]
    | submit =>
      simp only [ScanQueueService.step] at hu
      split_ifs at hu
      split at hu
      · cases hu
      · rename_i process hprocess
        obtain ⟨pool, -, rfl⟩ := Option.map_eq_some_iff.mp hu
        simp [ServiceAction.processActions, Machine.run, hprocess]

/-! ## What the service takes on -/

/-- An execution that has not finished keeps its job from being over. -/
theorem ServiceInv.unfinished_le (h : ServiceInv settings s) :
    s.process.executions.countP (·.stage ≠ .finished) ≤ s.pool.jobs.countP fun job => !job.isOver := by
  have hlength : s.process.executions.length = s.pool.jobs.length := by
    simpa using (congrArg List.length h.jobs).symm
  apply WorkerPool.countP_le_of_places hlength
  intro n e he hunfinished
  have hlt : n < s.pool.jobs.length := hlength ▸ (List.getElem?_eq_some_iff.mp he).1
  refine ⟨s.pool.jobs[n], List.getElem?_eq_getElem hlt, ?_⟩
  by_contra hover
  rw [Bool.not_eq_true, Bool.not_eq_false'] at hover
  have hdone : s.pool.jobs[n].isDone = true := by
    rw [WorkerPool.Job.isOver, decide_eq_true_eq] at hover
    simp [WorkerPool.Job.isDone, hover]
  exact of_decide_eq_true hunfinished (h.finished n _ e (List.getElem?_eq_getElem hlt) he hdone)

/-- Every claimed task is executed or about to be submitted, no more of them are unfinished than
there are workers, and the heartbeat runs until the last of them has finished. -/
structure ScanQueueService.Supplied (settings : QueueSettings) (s : ScanQueueService) : Prop where
  claimed : claimedTasks settings.workerId s.process.journal.events =
    s.process.executions.map (·.taskId) ++ s.process.dispatcher.toSubmit.1
  capacity : s.process.executions.countP (·.stage ≠ .finished) +
    s.process.dispatcher.toSubmit.1.length ≤ settings.maxWorkers
  room : ∀ available, s.pool.dispatcher = .claiming available →
    0 ≤ available ∧ available ≤ settings.maxWorkers
  beats : (∃ e ∈ s.process.executions, e.stage ≠ .finished) ∨ s.process.dispatcher.toSubmit.1 ≠ [] →
    s.pool.heartbeat = .waiting ∨ s.pool.heartbeat = .renewing
  drained : s.pool.control = .stopped →
    (∀ e ∈ s.process.executions, e.stage = .finished) ∧ s.process.dispatcher.toSubmit.1 = [] ∧
      s.pool.futures = []

/-- In every run of the service, over every order of the steps of its threads, of other processes
and of calls of `start` and `shutdown`. -/
theorem service_supplied {db : Database} {actions : List ServiceAction}
    (hrun : Machine.run (ScanQueueService.step settings) { process := { journal := ⟨db, []⟩ } }
      actions = some s) : s.Supplied settings := by
  have h := ServiceInv.run hrun
  have hunfinished := h.unfinished_le
  constructor
  · exact h.claimed
  · have hle := h.pool.pool.unfinished_le
    rw [h.items] at hle
    exact (Nat.add_le_add_right hunfinished _).trans hle
  · exact fun available hclaiming => h.pool.pool.room_bounds hclaiming
  · intro hwork
    have hbeats := h.pool.beats (hwork.imp ?_ fun hitems => h.items ▸ hitems)
    · rcases hbeats with hwaiting | hrenewing | hdied
      · exact Or.inl hwaiting
      · exact Or.inr hrenewing
      · exact absurd hdied h.undead
    · rintro ⟨e, he, hstage⟩
      have hpos : 0 < s.process.executions.countP (·.stage ≠ .finished) :=
        List.countP_pos_iff.mpr ⟨e, he, decide_eq_true hstage⟩
      obtain ⟨job, hjob, hover⟩ := List.countP_pos_iff.mp (hpos.trans_le hunfinished)
      exact ⟨job, hjob, by simpa using hover⟩
  · intro hstopped
    obtain ⟨hover, hitems, hfutures⟩ := h.pool.drained hstopped
    refine ⟨?_, h.items ▸ hitems, hfutures⟩
    have hnone : s.pool.jobs.countP (fun job => !job.isOver) = 0 := by
      rw [List.countP_eq_zero]
      intro job hjob
      simp [hover job hjob]
    rw [hnone, Nat.le_zero, List.countP_eq_zero] at hunfinished
    intro e he
    by_contra hstage
    exact hunfinished e he (decide_eq_true hstage)

/-! ## An error of a claim -/

/-- Until it is shut down, a service whose dispatcher has died claims and starts nothing more. -/
theorem ScanQueueService.halted_step (h : ServiceInv settings s) (hhalted : s.pool.Halted)
    {a : ServiceAction} (ha : a ≠ .pool .shutdown) (hstep : s.step settings a = some t) :
    t.pool.Halted ∧ t.process.executions.map (·.taskId) = s.process.executions.map (·.taskId) ∧
      claimedTasks settings.workerId t.process.journal.events =
        claimedTasks settings.workerId s.process.journal.events := by
  have hempty : s.process.dispatcher.toSubmit.1 = [] := by
    rw [← h.items, hhalted.2]
    rfl
  have hdispatcher : ∀ available, s.pool.dispatcher ≠ .claiming available := by
    intro available hclaiming
    rw [hhalted.2] at hclaiming
    cases hclaiming
  cases a with
  | pool a =>
    simp only [ScanQueueService.step] at hstep
    split_ifs at hstep
    obtain ⟨pool, hpool, rfl⟩ := Option.map_eq_some_iff.mp hstep
    exact ⟨(hhalted.step (fun hshutdown => ha (hshutdown ▸ rfl)) hpool).1, rfl, rfl⟩
  | process a =>
    simp only [ScanQueueService.step] at hstep
    split_ifs at hstep with hmay
    obtain ⟨process, hprocess, rfl⟩ := Option.map_eq_some_iff.mp hstep
    have hsame := ScanProcess.sameTasks_serviceStep (by rintro _ _ _ rfl; cases hmay)
      (fun _ => hempty) hprocess
    exact ⟨hhalted, hsame.executions, hsame.claimed⟩
  | claim available now wall =>
    simp only [ScanQueueService.step] at hstep
    split_ifs at hstep with hroom
    exact absurd hroom (hdispatcher available)
  | submit =>
    simp only [ScanQueueService.step, hempty] at hstep
    split_ifs at hstep

/-- An error of `_claim_tasks` ends the dispatcher of a started service. Whatever happens
afterwards, another call of `start` included, nothing more is claimed or executed until `shutdown`
is called. -/
theorem claim_error_halts {db : Database} {error : ServiceError}
    {before after : List ServiceAction} {u : ScanQueueService}
    (hbefore : Machine.run (ScanQueueService.step settings) { process := { journal := ⟨db, []⟩ } }
      before = some s)
    (hstarted : s.pool.control = .started)
    (hafter : Machine.run (ScanQueueService.step settings) s
      (.pool (.claimRaises error) :: after) = some u)
    (hup : ServiceAction.pool .shutdown ∉ after) :
    u.pool.control = .started ∧ u.pool.dispatcher = .died ∧
      u.process.executions.map (·.taskId) = s.process.executions.map (·.taskId) ∧
      claimedTasks settings.workerId u.process.journal.events =
        claimedTasks settings.workerId s.process.journal.events := by
  obtain ⟨t, ht, hrest⟩ := Option.bind_eq_some_iff.mp hafter
  have hinv := (ServiceInv.run hbefore).step ht
  simp only [ScanQueueService.step, ScanQueueService.mayStepPool, if_true] at ht
  obtain ⟨pool, hpool, rfl⟩ := Option.map_eq_some_iff.mp ht
  have hhalted : pool.Halted := by
    simp only [WorkerPool.State.step, WorkerPool.State.dispatcherStep] at hpool
    split at hpool
    any_goals contradiction
    rename_i heq _
    cases heq
    cases hpool
    exact ⟨hstarted, rfl⟩
  suffices hlater : ∀ t : ScanQueueService, ServiceInv settings t → t.pool.Halted →
      Machine.run (ScanQueueService.step settings) t after = some u →
      u.pool.Halted ∧ u.process.executions.map (·.taskId) = t.process.executions.map (·.taskId) ∧
        claimedTasks settings.workerId u.process.journal.events =
          claimedTasks settings.workerId t.process.journal.events by
    obtain ⟨⟨hcontrol, hdied⟩, hsame⟩ := hlater _ hinv hhalted hrest
    exact ⟨hcontrol, hdied, hsame⟩
  clear hafter hrest
  induction after with
  | nil =>
    rintro t - hhalted hrun
    cases hrun
    exact ⟨hhalted, rfl, rfl⟩
  | cons a rest ih =>
    intro t hinv hhalted hrun
    obtain ⟨v, hv, hrun⟩ := Option.bind_eq_some_iff.mp hrun
    obtain ⟨hhalted', htasks, hclaimed⟩ := ScanQueueService.halted_step hinv hhalted
      (fun ha => hup (ha ▸ List.mem_cons_self)) hv
    obtain ⟨hu, htasks', hclaimed'⟩ := ih (fun hmem => hup (List.mem_cons_of_mem a hmem)) v
      (hinv.step hv) hhalted' hrun
    exact ⟨hu, htasks'.trans htasks, hclaimed'.trans hclaimed⟩

/-- Up to the first claim. -/
def startedService : List ServiceAction :=
  [.pool .start, .pool .startDispatcher, .pool .check, .pool .measure]

theorem service_supplied_once :
    ∃ s, Machine.run (ScanQueueService.step oneWorker) { process := { journal := ⟨queuedScan, []⟩ } }
        (startedService ++ [.claim 2 5 5, .process .track, .submit, .pool .count]) = some s ∧
      s.process.executions = [⟨1, 0, .submitted⟩] ∧ s.Supplied oneWorker := by
  have hrun : ((Machine.run (ScanQueueService.step oneWorker)
      { process := { journal := ⟨queuedScan, []⟩ } }
      (startedService ++ [.claim 2 5 5, .process .track, .submit, .pool .count])).any
        fun s => s.process.executions = [⟨1, 0, .submitted⟩]) = true := by decide +kernel
  obtain ⟨s, hs, hexecutions⟩ := (Option.any_eq_true _ _).mp hrun
  exact ⟨s, hs, of_decide_eq_true hexecutions, service_supplied hs⟩

theorem claim_error_halts_at_start :
    ∃ u, Machine.run (ScanQueueService.step oneWorker) { process := { journal := ⟨queuedScan, []⟩ } }
        (startedService ++ [.pool (.claimRaises .databaseUnavailable), .pool .start,
          .pool .tick]) = some u ∧
      u.pool.dispatcher = .died ∧ claimedTasks "w" u.process.journal.events = [] := by
  have hbefore : ((Machine.run (ScanQueueService.step oneWorker)
      { process := { journal := ⟨queuedScan, []⟩ } } startedService).any fun s =>
        decide (s.pool.control = .started ∧ claimedTasks "w" s.process.journal.events = []) &&
          (Machine.run (ScanQueueService.step oneWorker) s [.pool (.claimRaises .databaseUnavailable),
            .pool .start, .pool .tick]).isSome) = true := by decide +kernel
  obtain ⟨s, hs, hstate⟩ := (Option.any_eq_true _ _).mp hbefore
  rw [Bool.and_eq_true, decide_eq_true_eq, Option.isSome_iff_exists] at hstate
  obtain ⟨⟨hstarted, hnone⟩, u, hu⟩ := hstate
  obtain ⟨-, hdied, -, hclaimed⟩ := claim_error_halts hs hstarted hu (by decide)
  refine ⟨u, ?_, hdied, hclaimed.trans hnone⟩
  rw [Machine.run_append, hs]
  exact hu

end ConnectionTopology
