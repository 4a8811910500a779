import ConnectionTopology.ScanQueue.Transactions

/-!
# The threads of one scan queue process

The dispatcher claims tasks and submits them, the heartbeat renews the leases of the active
ones, and every execution runs `_execute_safely`. All of them use the process's one
`worker_id`. One action is one step between two points at which threads can interleave: a
transaction, a section under `_active_tasks_lock`, the non-blocking device lock, or the end
of a remote collection. Claims, renewals and settlements of other processes may come in
between.
-/
namespace ConnectionTopology

/-- What sends `_execute_safely` to `_fail_unexpected_task`. -/
inductive ExecutionError
  | scanAlreadyRunning
  | deviceNotFound
  | collectionDisabled
  | databaseError
  deriving DecidableEq, Repr

/-- Where an execution stands. -/
inductive ExecutionStage
  | submitted
  /-- The lease check has found the task. -/
  | leased (deviceId : ℕ) (trigger : ScanTrigger)
  /-- Inside `lock_for`, before `_load_target`. -/
  | locked (deviceId : ℕ) (trigger : ScanTrigger)
  /-- Inside `lock_for`, with the remote collection under way. -/
  | collecting (deviceId : ℕ) (trigger : ScanTrigger)
  | collected (outcome : ScanOutcome)
  | persisting (outcome : ScanOutcome)
  /-- The persisting transaction has given up with `TransactionConflict`. -/
  | conflicted (outcome : ScanOutcome)
  /-- In `finally`; without an error the execution is over afterwards. -/
  | releasing (error : Option ExecutionError)
  | failing (error : ExecutionError)
  | finished
  deriving DecidableEq, Repr

structure Execution where
  taskId : ℕ
  /-- The claim that started it, as a position in the journal. -/
  claim : ℕ
  stage : ExecutionStage := .submitted
  deriving DecidableEq, Repr

inductive DispatcherStage
  | idle
  /-- The claim has committed. -/
  | claimed (taskIds : List ℕ) (claim : ℕ)
  /-- `_active_task_ids` and `_lost_task_ids` are up to date. -/
  | submitting (taskIds : List ℕ) (claim : ℕ)
  deriving DecidableEq, Repr

inductive HeartbeatStage
  | waiting
  | renewing (taskIds : List ℕ)
  | marking (lost : List ℕ)
  deriving DecidableEq, Repr

structure ScanProcess where
  journal : Journal
  activeTaskIds : List ℕ := []
  lostTaskIds : List ℕ := []
  dispatcher : DispatcherStage := .idle
  heartbeat : HeartbeatStage := .waiting
  executions : List Execution := []
  deriving DecidableEq, Repr

structure QueueSettings where
  workerId : String
  maxWorkers : ℕ
  leaseSeconds : ℕ
  deriving DecidableEq, Repr

/-- The device whose lock the execution holds. -/
def ExecutionStage.lockedDevice : ExecutionStage → Option ℕ
  | .locked deviceId _ | .collecting deviceId _ => some deviceId
  | _ => none

/-- `lock.acquire(blocking=False)` would fail. -/
def ScanProcess.deviceLocked (s : ScanProcess) (deviceId : ℕ) : Bool :=
  s.executions.any (·.stage.lockedDevice = some deviceId)

/-- The worker on whose behalf a transaction runs. -/
def Transaction.worker? : Transaction → Option String
  | .claimScanTasks workerId _ _ _ => some workerId
  | .renewScanLeases workerId _ _ => some workerId
  | .persistOutcome workerId _ _ => some workerId
  | .recordTransactionConflict workerId _ _ => some workerId
  | .failUnexpectedTask workerId _ => some workerId
  | _ => none

/-- Run one transaction and record it. -/
def ScanProcess.transact (s : ScanProcess) (call : Call) : ScanProcess :=
  let result := perform call s.journal.database
  { s with journal := ⟨result.2, s.journal.events ++ [(call, result.1)]⟩ }

def ScanProcess.setStage (s : ScanProcess) (n : ℕ) (e : Execution) (stage : ExecutionStage) :
    ScanProcess :=
  { s with executions := s.executions.set n { e with stage := stage } }

/-- Where a persisting transaction leaves the execution: a lost lease ends it quietly. -/
def stageAfterPersist : Reply → ExecutionStage
  | .raised (.taskLeaseLost _) => .releasing none
  | .raised _ => .releasing (some .deviceNotFound)
  | _ => .releasing none

inductive ProcessAction
  /-- A claim, a renewal or a settlement of another process. -/
  | other (call : Call)
  | claim (available : ℤ) (now wall : Timestamp)
  | track
  | submit
  | beat
  | renew (now wall : Timestamp)
  | renewFails
  | markLost
  | checkLease (execution : ℕ) (now : Timestamp)
  | acquire (execution : ℕ)
  | loadTarget (execution : ℕ)
  | collect (execution : ℕ) (outcome : ScanOutcome)
  | raiseIfLost (execution : ℕ)
  | persist (execution : ℕ) (now wall : Timestamp)
  | recordConflict (execution : ℕ) (now wall : Timestamp)
  | release (execution : ℕ)
  | fail (execution : ℕ) (now wall : Timestamp)
  /-- The database is unavailable, or the transaction gives up after its retries. -/
  | databaseFails (execution : ℕ) (conflict : Bool)
  deriving DecidableEq, Repr

/-- The dispatcher, `_claim_tasks` and `_dispatch_loop`. -/
def ScanProcess.claimStep (settings : QueueSettings) (s : ScanProcess) (available : ℤ)
    (now wall : Timestamp) : Option ScanProcess :=
  if s.dispatcher ≠ .idle then none
  else
    let claimed := (claimScanTasks settings.workerId available settings.maxWorkers
      settings.leaseSeconds now wall s.journal.database).1
    let call : Call := ⟨now, wall, .claimScanTasks settings.workerId available settings.maxWorkers
      settings.leaseSeconds⟩
    some { s.transact call with
      dispatcher := if claimed = [] then .idle else .claimed claimed s.journal.events.length }

/-- `_release_active_task`, then the handlers of `_execute_safely`. -/
def ScanProcess.releaseStep (s : ScanProcess) (n : ℕ) (e : Execution)
    (error : Option ExecutionError) : ScanProcess :=
  { s.setStage n e (match error with
      | none => .finished
      | some error => .failing error) with
    activeTaskIds := s.activeTaskIds.filter (· ≠ e.taskId)
    lostTaskIds := s.lostTaskIds.filter (· ≠ e.taskId) }

/-- One step of an execution that is not a transaction of its own on the task. -/
def ScanProcess.executionStep (settings : QueueSettings) (s : ScanProcess) (n : ℕ) (e : Execution) :
    ProcessAction → Option ScanProcess
  | .checkLease _ now =>
    if e.stage ≠ .submitted then none
    else
      match heldTask settings.workerId e.taskId now s.journal.database with
      | none => some (s.setStage n e (.releasing none))
      | some task => some (s.setStage n e (.leased task.deviceId task.triggerType))
  | .acquire _ =>
    match e.stage with
    | .leased deviceId trigger =>
      if s.deviceLocked deviceId then some (s.setStage n e (.releasing (some .scanAlreadyRunning)))
      else some (s.setStage n e (.locked deviceId trigger))
    | _ => none
  | .loadTarget _ =>
    match e.stage with
    | .locked deviceId trigger =>
      match s.journal.database.devices.find? (·.id = deviceId) with
      | none => some (s.setStage n e (.releasing (some .deviceNotFound)))
      | some device =>
        if device.collectionEnabled then some (s.setStage n e (.collecting deviceId trigger))
        else some (s.setStage n e (.releasing (some .collectionDisabled)))
    | _ => none
  | .collect _ outcome =>
    match e.stage with
    | .collecting deviceId trigger =>
      if outcome.deviceId = deviceId ∧ outcome.trigger = trigger ∧ outcome.status ≠ .running then
        some (s.setStage n e (.collected outcome))
      else none
    | _ => none
  | .raiseIfLost _ =>
    match e.stage with
    | .collected outcome =>
      if e.taskId ∈ s.lostTaskIds then some (s.setStage n e (.releasing none))
      else some (s.setStage n e (.persisting outcome))
    | _ => none
  | .persist _ now wall =>
    match e.stage with
    | .persisting outcome =>
      let call : Call := ⟨now, wall, .persistOutcome settings.workerId e.taskId outcome⟩
      some ((s.transact call).setStage n e
        (stageAfterPersist (perform call s.journal.database).1))
    | _ => none
  | .recordConflict _ now wall =>
    match e.stage with
    | .conflicted outcome =>
      let call : Call := ⟨now, wall, .recordTransactionConflict settings.workerId e.taskId outcome⟩
      some ((s.transact call).setStage n e
        (stageAfterPersist (perform call s.journal.database).1))
    | _ => none
  | .release _ =>
    match e.stage with
    | .releasing error => some (s.releaseStep n e error)
    | _ => none
  | .fail _ now wall =>
    match e.stage with
    | .failing _ =>
      some ((s.transact ⟨now, wall, .failUnexpectedTask settings.workerId e.taskId⟩).setStage n e
        .finished)
    | _ => none
  | .databaseFails _ conflict =>
    match e.stage with
    | .submitted | .locked _ _ => some (s.setStage n e (.releasing (some .databaseError)))
    | .persisting outcome =>
      if conflict then some (s.setStage n e (.conflicted outcome))
      else some (s.setStage n e (.releasing (some .databaseError)))
    | .conflicted _ => some (s.setStage n e (.releasing none))
    | .failing _ => some (s.setStage n e .finished)
    | _ => none
  | _ => none

/-- The execution that takes the step. -/
def ProcessAction.execution? : ProcessAction → Option ℕ
  | .checkLease n _ | .acquire n | .loadTarget n | .collect n _ | .raiseIfLost n
  | .persist n _ _ | .recordConflict n _ _ | .release n | .fail n _ _ | .databaseFails n _ => some n
  | _ => none

def ScanProcess.step (settings : QueueSettings) (s : ScanProcess) (a : ProcessAction) :
    Option ScanProcess :=
  match a.execution? with
  | some n =>
    match s.executions[n]? with
    | some e => s.executionStep settings n e a
    | none => none
  | none =>
    match a with
    | .other call =>
      match call.transaction.worker? with
      | some workerId => if workerId = settings.workerId then none else some (s.transact call)
      | none => none
    | .claim available now wall => s.claimStep settings available now wall
    | .track =>
      match s.dispatcher with
      | .claimed taskIds claim =>
        some { s with
          dispatcher := .submitting taskIds claim
          activeTaskIds := s.activeTaskIds ++ taskIds
          lostTaskIds := s.lostTaskIds.filter (· ∉ taskIds) }
      | _ => none
    | .submit =>
      match s.dispatcher with
      | .submitting [] _ => some { s with dispatcher := .idle }
      | .submitting (taskId :: rest) claim =>
        some { s with
          dispatcher := .submitting rest claim
          executions := s.executions ++ [{ taskId, claim }] }
      | _ => none
    | .beat =>
      if s.heartbeat = .waiting ∧ s.activeTaskIds ≠ [] then
        some { s with heartbeat := .renewing s.activeTaskIds }
      else none
    | .renew now wall =>
      match s.heartbeat with
      | .renewing taskIds =>
        let call : Call := ⟨now, wall, .renewScanLeases settings.workerId taskIds
          settings.leaseSeconds⟩
        some { s.transact call with
          heartbeat := .marking
            (renewScanLeases settings.workerId taskIds settings.leaseSeconds now
              s.journal.database).1 }
      | _ => none
    | .renewFails =>
      match s.heartbeat with
      | .renewing _ => some { s with heartbeat := .waiting }
      | _ => none
    | .markLost =>
      match s.heartbeat with
      | .marking lost =>
        some { s with
          heartbeat := .waiting
          activeTaskIds := s.activeTaskIds.filter (· ∉ lost)
          lostTaskIds := s.lostTaskIds ++ lost }
      | _ => none
    | _ => none

end ConnectionTopology
