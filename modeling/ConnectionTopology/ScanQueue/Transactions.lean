import ConnectionTopology.Services.ScanQueue
import ConnectionTopology.Library.Machine

/-!
# Runs of whole transactions

A call is one transaction of any worker with its own start time and application
clock. A journal pairs the database with the calls made so far and their replies,
so that the claim history of a task is a function of the run and not a field that
the model maintains.
-/
namespace ConnectionTopology

inductive Transaction
  | enqueueDevice (queueSize deviceId : ℕ) (trigger : ScanTrigger) (priority : ℤ)
      (batchId : Option ℕ)
  | createBatch (queueSize : ℕ) (batchType : ScanBatchType) (deviceIds : List ℕ)
      (clusterId sourceImportBatchId : Option ℕ)
  | createImportScanBatch (queueSize importBatchId : ℕ)
  | claimScanTasks (workerId : String) (localCapacity globalLimit : ℤ) (leaseSeconds : ℕ)
  | renewScanLeases (workerId : String) (taskIds : List ℕ) (leaseSeconds : ℕ)
  | persistOutcome (workerId : String) (taskId : ℕ) (outcome : ScanOutcome)
  | recordTransactionConflict (workerId : String) (taskId : ℕ) (outcome : ScanOutcome)
  | failUnexpectedTask (workerId : String) (taskId : ℕ)
  | cancelDevice (deviceId : ℕ)
  deriving DecidableEq, Repr

structure Call where
  now : Timestamp
  wall : Timestamp
  transaction : Transaction
  deriving DecidableEq, Repr

inductive Reply
  | task (taskId : ℕ)
  | batch (batchId : Option ℕ)
  | claimed (taskIds : List ℕ)
  | lost (taskIds : List ℕ)
  | settled (success : Bool)
  | failed
  | cancelled (done : Bool)
  | raised (error : QueueError)
  deriving DecidableEq, Repr

/-- Commit a result, or roll back and report the error. -/
def Reply.commit {α : Type} (reply : α → Reply) (db : Database) :
    Except QueueError (α × Database) → Reply × Database
  | .ok (a, db') => (reply a, db')
  | .error e => (.raised e, db)

/-- Perform one call against the committed database. -/
def perform (call : Call) (db : Database) : Reply × Database :=
  match call.transaction with
  | .enqueueDevice queueSize deviceId trigger priority batchId =>
    Reply.commit .task db (enqueueDevice queueSize deviceId trigger priority batchId call.wall db)
  | .createBatch queueSize batchType deviceIds clusterId sourceImportBatchId =>
    Reply.commit (fun id => .batch (some id)) db
      (createBatch queueSize batchType deviceIds clusterId sourceImportBatchId call.wall db)
  | .createImportScanBatch queueSize importBatchId =>
    Reply.commit .batch db (createImportScanBatch queueSize importBatchId call.wall db)
  | .claimScanTasks workerId localCapacity globalLimit leaseSeconds =>
    let result := claimScanTasks workerId localCapacity globalLimit leaseSeconds call.now call.wall db
    (.claimed result.1, result.2)
  | .renewScanLeases workerId taskIds leaseSeconds =>
    let result := renewScanLeases workerId taskIds leaseSeconds call.now db
    (.lost result.1, result.2)
  | .persistOutcome workerId taskId outcome =>
    Reply.commit .settled db (persistOutcome workerId taskId outcome call.now call.wall db)
  | .recordTransactionConflict workerId taskId outcome =>
    Reply.commit .settled db (recordTransactionConflict workerId taskId outcome call.now call.wall db)
  | .failUnexpectedTask workerId taskId =>
    match failUnexpectedTask workerId taskId call.now call.wall db with
    | .ok db' => (.failed, db')
    | .error e => (.raised e, db)
  | .cancelDevice deviceId =>
    let result := cancelDevice deviceId call.wall db
    (.cancelled result.1, result.2)

structure Journal where
  database : Database
  events : List (Call × Reply)
  deriving DecidableEq, Repr

/-- Every transaction commits or rolls back, so a call is never blocked. -/
def Journal.step (j : Journal) (call : Call) : Option Journal :=
  let result := perform call j.database
  some ⟨result.2, j.events ++ [(call, result.1)]⟩

/-- Whether an event is a claim that took the task, and by whom. -/
def claimOf (taskId : ℕ) : Call × Reply → Option String
  | (⟨_, _, .claimScanTasks workerId _ _ _⟩, .claimed taskIds) =>
    if taskId ∈ taskIds then some workerId else none
  | _ => none

/-- The worker of the most recent claim of a task. -/
def lastClaim (events : List (Call × Reply)) (taskId : ℕ) : Option String :=
  events.reverse.findSome? (claimOf taskId)

theorem lastClaim_append (events : List (Call × Reply)) (e : Call × Reply) (taskId : ℕ) :
    lastClaim (events ++ [e]) taskId = (claimOf taskId e).or (lastClaim events taskId) := by
  simp only [lastClaim, List.reverse_append, List.reverse_singleton, List.singleton_append,
    List.findSome?_cons]
  cases claimOf taskId e <;> rfl

theorem Journal.step_eq_some {j j' : Journal} {call : Call} :
    j.step call = some j' ↔
      j' = ⟨(perform call j.database).2, j.events ++ [(call, (perform call j.database).1)]⟩ := by
  simp [Journal.step, eq_comm]

/-- A database that holds one device and has queued nothing yet. -/
def oneDeviceDatabase : Database where
  devices := [{ id := 1, name := "web-01", host := "10.0.0.10" }]

end ConnectionTopology
