import ConnectionTopology.ScanQueue.Interleaving

/-!
# Concurrent calls of `enqueue_device` and `create_batch`

Calls of several processes over the statements of their transactions. `_enqueue_lock`
admits one call per process at a time. An `INSERT` that meets a committed active task of its
device raises `IntegrityError`, which `PostgresTransactionRunner.run` does not retry; one that
meets an uncommitted task waits. A deadlock victim starts again with a new session, four
attempts in all. Calls are for existing devices that are enabled for collection; no caller of
`enqueue_device` passes a batch.
-/
namespace ConnectionTopology

inductive EnqueueCall
  | device (deviceId : ℕ) (trigger : ScanTrigger) (priority : ℤ)
  | batch (batchType : ScanBatchType) (deviceIds : List ℕ) (clusterId : Option ℕ)
  deriving DecidableEq, Repr

inductive EnqueueResult
  | task (taskId : ℕ)
  | batch (batchId : ℕ)
  | raised (error : QueueError)
  /-- `TransactionConflict`, after the last attempt. -/
  | conflict
  deriving DecidableEq, Repr

inductive EnqueueCallStage
  /-- Before the first statement of an attempt. -/
  | waiting
  /-- `create_batch` has selected its devices and found room. -/
  | admitted (selected : List ℕ)
  /-- The transaction, the uncommitted batch row, and the task to return. -/
  | running (tx : ℕ) (batch : Option ScanBatch) (taskId : Option ℕ)
  | returned (result : EnqueueResult)
  deriving DecidableEq, Repr

structure EnqueueRecord where
  process : ℕ
  call : EnqueueCall
  attempts : ℕ := 0
  stage : EnqueueCallStage := .waiting
  deriving DecidableEq, Repr

structure EnqueueRace where
  race : RaceState
  calls : List EnqueueRecord := []
  deriving DecidableEq, Repr

def EnqueueCall.deviceIds : EnqueueCall → List ℕ
  | .device deviceId _ _ => [deviceId]
  | .batch _ deviceIds _ => deviceIds

/-- The devices exist and are enabled, and so does the cluster. -/
def EnqueueCall.valid (db : Database) (call : EnqueueCall) : Bool :=
  (call.deviceIds.all fun id => db.devices.any fun d => d.id = id && d.collectionEnabled) &&
    match call with
    | .device _ _ _ => true
    | .batch _ _ clusterId => clusterId.all fun c => db.clusters.any (·.id = c)

def EnqueueCallStage.isReturned : EnqueueCallStage → Bool
  | .returned _ => true
  | _ => false

/-- `len(retry_delays) + 1`. -/
def maxAttempts : ℕ := 4

/-- The check of `_create_batch_in_session` before anything is inserted. -/
def batchFits (queueSize : ℕ) (db : Database) (selected : List ℕ) : Bool :=
  let active := ((db.scanTasks.filter fun t =>
    decide (t.deviceId ∈ selected) && t.status.isActive).map (·.deviceId)).dedup
  (activeCount db : ℤ) + ((selected.length : ℤ) - active.length) ≤ queueSize

inductive EnqueueAction
  | call (process : ℕ) (call : EnqueueCall)
  | begin (call : ℕ)
  | insertBatch (call : ℕ) (wall : Timestamp)
  | statement (call : ℕ) (statement : EnqueueStatement)
  | commit (call : ℕ) (wall : Timestamp)
  /-- The transaction is a deadlock victim or fails to serialise. -/
  | abort (call : ℕ)
  deriving DecidableEq, Repr

def EnqueueRace.setCall (s : EnqueueRace) (n : ℕ) (r : EnqueueRecord) (stage : EnqueueCallStage) :
    EnqueueRace :=
  { s with calls := s.calls.set n { r with stage := stage } }

def EnqueueRace.beginTx (s : EnqueueRace) (n : ℕ) (r : EnqueueRecord) (db : Database)
    (tx : EnqueueTx) (batch : Option ScanBatch) : EnqueueRace :=
  { race := ⟨db, s.race.txs ++ [.enqueue tx]⟩
    calls := s.calls.set n { r with stage := .running s.race.txs.length batch none } }

/-- The call's transaction is rolled back and the call goes on at the given stage. -/
def EnqueueRace.abandon (s : EnqueueRace) (n k : ℕ) (r : EnqueueRecord)
    (stage : EnqueueCallStage) : EnqueueRace :=
  { race := { s.race with txs := s.race.txs.set k .done }
    calls := s.calls.set n { r with stage := stage } }

/-- What an `INSERT` of a new task raises at once. -/
def EnqueueTx.insertError (queueSize : ℕ) (db : Database) (e : EnqueueTx) : Option QueueError :=
  match e.stage with
  | .missing deviceId =>
    if queueSize ≤ activeCount (e.visible db) then some .scanQueueFull
    else if (activeTask db deviceId).isSome then some .integrityError
    else none
  | _ => none

/-- The task that `_enqueue_in_session` returns. -/
def EnqueueTx.returnedTask (e : EnqueueTx) : Option ℕ :=
  match e.stage with
  | .holding task => some task.id
  | _ => none

def EnqueueRace.statementStep (queueSize : ℕ) (s : EnqueueRace) (n : ℕ) (r : EnqueueRecord)
    (k : ℕ) (batch : Option ScanBatch) (e : EnqueueTx) : EnqueueStatement → Option EnqueueRace
  | .insertTask wall =>
    match e.insertError queueSize s.race.db with
    | some error => some (s.abandon n k r (.returned (.raised error)))
    | none => (s.race.step queueSize (.enqueue k (.insertTask wall))).map fun race => { s with race }
  | .attach =>
    (s.race.step queueSize (.enqueue k .attach)).map fun race =>
      { race, calls := s.calls.set n { r with stage := .running k batch e.returnedTask } }
  | statement => (s.race.step queueSize (.enqueue k statement)).map fun race => { s with race }

/-- Commit the transaction, for a batch with its recounted row. -/
def EnqueueRace.commitStep (queueSize : ℕ) (s : EnqueueRace) (n : ℕ) (r : EnqueueRecord) (k : ℕ)
    (batch : Option ScanBatch) (taskId : Option ℕ) (wall : Timestamp) : Option EnqueueRace :=
  (s.race.step queueSize (.commitEnqueue k)).bind fun race =>
    match batch, taskId with
    | some batch, _ =>
      let db := refreshScanBatches wall [batch.id]
        { race.db with scanBatches := race.db.scanBatches ++ [batch] }
      some { race := { race with db }
             calls := s.calls.set n { r with stage := .returned (.batch batch.id) } }
    | none, some taskId =>
      some { race, calls := s.calls.set n { r with stage := .returned (.task taskId) } }
    | none, none => none

def EnqueueRace.step (queueSize : ℕ) (s : EnqueueRace) : EnqueueAction → Option EnqueueRace
  | .call process call =>
    if (s.calls.all fun r => r.process ≠ process || r.stage.isReturned) && call.valid s.race.db then
      some { s with calls := s.calls ++ [{ process, call }] }
    else none
  | .begin n =>
    match s.calls[n]? with
    | some r =>
      match r.stage, r.call with
      | .waiting, .device deviceId trigger priority =>
        some (s.beginTx n r s.race.db
          { batchId := none, trigger, priority, todo := [deviceId] } none)
      | .waiting, .batch _ deviceIds _ =>
        let selected := selectedIds s.race.db deviceIds
        if batchFits queueSize s.race.db selected then some (s.setCall n r (.admitted selected))
        else some (s.setCall n r (.returned (.raised .scanQueueFull)))
      | _, _ => none
    | none => none
  | .insertBatch n wall =>
    match s.calls[n]? with
    | some r =>
      match r.stage, r.call with
      | .admitted selected, .batch batchType _ clusterId =>
        let inserted := insertBatch batchType clusterId none wall s.race.db
        let (trigger, priority) := batchTriggerAndPriority batchType
        some (s.beginTx n r { s.race.db with sequences := inserted.2.sequences }
          { batchId := some inserted.1.id, trigger, priority, todo := selected } (some inserted.1))
      | _, _ => none
    | none => none
  | .statement n statement =>
    match s.calls[n]? with
    | some r =>
      match r.stage with
      | .running k batch _ =>
        match s.race.txs[k]? with
        | some (.enqueue e) => s.statementStep queueSize n r k batch e statement
        | _ => none
      | _ => none
    | none => none
  | .commit n wall =>
    match s.calls[n]? with
    | some r =>
      match r.stage with
      | .running k batch taskId => s.commitStep queueSize n r k batch taskId wall
      | _ => none
    | none => none
  | .abort n =>
    match s.calls[n]? with
    | some r =>
      match r.stage with
      | .running k _ _ =>
        some (s.abandon n k { r with attempts := r.attempts + 1 }
          (if r.attempts + 1 < maxAttempts then .waiting else .returned .conflict))
      | _ => none
    | none => none

end ConnectionTopology
