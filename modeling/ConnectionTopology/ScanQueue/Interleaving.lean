import ConnectionTopology.ScanQueue.Frames
import ConnectionTopology.Library.Machine

/-!
# Enqueuing and settling, statement by statement

Enqueuing and settling transactions at READ COMMITTED, one statement per action.
The sessions do not autoflush: new items and raised priorities stay in the session
until `session.flush()`. A statement that has to wait for a row lock is not enabled,
and a transaction may be rolled back at any point. Batch rows are left out, because
they are only recounted from the items.
-/
namespace ConnectionTopology

/-- Where an enqueuing transaction stands in `_enqueue_in_session`. -/
inductive EnqueueStage
  /-- Before the `SELECT` of the next device's active task, or past the last device. -/
  | select
  /-- The device has no active task. -/
  | missing (deviceId : ℕ)
  /-- The task object that `_attach_batch_item` will receive. -/
  | holding (task : ScanTask)
  /-- Inside `session.flush()`, after a new task or at the end. -/
  | flush (next : Option ScanTask)
  deriving DecidableEq, Repr

structure EnqueueTx where
  batchId : Option ℕ
  trigger : ScanTrigger
  priority : ℤ
  todo : List ℕ
  stage : EnqueueStage := .select
  /-- Tasks whose raised priority is not flushed. -/
  dirty : List ℕ := []
  /-- Items added to the session and not flushed. -/
  pending : List ScanBatchItem := []
  /-- Tasks updated by this transaction, whose rows it has locked. -/
  raised : List ℕ := []
  ownTasks : List ScanTask := []
  /-- Items inserted by this transaction; each holds a key-share lock on its task. -/
  ownItems : List ScanBatchItem := []
  deriving DecidableEq, Repr

/-- The body of a settling transaction. -/
inductive Settlement
  | persist (outcome : ScanOutcome)
  | fail
  deriving DecidableEq, Repr

def Settlement.status : Settlement → ScanTaskStatus
  | .persist outcome => settledStatus outcome
  | .fail => .failed

/-- A settling transaction that has locked its task. -/
structure SettleTx where
  taskId : ℕ
  settlement : Settlement
  /-- What `task.items` returned, once it has been loaded. -/
  items : Option (List ScanBatchItem) := none
  deriving DecidableEq, Repr

inductive Tx
  | enqueue (e : EnqueueTx)
  | settle (t : SettleTx)
  | done
  deriving DecidableEq, Repr

/-- The committed rows and every transaction begun so far. -/
structure RaceState where
  db : Database
  txs : List Tx := []
  deriving DecidableEq, Repr

/-- `SELECT ... FOR UPDATE` by a settling transaction. -/
def RaceState.lockedForUpdate (s : RaceState) (taskId : ℕ) : Bool :=
  s.txs.any fun
    | .settle t => t.taskId = taskId
    | _ => false

/-- An enqueuing transaction has updated the task's row. -/
def RaceState.rowUpdated (s : RaceState) (taskId : ℕ) : Bool :=
  s.txs.any fun
    | .enqueue e => taskId ∈ e.raised
    | _ => false

/-- The foreign key of an uncommitted item holds the task's row. -/
def RaceState.keyShared (s : RaceState) (taskId : ℕ) : Bool :=
  s.txs.any fun
    | .enqueue e => e.ownItems.any (·.taskId = taskId)
    | _ => false

/-- No committed or uncommitted row stands in the way of the partial unique index. -/
def RaceState.deviceFree (s : RaceState) (deviceId : ℕ) : Bool :=
  (activeTask s.db deviceId).isNone && s.txs.all fun
    | .enqueue e => e.ownTasks.all (·.deviceId ≠ deviceId)
    | _ => true

/-- No committed or uncommitted item has the batch and device of this one. -/
def RaceState.itemFree (s : RaceState) (item : ScanBatchItem) : Bool :=
  let clash := fun i : ScanBatchItem =>
    decide (i.batchId = item.batchId) && decide (i.deviceId = item.deviceId)
  !s.db.scanBatchItems.any clash && s.txs.all fun
    | .enqueue e => !e.ownItems.any clash
    | _ => true

/-- The rows a transaction sees: the committed ones and its own. -/
def EnqueueTx.visible (e : EnqueueTx) (db : Database) : Database :=
  { db with
    scanTasks := db.scanTasks ++ e.ownTasks
    scanBatchItems := db.scanBatchItems ++ e.ownItems }

inductive EnqueueStatement
  | readTask
  | insertTask (wall : Timestamp)
  | attach
  | beginFlush
  | flushPriority
  | insertItem
  | endFlush
  deriving DecidableEq, Repr

/-- The session object for a reused task, with its priority raised in memory. -/
def EnqueueTx.reuse (e : EnqueueTx) (task : ScanTask) : EnqueueTx :=
  if task.priority < e.priority then
    { e with
      stage := .holding { task with priority := e.priority, triggerType := e.trigger }
      dirty := e.dirty ++ [task.id] }
  else { e with stage := .holding task }

/-- `_attach_batch_item`: read the existing item without a lock, else add a new one
that carries the status of the object in hand. -/
def EnqueueTx.attach (e : EnqueueTx) (db : Database) (task : ScanTask) : EnqueueTx :=
  match e.batchId with
  | none => { e with stage := .select }
  | some batchId =>
    if (e.visible db).scanBatchItems.any fun i =>
        i.batchId = batchId && i.deviceId = task.deviceId then
      { e with stage := .select }
    else { e with
      stage := .select
      pending := e.pending ++
        [{ batchId, taskId := task.id, deviceId := task.deviceId, status := task.status }] }

/-- One statement of an enqueuing transaction; a new task takes its key from the
sequence at once, even if the transaction is rolled back later. -/
def EnqueueTx.step (queueSize : ℕ) (s : RaceState) (e : EnqueueTx) :
    EnqueueStatement → Option (Database × EnqueueTx)
  | .readTask =>
    match e.stage, e.todo with
    | .select, deviceId :: rest =>
      if s.db.devices.any fun d => d.id = deviceId && d.collectionEnabled then
        match activeTask (e.visible s.db) deviceId with
        | none => some (s.db, { e with todo := rest, stage := .missing deviceId })
        | some task => some (s.db, EnqueueTx.reuse { e with todo := rest } task)
      else none
    | _, _ => none
  | .insertTask wall =>
    match e.stage with
    | .missing deviceId =>
      if activeCount (e.visible s.db) < queueSize ∧ s.deviceFree deviceId then
        let inserted := insertTask deviceId e.trigger e.priority wall s.db
        some ({ s.db with sequences := inserted.2.sequences },
          { e with ownTasks := e.ownTasks ++ [inserted.1], stage := .flush (some inserted.1) })
      else none
    | _ => none
  | .attach =>
    match e.stage with
    | .holding task => some (s.db, e.attach s.db task)
    | _ => none
  | .beginFlush =>
    match e.stage, e.todo with
    | .select, [] => some (s.db, { e with stage := .flush none })
    | _, _ => none
  | .flushPriority =>
    match e.stage, e.dirty with
    | .flush _, taskId :: rest =>
      if s.lockedForUpdate taskId || s.rowUpdated taskId then none
      else some (s.db, { e with dirty := rest, raised := e.raised ++ [taskId] })
    | _, _ => none
  | .insertItem =>
    match e.stage, e.dirty, e.pending with
    | .flush _, [], item :: rest =>
      if s.lockedForUpdate item.taskId || !s.itemFree item then none
      else some (s.db, { e with pending := rest, ownItems := e.ownItems ++ [item] })
    | _, _, _ => none
  | .endFlush =>
    match e.stage, e.dirty, e.pending with
    | .flush (some task), [], [] => some (s.db, { e with stage := .holding task })
    | _, _, _ => none

/-- The rows as the enqueuing transaction commits them. -/
def EnqueueTx.commit (e : EnqueueTx) (db : Database) : Database :=
  { db with
    scanTasks := (db.scanTasks.map fun t =>
      if t.id ∈ e.raised then { t with priority := e.priority, triggerType := e.trigger }
      else t) ++ e.ownTasks
    scanBatchItems := db.scanBatchItems ++ e.ownItems }

/-- What a settlement writes besides the status: the task's fields and, for an
outcome, the scan run with its rows. -/
def Settlement.write (wall : Timestamp) (db : Database) :
    Settlement → Option ((ScanTask → ScanTask) × Database)
  | .persist outcome =>
    match addScanOutcome outcome db with
    | .error _ => none
    | .ok (run, db) => some (ScanTask.withOutcome run outcome, db)
  | .fail => some (ScanTask.withInternalError wall, db)

/-- The two values are versions of one row; its batch, device and task never change. -/
def ScanBatchItem.sameRow (i j : ScanBatchItem) : Bool :=
  i.batchId = j.batchId && i.deviceId = j.deviceId && i.taskId = j.taskId

/-- Only the items that were loaded are updated. -/
def setLoadedItems (loaded : List ScanBatchItem) (status : ScanTaskStatus) (db : Database) :
    Database :=
  { db with
    scanBatchItems := db.scanBatchItems.map fun i =>
      if loaded.any i.sameRow then { i with status := status } else i }

def SettleTx.commit (t : SettleTx) (loaded : List ScanBatchItem) (wall : Timestamp)
    (db : Database) : Option Database :=
  (t.settlement.write wall db).map fun (fields, db) =>
    setLoadedItems loaded t.settlement.status
      (db.updateTask t.taskId fun row =>
        { (fields row).releaseLease with status := t.settlement.status })

inductive RaceAction
  | beginEnqueue (batchId : Option ℕ) (trigger : ScanTrigger) (priority : ℤ) (deviceIds : List ℕ)
  | enqueue (tx : ℕ) (statement : EnqueueStatement)
  | commitEnqueue (tx : ℕ)
  | lockTask (workerId : String) (taskId : ℕ) (now : Timestamp) (settlement : Settlement)
  | readItems (tx : ℕ)
  | commitSettle (tx : ℕ) (wall : Timestamp)
  | rollback (tx : ℕ)
  deriving DecidableEq, Repr

def RaceState.step (queueSize : ℕ) (s : RaceState) : RaceAction → Option RaceState
  | .beginEnqueue batchId trigger priority deviceIds =>
    some { s with txs := s.txs ++
      [.enqueue { batchId, trigger, priority, todo := uniqueIds deviceIds }] }
  | .enqueue n statement =>
    match s.txs[n]? with
    | some (.enqueue e) =>
      (e.step queueSize s statement).map fun r => ⟨r.1, s.txs.set n (.enqueue r.2)⟩
    | _ => none
  | .commitEnqueue n =>
    match s.txs[n]? with
    | some (.enqueue e) =>
      if e.stage = .flush none ∧ e.dirty = [] ∧ e.pending = [] then
        some ⟨e.commit s.db, s.txs.set n .done⟩
      else none
    | _ => none
  | .lockTask workerId taskId now settlement =>
    if s.lockedForUpdate taskId || s.rowUpdated taskId || s.keyShared taskId then none
    else (heldTask workerId taskId now s.db).map fun task =>
      { s with txs := s.txs ++ [.settle { taskId := task.id, settlement }] }
  | .readItems n =>
    match s.txs[n]? with
    | some (.settle t) =>
      if t.items.isSome then none
      else some { s with txs := s.txs.set n (.settle { t with
        items := some (s.db.scanBatchItems.filter (·.taskId = t.taskId)) }) }
    | _ => none
  | .commitSettle n wall =>
    match s.txs[n]? with
    | some (.settle t) =>
      match t.items with
      | none => none
      | some loaded => (t.commit loaded wall s.db).map fun db => ⟨db, s.txs.set n .done⟩
    | _ => none
  | .rollback n => some { s with txs := s.txs.set n .done }

/-- No transaction is in flight. -/
def RaceState.Quiescent (s : RaceState) : Prop := ∀ tx ∈ s.txs, tx = .done

instance (s : RaceState) : Decidable s.Quiescent := inferInstanceAs (Decidable (∀ _ ∈ _, _))

/-- A settlement writes no task row but its own, and no item. -/
theorem Settlement.write_frame {settlement : Settlement} {wall : Timestamp} {db db' : Database}
    {fields : ScanTask → ScanTask} (h : settlement.write wall db = some (fields, db')) :
    db'.scanTasks = db.scanTasks ∧ db'.scanBatchItems = db.scanBatchItems ∧
      db'.devices.map (·.id) = db.devices.map (·.id) ∧
      db'.sequences.scanTasks = db.sequences.scanTasks ∧
      ∀ row, (fields row).id = row.id ∧ (fields row).deviceId = row.deviceId := by
  unfold Settlement.write at h
  split at h
  · split at h
    · cases h
    · rename_i hadd
      obtain ⟨-, -, htasks, -, hitems, hdevices, hseq, -⟩ := addScanOutcome_ok hadd
      cases h
      exact ⟨htasks, hitems, hdevices, hseq, fun _ => ⟨rfl, rfl⟩⟩
  · cases h
    exact ⟨rfl, rfl, rfl, rfl, fun _ => ⟨rfl, rfl⟩⟩

theorem Settlement.status_not_active (settlement : Settlement) :
    settlement.status.isActive = false := by
  cases settlement with
  | persist outcome =>
    simp only [Settlement.status, settledStatus]
    split_ifs <;> rfl
  | fail => rfl

end ConnectionTopology
