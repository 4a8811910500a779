import ConnectionTopology.ScanQueue.Interleaving
import ConnectionTopology.Routes.Devices
import ConnectionTopology.Library.RowLocks

/-!
# Claiming and cancelling, statement by statement

Claims, renewals, settlements, cancellations and deletions as READ COMMITTED transactions,
one statement per action. A transaction takes its `now` from the clock when it begins and
keeps its row locks to the end; a statement that has to wait for a lock is not enabled, and
`SKIP LOCKED` passes over locked rows. Claims hold the advisory lock from their first
statement on. Items and batches are left out, because no statement here reads them.
-/
namespace ConnectionTopology

inductive ClaimStage
  /-- The transaction has begun and waits for the advisory lock. -/
  | waiting
  | locked
  /-- The expired rows have been locked and reset. -/
  | swept (expired : List ℕ)
  | counted (expired : List ℕ) (limit : ℕ)
  /-- The chosen rows have been locked and marked as running. -/
  | claiming (expired tasks : List ℕ)
  deriving DecidableEq, Repr

structure ClaimTx where
  workerId : String
  localCapacity : ℕ
  leaseSeconds : ℕ
  now : Timestamp
  stage : ClaimStage := .waiting
  deriving DecidableEq, Repr

/-- `renew_scan_leases`: `todo` are the rows that the `UPDATE` found, `renewed` those that
it has locked and changed. -/
structure RenewTx where
  workerId : String
  taskIds : List ℕ
  leaseSeconds : ℕ
  now : Timestamp
  todo : Option (List ℕ) := none
  renewed : List ℕ := []
  deriving DecidableEq, Repr

/-- `_persist_outcome` and `_fail_unexpected_task`. -/
structure HeldTx where
  workerId : String
  taskId : ℕ
  settlement : Settlement
  now : Timestamp
  holding : Bool := false
  deriving DecidableEq, Repr

inductive CancelStage
  | reading
  /-- The task that was read was pending. -/
  | writing (taskId : ℕ)
  /-- The row has been updated at this time, or there was none to update. -/
  | written (task : Option (ℕ × Timestamp))
  deriving DecidableEq, Repr

/-- `cancel_device`, alone or inside `delete_device`. -/
structure CancelTx where
  deviceId : ℕ
  deletes : Bool
  stage : CancelStage := .reading
  deriving DecidableEq, Repr

inductive QueueTx
  | claim (c : ClaimTx)
  | renew (r : RenewTx)
  | settle (t : HeldTx)
  | cancel (c : CancelTx)
  /-- What `cancel_device` returned. -/
  | answered (deviceId : ℕ) (cancelled : Bool)
  | done
  deriving DecidableEq, Repr

/-- The rows that a transaction has locked. -/
def QueueTx.locked : QueueTx → List ℕ
  | .claim c =>
    match c.stage with
    | .waiting | .locked => []
    | .swept expired | .counted expired _ => expired
    | .claiming expired tasks => expired ++ tasks
  | .renew r => r.renewed
  | .settle t => if t.holding then [t.taskId] else []
  | .cancel c =>
    match c.stage with
    | .written (some (taskId, _)) => [taskId]
    | _ => []
  | .answered _ _ | .done => []

/-- The claim has been granted the advisory lock. -/
def ClaimTx.holdsLock (c : ClaimTx) : Bool := c.stage ≠ .waiting

structure QueueState where
  db : Database
  clock : Timestamp := 0
  txs : List QueueTx := []
  deriving DecidableEq, Repr

/-- Another transaction has locked the row. -/
def QueueState.lockedByOther (s : QueueState) (n taskId : ℕ) : Bool :=
  RowLocks.lockedByOther QueueTx.locked s.txs n taskId

/-- `pg_advisory_xact_lock` is free. -/
def QueueState.lockFree (s : QueueState) : Bool :=
  s.txs.all fun
    | .claim c => !c.holdsLock
    | _ => true

/-! ## Statements of a claim -/

/-- The committed rows as the claim sees them after its sweep. -/
def sweptTasks (expired : List ℕ) (tasks : List ScanTask) : List ScanTask :=
  tasks.map fun t =>
    if t.id ∈ expired then { t.releaseLease with status := .pending } else t

/-- The rows of the `PENDING` query: ordered, unlocked, limited. -/
def QueueState.pendingTasks (s : QueueState) (n : ℕ) (expired : List ℕ) (limit : ℕ) : List ℕ :=
  (((sweptTasks expired s.db.scanTasks).filter fun t =>
    t.status = .pending && !s.lockedByOther n t.id).insertionSort claimsBefore |>.take limit).map
    (·.id)

/-- `min(local_capacity, max(global_limit - active_count, 0))`. -/
def claimLimit (globalLimit localCapacity : ℕ) (now : Timestamp) (tasks : List ScanTask) : ℕ :=
  min localCapacity (globalLimit - tasks.countP fun t => t.status = .running && t.isLeased now)

def ClaimTx.step (globalLimit : ℕ) (s : QueueState) (n : ℕ) (c : ClaimTx) : Option ClaimTx :=
  match c.stage with
  | .waiting => if s.lockFree then some { c with stage := .locked } else none
  | .locked =>
    let expired := (s.db.scanTasks.filter fun t =>
      t.isExpired c.now && !s.lockedByOther n t.id).map (·.id)
    some { c with stage := .swept expired }
  | .swept expired =>
    let limit := claimLimit globalLimit c.localCapacity c.now (sweptTasks expired s.db.scanTasks)
    some { c with stage := .counted expired limit }
  | .counted expired limit =>
    some { c with stage := .claiming expired (s.pendingTasks n expired limit) }
  | .claiming _ _ => none

/-- The rows as the claim commits them. -/
def ClaimTx.commit (c : ClaimTx) (expired tasks : List ℕ) (db : Database) : Database :=
  { db with
    scanTasks := (sweptTasks expired db.scanTasks).map fun t =>
      if t.id ∈ tasks then
        { t.claimedBy c.workerId c.now (c.now + c.leaseSeconds * microsPerSecond) with
          status := .running }
      else t }

/-! ## The other transactions -/

/-- The `UPDATE` goes on to its next row; a row that changed meanwhile is judged again. -/
def RenewTx.step (s : QueueState) (n : ℕ) (r : RenewTx) : Option RenewTx :=
  match r.todo with
  | none =>
    some { r with todo := some ((s.db.scanTasks.filter fun t =>
      t.id ∈ r.taskIds && t.isHeldBy r.workerId r.now).map (·.id)) }
  | some [] => none
  | some (taskId :: rest) =>
    if s.lockedByOther n taskId then none
    else if (heldTask r.workerId taskId r.now s.db).isSome then
      some { r with todo := some rest, renewed := r.renewed ++ [taskId] }
    else some { r with todo := some rest }

def RenewTx.commit (r : RenewTx) (db : Database) : Database :=
  { db with
    scanTasks := db.scanTasks.map fun t =>
      if t.id ∈ r.renewed then
        { t with
          heartbeatAt := some r.now
          leaseExpiresAt := some (r.now + r.leaseSeconds * microsPerSecond) }
      else t }

/-- `SELECT ... FOR UPDATE`; without a row the lease is lost and the transaction over. -/
def HeldTx.lock (s : QueueState) (n : ℕ) (t : HeldTx) : Option QueueTx :=
  if t.holding then none
  else
    match heldTask t.workerId t.taskId t.now s.db with
    | none => some .done
    | some task => if s.lockedByOther n task.id then none else some (.settle { t with holding := true })

def HeldTx.commit (t : HeldTx) (wall : Timestamp) (db : Database) : Option Database :=
  (t.settlement.write wall db).map fun (fields, db) =>
    db.updateTask t.taskId fun row =>
      { (fields row).releaseLease with status := t.settlement.status }

/-- `_active_task` without a lock, and what follows from its answer. -/
def CancelTx.read (s : QueueState) (c : CancelTx) : Option QueueTx :=
  if c.stage ≠ .reading then none
  else if c.deletes && !s.db.devices.any (·.id = c.deviceId) then some .done
  else
    match activeTask s.db c.deviceId with
    | none =>
      if c.deletes then some (.cancel { c with stage := .written none })
      else some (.answered c.deviceId true)
    | some task =>
      if task.status = .running then some (.answered c.deviceId false)
      else some (.cancel { c with stage := .writing task.id })

/-- The `UPDATE` by primary key. -/
def CancelTx.write (s : QueueState) (n : ℕ) (c : CancelTx) (wall : Timestamp) : Option QueueTx :=
  match c.stage with
  | .writing taskId =>
    if s.lockedByOther n taskId then none
    else if s.db.scanTasks.any (·.id = taskId) then
      some (.cancel { c with stage := .written (some (taskId, wall)) })
    else some .done
  | _ => none

/-- The rows as the cancellation commits them. -/
def CancelTx.commit (c : CancelTx) (task : Option (ℕ × Timestamp)) (db : Database) : Database :=
  let cancelled :=
    match task with
    | none => db
    | some (taskId, wall) =>
      db.updateTask taskId fun t => { t with status := .cancelled, finishedAt := some wall }
  if c.deletes then cancelled.dropDevice c.deviceId else cancelled

/-- The `DELETE` waits for the rows of the device that others have locked. -/
def CancelTx.mayCommit (s : QueueState) (n : ℕ) (c : CancelTx) : Bool :=
  !c.deletes || s.db.scanTasks.all fun t => t.deviceId ≠ c.deviceId || !s.lockedByOther n t.id

inductive QueueAction
  | tick (duration : ℕ)
  | beginClaim (workerId : String) (localCapacity leaseSeconds : ℕ)
  | claim (tx : ℕ)
  | commitClaim (tx : ℕ)
  | beginRenew (workerId : String) (taskIds : List ℕ) (leaseSeconds : ℕ)
  | renew (tx : ℕ)
  | commitRenew (tx : ℕ)
  | beginSettle (workerId : String) (taskId : ℕ) (settlement : Settlement)
  | lockTask (tx : ℕ)
  | commitSettle (tx : ℕ) (wall : Timestamp)
  | beginCancel (deviceId : ℕ) (deletes : Bool)
  | readActive (tx : ℕ)
  | writeCancelled (tx : ℕ) (wall : Timestamp)
  | commitCancel (tx : ℕ)
  | rollback (tx : ℕ)
  deriving DecidableEq, Repr

def QueueState.setTx (s : QueueState) (n : ℕ) (tx : QueueTx) : QueueState :=
  { s with txs := s.txs.set n tx }

def QueueState.begin (s : QueueState) (tx : QueueTx) : QueueState :=
  { s with txs := s.txs ++ [tx] }

/-- The transaction ends with this database. -/
def QueueState.finish (s : QueueState) (n : ℕ) (db : Database) (tx : QueueTx) : QueueState :=
  { s with db := db, txs := s.txs.set n tx }

def QueueState.step (globalLimit : ℕ) (s : QueueState) : QueueAction → Option QueueState
  | .tick duration => some { s with clock := s.clock + duration }
  | .beginClaim workerId localCapacity leaseSeconds =>
    if localCapacity = 0 then none
    else some (s.begin (.claim { workerId, localCapacity, leaseSeconds, now := s.clock }))
  | .claim n =>
    match s.txs[n]? with
    | some (.claim c) => (c.step globalLimit s n).map fun c => s.setTx n (.claim c)
    | _ => none
  | .commitClaim n =>
    match s.txs[n]? with
    | some (.claim c) =>
      match c.stage with
      | .claiming expired tasks => some (s.finish n (c.commit expired tasks s.db) .done)
      | _ => none
    | _ => none
  | .beginRenew workerId taskIds leaseSeconds =>
    some (s.begin (.renew { workerId, taskIds, leaseSeconds, now := s.clock }))
  | .renew n =>
    match s.txs[n]? with
    | some (.renew r) => (r.step s n).map fun r => s.setTx n (.renew r)
    | _ => none
  | .commitRenew n =>
    match s.txs[n]? with
    | some (.renew r) => if r.todo = some [] then some (s.finish n (r.commit s.db) .done) else none
    | _ => none
  | .beginSettle workerId taskId settlement =>
    some (s.begin (.settle { workerId, taskId, settlement, now := s.clock }))
  | .lockTask n =>
    match s.txs[n]? with
    | some (.settle t) => (t.lock s n).map fun tx => s.setTx n tx
    | _ => none
  | .commitSettle n wall =>
    match s.txs[n]? with
    | some (.settle t) =>
      if t.holding then (t.commit wall s.db).map fun db => s.finish n db .done else none
    | _ => none
  | .beginCancel deviceId deletes => some (s.begin (.cancel { deviceId, deletes }))
  | .readActive n =>
    match s.txs[n]? with
    | some (.cancel c) => (c.read s).map fun tx => s.setTx n tx
    | _ => none
  | .writeCancelled n wall =>
    match s.txs[n]? with
    | some (.cancel c) => (c.write s n wall).map fun tx => s.setTx n tx
    | _ => none
  | .commitCancel n =>
    match s.txs[n]? with
    | some (.cancel c) =>
      match c.stage with
      | .written task =>
        if c.mayCommit s n then
          some (s.finish n (c.commit task s.db) (.answered c.deviceId true))
        else none
      | _ => none
    | _ => none
  | .rollback n => some (s.setTx n .done)

/-! ## How a transaction goes on -/

variable {s : QueueState}

theorem HeldTx.lock_cases {n : ℕ} {t : HeldTx} {tx : QueueTx} (h : t.lock s n = some tx) :
    tx = .done ∨ ∃ task, heldTask t.workerId t.taskId t.now s.db = some task ∧
      s.lockedByOther n task.id = false ∧ tx = .settle { t with holding := true } := by
  unfold HeldTx.lock at h
  grind

/-- What `_active_task` found decides how the cancellation goes on. -/
theorem CancelTx.read_cases {c : CancelTx} {tx : QueueTx} (h : c.read s = some tx) :
    tx = .done ∨
      (activeTask s.db c.deviceId = none ∧
        (tx = .cancel { c with stage := .written none } ∨ tx = .answered c.deviceId true)) ∨
      ∃ task, activeTask s.db c.deviceId = some task ∧
        ((task.status = .running ∧ tx = .answered c.deviceId false) ∨
          (task.status ≠ .running ∧ tx = .cancel { c with stage := .writing task.id })) := by
  unfold CancelTx.read at h
  grind

theorem CancelTx.write_cases {n : ℕ} {wall : Timestamp} {c : CancelTx} {tx : QueueTx}
    (h : c.write s n wall = some tx) :
    ∃ taskId, c.stage = .writing taskId ∧ s.lockedByOther n taskId = false ∧
      (((∃ t ∈ s.db.scanTasks, t.id = taskId) ∧
        tx = .cancel { c with stage := .written (some (taskId, wall)) }) ∨ tx = .done) := by
  unfold CancelTx.write at h
  grind

end ConnectionTopology
