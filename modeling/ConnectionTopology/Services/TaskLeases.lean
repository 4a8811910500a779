import ConnectionTopology.Services.Scans

/-!
# Scan-task leases and batch counters

`task_leases.py`: refreshing the counters of a batch from its items, returning
expired tasks to the queue, claiming tasks under the global limit, and renewing
leases. Each operation is one whole transaction; `now` is the transaction's start
time and `wall` the application clock.
-/
namespace ConnectionTopology

/-! ## Moving a task together with its items -/

/-- Update one task row by its key. -/
def Database.updateTask (db : Database) (taskId : ℕ) (f : ScanTask → ScanTask) : Database :=
  { db with scanTasks := db.scanTasks.map fun t => if t.id = taskId then f t else t }

/-- `for item in task.items: item.status = status`. -/
def Database.setItems (db : Database) (taskId : ℕ) (status : ScanTaskStatus) : Database :=
  { db with
    scanBatchItems := db.scanBatchItems.map fun i =>
      if i.taskId = taskId then { i with status := status } else i }

/-- The batches that the loop over `task.items` collects. -/
def Database.itemBatchIds (db : Database) (taskId : ℕ) : List ℕ :=
  (db.scanBatchItems.filter (·.taskId = taskId)).map (·.batchId)

/-- Write a task's new fields and status and carry its items along. -/
def Database.moveTask (db : Database) (taskId : ℕ) (status : ScanTaskStatus)
    (f : ScanTask → ScanTask) : Database :=
  (db.updateTask taskId fun t => { f t with status := status }).setItems taskId status

/-! ## Batch counters -/

def Database.itemCount (db : Database) (batchId : ℕ) (status : ScanTaskStatus) : ℕ :=
  db.scanBatchItems.countP fun i => i.batchId = batchId && i.status = status

/-- `sum(counts.values())` over the status groups of the batch's items. -/
def Database.itemTotal (db : Database) (batchId : ℕ) : ℕ :=
  db.itemCount batchId .pending + db.itemCount batchId .running + db.itemCount batchId .success +
    db.itemCount batchId .failed + db.itemCount batchId .cancelled

/-- The body of the loop of `refresh_scan_batches` for a batch that exists. -/
def refreshedBatch (wall : Timestamp) (db : Database) (batch : ScanBatch) : ScanBatch :=
  let pending := db.itemCount batch.id .pending
  let running := db.itemCount batch.id .running
  let success := db.itemCount batch.id .success
  let failed := db.itemCount batch.id .failed + db.itemCount batch.id .cancelled
  let counted : ScanBatch := { batch with
    totalTasks := db.itemTotal batch.id
    pendingTasks := pending
    runningTasks := running
    successTasks := success
    failedTasks := failed }
  if pending ≠ 0 ∨ running ≠ 0 then
    { counted with
      status := if running ≠ 0 ∨ success ≠ 0 ∨ failed ≠ 0 then .running else .pending
      finishedAt := none }
  else
    { counted with status := .completed, finishedAt := some wall }

def refreshScanBatch (wall : Timestamp) (db : Database) (batchId : ℕ) : Database :=
  { db with
    scanBatches := db.scanBatches.map fun b => if b.id = batchId then refreshedBatch wall db b else b }

def refreshScanBatches (wall : Timestamp) (batchIds : List ℕ) (db : Database) : Database :=
  (batchIds.dedup.insertionSort (· ≤ ·)).foldl (refreshScanBatch wall) db

/-! ## Claims -/

/-- A running task whose lease is missing or over at `now`. -/
def ScanTask.isExpired (now : Timestamp) (t : ScanTask) : Bool :=
  t.status = .running && (match t.leaseExpiresAt with
    | none => true
    | some lease => lease ≤ now)

/-- `ScanTask.lease_expires_at > now`; a null lease does not satisfy it. -/
def ScanTask.isLeased (now : Timestamp) (t : ScanTask) : Bool :=
  match t.leaseExpiresAt with
  | none => false
  | some lease => now < lease

/-- The fields that `_reset_expired_scan_task` clears. -/
def ScanTask.releaseLease (t : ScanTask) : ScanTask :=
  { t with workerId := none, leaseExpiresAt := none, heartbeatAt := none }

def resetExpiredScanTask (taskId : ℕ) (db : Database) : Database :=
  db.moveTask taskId .pending ScanTask.releaseLease

/-- The fields that a claim writes. -/
def ScanTask.claimedBy (workerId : String) (now leaseUntil : Timestamp) (t : ScanTask) : ScanTask :=
  { t with
    workerId := some workerId
    startedAt := some (t.startedAt.getD now)
    heartbeatAt := some now
    leaseExpiresAt := some leaseUntil
    attemptCount := t.attemptCount + 1 }

def markScanTaskRunning (workerId : String) (now leaseUntil : Timestamp) (taskId : ℕ)
    (db : Database) : Database :=
  db.moveTask taskId .running (ScanTask.claimedBy workerId now leaseUntil)

/-- `ORDER BY priority DESC, created_at, id`. -/
def claimsBefore (a b : ScanTask) : Prop :=
  b.priority < a.priority ∨
    (a.priority = b.priority ∧ (a.createdAt < b.createdAt ∨
      (a.createdAt = b.createdAt ∧ a.id ≤ b.id)))

instance : DecidableRel claimsBefore := fun _ _ =>
  inferInstanceAs (Decidable (_ ∨ (_ ∧ (_ ∨ (_ ∧ _)))))

/-- A loop that moves tasks one by one and gathers the batches of their items. -/
def moveTasks (move : ℕ → Database → Database) :
    List ℕ → List ℕ × Database → List ℕ × Database
  | [], acc => acc
  | taskId :: rest, (batchIds, db) =>
    moveTasks move rest (batchIds ++ db.itemBatchIds taskId, move taskId db)

def claimScanTasks (workerId : String) (localCapacity globalLimit : ℤ) (leaseSeconds : ℕ)
    (now wall : Timestamp) (db : Database) : List ℕ × Database :=
  if localCapacity ≤ 0 then ([], db)
  else
    let expired := (db.scanTasks.filter (·.isExpired now)).map (·.id)
    let swept := moveTasks resetExpiredScanTask expired ([], db)
    let activeCount := swept.2.scanTasks.countP fun t => t.status = .running && t.isLeased now
    let claimLimit := min localCapacity (max (globalLimit - activeCount) 0)
    let tasks :=
      if claimLimit ≠ 0 then
        (((swept.2.scanTasks.filter (·.status = .pending)).insertionSort claimsBefore).take
          claimLimit.toNat).map (·.id)
      else []
    let leaseUntil := now + leaseSeconds * microsPerSecond
    let claimed := moveTasks (markScanTaskRunning workerId now leaseUntil) tasks swept
    (tasks, refreshScanBatches wall claimed.1 claimed.2)

/-- The `WHERE` clause shared by renewing and settling: a live lease held by the worker. -/
def ScanTask.isHeldBy (workerId : String) (now : Timestamp) (t : ScanTask) : Bool :=
  t.status = .running && t.workerId = some workerId && t.isLeased now

/-- The identifiers that are no longer owned, and the renewed leases. -/
def renewScanLeases (workerId : String) (taskIds : List ℕ) (leaseSeconds : ℕ) (now : Timestamp)
    (db : Database) : List ℕ × Database :=
  if taskIds.isEmpty then ([], db)
  else
    let renews := fun t : ScanTask => decide (t.id ∈ taskIds) && t.isHeldBy workerId now
    let renewed := (db.scanTasks.filter renews).map (·.id)
    (taskIds.dedup.filter (· ∉ renewed), { db with
      scanTasks := db.scanTasks.map fun t =>
        if renews t then
          { t with
            heartbeatAt := some now
            leaseExpiresAt := some (now + leaseSeconds * microsPerSecond) }
        else t })

end ConnectionTopology
