import ConnectionTopology.Services.ImportTests
import ConnectionTopology.Routes.Devices
import ConnectionTopology.Library.Machine

/-!
# Executions of `test_row`

Any number of executions of `test_row`, by any workers, one transaction per action.
The log records the transactions that turned a batch into a completed one and the
calls of `batch_completed_callback`, which is `create_import_scan_batch`.
-/
namespace ConnectionTopology

/-- Where one execution of `test_row` stands. -/
inductive TestPoint
  | load
  /-- The outcome of `_test_target` is to be saved. -/
  | save (outcome : ImportTestOutcome)
  | callback (batchId : ℕ)
  /-- The last `except` branch, before `claim_failed_import_test_row`. -/
  | failing
  /-- The last `except` branch, before its `_save_result`. -/
  | failingSave
  | done
  deriving DecidableEq, Repr

structure TestThread where
  workerId : String
  rowId : ℕ
  point : TestPoint := .load
  deriving DecidableEq, Repr

inductive ImportEvent
  | completed (batchId : ℕ)
  | callback (batchId : ℕ)
  deriving DecidableEq, Repr

structure TestState where
  db : Database
  threads : List TestThread := []
  log : List ImportEvent := []
  deriving DecidableEq, Repr

/-- What the transactions of one process are configured with. -/
structure TestSettings where
  globalLimit : ℤ
  leaseSeconds : ℕ
  queueSize : ℕ
  deriving DecidableEq, Repr

inductive TestAction
  | claim (workerId : String) (localCapacity : ℤ) (now wall : Timestamp)
  | renew (workerId : String) (rowIds : List ℕ) (now : Timestamp)
  | deleteDevice (deviceId : ℕ) (wall : Timestamp)
  | begin (workerId : String) (rowId : ℕ)
  /-- `_load_target`, then `_test_target`; the connection test answers `outcome`. -/
  | load (thread : ℕ) (outcome : ImportTestOutcome) (now wall : Timestamp)
  /-- The heartbeat has reported the row as lost. -/
  | lose (thread : ℕ)
  | save (thread : ℕ) (now wall : Timestamp)
  | callback (thread : ℕ) (wall : Timestamp)
  /-- An unexpected exception; its transaction is rolled back. -/
  | raise (thread : ℕ)
  | claimFailed (thread : ℕ) (now wall : Timestamp)
  | saveFailed (thread : ℕ) (message : String) (now wall : Timestamp)
  deriving DecidableEq, Repr

/-- `_test_target`: a device that is gone fails without a connection. -/
def testTarget (target : Option Device) (outcome : ImportTestOutcome) : ImportTestOutcome :=
  match target with
  | none => ⟨false, "导入设备不存在"⟩
  | some _ => outcome

def TestState.moveTo (s : TestState) (n : ℕ) (t : TestThread) (point : TestPoint) : TestState :=
  { s with threads := s.threads.set n { t with point := point } }

/-- Record that a saved result completed a batch. -/
def TestState.record (s : TestState) (completed : Option ℕ) : TestState :=
  { s with log := s.log ++ (completed.map ImportEvent.completed).toList }

def TestState.step (c : TestSettings) (s : TestState) : TestAction → Option TestState
  | .claim workerId localCapacity now wall =>
    some { s with
      db := (claimImportTests workerId localCapacity c.globalLimit c.leaseSeconds now wall s.db).2 }
  | .renew workerId rowIds now =>
    some { s with db := (renewImportTestLeases workerId rowIds c.leaseSeconds now s.db).2 }
  | .deleteDevice deviceId wall =>
    match deleteDevice deviceId wall s.db with
    | .ok db => some { s with db := db }
    | .error _ => some s
  | .begin workerId rowId => some { s with threads := s.threads ++ [{ workerId, rowId }] }
  | .load n outcome now wall =>
    match s.threads[n]? with
    | some t =>
      if t.point = .load then
        match loadTarget t.workerId t.rowId c.globalLimit c.leaseSeconds now wall s.db with
        | .error _ => some (s.moveTo n t .done)
        | .ok (target, db) =>
          some ({ s with db := db }.moveTo n t (.save (testTarget target outcome)))
      else none
    | none => none
  | .lose n =>
    match s.threads[n]? with
    | some t =>
      match t.point with
      | .save _ => some (s.moveTo n t .done)
      | _ => none
    | none => none
  | .save n now wall =>
    match s.threads[n]? with
    | some t =>
      match t.point with
      | .save outcome =>
        match saveResult t.workerId t.rowId outcome now wall s.db with
        | .error _ => some (s.moveTo n t .done)
        | .ok (none, db) => some ({ s with db := db }.moveTo n t .done)
        | .ok (some batchId, db) =>
          some (({ s with db := db }.record (some batchId)).moveTo n t (.callback batchId))
      | _ => none
    | none => none
  | .callback n wall =>
    match s.threads[n]? with
    | some t =>
      match t.point with
      | .callback batchId =>
        let called : TestState := { s with log := s.log ++ [.callback batchId] }
        match createImportScanBatch c.queueSize batchId wall s.db with
        | .ok (_, db) => some ({ called with db := db }.moveTo n t .done)
        | .error _ => some (called.moveTo n t .failing)
      | _ => none
    | none => none
  | .raise n =>
    match s.threads[n]? with
    | some t =>
      match t.point with
      | .load | .save _ => some (s.moveTo n t .failing)
      | .failing | .failingSave => some (s.moveTo n t .done)
      | .callback _ | .done => none
    | none => none
  | .claimFailed n now wall =>
    match s.threads[n]? with
    | some t =>
      if t.point = .failing then
        let db := claimSpecific t.workerId t.rowId c.globalLimit c.leaseSeconds now wall s.db
        some ({ s with db := db }.moveTo n t .failingSave)
      else none
    | none => none
  | .saveFailed n message now wall =>
    match s.threads[n]? with
    | some t =>
      if t.point = .failingSave then
        match saveResult t.workerId t.rowId ⟨false, "连接测试内部异常：" ++ message⟩ now wall s.db with
        | .error _ => some (s.moveTo n t .done)
        -- the batch that this result completed is not looked at
        | .ok (completed, db) => some (({ s with db := db }.record completed).moveTo n t .done)
      else none
    | none => none

def TestState.completions (s : TestState) (batchId : ℕ) : ℕ := s.log.count (.completed batchId)

def TestState.callbacks (s : TestState) (batchId : ℕ) : ℕ := s.log.count (.callback batchId)

/-- Executions that are about to call back for the batch. -/
def TestState.waiting (s : TestState) (batchId : ℕ) : ℕ :=
  s.threads.countP (·.point = .callback batchId)

end ConnectionTopology
