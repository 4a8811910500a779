import ConnectionTopology.Library.Machine
import ConnectionTopology.Services.DatabaseTransactions

/-!
# The transaction slots of one runner

`PostgresTransactionRunner` of `database_transactions.py`, used by any number of threads. What the
code around and inside the calls of the runner does (which calls it makes, what it returns or
raises) is up to the actions. Every access to the semaphore is a step of its own, so every state
in between is a state of a run. An exception may strike a thread at every point: a call made there
raises it, or a signal does.
-/
namespace ConnectionTopology.TransactionSlots

/-- The connection pool of the engine, as `_pool_capacity` reads it. -/
structure ConnectionPool where
  /-- `pool.size()`, if it can be called and gives an `int`. -/
  size : Option ℤ
  /-- `pool._max_overflow`, if it is an `int`; 0 when there is none. -/
  maxOverflow : Option ℤ := some 0
  deriving DecidableEq, Repr

def poolCapacity : Option ConnectionPool → Option ℕ
  | some ⟨some size, some maxOverflow⟩ => some (max 1 (size + max 0 maxOverflow)).toNat
  | _ => none

structure Runner (δ : Type) where
  retryDelays : List δ
  /-- The initial value of `_transaction_slots`, if there is a semaphore. -/
  capacity : Option ℕ
  deriving DecidableEq, Repr

/-- `__init__`; a semaphore with a negative value raises `ValueError`. -/
def Runner.init {δ : Type} (pool : Option ConnectionPool) (retryDelays : List δ)
    (maxConcurrentTransactions : Option ℤ) : Option (Runner δ) :=
  match maxConcurrentTransactions with
  | none | some 0 => some ⟨retryDelays, poolCapacity pool⟩
  | some capacity => if capacity < 0 then none else some ⟨retryDelays, some capacity.toNat⟩

/-- A runner never waits on a semaphore without slots. -/
theorem Runner.capacity_pos {δ : Type} {pool : Option ConnectionPool} {retryDelays : List δ}
    {maxConcurrentTransactions : Option ℤ} {runner : Runner δ} {capacity : ℕ}
    (h : Runner.init pool retryDelays maxConcurrentTransactions = some runner)
    (hcapacity : runner.capacity = some capacity) : 0 < capacity := by
  have hpool : poolCapacity pool = some capacity → 0 < capacity := by
    intro h
    unfold poolCapacity at h
    split at h
    · cases h
      omega
    · cases h
  unfold Runner.init at h
  split at h
  · cases h
    exact hpool hcapacity
  · cases h
    exact hpool hcapacity
  · rename_i n hn
    split_ifs at h with hneg
    cases h
    cases hcapacity
    have hne : n ≠ 0 := fun h0 => hn (by rw [h0])
    omega

/-! ## `_admit_transaction` -/

/-- What `_admit_transaction` has done when it yields. -/
inductive Admission
  /-- There is no semaphore. -/
  | unlimited
  /-- The depth has been raised from the one that was read. -/
  | nested (depth : ℕ)
  /-- A permit has been acquired. -/
  | outermost
  deriving DecidableEq, Repr

/-- How a `with` statement ends. -/
abbrev Outcome (E R : Type) := Except (Failure E) R

/-- Where a thread stands in `with self._admit_transaction():`, with a body of the given kind. -/
inductive AdmitPoint (β E R : Type)
  | admits
  /-- `slots.acquire()`. -/
  | acquires
  /-- `slots.acquire()` has returned; `depth = 1` and the `try` are next. -/
  | acquired
  | inside (admission : Admission) (body : β)
  /-- In the `finally` clause, before the depth is set. -/
  | leaves (admission : Admission) (outcome : Outcome E R)
  /-- `slots.release()`, with the depth back at 0. -/
  | releases (outcome : Outcome E R)

/-- What a thread does next. The last two choose what the code outside the runner does. -/
inductive Move (E R : Type)
  | guard (operationName : String)
  | run (operationName : String)
  /-- `_admit_transaction` up to `slots.acquire()`, or up to its `yield`. -/
  | readDepth
  | acquire
  /-- `depth = 1`. -/
  | enter
  | openSession
  | commit
  | close
  /-- The depth is set in the `finally` clause. -/
  | leave
  | release
  /-- The `except` clauses of `run`, with what the rollback raises. -/
  | handle (rollback : Option (RollbackError E))
  | wake
  /-- The guarded block or the operation ends, with what it has computed. -/
  | finish (result : R)
  | raise (failure : Failure E)
  deriving DecidableEq, Repr

section
variable {β δ E R : Type}

/-- What one step leaves: the semaphore's value, the depth, and what it leads to. -/
abbrev Next (α : Type) := ℕ × ℕ × α

/-- One step of `with self._admit_transaction():`. It ends with an outcome or goes on. -/
def AdmitPoint.step (capacity : Option ℕ) (slots depth : ℕ) (start : β)
    (body : β → Move E R → Option (β ⊕ Outcome E R)) (p : AdmitPoint β E R) (m : Move E R) :
    Option (Next (AdmitPoint β E R ⊕ Outcome E R)) :=
  match m, p with
  | .readDepth, .admits =>
    match capacity with
    | none => some (slots, depth, .inl (.inside .unlimited start))
    | some _ =>
      if depth ≠ 0 then some (slots, depth + 1, .inl (.inside (.nested depth) start))
      else some (slots, depth, .inl .acquires)
  -- the thread is blocked while the semaphore is at 0
  | .acquire, .acquires => if slots = 0 then none else some (slots - 1, depth, .inl .acquired)
  | .enter, .acquired => some (slots, 1, .inl (.inside .outermost start))
  | .leave, .leaves .unlimited outcome => some (slots, depth, .inr outcome)
  | .leave, .leaves (.nested saved) outcome => some (slots, saved, .inr outcome)
  | .leave, .leaves .outermost outcome => some (slots, 0, .inl (.releases outcome))
  -- at its initial value a `BoundedSemaphore` raises `ValueError` instead
  | .release, .releases outcome =>
    if capacity.any (slots < ·) then some (slots + 1, depth, .inr outcome) else none
  | m, .inside admission b =>
    (body b m).map fun
      | .inl b => (slots, depth, .inl (.inside admission b))
      | .inr outcome => (slots, depth, .inl (.leaves admission outcome))
  | .raise failure, _ => some (slots, depth, .inr (.error failure))
  | _, _ => none

/-! ## The bodies -/

/-- The block under `with runner.guard(...)`. -/
def guardedBlock : Unit → Move E R → Option (Unit ⊕ Outcome E R)
  | (), .finish result => some (.inr (.ok result))
  | (), .raise failure => some (.inr (.error failure))
  | (), _ => none

/-- Where a thread stands in `self.session_factory() as session:`. -/
inductive Transaction (E R : Type)
  | opens
  | operates
  | commits (result : R)
  /-- The session is closed, which may raise too. -/
  | closes (outcome : Outcome E R)

def Transaction.step : Transaction E R → Move E R → Option (Transaction E R ⊕ Outcome E R)
  | .opens, .openSession => some (.inl .operates)
  | .operates, .finish result => some (.inl (.commits result))
  | .commits result, .commit => some (.inl (.closes (.ok result)))
  | .closes outcome, .close => some (.inr outcome)
  | .operates, .raise failure | .commits _, .raise failure =>
    some (.inl (.closes (.error failure)))
  | .opens, .raise failure | .closes _, .raise failure => some (.inr (.error failure))
  | _, _ => none

/-! ## The calls -/

/-- A call of `guard` or `run` in progress. -/
inductive Frame (δ E R : Type)
  | guard (operationName : String) (point : AdmitPoint Unit E R)
  /-- An attempt of `run`; `session` says whether its session has been made. -/
  | run (operationName : String) (attempt : ℕ) (session : Bool)
    (point : AdmitPoint (Transaction E R) E R)
  /-- Before the `except` clauses of `run`. -/
  | handles (operationName : String) (attempt : ℕ) (session : Bool) (failure : Failure E)
  /-- `time.sleep(self.retry_delays[attempt])`. -/
  | sleeps (operationName : String) (attempt : ℕ) (delay : δ)

/-- How a call ends. The runner's own exceptions carry the name of the operation. -/
inductive Ended (E R : Type)
  | returned (result : R)
  | raised (operationName : String) (error : RunError E)
  deriving DecidableEq, Repr

/-- The `except` clauses of `guard`. -/
def guardError (failure : Failure E) : RunError E :=
  match failure with
  | .dbapi _ operational _ =>
    if failure.isRetryable then .conflict failure
    else if operational then .unavailable failure
    else .propagated failure
  | .poolTimeout _ => .unavailable failure
  | .other _ => .propagated failure

/-- The `except` clauses of `run`; without an error the loop goes on. -/
def runError (retries attempt : ℕ) (session : Bool) (rollback : Option (RollbackError E))
    (failure : Failure E) : Option (RunError E) :=
  let failed : Attempt Unit Unit Unit E := { operation := fun _ => .error failure, rollback }
  failed.handle retries attempt (if session then some 0 else none) failure

/-- The clauses are those of every attempt whose rollback does the same. -/
theorem runError_eq {D : Type} (retries attempt : ℕ) (a : Attempt δ D R E) (session : Option ℕ)
    (failure : Failure E) :
    runError retries attempt session.isSome a.rollback failure =
      a.handle retries attempt session failure := by
  have hrollback : ∀ made : Option ℕ, made.isSome = session.isSome →
      ({ operation := fun _ => .error failure, rollback := a.rollback } :
        Attempt Unit Unit Unit E).rollbackError made failure = a.rollbackError session failure := by
    intro made hmade
    cases failure <;> simp [Attempt.rollbackError, hmade]
  simp only [runError, Attempt.handle]
  rw [hrollback _ (by cases session <;> rfl)]

/-- The code that the thread runs next is not the runner's. -/
def Frame.inUserCode : Frame δ E R → Bool
  | .guard _ (.inside _ ()) | .run _ _ _ (.inside _ .operates) => true
  | _ => false

def Frame.step (runner : Runner δ) (slots depth : ℕ) (f : Frame δ E R) (m : Move E R) :
    Option (Next (Frame δ E R ⊕ Ended E R)) :=
  match f with
  | .guard name point =>
    (point.step runner.capacity slots depth () guardedBlock m).map fun
      | (slots, depth, .inl point) => (slots, depth, .inl (.guard name point))
      | (slots, depth, .inr (.ok result)) => (slots, depth, .inr (.returned result))
      | (slots, depth, .inr (.error failure)) =>
        (slots, depth, .inr (.raised name (guardError failure)))
  | .run name attempt session point =>
    let session := session || match m with | .openSession => true | _ => false
    (point.step runner.capacity slots depth .opens Transaction.step m).map fun
      | (slots, depth, .inl point) => (slots, depth, .inl (.run name attempt session point))
      | (slots, depth, .inr (.ok result)) => (slots, depth, .inr (.returned result))
      | (slots, depth, .inr (.error failure)) =>
        (slots, depth, .inl (.handles name attempt session failure))
  | .handles name attempt session failure =>
    match m with
    | .handle rollback =>
      match runError runner.retryDelays.length attempt session rollback failure with
      | some error => some (slots, depth, .inr (.raised name error))
      | none =>
        match runner.retryDelays[attempt]? with
        | none => some (slots, depth, .inr (.raised name .indexError))
        | some delay => some (slots, depth, .inl (.sleeps name attempt delay))
    | .raise failure => some (slots, depth, .inr (.raised name (.propagated failure)))
    | _ => none
  | .sleeps name attempt _ =>
    match m with
    | .wake =>
      if attempt + 1 < runner.retryDelays.length + 1 then
        some (slots, depth, .inl (.run name (attempt + 1) false .admits))
      else some (slots, depth, .inr (.raised name .assertion))
    | .raise failure => some (slots, depth, .inr (.raised name (.propagated failure)))
    | _ => none

/-! ## The threads -/

structure RunnerThread (δ E R : Type) where
  /-- `_admission_state.depth`. -/
  depth : ℕ := 0
  /-- The calls in progress, the innermost first. -/
  calls : List (Frame δ E R) := []
  /-- How the last call ended. -/
  ended : Option (Ended E R) := none

def RunnerThread.inUserCode (t : RunnerThread δ E R) : Bool := t.calls.head?.all Frame.inUserCode

def RunnerThread.step (runner : Runner δ) (slots : ℕ) (t : RunnerThread δ E R) (m : Move E R) :
    Option (ℕ × RunnerThread δ E R) :=
  match m with
  | .guard name =>
    if t.inUserCode then some (slots, { t with calls := .guard name .admits :: t.calls }) else none
  | .run name =>
    if t.inUserCode then
      if t.depth ≠ 0 then some (slots, { t with ended := some (.raised name .nested) })
      else some (slots, { t with calls := .run name 0 false .admits :: t.calls })
    else none
  | m =>
    match t.calls with
    | [] => none
    | f :: rest =>
      (f.step runner slots t.depth m).map fun
        | (slots, depth, .inl f) => (slots, { t with depth, calls := f :: rest })
        | (slots, depth, .inr ended) => (slots, { depth, calls := rest, ended := some ended })

structure SlotState (δ E R : Type) where
  /-- The value of `_transaction_slots`. -/
  transactionSlots : ℕ
  threads : List (RunnerThread δ E R) := []

inductive Action (E R : Type)
  | spawn
  | move (thread : ℕ) (m : Move E R)
  deriving DecidableEq, Repr

def SlotState.step (runner : Runner δ) (s : SlotState δ E R) :
    Action E R → Option (SlotState δ E R)
  | .spawn => some { s with threads := s.threads ++ [{}] }
  | .move n m =>
    match s.threads[n]? with
    | none => none
    | some t =>
      (t.step runner s.transactionSlots m).map fun (slots, t) =>
        { transactionSlots := slots, threads := s.threads.set n t }

/-- A new runner, before any thread. -/
def SlotState.initial (capacity : ℕ) : SlotState δ E R where
  transactionSlots := capacity

end

end ConnectionTopology.TransactionSlots
