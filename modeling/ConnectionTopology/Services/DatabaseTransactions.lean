import Mathlib.Tactic

/-!
# Transaction retries

`PostgresTransactionRunner.run` of `database_transactions.py`. What the session factory,
the operation, the commit, the rollback and the sleep of each attempt do is given by a
script. A commit that fails has no effect and closing a session raises nothing; the
semaphore of `_admit_transaction` only delays an attempt.
-/
namespace ConnectionTopology

/-- What opening a session, the operation or the commit raises. -/
inductive Failure (E : Type)
  /-- `DBAPIError`, with the `sqlstate` of its `orig`; `operational` for an `OperationalError`. -/
  | dbapi (sqlstate : Option String) (operational : Bool) (error : E)
  /-- SQLAlchemy's `TimeoutError`. -/
  | poolTimeout (error : E)
  | other (error : E)
  deriving DecidableEq, Repr

inductive RollbackError (E : Type)
  | sqlalchemy (error : E)
  | other (error : E)
  deriving DecidableEq, Repr

/-- What one attempt meets. -/
structure Attempt (δ D R E : Type) where
  /-- What other transactions have committed in the meantime. -/
  others : D → D := id
  opens : Option (Failure E) := none
  /-- The result and the database as the session leaves it. -/
  operation : D → Except (Failure E) (R × D)
  commit : Option (Failure E) := none
  rollback : Option (RollbackError E) := none
  /-- What `time.sleep` raises. -/
  sleep : δ → Option E := fun _ => none

inductive RunError (E : Type)
  /-- `NestedTransactionError`. -/
  | nested
  /-- `DatabaseUnavailable`. -/
  | unavailable (cause : Failure E)
  /-- `TransactionConflict`. -/
  | conflict (cause : Failure E)
  | propagated (failure : Failure E)
  | rollbackFailed (error : E)
  | sleepFailed (error : E)
  /-- `self.retry_delays[attempt]` out of range. -/
  | indexError
  | assertion
  deriving DecidableEq, Repr

/-- What became of one attempt; no code reads it. -/
structure Tried (E : Type) where
  /-- The session that the factory made, if it made one. -/
  session : Option ℕ
  /-- `none` when the commit succeeded. -/
  failure : Option (Failure E)
  /-- What `_rollback_safely` lets through. -/
  rollback : Option E
  deriving DecidableEq, Repr

structure RunnerState (δ D E : Type) where
  database : D
  /-- The number of sessions made so far; every call of the factory makes a new one. -/
  sessions : ℕ := 0
  /-- `_admission_state.depth` of the thread. -/
  depth : ℕ := 0
  tried : List (Tried E) := []
  slept : List δ := []

def retryableSqlstates : List String := ["40P01", "40001"]

def Failure.isRetryable {E : Type} : Failure E → Bool
  | .dbapi (some sqlstate) _ _ => sqlstate ∈ retryableSqlstates
  | _ => false

/-- `_rollback_safely` swallows an `SQLAlchemyError`. -/
def rollbackSafely {E : Type} : Option (RollbackError E) → Option E
  | some (.other error) => some error
  | _ => none

section
variable {δ D R E : Type}

/-- The `with` statement: a session is opened, used, committed and closed. -/
def Attempt.perform (a : Attempt δ D R E) (s : RunnerState δ D E) :
    Option ℕ × Except (Failure E) R × RunnerState δ D E :=
  let s := { s with database := a.others s.database }
  match a.opens with
  | some failure => (none, .error failure, s)
  | none =>
    let session := s.sessions
    let s := { s with sessions := s.sessions + 1 }
    match a.operation s.database with
    | .error failure => (some session, .error failure, s)
    | .ok (result, written) =>
      match a.commit with
      | some failure => (some session, .error failure, s)
      | none => (some session, .ok result, { s with database := written })

/-- What the rollback of a failed attempt lets through. -/
def Attempt.rollbackError (a : Attempt δ D R E) (session : Option ℕ) : Failure E → Option E
  | .other _ => none
  | _ => if session.isSome then rollbackSafely a.rollback else none

/-- The `except` clauses; without an error the loop goes on. -/
def Attempt.handle (retries attempt : ℕ) (a : Attempt δ D R E) (session : Option ℕ)
    (failure : Failure E) : Option (RunError E) :=
  match a.rollbackError session failure with
  | some error => some (.rollbackFailed error)
  | none =>
    match failure with
    | .dbapi _ operational _ =>
      if !failure.isRetryable then
        if operational then some (.unavailable failure) else some (.propagated failure)
      else if attempt = retries then some (.conflict failure)
      else none
    | .poolTimeout _ => some (.unavailable failure)
    | .other _ => some (.propagated failure)

/-- The `for` loop with the given number of attempts left. -/
def retryLoop (retryDelays : List δ) (script : ℕ → Attempt δ D R E) :
    ℕ → ℕ → RunnerState δ D E → Except (RunError E) R × RunnerState δ D E
  | 0, _, s => (.error .assertion, s)
  | left + 1, attempt, s =>
    let a := script attempt
    match a.perform s with
    | (session, .ok result, s) =>
      (.ok result, { s with tried := s.tried ++ [⟨session, none, none⟩] })
    | (session, .error failure, s) =>
      let s := { s with
        tried := s.tried ++ [⟨session, some failure, a.rollbackError session failure⟩] }
      match a.handle retryDelays.length attempt session failure with
      | some error => (.error error, s)
      | none =>
        match retryDelays[attempt]? with
        | none => (.error .indexError, s)
        | some delay =>
          match a.sleep delay with
          | some error => (.error (.sleepFailed error), s)
          | none =>
            retryLoop retryDelays script left (attempt + 1) { s with slept := s.slept ++ [delay] }

/-- `PostgresTransactionRunner.run`. -/
def runTransaction (retryDelays : List δ) (script : ℕ → Attempt δ D R E)
    (s : RunnerState δ D E) : Except (RunError E) R × RunnerState δ D E :=
  if s.depth ≠ 0 then (.error .nested, s)
  else retryLoop retryDelays script (retryDelays.length + 1) 0 s

end

end ConnectionTopology
