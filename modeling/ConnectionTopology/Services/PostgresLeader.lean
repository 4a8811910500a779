import ConnectionTopology.Library.Machine

/-!
# The leader election

`PostgresLeaderElector` of `postgres_leader.py`, one elector for each process. Its thread holds a
session advisory lock of the database on a connection of its own; the lock goes to at most one
connection, and no connection is lost. Every step of `_run`, and the entry and the return of
either callback, is a step of its own.
-/
namespace ConnectionTopology

/-- Where a thread stands in `_run`. -/
inductive RunPoint
  /-- Before the test of the outer loop. -/
  | outer
  | connecting
  | trying
  /-- The lock was not granted; the connection is still open. -/
  | refused
  | acquired
  | onAcquired
  | leading
  /-- In the `finally` block, before the unlock. -/
  | releasing
  | unlocked
  | closed
  | onLost
  | pausing
  /-- The thread has ended. -/
  | ended
  deriving DecidableEq, Repr

structure Elector where
  /-- `_thread`. -/
  thread : Option RunPoint := none
  /-- `_stop_event`. -/
  stop : Bool := false
  deriving DecidableEq, Repr

inductive ElectorAction
  | start
  /-- The part of `shutdown` before the join. -/
  | shutdown
  /-- The part of `shutdown` after the join. -/
  | joined
  | testStop
  | connect (ok : Bool)
  | tryLock
  | closeRefused
  | enterAcquired
  | leaveAcquired (raised : Bool)
  | wake
  | unlock
  | close
  | enterLost
  | leaveLost (raised : Bool)
  | pause
  deriving DecidableEq, Repr

/-- A step of one elector; `free` says that no connection has the lock. -/
def Elector.act (e : Elector) (free : Bool) (a : ElectorAction) : Option Elector :=
  match a, e.thread with
  | .start, none => some { thread := some .outer, stop := false }
  | .start, some _ => some e
  | .shutdown, none => some e
  | .shutdown, some _ => some { e with stop := true }
  | .joined, some .ended => if e.stop then some { e with thread := none } else none
  | .testStop, some .outer => some { e with thread := some (if e.stop then .ended else .connecting) }
  -- a failed connection is logged, and `finally` has nothing to do
  | .connect ok, some .connecting => some { e with thread := some (if ok then .trying else .pausing) }
  | .tryLock, some .trying => some { e with thread := some (if free then .acquired else .refused) }
  | .closeRefused, some .refused => some { e with thread := some .outer }
  | .enterAcquired, some .acquired => some { e with thread := some .onAcquired }
  | .leaveAcquired raised, some .onAcquired =>
    some { e with thread := some (if raised then .releasing else .leading) }
  -- the wait ends with the stop event, or the connection is probed and waits again
  | .wake, some .leading => some { e with thread := some (if e.stop then .releasing else .leading) }
  | .unlock, some .releasing => some { e with thread := some .unlocked }
  | .close, some .unlocked => some { e with thread := some .closed }
  | .enterLost, some .closed => some { e with thread := some .onLost }
  -- an exception of `on_lost` leaves `finally` and ends the thread
  | .leaveLost raised, some .onLost =>
    some { e with thread := some (if raised then .ended else .pausing) }
  | .pause, some .pausing => some { e with thread := some .outer }
  | _, _ => none

/-- The electors of all processes and the process whose connection has the lock. -/
structure ElectionState where
  electors : List Elector
  lock : Option ℕ := none
  deriving DecidableEq, Repr

/-- The lock after a step of a process. -/
def lockAfter (lock : Option ℕ) (process : ℕ) : ElectorAction → Option ℕ
  | .tryLock => lock.or (some process)
  | .unlock => none
  | _ => lock

def ElectionState.step (s : ElectionState) (a : ℕ × ElectorAction) : Option ElectionState :=
  match s.electors[a.1]? with
  | none => none
  | some e => (e.act s.lock.isNone a.2).map fun e' =>
    { electors := s.electors.set a.1 e', lock := lockAfter s.lock a.1 a.2 }

/-- No elector has been started. -/
def ElectionState.initial (processes : ℕ) : ElectionState where
  electors := List.replicate processes {}

/-- The points at which the thread's connection has the lock. -/
def RunPoint.holdsLock : RunPoint → Bool
  | .acquired | .onAcquired | .leading | .releasing => true
  | _ => false

/-- The points between the unlock and the end of `on_lost`. -/
def RunPoint.handsOver : RunPoint → Bool
  | .unlocked | .closed | .onLost => true
  | _ => false

/-- The points between the start of `on_acquired` and the end of `on_lost`. -/
def RunPoint.isLeader : RunPoint → Bool
  | .onAcquired | .leading | .releasing | .unlocked | .closed | .onLost => true
  | _ => false

/-- The process leads. -/
def ElectionState.Leads (s : ElectionState) (process : ℕ) : Prop :=
  ∃ e, s.electors[process]? = some e ∧ e.thread.any RunPoint.isLeader = true

/-- No two processes lead. -/
def ElectionState.AtMostOneLeader (s : ElectionState) : Prop :=
  ∀ p q, s.Leads p → s.Leads q → p = q

end ConnectionTopology
