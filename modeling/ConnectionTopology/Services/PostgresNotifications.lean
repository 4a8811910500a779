import ConnectionTopology.Services.TopologyCache

/-!
# Notifications of topology changes

`postgres_notifications.py` in one process: its topology cache and the listener that clears it.
Any process commits the changes. The server hands each of them to the connections that listen at
that moment, and a lost connection takes with it what it has not handed over. A cached value is
the number of changes that it shows; which call a factory run belongs to, what it could read and
when the cache was cleared is recorded, and no code reads it.
-/
namespace ConnectionTopology

/-- Where `PostgresNotificationListener._run` stands. -/
inductive ListenerPoint
  | absent
  | checking
  /-- Up to the end of `LISTEN`. -/
  | connecting
  /-- The connection holds the notifications of these changes. -/
  | listening (queue : List ℕ)
  | callback (change : ℕ) (queue : List ℕ)
  | retrying
  | ended
  deriving DecidableEq, Repr

structure CachingProcess (κ E : Type) where
  cache : TopologyCache κ ℕ E := {}
  listener : ListenerPoint := .absent
  stopEvent : Bool := false
  /-- How many changes have been committed, by any process. -/
  changes : ℕ := 0
  /-- For each call, the changes that had been committed when its factory run began. -/
  readable : ℕ → ℕ := fun _ => 0
  /-- The changes that had been committed when each `clear` ran. -/
  clearedAt : List ℕ := []
  /-- The changes that had been committed when the connection began to listen. -/
  listensSince : ℕ := 0

inductive CachingAction (κ E : Type)
  /-- A `clear` here comes from a route, a scan or a purge of this process. -/
  | cache (a : CacheAction κ ℕ E)
  /-- A transaction with `notify_topology_changed` commits. -/
  | commit
  | start
  | shutdown
  | check
  | listen
  | receive
  | callBack
  /-- `psycopg.Error`. -/
  | loseConnection
  /-- The inner loop ends with the stop event. -/
  | leave
  | retry
  | join
  deriving DecidableEq, Repr

/-- The server notifies the connection. -/
def ListenerPoint.notified (change : ℕ) : ListenerPoint → ListenerPoint
  | .listening queue => .listening (queue ++ [change])
  | .callback current queue => .callback current (queue ++ [change])
  | p => p

variable {κ E : Type} [DecidableEq κ]

/-- The factory reads a state of the database that is no older than its run. -/
def CachingProcess.mayRead (s : CachingProcess κ E) : CacheAction κ ℕ E → Bool
  | .endFactory n (.value shown) => s.readable n ≤ shown ∧ shown ≤ s.changes
  | _ => true

/-- What is recorded of an action on the cache. -/
def CachingProcess.noted (s : CachingProcess κ E) : CacheAction κ ℕ E → CachingProcess κ E
  | .beginFactory n => { s with readable := Function.update s.readable n s.changes }
  | .clear => { s with clearedAt := s.clearedAt ++ [s.changes] }
  | _ => s

def CachingProcess.cacheStep (ttl : ℕ) (s : CachingProcess κ E) (a : CacheAction κ ℕ E) :
    Option (CachingProcess κ E) :=
  if s.mayRead a then (s.cache.step ttl a).map fun cache => { s.noted a with cache } else none

def CachingProcess.step (ttl : ℕ) (s : CachingProcess κ E) :
    CachingAction κ E → Option (CachingProcess κ E)
  | .cache a => s.cacheStep ttl a
  | .commit =>
    some { s with changes := s.changes + 1, listener := s.listener.notified (s.changes + 1) }
  | .start =>
    if s.listener = .absent then some { s with listener := .checking, stopEvent := false }
    else some s
  | .shutdown => if s.listener = .absent then some s else some { s with stopEvent := true }
  | .check =>
    if s.listener = .checking then
      some { s with listener := if s.stopEvent then .ended else .connecting }
    else none
  | .listen =>
    if s.listener = .connecting then
      some { s with listener := .listening [], listensSince := s.changes }
    else none
  | .receive =>
    match s.listener with
    | .listening (change :: queue) => some { s with listener := .callback change queue }
    | _ => none
  | .callBack =>
    match s.listener with
    | .callback _ queue =>
      (s.cacheStep ttl .clear).map fun t => { t with listener := .listening queue }
    | _ => none
  | .loseConnection =>
    match s.listener with
    | .connecting | .listening _ => some { s with listener := .retrying }
    | _ => none
  | .leave =>
    match s.listener with
    | .listening _ => if s.stopEvent then some { s with listener := .ended } else none
    | _ => none
  | .retry => if s.listener = .retrying then some { s with listener := .checking } else none
  | .join => if s.listener = .ended then some { s with listener := .absent } else none

/-- The changes that had been committed when the cache was cleared for the last time before. -/
def CachingProcess.clearedUpTo (s : CachingProcess κ E) (epoch : ℕ) : ℕ :=
  (0 :: s.clearedAt)[epoch]?.getD 0

end ConnectionTopology
