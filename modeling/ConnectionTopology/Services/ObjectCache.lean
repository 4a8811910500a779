import ConnectionTopology.Services.TopologyCache

/-!
# The topology cache and its objects

`topology_cache.py` once more, with the dictionaries as objects: a value is stored and
returned as a deep copy, and the code that holds a reference may change it at any time.
The clock is any order, and a reading is a step of its own. The log records what went
through the cache; no code reads it.
-/
namespace ConnectionTopology.ObjectCache

/-- A dictionary with everything below it. -/
structure Object (V : Type) where
  content : V
  /-- Code outside the cache holds a reference. -/
  outside : Bool
  deriving DecidableEq, Repr

structure Entry (T : Type) where
  expiresAt : T
  object : ℕ
  deriving DecidableEq, Repr

inductive Result (V E T : Type)
  /-- `get` returned `None`. -/
  | missing
  /-- A copy of a stored value: its content, and the two times that `get` compared. -/
  | read (object : ℕ) (content : V) (expiresAt now : T)
  /-- The object that the factory of this call returned. -/
  | computed (object : ℕ)
  /-- `put` returned. -/
  | stored
  | raised (error : E)
  /-- The error of the computation that the call waited for. -/
  | reraised (flight : ℕ) (error : E)
  /-- An exception that is not an `Exception`. -/
  | interrupted
  deriving DecidableEq, Repr

inductive Kind
  | get
  | put
  | getOrCompute
  deriving DecidableEq, Repr

/-- Where a call stands. `flight` is its `_Inflight` object. -/
inductive Point (V E T : Type)
  | loop
  | lookup (now : T)
  | inspect
  | waiting (flight : ℕ)
  | owner (flight : ℕ)
  | computing (flight : ℕ)
  | storing (flight object : ℕ)
  /-- The `finally` block: first the table entry, then the event. -/
  | popping (flight : ℕ) (result : Result V E T)
  | signalling (flight : ℕ) (result : Result V E T)
  /-- `put`, before its lock section. -/
  | putting (object : ℕ)
  | done (result : Result V E T)
  deriving DecidableEq, Repr

structure Call (κ V E T : Type) where
  key : κ
  kind : Kind
  startedAt : T
  point : Point V E T := .loop
  /-- The computations that the call has waited for; no code reads it. -/
  waited : List ℕ := []
  deriving DecidableEq, Repr

inductive Event (κ V E : Type)
  | produced (key : κ) (object : ℕ)
  | supplied (key : κ) (object : ℕ)
  /-- The object was copied into the entry of the key. -/
  | stored (key : κ) (object : ℕ) (content : V)
  /-- A factory run and the storing of its value ended, with the `Exception` if any. -/
  | ended (flight : ℕ) (error : Option E)
  deriving DecidableEq, Repr

structure State (κ V E T : Type) where
  clock : T
  heap : List (Object V) := []
  entries : κ → Option (Entry T) := fun _ => none
  inflight : κ → Option ℕ := fun _ => none
  flights : List (Inflight E) := []
  calls : List (Call κ V E T) := []
  log : List (Event κ V E) := []

inductive Action (κ V E T : Type)
  | tick (now : T)
  /-- Code outside the cache makes a dictionary, or changes one that it can reach. -/
  | alloc (content : V)
  | mutate (object : ℕ) (content : V)
  | startGet (key : κ)
  | startPut (key : κ) (object : ℕ)
  | startGetOrCompute (key : κ)
  | clear
  | readClock (call : ℕ)
  | get (call : ℕ)
  | inspect (call : ℕ)
  | wake (call : ℕ)
  | beginFactory (call : ℕ)
  | endFactory (call : ℕ) (result : FactoryResult ℕ E)
  | put (call : ℕ)
  /-- `deepcopy` raises. -/
  | copyFails (call : ℕ) (error : E)
  | pop (call : ℕ)
  | signal (call : ℕ)
  deriving DecidableEq, Repr

namespace State

variable {κ V E T : Type} [DecidableEq κ] [LinearOrder T] [Add T]

def moveTo (s : State κ V E T) (n : ℕ) (c : Call κ V E T) (point : Point V E T) :
    State κ V E T :=
  { s with calls := s.calls.set n { c with point := point } }

/-- A reference that code outside the cache can have. -/
def reachable (s : State κ V E T) (object : ℕ) : Bool :=
  match s.heap[object]? with
  | some o => o.outside
  | none => false

/-- What a stored value is worth to the next reader. -/
def stored (s : State κ V E T) (key : κ) : Option (T × V) :=
  (s.entries key).bind fun entry =>
    s.heap[entry.object]?.map fun o => (entry.expiresAt, o.content)

/-- `get` found nothing. -/
def missed (s : State κ V E T) (n : ℕ) (c : Call κ V E T) : State κ V E T :=
  match c.kind with
  | .getOrCompute => s.moveTo n c .inspect
  | _ => s.moveTo n c (.done .missing)

/-- The lock section of `get`: an expired entry is dropped, another one is copied. -/
def get (s : State κ V E T) (n : ℕ) (c : Call κ V E T) (now : T) : Option (State κ V E T) :=
  match s.entries c.key with
  | none => some (s.missed n c)
  | some entry =>
    if entry.expiresAt ≤ now then
      some ({ s with entries := Function.update s.entries c.key none }.missed n c)
    else
      s.heap[entry.object]?.map fun o =>
        { s with heap := s.heap ++ [Object.mk o.content true] }.moveTo n c
          (.done (.read s.heap.length o.content entry.expiresAt now))

/-- The lock section of `put`: a private copy goes into the entry. -/
def put (ttl : T) (s : State κ V E T) (key : κ) (object : ℕ) : Option (State κ V E T) :=
  s.heap[object]?.map fun o =>
    { s with
      heap := s.heap ++ [Object.mk o.content false]
      entries := Function.update s.entries key (some ⟨s.clock + ttl, s.heap.length⟩)
      log := .stored key object o.content :: s.log }

/-- The lock section that joins the computation of the key or starts one. -/
def inspect (s : State κ V E T) (n : ℕ) (c : Call κ V E T) : State κ V E T :=
  match s.inflight c.key with
  | none =>
    { s with
      inflight := Function.update s.inflight c.key (some s.flights.length)
      flights := s.flights ++ [Inflight.mk false none] }.moveTo n c (.owner s.flights.length)
  | some flight => s.moveTo n { c with waited := flight :: c.waited } (.waiting flight)

/-- The `try` block is left; its `except` clause keeps the error for the waiters. -/
def leave (s : State κ V E T) (n : ℕ) (c : Call κ V E T) (flight : ℕ) (error : Option E)
    (result : Result V E T) : State κ V E T :=
  { s with
    flights := match error with
      | some e => s.flights.modify flight fun f => { f with error := some e }
      | none => s.flights
    log := .ended flight error :: s.log }.moveTo n c (.popping flight result)

/-- One step of one call. -/
def callStep (ttl : T) (s : State κ V E T) (n : ℕ) (c : Call κ V E T) :
    Action κ V E T → Option (State κ V E T)
  | .readClock _ =>
    match c.point with
    | .loop => some (s.moveTo n c (.lookup s.clock))
    | _ => none
  | .get _ =>
    match c.point with
    | .lookup now => s.get n c now
    | _ => none
  | .inspect _ =>
    match c.point with
    | .inspect => some (s.inspect n c)
    | _ => none
  | .wake _ =>
    match c.point with
    | .waiting flight =>
      match s.flights[flight]? with
      | none => none
      | some f =>
        if f.event then
          some (s.moveTo n c (match f.error with
            | some e => .done (.reraised flight e)
            | none => .loop))
        else none
    | _ => none
  | .beginFactory _ =>
    match c.point with
    | .owner flight => some (s.moveTo n c (.computing flight))
    | _ => none
  | .endFactory _ result =>
    match c.point with
    | .computing flight =>
      match result with
      | .value object =>
        if s.reachable object then
          some ({ s with log := .produced c.key object :: s.log }.moveTo n c
            (.storing flight object))
        else none
      | .exception e => some (s.leave n c flight (some e) (.raised e))
      | .interrupted => some (s.leave n c flight none .interrupted)
    | _ => none
  | .put _ =>
    match c.point with
    | .storing flight object =>
      (s.put ttl c.key object).map fun t => t.leave n c flight none (.computed object)
    | .putting object => (s.put ttl c.key object).map fun t => t.moveTo n c (.done .stored)
    | _ => none
  | .copyFails _ e =>
    match c.point with
    | .lookup now =>
      match s.entries c.key with
      | none => none
      | some entry =>
        if entry.expiresAt ≤ now then none else some (s.moveTo n c (.done (.raised e)))
    | .storing flight _ => some (s.leave n c flight (some e) (.raised e))
    | .putting _ => some (s.moveTo n c (.done (.raised e)))
    | _ => none
  | .pop _ =>
    match c.point with
    | .popping flight result =>
      some ({ s with inflight := Function.update s.inflight c.key none }.moveTo n c
        (.signalling flight result))
    | _ => none
  | .signal _ =>
    match c.point with
    | .signalling flight result =>
      some ({ s with
        flights := s.flights.modify flight fun f => { f with event := true } }.moveTo n c
          (.done result))
    | _ => none
  | _ => none

end State

/-- The call that an action belongs to. -/
def Action.call? {κ V E T : Type} : Action κ V E T → Option ℕ
  | .readClock n | .get n | .inspect n | .wake n | .beginFactory n | .endFactory n _ | .put n
  | .copyFails n _ | .pop n | .signal n => some n
  | .tick _ | .alloc _ | .mutate _ _ | .startGet _ | .startPut _ _ | .startGetOrCompute _
  | .clear => none

variable {κ V E T : Type} [DecidableEq κ] [LinearOrder T] [Add T]

def step (ttl : T) (s : State κ V E T) (a : Action κ V E T) : Option (State κ V E T) :=
  match a with
  | .tick now => if s.clock ≤ now then some { s with clock := now } else none
  | .alloc content => some { s with heap := s.heap ++ [⟨content, true⟩] }
  | .mutate object content =>
    if s.reachable object then
      some { s with heap := s.heap.modify object fun o => { o with content := content } }
    else none
  | .startGet key =>
    some { s with calls := s.calls ++ [{ key, kind := .get, startedAt := s.clock }] }
  | .startPut key object =>
    if s.reachable object then
      some { s with
        calls := s.calls ++ [{ key, kind := .put, startedAt := s.clock, point := .putting object }]
        log := .supplied key object :: s.log }
    else none
  | .startGetOrCompute key =>
    some { s with calls := s.calls ++ [{ key, kind := .getOrCompute, startedAt := s.clock }] }
  | .clear => some { s with entries := fun _ => none }
  | a =>
    match a.call? with
    | none => none
    | some n => (s.calls[n]?).bind fun c => s.callStep ttl n c a

/-- An empty cache at some time. -/
def empty (now : T) : State κ V E T := { clock := now }

end ConnectionTopology.ObjectCache
