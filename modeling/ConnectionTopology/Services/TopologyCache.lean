import ConnectionTopology.Library.Machine
import Mathlib.Logic.Function.Basic

/-!
# The topology cache

`topology_cache.py`: any number of `get_or_compute` and `clear` calls on one cache. Each
section under the lock is one step, and the factory runs between two steps. The number
of completed `clear` calls dates every factory run and every call; no code reads it.
-/
namespace ConnectionTopology

/-- What a `get_or_compute` call ends with. A value carries the number of `clear` calls
that had returned when its factory run started. -/
inductive CacheResult (V E : Type)
  | value (v : V) (epoch : ℕ)
  | raised (error : E)
  /-- An exception that is not an `Exception`; no waiter receives it. -/
  | interrupted
  deriving DecidableEq, Repr

inductive FactoryResult (V E : Type)
  | value (v : V)
  | exception (error : E)
  | interrupted
  deriving DecidableEq, Repr

/-- Where a `get_or_compute` call stands. `flight` is its `_Inflight` object. -/
inductive CachePoint (V E : Type)
  | loop
  | lookup (now : ℕ)
  | inspect
  | waiting (flight : ℕ)
  | owner (flight : ℕ)
  | computing (flight epoch : ℕ)
  | storing (flight : ℕ) (v : V) (epoch : ℕ)
  /-- The `finally` block: first the table entry, then the event. -/
  | popping (flight : ℕ) (result : CacheResult V E)
  | signalling (flight : ℕ) (result : CacheResult V E)
  | done (result : CacheResult V E)
  deriving DecidableEq, Repr

structure CacheCall (κ V E : Type) where
  key : κ
  /-- The `clear` calls that had returned when the call started. -/
  startedAfter : ℕ
  point : CachePoint V E := .loop
  deriving DecidableEq, Repr

structure CacheEntry (V : Type) where
  expiresAt : ℕ
  value : V
  epoch : ℕ
  deriving DecidableEq, Repr

/-- `_Inflight`. -/
structure Inflight (E : Type) where
  event : Bool := false
  error : Option E := none
  deriving DecidableEq, Repr

structure TopologyCache (κ V E : Type) where
  entries : κ → Option (CacheEntry V) := fun _ => none
  inflight : κ → Option ℕ := fun _ => none
  flights : List (Inflight E) := []
  calls : List (CacheCall κ V E) := []
  clears : ℕ := 0

inductive CacheAction (κ V E : Type)
  | start (key : κ)
  | readClock (call now : ℕ)
  | get (call : ℕ)
  | inspect (call : ℕ)
  | wake (call : ℕ)
  | beginFactory (call : ℕ)
  | endFactory (call : ℕ) (result : FactoryResult V E)
  | put (call now : ℕ)
  | pop (call : ℕ)
  | signal (call : ℕ)
  | clear
  deriving DecidableEq, Repr

namespace TopologyCache

variable {κ V E : Type} [DecidableEq κ]

/-- The call goes on at another point. -/
def moveTo (s : TopologyCache κ V E) (n : ℕ) (c : CacheCall κ V E) (point : CachePoint V E) :
    TopologyCache κ V E :=
  { s with calls := s.calls.set n { c with point := point } }

/-- The lock section of `get`: an expired entry is dropped. -/
def get (s : TopologyCache κ V E) (n : ℕ) (c : CacheCall κ V E) (now : ℕ) :
    TopologyCache κ V E :=
  match s.entries c.key with
  | none => s.moveTo n c .inspect
  | some entry =>
    if entry.expiresAt ≤ now then
      { s with entries := Function.update s.entries c.key none }.moveTo n c .inspect
    else s.moveTo n c (.done (.value entry.value entry.epoch))

/-- The lock section that joins the computation of the key or starts one. -/
def inspect (s : TopologyCache κ V E) (n : ℕ) (c : CacheCall κ V E) : TopologyCache κ V E :=
  match s.inflight c.key with
  | none =>
    { s with
      inflight := Function.update s.inflight c.key (some s.flights.length)
      flights := s.flights ++ [Inflight.mk false none] }.moveTo n c (.owner s.flights.length)
  | some flight => s.moveTo n c (.waiting flight)

/-- What the `try` statement does when the factory run ends. -/
def endFactory (s : TopologyCache κ V E) (n : ℕ) (c : CacheCall κ V E) (flight epoch : ℕ) :
    FactoryResult V E → TopologyCache κ V E
  | .value v => s.moveTo n c (.storing flight v epoch)
  | .exception e =>
    { s with flights := s.flights.modify flight fun f => { f with error := some e } }.moveTo n c
      (.popping flight (.raised e))
  | .interrupted => s.moveTo n c (.popping flight .interrupted)

/-- One step of one call. -/
def callStep (ttl : ℕ) (s : TopologyCache κ V E) (n : ℕ) (c : CacheCall κ V E) :
    CacheAction κ V E → Option (TopologyCache κ V E)
  | .readClock _ now =>
    match c.point with
    | .loop => some (s.moveTo n c (.lookup now))
    | _ => none
  | .get _ =>
    match c.point with
    | .lookup now => some (s.get n c now)
    | _ => none
  | .inspect _ =>
    match c.point with
    | .inspect => some (s.inspect n c)
    | _ => none
  | .wake _ =>
    match c.point with
    | .waiting flight =>
      match s.flights[flight]? with
      | none => none
      | some f =>
        if f.event then
          some (s.moveTo n c (match f.error with
            | some e => .done (.raised e)
            | none => .loop))
        else none
    | _ => none
  | .beginFactory _ =>
    match c.point with
    | .owner flight => some (s.moveTo n c (.computing flight s.clears))
    | _ => none
  | .endFactory _ result =>
    match c.point with
    | .computing flight epoch => some (s.endFactory n c flight epoch result)
    | _ => none
  | .put _ now =>
    match c.point with
    | .storing flight v epoch =>
      some ({ s with
        entries := Function.update s.entries c.key (some ⟨now + ttl, v, epoch⟩) }.moveTo n c
          (.popping flight (.value v epoch)))
    | _ => none
  | .pop _ =>
    match c.point with
    | .popping flight result =>
      some ({ s with inflight := Function.update s.inflight c.key none }.moveTo n c
        (.signalling flight result))
    | _ => none
  | .signal _ =>
    match c.point with
    | .signalling flight result =>
      some ({ s with
        flights := s.flights.modify flight fun f => { f with event := true } }.moveTo n c
          (.done result))
    | _ => none
  | _ => none

end TopologyCache

/-- The call that an action belongs to. -/
def CacheAction.call? {κ V E : Type} : CacheAction κ V E → Option ℕ
  | .readClock n _ | .get n | .inspect n | .wake n | .beginFactory n | .endFactory n _ | .put n _
  | .pop n | .signal n => some n
  | .start _ | .clear => none

variable {κ V E : Type} [DecidableEq κ]

def TopologyCache.step (ttl : ℕ) (s : TopologyCache κ V E) (a : CacheAction κ V E) :
    Option (TopologyCache κ V E) :=
  match a with
  | .start key => some { s with calls := s.calls ++ [{ key, startedAfter := s.clears }] }
  | .clear => some { s with entries := fun _ => none, clears := s.clears + 1 }
  | a =>
    match a.call? with
    | none => none
    | some n => (s.calls[n]?).bind fun c => s.callStep ttl n c a

end ConnectionTopology
