import Mathlib.Tactic

/-!
# The sessions of one thread

A program of a thread that opens database sessions, performs operations on them and calls
remote hosts. The first statement of a session checks out a connection and opens a
transaction, and both are given back by a commit, a rollback or the close. Every remote call
is recorded with the sessions as they stand. The rules of `Keeps` follow the shape of a
program and hold whether it returns or raises.
-/
namespace ConnectionTopology.Sessions

structure SessionState where
  connection : Bool := false
  transaction : Bool := false
  deriving DecidableEq, Repr

/-- Neither a connection nor a transaction. -/
def SessionState.idle : SessionState := {}

inductive Operation
  | statement
  | commit
  | rollback
  | close
  deriving DecidableEq, Repr

def Operation.apply : Operation → SessionState → SessionState
  | .statement, _ => { connection := true, transaction := true }
  | .commit, _ | .rollback, _ | .close, _ => .idle

/-- A thread that calls remote hosts with arguments of type `κ`. -/
structure Thread (κ : Type) where
  /-- Every session that was opened, in order. -/
  sessions : List SessionState := []
  /-- The number of operations performed so far. -/
  operations : ℕ := 0
  /-- The remote calls, each with the sessions at its time. -/
  calls : List (κ × List SessionState) := []
  deriving DecidableEq, Repr

/-- A program that may raise an `ε`. -/
def Program (κ ε α : Type) := Thread κ → Except ε α × Thread κ

variable {κ ε α β : Type}

instance : Monad (Program κ ε) where
  pure a := fun t => (.ok a, t)
  bind m f := fun t =>
    match m t with
    | (.ok a, t) => f a t
    | (.error e, t) => (.error e, t)

instance : MonadExcept ε (Program κ ε) where
  throw e := fun t => (.error e, t)
  tryCatch m handler := fun t =>
    match m t with
    | (.ok a, t) => (.ok a, t)
    | (.error e, t) => handler e t

/-- What the thread reads from outside, at the number of operations so far. -/
def ask (f : ℕ → α) : Program κ ε α := fun t => (.ok (f t.operations), t)

def openSession : Program κ ε ℕ := fun t =>
  (.ok t.sessions.length, { t with sessions := t.sessions ++ [.idle] })

def Thread.touch (t : Thread κ) (session : ℕ) (op : Operation) : Thread κ :=
  { t with sessions := t.sessions.modify session op.apply }

/-- An operation, which raises what `fault` says. One that raises has its effect nevertheless:
a commit that fails has rolled back. -/
def perform (fault : ℕ → Option ε) (session : ℕ) (op : Operation) : Program κ ε Unit := fun t =>
  let touched := { t.touch session op with operations := t.operations + 1 }
  match fault t.operations with
  | none => (.ok (), touched)
  | some e => (.error e, touched)

/-- A number of statements in a row. -/
def performAll (fault : ℕ → Option ε) (session : ℕ) : ℕ → Program κ ε Unit
  | 0 => pure ()
  | n + 1 => do
    perform fault session .statement
    performAll fault session n

/-- `try: ... finally: session.close()`; closing raises nothing. -/
def closing (session : ℕ) (m : Program κ ε α) : Program κ ε α := fun t =>
  let r := m t
  (r.1, r.2.touch session .close)

/-- `with session_factory() as session: ...`. -/
def withSession (body : ℕ → Program κ ε α) : Program κ ε α := do
  let session ← openSession
  closing session (body session)

/-- A call over the network, and what comes back. -/
def remote (call : κ) (reply : Except ε α) : Program κ ε α := fun t =>
  (reply, { t with calls := t.calls ++ [(call, t.sessions)] })

theorem bind_of_ok {m : Program κ ε α} {f : α → Program κ ε β} {t t' : Thread κ} {a : α}
    (h : m t = (.ok a, t')) : (m >>= f) t = f a t' := by
  change (match m t with
    | (Except.ok a, t) => f a t
    | (Except.error e, t) => (Except.error e, t)) = _
  rw [h]

theorem bind_of_error {m : Program κ ε α} {f : α → Program κ ε β} {t t' : Thread κ} {e : ε}
    (h : m t = (.error e, t')) : (m >>= f) t = (.error e, t') := by
  change (match m t with
    | (Except.ok a, t) => f a t
    | (Except.error e, t) => (Except.error e, t)) = _
  rw [h]

theorem tryCatch_of_ok {m : Program κ ε α} {handler : ε → Program κ ε α} {t t' : Thread κ} {a : α}
    (h : m t = (.ok a, t')) : (MonadExcept.tryCatch m handler) t = (.ok a, t') := by
  change (match m t with
    | (Except.ok a, t) => (Except.ok a, t)
    | (Except.error e, t) => handler e t) = _
  rw [h]

theorem tryCatch_of_error {m : Program κ ε α} {handler : ε → Program κ ε α} {t t' : Thread κ}
    {e : ε} (h : m t = (.error e, t')) : (MonadExcept.tryCatch m handler) t = handler e t' := by
  change (match m t with
    | (Except.ok a, t) => (Except.ok a, t)
    | (Except.error e, t) => handler e t) = _
  rw [h]

/-! ## Rules -/

/-- The program leads from `P` to `Q`, also when it raises. -/
structure Keeps (P : Thread κ → Prop) (m : Program κ ε α) (Q : Thread κ → Prop) : Prop where
  after : ∀ t, P t → Q (m t).2

section Rules
variable {P Q R : Thread κ → Prop}

theorem Keeps.mono {P' Q' : Thread κ → Prop} {m : Program κ ε α} (h : Keeps P m Q)
    (hP : ∀ t, P' t → P t) (hQ : ∀ t, Q t → Q' t) : Keeps P' m Q' :=
  ⟨fun t ht => hQ _ (h.after t (hP t ht))⟩

theorem keeps_pure (a : α) : Keeps P (pure a : Program κ ε α) P := ⟨fun _ h => h⟩

theorem keeps_throw (e : ε) : Keeps P (throw e : Program κ ε α) P := ⟨fun _ h => h⟩

theorem keeps_ask (f : ℕ → α) : Keeps P (ask f : Program κ ε α) P := ⟨fun _ h => h⟩

/-- The end of the first part must do for the end of the whole, because the first may raise. -/
theorem Keeps.bind {m : Program κ ε α} {f : α → Program κ ε β} (hm : Keeps P m Q)
    (hf : ∀ a, Keeps Q (f a) R) (hQR : ∀ t, Q t → R t) : Keeps P (m >>= f) R := by
  constructor
  intro t ht
  have hq := hm.after t ht
  rcases hrun : m t with ⟨e | a, t'⟩
  · rw [hrun] at hq
    rw [bind_of_error hrun]
    exact hQR t' hq
  · rw [hrun] at hq
    rw [bind_of_ok hrun]
    exact (hf a).after t' hq

theorem Keeps.tryCatch {m : Program κ ε α} {handler : ε → Program κ ε α} (hm : Keeps P m Q)
    (hh : ∀ e, Keeps Q (handler e) R) (hQR : ∀ t, Q t → R t) :
    Keeps P (MonadExcept.tryCatch m handler) R := by
  constructor
  intro t ht
  have hq := hm.after t ht
  rcases hrun : m t with ⟨e | a, t'⟩
  · rw [hrun] at hq
    rw [tryCatch_of_error hrun]
    exact (hh e).after t' hq
  · rw [hrun] at hq
    rw [tryCatch_of_ok hrun]
    exact hQR t' hq

/-- What holds before every step of a program and after it. -/
theorem Keeps.seq {m : Program κ ε α} {f : α → Program κ ε β} (hm : Keeps P m P)
    (hf : ∀ a, Keeps P (f a) P) : Keeps P (m >>= f) P := hm.bind hf fun _ h => h

theorem Keeps.handled {m : Program κ ε α} {handler : ε → Program κ ε α} (hm : Keeps P m P)
    (hh : ∀ e, Keeps P (handler e) P) : Keeps P (MonadExcept.tryCatch m handler) P :=
  hm.tryCatch hh fun _ h => h

end Rules

/-! ## Who holds a connection -/

section Holding
variable {C : List (κ × List SessionState) → Prop}

/-- No session but the given one holds anything, and the calls so far are as they should be. -/
structure Within (C : List (κ × List SessionState) → Prop) (session : ℕ) (t : Thread κ) : Prop where
  others : ∀ i s, t.sessions[i]? = some s → i ≠ session → s = .idle
  calls : C t.calls

/-- No session holds anything. -/
structure Released (C : List (κ × List SessionState) → Prop) (t : Thread κ) : Prop where
  idle : ∀ s ∈ t.sessions, s = .idle
  calls : C t.calls

theorem Released.within {t : Thread κ} (h : Released C t) (session : ℕ) : Within C session t where
  others _ s hs _ := h.idle s (List.mem_of_getElem? hs)
  calls := h.calls

theorem Within.touch {session : ℕ} {t : Thread κ} (h : Within C session t) (op : Operation) :
    Within C session (t.touch session op) where
  others := by
    intro i s hs hne
    rw [Thread.touch, List.getElem?_modify_ne _ _ (Ne.symm hne)] at hs
    exact h.others i s hs hne
  calls := h.calls

theorem Within.release {session : ℕ} {t : Thread κ} (h : Within C session t) {op : Operation}
    (hop : op ≠ .statement) : Released C (t.touch session op) where
  idle := by
    intro s hs
    obtain ⟨i, hi⟩ := List.mem_iff_getElem?.mp hs
    by_cases hsession : i = session
    · subst hsession
      rw [Thread.touch, List.getElem?_modify_eq] at hi
      obtain ⟨s', -, rfl⟩ := Option.map_eq_some_iff.mp hi
      cases op with
      | statement => exact absurd rfl hop
      | commit => rfl
      | rollback => rfl
      | close => rfl
    · exact (h.touch op).others i s hi hsession
  calls := h.calls

theorem keeps_openSession : Keeps (Released C) (openSession : Program κ ε ℕ) (Released C) := by
  constructor
  intro t h
  constructor
  · intro s hs
    rcases List.mem_append.mp hs with hs | hs
    · exact h.idle s hs
    · exact List.mem_singleton.mp hs
  · exact h.calls

theorem keeps_perform {fault : ℕ → Option ε} {session : ℕ} {op : Operation} :
    Keeps (Within C session) (perform fault session op) (Within C session) := by
  constructor
  intro t h
  have htouch := h.touch op
  unfold perform
  dsimp only
  split <;> exact ⟨htouch.others, htouch.calls⟩

theorem keeps_perform_release {fault : ℕ → Option ε} {session : ℕ} {op : Operation}
    (hop : op ≠ .statement) :
    Keeps (Within C session) (perform fault session op) (Released C) := by
  constructor
  intro t h
  have hrelease := h.release hop
  unfold perform
  dsimp only
  split <;> exact ⟨hrelease.idle, hrelease.calls⟩

theorem keeps_performAll {fault : ℕ → Option ε} {session : ℕ} (n : ℕ) :
    Keeps (Within C session) (performAll fault session n) (Within C session) := by
  induction n with
  | zero => exact keeps_pure ()
  | succ n ih => exact keeps_perform.seq fun _ => ih

theorem Keeps.closing {P : Thread κ → Prop} {session : ℕ} {m : Program κ ε α}
    (h : Keeps P m (Within C session)) : Keeps P (closing session m) (Released C) :=
  ⟨fun t ht => (h.after t ht).release (by decide)⟩

/-- A program that keeps to its session may begin with every session released. -/
theorem Keeps.fromReleased {session : ℕ} {m : Program κ ε α}
    (h : Keeps (Within C session) m (Within C session)) :
    Keeps (Released C) m (Within C session) := by
  apply h.mono
  · intro t ht
    exact ht.within session
  · intro t ht
    exact ht

/-- A session is closed where it was opened, whatever happens in between. -/
theorem keeps_withSession {body : ℕ → Program κ ε α}
    (h : ∀ session, Keeps (Released C) (body session) (Within C session)) :
    Keeps (Released C) (withSession body) (Released C) :=
  keeps_openSession.seq fun session => (h session).closing

/-- Between statements that leave nothing open, a call is made with nothing held. -/
theorem keeps_remote {call : κ} {reply : Except ε α}
    (hC : ∀ calls sessions, C calls → (∀ s ∈ sessions, s = .idle) → C (calls ++ [(call, sessions)])) :
    Keeps (Released C) (remote call reply) (Released C) :=
  ⟨fun _ h => ⟨h.idle, hC _ _ h.calls h.idle⟩⟩

end Holding

/-! ## Nothing held across the network -/

/-- At every call so far, no session had a connection or an open transaction. -/
def NothingHeld (calls : List (κ × List SessionState)) : Prop :=
  ∀ call ∈ calls, ∀ s ∈ call.2, s.connection = false ∧ s.transaction = false

instance (calls : List (κ × List SessionState)) : Decidable (NothingHeld calls) := by
  unfold NothingHeld
  infer_instance

theorem nothingHeld_append {calls : List (κ × List SessionState)} {call : κ × List SessionState} :
    NothingHeld (calls ++ [call]) ↔
      NothingHeld calls ∧ ∀ s ∈ call.2, s.connection = false ∧ s.transaction = false := by
  simp only [NothingHeld, List.forall_mem_append, List.forall_mem_singleton]

theorem NothingHeld.append {calls : List (κ × List SessionState)} (h : NothingHeld calls)
    {call : κ} {sessions : List SessionState} (hidle : ∀ s ∈ sessions, s = .idle) :
    NothingHeld (calls ++ [(call, sessions)]) := by
  rw [nothingHeld_append]
  refine ⟨h, ?_⟩
  intro s hs
  rw [hidle s hs]
  exact ⟨rfl, rfl⟩

end ConnectionTopology.Sessions
