import ConnectionTopology.Library.Machine

/-!
# The enqueue lock and the transaction slots of one process

Enqueuing threads take `_enqueue_lock` and then, inside `run`, a slot; a conflicting
transaction gives its slot back and tries again with the lock still held. A device
deletion takes its slot in `guard` and then asks for the lock in `cancel_device`.
The two orders meet in a deadlock exactly when a thread may close the circle.
-/
namespace ConnectionTopology

/-- Where a thread stands. -/
inductive ThreadPoint
  /-- `with self._enqueue_lock:` of an enqueuing call. -/
  | enqueueWantsLock
  /-- `slots.acquire()` inside `run`, with the lock held. -/
  | enqueueWantsSlot (attempt : ℕ)
  | enqueueInTransaction (attempt : ℕ)
  /-- `time.sleep(self.retry_delays[attempt])`, with the lock held and the slot released. -/
  | enqueueSleeps (attempt : ℕ)
  /-- `slots.acquire()` inside `guard`. -/
  | deleteWantsSlot
  | deleteHoldsSlot
  /-- `with self._enqueue_lock:` of `cancel_device(session=db)`, with a slot held. -/
  | deleteWantsLock
  | deleteCancels
  | deleteCommits
  | done
  deriving DecidableEq, Repr

def ThreadPoint.holdsLock : ThreadPoint → Bool
  | .enqueueWantsSlot _ | .enqueueInTransaction _ | .enqueueSleeps _ | .deleteCancels => true
  | .enqueueWantsLock | .deleteWantsSlot | .deleteHoldsSlot | .deleteWantsLock | .deleteCommits
  | .done => false

def ThreadPoint.holdsSlot : ThreadPoint → Bool
  | .enqueueInTransaction _ | .deleteHoldsSlot | .deleteWantsLock | .deleteCancels
  | .deleteCommits => true
  | .enqueueWantsLock | .enqueueWantsSlot _ | .enqueueSleeps _ | .deleteWantsSlot | .done => false

/-- Blocked in an `acquire`. -/
def ThreadPoint.waits : ThreadPoint → Bool
  | .enqueueWantsLock | .enqueueWantsSlot _ | .deleteWantsSlot | .deleteWantsLock => true
  | .enqueueInTransaction _ | .enqueueSleeps _ | .deleteHoldsSlot | .deleteCancels
  | .deleteCommits | .done => false

/-- An enqueuing thread that holds the lock without a slot. -/
def ThreadPoint.isSlotless : ThreadPoint → Bool
  | .enqueueWantsSlot _ | .enqueueSleeps _ => true
  | _ => false

abbrev Threads := List ThreadPoint

def Threads.lockFree (s : Threads) : Bool := s.all fun p => !p.holdsLock

def Threads.slotFree (capacity : ℕ) (s : Threads) : Bool := s.countP (·.holdsSlot) < capacity

inductive ThreadAction
  | beginEnqueue
  | beginDelete
  | acquireLock (thread : ℕ)
  | acquireSlot (thread : ℕ)
  /-- The transaction commits, or fails with an error that is not retried. -/
  | finishEnqueue (thread : ℕ)
  /-- PostgreSQL reports a deadlock or a serialization failure. -/
  | conflict (thread : ℕ)
  | wake (thread : ℕ)
  /-- The device does not exist: 404. -/
  | deviceMissing (thread : ℕ)
  | callCancel (thread : ℕ)
  | releaseLock (thread : ℕ)
  /-- The deletion commits, or the running scan answers 409. -/
  | finishDelete (thread : ℕ)
  deriving DecidableEq, Repr

def Threads.move (s : Threads) (n : ℕ) (p : ThreadPoint) : Option Threads := some (s.set n p)

/-- One action under a semaphore of the given capacity; `retries` is the number of
entries of `retry_delays`. -/
def Threads.step (capacity retries : ℕ) (s : Threads) : ThreadAction → Option Threads
  | .beginEnqueue => some (s ++ [.enqueueWantsLock])
  | .beginDelete => some (s ++ [.deleteWantsSlot])
  | .acquireLock n =>
    if s.lockFree then
      match s[n]? with
      | some .enqueueWantsLock => s.move n (.enqueueWantsSlot 0)
      | some .deleteWantsLock => s.move n .deleteCancels
      | _ => none
    else none
  | .acquireSlot n =>
    if s.slotFree capacity then
      match s[n]? with
      | some (.enqueueWantsSlot attempt) => s.move n (.enqueueInTransaction attempt)
      | some .deleteWantsSlot => s.move n .deleteHoldsSlot
      | _ => none
    else none
  | .finishEnqueue n =>
    match s[n]? with
    | some (.enqueueInTransaction _) => s.move n .done
    | _ => none
  | .conflict n =>
    match s[n]? with
    | some (.enqueueInTransaction attempt) =>
      if attempt = retries then s.move n .done else s.move n (.enqueueSleeps attempt)
    | _ => none
  | .wake n =>
    match s[n]? with
    | some (.enqueueSleeps attempt) => s.move n (.enqueueWantsSlot (attempt + 1))
    | _ => none
  | .deviceMissing n =>
    match s[n]? with
    | some .deleteHoldsSlot => s.move n .done
    | _ => none
  | .callCancel n =>
    match s[n]? with
    | some .deleteHoldsSlot => s.move n .deleteWantsLock
    | _ => none
  | .releaseLock n =>
    match s[n]? with
    | some .deleteCancels => s.move n .deleteCommits
    | _ => none
  | .finishDelete n =>
    match s[n]? with
    | some .deleteCommits => s.move n .done
    | _ => none

/-- A non-empty set of threads, all waiting, that together hold the lock and every slot. -/
def Threads.Deadlocked (capacity : ℕ) (s : Threads) : Prop :=
  ∃ S : Finset ℕ, S.Nonempty ∧ (∀ i ∈ S, (s[i]?).any (·.waits)) ∧
    (∃ i ∈ S, (s[i]?).any (·.holdsLock)) ∧ capacity ≤ (S.filter fun i => (s[i]?).any (·.holdsSlot)).card

def Threads.lockWaiters (s : Threads) : ℕ := s.countP (· = .deleteWantsLock)

/-- An enqueuing thread takes the lock only while a slot is left that no deletion
waiting for the lock holds, and a deletion starts to wait for the lock only while it
would not take the last such slot from an enqueuing thread that has the lock. -/
def Threads.avoidsCircle (capacity : ℕ) (s : Threads) : ThreadAction → Bool
  | .acquireLock n => s[n]? ≠ some .enqueueWantsLock || s.lockWaiters < capacity
  | .callCancel _ => !s.any (·.isSlotless) || s.lockWaiters + 1 < capacity
  | _ => true

/-! ## Counting threads -/

/-- A set of threads with a property is no larger than their number. -/
theorem card_filter_le_countP (p : ThreadPoint → Bool) (s : Threads) (S : Finset ℕ) :
    (S.filter fun i => (s[i]?).any p).card ≤ s.countP p := by
  induction s using List.reverseRecOn generalizing S with
  | nil => simp
  | append_singleton s a ih =>
    have hsub : (S.filter fun i => ((s ++ [a])[i]?).any p) ⊆
        (S.filter fun i => (s[i]?).any p) ∪ (if p a then {s.length} else ∅) := by
      intro i hi
      obtain ⟨hS, hany⟩ := Finset.mem_filter.mp hi
      rw [List.getElem?_append] at hany
      split_ifs at hany with hlt
      · exact Finset.mem_union_left _ (Finset.mem_filter.mpr ⟨hS, hany⟩)
      · rcases Nat.eq_or_lt_of_le (Nat.le_of_not_lt hlt) with heq | hgt
        · apply Finset.mem_union_right
          have hp : p a := by simpa [← heq] using hany
          simp [hp, heq]
        · have hnone : [a][i - s.length]? = none := by
            rw [List.getElem?_eq_none_iff]
            simp only [List.length_singleton]
            omega
          simp [hnone] at hany
    have hcard := (Finset.card_le_card hsub).trans (Finset.card_union_le _ _)
    have hbase := ih S
    rw [List.countP_append, List.countP_singleton]
    split_ifs at hcard ⊢ with hp
    · rw [Finset.card_singleton] at hcard
      omega
    · rw [Finset.card_empty] at hcard
      omega

/-! ## The invariant -/

/-- The circle is closed, or closes as soon as the enqueuing thread wakes up. -/
def Threads.Jammed (capacity : ℕ) (s : Threads) : Prop :=
  s.any (·.isSlotless) ∧ capacity ≤ s.lockWaiters

theorem jammed_of_deadlocked {capacity : ℕ} {s : Threads} (h : s.Deadlocked capacity) :
    s.Jammed capacity := by
  obtain ⟨S, -, hwaits, ⟨i, hi, hlock⟩, hslots⟩ := h
  constructor
  · -- a waiting thread that holds the lock is an enqueuing thread without a slot
    have hwait := hwaits i hi
    cases hp : s[i]? with
    | none => simp [hp] at hlock
    | some p =>
      simp only [hp, Option.any_some] at hlock hwait
      rw [List.any_eq_true]
      refine ⟨p, List.mem_of_getElem? hp, ?_⟩
      cases p <;> simp_all [ThreadPoint.holdsLock, ThreadPoint.waits, ThreadPoint.isSlotless]
  · -- a waiting thread that holds a slot is a deletion waiting for the lock
    have hsub : (S.filter fun j => (s[j]?).any (·.holdsSlot)) ⊆
        S.filter fun j => (s[j]?).any fun p => decide (p = .deleteWantsLock) := by
      intro j hj
      obtain ⟨hS, hheld⟩ := Finset.mem_filter.mp hj
      refine Finset.mem_filter.mpr ⟨hS, ?_⟩
      have hwait := hwaits j hS
      cases hp : s[j]? with
      | none => simp [hp] at hheld
      | some p =>
        simp only [hp, Option.any_some] at hheld hwait ⊢
        cases p <;> simp_all [ThreadPoint.holdsSlot, ThreadPoint.waits]
    exact hslots.trans ((Finset.card_le_card hsub).trans (card_filter_le_countP _ s S))

structure Threads.Safe (capacity : ℕ) (s : Threads) : Prop where
  slots : s.countP (·.holdsSlot) ≤ capacity
  clear : ¬ s.Jammed capacity

theorem any_isSlotless_set {s : Threads} {n : ℕ} {p : ThreadPoint}
    (h : (s.set n p).any (·.isSlotless)) : s.any (·.isSlotless) ∨ p.isSlotless := by
  obtain ⟨q, hq, hslotless⟩ := List.any_eq_true.mp h
  rcases List.mem_or_eq_of_mem_set hq with hq | rfl
  · exact Or.inl (List.any_eq_true.mpr ⟨q, hq, hslotless⟩)
  · exact Or.inr hslotless

/-- Moving one thread is safe when it takes no slot that is not there and does not
close the circle. -/
theorem Threads.Safe.set {capacity : ℕ} {s : Threads} (h : s.Safe capacity) {n : ℕ}
    {a b : ThreadPoint} (ha : s[n]? = some a)
    (hslot : b.holdsSlot → a.holdsSlot ∨ s.slotFree capacity)
    (hwaiter : b = .deleteWantsLock → s.any (·.isSlotless) → s.lockWaiters + 1 < capacity)
    (hslotless : b.isSlotless → a.isSlotless ∨ s.lockWaiters < capacity) :
    Threads.Safe capacity (s.set n b) := by
  have hcount := Machine.countP_set_add (·.holdsSlot) b ha
  have hwaiters := Machine.countP_set_add (fun p => decide (p = .deleteWantsLock)) b ha
  have hslots := h.slots
  refine ⟨?_, ?_⟩
  · by_cases hb : b.holdsSlot
    · rcases hslot hb with hheld | hfree
      · simp only [hb, hheld, if_true] at hcount
        omega
      · simp only [Threads.slotFree, decide_eq_true_eq] at hfree
        simp only [hb, if_true] at hcount
        omega
    · simp only [hb] at hcount
      simp only [Bool.false_eq_true, if_false] at hcount
      omega
  · rintro ⟨hany, hfull⟩
    have hclear := h.clear
    simp only [Threads.Jammed, Threads.lockWaiters, not_and, not_le] at hclear hfull hwaiter hslotless
    by_cases hb : b = .deleteWantsLock
    · subst hb
      have hold : s.any (·.isSlotless) := by
        rcases any_isSlotless_set hany with hold | hnew
        · exact hold
        · cases hnew
      have hlt := hwaiter rfl hold
      simp only [decide_true, if_true] at hwaiters
      omega
    · have hlt : s.countP (fun p => decide (p = .deleteWantsLock)) < capacity := by
        rcases any_isSlotless_set hany with hold | hnew
        · exact hclear hold
        · rcases hslotless hnew with hheld | hlt
          · exact hclear (List.any_eq_true.mpr ⟨a, List.mem_of_getElem? ha, hheld⟩)
          · exact hlt
      simp only [hb, decide_false, Bool.false_eq_true, if_false] at hwaiters
      omega

theorem Threads.Safe.begin {capacity : ℕ} {s : Threads} (h : s.Safe capacity) {p : ThreadPoint}
    (hslot : p.holdsSlot = false) (hwaits : p ≠ .deleteWantsLock) (hslotless : p.isSlotless = false) :
    Threads.Safe capacity (s ++ [p]) := by
  have hslots := h.slots
  refine ⟨?_, ?_⟩
  · rw [List.countP_append, List.countP_singleton]
    simp only [hslot, Bool.false_eq_true, if_false]
    omega
  · rintro ⟨hany, hfull⟩
    apply h.clear
    constructor
    · simpa [hslotless] using hany
    · simpa [Threads.lockWaiters, List.countP_append, hwaits] using hfull

/-- A thread in its transaction holds a slot, so not every slot is held by a deletion
that waits for the lock. -/
theorem lockWaiters_lt_of_inTransaction {capacity : ℕ} {s : Threads} (h : s.Safe capacity) {n : ℕ}
    {attempt : ℕ} (hn : s[n]? = some (.enqueueInTransaction attempt)) : s.lockWaiters < capacity := by
  -- the thread becomes `done` and the remaining slot holders include every such deletion
  have hcount := Machine.countP_set_add (·.holdsSlot) .done hn
  have hwaiters := Machine.countP_set_add (fun p => decide (p = .deleteWantsLock)) .done hn
  have hsub : (s.set n .done).countP (fun p => decide (p = .deleteWantsLock)) ≤
      (s.set n .done).countP (·.holdsSlot) := by
    apply List.countP_mono_left
    intro p _ hp
    rw [of_decide_eq_true hp]
    rfl
  have hslots := h.slots
  have hheld : (ThreadPoint.enqueueInTransaction attempt).holdsSlot = true := rfl
  have hdone : ThreadPoint.done.holdsSlot = false := rfl
  simp only [hheld, hdone, if_true, Bool.false_eq_true, if_false] at hcount
  simp only [reduceCtorEq, decide_false, Bool.false_eq_true, if_false] at hwaiters
  simp only [Threads.lockWaiters]
  omega

/-- One step that avoids the circle keeps the process safe. -/
theorem Threads.Safe.step {capacity retries : ℕ} {s s' : Threads} {a : ThreadAction}
    (h : s.Safe capacity) (havoid : s.avoidsCircle capacity a)
    (hstep : s.step capacity retries a = some s') : s'.Safe capacity := by
  cases a with
  | beginEnqueue =>
    cases hstep
    exact h.begin rfl (by simp) rfl
  | beginDelete =>
    cases hstep
    exact h.begin rfl (by simp) rfl
  | acquireLock n =>
    simp only [Threads.step] at hstep
    split_ifs at hstep
    split at hstep
    · rename_i hn
      cases hstep
      apply h.set hn (by simp [ThreadPoint.holdsSlot]) (by simp)
      intro _
      right
      simpa [Threads.avoidsCircle, hn] using havoid
    · rename_i hn
      cases hstep
      exact h.set hn (by simp [ThreadPoint.holdsSlot]) (by simp) (by simp [ThreadPoint.isSlotless])
    · cases hstep
  | acquireSlot n =>
    simp only [Threads.step] at hstep
    split_ifs at hstep with hfree
    split at hstep
    · rename_i hn
      cases hstep
      exact h.set hn (fun _ => Or.inr hfree) (by simp) (by simp [ThreadPoint.isSlotless])
    · rename_i hn
      cases hstep
      exact h.set hn (fun _ => Or.inr hfree) (by simp) (by simp [ThreadPoint.isSlotless])
    · cases hstep
  | finishEnqueue n =>
    simp only [Threads.step] at hstep
    split at hstep
    · rename_i hn
      cases hstep
      exact h.set hn (by simp [ThreadPoint.holdsSlot]) (by simp) (by simp [ThreadPoint.isSlotless])
    · cases hstep
  | conflict n =>
    simp only [Threads.step] at hstep
    split at hstep
    · rename_i hn
      split_ifs at hstep
      · cases hstep
        exact h.set hn (by simp [ThreadPoint.holdsSlot]) (by simp) (by simp [ThreadPoint.isSlotless])
      · cases hstep
        apply h.set hn (by simp [ThreadPoint.holdsSlot]) (by simp)
        intro _
        exact Or.inr (lockWaiters_lt_of_inTransaction h hn)
    · cases hstep
  | wake n =>
    simp only [Threads.step] at hstep
    split at hstep
    · rename_i hn
      cases hstep
      exact h.set hn (by simp [ThreadPoint.holdsSlot]) (by simp) (fun _ => Or.inl rfl)
    · cases hstep
  | deviceMissing n =>
    simp only [Threads.step] at hstep
    split at hstep
    · rename_i hn
      cases hstep
      exact h.set hn (by simp [ThreadPoint.holdsSlot]) (by simp) (by simp [ThreadPoint.isSlotless])
    · cases hstep
  | callCancel n =>
    simp only [Threads.step] at hstep
    split at hstep
    · rename_i hn
      cases hstep
      apply h.set hn (fun _ => Or.inl rfl) _ (by simp [ThreadPoint.isSlotless])
      intro _ hany
      simpa [Threads.avoidsCircle, hany] using havoid
    · cases hstep
  | releaseLock n =>
    simp only [Threads.step] at hstep
    split at hstep
    · rename_i hn
      cases hstep
      exact h.set hn (fun _ => Or.inl rfl) (by simp) (by simp [ThreadPoint.isSlotless])
    · cases hstep
  | finishDelete n =>
    simp only [Threads.step] at hstep
    split at hstep
    · rename_i hn
      cases hstep
      exact h.set hn (by simp [ThreadPoint.holdsSlot]) (by simp) (by simp [ThreadPoint.isSlotless])
    · cases hstep

/-- In every run whose steps avoid the circle no state is deadlocked. -/
theorem no_deadlock_when_circle_avoided {capacity retries : ℕ}
    {actions : List ThreadAction} {s : Threads}
    (hmeets : Machine.Meets (Threads.step capacity retries) (Threads.avoidsCircle capacity · ·) []
      actions)
    (hrun : Machine.run (Threads.step capacity retries) [] actions = some s) :
    ¬ s.Deadlocked capacity := by
  have hstart : Threads.Safe capacity [] := ⟨by simp, by simp [Threads.Jammed]⟩
  have hsafe := Machine.run_invariant_of_meets (Threads.Safe capacity)
    (fun _ _ _ hs hcond hstep => Threads.Safe.step hs hcond hstep) actions [] s hstart hmeets hrun
  exact fun hdead => hsafe.clear (jammed_of_deadlocked hdead)

/-- With one slot: a deletion takes it, an enqueuing thread takes the lock, and each
waits for the other. -/
def crossedActions : List ThreadAction :=
  [.beginEnqueue, .beginDelete, .acquireSlot 1, .acquireLock 0, .callCancel 1]

theorem enqueue_and_delete_deadlock :
    ∃ s, Machine.run (Threads.step 1 3) [] crossedActions = some s ∧ s.Deadlocked 1 := by
  refine ⟨_, rfl, {0, 1}, by simp, ?_, ⟨0, by simp, rfl⟩, ?_⟩ <;> decide

/-- With two slots one of them stays free for the enqueuing thread. -/
theorem enqueue_and_delete_pass_with_two_slots :
    ∃ s, Machine.run (Threads.step 2 3) [] crossedActions = some s ∧ ¬ s.Deadlocked 2 := by
  have hmeets : Machine.Meets (Threads.step 2 3) (Threads.avoidsCircle 2 · ·) [] crossedActions := by
    decide
  exact ⟨_, rfl, no_deadlock_when_circle_avoided hmeets rfl⟩

end ConnectionTopology
