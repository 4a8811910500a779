import ConnectionTopology.Library.Permits
import ConnectionTopology.ScanQueue.AdmissionDepth

/-!
# Transaction slots are conserved

The runner behaves like a pool of permits: a permit is taken at `slots.acquire()`, given back at
`slots.release()` and left alone by every other step. What holds of every pool holds of every run
in which no exception strikes where `_admit_transaction` has no `try`.
-/
namespace ConnectionTopology.TransactionSlots

open Permits

variable {δ E R : Type}

/-! ## The pool -/

/-- No exception strikes between `slots.acquire()` and the `try`, nor in the `finally` clause. -/
def SlotState.shelters (s : SlotState δ E R) : Action E R → Bool
  | .spawn => true
  | .move n m => (s.threads[n]?).all (·.shelters m)

def SlotState.Nested (s : SlotState δ E R) : Prop := ∀ t ∈ s.threads, t.Nested

/-- The semaphore and the threads as a pool of permits. -/
def SlotState.pool (s : SlotState δ E R) : Pool := ⟨s.transactionSlots, s.threads.map (·.holds)⟩

/-- What an action does to the pool. -/
def Action.trade : Action E R → List PoolAction
  | .spawn => [.join]
  | .move n .acquire => [.take n]
  | .move n .release => [.give n]
  | .move _ _ => []

def Action.acquires (n : ℕ) : Action E R → Bool
  | .move m .acquire => m = n
  | _ => false

def Action.releases (n : ℕ) : Action E R → Bool
  | .move m .release => m = n
  | _ => false

theorem count_take_trade (n : ℕ) (as : List (Action E R)) :
    (as.flatMap Action.trade).count (.take n) = as.countP (Action.acquires n) := by
  induction as with
  | nil => rfl
  | cons a as ih =>
    rw [List.flatMap_cons, List.count_append, ih, List.countP_cons, Nat.add_comm]
    congr 1
    unfold Action.trade Action.acquires
    split <;> simp_all [List.count_cons]

theorem count_give_trade (n : ℕ) (as : List (Action E R)) :
    (as.flatMap Action.trade).count (.give n) = as.countP (Action.releases n) := by
  induction as with
  | nil => rfl
  | cons a as ih =>
    rw [List.flatMap_cons, List.count_append, ih, List.countP_cons, Nat.add_comm]
    congr 1
    unfold Action.trade Action.releases
    split <;> simp_all [List.count_cons]

section State
variable {retryDelays : List δ} {capacity : ℕ} {s s' : SlotState δ E R} {a : Action E R}
  {n : ℕ} {m : Move E R}

theorem SlotState.step_move {runner : Runner δ} (h : s.step runner (.move n m) = some s') :
    ∃ t t' slots, s.threads[n]? = some t ∧
      t.step runner s.transactionSlots m = some (slots, t') ∧
      s' = { transactionSlots := slots, threads := s.threads.set n t' } := by
  simp only [SlotState.step] at h
  split at h
  · cases h
  · rename_i t ht
    obtain ⟨⟨slots, t'⟩, hstep, rfl⟩ := Option.map_eq_some_iff.mp h
    exact ⟨t, t', slots, ht, hstep, rfl⟩

theorem SlotState.shelters_thread {t : RunnerThread δ E R} (ht : s.threads[n]? = some t)
    (h : s.shelters (.move n m) = true) : t.shelters m = true := by
  simpa [SlotState.shelters, ht] using h

/-- The runner refines the pool. -/
theorem SlotState.step_refines (hs : s.Nested) (hsheltered : s.shelters a = true)
    (h : s.step ⟨retryDelays, some capacity⟩ a = some s') :
    s'.Nested ∧ Machine.run Pool.step s.pool a.trade = some s'.pool := by
  cases a with
  | spawn =>
    cases h
    constructor
    · intro t ht
      rcases List.mem_append.mp ht with ht | ht
      · exact hs t ht
      · rw [List.mem_singleton.mp ht]
        rfl
    · simp [SlotState.pool, Action.trade, Pool.step, Machine.run, RunnerThread.holds]
  | move n m =>
    obtain ⟨t, t', slots, ht, hstep, rfl⟩ := SlotState.step_move h
    obtain ⟨hnested, htrades⟩ := RunnerThread.step_nested (hs t (List.mem_of_getElem? ht))
      (SlotState.shelters_thread ht hsheltered) hstep
    constructor
    · intro u hu
      rcases List.mem_or_eq_of_mem_set hu with hu | rfl
      · exact hs u hu
      · exact hnested
    · have hheld : (s.threads.map (·.holds))[n]? = some t.holds := by simp [ht]
      simp only [SlotState.pool, List.map_set]
      cases m with
      | acquire =>
        obtain ⟨hslots, hbefore, hafter⟩ := htrades
        rw [hbefore] at hheld
        simp [Action.trade, Machine.run, Pool.step, hheld, hslots, hafter]
      | release =>
        obtain ⟨hslots, hbefore, hafter⟩ := htrades
        rw [hbefore] at hheld
        simp [Action.trade, Machine.run, Pool.step, hheld, hslots, hafter]
      | _ =>
        obtain ⟨hslots, hafter⟩ := htrades
        rw [hafter, Machine.set_of_getElem? hheld, hslots]
        rfl

/-- A run of the runner is a run of the pool. -/
theorem SlotState.run_refines {as : List (Action E R)} (hs : s.Nested)
    (hsheltered : Machine.Meets (SlotState.step ⟨retryDelays, some capacity⟩)
      (fun u a => u.shelters a = true) s as)
    (hrun : Machine.run (SlotState.step ⟨retryDelays, some capacity⟩) s as = some s') :
    s'.Nested ∧ Machine.run Pool.step s.pool (as.flatMap Action.trade) = some s'.pool := by
  constructor
  · apply Machine.run_invariant_of_meets SlotState.Nested _ as s s' hs hsheltered hrun
    intro u a v hu ha hstep
    exact (SlotState.step_refines hu ha hstep).1
  · exact Machine.run_simulates SlotState.Nested SlotState.pool Action.trade
      (fun _ _ _ hu ha hstep => SlotState.step_refines hu ha hstep) as s s' hs hsheltered hrun

/-- What a thread has is what it had and acquired less what it released. -/
theorem SlotState.holding_run {as : List (Action E R)} (hs : s.Nested)
    (hsheltered : Machine.Meets (SlotState.step ⟨retryDelays, some capacity⟩)
      (fun u a => u.shelters a = true) s as)
    (hrun : Machine.run (SlotState.step ⟨retryDelays, some capacity⟩) s as = some s') (n : ℕ) :
    s'.pool.holding n + as.countP (Action.releases n) =
      s.pool.holding n + as.countP (Action.acquires n) := by
  have hpool := Pool.holding_run (SlotState.run_refines hs hsheltered hrun).2 n
  rwa [count_take_trade, count_give_trade] at hpool

theorem SlotState.holding_eq {t : RunnerThread δ E R} (ht : s.threads[n]? = some t) :
    s.pool.holding n = if t.holds then 1 else 0 := by
  simp [SlotState.pool, Pool.holding, ht]

end State

/-! ## One call -/

/-- The number of calls that the thread is in. -/
def SlotState.callsOf (s : SlotState δ E R) (n : ℕ) : ℕ :=
  (s.threads[n]?).elim 0 fun t => t.calls.length

/-- A call, and all that every thread does until the call ends. -/
structure SlotState.Executes (runner : Runner δ) (s : SlotState δ E R) (n : ℕ) (call : Move E R)
    (as : List (Action E R)) (t : SlotState δ E R) : Prop where
  isCall : call.isCall = true
  runs : Machine.run (SlotState.step runner) s (.move n call :: as) = some t
  inside : ∀ u, s.step runner (.move n call) = some u →
    Machine.Meets (SlotState.step runner) (fun v _ => s.callsOf n < v.callsOf n) u as
  ends : t.callsOf n = s.callsOf n

/-- How often a call may ask for a permit. -/
def Move.attempts (retries : ℕ) : Move E R → ℕ
  | .guard _ => 1
  | .run _ => retries + 1
  | _ => 0

/-- How a call leaves its thread and the semaphore. -/
structure SlotState.Restores (retries : ℕ) (s : SlotState δ E R) (n : ℕ) (call : Move E R)
    (as : List (Action E R)) (t : SlotState δ E R) : Prop where
  depth : (t.threads[n]?).map (·.depth) = (s.threads[n]?).map (·.depth)
  /-- Every permit that the call acquires is released. -/
  released : as.countP (Action.releases n) = as.countP (Action.acquires n)
  attempts : as.countP (Action.acquires n) ≤ call.attempts retries
  nested : 0 < s.callsOf n → as.countP (Action.acquires n) = 0
  returned : s.callsOf n = 0 → (∃ u result, t.threads[n]? = some u ∧
    u.ended = some (.returned result)) → 0 < as.countP (Action.releases n)

section Call
variable {retryDelays : List δ} {capacity : ℕ} {s s' u v : SlotState δ E R} {a : Action E R}
  {n : ℕ} {m call : Move E R} {t₀ : RunnerThread δ E R}

theorem SlotState.callsOf_eq {t : RunnerThread δ E R} (ht : s.threads[n]? = some t) :
    s.callsOf n = t.calls.length := by
  rw [SlotState.callsOf, ht, Option.elim_some]

/-- An action of another thread, or a step of this one. -/
theorem SlotState.step_thread {runner : Runner δ} {t : RunnerThread δ E R}
    (ht : s.threads[n]? = some t) (h : s.step runner a = some s') :
    (s'.threads[n]? = some t ∧ ∀ m, a ≠ .move n m) ∨
      ∃ m t' slots, a = .move n m ∧ t.step runner s.transactionSlots m = some (slots, t') ∧
        s'.threads[n]? = some t' := by
  obtain ⟨hlt, -⟩ := List.getElem?_eq_some_iff.mp ht
  cases a with
  | spawn =>
    cases h
    exact Or.inl ⟨(List.getElem?_append_left hlt).trans ht, by simp⟩
  | move k m =>
    obtain ⟨w, w', slots, hw, hstep, rfl⟩ := SlotState.step_move h
    by_cases hkn : k = n
    · subst hkn
      obtain rfl := Option.some.inj (ht.symm.trans hw)
      exact Or.inr ⟨m, w', slots, rfl, hstep, by simp [hlt]⟩
    · exact Or.inl ⟨(List.getElem?_set_ne hkn).trans ht, by simp [hkn]⟩

/-- During a call the threads are nested and the calls around it stay. -/
def SlotState.Within (n : ℕ) (base : List (Frame δ E R)) (v : SlotState δ E R) : Prop :=
  v.Nested ∧ ∃ t, v.threads[n]? = some t ∧ base <:+ t.calls

theorem SlotState.Within.step {base : List (Frame δ E R)} (hv : v.Within n base)
    (hsheltered : v.shelters a = true) (hinside : base.length < v.callsOf n)
    (h : v.step ⟨retryDelays, some capacity⟩ a = some u) : u.Within n base := by
  obtain ⟨hnested, t, ht, hbase⟩ := hv
  refine ⟨(SlotState.step_refines hnested hsheltered h).1, ?_⟩
  rcases SlotState.step_thread ht h with ⟨hu, -⟩ | ⟨m, t', slots, -, hstep, hu⟩
  · exact ⟨t, hu, hbase⟩
  · rw [SlotState.callsOf_eq ht] at hinside
    exact ⟨t', hu, RunnerThread.step_suffix hbase (Or.inr hinside) hstep⟩

theorem Action.exists_of_acquires {a : Action E R} (h : a.acquires n = true) :
    a = .move n .acquire := by
  unfold Action.acquires at h
  split at h
  · rw [of_decide_eq_true h]
  · cases h

/-- Inside a nested call the thread acquires nothing. -/
theorem SlotState.Within.acquires_eq_false {base : List (Frame δ E R)} (hv : v.Within n base)
    (hsheltered : v.shelters a = true) (hinside : 1 < v.callsOf n)
    (h : v.step ⟨retryDelays, some capacity⟩ a = some u) : a.acquires n = false := by
  by_contra hacquires
  obtain ⟨hnested, t, ht, -⟩ := hv
  obtain rfl := Action.exists_of_acquires (by simpa using hacquires)
  obtain ⟨w, w', slots, hw, hstep, -⟩ := SlotState.step_move h
  obtain rfl := Option.some.inj (ht.symm.trans hw)
  have hlength := RunnerThread.length_of_acquire (hnested t (List.mem_of_getElem? ht))
    (SlotState.shelters_thread ht hsheltered) rfl hstep
  rw [SlotState.callsOf_eq ht, hlength] at hinside
  exact absurd hinside (lt_irrefl 1)

def SlotState.budget (retries n : ℕ) (v : SlotState δ E R) : ℕ :=
  (v.threads[n]?).elim 0 (RunnerThread.budget retries)

/-- Inside the outermost call the thread acquires out of the budget of that call. -/
theorem SlotState.Within.step_budget {base : List (Frame δ E R)} (hv : v.Within n base)
    (hsheltered : v.shelters a = true) (hinside : 0 < v.callsOf n)
    (h : v.step ⟨retryDelays, some capacity⟩ a = some u) :
    (if a.acquires n then 1 else 0) + u.budget retryDelays.length n ≤
      v.budget retryDelays.length n := by
  obtain ⟨hnested, t, ht, -⟩ := hv
  rw [SlotState.callsOf_eq ht] at hinside
  rcases SlotState.step_thread ht h with ⟨hu, hother⟩ | ⟨m, t', slots, rfl, hstep, hu⟩
  · have hnot : a.acquires n = false := by
      by_contra hacquires
      exact hother _ (Action.exists_of_acquires (by simpa using hacquires))
    simp [SlotState.budget, ht, hu, hnot]
  · have hpaid := RunnerThread.step_budget (hnested t (List.mem_of_getElem? ht))
      (SlotState.shelters_thread ht hsheltered) (List.length_pos_iff.mp hinside) hstep
    have hacquires : (Action.move n m : Action E R).acquires n = m.isAcquire := by
      cases m <;> simp [Action.acquires, Move.isAcquire]
    simpa [SlotState.budget, ht, hu, hacquires] using hpaid

/-- The outermost call of a thread returns by releasing its permit. -/
theorem RunnerThread.eq_release_of_returned {slots slots' : ℕ} {t t' : RunnerThread δ E R}
    {result : R} (ht : t.Nested) (hsheltered : t.shelters m = true) (hinside : t.calls ≠ []) (hended : t'.calls = [])
    (hreturned : t'.ended = some (.returned result))
    (h : t.step ⟨retryDelays, some capacity⟩ slots m = some (slots', t')) : m = .release := by
  rcases RunnerThread.step_cases h with ⟨-, -, hcall⟩ | ⟨f, rest, depth, hcalls, -, hstep⟩
  · rcases hcall with ⟨name, -, rfl⟩ | ⟨name, -, ⟨-, rfl⟩ | ⟨-, rfl⟩⟩
    · cases hended
    · exact absurd hended hinside
    · cases hended
  · rcases hstep with ⟨g, -, rfl⟩ | ⟨ended, hstep, rfl⟩
    · cases hended
    · cases hended
      cases hreturned
      unfold RunnerThread.Nested at ht
      rw [hcalls] at ht
      obtain ⟨-, -, -, -, hrelease⟩ :=
        Frame.step_inr ht.1 (RunnerThread.shelters_head hcalls hsheltered) hstep
      exact hrelease rfl result rfl

theorem RunnerThread.inUserCode_of_call {runner : Runner δ} {slots slots' : ℕ}
    {t t' : RunnerThread δ E R} (hcall : call.isCall = true)
    (h : t.step runner slots call = some (slots', t')) : t.inUserCode = true := by
  rcases RunnerThread.step_cases h with ⟨huser, -⟩ | ⟨f, rest, depth, -, hnot, -⟩
  · exact huser
  · simp [hcall] at hnot

theorem RunnerThread.budget_of_call {runner : Runner δ} {slots slots' : ℕ}
    {t t' : RunnerThread δ E R} (hcall : call.isCall = true) (hcalls : t.calls = [])
    (h : t.step runner slots call = some (slots', t')) (retries : ℕ) :
    t'.budget retries ≤ call.attempts retries := by
  rcases RunnerThread.step_cases h with ⟨-, -, hcase⟩ | ⟨f, rest, depth, -, hnot, -⟩
  · rcases hcase with ⟨name, rfl, rfl⟩ | ⟨name, rfl, ⟨-, rfl⟩ | ⟨-, rfl⟩⟩ <;>
      simp [RunnerThread.budget, hcalls, Frame.budget, AdmitPoint.budget, Move.attempts]
  · simp [hcall] at hnot

/-- An outermost call is not refused. -/
theorem RunnerThread.calls_of_call {runner : Runner δ} {slots slots' : ℕ}
    {t t' : RunnerThread δ E R} (ht : t.Nested) (hcall : call.isCall = true) (hcalls : t.calls = [])
    (h : t.step runner slots call = some (slots', t')) : t'.calls ≠ [] := by
  have hdepth : t.depth = 0 := by
    unfold RunnerThread.Nested at ht
    rwa [hcalls] at ht
  rcases RunnerThread.step_cases h with ⟨-, -, hcase⟩ | ⟨f, rest, depth, -, hnot, -⟩
  · rcases hcase with ⟨name, -, rfl⟩ | ⟨name, -, ⟨hne, -⟩ | ⟨-, rfl⟩⟩
    · simp
    · exact absurd hdepth hne
    · simp
  · simp [hcall] at hnot

/-- What is known when the call has been made and the rest of it has run. -/
structure SlotState.Began (retryDelays : List δ) (capacity : ℕ) (s : SlotState δ E R) (n : ℕ)
    (t₀ t₁ : RunnerThread δ E R) (u : SlotState δ E R) (as : List (Action E R)) : Prop where
  before : s.threads[n]? = some t₀
  after : u.threads[n]? = some t₁
  within : u.Within n t₀.calls
  meets : Machine.Meets (SlotState.step ⟨retryDelays, some capacity⟩)
    (fun v a => v.shelters a = true ∧ t₀.calls.length < v.callsOf n) u as

theorem SlotState.Executes.began {as : List (Action E R)} (hs : s.Nested)
    (hsheltered : Machine.Meets (SlotState.step ⟨retryDelays, some capacity⟩)
      (fun v a => v.shelters a = true) s (.move n call :: as))
    (h : s.Executes ⟨retryDelays, some capacity⟩ n call as s') :
    ∃ u t₀ t₁ slots, s.Began retryDelays capacity n t₀ t₁ u as ∧
      t₀.step ⟨retryDelays, some capacity⟩ s.transactionSlots call = some (slots, t₁) ∧
      Machine.run (SlotState.step ⟨retryDelays, some capacity⟩) u as = some s' := by
  obtain ⟨u, hu, hrest⟩ := Option.bind_eq_some_iff.mp h.runs
  obtain ⟨t₀, t₁, slots, ht₀, hcall, hnext⟩ := SlotState.step_move hu
  obtain ⟨hlt, -⟩ := List.getElem?_eq_some_iff.mp ht₀
  have ht₁ : u.threads[n]? = some t₁ := by
    rw [hnext]
    simp [hlt]
  have hmeets := (hsheltered.2 u hu).and (h.inside u hu)
  rw [SlotState.callsOf_eq ht₀] at hmeets
  refine ⟨u, t₀, t₁, slots, ⟨ht₀, ht₁, ⟨?_, t₁, ht₁, ?_⟩, hmeets⟩, hcall, hrest⟩
  · exact (SlotState.step_refines hs hsheltered.1 hu).1
  · exact RunnerThread.step_suffix (List.suffix_refl _) (Or.inl h.isCall) hcall

theorem SlotState.Began.ends {as : List (Action E R)} {t₁ : RunnerThread δ E R}
    (h : s.Began retryDelays capacity n t₀ t₁ u as)
    (hrun : Machine.run (SlotState.step ⟨retryDelays, some capacity⟩) u as = some s') :
    s'.Within n t₀.calls := by
  apply Machine.run_invariant_of_meets (SlotState.Within n t₀.calls) _ as u s' h.within h.meets hrun
  intro v a w hv ha hstep
  exact hv.step ha.1 ha.2 hstep

/-- A nested call acquires nothing. -/
theorem SlotState.Began.nested {as : List (Action E R)} {t₁ : RunnerThread δ E R}
    (h : s.Began retryDelays capacity n t₀ t₁ u as) (hcalls : t₀.calls ≠ [])
    (hrun : Machine.run (SlotState.step ⟨retryDelays, some capacity⟩) u as = some s') :
    as.countP (Action.acquires n) = 0 := by
  have hlength := List.length_pos_iff.mpr hcalls
  have hpaid := Machine.run_budget (SlotState.Within n t₀.calls) (fun _ => 0) (Action.acquires n)
    ?_ as u s' h.within h.meets hrun
  · omega
  · intro v a w hv ha hstep
    have hnot := hv.acquires_eq_false ha.1 (by omega) hstep
    exact ⟨hv.step ha.1 ha.2 hstep, by simp [hnot]⟩

/-- An outermost call acquires no more than its budget. -/
theorem SlotState.Began.outermost {as : List (Action E R)} {t₁ : RunnerThread δ E R}
    (h : s.Began retryDelays capacity n t₀ t₁ u as)
    (hrun : Machine.run (SlotState.step ⟨retryDelays, some capacity⟩) u as = some s') :
    as.countP (Action.acquires n) ≤ t₁.budget retryDelays.length := by
  have hpaid := Machine.run_budget (SlotState.Within n t₀.calls)
    (SlotState.budget retryDelays.length n) (Action.acquires n) ?_ as u s' h.within h.meets hrun
  · rw [SlotState.budget, SlotState.budget, h.after, Option.elim_some] at hpaid
    omega
  · intro v a w hv ha hstep
    exact ⟨hv.step ha.1 ha.2 hstep, hv.step_budget ha.1 (by omega) hstep⟩

/-- The last step of an outermost call that returns is `slots.release()`. -/
theorem SlotState.Began.returned {as : List (Action E R)} {t t₁ : RunnerThread δ E R} {result : R}
    (h : s.Began retryDelays capacity n t₀ t₁ u as)
    (hrun : Machine.run (SlotState.step ⟨retryDelays, some capacity⟩) u as = some s')
    (hinside : t₁.calls ≠ []) (ht : s'.threads[n]? = some t) (hended : t.calls = [])
    (hreturned : t.ended = some (.returned result)) : 0 < as.countP (Action.releases n) := by
  rcases List.eq_nil_or_concat as with rfl | ⟨before, a, has⟩
  · cases hrun
    obtain rfl := Option.some.inj (ht.symm.trans h.after)
    exact absurd hended hinside
  · rw [List.concat_eq_append] at has
    subst has
    obtain ⟨hmeets, hmeetsLast⟩ := Machine.meets_append.mp h.meets
    rw [Machine.run_append] at hrun
    obtain ⟨v, hv, hlast⟩ := Option.bind_eq_some_iff.mp hrun
    obtain ⟨w, hw, hnil⟩ := Option.bind_eq_some_iff.mp hlast
    cases hnil
    obtain ⟨⟨hsheltered, hdeep⟩, -⟩ := hmeetsLast v hv
    have hbegan : s.Began retryDelays capacity n t₀ t₁ u before := { h with meets := hmeets }
    obtain ⟨hnested, tv, htv, -⟩ := hbegan.ends hv
    rw [SlotState.callsOf_eq htv] at hdeep
    have hcalls : tv.calls ≠ [] := List.length_pos_iff.mp (by omega)
    rcases SlotState.step_thread htv hw with ⟨hsame, -⟩ | ⟨m, t', slots, rfl, hstep, ht'⟩
    · obtain rfl := Option.some.inj (ht.symm.trans hsame)
      exact absurd hended hcalls
    · obtain rfl := Option.some.inj (ht.symm.trans ht')
      obtain rfl := RunnerThread.eq_release_of_returned (hnested tv (List.mem_of_getElem? htv))
        (SlotState.shelters_thread htv hsheltered) hcalls hended hreturned hstep
      simp [Action.releases]

/-- Every call restores its thread and releases what it has acquired, however it ends. -/
theorem SlotState.Executes.restores {as : List (Action E R)} (hs : s.Nested)
    (hsheltered : Machine.Meets (SlotState.step ⟨retryDelays, some capacity⟩)
      (fun v a => v.shelters a = true) s (.move n call :: as))
    (h : s.Executes ⟨retryDelays, some capacity⟩ n call as s') :
    s.Restores retryDelays.length n call as s' := by
  obtain ⟨u, t₀, t₁, slots, hbegan, hcall, hrun⟩ := h.began hs hsheltered
  obtain ⟨hnested, t, ht, hbase⟩ := hbegan.ends hrun
  have ht₀ := hbegan.before
  have huser := RunnerThread.inUserCode_of_call h.isCall hcall
  -- the calls around the call are all that is left
  have hcalls : t.calls = t₀.calls := by
    have hends := h.ends
    rw [SlotState.callsOf_eq ht, SlotState.callsOf_eq ht₀] at hends
    exact (hbase.eq_of_length hends.symm).symm
  constructor
  · obtain ⟨-, hbefore⟩ := (hs t₀ (List.mem_of_getElem? ht₀)).callers huser
    have huser' : t.inUserCode = true := by
      rw [RunnerThread.inUserCode, hcalls]
      exact huser
    obtain ⟨-, hafter⟩ := (hnested t (List.mem_of_getElem? ht)).callers huser'
    rw [ht, ht₀, Option.map_some, Option.map_some, hafter, hbefore, hcalls]
  · have hholding := SlotState.holding_run hs hsheltered h.runs n
    rw [SlotState.holding_eq ht, SlotState.holding_eq ht₀, RunnerThread.holds, hcalls,
      ← RunnerThread.holds, List.countP_cons, List.countP_cons] at hholding
    have hneither : (Action.move n call : Action E R).releases n = false ∧
        (Action.move n call : Action E R).acquires n = false := by
      have hisCall := h.isCall
      cases call with
      | guard name => exact ⟨rfl, rfl⟩
      | run name => exact ⟨rfl, rfl⟩
      | _ => cases hisCall
    simp only [hneither.1, hneither.2, Bool.false_eq_true, if_false] at hholding
    omega
  · by_cases hempty : t₀.calls = []
    · exact (hbegan.outermost hrun).trans
        (RunnerThread.budget_of_call h.isCall hempty hcall retryDelays.length)
    · rw [hbegan.nested hempty hrun]
      exact Nat.zero_le _
  · intro hpos
    rw [SlotState.callsOf_eq ht₀] at hpos
    exact hbegan.nested (List.length_pos_iff.mp hpos) hrun
  · rintro hzero ⟨w, result, hw, hreturned⟩
    obtain rfl := Option.some.inj (ht.symm.trans hw)
    rw [SlotState.callsOf_eq ht₀, List.length_eq_zero_iff] at hzero
    have hinside := RunnerThread.calls_of_call (hs t₀ (List.mem_of_getElem? ht₀)) h.isCall hzero hcall
    exact hbegan.returned hrun hinside ht (hcalls.trans hzero) hreturned

end Call

/-! ## Every reachable state -/

/-- The permits that are taken. -/
def SlotState.taken (capacity : ℕ) (s : SlotState δ E R) : ℕ := capacity - s.transactionSlots

/-- The admission depth is at least 1. -/
def RunnerThread.isDeep (t : RunnerThread δ E R) : Bool := 1 ≤ t.depth

/-- What holds after the actions of a run. -/
structure SlotState.Conserved (retryDelays : List δ) (capacity : ℕ) (as : List (Action E R))
    (s : SlotState δ E R) : Prop where
  taken : s.taken capacity = s.threads.countP (·.isDeep) + s.threads.countP (·.isSwitching)
  bounded : s.transactionSlots ≤ capacity
  /-- A thread that waits for a permit, or sleeps between two attempts, has given back
  every permit that it has taken. -/
  idle : ∀ n t, s.threads[n]? = some t → t.isWaiting = true ∨ t.isSleeping = true →
    as.countP (Action.acquires n) = as.countP (Action.releases n)
  /-- The `BoundedSemaphore` refuses no permit that is given back. -/
  accepted : ∀ t ∈ s.threads, t.isReleasing = true → s.transactionSlots < capacity
  /-- A `run` inside another call raises at once; nothing else changes. -/
  refused : ∀ n t name, s.threads[n]? = some t → t.inUserCode = true → 1 ≤ t.depth →
    s.step ⟨retryDelays, some capacity⟩ (.move n (.run name)) =
      some { s with threads := s.threads.set n { t with ended := some (.raised name .nested) } }
  restored : ∀ n call later t,
    Machine.Meets (SlotState.step ⟨retryDelays, some capacity⟩) (fun u a => u.shelters a = true) s
      (.move n call :: later) →
    s.Executes ⟨retryDelays, some capacity⟩ n call later t →
    s.Restores retryDelays.length n call later t

theorem SlotState.nested_initial (capacity : ℕ) :
    (SlotState.initial capacity : SlotState δ E R).Nested := by
  intro t ht
  cases ht

/-- A thread has a permit while its depth says so or while it switches, never both. -/
theorem SlotState.Nested.countP_holds {s : SlotState δ E R} (hs : s.Nested) :
    s.threads.countP (·.holds) =
      s.threads.countP (·.isDeep) + s.threads.countP (·.isSwitching) := by
  obtain ⟨slots, threads⟩ := s
  induction threads with
  | nil => rfl
  | cons t rest ih =>
    have hrest := ih fun u hu => hs u (List.mem_cons_of_mem t hu)
    obtain ⟨hholds, hexclusive⟩ := (hs t List.mem_cons_self).holds_eq
    simp only [List.countP_cons, hrest, hholds, RunnerThread.isDeep]
    by_cases hdeep : 1 ≤ t.depth
    · have hnot : t.isSwitching = false := by simpa [hdeep] using hexclusive
      simp only [hdeep, hnot, decide_true, Bool.or_false, if_true, Bool.false_eq_true, if_false]
      omega
    · simp only [hdeep, decide_false, Bool.false_or, Bool.false_eq_true, if_false]
      omega

/-- Transaction slots are conserved: in every run in which no exception strikes between
`slots.acquire()` and the `try` or in the `finally` clause. -/
theorem transaction_slots_conserved {retryDelays : List δ} {capacity : ℕ}
    {as : List (Action E R)} {s : SlotState δ E R}
    (hsheltered : Machine.Meets (SlotState.step ⟨retryDelays, some capacity⟩)
      (fun u a => u.shelters a = true) (.initial capacity) as)
    (hrun : Machine.run (SlotState.step ⟨retryDelays, some capacity⟩) (.initial capacity) as =
      some s) :
    s.Conserved retryDelays capacity as := by
  have hinitial := SlotState.nested_initial (δ := δ) (E := E) (R := R) capacity
  obtain ⟨hnested, hpool⟩ := SlotState.run_refines hinitial hsheltered hrun
  -- the permits of the pool are those of the semaphore and of the threads
  have htotal : s.transactionSlots + s.threads.countP (·.holds) = capacity := by
    have htotal := Pool.total_run hpool
    simp only [SlotState.pool, Pool.total, List.countP_map] at htotal
    exact htotal
  constructor
  · rw [← hnested.countP_holds, SlotState.taken]
    omega
  · omega
  · intro n t ht hidle
    have hholding := SlotState.holding_run hinitial hsheltered hrun n
    rw [SlotState.holding_eq ht, (hnested t (List.mem_of_getElem? ht)).holds_of_head.1 hidle]
      at hholding
    simpa [SlotState.pool, SlotState.initial, Pool.holding] using hholding.symm
  · intro t hmem hreleasing
    have hpos : 0 < s.threads.countP (·.holds) :=
      List.countP_pos_iff.mpr ⟨t, hmem, (hnested t hmem).holds_of_head.2 hreleasing⟩
    omega
  · intro n t name ht huser hdepth
    have hne : t.depth ≠ 0 := by omega
    simp [SlotState.step, RunnerThread.step, ht, huser, hne]
  · intro n call later t hlater hexecutes
    exact hexecutes.restores hnested hlater

/-! ## Runs -/

/-- Two threads and one slot: the first guards a block, guards a block in it and calls `run` in
that one, and the second waits. -/
def nestedActions : List (Action Unit Unit) :=
  [.spawn, .spawn, .move 0 (.guard "import_device_row"), .move 0 .readDepth, .move 0 .acquire,
    .move 1 (.run "save_scan"), .move 1 .readDepth, .move 0 .enter, .move 0 (.guard "inner"),
    .move 0 .readDepth, .move 0 (.run "nested_write"), .move 0 (.raise (.other ())),
    .move 0 .leave]

theorem nested_calls_share_one_slot :
    ∃ s, Machine.run (SlotState.step ⟨[50], some 1⟩) (.initial 1) nestedActions = some s ∧
      s.taken 1 = 1 ∧ s.Conserved [50] 1 nestedActions :=
  ⟨_, rfl, rfl, transaction_slots_conserved (by decide) rfl⟩

/-- A thread up to the return of `slots.acquire()` in `guard`. -/
def acquiringActions : List (Action Unit Unit) :=
  [.spawn, .move 0 (.guard "api_update_device"), .move 0 .readDepth, .move 0 .acquire]

/-- An attempt that conflicts, up to the end of the sleep, and one that commits. -/
def retriedActions : List (Action Unit Unit) :=
  [.move 0 .readDepth, .move 0 .acquire, .move 0 .enter, .move 0 .openSession,
    .move 0 (.raise (.dbapi (some "40P01") true ())), .move 0 .close, .move 0 .leave,
    .move 0 .release, .move 0 (.handle none), .move 0 .wake,
    .move 0 .readDepth, .move 0 .acquire, .move 0 .enter, .move 0 .openSession,
    .move 0 (.finish ()), .move 0 .commit, .move 0 .close, .move 0 .leave, .move 0 .release]

/-- A permit is taken before the depth says so; an outermost `run` that is retried releases two
permits; and an exception right after `slots.acquire()` ends the call with the permit taken. -/
theorem permits_outlive_depth :
    (∃ s, Machine.run (SlotState.step (⟨[50], some 1⟩ : Runner ℕ)) (.initial 1) acquiringActions =
        some s ∧ s.taken 1 = 1 ∧ s.threads.countP (·.isDeep) = 0) ∧
      (∃ s t, Machine.run (SlotState.step (⟨[50], some 1⟩ : Runner ℕ)) (.initial 1) [.spawn] =
          some s ∧ s.callsOf 0 = 0 ∧
        s.Executes ⟨[50], some 1⟩ 0 (.run "persist_scan") retriedActions t ∧
        retriedActions.countP (Action.releases 0) = 2) ∧
      ∃ s, Machine.run (SlotState.step (⟨[50], some 1⟩ : Runner ℕ)) (.initial 1)
          (acquiringActions ++ [.move 0 (.raise (.other ()))]) = some s ∧
        s.callsOf 0 = 0 ∧ s.threads.countP (·.isDeep) = 0 ∧ s.taken 1 = 1 := by
  refine ⟨⟨_, rfl, rfl, rfl⟩, ⟨_, _, rfl, rfl, ⟨rfl, rfl, ?_, rfl⟩, rfl⟩, ⟨_, rfl, rfl, rfl, rfl⟩⟩
  intro u hu
  cases hu
  decide

end ConnectionTopology.TransactionSlots
