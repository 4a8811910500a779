import ConnectionTopology.Library.Machine

/-!
# Permits

A fixed number of permits and any number of parties, each of which has at most one. What a
semaphore is for: whatever the parties do, no permit is lost or made, and each party has
given back what it took, except for the permit that it has.
-/
namespace ConnectionTopology.Permits

structure Pool where
  free : ℕ
  /-- Whether the party has a permit. -/
  held : List Bool := []
  deriving DecidableEq, Repr

inductive PoolAction
  /-- A party appears, without a permit. -/
  | join
  | take (party : ℕ)
  | give (party : ℕ)
  deriving DecidableEq, Repr

def Pool.step (p : Pool) : PoolAction → Option Pool
  | .join => some { p with held := p.held ++ [false] }
  | .take n =>
    if p.held[n]? = some false ∧ 0 < p.free then
      some { free := p.free - 1, held := p.held.set n true }
    else none
  | .give n =>
    if p.held[n]? = some true then some { free := p.free + 1, held := p.held.set n false } else none

/-- The number of permits there are. -/
def Pool.total (p : Pool) : ℕ := p.free + p.held.countP id

theorem Pool.total_step {p q : Pool} {a : PoolAction} (h : p.step a = some q) :
    q.total = p.total := by
  cases a with
  | join =>
    cases h
    simp [Pool.total]
  | take n =>
    simp only [Pool.step] at h
    split_ifs at h with htake
    cases h
    have hcount := Machine.countP_set_add id true htake.1
    simp only [id_eq, Bool.false_eq_true, if_false, if_true] at hcount
    simp only [Pool.total]
    omega
  | give n =>
    simp only [Pool.step] at h
    split_ifs at h with hgive
    cases h
    have hcount := Machine.countP_set_add id false hgive
    simp only [id_eq, Bool.false_eq_true, if_false, if_true] at hcount
    simp only [Pool.total]
    omega

/-- No permit is lost or made. -/
theorem Pool.total_run {p q : Pool} {as : List PoolAction}
    (hrun : Machine.run Pool.step p as = some q) : q.total = p.total := by
  apply Machine.run_invariant (fun r : Pool => r.total = p.total) _ rfl hrun
  intro r a t hr hstep
  rw [Pool.total_step hstep, hr]

/-- The permits that a party has. -/
def Pool.holding (p : Pool) (n : ℕ) : ℕ := if p.held[n]? = some true then 1 else 0

theorem Pool.holding_step {p q : Pool} {a : PoolAction} (h : p.step a = some q) (n : ℕ) :
    q.holding n + [a].count (.give n) = p.holding n + [a].count (.take n) := by
  cases a with
  | join =>
    cases h
    rcases lt_trichotomy n p.held.length with hlt | rfl | hgt
    · simp [Pool.holding, List.getElem?_append_left hlt]
    · simp [Pool.holding]
    · simp [Pool.holding, hgt.le, hgt]
  | take m =>
    simp only [Pool.step] at h
    split_ifs at h with htake
    cases h
    obtain ⟨hlt, hfalse⟩ := List.getElem?_eq_some_iff.mp htake.1
    by_cases hmn : m = n
    · subst hmn
      simp [Pool.holding, hfalse, hlt]
    · simp [Pool.holding, List.getElem?_set_ne hmn, hmn]
  | give m =>
    simp only [Pool.step] at h
    split_ifs at h with hgive
    cases h
    obtain ⟨hlt, htrue⟩ := List.getElem?_eq_some_iff.mp hgive
    by_cases hmn : m = n
    · subst hmn
      simp [Pool.holding, htrue, hlt]
    · simp [Pool.holding, List.getElem?_set_ne hmn, hmn]

/-- A party has what it took and has not given back. -/
theorem Pool.holding_run {p q : Pool} {as : List PoolAction}
    (hrun : Machine.run Pool.step p as = some q) (n : ℕ) :
    q.holding n + as.count (.give n) = p.holding n + as.count (.take n) := by
  induction as generalizing p with
  | nil =>
    cases hrun
    simp
  | cons a as ih =>
    obtain ⟨u, hu, hrest⟩ := Option.bind_eq_some_iff.mp hrun
    have hfirst := Pool.holding_step hu n
    have hlater := ih hrest
    rw [← List.singleton_append, List.count_append, List.count_append]
    omega

end ConnectionTopology.Permits
