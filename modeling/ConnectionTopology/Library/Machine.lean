import Mathlib.Tactic

/-!
# Runs of a partial step function

A concurrent component is a step function `σ → α → Option σ`: the action names
who moves and how, and `none` means that the mover is blocked or not at that
point of its program. A run is a list of actions. Every statement about all
interleavings is a statement about all lists, and every concrete schedule can
be evaluated.
-/
namespace ConnectionTopology.Machine

variable {σ α : Type*} (step : σ → α → Option σ)

/-- Perform the actions in order; the run has no result once one is blocked. -/
def run : σ → List α → Option σ
  | s, [] => some s
  | s, a :: as => (step s a).bind fun t => run t as

/-- Every action of the run is taken in a state that meets the condition. -/
def Meets (cond : σ → α → Prop) : σ → List α → Prop
  | _, [] => True
  | s, a :: as => cond s a ∧ ∀ t, step s a = some t → Meets cond t as

/-- The condition can be checked along a concrete schedule. -/
instance decidableMeets {cond : σ → α → Prop} [∀ s a, Decidable (cond s a)] :
    ∀ (s : σ) (as : List α), Decidable (Meets step cond s as)
  | _, [] => isTrue trivial
  | s, a :: as =>
    match h : step s a with
    | none => decidable_of_iff (cond s a) (by simp [Meets, h])
    | some t =>
      have : Decidable (Meets step cond t as) := decidableMeets t as
      decidable_of_iff (cond s a ∧ Meets step cond t as) (by simp [Meets, h])

@[simp] theorem run_nil (s : σ) : run step s [] = some s := rfl

variable {step}

theorem Meets.and {c d : σ → α → Prop} {s : σ} {as : List α} (hc : Meets step c s as)
    (hd : Meets step d s as) : Meets step (fun s a => c s a ∧ d s a) s as := by
  induction as generalizing s with
  | nil => trivial
  | cons a as ih => exact ⟨⟨hc.1, hd.1⟩, fun t ht => ih (hc.2 t ht) (hd.2 t ht)⟩

/-- A condition on the actions alone is met whatever the states are. -/
theorem meets_of_forall {cond : α → Prop} {as : List α} (h : ∀ a ∈ as, cond a) (s : σ) :
    Meets step (fun _ a => cond a) s as := by
  induction as generalizing s with
  | nil => trivial
  | cons a as ih =>
    exact ⟨h a List.mem_cons_self, fun t _ => ih (fun c hc => h c (List.mem_cons_of_mem _ hc)) t⟩

/-- A property kept by every step that meets the condition holds at the end of
every run whose steps all meet it. -/
theorem run_invariant_of_meets {cond : σ → α → Prop} (inv : σ → Prop)
    (hstep : ∀ s a t, inv s → cond s a → step s a = some t → inv t) :
    ∀ (as : List α) (s t : σ), inv s → Meets step cond s as → run step s as = some t → inv t := by
  intro as
  induction as with
  | nil =>
    intro s t hs _ hrun
    cases hrun
    exact hs
  | cons a as ih =>
    intro s t hs hmeets hrun
    obtain ⟨u, hu, hrest⟩ := Option.bind_eq_some_iff.mp hrun
    exact ih u t (hstep s a u hs hmeets.1 hu) (hmeets.2 u hu) hrest

/-- The unconditional case: every step keeps the property, so every run does. -/
theorem run_invariant (inv : σ → Prop)
    (hstep : ∀ s a t, inv s → step s a = some t → inv t)
    {as : List α} {s t : σ} (hs : inv s) (hrun : run step s as = some t) : inv t := by
  induction as generalizing s with
  | nil =>
    cases hrun
    exact hs
  | cons a as ih =>
    obtain ⟨u, hu, hrest⟩ := Option.bind_eq_some_iff.mp hrun
    exact ih (hstep s a u hs hu) hrest

theorem run_append {s : σ} {as bs : List α} :
    run step s (as ++ bs) = (run step s as).bind fun t => run step t bs := by
  induction as generalizing s with
  | nil => rfl
  | cons a as ih =>
    rw [List.cons_append]
    cases hstep : step s a with
    | none => simp only [run, hstep, Option.bind_none]
    | some u => simpa only [run, hstep, Option.bind_some] using ih

/-- The condition holds along a run exactly when it holds along both halves. -/
theorem meets_append {cond : σ → α → Prop} {s : σ} {as bs : List α} :
    Meets step cond s (as ++ bs) ↔
      Meets step cond s as ∧ ∀ t, run step s as = some t → Meets step cond t bs := by
  induction as generalizing s with
  | nil => simp [Meets, run]
  | cons a as ih =>
    simp only [List.cons_append, Meets, ih, run, Option.bind_eq_some_iff]
    constructor
    · rintro ⟨ha, hrest⟩
      refine ⟨⟨ha, fun t ht => (hrest t ht).1⟩, ?_⟩
      rintro t ⟨u, hu, hrun⟩
      exact (hrest u hu).2 t hrun
    · rintro ⟨⟨ha, hmeets⟩, hbs⟩
      exact ⟨ha, fun t ht => ⟨hmeets t ht, fun u hu => hbs u ⟨t, ht, hu⟩⟩⟩

/-- When a good state stays good exactly in the steps that meet the condition, all states of a run
are good exactly if all its steps meet it. -/
theorem forall_prefix_iff_meets {cond : σ → α → Prop} (inv good : σ → Prop)
    (hinv : ∀ s a t, inv s → step s a = some t → inv t)
    (hgood : ∀ s a t, inv s → good s → step s a = some t → (good t ↔ cond s a))
    {as : List α} {s t : σ} (hs : inv s) (hstart : good s) (hrun : run step s as = some t) :
    (∀ (bs : List α) (u : σ), bs <+: as → run step s bs = some u → good u) ↔
      Meets step cond s as := by
  induction as generalizing s with
  | nil =>
    refine ⟨fun _ => trivial, fun _ bs u hbs hu => ?_⟩
    rw [List.prefix_nil.mp hbs] at hu
    cases hu
    exact hstart
  | cons a as ih =>
    obtain ⟨v, hv, hrest⟩ := Option.bind_eq_some_iff.mp hrun
    have hlater := fun hgoodv => ih (hinv s a v hs hv) hgoodv hrest
    constructor
    · intro hall
      have hgoodv : good v := hall [a] v (by simp) (by simp [run, hv])
      refine ⟨(hgood s a v hs hstart hv).mp hgoodv, fun w hw => ?_⟩
      cases hv.symm.trans hw
      refine (hlater hgoodv).mp fun bs u hbs hu => ?_
      exact hall (a :: bs) u (List.prefix_cons_iff.mpr (Or.inr ⟨bs, rfl, hbs⟩))
        (Option.bind_eq_some_iff.mpr ⟨v, hv, hu⟩)
    · rintro ⟨ha, hmeets⟩ bs u hbs hu
      rcases List.prefix_cons_iff.mp hbs with rfl | ⟨cs, rfl, hcs⟩
      · cases hu
        exact hstart
      · obtain ⟨w, hw, hu⟩ := Option.bind_eq_some_iff.mp hu
        cases hv.symm.trans hw
        exact (hlater ((hgood s a v hs hstart hv).mpr ha)).mpr (hmeets v hv) cs u hcs hu

/-- Steps that pay for the chosen actions out of a budget never perform more of them than
the budget they start with. -/
theorem run_budget {cond : σ → α → Prop} (inv : σ → Prop) (budget : σ → ℕ) (p : α → Bool)
    (hstep : ∀ s a t, inv s → cond s a → step s a = some t →
      inv t ∧ (if p a then 1 else 0) + budget t ≤ budget s) :
    ∀ (as : List α) (s t : σ), inv s → Meets step cond s as → run step s as = some t →
      as.countP p + budget t ≤ budget s := by
  intro as
  induction as with
  | nil =>
    intro s t _ _ hrun
    cases hrun
    simp
  | cons a as ih =>
    intro s t hs hmeets hrun
    obtain ⟨u, hu, hrest⟩ := Option.bind_eq_some_iff.mp hrun
    obtain ⟨hinv, hpaid⟩ := hstep s a u hs hmeets.1 hu
    have hlater := ih u t hinv (hmeets.2 u hu) hrest
    rw [List.countP_cons]
    omega

/-- A simulation: where each step is answered by a run of an abstract machine, a run is answered
by the runs of its steps one after the other. -/
theorem run_simulates {τ β : Type*} {spec : τ → β → Option τ} {cond : σ → α → Prop}
    (inv : σ → Prop) (abs : σ → τ) (answer : α → List β)
    (hstep : ∀ s a t, inv s → cond s a → step s a = some t →
      inv t ∧ run spec (abs s) (answer a) = some (abs t)) :
    ∀ (as : List α) (s t : σ), inv s → Meets step cond s as → run step s as = some t →
      run spec (abs s) (as.flatMap answer) = some (abs t) := by
  intro as
  induction as with
  | nil =>
    intro s t _ _ hrun
    cases hrun
    rfl
  | cons a as ih =>
    intro s t hs hmeets hrun
    obtain ⟨u, hu, hrest⟩ := Option.bind_eq_some_iff.mp hrun
    obtain ⟨hinv, hanswer⟩ := hstep s a u hs hmeets.1 hu
    rw [List.flatMap_cons, run_append, hanswer]
    exact ih u t hinv (hmeets.2 u hu) hrest

/-! ## Simulation by what a step does in its state -/

/-- What the steps of a run emit, in order. -/
def trace {β : Type*} (step : σ → α → Option σ) (emit : σ → α → List β) : σ → List α → List β
  | _, [] => []
  | s, a :: as => emit s a ++ (step s a).elim [] fun t => trace step emit t as

/-- A simulation whose answers may depend on the state that a step is taken in. -/
theorem run_trace {τ β : Type*} {spec : τ → β → Option τ} {emit : σ → α → List β}
    (inv : σ → Prop) (abs : σ → τ)
    (hstep : ∀ s a t, inv s → step s a = some t →
      inv t ∧ run spec (abs s) (emit s a) = some (abs t)) :
    ∀ (as : List α) (s t : σ), inv s → run step s as = some t →
      inv t ∧ run spec (abs s) (trace step emit s as) = some (abs t) := by
  intro as
  induction as with
  | nil =>
    intro s t hs hrun
    cases hrun
    exact ⟨hs, rfl⟩
  | cons a as ih =>
    intro s t hs hrun
    obtain ⟨u, hu, hrest⟩ := Option.bind_eq_some_iff.mp hrun
    obtain ⟨hinv, hanswer⟩ := hstep s a u hs hu
    obtain ⟨hend, hlater⟩ := ih u t hinv hrest
    refine ⟨hend, ?_⟩
    rw [trace, run_append, hanswer, hu]
    exact hlater

/-! ## Independent copies of a machine -/

variable {κ : Type*} [DecidableEq κ]

/-- One copy of the machine for each key; an action names its copy. -/
def each (step : σ → α → Option σ) (s : κ → σ) (a : κ × α) : Option (κ → σ) :=
  (step (s a.1) a.2).map (Function.update s a.1)

/-- The actions of one copy. -/
def actionsOf (k : κ) (as : List (κ × α)) : List α := (as.filter (·.1 = k)).map (·.2)

theorem actionsOf_append (k : κ) (as bs : List (κ × α)) :
    actionsOf k (as ++ bs) = actionsOf k as ++ actionsOf k bs := by
  unfold actionsOf
  rw [List.filter_append, List.map_append]

/-- The copies do not disturb each other: a run is one run of each. -/
theorem run_each_iff {s t : κ → σ} {as : List (κ × α)} :
    run (each step) s as = some t ↔ ∀ k, run step (s k) (actionsOf k as) = some (t k) := by
  induction as generalizing s with
  | nil =>
    simp only [run, actionsOf, List.filter_nil, List.map_nil, Option.some.injEq]
    exact funext_iff
  | cons a as ih =>
    obtain ⟨key, act⟩ := a
    have hown : actionsOf key ((key, act) :: as) = act :: actionsOf key as := by
      simp [actionsOf]
    have hother : ∀ k, k ≠ key → actionsOf k ((key, act) :: as) = actionsOf k as := by
      intro k hk
      simp [actionsOf, Ne.symm hk]
    cases hact : step (s key) act with
    | none =>
      constructor
      · intro hrun
        simp [run, each, hact] at hrun
      · intro hall
        have hblocked := hall key
        rw [hown] at hblocked
        simp [run, hact] at hblocked
    | some u =>
      have hfirst : run (each step) s ((key, act) :: as) =
          run (each step) (Function.update s key u) as := by
        simp [run, each, hact]
      rw [hfirst, ih]
      apply forall_congr'
      intro k
      by_cases hk : k = key
      · subst hk
        rw [Function.update_self, hown]
        simp [run, hact]
      · rw [Function.update_of_ne hk, hother k hk]

/-! ## Copies in the rows of a table -/

section

variable {ρ : Type*} {key : ρ → κ} {state : ρ → σ} {idle : σ} {rows new : List ρ}
  {acts : ρ → List α}

/-- The copy of a key is in the row with this key; without a row it is idle. -/
def rowState (key : ρ → κ) (state : ρ → σ) (idle : σ) (rows : List ρ) (k : κ) : σ :=
  (rows.find? (key · = k)).elim idle state

/-- What the rows do, one after the other. -/
def rowActions (key : ρ → κ) (acts : ρ → List α) (rows : List ρ) : List (κ × α) :=
  rows.flatMap fun r => (acts r).map fun a => (key r, a)

theorem actionsOf_rows (hkeys : (rows.map key).Nodup) (k : κ) :
    actionsOf k (rowActions key acts rows) = (rows.find? (key · = k)).elim [] acts := by
  unfold rowActions
  induction rows with
  | nil => rfl
  | cons r rest ih =>
    obtain ⟨hfresh, hkeys⟩ := List.nodup_cons.mp hkeys
    have hown : actionsOf k ((acts r).map fun a => (key r, a)) =
        if key r = k then acts r else [] := by
      unfold actionsOf
      rw [List.filter_map, List.map_map]
      split_ifs with hkey
      · rw [List.filter_eq_self.mpr]
        · exact List.map_id _
        · exact fun _ _ => decide_eq_true hkey
      · rw [List.filter_eq_nil_iff.mpr]
        · rfl
        · exact fun _ _ => by simpa using hkey
    rw [List.flatMap_cons, actionsOf_append, hown, ih hkeys]
    by_cases hkey : key r = k
    · have hnone : rest.find? (key · = k) = none := by
        rw [List.find?_eq_none]
        intro other hother hsame
        have hsame : key other = k := of_decide_eq_true hsame
        exact hfresh (hkey.trans hsame.symm ▸ List.mem_map_of_mem hother)
      rw [if_pos hkey, hnone, List.find?_cons, decide_eq_true hkey]
      exact List.append_nil _
    · rw [if_neg hkey, List.find?_cons, decide_eq_false hkey]
      rfl

/-- Rewriting the rows one by one is a run in which each row acts for itself. -/
theorem run_each_map (hkeys : (rows.map key).Nodup) {g : ρ → ρ} (hkey : ∀ r, key (g r) = key r)
    (hacts : ∀ r ∈ rows, run step (state r) (acts r) = some (state (g r))) :
    run (each step) (rowState key state idle rows) (rowActions key acts rows) =
      some (rowState key state idle (rows.map g)) := by
  rw [run_each_iff]
  intro k
  have hsame : (fun r => decide (key r = k)) ∘ g = fun r => decide (key r = k) := by
    funext r
    rw [Function.comp_apply, hkey]
  rw [actionsOf_rows hkeys]
  unfold rowState
  rw [List.find?_map, hsame]
  cases hfind : rows.find? (key · = k) with
  | none => rfl
  | some r => exact hacts r (List.mem_of_find?_eq_some hfind)

/-- Rows under new keys start where an idle copy gets by their actions. -/
theorem run_each_append (hkeys : ((rows ++ new).map key).Nodup)
    (hacts : ∀ r ∈ new, run step idle (acts r) = some (state r)) :
    run (each step) (rowState key state idle rows) (rowActions key acts new) =
      some (rowState key state idle (rows ++ new)) := by
  rw [List.map_append] at hkeys
  obtain ⟨-, hnew, hdisjoint⟩ := List.nodup_append'.mp hkeys
  rw [run_each_iff]
  intro k
  rw [actionsOf_rows hnew]
  unfold rowState
  rw [List.find?_append]
  cases hfind : new.find? (key · = k) with
  | none =>
    rw [Option.or_none]
    rfl
  | some r =>
    have hr := List.mem_of_find?_eq_some hfind
    have hrkey : key r = k := by
      have hfound := List.find?_some hfind
      exact of_decide_eq_true hfound
    have hnone : rows.find? (key · = k) = none := by
      rw [List.find?_eq_none]
      intro old hold hsame
      have hsame : key old = key r := (of_decide_eq_true hsame).trans hrkey.symm
      exact hdisjoint (List.mem_map_of_mem hold) (hsame ▸ List.mem_map_of_mem hr)
    rw [hnone]
    exact hacts r hr

end

/-! ## Lists of processes -/

/-- Where a member of a list of processes comes from after one has been replaced. -/
theorem mem_set_cases {β : Type*} {s : List β} {n : ℕ} {a b : β} (h : b ∈ s.set n a) :
    b = a ∨ ∃ m, m ≠ n ∧ s[m]? = some b := by
  obtain ⟨m, hm⟩ := List.mem_iff_getElem?.mp h
  rw [List.getElem?_set] at hm
  split_ifs at hm with hn hlt
  · left
    exact (Option.some.inj hm).symm
  · right
    exact ⟨m, fun he => hn he.symm, hm⟩

theorem getElem?_set_cases {β : Type*} {s : List β} {n m : ℕ} {a b : β}
    (h : (s.set n a)[m]? = some b) : (m = n ∧ b = a) ∨ (m ≠ n ∧ s[m]? = some b) := by
  rw [List.getElem?_set] at h
  split_ifs at h with hn hlt
  · exact Or.inl ⟨hn.symm, (Option.some.inj h).symm⟩
  · exact Or.inr ⟨fun he => hn he.symm, h⟩

theorem set_of_getElem? {β : Type*} {s : List β} {n : ℕ} {b : β} (h : s[n]? = some b) :
    s.set n b = s := by
  obtain ⟨hlt, rfl⟩ := List.getElem?_eq_some_iff.mp h
  exact List.set_getElem_self hlt

theorem mem_set_of_ne {β : Type*} {s : List β} {n m : ℕ} {a b : β} (hmn : m ≠ n)
    (h : s[m]? = some b) : b ∈ s.set n a := by
  apply List.mem_of_getElem?
  rw [List.getElem?_set_ne hmn.symm]
  exact h

theorem getElem?_append_cases {β : Type*} {s : List β} {m : ℕ} {a b : β}
    (h : (s ++ [a])[m]? = some b) : s[m]? = some b ∨ (m = s.length ∧ b = a) := by
  rcases lt_or_ge m s.length with hlt | hge
  · left
    rwa [List.getElem?_append_left hlt] at h
  · right
    have hlast : m = s.length := by
      have hm := (List.getElem?_eq_some_iff.mp h).1
      simp only [List.length_append, List.length_singleton] at hm
      omega
    rw [List.getElem?_append_right hge] at h
    exact ⟨hlast, List.mem_singleton.mp (List.mem_of_getElem? h)⟩

/-- Process `n` is there and has the property. -/
def Is {β : Type*} (s : List β) (n : ℕ) (P : β → Prop) : Prop := ∃ b, s[n]? = some b ∧ P b

theorem is_set {β : Type*} {s : List β} {n : ℕ} {a b : β} (h : s[n]? = some a) {m : ℕ}
    {P : β → Prop} : Is (s.set n b) m P ↔ (m = n ∧ P b) ∨ (m ≠ n ∧ Is s m P) := by
  obtain ⟨hlt, -⟩ := List.getElem?_eq_some_iff.mp h
  by_cases hmn : m = n
  · subst hmn
    simp [Is, hlt]
  · simp [Is, List.getElem?_set_ne (Ne.symm hmn), hmn]

/-- Replacing a process by one that has the property exactly when the old one has it. -/
theorem is_set_iff {β : Type*} {s : List β} {n : ℕ} {a b : β} (h : s[n]? = some a)
    {P : β → Prop} (hP : P b ↔ P a) (m : ℕ) : Is (s.set n b) m P ↔ Is s m P := by
  rw [is_set h]
  by_cases hmn : m = n
  · subst hmn
    simp [Is, h, hP]
  · simp [hmn]

theorem is_append {β : Type*} {s : List β} {b : β} {P : β → Prop} (hP : ¬P b) (m : ℕ) :
    Is (s ++ [b]) m P ↔ Is s m P := by
  constructor
  · rintro ⟨c, hc, hPc⟩
    obtain hc | ⟨-, rfl⟩ := getElem?_append_cases hc
    · exact ⟨c, hc, hPc⟩
    · exact absurd hPc hP
  · rintro ⟨c, hc, hPc⟩
    obtain ⟨hlt, -⟩ := List.getElem?_eq_some_iff.mp hc
    exact ⟨c, (List.getElem?_append_left hlt).trans hc, hPc⟩

/-- Replacing one member of a list of processes changes a count by that member only. -/
theorem countP_set_add {β : Type*} (p : β → Bool) {s : List β} {n : ℕ} {a : β} (b : β)
    (h : s[n]? = some a) :
    (s.set n b).countP p + (if p a then 1 else 0) = s.countP p + (if p b then 1 else 0) := by
  obtain ⟨hlt, ha⟩ := List.getElem?_eq_some_iff.mp h
  have hle : (if p a then 1 else 0) ≤ s.countP p := by
    rw [← ha]
    exact List.boole_getElem_le_countP hlt
  rw [List.countP_set hlt, ha]
  omega

/-- Changing members in place adds no more to a count than the members chosen for it. -/
theorem countP_map_le_add {β : Type*} {p q : β → Bool} {f : β → β} {s : List β}
    (h : ∀ a ∈ s, p (f a) = true → p a = true ∨ q a = true) :
    (s.map f).countP p ≤ s.countP p + s.countP q := by
  induction s with
  | nil => simp
  | cons a rest ih =>
    have hrest := ih fun b hb => h b (List.mem_cons_of_mem a hb)
    have ha := h a List.mem_cons_self
    simp only [List.map_cons, List.countP_cons]
    split_ifs <;> first | omega | simp_all

end ConnectionTopology.Machine
