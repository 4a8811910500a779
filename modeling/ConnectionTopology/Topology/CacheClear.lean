import ConnectionTopology.Services.TopologyCache

/-!
# Clearing the topology cache

A value that is stored before any later `clear` is never served to a call that starts
after one. A factory run that a `clear` overtakes stores its value all the same, and the
next caller receives it.
-/
namespace ConnectionTopology

variable {κ V E : Type} [DecidableEq κ]

/-- The date of the value that a call computes or has in hand. -/
def CachePoint.epoch? : CachePoint V E → Option ℕ
  | .computing _ epoch | .storing _ _ epoch | .popping _ (.value _ epoch)
  | .signalling _ (.value _ epoch) | .done (.value _ epoch) => some epoch
  | _ => none

/-- No call has a value from before a `clear` that it started after, and the stored
values are as recent as the last `clear`. -/
structure CacheFresh (s : TopologyCache κ V E) : Prop where
  entries : ∀ key entry, s.entries key = some entry → entry.epoch = s.clears
  started : ∀ c ∈ s.calls, c.startedAfter ≤ s.clears
  values : ∀ c ∈ s.calls, ∀ epoch, c.point.epoch? = some epoch → c.startedAfter ≤ epoch

/-- A value is stored only when no `clear` came after the start of its factory run. -/
def storesBeforeClear (s : TopologyCache κ V E) : CacheAction κ V E → Bool
  | .put n _ =>
    match s.calls[n]? with
    | some c =>
      match c.point with
      | .storing _ _ epoch => epoch = s.clears
      | _ => true
    | none => true
  | _ => true

/-! ## One step -/

omit [DecidableEq κ] in
/-- A step that moves one call, and may drop entries or store a current one. -/
theorem CacheFresh.moveTo {s s' : TopologyCache κ V E} (h : CacheFresh s) {n : ℕ}
    {c : CacheCall κ V E} (hc : s.calls[n]? = some c) {point : CachePoint V E}
    (hcalls : s'.calls = s.calls) (hclears : s'.clears = s.clears)
    (hentries : ∀ key entry, s'.entries key = some entry → entry.epoch = s.clears)
    (hpoint : ∀ epoch, point.epoch? = some epoch → c.startedAfter ≤ epoch) :
    CacheFresh (s'.moveTo n c point) := by
  have hmem : c ∈ s.calls := List.mem_of_getElem? hc
  have hset : ∀ d ∈ (s'.moveTo n c point).calls,
      d ∈ s.calls ∨ d = { c with point := point } := by
    intro d hd
    simp only [TopologyCache.moveTo, hcalls] at hd
    exact List.mem_or_eq_of_mem_set hd
  constructor
  · intro key entry hentry
    rw [hentries key entry hentry]
    exact hclears.symm
  · intro d hd
    change d.startedAfter ≤ s'.clears
    rw [hclears]
    rcases hset d hd with hd | rfl
    · exact h.started d hd
    · exact h.started c hmem
  · intro d hd epoch hepoch
    rcases hset d hd with hd | rfl
    · exact h.values d hd epoch hepoch
    · exact hpoint epoch hepoch

theorem CacheFresh.get {s : TopologyCache κ V E} (h : CacheFresh s) {n : ℕ} {c : CacheCall κ V E}
    (hc : s.calls[n]? = some c) (now : ℕ) : CacheFresh (s.get n c now) := by
  have hmem : c ∈ s.calls := List.mem_of_getElem? hc
  unfold TopologyCache.get
  split
  · exact h.moveTo hc rfl rfl h.entries (by simp [CachePoint.epoch?])
  · rename_i entry hentry
    split_ifs
    · refine h.moveTo hc rfl rfl ?_ ?_
      · intro key e he
        dsimp only at he
        by_cases hkey : key = c.key
        · simp [hkey] at he
        · rw [Function.update_of_ne hkey] at he
          exact h.entries key e he
      · simp [CachePoint.epoch?]
    · refine h.moveTo hc rfl rfl h.entries ?_
      intro epoch hepoch
      cases hepoch
      rw [h.entries c.key entry hentry]
      exact h.started c hmem

theorem CacheFresh.inspect {s : TopologyCache κ V E} (h : CacheFresh s) {n : ℕ}
    {c : CacheCall κ V E} (hc : s.calls[n]? = some c) : CacheFresh (s.inspect n c) := by
  unfold TopologyCache.inspect
  split
  · exact h.moveTo hc rfl rfl h.entries (by simp [CachePoint.epoch?])
  · exact h.moveTo hc rfl rfl h.entries (by simp [CachePoint.epoch?])

omit [DecidableEq κ] in
theorem CacheFresh.endFactory {s : TopologyCache κ V E} (h : CacheFresh s) {n : ℕ}
    {c : CacheCall κ V E} (hc : s.calls[n]? = some c) {flight epoch : ℕ}
    (hepoch : c.startedAfter ≤ epoch) (result : FactoryResult V E) :
    CacheFresh (s.endFactory n c flight epoch result) := by
  cases result with
  | value v =>
    refine h.moveTo hc rfl rfl h.entries ?_
    intro e he
    cases he
    exact hepoch
  | exception e => exact h.moveTo hc rfl rfl h.entries (by simp [CachePoint.epoch?])
  | interrupted => exact h.moveTo hc rfl rfl h.entries (by simp [CachePoint.epoch?])

theorem CacheFresh.callStep {ttl : ℕ} {s t : TopologyCache κ V E} (h : CacheFresh s) {n : ℕ}
    {c : CacheCall κ V E} (hc : s.calls[n]? = some c) {a : CacheAction κ V E}
    (hcall : a.call? = some n) (hstores : storesBeforeClear s a)
    (hstep : s.callStep ttl n c a = some t) : CacheFresh t := by
  have hmem : c ∈ s.calls := List.mem_of_getElem? hc
  have hvalues := h.values c hmem
  cases a with
  | start key => cases hcall
  | clear => cases hcall
  | readClock m now =>
    simp only [TopologyCache.callStep] at hstep
    split at hstep
    · cases hstep
      exact h.moveTo hc rfl rfl h.entries (by simp [CachePoint.epoch?])
    · cases hstep
  | get m =>
    simp only [TopologyCache.callStep] at hstep
    split at hstep
    · cases hstep
      exact h.get hc _
    · cases hstep
  | inspect m =>
    simp only [TopologyCache.callStep] at hstep
    split at hstep
    · cases hstep
      exact h.inspect hc
    · cases hstep
  | wake m =>
    simp only [TopologyCache.callStep] at hstep
    split at hstep
    · split at hstep
      · cases hstep
      · split_ifs at hstep
        cases hstep
        refine h.moveTo hc rfl rfl h.entries ?_
        intro epoch hepoch
        split at hepoch <;> cases hepoch
    · cases hstep
  | beginFactory m =>
    simp only [TopologyCache.callStep] at hstep
    split at hstep
    · cases hstep
      refine h.moveTo hc rfl rfl h.entries ?_
      intro epoch hepoch
      cases hepoch
      exact h.started c hmem
    · cases hstep
  | endFactory m result =>
    simp only [TopologyCache.callStep] at hstep
    split at hstep
    · rename_i flight epoch hpoint
      cases hstep
      rw [hpoint] at hvalues
      exact h.endFactory hc (hvalues epoch rfl) result
    · cases hstep
  | put m now =>
    cases hcall
    simp only [TopologyCache.callStep] at hstep
    split at hstep
    · rename_i flight v epoch hpoint
      cases hstep
      rw [hpoint] at hvalues
      have hcurrent : epoch = s.clears := by simpa [storesBeforeClear, hc, hpoint] using hstores
      refine h.moveTo hc rfl rfl ?_ ?_
      · intro key entry hentry
        dsimp only at hentry
        by_cases hkey : key = c.key
        · subst hkey
          rw [Function.update_self] at hentry
          cases hentry
          exact hcurrent
        · rw [Function.update_of_ne hkey] at hentry
          exact h.entries key entry hentry
      · intro e he
        cases he
        exact hvalues epoch rfl
    · cases hstep
  | pop m =>
    simp only [TopologyCache.callStep] at hstep
    split at hstep
    · rename_i flight result hpoint
      cases hstep
      rw [hpoint] at hvalues
      refine h.moveTo hc rfl rfl h.entries ?_
      intro epoch hepoch
      apply hvalues
      cases result <;> exact hepoch
    · cases hstep
  | signal m =>
    simp only [TopologyCache.callStep] at hstep
    split at hstep
    · rename_i flight result hpoint
      cases hstep
      rw [hpoint] at hvalues
      refine h.moveTo hc rfl rfl h.entries ?_
      intro epoch hepoch
      apply hvalues
      cases result <;> exact hepoch
    · cases hstep

theorem CacheFresh.step {ttl : ℕ} {s t : TopologyCache κ V E} (h : CacheFresh s)
    {a : CacheAction κ V E} (hstores : storesBeforeClear s a)
    (hstep : s.step ttl a = some t) : CacheFresh t := by
  unfold TopologyCache.step at hstep
  split at hstep
  · cases hstep
    refine ⟨h.entries, ?_, ?_⟩
    · intro c hc
      rcases List.mem_append.mp hc with hc | hc
      · exact h.started c hc
      · rw [List.mem_singleton.mp hc]
    · intro c hc epoch hepoch
      rcases List.mem_append.mp hc with hc | hc
      · exact h.values c hc epoch hepoch
      · rw [List.mem_singleton.mp hc] at hepoch
        cases hepoch
  · cases hstep
    refine ⟨?_, ?_, h.values⟩
    · intro key entry hentry
      cases hentry
    · intro c hc
      exact (h.started c hc).trans (Nat.le_succ _)
  · split at hstep
    · cases hstep
    · rename_i n hcall
      obtain ⟨c, hc, hstep⟩ := Option.bind_eq_some_iff.mp hstep
      exact h.callStep hc hcall hstores hstep

/-! ## Every interleaving -/

/-- In every interleaving in which no `clear` comes between the start of a factory run
and the storing of its value, a call receives no value that is older than a `clear`
which had returned when the call started. -/
theorem clear_is_not_undone (ttl : ℕ) (actions : List (CacheAction κ V E))
    {s : TopologyCache κ V E}
    (hstores : Machine.Meets (TopologyCache.step ttl) (fun s a => storesBeforeClear s a) {} actions)
    (hrun : Machine.run (TopologyCache.step ttl) {} actions = some s) :
    ∀ c ∈ s.calls, ∀ v epoch, c.point = .done (.value v epoch) → c.startedAfter ≤ epoch := by
  have hfresh : CacheFresh s := by
    apply Machine.run_invariant_of_meets CacheFresh _ actions {} s _ hstores hrun
    · intro s a t h hcond hstep
      exact h.step hcond hstep
    · constructor <;> simp
  intro c hc v epoch hpoint
  apply hfresh.values c hc
  rw [hpoint]
  rfl

/-- Two calls for one key with a `clear` after the first one has stored its value. -/
def clearedBetween : List (CacheAction ℕ ℕ ℕ) :=
  [.start 0, .readClock 0 0, .get 0, .inspect 0, .beginFactory 0, .endFactory 0 (.value 7), .put 0 1,
    .pop 0, .signal 0, .clear, .start 0, .readClock 1 2, .get 1, .inspect 1, .beginFactory 1,
    .endFactory 1 (.value 8), .put 1 3, .pop 1, .signal 1]

theorem cleared_value_is_recomputed :
    ∃ s, Machine.run (TopologyCache.step 300) {} clearedBetween = some s ∧
      ∀ c ∈ s.calls, ∀ v epoch, c.point = .done (.value v epoch) → c.startedAfter ≤ epoch :=
  ⟨_, rfl, clear_is_not_undone 300 clearedBetween (by decide) rfl⟩

/-- The `clear` comes while the factory of the first call is running. -/
def clearedDuringFactory : List (CacheAction ℕ ℕ ℕ) :=
  [.start 0, .readClock 0 0, .get 0, .inspect 0, .beginFactory 0, .clear, .endFactory 0 (.value 7),
    .put 0 1, .pop 0, .signal 0, .start 0, .readClock 1 2, .get 1]

/-- The second call starts after the `clear` and receives the value from before it. -/
theorem overtaken_value_is_served :
    ∃ s, Machine.run (TopologyCache.step 300) {} clearedDuringFactory = some s ∧
      ∃ c ∈ s.calls, ∃ v epoch, c.point = .done (.value v epoch) ∧ epoch < c.startedAfter := by
  refine ⟨_, rfl, ⟨0, 1, .done (.value 7 0)⟩, ?_, 7, 0, rfl, by decide⟩
  decide

end ConnectionTopology
