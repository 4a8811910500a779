import ConnectionTopology.Services.PostgresLeader

/-!
# The hand-over between leaders

The lock is released before `on_lost` runs, so another process can become leader while the old
one still is. If nobody is granted the lock during a hand-over, there is one leader at most: a
leader has the lock or hands over, and during a hand-over nobody has the lock.
-/
namespace ConnectionTopology

/-- The lock is not granted while another process is between its unlock and the end of its
`on_lost`. -/
def NoGrantDuringHandover (s : ElectionState) (a : ℕ × ElectorAction) : Prop :=
  a.2 = .tryLock → ∀ e ∈ s.electors, e.thread.any RunPoint.handsOver = false

instance (s : ElectionState) (a : ℕ × ElectorAction) : Decidable (NoGrantDuringHandover s a) :=
  inferInstanceAs (Decidable (_ → _))

/-- The holder of the lock stands where the lock is held, and nobody else does; during a
hand-over nobody does. -/
structure HandoverOk (s : ElectionState) : Prop where
  holder : ∀ (p : ℕ) (e : Elector), s.electors[p]? = some e →
    e.thread.any RunPoint.holdsLock = true → s.lock = some p
  handover : ∀ (p : ℕ) (e : Elector) (q : ℕ) (e' : Elector), s.electors[p]? = some e → s.electors[q]? = some e' →
    e.thread.any RunPoint.handsOver = true →
    e'.thread.any RunPoint.holdsLock = true ∨ e'.thread.any RunPoint.handsOver = true → p = q

theorem handoverOk_initial (processes : ℕ) : HandoverOk (.initial processes) := by
  have hidle : ∀ (p : ℕ) (e : Elector),
      (ElectionState.initial processes).electors[p]? = some e → e = {} := by
    intro p e he
    exact List.eq_of_mem_replicate (List.mem_of_getElem? he)
  constructor
  · intro p e he hholds
    rw [hidle p e he] at hholds
    cases hholds
  · intro p e q e' he _ hhands
    rw [hidle p e he] at hhands
    cases hhands

/-- What a step of a thread does to its part in the hand-over. -/
theorem Elector.act_cases {e e' : Elector} {free : Bool} {a : ElectorAction}
    (h : e.act free a = some e') :
    (a = .tryLock ∧ e.thread.any RunPoint.holdsLock = false ∧
      e'.thread.any RunPoint.holdsLock = free ∧ e'.thread.any RunPoint.handsOver = false) ∨
    (a = .unlock ∧ e.thread.any RunPoint.holdsLock = true ∧
      e'.thread.any RunPoint.holdsLock = false ∧ e'.thread.any RunPoint.handsOver = true) ∨
    (a ≠ .tryLock ∧ a ≠ .unlock ∧
      e'.thread.any RunPoint.holdsLock = e.thread.any RunPoint.holdsLock ∧
      (e'.thread.any RunPoint.handsOver = true → e.thread.any RunPoint.handsOver = true)) := by
  obtain ⟨thread, stop⟩ := e
  cases a
  case tryLock =>
    left
    cases thread with
    | none => cases h
    | some point =>
      cases point <;> cases h
      cases free <;> exact ⟨rfl, rfl, rfl, rfl⟩
  case unlock =>
    right; left
    cases thread with
    | none => cases h
    | some point =>
      cases point <;> cases h
      exact ⟨rfl, rfl, rfl, rfl⟩
  -- every other step stays on its side of the lock
  all_goals
    right; right
    refine ⟨by simp, by simp, ?_⟩
    rcases thread with _ | point
  case joined.none => cases h
  case joined.some =>
    cases point <;> try cases h
    cases stop <;> cases h
    exact ⟨rfl, id⟩
  case start.some | shutdown.some => cases h; exact ⟨rfl, id⟩
  case testStop.some | wake.some =>
    cases point <;> cases h
    cases stop <;> exact ⟨rfl, id⟩
  case connect.some ok =>
    cases point <;> cases h
    cases ok <;> exact ⟨rfl, id⟩
  case leaveAcquired.some raised | leaveLost.some raised =>
    cases point <;> cases h
    cases raised <;> exact ⟨rfl, fun h => by first | exact h | cases h⟩
  case closeRefused.some | enterAcquired.some | close.some | enterLost.some | pause.some =>
    cases point <;> cases h
    exact ⟨rfl, id⟩
  all_goals cases h
  all_goals exact ⟨rfl, id⟩

theorem HandoverOk.step {s t : ElectionState} (h : HandoverOk s) {a : ℕ × ElectorAction}
    (hgrant : NoGrantDuringHandover s a) (hstep : s.step a = some t) : HandoverOk t := by
  obtain ⟨p, a⟩ := a
  unfold ElectionState.step at hstep
  cases he : s.electors[p]? with
  | none => simp [he] at hstep
  | some e =>
    simp only [he, Option.map_eq_some_iff] at hstep
    obtain ⟨e', hact, rfl⟩ := hstep
    rcases e.act_cases hact with ⟨rfl, -, hfree, hhands⟩ | ⟨rfl, hheld, hnot, -⟩ |
      ⟨htry, hunlock, hholds, hhands⟩
    · constructor
      · intro q x hx hxholds
        rcases Machine.getElem?_set_cases hx with ⟨rfl, rfl⟩ | ⟨hne, hx⟩
        · rw [hfree] at hxholds
          simp [lockAfter, Option.isNone_iff_eq_none.mp hxholds]
        · simp [lockAfter, h.holder q x hx hxholds]
      · intro q x r y hx _ hxhands _
        rcases Machine.getElem?_set_cases hx with ⟨rfl, rfl⟩ | ⟨hne, hx⟩
        · rw [hhands] at hxhands
          cases hxhands
        · rw [hgrant rfl x (List.mem_of_getElem? hx)] at hxhands
          cases hxhands
    · have hlock := h.holder p e he hheld
      have hother : ∀ q x, q ≠ p → s.electors[q]? = some x →
          x.thread.any RunPoint.holdsLock = true → False := by
        intro q x hne hx hxholds
        have hsame := h.holder q x hx hxholds
        rw [hlock] at hsame
        exact hne (Option.some.inj hsame).symm
      constructor
      · intro q x hx hxholds
        rcases Machine.getElem?_set_cases hx with ⟨rfl, rfl⟩ | ⟨hne, hx⟩
        · rw [hnot] at hxholds
          cases hxholds
        · exact (hother q x hne hx hxholds).elim
      · intro q x r y hx hy hxhands hy'
        rcases Machine.getElem?_set_cases hx with ⟨rfl, rfl⟩ | ⟨hne, hx⟩
        · rcases Machine.getElem?_set_cases hy with ⟨rfl, -⟩ | ⟨hne, hy⟩
          · rfl
          · rcases hy' with hyholds | hyhands
            · exact (hother r y hne hy hyholds).elim
            · exact (h.handover r y q e hy he hyhands (Or.inl hheld)).symm
        · exact absurd (h.handover q x p e hx he hxhands (Or.inl hheld)) hne
    · have hlock : lockAfter s.lock p a = s.lock := by
        unfold lockAfter
        cases a <;> first | rfl | contradiction
      constructor
      · intro q x hx hxholds
        dsimp only
        rw [hlock]
        rcases Machine.getElem?_set_cases hx with ⟨rfl, rfl⟩ | ⟨hne, hx⟩
        · exact h.holder q e he (hholds ▸ hxholds)
        · exact h.holder q x hx hxholds
      · have hback : ∀ (q : ℕ) (x : Elector), (s.electors.set p e')[q]? = some x →
            ∃ x₀ : Elector, s.electors[q]? = some x₀ ∧
            (x.thread.any RunPoint.holdsLock = true → x₀.thread.any RunPoint.holdsLock = true) ∧
            (x.thread.any RunPoint.handsOver = true → x₀.thread.any RunPoint.handsOver = true) := by
          intro q x hx
          rcases Machine.getElem?_set_cases hx with ⟨rfl, rfl⟩ | ⟨hne, hx⟩
          · exact ⟨e, he, fun hx => hholds ▸ hx, hhands⟩
          · exact ⟨x, hx, id, id⟩
        intro q x r y hx hy hxhands hy'
        obtain ⟨x₀, hx₀, -, hxback⟩ := hback q x hx
        obtain ⟨y₀, hy₀, hyholds, hyhands⟩ := hback r y hy
        exact h.handover q x₀ r y₀ hx₀ hy₀ (hxback hxhands) (hy'.imp hyholds hyhands)

theorem RunPoint.isLeader_cases {point : RunPoint} (h : point.isLeader = true) :
    point.holdsLock = true ∨ point.handsOver = true := by
  cases point <;> first | exact Or.inl rfl | exact Or.inr rfl | cases h

theorem HandoverOk.atMostOneLeader {s : ElectionState} (h : HandoverOk s) : s.AtMostOneLeader := by
  have hpart : ∀ {e : Elector}, e.thread.any RunPoint.isLeader = true →
      e.thread.any RunPoint.holdsLock = true ∨ e.thread.any RunPoint.handsOver = true := by
    intro e he
    cases hthread : e.thread with
    | none => simp [hthread] at he
    | some point =>
      rw [hthread] at he
      exact RunPoint.isLeader_cases he
  rintro p q ⟨e, he, hleads⟩ ⟨e', he', hleads'⟩
  rcases hpart hleads with hholds | hhands
  · rcases hpart hleads' with hholds' | hhands'
    · have hlock := h.holder p e he hholds
      rw [h.holder q e' he' hholds'] at hlock
      exact (Option.some.inj hlock).symm
    · exact (h.handover q e' p e he' he hhands' (Or.inl hholds)).symm
  · exact h.handover p e q e' he he' hhands (hpart hleads')

/-- Without a grant during a hand-over there is one leader at most, at any time. -/
theorem at_most_one_leader (processes : ℕ) {actions : List (ℕ × ElectorAction)} {s : ElectionState}
    (hgrant : Machine.Meets ElectionState.step NoGrantDuringHandover (.initial processes) actions)
    (hrun : Machine.run ElectionState.step (.initial processes) actions = some s) :
    s.AtMostOneLeader :=
  (Machine.run_invariant_of_meets HandoverOk (fun _ _ _ h => h.step) actions _ s
    (handoverOk_initial processes) hgrant hrun).atMostOneLeader

/-- A process becomes leader. -/
def becomesLeader (process : ℕ) : List (ℕ × ElectorAction) :=
  [.start, .testStop, .connect true, .tryLock, .enterAcquired, .leaveAcquired false].map (process, ·)

/-- A leader is stopped, until its hand-over ends. -/
def stopsLeading (process : ℕ) : List (ℕ × ElectorAction) :=
  [.shutdown, .wake, .unlock, .close, .enterLost, .leaveLost false].map (process, ·)

/-- The second process leads after the first. -/
theorem second_leads_after_first :
    ∃ s, Machine.run ElectionState.step (.initial 2)
        (becomesLeader 0 ++ stopsLeading 0 ++ becomesLeader 1) = some s ∧
      s.Leads 1 ∧ s.AtMostOneLeader := by
  have hgrant : Machine.Meets ElectionState.step NoGrantDuringHandover (.initial 2)
      (becomesLeader 0 ++ stopsLeading 0 ++ becomesLeader 1) := by decide
  exact ⟨_, rfl, ⟨_, rfl, rfl⟩, at_most_one_leader 2 hgrant rfl⟩

/-- The second process leads before the first has run its `on_lost`. -/
theorem two_leaders_during_handover :
    ∃ s, Machine.run ElectionState.step (.initial 2)
        (becomesLeader 0 ++ (stopsLeading 0).take 3 ++ becomesLeader 1) = some s ∧
      s.Leads 0 ∧ s.Leads 1 ∧ ¬ s.AtMostOneLeader := by
  refine ⟨_, rfl, ⟨_, rfl, rfl⟩, ⟨_, rfl, rfl⟩, fun hone => ?_⟩
  exact absurd (hone 0 1 ⟨_, rfl, rfl⟩ ⟨_, rfl, rfl⟩) (by decide)

end ConnectionTopology
