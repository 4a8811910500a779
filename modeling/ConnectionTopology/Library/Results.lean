import Mathlib.Tactic

/-!
# Results of functions that may fail

Rules for a bind that succeeds and for a function that is applied to every item of a list and
may refuse one. Items that are read one by one and printed one by one are the same list again.
-/
namespace ConnectionTopology

theorem bind_eq_ok {α β ε : Type} {x : Except ε α} {g : α → Except ε β} {b : β}
    (h : (x >>= g) = .ok b) : ∃ a, x = .ok a ∧ g a = .ok b := by
  cases x with
  | error e => cases h
  | ok a => exact ⟨a, rfl, h⟩

section
variable {α β : Type} {read : α → Option β}

theorem mem_of_mapM {l : List α} {r : List β} (h : l.mapM read = some r) :
    ∀ a ∈ l, ∃ b, read a = some b := by
  intro a ha
  induction l generalizing r with
  | nil => cases ha
  | cons x l ih =>
    rw [List.mapM_cons] at h
    obtain ⟨b, hb, h⟩ := Option.bind_eq_some_iff.mp h
    obtain ⟨bs, hbs, -⟩ := Option.bind_eq_some_iff.mp h
    rcases List.mem_cons.mp ha with rfl | ha
    · exact ⟨b, hb⟩
    · exact ih hbs ha

theorem mapM_eq_some_map {l : List α} {g : α → β} (h : ∀ a ∈ l, read a = some (g a)) :
    l.mapM read = some (l.map g) := by
  induction l with
  | nil => rfl
  | cons a l ih =>
    rw [List.mapM_cons, h a List.mem_cons_self, ih fun b hb => h b (List.mem_cons_of_mem _ hb)]
    rfl

variable {print : β → α}

/-- Everything that is printed is read back. -/
theorem mapM_map_print {l : List β} (h : ∀ b ∈ l, read (print b) = some b) :
    (l.map print).mapM read = some l := by
  induction l with
  | nil => rfl
  | cons b l ih =>
    rw [List.map_cons, List.mapM_cons, h b List.mem_cons_self,
      ih fun c hc => h c (List.mem_cons_of_mem _ hc)]
    rfl

/-- Only what is printed is read. -/
theorem map_print_of_mapM {l : List α} {r : List β} (h : l.mapM read = some r)
    (hread : ∀ a b, read a = some b → print b = a) : r.map print = l := by
  induction l generalizing r with
  | nil =>
    cases h
    rfl
  | cons a l ih =>
    rw [List.mapM_cons] at h
    obtain ⟨b, hb, h⟩ := Option.bind_eq_some_iff.mp h
    obtain ⟨rest, hrest, h⟩ := Option.bind_eq_some_iff.mp h
    cases h
    rw [List.map_cons, hread a b hb, ih hrest]

end

end ConnectionTopology
