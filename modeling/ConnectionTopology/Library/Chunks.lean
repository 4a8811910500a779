import Mathlib.Algebra.Order.Floor.Div
import Mathlib.Data.List.Sort
import Mathlib.Tactic

/-!
# Prefixes of sorted lists

The first rows of a sorted list are the rows with few rows before them, and what is left after
a prefix lies beyond its last row. A loop that takes prefixes can therefore go on from a
watermark, and a query that ranks rows keeps the ones with a small rank.
-/
namespace ConnectionTopology.Chunks

variable {α : Type*}

/-- A row is among the first `n` of a strictly sorted list if fewer than `n` rows precede it. -/
theorem mem_take_iff {lt : α → α → Prop} [DecidableRel lt] (hasymm : ∀ a b, lt a b → ¬ lt b a)
    {l : List α} (hsorted : l.Pairwise lt) {a : α} (n : ℕ) :
    a ∈ l.take n ↔ a ∈ l ∧ l.countP (fun b => lt b a) < n := by
  induction l generalizing n with
  | nil => simp
  | cons b l ih =>
    obtain ⟨hb, hsorted⟩ := List.pairwise_cons.mp hsorted
    cases n with
    | zero => simp
    | succ n =>
      rw [List.take_succ_cons, List.mem_cons, ih hsorted, List.mem_cons]
      by_cases hab : a = b
      · subst hab
        have hself : ¬ lt a a := fun h => hasymm a a h h
        have hnone : l.countP (fun b => lt b a) = 0 := by
          rw [List.countP_eq_zero]
          intro c hc
          simpa using hasymm a c (hb c hc)
        rw [List.countP_cons_of_neg (by simpa using hself), hnone]
        simp
      · constructor
        · rintro (h | ⟨ha, hcount⟩)
          · exact absurd h hab
          · rw [List.countP_cons_of_pos (by simpa using hb a ha)]
            exact ⟨Or.inr ha, by omega⟩
        · rintro ⟨h | ha, hcount⟩
          · exact absurd h hab
          · rw [List.countP_cons_of_pos (by simpa using hb a ha)] at hcount
            exact Or.inr ⟨ha, by omega⟩

/-- Beyond the last row of a prefix lies the rest. -/
theorem filter_lt_last [LinearOrder α] {l : List α} (hsorted : l.Pairwise (· < ·)) {n : ℕ} {w : α}
    (hlast : (l.take n).getLast? = some w) : l.filter (w < ·) = l.drop n := by
  have hsplit : (l.take n ++ l.drop n).Pairwise (· < ·) := by rwa [List.take_append_drop]
  obtain ⟨htake, -, hcross⟩ := List.pairwise_append.mp hsplit
  have hmem : w ∈ l.take n := List.mem_of_getLast? hlast
  have hle : ∀ a ∈ l.take n, a ≤ w := by
    obtain ⟨init, hinit⟩ := List.getLast?_eq_some_iff.mp hlast
    rw [hinit] at htake ⊢
    intro a ha
    rcases List.mem_append.mp ha with ha | ha
    · exact ((List.pairwise_append.mp htake).2.2 a ha w (by simp)).le
    · exact (List.mem_singleton.mp ha).le
  calc l.filter (w < ·) = (l.take n ++ l.drop n).filter (w < ·) := by rw [List.take_append_drop]
    _ = l.drop n := by
      rw [List.filter_append, List.filter_eq_nil_iff.mpr fun a ha => by simpa using hle a ha,
        List.nil_append, List.filter_eq_self]
      intro a ha
      simpa using hcross w hmem a ha

/-- The first pages of a list hold its first rows, each in its place. -/
theorem flatMap_pages (l : List α) (limit n : ℕ) :
    ((List.range n).flatMap fun k => (l.drop (k * limit)).take limit) = l.take (n * limit) := by
  induction n with
  | zero => simp
  | succ n ih =>
    rw [List.range_succ, List.flatMap_append, ih, Nat.succ_mul, List.take_add]
    simp

theorem lt_ceilDiv_iff {k total limit : ℕ} (hlimit : 0 < limit) :
    k < total ⌈/⌉ limit ↔ limit * k < total := by
  have hle := ceilDiv_le_iff_le_mul (b := total) (c := k) hlimit
  omega

/-- All pages together hold every row once, in order. -/
theorem flatMap_all_pages (l : List α) {limit : ℕ} (hlimit : 0 < limit) :
    ((List.range (l.length ⌈/⌉ limit)).flatMap fun k => (l.drop (k * limit)).take limit) = l := by
  have hall : l.length ≤ limit * (l.length ⌈/⌉ limit) := (ceilDiv_le_iff_le_mul hlimit).mp le_rfl
  rw [flatMap_pages]
  exact List.take_of_length_le (by rwa [mul_comm])

/-- In a list that is strictly sorted by a key, the keys tell the places. -/
theorem index_lt_iff {β : Type*} [LinearOrder β] {key : α → β} {l : List α}
    (hsorted : l.Pairwise fun a b => key a < key b) {i j : ℕ} {a b : α} (hi : l[i]? = some a)
    (hj : l[j]? = some b) : i < j ↔ key a < key b := by
  obtain ⟨hilt, rfl⟩ := List.getElem?_eq_some_iff.mp hi
  obtain ⟨hjlt, rfl⟩ := List.getElem?_eq_some_iff.mp hj
  have hlt := List.pairwise_iff_getElem.mp hsorted
  constructor
  · exact fun hij => hlt i j hilt hjlt hij
  · intro hkey
    rcases lt_trichotomy i j with hij | rfl | hji
    · exact hij
    · exact absurd hkey (lt_irrefl _)
    · exact absurd hkey (hlt j i hjlt hilt hji).asymm

end ConnectionTopology.Chunks
