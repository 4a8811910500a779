import Mathlib.Order.Bounds.Basic
import Mathlib.Data.Set.Insert
import Mathlib.Tactic

/-!
# The latest row

The row with the greatest marker of a set of rows. It is unique where markers are, and the
latest row of a union is the later of the two latest rows.
-/
namespace ConnectionTopology.Latest

variable {α μ : Type*} [LinearOrder μ] {marker : α → μ}

/-- A row of the set with the greatest marker. -/
def IsLatest (marker : α → μ) (rows : Set α) (a : α) : Prop :=
  a ∈ rows ∧ ∀ b ∈ rows, marker b ≤ marker a

variable {s t : Set α} {a b : α}

theorem IsLatest.unique (hinj : Set.InjOn marker s) (ha : IsLatest marker s a)
    (hb : IsLatest marker s b) : a = b :=
  hinj ha.1 hb.1 (le_antisymm (hb.2 a ha.1) (ha.2 b hb.1))

theorem isLatest_singleton (a : α) : IsLatest marker {a} a :=
  ⟨rfl, fun b hb => by rw [Set.mem_singleton_iff.mp hb]⟩

theorem IsLatest.union_left (ha : IsLatest marker s a) (hb : IsLatest marker t b)
    (hle : marker b ≤ marker a) : IsLatest marker (s ∪ t) a := by
  refine ⟨Or.inl ha.1, ?_⟩
  rintro c (hc | hc)
  · exact ha.2 c hc
  · exact (hb.2 c hc).trans hle

theorem IsLatest.union_right (ha : IsLatest marker s a) (hb : IsLatest marker t b)
    (hle : marker a ≤ marker b) : IsLatest marker (s ∪ t) b := by
  rw [Set.union_comm]
  exact hb.union_left ha hle

end ConnectionTopology.Latest
