import Mathlib

/-!
# Chains of guards

A verdict is often a chain of `if`s that returns the complaint of the first failing guard.  A verdict
that is none of the complaints passed every guard.
-/

namespace Guards

variable {α : Type*} {p : Prop} [Decidable p] {complaint rest verdict : α}

lemma passed (h : (if p then complaint else rest) = verdict) (hne : complaint ≠ verdict) :
    ¬ p ∧ rest = verdict := by
  by_cases hp : p
  · rw [if_pos hp] at h
    exact absurd h hne
  · exact ⟨hp, by rwa [if_neg hp] at h⟩

end Guards
