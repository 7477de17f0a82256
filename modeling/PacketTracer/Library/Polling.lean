import Mathlib

/-!
# Polling loops

A polling loop carries a state and reads one input in each round: the round either ends the loop
with a result or hands the next round a state.  `poll` is the loop with a bound on its rounds and
`stateBefore` the state in which a round starts, if the loop gets that far.

`poll_eq_some_iff` says that the loop ends with a result exactly when some round that is reached
does.  `stateBefore_invariant` is the induction over the rounds.
-/

namespace Polling

variable {σ α ρ : Type*} (round : σ → α → ρ ⊕ σ) (inputs : ℕ → α)

lemma nonneg_of_not_neg {x : ℚ} (h : ¬x < 0) : 0 ≤ x := not_lt.mp h

/-- At most `fuel` rounds from the round with the given number on; `none` when none of them ends
the loop. -/
def poll : ℕ → ℕ → σ → Option ρ
  | 0, _, _ => none
  | fuel + 1, number, s =>
    match round s (inputs number) with
    | .inl result => some result
    | .inr s => poll fuel (number + 1) s

/-- The state in which a round starts; `none` when the loop ended before it. -/
def stateBefore (s : σ) : ℕ → Option σ
  | 0 => some s
  | number + 1 => (stateBefore s number).bind fun s => (round s (inputs number)).getRight?

variable {round inputs} {s t : σ} {fuel number : ℕ} {result : ρ}

lemma stateBefore_succ_eq_some_iff :
    stateBefore round inputs s (number + 1) = some t ↔
      ∃ u, stateBefore round inputs s number = some u ∧ round u (inputs number) = .inr t := by
  simp [stateBefore, Option.bind_eq_some_iff, Sum.getRight?_eq_some_iff]

lemma exists_stateBefore_of_le {later : ℕ} (h : stateBefore round inputs s later = some t)
    (hle : number ≤ later) : ∃ u, stateBefore round inputs s number = some u := by
  induction later generalizing t with
  | zero => exact ⟨t, by rwa [Nat.le_zero.mp hle]⟩
  | succ later ih =>
    rcases Nat.le_succ_iff.mp hle with hle | rfl
    · obtain ⟨u, hu, -⟩ := stateBefore_succ_eq_some_iff.mp h
      exact ih hu hle
    · exact ⟨t, h⟩

/-- A loop that ends, ends in a round within its bound. -/
lemma poll_eq_some_iff_from (first : ℕ) (ht : stateBefore round inputs s first = some t) :
    poll round inputs fuel first t = some result ↔
      ∃ number, first ≤ number ∧ number < first + fuel ∧
        ∃ u, stateBefore round inputs s number = some u ∧ round u (inputs number) = .inl result := by
  induction fuel generalizing first t with
  | zero =>
    simp only [poll, Nat.add_zero, reduceCtorEq, false_iff]
    rintro ⟨number, hfirst, hlast, -⟩
    omega
  | succ fuel ih =>
    unfold poll
    cases hround : round t (inputs first) with
    | inl ended =>
      simp only [Option.some.injEq]
      constructor
      · rintro rfl
        exact ⟨first, Nat.le_refl _, by omega, t, ht, hround⟩
      · rintro ⟨number, hfirst, -, u, hu, hend⟩
        rcases Nat.eq_or_lt_of_le hfirst with rfl | hlt
        · obtain rfl : t = u := Option.some.inj (ht.symm.trans hu)
          exact Sum.inl.inj (hround.symm.trans hend)
        obtain ⟨v, hv⟩ := exists_stateBefore_of_le hu (Nat.succ_le_of_lt hlt)
        obtain ⟨w, hw, hnext⟩ := stateBefore_succ_eq_some_iff.mp hv
        obtain rfl : t = w := Option.some.inj (ht.symm.trans hw)
        rw [hround] at hnext
        cases hnext
    | inr next =>
      have hnext : stateBefore round inputs s (first + 1) = some next :=
        stateBefore_succ_eq_some_iff.mpr ⟨t, ht, hround⟩
      simp only
      rw [ih (first + 1) hnext]
      constructor
      · rintro ⟨number, hfirst, hlast, hrest⟩
        exact ⟨number, by omega, by omega, hrest⟩
      · rintro ⟨number, hfirst, hlast, u, hu, hend⟩
        rcases Nat.eq_or_lt_of_le hfirst with rfl | hlt
        · obtain rfl : t = u := Option.some.inj (ht.symm.trans hu)
          rw [hround] at hend
          cases hend
        · exact ⟨number, by omega, by omega, u, hu, hend⟩

/-- **The end of a loop.**  It ends with a result exactly when a round that is reached within the
bound does. -/
theorem poll_eq_some_iff :
    poll round inputs fuel 0 s = some result ↔
      ∃ number < fuel, ∃ t, stateBefore round inputs s number = some t ∧
        round t (inputs number) = .inl result := by
  rw [poll_eq_some_iff_from 0 rfl]
  simp

/-- **The induction over the rounds**: what the first round starts with and every round hands on
holds whenever a round starts. -/
theorem stateBefore_invariant {P : ℕ → σ → Prop} (hs : P 0 s)
    (hround : ∀ number u v, P number u → round u (inputs number) = .inr v → P (number + 1) v)
    (h : stateBefore round inputs s number = some t) : P number t := by
  induction number generalizing t with
  | zero => exact Option.some.inj h ▸ hs
  | succ number ih =>
    obtain ⟨u, hu, hnext⟩ := stateBefore_succ_eq_some_iff.mp h
    exact hround number u t (ih hu) hnext

lemma exists_stateBefore_of_forall
    (h : ∀ earlier < number, ∀ u, stateBefore round inputs s earlier = some u →
      ∃ v, round u (inputs earlier) = .inr v) :
    ∃ t, stateBefore round inputs s number = some t := by
  induction number with
  | zero => exact ⟨s, rfl⟩
  | succ number ih =>
    obtain ⟨u, hu⟩ := ih fun earlier hlt => h earlier (Nat.lt_succ_of_lt hlt)
    obtain ⟨v, hv⟩ := h number (Nat.lt_succ_self number) u hu
    exact ⟨v, stateBefore_succ_eq_some_iff.mpr ⟨u, hu, hv⟩⟩

end Polling
