import Mathlib

/-!
# Borders and the prefix function

A border of a list is a proper prefix of it that is also a suffix.  The prefix function tells the
longest border of every initial segment of a list; `failureTable` computes it the way the
Knuth-Morris-Pratt algorithm does, by falling back along the borders that are already known.

A list with a nonempty border has one that is at most half as long as the list
(`exists_short_border`).
-/

namespace PrefixFunctions

variable {α : Type*}

/-! ## Borders -/

/-- The first `k` elements of the list are its last `k` elements, and they are not all of it. -/
structure Border (s : List α) (k : ℕ) : Prop where
  lt : k < s.length
  suffix : s.take k <:+ s

/-- No border is longer. -/
structure LongestBorder (s : List α) (k : ℕ) : Prop where
  border : Border s k
  longest : ∀ j, Border s j → j ≤ k

variable {s : List α} {x : α} {failure : List ℕ}

lemma border_zero (h : s ≠ []) : Border s 0 :=
  ⟨List.length_pos_of_ne_nil h, by simp⟩

variable {k j : ℕ}

lemma border_take_iff (hk : Border s k) (hj : j < k) : Border (s.take k) j ↔ Border s j := by
  have htake : (s.take k).take j = s.take j := by rw [List.take_take, min_eq_left hj.le]
  have hlength : (s.take k).length = k := List.length_take_of_le hk.lt.le
  constructor
  · intro h
    have hsuffix : s.take j <:+ s.take k := htake ▸ h.suffix
    exact ⟨hj.trans hk.lt, hsuffix.trans hk.suffix⟩
  · intro h
    refine ⟨by omega, ?_⟩
    rw [htake]
    refine List.suffix_of_suffix_length_le h.suffix hk.suffix ?_
    rw [List.length_take, List.length_take]
    omega

/-- A border grows by an element when the element that follows it comes next. -/
lemma border_concat_iff {t : List α} : Border (t ++ [x]) (j + 1) ↔ Border t j ∧ t[j]? = some x := by
  constructor
  · rintro ⟨hlt, hsuffix⟩
    have hj : j < t.length := by simpa using hlt
    have htake : (t ++ [x]).take (j + 1) = t.take j ++ [t[j]] := by
      rw [List.take_append_of_le_length hj, List.take_succ_eq_append_getElem hj]
    rw [htake] at hsuffix
    obtain ⟨front, hfront⟩ := hsuffix
    rw [← List.append_assoc] at hfront
    obtain ⟨hrest, hlast⟩ := List.append_inj' hfront rfl
    refine ⟨⟨hj, front, hrest⟩, ?_⟩
    rw [List.getElem?_eq_getElem hj]
    exact congrArg some (by simpa using hlast)
  · rintro ⟨⟨hlt, front, hfront⟩, hnext⟩
    obtain ⟨hj, hx⟩ := List.getElem?_eq_some_iff.mp hnext
    refine ⟨by simpa using hlt, front, ?_⟩
    rw [List.take_append_of_le_length hj, List.take_succ_eq_append_getElem hj, hx,
      ← List.append_assoc, hfront]

/-- A list with a nonempty border has a nonempty border of at most half its length. -/
lemma exists_short_border (hk : Border s k) (hpos : 0 < k) :
    ∃ j, 0 < j ∧ 2 * j ≤ s.length ∧ Border s j := by
  induction k using Nat.strongRecOn with
  | ind k ih =>
    by_cases hshort : 2 * k ≤ s.length
    · exact ⟨k, hpos, hshort, hk⟩
    -- The two occurrences of the border overlap, and the overlap is a shorter border.
    have hlt := hk.lt
    obtain ⟨front, hfront⟩ := hk.suffix
    have hlength : front.length = s.length - k := by
      have := congrArg List.length hfront
      rw [List.length_append, List.length_take] at this
      omega
    have hdrop : s.drop (s.length - k) = s.take k := by
      calc s.drop (s.length - k) = (front ++ s.take k).drop front.length := by
            rw [hfront, hlength]
        _ = s.take k := List.drop_left
    have hoverlap : s.take (k - (s.length - k)) = (s.take k).drop (s.length - k) := by
      rw [List.drop_take, hdrop, List.take_take, min_eq_left (by omega)]
    refine ih (k - (s.length - k)) (by omega) ⟨by omega, ?_⟩ (by omega)
    rw [hoverlap]
    exact (List.drop_suffix _ _).trans hk.suffix

/-! ## The table -/

variable [DecidableEq α]

/-- Fall back along the known borders until the next element fits. -/
def fallBack (s : List α) (failure : List ℕ) (x : α) : ℕ → ℕ → ℕ
  | 0, candidate => candidate
  | fuel + 1, candidate =>
    if candidate ≠ 0 ∧ s[candidate]? ≠ some x then
      fallBack s failure x fuel (failure.getD (candidate - 1) 0)
    else candidate

/-- The entry of the table for the initial segment that ends at `index`. -/
def nextFailure (s : List α) (failure : List ℕ) (index : ℕ) (x : α) : ℕ :=
  let candidate := fallBack s failure x index (failure.getD (index - 1) 0)
  if s[candidate]? = some x then candidate + 1 else candidate

/-- The entries of the table after the first one. -/
def extendTable (s : List α) : List α → List ℕ → List ℕ
  | [], failure => failure
  | x :: rest, failure =>
    extendTable s rest (failure ++ [nextFailure s failure failure.length x])

/-- The prefix function of a list. -/
def failureTable (s : List α) : List ℕ :=
  match s with
  | [] => []
  | _ :: rest => extendTable s rest [0]

/-- The entries are the longest borders of the initial segments. -/
structure IsTable (s : List α) (failure : List ℕ) : Prop where
  length_le : failure.length ≤ s.length
  longest : ∀ i < failure.length, LongestBorder (s.take (i + 1)) (failure.getD i 0)

/-- Falling back from a border that bounds all extensible ones ends at the longest of them. -/
lemma fallBack_spec (htable : IsTable s failure) {fuel candidate : ℕ} (hfuel : candidate ≤ fuel)
    (hborder : Border (s.take failure.length) candidate)
    (hbound : ∀ j, Border (s.take failure.length) j → s[j]? = some x → j ≤ candidate) :
    Border (s.take failure.length) (fallBack s failure x fuel candidate) ∧
      (∀ j, Border (s.take failure.length) j → s[j]? = some x →
        j ≤ fallBack s failure x fuel candidate) ∧
      (fallBack s failure x fuel candidate = 0 ∨
        s[fallBack s failure x fuel candidate]? = some x) := by
  induction fuel generalizing candidate with
  | zero =>
    obtain rfl : candidate = 0 := by omega
    exact ⟨hborder, hbound, Or.inl rfl⟩
  | succ fuel ih =>
    unfold fallBack
    by_cases hstop : candidate ≠ 0 ∧ s[candidate]? ≠ some x
    · rw [if_pos hstop]
      obtain ⟨hne, hmismatch⟩ := hstop
      have hlength : (s.take failure.length).length = failure.length :=
        List.length_take_of_le htable.length_le
      have hlt : candidate < failure.length := hlength ▸ hborder.lt
      have hlongest := htable.longest (candidate - 1) (by omega)
      rw [Nat.sub_add_cancel (Nat.pos_of_ne_zero hne)] at hlongest
      have htake : (s.take failure.length).take candidate = s.take candidate := by
        rw [List.take_take, min_eq_left hlt.le]
      have hnext : failure.getD (candidate - 1) 0 < candidate := by
        have hshort := hlongest.border.lt
        rw [List.length_take] at hshort
        omega
      refine ih (by omega) ?_ fun j hj hx => ?_
      · rw [← border_take_iff hborder hnext, htake]
        exact hlongest.border
      · have hle := hbound j hj hx
        have hj' : j < candidate := lt_of_le_of_ne hle fun heq => hmismatch (heq ▸ hx)
        refine hlongest.longest j ?_
        rw [← htake, border_take_iff hborder hj']
        exact hj
    · rw [if_neg hstop]
      refine ⟨hborder, hbound, ?_⟩
      rcases not_and_or.mp hstop with hzero | hmatch
      · exact Or.inl (not_not.mp hzero)
      · exact Or.inr (not_not.mp hmatch)

/-- The next entry is the longest border of the next initial segment. -/
lemma longestBorder_nextFailure (htable : IsTable s failure) (hne : failure ≠ [])
    (hx : s[failure.length]? = some x) :
    LongestBorder (s.take (failure.length + 1)) (nextFailure s failure failure.length x) := by
  obtain ⟨hlt, hget⟩ := List.getElem?_eq_some_iff.mp hx
  have hpos : 0 < failure.length := List.length_pos_of_ne_nil hne
  have hsegment : s.take (failure.length + 1) = s.take failure.length ++ [x] := by
    rw [List.take_succ_eq_append_getElem hlt, hget]
  have hread : ∀ j, Border (s.take failure.length) j →
      (s.take failure.length)[j]? = s[j]? := by
    intro j hj
    have hshort := hj.lt
    rw [List.length_take] at hshort
    exact List.getElem?_take_of_lt (by omega)
  have hlongest := htable.longest (failure.length - 1) (by omega)
  rw [Nat.sub_add_cancel hpos] at hlongest
  have hcandidate : failure.getD (failure.length - 1) 0 < failure.length := by
    have hshort := hlongest.border.lt
    rw [List.length_take] at hshort
    omega
  obtain ⟨hborder, hbound, hend⟩ := fallBack_spec htable hcandidate.le
    hlongest.border fun j hj _ => hlongest.longest j hj
  unfold nextFailure
  dsimp only
  rw [hsegment]
  split_ifs with hmatch
  · refine ⟨border_concat_iff.mpr ⟨hborder, by rw [hread _ hborder, hmatch]⟩, fun j hj => ?_⟩
    cases j with
    | zero => omega
    | succ j =>
      obtain ⟨hj, hnext⟩ := border_concat_iff.mp hj
      exact Nat.succ_le_succ (hbound j hj (hread j hj ▸ hnext))
  · have hzero := hend.resolve_right hmatch
    rw [hzero] at hmatch hbound ⊢
    refine ⟨border_zero (by simp), fun j hj => ?_⟩
    cases j with
    | zero => omega
    | succ j =>
      obtain ⟨hj, hnext⟩ := border_concat_iff.mp hj
      rw [hread j hj] at hnext
      obtain rfl : j = 0 := by
        have := hbound j hj hnext
        omega
      exact absurd hnext hmatch

/-- The table is completed entry by entry. -/
lemma isTable_extendTable {rest : List α} (htable : IsTable s failure) (hne : failure ≠ [])
    (hrest : s.drop failure.length = rest) :
    IsTable s (extendTable s rest failure) ∧
      (extendTable s rest failure).length = failure.length + rest.length := by
  induction rest generalizing failure with
  | nil => exact ⟨htable, rfl⟩
  | cons x rest ih =>
    have hx : s[failure.length]? = some x := by
      have hhead := congrArg List.head? hrest
      rwa [List.head?_drop] at hhead
    obtain ⟨hlt, -⟩ := List.getElem?_eq_some_iff.mp hx
    have hlongest := longestBorder_nextFailure htable hne hx
    have htable' : IsTable s (failure ++ [nextFailure s failure failure.length x]) := by
      refine ⟨by simpa using Nat.succ_le_of_lt hlt, fun i hi => ?_⟩
      rw [List.length_append, List.length_singleton] at hi
      rcases Nat.lt_succ_iff_lt_or_eq.mp hi with hi | rfl
      · rw [List.getD_append _ _ _ _ hi]
        exact htable.longest i hi
      · rw [List.getD_append_right _ _ _ _ le_rfl, Nat.sub_self]
        exact hlongest
    have hrest' : s.drop (failure ++ [nextFailure s failure failure.length x]).length = rest := by
      rw [List.length_append, List.length_singleton, ← List.drop_drop, hrest]
      rfl
    obtain ⟨hdone, hlength⟩ := ih htable' (by simp) hrest'
    refine ⟨hdone, hlength.trans ?_⟩
    rw [List.length_append, List.length_singleton, List.length_cons]
    omega

/-- **The prefix function is correct**: the last entry is the longest border of the list. -/
theorem longestBorder_failureTable (hne : s ≠ []) :
    LongestBorder s ((failureTable s).getLastD 0) := by
  rcases s with _ | ⟨a, rest⟩
  · exact absurd rfl hne
  have hinit : IsTable (a :: rest) [0] := by
    refine ⟨by simp, fun i hi => ?_⟩
    obtain rfl : i = 0 := by simpa using hi
    refine ⟨border_zero (by simp), fun j hj => ?_⟩
    have hshort : j < 1 := by simpa using hj.lt
    exact Nat.le_of_lt_succ hshort
  obtain ⟨htable, hlength⟩ : IsTable (a :: rest) (extendTable (a :: rest) rest [0]) ∧
      (extendTable (a :: rest) rest [0]).length = [0].length + rest.length :=
    isTable_extendTable hinit (by simp) rfl
  have hlength' : (failureTable (a :: rest)).length = rest.length + 1 := by
    rw [failureTable, hlength, List.length_singleton, Nat.add_comm]
  have hlast : (failureTable (a :: rest)).getLastD 0 =
      (failureTable (a :: rest)).getD rest.length 0 := by
    rw [List.getLastD_eq_getLast?, List.getLast?_eq_getElem?, hlength', Nat.add_sub_cancel]
    rfl
  have hlongest := htable.longest rest.length (by rw [hlength]; simp)
  rw [List.take_of_length_le (by simp)] at hlongest
  rw [hlast]
  exact hlongest

end PrefixFunctions
