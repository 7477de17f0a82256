import Mathlib

/-!
# Reassigning claims to the free resources of their owners

Every owner has a pool of resources, and a claim is an owner with a resource.  A claim to a resource
of the owner's pool stands; any other claim moves, in the order of the list, to the first resource
of the pool that is not in use, if there is one.

A pass makes no two claims meet, a second pass moves nothing, and which claims a pass leaves can be
counted: a claim outside the pool stays exactly if the claims before it that are outside the same
pool use up what is free.
-/

namespace Reassignments

variable {κ ρ : Type*} [DecidableEq κ] [DecidableEq ρ] (pool : κ → List ρ)

/-- The resource that a claim moves to. -/
def replacement (used : List (κ × ρ)) (claim : κ × ρ) : Option ρ :=
  if claim.2 ∈ pool claim.1 then none
  else (pool claim.1).find? fun r => (claim.1, r) ∉ used

/-- The claims before and after a pass. -/
def moves : List (κ × ρ) → List (κ × ρ) → List ((κ × ρ) × (κ × ρ))
  | _, [] => []
  | used, claim :: claims =>
    match replacement pool used claim with
    | none => (claim, claim) :: moves used claims
    | some r => (claim, (claim.1, r)) :: moves ((claim.1, r) :: used) claims

/-- The claims that stand. -/
def settled (claims : List (κ × ρ)) : List (κ × ρ) :=
  claims.filter fun claim => claim.2 ∈ pool claim.1

/-- The claims after a pass. -/
def reassign (claims : List (κ × ρ)) : List (κ × ρ) :=
  (moves pool (settled pool claims) claims).map Prod.snd

/-- The number of resources of an owner that are not in use. -/
def freeCount (used : List (κ × ρ)) (owner : κ) : ℕ :=
  {r ∈ (pool owner).toFinset | (owner, r) ∉ used}.card

/-- The number of claims of an owner to something outside the pool. -/
def strayCount (claims : List (κ × ρ)) (owner : κ) : ℕ :=
  claims.countP fun claim => claim.1 = owner ∧ claim.2 ∉ pool owner

variable {pool} {used claims : List (κ × ρ)} {claim after : κ × ρ}

/-! ## One claim -/

variable {r : ρ}

lemma spec_of_replacement (h : replacement pool used claim = some r) :
    claim.2 ∉ pool claim.1 ∧ r ∈ pool claim.1 ∧ (claim.1, r) ∉ used := by
  unfold replacement at h
  split at h
  · cases h
  · next hstray =>
    exact ⟨hstray, List.mem_of_find?_eq_some h, by simpa using List.find?_some h⟩

lemma replacement_eq_none_iff :
    replacement pool used claim = none ↔
      claim.2 ∈ pool claim.1 ∨ ∀ r ∈ pool claim.1, (claim.1, r) ∈ used := by
  unfold replacement
  split
  · next h => exact iff_of_true rfl (Or.inl h)
  · next h => simp [h]

lemma freeCount_eq_zero_iff {owner : κ} :
    freeCount pool used owner = 0 ↔ ∀ r ∈ pool owner, (owner, r) ∈ used := by
  simp [freeCount, Finset.filter_eq_empty_iff]

lemma freeCount_cons (hr : r ∈ pool claim.1) (hfree : (claim.1, r) ∉ used) (owner : κ) :
    freeCount pool ((claim.1, r) :: used) owner =
      freeCount pool used owner - if claim.1 = owner then 1 else 0 := by
  unfold freeCount
  by_cases howner : claim.1 = owner
  · subst howner
    rw [if_pos rfl, ← Finset.card_erase_of_mem (a := r) (by simp [hr, hfree])]
    congr 1
    ext s
    simp only [List.mem_cons, Prod.mk.injEq, true_and, not_or, Finset.mem_filter, Finset.mem_erase]
    tauto
  · rw [if_neg howner, Nat.sub_zero]
    congr 1
    refine Finset.filter_congr fun s _ => ?_
    simp [Ne.symm howner]

/-! ## A pass -/

lemma map_fst_moves (pool : κ → List ρ) (used claims : List (κ × ρ)) :
    (moves pool used claims).map Prod.fst = claims := by
  induction claims generalizing used with
  | nil => rfl
  | cons claim claims ih =>
    unfold moves
    split
    · exact congrArg (claim :: ·) (ih _)
    · exact congrArg (claim :: ·) (ih _)

lemma mem_of_mem_moves (h : (claim, after) ∈ moves pool used claims) : claim ∈ claims := by
  have hfst := List.mem_map_of_mem (f := Prod.fst) h
  rwa [map_fst_moves] at hfst

lemma of_mem_moves (h : (claim, after) ∈ moves pool used claims) :
    after = claim ∨ claim.2 ∉ pool claim.1 ∧ after.2 ∈ pool after.1 ∧ after.1 = claim.1 ∧
      after ∉ used := by
  induction claims generalizing used with
  | nil => cases h
  | cons head claims ih =>
    unfold moves at h
    split at h
    · rcases List.mem_cons.mp h with heq | h
      · cases heq
        exact Or.inl rfl
      · exact ih h
    rename_i r hr
    obtain ⟨hstray, hpool, hfree⟩ := spec_of_replacement hr
    rcases List.mem_cons.mp h with heq | h
    · cases heq
      exact Or.inr ⟨hstray, hpool, rfl, hfree⟩
    · refine (ih h).imp_right fun hmoved => ?_
      exact ⟨hmoved.1, hmoved.2.1, hmoved.2.2.1, fun hused =>
        hmoved.2.2.2 (List.mem_cons_of_mem _ hused)⟩

lemma map_owner_reassign : (reassign pool claims).map Prod.fst = claims.map Prod.fst := by
  conv_rhs => rw [← map_fst_moves pool (settled pool claims) claims]
  rw [reassign, List.map_map, List.map_map]
  refine List.map_congr_left fun move hmove => ?_
  rcases (of_mem_moves hmove : move.2 = move.1 ∨ _) with h | h
  · exact congrArg Prod.fst h
  · exact h.2.2.1

/-- **Claims do not meet**: claims that are equal after a pass were equal before it. -/
theorem pairwise_moves (hused : ∀ claim ∈ claims, claim.2 ∈ pool claim.1 → claim ∈ used) :
    (moves pool used claims).Pairwise fun x y => x.2 = y.2 → x.1 = y.1 := by
  induction claims generalizing used with
  | nil => exact List.Pairwise.nil
  | cons head claims ih =>
    have hrest := fun claim hclaim => hused claim (List.mem_cons_of_mem head hclaim)
    unfold moves
    split
    · refine List.pairwise_cons.mpr ⟨?_, ih hrest⟩
      rintro ⟨x, y⟩ hxy rfl
      rcases of_mem_moves hxy with heq | ⟨-, hpool, -, hfree⟩
      · exact heq
      · exact absurd (hused _ List.mem_cons_self hpool) hfree
    · next r hr =>
      obtain ⟨-, hpool, hfree⟩ := spec_of_replacement hr
      refine List.pairwise_cons.mpr ⟨?_, ih fun claim hclaim hstands =>
        List.mem_cons_of_mem _ (hrest claim hclaim hstands)⟩
      rintro ⟨x, y⟩ hxy rfl
      rcases of_mem_moves hxy with rfl | ⟨-, -, -, hnew⟩
      · exact absurd (hrest _ (mem_of_mem_moves hxy) hpool) hfree
      · exact absurd List.mem_cons_self hnew

/-- Where a claim stays outside its pool, everything is in use after the pass. -/
lemma used_of_mem_moves (h : (claim, after) ∈ moves pool used claims)
    (hstray : after.2 ∉ pool after.1) (hr : r ∈ pool after.1) :
    (after.1, r) ∈ used ∨ (after.1, r) ∈ (moves pool used claims).map Prod.snd := by
  induction claims generalizing used with
  | nil => cases h
  | cons head claims ih =>
    unfold moves at h ⊢
    split at h
    · next hnone =>
      rcases List.mem_cons.mp h with heq | h
      · cases heq
        exact Or.inl ((replacement_eq_none_iff.mp hnone).resolve_left hstray r hr)
      · exact (ih h).imp_right (List.mem_cons_of_mem _)
    · next s hs =>
      rcases List.mem_cons.mp h with heq | h
      · cases heq
        exact absurd (spec_of_replacement hs).2.1 hstray
      rcases ih h with hused | hused
      · rcases List.mem_cons.mp hused with heq | hused
        · exact Or.inr (heq ▸ List.mem_cons_self)
        · exact Or.inl hused
      · exact Or.inr (List.mem_cons_of_mem _ hused)

/-- **A second pass moves nothing.** -/
theorem replacement_reassign (h : claim ∈ reassign pool claims) :
    replacement pool (settled pool (reassign pool claims)) claim = none := by
  refine replacement_eq_none_iff.mpr (or_iff_not_imp_left.mpr fun hstray r hr => ?_)
  obtain ⟨⟨before, after⟩, hmove, rfl⟩ := List.mem_map.mp h
  refine List.mem_filter.mpr ⟨?_, decide_eq_true hr⟩
  rcases used_of_mem_moves hmove hstray hr with hused | hused
  · obtain ⟨hclaim, hstands⟩ := List.mem_filter.mp hused
    rw [← map_fst_moves pool (settled pool claims) claims] at hclaim
    obtain ⟨⟨_, after'⟩, hmove', rfl⟩ := List.mem_map.mp hclaim
    rcases of_mem_moves hmove' with rfl | hmoved
    · exact List.mem_map_of_mem hmove'
    · exact absurd hr hmoved.1
  · exact hused

omit [DecidableEq κ] [DecidableEq ρ] in
lemma exists_split_cons_iff {P : List (κ × ρ) → Prop} {head : κ × ρ} :
    (∃ pre post, head :: claims = pre ++ claim :: post ∧ P pre) ↔
      head = claim ∧ P [] ∨ ∃ pre post, claims = pre ++ claim :: post ∧ P (head :: pre) := by
  constructor
  · rintro ⟨pre, post, heq, hP⟩
    rcases pre with - | ⟨first, pre⟩
    · cases heq
      exact Or.inl ⟨rfl, hP⟩
    · cases heq
      exact Or.inr ⟨pre, post, rfl, hP⟩
  · rintro (⟨rfl, hP⟩ | ⟨pre, post, rfl, hP⟩)
    · exact ⟨[], claims, rfl, hP⟩
    · exact ⟨head :: pre, post, rfl, hP⟩

/-- **Which claims stay**: a claim outside its pool stays exactly if the claims before it that are
outside the pool use up what is free. -/
theorem mem_moves_self_iff (hstray : claim.2 ∉ pool claim.1) :
    (claim, claim) ∈ moves pool used claims ↔ ∃ pre post, claims = pre ++ claim :: post ∧
      freeCount pool used claim.1 ≤ strayCount pool pre claim.1 := by
  induction claims generalizing used with
  | nil => simp [moves]
  | cons head claims ih =>
    rw [exists_split_cons_iff]
    have hcons : ∀ pre, strayCount pool (head :: pre) claim.1 = strayCount pool pre claim.1 +
        if head.1 = claim.1 ∧ head.2 ∉ pool claim.1 then 1 else 0 := fun pre => by
      simp [strayCount, List.countP_cons]
    simp only [hcons]
    unfold moves
    split
    · next hnone =>
      rw [List.mem_cons, ih]
      by_cases hhead : head.1 = claim.1 ∧ head.2 ∉ pool claim.1
      · -- The head is outside the same pool and found nothing free.
        have hzero : freeCount pool used claim.1 = 0 := by
          rw [← hhead.1, freeCount_eq_zero_iff]
          exact (replacement_eq_none_iff.mp hnone).resolve_left (hhead.1 ▸ hhead.2)
        simp [hzero, eq_comm]
      · have hne : head ≠ claim := by
          rintro rfl
          exact hhead ⟨rfl, hstray⟩
        simp [hhead, hne, Ne.symm hne]
    · next r hr =>
      obtain ⟨hout, hpool, hfree⟩ := spec_of_replacement hr
      have hne : (claim, claim) ≠ (head, (head.1, r)) := fun heq => by
        obtain ⟨-, rfl⟩ := Prod.mk.inj heq
        exact hstray hpool
      rw [List.mem_cons, or_iff_right hne, ih]
      simp only [freeCount_cons hpool hfree]
      by_cases howner : head.1 = claim.1
      · have hpos : freeCount pool used claim.1 ≠ 0 := fun hzero =>
          hfree (howner ▸ freeCount_eq_zero_iff.mp hzero r (howner ▸ hpool))
        have hstraight : head.2 ∉ pool claim.1 := howner ▸ hout
        simp [howner, hstraight, hpos, strayCount, Nat.sub_le_iff_le_add]
      · have hhead : head ≠ claim := fun heq => howner (congrArg Prod.fst heq)
        simp [howner, hhead]

end Reassignments
