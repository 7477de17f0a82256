import PacketTracer.Library.Dict

/-!
# Choosing by rank

Python's `max(items, key=rank)` is `List.argmax`: of several items of the highest rank it takes the
first.  What the choice does not depend on is the rank of the chosen item; the item itself depends
on the order of the list exactly when two items of the highest rank differ.  The second half merges
rows into a dictionary that keeps the weakest value of each key: a key holds the `List.argmin` of
its rows.
-/

namespace Ranking

open Dicts

variable {α κ τ : Type*} [LinearOrder τ] {rank : α → τ} {xs ys : List α}

/-! ## The chosen item -/

/-- The items that no other item of the list outranks. -/
def Topmost (rank : α → τ) (xs : List α) (a : α) : Prop := a ∈ xs ∧ ∀ b ∈ xs, rank b ≤ rank a

variable {a : α} {k : κ} {rows : List (κ × α)}

lemma topmost_of_argmax (h : xs.argmax rank = some a) : Topmost rank xs a := by
  refine ⟨List.argmax_mem h, ?_⟩
  intro b hb
  exact List.le_of_mem_argmax hb h

lemma Topmost.rank_eq {b : α} (ha : Topmost rank xs a) (hb : Topmost rank xs b) : rank a = rank b :=
  le_antisymm (hb.2 a ha.1) (ha.2 b hb.1)

lemma Topmost.perm (h : xs.Perm ys) (ha : Topmost rank xs a) : Topmost rank ys a :=
  ⟨h.mem_iff.mp ha.1, fun b hb => ha.2 b (h.mem_iff.mpr hb)⟩

lemma exists_argmax (h : a ∈ xs) : ∃ b, xs.argmax rank = some b := by
  refine Option.ne_none_iff_exists'.mp ?_
  intro hnone
  rw [List.argmax_eq_none] at hnone
  simp [hnone] at h

lemma argmax_eq_none_iff_of_perm (h : xs.Perm ys) :
    xs.argmax rank = none ↔ ys.argmax rank = none := by
  rw [List.argmax_eq_none, List.argmax_eq_none]
  constructor
  · rintro rfl
    exact h.nil_eq.symm
  · rintro rfl
    exact h.eq_nil

lemma map_rank_argmax_of_perm (h : xs.Perm ys) :
    (xs.argmax rank).map rank = (ys.argmax rank).map rank := by
  rcases hxs : xs.argmax rank with _ | a
  · rw [(argmax_eq_none_iff_of_perm h).mp hxs]
  have ha : a ∈ ys := h.mem_iff.mp (List.argmax_mem hxs)
  obtain ⟨b, hys⟩ : ∃ b, ys.argmax rank = some b := exists_argmax ha
  rw [hys]
  simpa using ((topmost_of_argmax hxs).perm h).rank_eq (topmost_of_argmax hys)

/-! ## Keeping the weakest value of each key -/

variable [DecidableEq κ]

/-- The weaker of two values; of two equally weak ones the first. -/
def weaker (rank : α → τ) (left right : α) : α := if rank right < rank left then right else left

/-- Merge one row into a dictionary. -/
def mergeWeaker (rank : α → τ) (target : Dict κ α) (row : κ × α) : Dict κ α :=
  target.set row.1
    (match target.get? row.1 with
    | none => row.2
    | some existing => weaker rank existing row.2)

/-- The values that the rows hold for a key, in their order. -/
def valuesAt (k : κ) (rows : List (κ × α)) : List α :=
  (rows.filter fun row => row.1 = k).map Prod.snd

@[simp] lemma mem_valuesAt {v : α} : v ∈ valuesAt k rows ↔ (k, v) ∈ rows := by
  simp only [valuesAt, List.mem_map, List.mem_filter, decide_eq_true_eq]
  constructor
  · rintro ⟨⟨k', v'⟩, ⟨hrow, rfl⟩, rfl⟩
    exact hrow
  · intro h
    exact ⟨(k, v), ⟨h, rfl⟩, rfl⟩

lemma valuesAt_concat (k : κ) (rows : List (κ × α)) (row : κ × α) :
    valuesAt k (rows ++ [row]) =
      if row.1 = k then valuesAt k rows ++ [row.2] else valuesAt k rows := by
  by_cases h : row.1 = k <;> simp [valuesAt, List.filter_append, h]

/-- Merging rows keeps for each key the first of its weakest values. -/
theorem get?_foldl_mergeWeaker (rows : List (κ × α)) (k : κ) :
    (rows.foldl (mergeWeaker rank) .empty).get? k = (valuesAt k rows).argmin rank := by
  induction rows using List.reverseRecOn with
  | nil => simp [valuesAt]
  | append_singleton rows row ih =>
    rw [List.foldl_append, List.foldl_cons, List.foldl_nil, mergeWeaker, Dict.get?_set,
      valuesAt_concat]
    by_cases hk : row.1 = k
    · subst hk
      rw [ih, if_pos rfl, if_pos rfl, List.argmin_concat]
      cases (valuesAt row.1 rows).argmin rank with
      | none => rfl
      | some existing =>
        by_cases hlt : rank row.2 < rank existing <;> simp [weaker, hlt]
    · rw [if_neg hk, ih, if_neg hk]

/-- How weak the value of a key is does not depend on the order of the rows. -/
theorem map_rank_get?_of_perm {rows' : List (κ × α)} (h : rows.Perm rows') (k : κ) :
    ((rows.foldl (mergeWeaker rank) .empty).get? k).map rank =
      ((rows'.foldl (mergeWeaker rank) .empty).get? k).map rank := by
  rw [get?_foldl_mergeWeaker, get?_foldl_mergeWeaker]
  let dual := fun a => OrderDual.toDual (rank a)
  exact @map_rank_argmax_of_perm _ _ _ dual _ _ ((h.filter _).map _)

/-- When the strongest value is the only one of its rank, a key holds it exactly when it has rows
and all of them say so. -/
theorem get?_foldl_mergeWeaker_eq_top_iff {top : α} (htop : ∀ a, rank a ≤ rank top)
    (honly : ∀ a, rank a = rank top → a = top) :
    (rows.foldl (mergeWeaker rank) .empty).get? k = some top ↔
      (k, top) ∈ rows ∧ ∀ v, (k, v) ∈ rows → v = top := by
  rw [get?_foldl_mergeWeaker]
  constructor
  · intro h
    refine ⟨mem_valuesAt.mp (List.argmin_mem h), ?_⟩
    intro v hv
    have hle : rank top ≤ rank v := List.le_of_mem_argmin (mem_valuesAt.mpr hv) h
    exact honly v (le_antisymm (htop v) hle)
  · rintro ⟨hrow, hall⟩
    have hne : (valuesAt k rows).argmin rank ≠ none := by
      intro hnone
      rw [List.argmin_eq_none] at hnone
      have hmem : top ∈ valuesAt k rows := mem_valuesAt.mpr hrow
      simp [hnone] at hmem
    obtain ⟨v, hv⟩ := Option.ne_none_iff_exists'.mp hne
    rw [hv, hall v (mem_valuesAt.mp (List.argmin_mem hv))]

end Ranking
