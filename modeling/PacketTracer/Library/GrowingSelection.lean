import Mathlib

/-!
# Selections that grow along a chain

A family of predicates selects, at every stage, some items of one list.  When the selections grow
along a chain of stages, what each stage adds to the one before it accounts for the last selection: a
selection and what is added to it are the next selection, and an item is added once if it is
selected at the last stage and not at the first, and never otherwise.
-/

namespace GrowingSelection

variable {σ α : Type*} (select : σ → α → Bool) (items : List α)

/-- What the stage `t` selects and the stage `s` does not. -/
def added (s t : σ) : List α := items.filter fun a => select t a && !select s a

/-- The additions of every stage of a chain to the one before it. -/
def additions : σ → List σ → List (List α)
  | _, [] => []
  | s, t :: rest => added select items s t :: additions t rest

/-- The last stage of a chain. -/
def lastStage : σ → List σ → σ
  | s, [] => s
  | _, t :: rest => lastStage t rest

/-- The selections grow along a chain. -/
def Grows : σ → List σ → Prop
  | _, [] => True
  | s, t :: rest => (∀ a ∈ items, select s a = true → select t a = true) ∧ Grows t rest

variable {select items} {s : σ} {rest : List σ} {a : α}

lemma Grows.select_last (h : Grows select items s rest) (ha : a ∈ items) (hs : select s a = true) :
    select (lastStage s rest) a = true := by
  induction rest generalizing s with
  | nil => exact hs
  | cons t rest ih => exact ih h.2 (h.1 a ha hs)

lemma filter_append_added {t : σ} (h : ∀ a ∈ items, select s a = true → select t a = true) :
    (items.filter (select s) ++ added select items s t).Perm (items.filter (select t)) := by
  have hsplit := List.filter_append_perm (fun a => select s a) (items.filter (select t))
  rw [List.filter_filter, List.filter_filter] at hsplit
  have hfirst : items.filter (select s) =
      items.filter fun a => select s a && select t a := by
    apply List.filter_congr
    intro a ha
    cases hs : select s a with
    | false => rfl
    | true => rw [h a ha hs]; rfl
  have hsecond : added select items s t =
      items.filter fun a => (!select s a) && select t a := by
    apply List.filter_congr
    intro a _
    exact Bool.and_comm _ _
  rw [hfirst, hsecond]
  exact hsplit

lemma countP_additions_of_select [DecidableEq α] (h : Grows select items s rest) (ha : a ∈ items)
    (hs : select s a = true) : (additions select items s rest).countP (a ∈ ·) = 0 := by
  induction rest generalizing s with
  | nil => rfl
  | cons t rest ih =>
    have hnot : a ∉ added select items s t := by simp [added, hs]
    rw [additions, List.countP_cons, ih h.2 (h.1 a ha hs)]
    simp [hnot]

/-- **An item is added once** when the last stage selects it and the first does not, and never
otherwise. -/
theorem countP_additions [DecidableEq α] (h : Grows select items s rest) (ha : a ∈ items)
    (hs : select s a = false) :
    (additions select items s rest).countP (a ∈ ·) =
      if select (lastStage s rest) a then 1 else 0 := by
  induction rest generalizing s with
  | nil => simp [additions, lastStage, hs]
  | cons t rest ih =>
    rw [additions, List.countP_cons, lastStage]
    rcases ht : select t a with _ | _
    · have hnot : a ∉ added select items s t := by simp [added, ht]
      rw [ih h.2 ht]
      simp [hnot]
    have hmem : a ∈ added select items s t := by simp [added, ha, hs, ht]
    rw [countP_additions_of_select h.2 ha ht, Grows.select_last h.2 ha ht]
    simp [hmem]

end GrowingSelection
