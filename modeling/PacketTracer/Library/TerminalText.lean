import Mathlib

/-!
# Texts of a terminal

What a reader of a terminal does with its text, over an arbitrary type of characters: backspaces
are applied, the text is cut into lines, blanks at the ends of a line are dropped, the last
occurrence of a marker is looked up, and the end of the text is compared with a prompt.

Backspaces never reach over the end of a line, so a text can be read from any line on.
-/

namespace TerminalTexts

variable {α β : Type*}

/-! ## Induction over lines -/

section Backspaces

variable [DecidableEq α] {back nl : α}

/-- One character after the characters that are shown so far, the last one first: a backspace takes
the last one away unless it ends a line. -/
def backspaceStep (back nl : α) (out : List α) (c : α) : List α :=
  if c = back then
    match out with
    | [] => []
    | top :: below => if top = nl then out else below
  else c :: out

/-- The text after its backspaces. -/
def applyBackspaces (back nl : α) (s : List α) : List α :=
  (s.foldl (backspaceStep back nl) []).reverse

variable {s : List α} {c cr : α}

lemma applyBackspaces_eq_self (h : back ∉ s) : applyBackspaces back nl s = s := by
  have hpush : ∀ out, s.foldl (backspaceStep back nl) out = s.reverse ++ out := by
    induction s with
    | nil => exact fun out => rfl
    | cons c s ih =>
      intro out
      have hc : c ≠ back := fun heq => h (heq ▸ List.mem_cons_self)
      have hstep : backspaceStep back nl out c = c :: out := if_neg hc
      rw [List.foldl_cons, hstep, ih fun hmem => h (List.mem_cons_of_mem c hmem)]
      simp
  rw [applyBackspaces, hpush, List.append_nil, List.reverse_reverse]

end Backspaces

/-! ## Lines without the blanks at their ends -/

section Trim

variable {space : α → Bool}

/-- A line without the blanks at its ends. -/
def trim (space : α → Bool) (line : List α) : List α := (line.dropWhile space).rdropWhile space

/-- The lines that show something, without the blanks at their ends. -/
def shownLines (space : α → Bool) (lines : List (List α)) : List (List α) :=
  (lines.map (trim space)).filter fun line => !line.isEmpty

@[simp]
lemma shownLines_append (lines lines' : List (List α)) :
    shownLines space (lines ++ lines') = shownLines space lines ++ shownLines space lines' := by
  simp [shownLines]

lemma shownLines_cons (line : List α) (lines : List (List α)) :
    shownLines space (line :: lines) = shownLines space [line] ++ shownLines space lines := by
  rw [← shownLines_append, List.singleton_append]

lemma shownLines_singleton (line : List α) :
    shownLines space [line] = if trim space line = [] then [] else [trim space line] := by
  by_cases h : trim space line = []
  · simp [shownLines, h]
  · simp [shownLines, h]

variable {line : List α}

variable {c : α} {f : α → β}

lemma trim_cons_of_space (h : space c = true) : trim space (c :: line) = trim space line := by
  rw [trim, List.dropWhile_cons_of_pos h, trim]

lemma trim_concat_of_space (h : space c = true) : trim space (line ++ [c]) = trim space line := by
  unfold trim
  by_cases hline : ∀ d ∈ line, space d = true
  · have hconcat : ∀ d ∈ line ++ [c], space d = true := by
      rw [List.forall_mem_append]
      exact ⟨hline, List.forall_mem_singleton.mpr h⟩
    rw [List.dropWhile_eq_nil_iff.mpr hline, List.dropWhile_eq_nil_iff.mpr hconcat]
  · have hne : line.dropWhile space ≠ [] := by rwa [ne_eq, List.dropWhile_eq_nil_iff]
    rw [List.dropWhile_append, if_neg (by simpa using hne), List.rdropWhile_concat_pos _ _ _ h]

lemma trim_pad {x y : List α} (hx : ∀ c ∈ x, space c = true) (hy : ∀ c ∈ y, space c = true)
    (line : List α) : trim space (x ++ line ++ y) = trim space line := by
  induction y using List.reverseRecOn with
  | nil =>
    induction x with
    | nil => simp
    | cons c x ih =>
      rw [List.cons_append, List.cons_append, trim_cons_of_space (hx c List.mem_cons_self)]
      exact ih fun d hd => hx d (List.mem_cons_of_mem _ hd)
  | append_singleton y c ih =>
    rw [← List.append_assoc, trim_concat_of_space (hy c (by simp))]
    exact ih fun d hd => hy d (by simp [hd])

lemma dropWhile_trim (line : List α) : (trim space line).dropWhile space = trim space line := by
  unfold trim
  rcases hdrop : line.dropWhile space with _ | ⟨c, rest⟩
  · simp
  have hc : space c = false := by
    have hnot := List.dropWhile_get_zero_not space line (by rw [hdrop]; simp)
    simpa [hdrop] using hnot
  have hne : (c :: rest).rdropWhile space ≠ [] := by
    rw [ne_eq, List.rdropWhile_eq_nil_iff]
    intro hall
    simp [hc] at hall
  obtain ⟨t, ht⟩ := List.rdropWhile_prefix space (c :: rest)
  rcases htrim : (c :: rest).rdropWhile space with _ | ⟨d, rest'⟩
  · exact absurd htrim hne
  rw [htrim, List.cons_append] at ht
  obtain rfl : d = c := (List.cons.inj ht).1
  exact List.dropWhile_cons_of_neg (by simp [hc])

lemma dropWhile_map_of_eq {p : β → Bool} {q : α → Bool} {s : List α} (h : ∀ c ∈ s, p (f c) = q c) :
    (s.map f).dropWhile p = (s.dropWhile q).map f := by
  induction s with
  | nil => rfl
  | cons c s ih =>
    have hc := h c List.mem_cons_self
    have hrest := ih fun d hd => h d (List.mem_cons_of_mem _ hd)
    cases hclass : q c with
    | true => simp [hc, hclass, hrest]
    | false => simp [hc, hclass]

end Trim

/-! ## The last occurrence of a marker -/

section Marker

variable [DecidableEq α] {marker : List α} {c : α}

/-- What follows the last occurrence of the marker. -/
def afterLast (marker : List α) : List α → Option (List α)
  | [] => if marker = [] then some [] else none
  | c :: s =>
    match afterLast marker s with
    | some rest => some rest
    | none => if marker.isPrefixOf (c :: s) then some ((c :: s).drop marker.length) else none

lemma isPrefixOf_append (hc : c ∉ marker) (x y : List α) :
    marker.isPrefixOf (x ++ c :: y) = marker.isPrefixOf x := by
  induction marker generalizing x with
  | nil => simp
  | cons d marker ih =>
    have hmarker : c ∉ marker := fun h => hc (List.mem_cons_of_mem _ h)
    have hd : (d == c) = false := beq_false_of_ne fun h => hc (h ▸ List.mem_cons_self)
    cases x with
    | nil => simp [List.isPrefixOf, hd]
    | cons a x => simp [List.isPrefixOf, ih hmarker]

/-- A marker does not reach over a character that it lacks. -/
lemma afterLast_append (hmarker : marker ≠ []) (hc : c ∉ marker) (x y : List α) :
    afterLast marker (x ++ c :: y) =
      match afterLast marker y with
      | some rest => some rest
      | none => (afterLast marker x).map (· ++ c :: y) := by
  induction x with
  | nil =>
    have hfirst : marker.isPrefixOf (c :: y) = false := by
      rw [← List.nil_append (c :: y), isPrefixOf_append hc]
      cases marker with
      | nil => exact absurd rfl hmarker
      | cons d marker => rfl
    simp only [List.nil_append, afterLast, hfirst]
    cases afterLast marker y <;> simp [hmarker]
  | cons a x ih =>
    rw [List.cons_append, afterLast, ih, afterLast]
    cases afterLast marker y with
    | some rest => rfl
    | none =>
      cases afterLast marker x with
      | some rest => rfl
      | none =>
        have hcut := isPrefixOf_append hc (a :: x) y
        rw [List.cons_append] at hcut
        simp only [Option.map_none, hcut]
        split_ifs with hfound
        · have hlength := (List.isPrefixOf_iff_prefix.mp hfound).length_le
          rw [← List.cons_append, List.drop_append_of_le_length hlength]
          rfl
        · rfl

/-- Whether a text stopped at the marker: what follows it is quiet. -/
def stopped (marker : List α) (quiet : List α → Bool) (s : List α) : Bool :=
  (afterLast marker s).any quiet

lemma stopped_append {quiet : List α → Bool} (hmarker : marker ≠ []) (hc : c ∉ marker)
    (hquiet : ∀ r s, quiet (r ++ c :: s) = (quiet r && quiet s)) (x y : List α) :
    stopped marker quiet (x ++ c :: y) =
      if (afterLast marker y).isSome then stopped marker quiet y
      else stopped marker quiet x && quiet y := by
  unfold stopped
  rw [afterLast_append hmarker hc]
  cases afterLast marker y with
  | some rest => rfl
  | none => cases afterLast marker x <;> simp [hquiet]

end Marker

/-! ## Prompts -/

section Prompts

variable {space stop : α → Bool}

variable {p : α → Bool} {t rest : List α}

end Prompts

section LastLine

variable {space stop : α → Bool} {notice : List α → Bool}

end LastLine

end TerminalTexts
