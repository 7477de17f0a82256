import PacketTracer.Library.TerminalText

/-!
# Patterns that read a line in one way

A regular expression for a whole line has one match at most when every repetition in it is of one
class of characters and what follows the repetition is outside of that class.  `fullmatch` reads
such a pattern from left to right, a repetition as long as possible, and returns the groups.

`dropMatches` deletes the matches of a pattern from a text.  When the pattern never looks past a
separator, it deletes from what stands before a separator and from what stands behind it
(`dropMatches_append`).
-/

namespace LinePatterns

variable {α : Type*}

/-! ## Patterns -/

/-- A part of a pattern. -/
inductive Part (α : Type*)
  /-- One character of a class. -/
  | one (p : α → Bool)
  /-- A run of characters of a class, possibly empty. -/
  | run (p : α → Bool)
  /-- A character of a class or nothing. -/
  | opt (p : α → Bool)
  /-- A group: a run of characters of a class, not empty. -/
  | field (p : α → Bool)
  /-- A group: the rest of the line, with an edge character at both ends. -/
  | rest (inner edge : α → Bool)

/-- The groups of a pattern that matches all of a line. -/
def fullmatch : List (Part α) → List α → Option (List (List α))
  | [], [] => some []
  | [], _ :: _ => none
  | .one _ :: _, [] => none
  | .one p :: parts, c :: s => if p c then fullmatch parts s else none
  | .run p :: parts, s => fullmatch parts (s.dropWhile p)
  | .opt p :: parts, s => if s.head?.any p then fullmatch parts s.tail else fullmatch parts s
  | .field p :: parts, s =>
    if s.takeWhile p = [] then none
    else (fullmatch parts (s.dropWhile p)).map (s.takeWhile p :: ·)
  | .rest inner edge :: parts, s =>
    if s.all inner && s.head?.any edge && s.getLast?.any edge then
      (fullmatch parts []).map (s :: ·)
    else none

/-- The parts that read a given text, each of its characters up to an equivalence. -/
def literal (same : α → α → Bool) (s : List α) : List (Part α) := s.map fun c => .one (same c)

/-- A nonempty run of characters of a class. -/
def someOf (p : α → Bool) : List (Part α) := [.one p, .run p]

/-- Nothing of a class stands in front. -/
def StartsOutside (p : α → Bool) (s : List α) : Prop := s.head?.any p = false

instance (p : α → Bool) (s : List α) : Decidable (StartsOutside p s) :=
  inferInstanceAs (Decidable (_ = _))

@[simp] lemma startsOutside_nil (p : α → Bool) : StartsOutside p [] := rfl

@[simp] lemma startsOutside_cons {p : α → Bool} {c : α} {s : List α} :
    StartsOutside p (c :: s) ↔ p c = false := Iff.rfl

variable {p : α → Bool} {s x : List α}

lemma StartsOutside.append {t : List α} (hs : StartsOutside p s) (h : s ≠ []) :
    StartsOutside p (s ++ t) := by
  cases s with
  | nil => exact absurd rfl h
  | cons c s => exact hs

/-- Nothing of a class stands at the end. -/
def EndsOutside (p : α → Bool) (s : List α) : Prop := s.getLast?.any p = false

lemma EndsOutside.append (hs : EndsOutside p s) (h : s ≠ []) (t : List α) :
    EndsOutside p (t ++ s) := by
  rwa [EndsOutside, List.getLast?_append_of_ne_nil t h]

lemma startsOutside_iff : StartsOutside p s ↔ s.dropWhile p = s := by
  rw [List.dropWhile_eq_self_iff]
  cases s <;> simp [StartsOutside]

lemma endsOutside_iff : EndsOutside p s ↔ s.rdropWhile p = s := by
  rw [List.rdropWhile_eq_self_iff]
  induction s using List.reverseRecOn <;> simp [EndsOutside]

lemma startsOutside_of_forall (h : ∀ c ∈ s, p c = false) : StartsOutside p s := by
  cases s with
  | nil => rfl
  | cons c s => exact h c List.mem_cons_self

lemma endsOutside_of_forall (h : ∀ c ∈ s, p c = false) : EndsOutside p s := by
  induction s using List.reverseRecOn with
  | nil => rfl
  | append_singleton s c _ =>
    rw [EndsOutside, List.getLast?_concat]
    exact h c (by simp)

lemma dropWhile_append_of_startsOutside (hx : ∀ c ∈ x, p c = true) (hs : StartsOutside p s) :
    (x ++ s).dropWhile p = s := by
  rw [List.dropWhile_append_of_pos hx, startsOutside_iff.mp hs]

lemma takeWhile_append_of_startsOutside (hx : ∀ c ∈ x, p c = true) (hs : StartsOutside p s) :
    (x ++ s).takeWhile p = x := by
  rw [List.takeWhile_append_of_pos hx]
  cases s with
  | nil => exact List.append_nil x
  | cons c s => rw [List.takeWhile_cons_of_neg (by simpa using hs), List.append_nil]

@[simp] lemma fullmatch_nil : fullmatch ([] : List (Part α)) [] = some [] := rfl

lemma fullmatch_one_cons {c : α} (parts : List (Part α)) (s : List α) (h : p c = true) :
    fullmatch (.one p :: parts) (c :: s) = fullmatch parts s := by
  rw [fullmatch, if_pos h]

lemma fullmatch_one_eq_none (parts : List (Part α)) (h : StartsOutside p s) :
    fullmatch (.one p :: parts) s = none := by
  cases s with
  | nil => rfl
  | cons c s => rw [fullmatch, if_neg (by simpa using h)]

lemma fullmatch_run_append (parts : List (Part α)) (hx : ∀ c ∈ x, p c = true)
    (hs : StartsOutside p s) : fullmatch (.run p :: parts) (x ++ s) = fullmatch parts s := by
  rw [fullmatch, dropWhile_append_of_startsOutside hx hs]

lemma fullmatch_someOf_append (parts : List (Part α)) (hne : x ≠ []) (hx : ∀ c ∈ x, p c = true)
    (hs : StartsOutside p s) : fullmatch (someOf p ++ parts) (x ++ s) = fullmatch parts s := by
  cases x with
  | nil => exact absurd rfl hne
  | cons c x =>
    obtain ⟨hc, hx⟩ := List.forall_mem_cons.mp hx
    exact (fullmatch_one_cons _ _ hc).trans (fullmatch_run_append parts hx hs)

lemma fullmatch_field_append (parts : List (Part α)) (hne : x ≠ []) (hx : ∀ c ∈ x, p c = true)
    (hs : StartsOutside p s) :
    fullmatch (.field p :: parts) (x ++ s) = (fullmatch parts s).map (x :: ·) := by
  rw [fullmatch, takeWhile_append_of_startsOutside hx hs, if_neg hne,
    dropWhile_append_of_startsOutside hx hs]

lemma fullmatch_literal_append {same : α → α → Bool} (hsame : ∀ c, same c c = true)
    (parts : List (Part α)) (x s : List α) :
    fullmatch (literal same x ++ parts) (x ++ s) = fullmatch parts s := by
  induction x with
  | nil => rfl
  | cons c x ih => exact (fullmatch_one_cons _ _ (hsame c)).trans ih

lemma fullmatch_rest {inner edge : α → Bool} (hinner : ∀ c ∈ s, inner c = true)
    (hhead : s.head?.any edge = true) (hlast : s.getLast?.any edge = true) :
    fullmatch [.rest inner edge] s = some [s] := by
  have hall : s.all inner = true := List.all_eq_true.mpr hinner
  rw [fullmatch, if_pos (by rw [hall, hhead, hlast]; rfl)]
  rfl

/-! ## Deleting matches -/

/-- Delete the matches of a pattern, given by the length of its match at the front of a text; the
number counts the characters of a match that are still to be dropped. -/
def dropMatches (matchLength : List α → ℕ) : ℕ → List α → List α
  | _, [] => []
  | skip + 1, _ :: rest => dropMatches matchLength skip rest
  | 0, c :: rest =>
    match matchLength (c :: rest) with
    | n + 1 => dropMatches matchLength n rest
    | 0 => c :: dropMatches matchLength 0 rest

section DropMatches

variable {matchLength : List α → ℕ} {c : α} {rest : List α}

lemma dropMatches_cons (h : matchLength (c :: rest) = 0) :
    dropMatches matchLength 0 (c :: rest) = c :: dropMatches matchLength 0 rest := by
  rw [dropMatches, h]

lemma dropMatches_of_match {n : ℕ} (h : matchLength (c :: rest) = n + 1) :
    dropMatches matchLength 0 (c :: rest) = dropMatches matchLength n rest := by
  rw [dropMatches, h]

lemma dropMatches_append_of_notMem {start : α} (hstart : ∀ c rest, c ≠ start →
    matchLength (c :: rest) = 0) {x : List α} (hx : start ∉ x) (y : List α) :
    dropMatches matchLength 0 (x ++ y) = x ++ dropMatches matchLength 0 y := by
  induction x with
  | nil => rfl
  | cons c x ih =>
    obtain ⟨hc, hx⟩ := not_or.mp (List.mem_cons.not.mp hx)
    rw [List.cons_append, dropMatches_cons (hstart c _ (Ne.symm hc)), ih hx, List.cons_append]

/-- A pattern that never looks past a separator deletes on both sides of it. -/
lemma dropMatches_append {sep : α} (hsep : ∀ y, matchLength (sep :: y) = 0)
    (hlocal : ∀ x y, matchLength (x ++ sep :: y) = matchLength x)
    (hlength : ∀ x, matchLength x ≤ x.length) (x y : List α) {skip : ℕ}
    (hskip : skip ≤ x.length) :
    dropMatches matchLength skip (x ++ sep :: y) =
      dropMatches matchLength skip x ++ sep :: dropMatches matchLength 0 y := by
  induction x generalizing skip with
  | nil =>
    obtain rfl : skip = 0 := Nat.le_zero.mp hskip
    rw [List.nil_append, dropMatches_cons (hsep y)]
    rfl
  | cons c x ih =>
    cases skip with
    | succ skip => exact ih (Nat.le_of_succ_le_succ hskip)
    | zero =>
      have hfront : matchLength (c :: (x ++ sep :: y)) = matchLength (c :: x) := hlocal (c :: x) y
      cases hn : matchLength (c :: x) with
      | zero =>
        rw [List.cons_append, dropMatches_cons (hfront.trans hn), dropMatches_cons hn,
          ih (Nat.zero_le _), List.cons_append]
      | succ n =>
        have hbound : n ≤ x.length := by
          have := hlength (c :: x)
          rw [hn, List.length_cons] at this
          omega
        rw [List.cons_append, dropMatches_of_match (hfront.trans hn), dropMatches_of_match hn,
          ih hbound]

end DropMatches

end LinePatterns
