import Mathlib

/-!
# Methods of Python strings

A text is the list of its characters.  This file has the `str` methods and the regular expression
classes that read a text character by character, with the Unicode tables of Python 3.11.
-/

namespace PyStrs

/-- A text as the list of its characters. -/
abbrev Text := List Char

/-- What holds of the characters of a text is decided over the text, never over all characters. -/
instance (s : Text) (p : Char → Prop) [DecidablePred p] : Decidable (∀ c ∈ s, p c) :=
  List.decidableBAll p s

instance (s : Text) (p : Char → Prop) [DecidablePred p] : Decidable (∃ c ∈ s, p c) :=
  List.decidableBEx p s

/-! ## Character classes -/

/-- `str.isspace` of one character; `\s` of a regular expression. -/
def isSpace (c : Char) : Bool :=
  let n := c.toNat
  (9 ≤ n && n ≤ 13) || (28 ≤ n && n ≤ 32) || n = 0x85 || n = 0xA0 || n = 0x1680 ||
    (0x2000 ≤ n && n ≤ 0x200A) || n = 0x2028 || n = 0x2029 || n = 0x202F || n = 0x205F || n = 0x3000

/-- The characters at which `str.splitlines` ends a line. -/
def isLineBoundary (c : Char) : Bool :=
  let n := c.toNat
  (10 ≤ n && n ≤ 13) || (28 ≤ n && n ≤ 30) || n = 0x85 || n = 0x2028 || n = 0x2029

/-- The zeros of the decimal digits; the other nine follow each of them. -/
def decimalZeros : List ℕ :=
  [0x30, 0x660, 0x6F0, 0x7C0, 0x966, 0x9E6, 0xA66, 0xAE6, 0xB66, 0xBE6, 0xC66, 0xCE6, 0xD66, 0xDE6,
   0xE50, 0xED0, 0xF20, 0x1040, 0x1090, 0x17E0, 0x1810, 0x1946, 0x19D0, 0x1A80, 0x1A90, 0x1B50,
   0x1BB0, 0x1C40, 0x1C50, 0xA620, 0xA8D0, 0xA900, 0xA9D0, 0xA9F0, 0xAA50, 0xABF0, 0xFF10, 0x104A0,
   0x10D30, 0x11066, 0x110F0, 0x11136, 0x111D0, 0x112F0, 0x11450, 0x114D0, 0x11650, 0x116C0,
   0x11730, 0x118E0, 0x11950, 0x11C50, 0x11D50, 0x11DA0, 0x16A60, 0x16AC0, 0x16B50, 0x1D7CE,
   0x1D7D8, 0x1D7E2, 0x1D7EC, 0x1D7F6, 0x1E140, 0x1E2F0, 0x1E950, 0x1FBF0]

/-- `\d` of a regular expression over `str`. -/
def isDecimal (c : Char) : Bool :=
  decimalZeros.any fun zero => zero ≤ c.toNat && c.toNat < zero + 10

/-- `int` of one decimal digit. -/
def decimalValue (c : Char) : ℕ :=
  match decimalZeros.find? fun first => first ≤ c.toNat && c.toNat < first + 10 with
  | some first => c.toNat - first
  | none => 0

/-- `int` of a text of decimal digits. -/
def int (s : Text) : ℕ := s.foldl (fun n c => 10 * n + decimalValue c) 0

/-- The letters outside of ASCII that `re.IGNORECASE` takes for a letter of ASCII. -/
def foldedLetters : List (Char × Char) :=
  [('\u0130', 'i'), ('\u0131', 'i'), ('\u017f', 's'), ('\u212a', 'k')]

/-- A class of ASCII characters under `re.IGNORECASE`. -/
def ignoringCase (p : Char → Bool) (c : Char) : Bool :=
  p c || p c.toLower || p c.toUpper ||
    foldedLetters.any fun folded => folded.1 = c && (p folded.2 || p folded.2.toUpper)

/-! ## Stripping and splitting -/

/-- `str.rstrip`. -/
def rstrip (s : Text) : Text := s.rdropWhile isSpace

/-- `str.strip`. -/
def strip (s : Text) : Text := rstrip (s.dropWhile isSpace)

/-- `str.splitlines` with the characters of the current line already read. -/
def splitlinesFrom : Text → Text → List Text
  | line, [] => if line = [] then [] else [line]
  | line, '\r' :: '\n' :: rest => line :: splitlinesFrom [] rest
  | line, c :: rest =>
    if isLineBoundary c then line :: splitlinesFrom [] rest else splitlinesFrom (line ++ [c]) rest

/-- `str.splitlines`. -/
def splitlines (s : Text) : List Text := splitlinesFrom [] s

/-- The last place at which the marker occurs, searched from the given place down. -/
def rfindFrom (marker s : Text) : ℕ → Option ℕ
  | 0 => if marker.isPrefixOf s then some 0 else none
  | n + 1 => if marker.isPrefixOf (s.drop (n + 1)) then some (n + 1) else rfindFrom marker s n

/-- `str.rfind`; `none` is `-1`. -/
def rfind (marker s : Text) : Option ℕ := rfindFrom marker s s.length

/-- `s[-n:]`; all of the text for `n = 0`. -/
def lastChars (n : ℕ) (s : Text) : Text := if n = 0 then s else s.drop (s.length - n)

/-! ## Matching -/

/-- Match one given character. -/
def eat (c : Char) : Text → Option Text
  | [] => none
  | d :: rest => if d = c then some rest else none

/-- Match one character of a class. -/
def eatOne (p : Char → Bool) : Text → Option Text
  | [] => none
  | d :: rest => if p d then some rest else none

/-- Match a run of characters of a class, as long as possible and not empty. -/
def eatSome (p : Char → Bool) (s : Text) : Option Text := (eatOne p s).map (List.dropWhile p)

/-! ## Lemmas -/

variable {s : Text} {c : Char} {marker : Text}

lemma rstrip_concat (h : isSpace c = false) : rstrip (s ++ [c]) = s ++ [c] :=
  List.rdropWhile_concat_neg _ _ _ (by simp [h])

lemma isPrefixOf_of_rfindFrom {n i : ℕ} (h : rfindFrom marker s n = some i) :
    marker.isPrefixOf (s.drop i) = true := by
  induction n with
  | zero =>
    unfold rfindFrom at h
    split_ifs at h with hmarker
    obtain rfl : 0 = i := Option.some.inj h
    exact hmarker
  | succ n ih =>
    unfold rfindFrom at h
    split_ifs at h with hmarker
    · obtain rfl : n + 1 = i := Option.some.inj h
      exact hmarker
    · exact ih h

lemma rfind_eq_none (h : c ∉ s) : rfind (c :: marker) s = none := by
  rcases hfound : rfind (c :: marker) s with _ | i
  · rfl
  have hmarker := isPrefixOf_of_rfindFrom hfound
  have hmem : c ∈ s.drop i := (List.isPrefixOf_iff_prefix.mp hmarker).subset List.mem_cons_self
  exact absurd (List.mem_of_mem_drop hmem) h

end PyStrs
