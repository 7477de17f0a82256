import PacketTracer.Library.JsStr

/-!
# Texts inside a script

`js_escape` of `shared/utils.py` prepares a text for a place between the quotes of a JavaScript
string.  Its replacements come one after another, and the backslash comes first, so no replacement
touches what an earlier one wrote.  A text is the list of its code points here, lone surrogates
included.
-/

namespace PacketTracer

open JsStrs

namespace JsEscape

/-- A text as the list of its code points. -/
abbrev Points := List ℕ

/-- The code points of a literal of the source. -/
def points (s : String) : Points := s.toList.map Char.toNat

/-- `str.replace` of one character. -/
def replace (old : Char) (new : String) (s : Points) : Points :=
  s.flatMap fun c => if c = old.toNat then points new else [c]

/-- `js_escape`. -/
def jsEscape (s : Points) : Points :=
  (replace '\u2029' "\\u2029" ∘ replace '\u2028' "\\u2028" ∘ replace '\r' "\\r" ∘
    replace '\n' "\\n" ∘ replace '\'' "\\'" ∘ replace '"' "\\\"" ∘ replace '\\' "\\\\") s

/-! ## Reading a string literal -/

/-- The quotes of a string. -/
inductive Quote
  | single
  | double

def Quote.point : Quote → ℕ
  | single => '\''.toNat
  | double => '"'.toNat

/-- `LineTerminator`. -/
def isLineTerminator (c : ℕ) : Bool := c = 0x0A || c = 0x0D || c = 0x2028 || c = 0x2029

/-- The code units of a code point. -/
def unitsOfPoint (c : ℕ) : Units :=
  if c < 0x10000 then [c] else [0xD800 + (c - 0x10000) / 0x400, 0xDC00 + (c - 0x10000) % 0x400]

/-- The value of `SingleEscapeCharacter`. -/
def singleEscape (c : ℕ) : Option ℕ :=
  ((points "'\"\\bfnrtv").zip [0x27, 0x22, 0x5C, 0x08, 0x0C, 0x0A, 0x0D, 0x09, 0x0B]).lookup c

/-- The value of a digit of `Hex4Digits`. -/
def hexValue (c : ℕ) : Option ℕ := ((points "0123456789abcdefABCDEF").zip
  ((List.range 16) ++ [10, 11, 12, 13, 14, 15])).lookup c

/-- The value of a string up to its closing quote, and the source after it.  Line continuations and
the escape sequences other than the single characters and `\uXXXX` are not read. -/
def readString (quote : Quote) : Points → Option (Units × Points)
  | 0x5C :: 0x75 :: a :: b :: c :: d :: rest => do
    let unit := ((((← hexValue a) * 16 + (← hexValue b)) * 16) + (← hexValue c)) * 16 +
      (← hexValue d)
    let (value, after) ← readString quote rest
    return (unit :: value, after)
  | 0x5C :: c :: rest => do
    let unit ← singleEscape c
    let (value, after) ← readString quote rest
    return (unit :: value, after)
  | c :: rest =>
    if c = quote.point then some ([], rest)
    else if c = 0x5C || isLineTerminator c then none
    else do
      let (value, after) ← readString quote rest
      return (unitsOfPoint c ++ value, after)
  | [] => none

/-- `StringLiteral` at the start of a source. -/
def stringLiteral (quote : Quote) : Points → Option (Units × Points)
  | c :: rest => if c = quote.point then readString quote rest else none
  | [] => none

/-! ## Escaped texts -/

lemma jsEscape_append (s t : Points) : jsEscape (s ++ t) = jsEscape s ++ jsEscape t := by
  simp only [jsEscape, Function.comp_apply, replace, List.flatMap_append]

/-- A character that no replacement names ends no string and breaks none. -/
lemma jsEscape_singleton {c : ℕ} (hc : c ∉ points "\\\"'\n\r\u2028\u2029") :
    jsEscape [c] = [c] ∧ c ≠ 0x5C ∧ isLineTerminator c = false ∧ ∀ q : Quote, c ≠ q.point := by
  have hne : c ≠ 0x5C ∧ c ≠ 0x22 ∧ c ≠ 0x27 ∧ c ≠ 0x0A ∧ c ≠ 0x0D ∧ c ≠ 0x2028 ∧
      c ≠ 0x2029 := by
    simpa [points] using hc
  obtain ⟨hback, hdouble, hsingle, hline, hreturn, hseparator, hparagraph⟩ := hne
  refine ⟨?_, hback, by simp [isLineTerminator, *], ?_⟩
  · simp [jsEscape, replace, *]
  · rintro (_ | _)
    · exact hsingle
    · exact hdouble

/-- One escaped character in front of a string is read back as that character. -/
lemma readString_jsEscape_singleton (quote : Quote) (c : ℕ) (after : Points) :
    readString quote (jsEscape [c] ++ after) =
      (readString quote after).map fun read => (unitsOfPoint c ++ read.1, read.2) := by
  by_cases hc : c ∈ points "\\\"'\n\r\u2028\u2029"
  · have hcases : c = 0x5C ∨ c = 0x22 ∨ c = 0x27 ∨ c = 0x0A ∨ c = 0x0D ∨ c = 0x2028 ∨
        c = 0x2029 := by
      simpa [points] using hc
    rcases hcases with rfl | rfl | rfl | rfl | rfl | rfl | rfl <;>
      cases hafter : readString quote after <;>
      simp [jsEscape, replace, points, readString, singleEscape, hexValue, unitsOfPoint, hafter,
        List.lookup, List.range, List.range.loop]
  · obtain ⟨hescape, hback, hline, hquote⟩ := jsEscape_singleton hc
    rw [hescape, List.singleton_append]
    cases hafter : readString quote after <;>
      simp [readString, hback, hline, hquote quote, hafter]

theorem stringLiteral_jsEscape (quote : Quote) (s rest : Points) :
    stringLiteral quote (quote.point :: jsEscape s ++ quote.point :: rest) =
      some (s.flatMap unitsOfPoint, rest) := by
  have hread : readString quote (jsEscape s ++ quote.point :: rest) =
      some (s.flatMap unitsOfPoint, rest) := by
    induction s with
    | nil => cases quote <;> rfl
    | cons c s ih =>
      rw [← List.singleton_append, jsEscape_append, List.append_assoc,
        readString_jsEscape_singleton, ih]
      rfl
  simpa [stringLiteral] using hread

end JsEscape

end PacketTracer
