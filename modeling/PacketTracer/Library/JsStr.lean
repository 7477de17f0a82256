import PacketTracer.Library.TerminalText

/-!
# Strings of JavaScript

A string of JavaScript is the list of its UTF-16 code units.  This file has what the regular
expressions and the methods of a script read of them, with the tables of ECMAScript.
-/

namespace JsStrs

/-- A string as the list of its code units. -/
abbrev Units := List ℕ

/-- The code units of one character: one in the basic plane, else a surrogate pair. -/
def unitsOf (c : Char) : Units :=
  if c.toNat < 0x10000 then [c.toNat]
  else [0xD800 + (c.toNat - 0x10000) / 0x400, 0xDC00 + (c.toNat - 0x10000) % 0x400]

/-- The string with the characters of a text. -/
def codeUnits (s : List Char) : Units := s.flatMap unitsOf

/-! ## Classes -/

/-- `\s`. -/
def isSpace (u : ℕ) : Bool :=
  (9 ≤ u && u ≤ 13) || u = 0x20 || u = 0xA0 || u = 0x1680 || (0x2000 ≤ u && u ≤ 0x200A) ||
    u = 0x2028 || u = 0x2029 || u = 0x202F || u = 0x205F || u = 0x3000 || u = 0xFEFF

/-- A range of a character class, such as `[A-Z]`. -/
def inRange (low high : Char) (u : ℕ) : Bool := low.toNat ≤ u && u ≤ high.toNat

/-- `\d`. -/
def isDigit (u : ℕ) : Bool := inRange '0' '9' u

/-! ## Methods -/

/-- `.replace(/^\s+|\s+$/g, '')`. -/
def trim (s : Units) : Units := TerminalTexts.trim isSpace s

/-- Match one code unit of a class. -/
def eatOne (p : ℕ → Bool) : Units → Option Units
  | [] => none
  | u :: rest => if p u then some rest else none

/-- Match one given character. -/
def eat (c : Char) : Units → Option Units := eatOne (· = c.toNat)

/-- Match a run of code units of a class, as long as possible and not empty. -/
def eatSome (p : ℕ → Bool) (s : Units) : Option Units := (eatOne p s).map (List.dropWhile p)

/-! ## Lemmas -/

variable {c : Char}

end JsStrs
