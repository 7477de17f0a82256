import PacketTracer.Infrastructure.CommandDispatch
import PacketTracer.Library.JsStr

/-!
# How a terminal is read

`PAGER_GUARD_JS` and `IDLE_GUARD_JS` of `command_dispatch.py` read the same text as
`has_active_pager` and `terminal_is_idle` with another regular expression engine, another way of
cutting lines and another idea of a carriage return.  Both readings come down to the lines that show
something, and can start at any line: no control sequence or backspace reaches over a line feed.
-/

namespace PacketTracer

open TerminalTexts

namespace GuardScript

open JsStrs

/-- The code unit of a character of the script. -/
abbrev unit (c : Char) : ℕ := c.toNat

/-! ## The text that is shown -/

/-- The number of code units of a control sequence after its introducer: parameters `[0-?]*`,
intermediates from the blank to the slash, and a final one of `[@-~]`. -/
def csiBodyLength (s : Units) : Option ℕ :=
  let parameters := s.takeWhile (inRange '0' '?')
  let rest := s.drop parameters.length
  let intermediates := rest.takeWhile (inRange ' ' '/')
  match rest.drop intermediates.length with
  | [] => none
  | final :: _ =>
    if inRange '@' '~' final then some (parameters.length + intermediates.length + 1) else none

/-- `__clean`: the string without its control sequences; the first argument counts the code units
of a match that are still to be dropped. -/
def dropCsi : ℕ → Units → Units
  | _, [] => []
  | skip + 1, _ :: rest => dropCsi skip rest
  | 0, u :: rest =>
    match rest with
    | v :: body =>
      if u = unit '\x1b' ∧ v = unit '[' then
        match csiBodyLength body with
        | some length => dropCsi (length + 1) rest
        | none => u :: dropCsi 0 rest
      else u :: dropCsi 0 rest
    | [] => [u]

/-- `__o.join('')`. -/
def erased (before : Units) : Units :=
  applyBackspaces (unit '\x08') (unit '\n') (dropCsi 0 before)

/-- `[ \t\r\n]`. -/
def isTrailing (u : ℕ) : Bool :=
  u = unit ' ' || u = unit '\t' || u = unit '\r' || u = unit '\n'

/-- `__r`. -/
def shown (before : Units) : Units := (erased before).rdropWhile isTrailing

/-! ## The pager guard -/

/-- `'--More--'`. -/
def pagerMarker : Units := codeUnits ['-', '-', 'M', 'o', 'r', 'e', '-', '-']

/-- `[A-Z]`. -/
def isUpper (u : ℕ) : Bool := inRange 'A' 'Z' u

/-- `[A-Z0-9_]`. -/
def isFacilityUnit (u : ℕ) : Bool := isUpper u || inRange '0' '9' u || u = unit '_'

/-- `/^%[A-Z][A-Z0-9_]*-\d+-[A-Z0-9_]+\s*:/.test(line)`. -/
def isSyslog (line : Units) : Bool :=
  Option.isSome do
    let rest ← eat '%' line
    let rest ← eatOne isUpper rest
    let rest ← eat '-' (rest.dropWhile isFacilityUnit)
    let rest ← eatSome isDigit rest
    let rest ← eat '-' rest
    let rest ← eatSome isFacilityUnit rest
    eat ':' (rest.dropWhile isSpace)

/-- `[A-Za-z]`. -/
def isLetter (u : ℕ) : Bool := inRange 'A' 'Z' u || inRange 'a' 'z' u

/-- `[>#]`. -/
def isPromptEnd (u : ℕ) : Bool := u = unit '>' || u = unit '#'

end GuardScript

namespace CommandDispatch

open PyStrs

/-! ## The lines that are read -/

/-- The lines of a text that show something, stripped. -/
def visibleLines (s : Text) : List Text := shownLines isSpace (splitlines s)

/-- A text with blank lines and notices only. -/
def quiet (s : Text) : Bool := (visibleLines s).all isIosSyslog

lemma shownLines_splitlinesFrom_nil (line : Text) :
    shownLines isSpace (splitlinesFrom line []) = shownLines isSpace [line] := by
  rw [splitlinesFrom]
  split_ifs with h
  · rw [h]
    rfl
  · rfl

variable {c : Char} {s : Text}

/-- The end of a line; a carriage return and a line feed end one line, and so does each of them. -/
lemma shownLines_splitlinesFrom_of_boundary (h : isLineBoundary c = true) (line rest : Text) :
    shownLines isSpace (splitlinesFrom line (c :: rest)) =
      shownLines isSpace [line] ++ visibleLines rest := by
  by_cases hpair : ∃ rest', c = '\r' ∧ rest = '\n' :: rest'
  · obtain ⟨rest', rfl, rfl⟩ := hpair
    have hfeed : visibleLines ('\n' :: rest') = visibleLines rest' := by
      have hsplit : splitlines ('\n' :: rest') = [] :: splitlines rest' := by
        rw [splitlines, splitlinesFrom.eq_3 [] '\n' rest' (by simp), if_pos (by decide), splitlines]
      rw [visibleLines, hsplit, shownLines_cons, shownLines_singleton, if_pos (by rfl),
        List.nil_append, visibleLines]
    rw [splitlinesFrom.eq_2, shownLines_cons, hfeed]
    rfl
  · have hsingle : ∀ rest', c = '\r' → rest = '\n' :: rest' → False :=
      fun rest' hc hrest => hpair ⟨rest', hc, hrest⟩
    rw [splitlinesFrom.eq_3 line c rest hsingle, if_pos h, shownLines_cons]
    rfl

lemma splitlinesFrom_of_not_boundary (h : isLineBoundary c = false) (line rest : Text) :
    splitlinesFrom line (c :: rest) = splitlinesFrom (line ++ [c]) rest := by
  have hc : ∀ rest', c = '\r' → rest = '\n' :: rest' → False := by
    rintro rest' rfl -
    exact absurd h (by decide)
  rw [splitlinesFrom.eq_3 line c rest hc, if_neg (by simp [h])]

lemma visibleLines_append (x y : Text) :
    visibleLines (x ++ '\n' :: y) = visibleLines x ++ visibleLines y := by
  suffices h : ∀ line, shownLines isSpace (splitlinesFrom line (x ++ '\n' :: y)) =
      shownLines isSpace (splitlinesFrom line x) ++ visibleLines y from h []
  induction x with
  | nil =>
    intro line
    rw [List.nil_append, shownLines_splitlinesFrom_of_boundary (by decide),
      shownLines_splitlinesFrom_nil]
  | cons c x ih =>
    intro line
    rw [List.cons_append]
    cases hc : isLineBoundary c with
    | true =>
      rw [shownLines_splitlinesFrom_of_boundary hc, shownLines_splitlinesFrom_of_boundary hc,
        List.append_assoc]
      exact congrArg _ (ih [])
    | false =>
      rw [splitlinesFrom_of_not_boundary hc, splitlinesFrom_of_not_boundary hc, ih]

lemma quiet_append (x y : Text) : quiet (x ++ '\n' :: y) = (quiet x && quiet y) := by
  rw [quiet, visibleLines_append, List.all_append, quiet, quiet]

end CommandDispatch

namespace GuardScript

open JsStrs

/-! ## What the guards read -/

/-- The lines of a string that show something, trimmed. -/
def visibleLines (s : Units) : List Units := shownLines isSpace (s.splitOn (unit '\n'))

/-- A string with blank lines and notices only. -/
def quiet (s : Units) : Bool := (visibleLines s).all isSyslog

lemma visibleLines_append (x y : Units) :
    visibleLines (x ++ unit '\n' :: y) = visibleLines x ++ visibleLines y := by
  rw [visibleLines, List.splitOn_append_cons_self, shownLines_append, visibleLines, visibleLines]

lemma quiet_append (x y : Units) : quiet (x ++ unit '\n' :: y) = (quiet x && quiet y) := by
  rw [quiet, visibleLines_append, List.all_append, quiet, quiet]

end GuardScript

namespace CommandDispatch

open PyStrs

/-! ## Ends of lines -/

end CommandDispatch

end PacketTracer
