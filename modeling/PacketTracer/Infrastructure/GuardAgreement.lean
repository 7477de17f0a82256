import PacketTracer.Infrastructure.TerminalReading

/-!
# The guards and their counterparts

On texts of characters that both sides read alike, with carriage returns at the ends of lines only,
the lines that show something are the same on both sides, and so are the decisions.  With any other
character there is a text on which they differ.
-/

namespace PacketTracer

open PyStrs TerminalTexts

namespace GuardScript

open CommandDispatch (renderedTerminalText)

/-! ## Characters that both sides read alike -/

/-- Whether both sides read a character alike: it is one code unit, a blank on both sides or on
neither, a digit likewise, and ends a line on both or on neither.  This leaves out what is not in
the basic plane, the carriage return, the other ends of lines of `str.splitlines`, the unit
separator, the byte order mark and the decimal digits that are not ASCII. -/
def readsAlike (c : Char) : Bool :=
  c.toNat < 0x10000 && isSpace c == JsStrs.isSpace c.toNat &&
    isDecimal c == JsStrs.isDigit c.toNat && isLineBoundary c == decide (c = '\n')

/-- Whether carriage returns stand at the ends of lines only. -/
def returnsAtEnds (s : Text) : Bool :=
  (s.splitOn '\n').all fun line => (trim (· = '\r') line).all (· ≠ '\r')

/-- Whether a text consists of characters that both sides read alike, and of carriage returns at the
ends of lines. -/
def isPlain (text : Text) : Bool :=
  text.all (fun c => readsAlike c || c = '\r') && returnsAtEnds (CommandDispatch.dropCsi 0 text)

/-- Both sides are left with the same text, of characters that they read alike, or with none. -/
structure SameRest (rest : Option Text) (rest' : Option JsStrs.Units) : Prop where
  same : rest' = rest.map (List.map Char.toNat)
  alike : ∀ t, rest = some t → ∀ c ∈ t, readsAlike c = true

variable {rest : Option Text} {rest' : Option JsStrs.Units}

lemma SameRest.bind {f : Text → Option Text} {g : JsStrs.Units → Option JsStrs.Units}
    (h : SameRest rest rest')
    (hnext : ∀ t, (∀ c ∈ t, readsAlike c = true) → SameRest (f t) (g (t.map Char.toNat))) :
    SameRest (rest.bind f) (rest'.bind g) := by
  obtain ⟨rfl, halike⟩ := h
  cases rest with
  | none => exact ⟨rfl, nofun⟩
  | some t => exact hnext t (halike t rfl)

section Steps

variable {t : Text} {p : ℕ → Bool} {q : Char → Bool}

lemma SameRest.eatOne (ht : ∀ c ∈ t, readsAlike c = true)
    (hclass : ∀ c, readsAlike c = true → p c.toNat = q c) :
    SameRest (PyStrs.eatOne q t) (JsStrs.eatOne p (t.map Char.toNat)) := by
  rcases t with _ | ⟨c, t⟩
  · exact ⟨rfl, nofun⟩
  have hc := hclass c (ht c List.mem_cons_self)
  rw [PyStrs.eatOne, List.map_cons, JsStrs.eatOne, hc]
  split_ifs
  · refine ⟨rfl, fun t' ht' d hd => ?_⟩
    obtain rfl := Option.some.inj ht'
    exact ht d (List.mem_cons_of_mem _ hd)
  · exact ⟨rfl, nofun⟩

lemma SameRest.eat (d : Char) (ht : ∀ c ∈ t, readsAlike c = true) :
    SameRest (PyStrs.eat d t) (JsStrs.eat d (t.map Char.toNat)) := by
  have hclass : ∀ c, readsAlike c = true → decide (c.toNat = d.toNat) = decide (c = d) :=
    fun c _ => decide_eq_decide.mpr Char.toNat_inj
  have hone : PyStrs.eat d t = PyStrs.eatOne (fun c => decide (c = d)) t := by
    cases t with
    | nil => rfl
    | cons c t => simp [PyStrs.eat, PyStrs.eatOne]
  rw [hone, JsStrs.eat]
  exact SameRest.eatOne ht hclass

lemma dropWhile_alike (ht : ∀ c ∈ t, readsAlike c = true)
    (hclass : ∀ c, readsAlike c = true → p c.toNat = q c) :
    (t.map Char.toNat).dropWhile p = (t.dropWhile q).map Char.toNat ∧
      ∀ c ∈ t.dropWhile q, readsAlike c = true :=
  ⟨dropWhile_map_of_eq fun c hc => hclass c (ht c hc),
    fun c hc => ht c ((List.dropWhile_suffix q).subset hc)⟩

lemma SameRest.eatSome (ht : ∀ c ∈ t, readsAlike c = true)
    (hclass : ∀ c, readsAlike c = true → p c.toNat = q c) :
    SameRest (PyStrs.eatSome q t) (JsStrs.eatSome p (t.map Char.toNat)) := by
  obtain ⟨hsame, halike⟩ := SameRest.eatOne ht hclass
  rw [PyStrs.eatSome, JsStrs.eatSome, hsame]
  rcases hone : PyStrs.eatOne q t with _ | rest
  · exact ⟨rfl, nofun⟩
  obtain ⟨hdrop, hrest⟩ := dropWhile_alike (halike rest hone) hclass
  refine ⟨congrArg some hdrop, fun t' ht' => ?_⟩
  obtain rfl := Option.some.inj ht'
  exact hrest

end Steps

/-- Both sides read the same lines, and the same ones as notices. -/
structure SameLines (s : Text) (u : JsStrs.Units) : Prop where
  lines : visibleLines u = (CommandDispatch.visibleLines s).map (List.map Char.toNat)
  notices : ∀ line ∈ CommandDispatch.visibleLines s,
    isSyslog (line.map Char.toNat) = CommandDispatch.isIosSyslog line

/-- Both sides read the same lines, and stopped at the pager alike. -/
structure SameScreen (s : Text) (u : JsStrs.Units) : Prop extends SameLines s u where
  found : (afterLast pagerMarker u).isSome = (afterLast CommandDispatch.pagerMarker s).isSome
  stops : stopped pagerMarker quiet u =
    stopped CommandDispatch.pagerMarker CommandDispatch.quiet s

variable {s : Text} {u : JsStrs.Units}

lemma SameLines.quiet_eq (h : SameLines s u) : quiet u = CommandDispatch.quiet s := by
  rw [quiet, h.lines, List.all_map, CommandDispatch.quiet, Bool.eq_iff_iff, List.all_eq_true,
    List.all_eq_true]
  exact forall₂_congr fun line hline => by rw [← h.notices line hline]; rfl

/-- Screens are put together at the end of a line. -/
lemma SameScreen.append {s' : Text} {u' : JsStrs.Units} (h : SameScreen s u)
    (h' : SameScreen s' u') : SameScreen (s ++ '\n' :: s') (u ++ unit '\n' :: u') := by
  have hfound := h.found
  have hfound' := h'.found
  refine ⟨⟨?_, fun line hline => ?_⟩, ?_, ?_⟩
  · rw [visibleLines_append, CommandDispatch.visibleLines_append, h.lines, h'.lines,
      List.map_append]
  · rw [CommandDispatch.visibleLines_append, List.mem_append] at hline
    exact hline.elim (h.notices line) (h'.notices line)
  · rw [afterLast_append (by decide) (by decide), afterLast_append (by decide) (by decide)]
    rcases hu : afterLast pagerMarker u' with _ | rest
    · cases hs : afterLast CommandDispatch.pagerMarker s' with
      | none => rwa [Option.isSome_map, Option.isSome_map]
      | some rest => simp [hu, hs] at hfound'
    cases hs : afterLast CommandDispatch.pagerMarker s' with
    | none => simp [hu, hs] at hfound'
    | some rest => rfl
  · rw [stopped_append (by decide) (by decide) quiet_append,
      stopped_append (by decide) (by decide) CommandDispatch.quiet_append, hfound', h'.stops,
      h.stops, h'.quiet_eq]

section Line

variable {w : Text}

end Line

/-! ## Plain texts -/

variable {w : Text}

variable {s : Text} {c : Char} {output : Text}

end GuardScript

end PacketTracer
