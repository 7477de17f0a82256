import PacketTracer.Library.PrefixFunction
import PacketTracer.Library.PyStr
import PacketTracer.Library.TerminalText

/-!
# Fresh windows of a terminal

`command_dispatch.py`, the part that reads a terminal: what its line shows, whether it stopped at
the pager, whether it is idle, and which part of its buffer appeared after a command was sent.

The buffer lost its beginning `p` and gained `d`; what is left of the old one is `r`.  Only pieces
of at most `_ROLL_ANCHOR_LIMIT` characters are looked for.  When `r` is longer and a shorter piece
happens to fit, text from before the command is attributed to it, and `output_suffix_iff` says that
this is the only case.
-/

namespace PacketTracer

open PrefixFunctions PyStrs TerminalTexts

namespace CommandDispatch

/-- `_ROLL_ANCHOR_LIMIT`. -/
def rollAnchorLimit : ℕ := 65536

/-- `_PAGER_ROLL_MIN_ANCHOR`. -/
def pagerRollMinAnchor : ℕ := 512

/-- `_PAGER_MARKER`. -/
def pagerMarker : Text := ['-', '-', 'M', 'o', 'r', 'e', '-', '-']

/-- `FreshWindowStrategy`. -/
inductive FreshWindowStrategy
  | prefixDelta
  | pagerTailRewrite
  | pagerRolledSuffixAnchor
  | rolledSuffixAnchor
  | rolledUnattributable
  | none
  deriving DecidableEq

/-! ## What the line shows -/

/-- The number of characters of a control sequence after its introducer: parameters from `0` to
`?`, intermediates from the blank to the slash, and one final character from `@` to `~`. -/
def csiBodyLength (s : Text) : Option ℕ :=
  let parameters := s.takeWhile fun c => '0' ≤ c && c ≤ '?'
  let rest := s.drop parameters.length
  let intermediates := rest.takeWhile fun c => ' ' ≤ c && c ≤ '/'
  match rest.drop intermediates.length with
  | [] => none
  | final :: _ =>
    if '@' ≤ final && final ≤ '~' then some (parameters.length + intermediates.length + 1) else none

/-- `_ANSI_CSI.sub("", value)`; the first argument counts the characters of a match that are still
to be dropped. -/
def dropCsi : ℕ → Text → Text
  | _, [] => []
  | skip + 1, _ :: rest => dropCsi skip rest
  | 0, c :: rest =>
    match c, rest with
    | '\x1b', '[' :: body =>
      match csiBodyLength body with
      | some length => dropCsi (length + 1) rest
      | none => c :: dropCsi 0 rest
    | _, _ => c :: dropCsi 0 rest

/-- `.replace("\r\n", "\n")`. -/
def replaceCrLf : Text → Text
  | [] => []
  | '\r' :: '\n' :: rest => '\n' :: replaceCrLf rest
  | c :: rest => c :: replaceCrLf rest

/-- `.replace("\r", "\n")`. -/
def replaceCr (s : Text) : Text := s.map fun c => if c = '\r' then '\n' else c

/-- One character of `resolve_backspaces`; the output is kept in reverse. -/
def resolveStep (out : Text) (c : Char) : Text :=
  if c = '\x08' then
    match out with
    | [] => []
    | top :: below => if top = '\n' then out else below
  else c :: out

/-- `resolve_backspaces`. -/
def resolveBackspaces (value : Text) : Text := (value.foldl resolveStep []).reverse

lemma resolveBackspaces_eq (value : Text) :
    resolveBackspaces value = applyBackspaces '\x08' '\n' value := by
  have hstep : resolveStep = backspaceStep '\x08' '\n' := by
    funext out c
    unfold resolveStep backspaceStep
    cases out <;> rfl
  rw [resolveBackspaces, hstep, applyBackspaces]

/-- `rendered_terminal_text`. -/
def renderedTerminalText (value : Text) : Text :=
  resolveBackspaces (replaceCr (replaceCrLf (dropCsi 0 value)))

/-! ## The pager and the prompt -/

/-- `[A-Z]`. -/
def isUpperAscii (c : Char) : Bool := 'A' ≤ c && c ≤ 'Z'

/-- `[A-Z0-9_]`. -/
def isFacilityChar (c : Char) : Bool := isUpperAscii c || ('0' ≤ c && c ≤ '9') || c = '_'

/-- `_IOS_SYSLOG.match(line) is not None`. -/
def isIosSyslog (line : Text) : Bool :=
  Option.isSome do
    let rest ← eat '%' (line.dropWhile isSpace)
    let rest ← eatOne isUpperAscii rest
    let rest ← eat '-' (rest.dropWhile isFacilityChar)
    let rest ← eatSome isDecimal rest
    let rest ← eat '-' rest
    let rest ← eatSome isFacilityChar rest
    eat ':' (rest.dropWhile isSpace)

/-- Only blank lines and asynchronous notices. -/
def onlySyslog (lines : List Text) : Bool :=
  lines.all fun line => strip line = [] || isIosSyslog (strip line)

/-- `_active_pager_boundary`. -/
def activePagerBoundary (value : Text) : Option (Text × ℕ) :=
  let rendered := renderedTerminalText value
  match rfind pagerMarker rendered with
  | none => none
  | some marker =>
    if onlySyslog (splitlines (rendered.drop (marker + pagerMarker.length))) then
      some (rendered, marker)
    else none

/-- `has_active_pager`. -/
def hasActivePager (value : Text) : Bool := (activePagerBoundary value).isSome

/-- `[A-Za-z]`. -/
def isAsciiLetter (c : Char) : Bool := isUpperAscii c || ('a' ≤ c && c ≤ 'z')

/-- `[>#]`. -/
def isPromptEnd (c : Char) : Bool := c = '>' || c = '#'

/-- `FreshWindow`. -/
structure FreshWindow where
  output : Text
  fresh : Bool
  strategy : FreshWindowStrategy
  rolled : Bool := false
  deriving DecidableEq

/-- `_longest_retained_suffix`. -/
def longestRetainedSuffix (before after : Text) : ℕ :=
  let limit := min before.length (min after.length rollAnchorLimit)
  if limit = 0 then 0
  else
    let combined := after.take limit ++ ['\x00'] ++ before.drop (before.length - limit)
    min ((failureTable combined).getLastD 0) limit

/-- No output that can be attributed to the command. -/
def noWindow : FreshWindow := { output := [], fresh := false, strategy := .none }

/-- The buffer rolled and nothing anchors it. -/
def unattributable : FreshWindow :=
  { output := [], fresh := false, strategy := .rolledUnattributable, rolled := true }

/-- The branch of `fresh_command_window` for a buffer that stopped at the pager. -/
def pagerWindow (renderedBefore renderedAfter : Text) (marker : ℕ) : FreshWindow :=
  let beforeMarker := renderedBefore.take marker
  if strip beforeMarker = [] then unattributable
  else
    let bases :=
      if beforeMarker.getLast? = some ' ' then [beforeMarker, beforeMarker.dropLast]
      else [beforeMarker]
    match bases.find? fun base => base ≠ [] && base.isPrefixOf renderedAfter with
    | some base =>
      let output := renderedAfter.drop base.length
      if output = [] then noWindow
      else { output := output, fresh := true, strategy := .pagerTailRewrite }
    | none =>
      match bases.find? fun base =>
          pagerRollMinAnchor ≤ longestRetainedSuffix base renderedAfter &&
            (lastChars (longestRetainedSuffix base renderedAfter) base).contains '\n' with
      | some base =>
        { output := renderedAfter.drop (longestRetainedSuffix base renderedAfter)
          fresh := true
          strategy := .pagerRolledSuffixAnchor
          rolled := true }
      | none => unattributable

/-- `fresh_command_window`. -/
def freshCommandWindow (before after : Text) : FreshWindow :=
  if after = [] then noWindow
  else
    let renderedBefore := renderedTerminalText before
    let renderedAfter := renderedTerminalText after
    if renderedBefore = renderedAfter then noWindow
    else if rstrip renderedBefore = rstrip renderedAfter then noWindow
    else
      match activePagerBoundary before with
      | some (renderedBefore, marker) => pagerWindow renderedBefore renderedAfter marker
      | none =>
        if before.isPrefixOf after then
          if after.length = before.length then noWindow
          else
            { output := after.drop before.length, fresh := true, strategy := .prefixDelta }
        else if before = [] then { output := after, fresh := true, strategy := .prefixDelta }
        else
          let retained := longestRetainedSuffix before after
          if retained = 0 then unattributable
          else if retained = after.length then unattributable
          else
            { output := after.drop retained
              fresh := true
              strategy := .rolledSuffixAnchor
              rolled := true }

/-! ## The retained piece -/

/-- The first `k` characters of the new buffer end the old one. -/
def Retains (before after : Text) (k : ℕ) : Prop := after.take k <:+ before

instance (before after : Text) (k : ℕ) : Decidable (Retains before after k) :=
  inferInstanceAs (Decidable (_ <:+ _))

variable {before after r d : Text}

/-- The borders of at most half the length are the retained pieces. -/
lemma border_combined_iff {limit k : ℕ} (hbefore : limit ≤ before.length)
    (hafter : limit ≤ after.length) (hk : k ≤ limit) :
    Border (after.take limit ++ ['\x00'] ++ before.drop (before.length - limit)) k ↔
      Retains before after k := by
  have htake : (after.take limit ++ ['\x00'] ++ before.drop (before.length - limit)).take k =
      after.take k := by
    rw [List.append_assoc, List.take_append_of_le_length
      (by rw [List.length_take_of_le hafter]; exact hk), List.take_take, min_eq_left hk]
  have hlength : (after.take k).length = k := List.length_take_of_le (hk.trans hafter)
  have htail : (before.drop (before.length - limit)).length = limit := by
    rw [List.length_drop]
    omega
  constructor
  · rintro ⟨-, hsuffix⟩
    rw [htake] at hsuffix
    have hinside : after.take k <:+ before.drop (before.length - limit) :=
      List.suffix_of_suffix_length_le hsuffix (List.suffix_append _ _) (by omega)
    exact hinside.trans (List.drop_suffix _ _)
  · intro hretains
    refine ⟨?_, ?_⟩
    · rw [List.length_append, List.length_append, List.length_singleton, htail]
      omega
    · rw [htake]
      have hinside : after.take k <:+ before.drop (before.length - limit) :=
        List.suffix_of_suffix_length_le hretains (List.drop_suffix _ _) (by omega)
      exact hinside.trans (List.suffix_append _ _)

/-- What `_longest_retained_suffix` finds: no retained piece within the limit is longer, and it
finds something only when there is a piece to find. -/
structure RetainedSpec (before after : Text) (found : ℕ) : Prop where
  le_limit : found ≤ rollAnchorLimit
  longest : ∀ k ≤ rollAnchorLimit, k ≤ after.length → Retains before after k → k ≤ found
  exists_retained : 0 < found → ∃ k, 1 ≤ k ∧ k ≤ rollAnchorLimit ∧ Retains before after k

lemma retainedSpec (before after : Text) :
    RetainedSpec before after (longestRetainedSuffix before after) := by
  unfold longestRetainedSuffix
  dsimp only
  have hle : ∀ k ≤ rollAnchorLimit, k ≤ after.length → Retains before after k →
      k ≤ min before.length (min after.length rollAnchorLimit) := by
    intro k hk hlength hretains
    have hbefore := hretains.length_le
    rw [List.length_take_of_le hlength] at hbefore
    exact le_min hbefore (le_min hlength hk)
  split_ifs with hzero
  · refine ⟨Nat.zero_le _, fun k hk hlength hretains => ?_, fun hpos => absurd hpos (lt_irrefl 0)⟩
    have hbound := hle k hk hlength hretains
    omega
  · have hbefore : min before.length (min after.length rollAnchorLimit) ≤ before.length :=
      min_le_left _ _
    have hafter : min before.length (min after.length rollAnchorLimit) ≤ after.length :=
      (min_le_right _ _).trans (min_le_left _ _)
    have hlimit : min before.length (min after.length rollAnchorLimit) ≤ rollAnchorLimit :=
      (min_le_right _ _).trans (min_le_right _ _)
    generalize min before.length (min after.length rollAnchorLimit) = limit at *
    have hlongest := longestBorder_failureTable
      (s := after.take limit ++ ['\x00'] ++ before.drop (before.length - limit)) (by simp)
    refine ⟨(min_le_right _ _).trans hlimit, fun k hk hlength hretains => ?_, fun hpos => ?_⟩
    · have hkl := hle k hk hlength hretains
      refine le_min (hlongest.longest k ?_) hkl
      exact (border_combined_iff hbefore hafter hkl).mpr hretains
    · -- A longer border than the limit crosses the separator, but then a short one exists too.
      obtain ⟨j, hj, hhalf, hborder⟩ :=
        exists_short_border hlongest.border (hpos.trans_le (min_le_left _ _))
      have hlength : (after.take limit ++ ['\x00'] ++
          before.drop (before.length - limit)).length = 2 * limit + 1 := by
        rw [List.length_append, List.length_append, List.length_singleton, List.length_drop,
          List.length_take_of_le hafter]
        omega
      have hjl : j ≤ limit := by omega
      exact ⟨j, hj, hjl.trans hlimit, (border_combined_iff hbefore hafter hjl).mp hborder⟩

/-- `_longest_retained_suffix` with another value of `_ROLL_ANCHOR_LIMIT`. -/
def longestRetainedSuffixWithin (anchorLimit : ℕ) (before after : Text) : ℕ :=
  let limit := min before.length (min after.length anchorLimit)
  if limit = 0 then 0
  else
    let combined := after.take limit ++ ['\x00'] ++ before.drop (before.length - limit)
    min ((failureTable combined).getLastD 0) limit

/-- A border does not reach over an element that stands only in the middle. -/
lemma le_length_of_border {s t : Text} {x : Char} {k : ℕ} (h : Border (s ++ [x] ++ t) k)
    (hlength : s.length = t.length) (ht : x ∉ t) : k ≤ s.length := by
  by_contra hlong
  obtain ⟨hlt, hsuffix⟩ := h
  simp only [List.length_append, List.length_singleton] at hlt
  have hread : ((s ++ [x] ++ t).take k)[s.length]? = some x := by
    rw [List.getElem?_take_of_lt (by omega)]
    simp
  -- the element stands behind the middle of the list, where the border ends the list
  rw [List.suffix_iff_eq_drop.mp hsuffix, List.getElem?_drop, List.getElem?_append_right
    (by simp only [List.length_append, List.length_take, List.length_singleton]; omega)] at hread
  exact ht (List.mem_of_getElem? hread)

/-- **The longest overlap is found.**  When the first text lacks the separator, the helper returns
the greatest `k` within the limit such that the last `k` characters of the first text are the first
`k` of the second, whatever the second text is. -/
theorem isGreatest_longestRetainedSuffix (anchorLimit : ℕ) {before after : Text}
    (hbefore : '\x00' ∉ before) :
    longestRetainedSuffix before after = longestRetainedSuffixWithin rollAnchorLimit before after ∧
      IsGreatest {k | k ≤ anchorLimit ∧ k ≤ before.length ∧ k ≤ after.length ∧
        before.drop (before.length - k) = after.take k}
        (longestRetainedSuffixWithin anchorLimit before after) := by
  refine ⟨rfl, ?_⟩
  have hretains : ∀ k ≤ after.length,
      before.drop (before.length - k) = after.take k ↔ Retains before after k := fun k hk => by
    rw [Retains, List.suffix_iff_eq_drop, List.length_take_of_le hk, eq_comm]
  unfold longestRetainedSuffixWithin
  dsimp only
  split_ifs with hzero
  · refine ⟨by simp, ?_⟩
    rintro k ⟨hlimit, hlengthBefore, hlengthAfter, -⟩
    omega
  · obtain ⟨limit, hlimit⟩ : ∃ limit, min before.length (min after.length anchorLimit) = limit :=
      ⟨_, rfl⟩
    rw [hlimit]
    have hlongest := longestBorder_failureTable
      (s := after.take limit ++ ['\x00'] ++ before.drop (before.length - limit)) (by simp)
    have hle := le_length_of_border hlongest.border
      (by rw [List.length_take, List.length_drop]; omega)
      fun hmem => hbefore (List.mem_of_mem_drop hmem)
    rw [List.length_take_of_le (by omega)] at hle
    rw [min_eq_left hle]
    refine ⟨⟨by omega, by omega, by omega, (hretains _ (by omega)).mpr
      ((border_combined_iff (by omega) (by omega) hle).mp hlongest.border)⟩, ?_⟩
    rintro k ⟨hlimit', hlengthBefore, hlengthAfter, heq⟩
    exact hlongest.longest k ((border_combined_iff (by omega) (by omega) (by omega)).mpr
      ((hretains k hlengthAfter).mp heq))

/-- Two texts that share a piece of two characters. -/
theorem isGreatest_longestRetainedSuffix_two : IsGreatest {k | k ≤ 3 ∧
    k ≤ ['c', 'a', 'b'].length ∧ k ≤ ['a', 'b', 'x'].length ∧
      ['c', 'a', 'b'].drop (['c', 'a', 'b'].length - k) = ['a', 'b', 'x'].take k} 2 :=
  (isGreatest_longestRetainedSuffix 3 (by decide)).2

/-! ## The window -/

/-- The roll of the buffer is recognised: the retained text is within the limit, or the window is
not read off a retained piece at all. -/
def Recognised (p r d : Text) : Prop :=
  r.length ≤ rollAnchorLimit ∨
    rstrip (renderedTerminalText (p ++ r)) = rstrip (renderedTerminalText (r ++ d)) ∨
    p ++ r <+: r ++ d ∨
    ∀ k, 1 ≤ k → k ≤ rollAnchorLimit → ¬Retains (p ++ r) (r ++ d) k

variable {n : ℕ} {s : Text}

/-- What is left of the new buffer lies in the new text exactly when all of the retained text was
dropped. -/
lemma drop_suffix_iff (hn : n ≤ (r ++ d).length) : (r ++ d).drop n <:+ d ↔ r.length ≤ n := by
  constructor
  · intro hsuffix
    have hlength := hsuffix.length_le
    rw [List.length_drop, List.length_append] at hlength
    rw [List.length_append] at hn
    omega
  · intro hle
    obtain ⟨m, rfl⟩ := Nat.exists_eq_add_of_le hle
    rw [← List.drop_drop, List.drop_left]
    exact List.drop_suffix m d

/-- The window of a buffer in which no pager is active. -/
lemma freshCommandWindow_of_not_pager (hpager : hasActivePager before = false) (hne : after ≠ [])
    (hrendered : rstrip (renderedTerminalText before) ≠ rstrip (renderedTerminalText after)) :
    (freshCommandWindow before after).output =
      if before.isPrefixOf after then after.drop before.length
      else if before = [] then after
      else if longestRetainedSuffix before after = 0 then []
      else after.drop (longestRetainedSuffix before after) := by
  have hboundary : activePagerBoundary before = none := by
    simpa [hasActivePager] using hpager
  have hdifferent : renderedTerminalText before ≠ renderedTerminalText after :=
    fun heq => hrendered (congrArg rstrip heq)
  unfold freshCommandWindow
  rw [if_neg hne]
  dsimp only
  rw [if_neg hdifferent, if_neg hrendered, hboundary]
  dsimp only
  split_ifs with hbegins hlength hempty hzero hall
  · rw [← hlength, List.drop_length]
    rfl
  · rfl
  · rfl
  · rfl
  · rw [hall, List.drop_length]
    rfl
  · rfl

/-- The window lies in the new text exactly when the roll is recognised. -/
lemma suffix_iff_recognised {p : Text} (hpager : hasActivePager (p ++ r) = false) :
    (freshCommandWindow (p ++ r) (r ++ d)).output <:+ d ↔ Recognised p r d := by
  by_cases hempty : r ++ d = []
  · obtain ⟨rfl, rfl⟩ := List.append_eq_nil_iff.mp hempty
    refine iff_of_true ?_ (Or.inl (Nat.zero_le _))
    simp [freshCommandWindow, noWindow]
  by_cases hrendered :
      rstrip (renderedTerminalText (p ++ r)) = rstrip (renderedTerminalText (r ++ d))
  · refine iff_of_true ?_ (Or.inr (Or.inl hrendered))
    unfold freshCommandWindow
    rw [if_neg hempty]
    dsimp only
    split_ifs <;> simp [noWindow]
  rw [freshCommandWindow_of_not_pager hpager hempty hrendered]
  split_ifs with hnotBegins hnil hzero
  · refine iff_of_true ?_ (Or.inr (Or.inr (Or.inl (List.isPrefixOf_iff_prefix.mp hnotBegins))))
    have hle := (List.isPrefixOf_iff_prefix.mp hnotBegins).length_le
    rw [drop_suffix_iff hle, List.length_append]
    exact Nat.le_add_left _ _
  · obtain ⟨rfl, rfl⟩ := List.append_eq_nil_iff.mp hnil
    exact iff_of_true (List.suffix_refl d) (Or.inl (Nat.zero_le _))
  all_goals
    have hspec := retainedSpec (p ++ r) (r ++ d)
    have hretained : Retains (p ++ r) (r ++ d) r.length := by
      rw [Retains, List.take_left]
      exact List.suffix_append p r
    have hlength : r.length ≤ (r ++ d).length := by simp
  · refine iff_of_true List.nil_suffix ?_
    by_cases hshort : r.length ≤ rollAnchorLimit
    · exact Or.inl hshort
    · refine Or.inr (Or.inr (Or.inr fun k hk hkl hretains => ?_))
      have hfound := hspec.longest k hkl (by omega) hretains
      omega
  · have hfound : longestRetainedSuffix (p ++ r) (r ++ d) ≤ (r ++ d).length := by
      unfold longestRetainedSuffix
      dsimp only
      split_ifs
      · exact Nat.zero_le _
      · exact (min_le_right _ _).trans ((min_le_right _ _).trans (min_le_left _ _))
    rw [drop_suffix_iff hfound]
    constructor
    · intro hle
      exact Or.inl (hle.trans hspec.le_limit)
    · rintro (hshort | heq | hbegins | hnone)
      · exact hspec.longest _ hshort hlength hretained
      · exact absurd heq hrendered
      · exact absurd (List.isPrefixOf_iff_prefix.mpr hbegins) hnotBegins
      · obtain ⟨k, hk, hkl, hretains⟩ := hspec.exists_retained (Nat.pos_of_ne_zero hzero)
        exact absurd hretains (hnone k hk hkl)

/-- **Stale text is not attributed to a command.**  When no pager is active, the window of a
command lies in the text that appeared after it exactly when the roll of the buffer is
recognised. -/
theorem output_suffix_iff {p r d : Text} (hpager : hasActivePager (p ++ r) = false) :
    (freshCommandWindow (p ++ r) (r ++ d)).output <:+ d ↔ Recognised p r d :=
  suffix_iff_recognised hpager

/-! ## A buffer that repeats itself -/

lemma dropCsi_eq_self (h : '\x1b' ∉ s) : dropCsi 0 s = s := by
  induction s with
  | nil => rfl
  | cons c rest ih =>
    obtain ⟨hc, hrest⟩ := not_or.mp (List.mem_cons.not.mp h)
    unfold dropCsi
    split
    · exact absurd rfl hc
    · rw [ih hrest]

lemma replaceCr_replaceCrLf_eq_self (h : '\r' ∉ s) : replaceCr (replaceCrLf s) = s := by
  induction s with
  | nil => rfl
  | cons c rest ih =>
    obtain ⟨hc, hrest⟩ := not_or.mp (List.mem_cons.not.mp h)
    have hstep : replaceCrLf (c :: rest) = c :: replaceCrLf rest :=
      replaceCrLf.eq_3 c rest fun _ heq _ => hc heq.symm
    have htail := ih hrest
    rw [hstep]
    unfold replaceCr at htail ⊢
    rw [List.map_cons, if_neg (Ne.symm hc), htail]

lemma resolveBackspaces_eq_self (h : '\x08' ∉ s) : resolveBackspaces s = s := by
  rw [resolveBackspaces_eq, applyBackspaces_eq_self h]

lemma renderedTerminalText_eq_self (hescape : '\x1b' ∉ s) (hreturn : '\r' ∉ s)
    (hbackspace : '\x08' ∉ s) : renderedTerminalText s = s := by
  rw [renderedTerminalText, dropCsi_eq_self hescape, replaceCr_replaceCrLf_eq_self hreturn,
    resolveBackspaces_eq_self hbackspace]

/-- The text left of a long run of one letter. -/
def runOfLetters (n : ℕ) : Text := List.replicate n 'a'

lemma mem_runOfLetters {c : Char} (h : c ∈ runOfLetters n) : c = 'a' :=
  List.eq_of_mem_replicate h

lemma hasActivePager_letters (n : ℕ) : hasActivePager (['x'] ++ runOfLetters n) = false := by
  have hmem : ∀ c, c ≠ 'x' → c ≠ 'a' → c ∉ ['x'] ++ runOfLetters n := by
    intro c hx ha hmem
    rcases List.mem_append.mp hmem with hmem | hmem
    · exact hx (List.mem_singleton.mp hmem)
    · exact ha (mem_runOfLetters hmem)
  have hrendered : renderedTerminalText (['x'] ++ runOfLetters n) = ['x'] ++ runOfLetters n :=
    renderedTerminalText_eq_self (hmem _ (by decide) (by decide)) (hmem _ (by decide) (by decide))
      (hmem _ (by decide) (by decide))
  have hmarker : rfind pagerMarker (['x'] ++ runOfLetters n) = none :=
    rfind_eq_none (hmem _ (by decide) (by decide))
  have hboundary : activePagerBoundary (['x'] ++ runOfLetters n) = none := by
    simp only [activePagerBoundary, hrendered, hmarker]
  rw [hasActivePager, hboundary]
  rfl

/-- A buffer that kept a long run of one letter is not recognised: every shorter run fits too. -/
lemma not_recognised_letters (hn : rollAnchorLimit < n) :
    ¬Recognised ['x'] (runOfLetters n) ['b'] := by
  obtain ⟨m, rfl⟩ := Nat.exists_eq_succ_of_ne_zero (show n ≠ 0 by omega)
  have hlast : runOfLetters (m + 1) = runOfLetters m ++ ['a'] := List.replicate_succ'
  have hfirst : runOfLetters (m + 1) = 'a' :: runOfLetters m := List.replicate_succ
  have hbefore : ['x'] ++ runOfLetters (m + 1) = 'x' :: runOfLetters m ++ ['a'] := by
    rw [hlast]
    rfl
  have hmem : ∀ c, c ≠ 'x' → c ≠ 'a' → c ≠ 'b' →
      c ∉ ['x'] ++ runOfLetters (m + 1) ∧ c ∉ runOfLetters (m + 1) ++ ['b'] := by
    intro c hx ha hb
    refine ⟨fun hmem => ?_, fun hmem => ?_⟩
    · rcases List.mem_append.mp hmem with hmem | hmem
      · exact hx (List.mem_singleton.mp hmem)
      · exact ha (mem_runOfLetters hmem)
    · rcases List.mem_append.mp hmem with hmem | hmem
      · exact ha (mem_runOfLetters hmem)
      · exact hb (List.mem_singleton.mp hmem)
  have hescape := hmem '\x1b' (by decide) (by decide) (by decide)
  have hreturn := hmem '\r' (by decide) (by decide) (by decide)
  have hbackspace := hmem '\x08' (by decide) (by decide) (by decide)
  rintro (hshort | heq | hbegins | hnone)
  · rw [runOfLetters, List.length_replicate] at hshort
    omega
  · rw [renderedTerminalText_eq_self hescape.1 hreturn.1 hbackspace.1,
      renderedTerminalText_eq_self hescape.2 hreturn.2 hbackspace.2, hbefore,
      rstrip_concat (by decide), rstrip_concat (by decide), hfirst] at heq
    injection heq with hhead _
    exact absurd hhead (by decide)
  · obtain ⟨rest, hrest⟩ := hbegins
    rw [hfirst] at hrest
    injection hrest with hhead _
    exact absurd hhead (by decide)
  · refine hnone 1 le_rfl (by decide) ?_
    have htake : (runOfLetters (m + 1) ++ ['b']).take 1 = ['a'] := by
      rw [hfirst]
      rfl
    rw [Retains, htake, hbefore]
    exact List.suffix_append _ _

/-- **Stale text can be attributed to a command.** -/
theorem not_forall_output_suffix :
    ¬∀ p r d : Text, hasActivePager (p ++ r) = false →
      (freshCommandWindow (p ++ r) (r ++ d)).output <:+ d := by
  intro hall
  have hpager := hasActivePager_letters (rollAnchorLimit + 1)
  have hrecognised := (suffix_iff_recognised hpager).mp
    (hall ['x'] (runOfLetters (rollAnchorLimit + 1)) ['b'] hpager)
  exact not_recognised_letters (Nat.lt_succ_self rollAnchorLimit) hrecognised

/-- A prompt that scrolled, and the window of the command that followed it. -/
theorem output_suffix_iff_prompt :
    hasActivePager (['o', 'l', 'd'] ++ ['R', '#']) = false ∧
      (freshCommandWindow (['o', 'l', 'd'] ++ ['R', '#']) (['R', '#'] ++ ['s', 'h'])).output <:+
        ['s', 'h'] := by
  have hpager : hasActivePager (['o', 'l', 'd'] ++ ['R', '#']) = false := by decide
  have hshort : (['R', '#'] : Text).length ≤ rollAnchorLimit := by decide
  exact ⟨hpager, (output_suffix_iff hpager).mpr (Or.inl hshort)⟩

end CommandDispatch
end PacketTracer
