import PacketTracer.Infrastructure.DhcpPoolTable
import PacketTracer.Infrastructure.TerminalReading

/-!
# Printing the table of `show ip dhcp pool`

The layout in which the terminal was measured to answer `show ip dhcp pool`, as a function of the
pools, and the law that connects it to the parser: what is printed is read back, pool by pool and
row by row, with the echo of the command in front and a prompt behind or without them.

A printed line `Shows` the line that is left of it when it is stripped.  The law is proved for the
lines that are shown, block by block.
-/

namespace PacketTracer

open PyStrs LinePatterns TerminalTexts

namespace IosTerminal

/-! ## The layout -/

/-- `str` of a counter. -/
def digits (n : ℕ) : Text := Nat.toDigits 10 n

/-- `str.ljust`. -/
def ljust (width : ℕ) (s : Text) : Text := s ++ List.replicate (width - s.length) ' '

/-- A prompt of a terminal: the name of the host and the mark of the mode. -/
structure Prompt where
  host : Text
  mark : Char
  host_ne : host ≠ []
  host_chars : ∀ c ∈ host, isHostChar c = true
  mark_end : CommandDispatch.isPromptEnd mark = true

/-- The text of a prompt. -/
def Prompt.text (prompt : Prompt) : Text := prompt.host ++ [prompt.mark]

/-- A line with a label, as it is shown. -/
def labelLine (label : String) (value : Text) : Text :=
  ljust 31 label.toList ++ ": ".toList ++ value

/-- Two counters with a slash. -/
def slashed (first second : ℕ) : Text := digits first ++ " / ".toList ++ digits second

/-- The header of a pool. -/
def headerLine (name : Text) : Text := "Pool ".toList ++ name ++ " :".toList

/-- The line with the number of subnets. -/
def countLine (n : ℕ) : Text :=
  digits n ++ (if n = 1 then " subnet is" else " subnets are").toList ++
    " currently in the pool".toList

/-- The line with the heads of the columns. -/
def columnLine : Text :=
  ljust 21 "Current index".toList ++ ljust 36 "IP address range".toList ++
    "Leased/Excluded/Total".toList

/-- One row of the table. -/
def rowLine (row : DhcpPoolSubnetStatistics) : Text :=
  ljust 20 row.currentIndex ++ " ".toList ++ ljust 16 row.rangeStart ++ " - ".toList ++
    ljust 17 row.rangeEnd ++ " ".toList ++ ljust 4 (digits row.leasedAddresses) ++ " / ".toList ++
    ljust 5 (digits row.excludedAddresses) ++ " / ".toList ++ digits row.totalAddresses

/-- The lines below the header of a pool, as they are shown. -/
def bodyLines (pool : DhcpPoolStatistics) : List Text :=
  [labelLine "Utilization mark (high/low)" (slashed pool.utilizationHigh pool.utilizationLow),
    labelLine "Subnet size (first/next)" (slashed pool.subnetSizeFirst pool.subnetSizeNext),
    labelLine "Total addresses" (digits pool.totalAddresses),
    labelLine "Leased addresses" (digits pool.leasedAddresses),
    labelLine "Excluded addresses" (digits pool.excludedAddresses),
    labelLine "Pending event" pool.pendingEvent,
    countLine pool.declaredSubnetCount,
    columnLine] ++ pool.subnets.map rowLine

/-- The printed lines of a pool: a blank line, the header, and the other lines indented by a blank;
the line of the subnet sizes ends with a blank, and a blank line follows the pending event. -/
def poolLines (pool : DhcpPoolStatistics) : List Text :=
  [[], headerLine pool.name,
    ' ' :: labelLine "Utilization mark (high/low)"
      (slashed pool.utilizationHigh pool.utilizationLow),
    ' ' :: labelLine "Subnet size (first/next)"
      (slashed pool.subnetSizeFirst pool.subnetSizeNext) ++ [' '],
    ' ' :: labelLine "Total addresses" (digits pool.totalAddresses),
    ' ' :: labelLine "Leased addresses" (digits pool.leasedAddresses),
    ' ' :: labelLine "Excluded addresses" (digits pool.excludedAddresses),
    ' ' :: labelLine "Pending event" pool.pendingEvent,
    [],
    ' ' :: countLine pool.declaredSubnetCount,
    ' ' :: columnLine] ++ pool.subnets.map fun row => ' ' :: rowLine row

/-- The echo of the command behind a prompt or alone. -/
def echoLine (prompt : Option Prompt) : Text :=
  (prompt.elim [] Prompt.text) ++ "show ip dhcp pool".toList

/-- Lines with a line feed after each of them. -/
def unlines (lines : List Text) : Text := lines.flatMap (· ++ ['\n'])

/-- The measured answer to `show ip dhcp pool`, with or without the echo and the prompt. -/
def printShowIpDhcpPool (echo : Option (Option Prompt)) (pools : List DhcpPoolStatistics)
    (prompt : Option Prompt) : Text :=
  unlines ((echo.map echoLine).toList ++ pools.flatMap poolLines ++
    (prompt.map Prompt.text).toList)

/-- The texts of a pool can stand in the layout: the name is a name of the header, and the pending
event is one line, without blanks at its ends and without control sequences. -/
structure DhcpPoolStatistics.Printable (pool : DhcpPoolStatistics) : Prop where
  name_ne : pool.name ≠ []
  name_chars : ∀ c ∈ pool.name, ignoringCase isNameChar c = true
  event_ne : pool.pendingEvent ≠ []
  event_strip : strip pool.pendingEvent = pool.pendingEvent
  event_line : ∀ c ∈ pool.pendingEvent, isLineBoundary c = false
  event_plain : dropMatches csiLength 0 pool.pendingEvent = pool.pendingEvent

/-! ## Reading lines -/

lemma csiLength_eq_zero {s : Text} (h : ∀ body, s ≠ '\x1b' :: '[' :: body) : csiLength s = 0 := by
  unfold csiLength
  split
  · next body => exact absurd rfl (h body)
  · rfl

variable {c : Char} {s : Text} {lines : List Text} {n : ℕ} {p : Char → Bool}
  {row : DhcpPoolSubnetStatistics} {line : Text} {label : String} {name : Text}
  {pool : DhcpPoolStatistics} {pools : List DhcpPoolStatistics}

lemma csiLength_of_ne (rest : Text) (h : c ≠ '\x1b') : csiLength (c :: rest) = 0 :=
  csiLength_eq_zero fun _ heq => h (List.cons.inj heq).1

/-- No control sequence reaches over a line feed. -/
lemma csiLength_append (x y : Text) : csiLength (x ++ '\n' :: y) = csiLength x := by
  have hfeed : isCsiParameter '\n' = false := by decide
  match x with
  | [] => exact csiLength_of_ne y (by decide)
  | [c] =>
    rw [csiLength_eq_zero (s := [c]) (by simp), List.singleton_append,
      csiLength_eq_zero fun body heq => absurd (List.cons.inj (List.cons.inj heq).2).1 (by decide)]
  | c :: d :: body =>
    by_cases hcsi : c = '\x1b' ∧ d = '['
    · obtain ⟨rfl, rfl⟩ := hcsi
      simp only [List.cons_append, csiLength]
      by_cases hall : ∀ c ∈ body, isCsiParameter c = true
      · rw [List.dropWhile_append_of_pos hall, List.dropWhile_cons_of_neg (by simp [hfeed]),
          List.dropWhile_eq_nil_iff.mpr hall]
        rfl
      · have hne : body.dropWhile isCsiParameter ≠ [] := by
          rwa [ne_eq, List.dropWhile_eq_nil_iff]
        have htake : (body ++ '\n' :: y).takeWhile isCsiParameter =
            body.takeWhile isCsiParameter := by
          rw [List.takeWhile_append, if_neg]
          intro hlength
          refine hne (List.eq_nil_of_length_eq_zero ?_)
          have hsum := congrArg List.length
            (List.takeWhile_append_dropWhile (p := isCsiParameter) (l := body))
          rw [List.length_append] at hsum
          omega
        rw [List.dropWhile_append, if_neg (by simpa using hne), htake]
        cases hdrop : body.dropWhile isCsiParameter with
        | nil => exact absurd hdrop hne
        | cons final rest => rfl
    · have hnone : ∀ rest : Text, csiLength (c :: d :: rest) = 0 := by
        refine fun rest => csiLength_eq_zero fun body heq => hcsi ?_
        obtain ⟨hc, hrest⟩ := List.cons.inj heq
        exact ⟨hc, (List.cons.inj hrest).1⟩
      rw [List.cons_append, List.cons_append, hnone, hnone]

lemma csiLength_le (x : Text) : csiLength x ≤ x.length := by
  unfold csiLength
  split
  · next body =>
    split
    · omega
    rename_i final rest hdrop
    split
    · have hsum := congrArg List.length
        (List.takeWhile_append_dropWhile (p := isCsiParameter) (l := body))
      rw [List.length_append, hdrop] at hsum
      simp only [List.length_cons] at hsum ⊢
      omega
    · omega
  · omega

lemma dropCsi_eq_self (h : '\x1b' ∉ s) : dropMatches csiLength 0 s = s := by
  have happend := @dropMatches_append_of_notMem _ csiLength '\x1b'
    (fun c rest hc => csiLength_of_ne rest hc) _ h []
  rwa [List.append_nil, dropMatches, List.append_nil] at happend

lemma dropCsi_unlines (h : ∀ line ∈ lines, dropMatches csiLength 0 line = line) :
    dropMatches csiLength 0 (unlines lines) = unlines lines := by
  induction lines with
  | nil => rfl
  | cons line lines ih =>
    obtain ⟨hline, hlines⟩ := List.forall_mem_cons.mp h
    have hunlines : unlines (line :: lines) = line ++ '\n' :: unlines lines := by
      rw [unlines, List.flatMap_cons, List.append_assoc, List.singleton_append]
      rfl
    rw [hunlines, dropMatches_append (fun y => csiLength_of_ne y (by decide)) csiLength_append
      csiLength_le _ _ (Nat.zero_le _), hline, ih hlines]

/-- The lines of a text are its lines. -/
lemma splitlines_unlines (h : ∀ line ∈ lines, ∀ c ∈ line, isLineBoundary c = false) :
    splitlines (unlines lines) = lines := by
  have hfrom : ∀ (line seen rest : Text), (∀ c ∈ line, isLineBoundary c = false) →
      splitlinesFrom seen (line ++ '\n' :: rest) = (seen ++ line) :: splitlines rest := by
    intro line
    induction line with
    | nil =>
      intro seen rest _
      rw [List.nil_append, splitlinesFrom.eq_3 seen '\n' rest (by simp), if_pos (by decide),
        List.append_nil]
      rfl
    | cons c line ih =>
      intro seen rest hline
      obtain ⟨hc, hline⟩ := List.forall_mem_cons.mp hline
      rw [List.cons_append, CommandDispatch.splitlinesFrom_of_not_boundary hc, ih _ _ hline,
        List.append_assoc, List.singleton_append]
  induction lines with
  | nil => rfl
  | cons line lines ih =>
    obtain ⟨hline, hlines⟩ := List.forall_mem_cons.mp h
    rw [splitlines, unlines, List.flatMap_cons, List.append_assoc, List.singleton_append,
      hfrom line [] _ hline, List.nil_append]
    exact congrArg _ (ih hlines)

/-- A printed line, and the line that it shows. -/
structure Shows (line shown : Text) : Prop where
  strip : strip line = shown
  boundary : ∀ c ∈ line, isLineBoundary c = false
  plain : dropMatches csiLength 0 line = line
  accepted : isRejection line = false

/-- The lines of a printed text are read as they were printed, and no line rejects the command. -/
lemma strippedLines_unlines {shown : List Text} (h : List.Forall₂ Shows lines shown) :
    normalizeTerminalOutput (unlines lines) = unlines lines ∧
      iosRejectionReason (unlines lines) = none ∧
      strippedLines (unlines lines) = shown.filter (· ≠ []) := by
  have hall : ∀ line ∈ lines, ∃ shown, Shows line shown := fun line hline => by
    obtain ⟨s, -, hs⟩ := Fallible.exists_of_forall₂ h hline
    exact ⟨s, hs⟩
  have hboundary : ∀ line ∈ lines, ∀ c ∈ line, isLineBoundary c = false := fun line hline =>
    (hall line hline).elim fun _ hshows => hshows.boundary
  have hreturn : '\r' ∉ unlines lines := by
    intro hmem
    obtain ⟨line, hline, hmem⟩ := List.mem_flatMap.mp hmem
    rcases List.mem_append.mp hmem with hmem | hmem
    · exact absurd (hboundary line hline _ hmem) (by decide)
    · exact absurd (List.mem_singleton.mp hmem) (by decide)
  have hnormal : normalizeTerminalOutput (unlines lines) = unlines lines := by
    rw [normalizeTerminalOutput, dropCsi_unlines fun line hline =>
      (hall line hline).elim fun _ hshows => hshows.plain,
      CommandDispatch.replaceCr_replaceCrLf_eq_self hreturn]
  refine ⟨hnormal, ?_, ?_⟩
  · rw [iosRejectionReason, hnormal, splitlines_unlines hboundary, List.find?_eq_none.mpr]
    · rfl
    · intro line hline
      obtain ⟨shown, hshows⟩ := hall line hline
      simp [hshows.accepted]
  · have hmap : lines.map strip = shown := by
      clear hall hboundary hreturn hnormal
      induction h with
      | nil => rfl
      | cons hshows _ ih => rw [List.map_cons, hshows.strip, ih]
    rw [strippedLines, splitlines_unlines hboundary, hmap]

/-! ## The characters of the layout -/

/-- A character that is neither an end of a line nor an escape character. -/
def isPlain (c : Char) : Bool := !isLineBoundary c && c ≠ '\x1b'

lemma forall_digits {p : Char → Prop}
    (h : ∀ c ∈ "0123456789".toList, p c) : ∀ c ∈ digits n, p c := by
  intro c hc
  have hdigit : c.isDigit = true :=
    Nat.isDigit_of_mem_toDigits (by norm_num) (by norm_num) hc
  have hrange : 48 ≤ c.toNat ∧ c.toNat ≤ 57 := by
    simpa [Char.isDigit, UInt32.le_iff_toNat_le] using hdigit
  have hall : ∀ k ≤ 57, 48 ≤ k →
      Char.ofNat k ∈ "0123456789".toList := by decide
  have hmem := hall c.toNat hrange.2 hrange.1
  rw [Char.ofNat_toNat] at hmem
  exact h c hmem

lemma digits_ne_nil (n : ℕ) : digits n ≠ [] := Nat.toDigits_ne_nil

lemma int_digits (n : ℕ) : int (digits n) = n := by
  have hvalue : ∀ c ∈ digits n, decimalValue c = c.toNat - '0'.toNat :=
    forall_digits (by decide)
  have hfold : ∀ (cs : Text) (m : ℕ), (∀ c ∈ cs, decimalValue c = c.toNat - '0'.toNat) →
      cs.foldl (fun n c => 10 * n + decimalValue c) m = Nat.ofDigitChars 10 cs m := by
    intro cs
    induction cs with
    | nil => exact fun m _ => rfl
    | cons c cs ih =>
      intro m hcs
      obtain ⟨hc, hcs⟩ := List.forall_mem_cons.mp hcs
      rw [List.foldl_cons, hc, ih _ hcs]
      rfl
  rw [int, hfold _ _ hvalue]
  exact Nat.ofDigitChars_toDigits (by norm_num) (by norm_num)

lemma startsOutside_digits
    (h : ∀ c ∈ "0123456789".toList, p c = false) (n : ℕ)
    (s : Text) : StartsOutside p (digits n ++ s) := by
  cases hdigits : digits n with
  | nil => exact absurd hdigits (digits_ne_nil n)
  | cons c cs => exact forall_digits h c (hdigits ▸ List.mem_cons_self)

lemma chars_eq (address : Ipaddress.IPv4Address) : ∃ a b c d : ℕ, Ipaddress.chars address =
    digits a ++ '.' :: (digits b ++ '.' :: (digits c ++ '.' :: digits d)) := by
  refine ⟨address / 16777216, address / 65536 % 256, address / 256 % 256, address % 256, ?_⟩
  rw [Ipaddress.chars, Ipaddress.octets]
  simp only [List.map_cons, List.map_nil, List.intercalate_cons_cons, List.intercalate_singleton,
    List.append_assoc, List.singleton_append]
  rfl

variable {address : Ipaddress.IPv4Address} {rest x : Text}

lemma forall_chars {p : Char → Prop}
    (h : ∀ c ∈ "0123456789".toList, p c) (hdot : p '.') :
    ∀ c ∈ Ipaddress.chars address, p c := by
  obtain ⟨a, b, c, d, heq⟩ := chars_eq address
  rw [heq]
  simp only [List.forall_mem_append, List.forall_mem_cons]
  exact ⟨forall_digits h, hdot, forall_digits h, hdot, forall_digits h, hdot, forall_digits h⟩

lemma chars_ne_nil (address : Ipaddress.IPv4Address) : Ipaddress.chars address ≠ [] := by
  obtain ⟨a, b, c, d, heq⟩ := chars_eq address
  rw [heq]
  exact List.append_ne_nil_of_left_ne_nil (digits_ne_nil a) _

lemma startsOutside_chars
    (h : ∀ c ∈ "0123456789".toList, p c = false)
    (address : Ipaddress.IPv4Address) (s : Text) :
    StartsOutside p (Ipaddress.chars address ++ s) := by
  obtain ⟨a, b, c, d, heq⟩ := chars_eq address
  rw [heq, List.append_assoc]
  exact startsOutside_digits h a _

/-- A text that is read as an address consists of four octets. -/
lemma isQuad_of_parseIPv4 {cs : Text} (h : Ipaddress.parseIPv4 cs = some address) :
    isQuad cs = true := by
  have hdecimal : ∀ c : Char, c.isDigit = true → isDecimal c = true := by
    intro c hc
    have hrange : 48 ≤ c.toNat ∧ c.toNat ≤ 57 := by
      simpa [Char.isDigit, UInt32.le_iff_toNat_le] using hc
    refine List.any_eq_true.mpr ⟨0x30, by decide, ?_⟩
    simp only [Bool.and_eq_true, decide_eq_true_eq]
    omega
  have hoctet : ∀ {octet : Text} {n : ℕ}, Ipaddress.parseOctet octet = some n →
      (octet ≠ [] && octet.length ≤ 3 && octet.all isDecimal) = true := by
    intro octet n hoctet
    unfold Ipaddress.parseOctet at hoctet
    split_ifs at hoctet with hne hdigit hlength
    have hall : ∀ c ∈ octet, isDecimal c = true := fun c hc =>
      hdecimal c (List.all_eq_true.mp (by simpa using hdigit) c hc)
    simp only [Bool.and_eq_true, decide_eq_true_eq]
    exact ⟨⟨hne, by omega⟩, List.all_eq_true.mpr hall⟩
  unfold Ipaddress.parseIPv4 at h
  split at h
  · next a b c d hsplit =>
    split at h
    · next ha hb hc hd =>
      simp only [isQuad, hsplit, List.all_cons, hoctet ha, hoctet hb, hoctet hc, hoctet hd]
      rfl
    · cases h
  · cases h

/-! ## Matching what is printed -/

lemma fullmatch_word_append (w : String) (parts : List (LinePatterns.Part Char)) (s : Text) :
    fullmatch (word w ++ parts) (w.toList ++ s) = fullmatch parts s :=
  fullmatch_literal_append (fun c => by simp [ignoringCase]) parts w.toList s

lemma fullmatch_word (w : String) : fullmatch (word w) w.toList = some [] := by
  have happend := fullmatch_word_append w [] []
  rwa [List.append_nil, List.append_nil, fullmatch_nil] at happend

lemma isSpace_of_mem_replicate : ∀ c ∈ List.replicate n ' ', isSpace c = true :=
  fun _ hc => List.eq_of_mem_replicate hc ▸ rfl

lemma replicate_append_cons (n : ℕ) (s : Text) :
    List.replicate n ' ' ++ ' ' :: s = List.replicate (n + 1) ' ' ++ s := by
  rw [List.replicate_succ', List.append_assoc, List.singleton_append]

lemma fullmatch_pad_append (parts : List (LinePatterns.Part Char)) (hs : StartsOutside isSpace s) :
    fullmatch (pad ++ parts) (List.replicate n ' ' ++ s) = fullmatch parts s :=
  fullmatch_run_append parts isSpace_of_mem_replicate hs

lemma fullmatch_gap_append (parts : List (LinePatterns.Part Char)) (hs : StartsOutside isSpace s) :
    fullmatch (gap ++ parts) (List.replicate n ' ' ++ ' ' :: s) = fullmatch parts s := by
  rw [replicate_append_cons]
  exact fullmatch_someOf_append parts (by simp) isSpace_of_mem_replicate hs

lemma fullmatch_gap_cons (parts : List (LinePatterns.Part Char)) (hs : StartsOutside isSpace s) :
    fullmatch (gap ++ parts) (' ' :: s) = fullmatch parts s :=
  fullmatch_gap_append (n := 0) parts hs

lemma fullmatch_digits_append (parts : List (LinePatterns.Part Char)) (n : ℕ)
    (hs : StartsOutside isDecimal s) :
    fullmatch (.field isDecimal :: parts) (digits n ++ s) =
      (fullmatch parts s).map (digits n :: ·) :=
  fullmatch_field_append parts (digits_ne_nil n) (forall_digits (by decide)) hs

lemma fullmatch_number (n : ℕ) : fullmatch number (digits n) = some [digits n] := by
  have happend := fullmatch_digits_append [] n (startsOutside_nil isDecimal)
  rwa [List.append_nil] at happend

lemma fullmatch_twoNumbers (m n : ℕ) :
    fullmatch twoNumbers (slashed m n) = some [digits m, digits n] := by
  have hsecond : fullmatch (pad ++ number) (' ' :: digits n) = some [digits n] :=
    (fullmatch_pad_append (n := 1) number (s := digits n)
      (by simpa using startsOutside_digits (p := isSpace) (by decide) n [])).trans
      (fullmatch_number n)
  have hslash : fullmatch (pad ++ (word "/" ++ (pad ++ number))) (" / ".toList ++ digits n) =
      some [digits n] :=
    (fullmatch_pad_append (n := 1) _ (s := '/' :: ' ' :: digits n) rfl).trans
      ((fullmatch_word_append "/" _ _).trans hsecond)
  have hfirst := fullmatch_digits_append (pad ++ (word "/" ++ (pad ++ number))) m
    (s := " / ".toList ++ digits n) rfl
  rw [hslash] at hfirst
  simpa [twoNumbers, slashed, number] using hfirst

lemma fullmatch_labelled (label : String) (value : List (LinePatterns.Part Char)) {text : Text}
    (htext : StartsOutside isSpace text) :
    fullmatch (labelled label value) (labelLine label text) = fullmatch value text := by
  have hblank : fullmatch (pad ++ value) (' ' :: text) = fullmatch value text :=
    fullmatch_pad_append (n := 1) value htext
  have hcolon : fullmatch (word ":" ++ (pad ++ value)) (": ".toList ++ text) =
      fullmatch value text := (fullmatch_word_append ":" _ _).trans hblank
  have hpad := (fullmatch_pad_append (n := 31 - label.toList.length)
    (word ":" ++ (pad ++ value)) (s := ": ".toList ++ text) rfl).trans hcolon
  simp only [labelled, labelLine, ljust, List.append_assoc]
  exact (fullmatch_word_append label _ _).trans hpad

/-- The number of subnets is read, whatever the verb. -/
lemma fullmatch_subnetCount_append (verb : String) (n : ℕ) {plural : Text}
    (hplural : plural = [] ∨ plural = ['s']) (hrest : StartsOutside isSpace rest) :
    fullmatch (subnetCount verb) (digits n ++ ' ' :: ("subnet".toList ++ (plural ++ ' ' :: rest))) =
      (fullmatch (word verb ++ (gap ++ (word "currently" ++ (gap ++ (word "in" ++ (gap ++
        (word "the" ++ (gap ++ word "pool")))))))) rest).map (digits n :: ·) := by
  have hopt : ∀ parts : List (LinePatterns.Part Char),
      fullmatch (.opt (ignoringCase (· = 's')) :: (gap ++ parts)) (plural ++ ' ' :: rest) =
        fullmatch parts rest := by
    intro parts
    rcases hplural with rfl | rfl
    · rw [fullmatch, if_neg (by rintro ⟨⟩)]
      exact fullmatch_gap_cons parts hrest
    · rw [fullmatch, if_pos (by rfl)]
      exact fullmatch_gap_cons parts hrest
  simp only [subnetCount, number, List.append_assoc, List.cons_append, List.nil_append]
  rw [fullmatch_digits_append _ n (by rfl), fullmatch_gap_cons _ (by rfl), fullmatch_word_append,
    hopt]

lemma fullmatch_verb (verb : String) : fullmatch (word verb ++ (gap ++ (word "currently" ++ (gap ++
    (word "in" ++ (gap ++ (word "the" ++ (gap ++ word "pool"))))))))
      (verb.toList ++ " currently in the pool".toList) = some [] := by
  rw [fullmatch_word_append]
  rfl

/-- The number of subnets is read, in the singular and in the plural. -/
lemma fullmatch_countLine (n : ℕ) :
    (fullmatch (subnetCount "is") (countLine n) <|> fullmatch (subnetCount "are") (countLine n)) =
      some [digits n] := by
  unfold countLine
  by_cases hn : n = 1
  · have hline : digits n ++ " subnet is".toList ++ " currently in the pool".toList =
        digits n ++ ' ' :: ("subnet".toList ++ ([] ++ ' ' ::
          ("is".toList ++ " currently in the pool".toList))) := by
      rw [List.append_assoc]
      rfl
    rw [if_pos hn, hline, fullmatch_subnetCount_append "is" n (Or.inl rfl) (by rfl), fullmatch_verb]
    rfl
  · have hline : digits n ++ " subnets are".toList ++ " currently in the pool".toList =
        digits n ++ ' ' :: ("subnet".toList ++ (['s'] ++ ' ' ::
          ("are".toList ++ " currently in the pool".toList))) := by
      rw [List.append_assoc]
      rfl
    have hare : StartsOutside (ignoringCase (· = 'i'))
      ("are".toList ++ " currently in the pool".toList) := rfl
    rw [if_neg hn, hline, fullmatch_subnetCount_append "is" n (Or.inr rfl) (by rfl),
      fullmatch_subnetCount_append "are" n (Or.inr rfl) (by rfl), fullmatch_verb]
    exact congrArg (fun front => Option.orElse (front.map (digits n :: ·)) _)
      (fullmatch_one_eq_none _ hare)

lemma fullmatch_columnLine : fullmatch (word "Current index" ++ gap ++ word "IP address range" ++
    gap ++ word "Leased/Excluded/Total") columnLine = some [] := by
  have hline : columnLine = "Current index".toList ++ (List.replicate 7 ' ' ++ ' ' ::
      ("IP address range".toList ++ (List.replicate 19 ' ' ++ ' ' ::
        "Leased/Excluded/Total".toList))) := by
    rw [columnLine, List.append_assoc]
    rfl
  rw [hline, List.append_assoc, List.append_assoc, List.append_assoc, fullmatch_word_append,
    fullmatch_gap_append _ (by rfl), fullmatch_word_append, fullmatch_gap_append _ (by rfl),
    fullmatch_word]

lemma fullmatch_quad_append (parts : List (LinePatterns.Part Char)) (address : Ipaddress.IPv4Address)
    (hs : StartsOutside isQuadChar s) :
    fullmatch (.field isQuadChar :: parts) (Ipaddress.chars address ++ s) =
      (fullmatch parts s).map (Ipaddress.chars address :: ·) :=
  fullmatch_field_append parts (chars_ne_nil address) (forall_chars (by decide) (by decide)) hs

lemma fullmatch_address_append (parts : List (LinePatterns.Part Char)) (width : ℕ)
    (address : Ipaddress.IPv4Address) (hs : StartsOutside isSpace s) :
    fullmatch (.field isQuadChar :: (gap ++ parts))
      (ljust width (Ipaddress.chars address) ++ ' ' :: s) =
        (fullmatch parts s).map (Ipaddress.chars address :: ·) := by
  have hblank : StartsOutside isQuadChar
      (List.replicate (width - (Ipaddress.chars address).length) ' ' ++ ' ' :: s) := by
    cases width - (Ipaddress.chars address).length with
    | zero => rfl
    | succ k => rfl
  rw [ljust, List.append_assoc, fullmatch_quad_append _ _ hblank, fullmatch_gap_append _ hs]

/-- A counter in its column, with the slash behind it, is read. -/
lemma fullmatch_column_append (parts : List (LinePatterns.Part Char)) (width n : ℕ)
    (hs : StartsOutside isSpace s) :
    fullmatch (.field isDecimal :: (pad ++ .one (· = '/') :: (pad ++ parts)))
      (ljust width (digits n) ++ (" / ".toList ++ s)) =
        (fullmatch parts s).map (digits n :: ·) := by
  have hblank : StartsOutside isDecimal
      (List.replicate (width - (digits n).length) ' ' ++ (" / ".toList ++ s)) := by
    cases width - (digits n).length with
    | zero => rfl
    | succ k => rfl
  have hslash : List.replicate (width - (digits n).length) ' ' ++ (" / ".toList ++ s) =
      List.replicate (width - (digits n).length + 1) ' ' ++ '/' :: ' ' :: s :=
    replicate_append_cons _ _
  rw [ljust, List.append_assoc, fullmatch_digits_append _ n hblank, hslash,
    fullmatch_pad_append _ (by rfl), fullmatch_one_cons _ _ (by rfl)]
  exact congrArg _ (fullmatch_pad_append (n := 1) parts hs)

lemma startsOutside_ljust (hne : x ≠ []) (hx : StartsOutside isSpace x) (width : ℕ) (s : Text) :
    StartsOutside isSpace (ljust width x ++ s) := by
  rw [ljust, List.append_assoc]
  exact hx.append hne

/-- A row is read. -/
lemma fullmatch_rowLine {current first last : Ipaddress.IPv4Address}
    (hcurrent : row.currentIndex = Ipaddress.chars current)
    (hfirst : row.rangeStart = Ipaddress.chars first)
    (hlast : row.rangeEnd = Ipaddress.chars last) :
    fullmatch rowPattern (rowLine row) =
      some [row.currentIndex, row.rangeStart, row.rangeEnd, digits row.leasedAddresses,
        digits row.excludedAddresses, digits row.totalAddresses] := by
  have hdigits : ∀ n, StartsOutside isSpace (digits n) := fun n => by
    simpa using startsOutside_digits (p := isSpace) (by decide) n []
  have hchars : ∀ address, StartsOutside isSpace (Ipaddress.chars address) := fun address => by
    simpa using startsOutside_chars (p := isSpace) (by decide) address []
  have hcolumn : ∀ width n s, StartsOutside isSpace (ljust width (digits n) ++ s) :=
    fun width n s => startsOutside_ljust (digits_ne_nil n) (hdigits n) width s
  have haddress : ∀ width address s,
      StartsOutside isSpace (ljust width (Ipaddress.chars address) ++ s) :=
    fun width address s => startsOutside_ljust (chars_ne_nil address) (hchars address) width s
  have hline : rowLine row = ljust 20 (Ipaddress.chars current) ++ ' ' ::
      (ljust 16 (Ipaddress.chars first) ++ ' ' :: '-' :: ' ' ::
        (ljust 17 (Ipaddress.chars last) ++ ' ' :: (ljust 4 (digits row.leasedAddresses) ++
          (" / ".toList ++ (ljust 5 (digits row.excludedAddresses) ++ (" / ".toList ++
            digits row.totalAddresses)))))) := by
    simp only [rowLine, hcurrent, hfirst, hlast, List.append_assoc]
    rfl
  have hpattern : rowPattern = .field isQuadChar :: (gap ++ .field isQuadChar :: (gap ++
      .one (· = '-') :: (gap ++ .field isQuadChar :: (gap ++ .field isDecimal :: (pad ++
        .one (· = '/') :: (pad ++ .field isDecimal :: (pad ++ .one (· = '/') :: (pad ++
          number)))))))) := by
    simp only [rowPattern, List.append_assoc, List.cons_append]
    rfl
  rw [hline, hpattern, fullmatch_address_append _ 20 current (haddress _ _ _),
    fullmatch_address_append _ 16 first (by rfl), fullmatch_one_cons _ _ (by rfl),
    fullmatch_gap_cons _ (haddress _ _ _), fullmatch_address_append _ 17 last (hcolumn _ _ _),
    fullmatch_column_append _ 4 _ (hcolumn _ _ _), fullmatch_column_append _ 5 _ (hdigits _),
    fullmatch_number, hcurrent, hfirst, hlast]
  rfl

/-! ## What the printed lines show -/

/-- A line that is shown as it is, also when it is indented. -/
structure Visible (line : Text) : Prop where
  ne : line ≠ []
  starts : StartsOutside isSpace line
  ends : EndsOutside isSpace line
  accepted : line.head? ≠ some '%'
  plain : ∀ c ∈ line, isPlain c = true

lemma strip_eq_self (hstarts : StartsOutside isSpace line) (hends : EndsOutside isSpace line) :
    strip line = line := by
  rw [strip, startsOutside_iff.mp hstarts, rstrip, endsOutside_iff.mp hends]

/-- A line that is stripped already starts and ends with other characters than blanks. -/
lemma outside_of_strip (h : strip line = line) :
    StartsOutside isSpace line ∧ EndsOutside isSpace line := by
  have hdrop : (strip line).dropWhile isSpace = strip line := dropWhile_trim line
  have hrdrop : (strip line).rdropWhile isSpace = strip line := List.rdropWhile_idempotent _ _
  rw [h] at hdrop hrdrop
  exact ⟨startsOutside_iff.mpr hdrop, endsOutside_iff.mpr hrdrop⟩

lemma head?_of_isRejection (h : isRejection line = true) : (strip line).head? = some '%' := by
  simp only [isRejection, Bool.and_eq_true, decide_eq_true_eq] at h
  obtain ⟨⟨hhead, -⟩, -⟩ := h
  obtain ⟨rest, hdrop⟩ := List.head?_eq_some_iff.mp hhead
  rw [strip, hdrop, rstrip]
  have hne : ('%' :: rest).rdropWhile isSpace ≠ [] := fun hnil =>
    absurd (List.rdropWhile_eq_nil_iff.mp hnil '%' List.mem_cons_self) (by decide)
  obtain ⟨t, ht⟩ := List.rdropWhile_prefix isSpace ('%' :: rest)
  rcases hstrip : ('%' :: rest).rdropWhile isSpace with _ | ⟨c, init⟩
  · exact absurd hstrip hne
  rw [hstrip, List.cons_append] at ht
  rw [(List.cons.inj ht).1]
  rfl

lemma shows_of_plain {shown : Text} (hstrip : strip line = shown)
    (haccepted : shown.head? ≠ some '%') (hplain : ∀ c ∈ line, isPlain c = true) :
    Shows line shown := by
  have hboth : ∀ c ∈ line, isLineBoundary c = false ∧ c ≠ '\x1b' := fun c hc => by
    simpa [isPlain] using hplain c hc
  refine ⟨hstrip, fun c hc => (hboth c hc).1, dropCsi_eq_self fun hmem => ?_, ?_⟩
  · exact (hboth _ hmem).2 rfl
  · rw [← Bool.not_eq_true]
    exact fun hrejection => haccepted (hstrip ▸ head?_of_isRejection hrejection)

lemma shows_nil : Shows [] [] := ⟨rfl, by simp, rfl, rfl⟩

lemma Visible.shows (h : Visible line) : Shows line line :=
  shows_of_plain (strip_eq_self h.starts h.ends) h.accepted h.plain

lemma strip_cons_blank (line : Text) : strip (' ' :: line) = strip line :=
  @trim_cons_of_space _ isSpace _ _ rfl

lemma Visible.shows_indented (h : Visible line) : Shows (' ' :: line) line :=
  shows_of_plain ((strip_cons_blank line).trans (strip_eq_self h.starts h.ends)) h.accepted
    (List.forall_mem_cons.mpr ⟨rfl, h.plain⟩)

lemma Visible.shows_padded (h : Visible line) : Shows (' ' :: line ++ [' ']) line := by
  have hstrip : strip (' ' :: line ++ [' ']) = line :=
    (@trim_concat_of_space _ isSpace _ _ rfl).trans
      ((strip_cons_blank line).trans (strip_eq_self h.starts h.ends))
  refine shows_of_plain hstrip h.accepted ?_
  rw [List.forall_mem_append, List.forall_mem_cons]
  exact ⟨⟨rfl, h.plain⟩, by decide⟩

lemma head?_append_ne (hne : s ≠ []) (h : s.head? ≠ some '%') (t : Text) :
    (s ++ t).head? ≠ some '%' := by
  cases s with
  | nil => exact absurd rfl hne
  | cons c s => exact h

lemma Visible.append {t : Text} (h : Visible s) (hne : t ≠ []) (hends : EndsOutside isSpace t)
    (hplain : ∀ c ∈ t, isPlain c = true) : Visible (s ++ t) :=
  ⟨List.append_ne_nil_of_left_ne_nil h.ne t, h.starts.append h.ne, hends.append hne s,
    head?_append_ne h.ne h.accepted t, List.forall_mem_append.mpr ⟨h.plain, hplain⟩⟩

lemma visible_of_forall (hne : s ≠ [])
    (h : ∀ c ∈ s, isPlain c = true ∧ isSpace c = false ∧ c ≠ '%') : Visible s :=
  ⟨hne, startsOutside_of_forall fun c hc => (h c hc).2.1,
    endsOutside_of_forall fun c hc => (h c hc).2.1,
    fun hhead => (h _ (List.mem_of_mem_head? hhead)).2.2 rfl, fun c hc => (h c hc).1⟩

lemma visible_digits (n : ℕ) : Visible (digits n) :=
  visible_of_forall (digits_ne_nil n) (forall_digits (by decide))

lemma visible_chars (address : Ipaddress.IPv4Address) : Visible (Ipaddress.chars address) :=
  visible_of_forall (chars_ne_nil address) (forall_chars (by decide) (by decide))

/-- A text that can stand in front of the value of a line. -/
def isLabel (label : String) : Bool :=
  match label.toList with
  | c :: d :: rest => !isSpace c && c ≠ '%' && (c :: d :: rest).all isPlain &&
      !(ignoringCase (· = 'P') c && ignoringCase (· = 'o') d)
  | _ => false

/-- The labels of the layout. -/
def labels : List String :=
  ["Utilization mark (high/low)", "Subnet size (first/next)", "Total addresses",
    "Leased addresses", "Excluded addresses", "Pending event"]

lemma isLabel_of_mem_labels : ∀ label ∈ labels, isLabel label = true := by decide

lemma exists_of_isLabel (h : isLabel label = true) :
    ∃ c d rest,
    label.toList = c :: d :: rest ∧ isSpace c = false ∧ c ≠ '%' ∧
      (∀ x ∈ label.toList, isPlain x = true) ∧
      (ignoringCase (· = 'P') c = false ∨ ignoringCase (· = 'o') d = false) := by
  unfold isLabel at h
  split at h
  · next c d rest heq =>
    simp only [Bool.and_eq_true, Bool.not_eq_true', Bool.and_eq_false_iff, decide_eq_true_eq,
      List.all_eq_true] at h
    obtain ⟨⟨⟨hspace, hpercent⟩, hplain⟩, hheader⟩ := h
    exact ⟨c, d, rest, heq, hspace, hpercent, heq ▸ hplain, hheader⟩
  · cases h

/-- A line with a label is visible up to its value. -/
lemma visible_labelLine (hlabel : label ∈ labels) {value : Text} (hne : value ≠ [])
    (hends : EndsOutside isSpace value) (hplain : ∀ c ∈ value, isPlain c = true) :
    Visible (labelLine label value) := by
  obtain ⟨c, d, rest, heq, hspace, hpercent, hchars, -⟩ :=
    exists_of_isLabel (isLabel_of_mem_labels label hlabel)
  have hfront : labelLine label value = [c] ++ (d :: rest ++
      List.replicate (31 - label.toList.length) ' ' ++ ": ".toList ++ value) := by
    rw [labelLine, ljust, heq]
    simp only [List.cons_append, List.nil_append, List.append_assoc]
  rw [heq] at hchars
  obtain ⟨hc, hrest⟩ := List.forall_mem_cons.mp hchars
  rw [hfront]
  refine Visible.append ⟨List.cons_ne_nil c [], hspace, hspace, ?_, ?_⟩ (by simp)
    (hends.append hne _) ?_
  · exact fun hhead => hpercent (Option.some.inj hhead)
  · exact List.forall_mem_singleton.mpr hc
  · rw [List.forall_mem_append, List.forall_mem_append, List.forall_mem_append]
    exact ⟨⟨⟨hrest, fun _ hx => List.eq_of_mem_replicate hx ▸ rfl⟩, by decide⟩, hplain⟩

lemma visible_number (hlabel : label ∈ labels) (n : ℕ) : Visible (labelLine label (digits n)) :=
  visible_labelLine hlabel (digits_ne_nil n) (visible_digits n).ends (visible_digits n).plain

lemma visible_slashed (hlabel : label ∈ labels) (m n : ℕ) :
    Visible (labelLine label (slashed m n)) := by
  refine visible_labelLine hlabel (by simp [slashed, digits_ne_nil])
    ((visible_digits n).ends.append (digits_ne_nil n) _) ?_
  rw [slashed, List.forall_mem_append, List.forall_mem_append]
  exact ⟨⟨(visible_digits m).plain, by decide⟩, (visible_digits n).plain⟩

lemma visible_countLine (n : ℕ) : Visible (countLine n) := by
  have hend : EndsOutside isSpace " currently in the pool".toList := rfl
  have hplain : ∀ c ∈ " currently in the pool".toList, isPlain c = true := by decide
  rw [countLine, List.append_assoc]
  refine (visible_digits n).append (by simp) (hend.append (by simp) _) ?_
  rw [List.forall_mem_append]
  refine ⟨?_, hplain⟩
  split
  · decide
  · decide

lemma visible_columnLine : Visible columnLine := by
  refine ⟨?_, ?_, ?_, ?_, ?_⟩
  · decide
  · rfl
  · rfl
  · decide
  · decide

/-- A row is visible. -/
lemma visible_rowLine (h : row.Consistent) : Visible (rowLine row) := by
  obtain ⟨current, first, last, hcurrent, hfirst, hlast, -⟩ := h.range
  have hend := (visible_digits row.totalAddresses).ends.append (digits_ne_nil _)
  simp only [rowLine, hcurrent, hfirst, hlast, List.append_assoc, ljust]
  refine (visible_chars current).append (by simp) ?_ ?_
  · simp only [← List.append_assoc]
    exact hend _
  · simp only [List.forall_mem_append]
    have hblank : ∀ n, ∀ c ∈ List.replicate n ' ', isPlain c = true :=
      fun n _ hc => List.eq_of_mem_replicate hc ▸ rfl
    have hdigit : ∀ n, ∀ c ∈ digits n, isPlain c = true := fun n => (visible_digits n).plain
    exact ⟨hblank _, by decide, (visible_chars first).plain, hblank _, by decide,
      (visible_chars last).plain, hblank _, by decide, hdigit _, hblank _, by decide, hdigit _,
      hblank _, by decide, hdigit _⟩

/-- The characters of a name are plain, the letters outside of ASCII that are taken for others
included. -/
lemma isPlain_of_isNameChar (h : ignoringCase isNameChar c = true) :
    isPlain c = true ∧ isSpace c = false ∧ c ≠ ':' := by
  by_cases hc : c.toNat < 128
  · have hall : ∀ k < 128, ignoringCase isNameChar (Char.ofNat k) = true →
        isPlain (Char.ofNat k) = true ∧ isSpace (Char.ofNat k) = false ∧
          Char.ofNat k ≠ ':' := by
      decide
    simpa using hall c.toNat hc (by simpa using h)
  · have hbig : ∀ d : Char, d.toNat < 128 → ¬c ≤ d := fun d hd hle =>
      hc ((UInt32.le_iff_toNat_le.mp hle).trans_lt hd)
    have hne : ∀ d : Char, d.toNat < 128 → c ≠ d := fun d hd heq => hc (heq ▸ hd)
    have hname : isNameChar c = false := by
      simp [isNameChar, CommandDispatch.isAsciiLetter, CommandDispatch.isUpperAscii, hbig, hne]
    have hlower : c.toLower = c := dif_neg fun h => hbig 'Z' (by decide) h.2
    have hupper : c.toUpper = c := dif_neg fun h => hbig 'z' (by decide) h.2
    simp only [ignoringCase, hlower, hupper, hname, Bool.false_or, List.any_eq_true,
      Bool.and_eq_true, decide_eq_true_eq] at h
    obtain ⟨folded, hfolded, rfl, -⟩ := h
    have hall : ∀ folded ∈ foldedLetters, isPlain folded.1 = true ∧ isSpace folded.1 = false ∧
        folded.1 ≠ ':' := by decide
    exact hall folded hfolded

lemma visible_headerLine (h : ∀ c ∈ name, ignoringCase isNameChar c = true) :
    Visible (headerLine name) := by
  have hpool : Visible "Pool ".toList.dropLast := ⟨by decide, rfl, rfl, by decide, by decide⟩
  have hline : headerLine name = "Pool ".toList.dropLast ++ (' ' :: name ++ " :".toList) := by
    rw [headerLine, List.append_assoc]
    rfl
  rw [hline]
  refine hpool.append (by simp) (EndsOutside.append (s := " :".toList) (by rfl) (by simp) _) ?_
  rw [List.forall_mem_append, List.forall_mem_cons]
  exact ⟨⟨rfl, fun c hc => (isPlain_of_isNameChar (h c hc)).1⟩, by decide⟩

/-- The line of the pending event shows the event. -/
lemma shows_event (h : pool.Printable) :
    Shows (' ' :: labelLine "Pending event" pool.pendingEvent)
      (labelLine "Pending event" pool.pendingEvent) := by
  obtain ⟨-, hends⟩ := outside_of_strip h.event_strip
  obtain ⟨front, hfront⟩ : ∃ front : Text, front = ljust 31 "Pending event".toList ++ ": ".toList :=
    ⟨_, rfl⟩
  have hline : labelLine "Pending event" pool.pendingEvent = front ++ pool.pendingEvent := by
    rw [labelLine, hfront]
  have hne : front ≠ [] := by simp [hfront]
  have hstarts : StartsOutside isSpace front := hfront ▸ rfl
  have hhead : front.head? ≠ some '%' := by
    rw [hfront]
    decide
  have hplain : ∀ c ∈ ' ' :: front, isLineBoundary c = false ∧ c ≠ '\x1b' := by
    rw [hfront]
    decide
  have hstrip : strip (' ' :: (front ++ pool.pendingEvent)) = front ++ pool.pendingEvent :=
    (strip_cons_blank _).trans
      (strip_eq_self (hstarts.append hne) (hends.append h.event_ne front))
  rw [hline]
  refine ⟨hstrip, ?_, ?_, ?_⟩
  · rw [← List.cons_append, List.forall_mem_append]
    exact ⟨fun c hc => (hplain c hc).1, h.event_line⟩
  · rw [← List.cons_append, dropMatches_append_of_notMem
      (fun c rest hc => csiLength_of_ne rest hc) fun hmem => (hplain _ hmem).2 rfl, h.event_plain]
  · rw [← Bool.not_eq_true]
    exact fun hrejection => head?_append_ne hne hhead pool.pendingEvent
      (hstrip ▸ head?_of_isRejection hrejection)

/-! ## Reading the blocks -/

/-- A header is read as its name. -/
lemma headerName_headerLine (hne : name ≠ []) (h : ∀ c ∈ name, ignoringCase isNameChar c = true) :
    headerName (headerLine name) = some name := by
  have hspace : StartsOutside isSpace name :=
    startsOutside_of_forall fun c hc => (isPlain_of_isNameChar (h c hc)).2.1
  have hend : fullmatch (pad ++ (word ":" ++ pad)) (" :".toList) = some [] := by
    rfl
  have hname : fullmatch (.field (ignoringCase isNameChar) :: (pad ++ (word ":" ++ pad)))
      (name ++ " :".toList) = some [name] := by
    rw [fullmatch_field_append _ hne h (by rfl), hend]
    rfl
  have hline : headerLine name = "Pool".toList ++ ' ' :: (name ++ " :".toList) := by
    rw [headerLine, List.append_assoc]
    rfl
  have hpattern : poolHeader = word "Pool" ++ (gap ++ .field (ignoringCase isNameChar) ::
      (pad ++ (word ":" ++ pad))) := by
    simp only [poolHeader, List.append_assoc, List.cons_append]
  rw [headerName, hpattern, hline, fullmatch_word_append,
    fullmatch_gap_cons _ (hspace.append hne), hname]

lemma headerName_eq_none {d : Char}
    (h : ignoringCase (· = 'P') c = false ∨ ignoringCase (· = 'o') d = false) :
    headerName (c :: d :: rest) = none := by
  obtain ⟨parts, hparts⟩ : ∃ parts, poolHeader = .one (ignoringCase (· = 'P')) ::
      .one (ignoringCase (· = 'o')) :: parts := ⟨_, rfl⟩
  have hnone : fullmatch poolHeader (c :: d :: rest) = none := by
    rw [hparts]
    by_cases hc : ignoringCase (· = 'P') c = false
    · exact fullmatch_one_eq_none _ hc
    · rw [fullmatch_one_cons _ _ (Bool.eq_true_of_not_eq_false hc)]
      exact fullmatch_one_eq_none _ (h.resolve_left hc)
  rw [headerName, hnone]

lemma headerName_eq_none_of_startsOutside (h : StartsOutside (ignoringCase (· = 'P')) line) :
    headerName line = none := by
  obtain ⟨parts, hparts⟩ : ∃ parts, poolHeader = .one (ignoringCase (· = 'P')) :: parts :=
    ⟨_, rfl⟩
  rw [headerName, hparts, fullmatch_one_eq_none _ h]

lemma headerName_labelLine (hlabel : label ∈ labels) (value : Text) :
    headerName (labelLine label value) = none := by
  obtain ⟨c, d, rest, heq, -, -, -, hheader⟩ :=
    exists_of_isLabel (isLabel_of_mem_labels label hlabel)
  rw [labelLine, ljust, heq]
  exact headerName_eq_none hheader

/-- No line below the header of a pool is a header. -/
lemma headerName_of_mem_bodyLines (h : pool.Consistent) :
    ∀ line ∈ bodyLines pool, headerName line = none := by
  have hrow : ∀ row ∈ pool.subnets, headerName (rowLine row) = none := by
    intro row hrow
    obtain ⟨current, first, last, hcurrent, -⟩ := (h.rows row hrow).range
    refine headerName_eq_none_of_startsOutside ?_
    simp only [rowLine, hcurrent, ljust, List.append_assoc]
    exact startsOutside_chars (by decide) current _
  have hcount : headerName (countLine pool.declaredSubnetCount) = none := by
    refine headerName_eq_none_of_startsOutside ?_
    rw [countLine, List.append_assoc]
    exact startsOutside_digits (by decide) _ _
  have hlabel : ∀ label ∈ labels, ∀ value, headerName (labelLine label value) = none :=
    fun label hlabel value => headerName_labelLine hlabel value
  simp only [labels, List.forall_mem_cons] at hlabel
  obtain ⟨hutilization, hsize, htotal, hleased, hexcluded, hpending, -⟩ := hlabel
  simp only [bodyLines, List.cons_append, List.nil_append, List.forall_mem_cons,
    List.forall_mem_map]
  exact ⟨hutilization _, hsize _, htotal _, hleased _, hexcluded _, hpending _, hcount,
    headerName_eq_none_of_startsOutside (by decide), hrow⟩

lemma foldr_blockStep_of_forall (h : ∀ line ∈ lines, headerName line = none)
    (below : List Text × List (Text × List Text)) :
    lines.foldr blockStep below = (lines ++ below.1, below.2) := by
  induction lines with
  | nil => rfl
  | cons line lines ih =>
    obtain ⟨hline, hlines⟩ := List.forall_mem_cons.mp h
    rw [List.foldr_cons, ih hlines, blockStep, hline, List.cons_append]

lemma blocks_flatMap (h : ∀ pool ∈ pools, pool.Consistent ∧ pool.Printable) :
    blocks (pools.flatMap fun pool => headerLine pool.name :: bodyLines pool) =
      ([], pools.map fun pool => (pool.name, bodyLines pool)) := by
  unfold blocks
  induction pools with
  | nil => rfl
  | cons pool pools ih =>
    obtain ⟨⟨hconsistent, hprintable⟩, hpools⟩ := List.forall_mem_cons.mp h
    rw [List.flatMap_cons, List.cons_append, List.foldr_cons, List.foldr_append, ih hpools,
      foldr_blockStep_of_forall (headerName_of_mem_bodyLines hconsistent), blockStep,
      headerName_headerLine hprintable.name_ne hprintable.name_chars, List.append_nil,
      List.map_cons]

lemma parseRow_rowLine (h : row.Consistent) : parseRow (rowLine row) = some row := by
  obtain ⟨current, first, last, hcurrent, hfirst, hlast, hge, hle, hsize⟩ := h.range
  have hquad : ∀ address, isQuad (Ipaddress.chars address) = true := fun address =>
    isQuad_of_parseIPv4 (Ipaddress.parseIPv4_chars address)
  have hvalid := not_invalid_iff.mpr ⟨hge, hle, hsize, h.counters⟩
  rw [parseRow, fullmatch_rowLine hcurrent hfirst hlast]
  simp only [hcurrent, hfirst, hlast, hquad, Bool.and_self, if_true, Ipaddress.parseIPv4_chars,
    int_digits]
  rw [if_neg hvalid, ← hcurrent, ← hfirst, ← hlast]

/-- The fixed lines of a printed block are read. -/
lemma matches?_bodyLines (h : pool.Printable) :
    matches? (bodyLines pool) =
      some [[digits pool.utilizationHigh, digits pool.utilizationLow],
        [digits pool.subnetSizeFirst, digits pool.subnetSizeNext], [digits pool.totalAddresses],
        [digits pool.leasedAddresses], [digits pool.excludedAddresses], [pool.pendingEvent],
        [digits pool.declaredSubnetCount], []] := by
  obtain ⟨hstarts, hends⟩ := outside_of_strip h.event_strip
  have hnumber : ∀ label n, fullmatch (labelled label number) (labelLine label (digits n)) =
      some [digits n] := fun label n =>
    (fullmatch_labelled label number (visible_digits n).starts).trans (fullmatch_number n)
  have hslashed : ∀ label m n, fullmatch (labelled label twoNumbers)
      (labelLine label (slashed m n)) = some [digits m, digits n] := fun label m n => by
    refine (fullmatch_labelled label twoNumbers ?_).trans (fullmatch_twoNumbers m n)
    rw [slashed, List.append_assoc]
    exact (visible_digits m).starts.append (digits_ne_nil m)
  have hevent : fullmatch (labelled "Pending event" visibleText)
      (labelLine "Pending event" pool.pendingEvent) = some [pool.pendingEvent] := by
    refine (fullmatch_labelled _ visibleText hstarts).trans (fullmatch_rest ?_ ?_ ?_)
    · intro c hc
      rw [decide_eq_true_eq]
      rintro rfl
      exact absurd (h.event_line _ hc) (by decide)
    · cases hevent : pool.pendingEvent with
      | nil => exact absurd hevent h.event_ne
      | cons c rest =>
        rw [hevent, startsOutside_cons] at hstarts
        simp [hstarts]
    · cases hlast : pool.pendingEvent.getLast? with
      | none => exact absurd (List.getLast?_eq_none_iff.mp hlast) h.event_ne
      | some c =>
        rw [EndsOutside, hlast, Option.any_some] at hends
        simp [hends]
  simp only [matches?, patterns, bodyLines, List.cons_append, List.nil_append, List.zip_cons_cons,
    List.zip_nil_left, List.mapM_cons, List.mapM_nil, hnumber, hslashed, hevent,
    fullmatch_countLine, fullmatch_columnLine]
  rfl

/-- A printed block is read back. -/
lemma parseDhcpPoolBlock_bodyLines (hconsistent : pool.Consistent) (hprintable : pool.Printable) :
    parseDhcpPoolBlock pool.name (bodyLines pool) = some pool := by
  have hrows : (pool.subnets.map rowLine).mapM parseRow = some pool.subnets := by
    rw [Fallible.mapM_eq_some_iff, List.forall₂_map_left_iff, List.forall₂_same]
    exact fun row hrow => parseRow_rowLine (hconsistent.rows row hrow)
  have hcount : pool.subnets.length ≠ 0 := by simpa using hconsistent.subnets_ne
  have hlength : (bodyLines pool).length = 8 + pool.subnets.length := by
    rw [bodyLines, List.length_append, List.length_map]
    rfl
  have hdrop : (bodyLines pool).drop patterns.length = pool.subnets.map rowLine := rfl
  have hpatterns : patterns.length = 8 := rfl
  have hle := hconsistent.le
  rw [parseDhcpPoolBlock, if_neg (by omega), matches?_bodyLines hprintable]
  simp only [hdrop, hrows, int_digits, List.length_map]
  rw [if_neg, if_neg]
  · rintro (h | h | h | h)
    · exact h hconsistent.total.symm
    · exact h hconsistent.leased.symm
    · exact h hconsistent.excluded.symm
    · omega
  · rw [hconsistent.declared]
    simp [hcount]

/-- Printed blocks with different names are read back one after the other. -/
lemma parseBlocks_map {seen : List Text} (h : ∀ pool ∈ pools, pool.Consistent ∧ pool.Printable)
    (hnodup : (pools.map fun pool => casefold pool.name).Nodup)
    (hseen : ∀ pool ∈ pools, casefold pool.name ∉ seen) :
    parseBlocks seen (pools.map fun pool => (pool.name, bodyLines pool)) = some pools := by
  induction pools generalizing seen with
  | nil => rfl
  | cons pool pools ih =>
    obtain ⟨⟨hconsistent, hprintable⟩, hpools⟩ := List.forall_mem_cons.mp h
    obtain ⟨hfresh, hseen⟩ := List.forall_mem_cons.mp hseen
    rw [List.map_cons, List.nodup_cons] at hnodup
    have hlater : ∀ other ∈ pools, casefold other.name ∉ casefold pool.name :: seen := by
      intro other hother hmem
      rcases List.mem_cons.mp hmem with heq | hmem
      · exact hnodup.1 (heq ▸ List.mem_map_of_mem (f := fun pool => casefold pool.name) hother)
      · exact hseen other hother hmem
    have hrest := ih hpools hnodup.2 hlater
    rw [List.map_cons, parseBlocks, if_neg hfresh,
      parseDhcpPoolBlock_bodyLines hconsistent hprintable]
    simp only [hrest]
    rfl

/-! ## Reading the whole text -/

/-- What the printed lines of a pool show. -/
lemma forall₂_poolLines (hconsistent : pool.Consistent) (hprintable : pool.Printable) :
    ∃ shown, List.Forall₂ Shows (poolLines pool) shown ∧
      shown.filter (· ≠ []) = headerLine pool.name :: bodyLines pool := by
  have hrows : List.Forall₂ Shows (pool.subnets.map fun row => ' ' :: rowLine row)
      (pool.subnets.map rowLine) := by
    rw [List.forall₂_map_left_iff, List.forall₂_map_right_iff, List.forall₂_same]
    exact fun row hrow => (visible_rowLine (hconsistent.rows row hrow)).shows_indented
  have hfilter : (pool.subnets.map rowLine).filter (· ≠ []) = pool.subnets.map rowLine := by
    refine List.filter_eq_self.mpr fun line hline => ?_
    obtain ⟨row, hrow, rfl⟩ := List.mem_map.mp hline
    simpa using (visible_rowLine (hconsistent.rows row hrow)).ne
  have hlabel : ∀ label value, labelLine label value ≠ [] := fun label value => by
    simp [labelLine]
  have hheader : headerLine pool.name ≠ [] := by simp [headerLine]
  have hcount : countLine pool.declaredSubnetCount ≠ [] := (visible_countLine _).ne
  have hsub : ∀ label ∈ labels, label ∈ labels := fun _ h => h
  simp only [labels, List.forall_mem_cons] at hsub
  obtain ⟨hutilization, hsize, htotal, hleased, hexcluded, -⟩ := hsub
  refine ⟨[[], headerLine pool.name,
    labelLine "Utilization mark (high/low)" (slashed pool.utilizationHigh pool.utilizationLow),
    labelLine "Subnet size (first/next)" (slashed pool.subnetSizeFirst pool.subnetSizeNext),
    labelLine "Total addresses" (digits pool.totalAddresses),
    labelLine "Leased addresses" (digits pool.leasedAddresses),
    labelLine "Excluded addresses" (digits pool.excludedAddresses),
    labelLine "Pending event" pool.pendingEvent, [],
    countLine pool.declaredSubnetCount, columnLine] ++ pool.subnets.map rowLine, ?_, ?_⟩
  · simp only [poolLines, List.cons_append, List.nil_append, List.forall₂_cons]
    exact ⟨shows_nil, (visible_headerLine hprintable.name_chars).shows,
      (visible_slashed hutilization _ _).shows_indented, (visible_slashed hsize _ _).shows_padded,
      (visible_number htotal _).shows_indented, (visible_number hleased _).shows_indented,
      (visible_number hexcluded _).shows_indented, shows_event hprintable, shows_nil,
      (visible_countLine _).shows_indented, visible_columnLine.shows_indented, hrows⟩
  · rw [List.filter_append, hfilter]
    simp [hlabel, hheader, hcount, visible_columnLine.ne, bodyLines]

lemma forall₂_flatMap_poolLines (h : ∀ pool ∈ pools, pool.Consistent ∧ pool.Printable) :
    ∃ shown, List.Forall₂ Shows (pools.flatMap poolLines) shown ∧ shown.filter (· ≠ []) =
      pools.flatMap fun pool => headerLine pool.name :: bodyLines pool := by
  induction pools with
  | nil => exact ⟨[], List.Forall₂.nil, rfl⟩
  | cons pool pools ih =>
    obtain ⟨⟨hconsistent, hprintable⟩, hpools⟩ := List.forall_mem_cons.mp h
    obtain ⟨first, hfirst, hfirst'⟩ := forall₂_poolLines hconsistent hprintable
    obtain ⟨rest, hrest, hrest'⟩ := ih hpools
    refine ⟨first ++ rest, ?_, ?_⟩
    · rw [List.flatMap_cons]
      exact List.rel_append hfirst hrest
    · rw [List.filter_append, hfirst', hrest', List.flatMap_cons]

lemma mark_of_isPromptEnd (h : CommandDispatch.isPromptEnd c = true) : c = '>' ∨ c = '#' := by
  simpa [CommandDispatch.isPromptEnd] using h

lemma isHostChar_cases (h : isHostChar c = true) :
    ignoringCase isNameChar c = true ∨ c = '(' ∨ c = ')' := by
  simp only [isHostChar, Bool.or_eq_true, decide_eq_true_eq] at h
  rcases h with (hname | hopen) | hclose
  · left
    simp [ignoringCase, hname]
  · exact Or.inr (Or.inl hopen)
  · exact Or.inr (Or.inr hclose)

/-- A prompt is visible. -/
lemma visible_prompt (prompt : Prompt) : Visible prompt.text := by
  have hhost : ∀ c ∈ prompt.host, isPlain c = true ∧ isSpace c = false ∧ c ≠ '%' := by
    intro c hc
    rcases isHostChar_cases (prompt.host_chars c hc) with hname | rfl | rfl
    · obtain ⟨hplain, hspace, -⟩ := isPlain_of_isNameChar hname
      refine ⟨hplain, hspace, ?_⟩
      rintro rfl
      exact absurd hname (by decide)
    · decide
    · decide
  have hmark : isPlain prompt.mark = true ∧ isSpace prompt.mark = false := by
    rcases mark_of_isPromptEnd prompt.mark_end with h | h
    · rw [h]
      decide
    · rw [h]
      decide
  exact (visible_of_forall prompt.host_ne hhost).append (List.cons_ne_nil _ _) hmark.2 (List.forall_mem_singleton.mpr hmark.1)

lemma visible_echoLine (prompt : Option Prompt) : Visible (echoLine prompt) := by
  have hcommand : Visible "show ip dhcp pool".toList :=
    ⟨by decide, by rfl, by rfl, by decide, by decide⟩
  cases prompt with
  | none => exact hcommand
  | some prompt => exact (visible_prompt prompt).append hcommand.ne hcommand.ends hcommand.plain

lemma fullmatch_showIpDhcpPool :
    fullmatch showIpDhcpPool "show ip dhcp pool".toList = some [] := by
  decide

lemma fullmatch_prompt_append (hp : ∀ c, isHostChar c = true → p c = true)
    (hmark : ∀ c, CommandDispatch.isPromptEnd c = true → p c = false) (prompt' : Prompt)
    (parts : List (LinePatterns.Part Char)) (s : Text) :
    fullmatch (prompt p ++ parts) (prompt'.text ++ s) = fullmatch parts s := by
  have hpattern : prompt p ++ parts =
      someOf p ++ (.one CommandDispatch.isPromptEnd :: parts) := by
    rw [prompt, List.append_assoc, List.singleton_append]
  have hs : StartsOutside p (prompt'.mark :: s) := hmark _ prompt'.mark_end
  rw [hpattern, Prompt.text, List.append_assoc, List.singleton_append,
    fullmatch_someOf_append _ prompt'.host_ne (fun c hc => hp c (prompt'.host_chars c hc)) hs,
    fullmatch_one_cons _ _ prompt'.mark_end]

lemma not_isHostChar_of_isPromptEnd (h : CommandDispatch.isPromptEnd c = true) :
    isHostChar c = false ∧ ignoringCase isHostChar c = false := by
  rcases mark_of_isPromptEnd h with rfl | rfl
  · decide
  · decide

lemma isCommandEcho_echoLine (prompt : Option Prompt) : isCommandEcho (echoLine prompt) = true := by
  rw [isCommandEcho, Bool.or_eq_true]
  rcases prompt with _ | prompt
  · right
    exact Option.isSome_of_eq_some fullmatch_showIpDhcpPool
  left
  have hpad : fullmatch (pad ++ showIpDhcpPool) "show ip dhcp pool".toList = some [] :=
    (fullmatch_pad_append (n := 0) showIpDhcpPool (by rfl)).trans fullmatch_showIpDhcpPool
  have hecho := fullmatch_prompt_append (p := ignoringCase isHostChar)
    (fun c hc => by simp [ignoringCase, hc])
    (fun c hc => (not_isHostChar_of_isPromptEnd hc).2) prompt (pad ++ showIpDhcpPool)
    "show ip dhcp pool".toList
  rw [← List.append_assoc, hpad] at hecho
  exact Option.isSome_of_eq_some hecho

lemma fullmatch_prompt_eq_none (parts : List (LinePatterns.Part Char)) (hne : x ≠ [])
    (hx : ∀ c ∈ x, p c = true) (hs : StartsOutside p s)
    (hmark : StartsOutside CommandDispatch.isPromptEnd s) :
    fullmatch (prompt p ++ parts) (x ++ s) = none := by
  have hpattern : prompt p ++ parts =
      someOf p ++ (.one CommandDispatch.isPromptEnd :: parts) := by
    rw [prompt, List.append_assoc, List.singleton_append]
  rw [hpattern, fullmatch_someOf_append _ hne hx hs, fullmatch_one_eq_none _ hmark]

lemma isCommandEcho_headerLine (name : Text) : isCommandEcho (headerLine name) = false := by
  have hline : headerLine name = "Pool".toList ++ ' ' :: (name ++ " :".toList) := by
    rw [headerLine, List.append_assoc]
    rfl
  have hprompt : fullmatch (prompt (ignoringCase isHostChar) ++ (pad ++ showIpDhcpPool))
      (headerLine name) = none := by
    rw [hline]
    exact fullmatch_prompt_eq_none _ (by simp) (by decide) (by rfl) (by rfl)
  obtain ⟨parts, hparts⟩ : ∃ parts, showIpDhcpPool = .one (ignoringCase (· = 's')) :: parts :=
    ⟨_, rfl⟩
  have hshow : fullmatch showIpDhcpPool (headerLine name) = none := by
    rw [hparts, hline]
    exact fullmatch_one_eq_none _ (by rfl)
  rw [isCommandEcho, List.append_assoc, hprompt, hshow]
  rfl

lemma isPrompt_text (prompt : Prompt) : isPrompt prompt.text = true := by
  have hprompt := fullmatch_prompt_append (p := isHostChar) (fun _ hc => hc)
    (fun c hc => (not_isHostChar_of_isPromptEnd hc).1) prompt [] []
  rw [List.append_nil, List.append_nil, fullmatch_nil] at hprompt
  exact Option.isSome_of_eq_some hprompt

lemma isPrompt_rowLine (h : row.Consistent) : isPrompt (rowLine row) = false := by
  obtain ⟨current, first, last, hcurrent, -⟩ := h.range
  obtain ⟨rest, hrest⟩ : ∃ rest, rowLine row = Ipaddress.chars current ++ ' ' :: rest := by
    simp only [rowLine, hcurrent, ljust, List.append_assoc]
    cases 20 - (Ipaddress.chars current).length with
    | zero | succ k => exact ⟨_, rfl⟩
  have hnone := fullmatch_prompt_eq_none (p := isHostChar) [] (chars_ne_nil current)
    (forall_chars (by decide) (by decide)) (s := ' ' :: rest) (by rfl) (by rfl)
  rw [List.append_nil] at hnone
  rw [isPrompt, hrest, hnone]
  rfl

lemma getLast?_flatMap (hne : pools ≠ []) (h : ∀ pool ∈ pools, pool.Consistent) :
    ∃ row : DhcpPoolSubnetStatistics, row.Consistent ∧
      (pools.flatMap fun pool => headerLine pool.name :: bodyLines pool).getLast? =
        some (rowLine row) := by
  obtain ⟨init, pool, rfl⟩ := (List.eq_nil_or_concat pools).resolve_left hne
  have hpool := h pool (by simp)
  obtain ⟨rows, row, hrows⟩ := (List.eq_nil_or_concat pool.subnets).resolve_left hpool.subnets_ne
  refine ⟨row, hpool.rows row (by simp [hrows]), ?_⟩
  rw [List.concat_eq_append, List.flatMap_append, List.flatMap_singleton, bodyLines, hrows,
    List.concat_eq_append, List.map_append, List.map_singleton, ← List.append_assoc,
    ← List.cons_append, ← List.append_assoc, List.getLast?_concat]

lemma dropEcho_append (echo : Option (Option Prompt)) (lines : List Text) :
    dropEcho ((echo.map echoLine).toList ++ headerLine name :: lines) =
      headerLine name :: lines := by
  rcases echo with _ | echo
  · rw [Option.map_none, Option.toList_none, List.nil_append, dropEcho, if_neg]
    rw [List.head?_cons, Option.any_some, isCommandEcho_headerLine]
    exact Bool.false_ne_true
  rw [dropEcho, if_pos]
  · rfl
  · exact isCommandEcho_echoLine echo

lemma dropPrompt_append (prompt : Option Prompt) (h : row.Consistent)
    (hlast : lines.getLast? = some (rowLine row)) :
    dropPrompt (lines ++ (prompt.map Prompt.text).toList) = lines := by
  rcases prompt with _ | prompt
  · rw [Option.map_none, Option.toList_none, List.append_nil, dropPrompt, if_neg]
    simp [hlast, isPrompt_rowLine h]
  rw [Option.map_some, Option.toList_some, dropPrompt, if_pos, List.dropLast_concat]
  rw [List.getLast?_concat]
  exact isPrompt_text prompt

lemma forall₂_toList {line : Option Text} (h : ∀ text ∈ line, Visible text) :
    List.Forall₂ Shows line.toList line.toList ∧ line.toList.filter (· ≠ []) = line.toList := by
  constructor
  · exact List.forall₂_same.mpr fun text htext => (h text (Option.mem_toList.mp htext)).shows
  · refine List.filter_eq_self.mpr fun text htext => ?_
    simpa using (h text (Option.mem_toList.mp htext)).ne

/-- **What is printed is read back**, with the echo of the command in front and a prompt behind or
without them. -/
lemma parseShowIpDhcpPool_print (echo : Option (Option Prompt)) (prompt : Option Prompt)
    (hne : pools ≠ []) (hnodup : (pools.map fun pool => casefold pool.name).Nodup)
    (h : ∀ pool ∈ pools, pool.Consistent ∧ pool.Printable) :
    parseShowIpDhcpPool (printShowIpDhcpPool echo pools prompt) = some pools := by
  obtain ⟨shown, hshown, hfilter⟩ := forall₂_flatMap_poolLines h
  obtain ⟨hecho, hecho'⟩ := @forall₂_toList (echo.map echoLine) fun text htext => by
    obtain ⟨prompt, -, rfl⟩ := Option.map_eq_some_iff.mp htext
    exact visible_echoLine prompt
  obtain ⟨hprompt, hprompt'⟩ := @forall₂_toList (prompt.map Prompt.text) fun text htext => by
    obtain ⟨prompt, -, rfl⟩ := Option.map_eq_some_iff.mp htext
    exact visible_prompt prompt
  obtain ⟨hnormal, hreason, hstripped⟩ := strippedLines_unlines
    (List.rel_append (List.rel_append hecho hshown) hprompt)
  obtain ⟨row, hrow, hlast⟩ := getLast?_flatMap hne fun pool hpool => (h pool hpool).1
  have hblocks := blocks_flatMap h
  have hparse := @parseBlocks_map _ [] h hnodup (by simp)
  obtain ⟨pool, rest, rfl⟩ := List.exists_cons_of_ne_nil hne
  rw [List.filter_append, List.filter_append, hecho', hfilter, hprompt', List.append_assoc]
    at hstripped
  have hread : dropPrompt (dropEcho (strippedLines (printShowIpDhcpPool echo (pool :: rest)
      prompt))) = (pool :: rest).flatMap fun pool => headerLine pool.name :: bodyLines pool := by
    have hdrop := dropPrompt_append prompt hrow hlast
    rw [List.flatMap_cons] at hdrop ⊢
    rw [printShowIpDhcpPool, hstripped, List.flatMap_cons, List.cons_append, List.cons_append,
      dropEcho_append]
    exact hdrop
  have hnormal' : normalizeTerminalOutput (printShowIpDhcpPool echo (pool :: rest) prompt) =
    printShowIpDhcpPool echo (pool :: rest) prompt := hnormal
  have hreason' : iosRejectionReason (printShowIpDhcpPool echo (pool :: rest) prompt) = none :=
    hreason
  rw [parseShowIpDhcpPool]
  simp only [hnormal', hreason', hread, hblocks, Option.isSome_none, Bool.false_eq_true, if_false,
    List.map_cons]
  exact hparse

/-- **The printer and the parser agree, and what is accepted is consistent.**  Pools with different
names, consistent counters and texts that fit the layout are read back from what is printed of them.
The pools of every accepted text have different names, their counters are the sums of the counters
of their rows, and no pool has less than nothing available. -/
theorem parseShowIpDhcpPool_correct :
    (∀ (echo : Option (Option Prompt)) (pools : List DhcpPoolStatistics) (prompt : Option Prompt),
      pools ≠ [] → (pools.map fun pool => casefold pool.name).Nodup →
        (∀ pool ∈ pools, pool.Consistent) → (∀ pool ∈ pools, pool.Printable) →
          parseShowIpDhcpPool (printShowIpDhcpPool echo pools prompt) = some pools) ∧
      ∀ (value : Text) (pools : List DhcpPoolStatistics), parseShowIpDhcpPool value = some pools →
        pools ≠ [] ∧ (pools.map fun pool => casefold pool.name).Nodup ∧ ∀ pool ∈ pools,
          pool.totalAddresses = (pool.subnets.map (·.totalAddresses)).sum ∧
          pool.leasedAddresses = (pool.subnets.map (·.leasedAddresses)).sum ∧
          pool.excludedAddresses = (pool.subnets.map (·.excludedAddresses)).sum ∧
          pool.leasedAddresses + pool.excludedAddresses ≤ pool.totalAddresses ∧
          0 ≤ pool.availableAddresses := by
  constructor
  · intro echo pools prompt hne hnodup hconsistent hprintable
    exact parseShowIpDhcpPool_print echo prompt hne hnodup fun pool hpool =>
      ⟨hconsistent pool hpool, hprintable pool hpool⟩
  · intro value pools h
    obtain ⟨hne, hnodup, hconsistent⟩ := consistent_of_parseShowIpDhcpPool h
    refine ⟨hne, hnodup, fun pool hpool => ?_⟩
    have hpool := hconsistent pool hpool
    exact ⟨hpool.total, hpool.leased, hpool.excluded, hpool.le, hpool.availableAddresses_nonneg⟩

/-- A pool of six addresses with the given pending event. -/
def smallPool (pendingEvent : Text) : DhcpPoolStatistics where
  name := ['L', 'A', 'N']
  utilizationHigh := 100
  utilizationLow := 0
  subnetSizeFirst := 0
  subnetSizeNext := 0
  totalAddresses := 6
  leasedAddresses := 2
  excludedAddresses := 1
  pendingEvent := pendingEvent
  declaredSubnetCount := 1
  subnets :=
    [{ currentIndex := Ipaddress.chars 0x0A000003
       rangeStart := Ipaddress.chars 0x0A000001
       rangeEnd := Ipaddress.chars 0x0A000006
       leasedAddresses := 2
       excludedAddresses := 1
       totalAddresses := 6 }]

lemma consistent_smallPool (pendingEvent : Text) : (smallPool pendingEvent).Consistent where
  declared := rfl
  subnets_ne := by simp [smallPool]
  rows := by
    refine List.forall_mem_singleton.mpr ⟨⟨_, _, _, rfl, rfl, rfl, ?_, ?_, ?_⟩, ?_⟩
    · decide
    · decide
    · decide
    · decide
  total := rfl
  leased := rfl
  excluded := rfl

/-- The small pool without a pending event is read back from what is printed of it. -/
theorem parseShowIpDhcpPool_correct_smallPool :
    parseShowIpDhcpPool (printShowIpDhcpPool (some none) [smallPool ['n', 'o', 'n', 'e']]
      (some ⟨['R'], '#', by decide, by decide, by decide⟩)) =
        some [smallPool ['n', 'o', 'n', 'e']] :=
  parseShowIpDhcpPool_correct.1 _ _ _ (by simp) (by simp)
    (List.forall_mem_singleton.mpr (consistent_smallPool _))
    (List.forall_mem_singleton.mpr
      ⟨by simp [smallPool], by decide, by simp [smallPool], by decide, by decide, by decide⟩)

/-- An empty pending event is consistent with any counters, but the layout has no place for it: the
table that is printed of it is unreadable. -/
theorem not_forall_parseShowIpDhcpPool :
    ¬∀ (echo : Option (Option Prompt)) (pools : List DhcpPoolStatistics) (prompt : Option Prompt),
      pools ≠ [] → (pools.map fun pool => casefold pool.name).Nodup →
        (∀ pool ∈ pools, pool.Consistent) →
          parseShowIpDhcpPool (printShowIpDhcpPool echo pools prompt) = some pools := by
  intro h
  have hread := h none [smallPool []] none (by simp) (by simp)
    (List.forall_mem_singleton.mpr (consistent_smallPool []))
  have hnone : parseShowIpDhcpPool (printShowIpDhcpPool none [smallPool []] none) = none := by
    decide
  rw [hnone] at hread
  cases hread

end IosTerminal

end PacketTracer
