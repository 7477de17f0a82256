import PacketTracer.Infrastructure.CommandDispatch
import PacketTracer.Library.Fallible
import PacketTracer.Library.Ipaddress
import PacketTracer.Library.LinePattern

/-!
# The table of `show ip dhcp pool`

`ios_terminal.py`, `parse_show_ip_dhcp_pool` and `_parse_dhcp_pool_block`: the parser that is closed
over the layout it was measured on.  A text with an unknown line, a pool given twice, counters that
do not add up or a rejection of the command is unreadable as a whole.
-/

namespace PacketTracer

open PyStrs LinePatterns

namespace IosTerminal

/-! ## The rows of the table -/

/-- `DhcpPoolSubnetStatistics`. -/
structure DhcpPoolSubnetStatistics where
  currentIndex : Text
  rangeStart : Text
  rangeEnd : Text
  leasedAddresses : ℕ
  excludedAddresses : ℕ
  totalAddresses : ℕ
  deriving DecidableEq

/-- `DhcpPoolStatistics`. -/
structure DhcpPoolStatistics where
  name : Text
  utilizationHigh : ℕ
  utilizationLow : ℕ
  subnetSizeFirst : ℕ
  subnetSizeNext : ℕ
  totalAddresses : ℕ
  leasedAddresses : ℕ
  excludedAddresses : ℕ
  pendingEvent : Text
  declaredSubnetCount : ℕ
  subnets : List DhcpPoolSubnetStatistics
  deriving DecidableEq

/-- `available_addresses`. -/
def DhcpPoolStatistics.availableAddresses (pool : DhcpPoolStatistics) : ℤ :=
  pool.totalAddresses - pool.leasedAddresses - pool.excludedAddresses

/-! ## The text of the terminal -/

/-- `[0-9;]`. -/
def isCsiParameter (c : Char) : Bool := ('0' ≤ c && c ≤ '9') || c = ';'

/-- The length of a match of `\x1b\[[0-9;]*[A-Za-z]` at the front of a text. -/
def csiLength : Text → ℕ
  | '\x1b' :: '[' :: body =>
    match body.dropWhile isCsiParameter with
    | [] => 0
    | final :: _ =>
      if CommandDispatch.isAsciiLetter final then (body.takeWhile isCsiParameter).length + 3 else 0
  | _ => 0

/-- `normalize_terminal_output`. -/
def normalizeTerminalOutput (value : Text) : Text :=
  CommandDispatch.replaceCr (CommandDispatch.replaceCrLf (dropMatches csiLength 0 value))

/-- Whether a line says that the command was rejected. -/
def isRejection (line : Text) : Bool :=
  (line.dropWhile isSpace).head? = some '%' && !CommandDispatch.isIosSyslog line &&
    strip line ≠ ['%']

/-- `ios_rejection_reason`. -/
def iosRejectionReason (value : Text) : Option Text :=
  ((splitlines (normalizeTerminalOutput value)).find? isRejection).map strip

/-! ## The patterns -/

/-- A text of a pattern with `re.IGNORECASE`. -/
def word (s : String) : List (LinePatterns.Part Char) :=
  literal (fun c d => ignoringCase (· = c) d) s.toList

/-- `\s+`. -/
def gap : List (LinePatterns.Part Char) := someOf isSpace

/-- `\s*`. -/
def pad : List (LinePatterns.Part Char) := [.run isSpace]

/-- `(\d+)`. -/
def number : List (LinePatterns.Part Char) := [.field isDecimal]

/-- `[A-Za-z0-9_.-]`. -/
def isNameChar (c : Char) : Bool :=
  CommandDispatch.isAsciiLetter c || ('0' ≤ c && c ≤ '9') || c = '_' || c = '.' || c = '-'

/-- `[A-Za-z0-9_.()-]`. -/
def isHostChar (c : Char) : Bool := isNameChar c || c = '(' || c = ')'

/-- `show\s+ip\s+dhcp\s+pool`. -/
def showIpDhcpPool : List (LinePatterns.Part Char) :=
  word "show" ++ gap ++ word "ip" ++ gap ++ word "dhcp" ++ gap ++ word "pool"

/-- `[…]+[>#]` over a class of characters of host names. -/
def prompt (p : Char → Bool) : List (LinePatterns.Part Char) :=
  someOf p ++ [.one CommandDispatch.isPromptEnd]

/-- Whether a line is the echo of the command, behind a prompt or not. -/
def isCommandEcho (line : Text) : Bool :=
  (fullmatch (prompt (ignoringCase isHostChar) ++ pad ++ showIpDhcpPool) line).isSome ||
    (fullmatch showIpDhcpPool line).isSome

/-- Whether a line is a prompt. -/
def isPrompt (line : Text) : Bool := (fullmatch (prompt isHostChar) line).isSome

/-- `pool_header`. -/
def poolHeader : List (LinePatterns.Part Char) :=
  word "Pool" ++ gap ++ .field (ignoringCase isNameChar) :: pad ++ word ":" ++ pad

/-- A label, a colon and what stands behind it. -/
def labelled (label : String) (value : List (LinePatterns.Part Char)) :
    List (LinePatterns.Part Char) :=
  word label ++ pad ++ word ":" ++ pad ++ value

/-- `(\d+)\s*/\s*(\d+)`. -/
def twoNumbers : List (LinePatterns.Part Char) := number ++ pad ++ word "/" ++ pad ++ number

/-- `(\S(?:.*\S)?)`. -/
def visibleText : List (LinePatterns.Part Char) := [.rest (· ≠ '\n') fun c => !isSpace c]

/-- `(\d+)\s+subnets?\s+(?:is|are)\s+currently\s+in\s+the\s+pool` for one of the two verbs. -/
def subnetCount (verb : String) : List (LinePatterns.Part Char) :=
  number ++ gap ++ word "subnet" ++ .opt (ignoringCase (· = 's')) :: gap ++ word verb ++ gap ++
    word "currently" ++ gap ++ word "in" ++ gap ++ word "the" ++ gap ++ word "pool"

/-- `patterns` of `_parse_dhcp_pool_block`. -/
def patterns : List (Text → Option (List Text)) :=
  [fullmatch (labelled "Utilization mark (high/low)" twoNumbers),
    fullmatch (labelled "Subnet size (first/next)" twoNumbers),
    fullmatch (labelled "Total addresses" number),
    fullmatch (labelled "Leased addresses" number),
    fullmatch (labelled "Excluded addresses" number),
    fullmatch (labelled "Pending event" visibleText),
    fun line => fullmatch (subnetCount "is") line <|> fullmatch (subnetCount "are") line,
    fullmatch (word "Current index" ++ gap ++ word "IP address range" ++ gap ++
      word "Leased/Excluded/Total")]

/-- The characters of `\d{1,3}(?:\.\d{1,3}){3}`. -/
def isQuadChar (c : Char) : Bool := isDecimal c || c = '.'

/-- Whether a run of digits and dots is a match of `\d{1,3}(?:\.\d{1,3}){3}`. -/
def isQuad (s : Text) : Bool :=
  (s.splitOn '.').length = 4 &&
    (s.splitOn '.').all fun octet => octet ≠ [] && octet.length ≤ 3 && octet.all isDecimal

/-- `row_pattern`.  What stands behind an address is no digit and no dot, so each address is a
longest run of digits and dots; `isQuad` is asked of the runs. -/
def rowPattern : List (LinePatterns.Part Char) :=
  .field isQuadChar :: gap ++ .field isQuadChar :: gap ++ .one (· = '-') :: gap ++
    .field isQuadChar :: gap ++ .field isDecimal :: pad ++ .one (· = '/') :: pad ++
    .field isDecimal :: pad ++ .one (· = '/') :: pad ++ [.field isDecimal]

/-! ## The parser -/

/-- One line of `row_lines`. -/
def parseRow (line : Text) : Option DhcpPoolSubnetStatistics :=
  match fullmatch rowPattern line with
  | some [index, start, last, leased, excluded, total] =>
    if isQuad index && isQuad start && isQuad last then
      match Ipaddress.parseIPv4 index, Ipaddress.parseIPv4 start, Ipaddress.parseIPv4 last with
      | some current, some rangeStart, some rangeEnd =>
        if rangeStart > rangeEnd ∨ (rangeEnd : ℤ) - rangeStart + 1 ≠ int total ∨
            int leased + int excluded > int total ∨
            ¬(rangeStart ≤ current ∧ current ≤ rangeEnd) then none
        else some
          { currentIndex := Ipaddress.chars current
            rangeStart := Ipaddress.chars rangeStart
            rangeEnd := Ipaddress.chars rangeEnd
            leasedAddresses := int leased
            excludedAddresses := int excluded
            totalAddresses := int total }
      | _, _, _ => none
    else none
  | _ => none

/-- The groups of the fixed lines of a block. -/
def matches? (lines : List Text) : Option (List (List Text)) :=
  (patterns.zip lines).mapM fun line => line.1 line.2

/-- `_parse_dhcp_pool_block`. -/
def parseDhcpPoolBlock (name : Text) (lines : List Text) : Option DhcpPoolStatistics :=
  if lines.length < patterns.length + 1 then none
  else
    match matches? lines with
    | some [[high, low], [first, next], [total], [leased], [excluded], [pending], [declared], []] =>
      let rowLines := lines.drop patterns.length
      if int declared = 0 ∨ rowLines.length ≠ int declared then none
      else
        match rowLines.mapM parseRow with
        | none => none
        | some subnets =>
          if (subnets.map (·.totalAddresses)).sum ≠ int total ∨
              (subnets.map (·.leasedAddresses)).sum ≠ int leased ∨
              (subnets.map (·.excludedAddresses)).sum ≠ int excluded ∨
              int leased + int excluded > int total then none
          else some
            { name := name
              utilizationHigh := int high
              utilizationLow := int low
              subnetSizeFirst := int first
              subnetSizeNext := int next
              totalAddresses := int total
              leasedAddresses := int leased
              excludedAddresses := int excluded
              pendingEvent := pending
              declaredSubnetCount := int declared
              subnets := subnets }
    | _ => none

/-- `str.casefold` of a character that a name can have. -/
def casefoldChar (c : Char) : Text :=
  if c = '\u0130' then ['i', '\u0307']
  else if c = '\u017f' then ['s']
  else if c = '\u212a' then ['k']
  else [c.toLower]

/-- `name.casefold()`. -/
def casefold (name : Text) : Text := name.flatMap casefoldChar

/-- The name in a header. -/
def headerName (line : Text) : Option Text :=
  match fullmatch poolHeader line with
  | some [name] => some name
  | _ => none

/-- One line of the table, read from the last line up: a header takes the lines below it, any other
line waits for its header. -/
def blockStep (line : Text) (below : List Text × List (Text × List Text)) :
    List Text × List (Text × List Text) :=
  match headerName line with
  | some name => ([], (name, below.1) :: below.2)
  | none => (line :: below.1, below.2)

/-- The headers of the table, each with the lines of its block; the lines in front of the first
header come first. -/
def blocks (lines : List Text) : List Text × List (Text × List Text) :=
  lines.foldr blockStep ([], [])

instance lawfulBEq_text : LawfulBEq (List Char) := inferInstance

/-- The blocks of the table, one after the other, with the names that were seen. -/
def parseBlocks : List Text → List (Text × List Text) → Option (List DhcpPoolStatistics)
  | _, [] => some []
  | seen, (name, body) :: rest =>
    if casefold name ∈ seen then none
    else
      match parseDhcpPoolBlock name body with
      | none => none
      | some pool => (parseBlocks (casefold name :: seen) rest).map (pool :: ·)

/-- The visible lines of a text, stripped. -/
def strippedLines (normalized : Text) : List Text :=
  ((splitlines normalized).map strip).filter (· ≠ [])

/-- The lines without the echo of the command in front. -/
def dropEcho (lines : List Text) : List Text :=
  if lines.head?.any isCommandEcho then lines.tail else lines

/-- The lines without the prompt at the end. -/
def dropPrompt (lines : List Text) : List Text :=
  if lines.getLast?.any isPrompt then lines.dropLast else lines

/-- `parse_show_ip_dhcp_pool`. -/
def parseShowIpDhcpPool (value : Text) : Option (List DhcpPoolStatistics) :=
  let normalized := normalizeTerminalOutput value
  if (iosRejectionReason normalized).isSome then none
  else
    match blocks (dropPrompt (dropEcho (strippedLines normalized))) with
    | ([], pool :: rest) => parseBlocks [] (pool :: rest)
    | _ => none

/-! ## What is accepted -/

/-- The counters of a row agree with its addresses. -/
structure DhcpPoolSubnetStatistics.Consistent (row : DhcpPoolSubnetStatistics) : Prop where
  /-- The texts are addresses, the current one lies in the range, and the total is its size. -/
  range : ∃ current first last : Ipaddress.IPv4Address,
    row.currentIndex = Ipaddress.chars current ∧ row.rangeStart = Ipaddress.chars first ∧
      row.rangeEnd = Ipaddress.chars last ∧ first ≤ current ∧ current ≤ last ∧
      (last : ℕ) + 1 = first + row.totalAddresses
  counters : row.leasedAddresses + row.excludedAddresses ≤ row.totalAddresses

/-- The counters of a pool are the sums of the counters of its rows. -/
structure DhcpPoolStatistics.Consistent (pool : DhcpPoolStatistics) : Prop where
  declared : pool.declaredSubnetCount = pool.subnets.length
  subnets_ne : pool.subnets ≠ []
  rows : ∀ row ∈ pool.subnets, row.Consistent
  total : pool.totalAddresses = (pool.subnets.map (·.totalAddresses)).sum
  leased : pool.leasedAddresses = (pool.subnets.map (·.leasedAddresses)).sum
  excluded : pool.excludedAddresses = (pool.subnets.map (·.excludedAddresses)).sum

variable {pool : DhcpPoolStatistics}

lemma DhcpPoolStatistics.Consistent.le (h : pool.Consistent) :
    pool.leasedAddresses + pool.excludedAddresses ≤ pool.totalAddresses := by
  rw [h.total, h.leased, h.excluded, ← List.sum_map_add]
  exact List.sum_le_sum fun row hrow => (h.rows row hrow).counters

lemma DhcpPoolStatistics.Consistent.availableAddresses_nonneg (h : pool.Consistent) :
    0 ≤ pool.availableAddresses := by
  have hle := h.le
  unfold DhcpPoolStatistics.availableAddresses
  omega

/-- The last check on a row passes exactly when the size and the order are right. -/
lemma not_invalid_iff {current first last : Ipaddress.IPv4Address} {leased excluded total : ℕ} :
    ¬(first > last ∨ (last : ℤ) - first + 1 ≠ total ∨ leased + excluded > total ∨
        ¬(first ≤ current ∧ current ≤ last)) ↔
      first ≤ current ∧ current ≤ last ∧ (last : ℕ) + 1 = first + total ∧
        leased + excluded ≤ total := by
  rw [gt_iff_lt, Fin.lt_def, Fin.le_def, Fin.le_def]
  constructor
  · intro h
    push Not at h
    obtain ⟨-, hsize, hcounters, hfirst, hlast⟩ := h
    exact ⟨hfirst, hlast, by omega, hcounters⟩
  · rintro ⟨hfirst, hlast, hsize, hcounters⟩ (h | h | h | h)
    · omega
    · exact h (by omega)
    · omega
    · exact h ⟨hfirst, hlast⟩

lemma consistent_of_parseRow {line : Text} {row : DhcpPoolSubnetStatistics}
    (h : parseRow line = some row) : row.Consistent := by
  unfold parseRow at h
  split at h
  · next index start last leased excluded total _ =>
    split at h
    · split at h
      · next current rangeStart rangeEnd _ _ _ =>
        split at h
        · cases h
        rename_i hvalid
        obtain ⟨hfirst, hlast, hsize, hcounters⟩ := not_invalid_iff.mp hvalid
        cases h
        exact ⟨⟨current, rangeStart, rangeEnd, rfl, rfl, rfl, hfirst, hlast, hsize⟩, hcounters⟩
      · cases h
    · cases h
  · cases h

/-- A block that is accepted is a consistent pool under its name. -/
lemma consistent_of_parseDhcpPoolBlock {name : Text} {lines : List Text}
    (h : parseDhcpPoolBlock name lines = some pool) : pool.name = name ∧ pool.Consistent := by
  unfold parseDhcpPoolBlock at h
  split at h
  · cases h
  split at h
  · next declared _ =>
    simp only at h
    split at h
    · cases h
    rename_i hdeclared
    obtain ⟨hpositive, hlength⟩ := not_or.mp hdeclared
    split at h
    · cases h
    rename_i subnets hsubnets
    split at h
    · cases h
    rename_i hsums
    push Not at hsums
    obtain ⟨htotal, hleased, hexcluded, -⟩ := hsums
    have hcount : subnets.length = int declared := by
      rw [← (Fallible.mapM_eq_some_iff.mp hsubnets).length_eq]
      exact not_not.mp hlength
    cases h
    refine ⟨rfl, hcount.symm, ?_, ?_, htotal.symm, hleased.symm, hexcluded.symm⟩
    · rintro rfl
      exact hpositive hcount.symm
    · intro row hrow
      obtain ⟨line, -, hline⟩ := (Fallible.mapM_eq_some hsubnets).2 row hrow
      exact consistent_of_parseRow hline
  · cases h

variable {pools : List DhcpPoolStatistics}

/-- The blocks that are accepted have consistent pools, with names that differ from each other and
from those seen before. -/
lemma consistent_of_parseBlocks {seen : List Text} {parts : List (Text × List Text)}
    (h : parseBlocks seen parts = some pools) :
    pools.length = parts.length ∧ (pools.map fun pool => casefold pool.name).Nodup ∧
      (∀ pool ∈ pools, casefold pool.name ∉ seen) ∧ ∀ pool ∈ pools, pool.Consistent := by
  induction parts generalizing seen pools with
  | nil =>
    cases h
    exact ⟨rfl, List.nodup_nil, by simp, by simp⟩
  | cons part parts ih =>
    obtain ⟨name, body⟩ := part
    unfold parseBlocks at h
    split at h
    · cases h
    rename_i hseen
    split at h
    · cases h
    rename_i pool hpool
    obtain ⟨rest, hrest, rfl⟩ := Option.map_eq_some_iff.mp h
    obtain ⟨hlength, hnodup, hfresh, hconsistent⟩ := ih hrest
    obtain ⟨rfl, hblock⟩ := consistent_of_parseDhcpPoolBlock hpool
    refine ⟨by rw [List.length_cons, List.length_cons, hlength], ?_, ?_, ?_⟩
    · rw [List.map_cons, List.nodup_cons]
      refine ⟨fun hmem => ?_, hnodup⟩
      obtain ⟨other, hother, heq⟩ := List.mem_map.mp hmem
      exact hfresh other hother (heq ▸ List.mem_cons_self)
    · intro other hother
      rcases List.mem_cons.mp hother with rfl | hother
      · exact hseen
      · exact fun hmem => hfresh other hother (List.mem_cons_of_mem _ hmem)
    · exact List.forall_mem_cons.mpr ⟨hblock, hconsistent⟩

/-- **What is accepted is consistent.**  The pools of an accepted text have different names, ignoring
case, and consistent counters, and there is one at least. -/
lemma consistent_of_parseShowIpDhcpPool {value : Text}
    (h : parseShowIpDhcpPool value = some pools) :
    pools ≠ [] ∧ (pools.map fun pool => casefold pool.name).Nodup ∧
      ∀ pool ∈ pools, pool.Consistent := by
  unfold parseShowIpDhcpPool at h
  simp only at h
  split at h
  · cases h
  split at h
  · next part parts _ =>
    obtain ⟨hlength, hnodup, -, hconsistent⟩ := consistent_of_parseBlocks h
    refine ⟨?_, hnodup, hconsistent⟩
    rintro rfl
    cases hlength
  · cases h

end IosTerminal

end PacketTracer
