import PacketTracer.Library.PyStr

/-!
# Two reconcilers of interface names

`same_interface_name` of `utils.py` replaces the longest listed beginning of a name by its short
form; `canonical_interface_name` of `ios_terminal.py` replaces the letters of a name by a long form
when its table has exactly these letters.  Both leave the slot and port alone, so they compare the
types (`aliasOf`, `speedOf`) and the numbers apart.

The types are words of letters in ASCII, where `casefold` is the lower case.
-/

namespace PacketTracer

namespace InterfaceNames

open PyStrs

/-! ## The two functions -/

/-- `str.casefold` of a text in ASCII. -/
def casefold (value : Text) : Text := value.map Char.toLower

/-- `_INTERFACE_ALIASES`. -/
def interfaceAliases : List (Text × Text) :=
  [("serial", "se"), ("tengigabitethernet", "te"), ("tengig", "te"), ("gigabitethernet", "gi"),
    ("gig", "gi"), ("fastethernet", "fa"), ("fast", "fa"), ("ethernet", "et"), ("eth", "et")].map
    fun entry => (entry.1.toList, entry.2.toList)

/-- The loop of `normalize`: the first listed long name with which a text starts gives way to its
short one. -/
def aliasOf (result : Text) : Text :=
  match interfaceAliases.find? fun entry => entry.1.isPrefixOf result with
  | some (longName, shortName) => shortName ++ result.drop longName.length
  | none => result

/-- `normalize`. -/
def normalize (value : Text) : Text := aliasOf ((casefold value).filter (· ≠ ' '))

/-- `same_interface_name`. -/
def sameInterfaceName (observed expected : Text) : Bool :=
  normalize observed ≠ [] && normalize observed = normalize expected

/-- `_INTERFACE_SPEED_ALIASES`. -/
def interfaceSpeedAliases : List (Text × Text) :=
  [("fa", "fastethernet"), ("fas", "fastethernet"), ("fast", "fastethernet"),
    ("fastethernet", "fastethernet"), ("gi", "gigabitethernet"), ("gig", "gigabitethernet"),
    ("gigabitethernet", "gigabitethernet"), ("te", "tengigabitethernet"),
    ("tengigabitethernet", "tengigabitethernet"), ("et", "ethernet"), ("eth", "ethernet"),
    ("ethernet", "ethernet")].map fun entry => (entry.1.toList, entry.2.toList)

/-- `_INTERFACE_SPEED_ALIASES.get(prefix, prefix)`. -/
def speedOf (letters : Text) : Text := (interfaceSpeedAliases.lookup letters).getD letters

/-- A letter in ASCII. -/
def isLetter (c : Char) : Bool := c.isAlpha

/-- `_INTERFACE_SPLIT.match`: the letters at the start and the remainder on the same line. -/
def interfaceSplit (value : Text) : Option (Text × Text) :=
  let letters := value.takeWhile isLetter
  let remainder := value.dropWhile isLetter
  if letters = [] ∨ '\n' ∈ remainder then none else some (letters, remainder)

/-- `canonical_interface_name`. -/
def canonicalInterfaceName (value : Text) : Text :=
  match interfaceSplit (strip value) with
  | none => casefold (strip value)
  | some (letters, remainder) => speedOf (casefold letters) ++ remainder

/-! ## Interface names -/

/-- A word of letters, the type of an interface. -/
structure InterfaceType where
  letters : Text
  nonempty : letters ≠ []
  isLetter_of_mem : ∀ c ∈ letters, isLetter c = true

/-- Digits with slashes between, the slot and port of an interface. -/
structure SlotPort where
  digit : Char
  rest : Text
  isDigit_digit : digit.isDigit = true
  isDigit_or_slash : ∀ c ∈ rest, c.isDigit = true ∨ c = '/'

/-- The characters of a slot and port. -/
def SlotPort.text (port : SlotPort) : Text := port.digit :: port.rest

/-- The name of an interface. -/
def interfaceName (type : InterfaceType) (port : SlotPort) : Text := type.letters ++ port.text

/-- A type in lower case. -/
def InterfaceType.lower (type : InterfaceType) : Text := casefold type.letters

/-! ## Texts of letters before a number -/

section Texts

variable {c : Char} {letters letters' : Text} {port port' : SlotPort}

lemma isLetter_digit (h : c.isDigit = true) : isLetter c = false := by
  simp only [isLetter, Char.isAlpha, Char.isUpper, Char.isLower, Char.isDigit, Bool.and_eq_true,
    decide_eq_true_eq, Bool.or_eq_false_iff, Bool.and_eq_false_iff, decide_eq_false_iff_not] at h ⊢
  simp only [UInt32.le_iff_toNat_le, ge_iff_le] at h ⊢
  simp at h ⊢
  omega

lemma toNat_of_isLetter (h : isLetter c = true) :
    (65 ≤ c.toNat ∧ c.toNat ≤ 90) ∨ (97 ≤ c.toNat ∧ c.toNat ≤ 122) := by
  simpa [isLetter, Char.isAlpha, Char.isUpper, Char.isLower, UInt32.le_iff_toNat_le] using h

lemma toNat_of_mem_port (h : c ∈ port.text) : 47 ≤ c.toNat ∧ c.toNat ≤ 57 := by
  have hdigit : ∀ d : Char, d.isDigit = true → 48 ≤ d.toNat ∧ d.toNat ≤ 57 := fun d hd => by
    simpa [Char.isDigit, UInt32.le_iff_toNat_le] using hd
  rcases List.mem_cons.mp h with rfl | hrest
  · have := hdigit _ port.isDigit_digit
    omega
  · rcases port.isDigit_or_slash c hrest with hd | rfl
    · have := hdigit c hd
      omega
    · decide

lemma isLetter_toLower (h : isLetter c = true) : isLetter c.toLower = true := by
  simp only [isLetter, Char.isAlpha, Char.isUpper, Char.isLower, Char.toLower] at h ⊢
  split <;> grind [UInt32.toNat_add, UInt32.le_iff_toNat_le]

lemma toLower_of_mem_port (h : c ∈ port.text) : c.toLower = c := by
  have hrange := toNat_of_mem_port h
  unfold Char.toLower
  rw [dif_neg]
  rintro ⟨hlow, -⟩
  have hnat : 65 ≤ c.toNat := UInt32.le_iff_toNat_le.mp hlow
  omega

lemma isLetter_of_mem_casefold (h : ∀ c ∈ letters, isLetter c = true) :
    ∀ c ∈ casefold letters, isLetter c = true := by
  intro c hc
  obtain ⟨d, hd, rfl⟩ := List.mem_map.mp hc
  exact isLetter_toLower (h d hd)

lemma casefold_append_port (letters : Text) (port : SlotPort) :
    casefold (letters ++ port.text) = casefold letters ++ port.text := by
  unfold casefold
  rw [List.map_append]
  congr 1
  exact (List.map_congr_left fun c hc => toLower_of_mem_port hc).trans (List.map_id _)

lemma takeWhile_append_port (h : ∀ c ∈ letters, isLetter c = true) :
    (letters ++ port.text).takeWhile isLetter = letters ∧
      (letters ++ port.text).dropWhile isLetter = port.text := by
  have hdigit : isLetter port.digit = false := isLetter_digit port.isDigit_digit
  rw [List.takeWhile_append_of_pos h, List.dropWhile_append_of_pos h, SlotPort.text,
    List.takeWhile_cons_of_neg (by simp [hdigit]), List.dropWhile_cons_of_neg (by simp [hdigit]),
    List.append_nil]
  exact ⟨rfl, rfl⟩

lemma append_port_inj (h : ∀ c ∈ letters, isLetter c = true)
    (h' : ∀ c ∈ letters', isLetter c = true) :
    letters ++ port.text = letters' ++ port'.text ↔
      letters = letters' ∧ port.text = port'.text := by
  constructor
  · intro heq
    have htake := congrArg (List.takeWhile isLetter) heq
    have hdrop := congrArg (List.dropWhile isLetter) heq
    rw [(takeWhile_append_port h).1, (takeWhile_append_port h').1] at htake
    rw [(takeWhile_append_port h).2, (takeWhile_append_port h').2] at hdrop
    exact ⟨htake, hdrop⟩
  · rintro ⟨rfl, hport⟩
    rw [hport]

lemma isPrefixOf_append_port {word : Text} (hword : ∀ c ∈ word, isLetter c = true) :
    word.isPrefixOf (letters ++ port.text) = word.isPrefixOf letters := by
  induction word generalizing letters with
  | nil => simp
  | cons d word ih =>
    have hword' : ∀ c ∈ word, isLetter c = true := fun c hc => hword c (List.mem_cons_of_mem d hc)
    cases letters with
    | cons e letters => simp only [List.cons_append, List.isPrefixOf_cons_cons, ih hword']
    | nil =>
      have hne : (d == port.digit) = false := by
        rw [beq_eq_false_iff_ne]
        rintro rfl
        have := hword port.digit List.mem_cons_self
        rw [isLetter_digit port.isDigit_digit] at this
        cases this
      simp [SlotPort.text, List.isPrefixOf_cons_cons, hne]

lemma isSpace_of_name (h : isLetter c = true ∨ c ∈ port.text) : isSpace c = false := by
  have hrange : 47 ≤ c.toNat ∧ c.toNat ≤ 122 := by
    rcases h with hletter | hport
    · have := toNat_of_isLetter hletter
      omega
    · have := toNat_of_mem_port hport
      omega
  unfold isSpace
  simp only [Bool.or_eq_false_iff, Bool.and_eq_false_iff, decide_eq_false_iff_not]
  omega

lemma strip_of_forall {text : Text} (h : ∀ c ∈ text, isSpace c = false) : strip text = text := by
  have hdrop : text.dropWhile isSpace = text := by
    rw [List.dropWhile_eq_self_iff]
    intro hlength
    simp [h _ (List.getElem_mem hlength)]
  unfold strip rstrip
  rw [hdrop, List.rdropWhile_eq_self_iff]
  intro hne
  simp [h _ (List.getLast_mem hne)]

end Texts

/-! ## Names as types with numbers -/

section Names

variable (type type' : InterfaceType) (port port' : SlotPort)

lemma isLetter_of_mem_lower {c : Char} (h : c ∈ type.lower) : isLetter c = true :=
  isLetter_of_mem_casefold type.isLetter_of_mem c h

lemma isLetter_of_mem_interfaceAliases : ∀ entry ∈ interfaceAliases,
    (∀ c ∈ entry.1, isLetter c = true) ∧ ∀ c ∈ entry.2, isLetter c = true := by
  decide

lemma isLetter_of_mem_interfaceSpeedAliases : ∀ entry ∈ interfaceSpeedAliases,
    ∀ c ∈ entry.2, isLetter c = true := by
  decide

variable {letters : Text}

lemma isLetter_of_mem_aliasOf (h : ∀ c ∈ letters, isLetter c = true) :
    ∀ c ∈ aliasOf letters, isLetter c = true := by
  unfold aliasOf
  split
  · rename_i longName shortName hfind
    intro c hc
    rcases List.mem_append.mp hc with hshort | hrest
    · exact (isLetter_of_mem_interfaceAliases _ (List.mem_of_find?_eq_some hfind)).2 c hshort
    · exact h c (List.mem_of_mem_drop hrest)
  · exact h

lemma isLetter_of_mem_speedOf (h : ∀ c ∈ letters, isLetter c = true) :
    ∀ c ∈ speedOf letters, isLetter c = true := by
  unfold speedOf
  rcases hlookup : interfaceSpeedAliases.lookup letters with _ | speed
  · exact h
  obtain ⟨before, after, hsplit, -⟩ := List.lookup_eq_some_iff.mp hlookup
  refine isLetter_of_mem_interfaceSpeedAliases (letters, speed) ?_
  rw [hsplit]
  simp

lemma aliasOf_append_port : aliasOf (letters ++ port.text) = aliasOf letters ++ port.text := by
  have hfind : (interfaceAliases.find? fun entry => entry.1.isPrefixOf (letters ++ port.text)) =
      interfaceAliases.find? fun entry => entry.1.isPrefixOf letters := by
    refine List.find?_congr fun entry hentry => ?_
    exact isPrefixOf_append_port (isLetter_of_mem_interfaceAliases entry hentry).1
  unfold aliasOf
  rw [hfind]
  split
  · rename_i longName shortName hfound
    have hpre : longName <+: letters := by
      simpa using List.find?_some hfound
    rw [List.drop_append_of_le_length hpre.length_le, List.append_assoc]
  · rfl

lemma normalize_interfaceName :
    normalize (interfaceName type port) = aliasOf type.lower ++ port.text := by
  unfold normalize interfaceName
  rw [casefold_append_port, List.filter_eq_self.mpr, aliasOf_append_port]
  · rfl
  · intro c hc
    have hspace : isSpace c = false :=
      isSpace_of_name ((List.mem_append.mp hc).imp_left (isLetter_of_mem_lower type))
    rw [decide_eq_true_eq]
    rintro rfl
    exact absurd hspace (by decide)

/-- The second reconciler reads a name as the speed of its type with its number. -/
lemma canonicalInterfaceName_interfaceName :
    canonicalInterfaceName (interfaceName type port) = speedOf type.lower ++ port.text := by
  have hstrip : strip (interfaceName type port) = interfaceName type port := by
    refine strip_of_forall fun c hc => @isSpace_of_name c port ?_
    exact (List.mem_append.mp hc).imp_left (type.isLetter_of_mem c)
  have hsplit : interfaceSplit (interfaceName type port) = some (type.letters, port.text) := by
    unfold interfaceSplit interfaceName
    simp only
    rw [(takeWhile_append_port type.isLetter_of_mem).1,
      (takeWhile_append_port type.isLetter_of_mem).2, if_neg]
    rintro (hnil | hnewline)
    · exact type.nonempty hnil
    · exact absurd (toNat_of_mem_port hnewline).1 (by decide)
  unfold canonicalInterfaceName
  rw [hstrip, hsplit]
  rfl

lemma sameInterfaceName_iff :
    sameInterfaceName (interfaceName type port) (interfaceName type' port') = true ↔
      aliasOf type.lower = aliasOf type'.lower ∧ port.text = port'.text := by
  unfold sameInterfaceName
  rw [normalize_interfaceName, normalize_interfaceName, Bool.and_eq_true, decide_eq_true_eq,
    decide_eq_true_eq, append_port_inj (isLetter_of_mem_aliasOf fun _ => isLetter_of_mem_lower type)
      (isLetter_of_mem_aliasOf fun _ => isLetter_of_mem_lower type')]
  refine ⟨And.right, fun h => ⟨?_, h⟩⟩
  simp [SlotPort.text]

lemma canonicalInterfaceName_eq_iff :
    canonicalInterfaceName (interfaceName type port) =
        canonicalInterfaceName (interfaceName type' port') ↔
      speedOf type.lower = speedOf type'.lower ∧ port.text = port'.text := by
  rw [canonicalInterfaceName_interfaceName, canonicalInterfaceName_interfaceName,
    append_port_inj (isLetter_of_mem_speedOf fun _ => isLetter_of_mem_lower type)
      (isLetter_of_mem_speedOf fun _ => isLetter_of_mem_lower type')]

end Names

/-! ## Where the two tables differ -/

section Tables

/-- The spellings of one type that both tables list. -/
def commonSpellings : List (List Text) :=
  [["fa", "fast", "fastethernet"], ["gi", "gig", "gigabitethernet"], ["et", "eth", "ethernet"],
    ["te", "tengigabitethernet"]].map (List.map String.toList)

/-- The spellings of `FastEthernet` in the second table. -/
def fastEthernetSpellings : List Text := ["fa", "fas", "fast", "fastethernet"].map String.toList

/-- The abbreviations that one of the tables lists, with their long forms. -/
def abbreviations : List (Text × Text) :=
  [("se", "serial"), ("te", "tengigabitethernet"), ("tengig", "tengigabitethernet"),
    ("gi", "gigabitethernet"), ("gig", "gigabitethernet"), ("fa", "fastethernet"),
    ("fas", "fastethernet"), ("fast", "fastethernet"), ("et", "ethernet"), ("eth", "ethernet")].map
    fun entry => (entry.1.toList, entry.2.toList)

/-- Both tables list two words as spellings of one type. -/
def BothList (t u : Text) : Prop := ∃ spellings ∈ commonSpellings, t ∈ spellings ∧ u ∈ spellings

instance (t u : Text) : Decidable (BothList t u) :=
  inferInstanceAs (Decidable (∃ spellings ∈ commonSpellings, t ∈ spellings ∧ u ∈ spellings))

/-- A word is a short name of the first table and some rest, or the rest stands after the first
long name listed for it with which the word starts. -/
def SpelledBy (shortName rest t : Text) : Prop :=
  (∃ longName, interfaceAliases.find? (fun entry => entry.1.isPrefixOf t) =
      some (longName, shortName) ∧ t = longName ++ rest) ∨
    (interfaceAliases.find? (fun entry => entry.1.isPrefixOf t) = none ∧ t = shortName ++ rest ∧
      shortName ∈ interfaceAliases.map Prod.snd)

/-- One of the tables relates two words: the second one lists both for `FastEthernet`, or the
first one sees the same rest after the same short name. -/
def Related (t u : Text) : Prop :=
  (t ∈ fastEthernetSpellings ∧ u ∈ fastEthernetSpellings) ∨
    ∃ shortName rest, SpelledBy shortName rest t ∧ SpelledBy shortName rest u

/-- One of two words is listed as an abbreviation of the other. -/
def Abbreviates (t u : Text) : Prop := (t, u) ∈ abbreviations ∨ (u, t) ∈ abbreviations

variable {t u shortName rest : Text}

lemma aliasOf_of_spelledBy (h : SpelledBy shortName rest t) : aliasOf t = shortName ++ rest := by
  unfold aliasOf
  rcases h with ⟨longName, hfind, rfl⟩ | ⟨hfind, rfl, -⟩
  · rw [hfind]
    simp
  · rw [hfind]

lemma spelledBy_of_find? {longName : Text}
    (h : interfaceAliases.find? (fun entry => entry.1.isPrefixOf t) = some (longName, shortName)) :
    SpelledBy shortName (t.drop longName.length) t := by
  have hpre : longName <+: t := by simpa using List.find?_some h
  refine Or.inl ⟨longName, h, ?_⟩
  obtain ⟨rest, rfl⟩ := hpre
  simp

lemma length_shortName : ∀ entry ∈ interfaceAliases, entry.2.length = 2 := by decide

/-- The first table reads two words alike when they are the same word or spelled alike. -/
lemma aliasOf_eq_iff :
    aliasOf t = aliasOf u ↔
      t = u ∨ ∃ shortName rest, SpelledBy shortName rest t ∧ SpelledBy shortName rest u := by
  constructor
  · intro h
    cases ht : interfaceAliases.find? fun entry => entry.1.isPrefixOf t with
    | none =>
      have haliasT : aliasOf t = t := by rw [aliasOf, ht]
      rcases hu : interfaceAliases.find? fun entry => entry.1.isPrefixOf u with _ | entry
      · have haliasU : aliasOf u = u := by rw [aliasOf, hu]
        exact Or.inl (haliasT.symm.trans (h.trans haliasU))
      have hspelled := spelledBy_of_find? hu
      refine Or.inr ⟨_, _, Or.inr ⟨ht, ?_, ?_⟩, hspelled⟩
      · rw [← aliasOf_of_spelledBy hspelled, ← h, haliasT]
      · exact List.mem_map.mpr ⟨entry, List.mem_of_find?_eq_some hu, rfl⟩
    | some entry =>
      have hspelled := spelledBy_of_find? ht
      rcases hu : interfaceAliases.find? fun entry => entry.1.isPrefixOf u with _ | entry'
      · have haliasU : aliasOf u = u := by rw [aliasOf, hu]
        refine Or.inr ⟨_, _, hspelled, Or.inr ⟨hu, ?_, ?_⟩⟩
        · rw [← aliasOf_of_spelledBy hspelled, h, haliasU]
        · exact List.mem_map.mpr ⟨entry, List.mem_of_find?_eq_some ht, rfl⟩
      have hspelled' := spelledBy_of_find? hu
      rw [aliasOf_of_spelledBy hspelled, aliasOf_of_spelledBy hspelled'] at h
      have hlength : entry.2.length = entry'.2.length := by
        rw [length_shortName entry (List.mem_of_find?_eq_some ht),
          length_shortName entry' (List.mem_of_find?_eq_some hu)]
      obtain ⟨hshort, hrest⟩ := List.append_inj h hlength
      rw [← hshort, ← hrest] at hspelled'
      exact Or.inr ⟨_, _, hspelled, hspelled'⟩
  · rintro (rfl | ⟨shortName, rest, ht, hu⟩)
    · rfl
    · rw [aliasOf_of_spelledBy ht, aliasOf_of_spelledBy hu]

lemma lookup_speed : ∀ entry ∈ interfaceSpeedAliases,
    interfaceSpeedAliases.lookup entry.2 = some entry.2 := by decide

lemma mem_of_lookup {speed : Text} (h : interfaceSpeedAliases.lookup t = some speed) :
    (t, speed) ∈ interfaceSpeedAliases := by
  obtain ⟨before, after, hsplit, -⟩ := List.lookup_eq_some_iff.mp h
  rw [hsplit]
  simp

/-- The second table reads two different words alike only when it lists both for one speed. -/
lemma exists_speed_of_speedOf_eq (h : speedOf t = speedOf u) (hne : t ≠ u) :
    ∃ speed, (t, speed) ∈ interfaceSpeedAliases ∧ (u, speed) ∈ interfaceSpeedAliases := by
  unfold speedOf at h
  cases ht : interfaceSpeedAliases.lookup t with
  | none =>
    rcases hu : interfaceSpeedAliases.lookup u with _ | speed
    · rw [ht, hu] at h
      exact absurd h hne
    rw [ht, hu] at h
    obtain rfl : t = speed := h
    rw [lookup_speed _ (mem_of_lookup hu)] at ht
    cases ht
  | some speed =>
    rcases hu : interfaceSpeedAliases.lookup u with _ | speed'
    · rw [ht, hu] at h
      obtain rfl : speed = u := h
      rw [lookup_speed _ (mem_of_lookup ht)] at hu
      cases hu
    rw [ht, hu] at h
    obtain rfl : speed = speed' := h
    exact ⟨speed, mem_of_lookup ht, mem_of_lookup hu⟩

lemma eq_of_bothList (h : BothList t u) : aliasOf t = aliasOf u ∧ speedOf t = speedOf u := by
  have hall : ∀ spellings ∈ commonSpellings, ∀ t ∈ spellings, ∀ u ∈ spellings,
      aliasOf t = aliasOf u ∧ speedOf t = speedOf u := by decide
  obtain ⟨spellings, hmem, ht, hu⟩ := h
  exact hall spellings hmem t ht u hu

lemma fastEthernet_or_aliasOf_eq : ∀ entry ∈ interfaceSpeedAliases,
    ∀ entry' ∈ interfaceSpeedAliases, entry.2 = entry'.2 →
      (entry.1 ∈ fastEthernetSpellings ∧ entry'.1 ∈ fastEthernetSpellings) ∨
        aliasOf entry.1 = aliasOf entry'.1 := by decide

lemma bothList_of_aliasOf_eq : ∀ entry ∈ interfaceSpeedAliases,
    ∀ entry' ∈ interfaceSpeedAliases, entry.2 = entry'.2 → aliasOf entry.1 = aliasOf entry'.1 →
      entry.1 = entry'.1 ∨ BothList entry.1 entry'.1 := by decide

lemma speedOf_fastEthernet : ∀ t ∈ fastEthernetSpellings, ∀ u ∈ fastEthernetSpellings,
    speedOf t = speedOf u := by decide

/-- **The two tables** read two words alike or both apart exactly when the words are the same, or
listed by both tables for one type, or related by none. -/
lemma tables_agree_iff :
    (aliasOf t = aliasOf u ↔ speedOf t = speedOf u) ↔ t = u ∨ BothList t u ∨ ¬Related t u := by
  by_cases heq : t = u
  · subst heq
    simp
  simp only [heq, false_or]
  constructor
  · intro hagree
    by_cases hrelated : Related t u
    · refine Or.inl ?_
      have hboth : aliasOf t = aliasOf u ∧ speedOf t = speedOf u := by
        rcases hrelated with ⟨ht, hu⟩ | hspelled
        · have hspeed := speedOf_fastEthernet t ht u hu
          exact ⟨hagree.mpr hspeed, hspeed⟩
        · have halias := aliasOf_eq_iff.mpr (Or.inr hspelled)
          exact ⟨halias, hagree.mp halias⟩
      obtain ⟨speed, ht, hu⟩ := exists_speed_of_speedOf_eq hboth.2 heq
      exact (bothList_of_aliasOf_eq _ ht _ hu rfl hboth.1).resolve_left heq
    · exact Or.inr hrelated
  · rintro (hboth | hunrelated)
    · obtain ⟨halias, hspeed⟩ := eq_of_bothList hboth
      exact ⟨fun _ => hspeed, fun _ => halias⟩
    · constructor
      · intro halias
        exact absurd (Or.inr ((aliasOf_eq_iff.mp halias).resolve_left heq)) hunrelated
      · intro hspeed
        obtain ⟨speed, ht, hu⟩ := exists_speed_of_speedOf_eq hspeed heq
        rcases fastEthernet_or_aliasOf_eq _ ht _ hu rfl with hfast | halias
        · exact absurd (Or.inl hfast) hunrelated
        · exact halias

lemma related_of_mem_abbreviations : ∀ entry ∈ abbreviations, entry.1 ≠ entry.2 ∧
    ((entry.1 ∈ fastEthernetSpellings ∧ entry.2 ∈ fastEthernetSpellings) ∨
      aliasOf entry.1 = aliasOf entry.2) := by decide

lemma related_of_abbreviates (h : Abbreviates t u) : t ≠ u ∧ Related t u := by
  rcases h with h | h
  · obtain ⟨hne, hfast | halias⟩ := related_of_mem_abbreviations _ h
    · exact ⟨hne, Or.inl hfast⟩
    · exact ⟨hne, Or.inr ((aliasOf_eq_iff.mp halias).resolve_left hne)⟩
  · obtain ⟨hne, hfast | halias⟩ := related_of_mem_abbreviations _ h
    · exact ⟨hne.symm, Or.inl hfast.symm⟩
    · exact ⟨hne.symm, Or.inr ((aliasOf_eq_iff.mp halias.symm).resolve_left hne.symm)⟩

end Tables

/-! ## Agreement -/

section Agreement

/-- The two reconcilers agree on two names: both identify them or none does, both identify an
abbreviation with its long form, and none identifies different numbers. -/
def ReconcilersAgree (type type' : InterfaceType) (port port' : SlotPort) : Prop :=
  (sameInterfaceName (interfaceName type port) (interfaceName type' port') = true ↔
    canonicalInterfaceName (interfaceName type port) =
      canonicalInterfaceName (interfaceName type' port')) ∧
  (Abbreviates type.lower type'.lower → port.text = port'.text →
    sameInterfaceName (interfaceName type port) (interfaceName type' port') = true ∧
      canonicalInterfaceName (interfaceName type port) =
        canonicalInterfaceName (interfaceName type' port')) ∧
  (port.text ≠ port'.text →
    sameInterfaceName (interfaceName type port) (interfaceName type' port') = false ∧
      canonicalInterfaceName (interfaceName type port) ≠
        canonicalInterfaceName (interfaceName type' port'))

/-- **When the reconcilers agree**: the numbers differ, or the types are the same word up to case,
or both tables list them for one type, or none of the tables relates them. -/
theorem reconcilersAgree_iff (type type' : InterfaceType) (port port' : SlotPort) :
    ReconcilersAgree type type' port port' ↔
      port.text ≠ port'.text ∨ type.lower = type'.lower ∨ BothList type.lower type'.lower ∨
        ¬Related type.lower type'.lower := by
  unfold ReconcilersAgree
  rw [← Bool.not_eq_true, sameInterfaceName_iff, canonicalInterfaceName_eq_iff]
  by_cases hport : port.text = port'.text
  · simp only [hport, and_true, ne_eq, not_true_eq_false, false_or, false_implies,
      true_implies]
    rw [← tables_agree_iff]
    refine ⟨And.left, fun hagree => ⟨hagree, fun habbreviates => ?_⟩⟩
    obtain ⟨hne, hrelated⟩ := related_of_abbreviates habbreviates
    rcases tables_agree_iff.mp hagree with heq | hboth | hunrelated
    · exact absurd heq hne
    · exact eq_of_bothList hboth
    · exact absurd hrelated hunrelated
  · simp [hport, canonicalInterfaceName_eq_iff]

/-- `Serial`. -/
def serial : InterfaceType := ⟨"Serial".toList, by decide, by decide⟩

/-- `Se`. -/
def se : InterfaceType := ⟨"Se".toList, by decide, by decide⟩

/-- `0/0/0`. -/
def firstSlot : SlotPort := ⟨'0', "/0/0".toList, by decide, by decide⟩

/-- `Se0/0/0` is `Serial0/0/0` for one of the reconcilers and another port for the other. -/
theorem not_forall_reconcilersAgree :
    ¬∀ (type type' : InterfaceType) (port port' : SlotPort),
      ReconcilersAgree type type' port port' := by
  intro h
  have hsame : sameInterfaceName (interfaceName se firstSlot) (interfaceName serial firstSlot) =
      true := by decide
  have hne : canonicalInterfaceName (interfaceName se firstSlot) ≠
      canonicalInterfaceName (interfaceName serial firstSlot) := by decide
  exact hne ((h se serial firstSlot firstSlot).1.mp hsame)

end Agreement

end InterfaceNames

end PacketTracer
