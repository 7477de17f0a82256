import PacketTracer.Library.PrefixBlock

/-!
# Internet addresses and their texts

The part of Python's `ipaddress` that a program meets when it reads and writes addresses and
networks as text: `ip_address`, `ip_network(…, strict=True)`, `str` of both, and the reading
functions of an IPv4 network.

IPv4 addresses have exactly one text: `text_parseIPv4` says that an accepted text is the text of
the address it denotes, and `parseIPv4_text` that every address is read back from its text.  So
texts can stand for addresses wherever they are compared or used as keys.
-/

namespace Ipaddress

open PrefixBlocks

/-- An IPv4 address. -/
abbrev IPv4Address := Fin (2 ^ 32)

instance neZero_addresses : NeZero (2 ^ 32) := ⟨by decide⟩

/-- An IPv4 network without host bits. -/
abbrev IPv4Network := Block 32

/-! ## Decimal numbers -/

lemma digitChar_toNat_sub {c : Char} (hc : c.isDigit = true) :
    c.toNat - '0'.toNat < 10 ∧ (c.toNat - '0'.toNat).digitChar = c := by
  have hdigits : ∀ k : Fin 10, (Char.ofNat (48 + k)).toNat - '0'.toNat < 10 ∧
      ((Char.ofNat (48 + k)).toNat - '0'.toNat).digitChar = Char.ofNat (48 + k) := by decide
  have hrange : 48 ≤ c.toNat ∧ c.toNat ≤ 57 := by
    simpa [Char.isDigit, UInt32.le_iff_toNat_le] using hc
  have hc' : Char.ofNat (48 + (c.toNat - 48)) = c := by
    rw [Nat.add_sub_cancel' hrange.1, Char.ofNat_toNat]
  have := hdigits ⟨c.toNat - 48, by omega⟩
  rwa [hc'] at this

variable {cs : List Char}

/-- Decimal digits without a superfluous leading zero are the digits of their value. -/
lemma toDigits_ofDigitChars (hne : cs ≠ []) (hdigit : ∀ c ∈ cs, c.isDigit = true)
    (hzero : cs = ['0'] ∨ cs.head? ≠ some '0') :
    Nat.toDigits 10 (Nat.ofDigitChars 10 cs 0) = cs := by
  induction cs using List.reverseRecOn with
  | nil => exact absurd rfl hne
  | append_singleton cs c ih =>
    obtain ⟨hten, hc⟩ := digitChar_toNat_sub (hdigit c (by simp))
    rw [Nat.ofDigitChars_append, Nat.ofDigitChars_cons, Nat.ofDigitChars_nil,
      Nat.toDigits_eq_if (by norm_num)]
    rcases eq_or_ne cs [] with rfl | hcs
    · rw [Nat.ofDigitChars_nil, Nat.mul_zero, Nat.zero_add, if_pos hten, hc, List.nil_append]
    have hhead : cs.head? ≠ some '0' := by
      rcases hzero with h | h
      · exact absurd (List.append_eq_singleton_iff.mp h) (by simp [hcs])
      · rwa [List.head?_append_of_ne_nil _ hcs] at h
    have hrest := ih hcs (fun d hd => hdigit d (by simp [hd])) (Or.inr hhead)
    have hpos : Nat.ofDigitChars 10 cs 0 ≠ 0 := by
      intro h
      rw [h] at hrest
      rw [← hrest] at hhead
      exact hhead rfl
    rw [if_neg (by omega), show (10 * Nat.ofDigitChars 10 cs 0 + (c.toNat - '0'.toNat)) / 10 =
      Nat.ofDigitChars 10 cs 0 by omega, hrest, show (10 * Nat.ofDigitChars 10 cs 0 +
      (c.toNat - '0'.toNat)) % 10 = c.toNat - '0'.toNat by omega, hc]

lemma toDigits_eq_or_head?_ne (n : ℕ) :
    Nat.toDigits 10 n = ['0'] ∨ (Nat.toDigits 10 n).head? ≠ some '0' := by
  induction n using Nat.strongRecOn with
  | ind n ih =>
    rw [Nat.toDigits_eq_if (by norm_num)]
    split_ifs with hlt
    · rcases Nat.eq_zero_or_pos n with rfl | hpos
      · exact Or.inl rfl
      · refine Or.inr ?_
        simp only [List.head?_cons, ne_eq, Option.some.injEq, Nat.digitChar_eq_zero]
        omega
    · refine Or.inr ?_
      rw [List.head?_append_of_ne_nil _ Nat.toDigits_ne_nil]
      rcases ih (n / 10) (by omega) with h | h
      · have hvalue := congrArg (fun cs => Nat.ofDigitChars 10 cs 0) h
        simp only [Nat.ofDigitChars_toDigits (b := 10) (by norm_num) le_rfl] at hvalue
        have : Nat.ofDigitChars 10 ['0'] 0 = 0 := rfl
        omega
      · exact h

/-! ## IPv4 addresses -/

/-- `_parse_octet`: at most three decimal digits, no leading zero, at most 255. -/
def parseOctet (octet : List Char) : Option ℕ :=
  if octet = [] then none
  else if octet.all Char.isDigit = false then none
  else if 3 < octet.length then none
  else if octet ≠ ['0'] ∧ octet.head? = some '0' then none
  else
    let value := Nat.ofDigitChars 10 octet 0
    if 255 < value then none else some value

/-- The number that four octets spell, most significant first. -/
def fromOctets (a b c d : ℕ) : ℕ := ((a * 256 + b) * 256 + c) * 256 + d

/-- The octets of an address, most significant first. -/
def octets (address : IPv4Address) : List ℕ :=
  [address / 16777216, address / 65536 % 256, address / 256 % 256, address % 256]

/-- `IPv4Address(text)`; `none` is an `AddressValueError`. -/
def parseIPv4 (text : List Char) : Option IPv4Address :=
  match text.splitOn '.' with
  | [a, b, c, d] =>
    match parseOctet a, parseOctet b, parseOctet c, parseOctet d with
    | some a, some b, some c, some d =>
      if h : fromOctets a b c d < 2 ^ 32 then some ⟨fromOctets a b c d, h⟩ else none
    | _, _, _, _ => none
  | _ => none

/-- `str` of an IPv4 address, as characters. -/
def chars (address : IPv4Address) : List Char :=
  ['.'].intercalate ((octets address).map (Nat.toDigits 10))

/-- `str` of an IPv4 address. -/
def text (address : IPv4Address) : String := String.ofList (chars address)

lemma parseOctet_toDigits {n : ℕ} (h : n < 256) : parseOctet (Nat.toDigits 10 n) = some n := by
  have hlen : (Nat.toDigits 10 n).length ≤ 3 :=
    (Nat.length_toDigits_le_iff (b := 10) (k := 3) (by norm_num) (by norm_num)).mpr (by omega)
  have hdigit : (Nat.toDigits 10 n).all Char.isDigit = true :=
    List.all_eq_true.mpr fun c hc => Nat.isDigit_of_mem_toDigits (by norm_num) (by norm_num) hc
  have hlead : ¬(Nat.toDigits 10 n ≠ ['0'] ∧ (Nat.toDigits 10 n).head? = some '0') := by
    rcases toDigits_eq_or_head?_ne n with h | h <;> simp [h]
  have hvalue : Nat.ofDigitChars 10 (Nat.toDigits 10 n) 0 = n :=
    Nat.ofDigitChars_toDigits (by norm_num) le_rfl
  simp only [parseOctet, Nat.toDigits_ne_nil, hdigit, hlead, hvalue, if_false]
  rw [if_neg (by simp), if_neg (by omega), if_neg (by omega)]

lemma toDigits_of_parseOctet {n : ℕ} (h : parseOctet cs = some n) :
    Nat.toDigits 10 n = cs ∧ n < 256 := by
  simp only [parseOctet] at h
  split_ifs at h with hne hdigit hlen hlead hbig
  obtain rfl : Nat.ofDigitChars 10 cs 0 = n := Option.some.inj h
  refine ⟨toDigits_ofDigitChars hne ?_ ?_, by omega⟩
  · exact List.all_eq_true.mp (by simpa using hdigit)
  · by_cases hzero : cs = ['0']
    · exact Or.inl hzero
    · exact Or.inr fun hhead => hlead ⟨hzero, hhead⟩

/-- An accepted text is the text of its address. -/
theorem chars_parseIPv4 {address : IPv4Address} (h : parseIPv4 cs = some address) :
    chars address = cs := by
  unfold parseIPv4 at h
  split at h
  · next a b c d hsplit =>
    split at h
    · next a' b' c' d' ha hb hc hd =>
      split_ifs at h with hlt
      cases h
      obtain ⟨ha, ha'⟩ := toDigits_of_parseOctet ha
      obtain ⟨hb, hb'⟩ := toDigits_of_parseOctet hb
      obtain ⟨hc, hc'⟩ := toDigits_of_parseOctet hc
      obtain ⟨hd, hd'⟩ := toDigits_of_parseOctet hd
      have hoctets : octets ⟨fromOctets a' b' c' d', hlt⟩ = [a', b', c', d'] := by
        simp only [octets, fromOctets, List.cons.injEq, and_true]
        omega
      rw [chars, hoctets, List.map_cons, List.map_cons, List.map_cons, List.map_singleton,
        ha, hb, hc, hd, ← hsplit, List.intercalate_splitOn]
    · cases h
  · cases h

/-- Every address is read back from its text. -/
theorem parseIPv4_chars (address : IPv4Address) : parseIPv4 (chars address) = some address := by
  have hdot : ∀ n : ℕ, '.' ∉ Nat.toDigits 10 n := fun n hmem => by
    have := Nat.isDigit_of_mem_toDigits (b := 10) (n := n) (by norm_num) (by norm_num) hmem
    simp at this
  have hsplit : (chars address).splitOn '.' = (octets address).map (Nat.toDigits 10) :=
    List.splitOn_intercalate _ (by simp [hdot]) (by simp [octets])
  have hlt := address.isLt
  have hvalue : fromOctets (address / 16777216) (address / 65536 % 256) (address / 256 % 256)
      (address % 256) = address := by
    unfold fromOctets
    omega
  unfold parseIPv4
  rw [hsplit]
  simp only [octets, List.map_cons, List.map_nil]
  rw [parseOctet_toDigits (n := address / 16777216) (by omega),
    parseOctet_toDigits (n := address / 65536 % 256) (by omega),
    parseOctet_toDigits (n := address / 256 % 256) (by omega),
    parseOctet_toDigits (n := address % 256) (by omega)]
  simp [hvalue]

lemma text_injective : Function.Injective text := by
  intro a b h
  have hchars : chars a = chars b := by
    have := congrArg String.toList h
    rwa [text, text, String.toList_ofList, String.toList_ofList] at this
  have := congrArg parseIPv4 hchars
  rwa [parseIPv4_chars, parseIPv4_chars, Option.some.injEq] at this

lemma text_parseIPv4 {s : String} {address : IPv4Address}
    (h : parseIPv4 s.toList = some address) : text address = s := by
  rw [text, chars_parseIPv4 h, String.ofList_toList]

@[simp] lemma parseIPv4_text (address : IPv4Address) :
    parseIPv4 (text address).toList = some address := by
  rw [text, String.toList_ofList, parseIPv4_chars]

/-! ## IPv6 addresses

Only whether a text is one matters to the programs here, but the host bits of a network depend
on the value. -/

/-- `_HEX_DIGITS`. -/
def isHexDigit (c : Char) : Bool :=
  c.isDigit || ('a' ≤ c && c ≤ 'f') || ('A' ≤ c && c ≤ 'F')

/-- The value of a hexadecimal digit. -/
def hexDigitValue (c : Char) : ℕ :=
  if c.isDigit then c.toNat - '0'.toNat
  else if c ≤ 'F' then c.toNat - 'A'.toNat + 10
  else c.toNat - 'a'.toNat + 10

/-- `_parse_hextet`: one to four hexadecimal digits. -/
def parseHextet (hextet : List Char) : Option ℕ :=
  if hextet = [] then none
  else if hextet.all isHexDigit = false then none
  else if 4 < hextet.length then none
  else some (hextet.foldl (fun value c => 16 * value + hexDigitValue c) 0)

/-- The number that a list of hextets spells, most significant first. -/
def hextetsValue : List (List Char) → ℕ → Option ℕ
  | [], value => some value
  | hextet :: hextets, value =>
    match parseHextet hextet with
    | some digits => hextetsValue hextets (65536 * value + digits)
    | none => none

/-- Rewrite an IPv4 suffix as two hextets. -/
def expandIPv4Suffix (parts : List (List Char)) : Option (List (List Char)) :=
  match parts.getLast? with
  | none => some parts
  | some suffix =>
    if '.' ∈ suffix then
      match parseIPv4 suffix with
      | none => none
      | some address =>
        some (parts.dropLast ++ [Nat.toDigits 16 (address / 65536), Nat.toDigits 16 (address % 65536)])
    else some parts

/-- The inner positions of a list of parts at which a part is empty: the places of `::`. -/
def emptyInnerParts (parts : List (List Char)) : List ℕ :=
  (List.range' 1 (parts.length - 2)).filter fun i => parts[i]? = some []

/-- `_ip_int_from_string` of IPv6. -/
def ipv6Value (cs : List Char) : Option ℕ :=
  if cs = [] then none
  else
    let parts := cs.splitOn ':'
    if parts.length < 3 then none
    else
      match expandIPv4Suffix parts with
      | none => none
      | some parts =>
        if 9 < parts.length then none
        else
          match emptyInnerParts parts with
          | [] =>
            if parts.length ≠ 8 ∨ parts.head? = some [] ∨ parts.getLast? = some [] then none
            else hextetsValue parts 0
          | [skip] =>
            let leading := parts.take skip
            let trailing := parts.drop (skip + 1)
            -- An empty end is allowed only as part of the `::`.
            if parts.head? = some [] ∧ leading.length ≠ 1 then none
            else if parts.getLast? = some [] ∧ trailing.length ≠ 1 then none
            else
              let high := if parts.head? = some [] then [] else leading
              let low := if parts.getLast? = some [] then [] else trailing
              if 7 < high.length + low.length then none
              else
                match hextetsValue high 0 with
                | none => none
                | some value => hextetsValue low (value * 65536 ^ (8 - (high.length + low.length)))
          | _ => none

/-- `IPv6Address(text)`: a scope after `%` is not empty and holds no `%`. -/
def parseIPv6 (cs : List Char) : Option (Fin (2 ^ 128)) :=
  let value :=
    match cs.splitOn '%' with
    | [address] => ipv6Value address
    | [address, scope] => if scope = [] then none else ipv6Value address
    | _ => none
  match value with
  | none => none
  | some value => if h : value < 2 ^ 128 then some ⟨value, h⟩ else none

/-- What `ip_address` returns. -/
inductive IPAddress
  | v4 (address : IPv4Address)
  | v6 (address : Fin (2 ^ 128))
  deriving DecidableEq

/-- `ip_address(text)`; `none` is a `ValueError`. -/
def ipAddress (s : String) : Option IPAddress :=
  match parseIPv4 s.toList with
  | some address => some (.v4 address)
  | none => (parseIPv6 s.toList).map .v6

/-! ## Networks -/

/-- `_split_optional_netmask`: at most one slash. -/
def splitOptionalNetmask (cs : List Char) : Option (List Char × Option (List Char)) :=
  match cs.splitOn '/' with
  | [address] => some (address, none)
  | [address, mask] => some (address, some mask)
  | _ => none

/-- `_prefix_from_prefix_string`: a decimal prefix length, within the digits that `int` reads. -/
def prefixFromPrefixString (maxPrefixlen : ℕ) (cs : List Char) : Option ℕ :=
  if cs = [] ∨ cs.all Char.isDigit = false ∨ 4300 < cs.length then none
  else
    let prefixlen := Nat.ofDigitChars 10 cs 0
    if prefixlen ≤ maxPrefixlen then some prefixlen else none

/-- The netmask of a prefix length, as a number. -/
def netmaskValue (prefixlen : ℕ) : ℕ := 2 ^ 32 - 2 ^ (32 - prefixlen)

/-- `_prefix_from_ip_string`: a netmask or a hostmask in dotted form. -/
def prefixFromIpString (cs : List Char) : Option ℕ :=
  match parseIPv4 cs with
  | none => none
  | some mask =>
    match (List.range 33).find? fun prefixlen => mask = netmaskValue prefixlen with
    | some prefixlen => some prefixlen
    | none => (List.range 33).find? fun prefixlen => 2 ^ 32 - 1 - mask = netmaskValue prefixlen

/-- The prefix length that the part after the slash denotes; without one, a single address. -/
def prefixFromMask : Option (List Char) → Option ℕ
  | none => some 32
  | some mask => (prefixFromPrefixString 32 mask).or (prefixFromIpString mask)

/-- The block of prefix length `prefixlen` around `x`. -/
def blockOf {w : ℕ} (x : Fin (2 ^ w)) (prefixlen : ℕ) (h : prefixlen ≤ w) : Block w where
  prefixlen := prefixlen
  index := x / 2 ^ (w - prefixlen)
  prefixlen_le := h
  index_lt := by
    rw [Nat.div_lt_iff_lt_mul (Nat.two_pow_pos _), ← pow_add, Nat.add_sub_cancel' h]
    exact x.isLt

lemma blockOf_of_mem {w : ℕ} {x : Fin (2 ^ w)} {b : Block w} (h : (x : ℕ) ∈ b) :
    blockOf x b.prefixlen b.prefixlen_le = b := by
  have hindex := Block.mem_iff_div.mp h
  obtain ⟨prefixlen, index, hle, hlt⟩ := b
  simp only [blockOf, Block.mk.injEq, true_and]
  exact hindex

/-- How `IPv4Network(text, strict=True)` fails. -/
inductive NetworkError
  /-- `AddressValueError` or `NetmaskValueError`. -/
  | malformed
  /-- `ValueError`: host bits set. -/
  | hostBits
  deriving DecidableEq

/-- The strict network around an address, unless bits after the prefix are set. -/
def strictNetwork {w : ℕ} (x : Fin (2 ^ w)) (prefixlen : ℕ) : Except NetworkError (Block w) :=
  if h : prefixlen ≤ w then
    if (x : ℕ) % 2 ^ (w - prefixlen) = 0 then .ok (blockOf x prefixlen h) else .error .hostBits
  else .error .malformed

/-- `IPv4Network(text, strict=True)`. -/
def parseIPv4Network (cs : List Char) : Except NetworkError IPv4Network :=
  match splitOptionalNetmask cs with
  | none => .error .malformed
  | some (address, mask) =>
    match parseIPv4 address, prefixFromMask mask with
    | some address, some prefixlen => strictNetwork address prefixlen
    | _, _ => .error .malformed

/-- `IPv6Network(text, strict=True)`. -/
def parseIPv6Network (cs : List Char) : Except NetworkError (Block 128) :=
  match splitOptionalNetmask cs with
  | none => .error .malformed
  | some (address, mask) =>
    match parseIPv6 address, (mask.map (prefixFromPrefixString 128)).getD (some 128) with
    | some address, some prefixlen => strictNetwork address prefixlen
    | _, _ => .error .malformed

/-- What `ip_network` returns. -/
inductive IPNetwork
  | v4 (network : IPv4Network)
  | v6 (network : Block 128)
  deriving DecidableEq

/-- `ip_network(text, strict=True)`; `none` is a `ValueError`.  A text with host bits for IPv4 is
not tried as IPv6. -/
def ipNetwork (s : String) : Option IPNetwork :=
  match parseIPv4Network s.toList with
  | .ok network => some (.v4 network)
  | .error .hostBits => none
  | .error .malformed =>
    match parseIPv6Network s.toList with
    | .ok network => some (.v6 network)
    | .error _ => none

namespace IPv4Network

variable (network : IPv4Network)

/-- The address of a word of the network. -/
def addressOf (x : ℕ) (h : x ∈ network) : IPv4Address := ⟨x, Block.lt_of_mem h⟩

/-- `network_address`. -/
def networkAddress : IPv4Address := network.addressOf network.first network.first_mem

/-- `broadcast_address`. -/
def broadcastAddress : IPv4Address := network.addressOf network.last network.last_mem

/-- `netmask`. -/
def netmask : IPv4Address :=
  ⟨netmaskValue network.prefixlen, Nat.sub_lt (Nat.two_pow_pos 32) (Nat.two_pow_pos _)⟩

/-- `network[n]` for `n ≥ 0`; `none` is an `IndexError`. -/
def addressAt (n : ℕ) : Option IPv4Address :=
  if h : network.first + n ≤ network.last then
    some (network.addressOf (network.first + n) ⟨Nat.le_add_right _ _, h⟩)
  else none

/-- `network[-2]`; `none` is an `IndexError`. -/
def penultimate : Option IPv4Address :=
  if h : network.first + 1 ≤ network.last then
    some (network.addressOf (network.last - 1) ⟨by omega, by omega⟩)
  else none

/-- `hosts()`: all addresses of a network of at most two, else all but the ends. -/
def hosts : List ℕ :=
  if 31 ≤ network.prefixlen then List.range' network.first network.size
  else List.range' (network.first + 1) (network.size - 2)

/-- `str` of a network. -/
def text : String := Ipaddress.text network.networkAddress ++ "/" ++ toString network.prefixlen

lemma mem_of_mem_hosts {x : ℕ} (h : x ∈ network.hosts) : x ∈ network := by
  have := network.size_pos
  rw [Block.mem_def, Block.last]
  unfold hosts at h
  split_ifs at h with hlen <;> rw [List.mem_range'_1] at h <;> omega

/-- `list(hosts())[n]`; `none` is an `IndexError`. -/
def hostAt (n : ℕ) : Option IPv4Address :=
  if h : n < network.hosts.length then
    some (network.addressOf network.hosts[n] (network.mem_of_mem_hosts (List.getElem_mem h)))
  else none

lemma mem_of_hostAt {n : ℕ} {address : IPv4Address} (h : network.hostAt n = some address) :
    (address : ℕ) ∈ network := by
  unfold hostAt at h
  split_ifs at h with hlen
  cases h
  exact network.mem_of_mem_hosts (List.getElem_mem hlen)

/-- A network is determined by its first address and its netmask. -/
lemma eq_of_networkAddress_netmask {a b : IPv4Network}
    (haddress : a.networkAddress = b.networkAddress) (hmask : a.netmask = b.netmask) : a = b := by
  have hlength : a.prefixlen = b.prefixlen := by
    have hvalue : netmaskValue a.prefixlen = netmaskValue b.prefixlen := congrArg Fin.val hmask
    have ha : 2 ^ (32 - a.prefixlen) ≤ 2 ^ 32 := Nat.pow_le_pow_right (by norm_num) (Nat.sub_le _ _)
    have hb : 2 ^ (32 - b.prefixlen) ≤ 2 ^ 32 := Nat.pow_le_pow_right (by norm_num) (Nat.sub_le _ _)
    have hpow : 2 ^ (32 - a.prefixlen) = 2 ^ (32 - b.prefixlen) := by
      unfold netmaskValue at hvalue
      omega
    have hsub : 32 - a.prefixlen = 32 - b.prefixlen := Nat.pow_right_injective le_rfl hpow
    have := a.prefixlen_le
    have := b.prefixlen_le
    omega
  have hfirst : a.index * 2 ^ (32 - a.prefixlen) = b.index * 2 ^ (32 - b.prefixlen) :=
    congrArg Fin.val haddress
  obtain ⟨alen, aindex, ale, alt⟩ := a
  obtain ⟨blen, bindex, ble, blt⟩ := b
  obtain rfl : alen = blen := hlength
  obtain rfl : aindex = bindex := Nat.eq_of_mul_eq_mul_right (Nat.two_pow_pos _) hfirst
  rfl

end IPv4Network

/-- The network that an address text and a prefix length denote. -/
def networkOf? (address : String) (prefixlen : ℕ) : Option IPv4Network :=
  match parseIPv4 address.toList with
  | none => none
  | some address =>
    match strictNetwork address prefixlen with
    | .ok network => some network
    | .error _ => none

@[simp] lemma networkOf?_networkAddress (network : IPv4Network) :
    networkOf? (text network.networkAddress) network.prefixlen = some network := by
  have hfirst : (network.networkAddress : ℕ) = network.index * 2 ^ (32 - network.prefixlen) := rfl
  have hblock : blockOf network.networkAddress network.prefixlen network.prefixlen_le = network := by
    obtain ⟨prefixlen, index, hle, hlt⟩ := network
    simp only [blockOf, hfirst, Nat.mul_div_cancel _ (Nat.two_pow_pos _)]
  simp only [networkOf?, parseIPv4_text, strictNetwork, network.prefixlen_le, dif_pos, hfirst,
    Nat.mul_mod_left, if_true, hblock]

/-! ## Interfaces -/

/-- `IPv4Interface(text)`: an address and the network around it; `none` is a `ValueError`. -/
def parseIPv4Interface (s : String) : Option (IPv4Address × IPv4Network) :=
  match splitOptionalNetmask s.toList with
  | none => none
  | some (address, mask) =>
    match parseIPv4 address, prefixFromMask mask with
    | some address, some prefixlen =>
      if h : prefixlen ≤ 32 then some (address, blockOf address prefixlen h) else none
    | _, _ => none

/-- The text of an address and a prefix length. -/
def interfaceText (address : IPv4Address) (prefixlen : ℕ) : String :=
  text address ++ "/" ++ toString prefixlen

lemma slash_notMem_toDigits (n : ℕ) : '/' ∉ Nat.toDigits 10 n := by
  intro hmem
  have hdigit := Nat.isDigit_of_mem_toDigits (b := 10) (n := n) (by norm_num) (by norm_num) hmem
  simp at hdigit

lemma slash_notMem_chars (address : IPv4Address) : '/' ∉ chars address := by
  simp only [chars, octets, List.map_cons, List.map_nil, List.intercalate_cons_cons,
    List.intercalate_singleton, List.mem_append, slash_notMem_toDigits, List.mem_singleton,
    false_or, or_false]
  decide

/-- A prefix length is read back from its digits. -/
lemma prefixFromMask_toDigits {prefixlen : ℕ} (h : prefixlen ≤ 32) :
    prefixFromMask (some (Nat.toDigits 10 prefixlen)) = some prefixlen := by
  have hlen : (Nat.toDigits 10 prefixlen).length ≤ 2 :=
    (Nat.length_toDigits_le_iff (b := 10) (k := 2) (by norm_num) (by norm_num)).mpr (by omega)
  have hdigit : (Nat.toDigits 10 prefixlen).all Char.isDigit = true :=
    List.all_eq_true.mpr fun c hc => Nat.isDigit_of_mem_toDigits (by norm_num) (by norm_num) hc
  have hvalue : Nat.ofDigitChars 10 (Nat.toDigits 10 prefixlen) 0 = prefixlen :=
    Nat.ofDigitChars_toDigits (by norm_num) le_rfl
  have hread : prefixFromPrefixString 32 (Nat.toDigits 10 prefixlen) = some prefixlen := by
    rw [prefixFromPrefixString, if_neg, hvalue, if_pos h]
    rintro (hnil | hfalse | hlong)
    · exact Nat.toDigits_ne_nil hnil
    · rw [hdigit] at hfalse
      cases hfalse
    · omega
  rw [prefixFromMask, hread, Option.some_or]

/-- An address and the network around it are read back from their text. -/
theorem parseIPv4Interface_interfaceText (address : IPv4Address) {prefixlen : ℕ}
    (h : prefixlen ≤ 32) :
    parseIPv4Interface (interfaceText address prefixlen)
      = some (address, blockOf address prefixlen h) := by
  have hchars : (interfaceText address prefixlen).toList
      = ['/'].intercalate [chars address, Nat.toDigits 10 prefixlen] := by
    have hdigits : (toString prefixlen).toList = Nat.toDigits 10 prefixlen := Nat.toList_repr
    rw [interfaceText, String.toList_append, String.toList_append, text, String.toList_ofList,
      List.intercalate_cons_cons, List.intercalate_singleton, hdigits]
    rfl
  have hsplit : splitOptionalNetmask (interfaceText address prefixlen).toList
      = some (chars address, some (Nat.toDigits 10 prefixlen)) := by
    rw [splitOptionalNetmask, hchars, List.splitOn_intercalate]
    · intro part hpart
      rcases List.mem_cons.mp hpart with rfl | hpart
      · exact slash_notMem_chars address
      · rw [List.mem_singleton.mp hpart]
        exact slash_notMem_toDigits prefixlen
    · exact List.cons_ne_nil _ _
  simp only [parseIPv4Interface, hsplit, parseIPv4_chars, prefixFromMask_toDigits h, dif_pos h]

/-! ## Texts of either version -/

/-- The number of zero hextets from a position on. -/
def zeroRun (hextets : List ℕ) (start : ℕ) : ℕ :=
  ((hextets.drop start).takeWhile (· = 0)).length

/-- The first longest run of zero hextets: where it starts and how long it is. -/
def longestZeroRun (hextets : List ℕ) : ℕ × ℕ :=
  (List.range hextets.length).foldl (fun best start =>
    if best.2 < zeroRun hextets start then (start, zeroRun hextets start) else best) (0, 0)

/-- `str` of an IPv6 address: the longest run of at least two zero hextets is left out. -/
def ipv6Text (address : Fin (2 ^ 128)) : String :=
  let hextets := (List.range 8).map fun i => (address : ℕ) / 65536 ^ (7 - i) % 65536
  let texts := hextets.map fun hextet => String.ofList (Nat.toDigits 16 hextet)
  let (start, length) := longestZeroRun hextets
  if 1 < length then
    let head := if start = 0 then ["", ""] else texts.take start ++ [""]
    let tail := if start + length = 8 then [""] else texts.drop (start + length)
    String.intercalate ":" (head ++ tail)
  else String.intercalate ":" texts

/-- `str` of an address. -/
def IPAddress.text : IPAddress → String
  | .v4 address => Ipaddress.text address
  | .v6 address => ipv6Text address

/-- `int` of an address. -/
def IPAddress.toNat : IPAddress → ℕ
  | .v4 address => address
  | .v6 address => address

/-- `IPv6Interface(text).network`; `none` is a `ValueError`. -/
def parseIPv6Interface (s : String) : Option (Block 128) :=
  match splitOptionalNetmask s.toList with
  | none => none
  | some (address, mask) =>
    match parseIPv6 address, (mask.map (prefixFromPrefixString 128)).getD (some 128) with
    | some address, some prefixlen =>
      if h : prefixlen ≤ 128 then some (blockOf address prefixlen h) else none
    | _, _ => none

/-- `ip_interface(text).network`, which is `ip_network(text, strict=False)`; `none` is a
`ValueError`. -/
def networkAround (s : String) : Option IPNetwork :=
  match parseIPv4Interface s with
  | some (_, network) => some (.v4 network)
  | none => (parseIPv6Interface s).map .v6

namespace IPNetwork

/-- `str` of a network. -/
def text : IPNetwork → String
  | .v4 network => network.text
  | .v6 network =>
    ipv6Text ⟨network.first, Block.lt_of_mem network.first_mem⟩ ++ "/" ++
      toString network.prefixlen

/-- `prefixlen`. -/
def prefixlen : IPNetwork → ℕ
  | .v4 network => network.prefixlen
  | .v6 network => network.prefixlen

/-- `address in network`: addresses of the other version are not. -/
def contains : IPNetwork → IPAddress → Bool
  | .v4 network, .v4 address =>
    network.first ≤ (address : ℕ) && (address : ℕ) ≤ network.last
  | .v6 network, .v6 address =>
    network.first ≤ (address : ℕ) && (address : ℕ) ≤ network.last
  | _, _ => false

end IPNetwork

example : ipv6Text 1 = "::1" ∧ ipv6Text (2 ^ 112) = "1::" ∧ ipv6Text 0 = "::" := by decide +kernel

end Ipaddress
