import PacketTracer.Domain.SecurityPlan
import PacketTracer.Domain.VoicePlan
import PacketTracer.Library.PyStr
import PacketTracer.Library.Ipaddress

/-!
# The extension allocator

`extension_allocator.py`: every phone of a site gets a telephone extension of the site's range, the
explicit ones first.  The two loops keep that the phones and their extensions are inverse to each
other (`Paired`).  An explicit extension is compared with its range as a number and with the others
as a text.  `str.casefold` is a parameter.
-/

namespace PacketTracer

open Dicts PyText PyStrs Fallible Ipaddress

namespace Voice

/-! ## The natural order of identifiers -/

/-- The key of an identifier: its runs of digits as numbers, the texts between them without their
case.  A text `(0, …)` comes before a number `(1, …)`. -/
abbrev NaturalKey := List (String ⊕ₗ ℕ)

/-- The number a decimal digit stands for. -/
def decimalValue (c : Char) : ℕ :=
  ((decimalZeros.find? fun base => base ≤ c.toNat && c.toNat < base + 10).map
    (c.toNat - ·)).getD 0

/-- `int` of a run of decimal digits. -/
def intOfRun (run : Text) : ℕ := run.foldl (fun value c => 10 * value + decimalValue c) 0

/-- `natural_identity_key`. -/
def naturalIdentityKey (casefold : String → String) (value : String) : NaturalKey :=
  (value.toList.splitBy fun a b => isDecimal a = isDecimal b).map fun run =>
    if run.all isDecimal then Sum.inrₗ (intOfRun run)
    else Sum.inlₗ (casefold (String.ofList run))

/-! ## Errors -/

/-- `ExtensionAllocationError`. -/
structure ExtensionAllocationError where
  code : ConfigurationIssueCode
  message : String
  subject : String := ""
  deriving DecidableEq

/-! ## Ranges and extensions -/

/-- `_validate_range`. -/
def validateRange (siteId : String) (extensionRange : ExtensionRange) :
    Except ExtensionAllocationError Unit :=
  if extensionRange.start < 1 ∨ extensionRange.stop < extensionRange.start ∨
      (toString extensionRange.start).length ≠ (toString extensionRange.stop).length ∨
      ∃ value ∈ extensionRange.reserved,
        value < extensionRange.start ∨ extensionRange.stop < value then
    .error
      { code := .extensionRangeInvalid
        message := s!"Extension range for site {quoted siteId} is invalid."
        subject := siteId }
  else .ok ()

/-- Whether a text consists of ASCII digits: `isascii` and `isdigit`. -/
def isAsciiDigits (text : String) : Bool :=
  text.toList.all Char.isDigit && text.toList ≠ []

/-- `int` of a text of ASCII digits. -/
def extensionNumber (text : String) : ℤ := (Nat.ofDigitChars 10 text.toList 0 : ℕ)

/-- The extensions given out so far, by phone, and the phones that have them. -/
structure AllocationState where
  allocated : Dict String String := .empty
  owners : Dict String String := .empty

/-- A phone gets an extension. -/
def AllocationState.assign (state : AllocationState) (phoneId extension : String) :
    AllocationState :=
  { allocated := state.allocated.set phoneId extension
    owners := state.owners.set extension phoneId }

/-- One phone of the loop over explicit extensions. -/
def assignExplicit (explicitExtensions : Dict String String) (extensionRange : ExtensionRange)
    (state : AllocationState) (phoneId : String) :
    Except ExtensionAllocationError AllocationState :=
  match explicitExtensions.get? phoneId with
  | none => .ok state
  | some explicit =>
    if isAsciiDigits explicit = false then
      .error
        { code := .extensionInvalid
          message :=
            s!"Extension {quoted explicit} for {phoneId} must contain ASCII digits only."
          subject := phoneId }
    else if ¬(extensionRange.start ≤ extensionNumber explicit ∧
          extensionNumber explicit ≤ extensionRange.stop) ∨
        extensionNumber explicit ∈ extensionRange.reserved then
      .error
        { code := .extensionInvalid
          message := s!"Extension {explicit} for {phoneId} is outside its allowed range."
          subject := phoneId }
    else
      match state.owners.get? explicit with
      | some owner =>
        .error
          { code := .extensionCollision
            message := s!"Extension {explicit} is assigned to both {owner} and {phoneId}."
            subject := explicit }
      | none => .ok (state.assign phoneId explicit)

/-- `next(available)`: the next free number of a range from `number` on, with as many numbers to
try as the fuel says. -/
def nextAvailable (extensionRange : ExtensionRange) (owners : Dict String String) :
    ℕ → ℤ → Option ℤ
  | 0, _ => none
  | fuel + 1, number =>
    if number ∉ extensionRange.reserved ∧ (owners.get? (toString number)).isNone then some number
    else nextAvailable extensionRange owners fuel (number + 1)

/-- One phone of the loop over the available numbers; the second part of the state is the number
at which the generator stands. -/
def assignAvailable (siteId : String) (extensionRange : ExtensionRange)
    (state : AllocationState × ℤ) (phoneId : String) :
    Except ExtensionAllocationError (AllocationState × ℤ) :=
  if state.1.allocated.contains phoneId then .ok state
  else
    match nextAvailable extensionRange state.1.owners (extensionRange.stop + 1 - state.2).toNat
        state.2 with
    | none =>
      .error
        { code := .extensionRangeExhausted
          message :=
            s!"Extension range for site {quoted siteId} cannot fit all current phones."
          subject := siteId }
    | some number => .ok (state.1.assign phoneId (toString number), number + 1)

/-! ## Allocation -/

section Allocate

variable (casefold : String → String) (phoneIdsBySite : Dict String (List String))
  (ranges : String → ExtensionRange) (explicitExtensions : Dict String String)

/-- The sites in their natural order. -/
def sortedSites : List String := sortedBy (naturalIdentityKey casefold) phoneIdsBySite.keys

/-- The phones of a site in their natural order. -/
def sortedPhones (siteId : String) : List String :=
  sortedBy (naturalIdentityKey casefold) ((phoneIdsBySite.get? siteId).getD [])

/-- The explicit extensions of a site. -/
def allocateExplicit (state : AllocationState) (siteId : String) :
    Except ExtensionAllocationError AllocationState := do
  validateRange siteId (ranges siteId)
  (sortedPhones casefold phoneIdsBySite siteId).foldlM
    (assignExplicit explicitExtensions (ranges siteId)) state

/-- The other extensions of a site. -/
def allocateAvailable (state : AllocationState) (siteId : String) :
    Except ExtensionAllocationError AllocationState := do
  let final ← (sortedPhones casefold phoneIdsBySite siteId).foldlM
    (assignAvailable siteId (ranges siteId)) (state, (ranges siteId).start)
  return final.1

/-- The explicit extensions that no known phone asks for. -/
def unknownPhones : List String :=
  sortedBy (naturalIdentityKey casefold) (explicitExtensions.keys.filter fun phoneId =>
    phoneId ∉ phoneIdsBySite.values.flatten)

/-- `allocate`: the extensions by phone. -/
def allocate : Except ExtensionAllocationError (Dict String String) :=
  match unknownPhones casefold phoneIdsBySite explicitExtensions with
  | first :: others =>
    .error
      { code := .phoneEndpointMissing
        message := "Explicit extensions reference unknown phone endpoints: " ++
          String.intercalate ", " (first :: others)
        subject := first }
  | [] => do
    let sites := sortedSites casefold phoneIdsBySite
    let explicit ← sites.foldlM
      (allocateExplicit casefold phoneIdsBySite ranges explicitExtensions) {}
    let final ← sites.foldlM (allocateAvailable casefold phoneIdsBySite ranges) explicit
    return final.allocated

end Allocate

/-! ## Numerals -/

variable {number : ℤ}

lemma isAsciiDigits_toString (h : 0 ≤ number) : isAsciiDigits (toString number) = true := by
  obtain ⟨n, rfl⟩ := Int.eq_ofNat_of_zero_le h
  have htext : (toString (n : ℤ)).toList = Nat.toDigits 10 n := Nat.toList_repr
  rw [isAsciiDigits, htext, Bool.and_eq_true, List.all_eq_true, decide_eq_true_eq]
  refine ⟨fun c hc => Nat.isDigit_of_mem_toDigits (by decide) (by decide) hc, ?_⟩
  exact List.ne_nil_of_length_pos Nat.length_toDigits_pos

lemma extensionNumber_toString (h : 0 ≤ number) : extensionNumber (toString number) = number := by
  obtain ⟨n, rfl⟩ := Int.eq_ofNat_of_zero_le h
  have htext : (toString (n : ℤ)).toList = Nat.toDigits 10 n := Nat.toList_repr
  rw [extensionNumber, htext, Nat.ofDigitChars_ten_toDigits]

/-! ## What a phone may get -/

section Specification

variable (extensionRange : ExtensionRange) (explicitExtensions : Dict String String)

/-- What a phone may get: digits whose number the range allows, which are the ones that were asked
for, or the numeral of a number. -/
structure Permitted (phoneId extension : String) : Prop where
  digits : isAsciiDigits extension
  start_le : extensionRange.start ≤ extensionNumber extension
  le_stop : extensionNumber extension ≤ extensionRange.stop
  unreserved : extensionNumber extension ∉ extensionRange.reserved
  asked : explicitExtensions.get? phoneId = some extension ∨
    explicitExtensions.get? phoneId = none ∧ extension = toString (extensionNumber extension)

/-- What `validateRange` checks. -/
structure ExtensionRange.Valid : Prop where
  positive : 1 ≤ extensionRange.start
  start_le_stop : extensionRange.start ≤ extensionRange.stop
  sameLength : (toString extensionRange.start).length = (toString extensionRange.stop).length
  reserved : ∀ value ∈ extensionRange.reserved,
    extensionRange.start ≤ value ∧ value ≤ extensionRange.stop

/-- The extensions of the phones and the owners of the extensions are inverse to each other. -/
def AllocationState.Paired (state : AllocationState) : Prop :=
  ∀ phoneId extension, state.allocated.get? phoneId = some extension ↔
    state.owners.get? extension = some phoneId

end Specification

lemma valid_of_validateRange {siteId : String} {extensionRange : ExtensionRange}
    (h : validateRange siteId extensionRange = .ok ()) : extensionRange.Valid := by
  unfold validateRange at h
  split_ifs at h with hinvalid
  simp only [not_or, not_exists, not_and, not_not, not_lt] at hinvalid
  obtain ⟨hpositive, hbounds, hlength, hreserved⟩ := hinvalid
  exact ⟨hpositive, hbounds, hlength, hreserved⟩

lemma AllocationState.Paired.assign {state : AllocationState} (h : state.Paired)
    {phoneId extension : String} (hphone : state.allocated.get? phoneId = none)
    (hextension : state.owners.get? extension = none) :
    (state.assign phoneId extension).Paired := by
  intro phoneId' extension'
  simp only [AllocationState.assign, Dict.get?_set]
  by_cases hp : phoneId = phoneId' <;> by_cases he : extension = extension'
  · simp [hp, he]
  · subst hp
    rw [if_pos rfl, if_neg he, ← h, hphone]
    simp [he]
  · subst he
    rw [if_neg hp, if_pos rfl, h, hextension]
    simp [hp]
  · rw [if_neg hp, if_neg he, h]

/-! ## Explicit extensions -/

section Loops

variable {explicitExtensions : Dict String String} {extensionRange : ExtensionRange}
  {state next : AllocationState} {phoneId siteId : String}

/-- **An accepted explicit extension** is permitted and was free. -/
lemma assignExplicit_eq_ok
    (h : assignExplicit explicitExtensions extensionRange state phoneId = .ok next) :
    explicitExtensions.get? phoneId = none ∧ next = state ∨
      ∃ extension, explicitExtensions.get? phoneId = some extension ∧
        Permitted extensionRange explicitExtensions phoneId extension ∧
        state.owners.get? extension = none ∧ next = state.assign phoneId extension := by
  unfold assignExplicit at h
  rcases hexplicit : explicitExtensions.get? phoneId with _ | extension
  · rw [hexplicit] at h
    exact Or.inl ⟨rfl, (Except.ok.inj h).symm⟩
  simp only [hexplicit] at h
  split_ifs at h with hdigits hrange
  rw [not_or, not_not] at hrange
  cases howner : state.owners.get? extension with
  | some owner => simp [howner] at h
  | none =>
    simp only [howner, Except.ok.injEq] at h
    have hpermitted : Permitted extensionRange explicitExtensions phoneId extension :=
      { digits := Bool.eq_true_of_not_eq_false hdigits
        start_le := hrange.1.1
        le_stop := hrange.1.2
        unreserved := hrange.2
        asked := Or.inl hexplicit }
    exact Or.inr ⟨extension, rfl, hpermitted, howner, h.symm⟩

lemma allocated_of_assignExplicit
    (h : assignExplicit explicitExtensions extensionRange state phoneId = .ok next)
    (hasked : explicitExtensions.get? phoneId ≠ none) : next.allocated.get? phoneId ≠ none := by
  rcases assignExplicit_eq_ok h with ⟨hnone, -⟩ | ⟨extension, -, -, -, rfl⟩
  · exact absurd hnone hasked
  · simp [AllocationState.assign]

variable {otherId : String}

lemma AllocationState.allocated_assign {extension : String}
    (h : state.allocated.get? otherId ≠ none) :
    (state.assign phoneId extension).allocated.get? otherId ≠ none := by
  rw [AllocationState.assign, Dict.get?_set]
  split_ifs
  · simp
  · exact h

lemma allocated_assignExplicit
    (h : assignExplicit explicitExtensions extensionRange state phoneId = .ok next)
    (hother : state.allocated.get? otherId ≠ none) : next.allocated.get? otherId ≠ none := by
  rcases assignExplicit_eq_ok h with ⟨-, rfl⟩ | ⟨extension, -, -, -, rfl⟩
  · exact hother
  · exact AllocationState.allocated_assign hother

/-! ## Available numbers -/

/-- **The next free number** is one of those that were tried, is not reserved and has no owner. -/
lemma nextAvailable_eq_some {owners : Dict String String} {fuel : ℕ} {start number : ℤ}
    (h : nextAvailable extensionRange owners fuel start = some number) :
    start ≤ number ∧ number < start + fuel ∧ number ∉ extensionRange.reserved ∧
      owners.get? (toString number) = none := by
  induction fuel generalizing start with
  | zero => simp [nextAvailable] at h
  | succ fuel ih =>
    unfold nextAvailable at h
    split_ifs at h with hfree
    · obtain rfl : start = number := Option.some.inj h
      have hnone : owners.get? (toString start) = none := Option.isNone_iff_eq_none.mp hfree.2
      exact ⟨le_rfl, by omega, hfree.1, hnone⟩
    · obtain ⟨hstart, hbound, hrest⟩ := ih h
      exact ⟨by omega, by omega, hrest⟩

variable (explicitExtensions) in
/-- **A number that is given out** is permitted for a phone without explicit extension, and was
free. -/
lemma assignAvailable_eq_ok {current following : ℤ} (hstart : 1 ≤ extensionRange.start)
    (hcurrent : extensionRange.start ≤ current)
    (h : assignAvailable siteId extensionRange (state, current) phoneId =
      .ok (next, following)) :
    extensionRange.start ≤ following ∧
      (state.allocated.contains phoneId ∧ next = state ∨
        state.allocated.get? phoneId = none ∧ ∃ extension,
          (explicitExtensions.get? phoneId = none →
            Permitted extensionRange explicitExtensions phoneId extension) ∧
          state.owners.get? extension = none ∧ next = state.assign phoneId extension) := by
  unfold assignAvailable at h
  simp only at h
  split_ifs at h with hallocated
  · cases h
    exact ⟨hcurrent, Or.inl ⟨hallocated, rfl⟩⟩
  have hnone : state.allocated.get? phoneId = none := by
    simpa [Dict.contains] using hallocated
  rcases hnext : nextAvailable extensionRange state.owners
      (extensionRange.stop + 1 - current).toNat current with _ | number
  · simp [hnext] at h
  simp only [hnext, Except.ok.injEq, Prod.mk.injEq] at h
  obtain ⟨rfl, rfl⟩ := h
  obtain ⟨hfrom, hbound, hreserved, howner⟩ := nextAvailable_eq_some hnext
  have hpositive : 0 ≤ number := by omega
  have hstop : number ≤ extensionRange.stop := by omega
  refine ⟨by omega, Or.inr ⟨hnone, toString number, fun hasked => ?_, howner, rfl⟩⟩
  exact
    { digits := isAsciiDigits_toString hpositive
      start_le := by rw [extensionNumber_toString hpositive]; omega
      le_stop := by rwa [extensionNumber_toString hpositive]
      unreserved := by rwa [extensionNumber_toString hpositive]
      asked := Or.inr ⟨hasked, by rw [extensionNumber_toString hpositive]⟩ }

end Loops

/-! ## The whole allocation -/

section Allocate

variable {casefold : String → String} {phoneIdsBySite : Dict String (List String)}
  {ranges : String → ExtensionRange} {explicitExtensions : Dict String String}

/-- What holds of the extensions given out at any time. -/
structure Allocated (phoneIdsBySite : Dict String (List String)) (ranges : String → ExtensionRange)
    (explicitExtensions : Dict String String) (state : AllocationState) : Prop where
  paired : state.Paired
  permitted : ∀ phoneId extension, state.allocated.get? phoneId = some extension →
    ∃ siteId ∈ phoneIdsBySite.keys, phoneId ∈ (phoneIdsBySite.get? siteId).getD [] ∧
      Permitted (ranges siteId) explicitExtensions phoneId extension

/-- In the first pass every extension that is given out was asked for. -/
structure AllocatedAsAsked (phoneIdsBySite : Dict String (List String))
    (ranges : String → ExtensionRange) (explicitExtensions : Dict String String)
    (state : AllocationState) : Prop
    extends Allocated phoneIdsBySite ranges explicitExtensions state where
  asked : ∀ phoneId extension, state.allocated.get? phoneId = some extension →
    explicitExtensions.get? phoneId = some extension

lemma allocatedAsAsked_empty : AllocatedAsAsked phoneIdsBySite ranges explicitExtensions {} where
  paired := fun _ _ => by simp
  permitted := fun _ _ hget => by simp at hget
  asked := fun _ _ hget => by simp at hget

variable {state : AllocationState} {siteId phoneId : String}

lemma Allocated.assign {extension : String}
    (h : Allocated phoneIdsBySite ranges explicitExtensions state)
    (hsite : siteId ∈ phoneIdsBySite.keys)
    (hphone : phoneId ∈ (phoneIdsBySite.get? siteId).getD [])
    (hpermitted : Permitted (ranges siteId) explicitExtensions phoneId extension)
    (hallocated : state.allocated.get? phoneId = none)
    (howner : state.owners.get? extension = none) :
    Allocated phoneIdsBySite ranges explicitExtensions (state.assign phoneId extension) := by
  refine ⟨h.paired.assign hallocated howner, fun phoneId' extension' hget => ?_⟩
  rw [AllocationState.assign, Dict.get?_set] at hget
  split_ifs at hget with heq
  · obtain rfl := heq
    cases hget
    exact ⟨siteId, hsite, hphone, hpermitted⟩
  · exact h.permitted phoneId' extension' hget

/-- One phone of the first pass. -/
lemma AllocatedAsAsked.assignExplicit {next : AllocationState}
    (h : AllocatedAsAsked phoneIdsBySite ranges explicitExtensions state)
    (hsite : siteId ∈ phoneIdsBySite.keys)
    (hphone : phoneId ∈ (phoneIdsBySite.get? siteId).getD [])
    (hnext : Voice.assignExplicit explicitExtensions (ranges siteId) state phoneId = .ok next) :
    AllocatedAsAsked phoneIdsBySite ranges explicitExtensions next := by
  rcases assignExplicit_eq_ok hnext with ⟨-, rfl⟩ | ⟨extension, hasked, hpermitted, howner, rfl⟩
  · exact h
  have hallocated : state.allocated.get? phoneId = none := by
    by_contra hsome
    obtain ⟨other, hother⟩ := Option.ne_none_iff_exists'.mp hsome
    have hsame : extension = other :=
      Option.some.inj (hasked.symm.trans (h.asked phoneId other hother))
    have howned := (h.paired phoneId other).mp hother
    rw [← hsame, howner] at howned
    exact absurd howned (by simp)
  refine ⟨h.toAllocated.assign hsite hphone hpermitted hallocated howner,
    fun phoneId' extension' hget => ?_⟩
  rw [AllocationState.assign, Dict.get?_set] at hget
  split_ifs at hget with heq
  · exact heq ▸ hget ▸ hasked
  · exact h.asked phoneId' extension' hget

/-- The first pass: what is allocated was asked for, and the ranges are in order. -/
lemma allocated_of_allocateExplicit {sites : List String}
    (hsites : ∀ siteId ∈ sites, siteId ∈ phoneIdsBySite.keys)
    (h : sites.foldlM (allocateExplicit casefold phoneIdsBySite ranges explicitExtensions) {} =
      .ok state) :
    AllocatedAsAsked phoneIdsBySite ranges explicitExtensions state ∧
      ∀ siteId ∈ sites, (ranges siteId).Valid ∧
        ∀ phoneId ∈ (phoneIdsBySite.get? siteId).getD [],
          explicitExtensions.get? phoneId ≠ none → state.allocated.get? phoneId ≠ none := by
  constructor
  · refine foldlM_invariant (fun current siteId hsite next hcurrent hnext => ?_)
      allocatedAsAsked_empty h
    obtain ⟨_, -, hloop⟩ := bind_eq_ok.mp hnext
    exact foldlM_invariant (fun inner phoneId hphone following hinner =>
      hinner.assignExplicit (hsites siteId hsite) (mem_sortedBy.mp hphone)) hcurrent hloop
  -- every iteration checks the range of its site and serves all phones that ask
  · refine foldlM_achieves (Q := fun siteId current => (ranges siteId).Valid ∧
      ∀ phoneId ∈ (phoneIdsBySite.get? siteId).getD [],
        explicitExtensions.get? phoneId ≠ none → current.allocated.get? phoneId ≠ none)
      (fun current siteId _ next hnext => ?_) (fun current siteId _ other _ next hdone hnext => ?_) h
    · obtain ⟨_, hvalid, hloop⟩ := bind_eq_ok.mp hnext
      refine ⟨valid_of_validateRange hvalid, fun phoneId hphone => ?_⟩
      · refine foldlM_achieves (Q := fun phoneId inner => explicitExtensions.get? phoneId ≠ none →
          inner.allocated.get? phoneId ≠ none) (fun inner phoneId _ following hfollowing => ?_)
          (fun inner phoneId _ other _ following hinner hfollowing => ?_) hloop phoneId
          (mem_sortedBy.mpr hphone)
        · exact allocated_of_assignExplicit hfollowing
        · exact fun hasked => allocated_assignExplicit hfollowing (hinner hasked)
    · refine ⟨hdone.1, fun phoneId hphone hasked => ?_⟩
      obtain ⟨_, -, hloop⟩ := bind_eq_ok.mp hnext
      exact foldlM_invariant (P := fun inner => inner.allocated.get? phoneId ≠ none) (fun inner other _ following hinner hfollowing =>
        allocated_assignExplicit hfollowing hinner) (hdone.2 phoneId hphone hasked) hloop

/-- In the second pass the phones that asked already have their extension. -/
structure AllocatedBeyondAsked (phoneIdsBySite : Dict String (List String))
    (ranges : String → ExtensionRange) (explicitExtensions : Dict String String)
    (sites : List String) (state : AllocationState) : Prop
    extends Allocated phoneIdsBySite ranges explicitExtensions state where
  served : ∀ siteId ∈ sites, ∀ phoneId ∈ (phoneIdsBySite.get? siteId).getD [],
    explicitExtensions.get? phoneId ≠ none → state.allocated.get? phoneId ≠ none

/-- A phone has an extension after its iteration, and the others keep theirs. -/
lemma allocated_assignAvailable {extensionRange : ExtensionRange}
    {state next : AllocationState × ℤ}
    (h : assignAvailable siteId extensionRange state phoneId = .ok next) :
    next.1.allocated.get? phoneId ≠ none ∧ ∀ otherId, state.1.allocated.get? otherId ≠ none →
      next.1.allocated.get? otherId ≠ none := by
  unfold assignAvailable at h
  split_ifs at h with hallocated
  · cases h
    refine ⟨?_, fun _ hother => hother⟩
    simpa [Dict.contains, Option.isSome_iff_ne_none] using hallocated
  · rcases hnext : nextAvailable extensionRange state.1.owners
        (extensionRange.stop + 1 - state.2).toNat state.2 with _ | number
    · simp [hnext] at h
    simp only [hnext, Except.ok.injEq] at h
    subst h
    exact ⟨by simp [AllocationState.assign], fun _ => AllocationState.allocated_assign⟩

/-- One phone of the second pass. -/
lemma AllocatedBeyondAsked.assignAvailable {sites : List String}
    {state next : AllocationState × ℤ}
    (h : AllocatedBeyondAsked phoneIdsBySite ranges explicitExtensions sites state.1 ∧
      (ranges siteId).start ≤ state.2)
    (hsite : siteId ∈ sites) (hknown : siteId ∈ phoneIdsBySite.keys)
    (hstart : 1 ≤ (ranges siteId).start) (hphone : phoneId ∈ (phoneIdsBySite.get? siteId).getD [])
    (hnext : Voice.assignAvailable siteId (ranges siteId) state phoneId = .ok next) :
    AllocatedBeyondAsked phoneIdsBySite ranges explicitExtensions sites next.1 ∧
      (ranges siteId).start ≤ next.2 := by
  obtain ⟨hfollowing, hcase⟩ :=
    assignAvailable_eq_ok explicitExtensions hstart h.2 hnext
  refine ⟨⟨?_, fun other hother otherId hotherId hasked => ?_⟩, hfollowing⟩
  · rcases hcase with ⟨-, hsame⟩ | ⟨hallocated, extension, hpermitted, howner, hassign⟩
    · exact hsame ▸ h.1.toAllocated
    · have hasked : explicitExtensions.get? phoneId = none := by
        by_contra hsome
        exact h.1.served siteId hsite phoneId hphone hsome hallocated
      exact hassign ▸ h.1.toAllocated.assign hknown hphone (hpermitted hasked) hallocated howner
  · exact (allocated_assignAvailable hnext).2 otherId (h.1.served other hother otherId hotherId hasked)

/-- The second pass: the phones that did not ask get what is free. -/
lemma allocated_of_allocateAvailable {sites : List String} {final : AllocationState}
    (hsites : ∀ siteId ∈ sites, siteId ∈ phoneIdsBySite.keys)
    (hstate : AllocatedBeyondAsked phoneIdsBySite ranges explicitExtensions sites state)
    (hranges : ∀ siteId ∈ sites, (ranges siteId).Valid)
    (h : sites.foldlM (allocateAvailable casefold phoneIdsBySite ranges) state = .ok final) :
    Allocated phoneIdsBySite ranges explicitExtensions final ∧
      ∀ siteId ∈ sites, ∀ phoneId ∈ (phoneIdsBySite.get? siteId).getD [],
        final.allocated.get? phoneId ≠ none := by
  constructor
  · refine (foldlM_invariant (fun current siteId hsite next hcurrent hnext => ?_)
      hstate h).toAllocated
    obtain ⟨pair, hloop, hpair⟩ := bind_eq_ok.mp hnext
    obtain rfl : pair.1 = next := Except.ok.inj hpair
    exact (foldlM_invariant (P := fun inner =>
        AllocatedBeyondAsked phoneIdsBySite ranges explicitExtensions sites inner.1 ∧
          (ranges siteId).start ≤ inner.2)
      (fun inner phoneId hphone following hinner =>
        AllocatedBeyondAsked.assignAvailable hinner hsite (hsites siteId hsite)
          (hranges siteId hsite).positive (mem_sortedBy.mp hphone)) ⟨hcurrent, le_rfl⟩ hloop).1
  · refine foldlM_achieves (Q := fun siteId current =>
      ∀ phoneId ∈ (phoneIdsBySite.get? siteId).getD [], current.allocated.get? phoneId ≠ none)
      (fun current siteId _ next hnext phoneId hphone => ?_)
      (fun current siteId _ other _ next hdone hnext phoneId hphone => ?_) h
    · obtain ⟨pair, hloop, hpair⟩ := bind_eq_ok.mp hnext
      obtain rfl : pair.1 = next := Except.ok.inj hpair
      exact foldlM_achieves (Q := fun phoneId inner => inner.1.allocated.get? phoneId ≠ none)
        (fun inner phoneId _ following hfollowing => (allocated_assignAvailable hfollowing).1)
        (fun inner phoneId _ other _ following hinner hfollowing =>
          (allocated_assignAvailable hfollowing).2 phoneId hinner)
        hloop phoneId (mem_sortedBy.mpr hphone)
    · obtain ⟨pair, hloop, hpair⟩ := bind_eq_ok.mp hnext
      obtain rfl : pair.1 = next := Except.ok.inj hpair
      exact foldlM_invariant (P := fun inner => inner.1.allocated.get? phoneId ≠ none)
        (fun inner other _ following hinner hfollowing =>
          (allocated_assignAvailable hfollowing).2 phoneId hinner) (hdone phoneId hphone) hloop

/-- **What the allocator gives out**: every extension is one that a site of its phone permits,
every phone of a site has one, no two phones have the same, and the ranges are valid. -/
theorem allocate_correct {extensions : Dict String String}
    (h : allocate casefold phoneIdsBySite ranges explicitExtensions = .ok extensions) :
    (∀ phoneId extension, extensions.get? phoneId = some extension →
      ∃ siteId ∈ phoneIdsBySite.keys, phoneId ∈ (phoneIdsBySite.get? siteId).getD [] ∧
        Permitted (ranges siteId) explicitExtensions phoneId extension) ∧
      (∀ siteId ∈ phoneIdsBySite.keys, ∀ phoneId ∈ (phoneIdsBySite.get? siteId).getD [],
        extensions.get? phoneId ≠ none) ∧
      (∀ phoneId otherId extension, extensions.get? phoneId = some extension →
        extensions.get? otherId = some extension → phoneId = otherId) ∧
      ∀ siteId ∈ phoneIdsBySite.keys, (ranges siteId).Valid := by
  have hsites : ∀ siteId ∈ sortedSites casefold phoneIdsBySite, siteId ∈ phoneIdsBySite.keys :=
    fun _ hsite => mem_sortedBy.mp hsite
  unfold allocate at h
  split at h
  · simp at h
  obtain ⟨explicit, hexplicit, hrest⟩ := bind_eq_ok.mp h
  obtain ⟨final, hfinal, hextensions⟩ := bind_eq_ok.mp hrest
  obtain rfl : final.allocated = extensions := Except.ok.inj hextensions
  obtain ⟨hasked, hpass⟩ := allocated_of_allocateExplicit hsites hexplicit
  obtain ⟨hallocated, hserved⟩ := allocated_of_allocateAvailable hsites
    ⟨hasked.toAllocated, fun siteId hsite => (hpass siteId hsite).2⟩
    (fun siteId hsite => (hpass siteId hsite).1) hfinal
  refine ⟨hallocated.permitted, fun siteId hsite => hserved siteId (mem_sortedBy.mpr hsite),
    fun phoneId otherId extension hphone hother => ?_,
    fun siteId hsite => (hpass siteId (mem_sortedBy.mpr hsite)).1⟩
  have howner := (hallocated.paired phoneId extension).mp hphone
  have howner' := (hallocated.paired otherId extension).mp hother
  exact Option.some.inj (howner.symm.trans howner')

end Allocate

/-! ## The width of a numeral -/

variable {cs : List Char}

lemma length_toDigits_mono {m n : ℕ} (h : m ≤ n) :
    (Nat.toDigits 10 m).length ≤ (Nat.toDigits 10 n).length := by
  have hn := (Nat.length_toDigits_le_iff (b := 10) (n := n) (by norm_num)
    (Nat.length_toDigits_pos (b := 10))).mp le_rfl
  rw [Nat.length_toDigits_le_iff (by norm_num) Nat.length_toDigits_pos]
  omega

lemma ofDigitChars_lt (h : ∀ c ∈ cs, c.isDigit = true) :
    Nat.ofDigitChars 10 cs 0 < 10 ^ cs.length := by
  induction cs using List.reverseRecOn with
  | nil => simp
  | append_singleton cs c ih =>
    have hrest := ih fun d hd => h d (by simp [hd])
    obtain ⟨hten, -⟩ := digitChar_toNat_sub (h c (by simp))
    rw [Nat.ofDigitChars_append, Nat.ofDigitChars_cons, Nat.ofDigitChars_nil, List.length_append,
      List.length_singleton, pow_succ]
    omega

variable {extension : String}

/-- Digits are the numeral of their number, or begin with a zero and are longer than it. -/
lemma eq_toString_or_length_lt (h : isAsciiDigits extension = true)
    (hpos : 0 < extensionNumber extension) :
    extension.toList.head? ≠ some '0' ∧ extension = toString (extensionNumber extension) ∨
      extension.toList.head? = some '0' ∧
        (toString (extensionNumber extension)).length < extension.length := by
  rw [isAsciiDigits, Bool.and_eq_true, List.all_eq_true, decide_eq_true_eq] at h
  obtain ⟨hdigits, hne⟩ := h
  have htext : (toString (extensionNumber extension)).toList =
      Nat.toDigits 10 (Nat.ofDigitChars 10 extension.toList 0) := Nat.toList_repr
  by_cases hhead : extension.toList.head? = some '0'
  · refine Or.inr ⟨hhead, ?_⟩
    obtain ⟨rest, hrest⟩ := List.head?_eq_some_iff.mp hhead
    have hvalue : Nat.ofDigitChars 10 extension.toList 0 = Nat.ofDigitChars 10 rest 0 := by
      rw [hrest]
      rfl
    have hlt : Nat.ofDigitChars 10 rest 0 < 10 ^ rest.length :=
      ofDigitChars_lt fun c hc => hdigits c (by simp [hrest, hc])
    have hlength : 0 < rest.length := by
      rw [extensionNumber, hvalue] at hpos
      rcases rest with _ | _
      · simp at hpos
      · simp
    rw [← String.length_toList, htext, hvalue, ← String.length_toList, hrest, List.length_cons,
      Nat.lt_succ_iff]
    exact (Nat.length_toDigits_le_iff (by norm_num) hlength).mpr hlt
  · refine Or.inl ⟨hhead, String.toList_inj.mp ?_⟩
    rw [htext, toDigits_ofDigitChars hne hdigits (Or.inr hhead)]

/-- The numbers of a valid range have one width. -/
lemma ExtensionRange.Valid.length_eq {extensionRange : ExtensionRange} {number : ℤ}
    (h : extensionRange.Valid) (hstart : extensionRange.start ≤ number)
    (hstop : number ≤ extensionRange.stop) :
    (toString number).length = (toString extensionRange.start).length := by
  have hpositive := h.positive
  have hlength := h.sameLength
  have htext : ∀ n : ℤ, 0 ≤ n → (toString n).length = (Nat.toDigits 10 n.toNat).length := by
    intro n hn
    obtain ⟨k, rfl⟩ := Int.eq_ofNat_of_zero_le hn
    have hlist : (toString (k : ℤ)).toList = Nat.toDigits 10 k := Nat.toList_repr
    rw [← String.length_toList, hlist, Int.toNat_natCast]
  rw [htext _ (by omega), htext _ (by omega)] at hlength
  rw [htext _ (by omega), htext _ (by omega)]
  have hleft := length_toDigits_mono (Int.toNat_le_toNat hstart)
  have hright := length_toDigits_mono (Int.toNat_le_toNat hstop)
  omega

/-! ## The extensions of an allocation -/

variable {casefold : String → String} {phoneIdsBySite : Dict String (List String)}
  {ranges : String → ExtensionRange} {explicitExtensions extensions : Dict String String}

/-- Extensions that are sound as numbers. -/
structure SoundExtensions (phoneIdsBySite : Dict String (List String))
    (ranges : String → ExtensionRange) (extensions : Dict String String) : Prop where
  /-- Two phones have different numbers. -/
  apart : ∀ phoneId otherId extension other, extensions.get? phoneId = some extension →
    extensions.get? otherId = some other → phoneId ≠ otherId →
      extensionNumber extension ≠ extensionNumber other
  /-- A number is one of the range of a site of its phone, has its width and is not reserved. -/
  inRange : ∀ phoneId extension, extensions.get? phoneId = some extension →
    ∃ siteId ∈ phoneIdsBySite.keys, phoneId ∈ (phoneIdsBySite.get? siteId).getD [] ∧
      (ranges siteId).start ≤ extensionNumber extension ∧
      extensionNumber extension ≤ (ranges siteId).stop ∧
      extension.length = (toString (ranges siteId).start).length ∧
      extensionNumber extension ∉ (ranges siteId).reserved

lemma explicit_of_allocate
    (h : allocate casefold phoneIdsBySite ranges explicitExtensions = .ok extensions)
    {phoneId : String} (hasked : explicitExtensions.get? phoneId = some extension) :
    extensions.get? phoneId = some extension := by
  obtain ⟨hpermitted, hserved, -, -⟩ := allocate_correct h
  have hknown : phoneId ∈ phoneIdsBySite.values.flatten := by
    unfold allocate at h
    split at h
    · simp at h
    rename_i hunknown
    have hnone := List.filter_eq_nil_iff.mp (sortedBy_eq_nil.mp hunknown) phoneId
      (Dict.isSome_get?_iff_mem_keys.mp (by rw [hasked]; rfl))
    simpa using hnone
  obtain ⟨phoneIds, hvalues, hphone⟩ := List.mem_flatten.mp hknown
  obtain ⟨siteId, hsite⟩ := Dict.mem_values_iff.mp hvalues
  have hkey : siteId ∈ phoneIdsBySite.keys :=
    Dict.isSome_get?_iff_mem_keys.mp (by rw [hsite]; rfl)
  obtain ⟨other, hother⟩ := Option.ne_none_iff_exists'.mp
    (hserved siteId hkey phoneId (by rwa [hsite, Option.getD_some]))
  obtain ⟨_, -, -, hpermitted⟩ := hpermitted phoneId other hother
  rcases hpermitted.asked with h | ⟨h, -⟩
  · rwa [← Option.some.inj (hasked.symm.trans h)] at hother
  · simp [hasked] at h

/-- **Extensions are sound as numbers** exactly when no explicit one has a leading zero. -/
theorem soundExtensions_iff
    (h : allocate casefold phoneIdsBySite ranges explicitExtensions = .ok extensions) :
    SoundExtensions phoneIdsBySite ranges extensions ↔
      ∀ phoneId extension, explicitExtensions.get? phoneId = some extension →
        extension.toList.head? ≠ some '0' := by
  obtain ⟨hpermitted, -, hinjective, hvalid⟩ := allocate_correct h
  constructor
  · intro hsound phoneId extension hasked hhead
    have hget := explicit_of_allocate h hasked
    obtain ⟨_, -, -, hdigits⟩ := hpermitted phoneId extension hget
    obtain ⟨siteId, hsite, -, hstart, hstop, hlength, -⟩ := hsound.inRange phoneId extension hget
    have hpos := (hvalid siteId hsite).positive
    rcases eq_toString_or_length_lt hdigits.digits (by omega) with ⟨hne, -⟩ | ⟨-, hlt⟩
    · exact hne hhead
    · rw [(hvalid siteId hsite).length_eq hstart hstop] at hlt
      omega
  · intro hasked
    have hnumeral : ∀ phoneId extension, extensions.get? phoneId = some extension →
        extension = toString (extensionNumber extension) := by
      intro phoneId extension hget
      obtain ⟨siteId, hsite, -, hpermitted⟩ := hpermitted phoneId extension hget
      rcases hpermitted.asked with hexplicit | ⟨-, hnumeral⟩
      · have hpos := (hvalid siteId hsite).positive
        have hstart := hpermitted.start_le
        rcases eq_toString_or_length_lt hpermitted.digits (by omega) with ⟨-, heq⟩ | ⟨hzero, -⟩
        · exact heq
        · exact absurd hzero (hasked phoneId extension hexplicit)
      · exact hnumeral
    constructor
    · intro phoneId otherId extension other hget hother hne heq
      refine hne (hinjective phoneId otherId extension hget ?_)
      rwa [hnumeral phoneId extension hget, heq, ← hnumeral otherId other hother]
    · intro phoneId extension hget
      obtain ⟨siteId, hsite, hphone, hallowed⟩ := hpermitted phoneId extension hget
      refine ⟨siteId, hsite, hphone, hallowed.start_le, hallowed.le_stop, ?_, hallowed.unreserved⟩
      conv_lhs => rw [hnumeral phoneId extension hget]
      exact (hvalid siteId hsite).length_eq hallowed.start_le hallowed.le_stop

/-- The extensions with two digits. -/
def twoDigits : ExtensionRange := { start := 10, stop := 99, reserved := [] }

/-- A site with two phones whose explicit extensions are one number. -/
def zeroPadded : Dict String String := Dict.ofList [("a", "012"), ("b", "12")]

lemma allocate_zeroPadded :
    allocate id (Dict.ofList [("s", ["a", "b"])]) (fun _ => twoDigits) zeroPadded =
      .ok zeroPadded := by
  decide

theorem not_forall_soundExtensions : ¬ ∀ casefold phoneIdsBySite ranges explicitExtensions
    extensions, allocate casefold phoneIdsBySite ranges explicitExtensions = .ok extensions →
      SoundExtensions phoneIdsBySite ranges extensions := by
  intro h
  refine (h _ _ _ _ _ allocate_zeroPadded).apart "a" "b" "012" "12" ?_ ?_ ?_ ?_ <;> decide

/-- An explicit extension without a leading zero. -/
theorem soundExtensions_plain :
    allocate id (Dict.ofList [("s", ["a"])]) (fun _ => twoDigits)
        (Dict.ofList [("a", "12")]) = .ok (Dict.ofList [("a", "12")]) ∧
      (SoundExtensions (Dict.ofList [("s", ["a"])])
          (fun _ => twoDigits) (Dict.ofList [("a", "12")]) ↔
        ∀ phoneId extension, (Dict.ofList [("a", "12")]).get? phoneId = some extension →
          extension.toList.head? ≠ some '0') :=
  ⟨by decide, soundExtensions_iff (show allocate id _ _ _ = .ok _ by decide)⟩

/-! ## The order of the phones -/

/-- **The listing does not matter.**  When the sites, and the phones of each site, have pairwise
distinct natural keys, the sites and phones in another order get the same extensions, or the same
error. -/
theorem allocate_eq_of_perm {phoneIdsBySite' : Dict String (List String)}
    (hsites : phoneIdsBySite.keys.Perm phoneIdsBySite'.keys)
    (hphones : ∀ siteId, ((phoneIdsBySite.get? siteId).getD []).Perm
      ((phoneIdsBySite'.get? siteId).getD []))
    (hsitesApart : ∀ a ∈ phoneIdsBySite.keys, ∀ b ∈ phoneIdsBySite.keys,
      naturalIdentityKey casefold a = naturalIdentityKey casefold b → a = b)
    (hphonesApart : ∀ siteId, ∀ a ∈ (phoneIdsBySite.get? siteId).getD [],
      ∀ b ∈ (phoneIdsBySite.get? siteId).getD [],
        naturalIdentityKey casefold a = naturalIdentityKey casefold b → a = b) :
    allocate casefold phoneIdsBySite ranges explicitExtensions =
      allocate casefold phoneIdsBySite' ranges explicitExtensions := by
  have hsorted : sortedSites casefold phoneIdsBySite = sortedSites casefold phoneIdsBySite' :=
    sortedBy_eq_of_perm hsites hsitesApart
  have hsortedPhones : sortedPhones casefold phoneIdsBySite =
      sortedPhones casefold phoneIdsBySite' :=
    funext fun siteId => sortedBy_eq_of_perm (hphones siteId) (hphonesApart siteId)
  have hflat : ∀ (sites : Dict String (List String)) phoneId, phoneId ∈ sites.values.flatten ↔
      ∃ siteId, phoneId ∈ (sites.get? siteId).getD [] := by
    intro sites phoneId
    rw [List.mem_flatten]
    constructor
    · rintro ⟨phones, hvalues, hphone⟩
      obtain ⟨siteId, hsite⟩ := Dict.mem_values_iff.mp hvalues
      exact ⟨siteId, by rwa [hsite, Option.getD_some]⟩
    · rintro ⟨siteId, hphone⟩
      cases hsite : sites.get? siteId with
      | none => simp [hsite] at hphone
      | some phones =>
        rw [hsite, Option.getD_some] at hphone
        exact ⟨phones, Dict.mem_values_iff.mpr ⟨siteId, hsite⟩, hphone⟩
  have hunknown : unknownPhones casefold phoneIdsBySite explicitExtensions =
      unknownPhones casefold phoneIdsBySite' explicitExtensions := by
    have hmem : ∀ phoneId, phoneId ∈ phoneIdsBySite.values.flatten ↔
        phoneId ∈ phoneIdsBySite'.values.flatten := by
      intro phoneId
      rw [hflat, hflat]
      exact exists_congr fun siteId => (hphones siteId).mem_iff
    simp only [unknownPhones, hmem]
  have hexplicit : allocateExplicit casefold phoneIdsBySite ranges explicitExtensions =
      allocateExplicit casefold phoneIdsBySite' ranges explicitExtensions := by
    funext state siteId
    rw [allocateExplicit, hsortedPhones, allocateExplicit]
  have havailable : allocateAvailable casefold phoneIdsBySite ranges =
      allocateAvailable casefold phoneIdsBySite' ranges := by
    funext state siteId
    rw [allocateAvailable, hsortedPhones, allocateAvailable]
  unfold allocate
  rw [hunknown, hsorted, hexplicit, havailable]

/-- Two phones that are listed the other way round. -/
theorem allocate_eq_of_perm_swapped :
    allocate id (Dict.empty.set "s" ["p2", "p10"]) (fun _ => twoDigits) Dict.empty =
      allocate id (Dict.empty.set "s" ["p10", "p2"]) (fun _ => twoDigits) Dict.empty := by
  refine allocate_eq_of_perm (List.Perm.refl _) (fun siteId => ?_) (by decide) fun siteId => ?_
  · by_cases hsite : "s" = siteId
    · simpa [Dict.get?_set, hsite] using List.Perm.swap _ _ _
    · simp [Dict.get?_set, hsite]
  · by_cases hsite : "s" = siteId
    · simp only [Dict.get?_set, hsite, if_true]
      decide
    · simp [Dict.get?_set, hsite]

end Voice
end PacketTracer
