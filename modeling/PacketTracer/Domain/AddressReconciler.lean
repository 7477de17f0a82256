import PacketTracer.Library.Dict
import PacketTracer.Library.Ipaddress
import PacketTracer.Library.PyText

/-!
# The address reconciler

`ipam_reconciliation.py` and `address_reconciler.py`: infrastructure address demands are matched
with the bindings that already exist, matched bindings are preserved where they fit, and the
remaining demands get their requested address or the first free one.

The loop over the ordered demands is a machine whose operations are the demands; a demand that
cannot be served ends the run with the result that `reconcile` returns.
-/

namespace PacketTracer

open Dicts Ipaddress Machines PyText

/-! ## Models -/

/-- `AddressPurpose`: the semantic owner of an address. -/
inductive AddressPurpose
  | endpoint
  | svi
  | management
  | transit
  | loopback
  | fhrpMember
  | fhrpVip
  deriving DecidableEq

def AddressPurpose.value : AddressPurpose → String
  | endpoint => "endpoint"
  | svi => "svi"
  | management => "management"
  | transit => "transit"
  | loopback => "loopback"
  | fhrpMember => "fhrp_member"
  | fhrpVip => "fhrp_vip"

lemma AddressPurpose.value_injective : Function.Injective AddressPurpose.value := by
  intro a b h
  cases a <;> cases b <;> first | rfl | exact absurd h (by decide)

/-- `AddressReconcileStatus`. -/
inductive AddressReconcileStatus
  | allocatedWithoutRenumber
  | renumberRequired
  | insufficientCapacity
  | conflict
  | invalidDemand
  deriving DecidableEq

/-- `AddressReconcileIssueCode`. -/
inductive AddressReconcileIssueCode
  | invalidAddressSpace
  | invalidDemand
  | duplicateDemandId
  | invalidExistingBinding
  | duplicateExistingBindingId
  | duplicateExistingAddress
  | ambiguousExistingBinding
  | requestedAddressConflict
  | existingBindingRenumber
  | insufficientCapacity
  deriving DecidableEq

/-- `InfrastructureAddressDemand`: one requested identity within an IPv4 pool. -/
structure InfrastructureAddressDemand where
  id : String
  purpose : AddressPurpose
  ownerId : String
  network : String
  segmentId : String := ""
  groupId : String := ""
  requestedIpv4 : String := ""
  interfacePrefix : Option ℤ := none
  deriving DecidableEq

/-- `ExistingAddressBinding`: an observed address that reconciliation must preserve. -/
structure ExistingAddressBinding where
  id : String
  purpose : AddressPurpose
  ownerId : String
  ipv4 : String
  prefixLength : ℤ
  demandId : String := ""
  segmentId : String := ""
  groupId : String := ""
  deriving DecidableEq

/-- `FinalAddressBinding`. -/
structure FinalAddressBinding where
  id : String
  demandId : String := ""
  purpose : AddressPurpose
  ownerId : String
  ipv4 : String
  prefixLength : ℤ
  segmentId : String := ""
  groupId : String := ""
  preserved : Bool := false
  sourceBindingId : String := ""
  deriving DecidableEq

/-- `AddressRenumbering`. -/
structure AddressRenumbering where
  demandId : String
  ownerId : String
  previousIpv4 : String
  proposedIpv4 : String
  previousPrefix : ℤ
  proposedPrefix : ℤ
  reason : String
  deriving DecidableEq

/-- `AddressReconcileIssue`. -/
structure AddressReconcileIssue where
  code : AddressReconcileIssueCode
  message : String
  demandId : String := ""
  bindingId : String := ""
  deriving DecidableEq

/-- `FinalAddressPlan`. -/
structure FinalAddressPlan where
  addressSpace : String
  bindings : List FinalAddressBinding := []
  renumbering : List AddressRenumbering := []
  semanticHash : String := ""
  deriving DecidableEq

/-- `AddressReconcileResult`. -/
structure AddressReconcileResult where
  status : AddressReconcileStatus
  plan : Option FinalAddressPlan := none
  issues : List AddressReconcileIssue := []
  deriving DecidableEq

/-! ## Reading texts -/

namespace AddressReconciler

/-- `_parse_network`: a strict IPv4 network. -/
def parseNetwork (value : String) : Option IPv4Network :=
  match ipNetwork value with
  | some (.v4 network) => some network
  | _ => none

/-- `_parse_address`: an IPv4 address. -/
def parseAddress (value : String) : Option IPv4Address :=
  match ipAddress value with
  | some (.v4 address) => some address
  | _ => none

/-- `ipaddress.IPv4Address(value)` of a text that validation has accepted. -/
def addressOfText (value : String) : IPv4Address := (parseAddress value).getD 0

/-- `_usable_in`: in the network, and not one of its ends unless it has at most two addresses. -/
def usableIn (address : IPv4Address) (network : IPv4Network) : Bool :=
  if (address : ℕ) ∉ network then false
  else if 31 ≤ network.prefixlen then true
  else decide ((address : ℕ) ≠ network.first ∧ (address : ℕ) ≠ network.last)

/-- `_interface_prefix`. -/
def interfacePrefix (demand : InfrastructureAddressDemand) (network : IPv4Network) : ℤ :=
  match demand.interfacePrefix with
  | some prefixLength => prefixLength
  | none => if demand.purpose = .loopback then 32 else network.prefixlen

/-! ## Validation -/

/-- The loop body of `_validate_demands`: the network of the demand, or why it is rejected. -/
def validateDemand (enterprise : IPv4Network) (seen : List String)
    (demand : InfrastructureAddressDemand) : Except AddressReconcileIssue IPv4Network :=
  let invalid (message : String) : AddressReconcileIssue :=
    { code := .invalidDemand, message := message, demandId := demand.id }
  if demand.id = "" ∨ demand.id ∈ seen then
    .error
      { code := if demand.id ∈ seen then .duplicateDemandId else .invalidDemand
        message := s!"Demand id {quoted demand.id} must be non-empty and unique."
        demandId := demand.id }
  else
    let outside := invalid
      (s!"Demand {quoted demand.id} must name an owner and a strict " ++
        "IPv4 pool inside the enterprise address space.")
    match parseNetwork demand.network with
    | none => .error outside
    | some network =>
      let prefixLength := interfacePrefix demand network
      if ¬network ≤ enterprise ∨ demand.ownerId = "" then .error outside
      else if demand.purpose = .endpoint then
        .error (invalid (s!"Demand {quoted demand.id} is an endpoint; this reconciler " ++
          "only creates explicitly requested infrastructure identities."))
      else if (demand.purpose = .fhrpMember ∨ demand.purpose = .fhrpVip) ∧
          (demand.groupId = "" ∨ demand.segmentId = "") then
        .error (invalid s!"FHRP demand {quoted demand.id} requires group_id and segment_id.")
      else if ¬(0 ≤ prefixLength ∧ prefixLength ≤ 32) ∨
          (demand.purpose = .loopback ∧ prefixLength ≠ 32) then
        .error (invalid
          s!"Demand {quoted demand.id} has invalid interface prefix {prefixLength}.")
      else if demand.requestedIpv4 ≠ "" ∧
          ((parseAddress demand.requestedIpv4).map (usableIn · network)).getD false = false then
        .error (invalid (s!"Requested address {quoted demand.requestedIpv4} is not " ++
          s!"usable in {IPv4Network.text network}."))
      else .ok network

/-- The loop of `_validate_demands`. -/
def validateDemandsFrom (enterprise : IPv4Network) :
    List InfrastructureAddressDemand → List String → Dict String IPv4Network →
      List AddressReconcileIssue → Dict String IPv4Network × List AddressReconcileIssue
  | [], _, networks, issues => (networks, issues)
  | demand :: demands, seen, networks, issues =>
    let seen' := if demand.id = "" ∨ demand.id ∈ seen then seen else demand.id :: seen
    match validateDemand enterprise seen demand with
    | .ok network => validateDemandsFrom enterprise demands seen' (networks.set demand.id network)
        issues
    | .error issue => validateDemandsFrom enterprise demands seen' networks (issues ++ [issue])

/-- `_validate_demands`. -/
def validateDemands (enterprise : IPv4Network) (demands : List InfrastructureAddressDemand) :
    Dict String IPv4Network × List AddressReconcileIssue :=
  validateDemandsFrom enterprise demands [] Dict.empty []

/-- The loop body of `_validate_existing`: the address of the binding, or why it is rejected. -/
def validateBinding (enterprise : IPv4Network) (ids : List String)
    (owners : Dict String ExistingAddressBinding) (binding : ExistingAddressBinding) :
    Except AddressReconcileIssue IPv4Address :=
  if binding.id = "" ∨ binding.id ∈ ids then
    .error
      { code := if binding.id ∈ ids then .duplicateExistingBindingId else .invalidExistingBinding
        message := s!"Existing binding id {quoted binding.id} must be unique."
        bindingId := binding.id }
  else
    let invalid : AddressReconcileIssue :=
      { code := .invalidExistingBinding
        message := s!"Existing binding {quoted binding.id} is not valid in " ++
          s!"{IPv4Network.text enterprise}."
        bindingId := binding.id }
    match parseAddress binding.ipv4 with
    | none => .error invalid
    | some address =>
      if (address : ℕ) ∉ enterprise ∨ ¬(0 ≤ binding.prefixLength ∧ binding.prefixLength ≤ 32) ∨
          binding.ownerId = "" then .error invalid
      else
        match owners.get? (text address) with
        | some previous =>
          .error
            { code := .duplicateExistingAddress
              message := s!"Address {text address} is owned by both {quoted previous.id} " ++
                s!"and {quoted binding.id}."
              bindingId := binding.id }
        | none => .ok address

/-- The loop of `_validate_existing`. -/
def validateExistingFrom (enterprise : IPv4Network) :
    List ExistingAddressBinding → List String → Dict String ExistingAddressBinding →
      Dict String IPv4Address → List AddressReconcileIssue →
        Dict String IPv4Address × List AddressReconcileIssue
  | [], _, _, addresses, issues => (addresses, issues)
  | binding :: bindings, ids, owners, addresses, issues =>
    let ids' := if binding.id = "" ∨ binding.id ∈ ids then ids else binding.id :: ids
    match validateBinding enterprise ids owners binding with
    | .ok address =>
      validateExistingFrom enterprise bindings ids' (owners.set (text address) binding)
        (addresses.set binding.ipv4 address) issues
    | .error issue =>
      validateExistingFrom enterprise bindings ids' owners addresses (issues ++ [issue])

/-- `_validate_existing`. -/
def validateExisting (enterprise : IPv4Network) (bindings : List ExistingAddressBinding) :
    Dict String IPv4Address × List AddressReconcileIssue :=
  validateExistingFrom enterprise bindings [] Dict.empty Dict.empty []

/-! ## Indexing and matching -/

/-- What `_semantic_key` returns. -/
abbrev SemanticKey := String × String × String × String

/-- `_semantic_key` of a demand. -/
def demandSemanticKey (demand : InfrastructureAddressDemand) : SemanticKey :=
  (demand.purpose.value, demand.ownerId, demand.segmentId, demand.groupId)

/-- `_semantic_key` of a binding. -/
def bindingSemanticKey (binding : ExistingAddressBinding) : SemanticKey :=
  (binding.purpose.value, binding.ownerId, binding.segmentId, binding.groupId)

/-- What `_index_existing` returns. -/
structure ExistingIndex where
  byDemand : Dict String ExistingAddressBinding := Dict.empty
  bySemantics : Dict SemanticKey (List ExistingAddressBinding) := Dict.empty
  issues : List AddressReconcileIssue := []

/-- The first half of the loop body of `_index_existing`: index a binding by its demand. -/
def ExistingIndex.addDemand (index : ExistingIndex) (binding : ExistingAddressBinding) :
    ExistingIndex :=
  if binding.demandId = "" then index
  else
    match index.byDemand.get? binding.demandId with
    | some previous =>
      { index with
        issues := index.issues ++
          [{ code := .ambiguousExistingBinding
             message := s!"Demand {quoted binding.demandId} is claimed by existing " ++
              s!"bindings {quoted previous.id} and {quoted binding.id}."
             demandId := binding.demandId
             bindingId := binding.id }] }
    | none => { index with byDemand := index.byDemand.set binding.demandId binding }

/-- The second half of the loop body of `_index_existing`: index a binding by its semantics. -/
def ExistingIndex.addSemantics (index : ExistingIndex) (binding : ExistingAddressBinding) :
    ExistingIndex :=
  if binding.purpose = .endpoint then index
  else
    let key := bindingSemanticKey binding
    { index with
      bySemantics := index.bySemantics.set key
        ((index.bySemantics.get? key).getD [] ++ [binding]) }

/-- `_index_existing`. -/
def indexExisting (bindings : List ExistingAddressBinding) : ExistingIndex :=
  bindings.foldl (fun index binding => (index.addDemand binding).addSemantics binding) {}

/-- `_match_existing`: the binding that claims the demand, else the only unmatched binding with
the demand's semantics. -/
def matchExisting (index : ExistingIndex) (demand : InfrastructureAddressDemand)
    (matchedIds : List String) : Except AddressReconcileIssue (Option ExistingAddressBinding) :=
  match index.byDemand.get? demand.id with
  | some exact =>
    if bindingSemanticKey exact ≠ demandSemanticKey demand then
      .error
        { code := .ambiguousExistingBinding
          message := s!"Existing binding {quoted exact.id} claims demand {quoted demand.id} " ++
            "but identifies a different semantic owner."
          demandId := demand.id
          bindingId := exact.id }
    else .ok (some exact)
  | none =>
    let candidates := ((index.bySemantics.get? (demandSemanticKey demand)).getD []).filter
      fun item => item.id ∉ matchedIds
    if 1 < candidates.length then
      .error
        { code := .ambiguousExistingBinding
          message := s!"Demand {quoted demand.id} matches multiple existing semantic bindings."
          demandId := demand.id }
    else .ok candidates.head?

/-! ## Serving one demand -/

/-- `_can_preserve`: the matched binding fits the demand. -/
def canPreserve (demand : InfrastructureAddressDemand) (binding : ExistingAddressBinding)
    (network : IPv4Network) (prefixLength : ℤ) : Bool :=
  match parseAddress binding.ipv4 with
  | none => false
  | some address =>
    usableIn address network && binding.prefixLength = prefixLength &&
      (demand.requestedIpv4 = "" || text address = text (addressOfText demand.requestedIpv4))

/-- `_final_from_existing`. -/
def finalFromExisting (demand : InfrastructureAddressDemand) (binding : ExistingAddressBinding)
    (prefixLength : ℤ) : FinalAddressBinding :=
  { id := s!"address/{demand.id}"
    demandId := demand.id
    purpose := demand.purpose
    ownerId := demand.ownerId
    ipv4 := text (addressOfText binding.ipv4)
    prefixLength := prefixLength
    segmentId := demand.segmentId
    groupId := demand.groupId
    preserved := true
    sourceBindingId := binding.id }

/-- `_requested_candidate`: the requested address, when it is free or the matched binding's. -/
def requestedCandidate (demand : InfrastructureAddressDemand) (occupied : Dict String String)
    (matched : Option ExistingAddressBinding) :
    Except AddressReconcileIssue (Option IPv4Address) :=
  if demand.requestedIpv4 = "" then .ok none
  else
    let requested := addressOfText demand.requestedIpv4
    let isMatched : Bool := matched.any fun binding =>
      text requested = text (addressOfText binding.ipv4)
    if (occupied.get? (text requested)).isNone || isMatched then .ok (some requested)
    else
      .error
        { code := .requestedAddressConflict
          message := s!"Requested address {text requested} for {quoted demand.id} " ++
            "is already bound."
          demandId := demand.id }

/-- `_first_available`: the first host of the network that is not occupied. -/
def firstAvailable (network : IPv4Network) (occupied : Dict String String) : Option IPv4Address :=
  (network.hosts.map (Fin.ofNat (2 ^ 32))).find? fun item => !occupied.contains (text item)

/-- `_renumber_reason`. -/
def renumberReason (demand : InfrastructureAddressDemand) (binding : ExistingAddressBinding)
    (network : IPv4Network) (prefixLength : ℤ) : String :=
  let address := addressOfText binding.ipv4
  if usableIn address network = false then
    s!"Existing address {text address} for {quoted demand.id} is outside usable " ++
      s!"pool {IPv4Network.text network}; explicit renumbering approval is required."
  else if binding.prefixLength ≠ prefixLength then
    s!"Existing prefix /{binding.prefixLength} for {quoted demand.id} does not " ++
      s!"match required /{prefixLength}; explicit binding change is required."
  else
    s!"Existing address {text address} for {quoted demand.id} differs from requested " ++
      s!"address {demand.requestedIpv4}; explicit renumbering approval is required."

/-- The local variables of the main loop of `reconcile`. -/
structure ReconcileState where
  occupied : Dict String String
  matchedBindingIds : List String := []
  final : List FinalAddressBinding := []
  renumbering : List AddressRenumbering := []
  issues : List AddressReconcileIssue := []

/-- The result of a demand that ends the loop. -/
def conflict (issue : AddressReconcileIssue) : AddressReconcileResult :=
  { status := .conflict, issues := [issue] }

/-- All addresses, where validation recorded no network. -/
def anyNetwork : IPv4Network := ⟨0, 0, by decide, by decide⟩

/-- The network that validation recorded for a demand. -/
def networkFor (networks : Dict String IPv4Network) (demand : InfrastructureAddressDemand) :
    IPv4Network :=
  (networks.get? demand.id).getD anyNetwork

/-- The rest of the loop body once the candidate address is chosen. -/
def assignCandidate (state : ReconcileState) (demand : InfrastructureAddressDemand)
    (network : IPv4Network) (matched : Option ExistingAddressBinding) (candidate : IPv4Address) :
    ReconcileState :=
  let prefixLength := interfacePrefix demand network
  let assigned : ReconcileState :=
    { state with
      occupied := state.occupied.set (text candidate) s!"demand:{demand.id}"
      final := state.final ++
        [{ id := s!"address/{demand.id}"
           demandId := demand.id
           purpose := demand.purpose
           ownerId := demand.ownerId
           ipv4 := text candidate
           prefixLength := prefixLength
           segmentId := demand.segmentId
           groupId := demand.groupId
           preserved := false
           sourceBindingId := (matched.map ExistingAddressBinding.id).getD "" }] }
  match matched with
  | none => assigned
  | some binding =>
    let reason := renumberReason demand binding network prefixLength
    { assigned with
      renumbering := assigned.renumbering ++
        [{ demandId := demand.id
           ownerId := demand.ownerId
           previousIpv4 := binding.ipv4
           proposedIpv4 := text candidate
           previousPrefix := binding.prefixLength
           proposedPrefix := prefixLength
           reason := reason }]
      issues := assigned.issues ++
        [{ code := .existingBindingRenumber
           message := reason
           demandId := demand.id
           bindingId := binding.id }] }

/-- The part of the loop body that looks for a new address. -/
def allocate (state : ReconcileState) (demand : InfrastructureAddressDemand)
    (network : IPv4Network) (matched : Option ExistingAddressBinding) :
    Except AddressReconcileResult ReconcileState :=
  match requestedCandidate demand state.occupied matched with
  | .error issue => .error (conflict issue)
  | .ok requested =>
    match requested.or (firstAvailable network state.occupied) with
    | none =>
      .error
        { status := .insufficientCapacity
          issues :=
            [{ code := .insufficientCapacity
               message := s!"No usable IPv4 address remains in {IPv4Network.text network} for " ++
                s!"demand {quoted demand.id}."
               demandId := demand.id }] }
    | some candidate => .ok (assignCandidate state demand network matched candidate)

/-- The loop body of `reconcile`. -/
def serveDemand (networks : Dict String IPv4Network) (index : ExistingIndex)
    (state : ReconcileState) (demand : InfrastructureAddressDemand) :
    Except AddressReconcileResult ReconcileState :=
  let network := networkFor networks demand
  let prefixLength := interfacePrefix demand network
  match matchExisting index demand state.matchedBindingIds with
  | .error issue => .error (conflict issue)
  | .ok none => allocate state demand network none
  | .ok (some binding) =>
    let state := { state with matchedBindingIds := state.matchedBindingIds ++ [binding.id] }
    if canPreserve demand binding network prefixLength then
      .ok { state with final := state.final ++ [finalFromExisting demand binding prefixLength] }
    else allocate state demand network (some binding)

/-- The main loop of `reconcile`, as a machine over the ordered demands. -/
def reconcileMachine (networks : Dict String IPv4Network) (index : ExistingIndex) :
    Machine ReconcileState InfrastructureAddressDemand AddressReconcileResult where
  step := serveDemand networks index

/-! ## Assembling the plan -/

/-- The key of `_ordered_demands`. -/
def demandOrderKey (network : IPv4Network) (demand : InfrastructureAddressDemand) :
    ℕ ×ₗ ℕ ×ₗ String ×ₗ String ×ₗ String ×ₗ String :=
  toLex (network.first, toLex (network.prefixlen, toLex (demand.groupId,
    toLex (demand.purpose.value, toLex (demand.ownerId, demand.id)))))

/-- `_ordered_demands`. -/
def orderedDemands (demands : List InfrastructureAddressDemand)
    (networks : Dict String IPv4Network) : List InfrastructureAddressDemand :=
  sortedBy (fun demand => demandOrderKey (networkFor networks demand) demand) demands

/-- `_binding_sort_key`. -/
def bindingSortKey (item : ExistingAddressBinding) :
    ℕ ×ₗ ℤ ×ₗ String ×ₗ String ×ₗ String :=
  toLex ((addressOfText item.ipv4 : ℕ), toLex (item.prefixLength,
    toLex (item.purpose.value, toLex (item.ownerId, item.id))))

/-- `_final_sort_key`. -/
def finalSortKey (item : FinalAddressBinding) :
    ℕ ×ₗ ℤ ×ₗ String ×ₗ String ×ₗ String ×ₗ String :=
  toLex ((addressOfText item.ipv4 : ℕ), toLex (item.prefixLength,
    toLex (item.purpose.value, toLex (item.ownerId, toLex (item.demandId, item.id)))))

/-- The final binding of an existing binding that no demand matched. -/
def finalFromUnmatched (addresses : Dict String IPv4Address) (binding : ExistingAddressBinding) :
    FinalAddressBinding :=
  { id := binding.id
    demandId := binding.demandId
    purpose := binding.purpose
    ownerId := binding.ownerId
    ipv4 := text ((addresses.get? binding.ipv4).getD 0)
    prefixLength := binding.prefixLength
    segmentId := binding.segmentId
    groupId := binding.groupId
    preserved := true
    sourceBindingId := binding.id }

/-- `reconcile`.  `semanticHash` is the digest of the plan's canonical JSON. -/
def reconcile (semanticHash : FinalAddressPlan → String) (addressSpace : String)
    (demands : List InfrastructureAddressDemand)
    (existingBindings : List ExistingAddressBinding) : AddressReconcileResult :=
  match parseNetwork addressSpace with
  | none =>
    { status := .invalidDemand
      issues :=
        [{ code := .invalidAddressSpace
           message := s!"Address space {quoted addressSpace} is not a strict IPv4 network." }] }
  | some enterprise =>
    let (networks, demandIssues) := validateDemands enterprise demands
    if demandIssues ≠ [] then { status := .invalidDemand, issues := demandIssues }
    else
      let (addresses, existingIssues) := validateExisting enterprise existingBindings
      if existingIssues ≠ [] then { status := .conflict, issues := existingIssues }
      else
        let index := indexExisting existingBindings
        if index.issues ≠ [] then { status := .conflict, issues := index.issues }
        else
          let occupied := Dict.ofList (addresses.entries.map fun e => (e.1, text e.2))
          match (reconcileMachine networks index).run { occupied := occupied }
            (orderedDemands demands networks) with
          | .error result => result
          | .ok state =>
            let unmatched := (sortedBy bindingSortKey existingBindings).filter
              fun binding => binding.id ∉ state.matchedBindingIds
            let final := sortedBy finalSortKey
              (state.final ++ unmatched.map (finalFromUnmatched addresses))
            let renumbering := sortedBy
              (fun item : AddressRenumbering => toLex (item.demandId, item.ownerId))
              state.renumbering
            let plan : FinalAddressPlan :=
              { addressSpace := IPv4Network.text enterprise
                bindings := final
                renumbering := renumbering }
            { status :=
                if renumbering ≠ [] then .renumberRequired else .allocatedWithoutRenumber
              plan := some { plan with semanticHash := semanticHash plan }
              issues := state.issues }

end AddressReconciler

end PacketTracer
