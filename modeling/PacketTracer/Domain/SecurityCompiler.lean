import PacketTracer.Domain.SecuritySources

/-!
# The security compiler

`security_compiler.py` from the resolved policies on: access lists, address translation, port
security, inspection and hardening, the gate on capabilities, and `compile`.
-/

namespace PacketTracer

open Dicts PyText Ipaddress

namespace SecurityCompiler

variable (compiler : SecurityCompiler)

/-- `_stable_id`. -/
def stableId (kind : String) (parts : List String) : String :=
  "sec/" ++ kind ++ "/" ++ compiler.digest (String.intercalate "|" (kind :: parts))

/-- What a part of the compiler emits; foundations are entries of a dictionary. -/
structure Emitted where
  actions : List SecurityAction := []
  expectations : List SecurityVerificationExpectation := []
  foundations : List (String × SecurityFoundationRequirement) := []
  issues : List ConfigurationIssue := []

/-- One output after another. -/
def Emitted.append (first second : Emitted) : Emitted :=
  { actions := first.actions ++ second.actions
    expectations := first.expectations ++ second.expectations
    foundations := first.foundations ++ second.foundations
    issues := first.issues ++ second.issues }

/-- Several outputs in order. -/
def Emitted.concat (outputs : List Emitted) : Emitted := outputs.foldl Emitted.append {}

/-- A foundation under its identifier. -/
def foundation (identifier kind sourceId : String) : String × SecurityFoundationRequirement :=
  (identifier, { id := identifier, kind := kind, sourceId := sourceId })

/-- The base of an action on a device. -/
def baseAction (identifier : String) (phase : SecurityPhase) (deviceId : String)
    (device : Plans.DevicePlan) (capability : SecurityCapabilityDimension)
    (detail : SecurityActionDetail) (dependsOn : List String := []) : SecurityAction :=
  { id := identifier
    phase := phase
    deviceId := deviceId
    deviceName := device.name
    model := device.model
    siteId := device.siteId
    dependsOn := dependsOn
    requiredCapability := capability
    detail := detail }

/-! ## Access lists -/

/-- The rules of every access list, by the device and the interface it is attached to. -/
def aclGroups (resolved : List ResolvedRule) : Dict (String × String) (List ResolvedRule) :=
  resolved.foldl (fun groups item =>
    appendTo groups (item.placement.deviceId, item.interface) item) .empty

/-- `_extended_acl_number`. -/
def extendedAclNumber (index : ℕ) : Option ℕ :=
  if index < 100 then some (100 + index)
  else if index < 800 then some (1900 + index)
  else none

/-- The device and the interface of an access list, and its name. -/
structure AclPlacement where
  deviceId : String
  device : Plans.DevicePlan
  interface : String
  aclName : String

/-- The identifier of the entry for a policy. -/
def aclRuleId (placement : AclPlacement) (policy : SecurityPolicyIntent) : String :=
  compiler.stableId "acl-rule" [policy.id, placement.deviceId, placement.interface]

/-- The entry for a resolved policy, after the entry `previous`. -/
def aclRuleAction (placement : AclPlacement) (previous : String) (sequence : ℤ)
    (item : ResolvedRule) : SecurityAction :=
  baseAction (compiler.aclRuleId placement item.policy) .enforcement placement.deviceId
    placement.device .aclConfig
    (.addSecurityAclRule
      { aclName := placement.aclName
        sequence := sequence
        policyId := item.policy.id
        decision := item.policy.decision
        protocol := item.destination.protocol
        sourceCidr := item.sourceCidr
        destinationCidr := item.destination.cidr
        sourcePorts := item.sourcePorts
        destinationPorts := item.destination.ports
        logging := item.policy.logging })
    (if previous = "" then [] else [previous])

/-- The entries of an access list, each after the one before. -/
def aclRuleActions (placement : AclPlacement) :
    String → ℤ → List ResolvedRule → List SecurityAction
  | _, _, [] => []
  | previous, sequence, item :: items =>
    compiler.aclRuleAction placement previous sequence item ::
      aclRuleActions placement (compiler.aclRuleId placement item.policy) (sequence + 10) items

/-- The identifier of the last entry. -/
def lastRuleId (placement : AclPlacement) (items : List ResolvedRule) : String :=
  (items.getLast?.map fun item => compiler.aclRuleId placement item.policy).getD ""

/-- The entry that allows what no policy matches, for requests that allow by default. -/
def aclDefaultActions (placement : AclPlacement) (defaultDecision : SecurityDecision)
    (items : List ResolvedRule) : List SecurityAction :=
  if defaultDecision = .allow then
    [baseAction
      (compiler.stableId "acl-default" [placement.deviceId, placement.interface, "allow"])
      .enforcement placement.deviceId placement.device .aclConfig
      (.addSecurityAclRule
        { aclName := placement.aclName
          sequence := 10 + 10 * items.length
          decision := .allow
          protocol := "ip"
          sourceCidr := "0.0.0.0/0"
          destinationCidr := "0.0.0.0/0"
          defaultRule := true })
      [compiler.lastRuleId placement items]]
  else []

/-- The identifier of the action that attaches an access list. -/
def aclAttachId (placement : AclPlacement) : String :=
  compiler.stableId "acl-attach" [placement.deviceId, placement.interface, placement.aclName]

/-- The action that attaches an access list, after the entry `previous`. -/
def aclAttachAction (placement : AclPlacement) (previous : String) : SecurityAction :=
  baseAction (compiler.aclAttachId placement) .attachments placement.deviceId placement.device
    .aclConfig
    (.attachSecurityAcl
      { aclName := placement.aclName, interface := placement.interface, direction := "in" })
    [previous]

/-- The actions of an access list: its entries in order, the default, and the attachment. -/
def aclGroupActions (placement : AclPlacement) (defaultDecision : SecurityDecision)
    (items : List ResolvedRule) : List SecurityAction :=
  let defaults := compiler.aclDefaultActions placement defaultDecision items
  let previous := (defaults.getLast?.map SecurityAction.id).getD
    (compiler.lastRuleId placement items)
  compiler.aclRuleActions placement "" 10 items ++ defaults ++
    [compiler.aclAttachAction placement previous]

/-- The foundations of the entry for a resolved policy. -/
def aclRuleFoundations (item : ResolvedRule) : List (String × SecurityFoundationRequirement) :=
  let destinationId := item.destination.foundationId
  foundation s!"foundation/{item.sourceFoundationId}" "endpoint" item.sourceFoundationId ::
    (if destinationId ≠ "" then
      [foundation s!"foundation/{destinationId}"
        (if item.policy.destinationCallControlId ≠ "" then "voice"
          else if item.policy.destinationServiceId ≠ "" then "service" else "endpoint")
        destinationId]
    else [])

/-- The expectation about the entry for a resolved policy. -/
def aclRuleExpectation (placement : AclPlacement) (item : ResolvedRule) :
    SecurityVerificationExpectation :=
  { id := compiler.stableId "verify-traffic"
      [item.policy.id, placement.deviceId, placement.interface]
    kind := .trafficPolicy
    actionId := compiler.aclRuleId placement item.policy
    policyId := item.policy.id
    probeKind := item.destination.probeKind
    expectedDecision := item.policy.decision
    sourceDeviceId := item.sourceDeviceId
    sourceDeviceName := item.sourceDeviceName
    destinationDeviceId := item.destination.deviceId
    destinationDeviceName := item.destinationDeviceName
    destinationAddress := item.destination.address
    protocol := item.destination.protocol
    destinationPorts := item.destination.ports
    baselineRequired := item.policy.decision = .deny
    cleanupRecoveryRequired := item.policy.decision = .deny
    dependsOn := [compiler.aclRuleId placement item.policy] }

/-- The expectation about an access list as a whole. -/
def aclStateExpectation (placement : AclPlacement) : SecurityVerificationExpectation :=
  { id := compiler.stableId "verify-acl" [placement.deviceId, placement.interface]
    kind := .aclDirectState
    actionId := compiler.aclAttachId placement
    policyId := ""
    probeKind := .directReadback
    requiredQuery := "show_access_lists"
    dependsOn := [compiler.aclAttachId placement] }

/-- Whether an action is an entry of the access list with the given name. -/
def isRuleOf (aclName : String) (action : SecurityAction) : Bool :=
  match action.detail with
  | .addSecurityAclRule rule => rule.aclName = aclName
  | _ => false

/-- What the expectations so far become when an access list is attached: those about its entries
are about the attachment. -/
def redirectExpectation (ruleIds : List String) (attachId : String)
    (expectation : SecurityVerificationExpectation) : SecurityVerificationExpectation :=
  if expectation.actionId ∈ ruleIds then
    { expectation with actionId := attachId, dependsOn := [attachId] }
  else expectation

/-- The output for one access list after the output so far. -/
def emitAcl (placement : AclPlacement) (defaultDecision : SecurityDecision)
    (items : List ResolvedRule) (emitted : Emitted) : Emitted :=
  let rules := sortedBy (fun item => policyKey item.policy) items
  let actions := emitted.actions ++ compiler.aclGroupActions placement defaultDecision rules
  let attachId := compiler.aclAttachId placement
  let ruleIds := (actions.filter (isRuleOf placement.aclName)).map SecurityAction.id
  { actions := actions
    expectations :=
      (emitted.expectations ++ rules.map (compiler.aclRuleExpectation placement)).map
        (redirectExpectation ruleIds attachId) ++ [compiler.aclStateExpectation placement]
    foundations := emitted.foundations ++ rules.flatMap aclRuleFoundations ++
      [foundation s!"foundation/l3/{placement.deviceId}/{placement.interface}" "l3_interface"
        ((items.head?.map fun item => item.placement.id).getD "")]
    issues := emitted.issues }

/-- One iteration over the access lists. -/
def aclGroup (sources : Sources) (defaultDecision : SecurityDecision) (emitted : Emitted)
    (group : ((String × String) × List ResolvedRule) × ℕ) :
    Except SecurityCompileError Emitted :=
  let (((deviceId, interface), items), index) := group
  match sources.devices.get? deviceId with
  | none => .error (.keyError deviceId)
  | some device =>
    match extendedAclNumber index with
    | none => .ok { emitted with
        issues := emitted.issues ++ [securityError .securityPlacementFailed
          ("The topology requires more numbered extended ACLs than IOS " ++
            "ranges 100-199 and 2000-2699 can represent.") s!"{deviceId}:{interface}"] }
    | some number =>
      .ok (compiler.emitAcl
        { deviceId := deviceId
          device := device
          interface := interface
          aclName := toString number } defaultDecision items emitted)

/-- `_acl_actions`. -/
def aclActions (sources : Sources) (defaultDecision : SecurityDecision)
    (resolved : List ResolvedRule) : Except SecurityCompileError Emitted :=
  (sortedBy (fun entry => toLex entry.1) (aclGroups resolved).entries).zipIdx.foldlM
    (compiler.aclGroup sources defaultDecision) {}

/-! ## Address translation -/

/-- One issue, and nothing else. -/
def Emitted.issue (issue : ConfigurationIssue) : Emitted := { issues := [issue] }

/-- `_token`: runs of other characters become hyphens, which are stripped from both ends. -/
def token (value : String) : String :=
  let isToken (c : Char) : Bool := ('a' ≤ c && c ≤ 'z') || ('0' ≤ c && c ≤ '9')
  let runs := ((compiler.casefold value).toList.splitOnP fun c => !isToken c).filter (· ≠ [])
  let text := String.ofList (['-'].intercalate runs)
  if text = "" then "security" else text

/-- The first standard access list number that no policy before uses, from the slot of a policy. -/
def natAclNumber (policyId : String) (allocated : List ℕ) : Option ℕ :=
  let start := 1 + compiler.natSlot policyId % 99
  ((List.range 99).map fun offset => 1 + (start - 1 + offset) % 99).find? (· ∉ allocated)

/-- One static mapping of a policy: the issue for which it is left out, or the compiled mapping
with its foundation. -/
def natStaticMapping (sources : Sources) (outsideNetwork : IPNetwork) (policy : NatPolicyIntent)
    (mapping : StaticNatMappingIntent) : Except ConfigurationIssue
      (CompiledStaticNatMapping × (String × SecurityFoundationRequirement)) :=
  let endpoint := sources.endpointAddresses.get? mapping.insideEndpointId
  match endpoint, endpoint.bind staticIpv4? with
  | some endpoint, some ipv4 =>
    if (endpointSegment? endpoint).getD "" ∉ policy.insideSegmentIds then
      .error (securityError .securityNatInvalid
        (s!"Static NAT endpoint {quoted mapping.insideEndpointId} is not " ++
          "inside the policy scope.") policy.id)
    else
      match ipAddress mapping.outsideGlobalAddress with
      | some address =>
        if outsideNetwork.contains address then
          .ok ({ insideEndpointId := mapping.insideEndpointId
                 insideLocalAddress := ipv4
                 outsideGlobalAddress := address.text },
            foundation s!"foundation/endpoint/{endpoint.id}" "endpoint" endpoint.id)
        else .error (securityError .securityNatInvalid
          (s!"Static global address {quoted mapping.outsideGlobalAddress} " ++
            "is outside the compiled external segment.") policy.id)
      | none => .error (securityError .securityNatInvalid
          (s!"Static global address {quoted mapping.outsideGlobalAddress} " ++
            "is outside the compiled external segment.") policy.id)
  | _, _ => .error (securityError .securityNatInvalid
      (s!"Static NAT endpoint {quoted mapping.insideEndpointId} " ++
        "has no E5 static address.") policy.id)

/-- The order of static mappings. -/
def sortedMappings (policy : NatPolicyIntent) : List StaticNatMappingIntent :=
  sortedBy (fun item => toLex (item.insideEndpointId, item.outsideGlobalAddress))
    policy.staticMappings

/-- The pool of a dynamic policy, unless it is no ordered range of the external segment. -/
def natDynamicPool (outsideNetwork : IPNetwork) (policy : NatPolicyIntent)
    (pool : DynamicNatPoolIntent) : Option CompiledDynamicNatPool :=
  match ipAddress pool.startAddress, ipAddress pool.endAddress,
      networkAround s!"0.0.0.0/{pool.prefixLength}" with
  | some start, some stop, some (.v4 poolNetwork) =>
    if stop.toNat < start.toNat ∨ outsideNetwork.contains start = false ∨
        outsideNetwork.contains stop = false ∨
        pool.prefixLength ≠ outsideNetwork.prefixlen then none
    else some
      { name := String.ofList (("E8_" ++ (compiler.token policy.id).toUpper).toList.take 24)
        startAddress := start.text
        endAddress := stop.text
        netmask := Ipaddress.text poolNetwork.netmask }
  | _, _, _ => none

/-- What a translation is compiled from, besides the policy. -/
structure NatContext where
  router : Plans.DevicePlan
  inside : List ConfigurationAction
  outside : ConfigurationAction
  aclNumber : ℕ
  staticMappings : List CompiledStaticNatMapping
  dynamicPool : Option CompiledDynamicNatPool

/-- The action of a translation. -/
def natAction (sources : Sources) (policy : NatPolicyIntent) (context : NatContext) :
    SecurityAction :=
  baseAction (compiler.stableId "nat" [policy.id, context.router.id]) .enforcement
    context.router.semanticId context.router
    (match policy.mode with
      | .pat => .natPatConfig
      | .static => .natStaticConfig
      | .dynamic => .natDynamicConfig)
    (.configureSecurityNat
      { policyId := policy.id
        mode := policy.mode
        insideInterfaces := sortedBy id (context.inside.map interfaceOf)
        outsideInterface := interfaceOf context.outside
        insideNetworks := sortedBy id
          (policy.insideSegmentIds.dedup.map sources.networkOfSegment)
        translationAclNumber := context.aclNumber
        probeDestinationDeviceId := policy.probeDestinationDeviceId
        staticMappings := context.staticMappings
        dynamicPool := context.dynamicPool })

/-- The endpoint from which a translation is probed. -/
def natSource (sources : Sources) (policy : NatPolicyIntent) : Option ConfigurationAction :=
  match policy.mode, sortedMappings policy with
  | .static, mapping :: _ =>
    if mapping.insideEndpointId ≠ "" then sources.endpointAddresses.get? mapping.insideEndpointId
    else (sortedBy ConfigurationAction.id sources.endpointAddresses.values).find? fun item =>
      (endpointSegment? item).getD "" ∈ policy.insideSegmentIds
  | _, _ =>
    (sortedBy ConfigurationAction.id sources.endpointAddresses.values).find? fun item =>
      (endpointSegment? item).getD "" ∈ policy.insideSegmentIds

/-- The output for a translation.  The address of a source that has none is read all the same. -/
def emitNat (sources : Sources) (policy : NatPolicyIntent) (context : NatContext) :
    Except SecurityCompileError Emitted := do
  let actionId := compiler.stableId "nat" [policy.id, context.router.id]
  let source := natSource sources policy
  let sourceDevice := source.bind fun item => sources.devices.get? item.deviceId
  let destination := sources.devices.get? policy.probeDestinationDeviceId
  let destinationIpv4 :=
    (sources.endpointAddresses.get? policy.probeDestinationDeviceId).bind staticIpv4?
  let sourceAddress ← match source with
    | none => pure ""
    | some item =>
      match staticIpv4? item with
      | some ipv4 => pure ipv4
      | none => throw (.attributeError "ipv4")
  return {
    actions := [compiler.natAction sources policy context]
    expectations :=
      [{ id := compiler.stableId "verify-nat-state" [policy.id]
         kind := .natDirectState
         actionId := actionId
         policyId := policy.id
         probeKind := .directReadback
         requiredQuery := "show_ip_nat_statistics"
         dependsOn := [actionId] },
       { id := compiler.stableId "verify-nat-translation" [policy.id]
         kind := .natTranslation
         actionId := actionId
         policyId := policy.id
         probeKind :=
           if sourceDevice.isSome && destination.isSome && destinationIpv4.isSome then
             .icmpReachability
           else .unobservable
         expectedDecision := .allow
         sourceDeviceId := (source.map ConfigurationAction.deviceId).getD ""
         sourceDeviceName := (sourceDevice.map Plans.DevicePlan.name).getD ""
         sourceAddress := sourceAddress
         destinationDeviceId := policy.probeDestinationDeviceId
         destinationDeviceName := (destination.map Plans.DevicePlan.name).getD ""
         destinationAddress := destinationIpv4.getD ""
         requiredQuery := "show_ip_nat_translations"
         dependsOn := [actionId] }]
    foundations :=
      (context.inside ++ [context.outside]).map (fun item =>
        foundation s!"foundation/l3/{item.id}" "l3_interface" item.id) ++
        (match source with
        | some item => [foundation s!"foundation/endpoint/{item.id}" "endpoint" item.id]
        | none => []) }

/-- A translation whose interfaces and access list number are known. -/
def natPlaced (sources : Sources) (policy : NatPolicyIntent) (router : Plans.DevicePlan)
    (inside : List ConfigurationAction) (outside : ConfigurationAction) (aclNumber : ℕ) :
    Except SecurityCompileError Emitted :=
  match networkAround (sources.networkOfSegment policy.outsideSegmentId) with
  | none => .error .valueError
  | some outsideNetwork =>
    let results := if policy.mode = .static then
        (sortedMappings policy).map (natStaticMapping sources outsideNetwork policy)
      else []
    let compiled := results.filterMap Except.toOption
    let mapped : Emitted :=
      { foundations := compiled.map Prod.snd
        issues := results.filterMap fun result =>
          match result with
          | .error issue => some issue
          | .ok _ => none }
    if policy.mode = .static ∧ compiled.length ≠ policy.staticMappings.length then .ok mapped
    else
      let context : NatContext :=
        { router := router
          inside := inside
          outside := outside
          aclNumber := aclNumber
          staticMappings := compiled.map Prod.fst
          dynamicPool := none }
      match policy.mode, policy.dynamicPool with
      | .dynamic, some pool =>
        match compiler.natDynamicPool outsideNetwork policy pool with
        | none => .ok (mapped.append (.issue (securityError .securityNatInvalid
            ("Dynamic NAT pool must be an ordered IPv4 range within " ++
              "the compiled external segment and use its prefix.") policy.id)))
        | some compiledPool => do
          return mapped.append (← compiler.emitNat sources policy
            { context with dynamicPool := some compiledPool })
      | _, _ => do
        return mapped.append (← compiler.emitNat sources policy context)

/-- One iteration of `_nat_actions`: the output so far, and the access list numbers in use. -/
def natPolicy (sources : Sources) (state : Emitted × List ℕ) (policy : NatPolicyIntent) :
    Except SecurityCompileError (Emitted × List ℕ) :=
  let (emitted, allocated) := state
  match sources.devices.get? policy.routerDeviceId with
  | none => .ok (emitted.append (.issue (securityError .securityNatInvalid
      s!"NAT router {quoted policy.routerDeviceId} does not exist in E4." policy.id)), allocated)
  | some router =>
    let interfaceOn (segmentId : String) :=
      (sources.l3Of segmentId).find? (·.deviceId = policy.routerDeviceId)
    let insideSegments := sortedBy id policy.insideSegmentIds.dedup
    let missing := insideSegments.filter fun segmentId =>
      (interfaceOn segmentId).isNone || !sources.segments.networks.contains segmentId
    let unplaced : Emitted :=
      { issues := missing.map fun segmentId => securityError .securityNatInvalid
          s!"Inside segment {quoted segmentId} has no E5 L3 interface on {router.name}."
          policy.id }
    let emitted := emitted.append unplaced
    let inside := (insideSegments.filter (· ∉ missing)).filterMap interfaceOn
    match interfaceOn policy.outsideSegmentId with
    | none => .ok (emitted.append (.issue (securityError .securityNatInvalid
        (s!"Outside segment {quoted policy.outsideSegmentId} has no E5 L3 interface on " ++
          s!"{router.name}.") policy.id)), allocated)
    | some outside =>
      if inside.length ≠ insideSegments.length then .ok (emitted, allocated)
      else if policy.mode = .static then do
        let output ← compiler.natPlaced sources policy router inside outside 0
        return (emitted.append output, allocated)
      else
        match compiler.natAclNumber policy.id allocated with
        | none => .ok (emitted.append (.issue (securityError .securityNatInvalid
            "No standard numbered ACL remains for the compiled NAT policies." policy.id)),
            allocated)
        | some number => do
          let output ← compiler.natPlaced sources policy router inside outside number
          return (emitted.append output, allocated ++ [number])

/-- `_nat_actions`. -/
def natActions (sources : Sources) (policies : List NatPolicyIntent) :
    Except SecurityCompileError Emitted := do
  let state ← (sortedBy NatPolicyIntent.id policies).foldlM (compiler.natPolicy sources) ({}, [])
  return state.1

/-! ## Port security -/

/-- The two ends of a link: identifiers of the devices, with the port of the other end. -/
def linkEnds (sources : Sources) (link : Plans.LinkPlan) :
    Except SecurityCompileError (String × String) := do
  let endId (deviceId name : String) : Except SecurityCompileError String :=
    if deviceId ≠ "" then .ok deviceId
    else
      match sources.devicesByName.get? name with
      | some device => .ok device.semanticId
      | none => .error (.keyError name)
  return (← endId link.deviceAId link.deviceA, ← endId link.deviceBId link.deviceB)

/-- `_endpoint_switch_binding` over sorted links. -/
def endpointSwitchBinding (sources : Sources) (endpointId : String) :
    List Plans.LinkPlan →
      Except SecurityCompileError (Option (Plans.DevicePlan × String × Plans.LinkPlan))
  | [] => .ok none
  | link :: links => do
    let (aId, bId) ← linkEnds sources link
    let switchAt (deviceId : String) :=
      (sources.devices.get? deviceId).filter (·.category = "switch")
    match (if aId = endpointId then switchAt bId else none),
        (if bId = endpointId then switchAt aId else none) with
    | some peer, _ => return some (peer, link.portB, link)
    | none, some peer => return some (peer, link.portA, link)
    | none, none => endpointSwitchBinding sources endpointId links

/-- The access port of an endpoint on an interface of a switch. -/
def accessActionOf (configuration : ConfigurationPlan) (switch : Plans.DevicePlan)
    (interface endpointId : String) : Option ConfigurationAction :=
  configuration.actions.find? fun item =>
    match item.detail with
    | .configureAccessPort port _ _ endpointIds =>
      item.deviceId = switch.semanticId && port = interface && endpointId ∈ endpointIds
    | _ => false

/-- The output for one endpoint of a port-security policy. -/
def portSecurityEndpoint (sources : Sources) (request : SecurityRequest)
    (policy : PortSecurityPolicyIntent) (endpointId : String) :
    Except SecurityCompileError Emitted := do
  let links := sortedBy Plans.LinkPlan.id request.topology.links
  match ← endpointSwitchBinding sources endpointId links with
  | none => return .issue (securityError .securityPortBindingMissing
      s!"Endpoint {quoted endpointId} has no exact E4 switch-port link." policy.id)
  | some (switch, interface, link) =>
    match accessActionOf request.configuration switch interface endpointId with
    | none => return .issue (securityError .securityPortBindingMissing
        s!"E4 port {switch.name}:{interface} has no matching E5 access action." policy.id)
    | some access =>
      let actionId := compiler.stableId "port-security" [policy.id, endpointId, link.id]
      let directId := compiler.stableId "verify-port-security" [actionId]
      return {
        actions := [baseAction actionId .enforcement switch.semanticId switch .portSecurityConfig
          (.configureEndpointPortSecurity policy.id switch.semanticId interface [endpointId]
            policy.maxMacs policy.violation policy.sticky access.id)]
        expectations :=
          [{ id := directId
             kind := .portSecurityState
             actionId := actionId
             policyId := policy.id
             probeKind := .directReadback
             requiredQuery := "show_port_security_interface"
             dependsOn := [actionId] },
           { id := compiler.stableId "verify-port-security-violation" [actionId]
             kind := .portSecurityViolation
             actionId := actionId
             policyId := policy.id
             probeKind := .unobservable
             sourceDeviceId := endpointId
             sourceDeviceName := sources.deviceName endpointId
             requiredQuery := "controlled_second_mac_violation"
             dependsOn := [directId] }]
        foundations := foundation s!"foundation/access/{access.id}" "access_port" access.id ::
          (match sources.endpointAddresses.get? endpointId with
          | some item => [foundation s!"foundation/endpoint/{item.id}" "endpoint" item.id]
          | none => []) }

/-- `_port_security_actions`. -/
def portSecurityActions (sources : Sources) (request : SecurityRequest) :
    Except SecurityCompileError Emitted := do
  let endpoints := (sortedBy PortSecurityPolicyIntent.id request.intent.portSecurity).flatMap
    fun policy => (sortedBy id policy.endpointIds.dedup).map fun endpointId => (policy, endpointId)
  let outputs ← endpoints.mapM fun (policy, endpointId) =>
    compiler.portSecurityEndpoint sources request policy endpointId
  return .concat outputs

/-! ## Inspection -/

/-- `_TRUSTED_LINK_ROLES`. -/
def trustedLinkRoles : List String := ["uplink", "trunk", "core", "distribution"]

/-- The interface of a switch that a link makes trusted. -/
def trustedInterface? (sources : Sources) (switchId : String) (link : Plans.LinkPlan) :
    Except SecurityCompileError (Option String) := do
  let role := (compiler.casefold link.linkRole).toList
  if trustedLinkRoles.all (fun trusted => ¬trusted.toList <:+: role) then return none
  let (aId, bId) ← linkEnds sources link
  if aId = switchId ∧ sources.devices.contains bId then return some link.portA
  else if bId = switchId ∧ sources.devices.contains aId then return some link.portB
  else return none

/-- `_trusted_interfaces`. -/
def trustedInterfaces (sources : Sources) (request : SecurityRequest)
    (switch : Plans.DevicePlan) : Except SecurityCompileError (List String) := do
  let trusted ← request.topology.links.mapM
    (compiler.trustedInterface? sources switch.semanticId)
  return sortedBy id (trusted.filterMap id).dedup

/-- The output for one switch of an inspection policy. -/
def inspectionSwitch (sources : Sources) (request : SecurityRequest)
    (policy : DhcpInspectionPolicyIntent) (vlanIds : List ℤ) (switch : Plans.DevicePlan) :
    Except SecurityCompileError Emitted := do
  let trusted ← compiler.trustedInterfaces sources request switch
  let switchId := switch.semanticId
  let vlans := sortedBy id vlanIds.dedup
  let snoopingId := compiler.stableId "dhcp-snooping" [policy.id, switchId]
  let daiId := compiler.stableId "dai" [policy.id, switchId]
  let state (actionId kindId query : String) (kind : SecurityVerificationKind) :
      SecurityVerificationExpectation :=
    { id := compiler.stableId kindId [actionId]
      kind := kind
      actionId := actionId
      policyId := policy.id
      probeKind := .directReadback
      requiredQuery := query
      dependsOn := [actionId] }
  return {
    actions :=
      (if policy.enableSnooping then
        [baseAction snoopingId .enforcement switchId switch .dhcpSnoopingConfig
          (.configureDhcpSnooping policy.id vlans trusted)] else []) ++
      (if policy.enableDai then
        [baseAction daiId .enforcement switchId switch .daiConfig
          (.configureDynamicArpInspection policy.id vlans trusted)
          (if policy.enableSnooping then [snoopingId] else [])] else [])
    expectations :=
      (if policy.enableSnooping then
        [state snoopingId "verify-dhcp-snooping" "show_ip_dhcp_snooping" .dhcpSnoopingState]
        else []) ++
      (if policy.enableDai then
        [state daiId "verify-dai" "show_ip_arp_inspection" .daiState] else []) }

/-- The output for one inspection policy. -/
def inspectionPolicy (sources : Sources) (request : SecurityRequest)
    (policy : DhcpInspectionPolicyIntent) : Except SecurityCompileError Emitted := do
  let segmentIds := sortedBy id policy.segmentIds.dedup
  let candidates := segmentIds.flatMap fun segmentId =>
    (sources.vlans.get? segmentId).getD []
  let missing := segmentIds.filter fun segmentId =>
    ((sources.vlans.get? segmentId).getD []) = []
  let definitions : Emitted :=
    { foundations := candidates.map fun item =>
        foundation s!"foundation/vlan/{item.2.id}" "vlan" item.2.id
      issues := missing.map fun segmentId => securityError .securityVlanMissing
        s!"Segment {quoted segmentId} has no E5 VLAN definition." policy.id }
  let switches := sortedBy (fun item => toLex (item.semanticId, item.name))
    (request.topology.devices.filter fun item =>
      item.siteId = policy.siteId && item.category = "switch")
  if switches = [] then
    return definitions.append (.issue (securityError .securityScopeMissing
      s!"Site {quoted policy.siteId} has no E4 switch for inspection policy." policy.id))
  let outputs ← switches.mapM
    (compiler.inspectionSwitch sources request policy (candidates.map Prod.fst))
  return definitions.append (.concat outputs)

/-- `_inspection_actions`. -/
def inspectionActions (sources : Sources) (request : SecurityRequest) :
    Except SecurityCompileError Emitted := do
  let outputs ← (sortedBy DhcpInspectionPolicyIntent.id request.intent.dhcpInspection).mapM
    (compiler.inspectionPolicy sources request)
  return .concat outputs

/-! ## Hardening -/

/-- The output for one device of a hardening policy. -/
def hardeningDevice (sources : Sources) (policy : DeviceHardeningIntent) (deviceId : String) :
    Emitted :=
  match sources.devices.get? deviceId with
  | none => .issue (securityError .securityScopeMissing
      s!"Hardening device {quoted deviceId} does not exist in E4." policy.id)
  | some device =>
    let actionId := compiler.stableId "hardening" [policy.id, deviceId]
    { actions := [baseAction actionId .hardening deviceId device .hardeningConfig
        (.applyDeviceHardening policy.id policy.bannerMotd policy.servicePasswordEncryption)]
      expectations :=
        [{ id := compiler.stableId "verify-hardening" [actionId]
           kind := .hardeningState
           actionId := actionId
           policyId := policy.id
           probeKind := .directReadback
           requiredQuery := "show_running_config_hardening"
           dependsOn := [actionId] }] }

/-- `_hardening_actions`. -/
def hardeningActions (sources : Sources) (policies : List DeviceHardeningIntent) : Emitted :=
  .concat ((sortedBy DeviceHardeningIntent.id policies).flatMap fun policy =>
    (sortedBy id policy.deviceIds.dedup).map (compiler.hardeningDevice sources policy))

/-! ## Capabilities -/

/-- The support of a model for a capability. -/
def capabilityOf (capabilities : Dict String SecurityCapabilityProfile) (model : String)
    (dimension : SecurityCapabilityDimension) : SecurityCapabilityStatus :=
  match capabilities.get? model with
  | some profile => profile.status dimension
  | none => .unknown

/-- The details of an issue about a capability. -/
def capabilityDetails (model : String) (dimension : SecurityCapabilityDimension) :
    List (String × String) :=
  [("model", model), ("capability", dimension.value)]

/-- The issue about the capability that an action requires. -/
def gateAction (capabilities : Dict String SecurityCapabilityProfile) (action : SecurityAction) :
    Option ConfigurationIssue :=
  let details := capabilityDetails action.model action.requiredCapability
  match capabilityOf capabilities action.model action.requiredCapability with
  | .unknown => some { securityWarning .securityCapabilityUnknown
      s!"{action.model}:{action.requiredCapability.value} requires runtime evidence." action.id with
      details := details }
  | .unsupported => some { securityError .securityCapabilityUnsupported
      s!"{action.model}:{action.requiredCapability.value} is unsupported." action.id with
      details := details }
  | _ => none

/-- The issue about the capability that an expectation is verified by. -/
def gateExpectation (capabilities : Dict String SecurityCapabilityProfile)
    (actions : Dict String SecurityAction) (expectation : SecurityVerificationExpectation) :
    Option ConfigurationIssue :=
  match actions.get? expectation.actionId with
  | none => none
  | some action =>
    let dimension := securityVerificationCapability expectation (some action)
    let status := capabilityOf capabilities action.model dimension
    let issue (code : ConfigurationIssueCode) : ConfigurationIssue :=
      { securityWarning code
          s!"{action.model}:{dimension.value} verification is {status.value}." expectation.id with
        details := capabilityDetails action.model dimension }
    match status with
    | .supported => none
    | .unknown => some (issue .securityCapabilityUnknown)
    | .partial_ => some (issue .securityCapabilityPartial)
    | .unobservable => some (issue .securityCapabilityUnobservable)
    | .unsupported => some (issue .securityCapabilityUnsupported)
    | .skipped => some (issue .securityCapabilityUnknown)

/-- `_gate_capabilities`. -/
def gateCapabilities (capabilities : Dict String SecurityCapabilityProfile)
    (actions : List SecurityAction) (expectations : List SecurityVerificationExpectation) :
    List ConfigurationIssue :=
  let byId := Dict.ofList (actions.map fun item => (item.id, item))
  actions.filterMap (gateAction capabilities) ++
    expectations.filterMap (gateExpectation capabilities byId)

/-! ## The compiler -/

/-- What tells issues apart. -/
abbrev IssueKey := String ×ₗ String ×ₗ String ×ₗ String

/-- The key of an issue. -/
def issueKey (issue : ConfigurationIssue) : IssueKey :=
  toLex (issue.severity.value, toLex (issue.code.value, toLex (issue.subject, issue.message)))

/-- `_deduplicate_issues`. -/
def deduplicateIssues (issues : List ConfigurationIssue) : List ConfigurationIssue :=
  let unique := Dict.ofList (issues.map fun item => (issueKey item, item))
  (sortedBy id unique.keys).filterMap unique.get?

/-- The identifiers that an error about dependencies names. -/
def dependencyActionIds : ConfigurationDependencyError → List String
  | .duplicateIds actionIds => actionIds
  | .missingDependencies actionIds => actionIds
  | .cycle actionIds => actionIds

/-- The actions in the order of their dependencies; when there is none, the actions and the issue
about it. -/
def orderedActions (actions : List SecurityAction) :
    List SecurityAction × List ConfigurationIssue :=
  match orderDependencyActions actions with
  | .ok ordered => (ordered, [])
  | .error error => (actions, [securityError .dependencyCycle error.message
      (String.intercalate "," (dependencyActionIds error))])

/-- `_acl_actions` and the other parts, one after the other. -/
def emitAll (sources : Sources) (request : SecurityRequest) (resolved : List ResolvedRule) :
    Except SecurityCompileError Emitted := do
  let acl ← compiler.aclActions sources request.intent.defaultDecision resolved
  let nat ← compiler.natActions sources request.intent.natPolicies
  let ports ← compiler.portSecurityActions sources request
  let inspection ← compiler.inspectionActions sources request
  let hardening := compiler.hardeningActions sources request.intent.hardening
  return .concat [acl, nat, ports, inspection, hardening]

/-- The prerequisites of an expectation. -/
def withPrerequisites (expectation : SecurityVerificationExpectation) :
    SecurityVerificationExpectation :=
  { expectation with
    verificationPrerequisites :=
      legacyActionPrerequisites (expectation.actionId :: expectation.dependsOn) }

/-- The plan of a compilation without errors. -/
def securityPlan (request : SecurityRequest) (actions : List SecurityAction)
    (emitted : Emitted) : SecurityPlan :=
  let topology := request.topology
  let consumed {α : Type} (plan : Option α) (used : Bool) : Option α :=
    if used then plan else none
  let services := consumed request.servicePlan
    (request.intent.policies.any (·.destinationServiceId ≠ ""))
  let voice := consumed request.voicePlan
    (request.intent.policies.any (·.destinationCallControlId ≠ ""))
  let plan : SecurityPlan :=
    { id := "security_" ++ (if topology.id ≠ "" then topology.id
        else String.ofList (topology.physicalIdentityHash.toList.take 16))
      defaultDecision := request.intent.defaultDecision
      sourceTopologyId := topology.id
      sourceTopologyHash := topology.physicalIdentityHash
      sourceTopologyHashSchema :=
        if topology.physicalTopologyHash ≠ "" then "physical-topology-v2" else "legacy-full-v1"
      sourceConfigurationId := request.configuration.id
      sourceConfigurationHash := request.configuration.semanticHash
      sourceServiceId := (services.map ServicePlan.id).getD ""
      sourceServiceHash := (services.map ServicePlan.semanticHash).getD ""
      sourceVoiceId := (voice.map VoicePlan.id).getD ""
      sourceVoiceHash := (voice.map VoicePlan.semanticHash).getD ""
      actions := actions.map fun action => { action with applyDependencies := action.dependsOn }
      foundationalRequirements := sortedBy SecurityFoundationRequirement.id
        (Dict.ofList emitted.foundations).values
      verificationExpectations :=
        sortedBy (fun item => toLex (item.kind.value, toLex (item.policyId, item.id)))
          (emitted.expectations.map withPrerequisites) }
  { plan with semanticHash := compiler.semanticHash plan }

/-- `compile`. -/
def compile (request : SecurityRequest) : Except SecurityCompileError SecurityCompileResult := do
  let sources ← sourcesOf request
  let (resolved, resolveIssues) := compiler.resolvePolicies sources request.intent.policies
  let emitted ← compiler.emitAll sources request resolved
  let (actions, orderIssues) := orderedActions emitted.actions
  let issues := deduplicateIssues (validateSources request ++
    compiler.validateIntent request.intent ++
    compiler.analyzePolicyConflicts request.intent.policies ++ resolveIssues ++ emitted.issues ++
    gateCapabilities request.capabilities emitted.actions emitted.expectations ++ orderIssues)
  if issues.any (·.severity = .error) then return { issues := issues }
  else
    let plan := compiler.securityPlan request actions emitted
    return { plan := some plan, semanticHash := plan.semanticHash, issues := issues }

end SecurityCompiler

end PacketTracer
