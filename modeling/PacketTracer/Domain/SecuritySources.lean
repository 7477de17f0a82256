import PacketTracer.Domain.SecurityPlan
import PacketTracer.Library.Ipaddress

/-!
# What a security compilation reads

`security_compiler.py` up to the policies: the checks on the intent and on the source plans, what
the compiler reads from the configuration, service and voice plans, and `_resolve_policies`.  A
compilation raises where Python does; `str.casefold` and the digests are parameters.
-/

namespace PacketTracer

open Dicts PyText Ipaddress

/-! ## Service and voice plans -/

/-- `ServiceType`. -/
inductive ServiceType
  | dns
  | http
  | https
  | ntp
  | tftp
  deriving DecidableEq

/-- `ServiceDefinition`. -/
structure ServiceDefinition where
  id : String
  serviceType : ServiceType
  hostDeviceId : String
  address : String
  protocol : String
  ports : List ℤ := []
  deriving DecidableEq

/-- `ServicePlan`. -/
structure ServicePlan where
  id : String
  sourceTopologyHash : String
  sourceConfigurationHash : String
  semanticHash : String := ""
  services : List ServiceDefinition := []
  deriving DecidableEq

/-- `CallControlInstance`. -/
structure CallControlInstance where
  id : String
  hostDeviceId : String
  sourceAddress : String
  signalingPort : ℤ
  deriving DecidableEq

/-- `PhoneAssignment`. -/
structure PhoneAssignment where
  phoneId : String
  callControlId : String
  voiceSegmentId : String
  accessConfigurationActionId : String
  deriving DecidableEq

/-- `CallExpectation`. -/
structure CallExpectation where
  id : String
  sourcePhoneId : String
  deriving DecidableEq

/-- `VoicePlan`. -/
structure VoicePlan where
  id : String
  sourceTopologyHash : String
  sourceConfigurationHash : String
  semanticHash : String := ""
  callControls : List CallControlInstance := []
  phoneAssignments : List PhoneAssignment := []
  callExpectations : List CallExpectation := []
  deriving DecidableEq

/-- The arguments of `compile`. -/
structure SecurityRequest where
  intent : SecurityIntent
  topology : Plans.TopologyPlan
  configuration : ConfigurationPlan
  servicePlan : Option ServicePlan := none
  voicePlan : Option VoicePlan := none
  capabilities : Dict String SecurityCapabilityProfile := .empty

/-- What a compilation raises. -/
inductive SecurityCompileError
  | valueError
  | keyError (key : String)
  | attributeError (name : String)
  deriving DecidableEq

/-- `SecurityCompiler`, with what it takes from Python: `digest` is the start of the hexadecimal
SHA-256 digest of a text, `natSlot` the number that its first four digits denote. -/
structure SecurityCompiler where
  digest : String → String
  natSlot : String → ℕ
  semanticHash : SecurityPlan → String
  casefold : String → String

/-! ## Issues -/

/-- `_error`. -/
def securityError (code : ConfigurationIssueCode) (message : String) (subject : String := "") :
    ConfigurationIssue :=
  { severity := .error, code := code, message := message, subject := subject }

/-- `_warning`. -/
def securityWarning (code : ConfigurationIssueCode) (message : String) (subject : String := "") :
    ConfigurationIssue :=
  { severity := .warning, code := code, message := message, subject := subject }

/-! ## Checks on the intent -/

namespace SecurityCompiler

variable (compiler : SecurityCompiler)

/-- `_ACL_PROTOCOLS`. -/
def aclProtocols : List String := ["ip", "icmp", "tcp", "udp", "udp/tcp"]

/-- The issues of one policy. -/
def validatePolicy (policy : SecurityPolicyIntent) : List ConfigurationIssue :=
  let destinations := [policy.destinationSegmentId, policy.destinationServiceId,
    policy.destinationCallControlId].filter (· ≠ "")
  let protocol := compiler.casefold policy.protocol
  (if 1 < destinations.length then
      [securityError .securityIntentInvalid
        "A policy must select exactly one semantic destination kind." policy.id] else []) ++
    (if protocol ∉ aclProtocols then
      [securityError .securityIntentInvalid
        s!"Protocol {quoted policy.protocol} is not an allowed typed protocol." policy.id]
      else []) ++
    (if (policy.sourcePorts ++ policy.destinationPorts).any fun port =>
        port < 1 || 65535 < port then
      [securityError .securityIntentInvalid
        "Security policy ports must be between 1 and 65535." policy.id] else []) ++
    (if (policy.sourcePorts ≠ [] ∨ policy.destinationPorts ≠ []) ∧
        protocol ∉ ["tcp", "udp", "udp/tcp"] ∧ policy.destinationServiceId = "" ∧
        policy.destinationCallControlId = "" then
      [securityError .securityIntentInvalid
        "Port constraints require a typed TCP or UDP protocol." policy.id] else [])

/-- The issues of one NAT policy. -/
def validateNatPolicy (policy : NatPolicyIntent) : List ConfigurationIssue :=
  (if policy.mode = .static ∧ policy.staticMappings = [] then
      [securityError .securityNatInvalid
        "Static NAT requires at least one typed endpoint mapping." policy.id] else []) ++
    (if policy.mode = .dynamic ∧ policy.dynamicPool = none then
      [securityError .securityNatInvalid
        "Dynamic NAT requires an explicit typed address pool." policy.id] else []) ++
    (if policy.mode = .pat ∧ (policy.staticMappings ≠ [] ∨ policy.dynamicPool ≠ none) then
      [securityError .securityNatInvalid
        "Interface PAT cannot carry static mappings or a dynamic pool." policy.id] else [])

/-- The issues of one port-security policy. -/
def validatePortSecurity (policy : PortSecurityPolicyIntent) : List ConfigurationIssue :=
  if policy.maxMacs < 1 ∨ 132 < policy.maxMacs then
    [securityError .securityIntentInvalid
      "Port-security maximum must be between 1 and 132." policy.id]
  else []

/-- Whether `_SAFE_BANNER_RE` matches a banner. -/
def safeBanner (banner : String) : Bool :=
  banner.toList.all (fun c => 0x20 ≤ c.toNat && c.toNat ≤ 0x7E) && banner.toList.length ≤ 256

/-- The issues of one hardening policy. -/
def validateHardening (policy : DeviceHardeningIntent) : List ConfigurationIssue :=
  if safeBanner policy.bannerMotd = false ∨ '#' ∈ policy.bannerMotd.toList then
    [securityError .securityIntentInvalid
      "Hardening banner contains an unsafe delimiter or control character." policy.id]
  else []

/-- `_validate_intent`. -/
def validateIntent (intent : SecurityIntent) : List ConfigurationIssue :=
  intent.policies.flatMap compiler.validatePolicy ++ intent.natPolicies.flatMap validateNatPolicy ++
    intent.portSecurity.flatMap validatePortSecurity ++ intent.hardening.flatMap validateHardening

/-- `_validate_sources`. -/
def validateSources (request : SecurityRequest) : List ConfigurationIssue :=
  let intent := request.intent
  let topologyHash := request.topology.physicalIdentityHash
  let configuration := request.configuration
  (if topologyHash = "" ∨ configuration.semanticHash = "" then
      [securityError .securitySourceHashMissing
        "E8 requires immutable E4 and E5 semantic hashes." intent.id] else []) ++
    (if configuration.sourceTopologyHash ≠ topologyHash then
      [securityError .securitySourceMismatch
        "The E5 ConfigurationPlan was compiled for a different E4 topology." configuration.id]
      else []) ++
    (if (intent.policies.any (·.destinationServiceId ≠ "")) ∧ request.servicePlan = none then
      [securityError .securityServiceMissing
        "A semantic service policy requires its E6 ServicePlan." intent.id] else []) ++
    (match request.servicePlan with
    | some plan =>
      if plan.sourceTopologyHash ≠ topologyHash ∨
          plan.sourceConfigurationHash ≠ configuration.semanticHash ∨ plan.semanticHash = "" then
        [securityError .securitySourceMismatch
          "The E6 ServicePlan does not match the E4/E5 sources." plan.id]
      else []
    | none => []) ++
    (if (intent.policies.any (·.destinationCallControlId ≠ "")) ∧ request.voicePlan = none then
      [securityError .securityVoiceDependencyMissing
        "A semantic voice policy requires its E7 VoicePlan." intent.id] else []) ++
    (match request.voicePlan with
    | some plan =>
      if plan.sourceTopologyHash ≠ topologyHash ∨
          plan.sourceConfigurationHash ≠ configuration.semanticHash ∨ plan.semanticHash = "" then
        [securityError .securitySourceMismatch
          "The E7 VoicePlan does not match the E4/E5 sources." plan.id]
      else []
    | none => [])

/-- The order in which policies take effect. -/
abbrev PolicyKey := ℤ ×ₗ String

/-- The key by which policies are sorted. -/
def policyKey (policy : SecurityPolicyIntent) : PolicyKey := toLex (policy.priority, policy.id)

/-- The policies in the order in which they take effect. -/
def orderedPolicies (policies : List SecurityPolicyIntent) : List SecurityPolicyIntent :=
  sortedBy policyKey policies

/-- What two policies share that match the same packets exactly. -/
structure ConflictKey where
  sourceSegmentId : String
  destinationSegmentId : String
  destinationServiceId : String
  destinationCallControlId : String
  protocol : String
  sourcePorts : List ℤ
  destinationPorts : List ℤ
  deriving DecidableEq

/-- One iteration of the search for policies that match the same packets exactly. -/
def analyzeExact (state : Dict ConflictKey SecurityPolicyIntent × List ConfigurationIssue)
    (policy : SecurityPolicyIntent) :
    Dict ConflictKey SecurityPolicyIntent × List ConfigurationIssue :=
  let key : ConflictKey :=
    { sourceSegmentId := policy.sourceSegmentId
      destinationSegmentId := policy.destinationSegmentId
      destinationServiceId := policy.destinationServiceId
      destinationCallControlId := policy.destinationCallControlId
      protocol := compiler.casefold policy.protocol
      sourcePorts := sortedBy id policy.sourcePorts
      destinationPorts := sortedBy id policy.destinationPorts }
  match state.1.get? key with
  | some previous =>
    if previous.decision ≠ policy.decision then
      (state.1, state.2 ++ [securityError .securityPolicyConflict
        s!"Policies {quoted previous.id} and {quoted policy.id} contradict exactly." policy.id])
    else
      (state.1, state.2 ++ [securityWarning .securityPolicyShadowed
        s!"Policy {quoted policy.id} duplicates {quoted previous.id}." policy.id])
  | none => (state.1.set key policy, state.2)

/-- The warnings about policies behind a broad one. -/
def shadowWarnings : List SecurityPolicyIntent → List ConfigurationIssue
  | [] => []
  | policy :: later =>
    (if policy.destinationSegmentId ≠ "" ∨ policy.destinationServiceId ≠ "" ∨
        policy.destinationCallControlId ≠ "" ∨ compiler.casefold policy.protocol ≠ "ip" then []
      else (later.filter (·.sourceSegmentId = policy.sourceSegmentId)).map fun item =>
        securityWarning .securityPolicyShadowed
          s!"Broad policy {quoted policy.id} may shadow {quoted item.id}." item.id) ++
      shadowWarnings later

/-- `_analyze_policy_conflicts`. -/
def analyzePolicyConflicts (policies : List SecurityPolicyIntent) : List ConfigurationIssue :=
  let ordered := orderedPolicies policies
  (ordered.foldl compiler.analyzeExact (Dict.empty, [])).2 ++ compiler.shadowWarnings ordered

/-! ## What is read from the source plans -/

/-- `_interface_of`. -/
def interfaceOf (action : ConfigurationAction) : String :=
  match action.detail with
  | .configureSubinterface parentInterface vlanId .. => s!"{parentInterface}.{vlanId}"
  | .configureSvi vlanId .. => s!"Vlan{vlanId}"
  | .configureRoutedInterface interface .. => interface
  | _ => ""

/-- The network around an address text and a prefix text. -/
def networkText (address mask : String) : Except SecurityCompileError String :=
  match networkAround (address ++ "/" ++ mask) with
  | some network => .ok network.text
  | none => .error .valueError

/-- `_network_of`. -/
def networkOf (action : ConfigurationAction) : Except SecurityCompileError String :=
  match action.detail with
  | .configureRoutedInterface _ ipv4 prefixLength .. => networkText ipv4 (toString prefixLength)
  | .configureSvi _ ipv4 prefixLength .. => networkText ipv4 (toString prefixLength)
  | .configureSubinterface _ _ ipv4 prefixLength .. => networkText ipv4 (toString prefixLength)
  | .configureDhcpPool _ _ network prefixLength .. => networkText network (toString prefixLength)
  | .setEndpointDhcp _ _ network prefixLength .. => networkText network (toString prefixLength)
  | .setEndpointStaticAddress _ ipv4 netmask .. => networkText ipv4 netmask
  | _ => .ok ""

/-- The segment of a Layer 3 interface. -/
def l3Segment? (action : ConfigurationAction) : Option String :=
  match action.detail with
  | .configureRoutedInterface _ _ _ _ segmentId _ => some segmentId
  | .configureSvi _ _ _ _ segmentId _ => some segmentId
  | .configureSubinterface _ _ _ _ _ segmentId _ => some segmentId
  | _ => none

/-- The segment of an address of an endpoint. -/
def endpointSegment? (action : ConfigurationAction) : Option String :=
  match action.detail with
  | .setEndpointDhcp _ segmentId .. => some segmentId
  | .setEndpointStaticAddress _ _ _ _ _ segmentId => some segmentId
  | _ => none

/-- The segment of an address that names a network although it is no Layer 3 interface. -/
def addressedSegment? (action : ConfigurationAction) : Option String :=
  match action.detail with
  | .configureDhcpPool _ segmentId .. => some segmentId
  | _ => endpointSegment? action

/-- `dict.setdefault`. -/
def setDefault {κ ν : Type} [DecidableEq κ] (entries : Dict κ ν) (key : κ) (value : ν) :
    Dict κ ν :=
  if entries.contains key then entries else entries.set key value

/-- The lists of a grouping, each sorted by device and action. -/
def sortedGroups (groups : Dict String (List ConfigurationAction)) :
    Dict String (List ConfigurationAction) :=
  Dict.ofList (groups.entries.map fun entry =>
    (entry.1, sortedBy (fun item => toLex (item.deviceId, item.id)) entry.2))

/-- What `_segment_l3` has read so far: the interfaces and the network of every segment. -/
structure SegmentScan where
  l3 : Dict String (List ConfigurationAction) := .empty
  networks : Dict String String := .empty

/-- One iteration of `_segment_l3`. -/
def scanSegment (scan : SegmentScan) (action : ConfigurationAction) :
    Except SecurityCompileError SegmentScan :=
  match l3Segment? action with
  | some segmentId => do
    let network ← networkOf action
    return {
      l3 := appendTo scan.l3 segmentId action
      networks := scan.networks.set segmentId network }
  | none =>
    match addressedSegment? action with
    | some segmentId => do
      let network ← networkOf action
      return { scan with networks := setDefault scan.networks segmentId network }
    | none => .ok scan

/-- `_segment_l3`. -/
def segmentL3 (configuration : ConfigurationPlan) : Except SecurityCompileError SegmentScan := do
  let scan ← configuration.actions.foldlM scanSegment {}
  return { scan with l3 := sortedGroups scan.l3 }

/-- `_endpoints`: the addresses of the endpoints of every segment. -/
def endpointsOf (configuration : ConfigurationPlan) : Dict String (List ConfigurationAction) :=
  sortedGroups (configuration.actions.foldl (fun groups action =>
    match endpointSegment? action with
    | some segmentId => appendTo groups segmentId action
    | none => groups) .empty)

/-- `_endpoints`: the address of every endpoint. -/
def endpointAddressesOf (configuration : ConfigurationPlan) : Dict String ConfigurationAction :=
  Dict.ofList ((configuration.actions.filter fun action => (endpointSegment? action).isSome).map
    fun action => (action.deviceId, action))

/-- `_vlans`: the VLAN identifiers and the actions that define them, by segment. -/
def vlansOf (configuration : ConfigurationPlan) : Dict String (List (ℤ × ConfigurationAction)) :=
  configuration.actions.foldl (fun groups action =>
    match action.detail with
    | .createVlan vlanId _ segmentId => appendTo groups segmentId (vlanId, action)
    | _ => groups) .empty

/-- `_voice_segment_hosts`: a phone of every voice segment, with the action that placed it. -/
def voiceSegmentHosts (voicePlan : Option VoicePlan) : Dict String (String × String) :=
  ((voicePlan.map VoicePlan.phoneAssignments).getD []).foldl (fun hosts assignment =>
    setDefault hosts assignment.voiceSegmentId
      (assignment.phoneId, assignment.accessConfigurationActionId)) .empty

/-- The call expectations of every call control. -/
def voiceCallsByControl (voicePlan : Option VoicePlan) : Dict String (List String) :=
  match voicePlan with
  | none => .empty
  | some plan =>
    let controlByPhone := Dict.ofList (plan.phoneAssignments.map fun item =>
      (item.phoneId, item.callControlId))
    (sortedBy CallExpectation.id plan.callExpectations).foldl (fun calls expectation =>
      let controlId := (controlByPhone.get? expectation.sourcePhoneId).getD ""
      if controlId ≠ "" then appendTo calls controlId expectation.id else calls) .empty

/-- What the compiler looks up in the source plans. -/
structure Sources where
  devices : Dict String Plans.DevicePlan
  devicesByName : Dict String Plans.DevicePlan
  segments : SegmentScan
  endpoints : Dict String (List ConfigurationAction)
  endpointAddresses : Dict String ConfigurationAction
  vlans : Dict String (List (ℤ × ConfigurationAction))
  services : Dict String ServiceDefinition
  callControls : Dict String CallControlInstance
  voiceCalls : Dict String (List String)
  voiceHosts : Dict String (String × String)

/-- What `compile` reads from its arguments before it compiles anything. -/
def sourcesOf (request : SecurityRequest) : Except SecurityCompileError Sources := do
  let segments ← segmentL3 request.configuration
  return {
    devices := Dict.ofList (request.topology.devices.map fun item => (item.semanticId, item))
    devicesByName := Dict.ofList (request.topology.devices.map fun item => (item.name, item))
    segments := segments
    endpoints := endpointsOf request.configuration
    endpointAddresses := endpointAddressesOf request.configuration
    vlans := vlansOf request.configuration
    services := Dict.ofList (((request.servicePlan.map ServicePlan.services).getD []).map
      fun item => (item.id, item))
    callControls := Dict.ofList (((request.voicePlan.map VoicePlan.callControls).getD []).map
      fun item => (item.id, item))
    voiceCalls := voiceCallsByControl request.voicePlan
    voiceHosts := voiceSegmentHosts request.voicePlan }

namespace Sources

variable (sources : Sources)

/-- The Layer 3 interfaces of a segment. -/
def l3Of (segmentId : String) : List ConfigurationAction :=
  (sources.segments.l3.get? segmentId).getD []

/-- The text of the network of a segment; without one it is empty. -/
def networkOfSegment (segmentId : String) : String :=
  (sources.segments.networks.get? segmentId).getD ""

/-- The first address of an endpoint of a segment. -/
def firstEndpoint (segmentId : String) : Option ConfigurationAction :=
  ((sources.endpoints.get? segmentId).getD []).head?

/-- The name of a device; without the device it is empty. -/
def deviceName (deviceId : String) : String :=
  ((sources.devices.get? deviceId).map Plans.DevicePlan.name).getD ""

end Sources

/-- The address of a `SetEndpointStaticAddress`. -/
def staticIpv4? (action : ConfigurationAction) : Option String :=
  match action.detail with
  | .setEndpointStaticAddress _ ipv4 .. => some ipv4
  | _ => none

/-! ## Resolving policies -/

/-- What a policy says about the destination of packets. -/
structure ResolvedDestination where
  cidr : String := "0.0.0.0/0"
  deviceId : String := ""
  address : String := ""
  protocol : String
  ports : List ℤ
  probeKind : SecurityProbeKind
  foundationId : String := ""
  voiceCallExpectationId : String := ""

/-- A policy at one interface that its source segment enters by. -/
structure ResolvedRule where
  policy : SecurityPolicyIntent
  placement : ConfigurationAction
  interface : String
  sourceCidr : String
  destination : ResolvedDestination
  sourcePorts : List ℤ
  sourceDeviceId : String
  sourceDeviceName : String
  destinationDeviceName : String
  sourceFoundationId : String

/-- `_service_probe`. -/
def serviceProbe : ServiceType → SecurityProbeKind
  | .dns => .dnsLookup
  | .http => .httpFetch
  | .https => .httpsFetch
  | .ntp => .ntpSync
  | .tftp => .tftpGet

/-- `sorted(set(ports))`. -/
def sortedPorts (ports : List ℤ) : List ℤ := sortedBy id ports.dedup

/-- The destination of a policy for a service. -/
def serviceDestination (service : ServiceDefinition) : ResolvedDestination :=
  { cidr := service.address ++ "/32"
    deviceId := service.hostDeviceId
    address := service.address
    protocol := compiler.casefold service.protocol
    ports := sortedPorts service.ports
    probeKind := serviceProbe service.serviceType
    foundationId := service.id }

/-- The destination of a policy for a call control, with the call expectations of the control. -/
def callControlDestination (callControl : CallControlInstance) (callIds : List String) :
    ResolvedDestination :=
  { cidr := callControl.sourceAddress ++ "/32"
    deviceId := callControl.hostDeviceId
    address := callControl.sourceAddress
    protocol := "tcp"
    ports := [callControl.signalingPort]
    probeKind := if callIds = [] then .unobservable else .voiceCall
    foundationId := callControl.id
    voiceCallExpectationId := callIds.head?.getD "" }

/-- The probe for a policy that names neither a service nor a call control. -/
def directProbe (policy : SecurityPolicyIntent) : SecurityProbeKind :=
  if compiler.casefold policy.protocol ∈ ["ip", "icmp"] ∧ sortedPorts policy.sourcePorts = [] ∧
      sortedPorts policy.destinationPorts = [] then .icmpReachability
  else .unobservable

/-- The destination of a policy without one. -/
def anyDestination (policy : SecurityPolicyIntent) : ResolvedDestination :=
  { protocol := compiler.casefold policy.protocol
    ports := sortedPorts policy.destinationPorts
    probeKind := compiler.directProbe policy }

/-- The part of `_resolve_policies` about the destination: the issue for which the policy is left
out, or the destination with further issues. -/
def resolveDestination (sources : Sources) (policy : SecurityPolicyIntent) :
    Except ConfigurationIssue (ResolvedDestination × List ConfigurationIssue) :=
  if policy.destinationServiceId ≠ "" then
    match sources.services.get? policy.destinationServiceId with
    | none => .error (securityError .securityServiceMissing
        s!"E6 service {quoted policy.destinationServiceId} does not exist." policy.id)
    | some service => .ok (compiler.serviceDestination service, [])
  else if policy.destinationCallControlId ≠ "" then
    match sources.callControls.get? policy.destinationCallControlId with
    | none => .error (securityError .securityVoiceDependencyMissing
        s!"E7 call control {quoted policy.destinationCallControlId} does not exist." policy.id)
    | some callControl =>
      let callIds := (sources.voiceCalls.get? callControl.id).getD []
      .ok (callControlDestination callControl callIds,
        if callIds = [] then
          [securityWarning .securityCapabilityUnobservable
            (s!"E7 call control {quoted callControl.id} has no plan-owned call " ++
              "expectation for E8 behavioral verification.") policy.id]
        else [])
  else if policy.destinationSegmentId ≠ "" then
    let cidr := sources.networkOfSegment policy.destinationSegmentId
    let issue := securityError .securityScopeMissing
      s!"Destination segment {quoted policy.destinationSegmentId} has no E5 scope." policy.id
    match sources.firstEndpoint policy.destinationSegmentId with
    | none => .error issue
    | some endpoint =>
      if cidr = "" then .error issue
      else
        .ok ({ compiler.anyDestination policy with
          cidr := cidr
          deviceId := endpoint.deviceId
          foundationId := endpoint.id
          address := (staticIpv4? endpoint).getD "" }, [])
  else .ok (compiler.anyDestination policy, [])

/-- The host of a policy's source segment to probe from, and the action that placed it there: an
addressed endpoint, or a phone. -/
def sourceHost (sources : Sources) (policy : SecurityPolicyIntent) : String × String :=
  match sources.firstEndpoint policy.sourceSegmentId with
  | some endpoint => (endpoint.deviceId, endpoint.id)
  | none => (sources.voiceHosts.get? policy.sourceSegmentId).getD ("", "")

/-- One iteration of `_resolve_policies`: the rules of a policy, and the issues. -/
def resolvePolicy (sources : Sources) (policy : SecurityPolicyIntent) :
    List ResolvedRule × List ConfigurationIssue :=
  let sourceL3 := sources.l3Of policy.sourceSegmentId
  let sourceNetwork := sources.networkOfSegment policy.sourceSegmentId
  let (sourceDeviceId, sourceActionId) := sourceHost sources policy
  if sourceL3 = [] ∨ sourceNetwork = "" ∨ sourceDeviceId = "" then
    ([], [securityError .securityPlacementFailed
      s!"Source segment {quoted policy.sourceSegmentId} lacks E5 L3 or endpoint state." policy.id])
  else
    match sourceL3.find? fun placement => !sources.devices.contains placement.deviceId with
    | some placement =>
      ([], [securityError .securityPlacementFailed
        (s!"ACL placement device {quoted placement.deviceId} " ++ "is absent from E4.") policy.id])
    | none =>
      match compiler.resolveDestination sources policy with
      | .error issue => ([], [issue])
      | .ok (destination, issues) =>
        (sourceL3.map fun placement =>
          { policy := policy
            placement := placement
            interface := interfaceOf placement
            sourceCidr := sourceNetwork
            destination := destination
            sourcePorts := sortedPorts policy.sourcePorts
            sourceDeviceId := sourceDeviceId
            sourceDeviceName := sources.deviceName sourceDeviceId
            destinationDeviceName := sources.deviceName destination.deviceId
            sourceFoundationId := sourceActionId }, issues)

/-- `_resolve_policies`. -/
def resolvePolicies (sources : Sources) (policies : List SecurityPolicyIntent) :
    List ResolvedRule × List ConfigurationIssue :=
  let resolved := (orderedPolicies policies).map (compiler.resolvePolicy sources)
  (resolved.flatMap Prod.fst, resolved.flatMap Prod.snd)

end SecurityCompiler

end PacketTracer
