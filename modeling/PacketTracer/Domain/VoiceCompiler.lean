import PacketTracer.Domain.ExtensionAllocator
import PacketTracer.Domain.IpPlanner
import PacketTracer.Domain.SecurityCompiler
import PacketTracer.Library.Numerals

/-!
# The voice compiler

`voice_compiler.py`: from the phones of a topology and the foundations that the configuration plan
laid, the compiler emits the call controls of the sites, the extensions and bindings of the phones,
their bootstrap and the dial rules.  Every pass is a function of what the passes before it found.
The summary is left out.
-/

namespace PacketTracer

open Dicts PyText

open SecurityCompiler (setDefault l3Segment? endpointSegment? deduplicateIssues
  dependencyActionIds)

namespace Voice

/-- `VoiceCompiler`, with what it takes from Python: `digest` is the start of the hexadecimal
SHA-256 digest of a text, and sets are iterated in some order. -/
structure VoiceCompiler where
  digest : String → String
  semanticHash : VoicePlan → String
  casefold : String → String
  setOrder : IPPlanner.SetOrder

/-- The arguments of `compile`. -/
structure VoiceRequest where
  intent : VoiceIntent
  topology : Plans.TopologyPlan
  configuration : ConfigurationPlan
  servicePlan : Option ServicePlan := none
  capabilities : Dict String VoiceCapabilityProfile := .empty

/-- `VoiceCompileResult` without its summary. -/
structure VoiceCompileResult where
  plan : Option VoicePlan := none
  semanticHash : String := ""
  issues : List ConfigurationIssue := []
  deriving DecidableEq

/-- `is_valid`. -/
def VoiceCompileResult.isValid (result : VoiceCompileResult) : Bool :=
  result.plan.isSome && !result.issues.any (·.severity = .error)

/-- `_error`. -/
def voiceError (code : ConfigurationIssueCode) (message : String) (subject : String := "") :
    ConfigurationIssue :=
  { severity := .error, code := code, message := message, subject := subject }

/-- `_warning`. -/
def voiceWarning (code : ConfigurationIssueCode) (message : String) (subject : String := "") :
    ConfigurationIssue :=
  { severity := .warning, code := code, message := message, subject := subject }

/-! ## Checks on the sources -/

/-- The issues about the service plan that an intent depends on. -/
def validateServices (request : VoiceRequest) (plan : ServicePlan) : List ConfigurationIssue :=
  (if plan.sourceTopologyHash ≠ request.topology.physicalIdentityHash ∨
        plan.sourceConfigurationHash ≠ request.configuration.semanticHash then
      [voiceError .voiceSourceServiceMismatch
        "The E6 ServicePlan does not belong to the supplied E4/E5 foundations." plan.id]
    else []) ++
    (sortedBy id (request.intent.serviceDependencyIds.dedup.filter fun serviceId =>
      serviceId ∉ plan.services.map ServiceDefinition.id)).map fun serviceId =>
        voiceError .voiceServiceDependencyMissing
          s!"Voice dependency {quoted serviceId} is absent from E6." serviceId

/-- `_validate_sources`. -/
def validateSources (request : VoiceRequest) : List ConfigurationIssue :=
  let topologyHash := request.topology.physicalIdentityHash
  (if topologyHash = "" then
      [voiceError .sourceTopologyHashMissing
        "E7 requires the immutable semantic hash produced by E4." request.topology.id] else []) ++
    (if request.configuration.semanticHash = "" then
      [voiceError .sourceConfigurationHashMissing
        "E7 requires the immutable semantic hash produced by E5." request.configuration.id]
      else []) ++
    (if request.configuration.sourceTopologyHash ≠ topologyHash then
      [voiceError .sourceConfigurationTopologyMismatch
        "The E5 ConfigurationPlan belongs to a different E4 topology." request.configuration.id]
      else []) ++
    (if request.intent.serviceDependencyIds = [] then []
    else
      match request.servicePlan.filter (·.semanticHash ≠ "") with
      | none =>
        [voiceError .voiceSourceServiceMismatch
          "Explicit E7 service dependencies require an immutable E6 ServicePlan."
          request.intent.id]
      | some plan => validateServices request plan)

/-! ## What is read from the configuration plan -/

/-- A `ConfigureAccessPort` action with the VLANs of the port. -/
structure AccessPort where
  action : ConfigurationAction
  dataVlanId : ℤ
  voiceVlanId : Option ℤ
  deriving DecidableEq

/-- The VLAN on which a phone behind the port speaks. -/
def AccessPort.phoneVlanId (access : AccessPort) : ℤ :=
  access.voiceVlanId.getD access.dataVlanId

/-- `access_by_phone`: the access ports that name an endpoint, each as often as it does. -/
def accessPortsOf (configuration : ConfigurationPlan) (phoneId : String) : List AccessPort :=
  configuration.actions.flatMap fun action =>
    match action.detail with
    | .configureAccessPort _ dataVlanId voiceVlanId endpointIds =>
      (endpointIds.filter (· = phoneId)).map fun _ =>
        { action := action, dataVlanId := dataVlanId, voiceVlanId := voiceVlanId }
    | _ => []

/-- `addressing_by_phone`. -/
def addressingOf (configuration : ConfigurationPlan) (phoneId : String) :
    List ConfigurationAction :=
  configuration.actions.filter fun action =>
    (endpointSegment? action).isSome && action.deviceId = phoneId

/-- `l3_by_device_segment`. -/
def l3Of (configuration : ConfigurationPlan) (deviceId segmentId : String) :
    List ConfigurationAction :=
  configuration.actions.filter fun action =>
    l3Segment? action = some segmentId && action.deviceId = deviceId

/-- A `ConfigureDhcpPool` action with the fields of its class that the compiler reads. -/
structure DhcpPool where
  action : ConfigurationAction
  poolName : String
  network : String
  prefixLength : ℤ
  deriving DecidableEq

/-- `dhcp_by_segment`, each list sorted by identifier. -/
def dhcpPoolsOf (configuration : ConfigurationPlan) (segmentId : String) : List DhcpPool :=
  sortedBy (fun pool => pool.action.id) (configuration.actions.filterMap fun action =>
    match action.detail with
    | .configureDhcpPool poolName segment network prefixLength .. =>
      if segment = segmentId then
        some { action := action, poolName := poolName, network := network,
               prefixLength := prefixLength }
      else none
    | _ => none)

/-- `vlan_by_segment`: the last VLAN of a segment. -/
def vlanBySegment (configuration : ConfigurationPlan) : Dict String ℤ :=
  Dict.ofList (configuration.actions.filterMap fun action =>
    match action.detail with
    | .createVlan vlanId _ segmentId => some (segmentId, vlanId)
    | _ => none)

/-- `segment_by_vlan`: the first segment of a VLAN of a site. -/
def segmentByVlan (configuration : ConfigurationPlan) : Dict (String × ℤ) String :=
  configuration.actions.foldl (fun segments action =>
    match action.detail with
    | .createVlan vlanId _ segmentId => setDefault segments (action.siteId, vlanId) segmentId
    | _ => segments) .empty

/-- `ipv4` of an action that addresses a Layer 3 interface. -/
def l3Ipv4 (action : ConfigurationAction) : String :=
  match action.detail with
  | .configureRoutedInterface _ ipv4 .. => ipv4
  | .configureSvi _ ipv4 .. => ipv4
  | .configureSubinterface _ _ ipv4 .. => ipv4
  | _ => ""

/-- What an addressing action says about the interface, the network and the prefix; a static
address has no network and no prefix. -/
def addressingData (action : ConfigurationAction) : String × String × ℤ :=
  match action.detail with
  | .setEndpointStaticAddress interface .. => (interface, "", 0)
  | .setEndpointDhcp interface _ network prefixLength .. => (interface, network, prefixLength)
  | _ => ("", "", 0)

/-! ## Phones -/

/-- A phone whose voice network is known: its access port, its addressing action and its
segment. -/
structure UsablePhone where
  phone : Plans.DevicePlan
  access : AccessPort
  addressing : Option ConfigurationAction
  segmentId : String

/-- The identifier of the phone. -/
def UsablePhone.id (item : UsablePhone) : String := item.phone.semanticId

namespace VoiceCompiler

variable (compiler : VoiceCompiler)

/-- `_stable_id`. -/
def stableId (kind : String) (parts : List String) : String :=
  "voice/" ++ kind ++ "/" ++ compiler.digest (String.intercalate "|" (kind :: parts))

/-- `sorted(…, key=natural_identity_key)`. -/
def naturallySorted (identifiers : List String) : List String :=
  sortedBy (naturalIdentityKey compiler.casefold) identifiers

/-- `devices`. -/
def devicesOf (request : VoiceRequest) : Dict String Plans.DevicePlan :=
  Dict.ofList (request.topology.devices.map fun item => (item.semanticId, item))

/-- `all_phones`: the device of an identifier, when it is a phone. -/
def phoneOf? (request : VoiceRequest) (phoneId : String) : Option Plans.DevicePlan :=
  ((devicesOf request).get? phoneId).filter (·.enterpriseRole = "ip_phone")

/-- `requested_ids`. -/
def requestedIds (request : VoiceRequest) : List String :=
  compiler.naturallySorted (compiler.setOrder.iterate
    (if request.intent.phoneDeviceIds ≠ [] then request.intent.phoneDeviceIds.dedup
    else (devicesOf request).keys.filter fun deviceId => (phoneOf? request deviceId).isSome))

/-- The issues about requested phones that the topology does not have. -/
def missingPhoneIssues (request : VoiceRequest) : List ConfigurationIssue :=
  ((compiler.requestedIds request).filter fun phoneId => (phoneOf? request phoneId).isNone).map
    fun phoneId => voiceError .phoneEndpointMissing
      s!"Voice intent references phone {quoted phoneId}, absent from E4." phoneId

/-- `phones`. -/
def requestedPhones (request : VoiceRequest) : List Plans.DevicePlan :=
  (compiler.requestedIds request).filterMap (phoneOf? request)

/-- The addressing action of a phone: the first by identifier. -/
def selectedAddressing (request : VoiceRequest) (phoneId : String) : Option ConfigurationAction :=
  (sortedBy ConfigurationAction.id (addressingOf request.configuration phoneId)).head?

/-- `expected_vlan`: that of the addressed segment, or else the one the access port signals. -/
def expectedVlan (request : VoiceRequest) (access : List AccessPort) :
    Option ConfigurationAction → Option ℤ
  | some addressing =>
    (endpointSegment? addressing).bind (vlanBySegment request.configuration).get?
  | none => access.findSome? AccessPort.voiceVlanId

/-- Whether a port carries the expected VLAN to the phone; without one every port does. -/
def carriesVlan (expected : Option ℤ) (access : AccessPort) : Bool :=
  match expected with
  | none => true
  | some vlanId =>
    access.voiceVlanId = some vlanId || (access.voiceVlanId = none && access.dataVlanId = vlanId)

/-- One iteration of the loop over the phones: the phone with its voice network, or the issue
about it. -/
def readPhone (request : VoiceRequest) (phone : Plans.DevicePlan) :
    Except ConfigurationIssue UsablePhone :=
  let phoneId := phone.semanticId
  let access := sortedBy (fun item => item.action.id) (accessPortsOf request.configuration phoneId)
  let addressing := selectedAddressing request phoneId
  let expected := expectedVlan request access addressing
  match access.filter (carriesVlan expected) with
  | [] =>
    .error (voiceError .foundationalVoiceVlanMissing
      s!"Phone {phone.name} has no E5 switch-facing voice VLAN action." phoneId)
  | selected :: _ =>
    if addressing = none ∧ expected = none then
      .error (voiceError .phoneAddressingMissing
        (s!"Phone {phone.name} has neither an E5 addressing action nor " ++
          "a signalled voice VLAN, so its segment cannot be resolved.") phoneId)
    else
      let segmentId :=
        match addressing with
        | some action => (endpointSegment? action).getD ""
        | none =>
          ((segmentByVlan request.configuration).get? (phone.siteId, selected.phoneVlanId)).getD ""
      if segmentId = "" then
        .error (voiceError .phoneAddressingMissing
          (s!"Phone {phone.name} sits on VLAN {selected.phoneVlanId}, which maps " ++
            "to no E5 segment, so its voice network cannot be resolved.") phoneId)
      else
        .ok { phone := phone, access := selected, addressing := addressing, segmentId := segmentId }

/-- `usable`. -/
def usablePhones (request : VoiceRequest) : List UsablePhone :=
  (compiler.requestedPhones request).filterMap fun phone => (readPhone request phone).toOption

/-- The issues of the loop over the phones. -/
def phoneIssues (request : VoiceRequest) : List ConfigurationIssue :=
  (compiler.requestedPhones request).filterMap fun phone =>
    match readPhone request phone with
    | .error issue => some issue
    | .ok _ => none

/-- The foundations of a phone: its access port, and its address where E5 gave it one. -/
def phoneFoundations (item : UsablePhone) : List VoiceFoundationRequirement :=
  { id := compiler.stableId "foundation-vlan" [item.id, item.access.action.id]
    kind := .voiceVlan
    sourceId := item.access.action.id
    deviceId := item.access.action.deviceId
    siteId := item.phone.siteId } ::
  (item.addressing.map fun action =>
    { id := compiler.stableId "foundation-address" [item.id, action.id]
      kind := .phoneAddressing
      sourceId := action.id
      deviceId := item.id
      siteId := item.phone.siteId }).toList

/-- `phones_by_site`. -/
def phonesBySite (usable : List UsablePhone) : Dict String (List String) :=
  usable.foldl (fun phones item => appendTo phones item.phone.siteId item.id) .empty

/-- `ranges`. -/
def rangeOf (intent : VoiceIntent) (siteId : String) : ExtensionRange :=
  (intent.extensionRanges.get? siteId).getD intent.policy.defaultExtensionRange

/-! ## Call controls -/

/-- The host, the Layer 3 action that addresses it, and the sites of a call control. -/
structure CallControlData where
  host : Plans.DevicePlan
  source : ConfigurationAction
  siteIds : List String

/-- What the loop over the sites has found. -/
structure CallControls where
  forSite : Dict String String := .empty
  data : Dict String CallControlData := .empty
  foundations : List VoiceFoundationRequirement := []
  issues : List ConfigurationIssue := []

/-- `host_id`: the call-control device of the site, or else the central one. -/
def hostIdOf (intent : VoiceIntent) (siteId : String) : String :=
  match intent.callControlDeviceIds.get? siteId with
  | some hostId => if hostId ≠ "" then hostId else intent.centralCallControlDeviceId
  | none => intent.centralCallControlDeviceId

/-- `call_control_id`. -/
def callControlId (siteId hostId : String) : String := s!"call-control/{siteId}/{hostId}"

/-- The Layer 3 actions of a host on the voice segments of a site, by identifier. -/
def sourceCandidates (request : VoiceRequest) (usable : List UsablePhone)
    (siteId hostId : String) : List ConfigurationAction :=
  let segments := sortedBy id
    ((usable.filter (·.phone.siteId = siteId)).map UsablePhone.segmentId).dedup
  sortedBy ConfigurationAction.id (segments.flatMap (l3Of request.configuration hostId))

/-- `_capability_issues`. -/
def capabilityIssues (host : Plans.DevicePlan) (profile : Option VoiceCapabilityProfile) :
    List ConfigurationIssue :=
  [VoiceCapabilityDimension.callControlConfig, .phoneExtensionConfig].filterMap fun dimension =>
    let status := (profile.map (·.status dimension)).getD .unknown
    if status = .unsupported then
      some (voiceError .voiceCapabilityUnsupported
        s!"{host.model}:{dimension.value} is unsupported by evidence." host.semanticId)
    else if status ≠ .supported then
      some (voiceWarning .voiceCapabilityUnknown
        s!"{host.model}:{dimension.value} is {status.value}." host.semanticId)
    else none

/-- One iteration of the loop over the sites. -/
def addCallControl (request : VoiceRequest) (usable : List UsablePhone) (controls : CallControls)
    (siteId : String) : CallControls :=
  let hostId := hostIdOf request.intent siteId
  match (devicesOf request).get? hostId with
  | none =>
    { controls with issues := controls.issues ++ [voiceError .callControlHostMissing
        s!"Site {quoted siteId} has no explicit existing E4 call-control target." siteId] }
  | some host =>
    match sourceCandidates request usable siteId hostId with
    | [] =>
      { controls with issues := controls.issues ++ [voiceError .callControlAddressMissing
          s!"Call-control target {host.name} has no E5 address on the voice segment." hostId] }
    | source :: _ =>
      let controlId := callControlId siteId hostId
      let known := ((controls.data.get? controlId).map CallControlData.siteIds).getD []
      { forSite := controls.forSite.set siteId controlId
        data := controls.data.set controlId
          { host := host
            source := source
            siteIds := sortedBy id (known ++ [siteId]).dedup }
        foundations := controls.foundations ++
          [{ id := compiler.stableId "foundation-call-control" [controlId, source.id]
             kind := .callControlAddressing
             sourceId := source.id
             deviceId := hostId
             siteId := siteId }]
        issues := controls.issues ++
          capabilityIssues host (request.capabilities.get? host.model) }

/-- `call_control_for_site` and `call_control_data`. -/
def callControls (request : VoiceRequest) (usable : List UsablePhone) : CallControls :=
  (compiler.naturallySorted (phonesBySite usable).keys).foldl
    (compiler.addCallControl request usable) {}

/-- The foundations of the services that the intent names. -/
def serviceFoundations (request : VoiceRequest) : List VoiceFoundationRequirement :=
  match request.servicePlan with
  | none => []
  | some plan =>
    ((sortedBy id request.intent.serviceDependencyIds.dedup).filter fun serviceId =>
      plan.services.any (·.id = serviceId)).map fun serviceId =>
        { id := compiler.stableId "foundation-service" [serviceId]
          kind := .service
          sourceId := serviceId }

end VoiceCompiler

end Voice

end PacketTracer
