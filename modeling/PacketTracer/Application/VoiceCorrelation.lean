import PacketTracer.Domain.VoicePlan

/-!
# The correlation of the voice evidence

`_canonical_voice_access_groups`, `_voice_binding_sets` and `canonical_cp_scale_voice_evidence` of
`qualify_cp_scale_live.py`: the phones of a Voice plan are correlated across the convergence of
their access ports, forwarding, addresses, leases and registrations.
-/

namespace PacketTracer

namespace VoiceEvidence

open Dicts PyText PyValues Voice

/-! ## Convergence outcomes -/

/-- `ConvergenceOutcome`. -/
inductive ConvergenceOutcome
  | converged
  | networkMeasured
  | observerIncomplete
  | unknown
  deriving DecidableEq

/-- `NETWORK_MEASURED_STOP_REASONS`. -/
def networkMeasuredStopReasons : List String :=
  ["simulation_progress_exhausted", "continuation_unauthorized", "not_authorized"]

/-- `classify_extension_stop_reason`. -/
def classifyExtensionStopReason : Option String → ConvergenceOutcome
  | none => .observerIncomplete
  | some reason =>
    if reason = "converged" then .converged
    else if reason ∈ networkMeasuredStopReasons then .networkMeasured
    else .observerIncomplete

/-- `_group_convergence_outcome`. -/
def groupConvergenceOutcome (details : ConvergenceDetails) (sampleCount : ℤ) :
    ConvergenceOutcome :=
  let outcome := classifyExtensionStopReason details.learningExtensionStopReason
  if outcome = .observerIncomplete then outcome
  else
    match details.terminalSampleRound with
    | some terminalRound => if terminalRound ≠ sampleCount then .observerIncomplete else outcome
    | none => outcome

/-! ## The members of a group -/

/-- A voice access port with the expectation that verifies it. -/
structure VoiceMember where
  switch : String
  voiceVlanId : ℤ
  interface : String
  expectation : VerificationExpectation
  deriving DecidableEq

/-- `voice_actions`. -/
def voiceActions (plan : ConfigurationPlan) : Dict String ConfigurationAction :=
  .ofList ((plan.actions.filter ConfigurationAction.activatesVoiceVlan).map fun action =>
    (action.id, action))

/-- `expectation_by_action`. -/
def expectationByAction (plan : ConfigurationPlan) : Dict String VerificationExpectation :=
  .ofList ((plan.verificationExpectations.filter fun expectation =>
    (voiceActions plan).contains expectation.actionId).map fun expectation =>
      (expectation.actionId, expectation))

/-- The interface and the Voice VLAN of a voice access port. -/
def voiceAccess : ConfigurationActionDetail → Option (String × ℤ)
  | .configureAccessPort interface _ (some voiceVlanId) _ => some (interface, voiceVlanId)
  | _ => none

/-- The members of all groups, in the order of the voice actions. -/
def voiceMembers (plan : ConfigurationPlan) : List VoiceMember :=
  (voiceActions plan).values.filterMap fun action => do
    let (interface, voiceVlanId) ← voiceAccess action.detail
    let expectation ← (expectationByAction plan).get? action.id
    return { switch := action.deviceName, voiceVlanId := voiceVlanId, interface := interface
             expectation := expectation }

/-- `observed`. -/
def observedConvergence (result : ConfigurationApplicationResult) :
    Dict String VerificationResult :=
  .ofList ((result.voiceSignalBarrier.toList.flatMap
    VoiceSignalBarrierResult.postSignalConvergenceResults).map fun item =>
      (item.expectationId, item))

/-! ## Structured evidence -/

/-- The details of a group that a result carries. -/
def groupDetails (result : Option VerificationResult) : Option ConvergenceDetails := do
  let result ← result
  let convergence ← result.convergence
  if convergence.details.kind = some "voice_access_forwarding_group" then some convergence.details
  else none

/-- Equality of two details: the order of `non_fwd_interfaces` does not matter. -/
def sameDetails (a b : ConvergenceDetails) : Bool :=
  { a with nonFwdInterfaces := none } = { b with nonFwdInterfaces := none } &&
    a.nonFwdInterfaces.map (sortedBy Prod.fst ·.entries) =
      b.nonFwdInterfaces.map (sortedBy Prod.fst ·.entries)

/-- `detailed_verified`, `detailed_missing` and `detailed_non_fwd`. -/
structure DetailedClassification where
  verified : List String
  missing : List String
  nonFwd : Dict String String
  deriving DecidableEq

/-- What the details say of the interfaces. -/
def detailedClassification (details : ConvergenceDetails) : DetailedClassification where
  verified := sortedBy id (details.verifiedFwdInterfaces.getD [])
  missing := sortedBy id (details.missingInterfaces.getD [])
  nonFwd := .ofList (sortedBy Prod.fst (details.nonFwdInterfaces.getD .empty).entries)

/-- All interfaces of a classification. -/
def DetailedClassification.interfaces (detailed : DetailedClassification) : List String :=
  detailed.verified ++ detailed.missing ++ sortedBy id detailed.nonFwd.keys

/-- Whether the result of one member agrees with the details of its group. -/
def memberConsistent (details : ConvergenceDetails) (detailed : DetailedClassification)
    (member : VoiceMember) (result : Option VerificationResult) : Bool :=
  match result with
  | none => false
  | some item =>
    item.expectationId = member.expectation.id &&
    item.freshEvidence == decide (details.terminalAuthority = some "AUTHORITATIVE") &&
    decide (member.interface ∈ detailed.verified) ==
      decide (item.status = .verified ∧ item.fields.get? "voice_forwarding" = some .verified)

/-- `structured_consistent`. -/
def structuredConsistent (switch : String) (voiceVlanId : ℤ) (members : List VoiceMember)
    (results : List (Option VerificationResult)) (structured : List ConvergenceDetails)
    (details : ConvergenceDetails) : Bool :=
  let detailed := detailedClassification details
  let expectedInterfaces := sortedBy id (members.map VoiceMember.interface)
  structured.length = results.length &&
  structured.all (sameDetails · details) &&
  (members.zip results).all (fun item => memberConsistent details detailed item.1 item.2) &&
  details.switch = some switch &&
  details.voiceVlanId = some voiceVlanId &&
  sortedBy id (details.expectedInterfaces.getD []) = expectedInterfaces &&
  sortedBy id detailed.interfaces = expectedInterfaces &&
  detailed.interfaces.dedup.length = expectedInterfaces.length

/-! ## Groups -/

/-- `CPScaleVoiceAccessGroupEvidence`. -/
structure CPScaleVoiceAccessGroupEvidence where
  switch : String
  voiceVlanId : ℤ
  expectedInterfaces : List String := []
  verifiedFwdInterfaces : List String := []
  missingInterfaces : List String := []
  nonFwdInterfaces : Dict String String := .empty
  unresolvedInterfaces : Dict String String := .empty
  sampleCount : ℤ := 0
  elapsedMs : ℤ := 0
  terminalAuthority : String := "UNOBSERVABLE"
  terminalFailureDimension : String := "GROUP_EVIDENCE_MISSING"
  convergenceOutcome : ConvergenceOutcome := .unknown
  learningExtensionStopReason : String := ""
  status : ActionExecutionStatus := .unobservable
  deriving DecidableEq

/-- `text or default`. -/
def textOr (text : Option String) (default : String) : String :=
  match text with
  | none => default
  | some text => if text = "" then default else text

/-- `max(values, default=0)`. -/
def maxOrZero : List ℤ → ℤ
  | [] => 0
  | value :: values => values.foldl max value

/-- The group before its verdict, from details that are consistent. -/
def consistentGroup (switch : String) (voiceVlanId : ℤ) (expectedInterfaces : List String)
    (details : ConvergenceDetails) : CPScaleVoiceAccessGroupEvidence :=
  let detailed := detailedClassification details
  let sampleCount := details.sampleCount.getD 0
  { switch := switch
    voiceVlanId := voiceVlanId
    expectedInterfaces := expectedInterfaces
    verifiedFwdInterfaces := detailed.verified
    missingInterfaces := detailed.missing
    nonFwdInterfaces := detailed.nonFwd
    sampleCount := sampleCount
    elapsedMs := details.elapsedMs.getD 0
    terminalAuthority := textOr details.terminalAuthority "UNOBSERVABLE"
    terminalFailureDimension := textOr details.terminalFailureDimension "GROUP_EVIDENCE_MISSING"
    convergenceOutcome := groupConvergenceOutcome details sampleCount
    learningExtensionStopReason := details.learningExtensionStopReason.getD "" }

/-- The group before its verdict, without consistent details: every interface is missing. -/
def inconsistentGroup (switch : String) (voiceVlanId : ℤ) (expectedInterfaces : List String)
    (results : List (Option VerificationResult)) : CPScaleVoiceAccessGroupEvidence :=
  let reports := results.filterMap fun result => result.bind VerificationResult.convergence
  { switch := switch
    voiceVlanId := voiceVlanId
    expectedInterfaces := expectedInterfaces
    missingInterfaces := expectedInterfaces
    sampleCount := maxOrZero (reports.map ConvergenceReport.attempts)
    elapsedMs := maxOrZero (reports.map ConvergenceReport.elapsedMs) }

/-- The last reading of an authority that never finished is kept out of the verdict. -/
def gateNegative (group : CPScaleVoiceAccessGroupEvidence) : CPScaleVoiceAccessGroupEvidence :=
  if group.convergenceOutcome = .observerIncomplete ∧ group.nonFwdInterfaces.entries ≠ [] then
    { group with
      unresolvedInterfaces := group.nonFwdInterfaces
      nonFwdInterfaces := .empty
      terminalFailureDimension := "CONVERGENCE_UNOBSERVABLE" }
  else group

/-- `status`. -/
def groupStatus (group : CPScaleVoiceAccessGroupEvidence) : ActionExecutionStatus :=
  if group.terminalAuthority = "AUTHORITATIVE" ∧
      group.verifiedFwdInterfaces = group.expectedInterfaces ∧ group.missingInterfaces = [] ∧
      group.nonFwdInterfaces.entries = [] ∧ group.terminalFailureDimension = "NONE" then .verified
  else if group.nonFwdInterfaces.entries ≠ [] then .failed
  else .unobservable

/-- The evidence of one group. -/
def groupEvidence (observed : Dict String VerificationResult) (switch : String) (voiceVlanId : ℤ)
    (members : List VoiceMember) : CPScaleVoiceAccessGroupEvidence :=
  let expectedInterfaces := sortedBy id (members.map VoiceMember.interface)
  let results := members.map fun member => observed.get? member.expectation.id
  let structured := results.filterMap groupDetails
  let details := structured.headD {}
  let group := gateNegative <|
    if structuredConsistent switch voiceVlanId members results structured details then
      consistentGroup switch voiceVlanId expectedInterfaces details
    else inconsistentGroup switch voiceVlanId expectedInterfaces results
  { group with status := groupStatus group }

/-- `_canonical_voice_access_groups`. -/
def canonicalVoiceAccessGroups (plan : ConfigurationPlan)
    (result : ConfigurationApplicationResult) : List CPScaleVoiceAccessGroupEvidence :=
  let members := voiceMembers plan
  let observed := observedConvergence result
  let keys := sortedBy (fun key => toLex (key.1, key.2))
    (members.map fun member => (member.switch, member.voiceVlanId)).dedup
  keys.map fun key => groupEvidence observed key.1 key.2
    (members.filter fun member => (member.switch, member.voiceVlanId) = key)

/-! ## Binding sets -/

/-- A voice pool: its segment, the set of its bindings, and the number of bindings that its server
counted, when its table was readable. -/
structure VoicePool where
  segmentId : String
  addresses : List String
  count : Option ℤ
  deriving DecidableEq

/-- The voice pool of an entry of `pools`. -/
def voicePool (tableReadable : Bool) (pool : PyValue) : Option VoicePool :=
  if pool.isDict && ((pool.get? "voice").map PyValue.isTrue).getD false then
    some
      { segmentId :=
          match pool.get? "segment_id" with
          | some segment => if segment.truthy then segment.text else ""
          | none => ""
        addresses := (((pool.get? "bindings").map PyValue.items).getD []).map PyValue.text |>.dedup
        count := if tableReadable then (pool.get? "binding_count").bind PyValue.int? else none }
  else none

/-- The voice pools of one device. -/
def deviceVoicePools (device : PyValue) : List VoicePool :=
  let tableReadable := ((device.get? "table_readable").map PyValue.isTrue).getD false
  (((device.get? "pools").map PyValue.items).getD []).filterMap (voicePool tableReadable)

/-- The rows of `candidates` for one segment. -/
def segmentPools (dhcpServerBindings : List PyValue) (segment : String) : List VoicePool :=
  (dhcpServerBindings.flatMap deviceVoicePools).filter (·.segmentId = segment)

/-- The bindings of one segment, and their number where the evidence is complete. -/
def segmentBindings : List VoicePool → List String × Option ℤ
  | [pool] => (pool.addresses, if pool.count = some pool.addresses.length then pool.count else none)
  | _ => ([], none)

/-- What `_voice_binding_sets` returns. -/
structure VoiceBindingSets where
  sets : Dict String (List String)
  complete : Bool
  total : ℤ
  deriving DecidableEq

/-- `expected_segments`, in the order of the loop. -/
def expectedSegments (voicePlan : Voice.VoicePlan) : List String :=
  sortedBy id (voicePlan.phoneAssignments.map Voice.PhoneAssignment.voiceSegmentId).dedup

/-- `_voice_binding_sets`. -/
def voiceBindingSets (voicePlan : Voice.VoicePlan) (dhcpServerBindings : List PyValue) :
    VoiceBindingSets :=
  let rows := (expectedSegments voicePlan).map fun segment =>
    (segment, segmentBindings (segmentPools dhcpServerBindings segment))
  { sets := .ofList (rows.map fun row => (row.1, row.2.1))
    complete := rows.all fun row => row.2.2.isSome
    total := (rows.map fun row => row.2.2.getD 0).sum }

/-! ## Identities -/

/-- The errors of identifiers that should be planned once and observed once; `subject` is the label
of an identifier that was observed more than once. -/
def identityErrors (subject : String) (expected observed : List String) : List String :=
  (sortedBy id (expected ++ observed).dedup).filterMap fun identifier =>
    let expectedCount := expected.count identifier
    let observedCount := observed.count identifier
    if expectedCount = 0 then some ("unexpected:" ++ identifier)
    else if observedCount = 0 then some ("missing:" ++ identifier)
    else if expectedCount ≠ 1 then
      some ("duplicate-plan:" ++ identifier ++ ":" ++ toString expectedCount)
    else if observedCount ≠ 1 then
      some (subject ++ ":" ++ identifier ++ ":" ++ toString observedCount)
    else none

/-- `call_identity_errors`. -/
def callIdentityErrors (voicePlan : Voice.VoicePlan) (voiceResult : VoiceApplicationResult) :
    List String :=
  identityErrors "duplicate" (voicePlan.callExpectations.map Voice.CallExpectation.id)
    (voiceResult.calls.map CallVerificationResult.callExpectationId)

/-- `registration_identity_errors`. -/
def registrationIdentityErrors (voicePlan : Voice.VoicePlan) (voiceResult : VoiceApplicationResult) :
    List String :=
  identityErrors "duplicate-observation"
    (voicePlan.phoneAssignments.map Voice.PhoneAssignment.phoneId)
    (voiceResult.registrations.map PhoneRegistrationResult.phoneId)

/-- `registrations`. -/
def registrationsByPhone (voiceResult : VoiceApplicationResult) :
    Dict String PhoneRegistrationResult :=
  .ofList (voiceResult.registrations.map fun item => (item.phoneId, item))

/-- `duplicated_registrations`. -/
def duplicatedRegistrations (voiceResult : VoiceApplicationResult) : List String :=
  let phoneIds := voiceResult.registrations.map PhoneRegistrationResult.phoneId
  phoneIds.filter fun phoneId => 1 < phoneIds.count phoneId

/-! ## The barrier before the registrations -/

/-- `registration_after_fwd`. -/
def registrationAfterFwd (eventNames : List String) : Option Bool :=
  (eventNames.idxOf? "REGISTRATION_STARTED").map fun registrationEvent =>
    match eventNames.idxOf? "VOICE_SIGNAL_VERIFIED",
        eventNames.idxOf? "PHONE_ACCESS_FWD_VERIFIED" with
    | some signalEvent, some fwdEvent => signalEvent < fwdEvent && fwdEvent < registrationEvent
    | _, _ => false

/-- What all phones share: the groups, the binding sets, and the statuses before the phones. -/
structure SharedEvidence where
  accessActions : Dict String ConfigurationAction
  groups : List CPScaleVoiceAccessGroupEvidence
  bindings : VoiceBindingSets
  registrations : Dict String PhoneRegistrationResult
  duplicated : List String
  earlyBoundary : String

/-- The interface and the Voice VLAN of an access port. -/
def accessPort : ConfigurationActionDetail → Option (String × Option ℤ)
  | .configureAccessPort interface _ voiceVlanId _ => some (interface, voiceVlanId)
  | _ => none

/-- `access_actions`. -/
def accessActions (plan : ConfigurationPlan) : Dict String ConfigurationAction :=
  .ofList ((plan.actions.filter fun action => (accessPort action.detail).isSome).map fun action =>
    (action.id, action))

/-- `port_key`: the switch, the Voice VLAN and the port of a phone. -/
def portKey (accessActions : Dict String ConfigurationAction) (assignment : Voice.PhoneAssignment) :
    String × ℤ × String :=
  match accessActions.get? assignment.accessConfigurationActionId with
  | none => ("", assignment.voiceVlanId, "")
  | some action =>
    match accessPort action.detail with
    | none => (action.deviceName, assignment.voiceVlanId, "")
    | some (interface, voiceVlanId) =>
      (action.deviceName, voiceVlanId.getD assignment.voiceVlanId, interface)

/-- The ports of some interfaces of every group. -/
def groupPorts (groups : List CPScaleVoiceAccessGroupEvidence)
    (interfaces : CPScaleVoiceAccessGroupEvidence → List String) : List (String × ℤ × String) :=
  groups.flatMap fun group => (interfaces group).map fun interface =>
    (group.switch, group.voiceVlanId, interface)

/-- `verified_ports`. -/
def verifiedPorts (groups : List CPScaleVoiceAccessGroupEvidence) : List (String × ℤ × String) :=
  groupPorts groups CPScaleVoiceAccessGroupEvidence.verifiedFwdInterfaces

/-- `failed_ports`. -/
def failedPorts (groups : List CPScaleVoiceAccessGroupEvidence) : List (String × ℤ × String) :=
  groupPorts groups fun group => group.nonFwdInterfaces.keys

/-- `unobservable_ports`. -/
def unobservablePorts (groups : List CPScaleVoiceAccessGroupEvidence) :
    List (String × ℤ × String) :=
  groupPorts groups CPScaleVoiceAccessGroupEvidence.missingInterfaces

/-! ## One phone -/

/-- `CPScaleFailedPhoneIdentity`. -/
structure CPScaleFailedPhoneIdentity where
  phoneId : String
  phoneName : String
  stage : String
  siteId : String
  switch : String
  port : String
  voiceVlanId : ℤ
  ipv4 : String
  bindingState : String
  sccpState : String
  firstContradictedBoundary : String
  deriving DecidableEq

/-- What one round of the loop finds of a phone. -/
structure PhoneFinding where
  sviPresent : Bool
  dhcpEnabled : Bool
  endpointVerified : Bool
  bindingState : String
  sccpState : String
  boundary : String
  deriving DecidableEq

/-- `endpoint_verified`. -/
def endpointVerified (registration : PhoneRegistrationResult) : Bool :=
  registration.endpointInterfacePresent && registration.endpointAddressChannel &&
    registration.endpointDhcpEnabled = some true && registration.endpointIpv4 ≠ ""

/-- `binding_state`. -/
def bindingState (bindings : VoiceBindingSets) (segment endpointIpv4 : String) : String :=
  if !bindings.complete then "UNOBSERVABLE"
  else if endpointIpv4 = "" then "NOT_CHECKED"
  else if endpointIpv4 ∈ (bindings.sets.get? segment).getD [] then "MATCHED"
  else "MISSING"

/-- `sccp_state`. -/
def sccpState (registration : Option PhoneRegistrationResult) : String :=
  match registration.map PhoneRegistrationResult.status with
  | some .verified => "REGISTERED"
  | some .failed => "NOT_REGISTERED"
  | _ => "UNOBSERVABLE"

/-- The boundary of a phone that no early boundary contradicts. -/
def phoneBoundary (shared : SharedEvidence) (assignment : Voice.PhoneAssignment)
    (endpointVerified : Bool) (bindingState sccpState : String) : String :=
  let port := portKey shared.accessActions assignment
  if port ∈ failedPorts shared.groups ∨ port ∈ unobservablePorts shared.groups then
    "PHONE_ACCESS_FORWARDING"
  else if port ∉ verifiedPorts shared.groups then "PHONE_ACCESS_FORWARDING"
  else if (shared.registrations.get? assignment.phoneId).isNone ∨
      assignment.phoneId ∈ shared.duplicated ∨ endpointVerified = false then "ENDPOINT_ADDRESS"
  else if bindingState ≠ "MATCHED" then "DHCP_BINDING"
  else if sccpState ≠ "REGISTERED" then "SCCP"
  else ""

/-- One round of the loop over the assignments. -/
def phoneFinding (shared : SharedEvidence) (assignment : Voice.PhoneAssignment) : PhoneFinding :=
  let registration := shared.registrations.get? assignment.phoneId
  let verified := (registration.map endpointVerified).getD false
  let binding := bindingState shared.bindings assignment.voiceSegmentId
    ((registration.map PhoneRegistrationResult.endpointIpv4).getD "")
  let sccp := sccpState registration
  { sviPresent := (registration.map PhoneRegistrationResult.endpointInterfacePresent).getD false
    dhcpEnabled := (registration.bind PhoneRegistrationResult.endpointDhcpEnabled).getD false
    endpointVerified := verified
    bindingState := binding
    sccpState := sccp
    boundary :=
      if shared.earlyBoundary ≠ "" then shared.earlyBoundary
      else phoneBoundary shared assignment verified binding sccp }

/-- The failed phone of a round, if there is one. -/
def failedPhone (shared : SharedEvidence) (stage : String) (assignment : Voice.PhoneAssignment) :
    Option CPScaleFailedPhoneIdentity :=
  let finding := phoneFinding shared assignment
  let (switch, voiceVlanId, port) := portKey shared.accessActions assignment
  if finding.boundary = "" then none
  else some
    { phoneId := assignment.phoneId
      phoneName := assignment.physicalDeviceName
      stage := stage
      siteId := assignment.siteId
      switch := switch
      port := port
      voiceVlanId := voiceVlanId
      ipv4 := ((shared.registrations.get? assignment.phoneId).map
        PhoneRegistrationResult.endpointIpv4).getD ""
      bindingState := finding.bindingState
      sccpState := finding.sccpState
      firstContradictedBoundary := finding.boundary }

/-! ## The evidence -/

/-- `CPScaleCanonicalVoiceEvidence`. -/
structure CPScaleCanonicalVoiceEvidence where
  stage : String
  expectedPhoneCount : ℤ
  networkFoundationStatus : ActionExecutionStatus
  voiceBootstrapStatus : ActionExecutionStatus
  voiceSignalStatus : ActionExecutionStatus
  phoneAccessGroupCount : ℤ
  phoneAccessFwdExpected : ℤ
  phoneAccessFwdVerified : ℤ
  phoneAccessFwdFailed : ℤ
  phoneAccessFwdUnobservable : ℤ
  phoneAccessFwdGroups : List CPScaleVoiceAccessGroupEvidence
  phoneAccessFwdMaxDurationMs : ℤ
  lifecycleEvents : List String
  registrationStartedAfterFwdBarrier : Option Bool
  voiceSviPresentCount : ℤ
  dhcpEnabledCount : ℤ
  addressedCount : ℤ
  registrationIdentityErrors : List String
  bindingEvidenceComplete : Bool
  voiceDhcpBindingCount : ℤ
  matchingBindingCount : ℤ
  sccpRegisteredCount : ℤ
  sccpFailedCount : ℤ
  sccpUnobservableCount : ℤ
  expectedCallCount : ℤ
  callVerifiedCount : ℤ
  callFailedCount : ℤ
  callUnobservableCount : ℤ
  callIdentityErrors : List String
  failedPhoneIdentities : List CPScaleFailedPhoneIdentity
  firstContradictedBoundary : String
  complete : Bool
  deriving DecidableEq

/-- The inputs of `canonical_cp_scale_voice_evidence`. -/
structure VoiceEvidenceRequest where
  stage : String
  configurationPlan : ConfigurationPlan
  configurationResult : ConfigurationApplicationResult
  voicePlan : Voice.VoicePlan
  voiceResult : VoiceApplicationResult
  dhcpServerBindings : List PyValue
  lifecycleEvents : List String

namespace VoiceEvidenceRequest

/-- The number of planned phones. -/
def expected (request : VoiceEvidenceRequest) : ℤ := request.voicePlan.phoneAssignments.length

/-- The groups of the configuration. -/
def groups (request : VoiceEvidenceRequest) : List CPScaleVoiceAccessGroupEvidence :=
  canonicalVoiceAccessGroups request.configurationPlan request.configurationResult

/-- `fwd_verified`. -/
def fwdVerified (request : VoiceEvidenceRequest) : ℤ :=
  (request.groups.map fun group => (group.verifiedFwdInterfaces.length : ℤ)).sum

/-- `fwd_failed`. -/
def fwdFailed (request : VoiceEvidenceRequest) : ℤ :=
  (request.groups.map fun group => (group.nonFwdInterfaces.size : ℤ)).sum

/-- `network_status`. -/
def networkStatus (request : VoiceEvidenceRequest) : ActionExecutionStatus :=
  (request.configurationResult.voiceSignalBarrier.map
    VoiceSignalBarrierResult.foundationStatus).getD .unknown

/-- `signal_status`. -/
def signalStatus (request : VoiceEvidenceRequest) : ActionExecutionStatus :=
  (request.configurationResult.voiceSignalBarrier.map
    VoiceSignalBarrierResult.signalStatus).getD .unknown

/-- `early_boundary`. -/
def earlyBoundary (request : VoiceEvidenceRequest) : String :=
  if request.networkStatus ≠ .verified then "NETWORK_FOUNDATION"
  else if request.voiceResult.applicationStatus ≠ .applied then "VOICE_BOOTSTRAP"
  else if request.signalStatus ≠ .verified then "VOICE_SIGNAL"
  else if request.fwdVerified ≠ request.expected then "PHONE_ACCESS_FORWARDING"
  else if registrationAfterFwd request.lifecycleEvents ≠ some true then "REGISTRATION_ORDER"
  else ""

/-- What the rounds of the loop share. -/
def shared (request : VoiceEvidenceRequest) : SharedEvidence where
  accessActions := accessActions request.configurationPlan
  groups := request.groups
  bindings := voiceBindingSets request.voicePlan request.dhcpServerBindings
  registrations := registrationsByPhone request.voiceResult
  duplicated := duplicatedRegistrations request.voiceResult
  earlyBoundary := request.earlyBoundary

/-- What the loop finds, phone by phone. -/
def findings (request : VoiceEvidenceRequest) : List PhoneFinding :=
  request.voicePlan.phoneAssignments.map (phoneFinding request.shared)

/-- A counter of the loop. -/
def count (request : VoiceEvidenceRequest) (counted : PhoneFinding → Bool) : ℤ :=
  request.findings.countP counted

/-- The number of calls with a status. -/
def callCount (request : VoiceEvidenceRequest) (status : ActionExecutionStatus) : ℤ :=
  request.voiceResult.calls.countP fun call => call.status = status

/-- `first_boundary`. -/
def firstBoundary (request : VoiceEvidenceRequest) : String :=
  if request.earlyBoundary ≠ "" then request.earlyBoundary
  else if registrationIdentityErrors request.voicePlan request.voiceResult ≠ [] then
    "ENDPOINT_ADDRESS"
  else if request.count PhoneFinding.endpointVerified ≠ request.expected ∨
      request.count PhoneFinding.sviPresent ≠ request.expected ∨
      request.count PhoneFinding.dhcpEnabled ≠ request.expected then "ENDPOINT_ADDRESS"
  else if request.shared.bindings.complete = false ∨
      request.shared.bindings.total ≠ request.expected ∨
      request.count (·.bindingState = "MATCHED") ≠ request.expected then "DHCP_BINDING"
  else if request.count (·.sccpState = "REGISTERED") ≠ request.expected then "SCCP"
  else if callIdentityErrors request.voicePlan request.voiceResult ≠ [] ∨
      request.callCount .failed ≠ 0 then "CALL_BEHAVIOR"
  else "NONE"

/-- `failed_phones`. -/
def failedPhones (request : VoiceEvidenceRequest) : List CPScaleFailedPhoneIdentity :=
  request.voicePlan.phoneAssignments.filterMap (failedPhone request.shared request.stage)

/-- `canonical_cp_scale_voice_evidence`. -/
def canonicalCpScaleVoiceEvidence (request : VoiceEvidenceRequest) :
    CPScaleCanonicalVoiceEvidence where
  stage := request.stage
  expectedPhoneCount := request.expected
  networkFoundationStatus := request.networkStatus
  voiceBootstrapStatus := request.voiceResult.applicationStatus
  voiceSignalStatus := request.signalStatus
  phoneAccessGroupCount := request.groups.length
  phoneAccessFwdExpected := request.expected
  phoneAccessFwdVerified := request.fwdVerified
  phoneAccessFwdFailed := request.fwdFailed
  phoneAccessFwdUnobservable := max 0 (request.expected - request.fwdVerified - request.fwdFailed)
  phoneAccessFwdGroups := request.groups
  phoneAccessFwdMaxDurationMs :=
    maxOrZero (request.groups.map CPScaleVoiceAccessGroupEvidence.elapsedMs)
  lifecycleEvents := request.lifecycleEvents
  registrationStartedAfterFwdBarrier := registrationAfterFwd request.lifecycleEvents
  voiceSviPresentCount := request.count PhoneFinding.sviPresent
  dhcpEnabledCount := request.count PhoneFinding.dhcpEnabled
  addressedCount := request.count PhoneFinding.endpointVerified
  registrationIdentityErrors := registrationIdentityErrors request.voicePlan request.voiceResult
  bindingEvidenceComplete := request.shared.bindings.complete
  voiceDhcpBindingCount := request.shared.bindings.total
  matchingBindingCount := request.count (·.bindingState = "MATCHED")
  sccpRegisteredCount := request.count (·.sccpState = "REGISTERED")
  sccpFailedCount := request.count (·.sccpState = "NOT_REGISTERED")
  sccpUnobservableCount := max 0 (request.expected -
    request.count (·.sccpState = "REGISTERED") - request.count (·.sccpState = "NOT_REGISTERED"))
  expectedCallCount := request.voicePlan.callExpectations.length
  callVerifiedCount := request.callCount .verified
  callFailedCount := request.callCount .failed
  callUnobservableCount := max 0 (request.voicePlan.callExpectations.length -
    request.callCount .verified - request.callCount .failed)
  callIdentityErrors := callIdentityErrors request.voicePlan request.voiceResult
  failedPhoneIdentities := request.failedPhones
  firstContradictedBoundary := request.firstBoundary
  complete := request.firstBoundary = "NONE" && request.failedPhones.isEmpty &&
    0 < request.expected

end VoiceEvidenceRequest

end VoiceEvidence
end PacketTracer
