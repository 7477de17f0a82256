import PacketTracer.Application.ApplyControlPlane
import PacketTracer.Domain.VoicePlan
import PacketTracer.Library.Ipaddress

/-!
# Applying a voice plan

`apply_voice.py`: preflight and bootstrap; the actions of the mutation scope are dispatched batch by
batch, the caller completes the deferred signalling, and what the runtime then observes about the
phones and the calls is judged against the expectations.  Evidence records are left out.
-/

namespace PacketTracer

open Dicts Interactions PyText Ipaddress

namespace Voice

/-! ## The runtime and its history -/

/-- One exchange of the applicator: with the runtime, or with the caller that completes the deferred
signalling. -/
inductive VoiceEvent
  | inventory (answer : Except String (List RuntimeConfigurationTarget))
  | applyActions (actions : List VoiceAction)
      (answer : Except String (List RuntimeActionMutation))
  | completeVoiceSignal (answer : Except String StatusMap)
  | observeRegistration (expectation : VoiceVerificationExpectation)
      (answer : Except String RuntimePhoneRegistration)
  | observeRegistrations (expectations : List VoiceVerificationExpectation)
      (answer : Except String (List RuntimePhoneRegistration))
  | bindCallPlan (answer : Except String Unit)
  | verifyCall (expectation : CallExpectation) (callAttemptId : String) (startedNs : ℤ)
      (answer : Except String RuntimeCallObservation)

/-- `VoiceRuntime`: the answers of a runtime after a given history.  The last two entry points are
looked up by name and may be missing. -/
structure VoiceRuntime where
  inventory : List VoiceEvent → Except String (List RuntimeConfigurationTarget)
  applyActions : List VoiceEvent → List VoiceAction → Except String (List RuntimeActionMutation)
  observeRegistration : List VoiceEvent → VoiceVerificationExpectation →
    Except String RuntimePhoneRegistration
  verifyCall : List VoiceEvent → CallExpectation → String → ℤ →
    Except String RuntimeCallObservation
  observeRegistrations : Option (List VoiceEvent → List VoiceVerificationExpectation →
    Except String (List RuntimePhoneRegistration)) := none
  bindCallPlan : Option (List VoiceEvent → VoicePlan → Except String Unit) := none

/-- A computation of the applicator. -/
abbrev ApplyingVoice (α : Type) : Type := Interaction VoiceEvent RaisedError α

/-- The keyword arguments of `apply`. -/
structure VoiceApplyRequest where
  actualSourceTopologyHash : String
  actualSourceConfigurationHash : String
  foundationalStatuses : StatusMap
  actualSourceServiceHash : String := ""
  capabilities : Dict String VoiceCapabilityProfile := .empty
  runtimeContext : ConfigurationRuntimeContext := {}
  deploymentManifest : Option DeploymentManifest := none
  mutationActionIds : Option (List String) := none
  retainedActionResults : List ActionApplicationResult := []
  completeVoiceSignal : Option (List VoiceEvent → Except String StatusMap) := none
  lifecycleObserver : Option (List VoiceEvent → String → Except String Unit) := none

/-- The deployment identifier that results carry. -/
def VoiceApplyRequest.deploymentId (request : VoiceApplyRequest) : String :=
  (request.deploymentManifest.map DeploymentManifest.deploymentId).getD ""

/-- `VoiceApplicator`.  Besides its runtime it takes what it has from the libraries as parameters:
the digest of an environment fingerprint, `str.casefold`, the identifier of a new call attempt and
the clock. -/
structure VoiceApplicator where
  runtime : VoiceRuntime
  semanticHash : EnvironmentFingerprint → String
  casefold : String → String
  callAttemptId : List VoiceEvent → String
  timeNs : List VoiceEvent → ℤ

namespace VoiceApplicator

/-! ## Checks on the plan -/

/-- `_ADMISSIBLE_FOUNDATION_STATUSES`: Packet Tracer cannot read a DHCP pool back. -/
def admissibleFoundationStatuses : VoiceFoundationKind → List ActionExecutionStatus
  | .voiceDhcpPool => [.verified, .unobservable]
  | _ => [.verified]

/-- Whether a foundation is established, or is the Voice VLAN whose signalling is still deferred. -/
def foundationAdmissible (statuses : StatusMap) (allowPendingVoiceSignal : Bool)
    (item : VoiceFoundationRequirement) : Bool :=
  (statuses.get? item.sourceId).any (· ∈ admissibleFoundationStatuses item.kind) ||
    (allowPendingVoiceSignal && item.kind = .voiceVlan &&
      statuses.get? item.sourceId = some .partial_)

/-- `_missing_foundations`. -/
def missingFoundations (plan : VoicePlan) (statuses : StatusMap)
    (allowPendingVoiceSignal : Bool) : List String :=
  sortedBy id ((plan.foundationalRequirements.filter fun item =>
    !foundationAdmissible statuses allowPendingVoiceSignal item).map
      VoiceFoundationRequirement.sourceId)

/-- The actions of the plan that are to be retained but depend on a mutated one. -/
def reverseDependencies (plan : VoicePlan) (mutationIds expectedRetained : List String) :
    List String :=
  sortedBy id ((plan.actions.filter fun item => item.id ∈ expectedRetained ∧
    (item.dependsOn ++ item.applyDependencies).any (· ∈ mutationIds)).map VoiceAction.id)

/-- `_mutation_scope`. -/
def mutationScope (plan : VoicePlan) (mutationActionIds : Option (List String))
    (retainedActionResults : List ActionApplicationResult) : MutationScope :=
  let planIds := (plan.actions.map VoiceAction.id).dedup
  match mutationActionIds with
  | none =>
    if retainedActionResults ≠ [] then
      { mutationIds := []
        retained := .empty
        errors := ["Retained action results require an explicit mutation action scope."] }
    else { mutationIds := planIds, retained := .empty, errors := [] }
  | some mutationActionIds =>
    let mutationIds := mutationActionIds.dedup
    let retainedById := Dict.ofList (retainedActionResults.map fun item => (item.actionId, item))
    let expectedRetained := planIds.filter (· ∉ mutationIds)
    { mutationIds := mutationIds
      retained := retainedById
      errors :=
        listingError "Mutation scope contains actions outside the typed Voice plan: "
          (sortedBy id (mutationIds.filter (· ∉ planIds))) ++
        (if retainedById.entries.length ≠ retainedActionResults.length then
          ["Retained Voice action results contain duplicate identities."] else []) ++
        listingError "Mutation scope lacks retained application results for: "
          (sortedBy id (expectedRetained.filter fun i => !retainedById.contains i)) ++
        listingError "Retained Voice application results are outside the retained scope: "
          (sortedBy id (retainedById.keys.filter (· ∉ expectedRetained))) ++
        listingError "Retained Voice actions were not previously applied: "
          (sortedBy id (expectedRetained.filterMap
            (ControlPlaneApplicator.invalidRetained retainedById))) ++
        listingError "Retained Voice actions depend on newly mutated actions: "
          (reverseDependencies plan mutationIds expectedRetained) }

variable (applicator : VoiceApplicator)

/-- The checks of `apply` on the topology and the deployment manifest. -/
def manifestPreflight (plan : VoicePlan) (request : VoiceApplyRequest) : Except Refusal Unit :=
  if request.actualSourceTopologyHash ≠ plan.sourceTopologyHash then
    .error ⟨.sourceTopologyMismatch, ["VoicePlan source hash does not match deployed E4."]⟩
  else
    match request.deploymentManifest with
    | some manifest =>
      if manifest.physicalTopologyHash ≠ plan.sourceTopologyHash then
        .error ⟨.targetIdentityMismatch,
          ["DeploymentManifest physical topology hash does not match VoicePlan."]⟩
      else
        match validateManifestEnvironment applicator.semanticHash manifest
            request.runtimeContext.environmentFingerprint with
        | .error message => .error ⟨.environmentFingerprintMismatch, [message]⟩
        | .ok () => .ok ()
    | none =>
      if requiresDeploymentManifest plan.sourceTopologyHashSchema then
        .error ⟨.deploymentManifestRequired,
          ["VoicePlan uses physical-topology-v2 identity and requires a " ++
            "DeploymentManifest; name-only runtime fallback is legacy-only."]⟩
      else .ok ()

/-- The checks of `apply` on the other sources. -/
def sourcePreflight (plan : VoicePlan) (request : VoiceApplyRequest) : Except Refusal Unit :=
  if request.actualSourceConfigurationHash ≠ plan.sourceConfigurationHash then
    .error ⟨.sourceConfigurationMismatch, ["VoicePlan source hash does not match applied E5."]⟩
  else if plan.sourceServiceHash ≠ "" ∧
      request.actualSourceServiceHash ≠ plan.sourceServiceHash then
    .error ⟨.sourceConfigurationMismatch, ["VoicePlan service hash does not match applied E6."]⟩
  else .ok ()

/-- The checks of `apply` on dependencies, the mutation scope and the foundations. -/
def planPreflight (plan : VoicePlan) (request : VoiceApplyRequest) :
    Except Refusal MutationScope :=
  match orderDependencyActions plan.actions with
  | .error error => .error ⟨.dependencyBlocked, [error.message]⟩
  | .ok ordered =>
    if ordered.map VoiceAction.id ≠ plan.actions.map VoiceAction.id then
      .error ⟨.dependencyBlocked, ["VoicePlan actions are not in deterministic dependency order."]⟩
    else
      let scope := mutationScope plan request.mutationActionIds request.retainedActionResults
      if scope.errors ≠ [] then
        .error ⟨.dependencyBlocked, [String.intercalate " " scope.errors]⟩
      else
        let missing := missingFoundations plan request.foundationalStatuses
          request.completeVoiceSignal.isSome
        if missing ≠ [] then
          .error ⟨.foundationalConfigurationMissing,
            ["Voice foundations are not VERIFIED: " ++ String.intercalate ", " missing]⟩
        else .ok scope

/-- The checks of `apply` before it asks the runtime for anything. -/
def staticPreflight (plan : VoicePlan) (request : VoiceApplyRequest) :
    Except Refusal MutationScope := do
  applicator.manifestPreflight plan request
  sourcePreflight plan request
  planPreflight plan request

/-! ## Targets -/

/-- The deployed devices: their names and the targets of the runtime, by semantic identifier. -/
structure VoiceTargets where
  deployedNames : Dict String String
  targets : Dict String RuntimeConfigurationTarget

/-- The devices that the plan names, with their planned names. -/
def plannedNames (plan : VoicePlan) : List (String × String) :=
  (plan.callControls.map fun item => (item.hostDeviceId, item.hostDeviceName)) ++
    plan.phoneAssignments.map fun item => (item.phoneId, item.physicalDeviceName)

/-- The targets of the plan: by the manifest, or by name. -/
def resolveTargets (plan : VoicePlan) (request : VoiceApplyRequest)
    (inventory : List RuntimeConfigurationTarget) : Except String VoiceTargets :=
  match request.deploymentManifest with
  | some manifest => do
    let targets ← resolveManifestTargets manifest plan.sourceTopologyHash
      ((plannedNames plan).map Prod.fst) inventory
    return {
      deployedNames :=
        Dict.ofList (targets.entries.map fun entry => (entry.1, entry.2.deviceName))
      targets := targets }
  | none =>
    let inventoryByName := Dict.ofList (inventory.map fun item => (item.deviceName, item))
    .ok {
      deployedNames := Dict.ofList (plannedNames plan)
      targets := Dict.ofList ((plannedNames plan).filterMap fun entry =>
        (inventoryByName.get? entry.2).map fun target => (entry.1, target)) }

/-- The error about one device. -/
def targetError (targets : Dict String RuntimeConfigurationTarget)
    (identifier name model : String) : Option String :=
  match targets.get? identifier with
  | none => some s!"Target {name} was not found."
  | some target =>
    if applicator.casefold target.model ≠ applicator.casefold model then
      some s!"Target {name} model {target.model} does not match {model}."
    else none

/-- The errors about the targets. -/
def targetErrors (plan : VoicePlan) (targets : Dict String RuntimeConfigurationTarget) :
    List String :=
  (plan.callControls.filterMap fun control =>
    applicator.targetError targets control.hostDeviceId control.hostDeviceName
      control.hostModel) ++
  plan.phoneAssignments.filterMap fun phone =>
    applicator.targetError targets phone.phoneId phone.physicalDeviceName phone.model

/-- The checks of `apply` on the inventory: the names of the deployed devices. -/
def inventoryPreflight (plan : VoicePlan) (request : VoiceApplyRequest)
    (answer : Except String (List RuntimeConfigurationTarget)) :
    Except Refusal (Dict String String) :=
  match answer with
  | .error message => .error ⟨.sessionFailed, [s!"Voice runtime inventory failed: {message}"]⟩
  | .ok inventory =>
    match resolveTargets plan request inventory with
    | .error message => .error ⟨.targetIdentityMismatch, [message]⟩
    | .ok resolved =>
      let errors := applicator.targetErrors plan resolved.targets
      if errors ≠ [] then
        .error ⟨.targetNotFound, [String.intercalate " " (sortedBy id errors)]⟩
      else .ok resolved.deployedNames

/-- What an accepted preflight has found. -/
structure PreparedVoice where
  scope : MutationScope
  deployedNames : Dict String String

/-- The preflight of `apply`. -/
def preflight (plan : VoicePlan) (request : VoiceApplyRequest) :
    ApplyingVoice (Except Refusal PreparedVoice) :=
  match applicator.staticPreflight plan request with
  | .error refusal => pure (.error refusal)
  | .ok scope => do
    let answer ← Interaction.exchange applicator.runtime.inventory VoiceEvent.inventory
    return (applicator.inventoryPreflight plan request answer).map fun deployedNames =>
      { scope := scope, deployedNames := deployedNames }

/-- `_failure`. -/
def failure (plan : VoicePlan) (request : VoiceApplyRequest) (refusal : Refusal) :
    Except RaisedError VoiceApplicationResult := do
  let journal ← (journalFromActionResults plan.id request.deploymentId plan.actions []).mapError
    RaisedError.journalError
  let journal := refusal.messages.foldl ApplicationExecutionJournal.markPreflightFailure journal
  return {
    voicePlanId := plan.id
    voiceSemanticHash := plan.semanticHash
    sourceTopologyHash := plan.sourceTopologyHash
    sourceConfigurationHash := plan.sourceConfigurationHash
    sourceServiceHash := plan.sourceServiceHash
    runtimeContext := request.runtimeContext
    status := .failed
    failureCode := refusal.code
    preflightErrors := refusal.messages
    deploymentId := request.deploymentId
    executionJournal := some journal
    dirtyState := journal.dirtyState }

/-- The support for a dimension on a model. -/
def capabilityStatus (profiles : Dict String VoiceCapabilityProfile) (model : String)
    (dimension : VoiceCapabilityDimension) : VoiceCapabilityStatus :=
  match profiles.get? model with
  | some profile => profile.status dimension
  | none => .unknown

/-! ## Addresses of phones -/

/-- `_in_network`: an address of the network that is none of its ends. -/
def inNetwork (address network : String) (voicePrefix : ℤ) : Bool :=
  match ipAddress address, ipNetwork s!"{network}/{voicePrefix}" with
  | some host, some (.v4 subnet) =>
    (IPNetwork.v4 subnet).contains host && host.toNat ≠ subnet.first && host.toNat ≠ subnet.last
  | some host, some (.v6 subnet) =>
    (IPNetwork.v6 subnet).contains host && host.toNat ≠ subnet.first && host.toNat ≠ subnet.last
  | _, _ => false

/-- What is said about a phone on which no address was seen. -/
def silentAddressing (observed : RuntimePhoneRegistration) : String :=
  if observed.endpointInterfacePresent = false then
    s!"{observed.endpointInterface} does not exist on this phone, so " ++
      "it never reached the point of acquiring an address."
  else if observed.endpointAddressChannel = false then
    s!"{observed.endpointInterface} exposes no address channel, so " ++
      "whether this phone acquired was never read on either channel."
  else if observed.endpointDhcpEnabled = some false then
    s!"{observed.endpointInterface} holds no address and has DHCP " ++
      "disabled, so this phone never solicited one."
  else
    "Neither the call control nor the phone reported an address, and " ++
      s!"{observed.endpointInterface} was readable and held none" ++
      (if observed.endpointDhcpEnabled = some true then " with DHCP enabled."
      else "; whether it was asked to acquire was not readable.")

/-- The claim about an assignment whose address the Voice plan owns. -/
def ownedAddressing (assignment : PhoneAssignment) (observed : RuntimePhoneRegistration) :
    ActionExecutionStatus × String :=
  let control := observed.callControlIpv4
  let endpoint := observed.endpointIpv4
  let seen := if control ≠ "" then control else endpoint
  if assignment.voiceNetwork = "" ∨ assignment.voicePrefix = 0 then
    (.unobservable, "The assignment carries no voice network to judge an address against.")
  else if control = "" ∧ endpoint = "" then (.unobservable, silentAddressing observed)
  else if control ≠ "" ∧ endpoint ≠ "" ∧ control ≠ endpoint then
    (.failed,
      s!"The call control reports {control} and {assignment.addressingInterface} " ++
        s!"reports {endpoint}; one phone cannot hold two addresses.")
  else if inNetwork seen assignment.voiceNetwork assignment.voicePrefix = false then
    (.failed,
      s!"{seen} is outside the voice segment " ++
        s!"{assignment.voiceNetwork}/{assignment.voicePrefix}.")
  else if control = "" ∨ endpoint = "" then
    (.partial_, s!"{seen} was observed on one channel only.")
  else (.verified, "")

/-- `_addressing_claim`: nothing is claimed about a phone that the configuration addressed. -/
def addressingClaim (assignment : Option PhoneAssignment) (observed : RuntimePhoneRegistration) :
    ActionExecutionStatus × String :=
  match assignment with
  | none => (.unknown, "")
  | some assignment =>
    if assignment.addressingConfigurationActionId ≠ "" then (.unknown, "")
    else ownedAddressing assignment observed

/-- `assignment_for_phone`. -/
def assignmentForPhone (plan : VoicePlan) (phoneId : String) : Option PhoneAssignment :=
  plan.phoneAssignments.find? (·.phoneId = phoneId)

/-! ## Registrations -/

/-- A registration that no observation supports. -/
def unobservedRegistration (expectation : VoiceVerificationExpectation)
    (status : ActionExecutionStatus) (failureCode : ConfigurationFailureCode) (message : String) :
    PhoneRegistrationResult :=
  { expectationId := expectation.id
    phoneId := expectation.phoneId
    extension := expectation.extension
    status := status
    failureCode := failureCode
    message := message }

/-- The judgement of one registration by the support for it; `none` is left to the runtime. -/
def supportedRegistration (expectation : VoiceVerificationExpectation) :
    VoiceCapabilityStatus → Option PhoneRegistrationResult
  | .supported => none
  | .unobservable => some
      { unobservedRegistration expectation .unobservable .phoneRegistrationUnobservable
          "Direct phone registration is unobservable." with
        directReadback := .unobservable
        evidenceMethod := "runtime_capability_matrix" }
  | .unsupported => some (unobservedRegistration expectation .skipped .capabilityUnsupported
      s!"Phone registration is {VoiceCapabilityStatus.unsupported.value}.")
  | support => some (unobservedRegistration expectation .skipped .capabilityUnknown
      s!"Phone registration is {support.value}.")

/-- What is known about a registration without asking the runtime. -/
def settledRegistration (plan : VoicePlan) (capabilities : Dict String VoiceCapabilityProfile)
    (actions : List ActionApplicationResult) (expectation : VoiceVerificationExpectation) :
    Except RaisedError (Option PhoneRegistrationResult) := do
  let action ← subscript (Dict.ofList (actions.map fun item => (item.actionId, item)))
    expectation.actionId
  if satisfiesApplyDependency action.status = false then
    return some (unobservedRegistration expectation .dependencyBlocked .dependencyBlocked
      s!"Binding action {action.actionId} is not applied.")
  else
    let control ← subscript (Dict.ofList (plan.callControls.map fun item => (item.id, item)))
      expectation.callControlId
    return supportedRegistration expectation
      (capabilityStatus capabilities control.hostModel .phoneRegistration)

/-- The judgement of an observed registration. -/
def observedRegistration (plan : VoicePlan) (expectation : VoiceVerificationExpectation)
    (observed : RuntimePhoneRegistration) : PhoneRegistrationResult :=
  let claim := addressingClaim (assignmentForPhone plan expectation.phoneId) observed
  { expectationId := observed.expectationId
    phoneId := observed.phoneId
    extension := observed.extension
    status := observed.status
    directReadback := observed.directReadback
    endpointIpv4 := observed.endpointIpv4
    endpointInterface := observed.endpointInterface
    endpointInterfacePresent := observed.endpointInterfacePresent
    endpointAddressChannel := observed.endpointAddressChannel
    endpointDhcpEnabled := observed.endpointDhcpEnabled
    evidenceMethod := observed.evidenceMethod
    freshEvidence := observed.freshEvidence
    message := observed.message
    callControlIpv4 := observed.callControlIpv4
    deviceIpv4 := observed.deviceIpv4
    deviceDhcpEnabled := observed.deviceDhcpEnabled
    failureCode := if observed.status = .verified then .none else .phoneRegistrationTimeout
    addressingStatus := claim.1
    addressingMessage := claim.2 }

/-- The judgements of the registrations that were left to the runtime. -/
def answeredRegistrations (plan : VoicePlan) (observable : List VoiceVerificationExpectation)
    (answer : Except String (List RuntimePhoneRegistration)) : List PhoneRegistrationResult :=
  match answer with
  | .ok observations =>
    (observable.zip observations).map fun pair => observedRegistration plan pair.1 pair.2
  | .error message =>
    observable.map fun expectation =>
      unobservedRegistration expectation .failed .sessionFailed message

/-- The answered registrations take the places that were left open. -/
def fillRegistrations :
    List (Option PhoneRegistrationResult) → List PhoneRegistrationResult →
      List PhoneRegistrationResult
  | [], _ => []
  | some result :: settled, answered => result :: fillRegistrations settled answered
  | none :: settled, result :: answered => result :: fillRegistrations settled answered
  | none :: settled, [] => fillRegistrations settled []

/-- The observations of a runtime without a batch entry point, one after the other; the first
exception ends them. -/
def observeEach : List VoiceVerificationExpectation →
    ApplyingVoice (Except String (List RuntimePhoneRegistration))
  | [] => pure (.ok [])
  | expectation :: expectations => do
    let answer ← Interaction.exchange
      (fun trace => applicator.runtime.observeRegistration trace expectation)
      (VoiceEvent.observeRegistration expectation)
    match answer with
    | .error message => return .error message
    | .ok observed =>
      let rest ← observeEach expectations
      return rest.map (observed :: ·)

/-- `_observe_registrations`. -/
def observeRegistrations (expectations : List VoiceVerificationExpectation) :
    ApplyingVoice (Except String (List RuntimePhoneRegistration)) :=
  match applicator.runtime.observeRegistrations with
  | none => applicator.observeEach expectations
  | some batch => do
    let answer ← Interaction.exchange (fun trace => batch trace expectations)
      (VoiceEvent.observeRegistrations expectations)
    match answer with
    | .error message => return .error message
    | .ok observed =>
      if observed.length ≠ expectations.length then
        return .error (s!"The voice runtime returned {observed.length} observation(s) for " ++
          s!"{expectations.length} registration expectation(s).")
      else return .ok observed

/-- The expectations about registrations. -/
def registrationExpectations (plan : VoicePlan) : List VoiceVerificationExpectation :=
  plan.verificationExpectations.filter (·.kind = .phoneRegistration)

/-- `_registrations`. -/
def registrations (plan : VoicePlan) (capabilities : Dict String VoiceCapabilityProfile)
    (actions : List ActionApplicationResult) : ApplyingVoice (List PhoneRegistrationResult) := do
  let expectations := registrationExpectations plan
  let settled ← Interaction.ofExcept
    (expectations.mapM (settledRegistration plan capabilities actions))
  let observable := (expectations.zip settled).filterMap fun pair =>
    if pair.2.isNone then some pair.1 else none
  if observable = [] then return fillRegistrations settled []
  else
    let answer ← applicator.observeRegistrations observable
    return fillRegistrations settled (answeredRegistrations plan observable answer)

/-! ## Calls -/

/-- `call_observation_matches_expected_result`. -/
def callObservationMatchesExpectedResult (expectedResult : CallExpectationResult)
    (observation : RuntimeCallObservation) : Bool :=
  match expectedResult with
  | .established => observation.connected && .connected ∈ observation.states
  | .notConnected => !observation.connected && .connected ∉ observation.states

/-- A call that was not observed. -/
def unobservedCall (expectation : CallExpectation) (callAttemptId : String)
    (status : ActionExecutionStatus) (failureCode : ConfigurationFailureCode) (message : String) :
    CallVerificationResult :=
  { callExpectationId := expectation.id
    callAttemptId := callAttemptId
    sourcePhoneId := expectation.sourcePhoneId
    dialedExtension := expectation.dialedExtension
    expectedResult := expectation.expectedResult
    expectedTargetPhoneId := expectation.expectedTargetPhoneId
    status := status
    failureCode := failureCode
    message := message }

/-- The expectations that a call waits for. -/
def callPrerequisites (expectation : CallExpectation) : List String :=
  let references := (expectation.verificationPrerequisites.filter fun item =>
    item.kind = .phoneRegistered || item.kind = .verificationVerified).map
      VerificationPrerequisite.referenceId
  if references ≠ [] then references else expectation.dependsOn

/-- Whether a registration that a call waits for rules the call out. -/
def blocksCall (statuses : List ActionExecutionStatus) :
    Option PhoneRegistrationResult → Bool
  | none => true
  | some registration => registration.status ∈ statuses

/-- Whether a call must not be placed. -/
def hardBlock (registrations : List PhoneRegistrationResult) (expectation : CallExpectation) :
    Bool :=
  let byPhone := Dict.ofList (registrations.map fun item => (item.phoneId, item))
  let byExpectation := Dict.ofList (registrations.map fun item => (item.expectationId, item))
  ((callPrerequisites expectation).any fun identifier =>
    blocksCall [.failed, .dependencyBlocked, .skipped] (byExpectation.get? identifier)) ||
  blocksCall [.failed, .dependencyBlocked] (byPhone.get? expectation.sourcePhoneId) ||
  (expectation.expectedTargetPhoneId ≠ "" &&
    blocksCall [.failed, .dependencyBlocked] (byPhone.get? expectation.expectedTargetPhoneId))

/-- What decides whether the runtime can place and observe a call. -/
structure CallSupport where
  initiation : VoiceCapabilityStatus
  readback : VoiceCapabilityStatus
  qualifiedPhoneModels : List String
  modelsCovered : Bool

/-- The support for a call by the host of its source phone. -/
def callSupport (plan : VoicePlan) (capabilities : Dict String VoiceCapabilityProfile)
    (expectation : CallExpectation) : Except RaisedError CallSupport := do
  let assignments := Dict.ofList (plan.phoneAssignments.map fun item => (item.phoneId, item))
  let assignment ← subscript assignments expectation.sourcePhoneId
  let control ← subscript (Dict.ofList (plan.callControls.map fun item => (item.id, item)))
    assignment.callControlId
  let qualified := (((capabilities.get? control.hostModel).map
    VoiceCapabilityProfile.callObservabilityPhoneModels).getD []).dedup
  let targetModel ←
    if expectation.expectedTargetPhoneId ≠ "" then
      (subscript assignments expectation.expectedTargetPhoneId).map PhoneAssignment.model
    else .ok ""
  return {
    initiation := capabilityStatus capabilities control.hostModel .callInitiation
    readback := capabilityStatus capabilities control.hostModel .callStateReadback
    qualifiedPhoneModels := qualified
    modelsCovered := assignment.model ∈ qualified ∧ (targetModel = "" ∨ targetModel ∈ qualified) }

/-- Whether a call can be placed and observed. -/
def CallSupport.sufficient (support : CallSupport) : Bool :=
  support.initiation = .supported &&
    (support.readback = .supported || support.readback = .unobservable) && support.modelsCovered

/-- `str` of a list of texts. -/
def listText (items : List String) : String :=
  "[" ++ String.intercalate ", " (items.map quoted) ++ "]"

/-- A call that cannot be placed or observed. -/
def unsupportedCall (expectation : CallExpectation) (support : CallSupport) :
    CallVerificationResult :=
  unobservedCall expectation "" .skipped .capabilityUnknown
    (s!"Call initiation/readback is {support.initiation.value}/{support.readback.value}; " ++
      s!"qualified phone models are {listText (sortedBy id support.qualifiedPhoneModels)}.")

/-- Whether an observation is of the very call that was placed. -/
def freshCall (expectation : CallExpectation) (attemptId : String) (startedNs : ℤ)
    (observed : RuntimeCallObservation) : Bool :=
  observed.freshEvidence && observed.callAttemptId = attemptId &&
    startedNs ≤ observed.observedAfterNs && observed.callExpectationId = expectation.id &&
    observed.sourcePhoneId = expectation.sourcePhoneId &&
    observed.destinationPhoneId = expectation.expectedTargetPhoneId &&
    observed.dialedExtension = expectation.dialedExtension

/-- The judgement of an observed call. -/
def callVerdict (expectation : CallExpectation) (fresh : Bool)
    (observed : RuntimeCallObservation) : ActionExecutionStatus × ConfigurationFailureCode :=
  if observed.status = .unobservable then (.unobservable, .observabilityLimitation)
  else if fresh = false ∨
      callObservationMatchesExpectedResult expectation.expectedResult observed = false then
    (.failed, .callSetupFailed)
  else if observed.teardownVerified = false then (.partial_, .callTeardownFailed)
  else (.verified, .none)

/-- The result of a call that was placed. -/
def placedCall (expectation : CallExpectation) (attemptId : String) (startedNs : ℤ) :
    Except String RuntimeCallObservation → CallVerificationResult
  | .error message => unobservedCall expectation attemptId .failed .sessionFailed message
  | .ok observed =>
    let fresh := freshCall expectation attemptId startedNs observed
    let verdict := callVerdict expectation fresh observed
    { callExpectationId := observed.callExpectationId
      callAttemptId := observed.callAttemptId
      sourcePhoneId := observed.sourcePhoneId
      dialedExtension := observed.dialedExtension
      destinationPhoneId := observed.destinationPhoneId
      states := observed.states
      connected := observed.connected
      teardownVerified := observed.teardownVerified
      observedAfterNs := observed.observedAfterNs
      evidenceMethod := observed.evidenceMethod
      evidenceArtifactPath := observed.evidenceArtifactPath
      evidenceSha256 := observed.evidenceSha256
      executionMethod := observed.executionMethod
      message := observed.message
      freshEvidence := fresh
      status := verdict.1
      expectedResult := expectation.expectedResult
      expectedTargetPhoneId := expectation.expectedTargetPhoneId
      failureCode := verdict.2 }

/-- The call itself: a new attempt is named and timed, and the runtime places it. -/
def placeCall (expectation : CallExpectation) : ApplyingVoice CallVerificationResult := do
  let (attemptId, startedNs, answer) ← Interaction.exchange
    (fun trace =>
      let attemptId := applicator.callAttemptId trace
      let startedNs := applicator.timeNs trace
      (attemptId, startedNs,
        applicator.runtime.verifyCall trace expectation attemptId startedNs))
    (fun call => VoiceEvent.verifyCall expectation call.1 call.2.1 call.2.2)
  return placedCall expectation attemptId startedNs answer

/-- One iteration of `_calls`. -/
def verifyExpectedCall (plan : VoicePlan) (capabilities : Dict String VoiceCapabilityProfile)
    (registrations : List PhoneRegistrationResult) (results : List CallVerificationResult)
    (expectation : CallExpectation) : ApplyingVoice (List CallVerificationResult) :=
  if hardBlock registrations expectation then
    pure (results ++ [unobservedCall expectation "" .dependencyBlocked .dependencyBlocked
      "A required phone did not reach a usable registration state."])
  else do
    let support ← Interaction.ofExcept (callSupport plan capabilities expectation)
    if support.sufficient = false then return results ++ [unsupportedCall expectation support]
    else return results ++ [← applicator.placeCall expectation]

/-- `bind_call_plan`, when the runtime has it: the message of its exception. -/
def bindPlan (plan : VoicePlan) : ApplyingVoice (Except String Unit) :=
  match applicator.runtime.bindCallPlan with
  | none => pure (.ok ())
  | some bind => Interaction.exchange (fun trace => bind trace plan) VoiceEvent.bindCallPlan

/-- The result of a call when the plan could not be bound. -/
def unboundCall (message : String) (expectation : CallExpectation) : CallVerificationResult :=
  { unobservedCall expectation "" .failed .sessionFailed
      s!"PhoneControl plan binding failed: {message}" with
    destinationPhoneId := expectation.expectedTargetPhoneId }

/-- `_calls`. -/
def calls (plan : VoicePlan) (capabilities : Dict String VoiceCapabilityProfile)
    (registrations : List PhoneRegistrationResult) :
    ApplyingVoice (List CallVerificationResult) := do
  match ← applicator.bindPlan plan with
  | .error message => return plan.callExpectations.map (unboundCall message)
  | .ok () =>
    Interaction.loop (applicator.verifyExpectedCall plan capabilities registrations) []
      plan.callExpectations

/-! ## Outcomes -/

/-- What the calls say about a phone. -/
def callBehavior (calls : List CallVerificationResult) (phoneId : String) :
    ActionExecutionStatus :=
  let relevant := calls.filter fun item => item.expectedResult = .established ∧
    (item.sourcePhoneId = phoneId ∨ item.expectedTargetPhoneId = phoneId)
  if relevant.any (·.status = .verified) then .verified
  else if relevant.any (·.status = .failed) then .failed
  else .unknown

/-- The outcome of one phone. -/
def phoneOutcome (actions : List ActionApplicationResult)
    (registrations : List PhoneRegistrationResult) (calls : List CallVerificationResult)
    (assignment : PhoneAssignment) : Except RaisedError PhoneVoiceOutcome := do
  let registration :=
    (Dict.ofList (registrations.map fun item => (item.phoneId, item))).get? assignment.phoneId
  let action ← subscript (Dict.ofList (actions.map fun item => (item.actionId, item)))
    assignment.bindingActionId
  let behavior := callBehavior calls assignment.phoneId
  return {
    phoneId := assignment.phoneId
    extension := assignment.extension
    applicationStatus := action.status
    registrationStatus := (registration.map PhoneRegistrationResult.status).getD .unknown
    directRegistrationReadback :=
      (registration.map PhoneRegistrationResult.directReadback).getD .unknown
    callBehaviorStatus := behavior
    usabilityStatus :=
      if registration.any (·.status = .verified) ∨ behavior = .verified then .verified
      else .unknown
    addressingStatus :=
      (registration.map PhoneRegistrationResult.addressingStatus).getD .unknown }

/-- `_phone_outcomes`. -/
def phoneOutcomes (plan : VoicePlan) (actions : List ActionApplicationResult)
    (registrations : List PhoneRegistrationResult) (calls : List CallVerificationResult) :
    Except RaisedError (List PhoneVoiceOutcome) :=
  plan.phoneAssignments.mapM (phoneOutcome actions registrations calls)

/-! ## Dispatch -/

/-- The results of the actions so far. -/
abbrev ResultMap := Dict String ActionApplicationResult

/-- The result of an action whose capability is not supported. -/
def skippedResult (support : VoiceCapabilityStatus) (action : VoiceAction) :
    ActionApplicationResult :=
  { actionId := action.id
    status := .skipped
    failureCode :=
      if support = .unsupported then .capabilityUnsupported else .capabilityUnknown
    message := s!"{action.hostModel}:{action.requiredCapability.value} is {support.value}." }

/-- The results before anything is dispatched: those that are retained, and the skipped actions of
the scope. -/
def initialResults (plan : VoicePlan) (capabilities : Dict String VoiceCapabilityProfile)
    (scope : MutationScope) : ResultMap :=
  plan.actions.foldl (fun results action =>
    let support := capabilityStatus capabilities action.hostModel action.requiredCapability
    if action.id ∉ scope.mutationIds ∨ support = .supported then results
    else results.set action.id (skippedResult support action)) scope.retained

/-- The results so far and the actions without one. -/
structure DispatchState where
  results : ResultMap
  pending : List VoiceAction

/-- A result for an action that is not dispatched. -/
def blockedResult (action : VoiceAction) (message : String) : ActionApplicationResult :=
  { actionId := action.id
    status := .dependencyBlocked
    failureCode := .dependencyBlocked
    message := message }

/-- The dependencies of an action that have a result that does not satisfy it. -/
def blockedBy (results : ResultMap) (action : VoiceAction) : List String :=
  action.dependsOn.filter fun dependency =>
    (results.get? dependency).any fun result => !satisfiesApplyDependency result.status

/-- One action of the pass that blocks what cannot be dispatched any more. -/
def sweepAction (state : DispatchState) (action : VoiceAction) : DispatchState :=
  let blocked := blockedBy state.results action
  if blocked = [] then { state with pending := state.pending ++ [action] }
  else
    { state with
      results := state.results.set action.id
        (blockedResult action ("Blocked by: " ++ String.intercalate ", " (sortedBy id blocked))) }

/-- The pass over the pending actions. -/
def sweep (state : DispatchState) : DispatchState :=
  state.pending.foldl sweepAction { results := state.results, pending := [] }

/-- Whether a dependency has a result that satisfies it. -/
def satisfied (results : ResultMap) (dependency : String) : Bool :=
  (results.get? dependency).any fun result => satisfiesApplyDependency result.status

/-- The next batch: the ready actions of the first one's phase and call control. -/
def nextBatch (state : DispatchState) : List VoiceAction :=
  match state.pending.filter fun item => item.dependsOn.all (satisfied state.results) with
  | [] => []
  | first :: others => (first :: others).filter fun item =>
      item.phase = first.phase ∧ item.callControlId = first.callControlId

/-- An action addressed to the deployed devices; a missing name is a `KeyError`. -/
def deployedAction (deployedNames : Dict String String) (action : VoiceAction) :
    Except String VoiceAction :=
  match deployedNames.get? action.hostDeviceId with
  | none => .error (quoted action.hostDeviceId)
  | some name =>
    match action.detail with
    | .bindPhoneToExtension operation phoneId _ phoneModel extension directoryIndex required =>
      match deployedNames.get? phoneId with
      | none => .error (quoted phoneId)
      | some physical => .ok
          { action with
            hostDeviceName := name
            detail := .bindPhoneToExtension operation phoneId physical phoneModel extension
              directoryIndex required }
    | _ => .ok { action with hostDeviceName := name }

/-- The mutations by action; an exception is a failure of all. -/
def mutationsOf (batch : List VoiceAction) (answer : Except String (List RuntimeActionMutation)) :
    Dict String RuntimeActionMutation :=
  match answer with
  | .ok mutations => Dict.ofList (mutations.map fun item => (item.actionId, item))
  | .error message => Dict.ofList (batch.map fun item =>
      (item.id,
        { actionId := item.id
          applied := false
          failureCode := .sessionFailed
          message := message }))

/-- `_mutation_status`: what the model does not declare was not attempted. -/
def mutationStatus (mutation : RuntimeActionMutation) : ActionExecutionStatus :=
  if mutation.applied = false ∧ (mutation.failureCode = .capabilityUnknown ∨
      mutation.failureCode = .capabilityUnsupported) then .skipped
  else mutationExecutionStatus mutation

/-- The result of one dispatched action. -/
def dispatchResult (action : VoiceAction) :
    Option RuntimeActionMutation → ActionApplicationResult
  | none =>
    { actionId := action.id
      status := .failed
      failureCode := .callControlApplicationFailed
      message := "Runtime returned no mutation."
      operation := action.detail.operation
      disposition := .failed }
  | some mutation =>
    { actionId := action.id
      status := mutationStatus mutation
      failureCode :=
        if mutation.failureCode ≠ .none then mutation.failureCode
        else if mutation.applied then .none
        else .callControlApplicationFailed
      message := mutation.message
      batchId := mutation.batchId
      operation := action.detail.operation
      disposition := mutation.disposition }

/-- Whether a result stops the dispatch. -/
def stopsDispatch (result : ActionApplicationResult) : Bool :=
  result.failureCode ≠ .none || !satisfiesApplyDependency result.status

/-- The actions of a batch get their results. -/
def settle (batch : List VoiceAction) (mutations : Dict String RuntimeActionMutation)
    (results : ResultMap) : ResultMap :=
  batch.foldl (fun results item =>
    results.set item.id (dispatchResult item (mutations.get? item.id))) results

/-- The actions of a batch that failed. -/
def batchFailures (batch : List VoiceAction) (mutations : Dict String RuntimeActionMutation) :
    List String :=
  (batch.filter fun item =>
    stopsDispatch (dispatchResult item (mutations.get? item.id))).map VoiceAction.id

/-- All pending actions are blocked with the same message. -/
def blockAll (pending : List VoiceAction) (message : String) (results : ResultMap) : ResultMap :=
  pending.foldl (fun results item => results.set item.id (blockedResult item message)) results

/-- The dispatch of a batch; a missing name keeps it from the runtime. -/
def dispatchBatch (deployedNames : Dict String String) (batch : List VoiceAction) :
    ApplyingVoice (Except String (List RuntimeActionMutation)) :=
  match batch.mapM (deployedAction deployedNames) with
  | .error message => pure (.error message)
  | .ok runtimeBatch =>
    Interaction.exchange (fun trace => applicator.runtime.applyActions trace runtimeBatch)
      (VoiceEvent.applyActions runtimeBatch)

/-- The loop over the pending actions.  Every iteration but the last takes some of them, so that as
many iterations as there are actions suffice. -/
def dispatchLoop (deployedNames : Dict String String) :
    ℕ → DispatchState → ApplyingVoice ResultMap
  | 0, state => pure state.results
  | fuel + 1, state =>
    if state.pending = [] then pure state.results
    else
      let swept := sweep state
      match nextBatch swept with
      | [] =>
        if swept.pending.length = state.pending.length then
          pure (blockAll swept.pending "" swept.results)
        else dispatchLoop deployedNames fuel swept
      | first :: others => do
        let batch := first :: others
        let answer ← applicator.dispatchBatch deployedNames batch
        let mutations := mutationsOf batch answer
        let results := settle batch mutations swept.results
        let pending := swept.pending.filter (· ∉ batch)
        match sortedBy id (batchFailures batch mutations) with
        | [] => dispatchLoop deployedNames fuel { results := results, pending := pending }
        | blocker :: _ =>
          pure (blockAll pending s!"Voice dispatch stopped after runtime failure for {blocker}."
            results)

/-- `_apply_actions`. -/
def applyActions (plan : VoicePlan) (capabilities : Dict String VoiceCapabilityProfile)
    (prepared : PreparedVoice) : ApplyingVoice (List ActionApplicationResult) := do
  let results := initialResults plan capabilities prepared.scope
  let pending := plan.actions.filter fun item => !results.contains item.id
  let results ← applicator.dispatchLoop prepared.deployedNames pending.length
    { results := results, pending := pending }
  Interaction.ofExcept (subscripts results (plan.actions.map VoiceAction.id))

/-! ## Reports -/

/-- `_application_status`. -/
def applicationStatus (results : List ActionApplicationResult) : ActionExecutionStatus :=
  if results.any fun item => item.status = .failed ∨
      (satisfiesApplyDependency item.status = true ∧ item.failureCode ≠ .none) then .failed
  else if results.any fun item => !satisfiesApplyDependency item.status then .partial_
  else .applied

/-- `_overall`. -/
def overall (application : ActionExecutionStatus) (phones : List PhoneVoiceOutcome)
    (calls : List CallVerificationResult) : ActionExecutionStatus × ConfigurationFailureCode :=
  if application = .failed then (.failed, .callControlApplicationFailed)
  else if calls ≠ [] ∧ calls.all (·.status = .verified) ∧
      phones.all (·.usabilityStatus = .verified) then (.verified, .none)
  else if calls.any (·.status = .failed) then (.failed, .behavioralVerificationFailed)
  else (.partial_, .none)

/-- The journal of an application: what was retained was not mutated. -/
def applicationJournal (plan : VoicePlan) (request : VoiceApplyRequest) (mutationIds : List String)
    (results : List ActionApplicationResult) : Except RaisedError ApplicationExecutionJournal :=
  (journalFromActionResults plan.id request.deploymentId plan.actions
    (results.filter (·.actionId ∈ mutationIds))).mapError RaisedError.journalError

/-- What every report after the dispatch says about the actions. -/
def actionReport (plan : VoicePlan) (request : VoiceApplyRequest) (mutationIds : List String)
    (results : List ActionApplicationResult) (journal : ApplicationExecutionJournal) :
    VoiceApplicationResult :=
  { voicePlanId := plan.id
    voiceSemanticHash := plan.semanticHash
    sourceTopologyHash := plan.sourceTopologyHash
    sourceConfigurationHash := plan.sourceConfigurationHash
    sourceServiceHash := plan.sourceServiceHash
    runtimeContext := request.runtimeContext
    status := .failed
    applicationStatus := applicationStatus results
    actionResults := results
    mutationActionIds := (plan.actions.map VoiceAction.id).filter (· ∈ mutationIds)
    retainedActionIds := (plan.actions.map VoiceAction.id).filter (· ∉ mutationIds)
    deploymentId := request.deploymentId
    executionJournal := some journal
    dirtyState := journal.dirtyState }

/-- `_after_application_failure`. -/
def afterApplicationFailure (plan : VoicePlan) (request : VoiceApplyRequest)
    (mutationIds : List String) (results : List ActionApplicationResult) (refusal : Refusal) :
    Except RaisedError VoiceApplicationResult := do
  let journal ← applicationJournal plan request mutationIds results
  return { actionReport plan request mutationIds results journal with
    failureCode := refusal.code
    preflightErrors := refusal.messages }

/-- What was observed after the dispatch. -/
structure VoiceObservations where
  registrations : List PhoneRegistrationResult
  calls : List CallVerificationResult

/-- The report of a run that was not cut short. -/
def applicationResult (plan : VoicePlan) (request : VoiceApplyRequest)
    (mutationIds : List String) (results : List ActionApplicationResult)
    (observations : VoiceObservations) : Except RaisedError VoiceApplicationResult := do
  let phones ← phoneOutcomes plan results observations.registrations observations.calls
  let verdict := overall (applicationStatus results) phones observations.calls
  let journal ← applicationJournal plan request mutationIds results
  return { actionReport plan request mutationIds results journal with
    status := verdict.1
    failureCode := verdict.2
    registrations := observations.registrations
    calls := observations.calls
    phones := phones }

/-! ## The run -/

/-- What the lifecycle observer, when there is one, makes of a milestone. -/
def lifecycleAnswer (request : VoiceApplyRequest) (trace : List VoiceEvent) (milestone : String) :
    Except String Unit :=
  match request.lifecycleObserver with
  | none => .ok ()
  | some observer => observer trace milestone

/-- Call the lifecycle observer; its exceptions leave the applicator. -/
def notify (request : VoiceApplyRequest) (milestone : String) : ApplyingVoice Unit :=
  Interaction.callback fun trace =>
    (lifecycleAnswer request trace milestone).mapError .observerError

/-- The completion of the deferred signalling; an exception of the lifecycle observer is caught like
one of the callback, and keeps the callback from being invoked. -/
def completeSignal (request : VoiceApplyRequest)
    (complete : List VoiceEvent → Except String StatusMap) :
    ApplyingVoice (Except String StatusMap) := fun trace =>
  match lifecycleAnswer request trace "DEFERRED_VOICE_COMPLETION_STARTED" with
  | .error message => (.ok (.error message), trace)
  | .ok () => Interaction.exchange complete VoiceEvent.completeVoiceSignal trace

/-- Why nothing may be observed after the dispatch, or that all is well. -/
def signalBarrier (plan : VoicePlan) (request : VoiceApplyRequest)
    (results : List ActionApplicationResult) : ApplyingVoice (Except Refusal Unit) :=
  match request.completeVoiceSignal with
  | none => pure (.ok ())
  | some complete =>
    if applicationStatus results ≠ .applied then
      pure (.error ⟨.callControlApplicationFailed,
        ["Voice bootstrap did not apply; deferred Voice signalling remains closed."]⟩)
    else do
      match ← completeSignal request complete with
      | .error message =>
        return .error ⟨.applicationFailed, [s!"Deferred Voice signalling failed: {message}"]⟩
      | .ok statuses =>
        let missing := missingFoundations plan statuses false
        if missing ≠ [] then
          return .error ⟨.foundationalConfigurationMissing,
            ["Voice foundations remain unverified after signalling: " ++
              String.intercalate ", " missing]⟩
        else
          notify request "DEFERRED_VOICE_COMPLETION_VERIFIED"
          return .ok ()

/-- The observations after the barrier. -/
def observeVoice (plan : VoicePlan) (request : VoiceApplyRequest)
    (results : List ActionApplicationResult) : ApplyingVoice VoiceObservations := do
  notify request "REGISTRATION_STARTED"
  let registrations ← applicator.registrations plan request.capabilities results
  notify request "REGISTRATION_COMPLETED"
  let calls ← applicator.calls plan request.capabilities registrations
  return { registrations := registrations, calls := calls }

/-- Call the lifecycle observer under a condition. -/
def notifyWhen (request : VoiceApplyRequest) (condition : Bool) (milestone : String) :
    ApplyingVoice Unit :=
  if condition then notify request milestone else pure ()

/-- The milestones of the bootstrap are observed around the dispatch. -/
def bootstrap (plan : VoicePlan) (request : VoiceApplyRequest) (prepared : PreparedVoice) :
    ApplyingVoice (List ActionApplicationResult) := do
  notifyWhen request (prepared.scope.mutationIds ≠ []) "VOICE_BOOTSTRAP_STARTED"
  let results ← applicator.applyActions plan request.capabilities prepared
  notifyWhen request (applicationStatus results = .applied)
    (if prepared.scope.mutationIds ≠ [] then "VOICE_BOOTSTRAP_APPLIED"
      else "VOICE_BOOTSTRAP_RETAINED")
  return results

/-- `apply` after an accepted preflight. -/
def applyPrepared (plan : VoicePlan) (request : VoiceApplyRequest) (prepared : PreparedVoice) :
    ApplyingVoice VoiceApplicationResult := do
  let results ← applicator.bootstrap plan request prepared
  match ← signalBarrier plan request results with
  | .error refusal =>
    Interaction.ofExcept
      (afterApplicationFailure plan request prepared.scope.mutationIds results refusal)
  | .ok () =>
    let observations ← applicator.observeVoice plan request results
    Interaction.ofExcept
      (applicationResult plan request prepared.scope.mutationIds results observations)

/-- `apply`. -/
def apply (plan : VoicePlan) (request : VoiceApplyRequest) :
    ApplyingVoice VoiceApplicationResult := do
  match ← applicator.preflight plan request with
  | .error refusal => Interaction.ofExcept (failure plan request refusal)
  | .ok prepared => applicator.applyPrepared plan request prepared

end VoiceApplicator

end Voice
end PacketTracer
