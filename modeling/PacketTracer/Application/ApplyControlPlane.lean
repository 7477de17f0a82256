import PacketTracer.Application.ApplyConfiguration
import PacketTracer.Domain.ControlPlane

/-!
# Applying a control-plane plan

`apply_control_plane.py`: preflight; then the actions are dispatched frontier by frontier, the
expectations are verified stage by stage, the failure scenarios are executed, and the report is
composed from the results.  Evidence records are left out.  The runtime is an environment whose
answers are arbitrary functions of everything that happened before, and may be exceptions.
-/

namespace PacketTracer

open Dicts Interactions PyText

/-! ## The runtime and its history -/

/-- One exchange with the runtime: what it was asked and what it answered or raised. -/
inductive ControlPlaneEvent
  | inventory (answer : Except String (List RuntimeConfigurationTarget))
  | applyActions (actions : List ControlPlaneAction)
      (answer : Except String (List RuntimeActionMutation))
  | verify (expectations : List ControlPlaneVerificationExpectation)
      (answer : Except String (List RuntimeControlPlaneVerification))
  | executeFailureScenario (scenario : LinkFailureScenario)
      (failure recovery : ControlPlaneVerificationExpectation)
      (answer : Except String RuntimeFailureScenarioResult)

/-- `ControlPlaneRuntime`: the answers of a runtime after a given history. -/
structure ControlPlaneRuntime where
  inventory : List ControlPlaneEvent → Except String (List RuntimeConfigurationTarget)
  applyActions : List ControlPlaneEvent → List ControlPlaneAction →
    Except String (List RuntimeActionMutation)
  verify : List ControlPlaneEvent → List ControlPlaneVerificationExpectation →
    Except String (List RuntimeControlPlaneVerification)
  executeFailureScenario : List ControlPlaneEvent → LinkFailureScenario →
    ControlPlaneVerificationExpectation → ControlPlaneVerificationExpectation →
    Except String RuntimeFailureScenarioResult

/-- A computation of the applicator. -/
abbrev ApplyingControlPlane (α : Type) : Type := Interaction ControlPlaneEvent RaisedError α

/-- The capability profiles by model. -/
abbrev CapabilityProfiles : Type := Dict String ControlPlaneCapabilityProfile

/-- The keyword arguments of `apply`. -/
structure ControlPlaneRequest where
  actualSourceTopologyHash : String
  actualSourceConfigurationHash : String
  foundationalStatuses : StatusMap
  actualSourceSecurityHash : String := ""
  foundationalHashes : Dict String String := .empty
  capabilities : Option CapabilityProfiles := none
  runtimeContext : ConfigurationRuntimeContext := {}
  deploymentManifest : Option DeploymentManifest := none
  mutationActionIds : Option (List String) := none
  retainedActionResults : List ActionApplicationResult := []

/-- The deployment identifier that results carry. -/
def ControlPlaneRequest.deploymentId (request : ControlPlaneRequest) : String :=
  (request.deploymentManifest.map DeploymentManifest.deploymentId).getD ""

/-- `ControlPlaneApplicator`.  Besides its runtime and the profiles of its capability provider it
takes two functions of the libraries as parameters: the digest of an environment fingerprint and
`str.casefold`. -/
structure ControlPlaneApplicator where
  runtime : ControlPlaneRuntime
  capabilityProvider : CapabilityProfiles
  semanticHash : EnvironmentFingerprint → String
  casefold : String → String

namespace ControlPlaneApplicator

/-! ## Checks on the plan -/

/-- `_source_mismatch`. -/
def sourceMismatch (plan : ControlPlanePlan) (request : ControlPlaneRequest) : Option Refusal :=
  if request.actualSourceTopologyHash ≠ plan.sourceTopologyHash then
    some ⟨.sourceTopologyMismatch, ["ControlPlanePlan source hash does not match deployed E4."]⟩
  else if request.actualSourceConfigurationHash ≠ plan.sourceConfigurationHash then
    some ⟨.sourceConfigurationMismatch,
      ["ControlPlanePlan source hash does not match applied E5."]⟩
  else if plan.sourceSecurityHash ≠ "" ∧
      request.actualSourceSecurityHash ≠ plan.sourceSecurityHash then
    some ⟨.sourceConfigurationMismatch,
      ["ControlPlanePlan source hash does not match applied E8."]⟩
  else none

/-- `_foundation_errors`. -/
def foundationErrors (plan : ControlPlanePlan) (statuses : StatusMap)
    (hashes : Dict String String) : List String :=
  sortedBy id (plan.foundationalRequirements.flatMap fun requirement =>
    (if statuses.get? requirement.sourceId ≠ some .verified then
      [s!"Foundation {requirement.sourceId} is not VERIFIED."] else []) ++
    (if requirement.sourceHash ≠ "" ∧
        hashes.get? requirement.sourceId ≠ some requirement.sourceHash then
      [s!"Foundation {requirement.sourceId} source hash does not match."] else [])).dedup

/-- A prerequisite on an action that only a verification of the plan is called like. -/
def normalizedPrerequisite (verificationIds actionIds : List String)
    (prerequisite : VerificationPrerequisite) : VerificationPrerequisite :=
  if prerequisite.kind = .actionApplied ∧ prerequisite.referenceId ∈ verificationIds ∧
      prerequisite.referenceId ∉ actionIds then
    { prerequisite with kind := .verificationVerified }
  else prerequisite

/-- The prerequisites of an expectation that states none: its action and what it depends on. -/
def impliedPrerequisites (verificationIds : List String)
    (item : ControlPlaneVerificationExpectation) : List VerificationPrerequisite :=
  (sortedBy id ((item.actionId :: item.dependsOn).filter (· ≠ "")).dedup).map fun identifier =>
    { kind := if identifier ∈ verificationIds then .verificationVerified else .actionApplied
      referenceId := identifier }

/-- An expectation with its prerequisites made explicit. -/
def normalizedExpectation (plan : ControlPlanePlan) (item : ControlPlaneVerificationExpectation) :
    ControlPlaneVerificationExpectation :=
  let verificationIds := plan.verificationExpectations.map ControlPlaneVerificationExpectation.id
  let actionIds := plan.actions.map ControlPlaneAction.id
  { item with
    verificationPrerequisites :=
      if item.verificationPrerequisites ≠ [] then
        item.verificationPrerequisites.map (normalizedPrerequisite verificationIds actionIds)
      else impliedPrerequisites verificationIds item }

/-- `_normalized_verification_plan`. -/
def normalizedVerificationPlan (plan : ControlPlanePlan) : Except String ControlPlanePlan := do
  let ordered ← orderVerificationExpectations
    (plan.verificationExpectations.map (normalizedExpectation plan))
  return { plan with verificationExpectations := ordered }

/-- The actions of the plan that are to be retained but depend on a mutated one. -/
def reverseDependencies (plan : ControlPlanePlan) (mutationIds expectedRetained : List String) :
    List String :=
  sortedBy id ((plan.actions.filter fun item => item.id ∈ expectedRetained ∧
    (item.dependsOn ++ item.applyDependencies).any (· ∈ mutationIds)).map ControlPlaneAction.id)

/-- What `_mutation_scope` says about a retained result that is no success. -/
def invalidRetained (retainedById : Dict String ActionApplicationResult) (identifier : String) :
    Option String :=
  match retainedById.get? identifier with
  | some item =>
    if satisfiesApplyDependency item.status ∧ item.failureCode = .none then none
    else some s!"{identifier}:{item.status.value}/{item.failureCode.value}"
  | none => none

/-- `_mutation_scope`. -/
def mutationScope (plan : ControlPlanePlan) (mutationActionIds : Option (List String))
    (retainedActionResults : List ActionApplicationResult) : MutationScope :=
  let planIds := (plan.actions.map ControlPlaneAction.id).dedup
  match mutationActionIds with
  | none =>
    if retainedActionResults ≠ [] then
      { mutationIds := []
        retained := .empty
        errors := ["Retained action results require an explicit mutation action scope."] }
    else { mutationIds := planIds, retained := .empty, errors := [] }
  | some mutationActionIds =>
    let mutationIds := mutationActionIds.dedup
    let retainedById := Dict.ofList (retainedActionResults.map fun item => (item.actionId, item))
    let expectedRetained := planIds.filter (· ∉ mutationIds)
    { mutationIds := mutationIds
      retained := retainedById
      errors :=
        listingError ("Mutation scope contains actions outside the typed control-plane " ++
          "plan: ") (sortedBy id (mutationIds.filter (· ∉ planIds))) ++
        (if retainedById.entries.length ≠ retainedActionResults.length then
          ["Retained control-plane action results contain duplicate identities."] else []) ++
        listingError "Mutation scope lacks retained control-plane results for: "
          (sortedBy id (expectedRetained.filter fun i => !retainedById.contains i)) ++
        listingError "Retained control-plane results are outside the retained scope: "
          (sortedBy id (retainedById.keys.filter (· ∉ expectedRetained))) ++
        listingError "Retained control-plane actions were not previously applied: "
          (sortedBy id (expectedRetained.filterMap (invalidRetained retainedById))) ++
        listingError "Retained control-plane actions depend on newly mutated actions: "
          (reverseDependencies plan mutationIds expectedRetained) }

variable (applicator : ControlPlaneApplicator)

/-- The checks of `apply` on the deployment manifest that need no inventory. -/
def manifestPreflight (plan : ControlPlanePlan) (request : ControlPlaneRequest) :
    Except Refusal Unit :=
  match request.deploymentManifest with
  | some manifest =>
    if manifest.physicalTopologyHash ≠ plan.sourceTopologyHash then
      .error ⟨.targetIdentityMismatch,
        ["DeploymentManifest physical topology hash does not match ControlPlanePlan."]⟩
    else
      match validateManifestEnvironment applicator.semanticHash manifest
          request.runtimeContext.environmentFingerprint with
      | .error message => .error ⟨.environmentFingerprintMismatch, [message]⟩
      | .ok () => .ok ()
  | none =>
    if requiresDeploymentManifest plan.sourceTopologyHashSchema then
      .error ⟨.deploymentManifestRequired,
        ["ControlPlanePlan uses physical-topology-v2 identity and requires a " ++
          "DeploymentManifest; name-only runtime fallback is legacy-only."]⟩
    else .ok ()

/-- What the checks on the plan establish: the scope, and the plan in the order of verification. -/
structure CheckedPlan where
  scope : MutationScope
  verificationPlan : ControlPlanePlan

/-- The checks of `apply` on dependencies and foundations. -/
def planPreflight (plan : ControlPlanePlan) (request : ControlPlaneRequest) :
    Except Refusal CheckedPlan :=
  match orderDependencyActions plan.actions with
  | .error error => .error ⟨.dependencyBlocked, [error.message]⟩
  | .ok ordered =>
    if ordered.map ControlPlaneAction.id ≠ plan.actions.map ControlPlaneAction.id then
      .error ⟨.dependencyBlocked,
        ["ControlPlanePlan actions are not in deterministic dependency order."]⟩
    else
      let scope := mutationScope plan request.mutationActionIds request.retainedActionResults
      if scope.errors ≠ [] then .error ⟨.dependencyBlocked, scope.errors⟩
      else
        match normalizedVerificationPlan plan with
        | .error message => .error ⟨.dependencyBlocked, [message]⟩
        | .ok verificationPlan =>
          let errors := foundationErrors plan request.foundationalStatuses
            request.foundationalHashes
          if errors ≠ [] then .error ⟨.foundationalConfigurationMissing, errors⟩
          else .ok { scope := scope, verificationPlan := verificationPlan }

/-- The checks of `apply` before it asks the runtime for anything. -/
def staticPreflight (plan : ControlPlanePlan) (request : ControlPlaneRequest) :
    Except Refusal CheckedPlan :=
  match sourceMismatch plan request with
  | some refusal => .error refusal
  | none =>
    match applicator.manifestPreflight plan request with
    | .error refusal => .error refusal
    | .ok () => planPreflight plan request

/-! ## The plan for the deployed devices -/

/-- The devices that an expectation mentions. -/
def expectationDeviceIds (item : ControlPlaneVerificationExpectation) : List String :=
  [item.deviceId, item.peerDeviceId].filter (· ≠ "") ++
    (item.forwardingEndpoint.map ForwardingEndpointSelection.endpointDeviceId).toList

/-- The devices that a scenario mentions. -/
def scenarioDeviceIds (item : LinkFailureScenario) : List String :=
  [item.deviceAId, item.deviceBId, item.targetDeviceId, item.peerDeviceId,
    item.probeSourceDeviceId, item.probeDestinationDeviceId].filter (· ≠ "")

/-- `_semantic_device_ids`. -/
def semanticDeviceIds (plan : ControlPlanePlan) : List String :=
  sortedBy id ((plan.actions.map ControlPlaneAction.deviceId).filter (· ≠ "") ++
    plan.verificationExpectations.flatMap expectationDeviceIds ++
    plan.failureScenarios.flatMap scenarioDeviceIds).dedup

/-- No two devices may be bound to one name: an observed name could not tell them apart. -/
def checkBoundNames : Dict String String → List (String × String) → Except String Unit
  | _, [] => .ok ()
  | bound, (identifier, name) :: entries =>
    match bound.get? name with
    | some other =>
      .error (s!"DeploymentManifest binds {quoted other} and {quoted identifier} to " ++
        s!"the same runtime target {quoted name}; an observed device name " ++
        "cannot identify which semantic device produced the evidence.")
    | none => checkBoundNames (bound.set name identifier) entries

/-- `resolve`, inside `_runtime_plan`. -/
def deployedName (deployedNames : Dict String String) (identifier label : String) :
    Except String String :=
  if identifier = "" then .error s!"{label} has no semantic device ID."
  else
    match deployedNames.get? identifier with
    | some name => .ok name
    | none => .error s!"DeploymentManifest has no resolved target for {quoted identifier}."

/-- The action as it is dispatched. -/
def deployedAction (deployedNames : Dict String String) (item : ControlPlaneAction) :
    Except String ControlPlaneAction := do
  let name ← deployedName deployedNames item.deviceId s!"Control-plane action {item.id}"
  return { item with deviceName := name }

/-- The forwarding target of an expectation in the manifest. -/
def forwardingTarget (plan : ControlPlanePlan) (manifest : DeploymentManifest)
    (item : ControlPlaneVerificationExpectation) :
    Except String (Option ForwardingRuntimeEndpoint) :=
  match item.forwardingEndpoint with
  | none => .ok none
  | some selection =>
    if selection.sourceTopologyHash ≠ plan.sourceTopologyHash ∨
        selection.sourceConfigurationHash ≠ plan.sourceConfigurationHash then
      .error (s!"Control-plane expectation {quoted item.id} forwarding " ++
        "selection provenance does not match its E9 plan.")
    else (resolveForwardingRuntimeEndpoint selection manifest).map some

/-- The expected values, with the name of the source device when there is one. -/
def deployedExpected (deployedNames : Dict String String)
    (item : ControlPlaneVerificationExpectation) :
    Except String (Dict String ControlPlaneExpectedValue) :=
  if item.deviceId = "" then .ok item.expected
  else
    (deployedName deployedNames item.deviceId s!"Control-plane expectation {item.id}").map
      fun name => item.expected.set "source_device_name" (.text name)

/-- The expectation as the runtime is asked about it. -/
def deployedExpectation (plan : ControlPlanePlan) (deployedNames : Dict String String)
    (manifest : DeploymentManifest) (item : ControlPlaneVerificationExpectation) :
    Except String ControlPlaneVerificationExpectation := do
  let expected ← deployedExpected deployedNames item
  let target ← forwardingTarget plan manifest item
  return { item with expected := expected, forwardingRuntimeEndpoint := target }

/-- The scenario as it is executed. -/
def deployedScenario (deployedNames : Dict String String) (item : LinkFailureScenario) :
    Except String LinkFailureScenario := do
  let target ← deployedName deployedNames item.targetDeviceId
    s!"Failure scenario {item.id} target"
  let peer ← deployedName deployedNames item.peerDeviceId s!"Failure scenario {item.id} peer"
  let source ← deployedName deployedNames item.probeSourceDeviceId
    s!"Failure scenario {item.id} probe source"
  let destination ← deployedName deployedNames item.probeDestinationDeviceId
    s!"Failure scenario {item.id} probe destination"
  return { item with
    targetDeviceName := target
    peerDeviceName := peer
    probeSourceDeviceName := source
    probeDestinationDeviceName := destination }

/-- `_runtime_plan`, which is called with a manifest only. -/
def runtimePlan (plan : ControlPlanePlan) (deployedNames : Dict String String)
    (manifest : DeploymentManifest) : Except String ControlPlanePlan := do
  checkBoundNames .empty (sortedBy Prod.fst deployedNames.entries)
  let actions ← plan.actions.mapM (deployedAction deployedNames)
  let expectations ←
    plan.verificationExpectations.mapM (deployedExpectation plan deployedNames manifest)
  let scenarios ← plan.failureScenarios.mapM (deployedScenario deployedNames)
  return { plan with
    actions := actions
    verificationExpectations := expectations
    failureScenarios := scenarios }

/-- The plan for the deployed devices: without a manifest, the plan as it is. -/
def resolvedPlan (plan verificationPlan : ControlPlanePlan) (request : ControlPlaneRequest)
    (inventory : List RuntimeConfigurationTarget) : Except String ControlPlanePlan :=
  match request.deploymentManifest with
  | none => .ok verificationPlan
  | some manifest => do
    let targets ← resolveManifestTargets manifest plan.sourceTopologyHash
      (semanticDeviceIds plan) inventory
    runtimePlan verificationPlan
      (Dict.ofList (targets.entries.map fun entry => (entry.1, entry.2.deviceName))) manifest

/-! ## Checks on the targets -/

/-- `_action_interfaces`. -/
def actionInterfaces (action : ControlPlaneAction) : List String :=
  match action.detail with
  | .configureStpEdgePort interface .. => [interface]
  | .configureHsrp _ interface .. => [interface]
  | .configureEtherChannel _ _ _ _ _ memberInterfaces .. => memberInterfaces
  | _ => []

/-- Whether a target that lists its interfaces lacks one. -/
def lacksInterface (target : RuntimeConfigurationTarget) (interface : String) : Bool :=
  target.interfaces ≠ [] &&
    applicator.casefold interface ∉ target.interfaces.map applicator.casefold

/-- The errors of `_target_errors` about one action. -/
def actionTargetErrors (inventory : Dict String RuntimeConfigurationTarget)
    (action : ControlPlaneAction) : List String :=
  match inventory.get? action.deviceName with
  | none => [s!"Target {action.deviceName} was not found."]
  | some target =>
    if applicator.casefold target.model ≠ applicator.casefold action.model then
      [s!"Target {action.deviceName} model {target.model} does not match " ++
        s!"{action.model}."]
    else
      ((actionInterfaces action).filter (applicator.lacksInterface target)).map fun interface =>
        s!"Target {action.deviceName} interface {interface} was not found."

/-- The errors of `_target_errors` about one end of a scenario. -/
def endTargetErrors (inventory : Dict String RuntimeConfigurationTarget)
    (name interface : String) : List String :=
  match inventory.get? name with
  | none => [s!"Failure scenario target {name} was not found."]
  | some target =>
    if applicator.lacksInterface target interface then
      [s!"Failure scenario target {name} interface {interface} was not found."]
    else []

/-- `_target_errors`. -/
def targetErrors (plan : ControlPlanePlan)
    (inventory : Dict String RuntimeConfigurationTarget) : List String :=
  sortedBy id (plan.actions.flatMap (applicator.actionTargetErrors inventory) ++
    plan.failureScenarios.flatMap fun scenario =>
      applicator.endTargetErrors inventory scenario.targetDeviceName scenario.targetInterface ++
        applicator.endTargetErrors inventory scenario.peerDeviceName
          scenario.peerInterface).dedup

/-- The failure code for the errors of `_target_errors`. -/
def targetFailureCode (errors : List String) : ConfigurationFailureCode :=
  let mentions (word : String) := errors.any fun message =>
    word.toList <:+: (applicator.casefold message).toList
  if mentions "model" then .targetIdentityMismatch
  else if mentions "interface" then .interfaceNotFound
  else .targetNotFound

/-- `_profiles_in_environment_scope`. -/
def profilesInEnvironmentScope (profiles : CapabilityProfiles) (declaredVersion : String) :
    CapabilityProfiles :=
  Dict.ofList (profiles.entries.filter fun entry =>
    entry.2.packetTracerVersion = none ∨ entry.2.packetTracerVersion = some declaredVersion)

/-- What an accepted preflight hands to the main loop. -/
structure PreparedControlPlane where
  scope : MutationScope
  plan : ControlPlanePlan
  inventory : Dict String RuntimeConfigurationTarget
  profiles : CapabilityProfiles

/-- The checks of `apply` on the inventory. -/
def inventoryPreflight (plan : ControlPlanePlan) (request : ControlPlaneRequest)
    (checked : CheckedPlan) (answer : Except String (List RuntimeConfigurationTarget)) :
    Except Refusal PreparedControlPlane :=
  match answer with
  | .error message =>
    .error ⟨.sessionFailed, [s!"Control-plane runtime inventory failed: {message}"]⟩
  | .ok items =>
    match resolvedPlan plan checked.verificationPlan request items with
    | .error message => .error ⟨.targetIdentityMismatch, [message]⟩
    | .ok runtimePlan =>
      let inventory := Dict.ofList (items.map fun item => (item.deviceName, item))
      let errors := applicator.targetErrors runtimePlan inventory
      if errors ≠ [] then .error ⟨applicator.targetFailureCode errors, errors⟩
      else .ok
        { scope := checked.scope
          plan := runtimePlan
          inventory := inventory
          profiles := profilesInEnvironmentScope
            (request.capabilities.getD applicator.capabilityProvider)
            request.runtimeContext.evidenceBackendVersion }

/-- The preflight of `apply`. -/
def preflight (plan : ControlPlanePlan) (request : ControlPlaneRequest) :
    ApplyingControlPlane (Except Refusal PreparedControlPlane) :=
  match applicator.staticPreflight plan request with
  | .error refusal => pure (.error refusal)
  | .ok checked => do
    let answer ← Interaction.exchange applicator.runtime.inventory ControlPlaneEvent.inventory
    return applicator.inventoryPreflight plan request checked answer

/-- `_failure`. -/
def preflightFailure (plan : ControlPlanePlan) (request : ControlPlaneRequest)
    (refusal : Refusal) : Except RaisedError ControlPlaneApplicationResult := do
  let journal ← (journalFromActionResults plan.id request.deploymentId plan.actions []).mapError
    RaisedError.journalError
  let journal := refusal.messages.foldl ApplicationExecutionJournal.markPreflightFailure journal
  return {
    controlPlanePlanId := plan.id
    controlPlaneSemanticHash := plan.semanticHash
    sourceTopologyHash := plan.sourceTopologyHash
    sourceConfigurationHash := plan.sourceConfigurationHash
    sourceSecurityHash := plan.sourceSecurityHash
    runtimeContext := request.runtimeContext
    status := .failed
    failureCode := refusal.code
    configuredStatus := .compiled
    preflightErrors := refusal.messages
    deploymentId := request.deploymentId
    executionJournal := some journal
    dirtyState := journal.dirtyState }

/-- `_capability_status`. -/
def capabilityStatus (profiles : CapabilityProfiles) (model : String)
    (dimension : ControlPlaneCapabilityDimension) : SecurityCapabilityStatus :=
  match profiles.get? model with
  | some profile => profile.status dimension
  | none => .unknown

/-- `_RUNNABLE_CAPABILITIES`. -/
def runnable (status : SecurityCapabilityStatus) : Bool :=
  status = .supported || status = .partial_

/-! ## Dispatch -/

/-- Whether an action is refused: it is to be mutated, and its capability is not runnable. -/
def refused (profiles : CapabilityProfiles) (mutationIds : List String)
    (action : ControlPlaneAction) : Bool :=
  action.id ∈ mutationIds &&
    !runnable (capabilityStatus profiles action.model action.requiredCapability)

/-- The result of a refused action. -/
def refusalResult (profiles : CapabilityProfiles) (action : ControlPlaneAction) :
    ActionApplicationResult :=
  let support := capabilityStatus profiles action.model action.requiredCapability
  { actionId := action.id
    status := .skipped
    failureCode :=
      if support = .unsupported then .capabilityUnsupported else .capabilityUnknown
    message := s!"{action.model}:{action.requiredCapability.value} is {support.value}."
    operation := action.operation
    disposition := .skipped }

/-- The actions without a result, and the results. -/
structure FrontierState where
  pending : List ControlPlaneAction
  results : Dict String ActionApplicationResult

/-- Whether a dependency has a result that satisfies it. -/
def satisfied (results : Dict String ActionApplicationResult) (dependency : String) : Bool :=
  (results.get? dependency).any fun result => satisfiesApplyDependency result.status

/-- Whether a dependency has a result that does not satisfy it. -/
def unsatisfied (results : Dict String ActionApplicationResult) (dependency : String) : Bool :=
  (results.get? dependency).any fun result => !satisfiesApplyDependency result.status

/-- The result of an action that is not dispatched because of its dependencies. -/
def blockedResult (action : ControlPlaneAction) (message : String) : ActionApplicationResult :=
  { actionId := action.id
    status := .dependencyBlocked
    failureCode := .dependencyBlocked
    message := message
    operation := action.operation
    disposition := .blocked }

/-- One iteration of the scan for blocked actions. -/
def blockAction (state : FrontierState) (action : ControlPlaneAction) : FrontierState :=
  let blocked := action.dependsOn.filter (unsatisfied state.results)
  if blocked = [] then state
  else
    { pending := state.pending.erase action
      results := state.results.set action.id (blockedResult action
        ("Blocked by: " ++ String.intercalate ", " (sortedBy id blocked))) }

/-- The scan for blocked actions, over a copy of the pending ones. -/
def blockActions (state : FrontierState) : FrontierState := state.pending.foldl blockAction state

/-- The pending actions whose dependencies are all satisfied. -/
def readyActions (state : FrontierState) : List ControlPlaneAction :=
  state.pending.filter fun action => action.dependsOn.all (satisfied state.results)

/-- The ready actions that are dispatched together: those of the first one's phase and device. -/
def frontierBatch : List ControlPlaneAction → List ControlPlaneAction
  | [] => []
  | first :: rest => (first :: rest).filter fun item =>
      item.phase = first.phase ∧ item.deviceId = first.deviceId

/-- `_safe_apply`: the mutations by action; an exception is a failure of all. -/
def safeApply (actions : List ControlPlaneAction)
    (answer : Except String (List RuntimeActionMutation)) : Dict String RuntimeActionMutation :=
  match answer with
  | .ok mutations => Dict.ofList (mutations.map fun item => (item.actionId, item))
  | .error message => Dict.ofList (actions.map fun action =>
      (action.id,
        { actionId := action.id
          applied := false
          failureCode := .sessionFailed
          message := message }))

/-- The result of one dispatched action. -/
def dispatchResult (action : ControlPlaneAction) :
    Option RuntimeActionMutation → ActionApplicationResult
  | none =>
    { actionId := action.id
      status := .failed
      failureCode := .applicationFailed
      message := "Runtime returned no mutation result."
      operation := action.operation }
  | some mutation =>
    { actionId := action.id
      status := mutationExecutionStatus mutation
      failureCode :=
        if mutation.applied then .none
        else if mutation.failureCode ≠ .none then mutation.failureCode
        else .applicationFailed
      message := mutation.message
      batchId := mutation.batchId
      operation := action.operation
      disposition := mutation.disposition }

/-- One action of a batch gets its result. -/
def settleAction (mutations : Dict String RuntimeActionMutation) (state : FrontierState)
    (action : ControlPlaneAction) : FrontierState :=
  { pending := state.pending.erase action
    results := state.results.set action.id (dispatchResult action (mutations.get? action.id)) }

/-- What happens to the pending actions when no iteration can make progress. -/
def abandonActions (state : FrontierState) : FrontierState :=
  { pending := []
    results := state.results.setAll (state.pending.map fun action =>
      (action.id, blockedResult action "No executable dependency frontier remained.")) }

/-- One iteration of the main loop of `_apply_actions`. -/
def frontierRound (state : FrontierState) : ApplyingControlPlane FrontierState := do
  let scanned := blockActions state
  match frontierBatch (readyActions scanned) with
  | [] =>
    -- Without a blocked action the iteration made no progress, and the loop is left.
    if scanned.pending.length = state.pending.length then return abandonActions scanned
    else return scanned
  | batch =>
    let answer ← Interaction.exchange (fun trace => applicator.runtime.applyActions trace batch)
      (ControlPlaneEvent.applyActions batch)
    return batch.foldl (settleAction (safeApply batch answer)) scanned

/-- The main loop of `_apply_actions`.  Every iteration gives some pending action its result, so
that as many iterations as there are pending actions suffice. -/
def frontierLoop : ℕ → FrontierState → ApplyingControlPlane FrontierState
  | 0, state => pure state
  | fuel + 1, state =>
    if state.pending = [] then pure state
    else do
      let state ← applicator.frontierRound state
      frontierLoop fuel state

/-- The state in which the main loop starts: what is retained or refused has its result. -/
def initialFrontier (plan : ControlPlanePlan) (profiles : CapabilityProfiles)
    (scope : MutationScope) : FrontierState :=
  let results := scope.retained.setAll ((plan.actions.filter
    (refused profiles scope.mutationIds)).map fun action =>
      (action.id, refusalResult profiles action))
  { pending := plan.actions.filter fun item => !results.contains item.id
    results := results }

/-- `_apply_actions`. -/
def applyActions (plan : ControlPlanePlan) (profiles : CapabilityProfiles)
    (scope : MutationScope) : ApplyingControlPlane (List ActionApplicationResult) := do
  let final ← applicator.frontierLoop plan.actions.length (initialFrontier plan profiles scope)
  Interaction.ofExcept (subscripts final.results (plan.actions.map ControlPlaneAction.id))

/-! ## Verification -/

/-- `_OBSERVED_KINDS`. -/
def observedKinds : List ControlPlaneVerificationKind :=
  [.stpState, .etherchannelState, .hsrpState, .routingProcess, .routingNeighbor, .routePresent]

/-- `_BEHAVIOR_KINDS`. -/
def behaviorKinds : List ControlPlaneVerificationKind := [.endToEndReachability]

/-- `_SCENARIO_KINDS`. -/
def scenarioKinds : List ControlPlaneVerificationKind :=
  [.linkFailureConvergence, .restoreRecovery]

/-- What the verification of a plan reads besides the statuses it establishes. -/
structure VerificationContext where
  plan : ControlPlanePlan
  profiles : CapabilityProfiles
  actionStatuses : StatusMap
  resourceStatuses : StatusMap

namespace VerificationContext

variable (context : VerificationContext)

/-- The action that an expectation is about. -/
def actionOf (expectation : ControlPlaneVerificationExpectation) : Option ControlPlaneAction :=
  (Dict.ofList (context.plan.actions.map fun item => (item.id, item))).get? expectation.actionId

/-- The prerequisites of an expectation under the statuses established so far. -/
def prerequisites (statuses : StatusMap) (expectation : ControlPlaneVerificationExpectation) :
    Bool × List String :=
  prerequisitesSatisfied expectation.verificationPrerequisites context.actionStatuses statuses
    context.resourceStatuses

/-- The support for what an expectation requires, on the model of its action. -/
def support (expectation : ControlPlaneVerificationExpectation) : SecurityCapabilityStatus :=
  capabilityStatus context.profiles
    (((context.actionOf expectation).map ControlPlaneAction.model).getD "")
    expectation.requiredCapability

/-- The text about an unsupported expectation. -/
def unsupportedMessage (expectation : ControlPlaneVerificationExpectation) : String :=
  (((context.actionOf expectation).map ControlPlaneAction.model).getD "unknown") ++
    s!":{expectation.requiredCapability.value} is {(context.support expectation).value}."

end VerificationContext

/-- The evidence for an expectation whose prerequisites are not met. -/
def blockedVerification (expectation : ControlPlaneVerificationExpectation)
    (stage : ControlPlaneExecutionStage) (blocked : List String) :
    RuntimeControlPlaneVerification :=
  { expectationId := expectation.id
    stage := stage
    status := .dependencyBlocked
    evidenceMethod := "verification_prerequisite_gate"
    fields := Dict.ofList [("prerequisites", .unobservable)]
    message := "Blocked by: " ++ String.intercalate ", " blocked }

/-- The evidence that `_verify_stage` has without asking the runtime. -/
def gatedVerification (context : VerificationContext) (stage : ControlPlaneExecutionStage)
    (statuses : StatusMap) (expectation : ControlPlaneVerificationExpectation) :
    Option RuntimeControlPlaneVerification :=
  let (satisfied, blocked) := context.prerequisites statuses expectation
  if satisfied = false then some (blockedVerification expectation stage blocked)
  else if runnable (context.support expectation) = false then
    some
      { expectationId := expectation.id
        stage := stage
        status := .unobservable
        evidenceMethod := "control_plane_capability_gate"
        fields := Dict.ofList [("capability", .unobservable)]
        message := context.unsupportedMessage expectation }
  else none

/-- The evidence that an answer of the runtime is. -/
def observedVerification (expectation : ControlPlaneVerificationExpectation)
    (stage : ControlPlaneExecutionStage) :
    Except String (List RuntimeControlPlaneVerification) → RuntimeControlPlaneVerification
  | .ok (item :: _) => item
  | .ok [] =>
    { expectationId := expectation.id
      stage := stage
      status := .unknown
      message := "Runtime returned no verification result." }
  | .error message =>
    { expectationId := expectation.id
      stage := stage
      status := .failed
      message := message }

/-- `_verification_result`. -/
def verificationResult (expectation : ControlPlaneVerificationExpectation)
    (item : RuntimeControlPlaneVerification) (stage : ControlPlaneExecutionStage) :
    ControlPlaneVerificationResult :=
  if item.stage ≠ stage then
    { expectationId := expectation.id
      actionId := expectation.actionId
      kind := expectation.kind
      stage := stage
      status := .unknown
      message :=
        s!"Runtime returned {item.stage.value} evidence for the {stage.value} stage." }
  else
    { expectationId := expectation.id
      actionId := expectation.actionId
      kind := expectation.kind
      stage := stage
      status := item.status
      evidenceMethod := item.evidenceMethod
      freshEvidence := item.freshEvidence
      fields := item.fields
      message := item.message
      convergence := item.convergence }

/-- The results of a stage so far, and the statuses of verifications they extend. -/
structure VerificationScan where
  results : List ControlPlaneVerificationResult := []
  statuses : StatusMap

/-- The result for one more expectation. -/
def VerificationScan.add (scan : VerificationScan)
    (result : ControlPlaneVerificationResult) : VerificationScan :=
  { results := scan.results ++ [result]
    statuses := scan.statuses.set result.expectationId result.status }

/-- One iteration of `_verify_stage`. -/
def verifyExpectation (context : VerificationContext) (stage : ControlPlaneExecutionStage)
    (scan : VerificationScan) (expectation : ControlPlaneVerificationExpectation) :
    ApplyingControlPlane VerificationScan :=
  match gatedVerification context stage scan.statuses expectation with
  | some item => pure (scan.add (verificationResult expectation item stage))
  | none => do
    let answer ← Interaction.exchange (fun trace => applicator.runtime.verify trace [expectation])
      (ControlPlaneEvent.verify [expectation])
    return scan.add (verificationResult expectation (observedVerification expectation stage answer)
      stage)

/-- `_verify_stage` for the expectations of the given kinds; the statuses include those of the
results. -/
def verifyStage (context : VerificationContext) (kinds : List ControlPlaneVerificationKind)
    (stage : ControlPlaneExecutionStage) (statuses : StatusMap) :
    ApplyingControlPlane VerificationScan :=
  Interaction.loop (applicator.verifyExpectation context stage) { statuses := statuses }
    (context.plan.verificationExpectations.filter (·.kind ∈ kinds))

/-- The stage in which an expectation of a scenario is verified. -/
def scenarioStage (kind : ControlPlaneVerificationKind) : ControlPlaneExecutionStage :=
  if kind = .linkFailureConvergence then .failover else .restore

/-- The evidence for an expectation about scenarios that no scenario is bound to. -/
def unboundVerification (context : VerificationContext) (statuses : StatusMap)
    (expectation : ControlPlaneVerificationExpectation) : RuntimeControlPlaneVerification :=
  let stage := scenarioStage expectation.kind
  let (satisfied, blocked) := context.prerequisites statuses expectation
  if satisfied = false then blockedVerification expectation stage blocked
  else
    let supported := runnable (context.support expectation)
    { expectationId := expectation.id
      stage := stage
      status := .unobservable
      evidenceMethod :=
        if supported then "failure_scenario_binding_gate" else "control_plane_capability_gate"
      fields := Dict.ofList [("scenario", .unobservable)]
      message :=
        if supported then "Failover expectation has no compiled typed failure scenario."
        else context.unsupportedMessage expectation }

/-- One iteration of `_unbound_failover_results`. -/
def addUnbound (context : VerificationContext) (scan : VerificationScan)
    (expectation : ControlPlaneVerificationExpectation) : VerificationScan :=
  scan.add (verificationResult expectation
    (unboundVerification context scan.statuses expectation) (scenarioStage expectation.kind))

/-- `_unbound_failover_results`. -/
def unboundFailoverResults (context : VerificationContext) (statuses : StatusMap) :
    VerificationScan :=
  let bound := context.plan.failureScenarios.flatMap
    LinkFailureScenario.verificationExpectationIds
  (context.plan.verificationExpectations.filter fun item =>
    item.kind ∈ scenarioKinds ∧ item.id ∉ bound).foldl (addUnbound context)
      { statuses := statuses }

/-! ## Failure scenarios -/

/-- The expectation of a kind that a scenario is bound to: the first one it names. -/
def boundExpectation (plan : ControlPlanePlan) (scenario : LinkFailureScenario)
    (kind : ControlPlaneVerificationKind) : Option ControlPlaneVerificationExpectation :=
  let expectations := Dict.ofList (plan.verificationExpectations.map fun item => (item.id, item))
  (scenario.verificationExpectationIds.filterMap expectations.get?).find? (·.kind = kind)

/-- The model that an expectation of a scenario is supported on. -/
def scenarioModel (context : VerificationContext) (target : Option RuntimeConfigurationTarget)
    (expectation : ControlPlaneVerificationExpectation) : String :=
  match context.actionOf expectation with
  | some anchor => anchor.model
  | none => (target.map RuntimeConfigurationTarget.model).getD ""

/-- The support for the fault, for its verification and for that of the recovery. -/
def scenarioSupport (context : VerificationContext)
    (inventory : Dict String RuntimeConfigurationTarget) (scenario : LinkFailureScenario)
    (failure recovery : ControlPlaneVerificationExpectation) :
    SecurityCapabilityStatus × SecurityCapabilityStatus × SecurityCapabilityStatus :=
  let target := inventory.get? scenario.targetDeviceName
  (capabilityStatus context.profiles ((target.map RuntimeConfigurationTarget.model).getD "")
      .linkFailureControl,
    capabilityStatus context.profiles (scenarioModel context target failure)
      failure.requiredCapability,
    capabilityStatus context.profiles (scenarioModel context target recovery)
      recovery.requiredCapability)

/-- The checks on a scenario before it is executed: its result when it is not executed, and
otherwise its expectations. -/
def scenarioGate (context : VerificationContext)
    (inventory : Dict String RuntimeConfigurationTarget) (statuses : StatusMap)
    (scenario : LinkFailureScenario) : Except FailureScenarioResult
      (ControlPlaneVerificationExpectation × ControlPlaneVerificationExpectation) :=
  if scenario.restoreRequired = false then
    .error
      { scenarioId := scenario.id
        status := .failed
        failureCode := .cleanupFailed
        message := "Failure scenarios require a mandatory inverse restore." }
  else
    match boundExpectation context.plan scenario .linkFailureConvergence,
        boundExpectation context.plan scenario .restoreRecovery with
    | some failure, some recovery =>
      let (satisfied, blocked) := context.prerequisites statuses failure
      if satisfied = false then
        .error
          { scenarioId := scenario.id
            status := .dependencyBlocked
            failureCode := .dependencyBlocked
            message := "Blocked by: " ++ String.intercalate ", " blocked }
      else
        let (fault, verification, restoration) :=
          scenarioSupport context inventory scenario failure recovery
        if fault ≠ .supported ∨ runnable verification = false ∨ runnable restoration = false then
          .error
            { scenarioId := scenario.id
              status := .unobservable
              failureCode :=
                if SecurityCapabilityStatus.unsupported ∈ [fault, verification, restoration] then
                  .capabilityUnsupported
                else .capabilityUnknown
              message :=
                "Failure control or failover verification capability is not supported." }
        else .ok (failure, recovery)
    | _, _ =>
      .error
        { scenarioId := scenario.id
          status := .failed
          failureCode := .verificationFailed
          message := "Failure scenario lacks its failure or recovery expectation." }

/-- The result of a scenario whose execution raised. -/
def raisedScenario (scenario : LinkFailureScenario) (message : String) : FailureScenarioResult :=
  { scenarioId := scenario.id
    status := .failed
    failureCode := .cleanupFailed
    restoreStatus := .unknown
    message := s!"Failure scenario runtime raised: {message}" }

/-- The statuses under which the recovery is verified: those of the failure are the runtime's. -/
def recoveryStatuses (statuses : StatusMap) (failure : ControlPlaneVerificationExpectation)
    (runtime : RuntimeFailureScenarioResult) : StatusMap :=
  match runtime.during with
  | some during => statuses.set failure.id during.status
  | none => statuses

/-- What the runtime answered, without its evidence of the recovery when that was not ready to be
verified. -/
def gatedRecovery (context : VerificationContext) (statuses : StatusMap)
    (failure recovery : ControlPlaneVerificationExpectation)
    (runtime : RuntimeFailureScenarioResult) : RuntimeFailureScenarioResult :=
  let (ready, blocked) :=
    context.prerequisites (recoveryStatuses statuses failure runtime) recovery
  if ready then runtime
  else { runtime with after := some (blockedVerification recovery .restore blocked) }

/-- Whether evidence is about another expectation or another stage than it should be. -/
def violatesContract (item : Option RuntimeControlPlaneVerification) (expectationId : String)
    (stage : ControlPlaneExecutionStage) : Bool :=
  item.any fun item => item.expectationId ≠ expectationId || item.stage ≠ stage

/-- Whether the transitions are not numbered, not in time or not in canonical order. -/
def invalidTransitions (transitions : List FailureScenarioTransition) : Bool :=
  let sequences := transitions.map FailureScenarioTransition.sequence
  let elapsed := transitions.map FailureScenarioTransition.elapsedMs
  let phaseOrder := transitions.map fun item => item.phase.canonical
  transitions ≠ [] &&
    (sequences ≠ (List.range transitions.length).map Int.ofNat || elapsed ≠ sortedBy id elapsed ||
      phaseOrder ≠ sortedBy id phaseOrder.dedup)

/-- The evidence of a scenario that is not what was asked for. -/
def contractErrors (failure recovery : ControlPlaneVerificationExpectation)
    (runtime : RuntimeFailureScenarioResult) : List String :=
  (if violatesContract runtime.before failure.id .behavior then ["before"] else []) ++
    (if violatesContract runtime.during failure.id .failover then ["during"] else []) ++
    (if violatesContract runtime.after recovery.id .restore then ["after"] else []) ++
    (if invalidTransitions runtime.transitions then ["transitions"] else [])

/-- The status of evidence that may be missing. -/
def evidenceStatus (item : Option RuntimeControlPlaneVerification) : ActionExecutionStatus :=
  (item.map RuntimeControlPlaneVerification.status).getD .unknown

/-- The status of the injection. -/
def injectionStatus (runtime : RuntimeFailureScenarioResult) : ActionExecutionStatus :=
  (runtime.injection.map mutationExecutionStatus).getD .unknown

/-- The status of the restore. -/
def restoreStatus (runtime : RuntimeFailureScenarioResult) : ActionExecutionStatus :=
  match runtime.restore with
  | some mutation => mutationExecutionStatus mutation
  | none => if runtime.restoreAttempted then .failed else .skipped

/-- Whether a fault was applied and no restore was attempted. -/
def abandonedFault (runtime : RuntimeFailureScenarioResult) : Bool :=
  (runtime.injection.any fun injection => injection.applied) && !runtime.restoreAttempted

/-- Whether a restore was attempted without success. -/
def failedRestore (runtime : RuntimeFailureScenarioResult) : Bool :=
  runtime.restoreAttempted && !satisfiesApplyDependency (restoreStatus runtime)

/-- The status, failure code and message of a scenario with valid evidence. -/
def scenarioOutcome (runtime : RuntimeFailureScenarioResult) :
    ActionExecutionStatus × ConfigurationFailureCode × String :=
  if abandonedFault runtime then
    (.failed, .cleanupFailed, "An applied fault was not followed by a restore attempt.")
  else if failedRestore runtime then (.failed, .cleanupFailed, runtime.message)
  else if runtime.injection.isSome ∧
      satisfiesApplyDependency (injectionStatus runtime) = false then
    (.failed, .applicationFailed, runtime.message)
  else if evidenceStatus runtime.before ≠ .verified then
    (.failed, .behavioralVerificationFailed, runtime.message)
  else if satisfiesApplyDependency (injectionStatus runtime) = false then
    (.failed, .applicationFailed, runtime.message)
  else if evidenceStatus runtime.during ≠ .verified then
    (.failed,
      if (runtime.during.bind RuntimeControlPlaneVerification.convergence).isSome then
        .convergenceTimeout
      else .verificationFailed,
      runtime.message)
  else if evidenceStatus runtime.after ≠ .verified then
    (.failed, .verificationFailed, runtime.message)
  else (.verified, .none, runtime.message)

/-- `_scenario_result`. -/
def scenarioResult (scenario : LinkFailureScenario)
    (failure recovery : ControlPlaneVerificationExpectation)
    (runtime : RuntimeFailureScenarioResult) : FailureScenarioResult :=
  if runtime.scenarioId ≠ scenario.id then
    { scenarioId := scenario.id
      status := .failed
      failureCode := .sessionFailed
      message := "Runtime returned a result for a different failure scenario." }
  else
    let errors := contractErrors failure recovery runtime
    let (status, failureCode, message) :=
      if errors ≠ [] then
        (ActionExecutionStatus.failed,
          if abandonedFault runtime ∨ failedRestore runtime then .cleanupFailed
          else ConfigurationFailureCode.sessionFailed,
          "Runtime returned invalid scenario evidence for: " ++
            String.intercalate ", " errors ++ ".")
      else scenarioOutcome runtime
    { scenarioId := scenario.id
      status := status
      failureCode := failureCode
      baselineStatus := evidenceStatus runtime.before
      injectionStatus := injectionStatus runtime
      failoverStatus := evidenceStatus runtime.during
      restoreStatus := restoreStatus runtime
      recoveryStatus := evidenceStatus runtime.after
      restoreAttempted := runtime.restoreAttempted
      before := runtime.before
      during := runtime.during
      after := runtime.after
      transitions := runtime.transitions
      message := message }

/-- The results of the scenarios so far, and the statuses of verifications. -/
structure ScenarioScan where
  results : List FailureScenarioResult := []
  statuses : StatusMap

/-- The result of an executed scenario, with the statuses it establishes. -/
def ScenarioScan.addExecuted (scan : ScenarioScan)
    (failure recovery : ControlPlaneVerificationExpectation) (result : FailureScenarioResult) :
    ScenarioScan :=
  { results := scan.results ++ [result]
    statuses := (scan.statuses.set failure.id result.failoverStatus).set recovery.id
      result.recoveryStatus }

/-- The result that `_execute_scenarios` makes of an answer of the runtime. -/
def scanAnswer (context : VerificationContext) (scan : ScenarioScan)
    (scenario : LinkFailureScenario) (failure recovery : ControlPlaneVerificationExpectation)
    (answer : Except String RuntimeFailureScenarioResult) : ScenarioScan :=
  match answer with
  | .error message => { scan with results := scan.results ++ [raisedScenario scenario message] }
  | .ok runtime => scan.addExecuted failure recovery (scenarioResult scenario failure recovery
      (gatedRecovery context scan.statuses failure recovery runtime))

/-- One iteration of `_execute_scenarios`. -/
def executeScenario (context : VerificationContext)
    (inventory : Dict String RuntimeConfigurationTarget) (scan : ScenarioScan)
    (scenario : LinkFailureScenario) : ApplyingControlPlane ScenarioScan :=
  match scenarioGate context inventory scan.statuses scenario with
  | .error result => pure { scan with results := scan.results ++ [result] }
  | .ok (failure, recovery) => do
    let answer ← Interaction.exchange
      (fun trace => applicator.runtime.executeFailureScenario trace scenario failure recovery)
      (ControlPlaneEvent.executeFailureScenario scenario failure recovery)
    return scanAnswer context scan scenario failure recovery answer

/-- `_execute_scenarios`. -/
def executeScenarios (context : VerificationContext)
    (inventory : Dict String RuntimeConfigurationTarget) (statuses : StatusMap) :
    ApplyingControlPlane (List FailureScenarioResult) := do
  let scan ← Interaction.loop (applicator.executeScenario context inventory)
    { statuses := statuses } context.plan.failureScenarios
  return scan.results

/-! ## The report -/

/-- The verdict of `_record_scenario_restore`, when there is one. -/
def scenarioVerdict (scenarios : List FailureScenarioResult) : Option CompensationStatus :=
  let injected := scenarios.filter fun item => satisfiesApplyDependency item.injectionStatus
  if scenarios.any fun item =>
      item.failureCode = .cleanupFailed ∧ item.restoreStatus = .unknown then some .unknown
  else if injected = [] then none
  else if injected.any fun item =>
      !(item.restoreAttempted && satisfiesApplyDependency item.restoreStatus) then some .failed
  else if injected.any fun item =>
      item.recoveryStatus ≠ .verified ∨ item.failureCode = .sessionFailed then some .unknown
  else some .succeeded

/-- `_record_scenario_restore`. -/
def recordScenarioRestore (journal : ApplicationExecutionJournal)
    (scenarios : List FailureScenarioResult) : ApplicationExecutionJournal :=
  match scenarioVerdict scenarios with
  | some status => journal.recordScenarioRestore status
  | none => journal

/-- `_aggregate`. -/
def aggregate (statuses : List ActionExecutionStatus) (success : ActionExecutionStatus) :
    ActionExecutionStatus :=
  if statuses = [] then .skipped
  else if ActionExecutionStatus.failed ∈ statuses then .failed
  else if success = .applied ∧ statuses.all satisfiesApplyDependency then .applied
  else if statuses.all (· = success) then success
  else
    match [ActionExecutionStatus.dependencyBlocked, .unknown, .unobservable, .partial_,
        .skipped].find? (· ∈ statuses) with
    | some status => status
    | none => .partial_

/-- The statuses that `_overall` takes for incomplete. -/
def incomplete : List ActionExecutionStatus :=
  [.skipped, .dependencyBlocked, .unknown, .unobservable, .partial_]

/-- `_overall`. -/
def overall (actions : List ActionApplicationResult)
    (observed behavior failover : List ControlPlaneVerificationResult)
    (scenarios : List FailureScenarioResult) :
    ConfigurationApplicationStatus × ConfigurationFailureCode :=
  let evidence := observed ++ behavior ++ failover
  if scenarios.any fun item => item.status = .failed ∧ item.failureCode = .cleanupFailed then
    (.failed, .cleanupFailed)
  else if actions.any (·.status = .failed) then (.failed, .applicationFailed)
  else
    match scenarios.find? (·.status = .failed) with
    | some scenario => (.failed, scenario.failureCode)
    | none =>
      if evidence.any (·.status = .failed) then (.partial_, .verificationFailed)
      else if (actions.any (·.status ∈ incomplete)) ∨ (evidence.any (·.status ∈ incomplete)) ∨
          scenarios.any (·.status ∈ incomplete) then (.partial_, .none)
      else if evidence ≠ [] ∨ scenarios ≠ [] then (.verified, .none)
      else if actions ≠ [] then (.applied, .none)
      else (.skipped, .none)

/-- The results that a report is composed from. -/
structure ControlPlaneOutcome where
  actionResults : List ActionApplicationResult
  observedResults : List ControlPlaneVerificationResult
  behaviorResults : List ControlPlaneVerificationResult
  failoverResults : List ControlPlaneVerificationResult
  scenarioResults : List FailureScenarioResult

/-- The report of `apply` for an accepted plan. -/
def applicationResult (plan : ControlPlanePlan) (request : ControlPlaneRequest)
    (mutationIds : List String) (outcome : ControlPlaneOutcome) :
    Except RaisedError ControlPlaneApplicationResult := do
  let (status, failureCode) := overall outcome.actionResults outcome.observedResults
    outcome.behaviorResults outcome.failoverResults outcome.scenarioResults
  let journal ← (journalFromActionResults plan.id request.deploymentId plan.actions
    (outcome.actionResults.filter (·.actionId ∈ mutationIds))).mapError RaisedError.journalError
  let journal := recordScenarioRestore journal outcome.scenarioResults
  let planIds := plan.actions.map ControlPlaneAction.id
  return {
    controlPlanePlanId := plan.id
    controlPlaneSemanticHash := plan.semanticHash
    sourceTopologyHash := plan.sourceTopologyHash
    sourceConfigurationHash := plan.sourceConfigurationHash
    sourceSecurityHash := plan.sourceSecurityHash
    runtimeContext := request.runtimeContext
    status := status
    failureCode := failureCode
    configuredStatus := .compiled
    appliedStatus :=
      aggregate (outcome.actionResults.map ActionApplicationResult.status) .applied
    observedStatus :=
      aggregate (outcome.observedResults.map ControlPlaneVerificationResult.status) .verified
    behaviorStatus :=
      aggregate (outcome.behaviorResults.map ControlPlaneVerificationResult.status) .verified
    failoverStatus :=
      aggregate (outcome.failoverResults.map ControlPlaneVerificationResult.status ++
        outcome.scenarioResults.map FailureScenarioResult.status) .verified
    actionResults := outcome.actionResults
    mutationActionIds := planIds.filter (· ∈ mutationIds)
    retainedActionIds := planIds.filter (· ∉ mutationIds)
    observedResults := outcome.observedResults
    behaviorResults := outcome.behaviorResults
    failoverResults := outcome.failoverResults
    scenarioResults := outcome.scenarioResults
    deploymentId := request.deploymentId
    executionJournal := some journal
    dirtyState := journal.dirtyState }

/-- The verification of an accepted plan: the stages, then the scenarios. -/
def verifyPrepared (context : VerificationContext)
    (inventory : Dict String RuntimeConfigurationTarget)
    (actionResults : List ActionApplicationResult) : ApplyingControlPlane ControlPlaneOutcome := do
  let observed ← applicator.verifyStage context observedKinds .observed .empty
  let behavior ← applicator.verifyStage context behaviorKinds .behavior observed.statuses
  let failover := unboundFailoverResults context behavior.statuses
  let scenarios ← applicator.executeScenarios context inventory failover.statuses
  return {
    actionResults := actionResults
    observedResults := observed.results
    behaviorResults := behavior.results
    failoverResults := failover.results
    scenarioResults := scenarios }

/-- What the verification reads after the actions were applied. -/
def verificationContext (request : ControlPlaneRequest) (prepared : PreparedControlPlane)
    (actionResults : List ActionApplicationResult) : VerificationContext :=
  { plan := prepared.plan
    profiles := prepared.profiles
    actionStatuses := Dict.ofList (actionResults.map fun item => (item.actionId, item.status))
    resourceStatuses := request.foundationalStatuses }

/-- `apply` after an accepted preflight. -/
def applyPrepared (plan : ControlPlanePlan) (request : ControlPlaneRequest)
    (prepared : PreparedControlPlane) : ApplyingControlPlane ControlPlaneApplicationResult := do
  let actionResults ← applicator.applyActions prepared.plan prepared.profiles prepared.scope
  let outcome ← applicator.verifyPrepared (verificationContext request prepared actionResults)
    prepared.inventory actionResults
  Interaction.ofExcept (applicationResult plan request prepared.scope.mutationIds outcome)

/-- `apply`. -/
def apply (plan : ControlPlanePlan) (request : ControlPlaneRequest) :
    ApplyingControlPlane ControlPlaneApplicationResult := do
  match ← applicator.preflight plan request with
  | .error refusal => Interaction.ofExcept (preflightFailure plan request refusal)
  | .ok prepared => applicator.applyPrepared plan request prepared

end ControlPlaneApplicator

end PacketTracer
