import PacketTracer.Application.ApplyConfiguration
import PacketTracer.Domain.SecurityPlan

/-!
# Applying a security plan

`apply_security.py`: preflight; then the baselines of deny controls are measured, the actions are
dispatched phase by phase, the expectations are verified stage by stage, an optional cleanup undoes
the actions, and the report is composed from the results.  Evidence records are left out.
-/

namespace PacketTracer

open Dicts Interactions PyText

/-! ## The runtime and its history -/

/-- One exchange with the runtime: what it was asked and what it answered or raised. -/
inductive SecurityEvent
  | inventory (answer : Except String (List RuntimeConfigurationTarget))
  | applyActions (actions : List SecurityAction)
      (answer : Except String (List RuntimeActionMutation))
  | observe (expectations : List SecurityVerificationExpectation)
      (answer : Except String (List RuntimeSecurityVerification))
  | verifyBehavior (expectations : List SecurityVerificationExpectation)
      (stage : SecurityVerificationStage)
      (answer : Except String (List RuntimeSecurityVerification))
  | cleanupActions (actions : List SecurityAction)
      (answer : Except String (List RuntimeActionMutation))

/-- `SecurityRuntime`: the answers of a runtime after a given history. -/
structure SecurityRuntime where
  inventory : List SecurityEvent → Except String (List RuntimeConfigurationTarget)
  applyActions : List SecurityEvent → List SecurityAction →
    Except String (List RuntimeActionMutation)
  observe : List SecurityEvent → List SecurityVerificationExpectation →
    Except String (List RuntimeSecurityVerification)
  verifyBehavior : List SecurityEvent → List SecurityVerificationExpectation →
    SecurityVerificationStage → Except String (List RuntimeSecurityVerification)
  cleanupActions : List SecurityEvent → List SecurityAction →
    Except String (List RuntimeActionMutation)

/-- A computation of the applicator. -/
abbrev ApplyingSecurity (α : Type) : Type := Interaction SecurityEvent RaisedError α

/-- The keyword arguments of `apply`. -/
structure SecurityApplyRequest where
  actualSourceTopologyHash : String
  actualSourceConfigurationHash : String
  foundationalStatuses : StatusMap
  actualSourceServiceHash : String := ""
  actualSourceVoiceHash : String := ""
  capabilities : Dict String SecurityCapabilityProfile := .empty
  runtimeContext : ConfigurationRuntimeContext := {}
  cleanupControl : Bool := false
  deploymentManifest : Option DeploymentManifest := none

/-- The deployment identifier that results carry. -/
def SecurityApplyRequest.deploymentId (request : SecurityApplyRequest) : String :=
  (request.deploymentManifest.map DeploymentManifest.deploymentId).getD ""

/-- `SecurityApplicator`.  Besides its runtime it takes two functions of the libraries as
parameters: the digest of an environment fingerprint and `str.casefold`. -/
structure SecurityApplicator where
  runtime : SecurityRuntime
  semanticHash : EnvironmentFingerprint → String
  casefold : String → String

namespace SecurityApplicator

/-! ## Checks on the plan -/

/-- `_source_mismatch`. -/
def sourceMismatch (plan : SecurityPlan) (request : SecurityApplyRequest) : Option Refusal :=
  if request.actualSourceTopologyHash ≠ plan.sourceTopologyHash then
    some ⟨.sourceConfigurationMismatch,
      ["SecurityPlan source hash does not match deployed E4."]⟩
  else if request.actualSourceConfigurationHash ≠ plan.sourceConfigurationHash then
    some ⟨.sourceConfigurationMismatch, ["SecurityPlan source hash does not match applied E5."]⟩
  else if plan.sourceServiceHash ≠ "" ∧
      request.actualSourceServiceHash ≠ plan.sourceServiceHash then
    some ⟨.sourceConfigurationMismatch, ["SecurityPlan source hash does not match applied E6."]⟩
  else if plan.sourceVoiceHash ≠ "" ∧
      request.actualSourceVoiceHash ≠ plan.sourceVoiceHash then
    some ⟨.sourceConfigurationMismatch, ["SecurityPlan source hash does not match applied E7."]⟩
  else none

/-- A prerequisite on an action that only a verification of the plan is called like. -/
def normalizedPrerequisite (verificationIds actionIds : List String)
    (prerequisite : VerificationPrerequisite) : VerificationPrerequisite :=
  if prerequisite.kind = .actionApplied ∧ prerequisite.referenceId ∈ verificationIds ∧
      prerequisite.referenceId ∉ actionIds then
    { prerequisite with kind := .verificationVerified }
  else prerequisite

/-- The prerequisites of an expectation that states none: its action and what it depends on. -/
def impliedPrerequisites (verificationIds : List String)
    (item : SecurityVerificationExpectation) : List VerificationPrerequisite :=
  (sortedBy id ((item.actionId :: item.dependsOn).filter (· ≠ "")).dedup).map fun identifier =>
    { kind := if identifier ∈ verificationIds then .verificationVerified else .actionApplied
      referenceId := identifier }

/-- An expectation with its prerequisites made explicit. -/
def normalizedExpectation (plan : SecurityPlan) (item : SecurityVerificationExpectation) :
    SecurityVerificationExpectation :=
  let verificationIds := plan.verificationExpectations.map SecurityVerificationExpectation.id
  let actionIds := plan.actions.map SecurityAction.id
  { item with
    verificationPrerequisites :=
      if item.verificationPrerequisites ≠ [] then
        item.verificationPrerequisites.map (normalizedPrerequisite verificationIds actionIds)
      else impliedPrerequisites verificationIds item }

/-- `_normalized_verification_plan`. -/
def normalizedVerificationPlan (plan : SecurityPlan) : Except String SecurityPlan := do
  let ordered ← orderVerificationExpectations
    (plan.verificationExpectations.map (normalizedExpectation plan))
  return { plan with verificationExpectations := ordered }

/-- The foundations that are not verified. -/
def missingFoundations (plan : SecurityPlan) (statuses : StatusMap) : List String :=
  sortedBy id ((plan.foundationalRequirements.filter fun item =>
    statuses.get? item.sourceId ≠ some .verified).map SecurityFoundationRequirement.sourceId)

variable (applicator : SecurityApplicator)

/-- The checks of `apply` on the deployment manifest that need no inventory. -/
def manifestPreflight (plan : SecurityPlan) (request : SecurityApplyRequest) :
    Except Refusal Unit :=
  match request.deploymentManifest with
  | some manifest =>
    if manifest.physicalTopologyHash ≠ plan.sourceTopologyHash then
      .error ⟨.targetIdentityMismatch,
        ["DeploymentManifest physical topology hash does not match SecurityPlan."]⟩
    else
      match validateManifestEnvironment applicator.semanticHash manifest
          request.runtimeContext.environmentFingerprint with
      | .error message => .error ⟨.environmentFingerprintMismatch, [message]⟩
      | .ok () => .ok ()
  | none =>
    if requiresDeploymentManifest plan.sourceTopologyHashSchema then
      .error ⟨.deploymentManifestRequired,
        ["SecurityPlan uses physical-topology-v2 identity and requires a " ++
          "DeploymentManifest; name-only runtime fallback is legacy-only."]⟩
    else .ok ()

/-- The checks of `apply` on dependencies and foundations: the plan in the order of
verification. -/
def planPreflight (plan : SecurityPlan) (request : SecurityApplyRequest) :
    Except Refusal SecurityPlan :=
  match orderDependencyActions plan.actions with
  | .error error => .error ⟨.dependencyBlocked, [error.message]⟩
  | .ok ordered =>
    if ordered.map SecurityAction.id ≠ plan.actions.map SecurityAction.id then
      .error ⟨.dependencyBlocked,
        ["SecurityPlan actions are not in deterministic dependency order."]⟩
    else
      match normalizedVerificationPlan plan with
      | .error message => .error ⟨.dependencyBlocked, [message]⟩
      | .ok verificationPlan =>
        let missing := missingFoundations plan request.foundationalStatuses
        if missing ≠ [] then
          .error ⟨.foundationalConfigurationMissing,
            ["Security foundations are not VERIFIED: " ++ String.intercalate ", " missing]⟩
        else .ok verificationPlan

/-- The checks of `apply` before it asks the runtime for anything. -/
def staticPreflight (plan : SecurityPlan) (request : SecurityApplyRequest) :
    Except Refusal SecurityPlan :=
  match sourceMismatch plan request with
  | some refusal => .error refusal
  | none =>
    match applicator.manifestPreflight plan request with
    | .error refusal => .error refusal
    | .ok () => planPreflight plan request

/-! ## The plan for the deployed devices -/

/-- `_semantic_device_ids`. -/
def semanticDeviceIds (plan : SecurityPlan) : List String :=
  sortedBy id ((plan.actions.map SecurityAction.deviceId ++
    plan.verificationExpectations.flatMap fun item =>
      [item.sourceDeviceId, item.destinationDeviceId]).filter (· ≠ "")).dedup

/-- `resolve`, inside `_runtime_plan`. -/
def deployedName (deployedNames : Dict String String) (identifier plannedName label : String) :
    Except String String :=
  if identifier = "" then
    if plannedName ≠ "" then
      .error s!"{label} has a planned runtime name but no semantic device ID."
    else .ok ""
  else
    match deployedNames.get? identifier with
    | some name => .ok name
    | none => .error s!"DeploymentManifest has no resolved target for {quoted identifier}."

/-- The action as it is dispatched. -/
def deployedAction (deployedNames : Dict String String) (item : SecurityAction) :
    Except String SecurityAction := do
  let name ← deployedName deployedNames item.deviceId item.deviceName
    s!"Security action {item.id}"
  return { item with deviceName := name }

/-- The name of one end of an expectation, when it names one. -/
def deployedEnd (deployedNames : Dict String String) (identifier plannedName label : String) :
    Except String String :=
  if identifier ≠ "" ∨ plannedName ≠ "" then
    deployedName deployedNames identifier plannedName label
  else .ok plannedName

/-- The expectation as the runtime is asked about it. -/
def deployedExpectation (deployedNames : Dict String String)
    (item : SecurityVerificationExpectation) : Except String SecurityVerificationExpectation := do
  let source ← deployedEnd deployedNames item.sourceDeviceId item.sourceDeviceName
    s!"Security expectation {item.id} source"
  let destination ← deployedEnd deployedNames item.destinationDeviceId item.destinationDeviceName
    s!"Security expectation {item.id} destination"
  return { item with sourceDeviceName := source, destinationDeviceName := destination }

/-- `_runtime_plan`. -/
def runtimePlan (plan : SecurityPlan) (deployedNames : Dict String String) :
    Except String SecurityPlan := do
  let actions ← plan.actions.mapM (deployedAction deployedNames)
  let expectations ← plan.verificationExpectations.mapM (deployedExpectation deployedNames)
  return { plan with actions := actions, verificationExpectations := expectations }

/-- The plan for the deployed devices: without a manifest, the plan as it is. -/
def resolvedPlan (plan verificationPlan : SecurityPlan) (request : SecurityApplyRequest)
    (inventory : List RuntimeConfigurationTarget) : Except String SecurityPlan :=
  match request.deploymentManifest with
  | none => .ok verificationPlan
  | some manifest => do
    let targets ← resolveManifestTargets manifest plan.sourceTopologyHash
      (semanticDeviceIds plan) inventory
    runtimePlan verificationPlan
      (Dict.ofList (targets.entries.map fun entry => (entry.1, entry.2.deviceName)))

/-! ## Checks on the targets -/

/-- The error about the interface of a `ConfigureEndpointPortSecurity` action. -/
def interfaceErrors (target : RuntimeConfigurationTarget) (action : SecurityAction) :
    List String :=
  match action.detail with
  | .configureEndpointPortSecurity _ _ interface .. =>
    if target.interfaces ≠ [] ∧
        applicator.casefold interface ∉ target.interfaces.map applicator.casefold then
      [s!"Target {action.deviceName} interface {interface} was not found."]
    else []
  | _ => []

/-- The errors of `_validate_targets` about one action. -/
def actionTargetErrors (inventory : Dict String RuntimeConfigurationTarget)
    (action : SecurityAction) : List String :=
  match inventory.get? action.deviceName with
  | none => [s!"Target {action.deviceName} was not found."]
  | some target =>
    (if applicator.casefold target.model ≠ applicator.casefold action.model then
      [s!"Target {action.deviceName} model {target.model} does not match " ++
        s!"{action.model}."]
    else []) ++ applicator.interfaceErrors target action

/-- `_validate_targets`. -/
def targetErrors (plan : SecurityPlan) (inventory : Dict String RuntimeConfigurationTarget) :
    List String :=
  sortedBy id (plan.actions.flatMap (applicator.actionTargetErrors inventory)).dedup

/-- The checks of `apply` on the inventory: the plan for the deployed devices. -/
def inventoryPreflight (plan : SecurityPlan) (request : SecurityApplyRequest)
    (verificationPlan : SecurityPlan)
    (answer : Except String (List RuntimeConfigurationTarget)) : Except Refusal SecurityPlan :=
  match answer with
  | .error message =>
    .error ⟨.sessionFailed, [s!"Security runtime inventory failed: {message}"]⟩
  | .ok items =>
    match resolvedPlan plan verificationPlan request items with
    | .error message => .error ⟨.targetIdentityMismatch, [message]⟩
    | .ok runtimePlan =>
      let errors := applicator.targetErrors runtimePlan
        (Dict.ofList (items.map fun item => (item.deviceName, item)))
      if errors ≠ [] then .error ⟨.targetNotFound, [String.intercalate " " errors]⟩
      else .ok runtimePlan

/-- The preflight of `apply`. -/
def preflight (plan : SecurityPlan) (request : SecurityApplyRequest) :
    ApplyingSecurity (Except Refusal SecurityPlan) :=
  match applicator.staticPreflight plan request with
  | .error refusal => pure (.error refusal)
  | .ok verificationPlan => do
    let answer ← Interaction.exchange applicator.runtime.inventory SecurityEvent.inventory
    return applicator.inventoryPreflight plan request verificationPlan answer

/-- `_failure`. -/
def failure (plan : SecurityPlan) (request : SecurityApplyRequest) (refusal : Refusal)
    (verificationResults : List SecurityVerificationResult := []) :
    Except RaisedError SecurityApplicationResult := do
  let journal ← (journalFromActionResults plan.id request.deploymentId plan.actions []).mapError
    RaisedError.journalError
  let journal := refusal.messages.foldl ApplicationExecutionJournal.markPreflightFailure journal
  return {
    securityPlanId := plan.id
    securitySemanticHash := plan.semanticHash
    sourceTopologyHash := plan.sourceTopologyHash
    sourceConfigurationHash := plan.sourceConfigurationHash
    sourceServiceHash := plan.sourceServiceHash
    sourceVoiceHash := plan.sourceVoiceHash
    runtimeContext := request.runtimeContext
    status := .failed
    failureCode := refusal.code
    verificationResults := verificationResults
    preflightErrors := refusal.messages
    deploymentId := request.deploymentId
    executionJournal := some journal
    dirtyState := journal.dirtyState }

/-- The support for a dimension on a model. -/
def capabilityStatus (profiles : Dict String SecurityCapabilityProfile) (model : String)
    (dimension : SecurityCapabilityDimension) : SecurityCapabilityStatus :=
  match profiles.get? model with
  | some profile => profile.status dimension
  | none => .unknown

/-- Whether a capability allows what needs it. -/
def runnable (status : SecurityCapabilityStatus) : Bool :=
  status = .supported || status = .partial_

/-! ## Dispatch -/

/-- The results of the actions so far. -/
abbrev ResultMap := Dict String ActionApplicationResult

/-- The result of an action whose capability is not runnable. -/
def skippedResult (profiles : Dict String SecurityCapabilityProfile) (action : SecurityAction) :
    ActionApplicationResult :=
  let support := capabilityStatus profiles action.model action.requiredCapability
  { actionId := action.id
    status := .skipped
    failureCode :=
      if support = .unsupported then .capabilityUnsupported else .capabilityUnknown
    message := s!"{action.model}:{action.requiredCapability.value} is {support.value}."
    operation := action.operation
    disposition := .skipped }

/-- The results of the loop over the capabilities. -/
def skippedResults (plan : SecurityPlan) (profiles : Dict String SecurityCapabilityProfile) :
    ResultMap :=
  Dict.ofList ((plan.actions.filter fun action =>
    !runnable (capabilityStatus profiles action.model action.requiredCapability)).map fun action =>
      (action.id, skippedResult profiles action))

/-- Whether a dependency has a result that satisfies it. -/
def satisfied (results : ResultMap) (dependency : String) : Bool :=
  (results.get? dependency).any fun result => satisfiesApplyDependency result.status

/-- An action is blocked by its unsatisfied dependencies. -/
def blockAction (results : ResultMap) (action : SecurityAction) : ResultMap :=
  let blocked := action.dependsOn.filter fun dependency => !satisfied results dependency
  results.set action.id
    { actionId := action.id
      status := .dependencyBlocked
      failureCode := .dependencyBlocked
      message := "Blocked by: " ++ String.intercalate ", " (sortedBy id blocked)
      operation := action.operation
      disposition := .blocked }

/-- The mutations by action; an exception is a failure of all. -/
def mutationsOf (actions : List SecurityAction) (failureCode : ConfigurationFailureCode)
    (answer : Except String (List RuntimeActionMutation)) : Dict String RuntimeActionMutation :=
  match answer with
  | .ok mutations => Dict.ofList (mutations.map fun item => (item.actionId, item))
  | .error message => Dict.ofList (actions.map fun action =>
      (action.id,
        { actionId := action.id
          applied := false
          failureCode := failureCode
          message := message }))

/-- The result of one dispatched action. -/
def dispatchResult (action : SecurityAction) :
    Option RuntimeActionMutation → ActionApplicationResult
  | none =>
    { actionId := action.id
      status := .failed
      failureCode := .securityApplicationFailed
      message := "Runtime returned no mutation."
      operation := action.operation }
  | some mutation =>
    { actionId := action.id
      status := mutationExecutionStatus mutation
      failureCode := if mutation.applied then .none else mutation.failureCode
      message := mutation.message
      batchId := mutation.batchId
      operation := action.operation
      disposition := mutation.disposition }

/-- The actions of a batch get their results. -/
def settle (batch : List SecurityAction) (answer : Except String (List RuntimeActionMutation))
    (results : ResultMap) : ResultMap :=
  batch.foldl (fun results action => results.set action.id
    (dispatchResult action ((mutationsOf batch .sessionFailed answer).get? action.id))) results

/-- The loop over the pending actions of a phase.  Every iteration but the last takes some of them,
so that as many iterations as there are actions suffice. -/
def pendingLoop : ℕ → List SecurityAction → ResultMap → ApplyingSecurity ResultMap
  | 0, _, results => pure results
  | fuel + 1, pending, results =>
    if pending = [] then pure results
    else
      match pending.filter fun action => action.dependsOn.all (satisfied results) with
      | [] => pure (pending.foldl blockAction results)
      | first :: others => do
        let ready := first :: others
        let answer ← Interaction.exchange
          (fun trace => applicator.runtime.applyActions trace ready)
          (SecurityEvent.applyActions ready)
        pendingLoop fuel (pending.filter (· ∉ ready)) (settle ready answer results)

/-- The actions of a phase that have no result yet. -/
def phasePending (plan : SecurityPlan) (results : ResultMap) (phase : SecurityPhase) :
    List SecurityAction :=
  plan.actions.filter fun item => item.phase = phase && !results.contains item.id

/-- `_apply_actions`. -/
def applyActions (plan : SecurityPlan) (profiles : Dict String SecurityCapabilityProfile) :
    ApplyingSecurity (List ActionApplicationResult) := do
  let results ← Interaction.loop
    (fun results phase => applicator.pendingLoop plan.actions.length
      (phasePending plan results phase) results)
    (skippedResults plan profiles)
    (sortedBy SecurityPhase.value (plan.actions.map SecurityAction.phase).dedup)
  Interaction.ofExcept (subscripts results (plan.actions.map SecurityAction.id))

/-! ## Verification -/

/-- What a stage of verification reads besides the statuses it establishes. -/
structure StageContext where
  plan : SecurityPlan
  profiles : Dict String SecurityCapabilityProfile
  stage : SecurityVerificationStage
  actionStatuses : StatusMap
  resourceStatuses : StatusMap
  ignoreActionPrerequisites : Bool := false

namespace StageContext

variable (context : StageContext)

/-- The prerequisites that the stage considers. -/
def prerequisitesOf (expectation : SecurityVerificationExpectation) :
    List VerificationPrerequisite :=
  if context.ignoreActionPrerequisites then
    expectation.verificationPrerequisites.filter fun item =>
      item.kind ≠ .actionApplied && item.kind ≠ .actionVerified
  else expectation.verificationPrerequisites

/-- The prerequisites of an expectation under the statuses established so far. -/
def prerequisites (statuses : StatusMap) (expectation : SecurityVerificationExpectation) :
    Bool × List String :=
  prerequisitesSatisfied (context.prerequisitesOf expectation) context.actionStatuses statuses
    context.resourceStatuses

/-- The action that an expectation is about. -/
def actionOf (expectation : SecurityVerificationExpectation) : Option SecurityAction :=
  (Dict.ofList (context.plan.actions.map fun item => (item.id, item))).get? expectation.actionId

/-- The support for what an expectation is verified by. -/
def support (expectation : SecurityVerificationExpectation) : SecurityCapabilityStatus :=
  match context.actionOf expectation with
  | some action => capabilityStatus context.profiles action.model
      (securityVerificationCapability expectation (some action))
  | none => .unknown

/-- The text about an expectation that cannot be verified. -/
def unsupportedMessage (expectation : SecurityVerificationExpectation) : String :=
  let dimension := securityVerificationCapability expectation (context.actionOf expectation)
  (((context.actionOf expectation).map SecurityAction.model).getD "unknown") ++
    s!":{dimension.value} is {(context.support expectation).value}."

/-- The evidence that the stage has without asking the runtime. -/
def gated (statuses : StatusMap) (expectation : SecurityVerificationExpectation) :
    Option RuntimeSecurityVerification :=
  let (satisfied, blocked) := context.prerequisites statuses expectation
  if satisfied = false then
    some
      { expectationId := expectation.id
        stage := context.stage
        status := .dependencyBlocked
        evidenceMethod := "verification_prerequisite_gate"
        fields := Dict.ofList [("prerequisites", .unobservable)]
        message := "Blocked by: " ++ String.intercalate ", " blocked }
  else if runnable (context.support expectation) = false then
    some
      { expectationId := expectation.id
        stage := context.stage
        status := .unobservable
        evidenceMethod := "security_capability_gate"
        fields := Dict.ofList [("capability", .unobservable)]
        message := context.unsupportedMessage expectation }
  else none

end StageContext

/-- The evidence that an answer of the runtime is: `_safe_observe` or `_safe_behavior`, and
`_complete_observations`. -/
def observedVerification (expectation : SecurityVerificationExpectation)
    (stage : SecurityVerificationStage) :
    Except String (List RuntimeSecurityVerification) → RuntimeSecurityVerification
  | .ok observed =>
    ((Dict.ofList (observed.map fun item => (item.expectationId, item))).get?
      expectation.id).getD
        { expectationId := expectation.id
          stage := stage
          status := .unknown
          message := "Runtime returned no verification result." }
  | .error message =>
    { expectationId := expectation.id
      stage := stage
      status := .failed
      message := message }

/-- The question about one expectation: the direct state is observed, all else is probed. -/
def askRuntime (stage : SecurityVerificationStage)
    (expectation : SecurityVerificationExpectation) :
    ApplyingSecurity (Except String (List RuntimeSecurityVerification)) :=
  if stage = .directState then
    Interaction.exchange (fun trace => applicator.runtime.observe trace [expectation])
      (SecurityEvent.observe [expectation])
  else
    Interaction.exchange (fun trace => applicator.runtime.verifyBehavior trace [expectation] stage)
      (SecurityEvent.verifyBehavior [expectation] stage)

/-- The observations of a stage so far, and the statuses of verifications they extend. -/
structure StageScan where
  observed : List RuntimeSecurityVerification := []
  statuses : StatusMap

/-- One more observation. -/
def StageScan.add (scan : StageScan) (expectation : SecurityVerificationExpectation)
    (item : RuntimeSecurityVerification) : StageScan :=
  { observed := scan.observed ++ [item]
    statuses := scan.statuses.set expectation.id item.status }

/-- One iteration of `_run_verification_stage`. -/
def verifyExpectation (context : StageContext) (scan : StageScan)
    (expectation : SecurityVerificationExpectation) : ApplyingSecurity StageScan :=
  match context.gated scan.statuses expectation with
  | some item => pure (scan.add expectation item)
  | none => do
    let answer ← applicator.askRuntime context.stage expectation
    return scan.add expectation (observedVerification expectation context.stage answer)

/-- `_run_verification_stage`; the statuses include those of the observations. -/
def runStage (context : StageContext) (expectations : List SecurityVerificationExpectation)
    (statuses : StatusMap) : ApplyingSecurity StageScan :=
  Interaction.loop (applicator.verifyExpectation context) { statuses := statuses } expectations

/-- The results of the expectations, by expectation. -/
abbrev VerificationMap := Dict String SecurityVerificationResult

/-- One iteration of `_merge_verification`. -/
def mergeItem (results : VerificationMap) (item : RuntimeSecurityVerification) : VerificationMap :=
  match results.get? item.expectationId with
  | some result => results.set item.expectationId (result.merge item)
  | none => results

/-- `_merge_verification`. -/
def mergeVerification (results : VerificationMap) (observed : List RuntimeSecurityVerification) :
    VerificationMap :=
  observed.foldl mergeItem results

/-- The results before anything is observed. -/
def initialVerification (plan : SecurityPlan) : VerificationMap :=
  Dict.ofList (plan.verificationExpectations.map fun item =>
    (item.id,
      { expectationId := item.id, actionId := item.actionId, policyId := item.policyId }))

/-- The expectations of deny controls that need a working baseline. -/
def baselineExpectations (plan : SecurityPlan) : List SecurityVerificationExpectation :=
  plan.verificationExpectations.filter fun item =>
    item.kind = .trafficPolicy && item.baselineRequired

/-- The expectations that are read back. -/
def directExpectations (plan : SecurityPlan) : List SecurityVerificationExpectation :=
  plan.verificationExpectations.filter (·.probeKind = .directReadback)

/-- The expectations that are probed. -/
def behaviorExpectations (plan : SecurityPlan) : List SecurityVerificationExpectation :=
  plan.verificationExpectations.filter (·.probeKind ≠ .directReadback)

/-! ## Cleanup -/

/-- The result of undoing one action. -/
def cleanupResult (action : SecurityAction) :
    Option RuntimeActionMutation → ActionApplicationResult
  | none =>
    { actionId := action.id
      status := .failed
      failureCode := .securityCleanupFailed
      message := "No cleanup result."
      operation := action.operation }
  | some mutation =>
    { actionId := action.id
      status := mutationExecutionStatus mutation
      failureCode := if mutation.applied then .none else .securityCleanupFailed
      message := mutation.message
      batchId := mutation.batchId
      operation := action.operation
      disposition := mutation.disposition }

/-- The applied actions, the last one first. -/
def cleanupActions (plan : SecurityPlan) (results : List ActionApplicationResult) :
    List SecurityAction :=
  let applied := (results.filter (satisfiesApplyDependency ·.status)).map
    ActionApplicationResult.actionId
  plan.actions.reverse.filter (·.id ∈ applied)

/-- `_cleanup`. -/
def cleanup (plan : SecurityPlan) (results : List ActionApplicationResult) :
    ApplyingSecurity (List ActionApplicationResult) := do
  let actions := cleanupActions plan results
  let answer ← Interaction.exchange (fun trace => applicator.runtime.cleanupActions trace actions)
    (SecurityEvent.cleanupActions actions)
  return actions.map fun action =>
    cleanupResult action ((mutationsOf actions .securityCleanupFailed answer).get? action.id)

/-! ## The report -/

/-- `_overall`. -/
def overall (actions : List ActionApplicationResult)
    (verification : List SecurityVerificationResult) (cleanup : List ActionApplicationResult)
    (cleanupControl : Bool) : ConfigurationApplicationStatus × ConfigurationFailureCode :=
  let direct := (verification.map SecurityVerificationResult.directStatus).filter (· ≠ .skipped)
  if actions.any (·.status = .failed) then (.failed, .securityApplicationFailed)
  else if cleanupControl ∧ cleanup.any fun item => !satisfiesApplyDependency item.status then
    (.failed, .securityCleanupFailed)
  else if verification.any fun item =>
      item.enforcementStatus = .failed ∨ item.enforcementStatus = .unknown then
    (.failed, .securityEnforcementFailed)
  else if cleanupControl ∧ verification.any fun item =>
      item.cleanupStatus ≠ .skipped ∧ item.cleanupStatus ≠ .verified then
    (.failed, .securityCleanupFailed)
  else if direct.any (· = .failed) then (.failed, .securityDirectReadbackFailed)
  else if actions.any fun item => item.status = .skipped ∨ item.status = .dependencyBlocked then
    (.partial_, .none)
  else if verification.any fun item =>
      item.enforcementStatus = .unobservable ∨ item.enforcementStatus = .partial_ then
    (.partial_, .securityBehaviorUnobservable)
  else if direct.any fun item => item = .unknown ∨ item = .unobservable ∨ item = .partial_ then
    (.partial_, .directReadbackUnobservable)
  else if verification ≠ [] then (.verified, .none)
  else if actions ≠ [] then (.applied, .none)
  else (.skipped, .none)

/-- What the run has found when the report is composed. -/
structure SecurityOutcome where
  actionResults : List ActionApplicationResult
  verification : VerificationMap
  cleanupResults : List ActionApplicationResult := []

/-- The verdict that the cleanup leaves in the journal. -/
def cleanupVerdict (plan : SecurityPlan) (outcome : SecurityOutcome) : CompensationStatus :=
  let applied := (outcome.actionResults.filter (satisfiesApplyDependency ·.status)).map
    ActionApplicationResult.actionId
  let cleanupApplied := outcome.cleanupResults ≠ [] ∧
    outcome.cleanupResults.all (satisfiesApplyDependency ·.status)
  let recovery := (plan.verificationExpectations.filter fun item =>
    item.cleanupRecoveryRequired ∧ item.actionId ∈ applied).filterMap fun item =>
      outcome.verification.get? item.id
  if cleanupApplied ∧ recovery.all (·.cleanupStatus = .verified) then .succeeded
  else if cleanupApplied then .unknown
  else if outcome.cleanupResults.any (·.disposition = .unknown) then .unknown
  else .failed

/-- The report of `apply` for an accepted plan. -/
def applicationResult (plan : SecurityPlan) (request : SecurityApplyRequest)
    (runtimePlan : SecurityPlan) (outcome : SecurityOutcome) :
    Except RaisedError SecurityApplicationResult := do
  let results ← subscripts outcome.verification
    (plan.verificationExpectations.map SecurityVerificationExpectation.id)
  let (status, failureCode) :=
    overall outcome.actionResults results outcome.cleanupResults request.cleanupControl
  let journal ← (journalFromActionResults plan.id request.deploymentId plan.actions
    outcome.actionResults).mapError RaisedError.journalError
  let mutated := outcome.actionResults.any (satisfiesApplyDependency ·.status)
  let journal :=
    if request.cleanupControl ∧ mutated then
      journal.markCleanup (cleanupVerdict runtimePlan outcome)
    else journal
  return {
    securityPlanId := plan.id
    securitySemanticHash := plan.semanticHash
    sourceTopologyHash := plan.sourceTopologyHash
    sourceConfigurationHash := plan.sourceConfigurationHash
    sourceServiceHash := plan.sourceServiceHash
    sourceVoiceHash := plan.sourceVoiceHash
    runtimeContext := request.runtimeContext
    status := status
    failureCode := failureCode
    actionResults := outcome.actionResults
    verificationResults := results
    cleanupResults := outcome.cleanupResults
    deploymentId := request.deploymentId
    executionJournal := some journal
    dirtyState := journal.dirtyState }

/-! ## The run -/

/-- The stage in which the baselines of deny controls are measured, before any action. -/
def baselineContext (plan : SecurityPlan) (request : SecurityApplyRequest) : StageContext :=
  { plan := plan
    profiles := request.capabilities
    stage := .baseline
    actionStatuses := .empty
    resourceStatuses := request.foundationalStatuses
    ignoreActionPrerequisites := true }

/-- A stage after the actions were applied. -/
def stageContext (plan : SecurityPlan) (request : SecurityApplyRequest)
    (results : List ActionApplicationResult) (stage : SecurityVerificationStage) : StageContext :=
  { plan := plan
    profiles := request.capabilities
    stage := stage
    actionStatuses := Dict.ofList (results.map fun item => (item.actionId, item.status))
    resourceStatuses := request.foundationalStatuses }

/-- The stages after the actions were applied, without the cleanup: the results, and the statuses
of verifications. -/
def verifyApplied (plan : SecurityPlan) (request : SecurityApplyRequest)
    (results : List ActionApplicationResult) (verification : VerificationMap) :
    ApplyingSecurity (VerificationMap × StatusMap) := do
  let direct ← applicator.runStage (stageContext plan request results .directState)
    (directExpectations plan) .empty
  let behavior ← applicator.runStage (stageContext plan request results .enforcementBehavior)
    (behaviorExpectations plan) direct.statuses
  return (mergeVerification (mergeVerification verification direct.observed) behavior.observed,
    behavior.statuses)

/-- The optional cleanup, and the probes of what it must restore. -/
def cleanupApplied (plan : SecurityPlan) (request : SecurityApplyRequest)
    (results : List ActionApplicationResult) (verification : VerificationMap)
    (statuses : StatusMap) : ApplyingSecurity SecurityOutcome := do
  if request.cleanupControl then
    let cleanupResults ← applicator.cleanup plan results
    let recovery := (behaviorExpectations plan).filter (·.cleanupRecoveryRequired)
    if recovery ≠ [] ∧ cleanupResults.all (satisfiesApplyDependency ·.status) then
      let observed ← applicator.runStage (stageContext plan request results .cleanupRecovery)
        recovery statuses
      return {
        actionResults := results
        verification := mergeVerification verification observed.observed
        cleanupResults := cleanupResults }
    else
      return {
        actionResults := results
        verification := verification
        cleanupResults := cleanupResults }
  else return { actionResults := results, verification := verification }

/-- `apply` after the baselines were verified. -/
def applyVerified (plan : SecurityPlan) (request : SecurityApplyRequest)
    (runtimePlan : SecurityPlan) (verification : VerificationMap) :
    ApplyingSecurity SecurityApplicationResult := do
  let results ← applicator.applyActions runtimePlan request.capabilities
  let verified ← applicator.verifyApplied runtimePlan request results verification
  let outcome ← applicator.cleanupApplied runtimePlan request results verified.1 verified.2
  Interaction.ofExcept (applicationResult plan request runtimePlan outcome)

/-- `apply` after an accepted preflight. -/
def applyPrepared (plan : SecurityPlan) (request : SecurityApplyRequest)
    (runtimePlan : SecurityPlan) : ApplyingSecurity SecurityApplicationResult := do
  let baseline ← applicator.runStage (baselineContext runtimePlan request)
    (baselineExpectations runtimePlan) .empty
  let verification := mergeVerification (initialVerification runtimePlan) baseline.observed
  if baseline.observed.any (·.status ≠ .verified) then
    Interaction.ofExcept (failure plan request
      ⟨.securityBaselineFailed,
        ["A deny control had no verified working baseline; no policy was mutated."]⟩
      verification.values)
  else applicator.applyVerified plan request runtimePlan verification

/-- `apply`. -/
def apply (plan : SecurityPlan) (request : SecurityApplyRequest) :
    ApplyingSecurity SecurityApplicationResult := do
  match ← applicator.preflight plan request with
  | .error refusal => Interaction.ofExcept (failure plan request refusal)
  | .ok runtimePlan => applicator.applyPrepared plan request runtimePlan

end SecurityApplicator

end PacketTracer
