import PacketTracer.Domain.Configuration
import PacketTracer.Library.Interaction

/-!
# Applying a configuration plan

`apply_configuration.py`: the checks before anything is dispatched, dispatch of the actions phase by
phase, and verification.  Access ports with a Voice VLAN are first prepared without it; the Voice
VLAN is signalled by a second dispatch, either at the end of `apply` or in
`complete_deferred_voice_signals`.

The runtime is an environment: each of its answers is an arbitrary function of everything that
happened before, and may be an exception.  Sets of identifiers are lists; dictionaries keep the
order of insertion.
-/

namespace PacketTracer

open Dicts Interactions PyText

/-! ## The runtime and its history -/

/-- One exchange with the runtime: what it was asked and what it answered or raised. -/
inductive RuntimeEvent
  | inventory (answer : Except String (List RuntimeConfigurationTarget))
  | applyActions (actions : List ConfigurationAction)
      (answer : Except String (List RuntimeActionMutation))
  | verify (expectations : List VerificationExpectation)
      (answer : Except String (List RuntimeVerification))
  | waitForVoiceAccessForwarding (expectations : List VerificationExpectation)
      (answer : Except String (List RuntimeVerification))

/-- `ConfigurationRuntime`: the answers of a runtime after a given history.  A runtime without
`wait_for_voice_access_forwarding` raises there. -/
structure ConfigurationRuntime where
  inventory : List RuntimeEvent → Except String (List RuntimeConfigurationTarget)
  applyActions : List RuntimeEvent → List ConfigurationAction →
    Except String (List RuntimeActionMutation)
  verify : List RuntimeEvent → List VerificationExpectation →
    Except String (List RuntimeVerification)
  waitForVoiceAccessForwarding : List RuntimeEvent → List VerificationExpectation →
    Except String (List RuntimeVerification)

/-- An exception that leaves the applicator. -/
inductive RaisedError
  | keyError (key : String)
  | observerError (message : String)
  | journalError (message : String)
  deriving DecidableEq

/-- A computation of the applicator. -/
abbrev Applying (α : Type) : Type := Interaction RuntimeEvent RaisedError α

/-- `dictionary[key]`. -/
def subscript {ν : Type} (d : Dict String ν) (key : String) : Except RaisedError ν :=
  match d.get? key with
  | some v => .ok v
  | none => .error (.keyError key)

/-- `[dictionary[key] for key in keys]`. -/
def subscripts {ν : Type} (d : Dict String ν) (keys : List String) : Except RaisedError (List ν) :=
  keys.mapM (subscript d)

/-- Call an observer, when there is one. -/
def observe (call : Option (List RuntimeEvent → Except String Unit)) : Applying Unit :=
  match call with
  | none => pure ()
  | some call => Interaction.callback fun trace => (call trace).mapError .observerError

/-- `DeviceCapabilities`, as the capabilities that a profile states. -/
abbrev DeviceCapabilities : Type := Dict String CapabilityStatus

/-- The keyword arguments of `apply`. -/
structure ApplyRequest where
  actualSourceTopologyHash : String
  capabilities : Dict String DeviceCapabilities := .empty
  runtimeContext : ConfigurationRuntimeContext := {}
  deploymentManifest : Option DeploymentManifest := none
  deferVoiceSignalUntilBootstrap : Bool := false
  mutationActionIds : Option (List String) := none
  retainedActionResults : List ActionApplicationResult := []
  retainedDeferredVoiceActionIds : List String := []
  phaseObserver : Option (List RuntimeEvent → ℤ → List String → Except String Unit) := none

/-- The deployment identifier that results carry. -/
def ApplyRequest.deploymentId (request : ApplyRequest) : String :=
  (request.deploymentManifest.map DeploymentManifest.deploymentId).getD ""

/-- `ConfigurationApplicator`.  Besides its runtime it takes two functions of the libraries as
parameters: the digest of an environment fingerprint and `str.casefold`. -/
structure ConfigurationApplicator where
  runtime : ConfigurationRuntime
  semanticHash : EnvironmentFingerprint → String
  casefold : String → String

/-! ## Preflight -/

/-- The failure code and the messages of a refused preflight. -/
structure Refusal where
  code : ConfigurationFailureCode
  messages : List String
  deriving DecidableEq

/-- What `_mutation_scope` returns. -/
structure MutationScope where
  mutationIds : List String
  retained : Dict String ActionApplicationResult
  errors : List String

/-- An error message that lists identifiers, absent when there are none. -/
def listingError (text : String) (identifiers : List String) : List String :=
  if identifiers = [] then [] else [text ++ String.intercalate ", " identifiers]

lemma listingError_eq_nil {text : String} {identifiers : List String} :
    listingError text identifiers = [] ↔ identifiers = [] := by
  unfold listingError
  split <;> simp_all

/-- What the checks of a mutation scope say about the retained results: they are those of the
planned actions that are not mutated, and none is invalid. -/
lemma retained_of_checks {planIds mutationIds : List String}
    {results : List ActionApplicationResult} {invalid : String → Option String}
    {retainedById : Dict String ActionApplicationResult}
    (hretained : retainedById = Dict.ofList (results.map fun item => (item.actionId, item)))
    (hmissing : ((planIds.filter (· ∉ mutationIds)).filter
      fun i => !retainedById.contains i) = [])
    (hextra : retainedById.keys.filter (· ∉ planIds.filter (· ∉ mutationIds)) = [])
    (hinvalid : (planIds.filter (· ∉ mutationIds)).filterMap invalid = []) :
    (∀ identifier result, retainedById.get? identifier = some result → result ∈ results ∧
      result.actionId = identifier ∧ identifier ∈ planIds ∧ identifier ∉ mutationIds ∧
      invalid identifier = none) ∧
    ∀ identifier ∈ planIds, identifier ∉ mutationIds →
      identifier ∈ planIds.filter (· ∉ mutationIds) ∧
        (retainedById.get? identifier).isSome := by
  constructor
  · intro identifier result hget
    have hkey := Dict.isSome_get?_iff_mem_keys.mp (Option.isSome_iff_exists.mpr ⟨result, hget⟩)
    have hexpected := List.filter_eq_nil_iff.mp hextra identifier hkey
    rw [decide_eq_true_eq, not_not] at hexpected
    obtain ⟨item, hitem, rfl, rfl⟩ := Dict.exists_of_get?_ofList (hretained ▸ hget)
    obtain ⟨hid, hmutation⟩ := List.mem_filter.mp hexpected
    exact ⟨hitem, rfl, hid, of_decide_eq_true hmutation,
      List.filterMap_eq_nil_iff.mp hinvalid _ hexpected⟩
  · intro identifier hid hmutation
    have hexpected : identifier ∈ planIds.filter (· ∉ mutationIds) :=
      List.mem_filter.mpr ⟨hid, decide_eq_true hmutation⟩
    have hcontains := List.filter_eq_nil_iff.mp hmissing identifier hexpected
    exact ⟨hexpected, by simpa [Dict.contains, Option.isSome_iff_ne_none] using hcontains⟩

/-- The actions of the plan that are to be retained but depend on a mutated one. -/
def reverseDependencies (plan : ConfigurationPlan) (mutationIds expectedRetained : List String) :
    List String :=
  sortedBy id ((plan.actions.filter fun item => item.id ∈ expectedRetained ∧
    (item.dependsOn ++ item.applyDependencies).any (· ∈ mutationIds)).map ConfigurationAction.id)

/-- `_mutation_scope`. -/
def mutationScope (plan : ConfigurationPlan) (mutationActionIds : Option (List String))
    (retainedActionResults : List ActionApplicationResult) : MutationScope :=
  let planIds := (plan.actions.map ConfigurationAction.id).dedup
  match mutationActionIds with
  | none =>
    if retainedActionResults ≠ [] then
      { mutationIds := []
        retained := .empty
        errors := ["Retained action results require an explicit mutation action scope."] }
    else { mutationIds := planIds, retained := .empty, errors := [] }
  | some mutationActionIds =>
    let mutationIds := mutationActionIds.dedup
    let retainedById := Dict.ofList (retainedActionResults.map fun item => (item.actionId, item))
    let expectedRetained := planIds.filter (· ∉ mutationIds)
    let invalid := expectedRetained.filterMap fun identifier =>
      match retainedById.get? identifier with
      | some item =>
        if satisfiesApplyDependency item.status then none
        else some (identifier ++ ":" ++ item.status.value)
      | none => none
    { mutationIds := mutationIds
      retained := retainedById
      errors :=
        listingError "Mutation scope contains actions outside the typed plan: "
          (sortedBy id (mutationIds.filter (· ∉ planIds))) ++
        (if retainedById.entries.length ≠ retainedActionResults.length then
          ["Retained action results contain duplicate identities."] else []) ++
        listingError "Mutation scope lacks retained application results for: "
          (sortedBy id (expectedRetained.filter fun i => !retainedById.contains i)) ++
        listingError "Retained application results are outside the retained scope: "
          (sortedBy id (retainedById.keys.filter (· ∉ expectedRetained))) ++
        listingError "Retained actions were not previously applied: " (sortedBy id invalid) ++
        listingError "Retained actions depend on newly mutated actions: "
          (reverseDependencies plan mutationIds expectedRetained) }

/-- Whether an identifier may be a retained deferred Voice action. -/
def validRetainedDeferred (plan : ConfigurationPlan) (scope : MutationScope)
    (identifier : String) : Bool :=
  let actionsById := Dict.ofList (plan.actions.map fun item => (item.id, item))
  identifier ∉ scope.mutationIds && scope.retained.contains identifier &&
    (actionsById.get? identifier).any ConfigurationAction.activatesVoiceVlan

/-- What `apply` adds to the errors of the mutation scope. -/
def retainedDeferredErrors (plan : ConfigurationPlan) (request : ApplyRequest)
    (scope : MutationScope) : List String :=
  (if request.retainedDeferredVoiceActionIds ≠ [] ∧
      request.deferVoiceSignalUntilBootstrap = false then
    ["Retained deferred Voice actions require the Voice signal barrier."] else []) ++
  listingError "Retained deferred Voice action scope is invalid: "
    (sortedBy id (request.retainedDeferredVoiceActionIds.dedup.filter fun identifier =>
      !validRetainedDeferred plan scope identifier))

namespace ConfigurationApplicator

variable (applicator : ConfigurationApplicator)

/-- The checks of `apply` on the deployment manifest that need no inventory. -/
def manifestPreflight (plan : ConfigurationPlan) (request : ApplyRequest) : Except Refusal Unit :=
  match request.deploymentManifest with
  | some manifest =>
    if manifest.physicalTopologyHash ≠ plan.sourceTopologyHash then
      .error ⟨.targetIdentityMismatch,
        ["DeploymentManifest physical topology hash does not match ConfigurationPlan."]⟩
    else
      match validateManifestEnvironment applicator.semanticHash manifest
          request.runtimeContext.environmentFingerprint with
      | .error message => .error ⟨.environmentFingerprintMismatch, [message]⟩
      | .ok () => .ok ()
  | none =>
    if requiresDeploymentManifest plan.sourceTopologyHashSchema then
      .error ⟨.deploymentManifestRequired,
        ["ConfigurationPlan uses physical-topology-v2 identity and requires a " ++
          "DeploymentManifest; name-only runtime fallback is legacy-only."]⟩
    else .ok ()

/-- The checks of `apply` before it asks the runtime for anything. -/
def staticPreflight (plan : ConfigurationPlan) (request : ApplyRequest) :
    Except Refusal MutationScope :=
  if request.actualSourceTopologyHash ≠ plan.sourceTopologyHash then
    .error ⟨.sourceTopologyMismatch,
      ["ConfigurationPlan source hash does not match the deployed E4 topology."]⟩
  else
    match applicator.manifestPreflight plan request with
    | .error refusal => .error refusal
    | .ok () =>
      match orderDependencyActions plan.actions with
      | .error error => .error ⟨.dependencyBlocked, [error.message]⟩
      | .ok ordered =>
        if ordered.map ConfigurationAction.id ≠ plan.actions.map ConfigurationAction.id then
          .error ⟨.dependencyBlocked,
            ["ConfigurationPlan actions are not in deterministic dependency order."]⟩
        else
          let scope := mutationScope plan request.mutationActionIds request.retainedActionResults
          let errors := scope.errors ++ retainedDeferredErrors plan request scope
          if errors ≠ [] then .error ⟨.dependencyBlocked, errors⟩ else .ok scope

/-- The serial clock checks of `apply` against the manifest. -/
def serialClockPreflight (manifest : DeploymentManifest)
    (inventory : List RuntimeConfigurationTarget) : List ConfigurationAction → Except String Unit
  | [] => .ok ()
  | action :: actions =>
    match action.detail with
    | .configureSerialClock interface _ sourceLinkId =>
      if sourceLinkId = "" then
        .error s!"Serial clock action {quoted action.id} has no source link identity."
      else
        match manifest.resolveSerialClockTarget sourceLinkId action.deviceId inventory
            interface with
        | .error message => .error message
        | .ok _ => serialClockPreflight manifest inventory actions
    | _ => serialClockPreflight manifest inventory actions

/-- The runtime target of every device name of the plan.  With a manifest every device has been
resolved before its name is bound. -/
def resolveTargets (plan : ConfigurationPlan) (request : ApplyRequest)
    (inventory : List RuntimeConfigurationTarget) :
    Except Refusal (Dict String RuntimeConfigurationTarget) :=
  match request.deploymentManifest with
  | none => .ok (Dict.ofList (inventory.map fun item => (item.deviceName, item)))
  | some manifest =>
    match resolveManifestTargets manifest plan.sourceTopologyHash
        (plan.devices.map DeviceConfigurationPlan.deviceId) inventory with
    | .error message => .error ⟨.targetIdentityMismatch, [message]⟩
    | .ok semanticTargets =>
      match serialClockPreflight manifest inventory plan.actions with
      | .error message => .error ⟨.targetIdentityMismatch, [message]⟩
      | .ok () => .ok (Dict.ofList (plan.devices.filterMap fun item =>
          (semanticTargets.get? item.deviceId).map fun target => (item.deviceName, target)))

/-- `_physical_interface`. -/
def physicalInterface (action : ConfigurationAction) : String :=
  match action.detail with
  | .configureAccessPort interface .. => interface
  | .configureTrunk interface .. => interface
  | .configureRoutedInterface interface .. => interface
  | .setEndpointStaticAddress interface .. => interface
  | .setEndpointDhcp interface .. => interface
  | .configureSubinterface parentInterface .. => parentInterface
  | _ => ""

/-- The error of `_validate_targets` about one device. -/
def deviceTargetError (targets : Dict String RuntimeConfigurationTarget)
    (device : DeviceConfigurationPlan) : Option String :=
  match targets.get? device.deviceName with
  | none => some s!"Target {device.deviceName} was not found."
  | some target =>
    if applicator.casefold target.model ≠ applicator.casefold device.model then
      some (s!"Target {device.deviceName} model {target.model} does not match " ++
        s!"{device.model}.")
    else none

/-- The error of `_validate_targets` about the interface of one action. -/
def interfaceTargetError (devicePlans : Dict String DeviceConfigurationPlan)
    (targets : Dict String RuntimeConfigurationTarget) (action : ConfigurationAction) :
    Except RaisedError (Option String) :=
  match targets.get? action.deviceName with
  | none => .ok none
  | some target =>
    let interface := physicalInterface action
    if target.interfaces = [] ∨ interface = "" ∨
        applicator.casefold interface ∈ target.interfaces.map applicator.casefold then .ok none
    else do
      let expected ← subscript devicePlans action.deviceId
      return some (s!"Target {action.deviceName} ({expected.model}) interface " ++
        s!"{interface} was not found.")

/-- `_validate_targets`. -/
def validateTargets (plan : ConfigurationPlan) (targets : Dict String RuntimeConfigurationTarget) :
    Except RaisedError (List String) := do
  let devicePlans := Dict.ofList (plan.devices.map fun item => (item.deviceId, item))
  let deviceErrors := plan.devices.filterMap (applicator.deviceTargetError targets)
  let interfaceErrors ←
    plan.actions.mapM (applicator.interfaceTargetError devicePlans targets)
  return sortedBy id (deviceErrors ++ interfaceErrors.filterMap id).dedup

/-- The failure code for the errors of `_validate_targets`. -/
def targetFailureCode (errors : List String) : ConfigurationFailureCode :=
  let mentions (word : String) := errors.any fun message =>
    word.toList <:+: (applicator.casefold message).toList
  if mentions "interface" then .interfaceNotFound
  else if mentions "model" then .targetIdentityMismatch
  else .targetNotFound

/-- An action whose required capability is not supported by its target. -/
structure CapabilityRefusal where
  action : ConfigurationAction
  status : CapabilityStatus
  model : String
  deriving DecidableEq

/-- Whether `_capability_refusals` evaluates the capability of an action. -/
def requiresCapability (mutationIds : List String) (action : ConfigurationAction) : Bool :=
  action.id ∈ mutationIds && action.requiredCapability ≠ "" &&
    !"endpoint_".toList.isPrefixOf action.requiredCapability.toList

/-- The status of the capability that an action requires of its target. -/
def evaluateCapability (targets : Dict String RuntimeConfigurationTarget)
    (capabilities : Dict String DeviceCapabilities) (action : ConfigurationAction) :
    Except RaisedError CapabilityRefusal := do
  let target ← subscript targets action.deviceName
  let status := ((capabilities.get? target.model).bind
    (·.get? action.requiredCapability)).getD .unknown
  return { action := action, status := status, model := target.model }

/-- `_capability_refusals`. -/
def capabilityRefusals (plan : ConfigurationPlan)
    (targets : Dict String RuntimeConfigurationTarget)
    (capabilities : Dict String DeviceCapabilities) (mutationIds : List String) :
    Except RaisedError (List CapabilityRefusal) := do
  let evaluated ← (plan.actions.filter (requiresCapability mutationIds)).mapM
    (evaluateCapability targets capabilities)
  return evaluated.filter (·.status ≠ .supported)

/-- `_unexecutable_closure`: the refused actions and what depends on them. -/
def unexecutableClosure (plan : ConfigurationPlan) (refusals : List CapabilityRefusal) :
    List String :=
  plan.actions.foldl (fun blocked action =>
    if action.id ∈ blocked then blocked
    else if action.dependsOn.any (· ∈ blocked) then blocked ++ [action.id] else blocked)
    (refusals.map fun refusal => refusal.action.id)

/-- The message about one required action that cannot be executed. -/
def requiredBlockedMessage (refusals : List CapabilityRefusal) (action : ConfigurationAction) :
    String :=
  let refusedById := Dict.ofList (refusals.map fun refusal => (refusal.action.id, refusal))
  match refusedById.get? action.id with
  | some refusal =>
    s!"{action.id} ({action.deviceName}): required capability " ++
      s!"{action.requiredCapability} is {refusal.status.value} for {refusal.model}."
  | none =>
    s!"{action.id} ({action.deviceName}): required action depends on " ++
      "a refused action and can never execute."

/-- The required actions of the plan that can never be executed. -/
def requiredBlocked (plan : ConfigurationPlan) (refusals : List CapabilityRefusal) :
    List ConfigurationAction :=
  let blocked := unexecutableClosure plan refusals
  sortedBy ConfigurationAction.id
    (plan.actions.filter fun action => action.critical ∧ action.id ∈ blocked)

/-- What an accepted preflight hands to the main loop. -/
structure PreparedApplication where
  scope : MutationScope
  deployedNames : Dict String String
  refusals : List CapabilityRefusal

/-- The checks of `apply` on the inventory. -/
def inventoryPreflight (plan : ConfigurationPlan) (request : ApplyRequest) (scope : MutationScope)
    (answer : Except String (List RuntimeConfigurationTarget)) :
    Except RaisedError (Except Refusal PreparedApplication) :=
  match answer with
  | .error message => .ok (.error ⟨.sessionFailed, [s!"Runtime inventory failed: {message}"]⟩)
  | .ok inventory =>
    match resolveTargets plan request inventory with
    | .error refusal => .ok (.error refusal)
    | .ok targets => do
      let errors ← applicator.validateTargets plan targets
      if errors ≠ [] then return .error ⟨applicator.targetFailureCode errors, errors⟩
      else
        let refusals ← capabilityRefusals plan targets request.capabilities scope.mutationIds
        let blocked := requiredBlocked plan refusals
        if blocked ≠ [] then
          return .error ⟨
            if refusals.any (·.status = .unsupported) then .capabilityUnsupported
            else .capabilityUnknown,
            sortedBy id (blocked.map (requiredBlockedMessage refusals)).dedup⟩
        else
          return .ok
            { scope := scope
              deployedNames := Dict.ofList (plan.devices.filterMap fun item =>
                (targets.get? item.deviceName).map fun target =>
                  (item.deviceId, target.deviceName))
              refusals := refusals }

/-- The preflight of `apply`. -/
def preflight (plan : ConfigurationPlan) (request : ApplyRequest) :
    Applying (Except Refusal PreparedApplication) :=
  match applicator.staticPreflight plan request with
  | .error refusal => pure (.error refusal)
  | .ok scope => do
    let answer ← Interaction.exchange applicator.runtime.inventory RuntimeEvent.inventory
    Interaction.ofExcept (applicator.inventoryPreflight plan request scope answer)

/-- `_preflight_failure`. -/
def preflightFailure (plan : ConfigurationPlan) (request : ApplyRequest) (refusal : Refusal) :
    Except RaisedError ConfigurationApplicationResult := do
  let journal ← (journalFromActionResults plan.id request.deploymentId plan.actions []).mapError
    RaisedError.journalError
  let journal := refusal.messages.foldl ApplicationExecutionJournal.markPreflightFailure journal
  return {
    configPlanId := plan.id
    configSemanticHash := plan.semanticHash
    sourceTopologyHash := plan.sourceTopologyHash
    runtimeContext := request.runtimeContext
    status := .failed
    failureCode := refusal.code
    preflightErrors := refusal.messages
    deploymentId := request.deploymentId
    executionJournal := some journal
    dirtyState := journal.dirtyState }

end ConfigurationApplicator

/-! ## Dispatch -/

/-- The copy of an action that is handed to the runtime: addressed to the deployed device, and
without its Voice VLAN when only the data part is to be prepared. -/
def runtimeAction (deployedNames : Dict String String) (dataOnlyActionIds : List String)
    (action : ConfigurationAction) : ConfigurationAction :=
  { action with
    deviceName := (deployedNames.get? action.deviceId).getD action.deviceName
    detail :=
      if action.id ∈ dataOnlyActionIds then action.detail.withoutVoiceVlan else action.detail }

/-- The mutations that a runtime reported, by action; an exception is a failure of all. -/
def reportedMutations (actions : List ConfigurationAction)
    (answer : Except String (List RuntimeActionMutation)) : Dict String RuntimeActionMutation :=
  match answer with
  | .ok mutations => Dict.ofList (mutations.map fun item => (item.actionId, item))
  | .error message => Dict.ofList (actions.map fun action =>
      (action.id,
        { actionId := action.id
          applied := false
          failureCode := .sessionFailed
          message := message }))

/-- The result of one dispatched action. -/
def dispatchResult (action : ConfigurationAction) :
    Option RuntimeActionMutation → ActionApplicationResult
  | none =>
    { actionId := action.id
      status := .failed
      failureCode := .applicationFailed
      message := "Runtime returned no mutation result." }
  | some mutation =>
    { actionId := action.id
      status := mutationExecutionStatus mutation
      failureCode :=
        if mutation.applied then .none
        else if mutation.failureCode ≠ .none then mutation.failureCode
        else .applicationFailed
      message := mutation.message
      batchId := mutation.batchId
      operation := action.operation
      disposition := mutation.disposition }

/-- The results of a dispatch, by action. -/
def dispatchResults (actions : List ConfigurationAction)
    (answer : Except String (List RuntimeActionMutation)) : Dict String ActionApplicationResult :=
  let mutations := reportedMutations actions answer
  Dict.ofList (actions.map fun action =>
    (action.id, dispatchResult action (mutations.get? action.id)))

namespace ConfigurationApplicator

/-- `_overall_status`. -/
def overallStatus (actions : List ActionApplicationResult) (verification : List VerificationResult) :
    ConfigurationApplicationStatus × ConfigurationFailureCode :=
  if actions.any (·.status = .failed) then (.failed, .applicationFailed)
  else if actions.any fun item => item.status = .skipped ∨ item.status = .dependencyBlocked then
    (.partial_, .none)
  else if verification.any (·.status = .unobservable) ∧ ¬verification.any (·.status = .failed) then
    (.partial_, .observabilityLimitation)
  else if verification.any (·.status ≠ .verified) then (.partial_, .verificationFailed)
  else if verification ≠ [] then (.verified, .none)
  else if actions ≠ [] then (.applied, .none)
  else (.skipped, .none)

variable (applicator : ConfigurationApplicator)

/-- `_apply_ready_actions`. -/
def applyReadyActions (actions : List ConfigurationAction) (deployedNames : Dict String String)
    (dataOnlyActionIds : List String) : Applying (Dict String ActionApplicationResult) := do
  let runtimeActions := actions.map (runtimeAction deployedNames dataOnlyActionIds)
  let answer ← Interaction.exchange (fun trace => applicator.runtime.applyActions trace runtimeActions)
    (RuntimeEvent.applyActions runtimeActions)
  return dispatchResults actions answer

/-- `_capability_refusal_results`. -/
def capabilityRefusalResults (refusals : List CapabilityRefusal)
    (results : Dict String ActionApplicationResult) : Dict String ActionApplicationResult :=
  results.setAll (refusals.map fun refusal =>
    (refusal.action.id,
      { actionId := refusal.action.id
        status := .skipped
        failureCode :=
          if refusal.status = .unsupported then .capabilityUnsupported else .capabilityUnknown
        message :=
          s!"{refusal.action.requiredCapability} is {refusal.status.value} for {refusal.model}." }))

/-- The dependencies of an action without a result that satisfies them. -/
def blockedDependencies (results : Dict String ActionApplicationResult)
    (action : ConfigurationAction) : List String :=
  action.dependsOn.filter fun dependency =>
    !(results.get? dependency).any fun result => satisfiesApplyDependency result.status

/-- The result of an action with blocked dependencies. -/
def blockedResult (action : ConfigurationAction) (blocked : List String) :
    ActionApplicationResult :=
  { actionId := action.id
    status := .dependencyBlocked
    failureCode := .dependencyBlocked
    message := "Blocked by: " ++ String.intercalate ", " (sortedBy id blocked) }

/-- The actions found ready so far, and the results. -/
structure PhaseScan where
  ready : List ConfigurationAction
  results : Dict String ActionApplicationResult

/-- One iteration of the scan of a phase. -/
def scanAction (scan : PhaseScan) (action : ConfigurationAction) : PhaseScan :=
  if scan.results.contains action.id then scan
  else
    let blocked := blockedDependencies scan.results action
    if blocked ≠ [] then
      { scan with results := scan.results.set action.id (blockedResult action blocked) }
    else { scan with ready := scan.ready ++ [action] }

/-- The scan of a phase: what is ready, and the results of what is blocked. -/
def scanPhase (plan : ConfigurationPlan) (results : Dict String ActionApplicationResult)
    (phase : ConfigurationPhase) : PhaseScan :=
  (plan.actions.filter (·.phase = phase)).foldl scanAction { ready := [], results := results }

/-- One iteration of the main loop. -/
def applyPhase (plan : ConfigurationPlan) (request : ApplyRequest)
    (deployedNames : Dict String String) (deferredIds : List String)
    (results : Dict String ActionApplicationResult) (phase : ConfigurationPhase) :
    Applying (Dict String ActionApplicationResult) := do
  let scan := scanPhase plan results phase
  if scan.ready = [] then return scan.results
  else
    let applied ← applicator.applyReadyActions scan.ready deployedNames deferredIds
    observe (request.phaseObserver.map fun observer trace =>
      observer trace phase.value (scan.ready.map ConfigurationAction.id))
    return scan.results.update applied

/-- The phases of the plan in ascending order. -/
def phases (plan : ConfigurationPlan) : List ConfigurationPhase :=
  sortedBy ConfigurationPhase.value (plan.actions.map ConfigurationAction.phase).dedup

/-! ## Verification -/

/-- What a runtime observed, by expectation; an exception is a failure of all. -/
def observedVerifications (expectations : List VerificationExpectation)
    (answer : Except String (List RuntimeVerification)) : Dict String RuntimeVerification :=
  match answer with
  | .ok verifications => Dict.ofList (verifications.map fun item => (item.expectationId, item))
  | .error message => Dict.ofList (expectations.map fun expectation =>
      (expectation.id,
        { expectationId := expectation.id, status := .failed, message := message }))

/-- The result for one expectation. -/
def verificationResult (expectation : VerificationExpectation) :
    Option RuntimeVerification → VerificationResult
  | none =>
    { expectationId := expectation.id
      actionId := expectation.actionId
      status := .unknown
      message := "Runtime returned no verification result." }
  | some item =>
    { expectationId := expectation.id
      actionId := expectation.actionId
      status := item.status
      evidenceMethod := item.evidenceMethod
      freshEvidence := item.freshEvidence
      fields := item.fields
      message := item.message
      convergence := item.convergence }

/-- The results of a verification in the order of its expectations. -/
def verificationResults (expectations : List VerificationExpectation)
    (answer : Except String (List RuntimeVerification)) : List VerificationResult :=
  let observed := observedVerifications expectations answer
  expectations.map fun expectation => verificationResult expectation (observed.get? expectation.id)

/-- `_verify`. -/
def verify (expectations : List VerificationExpectation) : Applying (List VerificationResult) :=
  if expectations = [] then pure []
  else do
    let answer ← Interaction.exchange (fun trace => applicator.runtime.verify trace expectations)
      (RuntimeEvent.verify expectations)
    return verificationResults expectations answer

/-- The expectation as the runtime is asked about it. -/
def runtimeExpectation (deployedNames : Dict String String) (item : VerificationExpectation) :
    VerificationExpectation :=
  { item with deviceName := (deployedNames.get? item.deviceId).getD item.deviceName }

/-- The prerequisites of an expectation that are not met, in the form of
`prerequisites_satisfied`. -/
def expectationPrerequisites (actionStatuses : StatusMap) (item : VerificationExpectation) :
    Bool × List String :=
  let prerequisites :=
    if item.verificationPrerequisites = [] then legacyActionPrerequisites [item.actionId]
    else item.verificationPrerequisites
  prerequisitesSatisfied prerequisites actionStatuses .empty .empty

/-- The result for an expectation with unmet prerequisites. -/
def blockedVerification (actionStatuses : StatusMap) (item : VerificationExpectation) :
    VerificationResult :=
  { expectationId := item.id
    actionId := item.actionId
    status := .dependencyBlocked
    message := "Blocked by: " ++
      String.intercalate ", " (expectationPrerequisites actionStatuses item).2 }

/-- `verify_subset`: results by expectation. -/
def verifySubset (deployedNames : Dict String String) (expectations : List VerificationExpectation)
    (actionStatuses : StatusMap) : Applying (Dict String VerificationResult) := do
  let isReady (item : VerificationExpectation) : Bool :=
    (expectationPrerequisites actionStatuses item).1
  let settled : Dict String VerificationResult :=
    Dict.ofList ((expectations.filter fun item => !isReady item).map fun item =>
      (item.id, blockedVerification actionStatuses item))
  let observed ←
    applicator.verify ((expectations.filter isReady).map (runtimeExpectation deployedNames))
  return settled.setAll (observed.map fun item => (item.expectationId, item))

/-! ## The Voice signal barrier -/

/-- `_VOICE_FOUNDATION_KINDS`. -/
def voiceFoundationKinds : List VerificationKind := [.vlan, .trunk, .l3Interface, .dhcpPool]

/-- The actions whose Voice VLAN is withheld from the main loop.  The identifiers of an accepted
plan are unique, so that the list is the dictionary by identifier. -/
def deferredVoiceActions (plan : ConfigurationPlan) (request : ApplyRequest)
    (scope : MutationScope) : List ConfigurationAction :=
  plan.actions.filter fun action =>
    (action.id ∈ scope.mutationIds ∨ action.id ∈ request.retainedDeferredVoiceActionIds) ∧
      action.activatesVoiceVlan

/-- The expectations whose verification the Voice VLANs rest on. -/
def foundationExpectations (plan : ConfigurationPlan) (deferredIds : List String) :
    List VerificationExpectation :=
  plan.verificationExpectations.filter fun item =>
    item.actionId ∉ deferredIds ∧ item.kind ∈ voiceFoundationKinds

/-- The statuses of action results, by action. -/
def actionStatuses (results : List ActionApplicationResult) : StatusMap :=
  Dict.ofList (results.map fun item => (item.actionId, item.status))

/-- Whether `_voice_signal_foundation_status` counts an expectation as established. -/
def foundationEstablished (kind : VerificationKind) (status : ActionExecutionStatus) : Bool :=
  status = .verified || (kind = .dhcpPool && status = .unobservable)

/-- `_voice_signal_foundation_status`. -/
def voiceSignalFoundationStatus (preparation : List ActionApplicationResult)
    (expectations : List VerificationExpectation) (foundation : List VerificationResult)
    (allPreSignal : List VerificationResult) : Except RaisedError ActionExecutionStatus :=
  if preparation = [] ∨ preparation.any fun item => !satisfiesApplyDependency item.status then
    .ok .failed
  else if expectations = [] ∨ expectations.length ≠ foundation.length then .ok .unobservable
  else do
    let byId := Dict.ofList (foundation.map fun item => (item.expectationId, item))
    let results ← subscripts byId (expectations.map VerificationExpectation.id)
    let unresolved := ((expectations.zip results).filter fun item =>
      !foundationEstablished item.1.kind item.2.status).map fun item => item.2.status
    if allPreSignal.any fun item => item.status = .failed ∨ item.status = .unknown ∨
        item.status = .dependencyBlocked ∨ item.status = .skipped then return .failed
    else if ActionExecutionStatus.failed ∈ unresolved then return .failed
    else
      match [ActionExecutionStatus.dependencyBlocked, .unknown, .skipped, .unobservable,
          .partial_].find? (· ∈ unresolved) with
      | some status => return status
      | none => if unresolved ≠ [] then return .unknown else return .verified

/-- `_voice_signal_status`. -/
def voiceSignalStatus (signalResults : List ActionApplicationResult)
    (verificationResults : List VerificationResult) (foundationStatus : ActionExecutionStatus) :
    ActionExecutionStatus :=
  if foundationStatus ≠ .verified then .dependencyBlocked
  else if signalResults = [] ∨
      signalResults.any fun item => !satisfiesApplyDependency item.status then .failed
  else if verificationResults = [] then .unobservable
  else if verificationResults.all (·.status = .verified) then .verified
  else if verificationResults.any (·.status = .failed) then .failed
  else .unobservable

/-- The result of a prepared action whose signalling waits for the Voice bootstrap. -/
def pendingSignalResult (action : ConfigurationAction) : ActionApplicationResult :=
  { actionId := action.id
    status := .partial_
    message := "Data-only access preparation is applied; Voice VLAN " ++
      "signalling is pending successful Voice bootstrap." }

/-- The result of a deferred action whose signalling the foundation does not allow. -/
def heldSignalResult (action : ConfigurationAction) (preparation : ActionApplicationResult) :
    ActionApplicationResult :=
  if satisfiesApplyDependency preparation.status then
    { actionId := action.id
      status := .partial_
      failureCode := .dependencyBlocked
      message := "The data-only access preparation was applied, but " ++
        "Voice VLAN signalling requires VERIFIED VLAN, trunk " ++
        "and L3 foundations; DHCP-pool UNOBSERVABLE is the " ++
        "only admitted measured ceiling." }
  else preparation

/-- The result for an expectation of an action whose signalling is pending. -/
def pendingVerification (item : VerificationExpectation) : VerificationResult :=
  { expectationId := item.id
    actionId := item.actionId
    status := .partial_
    message := "Voice VLAN verification is pending successful Voice " ++
      "bootstrap and deferred signal dispatch." }

/-- The second stage of the deferred actions: leave them pending, dispatch them with their Voice
VLAN, or hold them back. -/
def signalStage (deferred : List ConfigurationAction) (deployedNames : Dict String String)
    (preparation : List ActionApplicationResult) (foundationStatus : ActionExecutionStatus)
    (deferSignal : Bool) : Applying (Dict String ActionApplicationResult) :=
  if deferSignal ∧ foundationStatus = .verified then
    pure (Dict.ofList (deferred.map fun action => (action.id, pendingSignalResult action)))
  else if foundationStatus = .verified then
    applicator.applyReadyActions deferred deployedNames []
  else do
    let preparationById := Dict.ofList (preparation.map fun item => (item.actionId, item))
    let preparations ← Interaction.ofExcept
      (subscripts preparationById (deferred.map ConfigurationAction.id))
    return Dict.ofList ((deferred.zip preparations).map fun item =>
      (item.1.id, heldSignalResult item.1 item.2))

/-- The message of the barrier in `apply`. -/
def barrierMessage (signalDeferred : Bool) (signalStatus : ActionExecutionStatus) : String :=
  if signalDeferred then
    "Phone access ports were prepared without a Voice VLAN; " ++
      "signalling is pending Voice bootstrap."
  else if signalStatus = .verified then
    "Phone access ports were prepared without a Voice VLAN; " ++
      "the original typed actions were dispatched only after the " ++
      "network foundation verification barrier."
  else "Voice VLAN signalling did not cross its verification barrier."

/-- What `_verify_with_voice_signal_barrier` returns. -/
structure BarrierOutcome where
  actionResults : List ActionApplicationResult
  verificationResults : List VerificationResult
  barrier : Option VoiceSignalBarrierResult

/-- The expectations that are verified before the Voice VLANs are signalled. -/
def preSignalExpectations (plan : ConfigurationPlan) (deferredIds : List String) :
    List VerificationExpectation :=
  plan.verificationExpectations.filter fun item => item.actionId ∉ deferredIds

/-- The expectations that are verified after the Voice VLANs are signalled. -/
def postSignalExpectations (plan : ConfigurationPlan) (deferredIds : List String) :
    List VerificationExpectation :=
  plan.verificationExpectations.filter fun item => item.actionId ∈ deferredIds

/-- `_verify_with_voice_signal_barrier` when no action is deferred. -/
def verifyWithoutBarrier (plan : ConfigurationPlan)
    (results : Dict String ActionApplicationResult) (deployedNames : Dict String String) :
    Applying BarrierOutcome := do
  let actionResults ← Interaction.ofExcept
    (subscripts results (plan.actions.map ConfigurationAction.id))
  let observed ← applicator.verifySubset deployedNames plan.verificationExpectations
    (actionStatuses actionResults)
  let verificationResults ← Interaction.ofExcept
    (subscripts observed (plan.verificationExpectations.map VerificationExpectation.id))
  return { actionResults, verificationResults, barrier := none }

/-- What the barrier has established before the second stage. -/
structure FoundationOutcome where
  preparationResults : List ActionApplicationResult
  preSignalResults : Dict String VerificationResult
  foundationResults : List VerificationResult
  foundationStatus : ActionExecutionStatus

/-- The first stage of the barrier: verify everything but the deferred actions. -/
def verifyFoundation (plan : ConfigurationPlan) (results : Dict String ActionApplicationResult)
    (deferred : List ConfigurationAction) (deployedNames : Dict String String) :
    Applying FoundationOutcome := do
  let deferredIds := deferred.map ConfigurationAction.id
  let initialResults ← Interaction.ofExcept
    (subscripts results (plan.actions.map ConfigurationAction.id))
  let preparationResults ← Interaction.ofExcept (subscripts results deferredIds)
  let preSignalResults ← applicator.verifySubset deployedNames
    (preSignalExpectations plan deferredIds) (actionStatuses initialResults)
  let foundation := foundationExpectations plan deferredIds
  let foundationResults ← Interaction.ofExcept
    (subscripts preSignalResults (foundation.map VerificationExpectation.id))
  let foundationStatus ← Interaction.ofExcept
    (voiceSignalFoundationStatus preparationResults foundation foundationResults
      preSignalResults.values)
  return { preparationResults, preSignalResults, foundationResults, foundationStatus }

/-- `_verify_with_voice_signal_barrier` when actions are deferred. -/
def crossVoiceSignalBarrier (plan : ConfigurationPlan)
    (results : Dict String ActionApplicationResult) (deferred : List ConfigurationAction)
    (deployedNames : Dict String String) (deferSignal : Bool) : Applying BarrierOutcome := do
  let deferredIds := deferred.map ConfigurationAction.id
  let foundation ← applicator.verifyFoundation plan results deferred deployedNames
  let signalDeferred : Bool := deferSignal ∧ foundation.foundationStatus = .verified
  let signalResults ← applicator.signalStage deferred deployedNames
    foundation.preparationResults foundation.foundationStatus deferSignal
  let results := results.update signalResults
  let actionResults ← Interaction.ofExcept
    (subscripts results (plan.actions.map ConfigurationAction.id))
  let postSignal := postSignalExpectations plan deferredIds
  let postSignalResults ←
    if signalDeferred then
      pure (Dict.ofList (postSignal.map fun item => (item.id, pendingVerification item)))
    else applicator.verifySubset deployedNames postSignal (actionStatuses actionResults)
  let verificationResults ← Interaction.ofExcept
    (subscripts (foundation.preSignalResults.update postSignalResults)
      (plan.verificationExpectations.map VerificationExpectation.id))
  let signalStatus :=
    if signalDeferred then .intended
    else voiceSignalStatus signalResults.values postSignalResults.values foundation.foundationStatus
  return {
    actionResults, verificationResults
    barrier := some {
      required := true
      deferredActionIds := sortedBy id deferredIds
      foundationExpectationIds :=
        (foundationExpectations plan deferredIds).map VerificationExpectation.id
      preparationResults := foundation.preparationResults
      foundationVerificationResults := foundation.foundationResults
      signalResults := signalResults.values
      foundationStatus := foundation.foundationStatus
      signalStatus := signalStatus
      message := barrierMessage signalDeferred signalStatus } }

/-- `_verify_with_voice_signal_barrier`. -/
def verifyWithVoiceSignalBarrier (plan : ConfigurationPlan)
    (results : Dict String ActionApplicationResult) (deferred : List ConfigurationAction)
    (deployedNames : Dict String String) (deferSignal : Bool) : Applying BarrierOutcome :=
  if deferred = [] then applicator.verifyWithoutBarrier plan results deployedNames
  else applicator.crossVoiceSignalBarrier plan results deferred deployedNames deferSignal

/-! ## Application -/

/-- The failure code that `apply` reports: an uncrossed barrier takes precedence. -/
def barrierFailureCode (barrier : Option VoiceSignalBarrierResult)
    (failureCode : ConfigurationFailureCode) : ConfigurationFailureCode :=
  match barrier with
  | some barrier =>
    if barrier.signalStatus = .dependencyBlocked then
      if barrier.foundationStatus = .unobservable then .observabilityLimitation
      else .verificationFailed
    else failureCode
  | none => failureCode

/-- The journal of the results in the mutation scope. -/
def mutationJournal (plan : ConfigurationPlan) (deploymentId : String)
    (mutationIds : List String) (actionResults : List ActionApplicationResult) :
    Except RaisedError ApplicationExecutionJournal :=
  (journalFromActionResults plan.id deploymentId plan.actions
    (actionResults.filter (·.actionId ∈ mutationIds))).mapError .journalError

/-- The result that `apply` reports for an accepted plan. -/
def applicationResult (plan : ConfigurationPlan) (request : ApplyRequest)
    (mutationIds : List String) (outcome : BarrierOutcome) :
    Except RaisedError ConfigurationApplicationResult := do
  let (status, failureCode) := overallStatus outcome.actionResults outcome.verificationResults
  let journal ← mutationJournal plan request.deploymentId mutationIds outcome.actionResults
  let planIds := plan.actions.map ConfigurationAction.id
  return {
    configPlanId := plan.id
    configSemanticHash := plan.semanticHash
    sourceTopologyHash := plan.sourceTopologyHash
    runtimeContext := request.runtimeContext
    status := status
    failureCode := barrierFailureCode outcome.barrier failureCode
    actionResults := outcome.actionResults
    mutationActionIds := planIds.filter (· ∈ mutationIds)
    retainedActionIds := planIds.filter (· ∉ mutationIds)
    verificationResults := outcome.verificationResults
    deploymentId := request.deploymentId
    executionJournal := some journal
    dirtyState := journal.dirtyState
    voiceSignalBarrier := outcome.barrier }

/-- The main loop of `apply`. -/
def applyPhases (plan : ConfigurationPlan) (request : ApplyRequest)
    (prepared : PreparedApplication) : Applying (Dict String ActionApplicationResult) :=
  let deferredIds :=
    (deferredVoiceActions plan request prepared.scope).map ConfigurationAction.id
  Interaction.loop (applicator.applyPhase plan request prepared.deployedNames deferredIds)
    (capabilityRefusalResults prepared.refusals prepared.scope.retained) (phases plan)

/-- `apply` after an accepted preflight. -/
def applyPrepared (plan : ConfigurationPlan) (request : ApplyRequest)
    (prepared : PreparedApplication) : Applying ConfigurationApplicationResult := do
  let results ← applicator.applyPhases plan request prepared
  let outcome ← applicator.verifyWithVoiceSignalBarrier plan results
    (deferredVoiceActions plan request prepared.scope) prepared.deployedNames
    request.deferVoiceSignalUntilBootstrap
  Interaction.ofExcept (applicationResult plan request prepared.scope.mutationIds outcome)

/-- `apply`. -/
def apply (plan : ConfigurationPlan) (request : ApplyRequest) :
    Applying ConfigurationApplicationResult := do
  match ← applicator.preflight plan request with
  | .error refusal => Interaction.ofExcept (preflightFailure plan request refusal)
  | .ok prepared => applicator.applyPrepared plan request prepared

end ConfigurationApplicator

/-- The keyword arguments of `complete_deferred_voice_signals`. -/
structure CompletionRequest where
  deploymentManifest : Option DeploymentManifest := none
  lifecycleObserver : Option (List RuntimeEvent → String → Except String Unit) := none
  retainedStateOnly : Bool := false

namespace ConfigurationApplicator

/-- The actions of the plan that activate a Voice VLAN. -/
def voiceActions (plan : ConfigurationPlan) : List ConfigurationAction :=
  plan.actions.filter ConfigurationAction.activatesVoiceVlan

/-- `_voice_signal_completion_failure`. -/
def voiceSignalCompletionFailure (application : ConfigurationApplicationResult)
    (message : String) : ConfigurationApplicationResult :=
  { application with
    status := .failed
    failureCode := .applicationFailed
    preflightErrors := application.preflightErrors ++ [message]
    voiceSignalBarrier := application.voiceSignalBarrier.map fun barrier =>
      { barrier with signalStatus := .failed, message := message } }

/-- Whether the application is a qualification of retained Voice state without mutations. -/
def isRetainedQualification (plan : ConfigurationPlan)
    (application : ConfigurationApplicationResult) : Bool :=
  let voiceIds := (voiceActions plan).map ConfigurationAction.id
  application.configPlanId = plan.id && application.configSemanticHash = plan.semanticHash &&
    application.voiceSignalBarrier.isNone && !voiceIds.isEmpty &&
    voiceIds.all (· ∈ application.retainedActionIds) &&
    !voiceIds.any (· ∈ application.mutationActionIds) &&
    (application.actionResults.map ActionApplicationResult.actionId).isPerm
      (plan.actions.map ConfigurationAction.id) &&
    (application.verificationResults.map VerificationResult.expectationId).isPerm
      (plan.verificationExpectations.map VerificationExpectation.id)

/-- Whether the application left a prepared deferred Voice signal behind. -/
def isPreparedSignal (plan : ConfigurationPlan) (application : ConfigurationApplicationResult)
    (barrier : VoiceSignalBarrierResult) : Bool :=
  application.configPlanId = plan.id && application.configSemanticHash = plan.semanticHash &&
    barrier.required && barrier.foundationStatus = .verified && barrier.signalStatus = .intended

/-- The barrier of a retained qualification, computed from the application's own results. -/
def retainedBarrier (plan : ConfigurationPlan) (application : ConfigurationApplicationResult) :
    Except RaisedError VoiceSignalBarrierResult := do
  let voiceIds := (voiceActions plan).map ConfigurationAction.id
  let actionById := Dict.ofList
    (application.actionResults.map fun item => (item.actionId, item))
  let verificationById := Dict.ofList
    (application.verificationResults.map fun item => (item.expectationId, item))
  let preparationResults ← subscripts actionById
    ((plan.actions.filter (·.id ∈ voiceIds)).map ConfigurationAction.id)
  let foundation := foundationExpectations plan voiceIds
  let foundationResults ← subscripts verificationById
    (foundation.map VerificationExpectation.id)
  let foundationStatus ← voiceSignalFoundationStatus preparationResults foundation
    foundationResults application.verificationResults
  return {
    required := false
    foundationExpectationIds := foundation.map VerificationExpectation.id
    preparationResults := preparationResults
    foundationVerificationResults := foundationResults
    foundationStatus := foundationStatus
    signalStatus := .intended
    message := "Retained Voice signal state requires fresh direct and " ++
      "forwarding verification; no access mutation is authorized." }

/-- The barrier that is to be completed, or the message of the refusal. -/
def completionBarrier (plan : ConfigurationPlan) (application : ConfigurationApplicationResult)
    (retainedStateOnly : Bool) : Except RaisedError (Except String VoiceSignalBarrierResult) :=
  if retainedStateOnly then
    if isRetainedQualification plan application then
      (retainedBarrier plan application).map .ok
    else
      .ok (.error ("Configuration result is not a zero-mutation retained " ++
        "Voice qualification."))
  else
    match application.voiceSignalBarrier with
    | some barrier =>
      if isPreparedSignal plan application barrier then .ok (.ok barrier)
      else .ok (.error "Configuration result is not a prepared deferred Voice signal.")
    | none => .ok (.error "Configuration result is not a prepared deferred Voice signal.")

/-- The deferred actions of a barrier, unless its identifiers do not match the plan. -/
def completionActions (plan : ConfigurationPlan) (deferredIds : List String) :
    Except String (List ConfigurationAction) :=
  let deferredActions := plan.actions.filter (·.id ∈ deferredIds)
  if deferredActions.length ≠ deferredIds.dedup.length ∨
      deferredActions.any fun item => !item.activatesVoiceVlan then
    .error "Deferred Voice action identities do not match the plan."
  else .ok deferredActions

variable (applicator : ConfigurationApplicator)

/-- The names of the deployed devices, resolved again for the completion. -/
def resolveDeployedNames (plan : ConfigurationPlan) (application : ConfigurationApplicationResult)
    (manifest : Option DeploymentManifest)
    (answer : Except String (List RuntimeConfigurationTarget)) :
    Except String (Dict String String) := do
  let inventory ← answer
  match manifest with
  | some manifest =>
    validateManifestEnvironment applicator.semanticHash manifest
      application.runtimeContext.environmentFingerprint
    let semanticTargets ← resolveManifestTargets manifest plan.sourceTopologyHash
      (plan.devices.map DeviceConfigurationPlan.deviceId) inventory
    return Dict.ofList (plan.devices.filterMap fun item =>
      (semanticTargets.get? item.deviceId).map fun target => (item.deviceId, target.deviceName))
  | none =>
    let targets := Dict.ofList (inventory.map fun item => (item.deviceName, item))
    let missing := (plan.devices.map DeviceConfigurationPlan.deviceName).filter fun name =>
      !targets.contains name
    if missing ≠ [] then
      .error ("Deferred Voice targets not found: " ++
        String.intercalate ", " (sortedBy id missing))
    else
      return Dict.ofList (plan.devices.filterMap fun item =>
        (targets.get? item.deviceName).map fun target => (item.deviceId, target.deviceName))

/-- What a runtime observed about the forwarding of an access port. -/
def observedForwarding (expectations : List VerificationExpectation)
    (answer : Except String (List RuntimeVerification)) : Dict String RuntimeVerification :=
  match answer with
  | .ok verifications => Dict.ofList (verifications.map fun item => (item.expectationId, item))
  | .error message => Dict.ofList (expectations.map fun item =>
      (item.id,
        { expectationId := item.id
          status := .unobservable
          message := "Voice access forwarding could not be observed: " ++ message }))

/-- The forwarding result for one expectation. -/
def forwardingResult (observed : Dict String RuntimeVerification)
    (expectation : VerificationExpectation) : VerificationResult :=
  let item := (observed.get? expectation.id).getD
    { expectationId := expectation.id
      status := .unobservable
      message := "Runtime returned no Voice access forwarding result." }
  { expectationId := expectation.id
    actionId := expectation.actionId
    status := item.status
    evidenceMethod := item.evidenceMethod
    freshEvidence := item.freshEvidence
    fields := item.fields
    message := item.message
    convergence := item.convergence }

/-- `separator.join(filter(None, (first, second)))`. -/
def joinNonempty (separator first second : String) : String :=
  String.intercalate separator ([first, second].filter (· ≠ ""))

/-- `_merge_voice_signal_verification`. -/
def mergeVoiceSignalVerification (direct forwarding : VerificationResult) : VerificationResult :=
  let voiceForwarding : FieldVerificationStatus :=
    if forwarding.status = .verified then .verified
    else if forwarding.status = .failed then .failed
    else .unobservable
  let forwardingFields :=
    if forwarding.fields.contains "voice_forwarding" then forwarding.fields
    else forwarding.fields.set "voice_forwarding" voiceForwarding
  { direct with
    status :=
      if direct.status = .failed ∨ forwarding.status = .failed then .failed
      else if direct.status = .verified ∧ forwarding.status = .verified then .verified
      else .partial_
    evidenceMethod := joinNonempty "+" direct.evidenceMethod forwarding.evidenceMethod
    freshEvidence := direct.freshEvidence && forwarding.freshEvidence
    fields := direct.fields.update forwardingFields
    message := joinNonempty " " direct.message forwarding.message
    convergence := forwarding.convergence }

/-- Whether the observer is told that the Voice signal is verified. -/
def signalVerified (signalResults : List ActionApplicationResult)
    (direct : List VerificationResult) : Bool :=
  !signalResults.isEmpty && signalResults.all (fun item => satisfiesApplyDependency item.status) &&
    !direct.isEmpty && direct.all (·.status = .verified)

/-- Whether the observer is told that the access ports forward. -/
def forwardingVerified (expectations : List VerificationExpectation)
    (forwarding : List VerificationResult) : Bool :=
  !forwarding.isEmpty && forwarding.length = expectations.length &&
    (forwarding.map VerificationResult.expectationId).dedup.length = expectations.length &&
    forwarding.all fun item =>
      item.status = .verified && item.fields.get? "voice_forwarding" = some .verified

/-- Call the lifecycle observer when the condition holds. -/
def observeLifecycle (completion : CompletionRequest) (condition : Bool) (name : String) :
    Applying Unit :=
  if condition then
    observe (completion.lifecycleObserver.map fun observer trace => observer trace name)
  else pure ()

/-- The message of the completed barrier. -/
def completedBarrierMessage (retainedStateOnly : Bool) (signalStatus : ActionExecutionStatus) :
    String :=
  if retainedStateOnly ∧ signalStatus = .verified then
    "Retained Voice signal state was independently verified; no " ++
      "access action was dispatched."
  else if signalStatus = .verified then
    "Voice bootstrap completed; the original typed access actions " ++
      "were dispatched and independently verified."
  else "Deferred Voice signalling or verification failed."

/-- The results of the second stage: those of the application when the state is only qualified,
those of a dispatch otherwise.  The Voice identifiers are a set in the source; here they are taken
in the order of the plan. -/
def completionSignals (plan : ConfigurationPlan)
    (actionById : Dict String ActionApplicationResult)
    (deferredActions : List ConfigurationAction) (deployedNames : Dict String String)
    (retainedStateOnly : Bool) : Applying (Dict String ActionApplicationResult) :=
  if retainedStateOnly then do
    let voiceIds := ((voiceActions plan).map ConfigurationAction.id).dedup
    let results ← Interaction.ofExcept (subscripts actionById voiceIds)
    return Dict.ofList (voiceIds.zip results)
  else applicator.applyReadyActions deferredActions deployedNames []

/-- What verifying the Voice expectations yields. -/
structure VoiceVerification where
  forwardingResults : List VerificationResult
  verifiedById : Dict String VerificationResult

/-- The verification of the Voice expectations: directly, and by the forwarding of the ports. -/
def verifyVoice (expectations : List VerificationExpectation)
    (signalResults : List ActionApplicationResult) (completion : CompletionRequest) :
    Applying VoiceVerification := do
  let direct ← applicator.verify expectations
  let directById := Dict.ofList (direct.map fun item => (item.expectationId, item))
  observeLifecycle completion (signalVerified signalResults directById.values)
    "VOICE_SIGNAL_VERIFIED"
  let answer ← Interaction.exchange
    (fun trace => applicator.runtime.waitForVoiceAccessForwarding trace expectations)
    (RuntimeEvent.waitForVoiceAccessForwarding expectations)
  let forwardingResults :=
    expectations.map (forwardingResult (observedForwarding expectations answer))
  let directResults ← Interaction.ofExcept
    (subscripts directById (expectations.map VerificationExpectation.id))
  let verifiedById := Dict.ofList ((directResults.zip forwardingResults).map fun item =>
    (item.2.expectationId, mergeVoiceSignalVerification item.1 item.2))
  observeLifecycle completion (forwardingVerified expectations forwardingResults)
    "PHONE_ACCESS_FWD_VERIFIED"
  return { forwardingResults, verifiedById }

/-- The result that the completion reports. -/
def completionResult (plan : ConfigurationPlan) (application : ConfigurationApplicationResult)
    (barrier : VoiceSignalBarrierResult) (retainedStateOnly : Bool)
    (signals : Dict String ActionApplicationResult) (voice : VoiceVerification) :
    Except RaisedError ConfigurationApplicationResult := do
  let actionById := (Dict.ofList
    (application.actionResults.map fun item => (item.actionId, item))).update signals
  let actionResults ← subscripts actionById (plan.actions.map ConfigurationAction.id)
  let verificationById := (Dict.ofList
    (application.verificationResults.map fun item => (item.expectationId, item))).update
      voice.verifiedById
  let verificationResults ← subscripts verificationById
    (plan.verificationExpectations.map VerificationExpectation.id)
  let signalStatus := voiceSignalStatus signals.values voice.verifiedById.values
    barrier.foundationStatus
  let (status, failureCode) := overallStatus actionResults verificationResults
  let journal ← mutationJournal plan application.deploymentId application.mutationActionIds
    actionResults
  return { application with
    status := status
    failureCode := failureCode
    actionResults := actionResults
    verificationResults := verificationResults
    executionJournal := some journal
    dirtyState := journal.dirtyState
    voiceSignalBarrier := some { barrier with
      signalResults := signals.values
      postSignalConvergenceResults := voice.forwardingResults
      signalStatus := signalStatus
      message := completedBarrierMessage retainedStateOnly signalStatus } }

/-- The completion once its targets are resolved. -/
def completeResolved (plan : ConfigurationPlan) (application : ConfigurationApplicationResult)
    (completion : CompletionRequest) (barrier : VoiceSignalBarrierResult)
    (deferredActions : List ConfigurationAction) (deployedNames : Dict String String) :
    Applying ConfigurationApplicationResult := do
  let actionById := Dict.ofList (application.actionResults.map fun item => (item.actionId, item))
  let signals ← applicator.completionSignals plan actionById deferredActions deployedNames
    completion.retainedStateOnly
  let voiceIds := (voiceActions plan).map ConfigurationAction.id
  let expectations := (plan.verificationExpectations.filter (·.actionId ∈ voiceIds)).map
    (runtimeExpectation deployedNames)
  let voice ← applicator.verifyVoice expectations signals.values completion
  Interaction.ofExcept
    (completionResult plan application barrier completion.retainedStateOnly signals voice)

/-- The identifiers that a completion dispatches: none when the state is only qualified. -/
def completionDeferredIds (completion : CompletionRequest) (barrier : VoiceSignalBarrierResult) :
    List String :=
  if completion.retainedStateOnly then [] else barrier.deferredActionIds

/-- `complete_deferred_voice_signals`. -/
def completeDeferredVoiceSignals (plan : ConfigurationPlan)
    (application : ConfigurationApplicationResult) (completion : CompletionRequest) :
    Applying ConfigurationApplicationResult := do
  match ← Interaction.ofExcept
      (completionBarrier plan application completion.retainedStateOnly) with
  | .error message => return voiceSignalCompletionFailure application message
  | .ok barrier =>
    match completionActions plan (completionDeferredIds completion barrier) with
    | .error message => return voiceSignalCompletionFailure application message
    | .ok deferredActions =>
      let answer ← Interaction.exchange applicator.runtime.inventory RuntimeEvent.inventory
      match applicator.resolveDeployedNames plan application completion.deploymentManifest
          answer with
      | .error message =>
        return voiceSignalCompletionFailure application
          ("Deferred Voice target resolution failed: " ++ message)
      | .ok deployedNames =>
        applicator.completeResolved plan application completion barrier deferredActions
          deployedNames

/-- The Voice flow: `apply`, and then the completion of its deferred signals. -/
def applyAndComplete (plan : ConfigurationPlan) (request : ApplyRequest)
    (completion : CompletionRequest) : Applying ConfigurationApplicationResult := do
  let application ← applicator.apply plan request
  applicator.completeDeferredVoiceSignals plan application completion

end ConfigurationApplicator

end PacketTracer
