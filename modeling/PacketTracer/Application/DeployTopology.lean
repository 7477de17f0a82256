import PacketTracer.Domain.PhysicalDeployment
import PacketTracer.Library.Interaction

/-!
# Deploying a physical topology

`EnterprisePhysicalTopologyDeployer.deploy`: preflight, a look at the workspace and the capabilities
of the modules, then devices and modules are ensured and observed, then links, and at last the
manifest is built from what was observed.

The backend is an environment: each answer is an arbitrary function of everything that happened
before, and may be an exception.  A `return` before the end is an error of the computation.
-/

namespace PacketTracer

open Dicts PyText PyStrs Interactions

/-- Whether a text is blank: `not text.strip()`. -/
def IsBlank (text : String) : Prop := strip text.toList = []

instance (text : String) : Decidable (IsBlank text) := by
  unfold IsBlank
  infer_instance

/-- `_module_id`. -/
def Plans.ModulePlan.moduleId (module : Plans.ModulePlan) : String :=
  s!"{module.device}:{module.slot}:{module.module}"

/-- `module_state_token`. -/
def moduleStateToken (module slot : String) : String :=
  s!"{String.ofList (strip module.toList)}@{String.ofList (strip slot.toList)}"

/-- `_planned_ports(topology).get(identifier, set())`: the ports that the links use on a device. -/
def plannedPorts (topology : Plans.TopologyPlan) (identifier : String) : List String :=
  (topology.links.flatMap fun link =>
    (if link.firstDevice = identifier then [link.portA] else []) ++
      (if link.secondDevice = identifier then [link.portB] else [])).dedup

/-- What the preflight asks besides the plan. -/
structure PreflightServices where
  /-- The digest of the physical payload. -/
  physicalHash : Plans.TopologyPlan → String
  /-- The resolver of port names: model, backend, version and installed modules. -/
  portInventory : String → String → String → List String → PortInventoryResolution
  casefold : String → String

/-- The checks on the identifiers and names of the devices. -/
def deviceErrors (topology : Plans.TopologyPlan) : List String :=
  let deviceIds := topology.devices.map Plans.DevicePlan.semanticId
  let deviceNames := topology.devices.map Plans.DevicePlan.name
  (if deviceIds.any (IsBlank ·) then ["Every physical device requires a semantic identifier."]
    else []) ++
  (if ¬deviceIds.Nodup then ["Physical device semantic identifiers must be unique."] else []) ++
  (if ¬deviceNames.Nodup then ["Deployed device names must be unique within one topology."]
    else [])

/-- The checks on the modules; a slot is taken when an earlier module sits in it. -/
def moduleErrors (knownNames : List String) : List (String × String) → List Plans.ModulePlan →
    List String
  | _, [] => []
  | taken, module :: modules =>
    (if module.device ∉ knownNames then
      [s!"Module {quoted module.moduleId} references unknown device {quoted module.device}."]
      else []) ++
    (if IsBlank module.slot ∨ IsBlank module.module then
      [s!"Module {quoted module.moduleId} requires a concrete slot and module model."]
      else []) ++
    (if (module.device, module.slot) ∈ taken then
      [s!"Physical module slot {quoted module.device}:{quoted module.slot} is assigned " ++
        "more than once."]
      else []) ++
    moduleErrors knownNames ((module.device, module.slot) :: taken) modules

/-- The checks on one endpoint of a link. -/
def endpointErrors (idToName : Dict String String) (knownNames : List String) (linkId : String)
    (used : List (String × String)) (identifier name port : String) : List String :=
  (match idToName.get? identifier with
    | some expected =>
      if name ∉ knownNames then
        [s!"Link {quoted linkId} references unknown endpoint {quoted identifier}/{quoted name}."]
      else if expected ≠ name then
        [s!"Link {quoted linkId} crosses semantic endpoint {quoted identifier} " ++
          s!"with deployed name {quoted name}; expected {quoted expected}."]
      else []
    | none =>
      [s!"Link {quoted linkId} references unknown endpoint {quoted identifier}/{quoted name}."]) ++
  (if IsBlank port then [s!"Link {quoted linkId} has an empty physical port."] else []) ++
  (if (identifier, port) ∈ used then
    [s!"Physical port {quoted identifier}:{quoted port} is assigned to more than one link."]
    else [])

/-- The checks on the links; a port is used when an earlier endpoint has it. -/
def linkErrors (idToName : Dict String String) (knownNames : List String) :
    List (String × String) → List Plans.LinkPlan → List String
  | _, [] => []
  | used, link :: links =>
    let first := (link.firstDevice, link.portA)
    let second := (link.secondDevice, link.portB)
    endpointErrors idToName knownNames link.semanticLinkId used link.firstDevice link.deviceA
      link.portA ++
    endpointErrors idToName knownNames link.semanticLinkId (first :: used) link.secondDevice
      link.deviceB link.portB ++
    (if IsBlank link.cable then [s!"Link {quoted link.semanticLinkId} has no cable identity."]
      else []) ++
    linkErrors idToName knownNames (second :: first :: used) links

/-- The checks on the identifiers of the links. -/
def linkIdErrors (topology : Plans.TopologyPlan) : List String :=
  let linkIds := topology.links.map Plans.LinkPlan.semanticLinkId
  (if linkIds.any (IsBlank ·) then ["Every physical link requires a semantic identifier."]
    else []) ++
  (if ¬linkIds.Nodup then ["Physical link semantic identifiers must be unique."] else [])

/-- One turn of `_port_evidence_errors`. -/
def portEvidenceError (services : PreflightServices) (topology : Plans.TopologyPlan)
    (fingerprint : EnvironmentFingerprint) (device : Plans.DevicePlan) : List String :=
  let required := sortedBy services.casefold (plannedPorts topology device.semanticId)
  if required = [] then []
  else
    let installed := (topology.modules.filter (·.device = device.name)).map fun module =>
      moduleStateToken module.module module.slot
    let resolution := services.portInventory device.model fingerprint.backend
      fingerprint.backendVersion installed
    let unsupported := resolution.unsupportedPorts services.casefold required
    let unsupportedText := String.intercalate ", " unsupported
    if unsupported = [] then []
    else
      [s!"Device {quoted device.semanticId} ({device.model}) plans port(s) " ++
        s!"{unsupportedText} that no backend-verified port inventory " ++
        s!"authorises on {fingerprint.backend} {fingerprint.backendVersion}: " ++
        (if resolution.reason ≠ "" then resolution.reason else "declared only")]

/-- `_port_evidence_errors`. -/
def portEvidenceErrors (services : PreflightServices) (topology : Plans.TopologyPlan)
    (fingerprint : EnvironmentFingerprint) : List String :=
  (sortedBy Plans.DevicePlan.semanticId topology.devices).flatMap
    (portEvidenceError services topology fingerprint)

/-- `_preflight`. -/
def deploymentPreflight (services : PreflightServices) (topology : Plans.TopologyPlan)
    (fingerprint : EnvironmentFingerprint) : List String × PhysicalDeploymentFailureCode :=
  let topologyErrors := topology.errors.map fun message => s!"Topology error: {message}"
  if topology.hashSchemaVersion ≠ "2" ∨ topology.physicalTopologyHash = "" then
    (topologyErrors ++
      ["E4 physical deployment requires an explicit physical-topology-v2 hash."],
      .physicalHashMismatch)
  else if services.physicalHash topology ≠ topology.physicalTopologyHash then
    (topologyErrors ++
      ["Stored physical topology hash does not match the current E4 physical plan."],
      .physicalHashMismatch)
  else if IsBlank fingerprint.backend ∨ IsBlank fingerprint.backendVersion then
    (topologyErrors ++
      ["A real backend and backend version fingerprint must be injected before deployment."],
      .environmentFingerprintInvalid)
  else
    let knownNames := topology.devices.map Plans.DevicePlan.name
    let idToName := Dict.ofList
      (topology.devices.map fun device => (device.semanticId, device.name))
    let errors := topologyErrors ++ deviceErrors topology ++
      moduleErrors knownNames [] topology.modules ++ linkIdErrors topology ++
      linkErrors idToName knownNames [] topology.links
    if errors ≠ [] then (errors, .invalidTopology)
    else
      let portErrors := portEvidenceErrors services topology fingerprint
      if portErrors ≠ [] then (portErrors, .portEvidenceUnavailable) else ([], .none)

/-! ## The backend and its history -/

/-- One call of the backend and what it answered or raised. -/
inductive PhysicalEvent
  | observeWorkspace (answer : Except String (Option PhysicalWorkspaceObservation))
  | moduleEffectCapability (module : Plans.ModulePlan) (device : Plans.DevicePlan)
      (answer : Except String PhysicalModuleEffectCapability)
  | ensureDevice (device : Plans.DevicePlan) (answer : Except String PhysicalMutationResult)
  | ensureModule (module : Plans.ModulePlan) (answer : Except String PhysicalMutationResult)
  | observeModuleEffect (module : Plans.ModulePlan)
      (answer : Except String PhysicalModuleObservation)
  | observeDevice (device : Plans.DevicePlan) (answer : Except String PhysicalDeviceObservation)
  | ensureLink (link : Plans.LinkPlan) (answer : Except String PhysicalMutationResult)
  | observeLink (link : Plans.LinkPlan) (answer : Except String PhysicalLinkObservation)

/-- `PhysicalTopologyRuntime`: the answers of a backend after a given history.  An answer of
another type to `observe_workspace` is `none`; the operations on modules may be missing. -/
structure PhysicalTopologyRuntime where
  observeWorkspace : List PhysicalEvent → Except String (Option PhysicalWorkspaceObservation)
  hasModuleEffectCapability : Bool
  moduleEffectCapability : List PhysicalEvent → Plans.ModulePlan → Plans.DevicePlan →
    Except String PhysicalModuleEffectCapability
  ensureDevice : List PhysicalEvent → Plans.DevicePlan → Except String PhysicalMutationResult
  hasEnsureModule : Bool
  ensureModule : List PhysicalEvent → Plans.ModulePlan → Except String PhysicalMutationResult
  hasObserveModuleEffect : Bool
  observeModuleEffect : List PhysicalEvent → Plans.ModulePlan →
    Except String PhysicalModuleObservation
  observeDevice : List PhysicalEvent → Plans.DevicePlan → Except String PhysicalDeviceObservation
  ensureLink : List PhysicalEvent → Plans.LinkPlan → Except String PhysicalMutationResult
  observeLink : List PhysicalEvent → Plans.LinkPlan → Except String PhysicalLinkObservation

/-- A computation of the deployer; a result that is returned early is its error. -/
abbrev Deploying (α : Type) : Type := Interaction PhysicalEvent PhysicalDeploymentResult α

/-- `EnterprisePhysicalTopologyDeployer`. -/
structure TopologyDeployer extends PreflightServices where
  runtime : PhysicalTopologyRuntime

/-- The arguments of `deploy`. -/
structure DeploymentRequest where
  topology : Plans.TopologyPlan
  environmentFingerprint : EnvironmentFingerprint
  deploymentId : String := ""
  requireEmptyWorkspace : Bool := false

/-- `resolved_deployment_id`. -/
def DeploymentRequest.resolvedDeploymentId (request : DeploymentRequest) : String :=
  let physicalHash := request.topology.physicalIdentityHash
  if request.deploymentId ≠ "" then request.deploymentId
  else if physicalHash ≠ "" then
    s!"deployment/{String.ofList (physicalHash.toList.take 16)}"
  else "deployment/unverified"

/-- `topology.id or topology.name`. -/
def DeploymentRequest.topologyId (request : DeploymentRequest) : String :=
  if request.topology.id ≠ "" then request.topology.id else request.topology.name

/-- The results of the items by kind and identifier. -/
abbrev ItemResults : Type := Dict (PhysicalObjectKind × String) PhysicalDeploymentItemResult

/-- The journal and the results of the items. -/
structure DeploymentState where
  journal : ApplicationExecutionJournal
  itemResults : ItemResults := Dict.empty

/-! ## Results and the journal -/

/-- `_ordered_items`. -/
def orderedItems (items : ItemResults) : List PhysicalDeploymentItemResult :=
  (sortedBy (fun entry => toLex (entry.1.1.value, entry.1.2)) items.entries).map Prod.snd

/-- `_result`: a deployment that stopped. -/
def stoppedDeployment (request : DeploymentRequest) (state : DeploymentState)
    (failureCode : PhysicalDeploymentFailureCode) (errors : List String) :
    PhysicalDeploymentResult :=
  let partially := state.itemResults.values.any fun item =>
    item.applied ∨ item.observed ∨ item.status = .satisfied
  { topologyId := request.topologyId
    physicalTopologyHash := request.topology.physicalIdentityHash
    deploymentId := request.resolvedDeploymentId
    environmentFingerprint := request.environmentFingerprint
    status := if partially then .partially else .failed
    failureCode := failureCode
    itemResults := orderedItems state.itemResults
    executionJournal := state.journal
    dirtyState := state.journal.dirtyState
    errors := errors }

/-- `journal.append` of an entry numbered `len(journal.entries) + 1`, which does not raise. -/
def appendEntry (journal : ApplicationExecutionJournal) (entry : ℤ → ExecutionJournalEntry) :
    ApplicationExecutionJournal :=
  match journal.append (entry (journal.entries.length + 1)) with
  | .ok journal => journal
  | .error _ => journal

/-- The entry of `_append_mutation`. -/
def mutationEntry (mutation : PhysicalMutationResult) (error : String) (ordinal : ℤ) :
    ExecutionJournalEntry :=
  { ordinal := ordinal
    actionId := s!"ensure-{mutation.targetKind.value}:{mutation.targetId}"
    operation := .ensurePresent
    disposition :=
      if mutation.disposition = .unknown then .unknown
      else if error ≠ "" then .failed
      else mutation.disposition
    inverseActionId := mutation.inverseActionId
    inverseAvailable := mutation.inverseAvailable
    message := if error ≠ "" then error else mutation.message }

/-- The entry of `_append_observation_failure`. -/
def observationFailureEntry (actionId message : String) (ordinal : ℤ) : ExecutionJournalEntry :=
  { ordinal := ordinal
    actionId := actionId
    operation := .transition
    disposition := .failed
    message := message }

/-- `_item_from_mutation`. -/
def itemFromMutation (mutation : PhysicalMutationResult) (error : String) :
    PhysicalDeploymentItemResult :=
  { targetId := mutation.targetId
    targetKind := mutation.targetKind
    status :=
      if error ≠ "" then .failed
      else if mutation.disposition = .noOp then .satisfied
      else .applied
    disposition := mutation.disposition
    applied := mutation.applied
    message := if error ≠ "" then error else mutation.message }

/-- Journal an ensure step, and stop when it failed. -/
def recordEnsured (request : DeploymentRequest) (kind : PhysicalObjectKind) (targetId : String)
    (failureCode : PhysicalDeploymentFailureCode) (state : DeploymentState)
    (ensured : PhysicalMutationResult × String) : Deploying DeploymentState :=
  let state : DeploymentState :=
    { journal := appendEntry state.journal (mutationEntry ensured.1 ensured.2)
      itemResults :=
        state.itemResults.set (kind, targetId) (itemFromMutation ensured.1 ensured.2) }
  if ensured.2 ≠ "" then Interaction.raise (stoppedDeployment request state failureCode [ensured.2])
  else pure state

/-- Enter the outcome of an observation into the item, and journal its failure. -/
def recordObserved (kind : PhysicalObjectKind) (targetId : String) (state : DeploymentState)
    (error : String) : DeploymentState :=
  let update (item : PhysicalDeploymentItemResult) : PhysicalDeploymentItemResult :=
    if error ≠ "" then { item with status := .failed, observed := false, message := error }
    else { item with status := .observed, observed := true }
  { journal :=
      if error ≠ "" then
        appendEntry state.journal
          (observationFailureEntry s!"observe-{kind.value}:{targetId}" error)
      else state.journal
    itemResults :=
      match state.itemResults.get? (kind, targetId) with
      | some item => state.itemResults.set (kind, targetId) (update item)
      | none => state.itemResults }

/-! ## Judging the answers -/

/-- `_mutation_error`. -/
def mutationError (mutation : PhysicalMutationResult) (expectedId : String)
    (expectedKind : PhysicalObjectKind) : String :=
  if mutation.targetId ≠ expectedId ∨ mutation.targetKind ≠ expectedKind then
    s!"Runtime ensure result identity {mutation.targetKind.value}:{quoted mutation.targetId} " ++
      s!"does not match {expectedKind.value}:{quoted expectedId}."
  else if ¬(mutation.disposition = .changed ∨ mutation.disposition = .noOp ∨
      mutation.disposition = .reasserted) then
    if mutation.message ≠ "" then mutation.message
    else s!"Runtime did not ensure {expectedKind.value} {quoted expectedId}."
  else if (mutation.disposition = .changed ∨ mutation.disposition = .reasserted) ∧
      !mutation.applied then
    s!"Runtime reported {mutation.disposition.value} for {quoted expectedId} " ++
      "without confirming application."
  else ""

/-- `_failed_mutation`. -/
def failedMutation (targetId : String) (kind : PhysicalObjectKind) (message : String) :
    PhysicalMutationResult × String :=
  ({ targetId := targetId, targetKind := kind, disposition := .failed, message := message },
    message)

/-- What `_ensure_device` and `_ensure_link` make of an answer: the result of a failed step is
entered under the planned identity. -/
def ensuredAs (label : String) (kind : PhysicalObjectKind) (targetId : String)
    (answer : Except String PhysicalMutationResult) : PhysicalMutationResult × String :=
  match answer with
  | .error exc => failedMutation targetId kind s!"{label} ensure failed for {quoted targetId}: {exc}"
  | .ok mutation =>
    let error := mutationError mutation targetId kind
    if error ≠ "" ∧ (mutation.targetId ≠ targetId ∨ mutation.targetKind ≠ kind) then
      ({ mutation with targetId := targetId, targetKind := kind }, error)
    else (mutation, error)

/-- What `_ensure_module` makes of an answer: the result stays as the backend named it. -/
def ensuredModule (targetId : String) (answer : Except String PhysicalMutationResult) :
    PhysicalMutationResult × String :=
  match answer with
  | .error exc =>
    failedMutation targetId .module s!"Module ensure failed for {quoted targetId}: {exc}"
  | .ok mutation => (mutation, mutationError mutation targetId .module)

/-- What `_observe_workspace` makes of an answer: the error, and whether the workspace was seen. -/
def workspaceError (casefold : String → String)
    (answer : Except String (Option PhysicalWorkspaceObservation)) : String × Bool :=
  match answer with
  | .error exc => (s!"Read-only workspace inventory failed: {exc}", false)
  | .ok none => ("Runtime returned an invalid workspace inventory type.", false)
  | .ok (some observation) =>
    (disposableWorkspaceError casefold observation, observation.observed)

/-- What `_module_effect_capability` makes of an answer. -/
def capabilityError (module : Plans.ModulePlan)
    (answer : Except String PhysicalModuleEffectCapability) : String :=
  let targetId := module.moduleId
  match answer with
  | .error exc => s!"Module capability failed for {quoted targetId}: {exc}"
  | .ok capability =>
    if capability.targetId ≠ targetId then
      s!"Module capability returned target {quoted capability.targetId}; " ++
        s!"expected {quoted targetId}."
    else if capability.operationSupport ≠ .supported then
      s!"Module operation for {quoted targetId} is " ++
        s!"{capability.operationSupport.value}; refusing mutation."
    else if capability.effectObservationSupport ≠ .supported then
      s!"Module effect observation for {quoted targetId} is " ++
        s!"{capability.effectObservationSupport.value}; refusing mutation."
    else if capability.expectedPorts = [] then
      s!"Module effect capability for {quoted targetId} declares no expected ports."
    else ""

/-- What `_observe_module_effect` makes of an answer. -/
def moduleEffectError (casefold : String → String) (module : Plans.ModulePlan)
    (capability : PhysicalModuleEffectCapability)
    (answer : Except String PhysicalModuleObservation) : String :=
  let targetId := module.moduleId
  match answer with
  | .error exc => s!"Module-effect observation failed for {quoted targetId}: {exc}"
  | .ok observation =>
    let missing := String.intercalate ", " (sortedBy id
      (capability.expectedPorts.dedup.filter (· ∉ observation.portsAfter)))
    let status := observation.effectVerificationStatus casefold
    if observation.targetId ≠ targetId then
      s!"Module-effect observation returned target {quoted observation.targetId}; " ++
        s!"expected {quoted targetId}."
    else if observation.deviceName ≠ module.device ∨ observation.requestedSlot ≠ module.slot ∨
        observation.requestedModule ≠ module.module then
      s!"Module-effect observation for {quoted targetId} crossed its requested target."
    else if !observation.observed then s!"Module effect for {quoted targetId} was not observed."
    else if observation.freshness ≠ .fresh then
      s!"Module effect for {quoted targetId} is stale or undated."
    else if !observation.portInventoryObserved then
      s!"Module effect port inventory for {quoted targetId} was unobservable."
    else if observation.expectedPorts.toFinset ≠ capability.expectedPorts.toFinset then
      s!"Module-effect observation for {quoted targetId} changed the expected port set."
    else if ¬capability.expectedPorts ⊆ observation.portsAfter then
      s!"Module effect for {quoted targetId} is missing expected port(s): {missing}"
    else if ¬capability.expectedPorts ⊆ observation.observedExpectedPorts then
      s!"Module effect for {quoted targetId} is only partially observed."
    else if ¬capability.expectedPortClasses ⊆ observation.observedPortClasses then
      s!"Module effect for {quoted targetId} lacks the expected port class evidence."
    else if status ≠ .verified then
      s!"Module port effect for {quoted targetId} is not VERIFIED ({status.value}); " ++
        "only a fresh, complete, transaction-caused effect is evidence."
    else if observation.identityObservationStatus = .observed ∧
        observation.observedModuleIdentity ≠ module.module then
      s!"Observed module identity {quoted observation.observedModuleIdentity} " ++
        s!"contradicts requested identity {quoted module.module} for {quoted targetId}."
    else ""

/-- What `_observe_device` makes of an answer. -/
def deviceObservationError (device : Plans.DevicePlan) (requiredPorts : List String)
    (answer : Except String PhysicalDeviceObservation) : String × PhysicalDeploymentFailureCode :=
  let targetId := device.semanticId
  match answer with
  | .error exc =>
    (s!"Device observation failed for {quoted targetId}: {exc}", .deviceObservationFailed)
  | .ok observation =>
    let missing := sortedBy id (requiredPorts.filter (· ∉ observation.interfaces))
    let missingText := String.intercalate ", " missing
    if observation.targetId ≠ targetId then
      (s!"Device observation returned target {quoted observation.targetId}; expected " ++
        s!"{quoted targetId}.", .deviceObservationFailed)
    else if !observation.observed then
      (s!"Device {quoted targetId} was not observed after ensure.", .deviceObservationFailed)
    else if observation.deployedName ≠ device.name then
      (s!"Device {quoted targetId} name {quoted observation.deployedName} does not match " ++
        s!"{quoted device.name}.", .deviceObservationFailed)
    else if observation.model ≠ device.model then
      (s!"Device {quoted targetId} model {quoted observation.model} does not match " ++
        s!"{quoted device.model}.", .deviceObservationFailed)
    else if !observation.interfacesObserved then
      (s!"Device {quoted targetId} port inventory was not observed.", .portObservationFailed)
    else if missing ≠ [] then
      (s!"Device {quoted targetId} is missing planned physical port(s): {missingText}.",
        .portObservationFailed)
    else ("", .none)

/-- What `_observe_link` makes of an answer. -/
def linkObservationError (link : Plans.LinkPlan)
    (answer : Except String PhysicalLinkObservation) : String :=
  let targetId := link.semanticLinkId
  match answer with
  | .error exc => s!"Link observation failed for {quoted targetId}: {exc}"
  | .ok observation =>
    let expected := (link.deviceA, link.portA, link.deviceB, link.portB)
    let observed :=
      (observation.deviceA, observation.portA, observation.deviceB, observation.portB)
    let reversedObserved :=
      (observation.deviceB, observation.portB, observation.deviceA, observation.portA)
    if observation.targetId ≠ targetId then
      s!"Link observation returned target {quoted observation.targetId}; " ++
        s!"expected {quoted targetId}."
    else if !observation.observed then s!"Link {quoted targetId} was not observed after ensure."
    else if ¬(expected = observed ∨ expected = reversedObserved) then
      s!"Link {quoted targetId} does not match its exact planned endpoints and ports."
    else if observation.cableObserved ∧ observation.cable ≠ link.cable then
      s!"Link {quoted targetId} cable {quoted observation.cable} does not match " ++
        s!"the planned cable {quoted link.cable}."
    else ""

/-- `_link_binding_from_observation`. -/
def linkBindingFromObservation (link : Plans.LinkPlan) (observation : PhysicalLinkObservation) :
    Except String DeploymentLinkBinding :=
  let binding (interfaceA interfaceB : String) : DeploymentLinkBinding :=
    { semanticLinkId := link.semanticLinkId
      endpointA := { semanticDeviceId := link.firstDevice, interface := interfaceA }
      endpointB := { semanticDeviceId := link.secondDevice, interface := interfaceB }
      runtimeLinkIdentifier := observation.runtimeLinkIdentifier
      runtimeLinkIdentityObserved :=
        observation.runtimeLinkIdentityObserved ∧ observation.runtimeLinkIdentifier ≠ "" }
  if observation.deviceA = link.deviceA ∧ observation.deviceB = link.deviceB then
    .ok (binding observation.portA observation.portB)
  else if observation.deviceA = link.deviceB ∧ observation.deviceB = link.deviceA then
    .ok (binding observation.portB observation.portA)
  else
    .error (s!"Observed link {quoted link.semanticLinkId} cannot be mapped to its semantic " ++
      "endpoints.")

/-! ## The steps -/

namespace TopologyDeployer

variable (deployer : TopologyDeployer) (request : DeploymentRequest)

/-- The journal with the messages of failed checks. -/
def withPreflightFailures (journal : ApplicationExecutionJournal) (messages : List String) :
    ApplicationExecutionJournal :=
  messages.foldl ApplicationExecutionJournal.markPreflightFailure journal

/-- The check of the workspace. -/
def checkWorkspace (state : DeploymentState) : Deploying Unit := do
  let answer ← Interaction.exchange deployer.runtime.observeWorkspace .observeWorkspace
  let (error, seen) := workspaceError deployer.casefold answer
  if error ≠ "" then
    Interaction.raise (stoppedDeployment request
      { state with journal := state.journal.markPreflightFailure error }
      (if seen then .workspaceNotEmpty else .workspaceObservationFailed) [error])
  else pure ()

/-- What the capability checks have collected. -/
structure CapabilityScan where
  capabilities : Dict String PhysicalModuleEffectCapability := Dict.empty
  errors : List String := []

/-- `_module_effect_capability`, and one turn of the loop over it. -/
def checkCapability (scan : CapabilityScan) (module : Plans.ModulePlan) :
    Deploying CapabilityScan :=
  match request.topology.devices.find? (·.name = module.device) with
  | none => pure scan
  | some device =>
    if deployer.runtime.hasModuleEffectCapability then do
      let answer ← Interaction.exchange
        (fun trace => deployer.runtime.moduleEffectCapability trace module device)
        (.moduleEffectCapability module device)
      let error := capabilityError module answer
      return {
        capabilities :=
          match answer with
          | .ok capability => scan.capabilities.set module.moduleId capability
          | .error _ => scan.capabilities
        errors := if error ≠ "" then scan.errors ++ [error] else scan.errors }
    else
      return { scan with
        errors := scan.errors ++
          ["The selected backend has no typed module-effect capability; " ++
            "refusing modular deployment before mutation."] }

/-- The capabilities of all modules, or a stop. -/
def checkCapabilities (state : DeploymentState) (modules : List Plans.ModulePlan) :
    Deploying (Dict String PhysicalModuleEffectCapability) := do
  let scan ← Interaction.loop (deployer.checkCapability request) {} modules
  if scan.errors ≠ [] then
    Interaction.raise (stoppedDeployment request
      { state with journal := withPreflightFailures state.journal scan.errors }
      .moduleObservationUnavailable scan.errors)
  else return scan.capabilities

/-- `_ensure_device`, and one turn of the loop over it. -/
def ensureDevice (state : DeploymentState) (device : Plans.DevicePlan) :
    Deploying DeploymentState := do
  let answer ← Interaction.exchange (fun trace => deployer.runtime.ensureDevice trace device)
    (.ensureDevice device)
  recordEnsured request .device device.semanticId .deviceApplicationFailed state
    (ensuredAs "Device" .device device.semanticId answer)

/-- `_ensure_module`, and one turn of the loop over it. -/
def ensureModule (state : DeploymentState) (module : Plans.ModulePlan) :
    Deploying DeploymentState :=
  if deployer.runtime.hasEnsureModule then do
    let answer ← Interaction.exchange (fun trace => deployer.runtime.ensureModule trace module)
      (.ensureModule module)
    recordEnsured request .module module.moduleId .moduleApplicationFailed state
      (ensuredModule module.moduleId answer)
  else
    recordEnsured request .module module.moduleId .moduleApplicationFailed state
      (failedMutation module.moduleId .module
        "Backend declared module observation but has no typed module ensure operation.")

/-- `_ensure_link`, and one turn of the loop over it. -/
def ensureLink (state : DeploymentState) (link : Plans.LinkPlan) : Deploying DeploymentState := do
  let answer ← Interaction.exchange (fun trace => deployer.runtime.ensureLink trace link)
    (.ensureLink link)
  recordEnsured request .link link.semanticLinkId .linkApplicationFailed state
    (ensuredAs "Link" .link link.semanticLinkId answer)

/-- What a loop over observations has collected. -/
structure ObservationScan (α : Type) where
  state : DeploymentState
  observations : Dict String α := Dict.empty
  errors : List (PhysicalDeploymentFailureCode × String) := []

/-- Enter one observation. -/
def ObservationScan.enter {α : Type} (scan : ObservationScan α) (kind : PhysicalObjectKind)
    (targetId : String) (answer : Except String α) (error : String)
    (failureCode : PhysicalDeploymentFailureCode) : ObservationScan α :=
  { state := recordObserved kind targetId scan.state error
    observations :=
      match answer with
      | .ok observation => scan.observations.set targetId observation
      | .error _ => scan.observations
    errors := if error ≠ "" then scan.errors ++ [(failureCode, error)] else scan.errors }

/-- Stop with the first code and all messages when an observation failed. -/
def ObservationScan.finish {α : Type} (scan : ObservationScan α) :
    Deploying (DeploymentState × Dict String α) :=
  match scan.errors with
  | [] => pure (scan.state, scan.observations)
  | (failureCode, _) :: _ =>
    Interaction.raise (stoppedDeployment request scan.state failureCode (scan.errors.map Prod.snd))

/-- `_observe_module_effect`, and one turn of the loop over it. -/
def observeModule (capabilities : Dict String PhysicalModuleEffectCapability)
    (scan : ObservationScan PhysicalModuleObservation) (module : Plans.ModulePlan) :
    Deploying (ObservationScan PhysicalModuleObservation) :=
  match capabilities.get? module.moduleId with
  | none => pure scan
  | some capability =>
    if deployer.runtime.hasObserveModuleEffect then do
      let answer ← Interaction.exchange
        (fun trace => deployer.runtime.observeModuleEffect trace module)
        (.observeModuleEffect module)
      return scan.enter .module module.moduleId answer
        (moduleEffectError deployer.casefold module capability answer) .moduleObservationFailed
    else
      let message := "Backend has no typed module-effect observation operation."
      return scan.enter .module module.moduleId (.error message) message .moduleObservationFailed

/-- `_observe_device`, and one turn of the loop over it. -/
def observeDevice (scan : ObservationScan PhysicalDeviceObservation) (device : Plans.DevicePlan) :
    Deploying (ObservationScan PhysicalDeviceObservation) := do
  let answer ← Interaction.exchange (fun trace => deployer.runtime.observeDevice trace device)
    (.observeDevice device)
  let (error, failureCode) := deviceObservationError device
    (plannedPorts request.topology device.semanticId) answer
  return scan.enter .device device.semanticId answer error failureCode

/-- `_observe_link`, and one turn of the loop over it. -/
def observeLink (scan : ObservationScan PhysicalLinkObservation) (link : Plans.LinkPlan) :
    Deploying (ObservationScan PhysicalLinkObservation) := do
  let answer ← Interaction.exchange (fun trace => deployer.runtime.observeLink trace link)
    (.observeLink link)
  return scan.enter .link link.semanticLinkId answer (linkObservationError link answer)
    .linkObservationFailed

/-- The entry of the inventory that an observed device becomes. -/
def observedTarget (observation : PhysicalDeviceObservation) : RuntimeConfigurationTarget :=
  { deviceName := observation.deployedName
    model := observation.model
    interfaces := sortedBy id observation.interfaces.dedup
    runtimeIdentifier := observation.runtimeIdentifier
    runtimeIdentifierStable := observation.runtimeIdentifierStable
    runtimeFingerprint := observation.runtimeFingerprint }

/-- The manifest of what was observed. -/
def observedManifest (links : List Plans.LinkPlan)
    (devices : Dict String PhysicalDeviceObservation)
    (observedLinks : Dict String PhysicalLinkObservation) : Except String DeploymentManifest := do
  let inventory := (sortedBy Prod.fst devices.entries).map fun entry => observedTarget entry.2
  let linkBindings ← links.mapM fun link =>
    match observedLinks.get? link.semanticLinkId with
    | some observation => linkBindingFromObservation link observation
    | none => .error (quoted link.semanticLinkId)
  buildDeploymentManifest request.topology inventory request.environmentFingerprint
    request.resolvedDeploymentId (some linkBindings)

/-- The end of `deploy`: the manifest, or a stop. -/
def finish (links : List Plans.LinkPlan) (state : DeploymentState)
    (devices : Dict String PhysicalDeviceObservation)
    (observedLinks : Dict String PhysicalLinkObservation) : Deploying PhysicalDeploymentResult :=
  match observedManifest request links devices observedLinks with
  | .error exc =>
    let message := s!"DeploymentManifest creation failed after observation: {exc}"
    Interaction.raise (stoppedDeployment request
      { state with
        journal := appendEntry state.journal (observationFailureEntry "manifest:create" message) }
      .manifestCreationFailed [message])
  | .ok manifest =>
    pure
      { topologyId := request.topologyId
        physicalTopologyHash := request.topology.physicalIdentityHash
        deploymentId := request.resolvedDeploymentId
        environmentFingerprint := request.environmentFingerprint
        status := .verified
        itemResults := orderedItems state.itemResults
        manifest := some manifest
        executionJournal := state.journal
        dirtyState := state.journal.dirtyState }

/-- The journal of a deployment that has not started. -/
def initialState : DeploymentState :=
  { journal := { planId := request.topologyId, deploymentId := request.resolvedDeploymentId } }

/-- `deploy` from the check of the capabilities on. -/
def ensureAndObserve (state : DeploymentState) : Deploying PhysicalDeploymentResult := do
  let devices := sortedBy Plans.DevicePlan.semanticId request.topology.devices
  let modules := sortedBy Plans.ModulePlan.moduleId request.topology.modules
  let links := sortedBy Plans.LinkPlan.semanticLinkId request.topology.links
  let capabilities ← deployer.checkCapabilities request state modules
  let state ← Interaction.loop (deployer.ensureDevice request) state devices
  let state ← Interaction.loop (deployer.ensureModule request) state modules
  let scan ← Interaction.loop (deployer.observeModule capabilities) { state := state } modules
  let (state, _) ← scan.finish request
  let scan ← Interaction.loop (deployer.observeDevice request) { state := state } devices
  let (state, observedDevices) ← scan.finish request
  let state ← Interaction.loop (deployer.ensureLink request) state links
  let scan ← Interaction.loop deployer.observeLink { state := state } links
  let (state, observedLinks) ← scan.finish request
  finish request links state observedDevices observedLinks

/-- `deploy` as a computation. -/
def deploying : Deploying PhysicalDeploymentResult :=
  let state := initialState request
  let (errors, failureCode) := deploymentPreflight deployer.toPreflightServices request.topology
    request.environmentFingerprint
  if errors ≠ [] then
    Interaction.raise (stoppedDeployment request
      { state with journal := withPreflightFailures state.journal errors } failureCode errors)
  else if request.requireEmptyWorkspace then
    deployer.checkWorkspace request state >>= fun _ => deployer.ensureAndObserve request state
  else deployer.ensureAndObserve request state

/-- `deploy`: the result, and the calls that were made. -/
def deploy : PhysicalDeploymentResult × List PhysicalEvent :=
  match (deployer.deploying request).run [] with
  | (.ok result, history) => (result, history)
  | (.error result, history) => (result, history)

end TopologyDeployer

end PacketTracer
