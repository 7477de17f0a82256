import PacketTracer.Domain.ControlPlane
import PacketTracer.Domain.VoicePlan
import PacketTracer.Domain.PhysicalDeployment

/-!
# The canonical stages and their deltas

`compose_cp_scale_canonical.py`: the cumulative projections of the canonical topology and what
changes between two of them; `stage_mutation_scope` of `stage_executor.py`, which says what a stage
may mutate; and the mutation replay audit of `qualify_cp_scale_live.py`.  The digests of a topology
are a parameter.
-/

namespace PacketTracer

namespace Canonical

open Dicts PyText Plans

/-! ## Stages and projections -/

/-- `CPScaleCanonicalStage`, in their order. -/
inductive CPScaleCanonicalStage
  | routingCore
  | router4Switch10
  | floor1
  | floor2
  | floor3
  | router0Branch
  | router3Branch
  | remaining
  deriving DecidableEq

namespace CPScaleCanonicalStage

def value : CPScaleCanonicalStage → String
  | routingCore => "routing-core"
  | router4Switch10 => "router4-switch10"
  | floor1 => "floor1"
  | floor2 => "floor2"
  | floor3 => "floor3"
  | router0Branch => "router0-branch"
  | router3Branch => "router3-branch"
  | remaining => "remaining"

/-- `_CANONICAL_STAGE_ORDER`. -/
def order : CPScaleCanonicalStage → ℕ
  | routingCore => 0
  | router4Switch10 => 1
  | floor1 => 2
  | floor2 => 3
  | floor3 => 4
  | router0Branch => 5
  | router3Branch => 6
  | remaining => 7

end CPScaleCanonicalStage

/-- `CPScaleForwardingAuthority`. -/
inductive CPScaleForwardingAuthority
  | declaredTrafficFlow
  | reversePathOfDeclaredFlow
  deriving DecidableEq

/-- `CPScaleSiteForwardingCheck`; a `CPScaleSelectedSiteForwardingCheck` is one with a destination
selection, and only that one may leave its destination address open. -/
structure CPScaleSiteForwardingCheck where
  id : String
  direction : String
  authority : CPScaleForwardingAuthority
  declaredTrafficFlowId : String
  reverseOfTrafficFlowId : String
  sourceSiteId : String
  destinationSiteId : String
  sourceDeviceId : String
  sourceDeviceName : String
  destinationDeviceId : String
  destinationDeviceName : String
  destinationRouterId : String
  destinationActionId : String
  destinationSegmentId : String
  destinationIpv4 : Option String
  sourceTopologyHash : String
  sourceConfigurationHash : String
  destinationSelection : Option ForwardingEndpointSelection := none
  deriving DecidableEq

/-- `CPScaleUserCommunicationCheck`. -/
structure CPScaleUserCommunicationCheck where
  id : String
  direction : String
  authority : String
  scope : String
  sourceSiteId : String
  destinationSiteId : String
  sourceEndpoint : ForwardingEndpointSelection
  destinationEndpoint : ForwardingEndpointSelection
  targetPolicyId : String
  targetPolicyVersion : String
  sourceTopologyHash : String
  sourceConfigurationHash : String
  deriving DecidableEq

/-- `CPScaleCanonicalStageProjection`. -/
structure CPScaleCanonicalStageProjection where
  stage : CPScaleCanonicalStage
  topology : Plans.TopologyPlan
  configuration : ConfigurationPlan
  controlPlane : ControlPlanePlan
  forwardingChecks : Dict String String := .empty
  voice : Option Voice.VoicePlan := none
  branchForwardingChecks : List CPScaleSiteForwardingCheck := []
  branchUserForwardingChecks : List CPScaleUserCommunicationCheck := []

/-! ## The physical delta -/

/-- `TopologyHashes`. -/
structure TopologyHashes where
  schemaVersion : String := "2"
  physicalTopologyHash : String
  artifactHash : String
  deriving DecidableEq

/-- `stamp_topology_hashes`. -/
def stampTopologyHashes (computeTopologyHashes : Plans.TopologyPlan → TopologyHashes)
    (topology : Plans.TopologyPlan) : Plans.TopologyPlan :=
  let hashes := computeTopologyHashes topology
  { topology with
    hashSchemaVersion := hashes.schemaVersion
    physicalTopologyHash := hashes.physicalTopologyHash
    semanticHash := hashes.artifactHash }

/-- `tuple(sorted(set))`. -/
def sortedSet (ids : List String) : List String := sortedBy id ids.dedup

@[simp] lemma mem_sortedSet {ids : List String} {identifier : String} :
    identifier ∈ sortedSet ids ↔ identifier ∈ ids := by
  simp [sortedSet]

/-- The identifiers of the devices. -/
def deviceIds (topology : Plans.TopologyPlan) : List String := topology.devices.map Plans.DevicePlan.id

/-- The identifiers of the links. -/
def linkIds (topology : Plans.TopologyPlan) : List String := topology.links.map Plans.LinkPlan.id

/-- `project_cp_scale_canonical_delta`. -/
def projectCpScaleCanonicalDelta (computeTopologyHashes : Plans.TopologyPlan → TopologyHashes)
    (previous current : Plans.TopologyPlan) : Except String Plans.TopologyPlan :=
  if (deviceIds previous).any (· ∉ deviceIds current) then
    .error "Canonical stage devices are not cumulative."
  else if (linkIds previous).any (· ∉ linkIds current) then
    .error "Canonical stage links are not cumulative."
  else
    let newDeviceIds := (deviceIds current).filter (· ∉ deviceIds previous)
    let newLinks := current.links.filter (·.id ∉ linkIds previous)
    let anchorIds := newLinks.flatMap fun item => [item.deviceAId, item.deviceBId]
    let newDeviceNames := (current.devices.filter (·.id ∈ newDeviceIds)).map Plans.DevicePlan.name
    .ok (stampTopologyHashes computeTopologyHashes
      { current with
        id := current.id ++ "/physical-delta"
        name := current.name ++ " physical delta"
        devices := current.devices.filter fun item => item.id ∈ newDeviceIds ++ anchorIds
        modules := current.modules.filter (·.device ∈ newDeviceNames)
        links := newLinks })

/-! ## The mutation ids -/

section MutationIds

variable {α : Type} [DecidableEq α]

/-- `{item.id: item for item in actions}`. -/
def actionsById (identifier : α → String) (actions : List α) : Dict String α :=
  Dict.ofList (actions.map fun item => (identifier item, item))

/-- `sorted(set(previous_by_id) - set(current_by_id))`. -/
def omittedIds (previousById currentById : Dict String α) : List String :=
  sortedBy id (previousById.keys.filter fun identifier => (currentById.get? identifier).isNone)

/-- The identifiers of the previous plan whose action is another one in the current plan. -/
def changedIds (previousById currentById : Dict String α) : List String :=
  (previousById.entries.filter fun entry => currentById.get? entry.1 ≠ some entry.2).map Prod.fst

/-- The texts that a check of two cumulative plans raises. -/
structure CumulativeTexts where
  duplicatePrevious : String
  duplicateCurrent : String
  omitted : String
  changed : String

/-- The check of the configuration and of the control plane: nothing is lost or changed, and the
mutation ids are the new ones. -/
def cumulativeMutationIds (texts : CumulativeTexts) (identifier : α → String)
    (previous current : List α) : Except String (List String) :=
  let previousById := actionsById identifier previous
  let currentById := actionsById identifier current
  if previousById.size ≠ previous.length then .error texts.duplicatePrevious
  else if currentById.size ≠ current.length then .error texts.duplicateCurrent
  else
    let omitted := omittedIds previousById currentById
    if omitted ≠ [] then .error (texts.omitted ++ ", ".intercalate omitted)
    else
      let changed := sortedBy id (changedIds previousById currentById)
      if changed ≠ [] then .error (texts.changed ++ ", ".intercalate changed)
      else
        .ok ((current.filter fun item =>
          (previousById.get? (identifier item)).isNone).map identifier)

end MutationIds

/-- `canonical_stage_configuration_mutation_ids`. -/
def canonicalStageConfigurationMutationIds (previous current : ConfigurationPlan) :
    Except String (List String) :=
  cumulativeMutationIds
    { duplicatePrevious := "Previous canonical configuration has duplicate action IDs."
      duplicateCurrent := "Current canonical configuration has duplicate action IDs."
      omitted := "Canonical stage configuration actions are not cumulative: "
      changed := "Canonical stage retained configuration actions changed identity: " }
    ConfigurationAction.id previous.actions current.actions

/-- `canonical_stage_control_plane_mutation_ids`. -/
def canonicalStageControlPlaneMutationIds (previous current : ControlPlanePlan) :
    Except String (List String) :=
  cumulativeMutationIds
    { duplicatePrevious := "Previous canonical control-plane plan has duplicate action IDs."
      duplicateCurrent := "Current canonical control-plane plan has duplicate action IDs."
      omitted := "Canonical stage control-plane actions are not cumulative: "
      changed := "Canonical retained control-plane actions changed identity: " }
    ControlPlaneAction.id previous.actions current.actions

/-- Whether a Voice action may become another one: the files of the phones are generated again for
more dependencies. -/
def allowsExpansion (previousAction currentAction : Voice.VoiceAction) : Bool :=
  previousAction.generatesPhoneFiles && currentAction.generatesPhoneFiles &&
    previousAction.payload = currentAction.payload &&
    previousAction.dependsOn.all (· ∈ currentAction.dependsOn) &&
    previousAction.applyDependencies.all (· ∈ currentAction.applyDependencies) &&
    currentAction.dependsOn.all (· ∈ currentAction.applyDependencies) &&
    currentAction.applyDependencies.all (· ∈ currentAction.dependsOn)

/-- `canonical_stage_voice_mutation_ids`. -/
def canonicalStageVoiceMutationIds (previous current : Voice.VoicePlan) :
    Except String (List String) :=
  let previousById := actionsById Voice.VoiceAction.id previous.actions
  let currentById := actionsById Voice.VoiceAction.id current.actions
  if previousById.size ≠ previous.actions.length then
    .error "Previous canonical Voice plan has duplicate action IDs."
  else if currentById.size ≠ current.actions.length then
    .error "Current canonical Voice plan has duplicate action IDs."
  else
    let omitted := omittedIds previousById currentById
    if omitted ≠ [] then
      .error ("Canonical stage Voice actions are not cumulative: " ++ ", ".intercalate omitted)
    else
      let changed := changedIds previousById currentById
      let invalidChanged := changed.filter fun identifier =>
        !(previousById.get? identifier).any fun previousAction =>
          (currentById.get? identifier).any (allowsExpansion previousAction)
      if invalidChanged ≠ [] then
        .error ("Canonical retained Voice actions changed outside a monotonic " ++
          "phone-file dependency expansion: " ++ ", ".intercalate (sortedBy id invalidChanged))
      else
        .ok ((current.actions.filter fun item =>
          (previousById.get? item.id).isNone || item.id ∈ changed).map Voice.VoiceAction.id)

/-! ## The transition -/

/-- `CPScaleCanonicalStageTransition`. -/
structure CPScaleCanonicalStageTransition where
  previousStage : CPScaleCanonicalStage
  currentStage : CPScaleCanonicalStage
  previousPhysicalTopologyHash : String
  currentPhysicalTopologyHash : String
  newDeviceIds : List String
  anchorDeviceIds : List String
  newLinkIds : List String
  configurationMutationIds : List String
  configurationRetainedIds : List String
  controlPlaneMutationIds : List String
  controlPlaneRetainedIds : List String
  voiceMutationIds : List String
  voiceRetainedIds : List String
  replayedConfigurationIds : List String
  replayedControlPlaneIds : List String
  replayedVoiceIds : List String
  deriving DecidableEq

/-- The actions of a Voice plan that may be absent. -/
def voiceActions (plan : Option Voice.VoicePlan) : List Voice.VoiceAction :=
  (plan.map Voice.VoicePlan.actions).getD []

/-- The Voice mutation ids of a transition. -/
def transitionVoiceMutationIds (previousVoice currentVoice : Option Voice.VoicePlan) :
    Except String (List String) :=
  match currentVoice with
  | none => .ok []
  | some currentVoice =>
    match previousVoice with
    | none => .ok (currentVoice.actions.map Voice.VoiceAction.id)
    | some previousVoice =>
      if previousVoice.actions = [] then .ok (currentVoice.actions.map Voice.VoiceAction.id)
      else canonicalStageVoiceMutationIds previousVoice currentVoice

/-- `canonical_stage_transition_contract`. -/
def canonicalStageTransitionContract (computeTopologyHashes : Plans.TopologyPlan → TopologyHashes)
    (previous current : CPScaleCanonicalStageProjection) :
    Except String CPScaleCanonicalStageTransition := do
  if current.stage.order ≠ previous.stage.order + 1 then
    throw "Canonical transition contract requires adjacent ordered stages."
  let delta ← projectCpScaleCanonicalDelta computeTopologyHashes previous.topology current.topology
  let configurationMutationIds ←
    canonicalStageConfigurationMutationIds previous.configuration current.configuration
  let controlPlaneMutationIds ←
    canonicalStageControlPlaneMutationIds previous.controlPlane current.controlPlane
  let voiceMutationIds ← transitionVoiceMutationIds previous.voice current.voice
  let previousConfigurationIds := previous.configuration.actions.map ConfigurationAction.id
  let previousControlPlaneIds := previous.controlPlane.actions.map ControlPlaneAction.id
  let previousVoiceIds := (voiceActions previous.voice).map Voice.VoiceAction.id
  return {
    previousStage := previous.stage
    currentStage := current.stage
    previousPhysicalTopologyHash := previous.topology.physicalIdentityHash
    currentPhysicalTopologyHash := current.topology.physicalIdentityHash
    newDeviceIds := sortedSet
      ((deviceIds current.topology).filter (· ∉ deviceIds previous.topology))
    anchorDeviceIds := sortedSet ((deviceIds delta).filter (· ∈ deviceIds previous.topology))
    newLinkIds := sortedBy id (linkIds delta)
    configurationMutationIds := configurationMutationIds
    configurationRetainedIds := sortedSet previousConfigurationIds
    controlPlaneMutationIds := controlPlaneMutationIds
    controlPlaneRetainedIds := sortedSet previousControlPlaneIds
    voiceMutationIds := voiceMutationIds
    voiceRetainedIds := sortedSet previousVoiceIds
    replayedConfigurationIds :=
      sortedSet (configurationMutationIds.filter (· ∈ previousConfigurationIds))
    replayedControlPlaneIds :=
      sortedSet (controlPlaneMutationIds.filter (· ∈ previousControlPlaneIds))
    replayedVoiceIds := sortedSet (voiceMutationIds.filter (· ∈ previousVoiceIds)) }

/-- `CPScaleStageContinuity`. -/
structure CPScaleStageContinuity where
  previousProjection : Option CPScaleCanonicalStageProjection := none
  previousConfiguration : Option ConfigurationApplicationResult := none
  previousVoiceActionResults : List ActionApplicationResult := []
  previousControlPlaneActionResults : List ActionApplicationResult := []
  verifiedSerialTopology : Option Plans.TopologyPlan := none
  verifiedSerialManifest : Option DeploymentManifest := none
  lastWorkspace : Option PhysicalWorkspaceObservation := none

/-- `CPScaleMutationScope`. -/
structure CPScaleMutationScope where
  configuration : List String
  retainedConfiguration : List String
  controlPlane : List String
  retainedControlPlane : List String
  voice : List String
  retainedVoice : List String
  deriving DecidableEq

/-- An exception inside a stage: a `_StageStopped`, or another one with its type. -/
inductive StageException
  | stopped (message : String)
  | raised (type message : String)
  deriving DecidableEq

/-- The failure text of a stage that an exception ended. -/
def StageException.failure : StageException → String
  | stopped message => message
  | raised type message => type ++ ": " ++ message

/-- A check of two plans raises a `ValueError`. -/
def orValueError {α : Type} : Except String α → Except StageException α
  | .ok value => .ok value
  | .error message => .error (.raised "ValueError" message)

/-- `tuple(sorted(plan_ids - set(mutation_ids)))`. -/
def retainedIds (planIds mutationIds : List String) : List String :=
  sortedSet (planIds.filter (· ∉ mutationIds))

/-- The ids of one surface: those of a delta, or the whole plan in the first stage. -/
def surfaceMutationIds {π : Type} (mutationIds : π → π → Except String (List String))
    (planIds : π → List String) (previous : Option π) (current : π) :
    Except StageException (List String) :=
  match previous with
  | none => .ok (planIds current)
  | some previous => orValueError (mutationIds previous current)

/-- The Voice ids of a scope. -/
def scopeVoiceMutationIds (previousVoice voicePlan : Option Voice.VoicePlan) :
    Except String (List String) :=
  match voicePlan, previousVoice with
  | none, _ => .ok []
  | some voicePlan, none => .ok (voicePlan.actions.map Voice.VoiceAction.id)
  | some voicePlan, some previousVoice =>
    if previousVoice.actions ≠ [] then canonicalStageVoiceMutationIds previousVoice voicePlan
    else .ok (voicePlan.actions.map Voice.VoiceAction.id)

/-- `stage_mutation_scope` of a request with this continuity and this projection. -/
def stageMutationScope (continuity : CPScaleStageContinuity)
    (current : CPScaleCanonicalStageProjection) : Except StageException CPScaleMutationScope := do
  let previous := continuity.previousProjection
  if previous.isNone ≠ continuity.previousConfiguration.isNone then
    throw (.stopped
      "Previous canonical projection and configuration must be retained together.")
  let configurationIds := current.configuration.actions.map ConfigurationAction.id
  let controlIds := current.controlPlane.actions.map ControlPlaneAction.id
  let voiceIds := (voiceActions current.voice).map Voice.VoiceAction.id
  let configuration ← surfaceMutationIds canonicalStageConfigurationMutationIds
    (fun plan => plan.actions.map ConfigurationAction.id)
    (previous.map CPScaleCanonicalStageProjection.configuration) current.configuration
  let control ← surfaceMutationIds canonicalStageControlPlaneMutationIds
    (fun plan => plan.actions.map ControlPlaneAction.id)
    (previous.map CPScaleCanonicalStageProjection.controlPlane) current.controlPlane
  let voice ← orValueError (scopeVoiceMutationIds
    (previous.bind CPScaleCanonicalStageProjection.voice) current.voice)
  let retainedControl := retainedIds controlIds control
  let retainedVoice := retainedIds voiceIds voice
  let controlFacts := continuity.previousControlPlaneActionResults.filter
    fun item => item.actionId ∈ retainedControl
  if controlFacts.length ≠ retainedControl.length then
    throw (.stopped ("Canonical control-plane delta lacks retained application facts before " ++
      quoted current.stage.value ++ "."))
  let voiceFacts := continuity.previousVoiceActionResults.filter
    fun item => item.actionId ∈ retainedVoice
  if voiceFacts.length ≠ retainedVoice.length then
    throw (.stopped ("Canonical Voice delta lacks retained application facts before " ++
      quoted current.stage.value ++ "."))
  return {
    configuration := configuration
    retainedConfiguration := retainedIds configurationIds configuration
    controlPlane := control
    retainedControlPlane := retainedControl
    voice := voice
    retainedVoice := retainedVoice }

/-! ## The audit -/

/-- What the audit reads of an application result: `mutation_action_ids` and the journal. -/
structure SurfaceResult where
  mutationActionIds : List String
  executionJournal : Option ApplicationExecutionJournal
  deriving DecidableEq

/-- `CanonicalMutationSurfaceObservation`. -/
structure CanonicalMutationSurfaceObservation where
  surface : String
  planActionIds : List String
  authorizedMutationIds : List String
  results : List SurfaceResult
  deriving DecidableEq

/-- `CanonicalMutationSurfaceAudit`. -/
structure CanonicalMutationSurfaceAudit where
  surface : String
  authorizedMutationIds : List String := []
  retainedActionIds : List String := []
  dispatchedMutationIds : List String := []
  journaledActionIds : List String := []
  replayedRetainedIds : List String := []
  unauthorizedMutationIds : List String := []
  unattestedMutationIds : List String := []
  errors : List String := []
  deriving DecidableEq

/-- `verified` of a surface. -/
def CanonicalMutationSurfaceAudit.verified (audit : CanonicalMutationSurfaceAudit) : Bool :=
  audit.replayedRetainedIds.isEmpty && audit.unauthorizedMutationIds.isEmpty &&
    audit.unattestedMutationIds.isEmpty && audit.errors.isEmpty

/-- `CanonicalMutationReplayAudit`. -/
structure CanonicalMutationReplayAudit where
  stage : String
  surfaces : List CanonicalMutationSurfaceAudit
  deriving DecidableEq

/-- `verified` of a stage. -/
def CanonicalMutationReplayAudit.verified (audit : CanonicalMutationReplayAudit) : Bool :=
  !audit.surfaces.isEmpty && audit.surfaces.all CanonicalMutationSurfaceAudit.verified

/-- `claim`. -/
def CanonicalMutationReplayAudit.claim (audit : CanonicalMutationReplayAudit) : String :=
  if audit.verified then "NO_MUTATION_REPLAY" else "MUTATION_REPLAY_DETECTED"

/-- The identities in a journal that may be missing. -/
def SurfaceResult.journaled (result : SurfaceResult) : List String :=
  (result.executionJournal.map fun journal =>
    journal.entries.map ExecutionJournalEntry.actionId).getD []

/-- The errors that one observation raises on its own. -/
def surfaceErrors (observation : CanonicalMutationSurfaceObservation) : List String :=
  (if observation.authorizedMutationIds ≠ [] ∧ observation.results = [] then
    ["authorized mutations produced no typed application result"] else []) ++
  observation.results.flatMap fun result =>
    if result.executionJournal.isNone ∧ result.mutationActionIds ≠ [] then
      ["a dispatching attempt produced no execution journal"] else []

/-- The loop body of `canonical_stage_mutation_replay_audit`. -/
def auditSurface (observation : CanonicalMutationSurfaceObservation) :
    CanonicalMutationSurfaceAudit :=
  let planIds := observation.planActionIds
  let authorized := observation.authorizedMutationIds
  if planIds = [] ∧ authorized = [] ∧ observation.results = [] then
    { surface := observation.surface }
  else
    let retained := planIds.filter (· ∉ authorized)
    let dispatched := observation.results.flatMap SurfaceResult.mutationActionIds
    let journaled := observation.results.flatMap SurfaceResult.journaled
    let observed := dispatched ++ journaled
    { surface := observation.surface
      authorizedMutationIds := sortedSet authorized
      retainedActionIds := sortedSet retained
      dispatchedMutationIds := sortedSet dispatched
      journaledActionIds := sortedSet journaled
      replayedRetainedIds := sortedSet (observed.filter (· ∈ retained))
      unauthorizedMutationIds := sortedSet (observed.filter (· ∉ authorized))
      unattestedMutationIds := sortedSet (dispatched.filter (· ∉ journaled))
      errors := sortedSet (surfaceErrors observation) }

/-- `canonical_stage_mutation_replay_audit`. -/
def canonicalStageMutationReplayAudit (stage : String)
    (observations : List CanonicalMutationSurfaceObservation) : CanonicalMutationReplayAudit where
  stage := stage
  surfaces := observations.map auditSurface

/-! ## Stage results and continuity -/

/-- What the audit reads of a configuration result. -/
def configurationSurface (result : ConfigurationApplicationResult) : SurfaceResult :=
  ⟨result.mutationActionIds, result.executionJournal⟩

/-- What the audit reads of a control-plane result. -/
def controlPlaneSurface (result : ControlPlaneApplicationResult) : SurfaceResult :=
  ⟨result.mutationActionIds, result.executionJournal⟩

/-- What the audit reads of a Voice result. -/
def voiceSurface (result : Voice.VoiceApplicationResult) : SurfaceResult :=
  ⟨result.mutationActionIds, result.executionJournal⟩

/-- `CPScaleStageSecondaryFailure`. -/
structure CPScaleStageSecondaryFailure where
  operation : String
  error : String
  deriving DecidableEq

/-- `CPScaleDiagnosticRecord`. -/
structure CPScaleDiagnosticRecord where
  error : String := ""
  deriving DecidableEq

/-- `CPScaleLiveStageResult`, with the scope of its report. -/
structure CPScaleLiveStageResult where
  stage : CPScaleCanonicalStage
  outcome : String
  projection : CPScaleCanonicalStageProjection
  manifest : Option DeploymentManifest := none
  workspace : Option PhysicalWorkspaceObservation := none
  configuration : Option ConfigurationApplicationResult := none
  configurationAttempts : List ConfigurationApplicationResult := []
  controlPlane : Option ControlPlaneApplicationResult := none
  voice : Option Voice.VoiceApplicationResult := none
  replayAudit : Option CanonicalMutationReplayAudit := none
  diagnostics : List CPScaleDiagnosticRecord := []
  firstFailedBoundary : Option String := none
  failure : String := ""
  scope : Option CPScaleMutationScope := none
  secondaryFailures : List CPScaleStageSecondaryFailure := []

/-- The scope of a result; a stage that stopped before it had one authorized nothing. -/
def CPScaleLiveStageResult.mutationScope (result : CPScaleLiveStageResult) :
    CPScaleMutationScope :=
  result.scope.getD ⟨[], [], [], [], [], []⟩

/-- The three surfaces that a stage hands to the audit. -/
def stageObservations (result : CPScaleLiveStageResult) :
    List CanonicalMutationSurfaceObservation :=
  [{ surface := "configuration"
     planActionIds := result.projection.configuration.actions.map ConfigurationAction.id
     authorizedMutationIds := result.mutationScope.configuration
     results := result.configurationAttempts.map configurationSurface },
   { surface := "control-plane"
     planActionIds := result.projection.controlPlane.actions.map ControlPlaneAction.id
     authorizedMutationIds := result.mutationScope.controlPlane
     results := result.controlPlane.toList.map controlPlaneSurface },
   { surface := "voice"
     planActionIds := (voiceActions result.projection.voice).map Voice.VoiceAction.id
     authorizedMutationIds := result.mutationScope.voice
     results := result.voice.toList.map voiceSurface }]

/-- The audit of what a stage did. -/
def stageReplayAudit (result : CPScaleLiveStageResult) : CanonicalMutationReplayAudit :=
  canonicalStageMutationReplayAudit result.projection.stage.value (stageObservations result)

/-- The stage part of `advance_canonical_continuity`, for a result that
`canonical_step_result_error` accepts. -/
def advanceCanonicalContinuity (continuity : CPScaleStageContinuity)
    (result : CPScaleLiveStageResult) (captureSerialCore : Bool) : CPScaleStageContinuity where
  previousProjection := some result.projection
  previousConfiguration := result.configuration
  previousVoiceActionResults :=
    match result.voice with
    | some voice => voice.actionResults
    | none => continuity.previousVoiceActionResults
  previousControlPlaneActionResults :=
    (result.controlPlane.map ControlPlaneApplicationResult.actionResults).getD []
  verifiedSerialTopology :=
    if captureSerialCore then some result.projection.topology
    else continuity.verifiedSerialTopology
  verifiedSerialManifest :=
    if captureSerialCore then result.manifest else continuity.verifiedSerialManifest
  lastWorkspace := result.workspace

/-- `canonical_step_result_error`. -/
def canonicalStepResultError (result : CPScaleLiveStageResult) : String :=
  if result.voice.isNone ∧ voiceActions result.projection.voice ≠ [] then
    "Verified stage " ++ quoted result.stage.value ++
      " did not retain its Voice application results."
  else if result.controlPlane.isNone then
    "Verified stage " ++ quoted result.stage.value ++
      " did not retain its control-plane result."
  else ""

end Canonical
end PacketTracer
