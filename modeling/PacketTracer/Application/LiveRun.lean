import PacketTracer.Application.CanonicalStages
import PacketTracer.Library.Script

/-!
# The coordinator of a live run

What `CPScaleLiveCoordinator` owns, what it asks its collaborators and what they may answer: a port
is an arbitrary function of the history of the run that answers, raises or is interrupted.  The
snapshots that the closures of `coordinator.py`, `cleanup.py`, `lifecycle.py` and `sequence.py`
replace are the state of a script, so that a handler sees what was reached when a call raised.
-/

namespace PacketTracer

namespace LiveRun

open PyText Plans Scripts Canonical

/-! ## Requests and targets -/

/-- `CPScaleCanonicalTarget`. -/
inductive CPScaleCanonicalTarget
  | router0Branch
  | router3Branch
  | fullQualification
  deriving DecidableEq

def CPScaleCanonicalTarget.value : CPScaleCanonicalTarget → String
  | router0Branch => "router0-branch"
  | router3Branch => "router3-branch"
  | fullQualification => "full-qualification"

/-- `CPScaleCanonicalTargetContract`. -/
structure CPScaleCanonicalTargetContract where
  target : CPScaleCanonicalTarget
  buildStages : List CPScaleCanonicalStage
  terminalStage : CPScaleCanonicalStage
  runRemainingReconciliation : Bool
  runFullQualification : Bool
  allowRetention : Bool
  requireCleanup : Bool
  precleanupClosure : String
  cleanedClosure : String
  deriving DecidableEq

/-- `execution_stages`. -/
def CPScaleCanonicalTargetContract.executionStages (target : CPScaleCanonicalTargetContract) :
    List CPScaleCanonicalStage :=
  if target.runRemainingReconciliation then target.buildStages ++ [.remaining]
  else target.buildStages

/-- The build stages up to a branch. -/
def buildStagesThrough : CPScaleCanonicalTarget → List CPScaleCanonicalStage
  | .router0Branch => [.routingCore, .router4Switch10, .floor1, .floor2, .floor3, .router0Branch]
  | _ =>
    [.routingCore, .router4Switch10, .floor1, .floor2, .floor3, .router0Branch, .router3Branch]

/-- The contract of a bounded branch. -/
def boundedContract (target : CPScaleCanonicalTarget) (terminal : CPScaleCanonicalStage)
    (closurePrefix : String) : CPScaleCanonicalTargetContract where
  target := target
  buildStages := buildStagesThrough target
  terminalStage := terminal
  runRemainingReconciliation := false
  runFullQualification := false
  allowRetention := false
  requireCleanup := true
  precleanupClosure := closurePrefix ++ "_VERIFIED_PRECLEANUP"
  cleanedClosure := closurePrefix ++ "_VERIFIED_AND_CLEANED"

/-- `canonical_cp_scale_target_contract`. -/
def canonicalCpScaleTargetContract : CPScaleCanonicalTarget → CPScaleCanonicalTargetContract
  | .router0Branch => boundedContract .router0Branch .router0Branch "ROUTER0_BRANCH"
  | .router3Branch => boundedContract .router3Branch .router3Branch "ROUTER3_BRANCH"
  | .fullQualification =>
    { target := .fullQualification
      buildStages := buildStagesThrough .fullQualification
      terminalStage := .remaining
      runRemainingReconciliation := true
      runFullQualification := true
      allowRetention := false
      requireCleanup := true
      precleanupClosure := "CP_SCALE_FULL_QUALIFICATION_VERIFIED_PRECLEANUP"
      cleanedClosure := "CP_SCALE_FULL_QUALIFICATION_VERIFIED_AND_CLEANED" }

/-- `CPScaleLiveSessionIdentity`. -/
structure CPScaleLiveSessionIdentity where
  sourceHead : String
  deriving DecidableEq

/-- `CPScalePreflightOutcome`. -/
inductive CPScalePreflightOutcome
  | admitted
  | rejected
  deriving DecidableEq

/-- `CPScalePreflightResult`: the target and whether the evidence admits it. -/
structure CPScalePreflightResult where
  target : CPScaleCanonicalTargetContract
  outcome : CPScalePreflightOutcome
  identity : Option CPScaleLiveSessionIdentity
  issues : List String := []
  deriving DecidableEq

/-- `CPScaleLiveRequest`. -/
structure CPScaleLiveRequest where
  retainOnFullVerification : Bool
  deriving DecidableEq

/-! ## What the collaborators answer -/

/-- What a call may raise: an `Exception`, or a `BaseException` that is none. -/
inductive Raised
  | exception (type message : String)
  | interruption (type message : String)
  deriving DecidableEq

namespace Raised

/-- Whether an `except Exception` lets it pass. -/
def interrupts : Raised → Bool
  | exception .. => false
  | interruption .. => true

/-- `f"{type(exc).__name__}: {exc}"`. -/
def text : Raised → String
  | exception type message => type ++ ": " ++ message
  | interruption type message => type ++ ": " ++ message

end Raised

/-- A `CanonicalLiveFailure`. -/
def liveFailure (message : String) : Raised := .exception "CanonicalLiveFailure" message

/-- `EnterpriseReferenceComposition`. -/
structure EnterpriseReferenceComposition where
  topology : Option Plans.TopologyPlan

/-- `CPScaleCapabilityProbe`. -/
structure CPScaleCapabilityProbe where
  model : String
  error : String := ""
  deriving DecidableEq

/-- `CPScaleResumeResult`. -/
structure CPScaleResumeResult where
  error : String := ""
  deriving DecidableEq

/-- `CPScaleObservationRecord`. -/
structure CPScaleObservationRecord where
  kind : String
  status : String
  error : String := ""
  deriving DecidableEq

/-- `CPScaleCheckpointDecision`. -/
inductive CPScaleCheckpointDecision
  | continue_
  | retain
  deriving DecidableEq

/-- `CPScaleRunReplayAudit`. -/
structure CPScaleRunReplayAudit where
  auditedStages : List String
  stagesWithoutVerifiedAudit : List String
  replayedRetainedIds : List String
  deriving DecidableEq

/-- `CPScaleBoundedTargetReview` and `CPScaleFullQualificationReview`. -/
structure CPScaleReview where
  replay : Option CPScaleRunReplayAudit := none
  error : String
  deriving DecidableEq

/-- `CPScaleCleanupResult`. -/
structure CPScaleCleanupResult where
  verified : Bool
  restorationError : String := ""
  mutations : List PhysicalMutationResult := []
  first : Option PhysicalWorkspaceObservation := none
  second : Option PhysicalWorkspaceObservation := none
  error : String := ""
  deriving DecidableEq

/-- `CPScaleCleanupRealtime`. -/
structure CPScaleCleanupRealtime where
  verified : Bool
  error : String := ""
  deriving DecidableEq

/-- `CPScaleEvidenceArchive`. -/
structure CPScaleEvidenceArchive where
  runIdentity : String
  phase : String
  path : String
  sha256 : String
  deriving DecidableEq

/-! ## The snapshots of a run -/

/-- `CPScaleStageProgress`. -/
structure CPScaleStageProgress where
  projection : CPScaleCanonicalStageProjection
  delta : Option PhysicalDeploymentResult := none
  deployment : Option PhysicalDeploymentResult := none
  transition : Option CPScaleCanonicalStageTransition := none
  result : Option CPScaleLiveStageResult := none
  dhcpBaseline : Option CPScaleObservationRecord := none
  failed : Bool := false

/-- `CPScaleRunOutcome`. -/
inductive CPScaleRunOutcome
  | completed
  | failed
  | rejected
  deriving DecidableEq

/-- `CPScaleTerminalEvent`. -/
inductive CPScaleTerminalEvent
  | router0Cleaned
  | router3Cleaned
  | fullQualificationCleaned
  | canonicalCleaned
  | retained
  deriving DecidableEq

/-- `CPScaleTerminalEvent(value)`. -/
def CPScaleTerminalEvent.ofValue (value : String) : Except Raised CPScaleTerminalEvent :=
  if value = "ROUTER0_BRANCH_VERIFIED_AND_CLEANED" then .ok .router0Cleaned
  else if value = "ROUTER3_BRANCH_VERIFIED_AND_CLEANED" then .ok .router3Cleaned
  else if value = "CP_SCALE_FULL_QUALIFICATION_VERIFIED_AND_CLEANED" then
    .ok .fullQualificationCleaned
  else if value = "CANONICAL_VERIFIED_AND_CLEANED" then .ok .canonicalCleaned
  else if value = "PRESENTATION_RETAINED" then .ok .retained
  else .error (.exception "ValueError"
    (quoted value ++ " is not a valid CPScaleTerminalEvent"))

/-- `CPScaleFinalDisposition`. -/
inductive CPScaleFinalDisposition
  | cleanup
  | retain
  deriving DecidableEq

/-- `CPScaleQualificationState`. -/
structure CPScaleQualificationState where
  baseline : Option PhysicalWorkspaceObservation := none
  composition : Option EnterpriseReferenceComposition := none

/-- `CPScalePhysicalContinuity`. -/
structure CPScalePhysicalContinuity where
  owned : List String := []
  coreTopology : Option Plans.TopologyPlan := none
  coreDeployment : Option PhysicalDeploymentResult := none

/-- `CPScaleProgressState`. -/
structure CPScaleProgressState where
  physical : CPScalePhysicalContinuity := {}
  stages : List CPScaleStageProgress := []
  activeStage : Option CPScaleStageProgress := none

/-- `CPScaleTerminalState`. -/
structure CPScaleTerminalState where
  outcome : Option CPScaleRunOutcome := none
  event : Option CPScaleTerminalEvent := none
  hardStop : String := ""
  failure : String := ""
  secondaryFailures : List String := []
  finalizationErrors : List String := []
  disposition : Option CPScaleFinalDisposition := none
  closure : String := ""
  closureScope : String := ""
  replay : Option CPScaleRunReplayAudit := none
  cleanup : Option CPScaleCleanupResult := none
  realtime : Option CPScaleCleanupRealtime := none
  precleanup : Option CPScaleEvidenceArchive := none
  attestation : Option CPScaleEvidenceArchive := none
  archives : List CPScaleEvidenceArchive := []
  retained : Bool := false
  cleanupAttempted : Bool := false
  terminalCleanupComplete : Bool := false
  precleanupArchiveError : String := ""
  cleanupArchiveError : String := ""
  deriving DecidableEq

/-- The variables of one run: its three snapshots, whether the observations exist, and
`prepared_secondaries`. -/
structure RunState where
  qualification : CPScaleQualificationState := {}
  progress : CPScaleProgressState := {}
  terminal : CPScaleTerminalState := {}
  observations : Bool := false
  preparedSecondaries : List String := []

/-- `CPScaleLiveFinalResult`. -/
structure CPScaleLiveFinalResult where
  outcome : Option CPScaleRunOutcome
  completedStages : List CPScaleLiveStageResult
  finalDisposition : Option CPScaleFinalDisposition
  closure : Option String
  presentationRetained : Bool
  cleanup : Option CPScaleCleanupResult
  cleanupRealtime : Option CPScaleCleanupRealtime
  archives : List CPScaleEvidenceArchive
  primaryFailure : Option String
  secondaryFailures : List String

/-- `text or None`. -/
def orNone (text : String) : Option String := if text = "" then none else some text

/-- `CPScaleLiveFinalResult.from_report(outcome, snapshot())`. -/
def fromReport (outcome : Option CPScaleRunOutcome) (state : RunState) :
    CPScaleLiveFinalResult where
  outcome := outcome
  completedStages := state.progress.stages.filterMap CPScaleStageProgress.result
  finalDisposition := state.terminal.disposition
  closure := orNone state.terminal.closure
  presentationRetained := state.terminal.retained
  cleanup := state.terminal.cleanup
  cleanupRealtime := state.terminal.realtime
  archives := state.terminal.archives
  primaryFailure :=
    (orNone state.terminal.failure).or (orNone state.terminal.hardStop)
  secondaryFailures := state.terminal.secondaryFailures ++ state.terminal.finalizationErrors

/-! ## Ports -/

/-- The calls whose answers the history does not keep. -/
inductive Port
  | clock
  | inspect
  | sessionFactory
  | start
  | status
  | pollingFailure
  | observeWorkspace
  | observationsFactory
  | validateComposition
  | requirements
  | discoveryFactory
  | probe
  | restorationError
  | unresolved
  | statisticsProjection
  | dhcpTarget
  | deployerFactory
  | acquireRuntimes
  | stageFactory
  | projection
  | activate
  | resume
  | beforeDelta
  | delta
  | transition
  | terminalTransitionError
  | cumulative
  | requireDelta
  | requireCumulative
  | dhcpBaseline
  | coreRematerialized
  | prepareCheckpoint
  | publishAndPrompt
  | resumeCheckpoint
  | publishResumed
  | fullAdmission
  | finalEvidence
  | boundedEvidence
  | completionClock
  | persistCheckpoint
  | finalizationIncomplete
  | terminalPresentation
  deriving DecidableEq

/-- What an answer raised. -/
def raisedOf {α : Type} : Except Raised α → Option Raised
  | .ok _ => none
  | .error raised => some raised

/-- A call of the coordinator, with what came back where the statements need it. -/
inductive RunEvent
  | called (port : Port) (raised : Option Raised)
  /-- `baseline_policy(baseline)`. -/
  | judged (answer : Except Raised String)
  /-- `backend.compose`. -/
  | composed (answer : Except Raised EnterpriseReferenceComposition)
  /-- `physical_stages.deploy`: the identifiers of the devices it may have created, and what it
  returned or raised. -/
  | deployed (created : List String) (answer : Except Raised PhysicalDeploymentResult)
  /-- `executor.execute` in the step of a stage. -/
  | executed (stage : CPScaleCanonicalStage) (answer : Except Raised CPScaleLiveStageResult)
  /-- The completion review of a list of stages ends. -/
  | reviewed (stages : List CPScaleStageProgress) (review : CPScaleReview)
  /-- `persistence.write_progress` of a snapshot. -/
  | published (terminal : CPScaleTerminalState) (answer : Except Raised Unit)
  /-- `persistence.archive` of a phase. -/
  | archived (phase : String) (answer : Except Raised CPScaleEvidenceArchive)
  /-- `cleanup.restore` begins. -/
  | restoring (owned : List String)
  /-- `physical.remove_device`. -/
  | removed (device : Plans.DevicePlan) (answer : Except Raised PhysicalMutationResult)
  /-- `observations.cleanup_realtime`. -/
  | realtimeRead (answer : Except Raised CPScaleCleanupRealtime)
  /-- The `finally` of `run` begins. -/
  | finalizing
  /-- `session.close`. -/
  | closed (answer : Except Raised Unit)

/-- What an event raised. -/
def RunEvent.raised : RunEvent → Option Raised
  | called _ raised => raised
  | judged answer => raisedOf answer
  | composed answer => raisedOf answer
  | deployed _ answer => raisedOf answer
  | executed _ answer => raisedOf answer
  | reviewed _ _ => none
  | published _ answer => raisedOf answer
  | archived _ answer => raisedOf answer
  | restoring _ => none
  | removed _ answer => raisedOf answer
  | realtimeRead answer => raisedOf answer
  | finalizing => none
  | closed answer => raisedOf answer

/-- What a port does, after whatever happened before. -/
abbrev Answer (α : Type) : Type := List RunEvent → Except Raised α

/-- The collaborators of the coordinator, and `str.casefold`. -/
structure Collaborators where
  casefold : String → String
  clock : Answer Unit
  inspect : Answer CPScalePreflightResult
  sessionFactory : Answer Unit
  /-- `session.physical is not None`, once the session was started. -/
  physical : Bool
  start : Answer Bool
  status : Answer Unit
  pollingFailure : Answer String
  observeWorkspace : Answer PhysicalWorkspaceObservation
  baselinePolicy : Answer String
  observationsFactory : Answer Unit
  compose : Answer EnterpriseReferenceComposition
  validateComposition : Answer Unit
  requirements : Answer (List String)
  discoveryFactory : Answer Unit
  probe : Answer CPScaleCapabilityProbe
  restorationError : Answer String
  unresolved : Answer (List String)
  statisticsProjection : Answer Unit
  dhcpTarget : Answer Unit
  deployerFactory : Answer Unit
  acquireRuntimes : Answer Unit
  stageFactory : Answer Unit
  projection : Answer CPScaleCanonicalStageProjection
  activate : Answer Unit
  resume : Answer CPScaleResumeResult
  beforeDelta : Answer CPScaleObservationRecord
  delta : Answer Plans.TopologyPlan
  transition : Answer CPScaleCanonicalStageTransition
  terminalTransitionError : Answer String
  cumulative : Answer PhysicalDeploymentResult
  deploy : List RunEvent → List String × Except Raised PhysicalDeploymentResult
  requireDelta : Answer Unit
  requireCumulative : Answer Unit
  execute : Answer CPScaleLiveStageResult
  dhcpBaseline : Answer CPScaleObservationRecord
  coreRematerialized : Answer Unit
  prepareCheckpoint : Answer Unit
  publishAndPrompt : Answer CPScaleCheckpointDecision
  resumeCheckpoint : Answer String
  publishResumed : Answer Unit
  /-- What `_full_qualification_error` says of the contract, the authorization and the policy. -/
  fullAdmission : Answer String
  /-- What `_full_qualification_error` says of the evidence of the stages. -/
  finalEvidence : Answer String
  /-- Whether the evidence that `review_bounded_target` reads of the last stage is complete. -/
  boundedEvidence : Answer Bool
  completionClock : Answer Unit
  writeProgress : Answer Unit
  persistCheckpoint : Answer Unit
  archive : Answer CPScaleEvidenceArchive
  removeDevice : Answer PhysicalMutationResult
  cleanupRealtime : Answer CPScaleCleanupRealtime
  close : Answer Unit
  finalizationIncomplete : Answer Unit
  terminalPresentation : Answer Unit

/-- A computation of the coordinator. -/
abbrev Run (α : Type) : Type := Script RunState RunEvent Raised α

open Script

/-! ## Small steps -/

/-- A call whose answer the history does not keep. -/
def ask {α : Type} (port : Port) (answer : Answer α) : Run α :=
  call answer fun outcome => .called port (raisedOf outcome)

/-- `terminal = replace(terminal, …)`. -/
def updateTerminal (f : CPScaleTerminalState → CPScaleTerminalState) : Run Unit :=
  modify fun state => { state with terminal := f state.terminal }

/-- `progress = replace(progress, …)`. -/
def updateProgress (f : CPScaleProgressState → CPScaleProgressState) : Run Unit :=
  modify fun state => { state with progress := f state.progress }

/-- `progress = replace(progress, active_stage=replace(progress.active_stage, …))`. -/
def updateActiveStage (f : CPScaleStageProgress → CPScaleStageProgress) : Run Unit :=
  updateProgress fun progress => { progress with activeStage := progress.activeStage.map f }

/-- `qualification = replace(qualification, …)`. -/
def updateQualification (f : CPScaleQualificationState → CPScaleQualificationState) : Run Unit :=
  modify fun state => { state with qualification := f state.qualification }

/-- `if error: raise CanonicalLiveFailure(error)`. -/
def demand (error : String) : Run Unit :=
  if error = "" then pure () else raise (liveFailure error)

/-- What an `except Exception` leaves of an outcome: an interruption passes. -/
def passInterruption {α : Type} : Except Raised α → Run (Except Raised α)
  | .ok value => pure (.ok value)
  | .error raised => if raised.interrupts then raise raised else pure (.error raised)

/-- The body of a `try` with an `except Exception`. -/
def caught {α : Type} (x : Run α) : Run (Except Raised α) := attempt x >>= passInterruption

/-- An attribute of `None`. -/
def attributeError (member : String) : Raised :=
  .exception "AttributeError" ("'NoneType' object has no attribute " ++ quoted member)

section

variable (c : Collaborators)

/-- `self.persistence.write_progress(snapshot())`. -/
def writeProgress : Run Unit := do
  let state ← get
  call c.writeProgress (.published state.terminal)

/-- `session.physical.observe_workspace()`. -/
def observeWorkspace : Run PhysicalWorkspaceObservation :=
  if c.physical then ask .observeWorkspace c.observeWorkspace
  else raise (attributeError "observe_workspace")

/-! ## Cleanup -/

/-- `attempted_device_ids`. -/
def attemptedDeviceIds (deployment : PhysicalDeploymentResult) : List String :=
  (deployment.itemResults.filter fun item =>
    item.targetKind = .device ∧ item.status ≠ .notAttempted).map
    PhysicalDeploymentItemResult.targetId

/-- `physical.remove_device(device)`. -/
def removeDevice (device : Plans.DevicePlan) : Run PhysicalMutationResult :=
  if c.physical then call c.removeDevice (.removed device)
  else raise (attributeError "remove_device")

/-- The loop of `restore` over the devices: the mutations, and the exception that ended it. -/
def removeOwned (owned : List String) :
    List Plans.DevicePlan → List PhysicalMutationResult →
      Run (List PhysicalMutationResult × Option Raised)
  | [], mutations => pure (mutations, none)
  | device :: devices, mutations =>
    if device.id ∈ owned then do
      match ← caught (removeDevice c device) with
      | .ok mutation => removeOwned owned devices (mutations ++ [mutation])
      | .error raised => pure (mutations, some raised)
    else removeOwned owned devices mutations

/-- What the handler of `restore` returns. -/
def failedRestoration (mutations : List PhysicalMutationResult)
    (first : Option PhysicalWorkspaceObservation) (raised : Raised) : CPScaleCleanupResult where
  verified := false
  mutations := mutations
  first := first
  error := raised.text

/-- The comparison of `restore` with the baseline. -/
def reviewRestoration (casefold : String → String) (baseline : Option PhysicalWorkspaceObservation)
    (mutations : List PhysicalMutationResult) (first second : PhysicalWorkspaceObservation) :
    CPScaleCleanupResult :=
  match baseline with
  | none =>
    { verified := false, mutations := mutations, first := some first, second := some second
      error := (attributeError "observed").text }
  | some baseline =>
    let restorationError := canonicalCleanupRestorationError casefold baseline first second
    { verified := restorationError = "", restorationError := restorationError
      mutations := mutations, first := some first, second := some second }

/-- The two fresh reads of `restore`. -/
def observeRestoration (baseline : Option PhysicalWorkspaceObservation)
    (mutations : List PhysicalMutationResult) : Run CPScaleCleanupResult := do
  match ← caught (observeWorkspace c) with
  | .error raised => pure (failedRestoration mutations none raised)
  | .ok first =>
    match ← caught (observeWorkspace c) with
    | .error raised => pure (failedRestoration mutations (some first) raised)
    | .ok second => pure (reviewRestoration c.casefold baseline mutations first second)

/-- `CPScaleCleanup.restore`. -/
def restore (topology : Option Plans.TopologyPlan) (owned : List String)
    (baseline : Option PhysicalWorkspaceObservation) : Run CPScaleCleanupResult := do
  note (.restoring owned)
  match topology with
  | none => pure (failedRestoration [] none (attributeError "devices"))
  | some topology => do
    let (mutations, failure) ← removeOwned c owned topology.devices.reverse []
    match failure with
    | some raised => pure (failedRestoration mutations none raised)
    | none => observeRestoration c baseline mutations

/-- The call of `restore` with the snapshots of the run. -/
def restoreRun : Run CPScaleCleanupResult := do
  let state ← get
  restore c (state.qualification.composition.bind EnterpriseReferenceComposition.topology)
    state.progress.physical.owned state.qualification.baseline

/-- `observations.cleanup_realtime()`. -/
def readCleanupRealtime : Run CPScaleCleanupRealtime := do
  let state ← get
  if state.observations then call c.cleanupRealtime .realtimeRead
  else raise (attributeError "cleanup_realtime")

/-- `archive`. -/
def archive (phase : String) : Run CPScaleEvidenceArchive := do
  let receipt ← call c.archive (.archived phase)
  updateTerminal fun terminal => { terminal with archives := terminal.archives ++ [receipt] }
  return receipt

/-! ## Qualification of the backend -/

/-- `self.backend.compose`, and its result in the snapshot. -/
def compose : Run EnterpriseReferenceComposition := do
  let composition ← call c.compose .composed
  updateQualification fun qualification => { qualification with composition := some composition }
  return composition

/-- The loop over the required probes. -/
def probeRequired : List String → Run Unit
  | [] => pure ()
  | _ :: models => do
    let probe ← ask .probe c.probe
    demand probe.error
    probeRequired models

/-- `qualify_backend`. -/
def qualifyBackend : Run EnterpriseReferenceComposition := do
  let _ ← compose c
  ask .validateComposition c.validateComposition
  let required ← ask .requirements c.requirements
  ask .discoveryFactory c.discoveryFactory
  probeRequired c required
  let _ ← observeWorkspace c
  let _ ← observeWorkspace c
  let error ← ask .restorationError c.restorationError
  demand error
  let composition ← compose c
  ask .validateComposition c.validateComposition
  let unresolved ← ask .unresolved c.unresolved
  demand (if unresolved = [] then ""
    else "Canonical composition did not consume VERIFIED capability evidence: " ++
      ", ".intercalate unresolved)
  return composition

/-! ## Stages -/

/-- `checkpoint`. -/
def checkpoint : Run CPScaleCheckpointDecision := do
  ask .prepareCheckpoint c.prepareCheckpoint
  let decision ← ask .publishAndPrompt c.publishAndPrompt
  let error ← ask .resumeCheckpoint c.resumeCheckpoint
  ask .publishResumed c.publishResumed
  demand error
  return decision

/-- The terminal transition of `prepare_stage`. -/
def checkTransition : Run Unit := do
  let transition ← ask .transition c.transition
  updateActiveStage fun stage => { stage with transition := some transition }
  writeProgress c
  let error ← ask .terminalTransitionError c.terminalTransitionError
  demand error

/-- `build.delta` and its boundary, and nothing for the remaining reconciliation. -/
def stageDelta (stage : CPScaleCanonicalStage) : Run (Option Plans.TopologyPlan) :=
  if stage = .remaining then pure none
  else do
    let _ ← ask .beforeDelta c.beforeDelta
    let delta ← ask .delta c.delta
    return some delta

/-- The topology that `prepare_stage` deploys, and none for the remaining reconciliation. -/
def deltaTopology (projection : CPScaleCanonicalStageProjection)
    (continuity : CPScaleStageContinuity) (terminalTransition : Bool) :
    Run (Option Plans.TopologyPlan) :=
  match continuity.previousProjection with
  | none =>
    if projection.stage = .remaining then
      raise (liveFailure "The remaining reconciliation requires a VERIFIED previous stage.")
    else pure (some projection.topology)
  | some _ => do
    let acquired ← ask .resume c.resume
    demand acquired.error
    let delta ← stageDelta c projection.stage
    (if terminalTransition ∨ projection.stage = .remaining then checkTransition c else pure ())
    return delta

/-- `physical_stages.deploy`. -/
def deploy : Run PhysicalDeploymentResult := do
  let answer ← exchange c.deploy fun answer => .deployed answer.1 answer.2
  ofExcept answer.2

/-- The end of `prepare_stage`: the deployment is published and checked. -/
def publishDeployment (deployment : PhysicalDeploymentResult) : Run Unit := do
  updateActiveStage fun stage => { stage with deployment := some deployment }
  writeProgress c
  ask .requireCumulative c.requireCumulative

/-- The deployment of a delta, and the devices that the run owns from then on. -/
def deployOwned : Run PhysicalDeploymentResult := do
  let delta ← deploy c
  updateProgress fun progress =>
    { progress with
      activeStage := progress.activeStage.map fun stage => { stage with delta := some delta }
      physical :=
        { progress.physical with owned := progress.physical.owned ++ attemptedDeviceIds delta } }
  return delta

/-- The cumulative deployment of a stage: that of the first stage is its delta. -/
def stageDeployment (projection : CPScaleCanonicalStageProjection)
    (delta : PhysicalDeploymentResult) (first : Bool) : Run PhysicalDeploymentResult :=
  if first then do
    updateProgress fun progress =>
      { progress with
        physical :=
          { progress.physical with
            coreTopology := some projection.topology, coreDeployment := some delta } }
    return delta
  else ask .cumulative c.cumulative

/-- The deployment of a delta in `prepare_stage`. -/
def deployStage (projection : CPScaleCanonicalStageProjection) (first : Bool) : Run Unit := do
  let delta ← deployOwned c
  writeProgress c
  ask .requireDelta c.requireDelta
  let deployment ← stageDeployment c projection delta first
  publishDeployment c deployment

/-- `prepare_stage`; what it returns is part of the request of the executor. -/
def prepareStage (projection : CPScaleCanonicalStageProjection)
    (continuity : CPScaleStageContinuity) (terminalTransition : Bool) : Run Unit := do
  updateProgress fun progress => { progress with activeStage := some { projection := projection } }
  ask .activate c.activate
  match ← deltaTopology c projection continuity terminalTransition with
  | none => do
    let deployment ← ask .cumulative c.cumulative
    publishDeployment c deployment
  | some _ => deployStage c projection continuity.previousProjection.isNone

/-- `CPScaleStepContinuity`. -/
structure CPScaleStepContinuity where
  stage : CPScaleStageContinuity := {}
  dhcpBaseline : Option CPScaleObservationRecord := none

/-- `CPScaleStepDecision`. -/
structure CPScaleStepDecision where
  floor1Statistics : Bool
  acquireDhcpBaseline : Bool
  captureSerialCore : Bool
  terminalTransition : Bool
  siteForwarding : Bool
  checkpointRequired : Bool
  deriving DecidableEq

/-- `canonical_step_decision`. -/
def canonicalStepDecision (target : CPScaleCanonicalTargetContract)
    (stage : CPScaleCanonicalStage) : CPScaleStepDecision :=
  let terminalStage := target.requireCleanup && stage = target.terminalStage
  { floor1Statistics := stage = .floor1
    acquireDhcpBaseline := stage = .router4Switch10
    captureSerialCore := stage = .routingCore
    terminalTransition := terminalStage
    siteForwarding := terminalStage
    checkpointRequired := !terminalStage }

/-- `stage_secondary_failures`. -/
def stageSecondaryFailures (result : CPScaleLiveStageResult) : List String :=
  let label := "stage:" ++ result.stage.value ++ ":"
  (result.secondaryFailures.map fun item => label ++ item.operation ++ ": " ++ item.error) ++
    (result.diagnostics.filter (·.error ≠ "")).map fun item =>
      label ++ "diagnostic: " ++ item.error

/-- `StageStepResult`. -/
structure StageStepResult where
  value : CPScaleLiveStageResult
  continuity : CPScaleStepContinuity
  succeeded : Bool
  secondaryFailures : List String := []

/-- The DHCP baseline that the following steps see. -/
def stepBaseline (decision : CPScaleStepDecision) (continuity : CPScaleStepContinuity) :
    Run (Option CPScaleObservationRecord) :=
  if decision.acquireDhcpBaseline then do
    let record ← ask .dhcpBaseline c.dhcpBaseline
    updateActiveStage fun stage => { stage with dhcpBaseline := some record }
    return some record
  else pure continuity.dhcpBaseline

/-- The checkpoint of a stage that is not terminal. -/
def stepCheckpoint : Run Unit := do
  let command ← checkpoint c
  demand (if command = .retain then "Retention is forbidden before full CP-SCALE qualification."
    else "")

/-- The active stage is complete. -/
def completeActiveStage : Run Unit :=
  updateProgress fun progress =>
    { progress with stages := progress.stages ++ progress.activeStage.toList, activeStage := none }

/-- The part of `step` after an executor result that is not a failure. -/
def settleStep (decision : CPScaleStepDecision) (continuity : CPScaleStepContinuity)
    (acquired : CPScaleLiveStageResult) : Run StageStepResult := do
  let baseline ← stepBaseline c decision continuity
  completeActiveStage
  demand (canonicalStepResultError acquired)
  (if decision.captureSerialCore then ask .coreRematerialized c.coreRematerialized else pure ())
  (if decision.checkpointRequired then stepCheckpoint c else pure ())
  return { value := acquired
           continuity :=
             { stage :=
                 advanceCanonicalContinuity continuity.stage acquired decision.captureSerialCore
               dhcpBaseline := baseline }
           succeeded := true
           secondaryFailures := stageSecondaryFailures acquired }

/-- `step`. -/
def step (target : CPScaleCanonicalTargetContract) (stage : CPScaleCanonicalStage)
    (continuity : CPScaleStepContinuity) : Run StageStepResult := do
  let decision := canonicalStepDecision target stage
  let projection ← ask .projection c.projection
  prepareStage c projection continuity.stage decision.terminalTransition
  let acquired ← call c.execute (.executed stage)
  let errors := stageSecondaryFailures acquired
  updateActiveStage fun stage => { stage with result := some acquired }
  updateTerminal fun terminal =>
    { terminal with secondaryFailures := terminal.secondaryFailures ++ errors }
  if acquired.outcome = "failed" then
    return { value := acquired, continuity := continuity, succeeded := false
             secondaryFailures := errors }
  else settleStep c decision continuity acquired

/-- `StageSequenceResult`: the failure of the step that stopped the sequence, if one did. -/
structure StageSequenceResult where
  failure : Option String
  secondaryFailures : List String

/-- `execute_stage_sequence`. -/
def executeStageSequence (target : CPScaleCanonicalTargetContract) :
    List CPScaleCanonicalStage → CPScaleStepContinuity → List String → Run StageSequenceResult
  | [], _, secondaries => pure { failure := none, secondaryFailures := secondaries }
  | stage :: stages, continuity, secondaries => do
    let acquired ← step c target stage continuity
    let secondaries := secondaries ++ acquired.secondaryFailures
    if acquired.succeeded then executeStageSequence target stages acquired.continuity secondaries
    else return { failure := some acquired.value.failure, secondaryFailures := secondaries }

end

end LiveRun
end PacketTracer
