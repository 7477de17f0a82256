import PacketTracer.Application.LiveRun

/-!
# A live run, its completion and its finalization

`completion.py`, the session of `coordinator.py` and its `finally` with `finalize_session` of
`lifecycle.py`.  What the reviews ask of the authorization and of the evidence of a stage is an
answer, and what an interruption carries besides its text is not kept.
-/

namespace PacketTracer

namespace LiveRun

open PyText Plans Scripts Canonical Script

/-! ## Reviews -/

/-- Whether an audit proves that a stage replayed nothing. -/
def replayVerified (stage : CPScaleStageProgress) : Bool :=
  match stage.result.bind CPScaleLiveStageResult.replayAudit with
  | none => false
  | some audit => audit.verified && audit.claim = "NO_MUTATION_REPLAY"

/-- `_run_replay_audit`. -/
def runReplayAudit (stages : List CPScaleStageProgress) : CPScaleRunReplayAudit where
  auditedStages := stages.map (·.projection.stage.value)
  stagesWithoutVerifiedAudit :=
    (stages.filter fun stage => !replayVerified stage).map (·.projection.stage.value)
  replayedRetainedIds := sortedSet <| stages.flatMap fun stage =>
    (stage.result.bind CPScaleLiveStageResult.replayAudit).toList.flatMap fun audit =>
      audit.surfaces.flatMap (·.replayedRetainedIds)

/-- `verified`. -/
def CPScaleRunReplayAudit.verified (replay : CPScaleRunReplayAudit) : Bool :=
  replay.stagesWithoutVerifiedAudit.isEmpty

/-- `_replay_error`. -/
def replayError (subject : String) (replay : CPScaleRunReplayAudit) : String :=
  if replay.verified then ""
  else
    subject ++ " closure cannot attest NO_MUTATION_REPLAY; " ++
      "stages without a verified runtime audit: " ++
      ", ".intercalate replay.stagesWithoutVerifiedAudit ++
      (if replay.replayedRetainedIds = [] then ""
        else "; replayed retained actions: " ++ ", ".intercalate replay.replayedRetainedIds)

/-- Whether a stage has a VERIFIED result of its own stage.  That its projection is the very object
of the progress is part of the evidence. -/
def stageVerified (stage : CPScaleStageProgress) : Bool :=
  match stage.result with
  | none => false
  | some result =>
    !stage.failed && result.outcome = "verified" && result.stage = stage.projection.stage

/-- Whether `review_bounded_target` refuses before it reads the evidence of the last result. -/
def boundedRefused (target : CPScaleCanonicalTargetContract)
    (latest : Option CPScaleLiveStageResult) : Bool :=
  !target.requireCleanup || target.runFullQualification ||
    match latest with
    | none => true
    | some latest => latest.stage ≠ target.terminalStage || latest.outcome ≠ "verified"

section

variable (c : Collaborators)

/-- `_full_qualification_error`; the contract of the run is that of the full qualification once the
admission is accepted. -/
def fullQualificationError (target : CPScaleCanonicalTargetContract)
    (stages : List CPScaleStageProgress) : Run String := do
  let admission ← ask .fullAdmission c.fullAdmission
  if admission ≠ "" then return admission
  else if stages.map (·.projection.stage) ≠ target.executionStages then
    return "the executed stages are not the exact build sequence followed by REMAINING: " ++
      (if stages = [] then "none"
        else ", ".intercalate (stages.map (·.projection.stage.value))) ++ "."
  else
    match stages.find? fun stage => !stageVerified stage with
    | some stage => return "stage " ++ quoted stage.projection.stage.value ++
        " has no VERIFIED result for its own projection."
    | none => ask .finalEvidence c.finalEvidence

/-- `review_full_qualification`. -/
def reviewFullQualification (target : CPScaleCanonicalTargetContract)
    (stages : List CPScaleStageProgress) : Run CPScaleReview := do
  let error ← fullQualificationError c target stages
  let replay := runReplayAudit stages
  return if error = "" then
      { replay := some replay, error := replayError "Full qualification" replay }
    else { error := "Full qualification closure refused: " ++ error }

/-- `review_bounded_target`. -/
def reviewBoundedTarget (target : CPScaleCanonicalTargetContract)
    (stages : List CPScaleStageProgress) : Run CPScaleReview := do
  let evidence ← ask .boundedEvidence c.boundedEvidence
  let subject := "Bounded target " ++ quoted target.terminalStage.value
  let replay := runReplayAudit stages
  return if boundedRefused target (stages.getLast?.bind CPScaleStageProgress.result) ||
      !evidence then
      { error := subject ++
          " closure lacks verified stage, forwarding, or double workspace evidence." }
    else { replay := some replay, error := replayError subject replay }

/-- The review that `complete` chooses. -/
def reviewCompletion (target : CPScaleCanonicalTargetContract)
    (stages : List CPScaleStageProgress) : Run CPScaleReview := do
  let review ←
    (if target.runFullQualification ∨ target.runRemainingReconciliation then
      reviewFullQualification c target stages
    else reviewBoundedTarget c target stages)
  note (.reviewed stages review)
  return review

end

/-! ## The plan of the closure -/

/-- `CPScaleClosurePlan`. -/
structure CPScaleClosurePlan where
  disposition : CPScaleFinalDisposition
  precleanupClosure : String
  cleanedClosure : String
  retainedClosure : String
  scope : String
  event : CPScaleTerminalEvent
  deriving DecidableEq

/-- `canonical_final_disposition`. -/
def canonicalFinalDisposition (command : CPScaleCheckpointDecision) (retainAuthorized : Bool) :
    Except Raised CPScaleFinalDisposition :=
  match command with
  | .continue_ => .ok .cleanup
  | .retain =>
    if retainAuthorized then .ok .retain
    else .error (.exception "ValueError" "Final presentation retention was not authorized.")

/-- `CPScaleCompletion.plan`. -/
def CPScaleCanonicalTargetContract.plan (target : CPScaleCanonicalTargetContract)
    (command : CPScaleCheckpointDecision) (retainAuthorized : Bool) :
    Except Raised CPScaleClosurePlan := do
  let disposition ←
    (if target.requireCleanup then pure .cleanup
    else canonicalFinalDisposition command retainAuthorized)
  let event ←
    (if disposition = .retain then pure .retained
    else if target.requireCleanup then CPScaleTerminalEvent.ofValue target.cleanedClosure
    else pure .canonicalCleaned)
  return { disposition := disposition
           precleanupClosure := target.precleanupClosure
           cleanedClosure := target.cleanedClosure
           retainedClosure := "CP_SCALE_GOVERNED_VOICE_VERIFIED_RETAINED"
           scope := if target.requireCleanup then target.target.value else "full-qualification"
           event := event }

/-- `CPScaleCleanupReview`. -/
structure CPScaleCleanupReview where
  error : String
  secondaryFailures : List String := []
  deriving DecidableEq

/-- The first text that is not empty. -/
def firstText : List String → String
  | [] => ""
  | text :: texts => if text = "" then firstText texts else text

/-- `target_stage.value.partition("-")[0].capitalize()`. -/
def stagePrefix (stage : CPScaleCanonicalStage) : String :=
  (String.ofList (stage.value.toList.takeWhile (· ≠ '-'))).capitalize

/-- `CPScaleCompletion.review_cleanup`. -/
def reviewCleanup (cleanup : CPScaleCleanupResult) (realtime : CPScaleCleanupRealtime)
    (targetStage : CPScaleCanonicalStage) : CPScaleCleanupReview :=
  if cleanup.verified && realtime.verified then { error := "" }
  else
    { error := stagePrefix targetStage ++
        " verification completed, but cleanup/restoration did not verify: " ++
        firstText [cleanup.error, cleanup.restorationError, realtime.error]
      secondaryFailures :=
        if (cleanup.error ≠ "" ∨ cleanup.restorationError ≠ "") ∧ realtime.error ≠ "" then
          ["cleanup_realtime: " ++ realtime.error]
        else [] }

/-! ## Completion -/

section

variable (c : Collaborators)

/-- The branch of `complete` that retains the presentation. -/
def retainPresentation (plan : CPScaleClosurePlan) : Run Unit := do
  updateTerminal fun terminal =>
    { terminal with retained := true, closure := plan.retainedClosure }
  writeProgress c
  ask .persistCheckpoint c.persistCheckpoint
  updateTerminal fun terminal => { terminal with event := some plan.event }

/-- The cleanup of `complete`, with its review. -/
def cleanWorkspace (targetStage : CPScaleCanonicalStage) : Run Unit := do
  updateTerminal fun terminal => { terminal with cleanupAttempted := true }
  let cleanup ← restoreRun c
  updateTerminal fun terminal => { terminal with cleanup := some cleanup }
  let realtime ← readCleanupRealtime c
  updateTerminal fun terminal => { terminal with realtime := some realtime }
  let review := reviewCleanup cleanup realtime targetStage
  updateTerminal fun terminal =>
    { terminal with secondaryFailures := terminal.secondaryFailures ++ review.secondaryFailures }
  demand review.error

/-- The end of `complete`: the cleaned closure exists only once its attestation is archived. -/
def attestClosure (plan : CPScaleClosurePlan) : Run Unit := do
  ask .completionClock c.completionClock
  let receipt ← archive c "cleanup"
  updateTerminal fun terminal =>
    { terminal with attestation := some receipt, closure := plan.cleanedClosure }
  writeProgress c
  ask .persistCheckpoint c.persistCheckpoint
  updateTerminal fun terminal =>
    { terminal with terminalCleanupComplete := true, event := some plan.event }

/-- The closure plan becomes a fact, and the run so far is archived. -/
def archivePrecleanup (plan : CPScaleClosurePlan) : Run Unit := do
  ask .completionClock c.completionClock
  updateTerminal fun terminal =>
    { terminal with
      disposition := some plan.disposition
      closure := plan.precleanupClosure
      closureScope := plan.scope }
  writeProgress c
  let receipt ← archive c "precleanup"
  updateTerminal fun terminal => { terminal with precleanup := some receipt }

/-- `complete`. -/
def complete (target : CPScaleCanonicalTargetContract) (command : CPScaleCheckpointDecision)
    (retainAuthorized : Bool) : Run Unit := do
  let state ← get
  let review ← reviewCompletion c target state.progress.stages
  updateTerminal fun terminal => { terminal with replay := review.replay }
  demand review.error
  let plan ← ofExcept (target.plan command retainAuthorized)
  archivePrecleanup c plan
  if plan.disposition = .retain then retainPresentation c plan
  else do
    cleanWorkspace c target.terminalStage
    attestClosure c plan

end

section

variable (c : Collaborators)

/-! ## The session -/

/-- `session.start`, and the failure of a bridge that is not polled. -/
def startSession : Run Unit := do
  if ← ask .start c.start then ask .status c.status
  else do
    let status ← ask .pollingFailure c.pollingFailure
    raise (liveFailure
      ("Authenticated Packet Tracer HTTP bridge did not obtain fresh polling: " ++ status))

/-- The baseline of the run. -/
def acquireBaseline : Run Unit := do
  let baseline ← observeWorkspace c
  updateQualification fun qualification => { qualification with baseline := some baseline }

/-- The observations, the composition and the runtimes of an accepted session. -/
def prepareSession : Run Unit := do
  ask .observationsFactory c.observationsFactory
  modify fun state => { state with observations := true }
  let _ ← qualifyBackend c
  ask .statisticsProjection c.statisticsProjection
  ask .dhcpTarget c.dhcpTarget
  ask .deployerFactory c.deployerFactory
  ask .acquireRuntimes c.acquireRuntimes
  ask .stageFactory c.stageFactory

/-- The stages of the target, and the failure of the one that stopped them. -/
def runStages (target : CPScaleCanonicalTargetContract) : Run Unit := do
  let sequence ← executeStageSequence c target target.executionStages {} []
  updateTerminal fun terminal =>
    { terminal with secondaryFailures := sequence.secondaryFailures }
  match sequence.failure with
  | some failure => raise (liveFailure failure)
  | none => pure ()

/-- `execute_session`. -/
def executeSession (target : CPScaleCanonicalTargetContract) (retainAuthorized : Bool) :
    Run CPScaleRunOutcome := do
  startSession c
  acquireBaseline c
  let baselineError ← call c.baselinePolicy .judged
  if baselineError ≠ "" then do
    updateTerminal fun terminal => { terminal with hardStop := baselineError }
    writeProgress c
    return .rejected
  else do
    prepareSession c
    runStages c target
    demand (if target.requireCleanup then ""
      else "Target " ++ quoted target.target.value ++ " has no governed cleanup closure.")
    complete c target .continue_ retainAuthorized
    return .completed

/-! ## The obligations of the finalization -/

/-- The archive of a run that has none. -/
def archiveFailure : Run Unit := do
  match ← caught (archive c "failure-precleanup") with
  | .ok receipt => updateTerminal fun terminal => { terminal with precleanup := some receipt }
  | .error raised => updateTerminal fun terminal =>
      { terminal with
        precleanupArchiveError := raised.text
        secondaryFailures :=
          terminal.secondaryFailures ++ ["precleanup_archive: " ++ raised.text] }

/-- `(label + error,) if error else ()`. -/
def labelled (label error : String) : List String := if error = "" then [] else [label ++ error]

/-- What a run that attempted no cleanup records of it. -/
def recordCleanup : Except Raised CPScaleCleanupResult → Run Unit
  | .ok cleanup => updateTerminal fun terminal =>
      { terminal with
        cleanup := some cleanup
        secondaryFailures := terminal.secondaryFailures ++
          (labelled "cleanup: " cleanup.error ++
            labelled "cleanup_restoration: " cleanup.restorationError) }
  | .error raised => updateTerminal fun terminal =>
      { terminal with
        cleanup := some { verified := false, error := raised.text }
        secondaryFailures := terminal.secondaryFailures ++ ["cleanup: " ++ raised.text] }

/-- The cleanup of a run that attempted none. -/
def cleanFailure : Run Unit := do
  updateTerminal fun terminal => { terminal with cleanupAttempted := true }
  let cleanup ← caught (restoreRun c)
  recordCleanup cleanup

/-- The phase of the attestation of a run that was not completed. -/
def attestationPhase (cleanup : Option CPScaleCleanupResult) (realtime : CPScaleCleanupRealtime) :
    String :=
  match cleanup with
  | some cleanup => if cleanup.verified && realtime.verified then "cleanup" else "cleanup-incomplete"
  | none => "cleanup-incomplete"

/-- The clock and the archive of the attestation. -/
def archiveAttestation (realtime : CPScaleCleanupRealtime) : Run CPScaleEvidenceArchive := do
  let state ← get
  ask .completionClock c.completionClock
  archive c (attestationPhase state.terminal.cleanup realtime)

/-- The attestation of a run that has none. -/
def attestFailure (realtime : CPScaleCleanupRealtime) : Run Unit := do
  match ← caught (archiveAttestation c realtime) with
  | .ok receipt => updateTerminal fun terminal => { terminal with attestation := some receipt }
  | .error raised => updateTerminal fun terminal =>
      { terminal with
        cleanupArchiveError := raised.text
        secondaryFailures := terminal.secondaryFailures ++ ["cleanup_archive: " ++ raised.text] }

/-- Whether `prepare_finalization` has nothing to do. -/
def finalizationSkipped (physical : Bool) (state : RunState) : Bool :=
  !physical || state.qualification.baseline.isNone || state.terminal.retained ||
    state.terminal.terminalCleanupComplete || state.qualification.composition.isNone

/-- The part of `prepare_finalization` after its guard. -/
def finalizeWorkspace : Run Unit := do
  let state ← get
  (if state.terminal.precleanup.isNone then archiveFailure c else pure ())
  (if state.terminal.cleanupAttempted then pure () else cleanFailure c)
  let realtime ← readCleanupRealtime c
  updateTerminal fun terminal =>
    { terminal with
      realtime := some realtime
      secondaryFailures :=
        terminal.secondaryFailures ++ labelled "cleanup_realtime: " realtime.error }
  if state.terminal.attestation.isNone then attestFailure c realtime else pure ()

/-- `prepare_finalization`. -/
def prepareFinalization : Run Unit := do
  let state ← get
  if finalizationSkipped c.physical state then pure () else finalizeWorkspace c

/-- `prepare_and_capture_secondaries`. -/
def prepareAndCaptureSecondaries : Run Unit := do
  prepareFinalization c
  modify fun state => { state with preparedSecondaries := state.terminal.secondaryFailures }

/-! ## Reports -/

/-- `report_errors`. -/
def reportErrors (errors : List String) : Run Unit := do
  updateTerminal fun terminal =>
    { terminal with secondaryFailures := [], finalizationErrors := errors }
  ask .finalizationIncomplete c.finalizationIncomplete

/-- `report_terminal_errors`. -/
def reportTerminalErrors (errors : List String) (report : List String → Run Unit) :
    Run (List String) := do
  match ← caught (report errors) with
  | .ok () => pure errors
  | .error raised => pure (errors ++ ["finalization_report: " ++ raised.text])

/-- A handler that keeps what was raised as a text, an interruption only on demand. -/
def keepAsError (preserve : Bool) (label : String) (errors : List String) :
    Except Raised (List String) → Run (List String)
  | .ok errors => pure errors
  | .error raised =>
    if raised.interrupts ∧ preserve = false then raise raised
    else pure (errors ++ [label ++ raised.text])

/-- `publish_terminal_outcome`. -/
def publishTerminalOutcome (errors : List String) (preserve : Bool) : Run (List String) := do
  updateTerminal fun terminal =>
    { terminal with secondaryFailures := [], finalizationErrors := errors }
  let written ← attempt (writeProgress c)
  let kept ← keepAsError preserve "terminal_evidence_write: " errors (written.map fun _ => errors)
  updateTerminal fun terminal => { terminal with finalizationErrors := kept }
  return kept

/-- `settle_terminal_errors`. -/
def settleTerminalErrors (errors : List String) (publicationRequired preserve : Bool) :
    Run (List String) := do
  let published ←
    (if publicationRequired then publishTerminalOutcome c errors preserve else pure errors)
  let outcome ← attempt (reportTerminalErrors published (reportErrors c))
  let reported ← keepAsError preserve "finalization_report: " published outcome
  updateTerminal fun terminal => { terminal with finalizationErrors := reported }
  if reported = published then return reported
  else do
    let settled ← publishTerminalOutcome c reported preserve
    updateTerminal fun terminal => { terminal with finalizationErrors := settled }
    return settled

/-! ## `finalize_session` -/

/-- The errors of a finalization, and the interruption in flight. -/
structure FinalizationState where
  errors : List String := []
  interruption : Option Raised := none
  deriving DecidableEq

/-- What the handlers of one obligation do with what it raised. -/
def FinalizationState.record (final : FinalizationState) (label : String) (raised : Raised) :
    FinalizationState :=
  if raised.interrupts ∧ final.interruption = none then { final with interruption := some raised }
  else { final with errors := final.errors ++ [label ++ raised.text] }

/-- One obligation of the finalization. -/
def obligation (final : FinalizationState) (label : String) (x : Run Unit) :
    Run FinalizationState := do
  match ← attempt x with
  | .ok () => pure final
  | .error raised => pure (final.record label raised)

/-- `prepare`, and `write` when it returns. -/
def prepareAndWrite (final : FinalizationState) : Run FinalizationState := do
  match ← attempt (prepareAndCaptureSecondaries c) with
  | .ok () => obligation final "final_evidence_write: " (writeProgress c)
  | .error raised => pure (final.record "finalization: " raised)

/-- `session.close`. -/
def closeSession (final : FinalizationState) : Run FinalizationState :=
  obligation final "transport_stop: " (call c.close .closed)

/-- `finalize_report`. -/
def finalizeReport (initial : Option Raised) (errors : List String) : Run Unit :=
  match initial with
  | none => reportErrors c errors
  | some _ => do
    let state ← get
    let _ ← settleTerminalErrors c errors (errors ≠ state.preparedSecondaries) true
    pure ()

/-- The report of `finalize_session` while an interruption is in flight. -/
def reportInterrupted (initial : Option Raised) (errors : List String) : Run Unit :=
  if errors = [] then pure ()
  else do
    let _ ← attempt (reportTerminalErrors errors (finalizeReport c initial))
    pure ()

/-- The report of `finalize_session`, and the interruption it raises again. -/
def raiseInterruption (initial : Option Raised) (final : FinalizationState) :
    Run (List String) := do
  match final.interruption with
  | none => pure final.errors
  | some raised => do
    reportInterrupted c initial final.errors
    raise raised

/-- `finalize_session`. -/
def finalizeSession (initial : Option Raised) : Run (List String) := do
  let prepared ← prepareAndWrite c { interruption := initial }
  let closed ← closeSession c prepared
  let state ← get
  raiseInterruption c initial
    { closed with errors := state.terminal.secondaryFailures ++ closed.errors }

/-! ## `run` -/

/-- The local refusal of a preflight. -/
def CPScalePreflightResult.hardStop (preflight : CPScalePreflightResult) : String :=
  if preflight.outcome = .rejected then
    let issues := " ".intercalate preflight.issues
    if issues = "" then "Local preflight evidence is incomplete or inconsistent." else issues
  else if preflight.identity.isNone then "Local preflight did not produce a session identity."
  else ""

/-- What the run of a refused preflight does when its evidence could not be written. -/
def recordRefusal : Except Raised Unit → Run Unit
  | .ok () => pure ()
  | .error raised => do
    let errors ← reportTerminalErrors ["preflight_evidence_write: " ++ raised.text] (reportErrors c)
    updateTerminal fun terminal => { terminal with finalizationErrors := errors }

/-- The run of a refused preflight. -/
def refuseRun (hardStop : String) : Run CPScaleLiveFinalResult := do
  updateTerminal fun terminal => { terminal with hardStop := hardStop }
  let written ← caught (writeProgress c)
  recordRefusal c written
  let state ← get
  return fromReport (some .rejected) state

/-- The handlers of the session: the interruption in flight. -/
def settleExecution : Except Raised CPScaleRunOutcome → Run (Option Raised)
  | .ok outcome => do
    updateTerminal fun terminal => { terminal with outcome := some outcome }
    return none
  | .error raised =>
    if raised.interrupts then pure (some raised)
    else do
      updateTerminal fun terminal =>
        { terminal with failure := raised.text, outcome := some .failed }
      updateProgress fun progress =>
        { progress with
          stages := progress.stages ++
            (progress.activeStage.map fun stage => { stage with failed := true }).toList
          activeStage := none }
      return none

/-- The errors of the finalization become facts, and no run with errors is completed. -/
def settleFinalization (errors : List String) : Run Unit := do
  updateTerminal fun terminal =>
    { terminal with
      finalizationErrors := errors
      outcome := if errors ≠ [] ∧ terminal.outcome = some .completed then some .failed
        else terminal.outcome }
  let state ← get
  if errors = [] then pure ()
  else do
    let _ ← settleTerminalErrors c errors (errors ≠ state.preparedSecondaries) false
    pure ()

/-- The presentation of a completed run. -/
def presentTerminal : Run Unit := do
  let state ← get
  if state.terminal.outcome = some .completed then
    match ← caught (ask .terminalPresentation c.terminalPresentation) with
    | .ok () => pure ()
    | .error raised => do
      updateTerminal fun terminal => { terminal with outcome := some .failed }
      let errors ← settleTerminalErrors c ["terminal_presentation: " ++ raised.text] true false
      updateTerminal fun terminal =>
        { terminal with outcome := some .failed, finalizationErrors := errors }
  else pure ()

/-- The session of an admitted preflight, and its finalization. -/
def runSession (target : CPScaleCanonicalTargetContract) (retainAuthorized : Bool) :
    Run CPScaleLiveFinalResult := do
  let executed ← attempt (executeSession c target retainAuthorized)
  let interruption ← settleExecution executed
  note .finalizing
  let errors ← finalizeSession c interruption
  settleFinalization c errors
  presentTerminal c
  let state ← get
  return fromReport state.terminal.outcome state

/-- `CPScaleLiveCoordinator.run`. -/
def run (request : CPScaleLiveRequest) : Run CPScaleLiveFinalResult := do
  ask .clock c.clock
  let preflight ← ask .inspect c.inspect
  if preflight.hardStop ≠ "" then refuseRun c preflight.hardStop
  else do
    ask .sessionFactory c.sessionFactory
    runSession c preflight.target request.retainOnFullVerification

end

end LiveRun
end PacketTracer
