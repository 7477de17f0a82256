import PacketTracer.Application.RunCleanup

/-!
# Completed runs

A run that returns COMPLETED executed every stage of its target once and in order, none of them with
a failure; its review accepted exactly these stages, nothing was removed before the run was
archived, the cleanup and its realtime read verified, no cleaned closure was published before its
attestation was archived, and nothing went wrong afterwards.
-/

namespace PacketTracer

namespace LiveRun

open PyText Scripts Canonical Script

/-! ## The accounts of the stages -/

/-- What the executor answered of a stage. -/
def RunEvent.execution :
    RunEvent → Option (CPScaleCanonicalStage × Except Raised CPScaleLiveStageResult)
  | .executed stage answer => some (stage, answer)
  | _ => none

/-- What the executor answered, stage by stage. -/
def executions (history : List RunEvent) :
    List (CPScaleCanonicalStage × Except Raised CPScaleLiveStageResult) :=
  history.filterMap RunEvent.execution

/-- A step of a stage: the stage, and the result that the executor returned. -/
abbrev Step : Type := CPScaleCanonicalStage × CPScaleLiveStageResult

/-- The steps of a run are what was executed and what the completed stages hold. -/
structure Accounting (steps : List Step) (state : RunState) (history : List RunEvent) : Prop where
  executed : executions history = steps.map fun step => (step.1, .ok step.2)
  stages : state.progress.stages.map CPScaleStageProgress.result = steps.map fun step => some step.2

/-- The completed stages, and the result of the active one. -/
def RunState.stageFacts (state : RunState) :
    List CPScaleStageProgress × Option (Option CPScaleLiveStageResult) :=
  (state.progress.stages, state.progress.activeStage.map CPScaleStageProgress.result)

/-- A procedure that executes nothing and leaves the results of the stages alone. -/
abbrev Staged {α : Type} (x : Run α) : Prop :=
  Keeps (Grows RunState.stageFacts fun _ event => event.execution = none) x

section Accounts

variable {c : Collaborators} {steps : List Step} {state : RunState} {history : List RunEvent}
  {a b : RunState × List RunEvent}

lemma Accounting.of_staged
    (h : Grows RunState.stageFacts (fun _ event => event.execution = none) a b)
    (haccounts : Accounting steps a.1 a.2) : Accounting steps b.1 b.2 := by
  obtain ⟨added, hadded, hnone⟩ := h.grown
  have hexecutions : executions added = [] := List.filterMap_eq_nil_iff.mpr hnone
  refine ⟨?_, ?_⟩
  · rw [hadded, executions, List.filterMap_append]
    rw [executions] at hexecutions
    rw [hexecutions, List.append_nil]
    exact haccounts.executed
  · rw [show b.1.progress.stages = a.1.progress.stages from congrArg Prod.fst h.fixed]
    exact haccounts.stages

lemma staged_of_plain (h : Grows RunState.facts Plain a b) :
    Grows RunState.stageFacts (fun _ event => event.execution = none) a b := by
  refine h.mono ?_ ?_
  · intro state state' hfacts
    obtain ⟨-, -, hstages, hactive, -⟩ := facts_eq_iff.mp hfacts
    exact Prod.ext hstages hactive
  · intro state event hplain
    cases event with
    | executed _ _ => exact hplain.elim
    | _ => rfl

lemma Plainly.staged {α : Type} {x : Run α} (h : Plainly x) : Staged x :=
  h.keeps.mono fun _ _ => staged_of_plain

lemma staged_compose : Staged (compose c) := by
  refine Grows.frame.bind (Grows.call fun _ _ => rfl) fun composition => ?_
  exact Grows.frame.bind (Grows.modify fun _ => rfl) fun _ => Grows.frame.pure composition

lemma staged_qualifyBackend : Staged (qualifyBackend c) := by
  refine Grows.frame.bind staged_compose fun _ => ?_
  refine Grows.frame.bind (plainly_ask ..).staged fun _ => ?_
  refine Grows.frame.bind (plainly_ask ..).staged fun required => ?_
  refine Grows.frame.bind (plainly_ask ..).staged fun _ => ?_
  refine Grows.frame.bind (plainly_probeRequired required).staged fun _ => ?_
  refine Grows.frame.bind plainly_observeWorkspace.staged fun _ => ?_
  refine Grows.frame.bind plainly_observeWorkspace.staged fun _ => ?_
  refine Grows.frame.bind (plainly_ask ..).staged fun error => ?_
  refine Grows.frame.bind (plainly_demand error).staged fun _ => ?_
  refine Grows.frame.bind staged_compose fun composition => ?_
  refine Grows.frame.bind (plainly_ask ..).staged fun _ => ?_
  refine Grows.frame.bind (plainly_ask ..).staged fun _ => ?_
  exact Grows.frame.bind (plainly_demand _).staged fun _ => Grows.frame.pure composition

lemma staged_deployOwned : Staged (deployOwned c) := by
  have hdeploy : Staged (deploy c) :=
    Grows.frame.bind (keeps_exchange fun _ _ _ => Grows.of_event rfl) fun answer =>
      Grows.frame.ofExcept answer.2
  refine Grows.frame.bind hdeploy fun delta => ?_
  refine Grows.frame.bind (Grows.modify fun state => ?_) fun _ => Grows.frame.pure delta
  simp only [RunState.stageFacts]
  cases state.progress.activeStage with
  | none => rfl
  | some stage => rfl

lemma staged_deployStage (projection : CPScaleCanonicalStageProjection) (first : Bool) :
    Staged (deployStage c projection first) := by
  refine Grows.frame.bind staged_deployOwned fun delta => ?_
  refine Grows.frame.bind plainly_writeProgress.staged fun _ => ?_
  refine Grows.frame.bind (plainly_ask ..).staged fun _ => ?_
  refine Grows.frame.bind (plainly_stageDeployment projection delta first).staged fun deployment => ?_
  exact (plainly_publishDeployment deployment).staged

/-- A stage is prepared as the active stage. -/
lemma prepareStage_ensures (projection : CPScaleCanonicalStageProjection)
    (continuity : CPScaleStageContinuity) (terminalTransition : Bool)
    (haccounts : Accounting steps state history) :
    (prepareStage c projection continuity terminalTransition).Ensures state history
      (fun _ state' history' => Accounting steps state' history' ∧
        state'.progress.activeStage.isSome) (fun _ _ _ => True) := by
  unfold prepareStage
  rw [ensures_bind, updateProgress, ensures_modify]
  refine (Keeps.ensures (R := Grows RunState.stageFacts fun _ event => event.execution = none)
    ?_ _ history).mono ?_ fun _ _ _ _ => trivial
  · refine Grows.frame.bind (plainly_ask ..).staged fun _ => ?_
    refine Grows.frame.bind (plainly_deltaTopology _ _ _).staged fun delta => ?_
    cases delta with
    | none =>
      exact Grows.frame.bind (plainly_ask ..).staged fun deployment =>
        (plainly_publishDeployment deployment).staged
    | some delta => exact staged_deployStage projection _
  intro _ state' history' hgrows
  refine ⟨Accounting.of_staged hgrows ⟨haccounts.executed, haccounts.stages⟩, ?_⟩
  have hactive := congrArg Prod.snd hgrows.fixed
  simp only [RunState.stageFacts, Option.map_some] at hactive
  cases hstage : state'.progress.activeStage with
  | none => simp [hstage] at hactive
  | some stage => rfl

/-- The step of a stage that is settled completes its active stage. -/
lemma settleStep_ensures (decision : CPScaleStepDecision) (continuity : CPScaleStepContinuity)
    (acquired : CPScaleLiveStageResult) {stage : CPScaleCanonicalStage}
    (hexecuted : executions history =
      (steps ++ [(stage, acquired)]).map fun step => (step.1, .ok step.2))
    (hstages : state.progress.stages.map CPScaleStageProgress.result =
      steps.map fun step => some step.2)
    (hactive : state.progress.activeStage.map CPScaleStageProgress.result = some (some acquired)) :
    (settleStep c decision continuity acquired).Ensures state history
      (fun result state' history' => result.value = acquired ∧
        Accounting (steps ++ [(stage, acquired)]) state' history') (fun _ _ _ => True) := by
  unfold settleStep
  rw [ensures_bind]
  refine ((plainly_stepBaseline decision continuity).staged.ensures state history).mono ?_
    fun _ _ _ _ => trivial
  intro baseline state₁ history₁ hgrows
  have hstages₁ := congrArg Prod.fst hgrows.fixed
  have hactive₁ := congrArg Prod.snd hgrows.fixed
  obtain ⟨added, hadded, hnone⟩ := hgrows.grown
  simp only [RunState.stageFacts] at hstages₁ hactive₁ hadded
  rw [ensures_bind, completeActiveStage, updateProgress, ensures_modify]
  have haccounts : Accounting (steps ++ [(stage, acquired)])
      { state₁ with progress := { state₁.progress with
          stages := state₁.progress.stages ++ state₁.progress.activeStage.toList
          activeStage := none } } history₁ := by
    refine ⟨?_, ?_⟩
    · have hexecutions : added.filterMap RunEvent.execution = [] :=
        List.filterMap_eq_nil_iff.mpr hnone
      rw [hadded, executions, List.filterMap_append, hexecutions, List.append_nil]
      exact hexecuted
    · rw [hactive] at hactive₁
      cases hstage : state₁.progress.activeStage with
      | none => simp [hstage] at hactive₁
      | some active =>
        have hresult : active.result = some acquired := by simpa [hstage] using hactive₁
        simp [hstages₁, hstages, hresult]
  have hrest : Plainly (do
      demand (canonicalStepResultError acquired)
      (if decision.captureSerialCore then ask .coreRematerialized c.coreRematerialized else pure ())
      (if decision.checkpointRequired then stepCheckpoint c else pure ())) :=
    (plainly_demand _).bind fun _ => (Plainly.ite (plainly_ask ..) (.pure ())).bind fun _ =>
      .ite plainly_stepCheckpoint (.pure ())
  have hkept := hrest.staged.ensures { state₁ with progress := { state₁.progress with
    stages := state₁.progress.stages ++ state₁.progress.activeStage.toList
    activeStage := none } } history₁
  simp only [ensures_bind] at hkept ⊢
  refine hkept.mono (fun _ _ _ h => ?_) fun _ _ _ _ => trivial
  refine h.mono (fun _ _ _ h => ?_) fun _ _ _ _ => trivial
  refine h.mono (fun _ _ _ hgrows => ?_) fun _ _ _ _ => trivial
  exact ⟨rfl, Accounting.of_staged hgrows haccounts⟩

/-- A step that succeeds adds its stage and its result to the accounts. -/
lemma step_ensures (target : CPScaleCanonicalTargetContract) (stage : CPScaleCanonicalStage)
    (continuity : CPScaleStepContinuity) (haccounts : Accounting steps state history) :
    (step c target stage continuity).Ensures state history
      (fun result state' history' => result.succeeded = true →
        Accounting (steps ++ [(stage, result.value)]) state' history' ∧
          result.value.outcome ≠ "failed") (fun _ _ _ => True) := by
  unfold step
  rw [ensures_bind]
  refine ((plainly_ask .projection c.projection).staged.ensures state history).mono ?_
    fun _ _ _ _ => trivial
  intro projection state₁ history₁ hgrows
  rw [ensures_bind]
  refine (prepareStage_ensures projection _ _ (haccounts.of_staged hgrows)).mono ?_
    fun _ _ _ _ => trivial
  rintro _ state₂ history₂ ⟨haccounts₂, hactive₂⟩
  rw [ensures_bind]
  refine ensures_call (fun acquired _ => ?_) fun _ _ => trivial
  simp only [updateActiveStage, updateProgress, updateTerminal, ensures_bind, ensures_modify]
  refine ensures_ite (fun hfailed hsucceeded => ?_) fun hfailed => ?_
  · cases hsucceeded
  · refine (@settleStep_ensures c steps _ _ _ _ acquired stage ?_ ?_ ?_).mono ?_
      fun _ _ _ _ => trivial
    · have hexecuted := haccounts₂.executed
      rw [executions] at hexecuted ⊢
      rw [List.filterMap_append, hexecuted, List.map_append]
      rfl
    · exact haccounts₂.stages
    · cases hstage : state₂.progress.activeStage with
      | none => simp [hstage] at hactive₂
      | some active => rfl
    · rintro result state' history' ⟨rfl, haccounts'⟩ _
      exact ⟨haccounts', hfailed⟩

/-- A sequence that no step stopped executed its stages in order, none with a failure. -/
lemma executeStageSequence_ensures (target : CPScaleCanonicalTargetContract)
    (stages : List CPScaleCanonicalStage) (continuity : CPScaleStepContinuity)
    (secondaries : List String) (haccounts : Accounting steps state history)
    (houtcomes : ∀ step ∈ steps, step.2.outcome ≠ "failed") :
    (executeStageSequence c target stages continuity secondaries).Ensures state history
      (fun result state' history' => result.failure = none → ∃ steps',
        steps'.map Prod.fst = steps.map Prod.fst ++ stages ∧ Accounting steps' state' history' ∧
          ∀ step ∈ steps', step.2.outcome ≠ "failed") (fun _ _ _ => True) := by
  induction stages generalizing continuity secondaries steps state history with
  | nil => exact fun _ => ⟨steps, (List.append_nil _).symm, haccounts, houtcomes⟩
  | cons stage stages ih =>
    unfold executeStageSequence
    rw [ensures_bind]
    refine (step_ensures target stage continuity haccounts).mono ?_ fun _ _ _ _ => trivial
    intro result state₁ history₁ hstep
    refine ensures_ite (fun hsucceeded => ?_) fun _ hnone => ?_
    · obtain ⟨haccounts₁, hfailed⟩ := hstep hsucceeded
      refine (ih _ _ haccounts₁ ?_).imp ?_
      · intro step hstep
        rcases List.mem_concat_iff.mp hstep with hstep | hstep
        · exact houtcomes step hstep
        · rw [hstep]
          exact hfailed
      · intro _ _ _ h hnone
        obtain ⟨steps', hmap, hrest⟩ := h hnone
        exact ⟨steps', by simpa using hmap, hrest⟩
    · cases hnone

end Accounts

/-! ## Accepted stages -/

/-- What an accepted review says of the outcomes of the stages. -/
structure Accepted (target : CPScaleCanonicalTargetContract) (results : List (Option
    CPScaleLiveStageResult)) : Prop where
  full : target.runFullQualification = true ∨ target.runRemainingReconciliation = true →
    ∀ result ∈ results, ∃ value, result = some value ∧ value.outcome = "verified"
  bounded : ¬ (target.runFullQualification = true ∨ target.runRemainingReconciliation = true) →
    ∃ value, results.getLast? = some (some value) ∧ value.stage = target.terminalStage ∧
      value.outcome = "verified"

section Reviews

variable {c : Collaborators} {target : CPScaleCanonicalTargetContract}
  {stages : List CPScaleStageProgress} {state : RunState} {history : List RunEvent}

lemma append_ne_empty {a b : String} (h : a ≠ "") : a ++ b ≠ "" :=
  fun hempty => h (String.append_eq_empty_iff.mp hempty).1

lemma outcome_of_stageVerified {stage : CPScaleStageProgress} (h : stageVerified stage = true) :
    ∃ value, stage.result = some value ∧ value.outcome = "verified" := by
  unfold stageVerified at h
  rcases hresult : stage.result with _ | value
  · simp [hresult] at h
  refine ⟨value, rfl, ?_⟩
  simp only [hresult, Bool.and_eq_true, decide_eq_true_eq] at h
  exact h.1.2

/-- The full qualification refuses a stage that is not verified. -/
lemma fullQualificationError_ensures :
    (fullQualificationError c target stages).Ensures state history
      (fun error _ _ => error = "" → ∀ stage ∈ stages, stageVerified stage = true)
      (fun _ _ _ => True) := by
  unfold fullQualificationError
  rw [ensures_bind]
  refine ensures_call (fun admission _ => ?_) fun _ _ => trivial
  refine ensures_ite (fun hadmission hempty => absurd hempty hadmission) fun _ => ?_
  refine ensures_ite (fun _ hempty => ?_) fun _ => ?_
  · exact absurd hempty (append_ne_empty (append_ne_empty (by decide)))
  · cases hfind : stages.find? fun stage => !stageVerified stage with
    | some stage =>
      intro hempty
      exact absurd hempty (append_ne_empty (append_ne_empty (by decide)))
    | none =>
      refine ensures_call (fun _ _ _ stage hstage => ?_) fun _ _ => trivial
      have hverified := List.find?_eq_none.mp hfind stage hstage
      simpa using hverified

lemma reviewFullQualification_ensures :
    (reviewFullQualification c target stages).Ensures state history
      (fun review _ _ => review.error = "" → ∀ stage ∈ stages, stageVerified stage = true)
      (fun _ _ _ => True) := by
  unfold reviewFullQualification
  refine fullQualificationError_ensures.bind fun error _ _ h => ?_
  rw [ensures_pure]
  by_cases herror : error = ""
  · exact fun _ => h herror
  · rw [if_neg herror]
    exact fun hempty => absurd hempty (append_ne_empty (by decide))

lemma reviewBoundedTarget_ensures :
    (reviewBoundedTarget c target stages).Ensures state history
      (fun review _ _ => review.error = "" →
        boundedRefused target (stages.getLast?.bind CPScaleStageProgress.result) = false)
      (fun _ _ _ => True) := by
  unfold reviewBoundedTarget
  rw [ensures_bind]
  refine ensures_call (fun evidence _ => ?_) fun _ _ => trivial
  rw [ensures_pure]
  cases hrefused : boundedRefused target (stages.getLast?.bind CPScaleStageProgress.result) with
  | false => exact fun _ => rfl
  | true =>
    intro hempty
    exact absurd hempty (append_ne_empty (append_ne_empty (by decide)))

lemma getLast_of_boundedRefused
    (h : boundedRefused target (stages.getLast?.bind CPScaleStageProgress.result) = false) :
    ∃ value, (stages.map CPScaleStageProgress.result).getLast? = some (some value) ∧
      value.stage = target.terminalStage ∧ value.outcome = "verified" := by
  unfold boundedRefused at h
  rcases hlast : stages.getLast? with _ | stage
  · simp [hlast] at h
  rcases hresult : stage.result with _ | value
  · simp [hlast, hresult] at h
  refine ⟨value, by simp [List.getLast?_map, hlast, hresult], ?_⟩
  have hvalue := h
  simp only [hlast, Option.bind_some, hresult, Bool.or_eq_false_iff, decide_eq_false_iff_not,
    not_not] at hvalue
  exact hvalue.2

/-- A review that accepts its stages. -/
lemma reviewCompletion_accepts :
    (reviewCompletion c target stages).Ensures state history
      (fun review _ history' => .reviewed stages review ∈ history' ∧
        (review.error = "" → Accepted target (stages.map CPScaleStageProgress.result)))
      (fun _ _ _ => True) := by
  unfold reviewCompletion
  rw [ensures_bind]
  have hnote : ∀ review (state : RunState) (history : List RunEvent),
      (do
        note (.reviewed stages review)
        return review : Run CPScaleReview).Ensures state history
        (fun review' _ history' => review' = review ∧ .reviewed stages review' ∈ history')
        (fun _ _ _ => True) := fun review state history =>
    ⟨rfl, List.mem_append_right _ (List.mem_singleton.mpr rfl)⟩
  refine ensures_ite (fun hfull => ?_) fun hbounded => ?_
  · refine reviewFullQualification_ensures.imp fun review _ _ h => ?_
    refine (hnote review _ _).imp ?_
    rintro _ _ _ ⟨rfl, hmem⟩
    refine ⟨hmem, fun herror => ⟨fun _ result hresult => ?_, fun hnot => absurd hfull hnot⟩⟩
    obtain ⟨stage, hstage, rfl⟩ := List.mem_map.mp hresult
    exact outcome_of_stageVerified (h herror stage hstage)
  · refine reviewBoundedTarget_ensures.imp fun review _ _ h => ?_
    refine (hnote review _ _).imp ?_
    rintro _ _ _ ⟨rfl, hmem⟩
    refine ⟨hmem, fun herror => ⟨fun hfull => absurd hfull hbounded, fun _ => ?_⟩⟩
    exact getLast_of_boundedRefused (h herror)

lemma verified_of_reviewCleanup {cleanup : CPScaleCleanupResult}
    {realtime : CPScaleCleanupRealtime} {stage : CPScaleCanonicalStage}
    (h : (reviewCleanup cleanup realtime stage).error = "") :
    cleanup.verified = true ∧ realtime.verified = true := by
  unfold reviewCleanup at h
  by_cases hverified : (cleanup.verified && realtime.verified) = true
  · simpa using hverified
  · rw [if_neg hverified] at h
    have hlabel := (String.append_eq_empty_iff.mp (String.append_eq_empty_iff.mp h).1).2
    exact absurd hlabel (by decide)

end Reviews

/-! ## The ledger of a completion -/

/-- `persistence.archive` returned the receipt of a phase. -/
def RunEvent.isArchive (phase : String) : RunEvent → Bool
  | .archived phase' (.ok _) => phase' = phase
  | _ => false

/-- A publication with a closure other than the one before the cleanup. -/
def RunEvent.publishesCleaned (target : CPScaleCanonicalTargetContract) : RunEvent → Bool
  | .published terminal _ =>
    terminal.closure ≠ "" && terminal.closure ≠ target.precleanupClosure
  | _ => false

/-- What was executed, reviewed and kept of the stages of a run. -/
structure Reviewed (target : CPScaleCanonicalTargetContract) (steps : List Step)
    (state : RunState) (history : List RunEvent) : Prop where
  accounting : Accounting steps state history
  reviewed : ∃ stages review, .reviewed stages review ∈ history ∧ review.error = "" ∧
    stages.map CPScaleStageProgress.result = steps.map fun step => some step.2
  accepted : Accepted target (steps.map fun step => some step.2)

/-- A reviewed run that was archived before anything was removed. -/
structure Archived (target : CPScaleCanonicalTargetContract) (steps : List Step)
    (state : RunState) (history : List RunEvent) : Prop where
  reviewed : Reviewed target steps state history
  removals : Precedes (RunEvent.isArchive "precleanup") RunEvent.isRemoval history
  archived : history.any (RunEvent.isArchive "precleanup") = true

/-- The cleanup and its realtime read verified. -/
structure CleanupVerified (terminal : CPScaleTerminalState) : Prop where
  cleanup : ∃ cleanup, terminal.cleanup = some cleanup ∧ cleanup.verified = true
  realtime : ∃ realtime, terminal.realtime = some realtime ∧ realtime.verified = true

/-- A publication with a cleaned closure shows what was verified, and an attestation. -/
def Sound (target : CPScaleCanonicalTargetContract) (event : RunEvent) : Prop :=
  ∀ terminal answer, event = .published terminal answer → event.publishesCleaned target = true →
    CleanupVerified terminal ∧ terminal.attestation.isSome

/-- An archived run whose cleanup was attested before it published a cleaned closure. -/
structure Attested (target : CPScaleCanonicalTargetContract) (steps : List Step)
    (state : RunState) (history : List RunEvent) : Prop where
  archived : Archived target steps state history
  publications : Precedes (RunEvent.isArchive "cleanup") (RunEvent.publishesCleaned target) history
  attested : history.any (RunEvent.isArchive "cleanup") = true
  sound : ∀ event ∈ history, Sound target event

/-- What the terminal facts of a completion say. -/
structure Concluded (target : CPScaleCanonicalTargetContract) (terminal : CPScaleTerminalState) :
    Prop where
  verified : CleanupVerified terminal
  attestation : terminal.attestation.isSome
  disposition : terminal.disposition = some .cleanup
  closure : terminal.closure = target.cleanedClosure
  complete : terminal.terminalCleanupComplete = true

section Completion

variable {c : Collaborators} {target : CPScaleCanonicalTargetContract} {steps : List Step}
  {state : RunState} {history : List RunEvent}
  {state' : RunState} {added : List RunEvent} {event : RunEvent} {plan : CPScaleClosurePlan}

lemma Accounting.append (h : Accounting steps state history)
    (hstages : state'.progress.stages = state.progress.stages)
    (hidle : ∀ event ∈ added, event.execution = none) :
    Accounting steps state' (history ++ added) := by
  have hnone : added.filterMap RunEvent.execution = [] := List.filterMap_eq_nil_iff.mpr hidle
  refine ⟨?_, hstages ▸ h.stages⟩
  rw [executions, List.filterMap_append, hnone, List.append_nil]
  exact h.executed

lemma Reviewed.append (h : Reviewed target steps state history)
    (hstages : state'.progress.stages = state.progress.stages)
    (hidle : ∀ event ∈ added, event.execution = none) :
    Reviewed target steps state' (history ++ added) := by
  obtain ⟨stages, review, hmem, hreview⟩ := h.reviewed
  exact ⟨h.accounting.append hstages hidle,
    ⟨stages, review, List.mem_append_left _ hmem, hreview⟩, h.accepted⟩

lemma Archived.append (h : Archived target steps state history)
    (hstages : state'.progress.stages = state.progress.stages)
    (hidle : ∀ event ∈ added, event.execution = none) :
    Archived target steps state' (history ++ added) := by
  refine ⟨h.reviewed.append hstages hidle, h.removals.append h.archived, ?_⟩
  rw [List.any_append, h.archived, Bool.true_or]

lemma Attested.append (h : Attested target steps state history)
    (hstages : state'.progress.stages = state.progress.stages)
    (hidle : ∀ event ∈ added, event.execution = none ∧ Sound target event) :
    Attested target steps state' (history ++ added) := by
  refine ⟨h.archived.append hstages fun event hevent => (hidle event hevent).1,
    h.publications.append h.attested, ?_, fun event hevent => ?_⟩
  · rw [List.any_append, h.attested, Bool.true_or]
  · rcases List.mem_append.mp hevent with hevent | hevent
    · exact h.sound event hevent
    · exact (hidle event hevent).2

lemma Attested.of_stages (h : Attested target steps state history)
    (hstages : state'.progress.stages = state.progress.stages) :
    Attested target steps state' history := by
  rw [← List.append_nil history]
  exact h.append hstages fun event hevent => absurd hevent List.not_mem_nil

lemma Sound.of_unpublished (h : event.publishesCleaned target = false) :
    Sound target event :=
  fun _ _ _ htrue => absurd htrue (by simp [h])

lemma Concluded.sound {terminal : CPScaleTerminalState} (h : Concluded target terminal)
    (hevent : ∀ terminal' answer, event = .published terminal' answer → terminal' = terminal) :
    Sound target event :=
  fun terminal' answer heq _ => hevent terminal' answer heq ▸ ⟨h.verified, h.attestation⟩

/-- The events of a review. -/
def Reviewing : RunEvent → Prop
  | .called _ _ => True
  | .reviewed _ _ => True
  | _ => False

/-- A procedure of the review: it changes nothing. -/
abbrev Reviews {α : Type} (x : Run α) : Prop :=
  Keeps (Grows (fun state : RunState => state) fun _ => Reviewing) x

lemma reviews_ask {α : Type} (port : Port) (answer : Answer α) : Reviews (ask port answer) :=
  Grows.call fun _ _ => trivial

lemma reviews_reviewCompletion (stages : List CPScaleStageProgress) :
    Reviews (reviewCompletion c target stages) := by
  have hbounded : Reviews (reviewBoundedTarget c target stages) :=
    Grows.frame.bind (reviews_ask _ _) fun _ => Grows.frame.pure _
  have herror : Reviews (fullQualificationError c target stages) := by
    refine Grows.frame.bind (reviews_ask _ _) fun admission => ?_
    refine (Grows.frame.pure _).ite ((Grows.frame.pure _).ite ?_)
    cases stages.find? fun stage => !stageVerified stage with
    | none => exact reviews_ask _ _
    | some stage => exact Grows.frame.pure _
  have hfull : Reviews (reviewFullQualification c target stages) :=
    Grows.frame.bind herror fun _ => Grows.frame.pure _
  refine Grows.frame.bind (hfull.ite hbounded) fun review => ?_
  refine Grows.frame.bind (keeps_note fun _ _ => Grows.of_event ?_) fun _ => Grows.frame.pure review
  trivial

/-- An event that neither executes, removes nor publishes a cleaned closure. -/
structure Silent (target : CPScaleCanonicalTargetContract) (event : RunEvent) : Prop where
  removes : event.isRemoval = false
  publishes : event.publishesCleaned target = false

lemma SessionEvent.silent (h : SessionEvent event) : Silent target event := by
  cases event with
  | published terminal answer =>
    have hclosure : terminal.closure = "" := h
    exact ⟨rfl, by simp [RunEvent.publishesCleaned, hclosure]⟩
  | removed _ _ => exact h.elim
  | _ => exact ⟨rfl, rfl⟩

lemma Reviewing.silent (h : Reviewing event) : event.execution = none ∧ Silent target event := by
  cases event with
  | called _ _ | reviewed _ _ => exact ⟨rfl, rfl, rfl⟩
  | _ => exact h.elim

lemma Mutating.unpublished (h : Mutating event) :
    event.execution = none ∧ event.publishesCleaned target = false := by
  cases event with
  | called _ _ | removed _ _ => exact ⟨rfl, rfl⟩
  | _ => exact h.elim

/-- A reviewed run is archived before anything is removed. -/
lemma archivePrecleanup_ensures (hplan : plan.precleanupClosure = target.precleanupClosure)
    (hreviewed : Reviewed target steps state history)
    (hsilent : ∀ event ∈ history, Silent target event) :
    (archivePrecleanup c plan).Ensures state history
      (fun _ state' history' => Archived target steps state' history' ∧
        history'.any (RunEvent.publishesCleaned target) = false ∧
        state'.terminal.disposition = some plan.disposition)
      (fun _ _ _ => True) := by
  have hremoved : history.any RunEvent.isRemoval = false :=
    List.any_eq_false.mpr fun event hevent => by simp [(hsilent event hevent).removes]
  have hpublished : history.any (RunEvent.publishesCleaned target) = false :=
    List.any_eq_false.mpr fun event hevent => by simp [(hsilent event hevent).publishes]
  unfold archivePrecleanup
  rw [ensures_bind]
  refine ensures_call (fun _ _ => ?_) fun _ _ => trivial
  simp only [updateTerminal, ensures_bind, ensures_modify, writeProgress, ensures_get, archive]
  refine ensures_call (fun _ _ => ?_) fun _ _ => trivial
  refine ensures_call (fun receipt _ => ?_) fun _ _ => trivial
  simp only [ensures_pure]
  refine ⟨⟨?_, Precedes.of_none ?_, ?_⟩, ?_, trivial⟩
  · simp only [List.append_assoc]
    exact hreviewed.append rfl (by simp [RunEvent.execution])
  · simp [hremoved, RunEvent.isRemoval]
  · simp [RunEvent.isArchive]
  · simp [hpublished, RunEvent.publishesCleaned, hplan]

/-- The cleanup of an archived run publishes nothing, and verifies unless it raises. -/
lemma cleanWorkspace_verifies (stage : CPScaleCanonicalStage)
    (harchived : Archived target steps state history)
    (hpublished : history.any (RunEvent.publishesCleaned target) = false) :
    (cleanWorkspace c stage).Ensures state history
      (fun _ state' history' => Archived target steps state' history' ∧
        history'.any (RunEvent.publishesCleaned target) = false ∧
        CleanupVerified state'.terminal ∧
        state'.terminal.disposition = state.terminal.disposition)
      (fun _ _ _ => True) := by
  unfold cleanWorkspace
  simp only [updateTerminal, ensures_bind, ensures_modify]
  refine (restoration_restoreRun.ensures _ history).mono ?_ fun _ _ _ _ => trivial
  rintro cleanup _ _ ⟨rfl, added, rfl, hremoved⟩
  simp only [readCleanupRealtime, ensures_bind, ensures_get]
  refine ensures_ite (fun _ => ?_) fun _ => trivial
  refine ensures_call (fun realtime _ => ?_) fun _ _ => trivial
  refine ensures_ite (fun herror => ?_) fun _ => trivial
  obtain ⟨hcleanup, hrealtime⟩ := verified_of_reviewCleanup herror
  have hunpublished : ∀ event ∈ added, event.execution = none ∧
      event.publishesCleaned target = false :=
    fun event hevent => (hremoved.events event hevent).unpublished
  refine ⟨?_, ?_, ⟨⟨cleanup, rfl, hcleanup⟩, ⟨realtime, rfl, hrealtime⟩⟩, rfl⟩
  · rw [List.append_assoc]
    refine harchived.append rfl fun event hevent => ?_
    simp only [List.cons_append, List.mem_cons, List.mem_append, List.not_mem_nil, or_false]
      at hevent
    rcases hevent with rfl | hevent | rfl
    · rfl
    · exact (hunpublished event hevent).1
    · rfl
  · have hadded : added.any (RunEvent.publishesCleaned target) = false :=
      List.any_eq_false.mpr fun event hevent => by
        simp [(hunpublished event hevent).2]
    simp [hpublished, hadded, RunEvent.publishesCleaned]

/-- A verified cleanup is attested, and only then is the cleaned closure published. -/
lemma attestClosure_attests (hplan : plan.cleanedClosure = target.cleanedClosure)
    (harchived : Archived target steps state history)
    (hpublished : history.any (RunEvent.publishesCleaned target) = false)
    (hverified : CleanupVerified state.terminal)
    (hdisposition : state.terminal.disposition = some .cleanup) :
    (attestClosure c plan).Ensures state history
      (fun _ state' history' => Attested target steps state' history' ∧
        Concluded target state'.terminal)
      (fun _ _ _ => True) := by
  unfold attestClosure
  rw [ensures_bind]
  refine ensures_call (fun _ _ => ?_) fun _ _ => trivial
  simp only [archive, ensures_bind]
  refine ensures_call (fun receipt _ => ?_) fun _ _ => trivial
  simp only [updateTerminal, ensures_bind, ensures_modify, ensures_pure, writeProgress, ensures_get]
  refine ensures_call (fun _ _ => ?_) fun _ _ => trivial
  refine ensures_call (fun _ _ => ?_) fun _ _ => trivial
  have hunpublished : (history ++ [RunEvent.called .completionClock none] ++
      [RunEvent.archived "cleanup" (.ok receipt)]).any (RunEvent.publishesCleaned target) =
        false := by
    simp [hpublished, RunEvent.publishesCleaned]
  have hattested : Attested target steps state (history ++ [RunEvent.called .completionClock none]
      ++ [RunEvent.archived "cleanup" (.ok receipt)]) := by
    refine ⟨?_, Precedes.of_none hunpublished, ?_, fun event hevent => .of_unpublished ?_⟩
    · rw [List.append_assoc]
      exact harchived.append rfl (by simp [RunEvent.execution])
    · simp [RunEvent.isArchive]
    · simpa using List.any_eq_false.mp hunpublished event hevent
  refine ⟨?_, ⟨⟨hverified.cleanup, hverified.realtime⟩, rfl, hdisposition, hplan, rfl⟩⟩
  rw [List.append_assoc]
  refine hattested.append rfl fun event hevent => ?_
  simp only [List.cons_append, List.nil_append, List.mem_cons, List.not_mem_nil, or_false]
    at hevent
  rcases hevent with rfl | rfl
  · refine ⟨rfl, fun terminal answer heq _ => ?_⟩
    cases heq
    exact ⟨⟨hverified.cleanup, hverified.realtime⟩, rfl⟩
  · exact ⟨rfl, .of_unpublished rfl⟩

lemma plan_closures {command : CPScaleCheckpointDecision} {retainAuthorized : Bool}
    (h : target.plan command retainAuthorized = .ok plan) :
    plan.precleanupClosure = target.precleanupClosure ∧
      plan.cleanedClosure = target.cleanedClosure := by
  obtain ⟨disposition, -, hrest⟩ := Fallible.bind_eq_ok.mp h
  obtain ⟨event, -, hpure⟩ := Fallible.bind_eq_ok.mp hrest
  cases hpure
  exact ⟨rfl, rfl⟩

/-- A completion that returns accepted, archived, cleaned and attested the steps of the run. -/
lemma complete_concludes (hcleanup : target.requireCleanup = true)
    (command : CPScaleCheckpointDecision) (retainAuthorized : Bool)
    (haccounts : Accounting steps state history)
    (hsilent : ∀ event ∈ history, Silent target event) :
    (complete c target command retainAuthorized).Ensures state history
      (fun _ state' history' => Attested target steps state' history' ∧
        Concluded target state'.terminal)
      (fun _ _ _ => True) := by
  unfold complete
  rw [ensures_bind, ensures_get, ensures_bind]
  have hreviews : Reviews (reviewCompletion c target state.progress.stages) :=
    reviews_reviewCompletion state.progress.stages
  have hreview := hreviews.ensures state history
  refine (reviewCompletion_accepts.and hreview).mono ?_ fun _ _ _ _ => trivial
  rintro review state₁ history₁ ⟨⟨hmem, haccepts⟩, hfixed, added, hadded, hreviewing⟩
  simp only at hfixed hadded
  subst hfixed hadded
  rw [ensures_bind, updateTerminal, ensures_modify, ensures_bind]
  refine ensures_ite (fun herror => ?_) fun _ => trivial
  rw [ensures_pure, ensures_bind]
  refine ensures_ofExcept (fun plan hplan => ?_) fun _ _ => trivial
  have hdisposition := plan_disposition hcleanup hplan
  obtain ⟨hprecleanup, hcleaned⟩ := plan_closures hplan
  have hreviewed : Reviewed target steps
      { state₁ with terminal := { state₁.terminal with replay := review.replay } }
      (history ++ added) := by
    refine ⟨?_, ⟨_, review, hmem, herror, haccounts.stages⟩, ?_⟩
    · exact haccounts.append rfl fun event hevent =>
        have hsilent : event.execution = none ∧ Silent target event :=
          (hreviewing event hevent).silent
        hsilent.1
    · rw [← haccounts.stages]
      exact haccepts herror
  have hsilent' : ∀ event ∈ history ++ added, Silent target event := by
    intro event hevent
    rcases List.mem_append.mp hevent with hevent | hevent
    · exact hsilent event hevent
    · exact (Reviewing.silent (hreviewing event hevent)).2
  rw [ensures_bind]
  refine (archivePrecleanup_ensures hprecleanup hreviewed hsilent').mono ?_ fun _ _ _ _ => trivial
  rintro _ state₂ history₂ ⟨harchived₂, hpublished₂, hdisposition₂⟩
  rw [if_neg (by simp [hdisposition]), ensures_bind]
  refine (cleanWorkspace_verifies _ harchived₂ hpublished₂).mono ?_ fun _ _ _ _ => trivial
  rintro _ state₃ history₃ ⟨harchived₃, hpublished₃, hverified₃, hdisposition₃⟩
  refine attestClosure_attests hcleaned harchived₃ hpublished₃ hverified₃ ?_
  rw [hdisposition₃, hdisposition₂, hdisposition]

end Completion

/-! ## Completed sessions -/

/-- What a session that returned COMPLETED did. -/
structure Completed (target : CPScaleCanonicalTargetContract) (steps : List Step)
    (state : RunState) (history : List RunEvent) : Prop where
  order : steps.map Prod.fst = target.executionStages
  outcomes : ∀ step ∈ steps, step.2.outcome ≠ "failed"
  attested : Attested target steps state history
  concluded : Concluded target state.terminal

section Session

variable {c : Collaborators} {target : CPScaleCanonicalTargetContract} {steps : List Step}
  {state : RunState} {history : List RunEvent}

lemma runStages_ensures (haccounts : Accounting [] state history) :
    (runStages c target).Ensures state history
      (fun _ state' history' => ∃ steps, steps.map Prod.fst = target.executionStages ∧
        (∀ step ∈ steps, step.2.outcome ≠ "failed") ∧ Accounting steps state' history')
      (fun _ _ _ => True) := by
  unfold runStages
  rw [ensures_bind]
  refine (executeStageSequence_ensures target target.executionStages {} [] haccounts ?_).mono ?_
    fun _ _ _ _ => trivial
  · intro step hstep
    simp at hstep
  · rintro ⟨failure, secondaries⟩ state₁ history₁ hsequence
    rw [ensures_bind, updateTerminal, ensures_modify]
    cases failure with
    | some failure => exact trivial
    | none =>
      obtain ⟨steps, horder, haccounts', houtcomes⟩ := hsequence rfl
      exact ⟨steps, horder, houtcomes, haccounts'.executed, haccounts'.stages⟩

lemma staged_acquireBaseline : Staged (acquireBaseline c) :=
  Grows.frame.bind plainly_observeWorkspace.staged fun _ => Grows.modify fun _ => rfl

lemma staged_prepareSession : Staged (prepareSession c) := by
  refine Grows.frame.bind (plainly_ask ..).staged fun _ => ?_
  refine Grows.frame.bind (Grows.modify fun _ => rfl) fun _ => ?_
  refine Grows.frame.bind staged_qualifyBackend fun _ => ?_
  refine Grows.frame.bind (plainly_ask ..).staged fun _ => ?_
  refine Grows.frame.bind (plainly_ask ..).staged fun _ => ?_
  refine Grows.frame.bind (plainly_ask ..).staged fun _ => ?_
  refine Grows.frame.bind (plainly_ask ..).staged fun _ => ?_
  exact (plainly_ask ..).staged

/-- The stages of a prepared session, and its completion. -/
lemma completeSession_ensures (retainAuthorized : Bool) (hI : SessionInvariant c state history)
    (hready : Ready c state) (haccounts : Accounting [] state history) :
    (do
      runStages c target
      demand (if target.requireCleanup then ""
        else "Target " ++ quoted target.target.value ++ " has no governed cleanup closure.")
      complete c target .continue_ retainAuthorized
      return .completed : Run CPScaleRunOutcome).Ensures state history
      (fun _ state' history' => ∃ steps, Completed target steps state' history')
      (fun _ _ _ => True) := by
  rw [ensures_bind]
  have hsession := (inSession_runStages (c := c) target).preserves.ensures ⟨hI, hready⟩
  refine (hsession.and (runStages_ensures haccounts)).mono ?_ fun _ _ _ _ => trivial
  rintro _ state₁ history₁ ⟨⟨hI₁, -⟩, steps, horder, houtcomes, haccounts₁⟩
  rw [ensures_bind]
  refine ensures_ite (fun hdemand => ?_) fun _ => trivial
  have hcleanup : target.requireCleanup = true := by
    by_contra hcleanup
    rw [if_neg hcleanup] at hdemand
    exact append_ne_empty (append_ne_empty (by decide)) hdemand
  rw [ensures_pure, ensures_bind]
  refine (complete_concludes hcleanup .continue_ retainAuthorized haccounts₁
    fun event hevent => (hI₁.events event hevent).silent).mono ?_ fun _ _ _ _ => trivial
  exact fun _ _ _ h => ⟨steps, horder, houtcomes, h.1, h.2⟩

/-- A session that returns COMPLETED did what it says. -/
lemma executeSession_completes (retainAuthorized : Bool) (hI : SessionInvariant c state history)
    (hcomposition : state.qualification.composition = none)
    (haccounts : Accounting [] state history) :
    (executeSession c target retainAuthorized).Ensures state history
      (fun outcome state' history' => outcome = .completed →
        ∃ steps, Completed target steps state' history')
      (fun _ _ _ => True) := by
  unfold executeSession
  rw [ensures_bind]
  refine (plainly_startSession.keeps.ensures state history).mono ?_ fun _ _ _ _ => trivial
  intro _ state₁ history₁ hgrows
  have hI₁ := SessionInvariant.of_plain hgrows hI
  have haccounts₁ := Accounting.of_staged (staged_of_plain hgrows) haccounts
  have hcomposition₁ := congrArg CPScaleQualificationState.composition
    (facts_eq_iff.mp hgrows.fixed).1
  rw [ensures_bind]
  have hbaseline := acquireBaseline_ensures hI₁ (hcomposition₁.trans hcomposition)
  refine (hbaseline.and (staged_acquireBaseline.ensures state₁ history₁)).mono ?_
    fun _ _ _ _ => trivial
  rintro _ state₂ history₂ ⟨⟨hI₂, hbaseline₂, hphysical⟩, hgrows₂⟩
  have haccounts₂ := Accounting.of_staged hgrows₂ haccounts₁
  rw [ensures_bind]
  refine ensures_call (fun error _ => ?_) fun _ _ => trivial
  have hI₃ : SessionInvariant c state₂ (history₂ ++ [.judged (.ok error)]) :=
    hI₂.snoc trivial (by simp) (by simp)
  have haccounts₃ : Accounting [] state₂ (history₂ ++ [.judged (.ok error)]) :=
    haccounts₂.append rfl (by simp [RunEvent.execution])
  refine ensures_ite (fun _ => ?_) fun _ => ?_
  · rw [ensures_bind, updateTerminal, ensures_modify, ensures_bind]
    refine ensures_run.mono (fun _ _ _ _ hcompleted => ?_) fun _ _ _ _ => trivial
    cases hcompleted
  · rw [ensures_bind]
    have hprepare := prepareSession_ensures hI₃ hbaseline₂ hphysical
    refine (hprepare.and (staged_prepareSession.ensures _ _)).mono ?_ fun _ _ _ _ => trivial
    rintro _ state₄ history₄ ⟨⟨hI₄, hready₄⟩, hgrows₄⟩
    have haccounts₄ := Accounting.of_staged hgrows₄ haccounts₃
    refine (completeSession_ensures retainAuthorized hI₄ hready₄ haccounts₄).imp ?_
    exact fun _ _ _ h _ => h

end Session

/-! ## Finalizations -/

/-- A procedure that decides no outcome. -/
abbrev Undecided {α : Type} (x : Run α) : Prop :=
  Keeps (fun a b => b.1.terminal.outcome = a.1.terminal.outcome) x

lemma undecided_frame : Frame fun a b : RunState × List RunEvent =>
    b.1.terminal.outcome = a.1.terminal.outcome where
  refl _ := rfl
  trans h h' := h'.trans h

section Finalization

variable {c : Collaborators} {target : CPScaleCanonicalTargetContract} {steps : List Step}
  {state : RunState} {history : List RunEvent} {α : Type} {x : Run α}

lemma Books.undecided (h : Books x) : Undecided x :=
  h.mono fun _ _ hgrows => congrArg Prod.snd hgrows.fixed

lemma undecided_cleanFailure : Undecided (cleanFailure c) := by
  have hrestore : Undecided (restoreRun c) :=
    restoration_restoreRun.mono fun a b h => by rw [h.1]
  refine undecided_frame.bind (keeps_modify fun _ _ => rfl) fun _ => ?_
  refine undecided_frame.bind (keeps_caught undecided_frame hrestore) fun cleanup => ?_
  exact (booked_recordCleanup cleanup).books.undecided

lemma undecided_prepareFinalization : Undecided (prepareFinalization c) := by
  refine undecided_frame.bind undecided_frame.get fun state => ?_
  refine (undecided_frame.pure ()).ite (undecided_frame.bind undecided_frame.get fun state => ?_)
  refine undecided_frame.bind (booked_archiveFailure.books.undecided.ite (undecided_frame.pure ()))
    fun _ => ?_
  refine undecided_frame.bind ((undecided_frame.pure ()).ite undecided_cleanFailure) fun _ => ?_
  refine undecided_frame.bind booked_readCleanupRealtime.books.undecided fun realtime => ?_
  refine undecided_frame.bind (keeps_modify fun _ _ => rfl) fun _ => ?_
  exact (booked_attestFailure realtime).books.undecided.ite (undecided_frame.pure ())

lemma keeps_obligation {R : RunState × List RunEvent → RunState × List RunEvent → Prop}
    (hR : Frame R) (final : FinalizationState) (label : String) {x : Run Unit} (h : Keeps R x) :
    Keeps R (obligation final label x) := by
  refine hR.bind h.attempt fun outcome => ?_
  cases outcome with
  | ok _ | error raised => exact hR.pure _

lemma undecided_finalizeSession (initial : Option Raised) :
    Undecided (finalizeSession c initial) := by
  have hprepare : Undecided (prepareAndCaptureSecondaries c) :=
    undecided_frame.bind undecided_prepareFinalization fun _ => keeps_modify fun _ _ => rfl
  refine undecided_frame.bind (undecided_frame.bind hprepare.attempt fun outcome => ?_) fun _ => ?_
  · cases outcome with
    | ok _ =>
      exact keeps_obligation undecided_frame _ _ plainly_writeProgress.booked.books.undecided
    | error raised => exact undecided_frame.pure _
  have hclose : ∀ final, Undecided (closeSession c final) := fun _ =>
    keeps_obligation undecided_frame _ _ (keeps_call fun _ _ _ => rfl)
  refine undecided_frame.bind (hclose _) fun _ => ?_
  refine undecided_frame.bind undecided_frame.get fun _ => ?_
  exact (books_raiseInterruption _ _).undecided

/-- The end of a run: its finalization and its presentation. -/
def finishRun (c : Collaborators) (interruption : Option Raised) : Run CPScaleLiveFinalResult := do
  let errors ← finalizeSession c interruption
  settleFinalization c errors
  presentTerminal c
  let state ← get
  return fromReport state.terminal.outcome state

/-- A run that was not completed, or that has errors, is not completed. -/
lemma settleFinalization_incomplete {errors : List String}
    (hincomplete : errors ≠ [] ∨ state.terminal.outcome ≠ some .completed) :
    (settleFinalization c errors).Ensures state history
      (fun _ state' _ => state'.terminal.outcome ≠ some .completed) (fun _ _ _ => True) := by
  have hrest : Undecided (do
      let state ← get
      if errors = [] then pure ()
      else do
        let _ ← settleTerminalErrors c errors (errors ≠ state.preparedSecondaries) false
        pure ()) := by
    refine undecided_frame.bind undecided_frame.get fun _ => (undecided_frame.pure ()).ite ?_
    refine undecided_frame.bind (books_settleTerminalErrors _ _ _).undecided fun _ => ?_
    exact undecided_frame.pure ()
  unfold settleFinalization
  rw [ensures_bind, updateTerminal, ensures_modify]
  refine (hrest.ensures _ history).mono (fun _ _ _ heq => ?_) fun _ _ _ _ => trivial
  rw [heq]
  by_cases houtcome : state.terminal.outcome = some .completed
  · have herrors := hincomplete.resolve_right (not_not.mpr houtcome)
    simp [herrors, houtcome]
  · simp [houtcome]

lemma presentRun_incomplete (houtcome : state.terminal.outcome ≠ some .completed) :
    (do
      presentTerminal c
      let state ← get
      return fromReport state.terminal.outcome state : Run CPScaleLiveFinalResult).Ensures
      state history (fun result _ _ => result.outcome ≠ some .completed) (fun _ _ _ => True) := by
  rw [ensures_bind, presentTerminal, ensures_bind, ensures_get, if_neg houtcome, ensures_pure,
    ensures_bind, ensures_get]
  exact houtcome

lemma finishRun_incomplete (interruption : Option Raised)
    (houtcome : state.terminal.outcome ≠ some .completed) :
    (finishRun c interruption).Ensures state history
      (fun result _ _ => result.outcome ≠ some .completed) (fun _ _ _ => True) := by
  unfold finishRun
  rw [ensures_bind]
  refine ((undecided_finalizeSession interruption).ensures state history).mono ?_
    fun _ _ _ _ => trivial
  intro errors state₁ history₁ heq
  rw [ensures_bind]
  refine (settleFinalization_incomplete (.inr (heq ▸ houtcome))).imp ?_
  exact fun _ _ _ houtcome' => presentRun_incomplete houtcome'

/-! ## The finalization of a completed session -/

/-- The stages and the terminal facts of a state. -/
def RunState.conclusion (state : RunState) : List CPScaleStageProgress × CPScaleTerminalState :=
  (state.progress.stages, state.terminal)

/-- The events of a run that is concluded: nothing is executed, and what is published is what was
concluded. -/
def Concluding (conclusion : List CPScaleStageProgress × CPScaleTerminalState)
    (event : RunEvent) : Prop :=
  event.execution = none ∧
    ∀ terminal answer, event = .published terminal answer → terminal = conclusion.2

/-- Between two points the conclusion of a run is fixed. -/
abbrev Settles (a b : RunState × List RunEvent) : Prop :=
  Grows RunState.conclusion Concluding a b

lemma Plainly.settles (h : Plainly x) : Keeps Settles x := by
  refine h.keeps.mono fun a b hgrows => hgrows.mono ?_ ?_
  · intro state state' hfacts
    obtain ⟨-, hterminal, hstages, -⟩ := facts_eq_iff.mp hfacts
    exact Prod.ext hstages hterminal
  · intro state event hplain
    cases event with
    | published terminal answer =>
      refine ⟨rfl, fun terminal' answer' heq => ?_⟩
      cases heq
      exact hplain
    | called _ _ | judged _ => exact ⟨rfl, by simp⟩
    | _ => exact hplain.elim

lemma Completed.settles {a b : RunState × List RunEvent} (h : Settles a b)
    (hcompleted : Completed target steps a.1 a.2) : Completed target steps b.1 b.2 := by
  obtain ⟨added, hadded, hconcluding⟩ := h.grown
  have hstages : b.1.progress.stages = a.1.progress.stages := congrArg Prod.fst h.fixed
  have hterminal : b.1.terminal = a.1.terminal := congrArg Prod.snd h.fixed
  refine ⟨hcompleted.order, hcompleted.outcomes, ?_, hterminal ▸ hcompleted.concluded⟩
  rw [hadded]
  refine hcompleted.attested.append hstages fun event hevent => ?_
  exact ⟨(hconcluding event hevent).1, hcompleted.concluded.sound (hconcluding event hevent).2⟩

/-- The finalization of a completed session prepares nothing, and returns every failure. -/
lemma finalizeSession_completed (hcomplete : state.terminal.terminalCleanupComplete = true) :
    (finalizeSession c none).Ensures state history
      (fun errors state' history' => Settles (state, history) (state', history') ∧
        ∃ rest, errors = state.terminal.secondaryFailures ++ rest)
      (fun _ _ _ => True) := by
  have hskipped : finalizationSkipped c.physical state = true := by
    simp [finalizationSkipped, hcomplete]
  have hcaptured : Settles (state, history)
      ({ state with preparedSecondaries := state.terminal.secondaryFailures }, history) :=
    ⟨rfl, [], by simp⟩
  have hprepare : (prepareAndWrite c { interruption := none }).Ensures state history
      (fun _ state' history' => Settles (state, history) (state', history'))
      (fun _ _ _ => True) := by
    rw [prepareAndWrite, ensures_bind, ensures_attempt, prepareAndCaptureSecondaries, ensures_bind,
      prepareFinalization, ensures_bind, ensures_get, if_pos hskipped, ensures_pure, ensures_modify]
    have hwrite : Keeps Settles (obligation { interruption := none } "final_evidence_write: "
        (writeProgress c)) := keeps_obligation Grows.frame _ _ plainly_writeProgress.settles
    refine (hwrite.ensures _ history).mono ?_ fun _ _ _ _ => trivial
    exact fun _ _ _ h => Grows.frame.trans hcaptured h
  unfold finalizeSession
  refine hprepare.bind fun prepared state₁ history₁ hprepared => ?_
  have hclose : Keeps Settles (closeSession c prepared) := by
    refine keeps_obligation Grows.frame _ _ (Grows.call fun _ outcome => ?_)
    exact ⟨rfl, by simp⟩
  rw [ensures_bind]
  refine (hclose.ensures state₁ history₁).mono ?_ fun _ _ _ _ => trivial
  intro closed state₂ history₂ hclosed
  have hsettles := Grows.frame.trans hprepared hclosed
  rw [ensures_bind, ensures_get]
  unfold raiseInterruption
  cases closed.interruption with
  | none =>
    refine ⟨hsettles, closed.errors, ?_⟩
    rw [show state₂.terminal = state.terminal from congrArg Prod.snd hsettles.fixed]
  | some raised =>
    rw [ensures_bind]
    exact ensures_run.mono (fun _ _ _ _ => trivial) fun _ _ _ _ => trivial

/-- What the result of a completed run says. -/
structure Reported (target : CPScaleCanonicalTargetContract) (steps : List Step)
    (result : CPScaleLiveFinalResult) : Prop where
  stages : result.completedStages = steps.map Prod.snd
  disposition : result.finalDisposition = some .cleanup
  closure : result.closure = orNone target.cleanedClosure
  cleanup : ∃ cleanup, result.cleanup = some cleanup ∧ cleanup.verified = true
  realtime : ∃ realtime, result.cleanupRealtime = some realtime ∧ realtime.verified = true
  failures : result.secondaryFailures = []

lemma Completed.reported (hcompleted : Completed target steps state history)
    (hsecondary : state.terminal.secondaryFailures = [])
    (hfinal : state.terminal.finalizationErrors = []) (outcome : Option CPScaleRunOutcome) :
    Reported target steps (fromReport outcome state) := by
  have hconcluded := hcompleted.concluded
  have hstages := hcompleted.attested.archived.reviewed.accounting.stages
  refine ⟨?_, hconcluded.disposition, congrArg orNone hconcluded.closure,
    hconcluded.verified.cleanup, hconcluded.verified.realtime, ?_⟩
  · have hmap := congrArg (List.filterMap id) hstages
    simpa [fromReport, List.filterMap_map, Function.comp_def] using hmap
  · simp [fromReport, hsecondary, hfinal]

section Completed

variable (hcompleted : Completed target steps state history)
  (houtcome : state.terminal.outcome = some .completed)
include hcompleted houtcome

/-- A finalization without errors changes nothing that was concluded. -/
lemma settleFinalization_nil (hsecondary : state.terminal.secondaryFailures = []) :
    (settleFinalization c []).Ensures state history
      (fun _ state' history' => Completed target steps state' history' ∧
        state'.terminal.outcome = some .completed ∧ state'.terminal.secondaryFailures = [] ∧
        state'.terminal.finalizationErrors = [])
      (fun _ _ _ => True) := by
  simp only [settleFinalization, updateTerminal, ensures_bind, ensures_modify, ensures_get,
    if_true, ensures_pure, ne_eq, not_true_eq_false, false_and, if_false]
  obtain ⟨hverified, hattestation, hdisposition, hclosure, hcomplete⟩ := hcompleted.concluded
  refine ⟨⟨hcompleted.order, hcompleted.outcomes, hcompleted.attested.of_stages rfl, ?_⟩,
    houtcome, hsecondary, trivial⟩
  exact ⟨⟨hverified.cleanup, hverified.realtime⟩, hattestation, hdisposition, hclosure, hcomplete⟩

/-- A completed run that is still completed once it was presented. -/
lemma presentRun_completed (hsecondary : state.terminal.secondaryFailures = [])
    (hfinal : state.terminal.finalizationErrors = []) :
    (do
      presentTerminal c
      let state ← get
      return fromReport state.terminal.outcome state : Run CPScaleLiveFinalResult).Ensures
      state history
      (fun result state' history' => result.outcome = some .completed →
        Completed target steps state' history' ∧ Reported target steps result)
      (fun _ _ _ => True) := by
  rw [ensures_bind, presentTerminal, ensures_bind, ensures_get, if_pos houtcome, ensures_bind,
    ensures_caught]
  refine ensures_call (fun _ _ => ?_) fun raised _ => ?_
  · have hsettles : Settles (state, history)
        (state, history ++ [.called .terminalPresentation none]) :=
      Grows.of_event ⟨rfl, by simp⟩
    exact fun _ => ⟨Completed.settles hsettles hcompleted, hcompleted.reported hsecondary hfinal _⟩
  · cases raised.interrupts with
    | true => exact trivial
    | false =>
      -- a presentation that fails ends the run as failed
      rw [if_neg Bool.false_ne_true, ensures_bind, updateTerminal, ensures_modify, ensures_bind]
      refine ensures_run.mono (fun errors state₁ history₁ _ => ?_) fun _ _ _ _ => trivial
      rw [updateTerminal, ensures_modify, ensures_bind, ensures_get]
      intro hfailed
      cases hfailed

/-- A completed session that ends as a completed run had no failure at all. -/
lemma finishRun_completed :
    (finishRun c none).Ensures state history
      (fun result state' history' => result.outcome = some .completed →
        Completed target steps state' history' ∧ Reported target steps result)
      (fun _ _ _ => True) := by
  unfold finishRun
  rw [ensures_bind]
  refine (finalizeSession_completed hcompleted.concluded.complete).imp ?_
  rintro errors state₁ history₁ ⟨hsettles, rest, herrors⟩
  have hterminal : state₁.terminal = state.terminal := congrArg Prod.snd hsettles.fixed
  have hcompleted₁ := Completed.settles hsettles hcompleted
  rw [ensures_bind]
  by_cases hempty : errors = []
  · subst hempty
    have hsecondary : state₁.terminal.secondaryFailures = [] := by
      rw [hterminal]
      exact (List.append_eq_nil_iff.mp herrors.symm).1
    have houtcome₁ : state₁.terminal.outcome = some .completed := by rw [hterminal, houtcome]
    refine (settleFinalization_nil hcompleted₁ houtcome₁ hsecondary).imp ?_
    rintro _ state₂ history₂ ⟨hcompleted₂, houtcome₂, hsecondary₂, hfinal₂⟩
    exact presentRun_completed hcompleted₂ houtcome₂ hsecondary₂ hfinal₂
  · refine (settleFinalization_incomplete (.inl hempty)).imp ?_
    intro _ state₂ history₂ houtcome₂
    refine (presentRun_incomplete houtcome₂).imp ?_
    exact fun _ _ _ hne hcompleted' => absurd hcompleted' hne

end Completed

end Finalization

/-! ## Completed runs -/

/-- What a completed run of a target did, and what its result says. -/
structure Certified (target : CPScaleCanonicalTargetContract) (steps : List Step)
    (history : List RunEvent) (result : CPScaleLiveFinalResult) : Prop where
  /-- The stages of the target were executed once and in order, and nothing else was. -/
  order : steps.map Prod.fst = target.executionStages
  executed : executions history = steps.map fun step => (step.1, .ok step.2)
  outcomes : ∀ step ∈ steps, step.2.outcome ≠ "failed"
  /-- The review accepted the results of exactly these stages. -/
  reviewed : ∃ stages review, .reviewed stages review ∈ history ∧ review.error = "" ∧
    stages.map CPScaleStageProgress.result = steps.map fun step => some step.2
  accepted : Accepted target (steps.map fun step => some step.2)
  /-- The archive before the cleanup was written before any device was removed. -/
  archived : history.any (RunEvent.isArchive "precleanup") = true
  removals : Precedes (RunEvent.isArchive "precleanup") RunEvent.isRemoval history
  /-- A cleaned closure was published only with a verified cleanup and an archived attestation. -/
  attested : history.any (RunEvent.isArchive "cleanup") = true
  publications : Precedes (RunEvent.isArchive "cleanup") (RunEvent.publishesCleaned target) history
  sound : ∀ event ∈ history, Sound target event
  reported : Reported target steps result
  closed : history.countP RunEvent.isClosed = 1

section Runs

variable {c : Collaborators} {state : RunState} {history : List RunEvent}

lemma Finalized.closed_once {raised : Option Raised} {history' : List RunEvent}
    (h : Finalized c history raised state history') : history'.countP RunEvent.isClosed = 1 := by
  obtain ⟨executed, result, -, -, before, answer, after, rfl, hprepared, hclerical⟩ := h
  have hbefore : before.countP RunEvent.isClosed = 0 := by
    rw [List.countP_eq_zero]
    intro event hevent
    simpa using List.any_eq_false.mp hprepared.invariant.unclosed event hevent
  have hafter : after.countP RunEvent.isClosed = 0 :=
    List.countP_eq_zero.mpr fun event hevent => by simp [(hclerical event hevent).quiet.2.1]
  rw [List.countP_append, List.countP_cons, hbefore, hafter]
  rfl

/-- What a run does once its session ended. -/
def endSession (c : Collaborators) (executed : Except Raised CPScaleRunOutcome) :
    Run CPScaleLiveFinalResult := do
  let interruption ← settleExecution executed
  note .finalizing
  finishRun c interruption

/-- A session that was not completed ends no completed run. -/
lemma endSession_incomplete {executed : Except Raised CPScaleRunOutcome}
    (hexecuted : executed ≠ .ok .completed) :
    (endSession c executed).Ensures state history
      (fun result _ _ => result.outcome ≠ some .completed) (fun _ _ _ => True) := by
  unfold endSession
  rw [ensures_bind]
  cases executed with
  | ok outcome =>
    rw [settleExecution, ensures_bind, updateTerminal, ensures_modify, ensures_pure, ensures_bind,
      ensures_note]
    refine finishRun_incomplete none fun heq => hexecuted ?_
    exact congrArg Except.ok (Option.some.inj heq)
  | error raised =>
    refine ensures_ite (fun _ => ?_) fun _ => ?_
    · -- an interruption in flight is raised again
      rw [ensures_pure, ensures_bind, ensures_note, finishRun, ensures_bind]
      exact (finalizeSession_raises raised).mono (fun _ _ _ h => h.elim) fun _ _ _ _ => trivial
    · rw [ensures_bind, updateTerminal, ensures_modify, ensures_bind, updateProgress,
        ensures_modify, ensures_pure, ensures_bind, ensures_note]
      exact finishRun_incomplete none (by simp)

/-- A completed session that ends as a completed run did what its result says. -/
lemma endSession_completed {target : CPScaleCanonicalTargetContract} {steps : List Step}
    (hcompleted : Completed target steps state history) :
    (endSession c (.ok .completed)).Ensures state history
      (fun result state' history' => result.outcome = some .completed →
        Completed target steps state' history' ∧ Reported target steps result)
      (fun _ _ _ => True) := by
  rw [endSession, settleExecution, ensures_bind, ensures_bind, updateTerminal, ensures_modify,
    ensures_pure, ensures_bind, ensures_note]
  obtain ⟨hverified, hattestation, hdisposition, hclosure, hcomplete⟩ := hcompleted.concluded
  refine finishRun_completed ⟨hcompleted.order, hcompleted.outcomes, ?_, ?_⟩ rfl
  · refine hcompleted.attested.append rfl fun event hevent => ?_
    rw [List.mem_singleton.mp hevent]
    exact ⟨rfl, .of_unpublished rfl⟩
  · exact ⟨⟨hverified.cleanup, hverified.realtime⟩, hattestation, hdisposition, hclosure,
      hcomplete⟩

/-- A session that ends as a completed run did what its result says. -/
lemma runSession_completed (target : CPScaleCanonicalTargetContract) (retainAuthorized : Bool)
    (hI : SessionInvariant c state history) (hcomposition : state.qualification.composition = none)
    (haccounts : Accounting [] state history) :
    (runSession c target retainAuthorized).Ensures state history
      (fun result state' history' => result.outcome = some .completed →
        ∃ steps, Completed target steps state' history' ∧ Reported target steps result)
      (fun _ _ _ => True) := by
  have hrun : runSession c target retainAuthorized =
      attempt (executeSession c target retainAuthorized) >>= endSession c := rfl
  rw [hrun, ensures_bind, ensures_attempt]
  have hexecute := @executeSession_completes c target state history retainAuthorized hI
    hcomposition haccounts
  refine hexecute.mono ?_ ?_
  · intro outcome state₁ history₁ hcompleted
    by_cases houtcome : outcome = .completed
    · subst houtcome
      obtain ⟨steps, hsteps⟩ := hcompleted rfl
      refine (endSession_completed hsteps).imp fun _ _ _ h hresult => ?_
      exact ⟨steps, h hresult⟩
    · refine (endSession_incomplete fun heq => houtcome (Except.ok.inj heq)).imp ?_
      exact fun _ _ _ hne hresult => absurd hresult hne
  · intro raised state₁ history₁ _
    refine (endSession_incomplete ?_).imp ?_
    · intro heq
      cases heq
    · exact fun _ _ _ hne hresult => absurd hresult hne

lemma accounting_opening : Accounting [] {} opening := ⟨rfl, rfl⟩

lemma refuseRun_rejects (hardStop : String) :
    (refuseRun c hardStop).Ensures state history
      (fun result _ _ => result.outcome = some .rejected) (fun _ _ _ => True) := by
  unfold refuseRun
  rw [ensures_bind, updateTerminal, ensures_modify, ensures_bind]
  refine ensures_run.mono (fun written _ _ _ => ?_) fun _ _ _ _ => trivial
  rw [ensures_bind]
  exact ensures_run.mono (fun _ _ _ _ => rfl) fun _ _ _ _ => trivial

/-- A session that ends as a completed run is certified. -/
lemma runSession_certified (target : CPScaleCanonicalTargetContract) (retainAuthorized : Bool) :
    (runSession c target retainAuthorized).Ensures {} opening
      (fun result _ history' => result.outcome = some .completed →
        ∃ steps, Certified target steps history' result)
      (fun _ _ _ => True) := by
  have hcompleted := runSession_completed (c := c) target retainAuthorized sessionInvariant_opening
    rfl accounting_opening
  have hfinalized := runSession_ensures (c := c) target retainAuthorized sessionInvariant_opening rfl
  refine (hcompleted.and hfinalized).mono ?_ fun _ _ _ _ => trivial
  rintro result state' history' ⟨hcompleted, hfinalized⟩ hresult
  obtain ⟨steps, hsteps, hreported⟩ := hcompleted hresult
  have hattested := hsteps.attested
  have hreviewed := hattested.archived.reviewed
  exact ⟨steps, hsteps.order, hreviewed.accounting.executed, hsteps.outcomes, hreviewed.reviewed,
    hreviewed.accepted, hattested.archived.archived, hattested.archived.removals,
    hattested.attested, hattested.publications, hattested.sound, hreported, hfinalized.closed_once⟩

end Runs

/-- **A run that returns COMPLETED was admitted, and what it did and reports is certified.** -/
theorem completed_run_certified (c : Collaborators) (request : CPScaleLiveRequest)
    {result : CPScaleLiveFinalResult} {state : RunState} {history : List RunEvent}
    (hrun : (run c request).run {} [] = (.ok result, state, history))
    (hcompleted : result.outcome = some .completed) :
    ∃ preflight steps, c.inspect (answered [.clock]) = .ok preflight ∧ preflight.hardStop = "" ∧
      Certified preflight.target steps history result := by
  have hcertified : (run c request).Ensures {} []
      (fun result _ history' => result.outcome = some .completed →
        ∃ preflight steps, c.inspect (answered [.clock]) = .ok preflight ∧
          preflight.hardStop = "" ∧ Certified preflight.target steps history' result)
      (fun _ _ _ => True) := by
    refine run_ensures request (fun _ _ _ => trivial) (fun hardStop => ?_)
      fun preflight hpreflight hadmitted => ?_
    · refine (refuseRun_rejects hardStop).imp fun result _ _ hrejected hcompleted => ?_
      rw [hrejected] at hcompleted
      cases hcompleted
    · refine (runSession_certified preflight.target _).imp fun _ _ _ h hresult => ?_
      obtain ⟨steps, hsteps⟩ := h hresult
      exact ⟨preflight, steps, hpreflight, hadmitted, hsteps⟩
  exact hcertified.of_run_eq_ok hrun hcompleted

/-! ## A laboratory that completes -/

/-- A laboratory that answers everything, whose executor gives its first stage an outcome. -/
def completedLaboratory (first : String) : Collaborators :=
  laboratory .router0Branch (fun _ => (["r0"], .ok routerDeployment)) fun history =>
    .ok (stageResult
      ((buildStagesThrough .router0Branch).getD (executions history).length .routingCore)
      (if executions history = [] then first else "verified"))

/-- The run of such a laboratory. -/
def completedRun (first : String) :
    Except Raised CPScaleLiveFinalResult × RunState × List RunEvent :=
  (run (completedLaboratory first) { retainOnFullVerification := false }).run {} []

/-- Whether a run returned COMPLETED. -/
def returnsCompleted (run : Except Raised CPScaleLiveFinalResult × RunState × List RunEvent) :
    Bool :=
  run.1.toOption.any (·.outcome = some .completed)

lemma exists_of_returnsCompleted
    {run : Except Raised CPScaleLiveFinalResult × RunState × List RunEvent}
    (h : returnsCompleted run = true) :
    ∃ result state history, run = (.ok result, state, history) ∧
      result.outcome = some .completed := by
  rcases run with ⟨result, state, history⟩
  cases result with
  | error raised => cases h
  | ok result => exact ⟨result, state, history, rfl, of_decide_eq_true h⟩

/-- The run of the laboratory whose stages all verify is certified. -/
theorem completed_run_certified_laboratory :
    ∃ steps result, (completedRun "verified").1 = .ok result ∧
      Certified (canonicalCpScaleTargetContract .router0Branch) steps
        (completedRun "verified").2.2 result := by
  have hreturns : returnsCompleted (completedRun "verified") = true := by decide +kernel
  obtain ⟨result, state, history, hrun, hcompleted⟩ := exists_of_returnsCompleted hreturns
  obtain ⟨preflight, steps, hpreflight, -, hcertified⟩ :=
    completed_run_certified (completedLaboratory "verified") _ hrun hcompleted
  cases hpreflight
  exact ⟨steps, result, by rw [hrun], by rw [hrun]; exact hcertified⟩

/-- An executor result that is not VERIFIED. -/
def RunEvent.isUnverified : RunEvent → Bool
  | .executed _ (.ok value) => value.outcome ≠ "verified"
  | _ => false

/-- A run returns COMPLETED although a stage of its target was not VERIFIED. -/
theorem completed_run_with_unverified_stage :
    ∃ (c : Collaborators) (request : CPScaleLiveRequest) (result : CPScaleLiveFinalResult)
      (state : RunState) (history : List RunEvent),
      (run c request).run {} [] = (.ok result, state, history) ∧
      result.outcome = some .completed ∧
      ∃ stage value, .executed stage (.ok value) ∈ history ∧ value.outcome ≠ "verified" := by
  have hreturns : returnsCompleted (completedRun "partial") = true := by decide +kernel
  have hunverified : (completedRun "partial").2.2.any RunEvent.isUnverified = true := by
    decide +kernel
  obtain ⟨result, state, history, hrun, hcompleted⟩ := exists_of_returnsCompleted hreturns
  refine ⟨completedLaboratory "partial", _, result, state, history, hrun, hcompleted, ?_⟩
  rw [hrun] at hunverified
  obtain ⟨event, hevent, hunverified⟩ := List.any_eq_true.mp hunverified
  cases event with
  | executed stage answer =>
    cases answer with
    | ok value => exact ⟨stage, value, hevent, by simpa [RunEvent.isUnverified] using hunverified⟩
    | error raised => cases hunverified
  | _ => cases hunverified

end LiveRun
end PacketTracer
