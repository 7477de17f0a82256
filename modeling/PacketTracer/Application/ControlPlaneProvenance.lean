import PacketTracer.Application.ControlPlaneVerdict
import PacketTracer.Domain.ExecutionResidue

/-!
# Faults and evidence of a control-plane application

The report admits every fault that may still be there in every run in which the runtime does not
apply a fault for another scenario than the one it was asked for, and does not raise in one scenario
while it leaves the fault of another.  A stage records the first observation that the runtime
answers, whichever expectation it names; a scenario checks every observation.
-/

namespace PacketTracer

open Dicts ApplicationExecutionJournal

namespace ControlPlaneApplicator

/-! ## Faults -/

/-- The runtime applied a fault. -/
def faulted (runtime : RuntimeFailureScenarioResult) : Bool :=
  runtime.injection.any fun injection => injection.applied

/-- The runtime applied the restore that it attempted. -/
def restored (runtime : RuntimeFailureScenarioResult) : Bool :=
  runtime.restoreAttempted && runtime.restore.any fun restore => restore.applied

/-- After this exchange a fault may still be there: the runtime raised in a scenario, or it applied
a fault whose restore is not confirmed for that scenario. -/
def mayLeaveFault : ControlPlaneEvent → Bool
  | .executeFailureScenario _ _ _ (.error _) => true
  | .executeFailureScenario scenario _ _ (.ok runtime) =>
    faulted runtime && !(runtime.scenarioId = scenario.id && restored runtime)
  | _ => false

/-- The residue that a verdict about the restores proves. -/
def verdictResidue : Option CompensationStatus → DirtyState
  | some status => verdictFloor status
  | none => .clean

/-- The severity of a scenario's own outcome: that of its result alone. -/
def ownResidue (result : FailureScenarioResult) : DirtyState :=
  verdictResidue (scenarioVerdict [result])

/-- What a report should say about the scenarios: it admits every fault that may still be there,
and it is as severe as each of them. -/
structure ResidueReported (report : ControlPlaneApplicationResult)
    (trace : List ControlPlaneEvent) : Prop where
  admitted : ∀ event ∈ trace, mayLeaveFault event = true → report.dirtyState ≠ .clean
  severity : ∀ result ∈ report.scenarioResults, ownResidue result ≤ report.dirtyState

/-! ## When it does -/

/-- The runtime applied a fault for another scenario than the one it was asked for. -/
def misattributed : ControlPlaneEvent → Bool
  | .executeFailureScenario scenario _ _ (.ok runtime) =>
    faulted runtime && runtime.scenarioId ≠ scenario.id
  | _ => false

/-- The runtime raised in a scenario. -/
def raised : ControlPlaneEvent → Bool
  | .executeFailureScenario _ _ _ (.error _) => true
  | _ => false

/-- The runtime left the fault of the scenario that it was asked for. -/
def abandoned : ControlPlaneEvent → Bool
  | .executeFailureScenario scenario _ _ (.ok runtime) =>
    faulted runtime && runtime.scenarioId = scenario.id && !restored runtime
  | _ => false

/-- No fault is applied for another scenario, and the runtime does not raise in one scenario and
leave the fault of another. -/
structure KeepsResidue (trace : List ControlPlaneEvent) : Prop where
  attributed : ∀ event ∈ trace, misattributed event = false
  apart : (∃ event ∈ trace, raised event = true) → ∀ event ∈ trace, abandoned event = false

instance : DecidablePred KeepsResidue := fun trace =>
  decidable_of_iff ((∀ event ∈ trace, misattributed event = false) ∧
      ((∃ event ∈ trace, raised event = true) → ∀ event ∈ trace, abandoned event = false))
    ⟨fun h => ⟨h.1, h.2⟩, fun h => ⟨h.1, h.2⟩⟩

/-! ## Results of scenarios -/

section Results

variable {result : FailureScenarioResult} {results : List FailureScenarioResult}

/-- The restore of a scenario is in doubt. -/
def uncertainRestore (result : FailureScenarioResult) : Prop :=
  result.failureCode = .cleanupFailed ∧ result.restoreStatus = .unknown

instance : DecidablePred uncertainRestore := fun _ => inferInstanceAs (Decidable (_ ∧ _))

/-- The fault of a scenario was applied and not undone. -/
def leftFault (result : FailureScenarioResult) : Bool :=
  satisfiesApplyDependency result.injectionStatus &&
    !(result.restoreAttempted && satisfiesApplyDependency result.restoreStatus)

lemma ownResidue_of_uncertain (h : uncertainRestore result) : ownResidue result = .unknown := by
  have huncertain : result.failureCode = .cleanupFailed ∧ result.restoreStatus = .unknown := h
  simp [ownResidue, scenarioVerdict, huncertain, verdictResidue, verdictFloor]

/-- A fault that was not undone is unrecoverable, unless its restore is in doubt. -/
lemma ownResidue_eq_unrecoverable_iff :
    ownResidue result = .dirtyUnrecoverable ↔
      ¬uncertainRestore result ∧ leftFault result = true := by
  by_cases huncertain : uncertainRestore result
  · simp [ownResidue_of_uncertain huncertain, huncertain]
  have hnot : ¬(result.failureCode = .cleanupFailed ∧ result.restoreStatus = .unknown) :=
    huncertain
  by_cases hinjected : satisfiesApplyDependency result.injectionStatus = true
  · by_cases hrestored : (result.restoreAttempted &&
        satisfiesApplyDependency result.restoreStatus) = true
    · simp only [Bool.and_eq_true] at hrestored
      by_cases hobserved : result.recoveryStatus ≠ .verified ∨
          result.failureCode = .sessionFailed
      · simp [ownResidue, scenarioVerdict, hnot, hinjected, hrestored, hobserved, leftFault,
          verdictResidue, verdictFloor]
      · simp [ownResidue, scenarioVerdict, hnot, hinjected, hrestored, hobserved, leftFault,
          verdictResidue, verdictFloor]
    · have hleft : leftFault result = true := by
        have hnotRestored := eq_false_of_ne_true hrestored
        rw [leftFault, hinjected, hnotRestored]
        rfl
      simp only [Bool.not_eq_true, Bool.and_eq_false_iff] at hrestored
      simp [ownResidue, scenarioVerdict, hnot, hinjected, hrestored, hleft, huncertain,
        verdictResidue, verdictFloor]
  · simp [ownResidue, scenarioVerdict, hnot, hinjected, leftFault, verdictResidue]

lemma ownResidue_of_not_injected (huncertain : ¬uncertainRestore result)
    (h : satisfiesApplyDependency result.injectionStatus = false) :
    ownResidue result = .clean := by
  have hnot : ¬(result.failureCode = .cleanupFailed ∧ result.restoreStatus = .unknown) :=
    huncertain
  simp [ownResidue, scenarioVerdict, hnot, h, verdictResidue]

lemma ownResidue_of_observed (huncertain : ¬uncertainRestore result)
    (hleft : leftFault result = false)
    (hobserved : ¬(result.recoveryStatus ≠ .verified ∨ result.failureCode = .sessionFailed)) :
    ownResidue result = .clean := by
  by_cases hinjected : satisfiesApplyDependency result.injectionStatus = true
  · have hnot : ¬(result.failureCode = .cleanupFailed ∧ result.restoreStatus = .unknown) :=
      huncertain
    have hrestored : result.restoreAttempted = true ∧
        satisfiesApplyDependency result.restoreStatus = true := by
      simpa [leftFault, hinjected] using hleft
    simp [ownResidue, scenarioVerdict, hnot, hinjected, hrestored, hobserved, verdictResidue,
      verdictFloor]
  · exact ownResidue_of_not_injected huncertain (Bool.not_eq_true _ ▸ hinjected)

/-- The verdict about some scenarios is as severe as each of them, when no restore is in doubt
while the fault of one was left. -/
lemma ownResidue_le_verdictResidue (hresult : result ∈ results)
    (hapart : (∃ item ∈ results, uncertainRestore item) →
      ownResidue result ≠ .dirtyUnrecoverable) :
    ownResidue result ≤ verdictResidue (scenarioVerdict results) := by
  unfold scenarioVerdict
  simp only
  split
  · rename_i huncertain
    simp only [List.any_eq_true, decide_eq_true_eq] at huncertain
    exact DirtyState.le_unknown_of_ne (hapart huncertain)
  · rename_i hcertain
    simp only [List.any_eq_true, decide_eq_true_eq, not_exists, not_and] at hcertain
    have hnot : ¬uncertainRestore result := fun h => hcertain result hresult h.1 h.2
    split
    · rename_i hnone
      have hinjected : satisfiesApplyDependency result.injectionStatus = false := by
        simpa using (List.filter_eq_nil_iff.mp hnone) result hresult
      rw [ownResidue_of_not_injected hnot hinjected]
      exact DirtyState.clean_le _
    · split
      · exact DirtyState.le_dirtyUnrecoverable _
      rename_i hrestored
      have hleft : leftFault result = false := by
        by_contra hleft
        simp only [Bool.not_eq_false, leftFault, Bool.and_eq_true] at hleft
        exact hrestored (List.any_eq_true.mpr
          ⟨result, List.mem_filter.mpr ⟨hresult, hleft.1⟩, hleft.2⟩)
      split
      · exact DirtyState.le_unknown_of_ne fun hunrecoverable => by
          simp [ownResidue_eq_unrecoverable_iff, hleft] at hunrecoverable
      rename_i hobserved
      by_cases hinjected : satisfiesApplyDependency result.injectionStatus = true
      · rw [ownResidue_of_observed hnot hleft fun h => hobserved (List.any_eq_true.mpr
          ⟨result, List.mem_filter.mpr ⟨hresult, hinjected⟩, decide_eq_true h⟩)]
        exact DirtyState.clean_le _
      · rw [ownResidue_of_not_injected hnot (Bool.not_eq_true _ ▸ hinjected)]
        exact DirtyState.clean_le _

end Results

/-- The doubt about a scenario that raised hides the proven residue of another. -/
example : ∃ results, ∃ result ∈ results,
    verdictResidue (scenarioVerdict results) < ownResidue result :=
  ⟨[{ scenarioId := "raised", status := .failed, failureCode := .cleanupFailed,
      restoreStatus := .unknown },
    { scenarioId := "left", status := .failed, failureCode := .cleanupFailed,
      injectionStatus := .applied, restoreStatus := .failed, restoreAttempted := true }],
    _, List.mem_cons_of_mem _ List.mem_cons_self, by decide⟩

/-! ## Answers of the runtime -/

section Answers

variable {runtime : RuntimeFailureScenarioResult} {context : VerificationContext}
  {inventory : Dict String RuntimeConfigurationTarget} {trace : List ControlPlaneEvent}
  {statuses : StatusMap} {scenario : LinkFailureScenario} {result : FailureScenarioResult}
  {failure recovery : ControlPlaneVerificationExpectation}
  {answer : Except String RuntimeFailureScenarioResult} {event : ControlPlaneEvent}

@[simp] lemma satisfies_injectionStatus :
    satisfiesApplyDependency (injectionStatus runtime) = faulted runtime := by
  cases hinjection : runtime.injection with
  | none => simp [injectionStatus, faulted, hinjection, satisfiesApplyDependency]
  | some mutation => simp [injectionStatus, faulted, hinjection]

lemma restored_eq : restored runtime =
    (runtime.restoreAttempted && satisfiesApplyDependency (restoreStatus runtime)) := by
  cases hrestore : runtime.restore with
  | none =>
    cases hattempted : runtime.restoreAttempted <;>
      simp [restoreStatus, restored, hrestore, hattempted, satisfiesApplyDependency]
  | some mutation => simp [restoreStatus, restored, hrestore]

lemma restoreStatus_ne_unknown : restoreStatus runtime ≠ .unknown := by
  unfold restoreStatus
  split
  · rename_i mutation _
    unfold mutationExecutionStatus
    cases mutation.applied
    · simp
    · cases mutation.disposition <;> simp
  · split <;> simp

lemma spec_gatedRecovery (context : VerificationContext) (statuses : StatusMap)
    (failure recovery : ControlPlaneVerificationExpectation)
    (runtime : RuntimeFailureScenarioResult) :
    (gatedRecovery context statuses failure recovery runtime).scenarioId = runtime.scenarioId ∧
      faulted (gatedRecovery context statuses failure recovery runtime) = faulted runtime ∧
      restored (gatedRecovery context statuses failure recovery runtime) = restored runtime := by
  unfold gatedRecovery
  simp only
  split <;> exact ⟨rfl, rfl, rfl⟩

lemma leftFault_scenarioResult : leftFault (scenarioResult scenario failure recovery runtime) =
    (faulted runtime && runtime.scenarioId = scenario.id && !restored runtime) := by
  unfold scenarioResult leftFault
  split
  · rename_i hother
    simp [hother, satisfiesApplyDependency]
  · rename_i hsame
    simp [not_not.mp hsame, ← restored_eq]

lemma not_uncertainRestore_scenarioResult :
    ¬uncertainRestore (scenarioResult scenario failure recovery runtime) := by
  unfold scenarioResult uncertainRestore
  split
  · simp
  · exact fun h => restoreStatus_ne_unknown h.2

lemma leftFault_answerResult :
    leftFault (answerResult context statuses scenario failure recovery answer) =
      abandoned (.executeFailureScenario scenario failure recovery answer) := by
  rcases answer with message | runtime
  · rfl
  obtain ⟨hid, hfaulted, hrestored⟩ :=
    spec_gatedRecovery context statuses failure recovery runtime
  rw [answerResult, leftFault_scenarioResult, hid, hfaulted, hrestored]
  rfl

lemma uncertainRestore_answerResult_iff :
    uncertainRestore (answerResult context statuses scenario failure recovery answer) ↔
      raised (.executeFailureScenario scenario failure recovery answer) = true := by
  cases answer with
  | error message => simp [answerResult, uncertainRestore, raisedScenario, raised]
  | ok runtime =>
    exact ⟨fun h => absurd h not_uncertainRestore_scenarioResult, fun h => by simp [raised] at h⟩

lemma unfaulted_of_scenarioGate (h : scenarioGate context inventory statuses scenario =
    .error result) : ¬uncertainRestore result ∧ leftFault result = false := by
  unfold scenarioGate at h
  split at h
  · rw [← Except.error.inj h]
    exact ⟨by simp [uncertainRestore], rfl⟩
  split at h
  · simp only at h
    split at h
    · rw [← Except.error.inj h]
      exact ⟨by simp [uncertainRestore], rfl⟩
    · split at h
      · rw [← Except.error.inj h]
        exact ⟨by simp [uncertainRestore], rfl⟩
      · cases h
  · rw [← Except.error.inj h]
    exact ⟨by simp [uncertainRestore], rfl⟩

lemma ScenarioEvidence.residue (h : ScenarioEvidence context inventory trace scenario result) :
    (uncertainRestore result → ∃ event ∈ trace, raised event = true) ∧
      (leftFault result = true → ∃ event ∈ trace, abandoned event = true) := by
  cases h with
  | gated statuses result hgate =>
    obtain ⟨hcertain, hleft⟩ := unfaulted_of_scenarioGate hgate
    exact ⟨fun huncertain => absurd huncertain hcertain, fun h => by simp [hleft] at h⟩
  | executed statuses failure recovery answer hgate hanswer =>
    exact ⟨fun huncertain => ⟨_, hanswer, uncertainRestore_answerResult_iff.mp huncertain⟩,
      fun hleft => ⟨_, hanswer, leftFault_answerResult.symm.trans hleft⟩⟩

lemma exists_scenarioEvidence {scenarios : List LinkFailureScenario}
    {results : List FailureScenarioResult}
    (h : List.Forall₂ (ScenarioEvidence context inventory trace) scenarios results)
    (hresult : result ∈ results) :
    ∃ scenario ∈ scenarios, ScenarioEvidence context inventory trace scenario result :=
  Fallible.exists_of_forall₂ (R := fun result scenario =>
    ScenarioEvidence context inventory trace scenario result) h.flip hresult

lemma exists_of_mayLeaveFault (h : mayLeaveFault event = true) :
    ∃ scenario failure recovery answer,
      event = .executeFailureScenario scenario failure recovery answer := by
  unfold mayLeaveFault at h
  split at h
  · exact ⟨_, _, _, _, rfl⟩
  · exact ⟨_, _, _, _, rfl⟩
  · cases h

/-- A fault that may still be there is one of the scenario that was asked for, unless it was
applied for another. -/
lemma raised_or_abandoned (h : mayLeaveFault event = true)
    (hattributed : misattributed event = false) :
    raised event = true ∨ abandoned event = true := by
  unfold mayLeaveFault at h
  split at h
  · exact Or.inl rfl
  · rename_i scenario failure recovery runtime
    right
    simp only [Bool.and_eq_true] at h
    have hsame : runtime.scenarioId = scenario.id := by
      simpa [misattributed, h.1] using hattributed
    simpa [abandoned, hsame] using h
  · cases h

/-- An exchange that raised or left its fault leaves a result that is not clean. -/
lemma ownResidue_answerResult_ne_clean
    (h : raised (.executeFailureScenario scenario failure recovery answer) = true ∨
      abandoned (.executeFailureScenario scenario failure recovery answer) = true) :
    ownResidue (answerResult context statuses scenario failure recovery answer) ≠ .clean := by
  by_cases huncertain : uncertainRestore
      (answerResult context statuses scenario failure recovery answer)
  · rw [ownResidue_of_uncertain huncertain]
    decide
  have habandoned := h.resolve_left fun hraised =>
    huncertain (uncertainRestore_answerResult_iff.mpr hraised)
  rw [ownResidue_eq_unrecoverable_iff.mpr
    ⟨huncertain, leftFault_answerResult.trans habandoned⟩]
  decide

lemma verdictResidue_le_dirtyState {plan : ControlPlanePlan} {request : ControlPlaneRequest}
    {mutationIds : List String} {outcome : ControlPlaneOutcome}
    {report : ControlPlaneApplicationResult}
    (h : applicationResult plan request mutationIds outcome = .ok report) :
    verdictResidue (scenarioVerdict outcome.scenarioResults) ≤ report.dirtyState := by
  obtain ⟨journal, -, hreport⟩ := Fallible.bind_eq_ok.mp h
  rw [← Except.ok.inj hreport]
  simp only [ControlPlaneApplicator.recordScenarioRestore]
  cases hverdict : scenarioVerdict outcome.scenarioResults with
  | none => exact DirtyState.clean_le _
  | some status =>
    simp only [verdictResidue, recordScenarioRestore_dirtyState]
    exact (le_max_right _ _).trans ((le_max_right _ _).trans (le_max_left _ _))

end Answers

/-- **Residue of scenarios.**  In a run in which no fault is applied for another scenario, and the
runtime does not raise in one scenario and leave the fault of another, the report admits every
fault that may still be there and is as severe as each scenario. -/
theorem residueReported_of_keepsResidue (applicator : ControlPlaneApplicator)
    (plan : ControlPlanePlan) (request : ControlPlaneRequest)
    {report : ControlPlaneApplicationResult} {trace : List ControlPlaneEvent}
    (hrun : (applicator.apply plan request).run [] = (.ok report, trace))
    (hkeeps : KeepsResidue trace) : ResidueReported report trace := by
  rcases ensures_apply.of_run_eq_ok hrun with ⟨⟨-, -, hnone, -⟩, hunexecuted, -⟩ | ⟨run, h⟩
  · refine ⟨fun event hevent hleft => ?_, by simp [hnone]⟩
    obtain ⟨scenario, failure, recovery, answer, rfl⟩ := exists_of_mayLeaveFault hleft
    exact absurd rfl (hunexecuted _ hevent scenario failure recovery answer)
  · obtain ⟨-, -, hscenarios⟩ := spec_applicationResult h.report
    have hseverity : ∀ result ∈ report.scenarioResults,
        ownResidue result ≤ report.dirtyState := by
      intro result hresult
      rw [hscenarios] at hresult
      refine (ownResidue_le_verdictResidue hresult fun huncertain hunrecoverable => ?_).trans
        (verdictResidue_le_dirtyState h.report)
      obtain ⟨item, hitem, huncertain⟩ := huncertain
      obtain ⟨scenario, -, hevidence⟩ := exists_scenarioEvidence h.verified.scenarios hresult
      obtain ⟨scenario', -, hevidence'⟩ := exists_scenarioEvidence h.verified.scenarios hitem
      obtain ⟨event, hevent, habandoned⟩ :=
        hevidence.residue.2 (ownResidue_eq_unrecoverable_iff.mp hunrecoverable).2
      simp [hkeeps.apart (hevidence'.residue.1 huncertain) event hevent] at habandoned
    refine ⟨fun event hevent hleft hclean => ?_, hseverity⟩
    have hcause := raised_or_abandoned hleft (hkeeps.attributed event hevent)
    obtain ⟨scenario, failure, recovery, answer, rfl⟩ := exists_of_mayLeaveFault hleft
    obtain ⟨statuses, hresult⟩ := h.verified.executions scenario failure recovery answer hevent
    have hle := hseverity _ (hscenarios ▸ hresult)
    rw [hclean] at hle
    exact ownResidue_answerResult_ne_clean hcause (le_antisymm hle (DirtyState.clean_le _))

/-- A run whose scenario is executed and recovers. -/
theorem residueReported_of_keepsResidue_watched :
    ∃ report trace, (watchedApplicator.apply watchedPlan (routerRequest none [])).run [] =
        (.ok report, trace) ∧ ResidueReported report trace := by
  obtain ⟨report, trace, hrun, hkeeps⟩ := exists_of_returns
    (p := fun report trace => KeepsResidue trace)
    (show returns _ ((watchedApplicator.apply watchedPlan (routerRequest none [])).run []) = true by
      decide)
  exact ⟨report, trace, hrun, residueReported_of_keepsResidue watchedApplicator watchedPlan
    (routerRequest none []) hrun (of_decide_eq_true hkeeps)⟩

/-- A runtime that applies a fault, does not restore it, and answers for another scenario. -/
def strayApplicator : ControlPlaneApplicator :=
  routerApplicator (routerRuntime [] (verifiedEvidence .observed) fun _ =>
    .ok { scenarioId := "other", injection := some { actionId := "fault", applied := true } })

/-- A report may be clean although the runtime applied a fault that it never undid. -/
theorem not_forall_residueReported :
    ¬∀ (applicator : ControlPlaneApplicator) (plan : ControlPlanePlan)
      (request : ControlPlaneRequest) (report : ControlPlaneApplicationResult)
      (trace : List ControlPlaneEvent),
      (applicator.apply plan request).run [] = (.ok report, trace) →
      ResidueReported report trace := by
  intro hall
  obtain ⟨report, trace, hrun, hreport⟩ := exists_of_returns
    (p := fun report trace => report.dirtyState = .clean ∧
      ∃ event ∈ trace, mayLeaveFault event = true)
    (show returns _ ((strayApplicator.apply watchedPlan (routerRequest none [])).run []) = true by
      decide)
  obtain ⟨hclean, event, hevent, hleft⟩ := of_decide_eq_true hreport
  exact (hall strayApplicator watchedPlan (routerRequest none []) report trace hrun).admitted event
    hevent hleft hclean

/-! ## Evidence of stages -/

/-- The evidence that may be recorded for an expectation: the refusal of a gate, that there was no
observation for the stage, or an observation that names the expectation. -/
inductive Provenance (stage : ControlPlaneExecutionStage) (trace : List ControlPlaneEvent)
    (expectation : ControlPlaneVerificationExpectation) : ControlPlaneVerificationResult → Prop
  | gated (context : VerificationContext) (statuses : StatusMap)
      (item : RuntimeControlPlaneVerification)
      (hgate : gatedVerification context stage statuses expectation = some item) :
      Provenance stage trace expectation (verificationResult expectation item stage)
  | unanswered (answer : Except String (List RuntimeControlPlaneVerification))
      (hanswer : .verify [expectation] answer ∈ trace)
      (hnone : answer = .ok [] ∨ ∃ message, answer = .error message) :
      Provenance stage trace expectation
        (verificationResult expectation (observedVerification expectation stage answer) stage)
  | misplaced (item : RuntimeControlPlaneVerification) (hstage : item.stage ≠ stage) :
      Provenance stage trace expectation (verificationResult expectation item stage)
  | observed (items : List RuntimeControlPlaneVerification)
      (item : RuntimeControlPlaneVerification)
      (hanswer : .verify [expectation] (.ok items) ∈ trace) (hitem : item ∈ items)
      (hid : item.expectationId = expectation.id) :
      Provenance stage trace expectation (verificationResult expectation item stage)

/-- Everything that the stages of a report recorded for an expectation is its own evidence. -/
structure OwnEvidence (report : ControlPlaneApplicationResult) (trace : List ControlPlaneEvent) :
    Prop where
  observed : ∀ result ∈ report.observedResults, ∃ expectation,
    Provenance .observed trace expectation result
  behavior : ∀ result ∈ report.behaviorResults, ∃ expectation,
    Provenance .behavior trace expectation result
  failover : ∀ result ∈ report.failoverResults, ∃ expectation, UnboundEvidence expectation result

/-- Asked about one expectation, the runtime answers first with an observation of it, unless the
observation is of another stage. -/
def AnswersAsked : ControlPlaneEvent → Prop
  | .verify [expectation] (.ok (item :: _)) =>
    item.stage = expectation.kind.stage → item.expectationId = expectation.id
  | _ => True

instance : DecidablePred AnswersAsked
  | .verify [_] (.ok (_ :: _)) => inferInstanceAs (Decidable (_ → _))
  | .verify [_] (.ok []) | .verify [_] (.error _) | .verify [] _ | .verify (_ :: _ :: _) _
  | .inventory _ | .applyActions .. | .executeFailureScenario .. => inferInstanceAs (Decidable True)

variable {applicator : ControlPlaneApplicator} {plan : ControlPlanePlan}
  {request : ControlPlaneRequest} {stage : ControlPlaneExecutionStage}
  {trace : List ControlPlaneEvent} {expectation : ControlPlaneVerificationExpectation}
  {result : ControlPlaneVerificationResult} {results : List ControlPlaneVerificationResult}

lemma StageEvidence.provenance (h : StageEvidence stage trace expectation result)
    (hanswers : ∀ event ∈ trace, AnswersAsked event) (hstage : expectation.kind.stage = stage) :
    Provenance stage trace expectation result := by
  rcases h with ⟨context, statuses, item, hgate⟩ | ⟨answer, hanswer⟩
  · exact .gated context statuses item hgate
  match answer with
  | .error message => exact .unanswered _ hanswer (Or.inr ⟨message, rfl⟩)
  | .ok [] => exact .unanswered _ hanswer (Or.inl rfl)
  | .ok (item :: items) =>
    by_cases hitem : item.stage = stage
    · exact .observed _ item hanswer List.mem_cons_self
        (hanswers _ hanswer (hitem.trans hstage.symm))
    · exact .misplaced item hitem

lemma exists_provenance {kinds : List ControlPlaneVerificationKind}
    (h : List.Forall₂ (StageEvidence stage trace)
      (plan.verificationExpectations.filter (·.kind ∈ kinds)) results)
    (hanswers : ∀ event ∈ trace, AnswersAsked event)
    (hkinds : ∀ kind ∈ kinds, kind.stage = stage) :
    ∀ result ∈ results, ∃ expectation, Provenance stage trace expectation result := by
  intro result hresult
  obtain ⟨expectation, hmem, hevidence⟩ := Fallible.exists_of_forall₂
    (R := fun result expectation => StageEvidence stage trace expectation result) h.flip hresult
  have hkind := of_decide_eq_true (List.mem_filter.mp hmem).2
  exact ⟨expectation, hevidence.provenance hanswers (hkinds _ hkind)⟩

/-- **Evidence is recorded for the expectation it names.**  In a run in which every expectation is
answered first with an observation of it, the stages record evidence of their own only. -/
theorem ownEvidence_of_answersAsked (applicator : ControlPlaneApplicator)
    (plan : ControlPlanePlan) (request : ControlPlaneRequest)
    {report : ControlPlaneApplicationResult} {trace : List ControlPlaneEvent}
    (hrun : (applicator.apply plan request).run [] = (.ok report, trace))
    (hanswers : ∀ event ∈ trace, AnswersAsked event) : OwnEvidence report trace := by
  rcases ensures_apply.of_run_eq_ok hrun with ⟨⟨-, -, -, hnone⟩, -⟩ | ⟨run, h⟩
  · simp only [List.append_eq_nil_iff] at hnone
    constructor <;> simp [hnone]
  obtain ⟨journal, -, hreport⟩ := Fallible.bind_eq_ok.mp h.report
  rw [← Except.ok.inj hreport]
  constructor
  · exact exists_provenance h.verified.observed hanswers (by decide)
  · exact exists_provenance h.verified.behavior hanswers (by decide)
  · intro result hresult
    obtain ⟨expectation, -, hevidence⟩ := Fallible.exists_of_forall₂
      (R := fun result expectation => UnboundEvidence expectation result)
      h.verified.failover.flip hresult
    exact ⟨expectation, hevidence⟩

/-- A run in which everything is answered as asked. -/
theorem ownEvidence_watched :
    ∃ report trace, (watchedApplicator.apply watchedPlan (routerRequest none [])).run [] =
        (.ok report, trace) ∧ OwnEvidence report trace := by
  obtain ⟨report, trace, hrun, hanswers⟩ := exists_of_returns
    (p := fun report trace => ∀ event ∈ trace, AnswersAsked event)
    (show returns _ ((watchedApplicator.apply watchedPlan (routerRequest none [])).run []) = true by
      decide)
  exact ⟨report, trace, hrun, ownEvidence_of_answersAsked watchedApplicator watchedPlan
    (routerRequest none []) hrun (of_decide_eq_true hanswers)⟩

/-- A runtime that answers with verified observations of another expectation. -/
def confusedApplicator : ControlPlaneApplicator :=
  routerApplicator (routerRuntime []
    (fun expectation => { verifiedEvidence .observed expectation with expectationId := "other" })
    fun _ => .error "")

/-- A stage may record the observation of another expectation. -/
theorem not_forall_ownEvidence :
    ¬∀ (applicator : ControlPlaneApplicator) (plan : ControlPlanePlan)
      (request : ControlPlaneRequest) (report : ControlPlaneApplicationResult)
      (trace : List ControlPlaneEvent),
      (applicator.apply plan request).run [] = (.ok report, trace) → OwnEvidence report trace := by
  intro hall
  obtain ⟨report, trace, hrun, hreport⟩ := exists_of_returns
    (p := fun report trace => (∃ result ∈ report.observedResults, result.status = .verified) ∧
      ∀ event ∈ trace, ∀ item ∈ event.evidence, item.expectationId = "other" ∧
        ∀ result ∈ report.observedResults, result.expectationId ≠ "other")
    (show returns _ ((confusedApplicator.apply observedPlan (routerRequest none [])).run []) = true
      by decide)
  obtain ⟨⟨result, hresult, hstatus⟩, hother⟩ := of_decide_eq_true hreport
  obtain ⟨expectation, hprovenance⟩ :=
    (hall confusedApplicator observedPlan (routerRequest none []) report trace hrun).observed
      result hresult
  cases hprovenance with
  | gated context statuses item hgate =>
    have hincomplete : (verificationResult expectation _ .observed).status ∈ incomplete :=
      incomplete_of_gated (status_of_gatedVerification hgate)
    simp [hstatus, incomplete] at hincomplete
  | unanswered answer _ hnone =>
    rw [status_verificationResult] at hstatus
    rcases hnone with rfl | ⟨message, rfl⟩ <;> simp [observedVerification] at hstatus
  | misplaced item hstage => simp [status_verificationResult, hstage] at hstatus
  | observed items item hanswer hitem hid =>
    obtain ⟨hnamed, hforeign⟩ := hother _ hanswer item hitem
    exact hforeign _ hresult (by rw [expectationId_verificationResult, ← hid, hnamed])

/-! ## Evidence of scenarios -/

/-- An observation of an expectation to hold, in a stage. -/
def ObservedIn (expectation : ControlPlaneVerificationExpectation)
    (stage : ControlPlaneExecutionStage) (observation : Option RuntimeControlPlaneVerification) :
    Prop :=
  ∃ item, observation = some item ∧ item.expectationId = expectation.id ∧ item.stage = stage ∧
    item.status = .verified

/-- The runtime answered that a change was applied. -/
def ReportedApplied (mutation : Option RuntimeActionMutation) : Prop :=
  ∃ m, mutation = some m ∧ m.applied = true

/-- What the execution of a scenario shows when it is verified. -/
structure ScenarioWitnessed (scenario : LinkFailureScenario)
    (failure recovery : ControlPlaneVerificationExpectation)
    (runtime : RuntimeFailureScenarioResult) : Prop where
  answered : runtime.scenarioId = scenario.id
  before : ObservedIn failure .behavior runtime.before
  injected : ReportedApplied runtime.injection
  during : ObservedIn failure .failover runtime.during
  attempted : runtime.restoreAttempted = true
  restored : ReportedApplied runtime.restore
  after : ObservedIn recovery .restore runtime.after
  /-- Transitions that are reported are numbered, in time and in canonical order. -/
  ordered : invalidTransitions runtime.transitions = false

/-- What the result of an executed scenario says about its execution. -/
structure Judged (scenario : LinkFailureScenario)
    (failure recovery : ControlPlaneVerificationExpectation)
    (answer : Except String RuntimeFailureScenarioResult) (result : FailureScenarioResult) :
    Prop where
  own : result.scenarioId = scenario.id
  cases : result.status = .failed ∨ result.status = .verified ∧
    ∃ runtime, answer = .ok runtime ∧ ScenarioWitnessed scenario failure recovery runtime
  /-- A fault that was left to stand is reported as such. -/
  abandoned : (∀ runtime, answer = .ok runtime →
      runtime.scenarioId = scenario.id ∧ abandonedFault runtime = true) →
    result.failureCode = .cleanupFailed

variable {context : VerificationContext} {statuses : StatusMap} {scenario : LinkFailureScenario}
  {failure recovery : ControlPlaneVerificationExpectation}
  {runtime : RuntimeFailureScenarioResult} {mutation : Option RuntimeActionMutation}

lemma observedIn_of_kept {observation : Option RuntimeControlPlaneVerification}
    (h : evidenceStatus observation = .verified)
    (hkept : violatesContract observation expectation.id stage = false) :
    ObservedIn expectation stage observation := by
  obtain ⟨item, rfl, hstatus⟩ := exists_of_evidenceStatus h
  obtain ⟨hid, hstage⟩ := of_not_violatesContract hkept
  exact ⟨item, rfl, hid, hstage, hstatus⟩

/-- The evidence of a verified scenario. -/
lemma ScenarioHeld.witnessed (h : ScenarioHeld runtime) (hid : runtime.scenarioId = scenario.id)
    (herrors : contractErrors failure recovery runtime = []) :
    ScenarioWitnessed scenario failure recovery runtime := by
  obtain ⟨hbefore, hduring, hafter, hordered⟩ := kept_of_contractErrors herrors
  obtain ⟨habandoned, hfailed⟩ := h.restored
  have hinjected : ReportedApplied runtime.injection := by
    have hstatus := h.injected
    rcases hinjection : runtime.injection with _ | m
    · simp [injectionStatus, hinjection, satisfiesApplyDependency] at hstatus
    rw [injectionStatus, hinjection, Option.map_some, Option.getD_some,
      satisfiesApplyDependency_mutationExecutionStatus] at hstatus
    exact ⟨m, rfl, hstatus⟩
  have hattempted : runtime.restoreAttempted = true := by
    obtain ⟨m, hinjection, happlied⟩ := hinjected
    simpa [abandonedFault, hinjection, happlied] using habandoned
  have hrestored : ReportedApplied runtime.restore := by
    simp only [failedRestore, hattempted, Bool.true_and, Bool.not_eq_false'] at hfailed
    cases hrestore : runtime.restore with
    | none => simp [restoreStatus, hrestore, hattempted, satisfiesApplyDependency] at hfailed
    | some m =>
      rw [restoreStatus, hrestore, satisfiesApplyDependency_mutationExecutionStatus] at hfailed
      exact ⟨m, rfl, hfailed⟩
  exact
    { answered := hid
      before := observedIn_of_kept h.before hbefore
      injected := hinjected
      during := observedIn_of_kept h.during hduring
      attempted := hattempted
      restored := hrestored
      after := observedIn_of_kept h.after hafter
      ordered := hordered }

lemma failureCode_of_abandonedFault (hid : runtime.scenarioId = scenario.id)
    (h : abandonedFault runtime = true) :
    (scenarioResult scenario failure recovery runtime).failureCode = .cleanupFailed := by
  rw [scenarioResult, if_neg (not_not.mpr hid)]
  by_cases herrors : contractErrors failure recovery runtime = []
  · simp [herrors, scenarioOutcome, h]
  · simp [herrors, h]

lemma kind_of_boundExpectation {kind : ControlPlaneVerificationKind}
    (h : boundExpectation plan scenario kind = some expectation) : expectation.kind = kind := by
  unfold boundExpectation at h
  simpa using List.find?_some h

/-- **One scenario.**  Its result says what its execution shows. -/
lemma judged_answerResult (answer : Except String RuntimeFailureScenarioResult) :
    Judged scenario failure recovery answer
      (answerResult context statuses scenario failure recovery answer) := by
  rcases answer with message | runtime
  · exact ⟨rfl, Or.inl rfl, fun _ => rfl⟩
  refine ⟨scenarioId_scenarioResult, ?_, fun h => ?_⟩
  · refine scenarioResult_cases.imp_right fun ⟨hverified, hid, herrors, hheld⟩ => ?_
    rw [gatedRecovery_eq hheld.after] at hid herrors hheld
    exact ⟨hverified, runtime, rfl, hheld.witnessed hid herrors⟩
  · obtain ⟨hid, habandoned⟩ := h runtime rfl
    obtain ⟨hgated, -, -⟩ := spec_gatedRecovery context statuses failure recovery runtime
    have hfault : abandonedFault (gatedRecovery context statuses failure recovery runtime) =
        abandonedFault runtime := by
      unfold gatedRecovery
      simp only
      split <;> rfl
    exact failureCode_of_abandonedFault (hgated.trans hid) (hfault.trans habandoned)

/-- **The verdict about scenarios.**  A scenario is verified only when its execution shows a fault
that was applied and undone and the observations of its stages; any other execution is reported as
failed, and as a failed cleanup where it raised or left an applied fault to stand. -/
theorem scenarios_judged (applicator : ControlPlaneApplicator) (plan : ControlPlanePlan)
    (request : ControlPlaneRequest) {report : ControlPlaneApplicationResult}
    {trace : List ControlPlaneEvent}
    (hrun : (applicator.apply plan request).run [] = (.ok report, trace)) :
    (∀ result ∈ report.scenarioResults, result.status = .verified →
      ∃ scenario failure recovery runtime,
        .executeFailureScenario scenario failure recovery (.ok runtime) ∈ trace ∧
        result.scenarioId = scenario.id ∧ failure.kind = .linkFailureConvergence ∧
        recovery.kind = .restoreRecovery ∧
        ScenarioWitnessed scenario failure recovery runtime) ∧
    ∀ scenario failure recovery answer,
      .executeFailureScenario scenario failure recovery answer ∈ trace →
        ∃ result ∈ report.scenarioResults, Judged scenario failure recovery answer result := by
  rcases ensures_apply.of_run_eq_ok hrun with ⟨⟨-, -, hnone, -⟩, hunexecuted, -⟩ | ⟨run, h⟩
  · refine ⟨by simp [hnone], fun scenario failure recovery answer hevent => ?_⟩
    exact absurd rfl (hunexecuted _ hevent scenario failure recovery answer)
  obtain ⟨-, -, hscenarios⟩ := spec_applicationResult h.report
  rw [hscenarios]
  constructor
  · intro result hresult hverified
    obtain ⟨scenario, -, hevidence⟩ := exists_scenarioEvidence h.verified.scenarios hresult
    rcases hevidence
        with ⟨statuses, _, hgate⟩ | ⟨statuses, failure, recovery, answer, hgate, hanswer⟩
    · obtain ⟨-, hstatus⟩ := spec_of_scenarioGate hgate
      simp [hverified, incomplete] at hstatus
    obtain ⟨hfailure, hrecovery⟩ := boundExpectation_of_scenarioGate hgate
    have hjudged : Judged scenario failure recovery answer (answerResult
        (run.context request) statuses scenario failure recovery answer) :=
      judged_answerResult answer
    obtain ⟨-, runtime, rfl, hwitnessed⟩ :=
      hjudged.cases.resolve_left (fun hfailed => by simp [hfailed] at hverified)
    refine ⟨scenario, failure, recovery, runtime, hanswer, hjudged.own, ?_, ?_, hwitnessed⟩
    · exact kind_of_boundExpectation hfailure
    · exact kind_of_boundExpectation hrecovery
  · intro scenario failure recovery answer hevent
    obtain ⟨statuses, hmem⟩ := h.verified.executions scenario failure recovery answer hevent
    exact ⟨_, hmem, judged_answerResult answer⟩

/-- The run in which a scenario recovers. -/
theorem scenarios_judged_watched :
    ∃ report trace, (watchedApplicator.apply watchedPlan (routerRequest none [])).run [] =
        (.ok report, trace) ∧ ∃ result ∈ report.scenarioResults, ∃ scenario failure recovery
          runtime, .executeFailureScenario scenario failure recovery (.ok runtime) ∈ trace ∧
            result.scenarioId = scenario.id ∧
            ScenarioWitnessed scenario failure recovery runtime := by
  obtain ⟨report, trace, hrun, hreport⟩ := exists_of_returns
    (p := fun report trace => ∃ result ∈ report.scenarioResults, result.status = .verified)
    (show returns _ ((watchedApplicator.apply watchedPlan (routerRequest none [])).run []) = true by
      decide)
  obtain ⟨result, hresult, hverified⟩ := of_decide_eq_true hreport
  obtain ⟨scenario, failure, recovery, runtime, hevent, hid, -, -, hwitnessed⟩ :=
    (scenarios_judged watchedApplicator watchedPlan (routerRequest none []) hrun).1 result hresult
      hverified
  exact ⟨report, trace, hrun, result, hresult, scenario, failure, recovery, runtime, hevent, hid,
    hwitnessed⟩

/-- A runtime that applies a fault and leaves it. -/
def leavingApplicator : ControlPlaneApplicator :=
  routerApplicator (routerRuntime [] (verifiedEvidence .observed) fun scenario =>
    .ok { scenarioId := scenario.id, injection := some { actionId := "fault", applied := true } })

/-- An exchange in which a fault was applied and no restore was attempted. -/
def leavesFault : ControlPlaneEvent → Bool
  | .executeFailureScenario _ _ _ (.ok runtime) => abandonedFault runtime
  | _ => false

/-- An applied fault need not be followed by a restore. -/
theorem not_forall_restoreAttempted :
    ¬∀ (applicator : ControlPlaneApplicator) (plan : ControlPlanePlan)
      (request : ControlPlaneRequest) (report : ControlPlaneApplicationResult)
      (trace : List ControlPlaneEvent),
      (applicator.apply plan request).run [] = (.ok report, trace) →
        ∀ event ∈ trace, leavesFault event = false := by
  intro hall
  obtain ⟨report, trace, hrun, hreport⟩ := exists_of_returns
    (p := fun report trace => ∃ event ∈ trace, leavesFault event = true)
    (show returns _ ((leavingApplicator.apply watchedPlan (routerRequest none [])).run []) = true by
      decide)
  obtain ⟨event, hevent, hleft⟩ := of_decide_eq_true hreport
  simp [hall leavingApplicator watchedPlan (routerRequest none []) report trace hrun event hevent]
    at hleft

end ControlPlaneApplicator
end PacketTracer
