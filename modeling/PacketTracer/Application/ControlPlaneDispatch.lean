import PacketTracer.Application.ConfigurationAcceptance
import PacketTracer.Application.ControlPlaneFrontier

/-!
# Results and dispatches of a control-plane application

Every result of a stage or a scenario is a refusal or what the runtime answered.  No action is
dispatched twice, each is dispatched after its dependencies were applied, and an action of the
mutation scope stays undispatched exactly when it was refused or a transitive dependency of it was
refused or failed.
-/

namespace PacketTracer

open Dicts Interactions Relation

open Interaction (ensures_bind ensures_exchange ensures_pure ensures_ofExcept ensures_loop)

namespace ControlPlaneApplicator

/-! ## Stages -/

/-- A result of a stage: a gate refused to verify the expectation, or the runtime was asked about
it and its answer is the evidence. -/
inductive StageEvidence (stage : ControlPlaneExecutionStage) (trace : List ControlPlaneEvent)
    (expectation : ControlPlaneVerificationExpectation) : ControlPlaneVerificationResult → Prop
  | gated (context : VerificationContext) (statuses : StatusMap)
      (item : RuntimeControlPlaneVerification)
      (hgate : gatedVerification context stage statuses expectation = some item) :
      StageEvidence stage trace expectation (verificationResult expectation item stage)
  | observed (answer : Except String (List RuntimeControlPlaneVerification))
      (hanswer : .verify [expectation] answer ∈ trace) :
      StageEvidence stage trace expectation
        (verificationResult expectation (observedVerification expectation stage answer) stage)

/-- The result of an expectation that no scenario is bound to: nothing was observed. -/
def UnboundEvidence (expectation : ControlPlaneVerificationExpectation)
    (result : ControlPlaneVerificationResult) : Prop :=
  ∃ item : RuntimeControlPlaneVerification,
    (item.status = .dependencyBlocked ∨ item.status = .unobservable) ∧
      result = verificationResult expectation item (scenarioStage expectation.kind)

section Stages

variable {stage : ControlPlaneExecutionStage} {trace trace' : List ControlPlaneEvent}
  {expectation : ControlPlaneVerificationExpectation} {context : VerificationContext}
  {statuses : StatusMap} {applicator : ControlPlaneApplicator} {scan : VerificationScan}
  {kinds : List ControlPlaneVerificationKind} {result : ControlPlaneVerificationResult}
  {item : RuntimeControlPlaneVerification}

@[simp] lemma expectationId_verificationResult :
    (verificationResult expectation item stage).expectationId = expectation.id := by
  unfold verificationResult
  split <;> rfl

lemma status_verificationResult : (verificationResult expectation item stage).status =
    if item.stage = stage then item.status else .unknown := by
  unfold verificationResult
  by_cases hstage : item.stage = stage <;> simp [hstage]

lemma StageEvidence.mono (h : StageEvidence stage trace expectation result)
    (htrace : ∀ event ∈ trace, event ∈ trace') : StageEvidence stage trace' expectation result := by
  cases h with
  | gated context statuses item hgate => exact .gated context statuses item hgate
  | observed answer hanswer => exact .observed answer (htrace _ hanswer)

lemma status_of_gatedVerification
    (h : gatedVerification context stage statuses expectation = some item) :
    item.status = .dependencyBlocked ∨ item.status = .unobservable := by
  unfold gatedVerification at h
  simp only at h
  split at h
  · rw [← Option.some.inj h]
    exact Or.inl rfl
  · split at h
    · rw [← Option.some.inj h]
      exact Or.inr rfl
    · cases h

/-- What a stage has established after some of its expectations. -/
structure StageProgress (stage : ControlPlaneExecutionStage) (start : List ControlPlaneEvent)
    (done : List ControlPlaneVerificationExpectation) (scan : VerificationScan)
    (trace : List ControlPlaneEvent) : Prop where
  extends_ : ExtendsBy (fun event => ∃ expectations answer, event = .verify expectations answer)
    start trace
  results : List.Forall₂ (StageEvidence stage trace) done scan.results

lemma StageProgress.add {start : List ControlPlaneEvent}
    {done : List ControlPlaneVerificationExpectation}
    (h : StageProgress stage start done scan trace)
    (hextends : ExtendsBy (fun event => ∃ expectations answer, event = .verify expectations answer)
      trace trace') (hresult : StageEvidence stage trace' expectation result) :
    StageProgress stage start (done ++ [expectation]) (scan.add result) trace' := by
  refine ⟨h.extends_.trans hextends, ?_⟩
  have hold : List.Forall₂ (StageEvidence stage trace') done scan.results :=
    h.results.imp fun _ _ hevidence => hevidence.mono fun _ hevent => hextends.mem hevent
  exact List.rel_append hold (.cons hresult .nil)

lemma ensures_verifyExpectation {start : List ControlPlaneEvent}
    {done : List ControlPlaneVerificationExpectation}
    (h : StageProgress stage start done scan trace) :
    (applicator.verifyExpectation context stage scan expectation).Ensures trace
      (StageProgress stage start (done ++ [expectation])) fun _ _ => False := by
  unfold verifyExpectation
  split
  · rename_i item hitem
    exact h.add (.refl trace) (.gated context _ item hitem)
  · simp only [ensures_bind, ensures_exchange, ensures_pure]
    exact h.add (ExtendsBy.concat (.refl trace) ⟨_, _, rfl⟩) (.observed _ (by simp))

lemma ensures_verifyStage :
    (applicator.verifyStage context kinds stage statuses).Ensures trace
      (StageProgress stage trace
        (context.plan.verificationExpectations.filter (·.kind ∈ kinds))) fun _ _ => False := by
  refine ensures_loop (I := StageProgress stage trace) ⟨.refl trace, .nil⟩ ?_
  intro done expectation _ scan trace' h
  exact ensures_verifyExpectation h

lemma status_unboundVerification :
    (unboundVerification context statuses expectation).status = .dependencyBlocked ∨
      (unboundVerification context statuses expectation).status = .unobservable := by
  unfold unboundVerification
  simp only
  split
  · exact Or.inl rfl
  · exact Or.inr rfl

/-- The expectations about scenarios that no scenario is bound to. -/
def unboundExpectations (plan : ControlPlanePlan) : List ControlPlaneVerificationExpectation :=
  plan.verificationExpectations.filter fun item =>
    item.kind ∈ scenarioKinds ∧ item.id ∉
      plan.failureScenarios.flatMap LinkFailureScenario.verificationExpectationIds

/-- The expectations that no scenario is bound to have results without evidence. -/
lemma unboundEvidence_unboundFailoverResults :
    List.Forall₂ UnboundEvidence (unboundExpectations context.plan)
      (unboundFailoverResults context statuses).results := by
  suffices hfold : ∀ (rest done : List ControlPlaneVerificationExpectation)
      (scan : VerificationScan), List.Forall₂ UnboundEvidence done scan.results →
      List.Forall₂ UnboundEvidence (done ++ rest) (rest.foldl (addUnbound context) scan).results by
    exact hfold (unboundExpectations context.plan) [] { statuses := statuses } .nil
  intro rest
  induction rest with
  | nil =>
    intro done scan h
    simpa using h
  | cons expectation rest ih =>
    intro done scan h
    have hnext : List.Forall₂ UnboundEvidence (done ++ [expectation])
        (addUnbound context scan expectation).results :=
      List.rel_append h (.cons ⟨_, status_unboundVerification, rfl⟩ .nil)
    simpa using ih (done ++ [expectation]) (addUnbound context scan expectation) hnext

end Stages

/-! ## Scenarios -/

/-- The result that an answer of the runtime gives a scenario. -/
def answerResult (context : VerificationContext) (statuses : StatusMap)
    (scenario : LinkFailureScenario) (failure recovery : ControlPlaneVerificationExpectation) :
    Except String RuntimeFailureScenarioResult → FailureScenarioResult
  | .error message => raisedScenario scenario message
  | .ok runtime => scenarioResult scenario failure recovery
      (gatedRecovery context statuses failure recovery runtime)

/-- A result of a scenario: a gate refused to execute it, or the runtime executed it. -/
inductive ScenarioEvidence (context : VerificationContext)
    (inventory : Dict String RuntimeConfigurationTarget) (trace : List ControlPlaneEvent)
    (scenario : LinkFailureScenario) : FailureScenarioResult → Prop
  | gated (statuses : StatusMap) (result : FailureScenarioResult)
      (hgate : scenarioGate context inventory statuses scenario = .error result) :
      ScenarioEvidence context inventory trace scenario result
  | executed (statuses : StatusMap) (failure recovery : ControlPlaneVerificationExpectation)
      (answer : Except String RuntimeFailureScenarioResult)
      (hgate : scenarioGate context inventory statuses scenario = .ok (failure, recovery))
      (hanswer : .executeFailureScenario scenario failure recovery answer ∈ trace) :
      ScenarioEvidence context inventory trace scenario
        (answerResult context statuses scenario failure recovery answer)

/-- Every execution of a scenario has its result among the given ones. -/
def RecordsExecutions (context : VerificationContext) (trace : List ControlPlaneEvent)
    (results : List FailureScenarioResult) : Prop :=
  ∀ scenario failure recovery answer,
    ControlPlaneEvent.executeFailureScenario scenario failure recovery answer ∈ trace →
      ∃ statuses, answerResult context statuses scenario failure recovery answer ∈ results

/-- No scenario was executed. -/
def Unexecuted (trace : List ControlPlaneEvent) : Prop :=
  ∀ event ∈ trace, ∀ scenario failure recovery answer,
    event ≠ .executeFailureScenario scenario failure recovery answer

section Scenarios

variable {context : VerificationContext} {inventory : Dict String RuntimeConfigurationTarget}
  {trace trace' : List ControlPlaneEvent} {scenario : LinkFailureScenario}
  {result : FailureScenarioResult} {statuses : StatusMap} {applicator : ControlPlaneApplicator}
  {scan : ScenarioScan}

lemma ScenarioEvidence.mono (h : ScenarioEvidence context inventory trace scenario result)
    (htrace : ∀ event ∈ trace, event ∈ trace') :
    ScenarioEvidence context inventory trace' scenario result := by
  cases h with
  | gated statuses result hgate => exact .gated statuses _ hgate
  | executed statuses failure recovery answer hgate hanswer =>
    exact .executed statuses failure recovery answer hgate (htrace _ hanswer)

lemma results_scanAnswer {failure recovery : ControlPlaneVerificationExpectation}
    {answer : Except String RuntimeFailureScenarioResult} :
    (scanAnswer context scan scenario failure recovery answer).results =
      scan.results ++ [answerResult context scan.statuses scenario failure recovery answer] := by
  cases answer <;> rfl

/-- What the execution of the scenarios has established after some of them. -/
structure ScenarioProgress (context : VerificationContext)
    (inventory : Dict String RuntimeConfigurationTarget) (start : List ControlPlaneEvent)
    (done : List LinkFailureScenario) (scan : ScenarioScan) (trace : List ControlPlaneEvent) :
    Prop where
  extends_ : ExtendsBy (fun event => event.dispatched = []) start trace
  results : List.Forall₂ (ScenarioEvidence context inventory trace) done scan.results
  executions : RecordsExecutions context trace scan.results

/-- One iteration of the execution of scenarios. -/
lemma ensures_executeScenario {start : List ControlPlaneEvent} {done : List LinkFailureScenario}
    (h : ScenarioProgress context inventory start done scan trace) :
    (applicator.executeScenario context inventory scan scenario).Ensures trace
      (ScenarioProgress context inventory start (done ++ [scenario])) fun _ _ => False := by
  unfold executeScenario
  split
  · rename_i result hgate
    refine ⟨h.extends_, List.rel_append h.results (.cons (.gated _ result hgate) .nil), ?_⟩
    intro scenario' failure recovery answer hevent
    obtain ⟨statuses, hmem⟩ := h.executions scenario' failure recovery answer hevent
    exact ⟨statuses, List.mem_append_left _ hmem⟩
  · rename_i failure recovery hgate
    simp only [ensures_bind, ensures_exchange, ensures_pure]
    refine ⟨h.extends_.concat rfl, ?_, ?_⟩
    · rw [results_scanAnswer]
      have hold := h.results.imp fun _ _ hevidence =>
        hevidence.mono fun event (hevent : event ∈ trace) => List.mem_append_left
          [ControlPlaneEvent.executeFailureScenario scenario failure recovery
            (applicator.runtime.executeFailureScenario trace scenario failure recovery)] hevent
      exact List.rel_append hold (.cons (.executed _ failure recovery _ hgate (by simp)) .nil)
    · intro scenario' failure' recovery' answer hevent
      rw [results_scanAnswer]
      rcases List.mem_append.mp hevent with hevent | hevent
      · obtain ⟨statuses, hmem⟩ := h.executions scenario' failure' recovery' answer hevent
        exact ⟨statuses, List.mem_append_left _ hmem⟩
      · simp only [List.mem_singleton, ControlPlaneEvent.executeFailureScenario.injEq] at hevent
        obtain ⟨rfl, rfl, rfl, rfl⟩ := hevent
        exact ⟨scan.statuses, by simp⟩

lemma ensures_executeScenarios (hstart : Unexecuted trace) :
    (applicator.executeScenarios context inventory statuses).Ensures trace
      (fun results trace' => ExtendsBy (fun event => event.dispatched = []) trace trace' ∧
        List.Forall₂ (ScenarioEvidence context inventory trace') context.plan.failureScenarios
          results ∧ RecordsExecutions context trace' results) fun _ _ => False := by
  unfold executeScenarios
  rw [ensures_bind]
  refine (ensures_loop (I := ScenarioProgress context inventory trace) ?_ ?_).mono
    (fun scan trace' h => ⟨h.extends_, h.results, h.executions⟩) fun _ _ hE => hE
  · refine ⟨.refl trace, .nil, fun scenario failure recovery answer hevent => ?_⟩
    exact absurd rfl (hstart _ hevent scenario failure recovery answer)
  · intro done scenario _ scan trace' h
    exact ensures_executeScenario h

end Scenarios

/-! ## The whole application -/

/-- What the verification of an accepted plan establishes. -/
structure VerifiedSpec (context : VerificationContext)
    (inventory : Dict String RuntimeConfigurationTarget) (start trace : List ControlPlaneEvent)
    (outcome : ControlPlaneOutcome) : Prop where
  extends_ : ExtendsBy (fun event => event.dispatched = []) start trace
  observed : List.Forall₂ (StageEvidence .observed trace)
    (context.plan.verificationExpectations.filter (·.kind ∈ observedKinds)) outcome.observedResults
  behavior : List.Forall₂ (StageEvidence .behavior trace)
    (context.plan.verificationExpectations.filter (·.kind ∈ behaviorKinds)) outcome.behaviorResults
  failover : List.Forall₂ UnboundEvidence (unboundExpectations context.plan)
    outcome.failoverResults
  scenarios : List.Forall₂ (ScenarioEvidence context inventory trace)
    context.plan.failureScenarios outcome.scenarioResults
  executions : RecordsExecutions context trace outcome.scenarioResults

/-- The states that an accepted application goes through. -/
structure AppliedRun where
  prepared : PreparedControlPlane
  /-- The history when the plan was accepted. -/
  start : List ControlPlaneEvent
  /-- The state and the history when the main loop was left. -/
  final : FrontierState
  between : List ControlPlaneEvent
  outcome : ControlPlaneOutcome

/-- What the verification of a run read. -/
def AppliedRun.context (run : AppliedRun) (request : ControlPlaneRequest) : VerificationContext :=
  verificationContext request run.prepared run.outcome.actionResults

/-- What an accepted application establishes. -/
structure AppliedSpec (applicator : ControlPlaneApplicator) (plan : ControlPlanePlan)
    (request : ControlPlaneRequest) (run : AppliedRun) (report : ControlPlaneApplicationResult)
    (trace : List ControlPlaneEvent) : Prop where
  preflight : (applicator.preflight plan request).run [] = (.ok (.ok run.prepared), run.start)
  accepted : AcceptedControlPlane plan run.prepared
  loop : (applicator.frontierLoop run.prepared.plan.actions.length
    (initialFrontier run.prepared.plan run.prepared.profiles run.prepared.scope)).run run.start =
      (.ok run.final, run.between)
  invariant : FrontierInvariant run.prepared.plan.actions run.prepared.profiles run.prepared.scope
    run.final run.between
  settled : run.final.pending = []
  results : (run.prepared.plan.actions.map ControlPlaneAction.id).map run.final.results.get? =
    run.outcome.actionResults.map some
  verified : VerifiedSpec (run.context request) run.prepared.inventory run.between trace
    run.outcome
  report : applicationResult plan request run.prepared.scope.mutationIds run.outcome = .ok report

/-- The report of a refused preflight. -/
def RefusedReport (report : ControlPlaneApplicationResult) : Prop :=
  report.status = .failed ∧ report.dirtyState = .clean ∧ report.scenarioResults = [] ∧
    report.observedResults ++ report.behaviorResults ++ report.failoverResults = []

section Apply

variable {applicator : ControlPlaneApplicator} {plan : ControlPlanePlan}
  {request : ControlPlaneRequest} {prepared : PreparedControlPlane}
  {trace : List ControlPlaneEvent} {context : VerificationContext}
  {inventory : Dict String RuntimeConfigurationTarget}
  {actionResults : List ActionApplicationResult}

/-- What the verification establishes after a history without scenarios. -/
lemma ensures_verifyPrepared (hstart : Unexecuted trace) :
    (applicator.verifyPrepared context inventory actionResults).Ensures trace
      (fun outcome trace' => outcome.actionResults = actionResults ∧
        VerifiedSpec context inventory trace trace' outcome) fun _ _ => False := by
  have hverify : ∀ {start trace' : List ControlPlaneEvent},
      ExtendsBy (fun event => ∃ expectations answer, event = .verify expectations answer)
        start trace' → Unexecuted start → Unexecuted trace' := by
    intro start trace' hextends hstart event hevent scenario failure recovery answer heq
    rcases hextends.mem_or hevent with hevent | ⟨expectations, answer', rfl⟩
    · exact hstart event hevent scenario failure recovery answer heq
    · cases heq
  have hquiet : ∀ {start trace' : List ControlPlaneEvent},
      ExtendsBy (fun event => ∃ expectations answer, event = .verify expectations answer)
        start trace' → QuietlyExtends start trace' := fun hextends =>
    hextends.mono fun event ⟨_, _, heq⟩ => heq ▸ rfl
  unfold verifyPrepared
  simp only [ensures_bind]
  refine ensures_verifyStage.imp fun observed trace₁ hobserved => ?_
  refine ensures_verifyStage.imp fun behavior trace₂ hbehavior => ?_
  have hunexecuted := hverify hbehavior.extends_ (hverify hobserved.extends_ hstart)
  refine (ensures_executeScenarios hunexecuted).imp fun scenarios trace₃ hscenarios => ?_
  obtain ⟨hextends, hresults, hexecutions⟩ := hscenarios
  have hlater : ∀ event ∈ trace₂, event ∈ trace₃ := fun event hevent => hextends.mem hevent
  refine ⟨rfl, ?_⟩
  exact
    { extends_ := ((hquiet hobserved.extends_).trans (hquiet hbehavior.extends_)).trans hextends
      observed := hobserved.results.imp fun _ _ hevidence =>
        hevidence.mono fun event hevent => hlater event (hbehavior.extends_.mem hevent)
      behavior := hbehavior.results.imp fun _ _ hevidence => hevidence.mono hlater
      failover := unboundEvidence_unboundFailoverResults
      scenarios := hresults
      executions := hexecutions }

lemma exists_applicationResult (plan : ControlPlanePlan) (request : ControlPlaneRequest)
    (mutationIds : List String) (outcome : ControlPlaneOutcome) :
    ∃ report, applicationResult plan request mutationIds outcome = .ok report := by
  obtain ⟨journal, hjournal, -, -⟩ := exists_journalFromActionResults plan.id request.deploymentId
    plan.actions (outcome.actionResults.filter (·.actionId ∈ mutationIds))
  simp [applicationResult, hjournal, Except.mapError, bind, Except.bind, pure, Except.pure]

/-- What `apply` establishes after an accepted preflight. -/
lemma ensures_applyPrepared (haccepted : AcceptedControlPlane plan prepared)
    (htrace : trace = [] ∨ ∃ answer, trace = [.inventory answer])
    (hpreflight : (applicator.preflight plan request).run [] = (.ok (.ok prepared), trace)) :
    (applicator.applyPrepared plan request prepared).Ensures trace
      (fun report trace' => ∃ run, AppliedSpec applicator plan request run report trace')
      fun _ _ => False := by
  have hplan := haccepted.frontierPlan
  have hinitial := frontierInvariant_initial prepared.profiles hplan htrace
  have hloop := ensures_frontierLoop applicator hplan
    prepared.plan.actions.length hinitial List.filter_sublist.length_le
  unfold applyPrepared applyActions
  simp only [ensures_bind]
  refine hloop.and_run.imp fun final between hfinal => ?_
  obtain ⟨⟨hinvariant, hpending⟩, hrun⟩ := hfinal
  have hsettled : ∀ k ∈ prepared.plan.actions.map ControlPlaneAction.id,
      (final.results.get? k).isSome := by
    intro k hk
    obtain ⟨action, haction, rfl⟩ := List.mem_map.mp hk
    exact (hinvariant.settled action haction).mp (by simp [hpending])
  have hunexecuted : Unexecuted between := by
    intro event hevent scenario failure recovery answer heq
    rcases hinvariant.asked event hevent with ⟨answer', rfl⟩ | ⟨batch, answer', rfl⟩
    · cases heq
    · cases heq
  refine ensures_subscripts hsettled fun actionResults hresults => ?_
  refine (ensures_verifyPrepared hunexecuted).imp fun outcome trace' houtcome => ?_
  obtain ⟨rfl, hverified⟩ := houtcome
  obtain ⟨report, hreport⟩ := exists_applicationResult plan request
    prepared.scope.mutationIds outcome
  rw [ensures_ofExcept]
  refine ⟨fun report' hreport' => ⟨⟨prepared, trace, final, between, outcome⟩, ?_⟩,
    fun e he => by simp [hreport] at he⟩
  exact
    { preflight := hpreflight
      accepted := haccepted
      loop := hrun
      invariant := hinvariant
      settled := hpending
      results := hresults
      verified := hverified
      report := hreport' }

/-- The report of a refused preflight exists, and shows no residue. -/
lemma exists_preflightFailure (plan : ControlPlanePlan) (request : ControlPlaneRequest)
    (refusal : Refusal) :
    ∃ report, preflightFailure plan request refusal = .ok report ∧ RefusedReport report := by
  obtain ⟨journal, hjournal, hunjudged, hentries⟩ := exists_journalFromActionResults plan.id
    request.deploymentId plan.actions []
  have hmarked : ∀ (messages : List String) (journal : ApplicationExecutionJournal),
      journal.Unjudged → journal.entries = [] →
      (messages.foldl ApplicationExecutionJournal.markPreflightFailure journal).dirtyState =
        .clean := by
    intro messages
    induction messages with
    | nil =>
      intro journal h hnil
      rw [List.foldl_nil, h.dirtyState, hnil]
      rfl
    | cons message messages ih =>
      intro journal h hnil
      exact ih _ (h.markPreflightFailure message) hnil
  unfold preflightFailure
  rw [hjournal]
  exact ⟨_, rfl, rfl, hmarked refusal.messages journal hunjudged hentries, rfl, rfl⟩

/-- **A run of `apply`.**  It never raises: the preflight was refused, or the application
established `AppliedSpec`. -/
lemma ensures_apply :
    (applicator.apply plan request).Ensures []
      (fun report trace =>
        (RefusedReport report ∧ Unexecuted trace ∧ ∃ refusal start,
          (applicator.preflight plan request).run [] = (.ok (.error refusal), start)) ∨
        ∃ run, AppliedSpec applicator plan request run report trace)
      fun _ _ => False := by
  unfold apply
  refine ensures_preflight.and_run.bind fun preflight trace hpreflight => ?_
  obtain ⟨⟨htrace, haccepted⟩, hrun⟩ := hpreflight
  cases preflight with
  | error refusal =>
    obtain ⟨report, hreport, hrefused⟩ := exists_preflightFailure plan request refusal
    rw [ensures_ofExcept]
    refine ⟨fun report' hreport' => Or.inl ⟨?_, ?_, refusal, trace, hrun⟩,
      fun e he => by simp [hreport] at he⟩
    · cases hreport.symm.trans hreport'
      exact hrefused
    · rintro event hevent scenario failure recovery answer rfl
      rcases htrace with rfl | ⟨answer', rfl⟩ <;> simp at hevent
  | ok prepared =>
    exact (ensures_applyPrepared (haccepted prepared rfl) htrace hrun).mono
      (fun report trace' h => Or.inr h) fun _ _ hE => hE

end Apply

section Causes

variable {actions deployed : List ControlPlaneAction} {profiles : CapabilityProfiles}
  {scope : MutationScope} {state : FrontierState} {trace trace' : List ControlPlaneEvent}
  {k : String} {action : ControlPlaneAction}

lemma refused_eq_of_core {action' : ControlPlaneAction} (h : action'.core = action.core)
    (mutationIds : List String) :
    refused profiles mutationIds action' = refused profiles mutationIds action := by
  have hmodel : action'.model = action.model := (congrArg ControlPlaneAction.model h :)
  have hcapability : action'.requiredCapability = action.requiredCapability :=
    (congrArg ControlPlaneAction.requiredCapability h :)
  rw [refused, refused, id_eq_of_core h, hmodel, hcapability]

lemma blockedBy_of_core (h : deployed.map ControlPlaneAction.core =
    actions.map ControlPlaneAction.core) (hfailed : ∀ k, Failed trace k → Failed trace' k)
    (hblocked : BlockedBy deployed profiles scope trace k) :
    BlockedBy actions profiles scope trace' k := by
  obtain ⟨root, hroot, hpath, hcause⟩ := hblocked
  obtain ⟨root', hroot', hcore⟩ := exists_core_eq h hroot
  refine ⟨root', hroot', ?_, ?_⟩
  · rw [id_eq_of_core hcore, ← depends_eq_of_core h]
    exact hpath
  · rw [refused_eq_of_core hcore, id_eq_of_core hcore]
    exact hcause.imp_right (hfailed root.id)

section Frontier

variable (h : FrontierInvariant actions profiles scope state trace)
include h

/-- What an action with a satisfying result depends on has satisfying results. -/
lemma FrontierInvariant.satisfied_of_dependsOn (hplan : FrontierPlan actions scope)
    {d : String} (hk : satisfied state.results k = true) (hd : Depends actions k d) :
    satisfied state.results d = true := by
  obtain ⟨action, haction, rfl, hd⟩ := hd
  rcases (h.satisfied_iff action.id).mp hk with hretained | happlied
  · obtain ⟨result, hresult⟩ := Option.isSome_iff_exists.mp (isSome_of_satisfied hretained)
    have hmutation := (hplan.scope.retained action.id result hresult).2.2.1
    obtain ⟨dependency, hdependency, rfl⟩ := hplan.closed haction hd
    have hdmutation := (hplan.scope.unmutated action haction hmutation).2 dependency.id hd
    obtain ⟨dresult, hdresult⟩ := Option.isSome_iff_exists.mp
      (hplan.scope.unmutated dependency hdependency hdmutation).1
    have hstatus := (hplan.scope.retained dependency.id dresult hdresult).2.2.2
    exact (h.satisfied_iff dependency.id).mpr (Or.inl ((satisfied_of_get? hdresult).trans hstatus))
  · obtain ⟨action', haction', hid, -, -, -, hsatisfied⟩ :=
      h.dispatched action.id happlied.dispatched
    obtain rfl := hplan.eq_of_id haction' haction hid
    exact hsatisfied d hd

lemma FrontierInvariant.satisfied_of_transGen (hplan : FrontierPlan actions scope)
    {root : String} (hk : k ∈ dispatchedIds trace) (hpath : TransGen (Depends actions) k root) :
    satisfied state.results root = true := by
  obtain ⟨action, haction, rfl, -, -, -, hsatisfied⟩ := h.dispatched k hk
  induction hpath with
  | single hstep =>
    obtain ⟨action', haction', hid, hd⟩ := hstep
    obtain rfl := hplan.eq_of_id haction' haction hid
    exact hsatisfied _ hd
  | tail _ hstep ih => exact h.satisfied_of_dependsOn hplan ih hstep

/-- When nothing is pending, a mutation stays undispatched exactly when it was refused or
blocked. -/
lemma FrontierInvariant.notMem_dispatchedIds_iff
    (hplan : FrontierPlan actions scope) (hpending : state.pending = [])
    (haction : action ∈ actions) (hmutation : action.id ∈ scope.mutationIds) :
    action.id ∉ dispatchedIds trace ↔
      ControlPlaneApplicator.refused profiles scope.mutationIds action = true ∨
        BlockedBy actions profiles scope trace action.id := by
  constructor
  · intro hnot
    have hsome := (h.settled action haction).mp (by simp [hpending])
    rcases satisfied_or_unsatisfied hsome with hsatisfied | hunsatisfied
    · rcases (h.satisfied_iff action.id).mp hsatisfied with hretained | happlied
      · obtain ⟨result, hresult⟩ := Option.isSome_iff_exists.mp (isSome_of_satisfied hretained)
        exact absurd hmutation (hplan.scope.retained action.id result hresult).2.2.1
      · exact absurd happlied.dispatched hnot
    · rcases h.cause action haction hunsatisfied with hrefused | hfailed | hblocked
      · exact Or.inl hrefused
      · exact absurd hfailed.dispatched hnot
      · exact Or.inr hblocked
  · rintro (hrefused | ⟨root, hroot, hpath, hcause⟩) hdispatched
    · obtain ⟨action', haction', hid, -, hnot, -⟩ := h.dispatched action.id hdispatched
      obtain rfl := hplan.eq_of_id haction' haction hid
      simp [hrefused] at hnot
    · have hsatisfied := h.satisfied_of_transGen hplan hdispatched hpath
      have hunsatisfied : unsatisfied state.results root.id = true :=
        hcause.elim (h.refused root hroot) (h.failed root.id)
      simp [not_satisfied_of_unsatisfied hunsatisfied] at hsatisfied

lemma FrontierInvariant.mem_mutationIds (hk : k ∈ dispatchedIds trace) :
    k ∈ actions.map ControlPlaneAction.id ∧ k ∈ scope.mutationIds := by
  obtain ⟨action, haction, rfl, hmutation, -⟩ := h.dispatched k hk
  exact ⟨List.mem_map_of_mem haction, hmutation⟩

end Frontier

end Causes

/-- **Dispatch.**  After an accepted preflight `apply` returns.  Its main loop terminates: as many
iterations as there are actions, or any larger number of them, leave nothing pending.  Every
dispatched action is a mutation of the plan and is dispatched once, after its dependencies were
applied or retained with satisfying results.  A mutation stays undispatched exactly when it was
refused, or a transitive dependency of it was refused or failed. -/
theorem dispatched_iff_unblocked (applicator : ControlPlaneApplicator) (plan : ControlPlanePlan)
    (request : ControlPlaneRequest) {prepared : PreparedControlPlane}
    {start : List ControlPlaneEvent}
    (haccepted : (applicator.preflight plan request).run [] = (.ok (.ok prepared), start)) :
    ∃ report trace final between,
      (applicator.apply plan request).run [] = (.ok report, trace) ∧
      (∀ fuel, plan.actions.length ≤ fuel →
        (applicator.frontierLoop fuel
          (initialFrontier prepared.plan prepared.profiles prepared.scope)).run start =
            (.ok final, between)) ∧
      final.pending = [] ∧
      (dispatchedIds trace).Nodup ∧
      EachAfter (DependenciesApplied prepared.scope.retained) trace ∧
      (∀ k ∈ dispatchedIds trace,
        k ∈ plan.actions.map ControlPlaneAction.id ∧ k ∈ prepared.scope.mutationIds) ∧
      ∀ action ∈ plan.actions, action.id ∈ prepared.scope.mutationIds →
        (action.id ∉ dispatchedIds trace ↔
          refused prepared.profiles prepared.scope.mutationIds action = true ∨
            BlockedBy plan.actions prepared.profiles prepared.scope trace action.id) := by
  have happly : (applicator.apply plan request).Ensures [] _ _ := ensures_apply.and_run
  unfold Interaction.Ensures at happly
  cases hrun : (applicator.apply plan request).run [] with
  | mk result trace =>
    rw [hrun] at happly
    rcases result with e | report
    · exact happly.elim
    obtain ⟨⟨-, -, refusal, start', hrefused⟩ | ⟨run, h⟩, -⟩ := happly
    · rw [haccepted] at hrefused
      simp at hrefused
    · have hsame := haccepted.symm.trans h.preflight
      simp only [Prod.mk.injEq, Except.ok.injEq] at hsame
      obtain ⟨rfl, rfl⟩ := hsame
      have hplan := h.accepted.frontierPlan
      have hids := map_id_eq_of_core h.accepted.actions
      have hquiet := h.verified.extends_
      have hlength : run.prepared.plan.actions.length = plan.actions.length := by
        simpa using congrArg List.length hids
      refine ⟨report, trace, run.final, run.between, rfl, fun fuel hfuel => ?_, h.settled, ?_,
        ?_, ?_, ?_⟩
      · exact run_frontierLoop_of_le (hlength ▸ hfuel) h.loop h.settled
      · rw [dispatchedIds_eq_of_quiet hquiet]
        exact h.invariant.once
      · exact dependenciesApplied_of_quiet hquiet h.invariant.ordered
      · intro k hk
        rw [dispatchedIds_eq_of_quiet hquiet] at hk
        exact hids ▸ h.invariant.mem_mutationIds hk
      · intro action haction hmutation
        obtain ⟨action', haction', hcore⟩ := exists_core_eq h.accepted.actions.symm haction
        have hiff := h.invariant.notMem_dispatchedIds_iff hplan h.settled haction'
          (id_eq_of_core hcore ▸ hmutation)
        rw [id_eq_of_core hcore, refused_eq_of_core hcore] at hiff
        rw [dispatchedIds_eq_of_quiet hquiet, hiff]
        refine or_congr Iff.rfl ⟨fun hblocked => ?_, fun hblocked => ?_⟩
        · exact blockedBy_of_core h.accepted.actions
            (fun k hk => (failed_iff_of_quiet hquiet).mpr hk) hblocked
        · exact blockedBy_of_core h.accepted.actions.symm
            (fun k hk => (failed_iff_of_quiet hquiet).mp hk) hblocked

/-! ## A plan that retains an action -/

/-- A RIP process on the router `R1`. -/
def ripAction (identifier : String) (dependsOn : List String) : ControlPlaneAction :=
  { id := identifier
    phase := .dynamicRouting
    deviceId := "r1"
    deviceName := "R1"
    model := "2911"
    dependsOn := dependsOn
    requiredCapability := .ripv2Config
    detail := .configureRipv2 [] [] true }

/-- A runtime with the router `R1`, on which the given actions fail, and with the given answers
about expectations and scenarios. -/
def routerRuntime (failing : List String)
    (verify : ControlPlaneVerificationExpectation → RuntimeControlPlaneVerification)
    (execute : LinkFailureScenario → Except String RuntimeFailureScenarioResult) :
    ControlPlaneRuntime where
  inventory _ := .ok [{ deviceName := "R1", model := "2911" }]
  applyActions _ actions := .ok (actions.map fun action =>
    { actionId := action.id, applied := action.id ∉ failing, disposition := .changed })
  verify _ expectations := .ok (expectations.map verify)
  executeFailureScenario _ scenario _ _ := execute scenario

/-- Evidence that an expectation is observed to hold. -/
def verifiedEvidence (stage : ControlPlaneExecutionStage)
    (expectation : ControlPlaneVerificationExpectation) : RuntimeControlPlaneVerification :=
  { expectationId := expectation.id, stage := stage, status := .verified, freshEvidence := true }

/-- An applicator for the router `R1`, which supports everything. -/
def routerApplicator (runtime : ControlPlaneRuntime) : ControlPlaneApplicator where
  runtime := runtime
  capabilityProvider := Dict.ofList [("2911",
    { model := "2911"
      dimensions := Dict.ofList ([.ripv2Config, .routingProcessState, .routingFailover,
        .linkFailureControl].map fun dimension => (dimension, .supported)) })]
  semanticHash _ := ""
  casefold text := text

/-- A plan for the router `R1`. -/
def routerPlan (actions : List ControlPlaneAction)
    (expectations : List ControlPlaneVerificationExpectation)
    (scenarios : List LinkFailureScenario) : ControlPlanePlan :=
  { id := "plan"
    sourceTopologyHash := "topology"
    sourceConfigurationId := "configuration"
    sourceConfigurationHash := "configuration"
    actions := actions
    verificationExpectations := expectations
    failureScenarios := scenarios }

/-- A request for such a plan: the given actions are retained. -/
def routerRequest (mutationActionIds : Option (List String)) (retained : List String) :
    ControlPlaneRequest :=
  { actualSourceTopologyHash := "topology"
    actualSourceConfigurationHash := "configuration"
    foundationalStatuses := .empty
    mutationActionIds := mutationActionIds
    retainedActionResults := retained.map fun identifier =>
      { actionId := identifier, status := .applied } }

/-- Whether a preflight accepted the plan. -/
def accepts (outcome : Except RaisedError (Except Refusal PreparedControlPlane) ×
    List ControlPlaneEvent) : Bool :=
  match outcome with
  | (.ok (.ok _), _) => true
  | _ => false

lemma exists_of_accepts {outcome : Except RaisedError (Except Refusal PreparedControlPlane) ×
    List ControlPlaneEvent} (h : accepts outcome = true) :
    ∃ prepared start, outcome = (.ok (.ok prepared), start) := by
  obtain ⟨result, start⟩ := outcome
  rcases result with e | outcome
  · simp [accepts] at h
  cases outcome with
  | error refusal => simp [accepts] at h
  | ok prepared => exact ⟨prepared, start, rfl⟩

/-- The applicator of a run in which the action `b` fails. -/
def failingApplicator : ControlPlaneApplicator :=
  routerApplicator (routerRuntime ["b"] (verifiedEvidence .observed) fun _ => .error "")

/-- The actions `a`, `b` and `c`, each of which depends on the one before. -/
def chainPlan : ControlPlanePlan :=
  routerPlan [ripAction "a" [], ripAction "b" ["a"], ripAction "c" ["b"]] [] []

/-- A run whose second action fails. -/
theorem dispatched_iff_unblocked_chain :
    ∃ prepared start, (failingApplicator.preflight chainPlan (routerRequest none [])).run [] =
        (.ok (.ok prepared), start) ∧
      ∃ report trace, (failingApplicator.apply chainPlan (routerRequest none [])).run [] =
        (.ok report, trace) ∧ (dispatchedIds trace).Nodup := by
  obtain ⟨prepared, start, haccepted⟩ := exists_of_accepts
    (show accepts ((failingApplicator.preflight chainPlan (routerRequest none [])).run []) = true by
      decide)
  obtain ⟨report, trace, -, -, hrun, -, -, hnodup, -⟩ :=
    dispatched_iff_unblocked failingApplicator chainPlan (routerRequest none []) haccepted
  exact ⟨prepared, start, haccepted, report, trace, hrun, hnodup⟩

/-- The plan of the action `a` alone. -/
def singlePlan : ControlPlanePlan := routerPlan [ripAction "a" []] [] []

/-- An action may stay undispatched although neither it nor a dependency of it was refused, and
none failed: its result may be retained. -/
theorem not_forall_undispatched_iff_blocked :
    ¬∀ (applicator : ControlPlaneApplicator) (plan : ControlPlanePlan)
      (request : ControlPlaneRequest) (prepared : PreparedControlPlane)
      (start : List ControlPlaneEvent),
      (applicator.preflight plan request).run [] = (.ok (.ok prepared), start) →
      ∀ action ∈ plan.actions,
        (action.id ∉ dispatchedIds ((applicator.apply plan request).run []).2 ↔
          refused prepared.profiles prepared.scope.mutationIds action = true ∨
            BlockedBy plan.actions prepared.profiles prepared.scope
              ((applicator.apply plan request).run []).2 action.id) := by
  intro hall
  obtain ⟨prepared, start, haccepted⟩ := exists_of_accepts
    (show accepts ((failingApplicator.preflight singlePlan (routerRequest (some []) ["a"])).run
      []) = true by decide)
  have hundispatched : (ripAction "a" []).id ∉ dispatchedIds
      ((failingApplicator.apply singlePlan (routerRequest (some []) ["a"])).run []).2 := by
    decide
  have hscope : (match (failingApplicator.preflight singlePlan
      (routerRequest (some []) ["a"])).run [] with
    | (.ok (.ok prepared), _) => prepared.scope.mutationIds
    | _ => ["a"]) = [] := by decide
  rw [haccepted] at hscope
  rcases (hall failingApplicator singlePlan (routerRequest (some []) ["a"]) prepared start
    haccepted (ripAction "a" []) (by simp [singlePlan, routerPlan])).mp hundispatched with
    hrefused | ⟨root, -, hpath, -⟩
  · simp only at hscope
    simp [refused, hscope] at hrefused
  · obtain ⟨next, ⟨action, haction, -, hdepends⟩, -⟩ := TransGen.head'_iff.mp hpath
    obtain rfl := List.mem_singleton.mp haction
    exact List.not_mem_nil hdepends

end ControlPlaneApplicator
end PacketTracer
