import PacketTracer.Application.ControlPlaneDispatch

/-!
# What a verified control-plane report says

`_overall` reports success by elimination: it looks for failed and for incomplete results.  So a
report is verified throughout when the runtime answers every question about an expectation with
evidence about that expectation, in a status that `_overall` looks for, and when every expectation
that a scenario is bound to is the one that some scenario exercises
(`verifiedThroughout_of_answersInKind`).  Evidence in another status, evidence about another
expectation and a second expectation of the same kind slip through.
-/

namespace PacketTracer

open Dicts

/-! ## Evidence -/

/-- The stage whose evidence is about expectations of a kind. -/
def ControlPlaneVerificationKind.stage :
    ControlPlaneVerificationKind → ControlPlaneExecutionStage
  | endToEndReachability => .behavior
  | linkFailureConvergence => .failover
  | restoreRecovery => .restore
  | _ => .observed

/-- The evidence that an exchange brought. -/
def ControlPlaneEvent.evidence : ControlPlaneEvent → List RuntimeControlPlaneVerification
  | verify _ (.ok items) => items
  | executeFailureScenario _ _ _ (.ok runtime) =>
    [runtime.before, runtime.during, runtime.after].filterMap id
  | _ => []

namespace ControlPlaneApplicator

/-- The runtime observed that an expectation holds, in the stage of its kind. -/
def Evidenced (trace : List ControlPlaneEvent)
    (expectation : ControlPlaneVerificationExpectation) : Prop :=
  ∃ event ∈ trace, ∃ item ∈ event.evidence, item.expectationId = expectation.id ∧
    item.stage = expectation.kind.stage ∧ item.status = .verified

/-- What a verified report should say: every action was applied, every expectation was observed to
hold, and every scenario was verified. -/
structure VerifiedThroughout (plan : ControlPlanePlan) (report : ControlPlaneApplicationResult)
    (trace : List ControlPlaneEvent) : Prop where
  actions : List.Forall₂ (fun action result => result.actionId = action.id ∧
    satisfiesApplyDependency result.status = true) plan.actions report.actionResults
  expectations : ∀ expectation ∈ plan.verificationExpectations, Evidenced trace expectation
  scenarios : List.Forall₂ (fun scenario result => result.scenarioId = scenario.id ∧
    result.status = .verified) plan.failureScenarios report.scenarioResults

/-! ## When it does -/

/-- The runtime answers a question about an expectation with evidence about that expectation,
whose status `_overall` looks for.  Evidence for another stage counts as none. -/
def InKind : ControlPlaneEvent → Prop
  | .verify [expectation] (.ok (item :: _)) =>
    item.stage = expectation.kind.stage → item.expectationId = expectation.id ∧
      (item.status = .verified ∨ item.status = .failed ∨ item.status ∈ incomplete)
  | _ => True

instance : DecidablePred InKind := fun event => by
  unfold InKind
  split <;> infer_instance

/-- Every answer of the runtime is in kind. -/
def AnswersInKind (trace : List ControlPlaneEvent) : Prop := ∀ event ∈ trace, InKind event

instance : DecidablePred AnswersInKind := fun trace => by
  unfold AnswersInKind
  infer_instance

/-- Every expectation about scenarios that a scenario names is the first of its kind that some
scenario names. -/
def ExercisesBound (plan : ControlPlanePlan) : Prop :=
  ∀ expectation ∈ plan.verificationExpectations, expectation.kind ∈ scenarioKinds →
    expectation.id ∈ plan.failureScenarios.flatMap
      LinkFailureScenario.verificationExpectationIds →
    ∃ scenario ∈ plan.failureScenarios,
      (boundExpectation plan scenario expectation.kind).map
        ControlPlaneVerificationExpectation.id = some expectation.id

instance : DecidablePred ExercisesBound := fun plan => by
  unfold ExercisesBound
  infer_instance

section Verdict

variable {actions : List ActionApplicationResult}
  {observed behavior failover : List ControlPlaneVerificationResult}
  {scenarios : List FailureScenarioResult}

/-- A verified report has neither failed nor incomplete results. -/
lemma complete_of_overall
    (h : (overall actions observed behavior failover scenarios).1 = .verified) :
    (∀ item ∈ actions, item.status ≠ .failed ∧ item.status ∉ incomplete) ∧
      (∀ item ∈ observed ++ behavior ++ failover,
        item.status ≠ .failed ∧ item.status ∉ incomplete) ∧
      ∀ item ∈ scenarios, item.status ≠ .failed ∧ item.status ∉ incomplete := by
  unfold overall at h
  simp only at h
  split at h
  · cases h
  split at h
  · cases h
  rename_i hactions
  split at h
  · cases h
  rename_i hscenarios
  split at h
  · cases h
  rename_i hevidence
  split at h
  · cases h
  rename_i hincomplete
  simp only [not_or, List.any_eq_true, not_exists, not_and,
    decide_eq_true_eq] at hactions hevidence hincomplete
  simp only [List.find?_eq_none, decide_eq_true_eq] at hscenarios
  exact ⟨fun item hitem => ⟨hactions item hitem, hincomplete.1 item hitem⟩,
    fun item hitem => ⟨hevidence item hitem, hincomplete.2.1 item hitem⟩,
    fun item hitem => ⟨hscenarios item hitem, hincomplete.2.2 item hitem⟩⟩

lemma spec_applicationResult {plan : ControlPlanePlan} {request : ControlPlaneRequest}
    {mutationIds : List String} {outcome : ControlPlaneOutcome}
    {report : ControlPlaneApplicationResult}
    (h : applicationResult plan request mutationIds outcome = .ok report) :
    report.status = (overall outcome.actionResults outcome.observedResults
        outcome.behaviorResults outcome.failoverResults outcome.scenarioResults).1 ∧
      report.actionResults = outcome.actionResults ∧
      report.scenarioResults = outcome.scenarioResults := by
  obtain ⟨journal, -, hreport⟩ := Fallible.bind_eq_ok.mp h
  rw [← Except.ok.inj hreport]
  exact ⟨rfl, rfl, rfl⟩

end Verdict

section Results

variable {stage : ControlPlaneExecutionStage} {trace : List ControlPlaneEvent}
  {expectation : ControlPlaneVerificationExpectation} {result : ControlPlaneVerificationResult}
  {context : VerificationContext} {inventory : Dict String RuntimeConfigurationTarget}
  {scenario : LinkFailureScenario} {scenarioResult' : FailureScenarioResult}
  {item : RuntimeControlPlaneVerification} {statuses : StatusMap}

lemma incomplete_of_gated
    (hstatus : item.status = .dependencyBlocked ∨ item.status = .unobservable) :
    (verificationResult expectation item stage).status ∈ incomplete := by
  rw [status_verificationResult]
  split
  · rcases hstatus with hstatus | hstatus <;> simp [hstatus, incomplete]
  · simp [incomplete]

/-- A complete result that did not fail is evidence that the runtime answered. -/
lemma StageEvidence.exists_answer (h : StageEvidence stage trace expectation result)
    (hfailed : result.status ≠ .failed) (hcomplete : result.status ∉ incomplete) :
    ∃ item rest, ControlPlaneEvent.verify [expectation] (.ok (item :: rest)) ∈ trace ∧
      item.stage = stage ∧ item.status = result.status := by
  rcases h with ⟨context, statuses, item, hgate⟩ | ⟨answer, hanswer⟩
  · exact absurd (incomplete_of_gated (status_of_gatedVerification hgate)) hcomplete
  rcases answer with message | items
  · simp [status_verificationResult, observedVerification] at hfailed
  rcases items with _ | ⟨item, rest⟩
  · simp [status_verificationResult, observedVerification, incomplete] at hcomplete
  refine ⟨item, rest, hanswer, ?_⟩
  rw [status_verificationResult, observedVerification] at hcomplete ⊢
  by_cases hstage : item.stage = stage
  · exact ⟨hstage, by rw [if_pos hstage]⟩
  · simp [hstage, incomplete] at hcomplete

/-- A complete result that did not fail shows that its expectation holds, when the runtime answers
in kind. -/
lemma StageEvidence.evidenced (h : StageEvidence stage trace expectation result)
    (hanswers : AnswersInKind trace) (hstage : expectation.kind.stage = stage)
    (hfailed : result.status ≠ .failed) (hcomplete : result.status ∉ incomplete) :
    Evidenced trace expectation := by
  obtain ⟨item, rest, hmem, hitem, hstatus⟩ := h.exists_answer hfailed hcomplete
  obtain ⟨hid, hkind⟩ := hanswers _ hmem (hitem.trans hstage.symm)
  refine ⟨_, hmem, item, List.mem_cons_self, hid, hitem.trans hstage.symm, ?_⟩
  rw [hstatus] at hkind ⊢
  exact hkind.resolve_right fun hkind => hkind.elim hfailed hcomplete

/-- The gates report a scenario as failed or incomplete, under its identifier. -/
lemma spec_of_scenarioGate
    (h : scenarioGate context inventory statuses scenario = .error scenarioResult') :
    scenarioResult'.scenarioId = scenario.id ∧
      (scenarioResult'.status = .failed ∨ scenarioResult'.status ∈ incomplete) := by
  unfold scenarioGate at h
  split at h
  · rw [← Except.error.inj h]
    exact ⟨rfl, Or.inl rfl⟩
  split at h
  · simp only at h
    split at h
    · rw [← Except.error.inj h]
      exact ⟨rfl, Or.inr (by simp [incomplete])⟩
    · split at h
      · rw [← Except.error.inj h]
        exact ⟨rfl, Or.inr (by simp [incomplete])⟩
      · cases h
  · rw [← Except.error.inj h]
    exact ⟨rfl, Or.inl rfl⟩

lemma boundExpectation_of_scenarioGate {failure recovery : ControlPlaneVerificationExpectation}
    (h : scenarioGate context inventory statuses scenario = .ok (failure, recovery)) :
    boundExpectation context.plan scenario .linkFailureConvergence = some failure ∧
      boundExpectation context.plan scenario .restoreRecovery = some recovery := by
  unfold scenarioGate at h
  split at h
  · cases h
  split at h
  · rename_i failure' recovery' hfailure hrecovery
    simp only at h
    split at h
    · cases h
    split at h
    · cases h
    · obtain ⟨rfl, rfl⟩ := Prod.mk.injEq .. ▸ Except.ok.inj h
      exact ⟨hfailure, hrecovery⟩
  · cases h

variable {failure recovery : ControlPlaneVerificationExpectation}
  {runtime : RuntimeFailureScenarioResult}

/-- What a verified scenario shows: the fault was applied and undone, and was observed before,
during and after. -/
structure ScenarioHeld (runtime : RuntimeFailureScenarioResult) : Prop where
  restored : abandonedFault runtime = false ∧ failedRestore runtime = false
  injected : satisfiesApplyDependency (injectionStatus runtime) = true
  before : evidenceStatus runtime.before = .verified
  during : evidenceStatus runtime.during = .verified
  after : evidenceStatus runtime.after = .verified

lemma scenarioOutcome_cases :
    (scenarioOutcome runtime).1 = .failed ∨
      (scenarioOutcome runtime).1 = .verified ∧ ScenarioHeld runtime := by
  unfold scenarioOutcome
  split_ifs with habandoned hfailed hinjection hbefore hinjected hduring hconvergence hafter <;>
    first | exact Or.inl rfl | skip
  refine Or.inr ⟨rfl, ⟨?_, ?_⟩, ?_, ?_, ?_, ?_⟩ <;> simp_all

/-- The result of an executed scenario is verified or failed, and verified only with valid
evidence about its expectations. -/
lemma scenarioResult_cases :
    (scenarioResult scenario failure recovery runtime).status = .failed ∨
      (scenarioResult scenario failure recovery runtime).status = .verified ∧
        runtime.scenarioId = scenario.id ∧ contractErrors failure recovery runtime = [] ∧
        ScenarioHeld runtime := by
  unfold scenarioResult
  split
  · exact Or.inl rfl
  rename_i hsame
  by_cases herrors : contractErrors failure recovery runtime = []
  · simp only [herrors, ne_eq, not_true_eq_false, if_false]
    exact scenarioOutcome_cases.imp_right fun h => ⟨h.1, not_not.mp hsame, trivial, h.2⟩
  · left
    simp [herrors]

lemma scenarioId_scenarioResult :
    (scenarioResult scenario failure recovery runtime).scenarioId = scenario.id := by
  unfold scenarioResult
  split <;> rfl

lemma exists_of_evidenceStatus {item : Option RuntimeControlPlaneVerification}
    (h : evidenceStatus item = .verified) : ∃ i, item = some i ∧ i.status = .verified := by
  cases item with
  | none => simp [evidenceStatus] at h
  | some i => exact ⟨i, rfl, by simpa [evidenceStatus] using h⟩

lemma of_not_violatesContract {expectationId : String}
    (h : violatesContract (some item) expectationId stage = false) :
    item.expectationId = expectationId ∧ item.stage = stage := by
  simpa [violatesContract] using h

lemma kept_of_contractErrors (h : contractErrors failure recovery runtime = []) :
    violatesContract runtime.before failure.id .behavior = false ∧
      violatesContract runtime.during failure.id .failover = false ∧
      violatesContract runtime.after recovery.id .restore = false ∧
      invalidTransitions runtime.transitions = false := by
  simp only [contractErrors, List.append_eq_nil_iff, ite_eq_right_iff, List.cons_ne_nil, imp_false,
    Bool.not_eq_true] at h
  exact ⟨h.1.1.1, h.1.1.2, h.1.2, h.2⟩

lemma gatedRecovery_eq
    (h : evidenceStatus (gatedRecovery context statuses failure recovery runtime).after =
      .verified) : gatedRecovery context statuses failure recovery runtime = runtime := by
  unfold gatedRecovery at h ⊢
  simp only at h ⊢
  split
  · rfl
  · rename_i hready
    rw [if_neg hready] at h
    simp [evidenceStatus, blockedVerification] at h

/-- The result of a scenario carries its identifier, and is verified when it neither failed nor is
incomplete. -/
lemma ScenarioEvidence.verified
    (h : ScenarioEvidence context inventory trace scenario scenarioResult')
    (hfailed : scenarioResult'.status ≠ .failed) (hcomplete : scenarioResult'.status ∉ incomplete) :
    scenarioResult'.scenarioId = scenario.id ∧ scenarioResult'.status = .verified := by
  rcases h with ⟨statuses, result, hgate⟩ | ⟨statuses, failure, recovery, answer, hgate, hanswer⟩
  · obtain ⟨-, hstatus⟩ := spec_of_scenarioGate hgate
    exact hstatus.elim (absurd · hfailed) (absurd · hcomplete)
  cases answer with
  | error message => simp [answerResult, raisedScenario] at hfailed
  | ok runtime =>
    refine ⟨scenarioId_scenarioResult, ?_⟩
    exact (scenarioResult_cases.resolve_left hfailed).1

/-- A verified scenario shows that the expectations it is bound to hold. -/
lemma ScenarioEvidence.evidenced
    (h : ScenarioEvidence context inventory trace scenario scenarioResult')
    (hverified : scenarioResult'.status = .verified) {expectation bound :
      ControlPlaneVerificationExpectation} (hkind : expectation.kind ∈ scenarioKinds)
    (hbound : boundExpectation context.plan scenario expectation.kind = some bound)
    (hid : bound.id = expectation.id) : Evidenced trace expectation := by
  rcases h with ⟨statuses, result, hgate⟩ | ⟨statuses, failure, recovery, answer, hgate, hanswer⟩
  · obtain ⟨-, hstatus⟩ := spec_of_scenarioGate hgate
    simp [hverified, incomplete] at hstatus
  rcases answer with message | runtime
  · simp [answerResult, raisedScenario] at hverified
  obtain ⟨hfailure, hrecovery⟩ := boundExpectation_of_scenarioGate hgate
  have hcases := (scenarioResult_cases.resolve_left
    (fun hfailed => by simp [answerResult, hfailed] at hverified) :
    (scenarioResult scenario failure recovery
      (gatedRecovery context statuses failure recovery runtime)).status = .verified ∧ _)
  obtain ⟨-, -, herrors, hheld⟩ := hcases
  rw [gatedRecovery_eq hheld.after] at herrors hheld
  obtain ⟨-, hduringKept, hafterKept, -⟩ := kept_of_contractErrors herrors
  obtain ⟨during, hduringSome, hduringStatus⟩ := exists_of_evidenceStatus hheld.during
  obtain ⟨after, hafterSome, hafterStatus⟩ := exists_of_evidenceStatus hheld.after
  obtain ⟨hduringId, hduringStage⟩ := of_not_violatesContract (hduringSome ▸ hduringKept)
  obtain ⟨hafterId, hafterStage⟩ := of_not_violatesContract (hafterSome ▸ hafterKept)
  refine ⟨_, hanswer, ?_⟩
  simp only [ControlPlaneEvent.evidence, hduringSome, hafterSome]
  simp only [scenarioKinds, List.mem_cons, List.not_mem_nil, or_false] at hkind
  rcases hkind with hkind | hkind
  · rw [hkind] at hbound
    cases hfailure.symm.trans hbound
    exact ⟨during, by simp [List.mem_filterMap], hduringId.trans hid,
      by rw [hduringStage, hkind]; rfl, hduringStatus⟩
  · rw [hkind] at hbound
    cases hrecovery.symm.trans hbound
    exact ⟨after, by simp [List.mem_filterMap], hafterId.trans hid,
      by rw [hafterStage, hkind]; rfl, hafterStatus⟩

end Results

/-! ## Deployed expectations -/

section Deployed

variable {plan deployed : ControlPlanePlan}
  {expectation expectation' : ControlPlaneVerificationExpectation}

lemma get?_byId_iff {expectations : List ControlPlaneVerificationExpectation}
    (hnodup : (expectations.map ControlPlaneVerificationExpectation.id).Nodup) {k : String} :
    (Dict.ofList (expectations.map fun item => (item.id, item))).get? k = some expectation ↔
      expectation ∈ expectations ∧ expectation.id = k := by
  constructor
  · intro h
    obtain ⟨item, hitem, rfl, rfl⟩ := Dict.exists_of_get?_ofList h
    exact ⟨hitem, rfl⟩
  · rintro ⟨hmem, rfl⟩
    refine Dict.get?_ofList_of_mem ?_ (List.mem_map_of_mem hmem)
    simpa [Function.comp_def] using hnodup

lemma expectationId_eq_of_core (h : expectation'.core = expectation.core) :
    expectation'.id = expectation.id :=
  (congrArg Prod.fst h :)

lemma kind_eq_of_core (h : expectation'.core = expectation.core) :
    expectation'.kind = expectation.kind :=
  (congrArg (fun core => core.2.1) h :)

/-- Lists of expectations about the same find expectations about the same. -/
lemma map_core_get?_byId {l m : List ControlPlaneVerificationExpectation}
    (hperm : (l.map ControlPlaneVerificationExpectation.core).Perm
      (m.map ControlPlaneVerificationExpectation.core))
    (hl : (l.map ControlPlaneVerificationExpectation.id).Nodup)
    (hm : (m.map ControlPlaneVerificationExpectation.id).Nodup) (k : String) :
    ((Dict.ofList (l.map fun item => (item.id, item))).get? k).map
        ControlPlaneVerificationExpectation.core =
      ((Dict.ofList (m.map fun item => (item.id, item))).get? k).map
        ControlPlaneVerificationExpectation.core := by
  have hfound : ∀ {l m : List ControlPlaneVerificationExpectation},
      (l.map ControlPlaneVerificationExpectation.core).Perm
        (m.map ControlPlaneVerificationExpectation.core) →
      (l.map ControlPlaneVerificationExpectation.id).Nodup →
      (m.map ControlPlaneVerificationExpectation.id).Nodup → ∀ core,
      ((Dict.ofList (l.map fun item => (item.id, item))).get? k).map
          ControlPlaneVerificationExpectation.core = some core →
      ((Dict.ofList (m.map fun item => (item.id, item))).get? k).map
          ControlPlaneVerificationExpectation.core = some core := by
    intro l m hperm hl hm core hcore
    obtain ⟨item, hitem, rfl⟩ := Option.map_eq_some_iff.mp hcore
    obtain ⟨hmem, rfl⟩ := (get?_byId_iff hl).mp hitem
    obtain ⟨item', hmem', heq⟩ := List.mem_map.mp (hperm.mem_iff.mp (List.mem_map_of_mem hmem))
    exact Option.map_eq_some_iff.mpr
      ⟨item', (get?_byId_iff hm).mpr ⟨hmem', expectationId_eq_of_core heq⟩, heq⟩
  exact Option.ext fun core => ⟨hfound hperm hl hm core, hfound hperm.symm hm hl core⟩

/-- A search by kind among found expectations only depends on what they are about. -/
lemma map_core_find?_filterMap {kind : ControlPlaneVerificationKind}
    {find find' : String → Option ControlPlaneVerificationExpectation}
    (h : ∀ k, (find k).map ControlPlaneVerificationExpectation.core =
      (find' k).map ControlPlaneVerificationExpectation.core) (ids : List String) :
    ((ids.filterMap find).find? (·.kind = kind)).map ControlPlaneVerificationExpectation.core =
      ((ids.filterMap find').find? (·.kind = kind)).map
        ControlPlaneVerificationExpectation.core := by
  induction ids with
  | nil => rfl
  | cons k ids ih =>
    have hk := h k
    rcases hfind : find k with _ | item
    · obtain hfind' : find' k = none := by simpa [hfind] using hk.symm
      simpa [hfind, hfind'] using ih
    rw [hfind, Option.map_some] at hk
    obtain ⟨item', hfind', hcore⟩ := Option.map_eq_some_iff.mp hk.symm
    rw [List.filterMap_cons_some hfind, List.filterMap_cons_some hfind', List.find?_cons,
      List.find?_cons, kind_eq_of_core hcore]
    by_cases hkind : item.kind = kind
    · simp [hkind, hcore]
    · simpa [hkind] using ih

/-- Deployment changes neither which expectations a scenario is bound to nor what they are
about. -/
lemma map_core_boundExpectation {scenario scenario' : LinkFailureScenario}
    (hperm : (deployed.verificationExpectations.map
        ControlPlaneVerificationExpectation.core).Perm
      (plan.verificationExpectations.map ControlPlaneVerificationExpectation.core))
    (hdeployed : (deployed.verificationExpectations.map
      ControlPlaneVerificationExpectation.id).Nodup)
    (hscenario : scenario'.core = scenario.core) (kind : ControlPlaneVerificationKind) :
    (boundExpectation deployed scenario' kind).map ControlPlaneVerificationExpectation.core =
      (boundExpectation plan scenario kind).map ControlPlaneVerificationExpectation.core := by
  have hids : ∀ plan : ControlPlanePlan,
      plan.verificationExpectations.map ControlPlaneVerificationExpectation.id =
        (plan.verificationExpectations.map ControlPlaneVerificationExpectation.core).map
          Prod.fst := by
    intro plan
    simp [Function.comp_def, ControlPlaneVerificationExpectation.core]
  have hplan : (plan.verificationExpectations.map
      ControlPlaneVerificationExpectation.id).Nodup := by
    rw [hids] at hdeployed ⊢
    exact (hperm.map _).nodup_iff.mp hdeployed
  have hnamed : scenario'.verificationExpectationIds = scenario.verificationExpectationIds :=
    (congrArg LinkFailureScenario.verificationExpectationIds hscenario :)
  simp only [boundExpectation, hnamed]
  exact map_core_find?_filterMap (map_core_get?_byId hperm hdeployed hplan) _

lemma Evidenced.of_core {trace : List ControlPlaneEvent} (h : Evidenced trace expectation')
    (hcore : expectation'.core = expectation.core) : Evidenced trace expectation := by
  obtain ⟨event, hevent, item, hitem, hid, hstage, hstatus⟩ := h
  rw [expectationId_eq_of_core hcore] at hid
  rw [kind_eq_of_core hcore] at hstage
  exact ⟨event, hevent, item, hitem, hid, hstage, hstatus⟩

end Deployed

/-! ## Verified reports -/

section Report

variable {applicator : ControlPlaneApplicator} {plan : ControlPlanePlan}
  {request : ControlPlaneRequest} {run : AppliedRun} {report : ControlPlaneApplicationResult}
  {trace : List ControlPlaneEvent}

/-- Every action has its result in the report. -/
lemma AppliedSpec.recorded (h : AppliedSpec applicator plan request run report trace) :
    List.Forall₂ (fun action result => Recorded action.id result) plan.actions
      report.actionResults := by
  obtain ⟨-, hactions, -⟩ := spec_applicationResult h.report
  have hids := map_id_eq_of_core h.accepted.actions
  have hresults : List.Forall₂ (fun action result =>
      run.final.results.get? (ControlPlaneAction.id action) = some result) plan.actions
      run.outcome.actionResults := by
    rw [← List.forall₂_map_right_iff (R := fun action answer =>
        run.final.results.get? (ControlPlaneAction.id action) = answer),
      ← List.forall₂_map_left_iff (R := fun answer answer' => answer = answer')
        (f := fun action => run.final.results.get? (ControlPlaneAction.id action)),
      List.forall₂_eq_eq_eq, ← h.results, hids, List.map_map]
    rfl
  rw [hactions]
  exact hresults.imp fun action result hget => h.invariant.recorded action.id result hget

lemma AppliedSpec.complete (h : AppliedSpec applicator plan request run report trace)
    (hstatus : report.status = .verified) :
    (∀ item ∈ report.actionResults, item.status ≠ .failed ∧ item.status ∉ incomplete) ∧
      (∀ item ∈ run.outcome.observedResults ++ run.outcome.behaviorResults ++
        run.outcome.failoverResults, item.status ≠ .failed ∧ item.status ∉ incomplete) ∧
      ∀ item ∈ report.scenarioResults, item.status ≠ .failed ∧ item.status ∉ incomplete := by
  obtain ⟨hoverall, hactions, hscenarios⟩ := spec_applicationResult h.report
  rw [hactions, hscenarios]
  exact complete_of_overall (hoverall.symm.trans hstatus)

lemma AppliedSpec.scenario_verified (h : AppliedSpec applicator plan request run report trace)
    (hstatus : report.status = .verified) {scenario : LinkFailureScenario}
    {result : FailureScenarioResult} (hresult : result ∈ report.scenarioResults)
    (hevidence : ScenarioEvidence (run.context request) run.prepared.inventory trace scenario
      result) : result.scenarioId = scenario.id ∧ result.status = .verified := by
  obtain ⟨hfailed, hcomplete⟩ := (h.complete hstatus).2.2 result hresult
  exact hevidence.verified hfailed hcomplete

/-- Every scenario of a verified report is verified. -/
lemma AppliedSpec.scenarios_verified (h : AppliedSpec applicator plan request run report trace)
    (hstatus : report.status = .verified) :
    List.Forall₂ (fun scenario result => result.scenarioId = scenario.id ∧
      result.status = .verified) plan.failureScenarios report.scenarioResults := by
  obtain ⟨-, -, hscenarios⟩ := spec_applicationResult h.report
  have hids : run.prepared.plan.failureScenarios.map LinkFailureScenario.id =
      plan.failureScenarios.map LinkFailureScenario.id := by
    simpa [Function.comp_def, LinkFailureScenario.core]
      using congrArg (List.map LinkFailureScenario.id) h.accepted.scenarios
  have hdeployed : List.Forall₂ (fun scenario result => result.scenarioId = scenario ∧
      result.status = .verified) (run.prepared.plan.failureScenarios.map LinkFailureScenario.id)
      report.scenarioResults := by
    rw [List.forall₂_map_left_iff, List.forall₂_iff_zip]
    refine ⟨?_, fun {scenario result} hzip => ?_⟩
    · rw [hscenarios]
      exact h.verified.scenarios.length_eq
    · rw [hscenarios] at hzip
      exact h.scenario_verified hstatus (hscenarios ▸ (List.of_mem_zip hzip).2)
        (List.forall₂_zip h.verified.scenarios hzip)
  rw [hids, List.forall₂_map_left_iff] at hdeployed
  exact hdeployed

variable {expectation : ControlPlaneVerificationExpectation}

/-- An expectation of a deployed stage of a verified report holds. -/
lemma AppliedSpec.stage_evidenced (h : AppliedSpec applicator plan request run report trace)
    (hanswers : AnswersInKind trace) (hstatus : report.status = .verified)
    (hmem : expectation ∈ run.prepared.plan.verificationExpectations)
    (hkind : expectation.kind ∈ observedKinds ∨ expectation.kind ∈ behaviorKinds) :
    Evidenced trace expectation := by
  rcases hkind with hkind | hkind
  · obtain ⟨result, hresult, hevidence⟩ := Fallible.exists_of_forall₂ h.verified.observed
      (List.mem_filter.mpr ⟨hmem, decide_eq_true hkind⟩)
    obtain ⟨hfailed, hcomplete⟩ := (h.complete hstatus).2.1 result (by simp [hresult])
    refine hevidence.evidenced hanswers ?_ hfailed hcomplete
    cases hcase : expectation.kind <;> simp [hcase, observedKinds] at hkind <;> rfl
  · obtain ⟨result, hresult, hevidence⟩ := Fallible.exists_of_forall₂ h.verified.behavior
      (List.mem_filter.mpr ⟨hmem, decide_eq_true hkind⟩)
    obtain ⟨hfailed, hcomplete⟩ := (h.complete hstatus).2.1 result (by simp [hresult])
    refine hevidence.evidenced hanswers ?_ hfailed hcomplete
    cases hcase : expectation.kind <;> simp [hcase, behaviorKinds] at hkind
    rfl

/-- An expectation about scenarios of a verified report is named by a scenario. -/
lemma AppliedSpec.named (h : AppliedSpec applicator plan request run report trace)
    (hstatus : report.status = .verified)
    (hmem : expectation ∈ run.prepared.plan.verificationExpectations)
    (hkind : expectation.kind ∈ scenarioKinds) :
    expectation.id ∈ run.prepared.plan.failureScenarios.flatMap
      LinkFailureScenario.verificationExpectationIds := by
  by_contra hunbound
  have hfilter : expectation ∈ unboundExpectations run.prepared.plan :=
    List.mem_filter.mpr ⟨hmem, by simpa using ⟨hkind, by simpa using hunbound⟩⟩
  obtain ⟨result, hresult, item, hitem, rfl⟩ :=
    Fallible.exists_of_forall₂ h.verified.failover hfilter
  have hcomplete := (h.complete hstatus).2.1 _ (List.mem_append_right _ hresult)
  exact hcomplete.2 (incomplete_of_gated hitem)

/-- An expectation about scenarios of a verified report holds when some scenario is bound to
it. -/
lemma AppliedSpec.scenario_evidenced (h : AppliedSpec applicator plan request run report trace)
    (hstatus : report.status = .verified) {scenario : LinkFailureScenario}
    (hscenario : scenario ∈ plan.failureScenarios) (hkind : expectation.kind ∈ scenarioKinds)
    (hbound : (boundExpectation plan scenario expectation.kind).map
      ControlPlaneVerificationExpectation.id = some expectation.id) :
    Evidenced trace expectation := by
  have hmem : scenario.core ∈ run.prepared.plan.failureScenarios.map LinkFailureScenario.core :=
    h.accepted.scenarios.symm ▸ List.mem_map_of_mem hscenario
  obtain ⟨scenario', hscenario', hcore⟩ := List.mem_map.mp hmem
  have hsame := congrArg (Option.map Prod.fst) (map_core_boundExpectation
    h.accepted.expectations h.accepted.nodupExpectations hcore expectation.kind)
  simp only [Option.map_map, Function.comp_def, ControlPlaneVerificationExpectation.core] at hsame
  obtain ⟨bound, hbound', hid⟩ := Option.map_eq_some_iff.mp (hsame.trans hbound)
  obtain ⟨-, -, hscenarios⟩ := spec_applicationResult h.report
  obtain ⟨result, hresult, hevidence⟩ :=
    Fallible.exists_of_forall₂ h.verified.scenarios hscenario'
  have hverified := h.scenario_verified hstatus (hscenarios ▸ hresult) hevidence
  exact hevidence.evidenced hverified.2 hkind hbound' hid

/-- Every expectation of a verified report holds, when the runtime answers in kind and the
scenarios exercise what they name. -/
lemma AppliedSpec.evidenced (h : AppliedSpec applicator plan request run report trace)
    (hanswers : AnswersInKind trace) (hselects : ExercisesBound plan)
    (hstatus : report.status = .verified) (hmem : expectation ∈ plan.verificationExpectations) :
    Evidenced trace expectation := by
  obtain ⟨expectation', hmem', hcore⟩ := List.mem_map.mp
    (h.accepted.expectations.mem_iff.mpr (List.mem_map_of_mem hmem))
  by_cases hkind : expectation.kind ∈ scenarioKinds
  · have hnamed := h.named hstatus hmem' (kind_eq_of_core hcore ▸ hkind)
    have hids : run.prepared.plan.failureScenarios.map
        LinkFailureScenario.verificationExpectationIds =
        plan.failureScenarios.map LinkFailureScenario.verificationExpectationIds := by
      simpa [Function.comp_def, LinkFailureScenario.core] using congrArg
        (List.map LinkFailureScenario.verificationExpectationIds) h.accepted.scenarios
    rw [expectationId_eq_of_core hcore, List.flatMap_def, hids, ← List.flatMap_def] at hnamed
    obtain ⟨scenario, hscenario, hbound⟩ := hselects expectation hmem hkind hnamed
    exact h.scenario_evidenced hstatus hscenario hkind hbound
  · refine (h.stage_evidenced hanswers hstatus hmem' ?_).of_core hcore
    rw [kind_eq_of_core hcore]
    cases hcase : expectation.kind <;>
      simp [hcase, scenarioKinds, observedKinds, behaviorKinds] at hkind ⊢

end Report

/-- **Verified reports.**  In a run in which the runtime answers in kind, for a plan whose
scenarios exercise what they name, a verified report says that every action was applied, that
every expectation was observed to hold and that every scenario was verified. -/
theorem verifiedThroughout_of_answersInKind (applicator : ControlPlaneApplicator)
    (plan : ControlPlanePlan) (request : ControlPlaneRequest)
    {report : ControlPlaneApplicationResult} {trace : List ControlPlaneEvent}
    (hrun : (applicator.apply plan request).run [] = (.ok report, trace))
    (hanswers : AnswersInKind trace) (hselects : ExercisesBound plan)
    (hstatus : report.status = .verified) : VerifiedThroughout plan report trace := by
  rcases ensures_apply.of_run_eq_ok hrun with ⟨hrefused, -⟩ | ⟨run, h⟩
  · simp [hrefused.1] at hstatus
  refine ⟨?_, fun expectation hmem => h.evidenced hanswers hselects hstatus hmem,
    h.scenarios_verified hstatus⟩
  obtain ⟨hcomplete, -⟩ := h.complete hstatus
  rw [List.forall₂_iff_zip]
  refine ⟨h.recorded.length_eq, fun {action result} hzip => ?_⟩
  obtain ⟨hid, hrecorded⟩ := List.forall₂_zip h.recorded hzip
  obtain ⟨hfailed, hincomplete⟩ := hcomplete result (List.of_mem_zip hzip).2
  refine ⟨hid, hrecorded.resolve_right ?_⟩
  rintro (hstatus' | hstatus' | hstatus')
  · exact hfailed hstatus'
  · exact hincomplete (by simp [hstatus', incomplete])
  · exact hincomplete (by simp [hstatus', incomplete])

/-! ## A verified report, and one that should not be -/

/-- An expectation about the RIP process `a`. -/
def ripExpectation (identifier : String) (kind : ControlPlaneVerificationKind)
    (requiredCapability : ControlPlaneCapabilityDimension) : ControlPlaneVerificationExpectation :=
  { id := identifier
    kind := kind
    actionId := "a"
    deviceId := "r1"
    requiredCapability := requiredCapability }

/-- A failure scenario at the router `R1` with two expectations. -/
def routerScenario (identifier : String) (expectationIds : List String) : LinkFailureScenario :=
  { id := identifier
    deviceAId := "r1"
    deviceBId := "r2"
    targetDeviceId := "r1"
    targetDeviceName := "R1"
    targetInterface := "GigabitEthernet0/0"
    peerDeviceId := "r1"
    peerDeviceName := "R1"
    peerInterface := "GigabitEthernet0/0"
    probeSourceDeviceId := "r1"
    probeSourceDeviceName := "R1"
    probeDestinationDeviceId := "r1"
    probeDestinationDeviceName := "R1"
    verificationExpectationIds := expectationIds }

/-- A scenario that went as expected, with its fault and its restore. -/
def recoveredScenario (scenario : LinkFailureScenario) (failure recovery : String) :
    RuntimeFailureScenarioResult :=
  { scenarioId := scenario.id
    before := some { expectationId := failure, stage := .behavior, status := .verified }
    injection := some { actionId := "fault", applied := true }
    during := some { expectationId := failure, stage := .failover, status := .verified }
    restoreAttempted := true
    restore := some { actionId := "restore", applied := true }
    after := some { expectationId := recovery, stage := .restore, status := .verified } }

/-- A process that is observed and whose failover is exercised. -/
def watchedPlan : ControlPlanePlan :=
  routerPlan [ripAction "a" []]
    [ripExpectation "process" .routingProcess .routingProcessState,
      ripExpectation "failover" .linkFailureConvergence .routingFailover,
      ripExpectation "recovery" .restoreRecovery .routingFailover]
    [routerScenario "scenario" ["failover", "recovery"]]

/-- A runtime on which everything goes as expected. -/
def watchedApplicator : ControlPlaneApplicator :=
  routerApplicator (routerRuntime [] (verifiedEvidence .observed) fun scenario =>
    .ok (recoveredScenario scenario "failover" "recovery"))

/-- Whether a run returned a report and a history with a property. -/
def returns (p : ControlPlaneApplicationResult → List ControlPlaneEvent → Bool)
    (outcome : Except RaisedError ControlPlaneApplicationResult × List ControlPlaneEvent) : Bool :=
  match outcome with
  | (.ok report, trace) => p report trace
  | _ => false

lemma exists_of_returns {p : ControlPlaneApplicationResult → List ControlPlaneEvent → Bool}
    {outcome : Except RaisedError ControlPlaneApplicationResult × List ControlPlaneEvent}
    (h : returns p outcome = true) :
    ∃ report trace, outcome = (.ok report, trace) ∧ p report trace = true := by
  obtain ⟨result, trace⟩ := outcome
  cases result with
  | error e => simp [returns] at h
  | ok report => exact ⟨report, trace, rfl, h⟩

/-- A run with a verified report. -/
theorem verifiedThroughout_of_answersInKind_watched :
    ∃ report trace, (watchedApplicator.apply watchedPlan (routerRequest none [])).run [] =
        (.ok report, trace) ∧ report.status = .verified ∧
      VerifiedThroughout watchedPlan report trace := by
  obtain ⟨report, trace, hrun, hreport⟩ := exists_of_returns
    (p := fun report trace => report.status = .verified ∧ AnswersInKind trace)
    (show returns _ ((watchedApplicator.apply watchedPlan (routerRequest none [])).run []) = true by
      decide)
  obtain ⟨hstatus, hanswers⟩ := of_decide_eq_true hreport
  exact ⟨report, trace, hrun, hstatus, verifiedThroughout_of_answersInKind watchedApplicator
    watchedPlan (routerRequest none []) hrun hanswers (by decide) hstatus⟩

/-- A process that is observed. -/
def observedPlan : ControlPlanePlan :=
  routerPlan [ripAction "a" []]
    [ripExpectation "process" .routingProcess .routingProcessState] []

/-- A runtime that reports what it was asked to verify as applied. -/
def appliedApplicator : ControlPlaneApplicator :=
  routerApplicator (routerRuntime []
    (fun expectation => { verifiedEvidence .observed expectation with status := .applied })
    fun _ => .error "")

/-- A report may be verified although no expectation was observed to hold. -/
theorem not_forall_verified_verifiedThroughout :
    ¬∀ (applicator : ControlPlaneApplicator) (plan : ControlPlanePlan)
      (request : ControlPlaneRequest) (report : ControlPlaneApplicationResult)
      (trace : List ControlPlaneEvent),
      (applicator.apply plan request).run [] = (.ok report, trace) →
      report.status = .verified → VerifiedThroughout plan report trace := by
  intro hall
  obtain ⟨report, trace, hrun, hreport⟩ := exists_of_returns
    (p := fun report trace => report.status = .verified ∧
      ∀ event ∈ trace, ∀ item ∈ event.evidence, item.status ≠ .verified)
    (show returns _ ((appliedApplicator.apply observedPlan (routerRequest none [])).run []) = true
      by decide)
  obtain ⟨hstatus, hnone⟩ := of_decide_eq_true hreport
  have hverified := hall appliedApplicator observedPlan (routerRequest none []) report trace hrun
    hstatus
  obtain ⟨event, hevent, item, hitem, -, -, hitemStatus⟩ :=
    hverified.expectations _ (show _ ∈ observedPlan.verificationExpectations from
      List.mem_cons_self)
  exact hnone event hevent item hitem hitemStatus

end ControlPlaneApplicator

end PacketTracer
