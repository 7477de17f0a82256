import PacketTracer.Application.ConfigurationAcceptance
import PacketTracer.Application.SecurityDispatch

/-!
# What a verified security report says

The overall status of a security application is found by elimination: it is `VERIFIED` when no
status is one of those that `_overall` tests for.  A blocked probe is none of them.  The report says
that every expectation was verified (`FullySettled`) when no probe can be blocked, because its
prerequisites are grounded in the plan and the foundations (`Grounded`), and the runtime answers
each question for the stage it was asked about, with a status that is tested for (`InKind`).
-/

namespace PacketTracer

open Dicts Interactions
open Interaction (ensures_bind ensures_exchange ensures_pure ensures_ofExcept)

namespace SecurityApplicator

/-! ## What is claimed, and what it takes -/

/-- The status of an expectation in the stage that settles it: the direct read-back, or the
behaviour under enforcement. -/
def settledStatus (expectation : SecurityVerificationExpectation)
    (result : SecurityVerificationResult) : ActionExecutionStatus :=
  if expectation.probeKind = .directReadback then result.directStatus
  else result.enforcementStatus

/-- Every action was applied, and every expectation was verified in the stage that settles it. -/
structure FullySettled (plan : SecurityPlan) (report : SecurityApplicationResult) : Prop where
  applied : ∀ action ∈ plan.actions, ∃ result ∈ report.actionResults,
    result.actionId = action.id ∧ satisfiesApplyDependency result.status = true
  verified : ∀ expectation ∈ plan.verificationExpectations,
    ∃ result ∈ report.verificationResults, result.expectationId = expectation.id ∧
      settledStatus expectation result = .verified

/-- A prerequisite that is met as soon as all actions are applied and all earlier expectations
verified: what is read back does not wait for what is probed later, nothing waits for the
verification of an action, and resources are ready from the start. -/
def PrerequisiteGrounded (plan : SecurityPlan) (statuses : StatusMap)
    (expectation : SecurityVerificationExpectation) (prerequisite : VerificationPrerequisite) :
    Prop :=
  match prerequisite.kind with
  | .actionApplied => prerequisite.referenceId ∈ plan.actions.map SecurityAction.id
  | .actionVerified => False
  | .verificationVerified => expectation.probeKind = .directReadback →
      ∃ other ∈ plan.verificationExpectations, other.id = prerequisite.referenceId ∧
        other.probeKind = .directReadback
  | _ => statuses.get? prerequisite.referenceId = some .verified

/-- No probe of a plan can be blocked when all else goes well. -/
def Grounded (plan : SecurityPlan) (statuses : StatusMap) : Prop :=
  ∀ expectation ∈ plan.verificationExpectations,
    ∀ prerequisite ∈ (normalizedExpectation plan expectation).verificationPrerequisites,
      PrerequisiteGrounded plan statuses expectation prerequisite

/-! ## The overall status -/

/-- **A verified overall status** leaves no status that is tested for. -/
lemma overall_verified {actions : List ActionApplicationResult}
    {verification : List SecurityVerificationResult} {cleanup : List ActionApplicationResult}
    {control : Bool} (h : (overall actions verification cleanup control).1 = .verified) :
    (∀ item ∈ actions, item.status ≠ .failed ∧ item.status ≠ .skipped ∧
        item.status ≠ .dependencyBlocked) ∧
      ∀ item ∈ verification, item.directStatus ∉ undecided ∧ item.enforcementStatus ∉ undecided := by
  have hnext : ∀ {c : Prop} [Decidable c]
      {x y : ConfigurationApplicationStatus × ConfigurationFailureCode},
      (if c then x else y).1 = .verified → x.1 ≠ .verified → ¬c ∧ y.1 = .verified := by
    intro c _ x y h hx
    by_cases hc : c
    · rw [if_pos hc] at h
      exact absurd h hx
    · rw [if_neg hc] at h
      exact ⟨hc, h⟩
  unfold overall at h
  obtain ⟨hfailed, h⟩ := hnext h nofun
  obtain ⟨-, h⟩ := hnext h nofun
  obtain ⟨henforcement, h⟩ := hnext h nofun
  obtain ⟨-, h⟩ := hnext h nofun
  obtain ⟨hdirect, h⟩ := hnext h nofun
  obtain ⟨hpart, h⟩ := hnext h nofun
  obtain ⟨hbehavior, h⟩ := hnext h nofun
  obtain ⟨hreadback, -⟩ := hnext h nofun
  have hnone : ∀ {α : Type} {items : List α} {p : α → Prop} [DecidablePred p],
      ¬(items.any fun item => decide (p item)) = true → ∀ item ∈ items, ¬p item := by
    intro α items p _ h item hitem hp
    exact h (List.any_eq_true.mpr ⟨item, hitem, decide_eq_true hp⟩)
  have hstatus : ∀ item ∈ verification, item.directStatus ≠ .skipped →
      item.directStatus ∈ (verification.map SecurityVerificationResult.directStatus).filter
        (· ≠ .skipped) :=
    fun item hitem hskipped =>
      List.mem_filter.mpr ⟨List.mem_map_of_mem hitem, decide_eq_true hskipped⟩
  refine ⟨fun item hitem => ⟨hnone hfailed item hitem, not_or.mp (hnone hpart item hitem)⟩,
    fun item hitem => ⟨fun hmem => ?_, fun hmem => ?_⟩⟩
  · have hdirect' := fun hskipped => hnone hdirect _ (hstatus item hitem hskipped)
    have hreadback' := fun hskipped => hnone hreadback _ (hstatus item hitem hskipped)
    cases hcase : item.directStatus <;> rw [hcase] at hmem hdirect' hreadback' <;>
      simp [undecided] at hmem hdirect' hreadback'
  · have henforcement' := hnone henforcement item hitem
    have hbehavior' := hnone hbehavior item hitem
    cases hcase : item.enforcementStatus <;> rw [hcase] at hmem henforcement' hbehavior' <;>
      simp [undecided] at hmem henforcement' hbehavior'

/-! ## The results of the actions -/

section Results

variable {applicator : SecurityApplicator} {plan : SecurityPlan} {results : ResultMap}
  {history : List SecurityEvent}

/-- The result of an action that is not applied says so. -/
def Classified (result : ActionApplicationResult) : Prop :=
  satisfiesApplyDependency result.status = true ∨ result.status = .failed ∨
    result.status = .skipped ∨ result.status = .dependencyBlocked

/-- Every result is that of its action, and is classified. -/
def ResultsClassified (results : ResultMap) : Prop :=
  ∀ identifier result, results.get? identifier = some result →
    result.actionId = identifier ∧ Classified result

lemma ResultsClassified.set (h : ResultsClassified results) {identifier : String}
    {result : ActionApplicationResult} (hid : result.actionId = identifier)
    (hresult : Classified result) : ResultsClassified (results.set identifier result) := by
  intro other result' hget
  rw [Dict.get?_set] at hget
  split_ifs at hget with heq
  · cases hget
    exact ⟨hid.trans heq, hresult⟩
  · exact h other result' hget

lemma classified_dispatchResult (action : SecurityAction)
    (mutation : Option RuntimeActionMutation) : Classified (dispatchResult action mutation) := by
  rcases mutation with _ | mutation
  · exact Or.inr (Or.inl rfl)
  cases happlied : mutation.applied with
  | true => exact Or.inl (by simpa [dispatchResult] using happlied)
  | false =>
    exact Or.inr (Or.inl ((mutationExecutionStatus_eq_failed_iff mutation).mpr happlied))

lemma ResultsClassified.settle (h : ResultsClassified results) (batch : List SecurityAction)
    (answer : Except String (List RuntimeActionMutation)) :
    ResultsClassified (SecurityApplicator.settle batch answer results) := by
  unfold SecurityApplicator.settle
  suffices hall : ∀ (mutations : Dict String RuntimeActionMutation) (rest : List SecurityAction)
      (results : ResultMap), ResultsClassified results →
        ResultsClassified (rest.foldl (fun results action => results.set action.id
          (dispatchResult action (mutations.get? action.id))) results) from hall _ _ _ h
  intro mutations rest
  induction rest with
  | nil => exact fun _ h => h
  | cons action rest ih =>
    intro results h
    have hid : (dispatchResult action (mutations.get? action.id)).actionId = action.id := by
      cases mutations.get? action.id <;> rfl
    exact ih _ (h.set hid (classified_dispatchResult action (mutations.get? action.id)))

lemma ResultsClassified.blockAction (h : ResultsClassified results) (action : SecurityAction) :
    ResultsClassified (SecurityApplicator.blockAction results action) := by
  unfold SecurityApplicator.blockAction
  exact h.set rfl (Or.inr (Or.inr (Or.inr rfl)))

lemma ResultsClassified.foldl_blockAction (h : ResultsClassified results)
    (pending : List SecurityAction) :
    ResultsClassified (pending.foldl SecurityApplicator.blockAction results) := by
  induction pending generalizing results with
  | nil => exact h
  | cons action pending ih => exact ih (h.blockAction action)

lemma resultsClassified_skippedResults (profiles : Dict String SecurityCapabilityProfile) :
    ResultsClassified (skippedResults plan profiles) := by
  intro identifier result hget
  obtain ⟨action, -, rfl, rfl⟩ := Dict.exists_of_get?_ofList hget
  exact ⟨rfl, Or.inr (Or.inr (Or.inl rfl))⟩

lemma ensures_pendingLoop_classified {fuel : ℕ} {pending : List SecurityAction}
    (h : ResultsClassified results) {E : RaisedError → List SecurityEvent → Prop} :
    (applicator.pendingLoop fuel pending results).Ensures history
      (fun results history' => ResultsClassified results ∧ history ⊆ history') E := by
  induction fuel generalizing pending results history with
  | zero => exact ⟨h, List.Subset.refl _⟩
  | succ fuel ih =>
    unfold pendingLoop
    split_ifs
    · exact ⟨h, List.Subset.refl _⟩
    split
    · exact ⟨h.foldl_blockAction pending, List.Subset.refl _⟩
    · simp only [ensures_bind, ensures_exchange]
      refine (ih (h.settle _ _)).imp fun results history' hend => ?_
      exact ⟨hend.1, List.Subset.trans (List.subset_append_left _ _) hend.2⟩

/-- **The results of `_apply_actions`** are those of the actions, in their order, and classified. -/
lemma ensures_applyActions_classified {profiles : Dict String SecurityCapabilityProfile} :
    (applicator.applyActions plan profiles).Ensures history
      (fun results history' => results.map ActionApplicationResult.actionId =
          plan.actions.map SecurityAction.id ∧
        (∀ result ∈ results, Classified result) ∧ history ⊆ history') fun _ _ => True := by
  unfold applyActions
  refine (Interaction.ensures_loop (I := fun _ (results : ResultMap) history' =>
      ResultsClassified results ∧ history ⊆ history')
    ⟨resultsClassified_skippedResults profiles, List.Subset.refl _⟩
    fun _ phase _ results between h => ?_).bind fun results history' h => ?_
  · refine (ensures_pendingLoop_classified h.1).imp fun results history' hend => ?_
    exact ⟨hend.1, List.Subset.trans h.2 hend.2⟩
  · rw [ensures_ofExcept]
    refine ⟨fun list hlist => ⟨?_, fun result hresult => ?_, h.2⟩, fun _ _ => trivial⟩
    · have hids : list.map ActionApplicationResult.actionId =
          (plan.actions.map SecurityAction.id).map id :=
        Fallible.map_eq_map_of_mapM_eq_ok hlist fun identifier result hget =>
          (h.1 identifier result (subscript_eq_ok.mp hget)).1
      rwa [List.map_id] at hids
    · obtain ⟨identifier, -, hget⟩ := Fallible.exists_of_mem_mapM_eq_ok hlist hresult
      exact (h.1 identifier result (subscript_eq_ok.mp hget)).2

end Results

/-! ## The deployed plan -/

section Deployed

variable {plan deployed verificationPlan : SecurityPlan} {request : SecurityApplyRequest}

/-- What decides when an expectation is verified, whatever its devices are called. -/
def verificationCore (item : SecurityVerificationExpectation) :
    String × SecurityProbeKind × List VerificationPrerequisite :=
  (item.id, item.probeKind, item.verificationPrerequisites)

/-- The plan that is executed is the given one, apart from the names of devices and the order and
the explicit prerequisites of its expectations. -/
structure DeployedFrom (plan deployed : SecurityPlan) : Prop where
  actionIds : deployed.actions.map SecurityAction.id = plan.actions.map SecurityAction.id
  nodup : (deployed.verificationExpectations.map SecurityVerificationExpectation.id).Nodup
  cores : (deployed.verificationExpectations.map verificationCore).Perm
    (plan.verificationExpectations.map fun item =>
      verificationCore (normalizedExpectation plan item))
  precede : DependenciesPrecede deployed.verificationExpectations

lemma deployedFrom_normalized (h : normalizedVerificationPlan plan = .ok verificationPlan) :
    DeployedFrom plan verificationPlan := by
  obtain ⟨ordered, hordered, heq⟩ := Fallible.bind_eq_ok.mp h
  rw [← Except.ok.inj heq]
  unfold orderVerificationExpectations at hordered
  split at hordered <;> try contradiction
  next ordered' hdependencies =>
  cases hordered
  obtain ⟨hnodup, -⟩ := nodup_and_closed_of_orderDependencyActions hdependencies
  obtain ⟨hperm, hprecede⟩ := spec_orderDependencyActions hdependencies
  refine ⟨rfl, (hperm.map _).nodup_iff.mpr hnodup, ?_, hprecede⟩
  refine (hperm.map _).trans (List.Perm.of_eq ?_)
  rw [List.map_map]
  rfl

variable {names : Dict String String} {item : SecurityVerificationExpectation}
  {applicator : SecurityApplicator} {history : List SecurityEvent}
  {E : RaisedError → List SecurityEvent → Prop}

lemma verificationCore_deployedExpectation {item' : SecurityVerificationExpectation}
    (h : deployedExpectation names item = .ok item') :
    verificationCore item' = verificationCore item := by
  obtain ⟨source, -, h⟩ := Fallible.bind_eq_ok.mp h
  obtain ⟨destination, -, h⟩ := Fallible.bind_eq_ok.mp h
  rw [← Except.ok.inj h]
  rfl

lemma DeployedFrom.runtimePlan (h : DeployedFrom plan verificationPlan)
    (hrun : SecurityApplicator.runtimePlan verificationPlan names = .ok deployed) :
    DeployedFrom plan deployed := by
  obtain ⟨actions, hactions, hrun⟩ := Fallible.bind_eq_ok.mp hrun
  obtain ⟨expectations, hexpectations, hrun⟩ := Fallible.bind_eq_ok.mp hrun
  rw [← Except.ok.inj hrun]
  have hcores : expectations.map verificationCore =
      verificationPlan.verificationExpectations.map verificationCore :=
    Fallible.map_eq_map_of_mapM_eq_ok hexpectations
      fun _ _ => verificationCore_deployedExpectation
  have hids : expectations.map SecurityVerificationExpectation.id =
      verificationPlan.verificationExpectations.map SecurityVerificationExpectation.id := by
    have hfst := congrArg (List.map Prod.fst) hcores
    rwa [List.map_map, List.map_map] at hfst
  refine ⟨?_, hids ▸ h.nodup, hcores ▸ h.cores, h.precede.of_map_eq ?_⟩
  · refine (Fallible.map_eq_map_of_mapM_eq_ok hactions fun action action' haction => ?_).trans
      h.actionIds
    obtain ⟨name, -, haction⟩ := Fallible.bind_eq_ok.mp haction
    rw [← Except.ok.inj haction]
  · have hpairs := congrArg (List.map fun core : String × SecurityProbeKind ×
      List VerificationPrerequisite => (core.1, verificationReferences core.2.2)) hcores
    rwa [List.map_map, List.map_map] at hpairs

/-- **What an accepted preflight executes** is the normalized plan, possibly for the deployed
devices. -/
lemma ensures_preflight_resolved :
    (applicator.preflight plan request).Ensures history
      (fun answer _ => ∀ deployed, answer = .ok deployed → ∃ verificationPlan,
        normalizedVerificationPlan plan = .ok verificationPlan ∧
          (deployed = verificationPlan ∨ ∃ names,
            SecurityApplicator.runtimePlan verificationPlan names = .ok deployed)) E := by
  unfold preflight
  rcases hstatic : applicator.staticPreflight plan request with refusal | verificationPlan
  · rw [ensures_pure]
    exact fun deployed h => by cases h
  simp only [ensures_bind, ensures_exchange, ensures_pure]
  intro deployed hanswer
  have hnormalized : normalizedVerificationPlan plan = .ok verificationPlan := by
    unfold staticPreflight at hstatic
    split at hstatic <;> try contradiction
    split at hstatic <;> try contradiction
    exact (planPreflight_eq_ok hstatic).2.1
  refine ⟨verificationPlan, hnormalized, ?_⟩
  unfold inventoryPreflight at hanswer
  split at hanswer <;> try contradiction
  next items _ =>
  rcases hresolved : resolvedPlan plan verificationPlan request items with message | resolved
  · simp [hresolved] at hanswer
  simp only [hresolved] at hanswer
  split_ifs at hanswer
  cases hanswer
  unfold resolvedPlan at hresolved
  split at hresolved
  · exact Or.inl (Except.ok.inj hresolved).symm
  · obtain ⟨targets, -, hresolved⟩ := Fallible.bind_eq_ok.mp hresolved
    exact Or.inr ⟨_, hresolved⟩

lemma ensures_preflight_deployed :
    (applicator.preflight plan request).Ensures history
      (fun answer _ => ∀ deployed, answer = .ok deployed → DeployedFrom plan deployed) E := by
  refine ensures_preflight_resolved.imp fun answer _ h deployed hanswer => ?_
  obtain ⟨verificationPlan, hnormalized, rfl | ⟨names, hrun⟩⟩ := h deployed hanswer
  · exact deployedFrom_normalized hnormalized
  · exact (deployedFrom_normalized hnormalized).runtimePlan hrun

lemma DeployedFrom.exists_planned (h : DeployedFrom plan deployed)
    (hitem : item ∈ deployed.verificationExpectations) :
    ∃ planned ∈ plan.verificationExpectations, planned.id = item.id ∧
      planned.probeKind = item.probeKind ∧
      (normalizedExpectation plan planned).verificationPrerequisites =
        item.verificationPrerequisites := by
  obtain ⟨planned, hplanned, hcore⟩ :=
    List.mem_map.mp (h.cores.mem_iff.mp (List.mem_map_of_mem hitem))
  obtain ⟨hid, hrest⟩ := Prod.mk.inj hcore
  obtain ⟨hkind, hprerequisites⟩ := Prod.mk.inj hrest
  exact ⟨planned, hplanned, hid, hkind, hprerequisites⟩

lemma DeployedFrom.exists_deployed (h : DeployedFrom plan deployed)
    {planned : SecurityVerificationExpectation}
    (hplanned : planned ∈ plan.verificationExpectations) :
    ∃ item ∈ deployed.verificationExpectations, item.id = planned.id ∧
      item.probeKind = planned.probeKind := by
  obtain ⟨item, hitem, hcore⟩ :=
    List.mem_map.mp (h.cores.mem_iff.mpr (List.mem_map_of_mem hplanned))
  obtain ⟨hid, hrest⟩ := Prod.mk.inj hcore
  exact ⟨item, hitem, hid, (Prod.mk.inj hrest).1⟩

end Deployed

/-! ## No probe is blocked -/

section Ready

variable {plan deployed : SecurityPlan} {request : SecurityApplyRequest}
  {results : List ActionApplicationResult} {stage : SecurityVerificationStage}

/-- An action that was applied satisfies those who wait for it. -/
lemma accepted_of_applied (hids : results.map ActionApplicationResult.actionId =
      plan.actions.map SecurityAction.id)
    (happlied : ∀ result ∈ results, satisfiesApplyDependency result.status = true)
    {prerequisite : VerificationPrerequisite} (hkind : prerequisite.kind = .actionApplied)
    (hmem : prerequisite.referenceId ∈ plan.actions.map SecurityAction.id)
    (statuses resources : StatusMap) :
    accepted (Dict.ofList (results.map fun item => (item.actionId, item.status))) statuses
      resources prerequisite = true := by
  have hsome : ((Dict.ofList (results.map fun item => (item.actionId, item.status))).get?
      prerequisite.referenceId).isSome = true := by
    rw [Dict.isSome_get?_ofList_iff, List.map_map]
    exact hids ▸ hmem
  obtain ⟨status, hstatus⟩ := Option.isSome_iff_exists.mp hsome
  obtain ⟨result, hresult, -, rfl⟩ := Dict.exists_of_get?_ofList hstatus
  have hsatisfied := happlied result hresult
  simp only [accepted, hkind, statusText, hstatus, Option.map_some, Option.getD_some]
  cases hcase : result.status <;> simp [hcase, satisfiesApplyDependency] at hsatisfied <;> decide

section Filtered

variable (hdeployed : DeployedFrom plan deployed)
  (hgrounded : Grounded plan request.foundationalStatuses)
  (hids : results.map ActionApplicationResult.actionId = deployed.actions.map SecurityAction.id)
  (happlied : ∀ result ∈ results, satisfiesApplyDependency result.status = true)
include hdeployed hgrounded hids happlied

/-- **A stage in which nothing waits for what comes later is ready** when all actions were applied
and the prerequisites are grounded. -/
lemma readyStage_filter {p : SecurityVerificationExpectation → Bool} {known : List String}
    (hreach : ∀ item ∈ deployed.verificationExpectations, p item = true →
      ∀ other ∈ deployed.verificationExpectations, other.id ∈ item.verificationReferences →
        p other = true ∨ other.id ∈ known) :
    ReadyStage (stageContext deployed request results stage) known
      (deployed.verificationExpectations.filter p) := by
  have hprecede : EachAfter (fun before item => ∀ reference ∈ DependencyAction.dependsOn item,
      reference ∈ before.map DependencyAction.id) deployed.verificationExpectations :=
    hdeployed.precede
  refine hprecede.filter fun before item hbefore hitem hp hdepends statuses hverified => ?_
  obtain ⟨planned, hplanned, -, hkind, hprerequisites⟩ := hdeployed.exists_planned hitem
  simp only [StageContext.prerequisites, StageContext.prerequisitesOf, stageContext,
    Bool.false_eq_true, if_false]
  rw [prerequisitesSatisfied_fst]
  intro prerequisite hprerequisite
  have hmet := hgrounded planned hplanned prerequisite (hprerequisites ▸ hprerequisite)
  unfold PrerequisiteGrounded at hmet
  cases hcase : prerequisite.kind with
  | actionApplied =>
    simp only [hcase] at hmet
    exact accepted_of_applied hids happlied hcase (hdeployed.actionIds ▸ hmet) _ _
  | actionVerified => simp [hcase] at hmet
  | verificationVerified =>
    -- the expectation it refers to stands before, in this stage or in those that are known
    have hreference : prerequisite.referenceId ∈ item.verificationReferences :=
      List.mem_map_of_mem (List.mem_filter.mpr ⟨hprerequisite, decide_eq_true hcase⟩)
    obtain ⟨other, hother, hid⟩ := List.mem_map.mp (hdepends _ hreference)
    have hid' : other.id = prerequisite.referenceId := hid
    have hstatus : statuses.get? prerequisite.referenceId = some .verified := by
      refine hverified _ (List.mem_append.mpr ?_)
      rcases hreach item hitem hp other (hbefore hother) (hid' ▸ hreference) with hother' | hknown
      · exact Or.inr (hid' ▸ List.mem_map_of_mem (List.mem_filter.mpr ⟨hother, hother'⟩))
      · exact Or.inl (hid' ▸ hknown)
    simp [accepted, hcase, statusText, hstatus, ActionExecutionStatus.value]
  | _ =>
    simp only [hcase] at hmet
    simp [accepted, hcase, statusText, hmet, ActionExecutionStatus.value]

/-- What is read back waits for what is read back only. -/
lemma readyStage_direct :
    ReadyStage (stageContext deployed request results stage) [] (directExpectations deployed) := by
  refine readyStage_filter hdeployed hgrounded hids happlied
    fun item hitem hp other hother hreference => Or.inl ?_
  obtain ⟨prerequisite, hprerequisite, hid⟩ := List.mem_map.mp hreference
  obtain ⟨hprerequisite, hkind⟩ := List.mem_filter.mp hprerequisite
  obtain ⟨planned, hplanned, -, hprobe, hprerequisites⟩ := hdeployed.exists_planned hitem
  have hmet := hgrounded planned hplanned prerequisite (hprerequisites ▸ hprerequisite)
  unfold PrerequisiteGrounded at hmet
  simp only [of_decide_eq_true hkind] at hmet
  obtain ⟨target, htarget, htargetId, htargetKind⟩ :=
    hmet (hprobe.trans (of_decide_eq_true hp))
  obtain ⟨target', htarget', htargetId', htargetKind'⟩ := hdeployed.exists_deployed htarget
  have heq : target' = other := List.inj_on_of_nodup_map hdeployed.nodup htarget' hother
    (htargetId'.trans (htargetId.trans hid))
  rw [← heq]
  exact decide_eq_true (htargetKind'.trans htargetKind)

lemma readyStage_behavior :
    ReadyStage (stageContext deployed request results stage)
      ((directExpectations deployed).map SecurityVerificationExpectation.id)
      (behaviorExpectations deployed) := by
  refine readyStage_filter hdeployed hgrounded hids happlied
    fun item _ _ other hother _ => ?_
  by_cases hprobe : other.probeKind = .directReadback
  · exact Or.inr (List.mem_map_of_mem (List.mem_filter.mpr ⟨hother, decide_eq_true hprobe⟩))
  · exact Or.inl (decide_eq_true hprobe)

end Filtered

end Ready

/-! ## The report -/

section Report

variable {applicator : SecurityApplicator} {plan deployed : SecurityPlan}
  {request : SecurityApplyRequest} {results : List ActionApplicationResult}
  {verification merged : VerificationMap} {direct behavior : StageScan}
  {outcome : SecurityOutcome} {report : SecurityApplicationResult}

/-- Every result is that of its expectation. -/
def Keyed (verification : VerificationMap) : Prop :=
  ∀ identifier result, verification.get? identifier = some result →
    result.expectationId = identifier

lemma keyed_initialVerification : Keyed (initialVerification plan) := by
  intro identifier result hget
  obtain ⟨item, -, rfl, rfl⟩ := Dict.exists_of_get?_ofList hget
  rfl

lemma Keyed.merge (h : Keyed verification) (observed : List RuntimeSecurityVerification) :
    Keyed (mergeVerification verification observed) := by
  intro identifier result hget
  obtain ⟨before, hbefore, hid, -⟩ := get?_mergeVerification hget
  exact hid.trans (h identifier before hbefore)

/-- Probing what was restored touches neither of the stages that settle expectations. -/
def RecoveredFrom (merged recovered : VerificationMap) : Prop :=
  ∀ identifier result, recovered.get? identifier = some result →
    ∃ before, merged.get? identifier = some before ∧
      result.expectationId = before.expectationId ∧
      ∀ stage, stage ≠ .cleanupRecovery → result.stageStatus stage = before.stageStatus stage

lemma RecoveredFrom.refl (merged : VerificationMap) : RecoveredFrom merged merged :=
  fun _ result hget => ⟨result, hget, rfl, fun _ _ => rfl⟩

/-- What the optional cleanup adds to the results. -/
lemma ensures_cleanupApplied_settled {statuses : StatusMap} {history : List SecurityEvent}
    {E : RaisedError → List SecurityEvent → Prop} :
    (applicator.cleanupApplied deployed request results merged statuses).Ensures history
      (fun outcome history' => history ⊆ history' ∧ outcome.actionResults = results ∧
        ((∀ event ∈ history', InKind event) → RecoveredFrom merged outcome.verification)) E := by
  unfold cleanupApplied
  split_ifs
  · simp only [cleanup, ensures_bind, ensures_exchange,
      ensures_pure]
    have hsub := List.subset_append_left history
    split_ifs
    · simp only [ensures_bind, ensures_pure]
      refine (ensures_runStage_settled (by simp [stageContext])).imp fun scan history' h => ?_
      refine ⟨List.Subset.trans (hsub _) h.1, trivial, fun hkind identifier result hget => ?_⟩
      obtain ⟨before, hbefore, hid, hstages⟩ := get?_mergeVerification hget
      refine ⟨before, hbefore, hid, fun stage hstage => hstages stage fun item hitem _ hlabel => ?_⟩
      have hlabels := List.mem_map_of_mem (f := fun item : RuntimeSecurityVerification =>
        (item.expectationId, item.stage)) hitem
      rw [(h.2 hkind).labels] at hlabels
      obtain ⟨expectation, -, heq⟩ := List.mem_map.mp hlabels
      exact hstage (hlabel.symm.trans (Prod.mk.inj heq).2.symm)
    · rw [ensures_pure]
      exact ⟨hsub _, rfl, fun _ => RecoveredFrom.refl merged⟩
  · rw [ensures_pure]
    exact ⟨List.Subset.refl _, rfl, fun _ => RecoveredFrom.refl merged⟩

/-- **A verified report** lists the result of every expectation, and none of the statuses it was
composed from is tested for. -/
lemma spec_applicationResult (h : applicationResult plan request deployed outcome = .ok report)
    (hstatus : report.status = .verified) :
    report.actionResults = outcome.actionResults ∧
      (∀ item ∈ outcome.actionResults, item.status ≠ .failed ∧ item.status ≠ .skipped ∧
        item.status ≠ .dependencyBlocked) ∧
      ∀ expectation ∈ plan.verificationExpectations, ∃ result ∈ report.verificationResults,
        outcome.verification.get? expectation.id = some result ∧
          result.directStatus ∉ undecided ∧ result.enforcementStatus ∉ undecided := by
  unfold applicationResult at h
  obtain ⟨verificationResults, hresults, h⟩ := Fallible.bind_eq_ok.mp h
  obtain ⟨journal, -, h⟩ := Fallible.bind_eq_ok.mp h
  cases h
  obtain ⟨hactions, hverification⟩ := overall_verified hstatus
  refine ⟨rfl, hactions, fun expectation hexpectation => ?_⟩
  obtain ⟨result, hresult, hget⟩ :=
    Fallible.exists_result_of_mapM_eq_ok hresults (List.mem_map_of_mem hexpectation)
  exact ⟨result, hresult, subscript_eq_ok.mp hget, hverification result hresult⟩

/-- **A stage whose statuses are not tested for** has verified its expectations, when nothing could
be blocked: its observations end up in the slot of the stage. -/
lemma verified_of_settled {stage : SecurityVerificationStage} {start : StatusMap}
    {known : List String} {scan : StageScan} {p : SecurityVerificationExpectation → Bool}
    (hstage : stage ≠ .cleanupRecovery)
    (hsettled : StageSettled (stageContext deployed request results stage) start
      (deployed.verificationExpectations.filter p) scan)
    (hnodup :
      (deployed.verificationExpectations.map SecurityVerificationExpectation.id).Nodup)
    (hslot : ∀ identifier result, outcome.verification.get? identifier = some result →
      ∃ between, (mergeVerification verification scan.observed).get? identifier = some between ∧
        result.stageStatus stage = between.stageStatus stage)
    (hlisted : ∀ item ∈ deployed.verificationExpectations, ∃ result,
      outcome.verification.get? item.id = some result ∧ result.stageStatus stage ∉ undecided)
    (hknown : ∀ identifier ∈ known, start.get? identifier = some .verified)
    (hready : ReadyStage (stageContext deployed request results stage) known
      (deployed.verificationExpectations.filter p)) :
    (∀ item ∈ deployed.verificationExpectations, p item = true → ∀ result,
        outcome.verification.get? item.id = some result → result.stageStatus stage = .verified) ∧
      ∀ identifier ∈ known ++ (deployed.verificationExpectations.filter p).map
        SecurityVerificationExpectation.id, scan.statuses.get? identifier = some .verified := by
  have hids : (scan.observed.map RuntimeSecurityVerification.expectationId).Nodup := by
    rw [hsettled.map_expectationId]
    exact hnodup.sublist (List.filter_sublist.map _)
  have hstatus : ∀ observation ∈ scan.observed, ∀ result,
      outcome.verification.get? observation.expectationId = some result →
        result.stageStatus stage = observation.status := by
    intro observation hobservation result hget
    obtain ⟨between, hbetween, heq⟩ := hslot _ result hget
    have hlabel : observation.stage = stage := (hsettled.exists_expectation hobservation).1
    rw [heq, ← hlabel]
    exact stageStatus_mergeVerification hids hobservation hbetween
  obtain ⟨hverified, hstatuses⟩ := hsettled.verified known hknown hready hstage (by
    intro observation hobservation
    obtain ⟨-, item, hitem, hid⟩ := hsettled.exists_expectation hobservation
    obtain ⟨result, hget, hclean⟩ := hlisted item (List.mem_of_mem_filter hitem)
    rwa [← hstatus observation hobservation result (hid ▸ hget)])
  refine ⟨fun item hitem hp result hget => ?_, hstatuses⟩
  obtain ⟨observation, hobservation, hid⟩ :=
    hsettled.exists_observed (List.mem_filter.mpr ⟨hitem, hp⟩)
  rw [hstatus observation hobservation result (hid ▸ hget), hverified observation hobservation]

/-- **What a verified report says**, when nothing could be blocked and the stages were settled. -/
lemma fullySettled_of_verified (hdeployed : DeployedFrom plan deployed)
    (hgrounded : Grounded plan request.foundationalStatuses)
    (hids : outcome.actionResults.map ActionApplicationResult.actionId =
      deployed.actions.map SecurityAction.id)
    (hclassified : ∀ result ∈ outcome.actionResults, Classified result)
    (hkeyed : Keyed verification)
    (hdirect : StageSettled (stageContext deployed request outcome.actionResults .directState)
      .empty (directExpectations deployed) direct)
    (hbehavior : StageSettled
      (stageContext deployed request outcome.actionResults .enforcementBehavior)
      direct.statuses (behaviorExpectations deployed) behavior)
    (hrecovered : RecoveredFrom (mergeVerification (mergeVerification verification direct.observed)
      behavior.observed) outcome.verification)
    (hreport : applicationResult plan request deployed outcome = .ok report)
    (hstatus : report.status = .verified) : FullySettled plan report := by
  obtain ⟨hresults, hactions, hverification⟩ := spec_applicationResult hreport hstatus
  have happlied : ∀ result ∈ outcome.actionResults,
      satisfiesApplyDependency result.status = true := by
    intro result hresult
    obtain ⟨hfailed, hskipped, hblocked⟩ := hactions result hresult
    rcases hclassified result hresult with h | h | h | h
    · exact h
    · exact absurd h hfailed
    · exact absurd h hskipped
    · exact absurd h hblocked
  have hlisted : ∀ item ∈ deployed.verificationExpectations, ∃ result,
      outcome.verification.get? item.id = some result ∧ result.directStatus ∉ undecided ∧
        result.enforcementStatus ∉ undecided := by
    intro item hitem
    obtain ⟨planned, hplanned, hid, -⟩ := hdeployed.exists_planned hitem
    obtain ⟨result, -, hget, hclean⟩ := hverification planned hplanned
    exact ⟨result, hid ▸ hget, hclean⟩
  -- the read-back comes first and waits for no probe
  have hdirectSlot : ∀ identifier result,
      outcome.verification.get? identifier = some result →
      ∃ between, (mergeVerification verification direct.observed).get? identifier =
        some between ∧ result.stageStatus .directState = between.stageStatus .directState := by
    intro identifier result hget
    obtain ⟨between, hbetween, -, hstages⟩ := hrecovered identifier result hget
    obtain ⟨before, hbefore, -, hframe⟩ := get?_mergeVerification hbetween
    refine ⟨before, hbefore, (hstages _ (by decide)).trans (hframe _ fun item hitem _ => ?_)⟩
    rw [(hbehavior.exists_expectation hitem).1]
    exact nofun
  have hbehaviorSlot : ∀ identifier result,
      outcome.verification.get? identifier = some result →
      ∃ between, (mergeVerification (mergeVerification verification direct.observed)
        behavior.observed).get? identifier = some between ∧
          result.stageStatus .enforcementBehavior = between.stageStatus .enforcementBehavior := by
    intro identifier result hget
    obtain ⟨between, hbetween, -, hstages⟩ := hrecovered identifier result hget
    exact ⟨between, hbetween, hstages _ (by decide)⟩
  obtain ⟨hdirectVerified, hknown⟩ := verified_of_settled (by decide) hdirect hdeployed.nodup
    hdirectSlot (fun item hitem => (hlisted item hitem).imp fun _ h => ⟨h.1, h.2.1⟩)
    (fun _ hmem => absurd hmem List.not_mem_nil)
    (readyStage_direct hdeployed hgrounded hids happlied)
  obtain ⟨hbehaviorVerified, -⟩ := verified_of_settled (by decide) hbehavior hdeployed.nodup
    hbehaviorSlot (fun item hitem => (hlisted item hitem).imp fun _ h => ⟨h.1, h.2.2⟩)
    hknown (readyStage_behavior hdeployed hgrounded hids happlied)
  constructor
  · intro action haction
    have hmem : action.id ∈ outcome.actionResults.map ActionApplicationResult.actionId := by
      rw [hids, hdeployed.actionIds]
      exact List.mem_map_of_mem haction
    obtain ⟨result, hresult, hid⟩ := List.mem_map.mp hmem
    exact ⟨result, hresults ▸ hresult, hid, happlied result hresult⟩
  · intro planned hplanned
    obtain ⟨item, hitem, hid, hprobe⟩ := hdeployed.exists_deployed hplanned
    obtain ⟨result, hresult, hget, -⟩ := hverification planned hplanned
    have hkeyed' : result.expectationId = planned.id := by
      obtain ⟨between, hbetween, hsame, -⟩ := hrecovered _ result hget
      exact hsame.trans ((hkeyed.merge _).merge _ _ between hbetween)
    refine ⟨result, hresult, hkeyed', ?_⟩
    unfold settledStatus
    rw [← hid] at hget
    split_ifs with hkind
    · exact hdirectVerified item hitem (decide_eq_true (hprobe.trans hkind)) result hget
    · exact hbehaviorVerified item hitem (decide_eq_true (hprobe ▸ hkind)) result hget

end Report

/-! ## The whole run -/

section Run

variable {applicator : SecurityApplicator} {plan deployed : SecurityPlan}
  {request : SecurityApplyRequest} {history : List SecurityEvent}

lemma status_of_failure {refusal : Refusal} {results : List SecurityVerificationResult}
    {report : SecurityApplicationResult}
    (h : failure plan request refusal results = .ok report) : report.status = .failed := by
  obtain ⟨journal, -, hreport⟩ := Fallible.bind_eq_ok.mp h
  rw [← Except.ok.inj hreport]

/-- After the baselines were verified. -/
lemma ensures_applyVerified_settled {verification : VerificationMap}
    (hdeployed : DeployedFrom plan deployed)
    (hgrounded : Grounded plan request.foundationalStatuses) (hkeyed : Keyed verification) :
    (applicator.applyVerified plan request deployed verification).Ensures history
      (fun report trace => (∀ event ∈ trace, InKind event) → report.status = .verified →
        FullySettled plan report) fun _ _ => True := by
  unfold applyVerified
  refine ensures_applyActions_classified.bind fun results history hactions => ?_
  obtain ⟨hids, hclassified, -⟩ := hactions
  simp only [verifyApplied, ensures_bind, ensures_pure]
  refine (ensures_runStage_settled (by simp [stageContext])).imp fun direct between hdirect => ?_
  refine (ensures_runStage_settled (by simp [stageContext])).imp fun behavior after hbehavior => ?_
  refine ensures_cleanupApplied_settled.imp fun outcome trace hcleanup => ?_
  rw [ensures_ofExcept]
  refine ⟨fun report hreport hkind hstatus => ?_, fun _ _ => trivial⟩
  obtain ⟨hsub, rfl, hrecovered⟩ := hcleanup
  have hafter : ∀ event ∈ after, InKind event := fun event hevent => hkind event (hsub hevent)
  have hbetween : ∀ event ∈ between, InKind event :=
    fun event hevent => hafter event (hbehavior.1 hevent)
  exact fullySettled_of_verified hdeployed hgrounded hids hclassified hkeyed
    (hdirect.2 hbetween) (hbehavior.2 hafter) (hrecovered hkind) hreport hstatus

/-- **A verified security report.**  When the prerequisites of the expectations are grounded in the
plan and its foundations, and the runtime answers in kind, a report whose overall status is
`VERIFIED` says that every action was applied and every expectation verified in the stage that
settles it. -/
theorem fullySettled_of_answersInKind (applicator : SecurityApplicator) (plan : SecurityPlan)
    (request : SecurityApplyRequest) (report : SecurityApplicationResult)
    (trace : List SecurityEvent) (hgrounded : Grounded plan request.foundationalStatuses)
    (hrun : (applicator.apply plan request).run [] = (.ok report, trace))
    (hanswers : ∀ event ∈ trace, InKind event) (hstatus : report.status = .verified) :
    FullySettled plan report := by
  have hended : (applicator.apply plan request).Ensures []
      (fun report trace => (∀ event ∈ trace, InKind event) → report.status = .verified →
        FullySettled plan report) fun _ _ => True := by
    unfold apply
    refine ensures_preflight_deployed.bind fun answer history hdeployed => ?_
    rcases answer with refusal | deployed
    · rw [ensures_ofExcept]
      refine ⟨fun report hreport _ hverified => ?_, fun _ _ => trivial⟩
      rw [status_of_failure hreport] at hverified
      cases hverified
    simp only [applyPrepared, ensures_bind]
    refine ensures_runStage.imp fun baseline between _ => ?_
    split_ifs
    · rw [ensures_ofExcept]
      refine ⟨fun report hreport _ hverified => ?_, fun _ _ => trivial⟩
      rw [status_of_failure hreport] at hverified
      cases hverified
    · exact ensures_applyVerified_settled (hdeployed deployed rfl) hgrounded
        (keyed_initialVerification.merge _)
  exact hended.of_run_eq_ok hrun hanswers hstatus

end Run

/-! ## A verified report, and one that should not be -/

/-- A plan that hardens the router `R1`. -/
def hardeningPlan (expectations : List SecurityVerificationExpectation) : SecurityPlan :=
  { id := "security"
    sourceTopologyId := "topology"
    sourceTopologyHash := "physical"
    sourceConfigurationId := "configuration"
    sourceConfigurationHash := "configured"
    actions :=
      [{ id := "harden"
         phase := .hardening
         deviceId := "r1"
         deviceName := "R1"
         model := "2911"
         siteId := "site"
         requiredCapability := .hardeningConfig
         detail := .applyDeviceHardening "policy" "Authorised use only." true }]
    verificationExpectations := expectations }

/-- The hardening is read back when the given prerequisites are met. -/
def hardeningState (prerequisites : List VerificationPrerequisite) :
    SecurityVerificationExpectation :=
  { id := "state"
    kind := .hardeningState
    actionId := "harden"
    policyId := "policy"
    probeKind := .directReadback
    verificationPrerequisites := prerequisites }

/-- Traffic passes once the hardening was read back. -/
def hardenedTraffic : SecurityVerificationExpectation :=
  { id := "traffic"
    kind := .trafficPolicy
    actionId := "harden"
    policyId := "policy"
    probeKind := .icmpReachability
    verificationPrerequisites := [{ kind := .verificationVerified, referenceId := "state" }] }

/-- An application to a router that supports all that the plan needs. -/
def hardeningRequest : SecurityApplyRequest :=
  { actualSourceTopologyHash := "physical"
    actualSourceConfigurationHash := "configured"
    foundationalStatuses := .empty
    capabilities := Dict.ofList
      [("2911",
        { model := "2911"
          dimensions := Dict.ofList [(.hardeningConfig, .supported),
            (.hardeningReadback, .supported), (.aclBehavioral, .supported)] })] }

/-- A runtime on which everything goes as expected. -/
def obedientApplicator : SecurityApplicator where
  runtime :=
    { inventory := fun _ => .ok [{ deviceName := "R1", model := "2911" }]
      applyActions := fun _ actions =>
        .ok (actions.map fun action => { actionId := action.id, applied := true })
      observe := fun _ expectations =>
        .ok (expectations.map fun item =>
          { expectationId := item.id, stage := .directState, status := .verified })
      verifyBehavior := fun _ expectations stage =>
        .ok (expectations.map fun item =>
          { expectationId := item.id, stage := stage, status := .verified })
      cleanupActions := fun _ actions =>
        .ok (actions.map fun action => { actionId := action.id, applied := true }) }
  semanticHash := fun _ => ""
  casefold := id

/-- Whether a run returned a report and a history with a property. -/
def reports (p : SecurityApplicationResult → List SecurityEvent → Bool)
    (outcome : Except RaisedError SecurityApplicationResult × List SecurityEvent) : Bool :=
  match outcome with
  | (.ok report, trace) => p report trace
  | _ => false

lemma exists_of_reports {p : SecurityApplicationResult → List SecurityEvent → Bool}
    {outcome : Except RaisedError SecurityApplicationResult × List SecurityEvent}
    (h : reports p outcome = true) :
    ∃ report trace, outcome = (.ok report, trace) ∧ p report trace = true := by
  obtain ⟨result, trace⟩ := outcome
  cases result with
  | error e => simp [reports] at h
  | ok report => exact ⟨report, trace, rfl, h⟩

/-- A run with a verified report. -/
theorem fullySettled_of_answersInKind_obedient :
    ∃ report trace,
      (obedientApplicator.apply (hardeningPlan [hardenedTraffic, hardeningState []])
        hardeningRequest).run [] = (.ok report, trace) ∧ report.status = .verified ∧
      FullySettled (hardeningPlan [hardenedTraffic, hardeningState []]) report := by
  obtain ⟨report, trace, hrun, hreport⟩ := exists_of_reports
    (p := fun report trace => report.status = .verified ∧ ∀ event ∈ trace, InKind event)
    (show reports _ ((obedientApplicator.apply (hardeningPlan [hardenedTraffic, hardeningState []])
      hardeningRequest).run []) = true by decide)
  obtain ⟨hstatus, hanswers⟩ := of_decide_eq_true hreport
  refine ⟨report, trace, hrun, hstatus, fullySettled_of_answersInKind obedientApplicator _
    hardeningRequest report trace ?_ hrun hanswers hstatus⟩
  intro expectation hexpectation prerequisite hprerequisite
  rcases List.mem_pair.mp hexpectation with rfl | rfl
  · obtain rfl := List.mem_singleton.mp hprerequisite
    exact fun hprobe => absurd hprobe (by decide)
  · obtain rfl := List.mem_singleton.mp hprerequisite
    exact List.mem_singleton_self "harden"

/-- A report may be verified although its only expectation was blocked by a resource that is not
ready. -/
theorem not_forall_verified_fullySettled :
    ¬∀ (applicator : SecurityApplicator) (plan : SecurityPlan) (request : SecurityApplyRequest)
      (report : SecurityApplicationResult) (trace : List SecurityEvent),
      (applicator.apply plan request).run [] = (.ok report, trace) →
      report.status = .verified → FullySettled plan report := by
  intro hall
  obtain ⟨report, trace, hrun, hreport⟩ := exists_of_reports
    (p := fun report _ => report.status = .verified ∧
      ∀ result ∈ report.verificationResults, result.directStatus = .dependencyBlocked)
    (show reports _ ((obedientApplicator.apply
      (hardeningPlan [hardeningState [{ kind := .resourceReady, referenceId := "power" }]])
      hardeningRequest).run []) = true by decide)
  obtain ⟨hstatus, hblocked⟩ := of_decide_eq_true hreport
  obtain ⟨result, hresult, -, hsettled⟩ :=
    (hall _ _ _ report trace hrun hstatus).verified _ List.mem_cons_self
  have hdirect : result.directStatus = .verified := hsettled
  rw [hblocked result hresult] at hdirect
  cases hdirect

end SecurityApplicator

end PacketTracer
