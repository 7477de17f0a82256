import PacketTracer.Application.SecurityVerdict
import PacketTracer.Domain.ExecutionResidue

/-!
# What a clean security run has undone

With cleanup control, the journal is marked clean when every cleanup result satisfies and every
expectation that has to recover shows a verified cleanup status.  That status is a slot of the
result of the expectation, and every observation writes into the slot of the stage that it names.
A run in which no answer to another question names the recovery stage (`SparesRecovery`) is clean
only when the runtime has undone every applied action and verified every recovery (`Restored`).
-/

namespace PacketTracer

open Dicts Interactions
open Interaction (ensures_bind ensures_exchange ensures_pure ensures_ofExcept)

namespace ApplicationExecutionJournal

/-- **A cleanup that is not known to have succeeded leaves a residue.** -/
lemma dirtyState_markCleanup_ne_clean (journal : ApplicationExecutionJournal)
    {status : CompensationStatus} (hstatus : status = .failed ∨ status = .unknown) :
    (journal.markCleanup status).dirtyState ≠ .clean := by
  have hfloor : verdictFloor status ≠ .clean := by
    rcases hstatus with rfl | rfl <;> decide
  have hclean : ¬(status = .succeeded ∧ true = true) := by
    rintro ⟨rfl, -⟩
    rcases hstatus with h | h <;> cases h
  have hle : verdictFloor status ≤ (journal.markCleanup status).dirtyState := by
    rw [markCleanup, recordVerdict_dirtyState status true hclean, if_pos hstatus]
    exact le_max_of_le_left (le_max_of_le_left le_rfl)
  intro hdirty
  rw [hdirty] at hle
  exact hfloor (le_antisymm hle (DirtyState.clean_le _))

end ApplicationExecutionJournal

namespace SecurityApplicator

/-! ## What a history shows -/

/-- The runtime has undone an action. -/
def UndoneIn (trace : List SecurityEvent) (identifier : String) : Prop :=
  ∃ actions answer, SecurityEvent.cleanupActions actions (.ok answer) ∈ trace ∧ ∃ mutation,
    (Dict.ofList (answer.map fun item => (item.actionId, item))).get? identifier =
      some mutation ∧ mutation.applied = true

/-- The runtime has answered the probe of a recovery with a verified observation. -/
def RecoveryVerifiedIn (trace : List SecurityEvent) (identifier : String) : Prop :=
  ∃ expectation answer,
    SecurityEvent.verifyBehavior [expectation] .cleanupRecovery (.ok answer) ∈ trace ∧
      expectation.id = identifier ∧ ∃ item,
        (Dict.ofList (answer.map fun item => (item.expectationId, item))).get? identifier =
          some item ∧ item.status = .verified

/-- What a run has put back: every applied action has a successful cleanup result and was undone by
the runtime, and every expectation of an applied action that has to recover was verified in the
recovery stage. -/
structure Restored (plan : SecurityPlan) (report : SecurityApplicationResult)
    (trace : List SecurityEvent) : Prop where
  undone : ∀ result ∈ report.actionResults, satisfiesApplyDependency result.status = true →
    (∃ cleanup ∈ report.cleanupResults, cleanup.actionId = result.actionId ∧
      satisfiesApplyDependency cleanup.status = true) ∧ UndoneIn trace result.actionId
  recovered : ∀ expectation ∈ plan.verificationExpectations,
    expectation.cleanupRecoveryRequired = true →
    (∃ result ∈ report.actionResults, result.actionId = expectation.actionId ∧
      satisfiesApplyDependency result.status = true) →
    RecoveryVerifiedIn trace expectation.id

/-- No observation about the expectations that were asked about says that one has recovered. -/
def ClaimsNoRecovery (expectations : List SecurityVerificationExpectation)
    (answer : List RuntimeSecurityVerification) : Prop :=
  ∀ expectation ∈ expectations, ∀ item,
    (Dict.ofList (answer.map fun item => (item.expectationId, item))).get? expectation.id =
      some item → item.stage = .cleanupRecovery → item.status ≠ .verified

/-- Only the probes of the recovery stage are answered with a verified recovery. -/
def SparesRecovery : SecurityEvent → Prop
  | .observe expectations (.ok answer) => ClaimsNoRecovery expectations answer
  | .verifyBehavior expectations stage (.ok answer) =>
    stage ≠ .cleanupRecovery → ClaimsNoRecovery expectations answer
  | _ => True

instance (expectations : List SecurityVerificationExpectation)
    (answer : List RuntimeSecurityVerification) :
    Decidable (ClaimsNoRecovery expectations answer) :=
  inferInstanceAs (Decidable (∀ expectation ∈ expectations, ∀ item ∈
    (Dict.ofList (answer.map fun item => (item.expectationId, item))).get? expectation.id,
      item.stage = .cleanupRecovery → item.status ≠ .verified))

instance : DecidablePred SparesRecovery
  | .observe expectations (.ok answer) =>
    inferInstanceAs (Decidable (ClaimsNoRecovery expectations answer))
  | .verifyBehavior expectations stage (.ok answer) =>
    inferInstanceAs (Decidable (stage ≠ .cleanupRecovery → ClaimsNoRecovery expectations answer))
  | .inventory _ | .applyActions _ _ | .cleanupActions _ _ | .observe _ (.error _)
  | .verifyBehavior _ _ (.error _) => .isTrue trivial

lemma RecoveryVerifiedIn.mono {trace trace' : List SecurityEvent} {identifier : String}
    (h : RecoveryVerifiedIn trace identifier) (hsub : trace ⊆ trace') :
    RecoveryVerifiedIn trace' identifier := by
  obtain ⟨expectation, answer, hevent, hrest⟩ := h
  exact ⟨expectation, answer, hsub hevent, hrest⟩

/-! ## Where a verified recovery comes from -/

section Stage

variable {applicator : SecurityApplicator} {context : StageContext}
  {expectation : SecurityVerificationExpectation} {history : List SecurityEvent}

/-- Every observation that says an expectation has recovered was answered in the recovery stage. -/
def RecoveriesAnswered (trace : List SecurityEvent)
    (observed : List RuntimeSecurityVerification) : Prop :=
  ∀ item ∈ observed, item.stage = .cleanupRecovery → item.status = .verified →
    RecoveryVerifiedIn trace item.expectationId

lemma RecoveriesAnswered.mono {trace trace' : List SecurityEvent}
    {observed : List RuntimeSecurityVerification} (h : RecoveriesAnswered trace observed)
    (hsub : trace ⊆ trace') : RecoveriesAnswered trace' observed :=
  fun item hitem hstage hstatus => (h item hitem hstage hstatus).mono hsub

/-- A verified observation is what the runtime answered about its expectation. -/
lemma eq_of_observedVerification_verified {stage : SecurityVerificationStage}
    {answer : Except String (List RuntimeSecurityVerification)}
    (h : (observedVerification expectation stage answer).status = .verified) :
    ∃ observed, answer = .ok observed ∧
      (Dict.ofList (observed.map fun item => (item.expectationId, item))).get? expectation.id =
        some (observedVerification expectation stage answer) ∧
      (observedVerification expectation stage answer).expectationId = expectation.id := by
  obtain ⟨observed, rfl, item, hget, -⟩ := observedVerification_verified h
  have hitem : observedVerification expectation stage (.ok observed) = item := by
    simp only [observedVerification, hget, Option.getD_some]
  obtain ⟨other, -, hid, rfl⟩ := Dict.exists_of_get?_ofList hget
  exact ⟨observed, rfl, hitem ▸ hget, hitem ▸ hid⟩

variable {E : RaisedError → List SecurityEvent → Prop}

/-- **One expectation of a stage** adds an observation that claims a recovery only when the runtime
verified it in the recovery stage. -/
lemma ensures_verifyExpectation_recovery {scan : StageScan} :
    (applicator.verifyExpectation context scan expectation).Ensures history
      (fun scan' history' => history ⊆ history' ∧ ((∀ event ∈ history', SparesRecovery event) →
        ∃ item, scan'.observed = scan.observed ++ [item] ∧ RecoveriesAnswered history' [item])) E := by
  unfold verifyExpectation
  split
  · next item hgated =>
    rw [ensures_pure]
    refine ⟨List.Subset.refl _, fun _ => ⟨item, rfl, fun other hother _ hstatus => ?_⟩⟩
    rw [List.mem_singleton.mp hother] at hstatus
    exact absurd hstatus (status_ne_of_gated hgated)
  · rw [ensures_bind, askRuntime]
    split_ifs with hdirect
    · rw [ensures_exchange, ensures_pure]
      refine ⟨List.subset_append_left _ _, fun hspares => ⟨_, rfl, fun item hitem hstage hstatus =>
        ?_⟩⟩
      rw [List.mem_singleton.mp hitem] at hstage hstatus
      obtain ⟨observed, hanswer, hget, -⟩ := eq_of_observedVerification_verified hstatus
      have hspared := hspares _ (List.mem_concat_self)
      rw [hanswer] at hspared
      exact absurd hstatus (hspared expectation (List.mem_singleton_self _) _ hget hstage)
    · rw [ensures_exchange, ensures_pure]
      refine ⟨List.subset_append_left _ _, fun hspares => ⟨_, rfl, fun item hitem hstage hstatus =>
        ?_⟩⟩
      have hlast := List.mem_append_right history (List.mem_singleton_self
        (SecurityEvent.verifyBehavior [expectation] context.stage
          (applicator.runtime.verifyBehavior history [expectation] context.stage)))
      rw [List.mem_singleton.mp hitem] at hstage hstatus ⊢
      obtain ⟨observed, hanswer, hget, hid⟩ := eq_of_observedVerification_verified hstatus
      rw [hid]
      by_cases hrecovery : context.stage = .cleanupRecovery
      · rw [hanswer, hrecovery] at hlast
        rw [hanswer, hrecovery]
        exact ⟨expectation, observed, hlast, rfl, _, hanswer ▸ hget, hanswer ▸ hstatus⟩
      · have hspared := hspares _ hlast
        rw [hanswer] at hspared
        exact absurd hstatus
          (hspared hrecovery expectation (List.mem_singleton_self _) _ hget hstage)

/-- **A stage** claims a recovery only when the runtime verified it in the recovery stage. -/
lemma ensures_runStage_recovery {expectations : List SecurityVerificationExpectation}
    {statuses : StatusMap} :
    (applicator.runStage context expectations statuses).Ensures history
      (fun scan history' => history ⊆ history' ∧ ((∀ event ∈ history', SparesRecovery event) →
        RecoveriesAnswered history' scan.observed)) E := by
  refine Interaction.ensures_loop (I := fun _ (scan : StageScan) history' =>
      history ⊆ history' ∧ ((∀ event ∈ history', SparesRecovery event) →
        RecoveriesAnswered history' scan.observed))
    ⟨List.Subset.refl _, fun _ item hitem => absurd hitem List.not_mem_nil⟩ ?_
  intro done expectation _ scan history' ⟨hsub, hdone⟩
  refine ensures_verifyExpectation_recovery.imp fun scan' history'' hstep => ?_
  refine ⟨List.Subset.trans hsub hstep.1, fun hspares => ?_⟩
  obtain ⟨item, hobserved, hitem⟩ := hstep.2 hspares
  have hearlier := (hdone fun event hevent => hspares event (hstep.1 hevent)).mono hstep.1
  rw [hobserved]
  intro other hother
  rcases List.mem_append.mp hother with hother | hother
  · exact hearlier other hother
  · exact hitem other hother

end Stage

section Merge

variable {plan : SecurityPlan} {verification : VerificationMap}
  {observed : List RuntimeSecurityVerification} {trace trace' : List SecurityEvent}

/-- Every verified cleanup status was answered in the recovery stage. -/
def RecoveryBacked (trace : List SecurityEvent) (verification : VerificationMap) : Prop :=
  ∀ identifier result, verification.get? identifier = some result →
    result.cleanupStatus = .verified → RecoveryVerifiedIn trace identifier

lemma recoveryBacked_initialVerification : RecoveryBacked trace (initialVerification plan) := by
  intro identifier result hget hstatus
  obtain ⟨item, -, rfl, rfl⟩ := Dict.exists_of_get?_ofList hget
  cases hstatus

lemma RecoveryBacked.mono (h : RecoveryBacked trace verification) (hsub : trace ⊆ trace') :
    RecoveryBacked trace' verification :=
  fun identifier result hget hstatus => (h identifier result hget hstatus).mono hsub

/-- One observation writes into the slot of the stage that it names. -/
lemma RecoveryBacked.mergeItem {item : RuntimeSecurityVerification}
    (h : RecoveryBacked trace verification)
    (hitem : item.stage = .cleanupRecovery → item.status = .verified →
      RecoveryVerifiedIn trace item.expectationId) :
    RecoveryBacked trace (SecurityApplicator.mergeItem verification item) := by
  intro identifier result hget hstatus
  obtain ⟨before, hbefore, rfl⟩ := get?_mergeItem hget
  have hslot : ∀ result : SecurityVerificationResult,
      result.cleanupStatus = result.stageStatus .cleanupRecovery := fun _ => rfl
  by_cases hid : item.expectationId = identifier
  · rw [if_pos hid, hslot, SecurityVerificationResult.stageStatus_merge] at hstatus
    by_cases hstage : item.stage = .cleanupRecovery
    · rw [if_pos hstage] at hstatus
      exact hid ▸ hitem hstage hstatus
    · rw [if_neg hstage] at hstatus
      exact h identifier before hbefore hstatus
  · rw [if_neg hid] at hstatus
    exact h identifier before hbefore hstatus

/-- **What a merge keeps**: verified cleanup statuses come from the recovery stage. -/
lemma RecoveryBacked.merge (h : RecoveryBacked trace verification)
    (hobserved : RecoveriesAnswered trace observed) :
    RecoveryBacked trace (mergeVerification verification observed) := by
  induction observed generalizing verification with
  | nil => exact h
  | cons item observed ih =>
    refine ih (h.mergeItem (hobserved item List.mem_cons_self)) fun other hother => ?_
    exact hobserved other (List.mem_cons_of_mem _ hother)

end Merge

/-! ## The plan that is executed -/

section Deployed

variable {plan deployed : SecurityPlan} {request : SecurityApplyRequest}

/-- What decides which expectations have to recover. -/
def recoveryCore (item : SecurityVerificationExpectation) : String × String × Bool :=
  (item.id, item.actionId, item.cleanupRecoveryRequired)

/-- The expectations that are executed have to recover as the given ones do. -/
def RecoversAs (plan deployed : SecurityPlan) : Prop :=
  (deployed.verificationExpectations.map recoveryCore).Perm
    (plan.verificationExpectations.map recoveryCore)

lemma recoversAs_normalized (h : normalizedVerificationPlan plan = .ok deployed) :
    RecoversAs plan deployed := by
  obtain ⟨ordered, hordered, heq⟩ := Fallible.bind_eq_ok.mp h
  rw [← Except.ok.inj heq]
  unfold orderVerificationExpectations at hordered
  split at hordered <;> try contradiction
  next ordered' hdependencies =>
  cases hordered
  refine ((spec_orderDependencyActions hdependencies).1.map recoveryCore).trans
    (List.Perm.of_eq ?_)
  rw [List.map_map]
  rfl

lemma RecoversAs.runtimePlan {verificationPlan : SecurityPlan}
    (h : RecoversAs plan verificationPlan) {names : Dict String String}
    (hrun : SecurityApplicator.runtimePlan verificationPlan names = .ok deployed) :
    RecoversAs plan deployed := by
  obtain ⟨actions, -, hrun⟩ := Fallible.bind_eq_ok.mp hrun
  obtain ⟨expectations, hexpectations, hrun⟩ := Fallible.bind_eq_ok.mp hrun
  rw [← Except.ok.inj hrun]
  have hcores : expectations.map recoveryCore =
      verificationPlan.verificationExpectations.map recoveryCore := by
    refine Fallible.map_eq_map_of_mapM_eq_ok hexpectations fun item item' hitem => ?_
    obtain ⟨source, -, hitem⟩ := Fallible.bind_eq_ok.mp hitem
    obtain ⟨destination, -, hitem⟩ := Fallible.bind_eq_ok.mp hitem
    rw [← Except.ok.inj hitem]
    rfl
  unfold RecoversAs
  rw [hcores]
  exact h

lemma RecoversAs.exists_deployed (h : RecoversAs plan deployed)
    {planned : SecurityVerificationExpectation}
    (hplanned : planned ∈ plan.verificationExpectations) :
    ∃ item ∈ deployed.verificationExpectations, item.id = planned.id ∧
      item.actionId = planned.actionId ∧
      item.cleanupRecoveryRequired = planned.cleanupRecoveryRequired := by
  obtain ⟨item, hitem, hcore⟩ := List.mem_map.mp (h.mem_iff.mpr (List.mem_map_of_mem hplanned))
  obtain ⟨hid, hrest⟩ := Prod.mk.inj hcore
  obtain ⟨haction, hrequired⟩ := Prod.mk.inj hrest
  exact ⟨item, hitem, hid, haction, hrequired⟩

end Deployed

/-! ## The cleanup -/

section Cleanup

variable {applicator : SecurityApplicator} {plan deployed : SecurityPlan}
  {request : SecurityApplyRequest} {results : List ActionApplicationResult}
  {verification : VerificationMap} {statuses : StatusMap} {history : List SecurityEvent}
  {outcome : SecurityOutcome} {report : SecurityApplicationResult}

/-- The cleanup has one result for each applied action, and a successful one was answered. -/
structure CleanedUp (deployed : SecurityPlan) (trace : List SecurityEvent)
    (outcome : SecurityOutcome) : Prop where
  listed : outcome.cleanupResults.map ActionApplicationResult.actionId =
    (cleanupActions deployed outcome.actionResults).map SecurityAction.id
  answered : ∀ cleanup ∈ outcome.cleanupResults,
    satisfiesApplyDependency cleanup.status = true → UndoneIn trace cleanup.actionId

/-- A successful cleanup result is an answer of the runtime. -/
lemma exists_mutation_of_cleanupResult {action : SecurityAction} {actions : List SecurityAction}
    {answer : Except String (List RuntimeActionMutation)}
    (h : satisfiesApplyDependency (cleanupResult action
      ((mutationsOf actions .securityCleanupFailed answer).get? action.id)).status = true) :
    ∃ mutations, answer = .ok mutations ∧ ∃ mutation,
      (Dict.ofList (mutations.map fun item => (item.actionId, item))).get? action.id =
        some mutation ∧ mutation.applied = true := by
  rcases hget : (mutationsOf actions .securityCleanupFailed answer).get? action.id with _ | mutation
  · simp [hget, cleanupResult, satisfiesApplyDependency] at h
  have happlied : mutation.applied = true := by simpa [hget, cleanupResult] using h
  cases answer with
  | ok mutations => exact ⟨mutations, rfl, mutation, hget, happlied⟩
  | error message =>
    -- after an exception every mutation counts as not applied
    obtain ⟨other, -, -, rfl⟩ := Dict.exists_of_get?_ofList hget
    cases happlied

/-- **The optional cleanup** lists its results, and what it says about recoveries was answered in
the recovery stage. -/
lemma ensures_cleanupApplied_recovery (hcontrol : request.cleanupControl = true)
    {E : RaisedError → List SecurityEvent → Prop} :
    (applicator.cleanupApplied deployed request results verification statuses).Ensures history
      (fun outcome history' => history ⊆ history' ∧ outcome.actionResults = results ∧
        CleanedUp deployed history' outcome ∧ (RecoveryBacked history verification →
          (∀ event ∈ history', SparesRecovery event) →
            RecoveryBacked history' outcome.verification)) E := by
  unfold cleanupApplied
  rw [if_pos hcontrol]
  simp only [cleanup, ensures_bind, ensures_exchange,
    ensures_pure]
  set event := SecurityEvent.cleanupActions (cleanupActions deployed results)
    (applicator.runtime.cleanupActions history (cleanupActions deployed results)) with hevent
  have hsub : history ⊆ history ++ [event] := List.subset_append_left _ _
  have hlisted : ∀ trace, history ++ [event] ⊆ trace → ∀ verification,
      CleanedUp deployed trace
        { actionResults := results
          verification := verification
          cleanupResults := (cleanupActions deployed results).map fun action =>
            cleanupResult action ((mutationsOf (cleanupActions deployed results)
              .securityCleanupFailed (applicator.runtime.cleanupActions history
                (cleanupActions deployed results))).get? action.id) } := by
    intro trace htrace verification
    have hids : ∀ action mutation, (cleanupResult action mutation).actionId = action.id := by
      intro action mutation
      cases mutation <;> rfl
    refine ⟨by simp [hids], fun cleanup hcleanup hsatisfied => ?_⟩
    obtain ⟨action, -, rfl⟩ := List.mem_map.mp hcleanup
    obtain ⟨mutations, hanswer, hmutation⟩ := exists_mutation_of_cleanupResult hsatisfied
    rw [hids]
    refine ⟨cleanupActions deployed results, mutations, htrace ?_, hmutation⟩
    rw [hevent, hanswer]
    exact List.mem_concat_self
  split_ifs
  · simp only [ensures_bind, ensures_pure]
    refine ensures_runStage_recovery.imp fun scan history' h => ?_
    refine ⟨List.Subset.trans hsub h.1, trivial, hlisted _ h.1 _, fun hbacked hspares => ?_⟩
    exact (hbacked.mono (List.Subset.trans hsub h.1)).merge (h.2 hspares)
  · rw [ensures_pure]
    exact ⟨hsub, rfl, hlisted _ (List.Subset.refl _) _, fun hbacked _ => hbacked.mono hsub⟩

lemma mem_applied_iff {identifier : String} :
    identifier ∈ (results.filter (satisfiesApplyDependency ·.status)).map
        ActionApplicationResult.actionId ↔
      ∃ result ∈ results, result.actionId = identifier ∧
        satisfiesApplyDependency result.status = true := by
  constructor
  · intro h
    obtain ⟨result, hresult, hid⟩ := List.mem_map.mp h
    obtain ⟨hmem, hsatisfied⟩ := List.mem_filter.mp hresult
    exact ⟨result, hmem, hid, hsatisfied⟩
  · rintro ⟨result, hmem, hid, hsatisfied⟩
    exact List.mem_map.mpr ⟨result, List.mem_filter.mpr ⟨hmem, hsatisfied⟩, hid⟩

/-- **A successful verdict**: every cleanup result satisfies, and every expectation that has to
recover shows a verified cleanup status. -/
lemma spec_cleanupVerdict (h : cleanupVerdict deployed outcome = .succeeded) :
    (∀ cleanup ∈ outcome.cleanupResults, satisfiesApplyDependency cleanup.status = true) ∧
      ∀ item ∈ deployed.verificationExpectations, item.cleanupRecoveryRequired = true →
        (∃ result ∈ outcome.actionResults, result.actionId = item.actionId ∧
          satisfiesApplyDependency result.status = true) →
        ∀ result, outcome.verification.get? item.id = some result →
          result.cleanupStatus = .verified := by
  unfold cleanupVerdict at h
  simp only at h
  split_ifs at h with hsucceeded
  obtain ⟨⟨-, hcleanup⟩, hrecovery⟩ := hsucceeded
  refine ⟨List.all_eq_true.mp hcleanup, fun item hitem hrequired happlied result hget => ?_⟩
  refine of_decide_eq_true (List.all_eq_true.mp hrecovery result ?_)
  refine List.mem_filterMap.mpr ⟨item, List.mem_filter.mpr ⟨hitem, ?_⟩, hget⟩
  exact decide_eq_true ⟨hrequired, mem_applied_iff.mpr happlied⟩

lemma cleanupVerdict_cases (deployed : SecurityPlan) (outcome : SecurityOutcome) :
    cleanupVerdict deployed outcome = .succeeded ∨
      cleanupVerdict deployed outcome = .failed ∨ cleanupVerdict deployed outcome = .unknown := by
  unfold cleanupVerdict
  simp only
  split_ifs <;> simp

/-- **A clean report** of a run that applied something has a successful verdict. -/
lemma spec_applicationResult_clean
    (h : applicationResult plan request deployed outcome = .ok report)
    (hcontrol : request.cleanupControl = true)
    (happlied : ∃ result ∈ report.actionResults, satisfiesApplyDependency result.status = true)
    (hclean : report.dirtyState = .clean) :
    report.actionResults = outcome.actionResults ∧
      report.cleanupResults = outcome.cleanupResults ∧
      cleanupVerdict deployed outcome = .succeeded ∧
      ∀ expectation ∈ plan.verificationExpectations, ∃ result,
        outcome.verification.get? expectation.id = some result := by
  unfold applicationResult at h
  obtain ⟨verificationResults, hresults, h⟩ := Fallible.bind_eq_ok.mp h
  obtain ⟨journal, -, h⟩ := Fallible.bind_eq_ok.mp h
  cases h
  have hmutated : (outcome.actionResults.any (satisfiesApplyDependency ·.status)) = true :=
    List.any_eq_true.mpr happlied
  refine ⟨rfl, rfl, ?_, fun expectation hexpectation => ?_⟩
  · simp only [hcontrol, hmutated, and_self, if_true] at hclean
    rcases cleanupVerdict_cases deployed outcome with h | h
    · exact h
    · exact absurd hclean (journal.dirtyState_markCleanup_ne_clean h)
  · obtain ⟨result, -, hget⟩ :=
      Fallible.exists_result_of_mapM_eq_ok hresults (List.mem_map_of_mem hexpectation)
    exact ⟨result, subscript_eq_ok.mp hget⟩

/-- **What a clean report says**, when verified recoveries come from the recovery stage. -/
lemma restored_of_outcome {trace : List SecurityEvent} (hrecovers : RecoversAs plan deployed)
    (hids : outcome.actionResults.map ActionApplicationResult.actionId =
      deployed.actions.map SecurityAction.id)
    (hcleaned : CleanedUp deployed trace outcome)
    (hbacked : RecoveryBacked trace outcome.verification)
    (hactions : report.actionResults = outcome.actionResults)
    (hcleanups : report.cleanupResults = outcome.cleanupResults)
    (hverdict : cleanupVerdict deployed outcome = .succeeded)
    (hlisted : ∀ expectation ∈ plan.verificationExpectations, ∃ result,
      outcome.verification.get? expectation.id = some result) : Restored plan report trace := by
  obtain ⟨hsatisfied, hrecovered⟩ := spec_cleanupVerdict hverdict
  constructor
  · intro result hresult happlied
    rw [hactions] at hresult
    -- an applied action is one of the plan, so that the cleanup was asked to undo it
    have hmem : result.actionId ∈ deployed.actions.map SecurityAction.id :=
      hids ▸ List.mem_map_of_mem hresult
    obtain ⟨action, haction, hid⟩ := List.mem_map.mp hmem
    have hcleanup : action.id ∈
        (cleanupActions deployed outcome.actionResults).map SecurityAction.id := by
      refine List.mem_map_of_mem (List.mem_filter.mpr ⟨List.mem_reverse.mpr haction, ?_⟩)
      exact decide_eq_true (mem_applied_iff.mpr ⟨result, hresult, hid.symm, happlied⟩)
    rw [← hcleaned.listed] at hcleanup
    obtain ⟨cleanup, hcleanup, hcleanupId⟩ := List.mem_map.mp hcleanup
    have hundone := hcleaned.answered cleanup hcleanup (hsatisfied cleanup hcleanup)
    rw [hcleanupId.trans hid] at hundone
    exact ⟨⟨cleanup, hcleanups ▸ hcleanup, hcleanupId.trans hid, hsatisfied cleanup hcleanup⟩,
      hundone⟩
  · intro expectation hexpectation hrequired happlied
    obtain ⟨item, hitem, hid, haction, hitemRequired⟩ := hrecovers.exists_deployed hexpectation
    obtain ⟨result, hget⟩ := hlisted expectation hexpectation
    refine hbacked expectation.id result hget ?_
    refine hrecovered item hitem (hitemRequired.trans hrequired) ?_ result (hid ▸ hget)
    rw [haction, ← hactions]
    exact happlied

end Cleanup

/-! ## The whole run -/

section Run

variable {applicator : SecurityApplicator} {plan deployed : SecurityPlan}
  {request : SecurityApplyRequest} {history : List SecurityEvent}

lemma ensures_preflight_recovers {E : RaisedError → List SecurityEvent → Prop} :
    (applicator.preflight plan request).Ensures history
      (fun answer _ => ∀ deployed, answer = .ok deployed → RecoversAs plan deployed) E := by
  refine ensures_preflight_resolved.imp fun answer _ h deployed hanswer => ?_
  obtain ⟨verificationPlan, hnormalized, rfl | ⟨names, hrun⟩⟩ := h deployed hanswer
  · exact recoversAs_normalized hnormalized
  · exact (recoversAs_normalized hnormalized).runtimePlan hrun

variable {refusal : Refusal} {results : List SecurityVerificationResult}
  {report : SecurityApplicationResult}

lemma actionResults_of_failure (h : failure plan request refusal results = .ok report) :
    report.actionResults = [] := by
  obtain ⟨journal, -, hreport⟩ := Fallible.bind_eq_ok.mp h
  rw [← Except.ok.inj hreport]

/-- A clean run with cleanup control that applied something has put everything back. -/
def CleanMeansRestored (plan : SecurityPlan) (report : SecurityApplicationResult)
    (trace : List SecurityEvent) : Prop :=
  (∃ result ∈ report.actionResults, satisfiesApplyDependency result.status = true) →
    report.dirtyState = .clean → Restored plan report trace

lemma cleanMeansRestored_of_failure {trace : List SecurityEvent}
    (h : failure plan request refusal results = .ok report) :
    CleanMeansRestored plan report trace := by
  rintro ⟨result, hresult, -⟩
  rw [actionResults_of_failure h] at hresult
  cases hresult

/-- After the baselines were verified. -/
lemma ensures_applyVerified_recovery {verification : VerificationMap}
    (hrecovers : RecoversAs plan deployed) (hcontrol : request.cleanupControl = true) :
    (applicator.applyVerified plan request deployed verification).Ensures history
      (fun report trace => history ⊆ trace ∧ ((∀ event ∈ trace, SparesRecovery event) →
        RecoveryBacked history verification → CleanMeansRestored plan report trace))
      fun _ _ => True := by
  unfold applyVerified
  refine ensures_applyActions_classified.bind fun results applied hactions => ?_
  obtain ⟨hids, -, happlied⟩ := hactions
  simp only [verifyApplied, ensures_bind, ensures_pure]
  refine ensures_runStage_recovery.imp fun direct between hdirect => ?_
  refine ensures_runStage_recovery.imp fun behavior after hbehavior => ?_
  refine (ensures_cleanupApplied_recovery hcontrol).imp fun outcome trace hcleanup => ?_
  obtain ⟨hsub, rfl, hcleaned, hbacked⟩ := hcleanup
  have hbetween : history ⊆ between := List.Subset.trans happlied hdirect.1
  have hafter : history ⊆ after := List.Subset.trans hbetween hbehavior.1
  rw [ensures_ofExcept]
  refine ⟨fun report hreport => ⟨List.Subset.trans hafter hsub, ?_⟩, fun _ _ => trivial⟩
  intro hspares hstart hmutated hclean
  have hsparesAfter : ∀ event ∈ after, SparesRecovery event :=
    fun event hevent => hspares event (hsub hevent)
  have hdirectAnswered := hdirect.2 fun event hevent => hsparesAfter event (hbehavior.1 hevent)
  have hverified : RecoveryBacked after (mergeVerification
      (mergeVerification verification direct.observed) behavior.observed) :=
    ((hstart.mono hafter).merge (hdirectAnswered.mono hbehavior.1)).merge
      (hbehavior.2 hsparesAfter)
  obtain ⟨hresults, hcleanups, hverdict, hlisted⟩ :=
    spec_applicationResult_clean hreport hcontrol hmutated hclean
  exact restored_of_outcome hrecovers hids hcleaned (hbacked hverified hspares) hresults hcleanups
    hverdict hlisted

/-- **A clean security run.**  In a run with cleanup control that applied some action, and in which
only the probes of the recovery stage are answered with a verified recovery, the final state is
`CLEAN` only when every applied action has a successful cleanup result, answered by the runtime, and
every expectation of an applied action that has to recover was verified in the recovery stage. -/
theorem restored_of_sparesRecovery (applicator : SecurityApplicator) (plan : SecurityPlan)
    (request : SecurityApplyRequest) (report : SecurityApplicationResult)
    (trace : List SecurityEvent)
    (hrun : (applicator.apply plan request).run [] = (.ok report, trace))
    (hcontrol : request.cleanupControl = true)
    (happlied : ∃ result ∈ report.actionResults, satisfiesApplyDependency result.status = true)
    (hanswers : ∀ event ∈ trace, SparesRecovery event) (hclean : report.dirtyState = .clean) :
    Restored plan report trace := by
  have hended : (applicator.apply plan request).Ensures []
      (fun report trace => (∀ event ∈ trace, SparesRecovery event) →
        CleanMeansRestored plan report trace) fun _ _ => True := by
    unfold apply
    refine ensures_preflight_recovers.bind fun answer history hrecovers => ?_
    rcases answer with refusal | deployed
    · rw [ensures_ofExcept]
      exact ⟨fun report hreport _ => cleanMeansRestored_of_failure hreport, fun _ _ => trivial⟩
    simp only [applyPrepared, ensures_bind]
    refine ensures_runStage_recovery.imp fun baseline between hbaseline => ?_
    split_ifs
    · rw [ensures_ofExcept]
      exact ⟨fun report hreport _ => cleanMeansRestored_of_failure hreport, fun _ _ => trivial⟩
    · refine (ensures_applyVerified_recovery (hrecovers deployed rfl) hcontrol).imp fun report trace h hspares => ?_
      refine h.2 hspares (recoveryBacked_initialVerification.merge ?_)
      exact hbaseline.2 fun event hevent => hspares event (h.1 hevent)
  exact hended.of_run_eq_ok hrun hanswers happlied hclean

end Run

/-! ## A run that puts everything back, and one that only says so -/

/-- The hardening is read back, and has to recover after the cleanup. -/
def recoveringState : SecurityVerificationExpectation :=
  { hardeningState [] with cleanupRecoveryRequired := true }

/-- Traffic passes, and has to recover after the cleanup. -/
def recoveringTraffic : SecurityVerificationExpectation :=
  { hardenedTraffic with
    verificationPrerequisites := []
    cleanupRecoveryRequired := true }

/-- An application whose actions are undone at the end. -/
def recoveringRequest : SecurityApplyRequest :=
  { hardeningRequest with cleanupControl := true }

/-- A runtime on which everything goes as expected, and that says what it has changed. -/
def candidApplicator : SecurityApplicator :=
  { obedientApplicator with
    runtime :=
      { obedientApplicator.runtime with
        applyActions := fun _ actions =>
          .ok (actions.map fun action =>
            { actionId := action.id, applied := true, disposition := .changed }) } }

/-- A runtime that calls a read-back a recovery. -/
def mislabellingApplicator : SecurityApplicator :=
  { candidApplicator with
    runtime :=
      { candidApplicator.runtime with
        observe := fun _ expectations =>
          .ok (expectations.map fun item =>
            { expectationId := item.id, stage := .cleanupRecovery, status := .verified }) } }

/-- A clean run that has put everything back. -/
theorem restored_of_sparesRecovery_candid :
    ∃ report trace,
      (candidApplicator.apply (hardeningPlan [recoveringTraffic]) recoveringRequest).run [] =
        (.ok report, trace) ∧ report.dirtyState = .clean ∧
      Restored (hardeningPlan [recoveringTraffic]) report trace := by
  obtain ⟨report, trace, hrun, hreport⟩ := exists_of_reports
    (p := fun report trace => report.dirtyState = .clean ∧
      (∃ result ∈ report.actionResults, satisfiesApplyDependency result.status = true) ∧
      ∀ event ∈ trace, SparesRecovery event)
    (show reports _ ((candidApplicator.apply (hardeningPlan [recoveringTraffic])
      recoveringRequest).run []) = true by decide)
  obtain ⟨hclean, happlied, hanswers⟩ := of_decide_eq_true hreport
  exact ⟨report, trace, hrun, hclean, restored_of_sparesRecovery candidApplicator _
    recoveringRequest report trace hrun rfl happlied hanswers hclean⟩

/-- A run may be clean although no recovery was ever probed: the read-back was answered as if it
were a recovery, and what is read back is not probed again after the cleanup. -/
theorem not_forall_clean_restored :
    ¬∀ (applicator : SecurityApplicator) (plan : SecurityPlan) (request : SecurityApplyRequest)
      (report : SecurityApplicationResult) (trace : List SecurityEvent),
      (applicator.apply plan request).run [] = (.ok report, trace) →
      request.cleanupControl = true →
      (∃ result ∈ report.actionResults, satisfiesApplyDependency result.status = true) →
      report.dirtyState = .clean → Restored plan report trace := by
  intro hall
  obtain ⟨report, trace, hrun, hreport⟩ := exists_of_reports
    (p := fun report trace => report.dirtyState = .clean ∧
      (∃ result ∈ report.actionResults, result.actionId = "harden" ∧
        satisfiesApplyDependency result.status = true) ∧
      trace.all fun event => match event with
        | .verifyBehavior _ _ _ => false
        | _ => true)
    (show reports _ ((mislabellingApplicator.apply (hardeningPlan [recoveringState])
      recoveringRequest).run []) = true by decide)
  obtain ⟨hclean, ⟨result, hresult, hid, hsatisfied⟩, hprobes⟩ := of_decide_eq_true hreport
  obtain ⟨expectation, answer, hevent, -⟩ :=
    (hall _ _ _ report trace hrun rfl ⟨result, hresult, hsatisfied⟩ hclean).recovered
      recoveringState List.mem_cons_self rfl ⟨result, hresult, hid, hsatisfied⟩
  have hprobe := List.all_eq_true.mp hprobes _ hevent
  cases hprobe

end SecurityApplicator

end PacketTracer
