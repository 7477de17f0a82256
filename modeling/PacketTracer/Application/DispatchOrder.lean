import PacketTracer.Application.ConfigurationReport

/-!
# The order of dispatches

No action is dispatched before its dependencies have results that satisfy it, and no Voice VLAN is
activated before the foundation has been observed.  Both are properties of single exchanges relative
to what happened before (`SafeDispatch`); they are proved for `apply` and carried over the
completion of the deferred signals, which dispatches at most once.
-/

namespace PacketTracer

open Dicts Interactions

open Interaction (ensures_bind ensures_exchange ensures_pure ensures_ofExcept)

namespace ConfigurationApplicator

variable {applicator : ConfigurationApplicator} {plan : ConfigurationPlan}
  {application : ConfigurationApplicationResult} {completion : CompletionRequest}
  {trace : List RuntimeEvent}

/-- What `_overall_status` decides: `verified` exactly when no action failed or was left out, and
there are verifications, all of them verified. -/
lemma overallStatus_eq_verified_iff {actions : List ActionApplicationResult}
    {verification : List VerificationResult} :
    (overallStatus actions verification).1 = .verified ↔
      (∀ item ∈ actions, item.status ≠ .failed ∧ item.status ≠ .skipped ∧
        item.status ≠ .dependencyBlocked) ∧
      verification ≠ [] ∧ ∀ item ∈ verification, item.status = .verified := by
  unfold overallStatus
  by_cases hfailed : actions.any (·.status = .failed)
  · rw [if_pos hfailed]
    obtain ⟨item, hitem, hstatus⟩ := List.any_eq_true.mp hfailed
    refine iff_of_false (by simp) fun h => (h.1 item hitem).1 (of_decide_eq_true hstatus)
  · rw [if_neg hfailed]
    by_cases hleft : actions.any fun item =>
        item.status = .skipped ∨ item.status = .dependencyBlocked
    · rw [if_pos hleft]
      obtain ⟨item, hitem, hstatus⟩ := List.any_eq_true.mp hleft
      refine iff_of_false (by simp) fun h => ?_
      exact (of_decide_eq_true hstatus).elim (h.1 item hitem).2.1 (h.1 item hitem).2.2
    · rw [if_neg hleft]
      have hactions : ∀ item ∈ actions, item.status ≠ .failed ∧ item.status ≠ .skipped ∧
          item.status ≠ .dependencyBlocked := by
        intro item hitem
        refine ⟨fun h => hfailed ?_, fun h => hleft ?_, fun h => hleft ?_⟩ <;>
          exact List.any_eq_true.mpr ⟨item, hitem, by simp [h]⟩
      by_cases hunobservable : verification.any (·.status = .unobservable) ∧
          ¬verification.any (·.status = .failed)
      · rw [if_pos hunobservable]
        obtain ⟨item, hitem, hstatus⟩ := List.any_eq_true.mp hunobservable.1
        refine iff_of_false (by simp) fun h => ?_
        simp [h.2.2 item hitem] at hstatus
      · rw [if_neg hunobservable]
        by_cases hunverified : verification.any (·.status ≠ .verified)
        · rw [if_pos hunverified]
          obtain ⟨item, hitem, hstatus⟩ := List.any_eq_true.mp hunverified
          exact iff_of_false (by simp) fun h => of_decide_eq_true hstatus (h.2.2 item hitem)
        · rw [if_neg hunverified]
          have hverified : ∀ item ∈ verification, item.status = .verified := by
            intro item hitem
            by_contra h
            exact hunverified (List.any_eq_true.mpr ⟨item, hitem, by simpa using h⟩)
          by_cases hempty : verification = []
          · rw [if_neg (by simpa using hempty)]
            refine iff_of_false ?_ fun h => h.2.1 hempty
            split_ifs <;> simp
          · rw [if_pos hempty]
            exact iff_of_true rfl ⟨hactions, hempty, hverified⟩

variable {barrier : VoiceSignalBarrierResult}

lemma foundation_of_isPreparedSignal (h : isPreparedSignal plan application barrier) :
    barrier.foundationStatus = .verified ∧ barrier.signalStatus = .intended := by
  simp only [isPreparedSignal, Bool.and_eq_true, decide_eq_true_eq] at h
  exact ⟨h.1.2, h.2⟩

lemma spec_completionActions {deferredIds : List String}
    {deferredActions : List ConfigurationAction}
    (h : completionActions plan deferredIds = .ok deferredActions) :
    ∀ action, action ∈ deferredActions ↔ action ∈ plan.actions ∧ action.id ∈ deferredIds := by
  unfold completionActions at h
  simp only at h
  split at h
  · cases h
  · cases h
    intro action
    simp [List.mem_filter]

/-- The two ways in which a completion obtains the results of the second stage. -/
inductive CompletionRoute (plan : ConfigurationPlan)
    (application : ConfigurationApplicationResult) (trace : List RuntimeEvent) :
    Dict String ActionApplicationResult → List RuntimeEvent → Prop
  /-- Retained state is verified again: the results are those of the application. -/
  | retained (hqualified : isRetainedQualification plan application)
      (signals : Dict String ActionApplicationResult)
      (hsignals : ∀ identifier result, signals.get? identifier = some result →
        result ∈ application.actionResults ∧ result.actionId = identifier)
      (signalled : List RuntimeEvent) (hquiet : QuietlyExtends trace signalled) :
      CompletionRoute plan application trace signals signalled
  /-- The deferred actions of a prepared barrier are dispatched. -/
  | dispatched (barrier : VoiceSignalBarrierResult)
      (hbarrier : application.voiceSignalBarrier = some barrier)
      (hprepared : isPreparedSignal plan application barrier)
      (deferredActions : List ConfigurationAction)
      (hdeferred : completionActions plan barrier.deferredActionIds = .ok deferredActions)
      (resolved : List RuntimeEvent) (hquiet : QuietlyExtends trace resolved)
      (deployedNames : Dict String String)
      (answer : Except String (List RuntimeActionMutation)) :
      CompletionRoute plan application trace (dispatchResults deferredActions answer)
        (resolved ++ [.applyActions (deferredActions.map (runtimeAction deployedNames [])) answer])

/-- How a completed report relates to the application and the results of the second stage. -/
structure CompletedReport (plan : ConfigurationPlan)
    (application : ConfigurationApplicationResult) (signals : Dict String ActionApplicationResult)
    (report : ConfigurationApplicationResult) : Prop where
  actions : (plan.actions.map ConfigurationAction.id).map ((Dict.ofList
    (application.actionResults.map fun item => (item.actionId, item))).update signals).get? =
      report.actionResults.map some
  verifications : report.verificationResults.map VerificationResult.expectationId =
    plan.verificationExpectations.map VerificationExpectation.id
  status : report.status = (overallStatus report.actionResults report.verificationResults).1
  journal : ∃ deploymentId journal, report.executionJournal = some journal ∧
    mutationJournal plan deploymentId application.mutationActionIds report.actionResults =
      .ok journal ∧
    report.dirtyState = journal.dirtyState

/-- How a completion ends when it returns. -/
inductive CompletionSpec (plan : ConfigurationPlan)
    (application : ConfigurationApplicationResult) (trace : List RuntimeEvent) :
    ConfigurationApplicationResult → List RuntimeEvent → Prop
  | refused (message : String) (trace' : List RuntimeEvent)
      (hquiet : QuietlyExtends trace trace') :
      CompletionSpec plan application trace (voiceSignalCompletionFailure application message)
        trace'
  | completed (signals : Dict String ActionApplicationResult) (signalled : List RuntimeEvent)
      (hroute : CompletionRoute plan application trace signals signalled)
      (report : ConfigurationApplicationResult)
      (hreport : CompletedReport plan application signals report) (trace' : List RuntimeEvent)
      (hquiet : QuietlyExtends signalled trace') :
      CompletionSpec plan application trace report trace'

/-- The histories that a completion can end with, whether it returns or raises. -/
def CompletionTrace (plan : ConfigurationPlan) (application : ConfigurationApplicationResult)
    (trace trace' : List RuntimeEvent) : Prop :=
  QuietlyExtends trace trace' ∨ ∃ signals signalled,
    CompletionRoute plan application trace signals signalled ∧ QuietlyExtends signalled trace'

/-! ## Verification of the Voice expectations -/

lemma ensures_observeLifecycle {condition : Bool} {name : String}
    {Q : Unit → List RuntimeEvent → Prop} {E : RaisedError → List RuntimeEvent → Prop}
    (hQ : Q () trace) (hE : ∀ message, E (.observerError message) trace) :
    (observeLifecycle completion condition name).Ensures trace Q E := by
  unfold observeLifecycle
  cases condition with
  | true => exact ensures_observe hQ hE
  | false => exact hQ

lemma exists_of_mem_zip_map {α β γ : Type} {f : α → γ} {items : List α} {others : List β}
    {other : β} {c : γ} (h : (other, c) ∈ others.zip (items.map f)) :
    ∃ item, (item, other) ∈ items.zip others ∧ c = f item := by
  induction items generalizing others with
  | nil => simp at h
  | cons item items ih =>
    rcases others with _ | ⟨first, others⟩
    · simp at h
    rw [List.map_cons, List.zip_cons_cons, List.mem_cons] at h
    rcases h with heq | h
    · simp only [Prod.mk.injEq] at heq
      obtain ⟨rfl, rfl⟩ := heq
      exact ⟨item, List.mem_cons_self, rfl⟩
    · obtain ⟨item', hmem, hf⟩ := ih h
      exact ⟨item', List.mem_cons_of_mem _ hmem, hf⟩

/-- Verifying the Voice expectations dispatches nothing. -/
lemma ensures_verifyVoice {expectations : List VerificationExpectation}
    {signalResults : List ActionApplicationResult} :
    (applicator.verifyVoice expectations signalResults completion).Ensures trace
      (fun voice trace' => QuietlyExtends trace trace' ∧
        ∀ identifier item, voice.verifiedById.get? identifier = some item →
          item.expectationId = identifier)
      fun _ trace' => QuietlyExtends trace trace' := by
  unfold verifyVoice
  simp only [ensures_bind]
  refine ensures_verify.mono (fun direct trace' hverify => ?_) fun e trace hE => hE.elim
  obtain ⟨more, htrace, hmore, -⟩ := hverify
  have hquiet : QuietlyExtends trace trace' := ⟨more, htrace, hmore⟩
  refine ensures_observeLifecycle ?_ fun message => hquiet
  simp only [ensures_exchange]
  set answer := applicator.runtime.waitForVoiceAccessForwarding trace' expectations
  have hasked : QuietlyExtends trace
      (trace' ++ [RuntimeEvent.waitForVoiceAccessForwarding expectations answer]) :=
    hquiet.trans (quietlyExtends_concat rfl)
  rw [ensures_ofExcept]
  refine ⟨fun directResults hdirect => ?_, fun e _ => hasked⟩
  refine ensures_observeLifecycle ⟨hasked, fun identifier item hget => ?_⟩ fun message => hasked
  obtain ⟨⟨first, second⟩, hmem, rfl, rfl⟩ := Dict.exists_of_get?_ofList hget
  obtain ⟨expectation, hzip, rfl⟩ := exists_of_mem_zip_map hmem
  obtain ⟨-, hlookup⟩ := (mem_zip_iff_of_map_get?_eq (subscripts_eq_ok.mp hdirect)).mp hzip
  obtain ⟨result, -, hid, rfl⟩ := Dict.exists_of_get?_ofList hlookup
  exact hid

/-! ## The completion -/

/-- The report of a completion. -/
lemma completedReport_of_completionResult
    {retainedStateOnly : Bool} {signals : Dict String ActionApplicationResult}
    {voice : VoiceVerification} {report : ConfigurationApplicationResult}
    (hkeyed : ∀ identifier item, voice.verifiedById.get? identifier = some item →
      item.expectationId = identifier)
    (h : completionResult plan application barrier retainedStateOnly signals voice =
      .ok report) : CompletedReport plan application signals report := by
  unfold completionResult at h
  simp only [bind, Except.bind] at h
  split at h
  · cases h
  rename_i actionResults hactions
  split at h
  · cases h
  rename_i verificationResults hverifications
  split at h
  · cases h
  rename_i journal hjournal
  cases h
  refine ⟨subscripts_eq_ok.mp hactions, ?_, rfl, _, journal, rfl, hjournal, rfl⟩
  refine map_eq_of_map_get?_eq (subscripts_eq_ok.mp hverifications) fun key item hget => ?_
  rw [Dict.get?_update] at hget
  cases hvoice : voice.verifiedById.get? key with
  | some item' =>
    rw [hvoice, Option.some_or] at hget
    exact hkeyed key item (hvoice.trans hget)
  | none =>
    rw [hvoice, Option.none_or] at hget
    obtain ⟨result, -, rfl, rfl⟩ := Dict.exists_of_get?_ofList hget
    rfl

/-- The completion after its second stage. -/
lemma ensures_completionTail (applicator : ConfigurationApplicator)
    (completion : CompletionRequest) (barrier : VoiceSignalBarrierResult)
    (deployedNames : Dict String String) {signals : Dict String ActionApplicationResult}
    {signalled : List RuntimeEvent}
    (hroute : CompletionRoute plan application trace signals signalled) :
    (do
      let voiceIds := (voiceActions plan).map ConfigurationAction.id
      let expectations := (plan.verificationExpectations.filter (·.actionId ∈ voiceIds)).map
        (runtimeExpectation deployedNames)
      let voice ← applicator.verifyVoice expectations signals.values completion
      Interaction.ofExcept (completionResult plan application barrier
        completion.retainedStateOnly signals voice) :
      Applying ConfigurationApplicationResult).Ensures signalled
      (CompletionSpec plan application trace)
      (fun _ trace' => CompletionTrace plan application trace trace') := by
  simp only [ensures_bind]
  refine ensures_verifyVoice.mono (fun voice trace' hvoice => ?_)
    fun e trace' hE => Or.inr ⟨signals, signalled, hroute, hE⟩
  rw [ensures_ofExcept]
  refine ⟨fun report hreport => ?_, fun e _ => Or.inr ⟨signals, signalled, hroute, hvoice.1⟩⟩
  exact .completed signals signalled hroute report
    (completedReport_of_completionResult hvoice.2 hreport) trace' hvoice.1

lemma qualified_of_completionBarrier
    (h : completionBarrier plan application true = .ok (.ok barrier)) :
    isRetainedQualification plan application := by
  unfold completionBarrier at h
  by_contra hqualified
  simp [hqualified] at h

lemma prepared_of_completionBarrier
    (h : completionBarrier plan application false = .ok (.ok barrier)) :
    application.voiceSignalBarrier = some barrier ∧ isPreparedSignal plan application barrier := by
  unfold completionBarrier at h
  simp only [Bool.false_eq_true, if_false] at h
  split at h
  · rename_i barrier' hbarrier
    split at h
    · rename_i hprepared
      cases Except.ok.inj h
      exact ⟨hbarrier, hprepared⟩
    · cases Except.ok.inj h
  · cases Except.ok.inj h

/-- **`complete_deferred_voice_signals`.** -/
theorem ensures_completeDeferredVoiceSignals :
    (applicator.completeDeferredVoiceSignals plan application completion).Ensures trace
      (CompletionSpec plan application trace)
      (fun _ trace' => CompletionTrace plan application trace trace') := by
  have hrefl := QuietlyExtends.refl trace
  unfold completeDeferredVoiceSignals
  rw [ensures_bind, ensures_ofExcept]
  refine ⟨fun outcome houtcome => ?_, fun e _ => Or.inl hrefl⟩
  rcases outcome with message | barrier
  · exact .refused message trace hrefl
  simp only
  rcases hactions : completionActions plan (completionDeferredIds completion barrier)
      with message | deferredActions
  · exact .refused message trace hrefl
  simp only [ensures_bind, ensures_exchange]
  set inventory := applicator.runtime.inventory trace
  have hasked : QuietlyExtends trace (trace ++ [RuntimeEvent.inventory inventory]) :=
    quietlyExtends_concat rfl
  rcases hnames : applicator.resolveDeployedNames plan application
      completion.deploymentManifest inventory with message | deployedNames
  · exact .refused _ _ hasked
  simp only [completeResolved, completionSignals]
  cases hretained : completion.retainedStateOnly with
  | true =>
    rw [hretained] at houtcome
    simp only [if_true, ensures_bind]
    rw [ensures_ofExcept]
    refine ⟨fun results hresults => ?_, fun e _ => Or.inl hasked⟩
    rw [ensures_pure]
    have hroute : CompletionRoute plan application trace
        (Dict.ofList (((voiceActions plan).map ConfigurationAction.id).dedup.zip results))
        (trace ++ [RuntimeEvent.inventory inventory]) := by
      refine .retained (qualified_of_completionBarrier houtcome) _
        (fun identifier result hget => ?_) _ hasked
      have hmem := Dict.mem_of_get?_ofList hget
      rw [← List.map_id (((voiceActions plan).map ConfigurationAction.id).dedup)] at hresults
      have hlookup := ((mem_zip_iff_of_map_get?_eq (subscripts_eq_ok.mp hresults)).mp hmem).2
      obtain ⟨item, hitem, hid, rfl⟩ := Dict.exists_of_get?_ofList hlookup
      exact ⟨hitem, hid⟩
    have htail := ensures_completionTail applicator completion barrier deployedNames hroute
    rw [hretained, ensures_bind] at htail
    exact htail
  | false =>
    rw [hretained] at houtcome
    obtain ⟨hbarrier, hprepared⟩ := prepared_of_completionBarrier houtcome
    have hdeferred : completionActions plan barrier.deferredActionIds =
        .ok deferredActions := by
      simpa [completionDeferredIds, hretained] using hactions
    simp only [Bool.false_eq_true, if_false, applyReadyActions, ensures_bind,
      ensures_exchange, ensures_pure]
    have hroute := CompletionRoute.dispatched barrier hbarrier hprepared deferredActions
      hdeferred _ hasked deployedNames
      (applicator.runtime.applyActions (trace ++ [RuntimeEvent.inventory inventory])
        (deferredActions.map (runtimeAction deployedNames [])))
    have htail := ensures_completionTail applicator completion barrier deployedNames hroute
    rw [hretained, ensures_bind] at htail
    exact htail

end ConfigurationApplicator

namespace ConfigurationApplicator

/-- The identifiers of the actions whose Voice VLAN `apply` withholds. -/
def withheldIds (plan : ConfigurationPlan) (request : ApplyRequest) : List String :=
  (deferredVoiceActions plan request
    (mutationScope plan request.mutationActionIds request.retainedActionResults)).map
      ConfigurationAction.id

/-- An exchange activates no Voice VLAN, and dispatches no retained deferred action, unless the
foundation was observed before. -/
def SignalsAfterFoundation (plan : ConfigurationPlan) (request : ApplyRequest)
    (before : List RuntimeEvent) (event : RuntimeEvent) : Prop :=
  ∀ action ∈ event.dispatched,
    action.activatesVoiceVlan ∨ action.id ∈ request.retainedDeferredVoiceActionIds →
      FoundationObserved plan (withheldIds plan request) before

/-- Both safety properties of an exchange. -/
structure SafeDispatch (plan : ConfigurationPlan) (request : ApplyRequest)
    (before : List RuntimeEvent) (event : RuntimeEvent) : Prop where
  dependencies : DependenciesSettled request.retainedById before event
  signals : SignalsAfterFoundation plan request before event

lemma safeDispatch_of_quiet {plan : ConfigurationPlan} {request : ApplyRequest}
    (before : List RuntimeEvent) (event : RuntimeEvent) (h : event.dispatched = []) :
    SafeDispatch plan request before event := by
  refine ⟨dependenciesSettled_of_quiet before event h, fun action haction => ?_⟩
  simp [h] at haction

variable {applicator : ConfigurationApplicator} {plan : ConfigurationPlan}
  {request : ApplyRequest} {prepared : PreparedApplication} {completion : CompletionRequest}
  {results : Dict String ActionApplicationResult} {looped trace : List RuntimeEvent}
  {trace' : List RuntimeEvent} {report : ConfigurationApplicationResult}

lemma safe_of_quietlyExtends (h : EachAfter (SafeDispatch plan request) trace)
    (hquiet : QuietlyExtends trace trace') : EachAfter (SafeDispatch plan request) trace' := by
  obtain ⟨more, rfl, hmore⟩ := hquiet
  exact eachAfter_append_quiet h hmore safeDispatch_of_quiet

lemma withheldIds_eq (hplan : AcceptedPlan plan request prepared) :
    withheldIds plan request =
      (deferredVoiceActions plan request prepared.scope).map ConfigurationAction.id := by
  rw [withheldIds, ← hplan.scope_eq]

/-! ## The main loop -/

/-- The main loop activates no Voice VLAN and dispatches no retained deferred action. -/
lemma LoopTrace.noSignal (hplan : AcceptedPlan plan request prepared)
    (h : LoopTrace plan prepared
      ((deferredVoiceActions plan request prepared.scope).map ConfigurationAction.id) looped) :
    ∀ event ∈ looped, ∀ action ∈ event.dispatched, action.activatesVoiceVlan = false ∧
      action.id ∉ request.retainedDeferredVoiceActionIds := by
  intro event hevent action haction
  obtain ⟨planned, hplanned, hmutation, rfl⟩ := h.planned event hevent action haction
  constructor
  · rw [activatesVoiceVlan_runtimeAction]
    rcases hvoice : planned.activatesVoiceVlan with _ | _
    · simp
    have hdeferred : planned ∈ deferredVoiceActions plan request prepared.scope :=
      List.mem_filter.mpr ⟨hplanned, by simp [hmutation, hvoice]⟩
    have hid : planned.id ∈ (deferredVoiceActions plan request prepared.scope).map
        ConfigurationAction.id := List.mem_map_of_mem hdeferred
    rw [decide_eq_false (not_not.mpr hid)]
    rfl
  · intro hretained
    exact (hplan.deferred _ hretained).1 hmutation

lemma LoopTrace.safe (hplan : AcceptedPlan plan request prepared)
    (h : LoopTrace plan prepared
      ((deferredVoiceActions plan request prepared.scope).map ConfigurationAction.id) looped) :
    EachAfter (SafeDispatch plan request) looped := by
  refine h.ordered.mono fun before event hevent hsettled => ⟨?_, fun action haction hsignal => ?_⟩
  · rw [← hplan.retained_eq]
    exact hsettled
  · obtain ⟨hvoice, hretained⟩ := h.noSignal hplan event hevent action haction
    rcases hsignal with hsignal | hsignal
    · simp [hvoice] at hsignal
    · exact absurd hsignal hretained

lemma LoopInvariant.latest_of_settled {deferredIds : List String}
    (h : LoopInvariant plan prepared deferredIds results looped)
    (hquiet : QuietlyExtends looped trace) {identifier : String}
    (hsettled : Settled results identifier) :
    ∃ result, latestResult prepared.scope.retained trace identifier = some result ∧
      satisfiesApplyDependency result.status := by
  obtain ⟨result, hget, hstatus⟩ := hsettled
  obtain ⟨more, rfl, hmore⟩ := hquiet
  exact ⟨result, by rw [latestResult_append_quiet hmore, h.latest _ _ hget hstatus], hstatus⟩

/-! ## The second stage -/

/-- When the foundation is verified, the deferred actions may be dispatched: their dependencies
have latest results that satisfy them. -/
lemma dependencies_of_verified {run : BarrierRun} {outcome : BarrierOutcome}
    (hplan : AcceptedPlan plan request prepared) {deferSignal : Bool}
    (hloop : LoopInvariant plan prepared
      ((deferredVoiceActions plan request prepared.scope).map ConfigurationAction.id)
      results looped)
    (hspec : BarrierSpec plan results (deferredVoiceActions plan request prepared.scope)
      prepared.deployedNames deferSignal looped run outcome trace')
    (hverified : run.foundation.foundationStatus = .verified)
    (hquiet : QuietlyExtends looped trace) :
    ∀ planned ∈ deferredVoiceActions plan request prepared.scope, ∀ d ∈ planned.dependsOn,
      ∃ result, latestResult request.retainedById trace d = some result ∧
        satisfiesApplyDependency result.status := by
  intro planned hplanned d hd
  have hsettled := (hspec.foundation.verified_iff.mp hverified).1.2 planned hplanned
  have hmem : planned ∈ plan.actions := (List.mem_filter.mp hplanned).1
  rw [← hplan.retained_eq]
  exact hloop.latest_of_settled hquiet (hloop.settled planned hmem hsettled d hd)

lemma safeDispatch_of_verified {planned : List ConfigurationAction}
    {deployedNames : Dict String String} {answer : Except String (List RuntimeActionMutation)}
    (hfoundation : FoundationObserved plan (withheldIds plan request) trace)
    (hdependencies : ∀ action ∈ planned, ∀ d ∈ action.dependsOn, ∃ result,
      latestResult request.retainedById trace d = some result ∧
        satisfiesApplyDependency result.status) :
    SafeDispatch plan request trace
      (.applyActions (planned.map (runtimeAction deployedNames [])) answer) := by
  refine ⟨fun action haction d hd => ?_, fun action _ _ => hfoundation⟩
  obtain ⟨original, horiginal, rfl⟩ := List.mem_map.mp haction
  exact hdependencies original horiginal d hd

/-! ## `apply` -/

/-- What the history of `apply` satisfies, whether it returns or raises. -/
structure SafeApply (plan : ConfigurationPlan) (request : ApplyRequest)
    (trace : List RuntimeEvent) : Prop where
  safe : EachAfter (SafeDispatch plan request) trace
  retained : ∀ event ∈ trace, ∀ action ∈ event.dispatched,
    action.id ∉ request.retainedDeferredVoiceActionIds

lemma safeApply_of_quiet (h : Quiet trace) : SafeApply plan request trace := by
  refine ⟨safe_of_quietlyExtends eachAfter_nil ⟨trace, by simp, h⟩, fun event hevent action => ?_⟩
  simp [h event hevent]

lemma SafeApply.quietlyExtends (h : SafeApply plan request trace)
    (hquiet : QuietlyExtends trace trace') : SafeApply plan request trace' := by
  refine ⟨safe_of_quietlyExtends h.safe hquiet, fun event hevent action haction => ?_⟩
  obtain ⟨more, rfl, hmore⟩ := hquiet
  rcases List.mem_append.mp hevent with hevent | hevent
  · exact h.retained event hevent action haction
  · simp [hmore event hevent] at haction

lemma LoopTrace.safeApply (hplan : AcceptedPlan plan request prepared)
    (h : LoopTrace plan prepared
      ((deferredVoiceActions plan request prepared.scope).map ConfigurationAction.id) looped) :
    SafeApply plan request looped :=
  ⟨h.safe hplan, fun event hevent action haction => (h.noSignal hplan event hevent action haction).2⟩

variable {run : AppliedRun}

/-- The history of `apply` on an accepted plan is safe. -/
lemma AppliedSpec.safeApply (h : AppliedSpec plan request run report trace) :
    SafeApply plan request trace := by
  have hplan := h.accepted
  have hloop := h.loop.toLoopTrace.safeApply hplan
  rcases h.voice with ⟨_, spec⟩ | ⟨_, barrier, spec⟩
  · exact hloop.quietlyExtends spec.quiet
  have hjudged := hloop.quietlyExtends spec.quietBefore
  refine SafeApply.quietlyExtends ?_ spec.quietAfter
  rcases spec.signal.dispatched_or_eq with ⟨hflag, hverified, answer, -, hsignalled⟩ | ⟨-, heq⟩
  · have hobserved := spec.foundation.observed hverified
    rw [← withheldIds_eq hplan] at hobserved
    rw [hsignalled]
    refine ⟨eachAfter_concat.mpr ⟨hjudged.safe, safeDispatch_of_verified hobserved ?_⟩, ?_⟩
    · exact dependencies_of_verified hplan h.loop spec hverified spec.quietBefore
    · intro event hevent action haction hretained
      have hnone : request.retainedDeferredVoiceActionIds = [] := by
        by_contra hne
        simp [hplan.deferFlag hne] at hflag
      simp [hnone] at hretained
  · rw [heq]
    exact hjudged

lemma safeApply_apply : SafeApply plan request ((applicator.apply plan request).run []).2 := by
  refine Interaction.Ensures.of_run (ensures_apply.mono (fun report trace h => ?_)
    fun error trace h => ?_)
  · cases h with
    | refused spec => exact safeApply_of_quiet spec.quiet
    | applied run spec => exact spec.safeApply
  · rcases h with hquiet | ⟨prepared, hplan, -, hloop⟩
    · exact safeApply_of_quiet hquiet
    · exact hloop.safeApply hplan

/-! ## The completion -/

/-- What a prepared barrier in a report of `apply` establishes for the completion. -/
lemma ApplySpec.released (h : ApplySpec plan request report trace)
    {barrier : VoiceSignalBarrierResult} (hbarrier : report.voiceSignalBarrier = some barrier)
    (hprepared : isPreparedSignal plan report barrier) :
    FoundationObserved plan (withheldIds plan request) trace ∧
      ∀ planned ∈ plan.actions, planned.id ∈ barrier.deferredActionIds →
        ∀ d ∈ planned.dependsOn, ∃ result,
          latestResult request.retainedById trace d = some result ∧
            satisfiesApplyDependency result.status := by
  obtain ⟨hstatus, hintended⟩ := foundation_of_isPreparedSignal hprepared
  rcases h with spec | ⟨run, spec⟩
  · rw [spec.barrier] at hbarrier
    cases hbarrier
  rw [spec.report.barrier] at hbarrier
  rcases spec.voice with ⟨_, unbarred⟩ | ⟨_, crossing, hcrossing⟩
  · rw [unbarred.barrier] at hbarrier
    cases hbarrier
  obtain ⟨barrier', hbarrier', hids, hfoundation, hpending⟩ := hcrossing.barrier
  obtain rfl : barrier' = barrier := Option.some.inj (hbarrier'.symm.trans hbarrier)
  have hverified := (hpending hintended).2
  have hobserved := hcrossing.foundation.observed hverified
  rw [← withheldIds_eq spec.accepted] at hobserved
  have hjudged : QuietlyExtends crossing.judged trace := by
    rcases hcrossing.signal.dispatched_or_eq with ⟨hflag, -⟩ | ⟨-, heq⟩
    · simp [(hpending hintended).1] at hflag
    · exact heq ▸ hcrossing.quietAfter
  have hquiet : QuietlyExtends run.looped trace := hcrossing.quietBefore.trans hjudged
  refine ⟨?_, fun planned hplanned hid d hd => ?_⟩
  · obtain ⟨more, rfl, -⟩ := hjudged
    exact hobserved.append more
  · obtain ⟨deferred, hdeferred, hdeferredId⟩ := List.mem_map.mp ((hids planned.id).mp hid)
    obtain rfl : deferred = planned := List.inj_on_of_nodup_map spec.accepted.nodup
      (List.mem_filter.mp hdeferred).1 hplanned hdeferredId
    exact dependencies_of_verified spec.accepted spec.loop hcrossing hverified hquiet
      deferred hdeferred d hd

/-- The histories of a completion after `apply` are safe. -/
lemma safe_of_completionTrace (h : ApplySpec plan request report trace)
    (hsafe : EachAfter (SafeDispatch plan request) trace)
    (hcompletion : CompletionTrace plan report trace trace') :
    EachAfter (SafeDispatch plan request) trace' := by
  rcases hcompletion with hquiet | ⟨signals, signalled, hroute, hquiet⟩
  · exact safe_of_quietlyExtends hsafe hquiet
  refine safe_of_quietlyExtends ?_ hquiet
  cases hroute with
  | retained _ _ _ _ hextends => exact safe_of_quietlyExtends hsafe hextends
  | dispatched barrier hbarrier hprepared deferredActions hdeferred resolved hextends names
      answer =>
    obtain ⟨hobserved, hdependencies⟩ := h.released hbarrier hprepared
    refine eachAfter_concat.mpr ⟨safe_of_quietlyExtends hsafe hextends,
      safeDispatch_of_verified ?_ fun planned hplanned d hd => ?_⟩
    · obtain ⟨more, rfl, -⟩ := hextends
      exact hobserved.append more
    · obtain ⟨hmem, hid⟩ := (spec_completionActions hdeferred planned).mp hplanned
      obtain ⟨result, hlatest, hstatus⟩ := hdependencies planned hmem hid d hd
      obtain ⟨more, rfl, hmore⟩ := hextends
      exact ⟨result, by rw [latestResult_append_quiet hmore, hlatest], hstatus⟩

/-- The history of `apply` and the completion of its deferred signals is safe. -/
lemma safe_applyAndComplete :
    EachAfter (SafeDispatch plan request)
      ((applicator.applyAndComplete plan request completion).run []).2 := by
  refine Interaction.Ensures.of_run ?_
  unfold applyAndComplete
  rw [Interaction.ensures_bind]
  have hsafe : (applicator.apply plan request).Ensures []
      (fun report trace => ApplySpec plan request report trace ∧
        EachAfter (SafeDispatch plan request) trace)
      fun _ trace => EachAfter (SafeDispatch plan request) trace := by
    refine ensures_apply.mono (fun report trace h => ⟨h, ?_⟩) fun error trace h => ?_
    · cases h with
      | refused spec => exact (safeApply_of_quiet spec.quiet).safe
      | applied run spec => exact spec.safeApply.safe
    · rcases h with hquiet | ⟨prepared, hplan, -, hloop⟩
      · exact (safeApply_of_quiet hquiet).safe
      · exact hloop.safe hplan
  refine hsafe.imp fun report trace h => ?_
  refine ensures_completeDeferredVoiceSignals.mono (fun final trace' hfinal => ?_)
    fun error trace' hraised => safe_of_completionTrace h.1 h.2 hraised
  refine safe_of_completionTrace h.1 h.2 ?_
  cases hfinal with
  | refused message trace' hquiet => exact Or.inl hquiet
  | completed signals signalled hroute report _ trace' hquiet =>
    exact Or.inr ⟨signals, signalled, hroute, hquiet⟩

/-! ## The two safety properties -/

lemma AppliedSpec.actionIds (h : AppliedSpec plan request run report trace) :
    report.actionResults.map ActionApplicationResult.actionId =
      plan.actions.map ConfigurationAction.id := by
  rw [h.report.actionResults]
  cases h.voice with
  | unbarred _ spec => exact map_eq_of_map_get?_eq spec.actions h.loop.keyed
  | crossed _ barrier spec => exact map_eq_of_map_get?_eq spec.actions (spec.keyed h.loop.keyed)

/-- **Dispatch follows the dependencies.**  In every run of `apply`, and of `apply` followed by
the completion of its deferred signals, an action is dispatched only when the latest result of
each of its dependencies satisfies it.  A plan that the preflight accepted is reported with
exactly one result for each action; `apply` returns unless the phase observer raises or nothing
was dispatched; and it never dispatches a retained deferred Voice action. -/
theorem dispatch_follows_dependencies (applicator : ConfigurationApplicator)
    (plan : ConfigurationPlan) (request : ApplyRequest) :
    EachAfter (DependenciesSettled request.retainedById)
        ((applicator.apply plan request).run []).2 ∧
      (∀ completion, EachAfter (DependenciesSettled request.retainedById)
        ((applicator.applyAndComplete plan request completion).run []).2) ∧
      (∀ report, ((applicator.apply plan request).run []).1 = .ok report →
        report.preflightErrors = [] →
          report.actionResults.map ActionApplicationResult.actionId =
            plan.actions.map ConfigurationAction.id ∧
          (plan.actions.map ConfigurationAction.id).Nodup) ∧
      (∀ error, ((applicator.apply plan request).run []).1 = .error error →
        (∃ message, error = .observerError message) ∨
          ∀ event ∈ ((applicator.apply plan request).run []).2, event.dispatched = []) ∧
      ∀ event ∈ ((applicator.apply plan request).run []).2, ∀ action ∈ event.dispatched,
        action.id ∉ request.retainedDeferredVoiceActionIds := by
  refine ⟨safeApply_apply.safe.mono fun _ _ _ h => h.dependencies,
    fun completion => safe_applyAndComplete.mono fun _ _ _ h => h.dependencies,
    fun report hreport hpreflight => ?_, fun error herror => ?_, safeApply_apply.retained⟩
  · cases applySpec_of_run hreport with
    | refused spec => exact absurd hpreflight spec.preflightErrors
    | applied run spec => exact ⟨spec.actionIds, spec.accepted.nodup⟩
  · have hraised : RaisedInApply plan request error ((applicator.apply plan request).run []).2 :=
      ensures_apply.of_run_eq_error (Prod.ext herror rfl)
    rcases hraised with hquiet | ⟨prepared, -, hobserver, -⟩
    · exact Or.inr hquiet
    · exact Or.inl hobserver

/-- **Voice VLANs wait for the foundation.**  In every run of `apply`, and of `apply` followed by
the completion of its deferred signals, no Voice VLAN is activated and no retained deferred action
is dispatched before every foundation expectation was observed `verified`, or `unobservable` for a
DHCP pool.  When the foundation is not observed at all, neither ever happens. -/
theorem voice_signals_wait_for_foundation (applicator : ConfigurationApplicator)
    (plan : ConfigurationPlan) (request : ApplyRequest) (completion : CompletionRequest) :
    EachAfter (SignalsAfterFoundation plan request) ((applicator.apply plan request).run []).2 ∧
      EachAfter (SignalsAfterFoundation plan request)
        ((applicator.applyAndComplete plan request completion).run []).2 ∧
      (¬FoundationObserved plan (withheldIds plan request)
          ((applicator.applyAndComplete plan request completion).run []).2 →
        ∀ event ∈ ((applicator.applyAndComplete plan request completion).run []).2,
          ∀ action ∈ event.dispatched, action.activatesVoiceVlan = false ∧
            action.id ∉ request.retainedDeferredVoiceActionIds) := by
  have hsafe : EachAfter (SignalsAfterFoundation plan request)
      ((applicator.applyAndComplete plan request completion).run []).2 :=
    safe_applyAndComplete.mono fun _ _ _ h => h.signals
  refine ⟨safeApply_apply.safe.mono fun _ _ _ h => h.signals, hsafe, fun hfoundation => ?_⟩
  intro event hevent action haction
  obtain ⟨before, after, hsplit⟩ := List.append_of_mem hevent
  have hnot : ¬(action.activatesVoiceVlan = true ∨
      action.id ∈ request.retainedDeferredVoiceActionIds) := by
    intro hsignal
    have hbefore := hsafe before event after hsplit action haction hsignal
    refine hfoundation ?_
    rw [hsplit]
    exact hbefore.append (event :: after)
  rw [not_or, Bool.not_eq_true] at hnot
  exact hnot

end ConfigurationApplicator
end PacketTracer
