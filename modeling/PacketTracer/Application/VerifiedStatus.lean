import PacketTracer.Application.JournalCoverage

/-!
# What the status `verified` says, and how a stage judges it

A report is fully verified when every action of the plan has a result that satisfies the
dependencies on it and every expectation is `verified`.  The overall status does not look for
`partial_`, the status of a deferred access port, so a report of `apply` with the status `verified`
is fully verified exactly when the second stage was not left out.

`canonical_stage_configuration_error` of `qualify_cp_scale_live.py` knows for each kind of
expectation how much of it can be read back, and predicts the aggregate that the applicator computes
from the raw statuses.  Both agree on everything that passes the other checks.
-/

namespace PacketTracer

open Dicts Fallible PyText

namespace ConfigurationApplicator

/-- Every action of the plan was applied, and every expectation was verified. -/
structure FullyVerified (plan : ConfigurationPlan) (report : ConfigurationApplicationResult) :
    Prop where
  actionIds : report.actionResults.map ActionApplicationResult.actionId =
    plan.actions.map ConfigurationAction.id
  applied : ∀ item ∈ report.actionResults, satisfiesApplyDependency item.status
  expectationIds : report.verificationResults.map VerificationResult.expectationId =
    plan.verificationExpectations.map VerificationExpectation.id
  verified : ∀ item ∈ report.verificationResults, item.status = .verified

/-- No Voice VLAN was withheld, or one was activated. -/
def VoiceReleased (plan : ConfigurationPlan) (request : ApplyRequest)
    (trace : List RuntimeEvent) : Prop :=
  withheldIds plan request = [] ∨
    ∃ event ∈ trace, ∃ action ∈ event.dispatched, action.activatesVoiceVlan

/-- The expectations of withheld actions have other identifiers than the rest. -/
def ExpectationsApart (plan : ConfigurationPlan) (deferredIds : List String) : Prop :=
  ∀ expectation ∈ preSignalExpectations plan deferredIds, expectation.id ∉
    (postSignalExpectations plan deferredIds).map VerificationExpectation.id

variable {applicator : ConfigurationApplicator} {plan : ConfigurationPlan}
  {request : ApplyRequest} {prepared : PreparedApplication}
  {results signals : Dict String ActionApplicationResult} {deferred : List ConfigurationAction}
  {deployedNames : Dict String String} {deferSignal : Bool}
  {foundationStatus : ActionExecutionStatus} {looped signalled trace trace' : List RuntimeEvent}
  {application report : ConfigurationApplicationResult}

/-! ## The results behind the status -/

/-- A result that the overall status accepts, of an action that was dispatched or left out, was
applied. -/
lemma satisfies_of_accepted {status : ActionExecutionStatus}
    (hstatus : satisfiesApplyDependency status ∨ status = .failed ∨ status = .skipped ∨
      status = .dependencyBlocked)
    (haccepted : status ≠ .failed ∧ status ≠ .skipped ∧ status ≠ .dependencyBlocked) :
    satisfiesApplyDependency status := by
  obtain ⟨hfailed, hskipped, hblocked⟩ := haccepted
  rcases hstatus with hok | h | h | h
  · exact hok
  · exact absurd h hfailed
  · exact absurd h hskipped
  · exact absurd h hblocked

variable {run : AppliedRun}

lemma AppliedSpec.expectationIds (h : AppliedSpec plan request run report trace) :
    report.verificationResults.map VerificationResult.expectationId =
      plan.verificationExpectations.map VerificationExpectation.id := by
  rw [h.report.verificationResults]
  cases h.voice with
  | unbarred _ spec => exact spec.verifications
  | crossed _ barrier spec => exact map_eq_of_map_get?_eq spec.verifications spec.verifiedKeyed

section Verified

variable (h : AppliedSpec plan request run report trace) (hverified : report.status = .verified)
include h hverified

lemma AppliedSpec.accepted_of_verified :
    (∀ item ∈ report.actionResults, item.status ≠ .failed ∧ item.status ≠ .skipped ∧
        item.status ≠ .dependencyBlocked) ∧
      ∀ item ∈ report.verificationResults, item.status = .verified := by
  rw [h.report.status] at hverified
  obtain ⟨hactions, -, hexpectations⟩ := overallStatus_eq_verified_iff.mp hverified
  rw [h.report.actionResults, h.report.verificationResults]
  exact ⟨hactions, hexpectations⟩

lemma AppliedSpec.fullyVerified
    (happlied : ∀ item ∈ report.actionResults, satisfiesApplyDependency item.status) :
    FullyVerified plan report :=
  ⟨h.actionIds, happlied, h.expectationIds, (h.accepted_of_verified hverified).2⟩

lemma AppliedSpec.fullyVerified_of_unbarred
    (hspec : UnbarredSpec plan run.results run.looped run.outcome trace) :
    FullyVerified plan report := by
  refine h.fullyVerified hverified fun item hitem => ?_
  refine satisfies_of_accepted ?_ ((h.accepted_of_verified hverified).1 item hitem)
  rw [h.report.actionResults, mem_iff_of_map_get?_eq hspec.actions h.loop.keyed] at hitem
  exact h.loop.status _ _ hitem.2

end Verified

section Applied

variable (h : AppliedSpec plan request run report trace)
include h

/-- Where the second stage is dispatched, a verified report is fully verified. -/
lemma AppliedSpec.fullyVerified_of_dispatched {barrier : BarrierRun} (hverified : report.status = .verified)
    (hspec : BarrierSpec plan run.results (deferredVoiceActions plan request run.prepared.scope)
      run.prepared.deployedNames deferSignal run.looped barrier run.outcome trace)
    {answer : Except String (List RuntimeActionMutation)}
    (hsignals : barrier.signals =
      dispatchResults (deferredVoiceActions plan request run.prepared.scope) answer) :
    FullyVerified plan report := by
  refine h.fullyVerified hverified fun item hitem => ?_
  refine satisfies_of_accepted ?_ ((h.accepted_of_verified hverified).1 item hitem)
  rw [h.report.actionResults,
    mem_iff_of_map_get?_eq hspec.actions (hspec.keyed h.loop.keyed)] at hitem
  obtain ⟨-, hget⟩ := hitem
  rw [Dict.get?_update] at hget
  cases hsignal : barrier.signals.get? item.actionId with
  | some signal =>
    rw [hsignal, Option.some_or] at hget
    obtain rfl : signal = item := Option.some.inj hget
    rw [hsignals] at hsignal
    exact (spec_get?_dispatchResults hsignal).2.imp_right Or.inl
  | none =>
    rw [hsignal, Option.none_or] at hget
    exact h.loop.status _ _ hget

/-- Where the second stage dispatches nothing, a report is not fully verified. -/
lemma AppliedSpec.not_fullyVerified_of_held {barrier : BarrierRun}
    (hdeferred : deferredVoiceActions plan request run.prepared.scope ≠ [])
    (hspec : BarrierSpec plan run.results (deferredVoiceActions plan request run.prepared.scope)
      run.prepared.deployedNames deferSignal run.looped barrier run.outcome trace)
    (hheld : barrier.signalled = barrier.judged) : ¬FullyVerified plan report := by
  intro hfull
  obtain ⟨planned, hmem⟩ := List.exists_mem_of_ne_nil _ hdeferred
  have hplanned := (mem_deferredVoiceActions.mp hmem).1
  obtain ⟨result, hresult, hget⟩ := mem_of_map_get?_eq hspec.actions hplanned
  have hstatus := hspec.signal.not_satisfied (by rw [hheld]) (List.mem_map_of_mem hmem) hget
  rw [← h.report.actionResults] at hresult
  simp [hfull.applied result hresult] at hstatus

/-- What is withheld is released exactly when the second stage is dispatched. -/
lemma AppliedSpec.voiceReleased_iff {barrier : BarrierRun}
    (hdeferred : deferredVoiceActions plan request run.prepared.scope ≠ [])
    (hspec : BarrierSpec plan run.results (deferredVoiceActions plan request run.prepared.scope)
      run.prepared.deployedNames deferSignal run.looped barrier run.outcome trace) :
    VoiceReleased plan request trace ↔
      deferSignal = false ∧ barrier.foundation.foundationStatus = .verified := by
  have hwithheld : withheldIds plan request ≠ [] := by
    rw [withheldIds_eq h.accepted]
    simpa using hdeferred
  rcases hspec.signal.dispatched_or_eq with
    ⟨hflag, hverified, answer, -, hsignalled⟩ | ⟨hnot, hheld⟩
  · refine iff_of_true (Or.inr ?_) ⟨hflag, hverified⟩
    obtain ⟨planned, hmem⟩ := List.exists_mem_of_ne_nil _ hdeferred
    obtain ⟨after, rfl, -⟩ := hspec.quietAfter
    refine ⟨_, List.mem_append_left _ (hsignalled ▸ List.mem_append_right _
      (List.mem_singleton_self _)), _, List.mem_map_of_mem hmem, ?_⟩
    rw [activatesVoiceVlan_runtimeAction]
    simpa using (mem_deferredVoiceActions.mp hmem).2.2
  · refine iff_of_false (fun hreleased => ?_) fun ⟨hflag, hverified⟩ => hnot hflag hverified
    obtain ⟨event, hevent, action, haction, hvoice⟩ := hreleased.resolve_left hwithheld
    have hquiet : QuietlyExtends run.looped trace :=
      hspec.quietBefore.trans (hheld ▸ hspec.quietAfter)
    obtain ⟨more, rfl, hmore⟩ := hquiet
    rcases List.mem_append.mp hevent with hlooped | hlate
    · simp [(h.loop.toLoopTrace.noSignal h.accepted event hlooped action haction).1] at hvoice
    · simp [hmore event hlate] at haction

/-! ## `apply` -/

/-- A verified report of `apply` is fully verified exactly when the Voice VLANs were released. -/
lemma AppliedSpec.fullyVerified_iff (hverified : report.status = .verified) :
    FullyVerified plan report ↔ VoiceReleased plan request trace := by
  rcases h.voice with ⟨hdeferred, hspec⟩ | ⟨hdeferred, barrier, hspec⟩
  · refine iff_of_true (h.fullyVerified_of_unbarred hverified hspec) (Or.inl ?_)
    rw [withheldIds_eq h.accepted, hdeferred, List.map_nil]
  rw [h.voiceReleased_iff hdeferred hspec]
  rcases hspec.signal.dispatched_or_eq with
    ⟨hflag, hfoundation, answer, hsignals, -⟩ | ⟨hnot, hheld⟩
  · exact iff_of_true (h.fullyVerified_of_dispatched hverified hspec hsignals)
      ⟨hflag, hfoundation⟩
  · exact iff_of_false (h.not_fullyVerified_of_held hdeferred hspec hheld)
      fun ⟨hflag, hfoundation⟩ => hnot hflag hfoundation

/-- Everything that was verified before the second stage of a verified report is verified. -/
lemma AppliedSpec.preSignal_verified {barrier : BarrierRun} (hverified : report.status = .verified)
    (hspec : BarrierSpec plan run.results (deferredVoiceActions plan request run.prepared.scope)
      run.prepared.deployedNames deferSignal run.looped barrier run.outcome trace)
    (hapart : ExpectationsApart plan (withheldIds plan request)) {identifier : String}
    {item : VerificationResult}
    (hget : barrier.foundation.preSignalResults.get? identifier = some item) :
    item.status = .verified := by
  rw [withheldIds_eq h.accepted] at hapart
  have hmem := (hspec.foundation.preSignal.domain identifier).mp (by rw [hget]; rfl)
  obtain ⟨expectation, hexpectation, rfl⟩ := List.mem_map.mp hmem
  have hplan : expectation ∈ plan.verificationExpectations := (List.mem_filter.mp hexpectation).1
  obtain ⟨result, hresult, hfound⟩ := mem_of_map_get?_eq hspec.verifications hplan
  rw [hspec.preSignal _ (hapart expectation hexpectation), hget] at hfound
  obtain rfl : item = result := Option.some.inj hfound
  exact (h.accepted_of_verified hverified).2 item (h.report.verificationResults ▸ hresult)

/-- The foundation of a verified report is verified as soon as there is one. -/
lemma AppliedSpec.foundation_of_verified {barrier : BarrierRun} (hverified : report.status = .verified)
    (hdeferred : deferredVoiceActions plan request run.prepared.scope ≠ [])
    (hspec : BarrierSpec plan run.results (deferredVoiceActions plan request run.prepared.scope)
      run.prepared.deployedNames deferSignal run.looped barrier run.outcome trace)
    (hapart : ExpectationsApart plan (withheldIds plan request)) :
    barrier.foundation.foundationStatus = .verified ↔
      foundationExpectations plan (withheldIds plan request) ≠ [] := by
  have hall : ∀ identifier item,
      barrier.foundation.preSignalResults.get? identifier = some item → item.status = .verified :=
    fun identifier item hget => h.preSignal_verified hverified hspec hapart hget
  rw [withheldIds_eq h.accepted, hspec.foundation.verified_iff]
  refine ⟨fun hfoundation => hfoundation.2.1, fun hnonempty => ?_⟩
  refine ⟨⟨hdeferred, fun planned hmem => ?_⟩, hnonempty, fun expectation hexpectation => ?_,
    fun identifier item hget => ?_⟩
  · have hplanned := (mem_deferredVoiceActions.mp hmem).1
    obtain ⟨preparation, hpreparation⟩ := Option.isSome_iff_exists.mp (h.covered planned hplanned)
    refine ⟨preparation, hpreparation, ?_⟩
    cases hstatus : satisfiesApplyDependency preparation.status with
    | true => rfl
    | false =>
      by_cases hfoundation : barrier.foundation.foundationStatus = .verified
      · obtain ⟨result, hget, hok⟩ :=
          (hspec.foundation.verified_iff.mp hfoundation).1.2 planned hmem
        obtain rfl : result = preparation := Option.some.inj (hget.symm.trans hpreparation)
        simp [hok] at hstatus
      · have hreported := hspec.signal.get?_update_of_failed
          (fun hfoundation' => absurd hfoundation' hfoundation) hpreparation hstatus
        have hid := h.loop.keyed _ _ hpreparation
        have hresult : preparation ∈ report.actionResults := by
          rw [h.report.actionResults,
            mem_iff_of_map_get?_eq hspec.actions (hspec.keyed h.loop.keyed), hid]
          exact ⟨List.mem_map_of_mem hplanned, hreported⟩
        have hok := satisfies_of_accepted (h.loop.status _ _ hpreparation)
          ((h.accepted_of_verified hverified).1 preparation hresult)
        simp [hok] at hstatus
  · have hmem : expectation.id ∈ (preSignalExpectations plan ((deferredVoiceActions plan request
        run.prepared.scope).map ConfigurationAction.id)).map VerificationExpectation.id := by
      obtain ⟨hplan, hkind⟩ := List.mem_filter.mp hexpectation
      exact List.mem_map_of_mem (List.mem_filter.mpr ⟨hplan, by simpa using (of_decide_eq_true hkind).1⟩)
    obtain ⟨item, hget⟩ :=
      Option.isSome_iff_exists.mp ((hspec.foundation.preSignal.domain expectation.id).mpr hmem)
    exact ⟨item, hget, by simp [foundationEstablished, hall _ _ hget]⟩
  · simp [breaksFoundation, hall _ _ hget]

/-- The same in terms of the plan and the request. -/
lemma AppliedSpec.fullyVerified_iff_of_apart (hverified : report.status = .verified)
    (hapart : ExpectationsApart plan (withheldIds plan request)) :
    FullyVerified plan report ↔ withheldIds plan request = [] ∨
      request.deferVoiceSignalUntilBootstrap = false ∧
        foundationExpectations plan (withheldIds plan request) ≠ [] := by
  rw [h.fullyVerified_iff hverified]
  rcases h.voice with ⟨hdeferred, hspec⟩ | ⟨hdeferred, barrier, hspec⟩
  · have hnone : withheldIds plan request = [] := by
      rw [withheldIds_eq h.accepted, hdeferred, List.map_nil]
    exact iff_of_true (Or.inl hnone) (Or.inl hnone)
  have hsome : withheldIds plan request ≠ [] := by
    rw [withheldIds_eq h.accepted]
    simpa using hdeferred
  rw [h.voiceReleased_iff hdeferred hspec,
    h.foundation_of_verified hverified hdeferred hspec hapart]
  simp [hsome]

end Applied

/-! ## The completion -/

lemma mem_of_get?_application {result : ActionApplicationResult}
    (hget : (Dict.ofList (application.actionResults.map fun item =>
      (item.actionId, item))).get? result.actionId = some result) :
    result ∈ application.actionResults := by
  obtain ⟨item, hitem, -, rfl⟩ := Dict.exists_of_get?_ofList hget
  exact hitem

/-- A completed report is fully verified when it is verified and its results are those of
dispatches or of the main loop. -/
lemma CompletedReport.fullyVerified
    (hroute : CompletionRoute plan application trace signals signalled)
    (h : CompletedReport plan application signals report) (hverified : report.status = .verified)
    (hstatus : ∀ item ∈ report.actionResults, satisfiesApplyDependency item.status ∨
      item.status = .failed ∨ item.status = .skipped ∨ item.status = .dependencyBlocked) :
    FullyVerified plan report := by
  rw [h.status] at hverified
  obtain ⟨hactions, -, hexpectations⟩ := overallStatus_eq_verified_iff.mp hverified
  exact ⟨map_eq_of_map_get?_eq h.actions hroute.keyed_update,
    fun item hitem => satisfies_of_accepted (hstatus item hitem) (hactions item hitem),
    h.verifications, hexpectations⟩

/-- A completion that verifies retained state reports the results of the application. -/
lemma AppliedSpec.status_of_retained (happlied : AppliedSpec plan request run application trace)
    (hspec : UnbarredSpec plan run.results run.looped run.outcome trace)
    (hroute : CompletionRoute plan application trace signals signalled)
    (hsignals : ∀ identifier result, signals.get? identifier = some result →
      result ∈ application.actionResults ∧ result.actionId = identifier)
    (hreport : CompletedReport plan application signals report) :
    ∀ item ∈ report.actionResults, satisfiesApplyDependency item.status ∨
      item.status = .failed ∨ item.status = .skipped ∨ item.status = .dependencyBlocked := by
  intro item hitem
  obtain ⟨-, hget⟩ := (mem_iff_of_map_get?_eq hreport.actions hroute.keyed_update).mp hitem
  have hmem : item ∈ application.actionResults := by
    rw [Dict.get?_update] at hget
    cases hsignal : signals.get? item.actionId with
    | some signal =>
      rw [hsignal, Option.some_or] at hget
      exact Option.some.inj hget ▸ (hsignals _ _ hsignal).1
    | none =>
      rw [hsignal, Option.none_or] at hget
      exact mem_of_get?_application hget
  rw [happlied.report.actionResults,
    mem_iff_of_map_get?_eq hspec.actions happlied.loop.keyed] at hmem
  exact happlied.loop.status _ _ hmem.2

/-- A completion that dispatches reports the results of its dispatch and of the main loop. -/
lemma AppliedSpec.status_of_dispatched {crossing : BarrierRun}
    (happlied : AppliedSpec plan request run application trace)
    (hspec : BarrierSpec plan run.results (deferredVoiceActions plan request run.prepared.scope)
      run.prepared.deployedNames deferSignal run.looped crossing run.outcome trace)
    {deferredActions : List ConfigurationAction}
    (hactions : ∀ planned ∈ plan.actions, planned.id ∈ (deferredVoiceActions plan request
      run.prepared.scope).map ConfigurationAction.id → planned ∈ deferredActions)
    {answer : Except String (List RuntimeActionMutation)}
    (hroute : CompletionRoute plan application trace (dispatchResults deferredActions answer)
      signalled)
    (hreport : CompletedReport plan application (dispatchResults deferredActions answer) report) :
    ∀ item ∈ report.actionResults, satisfiesApplyDependency item.status ∨
      item.status = .failed ∨ item.status = .skipped ∨ item.status = .dependencyBlocked := by
  intro item hitem
  obtain ⟨hid, hget⟩ := (mem_iff_of_map_get?_eq hreport.actions hroute.keyed_update).mp hitem
  obtain ⟨planned, hplanned, hplannedId⟩ := List.mem_map.mp hid
  rw [Dict.get?_update] at hget
  cases hsignal : (dispatchResults deferredActions answer).get? item.actionId with
  | some signal =>
    rw [hsignal, Option.some_or] at hget
    obtain rfl : signal = item := Option.some.inj hget
    exact (spec_get?_dispatchResults hsignal).2.imp_right Or.inl
  | none =>
    rw [hsignal, Option.none_or] at hget
    have hmem := mem_of_get?_application hget
    rw [happlied.report.actionResults,
      mem_iff_of_map_get?_eq hspec.actions (hspec.keyed happlied.loop.keyed)] at hmem
    -- the action was not dispatched again, so that it was not deferred either
    have hnone : crossing.signals.get? item.actionId = none := by
      rw [← Option.not_isSome_iff_eq_none, hspec.signal.domain]
      intro hdeferred
      rw [← hplannedId] at hdeferred
      have hdispatched : item.actionId ∈ deferredActions.map ConfigurationAction.id :=
        List.mem_map.mpr ⟨planned, hactions planned hplanned hdeferred, hplannedId⟩
      have hsome : ((dispatchResults deferredActions answer).get? item.actionId).isSome :=
        isSome_get?_dispatchResults.mpr hdispatched
      simp [hsignal] at hsome
    rw [Dict.get?_update, hnone, Option.none_or] at hmem
    exact happlied.loop.status _ _ hmem.2

/-- A verified report of a completion is fully verified. -/
lemma CompletionSpec.fullyVerified (happlication : ApplySpec plan request application trace)
    (h : CompletionSpec plan application trace report trace')
    (hverified : report.status = .verified) : FullyVerified plan report := by
  rcases h
      with ⟨message, trace', hquiet⟩ | ⟨signals, signalled, hroute, report, hreport, trace', hquiet⟩
  · cases hverified
  refine hreport.fullyVerified hroute hverified ?_
  cases hroute with
  | retained hqualified signals hsignals signalled hextends =>
    have hroute := CompletionRoute.retained hqualified signals hsignals signalled hextends
    obtain ⟨run, hdeferred, spec, hspec⟩ := happlication.unbarred_of_retained hqualified
    exact spec.status_of_retained hspec hroute hsignals hreport
  | dispatched barrier hbarrier hprepared deferredActions hactions resolved hresolved names
      answer =>
    have hroute := CompletionRoute.dispatched barrier hbarrier hprepared deferredActions hactions
      resolved hresolved names answer
    rcases happlication with spec | ⟨run, spec⟩
    · rw [spec.barrier] at hbarrier
      cases hbarrier
    rw [spec.report.barrier] at hbarrier
    rcases spec.voice with ⟨_, unbarred⟩ | ⟨hdeferred, crossing, hspec⟩
    · rw [unbarred.barrier] at hbarrier
      cases hbarrier
    obtain ⟨barrier', hbarrier', hdeferredIds, -⟩ := hspec.barrier
    obtain rfl : barrier' = barrier := Option.some.inj (hbarrier'.symm.trans hbarrier)
    refine spec.status_of_dispatched hspec (fun planned hplanned hid => ?_) hroute hreport
    exact (spec_completionActions hactions planned).mpr
      ⟨hplanned, (hdeferredIds planned.id).mpr hid⟩

/-- **What `verified` says.**  A verified report of `apply` is fully verified exactly when no
Voice VLAN was withheld or one was activated; where the expectations of the withheld actions have
identifiers of their own, this is decided by the plan and the request.  A verified report of a
completion is always fully verified. -/
theorem verified_report_iff_fullyVerified (applicator : ConfigurationApplicator)
    (plan : ConfigurationPlan) (request : ApplyRequest) :
    (∀ report, ((applicator.apply plan request).run []).1 = .ok report →
      report.status = .verified →
        (FullyVerified plan report ↔
          VoiceReleased plan request ((applicator.apply plan request).run []).2) ∧
        (ExpectationsApart plan (withheldIds plan request) →
          (FullyVerified plan report ↔ withheldIds plan request = [] ∨
            request.deferVoiceSignalUntilBootstrap = false ∧
              foundationExpectations plan (withheldIds plan request) ≠ []))) ∧
    ∀ completion report, ((applicator.applyAndComplete plan request completion).run []).1 =
        .ok report →
      report.status = .verified → FullyVerified plan report := by
  refine ⟨fun report hreport hverified => ?_, fun completion report hreport => ?_⟩
  · cases applySpec_of_run hreport with
    | refused spec =>
      rw [spec.status] at hverified
      cases hverified
    | applied run spec =>
      exact ⟨spec.fullyVerified_iff hverified, spec.fullyVerified_iff_of_apart hverified⟩
  · obtain ⟨application, trace, happlication, hcompletion⟩ := exists_completion_of_run hreport
    exact hcompletion.fullyVerified happlication

/-! ## A port that is never signalled -/

/-- A host name that is verified, and an access port with a Voice VLAN that nothing verifies. -/
def unverifiedPortPlan : ConfigurationPlan where
  id := "plan"
  sourceTopologyHash := "topology"
  actions := [
    { id := "hostname", phase := .identity, deviceId := "sw", deviceName := "Switch0"
      siteId := "site", detail := .configureHostname "access-1" },
    { id := "port", phase := .l2Interfaces, deviceId := "sw", deviceName := "Switch0"
      siteId := "site", detail := .configureAccessPort "FastEthernet0/1" 10 (some 20) [] }]
  devices := [{ deviceId := "sw", deviceName := "Switch0", model := "2960-24TT" }]
  verificationExpectations := [
    { id := "hostname-set", actionId := "hostname", kind := .hostname, deviceId := "sw"
      deviceName := "Switch0" }]

lemma status_unverifiedPort :
    (((scriptedApplicator fun _ => .changed).apply unverifiedPortPlan plainRequest).run []).1.map
      (fun report => (report.status,
        report.actionResults.map fun item => satisfiesApplyDependency item.status)) =
      .ok (.verified, [true, false]) := by
  decide

/-- **`verified` does not say that everything was applied.** -/
theorem not_forall_fullyVerified :
    ¬∀ (applicator : ConfigurationApplicator) (plan : ConfigurationPlan) (request : ApplyRequest)
      (report : ConfigurationApplicationResult),
      ((applicator.apply plan request).run []).1 = .ok report → report.status = .verified →
        FullyVerified plan report := by
  intro hall
  obtain ⟨report, hreport⟩ : ∃ report, (((scriptedApplicator fun _ => .changed).apply
      unverifiedPortPlan plainRequest).run []).1 = .ok report := Fallible.exists_of_isOk (by decide)
  have hstatuses := status_unverifiedPort
  simp only [hreport, Except.map, Except.ok.injEq, Prod.mk.injEq] at hstatuses
  obtain ⟨hverified, happlied⟩ := hstatuses
  have hfull := hall _ _ _ report hreport hverified
  have hfalse : false ∈ report.actionResults.map fun item =>
      satisfiesApplyDependency item.status := by simp [happlied]
  obtain ⟨item, hitem, hstatus⟩ := List.mem_map.mp hfalse
  simp [hfull.applied item hitem] at hstatus

/-- A port whose Voice VLAN is activated over a verified foundation. -/
theorem fullyVerified_voicePort :
    ∃ report, (((scriptedApplicator fun _ => .changed).apply voicePortPlan
        plainRequest).run []).1 = .ok report ∧ FullyVerified voicePortPlan report := by
  obtain ⟨report, hreport⟩ : ∃ report, (((scriptedApplicator fun _ => .changed).apply
      voicePortPlan plainRequest).run []).1 = .ok report := Fallible.exists_of_isOk (by decide)
  have hstatus : (((scriptedApplicator fun _ => .changed).apply voicePortPlan
      plainRequest).run []).1.map (fun report => report.status) = .ok .verified := by
    decide
  simp only [hreport, Except.map, Except.ok.injEq] at hstatus
  refine ⟨report, hreport,
    (((verified_report_iff_fullyVerified _ _ _).1 report hreport hstatus).2 ?_).mpr ?_⟩
  · unfold ExpectationsApart
    decide
  · decide

end ConfigurationApplicator

def FieldVerificationStatus.value : FieldVerificationStatus → String
  | verified => "verified"
  | failed => "failed"
  | unknown => "unknown"
  | unobservable => "unobservable"

def ConfigurationApplicationStatus.value : ConfigurationApplicationStatus → String
  | applied => "applied"
  | verified => "verified"
  | partial_ => "partial"
  | failed => "failed"
  | skipped => "skipped"

namespace StageConfiguration

/-! ## The policy -/

/-- Return a message unless a condition holds. -/
def require (condition : Prop) [Decidable condition] (message : String) : Except String Unit :=
  if condition then .ok () else .error message

/-- `identity_errors`. -/
def identityErrors (plan : ConfigurationPlan) (result : ConfigurationApplicationResult) :
    List String :=
  (if result.configPlanId ≠ plan.id then ["configuration plan id"] else []) ++
    (if result.configSemanticHash ≠ plan.semanticHash then ["configuration semantic hash"]
      else []) ++
    if result.sourceTopologyHash ≠ plan.sourceTopologyHash then ["source topology hash"] else []

/-- `pending_voice_ids`. -/
def pendingVoiceIds (result : ConfigurationApplicationResult) (allowDeferredVoiceSignal : Bool) :
    Except String (List String) :=
  if allowDeferredVoiceSignal then
    match result.voiceSignalBarrier.filter fun barrier =>
        barrier.foundationStatus = .verified ∧ barrier.signalStatus = .intended with
    | some barrier => .ok barrier.deferredActionIds
    | none => .error ("Configuration did not retain a VERIFIED network foundation " ++
        "with Voice signalling pending bootstrap.")
  else .ok []

/-- An action status that the policy accepts. -/
def acceptsAction (pending : List String) (item : ActionApplicationResult) : Bool :=
  item.status ∈ [ActionExecutionStatus.applied, .noOp, .reasserted] ||
    (item.actionId ∈ pending && item.status = .partial_)

/-- The checks of the actions: the inventory, its partition and the statuses. -/
def checkActions (plan : ConfigurationPlan) (result : ConfigurationApplicationResult)
    (pending : List String) : Except String Unit := do
  let expected := plan.actions.map ConfigurationAction.id
  require ((result.actionResults.map ActionApplicationResult.actionId).isPerm expected)
    "Configuration action result inventory did not match the typed plan."
  require (result.mutationActionIds.Nodup ∧ result.retainedActionIds.Nodup ∧
      (∀ identifier ∈ result.mutationActionIds, identifier ∉ result.retainedActionIds) ∧
      (result.mutationActionIds ++ result.retainedActionIds).isPerm expected)
    ("Configuration mutation and retained action inventories did not " ++
      "partition the typed plan.")
  let invalid := result.actionResults.filter fun item => !acceptsAction pending item
  require (invalid = []) ("Configuration action status is fail-closed: " ++
    String.intercalate ", " (sortedBy id (invalid.map fun item =>
      item.actionId ++ ":" ++ item.status.value)))

/-- Nothing of an expectation was observed, and nothing is claimed. -/
def IsUnobserved (expectation : VerificationExpectation) (item : VerificationResult) : Prop :=
  item.status = .unobservable ∧ item.freshEvidence = false ∧
    (∀ name ∈ item.fields.keys, name ∈ expectation.expected.map Prod.fst) ∧
    (∀ name ∈ expectation.expected.map Prod.fst, name ∈ item.fields.keys) ∧
    item.fields.values ≠ [] ∧ ∀ status ∈ item.fields.values, status = .unobservable

instance (expectation : VerificationExpectation) (item : VerificationResult) :
    Decidable (IsUnobserved expectation item) :=
  inferInstanceAs (Decidable (_ ∧ _))

/-- A result has a status, fresh evidence of a method, and exactly the expected fields. -/
def isReadBack (status : ActionExecutionStatus) (method : String)
    (expectedFields : List (String × FieldVerificationStatus)) (item : VerificationResult) : Bool :=
  item.status = status && item.freshEvidence && item.evidenceMethod = method &&
    item.fields.entries.isPerm expectedFields

/-- What the policy demands of a kind of expectation, whether that is a ceiling below `verified`,
and the complaint. -/
def kindRule (expectation : VerificationExpectation) (item : VerificationResult) :
    Bool × Bool × String :=
  let name := quoted item.expectationId
  match expectation.kind with
  | .dhcpPool =>
    (IsUnobserved expectation item && item.evidenceMethod = "runtime_observability_limit", true,
      "DHCP verification " ++ name ++
        " exceeded or departed from its exact UNOBSERVABLE getter ceiling.")
  | .endpointAddressing =>
    if item.evidenceMethod = "structured_endpoint_getters_absent" then
      (IsUnobserved expectation item, true,
        "Endpoint verification " ++ name ++
          " claimed an absent address channel without staying entirely unobserved.")
    else
      (isReadBack .partial_ "structured_endpoint_getters"
          [("ipv4", .verified), ("netmask", .verified), ("gateway", .unobservable),
            ("dns", .unobservable)] item, true,
        "Endpoint verification " ++ name ++ " departed from the exact IP/mask VERIFIED and " ++
          "gateway/DNS UNOBSERVABLE ceiling.")
  | .trunk =>
    (isReadBack .verified "fresh_show_interfaces_trunk"
        [("interface", .verified), ("status", .verified), ("allowed_vlans", .verified),
          ("active_vlans", .verified), ("forwarding_vlans", .verified)] item, false,
      "Trunk verification " ++ name ++ " departed from the exact allowed, active, and " ++
        "forwarding VLAN traversal proof.")
  | _ =>
    (item.status = .verified && item.freshEvidence && item.fields.values.all (· = .verified), false,
      "Configuration verification " ++ name ++ " is " ++ item.status.value ++
        "; only fresh VERIFIED evidence is allowed outside the governed ceilings.")

/-- One round of the loop over the verifications: whether the item is a ceiling. -/
def judgeItem (casefold : String → String) (pending : List String)
    (expectation : VerificationExpectation) (item : VerificationResult) : Except String Bool :=
  if expectation.actionId ∈ pending then do
    require (item.status = .partial_ ∧ item.freshEvidence = false ∧ item.fields.entries = [] ∧
        "pending".toList <:+: (casefold item.message).toList)
      ("Deferred Voice verification " ++ quoted item.expectationId ++
        " did not remain explicitly PARTIAL and pending bootstrap.")
    return true
  else do
    let invalid := item.fields.entries.filter fun field =>
      field.2 = .unknown ∨ field.2 = .failed
    require (invalid = [])
      ("Configuration verification " ++ quoted item.expectationId ++
        " contains fail-closed UNKNOWN/FAILED field evidence: " ++
        String.intercalate ", " (sortedBy id (invalid.map fun field =>
          field.1 ++ ":" ++ field.2.value)))
    let (accepted, ceiling, complaint) := kindRule expectation item
    require (accepted = true) complaint
    return ceiling

/-- All checks before that of the aggregate; the result is `ceiling_present`. -/
def stageChecks (casefold : String → String) (plan : ConfigurationPlan)
    (result : ConfigurationApplicationResult) (allowDeferredVoiceSignal : Bool) :
    Except String Bool := do
  require (identityErrors plan result = [])
    ("Configuration result mismatched " ++
      String.intercalate ", " (identityErrors plan result) ++ ".")
  require (result.preflightErrors = [])
    ("Configuration preflight reported: " ++ String.intercalate "; " result.preflightErrors)
  let pending ← pendingVoiceIds result allowDeferredVoiceSignal
  checkActions plan result pending
  let expectations := Dict.ofList (plan.verificationExpectations.map fun item => (item.id, item))
  require (expectations.size = plan.verificationExpectations.length)
    "Configuration plan contains duplicate verification identifiers."
  require (expectations.keys.isPerm
      (result.verificationResults.map VerificationResult.expectationId))
    "Configuration verification inventory did not match the typed plan."
  let ceilings ← result.verificationResults.mapM fun item =>
    match expectations.get? item.expectationId with
    | some expectation => judgeItem casefold pending expectation item
    -- a `KeyError`, which the inventory excludes
    | none => .error item.expectationId
  return ceilings.any id

/-- `expected_status`. -/
def expectedStatus (ceilingPresent : Bool) : ConfigurationApplicationStatus :=
  if ceilingPresent then .partial_ else .verified

/-- `canonical_stage_configuration_error`. -/
def canonicalStageConfigurationError (casefold : String → String) (plan : ConfigurationPlan)
    (result : ConfigurationApplicationResult) (allowDeferredVoiceSignal : Bool) : String :=
  match stageChecks casefold plan result allowDeferredVoiceSignal with
  | .error message => message
  | .ok ceilingPresent =>
    if result.status = expectedStatus ceilingPresent then ""
    else "Configuration aggregate is " ++ result.status.value ++ "; expected the truthful " ++
      (expectedStatus ceilingPresent).value ++ " state for this stage."

/-! ## What passes the checks -/

section Checks

variable {casefold : String → String} {plan : ConfigurationPlan}
  {result : ConfigurationApplicationResult} {pending : List String}
  {u : Unit} {expectation : VerificationExpectation} {item : VerificationResult}

lemma require_eq_ok {condition : Prop} [Decidable condition] {message : String} :
    require condition message = .ok u ↔ condition := by
  unfold require
  split_ifs with h <;> simp [h]

/-- What the rule of its kind accepts is a ceiling exactly when it is not verified. -/
lemma ceiling_of_kindRule (h : (kindRule expectation item).1 = true) :
    (kindRule expectation item).2.1 = true ↔ item.status ≠ .verified := by
  unfold kindRule at h ⊢
  cases hkind : expectation.kind
  case endpointAddressing =>
    by_cases hmethod : item.evidenceMethod = "structured_endpoint_getters_absent"
    · simp only [hkind, hmethod, if_true, decide_eq_true_eq] at h ⊢
      simp [h.1]
    · simp only [hkind, hmethod, if_false, isReadBack, Bool.and_eq_true, decide_eq_true_eq] at h ⊢
      simp [h.1.1.1]
  case dhcpPool =>
    simp only [hkind, Bool.and_eq_true, decide_eq_true_eq] at h ⊢
    simp [h.1.1]
  all_goals
    simp only [hkind, isReadBack, Bool.and_eq_true, decide_eq_true_eq] at h ⊢
    simp [h]

lemma ceiling_of_judgeItem {ceiling : Bool}
    (h : judgeItem casefold pending expectation item = .ok ceiling) :
    ceiling = true ↔ item.status ≠ .verified := by
  unfold judgeItem at h
  split_ifs at h with hpending
  · obtain ⟨_, hstatus, hceiling⟩ := bind_eq_ok.mp h
    cases hceiling
    simp [(require_eq_ok.mp hstatus).1]
  · obtain ⟨_, -, hrest⟩ := bind_eq_ok.mp h
    obtain ⟨_, haccepted, hceiling⟩ := bind_eq_ok.mp hrest
    cases hceiling
    exact ceiling_of_kindRule (require_eq_ok.mp haccepted)

lemma actions_of_checkActions (h : checkActions plan result pending = .ok u) :
    ∀ item ∈ result.actionResults, item.status ≠ .failed ∧ item.status ≠ .skipped ∧
      item.status ≠ .dependencyBlocked := by
  obtain ⟨_, -, hrest⟩ := bind_eq_ok.mp h
  obtain ⟨_, -, hinvalid⟩ := bind_eq_ok.mp hrest
  intro item hitem
  have haccepts := List.filter_eq_nil_iff.mp (require_eq_ok.mp hinvalid) item hitem
  simp only [Bool.not_eq_true', Bool.not_eq_false, acceptsAction, Bool.or_eq_true,
    Bool.and_eq_true, decide_eq_true_eq, List.mem_cons, List.not_mem_nil, or_false] at haccepts
  rcases haccepts with (hstatus | hstatus | hstatus) | ⟨-, hstatus⟩ <;> simp [hstatus]

/-- A plan with expectations whose result passed the checks has an aggregate: verified when there
is no ceiling, and partial when there is one. -/
lemma overallStatus_of_stageChecks {allow ceilingPresent : Bool}
    (hplan : plan.verificationExpectations ≠ [])
    (h : stageChecks casefold plan result allow = .ok ceilingPresent) :
    (ConfigurationApplicator.overallStatus result.actionResults result.verificationResults).1 =
      expectedStatus ceilingPresent := by
  obtain ⟨_, -, h⟩ := bind_eq_ok.mp h
  obtain ⟨_, -, h⟩ := bind_eq_ok.mp h
  obtain ⟨pending, -, h⟩ := bind_eq_ok.mp h
  obtain ⟨_, hactions, h⟩ := bind_eq_ok.mp h
  obtain ⟨_, hsize, h⟩ := bind_eq_ok.mp h
  obtain ⟨_, hinventory, h⟩ := bind_eq_ok.mp h
  obtain ⟨ceilings, hceilings, h⟩ := bind_eq_ok.mp h
  cases h
  have hallowed := actions_of_checkActions hactions
  -- a ceiling and its item stand side by side
  have hceiling : ceilings.any id = true ↔
      ∃ item ∈ result.verificationResults, item.status ≠ .verified := by
    have hjudged : ∀ item ceiling, (match (Dict.ofList (plan.verificationExpectations.map fun item =>
          (item.id, item))).get? item.expectationId with
        | some expectation => judgeItem casefold pending expectation item
        | none => .error item.expectationId) = .ok ceiling →
        (ceiling = true ↔ item.status ≠ .verified) := by
      intro item ceiling hitem
      split at hitem
      · exact ceiling_of_judgeItem hitem
      · cases hitem
    rw [List.any_eq_true]
    constructor
    · rintro ⟨ceiling, hmem, htrue⟩
      obtain ⟨item, hitem, hok⟩ := exists_of_mem_mapM_eq_ok hceilings hmem
      exact ⟨item, hitem, (hjudged item ceiling hok).mp htrue⟩
    · rintro ⟨item, hitem, hstatus⟩
      obtain ⟨ceiling, hmem, hok⟩ := exists_result_of_mapM_eq_ok hceilings hitem
      exact ⟨ceiling, hmem, (hjudged item ceiling hok).mpr hstatus⟩
  have hsome : result.verificationResults ≠ [] := by
    intro hnil
    have hperm := List.isPerm_iff.mp (require_eq_ok.mp hinventory)
    rw [hnil, List.map_nil, List.perm_nil, Dict.keys, List.map_eq_nil_iff] at hperm
    have hlength := require_eq_ok.mp hsize
    rw [Dict.size, hperm, List.length_nil] at hlength
    exact hplan (List.length_eq_zero_iff.mp hlength.symm)
  cases hany : ceilings.any id with
  | false =>
    refine ConfigurationApplicator.overallStatus_eq_verified_iff.mpr ⟨hallowed, hsome, ?_⟩
    intro item hitem
    by_contra hstatus
    rw [hceiling.mpr ⟨item, hitem, hstatus⟩] at hany
    cases hany
  | true =>
    obtain ⟨item, hitem, hstatus⟩ := hceiling.mp hany
    have hfailed : ¬result.actionResults.any (·.status = .failed) := by
      intro hmem
      obtain ⟨action, haction, hactionStatus⟩ := List.any_eq_true.mp hmem
      exact (hallowed action haction).1 (of_decide_eq_true hactionStatus)
    have hunverified : result.verificationResults.any (·.status ≠ .verified) :=
      List.any_eq_true.mpr ⟨item, hitem, decide_eq_true hstatus⟩
    unfold ConfigurationApplicator.overallStatus
    rw [if_neg hfailed, if_pos hunverified]
    split_ifs <;> rfl

end Checks

/-! ## The aggregate -/

/-- Whatever passes the other checks of the policy passes that of the aggregate. -/
def Agrees (casefold : String → String) (plan : ConfigurationPlan)
    (result : ConfigurationApplicationResult) : Prop :=
  ∀ allow ceilingPresent, stageChecks casefold plan result allow = .ok ceilingPresent →
    result.status = expectedStatus ceilingPresent ∧
      canonicalStageConfigurationError casefold plan result allow = ""

lemma agrees_of_status {casefold : String → String} {plan : ConfigurationPlan}
    {result : ConfigurationApplicationResult} (hplan : plan.verificationExpectations ≠ [])
    (hstatus : result.status = (ConfigurationApplicator.overallStatus result.actionResults
      result.verificationResults).1) : Agrees casefold plan result := by
  intro allow ceilingPresent h
  have hexpected : result.status = expectedStatus ceilingPresent :=
    hstatus.trans (overallStatus_of_stageChecks hplan h)
  refine ⟨hexpected, ?_⟩
  rw [canonicalStageConfigurationError, h]
  exact if_pos hexpected

/-- **The applicator and the acceptance policy agree.**  For a plan with expectations, every result
without preflight errors that `apply` or `complete_deferred_voice_signals` returns and that passes
the other checks of the policy has the aggregate that the policy expects. -/
theorem applicator_agrees_with_policy (casefold : String → String)
    (applicator : ConfigurationApplicator) (plan : ConfigurationPlan)
    (hplan : plan.verificationExpectations ≠ []) :
    (∀ request result, ((applicator.apply plan request).run []).1 = .ok result →
      result.preflightErrors = [] → Agrees casefold plan result) ∧
    ∀ application completion trace result,
      ((applicator.completeDeferredVoiceSignals plan application completion).run trace).1 =
        .ok result →
      result.preflightErrors = [] → Agrees casefold plan result := by
  constructor
  · intro request result hresult hpreflight
    cases ConfigurationApplicator.applySpec_of_run hresult with
    | refused spec => exact absurd hpreflight spec.preflightErrors
    | applied run spec =>
      refine agrees_of_status hplan ?_
      rw [spec.report.status, spec.report.actionResults, spec.report.verificationResults]
  · intro application completion trace result hresult hpreflight
    cases ConfigurationApplicator.ensures_completeDeferredVoiceSignals.of_run_eq_ok
      (Prod.ext hresult rfl) with
    | refused message =>
      simp [ConfigurationApplicator.voiceSignalCompletionFailure] at hpreflight
    | completed signals signalled hroute report hreport =>
      exact agrees_of_status hplan hreport.status

/-- An applicator whose runtime verifies everything afresh. -/
def readBackApplicator : ConfigurationApplicator :=
  let scripted := ConfigurationApplicator.scriptedApplicator fun _ => .changed
  { scripted with
    runtime := { scripted.runtime with
      verify := fun _ expectations => .ok (expectations.map fun item =>
        { expectationId := item.id, status := .verified, freshEvidence := true }) } }

/-- A verified plan that the policy accepts. -/
theorem applicator_agrees_with_policy_voicePort :
    ∃ result, ((readBackApplicator.apply ConfigurationApplicator.voicePortPlan
        ConfigurationApplicator.plainRequest).run []).1 = .ok result ∧
      canonicalStageConfigurationError id ConfigurationApplicator.voicePortPlan result false =
        "" := by
  obtain ⟨result, hresult⟩ : ∃ result, ((readBackApplicator.apply
      ConfigurationApplicator.voicePortPlan ConfigurationApplicator.plainRequest).run []).1 =
        .ok result := exists_of_isOk (by decide)
  have hchecks : ((readBackApplicator.apply ConfigurationApplicator.voicePortPlan
      ConfigurationApplicator.plainRequest).run []).1.map (fun result => (result.preflightErrors,
        stageChecks id ConfigurationApplicator.voicePortPlan result false)) =
      .ok ([], .ok false) := by
    decide
  simp only [hresult, Except.map, Except.ok.injEq, Prod.mk.injEq] at hchecks
  have hagrees := (applicator_agrees_with_policy id readBackApplicator
    ConfigurationApplicator.voicePortPlan (by decide)).1 _ result hresult hchecks.1
  exact ⟨result, hresult, (hagrees false false hchecks.2).2⟩

end StageConfiguration

end PacketTracer
