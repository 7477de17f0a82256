import PacketTracer.Application.DispatchOrder

/-!
# What the journal covers

Every dispatch of an action ends with a result.  The journal of a report covers a history when all
of these results are among the results that the journal records, each as often as it was obtained.

An access port with a Voice VLAN is dispatched twice, first without it, but the plan has only one
result for it: the second stage replaces the result of the first.  The journal covers the history
exactly when no such preparation was applied, and no retained deferred action was dispatched, whose
result is outside the mutation scope.
-/

namespace PacketTracer

open Dicts Interactions

/-! ## Results of dispatches -/

/-- The results that an exchange gave to the actions it dispatched. -/
def RuntimeEvent.outcomes (event : RuntimeEvent) : List ActionApplicationResult :=
  event.dispatched.filterMap fun action => event.result? action.id

/-- The results of all dispatches of a history. -/
def dispatchOutcomes (trace : List RuntimeEvent) : List ActionApplicationResult :=
  trace.flatMap RuntimeEvent.outcomes

/-- The runtime answered that it applied an action. -/
def RuntimeEvent.reportedApplied : RuntimeEvent → String → Bool
  | .applyActions actions answer, identifier =>
    ((reportedMutations actions answer).get? identifier).any RuntimeActionMutation.applied
  | _, _ => false

variable {trace : List RuntimeEvent} {result : ActionApplicationResult} {event : RuntimeEvent}

lemma mem_dispatchOutcomes :
    result ∈ dispatchOutcomes trace ↔ ∃ event ∈ trace, ∃ action ∈ event.dispatched,
      event.result? action.id = some result := by
  simp [dispatchOutcomes, RuntimeEvent.outcomes]

lemma dispatchOutcomes_append (trace more : List RuntimeEvent) :
    dispatchOutcomes (trace ++ more) = dispatchOutcomes trace ++ dispatchOutcomes more := by
  simp [dispatchOutcomes]

lemma dispatchOutcomes_of_quietlyExtends {trace' : List RuntimeEvent}
    (h : QuietlyExtends trace trace') : dispatchOutcomes trace' = dispatchOutcomes trace := by
  obtain ⟨more, rfl, hmore⟩ := h
  have hnone : dispatchOutcomes more = [] := by
    refine List.flatMap_eq_nil_iff.mpr fun event hevent => ?_
    rw [RuntimeEvent.outcomes, hmore event hevent, List.filterMap_nil]
  rw [dispatchOutcomes_append, hnone, List.append_nil]

lemma RuntimeEvent.exists_result? {action : ConfigurationAction} (h : action ∈ event.dispatched) :
    ∃ result, event.result? action.id = some result ∧ result.actionId = action.id := by
  cases event with
  | applyActions actions answer =>
    have hid : action.id ∈ actions.map ConfigurationAction.id := List.mem_map_of_mem h
    have hsome : ((dispatchResults actions answer).get? action.id).isSome :=
      isSome_get?_dispatchResults.mpr hid
    obtain ⟨result, hresult⟩ := Option.isSome_iff_exists.mp hsome
    exact ⟨result, hresult, (spec_get?_dispatchResults hresult).1⟩
  | inventory answer => exact absurd h List.not_mem_nil
  | verify expectations answer | waitForVoiceAccessForwarding expectations answer =>
    exact absurd h List.not_mem_nil

lemma map_actionId_dispatchOutcomes (trace : List RuntimeEvent) :
    (dispatchOutcomes trace).map ActionApplicationResult.actionId = dispatchedIds trace := by
  have hevent : ∀ event : RuntimeEvent,
      event.outcomes.map ActionApplicationResult.actionId =
        event.dispatched.map ConfigurationAction.id := by
    intro event
    rw [RuntimeEvent.outcomes, List.map_filterMap, ← List.filterMap_eq_map]
    refine List.filterMap_congr fun action haction => ?_
    obtain ⟨result, hresult, hid⟩ := RuntimeEvent.exists_result? haction
    simp [hresult, hid]
  rw [dispatchOutcomes, dispatchedIds, List.map_flatMap]
  simp only [hevent]

lemma RuntimeEvent.satisfies_iff_reportedApplied {identifier : String}
    (h : event.result? identifier = some result) :
    satisfiesApplyDependency result.status = event.reportedApplied identifier := by
  cases event with
  | applyActions actions answer =>
    obtain ⟨action, -, -, rfl⟩ := exists_of_get?_dispatchResults h
    simp only [RuntimeEvent.reportedApplied]
    cases hreported : (reportedMutations actions answer).get? identifier with
    | none => rfl
    | some mutation => simp [dispatchResult]
  | inventory answer => cases h
  | verify expectations answer | waitForVoiceAccessForwarding expectations answer => cases h

namespace ConfigurationApplicator

/-! ## Coverage -/

/-- The journal of a report covers a history: it is made of results of the report, the reported
state is the residue of its entries, and every dispatch has its own result among them. -/
def JournalCovers (plan : ConfigurationPlan) (report : ConfigurationApplicationResult)
    (trace : List RuntimeEvent) : Prop :=
  ∃ journal journalled, report.executionJournal = some journal ∧
    report.dirtyState = deriveDirtyState journal.entries ∧
    journal.entries = journalEntries
      (Dict.ofList (plan.actions.map fun item => (item.id, item))) 1 journalled ∧
    journalled.Sublist report.actionResults ∧ (dispatchOutcomes trace).Subperm journalled

/-- A dispatched action is the preparation of an access port: the action of the plan activates a
Voice VLAN, the dispatched one does not. -/
def IsPreparation (plan : ConfigurationPlan) (action : ConfigurationAction) : Prop :=
  action.activatesVoiceVlan = false ∧
    ∃ planned ∈ plan.actions, planned.id = action.id ∧ planned.activatesVoiceVlan

/-- A history in which no preparation was applied and no retained deferred action was
dispatched. -/
def MutationsKept (plan : ConfigurationPlan) (request : ApplyRequest)
    (trace : List RuntimeEvent) : Prop :=
  ∀ event ∈ trace, ∀ action ∈ event.dispatched,
    ¬(IsPreparation plan action ∧ event.reportedApplied action.id) ∧
      action.id ∉ request.retainedDeferredVoiceActionIds

variable {applicator : ConfigurationApplicator} {plan : ConfigurationPlan}
  {request : ApplyRequest} {prepared : PreparedApplication} {completion : CompletionRequest}
  {results signals : Dict String ActionApplicationResult} {deferred : List ConfigurationAction}
  {deployedNames : Dict String String} {deferSignal : Bool}
  {foundationStatus : ActionExecutionStatus} {looped trace trace' : List RuntimeEvent}
  {report : ConfigurationApplicationResult} {mutationIds : List String}

lemma mutationsKept_of_quietlyExtends (h : QuietlyExtends trace trace') :
    MutationsKept plan request trace' ↔ MutationsKept plan request trace := by
  obtain ⟨more, rfl, hmore⟩ := h
  refine ⟨fun hkept event hevent => hkept event (List.mem_append_left _ hevent),
    fun hkept event hevent action haction => ?_⟩
  rcases List.mem_append.mp hevent with hevent | hevent
  · exact hkept event hevent action haction
  · simp [hmore event hevent] at haction

lemma dispatchedIds_of_quietlyExtends (h : QuietlyExtends trace trace') :
    dispatchedIds trace' = dispatchedIds trace := by
  obtain ⟨more, rfl, hmore⟩ := h
  rw [dispatchedIds_append, dispatchedIds_of_quiet hmore, List.append_nil]

lemma journalCovers_of_quietlyExtends (h : QuietlyExtends trace trace') :
    JournalCovers plan report trace' ↔ JournalCovers plan report trace := by
  simp only [JournalCovers, dispatchOutcomes_of_quietlyExtends h]

variable {result : ActionApplicationResult} {planned : ConfigurationAction}
  {deferredIds : List String} {run : AppliedRun}

lemma JournalCovers.mem (h : JournalCovers plan report trace)
    (hresult : result ∈ dispatchOutcomes trace) : result ∈ report.actionResults := by
  obtain ⟨_, _, _, _, _, hsublist, hsubperm⟩ := h
  exact hsublist.subset (hsubperm.subset hresult)

lemma JournalCovers.nodup_dispatchedIds (h : JournalCovers plan report trace)
    (hids : (report.actionResults.map ActionApplicationResult.actionId).Nodup) :
    (dispatchedIds trace).Nodup := by
  obtain ⟨_, journalled, _, _, _, hsublist, hsubperm⟩ := h
  obtain ⟨sub, hperm, hsub⟩ := hsubperm
  rw [← map_actionId_dispatchOutcomes]
  exact (hperm.map _).nodup_iff.mp (hids.sublist ((hsub.trans hsublist).map _))

/-- A report carries the journal of the results in a mutation scope. -/
def CarriesJournal (plan : ConfigurationPlan) (mutationIds : List String)
    (report : ConfigurationApplicationResult) : Prop :=
  ∃ deploymentId journal, report.executionJournal = some journal ∧
    mutationJournal plan deploymentId mutationIds report.actionResults = .ok journal ∧
    report.dirtyState = journal.dirtyState

/-- Nothing is dispatched twice, and all results of dispatches are reported and in a mutation
scope. -/
structure OutcomesReported (mutationIds : List String) (report : ConfigurationApplicationResult)
    (trace : List RuntimeEvent) : Prop where
  once : (dispatchedIds trace).Nodup
  reported : ∀ result ∈ dispatchOutcomes trace,
    result ∈ report.actionResults ∧ result.actionId ∈ mutationIds

lemma CarriesJournal.covers (h : CarriesJournal plan mutationIds report)
    (houtcomes : OutcomesReported mutationIds report trace) : JournalCovers plan report trace := by
  obtain ⟨hids, hresults⟩ := houtcomes
  obtain ⟨deploymentId, journal, hreport, hjournal, hdirty⟩ := h
  obtain ⟨journal', hjournal', hunjudged, hentries⟩ :=
    exists_mutationJournal plan deploymentId mutationIds report.actionResults
  obtain rfl : journal' = journal := Except.ok.inj (hjournal'.symm.trans hjournal)
  refine ⟨journal', _, hreport, hdirty.trans hunjudged.dirtyState, hentries,
    List.filter_sublist, ?_⟩
  rw [← map_actionId_dispatchOutcomes] at hids
  refine List.subperm_of_subset hids.of_map fun result hresult => ?_
  exact List.mem_filter.mpr ⟨(hresults result hresult).1, by simp [(hresults result hresult).2]⟩

/-- A covered dispatch is in the mutation scope of the journal. -/
lemma CarriesJournal.mem_of_covers (h : CarriesJournal plan mutationIds report)
    (hcovers : JournalCovers plan report trace) (hresult : result ∈ dispatchOutcomes trace) :
    result.actionId ∈ mutationIds := by
  obtain ⟨deploymentId, journal, hreport, hjournal, -⟩ := h
  obtain ⟨journal', hjournal', -, hentries⟩ :=
    exists_mutationJournal plan deploymentId mutationIds report.actionResults
  obtain rfl : journal' = journal := Except.ok.inj (hjournal'.symm.trans hjournal)
  obtain ⟨other, journalled, hother, -, hjournalled, -, hsubperm⟩ := hcovers
  obtain rfl : other = journal' := Option.some.inj (hother.symm.trans hreport)
  obtain ⟨n, hn⟩ := exists_mem_journalEntries
    (Dict.ofList (plan.actions.map fun item => (item.id, item))) 1 (hsubperm.subset hresult)
  rw [← hjournalled, hentries] at hn
  obtain ⟨recorded, hrecorded, m, hm⟩ := exists_of_mem_journalEntries hn
  have hid : result.actionId = recorded.actionId := congrArg ExecutionJournalEntry.actionId hm
  rw [hid]
  simpa using (List.mem_filter.mp hrecorded).2

/-! ## The main loop -/

/-- A dispatched mutation of the main loop is a preparation exactly when the action of the plan
activates a Voice VLAN. -/
lemma isPreparation_runtimeAction_iff (hplan : AcceptedPlan plan request prepared)
    (hplanned : planned ∈ plan.actions) (hmutation : planned.id ∈ prepared.scope.mutationIds) :
    IsPreparation plan (runtimeAction deployedNames
        ((deferredVoiceActions plan request prepared.scope).map ConfigurationAction.id) planned) ↔
      planned.activatesVoiceVlan := by
  constructor
  · rintro ⟨-, other, hother, hid, hvoice⟩
    obtain rfl : other = planned := List.inj_on_of_nodup_map hplan.nodup hother hplanned hid
    exact hvoice
  · intro hvoice
    have hdeferred : planned ∈ deferredVoiceActions plan request prepared.scope :=
      List.mem_filter.mpr ⟨hplanned, by simp [hmutation, hvoice]⟩
    have hid : planned.id ∈ (deferredVoiceActions plan request prepared.scope).map
        ConfigurationAction.id := List.mem_map_of_mem hdeferred
    refine ⟨?_, planned, hplanned, rfl, hvoice⟩
    rw [activatesVoiceVlan_runtimeAction, decide_eq_false (not_not.mpr hid), Bool.false_and]

/-- The result of a dispatch of the main loop is the recorded one of a planned mutation. -/
lemma LoopInvariant.of_mem_dispatchOutcomes
    (h : LoopInvariant plan prepared deferredIds results looped)
    (hresult : result ∈ dispatchOutcomes looped) :
    results.get? result.actionId = some result ∧
      ∃ event ∈ looped, event.result? result.actionId = some result ∧
      ∃ planned ∈ plan.actions, planned.id = result.actionId ∧
        planned.id ∈ prepared.scope.mutationIds ∧
        runtimeAction prepared.deployedNames deferredIds planned ∈ event.dispatched := by
  obtain ⟨event, hevent, action, haction, hget⟩ := mem_dispatchOutcomes.mp hresult
  obtain ⟨recorded, hrecorded, hstored⟩ := h.recorded event hevent action haction
  obtain rfl : recorded = result := Option.some.inj (hrecorded.symm.trans hget)
  have hid : recorded.actionId = action.id := h.keyed _ _ hstored
  obtain ⟨planned, hplanned, hmutation, rfl⟩ := h.planned event hevent action haction
  rw [hid]
  exact ⟨hstored, event, hevent, hget, planned, hplanned, rfl, hmutation, haction⟩

/-- A settled mutation was dispatched and applied. -/
lemma LoopInvariant.dispatched_of_settled (hplan : AcceptedPlan plan request prepared)
    (h : LoopInvariant plan prepared deferredIds results looped)
    (hplanned : planned ∈ plan.actions) (hmutation : planned.id ∈ prepared.scope.mutationIds)
    (hsettled : Settled results planned.id) :
    ∃ event ∈ looped, event.reportedApplied planned.id ∧
      runtimeAction prepared.deployedNames deferredIds planned ∈ event.dispatched := by
  obtain ⟨result, hget, hstatus⟩ := hsettled
  have hlatest := h.latest planned.id result hget hstatus
  have hnone : prepared.scope.retained.get? planned.id = none := by
    by_contra hsome
    obtain ⟨kept, hkept⟩ := Option.ne_none_iff_exists'.mp hsome
    exact (hplan.retained planned.id kept hkept).2.1 hmutation
  rw [latestResult, hnone, Option.or_none] at hlatest
  obtain ⟨event, hevent, hresult⟩ := List.exists_of_findSome?_eq_some hlatest
  have hmem : event ∈ looped := List.mem_reverse.mp hevent
  refine ⟨event, hmem, by rw [← RuntimeEvent.satisfies_iff_reportedApplied hresult, hstatus], ?_⟩
  have hdispatched : ∃ action ∈ event.dispatched, action.id = planned.id := by
    cases event with
    | applyActions actions answer =>
      have hid : planned.id ∈ actions.map ConfigurationAction.id :=
        isSome_get?_dispatchResults.mp (Option.isSome_of_eq_some hresult)
      exact List.mem_map.mp hid
    | inventory answer => cases hresult
    | verify expectations answer | waitForVoiceAccessForwarding expectations answer => cases hresult
  obtain ⟨action, haction, hid⟩ := hdispatched
  obtain ⟨other, hother, -, rfl⟩ := h.planned event hmem action haction
  obtain rfl : other = planned := List.inj_on_of_nodup_map hplan.nodup hother hplanned hid
  exact haction

/-! ## The second stage -/

lemma dispatchedIds_applyActions {answer : Except String (List RuntimeActionMutation)} :
    dispatchedIds [RuntimeEvent.applyActions (deferred.map (runtimeAction deployedNames [])) answer] =
      deferred.map ConfigurationAction.id := by
  simp [dispatchedIds, RuntimeEvent.dispatched, Function.comp_def]

/-- A preparation that was not applied keeps its result when the second stage did not require
it. -/
lemma SignalStage.get?_update_of_failed
    (h : SignalStage deployedNames results deferred deferSignal foundationStatus trace signals
      trace')
    (hverified : foundationStatus = .verified → ∀ action ∈ deferred, Settled results action.id)
    {identifier : String}
    (hget : results.get? identifier = some result)
    (hstatus : satisfiesApplyDependency result.status = false) :
    (results.update signals).get? identifier = some result := by
  rw [Dict.get?_update]
  rcases hsignal : signals.get? identifier with _ | signal
  · rw [Option.none_or, hget]
  rw [Option.some_or]
  have hnot : foundationStatus ≠ .verified := by
    intro hfoundation
    have hmem := (h.domain identifier).mp (by rw [hsignal]; rfl)
    obtain ⟨action, haction, rfl⟩ := List.mem_map.mp hmem
    obtain ⟨settled, hsettled, hok⟩ := hverified hfoundation action haction
    obtain rfl : settled = result := Option.some.inj (hsettled.symm.trans hget)
    simp [hok] at hstatus
  cases h with
  | pending _ hfoundation | dispatched _ hfoundation _ => exact absurd hfoundation hnot
  | held _ preparations hpreparations =>
    obtain ⟨action, -, preparation, -, hpreparation, rfl⟩ := get?_held hpreparations hsignal
    obtain rfl : preparation = result := Option.some.inj (hpreparation.symm.trans hget)
    rw [heldSignalResult, hstatus, if_neg Bool.false_ne_true]

/-- Where the second stage dispatches nothing, no deferred action is reported as applied. -/
lemma SignalStage.not_satisfied
    (h : SignalStage deployedNames results deferred deferSignal foundationStatus trace signals
      trace')
    (hquiet : dispatchedIds trace' = dispatchedIds trace) {identifier : String}
    (hmem : identifier ∈ deferred.map ConfigurationAction.id)
    (hget : (results.update signals).get? identifier = some result) :
    satisfiesApplyDependency result.status = false := by
  obtain ⟨signal, hsignal⟩ := Option.isSome_iff_exists.mp ((h.domain identifier).mpr hmem)
  rw [Dict.get?_update, hsignal, Option.some_or] at hget
  obtain rfl : signal = result := Option.some.inj hget
  cases h with
  | pending =>
    obtain ⟨action, -, hentry⟩ := List.mem_map.mp (Dict.mem_of_get?_ofList hsignal)
    simp only [Prod.mk.injEq] at hentry
    rw [← hentry.2]
    rfl
  | dispatched _ _ answer =>
    rw [dispatchedIds_append, dispatchedIds_applyActions] at hquiet
    have hnil : deferred.map ConfigurationAction.id = [] := by simpa using hquiet
    simp [hnil] at hmem
  | held _ preparations hpreparations =>
    obtain ⟨action, -, preparation, -, -, rfl⟩ := get?_held hpreparations hsignal
    unfold heldSignalResult
    split
    · rfl
    · rename_i hstatus
      simpa using hstatus

/-! ## `apply` -/

/-- A Voice mutation that is settled was prepared and applied: it is not kept. -/
lemma LoopInvariant.not_mutationsKept (hplan : AcceptedPlan plan request prepared)
    (h : LoopInvariant plan prepared
      ((deferredVoiceActions plan request prepared.scope).map ConfigurationAction.id)
      results looped) (hplanned : planned ∈ plan.actions)
    (hmutation : planned.id ∈ prepared.scope.mutationIds) (hvoice : planned.activatesVoiceVlan)
    (hsettled : Settled results planned.id) (more : List RuntimeEvent) :
    ¬MutationsKept plan request (looped ++ more) := by
  intro hkept
  obtain ⟨event, hevent, happlied, haction⟩ :=
    h.dispatched_of_settled hplan hplanned hmutation hsettled
  exact (hkept event (List.mem_append_left more hevent) _ haction).1
    ⟨(isPreparation_runtimeAction_iff hplan hplanned hmutation).mpr hvoice, happlied⟩

lemma LoopInvariant.not_nodup_dispatchedIds (hplan : AcceptedPlan plan request prepared)
    (h : LoopInvariant plan prepared deferredIds results looped)
    (hplanned : planned ∈ plan.actions) (hmutation : planned.id ∈ prepared.scope.mutationIds)
    (hsettled : Settled results planned.id) {more : List RuntimeEvent}
    (hagain : planned.id ∈ dispatchedIds more) : ¬(dispatchedIds (looped ++ more)).Nodup := by
  intro hnodup
  obtain ⟨event, hevent, -, haction⟩ := h.dispatched_of_settled hplan hplanned hmutation hsettled
  have hfirst : planned.id ∈ dispatchedIds looped :=
    mem_dispatchedIds.mpr ⟨event, hevent, _, haction, rfl⟩
  rw [dispatchedIds_append] at hnodup
  exact (List.nodup_append.mp hnodup).2.2 planned.id hfirst planned.id hagain rfl

lemma mem_deferredVoiceActions {scope : MutationScope} {action : ConfigurationAction} :
    action ∈ deferredVoiceActions plan request scope ↔ action ∈ plan.actions ∧
      (action.id ∈ scope.mutationIds ∨ action.id ∈ request.retainedDeferredVoiceActionIds) ∧
      action.activatesVoiceVlan := by
  simp [deferredVoiceActions]

section Applied

variable (h : AppliedSpec plan request run report trace)
include h

lemma AppliedSpec.carriesJournal :
    CarriesJournal plan run.prepared.scope.mutationIds report := by
  rw [CarriesJournal, h.report.actionResults]
  exact h.report.journal

/-- Without deferred actions nothing is prepared, and all results are reported. -/
lemma AppliedSpec.outcomesReported_of_unbarred
    (hdeferred : deferredVoiceActions plan request run.prepared.scope = [])
    (hspec : UnbarredSpec plan run.results run.looped run.outcome trace) :
    MutationsKept plan request trace ∧
      OutcomesReported run.prepared.scope.mutationIds report trace := by
  refine ⟨?_, ?_, fun result hresult => ?_⟩
  · rw [mutationsKept_of_quietlyExtends hspec.quiet]
    intro event hevent action haction
    obtain ⟨-, hretained⟩ := h.loop.toLoopTrace.noSignal h.accepted event hevent action haction
    refine ⟨fun ⟨hprepared, _⟩ => ?_, hretained⟩
    obtain ⟨planned, hplanned, hmutation, rfl⟩ := h.loop.planned event hevent action haction
    have hvoice := (isPreparation_runtimeAction_iff h.accepted hplanned hmutation).mp hprepared
    have hmem : planned ∈ deferredVoiceActions plan request run.prepared.scope :=
      mem_deferredVoiceActions.mpr ⟨hplanned, Or.inl hmutation, hvoice⟩
    simp [hdeferred] at hmem
  · rw [dispatchedIds_of_quietlyExtends hspec.quiet]
    exact h.loop.once
  · rw [dispatchOutcomes_of_quietlyExtends hspec.quiet] at hresult
    obtain ⟨hstored, -, -, -, planned, hplanned, hid, hmutation, -⟩ :=
      h.loop.of_mem_dispatchOutcomes hresult
    rw [h.report.actionResults, mem_iff_of_map_get?_eq hspec.actions h.loop.keyed, ← hid]
    exact ⟨⟨List.mem_map_of_mem hplanned, hid ▸ hstored⟩, hmutation⟩

/-- Results of kept dispatches are reported when the second stage dispatches nothing. -/
lemma AppliedSpec.outcomesReported_of_kept {barrier : BarrierRun}
    (hspec : BarrierSpec plan run.results (deferredVoiceActions plan request run.prepared.scope)
      run.prepared.deployedNames deferSignal run.looped barrier run.outcome trace)
    (hquiet : QuietlyExtends run.looped trace) (hkept : MutationsKept plan request trace) :
    OutcomesReported run.prepared.scope.mutationIds report trace := by
  refine ⟨?_, fun result hresult => ?_⟩
  · rw [dispatchedIds_of_quietlyExtends hquiet]
    exact h.loop.once
  · rw [dispatchOutcomes_of_quietlyExtends hquiet] at hresult
    obtain ⟨hstored, event, hevent, hget, planned, hplanned, hid, hmutation, haction⟩ :=
      h.loop.of_mem_dispatchOutcomes hresult
    rw [h.report.actionResults, mem_iff_of_map_get?_eq hspec.actions (hspec.keyed h.loop.keyed)]
    refine ⟨⟨hid ▸ List.mem_map_of_mem hplanned, ?_⟩, hid ▸ hmutation⟩
    rcases hstatus : satisfiesApplyDependency result.status with _ | _
    · refine hspec.signal.get?_update_of_failed (fun hfoundation => ?_) hstored hstatus
      exact (hspec.foundation.verified_iff.mp hfoundation).1.2
    -- an applied mutation that is kept is no preparation, so that no signal replaces its result
    rw [mutationsKept_of_quietlyExtends hquiet] at hkept
    have happlied : event.reportedApplied planned.id := by
      rw [hid, ← RuntimeEvent.satisfies_iff_reportedApplied hget, hstatus]
    have hvoice : ¬planned.activatesVoiceVlan := fun hvoice =>
      (hkept event hevent _ haction).1
        ⟨(isPreparation_runtimeAction_iff h.accepted hplanned hmutation).mpr hvoice, happlied⟩
    have hnone : barrier.signals.get? result.actionId = none := by
      rw [← Option.not_isSome_iff_eq_none, hspec.signal.domain]
      intro hmem
      obtain ⟨other, hother, hotherId⟩ := List.mem_map.mp hmem
      obtain ⟨hotherPlan, -, hotherVoice⟩ := mem_deferredVoiceActions.mp hother
      obtain rfl : other = planned :=
        List.inj_on_of_nodup_map h.accepted.nodup hotherPlan hplanned (hotherId.trans hid.symm)
      exact hvoice hotherVoice
    rw [Dict.get?_update, hnone, Option.none_or, hstored]

/-- A covered history keeps its mutations when the second stage dispatches nothing. -/
lemma AppliedSpec.kept_of_covers {barrier : BarrierRun}
    (hspec : BarrierSpec plan run.results (deferredVoiceActions plan request run.prepared.scope)
      run.prepared.deployedNames deferSignal run.looped barrier run.outcome trace)
    (hquiet : QuietlyExtends run.looped trace) (hheld : barrier.signalled = barrier.judged)
    (hcovers : JournalCovers plan report trace) : MutationsKept plan request trace := by
  intro event hevent action haction
  refine ⟨fun ⟨hprepared, happlied⟩ => ?_, h.safeApply.retained event hevent action haction⟩
  have hlooped : event ∈ run.looped := by
    obtain ⟨more, rfl, hmore⟩ := hquiet
    refine (List.mem_append.mp hevent).resolve_right fun hlate => ?_
    simp [hmore event hlate] at haction
  obtain ⟨result, hget, hstored⟩ := h.loop.recorded event hlooped action haction
  have hid : result.actionId = action.id := h.loop.keyed _ _ hstored
  have hstatus : satisfiesApplyDependency result.status := by
    rw [RuntimeEvent.satisfies_iff_reportedApplied hget, happlied]
  have hreported : result ∈ report.actionResults :=
    hcovers.mem (mem_dispatchOutcomes.mpr ⟨event, hevent, action, haction, hget⟩)
  rw [h.report.actionResults, mem_iff_of_map_get?_eq hspec.actions (hspec.keyed h.loop.keyed),
    hid] at hreported
  obtain ⟨planned, hplanned, hmutation, rfl⟩ := h.loop.planned event hlooped action haction
  have hvoice := (isPreparation_runtimeAction_iff h.accepted hplanned hmutation).mp hprepared
  have hdeferred : planned ∈ deferredVoiceActions plan request run.prepared.scope :=
    mem_deferredVoiceActions.mpr ⟨hplanned, Or.inl hmutation, hvoice⟩
  have hreplaced := hspec.signal.not_satisfied (by rw [hheld]) (List.mem_map_of_mem hdeferred)
    hreported.2
  simp [hreplaced] at hstatus

/-- The report of an applied plan covers its history exactly when the mutations are kept. -/
lemma AppliedSpec.journalCovers_iff :
    JournalCovers plan report trace ↔ MutationsKept plan request trace := by
  have hnodup : (report.actionResults.map ActionApplicationResult.actionId).Nodup := by
    rw [h.actionIds]
    exact h.accepted.nodup
  rcases h.voice with ⟨hdeferred, hspec⟩ | ⟨hdeferred, barrier, hspec⟩
  · obtain ⟨hkept, houtcomes⟩ := h.outcomesReported_of_unbarred hdeferred hspec
    exact iff_of_true (h.carriesJournal.covers houtcomes) hkept
  rcases hspec.signal.dispatched_or_eq with
    ⟨hflag, hverified, answer, -, hsignalled⟩ | ⟨-, hheld⟩
  · -- the second stage repeats the dispatch of every prepared action
    obtain ⟨planned, hmem⟩ := List.exists_mem_of_ne_nil _ hdeferred
    obtain ⟨hplanned, hscope, hvoice⟩ := mem_deferredVoiceActions.mp hmem
    have hnone : request.retainedDeferredVoiceActionIds = [] := by
      by_contra hne
      simp [h.accepted.deferFlag hne] at hflag
    have hmutation : planned.id ∈ run.prepared.scope.mutationIds := by simpa [hnone] using hscope
    have hsettled := (hspec.foundation.verified_iff.mp hverified).1.2 planned hmem
    obtain ⟨before, hbefore, -⟩ := hspec.quietBefore
    obtain ⟨after, hafter, -⟩ := hspec.quietAfter
    obtain ⟨more, hmore, hagain⟩ : ∃ more, trace = run.looped ++ more ∧
        planned.id ∈ dispatchedIds more := by
      refine ⟨before ++ ([RuntimeEvent.applyActions ((deferredVoiceActions plan request
        run.prepared.scope).map (runtimeAction run.prepared.deployedNames [])) answer] ++ after),
        ?_, ?_⟩
      · simp only [hafter, hsignalled, hbefore, List.append_assoc]
      · rw [dispatchedIds_append, dispatchedIds_append, dispatchedIds_applyActions]
        exact List.mem_append_right _ (List.mem_append_left _ (List.mem_map_of_mem hmem))
    refine iff_of_false (fun hcovers => ?_) ?_
    · exact h.loop.not_nodup_dispatchedIds h.accepted hplanned hmutation hsettled hagain
        (hmore ▸ hcovers.nodup_dispatchedIds hnodup)
    · rw [hmore]
      exact h.loop.not_mutationsKept h.accepted hplanned hmutation hvoice hsettled more
  · have hquiet : QuietlyExtends run.looped trace :=
      hspec.quietBefore.trans (hheld ▸ hspec.quietAfter)
    exact ⟨h.kept_of_covers hspec hquiet hheld,
      fun hkept => h.carriesJournal.covers (h.outcomesReported_of_kept hspec hquiet hkept)⟩

end Applied

lemma RefusedSpec.covers (h : RefusedSpec report trace) :
    MutationsKept plan request trace ∧ JournalCovers plan report trace := by
  have hquiet : QuietlyExtends [] trace := ⟨trace, rfl, h.quiet⟩
  rw [mutationsKept_of_quietlyExtends hquiet, journalCovers_of_quietlyExtends hquiet]
  obtain ⟨journal, hreport, hunjudged, hentries, hdirty⟩ := h.journal
  refine ⟨fun event hevent => absurd hevent List.not_mem_nil, journal, [], hreport, ?_, ?_⟩
  · rw [hdirty, hunjudged.dirtyState]
  · exact ⟨hentries, List.nil_sublist _, List.nil_subperm⟩

lemma ApplySpec.journalCovers_iff (h : ApplySpec plan request report trace) :
    JournalCovers plan report trace ↔ MutationsKept plan request trace := by
  cases h with
  | refused spec =>
    obtain ⟨hkept, hcovers⟩ : MutationsKept plan request trace ∧ JournalCovers plan report trace :=
      spec.covers
    exact iff_of_true hcovers hkept
  | applied run spec => exact spec.journalCovers_iff

/-! ## The completion -/

variable {application : ConfigurationApplicationResult} {signalled : List RuntimeEvent}

lemma CompletionRoute.keyed (h : CompletionRoute plan application trace signals signalled)
    (identifier : String) (result : ActionApplicationResult)
    (hget : signals.get? identifier = some result) : result.actionId = identifier := by
  cases h with
  | retained _ _ hsignals => exact (hsignals identifier result hget).2
  | dispatched => exact (spec_get?_dispatchResults hget).1

/-- The results that a completion collects carry the identifier they are stored under. -/
lemma CompletionRoute.keyed_update (h : CompletionRoute plan application trace signals signalled)
    (identifier : String) (result : ActionApplicationResult)
    (hget : ((Dict.ofList (application.actionResults.map fun item =>
      (item.actionId, item))).update signals).get? identifier = some result) :
    result.actionId = identifier := by
  rw [Dict.get?_update] at hget
  cases hsignal : signals.get? identifier with
  | some signal =>
    rw [hsignal, Option.some_or] at hget
    exact h.keyed identifier result (hsignal.trans hget)
  | none =>
    rw [hsignal, Option.none_or] at hget
    obtain ⟨item, -, rfl, rfl⟩ := Dict.exists_of_get?_ofList hget
    rfl

lemma CompletedReport.carriesJournal (h : CompletedReport plan application signals report) :
    CarriesJournal plan application.mutationActionIds report := h.journal

/-- Verifying retained state again changes no results: what was covered stays covered. -/
lemma CompletedReport.outcomesReported (happlied : AppliedSpec plan request run application trace)
    (houtcomes : OutcomesReported run.prepared.scope.mutationIds application trace)
    (hroute : CompletionRoute plan application trace signals signalled)
    (hsignals : ∀ identifier result, signals.get? identifier = some result →
      result ∈ application.actionResults ∧ result.actionId = identifier)
    (h : CompletedReport plan application signals report)
    (hquiet : QuietlyExtends trace trace') :
    OutcomesReported application.mutationActionIds report trace' := by
  have hids := happlied.actionIds
  refine ⟨?_, fun result hresult => ?_⟩
  · rw [dispatchedIds_of_quietlyExtends hquiet]
    exact houtcomes.once
  · rw [dispatchOutcomes_of_quietlyExtends hquiet] at hresult
    obtain ⟨hreported, hmutation⟩ := houtcomes.reported result hresult
    have hplan : result.actionId ∈ plan.actions.map ConfigurationAction.id := by
      rw [← hids]
      exact List.mem_map_of_mem hreported
    have hnodup : (application.actionResults.map ActionApplicationResult.actionId).Nodup := by
      rw [hids]
      exact happlied.accepted.nodup
    refine ⟨(mem_iff_of_map_get?_eq h.actions hroute.keyed_update).mpr ⟨hplan, ?_⟩, ?_⟩
    · rw [Dict.get?_update]
      cases hsignal : signals.get? result.actionId with
      | some signal =>
        obtain ⟨hmem, hid⟩ := hsignals _ _ hsignal
        rw [Option.some_or, List.inj_on_of_nodup_map hnodup hmem hreported hid]
      | none =>
        rw [Option.none_or]
        refine Dict.get?_ofList_of_mem ?_ (List.mem_map.mpr ⟨result, hreported, rfl⟩)
        rw [List.map_map]
        exact hnodup
    · rw [happlied.report.mutationActionIds]
      exact List.mem_filter.mpr ⟨hplan, by simpa using hmutation⟩

/-- A completion that dispatches covers nothing and keeps nothing: the preparations of the
mutations are replaced, and the retained deferred actions are outside the scope of the journal. -/
lemma AppliedSpec.completed_dispatched (happlied : AppliedSpec plan request run application trace)
    {barrier : VoiceSignalBarrierResult} (hbarrier : application.voiceSignalBarrier = some barrier)
    (hprepared : isPreparedSignal plan application barrier)
    {deferredActions : List ConfigurationAction}
    (hactions : completionActions plan barrier.deferredActionIds = .ok deferredActions)
    {resolved : List RuntimeEvent} (hresolved : QuietlyExtends trace resolved)
    {answer : Except String (List RuntimeActionMutation)}
    (hids : (report.actionResults.map ActionApplicationResult.actionId).Nodup)
    (hjournal : CarriesJournal plan application.mutationActionIds report)
    (hquiet : QuietlyExtends (resolved ++
      [.applyActions (deferredActions.map (runtimeAction deployedNames [])) answer]) trace') :
    ¬JournalCovers plan report trace' ∧ ¬MutationsKept plan request trace' := by
  have hplan := happlied.accepted
  obtain ⟨-, hintended⟩ := foundation_of_isPreparedSignal hprepared
  rw [happlied.report.barrier] at hbarrier
  rcases happlied.voice with ⟨_, unbarred⟩ | ⟨hdeferred, crossing, hspec⟩
  · rw [unbarred.barrier] at hbarrier
    cases hbarrier
  obtain ⟨barrier', hbarrier', hdeferredIds, -, hpending⟩ := hspec.barrier
  obtain rfl : barrier' = barrier := Option.some.inj (hbarrier'.symm.trans hbarrier)
  obtain ⟨hflag, hverified⟩ := hpending hintended
  have hlooped : QuietlyExtends run.looped resolved := by
    rcases hspec.signal.dispatched_or_eq with ⟨hnot, -⟩ | ⟨-, heq⟩
    · simp [hflag] at hnot
    · exact (hspec.quietBefore.trans (heq ▸ hspec.quietAfter)).trans hresolved
  obtain ⟨planned, hmem⟩ := List.exists_mem_of_ne_nil _ hdeferred
  obtain ⟨hplanned, hscope, hvoice⟩ := mem_deferredVoiceActions.mp hmem
  have hsignal : planned ∈ deferredActions :=
    (spec_completionActions hactions planned).mpr
      ⟨hplanned, (hdeferredIds planned.id).mpr (List.mem_map_of_mem hmem)⟩
  obtain ⟨before, rfl, -⟩ := hlooped
  obtain ⟨after, rfl, -⟩ := hquiet
  rcases hscope with hmutation | hretained
  · have hsettled := (hspec.foundation.verified_iff.mp hverified).1.2 planned hmem
    set event := RuntimeEvent.applyActions
      (deferredActions.map (runtimeAction deployedNames [])) answer with hevent
    have hagain : planned.id ∈ dispatchedIds (before ++ ([event] ++ after)) := by
      rw [dispatchedIds_append, dispatchedIds_append, hevent, dispatchedIds_applyActions]
      exact List.mem_append_right _ (List.mem_append_left _ (List.mem_map_of_mem hsignal))
    have hsplit : run.looped ++ before ++ [event] ++ after =
        run.looped ++ (before ++ ([event] ++ after)) := by simp only [List.append_assoc]
    rw [hsplit]
    refine ⟨fun hcovers => ?_, ?_⟩
    · exact happlied.loop.not_nodup_dispatchedIds hplan hplanned hmutation hsettled hagain
        (hcovers.nodup_dispatchedIds hids)
    · exact happlied.loop.not_mutationsKept hplan hplanned hmutation hvoice hsettled _
  · have haction : runtimeAction deployedNames [] planned ∈ (RuntimeEvent.applyActions
        (deferredActions.map (runtimeAction deployedNames [])) answer).dispatched :=
      List.mem_map_of_mem hsignal
    obtain ⟨result, hresult, hid⟩ := RuntimeEvent.exists_result? haction
    refine ⟨fun hcovers => ?_, fun hkept => ?_⟩
    · have hscoped := hjournal.mem_of_covers hcovers
        (mem_dispatchOutcomes.mpr ⟨_, by simp, _, haction, hresult⟩)
      rw [happlied.report.mutationActionIds, hid] at hscoped
      exact (hplan.deferred planned.id hretained).1
        (of_decide_eq_true (List.mem_filter.mp hscoped).2)
    · exact (hkept _ (by simp) _ haction).2 hretained

/-- A qualification of retained state is a report of an applied plan without deferred actions. -/
lemma ApplySpec.unbarred_of_retained (h : ApplySpec plan request application trace)
    (hqualified : isRetainedQualification plan application) :
    ∃ run, deferredVoiceActions plan request run.prepared.scope = [] ∧
      AppliedSpec plan request run application trace ∧
      UnbarredSpec plan run.results run.looped run.outcome trace := by
  simp only [isRetainedQualification, Bool.and_eq_true, Option.isNone_iff_eq_none] at hqualified
  cases h with
  | refused spec =>
    obtain ⟨⟨⟨⟨⟨-, hvoice⟩, hretained⟩, -⟩, -⟩, -⟩ := hqualified
    rw [spec.retainedActionIds] at hretained
    cases hids : (voiceActions plan).map ConfigurationAction.id with
    | nil => simp [hids] at hvoice
    | cons identifier identifiers => simp [hids] at hretained
  | applied run spec =>
    rcases spec.voice with ⟨hdeferred, hspec⟩ | ⟨_, crossing, hspec⟩
    · exact ⟨run, hdeferred, spec, hspec⟩
    obtain ⟨barrier, hbarrier, -⟩ := hspec.barrier
    have hnone : application.voiceSignalBarrier = none := hqualified.1.1.1.1.1.2
    rw [spec.report.barrier, hbarrier] at hnone
    cases hnone

/-- The report of a completion covers its history exactly when the mutations are kept. -/
lemma CompletionSpec.journalCovers_iff (happlication : ApplySpec plan request application trace)
    (h : CompletionSpec plan application trace report trace') :
    JournalCovers plan report trace' ↔ MutationsKept plan request trace' := by
  rcases h
      with ⟨message, trace', hquiet⟩ | ⟨signals, signalled, hroute, report, hreport, trace', hquiet⟩
  · rw [journalCovers_of_quietlyExtends hquiet, mutationsKept_of_quietlyExtends hquiet]
    exact happlication.journalCovers_iff
  cases hroute with
  | retained hqualified signals hsignals signalled hextends =>
    have hall := hextends.trans hquiet
    have hroute := CompletionRoute.retained hqualified signals hsignals signalled hextends
    obtain ⟨run, hdeferred, spec, hspec⟩ := happlication.unbarred_of_retained hqualified
    obtain ⟨hkept, houtcomes⟩ := spec.outcomesReported_of_unbarred hdeferred hspec
    refine iff_of_true ?_ ((mutationsKept_of_quietlyExtends hall).mpr hkept)
    exact hreport.carriesJournal.covers
      (hreport.outcomesReported spec houtcomes hroute hsignals hall)
  | dispatched barrier hbarrier hprepared deferredActions hactions resolved hresolved names
      answer =>
    have hroute := CompletionRoute.dispatched barrier hbarrier hprepared deferredActions hactions
      resolved hresolved names answer
    rcases happlication with spec | ⟨run, spec⟩
    · rw [spec.barrier] at hbarrier
      cases hbarrier
    have hids : (report.actionResults.map ActionApplicationResult.actionId).Nodup := by
      rw [map_eq_of_map_get?_eq hreport.actions hroute.keyed_update]
      exact spec.accepted.nodup
    obtain ⟨hcovers, hkept⟩ := spec.completed_dispatched hbarrier hprepared hactions hresolved
      hids hreport.carriesJournal hquiet
    exact iff_of_false hcovers hkept

/-- The completion that a run of `apply` and the completion reports. -/
lemma exists_completion_of_run
    (h : ((applicator.applyAndComplete plan request completion).run []).1 = .ok report) :
    ∃ application trace, ApplySpec plan request application trace ∧
      CompletionSpec plan application trace report
        ((applicator.applyAndComplete plan request completion).run []).2 := by
  have hboth : (applicator.applyAndComplete plan request completion).Ensures []
      (fun report trace' => ∃ application trace, ApplySpec plan request application trace ∧
        CompletionSpec plan application trace report trace') fun _ _ => True := by
    unfold applyAndComplete
    rw [Interaction.ensures_bind]
    exact ensures_apply.mono (fun application trace happlication =>
      ensures_completeDeferredVoiceSignals.mono (fun _ _ hcompletion =>
        ⟨application, trace, happlication, hcompletion⟩) fun _ _ _ => trivial)
      fun _ _ _ => trivial
  exact hboth.of_run_eq_ok (Prod.ext h rfl)

/-- **What the journal covers.**  The report of `apply`, and the report of `apply` followed by the
completion of its deferred signals, covers every dispatch of the run exactly when no preparation
of an access port was applied and no retained deferred action was dispatched. -/
theorem covers_dispatches_iff_mutationsKept (applicator : ConfigurationApplicator)
    (plan : ConfigurationPlan) (request : ApplyRequest) :
    (∀ report, ((applicator.apply plan request).run []).1 = .ok report →
      (JournalCovers plan report ((applicator.apply plan request).run []).2 ↔
        MutationsKept plan request ((applicator.apply plan request).run []).2)) ∧
    ∀ completion report, ((applicator.applyAndComplete plan request completion).run []).1 =
        .ok report →
      (JournalCovers plan report ((applicator.applyAndComplete plan request completion).run []).2 ↔
        MutationsKept plan request
          ((applicator.applyAndComplete plan request completion).run []).2) := by
  refine ⟨fun report hreport => ?_, fun completion report hreport => ?_⟩
  · exact (applySpec_of_run hreport).journalCovers_iff
  · obtain ⟨application, trace, happlication, hcompletion⟩ := exists_completion_of_run hreport
    exact hcompletion.journalCovers_iff happlication

/-! ## A prepared port whose signal fails -/

instance (plan : ConfigurationPlan) (action : ConfigurationAction) :
    Decidable (IsPreparation plan action) :=
  inferInstanceAs (Decidable (_ ∧ ∃ planned ∈ plan.actions, _))

instance (plan : ConfigurationPlan) (request : ApplyRequest) (trace : List RuntimeEvent) :
    Decidable (MutationsKept plan request trace) :=
  inferInstanceAs (Decidable (∀ event ∈ trace, ∀ action ∈ event.dispatched, _ ∧ _))

/-- An applicator whose runtime finds one switch, does with an action what it is told to do, and
verifies everything. -/
def scriptedApplicator (disposition : ConfigurationAction → MutationDisposition) :
    ConfigurationApplicator where
  runtime :=
    { inventory := fun _ => .ok [{ deviceName := "Switch0", model := "2960-24TT" }]
      applyActions := fun _ actions => .ok (actions.map fun action =>
        { actionId := action.id
          applied := disposition action ≠ .failed
          disposition := disposition action })
      verify := fun _ expectations => .ok (expectations.map fun item =>
        { expectationId := item.id, status := .verified })
      waitForVoiceAccessForwarding := fun _ expectations => .ok (expectations.map fun item =>
        { expectationId := item.id, status := .verified }) }
  semanticHash := fun _ => ""
  casefold := id

/-- A VLAN, and an access port with a Voice VLAN that depends on it. -/
def voicePortPlan : ConfigurationPlan where
  id := "plan"
  sourceTopologyHash := "topology"
  actions := [
    { id := "vlan", phase := .l2Definitions, deviceId := "sw", deviceName := "Switch0"
      siteId := "site", detail := .createVlan 20 "VOICE" "segment" },
    { id := "port", phase := .l2Interfaces, deviceId := "sw", deviceName := "Switch0"
      siteId := "site", dependsOn := ["vlan"]
      detail := .configureAccessPort "FastEthernet0/1" 10 (some 20) [] }]
  devices := [{ deviceId := "sw", deviceName := "Switch0", model := "2960-24TT" }]
  verificationExpectations := [
    { id := "vlan-exists", actionId := "vlan", kind := .vlan, deviceId := "sw"
      deviceName := "Switch0" }]

/-- The request that the plan of one switch is applied with. -/
def plainRequest : ApplyRequest where
  actualSourceTopologyHash := "topology"

/-- A switch that has the VLAN, prepares the port and refuses its Voice VLAN. -/
def refusedVoiceVlan (action : ConfigurationAction) : MutationDisposition :=
  if action.id = "vlan" then .noOp
  else if action.activatesVoiceVlan then .failed else .changed

/-- The report calls the switch clean: the failed signal has replaced the applied preparation. -/
example : (((scriptedApplicator refusedVoiceVlan).apply voicePortPlan plainRequest).run []).1.map
    (fun report => (report.status, report.dirtyState)) = .ok (.failed, .clean) := by
  decide

/-- **Not every dispatched mutation is in the journal.** -/
theorem not_forall_journalCovers :
    ¬∀ (applicator : ConfigurationApplicator) (plan : ConfigurationPlan) (request : ApplyRequest)
      (report : ConfigurationApplicationResult),
      ((applicator.apply plan request).run []).1 = .ok report →
        JournalCovers plan report ((applicator.apply plan request).run []).2 := by
  intro hall
  obtain ⟨report, hreport⟩ : ∃ report, (((scriptedApplicator refusedVoiceVlan).apply voicePortPlan
      plainRequest).run []).1 = .ok report := Fallible.exists_of_isOk (by decide)
  have hspec := applySpec_of_run hreport
  have hlost : ¬MutationsKept voicePortPlan plainRequest
      (((scriptedApplicator refusedVoiceVlan).apply voicePortPlan plainRequest).run []).2 := by
    decide
  exact hlost (hspec.journalCovers_iff.mp (hall _ _ _ report hreport))

/-- A switch that has the VLAN and refuses to prepare the port. -/
def refusedPort (action : ConfigurationAction) : MutationDisposition :=
  if action.id = "vlan" then .noOp else .failed

/-- A refused preparation is in the journal. -/
theorem journalCovers_refusedPort :
    ∃ report, (((scriptedApplicator refusedPort).apply voicePortPlan plainRequest).run []).1 =
        .ok report ∧
      JournalCovers voicePortPlan report
        (((scriptedApplicator refusedPort).apply voicePortPlan plainRequest).run []).2 := by
  obtain ⟨report, hreport⟩ : ∃ report, (((scriptedApplicator refusedPort).apply voicePortPlan
      plainRequest).run []).1 = .ok report := Fallible.exists_of_isOk (by decide)
  refine ⟨report, hreport,
    ((covers_dispatches_iff_mutationsKept _ _ _).1 report hreport).mpr ?_⟩
  decide

/-! ## At most once -/

/-- The dispatched actions, each with whether the dispatch activates its Voice VLAN. -/
def dispatchForms (trace : List RuntimeEvent) : List (String × Bool) :=
  trace.flatMap fun event => event.dispatched.map fun action =>
    (action.id, action.activatesVoiceVlan)

variable {looped : List RuntimeEvent}

lemma dispatchForms_of_quietlyExtends (h : QuietlyExtends trace trace') :
    dispatchForms trace' = dispatchForms trace := by
  obtain ⟨more, rfl, hmore⟩ := h
  have hnone : dispatchForms more = [] :=
    List.flatMap_eq_nil_iff.mpr fun event hevent => by rw [hmore event hevent, List.map_nil]
  simpa [dispatchForms] using hnone

/-- The main loop dispatches every action at most once, and activates no Voice VLAN. -/
lemma LoopInvariant.forms (hplan : AcceptedPlan plan request prepared)
    (h : LoopInvariant plan prepared ((deferredVoiceActions plan request prepared.scope).map
      ConfigurationAction.id) results looped) :
    (dispatchForms looped).Nodup ∧ ∀ form ∈ dispatchForms looped, form.2 = false := by
  have hforms : dispatchForms looped = (dispatchedIds looped).map fun id => (id, false) := by
    rw [dispatchedIds, List.map_flatMap]
    refine List.flatMap_congr fun event hevent => ?_
    rw [List.map_map]
    refine List.map_congr_left fun action haction => ?_
    rw [(h.toLoopTrace.noSignal hplan event hevent action haction).1]
    rfl
  rw [hforms]
  refine ⟨h.once.map fun a b hab => congrArg Prod.fst hab, fun form hform => ?_⟩
  obtain ⟨id, -, rfl⟩ := List.mem_map.mp hform
  rfl

/-- So does the second stage after it. -/
lemma LoopInvariant.nodup_signalled (hplan : AcceptedPlan plan request prepared)
    (h : LoopInvariant plan prepared ((deferredVoiceActions plan request prepared.scope).map
      ConfigurationAction.id) results looped) (hquiet : QuietlyExtends looped trace)
    {deferred : List ConfigurationAction} (hdeferred : deferred.Sublist plan.actions)
    (hvoice : ∀ action ∈ deferred, action.activatesVoiceVlan) (names : Dict String String)
    (answer : Except String (List RuntimeActionMutation)) :
    (dispatchForms (trace ++ [.applyActions (deferred.map (runtimeAction names []))
      answer])).Nodup := by
  obtain ⟨hnodup, hfalse⟩ := h.forms hplan
  have hsecond : dispatchForms [.applyActions (deferred.map (runtimeAction names [])) answer] =
      deferred.map fun action => (action.id, true) := by
    simp only [dispatchForms, List.flatMap_singleton, RuntimeEvent.dispatched, List.map_map]
    refine List.map_congr_left fun action haction => ?_
    simp [activatesVoiceVlan_runtimeAction, hvoice action haction]
  have happend : dispatchForms (trace ++ [.applyActions (deferred.map (runtimeAction names []))
      answer]) = dispatchForms looped ++ deferred.map fun action => (action.id, true) := by
    rw [← hsecond, ← dispatchForms_of_quietlyExtends hquiet]
    exact List.flatMap_append
  have hids : (deferred.map fun action => (action.id, true)).Nodup := by
    have hplanned := (hdeferred.map ConfigurationAction.id).nodup hplan.nodup
    refine List.Nodup.of_map Prod.fst ?_
    rwa [List.map_map]
  rw [happend, List.nodup_append]
  refine ⟨hnodup, hids, fun form hform form' hform' heq => ?_⟩
  obtain ⟨action, -, rfl⟩ := List.mem_map.mp hform'
  have hform2 := hfalse form hform
  simp [heq] at hform2

lemma AppliedSpec.nodup_forms (h : AppliedSpec plan request run report trace) :
    (dispatchForms trace).Nodup := by
  rcases h.voice with ⟨_, spec⟩ | ⟨_, crossing, spec⟩
  · rw [dispatchForms_of_quietlyExtends spec.quiet]
    exact (h.loop.forms h.accepted).1
  rw [dispatchForms_of_quietlyExtends spec.quietAfter]
  rcases spec.signal.dispatched_or_eq with ⟨-, -, answer, -, hsignalled⟩ | ⟨-, heq⟩
  · rw [hsignalled]
    exact h.loop.nodup_signalled h.accepted spec.quietBefore List.filter_sublist
      (fun action haction => (mem_deferredVoiceActions.mp haction).2.2) _ _
  · rw [heq, dispatchForms_of_quietlyExtends spec.quietBefore]
    exact (h.loop.forms h.accepted).1

/-- The history of a completion after `apply`. -/
lemma ApplySpec.nodup_forms (h : ApplySpec plan request application trace)
    (hcompletion : CompletionTrace plan application trace trace') :
    (dispatchForms trace').Nodup := by
  have happlied : (dispatchForms trace).Nodup := by
    rcases h with spec | ⟨run, spec⟩
    · have hquiet : QuietlyExtends [] trace := ⟨trace, rfl, spec.quiet⟩
      rw [dispatchForms_of_quietlyExtends hquiet]
      exact List.nodup_nil
    · exact spec.nodup_forms
  rcases hcompletion with hquiet | ⟨signals, signalled, hroute, hquiet⟩
  · rwa [dispatchForms_of_quietlyExtends hquiet]
  rw [dispatchForms_of_quietlyExtends hquiet]
  cases hroute with
  | retained _ _ _ _ hextends => rwa [dispatchForms_of_quietlyExtends hextends]
  | dispatched barrier hbarrier hprepared deferredActions hdeferred resolved hextends names
      answer =>
    obtain ⟨-, hintended⟩ := foundation_of_isPreparedSignal hprepared
    rcases h with spec | ⟨run, spec⟩
    · rw [spec.barrier] at hbarrier
      cases hbarrier
    rw [spec.report.barrier] at hbarrier
    rcases spec.voice with ⟨_, unbarred⟩ | ⟨_, crossing, hcrossing⟩
    · rw [unbarred.barrier] at hbarrier
      cases hbarrier
    obtain ⟨barrier', hbarrier', -, -, hpending⟩ := hcrossing.barrier
    obtain rfl := Option.some.inj (hbarrier'.symm.trans hbarrier)
    -- the prepared barrier has left the second stage out
    have hlooped : QuietlyExtends run.looped resolved := by
      rcases hcrossing.signal.dispatched_or_eq with ⟨hflag, -⟩ | ⟨-, heq⟩
      · simp [(hpending hintended).1] at hflag
      · exact (hcrossing.quietBefore.trans (heq ▸ hcrossing.quietAfter)).trans hextends
    unfold completionActions at hdeferred
    simp only at hdeferred
    split_ifs at hdeferred with hmatch
    cases hdeferred
    refine spec.loop.nodup_signalled spec.accepted hlooped List.filter_sublist ?_ _ _
    simpa using (not_or.mp hmatch).2

/-- **No action is dispatched twice in one form.**  In every run of `apply` that returns, and of
`apply` followed by the completion of its deferred signals, an action is dispatched at most once
without its Voice VLAN and at most once with it. -/
theorem dispatches_once (applicator : ConfigurationApplicator) (plan : ConfigurationPlan)
    (request : ApplyRequest) :
    (∀ report, ((applicator.apply plan request).run []).1 = .ok report →
      (dispatchForms ((applicator.apply plan request).run []).2).Nodup) ∧
    ∀ completion report, ((applicator.applyAndComplete plan request completion).run []).1 =
        .ok report →
      (dispatchForms ((applicator.applyAndComplete plan request completion).run []).2).Nodup := by
  refine ⟨fun report hreport => ?_, fun completion report hreport => ?_⟩
  · exact (applySpec_of_run hreport).nodup_forms (Or.inl (QuietlyExtends.refl _))
  · obtain ⟨application, trace, happlication, hcompletion⟩ := exists_completion_of_run hreport
    refine happlication.nodup_forms ?_
    cases hcompletion with
    | refused message trace' hquiet => exact Or.inl hquiet
    | completed signals signalled hroute report _ trace' hquiet =>
      exact Or.inr ⟨signals, signalled, hroute, hquiet⟩

end ConfigurationApplicator

end PacketTracer
