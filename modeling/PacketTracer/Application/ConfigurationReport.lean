import PacketTracer.Application.ConfigurationDispatch

/-!
# What `apply` reports

The stages of `_verify_with_voice_signal_barrier`, the whole barrier, and the report of `apply`: how
the reported results, the barrier and the journal relate to the results of the main loop and to the
history.
-/

namespace PacketTracer

open Dicts Interactions PyText

open Interaction (ensures_bind ensures_pure ensures_ofExcept)

/-! ## Look-ups in a list of results -/

section Lookup

variable {ν : Type} {d : Dict String ν} {keyOf : ν → String} {vs : List ν} {keys : List String}

/-- Looking results up in the list they were collected in finds them again. -/
lemma subscripts_ofList_self (h : keys.map d.get? = vs.map some)
    (hkeyed : ∀ key v, d.get? key = some v → keyOf v = key) :
    subscripts (Dict.ofList (vs.map fun v => (keyOf v, v))) keys = .ok vs := by
  rw [subscripts_eq_ok, ← h]
  refine List.map_congr_left fun key hkey => ?_
  have hmem : d.get? key ∈ vs.map some := by
    rw [← h]
    exact List.mem_map_of_mem hkey
  obtain ⟨v, hv, hget⟩ := List.mem_map.mp hmem
  have hentry : (key, v) ∈ vs.map fun v => (keyOf v, v) :=
    List.mem_map.mpr ⟨v, hv, by rw [hkeyed key v hget.symm]⟩
  obtain ⟨w, hw, hwmem⟩ :=
    Dict.exists_get?_setAll_of_mem (d := (Dict.empty : Dict String ν)) hentry
  obtain ⟨u, hu, heq⟩ := List.mem_map.mp hwmem
  simp only [Prod.mk.injEq] at heq
  obtain ⟨hkeyu, rfl⟩ := heq
  have hfound : some u ∈ keys.map d.get? := by
    rw [h]
    exact List.mem_map_of_mem hu
  obtain ⟨key', -, hget'⟩ := List.mem_map.mp hfound
  have hkey' : key' = key := (hkeyed key' u hget').symm.trans hkeyu
  have hofList : (Dict.ofList (vs.map fun v => (keyOf v, v))).get? key = some u := hw
  rw [hofList, ← hget', hkey']

/-- The items of a list paired with the results that were looked up for them. -/
lemma mem_zip_iff_of_map_get?_eq {α : Type} {idOf : α → String} {items : List α}
    (h : (items.map idOf).map d.get? = vs.map some) {item : α} {v : ν} :
    (item, v) ∈ items.zip vs ↔ item ∈ items ∧ d.get? (idOf item) = some v := by
  induction items generalizing vs with
  | nil => simp
  | cons first items ih =>
    rcases vs with _ | ⟨w, vs⟩
    · simp at h
    obtain ⟨hw, hvs⟩ := List.cons.inj h
    simp only [List.zip_cons_cons, List.mem_cons, Prod.mk.injEq, ih hvs]
    constructor
    · rintro (⟨rfl, rfl⟩ | ⟨hitem, hget⟩)
      · exact ⟨Or.inl rfl, hw⟩
      · exact ⟨Or.inr hitem, hget⟩
    · rintro ⟨rfl | hitem, hget⟩
      · exact Or.inl ⟨rfl, Option.some.inj (hget.symm.trans hw)⟩
      · exact Or.inr ⟨hitem, hget⟩

lemma length_eq_of_map_get?_eq (h : keys.map d.get? = vs.map some) : vs.length = keys.length := by
  simpa using (congrArg List.length h).symm

end Lookup

namespace ConfigurationApplicator

variable {applicator : ConfigurationApplicator} {plan : ConfigurationPlan}
  {deployedNames : Dict String String} {trace : List RuntimeEvent}

/-! ## Verification -/

variable {expectations : List VerificationExpectation}
  {results : Dict String ActionApplicationResult} {deferred : List ConfigurationAction}

/-- **`_verify`.**  Every expectation gets a result in its place; a result that is not `unknown`
is what the runtime was observed to answer. -/
lemma ensures_verify :
    (applicator.verify expectations).Ensures trace
      (fun results trace' => ∃ more, trace' = trace ++ more ∧ Quiet more ∧
        results.map VerificationResult.expectationId =
          expectations.map VerificationExpectation.id ∧
        ∀ item ∈ results, item.status = .unknown ∨ ∃ event ∈ more,
          event.observedStatus? item.expectationId = some item.status)
      fun _ _ => False := by
  unfold verify
  by_cases hempty : expectations = []
  · rw [if_pos hempty]
    exact ⟨[], by simp, quiet_nil, by simp [hempty], fun item hitem => by simp at hitem⟩
  rw [if_neg hempty]
  simp only [ensures_bind, Interaction.ensures_exchange, ensures_pure]
  set answer := applicator.runtime.verify trace expectations
  have hid : ∀ expectation observed, (verificationResult expectation observed).expectationId =
      expectation.id := by
    intro expectation observed
    cases observed <;> rfl
  refine ⟨[RuntimeEvent.verify expectations answer], rfl, fun event hevent => ?_, ?_, ?_⟩
  · obtain rfl : event = .verify expectations answer := by simpa using hevent
    rfl
  · simp [verificationResults, hid, Function.comp_def]
  · intro item hitem
    obtain ⟨expectation, hexpectation, rfl⟩ := List.mem_map.mp hitem
    rcases hobserved : (observedVerifications expectations answer).get? expectation.id
        with _ | observed
    · exact Or.inl rfl
    refine Or.inr ⟨_, List.mem_singleton_self _, ?_⟩
    have hmem : expectation.id ∈ expectations.map VerificationExpectation.id :=
      List.mem_map_of_mem hexpectation
    simp only [hid, RuntimeEvent.observedStatus?]
    rw [if_pos hmem, hobserved]
    rfl

/-- What `verify_subset` yields for a list of expectations. -/
structure SubsetSpec (expectations : List VerificationExpectation)
    (observed : Dict String VerificationResult) (trace : List RuntimeEvent) : Prop where
  /-- Results are stored under the identifier they carry. -/
  keyed : ∀ identifier item, observed.get? identifier = some item →
    item.expectationId = identifier
  /-- Exactly the expectations have results. -/
  domain : ∀ identifier, (observed.get? identifier).isSome ↔
    identifier ∈ expectations.map VerificationExpectation.id
  /-- A result is blocked, unknown, or was observed. -/
  evidence : ∀ identifier item, observed.get? identifier = some item →
    item.status = .dependencyBlocked ∨ item.status = .unknown ∨ ∃ event ∈ trace,
      event.observedStatus? identifier = some item.status

/-- **`verify_subset`.** -/
lemma ensures_verifySubset {statuses : StatusMap} :
    (applicator.verifySubset deployedNames expectations statuses).Ensures trace
      (fun observed trace' => QuietlyExtends trace trace' ∧
        SubsetSpec expectations observed trace')
      fun _ _ => False := by
  unfold verifySubset
  simp only [ensures_bind, ensures_pure]
  set isReady := fun item => (expectationPrerequisites statuses item).1
  refine ensures_verify.imp fun results trace' hverify => ?_
  obtain ⟨more, rfl, hquiet, hids, hevidence⟩ := hverify
  have hready : results.map VerificationResult.expectationId =
      (expectations.filter isReady).map VerificationExpectation.id := by
    rw [hids, List.map_map]
    rfl
  set settled : Dict String VerificationResult :=
    Dict.ofList ((expectations.filter fun item => !isReady item).map fun item =>
      (item.id, blockedVerification statuses item))
  have hsettled : ∀ identifier item, settled.get? identifier = some item →
      item.expectationId = identifier ∧ item.status = .dependencyBlocked := by
    intro identifier item hget
    obtain ⟨expectation, -, rfl, rfl⟩ := Dict.exists_of_get?_ofList hget
    exact ⟨rfl, rfl⟩
  have hcases : ∀ identifier item,
      (settled.setAll (results.map fun item => (item.expectationId, item))).get? identifier =
        some item →
      (item ∈ results ∧ item.expectationId = identifier) ∨
        settled.get? identifier = some item := by
    intro identifier item hget
    rcases Dict.mem_or_get?_of_get?_setAll hget with hmem | ⟨-, hget⟩
    · obtain ⟨result, hresult, heq⟩ := List.mem_map.mp hmem
      simp only [Prod.mk.injEq] at heq
      obtain ⟨rfl, rfl⟩ := heq
      exact Or.inl ⟨hresult, rfl⟩
    · exact Or.inr hget
  refine ⟨⟨more, rfl, hquiet⟩, fun identifier item hget => ?_, fun identifier => ?_,
    fun identifier item hget => ?_⟩
  · rcases hcases identifier item hget with ⟨-, hid⟩ | hget
    · exact hid
    · exact (hsettled identifier item hget).1
  · constructor
    · intro hsome
      obtain ⟨item, hget⟩ := Option.isSome_iff_exists.mp hsome
      rcases hcases identifier item hget with ⟨hmem, rfl⟩ | hget
      · have hid : item.expectationId ∈ results.map VerificationResult.expectationId :=
          List.mem_map_of_mem hmem
        rw [hready] at hid
        exact (List.filter_sublist.map _).subset hid
      · have hid := Dict.isSome_get?_ofList_iff.mp (Option.isSome_iff_exists.mpr ⟨item, hget⟩)
        simp only [List.map_map, Function.comp_def] at hid
        exact (List.filter_sublist.map _).subset hid
    · intro hmem
      obtain ⟨expectation, hexpectation, rfl⟩ := List.mem_map.mp hmem
      cases hcase : isReady expectation with
      | true =>
        have hid : expectation.id ∈ results.map VerificationResult.expectationId := by
          rw [hready]
          exact List.mem_map_of_mem (List.mem_filter.mpr ⟨hexpectation, hcase⟩)
        obtain ⟨result, hresult, hresultId⟩ := List.mem_map.mp hid
        obtain ⟨w, hw, -⟩ := Dict.exists_get?_setAll_of_mem (d := settled)
          (List.mem_map.mpr ⟨result, hresult, Prod.ext hresultId rfl⟩ :
            (expectation.id, result) ∈ results.map fun item => (item.expectationId, item))
        rw [hw]
        rfl
      | false =>
        have hblocked : (settled.get? expectation.id).isSome := by
          refine Dict.isSome_get?_ofList_iff.mpr ?_
          simp only [List.map_map, Function.comp_def]
          exact List.mem_map_of_mem (List.mem_filter.mpr ⟨hexpectation, by simp [hcase]⟩)
        obtain ⟨item, hget⟩ := Option.isSome_iff_exists.mp hblocked
        by_cases hwritten : ∃ result ∈ results, result.expectationId = expectation.id
        · obtain ⟨result, hresult, hresultId⟩ := hwritten
          obtain ⟨w, hw, -⟩ := Dict.exists_get?_setAll_of_mem (d := settled)
            (List.mem_map.mpr ⟨result, hresult, Prod.ext hresultId rfl⟩ :
              (expectation.id, result) ∈ results.map fun item => (item.expectationId, item))
          rw [hw]
          rfl
        · rw [Dict.get?_setAll_of_forall_ne, hget]
          · rfl
          · intro e he heq
            obtain ⟨result, hresult, rfl⟩ := List.mem_map.mp he
            exact hwritten ⟨result, hresult, heq⟩
  · rcases hcases identifier item hget with ⟨hmem, rfl⟩ | hget
    · rcases hevidence item hmem with hunknown | ⟨event, hevent, hstatus⟩
      · exact Or.inr (Or.inl hunknown)
      · exact Or.inr (Or.inr ⟨event, List.mem_append_right _ hevent, hstatus⟩)
    · exact Or.inl (hsettled identifier item hget).2

/-! ## The foundation -/

/-- The history holds an observation that establishes each foundation expectation, and there is at
least one. -/
def FoundationObserved (plan : ConfigurationPlan) (deferredIds : List String)
    (trace : List RuntimeEvent) : Prop :=
  foundationExpectations plan deferredIds ≠ [] ∧
    ∀ expectation ∈ foundationExpectations plan deferredIds, ∃ event ∈ trace, ∃ status,
      event.observedStatus? expectation.id = some status ∧
        foundationEstablished expectation.kind status

lemma FoundationObserved.append {deferredIds : List String}
    (h : FoundationObserved plan deferredIds trace) (more : List RuntimeEvent) :
    FoundationObserved plan deferredIds (trace ++ more) := by
  refine ⟨h.1, fun expectation hexpectation => ?_⟩
  obtain ⟨event, hevent, status, hstatus⟩ := h.2 expectation hexpectation
  exact ⟨event, List.mem_append_left _ hevent, status, hstatus⟩

/-- A status of `_voice_signal_foundation_status` that fails the whole foundation. -/
def breaksFoundation (status : ActionExecutionStatus) : Bool :=
  status = .failed || status = .unknown || status = .dependencyBlocked || status = .skipped

/-- **`_voice_signal_foundation_status`** does not raise, and is `verified` exactly when every
preparation was applied, the foundation is there and each of its expectations is established, and
nothing that was verified breaks it. -/
lemma spec_voiceSignalFoundationStatus (preparation : List ActionApplicationResult)
    (allPreSignal : List VerificationResult)
    {foundation : List VerificationResult}
    (hlookup : subscripts (Dict.ofList (foundation.map fun item => (item.expectationId, item)))
      (expectations.map VerificationExpectation.id) = .ok foundation) :
    ∃ status,
      voiceSignalFoundationStatus preparation expectations foundation allPreSignal = .ok status ∧
      (status = .verified ↔
        (preparation ≠ [] ∧ ∀ item ∈ preparation, satisfiesApplyDependency item.status) ∧
        expectations ≠ [] ∧
        (∀ item ∈ expectations.zip foundation,
          foundationEstablished item.1.kind item.2.status) ∧
        ∀ item ∈ allPreSignal, breaksFoundation item.status = false) := by
  have hlength : expectations.length = foundation.length := by
    simpa using (length_eq_of_map_get?_eq (subscripts_eq_ok.mp hlookup)).symm
  unfold voiceSignalFoundationStatus
  by_cases hprepared : preparation = [] ∨
      preparation.any fun item => !satisfiesApplyDependency item.status
  · refine ⟨.failed, by rw [if_pos hprepared], ?_⟩
    simp only [reduceCtorEq, false_iff]
    rintro ⟨⟨hnonempty, hall⟩, -⟩
    rcases hprepared with hempty | hany
    · exact hnonempty hempty
    · obtain ⟨item, hitem, hstatus⟩ := List.any_eq_true.mp hany
      simp [hall item hitem] at hstatus
  · rw [if_neg hprepared]
    rw [not_or] at hprepared
    have hall : ∀ item ∈ preparation, satisfiesApplyDependency item.status := by
      intro item hitem
      by_contra hstatus
      exact hprepared.2 (List.any_eq_true.mpr ⟨item, hitem, by simpa using hstatus⟩)
    by_cases hempty : expectations = []
    · exact ⟨.unobservable, by simp [hempty], by simp [hempty]⟩
    rw [if_neg (by simp [hempty, hlength])]
    simp only [hlookup, bind, Except.bind, pure, Except.pure]
    set unresolved := ((expectations.zip foundation).filter fun item =>
      !foundationEstablished item.1.kind item.2.status).map fun item => item.2.status
      with hunresolved
    have hunresolvedNil : unresolved = [] ↔ ∀ item ∈ expectations.zip foundation,
        foundationEstablished item.1.kind item.2.status := by
      rw [hunresolved, List.map_eq_nil_iff, List.filter_eq_nil_iff]
      simp
    have hbreaks : (allPreSignal.any fun item => decide (item.status = .failed ∨
        item.status = .unknown ∨ item.status = .dependencyBlocked ∨ item.status = .skipped)) =
        allPreSignal.any fun item => breaksFoundation item.status := by
      congr 1
      funext item
      cases item.status <;> rfl
    simp only [hbreaks]
    by_cases hbroken : allPreSignal.any fun item => breaksFoundation item.status
    · refine ⟨.failed, by rw [if_pos hbroken], ?_⟩
      obtain ⟨item, hitem, hstatus⟩ := List.any_eq_true.mp hbroken
      simp only [reduceCtorEq, false_iff]
      rintro ⟨-, -, -, hnone⟩
      simp [hnone item hitem] at hstatus
    · rw [if_neg hbroken]
      have hnone : ∀ item ∈ allPreSignal, breaksFoundation item.status = false := by
        simpa using hbroken
      have hiff : unresolved = [] ↔
          (preparation ≠ [] ∧ ∀ item ∈ preparation, satisfiesApplyDependency item.status) ∧
          expectations ≠ [] ∧
          (∀ item ∈ expectations.zip foundation,
            foundationEstablished item.1.kind item.2.status) ∧
          ∀ item ∈ allPreSignal, breaksFoundation item.status = false :=
        ⟨fun h => ⟨⟨hprepared.1, hall⟩, hempty, hunresolvedNil.mp h, hnone⟩,
          fun h => hunresolvedNil.mpr h.2.2.1⟩
      rw [← hiff]
      clear_value unresolved
      by_cases hnil : unresolved = []
      · exact ⟨.verified, by simp [hnil], by simp [hnil]⟩
      simp only [hnil, iff_false]
      by_cases hfailed : ActionExecutionStatus.failed ∈ unresolved
      · exact ⟨.failed, by rw [if_pos hfailed], by simp⟩
      rw [if_neg hfailed]
      cases hfind : [ActionExecutionStatus.dependencyBlocked, .unknown, .skipped,
          .unobservable, .partial_].find? (· ∈ unresolved) with
      | some status =>
        refine ⟨status, rfl, ?_⟩
        rintro rfl
        have := List.mem_of_find?_eq_some hfind
        simp at this
      | none => exact ⟨.unknown, by simp [hnil], by simp⟩

/-- What the first stage of the barrier establishes. -/
structure FoundationSpec (plan : ConfigurationPlan) (results : Dict String ActionApplicationResult)
    (deferred : List ConfigurationAction) (outcome : FoundationOutcome)
    (trace : List RuntimeEvent) : Prop where
  /-- The preparations are the results of the deferred actions. -/
  preparations : (deferred.map ConfigurationAction.id).map results.get? =
    outcome.preparationResults.map some
  /-- Everything but the deferred actions is verified. -/
  preSignal : SubsetSpec (preSignalExpectations plan (deferred.map ConfigurationAction.id))
    outcome.preSignalResults trace
  /-- When the foundation is `verified`. -/
  verified_iff : outcome.foundationStatus = .verified ↔
    (deferred ≠ [] ∧ ∀ action ∈ deferred, Settled results action.id) ∧
    foundationExpectations plan (deferred.map ConfigurationAction.id) ≠ [] ∧
    (∀ expectation ∈ foundationExpectations plan (deferred.map ConfigurationAction.id), ∃ item,
      outcome.preSignalResults.get? expectation.id = some item ∧
        foundationEstablished expectation.kind item.status) ∧
    ∀ identifier item, outcome.preSignalResults.get? identifier = some item →
      breaksFoundation item.status = false

lemma FoundationSpec.observed {outcome : FoundationOutcome}
    (h : FoundationSpec plan results deferred outcome trace)
    (hverified : outcome.foundationStatus = .verified) :
    FoundationObserved plan (deferred.map ConfigurationAction.id) trace := by
  obtain ⟨-, hnonempty, hestablished, -⟩ := h.verified_iff.mp hverified
  refine ⟨hnonempty, fun expectation hexpectation => ?_⟩
  obtain ⟨item, hget, hitem⟩ := hestablished expectation hexpectation
  rcases h.preSignal.evidence expectation.id item hget with hblocked | hunknown | hevent
  · simp [hblocked, foundationEstablished] at hitem
  · simp [hunknown, foundationEstablished] at hitem
  · obtain ⟨event, hevent, hstatus⟩ := hevent
    exact ⟨event, hevent, item.status, hstatus, hitem⟩

/-- **The first stage of the barrier.** -/
lemma ensures_verifyFoundation (hdeferred : ∀ action ∈ deferred, action ∈ plan.actions)
    (hcovered : ∀ action ∈ plan.actions, (results.get? action.id).isSome) :
    (applicator.verifyFoundation plan results deferred deployedNames).Ensures trace
      (fun outcome trace' => QuietlyExtends trace trace' ∧
        FoundationSpec plan results deferred outcome trace')
      fun _ _ => False := by
  unfold verifyFoundation
  simp only [ensures_bind]
  have hids : ∀ {actions : List ConfigurationAction}, (∀ action ∈ actions, action ∈ plan.actions) →
      ∀ key ∈ actions.map ConfigurationAction.id, (results.get? key).isSome := by
    intro actions hactions key hkey
    obtain ⟨action, haction, rfl⟩ := List.mem_map.mp hkey
    exact hcovered action (hactions action haction)
  refine ensures_subscripts (hids fun _ h => h) fun initialResults _ => ?_
  refine ensures_subscripts (hids hdeferred) fun preparations hpreparations => ?_
  refine ensures_verifySubset.imp fun preSignal trace' hpre => ?_
  obtain ⟨htrace, hspec⟩ := hpre
  set deferredIds := deferred.map ConfigurationAction.id with hdeferredIds
  have hfoundation : ∀ key ∈ (foundationExpectations plan deferredIds).map
      VerificationExpectation.id, (preSignal.get? key).isSome := by
    intro key hkey
    rw [hspec.domain]
    obtain ⟨expectation, hexpectation, rfl⟩ := List.mem_map.mp hkey
    obtain ⟨hmem, hkind⟩ := List.mem_filter.mp hexpectation
    refine List.mem_map_of_mem (List.mem_filter.mpr ⟨hmem, ?_⟩)
    simp only [decide_eq_true_eq] at hkind ⊢
    exact hkind.1
  refine ensures_subscripts hfoundation fun foundation hlookup => ?_
  obtain ⟨status, hstatus, hiff⟩ := spec_voiceSignalFoundationStatus preparations preSignal.values
    (subscripts_ofList_self hlookup hspec.keyed)
  rw [Interaction.ensures_ofExcept, hstatus]
  refine ⟨fun a ha => ?_, fun e he => by cases he⟩
  cases ha
  refine ⟨htrace, hpreparations, hspec, hiff.trans ?_⟩
  have hzip : ∀ {expectation : VerificationExpectation} {item : VerificationResult},
      (expectation, item) ∈ (foundationExpectations plan deferredIds).zip foundation ↔
        expectation ∈ foundationExpectations plan deferredIds ∧
          preSignal.get? expectation.id = some item := mem_zip_iff_of_map_get?_eq hlookup
  refine and_congr (and_congr ?_ ?_) (and_congr_right fun _ => and_congr ?_ ?_)
  · have hlength := length_eq_of_map_get?_eq hpreparations
    rw [hdeferredIds, List.length_map] at hlength
    rw [ne_eq, ne_eq, ← List.length_eq_zero_iff, hlength, List.length_eq_zero_iff]
  · constructor
    · intro hall action haction
      obtain ⟨v, hv, hget⟩ := mem_of_map_get?_eq hpreparations haction
      exact ⟨v, hget, hall v hv⟩
    · intro hall v hv
      obtain ⟨action, haction, hget⟩ := exists_of_mem_of_map_get?_eq hpreparations hv
      obtain ⟨w, hw, hwstatus⟩ := hall action haction
      obtain rfl : v = w := Option.some.inj (hget.symm.trans hw)
      exact hwstatus
  · constructor
    · intro hall expectation hexpectation
      obtain ⟨v, -, hget⟩ := mem_of_map_get?_eq hlookup hexpectation
      exact ⟨v, hget, hall (expectation, v) (hzip.mpr ⟨hexpectation, hget⟩)⟩
    · rintro hall ⟨expectation, v⟩ hmem
      obtain ⟨hexpectation, hget⟩ := hzip.mp hmem
      obtain ⟨w, hw, hestablished⟩ := hall expectation hexpectation
      obtain rfl : v = w := Option.some.inj (hget.symm.trans hw)
      exact hestablished
  · constructor
    · intro hall identifier item hget
      exact hall item (Dict.mem_values_iff.mpr ⟨identifier, hget⟩)
    · intro hall item hitem
      obtain ⟨identifier, hget⟩ := Dict.mem_values_iff.mp hitem
      exact hall identifier item hget

end ConfigurationApplicator

namespace ConfigurationApplicator

variable {applicator : ConfigurationApplicator} {plan : ConfigurationPlan}
  {request : ApplyRequest} {deployedNames : Dict String String} {trace trace' : List RuntimeEvent}
  {results : Dict String ActionApplicationResult} {deferred : List ConfigurationAction}
  {deferSignal : Bool}

/-! ## The second stage -/

/-- The three ways in which the second stage of the deferred actions ends. -/
inductive SignalStage (deployedNames : Dict String String)
    (results : Dict String ActionApplicationResult) (deferred : List ConfigurationAction)
    (deferSignal : Bool) (foundationStatus : ActionExecutionStatus) (trace : List RuntimeEvent) :
    Dict String ActionApplicationResult → List RuntimeEvent → Prop
  /-- The signals wait for `complete_deferred_voice_signals`. -/
  | pending (hflag : deferSignal = true) (hfoundation : foundationStatus = .verified) :
      SignalStage deployedNames results deferred deferSignal foundationStatus trace
        (Dict.ofList (deferred.map fun action => (action.id, pendingSignalResult action))) trace
  /-- The original actions are dispatched. -/
  | dispatched (hflag : deferSignal = false) (hfoundation : foundationStatus = .verified)
      (answer : Except String (List RuntimeActionMutation)) :
      SignalStage deployedNames results deferred deferSignal foundationStatus trace
        (dispatchResults deferred answer)
        (trace ++ [.applyActions (deferred.map (runtimeAction deployedNames [])) answer])
  /-- The foundation does not allow the signals. -/
  | held (hfoundation : foundationStatus ≠ .verified)
      (preparations : List ActionApplicationResult)
      (hpreparations :
        (deferred.map ConfigurationAction.id).map results.get? = preparations.map some) :
      SignalStage deployedNames results deferred deferSignal foundationStatus trace
        (Dict.ofList ((deferred.zip preparations).map fun item =>
          (item.1.id, heldSignalResult item.1 item.2))) trace

/-- **The second stage** does not raise and ends in one of the three ways. -/
lemma ensures_signalStage {preparation : List ActionApplicationResult}
    {foundationStatus : ActionExecutionStatus}
    (hkeyed : ∀ identifier result, results.get? identifier = some result →
      result.actionId = identifier)
    (hpreparation :
      (deferred.map ConfigurationAction.id).map results.get? = preparation.map some) :
    (applicator.signalStage deferred deployedNames preparation foundationStatus
      deferSignal).Ensures trace
      (SignalStage deployedNames results deferred deferSignal foundationStatus trace)
      fun _ _ => False := by
  unfold signalStage
  by_cases hfoundation : foundationStatus = .verified
  · cases hflag : deferSignal with
    | true =>
      rw [if_pos ⟨rfl, hfoundation⟩]
      exact .pending rfl hfoundation
    | false =>
      rw [if_neg (by simp), if_pos hfoundation]
      simp only [applyReadyActions, ensures_bind, Interaction.ensures_exchange,
        Interaction.ensures_pure]
      exact .dispatched rfl hfoundation _
  · rw [if_neg (fun h => hfoundation h.2), if_neg hfoundation]
    simp only [ensures_bind, subscripts_ofList_self hpreparation hkeyed]
    exact .held hfoundation preparation hpreparation

lemma SignalStage.dispatched_or_eq {foundationStatus : ActionExecutionStatus}
    {signals : Dict String ActionApplicationResult}
    (h : SignalStage deployedNames results deferred deferSignal foundationStatus trace signals
      trace') :
    (deferSignal = false ∧ foundationStatus = .verified ∧ ∃ answer,
        signals = dispatchResults deferred answer ∧
        trace' = trace ++
          [.applyActions (deferred.map (runtimeAction deployedNames [])) answer]) ∨
      (deferSignal = false → foundationStatus ≠ .verified) ∧ trace' = trace := by
  cases h with
  | pending hflag _ => exact Or.inr ⟨fun h => by simp [h] at hflag, rfl⟩
  | dispatched hflag hfoundation answer => exact Or.inl ⟨hflag, hfoundation, answer, rfl, rfl⟩
  | held hfoundation => exact Or.inr ⟨fun _ => hfoundation, rfl⟩

/-- The second stage has a result for exactly the deferred actions. -/
lemma SignalStage.domain {foundationStatus : ActionExecutionStatus}
    {signals : Dict String ActionApplicationResult}
    (h : SignalStage deployedNames results deferred deferSignal foundationStatus trace signals
      trace') (identifier : String) :
    (signals.get? identifier).isSome ↔ identifier ∈ deferred.map ConfigurationAction.id := by
  cases h with
  | pending => simp [Dict.isSome_get?_ofList_iff, Function.comp_def]
  | dispatched => exact isSome_get?_dispatchResults
  | held _ preparations hpreparations =>
    rw [Dict.isSome_get?_ofList_iff, List.map_map]
    have hlength := length_eq_of_map_get?_eq hpreparations
    have hfst : (deferred.zip preparations).map Prod.fst = deferred :=
      List.map_fst_zip (by rw [hlength, List.length_map])
    have hcomp : (deferred.zip preparations).map (Prod.fst ∘ fun item =>
        (item.1.id, heldSignalResult item.1 item.2)) = deferred.map ConfigurationAction.id := by
      conv_rhs => rw [← hfst, List.map_map]
      rfl
    rw [hcomp]

lemma get?_held {preparations : List ActionApplicationResult}
    (hpreparations :
      (deferred.map ConfigurationAction.id).map results.get? = preparations.map some)
    {identifier : String} {result : ActionApplicationResult}
    (hget : (Dict.ofList ((deferred.zip preparations).map fun item =>
      (item.1.id, heldSignalResult item.1 item.2))).get? identifier = some result) :
    ∃ action ∈ deferred, ∃ preparation, action.id = identifier ∧
      results.get? identifier = some preparation ∧
      result = heldSignalResult action preparation := by
  obtain ⟨⟨action, preparation⟩, hmem, rfl, rfl⟩ := Dict.exists_of_get?_ofList hget
  obtain ⟨haction, hlookup⟩ := (mem_zip_iff_of_map_get?_eq hpreparations).mp hmem
  exact ⟨action, haction, preparation, rfl, hlookup, rfl⟩

/-- The results of the second stage carry the identifier they are stored under. -/
lemma SignalStage.keyed {foundationStatus : ActionExecutionStatus}
    {signals : Dict String ActionApplicationResult}
    (h : SignalStage deployedNames results deferred deferSignal foundationStatus trace signals
      trace')
    (hkeyed : ∀ identifier result, results.get? identifier = some result →
      result.actionId = identifier)
    (identifier : String) (result : ActionApplicationResult)
    (hget : signals.get? identifier = some result) : result.actionId = identifier := by
  cases h with
  | pending =>
    obtain ⟨action, -, rfl, rfl⟩ := Dict.exists_of_get?_ofList hget
    rfl
  | dispatched => exact (spec_get?_dispatchResults hget).1
  | held _ preparations hpreparations =>
    obtain ⟨action, -, preparation, rfl, hlookup, rfl⟩ := get?_held hpreparations hget
    unfold heldSignalResult
    split
    · rfl
    · exact hkeyed _ _ hlookup

/-! ## The barrier -/

/-- The stages of one run of the barrier. -/
structure BarrierRun where
  foundation : FoundationOutcome
  /-- The history when the foundation was judged. -/
  judged : List RuntimeEvent
  signals : Dict String ActionApplicationResult
  /-- The history when the second stage was over. -/
  signalled : List RuntimeEvent
  /-- The results of all expectations. -/
  verified : Dict String VerificationResult

/-- How the outcome of the barrier relates to its stages. -/
structure BarrierSpec (plan : ConfigurationPlan) (results : Dict String ActionApplicationResult)
    (deferred : List ConfigurationAction) (deployedNames : Dict String String)
    (deferSignal : Bool) (trace : List RuntimeEvent) (run : BarrierRun) (outcome : BarrierOutcome)
    (trace' : List RuntimeEvent) : Prop where
  quietBefore : QuietlyExtends trace run.judged
  foundation : FoundationSpec plan results deferred run.foundation run.judged
  signal : SignalStage deployedNames results deferred deferSignal
    run.foundation.foundationStatus run.judged run.signals run.signalled
  quietAfter : QuietlyExtends run.signalled trace'
  actions : (plan.actions.map ConfigurationAction.id).map (results.update run.signals).get? =
    outcome.actionResults.map some
  verifications : (plan.verificationExpectations.map VerificationExpectation.id).map
    run.verified.get? = outcome.verificationResults.map some
  verifiedKeyed : ∀ identifier item, run.verified.get? identifier = some item →
    item.expectationId = identifier
  /-- Where no expectation of a deferred action has the identifier, the first stage decides. -/
  preSignal : ∀ identifier, identifier ∉ (postSignalExpectations plan
      (deferred.map ConfigurationAction.id)).map VerificationExpectation.id →
    run.verified.get? identifier = run.foundation.preSignalResults.get? identifier
  barrier : ∃ barrier, outcome.barrier = some barrier ∧
    (∀ identifier, identifier ∈ barrier.deferredActionIds ↔
      identifier ∈ deferred.map ConfigurationAction.id) ∧
    barrier.foundationStatus = run.foundation.foundationStatus ∧
    (barrier.signalStatus = .intended →
      deferSignal = true ∧ run.foundation.foundationStatus = .verified)

lemma BarrierSpec.keyed {run : BarrierRun} {outcome : BarrierOutcome}
    (h : BarrierSpec plan results deferred deployedNames deferSignal trace run outcome trace')
    (hkeyed : ∀ identifier result, results.get? identifier = some result →
      result.actionId = identifier)
    (identifier : String) (result : ActionApplicationResult)
    (hget : (results.update run.signals).get? identifier = some result) :
    result.actionId = identifier := by
  rw [Dict.get?_update] at hget
  cases hsignal : run.signals.get? identifier with
  | some signal =>
    rw [hsignal, Option.some_or] at hget
    exact h.signal.keyed hkeyed identifier result (hsignal.trans hget)
  | none =>
    rw [hsignal, Option.none_or] at hget
    exact hkeyed identifier result hget

lemma voiceSignalStatus_ne_intended (signalResults : List ActionApplicationResult)
    (verificationResults : List VerificationResult) (status : ActionExecutionStatus) :
    voiceSignalStatus signalResults verificationResults status ≠ .intended := by
  unfold voiceSignalStatus
  split_ifs <;> simp

/-- **The barrier** does not raise. -/
lemma ensures_crossVoiceSignalBarrier
    (hdeferred : ∀ action ∈ deferred, action ∈ plan.actions)
    (hkeyed : ∀ identifier result, results.get? identifier = some result →
      result.actionId = identifier)
    (hcovered : ∀ action ∈ plan.actions, (results.get? action.id).isSome) :
    (applicator.crossVoiceSignalBarrier plan results deferred deployedNames deferSignal).Ensures
      trace
      (fun outcome trace' => ∃ run, BarrierSpec plan results deferred deployedNames deferSignal
        trace run outcome trace')
      fun _ _ => False := by
  unfold crossVoiceSignalBarrier
  simp only [ensures_bind]
  refine (ensures_verifyFoundation hdeferred hcovered).imp fun foundation judged hfoundation => ?_
  obtain ⟨hbefore, hspec⟩ := hfoundation
  refine (ensures_signalStage hkeyed hspec.preparations).imp fun signals signalled hsignal => ?_
  have hupdated : ∀ key ∈ plan.actions.map ConfigurationAction.id,
      ((results.update signals).get? key).isSome := by
    intro key hkey
    obtain ⟨action, haction, rfl⟩ := List.mem_map.mp hkey
    rw [Dict.get?_update, Option.isSome_or, hcovered action haction, Bool.or_true]
  refine ensures_subscripts hupdated fun actionResults hactions => ?_
  set deferredIds := deferred.map ConfigurationAction.id with hdeferredIds
  -- both ways of verifying the rest end with results for exactly its expectations
  have hrest : ∀ (post : Applying (Dict String VerificationResult)) (signalDeferred : Bool),
      (signalDeferred = true →
        deferSignal = true ∧ foundation.foundationStatus = .verified) →
      post.Ensures signalled (fun postResults trace' =>
        QuietlyExtends signalled trace' ∧
        (∀ identifier item, postResults.get? identifier = some item →
          item.expectationId = identifier) ∧
        ∀ identifier, (postResults.get? identifier).isSome ↔
          identifier ∈ (postSignalExpectations plan deferredIds).map VerificationExpectation.id)
        (fun _ _ => False) →
      (post >>= fun postResults => do
        let verificationResults ← Interaction.ofExcept
          (subscripts (foundation.preSignalResults.update postResults)
            (plan.verificationExpectations.map VerificationExpectation.id))
        let signalStatus :=
          if signalDeferred = true then .intended
          else voiceSignalStatus signals.values postResults.values foundation.foundationStatus
        return { actionResults, verificationResults
                 barrier := some {
                    required := true
                    deferredActionIds := sortedBy id deferredIds
                    foundationExpectationIds :=
                      (foundationExpectations plan deferredIds).map VerificationExpectation.id
                    preparationResults := foundation.preparationResults
                    foundationVerificationResults := foundation.foundationResults
                    signalResults := signals.values
                    foundationStatus := foundation.foundationStatus
                    signalStatus := signalStatus
                    message := barrierMessage signalDeferred signalStatus } :
                  BarrierOutcome }).Ensures signalled
        (fun outcome trace' => ∃ run, BarrierSpec plan results deferred deployedNames deferSignal
          trace run outcome trace')
        fun _ _ => False := by
    intro post signalDeferred hflag hpost
    refine hpost.bind fun postResults trace' hpost => ?_
    obtain ⟨hafter, hpostKeyed, hpostDomain⟩ := hpost
    have hverified : ∀ key ∈ plan.verificationExpectations.map VerificationExpectation.id,
        ((foundation.preSignalResults.update postResults).get? key).isSome := by
      intro key hkey
      obtain ⟨expectation, hexpectation, rfl⟩ := List.mem_map.mp hkey
      rw [Dict.get?_update, Option.isSome_or, Bool.or_eq_true]
      by_cases hid : expectation.actionId ∈ deferredIds
      · left
        rw [hpostDomain]
        exact List.mem_map_of_mem (List.mem_filter.mpr ⟨hexpectation, decide_eq_true hid⟩)
      · right
        rw [hspec.preSignal.domain]
        exact List.mem_map_of_mem (List.mem_filter.mpr ⟨hexpectation, decide_eq_true hid⟩)
    rw [ensures_bind]
    refine ensures_subscripts hverified fun verificationResults hverifications => ?_
    refine ⟨⟨foundation, judged, signals, signalled,
      foundation.preSignalResults.update postResults⟩, ?_⟩
    refine
      { quietBefore := hbefore
        foundation := hspec
        signal := hsignal
        quietAfter := hafter
        actions := hactions
        verifications := hverifications
        verifiedKeyed := fun identifier item hget => ?_
        preSignal := fun identifier hidentifier => ?_
        barrier := ⟨_, rfl, fun identifier => mem_sortedBy, rfl, fun hintended => ?_⟩ }
    · rw [Dict.get?_update] at hget
      cases hget' : postResults.get? identifier with
      | some item' =>
        rw [hget', Option.some_or] at hget
        exact hpostKeyed identifier item (hget'.trans hget)
      | none =>
        rw [hget', Option.none_or] at hget
        exact hspec.preSignal.keyed identifier item hget
    · have hnone : postResults.get? identifier = none := by
        rw [← Option.not_isSome_iff_eq_none, hpostDomain]
        exact hidentifier
      rw [Dict.get?_update, hnone, Option.none_or]
    · refine hflag ?_
      by_contra hnot
      rw [Bool.not_eq_true] at hnot
      subst hnot
      exact voiceSignalStatus_ne_intended _ _ _ hintended
  cases hflag : decide (deferSignal = true ∧ foundation.foundationStatus = .verified) with
  | true =>
    refine hrest _ true (fun _ => of_decide_eq_true hflag) ?_
    refine ⟨QuietlyExtends.refl _, fun identifier item hget => ?_, fun identifier => ?_⟩
    · obtain ⟨expectation, -, rfl, rfl⟩ := Dict.exists_of_get?_ofList hget
      rfl
    · rw [Dict.isSome_get?_ofList_iff, List.map_map]
      rfl
  | false =>
    refine hrest _ false (fun h => by cases h) ?_
    exact ensures_verifySubset.mono
      (fun postResults trace' h => ⟨h.1, h.2.keyed, h.2.domain⟩) fun e trace hE => hE

/-- How the outcome of a plan without deferred actions relates to the results. -/
structure UnbarredSpec (plan : ConfigurationPlan) (results : Dict String ActionApplicationResult)
    (trace : List RuntimeEvent) (outcome : BarrierOutcome) (trace' : List RuntimeEvent) :
    Prop where
  quiet : QuietlyExtends trace trace'
  actions : (plan.actions.map ConfigurationAction.id).map results.get? =
    outcome.actionResults.map some
  verifications : outcome.verificationResults.map VerificationResult.expectationId =
    plan.verificationExpectations.map VerificationExpectation.id
  barrier : outcome.barrier = none

/-- **Verification without deferred actions** does not raise. -/
lemma ensures_verifyWithoutBarrier
    (hcovered : ∀ action ∈ plan.actions, (results.get? action.id).isSome) :
    (applicator.verifyWithoutBarrier plan results deployedNames).Ensures trace
      (UnbarredSpec plan results trace) fun _ _ => False := by
  unfold verifyWithoutBarrier
  simp only [ensures_bind]
  have hids : ∀ key ∈ plan.actions.map ConfigurationAction.id, (results.get? key).isSome := by
    intro key hkey
    obtain ⟨action, haction, rfl⟩ := List.mem_map.mp hkey
    exact hcovered action haction
  refine ensures_subscripts hids fun actionResults hactions => ?_
  refine ensures_verifySubset.imp fun observed trace' h => ?_
  obtain ⟨hquiet, hspec⟩ := h
  refine ensures_subscripts (fun key hkey => (hspec.domain key).mpr hkey)
    fun verificationResults hverifications => ?_
  exact ⟨hquiet, hactions, map_eq_of_map_get?_eq hverifications hspec.keyed, rfl⟩

/-! ## The report -/

/-- How the report of `apply` relates to the outcome of the barrier. -/
structure ReportSpec (plan : ConfigurationPlan) (mutationIds : List String)
    (outcome : BarrierOutcome) (report : ConfigurationApplicationResult) : Prop where
  status : report.status =
    (overallStatus outcome.actionResults outcome.verificationResults).1
  actionResults : report.actionResults = outcome.actionResults
  verificationResults : report.verificationResults = outcome.verificationResults
  mutationActionIds : report.mutationActionIds =
    (plan.actions.map ConfigurationAction.id).filter (· ∈ mutationIds)
  preflightErrors : report.preflightErrors = []
  barrier : report.voiceSignalBarrier = outcome.barrier
  journal : ∃ deploymentId journal, report.executionJournal = some journal ∧
    mutationJournal plan deploymentId mutationIds outcome.actionResults = .ok journal ∧
    report.dirtyState = journal.dirtyState

lemma exists_mutationJournal (plan : ConfigurationPlan) (deploymentId : String)
    (mutationIds : List String) (actionResults : List ActionApplicationResult) :
    ∃ journal, mutationJournal plan deploymentId mutationIds actionResults = .ok journal ∧
      journal.Unjudged ∧ journal.entries = journalEntries
        (Dict.ofList (plan.actions.map fun item => (item.id, item))) 1
        (actionResults.filter (·.actionId ∈ mutationIds)) := by
  obtain ⟨journal, hjournal, hspec⟩ := exists_journalFromActionResults plan.id
    deploymentId plan.actions (actionResults.filter (·.actionId ∈ mutationIds))
  exact ⟨journal, by rw [mutationJournal, hjournal]; rfl, hspec⟩

lemma ensures_applicationResult {mutationIds : List String} {outcome : BarrierOutcome} :
    (Interaction.ofExcept (applicationResult plan request mutationIds outcome) :
      Applying ConfigurationApplicationResult).Ensures trace
      (fun report trace' => trace' = trace ∧ ReportSpec plan mutationIds outcome report)
      fun _ _ => False := by
  obtain ⟨journal, hjournal, -⟩ := exists_mutationJournal plan request.deploymentId mutationIds
    outcome.actionResults
  rw [ensures_ofExcept]
  simp only [applicationResult, hjournal, bind, Except.bind, pure, Except.pure]
  refine ⟨fun report hreport => ?_, fun e he => by cases he⟩
  cases hreport
  exact ⟨trivial, rfl, rfl, rfl, rfl, rfl, rfl, request.deploymentId, journal, rfl, hjournal, rfl⟩

/-- The stage between the main loop and the report. -/
inductive VoiceStage (plan : ConfigurationPlan) (request : ApplyRequest)
    (prepared : PreparedApplication) (results : Dict String ActionApplicationResult)
    (trace : List RuntimeEvent) (outcome : BarrierOutcome) (trace' : List RuntimeEvent) : Prop
  | unbarred (hdeferred : deferredVoiceActions plan request prepared.scope = [])
      (spec : UnbarredSpec plan results trace outcome trace')
  | crossed (hdeferred : deferredVoiceActions plan request prepared.scope ≠ []) (run : BarrierRun)
      (spec : BarrierSpec plan results (deferredVoiceActions plan request prepared.scope)
        prepared.deployedNames request.deferVoiceSignalUntilBootstrap trace run outcome trace')

/-- The stages of one run of `apply` on an accepted plan. -/
structure AppliedRun where
  prepared : PreparedApplication
  /-- The results of the main loop. -/
  results : Dict String ActionApplicationResult
  /-- The history when the main loop was over. -/
  looped : List RuntimeEvent
  outcome : BarrierOutcome

/-- How the report of `apply` on an accepted plan relates to the stages of the run. -/
structure AppliedSpec (plan : ConfigurationPlan) (request : ApplyRequest) (run : AppliedRun)
    (report : ConfigurationApplicationResult) (trace : List RuntimeEvent) : Prop where
  accepted : AcceptedPlan plan request run.prepared
  loop : LoopInvariant plan run.prepared
    ((deferredVoiceActions plan request run.prepared.scope).map ConfigurationAction.id)
    run.results run.looped
  phases : PhasesDone plan
    (capabilityRefusalResults run.prepared.refusals run.prepared.scope.retained) (phases plan)
    run.results run.looped
  covered : ∀ action ∈ plan.actions, (run.results.get? action.id).isSome
  voice : VoiceStage plan request run.prepared run.results run.looped run.outcome trace
  report : ReportSpec plan run.prepared.scope.mutationIds run.outcome report

/-- How `apply` refuses a plan: it dispatches nothing and reports no results. -/
structure RefusedSpec (report : ConfigurationApplicationResult) (trace : List RuntimeEvent) :
    Prop where
  quiet : Quiet trace
  preflightErrors : report.preflightErrors ≠ []
  status : report.status = .failed
  retainedActionIds : report.retainedActionIds = []
  barrier : report.voiceSignalBarrier = none
  journal : ∃ journal, report.executionJournal = some journal ∧ journal.Unjudged ∧
    journal.entries = [] ∧ report.dirtyState = journal.dirtyState

/-- How `apply` ends when it returns. -/
inductive ApplySpec (plan : ConfigurationPlan) (request : ApplyRequest)
    (report : ConfigurationApplicationResult) (trace : List RuntimeEvent) : Prop
  | refused (spec : RefusedSpec report trace)
  | applied (run : AppliedRun) (spec : AppliedSpec plan request run report trace)

/-- How `apply` ends when it raises: in the preflight without any dispatch, or by the phase
observer. -/
def RaisedInApply (plan : ConfigurationPlan) (request : ApplyRequest) (error : RaisedError)
    (trace : List RuntimeEvent) : Prop :=
  Quiet trace ∨ ∃ prepared, AcceptedPlan plan request prepared ∧
    RaisedInLoop plan prepared
      ((deferredVoiceActions plan request prepared.scope).map ConfigurationAction.id) error trace

/-- The report of a refused preflight. -/
lemma ensures_preflightFailure {refusal : Refusal} (hmessages : refusal.messages ≠ [])
    (hquiet : Quiet trace) :
    (Interaction.ofExcept (preflightFailure plan request refusal) :
      Applying ConfigurationApplicationResult).Ensures trace RefusedSpec fun _ _ => False := by
  obtain ⟨journal, hjournal, hunjudged, hentries⟩ := exists_journalFromActionResults plan.id
    request.deploymentId plan.actions []
  have hmarked : ∀ (messages : List String) (journal : ApplicationExecutionJournal),
      journal.Unjudged ∧ journal.entries = [] →
      (messages.foldl ApplicationExecutionJournal.markPreflightFailure journal).Unjudged ∧
        (messages.foldl ApplicationExecutionJournal.markPreflightFailure journal).entries = [] := by
    intro messages
    induction messages with
    | nil => exact fun _ h => h
    | cons message messages ih =>
      exact fun journal h => ih _ ⟨h.1.markPreflightFailure message, h.2⟩
  obtain ⟨hstill, hnone⟩ := hmarked refusal.messages journal ⟨hunjudged, hentries⟩
  rw [ensures_ofExcept]
  simp only [preflightFailure, hjournal, Except.mapError, bind, Except.bind, pure, Except.pure]
  refine ⟨fun report hreport => ?_, fun e he => by cases he⟩
  cases hreport
  exact ⟨hquiet, hmessages, rfl, rfl, rfl, _, rfl, hstill, hnone, rfl⟩

/-- **`apply` after an accepted preflight.** -/
lemma ensures_applyPrepared {prepared : PreparedApplication}
    (hplan : AcceptedPlan plan request prepared) (hquiet : Quiet trace) :
    (applicator.applyPrepared plan request prepared).Ensures trace
      (fun report trace' => ∃ run, run.prepared = prepared ∧
        AppliedSpec plan request run report trace')
      (RaisedInLoop plan prepared
        ((deferredVoiceActions plan request prepared.scope).map ConfigurationAction.id)) := by
  simp only [applyPrepared, ensures_bind]
  refine (ensures_applyPhases hplan hquiet).imp fun results looped hloop => ?_
  obtain ⟨hinvariant, hphases⟩ := hloop
  have hcovered : ∀ action ∈ plan.actions, (results.get? action.id).isSome :=
    fun action haction => hphases.covered action haction
      (mem_sortedBy.mpr (List.mem_dedup.mpr (List.mem_map_of_mem haction)))
  have hvoice : (applicator.verifyWithVoiceSignalBarrier plan results
      (deferredVoiceActions plan request prepared.scope) prepared.deployedNames
      request.deferVoiceSignalUntilBootstrap).Ensures looped
      (VoiceStage plan request prepared results looped) fun _ _ => False := by
    unfold verifyWithVoiceSignalBarrier
    by_cases hdeferred : deferredVoiceActions plan request prepared.scope = []
    · rw [if_pos hdeferred]
      exact (ensures_verifyWithoutBarrier hcovered).imp fun outcome trace => .unbarred hdeferred
    · rw [if_neg hdeferred]
      exact (ensures_crossVoiceSignalBarrier (fun action h => (List.mem_filter.mp h).1)
        hinvariant.keyed hcovered).imp fun outcome trace h =>
          h.elim (.crossed hdeferred)
  refine hvoice.mono (fun outcome trace hvoice => ?_) fun e trace hE => hE.elim
  refine ensures_applicationResult.mono (fun report trace' hreport => ?_)
    fun e trace hE => hE.elim
  obtain ⟨rfl, hreport⟩ := hreport
  exact ⟨⟨prepared, results, looped, outcome⟩, rfl,
    ⟨hplan, hinvariant, hphases, hcovered, hvoice, hreport⟩⟩

/-- **`apply`.** -/
theorem ensures_apply :
    (applicator.apply plan request).Ensures [] (ApplySpec plan request)
      (RaisedInApply plan request) := by
  unfold apply
  rw [ensures_bind]
  refine ensures_preflight.mono (fun outcome trace h => ?_) fun e trace hE => Or.inl hE
  obtain ⟨hquiet, hrefused, haccepted⟩ := h
  rcases outcome with refusal | prepared
  · exact (ensures_preflightFailure (hrefused refusal rfl) hquiet).mono
      (fun report trace h => .refused h) fun e trace hE => hE.elim
  have hplan := haccepted prepared rfl
  exact (ensures_applyPrepared hplan hquiet).mono
    (fun report trace ⟨run, _, spec⟩ => .applied run spec)
    fun e trace hE => Or.inr ⟨prepared, hplan, hE⟩

lemma applySpec_of_run (h : ((applicator.apply plan request).run []).1 = .ok report) :
    ApplySpec plan request report ((applicator.apply plan request).run []).2 :=
  ensures_apply.of_run_eq_ok (Prod.ext h rfl)

end ConfigurationApplicator

end PacketTracer
