import PacketTracer.Application.ApplyConfiguration
import PacketTracer.Domain.DependencyOrder

/-!
# What an accepted preflight establishes

What an exchange with the runtime says about actions and expectations, and `AcceptedPlan`, the facts
about a plan, its arguments and its mutation scope that the main loop relies on.  The preflight asks
the runtime for nothing but its inventory.
-/

namespace PacketTracer

open Dicts Interactions Fallible PyText

/-! ## Look-ups that may raise -/

section Subscript

variable {ν : Type} {d : Dict String ν} {v : ν} {keys : List String} {vs : List ν}

@[simp] lemma subscript_eq_ok {key : String} : subscript d key = .ok v ↔ d.get? key = some v := by
  unfold subscript
  cases d.get? key <;> simp

/-- A list of look-ups answers exactly when every key is present. -/
lemma subscripts_eq_ok : subscripts d keys = .ok vs ↔ keys.map d.get? = vs.map some := by
  induction keys generalizing vs with
  | nil =>
    cases vs with
    | nil | cons v vs => simp [subscripts, pure, Except.pure]
  | cons key keys ih =>
    have hcons : subscripts d (key :: keys) = do
        let v ← subscript d key
        let vs ← subscripts d keys
        return v :: vs := by
      simp [subscripts, List.mapM_cons]
    rw [hcons]
    cases hkey : subscript d key with
    | error e =>
      have hnone : d.get? key = none := by
        unfold subscript at hkey
        cases h : d.get? key with
        | none => rfl
        | some v => simp [h] at hkey
      cases vs <;> simp [bind, Except.bind, hnone]
    | ok v =>
      have hv := subscript_eq_ok.mp hkey
      cases hrest : subscripts d keys with
      | error e =>
        rcases vs with _ | ⟨w, ws⟩
        · simp [bind, Except.bind]
        have hne : ¬keys.map d.get? = ws.map some := fun h => by
          have hok := ih.mpr h
          simp [hrest] at hok
        simp [bind, Except.bind, hne]
      | ok us =>
        have hus := ih.mp hrest
        rcases vs with _ | ⟨w, ws⟩
        · simp [bind, Except.bind, pure, Except.pure]
        simp only [bind, Except.bind, pure, Except.pure, Except.ok.injEq, List.cons.injEq,
          List.map_cons, hv, Option.some.injEq, hus]
        refine and_congr_right fun _ => ?_
        constructor
        · rintro rfl
          rfl
        · intro h
          exact List.map_injective_iff.mpr (Option.some_injective ν) h

lemma exists_subscripts_eq_ok (h : ∀ key ∈ keys, (d.get? key).isSome) :
    ∃ vs, subscripts d keys = .ok vs := by
  induction keys with
  | nil => exact ⟨[], subscripts_eq_ok.mpr rfl⟩
  | cons key keys ih =>
    obtain ⟨vs, hvs⟩ := ih fun k hk => h k (List.mem_cons_of_mem key hk)
    obtain ⟨v, hv⟩ := Option.isSome_iff_exists.mp (h key List.mem_cons_self)
    refine ⟨v :: vs, subscripts_eq_ok.mpr ?_⟩
    rw [List.map_cons, List.map_cons, hv, subscripts_eq_ok.mp hvs]

lemma ensures_subscripts {ι : Type} {history : List ι} {Q : List ν → List ι → Prop}
    {E : RaisedError → List ι → Prop} (h : ∀ key ∈ keys, (d.get? key).isSome)
    (hQ : ∀ vs, keys.map d.get? = vs.map some → Q vs history) :
    (Interaction.ofExcept (subscripts d keys) : Interaction ι RaisedError (List ν)).Ensures
      history Q E := by
  obtain ⟨vs, hvs⟩ := exists_subscripts_eq_ok h
  rw [Interaction.ensures_ofExcept, hvs]
  refine ⟨fun a ha => ?_, fun e he => by simp at he⟩
  obtain rfl : vs = a := by simpa using ha
  exact hQ vs (subscripts_eq_ok.mp hvs)

variable {α : Type} {keyOf : α → String} {items : List α}

lemma mem_of_map_get?_eq (h : (items.map keyOf).map d.get? = vs.map some) {item : α}
    (hitem : item ∈ items) : ∃ v ∈ vs, d.get? (keyOf item) = some v := by
  have hmem : d.get? (keyOf item) ∈ vs.map some := by
    rw [← h]
    exact List.mem_map_of_mem (List.mem_map_of_mem hitem)
  obtain ⟨v, hv, heq⟩ := List.mem_map.mp hmem
  exact ⟨v, hv, heq.symm⟩

lemma exists_of_mem_of_map_get?_eq (h : (items.map keyOf).map d.get? = vs.map some) (hv : v ∈ vs) :
    ∃ item ∈ items, d.get? (keyOf item) = some v := by
  have hmem : some v ∈ (items.map keyOf).map d.get? := by
    rw [h]
    exact List.mem_map_of_mem hv
  obtain ⟨key, hkey, hget⟩ := List.mem_map.mp hmem
  obtain ⟨item, hitem, rfl⟩ := List.mem_map.mp hkey
  exact ⟨item, hitem, hget⟩

lemma map_eq_of_map_get?_eq {keyOf : ν → String} (h : keys.map d.get? = vs.map some)
    (hkeyed : ∀ key v, d.get? key = some v → keyOf v = key) : vs.map keyOf = keys := by
  induction keys generalizing vs with
  | nil =>
    cases vs with
    | nil => rfl
    | cons v vs => simp at h
  | cons key keys ih =>
    cases vs with
    | nil => simp at h
    | cons v vs =>
      obtain ⟨hv, hvs⟩ := List.cons.inj h
      rw [List.map_cons, ih hvs, hkeyed key v hv]

lemma mem_iff_of_map_get?_eq {keyOf : ν → String} (h : keys.map d.get? = vs.map some)
    (hkeyed : ∀ key v, d.get? key = some v → keyOf v = key) :
    v ∈ vs ↔ keyOf v ∈ keys ∧ d.get? (keyOf v) = some v := by
  rw [← List.map_id keys] at h
  constructor
  · intro hv
    obtain ⟨key, hkey, hget⟩ := exists_of_mem_of_map_get?_eq h hv
    obtain rfl : keyOf v = key := hkeyed key v hget
    exact ⟨hkey, hget⟩
  · rintro ⟨hkey, hget⟩
    obtain ⟨w, hw, hget'⟩ := mem_of_map_get?_eq h hkey
    obtain rfl : w = v := Option.some.inj (hget'.symm.trans hget)
    exact hw

end Subscript

/-! ## Exchanges -/

namespace RuntimeEvent

/-- The actions that an exchange dispatched. -/
def dispatched : RuntimeEvent → List ConfigurationAction
  | applyActions actions _ => actions
  | _ => []

/-- The result that an exchange gave an action. -/
def result? (event : RuntimeEvent) (identifier : String) : Option ActionApplicationResult :=
  match event with
  | applyActions actions answer => (dispatchResults actions answer).get? identifier
  | _ => none

/-- The status that an exchange observed for an expectation it asked about. -/
def observedStatus? (event : RuntimeEvent) (identifier : String) : Option ActionExecutionStatus :=
  match event with
  | verify expectations answer =>
    if identifier ∈ expectations.map VerificationExpectation.id then
      ((ConfigurationApplicator.observedVerifications expectations answer).get? identifier).map
        RuntimeVerification.status
    else none
  | _ => none

end RuntimeEvent

/-- The exchanges dispatched nothing. -/
def Quiet (events : List RuntimeEvent) : Prop := ∀ event ∈ events, event.dispatched = []

lemma quiet_nil : Quiet [] := fun _ h => absurd h List.not_mem_nil

variable {more : List RuntimeEvent}

lemma Quiet.append {events : List RuntimeEvent} (h : Quiet events) (hmore : Quiet more) :
    Quiet (events ++ more) := by
  intro event hevent
  rcases List.mem_append.mp hevent with hevent | hevent
  · exact h event hevent
  · exact hmore event hevent

/-- The second history extends the first one by exchanges that dispatched nothing. -/
def QuietlyExtends (trace trace' : List RuntimeEvent) : Prop :=
  ∃ more, trace' = trace ++ more ∧ Quiet more

lemma QuietlyExtends.refl (trace : List RuntimeEvent) : QuietlyExtends trace trace :=
  ⟨[], by simp, quiet_nil⟩

variable {trace : List RuntimeEvent}

lemma QuietlyExtends.trans {trace' trace'' : List RuntimeEvent} (h : QuietlyExtends trace trace')
    (h' : QuietlyExtends trace' trace'') : QuietlyExtends trace trace'' := by
  obtain ⟨more, rfl, hmore⟩ := h
  obtain ⟨more', rfl, hmore'⟩ := h'
  exact ⟨more ++ more', by simp, hmore.append hmore'⟩

lemma quietlyExtends_concat {event : RuntimeEvent} (h : event.dispatched = []) :
    QuietlyExtends trace (trace ++ [event]) := by
  refine ⟨[event], rfl, fun e he => ?_⟩
  obtain rfl : e = event := by simpa using he
  exact h

lemma eachAfter_append_quiet {Q : List RuntimeEvent → RuntimeEvent → Prop}
    (h : EachAfter Q trace) (hmore : Quiet more)
    (hQ : ∀ before event, event.dispatched = [] → Q before event) :
    EachAfter Q (trace ++ more) := by
  induction more using List.reverseRecOn with
  | nil => simpa using h
  | append_singleton more event ih =>
    rw [← List.append_assoc, eachAfter_concat]
    refine ⟨ih fun e he => hmore e (List.mem_append_left _ he), hQ _ _ ?_⟩
    exact hmore event (List.mem_append_right _ (List.mem_singleton_self event))

/-- The identifiers of the dispatched actions, in the order of the dispatches. -/
def dispatchedIds (trace : List RuntimeEvent) : List String :=
  trace.flatMap fun event => event.dispatched.map ConfigurationAction.id

lemma mem_dispatchedIds {identifier : String} :
    identifier ∈ dispatchedIds trace ↔
      ∃ event ∈ trace, ∃ action ∈ event.dispatched, action.id = identifier := by
  simp [dispatchedIds]

lemma dispatchedIds_append (trace more : List RuntimeEvent) :
    dispatchedIds (trace ++ more) = dispatchedIds trace ++ dispatchedIds more := by
  simp [dispatchedIds]

lemma dispatchedIds_of_quiet (h : Quiet trace) : dispatchedIds trace = [] := by
  refine List.flatMap_eq_nil_iff.mpr fun event hevent => ?_
  rw [h event hevent, List.map_nil]

/-! ## Results of a dispatch -/

section Dispatch

variable {actions : List ConfigurationAction} {answer : Except String (List RuntimeActionMutation)}

@[simp] lemma id_runtimeAction (deployedNames : Dict String String) (dataOnly : List String)
    (action : ConfigurationAction) : (runtimeAction deployedNames dataOnly action).id = action.id :=
  rfl

@[simp] lemma operation_runtimeAction (deployedNames : Dict String String) (dataOnly : List String)
    (action : ConfigurationAction) :
    (runtimeAction deployedNames dataOnly action).operation = action.operation := by
  unfold ConfigurationAction.operation runtimeAction
  by_cases hdata : action.id ∈ dataOnly
  · cases h : action.detail <;> simp [hdata, ConfigurationActionDetail.withoutVoiceVlan]
  · simp [hdata]

lemma activatesVoiceVlan_runtimeAction (deployedNames : Dict String String)
    (dataOnly : List String) (action : ConfigurationAction) :
    (runtimeAction deployedNames dataOnly action).activatesVoiceVlan =
      (decide (action.id ∉ dataOnly) && action.activatesVoiceVlan) := by
  by_cases hdata : action.id ∈ dataOnly
  · simp [ConfigurationAction.activatesVoiceVlan, runtimeAction, hdata]
  · simp [ConfigurationAction.activatesVoiceVlan, runtimeAction, hdata]

/-- The results of a dispatch do not depend on how the actions were addressed. -/
lemma dispatchResults_map_runtimeAction (deployedNames : Dict String String)
    (dataOnly : List String) :
    dispatchResults (actions.map (runtimeAction deployedNames dataOnly)) answer =
      dispatchResults actions answer := by
  have hreported : reportedMutations (actions.map (runtimeAction deployedNames dataOnly)) answer =
      reportedMutations actions answer := by
    cases answer with
    | ok mutations => rfl
    | error message => simp [reportedMutations, Function.comp_def]
  have hresult : ∀ action mutation,
      dispatchResult (runtimeAction deployedNames dataOnly action) mutation =
        dispatchResult action mutation := by
    intro action mutation
    cases mutation <;> simp [dispatchResult]
  simp [dispatchResults, hreported, hresult, Function.comp_def]

variable {identifier : String}

lemma isSome_get?_dispatchResults :
    ((dispatchResults actions answer).get? identifier).isSome ↔
      identifier ∈ actions.map ConfigurationAction.id := by
  simp [dispatchResults, Dict.isSome_get?_ofList_iff, Function.comp_def]

variable {result : ActionApplicationResult}

lemma exists_of_get?_dispatchResults
    (h : (dispatchResults actions answer).get? identifier = some result) :
    ∃ action ∈ actions, action.id = identifier ∧
      result = dispatchResult action ((reportedMutations actions answer).get? identifier) := by
  obtain ⟨action, haction, rfl, rfl⟩ := Dict.exists_of_get?_ofList h
  exact ⟨action, haction, rfl, rfl⟩

@[simp] lemma actionId_dispatchResult (action : ConfigurationAction)
    (mutation : Option RuntimeActionMutation) :
    (dispatchResult action mutation).actionId = action.id := by
  cases mutation <;> rfl

lemma status_dispatchResult (action : ConfigurationAction)
    (mutation : Option RuntimeActionMutation) :
    satisfiesApplyDependency (dispatchResult action mutation).status ∨
      (dispatchResult action mutation).status = .failed := by
  rcases mutation with _ | mutation
  · exact Or.inr rfl
  cases happlied : mutation.applied with
  | true =>
    left
    simp [dispatchResult, happlied]
  | false =>
    right
    exact (mutationExecutionStatus_eq_failed_iff mutation).mpr happlied

lemma spec_get?_dispatchResults
    (h : (dispatchResults actions answer).get? identifier = some result) :
    result.actionId = identifier ∧
      (satisfiesApplyDependency result.status ∨ result.status = .failed) := by
  obtain ⟨action, -, rfl, rfl⟩ := exists_of_get?_dispatchResults h
  exact ⟨actionId_dispatchResult action _, status_dispatchResult action _⟩

end Dispatch

/-! ## The latest result of an action -/

/-- The last result of an action in a history that starts with retained results. -/
def latestResult (retained : Dict String ActionApplicationResult) (trace : List RuntimeEvent)
    (identifier : String) : Option ActionApplicationResult :=
  (trace.reverse.findSome? fun event => event.result? identifier).or (retained.get? identifier)

section Latest

variable {retained : Dict String ActionApplicationResult} {trace more : List RuntimeEvent}
  {identifier : String} {event : RuntimeEvent}

@[simp] lemma latestResult_nil : latestResult retained [] identifier = retained.get? identifier :=
  rfl

@[simp] lemma latestResult_concat :
    latestResult retained (trace ++ [event]) identifier =
      (event.result? identifier).or (latestResult retained trace identifier) := by
  simp only [latestResult, List.reverse_append, List.reverse_cons, List.reverse_nil,
    List.nil_append, List.cons_append, List.findSome?_cons]
  cases event.result? identifier <;> rfl

lemma result?_eq_none_of_quiet (h : event.dispatched = []) : event.result? identifier = none := by
  cases event with
  | applyActions actions answer =>
    obtain rfl : actions = [] := h
    have hsome : ¬((dispatchResults [] answer).get? identifier).isSome := by
      rw [isSome_get?_dispatchResults]
      simp
    simpa [RuntimeEvent.result?] using hsome
  | inventory answer => rfl
  | verify expectations answer => rfl
  | waitForVoiceAccessForwarding expectations answer => rfl

lemma latestResult_append_quiet (hmore : Quiet more) :
    latestResult retained (trace ++ more) identifier = latestResult retained trace identifier := by
  induction more using List.reverseRecOn with
  | nil => simp
  | append_singleton more event ih =>
    have hevent := hmore event (List.mem_append_right _ (List.mem_singleton_self event))
    rw [← List.append_assoc, latestResult_concat, result?_eq_none_of_quiet hevent, Option.none_or]
    exact ih fun e he => hmore e (List.mem_append_left _ he)

end Latest

/-- The retained results of a request, by action. -/
def ApplyRequest.retainedById (request : ApplyRequest) : Dict String ActionApplicationResult :=
  Dict.ofList (request.retainedActionResults.map fun item => (item.actionId, item))

namespace ConfigurationApplicator

/-- What an accepted mutation scope establishes. -/
structure SoundScope (plan : ConfigurationPlan) (request : ApplyRequest) (scope : MutationScope) :
    Prop where
  /-- The retained results are those of the request. -/
  retained_eq : scope.retained = request.retainedById
  /-- A retained result belongs to an action that is not mutated, and was applied. -/
  retained : ∀ identifier result, scope.retained.get? identifier = some result →
    result.actionId = identifier ∧ identifier ∉ scope.mutationIds ∧
      satisfiesApplyDependency result.status
  /-- An action that is not mutated is retained, and so are its dependencies. -/
  unmutated : ∀ action ∈ plan.actions, action.id ∉ scope.mutationIds →
    (scope.retained.get? action.id).isSome ∧ ∀ d ∈ action.dependsOn, d ∉ scope.mutationIds

/-- A mutation scope without errors is sound. -/
lemma soundScope_of_errors_eq_nil {plan : ConfigurationPlan} {request : ApplyRequest}
    (h : (mutationScope plan request.mutationActionIds request.retainedActionResults).errors = []) :
    SoundScope plan request
      (mutationScope plan request.mutationActionIds request.retainedActionResults) := by
  cases hids : request.mutationActionIds with
  | none =>
    by_cases hretained : request.retainedActionResults = []
    · refine ⟨?_, ?_, ?_⟩
      · simp [mutationScope, hretained, ApplyRequest.retainedById]
        rfl
      · intro identifier result hget
        simp [mutationScope, hretained] at hget
      · intro action haction hmutation
        refine absurd ?_ hmutation
        simp only [mutationScope, hretained, ne_eq, not_true_eq_false, if_false, List.mem_dedup]
        exact List.mem_map_of_mem haction
    · simp [mutationScope, hids, hretained] at h
  | some ids =>
    rw [hids] at h
    simp only [mutationScope, List.append_eq_nil_iff, listingError_eq_nil, sortedBy_eq_nil] at h
    obtain ⟨⟨⟨⟨⟨-, -⟩, hmissing⟩, hextra⟩, hinvalid⟩, hreverse⟩ := h
    obtain ⟨hheld, hkept⟩ := retained_of_checks rfl hmissing hextra hinvalid
    refine ⟨rfl, fun identifier result hget => ?_, fun action haction hmutation => ?_⟩
    · obtain ⟨-, hid, -, hmutation, hvalid⟩ := hheld identifier result hget
      have hget' : (Dict.ofList (request.retainedActionResults.map
          fun item => (item.actionId, item))).get? identifier = some result := hget
      simp only [hget', ite_eq_left_iff, reduceCtorEq, imp_false, Bool.not_eq_true,
        Bool.not_eq_false] at hvalid
      exact ⟨hid, hmutation, hvalid⟩
    · obtain ⟨hexpected, hsome⟩ := hkept action.id
        (List.mem_dedup.mpr (List.mem_map_of_mem haction)) hmutation
      refine ⟨hsome, fun d hd hmutated => ?_⟩
      refine List.filter_eq_nil_iff.mp (List.map_eq_nil_iff.mp (sortedBy_eq_nil.mp hreverse))
        action haction ?_
      simp only [decide_eq_true_eq, List.any_eq_true]
      exact ⟨hexpected, d, List.mem_append_left _ hd, hmutated⟩

/-- What an accepted preflight establishes. -/
structure AcceptedPlan (plan : ConfigurationPlan) (request : ApplyRequest)
    (prepared : PreparedApplication) : Prop extends SoundScope plan request prepared.scope where
  /-- The mutation scope is that of the request. -/
  scope_eq : prepared.scope =
    mutationScope plan request.mutationActionIds request.retainedActionResults
  /-- Identifiers are unique. -/
  nodup : (plan.actions.map ConfigurationAction.id).Nodup
  /-- Dependencies are actions of the plan. -/
  closed : ∀ action ∈ plan.actions, ∀ d ∈ action.dependsOn,
    d ∈ plan.actions.map ConfigurationAction.id
  /-- A retained deferred Voice action is retained and activates a Voice VLAN. -/
  deferred : ∀ identifier ∈ request.retainedDeferredVoiceActionIds,
    identifier ∉ prepared.scope.mutationIds ∧
      ∃ action ∈ plan.actions, action.id = identifier ∧ action.activatesVoiceVlan
  /-- Retained deferred Voice actions come with the barrier. -/
  deferFlag : request.retainedDeferredVoiceActionIds ≠ [] →
    request.deferVoiceSignalUntilBootstrap = true
  /-- Only mutations are refused for their capability. -/
  refusals : ∀ refusal ∈ prepared.refusals, refusal.action.id ∈ prepared.scope.mutationIds

/-- The runtime name of every device of the plan that has a target. -/
def runtimeNames (plan : ConfigurationPlan) (targets : Dict String RuntimeConfigurationTarget) :
    Dict String String :=
  Dict.ofList (plan.devices.filterMap fun item =>
    (targets.get? item.deviceName).map fun target => (item.deviceId, target.deviceName))

section Preflight

variable {applicator : ConfigurationApplicator} {plan : ConfigurationPlan} {request : ApplyRequest}
  {scope : MutationScope}

/-- What the checks before the inventory establish. -/
lemma spec_staticPreflight (h : applicator.staticPreflight plan request = .ok scope) :
    request.actualSourceTopologyHash = plan.sourceTopologyHash ∧
      applicator.manifestPreflight plan request = .ok () ∧
      orderDependencyActions plan.actions = .ok plan.actions ∧
      scope = mutationScope plan request.mutationActionIds request.retainedActionResults ∧
      scope.errors = [] ∧ retainedDeferredErrors plan request scope = [] := by
  unfold staticPreflight at h
  split at h
  · cases h
  rename_i hhash
  split at h
  · cases h
  rename_i hmanifest
  split at h
  · cases h
  rename_i ordered hordered
  split at h
  · cases h
  rename_i hids
  simp only at h
  split at h
  · cases h
  rename_i herrors
  rw [not_not, List.append_eq_nil_iff] at herrors
  have heq := eq_of_orderDependencyActions hordered (not_not.mp hids)
  cases h
  exact ⟨not_not.mp hhash, hmanifest, heq ▸ hordered, rfl, herrors⟩

/-- What the absence of errors says about the retained deferred Voice actions. -/
lemma spec_retainedDeferredErrors (h : retainedDeferredErrors plan request scope = []) :
    (request.retainedDeferredVoiceActionIds ≠ [] →
        request.deferVoiceSignalUntilBootstrap = true) ∧
      ∀ identifier ∈ request.retainedDeferredVoiceActionIds, identifier ∉ scope.mutationIds ∧
        ∃ action ∈ plan.actions, action.id = identifier ∧ action.activatesVoiceVlan := by
  unfold retainedDeferredErrors at h
  rw [List.append_eq_nil_iff, listingError_eq_nil] at h
  obtain ⟨hflag, hvalid⟩ := h
  constructor
  · intro hnonempty
    by_contra hdefer
    simp [hnonempty, hdefer] at hflag
  · intro identifier hidentifier
    have hmem : identifier ∉ sortedBy id (request.retainedDeferredVoiceActionIds.dedup.filter
        fun identifier => !validRetainedDeferred plan scope identifier) := by
      rw [hvalid]
      exact List.not_mem_nil
    rw [mem_sortedBy, List.mem_filter, List.mem_dedup, not_and] at hmem
    have hok := hmem hidentifier
    simp only [Bool.not_eq_true', Bool.not_eq_false, validRetainedDeferred, Bool.and_eq_true,
      decide_eq_true_eq, Option.any_eq_true] at hok
    obtain ⟨⟨hmutation, -⟩, action, haction, hvoice⟩ := hok
    obtain ⟨action', haction', rfl, rfl⟩ := Dict.exists_of_get?_ofList haction
    exact ⟨hmutation, action', haction', rfl, hvoice⟩

variable {targets : Dict String RuntimeConfigurationTarget}
  {capabilities : Dict String DeviceCapabilities}
  {answer : Except String (List RuntimeConfigurationTarget)} {refusal : Refusal}

lemma action_evaluateCapability {action : ConfigurationAction} {refusal : CapabilityRefusal}
    (h : evaluateCapability targets capabilities action = .ok refusal) :
    refusal.action = action := by
  unfold evaluateCapability at h
  cases htarget : subscript targets action.deviceName with
  | error e => simp [htarget, bind, Except.bind] at h
  | ok target =>
    simp only [htarget, bind, Except.bind, pure, Except.pure, Except.ok.injEq] at h
    rw [← h]

lemma mem_mutationIds_of_capabilityRefusals {mutationIds : List String}
    {refusals : List CapabilityRefusal}
    (h : capabilityRefusals plan targets capabilities mutationIds = .ok refusals) :
    ∀ refusal ∈ refusals, refusal.action.id ∈ mutationIds := by
  unfold capabilityRefusals at h
  rcases hevaluated : (plan.actions.filter (requiresCapability mutationIds)).mapM
      (evaluateCapability targets capabilities) with e | evaluated
  · rw [hevaluated] at h
    cases h
  rw [hevaluated] at h
  cases h
  intro refusal hrefusal
  obtain ⟨action, haction, hrefused⟩ :=
    exists_of_mem_mapM_eq_ok hevaluated (List.mem_filter.mp hrefusal).1
  have hrequires := (List.mem_filter.mp haction).2
  simp only [requiresCapability, Bool.and_eq_true, decide_eq_true_eq] at hrequires
  rw [action_evaluateCapability hrefused]
  exact hrequires.1.1

/-- What the checks on the inventory establish. -/
lemma spec_inventoryPreflight {prepared : PreparedApplication}
    (h : applicator.inventoryPreflight plan request scope answer = .ok (.ok prepared)) :
    ∃ inventory targets, answer = .ok inventory ∧
      resolveTargets plan request inventory = .ok targets ∧
      applicator.validateTargets plan targets = .ok [] ∧
      capabilityRefusals plan targets request.capabilities scope.mutationIds =
        .ok prepared.refusals ∧
      requiredBlocked plan prepared.refusals = [] ∧ prepared.scope = scope ∧
      prepared.deployedNames = runtimeNames plan targets := by
  unfold inventoryPreflight at h
  split at h
  · simp at h
  rename_i inventory
  split at h
  · simp at h
  rename_i targets htargets
  rcases herrors : applicator.validateTargets plan targets with e | errors
  · simp [herrors, bind, Except.bind] at h
  simp only [herrors, bind, Except.bind] at h
  split at h
  · simp [pure, Except.pure] at h
  rename_i hnone
  obtain rfl := not_not.mp hnone
  split at h
  · cases h
  rename_i refusals hrefusals
  split at h
  · simp [pure, Except.pure] at h
  rename_i hblocked
  simp only [pure, Except.pure, Except.ok.injEq] at h
  subst h
  exact ⟨inventory, targets, rfl, htargets, herrors, hrefusals, not_not.mp hblocked,
    rfl, rfl⟩

/-- The messages of a refusal by the checks before the inventory are not empty. -/
lemma messages_ne_nil_of_staticPreflight
    (h : applicator.staticPreflight plan request = .error refusal) : refusal.messages ≠ [] := by
  unfold staticPreflight manifestPreflight at h
  split at h
  · cases h
    simp
  split at h
  · rename_i hmanifest
    cases h
    split at hmanifest
    · split at hmanifest
      · cases hmanifest
        simp
      · split at hmanifest
        · cases hmanifest
          simp
        · cases hmanifest
    · split at hmanifest
      · cases hmanifest
        simp
      · cases hmanifest
  · split at h
    · cases h
      simp
    split at h
    · cases h
      simp
    simp only at h
    split at h
    · rename_i herrors
      cases h
      exact herrors
    · cases h

/-- The messages of a refusal by the checks on the inventory are not empty. -/
lemma messages_ne_nil_of_inventoryPreflight
    (h : applicator.inventoryPreflight plan request scope answer = .ok (.error refusal)) :
    refusal.messages ≠ [] := by
  unfold inventoryPreflight at h
  split at h
  · obtain rfl := Except.error.inj (Except.ok.inj h)
    simp
  split at h
  · rename_i inventory refusal' htargets
    obtain rfl := Except.error.inj (Except.ok.inj h)
    unfold resolveTargets at htargets
    split at htargets
    · cases htargets
    split at htargets
    · cases htargets
      simp
    · split at htargets
      · cases htargets
        simp
      · cases htargets
  · rename_i targets htargets
    rcases herrors : applicator.validateTargets plan targets with e | errors
    · simp [herrors, bind, Except.bind] at h
    simp only [herrors, bind, Except.bind] at h
    split at h
    · rename_i hnonempty
      obtain rfl := Except.error.inj (Except.ok.inj h)
      exact hnonempty
    · split at h
      · cases h
      rename_i refusals hrefusals
      split at h
      · rename_i hblocked
        obtain rfl := Except.error.inj (Except.ok.inj h)
        intro hnil
        have hdedup := sortedBy_eq_nil.mp hnil
        rw [List.dedup_eq_nil, List.map_eq_nil_iff] at hdedup
        exact hblocked hdedup
      · simp [pure, Except.pure] at h

/-- **The preflight.**  It dispatches nothing; a refusal carries messages, and acceptance
establishes `AcceptedPlan`. -/
lemma ensures_preflight :
    (applicator.preflight plan request).Ensures []
      (fun outcome trace => Quiet trace ∧
        (∀ refusal, outcome = .error refusal → refusal.messages ≠ []) ∧
        ∀ prepared, outcome = .ok prepared → AcceptedPlan plan request prepared)
      fun _ trace => Quiet trace := by
  unfold preflight
  rcases hstatic : applicator.staticPreflight plan request with refusal | scope
  · refine ⟨quiet_nil, fun refusal' h => ?_, fun prepared h => by cases h⟩
    cases h
    exact messages_ne_nil_of_staticPreflight hstatic
  have hquiet : ∀ answer, Quiet ([] ++ [RuntimeEvent.inventory answer]) := by
    intro answer event hevent
    obtain rfl : event = .inventory answer := by simpa using hevent
    rfl
  obtain ⟨-, -, horder, hscope, herrors, hdeferred⟩ := spec_staticPreflight hstatic
  obtain ⟨hnodup, hclosed⟩ := nodup_and_closed_of_orderDependencyActions horder
  obtain ⟨hflag, hretained⟩ := spec_retainedDeferredErrors hdeferred
  simp only [Interaction.ensures_bind, Interaction.ensures_exchange]
  rw [Interaction.ensures_ofExcept]
  refine ⟨fun outcome houtcome => ⟨hquiet _, ?_, ?_⟩, fun e _ => hquiet _⟩
  · rintro refusal rfl
    exact messages_ne_nil_of_inventoryPreflight houtcome
  · rintro prepared rfl
    obtain ⟨-, targets, -, -, -, hrefusals, -, hprepared, -⟩ := spec_inventoryPreflight houtcome
    have hmutations := mem_mutationIds_of_capabilityRefusals hrefusals
    have hsound : SoundScope plan request scope := by
      rw [hscope]
      exact soundScope_of_errors_eq_nil (hscope ▸ herrors)
    exact
      { toSoundScope := hprepared ▸ hsound
        scope_eq := hprepared.trans hscope
        nodup := hnodup
        closed := hclosed
        deferred := hprepared ▸ hretained
        deferFlag := hflag
        refusals := hprepared ▸ hmutations }

end Preflight

end ConfigurationApplicator

end PacketTracer
