import PacketTracer.Application.ApplyControlPlane

/-!
# What an accepted control-plane preflight establishes

Only `apply_actions` dispatches.  `AcceptedControlPlane` collects the facts about a plan, its
arguments and its mutation scope that the rest of `apply` relies on; the preflight asks the runtime
for nothing but its inventory.
-/

namespace PacketTracer

open Dicts Interactions PyText Fallible

namespace ControlPlaneEvent

/-- The actions that an exchange dispatches. -/
def dispatched : ControlPlaneEvent → List ControlPlaneAction
  | applyActions actions _ => actions
  | _ => []

/-- Whether the runtime applied an action that the exchange dispatched. -/
def applied? (event : ControlPlaneEvent) (identifier : String) : Option Bool :=
  match event with
  | applyActions actions answer =>
    if identifier ∈ actions.map ControlPlaneAction.id then
      some (((ControlPlaneApplicator.safeApply actions answer).get? identifier).any fun mutation =>
        mutation.applied)
    else none
  | _ => none

lemma isSome_applied? {event : ControlPlaneEvent} {identifier : String} :
    (event.applied? identifier).isSome ↔
      identifier ∈ event.dispatched.map ControlPlaneAction.id := by
  cases event with
  | applyActions actions answer =>
    by_cases h : identifier ∈ actions.map ControlPlaneAction.id <;>
      simp only [applied?, dispatched, h, if_true, if_false, Option.isSome_some,
        Option.isSome_none, Bool.false_eq_true]
  | inventory answer => simp [applied?, dispatched]
  | verify expectations answer | executeFailureScenario scenario failure recovery answer =>
    simp [applied?, dispatched]

end ControlPlaneEvent

namespace ControlPlaneApplicator

/-! ## Dispatched actions -/

/-- The identifiers of the dispatched actions, in the order of the dispatches. -/
def dispatchedIds (trace : List ControlPlaneEvent) : List String :=
  trace.flatMap fun event => event.dispatched.map ControlPlaneAction.id

/-- The runtime applied a dispatched action. -/
def Applied (trace : List ControlPlaneEvent) (identifier : String) : Prop :=
  ∃ event ∈ trace, event.applied? identifier = some true

/-- A dispatched action failed: the runtime did not apply it. -/
def Failed (trace : List ControlPlaneEvent) (identifier : String) : Prop :=
  ∃ event ∈ trace, event.applied? identifier = some false

/-- When an exchange dispatches an action, a satisfying result was retained for each of its
dependencies, or the runtime applied it before. -/
def DependenciesApplied (retained : Dict String ActionApplicationResult)
    (before : List ControlPlaneEvent) (event : ControlPlaneEvent) : Prop :=
  ∀ action ∈ event.dispatched, ∀ d ∈ action.dependsOn, satisfied retained d ∨ Applied before d

variable {trace more : List ControlPlaneEvent} {event : ControlPlaneEvent} {identifier : String}
  {retained : Dict String ActionApplicationResult}

lemma dispatchedIds_append (trace more : List ControlPlaneEvent) :
    dispatchedIds (trace ++ more) = dispatchedIds trace ++ dispatchedIds more :=
  List.flatMap_append

lemma dispatchedIds_singleton (event : ControlPlaneEvent) :
    dispatchedIds [event] = event.dispatched.map ControlPlaneAction.id := by
  simp [dispatchedIds]

lemma applied_concat :
    Applied (trace ++ [event]) identifier ↔
      Applied trace identifier ∨ event.applied? identifier = some true := by
  simp [Applied, or_and_right, exists_or]

lemma failed_concat :
    Failed (trace ++ [event]) identifier ↔
      Failed trace identifier ∨ event.applied? identifier = some false := by
  simp [Failed, or_and_right, exists_or]

lemma Applied.dispatched (h : Applied trace identifier) : identifier ∈ dispatchedIds trace := by
  obtain ⟨event, hevent, happlied⟩ := h
  exact List.mem_flatMap.mpr
    ⟨event, hevent, ControlPlaneEvent.isSome_applied?.mp (by simp [happlied])⟩

lemma Failed.dispatched (h : Failed trace identifier) : identifier ∈ dispatchedIds trace := by
  obtain ⟨event, hevent, hfailed⟩ := h
  exact List.mem_flatMap.mpr
    ⟨event, hevent, ControlPlaneEvent.isSome_applied?.mp (by simp [hfailed])⟩

/-! ## Quiet extensions -/

/-- A history grows by exchanges that dispatch nothing. -/
abbrev QuietlyExtends (trace trace' : List ControlPlaneEvent) : Prop :=
  ExtendsBy (fun event => event.dispatched = []) trace trace'

lemma applied?_of_quiet (h : event.dispatched = []) : event.applied? identifier = none := by
  have hnot : ¬(event.applied? identifier).isSome := by
    rw [ControlPlaneEvent.isSome_applied?, h]
    simp
  simpa using hnot

section Extension

variable {trace' : List ControlPlaneEvent}

lemma dispatchedIds_eq_of_quiet (h : QuietlyExtends trace trace') :
    dispatchedIds trace' = dispatchedIds trace := by
  obtain ⟨more, rfl, hmore⟩ := h
  have hnone : dispatchedIds more = [] := by
    rw [dispatchedIds, List.flatMap_eq_nil_iff]
    intro event hevent
    rw [hmore event hevent, List.map_nil]
  rw [dispatchedIds_append, hnone, List.append_nil]

lemma failed_iff_of_quiet (h : QuietlyExtends trace trace') :
    Failed trace' identifier ↔ Failed trace identifier := by
  constructor
  · rintro ⟨event, hevent, hfailed⟩
    refine ⟨event, (h.mem_or hevent).resolve_right fun hquiet => ?_, hfailed⟩
    simp [applied?_of_quiet hquiet] at hfailed
  · rintro ⟨event, hevent, hfailed⟩
    exact ⟨event, h.mem hevent, hfailed⟩

lemma dependenciesApplied_of_quiet (h : QuietlyExtends trace trace')
    (htrace : EachAfter (DependenciesApplied retained) trace) :
    EachAfter (DependenciesApplied retained) trace' := by
  refine h.eachAfter htrace fun before event hquiet action haction => ?_
  rw [hquiet] at haction
  simp at haction

end Extension

end ControlPlaneApplicator

/-- The action without the name it is deployed under. -/
def ControlPlaneAction.core (action : ControlPlaneAction) : ControlPlaneAction :=
  { action with deviceName := "" }

/-- What an expectation is about, whatever it waits for. -/
def ControlPlaneVerificationExpectation.core (item : ControlPlaneVerificationExpectation) :
    String × ControlPlaneVerificationKind × String :=
  (item.id, item.kind, item.actionId)

/-- The scenario without the names its devices are deployed under. -/
def LinkFailureScenario.core (scenario : LinkFailureScenario) : LinkFailureScenario :=
  { scenario with
    targetDeviceName := ""
    peerDeviceName := ""
    probeSourceDeviceName := ""
    probeDestinationDeviceName := "" }

namespace ControlPlaneApplicator

/-! ## Mutation scopes -/

/-- What an accepted mutation scope establishes. -/
structure SoundScope (actions : List ControlPlaneAction) (scope : MutationScope) : Prop where
  /-- Only actions of the plan are mutated. -/
  planned : ∀ identifier ∈ scope.mutationIds, identifier ∈ actions.map ControlPlaneAction.id
  /-- A retained result belongs to an action that is not mutated, and was applied. -/
  retained : ∀ identifier result, scope.retained.get? identifier = some result →
    result.actionId = identifier ∧ identifier ∈ actions.map ControlPlaneAction.id ∧
      identifier ∉ scope.mutationIds ∧ satisfiesApplyDependency result.status
  /-- An action that is not mutated is retained, and so are its dependencies. -/
  unmutated : ∀ action ∈ actions, action.id ∉ scope.mutationIds →
    (scope.retained.get? action.id).isSome ∧ ∀ d ∈ action.dependsOn, d ∉ scope.mutationIds

/-- A mutation scope without errors is sound. -/
lemma soundScope_of_errors_eq_nil {plan : ControlPlanePlan}
    {mutationActionIds : Option (List String)}
    {retainedActionResults : List ActionApplicationResult}
    (h : (mutationScope plan mutationActionIds retainedActionResults).errors = []) :
    SoundScope plan.actions (mutationScope plan mutationActionIds retainedActionResults) := by
  cases mutationActionIds with
  | none =>
    by_cases hretained : retainedActionResults = []
    · simp only [mutationScope, hretained, ne_eq, not_true_eq_false, if_false]
      refine ⟨fun identifier hmem => List.mem_dedup.mp hmem, ?_, ?_⟩
      · intro identifier result hget
        simp at hget
      · intro action haction hmutation
        exact absurd (List.mem_dedup.mpr (List.mem_map_of_mem haction)) hmutation
    · simp [mutationScope, hretained] at h
  | some ids =>
    simp only [mutationScope, List.append_eq_nil_iff, listingError_eq_nil, sortedBy_eq_nil] at h
    obtain ⟨⟨⟨⟨⟨hunknown, -⟩, hmissing⟩, hextra⟩, hinvalid⟩, hreverse⟩ := h
    obtain ⟨hheld, hkept⟩ := retained_of_checks rfl hmissing hextra hinvalid
    refine ⟨fun identifier hmem => ?_, fun identifier result hget => ?_,
      fun action haction hmutation => ?_⟩
    · have hplanned := (List.filter_eq_nil_iff.mp hunknown) identifier hmem
      simpa using hplanned
    · obtain ⟨-, hid, hplanned, hmutation, hvalid⟩ := hheld identifier result hget
      have hget' : (Dict.ofList (retainedActionResults.map
          fun item => (item.actionId, item))).get? identifier = some result := hget
      simp only [invalidRetained, hget'] at hvalid
      split_ifs at hvalid with hstatus
      exact ⟨hid, List.mem_dedup.mp hplanned, hmutation, hstatus.1⟩
    · obtain ⟨hexpected, hsome⟩ := hkept action.id
        (List.mem_dedup.mpr (List.mem_map_of_mem haction)) hmutation
      refine ⟨hsome, fun d hd hmutated => ?_⟩
      refine List.filter_eq_nil_iff.mp (List.map_eq_nil_iff.mp (sortedBy_eq_nil.mp hreverse))
        action haction ?_
      simp only [decide_eq_true_eq, List.any_eq_true]
      exact ⟨hexpected, d, List.mem_append_left _ hd, hmutated⟩

/-! ## The plan for the deployed devices -/

variable {plan verificationPlan deployed : ControlPlanePlan} {names : Dict String String}
  {manifest : DeploymentManifest}

lemma core_deployedAction {action action' : ControlPlaneAction}
    (h : deployedAction names action = .ok action') : action'.core = action.core := by
  obtain ⟨name, -, heq⟩ := bind_eq_ok.mp h
  rw [← Except.ok.inj heq]
  rfl

lemma core_deployedExpectation {item item' : ControlPlaneVerificationExpectation}
    (h : deployedExpectation plan names manifest item = .ok item') : item'.core = item.core := by
  obtain ⟨expected, -, h⟩ := bind_eq_ok.mp h
  obtain ⟨target, -, heq⟩ := bind_eq_ok.mp h
  rw [← Except.ok.inj heq]
  rfl

lemma core_deployedScenario {scenario scenario' : LinkFailureScenario}
    (h : deployedScenario names scenario = .ok scenario') : scenario'.core = scenario.core := by
  obtain ⟨target, -, h⟩ := bind_eq_ok.mp h
  obtain ⟨peer, -, h⟩ := bind_eq_ok.mp h
  obtain ⟨source, -, h⟩ := bind_eq_ok.mp h
  obtain ⟨destination, -, heq⟩ := bind_eq_ok.mp h
  rw [← Except.ok.inj heq]
  rfl

/-- A plan for deployed devices differs from the plan only in names. -/
structure Deploys (plan deployed : ControlPlanePlan) : Prop where
  actions : deployed.actions.map ControlPlaneAction.core =
    plan.actions.map ControlPlaneAction.core
  expectations : deployed.verificationExpectations.map ControlPlaneVerificationExpectation.core =
    plan.verificationExpectations.map ControlPlaneVerificationExpectation.core
  scenarios : deployed.failureScenarios.map LinkFailureScenario.core =
    plan.failureScenarios.map LinkFailureScenario.core

lemma deploys_runtimePlan (h : runtimePlan plan names manifest = .ok deployed) :
    Deploys plan deployed := by
  obtain ⟨-, -, h⟩ := bind_eq_ok.mp h
  obtain ⟨actions, hactions, h⟩ := bind_eq_ok.mp h
  obtain ⟨expectations, hexpectations, h⟩ := bind_eq_ok.mp h
  obtain ⟨scenarios, hscenarios, h⟩ := bind_eq_ok.mp h
  rw [← Except.ok.inj h]
  exact
    { actions := map_eq_map_of_mapM_eq_ok hactions fun _ _ => core_deployedAction
      expectations :=
        map_eq_map_of_mapM_eq_ok hexpectations fun _ _ => core_deployedExpectation
      scenarios := map_eq_map_of_mapM_eq_ok hscenarios fun _ _ => core_deployedScenario }

lemma deploys_resolvedPlan {request : ControlPlaneRequest}
    {inventory : List RuntimeConfigurationTarget}
    (h : resolvedPlan plan verificationPlan request inventory = .ok deployed) :
    Deploys verificationPlan deployed := by
  unfold resolvedPlan at h
  split at h
  · rw [← Except.ok.inj h]
    exact ⟨rfl, rfl, rfl⟩
  · obtain ⟨targets, -, h⟩ := bind_eq_ok.mp h
    exact deploys_runtimePlan h

/-- Making prerequisites explicit and ordering the expectations changes nothing else. -/
lemma spec_normalizedVerificationPlan (h : normalizedVerificationPlan plan = .ok verificationPlan) :
    verificationPlan.actions = plan.actions ∧
      verificationPlan.failureScenarios = plan.failureScenarios ∧
      (verificationPlan.verificationExpectations.map ControlPlaneVerificationExpectation.id).Nodup ∧
      (verificationPlan.verificationExpectations.map
          ControlPlaneVerificationExpectation.core).Perm
        (plan.verificationExpectations.map ControlPlaneVerificationExpectation.core) := by
  obtain ⟨ordered, hordered, heq⟩ := bind_eq_ok.mp h
  rw [← Except.ok.inj heq]
  unfold orderVerificationExpectations at hordered
  split at hordered <;> try contradiction
  rename_i ordered' hdependencies
  cases hordered
  obtain ⟨hnodup, -⟩ := nodup_and_closed_of_orderDependencyActions hdependencies
  obtain ⟨hperm, -⟩ := spec_orderDependencyActions hdependencies
  refine ⟨rfl, rfl, (hperm.map _).nodup_iff.mpr hnodup, ?_⟩
  refine (hperm.map _).trans (List.Perm.of_eq ?_)
  rw [List.map_map]
  rfl

/-! ## Acceptance -/

/-- What an accepted preflight establishes. -/
structure AcceptedControlPlane (plan : ControlPlanePlan) (prepared : PreparedControlPlane) : Prop
    where
  scope : SoundScope plan.actions prepared.scope
  /-- Identifiers are unique. -/
  nodup : (plan.actions.map ControlPlaneAction.id).Nodup
  /-- Actions stand after their dependencies. -/
  precede : DependenciesPrecede plan.actions
  /-- The actions are those of the plan but for the names of their devices. -/
  actions : prepared.plan.actions.map ControlPlaneAction.core =
    plan.actions.map ControlPlaneAction.core
  /-- Identifiers of expectations are unique. -/
  nodupExpectations :
    (prepared.plan.verificationExpectations.map ControlPlaneVerificationExpectation.id).Nodup
  /-- The expectations are about the same as those of the plan. -/
  expectations : (prepared.plan.verificationExpectations.map
      ControlPlaneVerificationExpectation.core).Perm
    (plan.verificationExpectations.map ControlPlaneVerificationExpectation.core)
  /-- The scenarios are those of the plan but for the names of their devices. -/
  scenarios : prepared.plan.failureScenarios.map LinkFailureScenario.core =
    plan.failureScenarios.map LinkFailureScenario.core

lemma spec_planPreflight {request : ControlPlaneRequest} {checked : CheckedPlan}
    (h : planPreflight plan request = .ok checked) :
    orderDependencyActions plan.actions = .ok plan.actions ∧
      SoundScope plan.actions checked.scope ∧
      normalizedVerificationPlan plan = .ok checked.verificationPlan := by
  unfold planPreflight at h
  split at h
  · cases h
  rename_i ordered hordered
  split at h
  · cases h
  rename_i hids
  have heq := eq_of_orderDependencyActions hordered (not_not.mp hids)
  simp only at h
  split at h
  · cases h
  rename_i herrors
  split at h
  · cases h
  rename_i verificationPlan hverification
  split at h
  · cases h
  · rw [← Except.ok.inj h]
    exact ⟨heq ▸ hordered, soundScope_of_errors_eq_nil (not_not.mp herrors),
      hverification⟩

variable {applicator : ControlPlaneApplicator} {request : ControlPlaneRequest}
  {checked : CheckedPlan} {prepared : PreparedControlPlane}

lemma spec_staticPreflight (h : applicator.staticPreflight plan request = .ok checked) :
    planPreflight plan request = .ok checked := by
  unfold staticPreflight at h
  split at h
  · cases h
  · split at h
    · cases h
    · exact h

variable {answer : Except String (List RuntimeConfigurationTarget)}

lemma spec_inventoryPreflight
    (h : applicator.inventoryPreflight plan request checked answer = .ok prepared) :
    prepared.scope = checked.scope ∧ Deploys checked.verificationPlan prepared.plan := by
  unfold inventoryPreflight at h
  split at h
  · cases h
  split at h
  · cases h
  rename_i hresolved
  simp only at h
  split at h
  · cases h
  · rw [← Except.ok.inj h]
    exact ⟨rfl, deploys_resolvedPlan hresolved⟩

/-- The checks of an accepted preflight establish `AcceptedControlPlane`. -/
lemma accepted_of_inventoryPreflight
    (hstatic : applicator.staticPreflight plan request = .ok checked)
    (hinventory : applicator.inventoryPreflight plan request checked answer = .ok prepared) :
    AcceptedControlPlane plan prepared := by
  obtain ⟨hordered, hscope, hverification⟩ := spec_planPreflight (spec_staticPreflight hstatic)
  obtain ⟨hscopeEq, hdeploys⟩ := spec_inventoryPreflight hinventory
  obtain ⟨hactions, hscenarios, hnodup, hperm⟩ := spec_normalizedVerificationPlan hverification
  have hids : prepared.plan.verificationExpectations.map ControlPlaneVerificationExpectation.id =
      checked.verificationPlan.verificationExpectations.map
        ControlPlaneVerificationExpectation.id := by
    simpa [Function.comp_def, ControlPlaneVerificationExpectation.core]
      using congrArg (List.map Prod.fst) hdeploys.expectations
  exact
    { scope := hscopeEq ▸ hscope
      nodup := (nodup_and_closed_of_orderDependencyActions hordered).1
      precede := (spec_orderDependencyActions hordered).2
      actions := hdeploys.actions.trans (by rw [hactions])
      nodupExpectations := hids ▸ hnodup
      expectations := hdeploys.expectations ▸ hperm
      scenarios := hdeploys.scenarios.trans (by rw [hscenarios]) }

/-- **The preflight.**  It dispatches nothing, and acceptance establishes
`AcceptedControlPlane`. -/
lemma ensures_preflight :
    (applicator.preflight plan request).Ensures []
      (fun outcome trace => (trace = [] ∨ ∃ answer, trace = [.inventory answer]) ∧
        ∀ prepared, outcome = .ok prepared → AcceptedControlPlane plan prepared)
      fun _ _ => False := by
  unfold preflight
  cases hstatic : applicator.staticPreflight plan request with
  | error refusal => exact ⟨Or.inl rfl, fun prepared h => by cases h⟩
  | ok checked =>
    simp only [Interaction.ensures_bind, Interaction.ensures_exchange, Interaction.ensures_pure]
    exact ⟨Or.inr ⟨_, rfl⟩, fun prepared h => accepted_of_inventoryPreflight hstatic h⟩

end ControlPlaneApplicator

end PacketTracer
