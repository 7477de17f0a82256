import PacketTracer.Application.JournalCoverage

/-!
# What the preflight refuses and what it leaves

`PreflightPassed` states the preflight conditions of a configuration plan one by one; that about all
dependencies of a required action is decided in a single pass, because an accepted plan lists every
action after its dependencies.

A run whose dispatches all succeed completes its plan exactly when no mutated action depends on a
mutated action of its own phase or of a later one.  The targets that devices resolve to are never
compared: the dispatches of different devices stay apart where no two share a target.
-/

namespace PacketTracer

open Dicts Interactions PyText Fallible Relation

namespace ConfigurationApplicator

/-! ## The closure of the refused actions -/

/-- One iteration of `_unexecutable_closure`. -/
def closeOver (blocked : List String) (action : ConfigurationAction) : List String :=
  if action.id ∈ blocked then blocked
  else if action.dependsOn.any (· ∈ blocked) then blocked ++ [action.id] else blocked

variable {blocked : List String} {k : String}

lemma mem_closeOver {action : ConfigurationAction} :
    k ∈ closeOver blocked action ↔
      k ∈ blocked ∨ (k = action.id ∧ ∃ d ∈ action.dependsOn, d ∈ blocked) := by
  unfold closeOver
  split
  · rename_i hmem
    exact ⟨Or.inl, fun h => h.elim (fun h => h) fun ⟨hk, _⟩ => hk ▸ hmem⟩
  split
  · rename_i hany
    simp only [List.any_eq_true, decide_eq_true_eq] at hany
    simp only [List.mem_append, List.mem_singleton]
    exact or_congr_right ⟨fun hk => ⟨hk, hany⟩, fun h => h.1⟩
  · rename_i hany
    simp only [List.any_eq_true, decide_eq_true_eq] at hany
    exact ⟨Or.inl, fun h => h.elim (fun h => h) fun ⟨_, hd⟩ => absurd hd hany⟩

lemma mem_foldl_closeOver_of_mem (h : k ∈ blocked) (actions : List ConfigurationAction) :
    k ∈ actions.foldl closeOver blocked := by
  induction actions generalizing blocked with
  | nil => exact h
  | cons action actions ih => exact ih (mem_closeOver.mpr (Or.inl h))

/-- Over actions in dependency order one pass reaches the whole closure. -/
lemma mem_foldl_closeOver_of_dependsOn {actions : List ConfigurationAction}
    (hprecede : DependenciesPrecede actions)
    (hnodup : (actions.map ConfigurationAction.id).Nodup) :
    ∀ action ∈ actions, ∀ d ∈ action.dependsOn, d ∈ actions.foldl closeOver blocked →
      action.id ∈ actions.foldl closeOver blocked := by
  induction actions using List.reverseRecOn with
  | nil => simp
  | append_singleton actions last ih =>
    obtain ⟨hprecede, hlast⟩ := eachAfter_concat.mp hprecede
    rw [List.map_append, List.nodup_append] at hnodup
    obtain ⟨hnodup, -, hdisjoint⟩ := hnodup
    have hnew : last.id ∉ actions.map ConfigurationAction.id :=
      fun hmem => hdisjoint _ hmem _ (List.mem_singleton_self _) rfl
    intro action haction d hd hclosure
    rw [List.foldl_append, List.foldl_cons, List.foldl_nil, mem_closeOver] at hclosure ⊢
    -- a dependency stands before the last action, so that the last action is not the dependency
    have hbefore : d ∈ actions.map ConfigurationAction.id := by
      rcases List.mem_concat_iff.mp haction with hmem | rfl
      · obtain ⟨left, right, rfl⟩ := List.append_of_mem hmem
        have := hprecede left action right rfl d hd
        rw [List.map_append]
        exact List.mem_append_left _ this
      · exact hlast d hd
    have hold : d ∈ actions.foldl closeOver blocked :=
      hclosure.resolve_right fun ⟨heq, _⟩ => hnew (heq ▸ hbefore)
    rcases List.mem_concat_iff.mp haction with hmem | rfl
    · exact Or.inl (ih hprecede hnodup action hmem d hd hold)
    · exact Or.inr ⟨rfl, d, hd, hold⟩

/-- What depends on a refused action, directly or not, is in `_unexecutable_closure`. -/
lemma mem_unexecutableClosure {plan : ConfigurationPlan} {refusals : List CapabilityRefusal}
    (hprecede : DependenciesPrecede plan.actions)
    (hnodup : (plan.actions.map ConfigurationAction.id).Nodup) {refusal : CapabilityRefusal}
    (hrefusal : refusal ∈ refusals)
    (hk : ReflTransGen (Depends plan.actions) k refusal.action.id) :
    k ∈ unexecutableClosure plan refusals := by
  change k ∈ plan.actions.foldl closeOver (refusals.map fun refusal => refusal.action.id)
  induction hk using ReflTransGen.head_induction_on with
  | refl =>
    exact mem_foldl_closeOver_of_mem (List.mem_map_of_mem (f := fun r => r.action.id) hrefusal) _
  | head hab _ ih =>
    obtain ⟨action, haction, rfl, hd⟩ := hab
    exact mem_foldl_closeOver_of_dependsOn hprecede hnodup action haction _ hd ih

/-! ## The preflight conditions -/

/-- An action of the mutation scope whose target does not support the capability it requires. -/
def LacksCapability (plan : ConfigurationPlan) (request : ApplyRequest)
    (targets : Dict String RuntimeConfigurationTarget) (action : ConfigurationAction) : Prop :=
  requiresCapability (mutationScope plan request.mutationActionIds
      request.retainedActionResults).mutationIds action ∧
    ∃ target, targets.get? action.deviceName = some target ∧
      ((request.capabilities.get? target.model).bind
        (·.get? action.requiredCapability)).getD .unknown ≠ .supported

/-- The conditions on the targets of a plan. -/
structure TargetsPassed (applicator : ConfigurationApplicator) (plan : ConfigurationPlan)
    (request : ApplyRequest) (targets : Dict String RuntimeConfigurationTarget) : Prop where
  /-- Every device has a target of its model. -/
  devices : ∀ device ∈ plan.devices, ∃ target, targets.get? device.deviceName = some target ∧
    applicator.casefold target.model = applicator.casefold device.model
  /-- A target that lists its interfaces has those the actions name. -/
  interfaces : ∀ action ∈ plan.actions, ∀ target, targets.get? action.deviceName = some target →
    target.interfaces = [] ∨ physicalInterface action = "" ∨
      applicator.casefold (physicalInterface action) ∈
        target.interfaces.map applicator.casefold
  /-- No required action depends on one without its capability, directly or not. -/
  capabilities : ∀ action ∈ plan.actions, action.critical → ∀ refused ∈ plan.actions,
    LacksCapability plan request targets refused →
      ¬ReflTransGen (Depends plan.actions) action.id refused.id

/-- The preflight conditions of a plan. -/
structure PreflightPassed (applicator : ConfigurationApplicator) (plan : ConfigurationPlan)
    (request : ApplyRequest) : Prop where
  /-- The plan was compiled for the deployed topology. -/
  sourceHash : request.actualSourceTopologyHash = plan.sourceTopologyHash
  /-- A manifest is that of the topology, deployed in the environment of the runtime. -/
  manifest : ∀ manifest, request.deploymentManifest = some manifest →
    manifest.physicalTopologyHash = plan.sourceTopologyHash ∧
      validateManifestEnvironment applicator.semanticHash manifest
        request.runtimeContext.environmentFingerprint = .ok ()
  /-- A manifest is there when the plan needs one. -/
  manifestPresent : request.deploymentManifest = none →
    requiresDeploymentManifest plan.sourceTopologyHashSchema = false
  /-- The actions are in the deterministic dependency order. -/
  order : orderDependencyActions plan.actions = .ok plan.actions
  /-- The mutation scope is sound. -/
  scope : (mutationScope plan request.mutationActionIds request.retainedActionResults).errors = []
  /-- The retained deferred Voice actions are sound. -/
  retainedDeferred : retainedDeferredErrors plan request
    (mutationScope plan request.mutationActionIds request.retainedActionResults) = []
  /-- The runtime answered its inventory, and the targets were resolved in it. -/
  targets : ∃ inventory targets, applicator.runtime.inventory [] = .ok inventory ∧
    resolveTargets plan request inventory = .ok targets ∧
    TargetsPassed applicator plan request targets

variable {applicator : ConfigurationApplicator} {plan : ConfigurationPlan} {request : ApplyRequest}

/-- The check of the manifest establishes its conditions. -/
lemma conditions_of_manifestPreflight (h : applicator.manifestPreflight plan request = .ok ()) :
    (∀ manifest, request.deploymentManifest = some manifest →
        manifest.physicalTopologyHash = plan.sourceTopologyHash ∧
          validateManifestEnvironment applicator.semanticHash manifest
            request.runtimeContext.environmentFingerprint = .ok ()) ∧
      (request.deploymentManifest = none →
        requiresDeploymentManifest plan.sourceTopologyHashSchema = false) := by
  unfold manifestPreflight at h
  cases hmanifest : request.deploymentManifest with
  | none =>
    simp only [hmanifest] at h
    split at h
    · cases h
    · rename_i hrequires
      exact ⟨fun manifest hsome => (by cases hsome), fun _ => by simpa using hrequires⟩
  | some manifest =>
    simp only [hmanifest] at h
    split at h
    · cases h
    rename_i hhash
    split at h
    · cases h
    rename_i hvalid
    refine ⟨fun manifest' hsome => ?_, fun hnone => by cases hnone⟩
    cases hsome
    exact ⟨not_not.mp hhash, hvalid⟩

/-- No errors about the targets means that their conditions hold. -/
lemma conditions_of_validateTargets {targets : Dict String RuntimeConfigurationTarget}
    (h : applicator.validateTargets plan targets = .ok []) :
    (∀ device ∈ plan.devices, ∃ target, targets.get? device.deviceName = some target ∧
        applicator.casefold target.model = applicator.casefold device.model) ∧
      ∀ action ∈ plan.actions, ∀ target, targets.get? action.deviceName = some target →
        target.interfaces = [] ∨ physicalInterface action = "" ∨
          applicator.casefold (physicalInterface action) ∈
            target.interfaces.map applicator.casefold := by
  unfold validateTargets at h
  simp only at h
  rcases herrors : plan.actions.mapM (applicator.interfaceTargetError
      (Dict.ofList (plan.devices.map fun item => (item.deviceId, item))) targets) with e | errors
  · rw [herrors] at h
    cases h
  rw [herrors] at h
  have hnone := Except.ok.inj h
  rw [sortedBy_eq_nil, List.dedup_eq_nil, List.append_eq_nil_iff, List.filterMap_eq_nil_iff,
    List.filterMap_eq_nil_iff] at hnone
  obtain ⟨hdevices, hinterfaces⟩ := hnone
  constructor
  · intro device hdevice
    have hdevice := hdevices device hdevice
    unfold deviceTargetError at hdevice
    split at hdevice
    · cases hdevice
    rename_i target htarget
    split at hdevice
    · cases hdevice
    · rename_i hmodel
      exact ⟨target, htarget, not_not.mp hmodel⟩
  · intro action haction target htarget
    obtain ⟨error, herror, hresult⟩ := exists_result_of_mapM_eq_ok herrors haction
    obtain rfl := hinterfaces error herror
    unfold interfaceTargetError at hresult
    rw [htarget] at hresult
    simp only at hresult
    split at hresult
    · assumption
    · simp only [bind, Except.bind, pure, Except.pure] at hresult
      split at hresult
      · cases hresult
      · cases hresult

/-- What was not refused is executable: no required action depends on an action without its
capability. -/
lemma conditions_of_requiredBlocked {targets : Dict String RuntimeConfigurationTarget}
    {refusals : List CapabilityRefusal}
    (horder : orderDependencyActions plan.actions = .ok plan.actions)
    (hrefusals : capabilityRefusals plan targets request.capabilities
      (mutationScope plan request.mutationActionIds request.retainedActionResults).mutationIds =
        .ok refusals)
    (hblocked : requiredBlocked plan refusals = []) :
    ∀ action ∈ plan.actions, action.critical → ∀ refused ∈ plan.actions,
      LacksCapability plan request targets refused →
        ¬ReflTransGen (Depends plan.actions) action.id refused.id := by
  intro action haction hcritical refused hrefused ⟨hrequires, target, htarget, hstatus⟩ hdepends
  have hrefusal : ∃ refusal ∈ refusals, refusal.action = refused := by
    unfold capabilityRefusals at hrefusals
    rcases hevaluated : (plan.actions.filter (requiresCapability (mutationScope plan
        request.mutationActionIds request.retainedActionResults).mutationIds)).mapM
        (evaluateCapability targets request.capabilities) with e | evaluated
    · rw [hevaluated] at hrefusals
      cases hrefusals
    rw [hevaluated] at hrefusals
    cases hrefusals
    obtain ⟨refusal, hmem, heval⟩ := exists_result_of_mapM_eq_ok hevaluated
      (List.mem_filter.mpr ⟨hrefused, hrequires⟩)
    refine ⟨refusal, List.mem_filter.mpr ⟨hmem, ?_⟩, action_evaluateCapability heval⟩
    have hget : subscript targets refused.deviceName = .ok target := subscript_eq_ok.mpr htarget
    simp only [evaluateCapability, hget, bind, Except.bind, pure, Except.pure,
      Except.ok.injEq] at heval
    rw [← heval]
    exact decide_eq_true hstatus
  obtain ⟨refusal, hmem, rfl⟩ := hrefusal
  obtain ⟨hperm, hprecede⟩ := spec_orderDependencyActions horder
  have hnodup := (orderDependencyActions_eq_ok.mp horder).1
  have hclosure := mem_unexecutableClosure hprecede hnodup hmem hdepends
  have hnil := sortedBy_eq_nil.mp hblocked
  exact List.filter_eq_nil_iff.mp hnil action haction (decide_eq_true ⟨hcritical, hclosure⟩)

/-- An accepted preflight passed all conditions. -/
lemma ensures_preflight_passed :
    (applicator.preflight plan request).Ensures []
      (fun outcome _ => ∀ prepared, outcome = .ok prepared →
        PreflightPassed applicator plan request ∧
        ∃ inventory targets, applicator.runtime.inventory [] = .ok inventory ∧
          resolveTargets plan request inventory = .ok targets ∧
          prepared.deployedNames = runtimeNames plan targets) fun _ _ => True := by
  unfold preflight
  rcases hstatic : applicator.staticPreflight plan request with refusal | scope
  · exact fun prepared h => by cases h
  simp only [Interaction.ensures_bind, Interaction.ensures_exchange]
  rw [Interaction.ensures_ofExcept]
  refine ⟨fun outcome houtcome prepared hprepared => ?_, fun _ _ => trivial⟩
  subst hprepared
  obtain ⟨hhash, hmanifest, horder, rfl, hscope, hretained⟩ := spec_staticPreflight hstatic
  obtain ⟨hmanifest, hpresent⟩ := conditions_of_manifestPreflight hmanifest
  obtain ⟨inventory, targets, hinventory, htargets, herrors, hrefusals, hblocked, -, hnames⟩ :=
    spec_inventoryPreflight houtcome
  obtain ⟨hdevices, hinterfaces⟩ := conditions_of_validateTargets herrors
  have hpassed : TargetsPassed applicator plan request targets :=
    ⟨hdevices, hinterfaces, conditions_of_requiredBlocked horder hrefusals hblocked⟩
  exact ⟨⟨hhash, hmanifest, hpresent, horder, hscope, hretained, inventory, targets, hinventory,
    htargets, hpassed⟩, inventory, targets, hinventory, htargets, hnames⟩

/-! ## Nothing is dispatched -/

/-- When a condition fails, `apply` dispatches nothing, and reports the failed preflight if it
returns. -/
lemma ensures_apply_of_not_passed (h : ¬PreflightPassed applicator plan request) :
    (applicator.apply plan request).Ensures [] RefusedSpec fun _ trace => Quiet trace := by
  unfold apply
  rw [Interaction.ensures_bind]
  refine (ensures_preflight.and ensures_preflight_passed).mono
    (fun outcome trace houtcome => ?_) fun e trace hE => hE.1
  obtain ⟨⟨hquiet, hrefused, -⟩, hpassed⟩ := houtcome
  cases outcome with
  | ok prepared => exact absurd (hpassed prepared rfl).1 h
  | error refusal =>
    exact (ensures_preflightFailure (hrefused refusal rfl) hquiet).mono (fun _ _ hspec => hspec)
      fun e trace hE => hE.elim

lemma quiet_of_completionTrace {report : ConfigurationApplicationResult}
    {trace trace' : List RuntimeEvent} (h : RefusedSpec report trace)
    (hcompletion : CompletionTrace plan report trace trace') : Quiet trace' := by
  have hextends : ∀ {trace trace' : List RuntimeEvent}, Quiet trace →
      QuietlyExtends trace trace' → Quiet trace' := by
    rintro trace trace' hquiet ⟨more, rfl, hmore⟩
    exact hquiet.append hmore
  rcases hcompletion with hquiet | ⟨signals, signalled, hroute, hquiet⟩
  · exact hextends h.quiet hquiet
  refine hextends ?_ hquiet
  cases hroute with
  | retained _ _ _ _ hsignalled => exact hextends h.quiet hsignalled
  | dispatched barrier hbarrier =>
    rw [h.barrier] at hbarrier
    cases hbarrier

/-- When a condition fails, neither `apply` nor a completion after it dispatches anything. -/
lemma quiet_of_not_passed (h : ¬PreflightPassed applicator plan request) :
    Quiet ((applicator.apply plan request).run []).2 ∧
      ∀ completion, Quiet ((applicator.applyAndComplete plan request completion).run []).2 := by
  have happly := ensures_apply_of_not_passed h
  refine ⟨Interaction.Ensures.of_run (happly.mono (fun _ _ hspec => hspec.quiet) fun _ _ hE => hE),
    fun completion => Interaction.Ensures.of_run ?_⟩
  unfold applyAndComplete
  refine happly.bind fun report trace hspec => ?_
  refine ensures_completeDeferredVoiceSignals.mono (fun final trace' hfinal => ?_)
    fun error trace' hraised => quiet_of_completionTrace hspec hraised
  have hcompletion : CompletionTrace plan report trace trace' := by
    cases hfinal with
    | refused message trace' hquiet => exact Or.inl hquiet
    | completed signals signalled hroute report _ trace' hquiet =>
      exact Or.inr ⟨signals, signalled, hroute, hquiet⟩
  exact quiet_of_completionTrace hspec hcompletion

/-- **The preflight guards the dispatch.**  When a preflight condition fails, no action is
dispatched, whatever the runtime answers, and a report says that the application failed with the
messages of the preflight.  In particular nothing is dispatched when a required action depends,
directly or not, on an action whose target does not support the capability it requires. -/
theorem failed_preflight_dispatches_nothing (applicator : ConfigurationApplicator)
    (plan : ConfigurationPlan) (request : ApplyRequest) :
    (¬PreflightPassed applicator plan request →
      Quiet ((applicator.apply plan request).run []).2 ∧
      (∀ completion, Quiet ((applicator.applyAndComplete plan request completion).run []).2) ∧
      ∀ report, ((applicator.apply plan request).run []).1 = .ok report →
        report.status = .failed ∧ report.preflightErrors ≠ []) ∧
    ∀ inventory targets, applicator.runtime.inventory [] = .ok inventory →
      resolveTargets plan request inventory = .ok targets →
      ∀ action ∈ plan.actions, action.critical → ∀ refused ∈ plan.actions,
        LacksCapability plan request targets refused →
        ReflTransGen (Depends plan.actions) action.id refused.id →
          Quiet ((applicator.apply plan request).run []).2 ∧
          ∀ completion, Quiet ((applicator.applyAndComplete plan request completion).run []).2 := by
  constructor
  · intro h
    obtain ⟨happly, hcomplete⟩ := quiet_of_not_passed h
    refine ⟨happly, hcomplete, fun report hreport => ?_⟩
    have hspec : RefusedSpec report ((applicator.apply plan request).run []).2 :=
      (ensures_apply_of_not_passed h).of_run_eq_ok (Prod.ext hreport rfl)
    exact ⟨hspec.status, hspec.preflightErrors⟩
  · intro inventory targets hinventory htargets action haction hcritical refused hrefused hlacks
      hdepends
    refine quiet_of_not_passed fun hpassed => ?_
    obtain ⟨inventory', targets', hinventory', htargets', hall⟩ := hpassed.targets
    cases hinventory.symm.trans hinventory'
    cases htargets.symm.trans htargets'
    exact hall.capabilities action haction hcritical refused hrefused hlacks hdepends

/-! ## Completeness -/

/-- The actions that a request mutates. -/
def mutatedIds (plan : ConfigurationPlan) (request : ApplyRequest) : List String :=
  (mutationScope plan request.mutationActionIds request.retainedActionResults).mutationIds

/-- An action was applied: an earlier run did so, or the runtime answered that it did. -/
def Applied (plan : ConfigurationPlan) (request : ApplyRequest) (trace : List RuntimeEvent)
    (identifier : String) : Prop :=
  identifier ∉ mutatedIds plan request ∨ ∃ event ∈ trace, event.reportedApplied identifier

/-- No action ends as blocked, and one whose dependencies are all applied is applied. -/
structure PlanCompleted (plan : ConfigurationPlan) (request : ApplyRequest)
    (report : ConfigurationApplicationResult) (trace : List RuntimeEvent) : Prop where
  unblocked : ∀ item ∈ report.actionResults, item.status ≠ .dependencyBlocked
  applied : ∀ action ∈ plan.actions, (∀ d ∈ action.dependsOn, Applied plan request trace d) →
    Applied plan request trace action.id

/-- Every dispatched mutation succeeds. -/
def MutationsSucceed (trace : List RuntimeEvent) : Prop :=
  ∀ event ∈ trace, ∀ action ∈ event.dispatched, event.reportedApplied action.id

/-- A mutated action depends on mutated actions of earlier phases only. -/
def PhasesSeparate (plan : ConfigurationPlan) (request : ApplyRequest) : Prop :=
  ∀ action ∈ plan.actions, action.id ∈ mutatedIds plan request →
    ∀ d ∈ action.dependsOn, d ∈ mutatedIds plan request →
      ∃ dependency ∈ plan.actions, dependency.id = d ∧
        dependency.phase.value < action.phase.value

variable {run : AppliedRun} {report : ConfigurationApplicationResult} {trace : List RuntimeEvent}
  {planned : ConfigurationAction} {result : ActionApplicationResult}

lemma MutationsSucceed.mutationsApplied (h : MutationsSucceed trace) : MutationsApplied trace := by
  intro event hevent identifier result hresult
  rw [RuntimeEvent.satisfies_iff_reportedApplied hresult]
  cases event with
  | applyActions actions answer =>
    obtain ⟨action, haction, rfl, -⟩ := exists_of_get?_dispatchResults hresult
    exact h _ hevent action haction
  | inventory answer => cases hresult
  | verify expectations answer | waitForVoiceAccessForwarding expectations answer => cases hresult

/-! ## What is reported -/

lemma AppliedSpec.mutatedIds_eq (h : AppliedSpec plan request run report trace) :
    mutatedIds plan request = run.prepared.scope.mutationIds := by
  rw [mutatedIds, h.accepted.scope_eq]

lemma AppliedSpec.looped_subset (h : AppliedSpec plan request run report trace) :
    run.looped ⊆ trace := by
  rcases h.voice with ⟨_, spec⟩ | ⟨_, barrier, spec⟩
  · obtain ⟨more, rfl, -⟩ := spec.quiet
    exact List.subset_append_left _ _
  obtain ⟨more, hjudged, -⟩ := spec.quietBefore
  obtain ⟨rest, rfl, -⟩ := spec.quietAfter
  rcases spec.signal.dispatched_or_eq with ⟨-, -, answer, -, hsignalled⟩ | ⟨-, hsignalled⟩
  · rw [hsignalled, hjudged, List.append_assoc, List.append_assoc]
    exact List.subset_append_left _ _
  · rw [hsignalled, hjudged, List.append_assoc]
    exact List.subset_append_left _ _

/-- A result of the second stage is not that of a blocked action unless the main loop has it. -/
lemma SignalStage.blocked_eq {results signals : Dict String ActionApplicationResult}
    {deferred : List ConfigurationAction} {deployedNames : Dict String String} {deferSignal : Bool}
    {foundationStatus : ActionExecutionStatus} {trace' : List RuntimeEvent}
    (h : SignalStage deployedNames results deferred deferSignal foundationStatus trace signals
      trace') (happlied : MutationsApplied trace') {identifier : String}
    (hget : signals.get? identifier = some result) (hblocked : result.status = .dependencyBlocked) :
    results.get? identifier = some result := by
  cases h with
  | pending =>
    obtain ⟨action, -, hentry⟩ := List.mem_map.mp (Dict.mem_of_get?_ofList hget)
    simp only [Prod.mk.injEq] at hentry
    simp [← hentry.2, pendingSignalResult] at hblocked
  | dispatched _ _ answer =>
    have hresult : (RuntimeEvent.applyActions (deferred.map (runtimeAction deployedNames []))
        answer).result? identifier = some result := by
      rw [RuntimeEvent.result?, dispatchResults_map_runtimeAction, hget]
    have hstatus := happlied _ (by simp) identifier result hresult
    simp [hblocked, satisfiesApplyDependency] at hstatus
  | held _ preparations hpreparations =>
    obtain ⟨action, -, preparation, -, hpreparation, rfl⟩ := get?_held hpreparations hget
    rw [heldSignalResult] at hblocked ⊢
    split_ifs at hblocked ⊢ with hok
    · exact hpreparation

section Applied

variable (h : AppliedSpec plan request run report trace)
include h

/-- What the main loop applied is blocked at no later stage. -/
lemma AppliedSpec.unblocked_of_settled (happlied : MutationsApplied trace)
    (hall : ∀ action ∈ plan.actions, ∀ result, run.results.get? action.id = some result →
      satisfiesApplyDependency result.status) :
    ∀ item ∈ report.actionResults, item.status ≠ .dependencyBlocked := by
  intro item hitem hblocked
  have hunmet : satisfiesApplyDependency item.status = false := by rw [hblocked]; rfl
  have hfinal : ∀ identifier ∈ plan.actions.map ConfigurationAction.id,
      run.results.get? identifier ≠ some item := by
    intro identifier hid hget
    obtain ⟨action, haction, rfl⟩ := List.mem_map.mp hid
    simp [hall action haction item hget] at hunmet
  rw [h.report.actionResults] at hitem
  rcases h.voice with ⟨_, spec⟩ | ⟨_, barrier, spec⟩
  · obtain ⟨hid, hget⟩ := (mem_iff_of_map_get?_eq spec.actions h.loop.keyed).mp hitem
    exact hfinal _ hid hget
  obtain ⟨hid, hget⟩ :=
    (mem_iff_of_map_get?_eq spec.actions (spec.keyed h.loop.keyed)).mp hitem
  rw [Dict.get?_update] at hget
  rcases hsignal : barrier.signals.get? item.actionId with _ | signal
  · rw [hsignal, Option.none_or] at hget
    exact hfinal _ hid hget
  rw [hsignal, Option.some_or] at hget
  obtain rfl := Option.some.inj hget
  obtain ⟨rest, rfl, -⟩ := spec.quietAfter
  have hsignalled : MutationsApplied barrier.signalled := fun event hevent =>
    happlied event (List.mem_append_left _ hevent)
  exact hfinal _ hid (spec.signal.blocked_eq hsignalled hsignal hblocked)

/-- An action that the main loop left without a satisfying result is reported with it. -/
lemma AppliedSpec.reported_of_failed
    (hplanned : planned ∈ plan.actions) (hget : run.results.get? planned.id = some result)
    (hstatus : satisfiesApplyDependency result.status = false) :
    result ∈ report.actionResults := by
  have hid : result.actionId = planned.id := h.loop.keyed _ _ hget
  rw [h.report.actionResults]
  rcases h.voice with ⟨_, spec⟩ | ⟨_, barrier, spec⟩
  · rw [mem_iff_of_map_get?_eq spec.actions h.loop.keyed, hid]
    exact ⟨List.mem_map_of_mem hplanned, hget⟩
  rw [mem_iff_of_map_get?_eq spec.actions (spec.keyed h.loop.keyed), hid]
  refine ⟨List.mem_map_of_mem hplanned, spec.signal.get?_update_of_failed ?_ hget hstatus⟩
  exact fun hfoundation => (spec.foundation.verified_iff.mp hfoundation).1.2

/-! ## The results before the first phase -/

lemma AppliedSpec.start_eq_none (hrefused : ∀ item ∈ report.actionResults, item.status ≠ .skipped)
    (hplanned : planned ∈ plan.actions)
    (hmutation : planned.id ∈ run.prepared.scope.mutationIds) :
    (capabilityRefusalResults run.prepared.refusals run.prepared.scope.retained).get? planned.id =
      none := by
  by_contra hsome
  obtain ⟨result, hget⟩ := Option.ne_none_iff_exists'.mp hsome
  rcases get?_capabilityRefusalResults_cases hget with hretained | ⟨-, hskipped⟩
  · exact (h.accepted.retained planned.id result hretained).2.1 hmutation
  · have hreported := h.reported_of_failed hplanned (h.phases.kept _ _ hget)
      (by rw [hskipped]; rfl)
    exact hrefused result hreported hskipped

lemma AppliedSpec.start_of_kept (hplanned : planned ∈ plan.actions)
    (hmutation : planned.id ∉ run.prepared.scope.mutationIds) :
    ∃ result, (capabilityRefusalResults run.prepared.refusals
        run.prepared.scope.retained).get? planned.id = some result ∧
      satisfiesApplyDependency result.status := by
  obtain ⟨result, hget⟩ :=
    Option.isSome_iff_exists.mp (h.accepted.unmutated planned hplanned hmutation).1
  exact ⟨result, (h.accepted.get?_capabilityRefusalResults hmutation).trans hget,
    (h.accepted.retained _ _ hget).2.2⟩

lemma AppliedSpec.dependsOnEarlier_iff
    (hrefused : ∀ item ∈ report.actionResults, item.status ≠ .skipped)
    (hplanned : planned ∈ plan.actions) :
    DependsOnEarlier plan (capabilityRefusalResults run.prepared.refusals
        run.prepared.scope.retained) planned ↔
      ∀ d ∈ planned.dependsOn, d ∈ run.prepared.scope.mutationIds →
        ∃ dependency ∈ plan.actions, dependency.id = d ∧
          dependency.phase.value < planned.phase.value := by
  refine forall₂_congr fun d hd => ?_
  obtain ⟨dependency, hdependency, rfl⟩ := List.mem_map.mp (h.accepted.closed planned hplanned d hd)
  by_cases hmutation : dependency.id ∈ run.prepared.scope.mutationIds
  · simp [h.start_eq_none hrefused hdependency hmutation, hmutation]
  · obtain ⟨result, hget, -⟩ := h.start_of_kept hdependency hmutation
    simp [hget, hmutation]

end Applied

/-! ## The result -/

lemma AppliedSpec.completed_iff (h : AppliedSpec plan request run report trace)
    (hrefused : ∀ item ∈ report.actionResults, item.status ≠ .skipped)
    (hsucceed : MutationsSucceed trace) :
    PlanCompleted plan request report trace ↔ PhasesSeparate plan request := by
  rw [PhasesSeparate, h.mutatedIds_eq]
  constructor
  · intro hcompleted planned hplanned hmutation
    rw [← h.dependsOnEarlier_iff hrefused hplanned]
    by_contra hearlier
    obtain ⟨result, hget⟩ := Option.isSome_iff_exists.mp (h.covered planned hplanned)
    have hblocked := h.phases.blocked planned hplanned
      (h.start_eq_none hrefused hplanned hmutation) hearlier result hget
    exact hcompleted.unblocked result
      (h.reported_of_failed hplanned hget (by rw [hblocked]; rfl)) hblocked
  · intro hseparate
    have happlied := hsucceed.mutationsApplied
    have hall : ∀ action ∈ plan.actions, ∀ result,
        run.results.get? action.id = some result → satisfiesApplyDependency result.status := by
      refine h.phases.applied (fun event hevent => happlied event (h.looped_subset hevent))
        (fun action haction result hget => ?_) fun action haction hnone => ?_
      · rcases get?_capabilityRefusalResults_cases hget with hretained | ⟨-, hskipped⟩
        · exact (h.accepted.retained action.id result hretained).2.2
        · have hreported := h.reported_of_failed haction (h.phases.kept _ _ hget)
            (by rw [hskipped]; rfl)
          exact absurd hskipped (hrefused result hreported)
      · refine (h.dependsOnEarlier_iff hrefused haction).mpr (hseparate action haction ?_)
        by_contra hmutation
        obtain ⟨result, hget, -⟩ := h.start_of_kept haction hmutation
        simp [hget] at hnone
    refine ⟨h.unblocked_of_settled happlied hall, fun action haction _ => ?_⟩
    rw [Applied, h.mutatedIds_eq]
    by_cases hmutation : action.id ∈ run.prepared.scope.mutationIds
    · obtain ⟨result, hget⟩ := Option.isSome_iff_exists.mp (h.covered action haction)
      obtain ⟨event, hevent, hreported, -⟩ := h.loop.dispatched_of_settled h.accepted haction
        hmutation ⟨result, hget, hall action haction result hget⟩
      exact Or.inr ⟨event, h.looped_subset hevent, hreported⟩
    · exact Or.inl hmutation

/-- **When a plan is completed.**  A run of an accepted plan in which no action is refused and
every dispatched mutation succeeds completes the plan exactly when its mutated actions depend on
mutated actions of earlier phases only. -/
theorem completed_iff_phasesSeparate (applicator : ConfigurationApplicator)
    (plan : ConfigurationPlan) (request : ApplyRequest)
    (report : ConfigurationApplicationResult)
    (hreport : ((applicator.apply plan request).run []).1 = .ok report)
    (haccepted : report.preflightErrors = [])
    (hrefused : ∀ item ∈ report.actionResults, item.status ≠ .skipped)
    (hsucceed : MutationsSucceed ((applicator.apply plan request).run []).2) :
    PlanCompleted plan request report ((applicator.apply plan request).run []).2 ↔
      PhasesSeparate plan request := by
  cases applySpec_of_run hreport with
  | refused spec => exact absurd haccepted spec.preflightErrors
  | applied run spec => exact spec.completed_iff hrefused hsucceed

/-! ## Two VLANs of one phase -/

instance (trace : List RuntimeEvent) : Decidable (MutationsSucceed trace) :=
  inferInstanceAs (Decidable (∀ event ∈ trace, ∀ action ∈ event.dispatched, _))

instance (plan : ConfigurationPlan) (request : ApplyRequest) :
    Decidable (PhasesSeparate plan request) :=
  inferInstanceAs (Decidable (∀ action ∈ plan.actions, _ → ∀ d ∈ action.dependsOn, _ →
    ∃ dependency ∈ plan.actions, _))

/-- Two VLANs of one switch, of which the second depends on the first. -/
def chainedVlanPlan : ConfigurationPlan where
  id := "plan"
  sourceTopologyHash := "topology"
  actions := [
    { id := "data", phase := .l2Definitions, deviceId := "sw", deviceName := "Switch0"
      siteId := "site", detail := .createVlan 10 "DATA" "segment" },
    { id := "voice", phase := .l2Definitions, deviceId := "sw", deviceName := "Switch0"
      siteId := "site", dependsOn := ["data"], detail := .createVlan 20 "VOICE" "segment" }]
  devices := [{ deviceId := "sw", deviceName := "Switch0", model := "2960-24TT" }]
  verificationExpectations := []

/-- **A run that succeeds throughout may leave an action of the plan blocked.** -/
theorem not_forall_planCompleted :
    ¬∀ (applicator : ConfigurationApplicator) (plan : ConfigurationPlan) (request : ApplyRequest)
      (report : ConfigurationApplicationResult),
      ((applicator.apply plan request).run []).1 = .ok report → report.preflightErrors = [] →
        (∀ item ∈ report.actionResults, item.status ≠ .skipped) →
          MutationsSucceed ((applicator.apply plan request).run []).2 →
            ∀ item ∈ report.actionResults, item.status ≠ .dependencyBlocked := by
  intro hall
  obtain ⟨report, hreport, hspec⟩ : ∃ report,
      (((scriptedApplicator fun _ => .changed).apply chainedVlanPlan plainRequest).run []).1 =
        .ok report ∧ report.preflightErrors = [] ∧
        (∀ item ∈ report.actionResults, item.status ≠ .skipped) ∧
        ∃ item ∈ report.actionResults, item.status = .dependencyBlocked :=
    ⟨_, rfl, by decide⟩
  obtain ⟨item, hitem, hblocked⟩ := hspec.2.2
  exact hall _ _ _ report hreport hspec.1 hspec.2.1 (by decide) item hitem hblocked

/-- An access port after its VLAN. -/
theorem completed_voicePort :
    ∃ report, (((scriptedApplicator fun _ => .changed).apply voicePortPlan
        plainRequest).run []).1 = .ok report ∧
      PlanCompleted voicePortPlan plainRequest report
        (((scriptedApplicator fun _ => .changed).apply voicePortPlan plainRequest).run []).2 :=
  ⟨_, rfl, (completed_iff_phasesSeparate (scriptedApplicator fun _ => .changed) voicePortPlan
    plainRequest _ rfl (by decide) (by decide) (by decide)).mpr (by decide)⟩

end ConfigurationApplicator

namespace ConfigurationApplicator

/-- Mutations of different devices are dispatched to different runtime names. -/
def TargetsApart (trace : List RuntimeEvent) : Prop :=
  ∀ event ∈ trace, ∀ action ∈ event.dispatched, ∀ event' ∈ trace, ∀ other ∈ event'.dispatched,
    action.deviceId ≠ other.deviceId → action.deviceName ≠ other.deviceName

/-- The runtime name that a mutation is dispatched to. -/
def runtimeName (names : Dict String String) (action : ConfigurationAction) : String :=
  (runtimeAction names [] action).deviceName

/-- The mutations of different devices resolve to different runtime names. -/
def NamesApart (plan : ConfigurationPlan) (request : ApplyRequest) (names : Dict String String) :
    Prop :=
  ∀ action ∈ plan.actions, action.id ∈ mutatedIds plan request → ∀ other ∈ plan.actions,
    other.id ∈ mutatedIds plan request → action.deviceId ≠ other.deviceId →
      runtimeName names action ≠ runtimeName names other

/-- Everything that is dispatched is a mutation under its runtime name. -/
def DispatchedTo (plan : ConfigurationPlan) (request : ApplyRequest) (names : Dict String String)
    (trace : List RuntimeEvent) : Prop :=
  ∀ event ∈ trace, ∀ action ∈ event.dispatched, ∃ planned ∈ plan.actions,
    planned.id ∈ mutatedIds plan request ∧ action.deviceId = planned.deviceId ∧
      action.deviceName = runtimeName names planned

variable {plan : ConfigurationPlan} {request : ApplyRequest} {names : Dict String String}
  {trace trace' : List RuntimeEvent} {prepared : PreparedApplication} {run : AppliedRun}
  {report : ConfigurationApplicationResult} {deferredIds : List String}

lemma DispatchedTo.targetsApart (h : DispatchedTo plan request names trace)
    (hnames : NamesApart plan request names) : TargetsApart trace := by
  intro event hevent action haction event' hevent' other hother hdevice
  obtain ⟨planned, hplanned, hmutated, hid, hname⟩ := h event hevent action haction
  obtain ⟨planned', hplanned', hmutated', hid', hname'⟩ := h event' hevent' other hother
  rw [hname, hname']
  exact hnames planned hplanned hmutated planned' hplanned' hmutated' (hid ▸ hid' ▸ hdevice)

lemma DispatchedTo.quietlyExtends (h : DispatchedTo plan request names trace)
    (hquiet : QuietlyExtends trace trace') : DispatchedTo plan request names trace' := by
  obtain ⟨more, rfl, hmore⟩ := hquiet
  intro event hevent action haction
  rcases List.mem_append.mp hevent with hevent | hevent
  · exact h event hevent action haction
  · simp [hmore event hevent] at haction

lemma LoopTrace.dispatchedTo (h : LoopTrace plan prepared deferredIds trace)
    (hplan : AcceptedPlan plan request prepared) :
    DispatchedTo plan request prepared.deployedNames trace := by
  intro event hevent action haction
  obtain ⟨planned, hplanned, hmutated, rfl⟩ := h.planned event hevent action haction
  rw [mutatedIds, ← hplan.scope_eq]
  exact ⟨planned, hplanned, hmutated, rfl, rfl⟩

/-- Every dispatch of an accepted plan, in the main loop or in the second stage. -/
lemma AppliedSpec.dispatchedTo (h : AppliedSpec plan request run report trace) :
    DispatchedTo plan request run.prepared.deployedNames trace := by
  have hloop := h.loop.toLoopTrace.dispatchedTo h.accepted
  rcases h.voice with ⟨_, spec⟩ | ⟨_, barrier, spec⟩
  · exact hloop.quietlyExtends spec.quiet
  refine DispatchedTo.quietlyExtends ?_ spec.quietAfter
  rcases spec.signal.dispatched_or_eq with ⟨hflag, -, answer, -, hsignalled⟩ | ⟨-, hsignalled⟩
  · rw [hsignalled]
    intro event hevent action haction
    rcases List.mem_concat_iff.mp hevent with hevent | rfl
    · exact hloop.quietlyExtends spec.quietBefore event hevent action haction
    obtain ⟨planned, hplanned, rfl⟩ := List.mem_map.mp haction
    obtain ⟨hmem, hscope, -⟩ := mem_deferredVoiceActions.mp hplanned
    -- without the flag no deferred action is retained
    have hnone : request.retainedDeferredVoiceActionIds = [] := by
      by_contra hne
      simp [h.accepted.deferFlag hne] at hflag
    rw [hnone] at hscope
    refine ⟨planned, hmem, ?_, rfl, rfl⟩
    rw [h.mutatedIds_eq]
    exact hscope.resolve_right List.not_mem_nil
  · rw [hsignalled]
    exact hloop.quietlyExtends spec.quietBefore

/-- **Dispatches stay apart.**  Where the preflight resolves the mutated devices to different
runtime names, no two of them are dispatched to one. -/
theorem targetsApart_of_namesApart (applicator : ConfigurationApplicator)
    (plan : ConfigurationPlan) (request : ApplyRequest)
    (hnames : ∀ inventory targets, applicator.runtime.inventory [] = .ok inventory →
      resolveTargets plan request inventory = .ok targets →
        NamesApart plan request (runtimeNames plan targets)) :
    TargetsApart ((applicator.apply plan request).run []).2 := by
  have hquiet : ∀ {trace : List RuntimeEvent}, Quiet trace → TargetsApart trace :=
    fun {trace} h event hevent action haction => by simp [h event hevent] at haction
  refine Interaction.Ensures.of_run ?_
  unfold apply
  rw [Interaction.ensures_bind]
  refine (ensures_preflight.and ensures_preflight_passed).mono
    (fun outcome trace houtcome => ?_) fun e trace hE => hquiet hE.1
  obtain ⟨⟨hsilent, hrefused, haccepted⟩, hpassed⟩ := houtcome
  rcases outcome with refusal | prepared
  · exact (ensures_preflightFailure (hrefused refusal rfl) hsilent).mono
      (fun report trace h => hquiet h.quiet) fun e trace hE => hE.elim
  obtain ⟨-, inventory, targets, hinventory, htargets, hdeployed⟩ := hpassed prepared rfl
  have hapart := hnames inventory targets hinventory htargets
  rw [← hdeployed] at hapart
  have hplan := haccepted prepared rfl
  refine (ensures_applyPrepared hplan hsilent).mono (fun report trace h => ?_)
    fun e trace hE => (hE.2.dispatchedTo hplan).targetsApart hapart
  obtain ⟨run, rfl, spec⟩ := h
  exact spec.dispatchedTo.targetsApart hapart

/-! ## Two switches bound to one -/

instance (trace : List RuntimeEvent) : Decidable (TargetsApart trace) :=
  inferInstanceAs (Decidable (∀ event ∈ trace, ∀ action ∈ event.dispatched, ∀ event' ∈ trace,
    ∀ other ∈ event'.dispatched, _ → _))

instance (plan : ConfigurationPlan) (request : ApplyRequest) (names : Dict String String) :
    Decidable (NamesApart plan request names) :=
  inferInstanceAs (Decidable (∀ action ∈ plan.actions, _ → ∀ other ∈ plan.actions, _ → _ → _))

/-- A VLAN on each of two switches. -/
def twoSwitchPlan : ConfigurationPlan where
  id := "plan"
  sourceTopologyHash := "topology"
  actions := [
    { id := "vlan1", phase := .l2Definitions, deviceId := "sw1", deviceName := "Switch1"
      siteId := "site", detail := .createVlan 10 "DATA" "segment" },
    { id := "vlan2", phase := .l2Definitions, deviceId := "sw2", deviceName := "Switch2"
      siteId := "site", detail := .createVlan 20 "VOICE" "segment" }]
  devices := [
    { deviceId := "sw1", deviceName := "Switch1", model := "2960-24TT" },
    { deviceId := "sw2", deviceName := "Switch2", model := "2960-24TT" }]
  verificationExpectations := []

/-- A manifest that binds both switches to the same one. -/
def sharedRequest : ApplyRequest where
  actualSourceTopologyHash := "topology"
  runtimeContext := { environmentFingerprint := some {} }
  deploymentManifest := some
    { deploymentId := "deployment"
      physicalTopologyHash := "topology"
      bindings := [
        { semanticDeviceId := "sw1", deployedName := "Switch0", model := "2960-24TT" },
        { semanticDeviceId := "sw2", deployedName := "Switch0", model := "2960-24TT" }] }

/-- **Two devices may be dispatched to one runtime target.** -/
theorem not_forall_targetsApart :
    ¬∀ (applicator : ConfigurationApplicator) (plan : ConfigurationPlan)
      (request : ApplyRequest), TargetsApart ((applicator.apply plan request).run []).2 := by
  intro hall
  have hshared : ¬TargetsApart (((scriptedApplicator fun _ => .changed).apply twoSwitchPlan
      sharedRequest).run []).2 := by
    decide
  exact hshared (hall _ _ _)

/-- The VLAN and the access port of one switch. -/
theorem targetsApart_voicePort :
    TargetsApart (((scriptedApplicator fun _ => .changed).apply voicePortPlan
      plainRequest).run []).2 := by
  refine targetsApart_of_namesApart _ _ _ fun inventory targets hinventory htargets => ?_
  obtain rfl := Except.ok.inj hinventory
  obtain rfl := Except.ok.inj htargets
  decide

end ConfigurationApplicator

end PacketTracer
