import PacketTracer.Application.CanonicalStages
import PacketTracer.Library.CumulativePlan

/-!
# No replay over a run of stages

The transition contract and the scope of the executor check a delta, except that nobody asks for the
previous Voice plan when the current stage has none.  A run in which every stage takes its scope
from the projection before it and passes its audit is a cumulative run on each surface: only a Voice
action whose phone files expand is executed again.
-/

namespace PacketTracer

namespace Canonical

open Dicts PyText Plans CumulativePlan

/-! ## Plans by identifier -/

section ById

variable {α : Type} [DecidableEq α] {identifier : α → String} {previous current : List α}

omit [DecidableEq α] in
lemma map_fst_entries (identifier : α → String) (actions : List α) :
    (actions.map fun item => (identifier item, item)).map Prod.fst = actions.map identifier := by
  simp [Function.comp_def]

omit [DecidableEq α] in
lemma size_actionsById_iff :
    (actionsById identifier previous).size = previous.length ↔
      (previous.map identifier).Nodup := by
  rw [← map_fst_entries]
  constructor
  · intro h
    refine Dict.nodup_keys_of_length_ofList (h.trans ?_)
    simp
  · intro h
    have hlength := Dict.length_ofList_of_nodup h
    simpa [actionsById, Dict.size] using hlength

omit [DecidableEq α] in
variable {k : String}

lemma get?_actionsById_iff (hnodup : (previous.map identifier).Nodup) {a : α} :
    (actionsById identifier previous).get? k = some a ↔ a ∈ previous ∧ identifier a = k := by
  constructor
  · intro h
    have hmem := Dict.mem_of_get?_ofList h
    obtain ⟨b, hb, heq⟩ := List.mem_map.mp hmem
    cases heq
    exact ⟨hb, rfl⟩
  · rintro ⟨ha, rfl⟩
    refine Dict.get?_ofList_of_mem ?_ (List.mem_map.mpr ⟨a, ha, rfl⟩)
    rwa [map_fst_entries]

omit [DecidableEq α] in
lemma isNone_get?_actionsById_iff :
    ((actionsById identifier previous).get? k).isNone ↔ k ∉ previous.map identifier := by
  have hsome : (Dict.get? (actionsById identifier previous) k).isSome ↔
      k ∈ (previous.map fun item => (identifier item, item)).map Prod.fst :=
    Dict.isSome_get?_ofList_iff
  rw [map_fst_entries] at hsome
  rw [← hsome, actionsById]
  simp

omit [DecidableEq α] in
lemma omittedIds_eq_nil_iff :
    omittedIds (actionsById identifier previous) (actionsById identifier current) = [] ↔
      ∀ a ∈ previous, identifier a ∈ current.map identifier := by
  have hkeys : ∀ k, k ∈ (actionsById identifier previous).keys ↔ k ∈ previous.map identifier := by
    intro k
    rw [← Dict.isSome_get?_iff_mem_keys, actionsById, Dict.isSome_get?_ofList_iff, map_fst_entries]
  rw [omittedIds, sortedBy_eq_nil, List.filter_eq_nil_iff]
  simp only [isNone_get?_actionsById_iff, hkeys, not_not, List.forall_mem_map]

/-- The changed identifiers are those whose action differs. -/
lemma mem_changedIds_iff (hprevious : (previous.map identifier).Nodup)
    (hcurrent : (current.map identifier).Nodup)
    (hkept : ∀ a ∈ previous, identifier a ∈ current.map identifier) :
    k ∈ changedIds (actionsById identifier previous) (actionsById identifier current) ↔
      Changed identifier previous current k := by
  simp only [changedIds, List.mem_map, List.mem_filter, decide_eq_true_eq, ne_eq, Prod.exists,
    ← Dict.get?_eq_some_iff_mem, get?_actionsById_iff hprevious, get?_actionsById_iff hcurrent]
  constructor
  · rintro ⟨k, a, ⟨⟨ha, rfl⟩, hnot⟩, rfl⟩
    obtain ⟨b, hb, hkey⟩ := List.mem_map.mp (hkept a ha)
    refine ⟨a, ha, b, hb, rfl, hkey, ?_⟩
    rintro rfl
    exact hnot ⟨hb, rfl⟩
  · rintro ⟨a, ha, b, hb, rfl, hkey, hne⟩
    refine ⟨identifier a, a, ⟨⟨ha, rfl⟩, ?_⟩, rfl⟩
    rintro ⟨hac, -⟩
    exact hne (List.inj_on_of_nodup_map hcurrent hac hb hkey.symm)

/-- What the checks of two plans establish. -/
lemma delta_of_checks {expands : α → α → Prop} {ids : List String}
    (hprevious : (previous.map identifier).Nodup) (hcurrent : (current.map identifier).Nodup)
    (hkept : ∀ a ∈ previous, identifier a ∈ current.map identifier)
    (hchanged : ∀ k ∈ changedIds (actionsById identifier previous)
      (actionsById identifier current), ∃ a ∈ previous, ∃ b ∈ current,
        identifier a = k ∧ identifier b = k ∧ expands a b)
    (hids : ∀ k, k ∈ ids ↔ k ∈ current.map identifier ∧ (k ∉ previous.map identifier ∨
      k ∈ changedIds (actionsById identifier previous) (actionsById identifier current))) :
    Delta identifier expands previous current ids where
  kept := hkept
  unchanged := by
    intro a ha b hb hkey
    by_cases heq : a = b
    · exact Or.inl heq
    have hmem := (mem_changedIds_iff hprevious hcurrent hkept).mpr
      ⟨a, ha, b, hb, rfl, hkey.symm, heq⟩
    obtain ⟨a', ha', b', hb', hak, hbk, hexpands⟩ := hchanged _ hmem
    obtain rfl : a' = a := List.inj_on_of_nodup_map hprevious ha' ha hak
    obtain rfl : b' = b := List.inj_on_of_nodup_map hcurrent hb' hb (hbk.trans hkey)
    exact Or.inr hexpands
  authorized_iff := by
    intro k
    rw [hids, mem_changedIds_iff hprevious hcurrent hkept]

/-- The check that lets nothing change establishes a rigid delta. -/
lemma delta_of_cumulativeMutationIds {texts : CumulativeTexts} {ids : List String}
    (h : cumulativeMutationIds texts identifier previous current = .ok ids) :
    Delta identifier (fun _ _ => False) previous current ids := by
  simp only [cumulativeMutationIds] at h
  split_ifs at h with hprevious hcurrent homitted hchanged
  rw [ne_eq, not_not, size_actionsById_iff] at hprevious hcurrent
  rw [ne_eq, not_not, omittedIds_eq_nil_iff] at homitted
  rw [ne_eq, not_not, sortedBy_eq_nil] at hchanged
  cases h
  refine delta_of_checks hprevious hcurrent homitted (by simp [hchanged]) fun k => ?_
  simp only [hchanged, List.not_mem_nil, or_false, List.mem_map, List.mem_filter,
    isNone_get?_actionsById_iff]
  constructor
  · rintro ⟨a, ⟨ha, hnew⟩, rfl⟩
    exact ⟨⟨a, ha, rfl⟩, by simpa using hnew⟩
  · rintro ⟨⟨a, ha, rfl⟩, hnew⟩
    exact ⟨a, ⟨ha, by simpa using hnew⟩, rfl⟩

end ById

/-- The expansions that a Voice action may go through. -/
abbrev Expands (previousAction currentAction : Voice.VoiceAction) : Prop :=
  allowsExpansion previousAction currentAction = true

/-- The check of two Voice plans establishes a delta that lets the phone files expand. -/
lemma delta_of_canonicalStageVoiceMutationIds {previous current : Voice.VoicePlan}
    {ids : List String} (h : canonicalStageVoiceMutationIds previous current = .ok ids) :
    Delta Voice.VoiceAction.id Expands previous.actions current.actions ids := by
  simp only [canonicalStageVoiceMutationIds] at h
  split_ifs at h with hprevious hcurrent homitted hinvalid
  rw [ne_eq, not_not, size_actionsById_iff] at hprevious hcurrent
  rw [ne_eq, not_not, omittedIds_eq_nil_iff] at homitted
  rw [ne_eq, not_not, List.filter_eq_nil_iff] at hinvalid
  cases h
  refine delta_of_checks hprevious hcurrent homitted (fun k hk => ?_) fun k => ?_
  · have hany := hinvalid k hk
    simp only [Bool.not_eq_true, Bool.not_eq_false', Option.any_eq_true,
      get?_actionsById_iff hprevious, get?_actionsById_iff hcurrent] at hany
    obtain ⟨a, ⟨ha, hak⟩, b, ⟨hb, hbk⟩, hexpands⟩ := hany
    exact ⟨a, ha, b, hb, hak, hbk, hexpands⟩
  · simp only [List.mem_map, List.mem_filter, Bool.or_eq_true, decide_eq_true_eq,
      isNone_get?_actionsById_iff]
    constructor
    · rintro ⟨a, ⟨ha, hcases⟩, rfl⟩
      exact ⟨⟨a, ha, rfl⟩, by simpa using hcases⟩
    · rintro ⟨⟨a, ha, rfl⟩, hcases⟩
      exact ⟨a, ⟨ha, by simpa using hcases⟩, rfl⟩

/-! ## Voice plans that may be absent -/

section VoicePlans

variable {previous current : Option Voice.VoicePlan} {ids : List String}

lemma scopeVoiceMutationIds_eq (previous current : Option Voice.VoicePlan) :
    scopeVoiceMutationIds previous current = transitionVoiceMutationIds previous current := by
  rcases current with _ | current
  · rfl
  rcases previous with _ | previous
  · rfl
  by_cases h : previous.actions = []
  · simp [scopeVoiceMutationIds, transitionVoiceMutationIds, h]
  · simp [scopeVoiceMutationIds, transitionVoiceMutationIds, h]

/-- The previous stage has Voice actions and the current one has no Voice plan at all. -/
def VoicePlanDisappears (previous current : Option Voice.VoicePlan) : Prop :=
  voiceActions previous ≠ [] ∧ current = none

/-- Unless a Voice plan disappears, the Voice ids are a delta. -/
lemma delta_of_transitionVoiceMutationIds
    (h : transitionVoiceMutationIds previous current = .ok ids)
    (hstays : ¬ VoicePlanDisappears previous current) :
    Delta Voice.VoiceAction.id Expands (voiceActions previous) (voiceActions current) ids := by
  cases current with
  | none =>
    have hempty : voiceActions previous = [] := by
      by_contra hne
      exact hstays ⟨hne, rfl⟩
    cases h
    rw [hempty]
    exact Delta.of_nil _ _ []
  | some current =>
    have hfirst : voiceActions previous = [] → ids = current.actions.map Voice.VoiceAction.id →
        Delta Voice.VoiceAction.id Expands (voiceActions previous) current.actions ids := by
      rintro hempty rfl
      rw [hempty]
      exact Delta.of_nil _ _ _
    rcases previous with _ | previous
    · exact hfirst rfl (Except.ok.inj h).symm
    simp only [transitionVoiceMutationIds] at h
    split_ifs at h with hempty
    · exact hfirst hempty (Except.ok.inj h).symm
    · exact delta_of_canonicalStageVoiceMutationIds h

end VoicePlans

/-! ## The scope of the executor -/

variable {α : Type}

@[simp] lemma orValueError_eq_ok {check : Except String α} {value : α} :
    orValueError check = .ok value ↔ check = .ok value := by
  cases check <;> simp [orValueError]

/-- The ids that a scope authorizes on its three surfaces. -/
structure Authorizes (scope : CPScaleMutationScope) (configuration control voice : List String) :
    Prop where
  configuration : scope.configuration = configuration
  controlPlane : scope.controlPlane = control
  voice : scope.voice = voice

/-- Where the checks of two plans return, the executor authorizes what they return or stops because
it lacks what the previous stage retained. -/
lemma stageMutationScope_cases {continuity : CPScaleStageContinuity}
    {previous current : CPScaleCanonicalStageProjection} {configuration control voice : List String}
    (hprevious : continuity.previousProjection = some previous)
    (hconfiguration : canonicalStageConfigurationMutationIds previous.configuration
      current.configuration = .ok configuration)
    (hcontrol : canonicalStageControlPlaneMutationIds previous.controlPlane
      current.controlPlane = .ok control)
    (hvoice : transitionVoiceMutationIds previous.voice current.voice = .ok voice) :
    (∃ scope, stageMutationScope continuity current = .ok scope ∧
      Authorizes scope configuration control voice) ∨
    ∃ message, stageMutationScope continuity current = .error (.stopped message) := by
  simp only [stageMutationScope, hprevious, Option.isNone_some, Option.map_some, surfaceMutationIds,
    hconfiguration, hcontrol, orValueError, Option.bind_some, scopeVoiceMutationIds_eq, hvoice,
    bind, Except.bind, throw, throwThe, MonadExceptOf.throw, pure, Except.pure]
  split_ifs
  · exact Or.inr ⟨_, rfl⟩
  · exact Or.inr ⟨_, rfl⟩
  · exact Or.inr ⟨_, rfl⟩
  · exact Or.inl ⟨_, rfl, rfl, rfl, rfl⟩

/-! ## The contract -/

/-- A surface of a transition: its mutation ids are the delta of the two plans, and with the
retained ids they are the current plan. -/
structure SurfaceTransition {α : Type} (identifier : α → String) (expands : α → α → Prop)
    (previous current : List α) (mutationIds retained : List String) : Prop where
  delta : Delta identifier expands previous current mutationIds
  covers : ∀ k, k ∈ current.map identifier ↔ k ∈ retained ∨ k ∈ mutationIds

lemma SurfaceTransition.of_delta {identifier : α → String} {expands : α → α → Prop}
    {previous current : List α} {mutationIds : List String}
    (h : Delta identifier expands previous current mutationIds) :
    SurfaceTransition identifier expands previous current mutationIds
      (sortedSet (previous.map identifier)) where
  delta := h
  covers := by simpa only [mem_sortedSet] using h.covers

/-- What a transition says about the two projections and about the executor. -/
structure TransitionSound (previous current : CPScaleCanonicalStageProjection)
    (transition : CPScaleCanonicalStageTransition) : Prop where
  configuration : SurfaceTransition ConfigurationAction.id (fun _ _ => False)
    previous.configuration.actions current.configuration.actions
    transition.configurationMutationIds transition.configurationRetainedIds
  controlPlane : SurfaceTransition ControlPlaneAction.id (fun _ _ => False)
    previous.controlPlane.actions current.controlPlane.actions
    transition.controlPlaneMutationIds transition.controlPlaneRetainedIds
  voice : SurfaceTransition Voice.VoiceAction.id Expands
    (voiceActions previous.voice) (voiceActions current.voice)
    transition.voiceMutationIds transition.voiceRetainedIds
  /-- The executor authorizes the same ids, or stops without a scope. -/
  executor : ∀ continuity : CPScaleStageContinuity,
    continuity.previousProjection = some previous →
      (∃ scope, stageMutationScope continuity current = .ok scope ∧
        Authorizes scope transition.configurationMutationIds transition.controlPlaneMutationIds
          transition.voiceMutationIds) ∨
      ∃ message, stageMutationScope continuity current = .error (.stopped message)

/-- The parts of a transition that the contract returns. -/
lemma canonicalStageTransitionContract_parts
    {computeTopologyHashes : Plans.TopologyPlan → TopologyHashes}
    {previous current : CPScaleCanonicalStageProjection}
    {transition : CPScaleCanonicalStageTransition}
    (h : canonicalStageTransitionContract computeTopologyHashes previous current =
      .ok transition) :
    canonicalStageConfigurationMutationIds previous.configuration current.configuration =
        .ok transition.configurationMutationIds ∧
      canonicalStageControlPlaneMutationIds previous.controlPlane current.controlPlane =
        .ok transition.controlPlaneMutationIds ∧
      transitionVoiceMutationIds previous.voice current.voice = .ok transition.voiceMutationIds ∧
      transition.configurationRetainedIds =
        sortedSet (previous.configuration.actions.map ConfigurationAction.id) ∧
      transition.controlPlaneRetainedIds =
        sortedSet (previous.controlPlane.actions.map ControlPlaneAction.id) ∧
      transition.voiceRetainedIds =
        sortedSet ((voiceActions previous.voice).map Voice.VoiceAction.id) := by
  simp only [canonicalStageTransitionContract] at h
  split_ifs at h
  · simp [throw, throwThe, MonadExceptOf.throw, bind, Except.bind] at h
  simp only [Fallible.bind_eq_ok] at h
  obtain ⟨delta, -, configuration, hconfiguration, control, hcontrol, voice, hvoice, h⟩ := h
  cases h
  exact ⟨hconfiguration, hcontrol, hvoice, rfl, rfl, rfl⟩

/-- **An accepted transition is a delta of the three plans, and the executor's scope is the same,
exactly when no Voice plan disappears.** -/
theorem transitionSound_iff {computeTopologyHashes : Plans.TopologyPlan → TopologyHashes}
    {previous current : CPScaleCanonicalStageProjection}
    {transition : CPScaleCanonicalStageTransition}
    (h : canonicalStageTransitionContract computeTopologyHashes previous current =
      .ok transition) :
    TransitionSound previous current transition ↔
      ¬ VoicePlanDisappears previous.voice current.voice := by
  obtain ⟨hconfiguration, hcontrol, hvoice, hretained, hretainedControl, hretainedVoice⟩ :=
    canonicalStageTransitionContract_parts h
  constructor
  · rintro hsound ⟨hactions, hnone⟩
    obtain ⟨action, rest, heq⟩ := List.exists_cons_of_ne_nil hactions
    have hkept := hsound.voice.delta.kept action (by simp [heq])
    simp [hnone, voiceActions] at hkept
  · intro hstays
    have hdelta := delta_of_cumulativeMutationIds hconfiguration
    have hdeltaControl := delta_of_cumulativeMutationIds hcontrol
    have hdeltaVoice := delta_of_transitionVoiceMutationIds hvoice hstays
    refine ⟨?_, ?_, ?_, fun continuity hprevious =>
      stageMutationScope_cases hprevious hconfiguration hcontrol hvoice⟩
    · rw [hretained]
      exact SurfaceTransition.of_delta hdelta
    · rw [hretainedControl]
      exact SurfaceTransition.of_delta hdeltaControl
    · rw [hretainedVoice]
      exact SurfaceTransition.of_delta hdeltaVoice

/-! ## A Voice plan that disappears -/

/-- A call control that is switched on. -/
def enableCallControl : Voice.VoiceAction where
  id := "voice/enable"
  phase := .callControl
  callControlId := "cme"
  hostDeviceId := "r4"
  hostDeviceName := "Router4"
  hostModel := "2811"
  siteId := "main"
  requiredCapability := .callControlConfig
  detail := .enableCallControl .setValue 10 10 true

/-- A projection of a stage without devices, with the given Voice plan. -/
def bareProjection (stage : CPScaleCanonicalStage) (voice : Option Voice.VoicePlan) :
    CPScaleCanonicalStageProjection where
  stage := stage
  topology := {}
  configuration := { id := "configuration", sourceTopologyHash := "topology" }
  controlPlane :=
    { id := "control", sourceTopologyHash := "topology", sourceConfigurationId := "configuration",
      sourceConfigurationHash := "configuration" }
  voice := voice

/-- A Voice plan with the given actions. -/
def voicePlanOf (actions : List Voice.VoiceAction) : Voice.VoicePlan :=
  { id := "voice", sourceTopologyId := "topology", sourceTopologyHash := "topology",
    sourceConfigurationId := "configuration", sourceConfigurationHash := "configuration",
    actions := actions }

/-- The same digests for every topology. -/
def constantHashes : Plans.TopologyPlan → TopologyHashes :=
  fun _ => { physicalTopologyHash := "physical", artifactHash := "artifact" }

/-- A transition that keeps its Voice action is accepted, and it is sound. -/
theorem transitionSound_iff_floor1 :
    ∃ transition, canonicalStageTransitionContract constantHashes
        (bareProjection .router4Switch10 (some (voicePlanOf [enableCallControl])))
        (bareProjection .floor1 (some (voicePlanOf [enableCallControl]))) = .ok transition ∧
      (TransitionSound
        (bareProjection .router4Switch10 (some (voicePlanOf [enableCallControl])))
        (bareProjection .floor1 (some (voicePlanOf [enableCallControl]))) transition ↔
        ¬ VoicePlanDisappears (some (voicePlanOf [enableCallControl]))
          (some (voicePlanOf [enableCallControl]))) := by
  have hok : (canonicalStageTransitionContract constantHashes
      (bareProjection .router4Switch10 (some (voicePlanOf [enableCallControl])))
      (bareProjection .floor1 (some (voicePlanOf [enableCallControl])))).isOk := by
    decide
  obtain ⟨transition, htransition⟩ := Fallible.exists_of_isOk hok
  exact ⟨transition, htransition, transitionSound_iff htransition⟩

/-- A transition whose Voice plan disappears is accepted although it loses an action. -/
theorem lost_voice_plan_accepted :
    ∃ transition, canonicalStageTransitionContract constantHashes
        (bareProjection .router4Switch10 (some (voicePlanOf [enableCallControl])))
        (bareProjection .floor1 none) = .ok transition ∧
      ¬ TransitionSound
        (bareProjection .router4Switch10 (some (voicePlanOf [enableCallControl])))
        (bareProjection .floor1 none) transition := by
  have hok : (canonicalStageTransitionContract constantHashes
      (bareProjection .router4Switch10 (some (voicePlanOf [enableCallControl])))
      (bareProjection .floor1 none)).isOk := by
    decide
  obtain ⟨transition, htransition⟩ := Fallible.exists_of_isOk hok
  refine ⟨transition, htransition, fun hsound => ?_⟩
  have hkept := hsound.voice.delta.kept enableCallControl List.mem_cons_self
  exact absurd hkept (by simp [bareProjection, voiceActions])

/-! ## Runs -/

/-- Every stage takes its scope from the continuity and has a verified audit. -/
def StageRun : CPScaleStageContinuity → List CPScaleLiveStageResult → Prop
  | _, [] => True
  | continuity, result :: results =>
    result.scope = some result.mutationScope ∧
      stageMutationScope continuity result.projection = .ok result.mutationScope ∧
      (stageReplayAudit result).verified = true ∧
      StageRun (advanceCanonicalContinuity continuity result
        (result.projection.stage = .routingCore)) results

/-- No stage of the run drops the Voice plan of the stage before it. -/
def VoicePlansPersist : Option Voice.VoicePlan → List CPScaleLiveStageResult → Prop
  | _, [] => True
  | previous, result :: results =>
    ¬ VoicePlanDisappears previous result.projection.voice ∧
      VoicePlansPersist result.projection.voice results

/-- The identities that a surface dispatched or journaled. -/
def executedIds (results : List SurfaceResult) : List String :=
  results.flatMap SurfaceResult.mutationActionIds ++ results.flatMap SurfaceResult.journaled

/-- The configuration surface of a stage. -/
def configurationStage (result : CPScaleLiveStageResult) : Stage ConfigurationAction String where
  plan := result.projection.configuration.actions
  authorized := result.mutationScope.configuration
  executed := executedIds (result.configurationAttempts.map configurationSurface)

/-- The control-plane surface of a stage. -/
def controlPlaneStage (result : CPScaleLiveStageResult) : Stage ControlPlaneAction String where
  plan := result.projection.controlPlane.actions
  authorized := result.mutationScope.controlPlane
  executed := executedIds (result.controlPlane.toList.map controlPlaneSurface)

/-- The Voice surface of a stage. -/
def voiceStage (result : CPScaleLiveStageResult) : Stage Voice.VoiceAction String where
  plan := voiceActions result.projection.voice
  authorized := result.mutationScope.voice
  executed := executedIds (result.voice.toList.map voiceSurface)

/-! ## What a verified audit says -/

lemma executedIds_subset_of_verified {observation : CanonicalMutationSurfaceObservation}
    (h : (auditSurface observation).verified = true) :
    ∀ k ∈ executedIds observation.results, k ∈ observation.authorizedMutationIds := by
  intro k hk
  simp only [auditSurface] at h
  split_ifs at h with hempty
  · simp [executedIds, hempty.2.2] at hk
  have hunauthorized : (executedIds observation.results).filter
      (· ∉ observation.authorizedMutationIds) = [] := by
    simp only [CanonicalMutationSurfaceAudit.verified, Bool.and_eq_true, List.isEmpty_iff,
      sortedSet, sortedBy_eq_nil, List.dedup_eq_nil] at h
    exact h.1.1.2
  have hnot := List.filter_eq_nil_iff.mp hunauthorized k hk
  simpa using hnot

variable {result : CPScaleLiveStageResult} {continuity : CPScaleStageContinuity}
  {results : List CPScaleLiveStageResult}

lemma executed_subset_of_stageReplayAudit (h : (stageReplayAudit result).verified = true) :
    (∀ k ∈ (configurationStage result).executed, k ∈ result.mutationScope.configuration) ∧
      (∀ k ∈ (controlPlaneStage result).executed, k ∈ result.mutationScope.controlPlane) ∧
      ∀ k ∈ (voiceStage result).executed, k ∈ result.mutationScope.voice := by
  simp only [stageReplayAudit, canonicalStageMutationReplayAudit, stageObservations,
    CanonicalMutationReplayAudit.verified, List.map_cons, List.map_nil, List.all_cons,
    List.all_nil, Bool.and_eq_true] at h
  obtain ⟨-, hconfiguration, hcontrol, hvoice, -⟩ := h
  exact ⟨executedIds_subset_of_verified hconfiguration,
    executedIds_subset_of_verified hcontrol, executedIds_subset_of_verified hvoice⟩

/-! ## What a scope says -/

/-- The Voice plan of a projection that may be absent. -/
abbrev previousVoice (continuity : CPScaleStageContinuity) : Option Voice.VoicePlan :=
  continuity.previousProjection.bind CPScaleCanonicalStageProjection.voice

/-- The configuration actions of a projection that may be absent. -/
def previousConfigurationActions (continuity : CPScaleStageContinuity) :
    List ConfigurationAction :=
  (continuity.previousProjection.map fun previous => previous.configuration.actions).getD []

/-- The control-plane actions of a projection that may be absent. -/
def previousControlPlaneActions (continuity : CPScaleStageContinuity) : List ControlPlaneAction :=
  (continuity.previousProjection.map fun previous => previous.controlPlane.actions).getD []

/-- The checks behind a scope. -/
lemma stageMutationScope_parts {current : CPScaleCanonicalStageProjection}
    {scope : CPScaleMutationScope} (h : stageMutationScope continuity current = .ok scope) :
    surfaceMutationIds canonicalStageConfigurationMutationIds
        (fun plan => plan.actions.map ConfigurationAction.id)
        (continuity.previousProjection.map CPScaleCanonicalStageProjection.configuration)
        current.configuration = .ok scope.configuration ∧
      surfaceMutationIds canonicalStageControlPlaneMutationIds
        (fun plan => plan.actions.map ControlPlaneAction.id)
        (continuity.previousProjection.map CPScaleCanonicalStageProjection.controlPlane)
        current.controlPlane = .ok scope.controlPlane ∧
      transitionVoiceMutationIds (previousVoice continuity) current.voice = .ok scope.voice := by
  simp only [stageMutationScope, scopeVoiceMutationIds_eq] at h
  split_ifs at h
  · simp [throw, throwThe, MonadExceptOf.throw, bind, Except.bind] at h
  simp only [Fallible.bind_eq_ok, orValueError_eq_ok] at h
  obtain ⟨configuration, hconfiguration, control, hcontrol, voice, hvoice, h⟩ := h
  split_ifs at h
  · simp [throw, throwThe, MonadExceptOf.throw, bind, Except.bind] at h
  · simp [throw, throwThe, MonadExceptOf.throw, bind, Except.bind] at h
  · simp [throw, throwThe, MonadExceptOf.throw, bind, Except.bind] at h
  · cases h
    exact ⟨hconfiguration, hcontrol, hvoice⟩

lemma delta_of_surfaceMutationIds {π α : Type} [DecidableEq α] {texts : CumulativeTexts}
    {identifier : α → String} {actions : π → List α} {previous : Option π} {current : π}
    {ids : List String}
    (h : surfaceMutationIds (fun before after =>
        cumulativeMutationIds texts identifier (actions before) (actions after))
      (fun plan => (actions plan).map identifier) previous current = .ok ids) :
    Delta identifier (fun _ _ => False) ((previous.map actions).getD []) (actions current)
      ids := by
  cases previous with
  | none =>
    cases h
    exact Delta.of_nil _ _ _
  | some previous =>
    have hids := orValueError_eq_ok.mp h
    exact delta_of_cumulativeMutationIds hids

lemma configuration_delta
    (h : stageMutationScope continuity result.projection = .ok result.mutationScope) :
    Delta ConfigurationAction.id (fun _ _ => False) (previousConfigurationActions continuity)
      (configurationStage result).plan (configurationStage result).authorized := by
  have hparts := (stageMutationScope_parts h).1
  have hdelta := @delta_of_surfaceMutationIds _ _ _ _ _ ConfigurationPlan.actions _ _ _ hparts
  rw [Option.map_map] at hdelta
  exact hdelta

lemma controlPlane_delta
    (h : stageMutationScope continuity result.projection = .ok result.mutationScope) :
    Delta ControlPlaneAction.id (fun _ _ => False) (previousControlPlaneActions continuity)
      (controlPlaneStage result).plan (controlPlaneStage result).authorized := by
  have hparts := (stageMutationScope_parts h).2.1
  have hdelta := @delta_of_surfaceMutationIds _ _ _ _ _ ControlPlanePlan.actions _ _ _ hparts
  rw [Option.map_map] at hdelta
  exact hdelta

/-! ## Runs are cumulative -/

lemma configuration_cumulative (h : StageRun continuity results) :
    Cumulative ConfigurationAction.id (fun _ _ => False)
      (previousConfigurationActions continuity) (results.map configurationStage) := by
  induction results generalizing continuity with
  | nil => trivial
  | cons result results ih =>
    obtain ⟨-, hscope, haudit, hrest⟩ := h
    exact ⟨configuration_delta hscope, (executed_subset_of_stageReplayAudit haudit).1, ih hrest⟩

lemma controlPlane_cumulative (h : StageRun continuity results) :
    Cumulative ControlPlaneAction.id (fun _ _ => False)
      (previousControlPlaneActions continuity) (results.map controlPlaneStage) := by
  induction results generalizing continuity with
  | nil => trivial
  | cons result results ih =>
    obtain ⟨-, hscope, haudit, hrest⟩ := h
    exact ⟨controlPlane_delta hscope, (executed_subset_of_stageReplayAudit haudit).2.1, ih hrest⟩

lemma voice_cumulative (h : StageRun continuity results)
    (hpersist : VoicePlansPersist (previousVoice continuity) results) :
    Cumulative Voice.VoiceAction.id Expands (voiceActions (previousVoice continuity))
      (results.map voiceStage) := by
  induction results generalizing continuity with
  | nil => trivial
  | cons result results ih =>
    obtain ⟨-, hscope, haudit, hrest⟩ := h
    obtain ⟨hstays, hpersist⟩ := hpersist
    have hvoice := (stageMutationScope_parts hscope).2.2
    have hdelta := delta_of_transitionVoiceMutationIds hvoice hstays
    exact ⟨hdelta, (executed_subset_of_stageReplayAudit haudit).2.2, ih hrest hpersist⟩

/-- **No replay.**  Over a run of stages with verified audits, configuration and control-plane
actions are executed in one stage at most and never change; and while no Voice plan is dropped, a
Voice action is executed again only where its phone files expand, and a retained one is the action
that was last authorized.  Whatever was executed is in the plan of every later stage. -/
theorem stageRun_without_replay {results : List CPScaleLiveStageResult}
    (hrun : StageRun {} results) :
    Rigid ConfigurationAction.id (results.map configurationStage) ∧
      Rigid ControlPlaneAction.id (results.map controlPlaneStage) ∧
      (VoicePlansPersist none results →
        Expanding Voice.VoiceAction.id Expands (results.map voiceStage)) := by
  refine ⟨?_, ?_, fun hpersist => ?_⟩
  · exact (configuration_cumulative hrun).rigid fun _ _ => id
  · exact (controlPlane_cumulative hrun).rigid fun _ _ => id
  · exact (voice_cumulative hrun hpersist).expanding

/-! ## An expansion that nothing applied -/

/-- The files of the phones, generated for the given bindings. -/
def generateFiles (bindings : List String) : Voice.VoiceAction where
  id := "voice/files"
  phase := .phoneBootstrap
  callControlId := "cme"
  hostDeviceId := "r4"
  hostDeviceName := "Router4"
  hostModel := "2811"
  siteId := "main"
  dependsOn := bindings
  applyDependencies := bindings
  requiredCapability := .tftpPhoneBootstrap
  detail := .generatePhoneConfigurationFiles

/-- A configuration result without actions. -/
def emptyConfiguration : ConfigurationApplicationResult :=
  { configPlanId := "configuration", configSemanticHash := "", sourceTopologyHash := "topology",
    status := .verified }

/-- A control-plane result without actions. -/
def emptyControlPlane : ControlPlaneApplicationResult :=
  { controlPlanePlanId := "control", controlPlaneSemanticHash := "",
    sourceTopologyHash := "topology", sourceConfigurationHash := "configuration",
    status := .verified }

/-- A Voice result that knows the files as applied and dispatched the given actions. -/
def filesResult (dispatched : List String) : Voice.VoiceApplicationResult :=
  { voicePlanId := "voice", voiceSemanticHash := "", sourceTopologyHash := "topology",
    sourceConfigurationHash := "configuration", status := .verified,
    actionResults := [{ actionId := "voice/files", status := .applied }],
    mutationActionIds := dispatched,
    executionJournal := some
      { planId := "voice"
        entries := dispatched.map fun identifier =>
          { ordinal := 1, actionId := identifier, operation := .executeOnce,
            disposition := .changed } } }

/-- A stage whose Voice plan generates the files for the given bindings. -/
def filesStage (stage : CPScaleCanonicalStage) (bindings authorized retained dispatched :
    List String) : CPScaleLiveStageResult where
  stage := stage
  outcome := "verified"
  projection := bareProjection stage (some (voicePlanOf [generateFiles bindings]))
  scope := some
    { configuration := [], retainedConfiguration := [], controlPlane := []
      retainedControlPlane := [], voice := authorized, retainedVoice := retained }
  configuration := some emptyConfiguration
  configurationAttempts := [emptyConfiguration]
  controlPlane := some emptyControlPlane
  voice := some (filesResult dispatched)

/-- The files are generated for one phone, authorized again for two without being dispatched, and
then retained. -/
def expansionRun : List CPScaleLiveStageResult :=
  [filesStage .floor1 ["bind/1"] ["voice/files"] [] ["voice/files"],
   filesStage .floor2 ["bind/1", "bind/2"] ["voice/files"] [] [],
   filesStage .floor3 ["bind/1", "bind/2"] [] ["voice/files"] []]

lemma stageRun_expansionRun : StageRun {} expansionRun := by
  refine ⟨rfl, ?_, ?_, rfl, ?_, ?_, rfl, ?_, ?_, trivial⟩ <;> decide

lemma voicePlansPersist_expansionRun : VoicePlansPersist none expansionRun := by
  refine ⟨?_, ?_, ?_, trivial⟩
  · rintro ⟨-, h⟩
    cases h
  · rintro ⟨-, h⟩
    cases h
  · rintro ⟨-, h⟩
    cases h

/-- The laws hold of a run that expands the files. -/
theorem stageRun_without_replay_expansionRun :
    Rigid ConfigurationAction.id (expansionRun.map configurationStage) ∧
      Rigid ControlPlaneAction.id (expansionRun.map controlPlaneStage) ∧
      (VoicePlansPersist none expansionRun →
        Expanding Voice.VoiceAction.id Expands (expansionRun.map voiceStage)) :=
  stageRun_without_replay stageRun_expansionRun

/-- A retained action is the one that was last executed. -/
def RetainedAsApplied (stages : List (Stage Voice.VoiceAction String)) : Prop :=
  ∀ before applying between stage after,
    stages = before ++ applying :: (between ++ stage :: after) →
    ∀ a ∈ applying.plan, a.id ∈ applying.executed →
      (∀ later ∈ between, a.id ∉ later.executed) →
      ∀ b ∈ stage.plan, b.id = a.id → b.id ∉ stage.authorized → a = b

/-- **A retained Voice action need not be the one that was applied.** -/
theorem not_forall_retainedAsApplied :
    ¬∀ results, StageRun {} results → VoicePlansPersist none results →
      RetainedAsApplied (results.map voiceStage) := by
  intro hall
  have hretained := hall expansionRun stageRun_expansionRun voicePlansPersist_expansionRun
  have heq := hretained [] _ [_] _ [] rfl (generateFiles ["bind/1"]) List.mem_cons_self
    (by decide) (by decide) (generateFiles ["bind/1", "bind/2"])
    List.mem_cons_self rfl (by decide)
  exact absurd heq (by decide)

end Canonical
end PacketTracer
