import PacketTracer.Application.ControlPlaneAcceptance

/-!
# The frontiers of a control-plane plan

The main loop of `_apply_actions` settles the pending actions: it blocks those with an
unsatisfied dependency, and dispatches a batch of those whose dependencies are all satisfied.
`FrontierInvariant` relates the results to the history.  One lemma says that blocking an action
keeps it, one that dispatching a batch does.  Since actions stand after their dependencies, the
first pending action is always blocked or ready, so that no action is ever abandoned.
-/

namespace PacketTracer

open Dicts Interactions Relation

namespace ControlPlaneApplicator

/-! ## Plans that the loop can work off -/

/-- What the loop relies on. -/
structure FrontierPlan (actions : List ControlPlaneAction) (scope : MutationScope) : Prop where
  scope : SoundScope actions scope
  nodup : (actions.map ControlPlaneAction.id).Nodup
  precede : DependenciesPrecede actions

section Plan

variable {actions deployed : List ControlPlaneAction} {scope : MutationScope}
  {plan : ControlPlanePlan} {prepared : PreparedControlPlane}

lemma map_id_eq_of_core (h : deployed.map ControlPlaneAction.core =
    actions.map ControlPlaneAction.core) :
    deployed.map ControlPlaneAction.id = actions.map ControlPlaneAction.id := by
  simpa [Function.comp_def, ControlPlaneAction.core]
    using congrArg (List.map ControlPlaneAction.id) h

variable {action : ControlPlaneAction}

lemma exists_core_eq
    (h : deployed.map ControlPlaneAction.core = actions.map ControlPlaneAction.core)
    (haction : action ∈ deployed) : ∃ action' ∈ actions, action'.core = action.core := by
  have hmem : action.core ∈ actions.map ControlPlaneAction.core := h ▸ List.mem_map_of_mem haction
  exact List.mem_map.mp hmem

variable {action' : ControlPlaneAction}

lemma dependsOn_eq_of_core (h : action'.core = action.core) :
    action'.dependsOn = action.dependsOn :=
  (congrArg ControlPlaneAction.dependsOn h :)

lemma id_eq_of_core (h : action'.core = action.core) : action'.id = action.id :=
  (congrArg ControlPlaneAction.id h :)

lemma dependenciesPrecede_of_core (h : deployed.map ControlPlaneAction.core =
    actions.map ControlPlaneAction.core) (hprecede : DependenciesPrecede actions) :
    DependenciesPrecede deployed := by
  intro before action after hsplit d hd
  rw [hsplit, List.map_append, List.map_cons] at h
  obtain ⟨before', rest, rfl, hbefore, hrest⟩ := List.map_eq_append_iff.mp h.symm
  obtain ⟨action', after', rfl, haction, -⟩ := List.map_eq_cons_iff.mp hrest
  have hmem := hprecede before' action' after' rfl d
    (show d ∈ action'.dependsOn from (dependsOn_eq_of_core haction).symm ▸ hd)
  have hids := map_id_eq_of_core hbefore
  exact hids ▸ hmem

lemma depends_eq_of_core (h : deployed.map ControlPlaneAction.core =
    actions.map ControlPlaneAction.core) : Depends deployed = Depends actions := by
  have hle : ∀ {l m : List ControlPlaneAction}, l.map ControlPlaneAction.core =
      m.map ControlPlaneAction.core → ∀ a b, Depends l a b → Depends m a b := by
    rintro l m hlm a b ⟨action, haction, rfl, hb⟩
    obtain ⟨action', haction', hcore⟩ := exists_core_eq hlm haction
    have hb' : b ∈ action'.dependsOn := dependsOn_eq_of_core hcore ▸ hb
    exact ⟨action', haction', id_eq_of_core hcore, hb'⟩
  funext a b
  exact propext ⟨hle h a b, hle h.symm a b⟩

lemma AcceptedControlPlane.frontierPlan (h : AcceptedControlPlane plan prepared) :
    FrontierPlan prepared.plan.actions prepared.scope := by
  have hids := map_id_eq_of_core h.actions
  refine
    { scope := ⟨fun k hk => hids ▸ h.scope.planned k hk, fun k result hget => ?_,
        fun action haction hmutation => ?_⟩
      nodup := hids ▸ h.nodup
      precede := dependenciesPrecede_of_core h.actions h.precede }
  · exact hids ▸ h.scope.retained k result hget
  · obtain ⟨action', haction', hcore⟩ := exists_core_eq h.actions haction
    rw [← id_eq_of_core hcore, ← dependsOn_eq_of_core hcore]
    exact h.scope.unmutated action' haction' (id_eq_of_core hcore ▸ hmutation)

lemma FrontierPlan.closed (h : FrontierPlan actions scope) (haction : action ∈ actions)
    {d : String} (hd : d ∈ action.dependsOn) : ∃ dependency ∈ actions, dependency.id = d := by
  obtain ⟨before, after, rfl⟩ := List.append_of_mem haction
  obtain ⟨dependency, hdependency, heq⟩ := List.mem_map.mp (h.precede before action after rfl d hd)
  exact ⟨dependency, List.mem_append_left _ hdependency, heq⟩

lemma FrontierPlan.eq_of_id (h : FrontierPlan actions scope) {a b : ControlPlaneAction}
    (ha : a ∈ actions) (hb : b ∈ actions) (hid : a.id = b.id) : a = b :=
  eq_of_id_eq h.nodup ha hb hid

lemma FrontierPlan.irrefl (h : FrontierPlan actions scope) (haction : action ∈ actions) :
    action.id ∉ action.dependsOn := by
  intro hself
  obtain ⟨before, after, rfl⟩ := List.append_of_mem haction
  have hmem := h.precede before action after rfl action.id hself
  have hnodup := h.nodup
  rw [List.map_append, List.map_cons, List.nodup_append] at hnodup
  exact hnodup.2.2 _ hmem _ List.mem_cons_self rfl

lemma pairwise_not_dependsOn (hnodup : (actions.map ControlPlaneAction.id).Nodup)
    (hprecede : DependenciesPrecede actions) :
    actions.Pairwise fun a b => b.id ∉ a.dependsOn := by
  induction actions using List.reverseRecOn with
  | nil => exact List.Pairwise.nil
  | append_singleton actions last ih =>
    obtain ⟨hearlier, -⟩ := eachAfter_concat.mp hprecede
    rw [List.map_append, List.nodup_append] at hnodup
    refine List.pairwise_append.mpr ⟨ih hnodup.1 hearlier, List.pairwise_singleton _ _, ?_⟩
    intro a ha b hb hdepends
    obtain rfl := List.mem_singleton.mp hb
    obtain ⟨before, after, rfl⟩ := List.append_of_mem ha
    obtain ⟨dependency, hdependency, heq⟩ :=
      List.mem_map.mp (hearlier before a after rfl b.id hdepends)
    refine hnodup.2.2 dependency.id ?_ b.id (by simp) heq
    exact List.mem_map_of_mem (List.mem_append_left _ hdependency)

end Plan

/-! ## Results -/

section Results

variable {results : Dict String ActionApplicationResult} {k k' : String}
  {result : ActionApplicationResult}

lemma isSome_of_satisfied (h : satisfied results k = true) : (results.get? k).isSome := by
  unfold satisfied at h
  cases hget : results.get? k with
  | none => simp [hget] at h
  | some result => rfl

lemma isSome_of_unsatisfied (h : unsatisfied results k = true) : (results.get? k).isSome := by
  unfold unsatisfied at h
  cases hget : results.get? k with
  | none => simp [hget] at h
  | some result => rfl

lemma satisfied_or_unsatisfied (h : (results.get? k).isSome) :
    satisfied results k = true ∨ unsatisfied results k = true := by
  obtain ⟨result, hresult⟩ := Option.isSome_iff_exists.mp h
  simp only [satisfied, unsatisfied, hresult, Option.any_some, Bool.not_eq_true']
  exact (Bool.eq_false_or_eq_true _)

lemma not_satisfied_of_unsatisfied (h : unsatisfied results k = true) :
    satisfied results k = false := by
  unfold unsatisfied satisfied at *
  cases hget : results.get? k with
  | none => rfl
  | some result => simpa [hget] using h

lemma satisfied_of_get? (h : results.get? k = some result) :
    satisfied results k = satisfiesApplyDependency result.status := by
  simp [satisfied, h]

lemma unsatisfied_of_get? (h : results.get? k = some result) :
    unsatisfied results k = !satisfiesApplyDependency result.status := by
  simp [unsatisfied, h]

variable {results' : Dict String ActionApplicationResult}

lemma satisfied_congr (h : results'.get? k = results.get? k) :
    satisfied results' k = satisfied results k := by
  simp [satisfied, h]

lemma unsatisfied_congr (h : results'.get? k = results.get? k) :
    unsatisfied results' k = unsatisfied results k := by
  simp [unsatisfied, h]

lemma satisfies_dispatchResult (action : ControlPlaneAction)
    (mutation : Option RuntimeActionMutation) :
    satisfiesApplyDependency (dispatchResult action mutation).status =
      mutation.any fun mutation => mutation.applied := by
  cases mutation with
  | none => rfl
  | some mutation => simp [dispatchResult]

end Results

/-! ## The invariant -/

/-- A transitive dependency of an action was refused, or it was dispatched and failed. -/
def BlockedBy (actions : List ControlPlaneAction) (profiles : CapabilityProfiles)
    (scope : MutationScope) (trace : List ControlPlaneEvent) (identifier : String) : Prop :=
  ∃ root ∈ actions, TransGen (Depends actions) identifier root.id ∧
    (refused profiles scope.mutationIds root = true ∨ Failed trace root.id)

/-- What the loop stores for an action: a result of that action, which satisfies the dependencies
on it or is a failure, a refusal or a blocked action. -/
def Recorded (identifier : String) (result : ActionApplicationResult) : Prop :=
  result.actionId = identifier ∧ (satisfiesApplyDependency result.status = true ∨
    result.status = .failed ∨ result.status = .skipped ∨ result.status = .dependencyBlocked)

/-- How the state of the loop relates to the history. -/
structure FrontierInvariant (actions : List ControlPlaneAction) (profiles : CapabilityProfiles)
    (scope : MutationScope) (state : FrontierState) (trace : List ControlPlaneEvent) : Prop where
  /-- The pending actions are in the order of the plan. -/
  pending : state.pending.Sublist actions
  /-- Exactly the other actions have a result. -/
  settled : ∀ action ∈ actions,
    action ∉ state.pending ↔ (state.results.get? action.id).isSome
  /-- A satisfying result was retained, or the runtime applied the action. -/
  satisfied_iff : ∀ k, satisfied state.results k = true ↔
    satisfied scope.retained k = true ∨ Applied trace k
  /-- Dispatched actions are mutations that are not refused, with satisfied dependencies. -/
  dispatched : ∀ k ∈ dispatchedIds trace, ∃ action ∈ actions, action.id = k ∧
    k ∈ scope.mutationIds ∧ refused profiles scope.mutationIds action = false ∧
    action ∉ state.pending ∧ ∀ d ∈ action.dependsOn, satisfied state.results d = true
  /-- Failed actions have a result that satisfies nothing. -/
  failed : ∀ k, Failed trace k → unsatisfied state.results k = true
  /-- So have refused actions. -/
  refused : ∀ action ∈ actions, refused profiles scope.mutationIds action = true →
    unsatisfied state.results action.id = true
  /-- Such a result has its cause. -/
  cause : ∀ action ∈ actions, unsatisfied state.results action.id = true →
    ControlPlaneApplicator.refused profiles scope.mutationIds action = true ∨
      Failed trace action.id ∨ BlockedBy actions profiles scope trace action.id
  /-- No action is dispatched twice. -/
  once : (dispatchedIds trace).Nodup
  /-- Actions are dispatched after their dependencies were applied. -/
  ordered : EachAfter (DependenciesApplied scope.retained) trace
  /-- So far the runtime was asked for its inventory and for dispatches only. -/
  asked : ∀ event ∈ trace, (∃ answer, event = .inventory answer) ∨
    ∃ batch answer, event = .applyActions batch answer
  /-- Results carry the identifier they are stored under, and a status of an action. -/
  recorded : ∀ k result, state.results.get? k = some result → Recorded k result

section Invariant

variable {actions : List ControlPlaneAction} {profiles : CapabilityProfiles}
  {scope : MutationScope} {state : FrontierState} {trace : List ControlPlaneEvent}
  {action : ControlPlaneAction}

lemma FrontierInvariant.get?_of_pending
    (h : FrontierInvariant actions profiles scope state trace) (haction : action ∈ state.pending) :
    state.results.get? action.id = none := by
  have hsettled := h.settled action (h.pending.subset haction)
  have hnot : ¬(state.results.get? action.id).isSome := fun hsome => hsettled.mpr hsome haction
  simpa using hnot

/-- A pending action is a mutation that is not refused. -/
lemma FrontierInvariant.mutated_of_pending
    (h : FrontierInvariant actions profiles scope state trace) (hplan : FrontierPlan actions scope)
    (haction : action ∈ state.pending) :
    action.id ∈ scope.mutationIds ∧
      ControlPlaneApplicator.refused profiles scope.mutationIds action = false := by
  have hmem := h.pending.subset haction
  have hnone := h.get?_of_pending haction
  constructor
  · by_contra hmutation
    obtain ⟨result, hresult⟩ :=
      Option.isSome_iff_exists.mp (hplan.scope.unmutated action hmem hmutation).1
    have hstatus := (hplan.scope.retained action.id result hresult).2.2.2
    have hsatisfied := (h.satisfied_iff action.id).mpr
      (Or.inl ((satisfied_of_get? hresult).trans hstatus))
    simpa [hnone] using isSome_of_satisfied hsatisfied
  · by_contra hrefused
    have hunsatisfied := h.refused action hmem (by simpa using hrefused)
    simpa [hnone] using isSome_of_unsatisfied hunsatisfied

variable {trace' : List ControlPlaneEvent} {k : String}

lemma BlockedBy.mono (h : BlockedBy actions profiles scope trace k)
    (hfailed : ∀ k, Failed trace k → Failed trace' k) :
    BlockedBy actions profiles scope trace' k := by
  obtain ⟨root, hroot, hpath, hcause⟩ := h
  exact ⟨root, hroot, hpath, hcause.imp_right (hfailed root.id)⟩

section Blocking

variable (h : FrontierInvariant actions profiles scope state trace)
  (hplan : FrontierPlan actions scope)
include h hplan

/-- An action that depends on one without a satisfying result is blocked by a cause. -/
lemma FrontierInvariant.blockedBy
    (haction : action ∈ actions) {d : String} (hd : d ∈ action.dependsOn)
    (hunsatisfied : unsatisfied state.results d = true) :
    BlockedBy actions profiles scope trace action.id := by
  obtain ⟨dependency, hdependency, rfl⟩ := hplan.closed haction hd
  have hstep : Depends actions action.id dependency.id := ⟨action, haction, rfl, hd⟩
  rcases h.cause dependency hdependency hunsatisfied with hrefused | hfailed | hblocked
  · exact ⟨dependency, hdependency, .single hstep, Or.inl hrefused⟩
  · exact ⟨dependency, hdependency, .single hstep, Or.inr hfailed⟩
  · obtain ⟨root, hroot, hpath, hcause⟩ := hblocked
    exact ⟨root, hroot, .head hstep hpath, hcause⟩

/-- Blocking an action keeps the invariant. -/
lemma FrontierInvariant.blockAction (haction : action ∈ state.pending) :
    FrontierInvariant actions profiles scope (blockAction state action) trace := by
  unfold ControlPlaneApplicator.blockAction
  simp only
  split
  · exact h
  rename_i hblocked
  have hmem := h.pending.subset haction
  have hnone := h.get?_of_pending haction
  obtain ⟨d, hd⟩ := List.exists_mem_of_ne_nil _ hblocked
  obtain ⟨hdepends, hunsatisfied⟩ := List.mem_filter.mp hd
  set result := blockedResult action ("Blocked by: " ++ String.intercalate ", "
    (PyText.sortedBy id (action.dependsOn.filter (unsatisfied state.results)))) with hresult
  have hget : ∀ k, (state.results.set action.id result).get? k =
      if action.id = k then some result else state.results.get? k :=
    fun k => Dict.get?_set _ _ k _
  have hother : ∀ k, action.id ≠ k →
      (state.results.set action.id result).get? k = state.results.get? k :=
    fun k hk => by rw [hget, if_neg hk]
  have hself : (state.results.set action.id result).get? action.id = some result := by
    rw [hget, if_pos rfl]
  have hnew : ∀ k, (state.results.get? k).isSome → action.id ≠ k := by
    rintro k hk rfl
    simp [hnone] at hk
  have hkeeps : ∀ k, satisfied state.results k = true →
      satisfied (state.results.set action.id result) k = true := fun k hk =>
    (satisfied_congr (hother k (hnew k (isSome_of_satisfied hk)))).trans hk
  have hkeepsNot : ∀ k, unsatisfied state.results k = true →
      unsatisfied (state.results.set action.id result) k = true := fun k hk =>
    (unsatisfied_congr (hother k (hnew k (isSome_of_unsatisfied hk)))).trans hk
  have hselfNot : satisfied (state.results.set action.id result) action.id = false :=
    satisfied_of_get? hself
  refine
    { pending := List.erase_sublist.trans h.pending
      settled := fun a ha => ?_
      satisfied_iff := fun k => ?_
      dispatched := fun k hk => ?_
      failed := fun k hk => hkeepsNot k (h.failed k hk)
      refused := fun a ha hrefused => hkeepsNot a.id (h.refused a ha hrefused)
      cause := fun a ha hunsatisfied' => ?_
      once := h.once
      ordered := h.ordered
      asked := h.asked
      recorded := fun k result' hresult' => ?_ }
  · have hpendingNodup : state.pending.Nodup :=
      h.pending.nodup (List.Nodup.of_map _ hplan.nodup)
    rw [hpendingNodup.mem_erase_iff, hget]
    by_cases hid : action.id = a.id
    · obtain rfl := hplan.eq_of_id hmem ha hid
      simp
    · have hne : a ≠ action := fun heq => hid (heq ▸ rfl)
      rw [if_neg hid, ← h.settled a ha]
      simp [hne]
  · by_cases hk : action.id = k
    · subst hk
      rw [hselfNot, ← h.satisfied_iff]
      simp [satisfied, hnone]
    · rw [satisfied_congr (hother k hk), h.satisfied_iff]
  · obtain ⟨a, ha, hid, hmutation, hrefused, hpending, hsatisfied⟩ := h.dispatched k hk
    exact ⟨a, ha, hid, hmutation, hrefused, fun hmem => hpending (List.mem_of_mem_erase hmem),
      fun d hd => hkeeps d (hsatisfied d hd)⟩
  · by_cases hid : action.id = a.id
    · obtain rfl := hplan.eq_of_id hmem ha hid
      exact Or.inr (Or.inr (h.blockedBy hplan hmem hdepends hunsatisfied))
    · rw [unsatisfied_congr (hother a.id hid)] at hunsatisfied'
      exact h.cause a ha hunsatisfied'
  · by_cases hk : action.id = k
    · subst hk
      cases hself.symm.trans hresult'
      exact ⟨rfl, Or.inr (Or.inr (Or.inr rfl))⟩
    · exact h.recorded k result' (hother k hk ▸ hresult')

/-- The scan for blocked actions keeps the invariant. -/
lemma FrontierInvariant.blockActions :
    FrontierInvariant actions profiles scope (blockActions state) trace := by
  suffices hscan : ∀ (items : List ControlPlaneAction) (state : FrontierState), items.Nodup →
      (∀ item ∈ items, item ∈ state.pending) →
      FrontierInvariant actions profiles scope state trace →
      FrontierInvariant actions profiles scope
        (items.foldl ControlPlaneApplicator.blockAction state) trace from
    hscan state.pending state (h.pending.nodup (List.Nodup.of_map _ hplan.nodup))
      (fun _ hitem => hitem) h
  intro items
  induction items with
  | nil => exact fun _ _ _ h => h
  | cons item items ih =>
    intro state hnodup hitems h
    obtain ⟨hitem, hnodup⟩ := List.nodup_cons.mp hnodup
    refine ih _ hnodup (fun other hother => ?_) (h.blockAction hplan (hitems item (by simp)))
    have hpending := hitems other (List.mem_cons_of_mem _ hother)
    unfold ControlPlaneApplicator.blockAction
    simp only
    split
    · exact hpending
    · have hne : other ≠ item := fun heq => hitem (heq ▸ hother)
      exact (List.mem_erase_of_ne hne).mpr hpending

end Blocking

/-! ## Dispatching a batch -/

lemma foldl_settleAction (mutations : Dict String RuntimeActionMutation)
    (batch : List ControlPlaneAction) (state : FrontierState) :
    batch.foldl (settleAction mutations) state =
      { pending := state.pending.diff batch
        results := state.results.setAll (batch.map fun action =>
          (action.id, dispatchResult action (mutations.get? action.id))) } := by
  induction batch generalizing state with
  | nil => rfl
  | cons action batch ih =>
    rw [List.foldl_cons, ih, List.diff_cons]
    rfl

variable {batch : List ControlPlaneAction} {answer : Except String (List RuntimeActionMutation)}

lemma recorded_dispatchResult (action : ControlPlaneAction)
    (mutation : Option RuntimeActionMutation) :
    Recorded action.id (dispatchResult action mutation) := by
  rcases mutation with _ | mutation
  · exact ⟨rfl, Or.inr (Or.inl rfl)⟩
  refine ⟨rfl, ?_⟩
  cases happlied : mutation.applied with
  | true =>
    left
    rw [satisfies_dispatchResult, Option.any_some, happlied]
  | false => exact Or.inr (Or.inl ((mutationExecutionStatus_eq_failed_iff mutation).mpr happlied))

/-- Dispatching pending actions with satisfied dependencies keeps the invariant. -/
lemma FrontierInvariant.dispatch
    (h : FrontierInvariant actions profiles scope state trace) (hplan : FrontierPlan actions scope)
    (hbatch : batch.Sublist state.pending)
    (hready : ∀ action ∈ batch, ∀ d ∈ action.dependsOn, satisfied state.results d = true) :
    FrontierInvariant actions profiles scope (batch.foldl (settleAction (safeApply batch answer))
      state) (trace ++ [.applyActions batch answer]) := by
  rw [foldl_settleAction]
  set mutations := safeApply batch answer with hmutations
  set entries := batch.map fun action =>
    (action.id, dispatchResult action (mutations.get? action.id)) with hentries
  set event := ControlPlaneEvent.applyActions batch answer with hevent
  have hactions : ∀ a ∈ batch, a ∈ actions := fun a ha => h.pending.subset (hbatch.subset ha)
  have hbatchNodup : (batch.map ControlPlaneAction.id).Nodup :=
    ((hbatch.trans h.pending).map _).nodup hplan.nodup
  have hin : ∀ a ∈ batch, (state.results.setAll entries).get? a.id =
      some (dispatchResult a (mutations.get? a.id)) := by
    intro a ha
    obtain ⟨w, hw, hmem⟩ := Dict.exists_get?_setAll_of_mem (d := state.results)
      (List.mem_map_of_mem ha : (a.id, dispatchResult a (mutations.get? a.id)) ∈ entries)
    obtain ⟨b, hb, heq⟩ := List.mem_map.mp hmem
    obtain ⟨hid, rfl⟩ := Prod.mk.injEq .. ▸ heq
    obtain rfl := hplan.eq_of_id (hactions b hb) (hactions a ha) hid
    exact hw
  have hout : ∀ k, k ∉ batch.map ControlPlaneAction.id →
      (state.results.setAll entries).get? k = state.results.get? k := by
    intro k hk
    refine Dict.get?_setAll_of_forall_ne fun e he heq => hk ?_
    obtain ⟨a, ha, rfl⟩ := List.mem_map.mp he
    exact heq ▸ List.mem_map_of_mem ha
  have hnone : ∀ k ∈ batch.map ControlPlaneAction.id, state.results.get? k = none := by
    intro k hk
    obtain ⟨a, ha, rfl⟩ := List.mem_map.mp hk
    exact h.get?_of_pending (hbatch.subset ha)
  have hnew : ∀ k, (state.results.get? k).isSome → k ∉ batch.map ControlPlaneAction.id := by
    intro k hk hmem
    simp [hnone k hmem] at hk
  have hkeeps : ∀ k, satisfied state.results k = true →
      satisfied (state.results.setAll entries) k = true := fun k hk =>
    (satisfied_congr (hout k (hnew k (isSome_of_satisfied hk)))).trans hk
  have hkeepsNot : ∀ k, unsatisfied state.results k = true →
      unsatisfied (state.results.setAll entries) k = true := fun k hk =>
    (unsatisfied_congr (hout k (hnew k (isSome_of_unsatisfied hk)))).trans hk
  have hvalue : ∀ k ∈ batch.map ControlPlaneAction.id,
      event.applied? k = some (satisfied (state.results.setAll entries) k) := by
    intro k hk
    obtain ⟨a, ha, rfl⟩ := List.mem_map.mp hk
    rw [satisfied_of_get? (hin a ha), satisfies_dispatchResult]
    simp only [hevent, ControlPlaneEvent.applied?, hk, if_true, hmutations]
  have hquiet : ∀ k, k ∉ batch.map ControlPlaneAction.id → event.applied? k = none := by
    intro k hk
    simp only [hevent, ControlPlaneEvent.applied?, hk, if_false]
  have hids : dispatchedIds (trace ++ [event]) =
      dispatchedIds trace ++ batch.map ControlPlaneAction.id := by
    rw [dispatchedIds_append, dispatchedIds_singleton]
    rfl
  have hpendingNodup : state.pending.Nodup := h.pending.nodup (List.Nodup.of_map _ hplan.nodup)
  refine
    { pending := (List.diff_sublist _ _).trans h.pending
      settled := fun a ha => ?_
      satisfied_iff := fun k => ?_
      dispatched := fun k hk => ?_
      failed := fun k hk => ?_
      refused := fun a ha hrefused => hkeepsNot a.id (h.refused a ha hrefused)
      cause := fun a ha hunsatisfied => ?_
      once := ?_
      ordered := ?_
      asked := ?_
      recorded := fun k result hresult => ?_ }
  · rw [hpendingNodup.mem_sdiff_iff]
    by_cases hmem : a ∈ batch
    · simp [hmem, hin a hmem]
    have hid : a.id ∉ batch.map ControlPlaneAction.id := by
      intro hid
      obtain ⟨b, hb, heq⟩ := List.mem_map.mp hid
      exact hmem (hplan.eq_of_id (hactions b hb) ha heq ▸ hb)
    rw [hout a.id hid, ← h.settled a ha]
    simp [hmem]
  · rw [applied_concat]
    by_cases hk : k ∈ batch.map ControlPlaneAction.id
    · have hbefore : ¬(satisfied scope.retained k = true ∨ Applied trace k) := by
        rw [← h.satisfied_iff]
        simp [satisfied, hnone k hk]
      rw [hvalue k hk, ← or_assoc]
      simp [hbefore]
    · rw [satisfied_congr (hout k hk), h.satisfied_iff, hquiet k hk]
      simp
  · rw [hids, List.mem_append] at hk
    rcases hk with hk | hk
    · obtain ⟨a, ha, hid, hmutation, hrefused, hpending, hsatisfied⟩ := h.dispatched k hk
      exact ⟨a, ha, hid, hmutation, hrefused,
        fun hmem => hpending (List.diff_subset _ _ hmem), fun d hd => hkeeps d (hsatisfied d hd)⟩
    · obtain ⟨a, ha, rfl⟩ := List.mem_map.mp hk
      obtain ⟨hmutation, hrefused⟩ := h.mutated_of_pending hplan (hbatch.subset ha)
      refine ⟨a, hactions a ha, rfl, hmutation, hrefused, ?_,
        fun d hd => hkeeps d (hready a ha d hd)⟩
      rw [hpendingNodup.mem_sdiff_iff]
      exact fun hmem => hmem.2 ha
  · rcases failed_concat.mp hk with hk | hk
    · exact hkeepsNot k (h.failed k hk)
    have hmem : k ∈ batch.map ControlPlaneAction.id := by
      by_contra hnot
      simp [hquiet k hnot] at hk
    rw [hvalue k hmem, Option.some.injEq] at hk
    obtain ⟨a, ha, rfl⟩ := List.mem_map.mp hmem
    refine (satisfied_or_unsatisfied (by rw [hin a ha]; rfl)).resolve_left ?_
    simp [hk]
  · by_cases hmem : a.id ∈ batch.map ControlPlaneAction.id
    · refine Or.inr (Or.inl (failed_concat.mpr (Or.inr ?_)))
      rw [hvalue a.id hmem, not_satisfied_of_unsatisfied hunsatisfied]
    · rw [unsatisfied_congr (hout a.id hmem)] at hunsatisfied
      refine (h.cause a ha hunsatisfied).imp_right fun hcause => ?_
      exact hcause.imp (fun hfailed => failed_concat.mpr (Or.inl hfailed))
        fun hblocked => hblocked.mono fun k hk => failed_concat.mpr (Or.inl hk)
  · rw [hids]
    refine List.nodup_append.mpr ⟨h.once, hbatchNodup, fun k hk k' hk' heq => ?_⟩
    subst heq
    obtain ⟨a, ha, hid, -, -, hpending, -⟩ := h.dispatched k hk
    obtain ⟨b, hb, rfl⟩ := List.mem_map.mp hk'
    obtain rfl := hplan.eq_of_id ha (hactions b hb) hid
    exact hpending (hbatch.subset hb)
  · refine eachAfter_concat.mpr ⟨h.ordered, fun a ha d hd => ?_⟩
    exact (h.satisfied_iff d).mp (hready a ha d hd)
  · intro e he
    rcases List.mem_concat_iff.mp he with he | he
    · exact h.asked e he
    · exact Or.inr ⟨batch, answer, he⟩
  · by_cases hk : k ∈ batch.map ControlPlaneAction.id
    · obtain ⟨a, ha, rfl⟩ := List.mem_map.mp hk
      obtain rfl := Option.some.inj ((hin a ha).symm.trans hresult)
      exact recorded_dispatchResult a (mutations.get? a.id)
    · exact h.recorded k result (hout k hk ▸ hresult)

/-! ## Progress -/

lemma length_foldl_blockAction_le (items : List ControlPlaneAction) (state : FrontierState) :
    (items.foldl ControlPlaneApplicator.blockAction state).pending.length ≤
      state.pending.length := by
  induction items generalizing state with
  | nil => exact le_rfl
  | cons item items ih =>
    refine (ih _).trans ?_
    unfold ControlPlaneApplicator.blockAction
    simp only
    split
    · exact le_rfl
    · exact List.erase_sublist.length_le

/-- A scan that blocks no action changes nothing, and found no unsatisfied dependency. -/
lemma foldl_blockAction_eq {items : List ControlPlaneAction}
    (hitems : ∀ item ∈ items, item ∈ state.pending)
    (hlength : (items.foldl ControlPlaneApplicator.blockAction state).pending.length =
      state.pending.length) :
    items.foldl ControlPlaneApplicator.blockAction state = state ∧
      ∀ item ∈ items, ∀ d ∈ item.dependsOn, unsatisfied state.results d = false := by
  induction items with
  | nil => exact ⟨rfl, fun item hitem => absurd hitem List.not_mem_nil⟩
  | cons item items ih =>
    rw [List.foldl_cons] at hlength ⊢
    by_cases hblocked : item.dependsOn.filter (unsatisfied state.results) = []
    · have hsame : ControlPlaneApplicator.blockAction state item = state := by
        simp [ControlPlaneApplicator.blockAction, hblocked]
      rw [hsame] at hlength ⊢
      obtain ⟨heq, hrest⟩ := ih (fun other hother => hitems other (List.mem_cons_of_mem _ hother))
        hlength
      refine ⟨heq, fun other hother d hd => ?_⟩
      rcases List.mem_cons.mp hother with rfl | hother
      · simpa using List.filter_eq_nil_iff.mp hblocked d hd
      · exact hrest other hother d hd
    · have hpending : (ControlPlaneApplicator.blockAction state item).pending =
          state.pending.erase item := by
        simp [ControlPlaneApplicator.blockAction, hblocked]
      have hle := length_foldl_blockAction_le items (ControlPlaneApplicator.blockAction state item)
      have hitem := hitems item List.mem_cons_self
      have hpos := List.length_pos_of_mem hitem
      rw [hpending, List.length_erase_of_mem hitem] at hle
      omega

/-- When nothing is blocked, the first pending action is ready. -/
lemma FrontierInvariant.exists_ready
    (h : FrontierInvariant actions profiles scope state trace) (hplan : FrontierPlan actions scope)
    (hpending : state.pending ≠ [])
    (hunblocked : ∀ action ∈ state.pending, ∀ d ∈ action.dependsOn,
      unsatisfied state.results d = false) : readyActions state ≠ [] := by
  obtain ⟨first, rest, hsplit⟩ := List.exists_cons_of_ne_nil hpending
  have hfirst : first ∈ state.pending := by simp [hsplit]
  have hlater := (pairwise_not_dependsOn hplan.nodup hplan.precede).sublist h.pending
  rw [hsplit, List.pairwise_cons] at hlater
  refine List.ne_nil_of_mem (List.mem_filter.mpr ⟨hfirst, List.all_eq_true.mpr fun d hd => ?_⟩)
  obtain ⟨dependency, hdependency, rfl⟩ := hplan.closed (h.pending.subset hfirst) hd
  have hdone : dependency ∉ state.pending := by
    rw [hsplit, List.mem_cons, not_or]
    refine ⟨?_, fun hmem => hlater.1 dependency hmem hd⟩
    rintro rfl
    exact hplan.irrefl hdependency hd
  refine (satisfied_or_unsatisfied ((h.settled dependency hdependency).mp hdone)).resolve_right ?_
  simp [hunblocked first hfirst dependency.id hd]

lemma frontierBatch_sublist (ready : List ControlPlaneAction) :
    (frontierBatch ready).Sublist ready := by
  cases ready with
  | nil => exact List.Sublist.slnil
  | cons first rest => exact List.filter_sublist

lemma frontierBatch_eq_nil {ready : List ControlPlaneAction} :
    frontierBatch ready = [] ↔ ready = [] := by
  cases ready with
  | nil | cons first rest => simp [frontierBatch]

variable {applicator : ControlPlaneApplicator}

/-- One iteration keeps the invariant and settles a pending action. -/
lemma ensures_frontierRound (hplan : FrontierPlan actions scope)
    (h : FrontierInvariant actions profiles scope state trace) (hpending : state.pending ≠ []) :
    (applicator.frontierRound state).Ensures trace
      (fun state' trace' => FrontierInvariant actions profiles scope state' trace' ∧
        state'.pending.length < state.pending.length) fun _ _ => False := by
  have hscanned := h.blockActions hplan
  have hle : (blockActions state).pending.length ≤ state.pending.length :=
    length_foldl_blockAction_le state.pending state
  unfold frontierRound
  simp only
  split
  · rename_i hbatch
    split
    · rename_i hlength
      obtain ⟨hsame, hunblocked⟩ := foldl_blockAction_eq (fun _ hitem => hitem) hlength
      have hready := h.exists_ready hplan hpending hunblocked
      rw [frontierBatch_eq_nil, show blockActions state = state from hsame] at hbatch
      exact absurd hbatch hready
    · rename_i hlength
      exact ⟨hscanned, lt_of_le_of_ne hle hlength⟩
  · rename_i hbatch
    set batch := frontierBatch (readyActions (blockActions state)) with hbatchEq
    have hsublist : batch.Sublist (readyActions (blockActions state)) := frontierBatch_sublist _
    have hpendingBatch := hsublist.trans List.filter_sublist
    simp only [Interaction.ensures_bind, Interaction.ensures_exchange, Interaction.ensures_pure]
    refine ⟨hscanned.dispatch hplan hpendingBatch fun action haction d hd => ?_, ?_⟩
    · have hready := (List.mem_filter.mp (hsublist.subset haction)).2
      exact List.all_eq_true.mp hready d hd
    · obtain ⟨first, hfirst⟩ := List.exists_mem_of_ne_nil batch hbatch
      have hnodup := hscanned.pending.nodup (List.Nodup.of_map _ hplan.nodup)
      refine lt_of_lt_of_le ?_ hle
      rw [foldl_settleAction, hnodup.sdiff_eq_filter]
      refine List.length_filter_lt_length_iff_exists.mpr ⟨first, hpendingBatch.subset hfirst, ?_⟩
      simpa using hfirst

/-- The loop keeps the invariant, and as many iterations as there are pending actions leave none
pending. -/
lemma ensures_frontierLoop (applicator : ControlPlaneApplicator)
    (hplan : FrontierPlan actions scope) (fuel : ℕ)
    (h : FrontierInvariant actions profiles scope state trace)
    (hfuel : state.pending.length ≤ fuel) :
    (applicator.frontierLoop fuel state).Ensures trace
      (fun final trace' => FrontierInvariant actions profiles scope final trace' ∧
        final.pending = []) fun _ _ => False := by
  induction fuel generalizing state trace with
  | zero => exact ⟨h, List.length_eq_zero_iff.mp (Nat.le_zero.mp hfuel)⟩
  | succ fuel ih =>
    unfold frontierLoop
    split
    · rename_i hpending
      exact ⟨h, hpending⟩
    rename_i hpending
    rw [Interaction.ensures_bind]
    refine (ensures_frontierRound hplan h hpending).imp ?_
    intro next trace' hnext
    exact ih hnext.1 (by omega)

lemma frontierLoop_of_pending_eq_nil (fuel : ℕ) (h : state.pending = []) :
    applicator.frontierLoop fuel state = pure state := by
  cases fuel with
  | zero => rfl
  | succ fuel => simp [frontierLoop, h]

/-- Once the loop was left, more iterations change nothing. -/
lemma run_frontierLoop_of_le {fuel fuel' : ℕ} (hle : fuel ≤ fuel') {final : FrontierState}
    (hrun : (applicator.frontierLoop fuel state).run trace = (.ok final, trace'))
    (hfinal : final.pending = []) :
    (applicator.frontierLoop fuel' state).run trace = (.ok final, trace') := by
  induction fuel generalizing state trace fuel' with
  | zero =>
    obtain ⟨hstate, rfl⟩ := Prod.mk.injEq .. ▸ hrun
    cases hstate
    rw [frontierLoop_of_pending_eq_nil fuel' hfinal]
    rfl
  | succ fuel ih =>
    obtain ⟨fuel', rfl⟩ : ∃ n, fuel' = n + 1 := ⟨fuel' - 1, by omega⟩
    unfold frontierLoop at hrun ⊢
    split
    · rename_i hpending
      rwa [if_pos hpending] at hrun
    rename_i hpending
    rw [if_neg hpending] at hrun
    simp only [Interaction.run, bind] at hrun ⊢
    cases hround : applicator.frontierRound state trace with
    | mk result between =>
      rw [hround] at hrun
      cases result with
      | error e => simp at hrun
      | ok next => exact ih (Nat.le_of_succ_le_succ hle) hrun

/-! ## The start of the loop -/

variable {plan : ControlPlanePlan}

/-- What is retained or refused has its result before the loop. -/
lemma get?_initialFrontier (profiles : CapabilityProfiles)
    (hplan : FrontierPlan plan.actions scope)
    (haction : action ∈ plan.actions) :
    (initialFrontier plan profiles scope).results.get? action.id =
      if refused profiles scope.mutationIds action then some (refusalResult profiles action)
      else scope.retained.get? action.id := by
  have hnodup : (((plan.actions.filter (refused profiles scope.mutationIds)).map fun action =>
      (action.id, refusalResult profiles action)).map Prod.fst).Nodup := by
    rw [List.map_map]
    exact (List.filter_sublist.map _).nodup hplan.nodup
  by_cases hrefused : refused profiles scope.mutationIds action = true
  · rw [if_pos hrefused]
    obtain ⟨w, hw, hmem⟩ := Dict.exists_get?_setAll_of_mem (d := scope.retained)
      (List.mem_map_of_mem (List.mem_filter.mpr ⟨haction, hrefused⟩) :
        (action.id, refusalResult profiles action) ∈
          (plan.actions.filter (refused profiles scope.mutationIds)).map fun action =>
            (action.id, refusalResult profiles action))
    obtain ⟨other, hother, heq⟩ := List.mem_map.mp hmem
    obtain ⟨hid, rfl⟩ := Prod.mk.injEq .. ▸ heq
    obtain rfl := hplan.eq_of_id (List.mem_filter.mp hother).1 haction hid
    exact hw
  · rw [if_neg hrefused]
    refine Dict.get?_setAll_of_forall_ne fun e he heq => hrefused ?_
    obtain ⟨other, hother, rfl⟩ := List.mem_map.mp he
    obtain rfl := hplan.eq_of_id (List.mem_filter.mp hother).1 haction heq
    exact (List.mem_filter.mp hother).2

lemma get?_initialFrontier_of_notMem (hk : k ∉ plan.actions.map ControlPlaneAction.id) :
    (initialFrontier plan profiles scope).results.get? k = scope.retained.get? k := by
  refine Dict.get?_setAll_of_forall_ne fun e he heq => hk ?_
  obtain ⟨other, hother, rfl⟩ := List.mem_map.mp he
  exact heq ▸ List.mem_map_of_mem (List.mem_filter.mp hother).1

/-- Before the loop the invariant holds. -/
lemma frontierInvariant_initial (profiles : CapabilityProfiles)
    (hplan : FrontierPlan plan.actions scope)
    (htrace : trace = [] ∨ ∃ answer, trace = [.inventory answer]) :
    FrontierInvariant plan.actions profiles scope (initialFrontier plan profiles scope) trace := by
  have hnone : ∀ event ∈ trace, ∃ answer, event = .inventory answer := by
    rcases htrace with rfl | ⟨answer, rfl⟩
    · simp
    · simp
  have hquiet : QuietlyExtends [] trace := by
    refine ⟨trace, rfl, fun event hevent => ?_⟩
    obtain ⟨answer, rfl⟩ := hnone event hevent
    rfl
  have hids : dispatchedIds trace = [] := dispatchedIds_eq_of_quiet hquiet
  have hunapplied : ∀ k, ¬Applied trace k := fun k h => by simpa [hids] using h.dispatched
  have hunfailed : ∀ k, ¬Failed trace k := fun k h => by simpa [hids] using h.dispatched
  have hmutated : ∀ action, refused profiles scope.mutationIds action = true →
      action.id ∈ scope.mutationIds := by
    intro action hrefused
    simp only [refused, Bool.and_eq_true, decide_eq_true_eq] at hrefused
    exact hrefused.1
  have hunretained : ∀ k ∈ scope.mutationIds, scope.retained.get? k = none := by
    intro k hk
    by_contra hsome
    obtain ⟨result, hresult⟩ := Option.ne_none_iff_exists'.mp hsome
    exact (hplan.scope.retained k result hresult).2.2.1 hk
  have hrefusedNot : ∀ action ∈ plan.actions, refused profiles scope.mutationIds action = true →
      unsatisfied (initialFrontier plan profiles scope).results action.id = true := by
    intro action haction hrefused
    have hget := get?_initialFrontier profiles hplan haction
    rw [if_pos hrefused] at hget
    rw [unsatisfied_of_get? hget]
    rfl
  refine
    { pending := List.filter_sublist
      settled := fun action haction => ?_
      satisfied_iff := fun k => ?_
      dispatched := fun k hk => by simp [hids] at hk
      failed := fun k hk => absurd hk (hunfailed k)
      refused := hrefusedNot
      cause := fun action haction hunsatisfied => Or.inl ?_
      once := by rw [hids]; exact List.nodup_nil
      ordered := dependenciesApplied_of_quiet hquiet eachAfter_nil
      asked := fun event hevent => Or.inl (hnone event hevent)
      recorded := fun k result hresult => ?_ }
  · have hpending : action ∈ (initialFrontier plan profiles scope).pending ↔
        ((initialFrontier plan profiles scope).results.get? action.id).isSome = false := by
      simp only [initialFrontier, List.mem_filter, haction, true_and, Dict.contains,
        Bool.not_eq_true']
    rw [hpending, Bool.not_eq_false]
  · by_cases hk : ∃ action ∈ plan.actions, action.id = k ∧
        refused profiles scope.mutationIds action = true
    · obtain ⟨action, haction, rfl, hrefused⟩ := hk
      have hretained := hunretained action.id (hmutated action hrefused)
      rw [not_satisfied_of_unsatisfied (hrefusedNot action haction hrefused)]
      simp [satisfied, hretained, hunapplied]
    · have hget : (initialFrontier plan profiles scope).results.get? k =
          scope.retained.get? k := by
        by_cases hmem : k ∈ plan.actions.map ControlPlaneAction.id
        · obtain ⟨action, haction, rfl⟩ := List.mem_map.mp hmem
          rw [get?_initialFrontier profiles hplan haction, if_neg]
          exact fun hrefused => hk ⟨action, haction, rfl, hrefused⟩
        · exact get?_initialFrontier_of_notMem hmem
      rw [satisfied_congr hget]
      simp [hunapplied]
  · by_contra hrefused
    have hget := get?_initialFrontier profiles hplan haction
    rw [if_neg hrefused] at hget
    rw [unsatisfied_congr hget] at hunsatisfied
    obtain ⟨result, hresult⟩ := Option.isSome_iff_exists.mp (isSome_of_unsatisfied hunsatisfied)
    have hstatus := (hplan.scope.retained action.id result hresult).2.2.2
    rw [unsatisfied_of_get? hresult, hstatus] at hunsatisfied
    simp at hunsatisfied
  · rcases Dict.mem_or_get?_of_get?_setAll hresult with hmem | ⟨-, hretained⟩
    · obtain ⟨action, -, heq⟩ := List.mem_map.mp hmem
      obtain ⟨rfl, rfl⟩ := Prod.mk.injEq .. ▸ heq
      exact ⟨rfl, Or.inr (Or.inr (Or.inl rfl))⟩
    · obtain ⟨hid, -, -, hstatus⟩ := hplan.scope.retained k result hretained
      exact ⟨hid, Or.inl hstatus⟩

end Invariant

end ControlPlaneApplicator

end PacketTracer
