import PacketTracer.Application.ApplyVoice
import PacketTracer.Application.ConfigurationAcceptance

/-!
# The stages of a voice application

What has to precede each exchange of a run (`StepAllowed`): actions of the scope are dispatched once,
after their dependencies and not after a failure; the deferred signalling is completed once, after
everything was applied; and nothing is observed before it was completed.  `Dispatching` is what the
loop of `_apply_actions` keeps.
-/

namespace PacketTracer

open Dicts Interactions PyText
open Interaction (ensures_bind ensures_exchange ensures_pure ensures_ofExcept)

namespace Voice

namespace VoiceApplicator

/-! ## What a history shows -/

/-- The runtime answered that it applied an action, without a failure code. -/
def AppliedBy (answer : Except String (List RuntimeActionMutation)) (identifier : String) : Prop :=
  ∃ mutations, answer = .ok mutations ∧ ∃ mutation,
    (Dict.ofList (mutations.map fun item => (item.actionId, item))).get? identifier =
      some mutation ∧ mutation.applied = true ∧ mutation.failureCode = .none

/-- All actions of a batch were applied without a failure code. -/
def Succeeded (batch : List VoiceAction) (answer : Except String (List RuntimeActionMutation)) :
    Prop :=
  ∀ action ∈ batch, AppliedBy answer action.id

/-- An action has a satisfying result without a failure code: a retained one, or it was applied. -/
def Settled (request : VoiceApplyRequest) (trace : List VoiceEvent) (identifier : String) : Prop :=
  (∃ item ∈ request.retainedActionResults, item.actionId = identifier ∧
    satisfiesApplyDependency item.status = true ∧ item.failureCode = .none) ∨
  ∃ batch answer, VoiceEvent.applyActions batch answer ∈ trace ∧
    identifier ∈ batch.map VoiceAction.id ∧ AppliedBy answer identifier

/-- The identifiers of the mutation scope: without an explicit one, all of the plan. -/
def scopeIds (plan : VoicePlan) (request : VoiceApplyRequest) : List String :=
  request.mutationActionIds.getD (plan.actions.map VoiceAction.id)

/-- The deferred signalling, when it is the run's to complete, was completed and has left no
foundation missing. -/
def SignalComplete (plan : VoicePlan) (request : VoiceApplyRequest) (trace : List VoiceEvent) :
    Prop :=
  request.completeVoiceSignal.isSome → ∃ statuses,
    VoiceEvent.completeVoiceSignal (.ok statuses) ∈ trace ∧
      ∀ item ∈ plan.foundationalRequirements,
        ∃ status ∈ admissibleFoundationStatuses item.kind,
          statuses.get? item.sourceId = some status

/-- What has to precede the dispatch of a batch. -/
structure DispatchAllowed (plan : VoicePlan) (request : VoiceApplyRequest)
    (before : List VoiceEvent) (batch : List VoiceAction) : Prop where
  /-- The actions are those of the plan, in the scope of the mutation. -/
  planned : ∀ action ∈ batch, action.id ∈ scopeIds plan request ∧
    ∃ planned ∈ plan.actions, planned.id = action.id ∧ planned.dependsOn = action.dependsOn
  /-- No action is retained. -/
  notRetained : ∀ action ∈ batch,
    action.id ∉ request.retainedActionResults.map ActionApplicationResult.actionId
  /-- No action is dispatched twice. -/
  nodup : (batch.map VoiceAction.id).Nodup
  once : ∀ earlier answer, VoiceEvent.applyActions earlier answer ∈ before →
    ∀ action ∈ batch, action.id ∉ earlier.map VoiceAction.id
  /-- Every dependency has a satisfying result. -/
  dependencies : ∀ action ∈ batch, ∀ dependency ∈ action.dependsOn,
    Settled request before dependency
  /-- No earlier batch had a failure. -/
  noFailure : ∀ earlier answer, VoiceEvent.applyActions earlier answer ∈ before →
    Succeeded earlier answer

/-- What has to precede an exchange. -/
def StepAllowed (plan : VoicePlan) (request : VoiceApplyRequest) (before : List VoiceEvent) :
    VoiceEvent → Prop
  | .applyActions batch _ => DispatchAllowed plan request before batch
  | .completeVoiceSignal _ => (∀ answer, VoiceEvent.completeVoiceSignal answer ∉ before) ∧
      ∀ action ∈ plan.actions, Settled request before action.id
  | .observeRegistration _ _ => SignalComplete plan request before
  | .observeRegistrations _ _ => SignalComplete plan request before
  | .verifyCall _ _ _ _ => SignalComplete plan request before
  | _ => True

section Monotone

variable {plan : VoicePlan} {request : VoiceApplyRequest} {trace trace' : List VoiceEvent}

lemma Settled.mono {identifier : String} (h : Settled request trace identifier)
    (hsub : trace ⊆ trace') : Settled request trace' identifier := by
  rcases h with hretained | ⟨batch, answer, hevent, hrest⟩
  · exact Or.inl hretained
  · exact Or.inr ⟨batch, answer, hsub hevent, hrest⟩

lemma SignalComplete.mono (h : SignalComplete plan request trace) (hsub : trace ⊆ trace') :
    SignalComplete plan request trace' := by
  intro hsome
  obtain ⟨statuses, hevent, hfoundations⟩ := h hsome
  exact ⟨statuses, hsub hevent, hfoundations⟩

end Monotone

/-! ## One batch -/

section Batch

variable {batch : List VoiceAction} {answer : Except String (List RuntimeActionMutation)}
  {action : VoiceAction} {results : ResultMap} {names : Dict String String}
  {result : ActionApplicationResult} {identifier : String}

lemma stopsDispatch_eq_false :
    stopsDispatch result = false ↔
      result.failureCode = .none ∧ satisfiesApplyDependency result.status = true := by
  simp [stopsDispatch]

/-- A result that does not stop the dispatch is that of an applied action. -/
lemma appliedBy_of_dispatchResult
    (h : stopsDispatch (dispatchResult action ((mutationsOf batch answer).get? action.id)) =
      false) : AppliedBy answer action.id := by
  obtain ⟨hcode, -⟩ := stopsDispatch_eq_false.mp h
  rcases hget : (mutationsOf batch answer).get? action.id with _ | mutation
  · simp [hget, dispatchResult] at hcode
  rw [hget] at hcode
  have hfailure : mutation.failureCode = .none := by
    by_contra hne
    simp [dispatchResult, hne] at hcode
  have happlied : mutation.applied = true := by
    by_contra hnot
    simp [dispatchResult, hfailure, hnot] at hcode
  cases answer with
  | ok mutations => exact ⟨mutations, rfl, mutation, hget, happlied, hfailure⟩
  | error message =>
    obtain ⟨item, -, -, rfl⟩ := Dict.exists_of_get?_ofList hget
    cases happlied

lemma spec_deployedAction {action' : VoiceAction} (h : deployedAction names action = .ok action') :
    action'.id = action.id ∧ action'.dependsOn = action.dependsOn := by
  unfold deployedAction at h
  rcases hname : names.get? action.hostDeviceId with _ | name
  · simp [hname] at h
  simp only [hname] at h
  split at h
  · split at h
    · cases h
    · rw [← Except.ok.inj h]
      exact ⟨rfl, rfl⟩
  · rw [← Except.ok.inj h]
    exact ⟨rfl, rfl⟩

variable {mutations : Dict String RuntimeActionMutation}

lemma get?_settle (h : (settle batch mutations results).get? identifier = some result) :
    results.get? identifier = some result ∨ ∃ action ∈ batch, action.id = identifier ∧
      result = dispatchResult action (mutations.get? action.id) := by
  unfold settle at h
  induction batch generalizing results with
  | nil => exact Or.inl h
  | cons action batch ih =>
    rcases ih h with hearlier | ⟨other, hother, hrest⟩
    · rw [Dict.get?_set] at hearlier
      split_ifs at hearlier with heq
      · exact Or.inr ⟨action, List.mem_cons_self, heq, (Option.some.inj hearlier).symm⟩
      · exact Or.inl hearlier
    · exact Or.inr ⟨other, List.mem_cons_of_mem _ hother, hrest⟩

lemma isSome_get?_settle :
    ((settle batch mutations results).get? identifier).isSome = true ↔
      identifier ∈ batch.map VoiceAction.id ∨ (results.get? identifier).isSome = true := by
  unfold settle
  induction batch generalizing results with
  | nil => simp
  | cons action batch ih =>
    rw [List.foldl_cons, ih, Dict.get?_set, List.map_cons, List.mem_cons]
    split_ifs with heq
    · simp [heq]
    · have hne : identifier ≠ action.id := fun h => heq h.symm
      simp [hne]

lemma get?_blockAll {pending : List VoiceAction} {message : String}
    (h : (blockAll pending message results).get? identifier = some result) :
    results.get? identifier = some result ∨ result.status = .dependencyBlocked := by
  unfold blockAll at h
  induction pending generalizing results with
  | nil => exact Or.inl h
  | cons action pending ih =>
    rcases ih h with hearlier | hblocked
    · rw [Dict.get?_set] at hearlier
      split_ifs at hearlier
      · exact Or.inr (by rw [← Option.some.inj hearlier]; rfl)
      · exact Or.inl hearlier
    · exact Or.inr hblocked

end Batch

/-! ## The dispatch loop -/

section Dispatch

variable {applicator : VoiceApplicator} {plan : VoicePlan} {request : VoiceApplyRequest}
  {state : DispatchState} {history : List VoiceEvent} {names : Dict String String}

/-- What holds between two batches. -/
structure Dispatching (plan : VoicePlan) (request : VoiceApplyRequest) (state : DispatchState)
    (history : List VoiceEvent) : Prop where
  allowed : EachAfter (StepAllowed plan request) history
  /-- The deferred signalling comes later. -/
  unsignalled : ∀ answer, VoiceEvent.completeVoiceSignal answer ∉ history
  succeeded : ∀ batch answer, VoiceEvent.applyActions batch answer ∈ history →
    Succeeded batch answer
  settled : ∀ identifier result, state.results.get? identifier = some result →
    satisfiesApplyDependency result.status = true → Settled request history identifier
  /-- What was dispatched has a result, and what is pending has none. -/
  recorded : ∀ batch answer, VoiceEvent.applyActions batch answer ∈ history →
    ∀ action ∈ batch, (state.results.get? action.id).isSome = true
  unrecorded : ∀ action ∈ state.pending, state.results.get? action.id = none
  nodup : (state.pending.map VoiceAction.id).Nodup
  planned : ∀ action ∈ state.pending, action ∈ plan.actions ∧ action.id ∈ scopeIds plan request ∧
    action.id ∉ request.retainedActionResults.map ActionApplicationResult.actionId

/-- What holds when nothing more is dispatched: the results that would not have stopped the
dispatch are those of settled actions. -/
structure Dispatched (plan : VoicePlan) (request : VoiceApplyRequest) (results : ResultMap)
    (history : List VoiceEvent) : Prop where
  allowed : EachAfter (StepAllowed plan request) history
  unsignalled : ∀ answer, VoiceEvent.completeVoiceSignal answer ∉ history
  settled : ∀ identifier result, results.get? identifier = some result →
    stopsDispatch result = false → Settled request history identifier

lemma Dispatching.dispatched (h : Dispatching plan request state history) :
    Dispatched plan request state.results history where
  allowed := h.allowed
  unsignalled := h.unsignalled
  settled := fun identifier result hget hstops =>
    h.settled identifier result hget (stopsDispatch_eq_false.mp hstops).2

variable {results : ResultMap} {action : VoiceAction} {E : RaisedError → List VoiceEvent → Prop}

lemma Dispatched.blockAll (h : Dispatched plan request results history)
    (pending : List VoiceAction) (message : String) :
    Dispatched plan request (VoiceApplicator.blockAll pending message results) history where
  allowed := h.allowed
  unsignalled := h.unsignalled
  settled := by
    intro identifier result hget hstops
    rcases get?_blockAll hget with hold | hblocked
    · exact h.settled identifier result hold hstops
    · rw [stopsDispatch_eq_false, hblocked] at hstops
      exact absurd hstops.2 (by decide)

/-- **One pending action is blocked.** -/
lemma Dispatching.block {left right : List VoiceAction} {message : String}
    (h : Dispatching plan request ⟨results, left ++ action :: right⟩ history) :
    Dispatching plan request
      ⟨results.set action.id (blockedResult action message), left ++ right⟩ history := by
  have hsublist : (left ++ right).Sublist (left ++ action :: right) :=
    (List.Sublist.refl left).append (List.sublist_cons_self action right)
  have hnodup := h.nodup
  rw [List.map_append, List.map_cons, List.nodup_middle, List.nodup_cons] at hnodup
  exact
    { allowed := h.allowed
      unsignalled := h.unsignalled
      succeeded := h.succeeded
      settled := fun identifier result hget hsatisfied => by
        rw [Dict.get?_set] at hget
        split_ifs at hget
        · rw [← Option.some.inj hget] at hsatisfied
          exact absurd hsatisfied (by simp [blockedResult, satisfiesApplyDependency])
        · exact h.settled identifier result hget hsatisfied
      recorded := fun batch answer hevent other hother => by
        rw [Dict.get?_set]
        split_ifs
        · rfl
        · exact h.recorded batch answer hevent other hother
      unrecorded := fun other hother => by
        rw [Dict.get?_set, if_neg]
        · exact h.unrecorded other (hsublist.subset hother)
        · intro heq
          refine hnodup.1 ?_
          rw [← List.map_append, heq]
          exact List.mem_map_of_mem hother
      nodup := h.nodup.sublist (hsublist.map _)
      planned := fun other hother => h.planned other (hsublist.subset hother) }

lemma Dispatching.sweep (h : Dispatching plan request state history) :
    Dispatching plan request (VoiceApplicator.sweep state) history := by
  suffices hall : ∀ (rest : List VoiceAction) (swept : DispatchState),
      Dispatching plan request ⟨swept.results, swept.pending ++ rest⟩ history →
        Dispatching plan request (rest.foldl sweepAction swept) history from
    hall state.pending ⟨state.results, []⟩ h
  intro rest
  induction rest with
  | nil =>
    intro swept h
    rwa [List.append_nil] at h
  | cons action rest ih =>
    intro swept h
    refine ih (sweepAction swept action) ?_
    unfold sweepAction
    simp only
    split_ifs
    · rwa [List.append_assoc]
    · exact h.block

/-- A batch is taken from the pending actions, and the dependencies of its actions are satisfied. -/
lemma spec_nextBatch (state : DispatchState) : (nextBatch state).Sublist state.pending ∧
    ∀ action ∈ nextBatch state, ∀ dependency ∈ action.dependsOn,
      satisfied state.results dependency = true := by
  unfold nextBatch
  cases hready : state.pending.filter fun item =>
      item.dependsOn.all (satisfied state.results) with
  | nil => exact ⟨List.nil_sublist _, fun action haction => absurd haction List.not_mem_nil⟩
  | cons first others =>
    have hsublist : (first :: others).Sublist state.pending := hready ▸ List.filter_sublist
    refine ⟨List.filter_sublist.trans hsublist, fun action haction dependency hdepends => ?_⟩
    have hmem : action ∈ state.pending.filter fun item =>
        item.dependsOn.all (satisfied state.results) :=
      hready ▸ List.mem_of_mem_filter haction
    exact List.all_eq_true.mp (List.mem_filter.mp hmem).2 dependency hdepends

lemma Dispatching.of_satisfied (h : Dispatching plan request state history) {dependency : String}
    (hsatisfied : satisfied state.results dependency = true) :
    Settled request history dependency := by
  unfold satisfied at hsatisfied
  cases hget : state.results.get? dependency with
  | none => simp [hget] at hsatisfied
  | some result =>
    rw [hget, Option.any_some] at hsatisfied
    exact h.settled dependency result hget hsatisfied

/-- How the dispatch of a batch extends the history: by one exchange about the same actions, unless
a missing name has kept the batch from the runtime. -/
def BatchDispatched (batch : List VoiceAction) (history : List VoiceEvent)
    (answer : Except String (List RuntimeActionMutation)) (history' : List VoiceEvent) : Prop :=
  (history' = history ∧ ∃ message, answer = .error message) ∨
  ∃ runtimeBatch, history' = history ++ [.applyActions runtimeBatch answer] ∧
    runtimeBatch.map VoiceAction.id = batch.map VoiceAction.id ∧
    ∀ action ∈ runtimeBatch, ∃ item ∈ batch, item.id = action.id ∧
      item.dependsOn = action.dependsOn

variable {batch : List VoiceAction} {answer : Except String (List RuntimeActionMutation)}
  {history' : List VoiceEvent}

lemma ensures_dispatchBatch :
    (applicator.dispatchBatch names batch).Ensures history (BatchDispatched batch history) E := by
  unfold dispatchBatch
  rcases hdeployed : batch.mapM (deployedAction names) with message | runtimeBatch
  · exact Or.inl ⟨rfl, message, rfl⟩
  rw [ensures_exchange]
  refine Or.inr ⟨runtimeBatch, rfl, ?_, fun action haction => ?_⟩
  · exact Fallible.map_eq_map_of_mapM_eq_ok hdeployed fun _ _ h => (spec_deployedAction h).1
  · obtain ⟨item, hitem, h⟩ := Fallible.exists_of_mem_mapM_eq_ok hdeployed haction
    obtain ⟨hid, hdepends⟩ := spec_deployedAction h
    exact ⟨item, hitem, hid.symm, hdepends.symm⟩

/-- What is dispatched between two batches is allowed. -/
lemma Dispatching.dispatchAllowed (h : Dispatching plan request state history)
    {runtimeBatch : List VoiceAction}
    (hids : runtimeBatch.map VoiceAction.id = (nextBatch state).map VoiceAction.id)
    (hitems : ∀ action ∈ runtimeBatch, ∃ item ∈ nextBatch state, item.id = action.id ∧
      item.dependsOn = action.dependsOn) : DispatchAllowed plan request history runtimeBatch := by
  obtain ⟨hsublist, hsatisfied⟩ := spec_nextBatch state
  refine
    { planned := fun action haction => ?_
      notRetained := fun action haction => ?_
      nodup := hids ▸ h.nodup.sublist (hsublist.map _)
      once := fun earlier answer hevent action haction hmem => ?_
      dependencies := fun action haction dependency hdepends => ?_
      noFailure := h.succeeded }
  · obtain ⟨item, hitem, hid, hdependsOn⟩ := hitems action haction
    obtain ⟨hplanned, hscope, -⟩ := h.planned item (hsublist.subset hitem)
    exact ⟨hid ▸ hscope, item, hplanned, hid, hdependsOn⟩
  · obtain ⟨item, hitem, hid, -⟩ := hitems action haction
    exact hid ▸ (h.planned item (hsublist.subset hitem)).2.2
  · obtain ⟨item, hitem, hid, -⟩ := hitems action haction
    obtain ⟨other, hother, hotherId⟩ := List.mem_map.mp hmem
    have hsome := h.recorded earlier answer hevent other hother
    rw [hotherId, ← hid, h.unrecorded item (hsublist.subset hitem)] at hsome
    cases hsome
  · obtain ⟨item, hitem, -, hdependsOn⟩ := hitems action haction
    exact h.of_satisfied (hsatisfied item hitem dependency (hdependsOn ▸ hdepends))

lemma Dispatching.extend (h : Dispatching plan request state history)
    (hbatch : BatchDispatched (nextBatch state) history answer history') :
    EachAfter (StepAllowed plan request) history' ∧
      (∀ answer, VoiceEvent.completeVoiceSignal answer ∉ history') ∧ history ⊆ history' := by
  rcases hbatch with ⟨rfl, -⟩ | ⟨runtimeBatch, rfl, hids, hitems⟩
  · exact ⟨h.allowed, h.unsignalled, List.Subset.refl _⟩
  refine ⟨eachAfter_concat.mpr ⟨h.allowed, h.dispatchAllowed hids hitems⟩,
    fun answer hmem => ?_, List.subset_append_left _ _⟩
  rcases List.mem_concat_iff.mp hmem with hmem | hmem
  · exact h.unsignalled answer hmem
  · cases hmem

lemma settled_of_batchDispatched (hbatch : BatchDispatched batch history answer history')
    (haction : action ∈ batch) (happlied : AppliedBy answer action.id) :
    Settled request history' action.id := by
  rcases hbatch with ⟨-, message, rfl⟩ | ⟨runtimeBatch, rfl, hids, -⟩
  · obtain ⟨mutations, heq, -⟩ := happlied
    cases heq
  · refine Or.inr ⟨runtimeBatch, answer, List.mem_concat_self, ?_,
      happlied⟩
    exact hids ▸ List.mem_map_of_mem haction

/-- **A batch with a failure** ends the dispatch. -/
lemma Dispatching.fail (h : Dispatching plan request state history)
    (hbatch : BatchDispatched (nextBatch state) history answer history') :
    Dispatched plan request
      (settle (nextBatch state) (mutationsOf (nextBatch state) answer) state.results) history' := by
  obtain ⟨hallowed, hunsignalled, hsub⟩ := h.extend hbatch
  refine ⟨hallowed, hunsignalled, fun identifier result hget hstops => ?_⟩
  rcases get?_settle hget with hold | ⟨action, haction, rfl, rfl⟩
  · exact (h.dispatched.settled identifier result hold hstops).mono hsub
  · exact settled_of_batchDispatched hbatch haction (appliedBy_of_dispatchResult hstops)

/-- **A batch without a failure** keeps what holds between batches. -/
lemma Dispatching.succeed (h : Dispatching plan request state history)
    (hbatch : BatchDispatched (nextBatch state) history answer history')
    (happlied : ∀ action ∈ nextBatch state, AppliedBy answer action.id) :
    Dispatching plan request
      ⟨settle (nextBatch state) (mutationsOf (nextBatch state) answer) state.results,
        state.pending.filter (· ∉ nextBatch state)⟩ history' := by
  obtain ⟨hallowed, hunsignalled, hsub⟩ := h.extend hbatch
  obtain ⟨hsublist, -⟩ := spec_nextBatch state
  have hrest : (state.pending.filter (· ∉ nextBatch state)).Sublist state.pending :=
    List.filter_sublist
  refine
    { allowed := hallowed
      unsignalled := hunsignalled
      succeeded := fun batch answer' hevent => ?_
      settled := fun identifier result hget hsatisfied => ?_
      recorded := fun batch answer' hevent action haction => ?_
      unrecorded := fun action haction => ?_
      nodup := h.nodup.sublist (hrest.map _)
      planned := fun action haction => h.planned action (hrest.subset haction) }
  · rcases hbatch with ⟨rfl, -⟩ | ⟨runtimeBatch, rfl, -, hitems⟩
    · exact h.succeeded batch answer' hevent
    rcases List.mem_concat_iff.mp hevent with hevent | hevent
    · exact h.succeeded batch answer' hevent
    · cases hevent
      intro action haction
      obtain ⟨item, hitem, hid, -⟩ := hitems action haction
      exact hid ▸ happlied item hitem
  · rcases get?_settle hget with hold | ⟨action, haction, rfl, -⟩
    · exact (h.settled identifier result hold hsatisfied).mono hsub
    · exact settled_of_batchDispatched hbatch haction (happlied action haction)
  · rw [isSome_get?_settle]
    rcases hbatch with ⟨rfl, -⟩ | ⟨runtimeBatch, rfl, hids, -⟩
    · exact Or.inr (h.recorded batch answer' hevent action haction)
    · rcases List.mem_concat_iff.mp hevent with hevent | hevent
      · exact Or.inr (h.recorded batch answer' hevent action haction)
      · cases hevent
        exact Or.inl (hids ▸ List.mem_map_of_mem haction)
  · -- another pending action has another identifier than those of the batch
    obtain ⟨hpending, hnew⟩ := List.mem_filter.mp haction
    rw [← Option.not_isSome_iff_eq_none, isSome_get?_settle, not_or]
    refine ⟨fun hmem => ?_, by simp [h.unrecorded action hpending]⟩
    obtain ⟨other, hother, hid⟩ := List.mem_map.mp hmem
    obtain rfl := List.inj_on_of_nodup_map h.nodup (hsublist.subset hother) hpending hid
    exact absurd hother (of_decide_eq_true hnew)

lemma appliedBy_of_batchFailures (h : batchFailures batch (mutationsOf batch answer) = []) :
    ∀ action ∈ batch, AppliedBy answer action.id := by
  intro action haction
  rw [batchFailures, List.map_eq_nil_iff, List.filter_eq_nil_iff] at h
  exact appliedBy_of_dispatchResult (Bool.eq_false_of_not_eq_true (h action haction))

/-- **The dispatch loop.** -/
lemma ensures_dispatchLoop {fuel : ℕ} (h : Dispatching plan request state history) :
    (applicator.dispatchLoop names fuel state).Ensures history (Dispatched plan request) E := by
  induction fuel generalizing state history with
  | zero => exact h.dispatched
  | succ fuel ih =>
    unfold dispatchLoop
    split_ifs with hpending
    · exact h.dispatched
    have hswept := h.sweep
    simp only
    split
    · split_ifs
      · exact hswept.dispatched.blockAll _ _
      · exact ih hswept
    rename_i first others hbatch
    rw [ensures_bind, ← hbatch]
    refine ensures_dispatchBatch.imp fun answer history' hdispatched => ?_
    split
    · next hnone =>
      exact ih (hswept.succeed hdispatched (appliedBy_of_batchFailures (sortedBy_eq_nil.mp hnone)))
    · exact (hswept.fail hdispatched).blockAll _ _

end Dispatch

/-! ## The whole dispatch -/

section Scope

variable {applicator : VoiceApplicator} {plan : VoicePlan} {request : VoiceApplyRequest}
  {scope : MutationScope} {history : List VoiceEvent}

/-- What an accepted mutation scope establishes. -/
structure SoundScope (plan : VoicePlan) (request : VoiceApplyRequest) (scope : MutationScope) :
    Prop where
  /-- A retained result is one of the request, and was a success. -/
  retained : ∀ identifier result, scope.retained.get? identifier = some result →
    result ∈ request.retainedActionResults ∧ result.actionId = identifier ∧
      satisfiesApplyDependency result.status = true ∧ result.failureCode = .none
  /-- An action without a retained result is to be mutated. -/
  mutated : ∀ action ∈ plan.actions, scope.retained.get? action.id = none →
    action.id ∈ scopeIds plan request ∧
      action.id ∉ request.retainedActionResults.map ActionApplicationResult.actionId

/-- A mutation scope without errors is sound. -/
lemma soundScope_of_errors_eq_nil
    (h : (mutationScope plan request.mutationActionIds request.retainedActionResults).errors = []) :
    SoundScope plan request
      (mutationScope plan request.mutationActionIds request.retainedActionResults) := by
  cases hids : request.mutationActionIds with
  | none =>
    rw [hids] at h
    by_cases hretained : request.retainedActionResults = []
    · refine ⟨fun identifier result hget => ?_, fun action haction _ => ⟨?_, ?_⟩⟩
      · simp [mutationScope, hretained] at hget
      · rw [scopeIds, hids]
        exact List.mem_map_of_mem haction
      · simp [hretained]
    · simp [mutationScope, hretained] at h
  | some ids =>
    rw [hids] at h
    simp only [mutationScope, List.append_eq_nil_iff, listingError_eq_nil, sortedBy_eq_nil] at h
    obtain ⟨⟨⟨⟨⟨-, -⟩, hmissing⟩, hextra⟩, hinvalid⟩, -⟩ := h
    obtain ⟨hheld, hkept⟩ := retained_of_checks rfl hmissing hextra hinvalid
    refine ⟨fun identifier result hget => ?_, fun action haction hget => ⟨?_, fun hmem => ?_⟩⟩
    · obtain ⟨hitem, hid, -, -, hvalid⟩ := hheld identifier result hget
      have hget' : (Dict.ofList (request.retainedActionResults.map
          fun item => (item.actionId, item))).get? identifier = some result := hget
      simp only [ControlPlaneApplicator.invalidRetained, hget'] at hvalid
      split_ifs at hvalid with hsuccess
      exact ⟨hitem, hid, hsuccess⟩
    · rw [scopeIds, hids, Option.getD_some]
      by_contra hnot
      have hsome := (hkept action.id (List.mem_dedup.mpr (List.mem_map_of_mem haction))
        (mt List.mem_dedup.mp hnot)).2
      exact absurd hsome (Option.not_isSome_iff_eq_none.mpr hget)
    · have hsome : ((Dict.ofList (request.retainedActionResults.map fun item =>
          (item.actionId, item))).get? action.id).isSome := by
        rw [Dict.isSome_get?_ofList_iff, List.map_map]
        exact hmem
      exact absurd hsome (Option.not_isSome_iff_eq_none.mpr hget)

/-- Before anything is dispatched, a result is retained or says that its action was skipped. -/
lemma get?_initialResults (plan : VoicePlan) (capabilities : Dict String VoiceCapabilityProfile)
    (scope : MutationScope) (identifier : String) :
    (initialResults plan capabilities scope).get? identifier = scope.retained.get? identifier ∨
      ∃ result, (initialResults plan capabilities scope).get? identifier = some result ∧
        result.status = .skipped := by
  unfold initialResults
  suffices hall : ∀ (actions : List VoiceAction) (results : ResultMap),
      (results.get? identifier = scope.retained.get? identifier ∨
        ∃ result, results.get? identifier = some result ∧ result.status = .skipped) →
      ∀ final, final = actions.foldl (fun results action =>
        let support := capabilityStatus capabilities action.hostModel action.requiredCapability
        if action.id ∉ scope.mutationIds ∨ support = .supported then results
        else results.set action.id (skippedResult support action)) results →
      (final.get? identifier = scope.retained.get? identifier ∨
        ∃ result, final.get? identifier = some result ∧ result.status = .skipped) from
    hall plan.actions scope.retained (Or.inl rfl) _ rfl
  intro actions
  induction actions with
  | nil =>
    rintro results h _ rfl
    exact h
  | cons action actions ih =>
    rintro results h final rfl
    refine ih _ ?_ _ rfl
    simp only
    split_ifs
    · exact h
    · rw [Dict.get?_set]
      split_ifs
      · exact Or.inr ⟨_, rfl, rfl⟩
      · exact h

variable {capabilities : Dict String VoiceCapabilityProfile} {prepared : PreparedVoice}
  {milestone : String} {Q : Unit → List VoiceEvent → Prop}
  {E : RaisedError → List VoiceEvent → Prop}

/-- An accepted plan before its first batch. -/
structure Opened (plan : VoicePlan) (request : VoiceApplyRequest) (scope : MutationScope)
    (history : List VoiceEvent) : Prop where
  sound : SoundScope plan request scope
  nodup : (plan.actions.map VoiceAction.id).Nodup
  allowed : EachAfter (StepAllowed plan request) history
  unsignalled : ∀ answer, VoiceEvent.completeVoiceSignal answer ∉ history
  undispatched : ∀ batch answer, VoiceEvent.applyActions batch answer ∉ history

lemma Opened.dispatching (h : Opened plan request scope history) :
    Dispatching plan request
      ⟨initialResults plan capabilities scope, plan.actions.filter fun item =>
        !(initialResults plan capabilities scope).contains item.id⟩ history where
  allowed := h.allowed
  unsignalled := h.unsignalled
  succeeded := fun batch answer hevent => absurd hevent (h.undispatched batch answer)
  settled := by
    intro identifier result hget hsatisfied
    rcases get?_initialResults plan capabilities scope identifier with
      hretained | ⟨other, hother, hskipped⟩
    · obtain ⟨hmem, hid, hsuccess⟩ := h.sound.retained identifier result (hretained ▸ hget)
      exact Or.inl ⟨result, hmem, hid, hsuccess⟩
    · rw [hget] at hother
      cases hother
      rw [hskipped] at hsatisfied
      cases hsatisfied
  recorded := fun batch answer hevent => absurd hevent (h.undispatched batch answer)
  unrecorded := by
    intro action haction
    simpa [Dict.contains] using (List.mem_filter.mp haction).2
  nodup := h.nodup.sublist (List.filter_sublist.map _)
  planned := by
    intro action haction
    obtain ⟨hmem, hopen⟩ := List.mem_filter.mp haction
    have hnone : (initialResults plan capabilities scope).get? action.id = none := by
      simpa [Dict.contains] using hopen
    refine ⟨hmem, h.sound.mutated action hmem ?_⟩
    rcases get?_initialResults plan capabilities scope action.id with
      hretained | ⟨other, hother, -⟩
    · exact hretained ▸ hnone
    · rw [hnone] at hother
      cases hother

lemma stopsDispatch_of_applicationStatus {results : List ActionApplicationResult}
    (h : applicationStatus results = .applied) : ∀ item ∈ results, stopsDispatch item = false := by
  unfold applicationStatus at h
  split_ifs at h with hfailed hpart
  intro item hitem
  rw [stopsDispatch_eq_false]
  have hsatisfied : satisfiesApplyDependency item.status = true := by
    by_contra hnot
    exact hpart (List.any_eq_true.mpr ⟨item, hitem, by simpa using hnot⟩)
  refine ⟨?_, hsatisfied⟩
  by_contra hcode
  exact hfailed (List.any_eq_true.mpr ⟨item, hitem, decide_eq_true (Or.inr ⟨hsatisfied, hcode⟩)⟩)

/-- What the bootstrap has established: the signalling is still to come, and everything is settled
when the bootstrap was applied. -/
structure Bootstrapped (plan : VoicePlan) (request : VoiceApplyRequest)
    (results : List ActionApplicationResult) (history : List VoiceEvent) : Prop where
  allowed : EachAfter (StepAllowed plan request) history
  unsignalled : ∀ answer, VoiceEvent.completeVoiceSignal answer ∉ history
  settled : applicationStatus results = .applied →
    ∀ action ∈ plan.actions, Settled request history action.id

/-- **`_apply_actions`.** -/
lemma ensures_applyActions (hopened : Opened plan request prepared.scope history) :
    (applicator.applyActions plan capabilities prepared).Ensures history
      (Bootstrapped plan request) fun _ history' => EachAfter (StepAllowed plan request) history' := by
  unfold applyActions
  simp only [ensures_bind]
  refine (ensures_dispatchLoop hopened.dispatching).imp fun results history' h => ?_
  rw [ensures_ofExcept]
  refine ⟨fun list hlist => ⟨h.allowed, h.unsignalled, fun hstatus action haction => ?_⟩,
    fun _ _ => h.allowed⟩
  obtain ⟨result, hresult, hget⟩ :=
    Fallible.exists_result_of_mapM_eq_ok hlist (List.mem_map_of_mem haction)
  exact h.settled action.id result (subscript_eq_ok.mp hget)
    (stopsDispatch_of_applicationStatus hstatus result hresult)

lemma ensures_notify (hQ : Q () history) (hE : ∀ e, E e history) :
    (notify request milestone).Ensures history Q E := by
  unfold notify
  exact Interaction.ensures_callback hQ fun e _ => hE e

lemma ensures_notifyWhen {condition : Bool} (hQ : Q () history) (hE : ∀ e, E e history) :
    (notifyWhen request condition milestone).Ensures history Q E := by
  unfold notifyWhen
  split_ifs
  · exact ensures_notify hQ hE
  · exact hQ

lemma ensures_bootstrap (hopened : Opened plan request prepared.scope history) :
    (applicator.bootstrap plan request prepared).Ensures history
      (Bootstrapped plan request) fun _ history' => EachAfter (StepAllowed plan request) history' := by
  unfold bootstrap
  rw [ensures_bind]
  refine ensures_notifyWhen ?_ fun _ => hopened.allowed
  refine (ensures_applyActions hopened).bind fun results history' h => ?_
  rw [ensures_bind]
  exact ensures_notifyWhen h fun _ => h.allowed

end Scope

/-! ## The barrier of the deferred signalling -/

section Barrier

variable {plan : VoicePlan} {request : VoiceApplyRequest}
  {results : List ActionApplicationResult} {history : List VoiceEvent}

lemma admissible_of_missingFoundations {statuses : StatusMap}
    (h : missingFoundations plan statuses false = []) :
    ∀ item ∈ plan.foundationalRequirements, ∃ status ∈ admissibleFoundationStatuses item.kind,
      statuses.get? item.sourceId = some status := by
  intro item hitem
  rw [missingFoundations, sortedBy_eq_nil, List.map_eq_nil_iff, List.filter_eq_nil_iff] at h
  have hadmissible := h item hitem
  simp only [foundationAdmissible, Bool.false_and, Bool.or_false, Bool.not_eq_true',
    Bool.not_eq_false] at hadmissible
  cases hget : statuses.get? item.sourceId with
  | none => simp [hget] at hadmissible
  | some status =>
    rw [hget, Option.any_some] at hadmissible
    exact ⟨status, of_decide_eq_true hadmissible, rfl⟩

/-- **The barrier** lets nothing pass before the signalling is complete. -/
lemma ensures_signalBarrier (h : Bootstrapped plan request results history) :
    (signalBarrier plan request results).Ensures history
      (fun answer history' => EachAfter (StepAllowed plan request) history' ∧
        (answer = .ok () → SignalComplete plan request history'))
      fun _ history' => EachAfter (StepAllowed plan request) history' := by
  unfold signalBarrier
  rcases hcomplete : request.completeVoiceSignal with _ | complete
  · refine ⟨h.allowed, fun _ hsome => ?_⟩
    rw [hcomplete] at hsome
    cases hsome
  simp only
  split_ifs with hstatus
  · exact ⟨h.allowed, nofun⟩
  rw [not_not] at hstatus
  rw [ensures_bind]
  have hsignalled : ∀ answer, EachAfter (StepAllowed plan request)
      (history ++ [.completeVoiceSignal answer]) := fun answer =>
    eachAfter_concat.mpr ⟨h.allowed, h.unsignalled, h.settled hstatus⟩
  have hsignal : (completeSignal request complete).Ensures history
      (fun answer history' => EachAfter (StepAllowed plan request) history' ∧
        ∀ statuses, answer = .ok statuses →
          VoiceEvent.completeVoiceSignal (.ok statuses) ∈ history')
      fun _ history' => EachAfter (StepAllowed plan request) history' := by
    unfold completeSignal Interaction.Ensures Interaction.run
    rcases hobserved : lifecycleAnswer request history "DEFERRED_VOICE_COMPLETION_STARTED"
        with message | _
    · simp only [hobserved]
      exact ⟨h.allowed, nofun⟩
    simp only [hobserved]
    refine ⟨hsignalled _, fun statuses hanswer => ?_⟩
    rw [hanswer]
    exact List.mem_concat_self
  refine hsignal.imp fun answer history' hanswer => ?_
  rcases answer with message | statuses
  · exact ⟨hanswer.1, nofun⟩
  simp only
  split_ifs with hmissing
  · exact ⟨hanswer.1, nofun⟩
  · rw [not_not] at hmissing
    rw [ensures_bind]
    refine ensures_notify ⟨hanswer.1, fun _ _ => ?_⟩ fun _ => hanswer.1
    exact ⟨statuses, hanswer.2 statuses rfl, admissible_of_missingFoundations hmissing⟩

end Barrier

/-! ## Observations -/

section Observations

variable {applicator : VoiceApplicator} {plan : VoicePlan} {request : VoiceApplyRequest}
  {history : List VoiceEvent}

/-- The exchange observes phones or calls. -/
def IsObservation : VoiceEvent → Prop
  | .observeRegistration _ _ => True
  | .observeRegistrations _ _ => True
  | .bindCallPlan _ => True
  | .verifyCall _ _ _ _ => True
  | _ => False

lemma eachAfter_of_observations {history' : List VoiceEvent}
    (hallowed : EachAfter (StepAllowed plan request) history)
    (hcomplete : SignalComplete plan request history)
    (hextends : ExtendsBy IsObservation history history') :
    EachAfter (StepAllowed plan request) history' := by
  refine hextends.eachAfter_append hallowed fun more event hevent => ?_
  have hlater := hcomplete.mono (List.subset_append_left history more)
  cases event with
  | observeRegistration _ _ | observeRegistrations _ _ | verifyCall _ _ _ _ => exact hlater
  | bindCallPlan _ | inventory _ => trivial
  | applyActions _ _ | completeVoiceSignal _ => exact absurd hevent id

/-- A computation only observes. -/
abbrev Observes {α : Type} (x : ApplyingVoice α) : Prop :=
  ∀ history, x.Ensures history (fun _ history' => ExtendsBy IsObservation history history')
    fun _ history' => ExtendsBy IsObservation history history'

variable {α β : Type}

lemma observes_pure {a : α} : Observes (pure a : ApplyingVoice α) :=
  fun history => ExtendsBy.refl history

lemma observes_ofExcept {x : Except RaisedError α} :
    Observes (Interaction.ofExcept x : ApplyingVoice α) := by
  intro history
  rw [ensures_ofExcept]
  exact ⟨fun _ _ => ExtendsBy.refl history, fun _ _ => ExtendsBy.refl history⟩

lemma observes_exchange {answer : List VoiceEvent → β} {event : β → VoiceEvent}
    (hevent : ∀ b, IsObservation (event b)) :
    Observes (Interaction.exchange answer event : ApplyingVoice β) :=
  fun history => (ExtendsBy.refl history).concat (hevent (answer history))

lemma observes_bind {x : ApplyingVoice α} {f : α → ApplyingVoice β} (hx : Observes x)
    (hf : ∀ a, Observes (f a)) : Observes (x >>= f) := by
  intro history
  refine (hx history).bind fun a between hbetween => ?_
  exact (hf a between).mono (fun _ _ h => hbetween.trans h) fun _ _ h => hbetween.trans h

lemma observes_loop {σ : Type} {f : σ → β → ApplyingVoice σ} (hf : ∀ s b, Observes (f s b))
    (bs : List β) (s : σ) : Observes (Interaction.loop f s bs) := by
  induction bs generalizing s with
  | nil => exact observes_pure
  | cons b bs ih => exact observes_bind (hf s b) ih

lemma observes_notify {milestone : String} : Observes (notify request milestone) :=
  fun history => ensures_notify (ExtendsBy.refl history) fun _ => ExtendsBy.refl history

lemma observes_observeEach (expectations : List VoiceVerificationExpectation) :
    Observes (applicator.observeEach expectations) := by
  induction expectations with
  | nil => exact observes_pure
  | cons expectation expectations ih =>
    refine observes_bind (observes_exchange fun _ => trivial) fun answer => ?_
    cases answer with
    | error message => exact observes_pure
    | ok observed => exact observes_bind ih fun _ => observes_pure

variable {capabilities : Dict String VoiceCapabilityProfile}
  {results : List ActionApplicationResult}

lemma observes_registrations : Observes (applicator.registrations plan capabilities results) := by
  unfold registrations
  refine observes_bind observes_ofExcept fun settled => ?_
  simp only
  split_ifs
  · exact observes_pure
  refine observes_bind ?_ fun answer => observes_pure
  unfold observeRegistrations
  split
  · exact observes_observeEach _
  refine observes_bind (observes_exchange fun _ => trivial) fun answer => ?_
  rcases answer with message | observed
  · exact observes_pure
  simp only
  split_ifs
  · exact observes_pure
  · exact observes_pure

lemma observes_calls {registrations : List PhoneRegistrationResult} :
    Observes (applicator.calls plan capabilities registrations) := by
  have hbind : Observes (applicator.bindPlan plan) := by
    unfold bindPlan
    split
    · exact observes_pure
    · exact observes_exchange fun _ => trivial
  unfold calls
  refine observes_bind hbind fun answer => ?_
  rcases answer with message | _
  · exact observes_pure
  refine observes_loop (fun results expectation => ?_) _ _
  unfold verifyExpectedCall
  split_ifs
  · exact observes_pure
  refine observes_bind observes_ofExcept fun support => ?_
  split_ifs
  · exact observes_pure
  · exact observes_bind (observes_bind (observes_exchange fun _ => trivial)
      fun _ => observes_pure) fun _ => observes_pure

lemma observes_observeVoice : Observes (applicator.observeVoice plan request results) :=
  observes_bind observes_notify fun _ => observes_bind observes_registrations fun _ =>
    observes_bind observes_notify fun _ => observes_bind observes_calls fun _ => observes_pure

end Observations

/-! ## The whole run -/

section Run

variable {applicator : VoiceApplicator} {plan : VoicePlan} {request : VoiceApplyRequest}

/-- What an accepted preflight establishes; it dispatches and signals nothing. -/
lemma ensures_preflight {E : RaisedError → List VoiceEvent → Prop} :
    (applicator.preflight plan request).Ensures []
      (fun answer history => ExtendsBy (fun event => ∃ answer, event = .inventory answer) [] history ∧
        ∀ prepared, answer = .ok prepared → SoundScope plan request prepared.scope ∧
          (plan.actions.map VoiceAction.id).Nodup) E := by
  unfold preflight
  rcases hstatic : applicator.staticPreflight plan request with refusal | scope
  · rw [ensures_pure]
    exact ⟨ExtendsBy.refl _, nofun⟩
  simp only [ensures_bind, ensures_exchange, ensures_pure]
  refine ⟨(ExtendsBy.refl _).concat ⟨_, rfl⟩, fun prepared hprepared => ?_⟩
  obtain ⟨_, -, hstatic⟩ := Fallible.bind_eq_ok.mp hstatic
  obtain ⟨_, -, hplan⟩ := Fallible.bind_eq_ok.mp hstatic
  rcases hinventory : applicator.inventoryPreflight plan request
      (applicator.runtime.inventory []) with refusal | deployedNames
  · rw [hinventory] at hprepared
    cases hprepared
  rw [hinventory] at hprepared
  cases hprepared
  unfold planPreflight at hplan
  rcases horder : orderDependencyActions plan.actions with error | ordered
  · simp [horder] at hplan
  simp only [horder] at hplan
  split_ifs at hplan with hids herrors hmissing
  rw [not_not] at herrors
  cases hplan
  exact ⟨soundScope_of_errors_eq_nil herrors,
    (nodup_and_closed_of_orderDependencyActions horder).1⟩

/-- **The stages of a voice application.**  Retained actions are never dispatched; an action of the
scope is dispatched at most once, after all of its dependencies have satisfying results, and not
after a batch with a failure.  The deferred signalling is completed at most once, when every action
is applied without a failure code, and nothing is observed before it was completed without a missing
foundation. -/
theorem eachAfter_stepAllowed (applicator : VoiceApplicator) (plan : VoicePlan)
    (request : VoiceApplyRequest) :
    EachAfter (StepAllowed plan request) ((applicator.apply plan request).run []).2 := by
  have hended : (applicator.apply plan request).Ensures []
      (fun _ => EachAfter (StepAllowed plan request))
      fun _ => EachAfter (StepAllowed plan request) := by
    unfold apply
    refine ensures_preflight.bind fun answer history hpreflight => ?_
    obtain ⟨hextends, haccepted⟩ := hpreflight
    have hallowed : EachAfter (StepAllowed plan request) history := by
      refine hextends.eachAfter eachAfter_nil ?_
      rintro before event ⟨answer, rfl⟩
      trivial
    rcases answer with refusal | prepared
    · rw [ensures_ofExcept]
      exact ⟨fun _ _ => hallowed, fun _ _ => hallowed⟩
    obtain ⟨hsound, hnodup⟩ := haccepted prepared rfl
    have hinventory : ∀ event ∈ history, ∃ answer, event = VoiceEvent.inventory answer :=
      fun event hevent => (hextends.mem_or hevent).resolve_left List.not_mem_nil
    have hunsignalled : ∀ answer, VoiceEvent.completeVoiceSignal answer ∉ history := by
      intro answer hevent
      obtain ⟨_, heq⟩ := hinventory _ hevent
      cases heq
    have hundispatched : ∀ batch answer, VoiceEvent.applyActions batch answer ∉ history := by
      intro batch answer hevent
      obtain ⟨_, heq⟩ := hinventory _ hevent
      cases heq
    simp only [applyPrepared, ensures_bind]
    refine (ensures_bootstrap ⟨hsound, hnodup, hallowed, hunsignalled, hundispatched⟩).imp
      fun results between hbootstrapped => ?_
    refine (ensures_signalBarrier hbootstrapped).imp fun barrier after hbarrier => ?_
    rcases barrier with refusal | _
    · rw [ensures_ofExcept]
      exact ⟨fun _ _ => hbarrier.1, fun _ _ => hbarrier.1⟩
    have hcomplete := hbarrier.2 rfl
    simp only [ensures_bind]
    refine (observes_observeVoice after).mono (fun observations final hobserves => ?_)
      fun _ final hobserves => eachAfter_of_observations hbarrier.1 hcomplete hobserves
    have hfinal := eachAfter_of_observations hbarrier.1 hcomplete hobserves
    rw [ensures_ofExcept]
    exact ⟨fun _ _ => hfinal, fun _ _ => hfinal⟩
  exact Interaction.Ensures.of_run hended

end Run

end VoiceApplicator

end Voice

end PacketTracer
