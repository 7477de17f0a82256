import PacketTracer.Application.ApplySecurity

/-!
# What precedes a security dispatch and what its verification establishes

No action is dispatched before every check and every required baseline has succeeded
(`SecurityAccepted`), and none before all of its dependencies were applied.  When the runtime
answers for the stage it was asked about and no expectation can be blocked (`ReadyStage`), a stage
without a status that `_overall` tests for has verified all of its expectations (`StageSettled`).
-/

namespace PacketTracer

open Dicts Interactions PyText

open Interaction (ensures_bind ensures_exchange ensures_pure ensures_ofExcept ensures_loop)

namespace SecurityApplicator

/-! ## What a history shows -/

/-- The exchange dispatches actions. -/
def IsDispatch : SecurityEvent → Prop
  | .applyActions _ _ => True
  | _ => False

/-- The runtime has applied an action that was dispatched to it. -/
def AppliedIn (trace : List SecurityEvent) (identifier : String) : Prop :=
  ∃ batch answer, SecurityEvent.applyActions batch (.ok answer) ∈ trace ∧
    identifier ∈ batch.map SecurityAction.id ∧ ∃ mutation,
      (Dict.ofList (answer.map fun item => (item.actionId, item))).get? identifier =
        some mutation ∧ mutation.applied = true

/-- The runtime has answered a baseline probe with a verified observation. -/
def BaselineVerifiedIn (trace : List SecurityEvent)
    (expectation : SecurityVerificationExpectation) : Prop :=
  ∃ answer, SecurityEvent.verifyBehavior [expectation] .baseline (.ok answer) ∈ trace ∧ ∃ item,
    (Dict.ofList (answer.map fun item => (item.expectationId, item))).get? expectation.id =
      some item ∧ item.status = .verified

/-- Everything that has to succeed before a plan is mutated: the source hashes, the manifest, the
order of the actions and of the expectations, the foundations, the targets in the inventory of the
run, and the baselines that were measured in the run. -/
structure SecurityAccepted (applicator : SecurityApplicator) (plan : SecurityPlan)
    (request : SecurityApplyRequest) (trace : List SecurityEvent) : Prop where
  topologyHash : request.actualSourceTopologyHash = plan.sourceTopologyHash
  configurationHash : request.actualSourceConfigurationHash = plan.sourceConfigurationHash
  serviceHash : plan.sourceServiceHash = "" ∨
    request.actualSourceServiceHash = plan.sourceServiceHash
  voiceHash : plan.sourceVoiceHash = "" ∨ request.actualSourceVoiceHash = plan.sourceVoiceHash
  manifest : applicator.manifestPreflight plan request = .ok ()
  dependencyOrder : ∃ ordered, orderDependencyActions plan.actions = .ok ordered ∧
    ordered.map SecurityAction.id = plan.actions.map SecurityAction.id
  foundations : ∀ item ∈ plan.foundationalRequirements,
    request.foundationalStatuses.get? item.sourceId = some .verified
  targets : ∃ verificationPlan items runtimePlan,
    normalizedVerificationPlan plan = .ok verificationPlan ∧
      SecurityEvent.inventory (.ok items) ∈ trace ∧
      resolvedPlan plan verificationPlan request items = .ok runtimePlan ∧
      applicator.targetErrors runtimePlan
        (Dict.ofList (items.map fun item => (item.deviceName, item))) = [] ∧
      ∀ expectation ∈ baselineExpectations runtimePlan, BaselineVerifiedIn trace expectation

/-- What has to precede an exchange that dispatches actions. -/
def DispatchAllowed (applicator : SecurityApplicator) (plan : SecurityPlan)
    (request : SecurityApplyRequest) (before : List SecurityEvent) : SecurityEvent → Prop
  | .applyActions batch _ => SecurityAccepted applicator plan request before ∧
      ∀ action ∈ batch, ∀ dependency ∈ action.dependsOn, AppliedIn before dependency
  | _ => True

section Monotone

variable {applicator : SecurityApplicator} {plan : SecurityPlan} {request : SecurityApplyRequest}
  {trace trace' : List SecurityEvent}

lemma AppliedIn.mono {identifier : String} (h : AppliedIn trace identifier)
    (hsub : trace ⊆ trace') : AppliedIn trace' identifier := by
  obtain ⟨batch, answer, hevent, hrest⟩ := h
  exact ⟨batch, answer, hsub hevent, hrest⟩

lemma BaselineVerifiedIn.mono {expectation : SecurityVerificationExpectation}
    (h : BaselineVerifiedIn trace expectation) (hsub : trace ⊆ trace') :
    BaselineVerifiedIn trace' expectation := by
  obtain ⟨answer, hevent, hrest⟩ := h
  exact ⟨answer, hsub hevent, hrest⟩

lemma SecurityAccepted.mono (h : SecurityAccepted applicator plan request trace)
    (hsub : trace ⊆ trace') : SecurityAccepted applicator plan request trace' := by
  obtain ⟨verificationPlan, items, runtimePlan, hplan, hevent, hresolved, herrors, hbaseline⟩ :=
    h.targets
  exact { h with
    targets := ⟨verificationPlan, items, runtimePlan, hplan, hsub hevent, hresolved, herrors,
      fun expectation hmem => (hbaseline expectation hmem).mono hsub⟩ }

lemma eachAfter_of_extendsBy
    (h : EachAfter (DispatchAllowed applicator plan request) trace)
    (hextends : ExtendsBy (fun event => ¬IsDispatch event) trace trace') :
    EachAfter (DispatchAllowed applicator plan request) trace' := by
  refine hextends.eachAfter h fun before event hevent => ?_
  cases event with
  | applyActions batch answer => exact absurd trivial hevent
  | _ => trivial

end Monotone

/-! ## Stages of verification -/

section Stages

variable {applicator : SecurityApplicator} {context : StageContext}
  {expectation : SecurityVerificationExpectation} {history : List SecurityEvent}

lemma observedVerification_verified {stage : SecurityVerificationStage}
    {answer : Except String (List RuntimeSecurityVerification)}
    (h : (observedVerification expectation stage answer).status = .verified) :
    ∃ observed, answer = .ok observed ∧ ∃ item,
      (Dict.ofList (observed.map fun item => (item.expectationId, item))).get? expectation.id =
        some item ∧ item.status = .verified := by
  rcases answer with message | observed
  · simp [observedVerification] at h
  refine ⟨observed, rfl, ?_⟩
  simp only [observedVerification] at h
  cases hget : (Dict.ofList (observed.map fun item => (item.expectationId, item))).get?
      expectation.id with
  | none => simp [hget] at h
  | some item =>
    rw [hget, Option.getD_some] at h
    exact ⟨item, rfl, h⟩

variable {statuses : StatusMap} {E : RaisedError → List SecurityEvent → Prop}

lemma status_ne_of_gated {item : RuntimeSecurityVerification}
    (h : context.gated statuses expectation = some item) : item.status ≠ .verified := by
  unfold StageContext.gated at h
  simp only at h
  split_ifs at h
  · cases h
    exact nofun
  · cases h
    exact nofun

/-- **One expectation of a stage** adds one observation and dispatches nothing; for a baseline, the
observation is verified only when the runtime answered so. -/
lemma ensures_verifyExpectation {scan : StageScan} :
    (applicator.verifyExpectation context scan expectation).Ensures history
      (fun scan' history' => ExtendsBy (fun event => ¬IsDispatch event) history history' ∧
        ∃ item, scan'.observed = scan.observed ++ [item] ∧
          (context.stage = .baseline → item.status = .verified →
            BaselineVerifiedIn history' expectation)) E := by
  unfold verifyExpectation
  split
  · next item hgated =>
    rw [ensures_pure]
    exact ⟨ExtendsBy.refl history, item, rfl, fun _ h => absurd h (status_ne_of_gated hgated)⟩
  · rw [ensures_bind, askRuntime]
    split_ifs with hstage
    · rw [ensures_exchange, ensures_pure]
      refine ⟨(ExtendsBy.refl history).concat fun h => h, _, rfl, fun hbaseline => ?_⟩
      rw [hstage] at hbaseline
      cases hbaseline
    · rw [ensures_exchange, ensures_pure]
      refine ⟨(ExtendsBy.refl history).concat fun h => h, _, rfl, fun hbaseline hverified => ?_⟩
      obtain ⟨observed, hanswer, hitem⟩ := observedVerification_verified hverified
      refine ⟨observed, ?_, hitem⟩
      rw [hbaseline] at hanswer ⊢
      rw [hanswer]
      exact List.mem_append_right history (List.mem_singleton_self _)

/-- **A stage** dispatches nothing; baselines that are all observed as verified were verified by
the runtime. -/
lemma ensures_runStage {expectations : List SecurityVerificationExpectation} :
    (applicator.runStage context expectations statuses).Ensures history
      (fun scan history' => ExtendsBy (fun event => ¬IsDispatch event) history history' ∧
        (context.stage = .baseline → (∀ item ∈ scan.observed, item.status = .verified) →
          ∀ expectation ∈ expectations, BaselineVerifiedIn history' expectation)) E := by
  refine ensures_loop (I := fun done (scan : StageScan) history' =>
      ExtendsBy (fun event => ¬IsDispatch event) history history' ∧
        (context.stage = .baseline → (∀ item ∈ scan.observed, item.status = .verified) →
          ∀ expectation ∈ done, BaselineVerifiedIn history' expectation))
    ⟨ExtendsBy.refl history, fun _ _ _ h => absurd h List.not_mem_nil⟩ ?_
  intro done expectation _ scan history' ⟨hextends, hdone⟩
  refine ensures_verifyExpectation.imp fun scan' history'' hstep => ?_
  obtain ⟨hmore, item, hobserved, hitem⟩ := hstep
  refine ⟨hextends.trans hmore, fun hbaseline hall other hother => ?_⟩
  rw [hobserved] at hall
  rcases List.mem_concat_iff.mp hother with hother | rfl
  · have hearlier := hdone hbaseline (fun item' hitem' =>
      hall item' (List.mem_append_left _ hitem')) other hother
    exact hearlier.mono fun event hevent => hmore.mem hevent
  · exact hitem hbaseline (hall item (List.mem_concat_self))

end Stages

/-! ## The dispatch loop -/

section Dispatch

variable {applicator : SecurityApplicator} {plan : SecurityPlan} {request : SecurityApplyRequest}
  {history : List SecurityEvent} {results : ResultMap}

/-- Whatever satisfies a dependency was applied by the runtime. -/
def SatisfiedApplied (results : ResultMap) (trace : List SecurityEvent) : Prop :=
  ∀ identifier, satisfied results identifier = true → AppliedIn trace identifier

variable {identifier : String} {batch : List SecurityAction}
  {answer : Except String (List RuntimeActionMutation)}

lemma satisfied_set {other : String} {result : ActionApplicationResult}
    (h : satisfied (results.set identifier result) other = true) :
    satisfied results other = true ∨
      identifier = other ∧ satisfiesApplyDependency result.status = true := by
  unfold satisfied at h ⊢
  rw [Dict.get?_set] at h
  split_ifs at h with heq
  · exact Or.inr ⟨heq, h⟩
  · exact Or.inl h

lemma satisfied_blockAction {action : SecurityAction}
    (h : satisfied (blockAction results action) identifier = true) :
    satisfied results identifier = true := by
  rcases satisfied_set h with hold | ⟨-, hnew⟩
  · exact hold
  · simp [satisfiesApplyDependency] at hnew

variable {pending : List SecurityAction} {profiles : Dict String SecurityCapabilityProfile}

lemma satisfied_foldl_blockAction
    (h : satisfied (pending.foldl blockAction results) identifier = true) :
    satisfied results identifier = true := by
  induction pending generalizing results with
  | nil => exact h
  | cons action pending ih => exact satisfied_blockAction (ih h)

lemma satisfied_skippedResults : satisfied (skippedResults plan profiles) identifier = false := by
  unfold satisfied
  cases hget : (skippedResults plan profiles).get? identifier with
  | none => rfl
  | some result =>
    obtain ⟨action, -, rfl, rfl⟩ := Dict.exists_of_get?_ofList hget
    rfl

/-- **A dispatched action satisfies a dependency** only when the runtime answered that it applied
it. -/
lemma satisfied_settle (h : satisfied (settle batch answer results) identifier = true) :
    satisfied results identifier = true ∨ identifier ∈ batch.map SecurityAction.id ∧
      ∃ mutation, (mutationsOf batch .sessionFailed answer).get? identifier = some mutation ∧
        mutation.applied = true := by
  unfold settle at h
  suffices hall : ∀ (mutations : Dict String RuntimeActionMutation) (rest : List SecurityAction)
      (results : ResultMap), satisfied (rest.foldl (fun results action => results.set action.id
        (dispatchResult action (mutations.get? action.id))) results) identifier = true →
      satisfied results identifier = true ∨ identifier ∈ rest.map SecurityAction.id ∧
        ∃ mutation, mutations.get? identifier = some mutation ∧ mutation.applied = true from
    hall _ _ _ h
  intro mutations rest
  induction rest with
  | nil => exact fun results h => Or.inl h
  | cons action rest ih =>
    intro results h
    rcases ih _ h with hearlier | ⟨hmem, hmutation⟩
    · rcases satisfied_set hearlier with hold | ⟨rfl, hnew⟩
      · exact Or.inl hold
      · refine Or.inr ⟨List.mem_cons_self, ?_⟩
        cases hget : mutations.get? action.id with
        | none => simp [hget, dispatchResult, satisfiesApplyDependency] at hnew
        | some mutation => exact ⟨mutation, rfl, by simpa [hget, dispatchResult] using hnew⟩
    · exact Or.inr ⟨List.mem_cons_of_mem _ hmem, hmutation⟩

lemma exists_of_applied {failureCode : ConfigurationFailureCode}
    {mutation : RuntimeActionMutation}
    (hget : (mutationsOf batch failureCode answer).get? identifier = some mutation)
    (happlied : mutation.applied = true) :
    ∃ items, answer = .ok items ∧
      (Dict.ofList (items.map fun item => (item.actionId, item))).get? identifier =
        some mutation := by
  cases answer with
  | ok items => exact ⟨items, rfl, hget⟩
  | error message =>
    obtain ⟨action, -, rfl, rfl⟩ := Dict.exists_of_get?_ofList hget
    exact absurd happlied (by simp)

lemma SatisfiedApplied.settle (h : SatisfiedApplied results history) :
    SatisfiedApplied (SecurityApplicator.settle batch answer results)
      (history ++ [.applyActions batch answer]) := by
  intro identifier hsatisfied
  rcases satisfied_settle hsatisfied with hold | ⟨hmem, mutation, hget, happlied⟩
  · exact (h identifier hold).mono (List.subset_append_left _ _)
  · obtain ⟨items, rfl, hitems⟩ := exists_of_applied hget happlied
    exact ⟨batch, items, List.mem_concat_self, hmem, mutation, hitems,
      happlied⟩

/-- What holds of the history while actions are dispatched. -/
structure Dispatching (applicator : SecurityApplicator) (plan : SecurityPlan)
    (request : SecurityApplyRequest) (results : ResultMap) (history : List SecurityEvent) : Prop
    where
  allowed : EachAfter (DispatchAllowed applicator plan request) history
  accepted : SecurityAccepted applicator plan request history
  applied : SatisfiedApplied results history

/-- **One batch** of actions whose dependencies are satisfied. -/
lemma Dispatching.settle (h : Dispatching applicator plan request results history)
    {batch : List SecurityAction}
    (hready : ∀ action ∈ batch, ∀ dependency ∈ action.dependsOn,
      satisfied results dependency = true)
    {answer : Except String (List RuntimeActionMutation)} :
    Dispatching applicator plan request (SecurityApplicator.settle batch answer results)
      (history ++ [.applyActions batch answer]) where
  allowed := eachAfter_concat.mpr ⟨h.allowed, h.accepted, fun action haction dependency hdepends =>
    h.applied dependency (hready action haction dependency hdepends)⟩
  accepted := h.accepted.mono (List.subset_append_left _ _)
  applied := h.applied.settle

lemma ensures_pendingLoop {fuel : ℕ} (h : Dispatching applicator plan request results history)
    {E : RaisedError → List SecurityEvent → Prop} :
    (applicator.pendingLoop fuel pending results).Ensures history
      (Dispatching applicator plan request) E := by
  induction fuel generalizing pending results history with
  | zero => exact h
  | succ fuel ih =>
    unfold pendingLoop
    split_ifs
    · exact h
    split
    · rw [ensures_pure]
      exact { h with
        applied := fun identifier hsatisfied =>
          h.applied identifier (satisfied_foldl_blockAction hsatisfied) }
    rename_i first others hready
    simp only [ensures_bind, ensures_exchange]
    refine ih (h.settle fun action haction dependency hdepends => ?_)
    rw [← hready, List.mem_filter] at haction
    exact List.all_eq_true.mp haction.2 dependency hdepends

/-- `_apply_actions`: the phases one after the other. -/
lemma ensures_applyActions {deployed : SecurityPlan}
    (hallowed : EachAfter (DispatchAllowed applicator plan request) history)
    (haccepted : SecurityAccepted applicator plan request history) :
    (applicator.applyActions deployed profiles).Ensures history
      (fun _ history' => EachAfter (DispatchAllowed applicator plan request) history' ∧
        SecurityAccepted applicator plan request history')
      (fun _ history' => EachAfter (DispatchAllowed applicator plan request) history' ∧
        SecurityAccepted applicator plan request history') := by
  unfold applyActions
  rw [ensures_bind]
  have hstart : Dispatching applicator plan request (skippedResults deployed profiles) history :=
    ⟨hallowed, haccepted, fun identifier hsatisfied => by
      rw [satisfied_skippedResults] at hsatisfied
      cases hsatisfied⟩
  refine (ensures_loop (I := fun _ => Dispatching applicator plan request) hstart
    fun _ phase _ results history h => ensures_pendingLoop h).imp fun results history h => ?_
  rw [ensures_ofExcept]
  exact ⟨fun _ _ => ⟨h.allowed, h.accepted⟩, fun _ _ => ⟨h.allowed, h.accepted⟩⟩

end Dispatch

/-! ## The preflight -/

section Preflight

variable {applicator : SecurityApplicator} {plan : SecurityPlan} {request : SecurityApplyRequest}
  {history : List SecurityEvent}

lemma hashes_of_sourceMismatch (h : sourceMismatch plan request = none) :
    request.actualSourceTopologyHash = plan.sourceTopologyHash ∧
      request.actualSourceConfigurationHash = plan.sourceConfigurationHash ∧
      (plan.sourceServiceHash = "" ∨
        request.actualSourceServiceHash = plan.sourceServiceHash) ∧
      (plan.sourceVoiceHash = "" ∨ request.actualSourceVoiceHash = plan.sourceVoiceHash) := by
  unfold sourceMismatch at h
  split_ifs at h with htopology hconfiguration hservice hvoice
  rw [not_not] at htopology hconfiguration
  rw [not_and_or, not_not, not_not] at hservice hvoice
  exact ⟨htopology, hconfiguration, hservice, hvoice⟩

lemma verified_of_missingFoundations {statuses : StatusMap}
    (h : missingFoundations plan statuses = []) :
    ∀ item ∈ plan.foundationalRequirements, statuses.get? item.sourceId = some .verified := by
  intro item hitem
  by_contra hstatus
  have hmem : item.sourceId ∈ missingFoundations plan statuses :=
    mem_sortedBy.mpr (List.mem_map.mpr
      ⟨item, List.mem_filter.mpr ⟨hitem, decide_eq_true hstatus⟩, rfl⟩)
  rw [h] at hmem
  exact absurd hmem List.not_mem_nil

/-- What the checks on dependencies and foundations establish. -/
lemma planPreflight_eq_ok {verificationPlan : SecurityPlan}
    (h : planPreflight plan request = .ok verificationPlan) :
    (∃ ordered, orderDependencyActions plan.actions = .ok ordered ∧
        ordered.map SecurityAction.id = plan.actions.map SecurityAction.id) ∧
      normalizedVerificationPlan plan = .ok verificationPlan ∧
      ∀ item ∈ plan.foundationalRequirements,
        request.foundationalStatuses.get? item.sourceId = some .verified := by
  unfold planPreflight at h
  rcases horder : orderDependencyActions plan.actions with error | ordered
  · simp [horder] at h
  simp only [horder] at h
  by_cases hids : ordered.map SecurityAction.id = plan.actions.map SecurityAction.id
  swap
  · rw [if_pos hids] at h
    cases h
  rw [if_neg (not_not.mpr hids)] at h
  rcases hnormalized : normalizedVerificationPlan plan with message | verificationPlan'
  · simp [hnormalized] at h
  simp only [hnormalized] at h
  split_ifs at h with hmissing
  rw [not_not] at hmissing
  cases h
  exact ⟨⟨ordered, rfl, hids⟩, rfl, verified_of_missingFoundations hmissing⟩

/-- What an accepted preflight establishes, whatever baselines are verified later. -/
lemma ensures_preflight {E : RaisedError → List SecurityEvent → Prop} :
    (applicator.preflight plan request).Ensures []
      (fun answer history => ExtendsBy (fun event => ¬IsDispatch event) [] history ∧
        ∀ runtimePlan, answer = .ok runtimePlan → ∀ trace, history ⊆ trace →
          (∀ expectation ∈ baselineExpectations runtimePlan,
            BaselineVerifiedIn trace expectation) →
          SecurityAccepted applicator plan request trace) E := by
  unfold preflight
  rcases hstatic : applicator.staticPreflight plan request with refusal | verificationPlan
  · simp only [ensures_pure]
    exact ⟨ExtendsBy.refl _, fun _ h => by cases h⟩
  simp only [ensures_bind, ensures_exchange, ensures_pure]
  refine ⟨(ExtendsBy.refl _).concat fun h => h, fun runtimePlan hanswer trace hsub hbaseline => ?_⟩
  unfold staticPreflight at hstatic
  cases hmismatch : sourceMismatch plan request with
  | some refusal => simp [hmismatch] at hstatic
  | none =>
    simp only [hmismatch] at hstatic
    rcases hmanifest : applicator.manifestPreflight plan request with refusal | _
    · simp [hmanifest] at hstatic
    simp only [hmanifest] at hstatic
    obtain ⟨horder, hnormalized, hfoundations⟩ := planPreflight_eq_ok hstatic
    obtain ⟨htopology, hconfiguration, hservice, hvoice⟩ := hashes_of_sourceMismatch hmismatch
    rcases hinventory : applicator.runtime.inventory [] with message | items
    · simp [hinventory, inventoryPreflight] at hanswer
    rw [hinventory] at hanswer hsub
    simp only [inventoryPreflight] at hanswer
    rcases hresolved : resolvedPlan plan verificationPlan request items with message | resolved
    · simp [hresolved] at hanswer
    simp only [hresolved] at hanswer
    split_ifs at hanswer with herrors
    rw [not_not] at herrors
    obtain rfl := Except.ok.inj hanswer
    exact
      { topologyHash := htopology
        configurationHash := hconfiguration
        serviceHash := hservice
        voiceHash := hvoice
        manifest := hmanifest
        dependencyOrder := horder
        foundations := hfoundations
        targets := ⟨verificationPlan, items, resolved, hnormalized,
          hsub (List.mem_singleton_self _), hresolved, herrors, hbaseline⟩ }

end Preflight

/-! ## The whole run -/

section Run

variable {applicator : SecurityApplicator} {plan : SecurityPlan} {request : SecurityApplyRequest}

/-- The journal of a report has no entries. -/
def EmptyJournal (report : SecurityApplicationResult) : Prop :=
  ∃ journal, report.executionJournal = some journal ∧ journal.entries = []

lemma emptyJournal_of_failure {refusal : Refusal} {results : List SecurityVerificationResult}
    {report : SecurityApplicationResult}
    (h : failure plan request refusal results = .ok report) : EmptyJournal report := by
  obtain ⟨journal, hjournal, hreport⟩ := Fallible.bind_eq_ok.mp h
  have hempty : journal.entries = [] := by
    cases hjournal
    rfl
  cases hreport
  refine ⟨_, rfl, ?_⟩
  have hfold : ∀ (messages : List String) (journal : ApplicationExecutionJournal),
      (messages.foldl ApplicationExecutionJournal.markPreflightFailure journal).entries =
        journal.entries := by
    intro messages
    induction messages with
    | nil => exact fun _ => rfl
    | cons message messages ih => exact fun journal => ih (journal.markPreflightFailure message)
  rw [hfold, hempty]

/-- What holds at the end of a run: dispatches were allowed, and a report of a run without
acceptance has an empty journal. -/
structure Ended (applicator : SecurityApplicator) (plan : SecurityPlan)
    (request : SecurityApplyRequest) (result : Except RaisedError SecurityApplicationResult)
    (trace : List SecurityEvent) : Prop where
  allowed : EachAfter (DispatchAllowed applicator plan request) trace
  refused : ¬SecurityAccepted applicator plan request trace →
    ∀ report, result = .ok report → EmptyJournal report

variable {history : List SecurityEvent}

lemma ended_of_accepted {history' : List SecurityEvent}
    {result : Except RaisedError SecurityApplicationResult}
    (hallowed : EachAfter (DispatchAllowed applicator plan request) history)
    (haccepted : SecurityAccepted applicator plan request history)
    (hextends : ExtendsBy (fun event => ¬IsDispatch event) history history') :
    Ended applicator plan request result history' where
  allowed := eachAfter_of_extendsBy hallowed hextends
  refused := fun h => absurd (haccepted.mono fun _ hevent => hextends.mem hevent) h

variable {deployed : SecurityPlan} {verification : VerificationMap}

lemma ensures_cleanupApplied {results : List ActionApplicationResult} {statuses : StatusMap}
    {E : RaisedError → List SecurityEvent → Prop} :
    (applicator.cleanupApplied deployed request results verification statuses).Ensures history
      (fun _ history' => ExtendsBy (fun event => ¬IsDispatch event) history history') E := by
  unfold cleanupApplied
  split_ifs
  · simp only [cleanup, ensures_bind, ensures_exchange,
      ensures_pure]
    split_ifs
    · simp only [ensures_bind, ensures_pure]
      refine ensures_runStage.imp fun scan history' h => ?_
      exact ((ExtendsBy.refl history).concat fun h => h).trans h.1
    · rw [ensures_pure]
      exact (ExtendsBy.refl history).concat fun h => h
  · rw [ensures_pure]
    exact ExtendsBy.refl history

/-- After the baselines were verified. -/
lemma ensures_applyVerified
    (hallowed : EachAfter (DispatchAllowed applicator plan request) history)
    (haccepted : SecurityAccepted applicator plan request history) :
    (applicator.applyVerified plan request deployed verification).Ensures history
      (fun report => Ended applicator plan request (.ok report))
      (fun e => Ended applicator plan request (.error e)) := by
  unfold applyVerified
  rw [ensures_bind]
  refine (ensures_applyActions hallowed haccepted).mono (fun results history h => ?_)
    fun e history h => ended_of_accepted h.1 h.2 (ExtendsBy.refl history)
  simp only [verifyApplied, ensures_bind, ensures_pure]
  refine ensures_runStage.imp fun direct between hdirect => ?_
  refine ensures_runStage.imp fun behavior after hbehavior => ?_
  refine ensures_cleanupApplied.imp fun outcome final hcleanup => ?_
  have hextends := (hdirect.1.trans hbehavior.1).trans hcleanup
  rw [ensures_ofExcept]
  exact ⟨fun _ _ => ended_of_accepted h.1 h.2 hextends,
    fun _ _ => ended_of_accepted h.1 h.2 hextends⟩

/-- **What precedes a dispatch.**  Actions are dispatched only after every check on the plan, its
foundations and its targets has succeeded and every required baseline was verified in the run, and
each only after its dependencies were applied.  Where any of this fails nothing is dispatched, and
the journal of the report is empty. -/
theorem dispatch_after_acceptance (applicator : SecurityApplicator) (plan : SecurityPlan)
    (request : SecurityApplyRequest) :
    EachAfter (DispatchAllowed applicator plan request)
        ((applicator.apply plan request).run []).2 ∧
      (¬SecurityAccepted applicator plan request ((applicator.apply plan request).run []).2 →
        (∀ event ∈ ((applicator.apply plan request).run []).2, ¬IsDispatch event) ∧
          ∀ report, ((applicator.apply plan request).run []).1 = .ok report →
            EmptyJournal report) := by
  have hended : (applicator.apply plan request).Ensures []
      (fun report => Ended applicator plan request (.ok report))
      (fun e => Ended applicator plan request (.error e)) := by
    unfold apply
    refine ensures_preflight.bind fun answer history hpreflight => ?_
    have hallowed : EachAfter (DispatchAllowed applicator plan request) history :=
      eachAfter_of_extendsBy eachAfter_nil hpreflight.1
    cases answer with
    | error refusal =>
      rw [ensures_ofExcept]
      exact ⟨fun report hreport => ⟨hallowed, fun _ _ heq => by
          cases heq
          exact emptyJournal_of_failure hreport⟩,
        fun _ _ => ⟨hallowed, fun _ _ heq => by cases heq⟩⟩
    | ok runtimePlan =>
      simp only [applyPrepared, ensures_bind]
      refine ensures_runStage.imp fun baseline between hbaseline => ?_
      have hallowed' := eachAfter_of_extendsBy hallowed hbaseline.1
      split_ifs with hfailed
      · rw [ensures_ofExcept]
        exact ⟨fun report hreport => ⟨hallowed', fun _ _ heq => by
            cases heq
            exact emptyJournal_of_failure hreport⟩,
          fun _ _ => ⟨hallowed', fun _ _ heq => by cases heq⟩⟩
      · -- every baseline was verified, and nothing else is missing
        have hverified : ∀ item ∈ baseline.observed, item.status = .verified := by
          simpa using hfailed
        have haccepted := hpreflight.2 runtimePlan rfl between
          (fun _ hevent => hbaseline.1.mem hevent) (hbaseline.2 rfl hverified)
        exact ensures_applyVerified hallowed' haccepted
  have hend : Ended applicator plan request ((applicator.apply plan request).run []).1
      ((applicator.apply plan request).run []).2 := by
    unfold Interaction.Ensures at hended
    cases hrun : (applicator.apply plan request).run [] with
    | mk result trace =>
      rw [hrun] at hended
      cases result with
      | ok report | error e => exact hended
  refine ⟨hend.allowed, fun hrefused => ⟨fun event hevent hdispatch => hrefused ?_,
    hend.refused hrefused⟩⟩
  obtain ⟨before, after, hsplit⟩ := List.append_of_mem hevent
  have hbefore := hend.allowed before event after hsplit
  cases event with
  | applyActions batch answer =>
    refine hbefore.1.mono fun other hother => ?_
    rw [hsplit]
    exact List.mem_append_left _ hother
  | _ => exact hdispatch.elim

end Run

/-- The statuses that `_overall` does not let pass. -/
def undecided : List ActionExecutionStatus := [.failed, .unknown, .unobservable, .partial_]

/-- What an answer says about an expectation is for the stage that was asked about.  In the stages
that settle expectations its status is verified or one that is tested for. -/
def AnswersInKind (expectations : List SecurityVerificationExpectation)
    (stage : SecurityVerificationStage) (answer : List RuntimeSecurityVerification) : Prop :=
  ∀ expectation ∈ expectations, ∀ item,
    (Dict.ofList (answer.map fun item => (item.expectationId, item))).get? expectation.id =
      some item →
    item.stage = stage ∧
      (stage ≠ .cleanupRecovery → item.status = .verified ∨ item.status ∈ undecided)

/-- The runtime answers in kind; what it says about baselines is free. -/
def InKind : SecurityEvent → Prop
  | .observe expectations (.ok answer) => AnswersInKind expectations .directState answer
  | .verifyBehavior expectations stage (.ok answer) =>
    stage ≠ .baseline → AnswersInKind expectations stage answer
  | _ => True

instance (expectations : List SecurityVerificationExpectation) (stage : SecurityVerificationStage)
    (answer : List RuntimeSecurityVerification) :
    Decidable (AnswersInKind expectations stage answer) :=
  inferInstanceAs (Decidable (∀ expectation ∈ expectations, ∀ item ∈
    (Dict.ofList (answer.map fun item => (item.expectationId, item))).get? expectation.id,
      item.stage = stage ∧
        (stage ≠ .cleanupRecovery → item.status = .verified ∨ item.status ∈ undecided)))

instance : DecidablePred InKind
  | .observe expectations (.ok answer) =>
    inferInstanceAs (Decidable (AnswersInKind expectations .directState answer))
  | .verifyBehavior expectations stage (.ok answer) =>
    inferInstanceAs (Decidable (stage ≠ .baseline → AnswersInKind expectations stage answer))
  | .inventory _ | .applyActions _ _ | .cleanupActions _ _ | .observe _ (.error _)
  | .verifyBehavior _ _ (.error _) => .isTrue trivial

/-! ## One stage -/

section Stage

variable {applicator : SecurityApplicator} {context : StageContext} {known : List String}
  {expectation : SecurityVerificationExpectation}
  {expectations : List SecurityVerificationExpectation} {history : List SecurityEvent}

/-- The prerequisites of every expectation are met as soon as `known` and the earlier expectations
of the stage are verified. -/
def ReadyStage (context : StageContext) (known : List String)
    (expectations : List SecurityVerificationExpectation) : Prop :=
  EachAfter (fun before expectation => ∀ statuses : StatusMap,
    (∀ identifier ∈ known ++ before.map SecurityVerificationExpectation.id,
      statuses.get? identifier = some .verified) →
    (context.prerequisites statuses expectation).1 = true) expectations

/-- What a stage that started from `start` has established: its observations are those of its
expectations, and they are all verified when none could be blocked and none is undecided. -/
structure StageSettled (context : StageContext) (start : StatusMap)
    (expectations : List SecurityVerificationExpectation) (scan : StageScan) : Prop where
  labels : scan.observed.map (fun item => (item.expectationId, item.stage)) =
    expectations.map fun expectation => (expectation.id, context.stage)
  verified : ∀ known, (∀ identifier ∈ known, start.get? identifier = some .verified) →
    ReadyStage context known expectations → context.stage ≠ .cleanupRecovery →
    (∀ item ∈ scan.observed, item.status ∉ undecided) →
    (∀ item ∈ scan.observed, item.status = .verified) ∧
      ∀ identifier ∈ known ++ expectations.map SecurityVerificationExpectation.id,
        scan.statuses.get? identifier = some .verified

variable {start : StatusMap} {scan : StageScan} {E : RaisedError → List SecurityEvent → Prop}
  {item : RuntimeSecurityVerification} {stage : SecurityVerificationStage}

lemma StageSettled.exists_expectation (h : StageSettled context start expectations scan)
    (hitem : item ∈ scan.observed) :
    item.stage = context.stage ∧
      ∃ expectation ∈ expectations, expectation.id = item.expectationId := by
  have hmem : (item.expectationId, item.stage) ∈
      scan.observed.map fun item => (item.expectationId, item.stage) :=
    List.mem_map.mpr ⟨item, hitem, rfl⟩
  rw [h.labels] at hmem
  obtain ⟨expectation, hexpectation, heq⟩ := List.mem_map.mp hmem
  obtain ⟨hid, hstage⟩ := Prod.mk.inj heq
  exact ⟨hstage.symm, expectation, hexpectation, hid⟩

lemma StageSettled.exists_observed (h : StageSettled context start expectations scan)
    (hmem : expectation ∈ expectations) :
    ∃ item ∈ scan.observed, item.expectationId = expectation.id := by
  have hlabel : (expectation.id, context.stage) ∈
      expectations.map fun expectation => (expectation.id, context.stage) :=
    List.mem_map.mpr ⟨expectation, hmem, rfl⟩
  rw [← h.labels] at hlabel
  obtain ⟨item, hitem, heq⟩ := List.mem_map.mp hlabel
  exact ⟨item, hitem, (Prod.mk.inj heq).1⟩

lemma StageSettled.map_expectationId (h : StageSettled context start expectations scan) :
    scan.observed.map RuntimeSecurityVerification.expectationId =
      expectations.map SecurityVerificationExpectation.id := by
  have hfst := congrArg (List.map Prod.fst) h.labels
  rwa [List.map_map, List.map_map] at hfst

/-- An observation without the runtime is for the stage, and undecided when the prerequisites are
met. -/
lemma spec_of_gated {statuses : StatusMap} (h : context.gated statuses expectation = some item) :
    item.expectationId = expectation.id ∧ item.stage = context.stage ∧
      ((context.prerequisites statuses expectation).1 = true → item.status ∈ undecided) := by
  unfold StageContext.gated at h
  simp only at h
  split_ifs at h with hblocked hsupport
  · cases h
    refine ⟨rfl, rfl, fun hmet => ?_⟩
    rw [hblocked] at hmet
    cases hmet
  · cases h
    exact ⟨rfl, rfl, fun _ => by simp [undecided]⟩

/-- An answer in kind is for the stage, and verified or undecided. -/
lemma spec_observedVerification {answer : Except String (List RuntimeSecurityVerification)}
    (h : ∀ observed, answer = .ok observed → AnswersInKind [expectation] stage observed) :
    (observedVerification expectation stage answer).expectationId = expectation.id ∧
      (observedVerification expectation stage answer).stage = stage ∧
      (stage ≠ .cleanupRecovery →
        (observedVerification expectation stage answer).status = .verified ∨
          (observedVerification expectation stage answer).status ∈ undecided) := by
  rcases answer with message | observed
  · exact ⟨rfl, rfl, fun _ => Or.inr (by simp [observedVerification, undecided])⟩
  simp only [observedVerification]
  cases hget : (Dict.ofList (observed.map fun item => (item.expectationId, item))).get?
      expectation.id with
  | none => exact ⟨rfl, rfl, fun _ => Or.inr (by simp [undecided])⟩
  | some item =>
    obtain ⟨other, -, hid, rfl⟩ := Dict.exists_of_get?_ofList hget
    exact ⟨hid, h observed rfl expectation (List.mem_singleton_self _) other hget⟩

lemma ensures_askRuntime (hstage : stage ≠ .baseline) :
    (applicator.askRuntime stage expectation).Ensures history
      (fun answer history' => history ⊆ history' ∧ ((∀ event ∈ history', InKind event) →
        ∀ observed, answer = .ok observed → AnswersInKind [expectation] stage observed)) E := by
  unfold askRuntime
  split_ifs with hdirect
  · subst hdirect
    rw [Interaction.ensures_exchange]
    refine ⟨List.subset_append_left _ _, fun hkind observed hanswer => ?_⟩
    rw [hanswer] at hkind
    exact hkind _ (List.mem_concat_self)
  · rw [Interaction.ensures_exchange]
    refine ⟨List.subset_append_left _ _, fun hkind observed hanswer => ?_⟩
    rw [hanswer] at hkind
    exact hkind _ (List.mem_concat_self) hstage

/-- **One expectation of a stage** adds one observation for it. -/
lemma ensures_verifyExpectation_settled (hstage : context.stage ≠ .baseline) :
    (applicator.verifyExpectation context scan expectation).Ensures history
      (fun scan' history' => history ⊆ history' ∧ ((∀ event ∈ history', InKind event) →
        ∃ item, scan' = scan.add expectation item ∧ item.expectationId = expectation.id ∧
          item.stage = context.stage ∧ (context.stage ≠ .cleanupRecovery →
            (context.prerequisites scan.statuses expectation).1 = true →
              item.status = .verified ∨ item.status ∈ undecided))) E := by
  unfold verifyExpectation
  split
  · next item hgated =>
    obtain ⟨hid, hlabel, hstatus⟩ := spec_of_gated hgated
    rw [Interaction.ensures_pure]
    exact ⟨List.Subset.refl _, fun _ =>
      ⟨item, rfl, hid, hlabel, fun _ hmet => Or.inr (hstatus hmet)⟩⟩
  · refine (ensures_askRuntime hstage).bind fun answer history' h => ?_
    rw [Interaction.ensures_pure]
    refine ⟨h.1, fun hkind => ?_⟩
    obtain ⟨hid, hlabel, hstatus⟩ := spec_observedVerification (h.2 hkind)
    exact ⟨_, rfl, hid, hlabel, fun hrecovery _ => hstatus hrecovery⟩

lemma stageSettled_nil (context : StageContext) (start : StatusMap) :
    StageSettled context start [] { statuses := start } where
  labels := rfl
  verified := fun known hknown _ _ _ =>
    ⟨fun _ h => absurd h List.not_mem_nil, by simpa using hknown⟩

/-- One more expectation. -/
lemma StageSettled.add {start : StatusMap} {scan : StageScan} {item : RuntimeSecurityVerification}
    (h : StageSettled context start expectations scan) (hid : item.expectationId = expectation.id)
    (hlabel : item.stage = context.stage)
    (hstatus : context.stage ≠ .cleanupRecovery →
      (context.prerequisites scan.statuses expectation).1 = true →
        item.status = .verified ∨ item.status ∈ undecided) :
    StageSettled context start (expectations ++ [expectation]) (scan.add expectation item) where
  labels := by simp [StageScan.add, h.labels, hid, hlabel]
  verified := by
    intro known hknown hready hrecovery hclean
    obtain ⟨hready', hlast⟩ := eachAfter_concat.mp hready
    obtain ⟨hobserved, hverified⟩ := h.verified known hknown hready' hrecovery
      fun other hother => hclean other (List.mem_append_left _ hother)
    have hitem : item.status = .verified :=
      (hstatus hrecovery (hlast scan.statuses hverified)).resolve_right
        (hclean item (List.mem_concat_self))
    constructor
    · intro other hother
      rcases List.mem_concat_iff.mp hother with hother | hother
      · exact hobserved other hother
      · rwa [hother]
    · intro identifier hidentifier
      simp only [StageScan.add, Dict.get?_set, hitem]
      split_ifs with heq
      · rfl
      refine hverified identifier ?_
      simp only [List.map_append, List.map_cons, List.map_nil, List.mem_append,
        List.mem_singleton] at hidentifier ⊢
      have hne : identifier ≠ expectation.id := fun h => heq h.symm
      tauto

/-- **A stage** settles its expectations when the runtime answers in kind. -/
lemma ensures_runStage_settled (hstage : context.stage ≠ .baseline) :
    (applicator.runStage context expectations start).Ensures history
      (fun scan history' => history ⊆ history' ∧ ((∀ event ∈ history', InKind event) →
        StageSettled context start expectations scan)) E := by
  refine Interaction.ensures_loop (I := fun done (scan : StageScan) history' =>
      history ⊆ history' ∧ ((∀ event ∈ history', InKind event) →
        StageSettled context start done scan))
    ⟨List.Subset.refl _, fun _ => stageSettled_nil context start⟩ ?_
  intro done expectation _ scan history' ⟨hsub, hdone⟩
  refine (ensures_verifyExpectation_settled hstage).imp fun scan' history'' hstep => ?_
  refine ⟨List.Subset.trans hsub hstep.1, fun hkind => ?_⟩
  obtain ⟨item, rfl, hid, hlabel, hstatus⟩ := hstep.2 hkind
  exact (hdone fun event hevent => hkind event (hstep.1 hevent)).add hid hlabel hstatus

end Stage

/-! ## Merging a stage into the results -/

section Merge

variable {results : VerificationMap} {observed : List RuntimeSecurityVerification}
  {identifier : String} {result : SecurityVerificationResult} {item : RuntimeSecurityVerification}

lemma get?_mergeItem (h : (mergeItem results item).get? identifier = some result) :
    ∃ before, results.get? identifier = some before ∧
      result = if item.expectationId = identifier then before.merge item else before := by
  unfold mergeItem at h
  cases hget : results.get? item.expectationId with
  | none =>
    simp only [hget] at h
    refine ⟨result, h, ?_⟩
    rw [if_neg]
    rintro rfl
    rw [hget] at h
    cases h
  | some before =>
    simp only [hget, Dict.get?_set] at h
    split_ifs at h ⊢ with heq
    · subst heq
      exact ⟨before, hget, (Option.some.inj h).symm⟩
    · exact ⟨result, h, rfl⟩

/-- **What a merge leaves alone**: the expectation, and the stages it has no observation for. -/
lemma get?_mergeVerification
    (h : (mergeVerification results observed).get? identifier = some result) :
    ∃ before, results.get? identifier = some before ∧
      result.expectationId = before.expectationId ∧
      ∀ stage, (∀ item ∈ observed, item.expectationId = identifier → item.stage ≠ stage) →
        result.stageStatus stage = before.stageStatus stage := by
  induction observed generalizing results with
  | nil => exact ⟨result, h, rfl, fun _ _ => rfl⟩
  | cons item observed ih =>
    obtain ⟨between, hbetween, hid, hrest⟩ := ih h
    obtain ⟨before, hbefore, rfl⟩ := get?_mergeItem hbetween
    refine ⟨before, hbefore, ?_, fun stage hother => ?_⟩
    · rw [hid]
      split_ifs
      · exact before.expectationId_merge item
      · rfl
    · rw [hrest stage fun other hmem => hother other (List.mem_cons_of_mem _ hmem)]
      split_ifs with heq
      · rw [SecurityVerificationResult.stageStatus_merge,
          if_neg (hother item List.mem_cons_self heq)]
      · rfl

/-- **What a merge sets**: the only observation about an expectation sets the status of its
stage. -/
lemma stageStatus_mergeVerification
    (hnodup : (observed.map RuntimeSecurityVerification.expectationId).Nodup)
    (hitem : item ∈ observed)
    (h : (mergeVerification results observed).get? item.expectationId = some result) :
    result.stageStatus item.stage = item.status := by
  induction observed generalizing results with
  | nil => exact absurd hitem List.not_mem_nil
  | cons first observed ih =>
    rw [List.map_cons, List.nodup_cons] at hnodup
    rcases List.mem_cons.mp hitem with rfl | hitem
    · have hmerged : (mergeVerification (mergeItem results item) observed).get?
          item.expectationId = some result := h
      obtain ⟨between, hbetween, -, hrest⟩ := get?_mergeVerification hmerged
      obtain ⟨before, -, rfl⟩ := get?_mergeItem hbetween
      rw [hrest item.stage fun other hother heq =>
        absurd (List.mem_map.mpr ⟨other, hother, heq⟩) hnodup.1, if_pos rfl,
        SecurityVerificationResult.stageStatus_merge, if_pos rfl]
    · exact ih hnodup.2 hitem h

end Merge

end SecurityApplicator
end PacketTracer
