import PacketTracer.Application.LiveSession

/-!
# The stages of a live run

`Plainly` says what the bookkeeping of a run leaves alone.  Until the run is completed, nothing was
removed, archived or closed, the baseline was there before the composition, and the run owns every
device that a deployment returned as attempted.
-/

namespace PacketTracer

namespace LiveRun

open Scripts Canonical Script

/-! ## Facts and plain events -/

/-- The facts that the bookkeeping of a stage leaves alone. -/
structure RunFacts where
  qualification : CPScaleQualificationState
  terminal : CPScaleTerminalState
  stages : List CPScaleStageProgress
  active : Option (Option CPScaleLiveStageResult)
  owned : List String
  observations : Bool

/-- The facts of a state. -/
def RunState.facts (state : RunState) : RunFacts where
  qualification := state.qualification
  terminal := state.terminal
  stages := state.progress.stages
  active := state.progress.activeStage.map CPScaleStageProgress.result
  owned := state.progress.physical.owned
  observations := state.observations

/-- The events of the bookkeeping: calls whose answers are not kept, and publications of the
terminal facts as they are. -/
def Plain (facts : RunFacts) : RunEvent → Prop
  | .called _ _ => True
  | .judged _ => True
  | .published terminal _ => terminal = facts.terminal
  | _ => False

lemma facts_eq_iff {state state' : RunState} : state'.facts = state.facts ↔
    state'.qualification = state.qualification ∧ state'.terminal = state.terminal ∧
      state'.progress.stages = state.progress.stages ∧
      state'.progress.activeStage.map CPScaleStageProgress.result =
        state.progress.activeStage.map CPScaleStageProgress.result ∧
      state'.progress.physical.owned = state.progress.physical.owned ∧
      state'.observations = state.observations := by
  simp [RunState.facts]

/-- Prompt computations of the coordinator. -/
abbrev PromptRun {α : Type} (x : Run α) : Prop := Prompt RunEvent.raised Raised.interrupts x

/-- A procedure of the bookkeeping. -/
structure Plainly {α : Type} (x : Run α) : Prop where
  keeps : Keeps (Grows RunState.facts Plain) x
  prompt : PromptRun x

/-! ## How plain procedures are built -/

section Rules

variable {α β : Type} {x : Run α}

lemma Plainly.pure (a : α) : Plainly (pure a : Run α) := ⟨Grows.frame.pure a, Prompt.pure a⟩

lemma Plainly.get : Plainly (get : Run RunState) := ⟨Grows.frame.get, Prompt.get⟩

lemma Plainly.raise {raised : Raised} (h : raised.interrupts = false) :
    Plainly (raise raised : Run α) := ⟨Grows.frame.raise raised, Prompt.raise h⟩

lemma Plainly.bind {f : α → Run β} (hx : Plainly x) (hf : ∀ a, Plainly (f a)) :
    Plainly (x >>= f) :=
  ⟨Grows.frame.bind hx.keeps fun a => (hf a).keeps, hx.prompt.bind fun a => (hf a).prompt⟩

lemma Plainly.ite {p : Prop} [Decidable p] {y : Run α} (hx : Plainly x) (hy : Plainly y) :
    Plainly (if p then x else y) := ⟨hx.keeps.ite hy.keeps, hx.prompt.ite hy.prompt⟩

lemma Plainly.call {answer : Answer α} {event : Except Raised α → RunEvent}
    (hplain : ∀ state outcome, Plain (RunState.facts state) (event outcome))
    (hraised : ∀ outcome, (event outcome).raised = raisedOf outcome) :
    Plainly (call answer event) :=
  ⟨Grows.call hplain, Prompt.call (fun a => hraised (.ok a)) fun e => hraised (.error e)⟩

lemma Plainly.modify {f : RunState → RunState} (h : ∀ state, (f state).facts = state.facts) :
    Plainly (modify f) := ⟨Grows.modify h, Prompt.modify f⟩

end Rules

/-! ## The procedures -/

section Procedures

variable {α : Type} {c : Collaborators}

lemma plainly_ask (port : Port) (answer : Answer α) : Plainly (ask port answer) :=
  .call (fun _ _ => trivial) fun _ => rfl

lemma plainly_demand (error : String) : Plainly (demand error) := .ite (.pure ()) (.raise rfl)

lemma plainly_updateProgress {f : CPScaleProgressState → CPScaleProgressState}
    (hstages : ∀ progress, (f progress).stages = progress.stages)
    (hactive : ∀ progress, (f progress).activeStage.map CPScaleStageProgress.result =
      progress.activeStage.map CPScaleStageProgress.result)
    (howned : ∀ progress, (f progress).physical.owned = progress.physical.owned) :
    Plainly (updateProgress f) := by
  refine .modify fun state => ?_
  rw [facts_eq_iff]
  exact ⟨rfl, rfl, hstages _, hactive _, howned _, rfl⟩

lemma plainly_updateActiveStage {f : CPScaleStageProgress → CPScaleStageProgress}
    (h : ∀ stage, (f stage).result = stage.result) : Plainly (updateActiveStage f) := by
  refine plainly_updateProgress (fun _ => rfl) (fun progress => ?_) fun _ => rfl
  cases progress.activeStage with
  | none => rfl
  | some stage => exact congrArg some (h stage)

lemma keeps_writeProgress : Keeps (Grows RunState.facts Plain) (writeProgress c) :=
  fun _ _ => Grows.of_event rfl

lemma prompt_writeProgress : PromptRun (writeProgress c) :=
  Prompt.get.bind fun _ => Prompt.call (fun _ => rfl) fun _ => rfl

lemma plainly_writeProgress : Plainly (writeProgress c) :=
  ⟨keeps_writeProgress, prompt_writeProgress⟩

lemma plainly_observeWorkspace : Plainly (observeWorkspace c) :=
  .ite (plainly_ask ..) (.raise rfl)

lemma plainly_probeRequired (models : List String) : Plainly (probeRequired c models) := by
  induction models with
  | nil => exact .pure ()
  | cons model models ih =>
    exact (plainly_ask ..).bind fun probe => (plainly_demand probe.error).bind fun _ => ih

lemma plainly_checkpoint : Plainly (checkpoint c) :=
  (plainly_ask ..).bind fun _ => (plainly_ask ..).bind fun decision =>
    (plainly_ask ..).bind fun error => (plainly_ask ..).bind fun _ =>
      (plainly_demand error).bind fun _ => .pure decision

lemma plainly_checkTransition : Plainly (checkTransition c) := by
  refine (plainly_ask ..).bind fun _ => (plainly_updateActiveStage ?_).bind fun _ => ?_
  · exact fun _ => rfl
  refine plainly_writeProgress.bind fun _ => (plainly_ask ..).bind fun error => ?_
  exact plainly_demand error

lemma plainly_stageDelta (stage : CPScaleCanonicalStage) : Plainly (stageDelta c stage) :=
  .ite (.pure none) <|
    (plainly_ask ..).bind fun _ => (plainly_ask ..).bind fun delta => .pure (some delta)

lemma plainly_deltaTopology (projection : CPScaleCanonicalStageProjection)
    (continuity : CPScaleStageContinuity) (terminalTransition : Bool) :
    Plainly (deltaTopology c projection continuity terminalTransition) := by
  unfold deltaTopology
  rcases continuity.previousProjection with _ | previous
  · exact .ite (.raise rfl) (.pure _)
  refine (plainly_ask ..).bind fun acquired => (plainly_demand _).bind fun _ => ?_
  refine (plainly_stageDelta _).bind fun delta => ?_
  exact (Plainly.ite plainly_checkTransition (.pure ())).bind fun _ => .pure delta

lemma plainly_stageDeployment (projection : CPScaleCanonicalStageProjection)
    (delta : PhysicalDeploymentResult) (first : Bool) :
    Plainly (stageDeployment c projection delta first) := by
  refine .ite (.bind (plainly_updateProgress ?_ ?_ ?_) fun _ => .pure delta) (plainly_ask ..)
  · exact fun _ => rfl
  · exact fun _ => rfl
  · exact fun _ => rfl

lemma plainly_stepBaseline (decision : CPScaleStepDecision) (continuity : CPScaleStepContinuity) :
    Plainly (stepBaseline c decision continuity) := by
  refine .ite ((plainly_ask ..).bind fun _ => ?_) (.pure _)
  refine (plainly_updateActiveStage ?_).bind fun _ => .pure _
  exact fun _ => rfl

lemma plainly_stepCheckpoint : Plainly (stepCheckpoint c) :=
  plainly_checkpoint.bind fun _ => plainly_demand _

lemma plainly_publishDeployment (deployment : PhysicalDeploymentResult) :
    Plainly (publishDeployment c deployment) := by
  refine (plainly_updateActiveStage ?_).bind fun _ => plainly_writeProgress.bind fun _ => ?_
  · exact fun _ => rfl
  · exact plainly_ask ..

lemma plainly_startSession : Plainly (startSession c) := by
  refine (plainly_ask ..).bind fun started => Plainly.ite (plainly_ask ..) ?_
  exact (plainly_ask ..).bind fun status => .raise rfl

end Procedures

/-! ## The invariant of a session -/

/-- The events of a session before its completion: nothing is closed that is published. -/
def SessionEvent : RunEvent → Prop
  | .called _ _ => True
  | .judged _ => True
  | .composed _ => True
  | .deployed _ _ => True
  | .executed _ _ => True
  | .published terminal _ => terminal.closure = ""
  | _ => False

/-- The terminal facts of a run that is neither closed nor cleaned. -/
structure Unclosed (terminal : CPScaleTerminalState) : Prop where
  closure : terminal.closure = ""
  attempted : terminal.cleanupAttempted = false
  incomplete : terminal.terminalCleanupComplete = false
  retained : terminal.retained = false

/-- What a run has before it composes anything. -/
structure Ready (c : Collaborators) (state : RunState) : Prop where
  baseline : state.qualification.baseline.isSome
  observations : state.observations = true
  physical : c.physical = true

lemma Ready.of_eq {c : Collaborators} {state state' : RunState} (h : Ready c state)
    (hqualification : state'.qualification = state.qualification)
    (hobservations : state'.observations = state.observations) : Ready c state' :=
  ⟨hqualification ▸ h.baseline, hobservations ▸ h.observations, h.physical⟩

/-- The run owns every device that a deployment returned as attempted. -/
def Owns (state : RunState) (history : List RunEvent) : Prop :=
  ∀ created deployment, .deployed created (.ok deployment) ∈ history →
    ∀ id ∈ attemptedDeviceIds deployment, id ∈ state.progress.physical.owned

/-- A composition that was answered is in the snapshot. -/
def KeepsComposition (state : RunState) (history : List RunEvent) : Prop :=
  ∀ composition, .composed (.ok composition) ∈ history →
    state.qualification.composition.isSome

/-- What a session keeps true until it is completed. -/
structure SessionInvariant (c : Collaborators) (state : RunState) (history : List RunEvent) :
    Prop where
  events : ∀ event ∈ history, SessionEvent event
  unclosed : Unclosed state.terminal
  ready : state.qualification.composition.isSome → Ready c state
  composed : KeepsComposition state history
  owns : Owns state history

/-- A procedure of a session that has its baseline and its observations. -/
structure InSession (c : Collaborators) {α : Type} (x : Run α) : Prop where
  preserves : Preserves (fun state history => SessionInvariant c state history ∧ Ready c state) x
  prompt : PromptRun x

/-! ## Plain procedures -/

section Steps

variable {c : Collaborators} {state state' : RunState} {history : List RunEvent}

/-- The invariant after one more event. -/
lemma SessionInvariant.snoc {event : RunEvent} (hI : SessionInvariant c state history)
    (hevent : SessionEvent event)
    (hcomposed : ∀ composition, event = .composed (.ok composition) →
      state.qualification.composition.isSome)
    (hdeployed : ∀ created deployment, event = .deployed created (.ok deployment) →
      ∀ id ∈ attemptedDeviceIds deployment, id ∈ state.progress.physical.owned) :
    SessionInvariant c state (history ++ [event]) := by
  refine ⟨?_, hI.unclosed, hI.ready, ?_, ?_⟩
  · intro event' hevent'
    rcases List.mem_concat_iff.mp hevent' with hevent' | hevent'
    · exact hI.events event' hevent'
    · rwa [hevent']
  · intro composition hmem
    rcases List.mem_concat_iff.mp hmem with hmem | hmem
    · exact hI.composed composition hmem
    · exact hcomposed composition hmem.symm
  · intro created deployment hmem
    rcases List.mem_concat_iff.mp hmem with hmem | hmem
    · exact hI.owns created deployment hmem
    · exact hdeployed created deployment hmem.symm

lemma SessionInvariant.update (hI : SessionInvariant c state history)
    (hunclosed : Unclosed state'.terminal)
    (hready : state'.qualification.composition.isSome → Ready c state')
    (hcomposition : state.qualification.composition.isSome →
      state'.qualification.composition.isSome)
    (howned : ∀ id ∈ state.progress.physical.owned, id ∈ state'.progress.physical.owned) :
    SessionInvariant c state' history := by
  refine ⟨hI.events, hunclosed, hready, ?_, ?_⟩
  · intro composition hmem
    exact hcomposition (hI.composed composition hmem)
  · intro created deployment hmem id hid
    exact howned id (hI.owns created deployment hmem id hid)

lemma SessionInvariant.update_of_eq (hI : SessionInvariant c state history)
    (hunclosed : Unclosed state'.terminal)
    (hqualification : state'.qualification = state.qualification)
    (hobservations : state'.observations = state.observations)
    (howned : state'.progress.physical.owned = state.progress.physical.owned) :
    SessionInvariant c state' history := by
  refine hI.update hunclosed ?_ (by rw [hqualification]; exact id) (by rw [howned]; simp)
  intro hcomposition
  rw [hqualification] at hcomposition
  exact (hI.ready hcomposition).of_eq hqualification hobservations

end Steps

section Plain

variable {c : Collaborators} {α β : Type} {x : Run α}

lemma SessionEvent.of_plain {facts : RunFacts} {event : RunEvent} (h : Plain facts event)
    (hclosure : facts.terminal.closure = "") : SessionEvent event := by
  cases event with
  | published terminal answer => exact (congrArg CPScaleTerminalState.closure h).trans hclosure
  | called _ _ | judged _ => trivial
  | _ => exact h.elim

variable {a b : RunState × List RunEvent}

/-- The invariant of a session survives the bookkeeping. -/
lemma SessionInvariant.of_plain (h : Grows RunState.facts Plain a b)
    (hI : SessionInvariant c a.1 a.2) : SessionInvariant c b.1 b.2 := by
  obtain ⟨hqualification, hterminal, -, -, howned, hobservations⟩ := facts_eq_iff.mp h.fixed
  obtain ⟨added, hadded, hplain⟩ := h.grown
  refine ⟨?_, hterminal ▸ hI.unclosed, ?_, ?_, ?_⟩
  · intro event hevent
    rw [hadded] at hevent
    rcases List.mem_append.mp hevent with hevent | hevent
    · exact hI.events event hevent
    · exact SessionEvent.of_plain (hplain event hevent) hI.unclosed.closure
  · intro hcomposition
    rw [hqualification] at hcomposition
    exact (hI.ready hcomposition).of_eq hqualification hobservations
  · intro composition hcomposition
    rw [hadded] at hcomposition
    rw [hqualification]
    rcases List.mem_append.mp hcomposition with hcomposition | hcomposition
    · exact hI.composed composition hcomposition
    · exact (hplain _ hcomposition).elim
  · intro created deployment hdeployed
    rw [hadded] at hdeployed
    rw [howned]
    rcases List.mem_append.mp hdeployed with hdeployed | hdeployed
    · exact hI.owns created deployment hdeployed
    · exact (hplain _ hdeployed).elim

lemma Ready.of_plain (h : Grows RunState.facts Plain a b) (hready : Ready c a.1) : Ready c b.1 := by
  obtain ⟨hqualification, -, -, -, -, hobservations⟩ := facts_eq_iff.mp h.fixed
  exact hready.of_eq hqualification hobservations

lemma Plainly.preserves (h : Plainly x) : Preserves (SessionInvariant c) x :=
  h.keeps.preserves fun _ _ hgrows hI => SessionInvariant.of_plain hgrows hI

lemma Plainly.inSession (h : Plainly x) : InSession c x :=
  ⟨h.keeps.preserves fun _ _ hgrows hI => ⟨.of_plain hgrows hI.1, .of_plain hgrows hI.2⟩,
    h.prompt⟩

lemma InSession.bind {f : α → Run β} (hx : InSession c x) (hf : ∀ a, InSession c (f a)) :
    InSession c (x >>= f) :=
  ⟨hx.preserves.bind fun a => (hf a).preserves, hx.prompt.bind fun a => (hf a).prompt⟩

lemma InSession.ite {p : Prop} [Decidable p] {y : Run α} (hx : InSession c x)
    (hy : InSession c y) : InSession c (if p then x else y) :=
  ⟨hx.preserves.ite hy.preserves, hx.prompt.ite hy.prompt⟩

end Plain

/-! ## The procedures that add to the facts -/

section Procedures

variable {c : Collaborators}

/-- A composition is a fact as soon as it is answered. -/
lemma inSession_compose : InSession c (compose c) := by
  refine ⟨Keeps.of_ensures fun state history => ?_, ?_⟩
  · unfold compose
    rw [ensures_bind]
    refine ensures_call (fun composition _ => ?_) fun raised _ => ?_
    · simp only [ensures_bind, updateQualification, ensures_modify, ensures_pure]
      rintro ⟨hI, hready⟩
      have hready' : Ready c { state with
          qualification := { state.qualification with composition := some composition } } :=
        ⟨hready.baseline, hready.observations, hready.physical⟩
      have hupdate : SessionInvariant c { state with
          qualification := { state.qualification with composition := some composition } }
          history :=
        hI.update hI.unclosed (fun _ => hready') (fun _ => rfl) fun _ hid => hid
      exact ⟨hupdate.snoc trivial (fun _ _ => rfl) (by simp), hready'⟩
    · rintro ⟨hI, hready⟩
      exact ⟨hI.snoc trivial (by simp) (by simp), hready⟩
  · exact (Prompt.call (fun _ => rfl) fun _ => rfl).bind fun composition =>
      (Prompt.modify _).bind fun _ => Prompt.pure composition

lemma prompt_deploy : PromptRun (deploy c) := by
  intro state history
  refine ⟨[.deployed (c.deploy history).1 (c.deploy history).2], rfl, ?_⟩
  have hcall : PromptRun (Script.call (fun history => (c.deploy history).2)
      (RunEvent.deployed (c.deploy history).1)) :=
    Prompt.call (fun _ => rfl) fun _ => rfl
  exact (hcall state history).elim fun added h => by
      have hadded : added = [_] := (List.append_cancel_left h.1).symm
      rw [hadded] at h
      exact h.2

/-- The devices of a deployment are owned as soon as it returns. -/
lemma inSession_deployOwned : InSession c (deployOwned c) := by
  refine ⟨Keeps.of_ensures fun state history => ?_, ?_⟩
  · simp only [deployOwned, deploy, updateProgress, ensures_bind, ensures_exchange]
    refine ensures_ofExcept (fun delta hdelta => ?_) fun raised hraised => ?_
    · simp only [ensures_modify, ensures_pure]
      rintro ⟨hI, hready⟩
      refine ⟨SessionInvariant.snoc (hI.update hI.unclosed (fun _ => hready.of_eq rfl rfl) id ?_)
        trivial (by simp) ?_, hready.of_eq rfl rfl⟩
      · exact fun id hid => List.mem_append_left _ hid
      · intro created deployment hevent id hid
        have hdeployment : (c.deploy history).1 = created ∧ delta = deployment := by
          simpa [hdelta] using hevent
        rw [← hdeployment.2] at hid
        exact List.mem_append_right _ hid
    · rintro ⟨hI, hready⟩
      refine ⟨hI.snoc trivial (by simp) ?_, hready⟩
      intro created deployment hevent
      simp only [RunEvent.deployed.injEq, hraised, reduceCtorEq, and_false] at hevent
  · exact prompt_deploy.bind fun delta => (Prompt.modify _).bind fun _ => Prompt.pure delta

lemma inSession_updateTerminal {f : CPScaleTerminalState → CPScaleTerminalState}
    (h : ∀ terminal, Unclosed terminal → Unclosed (f terminal)) :
    InSession c (updateTerminal f) := by
  refine ⟨keeps_modify fun state history => ?_, Prompt.modify _⟩
  rintro ⟨hI, hready⟩
  exact ⟨hI.update_of_eq (h _ hI.unclosed) rfl rfl rfl, hready.of_eq rfl rfl⟩

lemma inSession_updateProgress {f : CPScaleProgressState → CPScaleProgressState}
    (h : ∀ progress, (f progress).physical.owned = progress.physical.owned) :
    InSession c (updateProgress f) := by
  refine ⟨keeps_modify fun state history => ?_, Prompt.modify _⟩
  rintro ⟨hI, hready⟩
  exact ⟨hI.update_of_eq hI.unclosed rfl rfl (h _), hready.of_eq rfl rfl⟩

lemma inSession_execute (stage : CPScaleCanonicalStage) :
    InSession c (call c.execute (.executed stage)) := by
  refine ⟨keeps_call fun state history outcome => ?_, Prompt.call (fun _ => rfl) fun _ => rfl⟩
  rintro ⟨hI, hready⟩
  exact ⟨hI.snoc trivial (by simp) (by simp), hready⟩

/-! ## The session up to its completion -/

lemma inSession_qualifyBackend : InSession c (qualifyBackend c) := by
  refine inSession_compose.bind fun _ => ?_
  refine (plainly_ask ..).inSession.bind fun _ => (plainly_ask ..).inSession.bind fun required => ?_
  refine (plainly_ask ..).inSession.bind fun _ => ?_
  refine (plainly_probeRequired required).inSession.bind fun _ => ?_
  refine plainly_observeWorkspace.inSession.bind fun _ => ?_
  refine plainly_observeWorkspace.inSession.bind fun _ => ?_
  refine (plainly_ask ..).inSession.bind fun error => (plainly_demand error).inSession.bind
    fun _ => ?_
  refine inSession_compose.bind fun composition => ?_
  refine (plainly_ask ..).inSession.bind fun _ => (plainly_ask ..).inSession.bind fun _ => ?_
  exact (plainly_demand _).inSession.bind fun _ => (Plainly.pure composition).inSession

lemma inSession_deployStage (projection : CPScaleCanonicalStageProjection) (first : Bool) :
    InSession c (deployStage c projection first) := by
  refine inSession_deployOwned.bind fun delta => ?_
  refine plainly_writeProgress.inSession.bind fun _ => (plainly_ask ..).inSession.bind fun _ => ?_
  refine (plainly_stageDeployment projection delta first).inSession.bind fun deployment => ?_
  exact (plainly_publishDeployment deployment).inSession

lemma inSession_prepareStage (projection : CPScaleCanonicalStageProjection)
    (continuity : CPScaleStageContinuity) (terminalTransition : Bool) :
    InSession c (prepareStage c projection continuity terminalTransition) := by
  refine (inSession_updateProgress ?_).bind fun _ => ?_
  · exact fun _ => rfl
  refine (plainly_ask ..).inSession.bind fun _ => ?_
  refine (plainly_deltaTopology projection continuity _).inSession.bind fun delta => ?_
  cases delta with
  | none =>
    exact (plainly_ask ..).inSession.bind fun deployment =>
      (plainly_publishDeployment deployment).inSession
  | some delta => exact inSession_deployStage projection _

lemma inSession_settleStep (decision : CPScaleStepDecision) (continuity : CPScaleStepContinuity)
    (acquired : CPScaleLiveStageResult) :
    InSession c (settleStep c decision continuity acquired) := by
  refine (plainly_stepBaseline decision continuity).inSession.bind fun baseline => ?_
  refine InSession.bind (inSession_updateProgress fun _ => rfl) fun _ => ?_
  refine (plainly_demand _).inSession.bind fun _ => ?_
  refine (Plainly.ite (plainly_ask ..) (.pure ())).inSession.bind fun _ => ?_
  exact (Plainly.ite plainly_stepCheckpoint (.pure ())).inSession.bind fun _ =>
    (Plainly.pure _).inSession

lemma Unclosed.of_eq {terminal terminal' : CPScaleTerminalState} (h : Unclosed terminal)
    (hclosure : terminal'.closure = terminal.closure)
    (hattempted : terminal'.cleanupAttempted = terminal.cleanupAttempted)
    (hcomplete : terminal'.terminalCleanupComplete = terminal.terminalCleanupComplete)
    (hretained : terminal'.retained = terminal.retained) : Unclosed terminal' :=
  ⟨hclosure.trans h.closure, hattempted.trans h.attempted, hcomplete.trans h.incomplete,
    hretained.trans h.retained⟩

lemma inSession_step (target : CPScaleCanonicalTargetContract) (stage : CPScaleCanonicalStage)
    (continuity : CPScaleStepContinuity) : InSession c (step c target stage continuity) := by
  refine (plainly_ask ..).inSession.bind fun projection => ?_
  refine (inSession_prepareStage projection _ _).bind fun _ => ?_
  refine (inSession_execute stage).bind fun acquired => ?_
  refine InSession.bind (inSession_updateProgress fun _ => rfl) fun _ => ?_
  refine (inSession_updateTerminal ?_).bind fun _ => ?_
  · exact fun _ h => h.of_eq rfl rfl rfl rfl
  exact InSession.ite (Plainly.pure _).inSession (inSession_settleStep ..)

lemma inSession_executeStageSequence (target : CPScaleCanonicalTargetContract)
    (stages : List CPScaleCanonicalStage) (continuity : CPScaleStepContinuity)
    (secondaries : List String) :
    InSession c (executeStageSequence c target stages continuity secondaries) := by
  induction stages generalizing continuity secondaries with
  | nil => exact (Plainly.pure _).inSession
  | cons stage stages ih =>
    refine (inSession_step target stage continuity).bind fun acquired => ?_
    exact InSession.ite (ih _ _) (Plainly.pure _).inSession

lemma inSession_runStages (target : CPScaleCanonicalTargetContract) :
    InSession c (runStages c target) := by
  refine (inSession_executeStageSequence target _ _ _).bind fun sequence => ?_
  refine (inSession_updateTerminal ?_).bind fun _ => ?_
  · exact fun _ h => h.of_eq rfl rfl rfl rfl
  cases sequence.failure with
  | none => exact (Plainly.pure ()).inSession
  | some failure => exact (Plainly.raise rfl).inSession

lemma inSession_prepare : InSession c (do
    let _ ← qualifyBackend c
    ask .statisticsProjection c.statisticsProjection
    ask .dhcpTarget c.dhcpTarget
    ask .deployerFactory c.deployerFactory
    ask .acquireRuntimes c.acquireRuntimes
    ask .stageFactory c.stageFactory) := by
  refine inSession_qualifyBackend.bind fun _ => (plainly_ask ..).inSession.bind fun _ => ?_
  refine (plainly_ask ..).inSession.bind fun _ => (plainly_ask ..).inSession.bind fun _ => ?_
  exact (plainly_ask ..).inSession.bind fun _ => (plainly_ask ..).inSession

end Procedures

end LiveRun
end PacketTracer
