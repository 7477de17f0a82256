import PacketTracer.Application.LiveStages

/-!
# The cleanup and the end of a live run

What a run keeps true from its completion to its last event, whatever the collaborators answer or
raise: the workspace is restored once and only after the attempt is a fact, and a restoration whose
removals all return passes every owned device of the composition to `remove_device`.
-/

namespace PacketTracer

namespace LiveRun

open Plans Scripts Canonical Script

/-! ## The invariant of a run -/

/-- `cleanup.restore` begins. -/
def RunEvent.isRestoring : RunEvent → Bool
  | .restoring _ => true
  | _ => false

/-- `session.close`. -/
def RunEvent.isClosed : RunEvent → Bool
  | .closed _ => true
  | _ => false

/-- `physical.remove_device`. -/
def RunEvent.isRemoval : RunEvent → Bool
  | .removed _ _ => true
  | _ => false

/-- No removal raised. -/
def RemovalsReturn (history : List RunEvent) : Prop :=
  ∀ device raised, .removed device (.error raised) ∉ history

/-- The devices of the composition that the run ends with. -/
def RunState.devices (state : RunState) : List Plans.DevicePlan :=
  ((state.qualification.composition.bind EnterpriseReferenceComposition.topology).map
    Plans.TopologyPlan.devices).getD []

/-- A restoration whose removals all returned removed every owned device of the composition. -/
def Removes (state : RunState) (history : List RunEvent) : Prop :=
  history.any RunEvent.isRestoring → RemovalsReturn history →
    ∀ device ∈ state.devices, device.id ∈ state.progress.physical.owned →
      ∃ mutation, .removed device (.ok mutation) ∈ history

/-- What a run keeps true until its session is closed. -/
structure RunInvariant (c : Collaborators) (state : RunState) (history : List RunEvent) : Prop where
  restored : history.countP RunEvent.isRestoring =
    if state.terminal.cleanupAttempted then 1 else 0
  complete : state.terminal.terminalCleanupComplete → state.terminal.cleanupAttempted
  retained : state.terminal.retained = false
  ready : state.qualification.composition.isSome → Ready c state
  composed : KeepsComposition state history
  owns : Owns state history
  removes : Removes state history
  unclosed : history.any RunEvent.isClosed = false

/-- A run whose cleanup was attempted. -/
structure Attempted (c : Collaborators) (state : RunState) (history : List RunEvent) : Prop where
  invariant : RunInvariant c state history
  attempted : state.terminal.cleanupAttempted = true

variable {c : Collaborators} {state : RunState} {history : List RunEvent}
  {a b : RunState × List RunEvent}

/-- A session that is not completed has attempted no cleanup. -/
lemma SessionInvariant.runInvariant (h : SessionInvariant c state history) :
    RunInvariant c state history := by
  have hnone : ∀ event ∈ history, event.isRestoring = false ∧ event.isClosed = false := by
    intro event hevent
    have hsession := h.events event hevent
    cases event with
    | restoring _ | closed _ => exact hsession.elim
    | _ => exact ⟨rfl, rfl⟩
  have hrestoring : history.any RunEvent.isRestoring = false := by
    rw [List.any_eq_false]
    exact fun event hevent => by simp [hnone event hevent]
  refine ⟨?_, ?_, h.unclosed.retained, h.ready, h.composed, h.owns, ?_, ?_⟩
  · rw [h.unclosed.attempted, List.countP_eq_zero.mpr]
    · rfl
    · exact fun event hevent => by simp [hnone event hevent]
  · intro hcomplete
    simp [h.unclosed.incomplete] at hcomplete
  · intro hany
    simp [hrestoring] at hany
  · rw [List.any_eq_false]
    exact fun event hevent => by simp [hnone event hevent]

/-! ## Procedures that keep the books -/

/-- The flags that guard the cleanup: it was attempted, it is complete, the run is retained. -/
def CPScaleTerminalState.flags (terminal : CPScaleTerminalState) : Bool × Bool × Bool :=
  (terminal.cleanupAttempted, terminal.terminalCleanupComplete, terminal.retained)

/-- The facts that only a restoration or the end of a completion changes. -/
structure ClosingFacts where
  qualification : CPScaleQualificationState
  owned : List String
  observations : Bool
  flags : Bool × Bool × Bool

/-- The closing facts of a state. -/
def RunState.closingFacts (state : RunState) : ClosingFacts where
  qualification := state.qualification
  owned := state.progress.physical.owned
  observations := state.observations
  flags := state.terminal.flags

lemma closingFacts_eq_iff {state' : RunState} :
    state'.closingFacts = state.closingFacts ↔
      state'.qualification = state.qualification ∧
      state'.progress.physical.owned = state.progress.physical.owned ∧
      state'.observations = state.observations ∧
      state'.terminal.flags = state.terminal.flags := by
  simp [RunState.closingFacts]

/-- The events of the books. -/
def Clerical : RunEvent → Prop
  | .called _ _ => True
  | .judged _ => True
  | .published _ _ => True
  | .archived _ _ => True
  | .reviewed _ _ => True
  | .realtimeRead _ => True
  | .finalizing => True
  | _ => False

/-- Between two points of a run the closing facts are fixed, and nothing is mutated. -/
abbrev Kept (a b : RunState × List RunEvent) : Prop :=
  Grows RunState.closingFacts (fun _ => Clerical) a b

/-- The facts that the books leave alone: the closing facts and the outcome. -/
def RunState.bookFacts (state : RunState) : ClosingFacts × Option CPScaleRunOutcome :=
  (state.closingFacts, state.terminal.outcome)

/-- The books are kept: nothing is mutated, and no outcome is decided. -/
abbrev Books {α : Type} (x : Run α) : Prop :=
  Keeps (Grows RunState.bookFacts fun _ => Clerical) x

lemma Kept.of_books (h : Grows RunState.bookFacts (fun _ => Clerical) a b) : Kept a b :=
  h.mono (fun _ _ heq => congrArg Prod.fst heq) fun _ _ hclerical => hclerical

lemma Books.kept {α : Type} {x : Run α} (h : Books x) : Keeps Kept x :=
  h.mono fun _ _ hgrows => Kept.of_books hgrows

lemma Clerical.quiet {event : RunEvent} (h : Clerical event) :
    event.isRestoring = false ∧ event.isClosed = false ∧
      (∀ device answer, event ≠ .removed device answer) ∧
      (∀ created answer, event ≠ .deployed created answer) ∧
      ∀ answer, event ≠ .composed answer := by
  cases event with
  | restoring _ | closed _ | removed _ _ | deployed _ _ | composed _ => exact h.elim
  | _ => simp [RunEvent.isRestoring, RunEvent.isClosed]

lemma removed_mem_append_iff {added : List RunEvent} (h : ∀ event ∈ added, Clerical event)
    {device : Plans.DevicePlan} {answer : Except Raised PhysicalMutationResult} :
    .removed device answer ∈ history ++ added ↔ .removed device answer ∈ history := by
  rw [List.mem_append]
  refine ⟨fun hmem => hmem.resolve_right fun hmem => ?_, Or.inl⟩
  exact (h _ hmem).quiet.2.2.1 device answer rfl

/-- The invariant of a run survives the keeping of the books. -/
lemma RunInvariant.of_kept (h : Kept a b) (hI : RunInvariant c a.1 a.2) :
    RunInvariant c b.1 b.2 := by
  obtain ⟨hqualification, howned, hobservations, hflags⟩ := closingFacts_eq_iff.mp h.fixed
  simp only [CPScaleTerminalState.flags, Prod.mk.injEq] at hflags
  obtain ⟨hattempted, hcomplete, hretained⟩ := hflags
  obtain ⟨added, hadded, hclerical⟩ := h.grown
  have hcount : added.countP RunEvent.isRestoring = 0 :=
    List.countP_eq_zero.mpr fun event hevent => by simp [(hclerical event hevent).quiet.1]
  have hrestoring : added.any RunEvent.isRestoring = false := by
    rw [List.any_eq_false]
    exact fun event hevent => by simp [(hclerical event hevent).quiet.1]
  refine ⟨?_, ?_, hretained.trans hI.retained, ?_, ?_, ?_, ?_, ?_⟩
  · rw [hadded, List.countP_append, hcount, hattempted, add_zero]
    exact hI.restored
  · rw [hcomplete, hattempted]
    exact hI.complete
  · intro hcomposition
    rw [hqualification] at hcomposition
    exact (hI.ready hcomposition).of_eq hqualification hobservations
  · intro composition hmem
    rw [hadded, List.mem_append] at hmem
    rw [hqualification]
    refine hI.composed composition (hmem.resolve_right fun hmem => ?_)
    exact (hclerical _ hmem).quiet.2.2.2.2 _ rfl
  · intro created deployment hmem
    rw [hadded, List.mem_append] at hmem
    rw [howned]
    refine hI.owns created deployment (hmem.resolve_right fun hmem => ?_)
    exact (hclerical _ hmem).quiet.2.2.2.1 _ _ rfl
  · intro hany hreturn device hdevice hid
    rw [hadded, List.any_append, hrestoring, Bool.or_false] at hany
    have hdevices : b.1.devices = a.1.devices := by simp [RunState.devices, hqualification]
    have hreturn' : RemovalsReturn a.2 := fun device raised hmem =>
      hreturn device raised (by rw [hadded, removed_mem_append_iff hclerical]; exact hmem)
    obtain ⟨mutation, hmutation⟩ :=
      hI.removes hany hreturn' device (hdevices ▸ hdevice) (howned ▸ hid)
    exact ⟨mutation, by rw [hadded, removed_mem_append_iff hclerical]; exact hmutation⟩
  · rw [hadded, List.any_append, hI.unclosed, Bool.false_or, List.any_eq_false]
    exact fun event hevent => by simp [(hclerical event hevent).quiet.2.1]

/-! ## Restorations -/

/-- The events of a restoration after its first. -/
def Mutating : RunEvent → Prop
  | .called _ _ => True
  | .removed _ _ => True
  | _ => False

/-- What a restoration adds: every owned device was removed, unless a removal raised. -/
structure Removed (c : Collaborators) (owned : List String) (devices : List Plans.DevicePlan)
    (added : List RunEvent) : Prop where
  events : ∀ event ∈ added, Mutating event
  removed : c.physical = true → RemovalsReturn added → ∀ device ∈ devices, device.id ∈ owned →
    ∃ mutation, .removed device (.ok mutation) ∈ added

/-- The state is as it was, and the history grew by the events of a restoration. -/
def Removal (c : Collaborators) (owned : List String) (devices : List Plans.DevicePlan)
    (a b : RunState × List RunEvent) : Prop :=
  b.1 = a.1 ∧ ∃ added, b.2 = a.2 ++ added ∧ Removed c owned devices added

section Restorations

variable {c : Collaborators} {owned : List String}

lemma Removal.refl (at' : RunState × List RunEvent) : Removal c owned [] at' at' := by
  refine ⟨rfl, [], (List.append_nil _).symm, ?_, ?_⟩
  · intro event hevent
    simp at hevent
  · intro _ _ device hdevice
    simp at hdevice

variable {devices : List Plans.DevicePlan} {state : RunState} {history : List RunEvent}
  {b : RunState × List RunEvent}

lemma Removal.of_raised (device : Plans.DevicePlan) (raised : Raised) :
    Removal c owned devices (state, history)
      (state, history ++ [.removed device (.error raised)]) := by
  refine ⟨rfl, [.removed device (.error raised)], rfl, ?_, ?_⟩
  · intro event hevent
    rw [List.mem_singleton.mp hevent]
    trivial
  · intro _ hreturn
    exact absurd (List.mem_singleton.mpr rfl) (hreturn device raised)

variable {device : Plans.DevicePlan}

/-- A removal that returned goes before the others. -/
lemma Removal.cons {mutation : PhysicalMutationResult}
    (h : Removal c owned devices (state, history ++ [.removed device (.ok mutation)]) b) :
    Removal c owned (device :: devices) (state, history) b := by
  obtain ⟨hstate, added, hadded, hevents, hremoved⟩ := h
  refine ⟨hstate, .removed device (.ok mutation) :: added, by simp [hadded], ?_, ?_⟩
  · intro event hevent
    rcases List.mem_cons.mp hevent with rfl | hevent
    · trivial
    · exact hevents event hevent
  · intro hphysical hreturn device' hdevice' hid
    rcases List.mem_cons.mp hdevice' with rfl | hdevice'
    · exact ⟨mutation, List.mem_cons_self⟩
    · have hreturn' : RemovalsReturn added := fun device raised hmem =>
        hreturn device raised (List.mem_cons_of_mem _ hmem)
      obtain ⟨mutation', hmem⟩ := hremoved hphysical hreturn' device' hdevice' hid
      exact ⟨mutation', List.mem_cons_of_mem _ hmem⟩

lemma Removal.skip (hid : device.id ∉ owned) {a : RunState × List RunEvent}
    (h : Removal c owned devices a b) : Removal c owned (device :: devices) a b := by
  obtain ⟨hstate, added, hadded, hevents, hremoved⟩ := h
  refine ⟨hstate, added, hadded, hevents, fun hphysical hreturn device' hdevice' hid' => ?_⟩
  rcases List.mem_cons.mp hdevice' with rfl | hdevice'
  · exact absurd hid' hid
  · exact hremoved hphysical hreturn device' hdevice' hid'

lemma Removal.of_missing (hphysical : c.physical = false) (at' : RunState × List RunEvent) :
    Removal c owned devices at' at' := by
  refine ⟨rfl, [], (List.append_nil _).symm, ?_, ?_⟩
  · intro event hevent
    simp at hevent
  · intro htrue
    simp [hphysical] at htrue

/-- The loop of `restore` removes every owned device, unless a removal raises. -/
lemma removal_removeOwned (devices : List Plans.DevicePlan) (mutations : List PhysicalMutationResult) :
    Keeps (Removal c owned devices) (removeOwned c owned devices mutations) := by
  induction devices generalizing mutations with
  | nil => exact fun state history => Removal.refl (state, history)
  | cons device devices ih =>
    refine Keeps.of_ensures fun state history => ?_
    unfold removeOwned
    refine ensures_ite (fun hid => ?_) fun hid => ?_
    · rw [caught, ensures_bind, ensures_bind, ensures_attempt]
      refine ensures_ite (fun hphysical => ?_) fun hphysical => ?_
      · refine ensures_call (fun mutation _ => ?_) fun raised _ => ?_
        · refine ((ih (mutations ++ [mutation])).ensures state _).mono ?_ ?_
          · exact fun _ _ _ h => h.cons
          · exact fun _ _ _ h => h.cons
        · refine ensures_ite (fun _ => ?_) fun _ => ?_
          · exact Removal.of_raised device raised
          · exact Removal.of_raised device raised
      · exact Removal.of_missing (by simpa using hphysical) (state, history)
    · refine ((ih mutations).ensures state history).mono ?_ ?_
      · exact fun _ _ _ h => h.skip hid
      · exact fun _ _ _ h => h.skip hid

lemma Removal.trans {a d : RunState × List RunEvent} (h : Removal c owned devices a b)
    (h' : Removal c owned [] b d) : Removal c owned devices a d := by
  obtain ⟨hstate, added, hadded, hevents, hremoved⟩ := h
  obtain ⟨hstate', added', hadded', hevents', -⟩ := h'
  refine ⟨hstate'.trans hstate, added ++ added', ?_, ?_, ?_⟩
  · rw [hadded', hadded, List.append_assoc]
  · intro event hevent
    rcases List.mem_append.mp hevent with hevent | hevent
    · exact hevents event hevent
    · exact hevents' event hevent
  · intro hphysical hreturn device hdevice hid
    have hreturn' : RemovalsReturn added := fun device raised hmem =>
      hreturn device raised (List.mem_append_left _ hmem)
    obtain ⟨mutation, hmem⟩ := hremoved hphysical hreturn' device hdevice hid
    exact ⟨mutation, List.mem_append_left _ hmem⟩

lemma removal_observeWorkspace (hdevices : devices = []) :
    Keeps (Removal c owned devices) (observeWorkspace c) := by
  refine Keeps.ite (keeps_call fun state history outcome => ?_) fun state history => ?_
  · subst hdevices
    refine ⟨rfl, [_], rfl, ?_, fun _ _ device hdevice => by simp at hdevice⟩
    intro event hevent
    rw [List.mem_singleton.mp hevent]
    trivial
  · subst hdevices
    exact Removal.refl (state, history)

lemma Removal.frame : Frame (Removal c owned []) := ⟨Removal.refl, Removal.trans⟩

lemma keeps_caught {α : Type} {R : RunState × List RunEvent → RunState × List RunEvent → Prop}
    (hR : Frame R) {x : Run α} (h : Keeps R x) : Keeps R (caught x) := by
  refine hR.bind h.attempt fun outcome => ?_
  cases outcome with
  | ok value => exact hR.pure _
  | error raised => exact (hR.raise raised).ite (hR.pure _)

lemma removal_observeRestoration (baseline : Option PhysicalWorkspaceObservation)
    (mutations : List PhysicalMutationResult) :
    Keeps (Removal c owned []) (observeRestoration c baseline mutations) := by
  have hworkspace : Keeps (Removal c owned []) (observeWorkspace c) :=
    removal_observeWorkspace rfl
  have hobserve := keeps_caught Removal.frame hworkspace
  refine Removal.frame.bind hobserve fun first => ?_
  rcases first with raised | first
  · exact Removal.frame.pure _
  refine Removal.frame.bind hobserve fun second => ?_
  cases second with
  | error raised | ok second => exact Removal.frame.pure _

/-- `restore`: its first event, and then a removal of every owned device. -/
def Restoration (c : Collaborators) (owned : List String) (devices : List Plans.DevicePlan)
    (a b : RunState × List RunEvent) : Prop :=
  b.1 = a.1 ∧ ∃ added, b.2 = a.2 ++ .restoring owned :: added ∧ Removed c owned devices added

lemma Restoration.of_removal {devices' : List Plans.DevicePlan}
    (h : Removal c owned devices (state, history ++ [.restoring owned]) b)
    (hdevices : ∀ device, device ∈ devices' → device ∈ devices) :
    Restoration c owned devices' (state, history) b := by
  obtain ⟨hstate, added, hadded, hevents, hremoved⟩ := h
  refine ⟨hstate, added, by simp [hadded], hevents, fun hphysical hreturn device hdevice => ?_⟩
  exact hremoved hphysical hreturn device (hdevices device hdevice)

lemma restoration_restore (topology : Option Plans.TopologyPlan)
    (baseline : Option PhysicalWorkspaceObservation) :
    Keeps (Restoration c owned ((topology.map Plans.TopologyPlan.devices).getD []))
      (restore c topology owned baseline) := by
  refine Keeps.of_ensures fun state history => ?_
  unfold restore
  rw [ensures_bind, ensures_note]
  rcases topology with _ | topology
  · exact Restoration.of_removal (Removal.refl _) fun _ h => h
  simp only [ensures_bind]
  refine ((removal_removeOwned _ _).ensures state _).mono ?_ ?_
  · rintro ⟨mutations, failure⟩ state' history' h
    cases failure with
    | some raised => exact Restoration.of_removal h (by simp)
    | none =>
      have hobserve : Keeps (Removal c owned []) (observeRestoration c baseline mutations) :=
        removal_observeRestoration baseline mutations
      refine (hobserve.ensures state' history').mono ?_ ?_
      · exact fun _ _ _ h' => Restoration.of_removal (h.trans h') (by simp)
      · exact fun _ _ _ h' => Restoration.of_removal (h.trans h') (by simp)
  · exact fun _ _ _ h => Restoration.of_removal h (by simp)

lemma restoration_restoreRun :
    Keeps (fun a b => Restoration c a.1.progress.physical.owned a.1.devices a b) (restoreRun c) :=
  fun state history => restoration_restore _ _ state history

/-- One restoration, after its attempt became a fact. -/
lemma RunInvariant.restore {state : RunState} {history : List RunEvent}
    {b : RunState × List RunEvent} (hI : RunInvariant c state history)
    (hattempted : state.terminal.cleanupAttempted = false)
    (h : Restoration c state.progress.physical.owned state.devices
      ({ state with terminal := { state.terminal with cleanupAttempted := true } }, history) b) :
    Attempted c b.1 b.2 := by
  obtain ⟨hstate, added, hadded, hevents, hremoved⟩ := h
  have hquiet : ∀ event ∈ added, event.isRestoring = false ∧ event.isClosed = false := by
    intro event hevent
    have hmutating := hevents event hevent
    cases event with
    | restoring _ | closed _ => exact hmutating.elim
    | _ => exact ⟨rfl, rfl⟩
  have hcount : added.countP RunEvent.isRestoring = 0 :=
    List.countP_eq_zero.mpr fun event hevent => by simp [hquiet event hevent]
  have hrestored := hI.restored
  rw [hattempted] at hrestored
  refine ⟨⟨?_, ?_, ?_, ?_, ?_, ?_, ?_, ?_⟩, by rw [hstate]⟩
  · rw [hadded, hstate, List.countP_append, List.countP_cons, hcount, hrestored]
    rfl
  · rw [hstate]
    exact fun _ => rfl
  · rw [hstate]
    exact hI.retained
  · rw [hstate]
    exact fun hcomposition => (hI.ready hcomposition).of_eq rfl rfl
  · intro composition hmem
    rw [hadded] at hmem
    rw [hstate]
    rcases List.mem_append.mp hmem with hmem | hmem
    · exact hI.composed composition hmem
    · rcases List.mem_cons.mp hmem with hmem | hmem
      · cases hmem
      · exact (hevents _ hmem).elim
  · intro created deployment hmem
    rw [hadded] at hmem
    rw [hstate]
    rcases List.mem_append.mp hmem with hmem | hmem
    · exact hI.owns created deployment hmem
    · rcases List.mem_cons.mp hmem with hmem | hmem
      · cases hmem
      · exact (hevents _ hmem).elim
  · intro _ hreturn device hdevice hid
    rw [hstate] at hdevice hid
    rw [hadded] at hreturn ⊢
    have hphysical : c.physical = true := by
      cases hcomposition : state.qualification.composition with
      | none => simp [RunState.devices, hcomposition] at hdevice
      | some composition => exact (hI.ready (by simp [hcomposition])).physical
    have hreturn' : RemovalsReturn added := fun device raised hmem =>
      hreturn device raised (List.mem_append_right _ (List.mem_cons_of_mem _ hmem))
    obtain ⟨mutation, hmem⟩ := hremoved hphysical hreturn' device hdevice hid
    exact ⟨mutation, List.mem_append_right _ (List.mem_cons_of_mem _ hmem)⟩
  · rw [hadded, List.any_append, hI.unclosed, List.any_cons, List.any_eq_false.mpr]
    · rfl
    · exact fun event hevent => by simp [hquiet event hevent]

end Restorations

/-! ## Procedures that record what was learned -/

/-- A procedure that only keeps the books. -/
structure Booked {α : Type} (x : Run α) : Prop where
  books : Books x
  prompt : PromptRun x

section Rules

variable {α β : Type} {x : Run α}

lemma Plainly.booked (h : Plainly x) : Booked x := by
  refine ⟨h.keeps.mono fun a b hgrows => hgrows.mono ?_ ?_, h.prompt⟩
  · intro state state' hfacts
    obtain ⟨hqualification, hterminal, -, -, howned, hobservations⟩ := facts_eq_iff.mp hfacts
    refine Prod.ext (closingFacts_eq_iff.mpr ?_) (congrArg CPScaleTerminalState.outcome hterminal)
    exact ⟨hqualification, howned, hobservations, congrArg CPScaleTerminalState.flags hterminal⟩
  · intro state event hplain
    cases event with
    | called _ _ | judged _ | published _ _ => trivial
    | _ => exact hplain.elim

lemma Booked.bind {f : α → Run β} (hx : Booked x) (hf : ∀ a, Booked (f a)) : Booked (x >>= f) :=
  ⟨Grows.frame.bind hx.books fun a => (hf a).books, hx.prompt.bind fun a => (hf a).prompt⟩

lemma Booked.ite {p : Prop} [Decidable p] {y : Run α} (hx : Booked x) (hy : Booked y) :
    Booked (if p then x else y) := ⟨hx.books.ite hy.books, hx.prompt.ite hy.prompt⟩

lemma Booked.call {answer : Answer α} {event : Except Raised α → RunEvent}
    (hclerical : ∀ outcome, Clerical (event outcome))
    (hraised : ∀ outcome, (event outcome).raised = raisedOf outcome) :
    Booked (call answer event) :=
  ⟨Grows.call fun _ => hclerical, Prompt.call (fun a => hraised (.ok a)) fun e => hraised (.error e)⟩

lemma prompt_caught (h : PromptRun x) : PromptRun (caught x) := by
  refine Prompt.attempt_bind h (fun a => Prompt.pure _) (fun raised hraised => ?_) ?_
  · simp only [passInterruption, hraised, Bool.false_eq_true, if_false]
    exact Prompt.pure _
  · intro raised hraised
    simp only [passInterruption, hraised, if_true]

lemma Booked.caught (h : Booked x) : Booked (caught x) :=
  ⟨keeps_caught Grows.frame h.books, prompt_caught h.prompt⟩

lemma booked_updateTerminal {f : CPScaleTerminalState → CPScaleTerminalState}
    (h : ∀ terminal, ((f terminal).flags, (f terminal).outcome) =
      (terminal.flags, terminal.outcome)) : Booked (updateTerminal f) := by
  refine ⟨Grows.modify fun state => ?_, Prompt.modify _⟩
  have hterminal := Prod.ext_iff.mp (h state.terminal)
  exact Prod.ext (closingFacts_eq_iff.mpr ⟨rfl, rfl, rfl, hterminal.1⟩) hterminal.2

end Rules

section Procedures

variable {c : Collaborators}

lemma booked_archive (phase : String) : Booked (archive c phase) := by
  refine (Booked.call ?_ fun _ => rfl).bind fun receipt => ?_
  · exact fun _ => trivial
  refine (booked_updateTerminal ?_).bind fun _ => (Plainly.pure receipt).booked
  exact fun _ => rfl

lemma booked_readCleanupRealtime : Booked (readCleanupRealtime c) :=
  Plainly.get.booked.bind fun _ =>
    .ite (.call (fun _ => trivial) fun _ => rfl) (Plainly.raise rfl).booked

lemma plainly_fullQualificationError (target : CPScaleCanonicalTargetContract)
    (stages : List CPScaleStageProgress) : Plainly (fullQualificationError c target stages) := by
  refine (plainly_ask ..).bind fun admission => .ite (.pure _) (.ite (.pure _) ?_)
  cases stages.find? fun stage => !stageVerified stage with
  | none => exact plainly_ask ..
  | some stage => exact .pure _

lemma plainly_reviewFullQualification (target : CPScaleCanonicalTargetContract)
    (stages : List CPScaleStageProgress) : Plainly (reviewFullQualification c target stages) :=
  (plainly_fullQualificationError target stages).bind fun _ => .pure _

lemma plainly_reviewBoundedTarget (target : CPScaleCanonicalTargetContract)
    (stages : List CPScaleStageProgress) : Plainly (reviewBoundedTarget c target stages) :=
  (plainly_ask ..).bind fun _ => .pure _

lemma booked_reviewCompletion (target : CPScaleCanonicalTargetContract)
    (stages : List CPScaleStageProgress) : Booked (reviewCompletion c target stages) := by
  refine Booked.bind (Plainly.booked (.ite ?_ ?_)) fun review => Booked.bind ⟨?_, ?_⟩ fun _ =>
    (Plainly.pure review).booked
  · exact plainly_reviewFullQualification target stages
  · exact plainly_reviewBoundedTarget target stages
  · exact keeps_note fun _ _ => Grows.of_event trivial
  · exact Prompt.note rfl

lemma booked_archivePrecleanup (plan : CPScaleClosurePlan) : Booked (archivePrecleanup c plan) := by
  refine (plainly_ask ..).booked.bind fun _ => ?_
  refine (booked_updateTerminal ?_).bind fun _ => ?_
  · exact fun _ => rfl
  refine plainly_writeProgress.booked.bind fun _ => (booked_archive _).bind fun receipt => ?_
  exact booked_updateTerminal fun _ => rfl

/-! ## Restorations end with an interruption -/

lemma prompt_removeOwned (owned : List String) (devices : List Plans.DevicePlan)
    (mutations : List PhysicalMutationResult) :
    PromptRun (removeOwned c owned devices mutations) := by
  induction devices generalizing mutations with
  | nil => exact Prompt.pure _
  | cons device devices ih =>
    refine Prompt.ite ((prompt_caught ?_).bind fun removed => ?_) (ih mutations)
    · exact .ite (Prompt.call (fun _ => rfl) fun _ => rfl) (Prompt.raise rfl)
    · cases removed with
      | ok mutation => exact ih _
      | error raised => exact Prompt.pure _

lemma prompt_observeRestoration (baseline : Option PhysicalWorkspaceObservation)
    (mutations : List PhysicalMutationResult) :
    PromptRun (observeRestoration c baseline mutations) := by
  refine (prompt_caught plainly_observeWorkspace.prompt).bind fun first => ?_
  rcases first with raised | first
  · exact Prompt.pure _
  refine (prompt_caught plainly_observeWorkspace.prompt).bind fun second => ?_
  cases second with
  | error raised | ok second => exact Prompt.pure _

lemma prompt_restoreRun : PromptRun (restoreRun c) := by
  refine Prompt.get.bind fun state => (Prompt.note rfl).bind fun _ => ?_
  rcases state.qualification.composition.bind EnterpriseReferenceComposition.topology
      with _ | topology
  · exact Prompt.pure _
  refine (prompt_removeOwned _ _ _).bind fun removed => ?_
  obtain ⟨mutations, failure⟩ := removed
  cases failure with
  | some raised => exact Prompt.pure _
  | none => exact prompt_observeRestoration _ _

/-! ## Completion -/

variable {state : RunState} {history : List RunEvent} {target : CPScaleCanonicalTargetContract}
  {command : CPScaleCheckpointDecision} {retainAuthorized : Bool} {raised : Raised}

lemma Booked.ensures {α : Type} {x : Run α} (h : Booked x) (hI : RunInvariant c state history) :
    x.Ensures state history
      (fun _ state' history' => RunInvariant c state' history' ∧
        state'.terminal.flags = state.terminal.flags)
      (fun _ state' history' => RunInvariant c state' history' ∧
        state'.terminal.flags = state.terminal.flags) := by
  refine (h.books.kept.ensures state history).mono (fun _ _ _ hkept => ?_) fun _ _ _ hkept => ?_
  · exact ⟨RunInvariant.of_kept hkept hI, (closingFacts_eq_iff.mp hkept.fixed).2.2.2⟩
  · exact ⟨RunInvariant.of_kept hkept hI, (closingFacts_eq_iff.mp hkept.fixed).2.2.2⟩

lemma attemptCleanup_ensures (hI : RunInvariant c state history)
    (hattempted : state.terminal.cleanupAttempted = false) :
    (do
      updateTerminal fun terminal => { terminal with cleanupAttempted := true }
      restoreRun c : Run CPScaleCleanupResult).Ensures state history
      (fun _ => Attempted c) (fun _ => Attempted c) := by
  rw [ensures_bind, updateTerminal, ensures_modify]
  refine (restoration_restoreRun.ensures _ history).mono ?_ ?_
  · exact fun _ _ _ h => hI.restore hattempted h
  · exact fun _ _ _ h => hI.restore hattempted h

lemma plan_disposition {plan : CPScaleClosurePlan} (hcleanup : target.requireCleanup = true)
    (h : target.plan command retainAuthorized = .ok plan) : plan.disposition = .cleanup := by
  simp only [CPScaleCanonicalTargetContract.plan, hcleanup, if_true] at h
  rcases hevent : CPScaleTerminalEvent.ofValue target.cleanedClosure with raised | event
  · rw [hevent] at h
    cases h
  rw [hevent] at h
  cases h
  rfl

lemma ofValue_interrupts {value : String}
    (h : CPScaleTerminalEvent.ofValue value = .error raised) : raised.interrupts = false := by
  unfold CPScaleTerminalEvent.ofValue at h
  split_ifs at h
  cases h
  rfl

lemma canonicalFinalDisposition_interrupts
    (h : canonicalFinalDisposition command retainAuthorized = .error raised) :
    raised.interrupts = false := by
  rcases command with _ | _
  · cases h
  simp only [canonicalFinalDisposition] at h
  split_ifs at h
  cases h
  rfl

lemma plan_interrupts (h : target.plan command retainAuthorized = .error raised) :
    raised.interrupts = false := by
  rcases Fallible.bind_eq_error.mp h with hdisposition | ⟨disposition, -, hrest⟩
  · by_cases hcleanup : target.requireCleanup = true
    · rw [if_pos hcleanup] at hdisposition
      cases hdisposition
    · rw [if_neg hcleanup] at hdisposition
      exact canonicalFinalDisposition_interrupts hdisposition
  · rcases Fallible.bind_eq_error.mp hrest with hevent | ⟨event, -, hpure⟩
    · by_cases hretain : disposition = .retain
      · rw [if_pos hretain] at hevent
        cases hevent
      rw [if_neg hretain] at hevent
      by_cases hcleanup : target.requireCleanup = true
      · rw [if_pos hcleanup] at hevent
        exact ofValue_interrupts hevent
      · rw [if_neg hcleanup] at hevent
        cases hevent
    · cases hpure

lemma prompt_cleanWorkspace (stage : CPScaleCanonicalStage) : PromptRun (cleanWorkspace c stage) := by
  refine (Prompt.modify _).bind fun _ => prompt_restoreRun.bind fun cleanup => ?_
  refine (Prompt.modify _).bind fun _ => booked_readCleanupRealtime.prompt.bind fun realtime => ?_
  refine (Prompt.modify _).bind fun _ => (Prompt.modify _).bind fun _ => ?_
  exact (plainly_demand _).prompt

lemma prompt_attestClosure (plan : CPScaleClosurePlan) : PromptRun (attestClosure c plan) := by
  refine (plainly_ask ..).prompt.bind fun _ => (booked_archive _).prompt.bind fun receipt => ?_
  refine (Prompt.modify _).bind fun _ => prompt_writeProgress.bind fun _ => ?_
  exact (plainly_ask ..).prompt.bind fun _ => Prompt.modify _

lemma prompt_complete (target : CPScaleCanonicalTargetContract)
    (command : CPScaleCheckpointDecision) (retainAuthorized : Bool) :
    PromptRun (complete c target command retainAuthorized) := by
  refine Prompt.get.bind fun state => (booked_reviewCompletion _ _).prompt.bind fun review => ?_
  refine (Prompt.modify _).bind fun _ => (plainly_demand _).prompt.bind fun _ => ?_
  refine (Prompt.ofExcept fun raised => plan_interrupts).bind fun plan => ?_
  refine (booked_archivePrecleanup plan).prompt.bind fun _ => Prompt.ite ?_ ?_
  · refine (Prompt.modify _).bind fun _ => prompt_writeProgress.bind fun _ => ?_
    exact (plainly_ask ..).prompt.bind fun _ => Prompt.modify _
  · exact (prompt_cleanWorkspace _).bind fun _ => prompt_attestClosure plan

/-- The cleanup of a completion is attempted once. -/
lemma cleanWorkspace_ensures (stage : CPScaleCanonicalStage) (hI : RunInvariant c state history)
    (hattempted : state.terminal.cleanupAttempted = false) :
    (cleanWorkspace c stage).Ensures state history
      (fun _ => Attempted c)
      (fun _ => RunInvariant c) := by
  have hattempt := attemptCleanup_ensures hI hattempted
  unfold cleanWorkspace
  rw [ensures_bind] at hattempt ⊢
  refine hattempt.mono (fun _ state' history' hrestored => ?_) fun _ _ _ h => h.1
  rw [ensures_bind]
  refine hrestored.mono ?_ ?_
  · rintro cleanup state' history' ⟨hI', hattempted'⟩
    have hbooked : Booked (do
        updateTerminal fun terminal => { terminal with cleanup := some cleanup }
        let realtime ← readCleanupRealtime c
        updateTerminal fun terminal => { terminal with realtime := some realtime }
        updateTerminal fun terminal =>
          { terminal with
            secondaryFailures := terminal.secondaryFailures ++
              (reviewCleanup cleanup realtime stage).secondaryFailures }
        demand (reviewCleanup cleanup realtime stage).error) := by
      refine (booked_updateTerminal ?_).bind fun _ => booked_readCleanupRealtime.bind fun _ => ?_
      · exact fun _ => rfl
      refine (booked_updateTerminal ?_).bind fun _ => (booked_updateTerminal ?_).bind fun _ => ?_
      · exact fun _ => rfl
      · exact fun _ => rfl
      exact (plainly_demand _).booked
    refine (hbooked.ensures hI').mono ?_ ?_
    · rintro _ state'' history'' ⟨hI'', hflags⟩
      exact ⟨hI'', (congrArg Prod.fst hflags).trans hattempted'⟩
    · exact fun _ _ _ h => h.1
  · exact fun _ _ _ h => h.1

/-- A completion closes only what was cleaned. -/
lemma attestClosure_ensures (plan : CPScaleClosurePlan) (hI : RunInvariant c state history)
    (hattempted : state.terminal.cleanupAttempted = true) :
    (attestClosure c plan).Ensures state history (fun _ => RunInvariant c)
      (fun _ => RunInvariant c) := by
  have hbooked : Booked (do
      ask .completionClock c.completionClock
      let receipt ← archive c "cleanup"
      updateTerminal fun terminal =>
        { terminal with attestation := some receipt, closure := plan.cleanedClosure }
      writeProgress c
      ask .persistCheckpoint c.persistCheckpoint) := by
    refine (plainly_ask ..).booked.bind fun _ => (booked_archive _).bind fun receipt => ?_
    refine (booked_updateTerminal ?_).bind fun _ => plainly_writeProgress.booked.bind fun _ => ?_
    · exact fun _ => rfl
    · exact (plainly_ask ..).booked
  have hensures := hbooked.ensures hI
  simp only [ensures_bind] at hensures
  simp only [attestClosure, ensures_bind]
  refine hensures.mono (fun _ _ _ h => ?_) fun _ _ _ h => h.1
  refine h.mono (fun _ _ _ h => ?_) fun _ _ _ h => h.1
  refine h.mono (fun _ _ _ h => ?_) fun _ _ _ h => h.1
  refine h.mono (fun _ _ _ h => ?_) fun _ _ _ h => h.1
  refine h.mono ?_ fun _ _ _ h => h.1
  rintro _ state' history' ⟨hI', hflags⟩
  rw [updateTerminal, ensures_modify]
  have hattempted' := (congrArg Prod.fst hflags).trans hattempted
  exact ⟨hI'.restored, fun _ => hattempted', hI'.retained, fun h => (hI'.ready h).of_eq rfl rfl,
    hI'.composed, hI'.owns, hI'.removes, hI'.unclosed⟩

/-- A completion keeps the invariant of the run. -/
lemma complete_ensures (hcleanup : target.requireCleanup = true)
    (command : CPScaleCheckpointDecision) (retainAuthorized : Bool)
    (hI : RunInvariant c state history) (hattempted : state.terminal.cleanupAttempted = false) :
    (complete c target command retainAuthorized).Ensures state history (fun _ => RunInvariant c)
      (fun _ => RunInvariant c) := by
  unfold complete
  rw [ensures_bind, ensures_get, ensures_bind]
  refine ((booked_reviewCompletion _ _).ensures hI).mono ?_ fun _ _ _ h => h.1
  rintro review state₁ history₁ ⟨hI₁, hflags₁⟩
  have hbooked : Booked (do
      updateTerminal fun terminal => { terminal with replay := review.replay }
      demand review.error) := by
    refine (booked_updateTerminal ?_).bind fun _ => (plainly_demand _).booked
    exact fun _ => rfl
  have hdemand := hbooked.ensures hI₁
  rw [ensures_bind] at hdemand ⊢
  refine hdemand.mono (fun _ state' history' h => ?_) fun _ _ _ h => h.1
  rw [ensures_bind]
  refine h.mono ?_ fun _ _ _ h => h.1
  rintro _ state₂ history₂ ⟨hI₂, hflags₂⟩
  rw [ensures_bind]
  refine ensures_ofExcept (fun plan hplan => ?_) fun _ _ => hI₂
  have hdisposition : ¬ plan.disposition = .retain := by
    simp [plan_disposition hcleanup hplan]
  rw [ensures_bind]
  refine ((booked_archivePrecleanup plan).ensures hI₂).mono ?_ fun _ _ _ h => h.1
  rintro _ state₃ history₃ ⟨hI₃, hflags₃⟩
  rw [if_neg hdisposition, ensures_bind]
  have hattempted₃ : state₃.terminal.cleanupAttempted = false :=
    (congrArg Prod.fst (hflags₃.trans (hflags₂.trans hflags₁))).trans hattempted
  refine (cleanWorkspace_ensures _ hI₃ hattempted₃).imp ?_
  rintro _ state₄ history₄ ⟨hI₄, hattempted₄⟩
  exact attestClosure_ensures plan hI₄ hattempted₄

/-! ## Sessions -/

lemma prompt_prepareSession : PromptRun (prepareSession c) :=
  (plainly_ask ..).prompt.bind fun _ => (Prompt.modify _).bind fun _ =>
    inSession_prepare.prompt

lemma prompt_executeSession (target : CPScaleCanonicalTargetContract) (retainAuthorized : Bool) :
    PromptRun (executeSession c target retainAuthorized) := by
  refine plainly_startSession.prompt.bind fun _ => Prompt.bind ?_ fun _ => ?_
  · exact plainly_observeWorkspace.prompt.bind fun baseline => Prompt.modify _
  refine (Prompt.call (fun _ => rfl) fun _ => rfl).bind fun error => Prompt.ite ?_ ?_
  · exact (Prompt.modify _).bind fun _ => prompt_writeProgress.bind fun _ => Prompt.pure _
  · refine prompt_prepareSession.bind fun _ => (inSession_runStages target).prompt.bind fun _ => ?_
    refine (plainly_demand _).prompt.bind fun _ => ?_
    exact (prompt_complete target .continue_ retainAuthorized).bind fun _ => Prompt.pure _

/-- Only a session with a runtime has a baseline. -/
lemma acquireBaseline_ensures (hI : SessionInvariant c state history)
    (hcomposition : state.qualification.composition = none) :
    (acquireBaseline c).Ensures state history
      (fun _ state' history' => SessionInvariant c state' history' ∧
        state'.qualification.baseline.isSome ∧ c.physical = true)
      (fun _ => SessionInvariant c) := by
  unfold acquireBaseline observeWorkspace
  rw [ensures_bind]
  refine ensures_ite (fun hphysical => ?_) fun _ => hI
  refine ensures_call (fun baseline _ => ?_) fun raised _ => ?_
  · rw [updateQualification, ensures_modify]
    have hupdate : SessionInvariant c { state with
        qualification := { state.qualification with baseline := some baseline } } history :=
      hI.update hI.unclosed (fun h => by simp [hcomposition] at h)
        (fun h => by simp [hcomposition] at h) fun _ h => h
    exact ⟨hupdate.snoc trivial (by simp) (by simp), rfl, hphysical⟩
  · exact hI.snoc trivial (by simp) (by simp)

/-- The observations of a session make it ready to compose. -/
lemma prepareSession_ensures (hI : SessionInvariant c state history)
    (hbaseline : state.qualification.baseline.isSome) (hphysical : c.physical = true) :
    (prepareSession c).Ensures state history
      (fun _ state' history' => SessionInvariant c state' history' ∧ Ready c state')
      (fun _ => SessionInvariant c) := by
  unfold prepareSession
  rw [ensures_bind]
  refine ensures_call (fun _ _ => ?_) fun raised _ => ?_
  · rw [ensures_bind, ensures_modify]
    have hsnoc : SessionInvariant c state (history ++ [.called .observationsFactory none]) :=
      hI.snoc trivial (by simp) (by simp)
    have hready : Ready c { state with observations := true } := ⟨hbaseline, rfl, hphysical⟩
    refine (inSession_prepare.preserves.ensures ⟨?_, hready⟩).mono (fun _ _ _ h => h) fun _ _ _ h =>
      h.1
    exact hsnoc.update hsnoc.unclosed (fun _ => hready) id fun _ h => h
  · exact hI.snoc trivial (by simp) (by simp)

lemma rejectBaseline_ensures (error : String) (hI : SessionInvariant c state history) :
    (do
      updateTerminal fun terminal => { terminal with hardStop := error }
      writeProgress c
      return .rejected : Run CPScaleRunOutcome).Ensures state history
      (fun _ => RunInvariant c) (fun _ => RunInvariant c) := by
  rw [ensures_bind, updateTerminal, ensures_modify]
  have hupdate : SessionInvariant c
      { state with terminal := { state.terminal with hardStop := error } } history :=
    hI.update_of_eq (hI.unclosed.of_eq rfl rfl rfl rfl) rfl rfl rfl
  have hwrite : Plainly (do
      writeProgress c
      return .rejected : Run CPScaleRunOutcome) := plainly_writeProgress.bind fun _ => .pure _
  refine (hwrite.preserves.ensures hupdate).mono ?_ ?_
  · exact fun _ _ _ h => h.runInvariant
  · exact fun _ _ _ h => h.runInvariant

/-- A session keeps the invariant of the run. -/
lemma executeSession_ensures (target : CPScaleCanonicalTargetContract) (retainAuthorized : Bool)
    (hI : SessionInvariant c state history)
    (hcomposition : state.qualification.composition = none) :
    (executeSession c target retainAuthorized).Ensures state history (fun _ => RunInvariant c)
      (fun _ => RunInvariant c) := by
  unfold executeSession
  rw [ensures_bind]
  refine (plainly_startSession.keeps.ensures state history).mono ?_ ?_
  · intro _ state₁ history₁ hgrows
    have hI₁ := SessionInvariant.of_plain hgrows hI
    have hcomposition₁ := congrArg CPScaleQualificationState.composition
      (facts_eq_iff.mp hgrows.fixed).1
    rw [ensures_bind]
    refine (acquireBaseline_ensures hI₁ (hcomposition₁.trans hcomposition)).mono ?_
      fun _ _ _ h => h.runInvariant
    rintro _ state₂ history₂ ⟨hI₂, hbaseline₂, hphysical⟩
    rw [ensures_bind]
    refine ensures_call (fun error _ => ?_) fun raised _ => ?_
    · have hI₃ : SessionInvariant c state₂ (history₂ ++ [.judged (.ok error)]) :=
        hI₂.snoc trivial (by simp) (by simp)
      refine ensures_ite (fun _ => rejectBaseline_ensures error hI₃) fun _ => ?_
      rw [ensures_bind]
      refine (prepareSession_ensures hI₃ hbaseline₂ hphysical).mono ?_
        fun _ _ _ h => h.runInvariant
      intro _ state₄ history₄ hI₄
      rw [ensures_bind]
      refine ((inSession_runStages target).preserves.ensures hI₄).mono ?_
        fun _ _ _ h => h.1.runInvariant
      rintro _ state₅ history₅ ⟨hI₅, -⟩
      rw [ensures_bind]
      refine ensures_ite (fun hdemand => ?_) fun _ => hI₅.runInvariant
      have hcleanup : target.requireCleanup = true := by
        by_contra hcleanup
        rw [if_neg hcleanup] at hdemand
        have hlength := congrArg String.length hdemand
        simp [String.length_append] at hlength
      rw [ensures_pure, ensures_bind]
      refine (complete_ensures hcleanup .continue_ retainAuthorized hI₅.runInvariant
        hI₅.unclosed.attempted).imp ?_
      exact fun _ _ _ h => h
    · have hI₃ : SessionInvariant c state₂ (history₂ ++ [.judged (.error raised)]) :=
        hI₂.snoc trivial (by simp) (by simp)
      exact hI₃.runInvariant
  · exact fun _ _ _ hgrows => (SessionInvariant.of_plain hgrows hI).runInvariant

end Procedures

end LiveRun
end PacketTracer
