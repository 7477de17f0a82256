import PacketTracer.Application.LiveCleanup

/-!
# The cleanup obligations of a live run

The `finally` of `run` always closes the session, and before it restores the workspace of every run
that composed and attempted no cleanup; whatever the collaborators answer or raise,
`cleanup.restore` runs at most once.  It removes every device that a deployment may have created
when every deployment returned and no removal raised; a deployment that is interrupted loses its
devices.
-/

namespace PacketTracer

namespace LiveRun

open Plans Scripts Canonical Script

/-! ## Handlers -/

section Handlers

variable {α : Type} {x : Run α} {state : RunState} {history : List RunEvent}

/-- What a `try` with an `except Exception` ensures: only an interruption is raised. -/
lemma ensures_caught {Q : Except Raised α → RunState → List RunEvent → Prop}
    {E : Raised → RunState → List RunEvent → Prop} :
    (caught x).Ensures state history Q E ↔
      x.Ensures state history (fun a => Q (.ok a)) fun raised state history =>
        if raised.interrupts then E raised state history else Q (.error raised) state history := by
  rw [caught, ensures_bind, ensures_attempt]
  refine ⟨fun h => h.mono (fun _ _ _ h => h) fun raised state history h => ?_,
    fun h => h.mono (fun _ _ _ h => h) fun raised state history h => ?_⟩
  · cases hraised : raised.interrupts with
    | true | false => simpa [passInterruption, hraised] using h
  · cases hraised : raised.interrupts with
    | true | false => simpa [passInterruption, hraised] using h

lemma caught_raises : (caught x).Ensures state history (fun _ _ _ => True)
    (fun raised _ _ => raised.interrupts = true) := by
  rw [ensures_caught]
  refine ensures_run.mono (fun _ _ _ _ => trivial) fun raised _ _ _ => ?_
  cases raised.interrupts with
  | true => exact rfl
  | false => exact trivial

end Handlers

/-! ## The obligations of the workspace -/

section Workspace

variable {c : Collaborators} {state : RunState} {history : List RunEvent}

lemma booked_archiveFailure : Booked (archiveFailure c) := by
  refine (booked_archive _).caught.bind fun receipt => ?_
  cases receipt with
  | ok receipt | error raised => exact booked_updateTerminal fun _ => rfl

lemma booked_attestFailure (realtime : CPScaleCleanupRealtime) :
    Booked (attestFailure c realtime) := by
  have harchive : Booked (archiveAttestation c realtime) :=
    Plainly.get.booked.bind fun _ => (plainly_ask ..).booked.bind fun _ => booked_archive _
  refine harchive.caught.bind fun receipt => ?_
  cases receipt with
  | ok receipt | error raised => exact booked_updateTerminal fun _ => rfl

lemma archiveFailure_raises : (archiveFailure c).Ensures state history (fun _ _ _ => True)
    (fun raised _ _ => raised.interrupts = true) := by
  unfold archiveFailure
  refine caught_raises.bind fun receipt _ _ _ => ?_
  cases receipt with
  | ok receipt | error raised => exact trivial

lemma booked_recordCleanup (cleanup : Except Raised CPScaleCleanupResult) :
    Booked (recordCleanup cleanup) := by
  unfold recordCleanup
  cases cleanup with
  | ok cleanup | error raised => exact booked_updateTerminal fun _ => rfl

lemma recordCleanup_ensures (cleanup : Except Raised CPScaleCleanupResult)
    (hI : RunInvariant c state history) (hattempted : state.terminal.cleanupAttempted = true) :
    (recordCleanup cleanup).Ensures state history
      (fun _ => Attempted c) (fun _ => Attempted c) := by
  refine ((booked_recordCleanup cleanup).ensures hI).mono ?_ ?_
  · exact fun _ _ _ h => ⟨h.1, (congrArg Prod.fst h.2).trans hattempted⟩
  · exact fun _ _ _ h => ⟨h.1, (congrArg Prod.fst h.2).trans hattempted⟩

/-- The cleanup of a failed run is attempted, whatever happens. -/
lemma cleanFailure_ensures (hI : RunInvariant c state history)
    (hattempted : state.terminal.cleanupAttempted = false) :
    (cleanFailure c).Ensures state history
      (fun _ => Attempted c) (fun _ => Attempted c) := by
  have hattempt := attemptCleanup_ensures hI hattempted
  unfold cleanFailure
  rw [ensures_bind] at hattempt ⊢
  refine hattempt.imp fun _ state' history' hrestored => ?_
  rw [ensures_bind, ensures_caught]
  refine hrestored.mono (fun cleanup state'' history'' h => ?_) fun raised state'' history'' h => ?_
  · exact recordCleanup_ensures (.ok cleanup) h.1 h.2
  · cases raised.interrupts with
    | true => exact h
    | false => exact recordCleanup_ensures (.error raised) h.1 h.2

/-- A workspace that is finalized was restored, unless an interruption came first. -/
lemma finalizeWorkspace_ensures (hI : RunInvariant c state history) :
    (finalizeWorkspace c).Ensures state history
      (fun _ => Attempted c)
      (fun raised state' history' => RunInvariant c state' history' ∧
        (state'.terminal.cleanupAttempted = true ∨ raised.interrupts = true)) := by
  unfold finalizeWorkspace
  rw [ensures_bind, ensures_get, ensures_bind]
  have harchive : (if state.terminal.precleanup.isNone then archiveFailure c
      else pure ()).Ensures state history
        (fun _ state' history' => RunInvariant c state' history' ∧
          state'.terminal.flags = state.terminal.flags)
        (fun raised state' history' => RunInvariant c state' history' ∧
          raised.interrupts = true) := by
    refine ensures_ite (fun _ => ?_) fun _ => ⟨hI, rfl⟩
    refine ((booked_archiveFailure.ensures hI).and archiveFailure_raises).mono ?_ ?_
    · exact fun _ _ _ h => h.1
    · exact fun _ _ _ h => ⟨h.1.1, h.2⟩
  refine harchive.mono ?_ fun _ _ _ h => ⟨h.1, .inr h.2⟩
  rintro _ state₁ history₁ ⟨hI₁, hflags₁⟩
  have hattempted₁ : state₁.terminal.cleanupAttempted = state.terminal.cleanupAttempted :=
    congrArg Prod.fst hflags₁
  have hclean : (if state.terminal.cleanupAttempted then pure () else cleanFailure c).Ensures
      state₁ history₁
        (fun _ => Attempted c) (fun _ => Attempted c) := by
    refine ensures_ite (fun hattempted => ?_) fun hattempted => ?_
    · exact ⟨hI₁, hattempted₁.trans hattempted⟩
    · exact cleanFailure_ensures hI₁ (hattempted₁.trans (by simpa using hattempted))
  rw [ensures_bind]
  refine hclean.mono ?_ fun _ _ _ h => ⟨h.1, .inl h.2⟩
  rintro _ state₂ history₂ ⟨hI₂, hattempted₂⟩
  have hrest : Booked (do
      let realtime ← readCleanupRealtime c
      updateTerminal fun terminal =>
        { terminal with
          realtime := some realtime
          secondaryFailures :=
            terminal.secondaryFailures ++ labelled "cleanup_realtime: " realtime.error }
      (if state.terminal.attestation.isNone then attestFailure c realtime else pure ())) := by
    refine booked_readCleanupRealtime.bind fun realtime => ?_
    refine (booked_updateTerminal ?_).bind fun _ => ?_
    · exact fun _ => rfl
    · exact .ite (booked_attestFailure realtime) (Plainly.pure ()).booked
  refine (hrest.ensures hI₂).mono ?_ ?_
  · exact fun _ _ _ h => ⟨h.1, (congrArg Prod.fst h.2).trans hattempted₂⟩
  · exact fun _ _ _ h => ⟨h.1, .inl ((congrArg Prod.fst h.2).trans hattempted₂)⟩

/-- A finalization that is skipped had nothing composed, or a cleanup that is complete. -/
lemma prepareFinalization_ensures (hI : RunInvariant c state history) :
    (prepareFinalization c).Ensures state history
      (fun _ state' history' => RunInvariant c state' history' ∧
        (state'.qualification.composition.isSome → state'.terminal.cleanupAttempted = true))
      (fun raised state' history' => RunInvariant c state' history' ∧
        (state'.terminal.cleanupAttempted = true ∨ raised.interrupts = true)) := by
  unfold prepareFinalization
  rw [ensures_bind, ensures_get]
  refine ensures_ite (fun hskipped => ?_) fun _ => ?_
  · refine ⟨hI, fun hcomposition => hI.complete ?_⟩
    have hready := hI.ready hcomposition
    have hbaseline := Option.isSome_iff_ne_none.mp hready.baseline
    have hcomposition' := Option.isSome_iff_ne_none.mp hcomposition
    simpa [finalizationSkipped, hready.physical, hbaseline, hI.retained, hcomposition']
      using hskipped
  · refine (finalizeWorkspace_ensures hI).imp ?_
    exact fun _ _ _ h => ⟨h.1, fun _ => h.2⟩

lemma prompt_cleanFailure : PromptRun (cleanFailure c) := by
  refine (Prompt.modify _).bind fun _ => (prompt_caught prompt_restoreRun).bind fun cleanup => ?_
  exact (booked_recordCleanup cleanup).prompt

lemma prompt_prepareAndCaptureSecondaries : PromptRun (prepareAndCaptureSecondaries c) := by
  refine Prompt.bind (Prompt.get.bind fun state => ?_) fun _ => Prompt.modify _
  refine .ite (Prompt.pure ()) (Prompt.get.bind fun state => ?_)
  refine (Prompt.ite booked_archiveFailure.prompt (Prompt.pure ())).bind fun _ => ?_
  refine (Prompt.ite (Prompt.pure ()) prompt_cleanFailure).bind fun _ => ?_
  refine booked_readCleanupRealtime.prompt.bind fun realtime => (Prompt.modify _).bind fun _ => ?_
  exact .ite (booked_attestFailure realtime).prompt (Prompt.pure ())

end Workspace

/-! ## Reports keep the books -/

section Reports

variable {c : Collaborators}

lemma books_updateTerminal {f : CPScaleTerminalState → CPScaleTerminalState}
    (h : ∀ terminal, ((f terminal).flags, (f terminal).outcome) =
      (terminal.flags, terminal.outcome)) : Books (updateTerminal f) :=
  (booked_updateTerminal h).books

lemma booked_reportErrors (errors : List String) : Booked (reportErrors c errors) := by
  refine (booked_updateTerminal ?_).bind fun _ => (plainly_ask ..).booked
  exact fun _ => rfl

lemma books_reportTerminalErrors (errors : List String) {report : List String → Run Unit}
    (hreport : Books (report errors)) : Books (reportTerminalErrors errors report) := by
  refine Grows.frame.bind (keeps_caught Grows.frame hreport) fun outcome => ?_
  cases outcome with
  | ok _ | error raised => exact Grows.frame.pure _

lemma books_keepAsError (preserve : Bool) (label : String) (errors : List String)
    (outcome : Except Raised (List String)) :
    Books (keepAsError preserve label errors outcome) := by
  cases outcome with
  | ok errors => exact Grows.frame.pure _
  | error raised => exact (Grows.frame.raise raised).ite (Grows.frame.pure _)

lemma books_publishTerminalOutcome (errors : List String) (preserve : Bool) :
    Books (publishTerminalOutcome c errors preserve) := by
  refine Grows.frame.bind (books_updateTerminal ?_) fun _ => ?_
  · exact fun _ => rfl
  refine Grows.frame.bind plainly_writeProgress.booked.books.attempt fun written => ?_
  refine Grows.frame.bind (books_keepAsError _ _ _ _) fun kept => ?_
  refine Grows.frame.bind (books_updateTerminal ?_) fun _ => Grows.frame.pure kept
  exact fun _ => rfl

lemma books_settleTerminalErrors (errors : List String) (publicationRequired preserve : Bool) :
    Books (settleTerminalErrors c errors publicationRequired preserve) := by
  have hpublish : Books (if publicationRequired then publishTerminalOutcome c errors preserve
      else pure errors) :=
    (books_publishTerminalOutcome errors preserve).ite (Grows.frame.pure errors)
  refine Grows.frame.bind hpublish fun published => ?_
  have hreport := books_reportTerminalErrors published (booked_reportErrors (c := c) published).books
  refine Grows.frame.bind hreport.attempt fun outcome => ?_
  refine Grows.frame.bind (books_keepAsError _ _ _ _) fun reported => ?_
  refine Grows.frame.bind (books_updateTerminal ?_) fun _ => ?_
  · exact fun _ => rfl
  refine (Grows.frame.pure reported).ite ?_
  refine Grows.frame.bind (books_publishTerminalOutcome reported preserve) fun settled => ?_
  refine Grows.frame.bind (books_updateTerminal ?_) fun _ => Grows.frame.pure settled
  exact fun _ => rfl

lemma books_finalizeReport (initial : Option Raised) (errors : List String) :
    Books (finalizeReport c initial errors) := by
  cases initial with
  | none => exact (booked_reportErrors errors).books
  | some raised =>
    refine Grows.frame.bind Grows.frame.get fun state => ?_
    exact Grows.frame.bind (books_settleTerminalErrors _ _ _) fun _ => Grows.frame.pure ()

lemma books_reportInterrupted (initial : Option Raised) (errors : List String) :
    Books (reportInterrupted c initial errors) := by
  refine (Grows.frame.pure ()).ite ?_
  have hreport := books_reportTerminalErrors errors (books_finalizeReport (c := c) initial errors)
  exact Grows.frame.bind hreport.attempt fun _ => Grows.frame.pure ()

lemma books_raiseInterruption (initial : Option Raised) (final : FinalizationState) :
    Books (raiseInterruption c initial final) := by
  unfold raiseInterruption
  cases final.interruption with
  | none => exact Grows.frame.pure _
  | some raised =>
    exact Grows.frame.bind (books_reportInterrupted initial _) fun _ => Grows.frame.raise raised

lemma kept_updateTerminal {f : CPScaleTerminalState → CPScaleTerminalState}
    (h : ∀ terminal, (f terminal).flags = terminal.flags) : Keeps Kept (updateTerminal f) :=
  Grows.modify fun _ => closingFacts_eq_iff.mpr ⟨rfl, rfl, rfl, h _⟩

lemma kept_settleFinalization (errors : List String) :
    Keeps Kept (settleFinalization c errors) := by
  refine Grows.frame.bind (kept_updateTerminal ?_) fun _ => ?_
  · exact fun _ => rfl
  refine Grows.frame.bind Grows.frame.get fun state => (Grows.frame.pure ()).ite ?_
  refine Grows.frame.bind ?_ fun _ => Grows.frame.pure ()
  exact (books_settleTerminalErrors _ _ _).kept

lemma kept_presentTerminal : Keeps Kept (presentTerminal c) := by
  refine Grows.frame.bind Grows.frame.get fun state => Keeps.ite ?_ (Grows.frame.pure ())
  have hpresent := (plainly_ask .terminalPresentation c.terminalPresentation).booked.books.kept
  refine Grows.frame.bind (keeps_caught Grows.frame hpresent) fun outcome => ?_
  cases outcome with
  | ok _ => exact Grows.frame.pure ()
  | error raised =>
    refine Grows.frame.bind (kept_updateTerminal ?_) fun _ => ?_
    · exact fun _ => rfl
    refine Grows.frame.bind (books_settleTerminalErrors _ _ _).kept fun errors => ?_
    exact kept_updateTerminal fun _ => rfl

end Reports

/-! ## Closed runs -/

/-- The events of a finalization before the session is closed. -/
structure Prepared (c : Collaborators) (history : List RunEvent) (state : RunState)
    (history' : List RunEvent) : Prop where
  invariant : RunInvariant c state history'
  attempted : ∃ added, history' = history ++ added ∧
    (state.qualification.composition.isSome → state.terminal.cleanupAttempted = true ∨
      ¬ Calm RunEvent.raised Raised.interrupts added)

/-- A history that closed the session once, after its preparation. -/
def Closed (c : Collaborators) (history : List RunEvent) (state : RunState)
    (history' : List RunEvent) : Prop :=
  ∃ before answer after, history' = before ++ .closed answer :: after ∧
    Prepared c history state before ∧ ∀ event ∈ after, Clerical event

section Closing

variable {c : Collaborators} {history : List RunEvent}
  {a b : RunState × List RunEvent} {state : RunState}

lemma Prepared.of_kept (h : Kept a b) (hprepared : Prepared c history a.1 a.2) :
    Prepared c history b.1 b.2 := by
  refine ⟨RunInvariant.of_kept h hprepared.invariant, ?_⟩
  obtain ⟨added, hadded, hattempted⟩ := hprepared.attempted
  obtain ⟨added', hadded', -⟩ := h.grown
  obtain ⟨hqualification, -, -, hflags⟩ := closingFacts_eq_iff.mp h.fixed
  refine ⟨added ++ added', by rw [hadded', hadded, List.append_assoc], fun hcomposition => ?_⟩
  rw [hqualification] at hcomposition
  rcases hattempted hcomposition with hattempted | hcalm
  · exact .inl ((congrArg Prod.fst hflags).trans hattempted)
  · exact .inr fun hall => hcalm fun event hevent => hall event (List.mem_append_left _ hevent)

lemma Closed.of_kept (h : Kept a b) (hclosed : Closed c history a.1 a.2) :
    Closed c history b.1 b.2 := by
  obtain ⟨before, answer, after, heq, hprepared, hclerical⟩ := hclosed
  obtain ⟨added, hadded, hclerical'⟩ := h.grown
  refine ⟨before, answer, after ++ added, by rw [hadded, heq]; simp, ?_, ?_⟩
  · exact Prepared.of_kept (a := (a.1, before)) (b := (b.1, before)) ⟨h.fixed, [], by simp⟩
      hprepared
  · intro event hevent
    rcases List.mem_append.mp hevent with hevent | hevent
    · exact hclerical event hevent
    · exact hclerical' event hevent

/-- Whatever the preparation and the publication do, an obligation records it. -/
lemma prepareAndWrite_ensures (final : FinalizationState) (hI : RunInvariant c state history) :
    (prepareAndWrite c final).Ensures state history
      (fun _ state' history' => Prepared c history state' history') (fun _ _ _ => False) := by
  have hprepare : (prepareAndCaptureSecondaries c).Ensures state history
      (fun _ state' history' => Prepared c history state' history')
      (fun _ state' history' => Prepared c history state' history') := by
    obtain ⟨added, hadded, hsettled⟩ := prompt_prepareAndCaptureSecondaries (c := c) state history
    have hcapture : (prepareAndCaptureSecondaries c).Ensures state history
        (fun _ state' history' => RunInvariant c state' history' ∧
          (state'.qualification.composition.isSome → state'.terminal.cleanupAttempted = true))
        (fun raised state' history' => RunInvariant c state' history' ∧
          (state'.terminal.cleanupAttempted = true ∨ raised.interrupts = true)) := by
      unfold prepareAndCaptureSecondaries
      rw [ensures_bind]
      refine (prepareFinalization_ensures hI).imp ?_
      rintro _ state' history' ⟨hI', hattempted⟩
      rw [ensures_modify]
      refine ⟨RunInvariant.of_kept (a := (state', history')) (b := (_, history')) ?_ hI',
        hattempted⟩
      exact ⟨rfl, [], by simp⟩
    refine (hcapture.and ensures_run).mono ?_ ?_
    · rintro _ state' history' ⟨⟨hI', hattempted⟩, hrun⟩
      rw [hrun] at hadded
      exact ⟨hI', added, hadded, fun hcomposition => .inl (hattempted hcomposition)⟩
    · rintro raised state' history' ⟨⟨hI', hattempted⟩, hrun⟩
      rw [hrun] at hadded hsettled
      refine ⟨hI', added, hadded, fun _ => hattempted.imp_right fun hinterrupts hcalm => ?_⟩
      -- an interruption that was raised is the last event of a prompt procedure
      cases hsettled with
      | calm _ houtcome => simp [houtcome raised rfl] at hinterrupts
      | interrupted _ hlast he =>
        simp [hcalm _ (List.mem_append_right _ (List.mem_singleton.mpr rfl)) _ hlast] at he
  unfold prepareAndWrite
  rw [ensures_bind, ensures_attempt]
  refine hprepare.imp fun _ state' history' hprepared => ?_
  unfold obligation
  rw [ensures_bind, ensures_attempt]
  refine (plainly_writeProgress.booked.books.kept.ensures state' history').mono ?_ ?_
  · exact fun _ _ _ hgrows => Prepared.of_kept hgrows hprepared
  · exact fun _ _ _ hgrows => Prepared.of_kept hgrows hprepared

/-- The session is closed in every finalization. -/
lemma finalizeSession_ensures (initial : Option Raised) (hI : RunInvariant c state history) :
    (finalizeSession c initial).Ensures state history
      (fun _ state' history' => Closed c history state' history')
      (fun _ state' history' => Closed c history state' history') := by
  unfold finalizeSession
  rw [ensures_bind]
  refine (prepareAndWrite_ensures _ hI).mono (fun prepared state' history' h => ?_)
    fun _ _ _ h => h.elim
  unfold closeSession obligation
  rw [ensures_bind, ensures_bind, ensures_attempt]
  have hclosed : ∀ answer, Closed c history state' (history' ++ [.closed answer]) := fun answer =>
    ⟨history', answer, [], rfl, h, by simp⟩
  have hraise : ∀ final answer, (raiseInterruption c initial final).Ensures state'
      (history' ++ [.closed answer]) (fun _ state' history' => Closed c history state' history')
      (fun _ state' history' => Closed c history state' history') := by
    intro final answer
    refine ((books_raiseInterruption initial final).kept.ensures _ _).mono ?_ ?_
    · exact fun _ _ _ hgrows => Closed.of_kept hgrows (hclosed answer)
    · exact fun _ _ _ hgrows => Closed.of_kept hgrows (hclosed answer)
  refine ensures_call (fun _ _ => ?_) fun raised _ => ?_
  · exact hraise _ (.ok ())
  · exact hraise _ (.error raised)

end Closing

/-! ## A whole session -/

/-- A session that ended with `raised`: what it executed, and a finalization that closed it. -/
def Finalized (c : Collaborators) (history : List RunEvent) (raised : Option Raised)
    (state : RunState) (history' : List RunEvent) : Prop :=
  ∃ (executed : List RunEvent) (result : Except Raised CPScaleRunOutcome),
    Settled RunEvent.raised Raised.interrupts executed result ∧
    (∀ interruption, result = .error interruption → interruption.interrupts = true →
      raised = some interruption) ∧
    Closed c (history ++ executed ++ [.finalizing]) state history'

section Session

variable {c : Collaborators} {state : RunState} {history : List RunEvent}

/-- The interruption that a session leaves in flight. -/
def inFlight : Except Raised CPScaleRunOutcome → Option Raised
  | .ok _ => none
  | .error raised => if raised.interrupts then some raised else none

/-- The handlers of the session keep the invariant of the run. -/
lemma settleExecution_ensures (executed : Except Raised CPScaleRunOutcome)
    (hI : RunInvariant c state history) :
    (settleExecution executed).Ensures state history
      (fun interruption state' history' => interruption = inFlight executed ∧
        history' = history ∧ RunInvariant c state' history) (fun _ _ _ => False) := by
  have hkeep : ∀ state', state'.closingFacts = state.closingFacts →
      RunInvariant c state' history := fun state' h =>
    RunInvariant.of_kept (a := (state, history)) (b := (state', history)) ⟨h, [], by simp⟩ hI
  cases executed with
  | ok outcome =>
    simp only [settleExecution, updateTerminal, ensures_bind, ensures_modify, ensures_pure]
    exact ⟨rfl, trivial, hkeep _ rfl⟩
  | error raised =>
    refine ensures_ite (fun hraised => ?_) fun hraised => ?_
    · exact ⟨by simp [inFlight, hraised], rfl, hI⟩
    · simp only [updateTerminal, updateProgress, ensures_bind, ensures_modify, ensures_pure]
      exact ⟨by simp [inFlight, hraised], trivial, hkeep _ rfl⟩

variable {final : FinalizationState} {interruption : Raised}

lemma record_interruption (h : final.interruption = some interruption) (label : String)
    (raised : Raised) : (final.record label raised).interruption = some interruption := by
  simp [FinalizationState.record, h]

lemma obligation_interruption (h : final.interruption = some interruption) (label : String)
    (x : Run Unit) :
    (obligation final label x).Ensures state history
      (fun final' _ _ => final'.interruption = some interruption) (fun _ _ _ => False) := by
  unfold obligation
  rw [ensures_bind, ensures_attempt]
  refine ensures_run.mono (fun _ _ _ _ => h) fun raised _ _ _ => ?_
  exact record_interruption h label raised

/-- The finalization of an interrupted session raises its interruption. -/
lemma finalizeSession_raises (interruption : Raised) :
    (finalizeSession c (some interruption)).Ensures state history (fun _ _ _ => False)
      (fun raised _ _ => raised = interruption) := by
  have hprepare : (prepareAndWrite c { interruption := some interruption }).Ensures state history
      (fun final _ _ => final.interruption = some interruption) (fun _ _ _ => False) := by
    unfold prepareAndWrite
    rw [ensures_bind, ensures_attempt]
    refine ensures_run.mono (fun _ _ _ _ => obligation_interruption rfl _ _) ?_
    exact fun raised _ _ _ => record_interruption rfl _ raised
  unfold finalizeSession
  rw [ensures_bind]
  refine hprepare.mono (fun prepared _ _ hprepared => ?_) fun _ _ _ h => h.elim
  rw [ensures_bind]
  refine (obligation_interruption hprepared _ _).mono (fun closed _ _ hclosed => ?_)
    fun _ _ _ h => h.elim
  rw [ensures_bind, ensures_get]
  unfold raiseInterruption
  simp only [hclosed]
  rw [ensures_bind]
  -- the reports of an interrupted session never raise
  unfold reportInterrupted
  refine ensures_ite (fun _ => rfl) fun _ => ?_
  rw [ensures_bind, ensures_attempt]
  exact ensures_run.mono (fun _ _ _ _ => rfl) fun _ _ _ _ => rfl

/-- A session is finalized, however it ends. -/
lemma runSession_ensures (target : CPScaleCanonicalTargetContract) (retainAuthorized : Bool)
    (hI : SessionInvariant c state history) (hcomposition : state.qualification.composition = none) :
    (runSession c target retainAuthorized).Ensures state history
      (fun _ => Finalized c history none) (fun raised => Finalized c history (some raised)) := by
  obtain ⟨executed, hexecuted, hsettled⟩ :=
    prompt_executeSession (c := c) target retainAuthorized state history
  -- whatever the session ends with, the rest of the run finalizes it
  have hrest : ∀ (result : Except Raised CPScaleRunOutcome) (state₁ : RunState)
      (history₁ : List RunEvent), RunInvariant c state₁ history₁ →
      (executeSession c target retainAuthorized).run state history = (result, state₁, history₁) →
      (do
        let interruption ← settleExecution result
        note .finalizing
        let errors ← finalizeSession c interruption
        settleFinalization c errors
        presentTerminal c
        let state ← get
        return fromReport state.terminal.outcome state : Run CPScaleLiveFinalResult).Ensures
        state₁ history₁ (fun _ => Finalized c history none)
        (fun raised => Finalized c history (some raised)) := by
    intro result state₁ history₁ hI₁ hrun
    rw [hrun] at hexecuted hsettled
    simp only at hexecuted hsettled
    rw [ensures_bind]
    refine (settleExecution_ensures result hI₁).mono ?_ fun _ _ _ h => h.elim
    rintro interruption state₂ history₂ ⟨rfl, rfl, hI₂⟩
    rw [ensures_bind, ensures_note, ensures_bind]
    have hI₃ : RunInvariant c state₂ (history₂ ++ [.finalizing]) := by
      have hfinalizing : Clerical .finalizing := trivial
      have hkept : Kept (state₂, history₂) (state₂, history₂ ++ [.finalizing]) :=
        Grows.of_event hfinalizing
      exact RunInvariant.of_kept hkept hI₂
    rw [hexecuted] at hI₃ ⊢
    have hfinalize := finalizeSession_ensures (inFlight result) hI₃
    have hafter : ∀ errors, Keeps Kept (do
        settleFinalization c errors
        presentTerminal c
        let state ← get
        return fromReport state.terminal.outcome state) := fun errors =>
      Grows.frame.bind (kept_settleFinalization errors) fun _ =>
        Grows.frame.bind kept_presentTerminal fun _ =>
          Grows.frame.bind Grows.frame.get fun _ => Grows.frame.pure _
    cases hflight : inFlight result with
    | none =>
      rw [hflight] at hfinalize
      have hcalm : ∀ interruption, result = .error interruption →
          interruption.interrupts = true → False := by
        intro interruption hresult hinterrupts
        simp [inFlight, hresult, hinterrupts] at hflight
      refine hfinalize.mono (fun errors state₄ history₄ hclosed => ?_) fun _ _ _ hclosed => ?_
      · refine ((hafter errors).ensures state₄ history₄).mono ?_ ?_
        · exact fun _ _ _ hgrows => ⟨executed, result, hsettled,
            fun _ hresult hinterrupts => (hcalm _ hresult hinterrupts).elim,
            Closed.of_kept hgrows hclosed⟩
        · exact fun _ _ _ hgrows => ⟨executed, result, hsettled,
            fun _ hresult hinterrupts => (hcalm _ hresult hinterrupts).elim,
            Closed.of_kept hgrows hclosed⟩
      · exact ⟨executed, result, hsettled,
          fun _ hresult hinterrupts => (hcalm _ hresult hinterrupts).elim, hclosed⟩
    | some interruption =>
      rw [hflight] at hfinalize
      refine (hfinalize.and (finalizeSession_raises interruption)).mono ?_ ?_
      · exact fun _ _ _ h => h.2.elim
      · rintro raised _ _ ⟨hclosed, rfl⟩
        refine ⟨executed, result, hsettled, fun interruption hresult hinterrupts => ?_, hclosed⟩
        simpa [inFlight, hresult, hinterrupts] using hflight.symm
  unfold runSession
  rw [ensures_bind, ensures_attempt]
  refine ((executeSession_ensures target retainAuthorized hI hcomposition).and ensures_run).mono
    ?_ ?_
  · exact fun outcome state₁ history₁ h => hrest (.ok outcome) state₁ history₁ h.1 h.2
  · exact fun raised state₁ history₁ h => hrest (.error raised) state₁ history₁ h.1 h.2

end Session

/-! ## Whole runs -/

/-- The run acquired a baseline that its policy accepted, and a composition. -/
def Acquired (history : List RunEvent) : Prop :=
  .judged (.ok "") ∈ history ∧ ∃ composition, .composed (.ok composition) ∈ history

/-- The events after the `finally` began. -/
def finalization : List RunEvent → List RunEvent
  | [] => []
  | .finalizing :: events => events
  | _ :: events => finalization events

/-- Nothing after the `finally` began raised an interruption. -/
def FinalizationCalm (history : List RunEvent) : Prop :=
  Calm RunEvent.raised Raised.interrupts (finalization history)

lemma mem_finalization (before : List RunEvent) {after : List RunEvent} {event : RunEvent}
    (h : event ∈ after) : event ∈ finalization (before ++ .finalizing :: after) := by
  induction before with
  | nil => exact h
  | cons first before ih =>
    cases first with
    | finalizing => exact List.mem_append_right _ (List.mem_cons_of_mem _ h)
    | _ => exact ih

/-- The workspace is restored, and then the session is closed, once. -/
def RestoredThenClosed (history : List RunEvent) : Prop :=
  history.countP RunEvent.isClosed = 1 ∧
    ∃ before owned middle answer after,
      history = before ++ .restoring owned :: (middle ++ .closed answer :: after)

/-- What a run that raised `raised` at the end owes its workspace. -/
structure Obliged (raised : Option Raised) (history : List RunEvent) : Prop where
  once : history.countP RunEvent.isRestoring ≤ 1
  restores : FinalizationCalm history → Acquired history → RestoredThenClosed history
  raises : FinalizationCalm history → ∀ event ∈ history, ∀ interruption,
    event.raised = some interruption → interruption.interrupts = true → raised = some interruption

section Runs

variable {c : Collaborators} {state : RunState} {history : List RunEvent} {α : Type}
  {outcome : Except Raised α}

lemma Settled.eq_of_interrupts {added : List RunEvent}
    (h : Settled RunEvent.raised Raised.interrupts added outcome) {event : RunEvent}
    (hevent : event ∈ added) {interruption : Raised} (hraised : event.raised = some interruption)
    (hinterrupts : interruption.interrupts = true) : outcome = .error interruption := by
  cases h with
  | calm hcalm _ => simp [hcalm event hevent interruption hraised] at hinterrupts
  | @interrupted before last e hcalm hlast he =>
    rcases List.mem_concat_iff.mp hevent with hevent | hevent
    · simp [hcalm event hevent interruption hraised] at hinterrupts
    · rw [hevent, hlast] at hraised
      rw [Option.some.inj hraised]

/-- A history in which the session was closed keeps its obligations. -/
lemma Finalized.obliged {raised : Option Raised} {history' : List RunEvent}
    (hcalm : Calm RunEvent.raised Raised.interrupts history)
    (h : Finalized c history raised state history') : Obliged raised history' := by
  obtain ⟨executed, result, hsettled, hresult, before, answer, after, rfl, hprepared, hclerical⟩ := h
  obtain ⟨added, rfl, hattempted⟩ := hprepared.attempted
  have hI := hprepared.invariant
  have hquiet : after.countP RunEvent.isRestoring = 0 ∧ after.countP RunEvent.isClosed = 0 :=
    ⟨List.countP_eq_zero.mpr fun event hevent => by simp [(hclerical event hevent).quiet.1],
      List.countP_eq_zero.mpr fun event hevent => by simp [(hclerical event hevent).quiet.2.1]⟩
  have hshape : history ++ executed ++ [.finalizing] ++ added ++ .closed answer :: after =
      history ++ executed ++ .finalizing :: (added ++ .closed answer :: after) := by simp
  refine ⟨?_, fun hfinal hacquired => ?_, fun hfinal event hevent interruption hraised hinter => ?_⟩
  · rw [List.countP_append, List.countP_cons, hquiet.1, hI.restored]
    cases state.terminal.cleanupAttempted with
    | true | false => simp [RunEvent.isRestoring]
  · rw [hshape] at hfinal
    have hcalm' := fun event hevent => hfinal event (mem_finalization _ hevent)
    obtain ⟨-, composition, hcomposed⟩ := hacquired
    rw [List.mem_append] at hcomposed
    have hmem : .composed (.ok composition) ∈ history ++ executed ++ [.finalizing] ++ added := by
      refine hcomposed.resolve_right fun hmem => ?_
      rcases List.mem_cons.mp hmem with hmem | hmem
      · cases hmem
      · exact (hclerical _ hmem).quiet.2.2.2.2 _ rfl
    have htrue : state.terminal.cleanupAttempted = true := by
      refine (hattempted (hI.composed composition hmem)).resolve_right fun hnot => hnot ?_
      exact fun event hevent => hcalm' event (List.mem_append_left _ hevent)
    have hrestored := hI.restored
    rw [htrue, if_pos rfl] at hrestored
    obtain ⟨event, hevent, hrestoring⟩ := List.countP_pos_iff.mp (hrestored ▸ Nat.one_pos)
    obtain ⟨first, second, hsplit⟩ := List.append_of_mem hevent
    refine ⟨?_, first, ?_⟩
    · have hclosed := hI.unclosed
      rw [List.any_eq_false] at hclosed
      rw [List.countP_append, List.countP_cons, hquiet.2,
        List.countP_eq_zero.mpr fun event hevent => by simpa using hclosed event hevent]
      rfl
    · cases event with
      | restoring owned => exact ⟨owned, second, answer, after, by rw [hsplit]; simp⟩
      | _ => cases hrestoring
  · rw [hshape] at hfinal hevent
    have hcalm' := fun event hevent => hfinal event (mem_finalization _ hevent)
    rcases List.mem_append.mp hevent with hevent | hevent
    · rcases List.mem_append.mp hevent with hevent | hevent
      · simp [hcalm event hevent interruption hraised] at hinter
      · exact hresult interruption (Settled.eq_of_interrupts hsettled hevent hraised hinter) hinter
    · rcases List.mem_cons.mp hevent with rfl | hevent
      · cases hraised
      · simp [hcalm' event hevent interruption hraised] at hinter

lemma Settled.obliged (hclerical : ∀ event ∈ history, Clerical event)
    (hsettled : Settled RunEvent.raised Raised.interrupts history outcome) :
    Obliged (raisedOf outcome) history := by
  refine ⟨?_, fun _ hacquired => ?_, fun _ event hevent interruption hraised hinterrupts => ?_⟩
  · rw [List.countP_eq_zero.mpr fun event hevent => by simp [(hclerical event hevent).quiet.1]]
    exact Nat.zero_le 1
  · obtain ⟨-, composition, hcomposed⟩ := hacquired
    exact ((hclerical _ hcomposed).quiet.2.2.2.2 _ rfl).elim
  · rw [Settled.eq_of_interrupts hsettled hevent hraised hinterrupts]
    rfl

/-- What the books leave after a calm opening. -/
lemma Booked.opening {x : Run α} (h : Booked x) (hclerical : ∀ event ∈ history, Clerical event)
    (hcalm : Calm RunEvent.raised Raised.interrupts history) :
    x.Ensures state history (fun _ _ history' => Obliged none history')
      (fun raised _ history' => Obliged (some raised) history') := by
  obtain ⟨added, hadded, hsettled⟩ := h.prompt state history
  obtain ⟨added', hadded', hclerical'⟩ := (h.books state history).grown
  simp only at hadded'
  have hmem : ∀ event ∈ history ++ added, Clerical event := by
    intro event hevent
    rw [← hadded, hadded'] at hevent
    rcases List.mem_append.mp hevent with hevent | hevent
    · exact hclerical event hevent
    · exact hclerical' event hevent
  refine ensures_run.mono ?_ ?_
  · intro a state' history' hrun
    rw [hrun] at hadded hsettled
    rw [show history' = history ++ added from hadded]
    exact Settled.obliged hmem (hsettled.append hcalm)
  · intro raised state' history' hrun
    rw [hrun] at hadded hsettled
    rw [show history' = history ++ added from hadded]
    exact Settled.obliged hmem (hsettled.append hcalm)

lemma booked_recordRefusal (written : Except Raised Unit) : Booked (recordRefusal c written) := by
  cases written with
  | ok _ => exact (Plainly.pure ()).booked
  | error raised =>
    refine Booked.bind ((booked_reportErrors _).caught.bind fun outcome => ?_) fun errors => ?_
    · cases outcome with
      | ok _ | error raised => exact (Plainly.pure _).booked
    · exact booked_updateTerminal fun _ => rfl

lemma booked_refuseRun (hardStop : String) : Booked (refuseRun c hardStop) := by
  refine (booked_updateTerminal ?_).bind fun _ => ?_
  · exact fun _ => rfl
  refine plainly_writeProgress.booked.caught.bind fun written => ?_
  refine (booked_recordRefusal written).bind fun _ => ?_
  exact Plainly.get.booked.bind fun _ => (Plainly.pure _).booked

/-- Calls that answered. -/
def answered (ports : List Port) : List RunEvent := ports.map (.called · none)

/-- The calls before the session of a run. -/
def opening : List RunEvent := answered [.clock, .inspect, .sessionFactory]

lemma clerical_answered (ports : List Port) : ∀ event ∈ answered ports, Clerical event := by
  intro event hevent
  obtain ⟨port, -, rfl⟩ := List.mem_map.mp hevent
  trivial

lemma calm_answered (ports : List Port) :
    Calm RunEvent.raised Raised.interrupts (answered ports) := by
  intro event hevent interruption hraised
  obtain ⟨port, -, rfl⟩ := List.mem_map.mp hevent
  cases hraised

lemma sessionInvariant_opening : SessionInvariant c {} opening := by
  refine ⟨?_, ⟨rfl, rfl, rfl, rfl⟩, fun h => by simp at h, ?_, ?_⟩
  · intro event hevent
    obtain ⟨port, -, rfl⟩ := List.mem_map.mp hevent
    trivial
  · intro composition hmem
    simp [opening, answered] at hmem
  · intro created deployment hmem
    simp [opening, answered] at hmem

/-- A run raises before its session, refuses its preflight, or runs its session. -/
lemma run_ensures (request : CPScaleLiveRequest)
    {Q : CPScaleLiveFinalResult → RunState → List RunEvent → Prop}
    {E : Raised → RunState → List RunEvent → Prop}
    (hraised : ∀ ports port raised, E raised {} (answered ports ++ [.called port (some raised)]))
    (hrefused : ∀ hardStop,
      (refuseRun c hardStop).Ensures {} (answered [.clock, .inspect]) Q E)
    (hsession : ∀ preflight, c.inspect (answered [.clock]) = .ok preflight →
      preflight.hardStop = "" →
      (runSession c preflight.target request.retainOnFullVerification).Ensures {} opening Q E) :
    (run c request).Ensures {} [] Q E := by
  unfold run
  rw [ensures_bind]
  refine ensures_call (fun _ _ => ?_) fun raised _ => hraised [] .clock raised
  rw [ensures_bind]
  refine ensures_call (fun preflight hpreflight => ?_) fun raised _ => ?_
  · refine ensures_ite (fun _ => hrefused _) fun hadmitted => ?_
    rw [ensures_bind]
    refine ensures_call (fun _ _ => ?_) fun raised _ => ?_
    · exact hsession preflight hpreflight (not_not.mp hadmitted)
    · exact hraised [.clock, .inspect] .sessionFactory raised
  · exact hraised [.clock] .inspect raised

lemma run_obliged (request : CPScaleLiveRequest) :
    (run c request).Ensures {} [] (fun _ _ history => Obliged none history)
      (fun raised _ history => Obliged (some raised) history) := by
  refine run_ensures request (fun ports port raised => ?_) (fun hardStop => ?_)
    fun preflight _ _ => ?_
  · have hask := (plainly_ask port (fun _ => (.error raised : Except Raised Unit))).booked
    have hopening := @Booked.opening {} _ _ _ hask (clerical_answered ports)
      (calm_answered ports)
    exact hopening.of_run_eq_error rfl
  · exact (booked_refuseRun _).opening (clerical_answered _) (calm_answered _)
  · refine (runSession_ensures _ _ sessionInvariant_opening rfl).mono ?_ ?_
    · exact fun _ _ _ h => h.obliged (calm_answered _)
    · exact fun _ _ _ h => h.obliged (calm_answered _)

end Runs

/-- **A run restores its workspace at most once; unless its `finally` is interrupted, it restores
every workspace that it composed for and then closes its session, and it raises the interruption
that ended it.** -/
theorem run_restores_once (c : Collaborators) (request : CPScaleLiveRequest)
    {result : Except Raised CPScaleLiveFinalResult} {state : RunState} {history : List RunEvent}
    (hrun : (run c request).run {} [] = (result, state, history)) :
    history.countP RunEvent.isRestoring ≤ 1 ∧
      (FinalizationCalm history →
        (Acquired history → RestoredThenClosed history) ∧
        ∀ event ∈ history, ∀ interruption, event.raised = some interruption →
          interruption.interrupts = true → result = .error interruption) := by
  have hobliged : Obliged (raisedOf result) history := by
    cases result with
    | ok value => exact (run_obliged request).of_run_eq_ok hrun
    | error raised => exact (run_obliged request).of_run_eq_error hrun
  refine ⟨hobliged.once, fun hcalm => ⟨hobliged.restores hcalm, ?_⟩⟩
  intro event hevent interruption hraised hinterrupts
  have heq := hobliged.raises hcalm event hevent interruption hraised hinterrupts
  cases result with
  | ok value => cases heq
  | error raised => rw [Option.some.inj heq]

/-! ## A laboratory that answers -/

/-- The device of the laboratory. -/
def routerPlan : Plans.DevicePlan :=
  { id := "r0", name := "Router0", model := "2811", category := "router" }

/-- A projection of a stage without devices. -/
def idleProjection (stage : CPScaleCanonicalStage) : CPScaleCanonicalStageProjection where
  stage := stage
  topology := {}
  configuration := { id := "configuration", sourceTopologyHash := "topology" }
  controlPlane :=
    { id := "control", sourceTopologyHash := "topology", sourceConfigurationId := "configuration",
      sourceConfigurationHash := "configuration" }
  voice := none

/-- A transition between two stages that changes nothing. -/
def idleTransition : CPScaleCanonicalStageTransition where
  previousStage := .floor3
  currentStage := .router0Branch
  previousPhysicalTopologyHash := "topology"
  currentPhysicalTopologyHash := "topology"
  newDeviceIds := []
  anchorDeviceIds := []
  newLinkIds := []
  configurationMutationIds := []
  configurationRetainedIds := []
  controlPlaneMutationIds := []
  controlPlaneRetainedIds := []
  voiceMutationIds := []
  voiceRetainedIds := []
  replayedConfigurationIds := []
  replayedControlPlaneIds := []
  replayedVoiceIds := []

/-- A deployment that created the device. -/
def routerDeployment : PhysicalDeploymentResult where
  topologyId := "topology"
  physicalTopologyHash := "topology"
  deploymentId := "cp-scale-canonical/routing-core"
  environmentFingerprint := {}
  status := .verified
  itemResults := [{ targetId := "r0", targetKind := .device, status := .observed }]
  executionJournal := { planId := "topology" }

/-- The result of a stage with the given outcome. -/
def stageResult (stage : CPScaleCanonicalStage) (outcome : String) : CPScaleLiveStageResult where
  stage := stage
  outcome := outcome
  projection := idleProjection stage
  controlPlane := some
    { controlPlanePlanId := "control", controlPlaneSemanticHash := "",
      sourceTopologyHash := "topology", sourceConfigurationHash := "configuration",
      status := .verified }
  replayAudit := some { stage := stage.value, surfaces := [{ surface := "voice" }] }

/-- An archive of the evidence. -/
def evidenceArchive : CPScaleEvidenceArchive where
  runIdentity := "run"
  phase := "phase"
  path := "evidence.json"
  sha256 := "digest"

/-- Collaborators that answer everything, with the given deployments and executor. -/
def laboratory (target : CPScaleCanonicalTarget)
    (deploy : List RunEvent → List String × Except Raised PhysicalDeploymentResult)
    (execute : Answer CPScaleLiveStageResult) : Collaborators where
  casefold := id
  clock := fun _ => .ok ()
  inspect := fun _ => .ok
    { target := canonicalCpScaleTargetContract target, outcome := .admitted
      identity := some { sourceHead := "head" } }
  sessionFactory := fun _ => .ok ()
  physical := true
  start := fun _ => .ok true
  status := fun _ => .ok ()
  pollingFailure := fun _ => .ok ""
  observeWorkspace := fun _ => .ok {}
  baselinePolicy := fun _ => .ok ""
  observationsFactory := fun _ => .ok ()
  compose := fun _ => .ok { topology := some { devices := [routerPlan] } }
  validateComposition := fun _ => .ok ()
  requirements := fun _ => .ok []
  discoveryFactory := fun _ => .ok ()
  probe := fun _ => .ok { model := "2811" }
  restorationError := fun _ => .ok ""
  unresolved := fun _ => .ok []
  statisticsProjection := fun _ => .ok ()
  dhcpTarget := fun _ => .ok ()
  deployerFactory := fun _ => .ok ()
  acquireRuntimes := fun _ => .ok ()
  stageFactory := fun _ => .ok ()
  projection := fun _ => .ok (idleProjection .routingCore)
  activate := fun _ => .ok ()
  resume := fun _ => .ok {}
  beforeDelta := fun _ => .ok { kind := "boundary", status := "observed" }
  delta := fun _ => .ok {}
  transition := fun _ => .ok idleTransition
  terminalTransitionError := fun _ => .ok ""
  cumulative := fun _ => .ok routerDeployment
  deploy := deploy
  requireDelta := fun _ => .ok ()
  requireCumulative := fun _ => .ok ()
  execute := execute
  dhcpBaseline := fun _ => .ok { kind := "dhcp", status := "observed" }
  coreRematerialized := fun _ => .ok ()
  prepareCheckpoint := fun _ => .ok ()
  publishAndPrompt := fun _ => .ok .continue_
  resumeCheckpoint := fun _ => .ok ""
  publishResumed := fun _ => .ok ()
  fullAdmission := fun _ => .ok ""
  finalEvidence := fun _ => .ok ""
  boundedEvidence := fun _ => .ok true
  completionClock := fun _ => .ok ()
  writeProgress := fun _ => .ok ()
  persistCheckpoint := fun _ => .ok ()
  archive := fun _ => .ok evidenceArchive
  removeDevice := fun _ => .ok { targetId := "r0", targetKind := .device, applied := true }
  cleanupRealtime := fun _ => .ok { verified := true }
  close := fun _ => .ok ()
  finalizationIncomplete := fun _ => .ok ()
  terminalPresentation := fun _ => .ok ()

/-- The interruption of an operator. -/
def keyboardInterrupt : Raised := .interruption "KeyboardInterrupt" ""

/-- A laboratory whose first deployment is interrupted after the device was created. -/
def interruptedLaboratory : Collaborators :=
  laboratory .router0Branch (fun _ => (["r0"], .error keyboardInterrupt))
    fun _ => .ok (stageResult .routingCore "verified")

/-- The run of the interrupted laboratory. -/
def interruptedRun : Except Raised CPScaleLiveFinalResult × RunState × List RunEvent :=
  (run interruptedLaboratory { retainOnFullVerification := false }).run {} []

/-- An accepted baseline. -/
def RunEvent.isAccepted : RunEvent → Bool
  | .judged (.ok error) => error = ""
  | _ => false

/-- A composition that was answered. -/
def RunEvent.isComposed : RunEvent → Bool
  | .composed (.ok _) => true
  | _ => false

lemma acquired_of_any {history : List RunEvent} (hjudged : history.any RunEvent.isAccepted = true)
    (hcomposed : history.any RunEvent.isComposed = true) : Acquired history := by
  obtain ⟨judged, hmem, hjudged⟩ := List.any_eq_true.mp hjudged
  obtain ⟨composed, hmem', hcomposed⟩ := List.any_eq_true.mp hcomposed
  constructor
  · cases judged with
    | judged answer =>
      cases answer with
      | ok error =>
        have herror : error = "" := by simpa [RunEvent.isAccepted] using hjudged
        exact herror ▸ hmem
      | error _ => cases hjudged
    | _ => cases hjudged
  · cases composed with
    | composed answer =>
      cases answer with
      | ok composition => exact ⟨composition, hmem'⟩
      | error _ => cases hcomposed
    | _ => cases hcomposed

/-- The run that is interrupted restores its workspace, closes its session and raises the
interruption. -/
theorem run_restores_once_interrupted :
    RestoredThenClosed interruptedRun.2.2 ∧ interruptedRun.1 = .error keyboardInterrupt := by
  have hcalm : FinalizationCalm interruptedRun.2.2 := Calm.of_all (by decide +kernel)
  have hjudged : interruptedRun.2.2.any RunEvent.isAccepted = true := by decide +kernel
  have hcomposed : interruptedRun.2.2.any RunEvent.isComposed = true := by decide +kernel
  have hraised : interruptedRun.2.2.any (·.raised = some keyboardInterrupt) = true := by
    decide +kernel
  rcases hrun : interruptedRun with ⟨result, state, history⟩
  rw [hrun] at hcalm hjudged hcomposed hraised
  obtain ⟨event, hevent, hraised⟩ := List.any_eq_true.mp hraised
  obtain ⟨-, hfinal⟩ := run_restores_once interruptedLaboratory _ hrun
  refine ⟨(hfinal hcalm).1 (acquired_of_any hjudged hcomposed), ?_⟩
  exact (hfinal hcalm).2 event hevent keyboardInterrupt (of_decide_eq_true hraised) rfl

/-- Every device that a deployment may have created was passed to `remove_device`. -/
def CreatedRemoved (history : List RunEvent) : Prop :=
  ∀ created answer, .deployed created answer ∈ history → ∀ id ∈ created,
    ∃ device removal, device.id = id ∧ .removed device removal ∈ history

/-- Every deployment returned, and lists what it may have created as attempted. -/
def DeploymentsReturn (history : List RunEvent) : Prop :=
  ∀ created answer, .deployed created answer ∈ history →
    ∃ deployment, answer = .ok deployment ∧ ∀ id ∈ created, id ∈ attemptedDeviceIds deployment

/-- What a deployment may have created belongs to the composition of the run. -/
def DeploymentsNamed (state : RunState) (history : List RunEvent) : Prop :=
  ∀ created answer, .deployed created answer ∈ history → ∀ id ∈ created,
    ∃ device ∈ state.devices, device.id = id

/-- What holds of a run whatever happened in it: it owns what was returned, and a restoration
removes what it owns. -/
structure Owning (state : RunState) (history : List RunEvent) : Prop where
  owns : Owns state history
  removes : Removes state history

section Runs

variable {c : Collaborators} {state : RunState} {history : List RunEvent}

/-- Events that neither deploy nor restore nor remove change nothing. -/
lemma Owning.append (h : Owning state history) {after : List RunEvent}
    (hafter : ∀ event ∈ after, event.isRestoring = false ∧
      (∀ device answer, event ≠ .removed device answer) ∧
      ∀ created answer, event ≠ .deployed created answer) : Owning state (history ++ after) := by
  refine ⟨?_, ?_⟩
  · intro created deployment hmem
    rw [List.mem_append] at hmem
    exact h.owns created deployment (hmem.resolve_right fun hmem => (hafter _ hmem).2.2 _ _ rfl)
  · intro hany hreturn device hdevice hid
    have hrestoring : after.any RunEvent.isRestoring = false := by
      rw [List.any_eq_false]
      exact fun event hevent => by simp [(hafter event hevent).1]
    rw [List.any_append, hrestoring, Bool.or_false] at hany
    have hreturn' : RemovalsReturn history := fun device raised hmem =>
      hreturn device raised (List.mem_append_left _ hmem)
    obtain ⟨mutation, hmem⟩ := h.removes hany hreturn' device hdevice hid
    exact ⟨mutation, List.mem_append_left _ hmem⟩

lemma Owning.of_clerical (h : ∀ event ∈ history, Clerical event) : Owning state history := by
  have hnil : Owning state [] :=
    ⟨fun _ _ hmem => by simp at hmem, fun hany => by simp at hany⟩
  have happend := hnil.append fun event hevent =>
    have hquiet := (h event hevent).quiet
    ⟨hquiet.1, hquiet.2.2.1, hquiet.2.2.2.1⟩
  rwa [List.nil_append] at happend

lemma Closed.owning {history' : List RunEvent} (h : Closed c history state history') :
    Owning state history' := by
  obtain ⟨before, answer, after, rfl, hprepared, hclerical⟩ := h
  refine Owning.append ⟨hprepared.invariant.owns, hprepared.invariant.removes⟩ fun event hevent => ?_
  rcases List.mem_cons.mp hevent with rfl | hevent
  · exact ⟨rfl, (fun _ _ h => nomatch h), fun _ _ h => nomatch h⟩
  · have hquiet := (hclerical event hevent).quiet
    exact ⟨hquiet.1, hquiet.2.2.1, hquiet.2.2.2.1⟩

lemma Booked.owning {α : Type} {x : Run α} (h : Booked x)
    (hclerical : ∀ event ∈ history, Clerical event) :
    x.Ensures state history (fun _ state' history' => Owning state' history')
      (fun _ state' history' => Owning state' history') := by
  refine (h.books.ensures state history).mono ?_ ?_
  · rintro _ state' history' ⟨-, added, hadded, hadded'⟩
    refine Owning.of_clerical fun event hevent => ?_
    rw [show history' = history ++ added from hadded, List.mem_append] at hevent
    exact hevent.elim (hclerical event) (hadded' event)
  · rintro _ state' history' ⟨-, added, hadded, hadded'⟩
    refine Owning.of_clerical fun event hevent => ?_
    rw [show history' = history ++ added from hadded, List.mem_append] at hevent
    exact hevent.elim (hclerical event) (hadded' event)

lemma run_owning (request : CPScaleLiveRequest) :
    (run c request).Ensures {} [] (fun _ state history => Owning state history)
      (fun _ state history => Owning state history) := by
  refine run_ensures request (fun ports port raised => ?_) (fun hardStop => ?_)
    fun preflight _ _ => ?_
  · refine Owning.of_clerical fun event hevent => ?_
    rcases List.mem_concat_iff.mp hevent with hevent | hevent
    · exact clerical_answered ports event hevent
    · rw [hevent]
      trivial
  · exact (booked_refuseRun _).owning (clerical_answered _)
  · refine (runSession_ensures _ _ sessionInvariant_opening rfl).mono ?_ ?_
    · rintro _ _ _ ⟨_, _, -, -, hclosed⟩
      exact hclosed.owning
    · rintro _ _ _ ⟨_, _, -, -, hclosed⟩
      exact hclosed.owning

end Runs

/-- **When every deployment returned what it may have created, no removal raised and the cleanup
ran, every device that a deployment may have created was passed to `remove_device`.** -/
theorem created_devices_removed (c : Collaborators) (request : CPScaleLiveRequest)
    {result : Except Raised CPScaleLiveFinalResult} {state : RunState} {history : List RunEvent}
    (hrun : (run c request).run {} [] = (result, state, history))
    (hreturn : DeploymentsReturn history) (hnamed : DeploymentsNamed state history)
    (hremovals : RemovalsReturn history) (hrestored : history.any RunEvent.isRestoring = true) :
    CreatedRemoved history := by
  have howning : Owning state history := by
    cases result with
    | ok value => exact (run_owning request).of_run_eq_ok hrun
    | error raised => exact (run_owning request).of_run_eq_error hrun
  intro created answer hdeployed id hid
  obtain ⟨deployment, rfl, hattempted⟩ := hreturn created answer hdeployed
  obtain ⟨device, hdevice, rfl⟩ := hnamed created _ hdeployed id hid
  have howned := howning.owns created deployment hdeployed device.id (hattempted _ hid)
  obtain ⟨mutation, hmem⟩ := howning.removes hrestored hremovals device hdevice howned
  exact ⟨device, .ok mutation, rfl, hmem⟩

/-! ## A deployment that returns, and one that is interrupted -/

/-- A laboratory whose first stage fails after its deployment returned. -/
def failedLaboratory : Collaborators :=
  laboratory .router0Branch (fun _ => (["r0"], .ok routerDeployment))
    fun _ => .ok (stageResult .routingCore "failed")

/-- The run of the failed laboratory. -/
def failedRun : Except Raised CPScaleLiveFinalResult × RunState × List RunEvent :=
  (run failedLaboratory { retainOnFullVerification := false }).run {} []

/-- A deployment returned, with every identifier attempted and named. -/
def RunEvent.accounted (state : RunState) : RunEvent → Bool
  | .deployed created (.ok deployment) =>
    created.all fun id => id ∈ attemptedDeviceIds deployment && state.devices.any (·.id = id)
  | .deployed _ (.error _) => false
  | _ => true

/-- A removal that raised. -/
def RunEvent.removalRaised : RunEvent → Bool
  | .removed _ (.error _) => true
  | _ => false

/-- The accounts of a run are decided event by event. -/
lemma accounted_of_all {state : RunState} {history : List RunEvent}
    (h : history.all (RunEvent.accounted state) = true) :
    DeploymentsReturn history ∧ DeploymentsNamed state history := by
  have hdeployed : ∀ created answer, .deployed created answer ∈ history →
      ∃ deployment, answer = .ok deployment ∧ ∀ id ∈ created,
        id ∈ attemptedDeviceIds deployment ∧ ∃ device ∈ state.devices, device.id = id := by
    intro created answer hmem
    have haccounted := List.all_eq_true.mp h _ hmem
    rcases answer with raised | deployment
    · cases haccounted
    refine ⟨deployment, rfl, fun id hid => ?_⟩
    have hid' := List.all_eq_true.mp haccounted id hid
    simpa using hid'
  constructor
  · intro created answer hmem
    obtain ⟨deployment, rfl, hall⟩ := hdeployed created answer hmem
    exact ⟨deployment, rfl, fun id hid => (hall id hid).1⟩
  · intro created answer hmem id hid
    obtain ⟨deployment, -, hall⟩ := hdeployed created answer hmem
    exact (hall id hid).2

/-- The run that fails removes the device it created. -/
theorem created_devices_removed_failed : CreatedRemoved failedRun.2.2 := by
  have haccounted : failedRun.2.2.all (RunEvent.accounted failedRun.2.1) = true := by
    decide +kernel
  have hremovals : failedRun.2.2.any RunEvent.removalRaised = false := by decide +kernel
  have hrestored : failedRun.2.2.any RunEvent.isRestoring = true := by decide +kernel
  rcases hrun : failedRun with ⟨result, state, history⟩
  rw [hrun] at haccounted hremovals hrestored
  obtain ⟨hreturn, hnamed⟩ := accounted_of_all haccounted
  refine created_devices_removed failedLaboratory _ hrun hreturn hnamed ?_ hrestored
  intro device raised hmem
  have hraised := List.any_eq_false.mp hremovals _ hmem
  exact hraised rfl

/-- A deployment that may have created a device. -/
def RunEvent.creates (id : String) : RunEvent → Bool
  | .deployed created _ => id ∈ created
  | _ => false

/-- **A run that is interrupted in a deployment cleans up without the device it created.** -/
theorem interrupted_deployment_not_removed :
    interruptedRun.2.2.any RunEvent.isRestoring = true ∧ ¬ CreatedRemoved interruptedRun.2.2 := by
  refine ⟨by decide +kernel, ?_⟩
  have hcreates : interruptedRun.2.2.any (RunEvent.creates "r0") = true := by decide +kernel
  have hremoval : interruptedRun.2.2.any RunEvent.isRemoval = false := by decide +kernel
  generalize interruptedRun.2.2 = history at hcreates hremoval ⊢
  intro hall
  obtain ⟨event, hevent, hcreates⟩ := List.any_eq_true.mp hcreates
  cases event with
  | deployed created answer =>
    have hid : "r0" ∈ created := by simpa [RunEvent.creates] using hcreates
    obtain ⟨device, removal, -, hmem⟩ := hall created answer hevent "r0" hid
    exact List.any_eq_false.mp hremoval _ hmem rfl
  | _ => cases hcreates

end LiveRun
end PacketTracer
