import PacketTracer.Domain.Execution

/-!
# When a verdict hides residue

The final state of a journal is composed from the residue of the entries before the recorded
verdict, the residue of the entries after it, a floor that only rises and a transport flag.  The
residue of a list of entries is not monotone in the list: an entry of unknown disposition turns
`dirtyUnrecoverable` into the weaker `unknown`, and a failure and a mutation only make residue
together.  This file determines when the composition loses residue.

* `dirtyState_le_recordScenarioRestore_iff`: from any journal a run reaches, exactly when a
  scenario restore does not lower the severity;
* `appliedDirtyState_le_dirtyState_iff`: for any run without a successful cleanup, exactly when
  every state of the run is at least as severe as what its whole entry list establishes.
-/

namespace PacketTracer

/-! ## The residue of a list of entries -/

/-- Some entry has unknown disposition. -/
def doubted (entries : List ExecutionJournalEntry) : Bool :=
  entries.any fun item => item.disposition = .unknown

/-- Some entry failed. -/
def hasFailure (entries : List ExecutionJournalEntry) : Bool :=
  entries.any fun item => item.disposition = .failed

/-- Some entry is a mutation. -/
def hasMutation (entries : List ExecutionJournalEntry) : Bool :=
  entries.any ExecutionJournalEntry.isMutation

/-- Some entry is a mutation without an inverse. -/
def hasIrreversible (entries : List ExecutionJournalEntry) : Bool :=
  entries.any fun item => item.isMutation && !item.inverseAvailable

@[simp] lemma doubted_append (l m : List ExecutionJournalEntry) :
    doubted (l ++ m) = (doubted l || doubted m) := List.any_append

@[simp] lemma hasFailure_append (l m : List ExecutionJournalEntry) :
    hasFailure (l ++ m) = (hasFailure l || hasFailure m) := List.any_append

@[simp] lemma hasMutation_append (l m : List ExecutionJournalEntry) :
    hasMutation (l ++ m) = (hasMutation l || hasMutation m) := List.any_append

@[simp] lemma hasIrreversible_append (l m : List ExecutionJournalEntry) :
    hasIrreversible (l ++ m) = (hasIrreversible l || hasIrreversible m) := List.any_append

variable {l : List ExecutionJournalEntry} {a : DirtyState}

lemma hasMutation_of_hasIrreversible (h : hasIrreversible l = true) : hasMutation l = true := by
  obtain ⟨item, hitem, hmut⟩ := List.any_eq_true.mp h
  exact List.any_eq_true.mpr ⟨item, hitem, (Bool.and_eq_true_iff.mp hmut).1⟩

/-- The residue of a list only depends on the four facts above. -/
lemma deriveDirtyState_eq (l : List ExecutionJournalEntry) :
    deriveDirtyState l =
      if doubted l then .unknown
      else if hasFailure l = false then .clean
      else if hasIrreversible l then .dirtyUnrecoverable
      else if hasMutation l then .dirtyRecoverable
      else .clean := by
  have hmut : l.filter ExecutionJournalEntry.isMutation = [] ↔ hasMutation l = false := by
    rw [List.filter_eq_nil_iff, hasMutation, List.any_eq_false]
  have hinv : (l.filter ExecutionJournalEntry.isMutation).all
      ExecutionJournalEntry.inverseAvailable = !hasIrreversible l := by
    simp [hasIrreversible, List.all_eq_not_any_not]
  unfold deriveDirtyState
  by_cases hl : l = []
  · subst hl
    rfl
  simp only [hl, if_false, hmut, hinv]
  change (if doubted l then _ else if hasFailure l = false then _ else _) = _
  cases hirr : hasIrreversible l with
  | true => simp [hasMutation_of_hasIrreversible hirr]
  | false => cases hasMutation l <;> simp

lemma deriveDirtyState_of_doubted (h : doubted l = true) : deriveDirtyState l = .unknown := by
  simp [deriveDirtyState_eq, h]

/-- Without doubt, a list is unrecoverable exactly when it holds a failure and an irreversible
mutation. -/
lemma deriveDirtyState_eq_unrecoverable_iff :
    deriveDirtyState l = .dirtyUnrecoverable ↔
      doubted l = false ∧ hasFailure l = true ∧ hasIrreversible l = true := by
  rw [deriveDirtyState_eq]
  cases doubted l <;> cases hasFailure l <;> cases hasIrreversible l <;> cases hasMutation l <;>
    simp

lemma deriveDirtyState_eq_clean_iff :
    deriveDirtyState l = .clean ↔
      doubted l = false ∧ ¬(hasFailure l = true ∧ hasMutation l = true) := by
  have hmut := @hasMutation_of_hasIrreversible l
  rw [deriveDirtyState_eq]
  revert hmut
  generalize doubted l = a, hasFailure l = b, hasMutation l = c, hasIrreversible l = d
  revert a b c d
  decide

/-! ## The order of residues -/

lemma DirtyState.le_dirtyUnrecoverable (a : DirtyState) : a ≤ .dirtyUnrecoverable := by
  cases a <;> decide

lemma DirtyState.clean_le (a : DirtyState) : .clean ≤ a := by
  cases a <;> decide

lemma DirtyState.le_unknown_of_ne (h : a ≠ .dirtyUnrecoverable) : a ≤ .unknown := by
  cases a <;> first | decide | exact absurd rfl h

lemma DirtyState.eq_dirtyUnrecoverable_of_le (h : .dirtyUnrecoverable ≤ a) :
    a = .dirtyUnrecoverable := le_antisymm a.le_dirtyUnrecoverable h

lemma DirtyState.dirtyRecoverable_le_of_ne (h : a ≠ .clean) : .dirtyRecoverable ≤ a := by
  cases a <;> first | decide | exact absurd rfl h

lemma DirtyState.max_eq_dirtyUnrecoverable_iff {b : DirtyState} :
    max a b = .dirtyUnrecoverable ↔ a = .dirtyUnrecoverable ∨ b = .dirtyUnrecoverable := by
  cases a <;> cases b <;> decide

/-- A part of a list is at most as severe as the list, unless the list is in doubt and the part
is unrecoverable. -/
lemma deriveDirtyState_le_append_or {m : List ExecutionJournalEntry} {part : DirtyState}
    (hpart : part = deriveDirtyState l ∨ part = deriveDirtyState m) :
    part ≤ deriveDirtyState (l ++ m) ∨
      (part = .dirtyUnrecoverable ∧ doubted (l ++ m) = true) := by
  have hl := @hasMutation_of_hasIrreversible l
  have hm := @hasMutation_of_hasIrreversible m
  rcases hpart with rfl | rfl
  all_goals
    simp only [deriveDirtyState_eq, doubted_append, hasFailure_append, hasMutation_append,
      hasIrreversible_append]
    revert hl hm
    generalize doubted l = a, doubted m = b, hasFailure l = c, hasFailure m = d,
      hasMutation l = e, hasMutation m = f, hasIrreversible l = g, hasIrreversible m = h
    revert a b c d e f g h
    decide

/-! ## What every run of the journal keeps -/

namespace ApplicationExecutionJournal

/-- What every run keeps: the stored state is the composed one, a failed or unknown verdict is
backed by the floor, the floor is never `dirtyRecoverable`, and the verdict covers a prefix of the
entries, all of them while there is no verdict. -/
structure Invariant (journal : ApplicationExecutionJournal) : Prop where
  /-- The stored state is the composed one. -/
  dirtyState_eq : journal.dirtyState = journal.recomposedState
  /-- A failed verdict has raised the floor to the top. -/
  floor_of_failed : journal.cleanupStatus = .failed → journal.residueFloor = .dirtyUnrecoverable
  /-- An unknown verdict has raised the floor at least to `unknown`. -/
  floor_of_unknown : journal.cleanupStatus = .unknown → .unknown ≤ journal.residueFloor
  /-- Only verdicts raise the floor, and none raises it to `dirtyRecoverable`. -/
  floor_ne : journal.residueFloor ≠ .dirtyRecoverable
  /-- Without a verdict nothing was ever cleaned. -/
  status_of_neg : journal.cleanupOrdinal < 0 → journal.cleanupStatus = .notAttempted
  /-- The verdict covers entries that exist. -/
  ordinal_le : journal.cleanupOrdinal ≤ journal.entries.length

/-- The journal of an application that has not started. -/
def fresh (planId deploymentId : String) : ApplicationExecutionJournal :=
  { planId := planId, deploymentId := deploymentId }

lemma invariant_fresh (planId deploymentId : String) : (fresh planId deploymentId).Invariant where
  dirtyState_eq := rfl
  floor_of_failed := by simp [fresh]
  floor_of_unknown := by simp [fresh]
  floor_ne := by simp [fresh]
  status_of_neg := fun _ => rfl
  ordinal_le := by simp [fresh]

lemma covered_append_uncovered (journal : ApplicationExecutionJournal) :
    journal.covered ++ journal.uncovered = journal.entries := by
  unfold covered uncovered
  split <;> simp

lemma max_verdictFloor_ne {floor : DirtyState} (h : floor ≠ .dirtyRecoverable)
    (status : CompensationStatus) : max floor (verdictFloor status) ≠ .dirtyRecoverable := by
  revert h
  cases floor <;> cases status <;> decide

variable {journal next : ApplicationExecutionJournal} {status : CompensationStatus}

/-- Recording a verdict establishes the invariant, whatever the flag says about inverses. -/
lemma Invariant.recordVerdict (h : journal.Invariant) (status : CompensationStatus)
    (undid : Bool) :
    ({ journal with cleanupStatus := status, cleanupUndidMutations := undid }.recordVerdict
      status).Invariant where
  dirtyState_eq := rfl
  floor_of_failed := by
    rintro (rfl : status = .failed)
    exact DirtyState.max_eq_dirtyUnrecoverable_iff.mpr (Or.inr rfl)
  floor_of_unknown := by
    rintro (rfl : status = .unknown)
    exact le_max_right _ _
  floor_ne := max_verdictFloor_ne h.floor_ne status
  status_of_neg := fun hneg => absurd hneg (by simp [ApplicationExecutionJournal.recordVerdict,
    recompose])
  ordinal_le := by simp [ApplicationExecutionJournal.recordVerdict, recompose]

lemma append_eq_ok {entry : ExecutionJournalEntry} :
    journal.append entry = .ok next ↔
      entry.ordinal = journal.entries.length + 1 ∧
        next = { journal with entries := journal.entries ++ [entry] }.recompose := by
  simp only [append]
  split_ifs with h <;> simp_all [eq_comm]

variable {operation : JournalOperation}

lemma Invariant.step (h : journal.Invariant)
    (hstep : journalMachine.step journal operation = .ok next) : next.Invariant := by
  cases operation with
  | append entry =>
    obtain ⟨-, rfl⟩ := append_eq_ok.mp hstep
    refine ⟨rfl, h.floor_of_failed, h.floor_of_unknown, h.floor_ne, h.status_of_neg, ?_⟩
    have := h.ordinal_le
    simp only [recompose, List.length_append, List.length_singleton]
    omega
  | markPreflightFailure message | markTransportUnknown message =>
    cases hstep
    exact ⟨rfl, h.floor_of_failed, h.floor_of_unknown, h.floor_ne, h.status_of_neg, h.ordinal_le⟩
  | markCleanup status =>
    cases hstep
    exact h.recordVerdict status true
  | recordScenarioRestore status =>
    cases hstep
    exact h.recordVerdict status false

/-- Every run from a fresh journal keeps the invariant. -/
theorem invariant_of_run {planId deploymentId : String} {operations : List JournalOperation}
    (hrun : journalMachine.run (fresh planId deploymentId) operations = .ok journal) :
    journal.Invariant :=
  journalMachine.invariant_of_run hrun (invariant_fresh planId deploymentId)
    fun _ _ _ _ hu hstep => hu.step hstep

lemma coveredState_eq_of_ne (hfailed : journal.cleanupStatus ≠ .failed)
    (hunknown : journal.cleanupStatus ≠ .unknown)
    (hclean : ¬(journal.cleanupStatus = .succeeded ∧ journal.cleanupUndidMutations = true)) :
    journal.coveredState = deriveDirtyState journal.covered := by
  unfold coveredState
  cases hstatus : journal.cleanupStatus <;> simp_all

/-- The covered state is an override that the floor backs, a cleaned state, or the residue of the
covered entries. -/
lemma Invariant.coveredState_cases (h : journal.Invariant) :
    journal.coveredState ≤ journal.residueFloor ∨ journal.coveredState = .clean ∨
      journal.coveredState = deriveDirtyState journal.covered := by
  cases hstatus : journal.cleanupStatus with
  | failed =>
    left
    rw [h.floor_of_failed hstatus]
    exact DirtyState.le_dirtyUnrecoverable _
  | unknown =>
    left
    have : journal.coveredState = .unknown := by simp [coveredState, hstatus]
    rw [this]
    exact h.floor_of_unknown hstatus
  | succeeded =>
    right
    simp only [coveredState, hstatus]
    split_ifs <;> simp
  | notAvailable | available | notAttempted =>
    exact Or.inr (Or.inr (coveredState_eq_of_ne (by simp [hstatus]) (by simp [hstatus])
      (by simp [hstatus])))

/-! ## Scenario restores -/

/-- The restore loses residue: the state is unrecoverable, no verdict has fixed that in the floor,
and the new composition reads the entries as merely unknown, either because the restore itself is
unknown or because some entry is in doubt. -/
def RestoreHidesResidue (journal : ApplicationExecutionJournal) (status : CompensationStatus) :
    Prop :=
  journal.dirtyState = .dirtyUnrecoverable ∧ journal.residueFloor ≠ .dirtyUnrecoverable ∧
    status ≠ .failed ∧ (status = .unknown ∨ doubted journal.entries = true)

instance (journal : ApplicationExecutionJournal) (status : CompensationStatus) :
    Decidable (journal.RestoreHidesResidue status) :=
  inferInstanceAs (Decidable (_ ∧ _ ∧ _ ∧ _))

lemma transportState_ne (journal : ApplicationExecutionJournal) :
    journal.transportState ≠ .dirtyUnrecoverable := by
  unfold transportState
  split <;> simp

/-- A verdict that is not a successful cleanup leaves either the residue of the whole list, or the
residue it proves by itself. -/
lemma recordVerdict_dirtyState (status : CompensationStatus) (undid : Bool)
    (hclean : ¬(status = .succeeded ∧ undid = true)) :
    ({ journal with cleanupStatus := status, cleanupUndidMutations := undid }.recordVerdict
      status).dirtyState =
      max (max (if status = .failed ∨ status = .unknown then verdictFloor status
        else deriveDirtyState journal.entries)
        (max journal.residueFloor (verdictFloor status))) journal.transportState := by
  have hneg : ¬((journal.entries.length : ℤ) < 0) := by omega
  have hmax : ∀ a : DirtyState, max a .clean = a := fun a => max_eq_left a.clean_le
  simp only [recordVerdict, recompose, recomposedState, coveredState, covered, uncovered,
    transportState, hneg, if_false, Int.toNat_natCast, List.take_length, List.drop_length,
    deriveDirtyState, if_true, hmax]
  cases status <;> simp_all [verdictFloor]

lemma recordScenarioRestore_dirtyState (journal : ApplicationExecutionJournal)
    (status : CompensationStatus) :
    (journal.recordScenarioRestore status).dirtyState =
      max (max (match status with
        | .failed => .dirtyUnrecoverable
        | .unknown => .unknown
        | _ => deriveDirtyState journal.entries)
        (max journal.residueFloor (verdictFloor status))) journal.transportState := by
  refine (recordVerdict_dirtyState status false (by simp)).trans ?_
  cases status <;> simp [verdictFloor]

/-- The state is at most what the floor, the whole entry list and the transport establish, unless
it is unrecoverable while some entry is in doubt. -/
lemma Invariant.dirtyState_le_or (h : journal.Invariant) :
    journal.dirtyState ≤
        max (max (deriveDirtyState journal.entries) journal.residueFloor) journal.transportState ∨
      (journal.dirtyState = .dirtyUnrecoverable ∧ doubted journal.entries = true) := by
  have hside : ∀ part, part = deriveDirtyState journal.covered ∨
      part = deriveDirtyState journal.uncovered → part ≤ deriveDirtyState journal.entries ∨
        (part = .dirtyUnrecoverable ∧ doubted journal.entries = true) := by
    intro part hpart
    rw [← journal.covered_append_uncovered]
    exact deriveDirtyState_le_append_or hpart
  have hentries : deriveDirtyState journal.entries ≤
      max (deriveDirtyState journal.entries) journal.residueFloor := le_max_left _ _
  have hcovered : journal.coveredState ≤
      max (deriveDirtyState journal.entries) journal.residueFloor ∨
        (journal.coveredState = .dirtyUnrecoverable ∧ doubted journal.entries = true) := by
    rcases h.coveredState_cases with hle | hclean | heq
    · exact Or.inl (hle.trans (le_max_right _ _))
    · exact Or.inl (hclean ▸ DirtyState.clean_le _)
    · exact (hside _ (Or.inl heq)).imp_left fun hle => hle.trans hentries
  rw [h.dirtyState_eq, recomposedState]
  rcases hcovered with hcovered | ⟨hunrec, hdoubt⟩
  · rcases hside _ (Or.inr rfl) with huncovered | ⟨hunrec, hdoubt⟩
    · exact Or.inl (max_le_max (max_le (max_le hcovered (le_max_right _ _))
        (huncovered.trans hentries)) le_rfl)
    · exact Or.inr ⟨by simp only [DirtyState.max_eq_dirtyUnrecoverable_iff, hunrec,
        or_true, true_or], hdoubt⟩
  · exact Or.inr ⟨by simp only [DirtyState.max_eq_dirtyUnrecoverable_iff, hunrec, true_or], hdoubt⟩

/-- A restore that hides no residue does not lower the severity. -/
lemma Invariant.le_recordScenarioRestore (h : journal.Invariant)
    (hkeep : ¬journal.RestoreHidesResidue status) :
    journal.dirtyState ≤ (journal.recordScenarioRestore status).dirtyState := by
  rw [recordScenarioRestore_dirtyState]
  by_cases hfailed : status = .failed
  · subst hfailed
    exact (DirtyState.le_dirtyUnrecoverable _).trans
      ((le_max_left _ _).trans (le_max_left _ _))
  by_cases hfloor : journal.residueFloor = .dirtyUnrecoverable
  · refine (DirtyState.le_dirtyUnrecoverable _).trans ?_
    rw [← hfloor]
    exact (le_max_left _ _).trans ((le_max_right _ _).trans (le_max_left _ _))
  by_cases hdirty : journal.dirtyState = .dirtyUnrecoverable
  · -- No doubt anywhere: the whole list is at least as severe as each side.
    have hclear : status ≠ .unknown ∧ doubted journal.entries ≠ true := by
      rw [← not_or]
      exact fun hor => hkeep ⟨hdirty, hfloor, hfailed, hor⟩
    rcases h.dirtyState_le_or with hle | ⟨-, hdoubt⟩
    · refine hle.trans (max_le_max (max_le_max ?_ (le_max_left _ _)) le_rfl)
      cases status <;> first | exact le_rfl | exact absurd rfl hfailed | exact absurd rfl hclear.1
    · exact absurd hdoubt hclear.2
  · by_cases hunknown : status = .unknown
    · subst hunknown
      exact (DirtyState.le_unknown_of_ne hdirty).trans
        ((le_max_left _ _).trans (le_max_left _ _))
    · rcases h.dirtyState_le_or with hle | ⟨hunrec, -⟩
      · refine hle.trans (max_le_max (max_le_max ?_ (le_max_left _ _)) le_rfl)
        cases status <;> first | exact le_rfl | exact absurd rfl hfailed | exact absurd rfl hunknown
      · exact absurd hunrec hdirty

lemma recordScenarioRestore_ne_of_hidesResidue (hhide : journal.RestoreHidesResidue status) :
    (journal.recordScenarioRestore status).dirtyState ≠ .dirtyUnrecoverable := by
  obtain ⟨-, hfloor, hfailed, hor⟩ := hhide
  have hverdict : verdictFloor status ≠ .dirtyUnrecoverable := by
    cases status <;> first | exact absurd rfl hfailed | simp [verdictFloor]
  simp only [recordScenarioRestore_dirtyState, ne_eq, DirtyState.max_eq_dirtyUnrecoverable_iff,
    journal.transportState_ne, hverdict, hfloor, or_false]
  rcases hor with rfl | hdoubt
  · simp
  · rw [deriveDirtyState_of_doubted hdoubt]
    cases status <;> first | exact absurd rfl hfailed | simp

/-- From every journal that a run of its operations reaches, a scenario restore does not lower the
severity of the final state exactly when it hides no residue. -/
theorem dirtyState_le_recordScenarioRestore_iff (planId deploymentId : String)
    (operations : List JournalOperation) (journal : ApplicationExecutionJournal)
    (hrun : journalMachine.run (fresh planId deploymentId) operations = .ok journal)
    (status : CompensationStatus) :
    journal.dirtyState ≤ (journal.recordScenarioRestore status).dirtyState ↔
      ¬journal.RestoreHidesResidue status := by
  have h := invariant_of_run hrun
  constructor
  · intro hle hhide
    exact recordScenarioRestore_ne_of_hidesResidue hhide
      (DirtyState.eq_dirtyUnrecoverable_of_le (hhide.1 ▸ hle))
  · exact h.le_recordScenarioRestore

/-- An entry of a fresh journal with the given disposition and no inverse. -/
def plainEntry (ordinal : ℤ) (actionId : String) (disposition : MutationDisposition) :
    ExecutionJournalEntry :=
  { ordinal := ordinal, actionId := actionId, operation := .setValue, disposition := disposition }

/-- A mutation followed by a failed one: residue that nothing can undo. -/
def unrecoverableRun : List JournalOperation :=
  [.append (plainEntry 1 "vlan" .changed), .append (plainEntry 2 "trunk" .failed)]

/-- After a mutation and a failure no restore that failed lowers the severity. -/
theorem dirtyState_le_recordScenarioRestore_unrecoverableRun :
    ∃ journal, journalMachine.run (fresh "plan" "") unrecoverableRun = .ok journal ∧
      (journal.dirtyState ≤ (journal.recordScenarioRestore .failed).dirtyState ↔
        ¬journal.RestoreHidesResidue .failed) :=
  ⟨_, rfl, dirtyState_le_recordScenarioRestore_iff "plan" "" unrecoverableRun _ rfl .failed⟩

/-- A scenario restore of unknown outcome lowers the severity from unrecoverable to unknown. -/
theorem not_forall_le_recordScenarioRestore :
    ¬∀ (planId deploymentId : String) (operations : List JournalOperation)
      (journal : ApplicationExecutionJournal),
      journalMachine.run (fresh planId deploymentId) operations = .ok journal →
        ∀ status, journal.dirtyState ≤ (journal.recordScenarioRestore status).dirtyState := by
  intro hall
  exact absurd (hall "plan" "" unrecoverableRun _ rfl .unknown) (by decide)

/-! ## Histories without a successful cleanup -/

/-- Appending `entry` completes residue across the recorded verdict: with no doubt anywhere, the
whole list holds a failure and a mutation, but neither side of the verdict holds both, and neither
the floor nor the transport flag makes up for it.  The first disjunct is about mutations without an
inverse, the second about all mutations. -/
def SplitsResidue (journal : ApplicationExecutionJournal) (entry : ExecutionJournalEntry) : Prop :=
  let before := journal.covered
  let after := journal.uncovered ++ [entry]
  0 ≤ journal.cleanupOrdinal ∧ doubted (before ++ after) = false ∧
    hasFailure (before ++ after) = true ∧
    ((hasIrreversible (before ++ after) = true ∧ journal.residueFloor ≠ .dirtyUnrecoverable ∧
        ¬(hasFailure before = true ∧ hasIrreversible before = true) ∧
        ¬(hasFailure after = true ∧ hasIrreversible after = true)) ∨
      (hasMutation (before ++ after) = true ∧ journal.residueFloor = .clean ∧
        journal.transportUnknown = false ∧
        ¬(hasFailure before = true ∧ hasMutation before = true) ∧
        ¬(hasFailure after = true ∧ hasMutation after = true)))

/-- The verdict overrides residue: it is unknown while the entries establish unrecoverable residue
that is not in the floor. -/
def OverridesResidue (journal : ApplicationExecutionJournal) (status : CompensationStatus) : Prop :=
  status = .unknown ∧ deriveDirtyState journal.entries = .dirtyUnrecoverable ∧
    journal.residueFloor ≠ .dirtyUnrecoverable

/-- The operation keeps the residue of the whole entry list in the final state. -/
def KeepsAppliedResidue (journal : ApplicationExecutionJournal) : JournalOperation → Prop
  | .append entry => ¬journal.SplitsResidue entry
  | .markPreflightFailure _ | .markTransportUnknown _ => True
  | .markCleanup status | .recordScenarioRestore status => ¬journal.OverridesResidue status

/-- No compensation has cleaned anything. -/
def NeverCleaned (journal : ApplicationExecutionJournal) : Prop :=
  ¬(journal.cleanupStatus = .succeeded ∧ journal.cleanupUndidMutations = true)

/-- The final state is at least as severe as the whole entry list. -/
def ShowsAppliedResidue (journal : ApplicationExecutionJournal) : Prop :=
  journal.appliedDirtyState ≤ journal.dirtyState

instance (journal : ApplicationExecutionJournal) : Decidable journal.ShowsAppliedResidue :=
  inferInstanceAs (Decidable (_ ≤ _))

lemma NeverCleaned.step (h : journal.NeverCleaned) (hop : operation ≠ .markCleanup .succeeded)
    (hstep : journalMachine.step journal operation = .ok next) : next.NeverCleaned := by
  cases operation with
  | append entry =>
    obtain ⟨-, rfl⟩ := append_eq_ok.mp hstep
    exact h
  | markPreflightFailure message | markTransportUnknown message =>
    cases hstep
    exact h
  | markCleanup status =>
    cases hstep
    rintro ⟨rfl : status = .succeeded, -⟩
    exact hop rfl
  | recordScenarioRestore status =>
    cases hstep
    rintro ⟨-, hundid : false = true⟩
    cases hundid

/-- A verdict that is not a successful cleanup keeps the applied residue exactly when it does not
override it. -/
lemma showsAppliedResidue_recordVerdict_iff {undid : Bool}
    (hclean : ¬(status = .succeeded ∧ undid = true)) :
    ({ journal with cleanupStatus := status, cleanupUndidMutations := undid }.recordVerdict
      status).ShowsAppliedResidue ↔ ¬journal.OverridesResidue status := by
  have hentries : ({ journal with cleanupStatus := status, cleanupUndidMutations := undid
      }.recordVerdict status).appliedDirtyState = deriveDirtyState journal.entries := rfl
  have htransport := journal.transportState_ne
  rw [ShowsAppliedResidue, hentries, recordVerdict_dirtyState status undid hclean, OverridesResidue]
  generalize deriveDirtyState journal.entries = derived at *
  generalize journal.residueFloor = floor at *
  generalize journal.transportState = transport at *
  clear hentries hclean
  cases status <;> revert derived floor transport <;> decide

/-- The composed state with the given entries after the verdict. -/
def stateWith (journal : ApplicationExecutionJournal) (after : List ExecutionJournalEntry) :
    DirtyState :=
  max (max (max journal.coveredState journal.residueFloor) (deriveDirtyState after))
    journal.transportState

lemma append_recomposedState (h : journal.Invariant) (hord : 0 ≤ journal.cleanupOrdinal)
    (entry : ExecutionJournalEntry) :
    ({ journal with entries := journal.entries ++ [entry] } :
        ApplicationExecutionJournal).recomposedState =
      journal.stateWith (journal.uncovered ++ [entry]) := by
  have hneg : ¬journal.cleanupOrdinal < 0 := by omega
  have hle : journal.cleanupOrdinal.toNat ≤ journal.entries.length := by
    have := h.ordinal_le
    omega
  simp only [recomposedState, stateWith, coveredState, covered, uncovered, transportState, hneg,
    if_false, List.take_append_of_le_length hle, List.drop_append_of_le_length hle]

lemma Invariant.of_coveredState_unrecoverable (h : journal.Invariant)
    (hstate : journal.coveredState = .dirtyUnrecoverable) :
    journal.residueFloor = .dirtyUnrecoverable ∨
      deriveDirtyState journal.covered = .dirtyUnrecoverable := by
  rcases h.coveredState_cases with hle | hclean | heq
  · exact Or.inl (DirtyState.eq_dirtyUnrecoverable_of_le (hstate ▸ hle))
  · simp [hclean] at hstate
  · exact Or.inr (heq ▸ hstate)

/-- Without a successful cleanup, residue of the covered entries shows in the covered state or is
overridden by an unknown verdict. -/
lemma NeverCleaned.covered_le_or (hnever : journal.NeverCleaned) :
    deriveDirtyState journal.covered ≤ journal.coveredState ∨ journal.coveredState = .unknown := by
  by_cases hfailed : journal.cleanupStatus = .failed
  · have : journal.coveredState = .dirtyUnrecoverable := by simp [coveredState, hfailed]
    exact Or.inl (this ▸ DirtyState.le_dirtyUnrecoverable _)
  · by_cases hunknown : journal.cleanupStatus = .unknown
    · exact Or.inr (by simp [coveredState, hunknown])
    · exact Or.inl (coveredState_eq_of_ne hfailed hunknown hnever).ge

section Append

variable {journal : ApplicationExecutionJournal} {entry : ExecutionJournalEntry}

/-- An append that splits residue hides it. -/
lemma Invariant.not_le_of_splitsResidue (h : journal.Invariant)
    (hsplit : journal.SplitsResidue entry) :
    ¬deriveDirtyState (journal.entries ++ [entry]) ≤ journal.stateWith (journal.uncovered ++ [entry]) := by
  obtain ⟨-, hclear, hfail, hside⟩ := hsplit
  have hlist : journal.entries ++ [entry] = journal.covered ++ (journal.uncovered ++ [entry]) := by
    rw [← List.append_assoc, covered_append_uncovered]
  rw [hlist]
  intro hle
  rcases hside with ⟨hirr, hfloor, hbefore, hafter⟩ | ⟨hmut, hfloor, htransport, hbefore, hafter⟩
  · have hwhole := deriveDirtyState_eq_unrecoverable_iff.mpr ⟨hclear, hfail, hirr⟩
    rw [hwhole] at hle
    have hmax := DirtyState.eq_dirtyUnrecoverable_of_le hle
    simp only [stateWith, DirtyState.max_eq_dirtyUnrecoverable_iff, hfloor,
      journal.transportState_ne, or_false] at hmax
    rcases hmax with hstate | hlate
    · rcases h.of_coveredState_unrecoverable hstate with hunrec | hunrec
      · exact hfloor hunrec
      · exact hbefore (deriveDirtyState_eq_unrecoverable_iff.mp hunrec).2
    · exact hafter (deriveDirtyState_eq_unrecoverable_iff.mp hlate).2
  · rw [doubted_append, Bool.or_eq_false_iff] at hclear
    have hearly : deriveDirtyState journal.covered = .clean :=
      deriveDirtyState_eq_clean_iff.mpr ⟨hclear.1, hbefore⟩
    have hlate : deriveDirtyState (journal.uncovered ++ [entry]) = .clean :=
      deriveDirtyState_eq_clean_iff.mpr ⟨hclear.2, hafter⟩
    have hstate : journal.coveredState = .clean := by
      rcases h.coveredState_cases with hle' | hclean | heq
      · exact le_antisymm (hfloor ▸ hle') (DirtyState.clean_le _)
      · exact hclean
      · exact heq.trans hearly
    have hbound : deriveDirtyState (journal.covered ++ (journal.uncovered ++ [entry])) = .clean := by
      refine le_antisymm (hle.trans ?_) (DirtyState.clean_le _)
      simp [stateWith, hstate, hfloor, hlate, transportState, htransport]
    exact (deriveDirtyState_eq_clean_iff.mp hbound).2 ⟨hfail, hmut⟩

/-- Unrecoverable residue before the verdict shows after an append that leaves nothing in doubt,
when it showed before the append: an unknown verdict that overrides it was not the last word. -/
lemma NeverCleaned.unrecoverable_le_of_covered (hnever : journal.NeverCleaned)
    (hshows : deriveDirtyState journal.entries ≤ journal.stateWith journal.uncovered)
    (hclear : doubted (journal.uncovered ++ [entry]) = false)
    (hcovered : deriveDirtyState journal.covered = .dirtyUnrecoverable) :
    .dirtyUnrecoverable ≤ journal.stateWith (journal.uncovered ++ [entry]) := by
  refine (DirtyState.max_eq_dirtyUnrecoverable_iff.mpr (Or.inl
    (DirtyState.max_eq_dirtyUnrecoverable_iff.mpr ?_))).ge
  rw [DirtyState.max_eq_dirtyUnrecoverable_iff]
  rcases hnever.covered_le_or with hle | hunknown
  · exact Or.inl (Or.inl (DirtyState.eq_dirtyUnrecoverable_of_le (hcovered ▸ hle)))
  obtain ⟨hdoubt, hfail, hirr⟩ := deriveDirtyState_eq_unrecoverable_iff.mp hcovered
  rw [doubted_append, Bool.or_eq_false_iff] at hclear
  have hwhole : deriveDirtyState journal.entries = .dirtyUnrecoverable := by
    rw [← journal.covered_append_uncovered, deriveDirtyState_eq_unrecoverable_iff]
    simp [hdoubt, hfail, hirr, hclear.1]
  have hmax := DirtyState.eq_dirtyUnrecoverable_of_le (hwhole ▸ hshows)
  simp only [stateWith, DirtyState.max_eq_dirtyUnrecoverable_iff, hunknown,
    journal.transportState_ne, or_false, reduceCtorEq, false_or] at hmax
  rcases hmax with hfloor | hlate
  · exact Or.inl (Or.inr hfloor)
  · refine Or.inr ?_
    obtain ⟨-, hfail', hirr'⟩ := deriveDirtyState_eq_unrecoverable_iff.mp hlate
    rw [deriveDirtyState_eq_unrecoverable_iff]
    simp [hfail', hirr', hclear]

/-- An append that splits no residue keeps what the whole list establishes, when the state before
did. -/
lemma NeverCleaned.le_of_not_splitsResidue (hnever : journal.NeverCleaned)
    (hshows : deriveDirtyState journal.entries ≤ journal.stateWith journal.uncovered)
    (hord : 0 ≤ journal.cleanupOrdinal) (hkeep : ¬journal.SplitsResidue entry) :
    deriveDirtyState (journal.entries ++ [entry]) ≤ journal.stateWith (journal.uncovered ++ [entry]) := by
  have hlist : journal.entries ++ [entry] = journal.covered ++ (journal.uncovered ++ [entry]) := by
    rw [← List.append_assoc, covered_append_uncovered]
  set before := journal.covered with hbefore
  set after := journal.uncovered ++ [entry] with hafter
  set bound := journal.stateWith after
  have hstate : journal.coveredState ≤ bound :=
    (le_max_left _ _).trans ((le_max_left _ _).trans (le_max_left _ _))
  have hfloor : journal.residueFloor ≤ bound :=
    (le_max_right _ _).trans ((le_max_left _ _).trans (le_max_left _ _))
  have hlate : deriveDirtyState after ≤ bound := (le_max_right _ _).trans (le_max_left _ _)
  have htransport : journal.transportState ≤ bound := le_max_right _ _
  have hearly : deriveDirtyState before ≤ bound ∨ DirtyState.unknown ≤ bound :=
    hnever.covered_le_or.imp (fun hle => hle.trans hstate) fun heq => heq.symm.le.trans hstate
  rw [hlist]
  cases hdoubt : doubted (before ++ after) with
  | true =>
    -- The doubted entry lies on one side, and that side shows it.
    rw [deriveDirtyState_of_doubted hdoubt]
    rw [doubted_append, Bool.or_eq_true_iff] at hdoubt
    rcases hdoubt with hb | ha
    · exact hearly.elim (fun hle => deriveDirtyState_of_doubted hb ▸ hle) id
    · exact deriveDirtyState_of_doubted ha ▸ hlate
  | false =>
    rcases hfail : hasFailure (before ++ after) with _ | _
    · have : deriveDirtyState (before ++ after) = .clean :=
        deriveDirtyState_eq_clean_iff.mpr ⟨hdoubt, by simp [hfail]⟩
      exact this ▸ DirtyState.clean_le _
    have hor := not_or.mp fun hside => hkeep ⟨hord, hdoubt, hfail, hside⟩
    have hclear := Bool.or_eq_false_iff.mp ((doubted_append before after).symm.trans hdoubt)
    cases hirr : hasIrreversible (before ++ after) with
    | true =>
      refine (DirtyState.le_dirtyUnrecoverable _).trans ?_
      by_cases hb : hasFailure before = true ∧ hasIrreversible before = true
      · exact hnever.unrecoverable_le_of_covered hshows hclear.2
          (deriveDirtyState_eq_unrecoverable_iff.mpr ⟨hclear.1, hb⟩)
      by_cases ha : hasFailure after = true ∧ hasIrreversible after = true
      · exact (deriveDirtyState_eq_unrecoverable_iff.mpr ⟨hclear.2, ha⟩).ge.trans hlate
      · have : journal.residueFloor = .dirtyUnrecoverable := by
          by_contra hne
          exact hor.1 ⟨hirr, hne, hb, ha⟩
        exact this.ge.trans hfloor
    | false =>
      rcases hmut : hasMutation (before ++ after) with _ | _
      · have : deriveDirtyState (before ++ after) = .clean :=
          deriveDirtyState_eq_clean_iff.mpr ⟨hdoubt, by simp [hmut]⟩
        exact this ▸ DirtyState.clean_le _
      have hrecoverable : deriveDirtyState (before ++ after) = .dirtyRecoverable := by
        simp [deriveDirtyState_eq, hclear, hfail, hirr, hmut]
      rw [hrecoverable]
      by_cases hb : hasFailure before = true ∧ hasMutation before = true
      · have hne : deriveDirtyState before ≠ .clean :=
          fun heq => (deriveDirtyState_eq_clean_iff.mp heq).2 hb
        exact hearly.elim (fun hle => (DirtyState.dirtyRecoverable_le_of_ne hne).trans hle)
          fun hle => le_trans (by decide) hle
      by_cases ha : hasFailure after = true ∧ hasMutation after = true
      · have hne : deriveDirtyState after ≠ .clean :=
          fun heq => (deriveDirtyState_eq_clean_iff.mp heq).2 ha
        exact (DirtyState.dirtyRecoverable_le_of_ne hne).trans hlate
      by_cases hclean : journal.residueFloor = .clean
      · have htrue : journal.transportUnknown = true := by
          by_contra hne
          exact hor.2 ⟨hmut, hclean, Bool.eq_false_iff.mpr hne, hb, ha⟩
        refine le_trans ?_ htransport
        simp only [transportState, htrue, if_true]
        decide
      · exact (DirtyState.dirtyRecoverable_le_of_ne hclean).trans hfloor

end Append

/-- One operation keeps the applied residue in the final state exactly when it meets the guard. -/
lemma Invariant.showsAppliedResidue_step_iff
    (h : journal.Invariant) (hnever : journal.NeverCleaned) (hshows : journal.ShowsAppliedResidue) (hop : operation ≠ .markCleanup .succeeded)
    (hstep : journalMachine.step journal operation = .ok next) :
    next.ShowsAppliedResidue ↔ journal.KeepsAppliedResidue operation := by
  rw [ShowsAppliedResidue, h.dirtyState_eq] at hshows
  cases operation with
  | append entry =>
    obtain ⟨-, rfl⟩ := append_eq_ok.mp hstep
    change deriveDirtyState (journal.entries ++ [entry]) ≤
      ({ journal with entries := journal.entries ++ [entry] } :
        ApplicationExecutionJournal).recomposedState ↔ ¬journal.SplitsResidue entry
    by_cases hord : 0 ≤ journal.cleanupOrdinal
    · rw [append_recomposedState h hord]
      exact ⟨fun hle hsplit => h.not_le_of_splitsResidue hsplit hle,
        hnever.le_of_not_splitsResidue hshows hord⟩
    · -- Without a verdict the whole list is covered.
      have hneg : journal.cleanupOrdinal < 0 := by omega
      refine ⟨fun _ hsplit => hord hsplit.1, fun _ => ?_⟩
      refine le_trans ?_ ((le_max_left _ _).trans ((le_max_left _ _).trans (le_max_left _ _)))
      simp [coveredState, covered, hneg, h.status_of_neg hneg]
  | markPreflightFailure message =>
    cases hstep
    exact iff_of_true hshows trivial
  | markTransportUnknown message =>
    cases hstep
    refine iff_of_true (hshows.trans (max_le_max le_rfl ?_)) trivial
    simp only [transportState, if_true]
    split <;> decide
  | markCleanup status =>
    cases hstep
    exact showsAppliedResidue_recordVerdict_iff fun hand => hop (hand.1 ▸ rfl)
  | recordScenarioRestore status =>
    cases hstep
    exact showsAppliedResidue_recordVerdict_iff (by simp)

/-- In every run without a successful cleanup, all states the run goes through are at least as
severe as what their whole entry list establishes exactly when every operation of the run keeps
the applied residue. -/
theorem appliedDirtyState_le_dirtyState_iff (planId deploymentId : String)
    (operations : List JournalOperation) (hclean : .markCleanup .succeeded ∉ operations) :
    (∀ done journal, done <+: operations →
        journalMachine.run (fresh planId deploymentId) done = .ok journal →
          journal.appliedDirtyState ≤ journal.dirtyState) ↔
      ∀ done operation journal next, done ++ [operation] <+: operations →
        journalMachine.run (fresh planId deploymentId) done = .ok journal →
          journalMachine.step journal operation = .ok next →
            journal.KeepsAppliedResidue operation := by
  refine journalMachine.forall_prefix_iff_forall_step
    (I := fun journal => journal.Invariant ∧ journal.NeverCleaned)
    (P := ShowsAppliedResidue) (G := KeepsAppliedResidue)
    ⟨invariant_fresh planId deploymentId, by simp [NeverCleaned, fresh]⟩ le_rfl ?_ ?_
  · intro operation hmem journal next hI hstep
    exact ⟨hI.1.step hstep, hI.2.step (fun heq => hclean (heq ▸ hmem)) hstep⟩
  · intro operation hmem journal next hI hP hstep
    exact hI.1.showsAppliedResidue_step_iff hI.2 hP (fun heq => hclean (heq ▸ hmem)) hstep

/-- A mutation and a failure without any verdict: every state of the run shows their residue. -/
theorem appliedDirtyState_le_dirtyState_unrecoverableRun :
    (∀ done journal, done <+: unrecoverableRun →
        journalMachine.run (fresh "plan" "") done = .ok journal →
          journal.appliedDirtyState ≤ journal.dirtyState) ↔
      ∀ done operation journal next, done ++ [operation] <+: unrecoverableRun →
        journalMachine.run (fresh "plan" "") done = .ok journal →
          journalMachine.step journal operation = .ok next →
            journal.KeepsAppliedResidue operation :=
  appliedDirtyState_le_dirtyState_iff "plan" "" unrecoverableRun (by decide)

/-- A mutation, a successful scenario restore, then a failure: the verdict splits the residue. -/
def splitRun : List JournalOperation :=
  [.append (plainEntry 1 "vlan" .changed), .recordScenarioRestore .succeeded,
    .append (plainEntry 2 "trunk" .failed)]

/-- A verdict between a mutation and a failure hides the residue they make together. -/
theorem not_forall_appliedDirtyState_le :
    ¬∀ (planId deploymentId : String) (operations : List JournalOperation)
      (journal : ApplicationExecutionJournal), .markCleanup .succeeded ∉ operations →
        journalMachine.run (fresh planId deploymentId) operations = .ok journal →
          journal.appliedDirtyState ≤ journal.dirtyState := by
  intro hall
  exact absurd (hall "plan" "" splitRun _ (by decide) rfl) (by decide)

end ApplicationExecutionJournal

end PacketTracer
