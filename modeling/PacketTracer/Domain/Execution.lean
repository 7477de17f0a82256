import PacketTracer.Library.Dict

/-!
# Action results and the execution journal

The enumerations and result records of `configuration_runtime.py` and `execution.py` that the
applicators share, and of `execution.py` the append-only journal of one application, the residue it
derives from its entries, and the composition of that residue with the verdicts of compensations and
scenario restores.  The journal is a machine whose operations are the public methods of
`ApplicationExecutionJournal`; only `append` can raise, and `journal_from_action_results` never
does.
-/

namespace PacketTracer

open Dicts Machines

/-- `OperationSemantics`: what an action does to its target. -/
inductive OperationSemantics
  | ensurePresent
  | ensureAbsent
  | setValue
  | replace
  | transition
  | executeOnce
  deriving DecidableEq

/-- `MutationDisposition`: what a mutation is known to have done. -/
inductive MutationDisposition
  | changed
  | noOp
  | reasserted
  | failed
  | blocked
  | skipped
  | unknown
  deriving DecidableEq

/-- `ActionExecutionStatus`: the status of an action, an expectation or a scenario. -/
inductive ActionExecutionStatus
  | intended
  | compiled
  | applied
  | verified
  | partial_
  | failed
  | skipped
  | unknown
  | dependencyBlocked
  | unobservable
  | noOp
  | reasserted
  deriving DecidableEq

namespace ActionExecutionStatus

def value : ActionExecutionStatus → String
  | intended => "intended"
  | compiled => "compiled"
  | applied => "applied"
  | verified => "verified"
  | partial_ => "partial"
  | failed => "failed"
  | skipped => "skipped"
  | unknown => "unknown"
  | dependencyBlocked => "dependency_blocked"
  | unobservable => "unobservable"
  | noOp => "no_op"
  | reasserted => "reasserted"

end ActionExecutionStatus

/-- `ConfigurationFailureCode`. -/
inductive ConfigurationFailureCode
  | none
  | sourceTopologyMismatch
  | targetNotFound
  | targetIdentityMismatch
  | interfaceNotFound
  | capabilityUnknown
  | capabilityUnsupported
  | applicationFailed
  | sessionFailed
  | convergenceTimeout
  | verificationFailed
  | observabilityLimitation
  | dependencyBlocked
  | sourceConfigurationMismatch
  | foundationalConfigurationMissing
  | serviceCompileError
  | serviceHostMissing
  | behavioralVerificationFailed
  | directReadbackUnobservable
  | cleanupFailed
  | voiceCompileError
  | callControlApplicationFailed
  | phoneRegistrationTimeout
  | phoneRegistrationUnobservable
  | callSetupFailed
  | callConnectTimeout
  | callTeardownFailed
  | securityCompileError
  | securityBaselineFailed
  | securityApplicationFailed
  | securityDirectReadbackFailed
  | securityEnforcementFailed
  | securityBehaviorUnobservable
  | securityCleanupFailed
  | deploymentManifestRequired
  | environmentFingerprintMismatch
  deriving DecidableEq

namespace ConfigurationFailureCode

def value : ConfigurationFailureCode → String
  | none => "none"
  | sourceTopologyMismatch => "source_topology_mismatch"
  | targetNotFound => "target_not_found"
  | targetIdentityMismatch => "target_identity_mismatch"
  | interfaceNotFound => "interface_not_found"
  | capabilityUnknown => "capability_unknown"
  | capabilityUnsupported => "capability_unsupported"
  | applicationFailed => "application_failed"
  | sessionFailed => "session_failed"
  | convergenceTimeout => "convergence_timeout"
  | verificationFailed => "verification_failed"
  | observabilityLimitation => "observability_limitation"
  | dependencyBlocked => "dependency_blocked"
  | sourceConfigurationMismatch => "source_configuration_mismatch"
  | foundationalConfigurationMissing => "foundational_configuration_missing"
  | serviceCompileError => "service_compile_error"
  | serviceHostMissing => "service_host_missing"
  | behavioralVerificationFailed => "behavioral_verification_failed"
  | directReadbackUnobservable => "direct_readback_unobservable"
  | cleanupFailed => "cleanup_failed"
  | voiceCompileError => "voice_compile_error"
  | callControlApplicationFailed => "call_control_application_failed"
  | phoneRegistrationTimeout => "phone_registration_timeout"
  | phoneRegistrationUnobservable => "phone_registration_unobservable"
  | callSetupFailed => "call_setup_failed"
  | callConnectTimeout => "call_connect_timeout"
  | callTeardownFailed => "call_teardown_failed"
  | securityCompileError => "security_compile_error"
  | securityBaselineFailed => "security_baseline_failed"
  | securityApplicationFailed => "security_application_failed"
  | securityDirectReadbackFailed => "security_direct_readback_failed"
  | securityEnforcementFailed => "security_enforcement_failed"
  | securityBehaviorUnobservable => "security_behavior_unobservable"
  | securityCleanupFailed => "security_cleanup_failed"
  | deploymentManifestRequired => "deployment_manifest_required"
  | environmentFingerprintMismatch => "environment_fingerprint_mismatch"

end ConfigurationFailureCode

/-- `RuntimeActionMutation`: the answer of a runtime to one dispatched action. -/
structure RuntimeActionMutation where
  actionId : String
  applied : Bool
  operation : OperationSemantics := .setValue
  disposition : MutationDisposition := .unknown
  message : String := ""
  failureCode : ConfigurationFailureCode := .none
  batchId : String := ""
  deriving DecidableEq

/-- `ActionApplicationResult`: what an applicator reports about one action. -/
structure ActionApplicationResult where
  actionId : String
  status : ActionExecutionStatus
  failureCode : ConfigurationFailureCode := .none
  message : String := ""
  batchId : String := ""
  operation : OperationSemantics := .setValue
  disposition : MutationDisposition := .unknown
  deriving DecidableEq

/-- `mutation_execution_status`: the status of a dispatched mutation. -/
def mutationExecutionStatus (mutation : RuntimeActionMutation) : ActionExecutionStatus :=
  if mutation.applied = false then .failed
  else
    match mutation.disposition with
    | .noOp => .noOp
    | .reasserted => .reasserted
    | _ => .applied

/-- `satisfies_apply_dependency`: the statuses a dependent action may build on. -/
def satisfiesApplyDependency : ActionExecutionStatus → Bool
  | .applied | .noOp | .reasserted | .verified => true
  | _ => false

/-- `disposition_from_status`: the disposition a status is evidence of. `applied` is not. -/
def dispositionFromStatus : ActionExecutionStatus → MutationDisposition
  | .noOp => .noOp
  | .reasserted => .reasserted
  | .failed => .failed
  | .dependencyBlocked => .blocked
  | .skipped => .skipped
  | _ => .unknown

@[simp] lemma satisfiesApplyDependency_mutationExecutionStatus (mutation : RuntimeActionMutation) :
    satisfiesApplyDependency (mutationExecutionStatus mutation) = mutation.applied := by
  unfold mutationExecutionStatus
  cases mutation.applied with
  | false => rfl
  | true => cases mutation.disposition <;> rfl

lemma mutationExecutionStatus_eq_failed_iff (mutation : RuntimeActionMutation) :
    mutationExecutionStatus mutation = .failed ↔ mutation.applied = false := by
  unfold mutationExecutionStatus
  cases mutation.applied with
  | false => simp
  | true => cases mutation.disposition <;> simp

/-- `DirtyState`: the residue an application leaves in the backend. -/
inductive DirtyState
  | clean
  | dirtyRecoverable
  | dirtyUnrecoverable
  | unknown
  deriving DecidableEq

/-- `_RESIDUE_SEVERITY`: how much a residue asserts. -/
def residueSeverity : DirtyState → ℕ
  | .clean => 0
  | .dirtyRecoverable => 1
  | .unknown => 2
  | .dirtyUnrecoverable => 3

lemma residueSeverity_injective : Function.Injective residueSeverity := by
  intro a b h
  cases a <;> cases b <;> first | rfl | cases h

/-- Residues are ordered by severity, so that `max(..., key=_RESIDUE_SEVERITY)` is `max`. -/
instance : LinearOrder DirtyState := LinearOrder.lift' residueSeverity residueSeverity_injective

instance : Fintype DirtyState where
  elems := {.clean, .dirtyRecoverable, .dirtyUnrecoverable, .unknown}
  complete := by
    intro state
    cases state <;> decide

/-- `CompensationStatus`: the outcome of a compensation or of a restore. -/
inductive CompensationStatus
  | notAvailable
  | available
  | notAttempted
  | succeeded
  | failed
  | unknown
  deriving DecidableEq

/-- `ExecutionJournalEntry`. -/
structure ExecutionJournalEntry where
  ordinal : ℤ
  actionId : String
  operation : OperationSemantics
  disposition : MutationDisposition
  batchId : String := ""
  inverseActionId : String := ""
  inverseAvailable : Bool := false
  compensationStatus : CompensationStatus := .notAvailable
  message : String := ""
  deriving DecidableEq

/-- The entries that `_derive_dirty_state` counts as mutations. -/
def ExecutionJournalEntry.isMutation (entry : ExecutionJournalEntry) : Bool :=
  entry.disposition = .changed || entry.disposition = .reasserted

/-- `_derive_dirty_state`: the residue that a list of entries establishes. -/
def deriveDirtyState (entries : List ExecutionJournalEntry) : DirtyState :=
  if entries = [] then .clean
  else if entries.any fun item => item.disposition = .unknown then .unknown
  else
    let failed := entries.any fun item => item.disposition = .failed
    let mutations := entries.filter ExecutionJournalEntry.isMutation
    if failed = false then .clean
    else if mutations = [] then .clean
    else if mutations.all ExecutionJournalEntry.inverseAvailable then .dirtyRecoverable
    else .dirtyUnrecoverable

/-- `ApplicationExecutionJournal`. -/
structure ApplicationExecutionJournal where
  planId : String
  deploymentId : String := ""
  entries : List ExecutionJournalEntry := []
  dirtyState : DirtyState := .clean
  preflightErrors : List String := []
  cleanupStatus : CompensationStatus := .notAttempted
  cleanupUndidMutations : Bool := false
  cleanupOrdinal : ℤ := -1
  residueFloor : DirtyState := .clean
  transportUnknown : Bool := false
  deriving DecidableEq

namespace ApplicationExecutionJournal

/-- `applied_dirty_state`: the residue of everything applied, before any compensation. -/
def appliedDirtyState (journal : ApplicationExecutionJournal) : DirtyState :=
  deriveDirtyState journal.entries

/-- The entries the recorded verdict covers; all of them when there is no verdict. -/
def covered (journal : ApplicationExecutionJournal) : List ExecutionJournalEntry :=
  if journal.cleanupOrdinal < 0 then journal.entries
  else journal.entries.take journal.cleanupOrdinal.toNat

/-- The entries appended after the recorded verdict. -/
def uncovered (journal : ApplicationExecutionJournal) : List ExecutionJournalEntry :=
  if journal.cleanupOrdinal < 0 then []
  else journal.entries.drop journal.cleanupOrdinal.toNat

/-- The residue of the covered entries under the recorded verdict. -/
def coveredState (journal : ApplicationExecutionJournal) : DirtyState :=
  let state := deriveDirtyState journal.covered
  match journal.cleanupStatus with
  | .succeeded =>
    if journal.cleanupUndidMutations ∧ (state = .clean ∨ state = .dirtyRecoverable) then .clean
    else state
  | .failed => .dirtyUnrecoverable
  | .unknown => .unknown
  | _ => state

/-- The doubt a lost transport leaves. -/
def transportState (journal : ApplicationExecutionJournal) : DirtyState :=
  if journal.transportUnknown then .unknown else .clean

/-- The state that `_recompose` stores. -/
def recomposedState (journal : ApplicationExecutionJournal) : DirtyState :=
  max (max (max journal.coveredState journal.residueFloor) (deriveDirtyState journal.uncovered))
    journal.transportState

/-- `_recompose`: compose the final state from what was applied and the verdict in force. -/
def recompose (journal : ApplicationExecutionJournal) : ApplicationExecutionJournal :=
  { journal with dirtyState := journal.recomposedState }

/-- The text that `append` raises with. -/
def invalidOrdinalMessage (ordinal expected : ℤ) : String :=
  s!"Journal ordinal {ordinal} is invalid; expected {expected}."

/-- `append`. -/
def append (journal : ApplicationExecutionJournal) (entry : ExecutionJournalEntry) :
    Except String ApplicationExecutionJournal :=
  let expected : ℤ := journal.entries.length + 1
  if entry.ordinal ≠ expected then .error (invalidOrdinalMessage entry.ordinal expected)
  else .ok { journal with entries := journal.entries ++ [entry] }.recompose

/-- `mark_preflight_failure`. -/
def markPreflightFailure (journal : ApplicationExecutionJournal) (message : String) :
    ApplicationExecutionJournal :=
  { journal with preflightErrors := journal.preflightErrors ++ [message] }.recompose

/-- `mark_transport_unknown`. -/
def markTransportUnknown (journal : ApplicationExecutionJournal) (message : String) :
    ApplicationExecutionJournal :=
  { journal with
    preflightErrors :=
      if message = "" then journal.preflightErrors else journal.preflightErrors ++ [message]
    transportUnknown := true }.recompose

/-- The residue that a verdict proves by itself. -/
def verdictFloor : CompensationStatus → DirtyState
  | .failed => .dirtyUnrecoverable
  | .unknown => .unknown
  | _ => .clean

/-- `_record_verdict`: fix how far the verdict reaches and which residue it proves. -/
def recordVerdict (journal : ApplicationExecutionJournal) (status : CompensationStatus) :
    ApplicationExecutionJournal :=
  { journal with
    cleanupOrdinal := journal.entries.length
    residueFloor := max journal.residueFloor (verdictFloor status) }.recompose

/-- `mark_cleanup`: the verdict of a compensation that ran inverses. -/
def markCleanup (journal : ApplicationExecutionJournal) (status : CompensationStatus) :
    ApplicationExecutionJournal :=
  { journal with cleanupStatus := status, cleanupUndidMutations := true }.recordVerdict status

/-- `record_scenario_restore`: the verdict of a restore, which compensates nothing. -/
def recordScenarioRestore (journal : ApplicationExecutionJournal) (status : CompensationStatus) :
    ApplicationExecutionJournal :=
  { journal with cleanupStatus := status, cleanupUndidMutations := false }.recordVerdict status

end ApplicationExecutionJournal

/-- The public operations of a journal. -/
inductive JournalOperation
  | append (entry : ExecutionJournalEntry)
  | markPreflightFailure (message : String)
  | markTransportUnknown (message : String)
  | markCleanup (status : CompensationStatus)
  | recordScenarioRestore (status : CompensationStatus)
  deriving DecidableEq

/-- The journal as a machine over its public operations. -/
def journalMachine : Machine ApplicationExecutionJournal JournalOperation String where
  step journal
    | .append entry => journal.append entry
    | .markPreflightFailure message => .ok (journal.markPreflightFailure message)
    | .markTransportUnknown message => .ok (journal.markTransportUnknown message)
    | .markCleanup status => .ok (journal.markCleanup status)
    | .recordScenarioRestore status => .ok (journal.recordScenarioRestore status)

/-- What `journal_from_action_results` reads of an action. -/
class JournalledAction (α : Type*) where
  id : α → String
  operation : α → OperationSemantics
  inverseActionId : α → String
  compensationAvailable : α → Bool

/-- The disposition a journal entry records for a result. -/
def journalDisposition (result : ActionApplicationResult) : MutationDisposition :=
  if result.disposition ≠ .unknown then result.disposition
  else dispositionFromStatus result.status

section Journal

variable {α : Type*} [JournalledAction α]

/-- The journal entry of one result: the result's own data and what the action says about undoing
it. -/
def journalEntry (actionsById : Dict String α) (ordinal : ℕ) (result : ActionApplicationResult) :
    ExecutionJournalEntry :=
  let action := actionsById.get? result.actionId
  { ordinal := ordinal
    actionId := result.actionId
    operation := (action.map JournalledAction.operation).getD .setValue
    disposition := journalDisposition result
    batchId := result.batchId
    inverseActionId := (action.map JournalledAction.inverseActionId).getD ""
    inverseAvailable := (action.map JournalledAction.compensationAvailable).getD false
    message := result.message }

/-- The loop of `journal_from_action_results`: one entry for each result, numbered from
`ordinal`. -/
def appendResults (actionsById : Dict String α) :
    ℕ → List ActionApplicationResult → ApplicationExecutionJournal →
      Except String ApplicationExecutionJournal
  | _, [], journal => .ok journal
  | ordinal, result :: results, journal =>
    match journal.append (journalEntry actionsById ordinal result) with
    | .ok journal => appendResults actionsById (ordinal + 1) results journal
    | .error message => .error message

/-- `journal_from_action_results`: the journal of a fresh application. -/
def journalFromActionResults (planId deploymentId : String) (actions : List α)
    (results : List ActionApplicationResult) : Except String ApplicationExecutionJournal :=
  let actionsById := Dict.ofList (actions.map fun item => (JournalledAction.id item, item))
  appendResults actionsById 1 results { planId := planId, deploymentId := deploymentId }

end Journal

namespace ApplicationExecutionJournal

/-- No verdict was recorded and the transport is not in doubt: the state is the residue of the
entries. -/
structure Unjudged (journal : ApplicationExecutionJournal) : Prop where
  cleanupStatus : journal.cleanupStatus = .notAttempted
  cleanupOrdinal : journal.cleanupOrdinal = -1
  residueFloor : journal.residueFloor = .clean
  transportUnknown : journal.transportUnknown = false
  dirtyState : journal.dirtyState = deriveDirtyState journal.entries

lemma unjudged_fresh (planId deploymentId : String) :
    Unjudged { planId := planId, deploymentId := deploymentId } :=
  ⟨rfl, rfl, rfl, rfl, rfl⟩

variable {journal : ApplicationExecutionJournal}

/-- Recomposing a journal without a verdict derives its state from the entries. -/
lemma recomposedState_of_unjudged (hstatus : journal.cleanupStatus = .notAttempted)
    (hordinal : journal.cleanupOrdinal = -1) (hfloor : journal.residueFloor = .clean)
    (htransport : journal.transportUnknown = false) :
    journal.recomposedState = deriveDirtyState journal.entries := by
  have hcovered : journal.covered = journal.entries := by simp [covered, hordinal]
  have huncovered : journal.uncovered = [] := by simp [uncovered, hordinal]
  have hclean : deriveDirtyState [] = .clean := rfl
  simp only [recomposedState, coveredState, transportState, hstatus, hcovered, huncovered, hfloor,
    htransport, hclean, Bool.false_eq_true, if_false]
  cases deriveDirtyState journal.entries <;> rfl

lemma Unjudged.append (h : journal.Unjudged) {entry : ExecutionJournalEntry}
    (hordinal : entry.ordinal = journal.entries.length + 1) :
    ∃ next, journal.append entry = .ok next ∧ next.entries = journal.entries ++ [entry] ∧
      next.Unjudged := by
  refine ⟨{ journal with entries := journal.entries ++ [entry] }.recompose, ?_, rfl, ?_⟩
  · simp [ApplicationExecutionJournal.append, hordinal]
  · exact ⟨h.cleanupStatus, h.cleanupOrdinal, h.residueFloor, h.transportUnknown,
      recomposedState_of_unjudged h.cleanupStatus h.cleanupOrdinal h.residueFloor
        h.transportUnknown⟩

lemma Unjudged.markPreflightFailure (h : journal.Unjudged) (message : String) :
    (journal.markPreflightFailure message).Unjudged :=
  ⟨h.cleanupStatus, h.cleanupOrdinal, h.residueFloor, h.transportUnknown,
    recomposedState_of_unjudged h.cleanupStatus h.cleanupOrdinal h.residueFloor
      h.transportUnknown⟩

end ApplicationExecutionJournal

section Journal

variable {α : Type} [JournalledAction α]

/-- The entries of a list of results, numbered from `ordinal`. -/
def journalEntries (actionsById : Dict String α) :
    ℕ → List ActionApplicationResult → List ExecutionJournalEntry
  | _, [] => []
  | ordinal, result :: results =>
    journalEntry actionsById ordinal result :: journalEntries actionsById (ordinal + 1) results

variable {results : List ActionApplicationResult}

lemma exists_of_mem_journalEntries {actionsById : Dict String α} {ordinal : ℕ}
    {entry : ExecutionJournalEntry} (h : entry ∈ journalEntries actionsById ordinal results) :
    ∃ result ∈ results, ∃ n, entry = journalEntry actionsById n result := by
  induction results generalizing ordinal with
  | nil => simp [journalEntries] at h
  | cons result results ih =>
    rcases List.mem_cons.mp h with rfl | h
    · exact ⟨result, List.mem_cons_self, ordinal, rfl⟩
    · obtain ⟨result', hresult', hentry⟩ := ih h
      exact ⟨result', List.mem_cons_of_mem result hresult', hentry⟩

lemma exists_mem_journalEntries (actionsById : Dict String α) (ordinal : ℕ)
    {result : ActionApplicationResult} (h : result ∈ results) :
    ∃ n, journalEntry actionsById n result ∈ journalEntries actionsById ordinal results := by
  induction results generalizing ordinal with
  | nil => simp at h
  | cons first results ih =>
    rcases List.mem_cons.mp h with rfl | h
    · exact ⟨ordinal, List.mem_cons_self⟩
    · obtain ⟨n, hn⟩ := ih (ordinal + 1) h
      exact ⟨n, List.mem_cons_of_mem _ hn⟩

/-- The loop of `journal_from_action_results` appends the entries of the results. -/
lemma exists_appendResults (actionsById : Dict String α) (results : List ActionApplicationResult) :
    ∀ {ordinal : ℕ} {journal : ApplicationExecutionJournal}, journal.Unjudged →
      ordinal = journal.entries.length + 1 →
      ∃ final, appendResults actionsById ordinal results journal = .ok final ∧ final.Unjudged ∧
        final.entries = journal.entries ++ journalEntries actionsById ordinal results := by
  induction results with
  | nil =>
    intro ordinal journal h _
    exact ⟨journal, rfl, h, by simp [journalEntries]⟩
  | cons result results ih =>
    intro ordinal journal h hordinal
    have hnumber : (journalEntry actionsById ordinal result).ordinal =
        journal.entries.length + 1 := by simp [journalEntry, hordinal]
    obtain ⟨next, happend, hentries, hnext⟩ := h.append hnumber
    have hnextNumber : ordinal + 1 = next.entries.length + 1 := by simp [hentries, hordinal]
    obtain ⟨final, hfinal, hunjudged, hall⟩ := ih hnext hnextNumber
    refine ⟨final, by simp [appendResults, happend, hfinal], hunjudged, ?_⟩
    rw [hall, hentries, journalEntries, List.append_assoc, List.singleton_append]

/-- **The journal of an application** exists, has one entry for each result, in their order, and
reports the residue of its entries. -/
theorem exists_journalFromActionResults (planId deploymentId : String) (actions : List α)
    (results : List ActionApplicationResult) :
    ∃ journal, journalFromActionResults planId deploymentId actions results = .ok journal ∧
      journal.Unjudged ∧ journal.entries = journalEntries
        (Dict.ofList (actions.map fun item => (JournalledAction.id item, item))) 1 results := by
  obtain ⟨journal, hjournal, hunjudged, hentries⟩ := exists_appendResults
    (Dict.ofList (actions.map fun item => (JournalledAction.id item, item))) results
    (ApplicationExecutionJournal.unjudged_fresh planId deploymentId) rfl
  exact ⟨journal, hjournal, hunjudged, by simpa using hentries⟩

end Journal

end PacketTracer
