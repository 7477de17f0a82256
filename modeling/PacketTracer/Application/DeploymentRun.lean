import PacketTracer.Application.DeployTopology

/-!
# The run of a deployment

`Progress` is what holds between the steps of a deployment that has not stopped, `Observed` what its
accepted observations amount to, and `Orderly` what holds of every history, also of one that stopped
anywhere.  There is one lemma for an ensure step, one for an observation, and from them one for each
loop; `ensures_deploying` puts the loops together.
-/

namespace PacketTracer

open Dicts Interactions PyText PhysicalEvent

open Interaction (ensures_bind ensures_exchange ensures_pure ensures_loop)

namespace PhysicalEvent

/-- The result under which a mutating call is recorded, and its error. -/
def outcome : PhysicalEvent → Option (PhysicalMutationResult × String)
  | ensureDevice device answer => some (ensuredAs "Device" .device device.semanticId answer)
  | ensureModule module answer => some (ensuredModule module.moduleId answer)
  | ensureLink link answer => some (ensuredAs "Link" .link link.semanticLinkId answer)
  | _ => none

/-- Whether a call changes the backend. -/
def mutating (event : PhysicalEvent) : Bool := event.outcome.isSome

/-- Whether a call changes devices or their modules. -/
def changesHardware : PhysicalEvent → Bool
  | ensureDevice .. => true
  | ensureModule .. => true
  | _ => false

/-- Whether a call observes what was ensured. -/
def observes : PhysicalEvent → Bool
  | observeModuleEffect .. => true
  | observeDevice .. => true
  | observeLink .. => true
  | _ => false

/-- Whether a call creates a link. -/
def createsLink : PhysicalEvent → Bool
  | ensureLink .. => true
  | _ => false

/-- A mutating call did what it was asked. -/
def Succeeded (event : PhysicalEvent) : Prop := ∀ result, event.outcome = some result → result.2 = ""

/-- A check before the first change failed. -/
def FailsCheck (casefold : String → String) : PhysicalEvent → Prop
  | observeWorkspace answer => (workspaceError casefold answer).1 ≠ ""
  | moduleEffectCapability module _ answer => capabilityError module answer ≠ ""
  | _ => False

/-- The answer was judged without an error. -/
def Accepted (casefold : String → String) (topology : Plans.TopologyPlan)
    (capabilities : Dict String PhysicalModuleEffectCapability) : PhysicalEvent → Prop
  | observeWorkspace answer => (workspaceError casefold answer).1 = ""
  | moduleEffectCapability module _ answer => capabilityError module answer = ""
  | ensureDevice device answer => (ensuredAs "Device" .device device.semanticId answer).2 = ""
  | ensureModule module answer => (ensuredModule module.moduleId answer).2 = ""
  | ensureLink link answer => (ensuredAs "Link" .link link.semanticLinkId answer).2 = ""
  | observeModuleEffect module answer => ∃ capability,
      capabilities.get? module.moduleId = some capability ∧
        moduleEffectError casefold module capability answer = ""
  | observeDevice device answer =>
      (deviceObservationError device (plannedPorts topology device.semanticId) answer).1 = ""
  | observeLink link answer => linkObservationError link answer = ""

variable {casefold : String → String} {topology : Plans.TopologyPlan}
  {capabilities : Dict String PhysicalModuleEffectCapability} {event : PhysicalEvent}

lemma Accepted.succeeded (h : event.Accepted casefold topology capabilities) :
    event.Succeeded := by
  intro result hresult
  cases event with
  | ensureDevice device answer | ensureModule module answer | ensureLink link answer =>
    exact Option.some.inj hresult ▸ h
  | _ => simp [outcome] at hresult

lemma Accepted.not_failsCheck (h : event.Accepted casefold topology capabilities) :
    ¬event.FailsCheck casefold := by
  cases event with
  | observeWorkspace answer | moduleEffectCapability module device answer => exact not_not.mpr h
  | _ => exact not_false

lemma mutating_of_createsLink (h : event.createsLink) : event.mutating := by
  cases event <;> first | rfl | cases h

lemma succeeded_of_not_mutating (h : event.mutating = false) : event.Succeeded := by
  intro result hresult
  simp [mutating, hresult] at h

end PhysicalEvent

open PhysicalEvent

/-! ## Observations after the last change -/

/-- An event of the history is later than every change of a kind. -/
def SeenAfter (changes : PhysicalEvent → Bool) (history : List PhysicalEvent)
    (event : PhysicalEvent) : Prop :=
  ∃ before after, history = before ++ event :: after ∧ ∀ later ∈ after, changes later = false

section SeenAfter

variable {changes : PhysicalEvent → Bool} {history : List PhysicalEvent}
  {event event' : PhysicalEvent}

lemma seenAfter_concat_self : SeenAfter changes (history ++ [event]) event :=
  ⟨history, [], rfl, fun later hlater => by simp at hlater⟩

lemma SeenAfter.concat (h : SeenAfter changes history event) (hevent' : changes event' = false) :
    SeenAfter changes (history ++ [event']) event := by
  obtain ⟨before, after, rfl, hafter⟩ := h
  refine ⟨before, after ++ [event'], by simp, fun later hlater => ?_⟩
  rcases List.mem_concat_iff.mp hlater with hlater | hlater
  · exact hafter later hlater
  · rw [hlater]
    exact hevent'

lemma SeenAfter.mem (h : SeenAfter changes history event) : event ∈ history := by
  obtain ⟨before, after, rfl, -⟩ := h
  exact List.mem_append_right _ List.mem_cons_self

end SeenAfter

/-! ## Entries and calls -/

/-- The entries of the ensure steps. -/
def ensureEntries (journal : ApplicationExecutionJournal) : List ExecutionJournalEntry :=
  journal.entries.filter (·.operation = .ensurePresent)

/-- The mutating calls. -/
def mutatingCalls (history : List PhysicalEvent) : List PhysicalEvent :=
  history.filter PhysicalEvent.mutating

/-- An entry is the one that a call was recorded with. -/
def EntersCall (entry : ExecutionJournalEntry) (event : PhysicalEvent) : Prop :=
  ∃ result ordinal, event.outcome = some result ∧ entry = mutationEntry result.1 result.2 ordinal

/-- The other entries are failed observations. -/
def OthersFailed (journal : ApplicationExecutionJournal) : Prop :=
  ∀ entry ∈ journal.entries, entry.operation ≠ .ensurePresent →
    entry.operation = .transition ∧ entry.disposition = .failed

/-- The ensure entries of a journal are those of the mutating calls, in their order, and the others
are failed observations. -/
structure JournalRecords (journal : ApplicationExecutionJournal) (history : List PhysicalEvent) :
    Prop where
  calls : List.Forall₂ EntersCall (ensureEntries journal) (mutatingCalls history)
  others : OthersFailed journal

/-- A journal got no entry but those of failed observations. -/
structure AddsFailures (journal journal' : ApplicationExecutionJournal) : Prop where
  ensures : ensureEntries journal' = ensureEntries journal
  others : OthersFailed journal → OthersFailed journal'

section Journal

variable {journal : ApplicationExecutionJournal} {history : List PhysicalEvent}
  {event : PhysicalEvent}

lemma entries_appendEntry {entry : ℤ → ExecutionJournalEntry} (hentry : ∀ n, (entry n).ordinal = n) :
    (appendEntry journal entry).entries =
      journal.entries ++ [entry (journal.entries.length + 1)] := by
  unfold appendEntry ApplicationExecutionJournal.append
  rw [if_neg (not_not.mpr (hentry _))]
  rfl

lemma entries_withPreflightFailures (messages : List String) :
    (TopologyDeployer.withPreflightFailures journal messages).entries = journal.entries := by
  unfold TopologyDeployer.withPreflightFailures
  induction messages generalizing journal with
  | nil => rfl
  | cons message messages ih =>
    rw [List.foldl_cons, ih]
    rfl

lemma ensureEntries_appendEntry_mutation (mutation : PhysicalMutationResult) (error : String) :
    ensureEntries (appendEntry journal (mutationEntry mutation error)) =
      ensureEntries journal ++ [mutationEntry mutation error (journal.entries.length + 1)] := by
  unfold ensureEntries
  rw [entries_appendEntry fun _ => rfl, List.filter_append]
  rfl

lemma OthersFailed.appendEntry_mutation (h : OthersFailed journal)
    (mutation : PhysicalMutationResult) (error : String) :
    OthersFailed (appendEntry journal (mutationEntry mutation error)) := by
  intro entry hmem hoperation
  rw [entries_appendEntry fun _ => rfl] at hmem
  rcases List.mem_concat_iff.mp hmem with hmem | rfl
  · exact h entry hmem hoperation
  · exact absurd rfl hoperation

lemma addsFailures_appendEntry (actionId message : String) :
    AddsFailures journal (appendEntry journal (observationFailureEntry actionId message)) where
  ensures := by
    unfold ensureEntries
    rw [entries_appendEntry fun _ => rfl, List.filter_append]
    simp [observationFailureEntry]
  others := by
    intro h entry hmem hoperation
    rw [entries_appendEntry fun _ => rfl] at hmem
    rcases List.mem_concat_iff.mp hmem with hmem | rfl
    · exact h entry hmem hoperation
    · exact ⟨rfl, rfl⟩

lemma addsFailures_recordObserved (kind : PhysicalObjectKind) (targetId : String)
    (state : DeploymentState) (error : String) :
    AddsFailures state.journal (recordObserved kind targetId state error).journal := by
  unfold recordObserved
  by_cases herror : error ≠ ""
  · simp only [if_pos herror]
    exact addsFailures_appendEntry _ _
  · simp only [if_neg herror]
    exact ⟨rfl, fun h => h⟩

lemma mutatingCalls_concat_of_not_mutating (h : event.mutating = false) :
    mutatingCalls (history ++ [event]) = mutatingCalls history := by
  simp [mutatingCalls, h]

lemma JournalRecords.concat (h : JournalRecords journal history)
    {result : PhysicalMutationResult × String} (hresult : event.outcome = some result) :
    JournalRecords (appendEntry journal (mutationEntry result.1 result.2))
      (history ++ [event]) where
  calls := by
    have hmutating : event.mutating := by simp [mutating, hresult]
    have hcalls : mutatingCalls (history ++ [event]) = mutatingCalls history ++ [event] := by
      simp [mutatingCalls, hmutating]
    rw [ensureEntries_appendEntry_mutation, hcalls]
    exact List.rel_append h.calls (.cons ⟨result, _, hresult, rfl⟩ .nil)
  others := h.others.appendEntry_mutation _ _

lemma JournalRecords.addFailures (h : JournalRecords journal history)
    {journal' : ApplicationExecutionJournal} {history' : List PhysicalEvent}
    (hentries : AddsFailures journal journal')
    (hcalls : mutatingCalls history' = mutatingCalls history) : JournalRecords journal' history' := by
  refine ⟨?_, hentries.others h.others⟩
  rw [hentries.ensures, hcalls]
  exact h.calls

end Journal

/-! ## What an accepted answer says -/

variable {c : Prop} {error : String} {module : Plans.ModulePlan}

lemma ite_eq_empty [Decidable c] {rest : String} (herror : error ≠ "") :
    (if c then error else rest) = "" ↔ ¬c ∧ rest = "" := by
  by_cases hc : c
  · simp [hc, herror]
  · simp [hc]

lemma fst_ite_eq_empty [Decidable c] {code : PhysicalDeploymentFailureCode}
    {rest : String × PhysicalDeploymentFailureCode} (herror : error ≠ "") :
    (if c then (error, code) else rest).1 = "" ↔ ¬c ∧ rest.1 = "" := by
  by_cases hc : c
  · simp [hc, herror]
  · simp [hc]

lemma capability_of_capabilityError_eq {answer : Except String PhysicalModuleEffectCapability}
    (h : capabilityError module answer = "") :
    ∃ capability, answer = .ok capability ∧ capability.targetId = module.moduleId ∧
      capability.operationSupport = .supported ∧
      capability.effectObservationSupport = .supported ∧ capability.expectedPorts ≠ [] := by
  rcases answer with exc | capability
  · exact absurd h (by unfold capabilityError; simp [toString])
  refine ⟨capability, rfl, ?_⟩
  unfold capabilityError at h
  rw [ite_eq_empty (by simp [toString]), ite_eq_empty (by simp [toString]),
    ite_eq_empty (by simp [toString]), ite_eq_empty (by simp [toString])] at h
  tauto

/-- The exact match of an observed device: identity, name and model, and all planned ports. -/
structure DeviceMatches (topology : Plans.TopologyPlan) (device : Plans.DevicePlan)
    (observation : PhysicalDeviceObservation) : Prop where
  targetId : observation.targetId = device.semanticId
  observed : observation.observed
  deployedName : observation.deployedName = device.name
  model : observation.model = device.model
  interfacesObserved : observation.interfacesObserved
  ports : ∀ port ∈ plannedPorts topology device.semanticId, port ∈ observation.interfaces

/-- The exact match of an observed module effect: the requested device, slot and module, exactly
the expected new ports, and the identity of the card when the backend names it. -/
structure ModuleMatches (casefold : String → String) (module : Plans.ModulePlan)
    (capability : PhysicalModuleEffectCapability) (observation : PhysicalModuleObservation) :
    Prop where
  targetId : observation.targetId = module.moduleId
  deviceName : observation.deviceName = module.device
  requestedSlot : observation.requestedSlot = module.slot
  requestedModule : observation.requestedModule = module.module
  observed : observation.observed
  fresh : observation.freshness = .fresh
  inventory : observation.portInventoryObserved
  present : ∀ port ∈ capability.expectedPorts, port ∈ observation.portsAfter
  caused : observation.deviceNewlyOwned ∧ observation.effectObserved ∧
    (observation.newlyAddedRelevantPorts casefold).toFinset = capability.expectedPorts.toFinset
  classes : ∀ kind ∈ capability.expectedPortClasses, kind ∈ observation.observedPortClasses
  identity : observation.identityObservationStatus = .observed →
    observation.observedModuleIdentity = module.module

/-- The exact match of an observed link: both devices and ports, in either direction, and the cable
when the backend observes it. -/
structure LinkMatches (link : Plans.LinkPlan) (observation : PhysicalLinkObservation) : Prop where
  targetId : observation.targetId = link.semanticLinkId
  observed : observation.observed
  endpoints : (observation.deviceA, observation.portA, observation.deviceB, observation.portB) =
      (link.deviceA, link.portA, link.deviceB, link.portB) ∨
    (observation.deviceB, observation.portB, observation.deviceA, observation.portA) =
      (link.deviceA, link.portA, link.deviceB, link.portB)
  cable : observation.cableObserved → observation.cable = link.cable

/-- An accepted device observation matches. -/
lemma deviceMatches_of_error_eq {topology : Plans.TopologyPlan} {device : Plans.DevicePlan}
    {answer : Except String PhysicalDeviceObservation}
    (h : (deviceObservationError device (plannedPorts topology device.semanticId) answer).1 = "") :
    ∃ observation, answer = .ok observation ∧ DeviceMatches topology device observation := by
  rcases answer with exc | observation
  · exact absurd h (by unfold deviceObservationError; simp [toString])
  refine ⟨observation, rfl, ?_⟩
  unfold deviceObservationError at h
  rw [fst_ite_eq_empty (by simp [toString]), fst_ite_eq_empty (by simp [toString]),
    fst_ite_eq_empty (by simp [toString]), fst_ite_eq_empty (by simp [toString]),
    fst_ite_eq_empty (by simp [toString]), fst_ite_eq_empty (by simp [toString])] at h
  obtain ⟨htarget, hobserved, hname, hmodel, hinterfaces, hports, -⟩ := h
  refine ⟨not_not.mp htarget, by simpa using hobserved, not_not.mp hname, not_not.mp hmodel,
    by simpa using hinterfaces, ?_⟩
  rw [not_not, sortedBy_eq_nil, List.filter_eq_nil_iff] at hports
  simpa using hports

/-- An accepted module observation matches. -/
lemma moduleMatches_of_error_eq {casefold : String → String}
    {capability : PhysicalModuleEffectCapability}
    {answer : Except String PhysicalModuleObservation}
    (h : moduleEffectError casefold module capability answer = "") :
    ∃ observation, answer = .ok observation ∧
      ModuleMatches casefold module capability observation := by
  rcases answer with exc | observation
  · exact absurd h (by unfold moduleEffectError; simp [toString])
  refine ⟨observation, rfl, ?_⟩
  unfold moduleEffectError at h
  rw [ite_eq_empty (by simp [toString]), ite_eq_empty (by simp [toString]),
    ite_eq_empty (by simp [toString]), ite_eq_empty (by simp [toString]),
    ite_eq_empty (by simp [toString]), ite_eq_empty (by simp [toString]),
    ite_eq_empty (by simp [toString]), ite_eq_empty (by simp [toString]),
    ite_eq_empty (by simp [toString]), ite_eq_empty (by simp [toString]),
    ite_eq_empty (by simp [toString])] at h
  obtain ⟨htarget, hrequest, hobserved, hfresh, hinventory, hexpected, hpresent, -, hclasses,
    hstatus, hidentity, -⟩ := h
  rw [not_not] at htarget hfresh hexpected hpresent hclasses hstatus
  obtain ⟨hdevice, hslot, hmodule⟩ : observation.deviceName = module.device ∧
      observation.requestedSlot = module.slot ∧ observation.requestedModule = module.module := by
    tauto
  have hcaused : observation.deviceNewlyOwned ∧ observation.effectObserved ∧
      observation.effectNewlyCaused casefold := by
    unfold PhysicalModuleObservation.effectVerificationStatus at hstatus
    split_ifs at hstatus with hunverified hverified
    exact ⟨hverified.1, hverified.2.1, hverified.2.2.1⟩
  obtain ⟨howned, heffect, hnewly⟩ := hcaused
  refine ⟨htarget, hdevice, hslot, hmodule, by simpa using hobserved, hfresh,
    by simpa using hinventory, fun _ hport => hpresent hport, ⟨howned, heffect, ?_⟩,
    fun _ hkind => hclasses hkind, fun hobserved => ?_⟩
  · rw [← hexpected]
    exact (of_decide_eq_true hnewly).2
  · by_contra hne
    exact hidentity ⟨hobserved, hne⟩

lemma linkMatches_of_error_eq {link : Plans.LinkPlan}
    {answer : Except String PhysicalLinkObservation} (h : linkObservationError link answer = "") :
    ∃ observation, answer = .ok observation ∧ LinkMatches link observation := by
  rcases answer with exc | observation
  · exact absurd h (by unfold linkObservationError; simp [toString])
  refine ⟨observation, rfl, ?_⟩
  unfold linkObservationError at h
  rw [ite_eq_empty (by simp [toString]), ite_eq_empty (by simp [toString]),
    ite_eq_empty (by simp [toString]), ite_eq_empty (by simp [toString])] at h
  obtain ⟨htarget, hobserved, hends, hcable, -⟩ := h
  refine ⟨not_not.mp htarget, by simpa using hobserved, ?_, fun hseen => ?_⟩
  · rcases not_not.mp hends with hends | hends
    · exact Or.inl hends.symm
    · exact Or.inr hends.symm
  · by_contra hne
    exact hcable ⟨hseen, hne⟩

namespace TopologyDeployer

variable (deployer : TopologyDeployer) (request : DeploymentRequest)

/-! ## What holds of a history -/

/-- When a link is created, every device was observed as planned before. -/
def LinkAfterDevices (topology : Plans.TopologyPlan) (before : List PhysicalEvent)
    (event : PhysicalEvent) : Prop :=
  event.createsLink → ∀ device ∈ topology.devices, ∃ observation,
    .observeDevice device (.ok observation) ∈ before ∧ DeviceMatches topology device observation

/-- When the backend is changed, every change before succeeded. -/
def ChangesAfterSuccess (before : List PhysicalEvent) (event : PhysicalEvent) : Prop :=
  event.mutating → ∀ earlier ∈ before, earlier.Succeeded

/-- The order of the calls and the journal of a deployment, wherever it stopped. -/
structure Orderly (journal : ApplicationExecutionJournal) (history : List PhysicalEvent) : Prop where
  /-- Nothing is changed when a check failed. -/
  checksFirst : (∃ event ∈ history, event.FailsCheck deployer.casefold) →
    ∀ event ∈ history, event.mutating = false
  /-- Nothing is changed when the modules of the plan cannot be checked. -/
  capabilitiesFirst : deployer.runtime.hasModuleEffectCapability = false →
    request.topology.modules ≠ [] → ∀ event ∈ history, event.mutating = false
  /-- Nothing is changed after a change that failed. -/
  stopsAtFailure : EachAfter ChangesAfterSuccess history
  linksLast : EachAfter (LinkAfterDevices request.topology) history
  /-- The ensure entries are those of the calls, but for the refusal of a backend without an
  operation for modules. -/
  records : ∃ recorded refused, ensureEntries journal = recorded ++ refused ∧
    List.Forall₂ EntersCall recorded (mutatingCalls history) ∧ refused.length ≤ 1 ∧
    (deployer.runtime.hasEnsureModule → refused = [])
  others : OthersFailed journal

/-- A deployment that stopped is orderly, and is not reported as verified. -/
structure Halted (result : PhysicalDeploymentResult) (history : List PhysicalEvent) : Prop where
  orderly : deployer.Orderly request result.executionJournal history
  status : result.status ≠ .verified
  manifest : result.manifest = none

variable (capabilities : Dict String PhysicalModuleEffectCapability)

/-- What holds between the steps after the checks. -/
structure Progress (state : DeploymentState) (history : List PhysicalEvent) : Prop where
  passed : ∀ event ∈ history, event.observes = false →
    event.Accepted deployer.casefold request.topology capabilities
  records : JournalRecords state.journal history
  linksLast : EachAfter (LinkAfterDevices request.topology) history
  offered : deployer.runtime.hasModuleEffectCapability = true ∨ request.topology.modules = []
  capabilities : ∀ identifier capability, capabilities.get? identifier = some capability →
    ∃ module device, module.moduleId = identifier ∧
      .moduleEffectCapability module device (.ok capability) ∈ history

/-- What the accepted observations of some modules, devices and links amount to. -/
structure Observed (modules : List Plans.ModulePlan) (devices : List Plans.DevicePlan)
    (links : List Plans.LinkPlan) (history : List PhysicalEvent) : Prop where
  accepted : ∀ event ∈ history, event.Accepted deployer.casefold request.topology capabilities
  modules : ∀ module ∈ modules, ∃ capability observation,
    capabilities.get? module.moduleId = some capability ∧
      ModuleMatches deployer.casefold module capability observation ∧
      SeenAfter changesHardware history (.observeModuleEffect module (.ok observation))
  devices : ∀ device ∈ devices, ∃ observation,
    DeviceMatches request.topology device observation ∧
      SeenAfter changesHardware history (.observeDevice device (.ok observation))
  links : ∀ link ∈ links, ∃ observation, LinkMatches link observation ∧
    SeenAfter mutating history (.observeLink link (.ok observation))

/-- Progress, and what was observed. -/
structure Underway (modules : List Plans.ModulePlan) (devices : List Plans.DevicePlan)
    (links : List Plans.LinkPlan) (state : DeploymentState) (history : List PhysicalEvent) :
    Prop where
  progress : deployer.Progress request capabilities state history
  observed : deployer.Observed request capabilities modules devices links history

/-- A scan in progress, whose observations count when none of them failed. -/
structure Scanned {α : Type} (modules : List Plans.ModulePlan) (devices : List Plans.DevicePlan)
    (links : List Plans.LinkPlan) (scan : ObservationScan α) (history : List PhysicalEvent) :
    Prop where
  progress : deployer.Progress request capabilities scan.state history
  observed : scan.errors = [] →
    deployer.Observed request capabilities modules devices links history

variable {deployer request capabilities} {state state' : DeploymentState}
  {history : List PhysicalEvent} {event : PhysicalEvent}
  {modules : List Plans.ModulePlan} {devices : List Plans.DevicePlan}
  {links : List Plans.LinkPlan}

/-! ## One more event -/

variable {failureCode : PhysicalDeploymentFailureCode} {result : PhysicalMutationResult × String}
  {α : Type}

lemma halted_stoppedDeployment {journal : ApplicationExecutionJournal}
    {itemResults : ItemResults} {errors : List String}
    (h : deployer.Orderly request journal history) :
    deployer.Halted request
      (stoppedDeployment request { journal := journal, itemResults := itemResults } failureCode errors)
      history := by
  refine ⟨h, ?_, rfl⟩
  unfold stoppedDeployment
  simp only
  split_ifs <;> decide

lemma Progress.succeeded (h : deployer.Progress request capabilities state history) :
    ∀ event ∈ history, event.Succeeded := by
  intro event hmem
  by_cases hobserves : event.observes = true
  · refine succeeded_of_not_mutating ?_
    cases event <;> first | rfl | cases hobserves
  · exact (h.passed event hmem (by simpa using hobserves)).succeeded

lemma Progress.not_failsCheck (h : deployer.Progress request capabilities state history) :
    ∀ event ∈ history, ¬event.FailsCheck deployer.casefold := by
  intro event hmem hfails
  refine (h.passed event hmem ?_).not_failsCheck hfails
  cases event <;> first | rfl | cases hfails

lemma eachAfter_changesAfterSuccess (h : ∀ event ∈ history, event.Succeeded) :
    EachAfter ChangesAfterSuccess history := by
  intro before event after heq _ earlier hearlier
  exact h earlier (heq ▸ List.mem_append_left _ hearlier)

lemma Progress.orderly (h : deployer.Progress request capabilities state history) :
    deployer.Orderly request state.journal history where
  checksFirst := by
    rintro ⟨event, hmem, hfails⟩
    exact absurd hfails (h.not_failsCheck event hmem)
  capabilitiesFirst := by
    intro hnone hmodules
    rcases h.offered with hoffered | hoffered
    · simp [hnone] at hoffered
    · exact absurd hoffered hmodules
  stopsAtFailure := eachAfter_changesAfterSuccess h.succeeded
  linksLast := h.linksLast
  records := ⟨_, [], (List.append_nil _).symm, h.records.calls, Nat.zero_le 1, fun _ => rfl⟩
  others := h.records.others

/-- A call that changes nothing, with an accepted answer unless it observes. -/
lemma Progress.concat_quiet (h : deployer.Progress request capabilities state history)
    (hquiet : event.mutating = false)
    (hpassed : event.observes = false →
      event.Accepted deployer.casefold request.topology capabilities)
    (hentries : AddsFailures state.journal state'.journal) :
    deployer.Progress request capabilities state' (history ++ [event]) where
  passed := by
    intro event' hmem hobserves
    rcases List.mem_concat_iff.mp hmem with hmem | rfl
    · exact h.passed event' hmem hobserves
    · exact hpassed hobserves
  records := h.records.addFailures hentries (mutatingCalls_concat_of_not_mutating hquiet)
  linksLast := by
    refine eachAfter_concat.mpr ⟨h.linksLast, fun hlink => ?_⟩
    simp [mutating_of_createsLink hlink] at hquiet
  offered := h.offered
  capabilities := by
    intro identifier capability hget
    obtain ⟨module, device, hid, hmem⟩ := h.capabilities identifier capability hget
    exact ⟨module, device, hid, List.mem_append_left _ hmem⟩

lemma accepted_of_outcome (hresult : event.outcome = some result) (hok : result.2 = "") :
    event.Accepted deployer.casefold request.topology capabilities := by
  cases event with
  | ensureDevice device answer | ensureModule module answer | ensureLink link answer =>
    cases hresult
    exact hok
  | _ => simp [outcome] at hresult

/-- A mutating call that succeeded and was journalled. -/
lemma Progress.concat_ensured (h : deployer.Progress request capabilities state history)
    (hresult : event.outcome = some result) (hok : result.2 = "")
    (hlink : LinkAfterDevices request.topology history event)
    (hjournal : state'.journal = appendEntry state.journal (mutationEntry result.1 result.2)) :
    deployer.Progress request capabilities state' (history ++ [event]) where
  passed := by
    intro event' hmem hobserves
    rcases List.mem_concat_iff.mp hmem with hmem | rfl
    · exact h.passed event' hmem hobserves
    · exact accepted_of_outcome hresult hok
  records := hjournal ▸ h.records.concat hresult
  linksLast := eachAfter_concat.mpr ⟨h.linksLast, hlink⟩
  offered := h.offered
  capabilities := by
    intro identifier capability hget
    obtain ⟨module, device, hid, hmem⟩ := h.capabilities identifier capability hget
    exact ⟨module, device, hid, List.mem_append_left _ hmem⟩

/-- A mutating call that failed and was journalled. -/
lemma Progress.orderly_concat (h : deployer.Progress request capabilities state history)
    (hresult : event.outcome = some result)
    (hlink : LinkAfterDevices request.topology history event) :
    deployer.Orderly request (appendEntry state.journal (mutationEntry result.1 result.2))
      (history ++ [event]) where
  checksFirst := by
    rintro ⟨event', hmem, hfails⟩
    rcases List.mem_concat_iff.mp hmem with hmem | rfl
    · exact absurd hfails (h.not_failsCheck event' hmem)
    · cases event' <;> first | cases hfails | simp [outcome] at hresult
  capabilitiesFirst := by
    intro hnone hmodules
    rcases h.offered with hoffered | hoffered
    · simp [hnone] at hoffered
    · exact absurd hoffered hmodules
  stopsAtFailure := eachAfter_concat.mpr
    ⟨eachAfter_changesAfterSuccess h.succeeded, fun _ => h.succeeded⟩
  linksLast := eachAfter_concat.mpr ⟨h.linksLast, hlink⟩
  records := ⟨_, [], (List.append_nil _).symm, (h.records.concat hresult).calls, Nat.zero_le 1,
    fun _ => rfl⟩
  others := (h.records.concat hresult).others

section Concat

variable (h : deployer.Observed request capabilities modules devices links history)
include h

/-- An accepted event keeps what was observed, unless it changes what was observed. -/
lemma Observed.concat (haccepted : event.Accepted deployer.casefold request.topology capabilities)
    (hhardware : modules = [] ∧ devices = [] ∨ event.changesHardware = false)
    (hlinks : links = [] ∨ event.mutating = false) :
    deployer.Observed request capabilities modules devices links (history ++ [event]) where
  accepted := by
    intro event' hmem
    rcases List.mem_concat_iff.mp hmem with hmem | rfl
    · exact h.accepted event' hmem
    · exact haccepted
  modules := by
    intro module hmem
    rcases hhardware with ⟨rfl, -⟩ | hhardware
    · simp at hmem
    · obtain ⟨capability, observation, hget, hmatches, hseen⟩ := h.modules module hmem
      exact ⟨capability, observation, hget, hmatches, hseen.concat hhardware⟩
  devices := by
    intro device hmem
    rcases hhardware with ⟨-, rfl⟩ | hhardware
    · simp at hmem
    · obtain ⟨observation, hmatches, hseen⟩ := h.devices device hmem
      exact ⟨observation, hmatches, hseen.concat hhardware⟩
  links := by
    intro link hmem
    rcases hlinks with rfl | hlinks
    · simp at hmem
    · obtain ⟨observation, hmatches, hseen⟩ := h.links link hmem
      exact ⟨observation, hmatches, hseen.concat hlinks⟩

/-- One more observed module. -/
lemma Observed.concat_module
    {module : Plans.ModulePlan} {capability : PhysicalModuleEffectCapability}
    {answer : Except String PhysicalModuleObservation}
    (hget : capabilities.get? module.moduleId = some capability)
    (herror : moduleEffectError deployer.casefold module capability answer = "") :
    deployer.Observed request capabilities (modules ++ [module]) devices links
      (history ++ [.observeModuleEffect module answer]) := by
  obtain ⟨observation, rfl, hmatches⟩ := moduleMatches_of_error_eq herror
  have haccepted : (observeModuleEffect module (.ok observation)).Accepted deployer.casefold
      request.topology capabilities := ⟨capability, hget, herror⟩
  have hnext := h.concat haccepted (Or.inr rfl) (Or.inr rfl)
  refine ⟨hnext.accepted, fun module' hmem => ?_, hnext.devices, hnext.links⟩
  rcases List.mem_concat_iff.mp hmem with hmem | rfl
  · exact hnext.modules module' hmem
  · exact ⟨capability, observation, hget, hmatches, seenAfter_concat_self⟩

/-- One more observed device. -/
lemma Observed.concat_device
    {device : Plans.DevicePlan} {answer : Except String PhysicalDeviceObservation}
    (herror : (deviceObservationError device (plannedPorts request.topology device.semanticId)
      answer).1 = "") :
    deployer.Observed request capabilities modules (devices ++ [device]) links
      (history ++ [.observeDevice device answer]) := by
  obtain ⟨observation, rfl, hmatches⟩ := deviceMatches_of_error_eq herror
  have haccepted : (PhysicalEvent.observeDevice device (.ok observation)).Accepted
      deployer.casefold request.topology capabilities := herror
  have hnext := h.concat haccepted (Or.inr rfl) (Or.inr rfl)
  refine ⟨hnext.accepted, hnext.modules, fun device' hmem => ?_, hnext.links⟩
  rcases List.mem_concat_iff.mp hmem with hmem | rfl
  · exact hnext.devices device' hmem
  · exact ⟨observation, hmatches, seenAfter_concat_self⟩

/-- One more observed link. -/
lemma Observed.concat_link {link : Plans.LinkPlan} {answer : Except String PhysicalLinkObservation}
    (herror : linkObservationError link answer = "") :
    deployer.Observed request capabilities modules devices (links ++ [link])
      (history ++ [.observeLink link answer]) := by
  obtain ⟨observation, rfl, hmatches⟩ := linkMatches_of_error_eq herror
  have haccepted : (PhysicalEvent.observeLink link (.ok observation)).Accepted
      deployer.casefold request.topology capabilities := herror
  have hnext := h.concat haccepted (Or.inr rfl) (Or.inr rfl)
  refine ⟨hnext.accepted, hnext.modules, hnext.devices, fun link' hmem => ?_⟩
  rcases List.mem_concat_iff.mp hmem with hmem | rfl
  · exact hnext.links link' hmem
  · exact ⟨observation, hmatches, seenAfter_concat_self⟩

lemma Observed.linkAfterDevices (hdevices : ∀ device ∈ request.topology.devices, device ∈ devices) :
    LinkAfterDevices request.topology history event := by
  intro _ device hdevice
  obtain ⟨observation, hmatches, hseen⟩ := h.devices device (hdevices device hdevice)
  exact ⟨observation, hseen.mem, hmatches⟩

end Concat

lemma linkAfterDevices_of_not_createsLink {topology : Plans.TopologyPlan}
    (h : event.createsLink = false) : LinkAfterDevices topology history event := by
  intro hlink
  simp [h] at hlink

/-! ## Ensure steps -/

/-- Recording an ensure step either goes on or stops. -/
lemma ensures_recordEnsured {kind : PhysicalObjectKind} {targetId : String}
    {Q : DeploymentState → List PhysicalEvent → Prop}
    {E : PhysicalDeploymentResult → List PhysicalEvent → Prop}
    (hok : result.2 = "" → ∀ state' : DeploymentState,
      state'.journal = appendEntry state.journal (mutationEntry result.1 result.2) →
        Q state' history)
    (herror : result.2 ≠ "" → ∀ itemResults : ItemResults,
      E (stoppedDeployment request
        { journal := appendEntry state.journal (mutationEntry result.1 result.2)
          itemResults := itemResults } failureCode [result.2]) history) :
    (recordEnsured request kind targetId failureCode state result).Ensures history Q E := by
  unfold recordEnsured
  by_cases hresult : result.2 = ""
  · simp only [hresult, ne_eq, not_true_eq_false, if_false, ensures_pure]
    exact hok hresult _ (by rw [hresult])
  · simp only [ne_eq, hresult, not_false_eq_true, if_true, Interaction.ensures_raise]
    exact herror hresult _

variable {kind : PhysicalObjectKind} {targetId : String} {items : List Plans.DevicePlan}
  {scan : ObservationScan α}

/-- An ensure step: ask the backend, record its answer, and stop when it failed. -/
lemma ensures_ensureStep {answer : List PhysicalEvent → Except String PhysicalMutationResult}
    {call : Except String PhysicalMutationResult → PhysicalEvent}
    {result : Except String PhysicalMutationResult → PhysicalMutationResult × String}
    (h : deployer.Underway request capabilities modules devices [] state history)
    (houtcome : ∀ a, (call a).outcome = some (result a))
    (hhardware : modules = [] ∧ devices = [] ∨ ∀ a, (call a).changesHardware = false)
    (hlink : ∀ a, LinkAfterDevices request.topology history (call a)) :
    (Interaction.exchange answer call >>= fun a =>
      recordEnsured request kind targetId failureCode state (result a)).Ensures history
      (deployer.Underway request capabilities modules devices []) (deployer.Halted request) := by
  rw [ensures_bind, ensures_exchange]
  refine ensures_recordEnsured (fun hok state' hjournal => ?_) fun _ itemResults => ?_
  · exact ⟨h.progress.concat_ensured (houtcome _) hok (hlink _) hjournal,
      h.observed.concat (accepted_of_outcome (houtcome _) hok) (hhardware.imp_right fun h => h _)
        (Or.inl rfl)⟩
  · exact halted_stoppedDeployment (h.progress.orderly_concat (houtcome _) (hlink _))

lemma Progress.orderly_refused (h : deployer.Progress request capabilities state history)
    (hnone : deployer.runtime.hasEnsureModule = false) (mutation : PhysicalMutationResult)
    (error : String) :
    deployer.Orderly request (appendEntry state.journal (mutationEntry mutation error)) history :=
  { h.orderly with
    records := ⟨ensureEntries state.journal, _, ensureEntries_appendEntry_mutation _ _,
      h.records.calls, le_rfl, fun hoffers => by simp [hnone] at hoffers⟩
    others := h.records.others.appendEntry_mutation _ _ }

lemma ensures_ensureDevices (h : deployer.Underway request capabilities [] [] [] state history) :
    (Interaction.loop (deployer.ensureDevice request) state items).Ensures history
      (deployer.Underway request capabilities [] [] []) (deployer.Halted request) := by
  refine ensures_loop (I := fun _ => deployer.Underway request capabilities [] [] []) h ?_
  intro done device _ state history h
  exact ensures_ensureStep h (fun _ => rfl) (Or.inl ⟨rfl, rfl⟩)
    fun _ => linkAfterDevices_of_not_createsLink rfl

/-- The loop over the modules. -/
lemma ensures_ensureModules {items : List Plans.ModulePlan}
    (h : deployer.Underway request capabilities [] [] [] state history) :
    (Interaction.loop (deployer.ensureModule request) state items).Ensures history
      (deployer.Underway request capabilities [] [] []) (deployer.Halted request) := by
  refine ensures_loop (I := fun _ => deployer.Underway request capabilities [] [] []) h ?_
  intro done module _ state history h
  unfold ensureModule
  split_ifs with hoffers
  · exact ensures_ensureStep h (fun _ => rfl) (Or.inl ⟨rfl, rfl⟩)
      fun _ => linkAfterDevices_of_not_createsLink rfl
  · refine ensures_recordEnsured (fun hok => ?_) fun _ itemResults => ?_
    · simp [failedMutation] at hok
    · exact halted_stoppedDeployment (h.progress.orderly_refused (by simpa using hoffers) _ _)

/-- The loop over the links, when all devices were observed. -/
lemma ensures_ensureLinks {items : List Plans.LinkPlan}
    (h : deployer.Underway request capabilities modules devices [] state history)
    (hdevices : ∀ device ∈ request.topology.devices, device ∈ devices) :
    (Interaction.loop (deployer.ensureLink request) state items).Ensures history
      (deployer.Underway request capabilities modules devices []) (deployer.Halted request) := by
  refine ensures_loop (I := fun _ => deployer.Underway request capabilities modules devices []) h ?_
  intro done link _ state history h
  exact ensures_ensureStep h (fun _ => rfl) (Or.inr fun _ => rfl)
    fun _ => h.observed.linkAfterDevices hdevices

/-! ## Observations -/

lemma addsFailures_enter (scan : ObservationScan α) (kind : PhysicalObjectKind)
    (targetId : String) (answer : Except String α) (error : String)
    (failureCode : PhysicalDeploymentFailureCode) :
    AddsFailures scan.state.journal
      (scan.enter kind targetId answer error failureCode).state.journal :=
  addsFailures_recordObserved kind targetId scan.state error

/-- A scan has no error after an observation exactly when it had none and the observation has
none. -/
lemma errors_enter_eq_nil {answer : Except String α} {error : String} :
    (scan.enter kind targetId answer error failureCode).errors = [] ↔
      scan.errors = [] ∧ error = "" := by
  unfold ObservationScan.enter
  by_cases herror : error = ""
  · simp [herror]
  · simp [herror]

lemma ensures_finish
    (h : deployer.Scanned request capabilities modules devices links scan history) :
    (scan.finish request).Ensures history
      (fun result => deployer.Underway request capabilities modules devices links result.1)
      (deployer.Halted request) := by
  unfold ObservationScan.finish
  split
  case h_1 hnil => exact ⟨h.progress, h.observed hnil⟩
  case h_2 failureCode message rest hcons =>
    rw [Interaction.ensures_raise]
    exact halted_stoppedDeployment h.progress.orderly

lemma Progress.concat_observed
    (hprogress : deployer.Progress request capabilities scan.state history)
    (hobserves : event.observes) (kind : PhysicalObjectKind) (targetId : String)
    (answer : Except String α) (error : String) (failureCode : PhysicalDeploymentFailureCode) :
    deployer.Progress request capabilities
      (scan.enter kind targetId answer error failureCode).state (history ++ [event]) := by
  refine hprogress.concat_quiet ?_ (fun hnot => ?_) (addsFailures_enter ..)
  · cases event <;> first | rfl | cases hobserves
  · simp [hobserves] at hnot

/-- The loop over the effects of the modules. -/
lemma ensures_observeModules {items : List Plans.ModulePlan}
    (hcapabilities : ∀ module ∈ items, (capabilities.get? module.moduleId).isSome)
    (h : deployer.Underway request capabilities [] [] [] state history) :
    (Interaction.loop (deployer.observeModule capabilities) { state := state } items).Ensures
      history (deployer.Scanned request capabilities items [] []) (deployer.Halted request) := by
  refine ensures_loop (I := fun done => deployer.Scanned request capabilities done [] [])
    ⟨h.progress, fun _ => h.observed⟩ ?_
  rintro done module hmodule scan history ⟨hprogress, hobserved⟩
  obtain ⟨capability, hget⟩ := Option.isSome_iff_exists.mp (hcapabilities module hmodule)
  unfold observeModule
  simp only [hget]
  split_ifs with hoffers
  · rw [ensures_bind, ensures_exchange, ensures_pure]
    refine ⟨hprogress.concat_observed rfl .., fun herrors => ?_⟩
    obtain ⟨hnil, herror⟩ := errors_enter_eq_nil.mp herrors
    exact (hobserved hnil).concat_module hget herror
  · rw [ensures_pure]
    refine ⟨{ hprogress with records := ?_ }, fun herrors => ?_⟩
    · exact hprogress.records.addFailures (addsFailures_enter ..) rfl
    · have herror := (errors_enter_eq_nil.mp herrors).2
      simp at herror

/-- The loop over the devices. -/
lemma ensures_observeDevices
    (h : deployer.Underway request capabilities modules [] [] state history) :
    (Interaction.loop (deployer.observeDevice request) { state := state } items).Ensures history
      (deployer.Scanned request capabilities modules items []) (deployer.Halted request) := by
  refine ensures_loop (I := fun done => deployer.Scanned request capabilities modules done [])
    ⟨h.progress, fun _ => h.observed⟩ ?_
  rintro done device - scan history ⟨hprogress, hobserved⟩
  unfold observeDevice
  rw [ensures_bind, ensures_exchange, ensures_pure]
  refine ⟨hprogress.concat_observed rfl .., fun herrors => ?_⟩
  obtain ⟨hnil, herror⟩ := errors_enter_eq_nil.mp herrors
  exact (hobserved hnil).concat_device herror

/-- The loop over the links. -/
lemma ensures_observeLinks {items : List Plans.LinkPlan}
    (h : deployer.Underway request capabilities modules devices [] state history) :
    (Interaction.loop deployer.observeLink { state := state } items).Ensures history
      (deployer.Scanned request capabilities modules devices items) (deployer.Halted request) := by
  refine ensures_loop (I := fun done => deployer.Scanned request capabilities modules devices done)
    ⟨h.progress, fun _ => h.observed⟩ ?_
  rintro done link - scan history ⟨hprogress, hobserved⟩
  unfold observeLink
  rw [ensures_bind, ensures_exchange, ensures_pure]
  refine ⟨hprogress.concat_observed rfl .., fun herrors => ?_⟩
  obtain ⟨hnil, herror⟩ := errors_enter_eq_nil.mp herrors
  exact (hobserved hnil).concat_link herror

end TopologyDeployer

end PacketTracer
