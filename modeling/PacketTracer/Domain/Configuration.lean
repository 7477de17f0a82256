import PacketTracer.Domain.Execution
import PacketTracer.Domain.Deployment
import PacketTracer.Library.PyValue

/-!
# Configuration plans and results

`configuration.py`: the typed actions of a configuration plan and the expectations that verify
them.  `verification.py`: what has to be established before an expectation may be verified.
`configuration_dependencies.py`: Kahn's algorithm with a heap, shared by the applicators.  The heap
is a list sorted by key, since popping a heap gives its least entry and no two entries have the same
key.  `configuration_runtime.py`: what a configuration runtime answers and what the applicator
reports.
-/

namespace PacketTracer

open Dicts PyText PyValues

/-- `PrerequisiteKind`. -/
inductive PrerequisiteKind
  | actionApplied
  | actionVerified
  | verificationVerified
  | physicalLinkPresent
  | peerInterfaceEnabled
  | serviceUsable
  | phoneRegistered
  | resourceReady
  deriving DecidableEq

def PrerequisiteKind.value : PrerequisiteKind → String
  | actionApplied => "action_applied"
  | actionVerified => "action_verified"
  | verificationVerified => "verification_verified"
  | physicalLinkPresent => "physical_link_present"
  | peerInterfaceEnabled => "peer_interface_enabled"
  | serviceUsable => "service_usable"
  | phoneRegistered => "phone_registered"
  | resourceReady => "resource_ready"

/-- `VerificationPrerequisite`. -/
structure VerificationPrerequisite where
  kind : PrerequisiteKind
  referenceId : String
  description : String := ""
  deriving DecidableEq

/-- The verifications that prerequisites refer to. -/
def verificationReferences (prerequisites : List VerificationPrerequisite) : List String :=
  (prerequisites.filter (·.kind = .verificationVerified)).map VerificationPrerequisite.referenceId

/-- The statuses an applicator has established so far, by identifier. -/
abbrev StatusMap := Dict String ActionExecutionStatus

/-- The text of a status; a missing status has the empty text. -/
def statusText (statuses : StatusMap) (identifier : String) : String :=
  ((statuses.get? identifier).map ActionExecutionStatus.value).getD ""

/-- Whether one prerequisite is met. -/
def accepted (actionStatuses verificationStatuses resourceStatuses : StatusMap)
    (prerequisite : VerificationPrerequisite) : Bool :=
  match prerequisite.kind with
  | .actionApplied =>
    statusText actionStatuses prerequisite.referenceId ∈
      ["applied", "no_op", "reasserted", "verified"]
  | .actionVerified => statusText actionStatuses prerequisite.referenceId = "verified"
  | .verificationVerified =>
    statusText verificationStatuses prerequisite.referenceId = "verified"
  | _ =>
    statusText resourceStatuses prerequisite.referenceId ∈
      ["present", "ready", "enabled", "usable", "registered", "verified"]

/-- `prerequisites_satisfied`: whether all prerequisites are met, and those that are not. -/
def prerequisitesSatisfied (prerequisites : List VerificationPrerequisite)
    (actionStatuses verificationStatuses resourceStatuses : StatusMap) : Bool × List String :=
  let blocked := (prerequisites.filter fun prerequisite =>
    !accepted actionStatuses verificationStatuses resourceStatuses prerequisite).map
      fun prerequisite => prerequisite.kind.value ++ ":" ++ prerequisite.referenceId
  (blocked.isEmpty, sortedBy id blocked)

lemma prerequisitesSatisfied_fst {prerequisites : List VerificationPrerequisite}
    {actionStatuses verificationStatuses resourceStatuses : StatusMap} :
    (prerequisitesSatisfied prerequisites actionStatuses verificationStatuses
        resourceStatuses).1 = true ↔
      ∀ prerequisite ∈ prerequisites,
        accepted actionStatuses verificationStatuses resourceStatuses prerequisite = true := by
  unfold prerequisitesSatisfied
  rw [List.isEmpty_iff, List.map_eq_nil_iff, List.filter_eq_nil_iff]
  simp only [Bool.not_eq_true', Bool.not_eq_false]

/-- `legacy_action_prerequisites`: an expectation without prerequisites waits for its actions. -/
def legacyActionPrerequisites (actionIds : List String) : List VerificationPrerequisite :=
  (sortedBy id actionIds.dedup).map fun identifier =>
    { kind := .actionApplied, referenceId := identifier }

/-- `ConfigurationPhase`. -/
inductive ConfigurationPhase
  | identity
  | l2Definitions
  | l2Interfaces
  | l3Interfaces
  | services
  | endpointAddressing
  | verification
  deriving DecidableEq

/-- The number an enumeration member carries. -/
def ConfigurationPhase.value : ConfigurationPhase → ℤ
  | identity => 10
  | l2Definitions => 20
  | l2Interfaces => 30
  | l3Interfaces => 40
  | services => 50
  | endpointAddressing => 60
  | verification => 70

/-- `AddressRange`. -/
structure AddressRange where
  start : String
  stop : String
  deriving DecidableEq

/-- The part of an action that depends on its type: one constructor for each action class, with
the fields that the class adds to `BaseConfigurationAction`. -/
inductive ConfigurationActionDetail
  | configureHostname (hostname : String)
  | createVlan (vlanId : ℤ) (name segmentId : String)
  | configureAccessPort (interface : String) (dataVlanId : ℤ) (voiceVlanId : Option ℤ)
      (endpointIds : List String)
  | configureTrunk (interface : String) (allowedVlans : List ℤ) (nativeVlanId : Option ℤ)
      (peerDeviceId sourceLinkId : String)
  | configureRoutedInterface (interface ipv4 : String) (prefixLength : ℤ)
      (netmask segmentId : String) (administrativeUp : Bool)
  | configureSvi (vlanId : ℤ) (ipv4 : String) (prefixLength : ℤ) (netmask segmentId : String)
      (administrativeUp : Bool)
  | configureSubinterface (parentInterface : String) (vlanId : ℤ) (ipv4 : String)
      (prefixLength : ℤ) (netmask segmentId encapsulation : String)
  | configureDhcpPool (poolName segmentId network : String) (prefixLength : ℤ)
      (netmask gateway : String) (dnsServer : Option String) (excludedRanges : List AddressRange)
      (leaseStart leaseEnd : String)
  | setEndpointStaticAddress (interface ipv4 netmask gateway : String)
      (dnsServer : Option String) (segmentId : String)
  | setEndpointDhcp (interface segmentId network : String) (prefixLength : ℤ)
      (netmask gateway : String) (dnsServer : Option String)
  | configureSerialClock (interface : String) (clockRateBps : ℤ) (sourceLinkId : String)
  | configureInterfaceBandwidth (interface : String) (bandwidthKbps : ℤ)
  | configureEthernetLinkMode (interface speed duplex : String)
  deriving DecidableEq

namespace ConfigurationActionDetail

/-- The text of `action_type`. -/
def actionType : ConfigurationActionDetail → String
  | configureHostname .. => "configure_hostname"
  | createVlan .. => "create_vlan"
  | configureAccessPort .. => "configure_access_port"
  | configureTrunk .. => "configure_trunk"
  | configureRoutedInterface .. => "configure_routed_interface"
  | configureSvi .. => "configure_svi"
  | configureSubinterface .. => "configure_subinterface"
  | configureDhcpPool .. => "configure_dhcp_pool"
  | setEndpointStaticAddress .. => "set_endpoint_static"
  | setEndpointDhcp .. => "set_endpoint_dhcp"
  | configureSerialClock .. => "configure_serial_clock"
  | configureInterfaceBandwidth .. => "configure_interface_bandwidth"
  | configureEthernetLinkMode .. => "configure_ethernet_link_mode"

/-- `voice_vlan_id` of an access port; the other classes have no such field. -/
def voiceVlanId : ConfigurationActionDetail → Option ℤ
  | configureAccessPort _ _ voiceVlanId _ => voiceVlanId
  | _ => none

/-- `model_copy(update={"voice_vlan_id": None})`. -/
def withoutVoiceVlan : ConfigurationActionDetail → ConfigurationActionDetail
  | configureAccessPort interface dataVlanId _ endpointIds =>
    configureAccessPort interface dataVlanId none endpointIds
  | detail => detail

@[simp] lemma voiceVlanId_withoutVoiceVlan (detail : ConfigurationActionDetail) :
    detail.withoutVoiceVlan.voiceVlanId = none := by
  cases detail <;> rfl

end ConfigurationActionDetail

/-- `ConfigurationAction`: the fields of `BaseConfigurationAction` and those of the class.
`CreateVlan` fixes its operation, so the operation is read through
`ConfigurationAction.operation`. -/
structure ConfigurationAction where
  id : String
  phase : ConfigurationPhase
  deviceId : String
  deviceName : String
  siteId : String
  dependsOn : List String := []
  applyDependencies : List String := []
  requiredCapability : String := ""
  critical : Bool := true
  declaredOperation : OperationSemantics := .setValue
  compensationAvailable : Bool := false
  inverseActionId : String := ""
  detail : ConfigurationActionDetail
  deriving DecidableEq

namespace ConfigurationAction

/-- `operation`. -/
def operation (action : ConfigurationAction) : OperationSemantics :=
  match action.detail with
  | .createVlan .. => .ensurePresent
  | _ => action.declaredOperation

/-- Whether the action is a `ConfigureAccessPort` with a Voice VLAN. -/
def activatesVoiceVlan (action : ConfigurationAction) : Bool :=
  action.detail.voiceVlanId.isSome

end ConfigurationAction

instance : JournalledAction ConfigurationAction where
  id := ConfigurationAction.id
  operation := ConfigurationAction.operation
  inverseActionId := ConfigurationAction.inverseActionId
  compensationAvailable := ConfigurationAction.compensationAvailable

/-- `VerificationKind`. -/
inductive VerificationKind
  | hostname
  | vlan
  | accessPort
  | trunk
  | l3Interface
  | dhcpPool
  | endpointAddressing
  | serialController
  deriving DecidableEq

/-- A value that an expectation compares with. -/
inductive ExpectedValue
  | text (value : String)
  | number (value : ℤ)
  | flag (value : Bool)
  | numbers (values : List ℤ)
  deriving DecidableEq

/-- `VerificationExpectation`. -/
structure VerificationExpectation where
  id : String
  actionId : String
  kind : VerificationKind
  deviceId : String
  deviceName : String
  expected : List (String × ExpectedValue) := []
  requiredQuery : String := ""
  verificationPrerequisites : List VerificationPrerequisite := []
  deriving DecidableEq

/-- `CapabilityStatus`. -/
inductive CapabilityStatus
  | supported
  | unsupported
  | unknown
  deriving DecidableEq

def CapabilityStatus.value : CapabilityStatus → String
  | supported => "supported"
  | unsupported => "unsupported"
  | unknown => "unknown"

/-- `DeviceConfigurationPlan`. -/
structure DeviceConfigurationPlan where
  deviceId : String
  deviceName : String
  model : String
  deriving DecidableEq

/-- `ConfigurationPlan`. -/
structure ConfigurationPlan where
  id : String
  sourceTopologyHash : String
  sourceTopologyHashSchema : String := "legacy-full-v1"
  semanticHash : String := ""
  actions : List ConfigurationAction := []
  devices : List DeviceConfigurationPlan := []
  verificationExpectations : List VerificationExpectation := []
  deriving DecidableEq

/-- What `order_dependency_actions` reads of an action. -/
class DependencyAction (α : Type) where
  id : α → String
  phase : α → ℤ
  targetId : α → String
  actionType : α → String
  dependsOn : α → List String

instance : DependencyAction ConfigurationAction where
  id := ConfigurationAction.id
  phase action := action.phase.value
  targetId := ConfigurationAction.deviceId
  actionType action := action.detail.actionType
  dependsOn := ConfigurationAction.dependsOn

/-- The texts of `ConfigurationDependencyError`, with the identifiers it carries. -/
inductive ConfigurationDependencyError
  | duplicateIds (actionIds : List String)
  | missingDependencies (actionIds : List String)
  | cycle (actionIds : List String)
  deriving DecidableEq

/-- `str` of the error. -/
def ConfigurationDependencyError.message : ConfigurationDependencyError → String
  | duplicateIds _ => "Duplicate action IDs."
  | missingDependencies _ => "Missing action dependencies."
  | cycle _ => "Action dependency cycle detected."

section Order

variable {α : Type} [DependencyAction α]

open DependencyAction (phase targetId actionType dependsOn)

/-- The order of `_stable_key`. -/
abbrev StableKey := ℤ ×ₗ String ×ₗ String ×ₗ String

/-- `_stable_key`. -/
def stableKey (action : α) : StableKey :=
  toLex (phase action, toLex (targetId action, toLex (actionType action, DependencyAction.id action)))

/-- `heappush`. -/
def heappush (ready : List α) (action : α) : List α :=
  ready.orderedInsert (fun a b => stableKey a ≤ stableKey b) action

/-- The state of the loop: the heap, the open dependencies of every action, and the output. -/
structure KahnState (α : Type) where
  ready : List α
  indegree : Dict String ℤ
  ordered : List α := []

/-- One dependent of the action that was popped: it has one open dependency less, and enters the
heap with its last one. -/
def releaseDependent (byId : Dict String α) (state : KahnState α) (dependentId : String) :
    KahnState α :=
  let degree := (state.indegree.get? dependentId).getD 0 - 1
  let state := { state with indegree := state.indegree.set dependentId degree }
  match byId.get? dependentId with
  | some dependent =>
    if degree = 0 then { state with ready := heappush state.ready dependent } else state
  | none => state

/-- The identifiers of the actions that depend on `identifier`, sorted. -/
def dependentsOf (actions : List α) (identifier : String) : List String :=
  sortedBy id ((actions.filter fun action => identifier ∈ dependsOn action).map DependencyAction.id)

/-- The loop of Kahn's algorithm.  Every action enters the heap at most once, so that as many
iterations as there are actions suffice. -/
def drain (actions : List α) (byId : Dict String α) : ℕ → KahnState α → KahnState α
  | 0, state => state
  | fuel + 1, state =>
    match state.ready with
    | [] => state
    | action :: ready =>
      let state := { state with ready := ready, ordered := state.ordered ++ [action] }
      drain actions byId fuel
        ((dependentsOf actions (DependencyAction.id action)).foldl (releaseDependent byId) state)

/-- `order_dependency_actions`. -/
def orderDependencyActions (actions : List α) : Except ConfigurationDependencyError (List α) :=
  let byId := Dict.ofList (actions.map fun action => (DependencyAction.id action, action))
  if byId.entries.length ≠ actions.length then
    .error (.duplicateIds (sortedBy id (byId.keys.filter fun actionId =>
      (actions.filter fun action => DependencyAction.id action = actionId).length > 1)))
  else
    let missing := (actions.flatMap dependsOn).filter fun dependency => !byId.contains dependency
    if missing ≠ [] then .error (.missingDependencies (sortedBy id missing.dedup))
    else
      let indegree : Dict String ℤ :=
        Dict.ofList (actions.map fun action =>
          (DependencyAction.id action, ((dependsOn action).dedup.length : ℤ)))
      let ready := (actions.filter fun action => (dependsOn action).dedup.length = 0).foldl heappush []
      let final := drain actions byId actions.length { ready := ready, indegree := indegree }
      if final.ordered.length ≠ actions.length then
        .error (.cycle (sortedBy id ((final.indegree.entries.filter fun e => 0 < e.2).map
          Prod.fst)))
      else .ok final.ordered

/-- A list that was ordered has unique identifiers and names no action outside itself. -/
lemma nodup_and_closed_of_orderDependencyActions {actions ordered : List α}
    (h : orderDependencyActions actions = .ok ordered) :
    (actions.map DependencyAction.id).Nodup ∧
      ∀ action ∈ actions, ∀ dependency ∈ dependsOn action,
        dependency ∈ actions.map DependencyAction.id := by
  unfold orderDependencyActions at h
  simp only at h
  split at h
  · cases h
  rename_i hlength
  split at h
  · cases h
  rename_i hmissing
  rw [not_not] at hlength hmissing
  have hids : (actions.map fun action => (DependencyAction.id action, action)).map Prod.fst =
      actions.map DependencyAction.id := by simp [Function.comp_def]
  constructor
  · rw [← hids]
    exact Dict.nodup_keys_of_length_ofList (by rw [hlength, List.length_map])
  · intro action haction dependency hdependency
    have hcontains := List.filter_eq_nil_iff.mp hmissing dependency
      (List.mem_flatMap.mpr ⟨action, haction, hdependency⟩)
    rw [← hids, ← Dict.isSome_get?_ofList_iff]
    simpa only [Dict.contains, Bool.not_eq_true', Bool.not_eq_false] using hcontains

end Order

/-- `ConfigurationApplicationStatus`. -/
inductive ConfigurationApplicationStatus
  | applied
  | verified
  | partial_
  | failed
  | skipped
  deriving DecidableEq

/-- `FieldVerificationStatus`. -/
inductive FieldVerificationStatus
  | verified
  | failed
  | unknown
  | unobservable
  deriving DecidableEq

/-- `ConvergenceReport.details` as the observers of a Voice access group and of an endpoint address
write it: a missing key is `none`, and `others` stands for the keys that no decision reads. -/
structure ConvergenceDetails where
  kind : Option String := none
  switch : Option String := none
  voiceVlanId : Option ℤ := none
  expectedInterfaces : Option (List String) := none
  verifiedFwdInterfaces : Option (List String) := none
  missingInterfaces : Option (List String) := none
  nonFwdInterfaces : Option (Dict String String) := none
  sampleCount : Option ℤ := none
  elapsedMs : Option ℤ := none
  terminalAuthority : Option String := none
  terminalFailureDimension : Option String := none
  terminalSampleRound : Option ℤ := none
  learningExtensionStopReason : Option String := none
  deviceName : Option PyValue := none
  interface : Option PyValue := none
  lastObservation : Option PyValue := none
  others : List (String × String) := []
  deriving DecidableEq

/-- `ConvergenceReport`. -/
structure ConvergenceReport where
  attempts : ℤ := 0
  elapsedMs : ℤ := 0
  finalStatus : ActionExecutionStatus := .unknown
  lastObservableState : String := ""
  details : ConvergenceDetails := {}
  deriving DecidableEq

/-- `ConfigurationRuntimeContext`. -/
structure ConfigurationRuntimeContext where
  backend : String := ""
  backendVersion : String := ""
  capabilitySnapshotHash : String := ""
  environmentFingerprint : Option EnvironmentFingerprint := none
  deriving DecidableEq

/-- `evidence_backend_version`. -/
def ConfigurationRuntimeContext.evidenceBackendVersion (context : ConfigurationRuntimeContext) :
    String :=
  match context.environmentFingerprint with
  | some fingerprint => fingerprint.backendVersion
  | none => context.backendVersion

/-- `RuntimeVerification`: what a runtime observed about one expectation. -/
structure RuntimeVerification where
  expectationId : String
  status : ActionExecutionStatus
  evidenceMethod : String := ""
  freshEvidence : Bool := false
  fields : Dict String FieldVerificationStatus := .empty
  message : String := ""
  convergence : Option ConvergenceReport := none

/-- `VerificationResult`: what the applicator reports about one expectation. -/
structure VerificationResult where
  expectationId : String
  actionId : String
  status : ActionExecutionStatus
  evidenceMethod : String := ""
  freshEvidence : Bool := false
  fields : Dict String FieldVerificationStatus := .empty
  message : String := ""
  convergence : Option ConvergenceReport := none

/-- `VoiceSignalBarrierResult`. -/
structure VoiceSignalBarrierResult where
  required : Bool := false
  deferredActionIds : List String := []
  foundationExpectationIds : List String := []
  preparationResults : List ActionApplicationResult := []
  foundationVerificationResults : List VerificationResult := []
  signalResults : List ActionApplicationResult := []
  postSignalConvergenceResults : List VerificationResult := []
  foundationStatus : ActionExecutionStatus := .unknown
  signalStatus : ActionExecutionStatus := .unknown
  message : String := ""

/-- `ConfigurationApplicationResult`. -/
structure ConfigurationApplicationResult where
  configPlanId : String
  configSemanticHash : String
  sourceTopologyHash : String
  runtimeContext : ConfigurationRuntimeContext := {}
  status : ConfigurationApplicationStatus
  failureCode : ConfigurationFailureCode := .none
  actionResults : List ActionApplicationResult := []
  mutationActionIds : List String := []
  retainedActionIds : List String := []
  verificationResults : List VerificationResult := []
  preflightErrors : List String := []
  deploymentId : String := ""
  executionJournal : Option ApplicationExecutionJournal := none
  dirtyState : DirtyState := .clean
  voiceSignalBarrier : Option VoiceSignalBarrierResult := none

end PacketTracer
