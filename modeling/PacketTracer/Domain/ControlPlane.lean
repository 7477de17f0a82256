import PacketTracer.Domain.DependencyOrder

/-!
# Control-plane plans and results

`control_plane.py`: the typed actions of a control-plane plan, the expectations that verify them and
the failure scenarios that exercise them.  `control_plane_runtime.py`: what a control-plane runtime
answers and what the applicator reports.
-/

namespace PacketTracer

open Dicts PyText

/-! ## Capabilities -/

/-- `SecurityCapabilityStatus`. -/
inductive SecurityCapabilityStatus
  | supported
  | partial_
  | unknown
  | unsupported
  | unobservable
  | skipped
  deriving DecidableEq

def SecurityCapabilityStatus.value : SecurityCapabilityStatus → String
  | supported => "supported"
  | partial_ => "partial"
  | unknown => "unknown"
  | unsupported => "unsupported"
  | unobservable => "unobservable"
  | skipped => "skipped"

/-- `ControlPlaneCapabilityDimension`. -/
inductive ControlPlaneCapabilityDimension
  | stpPvstConfig
  | stpRapidPvstConfig
  | stpMstConfig
  | stpEdgeConfig
  | etherchannelLacpConfig
  | etherchannelPagpConfig
  | etherchannelStaticConfig
  | hsrpConfig
  | ospfv2Config
  | eigrpIpv4Config
  | ripv2Config
  | stpReadback
  | etherchannelReadback
  | hsrpReadback
  | routingProcessReadback
  | routingNeighborReadback
  | routeReadback
  | behavioralReachability
  | linkFailureControl
  | stpState
  | stpBehavior
  | stpFailover
  | etherchannelState
  | etherchannelBehavior
  | etherchannelFailover
  | hsrpState
  | hsrpBehavior
  | hsrpFailover
  | routingProcessState
  | routingNeighborState
  | routingRouteState
  | routingBehavior
  | routingFailover
  deriving DecidableEq

def ControlPlaneCapabilityDimension.value : ControlPlaneCapabilityDimension → String
  | stpPvstConfig => "stp_pvst_config"
  | stpRapidPvstConfig => "stp_rapid_pvst_config"
  | stpMstConfig => "stp_mst_config"
  | stpEdgeConfig => "stp_edge_config"
  | etherchannelLacpConfig => "etherchannel_lacp_config"
  | etherchannelPagpConfig => "etherchannel_pagp_config"
  | etherchannelStaticConfig => "etherchannel_static_config"
  | hsrpConfig => "hsrp_config"
  | ospfv2Config => "ospfv2_config"
  | eigrpIpv4Config => "eigrp_ipv4_config"
  | ripv2Config => "ripv2_config"
  | stpReadback => "stp_readback"
  | etherchannelReadback => "etherchannel_readback"
  | hsrpReadback => "hsrp_readback"
  | routingProcessReadback => "routing_process_readback"
  | routingNeighborReadback => "routing_neighbor_readback"
  | routeReadback => "route_readback"
  | behavioralReachability => "behavioral_reachability"
  | linkFailureControl => "link_failure_control"
  | stpState => "stp_state"
  | stpBehavior => "stp_behavior"
  | stpFailover => "stp_failover"
  | etherchannelState => "etherchannel_state"
  | etherchannelBehavior => "etherchannel_behavior"
  | etherchannelFailover => "etherchannel_failover"
  | hsrpState => "hsrp_state"
  | hsrpBehavior => "hsrp_behavior"
  | hsrpFailover => "hsrp_failover"
  | routingProcessState => "routing_process_state"
  | routingNeighborState => "routing_neighbor_state"
  | routingRouteState => "routing_route_state"
  | routingBehavior => "routing_behavior"
  | routingFailover => "routing_failover"

/-- `ControlPlaneCapabilityProfile`. -/
structure ControlPlaneCapabilityProfile where
  model : String
  dimensions : Dict ControlPlaneCapabilityDimension SecurityCapabilityStatus := .empty
  packetTracerVersion : Option String := none

/-- `ControlPlaneCapabilityProfile.status`. -/
def ControlPlaneCapabilityProfile.status (profile : ControlPlaneCapabilityProfile)
    (dimension : ControlPlaneCapabilityDimension) : SecurityCapabilityStatus :=
  (profile.dimensions.get? dimension).getD .unknown

/-! ## Actions -/

/-- `ControlPlanePhase`. -/
inductive ControlPlanePhase
  | l2Foundation
  | l2Resiliency
  | l3Resiliency
  | dynamicRouting
  deriving DecidableEq

/-- The number an enumeration member carries. -/
def ControlPlanePhase.value : ControlPlanePhase → ℤ
  | l2Foundation => 20
  | l2Resiliency => 30
  | l3Resiliency => 40
  | dynamicRouting => 50

/-- `StpMode`. -/
inductive StpMode
  | pvst
  | rapidPvst
  | mst
  deriving DecidableEq

/-- `EtherChannelProtocol`. -/
inductive EtherChannelProtocol
  | lacp
  | pagp
  | static
  deriving DecidableEq

/-- `RoutingNetwork`. -/
structure RoutingNetwork where
  network : String
  wildcard : String
  segmentId : String
  interface : String
  sourceConfigurationActionId : String
  area : Option ℤ := none
  deriving DecidableEq

/-- `RipNetwork`. -/
structure RipNetwork where
  network : String
  sourceSegmentIds : List String := []
  sourceConfigurationActionIds : List String := []
  deriving DecidableEq

/-- The part of an action that depends on its type: one constructor for each action class, with
the fields that the class adds to `BaseControlPlaneAction`. -/
inductive ControlPlaneActionDetail
  | configureSpanningTree (mode : StpMode)
      (vlanIds rootPrimaryVlans rootSecondaryVlans : List ℤ) (priorities : List (ℤ × ℤ))
      (mstInstances : List (ℤ × List ℤ)) (sourceVlanActionIds : List String)
  | configureStpEdgePort (interface : String) (portfast bpduguard : Bool)
      (sourceAccessActionId : String)
  | configureEtherChannel (etherchannelId peerDeviceId : String)
      (protocol : EtherChannelProtocol) (channelGroup : ℤ) (portChannelInterface : String)
      (memberInterfaces : List String) (allowedVlans : List ℤ) (nativeVlanId : Option ℤ)
      (sourceLinkIds sourceTrunkActionIds : List String)
  | configureHsrp (redundancyId interface segmentId : String) (groupNumber : ℤ)
      (virtualIpv4 physicalIpv4 : String) (priority : ℤ) (preempt : Bool)
      (sourceConfigurationActionId : String)
  | configureOspfv2 (processId : ℤ) (routerId : String) (networks : List RoutingNetwork)
      (passiveInterfaces : List String)
  | configureEigrpIpv4 (asNumber : ℤ) (routerId : String) (networks : List RoutingNetwork)
      (passiveInterfaces : List String) (noAutoSummary : Bool)
  | configureRipv2 (networks : List RipNetwork) (passiveInterfaces : List String)
      (noAutoSummary : Bool)
  deriving DecidableEq

/-- The text of `ControlPlaneActionType`. -/
def ControlPlaneActionDetail.actionType : ControlPlaneActionDetail → String
  | configureSpanningTree .. => "configure_stp"
  | configureStpEdgePort .. => "configure_stp_edge_port"
  | configureEtherChannel .. => "configure_etherchannel"
  | configureHsrp .. => "configure_hsrp"
  | configureOspfv2 .. => "configure_ospfv2"
  | configureEigrpIpv4 .. => "configure_eigrp_ipv4"
  | configureRipv2 .. => "configure_ripv2"

/-- `ControlPlaneAction`: `BaseControlPlaneAction` with the data of its class. -/
structure ControlPlaneAction where
  id : String
  phase : ControlPlanePhase
  deviceId : String
  deviceName : String
  model : String
  dependsOn : List String := []
  applyDependencies : List String := []
  requiredCapability : ControlPlaneCapabilityDimension
  operation : OperationSemantics := .setValue
  compensationAvailable : Bool := false
  inverseActionId : String := ""
  detail : ControlPlaneActionDetail
  deriving DecidableEq

instance : DependencyAction ControlPlaneAction where
  id := ControlPlaneAction.id
  phase action := action.phase.value
  targetId := ControlPlaneAction.deviceId
  actionType action := action.detail.actionType
  dependsOn := ControlPlaneAction.dependsOn

instance : JournalledAction ControlPlaneAction where
  id := ControlPlaneAction.id
  operation := ControlPlaneAction.operation
  inverseActionId := ControlPlaneAction.inverseActionId
  compensationAvailable := ControlPlaneAction.compensationAvailable

/-- `ControlPlaneFoundationRequirement.kind`. -/
inductive ControlPlaneFoundationKind
  | l3Interface
  | endpointAddress
  | vlan
  | accessPort
  | trunk
  | link
  | security
  deriving DecidableEq

/-- `ControlPlaneFoundationRequirement`. -/
structure ControlPlaneFoundationRequirement where
  id : String
  kind : ControlPlaneFoundationKind
  sourceId : String
  sourceHash : String := ""
  deriving DecidableEq

/-! ## Forwarding targets -/

/-- `ForwardingEndpointSelection`: the identity of a target in the plan. -/
structure ForwardingEndpointSelection where
  sourceTopologyHash : String
  sourceConfigurationHash : String
  endpointDeviceId : String
  endpointModel : String
  linkId : String
  endpointInterface : String
  peerDeviceId : String
  peerInterface : String
  deriving DecidableEq

/-- `ForwardingRuntimeEndpoint`: what a selection corresponds to in a manifest. -/
structure ForwardingRuntimeEndpoint where
  selection : ForwardingEndpointSelection
  runtimeDeviceName : String
  identityMethod : IdentityMethod
  deploymentId : String
  runtimeLinkIdentifier : String := ""
  runtimeLinkIdentityObserved : Bool := false
  deriving DecidableEq

/-- `resolve_forwarding_runtime_endpoint`. -/
def resolveForwardingRuntimeEndpoint (selection : ForwardingEndpointSelection)
    (manifest : DeploymentManifest) : Except String ForwardingRuntimeEndpoint := do
  if manifest.physicalTopologyHash ≠ selection.sourceTopologyHash then
    throw "Forwarding selection topology hash does not match DeploymentManifest."
  let binding ← manifest.bindingFor selection.endpointDeviceId
  if binding.model ≠ selection.endpointModel then
    throw "Forwarding endpoint model differs from its manifest binding."
  if selection.endpointInterface ∉ binding.ports then
    throw "Forwarding endpoint interface is absent from its manifest binding."
  let link ← manifest.linkBindingFor selection.linkId
  let endpoint ← link.endpointFor selection.endpointDeviceId
  let peer ← link.endpointFor selection.peerDeviceId
  if endpoint.interface ≠ selection.endpointInterface ∨
      peer.interface ≠ selection.peerInterface then
    throw "Forwarding link interfaces differ from the selected E4 link."
  return {
    selection := selection
    runtimeDeviceName := binding.deployedName
    identityMethod := binding.identityMethod
    deploymentId := manifest.deploymentId
    runtimeLinkIdentifier := link.runtimeLinkIdentifier
    runtimeLinkIdentityObserved := link.runtimeLinkIdentityObserved }

/-! ## Expectations and scenarios -/

/-- `ControlPlaneVerificationKind`. -/
inductive ControlPlaneVerificationKind
  | stpState
  | etherchannelState
  | hsrpState
  | routingProcess
  | routingNeighbor
  | routePresent
  | endToEndReachability
  | linkFailureConvergence
  | restoreRecovery
  deriving DecidableEq

/-- A value that an expectation expects of a field. -/
inductive ControlPlaneExpectedValue
  | text (value : String)
  | number (value : ℤ)
  | flag (value : Bool)
  | texts (values : List String)
  | numbers (values : List ℤ)
  | numberTable (entries : List (ℤ × ℤ))
  deriving DecidableEq

/-- `ControlPlaneVerificationExpectation`. -/
structure ControlPlaneVerificationExpectation where
  id : String
  kind : ControlPlaneVerificationKind
  actionId : String
  deviceId : String
  peerDeviceId : String := ""
  forwardingEndpoint : Option ForwardingEndpointSelection := none
  forwardingRuntimeEndpoint : Option ForwardingRuntimeEndpoint := none
  requiredCapability : ControlPlaneCapabilityDimension
  expected : Dict String ControlPlaneExpectedValue := .empty
  dependsOn : List String := []
  verificationPrerequisites : List VerificationPrerequisite := []

/-- `LinkFailureScenario`. -/
structure LinkFailureScenario where
  id : String
  deviceAId : String
  deviceBId : String
  targetDeviceId : String
  targetDeviceName : String
  targetInterface : String
  peerDeviceId : String
  peerDeviceName : String
  peerInterface : String
  probeSourceDeviceId : String
  probeSourceDeviceName : String
  probeDestinationDeviceId : String
  probeDestinationDeviceName : String
  restoreRequired : Bool := true
  verificationExpectationIds : List String := []
  deriving DecidableEq

/-- `ControlPlanePlan`. -/
structure ControlPlanePlan where
  id : String
  sourceTopologyHash : String
  sourceTopologyHashSchema : String := "legacy-full-v1"
  sourceConfigurationId : String
  sourceConfigurationHash : String
  sourceSecurityHash : String := ""
  semanticHash : String := ""
  actions : List ControlPlaneAction := []
  foundationalRequirements : List ControlPlaneFoundationRequirement := []
  verificationExpectations : List ControlPlaneVerificationExpectation := []
  failureScenarios : List LinkFailureScenario := []

/-! ## The order of verification -/

/-- The verifications that an expectation waits for. -/
def ControlPlaneVerificationExpectation.verificationReferences
    (item : ControlPlaneVerificationExpectation) : List String :=
  PacketTracer.verificationReferences item.verificationPrerequisites

/-- Expectations are ordered by the same algorithm as actions, and ties by identifier alone. -/
instance : DependencyAction ControlPlaneVerificationExpectation where
  id := ControlPlaneVerificationExpectation.id
  phase _ := 0
  targetId _ := ""
  actionType _ := ""
  dependsOn := ControlPlaneVerificationExpectation.verificationReferences

section Order

variable {α : Type} [DependencyAction α]

/-- The text about the first expectation that refers to an unknown one. -/
def unknownVerificationMessage (expectations : List α) : String :=
  let identifiers := expectations.map DependencyAction.id
  let unknown (item : α) :=
    sortedBy id ((DependencyAction.dependsOn item).dedup.filter (· ∉ identifiers))
  match expectations.find? fun item => unknown item ≠ [] with
  | some item =>
    s!"Verification {quoted (DependencyAction.id item)} references unknown verification(s): " ++
      String.intercalate ", " (unknown item)
  | none => ""

/-- `order_verification_expectations`. -/
def orderVerificationExpectations (expectations : List α) : Except String (List α) :=
  match orderDependencyActions expectations with
  | .ok ordered => .ok ordered
  | .error (.duplicateIds _) => .error "Duplicate verification expectation id."
  | .error (.missingDependencies _) => .error (unknownVerificationMessage expectations)
  | .error (.cycle unresolved) =>
    .error ("Verification dependency cycle: " ++ String.intercalate ", " unresolved)

end Order

/-- `ControlPlaneExecutionStage`. -/
inductive ControlPlaneExecutionStage
  | configured
  | applied
  | observed
  | behavior
  | failover
  | restore
  deriving DecidableEq

def ControlPlaneExecutionStage.value : ControlPlaneExecutionStage → String
  | configured => "configured"
  | applied => "applied"
  | observed => "observed"
  | behavior => "behavior"
  | failover => "failover"
  | restore => "restore"

/-- `FailureTransitionPhase`. -/
inductive FailureTransitionPhase
  | baselineObserved
  | faultInjected
  | failoverObserved
  | restoreDispatched
  | recoveryObserved
  deriving DecidableEq

/-- The position of a phase in the canonical order. -/
def FailureTransitionPhase.canonical : FailureTransitionPhase → ℕ
  | baselineObserved => 0
  | faultInjected => 1
  | failoverObserved => 2
  | restoreDispatched => 3
  | recoveryObserved => 4

/-- `FailureScenarioTransition`. -/
structure FailureScenarioTransition where
  sequence : ℤ
  phase : FailureTransitionPhase
  elapsedMs : ℤ
  status : ActionExecutionStatus
  evidenceMethod : String := ""
  message : String := ""
  deriving DecidableEq

/-- `RuntimeControlPlaneVerification`: what a runtime observed about one expectation. -/
structure RuntimeControlPlaneVerification where
  expectationId : String
  stage : ControlPlaneExecutionStage
  status : ActionExecutionStatus
  evidenceMethod : String := ""
  freshEvidence : Bool := false
  fields : Dict String FieldVerificationStatus := .empty
  message : String := ""
  convergence : Option ConvergenceReport := none

/-- `ControlPlaneVerificationResult`: what the applicator reports about one expectation. -/
structure ControlPlaneVerificationResult where
  expectationId : String
  actionId : String
  kind : ControlPlaneVerificationKind
  stage : ControlPlaneExecutionStage
  status : ActionExecutionStatus
  evidenceMethod : String := ""
  freshEvidence : Bool := false
  fields : Dict String FieldVerificationStatus := .empty
  message : String := ""
  convergence : Option ConvergenceReport := none

/-- `RuntimeFailureScenarioResult`: what a runtime did and observed in one scenario. -/
structure RuntimeFailureScenarioResult where
  scenarioId : String
  before : Option RuntimeControlPlaneVerification := none
  injection : Option RuntimeActionMutation := none
  during : Option RuntimeControlPlaneVerification := none
  restoreAttempted : Bool := false
  restore : Option RuntimeActionMutation := none
  after : Option RuntimeControlPlaneVerification := none
  transitions : List FailureScenarioTransition := []
  message : String := ""

/-- `FailureScenarioResult`: what the applicator reports about one scenario. -/
structure FailureScenarioResult where
  scenarioId : String
  status : ActionExecutionStatus
  failureCode : ConfigurationFailureCode := .none
  baselineStatus : ActionExecutionStatus := .skipped
  injectionStatus : ActionExecutionStatus := .skipped
  failoverStatus : ActionExecutionStatus := .skipped
  restoreStatus : ActionExecutionStatus := .skipped
  recoveryStatus : ActionExecutionStatus := .skipped
  restoreAttempted : Bool := false
  before : Option RuntimeControlPlaneVerification := none
  during : Option RuntimeControlPlaneVerification := none
  after : Option RuntimeControlPlaneVerification := none
  transitions : List FailureScenarioTransition := []
  message : String := ""

/-- `ControlPlaneApplicationResult`. -/
structure ControlPlaneApplicationResult where
  controlPlanePlanId : String
  controlPlaneSemanticHash : String
  sourceTopologyHash : String
  sourceConfigurationHash : String
  sourceSecurityHash : String := ""
  runtimeContext : ConfigurationRuntimeContext := {}
  status : ConfigurationApplicationStatus
  failureCode : ConfigurationFailureCode := .none
  configuredStatus : ActionExecutionStatus := .compiled
  appliedStatus : ActionExecutionStatus := .skipped
  observedStatus : ActionExecutionStatus := .skipped
  behaviorStatus : ActionExecutionStatus := .skipped
  failoverStatus : ActionExecutionStatus := .skipped
  actionResults : List ActionApplicationResult := []
  mutationActionIds : List String := []
  retainedActionIds : List String := []
  observedResults : List ControlPlaneVerificationResult := []
  behaviorResults : List ControlPlaneVerificationResult := []
  failoverResults : List ControlPlaneVerificationResult := []
  scenarioResults : List FailureScenarioResult := []
  preflightErrors : List String := []
  deploymentId : String := ""
  executionJournal : Option ApplicationExecutionJournal := none
  dirtyState : DirtyState := .clean

end PacketTracer
