import PacketTracer.Domain.ControlPlane

/-!
# Security plans and results

`security_plan.py`: the security that is asked for, and the typed actions, expectations and
foundations of a compiled security plan.  `security_runtime.py`: what a security runtime answers and
what the applicator reports.
-/

namespace PacketTracer

open Dicts

/-! ## Intent -/

/-- `SecurityDecision`. -/
inductive SecurityDecision
  | allow
  | deny
  deriving DecidableEq

/-- `SecurityPolicyIntent`. -/
structure SecurityPolicyIntent where
  id : String
  sourceSegmentId : String
  destinationSegmentId : String := ""
  destinationServiceId : String := ""
  destinationCallControlId : String := ""
  protocol : String := "ip"
  sourcePorts : List ℤ := []
  destinationPorts : List ℤ := []
  decision : SecurityDecision
  priority : ℤ := 100
  logging : Bool := false
  deriving DecidableEq

/-- `NatMode`. -/
inductive NatMode
  | pat
  | static
  | dynamic
  deriving DecidableEq

/-- `StaticNatMappingIntent`. -/
structure StaticNatMappingIntent where
  insideEndpointId : String
  outsideGlobalAddress : String
  deriving DecidableEq

/-- `DynamicNatPoolIntent`. -/
structure DynamicNatPoolIntent where
  startAddress : String
  endAddress : String
  prefixLength : ℤ
  deriving DecidableEq

/-- `NatPolicyIntent`. -/
structure NatPolicyIntent where
  id : String
  routerDeviceId : String
  mode : NatMode
  insideSegmentIds : List String
  outsideSegmentId : String
  probeDestinationDeviceId : String := ""
  staticMappings : List StaticNatMappingIntent := []
  dynamicPool : Option DynamicNatPoolIntent := none
  deriving DecidableEq

/-- `PortSecurityPolicyIntent`. -/
structure PortSecurityPolicyIntent where
  id : String
  endpointIds : List String
  maxMacs : ℤ := 1
  violation : String := "restrict"
  sticky : Bool := true
  deriving DecidableEq

/-- `DhcpInspectionPolicyIntent`. -/
structure DhcpInspectionPolicyIntent where
  id : String
  siteId : String
  segmentIds : List String
  enableSnooping : Bool := true
  enableDai : Bool := false
  deriving DecidableEq

/-- `DeviceHardeningIntent`. -/
structure DeviceHardeningIntent where
  id : String
  deviceIds : List String
  bannerMotd : String := ""
  servicePasswordEncryption : Bool := true
  deriving DecidableEq

/-- `SecurityIntent`. -/
structure SecurityIntent where
  id : String
  policies : List SecurityPolicyIntent := []
  natPolicies : List NatPolicyIntent := []
  portSecurity : List PortSecurityPolicyIntent := []
  dhcpInspection : List DhcpInspectionPolicyIntent := []
  hardening : List DeviceHardeningIntent := []
  defaultDecision : SecurityDecision := .allow
  deriving DecidableEq

/-! ## Capabilities -/

/-- `SecurityCapabilityDimension`. -/
inductive SecurityCapabilityDimension
  | aclConfig
  | aclReadback
  | aclBehavioral
  | natConfig
  | natPatConfig
  | natStaticConfig
  | natDynamicConfig
  | natInterfaceRoleReadback
  | natTranslationReadback
  | natBehavioral
  | natPatBehavioral
  | natStaticBehavioral
  | natDynamicBehavioral
  | portSecurityConfig
  | portSecurityReadback
  | portSecurityBehavioral
  | dhcpSnoopingConfig
  | dhcpSnoopingReadback
  | dhcpSnoopingBehavioral
  | daiConfig
  | daiReadback
  | daiBehavioral
  | hardeningConfig
  | hardeningReadback
  deriving DecidableEq

def SecurityCapabilityDimension.value : SecurityCapabilityDimension → String
  | aclConfig => "acl_config"
  | aclReadback => "acl_readback"
  | aclBehavioral => "acl_behavioral"
  | natConfig => "nat_config"
  | natPatConfig => "nat_pat_config"
  | natStaticConfig => "nat_static_config"
  | natDynamicConfig => "nat_dynamic_config"
  | natInterfaceRoleReadback => "nat_interface_role_readback"
  | natTranslationReadback => "nat_translation_readback"
  | natBehavioral => "nat_behavioral"
  | natPatBehavioral => "nat_pat_behavioral"
  | natStaticBehavioral => "nat_static_behavioral"
  | natDynamicBehavioral => "nat_dynamic_behavioral"
  | portSecurityConfig => "port_security_config"
  | portSecurityReadback => "port_security_readback"
  | portSecurityBehavioral => "port_security_behavioral"
  | dhcpSnoopingConfig => "dhcp_snooping_config"
  | dhcpSnoopingReadback => "dhcp_snooping_readback"
  | dhcpSnoopingBehavioral => "dhcp_snooping_behavioral"
  | daiConfig => "dai_config"
  | daiReadback => "dai_readback"
  | daiBehavioral => "dai_behavioral"
  | hardeningConfig => "hardening_config"
  | hardeningReadback => "hardening_readback"

/-- `SecurityCapabilityProfile`. -/
structure SecurityCapabilityProfile where
  model : String
  dimensions : Dict SecurityCapabilityDimension SecurityCapabilityStatus := .empty

/-- `SecurityCapabilityProfile.status`. -/
def SecurityCapabilityProfile.status (profile : SecurityCapabilityProfile)
    (dimension : SecurityCapabilityDimension) : SecurityCapabilityStatus :=
  (profile.dimensions.get? dimension).getD .unknown

/-! ## Actions -/

/-- `SecurityPhase`. -/
inductive SecurityPhase
  | definitions
  | enforcement
  | attachments
  | hardening
  | verification
  deriving DecidableEq

/-- The number an enumeration member carries. -/
def SecurityPhase.value : SecurityPhase → ℤ
  | definitions => 20
  | enforcement => 30
  | attachments => 40
  | hardening => 50
  | verification => 60

/-- `CompiledStaticNatMapping`. -/
structure CompiledStaticNatMapping where
  insideEndpointId : String
  insideLocalAddress : String
  outsideGlobalAddress : String
  deriving DecidableEq

/-- `CompiledDynamicNatPool`. -/
structure CompiledDynamicNatPool where
  name : String
  startAddress : String
  endAddress : String
  netmask : String
  deriving DecidableEq

/-- `AddSecurityAclRule` without the fields of `BaseSecurityAction`. -/
structure SecurityAclRule where
  aclName : String
  sequence : ℤ
  policyId : String := ""
  decision : SecurityDecision
  protocol : String
  sourceCidr : String
  destinationCidr : String
  sourcePorts : List ℤ := []
  destinationPorts : List ℤ := []
  logging : Bool := false
  defaultRule : Bool := false
  deriving DecidableEq

/-- `AttachSecurityAcl` without the fields of `BaseSecurityAction`. -/
structure SecurityAclAttachment where
  aclName : String
  interface : String
  direction : String
  deriving DecidableEq

/-- `ConfigureSecurityNat` without the fields of `BaseSecurityAction`. -/
structure SecurityNat where
  policyId : String
  mode : NatMode
  insideInterfaces : List String
  outsideInterface : String
  insideNetworks : List String
  translationAclNumber : ℤ
  probeDestinationDeviceId : String := ""
  staticMappings : List CompiledStaticNatMapping := []
  dynamicPool : Option CompiledDynamicNatPool := none
  deriving DecidableEq

/-- The part of an action that depends on its type: one constructor for each action class, with the
fields that the class adds to `BaseSecurityAction`. -/
inductive SecurityActionDetail
  | createSecurityAcl (aclName : String)
  | addSecurityAclRule (rule : SecurityAclRule)
  | attachSecurityAcl (attachment : SecurityAclAttachment)
  | configureSecurityNat (nat : SecurityNat)
  | configureEndpointPortSecurity (policyId switchDeviceId interface : String)
      (endpointIds : List String) (maxMacs : ℤ) (violation : String) (sticky : Bool)
      (accessConfigurationActionId : String)
  | configureDhcpSnooping (policyId : String) (vlanIds : List ℤ) (trustedInterfaces : List String)
  | configureDynamicArpInspection (policyId : String) (vlanIds : List ℤ)
      (trustedInterfaces : List String)
  | applyDeviceHardening (policyId bannerMotd : String) (servicePasswordEncryption : Bool)
  deriving DecidableEq

/-- The text of `SecurityActionType`. -/
def SecurityActionDetail.actionType : SecurityActionDetail → String
  | createSecurityAcl .. => "create_acl"
  | addSecurityAclRule .. => "add_acl_rule"
  | attachSecurityAcl .. => "attach_acl"
  | configureSecurityNat .. => "configure_nat"
  | configureEndpointPortSecurity .. => "configure_port_security"
  | configureDhcpSnooping .. => "configure_dhcp_snooping"
  | configureDynamicArpInspection .. => "configure_dynamic_arp_inspection"
  | applyDeviceHardening .. => "apply_device_hardening"

/-- `SecurityAction`: `BaseSecurityAction` with the data of its class.  `statedOperation` is
`operation` where the class does not fix it. -/
structure SecurityAction where
  id : String
  phase : SecurityPhase
  deviceId : String
  deviceName : String
  model : String
  siteId : String
  dependsOn : List String := []
  applyDependencies : List String := []
  requiredCapability : SecurityCapabilityDimension
  critical : Bool := true
  statedOperation : OperationSemantics := .setValue
  compensationAvailable : Bool := false
  inverseActionId : String := ""
  detail : SecurityActionDetail
  deriving DecidableEq

/-- `operation`: what two classes fix, and the others carry. -/
def SecurityAction.operation (action : SecurityAction) : OperationSemantics :=
  match action.detail with
  | .createSecurityAcl _ => .ensurePresent
  | .addSecurityAclRule _ => .ensurePresent
  | _ => action.statedOperation

instance : DependencyAction SecurityAction where
  id := SecurityAction.id
  phase action := action.phase.value
  targetId := SecurityAction.deviceId
  actionType action := action.detail.actionType
  dependsOn := SecurityAction.dependsOn

instance : JournalledAction SecurityAction where
  id := SecurityAction.id
  operation := SecurityAction.operation
  inverseActionId := SecurityAction.inverseActionId
  compensationAvailable := SecurityAction.compensationAvailable

/-! ## Expectations and plans -/

/-- `SecurityVerificationKind`. -/
inductive SecurityVerificationKind
  | trafficPolicy
  | aclDirectState
  | natDirectState
  | natTranslation
  | portSecurityState
  | portSecurityViolation
  | dhcpSnoopingState
  | daiState
  | hardeningState
  deriving DecidableEq

def SecurityVerificationKind.value : SecurityVerificationKind → String
  | trafficPolicy => "traffic_policy"
  | aclDirectState => "acl_direct_state"
  | natDirectState => "nat_direct_state"
  | natTranslation => "nat_translation"
  | portSecurityState => "port_security_state"
  | portSecurityViolation => "port_security_violation"
  | dhcpSnoopingState => "dhcp_snooping_state"
  | daiState => "dai_state"
  | hardeningState => "hardening_state"

/-- `SecurityProbeKind`. -/
inductive SecurityProbeKind
  | icmpReachability
  | dnsLookup
  | httpFetch
  | httpsFetch
  | ntpSync
  | tftpGet
  | voiceCall
  | directReadback
  | unobservable
  deriving DecidableEq

/-- `SecurityVerificationExpectation`. -/
structure SecurityVerificationExpectation where
  id : String
  kind : SecurityVerificationKind
  actionId : String
  policyId : String
  probeKind : SecurityProbeKind
  expectedDecision : SecurityDecision := .allow
  sourceDeviceId : String := ""
  sourceDeviceName : String := ""
  sourceAddress : String := ""
  destinationDeviceId : String := ""
  destinationDeviceName : String := ""
  destinationAddress : String := ""
  protocol : String := "ip"
  destinationPorts : List ℤ := []
  baselineRequired : Bool := false
  cleanupRecoveryRequired : Bool := false
  requiredQuery : String := ""
  dependsOn : List String := []
  verificationPrerequisites : List VerificationPrerequisite := []
  deriving DecidableEq

/-- `security_verification_capability` for an expectation about an action, if there is one. -/
def securityVerificationCapability (expectation : SecurityVerificationExpectation)
    (action : Option SecurityAction) : SecurityCapabilityDimension :=
  match expectation.kind with
  | .natTranslation =>
    match action.map SecurityAction.detail with
    | some (.configureSecurityNat nat) =>
      match nat.mode with
      | .pat => .natPatBehavioral
      | .static => .natStaticBehavioral
      | .dynamic => .natDynamicBehavioral
    | _ => .natBehavioral
  | .trafficPolicy => .aclBehavioral
  | .portSecurityViolation => .portSecurityBehavioral
  | .aclDirectState => .aclReadback
  | .natDirectState => .natInterfaceRoleReadback
  | .portSecurityState => .portSecurityReadback
  | .dhcpSnoopingState => .dhcpSnoopingReadback
  | .daiState => .daiReadback
  | .hardeningState => .hardeningReadback

/-- The verifications that an expectation waits for. -/
def SecurityVerificationExpectation.verificationReferences
    (item : SecurityVerificationExpectation) : List String :=
  PacketTracer.verificationReferences item.verificationPrerequisites

/-- Expectations are ordered by the same algorithm as actions, and ties by identifier alone. -/
instance : DependencyAction SecurityVerificationExpectation where
  id := SecurityVerificationExpectation.id
  phase _ := 0
  targetId _ := ""
  actionType _ := ""
  dependsOn := SecurityVerificationExpectation.verificationReferences

/-- `SecurityFoundationRequirement`. -/
structure SecurityFoundationRequirement where
  id : String
  kind : String
  sourceId : String
  deriving DecidableEq

/-- `SecurityPlan`. -/
structure SecurityPlan where
  id : String
  defaultDecision : SecurityDecision := .allow
  sourceTopologyId : String
  sourceTopologyHash : String
  sourceTopologyHashSchema : String := "legacy-full-v1"
  sourceConfigurationId : String
  sourceConfigurationHash : String
  sourceServiceId : String := ""
  sourceServiceHash : String := ""
  sourceVoiceId : String := ""
  sourceVoiceHash : String := ""
  semanticHash : String := ""
  actions : List SecurityAction := []
  foundationalRequirements : List SecurityFoundationRequirement := []
  verificationExpectations : List SecurityVerificationExpectation := []
  deriving DecidableEq

/-! ## Issues -/

/-- `ConfigurationIssueSeverity`. -/
inductive ConfigurationIssueSeverity
  | error
  | warning
  deriving DecidableEq

def ConfigurationIssueSeverity.value : ConfigurationIssueSeverity → String
  | error => "error"
  | warning => "warning"

/-- `ConfigurationIssueCode`: the members that the service, voice and security compilers report. -/
inductive ConfigurationIssueCode
  | dependencyMissing
  | dependencyCycle
  | capabilityUnverified
  | capabilityUnsupported
  | sourceTopologyHashMissing
  | sourceConfigurationHashMissing
  | sourceConfigurationTopologyMismatch
  | serviceTypeInvalid
  | serviceHostMissing
  | foundationalConfigurationMissing
  | serviceAddressInvalid
  | serviceAddressMismatch
  | serviceSegmentMismatch
  | serviceClientMissing
  | dnsHostnameInvalid
  | dnsRecordConflict
  | httpContentUnsafe
  | tftpFilenameUnsafe
  | voiceSourceServiceMismatch
  | voiceServiceDependencyMissing
  | phoneEndpointMissing
  | foundationalVoiceVlanMissing
  | phoneAddressingMissing
  | callControlHostMissing
  | callControlAddressMissing
  | extensionInvalid
  | extensionCollision
  | extensionRangeInvalid
  | extensionRangeExhausted
  | voiceCapabilityUnknown
  | voiceCapabilityUnsupported
  | securitySourceHashMissing
  | securitySourceMismatch
  | securityServiceMissing
  | securityVoiceDependencyMissing
  | securityScopeMissing
  | securityPlacementFailed
  | securityPolicyConflict
  | securityPolicyShadowed
  | securityCapabilityUnknown
  | securityCapabilityPartial
  | securityCapabilityUnobservable
  | securityCapabilityUnsupported
  | securityNatInvalid
  | securityPortBindingMissing
  | securityVlanMissing
  | securityIntentInvalid
  deriving DecidableEq

def ConfigurationIssueCode.value : ConfigurationIssueCode → String
  | dependencyMissing => "DEPENDENCY_MISSING"
  | dependencyCycle => "DEPENDENCY_CYCLE"
  | capabilityUnverified => "CAPABILITY_UNVERIFIED"
  | capabilityUnsupported => "CAPABILITY_UNSUPPORTED"
  | sourceTopologyHashMissing => "SOURCE_TOPOLOGY_HASH_MISSING"
  | sourceConfigurationHashMissing => "SOURCE_CONFIGURATION_HASH_MISSING"
  | sourceConfigurationTopologyMismatch => "SOURCE_CONFIGURATION_TOPOLOGY_MISMATCH"
  | serviceTypeInvalid => "SERVICE_TYPE_INVALID"
  | serviceHostMissing => "SERVICE_HOST_MISSING"
  | foundationalConfigurationMissing => "FOUNDATIONAL_CONFIGURATION_MISSING"
  | serviceAddressInvalid => "SERVICE_ADDRESS_INVALID"
  | serviceAddressMismatch => "SERVICE_ADDRESS_MISMATCH"
  | serviceSegmentMismatch => "SERVICE_SEGMENT_MISMATCH"
  | serviceClientMissing => "SERVICE_CLIENT_MISSING"
  | dnsHostnameInvalid => "DNS_HOSTNAME_INVALID"
  | dnsRecordConflict => "DNS_RECORD_CONFLICT"
  | httpContentUnsafe => "HTTP_CONTENT_UNSAFE"
  | tftpFilenameUnsafe => "TFTP_FILENAME_UNSAFE"
  | voiceSourceServiceMismatch => "VOICE_SOURCE_SERVICE_MISMATCH"
  | voiceServiceDependencyMissing => "VOICE_SERVICE_DEPENDENCY_MISSING"
  | phoneEndpointMissing => "PHONE_ENDPOINT_MISSING"
  | foundationalVoiceVlanMissing => "FOUNDATIONAL_VOICE_VLAN_MISSING"
  | phoneAddressingMissing => "PHONE_ADDRESSING_MISSING"
  | callControlHostMissing => "CALL_CONTROL_HOST_MISSING"
  | callControlAddressMissing => "CALL_CONTROL_ADDRESS_MISSING"
  | extensionInvalid => "EXTENSION_INVALID"
  | extensionCollision => "EXTENSION_COLLISION"
  | extensionRangeInvalid => "EXTENSION_RANGE_INVALID"
  | extensionRangeExhausted => "EXTENSION_RANGE_EXHAUSTED"
  | voiceCapabilityUnknown => "VOICE_CAPABILITY_UNKNOWN"
  | voiceCapabilityUnsupported => "VOICE_CAPABILITY_UNSUPPORTED"
  | securitySourceHashMissing => "SECURITY_SOURCE_HASH_MISSING"
  | securitySourceMismatch => "SECURITY_SOURCE_MISMATCH"
  | securityServiceMissing => "SECURITY_SERVICE_MISSING"
  | securityVoiceDependencyMissing => "SECURITY_VOICE_DEPENDENCY_MISSING"
  | securityScopeMissing => "SECURITY_SCOPE_MISSING"
  | securityPlacementFailed => "SECURITY_PLACEMENT_FAILED"
  | securityPolicyConflict => "SECURITY_POLICY_CONFLICT"
  | securityPolicyShadowed => "SECURITY_POLICY_SHADOWED"
  | securityCapabilityUnknown => "SECURITY_CAPABILITY_UNKNOWN"
  | securityCapabilityPartial => "SECURITY_CAPABILITY_PARTIAL"
  | securityCapabilityUnobservable => "SECURITY_CAPABILITY_UNOBSERVABLE"
  | securityCapabilityUnsupported => "SECURITY_CAPABILITY_UNSUPPORTED"
  | securityNatInvalid => "SECURITY_NAT_INVALID"
  | securityPortBindingMissing => "SECURITY_PORT_BINDING_MISSING"
  | securityVlanMissing => "SECURITY_VLAN_MISSING"
  | securityIntentInvalid => "SECURITY_INTENT_INVALID"

/-- `ConfigurationIssue`. -/
structure ConfigurationIssue where
  severity : ConfigurationIssueSeverity
  code : ConfigurationIssueCode
  message : String
  subject : String := ""
  details : List (String × String) := []
  deriving DecidableEq

/-- `SecurityCompileResult` without its summary. -/
structure SecurityCompileResult where
  plan : Option SecurityPlan := none
  semanticHash : String := ""
  issues : List ConfigurationIssue := []
  deriving DecidableEq

/-- `SecurityVerificationStage`. -/
inductive SecurityVerificationStage
  | baseline
  | directState
  | enforcementBehavior
  | cleanupRecovery
  deriving DecidableEq

def SecurityVerificationStage.value : SecurityVerificationStage → String
  | baseline => "baseline"
  | directState => "direct_state"
  | enforcementBehavior => "enforcement_behavior"
  | cleanupRecovery => "cleanup_recovery"

/-- `RuntimeSecurityVerification`: what a runtime observed about one expectation. -/
structure RuntimeSecurityVerification where
  expectationId : String
  stage : SecurityVerificationStage
  status : ActionExecutionStatus
  evidenceMethod : String := ""
  freshEvidence : Bool := false
  fields : Dict String FieldVerificationStatus := .empty
  message : String := ""

/-- `SecurityVerificationResult`: what the applicator reports about one expectation. -/
structure SecurityVerificationResult where
  expectationId : String
  actionId : String
  policyId : String
  baselineStatus : ActionExecutionStatus := .skipped
  directStatus : ActionExecutionStatus := .skipped
  enforcementStatus : ActionExecutionStatus := .skipped
  cleanupStatus : ActionExecutionStatus := .skipped
  evidenceMethods : List String := []
  freshEvidence : Bool := false
  fields : Dict String FieldVerificationStatus := .empty
  message : String := ""

/-- `SecurityApplicationResult`. -/
structure SecurityApplicationResult where
  securityPlanId : String
  securitySemanticHash : String
  sourceTopologyHash : String
  sourceConfigurationHash : String
  sourceServiceHash : String := ""
  sourceVoiceHash : String := ""
  runtimeContext : ConfigurationRuntimeContext := {}
  status : ConfigurationApplicationStatus
  failureCode : ConfigurationFailureCode := .none
  actionResults : List ActionApplicationResult := []
  verificationResults : List SecurityVerificationResult := []
  cleanupResults : List ActionApplicationResult := []
  preflightErrors : List String := []
  deploymentId : String := ""
  executionJournal : Option ApplicationExecutionJournal := none
  dirtyState : DirtyState := .clean

/-! ## Merging observations -/

/-- The status of a stage is set. -/
def SecurityVerificationResult.setStatus (result : SecurityVerificationResult)
    (status : ActionExecutionStatus) : SecurityVerificationStage → SecurityVerificationResult
  | .baseline => { result with baselineStatus := status }
  | .directState => { result with directStatus := status }
  | .enforcementBehavior => { result with enforcementStatus := status }
  | .cleanupRecovery => { result with cleanupStatus := status }

/-- The status of a stage. -/
def SecurityVerificationResult.stageStatus (result : SecurityVerificationResult) :
    SecurityVerificationStage → ActionExecutionStatus
  | .baseline => result.baselineStatus
  | .directState => result.directStatus
  | .enforcementBehavior => result.enforcementStatus
  | .cleanupRecovery => result.cleanupStatus

/-- One observation of `_merge_verification`. -/
def SecurityVerificationResult.merge (result : SecurityVerificationResult)
    (item : RuntimeSecurityVerification) : SecurityVerificationResult :=
  { result.setStatus item.status item.stage with
    evidenceMethods :=
      if item.evidenceMethod ≠ "" then result.evidenceMethods ++ [item.evidenceMethod]
      else result.evidenceMethods
    freshEvidence := result.freshEvidence || item.freshEvidence
    fields := result.fields.update item.fields
    message :=
      if item.message ≠ "" then
        String.intercalate " " ([result.message, item.message].filter (· ≠ ""))
      else result.message }

@[simp] lemma SecurityVerificationResult.expectationId_merge (result : SecurityVerificationResult)
    (item : RuntimeSecurityVerification) :
    (result.merge item).expectationId = result.expectationId := by
  unfold merge setStatus
  cases item.stage <;> rfl

@[simp] lemma SecurityVerificationResult.stageStatus_merge (result : SecurityVerificationResult)
    (item : RuntimeSecurityVerification) (stage : SecurityVerificationStage) :
    (result.merge item).stageStatus stage =
      if item.stage = stage then item.status else result.stageStatus stage := by
  unfold merge setStatus stageStatus
  cases item.stage <;> cases stage <;> rfl

end PacketTracer
