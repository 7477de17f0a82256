import PacketTracer.Domain.Configuration

/-!
# Voice plans and results

`voice_plan.py`: the telephony that is asked for, and the typed actions, phones, dial rules,
foundations and expectations of a Voice plan.  `voice_runtime.py`: what a Voice runtime answers and
what an application reports.
-/

namespace PacketTracer

open Dicts

namespace Voice

/-! ## Capabilities -/

/-- `VoiceCapabilityStatus`. -/
inductive VoiceCapabilityStatus
  | supported
  | unknown
  | unsupported
  | unobservable
  | skipped
  deriving DecidableEq

def VoiceCapabilityStatus.value : VoiceCapabilityStatus → String
  | supported => "supported"
  | unknown => "unknown"
  | unsupported => "unsupported"
  | unobservable => "unobservable"
  | skipped => "skipped"

/-- `VoiceCapabilityDimension`. -/
inductive VoiceCapabilityDimension
  | callControlConfig
  | phoneExtensionConfig
  | phoneRegistration
  | callInitiation
  | callStateReadback
  | tftpPhoneBootstrap
  | voiceDhcpOptions
  | voiceNtp
  | intersiteCalling
  deriving DecidableEq

def VoiceCapabilityDimension.value : VoiceCapabilityDimension → String
  | callControlConfig => "call_control_config"
  | phoneExtensionConfig => "phone_extension_config"
  | phoneRegistration => "phone_registration"
  | callInitiation => "call_initiation"
  | callStateReadback => "call_state_readback"
  | tftpPhoneBootstrap => "tftp_phone_bootstrap"
  | voiceDhcpOptions => "voice_dhcp_options"
  | voiceNtp => "voice_ntp"
  | intersiteCalling => "intersite_calling"

/-- `VoiceCapabilityProfile`. -/
structure VoiceCapabilityProfile where
  model : String
  dimensions : Dict VoiceCapabilityDimension VoiceCapabilityStatus := .empty
  callObservabilityPhoneModels : List String := []

/-- `VoiceCapabilityProfile.status`. -/
def VoiceCapabilityProfile.status (profile : VoiceCapabilityProfile)
    (dimension : VoiceCapabilityDimension) : VoiceCapabilityStatus :=
  (profile.dimensions.get? dimension).getD .unknown

/-! ## Intent -/

/-- `ExtensionRange`. -/
structure ExtensionRange where
  start : ℤ
  stop : ℤ
  reserved : List ℤ := []
  deriving DecidableEq

/-- `VoicePolicy`. -/
structure VoicePolicy where
  defaultExtensionRange : ExtensionRange := { start := 3001, stop := 3999 }
  signalingPort : ℤ := 2000
  compileNegativeCallControl : Bool := true
  deriving DecidableEq

/-- `VoiceIntent`. -/
structure VoiceIntent where
  id : String
  callControlDeviceIds : Dict String String := .empty
  callControlCapacities : Dict String ℤ := .empty
  centralCallControlDeviceId : String := ""
  phoneDeviceIds : List String := []
  extensionRanges : Dict String ExtensionRange := .empty
  explicitExtensions : Dict String String := .empty
  serviceDependencyIds : List String := []
  registrationRequired : Bool := true
  intersiteCalling : Bool := false
  policy : VoicePolicy := {}

/-! ## Actions -/

/-- `VoicePhase`. -/
inductive VoicePhase
  | callControl
  | extensions
  | phoneBindings
  | phoneBootstrap
  | dialPlan
  deriving DecidableEq

/-- The number an enumeration member carries. -/
def VoicePhase.value : VoicePhase → ℤ
  | callControl => 20
  | extensions => 30
  | phoneBindings => 40
  | phoneBootstrap => 45
  | dialPlan => 50

/-- The part of an action that depends on its type: one constructor for each action class, with
the fields that the class adds to `BaseVoiceAction`, and `operation` where the class does not fix
it. -/
inductive VoiceActionDetail
  | enableCallControl (operation : OperationSemantics) (maxPhones maxExtensions : ℤ)
      (registrationRequired : Bool)
  | configureCallControlSource (operation : OperationSemantics) (sourceAddress : String)
      (signalingPort : ℤ) (sourceConfigurationActionId : String)
  | createExtension (extension : String) (directoryIndex : ℤ)
  | bindPhoneToExtension (operation : OperationSemantics)
      (phoneId physicalDeviceName phoneModel extension : String) (directoryIndex : ℤ)
      (registrationRequired : Bool)
  | configureVoiceDhcpOption (operation : OperationSemantics)
      (poolName tftpAddress sourceConfigurationActionId : String)
  | generatePhoneConfigurationFiles
  | configureDialRule (sourceSiteId destinationSiteId destinationPrefix
      destinationCallControlId : String) (isLocal : Bool)
  deriving DecidableEq

/-- The text of `VoiceActionType`. -/
def VoiceActionDetail.actionType : VoiceActionDetail → String
  | enableCallControl .. => "enable_call_control"
  | configureCallControlSource .. => "configure_call_control_source"
  | createExtension .. => "create_extension"
  | bindPhoneToExtension .. => "bind_phone_to_extension"
  | configureVoiceDhcpOption .. => "configure_voice_dhcp_option"
  | generatePhoneConfigurationFiles => "generate_phone_configuration_files"
  | configureDialRule .. => "configure_dial_rule"

/-- `operation`: what three classes fix, and the others carry. -/
def VoiceActionDetail.operation : VoiceActionDetail → OperationSemantics
  | enableCallControl operation .. => operation
  | configureCallControlSource operation .. => operation
  | createExtension .. => .ensurePresent
  | bindPhoneToExtension operation .. => operation
  | configureVoiceDhcpOption operation .. => operation
  | generatePhoneConfigurationFiles => .executeOnce
  | configureDialRule .. => .ensurePresent

/-- `VoiceAction`: the fields of `BaseVoiceAction` and those of the class. -/
structure VoiceAction where
  id : String
  phase : VoicePhase
  callControlId : String
  hostDeviceId : String
  hostDeviceName : String
  hostModel : String
  siteId : String
  dependsOn : List String := []
  applyDependencies : List String := []
  requiredCapability : VoiceCapabilityDimension
  critical : Bool := true
  compensationAvailable : Bool := false
  inverseActionId : String := ""
  detail : VoiceActionDetail
  deriving DecidableEq

namespace VoiceAction

/-- Whether the action is a `GeneratePhoneConfigurationFiles`. -/
def generatesPhoneFiles (action : VoiceAction) : Bool :=
  action.detail = .generatePhoneConfigurationFiles

/-- `model_dump()` after `depends_on` and `apply_dependencies` were popped. -/
def payload (action : VoiceAction) : VoiceAction :=
  { action with dependsOn := [], applyDependencies := [] }

end VoiceAction

instance : DependencyAction VoiceAction where
  id := VoiceAction.id
  phase action := action.phase.value
  targetId := VoiceAction.hostDeviceId
  actionType action := action.detail.actionType
  dependsOn := VoiceAction.dependsOn

instance : JournalledAction VoiceAction where
  id := VoiceAction.id
  operation action := action.detail.operation
  inverseActionId := VoiceAction.inverseActionId
  compensationAvailable := VoiceAction.compensationAvailable

/-! ## Plans -/

/-- `CallControlInstance`. -/
structure CallControlInstance where
  id : String
  siteIds : List String
  hostDeviceId : String
  hostDeviceName : String
  hostModel : String
  sourceAddress : String
  sourceConfigurationActionId : String
  signalingPort : ℤ
  phoneIds : List String := []
  actionIds : List String := []
  deriving DecidableEq

/-- `PhoneAssignment`. -/
structure PhoneAssignment where
  phoneId : String
  physicalDeviceName : String
  model : String
  siteId : String
  floorId : String := ""
  zoneId : String := ""
  extension : String
  callControlId : String
  voiceVlanId : ℤ
  voiceSegmentId : String
  accessConfigurationActionId : String
  addressingConfigurationActionId : String
  bindingActionId : String
  addressingInterface : String := ""
  voiceNetwork : String := ""
  voicePrefix : ℤ := 0
  metadata : List (String × String) := []
  deriving DecidableEq

/-- `DialRule`. -/
structure DialRule where
  id : String
  sourceSiteId : String
  destinationSiteId : String
  destinationPrefix : String
  destinationCallControlId : String
  isLocal : Bool := true
  actionId : String
  deriving DecidableEq

/-- `CallExpectationResult`. -/
inductive CallExpectationResult
  | established
  | notConnected
  deriving DecidableEq

/-- `CallExpectation`. -/
structure CallExpectation where
  id : String
  sourcePhoneId : String
  sourceExtension : String
  dialedExtension : String
  expectedTargetPhoneId : String := ""
  expectedResult : CallExpectationResult
  siteId : String
  dependsOn : List String := []
  verificationPrerequisites : List VerificationPrerequisite := []
  deriving DecidableEq

/-- `VoiceVerificationKind`. -/
inductive VoiceVerificationKind
  | phoneRegistration
  | callBehavior
  | callNegativeControl
  deriving DecidableEq

def VoiceVerificationKind.value : VoiceVerificationKind → String
  | phoneRegistration => "phone_registration"
  | callBehavior => "call_behavior"
  | callNegativeControl => "call_negative_control"

/-- `VoiceVerificationExpectation`. -/
structure VoiceVerificationExpectation where
  id : String
  kind : VoiceVerificationKind
  phoneId : String
  extension : String
  callControlId : String
  actionId : String
  callExpectationId : String := ""
  endpointDeviceName : String := ""
  endpointInterface : String := ""
  dependsOn : List String := []
  verificationPrerequisites : List VerificationPrerequisite := []
  deriving DecidableEq

/-- `VoiceFoundationRequirement.kind`. -/
inductive VoiceFoundationKind
  | voiceVlan
  | phoneAddressing
  | callControlAddressing
  | voiceDhcpPool
  | service
  deriving DecidableEq

/-- `VoiceFoundationRequirement`. -/
structure VoiceFoundationRequirement where
  id : String
  kind : VoiceFoundationKind
  sourceId : String
  deviceId : String := ""
  siteId : String := ""
  deriving DecidableEq

/-- `VoicePlan`. -/
structure VoicePlan where
  id : String
  sourceTopologyId : String
  sourceTopologyHash : String
  sourceTopologyHashSchema : String := "legacy-full-v1"
  sourceConfigurationId : String
  sourceConfigurationHash : String
  sourceServiceId : String := ""
  sourceServiceHash : String := ""
  serviceDependencyIds : List String := []
  semanticHash : String := ""
  callControls : List CallControlInstance := []
  phoneAssignments : List PhoneAssignment := []
  dialRules : List DialRule := []
  actions : List VoiceAction := []
  foundationalRequirements : List VoiceFoundationRequirement := []
  verificationExpectations : List VoiceVerificationExpectation := []
  callExpectations : List CallExpectation := []
  deriving DecidableEq

/-- `CallState`. -/
inductive CallState
  | idle
  | dialing
  | ringing
  | connected
  | disconnected
  | failed
  | unknown
  deriving DecidableEq

/-- `PhoneExecutionMethod`. -/
inductive PhoneExecutionMethod
  | structuredApi
  | packetTracerNativeUi
  | hybrid
  | unobservable
  deriving DecidableEq

/-! ## Answers of a runtime -/

/-- `RuntimePhoneRegistration`. -/
structure RuntimePhoneRegistration where
  expectationId : String
  phoneId : String
  extension : String
  status : ActionExecutionStatus
  directReadback : FieldVerificationStatus := .unknown
  evidenceMethod : String := ""
  freshEvidence : Bool := false
  message : String := ""
  callControlIpv4 : String := ""
  endpointIpv4 : String := ""
  endpointInterface : String := ""
  endpointInterfacePresent : Bool := false
  endpointAddressChannel : Bool := false
  endpointDhcpEnabled : Option Bool := none
  deviceIpv4 : String := ""
  deviceDhcpEnabled : Option Bool := none
  deriving DecidableEq

/-- `RuntimeCallObservation`. -/
structure RuntimeCallObservation where
  callExpectationId : String
  callAttemptId : String
  sourcePhoneId : String
  destinationPhoneId : String := ""
  dialedExtension : String
  status : ActionExecutionStatus := .unknown
  states : List CallState := []
  connected : Bool := false
  teardownVerified : Bool := false
  observedAfterNs : ℤ := 0
  freshEvidence : Bool := false
  evidenceMethod : String := ""
  evidenceArtifactPath : String := ""
  evidenceSha256 : String := ""
  executionMethod : PhoneExecutionMethod := .unobservable
  message : String := ""
  deriving DecidableEq

/-! ## Results -/

/-- `PhoneRegistrationResult`: the fields of `RuntimePhoneRegistration`, and the judgement. -/
structure PhoneRegistrationResult where
  expectationId : String
  phoneId : String
  extension : String
  status : ActionExecutionStatus
  directReadback : FieldVerificationStatus := .unknown
  endpointIpv4 : String := ""
  endpointInterface : String := ""
  endpointInterfacePresent : Bool := false
  endpointAddressChannel : Bool := false
  endpointDhcpEnabled : Option Bool := none
  evidenceMethod : String := ""
  freshEvidence : Bool := false
  message : String := ""
  callControlIpv4 : String := ""
  deviceIpv4 : String := ""
  deviceDhcpEnabled : Option Bool := none
  failureCode : ConfigurationFailureCode := .none
  addressingStatus : ActionExecutionStatus := .unknown
  addressingMessage : String := ""
  deriving DecidableEq

/-- `CallVerificationResult`: the fields of `RuntimeCallObservation`, and the judgement. -/
structure CallVerificationResult where
  callExpectationId : String
  callAttemptId : String
  sourcePhoneId : String
  dialedExtension : String
  status : ActionExecutionStatus := .unknown
  destinationPhoneId : String := ""
  states : List CallState := []
  connected : Bool := false
  teardownVerified : Bool := false
  observedAfterNs : ℤ := 0
  freshEvidence : Bool := false
  evidenceMethod : String := ""
  evidenceArtifactPath : String := ""
  evidenceSha256 : String := ""
  executionMethod : PhoneExecutionMethod := .unobservable
  message : String := ""
  expectedResult : CallExpectationResult
  expectedTargetPhoneId : String := ""
  failureCode : ConfigurationFailureCode := .none
  deriving DecidableEq

/-- `PhoneVoiceOutcome`. -/
structure PhoneVoiceOutcome where
  phoneId : String
  extension : String
  applicationStatus : ActionExecutionStatus
  registrationStatus : ActionExecutionStatus := .unknown
  directRegistrationReadback : FieldVerificationStatus := .unknown
  addressingStatus : ActionExecutionStatus := .unknown
  callBehaviorStatus : ActionExecutionStatus := .unknown
  usabilityStatus : ActionExecutionStatus := .unknown
  deriving DecidableEq

/-- `VoiceApplicationResult`. -/
structure VoiceApplicationResult where
  voicePlanId : String
  voiceSemanticHash : String
  sourceTopologyHash : String
  sourceConfigurationHash : String
  sourceServiceHash : String := ""
  runtimeContext : ConfigurationRuntimeContext := {}
  status : ActionExecutionStatus
  applicationStatus : ActionExecutionStatus := .unknown
  failureCode : ConfigurationFailureCode := .none
  actionResults : List ActionApplicationResult := []
  mutationActionIds : List String := []
  retainedActionIds : List String := []
  registrations : List PhoneRegistrationResult := []
  calls : List CallVerificationResult := []
  phones : List PhoneVoiceOutcome := []
  preflightErrors : List String := []
  deploymentId : String := ""
  executionJournal : Option ApplicationExecutionJournal := none
  dirtyState : DirtyState := .clean

end Voice
end PacketTracer
