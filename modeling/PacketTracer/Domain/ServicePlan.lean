import PacketTracer.Domain.SecuritySources

/-!
# Services that are asked for, and service plans

`requirements.py` and `enterprise_plan.py` as far as a service compilation reads them, and
`service_plan.py`: the typed actions of a service plan, and the expectations that verify them.
-/

namespace PacketTracer

namespace Services

open Dicts

/-! ## Intent -/

/-- `DnsRecordRequirement`; the type of every record is `A`. -/
structure DnsRecordRequirement where
  hostname : String
  address : String
  targetDeviceId : String := ""
  deriving DecidableEq

/-- `TftpFileRequirement`. -/
structure TftpFileRequirement where
  filename : String
  content : String
  deriving DecidableEq

/-- `ServiceRequirement`. -/
structure ServiceRequirement where
  name : String
  serviceType : Option ServiceType := none
  hostDeviceId : String := ""
  segmentId : String := ""
  address : String := ""
  clientDeviceIds : List String := []
  dependsOn : List String := []
  verificationRequired : Bool := true
  dnsRecords : List DnsRecordRequirement := []
  hostname : String := ""
  httpContent : String := ""
  ntpAuthoritative : Bool := true
  tftpFiles : List TftpFileRequirement := []
  metadata : Dict String String := .empty
  deriving DecidableEq

/-- `SitePlan`. -/
structure SitePlan where
  siteId : String
  services : List ServiceRequirement := []
  deriving DecidableEq

/-- `EnterprisePlan`. -/
structure EnterprisePlan where
  sites : List SitePlan := []
  services : List ServiceRequirement := []
  deriving DecidableEq

/-- `ServiceCapabilityProfile`: what the compiler reads of it. -/
structure ServiceCapabilityProfile where
  compileSupport : CapabilityStatus := .supported
  applicationSupport : CapabilityStatus := .unknown
  actionApplicationSupport : Dict String CapabilityStatus := .empty
  deriving DecidableEq

/-! ## Actions -/

def serviceTypeValue : ServiceType → String
  | .dns => "dns"
  | .http => "http"
  | .https => "https"
  | .ntp => "ntp"
  | .tftp => "tftp"

/-- `ServicePhase`. -/
inductive ServicePhase
  | enable
  | content
  deriving DecidableEq

/-- The number an enumeration member carries. -/
def ServicePhase.value : ServicePhase → ℤ
  | enable => 20
  | content => 30

/-- The part of an action that depends on its type: one constructor for each action class, with
the fields that the class adds to `BaseServiceAction`. -/
inductive ServiceActionDetail
  | enableDns
  | addDnsRecord (hostname address : String)
  | enableHttp
  | setHttpContent (content contentSha256 : String)
  | enableHttps
  | configureNtp (authoritative : Bool)
  | enableTftp
  | publishTftpFile (filename content contentSha256 : String)
  deriving DecidableEq

/-- `ServiceActionType`. -/
def ServiceActionDetail.actionType : ServiceActionDetail → String
  | enableDns => "enable_dns_service"
  | addDnsRecord .. => "add_dns_record"
  | enableHttp => "enable_http_service"
  | setHttpContent .. => "set_http_content"
  | enableHttps => "enable_https_service"
  | configureNtp _ => "configure_ntp_service"
  | enableTftp => "enable_tftp_service"
  | publishTftpFile .. => "publish_tftp_file"

/-- `ServiceAction`: the fields of `BaseServiceAction` and those of the class. -/
structure ServiceAction where
  id : String
  phase : ServicePhase
  serviceId : String
  serviceType : ServiceType
  hostDeviceId : String
  hostDeviceName : String
  hostModel : String
  siteId : String
  dependsOn : List String := []
  applyDependencies : List String := []
  requiredCapability : String
  detail : ServiceActionDetail
  deriving DecidableEq

instance : DependencyAction ServiceAction where
  id := ServiceAction.id
  phase action := action.phase.value
  targetId := ServiceAction.hostDeviceId
  actionType action := action.detail.actionType
  dependsOn := ServiceAction.dependsOn

/-! ## Services and expectations -/

/-- `ServiceDefinition`. -/
structure ServiceDefinition where
  id : String
  name : String
  serviceType : ServiceType
  siteId : String
  hostDeviceId : String
  hostDeviceName : String
  hostModel : String
  address : String
  segmentId : String
  clientDeviceIds : List String := []
  actionIds : List String := []
  verificationExpectationIds : List String := []
  protocol : String
  ports : List ℤ := []
  deriving DecidableEq

/-- `FoundationalServiceRequirement`. -/
structure FoundationalServiceRequirement where
  id : String
  deviceId : String
  deviceName : String
  model : String
  ipv4 : String
  segmentId : String
  configurationActionId : String
  deriving DecidableEq

/-- `ServiceEvidenceKind`. -/
inductive ServiceEvidenceKind
  | directState
  | behavioral
  | composedBehavioral
  deriving DecidableEq

/-- `ServiceVerificationKind`. -/
inductive ServiceVerificationKind
  | directServiceState
  | dnsResolution
  | dnsNegativeControl
  | httpFetch
  | httpsFetch
  | httpByHostname
  | ntpSync
  | tftpRetrieve
  deriving DecidableEq

def ServiceVerificationKind.value : ServiceVerificationKind → String
  | directServiceState => "direct_service_state"
  | dnsResolution => "dns_resolution"
  | dnsNegativeControl => "dns_negative_control"
  | httpFetch => "http_fetch"
  | httpsFetch => "https_fetch"
  | httpByHostname => "http_by_hostname"
  | ntpSync => "ntp_sync"
  | tftpRetrieve => "tftp_retrieve"

/-- `ServiceVerificationExpectation`. -/
structure ServiceVerificationExpectation where
  id : String
  serviceId : String
  actionId : String
  kind : ServiceVerificationKind
  evidenceKind : ServiceEvidenceKind
  hostDeviceId : String
  hostDeviceName : String
  clientDeviceId : String := ""
  clientDeviceName : String := ""
  dependsOn : List String := []
  verificationPrerequisites : List VerificationPrerequisite := []
  expected : List (String × ExpectedValue) := []
  deriving DecidableEq

/-- Expectations are ordered by the verifications that they wait for. -/
instance : DependencyAction ServiceVerificationExpectation where
  id := ServiceVerificationExpectation.id
  phase _ := 0
  targetId _ := ""
  actionType _ := ""
  dependsOn item := verificationReferences item.verificationPrerequisites

/-- `ServicePlan`. -/
structure ServicePlan where
  id : String
  sourceTopologyId : String
  sourceTopologyHash : String
  sourceTopologyHashSchema : String := "legacy-full-v1"
  sourceConfigurationId : String
  sourceConfigurationHash : String
  semanticHash : String := ""
  services : List ServiceDefinition := []
  actions : List ServiceAction := []
  foundationalRequirements : List FoundationalServiceRequirement := []
  verificationExpectations : List ServiceVerificationExpectation := []
  deriving DecidableEq

/-- `ServiceCompileResult` without its summary. -/
structure ServiceCompileResult where
  plan : Option ServicePlan := none
  semanticHash : String := ""
  issues : List ConfigurationIssue := []
  deriving DecidableEq

end Services

end PacketTracer
