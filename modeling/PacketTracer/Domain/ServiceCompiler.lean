import PacketTracer.Domain.SecurityCompiler
import PacketTracer.Domain.ServicePlan

/-!
# The service compiler

`service_compiler.py`: the requirements of the sites and of the enterprise are compiled one by one
into services with their actions, the dependencies that they declare by name are linked, and the
actions are put into the order of their dependencies.  `str.casefold`, the digests and
`json.dumps` are parameters.
-/

namespace PacketTracer

namespace Services

open Dicts PyText Ipaddress Fallible
open SecurityCompiler (l3Segment? endpointSegment? staticIpv4? deduplicateIssues
  dependencyActionIds)

/-- `ServiceCompiler`, with what it takes from Python: `sha256` is the hexadecimal SHA-256 digest of
a text, `recordsJson` is `json.dumps` of a dictionary with sorted keys. -/
structure ServiceCompiler where
  sha256 : String → String
  casefold : String → String
  recordsJson : List (String × String) → String
  semanticHash : ServicePlan → String

/-- The arguments of `compile`. -/
structure ServiceRequest where
  enterprise : EnterprisePlan
  topology : Plans.TopologyPlan
  configuration : ConfigurationPlan
  capabilities : Dict String ServiceCapabilityProfile := .empty

namespace ServiceCompiler

variable (compiler : ServiceCompiler)

/-- The first characters of a text. -/
def front (n : ℕ) (s : String) : String := String.ofList (s.toList.take n)

/-- `_stable_id`. -/
def stableId (kind : String) (parts : List String) : String :=
  "svc/" ++ kind ++ "/" ++ front 16 (compiler.sha256 (String.intercalate "|" (kind :: parts)))

/-- `_token`. -/
def token (value : String) : String :=
  let isToken (c : Char) : Bool := ('a' ≤ c && c ≤ 'z') || ('0' ≤ c && c ≤ '9')
  let runs := ((compiler.casefold value).toList.splitOnP fun c => !isToken c).filter (· ≠ [])
  let text := String.ofList (['-'].intercalate runs)
  if text = "" then "service" else text

/-! ## Texts -/

/-- `[A-Za-z0-9]`. -/
def isAlphanumeric (c : Char) : Bool :=
  ('A' ≤ c && c ≤ 'Z') || ('a' ≤ c && c ≤ 'z') || ('0' ≤ c && c ≤ '9')

/-- One label of a host name. -/
def isHostLabel (label : List Char) : Bool :=
  label.head?.any isAlphanumeric && label.getLast?.any isAlphanumeric && label.length ≤ 63 &&
    label.all fun c => isAlphanumeric c || c = '-'

/-- `_HOSTNAME_RE.fullmatch(value) is not None`. -/
def isHostname (value : String) : Bool :=
  value.toList.length ≤ 253 && (value.toList.splitOn '.').all isHostLabel

/-- `_SAFE_TFTP_NAME.fullmatch(value)` without two dots in a row. -/
def isSafeTftpName (value : String) : Bool :=
  value.toList.head?.any isAlphanumeric && value.toList.length ≤ 127 &&
    (value.toList.all fun c => isAlphanumeric c || c = '_' || c = '.' || c = '-') &&
    !(['.', '.'] <:+: value.toList : Bool)

/-- `_SAFE_HTTP_CONTENT.fullmatch(value) is not None`. -/
def isSafeHttpContent (value : String) : Bool :=
  value.toList.length ≤ 4096 &&
    value.toList.all fun c => (' ' ≤ c && c ≤ '~') || c = '\r' || c = '\n' || c = '\t'

/-! ## What a compilation reads -/

/-- `_SERVICE_PROTOCOLS`. -/
def serviceProtocol : ServiceType → String × List ℤ
  | .dns => ("udp/tcp", [53])
  | .http => ("tcp", [80])
  | .https => ("tcp", [443])
  | .ntp => ("udp", [123])
  | .tftp => ("udp", [69])

/-- `_SERVICE_HOST_ROLES`. -/
def serviceHostRoles : ServiceType → List String
  | .dns => ["dns_server", "server"]
  | .http => ["web_server", "server"]
  | .https => ["web_server", "server"]
  | .ntp => ["ntp_server", "server"]
  | .tftp => ["tftp_server", "server"]

/-- The roles whose devices are no clients by default. -/
def serverRoles : List String :=
  ["server", "dns_server", "web_server", "ntp_server", "tftp_server"]

/-- What is read from the topology and the configuration. -/
structure Sources where
  devices : Dict String Plans.DevicePlan
  foundations : Dict String ConfigurationAction
  l3Foundations : Dict String (List ConfigurationAction)

/-- The devices, the addressing of the endpoints, and the Layer 3 interfaces by segment. -/
def sourcesOf (request : ServiceRequest) : Sources where
  devices := Dict.ofList (request.topology.devices.map fun item => (item.semanticId, item))
  foundations := Dict.ofList
    ((request.configuration.actions.filter fun item => (endpointSegment? item).isSome).map
      fun item => (item.deviceId, item))
  l3Foundations := request.configuration.actions.foldl (fun groups item =>
    match l3Segment? item with
    | some segmentId => appendTo groups segmentId item
    | none => groups) .empty

/-- The checks on the sources. -/
def validateSources (request : ServiceRequest) : List ConfigurationIssue :=
  let topology := request.topology
  let configuration := request.configuration
  (if topology.physicalIdentityHash = "" then
    [securityError .sourceTopologyHashMissing
      "E6 requires the immutable semantic hash produced by E4." topology.id] else []) ++
  (if configuration.semanticHash = "" then
    [securityError .sourceConfigurationHashMissing
      "E6 requires the immutable semantic hash produced by E5." configuration.id] else []) ++
  (if configuration.sourceTopologyHash ≠ topology.physicalIdentityHash then
    [securityError .sourceConfigurationTopologyMismatch
      "The E5 ConfigurationPlan was compiled for a different E4 topology."
      configuration.id] else [])

/-! ## Requirements -/

/-- The text of the type of a requirement, empty without one. -/
def requirementTypeText (requirement : ServiceRequirement) : String :=
  (requirement.serviceType.map serviceTypeValue).getD ""

/-- The order of the requirements. -/
abbrev RequirementKey := String ×ₗ String ×ₗ String

/-- The key of a requirement of a site. -/
def requirementKey (item : String × ServiceRequirement) : RequirementKey :=
  toLex (item.1, toLex (requirementTypeText item.2, compiler.casefold item.2.name))

/-- `_requirements`: the requirements of all sites and of the enterprise, with their sites. -/
def requirements (enterprise : EnterprisePlan) : List (String × ServiceRequirement) :=
  sortedBy compiler.requirementKey
    ((enterprise.sites.flatMap fun site => site.services.map fun requirement =>
      (site.siteId, requirement)) ++
    enterprise.services.map fun requirement =>
      ((requirement.metadata.get? "site_id").getD "", requirement))

/-- `_service_type`. -/
def serviceType? (requirement : ServiceRequirement) : Option ServiceType :=
  match requirement.serviceType with
  | some serviceType => some serviceType
  | none =>
    let normalized := String.ofList ((compiler.token requirement.name).toList.map fun c =>
      if c = '-' then '_' else c)
    [ServiceType.dns, .http, .https, .ntp, .tftp].find? fun item =>
      serviceTypeValue item = normalized

/-- `_host`. -/
def host? (devices : Dict String Plans.DevicePlan) (siteId : String)
    (requirement : ServiceRequirement) (serviceType : ServiceType) : Option Plans.DevicePlan :=
  if requirement.hostDeviceId ≠ "" then devices.get? requirement.hostDeviceId
  else
    let roles := serviceHostRoles serviceType
    (sortedBy (fun item : Plans.DevicePlan =>
        toLex (roles.idxOf item.enterpriseRole, item.semanticId))
      (devices.values.filter fun item =>
        (siteId = "" ∨ item.siteId = siteId) ∧ item.enterpriseRole ∈ roles)).head?

/-- The clients that are asked for; without any, those that the site has. -/
def requestedClients (sources : Sources) (siteId hostId : String)
    (requirement : ServiceRequirement) : List String :=
  if requirement.clientDeviceIds ≠ [] then sortedBy id requirement.clientDeviceIds.dedup
  else
    sortedBy id ((sources.devices.entries.filter fun entry =>
      entry.1 ≠ hostId ∧ (siteId = "" ∨ entry.2.siteId = siteId) ∧
        sources.foundations.contains entry.1 ∧ entry.2.enterpriseRole ∉ serverRoles).map Prod.fst)

/-- The issue about one client, if it cannot be one. -/
def clientIssue (sources : Sources) (serviceId clientId : String) : Option ConfigurationIssue :=
  if !sources.devices.contains clientId then
    some (securityError .serviceClientMissing
      s!"Service client {quoted clientId} does not exist in E4." serviceId)
  else if !sources.foundations.contains clientId then
    some (securityError .foundationalConfigurationMissing
      s!"Service client {quoted clientId} has no E5 endpoint addressing action." serviceId)
  else none

/-- `_clients`: the clients, and the issues about those that cannot be clients. -/
def clients (sources : Sources) (serviceId siteId hostId : String)
    (requirement : ServiceRequirement) : List String × List ConfigurationIssue :=
  let requested := requestedClients sources siteId hostId requirement
  (requested.filter fun clientId => (clientIssue sources serviceId clientId).isNone,
    requested.filterMap (clientIssue sources serviceId))

/-! ## Foundations -/

/-- `getattr(action, "ipv4", "")`. -/
def ipv4Of (action : ConfigurationAction) : String :=
  match action.detail with
  | .configureRoutedInterface _ ipv4 .. => ipv4
  | .configureSvi _ ipv4 .. => ipv4
  | .configureSubinterface _ _ ipv4 .. => ipv4
  | .setEndpointStaticAddress _ ipv4 .. => ipv4
  | _ => ""

/-- `action.segment_id` of a foundation. -/
def segmentOf (action : ConfigurationAction) : String :=
  ((l3Segment? action).or (endpointSegment? action)).getD ""

/-- `_add_foundation`: the entry that is written. -/
def foundation (device : Plans.DevicePlan) (action : ConfigurationAction) :
    String × FoundationalServiceRequirement :=
  (action.id,
    { id := compiler.stableId "foundation" [device.semanticId, action.id]
      deviceId := device.semanticId
      deviceName := device.name
      model := device.model
      ipv4 := ipv4Of action
      segmentId := segmentOf action
      configurationActionId := action.id })

/-- The Layer 3 foundation of one segment on the way between a client and the host. -/
def gatewayFoundation (sources : Sources) (serviceId segmentId : String) :
    Except ConfigurationIssue (String × FoundationalServiceRequirement) :=
  match (sortedBy ConfigurationAction.id
      ((sources.l3Foundations.get? segmentId).getD [])).head? with
  | none => .error (securityError .foundationalConfigurationMissing
      s!"Cross-segment service path lacks an E5 L3 action for {quoted segmentId}."
      s!"{serviceId}:{segmentId}")
  | some gatewayAction =>
    match sources.devices.get? gatewayAction.deviceId with
    | none => .error (securityError .foundationalConfigurationMissing
        s!"E5 L3 action {gatewayAction.id} has no E4 device." gatewayAction.id)
    | some gatewayDevice => .ok (compiler.foundation gatewayDevice gatewayAction)

/-- The foundations of one client, and those of the way to the host. -/
def clientFoundations (sources : Sources) (serviceId hostSegmentId clientId : String) :
    List (Except ConfigurationIssue (String × FoundationalServiceRequirement)) :=
  match sources.devices.get? clientId, sources.foundations.get? clientId with
  | some client, some action =>
    .ok (compiler.foundation client action) ::
      (if segmentOf action ≠ hostSegmentId then
        (sortedBy id [segmentOf action, hostSegmentId].dedup).map
          (compiler.gatewayFoundation sources serviceId)
      else [])
  | _, _ => []

/-! ## Actions -/

/-- An action of a service on its host. -/
def serviceAction (serviceId : String) (serviceType : ServiceType) (host : Plans.DevicePlan)
    (identifier : String) (phase : ServicePhase) (detail : ServiceActionDetail)
    (dependsOn : List String := []) : ServiceAction :=
  { id := identifier
    phase := phase
    serviceId := serviceId
    serviceType := serviceType
    hostDeviceId := host.semanticId
    hostDeviceName := host.name
    hostModel := host.model
    siteId := host.siteId
    dependsOn := dependsOn
    requiredCapability := s!"service_{serviceTypeValue serviceType}_application"
    detail := detail }

/-- What the loop over the records of a DNS service has read. -/
structure RecordScan where
  records : Dict (String × String) DnsRecordRequirement := .empty
  targets : Dict String String := .empty
  issues : List ConfigurationIssue := []

/-- One record. -/
def scanRecord (devices : Dict String Plans.DevicePlan) (serviceId : String) (scan : RecordScan)
    (record : DnsRecordRequirement) : RecordScan :=
  let hostname := compiler.casefold record.hostname
  let issues := scan.issues ++
    (if record.targetDeviceId ≠ "" ∧ !devices.contains record.targetDeviceId then
      [securityError .serviceHostMissing
        s!"DNS target device {quoted record.targetDeviceId} does not exist in E4." serviceId]
    else [])
  if !isHostname hostname then
    { scan with issues := issues ++ [securityError .dnsHostnameInvalid
        s!"DNS hostname {quoted record.hostname} is invalid." serviceId] }
  else
    match ipAddress record.address with
    | none => { scan with issues := issues ++ [securityError .serviceAddressInvalid
        s!"DNS target {quoted record.address} is not a valid IPv4 address." serviceId] }
    | some parsed =>
      let address := parsed.text
      let write : RecordScan :=
        { records := scan.records.set (hostname, address) record
          targets := scan.targets.set hostname address
          issues := issues }
      match scan.targets.get? hostname with
      | none => write
      | some prior =>
        if prior ≠ address then
          { scan with issues := issues ++ [securityError .dnsRecordConflict
              s!"DNS hostname {hostname} maps to both {prior} and {address}." serviceId] }
        else write

/-- The records of a DNS service in the order in which they are read. -/
def sortedRecords (requirement : ServiceRequirement) : List DnsRecordRequirement :=
  sortedBy (fun item : DnsRecordRequirement => toLex (compiler.casefold item.hostname, item.address))
    requirement.dnsRecords

/-- All records of a DNS service. -/
def scanRecords (devices : Dict String Plans.DevicePlan) (serviceId : String)
    (requirement : ServiceRequirement) : RecordScan :=
  (compiler.sortedRecords requirement).foldl (compiler.scanRecord devices serviceId) {}

/-- The actions of a DNS service. -/
def dnsActions (devices : Dict String Plans.DevicePlan) (serviceId : String)
    (requirement : ServiceRequirement) (host : Plans.DevicePlan) :
    List ServiceAction × List ConfigurationIssue :=
  let enableId := compiler.stableId "enable-dns" [serviceId]
  let scan := compiler.scanRecords devices serviceId requirement
  (serviceAction serviceId .dns host enableId .enable .enableDns ::
    (sortedBy (fun key => toLex key) scan.records.keys).map fun key =>
      serviceAction serviceId .dns host (compiler.stableId "dns-a" [serviceId, key.1, key.2])
        .content (.addDnsRecord key.1 key.2) [enableId],
    scan.issues)

/-- The content of a site that names none. -/
def defaultHttpContent (serviceId : String) : String :=
  "MCP_E6_HTTP_OK_" ++ String.ofList
    ((compiler.stableId "http" [serviceId]).toList.drop
      ((compiler.stableId "http" [serviceId]).toList.length - 8))

/-- The content that a site publishes. -/
def httpContent (serviceId : String) (requirement : ServiceRequirement) : String :=
  if requirement.httpContent ≠ "" then requirement.httpContent
  else compiler.defaultHttpContent serviceId

/-- The actions of an HTTP service. -/
def httpActions (serviceId : String) (requirement : ServiceRequirement)
    (host : Plans.DevicePlan) : List ServiceAction × List ConfigurationIssue :=
  let enableId := compiler.stableId "enable-http" [serviceId]
  let enable := serviceAction serviceId .http host enableId .enable .enableHttp
  let content := compiler.httpContent serviceId requirement
  if !isSafeHttpContent content then
    ([enable], [securityError .httpContentUnsafe
      "HTTP content must be bounded printable text." serviceId])
  else
    ([enable, serviceAction serviceId .http host
      (compiler.stableId "http-content" [serviceId, content]) .content
      (.setHttpContent content (compiler.sha256 content)) [enableId]], [])

/-- What the loop over the files of a TFTP service has read. -/
structure FileScan where
  files : Dict (String × String) TftpFileRequirement := .empty
  issues : List ConfigurationIssue := []

/-- One file. -/
def scanFile (serviceId : String) (scan : FileScan) (item : TftpFileRequirement) : FileScan :=
  if !isSafeTftpName item.filename then
    { scan with issues := scan.issues ++ [securityError .tftpFilenameUnsafe
        s!"TFTP filename {quoted item.filename} is not a safe server-local name." serviceId] }
  else { scan with files := scan.files.set (item.filename, compiler.sha256 item.content) item }

/-- All files of a TFTP service. -/
def scanFiles (serviceId : String) (requirement : ServiceRequirement) : FileScan :=
  (sortedBy (fun item : TftpFileRequirement => toLex (item.filename, item.content))
    requirement.tftpFiles).foldl (compiler.scanFile serviceId) {}

/-- The actions of a TFTP service. -/
def tftpActions (serviceId : String) (requirement : ServiceRequirement)
    (host : Plans.DevicePlan) : List ServiceAction × List ConfigurationIssue :=
  let enableId := compiler.stableId "enable-tftp" [serviceId]
  let scan := compiler.scanFiles serviceId requirement
  (serviceAction serviceId .tftp host enableId .enable .enableTftp ::
    (sortedBy (fun entry => toLex entry.1) scan.files.entries).map fun entry =>
      serviceAction serviceId .tftp host
        (compiler.stableId "tftp-file" [serviceId, entry.1.1, entry.1.2]) .content
        (.publishTftpFile entry.1.1 entry.2.content entry.1.2) [enableId],
    scan.issues)

/-- `_actions`. -/
def actionsOf (devices : Dict String Plans.DevicePlan) (serviceId : String)
    (requirement : ServiceRequirement) (serviceType : ServiceType) (host : Plans.DevicePlan) :
    List ServiceAction × List ConfigurationIssue :=
  match serviceType with
  | .dns => compiler.dnsActions devices serviceId requirement host
  | .http => compiler.httpActions serviceId requirement host
  | .https => ([serviceAction serviceId .https host (compiler.stableId "enable-https" [serviceId])
      .enable .enableHttps], [])
  | .ntp => ([serviceAction serviceId .ntp host (compiler.stableId "configure-ntp" [serviceId])
      .enable (.configureNtp requirement.ntpAuthoritative)], [])
  | .tftp => compiler.tftpActions serviceId requirement host

/-! ## Services -/

/-- The identifier of a service. -/
def serviceId (siteId : String) (requirement : ServiceRequirement) : String :=
  "service/" ++ (if siteId = "" then "global" else siteId) ++ "/" ++ compiler.token requirement.name

/-- What a requirement is resolved to. -/
structure ResolvedService where
  serviceType : ServiceType
  host : Plans.DevicePlan
  hostFoundation : ConfigurationAction
  hostIpv4 : String
  address : String

/-- The service type, the host and the address of a requirement, or the issue for which it is
left out. -/
def resolveService (sources : Sources) (siteId : String) (requirement : ServiceRequirement) :
    Except ConfigurationIssue ResolvedService := do
  let serviceId := compiler.serviceId siteId requirement
  let some serviceType := compiler.serviceType? requirement
    | throw (securityError .serviceTypeInvalid
        s!"{quoted requirement.name} does not identify a supported E6 service type." serviceId)
  let some host := host? sources.devices siteId requirement serviceType
    | throw (securityError .serviceHostMissing
        (s!"No existing E4 host can run {serviceTypeValue serviceType} " ++
          s!"for {requirement.name}.") serviceId)
  let hostFoundation := sources.foundations.get? host.semanticId
  match hostFoundation, hostFoundation.bind staticIpv4? with
  | some hostFoundation, some hostIpv4 =>
    let address := if requirement.address ≠ "" then requirement.address else hostIpv4
    let some parsed := ipAddress address
      | throw (securityError .serviceAddressInvalid
          s!"{quoted address} is not a valid service address." serviceId)
    return {
      serviceType := serviceType
      host := host
      hostFoundation := hostFoundation
      hostIpv4 := hostIpv4
      address := parsed.text }
  | _, _ => throw (securityError .foundationalConfigurationMissing
      s!"Service host {host.name} has no static E5 endpoint address action." host.semanticId)

/-- The issues about the address and the segment of a resolved requirement. -/
def resolutionIssues (serviceId : String) (requirement : ServiceRequirement)
    (resolved : ResolvedService) : List ConfigurationIssue :=
  (if resolved.address ≠ resolved.hostIpv4 then
    [securityError .serviceAddressMismatch
      (s!"Service address {resolved.address} does not belong to host " ++
        s!"{resolved.host.name} in E5.") serviceId] else []) ++
  (if requirement.segmentId ≠ "" ∧ requirement.segmentId ≠ segmentOf resolved.hostFoundation then
    [securityError .serviceSegmentMismatch
      (s!"Service segment {requirement.segmentId} differs from E5 segment " ++
        s!"{segmentOf resolved.hostFoundation}.") serviceId] else [])

/-- The warnings about the support of a host for a service. -/
def profileIssues (profile : Option ServiceCapabilityProfile) (serviceId model typeText : String) :
    List ConfigurationIssue :=
  (if profile.any (·.compileSupport = .unsupported) then
    [securityWarning .capabilityUnsupported
      s!"Compilation support for {typeText} is unsupported." serviceId] else []) ++
  (if profile.all (·.applicationSupport = .unknown) then
    [securityWarning .capabilityUnverified
      s!"Runtime application support for {model}:{typeText} is unknown." serviceId]
  else if profile.any (·.applicationSupport = .unsupported) then
    [securityWarning .capabilityUnsupported
      s!"Runtime application support for {model}:{typeText} is unsupported." serviceId]
  else [])

/-- The warning about the support for one action. -/
def actionIssue (profile : ServiceCapabilityProfile) (action : ServiceAction) :
    Option ConfigurationIssue :=
  let actionType := action.detail.actionType
  match (profile.actionApplicationSupport.get? actionType).getD profile.applicationSupport with
  | .unknown => some (securityWarning .capabilityUnverified
      s!"Runtime application support for {actionType} is unknown." action.id)
  | .unsupported => some (securityWarning .capabilityUnsupported
      s!"Runtime application support for {actionType} is unsupported." action.id)
  | _ => none

/-- A requirement that became a service, with its actions. -/
structure CompiledService where
  requirement : ServiceRequirement
  definition : ServiceDefinition
  actions : List ServiceAction

/-- What one iteration over the requirements adds; foundations are entries of a dictionary. -/
structure ServiceOutput where
  service : Option CompiledService := none
  foundations : List (String × FoundationalServiceRequirement) := []
  issues : List ConfigurationIssue := []

/-- The service that a resolved requirement becomes. -/
def compiledService (sources : Sources) (siteId : String) (requirement : ServiceRequirement)
    (resolved : ResolvedService) : CompiledService :=
  let serviceId := compiler.serviceId siteId requirement
  let host := resolved.host
  let actions :=
    (compiler.actionsOf sources.devices serviceId requirement resolved.serviceType host).1
  { requirement := requirement
    actions := actions
    definition :=
      { id := serviceId
        name := requirement.name
        serviceType := resolved.serviceType
        siteId := if siteId = "" then host.siteId else siteId
        hostDeviceId := host.semanticId
        hostDeviceName := host.name
        hostModel := host.model
        address := resolved.address
        segmentId := segmentOf resolved.hostFoundation
        clientDeviceIds :=
          (clients sources serviceId siteId host.semanticId requirement).1
        actionIds := actions.map ServiceAction.id
        protocol := (serviceProtocol resolved.serviceType).1
        ports := (serviceProtocol resolved.serviceType).2 } }

/-- The foundations of a service and the issues about them. -/
def serviceFoundations (sources : Sources) (serviceId : String) (clientIds : List String)
    (resolved : ResolvedService) :
    List (Except ConfigurationIssue (String × FoundationalServiceRequirement)) :=
  .ok (compiler.foundation resolved.host resolved.hostFoundation) ::
    clientIds.flatMap (compiler.clientFoundations sources serviceId
      (segmentOf resolved.hostFoundation))

/-- One iteration over the requirements. -/
def compileService (sources : Sources) (capabilities : Dict String ServiceCapabilityProfile)
    (item : String × ServiceRequirement) : ServiceOutput :=
  let (siteId, requirement) := item
  match compiler.resolveService sources siteId requirement with
  | .error issue => { issues := [issue] }
  | .ok resolved =>
    let serviceId := compiler.serviceId siteId requirement
    let host := resolved.host
    let typeText := serviceTypeValue resolved.serviceType
    let profile := capabilities.get? s!"{host.model}:{typeText}"
    let service := compiler.compiledService sources siteId requirement resolved
    let foundations := compiler.serviceFoundations sources serviceId
      service.definition.clientDeviceIds resolved
    { service := some service
      foundations := foundations.filterMap Except.toOption
      issues := resolutionIssues serviceId requirement resolved ++
        (clients sources serviceId siteId host.semanticId requirement).2 ++
        foundations.filterMap errorOf? ++
        profileIssues profile serviceId host.model typeText ++
        (compiler.actionsOf sources.devices serviceId requirement resolved.serviceType host).2 ++
        (match profile with
        | some profile => service.actions.filterMap (actionIssue profile)
        | none => []) }

/-! ## Dependencies -/

/-- The service that a dependency names: by its folded name, of several the last; otherwise by its
identifier. -/
def dependency? (services : List CompiledService) (name : String) : Option ServiceDefinition :=
  let byName := Dict.ofList (services.map fun item =>
    (compiler.casefold item.definition.name, item.definition))
  let byId := Dict.ofList (services.map fun item => (item.definition.id, item.definition))
  (byName.get? (compiler.casefold name)).or (byId.get? name)

/-- The action that one dependency of a service adds to its first action. -/
def dependencyActionId (services : List CompiledService) (serviceId name : String) :
    Except ConfigurationIssue String :=
  match (compiler.dependency? services name).bind fun item => item.actionIds.getLast? with
  | some identifier => .ok identifier
  | none => .error (securityError .dependencyMissing
      s!"Service dependency {quoted name} does not exist." serviceId)

/-- The dependencies of a requirement, each once. -/
def sortedDependencies (requirement : ServiceRequirement) : List String :=
  sortedBy compiler.casefold requirement.dependsOn.dedup

/-- The action of which the dependencies are extended. -/
def extendDependencies (identifiers : List String) (action : ServiceAction) : ServiceAction :=
  { action with dependsOn := sortedBy id (action.dependsOn ++ identifiers).dedup }

/-- The actions, and the issues so far. -/
abbrev LinkState := List ServiceAction × List ConfigurationIssue

/-- One service: its first action waits for the last actions of the services that it depends on. -/
def linkService (services : List CompiledService)
    (requirements : Dict String ServiceRequirement) (state : LinkState)
    (service : CompiledService) : LinkState :=
  match requirements.get? service.definition.id, service.definition.actionIds with
  | some requirement, first :: _ =>
    if requirement.dependsOn = [] then state
    else
      let resolved := (compiler.sortedDependencies requirement).map
        (compiler.dependencyActionId services service.definition.id)
      (state.1.modify (state.1.findIdx (·.id = first))
        (extendDependencies (resolved.filterMap Except.toOption)),
        state.2 ++ resolved.filterMap errorOf?)
  | _, _ => state

/-- The requirements by the identifiers of their services. -/
def sourceRequirements (services : List CompiledService) : Dict String ServiceRequirement :=
  Dict.ofList (services.map fun item => (item.definition.id, item.requirement))

/-- The actions of all services with their dependencies on one another. -/
def linkServices (services : List CompiledService) : LinkState :=
  services.foldl (compiler.linkService services (sourceRequirements services))
    (services.flatMap CompiledService.actions, [])

/-! ## Expectations -/

/-- The record that an action adds, with the identifier of the action. -/
def dnsRecordOf? (action : ServiceAction) : Option (String × String × String) :=
  match action.detail with
  | .addDnsRecord hostname address => some (action.id, hostname, address)
  | _ => none

/-- The content that an action publishes on a site. -/
def httpContentOf? (action : ServiceAction) : Option String :=
  match action.detail with
  | .setHttpContent content _ => some content
  | _ => none

/-- The name and the digest of the file that an action publishes, with its identifier. -/
def tftpFileOf? (action : ServiceAction) : Option (String × String × String) :=
  match action.detail with
  | .publishTftpFile filename _ contentSha256 => some (action.id, filename, contentSha256)
  | _ => none

/-- The first content among actions, empty without one. -/
def markerOf (actions : List ServiceAction) : String := (actions.findSome? httpContentOf?).getD ""

/-- What the expectations of a service are compiled from: the actions of the service in order, of
which `terminal` is the last. -/
structure VerifiedService where
  definition : ServiceDefinition
  requirement : ServiceRequirement
  actions : List ServiceAction
  terminal : ServiceAction

/-- The expectation about the state of a service itself. -/
def directExpectation (service : VerifiedService) : ServiceVerificationExpectation :=
  let definition := service.definition
  { id := compiler.stableId "verify-direct" [definition.id]
    serviceId := definition.id
    actionId := service.terminal.id
    kind := .directServiceState
    evidenceKind := .directState
    hostDeviceId := definition.hostDeviceId
    hostDeviceName := definition.hostDeviceName
    expected :=
      [("enabled", .flag true), ("service_type", .text (serviceTypeValue definition.serviceType))] ++
        match definition.serviceType with
        | .dns => [("records_json", .text (compiler.recordsJson (Dict.ofList
            ((service.actions.filterMap dnsRecordOf?).map Prod.snd)).entries))]
        | .http | .https => [("marker", .text (markerOf service.actions))]
        | _ => [] }

/-- An expectation about what a client sees of a service. -/
def clientExpectation (service : VerifiedService) (client : String × Plans.DevicePlan)
    (identifier actionId : String) (kind : ServiceVerificationKind)
    (expected : List (String × ExpectedValue)) : ServiceVerificationExpectation :=
  { id := identifier
    serviceId := service.definition.id
    actionId := actionId
    kind := kind
    evidenceKind := .behavioral
    hostDeviceId := service.definition.hostDeviceId
    hostDeviceName := service.definition.hostDeviceName
    clientDeviceId := client.1
    clientDeviceName := client.2.name
    expected := expected }

/-- The identifier of the expectation that a client resolves a host name. -/
def dnsResolutionId (serviceId clientId hostname : String) : String :=
  compiler.stableId "verify-dns" [serviceId, clientId, hostname]

/-- The identifier of the expectation that a client fetches the content of a site. -/
def httpFetchId (serviceId clientId : String) : String :=
  compiler.stableId "verify-http-ip" [serviceId, clientId]

/-- The expectations about what one client sees of a service. -/
def clientExpectations (service : VerifiedService) (client : String × Plans.DevicePlan) :
    List ServiceVerificationExpectation :=
  let serviceId := service.definition.id
  let address := service.definition.address
  let terminalId := service.terminal.id
  match service.definition.serviceType with
  | .dns =>
    ((service.actions.filterMap dnsRecordOf?).map fun (actionId, hostname, address) =>
      clientExpectation service client (compiler.dnsResolutionId serviceId client.1 hostname)
        actionId .dnsResolution [("hostname", .text hostname), ("address", .text address)]) ++
    [clientExpectation service client
      (compiler.stableId "verify-dns-negative" [serviceId, client.1]) terminalId .dnsNegativeControl
      [("hostname", .text s!"missing-{front 8 (compiler.sha256 serviceId)}.example.local"),
        ("must_resolve", .flag false)]]
  | .http | .https =>
    [clientExpectation service client (compiler.httpFetchId serviceId client.1) terminalId
      (if service.definition.serviceType = .https then .httpsFetch else .httpFetch)
      [("address", .text address), ("marker", .text (markerOf service.actions)),
        ("scheme", .text (serviceTypeValue service.definition.serviceType))]]
  | .ntp =>
    [clientExpectation service client (compiler.stableId "verify-ntp" [serviceId, client.1])
      terminalId .ntpSync [("address", .text address)]]
  | .tftp =>
    (service.actions.filterMap tftpFileOf?).map fun (actionId, filename, contentSha256) =>
      clientExpectation service client
        (compiler.stableId "verify-tftp" [serviceId, client.1, filename]) actionId .tftpRetrieve
        [("address", .text address), ("filename", .text filename),
          ("content_sha256", .text contentSha256)]

/-- The clients of a service with their devices. -/
def clientsOf (devices : Dict String Plans.DevicePlan) (service : VerifiedService) :
    List (String × Plans.DevicePlan) :=
  service.definition.clientDeviceIds.filterMap fun clientId =>
    (devices.get? clientId).map fun client => (clientId, client)

/-- The clients whose view of a service is verified. -/
def verifiedClients (devices : Dict String Plans.DevicePlan) (service : VerifiedService) :
    List (String × Plans.DevicePlan) :=
  if service.requirement.verificationRequired then clientsOf devices service else []

/-- The expectations about one service. -/
def serviceExpectations (devices : Dict String Plans.DevicePlan) (service : VerifiedService) :
    List ServiceVerificationExpectation :=
  compiler.directExpectation service ::
    (verifiedClients devices service).flatMap (compiler.clientExpectations service)

/-- The resolutions that are verified for a service, by client and host name. -/
def dnsResolutions (devices : Dict String Plans.DevicePlan) (service : VerifiedService) :
    List ((String × String) × String) :=
  if service.definition.serviceType = .dns then
    (verifiedClients devices service).flatMap fun client =>
      (service.actions.filterMap dnsRecordOf?).map fun (_, hostname, _) =>
        ((client.1, hostname), compiler.dnsResolutionId service.definition.id client.1 hostname)
  else []

/-- The fetches that are verified for a service, by service and client. -/
def httpFetches (devices : Dict String Plans.DevicePlan) (service : VerifiedService) :
    List ((String × String) × String) :=
  if service.definition.serviceType = .http ∨ service.definition.serviceType = .https then
    (verifiedClients devices service).map fun client =>
      ((service.definition.id, client.1), compiler.httpFetchId service.definition.id client.1)
  else []

/-- The expectation that a client fetches the content of a site by its host name. -/
def composedExpectation (service : VerifiedService) (hostname dnsId fetchId : String)
    (client : String × Plans.DevicePlan) : ServiceVerificationExpectation :=
  { clientExpectation service client
      (compiler.stableId "verify-http-name" [service.definition.id, client.1, hostname])
      service.terminal.id .httpByHostname
      [("hostname", .text hostname), ("marker", .text (markerOf service.actions))] with
    evidenceKind := .composedBehavioral
    dependsOn := sortedBy id [dnsId, fetchId] }

/-- The composed expectations of one service. -/
def composedExpectations (devices : Dict String Plans.DevicePlan)
    (resolutions fetches : Dict (String × String) String) (service : VerifiedService) :
    List ServiceVerificationExpectation :=
  let hostname := compiler.casefold service.requirement.hostname
  if service.definition.serviceType ≠ .http ∨ service.requirement.hostname = "" ∨
      !isHostname hostname then []
  else
    (clientsOf devices service).filterMap fun client => do
      let dnsId ← resolutions.get? (client.1, hostname)
      let fetchId ← fetches.get? (service.definition.id, client.1)
      return compiler.composedExpectation service hostname dnsId fetchId client

/-- A service with the planned actions that carry its identifier; a service without any is left
out. -/
def verifiedService? (services : List CompiledService) (actions : List ServiceAction)
    (item : CompiledService) : Option VerifiedService := do
  let serviceActions := actions.filter (·.serviceId = item.definition.id)
  let terminal ← serviceActions.getLast?
  let requirement ← (sourceRequirements services).get? item.definition.id
  return {
    definition := item.definition
    requirement := requirement
    actions := serviceActions
    terminal := terminal }

/-- The services in order, each with its actions. -/
def verifiedServices (services : List CompiledService) (actions : List ServiceAction) :
    List VerifiedService :=
  (sortedBy (fun item => item.definition.id) services).filterMap
    (verifiedService? services actions)

/-- The order of the expectations. -/
abbrev ExpectationKey := ℕ ×ₗ String ×ₗ String ×ₗ String ×ₗ String

/-- The key of an expectation. -/
def expectationKey (item : ServiceVerificationExpectation) : ExpectationKey :=
  toLex (if item.evidenceKind = .composedBehavioral then 1 else 0, toLex (item.serviceId,
    toLex (item.kind.value, toLex (item.clientDeviceId, item.id))))

/-- `_expectations`. -/
def expectationsOf (devices : Dict String Plans.DevicePlan) (services : List CompiledService)
    (actions : List ServiceAction) : List ServiceVerificationExpectation :=
  let verified := verifiedServices services actions
  let resolutions := Dict.ofList (verified.flatMap (compiler.dnsResolutions devices))
  let fetches := Dict.ofList (verified.flatMap (compiler.httpFetches devices))
  sortedBy expectationKey (verified.flatMap (compiler.serviceExpectations devices) ++
    verified.flatMap (compiler.composedExpectations devices resolutions fetches))

/-- The prerequisites of an expectation. -/
def withPrerequisites (item : ServiceVerificationExpectation) : ServiceVerificationExpectation :=
  { item with verificationPrerequisites :=
      { kind := .actionApplied, referenceId := item.actionId } ::
        (sortedBy id item.dependsOn.dedup).map fun identifier =>
          { kind := .verificationVerified, referenceId := identifier } }

/-! ## The compiler -/

/-- What the iteration over the requirements produces. -/
def outputs (request : ServiceRequest) : List ServiceOutput :=
  (compiler.requirements request.enterprise).map
    (compiler.compileService (sourcesOf request) request.capabilities)

/-- The services. -/
def services (request : ServiceRequest) : List CompiledService :=
  (compiler.outputs request).filterMap ServiceOutput.service

/-- The issues that were found before the actions are ordered. -/
def issuesOf (request : ServiceRequest) : List ConfigurationIssue :=
  validateSources request ++ (compiler.outputs request).flatMap ServiceOutput.issues ++
    (compiler.linkServices (compiler.services request)).2

/-- A service with the identifiers of the expectations about it. -/
def withExpectationIds (expectations : List ServiceVerificationExpectation)
    (definition : ServiceDefinition) : ServiceDefinition :=
  let own := expectations.filter (·.serviceId = definition.id)
  { definition with verificationExpectationIds := own.map ServiceVerificationExpectation.id }

/-- The plan with the given actions. -/
def servicePlan (request : ServiceRequest) (actions : List ServiceAction) : ServicePlan :=
  let topology := request.topology
  let services := compiler.services request
  let expectations :=
    (compiler.expectationsOf (sourcesOf request).devices services actions).map withPrerequisites
  let plan : ServicePlan :=
    { id := "services_" ++
        (if topology.id = "" then front 16 topology.physicalIdentityHash else topology.id)
      sourceTopologyId := topology.id
      sourceTopologyHash := topology.physicalIdentityHash
      sourceTopologyHashSchema :=
        if topology.physicalTopologyHash = "" then "legacy-full-v1" else "physical-topology-v2"
      sourceConfigurationId := request.configuration.id
      sourceConfigurationHash := request.configuration.semanticHash
      services := (sortedBy (fun item => item.definition.id) services).map fun item =>
        withExpectationIds expectations item.definition
      actions := actions.map fun action => { action with applyDependencies := action.dependsOn }
      foundationalRequirements :=
        sortedBy (fun item : FoundationalServiceRequirement =>
            toLex (item.deviceId, item.configurationActionId))
          (Dict.ofList ((compiler.outputs request).flatMap ServiceOutput.foundations)).values
      verificationExpectations := expectations }
  { plan with semanticHash := compiler.semanticHash plan }

/-- The issue about actions that cannot be ordered. -/
def orderIssue (e : ConfigurationDependencyError) : ConfigurationIssue :=
  securityError (match e with
      | .cycle _ => .dependencyCycle
      | _ => .dependencyMissing)
    e.message (String.intercalate "," (dependencyActionIds e))

/-- `compile`. -/
def compile (request : ServiceRequest) : ServiceCompileResult :=
  let issues := compiler.issuesOf request
  match orderDependencyActions (compiler.linkServices (compiler.services request)).1 with
  | .error e => { issues := deduplicateIssues (issues ++ [orderIssue e]) }
  | .ok actions =>
    if issues.any (·.severity = .error) then { issues := deduplicateIssues issues }
    else
      let plan := compiler.servicePlan request actions
      { plan := some plan
        semanticHash := plan.semanticHash
        issues := deduplicateIssues issues }

end ServiceCompiler

end Services

end PacketTracer
