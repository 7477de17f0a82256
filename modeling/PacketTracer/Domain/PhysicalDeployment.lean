import PacketTracer.Domain.Deployment
import PacketTracer.Domain.Execution
import PacketTracer.Library.PyStr

/-!
# Observations of a physical deployment

`physical_deployment.py` and `port_inventory.py`: what a backend answers when it ensures or observes
a device, a module or a link, what these answers establish, and whether a workspace was restored.
Python sets are compared as finite sets; `str.casefold` is a parameter.
-/

namespace PacketTracer

open Dicts PyText PyStrs Plans

/-! ## Evidence -/

/-- `EvidenceFreshness`. -/
inductive EvidenceFreshness
  | fresh
  | stale
  | unknown
  deriving DecidableEq

/-- `SupportStatus`. -/
inductive SupportStatus
  | unknown
  | supported
  | unsupported
  | partially
  deriving DecidableEq

def SupportStatus.value : SupportStatus → String
  | unknown => "unknown"
  | supported => "supported"
  | unsupported => "unsupported"
  | partially => "partial"

/-- `ObservationStatus`. -/
inductive ObservationStatus
  | notAttempted
  | observed
  | unobservable
  | probeFailed
  | skipped
  deriving DecidableEq

/-- `VerificationStatus`. -/
inductive VerificationStatus
  | unverified
  | verified
  | failed
  | conflicted
  deriving DecidableEq

def VerificationStatus.value : VerificationStatus → String
  | unverified => "unverified"
  | verified => "verified"
  | failed => "failed"
  | conflicted => "conflicted"

def MutationDisposition.value : MutationDisposition → String
  | changed => "changed"
  | noOp => "no_op"
  | reasserted => "reasserted"
  | failed => "failed"
  | blocked => "blocked"
  | skipped => "skipped"
  | unknown => "unknown"

/-! ## Port inventories -/

/-- `PortInventoryEvidenceTier`. -/
inductive PortInventoryEvidenceTier
  | declared
  | backendVerified
  | unknown
  deriving DecidableEq

/-- `PortInventoryResolution`: which ports a query authorises. -/
structure PortInventoryResolution where
  tier : PortInventoryEvidenceTier := .unknown
  ports : List String := []
  portAliases : Dict String String := Dict.empty
  reason : String := ""

/-- `bindable_ports`. -/
def PortInventoryResolution.bindablePorts (resolution : PortInventoryResolution) : List String :=
  resolution.ports.filter fun item => !resolution.portAliases.contains item

/-- `unsupported_ports`. -/
def PortInventoryResolution.unsupportedPorts (casefold : String → String)
    (resolution : PortInventoryResolution) (required : List String) : List String :=
  let wanted := sortedBy casefold (required.dedup.filter (· ≠ ""))
  if resolution.tier ≠ .backendVerified then wanted
  else wanted.filter (· ∉ resolution.bindablePorts)

/-! ## Mutations and observations -/

/-- `PhysicalObjectKind`. -/
inductive PhysicalObjectKind
  | device
  | module
  | link
  deriving DecidableEq

def PhysicalObjectKind.value : PhysicalObjectKind → String
  | device => "device"
  | module => "module"
  | link => "link"

/-- `PhysicalMutationResult`. -/
structure PhysicalMutationResult where
  targetId : String
  targetKind : PhysicalObjectKind
  disposition : MutationDisposition := .unknown
  applied : Bool := false
  inverseAvailable : Bool := false
  inverseActionId : String := ""
  message : String := ""
  deriving DecidableEq

/-- `PhysicalDeviceObservation`. -/
structure PhysicalDeviceObservation where
  targetId : String
  observed : Bool := true
  deployedName : String
  model : String
  interfaces : List String := []
  interfacesObserved : Bool := true
  runtimeIdentifier : String := ""
  runtimeIdentifierStable : Bool := false
  runtimeFingerprint : String := ""
  deriving DecidableEq

/-- `PhysicalLinkObservation`. -/
structure PhysicalLinkObservation where
  targetId : String
  observed : Bool := true
  deviceA : String
  portA : String
  deviceB : String
  portB : String
  cable : String := ""
  cableObserved : Bool := false
  runtimeLinkIdentifier : String := ""
  runtimeLinkIdentityObserved : Bool := false
  deriving DecidableEq

/-- `PhysicalModuleEffectCapability`. -/
structure PhysicalModuleEffectCapability where
  targetId : String
  operationSupport : SupportStatus := .unknown
  effectObservationSupport : SupportStatus := .unknown
  expectedPorts : List String := []
  expectedPortClasses : List String := []
  deriving DecidableEq

/-- `PhysicalModuleObservation`: the ports before and after, and what the backend says about the
card. -/
structure PhysicalModuleObservation where
  targetId : String
  observed : Bool := true
  deviceName : String
  requestedSlot : String
  requestedModule : String
  freshness : EvidenceFreshness := .unknown
  portInventoryObserved : Bool := false
  deviceNewlyOwned : Bool := false
  expectedPorts : List String := []
  expectedPortClasses : List String := []
  portsBefore : List String := []
  portsAfter : List String := []
  observedExpectedPorts : List String := []
  observedPortClasses : List String := []
  effectObserved : Bool := false
  identityObservationStatus : ObservationStatus := .unobservable
  observedModuleIdentity : String := ""
  deriving DecidableEq

section ModuleEffect

variable (casefold : String → String)

/-- The class of one interface name. -/
def portClass (port : String) : String :=
  let lowered := (casefold port).toList
  if "serial".toList <+: lowered then "serial"
  else if "ethernet".toList <:+: lowered then "ethernet"
  else if "async".toList <+: lowered then "async"
  else if "modem".toList <+: lowered then "modem"
  else "other"

/-- `port_classes`. -/
def portClasses (ports : List String) : List String :=
  sortedBy id (ports.map (portClass casefold)).dedup

namespace PhysicalModuleObservation

variable (observation : PhysicalModuleObservation)

/-- `newly_added_relevant_ports`. -/
def newlyAddedRelevantPorts : List String :=
  let relevant := portClasses casefold observation.expectedPorts
  if relevant = [] then []
  else
    let added := observation.portsAfter.dedup.filter (· ∉ observation.portsBefore)
    sortedBy casefold (added.filter fun port => ∃ kind ∈ portClasses casefold [port], kind ∈ relevant)

/-- `effect_newly_caused`: nothing missing, nothing extra. -/
def effectNewlyCaused : Bool :=
  observation.expectedPorts ≠ [] ∧
    (observation.newlyAddedRelevantPorts casefold).toFinset = observation.expectedPorts.toFinset

/-- `effect_verification_status`. -/
def effectVerificationStatus : VerificationStatus :=
  if !observation.observed ∨ !observation.portInventoryObserved ∨ observation.expectedPorts = [] ∨
      observation.freshness ≠ .fresh then .unverified
  else if observation.deviceNewlyOwned ∧ observation.effectObserved ∧
      observation.effectNewlyCaused casefold ∧
      observation.expectedPorts ⊆ observation.observedExpectedPorts ∧
      observation.expectedPortClasses ⊆ observation.observedPortClasses then .verified
  else .failed

end PhysicalModuleObservation

end ModuleEffect

/-! ## The workspace -/

/-- `PhysicalWorkspaceDeviceObservation`. -/
structure PhysicalWorkspaceDeviceObservation where
  name : String
  model : String
  ports : List String := []
  backendManaged : Bool := false
  deriving DecidableEq

/-- `PhysicalWorkspaceLinkObservation`. -/
structure PhysicalWorkspaceLinkObservation where
  className : String := ""
  deviceA : String := ""
  portA : String := ""
  deviceB : String := ""
  portB : String := ""
  deriving DecidableEq

/-- `PhysicalWorkspaceObservation`. -/
structure PhysicalWorkspaceObservation where
  observed : Bool := true
  devices : List PhysicalWorkspaceDeviceObservation := []
  links : List PhysicalWorkspaceLinkObservation := []
  message : String := ""
  deriving DecidableEq

/-- `semantic_devices`. -/
def PhysicalWorkspaceObservation.semanticDevices (workspace : PhysicalWorkspaceObservation) :
    List PhysicalWorkspaceDeviceObservation :=
  workspace.devices.filter (!·.backendManaged)

/-- `backend_managed_devices`. -/
def PhysicalWorkspaceObservation.backendManagedDevices
    (workspace : PhysicalWorkspaceObservation) : List PhysicalWorkspaceDeviceObservation :=
  workspace.devices.filter (·.backendManaged)

/-- `disposable_workspace_error`. -/
def disposableWorkspaceError (casefold : String → String)
    (observation : PhysicalWorkspaceObservation) : String :=
  if !observation.observed then
    "Read-only workspace inventory was incomplete: " ++
      (if observation.message ≠ "" then observation.message else "unknown observation failure")
  else if observation.backendManagedDevices.any fun item =>
      casefold (String.ofList (strip item.model.toList)) ≠ "power distribution device" ∨
        item.ports ≠ [] then
    "Workspace inventory used an invalid backend-managed classification; " ++
      "only an exact zero-port Power Distribution Device may be excluded."
  else if observation.semanticDevices ≠ [] ∨ observation.links ≠ [] then
    "Workspace is not empty: observed " ++
      s!"{observation.semanticDevices.length} semantic device(s) and " ++
      s!"{observation.links.length} link(s). User/manual/graded topology " ++
      "must never be mutated."
  else ""

/-! ## Outcomes -/

/-- `PhysicalDeploymentStatus`. -/
inductive PhysicalDeploymentStatus
  | verified
  | partially
  | failed
  deriving DecidableEq

/-- `PhysicalDeploymentItemStatus`. -/
inductive PhysicalDeploymentItemStatus
  | notAttempted
  | applied
  | satisfied
  | observed
  | failed
  deriving DecidableEq

/-- `PhysicalDeploymentFailureCode`. -/
inductive PhysicalDeploymentFailureCode
  | none
  | invalidTopology
  | physicalHashMismatch
  | environmentFingerprintInvalid
  | workspaceObservationFailed
  | workspaceNotEmpty
  | deviceApplicationFailed
  | deviceObservationFailed
  | portEvidenceUnavailable
  | portObservationFailed
  | moduleApplicationFailed
  | moduleObservationUnavailable
  | moduleObservationFailed
  | linkApplicationFailed
  | linkObservationFailed
  | manifestCreationFailed
  deriving DecidableEq

/-- `PhysicalDeploymentItemResult`. -/
structure PhysicalDeploymentItemResult where
  targetId : String
  targetKind : PhysicalObjectKind
  status : PhysicalDeploymentItemStatus := .notAttempted
  disposition : MutationDisposition := .unknown
  applied : Bool := false
  observed : Bool := false
  message : String := ""
  deriving DecidableEq

/-- `PhysicalDeploymentResult`, without its evidence records. -/
structure PhysicalDeploymentResult where
  topologyId : String
  physicalTopologyHash : String
  deploymentId : String
  environmentFingerprint : EnvironmentFingerprint
  status : PhysicalDeploymentStatus
  failureCode : PhysicalDeploymentFailureCode := .none
  itemResults : List PhysicalDeploymentItemResult := []
  manifest : Option DeploymentManifest := none
  executionJournal : ApplicationExecutionJournal
  dirtyState : DirtyState := .clean
  errors : List String := []
  deriving DecidableEq

/-- `identity_key` of a device. -/
def PhysicalWorkspaceDeviceObservation.identityKey (casefold : String → String)
    (device : PhysicalWorkspaceDeviceObservation) : String × String × List String :=
  (device.name, device.model, sortedBy casefold device.ports.dedup)

/-- `identity_key` of a link. -/
def PhysicalWorkspaceLinkObservation.identityKey (link : PhysicalWorkspaceLinkObservation) :
    String × (String × String) × (String × String) :=
  (link.className, sortedEndpoints (link.deviceA, link.portA) (link.deviceB, link.portB))

/-- `physical_workspace_restoration_matches`. -/
def physicalWorkspaceRestorationMatches (casefold : String → String)
    (baseline observed : PhysicalWorkspaceObservation) : Bool :=
  let deviceKeys := List.map (PhysicalWorkspaceDeviceObservation.identityKey casefold)
  let linkKeys := List.map PhysicalWorkspaceLinkObservation.identityKey
  baseline.observed && observed.observed &&
    decide ((deviceKeys baseline.semanticDevices).Perm (deviceKeys observed.semanticDevices)) &&
    decide ((linkKeys baseline.links).Perm (linkKeys observed.links)) &&
    (deviceKeys baseline.backendManagedDevices).all fun key =>
      (deviceKeys baseline.backendManagedDevices).count key ≤
        (deviceKeys observed.backendManagedDevices).count key

/-- `canonical_cleanup_restoration_error`. -/
def canonicalCleanupRestorationError (casefold : String → String)
    (baseline first second : PhysicalWorkspaceObservation) : String :=
  if !physicalWorkspaceRestorationMatches casefold baseline first then
    "First cleanup observation did not restore the exact baseline."
  else if !physicalWorkspaceRestorationMatches casefold baseline second then
    "Second cleanup observation did not restore the exact baseline."
  else ""

end PacketTracer
