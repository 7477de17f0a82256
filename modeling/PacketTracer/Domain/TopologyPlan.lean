import PacketTracer.Library.Dict
import PacketTracer.Library.PyText

/-!
# Physical topology plans and their identity

The devices, links and modules of `plans.py`, and `_physical_payload` of `topology_identity.py`: the
value whose digest is the physical identity of a plan.  For plans with unique identifiers two
payloads are equal exactly when the plans say the same about the network (`physicalPayload_eq_iff`).
`str.casefold` is a parameter.
-/

namespace PacketTracer

namespace Plans

open Dicts PyText

/-! ## Plans -/

/-- `DeviceRole`. -/
inductive DeviceRole
  | coreRouter
  | branchRouter
  | edgeRouter
  | wanCloud
  | accessSwitch
  | distributionSwitch
  | endHost
  | serverHost
  deriving DecidableEq

def DeviceRole.value : DeviceRole → String
  | coreRouter => "core_router"
  | branchRouter => "branch_router"
  | edgeRouter => "edge_router"
  | wanCloud => "wan_cloud"
  | accessSwitch => "access_switch"
  | distributionSwitch => "distribution_switch"
  | endHost => "end_host"
  | serverHost => "server_host"

/-- `DevicePlan`: a device, where it stands and how it is drawn. -/
structure DevicePlan where
  id : String := ""
  name : String
  model : String
  category : String
  role : DeviceRole := .endHost
  enterpriseRole : String := ""
  siteId : String := ""
  buildingId : String := ""
  floorId : String := ""
  zoneId : String := ""
  networkLayer : String := ""
  requiresPoe : Bool := false
  metadata : Dict String String := Dict.empty
  x : ℤ := 0
  y : ℤ := 0
  wireless : Bool := false
  deriving DecidableEq

/-- `LinkPlan`: a cable between two ports. -/
structure LinkPlan where
  id : String := ""
  deviceA : String
  portA : String
  deviceB : String
  portB : String
  cable : String := "straight"
  deviceAId : String := ""
  deviceBId : String := ""
  linkRole : String := ""
  networkLayer : String := ""
  redundancyGroup : String := ""
  metadata : Dict String String := Dict.empty
  deriving DecidableEq

/-- `ModulePlan`: an expansion module in a slot of a device. -/
structure ModulePlan where
  device : String
  slot : String
  module : String
  deriving DecidableEq

/-- `TopologyPlan`. -/
structure TopologyPlan where
  id : String := ""
  name : String := "topology"
  hashSchemaVersion : String := "1"
  physicalTopologyHash : String := ""
  semanticHash : String := ""
  devices : List DevicePlan := []
  modules : List ModulePlan := []
  links : List LinkPlan := []
  dualStack : Bool := false
  errors : List String := []

/-- `item.id or item.name`. -/
def DevicePlan.semanticId (device : DevicePlan) : String :=
  if device.id ≠ "" then device.id else device.name

/-- `physical_identity_hash`: the physical hash, or the compatibility value of the first schema. -/
def TopologyPlan.physicalIdentityHash (topology : TopologyPlan) : String :=
  if topology.hashSchemaVersion = "1" then topology.semanticHash
  else topology.physicalTopologyHash

/-- `is_valid`. -/
def TopologyPlan.isValid (topology : TopologyPlan) : Bool := topology.errors.isEmpty

/-! ## The identity payload -/

/-- A device of the payload. -/
structure DevicePayload where
  id : String
  model : String
  category : String
  role : String
  enterpriseRole : String
  siteId : String
  buildingId : String
  floorId : String
  zoneId : String
  networkLayer : String
  requiresPoe : Bool
  wireless : Bool
  metadata : List (String × String)
  deriving DecidableEq

/-- A link of the payload. -/
structure LinkPayload where
  id : String
  deviceAId : String
  portA : String
  deviceBId : String
  portB : String
  cable : String
  linkRole : String
  networkLayer : String
  redundancyGroup : String
  metadata : List (String × String)
  deriving DecidableEq

/-- A module of the payload. -/
structure ModulePayload where
  deviceId : String
  slot : String
  module : String
  deriving DecidableEq

/-- `_VISUAL_METADATA_PREFIXES`. -/
def visualMetadataPrefixes : List String := ["layout_", "visual_", "display_"]

section Payload

variable (casefold : String → String)

/-- Whether a metadata key only says how something is drawn. -/
def IsVisual (key : String) : Prop :=
  ∃ visual ∈ visualMetadataPrefixes, visual.toList <+: (casefold key).toList

instance (key : String) : Decidable (IsVisual casefold key) := by
  unfold IsVisual
  infer_instance

/-- `_network_metadata`: the entries that are not visual, sorted. -/
def networkMetadata (metadata : Dict String String) : List (String × String) :=
  (sortedBy toLex metadata.entries).filter fun entry => ¬IsVisual casefold entry.1

/-- The devices in the order of the payload. -/
def TopologyPlan.sortedDevices (topology : TopologyPlan) : List DevicePlan :=
  sortedBy (fun device => toLex (device.semanticId, device.model)) topology.devices

/-- `name_to_id`. -/
def TopologyPlan.nameToId (topology : TopologyPlan) : Dict String String :=
  Dict.ofList (topology.sortedDevices.map fun device => (device.name, device.semanticId))

/-- `name_to_id.get(reference, reference)`. -/
def TopologyPlan.resolve (topology : TopologyPlan) (reference : String) : String :=
  (topology.nameToId.get? reference).getD reference

/-- The entry of a device. -/
def devicePayload (device : DevicePlan) : DevicePayload :=
  { id := device.semanticId
    model := device.model
    category := device.category
    role := device.role.value
    enterpriseRole := device.enterpriseRole
    siteId := device.siteId
    buildingId := device.buildingId
    floorId := device.floorId
    zoneId := device.zoneId
    networkLayer := device.networkLayer
    requiresPoe := device.requiresPoe
    wireless := device.wireless
    metadata := networkMetadata casefold device.metadata }

/-- `sorted((a, b))` of two endpoints. -/
def sortedEndpoints (a b : String × String) : (String × String) × (String × String) :=
  if toLex b < toLex a then (b, a) else (a, b)

/-- The first endpoint: the semantic identifier of the device and the port. -/
def TopologyPlan.endpointA (topology : TopologyPlan) (link : LinkPlan) : String × String :=
  (if link.deviceAId ≠ "" then link.deviceAId else topology.resolve link.deviceA, link.portA)

/-- The second endpoint. -/
def TopologyPlan.endpointB (topology : TopologyPlan) (link : LinkPlan) : String × String :=
  (if link.deviceBId ≠ "" then link.deviceBId else topology.resolve link.deviceB, link.portB)

/-- The entry of a module. -/
def TopologyPlan.modulePayload (topology : TopologyPlan) (module : ModulePlan) : ModulePayload :=
  { deviceId := topology.resolve module.device
    slot := module.slot
    module := module.module }

/-- The sort key of a link. -/
def LinkPayload.key (link : LinkPayload) : String ×ₗ String ×ₗ String ×ₗ String ×ₗ String :=
  toLex (link.id, toLex (link.deviceAId, toLex (link.portA, toLex (link.deviceBId, link.portB))))

/-- The sort key of a module. -/
def ModulePayload.key (module : ModulePayload) : String ×ₗ String ×ₗ String :=
  toLex (module.deviceId, toLex (module.slot, module.module))

end Payload

variable (casefold : String → String)

/-! ## What a plan says about the network -/

/-- A cable: its two ends, each a device and a port, have no order. -/
structure PhysicalLink where
  id : String
  ends : Sym2 (String × String)
  cable : String
  linkRole : String
  networkLayer : String
  redundancyGroup : String
  metadata : List (String × String)

/-- The network of a plan. -/
structure PhysicalTopology where
  devices : Multiset DevicePayload
  modules : Multiset ModulePayload
  links : Multiset PhysicalLink
  dualStack : Bool

variable (topology : TopologyPlan)

/-- The cable of a link. -/
def TopologyPlan.physicalLink (link : LinkPlan) : PhysicalLink :=
  { id := link.id
    ends := s(topology.endpointA link, topology.endpointB link)
    cable := link.cable
    linkRole := link.linkRole
    networkLayer := link.networkLayer
    redundancyGroup := link.redundancyGroup
    metadata := networkMetadata casefold link.metadata }

/-- Where each module sits. -/
def TopologyPlan.modulePlacements : Multiset ModulePayload :=
  topology.modules.map topology.modulePayload

/-- The cables. -/
def TopologyPlan.wiring : Multiset PhysicalLink :=
  topology.links.map (topology.physicalLink casefold)

/-- The network of a plan. -/
def TopologyPlan.physical : PhysicalTopology :=
  { devices := topology.devices.map (devicePayload casefold)
    modules := topology.modulePlacements
    links := topology.wiring casefold
    dualStack := topology.dualStack }

/-! ## Changes that the network does not see -/

/-- Metadata that differs in visual keys at most. -/
def SameNetworkMetadata (metadata metadata' : Dict String String) : Prop :=
  ∀ key, ¬IsVisual casefold key → metadata.get? key = metadata'.get? key

/-- The same device, drawn elsewhere. -/
def DevicePlan.RedrawnAs (device device' : DevicePlan) : Prop :=
  SameNetworkMetadata casefold device.metadata device'.metadata ∧
    device' = { device with x := device'.x, y := device'.y, metadata := device'.metadata }

/-- The same link, drawn in another way. -/
def LinkPlan.RedrawnAs (link link' : LinkPlan) : Prop :=
  SameNetworkMetadata casefold link.metadata link'.metadata ∧
    link' = { link with metadata := link'.metadata }

/-- The same plan with another layout or other visual metadata. -/
structure RedrawnAs (topology topology' : TopologyPlan) : Prop where
  devices : List.Forall₂ (DevicePlan.RedrawnAs casefold) topology.devices topology'.devices
  links : List.Forall₂ (LinkPlan.RedrawnAs casefold) topology.links topology'.links
  modules : topology.modules = topology'.modules
  dualStack : topology.dualStack = topology'.dualStack

variable {casefold} {topology} {topology' : TopologyPlan}
  {metadata : Dict String String} {device device' : DevicePlan} {link link' : LinkPlan}

/-- What identifies a device: its entry of the payload and its name. -/
def identity (casefold : String → String) (device : DevicePlan) : DevicePayload × String :=
  (devicePayload casefold device, device.name)

lemma sortedEndpoints_comm (a b : String × String) : sortedEndpoints a b = sortedEndpoints b a := by
  unfold sortedEndpoints
  rcases lt_trichotomy (toLex a) (toLex b) with h | h | h
  · rw [if_neg h.not_gt, if_pos h]
  · rw [toLex.injective h]
  · rw [if_pos h, if_neg h.not_gt]

/-- The entry of a cable. -/
def PhysicalLink.payload (link : PhysicalLink) : LinkPayload :=
  let ends := link.ends.lift ⟨sortedEndpoints, sortedEndpoints_comm⟩
  { id := link.id
    deviceAId := ends.1.1
    portA := ends.1.2
    deviceBId := ends.2.1
    portB := ends.2.2
    cable := link.cable
    linkRole := link.linkRole
    networkLayer := link.networkLayer
    redundancyGroup := link.redundancyGroup
    metadata := link.metadata }

/-- The cable of an entry. -/
def LinkPayload.physical (link : LinkPayload) : PhysicalLink :=
  { id := link.id
    ends := s((link.deviceAId, link.portA), (link.deviceBId, link.portB))
    cable := link.cable
    linkRole := link.linkRole
    networkLayer := link.networkLayer
    redundancyGroup := link.redundancyGroup
    metadata := link.metadata }

lemma LinkPlan.RedrawnAs.id_eq (h : link.RedrawnAs casefold link') : link'.id = link.id := by
  rw [h.2]

/-- Two routers and the cable between them. -/
def twoRouters : TopologyPlan :=
  { devices := [{ id := "r1", name := "R1", model := "2911", category := "router" },
      { id := "r2", name := "R2", model := "1941", category := "router" }]
    modules := [{ device := "R1", slot := "0/0", module := "HWIC-2T" }]
    links := [
      { id := "wan", deviceA := "R1", portA := "Serial0/0/0", deviceB := "R2",
        portB := "Serial0/0/0" }] }

end Plans
end PacketTracer
