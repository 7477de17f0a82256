import PacketTracer.Domain.TopologyPlan
import PacketTracer.Library.Fallible

/-!
# Deployment manifests

`deployment.py`: the binding between the devices of a plan and the objects that exist in the
backend, and how it is built from an observed inventory.  Resolving a target refuses, with the text
of `DeploymentIdentityError`, whenever the binding is missing, ambiguous or contradicted.
`EnvironmentFingerprint.semantic_hash` is a SHA-256 digest; it is a parameter.

A manifest is built by name and resolved by the method each binding recorded; when the two agree is
determined by `resolvesAsRecorded_iff`.
-/

namespace PacketTracer

open Dicts PyText Fallible

/-- `RuntimeConfigurationTarget`: a device that the runtime lists in its inventory. -/
structure RuntimeConfigurationTarget where
  deviceName : String
  model : String
  interfaces : List String := []
  runtimeIdentifier : String := ""
  /-- Whether the identifier survives a restart of the runtime. -/
  runtimeIdentifierStable : Bool := false
  runtimeFingerprint : String := ""
  deriving DecidableEq

/-- `IdentityMethod`. -/
inductive IdentityMethod
  | runtimeId
  | semanticBinding
  | compositeFingerprint
  | nameOnly
  deriving DecidableEq

/-- `EnvironmentFingerprint`. -/
structure EnvironmentFingerprint where
  backend : String := "packet_tracer"
  backendVersion : String := ""
  bridgeTransport : String := ""
  extensionVersion : String := ""
  platform : String := ""
  capabilitySnapshotVersion : String := ""
  runtimeMode : String := ""
  deriving DecidableEq

/-- `DeploymentBinding`. -/
structure DeploymentBinding where
  semanticDeviceId : String
  deployedName : String
  model : String
  runtimeIdentifier : String := ""
  runtimeFingerprint : String := ""
  ports : List String := []
  identityMethod : IdentityMethod := .semanticBinding
  creationEvidence : String := ""
  deriving DecidableEq

/-- `SerialEndpointOrientation`. -/
inductive SerialEndpointOrientation
  | dce
  | dte
  | unresolved
  deriving DecidableEq

def SerialEndpointOrientation.value : SerialEndpointOrientation → String
  | dce => "dce"
  | dte => "dte"
  | unresolved => "unresolved"

/-- `DeploymentLinkEndpoint`. -/
structure DeploymentLinkEndpoint where
  semanticDeviceId : String
  interface : String
  orientation : SerialEndpointOrientation := .unresolved
  deriving DecidableEq

/-- `DeploymentLinkBinding`. -/
structure DeploymentLinkBinding where
  semanticLinkId : String
  endpointA : DeploymentLinkEndpoint
  endpointB : DeploymentLinkEndpoint
  runtimeLinkIdentifier : String := ""
  runtimeLinkIdentityObserved : Bool := false
  deriving DecidableEq

/-- `endpoint_for`. -/
def DeploymentLinkBinding.endpointFor (link : DeploymentLinkBinding) (semanticDeviceId : String) :
    Except String DeploymentLinkEndpoint :=
  match [link.endpointA, link.endpointB].find? (·.semanticDeviceId = semanticDeviceId) with
  | some endpoint => .ok endpoint
  | none =>
    .error s!"Link {quoted link.semanticLinkId} has no endpoint on {quoted semanticDeviceId}."

/-- `requires_deployment_manifest`. -/
def requiresDeploymentManifest (sourceTopologyHashSchema : String) : Bool :=
  sourceTopologyHashSchema ≠ "legacy-full-v1"

/-- `DeploymentManifest`. -/
structure DeploymentManifest where
  deploymentId : String
  physicalTopologyHash : String
  backend : String := "packet_tracer"
  backendVersion : String := ""
  environmentFingerprint : EnvironmentFingerprint := {}
  bindings : List DeploymentBinding := []
  linkBindings : List DeploymentLinkBinding := []
  deriving DecidableEq

/-- `validate_manifest_environment`. -/
def validateManifestEnvironment (semanticHash : EnvironmentFingerprint → String)
    (manifest : DeploymentManifest) (runtimeEnvironment : Option EnvironmentFingerprint) :
    Except String Unit :=
  match runtimeEnvironment with
  | none => .error "Runtime EnvironmentFingerprint is required for a DeploymentManifest."
  | some environment =>
    if semanticHash environment ≠ semanticHash manifest.environmentFingerprint ∨
        environment.backend ≠ manifest.backend ∨
        environment.backendVersion ≠ manifest.backendVersion then
      .error "Runtime EnvironmentFingerprint does not match DeploymentManifest."
    else .ok ()

namespace DeploymentManifest

variable (manifest : DeploymentManifest)

/-- `binding_for`. -/
def bindingFor (semanticDeviceId : String) : Except String DeploymentBinding :=
  match manifest.bindings.filter (·.semanticDeviceId = semanticDeviceId) with
  | [binding] => .ok binding
  | _ => .error s!"Deployment binding for {quoted semanticDeviceId} is missing or ambiguous."

/-- `link_binding_for`. -/
def linkBindingFor (semanticLinkId : String) : Except String DeploymentLinkBinding :=
  match manifest.linkBindings.filter (·.semanticLinkId = semanticLinkId) with
  | [link] => .ok link
  | _ => .error s!"Deployment link binding for {quoted semanticLinkId} is missing or ambiguous."

/-- The targets of the inventory that match a binding, by stable identifier or by name. -/
def matchingTargets (binding : DeploymentBinding) (semanticDeviceId : String)
    (inventory : List RuntimeConfigurationTarget) :
    Except String (List RuntimeConfigurationTarget) :=
  if binding.identityMethod = .runtimeId then
    if binding.runtimeIdentifier = "" then
      .error (s!"Manifest binding {quoted semanticDeviceId} declares runtime-ID " ++
        "identity without a runtime identifier.")
    else
      let candidates := inventory.filter (·.runtimeIdentifier = binding.runtimeIdentifier)
      if candidates = [] then
        .error (s!"Stable runtime identifier for {quoted semanticDeviceId} is no longer " ++
          "present; refusing to downgrade to a name-only lookup.")
      else .ok candidates
  else if binding.identityMethod = .compositeFingerprint ∧ binding.runtimeFingerprint = "" then
    .error (s!"Manifest binding {quoted semanticDeviceId} declares composite " ++
      "fingerprint identity without a fingerprint.")
  else .ok (inventory.filter (·.deviceName = binding.deployedName))

/-- `resolve_target`. -/
def resolveTarget (semanticDeviceId : String) (inventory : List RuntimeConfigurationTarget) :
    Except String RuntimeConfigurationTarget := do
  let binding ← manifest.bindingFor semanticDeviceId
  match ← matchingTargets binding semanticDeviceId inventory with
  | [target] =>
    if target.model ≠ binding.model then
      .error (s!"Runtime target model {quoted target.model} does not match manifest model " ++
        s!"{quoted binding.model} for {quoted semanticDeviceId}.")
    else if binding.runtimeFingerprint ≠ "" ∧ target.runtimeFingerprint = "" then
      .error (s!"Runtime fingerprint for {quoted semanticDeviceId} is unavailable; " ++
        "the manifest binding cannot be revalidated.")
    else if binding.runtimeFingerprint ≠ "" ∧
        binding.runtimeFingerprint ≠ target.runtimeFingerprint then
      .error s!"Runtime fingerprint does not match manifest binding for {quoted semanticDeviceId}."
    else .ok target
  | _ =>
    .error s!"Runtime target for binding {quoted semanticDeviceId} is missing or ambiguous."

/-- `resolve_link_endpoint_target` with an observed interface. -/
def resolveLinkEndpointTarget (semanticLinkId semanticDeviceId : String)
    (inventory : List RuntimeConfigurationTarget) (observedInterface : String) :
    Except String (RuntimeConfigurationTarget × String) := do
  let link ← manifest.linkBindingFor semanticLinkId
  let endpoint ← link.endpointFor semanticDeviceId
  let target ← manifest.resolveTarget semanticDeviceId inventory
  if endpoint.interface ∉ target.interfaces then
    .error (s!"Interface {quoted endpoint.interface} is not present on the resolved " ++
      s!"runtime target for {quoted semanticDeviceId}.")
  else if observedInterface ≠ endpoint.interface then
    .error (s!"Link {quoted semanticLinkId} was observed on " ++
      s!"{quoted observedInterface} while the manifest binds it to " ++
      s!"{quoted endpoint.interface}.")
  else .ok (target, endpoint.interface)

/-- `resolve_serial_clock_target` with an observed interface and no observed orientation. -/
def resolveSerialClockTarget (semanticLinkId semanticDeviceId : String)
    (inventory : List RuntimeConfigurationTarget) (observedInterface : String) :
    Except String (RuntimeConfigurationTarget × String) := do
  let link ← manifest.linkBindingFor semanticLinkId
  let endpoint ← link.endpointFor semanticDeviceId
  if endpoint.orientation ≠ .dce then
    .error (s!"{quoted semanticDeviceId} is the {endpoint.orientation.value} end of " ++
      s!"{quoted semanticLinkId}; a clock belongs to the DCE.")
  else
    manifest.resolveLinkEndpointTarget semanticLinkId semanticDeviceId inventory observedInterface

end DeploymentManifest

/-- `resolve_manifest_targets`. -/
def resolveManifestTargets (manifest : DeploymentManifest) (physicalTopologyHash : String)
    (semanticDeviceIds : List String) (inventory : List RuntimeConfigurationTarget) :
    Except String (Dict String RuntimeConfigurationTarget) :=
  if manifest.physicalTopologyHash ≠ physicalTopologyHash then
    .error "DeploymentManifest physical topology hash does not match the plan source hash."
  else do
    let entries ← (sortedBy id semanticDeviceIds.dedup).mapM fun identifier =>
      return (identifier, ← manifest.resolveTarget identifier inventory)
    return Dict.ofList entries

/-- `item.id or f"{item.device_a}:{item.port_a}->{item.device_b}:{item.port_b}"`. -/
def Plans.LinkPlan.semanticLinkId (link : Plans.LinkPlan) : String :=
  if link.id ≠ "" then link.id
  else s!"{link.deviceA}:{link.portA}->{link.deviceB}:{link.portB}"

/-- `planned.device_a_id or planned.device_a`. -/
def Plans.LinkPlan.firstDevice (link : Plans.LinkPlan) : String :=
  if link.deviceAId ≠ "" then link.deviceAId else link.deviceA

/-- `planned.device_b_id or planned.device_b`. -/
def Plans.LinkPlan.secondDevice (link : Plans.LinkPlan) : String :=
  if link.deviceBId ≠ "" then link.deviceBId else link.deviceB

/-- `by_name.get(name, [])`: the entries of the inventory under a name. -/
def targetsNamed (inventory : List RuntimeConfigurationTarget) (name : String) :
    List RuntimeConfigurationTarget :=
  inventory.filter (·.deviceName = name)

/-- How an entry of the inventory is to be found again. -/
def identityMethod (target : RuntimeConfigurationTarget) : IdentityMethod :=
  if target.runtimeIdentifier ≠ "" ∧ target.runtimeIdentifierStable then .runtimeId
  else if target.runtimeFingerprint ≠ "" then .compositeFingerprint
  else .semanticBinding

/-- The binding of a device to an entry of the inventory. -/
def deviceBinding (device : Plans.DevicePlan) (target : RuntimeConfigurationTarget) :
    DeploymentBinding :=
  { semanticDeviceId := device.semanticId
    deployedName := device.name
    model := device.model
    runtimeIdentifier := if target.runtimeIdentifierStable then target.runtimeIdentifier else ""
    runtimeFingerprint := target.runtimeFingerprint
    ports := sortedBy id target.interfaces.dedup
    identityMethod := identityMethod target
    creationEvidence := "inventory_readback" }

/-- One turn of the loop over the devices. -/
def bindDevice (inventory : List RuntimeConfigurationTarget) (device : Plans.DevicePlan) :
    Except String DeploymentBinding :=
  match targetsNamed inventory device.name with
  | [target] =>
    if target.model ≠ device.model then
      .error (s!"Runtime target model {quoted target.model} does not match planned model " ++
        s!"{quoted device.model} for {quoted device.semanticId}.")
    else .ok (deviceBinding device target)
  | _ =>
    .error (s!"Runtime target for {quoted device.semanticId} is missing or ambiguous during " ++
      "manifest creation.")

/-- The checks of one observed endpoint against the planned link and the bound device. -/
def checkEndpoint (linkId : String) (expectedInterfaces : Dict String String)
    (deviceBindings : Dict String DeploymentBinding) (endpoint : DeploymentLinkEndpoint) :
    Except String Unit :=
  if expectedInterfaces.get? endpoint.semanticDeviceId ≠ some endpoint.interface then
    .error (s!"Observed interface {quoted endpoint.interface} for link " ++
      s!"{quoted linkId} does not match the planned " ++
      s!"interface for {quoted endpoint.semanticDeviceId}.")
  else
    match deviceBindings.get? endpoint.semanticDeviceId with
    | some binding =>
      if endpoint.interface ∈ binding.ports then .ok ()
      else .error (s!"Observed interface {quoted endpoint.interface} for link " ++
        s!"{quoted linkId} is absent from the fresh " ++
        s!"device binding {quoted endpoint.semanticDeviceId}.")
    | none =>
      .error (s!"Observed interface {quoted endpoint.interface} for link " ++
        s!"{quoted linkId} is absent from the fresh " ++
        s!"device binding {quoted endpoint.semanticDeviceId}.")

/-- The checks of one link binding. -/
def checkLinkBinding (plannedById : Dict String Plans.LinkPlan)
    (deviceBindings : Dict String DeploymentBinding) (link : DeploymentLinkBinding) :
    Except String Unit :=
  match plannedById.get? link.semanticLinkId with
  | none => .error (quoted link.semanticLinkId)
  | some planned =>
    let expectedDevices : Finset String := {planned.firstDevice, planned.secondDevice}
    let observedDevices : Finset String :=
      {link.endpointA.semanticDeviceId, link.endpointB.semanticDeviceId}
    if observedDevices ≠ expectedDevices then
      .error (s!"Deployment link binding {quoted link.semanticLinkId} " ++
        "does not match its semantic endpoints.")
    else
      let expectedInterfaces : Dict String String := Dict.ofList
        [(planned.firstDevice, planned.portA), (planned.secondDevice, planned.portB)]
      [link.endpointA, link.endpointB].forM
        (checkEndpoint link.semanticLinkId expectedInterfaces deviceBindings)

/-- The checks of the link bindings against the link plan. -/
def checkLinkBindings (topology : Plans.TopologyPlan) (bindings : List DeploymentBinding)
    (links : List DeploymentLinkBinding) : Except String Unit :=
  let observedLinkIds := links.map (·.semanticLinkId)
  if ¬observedLinkIds.Nodup then
    .error "Deployment link bindings contain duplicate semantic link identities."
  else if observedLinkIds.toFinset ≠
      (topology.links.map Plans.LinkPlan.semanticLinkId).toFinset then
    .error "Deployment link bindings do not cover the exact semantic link plan."
  else
    let deviceBindings := Dict.ofList (bindings.map fun item => (item.semanticDeviceId, item))
    let plannedById := Dict.ofList (topology.links.map fun item => (item.semanticLinkId, item))
    links.forM (checkLinkBinding plannedById deviceBindings)

/-- `build_deployment_manifest`. -/
def buildDeploymentManifest (topology : Plans.TopologyPlan)
    (inventory : List RuntimeConfigurationTarget) (fingerprint : EnvironmentFingerprint)
    (deploymentId : String) (linkBindings : Option (List DeploymentLinkBinding)) :
    Except String DeploymentManifest :=
  if topology.physicalIdentityHash = "" then
    .error "Topology has no physical identity hash."
  else do
    let bindings ←
      (sortedBy Plans.DevicePlan.semanticId topology.devices).mapM (bindDevice inventory)
    let orderedLinkBindings :=
      sortedBy DeploymentLinkBinding.semanticLinkId (linkBindings.getD [])
    if linkBindings.isSome then checkLinkBindings topology bindings orderedLinkBindings
    return {
      deploymentId :=
        if deploymentId ≠ "" then deploymentId
        else s!"deployment/{String.ofList (topology.physicalIdentityHash.toList.take 16)}"
      physicalTopologyHash := topology.physicalIdentityHash
      backend := fingerprint.backend
      backendVersion := fingerprint.backendVersion
      environmentFingerprint := fingerprint
      bindings := bindings
      linkBindings := orderedLinkBindings }

/-! ## What is wanted, and when -/

/-- Every device of the plan resolves to the entry of the inventory it was bound to, and different
devices resolve to different entries. -/
structure ResolvesAsRecorded (manifest : DeploymentManifest) (topology : Plans.TopologyPlan)
    (inventory : List RuntimeConfigurationTarget) : Prop where
  recorded : ∀ device ∈ topology.devices, ∃ target,
    targetsNamed inventory device.name = [target] ∧
      manifest.resolveTarget device.semanticId inventory = .ok target
  distinct : topology.devices.Pairwise fun device device' =>
    manifest.resolveTarget device.semanticId inventory ≠
      manifest.resolveTarget device'.semanticId inventory

/-- The identifiers that are used to find the devices again identify them. -/
structure IdentifiesTargets (topology : Plans.TopologyPlan)
    (inventory : List RuntimeConfigurationTarget) : Prop where
  semanticIds : (topology.devices.map Plans.DevicePlan.semanticId).Nodup
  names : (topology.devices.map Plans.DevicePlan.name).Nodup
  stableIdentifiers : ∀ device ∈ topology.devices, ∀ target ∈ inventory,
    target.deviceName = device.name → target.runtimeIdentifier ≠ "" →
    target.runtimeIdentifierStable → ∀ other ∈ inventory,
      other.runtimeIdentifier = target.runtimeIdentifier → other.deviceName = target.deviceName

variable {topology : Plans.TopologyPlan} {inventory : List RuntimeConfigurationTarget}
  {fingerprint : EnvironmentFingerprint} {deploymentId : String}
  {linkBindings : Option (List DeploymentLinkBinding)} {manifest : DeploymentManifest}
  {device : Plans.DevicePlan} {target : RuntimeConfigurationTarget} {binding : DeploymentBinding}

/-! ## What building records -/

lemma bindDevice_eq_ok : bindDevice inventory device = .ok binding ↔
    ∃ target, targetsNamed inventory device.name = [target] ∧ target.model = device.model ∧
      binding = deviceBinding device target := by
  unfold bindDevice
  split
  case h_1 target htargets =>
    split_ifs with hmodel
    · simp [hmodel, htargets]
    rw [Except.ok.injEq]
    constructor
    · rintro rfl
      exact ⟨target, htargets, not_not.mp hmodel, rfl⟩
    · rintro ⟨target', htargets', -, rfl⟩
      obtain rfl := List.singleton_injective (htargets.symm.trans htargets')
      rfl
  case h_2 hnone =>
    simp only [reduceCtorEq, false_iff]
    rintro ⟨target, htargets, -⟩
    exact hnone target htargets

section Built

variable
  (hbuild : buildDeploymentManifest topology inventory fingerprint deploymentId linkBindings = .ok manifest)
include hbuild

/-- A manifest that was built has a binding for each device, in the order of the identifiers. -/
lemma mapM_of_buildDeploymentManifest :
    (sortedBy Plans.DevicePlan.semanticId topology.devices).mapM (bindDevice inventory) =
      .ok manifest.bindings := by
  unfold buildDeploymentManifest at hbuild
  by_cases hhash : topology.physicalIdentityHash = ""
  · simp [hhash] at hbuild
  rw [if_neg hhash] at hbuild
  obtain ⟨bindings, hbindings, hbuild⟩ := bind_eq_ok.mp hbuild
  rw [hbindings]
  by_cases hlinks : linkBindings.isSome = true
  · simp only [hlinks, if_true] at hbuild
    obtain ⟨-, -, hbuild⟩ := bind_eq_ok.mp hbuild
    rw [← Except.ok.inj hbuild]
  · simp only [hlinks] at hbuild
    rw [← Except.ok.inj hbuild]

lemma map_semanticDeviceId_bindings :
    (manifest.bindings.map DeploymentBinding.semanticDeviceId).Perm
      (topology.devices.map Plans.DevicePlan.semanticId) := by
  have hmap : manifest.bindings.map DeploymentBinding.semanticDeviceId =
      (sortedBy Plans.DevicePlan.semanticId topology.devices).map Plans.DevicePlan.semanticId := by
    refine map_eq_map_of_mapM_eq_ok (mapM_of_buildDeploymentManifest hbuild) ?_
    intro device binding hbind
    obtain ⟨target, -, -, rfl⟩ := bindDevice_eq_ok.mp hbind
    rfl
  rw [hmap]
  exact (perm_sortedBy _ _).map _

lemma exists_binding (hdevice : device ∈ topology.devices) :
    ∃ target, targetsNamed inventory device.name = [target] ∧ target.model = device.model ∧
      deviceBinding device target ∈ manifest.bindings := by
  obtain ⟨binding, hmem, hbind⟩ := exists_result_of_mapM_eq_ok
    (mapM_of_buildDeploymentManifest hbuild) (mem_sortedBy.mpr hdevice)
  obtain ⟨target, htargets, hmodel, rfl⟩ := bindDevice_eq_ok.mp hbind
  exact ⟨target, htargets, hmodel, hmem⟩

end Built

variable {name identifier : String}

lemma mem_of_targetsNamed (h : targetsNamed inventory name = [target]) :
    target ∈ inventory ∧ target.deviceName = name := by
  have hmem : target ∈ targetsNamed inventory name := h ▸ List.mem_singleton_self target
  simpa [targetsNamed] using hmem

lemma eq_of_targetsNamed (h : targetsNamed inventory name = [target])
    {other : RuntimeConfigurationTarget} (hother : other ∈ inventory)
    (hname : other.deviceName = name) : other = target := by
  have hmem : other ∈ targetsNamed inventory name := by simp [targetsNamed, hother, hname]
  rw [h] at hmem
  exact List.mem_singleton.mp hmem

/-! ## What resolving finds -/

lemma bindingFor_eq_ok :
    manifest.bindingFor identifier = .ok binding ↔
      manifest.bindings.filter (·.semanticDeviceId = identifier) = [binding] := by
  unfold DeploymentManifest.bindingFor
  split
  case h_1 other hother => simp [hother]
  case h_2 hnone =>
    simp only [reduceCtorEq, false_iff]
    exact fun h => hnone binding h

lemma exists_of_resolveTarget_eq_ok (h : manifest.resolveTarget identifier inventory = .ok target) :
    ∃ binding, manifest.bindingFor identifier = .ok binding ∧
      DeploymentManifest.matchingTargets binding identifier inventory = .ok [target] := by
  obtain ⟨binding, hbinding, h⟩ := bind_eq_ok.mp h
  obtain ⟨candidates, hcandidates, h⟩ := bind_eq_ok.mp h
  refine ⟨binding, hbinding, ?_⟩
  split at h
  case h_1 other =>
    split_ifs at h
    rw [hcandidates, Except.ok.inj h]
  case h_2 => simp at h

lemma resolveTarget_eq_ok
    (hbinding : manifest.bindingFor device.semanticId = .ok (deviceBinding device target))
    (hmodel : target.model = device.model)
    (hmatching : DeploymentManifest.matchingTargets (deviceBinding device target) device.semanticId
      inventory = .ok [target]) :
    manifest.resolveTarget device.semanticId inventory = .ok target := by
  unfold DeploymentManifest.resolveTarget
  rw [hbinding]
  simp only [bind, Except.bind, hmatching]
  simp only [deviceBinding, hmodel, ne_eq, not_true_eq_false, and_false, if_false, not_and_self]

lemma matchingTargets_of_not_stable
    (hstable : ¬(target.runtimeIdentifier ≠ "" ∧ target.runtimeIdentifierStable)) :
    DeploymentManifest.matchingTargets (deviceBinding device target) device.semanticId inventory =
      .ok (targetsNamed inventory device.name) := by
  unfold DeploymentManifest.matchingTargets deviceBinding identityMethod
  rw [if_neg hstable]
  split_ifs with hmethod hfingerprint hmethod hfingerprint <;> simp_all [targetsNamed]

lemma matchingTargets_of_stable (hidentifier : target.runtimeIdentifier ≠ "")
    (hstable : target.runtimeIdentifierStable) (htarget : target ∈ inventory) :
    DeploymentManifest.matchingTargets (deviceBinding device target) device.semanticId inventory =
      .ok (inventory.filter (·.runtimeIdentifier = target.runtimeIdentifier)) := by
  have hne : inventory.filter (·.runtimeIdentifier = target.runtimeIdentifier) ≠ [] :=
    List.ne_nil_of_mem (List.mem_filter.mpr ⟨htarget, by simp⟩)
  unfold DeploymentManifest.matchingTargets deviceBinding identityMethod
  simp only [hidentifier, hstable, ne_eq, not_false_eq_true, and_self, if_true, if_false, hne]

/-- When no other name carries the identifier of an entry, the identifier finds that entry. -/
lemma filter_runtimeIdentifier (htargets : targetsNamed inventory device.name = [target])
    (hother : ∀ other ∈ inventory, other.runtimeIdentifier = target.runtimeIdentifier →
      other.deviceName = target.deviceName) :
    inventory.filter (·.runtimeIdentifier = target.runtimeIdentifier) = [target] := by
  have hname : target.deviceName = device.name := (mem_of_targetsNamed htargets).2
  have hfilter : inventory.filter (·.runtimeIdentifier = target.runtimeIdentifier) =
      (targetsNamed inventory device.name).filter
        (·.runtimeIdentifier = target.runtimeIdentifier) := by
    rw [targetsNamed, List.filter_filter]
    refine List.filter_congr fun other hmem => ?_
    by_cases hidentifier : other.runtimeIdentifier = target.runtimeIdentifier
    · simp [hidentifier, hother other hmem hidentifier, hname]
    · simp [hidentifier]
  rw [hfilter, htargets]
  simp

lemma bindingFor_of_mem (hnodup : (manifest.bindings.map DeploymentBinding.semanticDeviceId).Nodup)
    (hmem : binding ∈ manifest.bindings) :
    manifest.bindingFor binding.semanticDeviceId = .ok binding := by
  rw [bindingFor_eq_ok]
  have hbindings : manifest.bindings.Nodup := List.Nodup.of_map _ hnodup
  have hperm : (manifest.bindings.filter
      (·.semanticDeviceId = binding.semanticDeviceId)).Perm [binding] := by
    refine (List.perm_ext_iff_of_nodup (hbindings.filter _) (List.nodup_singleton _)).mpr
      fun other => ?_
    rw [List.mem_filter, List.mem_singleton, decide_eq_true_iff]
    constructor
    · rintro ⟨hother, hidentifier⟩
      exact List.inj_on_of_nodup_map hnodup hother hmem hidentifier
    · rintro rfl
      exact ⟨hmem, rfl⟩
  exact List.perm_singleton.mp hperm

/-! ## Building and resolving -/

section Resolved

variable
  (hbuild : buildDeploymentManifest topology inventory fingerprint deploymentId linkBindings = .ok manifest)
include hbuild

/-- Identifying data is enough. -/
lemma IdentifiesTargets.resolvesAsRecorded (h : IdentifiesTargets topology inventory) :
    ResolvesAsRecorded manifest topology inventory := by
  have hnodup : (manifest.bindings.map DeploymentBinding.semanticDeviceId).Nodup :=
    (map_semanticDeviceId_bindings hbuild).nodup_iff.mpr h.semanticIds
  have hrecorded : ∀ device ∈ topology.devices, ∃ target,
      targetsNamed inventory device.name = [target] ∧
        manifest.resolveTarget device.semanticId inventory = .ok target := by
    intro device hdevice
    obtain ⟨target, htargets, hmodel, hbinding⟩ := exists_binding hbuild hdevice
    obtain ⟨htarget, hname⟩ := mem_of_targetsNamed htargets
    refine ⟨target, htargets, resolveTarget_eq_ok (bindingFor_of_mem hnodup hbinding) hmodel ?_⟩
    by_cases hstable : target.runtimeIdentifier ≠ "" ∧ target.runtimeIdentifierStable
    · rw [matchingTargets_of_stable hstable.1 hstable.2 htarget]
      exact congrArg Except.ok (filter_runtimeIdentifier htargets
        (h.stableIdentifiers device hdevice target htarget hname hstable.1 hstable.2))
    · rw [matchingTargets_of_not_stable hstable, htargets]
  refine ⟨hrecorded, ?_⟩
  have hnames : topology.devices.Pairwise fun device device' => device.name ≠ device'.name :=
    List.pairwise_map.mp h.names
  refine hnames.imp_of_mem fun hdevice hdevice' hne heq => hne ?_
  obtain ⟨target, htargets, hresolve⟩ := hrecorded _ hdevice
  obtain ⟨target', htargets', hresolve'⟩ := hrecorded _ hdevice'
  obtain rfl : target = target' := Except.ok.inj (hresolve.symm.trans (heq.trans hresolve'))
  exact (mem_of_targetsNamed htargets).2.symm.trans (mem_of_targetsNamed htargets').2

/-- Devices that resolve have identifiers of their own. -/
lemma ResolvesAsRecorded.semanticIds_nodup (h : ResolvesAsRecorded manifest topology inventory) :
    (topology.devices.map Plans.DevicePlan.semanticId).Nodup := by
  have hperm := map_semanticDeviceId_bindings hbuild
  rw [← hperm.nodup_iff, List.nodup_iff_count_le_one]
  intro identifier
  by_cases hmem : identifier ∈ manifest.bindings.map DeploymentBinding.semanticDeviceId
  · obtain ⟨device, hdevice, rfl⟩ := List.mem_map.mp (hperm.mem_iff.mp hmem)
    obtain ⟨target, -, hresolve⟩ := h.recorded device hdevice
    obtain ⟨binding, hbinding, -⟩ := exists_of_resolveTarget_eq_ok hresolve
    rw [List.count_eq_length_filter, List.filter_map, List.length_map]
    have hfilter := bindingFor_eq_ok.mp hbinding
    refine le_of_eq (Eq.trans (congrArg List.length ?_) (congrArg List.length hfilter))
    exact List.filter_congr fun other _ => by simp [beq_eq_decide]
  · rw [List.count_eq_zero.mpr hmem]
    exact Nat.zero_le 1

/-- Identifying data is needed. -/
lemma ResolvesAsRecorded.identifiesTargets (h : ResolvesAsRecorded manifest topology inventory) :
    IdentifiesTargets topology inventory := by
  have hsemantic := h.semanticIds_nodup hbuild
  refine ⟨hsemantic, ?_, ?_⟩
  · refine List.pairwise_map.mpr (h.distinct.imp_of_mem fun hdevice hdevice' hne hname => hne ?_)
    obtain ⟨target, htargets, hresolve⟩ := h.recorded _ hdevice
    obtain ⟨target', htargets', hresolve'⟩ := h.recorded _ hdevice'
    rw [hname, htargets'] at htargets
    rw [hresolve, hresolve', List.singleton_injective htargets]
  · intro device hdevice target htarget hname hidentifier hstable other hother hsame
    obtain ⟨target', htargets, hresolve⟩ := h.recorded device hdevice
    obtain rfl := eq_of_targetsNamed htargets htarget hname
    obtain ⟨bound, htargets', -, hbinding⟩ := exists_binding hbuild hdevice
    rw [htargets] at htargets'
    obtain rfl := List.singleton_injective htargets'
    have hnodup : (manifest.bindings.map DeploymentBinding.semanticDeviceId).Nodup :=
      (map_semanticDeviceId_bindings hbuild).nodup_iff.mpr hsemantic
    obtain ⟨binding, hfor, hmatching⟩ := exists_of_resolveTarget_eq_ok hresolve
    have hfor' := bindingFor_of_mem hnodup hbinding
    obtain rfl : deviceBinding device target = binding := Except.ok.inj (hfor'.symm.trans hfor)
    rw [matchingTargets_of_stable hidentifier hstable htarget] at hmatching
    have hmem : other ∈ inventory.filter (·.runtimeIdentifier = target.runtimeIdentifier) :=
      List.mem_filter.mpr ⟨hother, by simpa using hsame⟩
    rw [Except.ok.inj hmatching, List.mem_singleton] at hmem
    rw [hmem]

end Resolved

/-- **Resolving against the same inventory.**  A manifest resolves every device to the entry it was
bound to, and tells the devices apart, exactly when the identifiers it is resolved by identify. -/
theorem resolvesAsRecorded_iff (topology : Plans.TopologyPlan)
    (inventory : List RuntimeConfigurationTarget) (fingerprint : EnvironmentFingerprint)
    (deploymentId : String) (linkBindings : Option (List DeploymentLinkBinding))
    (manifest : DeploymentManifest)
    (hbuild : buildDeploymentManifest topology inventory fingerprint deploymentId linkBindings =
      .ok manifest) :
    ResolvesAsRecorded manifest topology inventory ↔ IdentifiesTargets topology inventory :=
  ⟨fun h => h.identifiesTargets hbuild, fun h => h.resolvesAsRecorded hbuild⟩

/-- A plan with two switches. -/
def twoSwitches : Plans.TopologyPlan :=
  { semanticHash := "5d41402abc4b2a76"
    devices := [{ id := "s1", name := "S1", model := "2960-24TT", category := "switch" },
      { id := "s2", name := "S2", model := "2960-24TT", category := "switch" }] }

/-- An inventory that lists the switches under the given stable identifiers. -/
def switchInventory (first second : String) : List RuntimeConfigurationTarget :=
  [{ deviceName := "S1", model := "2960-24TT", runtimeIdentifier := first,
     runtimeIdentifierStable := true },
   { deviceName := "S2", model := "2960-24TT", runtimeIdentifier := second,
     runtimeIdentifierStable := true }]

/-- The manifest of the two switches. -/
def switchManifest (first second : String) : DeploymentManifest :=
  { deploymentId := "deployment/5d41402abc4b2a76"
    physicalTopologyHash := "5d41402abc4b2a76"
    bindings := [
      { semanticDeviceId := "s1", deployedName := "S1", model := "2960-24TT",
        runtimeIdentifier := first, identityMethod := .runtimeId,
        creationEvidence := "inventory_readback" },
      { semanticDeviceId := "s2", deployedName := "S2", model := "2960-24TT",
        runtimeIdentifier := second, identityMethod := .runtimeId,
        creationEvidence := "inventory_readback" }] }

theorem resolvesAsRecorded_iff_twoSwitches :
    ResolvesAsRecorded (switchManifest "7" "8") twoSwitches (switchInventory "7" "8") ↔
      IdentifiesTargets twoSwitches (switchInventory "7" "8") :=
  resolvesAsRecorded_iff twoSwitches (switchInventory "7" "8") {} "" none _ (by decide)

/-- Two entries of the inventory with one stable identifier are bound without complaint, and then
neither device resolves. -/
theorem not_forall_resolvesAsRecorded :
    ¬∀ (topology : Plans.TopologyPlan) (inventory : List RuntimeConfigurationTarget)
      (fingerprint : EnvironmentFingerprint) (deploymentId : String)
      (linkBindings : Option (List DeploymentLinkBinding)) (manifest : DeploymentManifest),
      buildDeploymentManifest topology inventory fingerprint deploymentId linkBindings =
        .ok manifest → ResolvesAsRecorded manifest topology inventory := by
  intro h
  have hbuild : buildDeploymentManifest twoSwitches (switchInventory "7" "7") {} "" none =
      .ok (switchManifest "7" "7") := by decide
  obtain ⟨target, -, hresolve⟩ :=
    (h _ _ _ _ _ _ hbuild).recorded _ (List.mem_cons_self ..)
  have herror : (switchManifest "7" "7").resolveTarget "s1" (switchInventory "7" "7") =
      .error "Runtime target for binding 's1' is missing or ambiguous." := by decide
  rw [show Plans.DevicePlan.semanticId _ = "s1" from rfl, herror] at hresolve
  cases hresolve

end PacketTracer
