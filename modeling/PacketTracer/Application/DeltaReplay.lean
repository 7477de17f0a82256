import PacketTracer.Application.CanonicalStages
import PacketTracer.Library.GrowingSelection

/-!
# Replaying the stage deltas

`compose_cp_scale_canonical.py`: which devices a canonical stage includes, the topology of its
projection, and what the physical deltas of a chain of stages put together.

A device is selected by its identifiers, a module by the name of its device and a link by the
identifiers of its ends.  When identifiers and names are unique, all three selections grow along
the stages, and the delta of two stages introduces exactly what the second one adds.
-/

namespace PacketTracer

namespace Canonical

open Plans GrowingSelection

/-! ## The devices of a stage -/

/-- `MULTILAYER`. -/
def multilayer : String := "multilayer-branch"

/-- `SMALL`. -/
def small : String := "small-branch"

/-- `Z1`. -/
def z1 : String := "large-branch/campus/floor-1/zone-a"

/-- `Z2`. -/
def z2 : String := "large-branch/campus/floor-2/zone-b"

/-- `ZC`. -/
def zc : String := "large-branch/campus/floor-3/zone-c"

/-- `ZD`. -/
def zd : String := "large-branch/campus/floor-3/zone-d"

/-- `SW10`. -/
def sw10 : String := "sw-dist-large-branch-01"

/-- `_CORE_ROUTER_IDS`: `R0`, `R3` and `R4`. -/
def coreRouterIds : List String :=
  ["r-edge-multilayer-branch-01", "r-edge-small-branch-01", "r-edge-large-branch-01"]

open CPScaleCanonicalStage in
/-- `cp_scale_canonical_stage_includes_device`. -/
def cpScaleCanonicalStageIncludesDevice (stage : CPScaleCanonicalStage)
    (deviceId siteId zoneId : String) : Bool :=
  if deviceId ∈ coreRouterIds then true
  else if stage.order ≥ router4Switch10.order ∧ deviceId = sw10 then true
  else if stage.order ≥ floor1.order ∧ zoneId = z1 then true
  else if stage.order ≥ floor2.order ∧ zoneId = z2 then true
  else if stage.order ≥ floor3.order ∧ zoneId ∈ [zc, zd] then true
  else if stage.order ≥ router0Branch.order ∧ siteId = multilayer then true
  else stage.order ≥ router3Branch.order ∧ siteId = small

open CPScaleCanonicalStage in
/-- The devices of a stage, clause by clause. -/
lemma cpScaleCanonicalStageIncludesDevice_iff {stage : CPScaleCanonicalStage}
    {deviceId siteId zoneId : String} :
    cpScaleCanonicalStageIncludesDevice stage deviceId siteId zoneId = true ↔
      deviceId ∈ coreRouterIds ∨
      (router4Switch10.order ≤ stage.order ∧ deviceId = sw10) ∨
      (floor1.order ≤ stage.order ∧ zoneId = z1) ∨
      (floor2.order ≤ stage.order ∧ zoneId = z2) ∨
      (floor3.order ≤ stage.order ∧ zoneId ∈ [zc, zd]) ∨
      (router0Branch.order ≤ stage.order ∧ siteId = multilayer) ∨
      (router3Branch.order ≤ stage.order ∧ siteId = small) := by
  unfold cpScaleCanonicalStageIncludesDevice
  simp only [ge_iff_le]
  split_ifs with h₁ h₂ h₃ h₄ h₅ h₆
  · exact ⟨fun _ => .inl h₁, fun _ => rfl⟩
  · exact ⟨fun _ => .inr (.inl h₂), fun _ => rfl⟩
  · exact ⟨fun _ => .inr (.inr (.inl h₃)), fun _ => rfl⟩
  · exact ⟨fun _ => .inr (.inr (.inr (.inl h₄))), fun _ => rfl⟩
  · exact ⟨fun _ => .inr (.inr (.inr (.inr (.inl h₅)))), fun _ => rfl⟩
  · exact ⟨fun _ => .inr (.inr (.inr (.inr (.inr (.inl h₆))))), fun _ => rfl⟩
  rw [decide_eq_true_eq]
  constructor
  · exact fun h => .inr (.inr (.inr (.inr (.inr (.inr h)))))
  · rintro (h | h | h | h | h | h | h)
    · exact absurd h h₁
    · exact absurd h h₂
    · exact absurd h h₃
    · exact absurd h h₄
    · exact absurd h h₅
    · exact absurd h h₆
    · exact h

lemma cpScaleCanonicalStageIncludesDevice_mono {stage later : CPScaleCanonicalStage}
    (h : stage.order ≤ later.order) {deviceId siteId zoneId : String}
    (hincludes : cpScaleCanonicalStageIncludesDevice stage deviceId siteId zoneId = true) :
    cpScaleCanonicalStageIncludesDevice later deviceId siteId zoneId = true := by
  rw [cpScaleCanonicalStageIncludesDevice_iff] at hincludes ⊢
  rcases hincludes with hcore | hat | hat | hat | hat | hat | hat
  · exact .inl hcore
  · exact .inr (.inl ⟨hat.1.trans h, hat.2⟩)
  · exact .inr (.inr (.inl ⟨hat.1.trans h, hat.2⟩))
  · exact .inr (.inr (.inr (.inl ⟨hat.1.trans h, hat.2⟩)))
  · exact .inr (.inr (.inr (.inr (.inl ⟨hat.1.trans h, hat.2⟩))))
  · exact .inr (.inr (.inr (.inr (.inr (.inl ⟨hat.1.trans h, hat.2⟩)))))
  · exact .inr (.inr (.inr (.inr (.inr (.inr ⟨hat.1.trans h, hat.2⟩)))))

/-! ## The topology of a stage -/

/-- The topology of `project_cp_scale_canonical_stage`, for the stages after the routing core. -/
def projectStageTopology (computeTopologyHashes : Plans.TopologyPlan → TopologyHashes)
    (full : Plans.TopologyPlan) (stage : CPScaleCanonicalStage) : Plans.TopologyPlan :=
  let selectedDevices := full.devices.filter fun item =>
    cpScaleCanonicalStageIncludesDevice stage item.id item.siteId item.zoneId
  let selectedIds := selectedDevices.map Plans.DevicePlan.id
  let selectedNames := selectedDevices.map Plans.DevicePlan.name
  stampTopologyHashes computeTopologyHashes
    { full with
      id := s!"cp-scale-canonical-{stage.value}"
      name := s!"CP-SCALE canonical {stage.value}"
      devices := selectedDevices
      modules := full.modules.filter (·.device ∈ selectedNames)
      links := full.links.filter fun item =>
        item.deviceAId ∈ selectedIds && item.deviceBId ∈ selectedIds }

/-- The stage includes the device. -/
def selectsDevice (stage : CPScaleCanonicalStage) (item : Plans.DevicePlan) : Bool :=
  cpScaleCanonicalStageIncludesDevice stage item.id item.siteId item.zoneId

/-- The stage includes the device that the module is in. -/
def selectsModule (full : Plans.TopologyPlan) (stage : CPScaleCanonicalStage)
    (item : Plans.ModulePlan) : Bool :=
  item.device ∈ (full.devices.filter (selectsDevice stage)).map Plans.DevicePlan.name

/-- The stage includes both ends of the link. -/
def selectsLink (full : Plans.TopologyPlan) (stage : CPScaleCanonicalStage)
    (item : Plans.LinkPlan) : Bool :=
  item.deviceAId ∈ (full.devices.filter (selectsDevice stage)).map Plans.DevicePlan.id &&
    item.deviceBId ∈ (full.devices.filter (selectsDevice stage)).map Plans.DevicePlan.id

section Projection

variable {computeTopologyHashes : Plans.TopologyPlan → TopologyHashes}
  {full : Plans.TopologyPlan} {stage later : CPScaleCanonicalStage}

@[simp] lemma devices_projectStageTopology :
    (projectStageTopology computeTopologyHashes full stage).devices =
      full.devices.filter (selectsDevice stage) := rfl

@[simp] lemma modules_projectStageTopology :
    (projectStageTopology computeTopologyHashes full stage).modules =
      full.modules.filter (selectsModule full stage) := rfl

@[simp] lemma links_projectStageTopology :
    (projectStageTopology computeTopologyHashes full stage).links =
      full.links.filter (selectsLink full stage) := rfl

lemma selectsDevice_mono (h : stage.order ≤ later.order) {item : Plans.DevicePlan}
    (hitem : selectsDevice stage item = true) : selectsDevice later item = true :=
  cpScaleCanonicalStageIncludesDevice_mono h hitem

lemma mem_map_selected_mono (h : stage.order ≤ later.order) {read : Plans.DevicePlan → String}
    {text : String} (htext : text ∈ (full.devices.filter (selectsDevice stage)).map read) :
    text ∈ (full.devices.filter (selectsDevice later)).map read := by
  obtain ⟨device, hdevice, rfl⟩ := List.mem_map.mp htext
  obtain ⟨hmem, hselects⟩ := List.mem_filter.mp hdevice
  exact List.mem_map_of_mem (List.mem_filter.mpr ⟨hmem, selectsDevice_mono h hselects⟩)

lemma selectsModule_mono (h : stage.order ≤ later.order) {item : Plans.ModulePlan}
    (hitem : selectsModule full stage item = true) : selectsModule full later item = true := by
  unfold selectsModule at hitem ⊢
  rw [decide_eq_true_eq] at hitem ⊢
  exact mem_map_selected_mono h hitem

lemma selectsLink_mono (h : stage.order ≤ later.order) {item : Plans.LinkPlan}
    (hitem : selectsLink full stage item = true) : selectsLink full later item = true := by
  unfold selectsLink at hitem ⊢
  rw [Bool.and_eq_true, decide_eq_true_eq, decide_eq_true_eq] at hitem ⊢
  exact ⟨mem_map_selected_mono h hitem.1, mem_map_selected_mono h hitem.2⟩

lemma key_mem_filter_iff {α : Type} {key : α → String} {items : List α}
    (hnodup : (items.map key).Nodup) {select : α → Bool} {a : α} (ha : a ∈ items) :
    key a ∈ (items.filter select).map key ↔ select a = true := by
  constructor
  · intro h
    obtain ⟨b, hb, hkey⟩ := List.mem_map.mp h
    obtain ⟨hmem, hselect⟩ := List.mem_filter.mp hb
    rwa [← List.inj_on_of_nodup_map hnodup hmem ha hkey]
  · intro h
    exact List.mem_map_of_mem (List.mem_filter.mpr ⟨ha, h⟩)

end Projection

/-! ## One delta -/

/-- The devices of a delta that the previous topology does not have; the others are anchors. -/
def introducedDevices (previous delta : Plans.TopologyPlan) : List Plans.DevicePlan :=
  delta.devices.filter fun item => item.id ∉ deviceIds previous

/-- Identifiers of devices and links, and names of devices, are unique. -/
structure UniquelyNamed (full : Plans.TopologyPlan) : Prop where
  deviceIds : (full.devices.map Plans.DevicePlan.id).Nodup
  deviceNames : (full.devices.map Plans.DevicePlan.name).Nodup
  linkIds : (full.links.map Plans.LinkPlan.id).Nodup

/-- The delta of two stages introduces what the second one adds, and its links have their ends. -/
structure IntroducesAdded (full : Plans.TopologyPlan) (stage later : CPScaleCanonicalStage)
    (previous delta : Plans.TopologyPlan) : Prop where
  devices : introducedDevices previous delta = added selectsDevice full.devices stage later
  modules : delta.modules = added (selectsModule full) full.modules stage later
  links : delta.links = added (selectsLink full) full.links stage later
  anchored : ∀ link ∈ delta.links,
    link.deviceAId ∈ deviceIds delta ∧ link.deviceBId ∈ deviceIds delta

section Delta

variable {computeTopologyHashes : Plans.TopologyPlan → TopologyHashes}
  {full : Plans.TopologyPlan} {stage later : CPScaleCanonicalStage}

lemma mem_deviceIds_project_iff (hunique : UniquelyNamed full) {item : Plans.DevicePlan}
    (hitem : item ∈ full.devices) :
    item.id ∈ deviceIds (projectStageTopology computeTopologyHashes full stage) ↔
      selectsDevice stage item = true :=
  key_mem_filter_iff hunique.deviceIds hitem

lemma mem_linkIds_project_iff (hunique : UniquelyNamed full) {item : Plans.LinkPlan}
    (hitem : item ∈ full.links) :
    item.id ∈ linkIds (projectStageTopology computeTopologyHashes full stage) ↔
      selectsLink full stage item = true :=
  key_mem_filter_iff hunique.linkIds hitem

/-- The names of the devices that a stage adds: those of the later stage without the earlier ones.
-/
lemma mem_newDeviceNames_iff (hunique : UniquelyNamed full) {name : String} :
    name ∈ ((full.devices.filter (selectsDevice later)).filter fun item =>
        item.id ∈ ((full.devices.filter (selectsDevice later)).map Plans.DevicePlan.id).filter
          (· ∉ (full.devices.filter (selectsDevice stage)).map Plans.DevicePlan.id)).map
        Plans.DevicePlan.name ↔
      name ∈ (full.devices.filter (selectsDevice later)).map Plans.DevicePlan.name ∧
        name ∉ (full.devices.filter (selectsDevice stage)).map Plans.DevicePlan.name := by
  constructor
  · intro hname
    obtain ⟨device, hdevice, rfl⟩ := List.mem_map.mp hname
    obtain ⟨hlater, hnew⟩ := List.mem_filter.mp hdevice
    rw [decide_eq_true_eq, List.mem_filter, decide_eq_true_eq] at hnew
    have hmem : device ∈ full.devices := (List.mem_filter.mp hlater).1
    have hnot := hnew.2
    refine ⟨List.mem_map_of_mem hlater, ?_⟩
    rw [key_mem_filter_iff hunique.deviceIds hmem] at hnot
    rwa [key_mem_filter_iff hunique.deviceNames hmem]
  · rintro ⟨hname, hnot⟩
    obtain ⟨device, hdevice, rfl⟩ := List.mem_map.mp hname
    have hmem : device ∈ full.devices := (List.mem_filter.mp hdevice).1
    refine List.mem_map_of_mem (List.mem_filter.mpr ⟨hdevice, ?_⟩)
    rw [decide_eq_true_eq, List.mem_filter, decide_eq_true_eq]
    refine ⟨List.mem_map_of_mem hdevice, ?_⟩
    rw [key_mem_filter_iff hunique.deviceIds hmem]
    rwa [key_mem_filter_iff hunique.deviceNames hmem] at hnot

/-- **The delta of two stages** exists and introduces what the second one adds. -/
theorem projectCpScaleCanonicalDelta_introduces (hunique : UniquelyNamed full)
    (h : stage.order ≤ later.order) :
    ∃ delta, projectCpScaleCanonicalDelta computeTopologyHashes
        (projectStageTopology computeTopologyHashes full stage)
        (projectStageTopology computeTopologyHashes full later) = .ok delta ∧
      IntroducesAdded full stage later (projectStageTopology computeTopologyHashes full stage)
        delta := by
  have hdevices : ¬((deviceIds (projectStageTopology computeTopologyHashes full stage)).any
      (· ∉ deviceIds (projectStageTopology computeTopologyHashes full later))) = true := by
    simp only [List.any_eq_true, decide_eq_true_eq, not_exists, not_and, not_not]
    exact fun identifier hidentifier => mem_map_selected_mono h hidentifier
  have hlinks : ¬((linkIds (projectStageTopology computeTopologyHashes full stage)).any
      (· ∉ linkIds (projectStageTopology computeTopologyHashes full later))) = true := by
    simp only [List.any_eq_true, decide_eq_true_eq, not_exists, not_and, not_not]
    intro identifier hidentifier
    obtain ⟨link, hlink, rfl⟩ := List.mem_map.mp hidentifier
    obtain ⟨hmem, hselects⟩ := List.mem_filter.mp hlink
    exact List.mem_map_of_mem (List.mem_filter.mpr ⟨hmem, selectsLink_mono h hselects⟩)
  refine ⟨_, by rw [projectCpScaleCanonicalDelta, if_neg hdevices, if_neg hlinks], ?_⟩
  constructor
  · -- an introduced device is new, whether or not it is an anchor as well
    simp only [introducedDevices, stampTopologyHashes, devices_projectStageTopology,
      List.filter_filter, added]
    apply List.filter_congr
    intro item hitem
    rw [Bool.eq_iff_iff]
    simp only [Bool.and_eq_true, decide_eq_true_eq, Bool.not_eq_true', List.mem_append,
      List.mem_filter, mem_deviceIds_project_iff hunique hitem, Bool.not_eq_true]
    constructor
    · rintro ⟨hnot, -, hlater⟩
      exact ⟨hlater, hnot⟩
    · rintro ⟨hlater, hnot⟩
      exact ⟨hnot, .inl ⟨hlater, hnot⟩, hlater⟩
  · refine (List.filter_filter ..).trans ?_
    apply List.filter_congr
    intro item _
    rw [Bool.eq_iff_iff, Bool.and_eq_true, Bool.and_eq_true, decide_eq_true_eq]
    refine (and_congr_left fun _ => mem_newDeviceNames_iff hunique).trans ?_
    simp only [selectsModule, decide_eq_true_eq, Bool.not_eq_true', decide_eq_false_iff_not]
    constructor
    · rintro ⟨⟨hlater, hnot⟩, -⟩
      exact ⟨hlater, hnot⟩
    · rintro ⟨hlater, hnot⟩
      exact ⟨⟨hlater, hnot⟩, hlater⟩
  · simp only [stampTopologyHashes, links_projectStageTopology, List.filter_filter, added]
    apply List.filter_congr
    intro item hitem
    rw [Bool.eq_iff_iff]
    simp only [Bool.and_eq_true, decide_eq_true_eq, Bool.not_eq_true',
      mem_linkIds_project_iff hunique hitem, Bool.not_eq_true]
    exact And.comm
  · intro link hlink
    have hcurrent : selectsLink full later link = true :=
      (List.mem_filter.mp (List.mem_filter.mp hlink).1).2
    rw [selectsLink, Bool.and_eq_true, decide_eq_true_eq, decide_eq_true_eq] at hcurrent
    have hanchor : ∀ identifier ∈ [link.deviceAId, link.deviceBId],
        identifier ∈ (full.devices.filter (selectsDevice later)).map Plans.DevicePlan.id →
        identifier ∈ (((full.devices.filter (selectsDevice later)).filter fun item =>
          item.id ∈ ((deviceIds (projectStageTopology computeTopologyHashes full later)).filter
              (· ∉ deviceIds (projectStageTopology computeTopologyHashes full stage))) ++
            (((projectStageTopology computeTopologyHashes full later).links.filter
              (·.id ∉ linkIds (projectStageTopology computeTopologyHashes full stage))).flatMap
                fun item => [item.deviceAId, item.deviceBId])).map Plans.DevicePlan.id) := by
      intro identifier hidentifier hselected
      obtain ⟨device, hdevice, rfl⟩ := List.mem_map.mp hselected
      refine List.mem_map_of_mem (List.mem_filter.mpr ⟨hdevice, ?_⟩)
      rw [decide_eq_true_eq, List.mem_append]
      exact .inr (List.mem_flatMap.mpr ⟨link, hlink, hidentifier⟩)
    exact ⟨hanchor _ (by simp) hcurrent.1, hanchor _ (by simp) hcurrent.2⟩

end Delta

/-! ## A replay -/

/-- The deltas of a chain of stages, each with the projection that it starts from. -/
def stageDeltas (computeTopologyHashes : Plans.TopologyPlan → TopologyHashes)
    (full : Plans.TopologyPlan) : CPScaleCanonicalStage → List CPScaleCanonicalStage →
      Except String (List (Plans.TopologyPlan × Plans.TopologyPlan))
  | _, [] => .ok []
  | stage, later :: rest => do
    let previous := projectStageTopology computeTopologyHashes full stage
    let delta ← projectCpScaleCanonicalDelta computeTopologyHashes previous
      (projectStageTopology computeTopologyHashes full later)
    let deltas ← stageDeltas computeTopologyHashes full later rest
    return (previous, delta) :: deltas

/-- Add to a topology the devices it does not have, the modules and the links of a delta. -/
def addDelta (topology delta : Plans.TopologyPlan) : Plans.TopologyPlan :=
  { topology with
    devices := topology.devices ++ introducedDevices topology delta
    modules := topology.modules ++ delta.modules
    links := topology.links ++ delta.links }

/-- Add the deltas of a chain one after the other. -/
def replay (start : Plans.TopologyPlan)
    (deltas : List (Plans.TopologyPlan × Plans.TopologyPlan)) : Plans.TopologyPlan :=
  deltas.foldl (fun topology delta => addDelta topology delta.2) start

/-- Two topologies have the same devices, modules and links. -/
structure SameParts (a b : Plans.TopologyPlan) : Prop where
  devices : a.devices.Perm b.devices
  modules : a.modules.Perm b.modules
  links : a.links.Perm b.links

/-- Each stage of the chain follows the one before it. -/
def Consecutive (stage : CPScaleCanonicalStage) (rest : List CPScaleCanonicalStage) : Prop :=
  (stage :: rest).IsChain fun stage later => later.order = stage.order + 1

section Replay

variable {computeTopologyHashes : Plans.TopologyPlan → TopologyHashes}
  {full : Plans.TopologyPlan} {stage later : CPScaleCanonicalStage}
  {rest : List CPScaleCanonicalStage}

lemma Consecutive.grows {α : Type} {select : CPScaleCanonicalStage → α → Bool} {items : List α}
    (hmono : ∀ {stage later : CPScaleCanonicalStage}, stage.order ≤ later.order → ∀ {item : α},
      select stage item = true → select later item = true)
    (h : Consecutive stage rest) : Grows select items stage rest := by
  induction rest generalizing stage with
  | nil => trivial
  | cons later rest ih =>
    obtain ⟨hnext, hrest⟩ := List.isChain_cons_cons.mp h
    refine ⟨fun item _ hitem => hmono ?_ hitem, ih hrest⟩
    omega

/-- **One delta** takes a copy of a stage to a copy of the next. -/
lemma SameParts.addDelta {topology previous delta : Plans.TopologyPlan}
    (h : SameParts topology (projectStageTopology computeTopologyHashes full stage))
    (hprevious : previous = projectStageTopology computeTopologyHashes full stage)
    (hdelta : IntroducesAdded full stage later previous delta)
    (horder : stage.order ≤ later.order) :
    SameParts (addDelta topology delta)
      (projectStageTopology computeTopologyHashes full later) := by
  subst hprevious
  have hids : ∀ identifier, identifier ∈ deviceIds topology ↔
      identifier ∈ deviceIds (projectStageTopology computeTopologyHashes full stage) :=
    fun identifier => (h.devices.map _).mem_iff
  have hintroduced : introducedDevices topology delta =
      introducedDevices (projectStageTopology computeTopologyHashes full stage) delta := by
    unfold introducedDevices
    simp only [hids]
  constructor
  · simp only [Canonical.addDelta, hintroduced, hdelta.devices]
    exact (h.devices.append_right _).trans
      (filter_append_added fun item _ hitem => selectsDevice_mono horder hitem)
  · simp only [Canonical.addDelta, hdelta.modules]
    exact (h.modules.append_right _).trans
      (filter_append_added fun item _ hitem => selectsModule_mono horder hitem)
  · simp only [Canonical.addDelta, hdelta.links]
    exact (h.links.append_right _).trans
      (filter_append_added fun item _ hitem => selectsLink_mono horder hitem)

/-- What the deltas of a chain introduce, and that adding them one after the other takes a copy of
the first stage to a copy of the last. -/
structure Replays (full : Plans.TopologyPlan)
    (computeTopologyHashes : Plans.TopologyPlan → TopologyHashes) (stage : CPScaleCanonicalStage)
    (rest : List CPScaleCanonicalStage)
    (deltas : List (Plans.TopologyPlan × Plans.TopologyPlan)) : Prop where
  devices : (deltas.map fun delta => introducedDevices delta.1 delta.2) =
    additions selectsDevice full.devices stage rest
  modules : (deltas.map fun delta => delta.2.modules) =
    additions (selectsModule full) full.modules stage rest
  links : (deltas.map fun delta => delta.2.links) =
    additions (selectsLink full) full.links stage rest
  anchored : ∀ delta ∈ deltas, ∀ link ∈ delta.2.links,
    link.deviceAId ∈ deviceIds delta.2 ∧ link.deviceBId ∈ deviceIds delta.2
  rebuilds : ∀ topology,
    SameParts topology (projectStageTopology computeTopologyHashes full stage) →
      SameParts (replay topology deltas)
        (projectStageTopology computeTopologyHashes full (lastStage stage rest))

/-- The deltas of a chain of consecutive stages exist and replay it. -/
lemma stageDeltas_replays (hunique : UniquelyNamed full) (h : Consecutive stage rest) :
    ∃ deltas, stageDeltas computeTopologyHashes full stage rest = .ok deltas ∧
      Replays full computeTopologyHashes stage rest deltas := by
  induction rest generalizing stage with
  | nil => exact ⟨[], rfl, ⟨rfl, rfl, rfl, by simp, fun topology h => h⟩⟩
  | cons later rest ih =>
    obtain ⟨hnext, hrest⟩ := List.isChain_cons_cons.mp h
    have horder : stage.order ≤ later.order := by omega
    obtain ⟨delta, hdelta, hintroduces⟩ := projectCpScaleCanonicalDelta_introduces hunique horder
    obtain ⟨deltas, hdeltas, hreplays⟩ := ih hrest
    refine ⟨(projectStageTopology computeTopologyHashes full stage, delta) :: deltas, ?_, ?_⟩
    · rw [stageDeltas, hdelta, hdeltas]
      rfl
    · constructor
      · rw [List.map_cons, additions, hreplays.devices, ← hintroduces.devices]
      · rw [List.map_cons, additions, hreplays.modules, ← hintroduces.modules]
      · rw [List.map_cons, additions, hreplays.links, ← hintroduces.links]
      · exact List.forall_mem_cons.mpr ⟨hintroduces.anchored, hreplays.anchored⟩
      · intro topology htopology
        exact hreplays.rebuilds _ (htopology.addDelta rfl hintroduces horder)

lemma countP_mem_map {α β : Type} [DecidableEq α] (items : List β) (read : β → List α) (a : α) :
    items.countP (a ∈ read ·) = (items.map read).countP (a ∈ ·) := by
  rw [List.countP_map]
  rfl

/-- **Replaying the stage deltas rebuilds the stages.**  With unique identifiers and names, adding
the deltas of consecutive stages after the core to the projection of the first one gives the devices,
the modules and the links of the last one.  Each of those that the first projection does not have is
introduced by exactly one delta, what the last projection does not have is introduced by none, and
every delta has both end devices of each of its links. -/
theorem replay_stageDeltas (computeTopologyHashes : Plans.TopologyPlan → TopologyHashes)
    (full : Plans.TopologyPlan) (hunique : UniquelyNamed full) (stage : CPScaleCanonicalStage)
    (rest : List CPScaleCanonicalStage)
    (_hafter : CPScaleCanonicalStage.router4Switch10.order ≤ stage.order)
    (hrest : Consecutive stage rest) :
    ∃ deltas, stageDeltas computeTopologyHashes full stage rest = .ok deltas ∧
      SameParts (replay (projectStageTopology computeTopologyHashes full stage) deltas)
        (projectStageTopology computeTopologyHashes full (lastStage stage rest)) ∧
      (∀ device ∈ full.devices,
        device ∉ (projectStageTopology computeTopologyHashes full stage).devices →
          deltas.countP (fun delta => device ∈ introducedDevices delta.1 delta.2) =
            if device ∈ (projectStageTopology computeTopologyHashes full
              (lastStage stage rest)).devices then 1 else 0) ∧
      (∀ module ∈ full.modules,
        module ∉ (projectStageTopology computeTopologyHashes full stage).modules →
          deltas.countP (fun delta => module ∈ delta.2.modules) =
            if module ∈ (projectStageTopology computeTopologyHashes full
              (lastStage stage rest)).modules then 1 else 0) ∧
      (∀ link ∈ full.links,
        link ∉ (projectStageTopology computeTopologyHashes full stage).links →
          deltas.countP (fun delta => link ∈ delta.2.links) =
            if link ∈ (projectStageTopology computeTopologyHashes full
              (lastStage stage rest)).links then 1 else 0) ∧
      ∀ delta ∈ deltas, ∀ link ∈ delta.2.links,
        (∃ device ∈ delta.2.devices, device.id = link.deviceAId) ∧
          ∃ device ∈ delta.2.devices, device.id = link.deviceBId := by
  obtain ⟨deltas, hdeltas, hreplays⟩ := stageDeltas_replays hunique hrest
  refine ⟨deltas, hdeltas, hreplays.rebuilds _ ⟨.refl _, .refl _, .refl _⟩, ?_, ?_, ?_, ?_⟩
  · intro device hdevice hnot
    have hselect : selectsDevice stage device = false := by simpa [hdevice] using hnot
    rw [countP_mem_map, hreplays.devices,
      countP_additions (hrest.grows selectsDevice_mono) hdevice hselect]
    simp [hdevice]
  · intro module hmodule hnot
    have hselect : selectsModule full stage module = false := by simpa [hmodule] using hnot
    rw [countP_mem_map deltas (fun delta => delta.2.modules), hreplays.modules,
      countP_additions (hrest.grows selectsModule_mono) hmodule hselect]
    simp [hmodule]
  · intro link hlink hnot
    have hselect : selectsLink full stage link = false := by simpa [hlink] using hnot
    rw [countP_mem_map deltas (fun delta => delta.2.links), hreplays.links,
      countP_additions (hrest.grows selectsLink_mono) hlink hselect]
    simp [hlink]
  · intro delta hdelta link hlink
    obtain ⟨hleft, hright⟩ := hreplays.anchored delta hdelta link hlink
    exact ⟨List.mem_map.mp hleft, List.mem_map.mp hright⟩

end Replay

/-! ## Concrete topologies -/

/-- Empty digests for every topology. -/
def noHashes : Plans.TopologyPlan → TopologyHashes :=
  fun _ => { physicalTopologyHash := "", artifactHash := "" }

/-- The distribution switch. -/
def distributionSwitch : Plans.DevicePlan :=
  { id := sw10, name := "SW10", model := "3560", category := "switch" }

/-- An access switch on the first floor. -/
def floorSwitch : Plans.DevicePlan :=
  { id := "sw-1", name := "SW1", model := "2960", category := "switch", zoneId := z1 }

/-- The two switches, with a module in one and a link between them. -/
def floorTopology : Plans.TopologyPlan :=
  { devices := [distributionSwitch, floorSwitch]
    modules := [{ device := "SW1", slot := "0", module := "card" }]
    links := [{ id := "link", deviceA := "SW10", portA := "Fa0/1", deviceB := "SW1",
                portB := "Fa0/1", deviceAId := sw10, deviceBId := "sw-1" }] }

/-- The delta of the first floor introduces the switch of the floor. -/
theorem replay_stageDeltas_floor1 :
    ∃ deltas, stageDeltas noHashes floorTopology .router4Switch10 [.floor1] = .ok deltas ∧
      deltas.countP (fun delta => floorSwitch ∈ introducedDevices delta.1 delta.2) = 1 := by
  have hunique : UniquelyNamed floorTopology := ⟨by decide, by decide, by decide⟩
  obtain ⟨deltas, hdeltas, -, hdevices, -⟩ := replay_stageDeltas noHashes floorTopology hunique
    .router4Switch10 [.floor1] (by decide)
    (List.isChain_cons_cons.mpr ⟨by decide, List.isChain_singleton _⟩)
  refine ⟨deltas, hdeltas, ?_⟩
  rw [hdevices floorSwitch (by decide) (by decide), if_pos (by decide)]

/-- A device of a site that no stage names. -/
def strayDevice : Plans.DevicePlan :=
  { id := "pc-1", name := "PC1", model := "PC-PT", category := "pc", siteId := "other-branch" }

/-- A topology with that device. -/
def strayTopology : Plans.TopologyPlan := { devices := [strayDevice] }

/-- A device that no stage includes lies outside the first projection, and no delta of the whole
chain introduces it. -/
theorem not_introducedOnce_stray :
    UniquelyNamed strayTopology ∧
      Consecutive .router4Switch10
        [.floor1, .floor2, .floor3, .router0Branch, .router3Branch, .remaining] ∧
      strayDevice ∈ strayTopology.devices ∧
      strayDevice ∉ (projectStageTopology noHashes strayTopology .router4Switch10).devices ∧
      ∃ deltas, stageDeltas noHashes strayTopology .router4Switch10
          [.floor1, .floor2, .floor3, .router0Branch, .router3Branch, .remaining] = .ok deltas ∧
        deltas.countP (fun delta => strayDevice ∈ introducedDevices delta.1 delta.2) ≠ 1 := by
  have hunique : UniquelyNamed strayTopology := ⟨by decide, by decide, by decide⟩
  have hchain : Consecutive .router4Switch10
      [.floor1, .floor2, .floor3, .router0Branch, .router3Branch, .remaining] := by
    simp [Consecutive, CPScaleCanonicalStage.order]
  obtain ⟨deltas, hdeltas, hreplays⟩ : ∃ deltas, stageDeltas noHashes strayTopology
      .router4Switch10 _ = .ok deltas ∧ Replays strayTopology noHashes .router4Switch10 _ deltas :=
    stageDeltas_replays hunique hchain
  refine ⟨hunique, hchain, by decide, by decide, deltas, hdeltas, ?_⟩
  rw [countP_mem_map, hreplays.devices]
  decide

end Canonical

end PacketTracer
