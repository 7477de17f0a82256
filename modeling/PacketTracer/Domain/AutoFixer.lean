import PacketTracer.Domain.TopologyPlan
import PacketTracer.Library.Reassignment

/-!
# The automatic fixes of a topology plan

`fix_plan` of `auto_fixer.py`: it corrects the cables, replaces routers with too few gigabit ports
and moves link ends off the ports that a device does not have.

The catalog is a parameter, and so are the messages of `validate_plan`, which are a function of the
devices and the links: `fix_plan` leaves the other parts of a plan.
-/

namespace PacketTracer

namespace AutoFixer

open Dicts Plans Reassignments

/-! ## Plans -/

/-- `PortSpec`. -/
structure PortSpec where
  speed : String
  fullName : String
  deriving DecidableEq

/-- What `fix_plan` reads of the catalog: the ports of a model and the cable between two
categories. -/
structure Catalog where
  resolveModel : String → Option (List PortSpec)
  inferCable : String → String → String

/-- `DevicePlan`, with the addresses by port. -/
structure DevicePlan where
  name : String
  model : String
  category : String
  interfaces : Dict String String := Dict.empty
  interfacesV6 : Dict String String := Dict.empty
  deriving DecidableEq

/-- The port of an entry of `access_ports` or `trunks`. -/
structure SwitchPort where
  switch : String
  port : String
  deriving DecidableEq

/-- `TopologyPlan`. -/
structure TopologyPlan where
  devices : List DevicePlan
  links : List Plans.LinkPlan
  accessPorts : List SwitchPort := []
  trunks : List SwitchPort := []
  errors : List String := []
  warnings : List String := []
  deriving DecidableEq

/-- `device_by_name`. -/
def deviceByName (devices : List DevicePlan) (name : String) : Option DevicePlan :=
  devices.find? fun device => device.name = name

/-- The device and the port of both ends of a link. -/
def ends (link : Plans.LinkPlan) : List (String × String) :=
  [(link.deviceA, link.portA), (link.deviceB, link.portB)]

variable (catalog : Catalog)

/-! ## The three fixes -/

/-- One link of `_fix_cables`. -/
def fixCable (devices : List DevicePlan) (link : Plans.LinkPlan) : Plans.LinkPlan × List String :=
  match deviceByName devices link.deviceA, deviceByName devices link.deviceB with
  | some deviceA, some deviceB =>
    let expected := catalog.inferCable deviceA.category deviceB.category
    if link.cable ≠ expected then
      ({ link with cable := expected },
        ["Cable corregido: " ++ link.deviceA ++ "↔" ++ link.deviceB ++ " de '" ++ link.cable ++
          "' a '" ++ expected ++ "'"])
    else (link, [])
  | _, _ => (link, [])

/-- `_fix_cables`. -/
def fixCables (devices : List DevicePlan) (links : List Plans.LinkPlan) : List Plans.LinkPlan × List String :=
  (links.map fun link => (fixCable catalog devices link).1,
    links.flatMap fun link => (fixCable catalog devices link).2)

/-- `port_usage`: how many link ends name a device. -/
def portUsage (links : List Plans.LinkPlan) (name : String) : ℕ :=
  (links.flatMap fun link => [link.deviceA, link.deviceB]).count name

/-- `get_ports_by_speed`. -/
def getPortsBySpeed (ports : List PortSpec) (speed : String) : List PortSpec :=
  ports.filter fun port => port.speed = speed

/-- One device of `_fix_insufficient_ports`. -/
def upgradeRouter (links : List Plans.LinkPlan) (device : DevicePlan) : DevicePlan × List String :=
  if device.category ≠ "router" then (device, [])
  else
    match catalog.resolveModel device.model with
    | none => (device, [])
    | some ports =>
      let gigCount := (getPortsBySpeed ports "GigabitEthernet").length
      let needed := portUsage links device.name
      if needed > gigCount ∧ device.model ≠ "2911" then
        ({ device with model := "2911" },
          ["Router " ++ device.name ++ " upgradeado de " ++ device.model ++ " a 2911 (necesita " ++
            toString needed ++ " puertos GigE, " ++ device.model ++ " solo tiene " ++
            toString gigCount ++ ")"])
      else (device, [])

/-- `_fix_insufficient_ports`. -/
def fixInsufficientPorts (links : List Plans.LinkPlan) (devices : List DevicePlan) :
    List DevicePlan × List String :=
  (devices.map fun device => (upgradeRouter catalog links device).1,
    devices.flatMap fun device => (upgradeRouter catalog links device).2)

/-- The full names of the ports of a device; a device that is missing or has an unknown model has
none. -/
def portNames (devices : List DevicePlan) (name : String) : List String :=
  match deviceByName devices name with
  | none => []
  | some device =>
    match catalog.resolveModel device.model with
    | none => []
    | some ports => ports.map PortSpec.fullName

/-- One end of a link in the second loop of `_fix_invalid_ports`; `used` is `used_ports`, as pairs
of a device and a port. -/
def fixEnd (devices : List DevicePlan) (used : List (String × String)) (name port : String) :
    String × List (String × String) × List String :=
  match replacement (portNames catalog devices) used (name, port) with
  | none => (port, used, [])
  | some free =>
    (free, (name, free) :: used,
      ["Puerto corregido: " ++ name ++ " de '" ++ port ++ "' a '" ++ free ++ "'"])

/-- The second loop of `_fix_invalid_ports`. -/
def fixLinks (devices : List DevicePlan) :
    List (String × String) → List Plans.LinkPlan → List Plans.LinkPlan × List String
  | _, [] => ([], [])
  | used, link :: links =>
    let (portA, used, fixesA) := fixEnd catalog devices used link.deviceA link.portA
    let (portB, used, fixesB) := fixEnd catalog devices used link.deviceB link.portB
    let (links, fixes) := fixLinks devices used links
    ({ link with portA, portB } :: links, fixesA ++ fixesB ++ fixes)

/-- `_fix_invalid_ports`: the first loop registers the link ends whose port the device has. -/
def fixInvalidPorts (devices : List DevicePlan) (links : List Plans.LinkPlan) :
    List Plans.LinkPlan × List String :=
  fixLinks catalog devices (settled (portNames catalog devices) (links.flatMap ends)) links

variable (messages : List DevicePlan → List Plans.LinkPlan → List String × List String)

/-- `fix_plan`. -/
def fixPlan (plan : TopologyPlan) : TopologyPlan × List String :=
  let (links, cableFixes) := fixCables catalog plan.devices plan.links
  let (devices, modelFixes) := fixInsufficientPorts catalog links plan.devices
  let (links, portFixes) := fixInvalidPorts catalog devices links
  let (errors, warnings) := messages devices links
  ({ plan with devices, links, errors, warnings }, cableFixes ++ modelFixes ++ portFixes)

/-! ## The views of the ports -/

/-- No two links share a port. -/
def TopologyPlan.NoSharedPort (plan : TopologyPlan) : Prop :=
  plan.links.Pairwise fun link other => ∀ port ∈ ends link, port ∉ ends other

/-- The device and the port of the interface addresses, the access ports and the trunk entries. -/
def TopologyPlan.entries (plan : TopologyPlan) : List (String × String) :=
  plan.devices.flatMap (fun device =>
    (device.interfaces.keys ++ device.interfacesV6.keys).map fun port => (device.name, port)) ++
  (plan.accessPorts ++ plan.trunks).map fun entry => (entry.switch, entry.port)

/-- Every entry names the port of a link. -/
def TopologyPlan.EntriesNamed (plan : TopologyPlan) : Prop :=
  ∀ entry ∈ plan.entries, ∃ link ∈ plan.links, entry ∈ ends link

/-- Every entry names, after a fix, the port of the links whose ports it named before. -/
def EntriesFollow (plan fixed : TopologyPlan) : Prop :=
  fixed.entries.length = plan.entries.length ∧ fixed.links.length = plan.links.length ∧
    ∀ links ∈ plan.links.zip fixed.links, ∀ entries ∈ plan.entries.zip fixed.entries,
      entries.1 ∈ ends links.1 → entries.2 ∈ ends links.2

instance lawfulBEq_port : LawfulBEq (String × String) := inferInstance

instance (plan : TopologyPlan) : Decidable plan.NoSharedPort := by
  unfold TopologyPlan.NoSharedPort
  infer_instance

instance (plan : TopologyPlan) : Decidable plan.EntriesNamed := by
  unfold TopologyPlan.EntriesNamed
  infer_instance

/-- The ports of the devices, once the routers with too few gigabit ports are replaced. -/
def TopologyPlan.portPool (plan : TopologyPlan) : String → List String :=
  portNames catalog (plan.devices.map fun device => (upgradeRouter catalog plan.links device).1)

/-- A port stays: its device has it, or the link ends before it that name other ports than those of
the device are enough to use up the ports that no link names. -/
def TopologyPlan.Stays (plan : TopologyPlan) (port : String × String) : Prop :=
  port.2 ∈ plan.portPool catalog port.1 ∨
    ∃ pre post, plan.links.flatMap ends = pre ++ port :: post ∧
      freeCount (plan.portPool catalog) (settled (plan.portPool catalog) (plan.links.flatMap ends))
          port.1 ≤ strayCount (plan.portPool catalog) pre port.1

/-! ## What a fix keeps -/

section Fix

variable {catalog} {messages} {plan : TopologyPlan} {devices : List DevicePlan}
  {links : List Plans.LinkPlan} {used : List (String × String)}

lemma fixCable_eq (catalog : Catalog) (devices : List DevicePlan) (link : Plans.LinkPlan) :
    ∃ cable, (fixCable catalog devices link).1 = { link with cable } := by
  unfold fixCable
  split
  · dsimp only
    split
    · exact ⟨_, rfl⟩
    · exact ⟨link.cable, rfl⟩
  · exact ⟨link.cable, rfl⟩

lemma ends_fixCable (link : Plans.LinkPlan) : ends (fixCable catalog devices link).1 = ends link := by
  obtain ⟨cable, hcable⟩ := fixCable_eq catalog devices link
  rw [hcable]
  rfl

lemma flatMap_ends_fixCables :
    (fixCables catalog devices links).1.flatMap ends = links.flatMap ends := by
  simp only [fixCables, List.flatMap_map, ends_fixCable]

lemma portUsage_congr {links' : List Plans.LinkPlan}
    (h : (links'.flatMap ends).map Prod.fst = (links.flatMap ends).map Prod.fst) :
    portUsage links' = portUsage links := by
  rw [List.map_flatMap, List.map_flatMap] at h
  funext name
  exact congrArg (List.count name) h

lemma upgradeRouter_congr {links' : List Plans.LinkPlan}
    (h : (links'.flatMap ends).map Prod.fst = (links.flatMap ends).map Prod.fst) :
    upgradeRouter catalog links' = upgradeRouter catalog links := by
  funext device
  simp only [upgradeRouter, portUsage_congr h]

lemma upgradeRouter_of_model {device : DevicePlan} (h : device.model = "2911") :
    upgradeRouter catalog links device = (device, []) := by
  unfold upgradeRouter
  split
  · rfl
  · split
    · rfl
    · exact if_neg fun hneeded => hneeded.2 h

lemma upgradeRouter_cases (catalog : Catalog) (links : List Plans.LinkPlan) (device : DevicePlan) :
    upgradeRouter catalog links device = (device, []) ∨
      (upgradeRouter catalog links device).1 = { device with model := "2911" } := by
  unfold upgradeRouter
  split
  · exact Or.inl rfl
  split
  · exact Or.inl rfl
  · dsimp only
    split
    · exact Or.inr rfl
    · exact Or.inl rfl

lemma upgradeRouter_eq (catalog : Catalog) (links : List Plans.LinkPlan) (device : DevicePlan) :
    ∃ model, (upgradeRouter catalog links device).1 = { device with model } := by
  rcases upgradeRouter_cases catalog links device with h | h
  · exact ⟨device.model, by rw [h]⟩
  · exact ⟨"2911", h⟩

lemma upgradeRouter_upgradeRouter (device : DevicePlan) :
    upgradeRouter catalog links (upgradeRouter catalog links device).1 =
      ((upgradeRouter catalog links device).1, []) := by
  rcases upgradeRouter_cases catalog links device with h | h
  · rw [h, h]
  · rw [h]
    exact upgradeRouter_of_model rfl

/-- The moved ends of the links are what a pass over the ends gives. -/
lemma flatMap_zip_fixLinks (catalog : Catalog) (devices : List DevicePlan)
    (used : List (String × String)) (links : List Plans.LinkPlan) :
    ((links.zip (fixLinks catalog devices used links).1).flatMap fun pair =>
      (ends pair.1).zip (ends pair.2)) =
    moves (portNames catalog devices) used (links.flatMap ends) := by
  induction links generalizing used with
  | nil => rfl
  | cons link links ih =>
    simp only [fixLinks, fixEnd, List.flatMap_cons, ends, List.cons_append, List.nil_append, moves]
    rcases replacement (portNames catalog devices) used (link.deviceA, link.portA) with _ | portA
    · cases hb : replacement (portNames catalog devices) used (link.deviceB, link.portB) with
      | none | some portB => simp [ends, ← ih]
    cases hb : replacement (portNames catalog devices) ((link.deviceA, portA) :: used)
        (link.deviceB, link.portB) with
    | none => simp [ends, hb, ← ih]
    | some portB => simp [ends, hb, ← ih]

lemma length_fixLinks : (fixLinks catalog devices used links).1.length = links.length := by
  induction links generalizing used with
  | nil => rfl
  | cons link links ih => simp [fixLinks, ih]

lemma fixLinks_of_stays (h : ∀ port ∈ links.flatMap ends,
    replacement (portNames catalog devices) used port = none) :
    fixLinks catalog devices used links = (links, []) := by
  induction links with
  | nil => rfl
  | cons link links ih =>
    rw [List.flatMap_cons, List.forall_mem_append] at h
    have hA := h.1 (link.deviceA, link.portA) (by simp [ends])
    have hB := h.1 (link.deviceB, link.portB) (by simp [ends])
    simp only [fixLinks, fixEnd, hA, hB, ih h.2, List.nil_append]

lemma exists_of_mem_fixLinks {link' : Plans.LinkPlan}
    (h : link' ∈ (fixLinks catalog devices used links).1) :
    ∃ link ∈ links, ∃ portA portB, link' = { link with portA, portB } := by
  induction links generalizing used with
  | nil => cases h
  | cons link links ih =>
    rcases List.mem_cons.mp h with rfl | h
    · exact ⟨link, List.mem_cons_self, _, _, rfl⟩
    · obtain ⟨other, hother, hports⟩ := ih h
      exact ⟨other, List.mem_cons_of_mem link hother, hports⟩

lemma deviceByName_upgraded (name : String) :
    deviceByName (devices.map fun device => (upgradeRouter catalog links device).1) name =
      (deviceByName devices name).map fun device => (upgradeRouter catalog links device).1 := by
  rw [deviceByName, deviceByName, List.find?_map]
  congr 2
  funext device
  obtain ⟨model, hmodel⟩ := upgradeRouter_eq catalog links device
  simp [hmodel]

/-- A corrected cable is not corrected again. -/
lemma fixCable_fixCable (link : Plans.LinkPlan) (portA portB : String) :
    fixCable catalog (devices.map fun device => (upgradeRouter catalog links device).1)
        { (fixCable catalog devices link).1 with portA, portB } =
      ({ (fixCable catalog devices link).1 with portA, portB }, []) := by
  obtain ⟨cable, hcable⟩ := fixCable_eq catalog devices link
  unfold fixCable at hcable ⊢
  simp only [hcable, deviceByName_upgraded]
  rcases ha : deviceByName devices link.deviceA with _ | deviceA
  · rfl
  rcases hb : deviceByName devices link.deviceB with _ | deviceB
  · rfl
  obtain ⟨_, hA⟩ := upgradeRouter_eq catalog links deviceA
  obtain ⟨_, hB⟩ := upgradeRouter_eq catalog links deviceB
  simp only [Option.map_some, hA, hB]
  refine if_neg (not_not.mpr ?_)
  simp only [ha, hb] at hcable
  split at hcable
  · exact (congrArg Plans.LinkPlan.cable hcable).symm
  rename_i h
  have hsame : link.cable = cable := congrArg Plans.LinkPlan.cable hcable
  rw [← hsame]
  exact not_not.mp h

lemma exists_mem_zip_ends {link link' : Plans.LinkPlan} {port : String × String}
    (h : port ∈ ends link') :
    ∃ before ∈ ends link, (before, port) ∈ (ends link).zip (ends link') := by
  simp only [ends, List.mem_cons, List.not_mem_nil, or_false] at h
  rcases h with rfl | rfl
  · exact ⟨_, List.mem_cons_self, List.mem_cons_self⟩
  · exact ⟨(link.deviceB, link.portB), by simp [ends], by simp [ends]⟩

end Fix

/-! ## Fixed plans -/

section FixPlan

variable {catalog} {messages} {plan : TopologyPlan}

lemma devices_fixPlan : (fixPlan catalog messages plan).1.devices =
    plan.devices.map fun device => (upgradeRouter catalog plan.links device).1 := by
  simp only [fixPlan, fixInsufficientPorts,
    upgradeRouter_congr (congrArg (List.map Prod.fst) flatMap_ends_fixCables)]

lemma links_fixPlan : (fixPlan catalog messages plan).1.links =
    (fixLinks catalog (fixPlan catalog messages plan).1.devices
      (settled (plan.portPool catalog) (plan.links.flatMap ends))
      (fixCables catalog plan.devices plan.links).1).1 := by
  rw [devices_fixPlan]
  simp only [fixPlan, fixInsufficientPorts, fixInvalidPorts, flatMap_ends_fixCables,
    upgradeRouter_congr (congrArg (List.map Prod.fst) flatMap_ends_fixCables),
    TopologyPlan.portPool]

lemma length_links_fixPlan (catalog : Catalog)
    (messages : List DevicePlan → List Plans.LinkPlan → List String × List String) (plan : TopologyPlan) :
    (fixPlan catalog messages plan).1.links.length = plan.links.length := by
  rw [links_fixPlan, length_fixLinks]
  exact List.length_map _

lemma entries_fixPlan : (fixPlan catalog messages plan).1.entries = plan.entries := by
  unfold TopologyPlan.entries
  rw [devices_fixPlan, List.flatMap_map]
  congr 1
  refine List.flatMap_congr fun device _ => ?_
  obtain ⟨model, hmodel⟩ := upgradeRouter_eq catalog plan.links device
  simp only [hmodel]

lemma flatMap_zip_fixPlan (catalog : Catalog)
    (messages : List DevicePlan → List Plans.LinkPlan → List String × List String) (plan : TopologyPlan) :
    ((plan.links.zip (fixPlan catalog messages plan).1.links).flatMap fun pair =>
      (ends pair.1).zip (ends pair.2)) =
    moves (plan.portPool catalog) (settled (plan.portPool catalog) (plan.links.flatMap ends))
      (plan.links.flatMap ends) := by
  have hmoves := flatMap_zip_fixLinks catalog (fixPlan catalog messages plan).1.devices
    (settled (plan.portPool catalog) (plan.links.flatMap ends))
    (fixCables catalog plan.devices plan.links).1
  rw [← links_fixPlan, flatMap_ends_fixCables, devices_fixPlan] at hmoves
  rw [← TopologyPlan.portPool, fixCables, List.zip_map_left, List.flatMap_map] at hmoves
  simpa only [Prod.map, id_eq, ends_fixCable] using hmoves

lemma flatMap_ends_fixPlan : (fixPlan catalog messages plan).1.links.flatMap ends =
    reassign (plan.portPool catalog) (plan.links.flatMap ends) := by
  have hsnd : ∀ pair ∈ plan.links.zip (fixPlan catalog messages plan).1.links,
      ((ends pair.1).zip (ends pair.2)).map Prod.snd = ends pair.2 := fun _ _ => rfl
  rw [reassign, ← flatMap_zip_fixPlan, List.map_flatMap, List.flatMap_congr hsnd,
    ← List.flatMap_map Prod.snd, List.map_snd_zip (length_links_fixPlan catalog messages plan).le]

lemma pairwise_zip_fixPlan (h : plan.NoSharedPort) :
    (plan.links.zip (fixPlan catalog messages plan).1.links).Pairwise fun x y =>
      ∀ port ∈ ends x.1, port ∉ ends y.1 := by
  rw [TopologyPlan.NoSharedPort, ← List.map_fst_zip (length_links_fixPlan catalog messages plan).ge,
    List.pairwise_map] at h
  exact h

/-- No two links share a port after the fix. -/
lemma noSharedPort_fixPlan (h : plan.NoSharedPort) :
    (fixPlan catalog messages plan).1.NoSharedPort := by
  have hmoves : (moves (plan.portPool catalog)
      (settled (plan.portPool catalog) (plan.links.flatMap ends))
      (plan.links.flatMap ends)).Pairwise fun x y => x.2 = y.2 → x.1 = y.1 :=
    pairwise_moves fun port hport hstands =>
      List.mem_filter.mpr ⟨hport, decide_eq_true hstands⟩
  rw [← flatMap_zip_fixPlan catalog messages, List.pairwise_flatMap] at hmoves
  rw [TopologyPlan.NoSharedPort,
    ← List.map_snd_zip (length_links_fixPlan catalog messages plan).le, List.pairwise_map]
  refine (pairwise_zip_fixPlan h).imp₂ (fun x y hshared hmove port hx hy => ?_) hmoves.2
  obtain ⟨before, hbefore, hfirst⟩ := exists_mem_zip_ends hx
  obtain ⟨other, hother, hsecond⟩ := exists_mem_zip_ends hy
  have heq : before = other := hmove _ hfirst _ hsecond rfl
  exact hshared before hbefore (heq ▸ hother)

lemma stays_iff {port : String × String} (h : port ∈ plan.links.flatMap ends) :
    plan.Stays catalog port ↔ (port, port) ∈ moves (plan.portPool catalog)
      (settled (plan.portPool catalog) (plan.links.flatMap ends)) (plan.links.flatMap ends) := by
  by_cases hstands : port.2 ∈ plan.portPool catalog port.1
  · refine iff_of_true (Or.inl hstands) ?_
    rw [← map_fst_moves (plan.portPool catalog)
      (settled (plan.portPool catalog) (plan.links.flatMap ends)) (plan.links.flatMap ends)] at h
    obtain ⟨⟨before, after⟩, hmove, rfl⟩ := List.mem_map.mp h
    rcases of_mem_moves hmove with rfl | hmoved
    · exact hmove
    · exact absurd hstands hmoved.1
  · rw [mem_moves_self_iff hstands]
    exact or_iff_right hstands

/-- The entries follow the links exactly if every port that an entry names stays. -/
lemma entriesFollow_fixPlan_iff (hshared : plan.NoSharedPort) (hnamed : plan.EntriesNamed) :
    EntriesFollow plan (fixPlan catalog messages plan).1 ↔
      ∀ entry ∈ plan.entries, plan.Stays catalog entry := by
  have hport : ∀ entry ∈ plan.entries, entry ∈ plan.links.flatMap ends := fun entry hentry => by
    obtain ⟨link, hlink, hend⟩ := hnamed entry hentry
    exact List.mem_flatMap_of_mem hlink hend
  rw [EntriesFollow, entries_fixPlan, and_iff_right rfl,
    and_iff_right (length_links_fixPlan catalog messages plan)]
  constructor
  · intro h entry hentry
    rw [stays_iff (hport entry hentry)]
    obtain ⟨link, hlink, hend⟩ := hnamed entry hentry
    rw [← List.map_fst_zip (length_links_fixPlan catalog messages plan).ge]
      at hlink
    obtain ⟨pair, hpair, rfl⟩ := List.mem_map.mp hlink
    have hsame : (entry, entry) ∈ plan.entries.zip plan.entries := by
      rw [List.zip_eq_zipWith, List.zipWith_self]
      exact List.mem_map_of_mem hentry
    obtain ⟨before, hbefore, hmove⟩ := exists_mem_zip_ends (h pair hpair _ hsame hend)
    have hmoves := List.mem_flatMap_of_mem
      (f := fun pair => (ends pair.1).zip (ends pair.2)) hpair hmove
    rw [flatMap_zip_fixPlan] at hmoves
    rcases of_mem_moves hmoves with rfl | hmoved
    · exact hmoves
    · exact (stays_iff (hport entry hentry)).mp (Or.inl hmoved.2.1)
  · rintro h pair hpair ⟨entry, entry'⟩ hentries hend
    rw [List.zip_eq_zipWith, List.zipWith_self] at hentries
    obtain ⟨entry, hentry, heq⟩ := List.mem_map.mp hentries
    cases heq
    have hstays := (stays_iff (hport entry hentry)).mp (h entry hentry)
    rw [← flatMap_zip_fixPlan catalog messages] at hstays
    obtain ⟨other, hother, hmove⟩ := List.mem_flatMap.mp hstays
    obtain ⟨hbefore, hafter⟩ := List.of_mem_zip hmove
    -- The link that the entry names is the one whose end stays.
    by_cases heq : pair = other
    · exact heq ▸ hafter
    · have hsymm : Std.Symm fun x y : Plans.LinkPlan × Plans.LinkPlan =>
          ∀ port ∈ ends x.1, port ∉ ends y.1 :=
        ⟨fun x y hxy port hy hx => hxy port hx hy⟩
      exact absurd hbefore ((pairwise_zip_fixPlan hshared).forall hpair hother heq entry hend)

lemma fixPlan_of_fixed (hcables : fixCables catalog plan.devices plan.links = (plan.links, []))
    (hdevices : fixInsufficientPorts catalog plan.links plan.devices = (plan.devices, []))
    (hports : fixInvalidPorts catalog plan.devices plan.links = (plan.links, []))
    (hmessages : messages plan.devices plan.links = (plan.errors, plan.warnings)) :
    fixPlan catalog messages plan = (plan, []) := by
  simp only [fixPlan, hcables, hdevices, hports, hmessages, List.append_nil]

/-- **A second fix changes nothing.** -/
theorem fixPlan_fixPlan : fixPlan catalog messages (fixPlan catalog messages plan).1 =
    ((fixPlan catalog messages plan).1, []) := by
  have hcables : fixCables catalog (fixPlan catalog messages plan).1.devices
      (fixPlan catalog messages plan).1.links =
      ((fixPlan catalog messages plan).1.links, []) := by
    have hsame : ∀ link ∈ (fixPlan catalog messages plan).1.links,
        fixCable catalog (fixPlan catalog messages plan).1.devices link = (link, []) := by
      intro link hlink
      rw [links_fixPlan] at hlink
      obtain ⟨_, hbefore, portA, portB, rfl⟩ := exists_of_mem_fixLinks hlink
      obtain ⟨link, -, rfl⟩ := List.mem_map.mp hbefore
      rw [devices_fixPlan]
      exact fixCable_fixCable link portA portB
    refine Prod.ext ?_ (List.flatMap_eq_nil_iff.mpr fun link hlink => by rw [hsame link hlink])
    exact (List.map_congr_left fun link hlink => by rw [hsame link hlink, id]).trans (List.map_id _)
  have hdevices : fixInsufficientPorts catalog (fixPlan catalog messages plan).1.links
      (fixPlan catalog messages plan).1.devices =
      ((fixPlan catalog messages plan).1.devices, []) := by
    have howners : ((fixPlan catalog messages plan).1.links.flatMap ends).map Prod.fst =
        (plan.links.flatMap ends).map Prod.fst := by
      rw [flatMap_ends_fixPlan, map_owner_reassign]
    rw [fixInsufficientPorts, upgradeRouter_congr howners, devices_fixPlan]
    refine Prod.ext ?_ ?_
    · simp [upgradeRouter_upgradeRouter]
    · simp [upgradeRouter_upgradeRouter]
  have hports : fixInvalidPorts catalog (fixPlan catalog messages plan).1.devices
      (fixPlan catalog messages plan).1.links = ((fixPlan catalog messages plan).1.links, []) := by
    refine fixLinks_of_stays fun port hport => ?_
    rw [flatMap_ends_fixPlan] at hport ⊢
    rw [devices_fixPlan]
    exact replacement_reassign hport
  exact fixPlan_of_fixed hcables hdevices hports rfl

/-- **A fix keeps the views of the ports together** exactly if every port that an address, an access
port or a trunk entry names stays; it never makes two links share a port, and a second fix changes
nothing. -/
theorem fixPlan_keeps_views_iff (catalog : Catalog)
    (messages : List DevicePlan → List Plans.LinkPlan → List String × List String) (plan : TopologyPlan)
    (hshared : plan.NoSharedPort) (hnamed : plan.EntriesNamed) :
    ((fixPlan catalog messages plan).1.NoSharedPort ∧
        (fixPlan catalog messages plan).1.EntriesNamed ∧
        EntriesFollow plan (fixPlan catalog messages plan).1 ∧
        fixPlan catalog messages (fixPlan catalog messages plan).1 =
          ((fixPlan catalog messages plan).1, [])) ↔
      ∀ entry ∈ plan.entries, plan.Stays catalog entry := by
  rw [and_iff_right (noSharedPort_fixPlan hshared), and_iff_left fixPlan_fixPlan,
    entriesFollow_fixPlan_iff hshared hnamed]
  refine and_iff_right_of_imp fun hstays entry hentry => ?_
  rw [entries_fixPlan] at hentry
  obtain ⟨link, hlink, hend⟩ := hnamed entry hentry
  have hmove := (stays_iff (List.mem_flatMap_of_mem hlink hend)).mp (hstays entry hentry)
  have hafter := List.mem_map_of_mem (f := Prod.snd) hmove
  rw [← reassign, ← @flatMap_ends_fixPlan catalog messages] at hafter
  exact List.mem_flatMap.mp hafter

end FixPlan

/-! ## Two routers -/

/-- The ports of the routers below. -/
def routerCatalog : Catalog where
  resolveModel model :=
    if model = "2911" then
      some (["0/0", "0/1", "0/2"].map fun slot => ⟨"GigabitEthernet", "GigabitEthernet" ++ slot⟩)
    else none
  inferCable categoryA categoryB :=
    if categoryA = "router" ∧ categoryB = "router" then "cross" else "straight"

/-- Two routers on one link, the first with an address on a port of the given name. -/
def twoRouters (port : String) : TopologyPlan where
  devices :=
    [⟨"R1", "2911", "router", Dict.ofList [(port, "10.0.0.1/30")], Dict.empty⟩,
      ⟨"R2", "2911", "router", Dict.ofList [("GigabitEthernet0/0", "10.0.0.2/30")], Dict.empty⟩]
  links := [⟨"", "R1", port, "R2", "GigabitEthernet0/0", "cross", "", "", "", "", "", Dict.empty⟩]

/-- With a port of the router the fix changes nothing. -/
theorem fixPlan_keeps_views_twoRouters :
    EntriesFollow (twoRouters "GigabitEthernet0/0")
      (fixPlan routerCatalog (fun _ _ => ([], [])) (twoRouters "GigabitEthernet0/0")).1 :=
  ((fixPlan_keeps_views_iff routerCatalog (fun _ _ => ([], [])) (twoRouters "GigabitEthernet0/0")
    (by decide) (by decide)).mpr fun entry hentry => Or.inl (by
      revert entry
      decide)).2.2.1

/-- The link moves off an abbreviated port, and the address stays behind. -/
theorem fixPlan_abbreviated_port :
    (twoRouters "Gig0/0").NoSharedPort ∧ (twoRouters "Gig0/0").EntriesNamed ∧
      ¬(fixPlan routerCatalog (fun _ _ => ([], [])) (twoRouters "Gig0/0")).1.EntriesNamed := by
  decide

end AutoFixer

end PacketTracer
