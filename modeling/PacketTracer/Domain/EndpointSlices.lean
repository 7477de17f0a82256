import Mathlib

/-!
# The slices of the endpoint groups

`hardware_planner.py`, `_slices`, and the part of `capacity_planner.py` that counts the pairs.  A
PC behind a phone takes no port of its own, so the pairs of a zone get one slice and the other
slices stand for what is left.

Each group subtracts its pairs from every PC and phone requirement that it has, and it reads them
off the first of either kind.  `conserved_iff` says when the slices still stand for all endpoints.
-/

namespace PacketTracer

namespace HardwarePlanner

/-! ## Requirements -/

/-- `DeviceRole`. -/
inductive DeviceRole
  | userPc | laptop | ipPhone | printer | ipCamera | webcam | smokeDetector | motionDetector
  | humitureMonitor | temperatureMonitor | accessPoint | server | webServer | dnsServer
  | dhcpServer | ntpServer | tftpServer | nvr | accessSwitch | distributionSwitch | coreSwitch
  | wanRouter | edgeRouter | firewall
  deriving DecidableEq

/-- The text of a role. -/
def DeviceRole.value : DeviceRole → String
  | .userPc => "user_pc"
  | .laptop => "laptop"
  | .ipPhone => "ip_phone"
  | .printer => "printer"
  | .ipCamera => "ip_camera"
  | .webcam => "webcam"
  | .smokeDetector => "smoke_detector"
  | .motionDetector => "motion_detector"
  | .humitureMonitor => "humiture_monitor"
  | .temperatureMonitor => "temperature_monitor"
  | .accessPoint => "access_point"
  | .server => "server"
  | .webServer => "web_server"
  | .dnsServer => "dns_server"
  | .dhcpServer => "dhcp_server"
  | .ntpServer => "ntp_server"
  | .tftpServer => "tftp_server"
  | .nvr => "nvr"
  | .accessSwitch => "access_switch"
  | .distributionSwitch => "distribution_switch"
  | .coreSwitch => "core_switch"
  | .wanRouter => "wan_router"
  | .edgeRouter => "edge_router"
  | .firewall => "firewall"

/-- `EndpointRequirement`.  The validator admits positive counts only. -/
structure EndpointRequirement where
  role : DeviceRole
  count : ℕ
  requiresPoe : Bool := false
  wired : Bool := true
  wireless : Bool := false

/-- `EndpointGroup`. -/
structure EndpointGroup where
  name : String
  requirements : List EndpointRequirement := []

/-- `ZonePlan`. -/
structure ZonePlan where
  zoneId : String
  endpointGroups : List EndpointGroup := []

/-- `_INFRASTRUCTURE_ROLES`. -/
def infrastructureRoles : List DeviceRole :=
  [.accessSwitch, .distributionSwitch, .coreSwitch, .wanRouter, .edgeRouter, .firewall]

/-- The requirement is for endpoints that are connected by wire. -/
def EndpointRequirement.isWired (requirement : EndpointRequirement) : Bool :=
  requirement.role ∉ infrastructureRoles && requirement.wired && !requirement.wireless

/-- The two roles that share a port. -/
def pairedRoles : List DeviceRole := [.userPc, .ipPhone]

/-- The wired endpoints whose role satisfies `p`: `wired_total`, `wired_pcs`, `wired_phones`. -/
def wiredEndpoints (p : DeviceRole → Bool) (requirements : List EndpointRequirement) : ℕ :=
  ((requirements.filter fun item => item.isWired && p item.role).map (·.count)).sum

/-- All requirements of a zone. -/
def ZonePlan.requirements (zone : ZonePlan) : List EndpointRequirement :=
  zone.endpointGroups.flatMap (·.requirements)

/-- `pc_phone_pairs`. -/
def pcPhonePairs (pairPcWithIpPhone : Bool) (zone : ZonePlan) : ℕ :=
  if pairPcWithIpPhone then
    min (wiredEndpoints (· = .userPc) zone.requirements)
      (wiredEndpoints (· = .ipPhone) zone.requirements)
  else 0

/-! ## Slices -/

/-- `EndpointGroupSlice`. -/
structure EndpointGroupSlice where
  groupId : String
  roles : List DeviceRole
  startIndex : ℕ
  count : ℕ
  requiresPoe : Bool := false

/-- The count of the first wired requirement of a role. -/
def firstCount (role : DeviceRole) (group : EndpointGroup) : ℕ :=
  ((group.requirements.find? fun item => item.role = role && item.wired && !item.wireless).map
    (·.count)).getD 0

/-- The pairs that a group offers. -/
def EndpointGroup.pairs (group : EndpointGroup) : ℕ :=
  min (firstCount .userPc group) (firstCount .ipPhone group)

/-- The body of the inner loop. -/
def sliceOf (zoneId name : String) (pairedHere : ℕ) (requirement : EndpointRequirement) :
    Option EndpointGroupSlice :=
  if !requirement.isWired then none
  else
    let shortened := if requirement.role ∈ pairedRoles then pairedHere else 0
    if requirement.count - shortened = 0 then none
    else some
      { groupId := s!"{zoneId}:{name}:{requirement.role.value}"
        roles := [requirement.role]
        startIndex := shortened + 1
        count := requirement.count - shortened
        requiresPoe := requirement.requiresPoe }

/-- The loop over the groups. -/
def directSlices (zoneId : String) : ℕ → List EndpointGroup → List EndpointGroupSlice
  | _, [] => []
  | remainingPairs, group :: groups =>
    let pairedHere := min group.pairs remainingPairs
    group.requirements.filterMap (sliceOf zoneId group.name pairedHere) ++
      directSlices zoneId (remainingPairs - pairedHere) groups

/-- `_slices`. -/
def slices (zone : Option ZonePlan) (pairCount : ℕ) : List EndpointGroupSlice :=
  match zone with
  | none => []
  | some zone =>
    let direct := directSlices zone.zoneId pairCount zone.endpointGroups
    (if pairCount = 0 then []
      else
        [{ groupId := s!"{zone.zoneId}:pc-phone"
           roles := pairedRoles
           startIndex := 1
           count := pairCount
           requiresPoe := true }]) ++
      direct.filter (·.requiresPoe) ++ direct.filter (!·.requiresPoe)

/-- The endpoints with a role that satisfies `p` for which slices stand.  A slice of pairs stands
for an endpoint of either role with each port. -/
def endpoints (p : DeviceRole → Bool) (slices : List EndpointGroupSlice) : ℕ :=
  (slices.map fun slice => slice.roles.countP p * slice.count).sum

/-- **Conservation.**  Whichever roles are counted, the slices of a zone stand for as many endpoints
as the zone has.  Over all roles this is the sum of the ports and of the paired endpoints. -/
def Conserved (pairPcWithIpPhone : Bool) (zone : ZonePlan) : Prop :=
  ∀ p, endpoints p (slices (some zone) (pcPhonePairs pairPcWithIpPhone zone)) =
    wiredEndpoints p zone.requirements

/-- The counts of the wired requirements of a role, each cut at a limit. -/
def cutAt (role : DeviceRole) (limit : ℕ) (requirements : List EndpointRequirement) : ℕ :=
  ((requirements.filter fun item => item.isWired && item.role = role).map
    fun item => min item.count limit).sum

/-- The counts of a zone, each cut at the pairs that its group offers. -/
def cutCounts (role : DeviceRole) (zone : ZonePlan) : ℕ :=
  (zone.endpointGroups.map fun group => cutAt role group.pairs group.requirements).sum

variable {p : DeviceRole → Bool} {zone : ZonePlan} {pairPcWithIpPhone : Bool}

lemma endpoints_append (a b : List EndpointGroupSlice) :
    endpoints p (a ++ b) = endpoints p a + endpoints p b := by
  simp [endpoints]

lemma wiredEndpoints_append (a b : List EndpointRequirement) :
    wiredEndpoints p (a ++ b) = wiredEndpoints p a + wiredEndpoints p b := by
  simp [wiredEndpoints]

lemma endpoints_sliceOf (zoneId name : String) (limit : ℕ) (item : EndpointRequirement) :
    endpoints p ([item].filterMap (sliceOf zoneId name limit)) =
      if item.isWired && p item.role then
        item.count - (if item.role ∈ pairedRoles then limit else 0) else 0 := by
  by_cases hwired : item.isWired
  · by_cases hcount : item.count - (if item.role ∈ pairedRoles then limit else 0) = 0
    · simp [sliceOf, hwired, hcount, endpoints]
    · cases hp : p item.role <;> simp [sliceOf, hwired, hcount, endpoints, hp]
  · simp [sliceOf, hwired, endpoints]

/-- The slices of a group and what was cut from its PCs and phones make up its endpoints. -/
lemma endpoints_filterMap_sliceOf (zoneId name : String) (limit : ℕ)
    (requirements : List EndpointRequirement) :
    endpoints p (requirements.filterMap (sliceOf zoneId name limit)) +
        ((p .userPc).toNat * cutAt .userPc limit requirements +
          (p .ipPhone).toNat * cutAt .ipPhone limit requirements) =
      wiredEndpoints p requirements := by
  induction requirements with
  | nil => simp [endpoints, cutAt, wiredEndpoints]
  | cons item items ih =>
    have hsplit : item :: items = [item] ++ items := rfl
    have hone : endpoints p ([item].filterMap (sliceOf zoneId name limit)) +
        ((p .userPc).toNat * cutAt .userPc limit [item] +
          (p .ipPhone).toNat * cutAt .ipPhone limit [item]) = wiredEndpoints p [item] := by
      rw [endpoints_sliceOf]
      cases hwired : item.isWired with
      | false => simp [hwired, cutAt, wiredEndpoints]
      | true =>
        have hcut := Nat.sub_add_min_cancel item.count limit
        by_cases hpc : item.role = .userPc
        · cases hp : p .userPc <;> simp [cutAt, wiredEndpoints, hwired, hpc, hp, pairedRoles, hcut]
        by_cases hphone : item.role = .ipPhone
        · cases hp : p .ipPhone <;>
            simp [cutAt, wiredEndpoints, hwired, hphone, hp, pairedRoles, hcut]
        · cases hp : p item.role <;>
            simp [cutAt, wiredEndpoints, hwired, hphone, hpc, hp, pairedRoles]
    rw [hsplit, List.filterMap_append, endpoints_append, wiredEndpoints_append, ← hone, ← ih]
    simp only [cutAt, List.filter_append, List.map_append, List.sum_append]
    ring

lemma directSlices_zero (zoneId : String) (groups : List EndpointGroup) :
    directSlices zoneId 0 groups =
      groups.flatMap fun group => group.requirements.filterMap (sliceOf zoneId group.name 0) := by
  induction groups with
  | nil => rfl
  | cons group groups ih => simp [directSlices, ih]

/-- As long as the pairs last, every group takes all that it offers. -/
lemma directSlices_of_le (zoneId : String) {groups : List EndpointGroup} {remainingPairs : ℕ}
    (h : (groups.map EndpointGroup.pairs).sum ≤ remainingPairs) :
    directSlices zoneId remainingPairs groups =
      groups.flatMap fun group =>
        group.requirements.filterMap (sliceOf zoneId group.name group.pairs) := by
  induction groups generalizing remainingPairs with
  | nil => rfl
  | cons group groups ih =>
    rw [List.map_cons, List.sum_cons] at h
    have hle : group.pairs ≤ remainingPairs := by omega
    simp only [directSlices, Nat.min_eq_left hle, List.flatMap_cons]
    rw [ih (by omega)]

lemma endpoints_flatMap (zoneId : String) (limit : EndpointGroup → ℕ)
    (groups : List EndpointGroup) :
    endpoints p (groups.flatMap fun group =>
          group.requirements.filterMap (sliceOf zoneId group.name (limit group))) +
        ((p .userPc).toNat * (groups.map fun group =>
            cutAt .userPc (limit group) group.requirements).sum +
          (p .ipPhone).toNat * (groups.map fun group =>
            cutAt .ipPhone (limit group) group.requirements).sum) =
      wiredEndpoints p (groups.flatMap (·.requirements)) := by
  induction groups with
  | nil => simp [endpoints, wiredEndpoints]
  | cons group groups ih =>
    simp only [List.flatMap_cons, List.map_cons, List.sum_cons, endpoints_append,
      wiredEndpoints_append]
    rw [← ih, ← endpoints_filterMap_sliceOf zoneId group.name (limit group)]
    ring

/-- The slice of the pairs stands for a PC and a phone with each port. -/
lemma endpoints_slices (pairCount : ℕ) :
    endpoints p (slices (some zone) pairCount) =
      (p .userPc).toNat * pairCount + (p .ipPhone).toNat * pairCount +
        endpoints p (directSlices zone.zoneId pairCount zone.endpointGroups) := by
  have hperm := List.filter_append_perm (·.requiresPoe)
    (directSlices zone.zoneId pairCount zone.endpointGroups)
  have hdirect := (hperm.map fun slice => slice.roles.countP p * slice.count).sum_eq
  rw [List.map_append, List.sum_append] at hdirect
  rw [slices, endpoints_append, endpoints_append, Nat.add_assoc]
  congr 1
  by_cases hzero : pairCount = 0
  · simp [hzero, endpoints]
  · simp [hzero, endpoints, pairedRoles, List.countP_cons, List.countP_nil]
    cases p .userPc <;> cases p .ipPhone <;> simp
    ring

lemma firstCount_le {role : DeviceRole} (hrole : role ∈ pairedRoles) (group : EndpointGroup) :
    firstCount role group ≤ wiredEndpoints (· = role) group.requirements := by
  have hhost : role ∉ infrastructureRoles := by
    rcases List.mem_pair.mp hrole with rfl | rfl <;> decide
  unfold firstCount
  cases hfind : group.requirements.find? fun item =>
      item.role = role && item.wired && !item.wireless with
  | none => simp
  | some item =>
    have hitem := List.find?_some hfind
    simp only [Bool.and_eq_true, decide_eq_true_eq] at hitem
    refine List.le_sum_of_mem (List.mem_map_of_mem (List.mem_filter.mpr
      ⟨List.mem_of_find?_eq_some hfind, ?_⟩))
    simp [EndpointRequirement.isWired, hitem, hhost]

lemma sum_pairs_le {role : DeviceRole} (hrole : role ∈ pairedRoles) (groups : List EndpointGroup) :
    (groups.map EndpointGroup.pairs).sum ≤
      wiredEndpoints (· = role) (groups.flatMap (·.requirements)) := by
  induction groups with
  | nil => simp
  | cons group groups ih =>
    rw [List.map_cons, List.sum_cons, List.flatMap_cons, wiredEndpoints_append]
    refine Nat.add_le_add (le_trans ?_ (firstCount_le hrole group)) ih
    rcases List.mem_pair.mp hrole with rfl | rfl
    · exact Nat.min_le_left _ _
    · exact Nat.min_le_right _ _

/-- **When the slices conserve the endpoints.**  Without pairing they always do.  With it they do
exactly when, for PCs and for phones, the counts that the groups cut add up to the pairs. -/
theorem conserved_iff :
    Conserved pairPcWithIpPhone zone ↔ (pairPcWithIpPhone = true →
      ∀ role ∈ pairedRoles, cutCounts role zone = pcPhonePairs true zone) := by
  simp only [Conserved, endpoints_slices, ZonePlan.requirements]
  have htotal := fun p limit =>
    endpoints_flatMap (p := p) zone.zoneId limit zone.endpointGroups
  cases pairPcWithIpPhone with
  | false =>
    have hzero : pcPhonePairs false zone = 0 := rfl
    refine iff_of_true (fun p => ?_) (by simp)
    rw [hzero, directSlices_zero]
    simpa [cutAt] using htotal p fun _ => 0
  | true =>
    have hlast : (zone.endpointGroups.map EndpointGroup.pairs).sum ≤ pcPhonePairs true zone :=
      le_min (sum_pairs_le (by decide) _) (sum_pairs_le (by decide) _)
    rw [directSlices_of_le zone.zoneId hlast]
    constructor
    · rintro h - role hrole
      have hrole' := (h (· = role)).trans (htotal (· = role) EndpointGroup.pairs).symm
      unfold cutCounts
      rcases List.mem_pair.mp hrole with rfl | rfl
      · simp at hrole'
        omega
      · simp at hrole'
        omega
    · intro h p
      have hpc := h rfl .userPc (by decide)
      have hphone := h rfl .ipPhone (by decide)
      rw [← htotal p EndpointGroup.pairs, ← cutCounts, ← cutCounts, hpc, hphone, Nat.add_comm]

/-- Two requirements for one PC each, in a group with one phone. -/
def twoPcRequirements : ZonePlan :=
  { zoneId := "zone"
    endpointGroups := [{ name := "desks", requirements :=
      [{ role := .userPc, count := 1 }, { role := .userPc, count := 1 },
        { role := .ipPhone, count := 1, requiresPoe := true }] }] }

/-- Both PCs are taken for the one that shares the port of the phone. -/
theorem not_conserved_twoPcRequirements : ¬Conserved true twoPcRequirements := by
  intro h
  exact absurd (h (· = .userPc)) (by decide)

end HardwarePlanner

end PacketTracer
