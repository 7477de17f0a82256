import PacketTracer.Domain.DependencyOrder
import PacketTracer.Domain.IpamPlanner
import PacketTracer.Library.PyStr

/-!
# The DHCP pools of a configuration plan

`_dhcp_actions` of `configuration_compiler.py`: every segment with endpoints that wait for a lease
gets a pool on the DHCP server of its site, under a name made of the site and the role of the
segment.  `CompiledFrom` says which configuration plans the compiler makes of these pools.
-/

namespace PacketTracer

open Dicts Ipaddress PyText

/-- `SegmentRole`. -/
inductive SegmentRole
  | data
  | voice
  | cctv
  | printers
  | servers
  | management
  | guest
  | wirelessCorporate
  | wan
  | transit
  deriving DecidableEq

def SegmentRole.value : SegmentRole → String
  | data => "data"
  | voice => "voice"
  | cctv => "cctv"
  | printers => "printers"
  | servers => "servers"
  | management => "management"
  | guest => "guest"
  | wirelessCorporate => "wireless_corporate"
  | wan => "wan"
  | transit => "transit"

/-- The text of a role in upper case. -/
def SegmentRole.upperText (role : SegmentRole) : List Char := role.value.toList.map Char.toUpper

/-- The fields of `NetworkSegment` that the pools are named after. -/
structure SiteSegment extends NetworkSegment where
  role : SegmentRole
  site : String
  deriving DecidableEq

/-- `str.upper`: every character on its own, and the ASCII characters as usual. -/
structure Uppercase where
  char : Char → List Char
  ascii : ∀ c, c.toNat < 128 → char c = [c.toUpper]

/-- The text in upper case. -/
def Uppercase.text (upper : Uppercase) (s : List Char) : List Char := s.flatMap upper.char

/-- `str.upper` of ASCII texts. -/
def asciiUppercase : Uppercase where
  char c := [c.toUpper]
  ascii := fun _ _ => rfl

lemma Uppercase.text_append (upper : Uppercase) (s t : List Char) :
    upper.text (s ++ t) = upper.text s ++ upper.text t :=
  List.flatMap_append

lemma Uppercase.text_role (upper : Uppercase) (role : SegmentRole) :
    upper.text ('_' :: role.value.toList) = '_' :: role.upperText := by
  have hascii : ∀ c ∈ '_' :: role.value.toList, c.toNat < 128 := by
    cases role <;> decide
  have hall : ∀ s : List Char, (∀ c ∈ s, c.toNat < 128) → upper.text s = s.map Char.toUpper := by
    intro s hs
    induction s with
    | nil => rfl
    | cons c s ih =>
      rw [text, List.flatMap_cons, upper.ascii c (hs c List.mem_cons_self), List.map_cons,
        ← ih fun d hd => hs d (List.mem_cons_of_mem c hd)]
      rfl
  rw [hall _ hascii]
  rfl

/-! ## Pools -/

/-- `ConfigurationCompiler`, with what it takes from Python: `digest` is the start of the
hexadecimal SHA-256 digest of a text. -/
structure ConfigurationCompiler where
  digest : String → String
  upper : Uppercase

/-- What `_dhcp_actions` reads; `pending` are the names of the segments of the endpoints that wait
for a lease. -/
structure DhcpRequest where
  devices : Dict String Plans.DevicePlan
  siteSegments : Dict (String × SegmentRole) SiteSegment
  allocations : Dict String SubnetAllocation
  pending : List String
  staticBySegment : Dict String (List String) := .empty
  gatewayActions : Dict String String := .empty
  gatewayDevices : Dict String Plans.DevicePlan := .empty
  dhcpServerDeviceIds : Dict String String := .empty
  dnsServer : Option String := none

/-- The issues that `_dhcp_actions` reports. -/
inductive DhcpIssue
  | serverMissing (segment : String)
  | addressSpaceExhausted (segment : String)
  deriving DecidableEq

/-- The code of an issue. -/
def DhcpIssue.code : DhcpIssue → String
  | serverMissing _ => "DHCP_SERVER_MISSING"
  | addressSpaceExhausted _ => "ADDRESS_SPACE_EXHAUSTED"

/-- The message of an issue. -/
def DhcpIssue.message : DhcpIssue → String
  | serverMissing segment => s!"No DHCP server device exists for segment {segment}."
  | addressSpaceExhausted segment => s!"DHCP segment {segment} has no dynamic address left."

/-- What a segment comes to: nothing, an issue, or its pool. -/
inductive DhcpOutcome
  | skipped
  | issue (issue : DhcpIssue)
  | pool (action : ConfigurationAction)
  deriving DecidableEq

/-- The pool of an outcome. -/
def DhcpOutcome.pool? : DhcpOutcome → Option ConfigurationAction
  | pool action => some action
  | _ => none

/-- The text of an address given by its number. -/
def addressText (n : ℕ) : String := Ipaddress.text (Fin.ofNat (2 ^ 32) n)

/-- The loop of `_collapse_ranges`, with the range that is open. -/
def collapseFrom (start previous : ℕ) : List ℕ → List (ℕ × ℕ)
  | [] => [(start, previous)]
  | value :: rest =>
    if value = previous + 1 then collapseFrom start value rest
    else (start, previous) :: collapseFrom value value rest

/-- `_collapse_ranges`. -/
def collapseRanges : List ℕ → List (ℕ × ℕ)
  | [] => []
  | value :: rest => collapseFrom value value rest

namespace ConfigurationCompiler

variable (compiler : ConfigurationCompiler)

/-- `_action_id`. -/
def actionId (kind : String) (parts : List String) : String :=
  "cfg/" ++ kind ++ "/" ++ compiler.digest (String.intercalate "|" (kind :: parts))

/-- The characters of `pool_name`. -/
def poolText (segment : SiteSegment) : List Char :=
  compiler.upper.text (segment.site.toList ++ '_' :: segment.role.value.toList)

/-- `server`: the configured one of the site, or else its gateway. -/
def dhcpServer (request : DhcpRequest) (site : String) : Option Plans.DevicePlan :=
  match request.dhcpServerDeviceIds.get? site with
  | some serverId =>
    if serverId ≠ "" then request.devices.get? serverId else request.gatewayDevices.get? site
  | none => request.gatewayDevices.get? site

/-- The `ConfigureDhcpPool` action of a segment. -/
def poolAction (request : DhcpRequest) (segment : SiteSegment) (server : Plans.DevicePlan)
    (allocation : SubnetAllocation) (excluded : List (ℕ × ℕ)) (leaseStart leaseEnd : ℕ) :
    ConfigurationAction :=
  let dependency := (request.gatewayActions.get? segment.name).getD ""
  { id := compiler.actionId "dhcp" [server.semanticId, segment.name]
    phase := .services
    deviceId := server.semanticId
    deviceName := server.name
    siteId := segment.site
    dependsOn := if dependency ≠ "" then [dependency] else []
    requiredCapability := "supports_dhcp_server"
    detail := .configureDhcpPool (String.ofList (compiler.poolText segment)) segment.name
      allocation.network allocation.prefixLength allocation.netmask allocation.gateway
      request.dnsServer
      (excluded.map fun range =>
        { start := addressText range.1, stop := addressText range.2 })
      (addressText leaseStart) (addressText leaseEnd) }

/-- One iteration of `_dhcp_actions`; `none` is a `ValueError`. -/
def dhcpOutcome (request : DhcpRequest) (segment : SiteSegment) : Option DhcpOutcome :=
  match request.allocations.get? segment.name with
  | none => some .skipped
  | some allocation =>
    if segment.name ∉ request.pending then some .skipped
    else
      match dhcpServer request segment.site with
      | none => some (.issue (.serverMissing segment.name))
      | some server => do
        let network ← networkOf? allocation.network allocation.prefixLength
        let gateway ← parseIPv4 allocation.gateway.toList
        let statics ← ((request.staticBySegment.get? segment.name).getD []).mapM fun value =>
          parseIPv4 value.toList
        let excluded := collapseRanges
          (sortedBy id ((gateway :: statics).map Fin.val).dedup)
        let dynamic := network.hosts.filter fun host =>
          !excluded.any fun range => range.1 ≤ host && host ≤ range.2
        match dynamic with
        | [] => return .issue (.addressSpaceExhausted segment.name)
        | first :: _ =>
          return .pool (compiler.poolAction request segment server allocation excluded first
            (dynamic.getLastD first))

/-- The segments in the order of their names. -/
def sortedSegments (request : DhcpRequest) : List SiteSegment :=
  sortedBy (fun segment => segment.name) request.siteSegments.values

/-- `_dhcp_actions`: what the segments come to; `none` is a `ValueError`. -/
def dhcpActions (request : DhcpRequest) : Option (List (SiteSegment × DhcpOutcome)) :=
  (sortedSegments request).mapM fun segment =>
    (compiler.dhcpOutcome request segment).map fun outcome => (segment, outcome)

end ConfigurationCompiler

/-- The action is a `ConfigureDhcpPool`. -/
def ConfigurationAction.isDhcpPool (action : ConfigurationAction) : Bool :=
  match action.detail with
  | .configureDhcpPool .. => true
  | _ => false

/-- The configuration plans that `compile` makes of the pools: there was no issue, the pools were
put among actions of other kinds, and all were ordered. -/
structure CompiledFrom (compiler : ConfigurationCompiler) (request : DhcpRequest)
    (outcomes : List (SiteSegment × DhcpOutcome)) (configuration : ConfigurationPlan) : Prop where
  compiled : compiler.dhcpActions request = some outcomes
  faultless : ∀ entry ∈ outcomes, ∀ issue, entry.2 ≠ .issue issue
  ordered : ∃ before after, (∀ action ∈ before ++ after, action.isDhcpPool = false) ∧
    orderDependencyActions
        (before ++ outcomes.filterMap (fun entry => entry.2.pool?) ++ after) =
      .ok configuration.actions

section Compiled

variable {compiler : ConfigurationCompiler} {request : DhcpRequest}
  {outcomes : List (SiteSegment × DhcpOutcome)} {configuration : ConfigurationPlan}
  {action : ConfigurationAction}

/-- The pools of a compiled plan are those of the segments. -/
lemma CompiledFrom.mem_iff (h : CompiledFrom compiler request outcomes configuration)
    (hpool : action.isDhcpPool = true) :
    action ∈ configuration.actions ↔ ∃ segment, (segment, DhcpOutcome.pool action) ∈ outcomes := by
  obtain ⟨before, after, hother, hordered⟩ := h.ordered
  have hnot : action ∉ before ∧ action ∉ after := by
    constructor <;> intro hmem
    · rw [hother action (List.mem_append_left _ hmem)] at hpool
      cases hpool
    · rw [hother action (List.mem_append_right _ hmem)] at hpool
      cases hpool
  rw [(spec_orderDependencyActions hordered).1.mem_iff, List.append_assoc, List.mem_append,
    List.mem_append, List.mem_filterMap]
  constructor
  · rintro (hmem | ⟨⟨segment, outcome⟩, hmem, houtcome⟩ | hmem)
    · exact absurd hmem hnot.1
    · cases outcome with
      | pool other => exact ⟨segment, by rwa [← Option.some.inj houtcome]⟩
      | skipped | issue issue => cases houtcome
    · exact absurd hmem hnot.2
  · rintro ⟨segment, hmem⟩
    exact Or.inr (Or.inl ⟨_, hmem, rfl⟩)

lemma CompiledFrom.eq_of_id_eq (h : CompiledFrom compiler request outcomes configuration)
    {a b : ConfigurationAction} (ha : a ∈ configuration.actions) (hb : b ∈ configuration.actions)
    (hid : a.id = b.id) : a = b := by
  obtain ⟨before, after, -, hordered⟩ := h.ordered
  have hnodup := (nodup_and_closed_of_orderDependencyActions hordered).1
  have hperm := ((spec_orderDependencyActions hordered).1.map DependencyAction.id).nodup_iff.mpr
    hnodup
  exact List.inj_on_of_nodup_map hperm ha hb hid

/-- **What a pool is made of**: the addresses of the segment can be read, and a host is left. -/
lemma ConfigurationCompiler.exists_of_dhcpOutcome {segment : SiteSegment}
    (h : compiler.dhcpOutcome request segment = some (.pool action)) :
    ∃ allocation server network gateway statics first dynamic,
      request.allocations.get? segment.name = some allocation ∧
      networkOf? allocation.network allocation.prefixLength = some network ∧
      parseIPv4 allocation.gateway.toList = some gateway ∧
      (((request.staticBySegment.get? segment.name).getD []).mapM fun value =>
        parseIPv4 value.toList) = some statics ∧
      (network.hosts.filter fun host =>
        !(collapseRanges (sortedBy id ((gateway :: statics).map Fin.val).dedup)).any fun range =>
          range.1 ≤ host && host ≤ range.2) = first :: dynamic ∧
      action = compiler.poolAction request segment server allocation
        (collapseRanges (sortedBy id ((gateway :: statics).map Fin.val).dedup)) first
        ((first :: dynamic).getLastD first) := by
  unfold dhcpOutcome at h
  rcases hallocation : request.allocations.get? segment.name with _ | allocation
  · simp [hallocation] at h
  by_cases hpending : segment.name ∉ request.pending
  · simp [hallocation, hpending] at h
  simp only [hallocation, if_neg hpending] at h
  rcases hserver : dhcpServer request segment.site with _ | server
  · simp [hserver] at h
  simp only [hserver] at h
  obtain ⟨network, hnetwork, h⟩ := Option.bind_eq_some_iff.mp h
  obtain ⟨gateway, hgateway, h⟩ := Option.bind_eq_some_iff.mp h
  obtain ⟨statics, hstatics, h⟩ := Option.bind_eq_some_iff.mp h
  split at h
  · cases h
  · next first dynamic hdynamic =>
    refine ⟨allocation, server, network, gateway, statics, first, dynamic, rfl, hnetwork, hgateway,
      hstatics, hdynamic, ?_⟩
    rw [← hdynamic]
    exact (DhcpOutcome.pool.inj (Option.some.inj h)).symm

lemma CompiledFrom.dhcpOutcome_of_mem (h : CompiledFrom compiler request outcomes configuration)
    {segment : SiteSegment} {outcome : DhcpOutcome} (hmem : (segment, outcome) ∈ outcomes) :
    segment ∈ request.siteSegments.values ∧
      compiler.dhcpOutcome request segment = some outcome := by
  obtain ⟨segment', hsorted, hsegment⟩ := (Fallible.mapM_eq_some h.compiled).2 _ hmem
  obtain ⟨outcome', houtcome, hpair⟩ := Option.map_eq_some_iff.mp hsegment
  obtain ⟨rfl, rfl⟩ := Prod.mk.inj hpair
  exact ⟨mem_sortedBy.mp hsorted, houtcome⟩

/-- A pool is named after the segment that it was made for. -/
lemma CompiledFrom.detail_of_mem (h : CompiledFrom compiler request outcomes configuration)
    {segment : SiteSegment} (hmem : (segment, DhcpOutcome.pool action) ∈ outcomes) :
    ∃ segmentId network prefixLength netmask gateway dnsServer excluded leaseStart leaseEnd,
      action.detail = .configureDhcpPool (String.ofList (compiler.poolText segment)) segmentId
        network prefixLength netmask gateway dnsServer excluded leaseStart leaseEnd := by
  obtain ⟨allocation, server, -, -, -, first, -, -, -, -, -, -, rfl⟩ :=
    ConfigurationCompiler.exists_of_dhcpOutcome (h.dhcpOutcome_of_mem hmem).2
  exact ⟨_, _, _, _, _, _, _, _, _, rfl⟩

end Compiled

end PacketTracer
