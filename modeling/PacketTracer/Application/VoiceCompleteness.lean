import PacketTracer.Application.VoiceCorrelation
import PacketTracer.Library.Counting
import PacketTracer.Library.Guards

/-!
# Complete voice evidence

Complete evidence finds for every planned phone its one registration, its lease in the one readable
pool of its segment, and a forwarding result of its own access port.  Where the phones of a segment
hold pairwise distinct addresses, the bindings of the segment are exactly these addresses.
-/

namespace PacketTracer

namespace VoiceEvidence

open Dicts PyText PyValues Voice

/-! ## Verified interfaces -/

/-- The result of a member verified that its port forwards the voice traffic. -/
def Forwarding (result : ConfigurationApplicationResult) (member : VoiceMember) : Prop :=
  ∃ item, (observedConvergence result).get? member.expectation.id = some item ∧
    item.status = .verified ∧ item.fields.get? "voice_forwarding" = some .verified

section Groups

variable {plan : ConfigurationPlan} {result : ConfigurationApplicationResult} {switch : String}
  {voiceVlanId : ℤ} {members : List VoiceMember} {details : ConvergenceDetails}
  {results : List (Option VerificationResult)} {structured : List ConvergenceDetails}

lemma structuredConsistent_spec
    (h : structuredConsistent switch voiceVlanId members results structured details = true) :
    (∀ item ∈ members.zip results,
      memberConsistent details (detailedClassification details) item.1 item.2 = true) ∧
    ∀ interface ∈ (detailedClassification details).verified,
      interface ∈ members.map VoiceMember.interface := by
  simp only [structuredConsistent, Bool.and_eq_true, decide_eq_true_eq, List.all_eq_true] at h
  obtain ⟨⟨⟨⟨⟨⟨⟨-, -⟩, hmembers⟩, -⟩, -⟩, -⟩, hinterfaces⟩, -⟩ := h
  refine ⟨hmembers, fun interface hinterface => ?_⟩
  have hmem : interface ∈ sortedBy id (detailedClassification details).interfaces := by
    rw [mem_sortedBy, DetailedClassification.interfaces, List.append_assoc]
    exact List.mem_append_left _ hinterface
  rwa [hinterfaces, mem_sortedBy] at hmem

/-- A verified interface of consistent evidence has a member whose result verified. -/
lemma exists_member_of_consistent (observed : Dict String VerificationResult)
    (h : structuredConsistent switch voiceVlanId members
      (members.map fun member => observed.get? member.expectation.id) structured details = true)
    {interface : String} (hinterface : interface ∈ (detailedClassification details).verified) :
    ∃ member ∈ members, member.interface = interface ∧
      ∃ item, observed.get? member.expectation.id = some item ∧ item.status = .verified ∧
        item.fields.get? "voice_forwarding" = some .verified := by
  obtain ⟨hmembers, hverified⟩ := structuredConsistent_spec h
  obtain ⟨member, hmember, rfl⟩ := List.mem_map.mp (hverified interface hinterface)
  have hzip : (member, observed.get? member.expectation.id) ∈
      members.zip (members.map fun member => observed.get? member.expectation.id) := by
    have hmap : members.zip (members.map fun member => observed.get? member.expectation.id) =
        members.map fun member => (member, observed.get? member.expectation.id) := by
      simpa using List.zip_map' (f := id) (g := fun member : VoiceMember =>
        observed.get? member.expectation.id) (l := members)
    rw [hmap]
    exact List.mem_map.mpr ⟨member, hmember, rfl⟩
  have hconsistent := hmembers _ hzip
  rcases hitem : observed.get? member.expectation.id with _ | item
  · simp [memberConsistent, hitem] at hconsistent
  simp only [memberConsistent, hitem, Bool.and_eq_true, beq_iff_eq] at hconsistent
  have hboth := hconsistent.2
  rw [decide_eq_true hinterface, eq_comm, decide_eq_true_eq] at hboth
  exact ⟨member, hmember, rfl, item, hitem, hboth⟩

lemma gateNegative_kept (group : CPScaleVoiceAccessGroupEvidence) :
    (gateNegative group).switch = group.switch ∧
      (gateNegative group).voiceVlanId = group.voiceVlanId ∧
      (gateNegative group).verifiedFwdInterfaces = group.verifiedFwdInterfaces := by
  unfold gateNegative
  split_ifs with h
  · exact ⟨rfl, rfl, rfl⟩
  · exact ⟨rfl, rfl, rfl⟩

/-- A verified interface of a group is that of a member whose own result verified. -/
lemma exists_member_of_groupEvidence (observed : Dict String VerificationResult)
    {interface : String}
    (h : interface ∈ (groupEvidence observed switch voiceVlanId members).verifiedFwdInterfaces) :
    ∃ member ∈ members, member.interface = interface ∧
      ∃ item, observed.get? member.expectation.id = some item ∧ item.status = .verified ∧
        item.fields.get? "voice_forwarding" = some .verified := by
  simp only [groupEvidence, (gateNegative_kept _).2.2] at h
  by_cases hconsistent : structuredConsistent switch voiceVlanId members
      (members.map fun member => observed.get? member.expectation.id)
      ((members.map fun member => observed.get? member.expectation.id).filterMap groupDetails)
      (((members.map fun member => observed.get? member.expectation.id).filterMap
        groupDetails).headD {}) = true
  · rw [if_pos hconsistent] at h
    exact exists_member_of_consistent observed hconsistent h
  · rw [if_neg hconsistent] at h
    simp [inconsistentGroup] at h

/-- A verified port of the groups is that of a voice member with a result that verified. -/
lemma exists_member_of_group {group : CPScaleVoiceAccessGroupEvidence}
    (hgroup : group ∈ canonicalVoiceAccessGroups plan result) {interface : String}
    (hinterface : interface ∈ group.verifiedFwdInterfaces) :
    ∃ member ∈ voiceMembers plan, member.switch = group.switch ∧
      member.voiceVlanId = group.voiceVlanId ∧ member.interface = interface ∧
      Forwarding result member := by
  obtain ⟨⟨switch, voiceVlanId⟩, -, rfl⟩ := List.mem_map.mp hgroup
  obtain ⟨member, hmember, hsame, hforwarding⟩ :=
    exists_member_of_groupEvidence (observedConvergence result) hinterface
  obtain ⟨hmember, hkey⟩ := List.mem_filter.mp hmember
  have hkey' := Prod.ext_iff.mp (of_decide_eq_true hkey)
  refine ⟨member, hmember, ?_, ?_, hsame, hforwarding⟩
  · rw [groupEvidence, (gateNegative_kept _).1]
    split_ifs <;> exact hkey'.1
  · rw [groupEvidence, (gateNegative_kept _).2.1]
    split_ifs <;> exact hkey'.2

end Groups

/-! ## Identities -/

/-- Without identity errors every identifier was planned once and observed once. -/
lemma identityErrors_eq_nil_iff {subject : String} {expected observed : List String} :
    identityErrors subject expected observed = [] ↔
      ∀ identifier ∈ expected ++ observed,
        expected.count identifier = 1 ∧ observed.count identifier = 1 := by
  simp only [identityErrors, List.filterMap_eq_nil_iff, mem_sortedBy, List.mem_dedup]
  refine forall₂_congr fun identifier _ => ?_
  by_cases hexpected : expected.count identifier = 1
  · by_cases hobserved : observed.count identifier = 1
    · simp [hexpected, hobserved]
    · by_cases hzero : observed.count identifier = 0
      · simp [hexpected, hzero]
      · simp [hexpected, hobserved, hzero]
  · by_cases hzero : expected.count identifier = 0
    · simp [hzero]
    · by_cases hobserved : observed.count identifier = 0
      · simp [hexpected, hzero, hobserved]
      · simp [hexpected, hzero, hobserved]

/-- The one registration of a phone, and what it shows. -/
structure Registered (voiceResult : VoiceApplicationResult) (phoneId : String)
    (registration : PhoneRegistrationResult) : Prop where
  unique : (voiceResult.registrations.filter fun item => item.phoneId = phoneId) = [registration]
  verified : registration.status = .verified
  interfacePresent : registration.endpointInterfacePresent = true
  addressChannel : registration.endpointAddressChannel = true
  dhcpEnabled : registration.endpointDhcpEnabled = some true
  addressed : registration.endpointIpv4 ≠ ""

/-- A phone that is registered once is read back as its one registration. -/
lemma filter_registrations_eq_singleton {voiceResult : VoiceApplicationResult} {phoneId : String}
    (hcount : (voiceResult.registrations.map PhoneRegistrationResult.phoneId).count phoneId = 1)
    {registration : PhoneRegistrationResult}
    (hget : (registrationsByPhone voiceResult).get? phoneId = some registration) :
    (voiceResult.registrations.filter fun item => item.phoneId = phoneId) = [registration] := by
  have hmem : registration ∈ voiceResult.registrations.filter fun item => item.phoneId = phoneId := by
    obtain ⟨item, hitem, rfl, rfl⟩ := Dict.exists_of_get?_ofList hget
    exact List.mem_filter.mpr ⟨hitem, decide_eq_true rfl⟩
  have hlength : (voiceResult.registrations.filter fun item => item.phoneId = phoneId).length =
      1 := by
    rw [← List.countP_eq_length_filter, ← hcount, List.count_eq_countP, List.countP_map]
    rfl
  obtain ⟨only, honly⟩ := List.length_eq_one_iff.mp hlength
  rw [honly] at hmem ⊢
  rw [List.mem_singleton.mp hmem]

/-! ## What complete evidence says -/

/-- The address that the last registration of a phone shows. -/
def endpointAddress (voiceResult : VoiceApplicationResult) (assignment : Voice.PhoneAssignment) :
    String :=
  (((registrationsByPhone voiceResult).get? assignment.phoneId).map
    PhoneRegistrationResult.endpointIpv4).getD ""

/-- The bindings of the voice pools of a segment. -/
def poolBindings (dhcpServerBindings : List PyValue) (segment : String) : List String :=
  (segmentBindings (segmentPools dhcpServerBindings segment)).1

/-- The addresses of the phones of a segment. -/
def segmentAddresses (request : VoiceEvidenceRequest) (segment : String) : List String :=
  (request.voicePlan.phoneAssignments.filter fun assignment =>
    assignment.voiceSegmentId = segment).map (endpointAddress request.voiceResult)

/-- The port of a phone is a verified port of a group, its own result verified, and no group reports
it as failed or missing. -/
structure PortVerified (request : VoiceEvidenceRequest) (port : String × ℤ × String) : Prop where
  verified : ∃ group ∈ request.groups, group.switch = port.1 ∧ group.voiceVlanId = port.2.1 ∧
    port.2.2 ∈ group.verifiedFwdInterfaces
  member : ∃ member ∈ voiceMembers request.configurationPlan,
    (member.switch, member.voiceVlanId, member.interface) = port ∧
      Forwarding request.configurationResult member
  unfailed : ∀ group ∈ request.groups, group.switch = port.1 → group.voiceVlanId = port.2.1 →
    port.2.2 ∉ group.nonFwdInterfaces.keys ∧ port.2.2 ∉ group.missingInterfaces

/-- What complete evidence establishes. -/
structure Correlated (request : VoiceEvidenceRequest) : Prop where
  planned : request.voicePlan.phoneAssignments ≠ [] ∧
    (request.voicePlan.phoneAssignments.map Voice.PhoneAssignment.phoneId).Nodup
  /-- Every phone has its one registration, at an address that its segment leased. -/
  registered : ∀ assignment ∈ request.voicePlan.phoneAssignments, ∃ registration,
    Registered request.voiceResult assignment.phoneId registration ∧
      registration.endpointIpv4 ∈ poolBindings request.dhcpServerBindings assignment.voiceSegmentId
  /-- Every segment has one readable pool, whose server counted its bindings. -/
  pools : ∀ segment ∈ expectedSegments request.voicePlan, ∃ pool,
    segmentPools request.dhcpServerBindings segment = [pool] ∧
      pool.count = some (pool.addresses.length : ℤ)
  total : ((expectedSegments request.voicePlan).map fun segment =>
    (poolBindings request.dhcpServerBindings segment).length).sum =
      request.voicePlan.phoneAssignments.length
  /-- Distinct addresses are exactly the bindings of their segment. -/
  exact : (∀ segment ∈ expectedSegments request.voicePlan,
      (segmentAddresses request segment).Nodup) →
    ∀ segment ∈ expectedSegments request.voicePlan,
      (segmentAddresses request segment).Perm (poolBindings request.dhcpServerBindings segment)
  ports : ∀ assignment ∈ request.voicePlan.phoneAssignments,
    PortVerified request (portKey (accessActions request.configurationPlan) assignment)

section Complete

variable {request : VoiceEvidenceRequest}

/-- What the verdict compares before it reports complete evidence. -/
structure Compared (request : VoiceEvidenceRequest) : Prop where
  early : request.earlyBoundary = ""
  identities : registrationIdentityErrors request.voicePlan request.voiceResult = []
  complete : request.shared.bindings.complete = true
  total : request.shared.bindings.total = request.expected
  phones : ∀ assignment ∈ request.voicePlan.phoneAssignments,
    phoneBoundary request.shared assignment
      (phoneFinding request.shared assignment).endpointVerified
      (phoneFinding request.shared assignment).bindingState
      (phoneFinding request.shared assignment).sccpState = ""
  planned : request.voicePlan.phoneAssignments ≠ []

lemma earlyBoundary_ne_none : request.earlyBoundary ≠ "NONE" := by
  unfold VoiceEvidenceRequest.earlyBoundary
  split_ifs <;> decide

variable {assignment : Voice.PhoneAssignment} {voicePlan : Voice.VoicePlan}
  {dhcpServerBindings : List PyValue}

lemma boundary_of_failedPhone {stage : String}
    (h : failedPhone request.shared stage assignment = none) :
    (phoneFinding request.shared assignment).boundary = "" := by
  unfold failedPhone at h
  by_contra hboundary
  simp [hboundary] at h

/-- Complete evidence passed every comparison of the verdict. -/
lemma compared_of_complete (h : request.canonicalCpScaleVoiceEvidence.complete = true) :
    Compared request := by
  simp only [VoiceEvidenceRequest.canonicalCpScaleVoiceEvidence, Bool.and_eq_true,
    decide_eq_true_eq] at h
  obtain ⟨⟨hfirst, hfailed⟩, hexpected⟩ := h
  obtain ⟨hearly, hrest⟩ := Guards.passed hfirst earlyBoundary_ne_none
  obtain ⟨hidentities, hrest⟩ := Guards.passed hrest (by decide)
  obtain ⟨-, hrest⟩ := Guards.passed hrest (by decide)
  obtain ⟨hbindings, -⟩ := Guards.passed hrest (by decide)
  rw [not_or, not_or, not_not, Bool.not_eq_false] at hbindings
  rw [not_not] at hearly hidentities
  refine ⟨hearly, hidentities, hbindings.1, hbindings.2.1, fun assignment hassignment => ?_, ?_⟩
  · have hnone := List.filterMap_eq_nil_iff.mp (List.isEmpty_iff.mp hfailed) assignment hassignment
    have hboundary := boundary_of_failedPhone hnone
    have hshared : request.shared.earlyBoundary = "" := hearly
    simpa only [phoneFinding, hshared, ne_eq, not_true_eq_false, if_false] using hboundary
  · intro hnil
    simp [VoiceEvidenceRequest.expected, hnil] at hexpected

/-- A phone without a boundary passed every check of its round. -/
lemma phoneBoundary_eq_empty {shared : SharedEvidence} {endpointVerified : Bool}
    {bindingState sccpState : String}
    (h : phoneBoundary shared assignment endpointVerified bindingState sccpState = "") :
    let port := portKey shared.accessActions assignment
    (port ∉ failedPorts shared.groups ∧ port ∉ unobservablePorts shared.groups ∧
      port ∈ verifiedPorts shared.groups) ∧
    endpointVerified = true ∧ bindingState = "MATCHED" ∧ sccpState = "REGISTERED" := by
  obtain ⟨hfailed, hrest⟩ := Guards.passed h (by decide)
  obtain ⟨hverified, hrest⟩ := Guards.passed hrest (by decide)
  obtain ⟨hendpoint, hrest⟩ := Guards.passed hrest (by decide)
  obtain ⟨hbinding, hrest⟩ := Guards.passed hrest (by decide)
  obtain ⟨hsccp, -⟩ := Guards.passed hrest (by decide)
  rw [not_or] at hfailed
  rw [not_or, not_or, Bool.not_eq_false] at hendpoint
  exact ⟨⟨hfailed.1, hfailed.2, not_not.mp hverified⟩, hendpoint.2.2, not_not.mp hbinding,
    not_not.mp hsccp⟩

variable {port : String × ℤ × String} {segment : String}

lemma mem_groupPorts_iff {groups : List CPScaleVoiceAccessGroupEvidence}
    {interfaces : CPScaleVoiceAccessGroupEvidence → List String} :
    port ∈ groupPorts groups interfaces ↔ ∃ group ∈ groups, group.switch = port.1 ∧
      group.voiceVlanId = port.2.1 ∧ port.2.2 ∈ interfaces group := by
  obtain ⟨switch, voiceVlanId, interface⟩ := port
  simp only [groupPorts, List.mem_flatMap, List.mem_map, Prod.mk.injEq]
  constructor
  · rintro ⟨group, hgroup, interface', hmem, rfl, rfl, rfl⟩
    exact ⟨group, hgroup, rfl, rfl, hmem⟩
  · rintro ⟨group, hgroup, rfl, rfl, hmem⟩
    exact ⟨group, hgroup, interface, hmem, rfl, rfl, rfl⟩

lemma portVerified_of_ports (hfailed : port ∉ failedPorts request.groups)
    (hunobservable : port ∉ unobservablePorts request.groups)
    (hverified : port ∈ verifiedPorts request.groups) : PortVerified request port := by
  obtain ⟨group, hgroup, hswitch, hvlan, hinterface⟩ := mem_groupPorts_iff.mp hverified
  refine ⟨⟨group, hgroup, hswitch, hvlan, hinterface⟩, ?_, ?_⟩
  · obtain ⟨member, hmember, hswitch', hvlan', hinterface', hforwarding⟩ :=
      exists_member_of_group hgroup hinterface
    refine ⟨member, hmember, ?_, hforwarding⟩
    rw [hswitch', hvlan', hinterface', hswitch, hvlan]
  · intro group' hgroup' hswitch' hvlan'
    exact ⟨fun hmem => hfailed (mem_groupPorts_iff.mpr ⟨group', hgroup', hswitch', hvlan', hmem⟩),
      fun hmem => hunobservable (mem_groupPorts_iff.mpr ⟨group', hgroup', hswitch', hvlan', hmem⟩)⟩

lemma mem_expectedSegments (h : assignment ∈ voicePlan.phoneAssignments) :
    assignment.voiceSegmentId ∈ expectedSegments voicePlan := by
  rw [expectedSegments, mem_sortedBy, List.mem_dedup]
  exact List.mem_map_of_mem h

lemma get?_sets (h : segment ∈ expectedSegments voicePlan) :
    (voiceBindingSets voicePlan dhcpServerBindings).sets.get? segment =
      some (poolBindings dhcpServerBindings segment) := by
  have hkeys : (((expectedSegments voicePlan).map fun segment =>
      (segment, segmentBindings (segmentPools dhcpServerBindings segment))).map fun row =>
        (row.1, row.2.1)).map Prod.fst = expectedSegments voicePlan := by
    simp [Function.comp_def]
  refine Dict.get?_ofList_of_mem ?_ ?_
  · rw [hkeys, expectedSegments]
    exact (perm_sortedBy id _).nodup_iff.mpr (List.nodup_dedup _)
  · rw [List.mem_map]
    exact ⟨_, List.mem_map.mpr ⟨segment, h, rfl⟩, rfl⟩

lemma segmentBindings_isSome {pools : List VoicePool}
    (h : (segmentBindings pools).2.isSome = true) :
    ∃ pool, pools = [pool] ∧ pool.count = some (pool.addresses.length : ℤ) := by
  match pools with
  | [] => cases h
  | [pool] =>
    refine ⟨pool, rfl, ?_⟩
    by_contra hcount
    simp [segmentBindings, hcount] at h
  | _ :: _ :: _ => cases h

lemma pools_of_complete (h : (voiceBindingSets voicePlan dhcpServerBindings).complete = true)
    (hsegment : segment ∈ expectedSegments voicePlan) :
    ∃ pool, segmentPools dhcpServerBindings segment = [pool] ∧
      pool.count = some (pool.addresses.length : ℤ) := by
  refine segmentBindings_isSome ?_
  exact List.all_eq_true.mp h _ (List.mem_map.mpr ⟨segment, hsegment, rfl⟩)

lemma total_of_complete (h : (voiceBindingSets voicePlan dhcpServerBindings).complete = true) :
    (voiceBindingSets voicePlan dhcpServerBindings).total =
      ((expectedSegments voicePlan).map fun segment =>
        (poolBindings dhcpServerBindings segment).length).sum := by
  have hrow : ∀ segment ∈ expectedSegments voicePlan,
      (segmentBindings (segmentPools dhcpServerBindings segment)).2.getD 0 =
        ((poolBindings dhcpServerBindings segment).length : ℤ) := by
    intro segment hsegment
    obtain ⟨pool, hpools, hcount⟩ := pools_of_complete h hsegment
    simp [poolBindings, hpools, segmentBindings, hcount]
  rw [Nat.cast_list_sum, List.map_map]
  simp only [voiceBindingSets, List.map_map]
  exact congrArg List.sum (List.map_congr_left hrow)

lemma mem_poolBindings_of_matched
    {segment address : String} (hsegment : segment ∈ expectedSegments voicePlan)
    (h : bindingState (voiceBindingSets voicePlan dhcpServerBindings) segment address =
      "MATCHED") : address ∈ poolBindings dhcpServerBindings segment := by
  obtain ⟨-, hrest⟩ := Guards.passed h (by decide)
  obtain ⟨-, hrest⟩ := Guards.passed hrest (by decide)
  by_cases hmem : address ∈ ((voiceBindingSets voicePlan dhcpServerBindings).sets.get?
      segment).getD []
  · rwa [get?_sets hsegment] at hmem
  · rw [if_neg hmem] at hrest
    exact absurd hrest (by decide)

/-- A phone with a verified endpoint and a registration that verified is registered. -/
lemma registered_of_checks {voiceResult : VoiceApplicationResult} {phoneId : String}
    (hcount : (voiceResult.registrations.map PhoneRegistrationResult.phoneId).count phoneId = 1)
    (hendpoint : (((registrationsByPhone voiceResult).get? phoneId).map endpointVerified).getD
      false = true)
    (hsccp : sccpState ((registrationsByPhone voiceResult).get? phoneId) = "REGISTERED") :
    ∃ registration, (registrationsByPhone voiceResult).get? phoneId = some registration ∧
      Registered voiceResult phoneId registration := by
  rcases hget : (registrationsByPhone voiceResult).get? phoneId with _ | registration
  · simp [hget] at hendpoint
  rw [hget] at hendpoint hsccp
  simp only [Option.map_some, Option.getD_some, endpointVerified, Bool.and_eq_true,
    decide_eq_true_eq] at hendpoint
  refine ⟨registration, rfl, filter_registrations_eq_singleton hcount hget, ?_, hendpoint.1.1.1,
    hendpoint.1.1.2, hendpoint.1.2, hendpoint.2⟩
  simp only [sccpState, Option.map_some] at hsccp
  split at hsccp
  · rename_i hstatus
    exact Option.some.inj hstatus
  · exact absurd hsccp (by decide)
  · exact absurd hsccp (by decide)

/-- What the checks of one phone establish. -/
lemma Compared.phone (h : Compared request)
    (hassignment : assignment ∈ request.voicePlan.phoneAssignments) :
    (∃ registration,
      (registrationsByPhone request.voiceResult).get? assignment.phoneId = some registration ∧
        Registered request.voiceResult assignment.phoneId registration) ∧
    endpointAddress request.voiceResult assignment ∈
      poolBindings request.dhcpServerBindings assignment.voiceSegmentId ∧
    PortVerified request (portKey (accessActions request.configurationPlan) assignment) := by
  have hidentities := identityErrors_eq_nil_iff.mp h.identities assignment.phoneId
    (List.mem_append_left _ (List.mem_map_of_mem hassignment))
  obtain ⟨⟨hfailed, hunobservable, hverified⟩, hendpoint, hbinding, hsccp⟩ :=
    phoneBoundary_eq_empty (h.phones assignment hassignment)
  refine ⟨registered_of_checks hidentities.2 hendpoint hsccp, ?_, ?_⟩
  · exact mem_poolBindings_of_matched (mem_expectedSegments hassignment) hbinding
  · exact portVerified_of_ports hfailed hunobservable hverified

end Complete

/-- **Complete evidence correlates every planned phone with its one registration, with a lease of its
segment and with a forwarding result of its own port.** -/
theorem complete_correlates (request : VoiceEvidenceRequest)
    (h : request.canonicalCpScaleVoiceEvidence.complete = true) : Correlated request := by
  have hcompared := compared_of_complete h
  have hcomplete := hcompared.complete
  have htotal : ((expectedSegments request.voicePlan).map fun segment =>
      (poolBindings request.dhcpServerBindings segment).length).sum =
        request.voicePlan.phoneAssignments.length := by
    have hsum := (total_of_complete hcomplete).symm.trans hcompared.total
    exact Int.ofNat.inj hsum
  refine ⟨⟨hcompared.planned, ?_⟩, fun assignment hassignment => ?_,
    fun segment => pools_of_complete hcomplete, htotal, fun hdistinct => ?_,
    fun assignment hassignment => (hcompared.phone hassignment).2.2⟩
  · rw [List.nodup_iff_count_le_one]
    intro phoneId
    by_cases hmem : phoneId ∈ request.voicePlan.phoneAssignments.map Voice.PhoneAssignment.phoneId
    · exact (identityErrors_eq_nil_iff.mp hcompared.identities phoneId
        (List.mem_append_left _ hmem)).1.le
    · rw [List.count_eq_zero_of_not_mem hmem]
      exact Nat.zero_le 1
  · obtain ⟨⟨registration, hget, hregistered⟩, hbound, -⟩ := hcompared.phone hassignment
    refine ⟨registration, hregistered, ?_⟩
    simpa [endpointAddress, hget] using hbound
  · have hkeys : (expectedSegments request.voicePlan).Perm
        (request.voicePlan.phoneAssignments.map Voice.PhoneAssignment.voiceSegmentId).dedup :=
      perm_sortedBy id _
    exact Counting.perm_of_sum_length_eq hkeys
      (fun assignment hassignment => (hcompared.phone hassignment).2.1) hdistinct htotal

/-! ## A group with a port of no phone -/

/-- A voice access port of the sample switch. -/
def samplePort (id interface : String) : ConfigurationAction where
  id := id
  phase := .l2Interfaces
  deviceId := "switch"
  deviceName := "Switch5"
  siteId := "site"
  detail := .configureAccessPort interface 10 (some 20) []

/-- The expectation of a voice access port. -/
def sampleExpectation (id actionId : String) : VerificationExpectation where
  id := id
  actionId := actionId
  kind := .accessPort
  deviceId := "switch"
  deviceName := "Switch5"

/-- The details that the observer of the sample group writes: one port forwards, one is missing. -/
def sampleDetails : ConvergenceDetails where
  kind := some "voice_access_forwarding_group"
  switch := some "Switch5"
  voiceVlanId := some 20
  expectedInterfaces := some ["FastEthernet0/1", "FastEthernet0/2"]
  verifiedFwdInterfaces := some ["FastEthernet0/1"]
  missingInterfaces := some ["FastEthernet0/2"]
  nonFwdInterfaces := some .empty
  sampleCount := some 3
  terminalAuthority := some "AUTHORITATIVE"
  terminalFailureDimension := some "MISSING_INTERFACE"

/-- The forwarding result of a sample port. -/
def sampleForwarding (expectationId actionId : String) (status : ActionExecutionStatus)
    (field : FieldVerificationStatus) : VerificationResult where
  expectationId := expectationId
  actionId := actionId
  status := status
  freshEvidence := true
  fields := .ofList [("voice_forwarding", field)]
  convergence := some { attempts := 3, details := sampleDetails }

/-- A phone on the first port of the sample group. -/
def samplePhone : Voice.PhoneAssignment where
  phoneId := "phone"
  physicalDeviceName := "Phone0"
  model := "7960"
  siteId := "site"
  extension := "1001"
  callControlId := "call-control"
  voiceVlanId := 20
  voiceSegmentId := "voice"
  accessConfigurationActionId := "access-1"
  addressingConfigurationActionId := "addressing"
  bindingActionId := "binding"

/-- The registration of the sample phone. -/
def sampleRegistration : PhoneRegistrationResult where
  expectationId := "verify/phone"
  phoneId := "phone"
  extension := "1001"
  status := .verified
  endpointIpv4 := "172.16.20.11"
  endpointInterfacePresent := true
  endpointAddressChannel := true
  endpointDhcpEnabled := some true

/-- The table of the sample server: one voice pool with one binding. -/
def sampleTable : PyValue :=
  .dict [("table_readable", .bool true),
    ("pools", .list [.dict [("segment_id", .str "voice"), ("voice", .bool true),
      ("binding_count", .int 1), ("bindings", .list [.str "172.16.20.11"])]])]

/-- One phone on a group of two voice access ports. -/
def sampleRequest : VoiceEvidenceRequest where
  stage := "floor1"
  configurationPlan :=
    { id := "configuration", sourceTopologyHash := "topology"
      actions := [samplePort "access-1" "FastEthernet0/1", samplePort "access-2" "FastEthernet0/2"]
      verificationExpectations :=
        [sampleExpectation "verify-1" "access-1", sampleExpectation "verify-2" "access-2"] }
  configurationResult :=
    { configPlanId := "configuration", configSemanticHash := "", sourceTopologyHash := "topology"
      status := .verified
      voiceSignalBarrier := some
        { required := true, foundationStatus := .verified, signalStatus := .verified
          postSignalConvergenceResults :=
            [sampleForwarding "verify-1" "access-1" .verified .verified,
              sampleForwarding "verify-2" "access-2" .unobservable .unobservable] } }
  voicePlan :=
    { id := "voice", sourceTopologyId := "topology", sourceTopologyHash := "topology"
      sourceConfigurationId := "configuration", sourceConfigurationHash := ""
      phoneAssignments := [samplePhone] }
  voiceResult :=
    { voicePlanId := "voice", voiceSemanticHash := "", sourceTopologyHash := "topology"
      sourceConfigurationHash := "", status := .partial_, applicationStatus := .applied
      registrations := [sampleRegistration] }
  dhcpServerBindings := [sampleTable]
  lifecycleEvents :=
    ["VOICE_SIGNAL_VERIFIED", "PHONE_ACCESS_FWD_VERIFIED", "REGISTRATION_STARTED"]

/-- The evidence of the sample is complete, and correlates its phone. -/
theorem complete_correlates_sample : Correlated sampleRequest :=
  complete_correlates sampleRequest (by decide)

/-- Complete evidence with a phone whose port belongs to no group with the status VERIFIED. -/
theorem complete_with_unverified_group :
    ∃ (request : VoiceEvidenceRequest) (assignment : Voice.PhoneAssignment),
      request.canonicalCpScaleVoiceEvidence.complete = true ∧
      assignment ∈ request.voicePlan.phoneAssignments ∧
      ∀ group ∈ request.groups,
        (portKey (accessActions request.configurationPlan) assignment).2.2 ∈
          group.expectedInterfaces → group.status ≠ .verified :=
  ⟨sampleRequest, samplePhone, by decide, List.mem_singleton.mpr rfl, by decide⟩

end VoiceEvidence

end PacketTracer
