import PacketTracer.Domain.AddressReconciler

/-!
# What the reconciler does for each demand

The checks before the loop say the same of the demands and of the existing bindings in whatever
order they are listed (`Admitted`), and determine the dictionaries that they build.  A run of the
loop is a list of services: each demand with the binding it matched, the address it got, and whether
the matched binding was preserved.  A service either takes the address of its binding or has one
that no existing binding and no earlier service has.  The returned plan is read off the services.
-/

namespace PacketTracer

open Dicts Ipaddress Machines PrefixBlocks PyText

namespace AddressReconciler

/-! ## Texts of addresses -/

lemma parseAddress_eq (s : String) : parseAddress s = parseIPv4 s.toList := by
  unfold parseAddress ipAddress
  cases parseIPv4 s.toList with
  | some address => rfl
  | none => cases parseIPv6 s.toList <;> rfl

lemma text_of_parseAddress {s : String} {address : IPv4Address}
    (h : parseAddress s = some address) : text address = s :=
  text_parseIPv4 (by rwa [← parseAddress_eq])

lemma text_addressOfText {s : String} (h : (parseAddress s).isSome) :
    text (addressOfText s) = s := by
  obtain ⟨address, hs⟩ := Option.isSome_iff_exists.mp h
  rw [addressOfText, hs]
  exact text_of_parseAddress hs

/-! ## Accepted demands -/

/-- The network that a demand names. -/
def demandNetwork (demand : InfrastructureAddressDemand) : IPv4Network :=
  (parseNetwork demand.network).getD anyNetwork

/-- The prefix length of the interface that a demand asks for. -/
def demandPrefix (demand : InfrastructureAddressDemand) : ℤ :=
  interfacePrefix demand (demandNetwork demand)

/-- What an accepted demand satisfies. -/
structure AcceptedDemand (enterprise : IPv4Network) (demand : InfrastructureAddressDemand) :
    Prop where
  id_ne : demand.id ≠ ""
  network_eq : parseNetwork demand.network = some (demandNetwork demand)
  network_le : demandNetwork demand ≤ enterprise
  owner_ne : demand.ownerId ≠ ""
  purpose_ne : demand.purpose ≠ .endpoint
  group_ne : demand.purpose = .fhrpMember ∨ demand.purpose = .fhrpVip →
    ¬(demand.groupId = "" ∨ demand.segmentId = "")
  prefix_mem : 0 ≤ demandPrefix demand ∧ demandPrefix demand ≤ 32
  loopback : demand.purpose = .loopback → demandPrefix demand = 32
  requested : demand.requestedIpv4 ≠ "" → ∃ address,
    parseAddress demand.requestedIpv4 = some address ∧ usableIn address (demandNetwork demand)

variable {enterprise : IPv4Network} {demand : InfrastructureAddressDemand} {network : IPv4Network}
  {demands : List InfrastructureAddressDemand} {networks : Dict String IPv4Network}
  {binding : ExistingAddressBinding} {existing : List ExistingAddressBinding}
  {issues : List AddressReconcileIssue}

lemma AcceptedDemand.isSome_requested (h : AcceptedDemand enterprise demand)
    (hask : demand.requestedIpv4 ≠ "") : (parseAddress demand.requestedIpv4).isSome := by
  obtain ⟨address, hparse, -⟩ := h.requested hask
  rw [hparse]
  rfl

/-- The loop body of the validation accepts an accepted demand with a new id, and no other. -/
lemma validateDemand_eq_ok_iff {seen : List String} :
    validateDemand enterprise seen demand = .ok network ↔
      network = demandNetwork demand ∧ demand.id ∉ seen ∧ AcceptedDemand enterprise demand := by
  constructor
  · intro h
    rcases hfound : parseNetwork demand.network with _ | found
    · simp only [validateDemand, hfound] at h
      split_ifs at h
    have hnetwork : demandNetwork demand = found := by
      rw [demandNetwork, hfound, Option.getD_some]
    simp only [validateDemand, hfound] at h
    split_ifs at h with hid howner hpurpose hgroup hlength hrequested
    obtain rfl : found = network := Except.ok.inj h
    rw [not_or] at hid howner hlength
    rw [not_not] at howner hlength
    have hlength' : 0 ≤ demandPrefix demand ∧ demandPrefix demand ≤ 32 := by
      rw [demandPrefix, hnetwork]
      exact hlength.1
    refine ⟨hnetwork.symm, hid.2, hid.1, hnetwork ▸ hfound, hnetwork ▸ howner.1, howner.2,
      hpurpose, fun hfhrp hempty => hgroup ⟨hfhrp, hempty⟩, hlength', fun hloopback => ?_,
      fun hask => ?_⟩
    · by_contra hne
      exact hlength.2 ⟨hloopback, by rwa [demandPrefix, hnetwork] at hne⟩
    · rw [hnetwork]
      rcases hparse : parseAddress demand.requestedIpv4 with _ | address
      · exact absurd ⟨hask, by simp [hparse]⟩ hrequested
      refine ⟨address, rfl, ?_⟩
      by_contra hnot
      exact hrequested ⟨hask, by simpa [hparse] using hnot⟩
  · rintro ⟨rfl, hseen, h⟩
    have hprefix : interfacePrefix demand (demandNetwork demand) = demandPrefix demand := rfl
    have hrequested : ¬(demand.requestedIpv4 ≠ "" ∧
        ((parseAddress demand.requestedIpv4).map
          (usableIn · (demandNetwork demand))).getD false = false) := by
      rintro ⟨hask, hunusable⟩
      obtain ⟨address, hparse, husable⟩ := h.requested hask
      simp [hparse, husable] at hunusable
    simp only [validateDemand, h.network_eq, hprefix]
    rw [if_neg (by simp [h.id_ne, hseen]), if_neg (by simp [h.network_le, h.owner_ne]),
      if_neg h.purpose_ne, if_neg fun hgroup => h.group_ne hgroup.1 hgroup.2, if_neg ?_,
      if_neg hrequested]
    rintro (hlength | ⟨hloopback, hne⟩)
    · exact hlength h.prefix_mem
    · exact hne (h.loopback hloopback)

/-- The networks that the validation records. -/
def networksOf (demands : List InfrastructureAddressDemand) : Dict String IPv4Network :=
  Dict.ofList (demands.map fun demand => (demand.id, demandNetwork demand))

/-- The validation loop has no issues exactly when it accepts every demand, under pairwise distinct
new ids; then it records their networks. -/
lemma validateDemandsFrom_spec (demands : List InfrastructureAddressDemand) (seen : List String)
    (networks : Dict String IPv4Network) (issues : List AddressReconcileIssue) :
    ((validateDemandsFrom enterprise demands seen networks issues).2 = [] ↔
      issues = [] ∧ (demands.map (·.id)).Nodup ∧
        ∀ demand ∈ demands, demand.id ∉ seen ∧ AcceptedDemand enterprise demand) ∧
    ((validateDemandsFrom enterprise demands seen networks issues).2 = [] →
      (validateDemandsFrom enterprise demands seen networks issues).1 =
        networks.setAll (demands.map fun demand => (demand.id, demandNetwork demand))) := by
  induction demands generalizing seen networks issues with
  | nil => simp [validateDemandsFrom, Dict.setAll]
  | cons demand demands ih =>
    cases hdemand : validateDemand enterprise seen demand with
    | error issue =>
      have hrefused : ¬(demand.id ∉ seen ∧ AcceptedDemand enterprise demand) := fun h => by
        rw [validateDemand_eq_ok_iff.mpr ⟨rfl, h⟩] at hdemand
        cases hdemand
      have hissues : (validateDemandsFrom enterprise (demand :: demands) seen networks
          issues).2 ≠ [] := by
        simp only [validateDemandsFrom, hdemand]
        exact fun h => absurd ((ih _ _ _).1.mp h).1 (by simp)
      refine ⟨⟨fun h => absurd h hissues, fun h => ?_⟩, fun h => absurd h hissues⟩
      exact absurd (h.2.2 demand List.mem_cons_self) hrefused
    | ok network =>
      obtain ⟨rfl, hseen, hok⟩ := validateDemand_eq_ok_iff.mp hdemand
      simp only [validateDemandsFrom, hdemand]
      rw [if_neg (by simp [hok.id_ne, hseen])]
      refine ⟨(ih _ _ _).1.trans ?_, (ih _ _ _).2⟩
      rw [List.forall_mem_cons, List.map_cons, List.nodup_cons, List.mem_map]
      simp only [List.mem_cons, not_or, not_exists, not_and]
      constructor
      · rintro ⟨hissues, hnodup, hrest⟩
        exact ⟨hissues, ⟨fun other hother => (hrest other hother).1.1, hnodup⟩, ⟨hseen, hok⟩,
          fun other hother => ⟨(hrest other hother).1.2, (hrest other hother).2⟩⟩
      · rintro ⟨hissues, ⟨hnew, hnodup⟩, -, hrest⟩
        exact ⟨hissues, hnodup, fun other hother =>
          ⟨⟨hnew other hother, (hrest other hother).1⟩, (hrest other hother).2⟩⟩

/-! ## Accepted bindings -/

/-- What an accepted existing binding satisfies. -/
structure DeployedBinding (enterprise : IPv4Network) (binding : ExistingAddressBinding) :
    Prop where
  id_ne : binding.id ≠ ""
  address_mem : ∃ address, parseAddress binding.ipv4 = some address ∧ (address : ℕ) ∈ enterprise
  prefix_nonneg : 0 ≤ binding.prefixLength
  prefix_le : binding.prefixLength ≤ 32
  owner_ne : binding.ownerId ≠ ""

lemma DeployedBinding.isSome_ipv4 (h : DeployedBinding enterprise binding) :
    (parseAddress binding.ipv4).isSome := by
  obtain ⟨address, hparse, -⟩ := h.address_mem
  rw [hparse]
  rfl

/-- The loop body of the validation accepts a deployed binding with a new id and a new address, and
no other. -/
lemma validateBinding_eq_ok_iff {ids : List String} {owners : Dict String ExistingAddressBinding}
    {address : IPv4Address} :
    validateBinding enterprise ids owners binding = .ok address ↔
      parseAddress binding.ipv4 = some address ∧ binding.id ∉ ids ∧
        owners.get? binding.ipv4 = none ∧ DeployedBinding enterprise binding := by
  cases hfound : parseAddress binding.ipv4 with
  | none =>
    simp only [validateBinding, hfound]
    constructor
    · intro h
      split_ifs at h
    · rintro ⟨hsome, -⟩
      cases hsome
  | some found =>
    simp only [validateBinding, hfound, text_of_parseAddress hfound]
    constructor
    · intro h
      cases howner : owners.get? binding.ipv4 with
      | some previous =>
        rw [howner] at h
        split_ifs at h
      | none =>
        rw [howner] at h
        split_ifs at h with hid hinvalid
        obtain rfl : found = address := Except.ok.inj h
        simp only [not_or, not_not] at hid hinvalid
        exact ⟨rfl, hid.2, rfl, hid.1, ⟨found, hfound, hinvalid.1⟩, hinvalid.2.1.1,
          hinvalid.2.1.2, hinvalid.2.2⟩
    · rintro ⟨hsome, hids, howner, h⟩
      cases hsome
      obtain ⟨other, hother, hmem⟩ := h.address_mem
      obtain rfl : address = other := Option.some.inj (hfound.symm.trans hother)
      rw [howner, if_neg (by simp [h.id_ne, hids]),
        if_neg (by simp [hmem, h.prefix_nonneg, h.prefix_le, h.owner_ne])]

/-- The addresses that the validation records. -/
def addressesOf (existing : List ExistingAddressBinding) : Dict String IPv4Address :=
  Dict.ofList (existing.map fun binding => (binding.ipv4, addressOfText binding.ipv4))

/-- The validation loop has no issues exactly when it accepts every binding, under pairwise distinct
new ids and addresses; then it records their addresses. -/
lemma validateExistingFrom_spec (bindings : List ExistingAddressBinding) (ids : List String)
    (owners : Dict String ExistingAddressBinding) (addresses : Dict String IPv4Address)
    (issues : List AddressReconcileIssue) :
    ((validateExistingFrom enterprise bindings ids owners addresses issues).2 = [] ↔
      issues = [] ∧ (bindings.map (·.id)).Nodup ∧ (bindings.map (·.ipv4)).Nodup ∧
        ∀ binding ∈ bindings, binding.id ∉ ids ∧ owners.get? binding.ipv4 = none ∧
          DeployedBinding enterprise binding) ∧
    ((validateExistingFrom enterprise bindings ids owners addresses issues).2 = [] →
      (validateExistingFrom enterprise bindings ids owners addresses issues).1 =
        addresses.setAll (bindings.map fun binding =>
          (binding.ipv4, addressOfText binding.ipv4))) := by
  induction bindings generalizing ids owners addresses issues with
  | nil => simp [validateExistingFrom, Dict.setAll]
  | cons binding bindings ih =>
    cases hbinding : validateBinding enterprise ids owners binding with
    | error issue =>
      have hrefused : ¬(binding.id ∉ ids ∧ owners.get? binding.ipv4 = none ∧
          DeployedBinding enterprise binding) := fun h => by
        obtain ⟨address, hparse, -⟩ := h.2.2.address_mem
        rw [validateBinding_eq_ok_iff.mpr ⟨hparse, h⟩] at hbinding
        cases hbinding
      have hissues : (validateExistingFrom enterprise (binding :: bindings) ids owners addresses
          issues).2 ≠ [] := by
        simp only [validateExistingFrom, hbinding]
        exact fun h => absurd ((ih _ _ _ _).1.mp h).1 (by simp)
      refine ⟨⟨fun h => absurd h hissues, fun h => ?_⟩, fun h => absurd h hissues⟩
      exact absurd (h.2.2.2 binding List.mem_cons_self) hrefused
    | ok address =>
      obtain ⟨hparse, hids, howner, hok⟩ := validateBinding_eq_ok_iff.mp hbinding
      obtain rfl : address = addressOfText binding.ipv4 := by
        rw [addressOfText, hparse, Option.getD_some]
      simp only [validateExistingFrom, hbinding, text_of_parseAddress hparse]
      rw [if_neg (by simp [hok.id_ne, hids])]
      refine ⟨(ih _ _ _ _).1.trans ?_, (ih _ _ _ _).2⟩
      rw [List.forall_mem_cons, List.map_cons, List.nodup_cons, List.mem_map, List.map_cons,
        List.nodup_cons, List.mem_map]
      simp only [List.mem_cons, not_or, not_exists, not_and, Dict.get?_set]
      constructor
      · rintro ⟨hissues, hnodup, hnodup', hrest⟩
        refine ⟨hissues, ⟨fun other hother => (hrest other hother).1.1, hnodup⟩,
          ⟨fun other hother heq => ?_, hnodup'⟩, ⟨hids, howner, hok⟩, fun other hother => ?_⟩
        · have hnone := (hrest other hother).2.1
          rw [if_pos heq.symm] at hnone
          cases hnone
        · obtain ⟨hid, hnone, hother⟩ := hrest other hother
          split_ifs at hnone
          exact ⟨hid.2, hnone, hother⟩
      · rintro ⟨hissues, ⟨hnew, hnodup⟩, ⟨hnew', hnodup'⟩, -, hrest⟩
        refine ⟨hissues, hnodup, hnodup', fun other hother => ?_⟩
        obtain ⟨hid, hnone, hdeployed⟩ := hrest other hother
        rw [if_neg (Ne.symm (hnew' other hother))]
        exact ⟨⟨hnew other hother, hid⟩, hnone, hdeployed⟩

/-! ## What the index finds -/

lemma indexExisting_concat (bindings : List ExistingAddressBinding)
    (binding : ExistingAddressBinding) :
    indexExisting (bindings ++ [binding]) =
      ((indexExisting bindings).addDemand binding).addSemantics binding := by
  simp [indexExisting]

@[simp] lemma ExistingIndex.bySemantics_addDemand (index : ExistingIndex)
    (binding : ExistingAddressBinding) :
    (index.addDemand binding).bySemantics = index.bySemantics := by
  unfold ExistingIndex.addDemand
  split
  · rfl
  · split <;> rfl

@[simp] lemma ExistingIndex.byDemand_addSemantics (index : ExistingIndex)
    (binding : ExistingAddressBinding) :
    (index.addSemantics binding).byDemand = index.byDemand := by
  unfold ExistingIndex.addSemantics
  split <;> rfl

@[simp] lemma ExistingIndex.issues_addSemantics (index : ExistingIndex)
    (binding : ExistingAddressBinding) :
    (index.addSemantics binding).issues = index.issues := by
  unfold ExistingIndex.addSemantics
  split <;> rfl

lemma bySemantics_indexExisting (bindings : List ExistingAddressBinding) (key : SemanticKey) :
    ((indexExisting bindings).bySemantics.get? key).getD [] =
      bindings.filter fun b => b.purpose ≠ .endpoint ∧ bindingSemanticKey b = key := by
  induction bindings using List.reverseRecOn with
  | nil => rfl
  | append_singleton bindings binding ih =>
    rw [indexExisting_concat, List.filter_append, ← ih]
    unfold ExistingIndex.addSemantics
    by_cases hpurpose : binding.purpose = .endpoint
    · simp [hpurpose]
    · by_cases hkey : bindingSemanticKey binding = key
      · simp [hpurpose, hkey]
      · simp [hpurpose, hkey]

/-- Without issues, a demand id is claimed by at most one binding, and the index by demand finds
it. -/
lemma byDemand_indexExisting {bindings : List ExistingAddressBinding}
    (hissues : (indexExisting bindings).issues = []) {id : String} (hid : id ≠ "") :
    (indexExisting bindings).byDemand.get? id = some binding ↔
      binding ∈ bindings ∧ binding.demandId = id := by
  induction bindings using List.reverseRecOn generalizing binding with
  | nil => simp [indexExisting]
  | append_singleton bindings new ih =>
    rw [indexExisting_concat, ExistingIndex.issues_addSemantics] at hissues
    rw [indexExisting_concat, ExistingIndex.byDemand_addSemantics]
    unfold ExistingIndex.addDemand at hissues ⊢
    split_ifs at hissues ⊢ with hnone
    · rw [ih hissues]
      constructor
      · rintro ⟨hmem, hclaim⟩
        exact ⟨List.mem_append_left _ hmem, hclaim⟩
      · rintro ⟨hmem, hclaim⟩
        rcases List.mem_concat_iff.mp hmem with hmem | rfl
        · exact ⟨hmem, hclaim⟩
        · exact absurd (hclaim.symm.trans hnone) hid
    · cases hprevious : (indexExisting bindings).byDemand.get? new.demandId with
      | some previous =>
        rw [hprevious] at hissues
        simp at hissues
      | none =>
        rw [hprevious] at hissues
        simp only [Dict.get?_set]
        split_ifs with hclaim
        · subst hclaim
          constructor
          · rintro hnew
            cases hnew
            exact ⟨List.mem_concat_self, rfl⟩
          · rintro ⟨hmem, hclaim⟩
            rcases List.mem_concat_iff.mp hmem with hmem | hmem
            · have := (ih hissues).mpr ⟨hmem, hclaim⟩
              rw [hprevious] at this
              cases this
            · rw [hmem]
        · rw [ih hissues, List.mem_append, List.mem_singleton]
          constructor
          · rintro ⟨hmem, hid'⟩
            exact ⟨Or.inl hmem, hid'⟩
          · rintro ⟨hmem | rfl, hid'⟩
            · exact ⟨hmem, hid'⟩
            · exact absurd hid' hclaim

/-- Without issues, the index by demand has found no two bindings that claim one demand. -/
lemma issues_indexExisting_eq_nil_iff {bindings : List ExistingAddressBinding}
    (hnodup : bindings.Nodup) :
    (indexExisting bindings).issues = [] ↔
      ∀ a ∈ bindings, ∀ b ∈ bindings, a.demandId ≠ "" → a.demandId = b.demandId → a = b := by
  constructor
  · intro hissues a ha b hb hne heq
    have hfound := (byDemand_indexExisting hissues hne).mpr ⟨ha, rfl⟩
    have hfound' := (byDemand_indexExisting hissues hne).mpr ⟨hb, heq.symm⟩
    exact Option.some.inj (hfound.symm.trans hfound')
  · intro hclaims
    induction bindings using List.reverseRecOn with
    | nil => rfl
    | append_singleton bindings new ih =>
      have hissues : (indexExisting bindings).issues = [] :=
        ih (List.nodup_append.mp hnodup).1 fun a ha b hb =>
          hclaims a (List.mem_append_left _ ha) b (List.mem_append_left _ hb)
      have hnew : new ∉ bindings := fun hmem =>
        (List.nodup_append.mp hnodup).2.2 new hmem new (List.mem_singleton_self _) rfl
      rw [indexExisting_concat, ExistingIndex.issues_addSemantics]
      unfold ExistingIndex.addDemand
      split_ifs with hnone
      · exact hissues
      rcases hprevious : (indexExisting bindings).byDemand.get? new.demandId with _ | previous
      · exact hissues
      obtain ⟨hmem, hclaim⟩ := (byDemand_indexExisting hissues hnone).mp hprevious
      have heq := hclaims new (by simp) previous (List.mem_append_left _ hmem) hnone hclaim.symm
      exact absurd (heq ▸ hmem) hnew

/-! ## The inputs that reach the loop -/

/-- The demands and the bindings pass the checks before the loop. -/
structure Admitted (enterprise : IPv4Network) (demands : List InfrastructureAddressDemand)
    (existing : List ExistingAddressBinding) : Prop where
  demandIds_nodup : (demands.map (·.id)).Nodup
  accepted : ∀ demand ∈ demands, AcceptedDemand enterprise demand
  bindingIds_nodup : (existing.map (·.id)).Nodup
  ipv4_nodup : (existing.map (·.ipv4)).Nodup
  deployed : ∀ binding ∈ existing, DeployedBinding enterprise binding
  claims : ∀ a ∈ existing, ∀ b ∈ existing, a.demandId ≠ "" → a.demandId = b.demandId → a = b

lemma validateDemands_issues_eq_nil_iff :
    (validateDemands enterprise demands).2 = [] ↔
      (demands.map (·.id)).Nodup ∧ ∀ demand ∈ demands, AcceptedDemand enterprise demand := by
  rw [validateDemands, (validateDemandsFrom_spec demands [] Dict.empty []).1]
  simp

lemma validateExisting_issues_eq_nil_iff :
    (validateExisting enterprise existing).2 = [] ↔
      (existing.map (·.id)).Nodup ∧ (existing.map (·.ipv4)).Nodup ∧
        ∀ binding ∈ existing, DeployedBinding enterprise binding := by
  rw [validateExisting, (validateExistingFrom_spec existing [] Dict.empty Dict.empty []).1]
  simp

section Admission

variable (h : Admitted enterprise demands existing)

include h

lemma Admitted.validateDemands_eq : validateDemands enterprise demands = (networksOf demands, []) :=
  have hissues := validateDemands_issues_eq_nil_iff.mpr ⟨h.demandIds_nodup, h.accepted⟩
  Prod.ext ((validateDemandsFrom_spec demands [] Dict.empty []).2 hissues) hissues

lemma Admitted.validateExisting_eq :
    validateExisting enterprise existing = (addressesOf existing, []) :=
  have hissues := validateExisting_issues_eq_nil_iff.mpr
    ⟨h.bindingIds_nodup, h.ipv4_nodup, h.deployed⟩
  Prod.ext ((validateExistingFrom_spec existing [] Dict.empty Dict.empty []).2 hissues) hissues

lemma Admitted.index_ok : (indexExisting existing).issues = [] :=
  (issues_indexExisting_eq_nil_iff (List.Nodup.of_map _ h.bindingIds_nodup)).mpr h.claims

lemma Admitted.networkFor_eq (hdemand : demand ∈ demands) :
    networkFor (networksOf demands) demand = demandNetwork demand := by
  have hfound : (networksOf demands).get? demand.id = some (demandNetwork demand) :=
    Dict.get?_ofList_of_mem (by rw [List.map_map]; exact h.demandIds_nodup)
      (List.mem_map_of_mem (f := fun demand => (demand.id, demandNetwork demand)) hdemand)
  rw [networkFor, hfound, Option.getD_some]

lemma Admitted.isSome_ipv4 (hbinding : binding ∈ existing) : (parseAddress binding.ipv4).isSome :=
  (h.deployed binding hbinding).isSome_ipv4

lemma Admitted.final_of_unmatched (hbinding : binding ∈ existing) :
    (finalFromUnmatched (addressesOf existing) binding).ipv4 = binding.ipv4 := by
  have hfound : (addressesOf existing).get? binding.ipv4 = some (addressOfText binding.ipv4) :=
    Dict.get?_ofList_of_mem (by rw [List.map_map]; exact h.ipv4_nodup)
      (List.mem_map_of_mem (f := fun b => (b.ipv4, addressOfText b.ipv4)) hbinding)
  rw [finalFromUnmatched, hfound, Option.getD_some]
  exact text_addressOfText (h.isSome_ipv4 hbinding)

end Admission

/-! ## What a demand matches -/

/-- No existing binding names the demand. -/
def Unclaimed (existing : List ExistingAddressBinding) (demand : InfrastructureAddressDemand) :
    Prop := ∀ binding ∈ existing, binding.demandId ≠ demand.id

instance (existing : List ExistingAddressBinding) (demand : InfrastructureAddressDemand) :
    Decidable (Unclaimed existing demand) := inferInstanceAs (Decidable (∀ _ ∈ _, _))

/-- The binding has the semantics of the demand and is not matched yet. -/
structure Candidate (existing : List ExistingAddressBinding)
    (demand : InfrastructureAddressDemand) (matchedIds : List String)
    (binding : ExistingAddressBinding) : Prop where
  mem : binding ∈ existing
  purpose_ne : binding.purpose ≠ .endpoint
  key_eq : bindingSemanticKey binding = demandSemanticKey demand
  unmatched : binding.id ∉ matchedIds

lemma head?_eq_some_iff_of_length_le {α : Type*} {l : List α} (h : ¬1 < l.length) {a : α} :
    l.head? = some a ↔ a ∈ l := by
  match l with
  | [] => simp
  | [b] => simp [eq_comm]
  | _ :: _ :: _ => simp at h

/-- A demand matches the binding that claims it; an unclaimed demand matches the only candidate,
if there is one. -/
lemma matchExisting_cases (hissues : (indexExisting existing).issues = []) (hid : demand.id ≠ "")
    {matchedIds : List String} {found : Option ExistingAddressBinding}
    (h : matchExisting (indexExisting existing) demand matchedIds = .ok found) :
    (∃ binding ∈ existing, binding.demandId = demand.id ∧ found = some binding) ∨
      (Unclaimed existing demand ∧
        ∀ binding, found = some binding ↔ Candidate existing demand matchedIds binding) := by
  unfold matchExisting at h
  cases hexact : (indexExisting existing).byDemand.get? demand.id with
  | some exact =>
    rw [hexact] at h
    obtain ⟨hmem, hclaim⟩ := (byDemand_indexExisting hissues hid).mp hexact
    dsimp only at h
    split_ifs at h
    exact Or.inl ⟨exact, hmem, hclaim, by simpa using h.symm⟩
  | none =>
    rw [hexact] at h
    refine Or.inr ⟨fun binding hmem hclaim => ?_, fun binding => ?_⟩
    · have := (byDemand_indexExisting hissues hid).mpr ⟨hmem, hclaim⟩
      rw [hexact] at this
      cases this
    · simp only [bySemantics_indexExisting] at h
      split_ifs at h with hmany
      have hfound := Except.ok.inj h
      rw [← hfound, head?_eq_some_iff_of_length_le hmany]
      simp only [List.mem_filter, decide_eq_true_eq, and_assoc]
      exact ⟨fun h => ⟨h.1, h.2.1, h.2.2.1, h.2.2.2⟩, fun h => ⟨h.1, h.2, h.3, h.4⟩⟩

lemma Admitted.mem_of_matchExisting (h : Admitted enterprise demands existing)
    (hdemand : demand ∈ demands) {matchedIds : List String}
    (hmatch : matchExisting (indexExisting existing) demand matchedIds = .ok (some binding)) :
    binding ∈ existing := by
  rcases matchExisting_cases h.index_ok (h.accepted demand hdemand).id_ne hmatch with
    ⟨exact, hmem, -, heq⟩ | ⟨-, hcandidate⟩
  · exact Option.some.inj heq ▸ hmem
  · exact ((hcandidate binding).mp rfl).mem

/-! ## Which address a demand takes -/

/-- The demand, once matched with the binding, takes its address: it preserves the binding, or it
asks for that very address. -/
def takes (demand : InfrastructureAddressDemand) (binding : ExistingAddressBinding) : Bool :=
  match parseNetwork demand.network with
  | none => false
  | some network =>
    canPreserve demand binding network (interfacePrefix demand network) ||
      (demand.requestedIpv4 ≠ "" && demand.requestedIpv4 = binding.ipv4)

lemma takes_eq (h : AcceptedDemand enterprise demand) (binding : ExistingAddressBinding) :
    takes demand binding =
      (canPreserve demand binding (demandNetwork demand) (demandPrefix demand) ||
        (demand.requestedIpv4 ≠ "" && demand.requestedIpv4 = binding.ipv4)) := by
  simp only [takes, h.network_eq, demandPrefix]

lemma canPreserve_eq_true_iff {prefixLength : ℤ} (haccepted : AcceptedDemand enterprise demand)
    (hbinding : (parseAddress binding.ipv4).isSome) :
    canPreserve demand binding network prefixLength = true ↔
      usableIn (addressOfText binding.ipv4) network = true ∧
        binding.prefixLength = prefixLength ∧
        (demand.requestedIpv4 ≠ "" → binding.ipv4 = demand.requestedIpv4) := by
  obtain ⟨address, haddress⟩ := Option.isSome_iff_exists.mp hbinding
  have htext : text address = binding.ipv4 := text_of_parseAddress haddress
  have hread : addressOfText binding.ipv4 = address := by
    rw [addressOfText, haddress, Option.getD_some]
  rw [canPreserve, haddress, hread]
  by_cases hask : demand.requestedIpv4 = ""
  · simp [hask]
  · simp [hask, htext, text_addressOfText (haccepted.isSome_requested hask), and_assoc]

lemma usableIn_of_mem_hosts {x : ℕ} (h : x ∈ network.hosts) :
    usableIn (Fin.ofNat (2 ^ 32) x) network = true := by
  have hmem : x ∈ network := IPv4Network.mem_of_mem_hosts network h
  have hval : ((Fin.ofNat (2 ^ 32) x : IPv4Address) : ℕ) = x :=
    Nat.mod_eq_of_lt (Block.lt_of_mem hmem)
  unfold usableIn
  rw [hval, if_neg (not_not.mpr hmem)]
  unfold IPv4Network.hosts at h
  split_ifs at h ⊢ with hlen
  · rfl
  · rw [List.mem_range'_1] at h
    have hlast : network.last = network.first + (network.size - 1) := rfl
    exact decide_eq_true ⟨by omega, by omega⟩

variable {state : ReconcileState}

/-- A new address is usable; it is the requested one if there is a request; and it is not occupied,
except by the matched binding on request. -/
lemma exists_candidate_of_allocate {state' : ReconcileState}
    {found : Option ExistingAddressBinding} (haccepted : AcceptedDemand enterprise demand)
    (hfound : ∀ binding, found = some binding → (parseAddress binding.ipv4).isSome)
    (h : allocate state demand (demandNetwork demand) found = .ok state') :
    ∃ candidate, state' = assignCandidate state demand (demandNetwork demand) found candidate ∧
      usableIn candidate (demandNetwork demand) = true ∧
      (demand.requestedIpv4 ≠ "" → text candidate = demand.requestedIpv4) ∧
      (state.occupied.contains (text candidate) = true → demand.requestedIpv4 ≠ "" ∧
        ∃ binding, found = some binding ∧ demand.requestedIpv4 = binding.ipv4) := by
  unfold allocate requestedCandidate at h
  by_cases hask : demand.requestedIpv4 = ""
  · simp only [hask, if_true, Option.none_or] at h
    rcases hfirst : firstAvailable (demandNetwork demand) state.occupied with _ | candidate
    · rw [hfirst] at h
      cases h
    rw [hfirst] at h
    obtain ⟨host, hhost, rfl⟩ := List.mem_map.mp (List.mem_of_find?_eq_some hfirst)
    have hfree := List.find?_some hfirst
    refine ⟨_, (Except.ok.inj h).symm, usableIn_of_mem_hosts hhost, absurd hask, fun hin => ?_⟩
    simp only [hin] at hfree
    cases hfree
  · obtain ⟨address, hparse, husable⟩ := haccepted.requested hask
    have hread : addressOfText demand.requestedIpv4 = address := by
      rw [addressOfText, hparse, Option.getD_some]
    have htext : text address = demand.requestedIpv4 := text_of_parseAddress hparse
    simp only [hask, if_false, hread, htext] at h
    split_ifs at h with hfree
    refine ⟨address, (Except.ok.inj h).symm, husable, fun _ => htext, fun hin => ⟨hask, ?_⟩⟩
    rw [htext] at hin
    rcases Bool.or_eq_true_iff.mp hfree with hnone | hany
    · rw [Dict.contains, Option.isNone_iff_eq_none.mp hnone] at hin
      cases hin
    rcases found with _ | binding
    · cases hany
    have heq : demand.requestedIpv4 = text (addressOfText binding.ipv4) :=
      of_decide_eq_true hany
    exact ⟨binding, rfl, heq.trans (text_addressOfText (hfound binding rfl))⟩

/-! ## One service -/

/-- A served demand: the binding it matched, the address it got, and whether that preserves the
matched binding. -/
structure Service where
  demand : InfrastructureAddressDemand
  matched : Option ExistingAddressBinding
  address : IPv4Address
  preserved : Bool

variable {services before after : List Service} {service : Service}

/-- The binding that a service adds to the plan. -/
def Service.final (service : Service) : FinalAddressBinding :=
  { id := s!"address/{service.demand.id}"
    demandId := service.demand.id
    purpose := service.demand.purpose
    ownerId := service.demand.ownerId
    ipv4 := text service.address
    prefixLength := demandPrefix service.demand
    segmentId := service.demand.segmentId
    groupId := service.demand.groupId
    preserved := service.preserved
    sourceBindingId := (service.matched.map ExistingAddressBinding.id).getD "" }

/-- The proposal to move a binding that the demand matched to another address. -/
def renumberingOf (demand : InfrastructureAddressDemand) (address : IPv4Address)
    (binding : ExistingAddressBinding) : AddressRenumbering :=
  { demandId := demand.id
    ownerId := demand.ownerId
    previousIpv4 := binding.ipv4
    proposedIpv4 := text address
    previousPrefix := binding.prefixLength
    proposedPrefix := demandPrefix demand
    reason := renumberReason demand binding (demandNetwork demand) (demandPrefix demand) }

/-- The renumbering that a service proposes: one when it leaves its matched binding. -/
def Service.renumbering (service : Service) : Option AddressRenumbering :=
  if service.preserved then none
  else service.matched.map (renumberingOf service.demand service.address)

/-- The ids of the bindings that a list of services matched. -/
def servedIds (services : List Service) : List String :=
  services.flatMap fun service => (service.matched.map ExistingAddressBinding.id).toList

lemma mem_servedIds {id : String} :
    id ∈ servedIds services ↔
      ∃ service ∈ services, ∃ binding, service.matched = some binding ∧ binding.id = id := by
  simp [servedIds, Option.mem_toList]

/-- The service continues the earlier ones: it matches given what they matched, its address is
usable and the requested one, it preserves the matched binding exactly when that is possible, and
unless it takes the binding's address it has one that no existing binding and no earlier service
has. -/
structure Serves (existing : List ExistingAddressBinding) (before : List Service)
    (service : Service) : Prop where
  matched_eq : matchExisting (indexExisting existing) service.demand (servedIds before) =
    .ok service.matched
  usable : usableIn service.address (demandNetwork service.demand) = true
  requested : service.demand.requestedIpv4 ≠ "" →
    text service.address = service.demand.requestedIpv4
  preserved_eq : service.preserved = service.matched.any fun binding =>
    canPreserve service.demand binding (demandNetwork service.demand) (demandPrefix service.demand)
  address_eq : ∀ binding, service.matched = some binding → service.preserved = true →
    text service.address = binding.ipv4
  fresh : (∀ binding, service.matched = some binding → takes service.demand binding = false) →
    text service.address ∉ existing.map (·.ipv4) ∧
      text service.address ∉ before.map (text ·.address)

/-- The loop state after a list of services. -/
structure Records (existing : List ExistingAddressBinding) (services : List Service)
    (state : ReconcileState) : Prop where
  matched_eq : state.matchedBindingIds = servedIds services
  final_eq : state.final = services.map Service.final
  renumbering_eq : state.renumbering = services.filterMap Service.renumbering
  occupied_iff : ∀ ip, state.occupied.contains ip = true ↔
    ip ∈ existing.map (·.ipv4) ∨ ip ∈ services.map (text ·.address)

/-- Looking for a new address adds one service that continues the earlier ones. -/
lemma Records.allocate (hrecords : Records existing services state)
    (haccepted : AcceptedDemand enterprise demand) {state' : ReconcileState}
    {found : Option ExistingAddressBinding}
    (hfound : ∀ binding, found = some binding → (parseAddress binding.ipv4).isSome)
    (hmatch : matchExisting (indexExisting existing) demand (servedIds services) = .ok found)
    (hnot : found.any (fun binding =>
      canPreserve demand binding (demandNetwork demand) (demandPrefix demand)) = false)
    (h : AddressReconciler.allocate
      { state with
        matchedBindingIds := state.matchedBindingIds ++
          (found.map ExistingAddressBinding.id).toList }
      demand (demandNetwork demand) found = .ok state') :
    ∃ service : Service, service.demand = demand ∧ Serves existing services service ∧
      Records existing (services ++ [service]) state' := by
  obtain ⟨candidate, rfl, husable, hrequested, hfree⟩ :=
    exists_candidate_of_allocate haccepted hfound h
  refine ⟨⟨demand, found, candidate, false⟩, rfl,
    ⟨hmatch, husable, hrequested, hnot.symm, by simp, fun hleft => ?_⟩, ?_⟩
  · have hnew : ¬state.occupied.contains (text candidate) = true := fun hin => by
      obtain ⟨hask, binding, hbinding, heq⟩ := hfree hin
      have htakes := hleft binding hbinding
      rw [takes_eq haccepted] at htakes
      simp [hask, ← heq] at htakes
    rwa [hrecords.occupied_iff, not_or] at hnew
  · refine ⟨?_, ?_, ?_, fun ip => ?_⟩
    · cases found <;> simp [assignCandidate, servedIds, hrecords.matched_eq]
    · cases found <;> simp [assignCandidate, Service.final, demandPrefix, hrecords.final_eq]
    · cases found <;>
        simp [assignCandidate, Service.renumbering, renumberingOf, demandPrefix,
          hrecords.renumbering_eq]
    · have hoccupied : ((assignCandidate
          { state with
            matchedBindingIds := state.matchedBindingIds ++
              (found.map ExistingAddressBinding.id).toList }
          demand (demandNetwork demand) found candidate).occupied.contains ip = true) ↔
            text candidate = ip ∨ state.occupied.contains ip = true := by
        cases found <;>
          · simp only [assignCandidate, Dict.contains, Dict.get?_set]
            split_ifs with heq <;> simp [heq]
      rw [hoccupied, hrecords.occupied_iff, List.map_append, List.mem_append, List.map_cons,
        List.map_nil, List.mem_singleton, eq_comm, or_comm, or_assoc]

/-- **Step lemma.**  Serving a demand adds one service that continues the earlier ones. -/
lemma exists_serves_of_serveDemand (hadmitted : Admitted enterprise demands existing)
    {state' : ReconcileState} (hrecords : Records existing services state)
    (hdemand : demand ∈ demands)
    (h : serveDemand (networksOf demands) (indexExisting existing) state demand = .ok state') :
    ∃ service : Service, service.demand = demand ∧ Serves existing services service ∧
      Records existing (services ++ [service]) state' := by
  have haccepted := hadmitted.accepted demand hdemand
  simp only [serveDemand, hadmitted.networkFor_eq hdemand] at h
  rcases hmatch : matchExisting (indexExisting existing) demand state.matchedBindingIds
      with issue | found
  · rw [hmatch] at h
    cases h
  have hmatch' : matchExisting (indexExisting existing) demand (servedIds services) =
      .ok found := by rw [← hrecords.matched_eq, hmatch]
  rw [hmatch] at h
  rcases found with _ | binding
  · exact hrecords.allocate haccepted (by simp) hmatch' rfl (by simpa using h)
  have hmem : binding ∈ existing := hadmitted.mem_of_matchExisting hdemand hmatch'
  have hip : (parseAddress binding.ipv4).isSome := hadmitted.isSome_ipv4 hmem
  have htext := text_addressOfText hip
  dsimp only at h
  split_ifs at h with hpreserve
  · cases h
    obtain ⟨husable, hlength, hrequested⟩ :=
      (canPreserve_eq_true_iff haccepted hip).mp hpreserve
    refine ⟨⟨demand, some binding, addressOfText binding.ipv4, true⟩, rfl,
      ⟨hmatch', husable, fun hask => htext.trans (hrequested hask), hpreserve.symm, ?_,
        fun hleft => ?_⟩, ?_, ?_, ?_, fun ip => ?_⟩
    · rintro other hother -
      exact htext.trans (congrArg _ (Option.some.inj hother))
    · have htakes := hleft binding rfl
      rw [takes_eq haccepted, demandPrefix, hpreserve] at htakes
      cases htakes
    · simp [servedIds, hrecords.matched_eq]
    · simp [finalFromExisting, Service.final, demandPrefix, hrecords.final_eq]
    · simp [Service.renumbering, hrecords.renumbering_eq]
    · have hin : text (addressOfText binding.ipv4) ∈ existing.map (·.ipv4) :=
        htext.symm ▸ List.mem_map_of_mem hmem
      rw [hrecords.occupied_iff, List.map_append, List.mem_append, ← or_assoc]
      exact (or_iff_left_of_imp fun hlast =>
        Or.inl (List.mem_singleton.mp hlast ▸ hin)).symm
  · refine hrecords.allocate haccepted (fun other hother => ?_) hmatch'
      (Bool.eq_false_iff.mpr hpreserve) h
    exact Option.some.inj hother ▸ hip

/-! ## A whole run -/

/-- Every service continues the ones before it. -/
def ServiceChain (existing : List ExistingAddressBinding) (services : List Service) : Prop :=
  ∀ before service after, services = before ++ service :: after → Serves existing before service

/-- The state in which the loop starts. -/
def initialState (existing : List ExistingAddressBinding) : ReconcileState :=
  { occupied := Dict.ofList ((addressesOf existing).entries.map fun e => (e.1, text e.2)) }

lemma contains_initialState (existing : List ExistingAddressBinding) (ip : String) :
    (initialState existing).occupied.contains ip = true ↔ ip ∈ existing.map (·.ipv4) := by
  rw [initialState, Dict.contains, Dict.isSome_get?_ofList_iff, List.map_map]
  have hkeys := Dict.isSome_get?_iff_mem_keys (d := addressesOf existing) (k := ip)
  rw [addressesOf, Dict.isSome_get?_ofList_iff, List.map_map] at hkeys
  exact hkeys.symm

/-- **Run lemma.**  The loop is a chain of services, one for each demand in order. -/
lemma exists_services_of_run (hadmitted : Admitted enterprise demands existing)
    {served : List InfrastructureAddressDemand} (hserved : ∀ demand ∈ served, demand ∈ demands)
    (h : (reconcileMachine (networksOf demands) (indexExisting existing)).run
      (initialState existing) served = .ok state) :
    ∃ services : List Service, services.map (·.demand) = served ∧
      ServiceChain existing services ∧ Records existing services state := by
  refine Machine.induction_of_run _ (P := fun served state => ∃ services : List Service,
    services.map (·.demand) = served ∧ ServiceChain existing services ∧
      Records existing services state) h ?_ ?_
  · exact ⟨[], rfl, by simp [ServiceChain], rfl, rfl, rfl, fun ip => by
      simp [contains_initialState]⟩
  · rintro earlier demand hdemand state state' ⟨services, hmap, hchain, hrecords⟩ hstep
    obtain ⟨service, hservice, hserves, hrecords'⟩ :=
      exists_serves_of_serveDemand hadmitted hrecords (hserved demand hdemand) hstep
    exact ⟨services ++ [service], by simp [hmap, hservice], forall_split_concat hchain hserves,
      hrecords'⟩

/-! ## The returned plan -/

/-- The plan that is assembled from the state in which the loop ends. -/
def assembledPlan (semanticHash : FinalAddressPlan → String) (enterprise : IPv4Network)
    (existing : List ExistingAddressBinding) (state : ReconcileState) : FinalAddressPlan :=
  let unmatched := (sortedBy bindingSortKey existing).filter
    fun binding => binding.id ∉ state.matchedBindingIds
  let plan : FinalAddressPlan :=
    { addressSpace := IPv4Network.text enterprise
      bindings := sortedBy finalSortKey
        (state.final ++ unmatched.map (finalFromUnmatched (addressesOf existing)))
      renumbering := sortedBy
        (fun item : AddressRenumbering => toLex (item.demandId, item.ownerId)) state.renumbering }
  { plan with semanticHash := semanticHash plan }

/-- The result that carries the assembled plan. -/
def assembledResult (semanticHash : FinalAddressPlan → String) (enterprise : IPv4Network)
    (existing : List ExistingAddressBinding) (state : ReconcileState) : AddressReconcileResult :=
  let plan := assembledPlan semanticHash enterprise existing state
  { status := if plan.renumbering ≠ [] then .renumberRequired else .allocatedWithoutRenumber
    plan := some plan
    issues := state.issues }

lemma plan_eq_none_of_serveDemand {index : ExistingIndex}
    {result : AddressReconcileResult}
    (h : serveDemand networks index state demand = .error result) : result.plan = none := by
  have hallocate : ∀ state found,
      allocate state demand (networkFor networks demand) found = .error result →
        result.plan = none := by
    intro state found h
    unfold allocate at h
    split at h
    · cases h
      rfl
    · split at h <;> cases h
      rfl
  simp only [serveDemand] at h
  split at h
  · cases h
    rfl
  · exact hallocate _ _ h
  · split_ifs at h
    exact hallocate _ _ h

variable {semanticHash : FinalAddressPlan → String} {addressSpace : String}
  {plan : FinalAddressPlan}

lemma Admitted.reconcile_eq (semanticHash : FinalAddressPlan → String)
    (h : Admitted enterprise demands existing) (hspace : parseNetwork addressSpace = some enterprise)
    (hrun : (reconcileMachine (networksOf demands) (indexExisting existing)).run
      (initialState existing) (orderedDemands demands (networksOf demands)) = .ok state) :
    reconcile semanticHash addressSpace demands existing =
      assembledResult semanticHash enterprise existing state := by
  unfold initialState at hrun
  simp only [reconcile, hspace, h.validateDemands_eq, h.validateExisting_eq, h.index_ok, hrun,
    ne_eq, not_true_eq_false, if_false]
  rfl

/-- A returned plan comes from admitted inputs whose loop ends normally. -/
lemma exists_admitted_of_plan
    (h : (reconcile semanticHash addressSpace demands existing).plan = some plan) :
    ∃ enterprise state, parseNetwork addressSpace = some enterprise ∧
      Admitted enterprise demands existing ∧
      (reconcileMachine (networksOf demands) (indexExisting existing)).run
        (initialState existing) (orderedDemands demands (networksOf demands)) = .ok state ∧
      plan = assembledPlan semanticHash enterprise existing state := by
  have hplan := h
  unfold reconcile at h
  rcases hspace : parseNetwork addressSpace with _ | enterprise
  · rw [hspace] at h
    cases h
  rw [hspace] at h
  cases hdemands : validateDemands enterprise demands with
  | mk networks demandIssues =>
    cases hexisting : validateExisting enterprise existing with
    | mk addresses existingIssues =>
      simp only [hdemands, hexisting] at h
      split_ifs at h with hissues hissues' hissues''
      rw [not_not] at hissues hissues' hissues''
      obtain ⟨hids, haccepted⟩ := validateDemands_issues_eq_nil_iff.mp
        ((congrArg Prod.snd hdemands).trans hissues)
      obtain ⟨hids', hips, hdeployed⟩ := validateExisting_issues_eq_nil_iff.mp
        ((congrArg Prod.snd hexisting).trans hissues')
      have hadmitted : Admitted enterprise demands existing :=
        ⟨hids, haccepted, hids', hips, hdeployed,
          (issues_indexExisting_eq_nil_iff (List.Nodup.of_map _ hids')).mp hissues''⟩
      obtain rfl : networksOf demands = networks :=
        congrArg Prod.fst (hadmitted.validateDemands_eq.symm.trans hdemands)
      obtain rfl : addressesOf existing = addresses :=
        congrArg Prod.fst (hadmitted.validateExisting_eq.symm.trans hexisting)
      split at h
      · next result hrun =>
        obtain ⟨demand, -, state, hstep⟩ := Machine.exists_step_of_run_eq_error _ hrun
        rw [plan_eq_none_of_serveDemand hstep] at h
        cases h
      · next state hrun =>
        rw [hadmitted.reconcile_eq _ hspace hrun] at hplan
        exact ⟨enterprise, state, rfl, hadmitted, hrun, (Option.some.inj hplan).symm⟩

lemma status_eq_allocated_iff
    (h : (reconcile semanticHash addressSpace demands existing).plan = some plan) :
    (reconcile semanticHash addressSpace demands existing).status = .allocatedWithoutRenumber ↔
      plan.renumbering = [] := by
  obtain ⟨enterprise, state, hspace, hadmitted, hrun, rfl⟩ := exists_admitted_of_plan h
  rw [hadmitted.reconcile_eq _ hspace hrun, assembledResult]
  by_cases hnil : (assembledPlan semanticHash enterprise existing state).renumbering = []
  · simp [hnil]
  · simp [hnil]

/-- The key by which the demands are ordered, read from the demand itself. -/
def orderKey (demand : InfrastructureAddressDemand) :
    ℕ ×ₗ ℕ ×ₗ String ×ₗ String ×ₗ String ×ₗ String :=
  demandOrderKey (demandNetwork demand) demand

lemma id_eq_of_orderKey_eq {a b : InfrastructureAddressDemand} (h : orderKey a = orderKey b) :
    a.id = b.id := by
  simp only [orderKey, demandOrderKey, EmbeddingLike.apply_eq_iff_eq, Prod.mk.injEq] at h
  exact h.2.2.2.2.2

/-- The order of the loop is the order of the keys. -/
lemma Admitted.ascending_orderedDemands (h : Admitted enterprise demands existing) :
    (orderedDemands demands (networksOf demands)).Pairwise fun a b => orderKey a < orderKey b := by
  have hkey : ∀ demand ∈ demands,
      demandOrderKey (networkFor (networksOf demands) demand) demand = orderKey demand :=
    fun demand hdemand => by rw [h.networkFor_eq hdemand, orderKey]
  have hperm : (orderedDemands demands (networksOf demands)).Perm demands := perm_sortedBy _ _
  have hids : (orderedDemands demands (networksOf demands)).Pairwise fun a b => a.id ≠ b.id :=
    List.pairwise_map.mp ((hperm.map _).nodup_iff.mpr h.demandIds_nodup)
  have hsorted := pairwise_sortedBy
    (fun demand => demandOrderKey (networkFor (networksOf demands) demand) demand) demands
  refine ((hsorted.and hids).imp_of_mem fun {a b} ha hb hab => ?_)
  rw [hkey a (hperm.mem_iff.mp ha), hkey b (hperm.mem_iff.mp hb)] at hab
  exact lt_of_le_of_ne hab.1 fun heq => hab.2 (id_eq_of_orderKey_eq heq)

/-- The plan is read off a chain of services that serves every demand once, in the order of the
keys. -/
structure ReadsOff (enterprise : IPv4Network) (demands : List InfrastructureAddressDemand)
    (existing : List ExistingAddressBinding) (services : List Service) (plan : FinalAddressPlan) :
    Prop where
  admitted : Admitted enterprise demands existing
  chain : ServiceChain existing services
  ascending : services.Pairwise fun x y => orderKey x.demand < orderKey y.demand
  demands_perm : (services.map (·.demand)).Perm demands
  bindings_perm : plan.bindings.Perm (services.map Service.final ++
    (existing.filter fun binding => binding.id ∉ servedIds services).map
      (finalFromUnmatched (addressesOf existing)))
  renumbering_perm : plan.renumbering.Perm (services.filterMap Service.renumbering)

/-- **What a returned plan consists of**: the services of a chain over all demands, and the
bindings that the chain left unmatched. -/
theorem exists_readsOff_of_plan
    (h : (reconcile semanticHash addressSpace demands existing).plan = some plan) :
    ∃ enterprise services, parseNetwork addressSpace = some enterprise ∧
      ReadsOff enterprise demands existing services plan := by
  obtain ⟨enterprise, state, hspace, hadmitted, hrun, rfl⟩ := exists_admitted_of_plan h
  have hmem : ∀ demand ∈ orderedDemands demands (networksOf demands), demand ∈ demands :=
    fun demand hdemand => mem_sortedBy.mp hdemand
  obtain ⟨services, hserved, hchain, hrecords⟩ := exists_services_of_run hadmitted hmem hrun
  refine ⟨enterprise, services, hspace, hadmitted, hchain, ?_, ?_, ?_, ?_⟩
  · have hascending := hadmitted.ascending_orderedDemands
    rwa [← hserved, List.pairwise_map] at hascending
  · rw [hserved]
    exact perm_sortedBy _ _
  · refine (perm_sortedBy _ _).trans ?_
    rw [hrecords.final_eq, hrecords.matched_eq]
    exact List.Perm.append_left _ (((perm_sortedBy _ _).filter _).map _)
  · rw [← hrecords.renumbering_eq]
    exact perm_sortedBy _ _

section Reading

variable (h : ReadsOff enterprise demands existing services plan)

include h

lemma ReadsOff.mem_demands_iff :
    demand ∈ demands ↔ ∃ service ∈ services, service.demand = demand := by
  rw [← h.demands_perm.mem_iff, List.mem_map]

lemma ReadsOff.mem_demands (hservice : service ∈ services) : service.demand ∈ demands :=
  h.mem_demands_iff.mpr ⟨service, hservice, rfl⟩

lemma ReadsOff.accepted (hservice : service ∈ services) :
    AcceptedDemand enterprise service.demand :=
  h.admitted.accepted _ (h.mem_demands hservice)

lemma ReadsOff.nodup_demandIds : (services.map fun service => service.demand.id).Nodup := by
  have hnodup := (h.demands_perm.map (·.id)).nodup_iff.mpr h.admitted.demandIds_nodup
  rwa [List.map_map] at hnodup

lemma ReadsOff.serves (hservice : service ∈ services) :
    ∃ before, Serves existing before service := by
  obtain ⟨before, after, hsplit⟩ := List.append_of_mem hservice
  exact ⟨before, h.chain before service after hsplit⟩

lemma ReadsOff.matched_cases (hsplit : services = before ++ service :: after) :
    (∃ binding ∈ existing,
        binding.demandId = service.demand.id ∧ service.matched = some binding) ∨
      (Unclaimed existing service.demand ∧ ∀ binding, service.matched = some binding ↔
        Candidate existing service.demand (servedIds before) binding) :=
  matchExisting_cases h.admitted.index_ok (h.accepted (by simp [hsplit])).id_ne
    (h.chain before service after hsplit).matched_eq

lemma ReadsOff.mem_of_matched (hservice : service ∈ services)
    (hmatched : service.matched = some binding) : binding ∈ existing := by
  obtain ⟨before, hserves⟩ := h.serves hservice
  exact h.admitted.mem_of_matchExisting (h.mem_demands hservice) (hmatched ▸ hserves.matched_eq)

/-- The demand that a binding claims matches it: the index by demand does not ask whether the
binding is matched already. -/
lemma ReadsOff.matched_of_claim (hbinding : binding ∈ existing) (hservice : service ∈ services)
    (hclaim : binding.demandId = service.demand.id) : service.matched = some binding := by
  obtain ⟨before, after, hsplit⟩ := List.append_of_mem hservice
  rcases h.matched_cases hsplit with ⟨exact, hmem, hclaim', heq⟩ | ⟨hunclaimed, -⟩
  · rw [heq, h.admitted.claims binding hbinding exact hmem
      (hclaim ▸ (h.accepted hservice).id_ne) (hclaim.trans hclaim'.symm)]
  · exact absurd hclaim (hunclaimed binding hbinding)

/-- Of two services that matched one binding, the earlier one matched it as a candidate, and the
later one is the one that the binding claims. -/
lemma ReadsOff.candidate_and_claim {pre post : List Service} {earlier later : Service}
    (hsplit : services = pre ++ earlier :: (post ++ later :: after))
    (hmatched : earlier.matched = some binding) (hmatched' : later.matched = some binding) :
    (Unclaimed existing earlier.demand ∧
        Candidate existing earlier.demand (servedIds pre) binding) ∧
      binding.demandId = later.demand.id := by
  have hclaim : binding.demandId = later.demand.id := by
    have hsplit' : services = (pre ++ earlier :: post) ++ later :: after := by simp [hsplit]
    rcases h.matched_cases hsplit' with ⟨exact, -, hclaim, heq⟩ | ⟨-, hcandidate⟩
    · rw [hmatched'] at heq
      exact Option.some.inj heq ▸ hclaim
    · exact absurd (mem_servedIds.mpr ⟨earlier, by simp, binding, hmatched, rfl⟩)
        ((hcandidate binding).mp hmatched').unmatched
  refine ⟨?_, hclaim⟩
  rcases h.matched_cases hsplit with ⟨exact, -, hclaim', heq⟩ | ⟨hunclaimed, hcandidate⟩
  · rw [hmatched] at heq
    cases heq
    have hnodup := h.nodup_demandIds
    simp [hsplit, hclaim.symm.trans hclaim', List.nodup_append] at hnodup
  · exact ⟨hunclaimed, (hcandidate binding).mp hmatched⟩

/-- A service that takes its binding has the binding's address. -/
lemma ReadsOff.address_eq_of_takes (hservice : service ∈ services)
    (hmatched : service.matched = some binding) (htakes : takes service.demand binding = true) :
    text service.address = binding.ipv4 := by
  obtain ⟨before, hserves⟩ := h.serves hservice
  rw [takes_eq (h.accepted hservice), Bool.or_eq_true, Bool.and_eq_true] at htakes
  rcases htakes with hpreserve | ⟨hask, heq⟩
  · refine hserves.address_eq binding hmatched ?_
    rw [hserves.preserved_eq, hmatched]
    exact hpreserve
  · exact (hserves.requested (of_decide_eq_true hask)).trans (of_decide_eq_true heq)

/-- A service preserves its binding exactly when it gives the demand the binding's address and
prefix. -/
lemma ReadsOff.preserved_iff (hservice : service ∈ services)
    (hmatched : service.matched = some binding) :
    service.preserved = true ↔
      text service.address = binding.ipv4 ∧ demandPrefix service.demand = binding.prefixLength := by
  have hip := h.admitted.isSome_ipv4 (h.mem_of_matched hservice hmatched)
  obtain ⟨before, hserves⟩ := h.serves hservice
  have hpreserved : service.preserved = canPreserve service.demand binding
      (demandNetwork service.demand) (demandPrefix service.demand) := by
    rw [hserves.preserved_eq, hmatched]
    rfl
  constructor
  · intro htrue
    have hcan := (canPreserve_eq_true_iff (h.accepted hservice) hip).mp (hpreserved ▸ htrue)
    exact ⟨hserves.address_eq binding hmatched htrue, hcan.2.1.symm⟩
  · rintro ⟨htext, hlength⟩
    have haddress : addressOfText binding.ipv4 = service.address :=
      text_injective ((text_addressOfText hip).trans htext.symm)
    rw [hpreserved, canPreserve_eq_true_iff (h.accepted hservice) hip, haddress]
    exact ⟨hserves.usable, hlength.symm, fun hask => htext.symm.trans (hserves.requested hask)⟩

end Reading

/-- Two distinct members of a list stand in one order or the other. -/
lemma exists_split_of_ne {α : Type*} {l : List α} {a b : α} (ha : a ∈ l) (hb : b ∈ l)
    (hne : a ≠ b) : (∃ pre post after, l = pre ++ a :: (post ++ b :: after)) ∨
      ∃ pre post after, l = pre ++ b :: (post ++ a :: after) := by
  obtain ⟨pre, after, rfl⟩ := List.append_of_mem ha
  rw [List.mem_append, List.mem_cons] at hb
  rcases hb with hb | rfl | hb
  · obtain ⟨pre, post, rfl⟩ := List.append_of_mem hb
    exact Or.inr ⟨pre, post, after, by simp⟩
  · exact absurd rfl hne
  · obtain ⟨post, after, rfl⟩ := List.append_of_mem hb
    exact Or.inl ⟨pre, post, after, by simp⟩

end AddressReconciler

end PacketTracer
