import PacketTracer.Domain.AddressServices

/-!
# Returned bindings, a second reconciliation and the order of the inputs

Two bindings of a returned plan share an address only when two demands take the same existing
binding (`nodup_ipv4_iff`), and otherwise every existing binding is kept, renumbered or left alone
by one service.  The order in which demands and bindings are listed does not matter.

When the bindings of the plan are given back with the same demands, every demand is claimed by the
binding that the first run gave it, and nothing is renumbered.  The second run is served only when
the plan passes the checks on existing bindings: its addresses are pairwise distinct, and no binding
that no demand matched carries a generated id.
-/

namespace PacketTracer

open Ipaddress Dicts Machines PyText PrefixBlocks

namespace AddressReconciler

/-! ## When a binding is taken twice -/

/-- Two demands take one binding: `first` is the first unclaimed demand with the binding's
semantics, `second` is the demand that the binding names, it is served later, and both take the
binding's address. -/
structure TakenTwice (demands : List InfrastructureAddressDemand)
    (existing : List ExistingAddressBinding) (first second : InfrastructureAddressDemand)
    (binding : ExistingAddressBinding) : Prop where
  claim_eq : binding.demandId = second.id
  unclaimed : Unclaimed existing first
  key_eq : bindingSemanticKey binding = demandSemanticKey first
  least : ∀ other ∈ demands, Unclaimed existing other →
    bindingSemanticKey binding = demandSemanticKey other → orderKey first ≤ orderKey other
  order_lt : orderKey first < orderKey second
  takes_first : takes first binding = true
  takes_second : takes second binding = true

/-- Some existing binding is taken by two demands. -/
def SomeBindingTakenTwice (demands : List InfrastructureAddressDemand)
    (existing : List ExistingAddressBinding) : Prop :=
  ∃ first ∈ demands, ∃ second ∈ demands, ∃ binding ∈ existing,
    TakenTwice demands existing first second binding

section Readings

variable {enterprise : IPv4Network} {demands : List InfrastructureAddressDemand}
  {existing : List ExistingAddressBinding} {services before after pre post : List Service}
  {plan : FinalAddressPlan} {service earlier later : Service} {binding : ExistingAddressBinding}
  (h : ReadsOff enterprise demands existing services plan)

include h

lemma ReadsOff.orderKey_lt (hsplit : services = pre ++ earlier :: (post ++ later :: after)) :
    orderKey earlier.demand < orderKey later.demand := by
  have hascending := h.ascending
  rw [hsplit, List.pairwise_append, List.pairwise_cons] at hascending
  exact hascending.2.1.1 later (by simp)

/-- A service has the address of the binding it takes, or a new one. -/
lemma ReadsOff.takes_or_fresh (hsplit : services = before ++ service :: after) :
    (∃ binding ∈ existing, service.matched = some binding ∧ takes service.demand binding = true ∧
        text service.address = binding.ipv4) ∨
      (text service.address ∉ existing.map (·.ipv4) ∧
        text service.address ∉ before.map (text ·.address)) := by
  have hservice : service ∈ services := by simp [hsplit]
  by_cases htaken : ∃ binding, service.matched = some binding ∧ takes service.demand binding = true
  · obtain ⟨binding, hmatched, htakes⟩ := htaken
    exact Or.inl ⟨binding, h.mem_of_matched hservice hmatched, hmatched, htakes,
      h.address_eq_of_takes hservice hmatched htakes⟩
  · refine Or.inr ((h.chain before service after hsplit).fresh fun binding hmatched => ?_)
    cases htakes : takes service.demand binding with
    | false => rfl
    | true => exact absurd ⟨binding, hmatched, htakes⟩ htaken

/-- The first demand of a `TakenTwice` matches the binding: no earlier demand has. -/
lemma ReadsOff.matched_first {second : InfrastructureAddressDemand} (hsecond : second ∈ demands)
    (hbinding : binding ∈ existing)
    (htwice : TakenTwice demands existing service.demand second binding)
    (hservice : service ∈ services) : service.matched = some binding := by
  obtain ⟨before, after, hsplit⟩ := List.append_of_mem hservice
  rcases h.matched_cases hsplit with ⟨exact, hmem, hclaim, -⟩ | ⟨-, hcandidate⟩
  · exact absurd hclaim (htwice.unclaimed exact hmem)
  rw [hcandidate binding]
  refine ⟨hbinding, fun hpurpose => ?_, htwice.key_eq, fun hmem => ?_⟩
  · have hpurpose' := AddressPurpose.value_injective (congrArg Prod.fst htwice.key_eq)
    exact (h.accepted hservice).purpose_ne (hpurpose' ▸ hpurpose)
  · obtain ⟨other, hother, found, hfound, hid⟩ := mem_servedIds.mp hmem
    obtain ⟨pre, post, rfl⟩ := List.append_of_mem hother
    have hsplit' : services = pre ++ other :: (post ++ service :: after) := by simp [hsplit]
    have hother' : other ∈ services := by simp [hsplit']
    have hlt := h.orderKey_lt hsplit'
    obtain rfl : found = binding := List.inj_on_of_nodup_map h.admitted.bindingIds_nodup
      (h.mem_of_matched hother' hfound) hbinding hid
    rcases h.matched_cases hsplit' with ⟨exact, -, hclaim, heq⟩ | ⟨hunclaimed, hcandidate'⟩
    · rw [hfound] at heq
      cases heq
      have hsame : other.demand = second := List.inj_on_of_nodup_map h.admitted.demandIds_nodup
        (h.mem_demands hother') hsecond (hclaim.symm.trans htwice.claim_eq)
      exact absurd (hlt.trans htwice.order_lt) (hsame ▸ lt_irrefl _)
    · have hle := htwice.least other.demand (h.mem_demands hother') hunclaimed
        ((hcandidate' found).mp hfound).key_eq
      exact absurd hlt hle.not_gt

/-- Two services that take one binding make a `TakenTwice`. -/
lemma ReadsOff.takenTwice (hsplit : services = pre ++ earlier :: (post ++ later :: after))
    (hmatched : earlier.matched = some binding) (hmatched' : later.matched = some binding)
    (htakes : takes earlier.demand binding = true) (htakes' : takes later.demand binding = true) :
    TakenTwice demands existing earlier.demand later.demand binding := by
  obtain ⟨⟨hunclaimed, hcand⟩, hclaim⟩ := h.candidate_and_claim hsplit hmatched hmatched'
  refine ⟨hclaim, hunclaimed, hcand.key_eq, fun other hother hunclaimed' hkey => ?_,
    h.orderKey_lt hsplit, htakes, htakes'⟩
  by_contra hnot
  -- An unclaimed demand served still earlier would have matched the binding.
  obtain ⟨item, hitem, rfl⟩ := h.mem_demands_iff.mp hother
  have hitem' : item ∈ pre := by
    rw [hsplit, List.mem_append, List.mem_cons] at hitem
    have hascending := h.ascending
    rw [hsplit, List.pairwise_append, List.pairwise_cons] at hascending
    rcases hitem with hitem | rfl | hitem
    · exact hitem
    · exact absurd le_rfl hnot
    · exact absurd (hascending.2.1.1 item hitem).le hnot
  obtain ⟨pre', post', rfl⟩ := List.append_of_mem hitem'
  have hsplit' : services = pre' ++ item :: (post' ++ earlier :: (post ++ later :: after)) := by
    simp [hsplit]
  rcases h.matched_cases hsplit' with ⟨exact, hmem, hclaim', -⟩ | ⟨-, hcandidate'⟩
  · exact hunclaimed' exact hmem hclaim'
  have hfound : item.matched = some binding := by
    refine (hcandidate' binding).mpr ⟨hcand.mem, hcand.purpose_ne, hkey, fun hmem => ?_⟩
    obtain ⟨other, hother, found⟩ := mem_servedIds.mp hmem
    exact hcand.unmatched (mem_servedIds.mpr ⟨other, by simp [hother], found⟩)
  exact hcand.unmatched (mem_servedIds.mpr ⟨item, hitem', binding, hfound, rfl⟩)

/-- Services that share an address take one binding. -/
lemma ReadsOff.exists_takenTwice (hsplit : services = pre ++ earlier :: (post ++ later :: after))
    (heq : text earlier.address = text later.address) :
    SomeBindingTakenTwice demands existing := by
  have hsplit' : services = (pre ++ earlier :: post) ++ later :: after := by simp [hsplit]
  rcases h.takes_or_fresh hsplit' with ⟨binding, hbinding, hmatched', htakes', hip⟩ | hfresh
  · rcases h.takes_or_fresh hsplit with ⟨found, hfound, hmatched, htakes, hip'⟩ | hfresh
    · obtain rfl : found = binding := List.inj_on_of_nodup_map h.admitted.ipv4_nodup hfound
        hbinding (hip'.symm.trans (heq.trans hip))
      exact ⟨_, h.mem_demands (by simp [hsplit]), _, h.mem_demands (by simp [hsplit]), _, hfound,
        h.takenTwice hsplit hmatched hmatched' htakes htakes'⟩
    · exact absurd (heq ▸ hip ▸ List.mem_map_of_mem hbinding) hfresh.1
  · exact absurd (heq ▸ List.mem_map_of_mem (by simp)) hfresh.2

lemma ReadsOff.ipv4_perm :
    (plan.bindings.map (·.ipv4)).Perm (services.map (text ·.address) ++
      (existing.filter fun binding => binding.id ∉ servedIds services).map (·.ipv4)) := by
  refine (h.bindings_perm.map _).trans ?_
  rw [List.map_append, List.map_map, List.map_map]
  refine List.Perm.append_left _ (List.Perm.of_eq ?_)
  exact List.map_congr_left fun binding hbinding =>
    h.admitted.final_of_unmatched (List.mem_of_mem_filter hbinding)

/-- The addresses of the plan are pairwise distinct exactly when no binding is taken twice. -/
theorem ReadsOff.nodup_iff :
    (plan.bindings.map (·.ipv4)).Nodup ↔ ¬SomeBindingTakenTwice demands existing := by
  rw [h.ipv4_perm.nodup_iff]
  constructor
  · rintro hnodup ⟨first, hfirst, second, hsecond, binding, hbinding, htwice⟩
    obtain ⟨later, hlater, rfl⟩ := h.mem_demands_iff.mp hsecond
    obtain ⟨earlier, hearlier, rfl⟩ := h.mem_demands_iff.mp hfirst
    have hip := h.address_eq_of_takes hearlier
      (h.matched_first hsecond hbinding htwice hearlier) htwice.takes_first
    have hip' := h.address_eq_of_takes hlater
      (h.matched_of_claim hbinding hlater htwice.claim_eq) htwice.takes_second
    have hsame := List.inj_on_of_nodup_map (List.nodup_append.mp hnodup).1 hearlier hlater
      (hip.trans hip'.symm)
    exact absurd htwice.order_lt (hsame ▸ lt_irrefl _)
  · intro hnot
    rw [List.nodup_append]
    refine ⟨List.Nodup.map_on (fun a ha b hb heq => ?_) (List.Nodup.of_map _ h.nodup_demandIds),
      (List.filter_sublist.map _).nodup h.admitted.ipv4_nodup, ?_⟩
    · by_contra hne
      rcases exists_split_of_ne ha hb hne with ⟨_, _, _, hsplit⟩ | ⟨_, _, _, hsplit⟩
      · exact hnot (h.exists_takenTwice hsplit heq)
      · exact hnot (h.exists_takenTwice hsplit heq.symm)
    · rintro ip hip ip' hip' rfl
      obtain ⟨item, hitem, rfl⟩ := List.mem_map.mp hip
      obtain ⟨left, hleft, heq⟩ := List.mem_map.mp hip'
      obtain ⟨hleft, hunmatched⟩ := List.mem_filter.mp hleft
      obtain ⟨before, after, hsplit⟩ := List.append_of_mem hitem
      rcases h.takes_or_fresh hsplit with ⟨binding, hbinding, hmatched, -, hip⟩ | hfresh
      · obtain rfl : left = binding :=
          List.inj_on_of_nodup_map h.admitted.ipv4_nodup hleft hbinding (heq.trans hip)
        exact absurd (mem_servedIds.mpr ⟨item, hitem, left, hmatched, rfl⟩)
          (by simpa using hunmatched)
      · exact hfresh.1 (heq ▸ List.mem_map_of_mem hleft)

end Readings

/-! ## Its addresses -/

/-- **Uniqueness of the assigned addresses.**  The addresses of a returned plan are pairwise
distinct exactly when no existing binding is taken twice. -/
theorem nodup_ipv4_iff {semanticHash : FinalAddressPlan → String} {addressSpace : String}
    {demands : List InfrastructureAddressDemand} {existing : List ExistingAddressBinding}
    {plan : FinalAddressPlan}
    (h : (reconcile semanticHash addressSpace demands existing).plan = some plan) :
    (plan.bindings.map (·.ipv4)).Nodup ↔ ¬SomeBindingTakenTwice demands existing := by
  obtain ⟨enterprise, services, -, hreads⟩ := exists_readsOff_of_plan h
  exact hreads.nodup_iff

/-- Two demands for the same interface; the second one is named by the existing binding. -/
def contestedDemands : List InfrastructureAddressDemand :=
  [{ id := "a", purpose := .svi, ownerId := "core", network := "10.0.0.0/24" },
   { id := "b", purpose := .svi, ownerId := "core", network := "10.0.0.0/24" }]

/-- The binding that both demands take. -/
def contestedBinding : ExistingAddressBinding :=
  { id := "B", purpose := .svi, ownerId := "core", ipv4 := "10.0.0.5", prefixLength := 24
    demandId := "b" }

/-- The plan that the reconciler returns for them. -/
def contestedPlan : FinalAddressPlan :=
  { addressSpace := "10.0.0.0/8"
    bindings := contestedDemands.map fun demand => finalFromExisting demand contestedBinding 24 }

lemma reconcile_contested :
    (reconcile (fun _ => "") "10.0.0.0/8" contestedDemands [contestedBinding]).plan =
      some contestedPlan := by decide

/-- The equivalence at the contested binding, where both of its sides fail. -/
theorem nodup_ipv4_iff_contested :
    SomeBindingTakenTwice contestedDemands [contestedBinding] := by
  by_contra hnot
  exact absurd ((nodup_ipv4_iff reconcile_contested).mpr hnot) (by decide)

/-- The reconciler does return plans that assign an address twice. -/
theorem not_forall_nodup_ipv4 :
    ¬∀ (semanticHash : FinalAddressPlan → String) (addressSpace : String)
      (demands : List InfrastructureAddressDemand) (existing : List ExistingAddressBinding)
      (plan : FinalAddressPlan),
      (reconcile semanticHash addressSpace demands existing).plan = some plan →
        (plan.bindings.map (·.ipv4)).Nodup := by
  intro hall
  exact absurd (hall _ _ _ _ _ reconcile_contested) (by decide)

variable {semanticHash : FinalAddressPlan → String} {addressSpace : String}
  {enterprise : IPv4Network} {demands demands' : List InfrastructureAddressDemand}
  {existing existing' : List ExistingAddressBinding} {plan : FinalAddressPlan}
  {demand : InfrastructureAddressDemand} {state state' : ReconcileState}
  {occupied : Dict String String}

/-! ## Checks, matches and orders -/

lemma Admitted.perm (h : Admitted enterprise demands existing) (hdemands : demands.Perm demands')
    (hexisting : existing.Perm existing') : Admitted enterprise demands' existing' where
  demandIds_nodup := (hdemands.map _).nodup_iff.mp h.demandIds_nodup
  accepted demand hdemand := h.accepted demand (hdemands.mem_iff.mpr hdemand)
  bindingIds_nodup := (hexisting.map _).nodup_iff.mp h.bindingIds_nodup
  ipv4_nodup := (hexisting.map _).nodup_iff.mp h.ipv4_nodup
  deployed binding hbinding := h.deployed binding (hexisting.mem_iff.mpr hbinding)
  claims a ha b hb := h.claims a (hexisting.mem_iff.mpr ha) b (hexisting.mem_iff.mpr hb)

/-- A demand matches the same binding, or is refused for the same reason. -/
lemma Admitted.matchExisting_eq (h : Admitted enterprise demands existing)
    (h' : Admitted enterprise demands' existing') (hexisting : existing.Perm existing')
    (hdemand : demand ∈ demands) (matchedIds : List String) :
    matchExisting (indexExisting existing) demand matchedIds =
      matchExisting (indexExisting existing') demand matchedIds := by
  have hid := (h.accepted demand hdemand).id_ne
  have hbyDemand : (indexExisting existing).byDemand.get? demand.id =
      (indexExisting existing').byDemand.get? demand.id := by
    refine Option.ext fun binding => ?_
    rw [byDemand_indexExisting h.index_ok hid, byDemand_indexExisting h'.index_ok hid,
      hexisting.mem_iff]
  unfold matchExisting
  rw [hbyDemand]
  cases (indexExisting existing').byDemand.get? demand.id with
  | some exact => rfl
  | none =>
    simp only [bySemantics_indexExisting]
    have hperm := ((hexisting.filter fun b => b.purpose ≠ .endpoint ∧
      bindingSemanticKey b = demandSemanticKey demand).filter fun item => item.id ∉ matchedIds)
    rw [hperm.length_eq]
    split_ifs with hmany
    · rfl
    · refine congrArg Except.ok (Option.ext fun binding => ?_)
      rw [head?_eq_some_iff_of_length_le hmany, hperm.symm.mem_iff,
        head?_eq_some_iff_of_length_le (hperm.length_eq ▸ hmany)]

lemma Admitted.orderedDemands_eq (h : Admitted enterprise demands existing)
    (h' : Admitted enterprise demands' existing') (hdemands : demands.Perm demands') :
    orderedDemands demands (networksOf demands) = orderedDemands demands' (networksOf demands') := by
  have hperm : (orderedDemands demands (networksOf demands)).Perm
      (orderedDemands demands' (networksOf demands')) :=
    (perm_sortedBy _ _).trans (hdemands.trans (perm_sortedBy _ _).symm)
  exact hperm.eq_of_pairwise (fun a b _ _ hab hba => absurd hab hba.asymm)
    h.ascending_orderedDemands h'.ascending_orderedDemands

/-! ## The two runs -/

lemma allocate_of_contains_eq {network : IPv4Network} {found : Option ExistingAddressBinding}
    (hsame : ∀ ip, state.occupied.contains ip = occupied.contains ip)
    (h : allocate state demand network found = .ok state') :
    ∃ occupied', allocate { state with occupied := occupied } demand network found =
        .ok { state' with occupied := occupied' } ∧
      ∀ ip, state'.occupied.contains ip = occupied'.contains ip := by
  have hnone : ∀ ip, (state.occupied.get? ip).isNone = (occupied.get? ip).isNone := fun ip => by
    rw [← Option.not_isSome, ← Option.not_isSome]
    exact congrArg (!·) (hsame ip)
  have hrequested : requestedCandidate demand state.occupied found =
      requestedCandidate demand occupied found := by
    simp only [requestedCandidate, hnone]
  have hfirst : firstAvailable network state.occupied = firstAvailable network occupied := by
    simp only [firstAvailable, hsame]
  unfold allocate at h ⊢
  simp only [← hrequested, ← hfirst]
  rcases hcandidate : requestedCandidate demand state.occupied found with issue | requested
  · rw [hcandidate] at h
    cases h
  rw [hcandidate] at h
  dsimp only at h ⊢
  rcases hchosen : requested.or (firstAvailable network state.occupied) with _ | candidate
  · rw [hchosen] at h
    cases h
  rw [hchosen] at h
  cases h
  refine ⟨occupied.set (text candidate) s!"demand:{demand.id}", ?_, fun ip => ?_⟩
  · cases found <;> rfl
  · have hset : (assignCandidate state demand network found candidate).occupied =
        state.occupied.set (text candidate) s!"demand:{demand.id}" := by
      cases found <;> rfl
    simp only [hset, Dict.contains, Dict.get?_set]
    split_ifs
    · rfl
    · exact hsame ip

section Paired

variable (h : Admitted enterprise demands existing) (h' : Admitted enterprise demands' existing')
include h h'

/-- **Step lemma.**  One demand is served alike when the same addresses are occupied. -/
lemma Admitted.serveDemand_eq (hdemands : demands.Perm demands')
    (hexisting : existing.Perm existing') (hdemand : demand ∈ demands)
    (hsame : ∀ ip, state.occupied.contains ip = occupied.contains ip)
    (hstep : serveDemand (networksOf demands) (indexExisting existing) state demand = .ok state') :
    ∃ occupied', serveDemand (networksOf demands') (indexExisting existing')
        { state with occupied := occupied } demand = .ok { state' with occupied := occupied' } ∧
      ∀ ip, state'.occupied.contains ip = occupied'.contains ip := by
  simp only [serveDemand, h.networkFor_eq hdemand, h.matchExisting_eq h' hexisting hdemand]
    at hstep
  simp only [serveDemand, h'.networkFor_eq (hdemands.mem_iff.mp hdemand)]
  rcases hmatch : matchExisting (indexExisting existing') demand state.matchedBindingIds
      with issue | found
  · rw [hmatch] at hstep
    cases hstep
  rw [hmatch] at hstep
  rcases found with _ | binding
  · exact allocate_of_contains_eq hsame hstep
  dsimp only at hstep ⊢
  split_ifs at hstep ⊢ with hpreserve
  · cases hstep
    exact ⟨occupied, rfl, hsame⟩
  · refine allocate_of_contains_eq ?_ hstep
    exact hsame

/-- **Run lemma.**  The two runs end in states that agree but for the order of the occupied
addresses. -/
lemma Admitted.exists_run_eq (hdemands : demands.Perm demands')
    (hexisting : existing.Perm existing')
    (hrun : (reconcileMachine (networksOf demands) (indexExisting existing)).run
      (initialState existing) (orderedDemands demands (networksOf demands)) = .ok state) :
    ∃ occupied, (reconcileMachine (networksOf demands') (indexExisting existing')).run
      (initialState existing') (orderedDemands demands' (networksOf demands')) =
        .ok { state with occupied := occupied } := by
  rw [← h.orderedDemands_eq h' hdemands]
  suffices hboth : ∃ occupied, (reconcileMachine (networksOf demands') (indexExisting existing')).run
      (initialState existing') (orderedDemands demands (networksOf demands)) =
        .ok { state with occupied := occupied } ∧
      ∀ ip, state.occupied.contains ip = occupied.contains ip from
    hboth.imp fun _ hrun' => hrun'.1
  refine Machine.induction_of_run _ (P := fun served state => ∃ occupied,
    (reconcileMachine (networksOf demands') (indexExisting existing')).run
        (initialState existing') served = .ok { state with occupied := occupied } ∧
      ∀ ip, state.occupied.contains ip = occupied.contains ip) hrun ?_ ?_
  · refine ⟨(initialState existing').occupied, rfl, fun ip => ?_⟩
    rw [Bool.eq_iff_iff, contains_initialState, contains_initialState, (hexisting.map _).mem_iff]
  · rintro served demand hdemand state state' ⟨occupied, hserved, hsame⟩ hstep
    obtain ⟨occupied', hstep', hsame'⟩ := h.serveDemand_eq h' hdemands hexisting
      (mem_sortedBy.mp hdemand) hsame hstep
    exact ⟨occupied', (Machine.run_concat_eq_ok _).mpr ⟨_, hserved, hstep'⟩, hsame'⟩

/-! ## The two plans -/

lemma Admitted.assembledPlan_eq (hexisting : existing.Perm existing') :
    assembledPlan semanticHash enterprise existing' { state with occupied := occupied } =
      assembledPlan semanticHash enterprise existing state := by
  have hsorted : sortedBy bindingSortKey existing = sortedBy bindingSortKey existing' := by
    refine sortedBy_eq_of_perm hexisting fun a ha b hb hkey => ?_
    simp only [bindingSortKey, EmbeddingLike.apply_eq_iff_eq, Prod.mk.injEq] at hkey
    exact List.inj_on_of_nodup_map h.bindingIds_nodup ha hb hkey.2.2.2.2
  have hfinal : ∀ binding ∈ existing, finalFromUnmatched (addressesOf existing') binding =
      finalFromUnmatched (addressesOf existing) binding := by
    intro binding hbinding
    have hip := h.final_of_unmatched hbinding
    have hip' := h'.final_of_unmatched (hexisting.mem_iff.mp hbinding)
    simp only [finalFromUnmatched] at hip hip' ⊢
    rw [hip, hip']
  have hunmatched : ((sortedBy bindingSortKey existing).filter
      fun binding => binding.id ∉ state.matchedBindingIds).map
        (finalFromUnmatched (addressesOf existing')) =
      ((sortedBy bindingSortKey existing).filter
        fun binding => binding.id ∉ state.matchedBindingIds).map
          (finalFromUnmatched (addressesOf existing)) :=
    List.map_congr_left fun binding hbinding =>
      hfinal binding (mem_sortedBy.mp (List.mem_of_mem_filter hbinding))
  simp only [assembledPlan, ← hsorted, hunmatched]

end Paired

lemma plan_eq_some_of_perm (hdemands : demands.Perm demands') (hexisting : existing.Perm existing')
    (hplan : (reconcile semanticHash addressSpace demands existing).plan = some plan) :
    (reconcile semanticHash addressSpace demands' existing').plan = some plan := by
  obtain ⟨enterprise, state, hspace, h, hrun, rfl⟩ := exists_admitted_of_plan hplan
  have h' := h.perm hdemands hexisting
  obtain ⟨occupied, hrun'⟩ := h.exists_run_eq h' hdemands hexisting hrun
  rw [h'.reconcile_eq semanticHash hspace hrun', ← h.assembledPlan_eq h' hexisting]
  rfl

/-- **The order of the lists does not matter.**  Requests that differ only in the order of their
demands and of their existing bindings return the same plan, or both return none. -/
theorem reconcile_plan_eq_of_perm (semanticHash : FinalAddressPlan → String)
    (addressSpace : String) {demands demands' : List InfrastructureAddressDemand}
    {existing existing' : List ExistingAddressBinding} (hdemands : demands.Perm demands')
    (hexisting : existing.Perm existing') :
    (reconcile semanticHash addressSpace demands existing).plan =
      (reconcile semanticHash addressSpace demands' existing').plan :=
  Option.ext fun _ => ⟨plan_eq_some_of_perm hdemands hexisting,
    plan_eq_some_of_perm hdemands.symm hexisting.symm⟩

/-- The contested binding is taken twice in whatever order its demands are listed. -/
theorem reconcile_plan_eq_of_perm_contested :
    (reconcile (fun _ => "") "10.0.0.0/8" contestedDemands.reverse [contestedBinding]).plan =
      some contestedPlan :=
  (reconcile_plan_eq_of_perm _ _ (List.reverse_perm contestedDemands)
    (List.Perm.refl _)).trans reconcile_contested

/-! ## Kept or renumbered -/

/-- The plan has a binding that comes from the existing one and has its address and prefix. -/
def KeptIn (plan : FinalAddressPlan) (binding : ExistingAddressBinding) : Prop :=
  ∃ item ∈ plan.bindings, item.sourceBindingId = binding.id ∧ item.ipv4 = binding.ipv4 ∧
    item.prefixLength = binding.prefixLength

instance (plan : FinalAddressPlan) (binding : ExistingAddressBinding) :
    Decidable (KeptIn plan binding) := inferInstanceAs (Decidable (∃ _ ∈ _, _))

/-- The plan proposes a renumbering of the existing binding's address and prefix. -/
def RenumberedIn (plan : FinalAddressPlan) (binding : ExistingAddressBinding) : Prop :=
  ∃ item ∈ plan.renumbering, item.previousIpv4 = binding.ipv4 ∧
    item.previousPrefix = binding.prefixLength

instance (plan : FinalAddressPlan) (binding : ExistingAddressBinding) :
    Decidable (RenumberedIn plan binding) := inferInstanceAs (Decidable (∃ _ ∈ _, _))

/-- Two demands match one binding: the first by its semantics, the second by its claim. -/
def MatchedTwice (demands : List InfrastructureAddressDemand)
    (existing : List ExistingAddressBinding) (binding : ExistingAddressBinding) : Prop :=
  ∃ first ∈ demands, ∃ second ∈ demands, first ≠ second ∧ Unclaimed existing first ∧
    bindingSemanticKey binding = demandSemanticKey first ∧ binding.demandId = second.id

section Plans

variable {semanticHash : FinalAddressPlan → String} {addressSpace : String}
  {enterprise : IPv4Network} {demands : List InfrastructureAddressDemand}
  {existing : List ExistingAddressBinding} {services : List Service} {plan : FinalAddressPlan}
  {binding : ExistingAddressBinding}

/-- The bindings that come from a matched one are those of the services that matched it. -/
lemma ReadsOff.mem_bindings_iff_of_matched
    (h : ReadsOff enterprise demands existing services plan) (hid : binding.id ∈ servedIds services)
    (hbinding : binding ∈ existing) {item : FinalAddressBinding} :
    item ∈ plan.bindings ∧ item.sourceBindingId = binding.id ↔
      ∃ service ∈ services, service.matched = some binding ∧ service.final = item := by
  rw [h.bindings_perm.mem_iff, List.mem_append, List.mem_map, List.mem_map]
  constructor
  · rintro ⟨⟨service, hservice, rfl⟩ | ⟨left, hleft, rfl⟩, hsource⟩
    · rcases hmatched : service.matched with _ | found
      · simp only [Service.final, hmatched, Option.map_none, Option.getD_none] at hsource
        exact absurd hsource.symm (h.admitted.deployed binding hbinding).id_ne
      simp only [Service.final, hmatched, Option.map_some, Option.getD_some] at hsource
      have hfound := h.mem_of_matched hservice hmatched
      obtain rfl := List.inj_on_of_nodup_map h.admitted.bindingIds_nodup hfound hbinding hsource
      exact ⟨service, hservice, hmatched, rfl⟩
    · have hunmatched : left.id ∉ servedIds services := by
        simpa using (List.mem_filter.mp hleft).2
      have hsource' : left.id = binding.id := hsource
      exact absurd hid (hsource' ▸ hunmatched)
  · rintro ⟨service, hservice, hmatched, rfl⟩
    exact ⟨Or.inl ⟨service, hservice, rfl⟩, by simp [Service.final, hmatched]⟩

/-- The renumberings of an existing binding are those of the services that matched it and left
it. -/
lemma ReadsOff.renumberedIn_iff (h : ReadsOff enterprise demands existing services plan)
    (hbinding : binding ∈ existing) :
    RenumberedIn plan binding ↔
      ∃ service ∈ services, service.matched = some binding ∧ service.preserved = false := by
  unfold RenumberedIn
  simp only [h.renumbering_perm.mem_iff, List.mem_filterMap]
  constructor
  · rintro ⟨item, ⟨service, hservice, hitem⟩, hip, -⟩
    unfold Service.renumbering at hitem
    split_ifs at hitem with hpreserved
    obtain ⟨found, hmatched, rfl⟩ := Option.map_eq_some_iff.mp hitem
    have hfound := h.mem_of_matched hservice hmatched
    obtain rfl := List.inj_on_of_nodup_map h.admitted.ipv4_nodup hfound hbinding hip
    exact ⟨service, hservice, hmatched, by simpa using hpreserved⟩
  · rintro ⟨service, hservice, hmatched, hpreserved⟩
    refine ⟨renumberingOf service.demand service.address binding, ⟨service, hservice, ?_⟩, rfl, rfl⟩
    rw [Service.renumbering, hpreserved, hmatched]
    rfl

/-- Two services that matched one binding make a `MatchedTwice`. -/
lemma ReadsOff.matchedTwice (h : ReadsOff enterprise demands existing services plan) {a b : Service}
    (ha : a ∈ services) (hb : b ∈ services) (hne : a ≠ b) (hmatched : a.matched = some binding)
    (hmatched' : b.matched = some binding) : MatchedTwice demands existing binding := by
  have hof : ∀ {a b : Service} {pre post after : List Service},
      services = pre ++ a :: (post ++ b :: after) → a.matched = some binding →
        b.matched = some binding → MatchedTwice demands existing binding := by
    intro a b pre post after hsplit hmatched hmatched'
    obtain ⟨⟨hunclaimed, hcandidate⟩, hclaim⟩ := h.candidate_and_claim hsplit hmatched hmatched'
    exact ⟨a.demand, h.mem_demands (by simp [hsplit]), b.demand, h.mem_demands (by simp [hsplit]),
      fun heq => hunclaimed binding hcandidate.mem (heq ▸ hclaim), hunclaimed, hcandidate.key_eq,
      hclaim⟩
  rcases exists_split_of_ne ha hb hne with ⟨_, _, _, hsplit⟩ | ⟨_, _, _, hsplit⟩
  · exact hof hsplit hmatched hmatched'
  · exact hof hsplit hmatched' hmatched

/-- **Deployed state is never dropped silently.**  Every existing binding is kept with its address
and prefix or has its renumbering proposed; the status says that nothing is renumbered exactly when
no existing binding is; and both happen to one binding only when two demands match it. -/
theorem existing_accounted_for
    (h : (reconcile semanticHash addressSpace demands existing).plan = some plan) :
    (∀ binding ∈ existing, KeptIn plan binding ∨ RenumberedIn plan binding) ∧
      ((reconcile semanticHash addressSpace demands existing).status =
          .allocatedWithoutRenumber ↔ ∀ binding ∈ existing, ¬RenumberedIn plan binding) ∧
      ∀ binding ∈ existing, KeptIn plan binding → RenumberedIn plan binding →
        MatchedTwice demands existing binding := by
  obtain ⟨enterprise, services, -, hreads⟩ := exists_readsOff_of_plan h
  refine ⟨fun binding hbinding => ?_, ?_, fun binding hbinding hkept hrenumbered => ?_⟩
  · by_cases hid : binding.id ∈ servedIds services
    · obtain ⟨service, hservice, found, hmatched, hfound⟩ := mem_servedIds.mp hid
      obtain rfl := List.inj_on_of_nodup_map hreads.admitted.bindingIds_nodup
        (hreads.mem_of_matched hservice hmatched) hbinding hfound
      cases hpreserved : service.preserved with
      | true =>
        obtain ⟨htext, hlength⟩ := (hreads.preserved_iff hservice hmatched).mp hpreserved
        refine Or.inl ⟨service.final, ?_, by simp [Service.final, hmatched], htext, hlength⟩
        rw [hreads.bindings_perm.mem_iff]
        exact List.mem_append_left _ (List.mem_map_of_mem hservice)
      | false =>
        exact Or.inr ((hreads.renumberedIn_iff hbinding).mpr
          ⟨service, hservice, hmatched, hpreserved⟩)
    · refine Or.inl ⟨finalFromUnmatched (addressesOf existing) binding, ?_, rfl,
        hreads.admitted.final_of_unmatched hbinding, rfl⟩
      rw [hreads.bindings_perm.mem_iff]
      have hleft : binding ∈ existing.filter fun b => b.id ∉ servedIds services :=
        List.mem_filter.mpr ⟨hbinding, by simpa using hid⟩
      exact List.mem_append_right _ (List.mem_map_of_mem hleft)
  · rw [status_eq_allocated_iff h]
    constructor
    · rintro hnil binding - ⟨item, hitem, -⟩
      rw [hnil] at hitem
      cases hitem
    · intro hnone
      rw [List.eq_nil_iff_forall_not_mem]
      intro item hitem
      obtain ⟨service, hservice, hitem'⟩ :=
        List.mem_filterMap.mp (hreads.renumbering_perm.mem_iff.mp hitem)
      unfold Service.renumbering at hitem'
      split_ifs at hitem' with hpreserved
      obtain ⟨found, hmatched, -⟩ := Option.map_eq_some_iff.mp hitem'
      have hfound := hreads.mem_of_matched hservice hmatched
      exact hnone found hfound ((hreads.renumberedIn_iff hfound).mpr
        ⟨service, hservice, hmatched, by simpa using hpreserved⟩)
  · obtain ⟨left, hleft, hmatched, hnot⟩ := (hreads.renumberedIn_iff hbinding).mp hrenumbered
    obtain ⟨item, hitem, hsource, hip, hlength⟩ := hkept
    have hid : binding.id ∈ servedIds services :=
      mem_servedIds.mpr ⟨left, hleft, binding, hmatched, rfl⟩
    obtain ⟨kept, hkept, hmatched', rfl⟩ := (hreads.mem_bindings_iff_of_matched hid hbinding).mp ⟨hitem, hsource⟩
    have hpreserved := (hreads.preserved_iff hkept hmatched').mpr ⟨hip, hlength⟩
    refine hreads.matchedTwice hkept hleft (fun heq => ?_) hmatched' hmatched
    rw [heq, hnot] at hpreserved
    cases hpreserved

end Plans

/-- A demand that asks for another address than its binding has. -/
def movingDemand : InfrastructureAddressDemand :=
  { id := "a", purpose := .svi, ownerId := "core", network := "10.0.0.0/24"
    requestedIpv4 := "10.0.0.9" }

/-- Its binding, and one that no demand matches. -/
def movedBindings : List ExistingAddressBinding :=
  [{ id := "B", purpose := .svi, ownerId := "core", ipv4 := "10.0.0.5", prefixLength := 24 },
   { id := "C", purpose := .loopback, ownerId := "edge", ipv4 := "10.1.0.1", prefixLength := 32 }]

/-- The service of the moving demand. -/
def movingService : Service :=
  { demand := movingDemand
    matched := movedBindings.head?
    address := addressOfText "10.0.0.9"
    preserved := false }

/-- The plan that the reconciler returns for them. -/
def movingPlan : FinalAddressPlan :=
  { addressSpace := "10.0.0.0/8"
    bindings := [movingService.final] ++ movedBindings.tail.map fun binding =>
      finalFromUnmatched (Dict.ofList [("10.1.0.1", addressOfText "10.1.0.1")]) binding
    renumbering := movingService.renumbering.toList }

lemma reconcile_moving :
    (reconcile (fun _ => "") "10.0.0.0/8" [movingDemand] movedBindings).plan = some movingPlan := by
  decide

/-- The accounting of one binding that is renumbered and one that is kept. -/
theorem existing_accounted_for_moving :
    (∀ binding ∈ movedBindings, KeptIn movingPlan binding ∨ RenumberedIn movingPlan binding) ∧
      ¬∀ binding ∈ movedBindings, ¬RenumberedIn movingPlan binding := by
  obtain ⟨hall, hstatus, -⟩ := existing_accounted_for reconcile_moving
  exact ⟨hall, fun hnone => absurd (hstatus.mpr hnone) (by decide)⟩

/-! ## The plan as existing bindings -/

/-- A binding of a plan, given back as an existing one. -/
def asExisting (item : FinalAddressBinding) : ExistingAddressBinding :=
  { id := item.id
    purpose := item.purpose
    ownerId := item.ownerId
    ipv4 := item.ipv4
    prefixLength := item.prefixLength
    demandId := item.demandId
    segmentId := item.segmentId
    groupId := item.groupId }

/-- The addresses and prefixes that a plan gives to a demand. -/
def givenTo (plan : FinalAddressPlan) (demand : InfrastructureAddressDemand) : List (String × ℤ) :=
  (plan.bindings.filter fun item => item.demandId = demand.id).map fun item =>
    (item.ipv4, item.prefixLength)

/-- No demand matched the existing binding: what the plan derives from it belongs to no demand. -/
def UnmatchedIn (plan : FinalAddressPlan) (demands : List InfrastructureAddressDemand)
    (binding : ExistingAddressBinding) : Prop :=
  ∀ item ∈ plan.bindings, item.sourceBindingId = binding.id →
    ∀ demand ∈ demands, item.demandId ≠ demand.id

instance (plan : FinalAddressPlan) (demands : List InfrastructureAddressDemand)
    (binding : ExistingAddressBinding) : Decidable (UnmatchedIn plan demands binding) :=
  inferInstanceAs (Decidable (∀ _ ∈ _, _))

/-- The id that the reconciler generates for a demand. -/
def generatedId (demand : InfrastructureAddressDemand) : String := s!"address/{demand.id}"

lemma generatedId_ne_empty (demand : InfrastructureAddressDemand) : generatedId demand ≠ "" := by
  intro h
  have hlength := congrArg (fun s : String => s.toList.length) h
  simp [generatedId, toString] at hlength

lemma id_eq_of_generatedId_eq {a b : InfrastructureAddressDemand}
    (h : generatedId a = generatedId b) : a.id = b.id := by
  have hlists := congrArg String.toList h
  have hids : a.id.toList = b.id.toList := by simpa [generatedId, toString] using hlists
  exact String.toList_inj.mp hids

/-! ## What the checks accept -/

lemma parseAddress_final (service : Service) :
    parseAddress (asExisting service.final).ipv4 = some service.address := by
  rw [parseAddress_eq]
  exact parseIPv4_text service.address

section Again

variable {semanticHash : FinalAddressPlan → String} {addressSpace : String}
  {demands : List InfrastructureAddressDemand} {existing : List ExistingAddressBinding}
  {enterprise : IPv4Network} {services : List Service} {plan : FinalAddressPlan}
  {binding : ExistingAddressBinding} {service : Service}

lemma Admitted.asExisting_final (h : Admitted enterprise demands existing)
    (hbinding : binding ∈ existing) :
    asExisting (finalFromUnmatched (addressesOf existing) binding) = binding := by
  have hip := h.final_of_unmatched hbinding
  simp only [asExisting, hip]
  rfl

/-- The bindings given back are those of the services and the unmatched ones. -/
lemma ReadsOff.asExisting_perm (h : ReadsOff enterprise demands existing services plan) :
    (plan.bindings.map asExisting).Perm (services.map (asExisting ∘ Service.final) ++
      existing.filter fun binding => binding.id ∉ servedIds services) := by
  refine (h.bindings_perm.map asExisting).trans ?_
  rw [List.map_append, List.map_map, List.map_map]
  refine List.Perm.append_left _ (List.Perm.of_eq ?_)
  calc (existing.filter fun binding => binding.id ∉ servedIds services).map
        (asExisting ∘ finalFromUnmatched (addressesOf existing))
      = (existing.filter fun binding => binding.id ∉ servedIds services).map id :=
        List.map_congr_left fun binding hbinding =>
          h.admitted.asExisting_final (List.mem_of_mem_filter hbinding)
    _ = existing.filter fun binding => binding.id ∉ servedIds services := List.map_id _

section Reading

variable (h : ReadsOff enterprise demands existing services plan)

include h

lemma ReadsOff.demandId_ne_of_unmatched (hbinding : binding ∈ existing)
    (hunmatched : binding.id ∉ servedIds services) {demand : InfrastructureAddressDemand}
    (hdemand : demand ∈ demands) : binding.demandId ≠ demand.id := by
  intro hclaim
  obtain ⟨service, hservice, rfl⟩ := h.mem_demands_iff.mp hdemand
  have hmatched := h.matched_of_claim hbinding hservice hclaim
  exact hunmatched (mem_servedIds.mpr ⟨service, hservice, binding, hmatched, rfl⟩)

/-- A binding that no service matched is unmatched in the plan. -/
lemma ReadsOff.unmatchedIn (hbinding : binding ∈ existing)
    (hunmatched : binding.id ∉ servedIds services) : UnmatchedIn plan demands binding := by
  intro item hitem hsource demand hdemand
  rw [h.bindings_perm.mem_iff, List.mem_append, List.mem_map, List.mem_map] at hitem
  rcases hitem with ⟨service, hservice, rfl⟩ | ⟨left, hleft, rfl⟩
  · cases hmatched : service.matched with
    | none =>
      simp only [Service.final, hmatched, Option.map_none, Option.getD_none] at hsource
      exact absurd hsource.symm (h.admitted.deployed binding hbinding).id_ne
    | some found =>
      simp only [Service.final, hmatched, Option.map_some, Option.getD_some] at hsource
      exact absurd (mem_servedIds.mpr ⟨service, hservice, found, hmatched, hsource⟩) hunmatched
  · have hfilter := List.mem_filter.mp hleft
    exact h.demandId_ne_of_unmatched hfilter.1 (by simpa using hfilter.2) hdemand

/-- The binding of a service passes the checks on existing bindings. -/
lemma ReadsOff.deployed_final (hservice : service ∈ services) :
    DeployedBinding enterprise (asExisting service.final) := by
  have haccepted := h.accepted hservice
  obtain ⟨before, hserves⟩ := h.serves hservice
  have hmem : (service.address : ℕ) ∈ demandNetwork service.demand := by
    by_contra hnot
    have husable := hserves.usable
    rw [usableIn, if_pos hnot] at husable
    cases husable
  exact ⟨generatedId_ne_empty service.demand,
    ⟨service.address, parseAddress_final service, Block.mem_of_le haccepted.network_le hmem⟩,
    haccepted.prefix_mem.1, haccepted.prefix_mem.2, haccepted.owner_ne⟩

lemma ReadsOff.mem_asExisting (hservice : service ∈ services) :
    asExisting service.final ∈ plan.bindings.map asExisting :=
  List.mem_map_of_mem (h.bindings_perm.mem_iff.mpr
    (List.mem_append_left _ (List.mem_map_of_mem hservice)))

/-- **The plan is admitted again.**  With distinct addresses and ids that do not clash, the
bindings of the plan pass every check of a second run. -/
lemma ReadsOff.admitted_again (hips : (plan.bindings.map (·.ipv4)).Nodup)
    (hids : ∀ binding ∈ existing, UnmatchedIn plan demands binding →
      ∀ demand ∈ demands, binding.id ≠ generatedId demand) :
    Admitted enterprise demands (plan.bindings.map asExisting) := by
  have hperm := h.asExisting_perm
  have hmem : ∀ binding, binding ∈ plan.bindings.map asExisting ↔
      (∃ service ∈ services, asExisting service.final = binding) ∨
        (binding ∈ existing ∧ binding.id ∉ servedIds services) := by
    intro binding
    rw [hperm.mem_iff, List.mem_append, List.mem_map, List.mem_filter]
    simp
  refine ⟨h.admitted.demandIds_nodup, h.admitted.accepted, ?_, by rwa [List.map_map],
    fun binding hbinding => ?_, fun a ha b hb hne heq => ?_⟩
  · rw [(hperm.map _).nodup_iff, List.map_append, List.nodup_append]
    refine ⟨?_, (List.filter_sublist.map _).nodup h.admitted.bindingIds_nodup, ?_⟩
    · rw [List.map_map]
      refine List.Nodup.map_on (fun a ha b hb heq => ?_) (List.Nodup.of_map _ h.nodup_demandIds)
      have hsame : a.demand.id = b.demand.id := id_eq_of_generatedId_eq heq
      exact List.inj_on_of_nodup_map h.nodup_demandIds ha hb hsame
    · rintro id hid id' hid' rfl
      obtain ⟨binding, hbinding, rfl⟩ := List.mem_map.mp hid
      obtain ⟨service, hservice, rfl⟩ := List.mem_map.mp hbinding
      obtain ⟨left, hleft, heq⟩ := List.mem_map.mp hid'
      obtain ⟨hleft, hunmatched⟩ := List.mem_filter.mp hleft
      exact hids left hleft (h.unmatchedIn hleft (by simpa using hunmatched))
        service.demand (h.mem_demands hservice) heq
  · rcases (hmem binding).mp hbinding with ⟨service, hservice, rfl⟩ | ⟨hleft, -⟩
    · exact h.deployed_final hservice
    · exact h.admitted.deployed _ hleft
  · rcases (hmem a).mp ha with ⟨s, hs, rfl⟩ | ⟨ha, haunmatched⟩ <;>
      rcases (hmem b).mp hb with ⟨t, ht, rfl⟩ | ⟨hb, hbunmatched⟩
    · have hsame : s.demand.id = t.demand.id := heq
      rw [List.inj_on_of_nodup_map h.nodup_demandIds hs ht hsame]
    · exact absurd heq.symm (h.demandId_ne_of_unmatched hb hbunmatched (h.mem_demands hs))
    · exact absurd heq (h.demandId_ne_of_unmatched ha haunmatched (h.mem_demands ht))
    · exact h.admitted.claims a ha b hb hne heq

/-! ## The second run -/

lemma ReadsOff.canPreserve_final (hservice : service ∈ services) :
    canPreserve service.demand (asExisting service.final) (demandNetwork service.demand)
      (demandPrefix service.demand) = true := by
  have hread := parseAddress_final service
  have haddress : addressOfText (asExisting service.final).ipv4 = service.address := by
    rw [addressOfText, hread, Option.getD_some]
  obtain ⟨before, hserves⟩ := h.serves hservice
  rw [canPreserve_eq_true_iff (h.accepted hservice) (by rw [hread]; rfl), haddress]
  exact ⟨hserves.usable, rfl, hserves.requested⟩

/-- In the second run every demand is served by preserving the binding of the first run. -/
lemma ReadsOff.serveDemand_again
    (hagain : Admitted enterprise demands (plan.bindings.map asExisting))
    (hservice : service ∈ services) (state : ReconcileState) :
    serveDemand (networksOf demands) (indexExisting (plan.bindings.map asExisting)) state
        service.demand =
      .ok { state with
        matchedBindingIds := state.matchedBindingIds ++ [(asExisting service.final).id]
        final := state.final ++
          [finalFromExisting service.demand (asExisting service.final)
            (demandPrefix service.demand)] } := by
  have hfind : (indexExisting (plan.bindings.map asExisting)).byDemand.get? service.demand.id =
      some (asExisting service.final) :=
    (byDemand_indexExisting hagain.index_ok (h.accepted hservice).id_ne).mpr
      ⟨h.mem_asExisting hservice, rfl⟩
  have hmatch : matchExisting (indexExisting (plan.bindings.map asExisting)) service.demand
      state.matchedBindingIds = .ok (some (asExisting service.final)) := by
    have hkey : bindingSemanticKey (asExisting service.final) = demandSemanticKey service.demand :=
      rfl
    simp only [matchExisting, hfind, hkey, ne_eq, not_true_eq_false, if_false]
  have hpreserve := h.canPreserve_final hservice
  unfold demandPrefix at hpreserve
  simp only [serveDemand, hagain.networkFor_eq (h.mem_demands hservice), hmatch, hpreserve, if_true]
  rfl

lemma ReadsOff.exists_run_again
    (hagain : Admitted enterprise demands (plan.bindings.map asExisting)) :
    ∃ state, (reconcileMachine (networksOf demands)
      (indexExisting (plan.bindings.map asExisting))).run
        (initialState (plan.bindings.map asExisting))
        (orderedDemands demands (networksOf demands)) = .ok state ∧ state.renumbering = [] := by
  refine Machine.exists_run_of_forall_step _ rfl fun demand hdemand state hnil => ?_
  obtain ⟨service, hservice, rfl⟩ := h.mem_demands_iff.mp (mem_sortedBy.mp hdemand)
  exact ⟨_, h.serveDemand_again hagain hservice state, hnil⟩

/-- The plan gives a demand what its service assigned, and nothing else. -/
lemma ReadsOff.givenTo_eq (hservice : service ∈ services) :
    givenTo plan service.demand = [(text service.address, demandPrefix service.demand)] := by
  have hunmatched : ((existing.filter fun binding => binding.id ∉ servedIds services).map
      (finalFromUnmatched (addressesOf existing))).filter
        (fun item => item.demandId = service.demand.id) = [] := by
    rw [List.filter_eq_nil_iff]
    intro item hitem
    obtain ⟨left, hleft, rfl⟩ := List.mem_map.mp hitem
    have hfilter := List.mem_filter.mp hleft
    have hne := h.demandId_ne_of_unmatched hfilter.1 (by simpa using hfilter.2)
      (h.mem_demands hservice)
    exact fun heq => hne (of_decide_eq_true heq)
  have hserved : (services.map Service.final).filter
      (fun item => item.demandId = service.demand.id) = [service.final] := by
    have hnodup := h.nodup_demandIds
    obtain ⟨before, after, rfl⟩ := List.append_of_mem hservice
    simp only [List.map_append, List.map_cons, List.nodup_append, List.nodup_cons, List.mem_map,
      List.mem_cons] at hnodup
    have hnone : ∀ others : List Service,
        (∀ other ∈ others, other.demand.id ≠ service.demand.id) →
          (others.map Service.final).filter (fun item => item.demandId = service.demand.id) = [] := by
      simp [Service.final]
    rw [List.map_append, List.map_cons, List.filter_append, List.filter_cons_of_pos
      (by simp [Service.final]), hnone before, hnone after, List.nil_append]
    · exact fun other hother heq => hnodup.2.1.1 ⟨other, hother, heq⟩
    · exact fun other hother => hnodup.2.2 _ ⟨other, hother, rfl⟩ _ (Or.inl rfl)
  have hperm := h.bindings_perm.filter fun item => item.demandId = service.demand.id
  rw [List.filter_append, hserved, hunmatched, List.append_nil, List.perm_singleton] at hperm
  rw [givenTo, hperm]
  rfl

end Reading

/-- **Reconciling again changes nothing.**  When the addresses of a returned plan are pairwise
distinct and no unmatched binding carries a generated id, a second run over the bindings of the
plan returns a plan, renumbers nothing, and gives every demand the address and prefix it had. -/
theorem reconcile_again
    (h : (reconcile semanticHash addressSpace demands existing).plan = some plan)
    (hips : (plan.bindings.map (·.ipv4)).Nodup)
    (hids : ∀ binding ∈ existing, UnmatchedIn plan demands binding →
      ∀ demand ∈ demands, binding.id ≠ generatedId demand) :
    ∃ plan', (reconcile semanticHash addressSpace demands (plan.bindings.map asExisting)).plan =
        some plan' ∧
      (reconcile semanticHash addressSpace demands (plan.bindings.map asExisting)).status =
        .allocatedWithoutRenumber ∧
      plan'.renumbering = [] ∧
      ∀ demand ∈ demands, ∃ given, givenTo plan demand = [given] ∧
        givenTo plan' demand = [given] := by
  obtain ⟨enterprise, services, hspace, hreads⟩ := exists_readsOff_of_plan h
  have hagain := hreads.admitted_again hips hids
  obtain ⟨state, hrun, hnil⟩ := hreads.exists_run_again hagain
  have hplan : (reconcile semanticHash addressSpace demands (plan.bindings.map asExisting)).plan =
      some (assembledPlan semanticHash enterprise (plan.bindings.map asExisting) state) := by
    rw [hagain.reconcile_eq semanticHash hspace hrun]
    rfl
  have hrenumbering : (assembledPlan semanticHash enterprise (plan.bindings.map asExisting)
      state).renumbering = [] := by
    simp [assembledPlan, hnil]
  refine ⟨_, hplan, (status_eq_allocated_iff hplan).mpr hrenumbering, hrenumbering, ?_⟩
  intro demand hdemand
  obtain ⟨service, hservice, rfl⟩ := hreads.mem_demands_iff.mp hdemand
  refine ⟨_, hreads.givenTo_eq hservice, ?_⟩
  obtain ⟨enterprise', services', -, hreads'⟩ := exists_readsOff_of_plan hplan
  obtain ⟨service', hservice', hsame⟩ := hreads'.mem_demands_iff.mp hdemand
  -- The second run serves the demand with the binding that the first run gave it.
  have hmatched : service'.matched = some (asExisting service.final) :=
    hreads'.matched_of_claim (hreads.mem_asExisting hservice) hservice' (by rw [hsame]; rfl)
  obtain ⟨before', hserves'⟩ := hreads'.serves hservice'
  have hpreserved : service'.preserved = true := by
    rw [hserves'.preserved_eq, hmatched, hsame]
    exact hreads.canPreserve_final hservice
  have haddress : text service'.address = text service.address :=
    hserves'.address_eq _ hmatched hpreserved
  have hgivenTo := hreads'.givenTo_eq hservice'
  rw [hsame, haddress] at hgivenTo
  exact hgivenTo

/-- **Every demand is served, and nothing is invented.**  A returned plan gives each demand exactly
one address, usable in its pool and the requested one when one was requested, under the demand's
prefix; every other binding of the plan is an existing one, unchanged. -/
theorem demands_served
    (h : (reconcile semanticHash addressSpace demands existing).plan = some plan) :
    (∀ demand ∈ demands, ∃ network address, parseNetwork demand.network = some network ∧
      usableIn address network ∧
      (demand.requestedIpv4 ≠ "" → text address = demand.requestedIpv4) ∧
      givenTo plan demand = [(text address, interfacePrefix demand network)]) ∧
    ∀ item ∈ plan.bindings, (∀ demand ∈ demands, item.demandId ≠ demand.id) →
      asExisting item ∈ existing := by
  obtain ⟨enterprise, services, -, hreads⟩ := exists_readsOff_of_plan h
  refine ⟨fun demand hdemand => ?_, fun item hitem hnone => ?_⟩
  · obtain ⟨service, hservice, rfl⟩ := hreads.mem_demands_iff.mp hdemand
    obtain ⟨before, hserves⟩ := hreads.serves hservice
    exact ⟨demandNetwork service.demand, service.address, (hreads.accepted hservice).network_eq,
      hserves.usable, hserves.requested, hreads.givenTo_eq hservice⟩
  · rw [hreads.bindings_perm.mem_iff, List.mem_append, List.mem_map, List.mem_map] at hitem
    rcases hitem with ⟨service, hservice, rfl⟩ | ⟨left, hleft, rfl⟩
    · exact absurd rfl (hnone service.demand (hreads.mem_demands hservice))
    · have hexisting := List.mem_of_mem_filter hleft
      rwa [hreads.admitted.asExisting_final hexisting]

end Again

/-- The moved binding stays where the first run moved it. -/
theorem reconcile_again_moving :
    ∃ plan', (reconcile (fun _ => "") "10.0.0.0/8" [movingDemand]
        (movingPlan.bindings.map asExisting)).plan = some plan' ∧
      givenTo plan' movingDemand = [("10.0.0.9", 24)] := by
  obtain ⟨plan', hplan, -, -, hgiven⟩ := reconcile_again reconcile_moving (by decide)
    (by decide)
  obtain ⟨given, hfirst, hsecond⟩ := hgiven movingDemand (by simp)
  refine ⟨plan', hplan, hsecond.trans (hfirst.symm.trans ?_)⟩
  decide

/-- The demand that is moved is given what it asks for. -/
theorem demands_served_moving : givenTo movingPlan movingDemand = [("10.0.0.9", 24)] := by
  obtain ⟨network, address, hnetwork, -, hrequested, hgiven⟩ :=
    (demands_served reconcile_moving).1 movingDemand (by simp)
  have hread : parseNetwork movingDemand.network = some (demandNetwork movingDemand) := by decide
  obtain rfl := Option.some.inj (hread.symm.trans hnetwork)
  rw [hgiven, hrequested (by decide)]
  decide

end AddressReconciler
end PacketTracer
