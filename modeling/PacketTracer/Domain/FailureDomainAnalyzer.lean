import PacketTracer.Library.PyText

/-!
# Failure domains and the independence of two paths

`FailureDomainAnalyzer` compares two forwarding paths under an explicit fault scope.  A Python set
is the duplicate-free list of its elements; every set is sorted before it is reported.
`SharesBlockingDomain` and `Covered` state the two facts that decide the verdict.
-/

namespace PacketTracer

open PyText

/-- `FailureDomainType`. -/
inductive FailureDomainType
  | device
  | link
  | chassis
  | power
  | site
  | uplinkProvider
  | sharedRisk
  deriving DecidableEq

def FailureDomainType.value : FailureDomainType → String
  | device => "device"
  | link => "link"
  | chassis => "chassis"
  | power => "power"
  | site => "site"
  | uplinkProvider => "uplink_provider"
  | sharedRisk => "shared_risk"

/-- `FailureScenarioScope`. -/
inductive FailureScenarioScope
  | linkFault
  | deviceFault
  | chassisFault
  | powerFault
  | siteFault
  | uplinkProviderFault
  | sharedRiskFault
  deriving DecidableEq

/-- `IndependenceStatus`. -/
inductive IndependenceStatus
  | independent
  | notIndependent
  | unknown
  deriving DecidableEq

/-- `FailureDomain`: one declared or derived blast radius. -/
structure FailureDomain where
  id : String
  domainType : FailureDomainType
  deviceIds : List String := []
  linkIds : List String := []
  blocking : Bool := true
  deriving DecidableEq

/-- `FailureDomainCatalog`. -/
structure FailureDomainCatalog where
  domains : List FailureDomain := []
  deriving DecidableEq

/-- `FailurePath`: the ordered physical resources of one forwarding path. -/
structure FailurePath where
  id : String
  deviceIds : List String := []
  linkIds : List String := []
  endpointDeviceIds : List String := []
  deriving DecidableEq

/-- `effective_endpoint_device_ids`. -/
def FailurePath.effectiveEndpointDeviceIds (path : FailurePath) : List String :=
  if path.endpointDeviceIds ≠ [] then
    sortedBy (fun identifier => identifier) path.endpointDeviceIds.dedup
  else
    match path.deviceIds.head?, path.deviceIds.getLast? with
    | some first, some last => sortedBy (fun identifier => identifier) [first, last].dedup
    | _, _ => []

/-- `FailureScenario`: two paths compared for one explicitly scoped failure claim. -/
structure FailureScenario where
  id : String
  scope : FailureScenarioScope
  primaryPath : FailurePath
  survivingPath : FailurePath
  additionalRelevantDomainTypes : List FailureDomainType := []
  deriving DecidableEq

/-- `FailureDomainCoverageGap`. -/
structure FailureDomainCoverageGap where
  domainType : FailureDomainType
  primaryDeviceIds : List String := []
  primaryLinkIds : List String := []
  survivingDeviceIds : List String := []
  survivingLinkIds : List String := []
  reason : String := ""
  deriving DecidableEq

/-- `FailureDomainIndependenceResult`. -/
structure FailureDomainIndependenceResult where
  scenarioId : String
  scope : FailureScenarioScope
  status : IndependenceStatus
  relevantDomainTypes : List FailureDomainType := []
  blockingDomainIds : List String := []
  ignoredCommonEndpointDeviceIds : List String := []
  ignoredDomainIds : List String := []
  missingCoverage : List FailureDomainCoverageGap := []
  reasons : List String := []
  deriving DecidableEq

namespace FailureDomainAnalyzer

/-- `_REQUIRED_TYPES`. -/
def requiredTypesOf : FailureScenarioScope → List FailureDomainType
  | .linkFault => [.link, .device]
  | .deviceFault => [.device]
  | .chassisFault => [.chassis]
  | .powerFault => [.power]
  | .siteFault => [.site]
  | .uplinkProviderFault => [.uplinkProvider]
  | .sharedRiskFault => [.sharedRisk]

/-- `_OPTIONAL_RELEVANT_TYPES`: checked when declared, but their absence is no gap. -/
def optionalRelevantTypesOf : FailureScenarioScope → List FailureDomainType
  | .linkFault => [.chassis, .sharedRisk]
  | .deviceFault => [.chassis, .sharedRisk]
  | .chassisFault => [.sharedRisk]
  | .powerFault => [.sharedRisk]
  | .siteFault => [.sharedRisk]
  | .uplinkProviderFault => [.sharedRisk]
  | .sharedRiskFault => []

/-- `_domain_intersects`. -/
def domainIntersects (domain : FailureDomain) (path : FailurePath)
    (ignoredDeviceIds : List String) : Bool :=
  domain.deviceIds.any (fun device => device ∉ ignoredDeviceIds && device ∈ path.deviceIds) ||
    domain.linkIds.any (· ∈ path.linkIds)

/-- Whether the coverage of a kind of domain is about the links of the paths. -/
def usesLinks (domainType : FailureDomainType) (primary surviving : FailurePath) : Bool :=
  match domainType with
  | .link | .uplinkProvider => true
  | .sharedRisk => primary.linkIds ≠ [] || surviving.linkIds ≠ []
  | _ => false

/-- The elements that are not mapped, sorted. -/
def missing (elements mapped : List String) : List String :=
  sortedBy id (elements.dedup.filter (· ∉ mapped))

/-- `_coverage_gap`. -/
def coverageGap (domainType : FailureDomainType) (primary surviving : FailurePath)
    (domains : List FailureDomain) (ignoredDeviceIds : List String) :
    Option FailureDomainCoverageGap :=
  let typed := domains.filter (·.domainType = domainType)
  let mappedDevices := typed.flatMap FailureDomain.deviceIds
  let mappedLinks := typed.flatMap FailureDomain.linkIds
  if usesLinks domainType primary surviving then
    let primaryMissing := missing primary.linkIds mappedLinks
    let survivingMissing := missing surviving.linkIds mappedLinks
    if primaryMissing = [] ∧ survivingMissing = [] then none
    else some {
      domainType := domainType
      primaryLinkIds := primaryMissing
      survivingLinkIds := survivingMissing
      reason := s!"{domainType.value} coverage is missing for path links" }
  else
    let primaryMissing :=
      missing (primary.deviceIds.filter (· ∉ ignoredDeviceIds)) mappedDevices
    let survivingMissing :=
      missing (surviving.deviceIds.filter (· ∉ ignoredDeviceIds)) mappedDevices
    if primaryMissing = [] ∧ survivingMissing = [] then none
    else some {
      domainType := domainType
      primaryDeviceIds := primaryMissing
      survivingDeviceIds := survivingMissing
      reason := s!"{domainType.value} coverage is missing for path devices" }

variable (scenario : FailureScenario) (catalog : FailureDomainCatalog)

/-- The kinds of domain that a scenario requires. -/
def requiredTypes : List FailureDomainType :=
  (requiredTypesOf scenario.scope ++ scenario.additionalRelevantDomainTypes).dedup

/-- The kinds of domain that matter to a scenario. -/
def relevantTypes : List FailureDomainType :=
  (requiredTypes scenario ++ optionalRelevantTypesOf scenario.scope).dedup

/-- The endpoints that both paths share, which only a link fault ignores. -/
def commonEndpoints : List String :=
  if scenario.scope = .linkFault then
    scenario.primaryPath.effectiveEndpointDeviceIds.dedup.filter
      (· ∈ scenario.survivingPath.effectiveEndpointDeviceIds)
  else []

/-- The domains of a relevant kind. -/
def relevantDomains : List FailureDomain :=
  catalog.domains.filter (·.domainType ∈ relevantTypes scenario)

/-- Whether a domain meets both paths outside the given devices. -/
def meetsBoth (ignoredDeviceIds : List String) (domain : FailureDomain) : Bool :=
  domainIntersects domain scenario.primaryPath ignoredDeviceIds &&
    domainIntersects domain scenario.survivingPath ignoredDeviceIds

/-- The domains that both paths share. -/
def sharedDomains : List FailureDomain :=
  (relevantDomains scenario catalog).filter (meetsBoth scenario [])

/-- The shared domains that block, in the order of the catalog. -/
def blockingDomains : List FailureDomain :=
  (sharedDomains scenario catalog).filter fun domain =>
    meetsBoth scenario (commonEndpoints scenario) domain && domain.blocking

/-- The shared domains that meet the paths at common endpoints only. -/
def ignoredDomains : List FailureDomain :=
  (sharedDomains scenario catalog).filter fun domain =>
    !meetsBoth scenario (commonEndpoints scenario) domain

/-- The gaps in the coverage of the required kinds. -/
def coverageGaps : List FailureDomainCoverageGap :=
  (sortedBy FailureDomainType.value (requiredTypes scenario)).filterMap fun domainType =>
    coverageGap domainType scenario.primaryPath scenario.survivingPath
      (relevantDomains scenario catalog) (commonEndpoints scenario)

/-- The verdict and its reason. -/
def verdict : IndependenceStatus × String :=
  if blockingDomains scenario catalog ≠ [] then
    (.notIndependent, "primary and surviving paths share declared blocking failure domains")
  else if coverageGaps scenario catalog ≠ [] then
    (.unknown, "required failure-domain coverage is incomplete; independence cannot be claimed")
  else if scenario.primaryPath.linkIds = [] ∨ scenario.survivingPath.linkIds = [] then
    (.unknown, "both paths require explicit physical link membership")
  else (.independent, "no relevant declared blocking failure domain is shared")

/-- `analyze`. -/
def analyze : FailureDomainIndependenceResult :=
  { scenarioId := scenario.id
    scope := scenario.scope
    status := (verdict scenario catalog).1
    relevantDomainTypes := sortedBy FailureDomainType.value (relevantTypes scenario)
    blockingDomainIds := sortedBy id ((blockingDomains scenario catalog).map FailureDomain.id).dedup
    ignoredCommonEndpointDeviceIds := sortedBy id (commonEndpoints scenario)
    ignoredDomainIds := sortedBy id ((ignoredDomains scenario catalog).map FailureDomain.id).dedup
    missingCoverage := coverageGaps scenario catalog
    reasons := (verdict scenario catalog).2 ::
      if commonEndpoints scenario ≠ [] then
        ["common endpoints were ignored only because this is a link-fault scenario"] else [] }

/-- A domain meets a path outside the given devices. -/
def Touches (domain : FailureDomain) (path : FailurePath) (ignored : List String) : Prop :=
  (∃ device ∈ domain.deviceIds, device ∈ path.deviceIds ∧ device ∉ ignored) ∨
    ∃ link ∈ domain.linkIds, link ∈ path.linkIds

/-- A blocking domain of a relevant kind meets both paths outside their common endpoints. -/
def SharesBlockingDomain (scenario : FailureScenario) (catalog : FailureDomainCatalog) : Prop :=
  ∃ domain ∈ catalog.domains, domain.blocking ∧ domain.domainType ∈ relevantTypes scenario ∧
    Touches domain scenario.primaryPath (commonEndpoints scenario) ∧
    Touches domain scenario.survivingPath (commonEndpoints scenario)

/-- Every link of the two paths, or every device outside their common endpoints, lies in a domain
of the kind. -/
def Covered (domainType : FailureDomainType) (scenario : FailureScenario)
    (catalog : FailureDomainCatalog) : Prop :=
  if usesLinks domainType scenario.primaryPath scenario.survivingPath then
    ∀ link ∈ scenario.primaryPath.linkIds ++ scenario.survivingPath.linkIds,
      ∃ domain ∈ catalog.domains, domain.domainType = domainType ∧ link ∈ domain.linkIds
  else
    ∀ device ∈ scenario.primaryPath.deviceIds ++ scenario.survivingPath.deviceIds,
      device ∉ commonEndpoints scenario →
        ∃ domain ∈ catalog.domains, domain.domainType = domainType ∧ device ∈ domain.deviceIds

/-- The scenario with its two paths exchanged. -/
def exchanged (scenario : FailureScenario) : FailureScenario :=
  { scenario with
    primaryPath := scenario.survivingPath
    survivingPath := scenario.primaryPath }

variable {scenario : FailureScenario} {catalog : FailureDomainCatalog}

/-! ## The two facts behind a verdict -/

variable {domain : FailureDomain} {path : FailurePath} {ignored : List String}
  {domainType : FailureDomainType}

lemma domainIntersects_iff :
    domainIntersects domain path ignored ↔ Touches domain path ignored := by
  simp only [domainIntersects, Touches, Bool.or_eq_true, List.any_eq_true, Bool.and_eq_true,
    decide_eq_true_eq]
  refine or_congr (exists_congr fun device => and_congr_right fun _ => ?_) Iff.rfl
  exact and_comm

lemma Touches.mono (h : Touches domain path ignored) : Touches domain path [] := by
  rcases h with ⟨device, hdomain, hpath, -⟩ | hlink
  · exact Or.inl ⟨device, hdomain, hpath, List.not_mem_nil⟩
  · exact Or.inr hlink

lemma meetsBoth_iff :
    meetsBoth scenario ignored domain ↔
      Touches domain scenario.primaryPath ignored ∧
        Touches domain scenario.survivingPath ignored := by
  simp only [meetsBoth, Bool.and_eq_true, domainIntersects_iff]

lemma blockingDomains_ne_nil :
    blockingDomains scenario catalog ≠ [] ↔ SharesBlockingDomain scenario catalog := by
  rw [← List.isEmpty_eq_false_iff, List.isEmpty_eq_false_iff_exists_mem]
  simp only [blockingDomains, sharedDomains, relevantDomains, List.mem_filter, Bool.and_eq_true,
    decide_eq_true_eq, meetsBoth_iff]
  constructor
  · rintro ⟨domain, ⟨⟨hmem, hkind⟩, -⟩, ⟨hprimary, hsurviving⟩, hblocking⟩
    exact ⟨domain, hmem, hblocking, hkind, hprimary, hsurviving⟩
  · rintro ⟨domain, hmem, hblocking, hkind, hprimary, hsurviving⟩
    exact ⟨domain, ⟨⟨hmem, hkind⟩, hprimary.mono, hsurviving.mono⟩, ⟨hprimary, hsurviving⟩,
      hblocking⟩

lemma missing_eq_nil {elements mapped : List String} :
    missing elements mapped = [] ↔ ∀ element ∈ elements, element ∈ mapped := by
  rw [missing, sortedBy_eq_nil, List.filter_eq_nil_iff]
  simp only [List.mem_dedup, decide_eq_true_eq, not_not]

lemma mem_relevantTypes_of_mem (h : domainType ∈ requiredTypes scenario) :
    domainType ∈ relevantTypes scenario :=
  List.mem_dedup.mpr (List.mem_append_left _ h)

lemma mem_flatMap_relevantDomains (h : domainType ∈ relevantTypes scenario)
    (elements : FailureDomain → List String) {element : String} :
    element ∈ ((relevantDomains scenario catalog).filter (·.domainType = domainType)).flatMap
        elements ↔
      ∃ domain ∈ catalog.domains, domain.domainType = domainType ∧ element ∈ elements domain := by
  simp only [List.mem_flatMap, relevantDomains, List.mem_filter, decide_eq_true_eq]
  constructor
  · rintro ⟨domain, ⟨⟨hmem, -⟩, hkind⟩, helement⟩
    exact ⟨domain, hmem, hkind, helement⟩
  · rintro ⟨domain, hmem, rfl, helement⟩
    exact ⟨domain, ⟨⟨hmem, h⟩, rfl⟩, helement⟩

lemma coverageGap_eq_none (h : domainType ∈ relevantTypes scenario) :
    coverageGap domainType scenario.primaryPath scenario.survivingPath
        (relevantDomains scenario catalog) (commonEndpoints scenario) = none ↔
      Covered domainType scenario catalog := by
  unfold coverageGap Covered
  simp only
  by_cases hlinks : usesLinks domainType scenario.primaryPath scenario.survivingPath = true
  · rw [if_pos hlinks, if_pos hlinks, ite_eq_left_iff]
    simp only [missing_eq_nil, mem_flatMap_relevantDomains h, reduceCtorEq, imp_false, not_not,
      List.forall_mem_append]
  · rw [if_neg hlinks, if_neg hlinks, ite_eq_left_iff]
    simp only [missing_eq_nil, mem_flatMap_relevantDomains h, reduceCtorEq, imp_false, not_not,
      List.forall_mem_append, List.mem_filter, decide_eq_true_eq, and_imp]

lemma coverageGaps_eq_nil :
    coverageGaps scenario catalog = [] ↔
      ∀ domainType ∈ requiredTypes scenario, Covered domainType scenario catalog := by
  rw [coverageGaps, List.filterMap_eq_nil_iff]
  simp only [mem_sortedBy]
  exact forall₂_congr fun domainType h => coverageGap_eq_none (mem_relevantTypes_of_mem h)

/-! ## The verdict -/

lemma analyze_eq_notIndependent :
    (analyze scenario catalog).status = .notIndependent ↔
      SharesBlockingDomain scenario catalog := by
  rw [← blockingDomains_ne_nil, analyze, verdict]
  by_cases hblocking : blockingDomains scenario catalog ≠ []
  · simp [hblocking]
  · rw [if_neg hblocking]
    split_ifs <;> simp_all

/-- The paths are independent exactly when they share no blocking domain, every required kind is
covered and both name their links. -/
lemma analyze_eq_independent :
    (analyze scenario catalog).status = .independent ↔
      ¬SharesBlockingDomain scenario catalog ∧
      (∀ domainType ∈ requiredTypes scenario, Covered domainType scenario catalog) ∧
      scenario.primaryPath.linkIds ≠ [] ∧ scenario.survivingPath.linkIds ≠ [] := by
  rw [← blockingDomains_ne_nil, ← coverageGaps_eq_nil, analyze, verdict]
  by_cases hblocking : blockingDomains scenario catalog ≠ []
  · simp [hblocking]
  by_cases hgaps : coverageGaps scenario catalog = []
  · rw [if_neg hblocking, if_neg (not_not.mpr hgaps)]
    by_cases hlinks : scenario.primaryPath.linkIds = [] ∨ scenario.survivingPath.linkIds = []
    · rw [if_pos hlinks]
      simp only [reduceCtorEq, false_iff]
      tauto
    · rw [if_neg hlinks]
      simp only [true_iff]
      tauto
  · rw [if_neg hblocking, if_pos hgaps]
    simp only [reduceCtorEq, false_iff]
    tauto

/-! ## Exchanging the paths -/

lemma requiredTypes_exchanged : requiredTypes (exchanged scenario) = requiredTypes scenario := rfl

lemma relevantTypes_exchanged : relevantTypes (exchanged scenario) = relevantTypes scenario := rfl

lemma mem_commonEndpoints_exchanged {device : String} :
    device ∈ commonEndpoints (exchanged scenario) ↔ device ∈ commonEndpoints scenario := by
  unfold commonEndpoints exchanged
  simp only
  split_ifs
  · simp only [List.mem_filter, List.mem_dedup, decide_eq_true_eq]
    exact and_comm
  · rfl

lemma touches_congr {ignored' : List String} (h : ∀ device, device ∈ ignored ↔ device ∈ ignored') :
    Touches domain path ignored ↔ Touches domain path ignored' := by
  simp only [Touches, h]

lemma sharesBlockingDomain_exchanged :
    SharesBlockingDomain (exchanged scenario) catalog ↔ SharesBlockingDomain scenario catalog := by
  unfold SharesBlockingDomain
  refine exists_congr fun domain => and_congr_right fun _ => and_congr_right fun _ => ?_
  rw [relevantTypes_exchanged, touches_congr fun _ => mem_commonEndpoints_exchanged,
    touches_congr fun _ => mem_commonEndpoints_exchanged]
  exact and_congr_right fun _ => and_comm

lemma usesLinks_comm (domainType : FailureDomainType) (primary surviving : FailurePath) :
    usesLinks domainType primary surviving = usesLinks domainType surviving primary := by
  cases domainType <;> first | rfl | exact Bool.or_comm _ _

lemma covered_exchanged :
    Covered domainType (exchanged scenario) catalog ↔ Covered domainType scenario catalog := by
  unfold Covered
  simp only [mem_commonEndpoints_exchanged]
  rw [show usesLinks domainType (exchanged scenario).primaryPath
      (exchanged scenario).survivingPath = _ from usesLinks_comm ..]
  change (if usesLinks domainType scenario.primaryPath scenario.survivingPath then _ else _) ↔ _
  split_ifs
  · simp only [exchanged, List.forall_mem_append]
    exact and_comm
  · simp only [exchanged, List.forall_mem_append]
    exact and_comm

lemma status_eq_of_iff {status status' : IndependenceStatus}
    (hnot : status = .notIndependent ↔ status' = .notIndependent)
    (hindependent : status = .independent ↔ status' = .independent) : status = status' := by
  cases status <;> cases status' <;> simp_all

lemma status_exchanged :
    (analyze (exchanged scenario) catalog).status = (analyze scenario catalog).status := by
  refine status_eq_of_iff ?_ ?_
  · rw [analyze_eq_notIndependent, analyze_eq_notIndependent, sharesBlockingDomain_exchanged]
  · rw [analyze_eq_independent, analyze_eq_independent, sharesBlockingDomain_exchanged,
      requiredTypes_exchanged]
    simp only [covered_exchanged]
    exact and_congr_right fun _ => and_congr_right fun _ => and_comm

/-! ## Adding domains -/

lemma SharesBlockingDomain.mono {catalog' : FailureDomainCatalog}
    (h : SharesBlockingDomain scenario catalog)
    (hsubset : ∀ domain ∈ catalog.domains, domain ∈ catalog'.domains) :
    SharesBlockingDomain scenario catalog' := by
  obtain ⟨domain, hmem, hrest⟩ := h
  exact ⟨domain, hsubset domain hmem, hrest⟩

/-- **The independence verdict.**  Paths reported independent share no blocking domain of a
relevant kind outside their common endpoints, and every required kind covers both paths.  The
verdict is the same for exchanged paths, and a verdict of not independent survives every further
domain. -/
theorem independence_verdict (scenario : FailureScenario) (catalog : FailureDomainCatalog) :
    ((analyze scenario catalog).status = .independent →
      (∀ domainType ∈ requiredTypes scenario, Covered domainType scenario catalog) ∧
      ∀ domain ∈ catalog.domains, domain.blocking → domain.domainType ∈ relevantTypes scenario →
        ¬(Touches domain scenario.primaryPath (commonEndpoints scenario) ∧
          Touches domain scenario.survivingPath (commonEndpoints scenario))) ∧
    (analyze (exchanged scenario) catalog).status = (analyze scenario catalog).status ∧
    ∀ catalog' : FailureDomainCatalog,
      (∀ domain ∈ catalog.domains, domain ∈ catalog'.domains) →
      (analyze scenario catalog).status = .notIndependent →
        (analyze scenario catalog').status = .notIndependent := by
  refine ⟨fun h => ?_, status_exchanged, fun catalog' hsubset h => ?_⟩
  · obtain ⟨hshares, hcovered, -⟩ := analyze_eq_independent.mp h
    refine ⟨hcovered, fun domain hmem hblocking hkind htouches => hshares ?_⟩
    exact ⟨domain, hmem, hblocking, hkind, htouches⟩
  · exact analyze_eq_notIndependent.mpr ((analyze_eq_notIndependent.mp h).mono hsubset)

/-- Two parallel uplinks from one access switch, through different distribution switches. -/
def parallelUplinks : FailureScenario :=
  { id := "uplink"
    scope := .linkFault
    primaryPath := { id := "left", deviceIds := ["access", "dist-1", "core"], linkIds := ["l1"] }
    survivingPath :=
      { id := "right", deviceIds := ["access", "dist-2", "core"], linkIds := ["l2"] } }

/-- The device and link domains of the two uplinks; no chassis is known. -/
def uplinkDomains : FailureDomainCatalog :=
  { domains := [
      { id := "link/l1", domainType := .link, linkIds := ["l1"] },
      { id := "link/l2", domainType := .link, linkIds := ["l2"] },
      { id := "device/dist-1", domainType := .device, deviceIds := ["dist-1"] },
      { id := "device/dist-2", domainType := .device, deviceIds := ["dist-2"] }] }

/-- The kinds that are only checked when declared are relevant, but independence does not wait for
their coverage: two uplinks are independent without any chassis domain. -/
theorem not_forall_relevant_covered :
    ¬∀ (scenario : FailureScenario) (catalog : FailureDomainCatalog),
      (analyze scenario catalog).status = .independent →
        ∀ domainType ∈ relevantTypes scenario, Covered domainType scenario catalog := by
  intro h
  have hindependent : (analyze parallelUplinks uplinkDomains).status = .independent := by decide
  have hcovered := h parallelUplinks uplinkDomains hindependent .chassis (by decide)
  obtain ⟨domain, hmem, hkind, -⟩ := hcovered "dist-1" (by decide) (by decide)
  have hnone : ∀ domain ∈ uplinkDomains.domains, domain.domainType ≠ .chassis := by decide
  exact hnone domain hmem hkind

end FailureDomainAnalyzer

end PacketTracer
