import PacketTracer.Domain.ControlPlane
import PacketTracer.Domain.PhysicalDeployment
import PacketTracer.Library.Ranking

/-!
# Evidence for the foundations of a control plane

`foundational_evidence.py`: which status every foundation of a control-plane plan has, read off what
the configuration applicator and the physical deployer have executed.

Every verification result and every link that was deployed becomes a row of a source and a status;
two rows about one source resolve to the weaker.  A foundation is verified exactly when there is a
row about it and every row says so.  The strength table has two ties, so the order in which the
results are listed may decide between two statuses of the same strength, and decides nothing else.
-/

namespace PacketTracer

open Dicts PyValues PyStrs Ranking

namespace FoundationalEvidence

/-! ## Strength -/

/-- `_STATUS_STRENGTH`. -/
def statusStrength : ActionExecutionStatus → ℕ
  | .failed => 0
  | .dependencyBlocked => 10
  | .skipped => 20
  | .unknown => 20
  | .unobservable => 30
  | .intended => 40
  | .compiled => 50
  | .partial_ => 60
  | .applied => 70
  | .noOp => 80
  | .reasserted => 80
  | .verified => 100

/-- `_PHYSICAL_TO_ACTION`. -/
def physicalToAction : PhysicalDeploymentItemStatus → ActionExecutionStatus
  | .observed => .verified
  | .satisfied => .applied
  | .applied => .applied
  | .notAttempted => .intended
  | .failed => .failed

/-- `_weakest`. -/
def weakest (left right : ActionExecutionStatus) : ActionExecutionStatus :=
  if statusStrength right < statusStrength left then right else left

/-- `_merge`. -/
def merge (target : Dict String ActionExecutionStatus) (sourceId : String)
    (status : ActionExecutionStatus) : Dict String ActionExecutionStatus :=
  if sourceId = "" then target
  else
    target.set sourceId
      (match target.get? sourceId with
      | none => status
      | some existing => weakest existing status)

lemma statusStrength_le (status : ActionExecutionStatus) :
    statusStrength status ≤ statusStrength .verified := by
  cases status <;> decide

lemma eq_verified_of_statusStrength {status : ActionExecutionStatus}
    (h : statusStrength status = statusStrength .verified) : status = .verified := by
  cases status <;> first | rfl | exact absurd h (by decide)

/-- The statuses that the strength table does not tell apart. -/
def Tied (a b : ActionExecutionStatus) : Prop :=
  a ∈ [.skipped, .unknown] ∧ b ∈ [.skipped, .unknown] ∨
    a ∈ [.noOp, .reasserted] ∧ b ∈ [.noOp, .reasserted]

instance (a b : ActionExecutionStatus) : Decidable (Tied a b) :=
  inferInstanceAs (Decidable (_ ∨ _))

lemma eq_or_tied {a b : ActionExecutionStatus} (h : statusStrength a = statusStrength b) :
    a = b ∨ Tied a b := by
  cases a <;> cases b <;> first | exact .inl rfl | exact .inr (by decide) | exact absurd h (by decide)

/-! ## The evidence for one foundation -/

/-- `str(value or "").strip()` has characters. -/
def isStated (value : Option PyValue) : Bool :=
  match value with
  | some value => value.truthy && strip value.text.toList ≠ []
  | none => false

/-- `isinstance(value, str) and value.strip()`. -/
def isStatedText (value : Option PyValue) : Bool :=
  match value with
  | some (.str text) => strip text.toList ≠ []
  | _ => false

/-- `observation.get(key) is True`. -/
def saysTrue (observation : PyValue) (key : String) : Bool :=
  ((observation.get? key).map PyValue.isTrue).getD false

/-- `observation.get("failure_reason") in (None, "")`. -/
def hasNoFailureReason (observation : PyValue) : Bool :=
  match observation.get? "failure_reason" with
  | none => true
  | some reason => reason = .none || reason = .str ""

/-- The details of an observation of an endpoint address that names the device, the interface, the
address and the netmask. -/
def isExactEndpointObservation (details : ConvergenceDetails) : Bool :=
  match details.lastObservation with
  | some observation =>
    details.kind = some "endpoint_addressing" && observation.isDict &&
      saysTrue observation "device_found" && saysTrue observation "port_found" &&
      saysTrue observation "address_channel" && saysTrue observation "fresh_evidence" &&
      hasNoFailureReason observation && isStatedText details.deviceName &&
      isStatedText details.interface && observation.get? "interface" = details.interface &&
      isStated (observation.get? "ipv4") && isStated (observation.get? "netmask")
  | none => false

/-- `_endpoint_core_is_verified`. -/
def endpointCoreIsVerified (plan : ControlPlanePlan)
    (requirement : ControlPlaneFoundationRequirement)
    (configurationResult : ConfigurationApplicationResult) (verification : VerificationResult) :
    Bool :=
  match verification.convergence with
  | some convergence =>
    requirement.sourceHash = plan.sourceConfigurationHash &&
      configurationResult.configPlanId = plan.sourceConfigurationId &&
      configurationResult.configSemanticHash = plan.sourceConfigurationHash &&
      verification.actionId = requirement.sourceId && verification.expectationId ≠ "" &&
      (verification.status = .partial_ || verification.status = .verified) &&
      verification.evidenceMethod = "structured_endpoint_getters" && verification.freshEvidence &&
      verification.fields.get? "ipv4" = some .verified &&
      verification.fields.get? "netmask" = some .verified &&
      convergence.finalStatus = verification.status &&
      isExactEndpointObservation convergence.details
  | none => false

/-- `_configuration_foundation_status`. -/
def configurationFoundationStatus (plan : ControlPlanePlan)
    (requirement : ControlPlaneFoundationRequirement)
    (configurationResult : ConfigurationApplicationResult) (verification : VerificationResult) :
    ActionExecutionStatus :=
  if requirement.kind ≠ .endpointAddress then verification.status
  else if endpointCoreIsVerified plan requirement configurationResult verification then .verified
  -- A contradictory aggregate cannot outrank missing or stale core evidence.
  else if verification.status = .verified then .unknown
  else verification.status

/-- The status of a deployed link: an observation counts when the deployer has read it back. -/
def linkFoundationStatus (item : PhysicalDeploymentItemResult) : ActionExecutionStatus :=
  let status := physicalToAction item.status
  if status = .verified ∧ item.observed = false then .unknown else status

/-- The verification result credits the requirement: it is verified, or it is the exact observation
of the core of an endpoint. -/
def Credits (plan : ControlPlanePlan) (requirement : ControlPlaneFoundationRequirement)
    (configurationResult : ConfigurationApplicationResult) (verification : VerificationResult) :
    Prop :=
  if requirement.kind = .endpointAddress then
    endpointCoreIsVerified plan requirement configurationResult verification = true
  else verification.status = .verified

variable {plan : ControlPlanePlan} {configurationResult : ConfigurationApplicationResult}
  {row : String × ActionExecutionStatus}
  {requirement : ControlPlaneFoundationRequirement} {item : PhysicalDeploymentItemResult}
  {physicalResult : Option PhysicalDeploymentResult}

lemma configurationFoundationStatus_eq_verified_iff {verification : VerificationResult} :
    configurationFoundationStatus plan requirement configurationResult verification = .verified ↔
      Credits plan requirement configurationResult verification := by
  unfold configurationFoundationStatus Credits
  by_cases hkind : requirement.kind = .endpointAddress
  · rw [if_neg (not_not_intro hkind), if_pos hkind]
    by_cases hcore : endpointCoreIsVerified plan requirement configurationResult verification
    · simp [hcore]
    · by_cases hstatus : verification.status = .verified <;> simp [hcore, hstatus]
  · rw [if_pos hkind, if_neg hkind]

lemma linkFoundationStatus_eq_verified_iff :
    linkFoundationStatus item = .verified ↔ item.status = .observed ∧ item.observed = true := by
  unfold linkFoundationStatus
  cases hstatus : item.status <;> cases hobserved : item.observed <;> simp [physicalToAction]

/-! ## The derivation -/

/-- `requirements_by_source`. -/
def requirementsBySource (plan : ControlPlanePlan) :
    Dict String (List ControlPlaneFoundationRequirement) :=
  (plan.foundationalRequirements.filter (·.sourceId ≠ "")).foldl
    (fun groups requirement => appendTo groups requirement.sourceId requirement) .empty

/-- What one verification result adds. -/
def mergeVerification (plan : ControlPlanePlan)
    (configurationResult : ConfigurationApplicationResult)
    (statuses : Dict String ActionExecutionStatus) (item : VerificationResult) :
    Dict String ActionExecutionStatus :=
  match ((requirementsBySource plan).get? item.actionId).getD [] with
  | [] => merge statuses item.actionId item.status
  | requirements =>
    requirements.foldl
      (fun statuses requirement =>
        merge statuses requirement.sourceId
          (configurationFoundationStatus plan requirement configurationResult item))
      statuses

/-- What one item of the deployment adds. -/
def mergeItem (statuses : Dict String ActionExecutionStatus) (item : PhysicalDeploymentItemResult) :
    Dict String ActionExecutionStatus :=
  if item.targetKind ≠ .link then statuses
  else merge statuses item.targetId (linkFoundationStatus item)

/-- `derive_foundational_statuses`. -/
def deriveFoundationalStatuses (plan : ControlPlanePlan)
    (configurationResult : Option ConfigurationApplicationResult)
    (physicalResult : Option PhysicalDeploymentResult) : Dict String ActionExecutionStatus :=
  let statuses :=
    match configurationResult with
    | none => .empty
    | some result => result.verificationResults.foldl (mergeVerification plan result) .empty
  match physicalResult with
  | none => statuses
  | some result => result.itemResults.foldl mergeItem statuses

/-! ## The rows -/

/-- The declared foundations of a source. -/
def requirementsOf (plan : ControlPlanePlan) (sourceId : String) :
    List ControlPlaneFoundationRequirement :=
  plan.foundationalRequirements.filter fun requirement =>
    requirement.sourceId ≠ "" ∧ requirement.sourceId = sourceId

/-- The rows of one verification result. -/
def verificationRows (plan : ControlPlanePlan)
    (configurationResult : ConfigurationApplicationResult) (item : VerificationResult) :
    List (String × ActionExecutionStatus) :=
  match requirementsOf plan item.actionId with
  | [] => [(item.actionId, item.status)]
  | requirements =>
    requirements.map fun requirement =>
      (requirement.sourceId,
        configurationFoundationStatus plan requirement configurationResult item)

/-- The rows of one item of the deployment. -/
def itemRows (item : PhysicalDeploymentItemResult) : List (String × ActionExecutionStatus) :=
  if item.targetKind = .link then [(item.targetId, linkFoundationStatus item)] else []

/-- The rows of both results. -/
def evidenceRows (plan : ControlPlanePlan)
    (configurationResult : Option ConfigurationApplicationResult)
    (physicalResult : Option PhysicalDeploymentResult) : List (String × ActionExecutionStatus) :=
  (match configurationResult with
    | none => []
    | some result => result.verificationResults.flatMap (verificationRows plan result)) ++
  (match physicalResult with
    | none => []
    | some result => result.itemResults.flatMap itemRows)

lemma getD_requirementsBySource (plan : ControlPlanePlan) (sourceId : String) :
    ((requirementsBySource plan).get? sourceId).getD [] = requirementsOf plan sourceId := by
  have hgroup := getD_foldl_appendTo (plan.foundationalRequirements.filter (·.sourceId ≠ ""))
    ControlPlaneFoundationRequirement.sourceId id .empty sourceId
  refine hgroup.trans ?_
  simp [requirementsOf, List.filter_filter, and_comm]

/-- Rows without a source are passed over. -/
def mergeRow (statuses : Dict String ActionExecutionStatus)
    (row : String × ActionExecutionStatus) : Dict String ActionExecutionStatus :=
  merge statuses row.1 row.2

lemma mergeVerification_eq (plan : ControlPlanePlan)
    (configurationResult : ConfigurationApplicationResult)
    (statuses : Dict String ActionExecutionStatus) (item : VerificationResult) :
    mergeVerification plan configurationResult statuses item =
      (verificationRows plan configurationResult item).foldl mergeRow statuses := by
  unfold mergeVerification verificationRows
  rw [getD_requirementsBySource]
  cases requirementsOf plan item.actionId with
  | nil => rfl
  | cons requirement requirements => simp only [List.foldl_map, mergeRow]

lemma mergeItem_eq (statuses : Dict String ActionExecutionStatus)
    (item : PhysicalDeploymentItemResult) :
    mergeItem statuses item = (itemRows item).foldl mergeRow statuses := by
  unfold mergeItem itemRows
  by_cases hlink : item.targetKind = .link
  · rw [if_neg (not_not_intro hlink), if_pos hlink]
    rfl
  · rw [if_pos hlink, if_neg hlink]
    rfl

/-- The derivation merges all rows. -/
lemma deriveFoundationalStatuses_eq_foldl (plan : ControlPlanePlan)
    (configurationResult : Option ConfigurationApplicationResult)
    (physicalResult : Option PhysicalDeploymentResult) :
    deriveFoundationalStatuses plan configurationResult physicalResult =
      (evidenceRows plan configurationResult physicalResult).foldl mergeRow .empty := by
  have hverification : ∀ result : ConfigurationApplicationResult,
      mergeVerification plan result = fun statuses item =>
        (verificationRows plan result item).foldl mergeRow statuses :=
    fun result => funext₂ (mergeVerification_eq plan result)
  have hitem : mergeItem = fun statuses item => (itemRows item).foldl mergeRow statuses :=
    funext₂ mergeItem_eq
  unfold deriveFoundationalStatuses evidenceRows
  rw [List.foldl_append]
  cases configurationResult <;> cases physicalResult <;>
    simp only [List.foldl_nil, hverification, hitem, List.foldl_flatMap]

lemma foldl_mergeRow (rows : List (String × ActionExecutionStatus)) :
    rows.foldl mergeRow .empty =
      (rows.filter (·.1 ≠ "")).foldl (mergeWeaker statusStrength) .empty := by
  rw [List.foldl_filter]
  congr 1
  funext statuses row
  by_cases hrow : row.1 = ""
  · simp [mergeRow, merge, hrow]
  · simp only [mergeRow, merge, mergeWeaker, hrow, ne_eq, not_false_eq_true, decide_true, if_true,
      if_false]
    cases statuses.get? row.1 <;> rfl

/-- A source is verified exactly when it has a row and all its rows are verified. -/
lemma get?_eq_verified_iff {configurationResult : Option ConfigurationApplicationResult}
    {sourceId : String} :
    (deriveFoundationalStatuses plan configurationResult physicalResult).get? sourceId =
        some .verified ↔
      sourceId ≠ "" ∧
        (sourceId, .verified) ∈ evidenceRows plan configurationResult physicalResult ∧
        ∀ status, (sourceId, status) ∈ evidenceRows plan configurationResult physicalResult →
          status = .verified := by
  rw [deriveFoundationalStatuses_eq_foldl, foldl_mergeRow,
    get?_foldl_mergeWeaker_eq_top_iff statusStrength_le fun _ => eq_verified_of_statusStrength]
  simp only [List.mem_filter, ne_eq, decide_eq_true_eq]
  constructor
  · rintro ⟨⟨hrow, hne⟩, hall⟩
    exact ⟨hne, hrow, fun status hstatus => hall status ⟨hstatus, hne⟩⟩
  · rintro ⟨hne, hrow, hall⟩
    exact ⟨⟨hrow, hne⟩, fun status hstatus => hall status hstatus.1⟩

lemma mem_evidenceRows {configurationResult : Option ConfigurationApplicationResult} :
    row ∈ evidenceRows plan configurationResult physicalResult ↔
      (∃ result ∈ configurationResult, ∃ item ∈ result.verificationResults,
        row ∈ verificationRows plan result item) ∨
      (∃ result ∈ physicalResult, ∃ item ∈ result.itemResults, row ∈ itemRows item) := by
  unfold evidenceRows
  cases configurationResult <;> cases physicalResult <;> simp

lemma fst_of_mem_verificationRows {item : VerificationResult}
    (h : row ∈ verificationRows plan configurationResult item) : row.1 = item.actionId := by
  unfold verificationRows at h
  rcases hof : requirementsOf plan item.actionId with _ | ⟨requirement, requirements⟩
  · rw [hof, List.mem_singleton] at h
    rw [h]
  rw [hof] at h
  obtain ⟨other, hother, rfl⟩ := List.mem_map.mp h
  have hmem : other ∈ requirementsOf plan item.actionId := by
    rw [hof]
    exact hother
  simp only [requirementsOf, List.mem_filter, decide_eq_true_eq] at hmem
  exact hmem.2.2

/-- A declared foundation has a row for every verification result about its source. -/
lemma row_mem_verificationRows {item : VerificationResult}
    (hmem : requirement ∈ plan.foundationalRequirements) (hne : requirement.sourceId ≠ "")
    (hitem : item.actionId = requirement.sourceId) :
    (requirement.sourceId,
        configurationFoundationStatus plan requirement configurationResult item) ∈
      verificationRows plan configurationResult item := by
  have hof : requirement ∈ requirementsOf plan item.actionId := by
    simp only [requirementsOf, List.mem_filter, decide_eq_true_eq]
    exact ⟨hmem, hne, hitem.symm⟩
  unfold verificationRows
  cases hcases : requirementsOf plan item.actionId with
  | nil => simp [hcases] at hof
  | cons first requirements =>
    rw [hcases] at hof
    exact List.mem_map.mpr ⟨requirement, hof, rfl⟩

lemma mem_itemRows :
    row ∈ itemRows item ↔
      item.targetKind = .link ∧ row = (item.targetId, linkFoundationStatus item) := by
  unfold itemRows
  by_cases hlink : item.targetKind = .link <;> simp [hlink]

/-! ## The derived statuses -/

/-- Something was executed for the source: a result verifies its action, or it is a link that the
deployer has listed. -/
def HasEvidence (configurationResult : Option ConfigurationApplicationResult)
    (physicalResult : Option PhysicalDeploymentResult) (sourceId : String) : Prop :=
  (∃ result ∈ configurationResult, ∃ item ∈ result.verificationResults,
    item.actionId = sourceId) ∨
  ∃ result ∈ physicalResult, ∃ item ∈ result.itemResults,
    item.targetKind = .link ∧ item.targetId = sourceId

/-- The same result with its verification results listed in another order. -/
def ConfigurationReordered (result result' : ConfigurationApplicationResult) : Prop :=
  ∃ items, result.verificationResults.Perm items ∧
    result' = { result with verificationResults := items }

/-- The same result with its items listed in another order. -/
def PhysicalReordered (result result' : PhysicalDeploymentResult) : Prop :=
  ∃ items, result.itemResults.Perm items ∧ result' = { result with itemResults := items }

lemma evidenceRows_perm
    {configurationResult configurationResult' : Option ConfigurationApplicationResult}
    {physicalResult physicalResult' : Option PhysicalDeploymentResult}
    (hconfiguration : Option.Rel ConfigurationReordered configurationResult configurationResult')
    (hphysical : Option.Rel PhysicalReordered physicalResult physicalResult') :
    (evidenceRows plan configurationResult physicalResult).Perm
      (evidenceRows plan configurationResult' physicalResult') := by
  unfold evidenceRows
  apply List.Perm.append
  · cases hconfiguration with
    | none => exact List.Perm.refl _
    | some h =>
      obtain ⟨items, hperm, rfl⟩ := h
      exact hperm.flatMap_right _
  · cases hphysical with
    | none => exact List.Perm.refl _
    | some h =>
      obtain ⟨items, hperm, rfl⟩ := h
      exact hperm.flatMap_right _

/-- A verified foundation has evidence, and all of it is credited. -/
lemma credited_of_verified {configurationResult : Option ConfigurationApplicationResult}
    (hmem : requirement ∈ plan.foundationalRequirements)
    (hverified : (deriveFoundationalStatuses plan configurationResult physicalResult).get?
      requirement.sourceId = some .verified) :
    HasEvidence configurationResult physicalResult requirement.sourceId ∧
      (∀ result ∈ configurationResult, ∀ item ∈ result.verificationResults,
        item.actionId = requirement.sourceId → Credits plan requirement result item) ∧
      ∀ result ∈ physicalResult, ∀ item ∈ result.itemResults, item.targetKind = .link →
        item.targetId = requirement.sourceId → item.status = .observed ∧ item.observed = true := by
  obtain ⟨hne, hrow, hall⟩ := get?_eq_verified_iff.mp hverified
  refine ⟨?_, ?_, ?_⟩
  · rcases mem_evidenceRows.mp hrow with ⟨result, hresult, item, hitem, h⟩ | ⟨result, hresult,
      item, hitem, h⟩
    · exact .inl ⟨result, hresult, item, hitem, (fst_of_mem_verificationRows h).symm⟩
    · obtain ⟨hlink, heq⟩ := mem_itemRows.mp h
      exact .inr ⟨result, hresult, item, hitem, hlink, (congrArg Prod.fst heq).symm⟩
  · intro result hresult item hitem haction
    rw [← configurationFoundationStatus_eq_verified_iff]
    apply hall
    exact mem_evidenceRows.mpr
      (.inl ⟨result, hresult, item, hitem, row_mem_verificationRows hmem hne haction⟩)
  · intro result hresult item hitem hlink htarget
    rw [← linkFoundationStatus_eq_verified_iff]
    apply hall
    refine mem_evidenceRows.mpr (.inr ⟨result, hresult, item, hitem, ?_⟩)
    rw [mem_itemRows, htarget]
    exact ⟨hlink, rfl⟩

lemma map_statusStrength_get?_of_reordered (plan : ControlPlanePlan)
    {configurationResult configurationResult' : Option ConfigurationApplicationResult}
    {physicalResult physicalResult' : Option PhysicalDeploymentResult}
    (hconfiguration : Option.Rel ConfigurationReordered configurationResult configurationResult')
    (hphysical : Option.Rel PhysicalReordered physicalResult physicalResult')
    (sourceId : String) :
    ((deriveFoundationalStatuses plan configurationResult physicalResult).get? sourceId).map
        statusStrength =
      ((deriveFoundationalStatuses plan configurationResult' physicalResult').get? sourceId).map
        statusStrength := by
  rw [deriveFoundationalStatuses_eq_foldl, deriveFoundationalStatuses_eq_foldl, foldl_mergeRow,
    foldl_mergeRow]
  exact map_rank_get?_of_perm ((evidenceRows_perm hconfiguration hphysical).filter _) sourceId

/-- The status of a declared foundation is verified only when it has evidence and every piece of it
is credited, and listing the results in another order leaves every status as it is, except that a
skipped one and an unknown one, or a no-op and a reasserted one, may stand for each other. -/
theorem deriveFoundationalStatuses_sound (plan : ControlPlanePlan)
    (configurationResult : Option ConfigurationApplicationResult)
    (physicalResult : Option PhysicalDeploymentResult) :
    (∀ requirement ∈ plan.foundationalRequirements,
      (deriveFoundationalStatuses plan configurationResult physicalResult).get?
          requirement.sourceId = some .verified →
        HasEvidence configurationResult physicalResult requirement.sourceId ∧
        (∀ result ∈ configurationResult, ∀ item ∈ result.verificationResults,
          item.actionId = requirement.sourceId → Credits plan requirement result item) ∧
        ∀ result ∈ physicalResult, ∀ item ∈ result.itemResults, item.targetKind = .link →
          item.targetId = requirement.sourceId →
            item.status = .observed ∧ item.observed = true) ∧
    ∀ configurationResult' physicalResult',
      Option.Rel ConfigurationReordered configurationResult configurationResult' →
      Option.Rel PhysicalReordered physicalResult physicalResult' →
      ∀ sourceId, Option.Rel (fun a b => a = b ∨ Tied a b)
        ((deriveFoundationalStatuses plan configurationResult physicalResult).get? sourceId)
        ((deriveFoundationalStatuses plan configurationResult' physicalResult').get? sourceId) := by
  refine ⟨fun requirement hmem hverified => credited_of_verified hmem hverified, ?_⟩
  intro configurationResult' physicalResult' hconfiguration hphysical sourceId
  have hstrength := map_statusStrength_get?_of_reordered plan hconfiguration hphysical sourceId
  rcases hleft : (deriveFoundationalStatuses plan configurationResult physicalResult).get?
      sourceId with _ | a
  · rw [hleft] at hstrength
    rw [Option.map_eq_none_iff.mp hstrength.symm]
    exact .none
  rw [hleft] at hstrength
  obtain ⟨b, hright, hb⟩ := Option.map_eq_some_iff.mp hstrength.symm
  rw [hright]
  exact .some (eq_or_tied hb.symm)

/-- A plan that declares one VLAN as its foundation. -/
def vlanPlan : ControlPlanePlan :=
  { id := "plan", sourceTopologyHash := "topology", sourceConfigurationId := "configuration",
    sourceConfigurationHash := "configuration",
    foundationalRequirements :=
      [{ id := "foundation/vlan/v10", kind := .vlan, sourceId := "v10" }] }

/-- A verification of the VLAN. -/
def vlanVerification (expectationId : String) (status : ActionExecutionStatus) :
    VerificationResult :=
  { expectationId := expectationId, actionId := "v10", status := status }

/-- A result with the given verifications. -/
def verifiedBy (items : List VerificationResult) : ConfigurationApplicationResult :=
  { configPlanId := "configuration", configSemanticHash := "configuration",
    sourceTopologyHash := "topology", status := .partial_, verificationResults := items }

/-- A skipped and an unknown result of one VLAN: the one that is listed first decides. -/
theorem not_orderIndependent_skipped_unknown :
    ConfigurationReordered
        (verifiedBy [vlanVerification "e1" .skipped, vlanVerification "e2" .unknown])
        (verifiedBy [vlanVerification "e2" .unknown, vlanVerification "e1" .skipped]) ∧
      ∃ requirement ∈ vlanPlan.foundationalRequirements,
        (deriveFoundationalStatuses vlanPlan
            (some (verifiedBy [vlanVerification "e1" .skipped, vlanVerification "e2" .unknown]))
            none).get? requirement.sourceId ≠
          (deriveFoundationalStatuses vlanPlan
            (some (verifiedBy [vlanVerification "e2" .unknown, vlanVerification "e1" .skipped]))
            none).get? requirement.sourceId := by
  constructor
  · exact ⟨_, List.Perm.swap _ _ [], rfl⟩
  · exact ⟨_, List.mem_singleton_self _, by decide⟩

end FoundationalEvidence

end PacketTracer
