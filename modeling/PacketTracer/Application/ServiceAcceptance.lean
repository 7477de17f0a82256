import PacketTracer.Domain.ServiceExpectations

/-!
# Service plans and the checks of the applicator

`apply_services.py` as far as it orders a plan: `apply` wants the actions in the order of their
dependencies, and `_verify` orders the expectations and blocks all of them when it cannot.  A
compiled plan passes exactly when the identifiers of its expectations are pairwise distinct.
-/

namespace PacketTracer

namespace Services

open Dicts PyText DependencyGraph

/-! ## The checks -/

/-- An expectation of `dag_expectations`: one without prerequisites gets those of its action and
of its dependencies. -/
def dagExpectation (expectation : ServiceVerificationExpectation) :
    ServiceVerificationExpectation :=
  if expectation.verificationPrerequisites ≠ [] then expectation
  else
    { expectation with verificationPrerequisites :=
        { kind := .actionApplied, referenceId := expectation.actionId } ::
          expectation.dependsOn.map fun identifier =>
            { kind := .verificationVerified, referenceId := identifier } }

/-- A plan that passes the ordering checks of the applicator. -/
structure Accepted (plan : ServicePlan) : Prop where
  actionsOrdered : ∃ ordered, orderDependencyActions plan.actions = .ok ordered ∧
    ordered.map ServiceAction.id = plan.actions.map ServiceAction.id
  actionIds : (plan.actions.map ServiceAction.id).Nodup
  expectationIds :
    (plan.verificationExpectations.map ServiceVerificationExpectation.id).Nodup
  prerequisites : ∀ expectation ∈ plan.verificationExpectations,
    ∀ prerequisite ∈ expectation.verificationPrerequisites,
      prerequisite.referenceId ∈ plan.actions.map ServiceAction.id ∨
      prerequisite.referenceId ∈
        plan.verificationExpectations.map ServiceVerificationExpectation.id
  acyclic : Acyclic (Depends plan.verificationExpectations)
  expectationsOrdered : ∃ ordered,
    orderVerificationExpectations (plan.verificationExpectations.map dagExpectation) =
      .ok ordered

namespace ServiceCompiler

variable {compiler : ServiceCompiler} {request : ServiceRequest} {plan : ServicePlan}
  {actions : List ServiceAction}

/-! ## Actions -/

lemma keepsOrder_applyDependencies :
    KeepsOrder fun action : ServiceAction => { action with applyDependencies := action.dependsOn } where
  stableKey _ := rfl
  dependsOn _ := rfl

lemma CompiledFrom.actionsOrdered (h : CompiledFrom compiler request actions plan) :
    orderDependencyActions plan.actions = .ok plan.actions := by
  rw [h.plan_eq]
  exact keepsOrder_applyDependencies.orderDependencyActions
    ((orderDependencyActions_correct _).2 actions h.orders).2.2.2

lemma CompiledFrom.nodup_actionIds (h : CompiledFrom compiler request actions plan) :
    (plan.actions.map ServiceAction.id).Nodup :=
  (nodup_and_closed_of_orderDependencyActions h.actionsOrdered).1

lemma CompiledFrom.mem_actionIds (h : CompiledFrom compiler request actions plan)
    {action : ServiceAction} (haction : action ∈ actions) :
    action.id ∈ plan.actions.map ServiceAction.id := by
  rw [h.plan_eq]
  exact List.mem_map.mpr ⟨_, List.mem_map_of_mem haction, rfl⟩

/-! ## Prerequisites -/

section Prerequisites

variable {devices : Dict String Plans.DevicePlan} {service : VerifiedService}
  {expectation : ServiceVerificationExpectation}

lemma exists_of_mem_dnsRecords {record : String × String × String}
    (h : record ∈ service.actions.filterMap dnsRecordOf?) :
    ∃ action ∈ service.actions, action.id = record.1 := by
  obtain ⟨action, haction, hrecord⟩ := List.mem_filterMap.mp h
  refine ⟨action, haction, ?_⟩
  unfold dnsRecordOf? at hrecord
  split at hrecord
  · rw [← Option.some.inj hrecord]
  · cases hrecord

lemma exists_of_mem_tftpFiles {file : String × String × String}
    (h : file ∈ service.actions.filterMap tftpFileOf?) :
    ∃ action ∈ service.actions, action.id = file.1 := by
  obtain ⟨action, haction, hfile⟩ := List.mem_filterMap.mp h
  refine ⟨action, haction, ?_⟩
  unfold tftpFileOf? at hfile
  split at hfile
  · rw [← Option.some.inj hfile]
  · cases hfile

/-- What a client sees of a service is about an action of the service and waits for no other
expectation. -/
lemma spec_of_mem_clientExpectations (hterminal : service.terminal ∈ service.actions)
    {client : String × Plans.DevicePlan}
    (h : expectation ∈ compiler.clientExpectations service client) :
    (∃ action ∈ service.actions, action.id = expectation.actionId) ∧
      expectation.dependsOn = [] := by
  unfold clientExpectations at h
  cases htype : service.definition.serviceType with
  | dns =>
    simp only [htype] at h
    rcases List.mem_concat_iff.mp h with h | h
    · obtain ⟨record, hrecord, rfl⟩ := List.mem_map.mp h
      exact ⟨exists_of_mem_dnsRecords hrecord, rfl⟩
    · rw [h]
      exact ⟨⟨_, hterminal, rfl⟩, rfl⟩
  | http | https | ntp =>
    simp only [htype] at h
    rw [List.mem_singleton.mp h]
    exact ⟨⟨_, hterminal, rfl⟩, rfl⟩
  | tftp =>
    simp only [htype] at h
    obtain ⟨file, hfile, rfl⟩ := List.mem_map.mp h
    exact ⟨exists_of_mem_tftpFiles hfile, rfl⟩

/-- An expectation about a service is about one of its actions and waits for no other
expectation. -/
lemma spec_of_mem_serviceExpectations (hterminal : service.terminal ∈ service.actions)
    (h : expectation ∈ compiler.serviceExpectations devices service) :
    (∃ action ∈ service.actions, action.id = expectation.actionId) ∧
      expectation.dependsOn = [] := by
  rcases List.mem_cons.mp h with rfl | h
  · exact ⟨⟨_, hterminal, rfl⟩, rfl⟩
  · obtain ⟨client, -, h⟩ := List.mem_flatMap.mp h
    exact spec_of_mem_clientExpectations hterminal h

/-- A composed expectation is about the last action of its service and waits for a resolution and
a fetch. -/
lemma spec_of_mem_composedExpectations {resolutions fetches : Dict (String × String) String}
    (h : expectation ∈ compiler.composedExpectations devices resolutions fetches service) :
    expectation.actionId = service.terminal.id ∧ ∀ identifier ∈ expectation.dependsOn,
      identifier ∈ resolutions.values ∨ identifier ∈ fetches.values := by
  unfold composedExpectations at h
  simp only at h
  split at h
  · cases h
  obtain ⟨client, -, hsome⟩ := List.mem_filterMap.mp h
  obtain ⟨dnsId, hdns, hsome⟩ := Option.bind_eq_some_iff.mp hsome
  obtain ⟨fetchId, hfetch, hsome⟩ := Option.bind_eq_some_iff.mp hsome
  rw [← Option.some.inj hsome]
  refine ⟨rfl, fun identifier hidentifier => ?_⟩
  rcases List.mem_pair.mp (mem_sortedBy.mp hidentifier) with rfl | rfl
  · exact .inl (Dict.mem_values_iff.mpr ⟨_, hdns⟩)
  · exact .inr (Dict.mem_values_iff.mpr ⟨_, hfetch⟩)

variable {entry : (String × String) × String}

lemma mem_ids_of_mem_dnsResolutions (h : entry ∈ compiler.dnsResolutions devices service) :
    entry.2 ∈ (compiler.serviceExpectations devices service).map
      ServiceVerificationExpectation.id := by
  rw [map_id_serviceExpectations]
  unfold dnsResolutions at h
  split at h
  · rename_i htype
    obtain ⟨client, hclient, h⟩ := List.mem_flatMap.mp h
    obtain ⟨record, hrecord, rfl⟩ := List.mem_map.mp h
    refine List.mem_map.mpr ⟨⟨"verify-dns", [service.definition.id, client.1, record.2.1]⟩, ?_, rfl⟩
    refine List.mem_cons_of_mem _ (List.mem_flatMap.mpr ⟨client, hclient, ?_⟩)
    rw [clientSubjects_dns htype]
    exact List.mem_append_left _ (List.mem_map_of_mem (List.mem_map_of_mem hrecord))
  · cases h

lemma mem_ids_of_mem_httpFetches (h : entry ∈ compiler.httpFetches devices service) :
    entry.2 ∈ (compiler.serviceExpectations devices service).map
      ServiceVerificationExpectation.id := by
  rw [map_id_serviceExpectations]
  unfold httpFetches at h
  split at h
  · rename_i htype
    obtain ⟨client, hclient, rfl⟩ := List.mem_map.mp h
    refine List.mem_map.mpr ⟨⟨"verify-http-ip", [service.definition.id, client.1]⟩, ?_, rfl⟩
    refine List.mem_cons_of_mem _ (List.mem_flatMap.mpr ⟨client, hclient, ?_⟩)
    rcases htype with htype | htype
    · simp [clientSubjects, htype]
    · simp [clientSubjects, htype]
  · cases h

end Prerequisites

/-! ## The graph of the expectations -/

section Graph

lemma mem_expectationsOf {devices : Dict String Plans.DevicePlan}
    {services : List CompiledService} {expectation : ServiceVerificationExpectation} :
    let verified := verifiedServices services actions
    expectation ∈ compiler.expectationsOf devices services actions ↔
      expectation ∈ verified.flatMap (compiler.serviceExpectations devices) ∨
      expectation ∈ verified.flatMap (compiler.composedExpectations devices
        (Dict.ofList (verified.flatMap (compiler.dnsResolutions devices)))
        (Dict.ofList (verified.flatMap (compiler.httpFetches devices)))) :=
  mem_sortedBy.trans List.mem_append

lemma verificationReferences_withPrerequisites (item : ServiceVerificationExpectation) :
    verificationReferences (withPrerequisites item).verificationPrerequisites =
      sortedBy id item.dependsOn.dedup := by
  simp [verificationReferences, withPrerequisites, List.filter_map, Function.comp_def]

/-- An expectation of a compiled plan is about an action of the plan, and waits for expectations
of the plan that wait for none themselves. -/
lemma CompiledFrom.spec_of_mem_expectations (h : CompiledFrom compiler request actions plan)
    {expectation : ServiceVerificationExpectation}
    (hexpectation : expectation ∈ compiler.expectationsOf (sourcesOf request).devices
      (compiler.services request) actions) :
    expectation.actionId ∈ plan.actions.map ServiceAction.id ∧
      ∀ identifier ∈ expectation.dependsOn, ∃ target ∈ compiler.expectationsOf
        (sourcesOf request).devices (compiler.services request) actions,
        target.id = identifier ∧ target.dependsOn = [] := by
  have hservice : ∀ service ∈ verifiedServices (compiler.services request) actions,
      service.terminal ∈ service.actions ∧ ∀ action ∈ service.actions,
        action.id ∈ plan.actions.map ServiceAction.id := by
    intro service hmem
    obtain ⟨item, -, resolved, hfrom⟩ := h.verifiedFrom_of_mem hmem
    refine ⟨hfrom.terminal, fun action haction => h.mem_actionIds ?_⟩
    rw [hfrom.actions] at haction
    exact (List.mem_filter.mp haction).1
  have htarget : ∀ service ∈ verifiedServices (compiler.services request) actions, ∀ identifier ∈
      (compiler.serviceExpectations (sourcesOf request).devices service).map
        ServiceVerificationExpectation.id,
      ∃ target ∈ compiler.expectationsOf (sourcesOf request).devices (compiler.services request)
        actions, target.id = identifier ∧ target.dependsOn = [] := by
    intro service hmem identifier hidentifier
    obtain ⟨target, htarget, rfl⟩ := List.mem_map.mp hidentifier
    refine ⟨target, mem_expectationsOf.mpr (.inl ?_), rfl, ?_⟩
    · exact List.mem_flatMap.mpr ⟨service, hmem, htarget⟩
    · exact (spec_of_mem_serviceExpectations (hservice service hmem).1 htarget).2
  rcases mem_expectationsOf.mp hexpectation with hmem | hmem
  · obtain ⟨service, hverified, hmem⟩ := List.mem_flatMap.mp hmem
    obtain ⟨⟨action, haction, hid⟩, hnone⟩ :=
      spec_of_mem_serviceExpectations (hservice service hverified).1 hmem
    refine ⟨hid ▸ (hservice service hverified).2 action haction, fun identifier hidentifier => ?_⟩
    rw [hnone] at hidentifier
    cases hidentifier
  · obtain ⟨service, hverified, hmem⟩ := List.mem_flatMap.mp hmem
    obtain ⟨haction, hdepends⟩ := spec_of_mem_composedExpectations hmem
    refine ⟨?_, fun identifier hidentifier => ?_⟩
    · rw [haction]
      exact (hservice service hverified).2 _ (hservice service hverified).1
    · rcases hdepends identifier hidentifier with hvalue | hvalue
      · obtain ⟨key, hkey⟩ := Dict.mem_values_iff.mp hvalue
        obtain ⟨source, hsource, hentry⟩ := List.mem_flatMap.mp (Dict.mem_of_get?_ofList hkey)
        exact htarget source hsource identifier (mem_ids_of_mem_dnsResolutions hentry)
      · obtain ⟨key, hkey⟩ := Dict.mem_values_iff.mp hvalue
        obtain ⟨source, hsource, hentry⟩ := List.mem_flatMap.mp (Dict.mem_of_get?_ofList hkey)
        exact htarget source hsource identifier (mem_ids_of_mem_httpFetches hentry)

lemma acyclic_of_targets_final {κ : Type} {r : κ → κ → Prop} (h : ∀ a b c, r a b → ¬r b c) :
    Acyclic r := by
  intro a hcycle
  obtain ⟨b, hab, -⟩ := Relation.TransGen.head'_iff.mp hcycle
  obtain ⟨c, -, hca⟩ := Relation.TransGen.tail'_iff.mp hcycle
  exact h c a b hca hab

lemma CompiledFrom.verificationExpectations (h : CompiledFrom compiler request actions plan) :
    plan.verificationExpectations = (compiler.expectationsOf (sourcesOf request).devices
      (compiler.services request) actions).map withPrerequisites := by
  rw [h.plan_eq]
  rfl

/-- A compiled plan passes the checks of the applicator exactly when the identifiers of its
expectations are pairwise distinct. -/
lemma CompiledFrom.accepted_iff_nodup (h : CompiledFrom compiler request actions plan) :
    Accepted plan ↔
      (plan.verificationExpectations.map ServiceVerificationExpectation.id).Nodup := by
  refine ⟨Accepted.expectationIds, fun hnodup => ?_⟩
  set items := compiler.expectationsOf (sourcesOf request).devices (compiler.services request)
    actions with hitems
  have hplan : plan.verificationExpectations = items.map withPrerequisites :=
    h.verificationExpectations
  have hids : plan.verificationExpectations.map ServiceVerificationExpectation.id =
      items.map ServiceVerificationExpectation.id := by
    rw [hplan, List.map_map]
    rfl
  have hclosed : ∀ item ∈ plan.verificationExpectations,
      ∀ identifier ∈ DependencyAction.dependsOn item,
        identifier ∈ plan.verificationExpectations.map ServiceVerificationExpectation.id := by
    intro item hitem identifier hidentifier
    rw [hplan] at hitem
    obtain ⟨original, horiginal, rfl⟩ := List.mem_map.mp hitem
    have hdepends : identifier ∈ original.dependsOn := by
      have hlisted : identifier ∈ sortedBy id original.dependsOn.dedup :=
        verificationReferences_withPrerequisites original ▸ hidentifier
      exact List.mem_dedup.mp (mem_sortedBy.mp hlisted)
    obtain ⟨target, htarget, rfl, -⟩ := (h.spec_of_mem_expectations horiginal).2 _ hdepends
    rw [hids]
    exact List.mem_map_of_mem htarget
  have hacyclic : Acyclic (Depends plan.verificationExpectations) := by
    refine acyclic_of_targets_final fun a b c hab hbc => ?_
    obtain ⟨item, hitem, rfl, hb⟩ := hab
    obtain ⟨second, hsecond, hid, hc⟩ := hbc
    rw [hplan] at hitem hsecond
    obtain ⟨original, horiginal, rfl⟩ := List.mem_map.mp hitem
    obtain ⟨waiting, hwaiting, rfl⟩ := List.mem_map.mp hsecond
    replace hb : b ∈ sortedBy id original.dependsOn.dedup :=
      verificationReferences_withPrerequisites original ▸ hb
    replace hc : c ∈ sortedBy id waiting.dependsOn.dedup :=
      verificationReferences_withPrerequisites waiting ▸ hc
    obtain ⟨target, htarget, hsame, hnone⟩ := (h.spec_of_mem_expectations horiginal).2 _
      (List.mem_dedup.mp (mem_sortedBy.mp hb))
    -- identifiers are unique, so that the target is the expectation that waits
    obtain rfl : target = waiting :=
      List.inj_on_of_nodup_map (hids ▸ hnodup) htarget hwaiting (hsame.trans hid.symm)
    rw [hnone] at hc
    simp at hc
  have hdag : plan.verificationExpectations.map dagExpectation =
      plan.verificationExpectations := by
    rw [hplan, List.map_map]
    refine List.map_congr_left fun item _ => ?_
    rw [Function.comp_apply, dagExpectation, if_pos]
    exact List.cons_ne_nil _ _
  refine
    { actionsOrdered := ⟨_, h.actionsOrdered, rfl⟩
      actionIds := h.nodup_actionIds
      expectationIds := hnodup
      prerequisites := fun item hitem prerequisite hprerequisite => ?_
      acyclic := hacyclic
      expectationsOrdered := ?_ }
  · have hcompiled := hitem
    rw [hplan] at hcompiled
    obtain ⟨original, horiginal, rfl⟩ := List.mem_map.mp hcompiled
    rcases List.mem_cons.mp hprerequisite with rfl | hprerequisite
    · exact .inl (h.spec_of_mem_expectations horiginal).1
    · obtain ⟨identifier, hidentifier, rfl⟩ := List.mem_map.mp hprerequisite
      refine .inr (hclosed _ hitem identifier ?_)
      exact (congrArg (identifier ∈ ·)
        (verificationReferences_withPrerequisites original)).mpr hidentifier
  · rw [hdag]
    obtain ⟨ordered, hordered⟩ := exists_orderDependencyActions_iff.mpr
      ⟨hnodup, hclosed, hacyclic⟩
    exact ⟨ordered, by rw [orderVerificationExpectations, hordered]⟩

/-- **The plans that the applicator accepts.**  A plan that the compiler returns passes every
ordering check of the applicator exactly when no two services have the same identifier, no
verified TFTP service has two contents for one file name, and no two subjects of verification have
the same digest. -/
theorem accepted_iff (compiler : ServiceCompiler) (request : ServiceRequest) {plan : ServicePlan}
    (h : (compiler.compile request).plan = some plan) :
    Accepted plan ↔
      ((compiler.requirements request.enterprise).map fun item =>
        compiler.serviceId item.1 item.2).Nodup ∧
      compiler.FilesAgree request ∧
      ∀ a b, compiler.Verifies request a → compiler.Verifies request b →
        compiler.subjectId a = compiler.subjectId b → a = b := by
  obtain ⟨actions, hcompiled⟩ := compiledFrom_of_plan h
  rw [hcompiled.accepted_iff_nodup, ← hcompiled.map_id_services]
  constructor
  · intro hids
    have hnodup := hcompiled.nodup_of_nodup_expectations hids
    have hsubjects := hcompiled.perm_ids.nodup_iff.mp hids
    refine ⟨hnodup, (hcompiled.nodup_subjectsOf hnodup).mp hsubjects.of_map, ?_⟩
    intro a b ha hb hab
    exact List.inj_on_of_nodup_map hsubjects ((hcompiled.mem_subjectsOf hnodup).mpr ha)
      ((hcompiled.mem_subjectsOf hnodup).mpr hb) hab
  · rintro ⟨hnodup, hagree, hdigests⟩
    refine hcompiled.perm_ids.nodup_iff.mpr ?_
    refine ((hcompiled.nodup_subjectsOf hnodup).mpr hagree).map_on fun a ha b hb hab => ?_
    exact hdigests a b ((hcompiled.mem_subjectsOf hnodup).mp ha)
      ((hcompiled.mem_subjectsOf hnodup).mp hb) hab

/-- Two sites with a name server and a web server each. -/
theorem accepted_iff_twoSites :
    ∃ plan, (checksumming.compile twoSites).plan = some plan ∧
      (Accepted plan ↔
        ((checksumming.requirements twoSites.enterprise).map fun item =>
          checksumming.serviceId item.1 item.2).Nodup ∧
        checksumming.FilesAgree twoSites ∧
        ∀ a b, checksumming.Verifies twoSites a → checksumming.Verifies twoSites b →
          checksumming.subjectId a = checksumming.subjectId b → a = b) := by
  have hsome : ((checksumming.compile twoSites).plan).isSome := by decide +kernel
  obtain ⟨plan, hplan⟩ := Option.isSome_iff_exists.mp hsome
  exact ⟨plan, hplan, accepted_iff checksumming twoSites hplan⟩

/-- A site with a TFTP server that is asked for two contents of one file, and with a client. -/
def twoContents : ServiceRequest where
  enterprise :=
    { sites :=
        [{ siteId := "A"
           services :=
             [{ name := "images"
                serviceType := some .tftp
                hostDeviceId := "server-A"
                clientDeviceIds := ["pc-A"]
                tftpFiles :=
                  [{ filename := "image.bin", content := "one" },
                    { filename := "image.bin", content := "two" }] }] }] }
  topology :=
    { id := "campus"
      semanticHash := "topology"
      devices :=
        [server "A",
          { id := "pc-A"
            name := "PC-A"
            model := "PC-PT"
            category := "pc"
            enterpriseRole := "user"
            siteId := "A" }] }
  configuration :=
    { id := "configuration"
      sourceTopologyHash := "topology"
      semanticHash := "configuration"
      actions :=
        [serverAddress "A" "10.0.0.10",
          { serverAddress "A" "10.0.0.20" with
            id := "address-pc"
            deviceId := "pc-A"
            deviceName := "PC-A" }] }

/-- Both contents become actions, but their retrievals by the client have the same identifier, and
the applicator refuses to order the expectations. -/
theorem not_accepted_twoContents :
    ∃ plan, (checksumming.compile twoContents).plan = some plan ∧ ¬Accepted plan ∧
      orderVerificationExpectations (plan.verificationExpectations.map dagExpectation) =
        .error "Duplicate verification expectation id." := by
  have hplan : ((checksumming.compile twoContents).plan.map fun plan =>
      (decide (plan.verificationExpectations.map ServiceVerificationExpectation.id).Nodup,
        match orderVerificationExpectations (plan.verificationExpectations.map dagExpectation) with
        | .ok _ => ""
        | .error message => message)) =
      some (false, "Duplicate verification expectation id.") := by
    decide +kernel
  obtain ⟨plan, hsome, hread⟩ := Option.map_eq_some_iff.mp hplan
  obtain ⟨hids, hmessage⟩ := Prod.mk.inj hread
  have hnot : ¬Accepted plan := fun haccepted => of_decide_eq_false hids haccepted.expectationIds
  refine ⟨plan, hsome, hnot, ?_⟩
  cases horder : orderVerificationExpectations
      (plan.verificationExpectations.map dagExpectation) with
  | ok ordered =>
    rw [horder] at hmessage
    exact absurd hmessage (by decide : "" ≠ "Duplicate verification expectation id.")
  | error message =>
    rw [horder] at hmessage
    exact congrArg Except.error hmessage

end Graph

end ServiceCompiler

end Services

end PacketTracer
