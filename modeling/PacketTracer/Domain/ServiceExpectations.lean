import PacketTracer.Domain.ServiceSubjects

/-!
# The expectations of a service plan and the requirements

When a compilation returns a plan, every requirement became a service.  As long as no two services
have the same identifier, the actions that are grouped under a service are its own, and the
subjects that are verified can be read off the requirements.
-/

namespace PacketTracer

namespace Services

open Dicts PyText

namespace ServiceCompiler

variable {compiler : ServiceCompiler} {request : ServiceRequest} {plan : ServicePlan}
  {actions : List ServiceAction}

/-! ## Every requirement became a service -/

variable {sources : Sources} {siteId : String} {requirement : ServiceRequirement}
  {resolved : ResolvedService} {item : String × ServiceRequirement} {service : CompiledService}
  {β : Type}

lemma severity_of_resolveService {issue : ConfigurationIssue}
    (h : compiler.resolveService sources siteId requirement = .error issue) :
    issue.severity = .error := by
  unfold resolveService at h
  simp only at h
  split at h
  · split at h
    · split at h
      · split at h
        · cases h
        · rw [← Except.error.inj h]
          rfl
      · rw [← Except.error.inj h]
        rfl
    · rw [← Except.error.inj h]
      rfl
  · rw [← Except.error.inj h]
    rfl

lemma serviceType_of_resolveService
    (h : compiler.resolveService sources siteId requirement = .ok resolved) :
    compiler.serviceType? requirement = some resolved.serviceType := by
  unfold resolveService at h
  simp only at h
  split at h
  · rename_i serviceType htype
    split at h
    · split at h
      · split at h
        · rw [← Except.ok.inj h, htype]
        · cases h
      · cases h
    · cases h
  · cases h

/-- With a plan, no requirement gives an error. -/
lemma CompiledFrom.clean_compileService (h : CompiledFrom compiler request actions plan)
    (hitem : item ∈ compiler.requirements request.enterprise) :
    ∀ issue ∈ (compiler.compileService (sourcesOf request) request.capabilities item).issues,
      issue.severity ≠ .error := by
  intro issue hissue
  have houtput : issue ∈ (compiler.outputs request).flatMap ServiceOutput.issues :=
    List.mem_flatMap.mpr ⟨_, List.mem_map_of_mem hitem, hissue⟩
  exact h.clean issue (List.mem_append_left _ (List.mem_append_right _ houtput))

lemma CompiledFrom.resolves (h : CompiledFrom compiler request actions plan)
    (hitem : item ∈ compiler.requirements request.enterprise) :
    ∃ resolved, compiler.resolveService (sourcesOf request) item.1 item.2 = .ok resolved := by
  cases hresolved : compiler.resolveService (sourcesOf request) item.1 item.2 with
  | ok resolved => exact ⟨resolved, rfl⟩
  | error issue =>
    refine absurd (severity_of_resolveService hresolved) (h.clean_compileService hitem issue ?_)
    simp only [compileService, hresolved]
    exact List.mem_cons_self

lemma CompiledFrom.clean_actionsOf (h : CompiledFrom compiler request actions plan)
    (hitem : item ∈ compiler.requirements request.enterprise)
    (hresolved : compiler.resolveService (sourcesOf request) item.1 item.2 = .ok resolved) :
    ∀ issue ∈ (compiler.actionsOf (sourcesOf request).devices
        (compiler.serviceId item.1 item.2) item.2 resolved.serviceType resolved.host).2,
      issue.severity ≠ .error := by
  intro issue hissue
  refine h.clean_compileService hitem issue ?_
  simp only [compileService, hresolved]
  exact List.mem_append_left _ (List.mem_append_right _ hissue)

lemma CompiledFrom.map_id_services (h : CompiledFrom compiler request actions plan) :
    (compiler.services request).map (fun service => service.definition.id) =
      (compiler.requirements request.enterprise).map fun item =>
        compiler.serviceId item.1 item.2 := by
  rw [services, outputs, List.filterMap_map, List.map_filterMap, ← List.filterMap_eq_map]
  refine List.filterMap_congr fun item hitem => ?_
  obtain ⟨resolved, hresolved⟩ := h.resolves hitem
  rw [Function.comp_apply, service_compileService, hresolved]
  rfl

/-! ## The actions of a service -/

variable {serviceId : String} {action : ServiceAction} {f : ServiceAction → Option β}

lemma serviceId_of_mem_actionsOf {devices : Dict String Plans.DevicePlan}
    {serviceType : ServiceType} {host : Plans.DevicePlan}
    (h : action ∈ (compiler.actionsOf devices serviceId requirement serviceType host).1) :
    action.serviceId = serviceId := by
  cases serviceType with
  | dns =>
    rcases List.mem_cons.mp h with rfl | h
    · rfl
    · obtain ⟨key, -, rfl⟩ := List.mem_map.mp h
      rfl
  | http =>
    simp only [actionsOf, httpActions] at h
    split at h
    · rw [List.mem_singleton.mp h]
      rfl
    · rcases List.mem_cons.mp h with rfl | h
      · rfl
      · rw [List.mem_singleton.mp h]
        rfl
  | https | ntp =>
    rw [List.mem_singleton.mp h]
    rfl
  | tftp =>
    rcases List.mem_cons.mp h with rfl | h
    · rfl
    · obtain ⟨entry, -, rfl⟩ := List.mem_map.mp h
      rfl

lemma serviceId_of_mem_services (hservice : service ∈ compiler.services request)
    (haction : action ∈ service.actions) : action.serviceId = service.definition.id := by
  obtain ⟨item, -, resolved, -, rfl⟩ := mem_services.mp hservice
  exact serviceId_of_mem_actionsOf haction

/-- What does not depend on dependencies is read from the planned actions as it is from the
compiled ones. -/
lemma CompiledFrom.filterMap_perm (h : CompiledFrom compiler request actions plan)
    (hf : ∀ identifiers action, f (extendDependencies identifiers action) = f action) :
    (actions.filterMap f).Perm
      (((compiler.services request).flatMap CompiledService.actions).filterMap f) := by
  have hread : ∀ items : List ServiceAction, items.filterMap f = (items.map f).filterMap id :=
    fun items => by rw [List.filterMap_map]; rfl
  refine ((spec_orderDependencyActions h.orders).1.filterMap f).trans (List.Perm.of_eq ?_)
  rw [hread, hread, map_linkServices f hf]

/-- Among the actions of all services, those with the identifier of one are its own. -/
lemma flatMap_filterMap_eq
    (hnodup : ((compiler.services request).map fun service => service.definition.id).Nodup)
    (hservice : service ∈ compiler.services request) (f : ServiceAction → Option β) :
    (((compiler.services request).flatMap CompiledService.actions).filterMap fun action =>
        if action.serviceId = service.definition.id then f action else none) =
      service.actions.filterMap f := by
  obtain ⟨before, after, hsplit⟩ := List.append_of_mem hservice
  have howner : ∀ other ∈ compiler.services request, ∀ action ∈ other.actions,
      action.serviceId = other.definition.id :=
    fun other hother action haction => serviceId_of_mem_services hother haction
  have hothers : ∀ others : List CompiledService,
      (∀ other ∈ others, other ∈ compiler.services request ∧
        other.definition.id ≠ service.definition.id) →
      ((others.flatMap CompiledService.actions).filterMap fun action =>
        if action.serviceId = service.definition.id then f action else none) = [] := by
    intro others hothers
    refine List.filterMap_eq_nil_iff.mpr fun action haction => ?_
    obtain ⟨other, hother, haction⟩ := List.mem_flatMap.mp haction
    obtain ⟨hmem, hne⟩ := hothers other hother
    exact if_neg (by rwa [howner other hmem action haction])
  rw [hsplit, List.map_append, List.map_cons] at hnodup
  obtain ⟨-, hcons, hdisjoint⟩ := List.nodup_append.mp hnodup
  have hbefore := hothers before fun other hother =>
    ⟨hsplit ▸ List.mem_append_left _ hother, fun heq =>
      hdisjoint _ (List.mem_map_of_mem hother) _ List.mem_cons_self heq⟩
  have hafter := hothers after fun other hother =>
    ⟨hsplit ▸ List.mem_append_right _ (List.mem_cons_of_mem _ hother), fun heq =>
      (List.nodup_cons.mp hcons).1 (heq ▸ List.mem_map_of_mem hother)⟩
  rw [hsplit, List.flatMap_append, List.flatMap_cons, List.filterMap_append, List.filterMap_append,
    hbefore, hafter, List.nil_append, List.append_nil]
  refine List.filterMap_congr fun action haction => ?_
  exact if_pos (howner service hservice action haction)

/-- What does not depend on dependencies is read from the group of a service as it is from its own
actions. -/
lemma CompiledFrom.filterMap_group (h : CompiledFrom compiler request actions plan)
    (hnodup : ((compiler.services request).map fun service => service.definition.id).Nodup)
    (hservice : service ∈ compiler.services request)
    (hf : ∀ identifiers action, f (extendDependencies identifiers action) = f action) :
    ((actions.filter (·.serviceId = service.definition.id)).filterMap f).Perm (service.actions.filterMap f) := by
  rw [← flatMap_filterMap_eq hnodup hservice f, List.filterMap_filter]
  simp only [decide_eq_true_eq]
  exact h.filterMap_perm fun identifiers action => by
    rw [hf]
    rfl

/-! ## Verified services -/

/-- What a verified service is made of. -/
structure VerifiedFrom (compiler : ServiceCompiler) (request : ServiceRequest)
    (actions : List ServiceAction) (item : String × ServiceRequirement)
    (resolved : ResolvedService) (service : VerifiedService) : Prop where
  resolves : compiler.resolveService (sourcesOf request) item.1 item.2 = .ok resolved
  definition : service.definition =
    (compiler.compiledService (sourcesOf request) item.1 item.2 resolved).definition
  actions : service.actions = actions.filter (·.serviceId = service.definition.id)
  terminal : service.terminal ∈ service.actions
  requirement : (sourceRequirements (compiler.services request)).get? service.definition.id =
    some service.requirement

lemma VerifiedFrom.id {service : VerifiedService}
    (h : VerifiedFrom compiler request actions item resolved service) :
    service.definition.id = compiler.serviceId item.1 item.2 := by
  rw [h.definition]
  rfl

section Compiled

variable (h : CompiledFrom compiler request actions plan)
include h

/-- With a plan, every compiled service is verified. -/
lemma CompiledFrom.exists_verifiedService? (hitem : item ∈ compiler.requirements request.enterprise)
    (hresolved : compiler.resolveService (sourcesOf request) item.1 item.2 = .ok resolved) :
    ∃ verified, verifiedService? (compiler.services request) actions
        (compiler.compiledService (sourcesOf request) item.1 item.2 resolved) = some verified ∧
      VerifiedFrom compiler request actions item resolved verified := by
  set service := compiler.compiledService (sourcesOf request) item.1 item.2 resolved with hservice
  have hmem : service ∈ compiler.services request :=
    mem_services.mpr ⟨item, hitem, resolved, hresolved, rfl⟩
  obtain ⟨first, rest, hcons⟩ := List.exists_cons_of_ne_nil (actionIds_of_mem_services hmem).2
  have hfirst : first ∈ service.actions := hcons ▸ List.mem_cons_self
  -- some planned action stems from the first one and carries the same service
  have hgroup : actions.filter (·.serviceId = service.definition.id) ≠ [] := by
    have hperm := h.filterMap_perm (f := fun action => some action.serviceId) fun _ _ => rfl
    have hpresent : service.definition.id ∈ actions.filterMap fun action =>
        some action.serviceId := by
      rw [hperm.mem_iff, ← serviceId_of_mem_services hmem hfirst]
      exact List.mem_filterMap.mpr
        ⟨first, List.mem_flatMap.mpr ⟨service, hmem, hfirst⟩, rfl⟩
    obtain ⟨action, haction, hid⟩ := List.mem_filterMap.mp hpresent
    refine List.ne_nil_of_mem (List.mem_filter.mpr ⟨haction, ?_⟩)
    simpa using hid
  have hterminal := List.getLast?_eq_some_getLast hgroup
  have hkey : ((sourceRequirements (compiler.services request)).get?
      service.definition.id).isSome := by
    rw [sourceRequirements, Dict.isSome_get?_ofList_iff, List.map_map]
    exact List.mem_map.mpr ⟨service, hmem, rfl⟩
  obtain ⟨requirement, hrequirement⟩ := Option.isSome_iff_exists.mp hkey
  refine ⟨{ definition := service.definition
            requirement := requirement
            actions := actions.filter (·.serviceId = service.definition.id)
            terminal := _ }, ?_, hresolved, rfl, rfl, List.getLast_mem hgroup, hrequirement⟩
  simp only [verifiedService?, hterminal, hrequirement]
  rfl

lemma CompiledFrom.map_id_verifiedServices :
    (verifiedServices (compiler.services request) actions).map (fun item => item.definition.id) =
      (sortedBy (fun item => item.definition.id) (compiler.services request)).map fun item =>
        item.definition.id := by
  rw [verifiedServices, List.map_filterMap, ← List.filterMap_eq_map]
  refine List.filterMap_congr fun service hservice => ?_
  obtain ⟨item, hitem, resolved, hresolved, rfl⟩ := mem_services.mp (mem_sortedBy.mp hservice)
  obtain ⟨verified, hverified, hfrom⟩ := h.exists_verifiedService? hitem hresolved
  rw [hverified, Option.map_some, hfrom.definition]
  rfl

lemma CompiledFrom.verifiedFrom_of_mem {service : VerifiedService}
    (hservice : service ∈ verifiedServices (compiler.services request) actions) :
    ∃ item ∈ compiler.requirements request.enterprise, ∃ resolved,
      VerifiedFrom compiler request actions item resolved service := by
  obtain ⟨compiled, hcompiled, hverified⟩ := List.mem_filterMap.mp hservice
  obtain ⟨item, hitem, resolved, hresolved, rfl⟩ := mem_services.mp (mem_sortedBy.mp hcompiled)
  obtain ⟨verified, hsome, hfrom⟩ := h.exists_verifiedService? hitem hresolved
  obtain rfl : verified = service := Option.some.inj (hsome.symm.trans hverified)
  exact ⟨item, hitem, resolved, hfrom⟩

lemma CompiledFrom.exists_verifiedFrom (hitem : item ∈ compiler.requirements request.enterprise) :
    ∃ service ∈ verifiedServices (compiler.services request) actions, ∃ resolved,
      VerifiedFrom compiler request actions item resolved service := by
  obtain ⟨resolved, hresolved⟩ := h.resolves hitem
  obtain ⟨verified, hverified, hfrom⟩ := h.exists_verifiedService? hitem hresolved
  refine ⟨verified, List.mem_filterMap.mpr ⟨_, mem_sortedBy.mpr ?_, hverified⟩, resolved, hfrom⟩
  exact mem_services.mpr ⟨item, hitem, resolved, hresolved, rfl⟩

end Compiled

/-! ## Clients -/

lemma nodup_requestedClients (sources : Sources) (siteId hostId : String)
    (requirement : ServiceRequirement) :
    (requestedClients sources siteId hostId requirement).Nodup := by
  unfold requestedClients
  split
  · exact (perm_sortedBy _ _).nodup_iff.mpr (List.nodup_dedup _)
  · refine (perm_sortedBy _ _).nodup_iff.mpr ?_
    exact sources.devices.keysNodup.sublist (List.filter_sublist.map _)

lemma contains_of_mem_clients {hostId clientId : String}
    (h : clientId ∈ (clients sources serviceId siteId hostId requirement).1) :
    (sources.devices.get? clientId).isSome := by
  have hnone := (List.mem_filter.mp h).2
  unfold clientIssue at hnone
  split at hnone
  · cases hnone
  · rename_i hcontains
    exact Option.isSome_iff_ne_none.mpr (by simpa [Dict.contains] using hcontains)

/-- The clients of the service that a requirement becomes. -/
def clientIdsOf (compiler : ServiceCompiler) (request : ServiceRequest)
    (item : String × ServiceRequirement) : List String :=
  match compiler.resolveService (sourcesOf request) item.1 item.2 with
  | .ok resolved =>
    (clients (sourcesOf request) (compiler.serviceId item.1 item.2) item.1 resolved.host.semanticId
      item.2).1
  | .error _ => []

section Verified

variable {item : String × ServiceRequirement} {resolved : ResolvedService}
  {service : VerifiedService}

section From

variable (h : VerifiedFrom compiler request actions item resolved service)
include h

lemma VerifiedFrom.clientIds :
    service.definition.clientDeviceIds = compiler.clientIdsOf request item := by
  rw [clientIdsOf, h.resolves, h.definition]
  rfl

lemma VerifiedFrom.nodup_clientIds :
    (compiler.clientIdsOf request item).Nodup := by
  rw [clientIdsOf, h.resolves]
  exact (nodup_requestedClients _ _ _ _).filter _

lemma VerifiedFrom.map_clientsOf :
    (clientsOf (sourcesOf request).devices service).map Prod.fst =
      compiler.clientIdsOf request item := by
  rw [clientsOf, h.clientIds, List.map_filterMap]
  refine (List.filterMap_congr fun clientId hclient => ?_).trans List.filterMap_some
  rw [clientIdsOf, h.resolves] at hclient
  obtain ⟨client, hdevice⟩ := Option.isSome_iff_exists.mp (contains_of_mem_clients hclient)
  rw [hdevice]
  rfl

/-- Without a second service of the same identifier, a verified service has its own
requirement. -/
lemma VerifiedFrom.requirement_eq (hitem : item ∈ compiler.requirements request.enterprise)
    (hnodup : ((compiler.services request).map fun service => service.definition.id).Nodup) :
    service.requirement = item.2 := by
  have hmem : compiler.compiledService (sourcesOf request) item.1 item.2 resolved ∈
      compiler.services request := mem_services.mpr ⟨item, hitem, resolved, h.resolves, rfl⟩
  have hread := h.requirement
  rw [h.definition, sourceRequirements, Dict.get?_ofList_of_mem (v := item.2)
    (by rwa [List.map_map]) (List.mem_map.mpr ⟨_, hmem, rfl⟩)] at hread
  exact (Option.some.inj hread).symm

lemma VerifiedFrom.map_verifiedClients (hitem : item ∈ compiler.requirements request.enterprise)
    (hnodup : ((compiler.services request).map fun service => service.definition.id).Nodup) :
    (verifiedClients (sourcesOf request).devices service).map Prod.fst =
      if item.2.verificationRequired then compiler.clientIdsOf request item else [] := by
  rw [verifiedClients, h.requirement_eq hitem hnodup]
  split
  · exact h.map_clientsOf
  · rfl

end From

/-! ## Subjects and requirements -/

/-- What a client's view of a service is verified by: the kinds, each with the name it is about. -/
def clientViews (compiler : ServiceCompiler) (requirement : ServiceRequirement) :
    List (String × List String) :=
  match compiler.serviceType? requirement with
  | some .dns =>
    (requirement.dnsRecords.map fun record =>
      ("verify-dns", [compiler.casefold record.hostname])) ++ [("verify-dns-negative", [])]
  | some .http | some .https => [("verify-http-ip", [])]
  | some .ntp => [("verify-ntp", [])]
  | some .tftp => requirement.tftpFiles.map fun file => ("verify-tftp", [file.filename])
  | none => []

variable {clientId : String}

lemma clientSubjects_dns (h : service.definition.serviceType = .dns) :
    clientSubjects service clientId =
      ((hostnamesOf service.actions).map fun hostname =>
        ⟨"verify-dns", [service.definition.id, clientId, hostname]⟩) ++
      [⟨"verify-dns-negative", [service.definition.id, clientId]⟩] := by
  rw [clientSubjects, h, hostnamesOf, List.map_map]
  rfl

lemma clientSubjects_tftp (h : service.definition.serviceType = .tftp) :
    clientSubjects service clientId =
      (filenamesOf service.actions).map fun filename =>
        ⟨"verify-tftp", [service.definition.id, clientId, filename]⟩ := by
  rw [clientSubjects, h, filenamesOf, List.map_map]
  rfl

/-- The files that a requirement asks for have one digest for each name. -/
def DistinctFiles (compiler : ServiceCompiler) (requirement : ServiceRequirement) : Prop :=
  ∀ f ∈ requirement.tftpFiles, ∀ g ∈ requirement.tftpFiles, f.filename = g.filename →
    compiler.sha256 f.content = compiler.sha256 g.content

section Owned

variable (h : VerifiedFrom compiler request actions item resolved service)
  (hcompiled : CompiledFrom compiler request actions plan)
  (hitem : item ∈ compiler.requirements request.enterprise)
  (hnodup : ((compiler.services request).map fun service => service.definition.id).Nodup)
include h hcompiled hitem hnodup

/-- A verified service has the names that its own actions have. -/
lemma VerifiedFrom.names_perm :
    (hostnamesOf service.actions).Perm (hostnamesOf
      (compiler.compiledService (sourcesOf request) item.1 item.2 resolved).actions) ∧
    (filenamesOf service.actions).Perm (filenamesOf
      (compiler.compiledService (sourcesOf request) item.1 item.2 resolved).actions) := by
  have hservice := mem_services.mpr ⟨item, hitem, resolved, h.resolves, rfl⟩
  rw [h.actions, h.definition]
  constructor
  · exact (hcompiled.filterMap_group hnodup hservice fun _ _ => rfl).map _
  · exact (hcompiled.filterMap_group hnodup hservice fun _ _ => rfl).map _

/-- The subjects about a client are the views that the requirement asks for. -/
lemma VerifiedFrom.mem_clientSubjects {subject : Subject} :
    subject ∈ clientSubjects service clientId ↔ ∃ view ∈ compiler.clientViews item.2,
      subject = ⟨view.1, service.definition.id :: clientId :: view.2⟩ := by
  have hview := serviceType_of_resolveService h.resolves
  have htype : service.definition.serviceType = resolved.serviceType := by rw [h.definition]; rfl
  have hclean := hcompiled.clean_actionsOf hitem h.resolves
  obtain ⟨hhostnames, hfilenames⟩ := h.names_perm hcompiled hitem hnodup
  rw [clientViews, hview]
  cases hkind : resolved.serviceType with
  | dns =>
    rw [hkind] at htype hclean
    simp only [compiledService, hkind, actionsOf] at hhostnames
    rw [clientSubjects_dns htype, List.mem_append, List.mem_map]
    simp only [hhostnames.mem_iff, mem_hostnamesOf_dnsActions hclean, List.mem_append, List.mem_map,
      List.mem_singleton]
    constructor
    · rintro (⟨hostname, ⟨record, hrecord, rfl⟩, rfl⟩ | rfl)
      · exact ⟨_, .inl ⟨record, hrecord, rfl⟩, rfl⟩
      · exact ⟨_, .inr rfl, rfl⟩
    · rintro ⟨view, ⟨record, hrecord, rfl⟩ | rfl, rfl⟩
      · exact .inl ⟨_, ⟨record, hrecord, rfl⟩, rfl⟩
      · exact .inr rfl
  | http | https | ntp =>
    rw [hkind] at htype
    simp [clientSubjects, htype]
  | tftp =>
    rw [hkind] at htype hclean
    simp only [compiledService, hkind, actionsOf] at hfilenames
    rw [clientSubjects_tftp htype, List.mem_map]
    simp only [hfilenames.mem_iff, mem_filenamesOf_tftpActions hclean, List.mem_map]
    constructor
    · rintro ⟨filename, ⟨file, hfile, rfl⟩, rfl⟩
      exact ⟨_, ⟨file, hfile, rfl⟩, rfl⟩
    · rintro ⟨view, ⟨file, hfile, rfl⟩, rfl⟩
      exact ⟨_, ⟨file, hfile, rfl⟩, rfl⟩

/-- The subjects about a client are pairwise distinct exactly when no file name of a TFTP service
has two contents. -/
lemma VerifiedFrom.nodup_clientSubjects (clientId : String) :
    (clientSubjects service clientId).Nodup ↔
      (compiler.serviceType? item.2 = some .tftp → compiler.DistinctFiles item.2) := by
  have hview := serviceType_of_resolveService h.resolves
  have htype : service.definition.serviceType = resolved.serviceType := by rw [h.definition]; rfl
  have hclean := hcompiled.clean_actionsOf hitem h.resolves
  obtain ⟨hhostnames, hfilenames⟩ := h.names_perm hcompiled hitem hnodup
  rw [hview]
  cases hkind : resolved.serviceType with
  | dns =>
    rw [hkind] at htype
    simp only [compiledService, hkind, actionsOf] at hhostnames
    have hnames := hhostnames.nodup_iff.mpr (nodup_hostnamesOf_dnsActions _ _)
    have hsubjects : (clientSubjects service clientId).Nodup := by
      rw [clientSubjects_dns htype, ← List.concat_eq_append, List.nodup_concat]
      refine ⟨by simp, hnames.map fun a b hab => ?_⟩
      simpa using hab
    exact ⟨fun _ hne => absurd hne (by simp), fun _ => hsubjects⟩
  | http | https | ntp =>
    rw [hkind] at htype
    simp [clientSubjects, htype]
  | tftp =>
    rw [hkind] at htype hclean
    simp only [compiledService, hkind, actionsOf] at hfilenames
    have hinjective : Function.Injective fun filename : String =>
        (⟨"verify-tftp", [service.definition.id, clientId, filename]⟩ : Subject) :=
      fun a b hab => by simpa using hab
    rw [clientSubjects_tftp htype, List.nodup_map_iff hinjective, hfilenames.nodup_iff,
      nodup_filenamesOf_tftpActions hclean]
    exact ⟨fun h _ => h, fun h => h rfl⟩

end Owned

end Verified

/-! ## All subjects -/

variable {devices : Dict String Plans.DevicePlan} {clientId : String}
  {verified : List VerifiedService} {service : VerifiedService}

/-- The host names that a verified DNS service resolves for a client. -/
lemma contains_resolutions {hostname : String} :
    (Dict.ofList (verified.flatMap (compiler.dnsResolutions devices))).contains
        (clientId, hostname) ↔
      ∃ service ∈ verified, service.definition.serviceType = .dns ∧
        clientId ∈ (verifiedClients devices service).map Prod.fst ∧
        hostname ∈ hostnamesOf service.actions := by
  rw [Dict.contains, Dict.isSome_get?_ofList_iff, List.map_flatMap, List.mem_flatMap]
  refine exists_congr fun service => and_congr_right fun _ => ?_
  unfold dnsResolutions
  split
  · rename_i htype
    simp only [List.map_flatMap, List.map_map, Function.comp_def, List.mem_flatMap, List.mem_map,
      hostnamesOf, htype, true_and, Prod.mk.injEq]
    constructor
    · rintro ⟨client, hclient, record, hrecord, rfl, rfl⟩
      exact ⟨⟨client, hclient, rfl⟩, record, hrecord, rfl⟩
    · rintro ⟨⟨client, hclient, rfl⟩, record, hrecord, rfl⟩
      exact ⟨client, hclient, record, hrecord, rfl, rfl⟩
  · rename_i htype
    simp [htype]

/-- The sites that a client fetches. -/
lemma contains_fetches :
    (Dict.ofList (verified.flatMap (compiler.httpFetches devices))).contains
        (serviceId, clientId) ↔
      ∃ service ∈ verified, (service.definition.serviceType = .http ∨
          service.definition.serviceType = .https) ∧ service.definition.id = serviceId ∧
        clientId ∈ (verifiedClients devices service).map Prod.fst := by
  rw [Dict.contains, Dict.isSome_get?_ofList_iff, List.map_flatMap, List.mem_flatMap]
  refine exists_congr fun service => and_congr_right fun _ => ?_
  unfold httpFetches
  split
  · rename_i htype
    simp only [List.map_map, Function.comp_def, List.mem_map, htype, true_and, Prod.mk.injEq]
    constructor
    · rintro ⟨client, hclient, rfl, rfl⟩
      exact ⟨rfl, client, hclient, rfl⟩
    · rintro ⟨rfl, client, hclient, rfl⟩
      exact ⟨client, hclient, rfl, rfl⟩
  · rename_i htype
    simp [htype]

/-- The subjects of a plan with the given actions. -/
def subjectsOf (compiler : ServiceCompiler) (request : ServiceRequest)
    (actions : List ServiceAction) : List Subject :=
  let devices := (sourcesOf request).devices
  let verified := verifiedServices (compiler.services request) actions
  verified.flatMap (serviceSubjects devices) ++
    verified.flatMap (compiler.composedSubjects devices
      (Dict.ofList (verified.flatMap (compiler.dnsResolutions devices)))
      (Dict.ofList (verified.flatMap (compiler.httpFetches devices))))

lemma CompiledFrom.perm_ids (h : CompiledFrom compiler request actions plan) :
    (plan.verificationExpectations.map ServiceVerificationExpectation.id).Perm
      ((compiler.subjectsOf request actions).map compiler.subjectId) := by
  rw [h.plan_eq]
  simp only [servicePlan, List.map_map]
  refine ((perm_sortedBy expectationKey _).map _).trans (List.Perm.of_eq ?_)
  rw [subjectsOf, List.map_append, List.map_append, List.map_flatMap, List.map_flatMap,
    List.map_flatMap, List.map_flatMap]
  refine congrArg₂ _ (List.flatMap_congr fun service _ => ?_)
    (List.flatMap_congr fun service _ => ?_)
  · exact map_id_serviceExpectations
  · exact map_id_composedExpectations

/-- What a request asks to verify: every service itself, what the clients of a service see of it
when verification is required, and for a site with a host name that a verified DNS service of the
client resolves, the fetch by that name. -/
inductive Verifies (compiler : ServiceCompiler) (request : ServiceRequest) : Subject → Prop
  | direct {item : String × ServiceRequirement}
      (hitem : item ∈ compiler.requirements request.enterprise) :
      Verifies compiler request ⟨"verify-direct", [compiler.serviceId item.1 item.2]⟩
  | client {item : String × ServiceRequirement} {clientId : String} {view : String × List String}
      (hitem : item ∈ compiler.requirements request.enterprise)
      (hrequired : item.2.verificationRequired)
      (hclient : clientId ∈ compiler.clientIdsOf request item)
      (hview : view ∈ compiler.clientViews item.2) :
      Verifies compiler request
        ⟨view.1, compiler.serviceId item.1 item.2 :: clientId :: view.2⟩
  | composed {item dns : String × ServiceRequirement} {record : DnsRecordRequirement}
      {clientId : String} (hitem : item ∈ compiler.requirements request.enterprise)
      (hrequired : item.2.verificationRequired)
      (hclient : clientId ∈ compiler.clientIdsOf request item)
      (htype : compiler.serviceType? item.2 = some .http) (hname : item.2.hostname ≠ "")
      (hhostname : isHostname (compiler.casefold item.2.hostname))
      (hdns : dns ∈ compiler.requirements request.enterprise)
      (hdnsRequired : dns.2.verificationRequired)
      (hdnsClient : clientId ∈ compiler.clientIdsOf request dns)
      (hdnsType : compiler.serviceType? dns.2 = some .dns) (hrecord : record ∈ dns.2.dnsRecords)
      (hresolved : compiler.casefold record.hostname = compiler.casefold item.2.hostname) :
      Verifies compiler request ⟨"verify-http-name",
        [compiler.serviceId item.1 item.2, clientId, compiler.casefold item.2.hostname]⟩

/-- The subjects about fetches by host name. -/
lemma mem_composedSubjects {resolutions fetches : Dict (String × String) String} {subject : Subject} :
    subject ∈ compiler.composedSubjects devices resolutions fetches service ↔
      service.definition.serviceType = .http ∧ service.requirement.hostname ≠ "" ∧
        isHostname (compiler.casefold service.requirement.hostname) ∧
        ∃ clientId ∈ (clientsOf devices service).map Prod.fst,
          resolutions.contains (clientId, compiler.casefold service.requirement.hostname) ∧
          fetches.contains (service.definition.id, clientId) ∧
          subject = ⟨"verify-http-name", [service.definition.id, clientId,
            compiler.casefold service.requirement.hostname]⟩ := by
  unfold composedSubjects
  simp only
  split
  · rename_i hcondition
    refine iff_of_false (by simp) ?_
    rintro ⟨htype, hname, hhostname, -⟩
    rcases hcondition with hcondition | hcondition | hcondition
    · exact hcondition htype
    · exact hname hcondition
    · simp [hhostname] at hcondition
  · rename_i hcondition
    obtain ⟨htype, hname, hhostname⟩ := by simpa only [not_or, not_not] using hcondition
    simp only [List.mem_map, List.mem_filter, Bool.and_eq_true]
    constructor
    · rintro ⟨client, ⟨hclient, hresolution, hfetch⟩, rfl⟩
      exact ⟨htype, hname, by simpa using hhostname, client.1, ⟨client, hclient, rfl⟩, hresolution,
        hfetch, rfl⟩
    · rintro ⟨-, -, -, clientId, ⟨client, hclient, rfl⟩, hresolution, hfetch, rfl⟩
      exact ⟨client, ⟨hclient, hresolution, hfetch⟩, rfl⟩

lemma VerifiedFrom.mem_verifiedClients
    (h : VerifiedFrom compiler request actions item resolved service)
    (hitem : item ∈ compiler.requirements request.enterprise)
    (hnodup : ((compiler.services request).map fun service => service.definition.id).Nodup) :
    clientId ∈ (verifiedClients (sourcesOf request).devices service).map Prod.fst ↔
      item.2.verificationRequired ∧ clientId ∈ compiler.clientIdsOf request item := by
  rw [h.map_verifiedClients hitem hnodup]
  split
  · rename_i hrequired
    simp [hrequired]
  · rename_i hrequired
    simp [hrequired]

lemma VerifiedFrom.serviceType (h : VerifiedFrom compiler request actions item resolved service) :
    compiler.serviceType? item.2 = some service.definition.serviceType := by
  rw [serviceType_of_resolveService h.resolves, h.definition]
  rfl

section Distinct

variable (h : CompiledFrom compiler request actions plan)
  (hnodup : ((compiler.services request).map fun service => service.definition.id).Nodup)
include h hnodup

variable {subject : Subject}

/-- The subjects about a service itself and about what its clients see. -/
lemma CompiledFrom.mem_serviceSubjects
    (hfrom : VerifiedFrom compiler request actions item resolved service)
    (hitem : item ∈ compiler.requirements request.enterprise) :
    subject ∈ serviceSubjects (sourcesOf request).devices service ↔
      subject = ⟨"verify-direct", [compiler.serviceId item.1 item.2]⟩ ∨
      item.2.verificationRequired ∧ ∃ clientId ∈ compiler.clientIdsOf request item,
        ∃ view ∈ compiler.clientViews item.2,
          subject = ⟨view.1, compiler.serviceId item.1 item.2 :: clientId :: view.2⟩ := by
  rw [serviceSubjects, List.mem_cons, List.mem_flatMap, hfrom.id]
  refine or_congr_right ?_
  constructor
  · rintro ⟨client, hclient, hsubject⟩
    obtain ⟨hrequired, hmem⟩ := (hfrom.mem_verifiedClients hitem hnodup).mp
      (List.mem_map_of_mem hclient)
    obtain ⟨view, hview, rfl⟩ := (hfrom.mem_clientSubjects h hitem hnodup).mp hsubject
    exact ⟨hrequired, client.1, hmem, view, hview, by rw [hfrom.id]⟩
  · rintro ⟨hrequired, clientId, hmem, view, hview, rfl⟩
    obtain ⟨client, hclient, rfl⟩ := List.mem_map.mp
      ((hfrom.mem_verifiedClients hitem hnodup).mpr ⟨hrequired, hmem⟩)
    refine ⟨client, hclient, (hfrom.mem_clientSubjects h hitem hnodup).mpr ⟨view, hview, ?_⟩⟩
    rw [hfrom.id]

lemma CompiledFrom.mem_hostnamesOf
    (hfrom : VerifiedFrom compiler request actions item resolved service)
    (hitem : item ∈ compiler.requirements request.enterprise)
    (htype : service.definition.serviceType = .dns) {hostname : String} :
    hostname ∈ hostnamesOf service.actions ↔
      ∃ record ∈ item.2.dnsRecords, compiler.casefold record.hostname = hostname := by
  have hkind : resolved.serviceType = .dns := by rwa [hfrom.definition] at htype
  have hclean := h.clean_actionsOf hitem hfrom.resolves
  have hhostnames := (hfrom.names_perm h hitem hnodup).1
  rw [hkind] at hclean
  simp only [compiledService, hkind, actionsOf] at hhostnames
  rw [hhostnames.mem_iff, mem_hostnamesOf_dnsActions hclean]

/-- The subjects of a plan are what the request asks to verify. -/
lemma CompiledFrom.mem_subjectsOf :
    subject ∈ compiler.subjectsOf request actions ↔ compiler.Verifies request subject := by
  rw [subjectsOf, List.mem_append, List.mem_flatMap, List.mem_flatMap]
  simp only [mem_composedSubjects, contains_resolutions, contains_fetches]
  constructor
  · rintro (⟨service, hservice, hsubject⟩ | ⟨service, hservice, htype, hname, hhostname, clientId,
      hclient, ⟨dns, hdns, hdnsType, hdnsClient, hresolved⟩, ⟨site, hsite, -, hsame, hfetched⟩, rfl⟩)
    · obtain ⟨item, hitem, resolved, hfrom⟩ := h.verifiedFrom_of_mem hservice
      rcases (h.mem_serviceSubjects hnodup hfrom hitem).mp hsubject with
        rfl | ⟨hrequired, clientId, hclient, view, hview, rfl⟩
      · exact .direct hitem
      · exact .client hitem hrequired hclient hview
    · obtain ⟨item, hitem, resolved, hfrom⟩ := h.verifiedFrom_of_mem hservice
      obtain ⟨dnsItem, hdnsItem, dnsResolved, hdnsFrom⟩ := h.verifiedFrom_of_mem hdns
      have hsiteService : site = service := by
        have hids : ((verifiedServices (compiler.services request) actions).map
            fun item => item.definition.id).Nodup := by
          rw [h.map_id_verifiedServices]
          exact ((perm_sortedBy _ _).map _).nodup_iff.mpr hnodup
        exact List.inj_on_of_nodup_map hids hsite hservice hsame
      subst hsiteService
      have hrequired := ((hfrom.mem_verifiedClients hitem hnodup).mp hfetched)
      have hdnsRequired := ((hdnsFrom.mem_verifiedClients hdnsItem hnodup).mp hdnsClient)
      obtain ⟨record, hrecord, hrecordName⟩ :=
        (h.mem_hostnamesOf hnodup hdnsFrom hdnsItem hdnsType).mp hresolved
      rw [hfrom.requirement_eq hitem hnodup] at hname hhostname hrecordName ⊢
      rw [hfrom.id]
      exact .composed hitem hrequired.1 hrequired.2 (hfrom.serviceType.trans (by rw [htype])) hname
        hhostname hdnsItem hdnsRequired.1 hdnsRequired.2
        (hdnsFrom.serviceType.trans (by rw [hdnsType])) hrecord hrecordName
  · intro hverifies
    cases hverifies with
    | @direct item hitem =>
      obtain ⟨service, hservice, resolved, hfrom⟩ := h.exists_verifiedFrom hitem
      exact .inl ⟨service, hservice, (h.mem_serviceSubjects hnodup hfrom hitem).mpr (.inl rfl)⟩
    | @client item clientId view hitem hrequired hclient hview =>
      obtain ⟨service, hservice, resolved, hfrom⟩ := h.exists_verifiedFrom hitem
      exact .inl ⟨service, hservice, (h.mem_serviceSubjects hnodup hfrom hitem).mpr
        (.inr ⟨hrequired, clientId, hclient, view, hview, rfl⟩)⟩
    | @composed item dns record clientId hitem hrequired hclient htype hname hhostname hdns
        hdnsRequired hdnsClient hdnsType hrecord hresolved =>
      obtain ⟨service, hservice, resolved, hfrom⟩ := h.exists_verifiedFrom hitem
      obtain ⟨dnsService, hdnsService, dnsResolved, hdnsFrom⟩ := h.exists_verifiedFrom hdns
      have hserviceType := Option.some.inj (hfrom.serviceType.symm.trans htype)
      have hdnsServiceType := Option.some.inj (hdnsFrom.serviceType.symm.trans hdnsType)
      have hclients := (hfrom.mem_verifiedClients hitem hnodup).mpr ⟨hrequired, hclient⟩
      have hdnsClients := (hdnsFrom.mem_verifiedClients hdns hnodup).mpr
        ⟨hdnsRequired, hdnsClient⟩
      refine .inr ⟨service, hservice, hserviceType, ?_⟩
      rw [hfrom.requirement_eq hitem hnodup, hfrom.id, hfrom.map_clientsOf]
      refine ⟨hname, hhostname, clientId, hclient, ⟨dnsService, hdnsService, hdnsServiceType,
        hdnsClients, ?_⟩, ⟨service, hservice, .inl hserviceType, hfrom.id, hclients⟩, rfl⟩
      exact (h.mem_hostnamesOf hnodup hdnsFrom hdns hdnsServiceType).mpr
        ⟨record, hrecord, hresolved⟩

end Distinct

lemma kind_ne_of_mem_clientViews {view : String × List String}
    (h : view ∈ compiler.clientViews requirement) : view.1 ≠ "verify-http-name" := by
  unfold clientViews at h
  split at h
  · rcases List.mem_concat_iff.mp h with h | h
    · obtain ⟨record, -, rfl⟩ := List.mem_map.mp h
      exact (by decide : "verify-dns" ≠ "verify-http-name")
    · rw [h]
      decide
  · rw [List.mem_singleton.mp h]
    decide
  · rw [List.mem_singleton.mp h]
    decide
  · rw [List.mem_singleton.mp h]
    decide
  · obtain ⟨file, -, rfl⟩ := List.mem_map.mp h
    exact (by decide : "verify-tftp" ≠ "verify-http-name")
  · cases h

/-- The composed subjects of a service are pairwise distinct. -/
lemma VerifiedFrom.nodup_composedSubjects
    (h : VerifiedFrom compiler request actions item resolved service)
    {resolutions fetches : Dict (String × String) String} :
    (compiler.composedSubjects (sourcesOf request).devices resolutions fetches service).Nodup := by
  unfold composedSubjects
  simp only
  split
  · exact List.nodup_nil
  set listed := (clientsOf (sourcesOf request).devices service).filter _
  have hlisted : (listed.map Prod.fst).Nodup := by
    refine List.Nodup.sublist (List.filter_sublist.map _) ?_
    rw [h.map_clientsOf]
    exact h.nodup_clientIds
  have hread : listed.map (fun client => (⟨"verify-http-name", [service.definition.id, client.1,
        compiler.casefold service.requirement.hostname]⟩ : Subject)) =
      (listed.map Prod.fst).map fun clientId => ⟨"verify-http-name", [service.definition.id,
        clientId, compiler.casefold service.requirement.hostname]⟩ := by
    rw [List.map_map]
    rfl
  rw [hread]
  exact hlisted.map fun a b hab => by simpa using hab

/-- Every TFTP service whose files are verified has one digest for each file name. -/
def FilesAgree (compiler : ServiceCompiler) (request : ServiceRequest) : Prop :=
  ∀ item ∈ compiler.requirements request.enterprise, compiler.serviceType? item.2 = some .tftp →
    item.2.verificationRequired → compiler.clientIdsOf request item ≠ [] →
    compiler.DistinctFiles item.2

section DistinctSubjects

variable (h : CompiledFrom compiler request actions plan)
  (hnodup : ((compiler.services request).map fun service => service.definition.id).Nodup)
include h hnodup

/-- The subjects about a service itself and about what its clients see are pairwise distinct
exactly when its files agree. -/
lemma CompiledFrom.nodup_serviceSubjects
    (hfrom : VerifiedFrom compiler request actions item resolved service)
    (hitem : item ∈ compiler.requirements request.enterprise) :
    (serviceSubjects (sourcesOf request).devices service).Nodup ↔
      (compiler.serviceType? item.2 = some .tftp → item.2.verificationRequired →
        compiler.clientIdsOf request item ≠ [] → compiler.DistinctFiles item.2) := by
  have hparts : ∀ client subject, subject ∈ clientSubjects service client →
      ∃ names, subject.parts = service.definition.id :: client :: names := by
    intro client subject hsubject
    obtain ⟨view, -, rfl⟩ := (hfrom.mem_clientSubjects h hitem hnodup).mp hsubject
    exact ⟨view.2, rfl⟩
  have hclients : ((verifiedClients (sourcesOf request).devices service).map Prod.fst).Nodup := by
    rw [hfrom.map_verifiedClients hitem hnodup]
    split
    · exact hfrom.nodup_clientIds
    · exact List.nodup_nil
  have hdirect : (⟨"verify-direct", [service.definition.id]⟩ : Subject) ∉
      (verifiedClients (sourcesOf request).devices service).flatMap
        fun client => clientSubjects service client.1 := by
    intro hmem
    obtain ⟨client, -, hsubject⟩ := List.mem_flatMap.mp hmem
    obtain ⟨names, hnames⟩ := hparts client.1 _ hsubject
    simp at hnames
  have hdisjoint : (verifiedClients (sourcesOf request).devices service).Pairwise
      (Function.onFun List.Disjoint fun client => clientSubjects service client.1) := by
    refine (List.pairwise_map.mp hclients).imp fun {client other} hne subject hsubject hother => ?_
    obtain ⟨names, hnames⟩ := hparts client.1 _ hsubject
    obtain ⟨names', hnames'⟩ := hparts other.1 _ hother
    rw [hnames] at hnames'
    exact hne (by simpa using (List.cons.inj (List.cons.inj hnames').2).1)
  rw [serviceSubjects, List.nodup_cons, List.nodup_flatMap]
  constructor
  · rintro ⟨-, heach, -⟩ htype hrequired hne
    obtain ⟨clientId, hclientId⟩ := List.exists_mem_of_ne_nil _ hne
    obtain ⟨client, hclient, rfl⟩ := List.mem_map.mp
      ((hfrom.mem_verifiedClients hitem hnodup).mpr ⟨hrequired, hclientId⟩)
    exact (hfrom.nodup_clientSubjects h hitem hnodup client.1).mp (heach client hclient) htype
  · intro hagree
    refine ⟨hdirect, fun client hclient => ?_, hdisjoint⟩
    refine (hfrom.nodup_clientSubjects h hitem hnodup client.1).mpr fun htype => ?_
    obtain ⟨hrequired, hclientId⟩ := (hfrom.mem_verifiedClients hitem hnodup).mp
      (List.mem_map_of_mem hclient)
    exact hagree htype hrequired (List.ne_nil_of_mem hclientId)

/-- The subjects of a plan are pairwise distinct exactly when the files agree. -/
lemma CompiledFrom.nodup_subjectsOf :
    (compiler.subjectsOf request actions).Nodup ↔ compiler.FilesAgree request := by
  set devices := (sourcesOf request).devices with hdevices
  set verified := verifiedServices (compiler.services request) actions with hverified
  have hids : verified.Pairwise fun a b => a.definition.id ≠ b.definition.id := by
    have hnodupIds : (verified.map fun item => item.definition.id).Nodup := by
      rw [hverified, h.map_id_verifiedServices]
      exact ((perm_sortedBy _ _).map _).nodup_iff.mpr hnodup
    exact List.pairwise_map.mp hnodupIds
  have hhead : ∀ service ∈ verified, ∀ subject ∈ serviceSubjects devices service,
      subject.parts.head? = some service.definition.id := by
    intro service hservice subject hsubject
    obtain ⟨item, hitem, resolved, hfrom⟩ := h.verifiedFrom_of_mem hservice
    rcases (h.mem_serviceSubjects hnodup hfrom hitem).mp hsubject with
      rfl | ⟨-, clientId, -, view, -, rfl⟩
    · rw [hfrom.id]
      rfl
    · rw [hfrom.id]
      rfl
  have hkind : ∀ service ∈ verified, ∀ subject ∈ serviceSubjects devices service,
      subject.kind ≠ "verify-http-name" := by
    intro service hservice subject hsubject
    obtain ⟨item, hitem, resolved, hfrom⟩ := h.verifiedFrom_of_mem hservice
    rcases (h.mem_serviceSubjects hnodup hfrom hitem).mp hsubject with
      rfl | ⟨-, clientId, -, view, hview, rfl⟩
    · exact (by decide : "verify-direct" ≠ "verify-http-name")
    · exact kind_ne_of_mem_clientViews hview
  rw [subjectsOf, List.nodup_append', List.nodup_flatMap, List.nodup_flatMap]
  constructor
  · rintro ⟨⟨heach, -⟩, -⟩ item hitem
    obtain ⟨service, hservice, resolved, hfrom⟩ := h.exists_verifiedFrom hitem
    exact (h.nodup_serviceSubjects hnodup hfrom hitem).mp (heach service hservice)
  · intro hagree
    refine ⟨⟨fun service hservice => ?_, ?_⟩, ⟨fun service hservice => ?_, ?_⟩, ?_⟩
    · obtain ⟨item, hitem, resolved, hfrom⟩ := h.verifiedFrom_of_mem hservice
      exact (h.nodup_serviceSubjects hnodup hfrom hitem).mpr (hagree item hitem)
    · refine hids.imp_of_mem fun {a b} ha hb hne subject hsubject hother => hne ?_
      exact Option.some.inj ((hhead a ha subject hsubject).symm.trans (hhead b hb subject hother))
    · obtain ⟨item, hitem, resolved, hfrom⟩ := h.verifiedFrom_of_mem hservice
      exact hfrom.nodup_composedSubjects
    · refine hids.imp fun {a b} hne subject hsubject hother => hne ?_
      obtain ⟨-, -, -, clientId, -, -, -, rfl⟩ := mem_composedSubjects.mp hsubject
      obtain ⟨-, -, -, clientId', -, -, -, hsame⟩ := mem_composedSubjects.mp hother
      exact (List.cons.inj (Subject.mk.inj hsame).2).1
    · intro subject hsubject hother
      obtain ⟨service, hservice, hsubject⟩ := List.mem_flatMap.mp hsubject
      obtain ⟨other, -, hother⟩ := List.mem_flatMap.mp hother
      obtain ⟨-, -, -, clientId, -, -, -, rfl⟩ := mem_composedSubjects.mp hother
      exact hkind service hservice _ hsubject rfl

end DistinctSubjects

lemma sublist_serviceSubjects (verified : List VerifiedService) :
    (verified.map fun service => ⟨"verify-direct", [service.definition.id]⟩).Sublist
      (verified.flatMap (serviceSubjects devices)) := by
  induction verified with
  | nil => exact List.Sublist.refl _
  | cons service rest ih =>
    rw [List.map_cons, List.flatMap_cons, serviceSubjects, List.cons_append]
    exact List.Sublist.cons_cons _ (ih.trans (List.sublist_append_right _ _))

/-- With pairwise distinct expectations no two services have the same identifier. -/
lemma CompiledFrom.nodup_of_nodup_expectations (h : CompiledFrom compiler request actions plan)
    (hids : (plan.verificationExpectations.map ServiceVerificationExpectation.id).Nodup) :
    ((compiler.services request).map fun service => service.definition.id).Nodup := by
  have hsubjects := h.perm_ids.nodup_iff.mp hids
  set verified := verifiedServices (compiler.services request) actions with hverified
  have hdirect : ((verified.map fun service =>
      (⟨"verify-direct", [service.definition.id]⟩ : Subject)).map compiler.subjectId).Nodup := by
    refine hsubjects.sublist (List.Sublist.map _ ?_)
    exact (sublist_serviceSubjects verified).trans (List.sublist_append_left _ _)
  have hmapped : ((verified.map fun service => service.definition.id).map fun serviceId =>
      compiler.subjectId ⟨"verify-direct", [serviceId]⟩).Nodup := by
    rwa [List.map_map] at hdirect ⊢
  have hnodup := hmapped.of_map
  rw [hverified, h.map_id_verifiedServices] at hnodup
  exact ((perm_sortedBy _ _).map _).nodup_iff.mp hnodup

end ServiceCompiler

end Services

end PacketTracer
