import PacketTracer.Domain.ServiceCompiler

/-!
# Dependencies and subjects of services

The linking of services in `service_compiler.py` changes nothing but the dependencies of first
actions.  The identifier of an expectation is a digest of its subject: a kind, the service, and for
most kinds a client and a name; the subjects that a compilation verifies are related to the
requirements.
-/

namespace PacketTracer

namespace Services

open Dicts PyText Fallible

namespace ServiceCompiler

variable {compiler : ServiceCompiler} {request : ServiceRequest}

/-! ## Services and requirements -/

variable (compiler request)

/-- The requirements that become services, with the sites that they are declared for. -/
def siteServices : List (String × ServiceRequirement) :=
  (compiler.requirements request.enterprise).filter fun item =>
    (compiler.resolveService (sourcesOf request) item.1 item.2).isOk

/-- The service that a requirement becomes. -/
def definitionOf (item : String × ServiceRequirement) : Option ServiceDefinition :=
  (compiler.compileService (sourcesOf request) request.capabilities item).service.map
    CompiledService.definition

/-- A site has a service with the name, up to case folding. -/
def SiteHas (siteId name : String) : Prop :=
  ∃ item ∈ compiler.siteServices request, item.1 = siteId ∧
    compiler.casefold item.2.name = compiler.casefold name

/-- A name is resolved to a service of the site that has the name. -/
def ResolvedInSite (siteId name : String) : Prop :=
  ∃ item ∈ compiler.siteServices request, item.1 = siteId ∧
    compiler.casefold item.2.name = compiler.casefold name ∧
    compiler.dependency? (compiler.services request) name = compiler.definitionOf request item

/-- A service of the site declares a dependency by the name. -/
def SiteDeclares (siteId name : String) : Prop :=
  ∃ item ∈ compiler.siteServices request, item.1 = siteId ∧ name ∈ item.2.dependsOn

instance (siteId name : String) : Decidable (compiler.SiteHas request siteId name) :=
  inferInstanceAs (Decidable (∃ item ∈ compiler.siteServices request, _ ∧ _))

instance (siteId name : String) : Decidable (compiler.ResolvedInSite request siteId name) :=
  inferInstanceAs (Decidable (∃ item ∈ compiler.siteServices request, _ ∧ _ ∧ _))

instance (siteId name : String) : Decidable (compiler.SiteDeclares request siteId name) :=
  inferInstanceAs (Decidable (∃ item ∈ compiler.siteServices request, _ ∧ _))

variable {compiler request} {item : String × ServiceRequirement} {definition : ServiceDefinition}

lemma service_compileService {sources : Sources}
    {capabilities : Dict String ServiceCapabilityProfile} :
    (compiler.compileService sources capabilities item).service =
      (compiler.resolveService sources item.1 item.2).toOption.map
        (compiler.compiledService sources item.1 item.2) := by
  obtain ⟨siteId, requirement⟩ := item
  simp only [compileService]
  cases compiler.resolveService sources siteId requirement <;> rfl

lemma definitionOf_eq_some :
    compiler.definitionOf request item = some definition ↔
      ∃ resolved, compiler.resolveService (sourcesOf request) item.1 item.2 = .ok resolved ∧
        (compiler.compiledService (sourcesOf request) item.1 item.2 resolved).definition =
          definition := by
  rw [definitionOf, service_compileService]
  cases compiler.resolveService (sourcesOf request) item.1 item.2 with
  | error e | ok resolved => simp [Except.toOption]

lemma mem_siteServices :
    item ∈ compiler.siteServices request ↔ item ∈ compiler.requirements request.enterprise ∧
      ∃ resolved, compiler.resolveService (sourcesOf request) item.1 item.2 = .ok resolved := by
  rw [siteServices, List.mem_filter]
  refine and_congr_right fun _ => ⟨exists_of_isOk, ?_⟩
  rintro ⟨resolved, h⟩
  rw [h]
  rfl

lemma pairwise_requirements (enterprise : EnterprisePlan) :
    (compiler.requirements enterprise).Pairwise fun a b => a.1 ≤ b.1 :=
  (pairwise_sortedBy compiler.requirementKey _).imp fun h => Prod.Lex.monotone_fst _ _ h

/-! ## Names -/

/-- The entry of a requirement in the dictionary of names. -/
def nameEntry (compiler : ServiceCompiler) (request : ServiceRequest)
    (item : String × ServiceRequirement) : Option (String × ServiceDefinition) :=
  (compiler.definitionOf request item).map fun definition =>
    (compiler.casefold item.2.name, definition)

lemma map_services_eq (compiler : ServiceCompiler) (request : ServiceRequest) :
    ((compiler.services request).map fun item =>
        (compiler.casefold item.definition.name, item.definition)) =
      (compiler.requirements request.enterprise).filterMap (compiler.nameEntry request) := by
  rw [services, outputs, List.filterMap_map, List.map_filterMap]
  refine List.filterMap_congr fun item _ => ?_
  rw [nameEntry, definitionOf, Function.comp_apply, service_compileService]
  cases compiler.resolveService (sourcesOf request) item.1 item.2 <;> rfl

lemma mem_siteServices_of_nameEntry (hitem : item ∈ compiler.requirements request.enterprise)
    {k : String} (h : compiler.nameEntry request item = some (k, definition)) :
    item ∈ compiler.siteServices request ∧ compiler.casefold item.2.name = k ∧
      compiler.definitionOf request item = some definition := by
  obtain ⟨found, hfound, heq⟩ := Option.map_eq_some_iff.mp h
  obtain ⟨hk, rfl⟩ := Prod.mk.inj heq
  obtain ⟨resolved, hresolved, -⟩ := definitionOf_eq_some.mp hfound
  exact ⟨mem_siteServices.mpr ⟨hitem, resolved, hresolved⟩, hk, hfound⟩

lemma nameEntry_of_mem_siteServices (h : item ∈ compiler.siteServices request) :
    (compiler.nameEntry request item).map Prod.fst = some (compiler.casefold item.2.name) := by
  obtain ⟨-, resolved, hresolved⟩ := mem_siteServices.mp h
  rw [nameEntry, definitionOf_eq_some.mpr ⟨resolved, hresolved, rfl⟩]
  rfl

variable {siteId name : String}

/-- A name that some service has is resolved to a service of the greatest site with the name. -/
lemma exists_greatest (h : compiler.SiteHas request siteId name) :
    ∃ item ∈ compiler.siteServices request,
      compiler.casefold item.2.name = compiler.casefold name ∧
      compiler.dependency? (compiler.services request) name = compiler.definitionOf request item ∧
      ∀ other, compiler.SiteHas request other name → other ≤ item.1 := by
  obtain ⟨namesake, hnamesake, -, hname⟩ := h
  set byName := Dict.ofList ((compiler.services request).map fun item =>
    (compiler.casefold item.definition.name, item.definition)) with hbyName
  replace hbyName := hbyName.trans (congrArg Dict.ofList (map_services_eq compiler request))
  have hsome : (byName.get? (compiler.casefold name)).isSome := by
    obtain ⟨entry, hentry, hk⟩ := Option.map_eq_some_iff.mp
      (nameEntry_of_mem_siteServices hnamesake)
    rw [hbyName, Dict.isSome_get?_ofList_iff, ← hname, ← hk]
    exact List.mem_map_of_mem
      (List.mem_filterMap.mpr ⟨namesake, (mem_siteServices.mp hnamesake).1, hentry⟩)
  obtain ⟨definition, hdefinition⟩ := Option.isSome_iff_exists.mp hsome
  have hget := hdefinition
  rw [hbyName] at hget
  obtain ⟨item, hitem, hentry, hgreatest⟩ :=
    Dict.greatest_of_get?_ofList (pairwise_requirements request.enterprise) hget
  obtain ⟨hservice, hk, hfound⟩ := mem_siteServices_of_nameEntry hitem hentry
  refine ⟨item, hservice, hk, ?_, ?_⟩
  · have hlookup : compiler.dependency? (compiler.services request) name =
        (byName.get? (compiler.casefold name)).or _ := rfl
    rw [hlookup, hdefinition, Option.some_or, hfound]
  · rintro other ⟨another, hanother, rfl, hanotherName⟩
    refine hgreatest another (mem_siteServices.mp hanother).1 ?_
    rw [nameEntry_of_mem_siteServices hanother, hanotherName]

lemma siteId_of_definitionOf (hsite : item.1 ≠ "")
    (h : compiler.definitionOf request item = some definition) : definition.siteId = item.1 := by
  obtain ⟨resolved, -, rfl⟩ := definitionOf_eq_some.mp h
  exact if_neg hsite

lemma ne_empty_of_lt {a b : String} (h : a < b) : b ≠ "" := by
  rintro rfl
  exact List.not_lt_nil _ (String.lt_iff_toList_lt.mp h)

/-- A name that a site has is resolved inside the site exactly when no greater site has it. -/
lemma resolvedInSite_iff (hsite : siteId ≠ "") (h : compiler.SiteHas request siteId name) :
    compiler.ResolvedInSite request siteId name ↔
      ∀ other, siteId < other → ¬compiler.SiteHas request other name := by
  obtain ⟨found, hfound, hfoundName, hresolved, hgreatest⟩ := exists_greatest h
  constructor
  · rintro ⟨item, hitem, rfl, -, hitemResolved⟩ other hlt hother
    have hltFound : item.1 < found.1 := lt_of_lt_of_le hlt (hgreatest other hother)
    obtain ⟨-, resolved, hok⟩ := mem_siteServices.mp hitem
    have hitemDefinition := definitionOf_eq_some.mpr ⟨resolved, hok, rfl⟩
    have hfoundDefinition := (hresolved.symm.trans hitemResolved).trans hitemDefinition
    have hsame := (siteId_of_definitionOf (ne_empty_of_lt hltFound) hfoundDefinition).symm.trans
      (siteId_of_definitionOf hsite hitemDefinition)
    exact absurd hsame hltFound.ne'
  · intro hnone
    have hle : siteId ≤ found.1 := hgreatest siteId h
    have hnot : ¬siteId < found.1 := fun hlt => hnone found.1 hlt ⟨found, hfound, rfl, hfoundName⟩
    exact ⟨found, hfound, le_antisymm (not_lt.mp hnot) hle, hfoundName, hresolved⟩

/-! ## Links -/

section Links

variable {services : List CompiledService} {requirements : Dict String ServiceRequirement}
  {state : LinkState} {service : CompiledService} {requirement : ServiceRequirement}

/-- Some action with the identifier waits for another. -/
def Waits (actions : List ServiceAction) (identifier dependency : String) : Prop :=
  ∃ action ∈ actions, action.id = identifier ∧ dependency ∈ action.dependsOn

/-- What one iteration over the services does. -/
lemma linkService_cases (services : List CompiledService)
    (requirements : Dict String ServiceRequirement) (state : LinkState)
    (service : CompiledService) :
    compiler.linkService services requirements state service = state ∨
    ∃ requirement first rest, requirements.get? service.definition.id = some requirement ∧
      service.definition.actionIds = first :: rest ∧
      compiler.linkService services requirements state service =
        (let resolved := (compiler.sortedDependencies requirement).map
          (compiler.dependencyActionId services service.definition.id)
        (state.1.modify (state.1.findIdx (·.id = first))
          (extendDependencies (resolved.filterMap Except.toOption)),
          state.2 ++ resolved.filterMap errorOf?)) := by
  unfold linkService
  rcases hrequirement : requirements.get? service.definition.id with _ | requirement
  · exact .inl rfl
  rcases hids : service.definition.actionIds with _ | ⟨first, rest⟩
  · exact .inl rfl
  by_cases hnone : requirement.dependsOn = []
  · exact .inl (if_pos hnone)
  · exact .inr ⟨requirement, first, rest, rfl, rfl, if_neg hnone⟩

lemma map_linkServices {β : Type} (f : ServiceAction → β)
    (hf : ∀ identifiers action, f (extendDependencies identifiers action) = f action) :
    (compiler.linkServices services).1.map f = (services.flatMap CompiledService.actions).map f := by
  refine List.foldlRecOn
    (motive := fun state : LinkState =>
      state.1.map f = (services.flatMap CompiledService.actions).map f)
    services _ rfl fun state hstate service _ => ?_
  rcases linkService_cases services (sourceRequirements services) state service with
    hsame | ⟨requirement, first, rest, -, -, hlinked⟩
  · rw [hsame, hstate]
  rw [hlinked, ← hstate]
  refine List.ext_getElem (by simp) fun i hi hi' => ?_
  simp only [List.getElem_map, List.getElem_modify]
  split
  · exact hf _ _
  · rfl

lemma Waits.linkService {identifier dependency : String}
    (h : Waits state.1 identifier dependency) :
    Waits (compiler.linkService services requirements state service).1 identifier dependency := by
  rcases linkService_cases services requirements state service with
    hsame | ⟨requirement, first, rest, -, -, hlinked⟩
  · rwa [hsame]
  obtain ⟨action, haction, hid, hdepends⟩ := h
  obtain ⟨i, hi⟩ := List.mem_iff_getElem?.mp haction
  rw [hlinked]
  refine ⟨_, List.mem_iff_getElem?.mpr ⟨i, by rw [List.getElem?_modify, hi]; rfl⟩, ?_⟩
  split
  · exact ⟨hid, by simp [extendDependencies, hdepends]⟩
  · exact ⟨hid, hdepends⟩

lemma map_id_linkService :
    (compiler.linkService services requirements state service).1.map ServiceAction.id =
      state.1.map ServiceAction.id := by
  rcases linkService_cases services requirements state service with
    hsame | ⟨requirement, first, rest, -, -, hlinked⟩
  · rw [hsame]
  · rw [hlinked]
    refine List.ext_getElem (by simp) fun i hi hi' => ?_
    simp only [List.getElem_map, List.getElem_modify]
    split <;> rfl

variable {issue : ConfigurationIssue}

lemma mem_issues_linkService (h : issue ∈ state.2) :
    issue ∈ (compiler.linkService services requirements state service).2 := by
  rcases linkService_cases services requirements state service with
    hsame | ⟨requirement, first, rest, -, -, hlinked⟩
  · rwa [hsame]
  · rw [hlinked]
    exact List.mem_append_left _ h

/-- The iteration of a service reports a dependency, or its first action waits for the last action
of the service that the dependency names. -/
lemma waits_or_mem_issues {name first : String}
    (hrequirement : requirements.get? service.definition.id = some requirement)
    (hfirst : service.definition.actionIds.head? = some first)
    (hpresent : first ∈ state.1.map ServiceAction.id) (hname : name ∈ requirement.dependsOn) :
    (∃ identifier,
      compiler.dependencyActionId services service.definition.id name = .ok identifier ∧
      Waits (compiler.linkService services requirements state service).1 first identifier) ∨
    ∃ issue, compiler.dependencyActionId services service.definition.id name = .error issue ∧
      issue ∈ (compiler.linkService services requirements state service).2 := by
  obtain ⟨rest, hids⟩ : ∃ rest, service.definition.actionIds = first :: rest :=
    ⟨_, List.eq_cons_of_mem_head? hfirst⟩
  have hlisted : name ∈ compiler.sortedDependencies requirement :=
    mem_sortedBy.mpr (List.mem_dedup.mpr hname)
  have hnone : requirement.dependsOn ≠ [] := List.ne_nil_of_mem hname
  unfold linkService
  simp only [hrequirement, hids, if_neg hnone]
  rcases hresolved : compiler.dependencyActionId services service.definition.id name
      with issue | identifier
  · refine .inr ⟨issue, rfl, List.mem_append_right _ (List.mem_filterMap.mpr ?_)⟩
    exact ⟨_, List.mem_map_of_mem hlisted, by rw [hresolved]; rfl⟩
  refine .inl ⟨identifier, rfl, ?_⟩
  have hlt : state.1.findIdx (·.id = first) < state.1.length := by
    obtain ⟨action, haction, hid⟩ := List.mem_map.mp hpresent
    exact List.findIdx_lt_length_of_exists ⟨action, haction, by simpa using hid⟩
  refine ⟨_, List.mem_iff_getElem.mpr ⟨state.1.findIdx (·.id = first),
    by rwa [List.length_modify], rfl⟩, ?_⟩
  simp only [List.getElem_modify, if_true]
  have hid := List.findIdx_getElem (w := hlt)
  refine ⟨of_decide_eq_true hid, ?_⟩
  refine mem_sortedBy.mpr (List.mem_dedup.mpr (List.mem_append_right _ ?_))
  exact List.mem_filterMap.mpr ⟨_, List.mem_map_of_mem hlisted, by rw [hresolved]; rfl⟩

lemma severity_of_dependencyActionId {serviceId name : String}
    (h : compiler.dependencyActionId services serviceId name = .error issue) :
    issue.severity = .error := by
  unfold dependencyActionId at h
  split at h
  · cases h
  · rw [← Except.error.inj h]
    rfl

/-- When linking reports no error, every first action waits for the last actions of the services
that its dependencies name. -/
lemma waits_linkServices {name first : String} (hservice : service ∈ services)
    (hrequirement : (sourceRequirements services).get? service.definition.id = some requirement)
    (hfirst : service.definition.actionIds.head? = some first)
    (hpresent : first ∈ (services.flatMap CompiledService.actions).map ServiceAction.id)
    (hname : name ∈ requirement.dependsOn)
    (hclean : ∀ issue ∈ (compiler.linkServices services).2, issue.severity ≠ .error) :
    ∃ identifier,
      compiler.dependencyActionId services service.definition.id name = .ok identifier ∧
      Waits (compiler.linkServices services).1 first identifier := by
  let linked : LinkState → Prop := fun state =>
    (∃ identifier,
      compiler.dependencyActionId services service.definition.id name = .ok identifier ∧
      Waits state.1 first identifier) ∨
    ∃ issue, compiler.dependencyActionId services service.definition.id name = .error issue ∧
      issue ∈ state.2
  have hachieved : linked (compiler.linkServices services) := @foldl_achieves _ _ _ _
    (compiler.linkService services (sourceRequirements services))
    (fun state => first ∈ state.1.map ServiceAction.id) linked
    (services.flatMap CompiledService.actions, []) hpresent
    (fun state other _ h => by rwa [map_id_linkService])
    (fun state h => waits_or_mem_issues hrequirement hfirst h hname)
    (fun state other _ h => h.imp (fun ⟨identifier, hok, hwaits⟩ => ⟨identifier, hok,
      hwaits.linkService⟩) fun ⟨issue, herror, hmem⟩ => ⟨issue, herror, mem_issues_linkService hmem⟩)
    hservice
  refine hachieved.resolve_right ?_
  rintro ⟨issue, herror, hmem⟩
  exact hclean issue hmem (severity_of_dependencyActionId herror)

end Links

/-! ## Compilation -/

section Compile

variable {plan : ServicePlan}

/-- What a plan was compiled from. -/
structure CompiledFrom (compiler : ServiceCompiler) (request : ServiceRequest)
    (actions : List ServiceAction) (plan : ServicePlan) : Prop where
  orders : orderDependencyActions (compiler.linkServices (compiler.services request)).1 =
    .ok actions
  clean : ∀ issue ∈ compiler.issuesOf request, issue.severity ≠ .error
  plan_eq : plan = compiler.servicePlan request actions

lemma compiledFrom_of_plan (h : (compiler.compile request).plan = some plan) :
    ∃ actions, CompiledFrom compiler request actions plan := by
  unfold compile at h
  split at h
  · cases h
  rename_i actions horders
  simp only at h
  split at h
  · cases h
  · rename_i hclean
    refine ⟨actions, horders, fun issue hissue herror => ?_, (Option.some.inj h).symm⟩
    exact hclean (List.any_eq_true.mpr ⟨issue, hissue, decide_eq_true herror⟩)

lemma actionsOf_ne_nil {devices : Dict String Plans.DevicePlan} {serviceId : String}
    {requirement : ServiceRequirement} {serviceType : ServiceType} {host : Plans.DevicePlan} :
    (compiler.actionsOf devices serviceId requirement serviceType host).1 ≠ [] := by
  cases serviceType with
  | dns => exact List.cons_ne_nil _ _
  | http =>
    simp only [actionsOf, httpActions]
    split
    · exact List.cons_ne_nil _ _
    · exact List.cons_ne_nil _ _
  | https | ntp | tftp => exact List.cons_ne_nil _ _

variable {service : CompiledService}

lemma mem_services :
    service ∈ compiler.services request ↔ ∃ item ∈ compiler.requirements request.enterprise,
      ∃ resolved, compiler.resolveService (sourcesOf request) item.1 item.2 = .ok resolved ∧
        compiler.compiledService (sourcesOf request) item.1 item.2 resolved = service := by
  rw [services, outputs, List.filterMap_map, List.mem_filterMap]
  refine exists_congr fun item => and_congr_right fun _ => ?_
  rw [Function.comp_apply, service_compileService]
  cases compiler.resolveService (sourcesOf request) item.1 item.2 with
  | error e | ok resolved => simp [Except.toOption]

lemma actionIds_of_mem_services (h : service ∈ compiler.services request) :
    service.definition.actionIds = service.actions.map ServiceAction.id ∧
      service.actions ≠ [] := by
  obtain ⟨item, -, resolved, -, rfl⟩ := mem_services.mp h
  exact ⟨rfl, actionsOf_ne_nil⟩

/-- In a plan the first action of a service waits for the last action of every service that its
dependencies name. -/
lemma CompiledFrom.waits {actions : List ServiceAction}
    (h : CompiledFrom compiler request actions plan) {service : CompiledService}
    (hservice : service ∈ compiler.services request) {requirement : ServiceRequirement}
    (hrequirement : (sourceRequirements (compiler.services request)).get? service.definition.id =
      some requirement) {name : String} (hname : name ∈ requirement.dependsOn) :
    ∃ target, compiler.dependency? (compiler.services request) name = some target ∧
      ∃ first last, service.definition.actionIds.head? = some first ∧
        target.actionIds.getLast? = some last ∧ Waits plan.actions first last := by
  obtain ⟨hids, hactions⟩ := actionIds_of_mem_services hservice
  obtain ⟨action, rest, hcons⟩ := List.exists_cons_of_ne_nil hactions
  have hfirst : service.definition.actionIds.head? = some action.id := by rw [hids, hcons]; rfl
  have hpresent : action.id ∈
      ((compiler.services request).flatMap CompiledService.actions).map ServiceAction.id := by
    refine List.mem_map_of_mem (List.mem_flatMap.mpr ⟨service, hservice, ?_⟩)
    rw [hcons]
    exact List.mem_cons_self
  obtain ⟨identifier, hok, linked, hlinked, hid, hdepends⟩ :=
    waits_linkServices hservice hrequirement hfirst hpresent hname fun issue hissue =>
      h.clean issue (List.mem_append_right _ hissue)
  obtain ⟨target, htarget, hlast⟩ : ∃ target,
      compiler.dependency? (compiler.services request) name = some target ∧
        target.actionIds.getLast? = some identifier := by
    unfold dependencyActionId at hok
    split at hok
    · rename_i found hfound
      rw [← Except.ok.inj hok]
      exact Option.bind_eq_some_iff.mp hfound
    · cases hok
  refine ⟨target, htarget, action.id, identifier, hfirst, hlast, ?_⟩
  rw [h.plan_eq]
  have hordered : linked ∈ actions := (spec_orderDependencyActions h.orders).1.mem_iff.mpr hlinked
  exact ⟨_, List.mem_map_of_mem hordered, hid, hdepends⟩

/-- **Names across sites.**  In every plan the first action of a service waits for the services
that its dependencies name.  A name that a service of a site declares, and that a service of the
same site has, is resolved inside the site for every site and name exactly when no service of a
greater site has such a name. -/
theorem dependency?_correct (compiler : ServiceCompiler) (request : ServiceRequest) :
    ((∀ siteId name, siteId ≠ "" → compiler.SiteDeclares request siteId name →
        compiler.SiteHas request siteId name → compiler.ResolvedInSite request siteId name) ↔
      ∀ siteId name, siteId ≠ "" → compiler.SiteDeclares request siteId name →
        compiler.SiteHas request siteId name →
          ∀ other, siteId < other → ¬compiler.SiteHas request other name) ∧
    ∀ plan, (compiler.compile request).plan = some plan →
      ∀ service ∈ compiler.services request, ∀ requirement,
        (sourceRequirements (compiler.services request)).get? service.definition.id =
          some requirement →
        ∀ name ∈ requirement.dependsOn, ∃ target,
          compiler.dependency? (compiler.services request) name = some target ∧
          ∃ first last, service.definition.actionIds.head? = some first ∧
            target.actionIds.getLast? = some last ∧ Waits plan.actions first last := by
  constructor
  · refine forall₂_congr fun siteId name => forall_congr' fun hsite =>
      forall_congr' fun _ => forall_congr' fun hhas => ?_
    exact resolvedInSite_iff hsite hhas
  · intro plan hplan service hservice requirement hrequirement name hname
    obtain ⟨actions, hcompiled⟩ := compiledFrom_of_plan hplan
    exact hcompiled.waits hservice hrequirement hname

end Compile

/-! ## Two sites that use the same names -/

/-- A compiler whose digests are checksums, for sources in lower case. -/
def checksumming : ServiceCompiler where
  sha256 text :=
    toString (text.toList.foldl (fun sum c => (131 * sum + c.toNat) % 10 ^ 15) (10 ^ 15))
  casefold text := text
  recordsJson _ := ""
  semanticHash _ := "plan"

/-- A server of a site. -/
def server (siteId : String) : Plans.DevicePlan :=
  { id := "server-" ++ siteId
    name := "SRV-" ++ siteId
    model := "Server-PT"
    category := "server"
    enterpriseRole := "server"
    siteId := siteId }

/-- The address of the server of a site. -/
def serverAddress (siteId ipv4 : String) : ConfigurationAction :=
  { id := "address-" ++ siteId
    phase := .endpointAddressing
    deviceId := "server-" ++ siteId
    deviceName := "SRV-" ++ siteId
    siteId := siteId
    detail := .setEndpointStaticAddress "FastEthernet0" ipv4 "255.255.255.0" "10.0.0.1" none
      ("lan-" ++ siteId) }

/-- A site with a name server, and with a web server that depends on it by name. -/
def namedSite (siteId : String) : SitePlan :=
  { siteId := siteId
    services :=
      [{ name := "dns", serviceType := some .dns, hostDeviceId := "server-" ++ siteId },
        { name := "web"
          serviceType := some .http
          hostDeviceId := "server-" ++ siteId
          dependsOn := ["dns"] }] }

/-- Two sites that use the same names. -/
def twoSites : ServiceRequest where
  enterprise := { sites := [namedSite "A", namedSite "B"] }
  topology := { id := "campus", semanticHash := "topology", devices := [server "A", server "B"] }
  configuration :=
    { id := "configuration"
      sourceTopologyHash := "topology"
      semanticHash := "configuration"
      actions := [serverAddress "A" "10.0.0.10", serverAddress "B" "10.0.1.10"] }

/-- The web server of the site A declares the dependency `dns`, and the site has a service of that
name; but in the plan both web servers wait for the name server of the site B. -/
theorem not_resolvedInSite_twoSites :
    ¬(∀ siteId name, siteId ≠ "" → checksumming.SiteDeclares twoSites siteId name →
        checksumming.SiteHas twoSites siteId name →
        checksumming.ResolvedInSite twoSites siteId name) ∧
      ((checksumming.compile twoSites).plan.map fun plan =>
          plan.actions.map fun action => (action.serviceId, action.id, action.dependsOn)) =
        some [("service/A/dns", "svc/enable-dns/966309311906696", []),
          ("service/B/dns", "svc/enable-dns/966309606406617", []),
          ("service/A/web", "svc/enable-http/287132026163242", ["svc/enable-dns/966309606406617"]),
          ("service/B/web", "svc/enable-http/287132320663163", ["svc/enable-dns/966309606406617"]),
          ("service/A/web", "svc/http-content/552574602122556",
            ["svc/enable-http/287132026163242"]),
          ("service/B/web", "svc/http-content/916523162744067",
            ["svc/enable-http/287132320663163"])] := by
  constructor
  · intro h
    have hdeclares : checksumming.SiteDeclares twoSites "A" "dns" := by decide
    have hhas : checksumming.SiteHas twoSites "A" "dns" := by decide
    have hnot : ¬checksumming.ResolvedInSite twoSites "A" "dns" := by decide
    exact hnot (h "A" "dns" (by decide) hdeclares hhas)
  · decide +kernel

end ServiceCompiler

/-- What the identifier of an expectation is computed from. -/
structure Subject where
  kind : String
  parts : List String
  deriving DecidableEq

namespace ServiceCompiler

variable (compiler : ServiceCompiler)

/-- The identifier of the expectation about a subject. -/
def subjectId (subject : Subject) : String := compiler.stableId subject.kind subject.parts

/-! ## The subjects of a compiled service -/

/-- The subjects about what one client sees of a service. -/
def clientSubjects (service : VerifiedService) (clientId : String) : List Subject :=
  let serviceId := service.definition.id
  match service.definition.serviceType with
  | .dns =>
    ((service.actions.filterMap dnsRecordOf?).map fun (_, hostname, _) =>
      ⟨"verify-dns", [serviceId, clientId, hostname]⟩) ++
    [⟨"verify-dns-negative", [serviceId, clientId]⟩]
  | .http | .https => [⟨"verify-http-ip", [serviceId, clientId]⟩]
  | .ntp => [⟨"verify-ntp", [serviceId, clientId]⟩]
  | .tftp =>
    (service.actions.filterMap tftpFileOf?).map fun (_, filename, _) =>
      ⟨"verify-tftp", [serviceId, clientId, filename]⟩

/-- The subjects about one service. -/
def serviceSubjects (devices : Dict String Plans.DevicePlan) (service : VerifiedService) :
    List Subject :=
  ⟨"verify-direct", [service.definition.id]⟩ ::
    (verifiedClients devices service).flatMap fun client => clientSubjects service client.1

/-- The composed subjects of one service. -/
def composedSubjects (devices : Dict String Plans.DevicePlan)
    (resolutions fetches : Dict (String × String) String) (service : VerifiedService) :
    List Subject :=
  let hostname := compiler.casefold service.requirement.hostname
  if service.definition.serviceType ≠ .http ∨ service.requirement.hostname = "" ∨
      !isHostname hostname then []
  else
    ((clientsOf devices service).filter fun client =>
      resolutions.contains (client.1, hostname) &&
        fetches.contains (service.definition.id, client.1)).map fun client =>
      ⟨"verify-http-name", [service.definition.id, client.1, hostname]⟩

variable {compiler} {devices : Dict String Plans.DevicePlan} {service : VerifiedService}

lemma map_id_clientExpectations (client : String × Plans.DevicePlan) :
    (compiler.clientExpectations service client).map ServiceVerificationExpectation.id =
      (clientSubjects service client.1).map compiler.subjectId := by
  unfold clientExpectations clientSubjects
  cases service.definition.serviceType with
  | dns => simp [clientExpectation, dnsResolutionId, subjectId]
  | http | https => simp [clientExpectation, httpFetchId, subjectId]
  | ntp | tftp => simp [clientExpectation, subjectId]

lemma map_id_serviceExpectations :
    (compiler.serviceExpectations devices service).map ServiceVerificationExpectation.id =
      (serviceSubjects devices service).map compiler.subjectId := by
  rw [serviceExpectations, serviceSubjects, List.map_cons, List.map_cons, List.map_flatMap,
    List.map_flatMap]
  refine congrArg₂ _ rfl (List.flatMap_congr fun client _ => ?_)
  exact map_id_clientExpectations client

/-- The identifiers of the composed expectations of a service are those of the subjects. -/
lemma map_id_composedExpectations {resolutions fetches : Dict (String × String) String} :
    (compiler.composedExpectations devices resolutions fetches service).map
        ServiceVerificationExpectation.id =
      (compiler.composedSubjects devices resolutions fetches service).map compiler.subjectId := by
  simp only [composedExpectations, composedSubjects]
  split
  · rfl
  rw [List.map_filterMap, List.map_map, ← List.filterMap_eq_map, List.filterMap_filter]
  refine List.filterMap_congr fun client _ => ?_
  set hostname := compiler.casefold service.requirement.hostname
  obtain hdns | ⟨dnsId, hdns⟩ := Option.eq_none_or_eq_some
    (resolutions.get? (client.1, hostname))
  · simp [Dict.contains, hdns]
  obtain hfetch | ⟨fetchId, hfetch⟩ := Option.eq_none_or_eq_some
    (fetches.get? (service.definition.id, client.1))
  · simp [Dict.contains, hdns, hfetch]
  · simp [Dict.contains, hdns, hfetch, composedExpectation, clientExpectation, subjectId]

/-! ## Records and files -/

section Scans

variable {serviceId : String}

/-- What the loop over records keeps: the issues are errors, every host name has one address, and
without issues the host names are those of the records. -/
structure RecordScan.Reads (compiler : ServiceCompiler) (scan : RecordScan)
    (records : List DnsRecordRequirement) : Prop where
  errors : ∀ issue ∈ scan.issues, issue.severity = .error
  mapped : ∀ key ∈ scan.records.keys, scan.targets.get? key.1 = some key.2
  hostnames : scan.issues = [] → ∀ hostname, hostname ∈ scan.records.keys.map Prod.fst ↔
    hostname ∈ records.map fun record => compiler.casefold record.hostname

/-- One record is written under an address that its host name does not contradict, or it is
reported. -/
lemma scanRecord_cases (compiler : ServiceCompiler) (devices : Dict String Plans.DevicePlan)
    (serviceId : String) (scan : RecordScan) (record : DnsRecordRequirement) :
    ∃ issues : List ConfigurationIssue, (∀ issue ∈ issues, issue.severity = .error) ∧
      ((issues ≠ [] ∧ compiler.scanRecord devices serviceId scan record =
        { scan with issues := scan.issues ++ issues }) ∨
      ∃ address, (∀ prior, scan.targets.get? (compiler.casefold record.hostname) = some prior →
          prior = address) ∧
        compiler.scanRecord devices serviceId scan record =
          { records := scan.records.set (compiler.casefold record.hostname, address) record
            targets := scan.targets.set (compiler.casefold record.hostname) address
            issues := scan.issues ++ issues }) := by
  set unknownTarget : List ConfigurationIssue :=
    if record.targetDeviceId ≠ "" ∧ !devices.contains record.targetDeviceId then
      [securityError .serviceHostMissing
        s!"DNS target device {quoted record.targetDeviceId} does not exist in E4." serviceId]
    else [] with hunknownTarget
  have herrors : ∀ issue ∈ unknownTarget, issue.severity = .error := by
    intro issue hissue
    rw [hunknownTarget] at hissue
    split at hissue
    · rw [List.mem_singleton.mp hissue]
      rfl
    · cases hissue
  have hreported : ∀ last : ConfigurationIssue, last.severity = .error →
      (∀ issue ∈ unknownTarget ++ [last], issue.severity = .error) ∧
        unknownTarget ++ [last] ≠ [] := by
    intro last hlast
    refine ⟨fun issue hissue => ?_, by simp⟩
    rcases List.mem_concat_iff.mp hissue with hissue | hissue
    · exact herrors issue hissue
    · rw [hissue, hlast]
  unfold scanRecord
  simp only [← hunknownTarget, List.append_assoc]
  split
  · exact ⟨_, (hreported _ rfl).1, .inl ⟨(hreported _ rfl).2, rfl⟩⟩
  split
  · exact ⟨_, (hreported _ rfl).1, .inl ⟨(hreported _ rfl).2, rfl⟩⟩
  rename_i parsed _
  rcases hprior : scan.targets.get? (compiler.casefold record.hostname) with _ | prior
  · exact ⟨_, herrors, .inr ⟨_, by simp, rfl⟩⟩
  simp only
  split
  · exact ⟨_, (hreported _ rfl).1, .inl ⟨(hreported _ rfl).2, rfl⟩⟩
  · rename_i hsame
    exact ⟨_, herrors, .inr ⟨_, by simpa using hsame, rfl⟩⟩

lemma mem_keys_set {κ ν : Type} [DecidableEq κ] {d : Dict κ ν} {k k' : κ} {v : ν} :
    k' ∈ (d.set k v).keys ↔ k' = k ∨ k' ∈ d.keys :=
  mem_keys_setEntry

/-- One record. -/
lemma RecordScan.Reads.step {scan : RecordScan} {records : List DnsRecordRequirement}
    (h : RecordScan.Reads compiler scan records) (record : DnsRecordRequirement) :
    RecordScan.Reads compiler (compiler.scanRecord devices serviceId scan record)
      (records ++ [record]) := by
  obtain ⟨issues, herrors, ⟨hne, hscan⟩ | ⟨address, hprior, hscan⟩⟩ :=
    scanRecord_cases compiler devices serviceId scan record
  · rw [hscan]
    refine ⟨fun issue hissue => ?_, h.mapped, fun hnil => ?_⟩
    · exact (List.mem_append.mp hissue).elim (h.errors issue) (herrors issue)
    · exact absurd (List.append_eq_nil_iff.mp hnil).2 hne
  · rw [hscan]
    refine ⟨fun issue hissue => ?_, fun key hkey => ?_, fun hnil hostname => ?_⟩
    · exact (List.mem_append.mp hissue).elim (h.errors issue) (herrors issue)
    · rw [Dict.get?_set]
      rcases mem_keys_set.mp hkey with rfl | hkey
      · exact if_pos rfl
      split
      · rename_i hsame
        have hmapped := h.mapped key hkey
        rw [hprior key.2 (hsame ▸ hmapped)]
      · exact h.mapped key hkey
    · rw [List.map_append, List.mem_append, ← h.hostnames (List.append_eq_nil_iff.mp hnil).1]
      simp only [List.mem_map, mem_keys_set, List.map_cons, List.map_nil, List.mem_singleton]
      constructor
      · rintro ⟨key, rfl | hkey, rfl⟩
        · exact .inr rfl
        · exact .inl ⟨key, hkey, rfl⟩
      · rintro (⟨key, hkey, rfl⟩ | rfl)
        · exact ⟨key, .inr hkey, rfl⟩
        · exact ⟨_, .inl rfl, rfl⟩

lemma reads_scanRecords (requirement : ServiceRequirement) :
    RecordScan.Reads compiler (compiler.scanRecords devices serviceId requirement)
      (compiler.sortedRecords requirement) := by
  have hrun : ∀ (records processed : List DnsRecordRequirement) (scan : RecordScan),
      RecordScan.Reads compiler scan processed →
      RecordScan.Reads compiler (records.foldl (compiler.scanRecord devices serviceId) scan)
        (processed ++ records) := by
    intro records
    induction records with
    | nil => exact fun processed scan h => by rwa [List.append_nil]
    | cons record records ih =>
      intro processed scan h
      rw [List.foldl_cons, List.append_cons]
      exact ih _ _ (h.step record)
  refine hrun _ [] {} ⟨by simp, ?_, ?_⟩
  · exact fun key hkey => absurd hkey (by simp [Dict.keys, Dict.empty])
  · exact fun _ hostname => by simp [Dict.keys, Dict.empty]

/-- The host names of the records that actions add. -/
def hostnamesOf (actions : List ServiceAction) : List String :=
  (actions.filterMap dnsRecordOf?).map fun record => record.2.1

lemma hostnamesOf_dnsActions (requirement : ServiceRequirement) (host : Plans.DevicePlan) :
    hostnamesOf (compiler.dnsActions devices serviceId requirement host).1 =
      (sortedBy (fun key => toLex key)
        (compiler.scanRecords devices serviceId requirement).records.keys).map Prod.fst := by
  simp only [hostnamesOf, dnsActions]
  rw [List.filterMap_cons_none rfl, List.filterMap_map, List.map_filterMap, ← List.filterMap_eq_map]
  exact List.filterMap_congr fun key _ => rfl

lemma nodup_hostnamesOf_dnsActions (requirement : ServiceRequirement) (host : Plans.DevicePlan) :
    (hostnamesOf (compiler.dnsActions devices serviceId requirement host).1).Nodup := by
  have hmapped := (@reads_scanRecords compiler devices serviceId requirement).mapped
  set records := (compiler.scanRecords devices serviceId requirement).records
  rw [hostnamesOf_dnsActions]
  have hkeys : (sortedBy (fun key => toLex key) records.keys).Nodup :=
    (perm_sortedBy _ _).nodup_iff.mpr records.keysNodup
  refine hkeys.map_on fun key hkey key' hkey' hsame => Prod.ext hsame ?_
  have hread := hmapped key (mem_sortedBy.mp hkey)
  have hread' := hmapped key' (mem_sortedBy.mp hkey')
  rw [hsame, hread'] at hread
  exact (Option.some.inj hread).symm

lemma mem_hostnamesOf_dnsActions {requirement : ServiceRequirement} {host : Plans.DevicePlan}
    (hclean : ∀ issue ∈ (compiler.dnsActions devices serviceId requirement host).2,
      issue.severity ≠ .error) {hostname : String} :
    hostname ∈ hostnamesOf (compiler.dnsActions devices serviceId requirement host).1 ↔
      ∃ record ∈ requirement.dnsRecords, compiler.casefold record.hostname = hostname := by
  have hreads := @reads_scanRecords compiler devices serviceId requirement
  have hnone : (compiler.scanRecords devices serviceId requirement).issues = [] := by
    refine List.eq_nil_iff_forall_not_mem.mpr fun issue hissue => ?_
    exact hclean issue hissue (hreads.errors issue hissue)
  rw [hostnamesOf_dnsActions, ((perm_sortedBy _ _).map _).mem_iff, hreads.hostnames hnone]
  simp [sortedRecords]

/-- What the loop over files keeps: the issues are errors, and without issues the files are those
of the requirement. -/
structure FileScan.Reads (compiler : ServiceCompiler) (scan : FileScan)
    (items : List TftpFileRequirement) : Prop where
  errors : ∀ issue ∈ scan.issues, issue.severity = .error
  files : scan.issues = [] → ∀ key, key ∈ scan.files.keys ↔
    key ∈ items.map fun item => (item.filename, compiler.sha256 item.content)

lemma FileScan.Reads.step {scan : FileScan} {items : List TftpFileRequirement}
    (h : FileScan.Reads compiler scan items) (item : TftpFileRequirement) :
    FileScan.Reads compiler (compiler.scanFile serviceId scan item) (items ++ [item]) := by
  unfold scanFile
  split
  · refine ⟨fun issue hissue => ?_, fun hnil => absurd hnil (by simp)⟩
    rcases List.mem_concat_iff.mp hissue with hissue | hissue
    · exact h.errors issue hissue
    · rw [hissue]
      rfl
  · refine ⟨h.errors, fun hnil key => ?_⟩
    rw [mem_keys_set, h.files hnil, List.map_append, List.mem_append, List.map_singleton,
      List.mem_singleton, or_comm]

lemma reads_scanFiles (requirement : ServiceRequirement) :
    FileScan.Reads compiler (compiler.scanFiles serviceId requirement)
      (sortedBy (fun item : TftpFileRequirement => toLex (item.filename, item.content))
        requirement.tftpFiles) := by
  have hrun : ∀ (items processed : List TftpFileRequirement) (scan : FileScan),
      FileScan.Reads compiler scan processed →
      FileScan.Reads compiler (items.foldl (compiler.scanFile serviceId) scan)
        (processed ++ items) := by
    intro items
    induction items with
    | nil => exact fun processed scan h => by rwa [List.append_nil]
    | cons item items ih =>
      intro processed scan h
      rw [List.foldl_cons, List.append_cons]
      exact ih _ _ (h.step item)
  exact hrun _ [] {} ⟨by simp, fun _ key => by simp [Dict.keys, Dict.empty]⟩

/-- The names of the files that actions publish. -/
def filenamesOf (actions : List ServiceAction) : List String :=
  (actions.filterMap tftpFileOf?).map fun file => file.2.1

lemma perm_filenamesOf_tftpActions (requirement : ServiceRequirement) (host : Plans.DevicePlan) :
    (filenamesOf (compiler.tftpActions serviceId requirement host).1).Perm
      ((compiler.scanFiles serviceId requirement).files.keys.map Prod.fst) := by
  have hnames : filenamesOf (compiler.tftpActions serviceId requirement host).1 =
      (sortedBy (fun entry => toLex entry.1)
        (compiler.scanFiles serviceId requirement).files.entries).map fun entry => entry.1.1 := by
    simp only [filenamesOf, tftpActions]
    rw [List.filterMap_cons_none rfl, List.filterMap_map, List.map_filterMap,
      ← List.filterMap_eq_map]
    exact List.filterMap_congr fun entry _ => rfl
  rw [hnames, Dict.keys, List.map_map]
  exact (perm_sortedBy _ _).map _

/-- The names of the published files are distinct exactly when no name has two contents with
different digests. -/
lemma nodup_filenamesOf_tftpActions {requirement : ServiceRequirement} {host : Plans.DevicePlan}
    (hclean : ∀ issue ∈ (compiler.tftpActions serviceId requirement host).2,
      issue.severity ≠ .error) :
    (filenamesOf (compiler.tftpActions serviceId requirement host).1).Nodup ↔
      ∀ f ∈ requirement.tftpFiles, ∀ g ∈ requirement.tftpFiles, f.filename = g.filename →
        compiler.sha256 f.content = compiler.sha256 g.content := by
  have hreads := @reads_scanFiles compiler serviceId requirement
  have hnone : (compiler.scanFiles serviceId requirement).issues = [] := by
    refine List.eq_nil_iff_forall_not_mem.mpr fun issue hissue => ?_
    exact hclean issue hissue (hreads.errors issue hissue)
  have hkeys : ∀ f ∈ requirement.tftpFiles, (f.filename, compiler.sha256 f.content) ∈
      (compiler.scanFiles serviceId requirement).files.keys := by
    intro f hf
    exact (hreads.files hnone _).mpr (List.mem_map_of_mem (mem_sortedBy.mpr hf))
  rw [(perm_filenamesOf_tftpActions requirement host).nodup_iff]
  constructor
  · intro hnodup f hf g hg hsame
    have heq := List.inj_on_of_nodup_map hnodup (hkeys f hf) (hkeys g hg) hsame
    exact congrArg Prod.snd heq
  · intro hdigest
    refine (Dict.keysNodup _).map_on fun key hkey key' hkey' hsame => Prod.ext hsame ?_
    obtain ⟨f, hf, rfl⟩ := List.mem_map.mp ((hreads.files hnone key).mp hkey)
    obtain ⟨g, hg, rfl⟩ := List.mem_map.mp ((hreads.files hnone key').mp hkey')
    exact hdigest f (mem_sortedBy.mp hf) g (mem_sortedBy.mp hg) hsame

/-- Without issues every file has its action. -/
lemma mem_filenamesOf_tftpActions {requirement : ServiceRequirement} {host : Plans.DevicePlan}
    (hclean : ∀ issue ∈ (compiler.tftpActions serviceId requirement host).2,
      issue.severity ≠ .error) {filename : String} :
    filename ∈ filenamesOf (compiler.tftpActions serviceId requirement host).1 ↔
      ∃ file ∈ requirement.tftpFiles, file.filename = filename := by
  have hreads := @reads_scanFiles compiler serviceId requirement
  have hnone : (compiler.scanFiles serviceId requirement).issues = [] := by
    refine List.eq_nil_iff_forall_not_mem.mpr fun issue hissue => ?_
    exact hclean issue hissue (hreads.errors issue hissue)
  rw [(perm_filenamesOf_tftpActions requirement host).mem_iff]
  constructor
  · intro h
    obtain ⟨key, hkey, rfl⟩ := List.mem_map.mp h
    obtain ⟨file, hfile, rfl⟩ := List.mem_map.mp ((hreads.files hnone key).mp hkey)
    exact ⟨file, mem_sortedBy.mp hfile, rfl⟩
  · rintro ⟨file, hfile, rfl⟩
    have hkey := (hreads.files hnone (file.filename, compiler.sha256 file.content)).mpr
      (List.mem_map_of_mem (mem_sortedBy.mpr hfile))
    exact List.mem_map_of_mem hkey

end Scans

end ServiceCompiler

end Services
end PacketTracer
