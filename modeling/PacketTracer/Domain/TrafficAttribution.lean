import PacketTracer.Domain.IpamPlanner
import PacketTracer.Domain.TopologyPlan
import PacketTracer.Library.Fallible
import PacketTracer.Library.PathEnumeration

/-!
# Attribution of traffic flows to WAN links

`traffic_attribution.py`: every traffic flow of an enterprise plan is mapped to one path of WAN
links, and each link collects the contributions of the flows that cross it.

The sites and the WAN links form a multigraph.  A flow with an explicit path takes it when it is a
walk between its sites; another flow takes the shortest path when there is only one.  What a link
collects is then read off the attributed flows.
-/

namespace PacketTracer

open Dicts PyText PathEnumerations

namespace TrafficAttribution

/-! ## The multigraph -/

/-- `ConcreteLinkRole.WAN_LINK`. -/
def wanLink : String := "wan_link"

/-- `devices`. -/
def devicesByKey (topology : Plans.TopologyPlan) : Dict String Plans.DevicePlan :=
  Dict.ofList (topology.devices.map fun item => (item.semanticId, item))

/-- `wan_links`. -/
def wanLinks (topology : Plans.TopologyPlan) : Dict String Plans.LinkPlan :=
  Dict.ofList ((topology.links.filter fun item => item.id ≠ "" ∧ item.linkRole = wanLink).map
    fun item => (item.id, item))

/-- The sites of the two devices of a link, when both are known. -/
def siteEnds (topology : Plans.TopologyPlan) (link : Plans.LinkPlan) : Option (String × String) :=
  let devices := devicesByKey topology
  match devices.get? (if link.deviceAId ≠ "" then link.deviceAId else link.deviceA),
      devices.get? (if link.deviceBId ≠ "" then link.deviceBId else link.deviceB) with
  | some a, some b => if a.siteId = "" ∨ b.siteId = "" then none else some (a.siteId, b.siteId)
  | _, _ => none

/-- `adjacency` and `endpoints_by_link`. -/
structure SiteGraph where
  adjacency : Dict String (List (String × String)) := .empty
  endpointsByLink : Dict String (String × String) := .empty

/-- What one WAN link adds. -/
def SiteGraph.addLink (topology : Plans.TopologyPlan) (graph : SiteGraph)
    (entry : String × Plans.LinkPlan) : SiteGraph :=
  match siteEnds topology entry.2 with
  | some (a, b) =>
    { adjacency := appendTo (appendTo graph.adjacency a (b, entry.1)) b (a, entry.1)
      endpointsByLink := graph.endpointsByLink.set entry.1 (a, b) }
  | none => graph

/-- The multigraph of the WAN links, before its values are sorted. -/
def siteGraph (topology : Plans.TopologyPlan) : SiteGraph :=
  (sortedBy Prod.fst (wanLinks topology).entries).foldl (SiteGraph.addLink topology) {}

/-- `adjacency.get(site, [])`, with its values sorted. -/
def neighbours (topology : Plans.TopologyPlan) (site : String) : List (String × String) :=
  sortedBy (fun item => toLex item) (((siteGraph topology).adjacency.get? site).getD [])

/-! ## Paths -/

/-- The site at the other end of a link, when the link is at the site. -/
def otherEnd (topology : Plans.TopologyPlan) (site linkId : String) : Option String :=
  match (siteGraph topology).endpointsByLink.get? linkId with
  | some (a, b) => if a = site then some b else if b = site then some a else none
  | none => none

/-- The loop of `_validate_explicit_path`. -/
def followExplicit (topology : Plans.TopologyPlan) : String → List String → List String →
    List String → Option (String × List String)
  | current, _, path, [] => some (current, path)
  | current, used, path, linkId :: linkIds =>
    match otherEnd topology current linkId with
    | none => none
    | some next =>
      if linkId ∈ used then none
      else followExplicit topology next (linkId :: used) (path ++ [linkId]) linkIds

/-- `_validate_explicit_path`. -/
def validateExplicitPath (topology : Plans.TopologyPlan) (source destination : String)
    (linkIds : List String) : Option (List String) :=
  match followExplicit topology source [] [] linkIds with
  | some (current, path) => if current = destination then some path else none
  | none => none

/-- The sites that a path from a source may visit. -/
def reachableSites (topology : Plans.TopologyPlan) (source : String) : List String :=
  source :: (siteGraph topology).endpointsByLink.values.flatMap fun ends => [ends.1, ends.2]

/-- `_shortest_paths`; without a result the fuel has run out. -/
def shortestPaths (topology : Plans.TopologyPlan) (source destination : String) :
    Option (List (List String)) :=
  (search (neighbours topology) destination (reachableSites topology source) source).map
    (sortedBy id)

/-! ## Attribution -/

/-- `TrafficContribution`. -/
structure TrafficContribution where
  sourceId : String
  perUnitBps : ℤ := 0
  units : ℤ := 1
  concurrency : PyDecimal.PyFloat := .finite ⟨1, 0⟩
  deriving DecidableEq

end TrafficAttribution

/-- `contribution`. -/
def TrafficFlowIntent.contribution (flow : TrafficFlowIntent) :
    TrafficAttribution.TrafficContribution :=
  { sourceId := flow.id, perUnitBps := flow.perUnitBps, units := flow.units,
    concurrency := flow.concurrency }

namespace TrafficAttribution

/-- `TrafficAttributionIssue`. -/
structure TrafficAttributionIssue where
  code : String
  flowId : String
  message : String
  deriving DecidableEq

/-- `TrafficAttributionResult`. -/
structure TrafficAttributionResult where
  contributionsByLink : Dict String (List TrafficContribution) := .empty
  pathsByFlow : Dict String (List String) := .empty
  issues : List TrafficAttributionIssue := []

/-- What could stop an attribution. -/
inductive AttributionError
  /-- A `KeyError` of `contributions_by_link`. -/
  | missingLink (linkId : String)
  /-- The fuel of the search has run out. -/
  | outOfFuel
  deriving DecidableEq

/-- `result.contributions_by_link[link_id].append(contribution)`. -/
def addContribution (contribution : TrafficContribution)
    (contributions : Dict String (List TrafficContribution)) (linkId : String) :
    Except AttributionError (Dict String (List TrafficContribution)) :=
  match contributions.get? linkId with
  | some items => .ok (contributions.set linkId (items ++ [contribution]))
  | none => .error (.missingLink linkId)

/-- The flow's two sites are known and distinct. -/
def hasValidEndpoints (enterprise : EnterprisePlan) (flow : TrafficFlowIntent) : Bool :=
  let knownSites := enterprise.sites.map SitePlan.siteId
  flow.sourceSiteId ∈ knownSites && flow.destinationSiteId ∈ knownSites &&
    flow.sourceSiteId ≠ flow.destinationSiteId

/-- `paths` of one flow. -/
def candidatePaths (topology : Plans.TopologyPlan) (flow : TrafficFlowIntent) :
    Except AttributionError (List (List String)) :=
  if flow.explicitLinkIds ≠ [] then
    .ok (validateExplicitPath topology flow.sourceSiteId flow.destinationSiteId
      flow.explicitLinkIds).toList
  else
    match shortestPaths topology flow.sourceSiteId flow.destinationSiteId with
    | some paths => .ok paths
    | none => .error .outOfFuel

/-- Report an issue of a flow. -/
def TrafficAttributionResult.refuse (result : TrafficAttributionResult)
    (flow : TrafficFlowIntent) (code message : String) : TrafficAttributionResult :=
  { result with
    issues := result.issues ++ [{ code := code, flowId := flow.id, message := message }] }

/-- What a flow with a new identifier does to the result. -/
def attributeFlow (enterprise : EnterprisePlan) (topology : Plans.TopologyPlan)
    (result : TrafficAttributionResult) (flow : TrafficFlowIntent) :
    Except AttributionError TrafficAttributionResult :=
  if ¬hasValidEndpoints enterprise flow then
    .ok (result.refuse flow "FLOW_ENDPOINT_INVALID"
      "Traffic flow endpoints must name two distinct known sites.")
  else do
    let paths ← candidatePaths topology flow
    match paths with
    | [] =>
      return result.refuse flow "FLOW_PATH_UNREACHABLE"
        "No valid WAN path connects the flow endpoints."
    | [path] =>
      let contributions ← path.foldlM (addContribution flow.contribution)
        result.contributionsByLink
      return { result with
        contributionsByLink := contributions
        pathsByFlow := result.pathsByFlow.set flow.id path }
    | _ =>
      return result.refuse flow "FLOW_PATH_AMBIGUOUS"
        ("Multiple equal-cost WAN paths exist; an explicit path is " ++
          "required before capacity can be attributed.")

/-- The loop over the flows. -/
def attributeFlows (enterprise : EnterprisePlan) (topology : Plans.TopologyPlan) :
    List String → TrafficAttributionResult → List TrafficFlowIntent →
      Except AttributionError TrafficAttributionResult
  | _, result, [] => .ok result
  | seenIds, result, flow :: flows =>
    if flow.id = "" ∨ flow.id ∈ seenIds then
      attributeFlows enterprise topology seenIds
        (result.refuse flow "FLOW_ID_INVALID" "Traffic flow IDs must be non-empty and unique.")
        flows
    else do
      let next ← attributeFlow enterprise topology result flow
      attributeFlows enterprise topology (flow.id :: seenIds) next flows

/-- `result` before the first flow. -/
def initialResult (topology : Plans.TopologyPlan) : TrafficAttributionResult where
  contributionsByLink :=
    Dict.ofList ((sortedBy id (wanLinks topology).keys).map fun linkId => (linkId, []))

/-- `attribute_enterprise_traffic`. -/
def attributeEnterpriseTraffic (enterprise : EnterprisePlan) (topology : Plans.TopologyPlan) :
    Except AttributionError TrafficAttributionResult :=
  attributeFlows enterprise topology [] (initialResult topology)
    (sortedBy TrafficFlowIntent.id enterprise.trafficFlows)

/-! ## The links of a site -/

/-- The edges out of a site that one WAN link gives. -/
def leaving (topology : Plans.TopologyPlan) (site : String) (entry : String × Plans.LinkPlan) :
    List (String × String) :=
  match siteEnds topology entry.2 with
  | some (a, b) =>
    (if a = site then [(b, entry.1)] else []) ++ (if b = site then [(a, entry.1)] else [])
  | none => []

lemma getD_adjacency_addLink (topology : Plans.TopologyPlan) (graph : SiteGraph)
    (entry : String × Plans.LinkPlan) (site : String) :
    ((graph.addLink topology entry).adjacency.get? site).getD [] =
      (graph.adjacency.get? site).getD [] ++ leaving topology site entry := by
  unfold SiteGraph.addLink leaving
  cases siteEnds topology entry.2 with
  | none => simp
  | some ends =>
    simp only [appendTo, Dict.get?_set]
    by_cases ha : ends.1 = site <;> by_cases hb : ends.2 = site <;> simp [ha, hb]

lemma get?_endpoints_addLink (topology : Plans.TopologyPlan) (graph : SiteGraph)
    (entry : String × Plans.LinkPlan) (linkId : String) :
    (graph.addLink topology entry).endpointsByLink.get? linkId =
      if entry.1 = linkId then
        (siteEnds topology entry.2).or (graph.endpointsByLink.get? linkId)
      else graph.endpointsByLink.get? linkId := by
  unfold SiteGraph.addLink
  cases siteEnds topology entry.2 with
  | none => simp
  | some ends =>
    simp only [Dict.get?_set]
    by_cases hlink : entry.1 = linkId <;> simp [hlink]

lemma getD_adjacency_siteGraph (topology : Plans.TopologyPlan) (site : String) :
    ((siteGraph topology).adjacency.get? site).getD [] =
      (sortedBy Prod.fst (wanLinks topology).entries).flatMap (leaving topology site) := by
  have hrun : ∀ (entries : List (String × Plans.LinkPlan)) (graph : SiteGraph),
      ((entries.foldl (SiteGraph.addLink topology) graph).adjacency.get? site).getD [] =
        (graph.adjacency.get? site).getD [] ++ entries.flatMap (leaving topology site) := by
    intro entries
    induction entries with
    | nil => simp
    | cons entry entries ih =>
      intro graph
      rw [List.foldl_cons, ih, getD_adjacency_addLink, List.flatMap_cons, List.append_assoc]
  exact hrun _ {}

variable {linkId : String} {topology : Plans.TopologyPlan} {source : String} {path : List String}
  {enterprise : EnterprisePlan} {flow : TrafficFlowIntent}
  {contributions next : Dict String (List TrafficContribution)}

/-- The ends of the links are those of the WAN links. -/
lemma get?_endpoints_siteGraph (topology : Plans.TopologyPlan) {ends : String × String} :
    (siteGraph topology).endpointsByLink.get? linkId = some ends ↔
      ∃ link, (wanLinks topology).get? linkId = some link ∧ siteEnds topology link = some ends := by
  have hrun : ∀ (entries : List (String × Plans.LinkPlan)) (graph : SiteGraph),
      (entries.map Prod.fst).Nodup →
      (∀ entry ∈ entries, graph.endpointsByLink.get? entry.1 = none) →
      ((entries.foldl (SiteGraph.addLink topology) graph).endpointsByLink.get? linkId = some ends ↔
        graph.endpointsByLink.get? linkId = some ends ∨
          ∃ link, (linkId, link) ∈ entries ∧ siteEnds topology link = some ends) := by
    intro entries
    induction entries with
    | nil => simp
    | cons entry entries ih =>
      intro graph hnodup hfresh
      rw [List.map_cons, List.nodup_cons] at hnodup
      have hnew : graph.endpointsByLink.get? entry.1 = none := hfresh entry List.mem_cons_self
      rw [List.foldl_cons, ih _ hnodup.2, get?_endpoints_addLink]
      · by_cases hlink : entry.1 = linkId
        · subst hlink
          rw [if_pos rfl, hnew, Option.or_none]
          constructor
          · rintro (hends | ⟨link, hmem, hends⟩)
            · exact .inr ⟨entry.2, List.mem_cons_self, hends⟩
            · exact .inr ⟨link, List.mem_cons_of_mem _ hmem, hends⟩
          · rintro (hends | ⟨link, hmem, hends⟩)
            · cases hends
            · rcases List.mem_cons.mp hmem with heq | hmem
              · exact .inl (heq ▸ hends)
              · exact .inr ⟨link, hmem, hends⟩
        · rw [if_neg hlink]
          refine or_congr_right ⟨?_, ?_⟩
          · rintro ⟨link, hmem, hends⟩
            exact ⟨link, List.mem_cons_of_mem _ hmem, hends⟩
          · rintro ⟨link, hmem, hends⟩
            rcases List.mem_cons.mp hmem with heq | hmem
            · exact absurd (congrArg Prod.fst heq).symm hlink
            · exact ⟨link, hmem, hends⟩
      · intro other hother
        rw [get?_endpoints_addLink, if_neg]
        · exact hfresh other (List.mem_cons_of_mem _ hother)
        · rintro heq
          exact hnodup.1 (heq ▸ List.mem_map_of_mem hother)
  have hperm := perm_sortedBy Prod.fst (wanLinks topology).entries
  have hnodup : ((sortedBy Prod.fst (wanLinks topology).entries).map Prod.fst).Nodup :=
    ((hperm.map _).nodup_iff).mpr (wanLinks topology).keysNodup
  refine (hrun _ {} hnodup fun _ _ => rfl).trans ?_
  simp only [mem_sortedBy, Dict.get?_eq_some_iff_mem]
  constructor
  · rintro (hends | h)
    · cases hends
    · exact h
  · exact .inr

/-- The edges out of a site lead to the other ends of its links. -/
lemma mem_neighbours_iff (topology : Plans.TopologyPlan) (site next linkId : String) :
    (next, linkId) ∈ neighbours topology site ↔ otherEnd topology site linkId = some next := by
  have hleaving : (next, linkId) ∈ neighbours topology site ↔
      ∃ link, (wanLinks topology).get? linkId = some link ∧
        (next, linkId) ∈ leaving topology site (linkId, link) := by
    rw [neighbours, mem_sortedBy, getD_adjacency_siteGraph, List.mem_flatMap]
    constructor
    · rintro ⟨⟨other, link⟩, hentry, hmem⟩
      have heq : other = linkId := by
        unfold leaving at hmem
        split at hmem
        · split_ifs at hmem <;> simp at hmem <;> grind
        · cases hmem
      subst heq
      exact ⟨link, Dict.get?_eq_some_iff_mem.mpr (mem_sortedBy.mp hentry), hmem⟩
    · rintro ⟨link, hentry, hmem⟩
      exact ⟨(linkId, link), mem_sortedBy.mpr (Dict.get?_eq_some_iff_mem.mp hentry), hmem⟩
  rw [hleaving]
  unfold otherEnd
  constructor
  · rintro ⟨link, hlink, hmem⟩
    unfold leaving at hmem
    rcases hends : siteEnds topology link with _ | ends
    · simp [hends] at hmem
    rw [(get?_endpoints_siteGraph topology).mpr ⟨link, hlink, hends⟩]
    simp only [hends] at hmem
    grind
  · intro hend
    rcases hends : (siteGraph topology).endpointsByLink.get? linkId with _ | ends
    · simp [hends] at hend
    obtain ⟨link, hlink, hsites⟩ := (get?_endpoints_siteGraph topology).mp hends
    refine ⟨link, hlink, ?_⟩
    simp only [hends] at hend
    unfold leaving
    simp only [hsites]
    grind

/-- The edges that one WAN link gives to other sites carry its identifier at most once. -/
lemma map_filter_leaving (topology : Plans.TopologyPlan) (site : String)
    (entry : String × Plans.LinkPlan) (keep : String × String → Bool)
    (hkeep : ∀ edge, keep edge = true → edge.1 ≠ site) :
    (((leaving topology site entry).filter keep).map Prod.snd).Sublist [entry.1] := by
  unfold leaving
  rcases siteEnds topology entry.2 with _ | ends
  · simp
  have hdrop : ∀ linkId, keep (site, linkId) = false := by
    intro linkId
    by_contra hne
    exact hkeep (site, linkId) (by simpa using hne) rfl
  by_cases ha : ends.1 = site <;> by_cases hb : ends.2 = site <;>
    simp only [ha, hb, if_true, if_false, List.append_nil, List.nil_append, List.filter_nil,
      List.map_nil, List.nil_sublist]
  · simp [hdrop]
  · exact ((List.filter_sublist (l := [(ends.2, entry.1)])).map Prod.snd)
  · exact ((List.filter_sublist (l := [(ends.1, entry.1)])).map Prod.snd)

/-- The links that lead from a site to other sites are listed once each. -/
lemma nodup_neighbours (topology : Plans.TopologyPlan) (site : String)
    (keep : String × String → Bool) (hkeep : ∀ edge, keep edge = true → edge.1 ≠ site) :
    (((neighbours topology site).filter keep).map Prod.snd).Nodup := by
  have hperm : (((neighbours topology site).filter keep).map Prod.snd).Perm
      ((((sortedBy Prod.fst (wanLinks topology).entries).flatMap
        (leaving topology site)).filter keep).map Prod.snd) := by
    rw [← getD_adjacency_siteGraph]
    exact ((perm_sortedBy _ _).filter _).map _
  rw [hperm.nodup_iff]
  have hsublist : ∀ entries : List (String × Plans.LinkPlan),
      (((entries.flatMap (leaving topology site)).filter keep).map Prod.snd).Sublist
        (entries.map Prod.fst) := by
    intro entries
    induction entries with
    | nil => exact List.Sublist.refl _
    | cons entry entries ih =>
      rw [List.flatMap_cons, List.filter_append, List.map_append, List.map_cons,
        ← List.singleton_append]
      exact (map_filter_leaving topology site entry keep hkeep).append ih
  refine (hsublist _).nodup ?_
  rw [((perm_sortedBy Prod.fst (wanLinks topology).entries).map Prod.fst).nodup_iff]
  exact (wanLinks topology).keysNodup

variable {site destination last : String} {linkIds seenIds : List String}
  {flows : List TrafficFlowIntent}

lemma mem_reachableSites_of_otherEnd {next : String}
    (h : otherEnd topology site linkId = some next) : next ∈ reachableSites topology source := by
  unfold otherEnd at h
  rcases hends : (siteGraph topology).endpointsByLink.get? linkId with _ | ends
  · simp [hends] at h
  simp only [hends] at h
  refine List.mem_cons_of_mem _ (List.mem_flatMap.mpr
    ⟨ends, Dict.mem_values_iff.mpr ⟨linkId, hends⟩, ?_⟩)
  grind

lemma lists_neighbours (topology : Plans.TopologyPlan) (source : String) :
    Lists (neighbours topology) (otherEnd topology) (reachableSites topology source) where
  mem_iff := mem_neighbours_iff topology
  nodup := nodup_neighbours topology
  closed := fun site _ edge hedge =>
    mem_reachableSites_of_otherEnd ((mem_neighbours_iff topology site edge.1 edge.2).mp hedge)

lemma otherEnd_back {v w x y : String} (hx : otherEnd topology x linkId = some y)
    (hv : otherEnd topology v linkId = some w) : v = x ∨ w = x := by
  unfold otherEnd at hx hv
  cases hends : (siteGraph topology).endpointsByLink.get? linkId with
  | none => simp [hends] at hx
  | some ends =>
    simp only [hends] at hx hv
    grind

/-! ## Which path a flow takes -/

/-- The list of links leads from one site to the other. -/
abbrev IsWalk (topology : Plans.TopologyPlan) (source destination : String)
    (path : List String) : Prop :=
  follow (otherEnd topology) source path = some destination

/-- The path is the only shortest walk between two sites. -/
def IsOnlyShortest (topology : Plans.TopologyPlan) (source destination : String)
    (path : List String) : Prop :=
  IsShortest (otherEnd topology) source destination path ∧
    ∀ other, IsShortest (otherEnd topology) source destination other → other = path

lemma shortestPaths_spec (topology : Plans.TopologyPlan) (hne : source ≠ destination) :
    ∃ paths, shortestPaths topology source destination = some paths ∧ paths.Nodup ∧
      ∀ path, path ∈ paths ↔ IsShortest (otherEnd topology) source destination path := by
  obtain ⟨found, hfound, hnodup, hmem⟩ :=
    search_spec (lists_neighbours topology source) List.mem_cons_self hne
  refine ⟨sortedBy id found, by rw [shortestPaths, hfound]; rfl, ?_, ?_⟩
  · exact (perm_sortedBy id found).nodup_iff.mpr hnodup
  · exact fun path => mem_sortedBy.trans (hmem path)

/-- An explicit path is followed link by link. -/
lemma followExplicit_eq_some {current : String} {used taken : List String} :
    followExplicit topology current used path linkIds = some (last, taken) ↔
      follow (otherEnd topology) current linkIds = some last ∧ taken = path ++ linkIds ∧
        linkIds.Nodup ∧ ∀ linkId ∈ linkIds, linkId ∉ used := by
  induction linkIds generalizing current used path with
  | nil =>
    simp only [followExplicit, follow, Option.some.injEq, Prod.mk.injEq, List.append_nil,
      List.nodup_nil, List.not_mem_nil, false_implies, implies_true, and_true]
    exact and_congr_right fun _ => eq_comm
  | cons linkId linkIds ih =>
    rw [followExplicit, follow]
    rcases hnext : otherEnd topology current linkId with _ | next
    · simp
    by_cases hused : linkId ∈ used
    · simp [hused]
    simp only [if_neg hused, ih, Option.bind_some, List.nodup_cons, List.forall_mem_cons,
      List.append_assoc, List.singleton_append]
    simp only [List.mem_cons, not_or]
    constructor
    · rintro ⟨hfollow, htaken, hnodup, hfresh⟩
      exact ⟨hfollow, htaken, ⟨fun hmem => (hfresh _ hmem).1 rfl, hnodup⟩, hused,
        fun other hother => (hfresh other hother).2⟩
    · rintro ⟨hfollow, htaken, ⟨hnot, hnodup⟩, -, hfresh⟩
      refine ⟨hfollow, htaken, hnodup, fun other hother => ⟨?_, hfresh other hother⟩⟩
      rintro rfl
      exact hnot hother

lemma validateExplicitPath_eq_some :
    validateExplicitPath topology source destination linkIds = some path ↔
      path = linkIds ∧ path.Nodup ∧ IsWalk topology source destination path := by
  unfold validateExplicitPath
  constructor
  · intro h
    split at h
    · next last taken heq =>
      obtain ⟨hfollow, htaken, hnodup, -⟩ := followExplicit_eq_some.mp heq
      split_ifs at h with hlast
      have hpath : path = linkIds := by
        rw [← Option.some.inj h, htaken, List.nil_append]
      subst hpath
      exact ⟨rfl, hnodup, hlast ▸ hfollow⟩
    · cases h
  · rintro ⟨rfl, hnodup, hwalk⟩
    have hfollow : followExplicit topology source [] [] path = some (destination, path) :=
      followExplicit_eq_some.mpr ⟨hwalk, rfl, hnodup, by simp⟩
    simp [hfollow]

/-- The path that a flow takes: its explicit path when that is a walk without repetition, or else
the only shortest one. -/
def Takes (enterprise : EnterprisePlan) (topology : Plans.TopologyPlan)
    (flow : TrafficFlowIntent) (path : List String) : Prop :=
  hasValidEndpoints enterprise flow = true ∧
    if flow.explicitLinkIds = [] then
      IsOnlyShortest topology flow.sourceSiteId flow.destinationSiteId path
    else
      path = flow.explicitLinkIds ∧ path.Nodup ∧
        IsWalk topology flow.sourceSiteId flow.destinationSiteId path

lemma ne_of_hasValidEndpoints (h : hasValidEndpoints enterprise flow = true) :
    flow.sourceSiteId ≠ flow.destinationSiteId := by
  simp only [hasValidEndpoints, Bool.and_eq_true, decide_eq_true_eq] at h
  exact h.2

/-- The candidate paths of a flow with valid endpoints: there is one exactly when the flow takes it.
-/
lemma candidatePaths_spec (topology : Plans.TopologyPlan)
    (h : hasValidEndpoints enterprise flow = true) :
    ∃ paths, candidatePaths topology flow = .ok paths ∧
      ∀ path, paths = [path] ↔ Takes enterprise topology flow path := by
  unfold candidatePaths Takes
  by_cases hexplicit : flow.explicitLinkIds = []
  · obtain ⟨paths, hpaths, hnodup, hmem⟩ :=
      shortestPaths_spec topology (ne_of_hasValidEndpoints h)
    refine ⟨paths, by simp [hexplicit, hpaths], ?_⟩
    intro path
    rw [if_pos hexplicit]
    simp only [h, true_and, IsOnlyShortest, ← hmem]
    constructor
    · rintro rfl
      simp
    · rintro ⟨hpath, honly⟩
      refine List.perm_singleton.mp
        ((List.perm_ext_iff_of_nodup hnodup (List.nodup_singleton path)).mpr fun other => ?_)
      rw [List.mem_singleton]
      exact ⟨honly other, fun heq => heq ▸ hpath⟩
  · refine ⟨_, if_pos hexplicit, ?_⟩
    intro path
    rw [if_neg hexplicit, ← validateExplicitPath_eq_some]
    simp only [h, true_and]
    cases validateExplicitPath topology flow.sourceSiteId flow.destinationSiteId
      flow.explicitLinkIds <;> simp

lemma Takes.unique {other : List String} (h : Takes enterprise topology flow path)
    (hother : Takes enterprise topology flow other) : other = path := by
  have hpath := h.2
  have hpath' := hother.2
  split_ifs at hpath hpath' with hexplicit
  · exact hpath.2 other hpath'.1
  · exact hpath'.1.trans hpath.1.symm

lemma Takes.isWalk (h : Takes enterprise topology flow path) :
    IsWalk topology flow.sourceSiteId flow.destinationSiteId path := by
  have hpath := h.2
  split_ifs at hpath with hexplicit
  · exact hpath.1.walk
  · exact hpath.2.2

lemma Takes.nodup (h : Takes enterprise topology flow path) : path.Nodup := by
  have hpath := h.2
  split_ifs at hpath with hexplicit
  · exact hpath.1.nodup otherEnd_back
  · exact hpath.2.1

lemma mem_wanLinks_of_follow (h : follow (otherEnd topology) site path = some last)
    (hmem : linkId ∈ path) : linkId ∈ (wanLinks topology).keys := by
  induction path generalizing site with
  | nil => cases hmem
  | cons first path ih =>
    obtain ⟨next, hnext, hrest⟩ := Option.bind_eq_some_iff.mp h
    rcases List.mem_cons.mp hmem with rfl | hmem
    · rw [← Dict.isSome_get?_iff_mem_keys]
      unfold otherEnd at hnext
      rcases hends : (siteGraph topology).endpointsByLink.get? linkId with _ | ends
      · simp [hends] at hnext
      obtain ⟨link, hlink, -⟩ := (get?_endpoints_siteGraph topology).mp hends
      rw [hlink]
      rfl
    · exact ih hrest hmem

/-! ## One flow -/

/-- Every WAN link has its list of contributions. -/
def HasAllLinks (topology : Plans.TopologyPlan)
    (contributions : Dict String (List TrafficContribution)) : Prop :=
  ∀ linkId ∈ (wanLinks topology).keys, ∃ items, contributions.get? linkId = some items

/-- The contributions after a flow has taken a path. -/
def AddsAlong (contribution : TrafficContribution) (path : List String)
    (contributions next : Dict String (List TrafficContribution)) : Prop :=
  ∀ linkId, next.get? linkId =
    if linkId ∈ path then (contributions.get? linkId).map (· ++ [contribution])
    else contributions.get? linkId

lemma AddsAlong.hasAllLinks {contribution : TrafficContribution}
    (h : AddsAlong contribution path contributions next)
    (hlinks : HasAllLinks topology contributions) : HasAllLinks topology next := by
  intro linkId hlink
  obtain ⟨items, hitems⟩ := hlinks linkId hlink
  rw [h linkId, hitems]
  split_ifs
  · exact ⟨_, rfl⟩
  · exact ⟨items, rfl⟩

/-- Adding along a path without repetition adds once at each of its links. -/
lemma foldlM_addContribution (contribution : TrafficContribution) (hnodup : path.Nodup)
    (hlinks : ∀ linkId ∈ path, ∃ items, contributions.get? linkId = some items) :
    ∃ next, path.foldlM (addContribution contribution) contributions = .ok next ∧
      AddsAlong contribution path contributions next := by
  induction path generalizing contributions with
  | nil => exact ⟨contributions, rfl, fun linkId => by simp⟩
  | cons first path ih =>
    obtain ⟨hnot, hrest⟩ := List.nodup_cons.mp hnodup
    obtain ⟨items, hitems⟩ := hlinks first List.mem_cons_self
    have hadd : addContribution contribution contributions first =
        .ok (contributions.set first (items ++ [contribution])) := by
      simp [addContribution, hitems]
    have hlater : ∀ linkId ∈ path, ∃ others,
        (contributions.set first (items ++ [contribution])).get? linkId = some others := by
      intro linkId hlink
      have hne : first ≠ linkId := by
        rintro rfl
        exact hnot hlink
      rw [Dict.get?_set, if_neg hne]
      exact hlinks linkId (List.mem_cons_of_mem _ hlink)
    obtain ⟨next, hnext, hadds⟩ := ih hrest hlater
    refine ⟨next, ?_, ?_⟩
    · rw [List.foldlM_cons, hadd]
      exact hnext
    · intro linkId
      rw [hadds linkId, Dict.get?_set]
      by_cases hfirst : first = linkId
      · subst hfirst
        simp [hnot, hitems]
      · simp [hfirst, Ne.symm hfirst]

/-- What one flow does: it takes its path and contributes to each of its links, or nothing. -/
lemma attributeFlow_spec (enterprise : EnterprisePlan) (topology : Plans.TopologyPlan)
    (result : TrafficAttributionResult) (flow : TrafficFlowIntent)
    (hlinks : HasAllLinks topology result.contributionsByLink) :
    ∃ next, attributeFlow enterprise topology result flow = .ok next ∧
      ((∃ path, Takes enterprise topology flow path ∧
          next.pathsByFlow = result.pathsByFlow.set flow.id path ∧
          AddsAlong flow.contribution path result.contributionsByLink
            next.contributionsByLink) ∨
        ((∀ path, ¬Takes enterprise topology flow path) ∧
          next.pathsByFlow = result.pathsByFlow ∧
          next.contributionsByLink = result.contributionsByLink)) := by
  unfold attributeFlow
  by_cases hvalid : hasValidEndpoints enterprise flow = true
  · obtain ⟨paths, hpaths, htakes⟩ := candidatePaths_spec topology hvalid
    rw [if_neg (not_not_intro hvalid), hpaths]
    match paths with
    | [] =>
      refine ⟨_, rfl, .inr ⟨fun path hpath => ?_, rfl, rfl⟩⟩
      exact absurd ((htakes path).mpr hpath) (by simp)
    | [path] =>
      have htake := (htakes path).mp rfl
      obtain ⟨next, hnext, hadds⟩ := foldlM_addContribution flow.contribution htake.nodup
        fun linkId hlink => hlinks linkId (mem_wanLinks_of_follow htake.isWalk hlink)
      refine ⟨{ result with
        contributionsByLink := next
        pathsByFlow := result.pathsByFlow.set flow.id path }, ?_, .inl ⟨path, htake, rfl, hadds⟩⟩
      change (path.foldlM (addContribution flow.contribution) result.contributionsByLink >>= _) = _
      rw [hnext]
      rfl
    | first :: second :: rest =>
      refine ⟨_, rfl, .inr ⟨fun path hpath => ?_, rfl, rfl⟩⟩
      exact absurd ((htakes path).mpr hpath) (by simp)
  · rw [if_pos hvalid]
    exact ⟨_, rfl, .inr ⟨fun path hpath => hvalid hpath.1, rfl, rfl⟩⟩

/-! ## All flows -/

/-- The flows whose identifier is not empty and was not seen. -/
def counted : List String → List TrafficFlowIntent → List TrafficFlowIntent
  | _, [] => []
  | seenIds, flow :: flows =>
    if flow.id = "" ∨ flow.id ∈ seenIds then counted seenIds flows
    else flow :: counted (flow.id :: seenIds) flows

/-- A flow is counted when its identifier is not empty and it is the first that has it. -/
lemma mem_counted_iff :
    flow ∈ counted seenIds flows ↔ flow.id ≠ "" ∧ flow.id ∉ seenIds ∧
      flows.find? (fun other => other.id = flow.id) = some flow := by
  induction flows generalizing seenIds with
  | nil => simp [counted]
  | cons first flows ih =>
    rw [counted, List.find?_cons]
    by_cases hfirst : first.id = flow.id
    · simp only [hfirst, decide_true]
      by_cases hskip : flow.id = "" ∨ flow.id ∈ seenIds
      · rw [if_pos hskip, ih]
        constructor
        · rintro ⟨hne, hnot, -⟩
          exact absurd hskip (by simp [hne, hnot])
        · rintro ⟨hne, hnot, -⟩
          exact absurd hskip (by simp [hne, hnot])
      · rw [if_neg hskip, List.mem_cons, ih]
        rw [not_or] at hskip
        constructor
        · rintro (rfl | ⟨-, hnot, -⟩)
          · exact ⟨hskip.1, hskip.2, rfl⟩
          · exact absurd List.mem_cons_self hnot
        · rintro ⟨-, -, heq⟩
          exact .inl (Option.some.inj heq).symm
    · simp only [hfirst, decide_false]
      by_cases hskip : first.id = "" ∨ first.id ∈ seenIds
      · rw [if_pos hskip, ih]
      rw [if_neg hskip, List.mem_cons, ih, List.mem_cons, not_or]
      constructor
      · rintro (rfl | ⟨hne, ⟨-, hnot⟩, hfind⟩)
        · exact absurd rfl hfirst
        · exact ⟨hne, hnot, hfind⟩
      · rintro ⟨hne, hnot, hfind⟩
        exact .inr ⟨hne, ⟨Ne.symm hfirst, hnot⟩, hfind⟩

lemma nodup_counted (seenIds : List String) (flows : List TrafficFlowIntent) :
    ((counted seenIds flows).map TrafficFlowIntent.id).Nodup := by
  induction flows generalizing seenIds with
  | nil => exact List.nodup_nil
  | cons first flows ih =>
    rw [counted]
    split_ifs
    · exact ih seenIds
    refine List.nodup_cons.mpr ⟨?_, ih _⟩
    intro hmem
    obtain ⟨flow, hflow, heq⟩ := List.mem_map.mp hmem
    obtain ⟨-, hnot, -⟩ := mem_counted_iff.mp hflow
    exact hnot (heq ▸ List.mem_cons_self)

/-- Every counted flow takes its path. -/
def PathsOf (enterprise : EnterprisePlan) (topology : Plans.TopologyPlan)
    (flows : List TrafficFlowIntent) (paths : Dict String (List String)) : Prop :=
  ∀ flow ∈ flows, ∀ path, paths.get? flow.id = some path ↔ Takes enterprise topology flow path

/-- Each link has gained the contributions of the flows that cross it, in order. -/
def Gains (enterprise : EnterprisePlan) (topology : Plans.TopologyPlan)
    (flows : List TrafficFlowIntent)
    (contributions final : Dict String (List TrafficContribution)) : Prop :=
  ∀ linkId items, contributions.get? linkId = some items →
    ∃ added : List TrafficFlowIntent, added.Sublist flows ∧
      final.get? linkId = some (items ++ added.map TrafficFlowIntent.contribution) ∧
      ∀ flow ∈ flows, flow ∈ added ↔ ∃ path, Takes enterprise topology flow path ∧ linkId ∈ path

/-- The gains of a first flow and of the later ones. -/
lemma Gains.cons {final : Dict String (List TrafficContribution)} (hnot : flow ∉ flows)
    (hfirst : Gains enterprise topology [flow] contributions next)
    (hlater : Gains enterprise topology flows next final) :
    Gains enterprise topology (flow :: flows) contributions final := by
  intro linkId items hitems
  obtain ⟨first, hsub, hnext, hmem⟩ := hfirst linkId items hitems
  obtain ⟨added, hsublist, hfinal, hadded⟩ := hlater linkId _ hnext
  refine ⟨first ++ added, hsub.append hsublist, ?_, ?_⟩
  · rw [hfinal, List.map_append, List.append_assoc]
  · intro other hother
    rw [List.mem_append]
    rcases List.mem_cons.mp hother with rfl | hother
    · rw [← hmem other List.mem_cons_self]
      exact or_iff_left fun h => hnot (hsublist.subset h)
    · rw [← hadded other hother]
      refine or_iff_right fun h => hnot ?_
      rw [← List.mem_singleton.mp (hsub.subset h)]
      exact hother

lemma AddsAlong.gains (htakes : Takes enterprise topology flow path)
    (h : AddsAlong flow.contribution path contributions next) :
    Gains enterprise topology [flow] contributions next := by
  intro linkId items hitems
  by_cases hlink : linkId ∈ path
  · refine ⟨[flow], List.Sublist.refl _, ?_, ?_⟩
    · rw [h linkId, if_pos hlink, hitems]
      rfl
    · intro other hother
      rw [List.mem_singleton.mp hother]
      exact ⟨fun _ => ⟨path, htakes, hlink⟩, fun _ => List.mem_cons_self⟩
  · refine ⟨[], List.nil_sublist _, ?_, ?_⟩
    · rw [h linkId, if_neg hlink, hitems, List.map_nil, List.append_nil]
    · intro other hother
      rw [List.mem_singleton.mp hother]
      constructor
      · intro hmem
        cases hmem
      · rintro ⟨taken, htaken, hmem⟩
        exact absurd (htakes.unique htaken ▸ hmem) hlink

lemma gains_of_forall_not_takes (h : ∀ path, ¬Takes enterprise topology flow path)
    (contributions : Dict String (List TrafficContribution)) :
    Gains enterprise topology [flow] contributions contributions := by
  intro linkId items hitems
  refine ⟨[], List.nil_sublist _, by simpa using hitems, ?_⟩
  intro other hother
  rw [List.mem_singleton.mp hother]
  constructor
  · intro hmem
    cases hmem
  · rintro ⟨path, hpath, -⟩
    exact absurd hpath (h path)

/-- The whole loop: the counted flows take their paths and contribute to the links of these. -/
lemma attributeFlows_spec (enterprise : EnterprisePlan) (topology : Plans.TopologyPlan)
    (flows : List TrafficFlowIntent) {result : TrafficAttributionResult}
    (hlinks : HasAllLinks topology result.contributionsByLink)
    (hfresh : ∀ flowId, flowId ∉ seenIds → result.pathsByFlow.get? flowId = none) :
    ∃ final, attributeFlows enterprise topology seenIds result flows = .ok final ∧
      (∀ flowId ∈ seenIds, final.pathsByFlow.get? flowId = result.pathsByFlow.get? flowId) ∧
      PathsOf enterprise topology (counted seenIds flows) final.pathsByFlow ∧
      Gains enterprise topology (counted seenIds flows) result.contributionsByLink
        final.contributionsByLink := by
  induction flows generalizing seenIds result with
  | nil =>
    refine ⟨result, rfl, fun _ _ => rfl, fun flow hflow => absurd hflow List.not_mem_nil, ?_⟩
    intro linkId items hitems
    refine ⟨[], List.nil_sublist _, by simpa using hitems, ?_⟩
    exact fun flow hflow => absurd hflow List.not_mem_nil
  | cons flow flows ih =>
    rw [attributeFlows, counted]
    by_cases hskip : flow.id = "" ∨ flow.id ∈ seenIds
    · rw [if_pos hskip, if_pos hskip]
      exact ih hlinks hfresh
    rw [if_neg hskip, if_neg hskip]
    rw [not_or] at hskip
    obtain ⟨next, hnext, hstep⟩ := attributeFlow_spec enterprise topology result flow hlinks
    have hother : ∀ flowId, flowId ≠ flow.id →
        next.pathsByFlow.get? flowId = result.pathsByFlow.get? flowId := by
      intro flowId hne
      rcases hstep with ⟨path, -, hpaths, -⟩ | ⟨-, hpaths, -⟩
      · rw [hpaths, Dict.get?_set, if_neg (Ne.symm hne)]
      · rw [hpaths]
    have hown : ∀ path, next.pathsByFlow.get? flow.id = some path ↔
        Takes enterprise topology flow path := by
      intro path
      rcases hstep with ⟨taken, htaken, hpaths, -⟩ | ⟨hnone, hpaths, -⟩
      · rw [hpaths, Dict.get?_set, if_pos rfl, Option.some.injEq]
        constructor
        · rintro rfl
          exact htaken
        · exact fun hpath => (htaken.unique hpath).symm
      · rw [hpaths, hfresh flow.id hskip.2]
        constructor
        · intro h
          cases h
        · exact fun hpath => absurd hpath (hnone path)
    have hgains : Gains enterprise topology [flow] result.contributionsByLink
        next.contributionsByLink := by
      rcases hstep with ⟨path, htaken, -, hadds⟩ | ⟨hnone, -, hsame⟩
      · exact hadds.gains htaken
      · rw [hsame]
        exact gains_of_forall_not_takes hnone _
    have hnextLinks : HasAllLinks topology next.contributionsByLink := by
      rcases hstep with ⟨path, -, -, hadds⟩ | ⟨-, -, hsame⟩
      · exact hadds.hasAllLinks hlinks
      · exact hsame ▸ hlinks
    have hnextFresh : ∀ flowId, flowId ∉ flow.id :: seenIds →
        next.pathsByFlow.get? flowId = none := by
      intro flowId hnot
      rw [List.mem_cons, not_or] at hnot
      rw [hother flowId hnot.1]
      exact hfresh flowId hnot.2
    obtain ⟨final, hrun, hkept, hpathsOf, hlater⟩ := ih hnextLinks hnextFresh
    refine ⟨final, ?_, ?_, ?_, ?_⟩
    · rw [hnext]
      exact hrun
    · intro flowId hseen
      rw [hkept flowId (List.mem_cons_of_mem _ hseen)]
      refine hother flowId ?_
      rintro rfl
      exact hskip.2 hseen
    · intro other hmem path
      rcases List.mem_cons.mp hmem with rfl | hmem
      · rw [hkept other.id List.mem_cons_self]
        exact hown path
      · exact hpathsOf other hmem path
    · refine hgains.cons ?_ hlater
      intro hmem
      exact (mem_counted_iff.mp hmem).2.1 List.mem_cons_self

/-! ## The attribution of an enterprise -/

/-- The flow is attributed under its identifier: that is not empty and no earlier flow of the plan
has it. -/
def HasOwnId (enterprise : EnterprisePlan) (flow : TrafficFlowIntent) : Prop :=
  flow.id ≠ "" ∧
    enterprise.trafficFlows.find? (fun other => other.id = flow.id) = some flow

instance (enterprise : EnterprisePlan) (flow : TrafficFlowIntent) :
    Decidable (HasOwnId enterprise flow) :=
  inferInstanceAs (Decidable (_ ∧ _))

lemma mem_counted_sorted_iff :
    flow ∈ counted [] (sortedBy TrafficFlowIntent.id enterprise.trafficFlows) ↔
      HasOwnId enterprise flow := by
  rw [mem_counted_iff, find?_key_sortedBy]
  simp [HasOwnId]

lemma get?_initialResult (topology : Plans.TopologyPlan)
    (hlink : linkId ∈ (wanLinks topology).keys) :
    (initialResult topology).contributionsByLink.get? linkId = some [] := by
  refine Dict.get?_ofList_of_mem ?_ ?_
  · rw [List.map_map]
    change ((sortedBy id (wanLinks topology).keys).map id).Nodup
    rw [List.map_id, (perm_sortedBy id (wanLinks topology).keys).nodup_iff]
    exact (wanLinks topology).keysNodup
  · exact List.mem_map.mpr ⟨linkId, mem_sortedBy.mpr hlink, rfl⟩

/-- The attribution always ends.  A flow with an identifier of its own and valid endpoints takes
the only shortest walk between its sites, or its explicit path when that is a walk between them
without repetition; and each WAN link collects the contributions of the flows that cross it, each
once. -/
theorem attributeEnterpriseTraffic_spec (enterprise : EnterprisePlan)
    (topology : Plans.TopologyPlan) :
    ∃ result, attributeEnterpriseTraffic enterprise topology = .ok result ∧
      (∀ flow, HasOwnId enterprise flow → hasValidEndpoints enterprise flow = true →
        flow.explicitLinkIds = [] → ∀ path,
          result.pathsByFlow.get? flow.id = some path ↔
            IsOnlyShortest topology flow.sourceSiteId flow.destinationSiteId path) ∧
      (∀ flow, HasOwnId enterprise flow → hasValidEndpoints enterprise flow = true →
        flow.explicitLinkIds ≠ [] → ∀ path,
          result.pathsByFlow.get? flow.id = some path ↔
            path = flow.explicitLinkIds ∧ path.Nodup ∧
              IsWalk topology flow.sourceSiteId flow.destinationSiteId path) ∧
      ∀ linkId ∈ (wanLinks topology).keys, ∃ contributions,
        result.contributionsByLink.get? linkId = some contributions ∧
        (contributions.map TrafficContribution.sourceId).Nodup ∧
        ∀ contribution, contribution ∈ contributions ↔
          ∃ flow path, HasOwnId enterprise flow ∧
            result.pathsByFlow.get? flow.id = some path ∧ linkId ∈ path ∧
            flow.contribution = contribution := by
  have hstart : HasAllLinks topology (initialResult topology).contributionsByLink :=
    fun linkId hlink => ⟨[], get?_initialResult topology hlink⟩
  obtain ⟨result, hrun, -, hpaths, hgains⟩ := attributeFlows_spec enterprise topology
    (sortedBy TrafficFlowIntent.id enterprise.trafficFlows) hstart fun _ _ => rfl
  refine ⟨result, hrun, ?_, ?_, ?_⟩
  · intro flow hown hvalid hexplicit path
    rw [hpaths flow (mem_counted_sorted_iff.mpr hown) path, Takes, if_pos hexplicit]
    exact and_iff_right hvalid
  · intro flow hown hvalid hexplicit path
    rw [hpaths flow (mem_counted_sorted_iff.mpr hown) path, Takes, if_neg hexplicit]
    exact and_iff_right hvalid
  · intro linkId hlink
    obtain ⟨added, hsublist, hfinal, hadded⟩ :=
      hgains linkId [] (get?_initialResult topology hlink)
    refine ⟨_, hfinal, ?_, ?_⟩
    · rw [List.nil_append, List.map_map]
      exact (hsublist.map TrafficFlowIntent.id).nodup (nodup_counted _ _)
    · intro contribution
      rw [List.nil_append, List.mem_map]
      constructor
      · rintro ⟨flow, hflow, hcontribution⟩
        have hcounted := hsublist.subset hflow
        obtain ⟨path, htakes, hcrosses⟩ := (hadded flow hcounted).mp hflow
        exact ⟨flow, path, mem_counted_sorted_iff.mp hcounted,
          (hpaths flow hcounted path).mpr htakes, hcrosses, hcontribution⟩
      · rintro ⟨flow, path, hown, hpath, hcrosses, hcontribution⟩
        have hcounted := mem_counted_sorted_iff.mpr hown
        have htakes := (hpaths flow hcounted path).mp hpath
        exact ⟨flow, (hadded flow hcounted).mpr ⟨path, htakes, hcrosses⟩, hcontribution⟩

/-! ## A flow without an identifier -/

/-- Two sites with one router each, and a flow between them that has no identifier. -/
def unnamedFlowPlan : EnterprisePlan where
  sites := [{ name := "A", siteId := "a" }, { name := "B", siteId := "b" }]
  trafficFlows := [{ id := "", sourceSiteId := "a", destinationSiteId := "b" }]

/-- The WAN link between the two routers. -/
def unnamedFlowTopology : Plans.TopologyPlan where
  devices :=
    [{ id := "ra", name := "RA", model := "2911", category := "router", siteId := "a" },
      { id := "rb", name := "RB", model := "2911", category := "router", siteId := "b" }]
  links :=
    [{ id := "wan", deviceA := "RA", portA := "Serial0/0/0", deviceB := "RB",
       portB := "Serial0/0/0",
       deviceAId := "ra", deviceBId := "rb", linkRole := wanLink }]

/-- The flow has valid endpoints and one shortest walk, and it is not attributed. -/
theorem not_attributed_unnamed :
    ∃ flow ∈ unnamedFlowPlan.trafficFlows, hasValidEndpoints unnamedFlowPlan flow = true ∧
      flow.explicitLinkIds = [] ∧
      IsOnlyShortest unnamedFlowTopology flow.sourceSiteId flow.destinationSiteId ["wan"] ∧
      ∃ result, attributeEnterpriseTraffic unnamedFlowPlan unnamedFlowTopology = .ok result ∧
        result.pathsByFlow.get? flow.id = none := by
  refine ⟨{ id := "", sourceSiteId := "a", destinationSiteId := "b" }, by decide, by decide, rfl,
    ?_, _, rfl, rfl⟩
  obtain ⟨paths, hpaths, -, hmem⟩ := shortestPaths_spec unnamedFlowTopology
    (by decide : "a" ≠ "b")
  have hone : paths = [["wan"]] := by
    have hcomputed : shortestPaths unnamedFlowTopology "a" "b" = some [["wan"]] := by
      decide
    exact Option.some.inj (hpaths.symm.trans hcomputed)
  subst hone
  refine ⟨(hmem _).mp List.mem_cons_self, ?_⟩
  intro other hother
  exact List.mem_singleton.mp ((hmem other).mpr hother)

end TrafficAttribution

end PacketTracer
