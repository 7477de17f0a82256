import PacketTracer.Application.DeploymentRun

/-!
# The outcome of a deployment

The checks before the first change, and the results about `deploy`: in every run the calls and the
journal are orderly and what is asked for is a prefix of the plan, and a deployment is reported as
verified only when everything was observed as planned.
-/

namespace PacketTracer

open Dicts Interactions PyText PhysicalEvent
open Interaction (ensures_bind ensures_exchange ensures_pure Asks asks_pure asks_raise asks_exchange
  asks_loop asks_loop_nil)

namespace TopologyDeployer

variable {deployer : TopologyDeployer} {request : DeploymentRequest} {state : DeploymentState}
  {history : List PhysicalEvent} {event : PhysicalEvent}
  {capabilities : Dict String PhysicalModuleEffectCapability}
  {modules : List Plans.ModulePlan} {devices : List Plans.DevicePlan}
  {links : List Plans.LinkPlan}

/-! ## Before the first change -/

/-- A deployment that changed nothing is orderly. -/
lemma orderly_of_quiet {journal : ApplicationExecutionJournal} (hentries : journal.entries = [])
    (hquiet : ∀ event ∈ history, event.mutating = false) :
    deployer.Orderly request journal history where
  checksFirst := fun _ => hquiet
  capabilitiesFirst := fun _ _ => hquiet
  stopsAtFailure := by
    intro before event after heq hmutating
    have := hquiet event (heq ▸ List.mem_append_right _ List.mem_cons_self)
    simp [hmutating] at this
  linksLast := by
    intro before event after heq hlink
    have := hquiet event (heq ▸ List.mem_append_right _ List.mem_cons_self)
    simp [mutating_of_createsLink hlink] at this
  records := by
    refine ⟨[], [], by simp [ensureEntries, hentries], ?_, Nat.zero_le 1, fun _ => rfl⟩
    have hcalls : mutatingCalls history = [] := by
      simpa [mutatingCalls, List.filter_eq_nil_iff] using hquiet
    rw [hcalls]
    exact .nil
  others := by simp [OthersFailed, hentries]

/-- What holds while nothing but checks was made. -/
structure Checked (deployer : TopologyDeployer) (request : DeploymentRequest)
    (history : List PhysicalEvent) : Prop where
  quiet : ∀ event ∈ history, event.mutating = false
  accepted : ∀ event ∈ history, ∀ capabilities,
    event.Accepted deployer.casefold request.topology capabilities

/-- The check of the workspace. -/
lemma ensures_checkWorkspace (hentries : state.journal.entries = []) :
    (deployer.checkWorkspace request state).Ensures []
      (fun _ history => Checked deployer request history) (deployer.Halted request) := by
  unfold checkWorkspace
  rw [ensures_bind, ensures_exchange]
  have hquiet : ∀ answer, ∀ event ∈ ([] ++ [.observeWorkspace answer] : List PhysicalEvent),
      event.mutating = false := by
    intro answer event hmem
    rw [List.mem_singleton.mp hmem]
    rfl
  by_cases herror : (workspaceError deployer.casefold (deployer.runtime.observeWorkspace [])).1 = ""
  · simp only [herror, ne_eq, not_true_eq_false, if_false, ensures_pure]
    refine ⟨hquiet _, fun event hmem capabilities => ?_⟩
    rw [List.mem_singleton.mp hmem]
    exact herror
  · simp only [herror, ne_eq, not_false_eq_true, if_true, Interaction.ensures_raise]
    exact halted_stoppedDeployment (orderly_of_quiet hentries (hquiet _))

/-- What the scan of the capabilities of some modules has collected. -/
structure ScannedCapabilities (deployer : TopologyDeployer) (request : DeploymentRequest)
    (done : List Plans.ModulePlan) (scan : CapabilityScan) (history : List PhysicalEvent) :
    Prop where
  quiet : ∀ event ∈ history, event.mutating = false
  accepted : scan.errors = [] → ∀ event ∈ history, ∀ capabilities,
    event.Accepted deployer.casefold request.topology capabilities
  offered : scan.errors = [] → deployer.runtime.hasModuleEffectCapability = true ∨ done = []
  complete : scan.errors = [] → ∀ module ∈ done,
    (scan.capabilities.get? module.moduleId).isSome
  answered : ∀ identifier capability, scan.capabilities.get? identifier = some capability →
    ∃ module device, module.moduleId = identifier ∧
      .moduleEffectCapability module device (.ok capability) ∈ history

/-- The answer of the backend about one module. -/
lemma ScannedCapabilities.concat {done : List Plans.ModulePlan} {scan : CapabilityScan}
    (h : ScannedCapabilities deployer request done scan history)
    (hoffers : deployer.runtime.hasModuleEffectCapability = true) (module : Plans.ModulePlan)
    (device : Plans.DevicePlan) (answer : Except String PhysicalModuleEffectCapability) :
    ScannedCapabilities deployer request (done ++ [module])
      { capabilities :=
          match answer with
          | .ok capability => scan.capabilities.set module.moduleId capability
          | .error _ => scan.capabilities
        errors :=
          if capabilityError module answer ≠ "" then scan.errors ++ [capabilityError module answer]
          else scan.errors }
      (history ++ [.moduleEffectCapability module device answer]) := by
  have herrors : (if capabilityError module answer ≠ "" then
      scan.errors ++ [capabilityError module answer] else scan.errors) = [] →
      scan.errors = [] ∧ capabilityError module answer = "" := by
    intro hnil
    by_cases herror : capabilityError module answer = ""
    · exact ⟨by simpa [herror] using hnil, herror⟩
    · simp [herror] at hnil
  refine ⟨fun event hmem => ?_, fun hnil event hmem capabilities => ?_, fun _ => Or.inl hoffers,
    fun hnil module' hmem => ?_, fun identifier capability hget => ?_⟩
  · rcases List.mem_concat_iff.mp hmem with hmem | hmem
    · exact h.quiet event hmem
    · rw [hmem]
      rfl
  · rcases List.mem_concat_iff.mp hmem with hmem | hmem
    · exact h.accepted (herrors hnil).1 event hmem capabilities
    · rw [hmem]
      exact (herrors hnil).2
  · obtain ⟨hscan, herror⟩ := herrors hnil
    obtain ⟨capability, rfl, -⟩ := capability_of_capabilityError_eq herror
    rw [Dict.get?_set]
    split_ifs with hid
    · rfl
    · rcases List.mem_concat_iff.mp hmem with hmem | hmem
      · exact h.complete hscan module' hmem
      · exact absurd (hmem ▸ rfl) hid
  · rcases answer with exc | offered
    · obtain ⟨module', device', hid, hmem⟩ := h.answered identifier capability hget
      exact ⟨module', device', hid, List.mem_append_left _ hmem⟩
    simp only [Dict.get?_set] at hget
    split_ifs at hget with hid
    · cases hget
      exact ⟨module, device, hid, List.mem_concat_self⟩
    · obtain ⟨module', device', hid', hmem⟩ := h.answered identifier capability hget
      exact ⟨module', device', hid', List.mem_append_left _ hmem⟩

/-- The loop over the capabilities, and the stop when one is missing. -/
lemma ensures_checkCapabilities {items : List Plans.ModulePlan}
    (hentries : state.journal.entries = []) (hchecked : Checked deployer request history)
    (hknown : ∀ module ∈ items, ∃ device ∈ request.topology.devices, device.name = module.device)
    (hitems : items = [] → request.topology.modules = []) :
    (deployer.checkCapabilities request state items).Ensures history
      (fun capabilities history => deployer.Underway request capabilities [] [] [] state history ∧
        ∀ module ∈ items, (capabilities.get? module.moduleId).isSome)
      (deployer.Halted request) := by
  unfold checkCapabilities
  refine Interaction.Ensures.bind (Interaction.ensures_loop
    (I := ScannedCapabilities deployer request) ?_ ?_) fun scan history hscan => ?_
  · exact ⟨hchecked.quiet, fun _ => hchecked.accepted, fun _ => Or.inr rfl,
      fun _ module hmem => by simp at hmem, fun identifier capability hget => by simp at hget⟩
  · intro done module hmem scan history hscan
    obtain ⟨device, hdevice, hname⟩ := hknown module hmem
    have hfind : (request.topology.devices.find? (·.name = module.device)).isSome := by
      rw [List.find?_isSome]
      exact ⟨device, hdevice, by simpa using hname⟩
    obtain ⟨found, hfound⟩ := Option.isSome_iff_exists.mp hfind
    unfold checkCapability
    simp only [hfound]
    split_ifs with hoffers
    · rw [ensures_bind, ensures_exchange, ensures_pure]
      exact hscan.concat hoffers module found _
    · rw [ensures_pure]
      exact ⟨hscan.quiet, fun h => by simp at h, fun h => by simp at h, fun h => by simp at h,
        hscan.answered⟩
  · by_cases herrors : scan.errors = []
    · simp only [herrors, ne_eq, not_true_eq_false, if_false, ensures_pure]
      refine ⟨⟨⟨fun event hmem _ => hscan.accepted herrors event hmem _, ⟨?_, ?_⟩, ?_, ?_,
        hscan.answered⟩, ⟨fun event hmem => hscan.accepted herrors event hmem _,
          fun _ h => by simp at h, fun _ h => by simp at h, fun _ h => by simp at h⟩⟩,
        hscan.complete herrors⟩
      · have hcalls : mutatingCalls history = [] := by
          simpa [mutatingCalls, List.filter_eq_nil_iff] using hscan.quiet
        rw [hcalls, ensureEntries, hentries]
        exact .nil
      · simp [OthersFailed, hentries]
      · have horderly : deployer.Orderly request state.journal history :=
          orderly_of_quiet hentries hscan.quiet
        exact horderly.linksLast
      · exact (hscan.offered herrors).imp_right hitems
    · simp only [herrors, ne_eq, not_false_eq_true, if_true, Interaction.ensures_raise]
      refine halted_stoppedDeployment (orderly_of_quiet ?_ hscan.quiet)
      rw [entries_withPreflightFailures, hentries]

lemma device_known_of_moduleErrors {knownNames : List String}
    {taken : List (String × String)} (h : moduleErrors knownNames taken modules = []) :
    ∀ module ∈ modules, module.device ∈ knownNames := by
  induction modules generalizing taken with
  | nil => simp
  | cons first modules ih =>
    simp only [moduleErrors, List.append_eq_nil_iff] at h
    obtain ⟨⟨⟨hknown, -⟩, -⟩, hrest⟩ := h
    intro module hmem
    rcases List.mem_cons.mp hmem with rfl | hmem
    · by_contra hunknown
      simp [hunknown] at hknown
    · exact ih hrest module hmem

lemma device_known_of_preflight {services : PreflightServices} {topology : Plans.TopologyPlan}
    {fingerprint : EnvironmentFingerprint}
    (h : (deploymentPreflight services topology fingerprint).1 = []) :
    ∀ module ∈ topology.modules, ∃ device ∈ topology.devices, device.name = module.device := by
  unfold deploymentPreflight at h
  simp only at h
  split_ifs at h with hschema hhash hblank herrors hports
  · simp at h
  · simp at h
  · simp at h
  · exact absurd h herrors
  · exact absurd h hports
  · simp only [ne_eq, not_not, List.append_eq_nil_iff] at herrors
    intro module hmem
    exact List.mem_map.mp (device_known_of_moduleErrors herrors.1.1.2 module hmem)

/-! ## The whole run -/

/-- What a verified deployment saw: an exact observation of every module, device and link, later
than every change to it, and no answer that was not accepted. -/
structure SeenAsPlanned (deployer : TopologyDeployer) (topology : Plans.TopologyPlan)
    (history : List PhysicalEvent) : Prop where
  devices : ∀ device ∈ topology.devices, ∃ observation, DeviceMatches topology device observation ∧
    SeenAfter changesHardware history (.observeDevice device (.ok observation))
  modules : ∀ module ∈ topology.modules, ∃ capability observation,
    (∃ module' device, module'.moduleId = module.moduleId ∧
      .moduleEffectCapability module' device (.ok capability) ∈ history) ∧
    ModuleMatches deployer.casefold module capability observation ∧
    SeenAfter changesHardware history (.observeModuleEffect module (.ok observation))
  links : ∀ link ∈ topology.links, ∃ observation, LinkMatches link observation ∧
    SeenAfter mutating history (.observeLink link (.ok observation))
  accepted : ∃ capabilities, ∀ event ∈ history,
    event.Accepted deployer.casefold topology capabilities

/-- What the end of a deployment that was not stopped establishes. -/
structure Completed (deployer : TopologyDeployer) (request : DeploymentRequest)
    (result : PhysicalDeploymentResult) (history : List PhysicalEvent) : Prop where
  orderly : deployer.Orderly request result.executionJournal history
  seen : SeenAsPlanned deployer request.topology history

/-- The manifest, or the last stop. -/
lemma ensures_finishDeployment {observedDevices : Dict String PhysicalDeviceObservation}
    {observedLinks : Dict String PhysicalLinkObservation}
    (h : deployer.Underway request capabilities modules devices links state history)
    (hmodules : ∀ module ∈ request.topology.modules, module ∈ modules)
    (hdevices : ∀ device ∈ request.topology.devices, device ∈ devices)
    (hlinks : ∀ link ∈ request.topology.links, link ∈ links) :
    (finish request links state observedDevices observedLinks).Ensures history
      (Completed deployer request) (deployer.Halted request) := by
  unfold finish
  split
  case h_1 exc hmanifest =>
    rw [Interaction.ensures_raise]
    have hnext : deployer.Progress request capabilities
        { state with
          journal := appendEntry state.journal (observationFailureEntry "manifest:create"
            s!"DeploymentManifest creation failed after observation: {exc}") } history :=
      { h.progress with
        records := h.progress.records.addFailures (addsFailures_appendEntry _ _) rfl }
    exact halted_stoppedDeployment hnext.orderly
  case h_2 manifest hmanifest =>
    rw [ensures_pure]
    refine ⟨h.progress.orderly, fun device hmem => h.observed.devices device (hdevices device hmem),
      fun module hmem => ?_, fun link hmem => h.observed.links link (hlinks link hmem),
      capabilities, h.observed.accepted⟩
    obtain ⟨capability, observation, hget, hmatches, hseen⟩ :=
      h.observed.modules module (hmodules module hmem)
    exact ⟨capability, observation, h.progress.capabilities _ _ hget, hmatches, hseen⟩

/-- The run from the check of the capabilities on. -/
lemma ensures_ensureAndObserve (hentries : state.journal.entries = [])
    (hchecked : Checked deployer request history)
    (hknown : ∀ module ∈ request.topology.modules,
      ∃ device ∈ request.topology.devices, device.name = module.device) :
    (deployer.ensureAndObserve request state).Ensures history (Completed deployer request)
      (deployer.Halted request) := by
  unfold ensureAndObserve
  refine (ensures_checkCapabilities hentries hchecked (fun module hmem => hknown module
    (mem_sortedBy.mp hmem)) sortedBy_eq_nil.mp).bind fun capabilities history h => ?_
  obtain ⟨h, hcapabilities⟩ := h
  refine (ensures_ensureDevices h).bind fun state history h => ?_
  refine (ensures_ensureModules h).bind fun state history h => ?_
  refine (ensures_observeModules hcapabilities h).bind fun scan history h => ?_
  refine (ensures_finish h).bind fun result history h => ?_
  refine (ensures_observeDevices h).bind fun scan history h => ?_
  refine (ensures_finish h).bind fun result history h => ?_
  refine (ensures_ensureLinks h fun device hmem => mem_sortedBy.mpr hmem).bind
    fun state history h => ?_
  refine (ensures_observeLinks h).bind fun scan history h => ?_
  refine (ensures_finish h).bind fun result history h => ?_
  exact ensures_finishDeployment h (fun _ hmem => mem_sortedBy.mpr hmem)
    (fun _ hmem => mem_sortedBy.mpr hmem) fun _ hmem => mem_sortedBy.mpr hmem

/-- A run ends completed or halted. -/
lemma ensures_deploying (deployer : TopologyDeployer) (request : DeploymentRequest) :
    (deployer.deploying request).Ensures [] (Completed deployer request)
      (deployer.Halted request) := by
  have hentries : (initialState request).journal.entries = [] := rfl
  have hnone : ∀ event ∈ ([] : List PhysicalEvent), event.mutating = false := by simp
  unfold deploying
  simp only
  split_ifs with hpreflight hworkspace
  · rw [Interaction.ensures_raise]
    refine halted_stoppedDeployment (orderly_of_quiet ?_ hnone)
    rw [entries_withPreflightFailures, hentries]
  · refine (ensures_checkWorkspace hentries).bind fun _ history hchecked => ?_
    exact ensures_ensureAndObserve hentries hchecked
      (device_known_of_preflight (not_not.mp hpreflight))
  · exact ensures_ensureAndObserve hentries ⟨hnone, by simp⟩
      (device_known_of_preflight (not_not.mp hpreflight))

/-- **A verified deployment was seen as planned.**  A deployment is reported as verified, and has a
manifest, only if every device, every module effect and every link was observed as planned after
every change to it, and no other answer was taken. -/
theorem seenAsPlanned_of_verified (deployer : TopologyDeployer) (request : DeploymentRequest)
    (hverified : (deployer.deploy request).1.status = .verified ∨
      (deployer.deploy request).1.manifest ≠ none) :
    SeenAsPlanned deployer request.topology (deployer.deploy request).2 := by
  have h := ensures_deploying deployer request
  revert hverified
  unfold deploy
  cases hrun : (deployer.deploying request).run [] with
  | mk outcome history =>
    intro hverified
    cases outcome with
    | ok result => exact (h.of_run_eq_ok hrun).seen
    | error result =>
      have hhalted := h.of_run_eq_error hrun
      rcases hverified with hstatus | hmanifest
      · exact absurd hstatus hhalted.status
      · exact absurd hhalted.manifest hmanifest

/-! ## Two hosts -/

/-- Two hosts and a crossover cable between them. -/
def twoHosts : Plans.TopologyPlan :=
  { id := "lab"
    hashSchemaVersion := "2"
    physicalTopologyHash := "2cf24dba5fb0a30e"
    devices := [{ id := "a", name := "PC0", model := "PC-PT", category := "pc" },
      { id := "b", name := "PC1", model := "PC-PT", category := "pc" }]
    links := [
      { id := "wire", deviceA := "PC0", portA := "FastEthernet0", deviceB := "PC1",
        portB := "FastEthernet0", deviceAId := "a", deviceBId := "b", cable := "cross" }] }

/-- A backend that ensures everything, sees the devices or not, and cannot tell cables apart. -/
def hostRuntime (seesDevices : Bool) : PhysicalTopologyRuntime where
  observeWorkspace := fun _ => .ok (some {})
  hasModuleEffectCapability := false
  moduleEffectCapability := fun _ module _ => .ok { targetId := module.moduleId }
  ensureDevice := fun _ device => .ok
    { targetId := device.semanticId, targetKind := .device, disposition := .changed, applied := true }
  hasEnsureModule := false
  ensureModule := fun _ module => .ok { targetId := module.moduleId, targetKind := .module }
  hasObserveModuleEffect := false
  observeModuleEffect := fun _ _ => .error "no modules"
  observeDevice := fun _ device => .ok
    { targetId := device.semanticId, observed := seesDevices, deployedName := device.name,
      model := device.model, interfaces := ["FastEthernet0"] }
  ensureLink := fun _ link => .ok
    { targetId := link.semanticLinkId, targetKind := .link, disposition := .changed,
      applied := true }
  observeLink := fun _ link => .ok
    { targetId := link.semanticLinkId, deviceA := link.deviceA, portA := link.portA,
      deviceB := link.deviceB, portB := link.portB, cable := "straight" }

/-- The deployer over this backend. -/
def hostDeployer (seesDevices : Bool) : TopologyDeployer where
  physicalHash := fun _ => "2cf24dba5fb0a30e"
  portInventory := fun _ _ _ _ => { tier := .backendVerified, ports := ["FastEthernet0"] }
  casefold := id
  runtime := hostRuntime seesDevices

/-- The deployment of the two hosts. -/
def hostRequest : DeploymentRequest :=
  { topology := twoHosts, environmentFingerprint := { backendVersion := "8.2.2" } }

theorem seenAsPlanned_of_verified_twoHosts :
    SeenAsPlanned (hostDeployer true) twoHosts ((hostDeployer true).deploy hostRequest).2 :=
  seenAsPlanned_of_verified (hostDeployer true) hostRequest (Or.inl (by decide))

/-- The cable that an observation of a link names. -/
def observedCable : PhysicalEvent → Option String
  | .observeLink _ (.ok observation) => some observation.cable
  | _ => none

/-- The cable of a verified link need not be the planned one: where the backend cannot observe
cables, only the endpoints and the ports are compared. -/
theorem not_forall_cable_seen :
    ¬∀ (deployer : TopologyDeployer) (request : DeploymentRequest),
      (deployer.deploy request).1.status = .verified →
        ∀ link ∈ request.topology.links, ∃ observation, LinkMatches link observation ∧
          observation.cable = link.cable ∧
          .observeLink link (.ok observation) ∈ (deployer.deploy request).2 := by
  intro h
  have hverified : ((hostDeployer true).deploy hostRequest).1.status = .verified := by
    decide
  have hcables : ∀ event ∈ ((hostDeployer true).deploy hostRequest).2,
      observedCable event ≠ some "cross" := by
    decide
  obtain ⟨observation, -, hcable, hmem⟩ :=
    h (hostDeployer true) hostRequest hverified _ List.mem_cons_self
  exact hcables _ hmem (congrArg some hcable)

/-- What a mutating call is asked to bring about. -/
inductive EnsureTarget
  | device (device : Plans.DevicePlan)
  | module (module : Plans.ModulePlan)
  | link (link : Plans.LinkPlan)

/-- The target of a mutating call. -/
def targetOf : PhysicalEvent → Option EnsureTarget
  | .ensureDevice device _ => some (.device device)
  | .ensureModule module _ => some (.module module)
  | .ensureLink link _ => some (.link link)
  | _ => none

/-- The targets of a plan: devices, then modules, then links, each by their identifiers. -/
def plannedTargets (topology : Plans.TopologyPlan) : List EnsureTarget :=
  (sortedBy Plans.DevicePlan.semanticId topology.devices).map .device ++
    (sortedBy Plans.ModulePlan.moduleId topology.modules).map .module ++
    (sortedBy Plans.LinkPlan.semanticLinkId topology.links).map .link

lemma asks_ite {σ : Type} {c : Prop} [Decidable c] {result : PhysicalDeploymentResult} {a : σ} :
    Asks targetOf (if c then Interaction.raise result else pure a : Deploying σ) [] := by
  split_ifs
  · exact asks_raise
  · exact asks_pure

lemma asks_recordEnsured {kind : PhysicalObjectKind} {targetId : String}
    {failureCode : PhysicalDeploymentFailureCode} {result : PhysicalMutationResult × String} :
    Asks targetOf (recordEnsured request kind targetId failureCode state result) [] := asks_ite

lemma asks_ensureModule {module : Plans.ModulePlan} :
    Asks targetOf (deployer.ensureModule request state module) [.module module] := by
  unfold ensureModule
  split_ifs with hoffers
  · exact asks_exchange (fun _ => rfl) fun _ => asks_recordEnsured
  · -- a backend without the operation stops here, and has asked for a prefix of anything
    simp only [recordEnsured]
    rw [if_pos (by simp [failedMutation])]
    exact asks_raise

lemma asks_finish {α : Type} {scan : ObservationScan α} :
    Asks targetOf (scan.finish request) [] := by
  unfold ObservationScan.finish
  split
  · exact asks_pure
  · exact asks_raise

lemma asks_observeModule {scan : ObservationScan PhysicalModuleObservation}
    {module : Plans.ModulePlan} :
    Asks targetOf (deployer.observeModule capabilities scan module) [] := by
  unfold observeModule
  split
  · exact asks_pure
  split_ifs
  · exact asks_exchange (fun _ => rfl) fun _ => asks_pure
  · exact asks_pure

lemma asks_checkCapabilities :
    Asks targetOf (deployer.checkCapabilities request state modules) [] := by
  refine (asks_loop_nil (fun scan module => ?_) _ _).bind_nil fun scan => asks_ite
  unfold checkCapability
  split
  · exact asks_pure
  split_ifs
  · exact asks_exchange (fun _ => rfl) fun _ => asks_pure
  · exact asks_pure

lemma asks_ensureAndObserve :
    Asks targetOf (deployer.ensureAndObserve request state) (plannedTargets request.topology) := by
  have hplanned : plannedTargets request.topology =
      (sortedBy Plans.DevicePlan.semanticId request.topology.devices).flatMap
          (fun device => [.device device]) ++
        ((sortedBy Plans.ModulePlan.moduleId request.topology.modules).flatMap
            (fun module => [.module module]) ++
          ((sortedBy Plans.LinkPlan.semanticLinkId request.topology.links).flatMap
            (fun link => [.link link]) ++ [])) := by
    simp [plannedTargets, List.map_eq_flatMap]
  rw [hplanned]
  refine asks_checkCapabilities.bind_nil fun capabilities => ?_
  refine (asks_loop (f := deployer.ensureDevice request) (fun _ _ =>
    asks_exchange (fun _ => rfl) fun _ => asks_recordEnsured) _ _).bind fun state => ?_
  refine (asks_loop (f := deployer.ensureModule request)
    (fun _ _ => asks_ensureModule) _ _).bind fun state => ?_
  refine (asks_loop_nil (f := deployer.observeModule capabilities)
    (fun _ _ => asks_observeModule) _ _).bind_nil fun scan => ?_
  refine asks_finish.bind_nil fun _ => ?_
  refine (asks_loop_nil (f := deployer.observeDevice request) (fun _ _ =>
    asks_exchange (fun _ => rfl) fun _ => asks_pure) _ _).bind_nil fun scan => ?_
  refine asks_finish.bind_nil fun _ => ?_
  refine (asks_loop (f := deployer.ensureLink request) (fun _ _ =>
    asks_exchange (fun _ => rfl) fun _ => asks_recordEnsured) _ _).bind fun state => ?_
  refine (asks_loop_nil (f := deployer.observeLink) (fun _ _ =>
    asks_exchange (fun _ => rfl) fun _ => asks_pure) _ _).bind_nil fun scan => ?_
  refine asks_finish.bind_nil fun ⟨state, observedLinks⟩ => ?_
  simp only [finish]
  split
  · exact asks_raise
  · exact asks_pure

/-- The whole run asks for the targets of the plan. -/
lemma asks_deploying :
    Asks targetOf (deployer.deploying request) (plannedTargets request.topology) := by
  unfold deploying
  simp only
  split_ifs
  · exact asks_raise
  · have hworkspace : Asks targetOf (deployer.checkWorkspace request (initialState request)) [] :=
      asks_exchange (fun _ => rfl) fun _ => asks_ite
    exact hworkspace.bind_nil fun _ => asks_ensureAndObserve
  · exact asks_ensureAndObserve

/-- **A deployment changes what the plan names, in the order of the plan.**  In every run the
mutating calls are a prefix of the plan's devices, modules and links, each sorted by identifier, and
all of them when the deployment is reported as verified. -/
theorem ensuredTargets_prefix (deployer : TopologyDeployer) (request : DeploymentRequest) :
    (deployer.deploy request).2.filterMap targetOf <+: plannedTargets request.topology ∧
      ((deployer.deploy request).1.status = .verified →
        (deployer.deploy request).2.filterMap targetOf = plannedTargets request.topology) := by
  have hasks : Asks targetOf (deployer.deploying request) (plannedTargets request.topology) :=
    asks_deploying
  have h := (hasks []).and (ensures_deploying deployer request)
  unfold deploy
  cases hrun : (deployer.deploying request).run [] with
  | mk outcome history =>
    cases outcome with
    | ok result =>
      have htargets := (h.of_run_eq_ok hrun).1
      exact ⟨htargets ▸ List.prefix_refl _, fun _ => htargets⟩
    | error result =>
      obtain ⟨htargets, hhalted⟩ := h.of_run_eq_error hrun
      exact ⟨htargets, fun hstatus => absurd hstatus hhalted.status⟩

end TopologyDeployer

end PacketTracer
