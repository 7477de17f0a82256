import PacketTracer.Application.ConfigurationAcceptance

/-!
# The main loop of the configuration applicator

Every phase is scanned for the actions whose dependencies are settled, and these are dispatched
in one batch.  `LoopInvariant` relates the results collected so far to the history: one lemma says
that the scan of a phase only adds results of blocked actions, one that a phase preserves the
invariant, and from it that the whole loop does.
-/

namespace PacketTracer

open Dicts Interactions PyText

namespace ConfigurationApplicator

/-- An action has a result that satisfies the dependencies on it. -/
def Settled (results : Dict String ActionApplicationResult) (identifier : String) : Prop :=
  ∃ result, results.get? identifier = some result ∧ satisfiesApplyDependency result.status

/-- Every dependency of every action that an exchange dispatches has a latest result that
satisfies it. -/
def DependenciesSettled (retained : Dict String ActionApplicationResult)
    (before : List RuntimeEvent) (event : RuntimeEvent) : Prop :=
  ∀ action ∈ event.dispatched, ∀ dependency ∈ action.dependsOn, ∃ result,
    latestResult retained before dependency = some result ∧
      satisfiesApplyDependency result.status

lemma dependenciesSettled_of_quiet {retained : Dict String ActionApplicationResult}
    (before : List RuntimeEvent) (event : RuntimeEvent) (h : event.dispatched = []) :
    DependenciesSettled retained before event := by
  intro action haction
  simp [h] at haction

variable {results : Dict String ActionApplicationResult} {action : ConfigurationAction}

lemma blockedDependencies_eq_nil :
    blockedDependencies results action = [] ↔ ∀ d ∈ action.dependsOn, Settled results d := by
  simp [blockedDependencies, List.filter_eq_nil_iff, Settled, Option.any_eq_true]

/-! ## The scan of a phase -/

/-- What scanning the actions `done` yields. -/
structure ScanSpec (results : Dict String ActionApplicationResult)
    (done : List ConfigurationAction) (scan : PhaseScan) : Prop where
  /-- Results that were there stay. -/
  kept : ∀ identifier result, results.get? identifier = some result →
    scan.results.get? identifier = some result
  /-- New results are those of blocked actions. -/
  blocked : ∀ identifier result, scan.results.get? identifier = some result →
    results.get? identifier = some result ∨
      result.actionId = identifier ∧ result.status = .dependencyBlocked
  /-- A ready action has no result, and its dependencies are settled. -/
  ready : ∀ action ∈ scan.ready, action ∈ done ∧ scan.results.get? action.id = none ∧
    ∀ d ∈ action.dependsOn, Settled scan.results d
  /-- Every scanned action has a result or is ready. -/
  covered : ∀ action ∈ done, (scan.results.get? action.id).isSome ∨ action ∈ scan.ready
  /-- No action is ready twice. -/
  nodup : (scan.ready.map ConfigurationAction.id).Nodup

/-- One iteration of the scan. -/
lemma scanSpec_scanAction {done : List ConfigurationAction} {scan : PhaseScan}
    (h : ScanSpec results done scan) (hnew : action.id ∉ done.map ConfigurationAction.id) :
    ScanSpec results (done ++ [action]) (scanAction scan action) := by
  have hkeep : ∀ a ∈ done, a ∈ done ++ [action] := fun a ha => List.mem_append_left _ ha
  have hreadyId : ∀ a ∈ scan.ready, action.id ≠ a.id := fun a ha heq =>
    hnew (List.mem_map.mpr ⟨a, (h.ready a ha).1, heq.symm⟩)
  have hlast : ∀ a, a ∈ done ++ [action] → a ∈ done ∨ a = action := by simp
  unfold scanAction
  by_cases hcontains : scan.results.contains action.id
  · rw [if_pos hcontains]
    refine ⟨h.kept, h.blocked, fun a ha => ⟨hkeep a (h.ready a ha).1, (h.ready a ha).2⟩, ?_,
      h.nodup⟩
    intro a ha
    rcases hlast a ha with ha | rfl
    · exact h.covered a ha
    · exact Or.inl hcontains
  · rw [if_neg hcontains]
    have hnone : scan.results.get? action.id = none := by
      simpa [Dict.contains] using hcontains
    by_cases hblocked : blockedDependencies scan.results action = []
    · simp only [hblocked, ne_eq, not_true_eq_false, if_false]
      refine ⟨h.kept, h.blocked, fun a ha => ?_, fun a ha => ?_, ?_⟩
      · rcases List.mem_append.mp ha with ha | ha
        · exact ⟨hkeep a (h.ready a ha).1, (h.ready a ha).2⟩
        · obtain rfl : a = action := by simpa using ha
          exact ⟨by simp, hnone, blockedDependencies_eq_nil.mp hblocked⟩
      · rcases hlast a ha with ha | rfl
        · exact (h.covered a ha).imp_right fun hready => List.mem_append_left _ hready
        · exact Or.inr (by simp)
      · rw [List.map_append]
        refine List.nodup_append.mpr ⟨h.nodup, by simp, fun identifier hidentifier other hother => ?_⟩
        obtain rfl : other = action.id := by simpa using hother
        obtain ⟨a, ha, rfl⟩ := List.mem_map.mp hidentifier
        exact (hreadyId a ha).symm
    · simp only [ne_eq, hblocked, not_false_eq_true, if_true]
      have hstays : ∀ identifier result, scan.results.get? identifier = some result →
          (scan.results.set action.id
            (blockedResult action (blockedDependencies scan.results action))).get? identifier =
              some result := by
        intro identifier result hget
        have hne : action.id ≠ identifier := by
          rintro rfl
          simp [hnone] at hget
        rw [Dict.get?_set, if_neg hne, hget]
      refine ⟨fun identifier result hget => hstays _ _ (h.kept identifier result hget), ?_, ?_, ?_,
        h.nodup⟩
      · intro identifier result hget
        rw [Dict.get?_set] at hget
        split at hget
        · rename_i heq
          cases hget
          exact Or.inr ⟨heq, rfl⟩
        · exact h.blocked identifier result hget
      · intro a ha
        obtain ⟨hdone, hget, hsettled⟩ := h.ready a ha
        refine ⟨hkeep a hdone, ?_, fun d hd => ?_⟩
        · rw [Dict.get?_set, if_neg (hreadyId a ha), hget]
        · obtain ⟨result, hresult, hstatus⟩ := hsettled d hd
          exact ⟨result, hstays d result hresult, hstatus⟩
      · intro a ha
        rcases hlast a ha with ha | rfl
        · refine (h.covered a ha).imp_left fun hsome => ?_
          obtain ⟨result, hresult⟩ := Option.isSome_iff_exists.mp hsome
          rw [hstays _ _ hresult]
          rfl
        · left
          simp

lemma scanSpec_foldl
    {actions : List ConfigurationAction} (h : (actions.map ConfigurationAction.id).Nodup) :
    ScanSpec results actions (actions.foldl scanAction { ready := [], results := results }) := by
  induction actions using List.reverseRecOn with
  | nil =>
    exact ⟨fun _ _ hget => hget, fun _ _ hget => Or.inl hget, fun a ha => by simp at ha,
      fun a ha => by simp at ha, by simp⟩
  | append_singleton actions action ih =>
    rw [List.map_append, List.nodup_append] at h
    rw [List.foldl_append]
    refine scanSpec_scanAction (ih h.1) fun hmem => ?_
    exact h.2.2 action.id hmem action.id (by simp) rfl

lemma ScanSpec.settled_iff {done : List ConfigurationAction} {scan : PhaseScan}
    (h : ScanSpec results done scan) {identifier : String} :
    Settled scan.results identifier ↔ Settled results identifier := by
  constructor
  · rintro ⟨result, hget, hstatus⟩
    rcases h.blocked identifier result hget with hget | ⟨-, hblocked⟩
    · exact ⟨result, hget, hstatus⟩
    · simp [hblocked, satisfiesApplyDependency] at hstatus
  · exact fun ⟨result, hget, hstatus⟩ => ⟨result, h.kept _ _ hget, hstatus⟩

/-- A new result of the scan is that of an action with a dependency that is not settled. -/
lemma unsettled_of_foldl_scanAction {actions : List ConfigurationAction}
    (h : (actions.map ConfigurationAction.id).Nodup) {identifier : String}
    {result : ActionApplicationResult}
    (hget : (actions.foldl scanAction
      { ready := [], results := results }).results.get? identifier = some result) :
    results.get? identifier = some result ∨ results.get? identifier = none ∧
      ∃ action ∈ actions, action.id = identifier ∧ ¬∀ d ∈ action.dependsOn, Settled results d := by
  induction actions using List.reverseRecOn with
  | nil => exact Or.inl hget
  | append_singleton actions action ih =>
    rw [List.map_append, List.nodup_append] at h
    have hscan : ScanSpec results actions _ := scanSpec_foldl h.1
    have hmore : ∀ {p : ConfigurationAction → Prop}, (∃ a ∈ actions, p a) →
        ∃ a ∈ actions ++ [action], p a := fun ⟨a, ha, hp⟩ => ⟨a, List.mem_append_left _ ha, hp⟩
    rw [List.foldl_append, List.foldl_cons, List.foldl_nil, scanAction] at hget
    dsimp only at hget
    split_ifs at hget with hcontains hblocked
    · exact (ih h.1 hget).imp_right (And.imp_right hmore)
    · rw [Dict.get?_set] at hget
      split_ifs at hget with hid
      · refine Or.inr ⟨?_, action, by simp, hid, fun hsettled => hblocked ?_⟩
        · by_contra hsome
          obtain ⟨old, hold⟩ := Option.ne_none_iff_exists'.mp hsome
          exact hcontains (Option.isSome_of_eq_some (hid ▸ hscan.kept identifier old hold))
        · exact blockedDependencies_eq_nil.mpr fun d hd => hscan.settled_iff.mpr (hsettled d hd)
      · exact (ih h.1 hget).imp_right (And.imp_right hmore)
    · exact (ih h.1 hget).imp_right (And.imp_right hmore)

/-! ## The invariant of the main loop -/

/-- The main loop dispatches copies of planned mutations, in the order of their dependencies. -/
structure LoopTrace (plan : ConfigurationPlan) (prepared : PreparedApplication)
    (deferredIds : List String) (trace : List RuntimeEvent) : Prop where
  ordered : EachAfter (DependenciesSettled prepared.scope.retained) trace
  planned : ∀ event ∈ trace, ∀ action ∈ event.dispatched, ∃ planned ∈ plan.actions,
    planned.id ∈ prepared.scope.mutationIds ∧
      action = runtimeAction prepared.deployedNames deferredIds planned

/-- How the results collected so far relate to the history. -/
structure LoopInvariant (plan : ConfigurationPlan) (prepared : PreparedApplication)
    (deferredIds : List String) (results : Dict String ActionApplicationResult)
    (trace : List RuntimeEvent) : Prop extends LoopTrace plan prepared deferredIds trace where
  /-- Results are stored under the identifier they carry. -/
  keyed : ∀ identifier result, results.get? identifier = some result →
    result.actionId = identifier
  /-- A result that satisfies dependencies is the latest of its action. -/
  latest : ∀ identifier result, results.get? identifier = some result →
    satisfiesApplyDependency result.status →
      latestResult prepared.scope.retained trace identifier = some result
  /-- The other results are failures, refusals and blocked actions. -/
  status : ∀ identifier result, results.get? identifier = some result →
    satisfiesApplyDependency result.status ∨ result.status = .failed ∨
      result.status = .skipped ∨ result.status = .dependencyBlocked
  /-- What an applied action depends on is settled. -/
  settled : ∀ action ∈ plan.actions, Settled results action.id →
    ∀ d ∈ action.dependsOn, Settled results d
  /-- An action outside the mutation scope has a result from the start. -/
  unmutated : ∀ action ∈ plan.actions, action.id ∉ prepared.scope.mutationIds →
    (results.get? action.id).isSome
  /-- The result of a dispatched action is the one that its dispatch gave. -/
  recorded : ∀ event ∈ trace, ∀ action ∈ event.dispatched, ∃ result,
    event.result? action.id = some result ∧ results.get? action.id = some result
  /-- No action is dispatched twice. -/
  once : (dispatchedIds trace).Nodup

/-- What one phase does to the results: it adds those of dispatched actions, whose dependencies
were settled, and those of blocked actions. -/
structure PhaseStep (plan : ConfigurationPlan) (phase : ConfigurationPhase)
    (results results' : Dict String ActionApplicationResult) (trace trace' : List RuntimeEvent) :
    Prop where
  grows : trace ⊆ trace'
  kept : ∀ identifier result, results.get? identifier = some result →
    results'.get? identifier = some result
  fresh : ∀ identifier result, results'.get? identifier = some result →
    results.get? identifier = some result ∨ results.get? identifier = none ∧
      ∃ action ∈ plan.actions, action.id = identifier ∧ action.phase = phase ∧
        ((∀ d ∈ action.dependsOn, Settled results d) ∧
            (∃ event ∈ trace', event.result? identifier = some result) ∨
          (¬∀ d ∈ action.dependsOn, Settled results d) ∧ result.status = .dependencyBlocked)

/-- Every dependency of an action has a result from the start or is an action of an earlier
phase. -/
def DependsOnEarlier (plan : ConfigurationPlan) (start : Dict String ActionApplicationResult)
    (action : ConfigurationAction) : Prop :=
  ∀ d ∈ action.dependsOn, (start.get? d).isSome ∨
    ∃ dependency ∈ plan.actions, dependency.id = d ∧ dependency.phase.value < action.phase.value

/-- Every dispatched mutation was applied. -/
def MutationsApplied (trace : List RuntimeEvent) : Prop :=
  ∀ event ∈ trace, ∀ identifier result, event.result? identifier = some result →
    satisfiesApplyDependency result.status

/-- What the phases `done` have made of the results `start`. -/
structure PhasesDone (plan : ConfigurationPlan) (start : Dict String ActionApplicationResult)
    (done : List ConfigurationPhase) (results : Dict String ActionApplicationResult)
    (trace : List RuntimeEvent) : Prop where
  kept : ∀ identifier result, start.get? identifier = some result →
    results.get? identifier = some result
  covered : ∀ action ∈ plan.actions, action.phase ∈ done → (results.get? action.id).isSome
  absent : ∀ identifier, start.get? identifier = none →
    (∀ action ∈ plan.actions, action.id = identifier → action.phase ∉ done) →
      results.get? identifier = none
  /-- An action with a dependency that is not earlier is blocked. -/
  blocked : ∀ action ∈ plan.actions, start.get? action.id = none →
    ¬DependsOnEarlier plan start action → ∀ result, results.get? action.id = some result →
      result.status = .dependencyBlocked
  /-- Where there is none, nothing is blocked that does not wait for a failure. -/
  applied : MutationsApplied trace →
    (∀ action ∈ plan.actions, ∀ result, start.get? action.id = some result →
      satisfiesApplyDependency result.status) →
    (∀ action ∈ plan.actions, start.get? action.id = none → DependsOnEarlier plan start action) →
    ∀ action ∈ plan.actions, ∀ result, results.get? action.id = some result →
      satisfiesApplyDependency result.status

lemma phasesDone_nil {plan : ConfigurationPlan} {start : Dict String ActionApplicationResult}
    {trace : List RuntimeEvent} : PhasesDone plan start [] start trace where
  kept _ _ hget := hget
  covered _ _ hphase := absurd hphase List.not_mem_nil
  absent _ hnone _ := hnone
  blocked action _ hnone _ result hget := by simp [hnone] at hget
  applied _ hstart _ := hstart

/-- **One phase more.**  The phases before it are the smaller ones. -/
lemma PhasesDone.step {plan : ConfigurationPlan}
    {start results results' : Dict String ActionApplicationResult}
    {done : List ConfigurationPhase} {phase : ConfigurationPhase} {trace trace' : List RuntimeEvent}
    (h : PhasesDone plan start done results trace)
    (hnodup : (plan.actions.map ConfigurationAction.id).Nodup)
    (hclosed : ∀ action ∈ plan.actions, ∀ d ∈ action.dependsOn,
      d ∈ plan.actions.map ConfigurationAction.id)
    (hdone : ∀ action ∈ plan.actions, action.phase ∈ done ↔ action.phase.value < phase.value)
    (hstep : PhaseStep plan phase results results' trace trace')
    (hcovered : ∀ action ∈ plan.actions, action.phase = phase → (results'.get? action.id).isSome) :
    PhasesDone plan start (done ++ [phase]) results' trace' := by
  have hsame : ∀ action ∈ plan.actions, ∀ other ∈ plan.actions, other.id = action.id →
      other = action := fun action haction other hother hid =>
    List.inj_on_of_nodup_map hnodup hother haction hid
  constructor
  · exact fun identifier result hget => hstep.kept _ _ (h.kept _ _ hget)
  · intro action haction hmem
    rcases List.mem_concat_iff.mp hmem with hmem | hmem
    · obtain ⟨result, hget⟩ := Option.isSome_iff_exists.mp (h.covered action haction hmem)
      exact Option.isSome_of_eq_some (hstep.kept _ _ hget)
    · exact hcovered action haction hmem
  · intro identifier hstart hlater
    by_contra hsome
    obtain ⟨result, hget⟩ := Option.ne_none_iff_exists'.mp hsome
    rcases hstep.fresh identifier result hget with hold | ⟨-, action, haction, hid, hcurrent, -⟩
    · have hnone := h.absent identifier hstart fun action haction hid hmem =>
        hlater action haction hid (List.mem_append_left _ hmem)
      simp [hnone] at hold
    · exact hlater action haction hid (by simp [hcurrent])
  · intro action haction hstart hearlier result hget
    rcases hstep.fresh action.id result hget with hold | ⟨-, other, hother, hid, hcurrent, hcase⟩
    · exact h.blocked action haction hstart hearlier result hold
    obtain rfl := hsame action haction other hother hid
    refine (hcase.resolve_left fun hdispatched => hearlier fun d hd => ?_).2
    by_contra hlate
    rw [not_or, not_exists] at hlate
    -- a dependency of this phase or a later one has no result yet
    have hnone := h.absent d (by simpa using hlate.1) fun dependency hmem hid hearly =>
      hlate.2 dependency
        ⟨hmem, hid, hcurrent ▸ (hdone dependency hmem).mp hearly⟩
    obtain ⟨result, hresult, -⟩ := hdispatched.1 d hd
    simp [hnone] at hresult
  · intro happlied hstart hearlier planned hplanned result hget
    have hbefore := h.applied (fun event hevent => happlied event (hstep.grows hevent)) hstart
      hearlier
    rcases hstep.fresh planned.id result hget with
      hold | ⟨hnone, action, haction, hid, hcurrent, hcase⟩
    · exact hbefore planned hplanned result hold
    rcases hcase with ⟨-, event, hevent, hresult⟩ | ⟨hopen, -⟩
    · exact happlied event hevent planned.id result hresult
    rw [← hid] at hnone
    have hfresh : start.get? action.id = none := by
      by_contra hsome
      obtain ⟨old, hold⟩ := Option.ne_none_iff_exists'.mp hsome
      simp [h.kept _ _ hold] at hnone
    refine absurd (fun d hd => ?_) hopen
    obtain ⟨dependency, hmem, rfl⟩ := List.mem_map.mp (hclosed action haction d hd)
    have hsome : (results.get? dependency.id).isSome := by
      rcases hearlier action haction hfresh _ hd with hkept | ⟨other, hother, hsame', hlt⟩
      · obtain ⟨old, hold⟩ := Option.isSome_iff_exists.mp hkept
        exact Option.isSome_of_eq_some (h.kept _ _ hold)
      · rw [← hsame']
        exact h.covered other hother ((hdone other hother).mpr (hcurrent ▸ hlt))
    obtain ⟨old, hold⟩ := Option.isSome_iff_exists.mp hsome
    exact ⟨old, hold, hbefore dependency hmem old hold⟩

section MainLoop

variable {applicator : ConfigurationApplicator} {plan : ConfigurationPlan}
  {request : ApplyRequest} {prepared : PreparedApplication} {deferredIds : List String}
  {results : Dict String ActionApplicationResult} {trace : List RuntimeEvent}

lemma get?_capabilityRefusalResults_cases {refusals : List CapabilityRefusal} {identifier : String}
    {result : ActionApplicationResult}
    (h : (capabilityRefusalResults refusals results).get? identifier = some result) :
    results.get? identifier = some result ∨
      result.actionId = identifier ∧ result.status = .skipped := by
  rcases Dict.mem_or_get?_of_get?_setAll h with hmem | ⟨-, hget⟩
  · obtain ⟨refusal, -, heq⟩ := List.mem_map.mp hmem
    simp only [Prod.mk.injEq] at heq
    obtain ⟨rfl, rfl⟩ := heq
    exact Or.inr ⟨rfl, rfl⟩
  · exact Or.inl hget

lemma AcceptedPlan.get?_capabilityRefusalResults (hplan : AcceptedPlan plan request prepared)
    {identifier : String} (hmutation : identifier ∉ prepared.scope.mutationIds) :
    (capabilityRefusalResults prepared.refusals prepared.scope.retained).get? identifier =
      prepared.scope.retained.get? identifier := by
  refine Dict.get?_setAll_of_forall_ne fun e he heq => ?_
  obtain ⟨refusal, hrefusal, rfl⟩ := List.mem_map.mp he
  exact hmutation (heq ▸ hplan.refusals refusal hrefusal)

/-- The invariant holds before the first phase. -/
lemma loopInvariant_initial (hplan : AcceptedPlan plan request prepared) (htrace : Quiet trace) :
    LoopInvariant plan prepared deferredIds
      (capabilityRefusalResults prepared.refusals prepared.scope.retained) trace := by
  have hnone : ∀ event ∈ trace, ∀ action ∈ event.dispatched, False := by
    intro event hevent action haction
    simp [htrace event hevent] at haction
  have hlatest : ∀ identifier, latestResult prepared.scope.retained trace identifier =
      prepared.scope.retained.get? identifier := by
    intro identifier
    have hnil : latestResult prepared.scope.retained ([] ++ trace) identifier =
        latestResult prepared.scope.retained [] identifier := latestResult_append_quiet htrace
    simpa using hnil
  refine
    { ordered := ?_
      planned := fun event hevent action haction => (hnone event hevent action haction).elim
      keyed := fun identifier result hget => ?_
      latest := fun identifier result hget hstatus => ?_
      status := fun identifier result hget => ?_
      settled := fun action haction hsettled d hd => ?_
      unmutated := fun action haction hmutation => ?_
      recorded := fun event hevent action haction => (hnone event hevent action haction).elim
      once := by rw [dispatchedIds_of_quiet htrace]; exact List.nodup_nil }
  · simpa using eachAfter_append_quiet eachAfter_nil htrace dependenciesSettled_of_quiet
  · rcases get?_capabilityRefusalResults_cases hget with hget | ⟨hid, -⟩
    · exact (hplan.retained identifier result hget).1
    · exact hid
  · rcases get?_capabilityRefusalResults_cases hget with hget | ⟨-, hskipped⟩
    · rw [hlatest, hget]
    · simp [hskipped, satisfiesApplyDependency] at hstatus
  · rcases get?_capabilityRefusalResults_cases hget with hget | ⟨-, hskipped⟩
    · exact Or.inl (hplan.retained identifier result hget).2.2
    · exact Or.inr (Or.inr (Or.inl hskipped))
  · obtain ⟨result, hget, hstatus⟩ := hsettled
    rcases get?_capabilityRefusalResults_cases hget with hget | ⟨-, hskipped⟩
    · have hmutation := (hplan.retained action.id result hget).2.1
      have hdmutation := (hplan.unmutated action haction hmutation).2 d hd
      obtain ⟨dependency, hdependency, rfl⟩ := List.mem_map.mp (hplan.closed action haction d hd)
      obtain ⟨dresult, hdresult⟩ := Option.isSome_iff_exists.mp
        (hplan.unmutated dependency hdependency hdmutation).1
      exact ⟨dresult, by rw [hplan.get?_capabilityRefusalResults hdmutation, hdresult],
        (hplan.retained _ dresult hdresult).2.2⟩
    · simp [hskipped, satisfiesApplyDependency] at hstatus
  · rw [hplan.get?_capabilityRefusalResults hmutation]
    exact (hplan.unmutated action haction hmutation).1

/-- Scanning a phase preserves the invariant. -/
lemma LoopInvariant.scan (h : LoopInvariant plan prepared deferredIds results trace)
    {done : List ConfigurationAction} {scan : PhaseScan} (hscan : ScanSpec results done scan) :
    LoopInvariant plan prepared deferredIds scan.results trace := by
  have hold : ∀ identifier result, scan.results.get? identifier = some result →
      satisfiesApplyDependency result.status → results.get? identifier = some result := by
    intro identifier result hget hstatus
    rcases hscan.blocked identifier result hget with hget | ⟨-, hblocked⟩
    · exact hget
    · simp [hblocked, satisfiesApplyDependency] at hstatus
  have hsettled : ∀ identifier, Settled results identifier → Settled scan.results identifier :=
    fun identifier ⟨result, hget, hstatus⟩ => ⟨result, hscan.kept _ _ hget, hstatus⟩
  exact
    { toLoopTrace := h.toLoopTrace
      keyed := fun identifier result hget =>
        (hscan.blocked identifier result hget).elim (h.keyed identifier result) And.left
      latest := fun identifier result hget hstatus =>
        h.latest identifier result (hold identifier result hget hstatus) hstatus
      status := fun identifier result hget =>
        (hscan.blocked identifier result hget).elim (h.status identifier result)
          fun hblocked => Or.inr (Or.inr (Or.inr hblocked.2))
      settled := fun action haction ⟨result, hget, hstatus⟩ d hd =>
        hsettled d (h.settled action haction ⟨result, hold _ _ hget hstatus, hstatus⟩ d hd)
      unmutated := fun action haction hmutation => by
        obtain ⟨result, hget⟩ := Option.isSome_iff_exists.mp (h.unmutated action haction hmutation)
        rw [hscan.kept _ _ hget]
        rfl
      recorded := fun event hevent action haction => by
        obtain ⟨result, hresult, hget⟩ := h.recorded event hevent action haction
        exact ⟨result, hresult, hscan.kept _ _ hget⟩
      once := h.once }

/-- Dispatching a batch of actions without results, whose dependencies are settled, preserves the
invariant. -/
lemma LoopInvariant.dispatch (h : LoopInvariant plan prepared deferredIds results trace)
    (hnodup : (plan.actions.map ConfigurationAction.id).Nodup)
    {batch : List ConfigurationAction} (hbatch : ∀ action ∈ batch, action ∈ plan.actions ∧
      results.get? action.id = none ∧ ∀ d ∈ action.dependsOn, Settled results d)
    (hbatchNodup : (batch.map ConfigurationAction.id).Nodup)
    (answer : Except String (List RuntimeActionMutation)) :
    LoopInvariant plan prepared deferredIds (results.update (dispatchResults batch answer))
      (trace ++ [RuntimeEvent.applyActions
        (batch.map (runtimeAction prepared.deployedNames deferredIds)) answer]) := by
  set event := RuntimeEvent.applyActions
    (batch.map (runtimeAction prepared.deployedNames deferredIds)) answer with hevent
  have hresult : ∀ identifier,
      event.result? identifier = (dispatchResults batch answer).get? identifier := by
    intro identifier
    simp only [hevent, RuntimeEvent.result?, dispatchResults_map_runtimeAction]
  have hkept : ∀ identifier result, results.get? identifier = some result →
      (results.update (dispatchResults batch answer)).get? identifier = some result := by
    intro identifier result hget
    have hnone : (dispatchResults batch answer).get? identifier = none := by
      rw [← Option.not_isSome_iff_eq_none, isSome_get?_dispatchResults]
      rintro hmem
      obtain ⟨action, haction, rfl⟩ := List.mem_map.mp hmem
      rw [(hbatch action haction).2.1] at hget
      cases hget
    rw [Dict.get?_update, hnone, Option.none_or, hget]
  have hsettled : ∀ identifier, Settled results identifier →
      Settled (results.update (dispatchResults batch answer)) identifier :=
    fun _ h => h.imp fun _ h => h.imp_left (hkept _ _)
  have hcases : ∀ identifier result,
      (results.update (dispatchResults batch answer)).get? identifier = some result →
      (dispatchResults batch answer).get? identifier = some result ∨
        (dispatchResults batch answer).get? identifier = none ∧
          results.get? identifier = some result := by
    intro identifier result hget
    rw [Dict.get?_update] at hget
    cases hdispatch : (dispatchResults batch answer).get? identifier with
    | some r =>
      rw [hdispatch, Option.some_or] at hget
      exact Or.inl hget
    | none =>
      rw [hdispatch, Option.none_or] at hget
      exact Or.inr ⟨rfl, hget⟩
  refine
    { ordered := eachAfter_concat.mpr ⟨h.ordered, fun action haction d hd => ?_⟩
      planned := fun e he action haction => ?_
      keyed := fun identifier result hget => ?_
      latest := fun identifier result hget hstatus => ?_
      status := fun identifier result hget => ?_
      settled := fun action haction hsettled' d hd => ?_
      unmutated := fun action haction hmutation => ?_
      recorded := fun e he action haction => ?_
      once := ?_ }
  · obtain ⟨planned, hplanned, rfl⟩ := List.mem_map.mp haction
    obtain ⟨result, hget, hstatus⟩ := (hbatch planned hplanned).2.2 d hd
    exact ⟨result, h.latest d result hget hstatus, hstatus⟩
  · rcases List.mem_append.mp he with he | he
    · exact h.planned e he action haction
    obtain rfl : e = event := by simpa using he
    obtain ⟨planned, hplanned, rfl⟩ := List.mem_map.mp haction
    obtain ⟨hmem, hnone, -⟩ := hbatch planned hplanned
    refine ⟨planned, hmem, ?_, rfl⟩
    by_contra hmutation
    simpa [hnone] using h.unmutated planned hmem hmutation
  · rcases hcases identifier result hget with hget | ⟨-, hget⟩
    · exact (spec_get?_dispatchResults hget).1
    · exact h.keyed identifier result hget
  · rw [latestResult_concat, hresult]
    rcases hcases identifier result hget with hget | ⟨hnone, hget⟩
    · rw [hget, Option.some_or]
    · rw [hnone, Option.none_or, h.latest identifier result hget hstatus]
  · rcases hcases identifier result hget with hget | ⟨-, hget⟩
    · exact (spec_get?_dispatchResults hget).2.imp_right Or.inl
    · exact h.status identifier result hget
  · obtain ⟨result, hget, hstatus⟩ := hsettled'
    rcases hcases action.id result hget with hdispatch | ⟨-, hget⟩
    · obtain ⟨planned, hplanned, hid, -⟩ := exists_of_get?_dispatchResults hdispatch
      obtain rfl : planned = action :=
        List.inj_on_of_nodup_map hnodup (hbatch planned hplanned).1 haction hid
      exact hsettled d ((hbatch planned hplanned).2.2 d hd)
    · exact hsettled d (h.settled action haction ⟨result, hget, hstatus⟩ d hd)
  · obtain ⟨result, hget⟩ := Option.isSome_iff_exists.mp (h.unmutated action haction hmutation)
    rw [hkept _ _ hget]
    rfl
  · rcases List.mem_append.mp he with he | he
    · obtain ⟨result, hres, hget⟩ := h.recorded e he action haction
      exact ⟨result, hres, hkept _ _ hget⟩
    obtain rfl : e = event := by simpa using he
    obtain ⟨planned, hplanned, rfl⟩ := List.mem_map.mp haction
    have hid : planned.id ∈ batch.map ConfigurationAction.id := List.mem_map_of_mem hplanned
    have hsome : ((dispatchResults batch answer).get? planned.id).isSome :=
      isSome_get?_dispatchResults.mpr hid
    obtain ⟨result, hget⟩ := Option.isSome_iff_exists.mp hsome
    refine ⟨result, by rw [hresult, id_runtimeAction, hget], ?_⟩
    rw [Dict.get?_update, id_runtimeAction, hget, Option.some_or]
  · have hids : dispatchedIds [event] = batch.map ConfigurationAction.id := by
      simp [dispatchedIds, hevent, RuntimeEvent.dispatched, Function.comp_def]
    rw [dispatchedIds_append, hids]
    refine List.nodup_append.mpr ⟨h.once, hbatchNodup, fun identifier hdone other hother => ?_⟩
    rintro rfl
    obtain ⟨e, he, action, haction, rfl⟩ := mem_dispatchedIds.mp hdone
    obtain ⟨planned, hplanned, hid⟩ := List.mem_map.mp hother
    obtain ⟨result, -, hget⟩ := h.recorded e he action haction
    rw [← hid, (hbatch planned hplanned).2.1] at hget
    cases hget

/-- How the main loop ends when it raises: the phase observer raised, and the history is that of
the main loop. -/
def RaisedInLoop (plan : ConfigurationPlan) (prepared : PreparedApplication)
    (deferredIds : List String) (error : RaisedError) (trace : List RuntimeEvent) : Prop :=
  (∃ message, error = .observerError message) ∧ LoopTrace plan prepared deferredIds trace

lemma ensures_observe {call : Option (List RuntimeEvent → Except String Unit)}
    {Q : Unit → List RuntimeEvent → Prop} {E : RaisedError → List RuntimeEvent → Prop}
    (hQ : Q () trace) (hE : ∀ message, E (.observerError message) trace) :
    (observe call).Ensures trace Q E := by
  rcases call with _ | call
  · exact hQ
  refine Interaction.ensures_callback hQ fun e he => ?_
  cases hcall : call trace with
  | ok u => simp [hcall, Except.mapError] at he
  | error message =>
    simp only [hcall, Except.mapError, Except.error.injEq] at he
    exact he ▸ hE message

/-- **One phase.**  It preserves the invariant and gives every action of the phase a result. -/
lemma ensures_applyPhase (hplan : AcceptedPlan plan request prepared)
    (h : LoopInvariant plan prepared deferredIds results trace) (phase : ConfigurationPhase) :
    (applicator.applyPhase plan request prepared.deployedNames deferredIds results phase).Ensures
      trace
      (fun results' trace' => LoopInvariant plan prepared deferredIds results' trace' ∧
        (∀ action ∈ plan.actions, action.phase = phase → (results'.get? action.id).isSome) ∧
        PhaseStep plan phase results results' trace trace')
      (RaisedInLoop plan prepared deferredIds) := by
  have hnodup : ((plan.actions.filter (·.phase = phase)).map ConfigurationAction.id).Nodup :=
    hplan.nodup.sublist (List.filter_sublist.map _)
  have hscan : ScanSpec results (plan.actions.filter (·.phase = phase))
      (scanPhase plan results phase) := scanSpec_foldl hnodup
  have hmem : ∀ action ∈ plan.actions, action.phase = phase →
      action ∈ plan.actions.filter (·.phase = phase) := fun action haction hphase =>
    List.mem_filter.mpr ⟨haction, by simpa using hphase⟩
  have hfresh : ∀ identifier result,
      (scanPhase plan results phase).results.get? identifier = some result →
      results.get? identifier = some result ∨ results.get? identifier = none ∧
        ∃ action ∈ plan.actions, action.id = identifier ∧ action.phase = phase ∧
          (¬∀ d ∈ action.dependsOn, Settled results d) ∧
            result.status = .dependencyBlocked := by
    intro identifier result hget
    rcases unsettled_of_foldl_scanAction hnodup hget with hold | ⟨hnone, action, haction, hid, hopen⟩
    · exact Or.inl hold
    · obtain ⟨hplanned, hphase⟩ := List.mem_filter.mp haction
      refine Or.inr ⟨hnone, action, hplanned, hid, of_decide_eq_true hphase, hopen, ?_⟩
      refine ((hscan.blocked identifier result hget).resolve_left fun hold => ?_).2
      simp [hnone] at hold
  have hinvariant := h.scan hscan
  unfold applyPhase
  by_cases hready : (scanPhase plan results phase).ready = []
  · rw [if_pos hready]
    refine ⟨hinvariant, fun action haction hphase => ?_, fun _ h => h, hscan.kept,
      fun identifier result hget => ?_⟩
    · rcases hscan.covered action (hmem action haction hphase) with hsome | hmem
      · exact hsome
      · simp [hready] at hmem
    · refine (hfresh identifier result hget).imp_right (And.imp_right ?_)
      rintro ⟨action, haction, hid, hphase, hcase⟩
      exact ⟨action, haction, hid, hphase, Or.inr hcase⟩
  · rw [if_neg hready]
    simp only [applyReadyActions, Interaction.ensures_bind, Interaction.ensures_exchange,
      Interaction.ensures_pure]
    have hbatch : ∀ action ∈ (scanPhase plan results phase).ready, action ∈ plan.actions ∧
        (scanPhase plan results phase).results.get? action.id = none ∧
        ∀ d ∈ action.dependsOn, Settled (scanPhase plan results phase).results d :=
      fun action haction => ⟨(List.mem_filter.mp (hscan.ready action haction).1).1,
        (hscan.ready action haction).2⟩
    set answer := applicator.runtime.applyActions trace
      ((scanPhase plan results phase).ready.map
        (runtimeAction prepared.deployedNames deferredIds))
    have hdispatched := hinvariant.dispatch hplan.nodup hbatch hscan.nodup answer
    refine ensures_observe ⟨hdispatched, fun action haction hphase => ?_, fun event hevent =>
      List.mem_append_left _ hevent, fun identifier result hget => ?_,
      fun identifier result hget => ?_⟩ fun message => ⟨⟨message, rfl⟩, hdispatched.toLoopTrace⟩
    · rw [Dict.get?_update, Option.isSome_or]
      rcases hscan.covered action (hmem action haction hphase) with hsome | hmem
      · simp [hsome]
      · have hmapped : action.id ∈
            (scanPhase plan results phase).ready.map ConfigurationAction.id :=
          List.mem_map_of_mem hmem
        simp [isSome_get?_dispatchResults.mpr hmapped]
    · rw [Dict.get?_update]
      rcases hnew : (dispatchResults (scanPhase plan results phase).ready answer).get? identifier
          with _ | new
      · rw [Option.none_or, hscan.kept _ _ hget]
      obtain ⟨action, haction, hid⟩ := List.mem_map.mp
        (isSome_get?_dispatchResults.mp (Option.isSome_of_eq_some hnew))
      have hnone := (hscan.ready action haction).2.1
      rw [hid, hscan.kept _ _ hget] at hnone
      cases hnone
    · rw [Dict.get?_update] at hget
      rcases hnew : (dispatchResults (scanPhase plan results phase).ready answer).get? identifier
          with _ | new
      · rw [hnew, Option.none_or] at hget
        refine (hfresh identifier result hget).imp_right (And.imp_right ?_)
        rintro ⟨action, haction, hid, hphase, hcase⟩
        exact ⟨action, haction, hid, hphase, Or.inr hcase⟩
      rw [hnew, Option.some_or] at hget
      obtain ⟨action, haction, rfl⟩ := List.mem_map.mp
        (isSome_get?_dispatchResults.mp (Option.isSome_of_eq_some hnew))
      obtain ⟨hfiltered, hnone, hsettled⟩ := hscan.ready action haction
      obtain ⟨hplanned, hphase⟩ := List.mem_filter.mp hfiltered
      refine Or.inr ⟨?_, action, hplanned, rfl, of_decide_eq_true hphase, Or.inl
        ⟨fun d hd => hscan.settled_iff.mp (hsettled d hd), _, List.mem_append_right _
          (List.mem_singleton_self _), ?_⟩⟩
      · by_contra hsome
        obtain ⟨old, hold⟩ := Option.ne_none_iff_exists'.mp hsome
        simp [hscan.kept _ _ hold] at hnone
      · rw [RuntimeEvent.result?, dispatchResults_map_runtimeAction, hnew, hget]

/-- The phases before a phase of the plan are the smaller ones. -/
lemma mem_done_iff {done rest : List ConfigurationPhase} {phase : ConfigurationPhase}
    (hsplit : done ++ phase :: rest = phases plan)
    (haction : action ∈ plan.actions) :
    action.phase ∈ done ↔ action.phase.value < phase.value := by
  have hinjective : Function.Injective ConfigurationPhase.value := by
    intro p q h
    cases p <;> cases q <;> first | rfl | exact absurd h (by decide)
  have hnodup : (done ++ phase :: rest).Nodup :=
    hsplit ▸ (perm_sortedBy _ _).nodup_iff.mpr (List.nodup_dedup _)
  have hsorted : (done ++ phase :: rest).Pairwise fun p q => p.value ≤ q.value :=
    hsplit ▸ pairwise_sortedBy _ _
  obtain ⟨-, hrest, hbefore⟩ := List.pairwise_append.mp hsorted
  constructor
  · intro hmem
    refine lt_of_le_of_ne (hbefore _ hmem _ List.mem_cons_self) fun hvalue => ?_
    exact (List.nodup_append.mp hnodup).2.2 _ hmem _ List.mem_cons_self (hinjective hvalue)
  · intro hlt
    have hmem : action.phase ∈ done ++ phase :: rest := by
      rw [hsplit, phases, mem_sortedBy, List.mem_dedup]
      exact List.mem_map_of_mem haction
    rcases List.mem_append.mp hmem with hmem | hmem
    · exact hmem
    · rcases List.mem_cons.mp hmem with heq | hmem
      · exact absurd (heq ▸ hlt) (lt_irrefl _)
      · exact absurd hlt (not_lt.mpr ((List.pairwise_cons.mp hrest).1 _ hmem))

/-- **The main loop.**  It ends with the invariant and a result for every action of the plan. -/
lemma ensures_applyPhases (hplan : AcceptedPlan plan request prepared) (htrace : Quiet trace) :
    (applicator.applyPhases plan request prepared).Ensures trace
      (fun results trace =>
        LoopInvariant plan prepared
          ((deferredVoiceActions plan request prepared.scope).map ConfigurationAction.id)
          results trace ∧
        PhasesDone plan (capabilityRefusalResults prepared.refusals prepared.scope.retained)
          (phases plan) results trace)
      (RaisedInLoop plan prepared
        ((deferredVoiceActions plan request prepared.scope).map ConfigurationAction.id)) := by
  set deferredIds := (deferredVoiceActions plan request prepared.scope).map
    ConfigurationAction.id with hdeferred
  refine Interaction.ensures_loop_split
    (I := fun done results trace => LoopInvariant plan prepared deferredIds results trace ∧
      PhasesDone plan (capabilityRefusalResults prepared.refusals prepared.scope.retained) done
        results trace)
    ⟨loopInvariant_initial hplan htrace, phasesDone_nil⟩
    fun done phase rest hsplit results trace ⟨hinvariant, hphases⟩ => ?_
  exact (ensures_applyPhase hplan hinvariant phase).mono
    (fun results' trace' ⟨hinvariant', hcovered, hstep⟩ => ⟨hinvariant', hphases.step hplan.nodup
      hplan.closed (fun action haction => mem_done_iff hsplit haction) hstep hcovered⟩) fun e trace hE => hE

end MainLoop

end ConfigurationApplicator

end PacketTracer
