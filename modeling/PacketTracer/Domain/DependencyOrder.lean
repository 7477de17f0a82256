import PacketTracer.Domain.Configuration
import PacketTracer.Library.DependencyGraph

/-!
# The dependency order is a topological order

`order_dependency_actions` succeeds exactly on lists with unique identifiers whose dependencies
are present and acyclic.  `KahnInvariant` says what the loop keeps: the heap holds the actions
that were not put out and whose dependencies all were, and the indegree of an action counts its
open dependencies.  Two lists with the same actions drain in lockstep, since the heap is sorted
by a key that tells the actions apart.
-/

namespace PacketTracer

open Dicts Interactions PyText DependencyGraph

variable {α : Type} [DependencyAction α]

open DependencyAction (dependsOn)

/-- An action depends on an identifier. -/
def Depends (actions : List α) (a b : String) : Prop :=
  ∃ action ∈ actions, DependencyAction.id action = a ∧ b ∈ dependsOn action

/-- Every action stands after all of its dependencies. -/
def DependenciesPrecede (ordered : List α) : Prop :=
  EachAfter (fun before action => ∀ d ∈ dependsOn action, d ∈ before.map DependencyAction.id)
    ordered

/-- The actions by identifier. -/
abbrev byIdentifier (actions : List α) : Dict String α :=
  Dict.ofList (actions.map fun action => (DependencyAction.id action, action))

/-- The number of dependencies of an action that were not put out. -/
def openDependencies (ordered : List α) (action : α) : ℤ :=
  (((dependsOn action).dedup.filter (· ∉ ordered.map DependencyAction.id)).length : ℤ)

variable {actions ordered ready : List α} {action : α} {byId : Dict String α}
  {state : KahnState α}

/-! ## Order of the identifiers -/

/-- In terms of identifiers, dependencies come first. -/
lemma DependenciesPrecede.dependenciesFirst (h : DependenciesPrecede ordered)
    (hnodup : (ordered.map DependencyAction.id).Nodup) :
    DependenciesFirst (Depends ordered) (ordered.map DependencyAction.id) := by
  intro before a after hsplit b hab
  obtain ⟨action, haction, rfl, hb⟩ := hab
  obtain ⟨left, right, rfl⟩ := List.append_of_mem haction
  have hleft : left.map DependencyAction.id = before := by
    have hmap : (left ++ action :: right).map DependencyAction.id =
        left.map DependencyAction.id ++ DependencyAction.id action ::
          right.map DependencyAction.id := by simp
    rw [hmap] at hsplit hnodup
    have hleftmem : DependencyAction.id action ∉ left.map DependencyAction.id :=
      fun hmem => (List.nodup_append.mp hnodup).2.2 _ hmem _ List.mem_cons_self rfl
    have hbeforemem : DependencyAction.id action ∉ before :=
      fun hmem => (List.nodup_append.mp (hsplit ▸ hnodup)).2.2 _ hmem _ List.mem_cons_self rfl
    have hidx := congrArg (List.idxOf (DependencyAction.id action)) hsplit
    rw [List.idxOf_append_of_notMem hleftmem, List.idxOf_append_of_notMem hbeforemem,
      List.idxOf_cons_self, List.idxOf_cons_self, Nat.add_zero, Nat.add_zero] at hidx
    exact (List.append_inj hsplit hidx).1
  rw [← hleft]
  exact h left action right rfl b hb

lemma DependenciesPrecede.acyclic (h : DependenciesPrecede ordered)
    (hnodup : (ordered.map DependencyAction.id).Nodup) : Acyclic (Depends ordered) := by
  refine (h.dependenciesFirst hnodup).acyclic fun a b hab => ?_
  obtain ⟨action, haction, rfl, -⟩ := hab
  exact List.mem_map_of_mem haction

/-- What stands in order does so under any change that keeps identifiers and dependencies. -/
lemma DependenciesPrecede.of_map_eq {changed : List α} (h : DependenciesPrecede ordered)
    (hsame : changed.map (fun action => (DependencyAction.id action, dependsOn action)) =
      ordered.map fun action => (DependencyAction.id action, dependsOn action)) :
    DependenciesPrecede changed := by
  intro before action after hsplit d hd
  rw [hsplit, List.map_append, List.map_cons] at hsame
  obtain ⟨left, rest, rfl, hleft, hrest⟩ := List.map_eq_append_iff.mp hsame.symm
  obtain ⟨original, right, rfl, horiginal, -⟩ := List.map_eq_cons_iff.mp hrest
  have hids : left.map DependencyAction.id = before.map DependencyAction.id := by
    simpa [Function.comp_def] using congrArg (List.map Prod.fst) hleft
  rw [← hids]
  refine h left original right rfl d ?_
  rwa [show dependsOn original = dependsOn action from congrArg Prod.snd horiginal]

lemma depends_eq_of_perm {permuted : List α} (h : permuted.Perm actions) :
    Depends permuted = Depends actions := by
  funext a b
  simp only [Depends, h.mem_iff]

/-! ## Open dependencies -/

lemma openDependencies_eq_zero :
    openDependencies ordered action = 0 ↔
      ∀ d ∈ dependsOn action, d ∈ ordered.map DependencyAction.id := by
  rw [openDependencies, Int.natCast_eq_zero, List.length_eq_zero_iff, List.filter_eq_nil_iff]
  simp only [List.mem_dedup, decide_eq_true_eq, not_not]

variable {popped a : α} {k : String}

/-- Putting out a new action closes one dependency of the actions that depend on it. -/
lemma openDependencies_concat
    (hnew : DependencyAction.id popped ∉ ordered.map DependencyAction.id) (action : α) :
    openDependencies (ordered ++ [popped]) action =
      if DependencyAction.id popped ∈ dependsOn action then openDependencies ordered action - 1
      else openDependencies ordered action := by
  have hsplit : (dependsOn action).dedup.filter
        (· ∉ (ordered ++ [popped]).map DependencyAction.id) =
      ((dependsOn action).dedup.filter (· ∉ ordered.map DependencyAction.id)).erase
        (DependencyAction.id popped) := by
    rw [((List.nodup_dedup _).filter _).erase_eq_filter, List.filter_filter]
    refine List.filter_congr fun d _ => ?_
    rw [Bool.eq_iff_iff]
    simp [and_comm]
  rw [openDependencies, hsplit]
  by_cases hmem : DependencyAction.id popped ∈ dependsOn action
  · have hopen : DependencyAction.id popped ∈
        (dependsOn action).dedup.filter (· ∉ ordered.map DependencyAction.id) :=
      List.mem_filter.mpr ⟨List.mem_dedup.mpr hmem, decide_eq_true hnew⟩
    have hpos := List.length_pos_of_mem hopen
    rw [if_pos hmem, List.length_erase_of_mem hopen, openDependencies]
    omega
  · have hclosed : DependencyAction.id popped ∉
        (dependsOn action).dedup.filter (· ∉ ordered.map DependencyAction.id) :=
      fun h => hmem (List.mem_dedup.mp (List.mem_filter.mp h).1)
    rw [if_neg hmem, List.erase_of_not_mem hclosed, openDependencies]

/-! ## The heap -/

lemma heappush_perm (ready : List α) (action : α) :
    (heappush ready action).Perm (action :: ready) :=
  List.perm_orderedInsert _ _ _

lemma foldl_heappush_perm (pushed ready : List α) :
    (pushed.foldl heappush ready).Perm (pushed ++ ready) := by
  induction pushed generalizing ready with
  | nil => exact .refl _
  | cons action pushed ih =>
    refine (ih (heappush ready action)).trans ?_
    exact ((heappush_perm ready action).append_left pushed).trans List.perm_middle

lemma pairwise_foldl_heappush (pushed : List α)
    (h : ready.Pairwise fun a b => stableKey a ≤ stableKey b) :
    (pushed.foldl heappush ready).Pairwise fun a b => stableKey a ≤ stableKey b := by
  induction pushed generalizing ready with
  | nil => exact h
  | cons action pushed ih =>
    have : Std.Total fun a b : α => stableKey a ≤ stableKey b := ⟨fun a b => le_total _ _⟩
    have : IsTrans α fun a b => stableKey a ≤ stableKey b := ⟨fun a b c => le_trans⟩
    exact ih (h.orderedInsert action ready)

/-- The actions that enter the heap when the given dependents lose a dependency. -/
def released (byId : Dict String α) (state : KahnState α) (dependents : List String) : List α :=
  dependents.filterMap fun dependentId =>
    if (state.indegree.get? dependentId).getD 0 - 1 = 0 then byId.get? dependentId else none

lemma releaseDependent_cases (byId : Dict String α) (state : KahnState α) (dependentId : String) :
    (releaseDependent byId state dependentId).ordered = state.ordered ∧
      (releaseDependent byId state dependentId).indegree = state.indegree.set dependentId
        ((state.indegree.get? dependentId).getD 0 - 1) ∧
      (releaseDependent byId state dependentId).ready.Perm
        (released byId state [dependentId] ++ state.ready) := by
  unfold releaseDependent released
  rcases hget : byId.get? dependentId with _ | dependent
  · simp [hget]
  by_cases hzero : (state.indegree.get? dependentId).getD 0 - 1 = 0
  · simp [hget, hzero, heappush_perm]
  · simp [hzero]

/-- What releasing all dependents of a popped action does. -/
lemma foldl_releaseDependent (byId : Dict String α) {dependents : List String}
    (hnodup : dependents.Nodup) (state : KahnState α) :
    (dependents.foldl (releaseDependent byId) state).ordered = state.ordered ∧
      (∀ k, (dependents.foldl (releaseDependent byId) state).indegree.get? k =
        if k ∈ dependents then some ((state.indegree.get? k).getD 0 - 1)
        else state.indegree.get? k) ∧
      (dependents.foldl (releaseDependent byId) state).ready.Perm
        (released byId state dependents ++ state.ready) := by
  induction dependents generalizing state with
  | nil => simp [released]
  | cons dependentId dependents ih =>
    obtain ⟨hnotmem, hnodup⟩ := List.nodup_cons.mp hnodup
    obtain ⟨hordered, hindegree, hready⟩ := releaseDependent_cases byId state dependentId
    obtain ⟨ihordered, ihindegree, ihready⟩ :=
      ih hnodup (releaseDependent byId state dependentId)
    refine ⟨ihordered.trans hordered, fun k => ?_, ?_⟩
    · rw [List.foldl_cons, ihindegree, hindegree, Dict.get?_set]
      by_cases hk : dependentId = k
      · subst hk
        simp [hnotmem]
      · simp [hk, Ne.symm hk]
    · have hlater : released byId (releaseDependent byId state dependentId) dependents =
          released byId state dependents := by
        refine List.filterMap_congr fun k hk => ?_
        have hne : dependentId ≠ k := fun h => hnotmem (h ▸ hk)
        rw [hindegree, Dict.get?_set, if_neg hne]
      have hsplit : released byId state (dependentId :: dependents) =
          released byId state [dependentId] ++ released byId state dependents :=
        (List.filterMap_append : List.filterMap _ ([dependentId] ++ dependents) = _)
      rw [List.foldl_cons, hsplit, List.append_assoc]
      refine ihready.trans ?_
      rw [hlater]
      refine (hready.append_left _).trans ?_
      rw [← List.append_assoc, ← List.append_assoc]
      exact List.perm_append_comm.append_right _

/-! ## The loop -/

/-- What the loop keeps: an action was put out or is in the heap exactly when its dependencies
were put out. -/
structure KahnInvariant (actions : List α) (state : KahnState α) : Prop where
  nodup : ((state.ordered ++ state.ready).map DependencyAction.id).Nodup
  planned : ∀ action ∈ state.ordered ++ state.ready, action ∈ actions
  reached : ∀ action ∈ actions, action ∈ state.ordered ++ state.ready ↔
    ∀ d ∈ dependsOn action, d ∈ state.ordered.map DependencyAction.id
  indegree : ∀ action ∈ actions, state.indegree.get? (DependencyAction.id action) =
    some (openDependencies state.ordered action)
  precede : DependenciesPrecede state.ordered

lemma eq_of_id_eq (hnodup : (actions.map DependencyAction.id).Nodup) {b : α} (ha : a ∈ actions)
    (hb : b ∈ actions) (h : DependencyAction.id a = DependencyAction.id b) : a = b :=
  List.inj_on_of_nodup_map hnodup ha hb h

lemma get?_byId (hnodup : (actions.map DependencyAction.id).Nodup) :
    (byIdentifier actions).get? k = some a ↔
      a ∈ actions ∧ DependencyAction.id a = k := by
  constructor
  · intro h
    obtain ⟨a', ha', rfl, rfl⟩ := Dict.exists_of_get?_ofList h
    exact ⟨ha', rfl⟩
  · rintro ⟨ha, rfl⟩
    refine Dict.get?_ofList_of_mem ?_ (List.mem_map_of_mem ha)
    simpa [Function.comp_def] using hnodup

lemma mem_dependentsOf {identifier : String} :
    k ∈ dependentsOf actions identifier ↔
      ∃ action ∈ actions, identifier ∈ dependsOn action ∧ DependencyAction.id action = k := by
  simp only [dependentsOf, mem_sortedBy, List.mem_map, List.mem_filter, decide_eq_true_eq,
    and_assoc]

lemma nodup_dependentsOf (hnodup : (actions.map DependencyAction.id).Nodup) (identifier : String) :
    (dependentsOf actions identifier).Nodup :=
  (perm_sortedBy _ _).nodup_iff.mpr ((List.filter_sublist.map _).nodup hnodup)

/-- The actions released by a popped action are those whose last open dependency it was. -/
lemma mem_released (hnodup : (actions.map DependencyAction.id).Nodup)
    (h : KahnInvariant actions state) :
    a ∈ released (byIdentifier actions)
        state (dependentsOf actions (DependencyAction.id popped)) ↔
      a ∈ actions ∧ DependencyAction.id popped ∈ dependsOn a ∧
        openDependencies state.ordered a = 1 := by
  unfold released
  rw [List.mem_filterMap]
  constructor
  · rintro ⟨k, hk, hreleased⟩
    split at hreleased
    · rename_i hzero
      obtain ⟨ha, rfl⟩ := (get?_byId hnodup).mp hreleased
      obtain ⟨a', ha', hdepends, hid⟩ := mem_dependentsOf.mp hk
      obtain rfl := eq_of_id_eq hnodup ha' ha hid
      rw [h.indegree _ ha, Option.getD_some] at hzero
      exact ⟨ha, hdepends, by omega⟩
    · cases hreleased
  · rintro ⟨ha, hdepends, hone⟩
    refine ⟨DependencyAction.id a, mem_dependentsOf.mpr ⟨a, ha, hdepends, rfl⟩, ?_⟩
    rw [h.indegree _ ha, Option.getD_some, if_pos (by omega)]
    exact (get?_byId hnodup).mpr ⟨ha, rfl⟩

lemma released_sublist (hbyId : ∀ k a, byId.get? k = some a → DependencyAction.id a = k)
    (dependents : List String) :
    ((released byId state dependents).map DependencyAction.id).Sublist dependents := by
  induction dependents with
  | nil => simp [released]
  | cons k dependents ih =>
    rw [released, List.filterMap_cons]
    split
    · exact ih.cons k
    rename_i a ha
    split at ha
    · rw [List.map_cons, hbyId k a ha]
      exact ih.cons_cons k
    · cases ha

/-- One iteration keeps the invariant. -/
lemma KahnInvariant.pop (hnodup : (actions.map DependencyAction.id).Nodup)
    (h : KahnInvariant actions state) (hready : state.ready = popped :: ready) :
    KahnInvariant actions
      ((dependentsOf actions (DependencyAction.id popped)).foldl
        (releaseDependent
          (byIdentifier actions))
        { state with ready := ready, ordered := state.ordered ++ [popped] }) := by
  set byId := byIdentifier actions with hby
  set next : KahnState α :=
    { state with ready := ready, ordered := state.ordered ++ [popped] } with hnext
  obtain ⟨hordered, hindegree, hperm⟩ := foldl_releaseDependent byId
    (nodup_dependentsOf hnodup (DependencyAction.id popped)) next
  have hreleased : released byId next (dependentsOf actions (DependencyAction.id popped)) =
      released byId state (dependentsOf actions (DependencyAction.id popped)) := rfl
  have hpopped : popped ∈ actions := h.planned popped (by simp [hready])
  have hnew : DependencyAction.id popped ∉ state.ordered.map DependencyAction.id := by
    intro hmem
    have hdisjoint := h.nodup
    rw [hready, List.map_append, List.map_cons] at hdisjoint
    exact (List.nodup_append.mp hdisjoint).2.2 _ hmem _ List.mem_cons_self rfl
  have hclosed : ∀ d ∈ dependsOn popped, d ∈ state.ordered.map DependencyAction.id :=
    (h.reached popped hpopped).mp (by simp [hready])
  have hsame : ∀ a, a ∈ state.ordered ++ [popped] ++ ready ↔ a ∈ state.ordered ++ state.ready := by
    intro a
    simp [hready]
  have hmem : ∀ a, a ∈ next.ordered ++ (released byId next
        (dependentsOf actions (DependencyAction.id popped)) ++ next.ready) ↔
      a ∈ state.ordered ++ state.ready ∨ (a ∈ actions ∧ DependencyAction.id popped ∈ dependsOn a ∧
        openDependencies state.ordered a = 1) := by
    intro a
    rw [← hsame a, ← mem_released hnodup h, hreleased, hnext]
    simp only [List.mem_append]
    tauto
  have hfinal : ((dependentsOf actions (DependencyAction.id popped)).foldl
        (releaseDependent byId) next).ordered ++ ((dependentsOf actions
        (DependencyAction.id popped)).foldl (releaseDependent byId) next).ready |>.Perm
      (next.ordered ++ (released byId next (dependentsOf actions (DependencyAction.id popped)) ++
        next.ready)) := by
    rw [hordered]
    exact hperm.append_left _
  refine ⟨?_, fun a ha => ?_, fun a ha => ?_, fun a ha => ?_, ?_⟩
  · rw [(hfinal.map _).nodup_iff]
    have hsplit : (next.ordered ++ (released byId next
          (dependentsOf actions (DependencyAction.id popped)) ++ next.ready)).Perm
        (released byId state (dependentsOf actions (DependencyAction.id popped)) ++
          (state.ordered ++ state.ready)) := by
      rw [hreleased, hnext, hready]
      simp only [← List.append_assoc, List.append_cons state.ordered popped ready]
      exact List.perm_append_comm.append_right _ |>.trans (by simp)
    rw [(hsplit.map _).nodup_iff, List.map_append, List.nodup_append]
    refine ⟨?_, h.nodup, fun x hx y hy hxy => ?_⟩
    · refine (released_sublist (fun k a hget => ?_) _).nodup
        (nodup_dependentsOf hnodup (DependencyAction.id popped))
      exact ((get?_byId hnodup).mp hget).2
    · obtain ⟨a, ha, rfl⟩ := List.mem_map.mp hx
      obtain ⟨b, hb, rfl⟩ := List.mem_map.mp hy
      obtain ⟨hplanned, hdepends, -⟩ := (mem_released hnodup h).mp ha
      obtain rfl := eq_of_id_eq hnodup hplanned (h.planned b hb) hxy
      exact hnew ((h.reached a hplanned).mp hb _ hdepends)
  · rcases (hmem a).mp (hfinal.mem_iff.mp ha) with hold | ⟨hplanned, -⟩
    · exact h.planned a hold
    · exact hplanned
  · have hstep := openDependencies_concat hnew a
    rw [hfinal.mem_iff, hmem, hordered, h.reached a ha, ← openDependencies_eq_zero,
      ← openDependencies_eq_zero]
    by_cases hdepends : DependencyAction.id popped ∈ dependsOn a
    · have hopen : openDependencies state.ordered a ≠ 0 :=
        fun hzero => hnew (openDependencies_eq_zero.mp hzero _ hdepends)
      rw [if_pos hdepends] at hstep
      rw [show next.ordered = state.ordered ++ [popped] from rfl, hstep]
      exact ⟨fun hor => by rcases hor with hzero | ⟨-, -, hone⟩ <;> omega,
        fun hzero => Or.inr ⟨ha, hdepends, by omega⟩⟩
    · rw [if_neg hdepends] at hstep
      rw [show next.ordered = state.ordered ++ [popped] from rfl, hstep]
      exact ⟨fun hor => hor.resolve_right fun ⟨_, hdepends', _⟩ => hdepends hdepends', Or.inl⟩
  · rw [hindegree, hordered, show next.ordered = state.ordered ++ [popped] from rfl,
      openDependencies_concat hnew, show next.indegree = state.indegree from rfl, h.indegree a ha]
    by_cases hdepends : DependencyAction.id popped ∈ dependsOn a
    · rw [if_pos (mem_dependentsOf.mpr ⟨a, ha, hdepends, rfl⟩), if_pos hdepends, Option.getD_some]
    have hnot : DependencyAction.id a ∉ dependentsOf actions (DependencyAction.id popped) := by
      intro hmem
      obtain ⟨b, hb, hdepends', hid⟩ := mem_dependentsOf.mp hmem
      exact hdepends (eq_of_id_eq hnodup hb ha hid ▸ hdepends')
    rw [if_neg hnot, if_neg hdepends]
  · rw [hordered]
    exact eachAfter_concat.mpr ⟨h.precede, hclosed⟩

lemma KahnInvariant.length_le (h : KahnInvariant actions state) :
    (state.ordered ++ state.ready).length ≤ actions.length :=
  (List.subperm_of_subset (List.Nodup.of_map _ h.nodup) h.planned).length_le

/-- The loop keeps the invariant and ends with an empty heap. -/
lemma KahnInvariant.drain (hnodup : (actions.map DependencyAction.id).Nodup) {fuel : ℕ} :
    ∀ {state : KahnState α}, KahnInvariant actions state →
      actions.length ≤ state.ordered.length + fuel →
      KahnInvariant actions (drain actions
          (byIdentifier actions)
          fuel state) ∧
        (PacketTracer.drain actions
          (byIdentifier actions)
          fuel state).ready = [] := by
  induction fuel with
  | zero =>
    intro state h hfuel
    refine ⟨h, ?_⟩
    have hle := h.length_le
    rw [List.length_append] at hle
    exact List.length_eq_zero_iff.mp (by change state.ready.length = 0; omega)
  | succ fuel ih =>
    intro state h hfuel
    unfold PacketTracer.drain
    split
    · rename_i hready
      exact ⟨h, hready⟩
    rename_i popped ready hready
    refine ih (h.pop hnodup hready) ?_
    have hordered := (foldl_releaseDependent
      (byIdentifier actions)
      (nodup_dependentsOf hnodup (DependencyAction.id popped))
      { state with ready := ready, ordered := state.ordered ++ [popped] }).1
    rw [hordered, List.length_append, List.length_singleton]
    omega

/-- The state the loop starts from. -/
def initialState (actions : List α) : KahnState α :=
  { ready := (actions.filter fun action => (dependsOn action).dedup.length = 0).foldl heappush []
    indegree := Dict.ofList (actions.map fun action =>
      (DependencyAction.id action, ((dependsOn action).dedup.length : ℤ))) }

lemma ready_initialState (actions : List α) :
    (initialState actions).ready.Perm
      (actions.filter fun action => (dependsOn action).dedup.length = 0) := by
  have hperm := foldl_heappush_perm
    (actions.filter fun action => (dependsOn action).dedup.length = 0) []
  rwa [List.append_nil] at hperm

lemma get?_indegree_initialState (hnodup : (actions.map DependencyAction.id).Nodup)
    (haction : action ∈ actions) :
    (initialState actions).indegree.get? (DependencyAction.id action) =
      some ((dependsOn action).dedup.length : ℤ) := by
  refine Dict.get?_ofList_of_mem ?_ (List.mem_map.mpr ⟨action, haction, rfl⟩)
  simpa [Function.comp_def] using hnodup

lemma kahnInvariant_initialState (hnodup : (actions.map DependencyAction.id).Nodup) :
    KahnInvariant actions (initialState actions) := by
  have hordered : (initialState actions).ordered = [] := rfl
  have hready := ready_initialState actions
  refine ⟨?_, fun a ha => ?_, fun a ha => ?_, fun a ha => ?_, eachAfter_nil⟩
  · rw [hordered, List.nil_append, (hready.map _).nodup_iff]
    exact (List.filter_sublist.map _).nodup hnodup
  · rw [hordered, List.nil_append, hready.mem_iff] at ha
    exact (List.mem_filter.mp ha).1
  · rw [hordered, List.nil_append, hready.mem_iff, ← openDependencies_eq_zero, openDependencies]
    simp [ha]
  · rw [get?_indegree_initialState hnodup ha, hordered, openDependencies]
    simp

/-- The state the loop ends in. -/
def drained (actions : List α) : KahnState α :=
  drain actions (byIdentifier actions) actions.length (initialState actions)

lemma kahnInvariant_drained (hnodup : (actions.map DependencyAction.id).Nodup) :
    KahnInvariant actions (drained actions) ∧ (drained actions).ready = [] :=
  (kahnInvariant_initialState hnodup).drain hnodup (Nat.le_add_left _ _)

lemma perm_drained (hnodup : (actions.map DependencyAction.id).Nodup)
    (hlength : (drained actions).ordered.length = actions.length) :
    (drained actions).ordered.Perm actions := by
  obtain ⟨hinvariant, hready⟩ := kahnInvariant_drained hnodup
  have hplanned : ∀ a ∈ (drained actions).ordered, a ∈ actions :=
    fun a ha => hinvariant.planned a (List.mem_append_left _ ha)
  have hdistinct : (drained actions).ordered.Nodup :=
    (List.nodup_append.mp (List.Nodup.of_map _ hinvariant.nodup)).1
  exact (List.subperm_of_subset hdistinct hplanned).perm_of_length_le hlength.ge

/-! ## Success -/

lemma contains_byId :
    (byIdentifier actions).contains k =
      decide (k ∈ actions.map DependencyAction.id) := by
  rw [Bool.eq_iff_iff, Dict.contains, Dict.isSome_get?_ofList_iff, decide_eq_true_iff]
  simp [Function.comp_def]

/-- What success means: the checks passed, and the loop put everything out. -/
lemma orderDependencyActions_eq_ok :
    orderDependencyActions actions = .ok ordered ↔
      (actions.map DependencyAction.id).Nodup ∧
      (∀ action ∈ actions, ∀ d ∈ dependsOn action, d ∈ actions.map DependencyAction.id) ∧
      (drained actions).ordered.length = actions.length ∧
      (drained actions).ordered = ordered := by
  constructor
  · intro h
    obtain ⟨hnodup, hclosed⟩ := nodup_and_closed_of_orderDependencyActions h
    refine ⟨hnodup, hclosed, ?_⟩
    unfold orderDependencyActions at h
    simp only at h
    split at h
    · cases h
    split at h
    · cases h
    split at h
    · cases h
    · rename_i hlength
      exact ⟨not_not.mp hlength, Except.ok.inj h⟩
  · rintro ⟨hnodup, hclosed, hlength, rfl⟩
    have hkeys : (byIdentifier actions).entries.length = actions.length := by
      rw [Dict.length_ofList_of_nodup (by simpa [Function.comp_def] using hnodup), List.length_map]
    have hmissing : ((actions.flatMap dependsOn).filter fun dependency =>
        !(byIdentifier actions).contains dependency) = [] := by
      refine List.filter_eq_nil_iff.mpr fun d hd => ?_
      obtain ⟨action, haction, hdepends⟩ := List.mem_flatMap.mp hd
      simpa [contains_byId] using hclosed action haction d hdepends
    unfold orderDependencyActions
    simp only [hkeys, ne_eq, not_true_eq_false, if_false, hmissing]
    exact if_neg (not_not.mpr hlength)

/-- Without cycles everything is put out. -/
lemma KahnInvariant.mem_ordered_of_acyclic (h : KahnInvariant actions state)
    (hready : state.ready = []) (hacyclic : Acyclic (Depends actions))
    (hnodup : (actions.map DependencyAction.id).Nodup)
    (hclosed : ∀ action ∈ actions, ∀ d ∈ dependsOn action, d ∈ actions.map DependencyAction.id) :
    ∀ action ∈ actions, action ∈ state.ordered := by
  by_contra hnot
  push Not at hnot
  obtain ⟨action, haction, hopen⟩ := hnot
  have hreached : ∀ a ∈ actions, a ∈ state.ordered ↔
      ∀ d ∈ dependsOn a, d ∈ state.ordered.map DependencyAction.id := by
    simpa [hready] using h.reached
  -- the identifiers that were not put out, of which one depends on no other
  set remaining := (actions.map DependencyAction.id).filter
    (· ∉ state.ordered.map DependencyAction.id) with hremaining
  have hmem : ∀ k, k ∈ remaining ↔
      k ∈ actions.map DependencyAction.id ∧ k ∉ state.ordered.map DependencyAction.id := by
    intro k
    rw [hremaining, List.mem_filter, decide_eq_true_iff]
  have hplanned : ∀ a ∈ state.ordered, a ∈ actions := by simpa [hready] using h.planned
  have hidOpen : DependencyAction.id action ∉ state.ordered.map DependencyAction.id := by
    intro hid
    obtain ⟨a, ha, heq⟩ := List.mem_map.mp hid
    exact hopen (eq_of_id_eq hnodup (hplanned a ha) haction heq ▸ ha)
  have hne : remaining ≠ [] :=
    List.ne_nil_of_mem ((hmem _).mpr ⟨List.mem_map_of_mem haction, hidOpen⟩)
  obtain ⟨k, hk, hminimal⟩ := hacyclic.exists_minimal hne
  obtain ⟨hkActions, hkOpen⟩ := (hmem k).mp hk
  obtain ⟨a, ha, rfl⟩ := List.mem_map.mp hkActions
  refine hkOpen (List.mem_map_of_mem ((hreached a ha).mpr fun d hd => ?_))
  by_contra hdOpen
  exact hminimal d ((hmem d).mpr ⟨hclosed a ha d hd, hdOpen⟩) ⟨a, ha, rfl, hd⟩

/-- The order succeeds exactly on lists with unique identifiers whose dependencies are present
and acyclic. -/
lemma exists_orderDependencyActions_iff :
    (∃ ordered, orderDependencyActions actions = .ok ordered) ↔
      (actions.map DependencyAction.id).Nodup ∧
      (∀ action ∈ actions, ∀ d ∈ dependsOn action, d ∈ actions.map DependencyAction.id) ∧
      Acyclic (Depends actions) := by
  constructor
  · rintro ⟨ordered, h⟩
    obtain ⟨hnodup, hclosed, hlength, rfl⟩ := orderDependencyActions_eq_ok.mp h
    have hperm := perm_drained hnodup hlength
    refine ⟨hnodup, hclosed, ?_⟩
    rw [← depends_eq_of_perm hperm]
    exact (kahnInvariant_drained hnodup).1.precede.acyclic ((hperm.map _).nodup_iff.mpr hnodup)
  · rintro ⟨hnodup, hclosed, hacyclic⟩
    obtain ⟨hinvariant, hready⟩ := kahnInvariant_drained hnodup
    have hall := hinvariant.mem_ordered_of_acyclic hready hacyclic hnodup hclosed
    refine ⟨_, orderDependencyActions_eq_ok.mpr ⟨hnodup, hclosed, le_antisymm ?_ ?_, rfl⟩⟩
    · have hle := hinvariant.length_le
      rwa [hready, List.append_nil] at hle
    · exact (List.subperm_of_subset (List.Nodup.of_map _ hnodup) hall).length_le

/-- Whether the dependencies of each action stand before it, after actions with the identifiers
`before`. -/
def standInOrder (before : List String) : List α → Bool
  | [] => true
  | action :: actions =>
    (dependsOn action).all (· ∈ before) &&
      standInOrder (DependencyAction.id action :: before) actions

lemma mem_of_standInOrder {before : List String} (h : standInOrder before actions = true)
    {passed rest : List α} (hsplit : actions = passed ++ action :: rest) :
    ∀ d ∈ dependsOn action, d ∈ before ∨ d ∈ passed.map DependencyAction.id := by
  induction actions generalizing before passed with
  | nil => simp at hsplit
  | cons first actions ih =>
    rw [standInOrder, Bool.and_eq_true, List.all_eq_true] at h
    intro d hd
    rcases passed with _ | ⟨next, passed⟩
    · obtain ⟨rfl, -⟩ := List.cons.inj hsplit
      exact .inl (of_decide_eq_true (h.1 d hd))
    obtain ⟨rfl, htail⟩ := List.cons.inj hsplit
    rcases ih h.2 htail d hd with hbefore | hpassed
    · rcases List.mem_cons.mp hbefore with rfl | hbefore
      · exact .inr List.mem_cons_self
      · exact .inl hbefore
    · exact .inr (List.mem_cons_of_mem _ hpassed)

lemma exists_order_of_standInOrder (hnodup : (actions.map DependencyAction.id).Nodup)
    (h : standInOrder [] actions = true) :
    ∃ ordered, orderDependencyActions actions = .ok ordered := by
  have hprecede : DependenciesPrecede actions := by
    intro before action after hsplit d hd
    exact (mem_of_standInOrder h hsplit d hd).resolve_left List.not_mem_nil
  refine exists_orderDependencyActions_iff.mpr ⟨hnodup, ?_, hprecede.acyclic hnodup⟩
  intro action haction d hd
  obtain ⟨before, after, hsplit⟩ := List.append_of_mem haction
  have hbefore := hprecede before action after hsplit d hd
  rw [hsplit, List.map_append]
  exact List.mem_append_left _ hbefore

lemma spec_orderDependencyActions (h : orderDependencyActions actions = .ok ordered) :
    ordered.Perm actions ∧ DependenciesPrecede ordered := by
  obtain ⟨hnodup, -, hlength, rfl⟩ := orderDependencyActions_eq_ok.mp h
  exact ⟨perm_drained hnodup hlength, (kahnInvariant_drained hnodup).1.precede⟩

lemma eq_of_orderDependencyActions (h : orderDependencyActions actions = .ok ordered)
    (hids : ordered.map DependencyAction.id = actions.map DependencyAction.id) :
    ordered = actions := by
  obtain ⟨hnodup, -⟩ := orderDependencyActions_eq_ok.mp h
  have hread : ∀ items : List α, (∀ a ∈ items, a ∈ actions) →
      (items.map DependencyAction.id).filterMap (byIdentifier actions).get? = items := by
    intro items hitems
    rw [List.filterMap_map]
    refine (List.filterMap_congr fun a ha => ?_).trans List.filterMap_some
    exact (get?_byId hnodup).mpr ⟨hitems a ha, rfl⟩
  have hordered : ∀ a ∈ ordered, a ∈ actions :=
    fun a ha => (spec_orderDependencyActions h).1.mem_iff.mp ha
  rw [← hread ordered hordered, hids, hread actions fun a ha => ha]

section Changed

variable {f : α → α}

/-- A change that keeps everything the order reads. -/
structure KeepsOrder (f : α → α) : Prop where
  stableKey : ∀ action, stableKey (f action) = stableKey action
  dependsOn : ∀ action, DependencyAction.dependsOn (f action) = DependencyAction.dependsOn action

lemma KeepsOrder.id (hf : KeepsOrder f) (action : α) :
    DependencyAction.id (f action) = DependencyAction.id action := by
  have h := hf.stableKey action
  simp only [PacketTracer.stableKey, EmbeddingLike.apply_eq_iff_eq, Prod.mk.injEq] at h
  exact h.2.2.2

lemma KeepsOrder.heappush (hf : KeepsOrder f) (ready : List α) (action : α) :
    heappush (ready.map f) (f action) = (heappush ready action).map f := by
  unfold PacketTracer.heappush
  refine (List.map_orderedInsert _ _ f ready action ?_ ?_).symm
  · exact fun a _ => by rw [hf.stableKey, hf.stableKey]
  · exact fun a _ => by rw [hf.stableKey, hf.stableKey]

/-- Two states of which the second holds the changed actions of the first. -/
structure ChangedProgress (f : α → α) (state state' : KahnState α) : Prop where
  ready : state'.ready = state.ready.map f
  ordered : state'.ordered = state.ordered.map f
  indegree : ∀ k, state'.indegree.get? k = state.indegree.get? k

/-- Releasing dependents keeps two such states alike. -/
lemma ChangedProgress.release (hf : KeepsOrder f) {byId byId' : Dict String α}
    (hbyId : ∀ k, byId'.get? k = (byId.get? k).map f) {state state' : KahnState α}
    (h : ChangedProgress f state state') (dependents : List String) :
    ChangedProgress f (dependents.foldl (releaseDependent byId) state)
      (dependents.foldl (releaseDependent byId') state') := by
  induction dependents generalizing state state' with
  | nil => exact h
  | cons k dependents ih =>
    refine ih ?_
    unfold releaseDependent
    rw [hbyId k, h.indegree k]
    rcases byId.get? k with _ | dependent
    · exact ⟨h.ready, h.ordered, fun k' => by simp [h.indegree k']⟩
    simp only [Option.map_some]
    split
    · refine ⟨?_, h.ordered, fun k' => by simp [h.indegree k']⟩
      rw [h.ready, hf.heappush]
    · exact ⟨h.ready, h.ordered, fun k' => by simp [h.indegree k']⟩

lemma ChangedProgress.drain (hf : KeepsOrder f) {changed : List α}
    (hbyId : ∀ k, (byIdentifier changed).get? k = ((byIdentifier actions).get? k).map f)
    (hdependents : ∀ k, dependentsOf changed k = dependentsOf actions k) (fuel : ℕ) :
    ∀ {state state' : KahnState α}, ChangedProgress f state state' →
      ChangedProgress f (drain actions (byIdentifier actions) fuel state)
        (PacketTracer.drain changed (byIdentifier changed) fuel state') := by
  induction fuel with
  | zero => exact fun h => h
  | succ fuel ih =>
    intro state state' h
    unfold PacketTracer.drain
    rw [h.ready]
    rcases state.ready with _ | ⟨popped, ready⟩
    · exact h
    simp only [List.map_cons]
    rw [hdependents, hf.id]
    refine ih (ChangedProgress.release hf hbyId ?_ _)
    exact ⟨rfl, by rw [h.ordered, List.map_append, List.map_cons, List.map_nil], h.indegree⟩

end Changed

/-! ## Order of the input -/

section Permuted

variable {permuted : List α}

lemma eq_of_stableKey_eq (hnodup : (actions.map DependencyAction.id).Nodup) {a b : α}
    (ha : a ∈ actions) (hb : b ∈ actions) (h : stableKey a = stableKey b) : a = b := by
  refine eq_of_id_eq hnodup ha hb ?_
  simp only [stableKey, EmbeddingLike.apply_eq_iff_eq, Prod.mk.injEq] at h
  exact h.2.2.2

lemma ready_initialState_eq (hperm : permuted.Perm actions)
    (hnodup : (actions.map DependencyAction.id).Nodup) :
    (initialState permuted).ready = (initialState actions).ready := by
  have hready : (initialState permuted).ready.Perm (initialState actions).ready :=
    ((ready_initialState permuted).trans (hperm.filter _)).trans (ready_initialState actions).symm
  refine hready.eq_of_pairwise (fun a b ha hb hab hba => ?_)
    (pairwise_foldl_heappush _ List.Pairwise.nil) (pairwise_foldl_heappush _ List.Pairwise.nil)
  have hmem : ∀ c ∈ (initialState actions).ready, c ∈ actions := fun c hc =>
    (List.mem_filter.mp ((ready_initialState actions).mem_iff.mp hc)).1
  exact eq_of_stableKey_eq hnodup (hmem a (hready.mem_iff.mp ha)) (hmem b hb)
    (le_antisymm hab hba)

lemma dependentsOf_eq (hperm : permuted.Perm actions) (identifier : String) :
    dependentsOf permuted identifier = dependentsOf actions identifier :=
  sortedBy_eq_of_perm ((hperm.filter _).map _) fun _ _ _ _ h => h

lemma get?_ofList_id_eq {ν : Type} (f : α → ν) (hperm : permuted.Perm actions)
    (hnodup : (actions.map DependencyAction.id).Nodup) (k : String) :
    (Dict.ofList (permuted.map fun action => (DependencyAction.id action, f action))).get? k =
      (Dict.ofList (actions.map fun action => (DependencyAction.id action, f action))).get? k := by
  refine Dict.get?_ofList_of_perm (hperm.map _) ?_ k
  simpa [Function.comp_def] using (hperm.map _).nodup_iff.mpr hnodup

lemma ordered_drained_eq (hperm : permuted.Perm actions)
    (hnodup : (actions.map DependencyAction.id).Nodup) :
    (drained permuted).ordered = (drained actions).ordered := by
  have hstart : ChangedProgress id (initialState actions) (initialState permuted) :=
    ⟨by rw [ready_initialState_eq hperm hnodup, List.map_id], rfl,
      get?_ofList_id_eq _ hperm hnodup⟩
  have hbyId : ∀ k, (byIdentifier permuted).get? k = ((byIdentifier actions).get? k).map id := by
    intro k
    rw [Option.map_id]
    exact get?_ofList_id_eq _ hperm hnodup k
  have hdrained := ChangedProgress.drain ⟨fun _ => rfl, fun _ => rfl⟩ hbyId
    (dependentsOf_eq hperm) actions.length hstart
  rw [drained, hperm.length_eq]
  exact hdrained.ordered.trans (List.map_id _)

lemma orderDependencyActions_of_perm (hperm : permuted.Perm actions)
    (h : orderDependencyActions actions = .ok ordered) :
    orderDependencyActions permuted = .ok ordered := by
  obtain ⟨hnodup, hclosed, hlength, rfl⟩ := orderDependencyActions_eq_ok.mp h
  have hsame := ordered_drained_eq hperm hnodup
  refine orderDependencyActions_eq_ok.mpr ⟨(hperm.map _).nodup_iff.mpr hnodup,
    fun action haction d hd => ?_, ?_, hsame⟩
  · exact (hperm.map _).mem_iff.mpr (hclosed action (hperm.mem_iff.mp haction) d hd)
  · rw [hsame, hlength, hperm.length_eq]

end Permuted

/-! ## Order of changed actions -/

section Changed

variable {f : α → α}

lemma KeepsOrder.get?_byIdentifier (hf : KeepsOrder f)
    (hnodup : (actions.map DependencyAction.id).Nodup) (k : String) :
    (byIdentifier (actions.map f)).get? k = ((byIdentifier actions).get? k).map f := by
  have hids : (actions.map f).map DependencyAction.id = actions.map DependencyAction.id := by
    rw [List.map_map]
    exact List.map_congr_left fun action _ => hf.id action
  refine Option.ext fun changed => ?_
  rw [get?_byId (hids ▸ hnodup), Option.map_eq_some_iff]
  constructor
  · rintro ⟨hmem, hk⟩
    obtain ⟨action, haction, rfl⟩ := List.mem_map.mp hmem
    exact ⟨action, (get?_byId hnodup).mpr ⟨haction, (hf.id action).symm.trans hk⟩, rfl⟩
  · rintro ⟨action, haction, rfl⟩
    obtain ⟨hmem, hk⟩ := (get?_byId hnodup).mp haction
    exact ⟨List.mem_map_of_mem hmem, (hf.id action).trans hk⟩

lemma KeepsOrder.dependentsOf (hf : KeepsOrder f) (actions : List α) (identifier : String) :
    dependentsOf (actions.map f) identifier = dependentsOf actions identifier := by
  have hfilter : (actions.filter fun action =>
        decide (identifier ∈ DependencyAction.dependsOn (f action))) =
      actions.filter fun action => decide (identifier ∈ DependencyAction.dependsOn action) :=
    List.filter_congr fun action _ => by rw [hf.dependsOn]
  rw [PacketTracer.dependentsOf, PacketTracer.dependentsOf, List.filter_map, List.map_map]
  simp only [Function.comp_def]
  rw [hfilter]
  exact congrArg _ (List.map_congr_left fun action _ => hf.id action)

lemma changedProgress_initialState (hf : KeepsOrder f) (actions : List α) :
    ChangedProgress f (initialState actions) (initialState (actions.map f)) := by
  have hready : ∀ (items ready : List α),
      (items.map f).foldl heappush (ready.map f) = (items.foldl heappush ready).map f := by
    intro items
    induction items with
    | nil => exact fun _ => rfl
    | cons item items ih =>
      intro ready
      rw [List.map_cons, List.foldl_cons, List.foldl_cons, hf.heappush, ih]
  refine ⟨?_, rfl, fun k => ?_⟩
  · rw [initialState, initialState, List.filter_map, ← hready _ []]
    simp only [Function.comp_def, hf.dependsOn, List.map_nil]
  · simp only [initialState, List.map_map, Function.comp_def, hf.id, hf.dependsOn]

/-- A change of the actions after they were ordered is a change of them before. -/
lemma KeepsOrder.orderDependencyActions (hf : KeepsOrder f)
    (h : orderDependencyActions actions = .ok ordered) :
    orderDependencyActions (actions.map f) = .ok (ordered.map f) := by
  obtain ⟨hnodup, hclosed, hlength, rfl⟩ := orderDependencyActions_eq_ok.mp h
  have hids : (actions.map f).map DependencyAction.id = actions.map DependencyAction.id := by
    rw [List.map_map]
    exact List.map_congr_left fun action _ => hf.id action
  have hsame : (drained (actions.map f)).ordered = (drained actions).ordered.map f := by
    rw [drained, List.length_map]
    exact (ChangedProgress.drain hf (hf.get?_byIdentifier hnodup) (hf.dependentsOf _) actions.length
      (changedProgress_initialState hf actions)).ordered
  refine orderDependencyActions_eq_ok.mpr ⟨hids ▸ hnodup, ?_, ?_, hsame⟩
  · intro action haction d hd
    obtain ⟨original, horiginal, rfl⟩ := List.mem_map.mp haction
    rw [hids]
    exact hclosed original horiginal d (hf.dependsOn original ▸ hd)
  · rw [hsame, List.length_map, List.length_map, hlength]

end Changed

/-- **The dependency order.**  It succeeds exactly on lists with unique identifiers whose
dependencies are present and acyclic.  Its output has the same actions, each after all of its
dependencies; it is the same for every order of the input, and ordering it again changes
nothing. -/
theorem orderDependencyActions_correct (actions : List α) :
    ((∃ ordered, orderDependencyActions actions = .ok ordered) ↔
      (actions.map DependencyAction.id).Nodup ∧
      (∀ action ∈ actions, ∀ d ∈ dependsOn action, d ∈ actions.map DependencyAction.id) ∧
      Acyclic (Depends actions)) ∧
    ∀ ordered, orderDependencyActions actions = .ok ordered →
      ordered.Perm actions ∧ DependenciesPrecede ordered ∧
      (∀ permuted : List α, permuted.Perm actions →
        orderDependencyActions permuted = .ok ordered) ∧
      orderDependencyActions ordered = .ok ordered := by
  refine ⟨exists_orderDependencyActions_iff, fun ordered h => ?_⟩
  obtain ⟨hperm, hprecede⟩ := spec_orderDependencyActions h
  exact ⟨hperm, hprecede, fun permuted hpermuted => orderDependencyActions_of_perm hpermuted h,
    orderDependencyActions_of_perm hperm h⟩

end PacketTracer
