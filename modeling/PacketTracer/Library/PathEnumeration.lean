import Mathlib

/-!
# Enumerating the shortest paths of a multigraph

A multigraph is given by the edges that leave each node; several edges may join the same two nodes,
and a path is the list of its edges.  `search` takes partial paths from a queue, first in, first
out, extends each by the edges that lead to nodes it has not visited, and cuts what is not shorter
than the first path it has found.

The queue holds the partial paths level by level.  Nothing is found below the first level from which
an edge leads to the destination, and all paths from that level are found before the cut removes
the rest.  `search_spec` says what follows: with enough fuel the search ends, and what it has found
are the shortest walks, each once.
-/

namespace PathEnumerations

variable {V E : Type*}

/-! ## Walks -/

section Walks

variable (move : V → E → Option V)

/-- Where a list of edges leads. -/
def follow : V → List E → Option V
  | v, [] => some v
  | v, e :: es => (move v e).bind fun w => follow w es

/-- A walk that no other walk between the same nodes is shorter than. -/
structure IsShortest (source destination : V) (path : List E) : Prop where
  walk : follow move source path = some destination
  least : ∀ other, follow move source other = some destination → path.length ≤ other.length

variable {move}

lemma follow_append (v : V) (es fs : List E) :
    follow move v (es ++ fs) = (follow move v es).bind fun w => follow move w fs := by
  induction es generalizing v with
  | nil => rfl
  | cons e es ih =>
    rw [List.cons_append, follow, follow]
    cases move v e with
    | none => rfl
    | some w => exact ih w

variable {v w : V} {e : E} {source destination : V} {early rest path : List E}
  {u : V} {es part : List E}

lemma follow_concat (h : follow move u es = some v) (he : move v e = some w) :
    follow move u (es ++ [e]) = some w := by
  rw [follow_append, h]
  simp [follow, he]

lemma exists_follow_of_append {fs : List E} (h : follow move u (es ++ fs) = some w) :
    ∃ v, follow move u es = some v ∧ follow move v fs = some w := by
  rw [follow_append] at h
  exact Option.bind_eq_some_iff.mp h

lemma IsShortest.eq_nil_of_return {loop : List E}
    (h : IsShortest move source destination (early ++ loop ++ rest))
    (hearly : follow move source early = some v)
    (hloop : follow move source (early ++ loop) = some v) : loop = [] := by
  have hwalk := h.walk
  rw [follow_append, hloop] at hwalk
  have hshort : follow move source (early ++ rest) = some destination := by
    rw [follow_append, hearly]
    exact hwalk
  have hle := h.least _ hshort
  simp only [List.length_append] at hle
  exact List.length_eq_zero_iff.mp (by omega)

lemma IsShortest.not_reached (h : IsShortest move source destination path)
    (hpath : path = part ++ e :: rest) (hpart : follow move source part = some v)
    (he : move v e = some w) {late : List E} (hearly : part = early ++ late) :
    follow move source early ≠ some w := by
  intro hreached
  have hpath' : path = early ++ (late ++ [e]) ++ rest := by simp [hpath, hearly]
  have hloop : follow move source (early ++ (late ++ [e])) = some w := by
    rw [← List.append_assoc, ← hearly]
    exact follow_concat hpart he
  have hnil := (hpath' ▸ h).eq_nil_of_return hreached hloop
  simp at hnil

/-- A shortest walk uses no edge twice, when an edge leads back from where it leads. -/
lemma IsShortest.not_mem_later {later : List E}
    (h : IsShortest move source destination (early ++ e :: later))
    (hback : ∀ {v w x y : V} {e : E}, move x e = some y → move v e = some w → v = x ∨ w = x) :
    e ∉ later := by
  intro hmem
  obtain ⟨loop, rest, rfl⟩ := List.append_of_mem hmem
  obtain ⟨x, hx, htail⟩ := exists_follow_of_append h.walk
  obtain ⟨y, hy, hrest⟩ := Option.bind_eq_some_iff.mp htail
  obtain ⟨v, hv, hlast⟩ := exists_follow_of_append hrest
  obtain ⟨w, hw, -⟩ := Option.bind_eq_some_iff.mp hlast
  have hloop : follow move source (early ++ e :: loop) = some v := by
    rw [follow_append, hx]
    simpa [follow, hy] using hv
  -- the second use starts or ends where the first one starts
  rcases hback hy hw with rfl | rfl
  · have hpath : early ++ e :: (loop ++ e :: rest) =
        early ++ (e :: loop) ++ (e :: rest) := by simp
    have hnil := (hpath ▸ h).eq_nil_of_return hx hloop
    simp at hnil
  · have hpath : early ++ e :: (loop ++ e :: rest) = (early ++ e :: loop) ++ e :: rest := by simp
    exact h.not_reached hpath hloop hw rfl hx

lemma IsShortest.nodup (h : IsShortest move source destination path)
    (hback : ∀ {v w x y : V} {e : E}, move x e = some y → move v e = some w → v = x ∨ w = x) :
    path.Nodup := by
  have hparts : ∀ later early, path = early ++ later → later.Nodup := by
    intro later
    induction later with
    | nil => exact fun _ _ => List.nodup_nil
    | cons e later ih =>
      intro early hpath
      refine List.nodup_cons.mpr ⟨(hpath ▸ h).not_mem_later hback, ih (early ++ [e]) ?_⟩
      simp [hpath]
  exact hparts path [] rfl

lemma IsShortest.not_destination (h : IsShortest move source destination path)
    (hpath : path = part ++ e :: rest) : follow move source part ≠ some destination := by
  intro hreached
  have hle := h.least _ hreached
  rw [hpath] at hle
  simp only [List.length_append, List.length_cons] at hle
  omega

end Walks

/-! ## The search -/

/-- A path under construction. -/
structure Partial (V E : Type*) where
  node : V
  path : List E
  visited : List V

/-- The state of the search. -/
structure State (V E : Type*) where
  queue : List (Partial V E)
  shortest : Option ℕ := none
  found : List (List E) := []

section Search

variable [DecidableEq V] (adjacency : V → List (V × E)) (destination : V)

/-- What one edge out of the node of a partial path does. -/
def scanEdge (item : Partial V E) (state : State V E) (edge : V × E) : State V E :=
  if edge.1 ∈ item.visited then state
  else
    let candidate := item.path ++ [edge.2]
    if edge.1 = destination then
      let shortest := state.shortest.getD candidate.length
      { state with
        shortest := some shortest
        found :=
          if candidate.length = shortest then state.found ++ [candidate] else state.found }
    else
      { state with queue := state.queue ++ [⟨edge.1, candidate, edge.1 :: item.visited⟩] }

/-- Whether a partial path is not shorter than what was found. -/
def isCut (shortest : Option ℕ) (item : Partial V E) : Bool :=
  match shortest with
  | some bound => bound ≤ item.path.length
  | none => false

/-- Take the first partial path from the queue. -/
def takeFirst (state : State V E) : State V E :=
  match state.queue with
  | [] => state
  | item :: queue =>
    if isCut state.shortest item then { state with queue := queue }
    else (adjacency item.node).foldl (scanEdge destination item) { state with queue := queue }

/-- The loop over the queue; it has no result when the fuel runs out. -/
def searchFrom : ℕ → State V E → Option (List (List E))
  | 0, state => if state.queue.isEmpty then some state.found else none
  | fuel + 1, state =>
    if state.queue.isEmpty then some state.found
    else searchFrom fuel (takeFirst adjacency destination state)

/-- The partial paths that extend one by some edges. -/
def extendBy (item : Partial V E) (edges : List (V × E)) : List (Partial V E) :=
  (edges.filter fun edge => edge.1 ∉ item.visited ∧ edge.1 ≠ destination).map fun edge =>
    ⟨edge.1, item.path ++ [edge.2], edge.1 :: item.visited⟩

/-- The paths that reach the destination by one of some edges. -/
def hitBy (item : Partial V E) (edges : List (V × E)) : List (List E) :=
  (edges.filter fun edge => edge.1 ∉ item.visited ∧ edge.1 = destination).map fun edge =>
    item.path ++ [edge.2]

/-- The partial paths that extend one. -/
def extensions (item : Partial V E) : List (Partial V E) :=
  extendBy destination item (adjacency item.node)

/-- The paths that reach the destination by one more edge. -/
def hits (item : Partial V E) : List (List E) := hitBy destination item (adjacency item.node)

/-- The partial paths with a given number of edges. -/
def level (source : V) : ℕ → List (Partial V E)
  | 0 => [⟨source, [], [source]⟩]
  | k + 1 => (level source k).flatMap (extensions adjacency destination)

/-- The paths that reach the destination from the partial paths with a given number of edges. -/
def levelHits (source : V) (k : ℕ) : List (List E) :=
  (level adjacency destination source k).flatMap (hits adjacency destination)

/-- How many partial paths there are up to a number of edges. -/
def sizeUpTo (source : V) (k : ℕ) : ℕ :=
  ((List.range k).map fun j => (level adjacency destination source j).length).sum

/-- The search from a source; `nodes` bounds the number of nodes on a path. -/
def search (nodes : List V) (source : V) : Option (List (List E)) :=
  searchFrom adjacency destination (sizeUpTo adjacency destination source (nodes.length + 1))
    { queue := [⟨source, [], [source]⟩] }

end Search

/-! ## One partial path -/

section Loop

variable [DecidableEq V] {adjacency : V → List (V × E)} {destination : V}

/-- The bound after paths of one length were found. -/
def boundAfter (shortest : Option ℕ) (length : ℕ) (paths : List (List E)) : Option ℕ :=
  if paths = [] then shortest else some length

/-- No bound was set, or the bound is the given length. -/
def BoundIs (length : ℕ) (shortest : Option ℕ) : Prop :=
  ∀ bound, shortest = some bound → bound = length

variable {length : ℕ} {shortest : Option ℕ} {item : Partial V E} {queue : List (Partial V E)}
  {found : List (List E)} {bound : ℕ}

lemma BoundIs.after (h : BoundIs length shortest) (paths : List (List E)) :
    BoundIs length (boundAfter shortest length paths) := by
  intro bound hbound
  unfold boundAfter at hbound
  split_ifs at hbound with hpaths
  · exact h bound hbound
  · exact (Option.some.inj hbound).symm

lemma boundAfter_append (shortest : Option ℕ) (length : ℕ) (paths more : List (List E)) :
    boundAfter (boundAfter shortest length paths) length more =
      boundAfter shortest length (paths ++ more) := by
  unfold boundAfter
  by_cases hpaths : paths = [] <;> by_cases hmore : more = [] <;> simp [hpaths, hmore]

/-- What the edges out of the node of a partial path do together. -/
lemma foldl_scanEdge (item : Partial V E) (edges : List (V × E)) (state : State V E)
    (h : BoundIs (item.path.length + 1) state.shortest) :
    edges.foldl (scanEdge destination item) state =
      { queue := state.queue ++ extendBy destination item edges
        shortest :=
          boundAfter state.shortest (item.path.length + 1) (hitBy destination item edges)
        found := state.found ++ hitBy destination item edges } := by
  induction edges generalizing state with
  | nil => simp [extendBy, hitBy, boundAfter]
  | cons edge edges ih =>
    rw [List.foldl_cons]
    by_cases hvisited : edge.1 ∈ item.visited
    · rw [scanEdge, if_pos hvisited, ih state h]
      simp [extendBy, hitBy, hvisited]
    by_cases hhit : edge.1 = destination
    · have hlength : (item.path ++ [edge.2]).length =
          state.shortest.getD (item.path ++ [edge.2]).length := by
        cases hshortest : state.shortest with
        | none => rfl
        | some bound => simpa using (h bound hshortest).symm
      have hstate : scanEdge destination item state edge =
          { state with
            shortest := some (item.path.length + 1)
            found := state.found ++ [item.path ++ [edge.2]] } := by
        rw [scanEdge, if_neg hvisited]
        simp only [if_pos hhit, ← hlength]
        simp
      have hbound : BoundIs (item.path.length + 1) (some (item.path.length + 1)) := by
        intro bound hbound
        exact (Option.some.inj hbound).symm
      have hhits : hitBy destination item (edge :: edges) =
          (item.path ++ [edge.2]) :: hitBy destination item edges := by
        have hkeep : decide (edge.1 ∉ item.visited ∧ edge.1 = destination) = true :=
          decide_eq_true ⟨hvisited, hhit⟩
        rw [hitBy, List.filter_cons, if_pos hkeep]
        rfl
      have hextend : extendBy destination item (edge :: edges) =
          extendBy destination item edges := by
        simp [extendBy, hhit]
      rw [hstate, ih _ hbound, hhits, hextend]
      by_cases hrest : hitBy destination item edges = [] <;> simp [boundAfter, hrest]
    · have hstate : scanEdge destination item state edge =
          { state with
            queue := state.queue ++
              [⟨edge.1, item.path ++ [edge.2], edge.1 :: item.visited⟩] } := by
        rw [scanEdge, if_neg hvisited]
        simp only [if_neg hhit]
      have hhits : hitBy destination item (edge :: edges) = hitBy destination item edges := by
        simp [hitBy, hhit]
      have hextend : extendBy destination item (edge :: edges) =
          ⟨edge.1, item.path ++ [edge.2], edge.1 :: item.visited⟩ ::
            extendBy destination item edges := by
        have hkeep : decide (edge.1 ∉ item.visited ∧ edge.1 ≠ destination) = true :=
          decide_eq_true ⟨hvisited, hhit⟩
        rw [extendBy, List.filter_cons, if_pos hkeep]
        rfl
      have hrest := ih { state with
        queue := state.queue ++ [Partial.mk edge.1 (item.path ++ [edge.2])
          (edge.1 :: item.visited)] } h
      rw [hstate, hrest, hhits, hextend]
      simp

lemma takeFirst_of_not_isCut (hbound : BoundIs (item.path.length + 1) shortest) :
    takeFirst adjacency destination ⟨item :: queue, shortest, found⟩ =
      { queue := queue ++ extensions adjacency destination item
        shortest := boundAfter shortest (item.path.length + 1) (hits adjacency destination item)
        found := found ++ hits adjacency destination item } := by
  have hcut : isCut shortest item = false := by
    cases hshortest : shortest with
    | none => rfl
    | some bound =>
      have := hbound bound hshortest
      simp [isCut, this]
  rw [takeFirst]
  simp only [hcut, Bool.false_eq_true, if_false]
  exact foldl_scanEdge item _ _ hbound

lemma takeFirst_of_isCut (hcut : bound ≤ item.path.length) :
    takeFirst adjacency destination ⟨item :: queue, some bound, found⟩ =
      ⟨queue, some bound, found⟩ := by
  simp [takeFirst, isCut, hcut]

/-! ## One level -/

variable (adjacency destination) in
/-- **A level of the queue** is replaced by the next one, and its hits are found. -/
lemma searchFrom_level (items next : List (Partial V E)) (shortest : Option ℕ)
    (found : List (List E)) (fuel : ℕ) (hitems : ∀ item ∈ items, item.path.length = length)
    (hbound : BoundIs (length + 1) shortest) :
    searchFrom adjacency destination (items.length + fuel) ⟨items ++ next, shortest, found⟩ =
      searchFrom adjacency destination fuel
        { queue := next ++ items.flatMap (extensions adjacency destination)
          shortest :=
            boundAfter shortest (length + 1) (items.flatMap (hits adjacency destination))
          found := found ++ items.flatMap (hits adjacency destination) } := by
  induction items generalizing next shortest found with
  | nil => simp [boundAfter]
  | cons item items ih =>
    have hlength : item.path.length = length := hitems item List.mem_cons_self
    have hfuel : (item :: items).length + fuel = (items.length + fuel) + 1 := by
      rw [List.length_cons]
      omega
    rw [hfuel, searchFrom, if_neg (by simp), List.cons_append,
      takeFirst_of_not_isCut (hlength ▸ hbound), List.append_assoc, hlength,
      ih _ _ _ (fun other hother => hitems other (List.mem_cons_of_mem _ hother))
        (hbound.after _)]
    simp only [List.flatMap_cons, List.append_assoc, boundAfter_append]

variable (adjacency destination) in
lemma searchFrom_cut (items : List (Partial V E)) (found : List (List E)) (fuel : ℕ)
    (hitems : ∀ item ∈ items, bound ≤ item.path.length) :
    searchFrom adjacency destination (items.length + fuel) ⟨items, some bound, found⟩ =
      some found := by
  induction items with
  | nil =>
    cases fuel with
    | zero => rfl
    | succ fuel => simp [searchFrom]
  | cons item items ih =>
    have hfuel : (item :: items).length + fuel = (items.length + fuel) + 1 := by
      rw [List.length_cons]
      omega
    rw [hfuel, searchFrom, if_neg (by simp), takeFirst_of_isCut (hitems item List.mem_cons_self)]
    exact ih fun other hother => hitems other (List.mem_cons_of_mem _ hother)

end Loop

/-! ## The partial paths of a level -/

/-- The adjacency lists the moves out of each node, the edges to other nodes once each, and stays
within some nodes. -/
structure Lists (adjacency : V → List (V × E)) (move : V → E → Option V) (nodes : List V) :
    Prop where
  mem_iff : ∀ v w e, (w, e) ∈ adjacency v ↔ move v e = some w
  nodup : ∀ (v : V) (keep : V × E → Bool), (∀ edge, keep edge = true → edge.1 ≠ v) →
    (((adjacency v).filter keep).map Prod.snd).Nodup
  closed : ∀ v ∈ nodes, ∀ edge ∈ adjacency v, edge.1 ∈ nodes

section Levels

variable [DecidableEq V] {adjacency : V → List (V × E)} {move : V → E → Option V}
  {nodes : List V} {source destination : V}

/-- What holds of a partial path with a given number of edges. -/
structure OnLevel (move : V → E → Option V) (nodes : List V) (source : V) (k : ℕ)
    (item : Partial V E) : Prop where
  length : item.path.length = k
  walk : follow move source item.path = some item.node
  visitedLength : item.visited.length = k + 1
  visitedNodup : item.visited.Nodup
  visitedNodes : ∀ v ∈ item.visited, v ∈ nodes
  nodeVisited : item.node ∈ item.visited
  /-- A visited node is the end of a part of the path. -/
  reached : ∀ v ∈ item.visited, ∃ part rest, item.path = part ++ rest ∧
    follow move source part = some v

variable {item : Partial V E} {path : List E} {k : ℕ}

lemma mem_extensions {child : Partial V E} :
    child ∈ extensions adjacency destination item ↔
      ∃ w e, (w, e) ∈ adjacency item.node ∧ w ∉ item.visited ∧ w ≠ destination ∧
        child = ⟨w, item.path ++ [e], w :: item.visited⟩ := by
  simp only [extensions, extendBy, List.mem_map, List.mem_filter, decide_eq_true_eq, Prod.exists]
  constructor
  · rintro ⟨w, e, ⟨hmem, hvisited, hne⟩, rfl⟩
    exact ⟨w, e, hmem, hvisited, hne, rfl⟩
  · rintro ⟨w, e, hmem, hvisited, hne, rfl⟩
    exact ⟨w, e, ⟨hmem, hvisited, hne⟩, rfl⟩

lemma mem_hits :
    path ∈ hits adjacency destination item ↔
      ∃ e, (destination, e) ∈ adjacency item.node ∧ destination ∉ item.visited ∧
        path = item.path ++ [e] := by
  simp only [hits, hitBy, List.mem_map, List.mem_filter, decide_eq_true_eq, Prod.exists]
  constructor
  · rintro ⟨w, e, ⟨hmem, hvisited, rfl⟩, rfl⟩
    exact ⟨e, hmem, hvisited, rfl⟩
  · rintro ⟨e, hmem, hvisited, rfl⟩
    exact ⟨destination, e, ⟨hmem, hvisited, rfl⟩, rfl⟩

omit [DecidableEq V] in
/-- Extending a partial path by an edge to a node it has not visited. -/
lemma OnLevel.extend (hlists : Lists adjacency move nodes) (h : OnLevel move nodes source k item)
    {w : V} {e : E} (hmem : (w, e) ∈ adjacency item.node) (hvisited : w ∉ item.visited) :
    OnLevel move nodes source (k + 1) ⟨w, item.path ++ [e], w :: item.visited⟩ := by
  have hmove : move item.node e = some w := (hlists.mem_iff _ _ _).mp hmem
  have hwalk : follow move source (item.path ++ [e]) = some w := follow_concat h.walk hmove
  constructor
  · simp [h.length]
  · exact hwalk
  · simp [h.visitedLength]
  · exact List.nodup_cons.mpr ⟨hvisited, h.visitedNodup⟩
  · intro v hv
    rcases List.mem_cons.mp hv with rfl | hv
    · exact hlists.closed _ (h.visitedNodes _ h.nodeVisited) _ hmem
    · exact h.visitedNodes v hv
  · exact List.mem_cons_self
  · intro v hv
    rcases List.mem_cons.mp hv with rfl | hv
    · exact ⟨item.path ++ [e], [], by simp, hwalk⟩
    · obtain ⟨part, rest, hpath, hpart⟩ := h.reached v hv
      exact ⟨part, rest ++ [e], by simp [hpath], hpart⟩

section Listed

variable (hlists : Lists adjacency move nodes) (hsource : source ∈ nodes)
include hlists hsource

lemma onLevel_of_mem_level
    (hitem : item ∈ level adjacency destination source k) : OnLevel move nodes source k item := by
  induction k generalizing item with
  | zero =>
    rw [level, List.mem_singleton] at hitem
    subst hitem
    refine ⟨rfl, rfl, rfl, List.nodup_singleton _, ?_, List.mem_singleton_self _, ?_⟩
    · intro v hv
      rw [List.mem_singleton.mp hv]
      exact hsource
    · intro v hv
      rw [List.mem_singleton.mp hv]
      exact ⟨[], [], rfl, rfl⟩
  | succ k ih =>
    obtain ⟨parent, hparent, hchild⟩ := List.mem_flatMap.mp hitem
    obtain ⟨w, e, hmem, hvisited, -, rfl⟩ := mem_extensions.mp hchild
    exact (ih hparent).extend hlists hmem hvisited

lemma level_eq_nil (hk : nodes.length ≤ k) : level adjacency destination source k = [] := by
  rw [List.eq_nil_iff_forall_not_mem]
  intro item hitem
  have h := onLevel_of_mem_level hlists hsource hitem
  have hle : item.visited.length ≤ nodes.length :=
    (h.visitedNodup.subperm h.visitedNodes).length_le
  have := h.visitedLength
  omega

lemma walk_of_mem_levelHits (h : path ∈ levelHits adjacency destination source k) :
    path.length = k + 1 ∧ follow move source path = some destination := by
  obtain ⟨item, hitem, hhit⟩ := List.mem_flatMap.mp h
  obtain ⟨e, hmem, -, rfl⟩ := mem_hits.mp hhit
  have hlevel := onLevel_of_mem_level hlists hsource hitem
  refine ⟨by simp [hlevel.length], ?_⟩
  exact follow_concat hlevel.walk ((hlists.mem_iff _ _ _).mp hmem)

/-- The proper parts of a shortest walk are partial paths. -/
lemma exists_partial_of_isShortest (h : IsShortest move source destination path) (part : List E) :
    ∀ e rest, path = part ++ e :: rest →
      ∃ item ∈ level adjacency destination source part.length, item.path = part := by
  induction part using List.reverseRecOn with
  | nil => exact fun e rest _ => ⟨_, List.mem_singleton_self _, rfl⟩
  | append_singleton part last ih =>
    intro e rest hpath
    have hpath' : path = part ++ last :: (e :: rest) := by simp [hpath]
    obtain ⟨item, hitem, hitempath⟩ := ih last (e :: rest) hpath'
    have hlevel := onLevel_of_mem_level hlists hsource hitem
    have hwalk := hlevel.walk
    rw [hitempath] at hwalk
    obtain ⟨w, hw⟩ : ∃ w, move item.node last = some w := by
      have hfull := h.walk
      rw [hpath', follow_append, hwalk, Option.bind_some, follow] at hfull
      obtain ⟨w, hw, -⟩ := Option.bind_eq_some_iff.mp hfull
      exact ⟨w, hw⟩
    have hvisited : w ∉ item.visited := by
      intro hmem
      obtain ⟨early, late, hearly, hreached⟩ := hlevel.reached w hmem
      exact h.not_reached hpath' hwalk hw (hitempath ▸ hearly) hreached
    have hne : w ≠ destination := by
      rintro rfl
      exact h.not_destination hpath (follow_concat hwalk hw)
    refine ⟨⟨w, item.path ++ [last], w :: item.visited⟩, ?_, by simp [hitempath]⟩
    rw [List.length_append, List.length_singleton, level]
    exact List.mem_flatMap.mpr ⟨item, hitem, mem_extensions.mpr
      ⟨w, last, (hlists.mem_iff _ _ _).mpr hw, hvisited, hne, rfl⟩⟩

/-- **A shortest walk is hit** from the level of all its edges but the last. -/
lemma mem_levelHits_of_isShortest (hne : source ≠ destination)
    (h : IsShortest move source destination path) :
    ∃ k, path.length = k + 1 ∧ path ∈ levelHits adjacency destination source k := by
  rcases List.eq_nil_or_concat path with rfl | ⟨part, e, rfl⟩
  · have hwalk := h.walk
    exact absurd (Option.some.inj hwalk) hne
  rw [List.concat_eq_append] at h ⊢
  obtain ⟨item, hitem, hitempath⟩ := exists_partial_of_isShortest hlists hsource h part e [] rfl
  have hlevel := onLevel_of_mem_level hlists hsource hitem
  have hwalk := hlevel.walk
  rw [hitempath] at hwalk
  have hlast : move item.node e = some destination := by
    have hfull := h.walk
    rw [follow_append, hwalk] at hfull
    simpa [follow] using hfull
  have hvisited : destination ∉ item.visited := by
    intro hmem
    obtain ⟨early, late, hearly, hreached⟩ := hlevel.reached destination hmem
    exact h.not_reached rfl hwalk hlast (hitempath ▸ hearly) hreached
  refine ⟨part.length, by simp, List.mem_flatMap.mpr ⟨item, hitem, mem_hits.mpr ?_⟩⟩
  exact ⟨e, (hlists.mem_iff _ _ _).mpr hlast, hvisited, by rw [hitempath]⟩

end Listed

end Levels

/-! ## Each path once -/

section Once

variable [DecidableEq V] {adjacency : V → List (V × E)} {move : V → E → Option V}
  {nodes : List V} {source destination : V}

omit [DecidableEq V] in
lemma nodup_flatMap_extend {items : List (Partial V E)} {edges : Partial V E → List E}
    (hitems : (items.map Partial.path).Nodup) (hedges : ∀ item ∈ items, (edges item).Nodup) :
    (items.flatMap fun item => (edges item).map fun e => item.path ++ [e]).Nodup := by
  rw [List.nodup_flatMap]
  constructor
  · intro item hitem
    refine (hedges item hitem).map ?_
    intro e f hef
    simpa using hef
  · refine (List.pairwise_map.mp hitems).imp ?_
    intro item other hne path hpath hother
    obtain ⟨e, -, rfl⟩ := List.mem_map.mp hpath
    obtain ⟨f, -, hf⟩ := List.mem_map.mp hother
    exact hne (List.append_inj_left' hf rfl).symm

section Listed

variable (hlists : Lists adjacency move nodes) (hsource : source ∈ nodes)
include hlists hsource

lemma nodup_usable {k : ℕ}
    {item : Partial V E} (hitem : item ∈ level adjacency destination source k)
    (keep : V × E → Bool) (hkeep : ∀ edge, keep edge = true → edge.1 ∉ item.visited) :
    (((adjacency item.node).filter keep).map Prod.snd).Nodup := by
  apply hlists.nodup
  intro edge hedge heq
  exact hkeep edge hedge (heq ▸ (onLevel_of_mem_level hlists hsource hitem).nodeVisited)

lemma nodup_level (k : ℕ) :
    ((level adjacency destination source k).map Partial.path).Nodup := by
  induction k with
  | zero => exact List.nodup_singleton _
  | succ k ih =>
    rw [level, List.map_flatMap]
    have hmap : ∀ item : Partial V E,
        (extensions adjacency destination item).map Partial.path =
          (((adjacency item.node).filter fun edge =>
            edge.1 ∉ item.visited ∧ edge.1 ≠ destination).map Prod.snd).map
              fun e => item.path ++ [e] := by
      intro item
      simp only [extensions, extendBy, List.map_map]
      rfl
    simp only [hmap]
    refine nodup_flatMap_extend ih fun item hitem => ?_
    exact nodup_usable hlists hsource hitem _ fun edge hedge => (of_decide_eq_true hedge).1

lemma nodup_levelHits (k : ℕ) :
    (levelHits adjacency destination source k).Nodup := by
  have hmap : ∀ item : Partial V E, hits adjacency destination item =
      (((adjacency item.node).filter fun edge =>
        edge.1 ∉ item.visited ∧ edge.1 = destination).map Prod.snd).map
          fun e => item.path ++ [e] := by
    intro item
    simp only [hits, hitBy, List.map_map]
    rfl
  rw [levelHits, funext hmap]
  refine nodup_flatMap_extend (nodup_level hlists hsource k) fun item hitem => ?_
  exact nodup_usable hlists hsource hitem _ fun edge hedge => (of_decide_eq_true hedge).1

end Listed

end Once

/-! ## The whole search -/

section Spec

variable [DecidableEq V] {adjacency : V → List (V × E)} {move : V → E → Option V}
  {nodes : List V} {source destination : V}

lemma sizeUpTo_succ (k : ℕ) :
    sizeUpTo adjacency destination source (k + 1) =
      sizeUpTo adjacency destination source k +
        (level adjacency destination source k).length := by
  simp [sizeUpTo, List.range_succ]

variable {k : ℕ}

lemma sizeUpTo_mono {l : ℕ} (h : k ≤ l) :
    sizeUpTo adjacency destination source k ≤ sizeUpTo adjacency destination source l := by
  induction h with
  | refl => exact le_rfl
  | step _ ih =>
    rw [sizeUpTo_succ]
    exact ih.trans (Nat.le_add_right _ _)

/-- **Levels without hits** are taken from the queue one after the other. -/
lemma searchFrom_levels (hlists : Lists adjacency move nodes) (hsource : source ∈ nodes) (k : ℕ)
    (fuel : ℕ)
    (hnone : ∀ j < k, levelHits adjacency destination source j = []) :
    searchFrom adjacency destination (sizeUpTo adjacency destination source k + fuel)
        { queue := [⟨source, [], [source]⟩] } =
      searchFrom adjacency destination fuel
        { queue := level adjacency destination source k } := by
  induction k generalizing fuel with
  | zero =>
    rw [sizeUpTo, List.range_zero, List.map_nil, List.sum_nil, Nat.zero_add]
    rfl
  | succ k ih =>
    have hlevel := searchFrom_level adjacency destination
      (level adjacency destination source k) [] none [] fuel
      (fun item hitem => (onLevel_of_mem_level hlists hsource hitem).length)
      (fun bound hbound => by cases hbound)
    rw [sizeUpTo_succ, Nat.add_assoc, ih _ fun j hj => hnone j (by omega)]
    have hempty : (level adjacency destination source k).flatMap (hits adjacency destination) = [] :=
      hnone k (Nat.lt_succ_self k)
    rw [List.append_nil, hempty] at hlevel
    exact hlevel

omit [DecidableEq V] in
variable {path : List E}

lemma exists_isShortest (h : follow move source path = some destination) :
    ∃ other, IsShortest move source destination other ∧ other.length ≤ path.length := by
  classical
  have hlength : ∃ n, ∃ other : List E,
      follow move source other = some destination ∧ other.length = n := ⟨_, path, h, rfl⟩
  obtain ⟨other, hwalk, hn⟩ := Nat.find_spec hlength
  refine ⟨other, ⟨hwalk, ?_⟩, ?_⟩
  · intro third hthird
    rw [hn]
    exact Nat.find_min' hlength ⟨third, hthird, rfl⟩
  · rw [hn]
    exact Nat.find_min' hlength ⟨path, h, rfl⟩

section Listed

variable (hlists : Lists adjacency move nodes) (hsource : source ∈ nodes)
include hlists hsource

/-- The first level with hits is hit by the shortest walks. -/
lemma mem_levelHits_iff
    (hne : source ≠ destination) (hk : levelHits adjacency destination source k ≠ [])
    (hfirst : ∀ j < k, levelHits adjacency destination source j = []) :
    path ∈ levelHits adjacency destination source k ↔
      IsShortest move source destination path := by
  have hbound : ∀ {shortest : List E}, IsShortest move source destination shortest →
      ∃ j, k ≤ j ∧ shortest.length = j + 1 ∧
        shortest ∈ levelHits adjacency destination source j := by
    intro shortest hshortest
    obtain ⟨j, hlength, hmem⟩ := mem_levelHits_of_isShortest hlists hsource hne hshortest
    refine ⟨j, ?_, hlength, hmem⟩
    by_contra hlt
    rw [hfirst j (by omega)] at hmem
    cases hmem
  constructor
  · intro hpath
    obtain ⟨hlength, hwalk⟩ := walk_of_mem_levelHits hlists hsource hpath
    refine ⟨hwalk, ?_⟩
    intro other hother
    obtain ⟨shortest, hshortest, hle⟩ := exists_isShortest hother
    obtain ⟨j, hj, hshortestLength, -⟩ := hbound hshortest
    omega
  · intro hpath
    obtain ⟨j, hj, hlength, hmem⟩ := hbound hpath
    obtain ⟨other, hother⟩ := List.exists_mem_of_ne_nil _ hk
    obtain ⟨hotherLength, hotherWalk⟩ := walk_of_mem_levelHits hlists hsource hother
    have hle := hpath.least other hotherWalk
    have heq : j = k := by omega
    exact heq ▸ hmem

/-- The search ends with the hits of the first level that has any. -/
lemma search_eq_levelHits (hk : levelHits adjacency destination source k ≠ [])
    (hfirst : ∀ j < k, levelHits adjacency destination source j = []) :
    search adjacency destination nodes source =
      some (levelHits adjacency destination source k) := by
  have hlt : k < nodes.length := by
    by_contra hge
    apply hk
    rw [levelHits, level_eq_nil hlists hsource (by omega)]
    rfl
  have hfuel : sizeUpTo adjacency destination source (k + 2) ≤
      sizeUpTo adjacency destination source (nodes.length + 1) := sizeUpTo_mono (by omega)
  rw [sizeUpTo_succ, sizeUpTo_succ] at hfuel
  obtain ⟨rest, hrest⟩ := Nat.exists_eq_add_of_le hfuel
  -- the levels before, the level with the hits, and the next level, which is cut
  have hlevel := searchFrom_level adjacency destination (level adjacency destination source k) []
    none [] ((level adjacency destination source (k + 1)).length + rest)
    (fun item hitem => (onLevel_of_mem_level hlists hsource hitem).length)
    (fun bound hbound => by cases hbound)
  rw [List.append_nil, List.nil_append, List.nil_append] at hlevel
  have hbound : boundAfter none (k + 1) (levelHits adjacency destination source k) =
      some (k + 1) := if_neg hk
  have hcut := searchFrom_cut adjacency destination (level adjacency destination source (k + 1))
    (levelHits adjacency destination source k) rest
    (fun item hitem => (onLevel_of_mem_level hlists hsource hitem).length.ge)
  rw [search, hrest, Nat.add_assoc, Nat.add_assoc, searchFrom_levels hlists hsource k _ hfirst,
    hlevel]
  exact (congrArg (fun bound => searchFrom adjacency destination _ ⟨_, bound, _⟩) hbound).trans hcut

lemma search_eq_nil (hnone : ∀ k, levelHits adjacency destination source k = []) :
    search adjacency destination nodes source = some [] := by
  have hlevels : searchFrom adjacency destination
        (sizeUpTo adjacency destination source (nodes.length + 1) + 0)
        { queue := [⟨source, [], [source]⟩] } =
      searchFrom adjacency destination 0
        { queue := level adjacency destination source (nodes.length + 1) } :=
    searchFrom_levels hlists hsource (nodes.length + 1) 0 fun j _ => hnone j
  rw [Nat.add_zero, level_eq_nil hlists hsource (Nat.le_succ _)] at hlevels
  exact hlevels

/-- **The search finds the shortest walks**, each once: with fuel for as many levels as there are
nodes it ends. -/
theorem search_spec (hne : source ≠ destination) :
    ∃ found, search adjacency destination nodes source = some found ∧ found.Nodup ∧
      ∀ path, path ∈ found ↔ IsShortest move source destination path := by
  by_cases hhit : ∃ k, levelHits adjacency destination source k ≠ []
  · -- the first level with a hit decides
    classical
    have hfirst : ∀ j < Nat.find hhit, levelHits adjacency destination source j = [] :=
      fun j hj => not_not.mp (Nat.find_min hhit hj)
    exact ⟨_, search_eq_levelHits hlists hsource (Nat.find_spec hhit) hfirst,
      nodup_levelHits hlists hsource _,
      fun path => mem_levelHits_iff hlists hsource hne (Nat.find_spec hhit) hfirst⟩
  · -- no level has a hit, and the levels end
    rw [not_exists] at hhit
    have hnone : ∀ k, levelHits adjacency destination source k = [] :=
      fun k => not_not.mp (hhit k)
    refine ⟨[], search_eq_nil hlists hsource hnone, List.nodup_nil, ?_⟩
    intro path
    refine ⟨fun hmem => absurd hmem List.not_mem_nil, fun hpath => ?_⟩
    obtain ⟨k, -, hmem⟩ := mem_levelHits_of_isShortest hlists hsource hne hpath
    rw [hnone k] at hmem
    exact hmem

end Listed

end Spec

end PathEnumerations
