import PacketTracer.Library.Machine

/-!
# The first hop of a breadth-first search

A graph is given by the list of the neighbours of each node.  `firstHop` searches it breadth first
from a source and remembers for every node through which neighbour of the source it was reached.

`firstHop_spec` says that the search finds a reachable target, and that the hop it returns is one
step closer to the target than the source.  The order in which the neighbours are listed does not
matter.
-/

namespace BreadthFirsts

variable {α : Type*}

/-! ## Walks and distances -/

/-- A walk of the given length. -/
inductive Walk (next : α → List α) : ℕ → α → α → Prop
  | nil (u : α) : Walk next 0 u u
  | concat {n : ℕ} {u v w : α} : Walk next n u v → w ∈ next v → Walk next (n + 1) u w

variable {next : α → List α} {n : ℕ} {u v w : α}

lemma Walk.cons (hstep : v ∈ next u) (h : Walk next n v w) : Walk next (n + 1) u w := by
  induction h with
  | nil v => exact Walk.concat (Walk.nil u) hstep
  | concat hwalk hlast ih => exact Walk.concat (ih hstep) hlast

lemma walk_one_iff : Walk next 1 u w ↔ w ∈ next u := by
  constructor
  · intro h
    rcases h with _ | ⟨hwalk, hstep⟩
    rcases hwalk with _ | _
    exact hstep
  · exact Walk.concat (Walk.nil u)

lemma Walk.exists_mem_next (h : Walk next (n + 1) u w) : ∃ v, v ∈ next u := by
  induction n generalizing w with
  | zero => exact ⟨w, walk_one_iff.mp h⟩
  | succ n ih =>
    rcases h with _ | ⟨hwalk, -⟩
    exact ih hwalk

/-- The length of a shortest walk. -/
structure IsDist (next : α → List α) (u v : α) (n : ℕ) : Prop where
  walk : Walk next n u v
  least : ∀ m, Walk next m u v → n ≤ m

/-- There is a walk. -/
def Reaches (next : α → List α) (u v : α) : Prop := ∃ n, Walk next n u v

lemma IsDist.unique {m : ℕ} (hm : IsDist next u v m) (hn : IsDist next u v n) : m = n :=
  le_antisymm (hm.least n hn.walk) (hn.least m hm.walk)

lemma isDist_one (h : v ∈ next u) (hne : u ≠ v) : IsDist next u v 1 := by
  refine ⟨walk_one_iff.mpr h, fun m hm => Nat.one_le_iff_ne_zero.mpr ?_⟩
  rintro rfl
  rcases hm with _ | _
  exact hne rfl

lemma isDist_two (hv : v ∈ next u) (hw : w ∈ next v) (hne : u ≠ w) (hapart : w ∉ next u) :
    IsDist next u w 2 := by
  refine ⟨Walk.cons hv (walk_one_iff.mpr hw), fun m hm => ?_⟩
  rcases m with _ | _ | m
  · rcases hm with _ | _
    exact absurd rfl hne
  · exact absurd (walk_one_iff.mp hm) hapart
  · omega

lemma IsDist.of_cons (h : IsDist next u w (n + 1)) (hstep : v ∈ next u) (hwalk : Walk next n v w) :
    IsDist next v w n := by
  refine ⟨hwalk, fun m hm => ?_⟩
  have hle := h.least (m + 1) (Walk.cons hstep hm)
  omega

variable {next' : α → List α} {target : α} {first : Option α} {vs seen : List α}
  {queue : List (α × Option α)}

lemma Walk.congr (h : ∀ u v, v ∈ next u → v ∈ next' u) (hwalk : Walk next n u v) :
    Walk next' n u v := by
  induction hwalk with
  | nil u => exact Walk.nil u
  | concat hwalk hstep ih => exact Walk.concat ih (h _ _ hstep)

lemma IsDist.congr (h : ∀ u v, v ∈ next u ↔ v ∈ next' u) (hdist : IsDist next u v n) :
    IsDist next' u v n :=
  ⟨hdist.walk.congr fun u v => (h u v).mp,
    fun m hm => hdist.least m (hm.congr fun u v => (h u v).mpr)⟩

/-! ## The search -/

variable [DecidableEq α]

/-- Go through the neighbours of a node: the hop of the target if it is among the new ones, else the
seen nodes and the queue. -/
def scan (target : α) (first : Option α) :
    List α → List α → List (α × Option α) → α ⊕ (List α × List (α × Option α))
  | [], seen, queue => .inr (seen, queue)
  | v :: vs, seen, queue =>
    if v ∈ seen then scan target first vs seen queue
    else
      let hop := first.getD v
      if v = target then .inl hop
      else scan target first vs (v :: seen) (queue ++ [(v, some hop)])

/-- Take nodes from the queue until the target is found. -/
def search (next : α → List α) (target : α) :
    ℕ → List α → List (α × Option α) → Option α
  | 0, _, _ => none
  | _, _, [] => none
  | fuel + 1, seen, (current, first) :: queue =>
    match scan target first (next current) seen queue with
    | .inl hop => some hop
    | .inr (seen, queue) => search next target fuel seen queue

/-- The first hop from a source to a target; `nodes` bounds the number of nodes, and the blocked
nodes are not entered. -/
def firstHop (next : α → List α) (nodes : List α) (source target : α) (blocked : List α) :
    Option α :=
  if source = target then none
  else search next target (nodes.length + 1) (source :: blocked) [(source, none)]

/-! ## One node -/

lemma scan_eq_inl {hop : α} (h : scan target first vs seen queue = .inl hop) :
    target ∈ vs ∧ hop = first.getD target := by
  induction vs generalizing seen queue with
  | nil => cases h
  | cons v vs ih =>
    unfold scan at h
    split_ifs at h with hseen htarget
    · obtain ⟨hmem, hhop⟩ := ih h
      exact ⟨List.mem_cons_of_mem v hmem, hhop⟩
    · subst htarget
      exact ⟨List.mem_cons_self, (Sum.inl.inj h).symm⟩
    · obtain ⟨hmem, hhop⟩ := ih h
      exact ⟨List.mem_cons_of_mem v hmem, hhop⟩

/-- What a scan that does not stop adds: the neighbours that were not seen. -/
structure Scanned (target : α) (first : Option α) (vs seen : List α) (queue : List (α × Option α))
    (seen' : List α) (queue' : List (α × Option α)) (new : List α) : Prop where
  mem_seen : ∀ v, v ∈ seen' ↔ v ∈ seen ∨ v ∈ new
  queue_eq : queue' = queue ++ new.map fun v => (v, some (first.getD v))
  nodup : new.Nodup
  fresh : ∀ v ∈ new, v ∈ vs ∧ v ∉ seen ∧ v ≠ target
  covered : ∀ v ∈ vs, v ∈ seen ∨ v ∈ new

/-- A scan that does not stop has passed over the seen neighbours. -/
lemma scan_eq_inr {seen' : List α} {queue' : List (α × Option α)}
    (h : scan target first vs seen queue = .inr (seen', queue')) :
    ∃ new, Scanned target first vs seen queue seen' queue' new := by
  induction vs generalizing seen queue with
  | nil =>
    obtain ⟨rfl, rfl⟩ := Prod.mk.inj (Sum.inr.inj h)
    exact ⟨[], by simp, by simp, List.nodup_nil, by simp, by simp⟩
  | cons v vs ih =>
    unfold scan at h
    split_ifs at h with hseen htarget
    · obtain ⟨new, hnew⟩ := ih h
      refine ⟨new, hnew.mem_seen, hnew.queue_eq, hnew.nodup, fun w hw => ?_, fun w hw => ?_⟩
      · obtain ⟨hmem, hrest⟩ := hnew.fresh w hw
        exact ⟨List.mem_cons_of_mem v hmem, hrest⟩
      · rcases List.mem_cons.mp hw with rfl | hw
        · exact Or.inl hseen
        · exact hnew.covered w hw
    · obtain ⟨new, hnew⟩ := ih h
      have hv : v ∉ new := fun hmem => (hnew.fresh v hmem).2.1 List.mem_cons_self
      refine ⟨v :: new, fun w => ?_, ?_, List.nodup_cons.mpr ⟨hv, hnew.nodup⟩, fun w hw => ?_,
        fun w hw => ?_⟩
      · rw [hnew.mem_seen, List.mem_cons, List.mem_cons]
        tauto
      · rw [hnew.queue_eq, List.append_assoc]
        rfl
      · rcases List.mem_cons.mp hw with rfl | hw
        · exact ⟨List.mem_cons_self, hseen, htarget⟩
        · obtain ⟨hmem, hfresh, hne⟩ := hnew.fresh w hw
          exact ⟨List.mem_cons_of_mem v hmem, fun h => hfresh (List.mem_cons_of_mem v h), hne⟩
      · rcases List.mem_cons.mp hw with rfl | hw
        · exact Or.inr List.mem_cons_self
        rcases hnew.covered w hw with hmem | hmem
        · rcases List.mem_cons.mp hmem with rfl | hmem
          · exact Or.inr List.mem_cons_self
          · exact Or.inl hmem
        · exact Or.inr (List.mem_cons_of_mem v hmem)

/-! ## The frontier -/

/-- The state of the search: `done` are the nodes taken from the queue, and `level` is the distance
at which a node was seen.  The queue is ordered by level and spans at most two levels. -/
structure Frontier (next : α → List α) (source target : α) (level : α → ℕ) (done seen : List α)
    (queue : List (α × Option α)) : Prop where
  mem_seen : ∀ v, v ∈ seen ↔ v ∈ done ∨ v ∈ queue.map Prod.fst
  nodup : (done ++ queue.map Prod.fst).Nodup
  source_seen : source ∈ seen
  level_source : level source = 0
  target_unseen : target ∉ seen
  closed : ∀ u ∈ done, ∀ v ∈ next u, v ∈ seen ∧ level v ≤ level u + 1
  done_le : ∀ u ∈ done, ∀ e ∈ queue, level u ≤ level e.1
  sorted : queue.Pairwise fun a b => level a.1 ≤ level b.1
  spread : ∀ a ∈ queue, ∀ b ∈ queue, level a.1 ≤ level b.1 + 1
  hop : ∀ e ∈ queue, (e.1 = source ∧ e.2 = none) ∨
    ∃ h ∈ next source, e.2 = some h ∧ ∃ n, level e.1 = n + 1 ∧ Walk next n h e.1

section Frontiers

variable {next : α → List α} {source target : α} {level : α → ℕ} {done seen : List α}
  {queue : List (α × Option α)}

omit [DecidableEq α] in
/-- A node at the end of a walk was seen in time, or the walk has left what was seen. -/
lemma Frontier.seen_or_pending (h : Frontier next source target level done seen queue) (hwalk : Walk next n source v) :
    (v ∈ seen ∧ level v ≤ n) ∨ ∃ e ∈ queue, level e.1 < n := by
  generalize hu : source = u at hwalk
  induction hwalk with
  | nil =>
    subst hu
    exact Or.inl ⟨h.source_seen, h.level_source.le⟩
  | concat hwalk hstep ih =>
    rename_i n u v w
    rcases ih hu with ⟨hseen, hlevel⟩ | ⟨e, he, hlt⟩
    · rcases (h.mem_seen v).mp hseen with hdone | hqueue
      · obtain ⟨hseen', hlevel'⟩ := h.closed v hdone w hstep
        exact Or.inl ⟨hseen', by omega⟩
      · obtain ⟨e, he, rfl⟩ := List.mem_map.mp hqueue
        exact Or.inr ⟨e, he, by omega⟩
    · exact Or.inr ⟨e, he, by omega⟩

omit [DecidableEq α] in
lemma Frontier.not_reaches (h : Frontier next source target level done seen []) :
    ¬Reaches next source target := by
  rintro ⟨n, hwalk⟩
  rcases h.seen_or_pending hwalk with ⟨hseen, -⟩ | ⟨e, he, -⟩
  · exact h.target_unseen hseen
  · cases he

omit [DecidableEq α] in
variable {current : α} {first : Option α}

lemma Frontier.lt_of_walk
    (h : Frontier next source target level done seen ((current, first) :: queue))
    (hwalk : Walk next n source target) : level current + 1 ≤ n := by
  rcases h.seen_or_pending hwalk with ⟨hseen, -⟩ | ⟨e, he, hlt⟩
  · exact absurd hseen h.target_unseen
  have hle : level current ≤ level e.1 := by
    rcases List.mem_cons.mp he with rfl | he
    · exact le_rfl
    · exact (List.pairwise_cons.mp h.sorted).1 e he
  omega

/-- When the scan of the head finds the target, its hop is one step closer. -/
lemma Frontier.of_scan_inl {hop : α}
    (h : Frontier next source target level done seen ((current, first) :: queue))
    (hscan : scan target first (next current) seen queue = .inl hop) :
    hop ∈ next source ∧ ∃ n, IsDist next hop target n ∧ IsDist next source target (n + 1) := by
  obtain ⟨hmem, rfl⟩ := scan_eq_inl hscan
  obtain ⟨hnext, n, hlevel, hwalk⟩ : first.getD target ∈ next source ∧
      ∃ n, level current = n ∧ Walk next n (first.getD target) target := by
    rcases h.hop _ List.mem_cons_self with ⟨hsource, hfirst⟩ | ⟨hop, hhop, hfirst, n, hlevel, hwalk⟩
    · obtain rfl : current = source := hsource
      obtain rfl : first = none := hfirst
      exact ⟨hmem, 0, h.level_source, Walk.nil target⟩
    · obtain rfl : first = some hop := hfirst
      exact ⟨hhop, n + 1, hlevel, Walk.concat hwalk hmem⟩
  have hdist : IsDist next source target (n + 1) := by
    refine ⟨Walk.cons hnext hwalk, fun m hm => ?_⟩
    have hle := h.lt_of_walk hm
    omega
  exact ⟨hnext, n, hdist.of_cons hnext hwalk, hdist⟩

/-- The new nodes are one level below the head. -/
def deeper (level : α → ℕ) (current : α) (new : List α) (v : α) : ℕ :=
  if v ∈ new then level current + 1 else level v

/-- The scan of the head keeps the frontier. -/
lemma Frontier.of_scan_inr {seen' : List α} {queue' : List (α × Option α)} {new : List α}
    (h : Frontier next source target level done seen ((current, first) :: queue))
    (hscan : Scanned target first (next current) seen queue seen' queue' new) :
    Frontier next source target (deeper level current new) (done ++ [current]) seen' queue' := by
  have hold : ∀ v ∈ seen, deeper level current new v = level v := fun v hv =>
    if_neg fun hnew => (hscan.fresh v hnew).2.1 hv
  have hnew : ∀ v ∈ new, deeper level current new v = level current + 1 := fun v hv => if_pos hv
  have hcurrent : current ∈ seen := (h.mem_seen current).mpr (Or.inr List.mem_cons_self)
  have hdone : ∀ u ∈ done, u ∈ seen := fun u hu => (h.mem_seen u).mpr (Or.inl hu)
  have hqueue : ∀ e ∈ queue, e.1 ∈ seen := fun e he =>
    (h.mem_seen e.1).mpr (Or.inr (List.mem_map_of_mem (List.mem_cons_of_mem _ he)))
  have hkeys : queue'.map Prod.fst = queue.map Prod.fst ++ new := by
    rw [hscan.queue_eq, List.map_append, List.map_map]
    exact congrArg _ (List.map_id new)
  have hmem : ∀ e ∈ queue', e ∈ queue ∨ ∃ v ∈ new, e = (v, some (first.getD v)) := by
    intro e he
    rw [hscan.queue_eq, List.mem_append, List.mem_map] at he
    exact he.imp_right fun ⟨v, hv, heq⟩ => ⟨v, hv, heq.symm⟩
  have hhead : ∀ e ∈ queue, level current ≤ level e.1 ∧ level e.1 ≤ level current + 1 :=
    fun e he => ⟨(List.pairwise_cons.mp h.sorted).1 e he,
      h.spread e (List.mem_cons_of_mem _ he) _ List.mem_cons_self⟩
  refine ⟨fun v => ?_, ?_, ?_, ?_, ?_, fun u hu v hv => ?_, fun u hu e he => ?_, ?_,
    fun a ha b hb => ?_, fun e he => ?_⟩
  · rw [hscan.mem_seen, h.mem_seen, hkeys, List.map_cons, List.mem_cons, List.mem_append,
      List.mem_append, List.mem_singleton]
    tauto
  · have hapart : (done ++ current :: (queue.map Prod.fst ++ new)).Nodup := by
      rw [← List.cons_append, ← List.append_assoc, List.nodup_append]
      refine ⟨h.nodup, hscan.nodup, fun a ha b hb heq => ?_⟩
      exact (hscan.fresh b hb).2.1 (heq ▸ (h.mem_seen a).mpr (List.mem_append.mp ha))
    rw [hkeys, List.append_assoc]
    exact hapart
  · exact (hscan.mem_seen source).mpr (Or.inl h.source_seen)
  · rw [hold source h.source_seen, h.level_source]
  · intro htarget
    rcases (hscan.mem_seen target).mp htarget with hseen | hmem
    · exact h.target_unseen hseen
    · exact (hscan.fresh target hmem).2.2 rfl
  · rcases List.mem_concat_iff.mp hu with hu | rfl
    · obtain ⟨hseen, hlevel⟩ := h.closed u hu v hv
      rw [hold v hseen, hold u (hdone u hu)]
      exact ⟨(hscan.mem_seen v).mpr (Or.inl hseen), hlevel⟩
    · rw [hold u hcurrent]
      rcases hscan.covered v hv with hseen | hfresh
      · refine ⟨(hscan.mem_seen v).mpr (Or.inl hseen), ?_⟩
        rw [hold v hseen]
        rcases (h.mem_seen v).mp hseen with hdone' | hpending
        · have hle : level v ≤ level u := h.done_le v hdone' _ List.mem_cons_self
          exact hle.trans (Nat.le_succ _)
        · obtain ⟨e, he, rfl⟩ := List.mem_map.mp hpending
          exact h.spread e he _ List.mem_cons_self
      · exact ⟨(hscan.mem_seen v).mpr (Or.inr hfresh), (hnew v hfresh).le⟩
  · have hle : level u ≤ level current := by
      rcases List.mem_concat_iff.mp hu with hu | hu
      · exact h.done_le u hu _ List.mem_cons_self
      · rw [hu]
    have hseen : u ∈ seen := by
      rcases List.mem_concat_iff.mp hu with hu | hu
      · exact hdone u hu
      · rwa [hu]
    rw [hold u hseen]
    rcases hmem e he with he | ⟨v, hv, rfl⟩
    · rw [hold e.1 (hqueue e he)]
      exact hle.trans (hhead e he).1
    · rw [hnew v hv]
      exact hle.trans (Nat.le_succ _)
  · rw [hscan.queue_eq, List.pairwise_append]
    refine ⟨?_, ?_, ?_⟩
    · refine (List.pairwise_cons.mp h.sorted).2.imp_of_mem fun {a b} ha hb hab => ?_
      rw [hold a.1 (hqueue a ha), hold b.1 (hqueue b hb)]
      exact hab
    · rw [List.pairwise_map]
      refine hscan.nodup.imp_of_mem fun {a b} ha hb _ => ?_
      rw [hnew a ha, hnew b hb]
    · intro a ha b hb
      obtain ⟨v, hv, rfl⟩ := List.mem_map.mp hb
      rw [hold a.1 (hqueue a ha), hnew v hv]
      exact (hhead a ha).2
  · rcases hmem a ha with ha | ⟨v, hv, rfl⟩ <;> rcases hmem b hb with hb | ⟨w, hw, rfl⟩
    · rw [hold a.1 (hqueue a ha), hold b.1 (hqueue b hb)]
      exact h.spread a (List.mem_cons_of_mem _ ha) b (List.mem_cons_of_mem _ hb)
    · rw [hold a.1 (hqueue a ha), hnew w hw]
      have hle := (hhead a ha).2
      omega
    · rw [hnew v hv, hold b.1 (hqueue b hb)]
      have hle := (hhead b hb).1
      omega
    · rw [hnew v hv, hnew w hw]
      omega
  · rcases hmem e he with he | ⟨v, hv, rfl⟩
    · rw [hold e.1 (hqueue e he)]
      exact h.hop e (List.mem_cons_of_mem _ he)
    obtain ⟨hv', -, -⟩ := hscan.fresh v hv
    rw [hnew v hv]
    refine Or.inr ?_
    rcases h.hop _ List.mem_cons_self with
      ⟨hsource, hfirst⟩ | ⟨hop, hhop, hfirst, n, hlevel, hwalk⟩
    · obtain rfl : current = source := hsource
      obtain rfl : first = none := hfirst
      exact ⟨v, hv', rfl, 0, by rw [h.level_source], Walk.nil v⟩
    · obtain rfl : first = some hop := hfirst
      exact ⟨hop, hhop, rfl, n + 1, by rw [← hlevel], Walk.concat hwalk hv'⟩

/-- The search from a frontier: the hop it returns is one step closer, and it returns one unless the
target is out of reach.  Every node is taken from the queue at most once, so the number of nodes
bounds the fuel. -/
lemma Frontier.search_spec {nodes : List α} (hclosed : ∀ u ∈ nodes, ∀ v ∈ next u, v ∈ nodes)
    {fuel : ℕ} (h : Frontier next source target level done seen queue)
    (hnodes : ∀ v ∈ done ++ queue.map Prod.fst, v ∈ nodes)
    (hfuel : nodes.length < fuel + done.length) :
    match search next target fuel seen queue with
    | some hop =>
      hop ∈ next source ∧ ∃ n, IsDist next hop target n ∧ IsDist next source target (n + 1)
    | none => ¬Reaches next source target := by
  induction fuel generalizing level done seen queue with
  | zero =>
    have hlength : (done ++ queue.map Prod.fst).length ≤ nodes.length :=
      (h.nodup.subperm hnodes).length_le
    rw [List.length_append] at hlength
    omega
  | succ fuel ih =>
    rcases queue with _ | ⟨⟨current, first⟩, queue⟩
    · exact h.not_reaches
    rw [search]
    rcases hscan : scan target first (next current) seen queue with hop | rest
    · exact h.of_scan_inl hscan
    obtain ⟨seen', queue'⟩ := rest
    obtain ⟨new, hnew⟩ := scan_eq_inr hscan
    refine ih (h.of_scan_inr hnew) (fun v hv => ?_) ?_
    · have hcurrent : current ∈ nodes :=
        hnodes current (List.mem_append_right _ List.mem_cons_self)
      rw [hnew.queue_eq, List.map_append, List.mem_append, List.mem_append, List.mem_append,
        List.mem_singleton] at hv
      rcases hv with (hv | rfl) | hv | hv
      · exact hnodes v (List.mem_append_left _ hv)
      · exact hcurrent
      · exact hnodes v (List.mem_append_right _ (List.mem_cons_of_mem _ hv))
      · rw [List.map_map] at hv
        obtain ⟨w, hw, rfl⟩ := List.mem_map.mp hv
        exact hclosed current hcurrent _ (hnew.fresh w hw).1
    · rw [List.length_append, List.length_singleton]
      omega

end Frontiers

/-! ## The first hop -/

section FirstHop

variable {next : α → List α} {nodes : List α} {source target hop : α}

omit [DecidableEq α] in
lemma frontier_start (hne : source ≠ target) :
    Frontier next source target (fun _ => 0) [] [source] [(source, none)] where
  mem_seen v := by simp
  nodup := List.nodup_singleton source
  source_seen := List.mem_singleton_self source
  level_source := rfl
  target_unseen := fun h => hne (List.mem_singleton.mp h).symm
  closed := by simp
  done_le := by simp
  sorted := List.pairwise_singleton _ _
  spread := by simp
  hop := by simp

/-- The first hop towards another node is one step closer, and there is one for every node that can
be reached. -/
theorem firstHop_spec (hclosed : ∀ u ∈ nodes, ∀ v ∈ next u, v ∈ nodes) (hsource : source ∈ nodes)
    (hne : source ≠ target) :
    match firstHop next nodes source target [] with
    | some hop =>
      hop ∈ next source ∧ ∃ n, IsDist next hop target n ∧ IsDist next source target (n + 1)
    | none => ¬Reaches next source target := by
  rw [firstHop, if_neg hne]
  refine (frontier_start hne).search_spec hclosed (fun v hv => ?_) ?_
  · rw [List.nil_append] at hv
    rwa [List.mem_singleton.mp hv]
  · exact Nat.lt_succ_self _

/-- A hop that a search returns is a neighbour of the source, whatever is blocked. -/
lemma mem_next_of_search {fuel : ℕ}
    (hqueue : ∀ e ∈ queue, (e.1 = source ∧ e.2 = none) ∨ ∃ h ∈ next source, e.2 = some h)
    (h : search next target fuel seen queue = some hop) : hop ∈ next source := by
  induction fuel generalizing seen queue with
  | zero => cases h
  | succ fuel ih =>
    rcases queue with _ | ⟨⟨current, first⟩, queue⟩
    · cases h
    rw [search] at h
    have hgetD : ∀ v ∈ next current, first.getD v ∈ next source := by
      intro v hv
      rcases hqueue _ List.mem_cons_self with ⟨hcurrent, hfirst⟩ | ⟨w, hw, hfirst⟩
      · obtain rfl : current = source := hcurrent
        obtain rfl : first = none := hfirst
        exact hv
      · obtain rfl : first = some w := hfirst
        exact hw
    rcases hscan : scan target first (next current) seen queue with found | rest
    · rw [hscan] at h
      obtain ⟨hmem, rfl⟩ := scan_eq_inl hscan
      exact Option.some.inj h ▸ hgetD target hmem
    obtain ⟨seen', queue'⟩ := rest
    obtain ⟨new, hnew⟩ := scan_eq_inr hscan
    rw [hscan] at h
    refine ih (fun e he => ?_) h
    rw [hnew.queue_eq, List.mem_append, List.mem_map] at he
    rcases he with he | ⟨v, hv, rfl⟩
    · exact hqueue e (List.mem_cons_of_mem _ he)
    · exact Or.inr ⟨_, hgetD v (hnew.fresh v hv).1, rfl⟩

lemma mem_next_of_firstHop {blocked : List α}
    (h : firstHop next nodes source target blocked = some hop) : hop ∈ next source := by
  rw [firstHop] at h
  split_ifs at h
  refine mem_next_of_search (fun e he => Or.inl ?_) h
  rw [List.mem_singleton.mp he]
  exact ⟨rfl, rfl⟩

end FirstHop

/-! ## Blocked nodes -/

section Blocked

variable {next : α → List α} {nodes blocked : List α} {source : α}

/-- The graph without the edges into the blocked nodes. -/
def avoiding (next : α → List α) (blocked : List α) (u : α) : List α :=
  (next u).filter (· ∉ blocked)

@[simp] lemma avoiding_nil (next : α → List α) : avoiding next [] = next := by
  funext u
  simp [avoiding]

lemma scan_append_blocked (seen : List α) : scan target first vs (seen ++ blocked) queue =
    (scan target first (vs.filter (· ∉ blocked)) seen queue).map id
      fun rest => (rest.1 ++ blocked, rest.2) := by
  induction vs generalizing seen queue with
  | nil => rfl
  | cons v vs ih =>
    by_cases hblocked : v ∈ blocked
    · rw [List.filter_cons_of_neg (by simpa using hblocked), ← ih, scan]
      simp [hblocked]
    · have hseen : v ∈ seen ++ blocked ↔ v ∈ seen := by simp [hblocked]
      rw [List.filter_cons_of_pos (by simpa using hblocked), scan, scan]
      simp only [hseen]
      split_ifs
      · exact ih seen
      · rfl
      · exact ih (v :: seen)

/-- A search that does not enter the blocked nodes searches the graph without them. -/
lemma search_append_blocked (seen : List α) {fuel : ℕ} :
    search next target fuel (seen ++ blocked) queue =
      search (avoiding next blocked) target fuel seen queue := by
  induction fuel generalizing seen queue with
  | zero => rfl
  | succ fuel ih =>
    rcases queue with _ | ⟨⟨current, first⟩, queue⟩
    · rfl
    rw [search, search, scan_append_blocked, avoiding]
    rcases scan target first ((next current).filter (· ∉ blocked)) seen queue with hop | rest
    · rfl
    · exact ih rest.1

lemma firstHop_blocked : firstHop next nodes source target blocked =
    firstHop (avoiding next blocked) nodes source target [] := by
  unfold firstHop
  split_ifs
  · rfl
  · exact search_append_blocked [source]

end Blocked

end BreadthFirsts
