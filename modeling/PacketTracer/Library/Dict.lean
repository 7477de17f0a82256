import PacketTracer.Library.Machine

/-!
# Insertion-ordered dictionaries

A `Dict κ ν` is a finite map that remembers the order in which its keys were first written.
Writing to a key that is already present changes its value and keeps its place; a new key goes to
the end.  That keys are pairwise distinct is a field of the structure.

The lemmas say how reading (`get?`) composes with the ways of building a dictionary: `set`,
`ofList` (a comprehension: the last entry of a key wins) and `update`.
-/

namespace Dicts

/-- A finite map in insertion order. -/
structure Dict (κ ν : Type*) where
  /-- The entries, oldest key first. -/
  entries : List (κ × ν)
  /-- No key occurs twice. -/
  keysNodup : (entries.map Prod.fst).Nodup

/-- Dictionaries with the same entries are the same. -/
instance {κ ν : Type*} [DecidableEq κ] [DecidableEq ν] : DecidableEq (Dict κ ν) := fun a b =>
  decidable_of_iff (a.entries = b.entries)
    ⟨fun h => by cases a; cases b; congr, fun h => congrArg Dict.entries h⟩

/-- Overwrite the value of `k`, or append the entry when `k` is new. -/
def setEntry {κ ν : Type*} [DecidableEq κ] (k : κ) (v : ν) : List (κ × ν) → List (κ × ν)
  | [] => [(k, v)]
  | e :: es => if e.1 = k then (k, v) :: es else e :: setEntry k v es

variable {κ ν : Type*} {es : List (κ × ν)}

lemma mem_keys_setEntry [DecidableEq κ] {k k' : κ} {v : ν} :
    k' ∈ (setEntry k v es).map Prod.fst ↔ k' = k ∨ k' ∈ es.map Prod.fst := by
  induction es with
  | nil => simp [setEntry]
  | cons e es ih =>
    by_cases h : e.1 = k
    · simp only [setEntry, h, if_true, List.map_cons, List.mem_cons]
      tauto
    · simp only [setEntry, h, if_false, List.map_cons, List.mem_cons, ih]
      tauto

lemma nodup_keys_setEntry [DecidableEq κ] (k : κ) (v : ν) (hes : (es.map Prod.fst).Nodup) :
    ((setEntry k v es).map Prod.fst).Nodup := by
  induction es with
  | nil => simp [setEntry]
  | cons e es ih =>
    rw [List.map_cons, List.nodup_cons] at hes
    by_cases h : e.1 = k
    · simp only [setEntry, h, if_true, List.map_cons, List.nodup_cons]
      exact ⟨h ▸ hes.1, hes.2⟩
    · rw [setEntry, if_neg h, List.map_cons, List.nodup_cons, mem_keys_setEntry]
      exact ⟨fun hmem => hmem.elim h hes.1, ih hes.2⟩

lemma length_setEntry [DecidableEq κ] (k : κ) (v : ν) (es : List (κ × ν)) :
    (setEntry k v es).length = if k ∈ es.map Prod.fst then es.length else es.length + 1 := by
  induction es with
  | nil => simp [setEntry]
  | cons e es ih =>
    by_cases h : e.1 = k
    · simp [setEntry, h]
    · have hne : k ≠ e.1 := Ne.symm h
      simp only [setEntry, h, if_false, List.length_cons, ih, List.map_cons, List.mem_cons, hne,
        false_or]
      split_ifs <;> rfl

namespace Dict

variable {κ ν : Type*} [DecidableEq κ]

/-- The dictionary without entries. -/
def empty : Dict κ ν := ⟨[], by simp⟩

/-- The value stored under `k`. -/
def get? (d : Dict κ ν) (k : κ) : Option ν := (d.entries.find? fun e => e.1 = k).map Prod.snd

/-- Write `v` under `k`. -/
def set (d : Dict κ ν) (k : κ) (v : ν) : Dict κ ν :=
  ⟨setEntry k v d.entries, nodup_keys_setEntry k v d.keysNodup⟩

/-- Write a list of entries one after the other. -/
def setAll (d : Dict κ ν) (es : List (κ × ν)) : Dict κ ν := es.foldl (fun d e => d.set e.1 e.2) d

/-- The dictionary a comprehension over the given entries builds. -/
def ofList (es : List (κ × ν)) : Dict κ ν := empty.setAll es

/-- Write every entry of `e` over `d`. -/
def update (d e : Dict κ ν) : Dict κ ν := d.setAll e.entries

/-- The keys in insertion order. -/
def keys (d : Dict κ ν) : List κ := d.entries.map Prod.fst

/-- The values in insertion order of their keys. -/
def values (d : Dict κ ν) : List ν := d.entries.map Prod.snd

/-- The number of entries. -/
def size (d : Dict κ ν) : ℕ := d.entries.length

/-- Delete the entry of `k`, if there is one. -/
def erase (d : Dict κ ν) (k : κ) : Dict κ ν :=
  ⟨d.entries.filter fun e => e.1 ≠ k, (List.filter_sublist.map _).nodup d.keysNodup⟩

/-- Whether `k` has an entry. -/
def contains (d : Dict κ ν) (k : κ) : Bool := (d.get? k).isSome

@[simp] lemma get?_empty (k : κ) : (empty : Dict κ ν).get? k = none := rfl

@[simp] lemma get?_set (d : Dict κ ν) (k k' : κ) (v : ν) :
    (d.set k v).get? k' = if k = k' then some v else d.get? k' := by
  obtain ⟨es, hes⟩ := d
  simp only [get?, set]
  clear hes
  induction es with
  | nil => by_cases h : k = k' <;> simp [setEntry, h]
  | cons e es ih =>
    by_cases he : e.1 = k
    · by_cases h : k = k' <;> simp [setEntry, he, h]
    by_cases h : e.1 = k'
    · have hkk' : k ≠ k' := fun hk => he (h.trans hk.symm)
      rw [setEntry, if_neg he, if_neg hkk', List.find?_cons_of_pos (by simpa using h),
        List.find?_cons_of_pos (by simpa using h)]
    · simp only [setEntry, he, if_false, List.find?_cons, h, decide_false]
      exact ih

lemma get?_setAll (d : Dict κ ν) (es : List (κ × ν)) (k : κ) :
    (d.setAll es).get? k =
      ((es.reverse.find? fun e => e.1 = k).map Prod.snd).or (d.get? k) := by
  induction es generalizing d with
  | nil => simp [setAll]
  | cons e es ih =>
    have hstep : d.setAll (e :: es) = (d.set e.1 e.2).setAll es := rfl
    rw [hstep, ih, get?_set, List.reverse_cons, List.find?_append]
    cases hfind : es.reverse.find? fun e => decide (e.1 = k) with
    | some f => simp
    | none => by_cases h : e.1 = k <;> simp [h]

variable {d : Dict κ ν} {k : κ} {v : ν} {es : List (κ × ν)}

/-- An entry of the dictionary is what reading its key gives, and conversely. -/
lemma get?_eq_some_iff_mem : d.get? k = some v ↔ (k, v) ∈ d.entries := by
  obtain ⟨es, hes⟩ := d
  simp only [get?, Option.map_eq_some_iff]
  constructor
  · rintro ⟨e, hfind, rfl⟩
    have hk : e.1 = k := by simpa using List.find?_some hfind
    exact hk ▸ List.mem_of_find?_eq_some hfind
  · intro hmem
    induction es with
    | nil => simp at hmem
    | cons e es ih =>
      rw [List.map_cons, List.nodup_cons] at hes
      rcases List.mem_cons.mp hmem with rfl | hmem
      · exact ⟨(k, v), by simp, rfl⟩
      · have hne : e.1 ≠ k := fun he => hes.1 (List.mem_map.mpr ⟨(k, v), hmem, he.symm⟩)
        obtain ⟨e', hfind, hv⟩ := ih hes.2 hmem
        exact ⟨e', by simp [hne, hfind], hv⟩

@[simp] lemma get?_erase (d : Dict κ ν) (k k' : κ) :
    (d.erase k).get? k' = if k = k' then none else d.get? k' := by
  unfold get? erase
  by_cases h : k = k'
  · rw [if_pos h, List.find?_eq_none.mpr, Option.map_none]
    intro e he
    simpa [h] using (List.mem_filter.mp he).2
  · rw [if_neg h, List.find?_filter]
    congr 2
    funext e
    by_cases he : e.1 = k'
    · simp [he, Ne.symm h]
    · simp [he]

lemma size_erase_le (d : Dict κ ν) (k : κ) : (d.erase k).size ≤ d.size :=
  List.length_filter_le _ _

lemma isSome_get?_iff_mem_keys : (d.get? k).isSome ↔ k ∈ d.keys := by
  simp [Option.isSome_iff_exists, get?_eq_some_iff_mem, keys]

lemma size_set (d : Dict κ ν) (k : κ) (v : ν) :
    (d.set k v).size = if (d.get? k).isSome then d.size else d.size + 1 := by
  simp only [isSome_get?_iff_mem_keys]
  exact length_setEntry k v d.entries

lemma mem_values_iff : v ∈ d.values ↔ ∃ k, d.get? k = some v := by
  simp [values, get?_eq_some_iff_mem]

lemma mem_or_get?_of_get?_setAll (h : (d.setAll es).get? k = some v) :
    (k, v) ∈ es ∨ ((∀ w, (k, w) ∉ es) ∧ d.get? k = some v) := by
  rw [get?_setAll] at h
  cases hfind : es.reverse.find? fun e => decide (e.1 = k) with
  | some f =>
    have hk : f.1 = k := by simpa using List.find?_some hfind
    have hmem : f ∈ es := List.mem_reverse.mp (List.mem_of_find?_eq_some hfind)
    have hv : f.2 = v := by simpa [hfind] using h
    exact Or.inl (hk ▸ hv ▸ hmem)
  | none =>
    refine Or.inr ⟨fun w hw => ?_, by simpa [hfind] using h⟩
    have := List.find?_eq_none.mp hfind (k, w) (List.mem_reverse.mpr hw)
    simp at this

lemma exists_get?_setAll_of_mem (h : (k, v) ∈ es) :
    ∃ w, (d.setAll es).get? k = some w ∧ (k, w) ∈ es := by
  have hsome : (es.reverse.find? fun e => decide (e.1 = k)).isSome := by
    rw [List.find?_isSome]
    exact ⟨(k, v), List.mem_reverse.mpr h, by simp⟩
  obtain ⟨f, hf⟩ := Option.isSome_iff_exists.mp hsome
  have hk : f.1 = k := by simpa using List.find?_some hf
  refine ⟨f.2, by simp [get?_setAll, hf], ?_⟩
  exact hk ▸ List.mem_reverse.mp (List.mem_of_find?_eq_some hf)

lemma get?_setAll_of_forall_ne (h : ∀ e ∈ es, e.1 ≠ k) : (d.setAll es).get? k = d.get? k := by
  have hnone : es.reverse.find? (fun e => decide (e.1 = k)) = none := by
    rw [List.find?_eq_none]
    intro e he
    simpa using h e (List.mem_reverse.mp he)
  simp [get?_setAll, hnone]

lemma mem_of_get?_ofList (h : (ofList es).get? k = some v) : (k, v) ∈ es := by
  rcases mem_or_get?_of_get?_setAll h with hmem | ⟨-, hnone⟩
  · exact hmem
  · simp at hnone

/-- A comprehension over items reads the value of an item that has the key. -/
lemma exists_of_get?_ofList {ι : Type*} {items : List ι} {key : ι → κ} {value : ι → ν}
    (h : (ofList (items.map fun item => (key item, value item))).get? k = some v) :
    ∃ item ∈ items, key item = k ∧ value item = v := by
  obtain ⟨item, hitem, heq⟩ := List.mem_map.mp (mem_of_get?_ofList h)
  exact ⟨item, hitem, Prod.mk.inj heq⟩

lemma isSome_get?_ofList_iff : ((ofList es).get? k).isSome ↔ k ∈ es.map Prod.fst := by
  constructor
  · intro h
    obtain ⟨v, hv⟩ := Option.isSome_iff_exists.mp h
    exact List.mem_map.mpr ⟨(k, v), mem_of_get?_ofList hv, rfl⟩
  · intro h
    obtain ⟨⟨k', v⟩, hmem, rfl⟩ := List.mem_map.mp h
    obtain ⟨w, hw, -⟩ := exists_get?_setAll_of_mem (d := (empty : Dict κ ν)) hmem
    exact Option.isSome_iff_exists.mpr ⟨w, hw⟩

lemma ofList_concat (es : List (κ × ν)) (e : κ × ν) :
    ofList (es ++ [e]) = (ofList es).set e.1 e.2 := by
  simp only [ofList, setAll, List.foldl_append, List.foldl_cons, List.foldl_nil]

/-- A comprehension over ascending items reads the entry of the greatest item that has the key. -/
lemma greatest_of_get?_ofList {ι τ : Type*} [Preorder τ] {rank : ι → τ}
    {entry : ι → Option (κ × ν)} {items : List ι}
    (hsorted : items.Pairwise fun a b => rank a ≤ rank b)
    (h : (ofList (items.filterMap entry)).get? k = some v) :
    ∃ item ∈ items, entry item = some (k, v) ∧
      ∀ other ∈ items, (entry other).map Prod.fst = some k → rank other ≤ rank item := by
  induction items using List.reverseRecOn generalizing v with
  | nil => simp [ofList, setAll] at h
  | append_singleton items last ih =>
    obtain ⟨hrest, -, hlast⟩ := List.pairwise_append.mp hsorted
    have hle : ∀ other ∈ items ++ [last], rank other ≤ rank last := by
      intro other hother
      rcases List.mem_concat_iff.mp hother with hother | hother
      · exact hlast other hother last List.mem_cons_self
      · exact (hother ▸ le_rfl)
    rw [List.filterMap_append] at h
    by_cases hkey : (entry last).map Prod.fst = some k
    · obtain ⟨⟨k', w⟩, hentry, rfl⟩ := Option.map_eq_some_iff.mp hkey
      simp only [List.filterMap_cons, hentry, List.filterMap_nil, ofList_concat, get?_set,
        if_true, Option.some.injEq] at h
      exact ⟨last, by simp, by rw [hentry, h], fun other hother _ => hle other hother⟩
    · have hget : (ofList (items.filterMap entry)).get? k = some v := by
        cases hentry : entry last with
        | none => simpa [hentry] using h
        | some e =>
          have hne : e.1 ≠ k := fun he => hkey (by rw [hentry, Option.map_some, he])
          simpa [hentry, ofList_concat, hne] using h
      obtain ⟨item, hitem, hread, hgreatest⟩ := ih hrest hget
      refine ⟨item, List.mem_append_left _ hitem, hread, fun other hother hk => ?_⟩
      rcases List.mem_concat_iff.mp hother with hother | hother
      · exact hgreatest other hother hk
      · rw [hother] at hk
        exact absurd hk hkey

lemma nodup_keys_of_length_ofList (h : (ofList es).entries.length = es.length) :
    (es.map Prod.fst).Nodup := by
  have hperm : (ofList es).keys.Perm (es.map Prod.fst).dedup := by
    refine (List.perm_ext_iff_of_nodup (ofList es).keysNodup (List.nodup_dedup _)).mpr fun k => ?_
    rw [List.mem_dedup]
    exact isSome_get?_iff_mem_keys.symm.trans isSome_get?_ofList_iff
  have hlength : (es.map Prod.fst).dedup.length = (es.map Prod.fst).length := by
    rw [← hperm.length_eq, List.length_map, ← h]
    simp [keys]
  exact List.dedup_eq_self.mp ((List.dedup_sublist _).eq_of_length hlength)

lemma length_ofList_of_nodup (h : (es.map Prod.fst).Nodup) :
    (ofList es).entries.length = es.length := by
  have hperm : (ofList es).keys.Perm (es.map Prod.fst) := by
    refine (List.perm_ext_iff_of_nodup (ofList es).keysNodup h).mpr fun k => ?_
    exact isSome_get?_iff_mem_keys.symm.trans isSome_get?_ofList_iff
  simpa [keys] using hperm.length_eq

lemma get?_ofList_of_unique (h : (k, v) ∈ es) (hunique : ∀ w, (k, w) ∈ es → w = v) :
    (ofList es).get? k = some v := by
  obtain ⟨w, hw, hmem⟩ := exists_get?_setAll_of_mem (d := (empty : Dict κ ν)) h
  obtain rfl : w = v := hunique w hmem
  exact hw

lemma get?_ofList_of_mem (hes : (es.map Prod.fst).Nodup) (h : (k, v) ∈ es) :
    (ofList es).get? k = some v :=
  get?_ofList_of_unique h fun _ hw =>
    congrArg Prod.snd (List.inj_on_of_nodup_map hes hw h rfl)

lemma get?_ofList_of_perm {es' : List (κ × ν)} (hperm : es.Perm es')
    (hes : (es.map Prod.fst).Nodup) (k : κ) : (ofList es).get? k = (ofList es').get? k := by
  have hes' : (es'.map Prod.fst).Nodup := (hperm.map _).nodup_iff.mp hes
  refine Option.ext fun v => ⟨fun h => ?_, fun h => ?_⟩
  · exact get?_ofList_of_mem hes' (hperm.mem_iff.mp (mem_of_get?_ofList h))
  · exact get?_ofList_of_mem hes (hperm.mem_iff.mpr (mem_of_get?_ofList h))

@[simp] lemma get?_update (d e : Dict κ ν) (k : κ) :
    (d.update e).get? k = (e.get? k).or (d.get? k) := by
  cases hk : e.get? k with
  | some v =>
    obtain ⟨w, hw, hmem⟩ := exists_get?_setAll_of_mem (d := d) (get?_eq_some_iff_mem.mp hk)
    rw [get?_eq_some_iff_mem.mpr hmem] at hk
    simpa [update, hk] using hw
  | none =>
    have hne : ∀ f ∈ e.entries, f.1 ≠ k := by
      rintro ⟨k', v⟩ hf rfl
      simp [get?_eq_some_iff_mem.mpr hf] at hk
    simpa [update] using get?_setAll_of_forall_ne hne

end Dict

/-! ## Groupings -/

/-- `defaultdict(list)[key].append(value)`. -/
def appendTo {κ ν : Type*} [DecidableEq κ] (groups : Dict κ (List ν)) (key : κ) (value : ν) :
    Dict κ (List ν) :=
  groups.set key ((groups.get? key).getD [] ++ [value])

variable {α : Type*}

lemma getD_foldl_appendTo [DecidableEq κ] (items : List α) (key : α → κ)
    (value : α → ν) (groups : Dict κ (List ν)) (k : κ) :
    ((items.foldl (fun groups item => appendTo groups (key item) (value item)) groups).get?
        k).getD [] =
      (groups.get? k).getD [] ++ (items.filter (key · = k)).map value := by
  induction items generalizing groups with
  | nil => simp
  | cons item items ih =>
    rw [List.foldl_cons, ih, appendTo, Dict.get?_set, List.filter_cons]
    by_cases hkey : key item = k
    · simp [hkey]
    · simp [hkey]

lemma isSome_foldl_appendTo [DecidableEq κ] (items : List α) (key : α → κ)
    (value : α → ν) (groups : Dict κ (List ν)) (k : κ) :
    ((items.foldl (fun groups item => appendTo groups (key item) (value item)) groups).get?
        k).isSome ↔ (groups.get? k).isSome ∨ ∃ item ∈ items, key item = k := by
  induction items generalizing groups with
  | nil => simp
  | cons item items ih =>
    rw [List.foldl_cons, ih, appendTo, Dict.get?_set, List.exists_mem_cons_iff]
    by_cases hkey : key item = k <;> simp [hkey]

end Dicts
