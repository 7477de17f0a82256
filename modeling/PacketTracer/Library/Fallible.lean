import Mathlib

/-!
# Loops that may raise

`List.mapM` in `Except` is a loop that stops at the first error.  It succeeds exactly when every
item does, and its results stand beside their items.  `List.foldlM` is such a loop with a state:
what every iteration keeps holds at the end (`foldlM_invariant`), and what an iteration achieves
and the later ones keep holds at the end for every item (`foldlM_achieves`).
-/

namespace Fallible

variable {α β ε : Type} {f : α → Except ε β} {as : List α} {bs : List β} {γ : Type}
  {first : Except ε β} {next : β → Except ε γ} {a : α}

lemma bind_eq_ok {result : γ} :
    (first >>= next) = .ok result ↔ ∃ value, first = .ok value ∧ next value = .ok result := by
  cases first <;> simp [bind, Except.bind]

lemma bind_eq_error {e : ε} :
    (first >>= next) = .error e ↔
      first = .error e ∨ ∃ value, first = .ok value ∧ next value = .error e := by
  cases first <;> simp [bind, Except.bind]

/-- The error of a step that raised. -/
def errorOf? : Except ε α → Option ε
  | .error e => some e
  | .ok _ => none

lemma exists_of_isOk {x : Except ε α} (h : x.isOk) : ∃ a, x = .ok a := by
  cases x with
  | ok a => exact ⟨a, rfl⟩
  | error _ => cases h

lemma mapM_eq_ok_iff : as.mapM f = .ok bs ↔ List.Forall₂ (fun a b => f a = .ok b) as bs := by
  induction as generalizing bs with
  | nil =>
    rw [List.mapM_nil, List.forall₂_nil_left_iff]
    exact ⟨fun h => (Except.ok.inj h).symm, fun h => congrArg Except.ok h.symm⟩
  | cons a as ih =>
    simp only [List.mapM_cons, bind_eq_ok, List.forall₂_cons_left_iff, ih]
    constructor
    · rintro ⟨b, hb, rest, hrest, hbs⟩
      exact ⟨b, rest, hb, hrest, (Except.ok.inj hbs).symm⟩
    · rintro ⟨b, rest, hb, hrest, rfl⟩
      exact ⟨b, hb, rest, hrest, rfl⟩

lemma exists_of_forall₂ {R : α → β → Prop} (h : List.Forall₂ R as bs) (ha : a ∈ as) :
    ∃ b ∈ bs, R a b := by
  induction h with
  | nil => simp at ha
  | cons hab _ ih =>
    rcases List.mem_cons.mp ha with rfl | ha
    · exact ⟨_, List.mem_cons_self, hab⟩
    · obtain ⟨b, hb, hR⟩ := ih ha
      exact ⟨b, List.mem_cons_of_mem _ hb, hR⟩

lemma exists_of_mem_mapM_eq_ok (h : as.mapM f = .ok bs) {b : β} (hb : b ∈ bs) :
    ∃ a ∈ as, f a = .ok b :=
  exists_of_forall₂ (mapM_eq_ok_iff.mp h).flip hb

lemma exists_result_of_mapM_eq_ok (h : as.mapM f = .ok bs) (ha : a ∈ as) : ∃ b ∈ bs, f a = .ok b :=
  exists_of_forall₂ (mapM_eq_ok_iff.mp h) ha

lemma exists_mapM_eq_ok (h : ∀ a ∈ as, ∃ b, f a = .ok b) : ∃ bs, as.mapM f = .ok bs := by
  induction as with
  | nil => exact ⟨[], rfl⟩
  | cons a as ih =>
    obtain ⟨b, hb⟩ := h a List.mem_cons_self
    obtain ⟨bs, hbs⟩ := ih fun c hc => h c (List.mem_cons_of_mem a hc)
    refine ⟨b :: bs, ?_⟩
    rw [mapM_eq_ok_iff] at hbs ⊢
    exact .cons hb hbs

lemma exists_mapM_bind_eq_ok {next : List β → Except ε γ} (h : ∀ a ∈ as, ∃ b, f a = .ok b)
    (hnext : ∀ bs, ∃ c, next bs = .ok c) : ∃ c, (as.mapM f >>= next) = .ok c := by
  obtain ⟨bs, hbs⟩ := exists_mapM_eq_ok h
  obtain ⟨c, hc⟩ := hnext bs
  exact ⟨c, bind_eq_ok.mpr ⟨bs, hbs, hc⟩⟩

lemma map_eq_map_of_mapM_eq_ok {key : α → γ} {key' : β → γ} (h : as.mapM f = .ok bs)
    (hkey : ∀ a b, f a = .ok b → key' b = key a) : bs.map key' = as.map key := by
  have hall := mapM_eq_ok_iff.mp h
  clear h
  induction hall with
  | nil => rfl
  | cons hab _ ih => rw [List.map_cons, List.map_cons, hkey _ _ hab, ih]

/-- A loop that may find nothing finds exactly when every item does, with the results in the order
of the items. -/
lemma mapM_eq_some_iff {f : α → Option β} :
    as.mapM f = some bs ↔ List.Forall₂ (fun a b => f a = some b) as bs := by
  induction as generalizing bs with
  | nil =>
    rw [List.mapM_nil, List.forall₂_nil_left_iff]
    exact ⟨fun h => (Option.some.inj h).symm, fun h => congrArg some h.symm⟩
  | cons a as ih =>
    simp only [List.mapM_cons, Option.bind_eq_bind, Option.bind_eq_some_iff, Option.pure_def,
      Option.some.injEq, List.forall₂_cons_left_iff, ih]
    constructor
    · rintro ⟨b, hb, rest, hrest, hbs⟩
      exact ⟨b, rest, hb, hrest, hbs.symm⟩
    · rintro ⟨b, rest, hb, hrest, rfl⟩
      exact ⟨b, hb, rest, hrest, rfl⟩

lemma mapM_eq_some {f : α → Option β} (h : as.mapM f = some bs) :
    (∀ a ∈ as, ∃ b ∈ bs, f a = some b) ∧ ∀ b ∈ bs, ∃ a ∈ as, f a = some b := by
  have hall := mapM_eq_some_iff.mp h
  exact ⟨fun a ha => exists_of_forall₂ hall ha, fun b hb => exists_of_forall₂ hall.flip hb⟩

/-! ## Loops with a state -/

section FoldlM

variable {σ : Type} {step : σ → α → Except ε σ} {s s' : σ}

/-- **What every iteration keeps** holds at the end. -/
lemma foldlM_invariant {P : σ → Prop}
    (hstep : ∀ state, ∀ a ∈ as, ∀ next, P state → step state a = .ok next → P next)
    (hs : P s) (h : as.foldlM step s = .ok s') : P s' := by
  induction as generalizing s with
  | nil =>
    rw [List.foldlM_nil] at h
    exact Except.ok.inj h ▸ hs
  | cons a as ih =>
    rw [List.foldlM_cons] at h
    obtain ⟨next, hnext, hrest⟩ := bind_eq_ok.mp h
    exact ih (fun state b hb => hstep state b (List.mem_cons_of_mem a hb))
      (hstep s a List.mem_cons_self next hs hnext) hrest

/-- **What the iteration of an item achieves** and the others keep holds at the end. -/
lemma foldlM_achieves {Q : α → σ → Prop}
    (hstep : ∀ state, ∀ a ∈ as, ∀ next, step state a = .ok next → Q a next)
    (hkeep : ∀ state, ∀ a ∈ as, ∀ b ∈ as, ∀ next, Q a state → step state b = .ok next → Q a next)
    (h : as.foldlM step s = .ok s') : ∀ a ∈ as, Q a s' := by
  induction as generalizing s with
  | nil => simp
  | cons a as ih =>
    rw [List.foldlM_cons] at h
    obtain ⟨next, hnext, hrest⟩ := bind_eq_ok.mp h
    intro b hb
    rcases List.mem_cons.mp hb with rfl | hb
    · refine foldlM_invariant (fun state c hc => ?_)
        (hstep s b List.mem_cons_self next hnext) hrest
      exact hkeep state b List.mem_cons_self c (List.mem_cons_of_mem b hc)
    · refine ih (fun state c hc => hstep state c (List.mem_cons_of_mem a hc))
        (fun state c hc d hd => hkeep state c (List.mem_cons_of_mem a hc) d
          (List.mem_cons_of_mem a hd)) hrest b hb

end FoldlM

/-- What an iteration achieves in a loop that cannot raise, while the iterations before it keep
`P`, holds at the end when the others keep it. -/
lemma foldl_achieves {σ : Type} {step : σ → α → σ} {P Q : σ → Prop} {s : σ} (hs : P s)
    (hkeepP : ∀ state, ∀ b ∈ as, P state → P (step state b))
    (hstep : ∀ state, P state → Q (step state a))
    (hkeepQ : ∀ state, ∀ b ∈ as, Q state → Q (step state b)) (ha : a ∈ as) :
    Q (as.foldl step s) := by
  obtain ⟨before, after, rfl⟩ := List.append_of_mem ha
  rw [List.foldl_append, List.foldl_cons]
  have hbefore : P (before.foldl step s) := by
    refine List.foldlRecOn before step hs fun state hstate b hb => ?_
    exact hkeepP state b (List.mem_append_left _ hb) hstate
  refine List.foldlRecOn after step (hstep _ hbefore) fun state hstate b hb => ?_
  exact hkeepQ state b (List.mem_append_right _ (List.mem_cons_of_mem a hb)) hstate

end Fallible
