import Mathlib

/-!
# Machines whose operations may raise

A `Machine` is a state type with operations that either produce the next state or raise.  A run
is a list of operations executed from left to right; it stops at the first operation that raises.

Two rules carry every use of this file.  `Machine.invariant_of_run` is the induction over a run.
`Machine.forall_prefix_iff_forall_step` says that a guard which is exact for one step is exact
for whole runs: a property holds in every state that the run goes through precisely when every
step of the run meets the guard.
-/

lemma List.mem_concat_iff {α : Type*} {a b : α} {l : List α} : a ∈ l ++ [b] ↔ a ∈ l ∨ a = b := by
  simp

namespace Machines

/-- What holds of every element of a list given the ones before it is kept when the list grows by
an element of which it holds. -/
lemma forall_split_concat {α : Type*} {P : List α → α → Prop} {l : List α} {a : α}
    (h : ∀ before b after, l = before ++ b :: after → P before b) (ha : P l a) :
    ∀ before b after, l ++ [a] = before ++ b :: after → P before b := by
  intro before b after hsplit
  rcases List.eq_nil_or_concat after with rfl | ⟨after', last, rfl⟩
  · obtain ⟨rfl, hlast⟩ := List.append_inj' hsplit rfl
    obtain rfl : a = b := by simpa using hlast
    exact ha
  · have hsplit' : l ++ [a] = (before ++ b :: after') ++ [last] := by simpa using hsplit
    obtain ⟨rfl, -⟩ := List.append_inj' hsplit' rfl
    exact h before b after' rfl

/-- A state machine: `step s a` is the state after the operation `a`, or the raised error. -/
structure Machine (σ α ε : Type*) where
  /-- One operation. -/
  step : σ → α → Except ε σ

namespace Machine

variable {σ α ε : Type*} (M : Machine σ α ε)

/-- Execute a list of operations from left to right, stopping at the first one that raises. -/
def run (s : σ) : List α → Except ε σ
  | [] => .ok s
  | a :: as =>
    match M.step s a with
    | .ok t => run t as
    | .error e => .error e

@[simp] lemma run_nil (s : σ) : M.run s [] = .ok s := rfl

variable {s : σ} {as : List α} {P : σ → Prop} {t : σ} {u : σ} {a : α}

lemma run_cons_eq_ok :
    M.run s (a :: as) = .ok u ↔ ∃ t, M.step s a = .ok t ∧ M.run t as = .ok u := by
  cases h : M.step s a with
  | ok t | error e => simp [run, h]

/-- A run followed by one more operation succeeds exactly when the run and then the operation do. -/
lemma run_concat_eq_ok :
    M.run s (as ++ [a]) = .ok u ↔ ∃ t, M.run s as = .ok t ∧ M.step t a = .ok u := by
  induction as generalizing s with
  | nil => simp [run_cons_eq_ok]
  | cons b as ih =>
    simp only [List.cons_append, run_cons_eq_ok, ih]
    constructor
    · rintro ⟨t, hb, t', ht', ha⟩
      exact ⟨t', ⟨t, hb, ht'⟩, ha⟩
    · rintro ⟨t', ⟨t, hb, ht'⟩, ha⟩
      exact ⟨t, hb, t', ht', ha⟩

lemma exists_step_of_run_eq_error {e : ε} (h : M.run s as = .error e) :
    ∃ a ∈ as, ∃ t, M.step t a = .error e := by
  induction as generalizing s with
  | nil => cases h
  | cons a as ih =>
    rcases hstep : M.step s a with e' | t
    · simp only [run, hstep, Except.error.injEq] at h
      exact ⟨a, List.mem_cons_self, s, h ▸ hstep⟩
    simp only [run, hstep] at h
    obtain ⟨b, hb, u, hu⟩ := ih h
    exact ⟨b, List.mem_cons_of_mem a hb, u, hu⟩

/-- Whether a run succeeds in a state that passes a test. -/
def endsWith (test : σ → Bool) (s : σ) (as : List α) : Bool :=
  match M.run s as with
  | .ok t => test t
  | .error _ => false

lemma exists_run_of_endsWith (test : σ → Bool) (s : σ) (as : List α)
    (h : M.endsWith test s as = true) : ∃ t, M.run s as = .ok t ∧ test t = true := by
  unfold endsWith at h
  cases hrun : M.run s as with
  | ok t =>
    rw [hrun] at h
    exact ⟨t, rfl, h⟩
  | error e =>
    rw [hrun] at h
    cases h

/-- The induction over a run: what the initial state satisfies and every operation of the run
preserves holds in the final state. -/
theorem invariant_of_run (hrun : M.run s as = .ok t) (hs : P s)
    (hstep : ∀ a ∈ as, ∀ u v, P u → M.step u a = .ok v → P v) : P t := by
  induction as generalizing s with
  | nil =>
    obtain rfl : s = t := by simpa using hrun
    exact hs
  | cons a as ih =>
    obtain ⟨u, ha, hrest⟩ := (M.run_cons_eq_ok).mp hrun
    exact ih hrest (hstep a List.mem_cons_self s u hs ha)
      fun b hb => hstep b (List.mem_cons_of_mem a hb)

/-- A run whose operations all succeed, under an invariant that they keep, succeeds and keeps the
invariant. -/
theorem exists_run_of_forall_step (hs : P s)
    (hstep : ∀ a ∈ as, ∀ u, P u → ∃ v, M.step u a = .ok v ∧ P v) :
    ∃ t, M.run s as = .ok t ∧ P t := by
  induction as generalizing s with
  | nil => exact ⟨s, rfl, hs⟩
  | cons a as ih =>
    obtain ⟨u, ha, hu⟩ := hstep a List.mem_cons_self s hs
    obtain ⟨t, hrest, ht⟩ := ih hu fun b hb => hstep b (List.mem_cons_of_mem a hb)
    exact ⟨t, (M.run_cons_eq_ok).mpr ⟨u, ha, hrest⟩, ht⟩

/-- The induction over a run that remembers the operations: what holds of the empty run and is
extended by every successful operation holds of the whole run. -/
theorem induction_of_run {P : List α → σ → Prop} (hrun : M.run s as = .ok t) (hs : P [] s)
    (hstep : ∀ bs a, a ∈ as → ∀ u v, P bs u → M.step u a = .ok v → P (bs ++ [a]) v) : P as t := by
  induction as using List.reverseRecOn generalizing t with
  | nil =>
    obtain rfl : s = t := by simpa using hrun
    exact hs
  | append_singleton as a ih =>
    obtain ⟨u, hu, ha⟩ := M.run_concat_eq_ok.mp hrun
    have hP := ih hu fun bs b hb => hstep bs b (List.mem_append_left _ hb)
    exact hstep as a (List.mem_append_right _ (List.mem_singleton_self a)) u t hP ha

lemma exists_run_of_isPrefix {bs : List α} (hp : as <+: bs) (hrun : M.run s bs = .ok t) :
    ∃ u, M.run s as = .ok u := by
  induction as generalizing s bs with
  | nil => exact ⟨s, rfl⟩
  | cons a as ih =>
    obtain ⟨cs, rfl⟩ := hp
    obtain ⟨u, ha, hrest⟩ := (M.run_cons_eq_ok).mp hrun
    obtain ⟨v, hv⟩ := ih (List.prefix_append as cs) hrest
    exact ⟨v, (M.run_cons_eq_ok).mpr ⟨u, ha, hv⟩⟩

/-- **Exact guards.**  Suppose that along the run the invariant `I` holds and that, from a state
with `P`, one step ends in a state with `P` exactly when the guard `G` holds.  Then `P` holds in
every state of the run exactly when every step of the run meets `G`. -/
theorem forall_prefix_iff_forall_step {I : σ → Prop} {G : σ → α → Prop} (hI : I s) (hP : P s)
    (hIstep : ∀ a ∈ as, ∀ u v, I u → M.step u a = .ok v → I v)
    (hexact : ∀ a ∈ as, ∀ u v, I u → P u → M.step u a = .ok v → (P v ↔ G u a)) :
    (∀ bs t, bs <+: as → M.run s bs = .ok t → P t) ↔
      ∀ bs a t u, bs ++ [a] <+: as → M.run s bs = .ok t → M.step t a = .ok u → G t a := by
  have hmem : ∀ {bs : List α} {a : α}, bs ++ [a] <+: as → a ∈ as := fun hp =>
    hp.subset (List.mem_concat_self)
  have hinv : ∀ {bs : List α} {t : σ}, bs <+: as → M.run s bs = .ok t → I t := fun hp hrun =>
    M.invariant_of_run hrun hI fun a ha => hIstep a (hp.subset ha)
  constructor
  · intro hall bs a t u hp hrun hstep
    have hbs : bs <+: as := (List.prefix_append bs [a]).trans hp
    have hu : P u := hall (bs ++ [a]) u hp (M.run_concat_eq_ok.mpr ⟨t, hrun, hstep⟩)
    exact (hexact a (hmem hp) t u (hinv hbs hrun) (hall bs t hbs hrun) hstep).mp hu
  · intro hguard bs
    induction bs using List.reverseRecOn with
    | nil =>
      intro t _ hrun
      obtain rfl : s = t := by simpa using hrun
      exact hP
    | append_singleton bs a ih =>
      intro u hp hrun
      obtain ⟨t, ht, hstep⟩ := M.run_concat_eq_ok.mp hrun
      have hbs : bs <+: as := (List.prefix_append bs [a]).trans hp
      exact (hexact a (hmem hp) t u (hinv hbs ht) (ih t hbs ht) hstep).mpr
        (hguard bs a t u hp ht hstep)

end Machine

end Machines
