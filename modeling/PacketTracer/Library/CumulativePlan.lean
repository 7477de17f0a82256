import PacketTracer.Library.Machine

/-!
# Cumulative plans

A run goes through a list of plans, each a list of keyed actions.  A `Delta` between two adjacent
plans keeps every action, lets an action change only as `expands` allows, and authorizes exactly
the keys that are new or changed.  When every stage executes authorized keys only, `Cumulative`
gives the laws of a run: what was executed stays in the plan, a key is authorized again only when
its action expanded, and a retained action is the one that was last authorized.
-/

namespace CumulativePlan

variable {α κ : Type*}

/-- An action of the current plan differs from the one the previous plan had under its key. -/
def Changed (key : α → κ) (previous current : List α) (k : κ) : Prop :=
  ∃ a ∈ previous, ∃ b ∈ current, key a = k ∧ key b = k ∧ a ≠ b

/-- The authorized keys are the difference of two cumulative plans. -/
structure Delta (key : α → κ) (expands : α → α → Prop) (previous current : List α)
    (authorized : List κ) : Prop where
  /-- No key of the previous plan is lost. -/
  kept : ∀ a ∈ previous, key a ∈ current.map key
  /-- An action changes as allowed or not at all. -/
  unchanged : ∀ a ∈ previous, ∀ b ∈ current, key a = key b → a = b ∨ expands a b
  /-- New and changed keys are authorized, and no others. -/
  authorized_iff : ∀ k, k ∈ authorized ↔
    k ∈ current.map key ∧ (k ∉ previous.map key ∨ Changed key previous current k)

namespace Delta

variable {key : α → κ} {expands : α → α → Prop} {previous current : List α} {authorized : List κ}

lemma of_nil (key : α → κ) (expands : α → α → Prop) (current : List α) :
    Delta key expands [] current (current.map key) where
  kept := by simp
  unchanged := by simp
  authorized_iff := by simp

lemma covers (h : Delta key expands previous current authorized) (k : κ) :
    k ∈ current.map key ↔ k ∈ previous.map key ∨ k ∈ authorized := by
  constructor
  · intro hk
    by_cases hprevious : k ∈ previous.map key
    · exact Or.inl hprevious
    · exact Or.inr ((h.authorized_iff k).mpr ⟨hk, Or.inl hprevious⟩)
  · rintro (hk | hk)
    · obtain ⟨a, ha, rfl⟩ := List.mem_map.mp hk
      exact h.kept a ha
    · exact ((h.authorized_iff k).mp hk).1

lemma mem_previous_of_notMem (h : Delta key expands previous current authorized) {b : α}
    (hb : b ∈ current) (hnot : key b ∉ authorized) : b ∈ previous := by
  have hkey : key b ∈ current.map key := List.mem_map_of_mem hb
  have hnew : ¬ (key b ∉ previous.map key ∨ Changed key previous current (key b)) :=
    fun hcases => hnot ((h.authorized_iff _).mpr ⟨hkey, hcases⟩)
  rw [not_or, not_not] at hnew
  obtain ⟨hprevious, hsame⟩ := hnew
  obtain ⟨a, ha, hab⟩ := List.mem_map.mp hprevious
  have heq : a = b := by
    by_contra hne
    exact hsame ⟨a, ha, b, hb, hab, rfl, hne⟩
  exact heq ▸ ha

lemma expands_of_mem (h : Delta key expands previous current authorized) {k : κ}
    (hprevious : k ∈ previous.map key) (hk : k ∈ authorized) :
    ∃ a ∈ previous, ∃ b ∈ current, key a = k ∧ key b = k ∧ a ≠ b ∧ expands a b := by
  rcases ((h.authorized_iff k).mp hk).2 with hnew | ⟨a, ha, b, hb, hak, hbk, hne⟩
  · exact absurd hprevious hnew
  · have hexpands := (h.unchanged a ha b hb (hak.trans hbk.symm)).resolve_left hne
    exact ⟨a, ha, b, hb, hak, hbk, hne, hexpands⟩

end Delta

/-! ## Runs -/

/-- A stage of a run: its plan, what it was authorized to execute and what it executed. -/
structure Stage (α κ : Type*) where
  plan : List α
  authorized : List κ
  executed : List κ

/-- The plan a run has reached. -/
def lastPlan (initial : List α) : List (Stage α κ) → List α
  | [] => initial
  | stage :: stages => lastPlan stage.plan stages

/-- Every stage has the delta from the plan before it as its authority and keeps to it. -/
def Cumulative (key : α → κ) (expands : α → α → Prop) : List α → List (Stage α κ) → Prop
  | _, [] => True
  | previous, stage :: stages =>
    Delta key expands previous stage.plan stage.authorized ∧
      (∀ k ∈ stage.executed, k ∈ stage.authorized) ∧ Cumulative key expands stage.plan stages

section Runs

variable {key : α → κ} {expands : α → α → Prop} {initial : List α}
  {before stages : List (Stage α κ)} {stage : Stage α κ}

@[simp] lemma lastPlan_concat (initial : List α) (stages : List (Stage α κ)) (stage : Stage α κ) :
    lastPlan initial (stages ++ [stage]) = stage.plan := by
  induction stages generalizing initial with
  | nil => rfl
  | cons first stages ih => exact ih first.plan

lemma cumulative_append {rest : List (Stage α κ)} :
    Cumulative key expands initial (stages ++ rest) ↔
      Cumulative key expands initial stages ∧
        Cumulative key expands (lastPlan initial stages) rest := by
  induction stages generalizing initial with
  | nil => simp [Cumulative, lastPlan]
  | cons first stages ih => simp [Cumulative, lastPlan, ih, and_assoc]

lemma cumulative_concat :
    Cumulative key expands initial (before ++ [stage]) ↔
      Cumulative key expands initial before ∧
        Delta key expands (lastPlan initial before) stage.plan stage.authorized ∧
        ∀ k ∈ stage.executed, k ∈ stage.authorized := by
  simp [cumulative_append, Cumulative]

/-- Whatever a run executed is in the plan it has reached. -/
theorem executed_mem_lastPlan (h : Cumulative key expands initial stages) :
    ∀ earlier ∈ stages, ∀ k ∈ earlier.executed, k ∈ (lastPlan initial stages).map key := by
  induction stages using List.reverseRecOn with
  | nil => simp
  | append_singleton before stage ih =>
    obtain ⟨hbefore, hdelta, hexecuted⟩ := cumulative_concat.mp h
    intro earlier hearlier k hk
    rw [lastPlan_concat]
    rcases List.mem_concat_iff.mp hearlier with hmem | rfl
    · have hplan := ih hbefore earlier hmem k hk
      exact (hdelta.covers k).mpr (Or.inl hplan)
    · exact (hdelta.covers k).mpr (Or.inr (hexecuted k hk))

/-- What was executed before is authorized again only because its action expanded. -/
theorem expands_of_reauthorized (h : Cumulative key expands initial (before ++ [stage])) {k : κ}
    (hexecuted : ∃ earlier ∈ before, k ∈ earlier.executed) (hk : k ∈ stage.authorized) :
    ∃ a ∈ lastPlan initial before, ∃ b ∈ stage.plan,
      key a = k ∧ key b = k ∧ a ≠ b ∧ expands a b := by
  obtain ⟨hbefore, hdelta, -⟩ := cumulative_concat.mp h
  obtain ⟨earlier, hearlier, hmem⟩ := hexecuted
  exact hdelta.expands_of_mem (executed_mem_lastPlan hbefore earlier hearlier k hmem) hk

/-- Where no action may change, no key is executed in two stages. -/
theorem pairwise_executed (hrigid : ∀ a b, ¬ expands a b)
    (h : Cumulative key expands initial stages) :
    stages.Pairwise fun earlier later => ∀ k ∈ earlier.executed, k ∉ later.executed := by
  induction stages using List.reverseRecOn with
  | nil => exact List.Pairwise.nil
  | append_singleton before stage ih =>
    obtain ⟨hbefore, -, hexecuted⟩ := cumulative_concat.mp h
    rw [List.pairwise_append]
    refine ⟨ih hbefore, List.pairwise_singleton _ _, ?_⟩
    intro earlier hearlier later hlater k hk hagain
    obtain rfl := List.mem_singleton.mp hlater
    obtain ⟨a, -, b, -, -, -, -, hexpands⟩ :=
      expands_of_reauthorized h ⟨earlier, hearlier, hk⟩ (hexecuted k hagain)
    exact hrigid a b hexpands

/-- Where no action may change, a plan has the actions that earlier plans had. -/
theorem pairwise_plan_eq (hrigid : ∀ a b, ¬ expands a b)
    (h : Cumulative key expands initial stages) :
    stages.Pairwise fun earlier later =>
      ∀ a ∈ earlier.plan, ∀ b ∈ later.plan, key a = key b → a = b := by
  suffices hall : ∀ initial, Cumulative key expands initial stages →
      (stages.Pairwise fun earlier later =>
        ∀ a ∈ earlier.plan, ∀ b ∈ later.plan, key a = key b → a = b) ∧
      ∀ later ∈ stages, ∀ a ∈ initial, ∀ b ∈ later.plan, key a = key b → a = b from
    (hall initial h).1
  clear h
  induction stages with
  | nil => simp
  | cons stage stages ih =>
    rintro initial ⟨hdelta, -, hrest⟩
    obtain ⟨hpairwise, hfirst⟩ := ih stage.plan hrest
    have hstep : ∀ a ∈ initial, ∀ b ∈ stage.plan, key a = key b → a = b := by
      intro a ha b hb hkey
      exact (hdelta.unchanged a ha b hb hkey).resolve_right (hrigid a b)
    refine ⟨List.pairwise_cons.mpr ⟨hfirst, hpairwise⟩, ?_⟩
    intro later hlater a ha b hb hkey
    rcases List.mem_cons.mp hlater with rfl | hlater
    · exact hstep a ha b hb hkey
    · obtain ⟨c, hc, hck⟩ := List.mem_map.mp (hdelta.kept a ha)
      have hac : a = c := hstep a ha c hc hck.symm
      exact hac.trans (hfirst later hlater c hc b hb (hck.trans hkey))

/-- An action without authority is the one that the run last authorized. -/
theorem lastAuthorized_of_retained (h : Cumulative key expands [] (before ++ [stage])) {b : α}
    (hb : b ∈ stage.plan) (hnot : key b ∉ stage.authorized) :
    ∃ earlier authorizing between, before = earlier ++ authorizing :: between ∧
      key b ∈ authorizing.authorized ∧ b ∈ authorizing.plan ∧
      ∀ later ∈ between, key b ∉ later.authorized ∧ b ∈ later.plan := by
  induction before using List.reverseRecOn generalizing stage with
  | nil =>
    obtain ⟨-, hdelta, -⟩ := cumulative_concat.mp h
    exact absurd (hdelta.mem_previous_of_notMem hb hnot) (by simp [lastPlan])
  | append_singleton before previous ih =>
    obtain ⟨hbefore, hdelta, -⟩ := cumulative_concat.mp h
    rw [lastPlan_concat] at hdelta
    have hprevious : b ∈ previous.plan := hdelta.mem_previous_of_notMem hb hnot
    by_cases hauthorized : key b ∈ previous.authorized
    · exact ⟨before, previous, [], rfl, hauthorized, hprevious, by simp⟩
    obtain ⟨earlier, authorizing, between, rfl, hkey, hplan, hbetween⟩ :=
      ih hbefore hprevious hauthorized
    refine ⟨earlier, authorizing, between ++ [previous], by simp, hkey, hplan, ?_⟩
    intro later hlater
    rcases List.mem_concat_iff.mp hlater with hlater | rfl
    · exact hbetween later hlater
    · exact ⟨hauthorized, hprevious⟩

end Runs

/-! ## The laws of a run -/

section Laws

variable {key : α → κ} {expands : α → α → Prop} {stages : List (Stage α κ)}

/-- What was executed up to a stage is in the plan of that stage. -/
def ExecutedWithinPlan (key : α → κ) (stages : List (Stage α κ)) : Prop :=
  ∀ before stage after, stages = before ++ stage :: after →
    ∀ earlier ∈ before ++ [stage], ∀ k ∈ earlier.executed, k ∈ stage.plan.map key

/-- The laws of a run whose actions never change. -/
structure Rigid (key : α → κ) (stages : List (Stage α κ)) : Prop where
  /-- No key is executed in two stages. -/
  once : stages.Pairwise fun earlier later => ∀ k ∈ earlier.executed, k ∉ later.executed
  within : ExecutedWithinPlan key stages
  /-- A plan has the actions of the earlier plans, unchanged. -/
  unchanged : stages.Pairwise fun earlier later =>
    ∀ a ∈ earlier.plan, ∀ b ∈ later.plan, key a = key b → a = b

/-- The laws of a run whose actions may expand. -/
structure Expanding (key : α → κ) (expands : α → α → Prop) (stages : List (Stage α κ)) :
    Prop where
  /-- A key is executed again only in a stage that expands its action. -/
  once : ∀ before previous stage after, stages = before ++ previous :: stage :: after →
    ∀ earlier ∈ before ++ [previous], ∀ k ∈ earlier.executed, k ∈ stage.executed →
      ∃ a ∈ previous.plan, ∃ b ∈ stage.plan, key a = k ∧ key b = k ∧ a ≠ b ∧ expands a b
  within : ExecutedWithinPlan key stages
  /-- A retained action is the one of the stage that last authorized it. -/
  retained : ∀ before stage after, stages = before ++ stage :: after →
    ∀ b ∈ stage.plan, key b ∉ stage.authorized →
      ∃ earlier authorizing between, before = earlier ++ authorizing :: between ∧
        key b ∈ authorizing.authorized ∧ b ∈ authorizing.plan ∧
        ∀ later ∈ between, key b ∉ later.authorized ∧ b ∈ later.plan

variable {initial : List α}

lemma Cumulative.take (h : Cumulative key expands initial stages)
    {before after : List (Stage α κ)} {stage : Stage α κ}
    (hsplit : stages = before ++ stage :: after) :
    Cumulative key expands initial (before ++ [stage]) := by
  have hassoc : stages = (before ++ [stage]) ++ after := by simp [hsplit]
  rw [hassoc] at h
  exact (cumulative_append.mp h).1

lemma Cumulative.executedWithinPlan (h : Cumulative key expands initial stages) :
    ExecutedWithinPlan key stages := by
  intro before stage after hsplit earlier hearlier k hk
  have hmem := executed_mem_lastPlan (h.take hsplit) earlier hearlier k hk
  rwa [lastPlan_concat] at hmem

/-- A cumulative run whose actions cannot change. -/
theorem Cumulative.rigid (hrigid : ∀ a b, ¬ expands a b)
    (h : Cumulative key expands initial stages) : Rigid key stages where
  once := pairwise_executed hrigid h
  within := h.executedWithinPlan
  unchanged := pairwise_plan_eq hrigid h

/-- A cumulative run from nothing. -/
theorem Cumulative.expanding (h : Cumulative key expands [] stages) :
    Expanding key expands stages where
  once := by
    intro before previous stage after hsplit earlier hearlier k hk hagain
    have hassoc : stages = (before ++ [previous]) ++ stage :: after := by simp [hsplit]
    have htake := h.take hassoc
    have hauthorized : k ∈ stage.authorized := (cumulative_concat.mp htake).2.2 k hagain
    have hexpands := expands_of_reauthorized htake ⟨earlier, hearlier, hk⟩ hauthorized
    rwa [lastPlan_concat] at hexpands
  within := h.executedWithinPlan
  retained := by
    intro before stage after hsplit b hb hnot
    exact lastAuthorized_of_retained (h.take hsplit) hb hnot

end Laws

end CumulativePlan
