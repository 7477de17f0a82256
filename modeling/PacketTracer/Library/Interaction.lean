import Mathlib

/-!
# Computations against an environment

An `Interaction ι ε α` talks to an environment that nobody controls: it records every exchange
(of type `ι`) in a history, and either answers a value or raises an error.  The environment sees
the history so far, so that an arbitrary environment is an arbitrary function of the history.

`Ensures` is the program logic: started after a given history, the computation answers with `Q`
or raises with `E`.  There is one rule for each way of building a computation, a rule of
consequence and a rule for loops whose invariant mentions the iterations done so far.

`EachAfter Q` says that every exchange of a history relates by `Q` to the exchanges before it: a
safety property of the order in which things happened.  `ExtendsBy P` says that a history grows by
exchanges with the property `P` only.
-/

namespace Interactions

/-! ## Histories -/

section History

variable {ι : Type*} {Q R : List ι → ι → Prop}

/-- Every entry of the history is related by `Q` to the entries before it. -/
def EachAfter (Q : List ι → ι → Prop) (history : List ι) : Prop :=
  ∀ before event after, history = before ++ event :: after → Q before event

lemma eachAfter_nil : EachAfter Q [] := by
  intro before event after h
  simp at h

variable {history : List ι}

lemma eachAfter_concat {event : ι} :
    EachAfter Q (history ++ [event]) ↔ EachAfter Q history ∧ Q history event := by
  constructor
  · intro h
    refine ⟨fun before e after heq => ?_, h history event [] rfl⟩
    exact h before e (after ++ [event]) (by simp [heq])
  · rintro ⟨hall, hlast⟩ before e after heq
    rcases List.eq_nil_or_concat after with rfl | ⟨after, e', rfl⟩
    · obtain ⟨rfl, he⟩ := List.append_inj' heq rfl
      obtain rfl : event = e := by simpa using he
      exact hlast
    · have hsplit : history ++ [event] = (before ++ e :: after) ++ [e'] := by simpa using heq
      obtain ⟨hhistory, -⟩ := List.append_inj' hsplit rfl
      exact hall before e after hhistory

lemma EachAfter.mono (h : EachAfter Q history)
    (hQR : ∀ before event, event ∈ history → Q before event → R before event) :
    EachAfter R history := by
  intro before event after heq
  exact hQR before event (by simp [heq]) (h before event after heq)

lemma EachAfter.filter {history : List ι} (h : EachAfter Q history) {p : ι → Bool}
    (hQR : ∀ before event, before ⊆ history → event ∈ history → p event → Q before event →
      R (before.filter p) event) : EachAfter R (history.filter p) := by
  intro before event after heq
  obtain ⟨left, right, rfl, rfl, hright⟩ := List.filter_eq_append_iff.mp heq
  obtain ⟨between, rest, rfl, hbetween, hevent, -⟩ := List.filter_eq_cons_iff.mp hright
  have hbefore : (left ++ between).filter p = left.filter p := by
    rw [List.filter_append, List.filter_eq_nil_iff.mpr hbetween, List.append_nil]
  have hsplit : left ++ (between ++ event :: rest) = (left ++ between) ++ event :: rest := by simp
  rw [← hbefore]
  exact hQR _ event (hsplit ▸ List.subset_append_left _ _) (by simp) hevent
    (h (left ++ between) event rest hsplit)

/-- A history grows by entries with a property. -/
def ExtendsBy (P : ι → Prop) (history history' : List ι) : Prop :=
  ∃ more, history' = history ++ more ∧ ∀ event ∈ more, P event

section Extension

variable {P P' : ι → Prop} {history history' history'' : List ι} {event : ι}

lemma ExtendsBy.refl (history : List ι) : ExtendsBy P history history :=
  ⟨[], by simp, fun _ h => absurd h List.not_mem_nil⟩

lemma ExtendsBy.trans (h : ExtendsBy P history history') (h' : ExtendsBy P history' history'') :
    ExtendsBy P history history'' := by
  obtain ⟨more, rfl, hmore⟩ := h
  obtain ⟨more', rfl, hmore'⟩ := h'
  refine ⟨more ++ more', by simp, fun event hevent => ?_⟩
  exact (List.mem_append.mp hevent).elim (hmore event) (hmore' event)

lemma ExtendsBy.concat (h : ExtendsBy P history history') (hevent : P event) :
    ExtendsBy P history (history' ++ [event]) :=
  h.trans ⟨[event], rfl, fun _ he => List.mem_singleton.mp he ▸ hevent⟩

lemma ExtendsBy.mono (h : ExtendsBy P history history') (hP : ∀ event, P event → P' event) :
    ExtendsBy P' history history' := by
  obtain ⟨more, rfl, hmore⟩ := h
  exact ⟨more, rfl, fun event hevent => hP event (hmore event hevent)⟩

lemma ExtendsBy.mem (h : ExtendsBy P history history') (hevent : event ∈ history) :
    event ∈ history' := by
  obtain ⟨more, rfl, -⟩ := h
  exact List.mem_append_left more hevent

lemma ExtendsBy.mem_or (h : ExtendsBy P history history') (hevent : event ∈ history') :
    event ∈ history ∨ P event := by
  obtain ⟨more, rfl, hmore⟩ := h
  exact (List.mem_append.mp hevent).imp_right (hmore event)

lemma ExtendsBy.eachAfter_append (h : ExtendsBy P history history') (hhistory : EachAfter Q history)
    (hP : ∀ more event, P event → Q (history ++ more) event) : EachAfter Q history' := by
  obtain ⟨more, rfl, hmore⟩ := h
  induction more using List.reverseRecOn with
  | nil => simpa using hhistory
  | append_singleton more event ih =>
    rw [← List.append_assoc, eachAfter_concat]
    exact ⟨ih fun e he => hmore e (List.mem_append_left _ he),
      hP more event (hmore event (by simp))⟩

lemma ExtendsBy.eachAfter (h : ExtendsBy P history history') (hhistory : EachAfter Q history)
    (hP : ∀ before event, P event → Q before event) : EachAfter Q history' :=
  h.eachAfter_append hhistory fun more event => hP (history ++ more) event

end Extension

end History

/-! ## Computations -/

/-- A computation that answers or raises, and extends the history of its exchanges. -/
def Interaction (ι ε α : Type) : Type := List ι → Except ε α × List ι

namespace Interaction

variable {ι ε α β γ σ : Type}

instance : Monad (Interaction ι ε) where
  pure a := fun history => (.ok a, history)
  bind x f := fun history =>
    match x history with
    | (.ok a, history) => f a history
    | (.error e, history) => (.error e, history)

/-- Run a computation after the given history. -/
def run (x : Interaction ι ε α) (history : List ι) : Except ε α × List ι := x history

/-- Raise an error. -/
def raise (e : ε) : Interaction ι ε α := fun history => (.error e, history)

/-- A computation without exchanges. -/
def ofExcept (x : Except ε α) : Interaction ι ε α := fun history => (x, history)

/-- One exchange: the environment answers, and the exchange is recorded. -/
def exchange (answer : List ι → β) (event : β → ι) : Interaction ι ε β := fun history =>
  let b := answer history
  (.ok b, history ++ [event b])

/-- Run a callback that sees the history, exchanges nothing and may raise. -/
def callback (call : List ι → Except ε Unit) : Interaction ι ε Unit := fun history =>
  (call history, history)

/-- A loop over a list that carries a state. -/
def loop (f : σ → β → Interaction ι ε σ) : σ → List β → Interaction ι ε σ
  | s, [] => pure s
  | s, b :: bs => f s b >>= fun s => loop f s bs

/-! ## The program logic -/

/-- Started after `history`, the computation answers with `Q` or raises with `E`. -/
def Ensures (x : Interaction ι ε α) (history : List ι) (Q : α → List ι → Prop)
    (E : ε → List ι → Prop) : Prop :=
  match x.run history with
  | (.ok a, history) => Q a history
  | (.error e, history) => E e history

variable {x : Interaction ι ε α} {history : List ι} {Q Q' : α → List ι → Prop}
  {E E' : ε → List ι → Prop}

@[simp] lemma ensures_pure {a : α} :
    (pure a : Interaction ι ε α).Ensures history Q E ↔ Q a history := Iff.rfl

@[simp] lemma ensures_raise {e : ε} :
    (raise e : Interaction ι ε α).Ensures history Q E ↔ E e history := Iff.rfl

@[simp] lemma ensures_exchange {answer : List ι → β} {event : β → ι} {Q : β → List ι → Prop} :
    (exchange answer event : Interaction ι ε β).Ensures history Q E ↔
      Q (answer history) (history ++ [event (answer history)]) := Iff.rfl

@[simp] lemma ensures_bind {f : α → Interaction ι ε β} {Q : β → List ι → Prop} :
    (x >>= f).Ensures history Q E ↔
      x.Ensures history (fun a history => (f a).Ensures history Q E) E := by
  unfold Ensures
  simp only [run, bind]
  cases x history with
  | mk result history => cases result <;> rfl

lemma ensures_ofExcept {y : Except ε α} :
    (ofExcept y : Interaction ι ε α).Ensures history Q E ↔
      (∀ a, y = .ok a → Q a history) ∧ ∀ e, y = .error e → E e history := by
  cases y with
  | ok a | error e => simp [Ensures, ofExcept, run]

lemma ensures_callback {call : List ι → Except ε Unit} {Q : Unit → List ι → Prop}
    (hok : Q () history) (herror : ∀ e, call history = .error e → E e history) :
    (callback call : Interaction ι ε Unit).Ensures history Q E := by
  unfold Ensures
  simp only [run, callback]
  cases h : call history with
  | ok u => exact hok
  | error e => exact herror e h

lemma Ensures.mono (h : x.Ensures history Q E) (hQ : ∀ a history, Q a history → Q' a history)
    (hE : ∀ e history, E e history → E' e history) : x.Ensures history Q' E' := by
  unfold Ensures at h ⊢
  cases hx : x.run history with
  | mk result history =>
    rw [hx] at h
    cases result with
    | ok a => exact hQ a _ h
    | error e => exact hE e _ h

lemma Ensures.imp (h : x.Ensures history Q E) (hQ : ∀ a history, Q a history → Q' a history) :
    x.Ensures history Q' E := h.mono hQ fun _ _ h => h

/-- The rule for a sequence. -/
lemma Ensures.bind {f : α → Interaction ι ε β} {R : β → List ι → Prop}
    (h : x.Ensures history Q E) (hf : ∀ a history, Q a history → (f a).Ensures history R E) :
    (x >>= f).Ensures history R E := ensures_bind.mpr (h.imp hf)

variable {history' : List ι}

lemma Ensures.of_run_eq_ok {a : α} (h : x.Ensures history Q E)
    (hrun : x.run history = (.ok a, history')) : Q a history' := by
  simpa [Ensures, hrun] using h

lemma Ensures.of_run_eq_error {e : ε} (h : x.Ensures history Q E)
    (hrun : x.run history = (.error e, history')) : E e history' := by
  simpa [Ensures, hrun] using h

lemma Ensures.and (h : x.Ensures history Q E) (h' : x.Ensures history Q' E') :
    x.Ensures history (fun a history => Q a history ∧ Q' a history)
      fun e history => E e history ∧ E' e history := by
  unfold Ensures at h h' ⊢
  split <;> simp_all

lemma Ensures.and_run (h : x.Ensures history Q E) :
    x.Ensures history (fun a history' => Q a history' ∧ x.run history = (.ok a, history')) E := by
  unfold Ensures at h ⊢
  cases hx : x.run history with
  | mk result history' =>
    rw [hx] at h
    cases result with
    | ok a => exact ⟨h, rfl⟩
    | error e => exact h

lemma Ensures.of_run {P : List ι → Prop}
    (h : x.Ensures history (fun _ => P) fun _ => P) : P (x.run history).2 := by
  unfold Ensures at h
  cases hx : x.run history with
  | mk result history =>
    rw [hx] at h
    cases result with
    | ok a | error e => exact h

/-- The rule for loops whose iterations depend on their place: the invariant `I` speaks about the
iterations done so far, the state and the history. -/
lemma ensures_loop_split {f : σ → β → Interaction ι ε σ} {I : List β → σ → List ι → Prop}
    {bs : List β} {s : σ} (hstart : I [] s history)
    (hstep : ∀ done b rest, done ++ b :: rest = bs → ∀ s history, I done s history →
      (f s b).Ensures history (I (done ++ [b])) E) :
    (loop f s bs).Ensures history (I bs) E := by
  suffices h : ∀ (rest done : List β) s history, done ++ rest = bs → I done s history →
      (loop f s rest).Ensures history (I bs) E from h bs [] s history rfl hstart
  intro rest
  induction rest with
  | nil =>
    intro done s history hdone hI
    obtain rfl : done = bs := by simpa using hdone
    exact hI
  | cons b rest ih =>
    intro done s history hdone hI
    rw [loop, ensures_bind]
    refine (hstep done b rest hdone s history hI).mono (fun s history hI => ?_)
      fun e history hE => hE
    exact ih (done ++ [b]) s history (by simpa using hdone) hI

lemma ensures_loop {f : σ → β → Interaction ι ε σ} {I : List β → σ → List ι → Prop}
    {bs : List β} {s : σ} (hstart : I [] s history)
    (hstep : ∀ done b, b ∈ bs → ∀ s history, I done s history →
      (f s b).Ensures history (I (done ++ [b])) E) :
    (loop f s bs).Ensures history (I bs) E :=
  ensures_loop_split hstart fun done b _ hsplit =>
    hstep done b (hsplit ▸ List.mem_append_right done List.mem_cons_self)

/-! ## What a computation asks for -/

section Asks

variable {τ : Type} {target : ι → Option τ} {targets more : List τ}

/-- A computation whose exchanges have some targets, in this order, and a prefix of them when it
raises. -/
def Asks (target : ι → Option τ) (x : Interaction ι ε α) (targets : List τ) : Prop :=
  ∀ history, x.Ensures history
    (fun _ history' => history'.filterMap target = history.filterMap target ++ targets)
    fun _ history' => history'.filterMap target <+: history.filterMap target ++ targets

lemma asks_pure {a : α} : Asks target (pure a : Interaction ι ε α) [] :=
  fun _ => (List.append_nil _).symm

lemma asks_raise {e : ε} : Asks target (raise e : Interaction ι ε α) targets :=
  fun _ => List.prefix_append _ _

/-- The rule for a sequence. -/
lemma Asks.bind {f : α → Interaction ι ε β} (h : Asks target x targets)
    (hf : ∀ a, Asks target (f a) more) : Asks target (x >>= f) (targets ++ more) := by
  intro history
  rw [ensures_bind]
  refine (h history).mono (fun a history' ha => ?_) fun e history' he => ?_
  · refine (hf a history').mono (fun _ _ hb => ?_) fun _ _ hb => ?_
    · rw [hb, ha, List.append_assoc]
    · rwa [ha, List.append_assoc] at hb
  · rw [← List.append_assoc]
    exact he.trans (List.prefix_append _ _)

lemma Asks.bind_nil {f : α → Interaction ι ε β} (h : Asks target x [])
    (hf : ∀ a, Asks target (f a) targets) : Asks target (x >>= f) targets := h.bind hf

/-- The rule for an exchange with a rest that asks for nothing. -/
lemma asks_exchange {answer : List ι → β} {event : β → ι} {f : β → Interaction ι ε α}
    (h : ∀ b, (target (event b)).toList = targets) (hf : ∀ b, Asks target (f b) []) :
    Asks target (exchange answer event >>= f) targets := by
  have hexchange : Asks target (exchange answer event : Interaction ι ε β) targets := by
    intro history
    rw [ensures_exchange, List.filterMap_append, ← h (answer history)]
    cases htarget : target (event (answer history)) <;> simp [htarget]
  exact List.append_nil targets ▸ hexchange.bind hf

/-- The rule for a loop. -/
lemma asks_loop {f : σ → β → Interaction ι ε σ} {targets : β → List τ}
    (h : ∀ s b, Asks target (f s b) (targets b)) (bs : List β) (s : σ) :
    Asks target (loop f s bs) (bs.flatMap targets) := by
  induction bs generalizing s with
  | nil => exact asks_pure
  | cons b bs ih => exact (h s b).bind fun s => ih s

lemma asks_loop_nil {f : σ → β → Interaction ι ε σ} (h : ∀ s b, Asks target (f s b) [])
    (bs : List β) (s : σ) : Asks target (loop f s bs) [] := by
  have hloop := asks_loop h bs s
  rwa [List.flatMap_eq_nil_iff.mpr fun _ _ => rfl] at hloop

end Asks

end Interaction

end Interactions
