import PacketTracer.Library.Interaction

/-!
# Computations whose state survives exceptions

A `Script σ ι ε α` answers or raises, talks to an environment that nobody controls, and owns a state
of type `σ`, which is kept when the computation raises.  `Ensures` is the program logic: there is
one rule for each way of building a computation.  `Keeps R` says that a computation relates the
state and history before it to those after it, however it ends.

Some errors are interruptions, which no handler may turn into a value.  A prompt computation ends
with the first interruption that its environment raises.
-/

namespace Scripts

open Interactions

/-- A computation that answers or raises, changes a state and extends a history. -/
def Script (σ ι ε α : Type) : Type := σ → List ι → Except ε α × σ × List ι

namespace Script

variable {σ ι ε α β : Type}

instance : Monad (Script σ ι ε) where
  pure a := fun state history => (.ok a, state, history)
  bind x f := fun state history =>
    match x state history with
    | (.ok a, state, history) => f a state history
    | (.error e, state, history) => (.error e, state, history)

/-- Run a computation from a state after a history. -/
def run (x : Script σ ι ε α) (state : σ) (history : List ι) : Except ε α × σ × List ι :=
  x state history

/-- Raise an error. -/
def raise (e : ε) : Script σ ι ε α := fun state history => (.error e, state, history)

/-- The state. -/
def get : Script σ ι ε σ := fun state history => (.ok state, state, history)

/-- Replace the state. -/
def modify (f : σ → σ) : Script σ ι ε Unit := fun state history => (.ok (), f state, history)

/-- Record that something begins. -/
def note (event : ι) : Script σ ι ε Unit := fun state history =>
  (.ok (), state, history ++ [event])

/-- What was computed outside. -/
def ofExcept (outcome : Except ε α) : Script σ ι ε α := fun state history =>
  (outcome, state, history)

/-- One exchange with the environment, which is recorded. -/
def exchange (answer : List ι → β) (event : β → ι) : Script σ ι ε β := fun state history =>
  (.ok (answer history), state, history ++ [event (answer history)])

/-- A call: the environment answers or raises, and what it did is recorded. -/
def call (answer : List ι → Except ε β) (event : Except ε β → ι) : Script σ ι ε β :=
  fun state history => (answer history, state, history ++ [event (answer history)])

/-- Run a computation and hand on what it answered or raised. -/
def attempt (x : Script σ ι ε α) : Script σ ι ε (Except ε α) := fun state history =>
  match x state history with
  | (outcome, state, history) => (.ok outcome, state, history)

section Run

variable {x : Script σ ι ε α} {f : α → Script σ ι ε β} {state state' : σ}
  {history history' : List ι}

lemma run_bind_of_ok {a : α} (h : x.run state history = (.ok a, state', history')) :
    (x >>= f).run state history = (f a).run state' history' := by
  simp only [run, bind] at h ⊢
  rw [h]

lemma run_bind_of_error {e : ε} (h : x.run state history = (.error e, state', history')) :
    (x >>= f).run state history = (.error e, state', history') := by
  simp only [run, bind] at h ⊢
  rw [h]

end Run

/-! ## The program logic -/

/-- Started in `state` after `history`, the computation answers with `Q` or raises with `E`. -/
def Ensures (x : Script σ ι ε α) (state : σ) (history : List ι) (Q : α → σ → List ι → Prop)
    (E : ε → σ → List ι → Prop) : Prop :=
  match x.run state history with
  | (.ok a, state, history) => Q a state history
  | (.error e, state, history) => E e state history

section Rules

variable {x : Script σ ι ε α} {state : σ} {history : List ι} {Q Q' : α → σ → List ι → Prop}
  {E E' : ε → σ → List ι → Prop}

@[simp] lemma ensures_pure {a : α} :
    (pure a : Script σ ι ε α).Ensures state history Q E ↔ Q a state history := Iff.rfl

@[simp] lemma ensures_raise {e : ε} :
    (raise e : Script σ ι ε α).Ensures state history Q E ↔ E e state history := Iff.rfl

@[simp] lemma ensures_get {Q : σ → σ → List ι → Prop} :
    (get : Script σ ι ε σ).Ensures state history Q E ↔ Q state state history := Iff.rfl

@[simp] lemma ensures_modify {f : σ → σ} {Q : Unit → σ → List ι → Prop} :
    (modify f : Script σ ι ε Unit).Ensures state history Q E ↔ Q () (f state) history := Iff.rfl

@[simp] lemma ensures_note {event : ι} {Q : Unit → σ → List ι → Prop} :
    (note event : Script σ ι ε Unit).Ensures state history Q E ↔
      Q () state (history ++ [event]) := Iff.rfl

@[simp] lemma ensures_exchange {answer : List ι → β} {event : β → ι}
    {Q : β → σ → List ι → Prop} :
    (exchange answer event : Script σ ι ε β).Ensures state history Q E ↔
      Q (answer history) state (history ++ [event (answer history)]) := Iff.rfl

lemma ensures_ofExcept {outcome : Except ε α}
    (hok : ∀ a, outcome = .ok a → Q a state history)
    (herror : ∀ e, outcome = .error e → E e state history) :
    (ofExcept outcome : Script σ ι ε α).Ensures state history Q E := by
  cases outcome with
  | ok a => exact hok a rfl
  | error e => exact herror e rfl

lemma ensures_call {answer : List ι → Except ε α} {event : Except ε α → ι}
    (hok : ∀ a, answer history = .ok a → Q a state (history ++ [event (.ok a)]))
    (herror : ∀ e, answer history = .error e → E e state (history ++ [event (.error e)])) :
    (call answer event : Script σ ι ε α).Ensures state history Q E := by
  unfold Ensures
  simp only [run, call]
  cases h : answer history with
  | ok a => exact hok a h
  | error e => exact herror e h

@[simp] lemma ensures_bind {f : α → Script σ ι ε β} {Q : β → σ → List ι → Prop} :
    (x >>= f).Ensures state history Q E ↔
      x.Ensures state history (fun a state history => (f a).Ensures state history Q E) E := by
  unfold Ensures
  simp only [run, bind]
  rcases x state history with ⟨outcome, state, history⟩
  cases outcome <;> rfl

@[simp] lemma ensures_attempt {Q : Except ε α → σ → List ι → Prop} :
    (attempt x : Script σ ι ε (Except ε α)).Ensures state history Q E ↔
      x.Ensures state history (fun a => Q (.ok a)) (fun e => Q (.error e)) := by
  unfold Ensures
  simp only [run, attempt]
  rcases x state history with ⟨outcome, state, history⟩
  cases outcome <;> rfl

lemma ensures_ite {p : Prop} [Decidable p] {y : Script σ ι ε α}
    (htrue : p → x.Ensures state history Q E) (hfalse : ¬ p → y.Ensures state history Q E) :
    (if p then x else y).Ensures state history Q E := by
  by_cases h : p
  · rw [if_pos h]
    exact htrue h
  · rw [if_neg h]
    exact hfalse h

lemma Ensures.mono (h : x.Ensures state history Q E)
    (hQ : ∀ a state history, Q a state history → Q' a state history)
    (hE : ∀ e state history, E e state history → E' e state history) :
    x.Ensures state history Q' E' := by
  unfold Ensures at h ⊢
  rcases hx : x.run state history with ⟨outcome, state, history⟩
  rw [hx] at h
  cases outcome with
  | ok a => exact hQ a _ _ h
  | error e => exact hE e _ _ h

lemma Ensures.imp (h : x.Ensures state history Q E)
    (hQ : ∀ a state history, Q a state history → Q' a state history) :
    x.Ensures state history Q' E := h.mono hQ fun _ _ _ h => h

/-- The rule for a sequence. -/
lemma Ensures.bind {f : α → Script σ ι ε β} {R : β → σ → List ι → Prop}
    (h : x.Ensures state history Q E)
    (hf : ∀ a state history, Q a state history → (f a).Ensures state history R E) :
    (x >>= f).Ensures state history R E := ensures_bind.mpr (h.imp hf)

lemma Ensures.and (h : x.Ensures state history Q E) (h' : x.Ensures state history Q' E') :
    x.Ensures state history (fun a state history => Q a state history ∧ Q' a state history)
      (fun e state history => E e state history ∧ E' e state history) := by
  unfold Ensures at h h' ⊢
  rcases hx : x.run state history with ⟨outcome, state, history⟩
  rw [hx] at h h'
  cases outcome with
  | ok a | error e => exact ⟨h, h'⟩

variable {state' : σ} {history' : List ι}

lemma Ensures.of_run_eq_ok {a : α} (h : x.Ensures state history Q E)
    (hrun : x.run state history = (.ok a, state', history')) : Q a state' history' := by
  simpa [Ensures, hrun] using h

lemma Ensures.of_run_eq_error {e : ε} (h : x.Ensures state history Q E)
    (hrun : x.run state history = (.error e, state', history')) : E e state' history' := by
  simpa [Ensures, hrun] using h

lemma ensures_run : x.Ensures state history
    (fun a state' history' => x.run state history = (.ok a, state', history'))
    (fun e state' history' => x.run state history = (.error e, state', history')) := by
  unfold Ensures
  rcases hx : x.run state history with ⟨outcome, state, history⟩
  cases outcome <;> rfl

end Rules

/-! ## Relations that are kept -/

/-- A reflexive and transitive relation between the states and histories of a run. -/
structure Frame (R : σ × List ι → σ × List ι → Prop) : Prop where
  refl : ∀ at', R at' at'
  trans : ∀ {a b c}, R a b → R b c → R a c

/-- However the computation ends, `R` relates where it started to where it ended. -/
def Keeps (R : σ × List ι → σ × List ι → Prop) (x : Script σ ι ε α) : Prop :=
  ∀ state history, R (state, history) (x.run state history).2

section Keeps

variable {R : σ × List ι → σ × List ι → Prop} {x : Script σ ι ε α}

lemma Keeps.ensures (h : Keeps R x) (state : σ) (history : List ι) :
    x.Ensures state history (fun _ state' history' => R (state, history) (state', history'))
      (fun _ state' history' => R (state, history) (state', history')) := by
  have hR := h state history
  unfold Ensures
  rcases hx : x.run state history with ⟨outcome, state', history'⟩
  rw [hx] at hR
  cases outcome <;> exact hR

lemma Keeps.of_ensures (h : ∀ state history, x.Ensures state history
    (fun _ state' history' => R (state, history) (state', history'))
    (fun _ state' history' => R (state, history) (state', history'))) : Keeps R x := by
  intro state history
  have hR := h state history
  unfold Ensures at hR
  rcases hx : x.run state history with ⟨outcome, state', history'⟩
  rw [hx] at hR
  cases outcome <;> exact hR

lemma Frame.pure (hR : Frame R) (a : α) : Keeps R (pure a : Script σ ι ε α) :=
  fun state history => hR.refl (state, history)

lemma Frame.raise (hR : Frame R) (e : ε) : Keeps R (raise e : Script σ ι ε α) :=
  fun state history => hR.refl (state, history)

lemma Frame.get (hR : Frame R) : Keeps R (get : Script σ ι ε σ) :=
  fun state history => hR.refl (state, history)

lemma keeps_modify {f : σ → σ} (h : ∀ state history, R (state, history) (f state, history)) :
    Keeps R (modify f : Script σ ι ε Unit) := h

lemma Frame.ofExcept (hR : Frame R) (outcome : Except ε α) :
    Keeps R (ofExcept outcome : Script σ ι ε α) :=
  fun state history => hR.refl (state, history)

lemma keeps_note {event : ι} (h : ∀ state history, R (state, history) (state, history ++ [event])) :
    Keeps R (note event : Script σ ι ε Unit) := h

lemma keeps_exchange {answer : List ι → β} {event : β → ι}
    (h : ∀ state history b, R (state, history) (state, history ++ [event b])) :
    Keeps R (exchange answer event : Script σ ι ε β) :=
  fun state history => h state history (answer history)

lemma keeps_call {answer : List ι → Except ε α} {event : Except ε α → ι}
    (h : ∀ state history a, R (state, history) (state, history ++ [event a])) :
    Keeps R (call answer event : Script σ ι ε α) :=
  fun state history => h state history (answer history)

lemma Frame.bind (hR : Frame R) {f : α → Script σ ι ε β} (hx : Keeps R x)
    (hf : ∀ a, Keeps R (f a)) : Keeps R (x >>= f) := by
  refine Keeps.of_ensures fun state history => ?_
  refine (hx.ensures state history).bind fun a state' history' h => ?_
  refine ((hf a).ensures state' history').mono ?_ ?_
  · exact fun _ _ _ h' => hR.trans h h'
  · exact fun _ _ _ h' => hR.trans h h'

lemma Keeps.attempt (hx : Keeps R x) : Keeps R (attempt x : Script σ ι ε (Except ε α)) := by
  refine Keeps.of_ensures fun state history => ?_
  rw [ensures_attempt]
  exact hx.ensures state history

lemma Keeps.ite {p : Prop} [Decidable p] {y : Script σ ι ε α} (hx : Keeps R x)
    (hy : Keeps R y) : Keeps R (if p then x else y) := by
  by_cases h : p
  · rwa [if_pos h]
  · rwa [if_neg h]

lemma Keeps.mono {R' : σ × List ι → σ × List ι → Prop} (h : Keeps R x)
    (hR : ∀ a b, R a b → R' a b) : Keeps R' x :=
  fun state history => hR _ _ (h state history)

end Keeps

/-! ## Histories that grow -/

/-- The state is fixed up to `f`, and the history grows by events that `P` admits. -/
structure Grows {γ : Type} (f : σ → γ) (P : γ → ι → Prop) (a b : σ × List ι) : Prop where
  fixed : f b.1 = f a.1
  grown : ∃ added, b.2 = a.2 ++ added ∧ ∀ event ∈ added, P (f a.1) event

section Grows

variable {γ δ : Type} {f : σ → γ} {P : γ → ι → Prop}

lemma Grows.frame : Frame (Grows f P) where
  refl at' := ⟨rfl, [], by simp⟩
  trans := by
    rintro a b c ⟨hfixed, added, hadded, hP⟩ ⟨hfixed', added', hadded', hP'⟩
    refine ⟨hfixed'.trans hfixed, added ++ added', ?_, ?_⟩
    · rw [hadded', hadded, List.append_assoc]
    · intro event hevent
      rcases List.mem_append.mp hevent with hevent | hevent
      · exact hP event hevent
      · exact hfixed ▸ hP' event hevent

lemma Grows.modify {g : σ → σ} (h : ∀ state, f (g state) = f state) :
    Keeps (Grows f P) (modify g : Script σ ι ε Unit) :=
  keeps_modify fun state history => ⟨h state, [], by simp⟩

lemma Grows.of_event {state : σ} {history : List ι} {event : ι} (h : P (f state) event) :
    Grows f P (state, history) (state, history ++ [event]) :=
  ⟨rfl, [event], rfl, by simpa using h⟩

lemma Grows.call {answer : List ι → Except ε α} {event : Except ε α → ι}
    (h : ∀ state outcome, P (f state) (event outcome)) :
    Keeps (Grows f P) (call answer event : Script σ ι ε α) :=
  keeps_call fun state _ outcome => Grows.of_event (h state outcome)

lemma Grows.mono {g : σ → δ} {Q : δ → ι → Prop} {a b : σ × List ι} (h : Grows f P a b)
    (hfixed : ∀ state state', f state' = f state → g state' = g state)
    (hP : ∀ state event, P (f state) event → Q (g state) event) : Grows g Q a b := by
  obtain ⟨added, hadded, hevents⟩ := h.grown
  exact ⟨hfixed _ _ h.fixed, added, hadded, fun event hevent => hP _ _ (hevents event hevent)⟩

end Grows

/-! ## What comes first -/

/-- Every event of the second kind has one of the first kind before it. -/
def Precedes (first second : ι → Bool) (history : List ι) : Prop :=
  ∀ before event after, history = before ++ event :: after → second event = true →
    before.any first = true

section Precedes

variable {first second : ι → Bool} {history added : List ι}

lemma Precedes.of_none (h : history.any second = false) : Precedes first second history := by
  rintro before event after rfl hevent
  have hmem := List.any_eq_false.mp h event (List.mem_append_right _ List.mem_cons_self)
  exact absurd hevent hmem

lemma Precedes.append (h : Precedes first second history) (hany : history.any first = true) :
    Precedes first second (history ++ added) := by
  intro before event after heq hevent
  rcases List.append_eq_append_iff.mp heq with ⟨rest, rfl, -⟩ | ⟨rest, rfl, hrest⟩
  · rw [List.any_append, hany, Bool.true_or]
  cases rest with
  | nil => simpa using hany
  | cons head tail =>
    obtain ⟨rfl, rfl⟩ := List.cons.inj hrest
    exact h before event tail rfl hevent

end Precedes

/-! ## Invariants -/

/-- However the computation ends, it keeps `I` true. -/
def Preserves (I : σ → List ι → Prop) (x : Script σ ι ε α) : Prop :=
  Keeps (fun a b => I a.1 a.2 → I b.1 b.2) x

section Preserves

variable {I : σ → List ι → Prop} {x : Script σ ι ε α}

lemma Preserves.frame : Frame fun a b : σ × List ι => I a.1 a.2 → I b.1 b.2 where
  refl _ := id
  trans := fun h h' => h' ∘ h

lemma Keeps.preserves {R : σ × List ι → σ × List ι → Prop} (h : Keeps R x)
    (hI : ∀ a b, R a b → I a.1 a.2 → I b.1 b.2) : Preserves I x := h.mono hI

lemma Preserves.ensures (h : Preserves I x) {state : σ} {history : List ι} (hI : I state history) :
    x.Ensures state history (fun _ => I) (fun _ => I) :=
  (Keeps.ensures h state history).mono (fun _ _ _ h => h hI) fun _ _ _ h => h hI

lemma Preserves.bind {f : α → Script σ ι ε β} (hx : Preserves I x)
    (hf : ∀ a, Preserves I (f a)) : Preserves I (x >>= f) := Preserves.frame.bind hx hf

end Preserves

/-- No event raised an interruption. -/
def Calm (raised : ι → Option ε) (interrupts : ε → Bool) (events : List ι) : Prop :=
  ∀ event ∈ events, ∀ e, raised event = some e → interrupts e = false

/-- Either nothing was interrupted, or the last event was, and the outcome is what it raised. -/
inductive Settled (raised : ι → Option ε) (interrupts : ε → Bool) :
    List ι → Except ε α → Prop
  | calm {added : List ι} {outcome : Except ε α} (hcalm : Calm raised interrupts added)
      (houtcome : ∀ e, outcome = .error e → interrupts e = false) :
      Settled raised interrupts added outcome
  | interrupted {before : List ι} {last : ι} {e : ε} (hcalm : Calm raised interrupts before)
      (hlast : raised last = some e) (he : interrupts e = true) :
      Settled raised interrupts (before ++ [last]) (.error e)

/-- The first interruption ends the computation. -/
def Prompt (raised : ι → Option ε) (interrupts : ε → Bool) (x : Script σ ι ε α) : Prop :=
  ∀ state history, ∃ added, (x.run state history).2.2 = history ++ added ∧
    Settled raised interrupts added (x.run state history).1

section Rules

variable {raised : ι → Option ε} {interrupts : ε → Bool} {x : Script σ ι ε α}

lemma Calm.nil : Calm raised interrupts [] := by
  intro event hevent
  simp at hevent

lemma Calm.of_all {events : List ι}
    (h : (events.all fun event => !(raised event).any interrupts) = true) :
    Calm raised interrupts events := by
  intro event hevent e he
  have hevent' := List.all_eq_true.mp h event hevent
  simpa [he] using hevent'

variable {before : List ι} {event : ι} {outcome : Except ε α} {e : ε}

lemma Calm.append {after : List ι} (hbefore : Calm raised interrupts before)
    (hafter : Calm raised interrupts after) : Calm raised interrupts (before ++ after) := by
  intro event hevent
  rcases List.mem_append.mp hevent with hevent | hevent
  · exact hbefore event hevent
  · exact hafter event hevent

lemma Calm.singleton (h : ∀ e, raised event = some e → interrupts e = false) :
    Calm raised interrupts [event] := by
  intro event' hevent'
  rw [List.mem_singleton.mp hevent']
  exact h

variable {added : List ι}

lemma Settled.append (hbefore : Calm raised interrupts before)
    (h : Settled raised interrupts added outcome) :
    Settled raised interrupts (before ++ added) outcome := by
  cases h with
  | calm hcalm houtcome => exact .calm (hbefore.append hcalm) houtcome
  | interrupted hcalm hlast he =>
    rw [← List.append_assoc]
    exact .interrupted (hbefore.append hcalm) hlast he

lemma Settled.calm_of_ok {a : α} (h : Settled raised interrupts added (.ok a)) :
    Calm raised interrupts added := by
  cases h with
  | calm hcalm _ => exact hcalm

lemma Settled.calm_of_error (h : Settled raised interrupts added (.error e : Except ε α))
    (he : interrupts e = false) : Calm raised interrupts added := by
  cases h with
  | calm hcalm _ => exact hcalm
  | interrupted _ _ htrue => simp [he] at htrue

lemma Prompt.pure (a : α) : Prompt raised interrupts (pure a : Script σ ι ε α) :=
  fun _ _ => ⟨[], by simp [run, Pure.pure], .calm Calm.nil fun _ h => nomatch h⟩

lemma Prompt.raise (h : interrupts e = false) :
    Prompt raised interrupts (raise e : Script σ ι ε α) :=
  fun _ _ => ⟨[], by simp [run, Script.raise], .calm Calm.nil fun _ h' => by cases h'; exact h⟩

lemma Prompt.get : Prompt raised interrupts (get : Script σ ι ε σ) :=
  fun _ _ => ⟨[], by simp [run, Script.get], .calm Calm.nil fun _ h => nomatch h⟩

lemma Prompt.modify (f : σ → σ) : Prompt raised interrupts (modify f : Script σ ι ε Unit) :=
  fun _ _ => ⟨[], by simp [run, Script.modify], .calm Calm.nil fun _ h => nomatch h⟩

lemma Prompt.note (h : raised event = none) :
    Prompt raised interrupts (note event : Script σ ι ε Unit) :=
  fun _ _ => ⟨[event], rfl, .calm (Calm.singleton (by simp [h])) fun _ h => nomatch h⟩

lemma Prompt.ofExcept (h : ∀ e, outcome = .error e → interrupts e = false) :
    Prompt raised interrupts (ofExcept outcome : Script σ ι ε α) :=
  fun _ _ => ⟨[], by simp [run, Script.ofExcept], .calm Calm.nil h⟩

lemma Prompt.call {answer : List ι → Except ε α} {event : Except ε α → ι}
    (hok : ∀ a, raised (event (.ok a)) = none)
    (herror : ∀ e, raised (event (.error e)) = some e) :
    Prompt raised interrupts (call answer event : Script σ ι ε α) := by
  intro state history
  refine ⟨[event (answer history)], rfl, ?_⟩
  show Settled raised interrupts _ (answer history)
  cases h : answer history with
  | ok a => exact .calm (Calm.singleton (by simp [hok])) fun _ h => nomatch h
  | error e =>
    cases he : interrupts e with
    | true =>
      have hnil : Calm raised interrupts ([] : List ι) := Calm.nil
      exact .interrupted hnil (herror e) he
    | false =>
      refine .calm (Calm.singleton ?_) ?_
      · intro e' he'
        rw [herror e] at he'
        cases he'
        exact he
      · intro e' he'
        cases he'
        exact he

/-- What an attempt hands on, when an interruption is raised again. -/
lemma Prompt.attempt_bind {f : Except ε α → Script σ ι ε β} (hx : Prompt raised interrupts x)
    (hok : ∀ a, Prompt raised interrupts (f (.ok a)))
    (herror : ∀ e, interrupts e = false → Prompt raised interrupts (f (.error e)))
    (hpass : ∀ e, interrupts e = true → f (.error e) = Script.raise e) :
    Prompt raised interrupts (attempt x >>= f) := by
  intro state history
  obtain ⟨added, hadded, hsettled⟩ := hx state history
  have hrun : (attempt x >>= f).run state history =
      (f (x.run state history).1).run (x.run state history).2.1 (x.run state history).2.2 := rfl
  rw [hrun]
  cases h : (x.run state history).1 with
  | ok a =>
    rw [h] at hsettled
    obtain ⟨added', hadded', hsettled'⟩ :=
      hok a (x.run state history).2.1 (x.run state history).2.2
    refine ⟨added ++ added', ?_, hsettled'.append hsettled.calm_of_ok⟩
    rw [hadded', hadded, List.append_assoc]
  | error e =>
    rw [h] at hsettled
    cases he : interrupts e with
    | true =>
      rw [hpass e he]
      exact ⟨added, hadded, by cases hsettled with
        | calm hcalm houtcome => simp [he] at houtcome
        | interrupted hcalm hlast he => exact .interrupted hcalm hlast he⟩
    | false =>
      obtain ⟨added', hadded', hsettled'⟩ :=
        herror e he (x.run state history).2.1 (x.run state history).2.2
      refine ⟨added ++ added', ?_, hsettled'.append (hsettled.calm_of_error he)⟩
      rw [hadded', hadded, List.append_assoc]

lemma Prompt.bind {f : α → Script σ ι ε β} (hx : Prompt raised interrupts x)
    (hf : ∀ a, Prompt raised interrupts (f a)) : Prompt raised interrupts (x >>= f) := by
  intro state history
  obtain ⟨added, hadded, hsettled⟩ := hx state history
  rcases h : x.run state history with ⟨outcome, state', history'⟩
  rw [h] at hadded hsettled
  simp only at hadded hsettled
  cases outcome with
  | ok a =>
    rw [run_bind_of_ok h]
    obtain ⟨added', hadded', hsettled'⟩ := hf a state' history'
    refine ⟨added ++ added', ?_, hsettled'.append hsettled.calm_of_ok⟩
    rw [hadded', hadded, List.append_assoc]
  | error e =>
    rw [run_bind_of_error h]
    refine ⟨added, hadded, ?_⟩
    cases hsettled with
    | calm hcalm houtcome => exact .calm hcalm fun e' he' => houtcome e' (by cases he'; rfl)
    | interrupted hcalm hlast he => exact .interrupted hcalm hlast he

lemma Prompt.ite {p : Prop} [Decidable p] {y : Script σ ι ε α}
    (hx : Prompt raised interrupts x) (hy : Prompt raised interrupts y) :
    Prompt raised interrupts (if p then x else y) := by
  by_cases h : p
  · rwa [if_pos h]
  · rwa [if_neg h]

end Rules

end Script

end Scripts
