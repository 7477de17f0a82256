import PacketTracer.Library.Polling

/-!
# Waiting for a stable observation

`stable_convergence.py`: the waiter polls until `stable_samples` inspections in a row succeeded,
satisfied the predicate and had equal fingerprints, or until a budget is spent.

The loop keeps a streak and the fingerprint that it compares with.  `Streak` says what these are
about the inspections so far: the streak is the length of the longest run of alike valid
inspections that ends with the last one.  With it the loop is the declarative waiter: it converges
at the first attempt that ends such a run of the wanted length, unless a budget ended it before.

Clock readings are rational numbers.
-/

namespace PacketTracer

open Polling

namespace StableConvergenceWaiter

/-! ## Configuration -/

/-- What the constructor accepts. -/
structure Configuration where
  timeout : ℚ
  interval : ℚ
  stableSamples : ℕ
  maxAttempts : Option ℕ
  timeout_nonneg : 0 ≤ timeout
  interval_nonneg : 0 ≤ interval
  two_le_stableSamples : 2 ≤ stableSamples
  maxAttempts_pos : ∀ bound ∈ maxAttempts, 1 ≤ bound

/-- `__init__`. -/
def configure (timeoutSeconds intervalSeconds : ℚ) (stableSamples : ℤ) (maxAttempts : Option ℤ) :
    Except String Configuration :=
  if htimeout : timeoutSeconds < 0 then .error "timeout_seconds must be non-negative."
  else if hinterval : intervalSeconds < 0 then .error "interval_seconds must be non-negative."
  else if hsamples : stableSamples < 2 then .error "stable_samples must be at least 2."
  else if hattempts : ∃ bound ∈ maxAttempts, bound < 1 then
    .error "max_attempts must be a positive integer or None."
  else .ok
    { timeout := timeoutSeconds
      interval := intervalSeconds
      stableSamples := stableSamples.toNat
      maxAttempts := maxAttempts.map Int.toNat
      timeout_nonneg := nonneg_of_not_neg htimeout
      interval_nonneg := nonneg_of_not_neg hinterval
      two_le_stableSamples := by omega
      maxAttempts_pos := by
        intro bound hbound
        obtain ⟨given, hgiven, rfl⟩ := Option.map_eq_some_iff.mp hbound
        have hpos : ¬given < 1 := fun hlt => hattempts ⟨given, hgiven, hlt⟩
        omega }

/-! ## The loop -/

/-- What `inspect`, `predicate` and `fingerprint` do in one attempt. -/
inductive Inspection (σ φ : Type*)
  | inspectRaised (error : String)
  | predicateRaised (snapshot : σ) (error : String)
  | refused (snapshot : σ)
  | fingerprintRaised (snapshot : σ) (error : String)
  | accepted (snapshot : σ) (fingerprint : φ)
  deriving DecidableEq

/-- The variables of the loop. -/
structure State (σ φ : Type*) where
  attempts : ℕ := 0
  streak : ℕ := 0
  lastSnapshot : Option σ := none
  lastFingerprint : Option φ := none
  /-- `comparison_fingerprint`, when `has_comparison_fingerprint`. -/
  comparisonFingerprint : Option φ := none
  inspectionErrors : ℕ := 0
  lastError : String := ""
  deriving DecidableEq

/-- `StableConvergenceStatus`. -/
inductive Status
  | converged
  | timeout
  deriving DecidableEq

/-- `StableConvergenceResult`. -/
structure Result (σ φ : Type*) where
  status : Status
  attempts : ℕ
  elapsedMs : ℤ
  stableSamples : ℕ
  lastSnapshot : Option σ := none
  lastFingerprint : Option φ := none
  inspectionErrors : ℕ := 0
  lastError : String := ""
  deriving DecidableEq

section Loop

variable {σ φ : Type*} [DecidableEq φ]

/-- The state without a streak. -/
def State.reset (s : State σ φ) : State σ φ :=
  { s with streak := 0, lastFingerprint := none, comparisonFingerprint := none }

/-- The state after an exception. -/
def State.fail (s : State σ φ) (error : String) : State σ φ :=
  { s.reset with inspectionErrors := s.inspectionErrors + 1, lastError := error }

/-- The body of the `try` with its handler. -/
def State.inspect (s : State σ φ) : Inspection σ φ → State σ φ
  | .inspectRaised error => s.fail error
  | .predicateRaised snapshot error => { s with lastSnapshot := some snapshot }.fail error
  | .refused snapshot => { s with lastSnapshot := some snapshot }.reset
  | .fingerprintRaised snapshot error => { s with lastSnapshot := some snapshot }.fail error
  | .accepted snapshot fingerprint =>
    let s := { s with lastSnapshot := some snapshot, lastFingerprint := some fingerprint }
    if s.comparisonFingerprint = some fingerprint then { s with streak := s.streak + 1 }
    else { s with comparisonFingerprint := some fingerprint, streak := 1 }

/-- `int` of a number of seconds in milliseconds. -/
def elapsedMs (seconds : ℚ) : ℤ := (seconds * 1000).num.tdiv (seconds * 1000).den

/-- The result in a state. -/
def State.result (s : State σ φ) (status : Status) (elapsed : ℚ) : Result σ φ where
  status := status
  attempts := s.attempts
  elapsedMs := elapsedMs elapsed
  stableSamples := s.streak
  lastSnapshot := s.lastSnapshot
  lastFingerprint := s.lastFingerprint
  inspectionErrors := s.inspectionErrors
  lastError := s.lastError

/-- Whether a budget is spent after so many attempts and so much time. -/
def budgetSpent (configuration : Configuration) (attempts : ℕ) (elapsed : ℚ) : Bool :=
  configuration.timeout ≤ elapsed || configuration.maxAttempts.any (· ≤ attempts)

/-- How long the loop sleeps after an attempt. -/
def pause (configuration : Configuration) (elapsed : ℚ) : ℚ :=
  min configuration.interval (configuration.timeout - elapsed)

/-- One attempt: an inspection and the reading of the clock after it. -/
def attempt (configuration : Configuration) (started : ℚ) (s : State σ φ)
    (input : Inspection σ φ × ℚ) : Result σ φ ⊕ State σ φ :=
  let s := { s with attempts := s.attempts + 1 }.inspect input.1
  let elapsed := input.2 - started
  if configuration.stableSamples ≤ s.streak then .inl (s.result .converged elapsed)
  else if budgetSpent configuration s.attempts elapsed then .inl (s.result .timeout elapsed)
  else .inr s

/-- `wait`, with a bound on the attempts. -/
def wait (configuration : Configuration) (started : ℚ) (inputs : ℕ → Inspection σ φ × ℚ)
    (fuel : ℕ) : Option (Result σ φ) :=
  poll (attempt configuration started) inputs fuel 0 {}

end Loop

/-! ## What the loop is for -/

section Specification

variable {σ φ : Type*}

/-- The last `length` of the first `attempts` inspections all succeeded, satisfied the predicate
and had the given fingerprint. -/
def AlikeWith (inputs : ℕ → Inspection σ φ × ℚ) (length attempts : ℕ) (shared : Option φ) : Prop :=
  length ≤ attempts ∧ ∀ number, attempts - length ≤ number → number < attempts →
    ∃ snapshot fingerprint, (inputs number).1 = .accepted snapshot fingerprint ∧
      shared = some fingerprint

/-- The last `length` of the first `attempts` inspections all succeeded, satisfied the predicate
and had equal fingerprints. -/
def AlikeAt (inputs : ℕ → Inspection σ φ × ℚ) (length attempts : ℕ) : Prop :=
  ∃ shared, AlikeWith inputs length attempts shared

/-- A budget is spent after an attempt. -/
def BudgetSpentAt (configuration : Configuration) (started : ℚ)
    (inputs : ℕ → Inspection σ φ × ℚ) (attempts : ℕ) : Prop :=
  configuration.timeout ≤ (inputs (attempts - 1)).2 - started ∨
    ∃ bound ∈ configuration.maxAttempts, bound ≤ attempts

/-- The attempt ends a run of the wanted length or finds a budget spent. -/
def Ends (configuration : Configuration) (started : ℚ) (inputs : ℕ → Inspection σ φ × ℚ)
    (attempts : ℕ) : Prop :=
  AlikeAt inputs configuration.stableSamples attempts ∨
    BudgetSpentAt configuration started inputs attempts

/-- What the loop knows of the inspections so far: the streak counts the longest run that ends with
the last one, and its fingerprint is the one to compare with. -/
structure Streak (inputs : ℕ → Inspection σ φ × ℚ) (attempts : ℕ) (s : State σ φ) : Prop where
  attempts_eq : s.attempts = attempts
  alike : AlikeWith inputs s.streak attempts s.comparisonFingerprint
  longest : ∀ length, AlikeAt inputs length attempts → length ≤ s.streak

variable {inputs : ℕ → Inspection σ φ × ℚ} {length shorter attempts : ℕ} {shared : Option φ}

lemma AlikeWith.mono (h : AlikeWith inputs length attempts shared) (hle : shorter ≤ length) :
    AlikeWith inputs shorter attempts shared := by
  obtain ⟨hlength, hall⟩ := h
  exact ⟨by omega, fun number hfirst hlast => hall number (by omega) hlast⟩

lemma AlikeWith.init (h : AlikeWith inputs (length + 1) (attempts + 1) shared) :
    AlikeWith inputs length attempts shared := by
  obtain ⟨hlength, hall⟩ := h
  exact ⟨by omega, fun number hfirst hlast => hall number (by omega) (by omega)⟩

lemma AlikeWith.last (h : AlikeWith inputs (length + 1) (attempts + 1) shared) :
    ∃ snapshot fingerprint, (inputs attempts).1 = .accepted snapshot fingerprint ∧
      shared = some fingerprint :=
  h.2 attempts (by omega) (Nat.lt_succ_self _)

lemma AlikeWith.snoc (h : AlikeWith inputs length attempts shared) {snapshot : σ} {fingerprint : φ}
    (hlast : (inputs attempts).1 = .accepted snapshot fingerprint)
    (hshared : shared = some fingerprint) :
    AlikeWith inputs (length + 1) (attempts + 1) shared := by
  obtain ⟨hlength, hall⟩ := h
  refine ⟨by omega, fun number hfirst hnumber => ?_⟩
  rcases Nat.lt_succ_iff_lt_or_eq.mp hnumber with hlt | rfl
  · exact hall number (by omega) hlt
  · exact ⟨snapshot, fingerprint, hlast, hshared⟩

lemma alikeWith_zero (attempts : ℕ) (shared : Option φ) : AlikeWith inputs 0 attempts shared :=
  ⟨Nat.zero_le _, fun number hfirst hlast => by omega⟩

lemma Streak.le_iff {s : State σ φ} (h : Streak inputs attempts s) :
    length ≤ s.streak ↔ AlikeAt inputs length attempts :=
  ⟨fun hle => ⟨_, h.alike.mono hle⟩, h.longest length⟩

end Specification

/-! ## The loop keeps the streak -/

section Loop

variable {σ φ : Type*} [DecidableEq φ] {inputs : ℕ → Inspection σ φ × ℚ} {attempts : ℕ}
  {s : State σ φ} {configuration : Configuration} {started : ℚ}

omit [DecidableEq φ] in
lemma streak_of_not_accepted (hattempts : s.attempts = attempts + 1) (hstreak : s.streak = 0)
    (hlast : ∀ snapshot fingerprint, (inputs attempts).1 ≠ .accepted snapshot fingerprint) :
    Streak inputs (attempts + 1) s where
  attempts_eq := hattempts
  alike := hstreak ▸ alikeWith_zero _ _
  longest length h := by
    obtain ⟨shared, h⟩ := h
    cases length with
    | zero => exact Nat.zero_le _
    | succ length =>
      obtain ⟨snapshot, fingerprint, haccepted, -⟩ := h.last
      exact absurd haccepted (hlast snapshot fingerprint)

/-- An accepted inspection makes the streak longer or starts a new one. -/
lemma streak_of_accepted (h : Streak inputs attempts s) {snapshot : σ} {fingerprint : φ}
    (hlast : (inputs attempts).1 = .accepted snapshot fingerprint) :
    Streak inputs (attempts + 1)
      ({ s with attempts := s.attempts + 1 }.inspect (.accepted snapshot fingerprint)) := by
  unfold State.inspect
  simp only
  split_ifs with hcomparison
  · refine ⟨by simp [h.attempts_eq], h.alike.snoc hlast hcomparison, ?_⟩
    rintro (_ | length) ⟨shared, halike⟩
    · exact Nat.zero_le _
    · exact Nat.succ_le_succ (h.longest length ⟨shared, halike.init⟩)
  · refine ⟨by simp [h.attempts_eq], (alikeWith_zero _ _).snoc hlast rfl, ?_⟩
    rintro (_ | _ | length) ⟨shared, halike⟩
    · exact Nat.zero_le _
    · exact le_rfl
    · -- A longer run would have carried the fingerprint of the streak, which differs.
      exfalso
      obtain ⟨snapshot', fingerprint', hlast', rfl⟩ := halike.last
      rw [hlast] at hlast'
      obtain ⟨rfl, rfl⟩ := Inspection.accepted.inj hlast'
      obtain ⟨before, rfl⟩ : ∃ before, attempts = before + 1 :=
        Nat.exists_eq_succ_of_ne_zero (by have := halike.1; omega)
      have hstreak : length + 1 ≤ s.streak := h.longest (length + 1) ⟨_, halike.init⟩
      obtain ⟨_, other, hbefore, hother⟩ := halike.init.last
      obtain ⟨_, other', hbefore', hother'⟩ := (h.alike.mono hstreak).last
      rw [hbefore] at hbefore'
      obtain ⟨-, rfl⟩ := Inspection.accepted.inj hbefore'
      exact hcomparison (hother'.trans hother.symm)

lemma Streak.inspect (h : Streak inputs attempts s) :
    Streak inputs (attempts + 1)
      ({ s with attempts := s.attempts + 1 }.inspect (inputs attempts).1) := by
  cases hlast : (inputs attempts).1 with
  | accepted snapshot fingerprint => exact streak_of_accepted h hlast
  | inspectRaised error =>
    exact streak_of_not_accepted (congrArg (· + 1) h.attempts_eq) rfl (by simp [hlast])
  | predicateRaised snapshot error | refused snapshot | fingerprintRaised snapshot error =>
    exact streak_of_not_accepted (congrArg (· + 1) h.attempts_eq) rfl (by simp [hlast])

omit [DecidableEq φ] in
lemma streak_initial : Streak inputs 0 ({} : State σ φ) where
  attempts_eq := rfl
  alike := alikeWith_zero _ _
  longest _ := fun ⟨_, h⟩ => h.1

omit [DecidableEq φ] in
lemma budgetSpent_iff :
    budgetSpent configuration (attempts + 1) ((inputs attempts).2 - started) = true ↔
      BudgetSpentAt configuration started inputs (attempts + 1) := by
  simp [budgetSpent, BudgetSpentAt, Option.any_eq_true]

/-- **One attempt** ends the loop with `converged` when it ends a run of the wanted length, with
`timeout` when it does not and a budget is spent, and otherwise hands on the streak. -/
lemma attempt_cases (h : Streak inputs attempts s) :
    ∃ next, Streak inputs (attempts + 1) next ∧
      ((AlikeAt inputs configuration.stableSamples (attempts + 1) ∧
          attempt configuration started s (inputs attempts) =
            .inl (next.result .converged ((inputs attempts).2 - started))) ∨
        (¬AlikeAt inputs configuration.stableSamples (attempts + 1) ∧
          BudgetSpentAt configuration started inputs (attempts + 1) ∧
          attempt configuration started s (inputs attempts) =
            .inl (next.result .timeout ((inputs attempts).2 - started))) ∨
        (¬Ends configuration started inputs (attempts + 1) ∧
          attempt configuration started s (inputs attempts) = .inr next)) := by
  have hnext := h.inspect
  refine ⟨_, hnext, ?_⟩
  unfold attempt
  simp only
  rw [hnext.attempts_eq]
  by_cases halike : AlikeAt inputs configuration.stableSamples (attempts + 1)
  · rw [if_pos (hnext.le_iff.mpr halike)]
    exact Or.inl ⟨halike, rfl⟩
  rw [if_neg fun hle => halike (hnext.le_iff.mp hle)]
  by_cases hbudget : BudgetSpentAt configuration started inputs (attempts + 1)
  · rw [if_pos (budgetSpent_iff.mpr hbudget)]
    exact Or.inr (Or.inl ⟨halike, hbudget, rfl⟩)
  · rw [if_neg fun hspent => hbudget (budgetSpent_iff.mp hspent)]
    exact Or.inr (Or.inr ⟨not_or.mpr ⟨halike, hbudget⟩, rfl⟩)

/-- A state that an attempt starts with knows the streak, and no attempt before it ended the
loop. -/
lemma streak_of_stateBefore
    (h : stateBefore (attempt configuration started) inputs {} attempts = some s) :
    Streak inputs attempts s ∧
      ∀ earlier, 1 ≤ earlier → earlier ≤ attempts → ¬Ends configuration started inputs earlier := by
  refine stateBefore_invariant (P := fun attempts s => Streak inputs attempts s ∧
    ∀ earlier, 1 ≤ earlier → earlier ≤ attempts → ¬Ends configuration started inputs earlier)
    ⟨streak_initial, fun earlier hfirst hlast => by omega⟩ ?_ h
  rintro number u v ⟨hu, hearlier⟩ hround
  obtain ⟨next, hnext, ⟨-, hend⟩ | ⟨-, -, hend⟩ | ⟨hnot, hend⟩⟩ :=
    @attempt_cases _ _ _ _ _ _ configuration started hu
  · rw [hend] at hround
    cases hround
  · rw [hend] at hround
    cases hround
  · rw [hend] at hround
    cases hround
    refine ⟨hnext, fun earlier hfirst hlast => ?_⟩
    rcases Nat.le_succ_iff.mp hlast with hlast | rfl
    · exact hearlier earlier hfirst hlast
    · exact hnot

lemma exists_stateBefore_of_not_ends
    (h : ∀ earlier, 1 ≤ earlier → earlier ≤ attempts →
      ¬Ends configuration started inputs earlier) :
    ∃ s, stateBefore (attempt configuration started) inputs ({} : State σ φ) attempts = some s := by
  refine exists_stateBefore_of_forall fun earlier hlt u hu => ?_
  obtain ⟨next, -, ⟨halike, -⟩ | ⟨-, hbudget, -⟩ | ⟨-, hend⟩⟩ :=
    @attempt_cases _ _ _ _ _ _ configuration started (streak_of_stateBefore hu).1
  · exact absurd (Or.inl halike) (h (earlier + 1) (by omega) (by omega))
  · exact absurd (Or.inr hbudget) (h (earlier + 1) (by omega) (by omega))
  · exact ⟨next, hend⟩

/-- **How a wait ends**: at the first attempt that ends a run of the wanted length or finds a
budget spent, with `converged` when it ends such a run. -/
lemma wait_eq_some {fuel : ℕ} {result : Result σ φ}
    (h : wait configuration started inputs fuel = some result) :
    1 ≤ result.attempts ∧ result.attempts ≤ fuel ∧
      (∀ earlier, 1 ≤ earlier → earlier < result.attempts →
        ¬Ends configuration started inputs earlier) ∧
      Ends configuration started inputs result.attempts ∧
      (result.status = .converged ↔
        AlikeAt inputs configuration.stableSamples result.attempts) ∧
      AlikeAt inputs result.stableSamples result.attempts := by
  obtain ⟨number, hfuel, s, hs, hend⟩ := poll_eq_some_iff.mp h
  obtain ⟨hstreak, hearlier⟩ := streak_of_stateBefore hs
  obtain ⟨next, hnext, ⟨halike, hresult⟩ | ⟨hnot, hbudget, hresult⟩ | ⟨-, hresult⟩⟩ :=
    @attempt_cases _ _ _ _ _ _ configuration started hstreak
  · obtain rfl := Sum.inl.inj (hresult.symm.trans hend)
    have hattempts : (next.result .converged ((inputs number).2 - started)).attempts = number + 1 :=
      hnext.attempts_eq
    rw [hattempts]
    exact ⟨by omega, hfuel, fun earlier hfirst hlast => hearlier earlier hfirst (by omega),
      Or.inl halike, ⟨fun _ => halike, fun _ => rfl⟩, _, hnext.alike⟩
  · obtain rfl := Sum.inl.inj (hresult.symm.trans hend)
    have hattempts : (next.result .timeout ((inputs number).2 - started)).attempts = number + 1 :=
      hnext.attempts_eq
    rw [hattempts]
    exact ⟨by omega, hfuel, fun earlier hfirst hlast => hearlier earlier hfirst (by omega),
      Or.inr hbudget, ⟨nofun, fun halike => absurd halike hnot⟩, _, hnext.alike⟩
  · rw [hresult] at hend
    cases hend

/-- The wait ends at the first attempt that ends a run of the wanted length or finds a budget
spent. -/
lemma exists_wait_of_ends (hpos : 1 ≤ attempts) (hends : Ends configuration started inputs attempts)
    (hearlier : ∀ earlier, 1 ≤ earlier → earlier < attempts →
      ¬Ends configuration started inputs earlier) :
    ∃ result, wait configuration started inputs attempts = some result ∧
      result.attempts = attempts := by
  obtain ⟨number, rfl⟩ : ∃ number, attempts = number + 1 :=
    Nat.exists_eq_succ_of_ne_zero (by omega)
  have hbefore : ∀ earlier, 1 ≤ earlier → earlier ≤ number →
      ¬Ends configuration started inputs earlier := fun earlier hfirst hlast =>
    hearlier earlier hfirst (Nat.lt_succ_of_le hlast)
  obtain ⟨s, hs⟩ := exists_stateBefore_of_not_ends hbefore
  obtain ⟨next, hnext, ⟨-, hresult⟩ | ⟨-, -, hresult⟩ | ⟨hnot, -⟩⟩ :=
    @attempt_cases _ _ _ _ _ _ configuration started (streak_of_stateBefore hs).1
  · exact ⟨_, poll_eq_some_iff.mpr ⟨number, Nat.lt_succ_self _, s, hs, hresult⟩, hnext.attempts_eq⟩
  · exact ⟨_, poll_eq_some_iff.mpr ⟨number, Nat.lt_succ_self _, s, hs, hresult⟩, hnext.attempts_eq⟩
  · exact absurd hends hnot

/-- **The declarative waiter.**  For every sequence of inspections and clock readings: the wait
reports `converged` at an attempt exactly when that is the first one that ends a run of
`stable_samples` alike inspections and no budget was spent after an earlier one; neither the
streak of a result nor that of any state on the way spans anything but alike accepted
inspections; and the wait has ended when a budget is spent. -/
theorem converged_at_iff (configuration : Configuration) (started : ℚ)
    (inputs : ℕ → Inspection σ φ × ℚ) :
    (∀ attempts, (∃ fuel result, wait configuration started inputs fuel = some result ∧
        result.status = .converged ∧ result.attempts = attempts) ↔
      AlikeAt inputs configuration.stableSamples attempts ∧
        ∀ earlier, 1 ≤ earlier → earlier < attempts →
          ¬AlikeAt inputs configuration.stableSamples earlier ∧
          ¬BudgetSpentAt configuration started inputs earlier) ∧
    (∀ fuel result, wait configuration started inputs fuel = some result →
      AlikeAt inputs result.stableSamples result.attempts) ∧
    (∀ attempts s, stateBefore (attempt configuration started) inputs {} attempts = some s →
      AlikeAt inputs s.streak attempts) ∧
    ∀ attempts, 1 ≤ attempts → BudgetSpentAt configuration started inputs attempts →
      ∃ result, wait configuration started inputs attempts = some result := by
  refine ⟨fun attempts => ⟨?_, ?_⟩, ?_, ?_, ?_⟩
  · rintro ⟨fuel, result, hwait, hconverged, rfl⟩
    obtain ⟨-, -, hearlier, -, hstatus, -⟩ := wait_eq_some hwait
    refine ⟨hstatus.mp hconverged, fun earlier hfirst hlast => ?_⟩
    exact not_or.mp (hearlier earlier hfirst hlast)
  · rintro ⟨halike, hearlier⟩
    have hpos : 1 ≤ attempts := by
      have htwo := configuration.two_le_stableSamples
      obtain ⟨_, hlength, -⟩ := halike
      omega
    obtain ⟨result, hwait, hattempts⟩ := exists_wait_of_ends hpos (Or.inl halike)
      fun earlier hfirst hlast => not_or.mpr (hearlier earlier hfirst hlast)
    subst hattempts
    exact ⟨_, result, hwait, (wait_eq_some hwait).2.2.2.2.1.mpr halike, rfl⟩
  · intro fuel result hwait
    exact (wait_eq_some hwait).2.2.2.2.2
  · intro attempts s hs
    exact ⟨_, (streak_of_stateBefore hs).1.alike⟩
  · intro attempts hpos hbudget
    classical
    -- The first attempt that ends the wait is at most the one with the budget.
    have hexists : ∃ number, 1 ≤ number ∧ Ends configuration started inputs number :=
      ⟨attempts, hpos, Or.inr hbudget⟩
    have hfirst := Nat.find_spec hexists
    have hle : Nat.find hexists ≤ attempts := Nat.find_min' hexists ⟨hpos, Or.inr hbudget⟩
    obtain ⟨result, hwait, -⟩ := exists_wait_of_ends hfirst.1 hfirst.2
      fun earlier hone hlt hends => Nat.find_min hexists hlt ⟨hone, hends⟩
    refine ⟨result, ?_⟩
    obtain ⟨number, hnumber, hrest⟩ := poll_eq_some_iff.mp hwait
    exact poll_eq_some_iff.mpr ⟨number, hnumber.trans_le hle, hrest⟩

end Loop

end StableConvergenceWaiter

end PacketTracer
