import PacketTracer.Application.VoiceCorrelation
import PacketTracer.Library.Polling

/-!
# Waiting on the simulation clock

`simulation_time_convergence.py`: the waiter polls until an inspection converges, loses its
authorization or has seen enough progress of the simulation clock.  Each round asks the wall clock
for admission, reads the simulation clock and only then inspects.

Finite floating point numbers are rational numbers and their rounding is left out, but an integer
beyond their range cannot be converted: `float` raises on it.
-/

namespace PacketTracer

open Polling PyValues VoiceEvidence

/-- `OBSERVER_INCOMPLETE_STOP_REASONS`. -/
def observerIncompleteStopReasons : List String :=
  ["simulation_clock_read_failed", "simulation_clock_unobservable", "simulation_clock_not_realtime",
    "simulation_clock_invalid", "simulation_clock_untyped", "simulation_clock_regressed",
    "wall_clock_safety_cap", "inspection_failed"]

/-- What `sim_time` may hold. -/
inductive ClockValue
  | missing
  | bool (value : Bool)
  | int (value : ℤ)
  | float (value : ℚ)
  /-- An infinity or no number. -/
  | nonFinite
  deriving DecidableEq

/-- `SimulationStateObservation`. -/
structure SimulationStateObservation where
  observed : Bool
  simulationMode : Bool := false
  simTime : ClockValue := .missing
  message : String := ""
  deriving DecidableEq

namespace SimulationTimeConvergenceWaiter

/-- What the constructor accepts. -/
structure Configuration where
  requiredProgressMs : ℚ
  maxWallSeconds : ℚ
  intervalSeconds : ℚ
  requiredProgressMs_pos : 0 < requiredProgressMs
  maxWallSeconds_pos : 0 < maxWallSeconds
  intervalSeconds_nonneg : 0 ≤ intervalSeconds

/-- `__init__`. -/
def configure (requiredSimulationProgressMs maxWallSeconds intervalSeconds : ℚ) :
    Except String Configuration :=
  if hprogress : requiredSimulationProgressMs ≤ 0 then
    .error "required simulation progress must be positive"
  else if hwall : maxWallSeconds ≤ 0 then .error "wall-clock safety cap must be positive"
  else if hinterval : intervalSeconds < 0 then .error "poll interval cannot be negative"
  else .ok ⟨requiredSimulationProgressMs, maxWallSeconds, intervalSeconds, not_le.mp hprogress,
    not_le.mp hwall, nonneg_of_not_neg hinterval⟩

/-- `SimulationTimeConvergenceResult`. -/
structure Result where
  converged : Bool
  attempts : ℕ
  elapsedMs : ℤ
  simulationStartMs : Option ℚ
  simulationEndMs : Option ℚ
  simulationProgressMs : ℚ
  requiredSimulationProgressMs : ℚ
  clockSamples : ℕ
  stopReason : String
  failureReason : String := ""
  deriving DecidableEq

/-- What the result of a wait concludes. -/
def Result.outcome (result : Result) : ConvergenceOutcome :=
  classifyExtensionStopReason (some result.stopReason)

/-! ## The simulation clock -/

/-- What `observe_simulation_state` does. -/
inductive Reading
  | raised (error : String)
  /-- Something else than a `SimulationStateObservation`. -/
  | untyped
  | observation (state : SimulationStateObservation)
  deriving DecidableEq

/-- What a reading of the simulation clock comes to. -/
inductive SimulationTime
  | value (time : ℚ)
  | stop (reason detail : String)
  /-- `float` raises an `OverflowError`. -/
  | overflow
  deriving DecidableEq

/-- The first magnitude that `float` rounds to no finite number. -/
def floatBound : ℕ := 2 ^ 1024 - 2 ^ 970

/-- `_read_simulation_time`. -/
def readSimulationTime : Reading → SimulationTime
  | .raised error => .stop "simulation_clock_read_failed" error
  | .untyped => .stop "simulation_clock_untyped" ""
  | .observation state =>
    if ¬state.observed then .stop "simulation_clock_unobservable" state.message
    else if state.simulationMode then .stop "simulation_clock_not_realtime" ""
    else
      match state.simTime with
      | .int value => if floatBound ≤ value.natAbs then .overflow else .value value
      | .float value => .value value
      | .missing | .bool _ | .nonFinite => .stop "simulation_clock_invalid" ""

/-! ## The loop -/

/-- What one round may read: the wall clock before it, the simulation clock, the answer of the
inspection, and the wall clock once more when the round ends the wait or sleeps. -/
structure RoundInput where
  admission : ℚ
  reading : Reading
  /-- The entries of the observed dictionary, or the text of an exception. -/
  inspection : Except String (List (String × PyValue))
  after : ℚ

/-- The variables of the loop. -/
structure State where
  attempts : ℕ
  clockSamples : ℕ
  startSimTime : ℚ
  lastSimTime : ℚ
  deriving DecidableEq

/-- `int` of a number of seconds in milliseconds. -/
def elapsedMs (seconds : ℚ) : ℤ := (seconds * 1000).num.tdiv (seconds * 1000).den

/-- `_result` after the first reading. -/
def State.result (s : State) (configuration : Configuration) (elapsed : ℚ)
    (stopReason : String) (failureReason : String := "") : Result where
  converged := stopReason = "converged"
  attempts := s.attempts
  elapsedMs := elapsedMs elapsed
  simulationStartMs := some s.startSimTime
  simulationEndMs := some s.lastSimTime
  simulationProgressMs := max 0 (s.lastSimTime - s.startSimTime)
  requiredSimulationProgressMs := configuration.requiredProgressMs
  clockSamples := s.clockSamples
  stopReason := stopReason
  failureReason := failureReason

/-- `str(observed.get("failure_reason") or "")`. -/
def failureReason (observed : List (String × PyValue)) : String :=
  match observed.lookup "failure_reason" with
  | some value => if value.truthy then value.text else ""
  | none => ""

/-- `observed.get(key) is True`. -/
def isTrueAt (observed : List (String × PyValue)) (key : String) : Bool :=
  (observed.lookup key).any PyValue.isTrue

/-- What a round does with a valid reading of the simulation clock. -/
def inspectAt (configuration : Configuration) (elapsed : ℚ) (s : State)
    (inspection : Except String (List (String × PyValue))) : Result ⊕ State :=
  match inspection with
  | .error error => .inl (s.result configuration elapsed "inspection_failed" error)
  | .ok observed =>
    if isTrueAt observed "configuration_channel" then
      .inl (s.result configuration elapsed "converged")
    else if ¬isTrueAt observed "continuation_authorized" then
      .inl (s.result configuration elapsed "continuation_unauthorized" (failureReason observed))
    else if configuration.requiredProgressMs ≤ s.lastSimTime - s.startSimTime then
      .inl (s.result configuration elapsed "simulation_progress_exhausted" (failureReason observed))
    else .inr s

/-- One round; `none` is the exception that leaves the loop. -/
def round (configuration : Configuration) (started : ℚ) (s : State) (input : RoundInput) :
    Option Result ⊕ State :=
  let elapsed := input.after - started
  if configuration.maxWallSeconds ≤ input.admission - started then
    .inl (some (s.result configuration elapsed "wall_clock_safety_cap"))
  else
    let s := { s with clockSamples := s.clockSamples + 1 }
    match readSimulationTime input.reading with
    | .overflow => .inl none
    | .stop reason detail => .inl (some (s.result configuration elapsed reason detail))
    | .value current =>
      if current < s.lastSimTime then
        .inl (some ({ s with lastSimTime := current }.result configuration elapsed
          "simulation_clock_regressed"))
      else
        (inspectAt configuration elapsed
          { s with lastSimTime := current, attempts := s.attempts + 1 } input.inspection).map some id

/-- How long a round that goes on sleeps. -/
def pause (configuration : Configuration) (elapsed : ℚ) : ℚ :=
  min configuration.intervalSeconds (max 0 (configuration.maxWallSeconds - elapsed))

/-- The result when the first reading of the simulation clock stops the wait. -/
def baselineResult (configuration : Configuration) (elapsed : ℚ) (reason detail : String) :
    Result where
  converged := false
  attempts := 0
  elapsedMs := elapsedMs elapsed
  simulationStartMs := none
  simulationEndMs := none
  simulationProgressMs := 0
  requiredSimulationProgressMs := configuration.requiredProgressMs
  clockSamples := 1
  stopReason := reason
  failureReason := detail

/-- `wait`, with a bound on the rounds: the inner `none` is the exception that leaves it. -/
def wait (configuration : Configuration) (started : ℚ) (baseline : Reading) (after : ℚ)
    (inputs : ℕ → RoundInput) (fuel : ℕ) : Option (Option Result) :=
  match readSimulationTime baseline with
  | .overflow => some none
  | .stop reason detail =>
    some (some (baselineResult configuration (after - started) reason detail))
  | .value time => poll (round configuration started) inputs fuel 0 ⟨0, 1, time, time⟩

/-! ## What a wait concludes -/

section Specification

variable (configuration : Configuration) (started : ℚ) (baseline : Reading) (after : ℚ)
  (inputs : ℕ → RoundInput)

/-- The readings of the simulation clock: the baseline, then one for each round. -/
def readingAt : ℕ → Reading
  | 0 => baseline
  | number + 1 => (inputs number).reading

/-- The state in which a round of the wait starts; `none` when the wait ended before. -/
def stateAt (number : ℕ) : Option State :=
  match readSimulationTime baseline with
  | .value time => stateBefore (round configuration started) inputs ⟨0, 1, time, time⟩ number
  | _ => none

/-- A round is admitted: the wait gets to it, and the wall clock is before the boundary. -/
def Admitted (number : ℕ) : Prop :=
  (stateAt configuration started baseline inputs number).isSome ∧
    (inputs number).admission - started < configuration.maxWallSeconds

/-- The wait reads the simulation clock: for the baseline and in every admitted round. -/
def Reads (reading : Reading) : Prop :=
  reading = baseline ∨
    ∃ number, Admitted configuration started baseline inputs number ∧
      reading = (inputs number).reading

/-- What goes wrong in a round that the wait gets to: its clocks or its inspection. -/
def FailsIn (s : State) (input : RoundInput) : Prop :=
  configuration.maxWallSeconds ≤ input.admission - started ∨
    (∀ time, readSimulationTime input.reading = .value time → time < s.lastSimTime) ∨
    ∃ error, input.inspection = .error error

/-- The first readings were all valid realtime readings, none of them behind the one before, and
every one after the baseline was followed by an inspection that answered. -/
structure ValidRounds (attempts : ℕ) : Prop where
  attempts_pos : 1 ≤ attempts
  nondecreasing : ∀ number < attempts, ∃ time time',
    readSimulationTime (readingAt baseline inputs number) = .value time ∧
      readSimulationTime (readingAt baseline inputs (number + 1)) = .value time' ∧ time ≤ time'
  answered : ∀ number < attempts, ∃ observed, (inputs number).inspection = .ok observed

/-- What the stop reason of a result stands for. -/
structure Justified (result : Result) : Prop where
  admitted : ∀ number, number + 1 < result.clockSamples →
    (inputs number).admission - started < configuration.maxWallSeconds
  measured : result.outcome ≠ .observerIncomplete →
    ValidRounds baseline inputs result.attempts ∧ result.clockSamples = result.attempts + 1
  exhausted : result.stopReason = "simulation_progress_exhausted" →
    ∃ first last, readSimulationTime baseline = .value first ∧
      readSimulationTime (readingAt baseline inputs result.attempts) = .value last ∧
      configuration.requiredProgressMs ≤ last - first
  converged : result.outcome = .converged → ∃ observed,
    (inputs (result.attempts - 1)).inspection = .ok observed ∧
      isTrueAt observed "configuration_channel" = true

/-- Everything that the stop reasons promise: a wait that ends has a justified result, and
whatever fails makes the result incomplete. -/
structure Promises : Prop where
  justified : ∀ fuel outcome, wait configuration started baseline after inputs fuel = some outcome →
    ∃ result, outcome = some result ∧ Justified configuration started baseline inputs result
  baselineFails : (∀ time, readSimulationTime baseline ≠ .value time) → ∀ fuel, ∃ result,
    wait configuration started baseline after inputs fuel = some (some result) ∧
      result.outcome = .observerIncomplete
  roundFails : ∀ number s, stateAt configuration started baseline inputs number = some s →
    FailsIn configuration started s (inputs number) → ∃ result,
      wait configuration started baseline after inputs (number + 1) = some (some result) ∧
        result.outcome = .observerIncomplete

end Specification

/-! ## One round -/

section Round

variable {configuration : Configuration} {started : ℚ} {s : State} {input : RoundInput}

lemma outcome_of_mem : ∀ reason ∈ observerIncompleteStopReasons,
    classifyExtensionStopReason (some reason) = .observerIncomplete ∧
      reason ≠ "simulation_progress_exhausted" := by
  decide

/-- A reading that stops the wait has one of the incomplete reasons. -/
lemma mem_of_stop {reading : Reading} {reason detail : String}
    (h : readSimulationTime reading = .stop reason detail) :
    reason ∈ observerIncompleteStopReasons := by
  cases reading with
  | raised error | untyped =>
    cases h
    decide
  | observation state =>
    obtain ⟨observed, mode, time, message⟩ := state
    rcases observed with _ | _
    · cases h
      decide
    cases mode with
    | true =>
      cases h
      decide
    | false =>
      cases time with
      | int value =>
        by_cases hbound : floatBound ≤ value.natAbs
        · simp [readSimulationTime, hbound] at h
        · simp [readSimulationTime, hbound] at h
      | float value => cases h
      | missing | bool value | nonFinite =>
        cases h
        decide

/-- The state after a valid reading and its inspection. -/
def State.inspected (s : State) (time : ℚ) : State :=
  { s with clockSamples := s.clockSamples + 1, lastSimTime := time, attempts := s.attempts + 1 }

/-- How a round ends that was answered: the inspection decides, or the progress of the clock. -/
inductive AnswerEnds (configuration : Configuration) (s : State)
    (observed : List (String × PyValue)) : String → Prop
  | converged (h : isTrueAt observed "configuration_channel" = true) :
    AnswerEnds configuration s observed "converged"
  | unauthorized : AnswerEnds configuration s observed "continuation_unauthorized"
  | exhausted (h : configuration.requiredProgressMs ≤ s.lastSimTime - s.startSimTime) :
    AnswerEnds configuration s observed "simulation_progress_exhausted"

/-- An answered round was admitted, read a valid time that does not regress, and got an answer. -/
structure Answered (configuration : Configuration) (started : ℚ) (s : State) (input : RoundInput)
    (time : ℚ) (observed : List (String × PyValue)) : Prop where
  admitted : input.admission - started < configuration.maxWallSeconds
  valid : readSimulationTime input.reading = .value time
  le : s.lastSimTime ≤ time
  answer : input.inspection = .ok observed

lemma Answered.not_failsIn {time : ℚ} {observed : List (String × PyValue)}
    (h : Answered configuration started s input time observed) :
    ¬FailsIn configuration started s input := by
  rintro (hcap | hclock | ⟨error, herror⟩)
  · exact absurd h.admitted (not_lt.mpr hcap)
  · exact absurd (hclock time h.valid) (not_lt.mpr h.le)
  · rw [h.answer] at herror
    cases herror

/-- A failed round ends the wait with an incomplete observer. -/
structure EndsIncomplete (configuration : Configuration) (started : ℚ) (s : State)
    (input : RoundInput) (result : Result) : Prop where
  incomplete : result.outcome = .observerIncomplete
  not_exhausted : result.stopReason ≠ "simulation_progress_exhausted"
  samples_le : result.clockSamples ≤ s.clockSamples + 1
  admitted : s.clockSamples < result.clockSamples →
    input.admission - started < configuration.maxWallSeconds

lemma endsIncomplete_result {s' : State} {elapsed : ℚ} {reason detail : String}
    (hreason : reason ∈ observerIncompleteStopReasons)
    (hsamples : s'.clockSamples ≤ s.clockSamples + 1)
    (hadmitted : s.clockSamples < s'.clockSamples →
      input.admission - started < configuration.maxWallSeconds) :
    EndsIncomplete configuration started s input
      (s'.result configuration elapsed reason detail) where
  incomplete := (outcome_of_mem reason hreason).1
  not_exhausted := (outcome_of_mem reason hreason).2
  samples_le := hsamples
  admitted := hadmitted

/-- **One round** without an overflow fails and ends the wait with an incomplete observer, or is
answered and ends it for one of three reasons, or is answered and goes on. -/
lemma round_cases (hoverflow : input.admission - started < configuration.maxWallSeconds →
    readSimulationTime input.reading ≠ .overflow) :
    (∃ result, round configuration started s input = .inl (some result) ∧
      EndsIncomplete configuration started s input result) ∨
    ∃ time observed, Answered configuration started s input time observed ∧
      ((∃ reason detail, AnswerEnds configuration (s.inspected time) observed reason ∧
          round configuration started s input =
            .inl (some ((s.inspected time).result configuration (input.after - started) reason
              detail))) ∨
        round configuration started s input = .inr (s.inspected time)) := by
  unfold round
  simp only
  by_cases hcap : configuration.maxWallSeconds ≤ input.admission - started
  · rw [if_pos hcap]
    exact Or.inl ⟨_, rfl, endsIncomplete_result (by decide) (Nat.le_succ _)
      fun hlt => absurd hlt (Nat.lt_irrefl _)⟩
  · have hadmitted := not_le.mp hcap
    rw [if_neg hcap]
    cases hread : readSimulationTime input.reading with
    | overflow => exact absurd hread (hoverflow hadmitted)
    | stop reason detail =>
      exact Or.inl ⟨_, rfl, endsIncomplete_result (mem_of_stop hread) le_rfl fun _ => hadmitted⟩
    | value time =>
      simp only
      by_cases hregressed : time < s.lastSimTime
      · rw [if_pos hregressed]
        exact Or.inl ⟨_, rfl, endsIncomplete_result (by decide) le_rfl fun _ => hadmitted⟩
      rw [if_neg hregressed]
      unfold inspectAt
      rcases hinspection : input.inspection with error | observed
      · exact Or.inl ⟨_, rfl, endsIncomplete_result (by decide) le_rfl fun _ => hadmitted⟩
      refine Or.inr ⟨time, observed,
        ⟨hadmitted, hread, not_lt.mp hregressed, hinspection⟩, ?_⟩
      simp only
      by_cases hchannel : isTrueAt observed "configuration_channel" = true
      · rw [if_pos hchannel]
        exact Or.inl ⟨_, _, .converged hchannel, rfl⟩
      rw [if_neg hchannel]
      by_cases hauthorized : isTrueAt observed "continuation_authorized" = true
      · rw [if_neg (not_not.mpr hauthorized)]
        by_cases hexhausted : configuration.requiredProgressMs ≤ time - s.startSimTime
        · rw [if_pos hexhausted]
          exact Or.inl ⟨_, _, .exhausted hexhausted, rfl⟩
        · rw [if_neg hexhausted]
          exact Or.inr rfl
      · rw [if_pos hauthorized]
        exact Or.inl ⟨_, _, .unauthorized, rfl⟩

lemma round_of_overflow (hadmitted : input.admission - started < configuration.maxWallSeconds)
    (hread : readSimulationTime input.reading = .overflow) :
    round configuration started s input = .inl none := by
  unfold round
  simp only
  rw [if_neg (not_le.mpr hadmitted), hread]

end Round

/-! ## Whole waits -/

section Wait

variable {configuration : Configuration} {started : ℚ} {baseline : Reading} {after : ℚ}
  {inputs : ℕ → RoundInput} {number : ℕ} {s : State}

/-- What a state on the way knows of the rounds before it. -/
structure Progressed (configuration : Configuration) (started : ℚ) (baseline : Reading)
    (inputs : ℕ → RoundInput) (number : ℕ) (s : State) : Prop where
  attempts : s.attempts = number
  clockSamples : s.clockSamples = number + 1
  start : readSimulationTime baseline = .value s.startSimTime
  last : readSimulationTime (readingAt baseline inputs number) = .value s.lastSimTime
  nondecreasing : ∀ earlier < number, ∃ time time',
    readSimulationTime (readingAt baseline inputs earlier) = .value time ∧
      readSimulationTime (readingAt baseline inputs (earlier + 1)) = .value time' ∧ time ≤ time'
  answered : ∀ earlier < number, ∃ observed, (inputs earlier).inspection = .ok observed
  admitted : ∀ earlier < number,
    (inputs earlier).admission - started < configuration.maxWallSeconds

variable {time : ℚ} {observed : List (String × PyValue)}

/-- An answered round extends what is known. -/
lemma Progressed.inspected (h : Progressed configuration started baseline inputs number s)
    (hanswered : Answered configuration started s (inputs number) time observed) :
    Progressed configuration started baseline inputs (number + 1) (s.inspected time) where
  attempts := congrArg (· + 1) h.attempts
  clockSamples := congrArg (· + 1) h.clockSamples
  start := h.start
  last := hanswered.valid
  nondecreasing earlier hlt := by
    rcases Nat.lt_succ_iff_lt_or_eq.mp hlt with hlt | rfl
    · exact h.nondecreasing earlier hlt
    · exact ⟨s.lastSimTime, time, h.last, hanswered.valid, hanswered.le⟩
  answered earlier hlt := by
    rcases Nat.lt_succ_iff_lt_or_eq.mp hlt with hlt | rfl
    · exact h.answered earlier hlt
    · exact ⟨observed, hanswered.answer⟩
  admitted earlier hlt := by
    rcases Nat.lt_succ_iff_lt_or_eq.mp hlt with hlt | rfl
    · exact h.admitted earlier hlt
    · exact hanswered.admitted

lemma Progressed.validRounds
    (h : Progressed configuration started baseline inputs (number + 1) s) :
    ValidRounds baseline inputs (number + 1) where
  attempts_pos := Nat.succ_pos _
  nondecreasing := h.nondecreasing
  answered := h.answered

lemma wait_of_value (h : readSimulationTime baseline = .value time) (fuel : ℕ) :
    wait configuration started baseline after inputs fuel =
      poll (round configuration started) inputs fuel 0 ⟨0, 1, time, time⟩ := by
  unfold wait
  rw [h]

lemma stateAt_of_value (h : readSimulationTime baseline = .value time) :
    stateAt configuration started baseline inputs number =
      stateBefore (round configuration started) inputs ⟨0, 1, time, time⟩ number := by
  unfold stateAt
  rw [h]

lemma exists_value_of_stateAt (h : stateAt configuration started baseline inputs number = some s) :
    ∃ time, readSimulationTime baseline = .value time := by
  unfold stateAt at h
  split at h
  · exact ⟨_, ‹_›⟩
  · cases h

lemma not_overflow_of_stateAt
    (hreads : ∀ reading, Reads configuration started baseline inputs reading →
      readSimulationTime reading ≠ .overflow)
    (h : stateAt configuration started baseline inputs number = some s)
    (hadmitted : (inputs number).admission - started < configuration.maxWallSeconds) :
    readSimulationTime (inputs number).reading ≠ .overflow :=
  hreads _ (Or.inr ⟨number, ⟨Option.isSome_iff_exists.mpr ⟨s, h⟩, hadmitted⟩, rfl⟩)

/-- Without an overflow every state on the way knows the rounds before it. -/
lemma progressed_of_stateAt
    (hreads : ∀ reading, Reads configuration started baseline inputs reading →
      readSimulationTime reading ≠ .overflow)
    (h : stateAt configuration started baseline inputs number = some s) :
    Progressed configuration started baseline inputs number s := by
  obtain ⟨time, htime⟩ := exists_value_of_stateAt h
  induction number generalizing s with
  | zero =>
    rw [stateAt_of_value htime] at h
    cases h
    exact ⟨rfl, rfl, htime, htime, nofun, nofun, nofun⟩
  | succ number ih =>
    rw [stateAt_of_value htime] at h
    obtain ⟨u, hu, hround⟩ := stateBefore_succ_eq_some_iff.mp h
    rw [← stateAt_of_value htime] at hu
    rcases round_cases (not_overflow_of_stateAt hreads hu) with
      ⟨result, hend, -⟩ | ⟨time', observed, hanswered, ⟨reason, detail, -, hend⟩ | hnext⟩
    · rw [hend] at hround
      cases hround
    · rw [hend] at hround
      cases hround
    · rw [hnext] at hround
      cases hround
      exact (ih hu).inspected hanswered

/-- Every answered end is justified. -/
lemma justified_of_answerEnds {elapsed : ℚ} {reason detail : String}
    (h : Progressed configuration started baseline inputs number s)
    (hanswered : Answered configuration started s (inputs number) time observed)
    (hends : AnswerEnds configuration (s.inspected time) observed reason) :
    Justified configuration started baseline inputs
      ((s.inspected time).result configuration elapsed reason detail) := by
  have hnext := h.inspected hanswered
  have hattempts : ((s.inspected time).result configuration elapsed reason detail).attempts =
      number + 1 := hnext.attempts
  have hsamples : ((s.inspected time).result configuration elapsed reason detail).clockSamples =
      number + 2 := hnext.clockSamples
  refine ⟨fun earlier hlt => ?_, fun _ => ?_, fun hreason => ?_, fun houtcome => ?_⟩
  · rw [hsamples] at hlt
    exact hnext.admitted earlier (by omega)
  · rw [hattempts, hsamples]
    exact ⟨hnext.validRounds, rfl⟩
  · rw [hattempts]
    refine ⟨_, _, hnext.start, hnext.last, ?_⟩
    cases hends with
    | converged _ | unauthorized => exact absurd hreason (by simp [State.result])
    | exhausted hprogress => exact hprogress
  · rw [hattempts]
    refine ⟨observed, hanswered.answer, ?_⟩
    have hreason : classifyExtensionStopReason (some reason) = .converged := houtcome
    cases hends with
    | converged hchannel => exact hchannel
    | unauthorized | exhausted _ => exact absurd hreason (by decide)

lemma justified_of_endsIncomplete {result : Result}
    (h : Progressed configuration started baseline inputs number s)
    (hends : EndsIncomplete configuration started s (inputs number) result) :
    Justified configuration started baseline inputs result := by
  refine ⟨fun earlier hlt => ?_, fun hne => absurd hends.incomplete hne,
    fun hreason => absurd hreason hends.not_exhausted, fun houtcome => ?_⟩
  · have hsamples := hends.samples_le
    rw [h.clockSamples] at hsamples
    rcases Nat.lt_or_ge earlier number with hbefore | hge
    · exact h.admitted earlier hbefore
    · obtain rfl : earlier = number := by omega
      exact hends.admitted (by rw [h.clockSamples]; omega)
  · rw [hends.incomplete] at houtcome
    cases houtcome

/-- **The simulation-time wait.**  What the stop reasons promise holds of a wait exactly when no
reading of the simulation clock that it makes is an integer beyond the range of `float`. -/
theorem promises_iff (configuration : Configuration) (started : ℚ) (baseline : Reading) (after : ℚ)
    (inputs : ℕ → RoundInput) :
    Promises configuration started baseline after inputs ↔
      ∀ reading, Reads configuration started baseline inputs reading →
        readSimulationTime reading ≠ .overflow := by
  constructor
  · rintro h reading (rfl | ⟨number, ⟨hreached, hadmitted⟩, rfl⟩) hoverflow
    · have hwait : wait configuration started reading after inputs 0 = some none := by
        unfold wait
        rw [hoverflow]
      obtain ⟨result, hresult, -⟩ := h.justified 0 none hwait
      cases hresult
    · obtain ⟨s, hs⟩ := Option.isSome_iff_exists.mp hreached
      obtain ⟨time, htime⟩ := exists_value_of_stateAt hs
      rw [stateAt_of_value htime] at hs
      have hwait : wait configuration started baseline after inputs (number + 1) = some none := by
        rw [wait_of_value htime]
        exact poll_eq_some_iff.mpr
          ⟨number, Nat.lt_succ_self _, s, hs, round_of_overflow hadmitted hoverflow⟩
      obtain ⟨result, hresult, -⟩ := h.justified (number + 1) none hwait
      cases hresult
  · intro hreads
    refine ⟨fun fuel outcome hwait => ?_, fun hbaseline fuel => ?_, fun number s hs hfails => ?_⟩
    · cases hread : readSimulationTime baseline with
      | overflow => exact absurd hread (hreads baseline (Or.inl rfl))
      | stop reason detail =>
        obtain ⟨hincomplete, hne⟩ := outcome_of_mem reason (mem_of_stop hread)
        unfold wait at hwait
        rw [hread] at hwait
        cases hwait
        refine ⟨_, rfl, fun number hlt => ?_, fun h => absurd hincomplete h,
          fun h => absurd h hne, fun h => ?_⟩
        · simp [baselineResult] at hlt
        · exact absurd (hincomplete.symm.trans h) (by decide)
      | value time =>
        rw [wait_of_value hread] at hwait
        obtain ⟨number, -, s, hs, hend⟩ := poll_eq_some_iff.mp hwait
        rw [← stateAt_of_value hread] at hs
        have hprogressed := progressed_of_stateAt hreads hs
        rcases round_cases (not_overflow_of_stateAt hreads hs) with
          ⟨result, hresult, hincomplete⟩ |
            ⟨time', observed, hanswered, ⟨reason, detail, hends, hresult⟩ | hnext⟩
        · rw [hresult] at hend
          cases hend
          exact ⟨result, rfl, justified_of_endsIncomplete hprogressed hincomplete⟩
        · rw [hresult] at hend
          cases hend
          exact ⟨_, rfl, justified_of_answerEnds hprogressed hanswered hends⟩
        · rw [hnext] at hend
          cases hend
    · cases hread : readSimulationTime baseline with
      | overflow => exact absurd hread (hreads baseline (Or.inl rfl))
      | stop reason detail =>
        refine ⟨baselineResult configuration (after - started) reason detail, ?_,
          (outcome_of_mem reason (mem_of_stop hread)).1⟩
        unfold wait
        rw [hread]
      | value time => exact absurd hread (hbaseline time)
    · obtain ⟨time, htime⟩ := exists_value_of_stateAt hs
      rcases round_cases (s := s) (not_overflow_of_stateAt hreads hs) with
        ⟨result, hresult, hincomplete⟩ | ⟨time', observed, hanswered, -⟩
      · refine ⟨result, ?_, hincomplete.incomplete⟩
        rw [stateAt_of_value htime] at hs
        rw [wait_of_value htime]
        exact poll_eq_some_iff.mpr ⟨number, Nat.lt_succ_self _, s, hs, hresult⟩
      · exact absurd hfails hanswered.not_failsIn

/-- A realtime clock that reads an integer of 401 digits. -/
def hugeReading : Reading := .observation { observed := true, simTime := .int (10 ^ 400) }

/-- The first reading of the simulation clock may already be such an integer: the wait raises. -/
theorem not_forall_promises :
    ¬∀ (configuration : Configuration) (started : ℚ) (baseline : Reading) (after : ℚ)
      (inputs : ℕ → RoundInput), Promises configuration started baseline after inputs := by
  intro h
  have hpromises := h ⟨20000, 45, 1 / 4, by norm_num, by norm_num, by norm_num⟩ 0 hugeReading 0
    fun _ => ⟨0, hugeReading, .ok [], 0⟩
  have hread : readSimulationTime hugeReading = .overflow := by decide +kernel
  obtain ⟨result, hresult, -⟩ := hpromises.justified 0 none (by
    unfold wait
    rw [hread])
  cases hresult

end Wait

end SimulationTimeConvergenceWaiter

end PacketTracer
