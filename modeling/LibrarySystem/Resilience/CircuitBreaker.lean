import Mathlib.Tactic

/-!
# The circuit breaker

The critical sections of the breaker contain no suspension point, so each of
them is one atomic step on the breaker's fields.  Clock readings are arguments:
`wall` is `time.time()`, `recorded` and `judged` are the two readings of
`time.monotonic()` that recording and judging an outcome take.
-/

namespace LibrarySystem

inductive CircuitState
  | closed
  | opened
  | halfOpen
deriving DecidableEq

structure BreakerConfig where
  failure_threshold : ℤ
  success_threshold : ℤ
  timeout : ℚ
  failure_rate_threshold : ℚ
  window_seconds : ℚ
  minimum_calls : ℤ
  half_open_max_calls : ℤ

/-- An outcome of the sliding window: monotonic time and whether it failed. -/
structure BreakerOutcome where
  time : ℚ
  is_failure : Bool
deriving DecidableEq

/-- The fields of `CircuitBreaker` that its critical sections read and write;
the oldest outcome of the window comes first. -/
structure Breaker where
  state : CircuitState
  failure_count : ℕ
  success_count : ℕ
  last_failure_time : Option ℚ
  window : List BreakerOutcome
  half_open_in_flight : ℕ
deriving DecidableEq

structure BreakerClock where
  wall : ℚ
  recorded : ℚ
  judged : ℚ

namespace Breaker

/-- `CircuitBreaker.__init__` -/
def new : Breaker :=
  { state := .closed, failure_count := 0, success_count := 0, last_failure_time := none,
    window := [], half_open_in_flight := 0 }

/-- `_should_attempt_reset` -/
def shouldAttemptReset (config : BreakerConfig) (wall : ℚ) (breaker : Breaker) : Bool :=
  match breaker.last_failure_time with
  | none => true
  | some failed => config.timeout ≤ wall - failed

/-- `_prune_window` -/
def pruneWindow (config : BreakerConfig) (now : ℚ) (breaker : Breaker) : Breaker :=
  { breaker with
    window := breaker.window.dropWhile fun outcome =>
      outcome.time < now - config.window_seconds }

/-- `_record_outcome` -/
def recordOutcome (config : BreakerConfig) (now : ℚ) (is_failure : Bool)
    (breaker : Breaker) : Breaker :=
  pruneWindow config now
    { breaker with window := breaker.window ++ [⟨now, is_failure⟩] }

/-- `_window_failure_rate` on a pruned window: `none` below `minimum_calls`, which
is positive, so that the divisor is not zero. -/
def failureRate (config : BreakerConfig) (window : List BreakerOutcome) : Option ℚ :=
  if (window.length : ℤ) < config.minimum_calls then none
  else
    some ((window.filter BreakerOutcome.is_failure).length / window.length * 100)

/-- `_transition_to` -/
def transitionTo (new_state : CircuitState) (breaker : Breaker) : Breaker :=
  { breaker with
    state := new_state
    window := if new_state = .closed then [] else breaker.window
    half_open_in_flight :=
      if new_state = .halfOpen then breaker.half_open_in_flight else 0 }

/-- `_release_probe` -/
def releaseProbe (is_probe : Bool) (breaker : Breaker) : Breaker :=
  if is_probe ∧ 0 < breaker.half_open_in_flight then
    { breaker with half_open_in_flight := breaker.half_open_in_flight - 1 }
  else breaker

/-- `_handle_success` -/
def handleSuccess (config : BreakerConfig) (clock : BreakerClock) (is_probe : Bool)
    (breaker : Breaker) : Breaker :=
  let breaker := releaseProbe is_probe (recordOutcome config clock.recorded false breaker)
  match breaker.state with
  | .halfOpen =>
      let breaker := { breaker with success_count := breaker.success_count + 1 }
      if config.success_threshold ≤ breaker.success_count then
        { transitionTo .closed breaker with failure_count := 0, success_count := 0 }
      else breaker
  | .closed => { breaker with failure_count := 0 }
  | .opened => breaker

/-- `_handle_failure` -/
def handleFailure (config : BreakerConfig) (clock : BreakerClock)
    (excluded is_probe : Bool) (breaker : Breaker) : Breaker :=
  if excluded then releaseProbe is_probe breaker
  else
    let breaker :=
      releaseProbe is_probe (recordOutcome config clock.recorded true breaker)
    let breaker :=
      { breaker with
        last_failure_time := some clock.wall
        failure_count := breaker.failure_count + 1 }
    match breaker.state with
    | .halfOpen => { transitionTo .opened breaker with success_count := 0 }
    | .closed =>
        if config.failure_threshold ≤ breaker.failure_count then
          transitionTo .opened breaker
        else
          let breaker := pruneWindow config clock.judged breaker
          match failureRate config breaker.window with
          | none => breaker
          | some rate =>
              if config.failure_rate_threshold ≤ rate then transitionTo .opened breaker
              else breaker
    | .opened => breaker

inductive Admission
  | admitted (is_probe : Bool)
  | rejected
deriving DecidableEq

/-- `_acquire` -/
def acquire (config : BreakerConfig) (wall : ℚ) (breaker : Breaker) :
    Breaker × Admission :=
  match breaker.state with
  | .closed => (breaker, .admitted false)
  | .opened =>
      if shouldAttemptReset config wall breaker then
        ({ transitionTo .halfOpen breaker with
            success_count := 0, half_open_in_flight := 1 }, .admitted true)
      else (breaker, .rejected)
  | .halfOpen =>
      if (breaker.half_open_in_flight : ℤ) < config.half_open_max_calls then
        ({ breaker with half_open_in_flight := breaker.half_open_in_flight + 1 },
          .admitted true)
      else (breaker, .rejected)

/-- `CircuitBreaker.reset` -/
def reset (breaker : Breaker) : Breaker :=
  { breaker with
    state := .closed, failure_count := 0, success_count := 0, last_failure_time := none,
    window := [], half_open_in_flight := 0 }

/-! ## Field lemmas -/

section Fields

variable (config : BreakerConfig) (now : ℚ) (flag : Bool) (breaker : Breaker)

@[simp] theorem pruneWindow_state : (pruneWindow config now breaker).state =
    breaker.state := rfl

@[simp] theorem pruneWindow_inFlight :
    (pruneWindow config now breaker).half_open_in_flight =
      breaker.half_open_in_flight := rfl

@[simp] theorem recordOutcome_state :
    (recordOutcome config now flag breaker).state = breaker.state := rfl

@[simp] theorem recordOutcome_inFlight :
    (recordOutcome config now flag breaker).half_open_in_flight =
      breaker.half_open_in_flight := rfl

theorem releaseProbe_eq :
    releaseProbe flag breaker =
      { breaker with
        half_open_in_flight := breaker.half_open_in_flight - flag.toNat } := by
  unfold releaseProbe
  split
  · rename_i h
    simp [h.1]
  · rename_i h
    cases flag with
    | false => rfl
    | true =>
        have hzero : breaker.half_open_in_flight = 0 := by
          by_contra hne
          exact h ⟨rfl, Nat.pos_of_ne_zero hne⟩
        cases breaker
        simp_all

@[simp] theorem releaseProbe_state :
    (releaseProbe flag breaker).state = breaker.state := by
  rw [releaseProbe_eq]

@[simp] theorem releaseProbe_inFlight :
    (releaseProbe flag breaker).half_open_in_flight =
      breaker.half_open_in_flight - flag.toNat := by
  rw [releaseProbe_eq]

@[simp] theorem transitionTo_state (new_state : CircuitState) :
    (transitionTo new_state breaker).state = new_state := rfl

end Fields

/-- A success that leaves the breaker half open releases the slot of a probe. -/
theorem handleSuccess_halfOpen
    {config : BreakerConfig} {clock : BreakerClock} {is_probe : Bool} {breaker : Breaker}
    (hstate : (handleSuccess config clock is_probe breaker).state = .halfOpen) :
    breaker.state = .halfOpen ∧
      (breaker.success_count + 1 : ℤ) < config.success_threshold ∧
      (handleSuccess config clock is_probe breaker).half_open_in_flight =
        breaker.half_open_in_flight - is_probe.toNat := by
  cases hbefore : breaker.state with
  | closed => simp [handleSuccess, hbefore] at hstate
  | opened => simp [handleSuccess, hbefore] at hstate
  | halfOpen =>
      simp only [handleSuccess, releaseProbe_eq, recordOutcome, pruneWindow, hbefore]
        at hstate ⊢
      split at hstate
      · simp at hstate
      · rename_i hbelow
        rw [if_neg hbelow]
        exact ⟨trivial, not_le.mp hbelow, rfl⟩

theorem handleFailure_halfOpen
    {config : BreakerConfig} {clock : BreakerClock} {excluded is_probe : Bool}
    {breaker : Breaker}
    (hstate : (handleFailure config clock excluded is_probe breaker).state = .halfOpen) :
    breaker.state = .halfOpen ∧ excluded = true ∧
      (handleFailure config clock excluded is_probe breaker).half_open_in_flight =
        breaker.half_open_in_flight - is_probe.toNat := by
  cases excluded with
  | true =>
      simp only [handleFailure, if_true, releaseProbe_state] at hstate ⊢
      exact ⟨hstate, trivial, by simp⟩
  | false =>
      exfalso
      simp only [handleFailure, Bool.false_eq_true, if_false, releaseProbe_state,
        recordOutcome_state] at hstate
      cases hbefore : breaker.state with
      | halfOpen => simp only [hbefore, transitionTo_state, reduceCtorEq] at hstate
      | opened => simp [hbefore] at hstate
      | closed =>
          simp only [hbefore] at hstate
          split_ifs at hstate
          · simp at hstate
          · split at hstate
            · simp at hstate
            · split_ifs at hstate
              · simp at hstate
              · simp at hstate

end Breaker

end LibrarySystem
