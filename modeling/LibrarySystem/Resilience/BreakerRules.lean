import LibrarySystem.Resilience.CircuitBreaker

/-!
# Trip and recovery rules

The reference automaton keeps no counters: it decides from the history of
recorded outcomes and entered states.  The breaker's counters, deque and
timestamp are related to that history state by state, and each atomic step
keeps the relation.
-/

namespace LibrarySystem

inductive BreakerStep
  | admission (wall : ℚ)
  | success (clock : BreakerClock) (is_probe : Bool)
  | failure (clock : BreakerClock) (is_probe : Bool)
  | excluded (clock : BreakerClock) (is_probe : Bool)
  | reset

/-- One critical section of the breaker. -/
def Breaker.perform (config : BreakerConfig) (breaker : Breaker) : BreakerStep → Breaker
  | .admission wall => (breaker.acquire config wall).1
  | .success clock is_probe => breaker.handleSuccess config clock is_probe
  | .failure clock is_probe => breaker.handleFailure config clock false is_probe
  | .excluded clock is_probe => breaker.handleFailure config clock true is_probe
  | .reset => breaker.reset

/-- The readings of the monotonic clock do not decrease. -/
def Clocked : ℚ → List BreakerStep → Prop
  | _, [] => True
  | now, .success clock _ :: rest => now ≤ clock.recorded ∧ Clocked clock.recorded rest
  | now, .failure clock _ :: rest =>
      now ≤ clock.recorded ∧ clock.recorded ≤ clock.judged ∧ Clocked clock.judged rest
  | now, _ :: rest => Clocked now rest

/-! ## The reference automaton -/

inductive BreakerMark
  | success (time : ℚ)
  | failure (wall time : ℚ)
  | entered (state : CircuitState)

/-- The history has the latest mark first. -/
structure ReferenceBreaker where
  state : CircuitState
  history : List BreakerMark

/-- The run of failures since the last success or since the state was entered. -/
def failuresSinceSuccess : List BreakerMark → ℕ
  | .failure _ _ :: earlier => failuresSinceSuccess earlier + 1
  | _ => 0

def successesSinceEntered : List BreakerMark → ℕ
  | .success _ :: earlier => successesSinceEntered earlier + 1
  | .failure _ _ :: earlier => successesSinceEntered earlier
  | _ => 0

/-- The outcomes recorded since the state was entered, latest first. -/
def outcomesSinceEntered : List BreakerMark → List BreakerOutcome
  | .success time :: earlier => ⟨time, false⟩ :: outcomesSinceEntered earlier
  | .failure _ time :: earlier => ⟨time, true⟩ :: outcomesSinceEntered earlier
  | _ => []

def lastRecordedFailure : List BreakerMark → Option ℚ
  | .failure wall _ :: _ => some wall
  | _ :: earlier => lastRecordedFailure earlier
  | [] => none

/-- At least `minimum_calls` outcomes not older than `window_seconds`, and the
percentage of failures among them at or over the threshold. -/
def RateReached (config : BreakerConfig) (now : ℚ) (history : List BreakerMark) : Prop :=
  let recent := (outcomesSinceEntered history).filter fun outcome =>
    now - config.window_seconds ≤ outcome.time
  config.minimum_calls ≤ recent.length ∧
    config.failure_rate_threshold ≤
      (recent.filter BreakerOutcome.is_failure).length / recent.length * 100

namespace ReferenceBreaker

def new : ReferenceBreaker := ⟨.closed, [.entered .closed]⟩

def enter (state : CircuitState) (reference : ReferenceBreaker) : ReferenceBreaker :=
  ⟨state, .entered state :: reference.history⟩

def mark (mark : BreakerMark) (reference : ReferenceBreaker) : ReferenceBreaker :=
  { reference with history := mark :: reference.history }

open Classical in
noncomputable def perform (config : BreakerConfig) (reference : ReferenceBreaker) :
    BreakerStep → ReferenceBreaker
  | .admission wall =>
      if reference.state = .opened ∧
          ∃ failed, lastRecordedFailure reference.history = some failed ∧
            config.timeout ≤ wall - failed then
        reference.enter .halfOpen
      else reference
  | .success clock _ =>
      let marked := reference.mark (.success clock.recorded)
      if reference.state = .halfOpen ∧
          (successesSinceEntered marked.history : ℤ) = config.success_threshold then
        marked.enter .closed
      else marked
  | .failure clock _ =>
      let marked := reference.mark (.failure clock.wall clock.recorded)
      if reference.state = .halfOpen ∨ reference.state = .closed ∧
          ((failuresSinceSuccess marked.history : ℤ) = config.failure_threshold ∨
            RateReached config clock.judged marked.history) then
        marked.enter .opened
      else marked
  | .excluded _ _ => reference
  | .reset => reference.enter .closed

end ReferenceBreaker

/-! ## The window -/

theorem dropWhile_eq_filter
    {window : List BreakerOutcome}
    (hsorted : window.Pairwise fun older newer => older.time ≤ newer.time) (cutoff : ℚ) :
    window.dropWhile (fun outcome => outcome.time < cutoff) =
      window.filter fun outcome => cutoff ≤ outcome.time := by
  induction window with
  | nil => rfl
  | cons outcome window ih =>
      obtain ⟨hhead, htail⟩ := List.pairwise_cons.mp hsorted
      by_cases hold : outcome.time < cutoff
      · have hdrop : ¬ cutoff ≤ outcome.time := not_le.mpr hold
        simp only [List.dropWhile_cons, List.filter_cons, hold, hdrop, decide_true,
          decide_false, if_true, Bool.false_eq_true, if_false]
        exact ih htail
      · have hkeep : cutoff ≤ outcome.time := not_lt.mp hold
        have hall : window.filter (fun other => decide (cutoff ≤ other.time)) = window := by
          rw [List.filter_eq_self]
          intro other hother
          simpa using hkeep.trans (hhead other hother)
        simp only [List.dropWhile_cons, List.filter_cons, hold, hkeep, decide_true,
          decide_false, if_true, Bool.false_eq_true, if_false, hall]

/-- The deque holds the recent part of the outcomes since `CLOSED` was
entered. -/
structure WindowOf (config : BreakerConfig) (now : ℚ) (outcomes : List BreakerOutcome)
    (window : List BreakerOutcome) : Prop where
  sorted : outcomes.Pairwise fun older newer => older.time ≤ newer.time
  past : ∀ outcome ∈ outcomes, outcome.time ≤ now
  recent : ∃ cutoff, cutoff ≤ now - config.window_seconds ∧
    window = outcomes.filter fun outcome => cutoff ≤ outcome.time

theorem WindowOf.nil (config : BreakerConfig) (now : ℚ) : WindowOf config now [] [] :=
  ⟨.nil, by simp, now - config.window_seconds, le_rfl, rfl⟩

section Window

variable {config : BreakerConfig} {now later : ℚ} {outcomes window : List BreakerOutcome}

theorem WindowOf.prune
    (hwindow : WindowOf config now outcomes window) (hlater : now ≤ later) :
    WindowOf config later outcomes (window.dropWhile
        fun outcome => outcome.time < later - config.window_seconds) ∧
      window.dropWhile (fun outcome => outcome.time < later - config.window_seconds) =
        outcomes.filter fun outcome => later - config.window_seconds ≤ outcome.time := by
  obtain ⟨cutoff, hcutoff, rfl⟩ := hwindow.recent
  have hpruned : (outcomes.filter fun outcome => cutoff ≤ outcome.time).dropWhile
      (fun outcome => outcome.time < later - config.window_seconds) =
        outcomes.filter fun outcome => later - config.window_seconds ≤ outcome.time := by
    rw [dropWhile_eq_filter (hwindow.sorted.filter _), List.filter_filter]
    refine List.filter_congr fun outcome _ => ?_
    by_cases hrecent : later - config.window_seconds ≤ outcome.time
    · have hkept : cutoff ≤ outcome.time := by linarith
      simp [hrecent, hkept]
    · simp [hrecent]
  exact ⟨⟨hwindow.sorted, fun outcome houtcome => (hwindow.past outcome houtcome).trans
    hlater, _, le_rfl, hpruned⟩, hpruned⟩

/-- Appending the latest outcome, before the deque is pruned. -/
theorem WindowOf.record
    (hwindow : WindowOf config now outcomes window) (hlater : now ≤ later)
    (is_failure : Bool) :
    WindowOf config later (outcomes ++ [(⟨later, is_failure⟩ : BreakerOutcome)])
      ((window ++ [(⟨later, is_failure⟩ : BreakerOutcome)]).dropWhile
        fun outcome => outcome.time < later - config.window_seconds) := by
  have hsorted : (outcomes ++ [(⟨later, is_failure⟩ : BreakerOutcome)]).Pairwise
      fun older newer => older.time ≤ newer.time := by
    refine List.pairwise_append.mpr ⟨hwindow.sorted, by simp, ?_⟩
    intro older holder newer hnewer
    rw [List.mem_singleton.mp hnewer]
    exact (hwindow.past older holder).trans hlater
  have hpast : ∀ outcome ∈ outcomes ++ [(⟨later, is_failure⟩ : BreakerOutcome)],
      outcome.time ≤ later := by
    intro outcome houtcome
    rcases List.mem_append.mp houtcome with hold | hnew
    · exact (hwindow.past outcome hold).trans hlater
    · rw [List.mem_singleton.mp hnew]
  obtain ⟨cutoff, hcutoff, rfl⟩ := hwindow.recent
  refine ⟨hsorted, hpast, later - config.window_seconds, le_rfl, ?_⟩
  have hkept : (outcomes.filter (fun outcome => decide (cutoff ≤ outcome.time)) ++
      [(⟨later, is_failure⟩ : BreakerOutcome)]).Pairwise
        fun older newer => older.time ≤ newer.time :=
    hsorted.sublist (List.filter_sublist.append (List.Sublist.refl _))
  rw [dropWhile_eq_filter hkept, List.filter_append, List.filter_append,
    List.filter_filter]
  congr 1
  refine List.filter_congr fun outcome _ => ?_
  by_cases hrecent : later - config.window_seconds ≤ outcome.time
  · have hold : cutoff ≤ outcome.time := by linarith
    simp [hrecent, hold]
  · simp [hrecent]

/-- The rate test on the pruned deque is the rate test on the history. -/
theorem failureRate_iff
    {history : List BreakerMark}
    (hwindow : window = (outcomesSinceEntered history).reverse.filter
      fun outcome => now - config.window_seconds ≤ outcome.time) :
    (∃ rate, Breaker.failureRate config window = some rate ∧
        config.failure_rate_threshold ≤ rate) ↔
      RateReached config now history := by
  have hreverse : window = ((outcomesSinceEntered history).filter
      fun outcome => now - config.window_seconds ≤ outcome.time).reverse := by
    rw [hwindow, List.filter_reverse]
  unfold Breaker.failureRate RateReached
  rw [hreverse]
  simp only [List.length_reverse, List.filter_reverse]
  split
  · rename_i hfew
    simp only [reduceCtorEq, false_and, exists_false, false_iff, not_and]
    intro hmany
    omega
  · rename_i hmany
    simp only [Option.some.injEq, exists_eq_left', iff_and_self]
    intro _
    omega

end Window

/-! ## The relation -/

/-- What the breaker's fields say about the history, in each state. -/
structure BreakerRelation (config : BreakerConfig) (now : ℚ) (breaker : Breaker)
    (reference : ReferenceBreaker) : Prop where
  state : breaker.state = reference.state
  count : breaker.state = .closed →
    breaker.failure_count = failuresSinceSuccess reference.history ∧
      (breaker.failure_count : ℤ) < config.failure_threshold
  window : breaker.state = .closed →
    WindowOf config now (outcomesSinceEntered reference.history).reverse breaker.window
  successes : breaker.state = .halfOpen →
    breaker.success_count = successesSinceEntered reference.history ∧
      (breaker.success_count : ℤ) < config.success_threshold
  failed : breaker.state = .opened →
    ∃ wall, breaker.last_failure_time = some wall ∧
      lastRecordedFailure reference.history = some wall

/-- The monotonic time after a step. -/
def BreakerStep.timeAfter (now : ℚ) : BreakerStep → ℚ
  | .success clock _ => clock.recorded
  | .failure clock _ => clock.judged
  | _ => now

section Steps

variable {config : BreakerConfig} {now : ℚ} {breaker : Breaker}
  {reference : ReferenceBreaker}

theorem BreakerRelation.of_closed
    (hstate : breaker.state = .closed) (hreference : reference.state = .closed)
    (hcount : breaker.failure_count = failuresSinceSuccess reference.history)
    (hbelow : (breaker.failure_count : ℤ) < config.failure_threshold)
    (hwindow : WindowOf config now (outcomesSinceEntered reference.history).reverse
      breaker.window) :
    BreakerRelation config now breaker reference :=
  { state := hstate.trans hreference.symm
    count := fun _ => ⟨hcount, hbelow⟩
    window := fun _ => hwindow
    successes := fun h => by simp [hstate] at h
    failed := fun h => by simp [hstate] at h }

theorem BreakerRelation.of_halfOpen
    (hstate : breaker.state = .halfOpen) (hreference : reference.state = .halfOpen)
    (hcount : breaker.success_count = successesSinceEntered reference.history)
    (hbelow : (breaker.success_count : ℤ) < config.success_threshold) :
    BreakerRelation config now breaker reference :=
  { state := hstate.trans hreference.symm
    count := fun h => by simp [hstate] at h
    window := fun h => by simp [hstate] at h
    successes := fun _ => ⟨hcount, hbelow⟩
    failed := fun h => by simp [hstate] at h }

theorem BreakerRelation.of_opened
    {wall : ℚ}
    (hstate : breaker.state = .opened) (hreference : reference.state = .opened)
    (hfailed : breaker.last_failure_time = some wall)
    (hlast : lastRecordedFailure reference.history = some wall) :
    BreakerRelation config now breaker reference :=
  { state := hstate.trans hreference.symm
    count := fun h => by simp [hstate] at h
    window := fun h => by simp [hstate] at h
    successes := fun h => by simp [hstate] at h
    failed := fun _ => ⟨wall, hfailed, hlast⟩ }

theorem relation_reset
    (hpositive : 0 < config.failure_threshold) :
    BreakerRelation config now (breaker.perform config .reset)
      (reference.perform config .reset) := by
  apply BreakerRelation.of_closed rfl rfl
  · rfl
  · simpa [Breaker.perform, Breaker.reset] using hpositive
  · exact WindowOf.nil config now

theorem relation_excluded
    (hrelation : BreakerRelation config now breaker reference) (clock : BreakerClock)
    (is_probe : Bool) :
    BreakerRelation config now (breaker.perform config (.excluded clock is_probe))
      (reference.perform config (.excluded clock is_probe)) := by
  simp only [Breaker.perform, Breaker.handleFailure, if_true, Breaker.releaseProbe_eq,
    ReferenceBreaker.perform]
  exact
    { state := hrelation.state
      count := hrelation.count
      window := hrelation.window
      successes := hrelation.successes
      failed := hrelation.failed }

theorem relation_admission
    (hrelation : BreakerRelation config now breaker reference)
    (hthreshold : 0 < config.success_threshold) (wall : ℚ) :
    BreakerRelation config now (breaker.perform config (.admission wall))
      (reference.perform config (.admission wall)) := by
  have hstate := hrelation.state
  cases hbefore : breaker.state with
  | closed =>
      rw [hbefore] at hstate
      simpa [Breaker.perform, Breaker.acquire, hbefore, ReferenceBreaker.perform,
        ← hstate] using hrelation
  | halfOpen =>
      rw [hbefore] at hstate
      obtain ⟨hcount, hbelow⟩ := hrelation.successes hbefore
      have hsame : reference.perform config (.admission wall) = reference := by
        simp [ReferenceBreaker.perform, ← hstate]
      rw [hsame]
      simp only [Breaker.perform, Breaker.acquire, hbefore]
      by_cases hroom : (breaker.half_open_in_flight : ℤ) < config.half_open_max_calls
      · rw [if_pos hroom]
        exact .of_halfOpen rfl hstate.symm hcount hbelow
      · rw [if_neg hroom]
        exact hrelation
  | opened =>
      rw [hbefore] at hstate
      obtain ⟨failed, hfailed, hlast⟩ := hrelation.failed hbefore
      by_cases hwait : config.timeout ≤ wall - failed
      · have henter : reference.perform config (.admission wall) =
            reference.enter .halfOpen := by
          simp [ReferenceBreaker.perform, ← hstate, hlast, hwait]
        rw [henter]
        simp only [Breaker.perform, Breaker.acquire, hbefore, Breaker.shouldAttemptReset,
          hfailed, hwait, decide_true, if_true]
        apply BreakerRelation.of_halfOpen rfl rfl
        · rfl
        · simpa using hthreshold
      · have hstay : reference.perform config (.admission wall) = reference := by
          simp [ReferenceBreaker.perform, ← hstate, hlast, hwait]
        rw [hstay]
        simpa [Breaker.perform, Breaker.acquire, hbefore, Breaker.shouldAttemptReset,
          hfailed, hwait] using hrelation

theorem relation_success
    (hrelation : BreakerRelation config now breaker reference)
    (hpositive : 0 < config.failure_threshold) {clock : BreakerClock}
    (hclock : now ≤ clock.recorded) (is_probe : Bool) :
    BreakerRelation config clock.recorded
      (breaker.perform config (.success clock is_probe))
      (reference.perform config (.success clock is_probe)) := by
  have hstate := hrelation.state
  cases hbefore : breaker.state with
  | closed =>
      rw [hbefore] at hstate
      have hmark : reference.perform config (.success clock is_probe) =
          reference.mark (.success clock.recorded) := by
        simp [ReferenceBreaker.perform, ← hstate]
      rw [hmark]
      simp only [Breaker.perform, Breaker.handleSuccess, Breaker.releaseProbe_eq,
        Breaker.recordOutcome_state, hbefore]
      refine .of_closed rfl hstate.symm rfl ?_ ?_
      · simpa using hpositive
      · have hrecord := (hrelation.window hbefore).record hclock false
        simpa [ReferenceBreaker.mark, outcomesSinceEntered, Breaker.recordOutcome,
          Breaker.pruneWindow] using hrecord
  | opened =>
      rw [hbefore] at hstate
      obtain ⟨failed, hfailed, hlast⟩ := hrelation.failed hbefore
      have hmark : reference.perform config (.success clock is_probe) =
          reference.mark (.success clock.recorded) := by
        simp [ReferenceBreaker.perform, ← hstate]
      rw [hmark]
      simp only [Breaker.perform, Breaker.handleSuccess, Breaker.releaseProbe_eq,
        Breaker.recordOutcome_state, hbefore]
      exact .of_opened rfl hstate.symm hfailed hlast
  | halfOpen =>
      rw [hbefore] at hstate
      obtain ⟨hcount, hbelow⟩ := hrelation.successes hbefore
      simp only [Breaker.perform, Breaker.handleSuccess, Breaker.releaseProbe_eq,
        Breaker.recordOutcome_state, hbefore]
      by_cases hreached : (successesSinceEntered reference.history + 1 : ℤ) =
          config.success_threshold
      · have henter : reference.perform config (.success clock is_probe) =
            (reference.mark (.success clock.recorded)).enter .closed := by
          simp [ReferenceBreaker.perform, ← hstate, ReferenceBreaker.mark,
            successesSinceEntered, hreached]
        have hle : config.success_threshold ≤ ((breaker.success_count + 1 : ℕ) : ℤ) := by
          rw [hcount]
          push_cast
          omega
        rw [henter]
        simp only [Breaker.recordOutcome, Breaker.pruneWindow, hle, if_true]
        apply BreakerRelation.of_closed rfl rfl
        · rfl
        · simpa using hpositive
        · exact WindowOf.nil config clock.recorded
      · have hmark : reference.perform config (.success clock is_probe) =
            reference.mark (.success clock.recorded) := by
          simp [ReferenceBreaker.perform, ReferenceBreaker.mark, successesSinceEntered,
            hreached]
        have hlt : ¬ config.success_threshold ≤ ((breaker.success_count + 1 : ℕ) : ℤ) := by
          rw [hcount] at hbelow ⊢
          push_cast
          omega
        rw [hmark]
        simp only [Breaker.recordOutcome, Breaker.pruneWindow, hlt, if_false]
        refine .of_halfOpen rfl hstate.symm ?_ ?_
        · simp [hcount, ReferenceBreaker.mark, successesSinceEntered]
        · exact not_le.mp hlt

/-- A failure in `CLOSED` opens the breaker when the count reaches the threshold
or the rate test passes, and otherwise only records it. -/
theorem handleFailure_closed
    (config : BreakerConfig) (clock : BreakerClock) (is_probe : Bool)
    (hbefore : breaker.state = .closed) :
    let recorded := breaker.recordOutcome config clock.recorded true
    let window := (recorded.pruneWindow config clock.judged).window
    let opens := config.failure_threshold ≤ ((breaker.failure_count + 1 : ℕ) : ℤ) ∨
      ∃ rate, Breaker.failureRate config window = some rate ∧
        config.failure_rate_threshold ≤ rate
    let after := breaker.perform config (.failure clock is_probe)
    after.last_failure_time = some clock.wall ∧
      (opens → after.state = .opened) ∧
      (¬ opens → after.state = .closed ∧ after.window = window ∧
        after.failure_count = breaker.failure_count + 1) := by
  intro recorded window opens after
  by_cases hcount : config.failure_threshold ≤ ((breaker.failure_count + 1 : ℕ) : ℤ)
  · have hafter : after.state = .opened ∧ after.last_failure_time = some clock.wall := by
      simp only [after, Breaker.perform, Breaker.handleFailure, Bool.false_eq_true,
        if_false, Breaker.releaseProbe_eq, Breaker.recordOutcome, Breaker.pruneWindow,
        hbefore, hcount, if_true]
      exact ⟨rfl, rfl⟩
    exact ⟨hafter.2, fun _ => hafter.1, fun hstays => (hstays (Or.inl hcount)).elim⟩
  · let judged : Breaker :=
      { breaker with
        state := .closed
        failure_count := breaker.failure_count + 1
        last_failure_time := some clock.wall
        window := window
        half_open_in_flight := breaker.half_open_in_flight - is_probe.toNat }
    have hafter : after = (Breaker.failureRate config window).elim judged fun rate =>
        if config.failure_rate_threshold ≤ rate then judged.transitionTo .opened
        else judged := by
      simp only [after, Breaker.perform, Breaker.handleFailure, Bool.false_eq_true,
        if_false, Breaker.releaseProbe_eq, Breaker.recordOutcome, Breaker.pruneWindow,
        hbefore, hcount]
      split <;> rename_i hrate
      · rw [show Breaker.failureRate config window = none from hrate]
        rfl
      · rw [show Breaker.failureRate config window = some _ from hrate]
        rfl
    cases hrate : Breaker.failureRate config window with
    | none =>
        have hstays : ¬ opens := by
          rintro (hreached | ⟨rate, hsome, _⟩)
          · exact hcount hreached
          · simp [hrate] at hsome
        rw [hafter, hrate]
        exact ⟨rfl, fun hopens => (hstays hopens).elim, fun _ => ⟨rfl, rfl, rfl⟩⟩
    | some rate =>
        by_cases hover : config.failure_rate_threshold ≤ rate
        · have hopens : opens := Or.inr ⟨rate, hrate, hover⟩
          rw [hafter, hrate, Option.elim_some, if_pos hover]
          exact ⟨rfl, fun _ => rfl, fun hstays => (hstays hopens).elim⟩
        · have hstays : ¬ opens := by
            rintro (hreached | ⟨other, hsome, hother⟩)
            · exact hcount hreached
            · rw [hrate, Option.some.injEq] at hsome
              exact hover (hsome ▸ hother)
          rw [hafter, hrate, Option.elim_some, if_neg hover]
          exact ⟨rfl, fun hopens => (hstays hopens).elim, fun _ => ⟨rfl, rfl, rfl⟩⟩

theorem relation_failure_closed
    (hrelation : BreakerRelation config now breaker reference)
    (hbefore : breaker.state = .closed) {clock : BreakerClock}
    (hclock : now ≤ clock.recorded) (hjudged : clock.recorded ≤ clock.judged)
    (is_probe : Bool) :
    BreakerRelation config clock.judged
      (breaker.perform config (.failure clock is_probe))
      (reference.perform config (.failure clock is_probe)) := by
  have hstate := hrelation.state
  rw [hbefore] at hstate
  obtain ⟨hcount, hbelow⟩ := hrelation.count hbefore
  have hrecord := (hrelation.window hbefore).record hclock true
  have hhistory : (outcomesSinceEntered reference.history).reverse ++
      [(⟨clock.recorded, true⟩ : BreakerOutcome)] =
        (outcomesSinceEntered
          (.failure clock.wall clock.recorded :: reference.history)).reverse := by
    simp [outcomesSinceEntered]
  rw [hhistory] at hrecord
  obtain ⟨hjudgedWindow, hpruned⟩ := hrecord.prune hjudged
  have hrate := failureRate_iff hpruned
  have hmarked : ((breaker.failure_count + 1 : ℕ) : ℤ) = failuresSinceSuccess
      (.failure clock.wall clock.recorded :: reference.history) := by
    rw [hcount]
    rfl
  have hreached : config.failure_threshold ≤ ((breaker.failure_count + 1 : ℕ) : ℤ) ↔
      (failuresSinceSuccess
        (.failure clock.wall clock.recorded :: reference.history) : ℤ) =
          config.failure_threshold := by
    rw [← hmarked]
    push_cast
    omega
  have hafter := handleFailure_closed config clock is_probe hbefore
  by_cases htrips : (failuresSinceSuccess
      (.failure clock.wall clock.recorded :: reference.history) : ℤ) =
        config.failure_threshold ∨
      RateReached config clock.judged
        (.failure clock.wall clock.recorded :: reference.history)
  · have henter : reference.perform config (.failure clock is_probe) =
        (reference.mark (.failure clock.wall clock.recorded)).enter .opened := by
      exact if_pos (Or.inr ⟨hstate.symm, htrips⟩)
    rw [henter]
    have hopens := hafter.2.1 (htrips.imp hreached.mpr hrate.mpr)
    exact .of_opened hopens rfl hafter.1 rfl
  · have hstay : reference.perform config (.failure clock is_probe) =
        reference.mark (.failure clock.wall clock.recorded) := by
      have hclosed : ¬ (reference.state = .halfOpen ∨ reference.state = .closed ∧
          ((failuresSinceSuccess
            (.failure clock.wall clock.recorded :: reference.history) : ℤ) =
              config.failure_threshold ∨
            RateReached config clock.judged
              (.failure clock.wall clock.recorded :: reference.history))) := by
        rw [← hstate]
        simpa using htrips
      exact if_neg hclosed
    have hstays : ¬ (config.failure_threshold ≤ ((breaker.failure_count + 1 : ℕ) : ℤ) ∨
        ∃ rate, Breaker.failureRate config _ = some rate ∧
          config.failure_rate_threshold ≤ rate) :=
      fun hopens => htrips (hopens.imp hreached.mp hrate.mp)
    obtain ⟨hclosed, hwindow, hcounted⟩ := hafter.2.2 hstays
    rw [hstay]
    refine .of_closed hclosed hstate.symm ?_ ?_ ?_
    · simpa [ReferenceBreaker.mark, failuresSinceSuccess, hcount] using hcounted
    · rw [hcounted]
      exact not_le.mp fun hreached => hstays (Or.inl hreached)
    · rw [hwindow]
      exact hjudgedWindow

theorem relation_failure
    (hrelation : BreakerRelation config now breaker reference) {clock : BreakerClock}
    (hclock : now ≤ clock.recorded) (hjudged : clock.recorded ≤ clock.judged)
    (is_probe : Bool) :
    BreakerRelation config clock.judged
      (breaker.perform config (.failure clock is_probe))
      (reference.perform config (.failure clock is_probe)) := by
  have hstate := hrelation.state
  cases hbefore : breaker.state with
  | opened =>
      rw [hbefore] at hstate
      have hmark : reference.perform config (.failure clock is_probe) =
          reference.mark (.failure clock.wall clock.recorded) := by
        simp [ReferenceBreaker.perform, ← hstate]
      rw [hmark]
      simp only [Breaker.perform, Breaker.handleFailure, Bool.false_eq_true, if_false,
        Breaker.releaseProbe_eq, Breaker.recordOutcome_state, hbefore]
      exact .of_opened rfl hstate.symm rfl rfl
  | halfOpen =>
      rw [hbefore] at hstate
      have henter : reference.perform config (.failure clock is_probe) =
          (reference.mark (.failure clock.wall clock.recorded)).enter .opened := by
        simp [ReferenceBreaker.perform, ← hstate]
      rw [henter]
      simp only [Breaker.perform, Breaker.handleFailure, Bool.false_eq_true, if_false,
        Breaker.releaseProbe_eq, Breaker.recordOutcome_state, hbefore]
      exact .of_opened rfl rfl rfl rfl
  | closed => exact relation_failure_closed hrelation hbefore hclock hjudged is_probe

/-- Every atomic step keeps the relation. -/
theorem relation_perform
    (hrelation : BreakerRelation config now breaker reference)
    (hfailures : 0 < config.failure_threshold) (hsuccesses : 0 < config.success_threshold)
    {step : BreakerStep} (hclocked : Clocked now [step]) :
    BreakerRelation config (step.timeAfter now) (breaker.perform config step)
      (reference.perform config step) := by
  cases step with
  | admission wall => exact relation_admission hrelation hsuccesses wall
  | success clock is_probe =>
      exact relation_success hrelation hfailures hclocked.1 is_probe
  | failure clock is_probe =>
      exact relation_failure hrelation hclocked.1 hclocked.2.1 is_probe
  | excluded clock is_probe => exact relation_excluded hrelation clock is_probe
  | reset => exact relation_reset hfailures

theorem relation_run
    (hfailures : 0 < config.failure_threshold) (hsuccesses : 0 < config.success_threshold)
    (steps : List BreakerStep) (hclocked : Clocked now steps)
    (hrelation : BreakerRelation config now breaker reference) :
    ∃ later, BreakerRelation config later (steps.foldl (Breaker.perform config) breaker)
      (steps.foldl (ReferenceBreaker.perform config) reference) := by
  induction steps generalizing now breaker reference with
  | nil => exact ⟨now, hrelation⟩
  | cons step steps ih =>
      obtain ⟨hfirst, hrest⟩ : Clocked now [step] ∧ Clocked (step.timeAfter now) steps := by
        cases step with
        | admission wall => exact ⟨trivial, hclocked⟩
        | success clock is_probe => exact ⟨⟨hclocked.1, trivial⟩, hclocked.2⟩
        | failure clock is_probe =>
            exact ⟨⟨hclocked.1, hclocked.2.1, trivial⟩, hclocked.2.2⟩
        | excluded clock is_probe => exact ⟨trivial, hclocked⟩
        | reset => exact ⟨trivial, hclocked⟩
      exact ih hrest (relation_perform hrelation hfailures hsuccesses hfirst)

end Steps

theorem relation_new
    {config : BreakerConfig} (hfailures : 0 < config.failure_threshold) (start : ℚ) :
    BreakerRelation config start .new .new := by
  refine .of_closed rfl rfl rfl ?_ ?_
  · simpa [Breaker.new] using hfailures
  · exact WindowOf.nil config start

/-- After any sequence of atomic steps the breaker is in the state of the
reference automaton. -/
theorem breaker_state_eq_reference
    (config : BreakerConfig)
    (hfailures : 0 < config.failure_threshold) (hsuccesses : 0 < config.success_threshold)
    (start : ℚ) (steps : List BreakerStep) (hclocked : Clocked start steps) :
    (steps.foldl (Breaker.perform config) .new).state =
      (steps.foldl (ReferenceBreaker.perform config) .new).state := by
  obtain ⟨later, hrelation⟩ :=
    relation_run hfailures hsuccesses steps hclocked (relation_new hfailures start)
  exact hrelation.state

theorem breaker_state_eq_reference_sample :
    let config : BreakerConfig := ⟨2, 1, 30, 50, 60, 10, 1⟩
    let steps : List BreakerStep :=
      [.failure ⟨100, 1, 1⟩ false, .failure ⟨101, 2, 2⟩ false, .admission 131,
        .success ⟨132, 3, 3⟩ true]
    (steps.foldl (Breaker.perform config) .new).state =
      (steps.foldl (ReferenceBreaker.perform config) .new).state :=
  breaker_state_eq_reference _ (by decide) (by decide) 0 _
    (by norm_num [Clocked])

end LibrarySystem
