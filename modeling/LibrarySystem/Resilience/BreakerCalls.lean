import LibrarySystem.Foundation.Machine
import LibrarySystem.Resilience.CircuitBreaker

/-!
# Concurrent calls through one breaker

Any number of calls run at once through `execute` and through the context
manager.  The lock is never waited for, since no critical section suspends, so
a call consists of its admission and its end.  Every call carries the number of
half-open periods that had begun when it was admitted.
-/

namespace LibrarySystem

inductive CallEntry
  | execute
  | block
deriving DecidableEq

/-- How a protected call ends; `interrupted` is a `BaseException` that is no
`Exception`, such as a cancellation. -/
inductive CallOutcome
  | success
  | raised (excluded : Bool)
  | interrupted (excluded : Bool)

structure RunningCall (Task : Type) where
  task : Task
  entry : CallEntry
  is_probe : Bool
  period : ℕ
deriving DecidableEq

/-- A call that ends, with the probe flag that its end reads. -/
structure EndedCall (Task : Type) where
  position : ℕ
  call : RunningCall Task
  is_probe : Bool
  clock : BreakerClock
  outcome : CallOutcome

/-- A breaker with its running calls, latest first; `ctx_is_probe` is the context
variable as each task sees it. -/
structure BreakerHost (Task : Type) where
  breaker : Breaker
  ctx_is_probe : Task → Bool
  running : List (RunningCall Task)
  periods : ℕ

inductive CallAction (Task : Type)
  | execute (task : Task) (wall : ℚ)
  | finish (position : ℕ) (clock : BreakerClock) (outcome : CallOutcome)
  | aenter (task : Task) (wall : ℚ)
  | aexit (task : Task) (clock : BreakerClock) (outcome : CallOutcome)
  | reset

/-- The handlers of `execute` and of `__aexit__`; the former catches `Exception`
only. -/
def Breaker.afterCall (config : BreakerConfig) (clock : BreakerClock) (is_probe : Bool)
    (breaker : Breaker) : CallEntry → CallOutcome → Breaker
  | _, .success => breaker.handleSuccess config clock is_probe
  | _, .raised excluded => breaker.handleFailure config clock excluded is_probe
  | .execute, .interrupted _ => breaker
  | .block, .interrupted excluded => breaker.handleFailure config clock excluded is_probe

namespace BreakerHost

variable {Task : Type}

/-- The half-open periods begun once `after` replaces the breaker. -/
def periodsAfter (host : BreakerHost Task) (after : Breaker) : ℕ :=
  if host.breaker.state ≠ .halfOpen ∧ after.state = .halfOpen then host.periods + 1
  else host.periods

/-- `__aenter__` sets the context variable, `execute` keeps the flag itself. -/
def contextAfter [DecidableEq Task] (host : BreakerHost Task) (task : Task)
    (is_probe : Bool) : CallEntry → Task → Bool
  | .execute => host.ctx_is_probe
  | .block => Function.update host.ctx_is_probe task is_probe

def enterCall [DecidableEq Task] (config : BreakerConfig) (host : BreakerHost Task)
    (task : Task) (entry : CallEntry) (wall : ℚ) : BreakerHost Task :=
  match host.breaker.acquire config wall with
  | (after, .rejected) => { host with breaker := after }
  | (after, .admitted is_probe) =>
      { breaker := after
        ctx_is_probe := host.contextAfter task is_probe entry
        running := ⟨task, entry, is_probe, host.periodsAfter after⟩ :: host.running
        periods := host.periodsAfter after }

def leave (config : BreakerConfig) (host : BreakerHost Task) (ended : EndedCall Task) :
    BreakerHost Task :=
  { host with
    breaker := host.breaker.afterCall config ended.clock ended.is_probe ended.call.entry
      ended.outcome
    running := host.running.eraseIdx ended.position }

variable [DecidableEq Task]

/-- The block that a task leaves is the one it entered last. -/
def innermost (host : BreakerHost Task) (task : Task) : Option ℕ :=
  host.running.findIdx? fun call => call.task = task ∧ call.entry = .block

def endedCall (host : BreakerHost Task) : CallAction Task → Option (EndedCall Task)
  | .finish position clock outcome => do
      let call ← host.running[position]?
      if call.entry = .execute then some ⟨position, call, call.is_probe, clock, outcome⟩
      else none
  | .aexit task clock outcome => do
      let position ← host.innermost task
      let call ← host.running[position]?
      some ⟨position, call, host.ctx_is_probe task, clock, outcome⟩
  | _ => none

def step (config : BreakerConfig) (host : BreakerHost Task) :
    CallAction Task → Option (BreakerHost Task)
  | .execute task wall => some (host.enterCall config task .execute wall)
  | .aenter task wall => some (host.enterCall config task .block wall)
  | .reset => some { host with breaker := host.breaker.reset }
  | action => (host.endedCall action).map (host.leave config)

/-- The calls admitted since the breaker last became `HALF_OPEN` that are still
running. -/
def probes (host : BreakerHost Task) : List (RunningCall Task) :=
  host.running.filter fun call => call.period = host.periods

end BreakerHost

/-- The context variable of a task starts with whatever its context held. -/
def breakerCalls (Task : Type) [DecidableEq Task] (config : BreakerConfig) :
    Machine (BreakerHost Task) (CallAction Task) where
  initial host := host.breaker = .new ∧ host.running = [] ∧ host.periods = 0
  step := BreakerHost.step config

/-! ## What one step does -/

/-- An admission that leaves the breaker half open. -/
theorem Breaker.acquire_halfOpen
    {config : BreakerConfig} {wall : ℚ} {breaker after : Breaker} {admission : Admission}
    (hacquire : breaker.acquire config wall = (after, admission))
    (hstate : after.state = .halfOpen) :
    (breaker.state = .opened ∧ admission = .admitted true ∧
        after.half_open_in_flight = 1) ∨
      (breaker.state = .halfOpen ∧ admission = .admitted true ∧
        (breaker.half_open_in_flight : ℤ) < config.half_open_max_calls ∧
        after.half_open_in_flight = breaker.half_open_in_flight + 1) ∨
      (breaker.state = .halfOpen ∧ admission = .rejected ∧ after = breaker) := by
  unfold Breaker.acquire at hacquire
  cases hbefore : breaker.state with
  | closed =>
      simp only [hbefore, Prod.mk.injEq] at hacquire
      obtain ⟨rfl, -⟩ := hacquire
      simp [hbefore] at hstate
  | opened =>
      simp only [hbefore] at hacquire
      split at hacquire
      · obtain ⟨rfl, rfl⟩ := Prod.mk.inj hacquire
        exact Or.inl ⟨rfl, rfl, rfl⟩
      · obtain ⟨rfl, rfl⟩ := Prod.mk.inj hacquire
        simp [hbefore] at hstate
  | halfOpen =>
      simp only [hbefore] at hacquire
      split at hacquire
      · rename_i hroom
        obtain ⟨rfl, rfl⟩ := Prod.mk.inj hacquire
        exact Or.inr (Or.inl ⟨rfl, rfl, hroom, rfl⟩)
      · obtain ⟨rfl, rfl⟩ := Prod.mk.inj hacquire
        exact Or.inr (Or.inr ⟨rfl, rfl, rfl⟩)

/-- The outcome reaches a handler that does not leave `HALF_OPEN`. -/
def CallOutcome.KeepsHalfOpen (config : BreakerConfig) (breaker : Breaker)
    (entry : CallEntry) : CallOutcome → Prop
  | .success => (breaker.success_count + 1 : ℤ) < config.success_threshold
  | .raised excluded => excluded = true
  | .interrupted excluded => entry = .block ∧ excluded = true

/-- A call of `execute` that ends without reaching a handler. -/
def CallOutcome.Unhandled (entry : CallEntry) : CallOutcome → Prop
  | .interrupted _ => entry = .execute
  | _ => False

theorem Breaker.afterCall_halfOpen
    {config : BreakerConfig} {clock : BreakerClock} {is_probe : Bool} {breaker : Breaker}
    {entry : CallEntry} {outcome : CallOutcome}
    (hstate : (breaker.afterCall config clock is_probe entry outcome).state = .halfOpen) :
    breaker.state = .halfOpen ∧
      ((outcome.Unhandled entry ∧
          breaker.afterCall config clock is_probe entry outcome = breaker) ∨
        (outcome.KeepsHalfOpen config breaker entry ∧
          (breaker.afterCall config clock is_probe entry outcome).half_open_in_flight =
            breaker.half_open_in_flight - is_probe.toNat)) := by
  cases outcome with
  | success =>
      obtain ⟨hbefore, hcount, hslots⟩ := Breaker.handleSuccess_halfOpen hstate
      exact ⟨hbefore, Or.inr ⟨hcount, hslots⟩⟩
  | raised excluded =>
      obtain ⟨hbefore, hexcluded, hslots⟩ := Breaker.handleFailure_halfOpen hstate
      exact ⟨hbefore, Or.inr ⟨hexcluded, hslots⟩⟩
  | interrupted excluded =>
      cases entry with
      | execute => exact ⟨hstate, Or.inl ⟨rfl, rfl⟩⟩
      | block =>
          obtain ⟨hbefore, hexcluded, hslots⟩ := Breaker.handleFailure_halfOpen hstate
          exact ⟨hbefore, Or.inr ⟨⟨rfl, hexcluded⟩, hslots⟩⟩

section Steps

variable {Task : Type} [DecidableEq Task] {config : BreakerConfig}
  {host after : BreakerHost Task} {action : CallAction Task}

/-- A step is an admission, the end of a running call, or a reset. -/
theorem BreakerHost.step_cases (hstep : host.step config action = some after) :
    (∃ task entry wall, after = host.enterCall config task entry wall) ∨
      (∃ ended, host.endedCall action = some ended ∧ after = host.leave config ended) ∨
      after = { host with breaker := host.breaker.reset } := by
  cases action with
  | execute task wall => exact Or.inl ⟨task, .execute, wall, by simpa [step] using hstep.symm⟩
  | aenter task wall => exact Or.inl ⟨task, .block, wall, by simpa [step] using hstep.symm⟩
  | finish position clock outcome =>
      obtain ⟨ended, hended, rfl⟩ := Option.map_eq_some_iff.mp hstep
      exact Or.inr (Or.inl ⟨ended, hended, rfl⟩)
  | aexit task clock outcome =>
      obtain ⟨ended, hended, rfl⟩ := Option.map_eq_some_iff.mp hstep
      exact Or.inr (Or.inl ⟨ended, hended, rfl⟩)
  | reset => exact Or.inr (Or.inr (by simpa [step] using hstep.symm))

/-- The ended call was running, and its end reads the flag of its admission or
the context variable of its task. -/
theorem BreakerHost.endedCall_running
    {ended : EndedCall Task} (hended : host.endedCall action = some ended) :
    host.running[ended.position]? = some ended.call ∧
      (ended.call.entry = .execute ∧ ended.is_probe = ended.call.is_probe ∨
        ended.call.entry = .block ∧
          ended.is_probe = host.ctx_is_probe ended.call.task) := by
  cases action with
  | finish position clock outcome =>
      simp only [endedCall, Option.bind_eq_bind, Option.bind_eq_some_iff] at hended
      obtain ⟨call, hcall, hended⟩ := hended
      split at hended
      · rename_i hentry
        simp only [Option.some.injEq] at hended
        subst hended
        exact ⟨hcall, Or.inl ⟨hentry, rfl⟩⟩
      · simp at hended
  | aexit task clock outcome =>
      simp only [endedCall, Option.bind_eq_bind, Option.bind_eq_some_iff,
        Option.some.injEq] at hended
      obtain ⟨position, hposition, call, hcall, hended⟩ := hended
      subst hended
      obtain ⟨hbound, hfound, -⟩ := List.findIdx?_eq_some_iff_getElem.mp hposition
      have hat : host.running[position] = call :=
        (List.getElem?_eq_some_iff.mp hcall).2
      simp only [hat, decide_eq_true_eq] at hfound
      refine ⟨hcall, Or.inr ⟨hfound.2, ?_⟩⟩
      simp only [hfound.1]
  | execute task wall => simp [endedCall] at hended
  | aenter task wall => simp [endedCall] at hended
  | reset => simp [endedCall] at hended

omit [DecidableEq Task] in
/-- The probes after a call has ended. -/
theorem BreakerHost.probes_leave
    (config : BreakerConfig) {ended : EndedCall Task}
    (hcall : host.running[ended.position]? = some ended.call) :
    (host.leave config ended).probes.length +
        (if ended.call.period = host.periods then 1 else 0) = host.probes.length := by
  obtain ⟨hbound, hat⟩ := List.getElem?_eq_some_iff.mp hcall
  have hperm := (List.getElem_cons_eraseIdx_perm hbound).filter
    fun call => call.period = host.periods
  have hlength := hperm.length_eq
  rw [hat, List.filter_cons] at hlength
  have hprobes : (host.leave config ended).probes =
      (host.running.eraseIdx ended.position).filter
        fun call => call.period = host.periods := rfl
  rw [hprobes, probes, ← hlength]
  by_cases hperiod : ended.call.period = host.periods
  · simp only [hperiod, decide_true, if_true, List.length_cons]
  · simp only [hperiod, decide_false, Bool.false_eq_true, if_false, Nat.add_zero]

/-- No call is of a later period than the breaker. -/
def BreakerHost.Dated (host : BreakerHost Task) : Prop :=
  ∀ call ∈ host.running, call.period ≤ host.periods

omit [DecidableEq Task] in
theorem BreakerHost.le_periodsAfter (host : BreakerHost Task) (after : Breaker) :
    host.periods ≤ host.periodsAfter after := by
  unfold periodsAfter
  split <;> omega

theorem BreakerHost.admit_dated
    (hdated : host.Dated) (task : Task) (entry : CallEntry) (wall : ℚ) :
    (host.enterCall config task entry wall).Dated := by
  unfold enterCall
  split
  · exact hdated
  · rename_i breaker is_probe _
    intro call hcall
    rcases List.mem_cons.mp hcall with rfl | hold
    · exact le_rfl
    · exact (hdated call hold).trans (host.le_periodsAfter breaker)

/-- The probes after an admission that leaves the breaker half open. -/
theorem BreakerHost.admit_halfOpen
    (hdated : host.Dated) {task : Task} {entry : CallEntry} {wall : ℚ}
    (hstate : (host.enterCall config task entry wall).breaker.state = .halfOpen) :
    let after := host.enterCall config task entry wall
    (host.breaker.state = .opened ∧ after.breaker.half_open_in_flight = 1 ∧
        after.probes = [⟨task, entry, true, after.periods⟩] ∧
        after.ctx_is_probe = host.contextAfter task true entry) ∨
      (host.breaker.state = .halfOpen ∧
        (host.breaker.half_open_in_flight : ℤ) < config.half_open_max_calls ∧
        after.breaker.half_open_in_flight = host.breaker.half_open_in_flight + 1 ∧
        after.probes = ⟨task, entry, true, after.periods⟩ :: host.probes ∧
        after.ctx_is_probe = host.contextAfter task true entry) ∨
      (host.breaker.state = .halfOpen ∧ after = host) := by
  obtain ⟨breaker, admission, hacquire⟩ : ∃ breaker admission,
      host.breaker.acquire config wall = (breaker, admission) := ⟨_, _, rfl⟩
  have hafter : (host.enterCall config task entry wall).breaker = breaker := by
    unfold enterCall
    rw [hacquire]
    cases admission <;> rfl
  rw [hafter] at hstate
  rcases Breaker.acquire_halfOpen hacquire hstate with
    ⟨hbefore, rfl, hslots⟩ | ⟨hbefore, rfl, hroom, hslots⟩ | ⟨hbefore, rfl, rfl⟩
  · have hperiods : host.periodsAfter breaker = host.periods + 1 := by
      simp [periodsAfter, hbefore, hstate]
    have hnone : host.running.filter (fun call => call.period = host.periods + 1) = [] := by
      apply List.filter_eq_nil_iff.mpr
      intro call hcall
      have hle := hdated call hcall
      simp only [decide_eq_true_eq]
      omega
    refine Or.inl ⟨hbefore, ?_, ?_, ?_⟩
    · simp [enterCall, hacquire, hslots]
    · simp only [enterCall, hacquire, probes, hperiods, decide_true, List.filter_cons, if_true,
        hnone]
    · simp only [enterCall, hacquire]
  · have hperiods : host.periodsAfter breaker = host.periods := by
      simp [periodsAfter, hbefore]
    refine Or.inr (Or.inl ⟨hbefore, hroom, ?_, ?_, ?_⟩)
    · simp [enterCall, hacquire, hslots]
    · simp only [enterCall, hacquire, probes, hperiods, decide_true, List.filter_cons, if_true]
    · simp only [enterCall, hacquire]
  · refine Or.inr (Or.inr ⟨hbefore, ?_⟩)
    simp only [enterCall, hacquire]

/-! ## The probe limit -/

/-- A call that does not hold a slot of the current half-open period gives one
back. -/
def BreakerHost.LateRelease (config : BreakerConfig) (host : BreakerHost Task)
    (action : CallAction Task) : Prop :=
  ∃ ended, host.endedCall action = some ended ∧ host.breaker.state = .halfOpen ∧
    0 < host.breaker.half_open_in_flight ∧ ended.is_probe = true ∧
      ended.call.period ≠ host.periods ∧
        ended.outcome.KeepsHalfOpen config host.breaker ended.call.entry

/-- Every running probe of the period is counted, and the count is within its
limit. -/
structure SlotsCover (config : BreakerConfig) (host : BreakerHost Task) : Prop where
  dated : host.Dated
  slots : host.breaker.state = .halfOpen →
    host.probes.length ≤ host.breaker.half_open_in_flight ∧
      (host.breaker.half_open_in_flight : ℤ) ≤ config.half_open_max_calls

theorem SlotsCover.enterCall
    (hcover : SlotsCover config host) (hmax : 1 ≤ config.half_open_max_calls)
    (task : Task) (entry : CallEntry) (wall : ℚ) :
    SlotsCover config (host.enterCall config task entry wall) := by
  refine ⟨BreakerHost.admit_dated hcover.dated task entry wall, fun hstate => ?_⟩
  rcases BreakerHost.admit_halfOpen hcover.dated hstate with
    ⟨-, hslots, hprobes, -⟩ | ⟨hbefore, hroom, hslots, hprobes, -⟩ | ⟨hbefore, hsame⟩
  · rw [hslots, hprobes]
    exact ⟨le_rfl, by simpa using hmax⟩
  · obtain ⟨hcounted, -⟩ := hcover.slots hbefore
    rw [hslots, hprobes, List.length_cons]
    push_cast
    omega
  · rw [hsame]
    exact hcover.slots hbefore

theorem SlotsCover.leave
    (hcover : SlotsCover config host) {ended : EndedCall Task}
    (hended : host.endedCall action = some ended)
    (hallowed : ¬ host.LateRelease config action) :
    SlotsCover config (host.leave config ended) := by
  refine ⟨fun call hcall => hcover.dated call (List.mem_of_mem_eraseIdx hcall),
    fun hstate => ?_⟩
  obtain ⟨hcall, -⟩ := BreakerHost.endedCall_running hended
  have hprobes := BreakerHost.probes_leave config hcall
  obtain ⟨hbefore, ⟨-, hsame⟩ | ⟨hkeeps, hslots⟩⟩ := Breaker.afterCall_halfOpen hstate
  · have hbreaker : (host.leave config ended).breaker = host.breaker := hsame
    obtain ⟨hcounted, hlimit⟩ := hcover.slots hbefore
    rw [hbreaker]
    exact ⟨by omega, hlimit⟩
  · obtain ⟨hcounted, hlimit⟩ := hcover.slots hbefore
    have hinFlight : (host.leave config ended).breaker.half_open_in_flight =
        host.breaker.half_open_in_flight - ended.is_probe.toNat := hslots
    rw [hinFlight]
    cases hflag : ended.is_probe with
    | false =>
        simp only [Bool.toNat_false, Nat.sub_zero]
        exact ⟨by omega, hlimit⟩
    | true =>
        by_cases hperiod : ended.call.period = host.periods
        · rw [if_pos hperiod] at hprobes
          simp only [Bool.toNat_true]
          omega
        · have hempty : host.breaker.half_open_in_flight = 0 := by
            by_contra hcount
            exact hallowed ⟨ended, hended, hbefore, Nat.pos_of_ne_zero hcount, hflag,
              hperiod, hkeeps⟩
          simp only [Bool.toNat_true]
          omega

theorem SlotsCover.step
    (hcover : SlotsCover config host) (hmax : 1 ≤ config.half_open_max_calls)
    (hallowed : ¬ host.LateRelease config action)
    (hstep : host.step config action = some after) : SlotsCover config after := by
  rcases BreakerHost.step_cases hstep with
    ⟨task, entry, wall, rfl⟩ | ⟨ended, hended, rfl⟩ | rfl
  · exact hcover.enterCall hmax task entry wall
  · exact hcover.leave hended hallowed
  · exact ⟨hcover.dated, fun hstate => by simp [Breaker.reset] at hstate⟩

/-- In a run without late releases the half-open breaker runs at most
`half_open_max_calls` of the calls admitted since it became half open. -/
theorem probes_within_limit
    (Task : Type) [DecidableEq Task] (config : BreakerConfig)
    (hmax : 1 ≤ config.half_open_max_calls) (host : BreakerHost Task)
    (hreach : (breakerCalls Task config).ReachableUnder
      (fun host action => ¬ host.LateRelease config action) host)
    (hstate : host.breaker.state = .halfOpen) :
    (host.probes.length : ℤ) ≤ config.half_open_max_calls := by
  have hcover : SlotsCover config host := by
    refine hreach.invariant ?_ ?_
    · rintro start ⟨hnew, hidle, -⟩
      refine ⟨fun call hcall => ?_, fun hhalf => ?_⟩
      · simp [hidle] at hcall
      · simp [hnew, Breaker.new] at hhalf
    · intro before action after _ hinv hallowed hstep
      exact hinv.step hmax hallowed hstep
  obtain ⟨hcounted, hlimit⟩ := hcover.slots hstate
  omega

theorem probes_within_limit_sample :
    let config : BreakerConfig := ⟨1, 2, 30, 50, 60, 10, 1⟩
    ∃ host : BreakerHost ℕ, host.breaker.state = .halfOpen ∧
      (host.probes.length : ℤ) ≤ config.half_open_max_calls := by
  intro config
  let start : BreakerHost ℕ := ⟨.new, fun _ => false, [], 0⟩
  let actions : List (CallAction ℕ) :=
    [.execute 0 0, .finish 0 ⟨1, 1, 1⟩ (.raised false), .execute 1 31]
  have hresult : ((breakerCalls ℕ config).execute start actions).map
      (fun host => host.breaker.state) = some .halfOpen := by decide +kernel
  obtain ⟨host, hrun, hstate⟩ := Option.map_eq_some_iff.mp hresult
  have hallowed : (breakerCalls ℕ config).RunAllowed
      (fun host action => ¬ host.LateRelease config action) start actions := by
    refine ⟨?_, fun first hfirst => ⟨?_, fun second _ => ⟨?_, fun _ _ => trivial⟩⟩⟩
    · rintro ⟨ended, hended, -⟩
      simp [BreakerHost.endedCall] at hended
    · obtain rfl := Option.some.inj hfirst
      rintro ⟨ended, -, hhalf, -⟩
      exact absurd hhalf (by decide)
    · rintro ⟨ended, hended, -⟩
      simp [BreakerHost.endedCall] at hended
  have hstart : (breakerCalls ℕ config).ReachableUnder
      (fun host action => ¬ host.LateRelease config action) start := .start ⟨rfl, rfl, rfl⟩
  have hreach := hstart.execute hallowed hrun
  exact ⟨host, hstate, probes_within_limit ℕ config (by decide) host hreach hstate⟩

/-- A probe of an earlier half-open period that succeeds late gives back the slot
of the running probe, and a second probe is admitted beside it. -/
theorem late_probe_exceeds_limit :
    ∃ config : BreakerConfig, 1 ≤ config.half_open_max_calls ∧
      ∃ host : BreakerHost ℕ, (breakerCalls ℕ config).Reachable host ∧
        host.breaker.state = .halfOpen ∧
          config.half_open_max_calls < (host.probes.length : ℤ) := by
  let config : BreakerConfig := ⟨1, 2, 30, 50, 60, 10, 1⟩
  let start : BreakerHost ℕ := ⟨.new, fun _ => false, [], 0⟩
  let actions : List (CallAction ℕ) :=
    [.execute 0 0, .execute 1 0, .finish 1 ⟨0, 0, 0⟩ (.raised false), .execute 2 30,
      .finish 1 ⟨31, 1, 1⟩ (.raised false), .execute 3 61, .finish 1 ⟨61, 2, 2⟩ .success,
      .execute 4 61]
  have hresult : ((breakerCalls ℕ config).execute start actions).map
      (fun host => (host.breaker.state, host.probes.length)) = some (.halfOpen, 2) := by
    decide +kernel
  obtain ⟨host, hrun, hends⟩ := Option.map_eq_some_iff.mp hresult
  obtain ⟨hstate, hprobes⟩ := Prod.mk.inj hends
  have hstart : (breakerCalls ℕ config).Reachable start := .start ⟨rfl, rfl, rfl⟩
  have hreach := hstart.execute hrun
  refine ⟨config, by decide, host, hreach, hstate, ?_⟩
  rw [hprobes]
  decide

/-! ## Probe slots are returned -/

/-- A probe of the current half-open period ends without reaching a handler. -/
def BreakerHost.LosesSlot (host : BreakerHost Task) (action : CallAction Task) : Prop :=
  ∃ ended, host.endedCall action = some ended ∧ host.breaker.state = .halfOpen ∧
    ended.call.period = host.periods ∧ ended.outcome.Unhandled ended.call.entry

/-- Every counted slot belongs to a running probe of the period, whose end reads
that it is one. -/
structure SlotsHeld (host : BreakerHost Task) : Prop where
  dated : host.Dated
  flags : host.breaker.state = .halfOpen → ∀ call ∈ host.probes,
    call.is_probe = true ∧ (call.entry = .block → host.ctx_is_probe call.task = true)
  slots : host.breaker.state = .halfOpen →
    host.breaker.half_open_in_flight ≤ host.probes.length

theorem BreakerHost.contextAfter_probe
    {task other : Task} {entry : CallEntry}
    (hflag : host.ctx_is_probe other = true ∨ other = task ∧ entry = .block) :
    host.contextAfter task true entry other = true := by
  cases entry with
  | execute =>
      rcases hflag with hflag | ⟨-, hentry⟩
      · exact hflag
      · cases hentry
  | block =>
      simp only [contextAfter, Function.update_apply]
      split
      · rfl
      · rename_i hother
        rcases hflag with hflag | ⟨hsame, -⟩
        · exact hflag
        · exact (hother hsame).elim

theorem SlotsHeld.enterCall
    (hheld : SlotsHeld host) (task : Task) (entry : CallEntry) (wall : ℚ) :
    SlotsHeld (host.enterCall config task entry wall) := by
  refine ⟨BreakerHost.admit_dated hheld.dated task entry wall, fun hstate => ?_, fun hstate => ?_⟩
  · rcases BreakerHost.admit_halfOpen hheld.dated hstate with
      ⟨-, -, hprobes, hcontext⟩ | ⟨hbefore, -, -, hprobes, hcontext⟩ | ⟨hbefore, hsame⟩
    · rw [hprobes, hcontext]
      intro call hcall
      rw [List.mem_singleton.mp hcall]
      exact ⟨rfl, fun hentry => BreakerHost.contextAfter_probe (Or.inr ⟨rfl, hentry⟩)⟩
    · rw [hprobes, hcontext]
      intro call hcall
      rcases List.mem_cons.mp hcall with rfl | hold
      · exact ⟨rfl, fun hentry => BreakerHost.contextAfter_probe (Or.inr ⟨rfl, hentry⟩)⟩
      · obtain ⟨hprobe, hflag⟩ := hheld.flags hbefore call hold
        exact ⟨hprobe, fun hentry =>
          BreakerHost.contextAfter_probe (Or.inl (hflag hentry))⟩
    · rw [hsame]
      exact hheld.flags hbefore
  · rcases BreakerHost.admit_halfOpen hheld.dated hstate with
      ⟨-, hslots, hprobes, -⟩ | ⟨hbefore, -, hslots, hprobes, -⟩ | ⟨hbefore, hsame⟩
    · rw [hslots, hprobes]
      exact le_rfl
    · rw [hslots, hprobes]
      exact Nat.succ_le_succ (hheld.slots hbefore)
    · rw [hsame]
      exact hheld.slots hbefore

theorem SlotsHeld.leave
    (hheld : SlotsHeld host) {ended : EndedCall Task}
    (hended : host.endedCall action = some ended) (hallowed : ¬ host.LosesSlot action) :
    SlotsHeld (host.leave config ended) := by
  obtain ⟨hcall, hread⟩ := BreakerHost.endedCall_running hended
  have hprobes := BreakerHost.probes_leave config hcall
  refine ⟨fun call hmem => hheld.dated call (List.mem_of_mem_eraseIdx hmem),
    fun hstate => ?_, fun hstate => ?_⟩
  · obtain ⟨hbefore, -⟩ := Breaker.afterCall_halfOpen hstate
    intro call hmem
    apply hheld.flags hbefore call
    exact (List.eraseIdx_sublist host.running ended.position).filter _ |>.subset hmem
  · obtain ⟨hbefore, ⟨hunhandled, hsame⟩ | ⟨-, hslots⟩⟩ :=
      Breaker.afterCall_halfOpen hstate
    · have hperiod : ended.call.period ≠ host.periods := fun hperiod =>
        hallowed ⟨ended, hended, hbefore, hperiod, hunhandled⟩
      have hbreaker : (host.leave config ended).breaker = host.breaker := hsame
      have hcounted := hheld.slots hbefore
      rw [if_neg hperiod] at hprobes
      rw [hbreaker]
      omega
    · have hinFlight : (host.leave config ended).breaker.half_open_in_flight =
          host.breaker.half_open_in_flight - ended.is_probe.toNat := hslots
      have hcounted := hheld.slots hbefore
      rw [hinFlight]
      by_cases hperiod : ended.call.period = host.periods
      · have hmem : ended.call ∈ host.probes :=
          List.mem_filter.mpr ⟨List.mem_of_getElem? hcall, by simpa using hperiod⟩
        obtain ⟨hprobe, hflag⟩ := hheld.flags hbefore ended.call hmem
        have hreads : ended.is_probe = true := by
          rcases hread with ⟨-, hread⟩ | ⟨hentry, hread⟩
          · rw [hread, hprobe]
          · rw [hread, hflag hentry]
        rw [if_pos hperiod] at hprobes
        simp only [hreads, Bool.toNat_true]
        omega
      · rw [if_neg hperiod] at hprobes
        omega

theorem SlotsHeld.step
    (hheld : SlotsHeld host) (hallowed : ¬ host.LosesSlot action)
    (hstep : host.step config action = some after) : SlotsHeld after := by
  rcases BreakerHost.step_cases hstep with
    ⟨task, entry, wall, rfl⟩ | ⟨ended, hended, rfl⟩ | rfl
  · exact hheld.enterCall task entry wall
  · exact hheld.leave hended hallowed
  · exact ⟨hheld.dated, fun hstate => by simp [Breaker.reset] at hstate,
      fun hstate => by simp [Breaker.reset] at hstate⟩

/-- In a run in which no probe ends unhandled, an idle half-open breaker admits
the next call as a probe. -/
theorem idle_halfOpen_admits
    (Task : Type) [DecidableEq Task] (config : BreakerConfig)
    (hmax : 1 ≤ config.half_open_max_calls) (host : BreakerHost Task)
    (hreach : (breakerCalls Task config).ReachableUnder
      (fun host action => ¬ host.LosesSlot action) host)
    (hstate : host.breaker.state = .halfOpen) (hidle : host.running = []) (wall : ℚ) :
    (host.breaker.acquire config wall).2 = .admitted true := by
  have hheld : SlotsHeld host := by
    refine hreach.invariant ?_ ?_
    · rintro start ⟨hnew, hnone, -⟩
      refine ⟨fun call hcall => ?_, fun hhalf => ?_, fun hhalf => ?_⟩
      · simp [hnone] at hcall
      · simp [hnew, Breaker.new] at hhalf
      · simp [hnew, Breaker.new] at hhalf
    · intro before action after _ hinv hallowed hstep
      exact hinv.step hallowed hstep
  have hslots := hheld.slots hstate
  simp only [BreakerHost.probes, hidle, List.filter_nil, List.length_nil,
    Nat.le_zero] at hslots
  have hroom : (host.breaker.half_open_in_flight : ℤ) < config.half_open_max_calls := by
    rw [hslots]
    omega
  simp only [Breaker.acquire, hstate, hroom, if_true]

theorem idle_halfOpen_admits_sample :
    let config : BreakerConfig := ⟨1, 2, 30, 50, 60, 10, 1⟩
    ∃ host : BreakerHost ℕ, host.breaker.state = .halfOpen ∧ host.running = [] ∧
      (host.breaker.acquire config 32).2 = .admitted true := by
  intro config
  let start : BreakerHost ℕ := ⟨.new, fun _ => false, [], 0⟩
  let actions : List (CallAction ℕ) :=
    [.execute 0 0, .finish 0 ⟨1, 1, 1⟩ (.raised false), .aenter 1 31,
      .aexit 1 ⟨32, 2, 2⟩ .success]
  have hresult : ((breakerCalls ℕ config).execute start actions).map
      (fun host => (host.breaker.state, host.running)) = some (.halfOpen, []) := by
    decide +kernel
  obtain ⟨host, hrun, hends⟩ := Option.map_eq_some_iff.mp hresult
  obtain ⟨hstate, hidle⟩ := Prod.mk.inj hends
  have hallowed : (breakerCalls ℕ config).RunAllowed
      (fun host action => ¬ host.LosesSlot action) start actions := by
    refine ⟨?_, fun first hfirst => ⟨?_, fun second _ => ⟨?_, fun third _ =>
      ⟨?_, fun _ _ => trivial⟩⟩⟩⟩
    · rintro ⟨ended, hended, -⟩
      simp [BreakerHost.endedCall] at hended
    · obtain rfl := Option.some.inj hfirst
      rintro ⟨ended, -, hhalf, -⟩
      exact absurd hhalf (by decide)
    · rintro ⟨ended, hended, -⟩
      simp [BreakerHost.endedCall] at hended
    · rintro ⟨ended, hended, -, -, hunhandled⟩
      simp only [BreakerHost.endedCall, Option.bind_eq_bind, Option.bind_eq_some_iff,
        Option.some.injEq] at hended
      obtain ⟨position, -, call, -, rfl⟩ := hended
      exact hunhandled
  have hstart : (breakerCalls ℕ config).ReachableUnder
      (fun host action => ¬ host.LosesSlot action) start := .start ⟨rfl, rfl, rfl⟩
  have hreach := hstart.execute hallowed hrun
  exact ⟨host, hstate, hidle,
    idle_halfOpen_admits ℕ config (by decide) host hreach hstate hidle 32⟩

/-- A probe run through `execute` is cancelled: its slot stays counted, and the
half-open breaker rejects every later call. -/
theorem cancelled_probe_wedges :
    ∃ config : BreakerConfig, 1 ≤ config.half_open_max_calls ∧
      ∃ host : BreakerHost ℕ, (breakerCalls ℕ config).Reachable host ∧
        host.breaker.state = .halfOpen ∧ host.running = [] ∧
          ∀ wall, (host.breaker.acquire config wall).2 = .rejected := by
  let config : BreakerConfig := ⟨1, 2, 30, 50, 60, 10, 1⟩
  let start : BreakerHost ℕ := ⟨.new, fun _ => false, [], 0⟩
  let actions : List (CallAction ℕ) :=
    [.execute 0 0, .finish 0 ⟨1, 1, 1⟩ (.raised false), .execute 1 31,
      .finish 0 ⟨32, 2, 2⟩ (.interrupted false)]
  have hresult : ((breakerCalls ℕ config).execute start actions).map
      (fun host => (host.breaker.state, host.running, host.breaker.half_open_in_flight)) =
        some (.halfOpen, [], 1) := by
    decide +kernel
  obtain ⟨host, hrun, hends⟩ := Option.map_eq_some_iff.mp hresult
  simp only [Prod.mk.injEq] at hends
  obtain ⟨hstate, hidle, hslots⟩ := hends
  have hstart : (breakerCalls ℕ config).Reachable start := .start ⟨rfl, rfl, rfl⟩
  have hreach := hstart.execute hrun
  refine ⟨config, by decide, host, hreach, hstate, hidle, fun wall => ?_⟩
  have hfull : ¬ (host.breaker.half_open_in_flight : ℤ) < config.half_open_max_calls := by
    rw [hslots]
    decide
  simp only [Breaker.acquire, hstate, hfull, if_false]

end Steps

end LibrarySystem
