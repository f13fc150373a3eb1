import Mathlib.Tactic

/-!
# Labelled machines and their reachable states

A machine is a partial, executable step function.  Everything the other
modules prove about whole runs goes through the two rules of this file: an
invariant that one enabled step preserves holds in every reachable state, and
a run of displayed actions ends in a reachable state.  Runs may be restricted
by a condition on the state in which each action is taken.
-/

namespace LibrarySystem

universe u v w

/-- A deterministic machine: `step` is `none` when the action is not enabled. -/
structure Machine (σ : Type u) (α : Type v) where
  initial : σ → Prop
  step : σ → α → Option σ

namespace Machine

variable {σ : Type u} {α : Type v} (machine : Machine σ α)

/-- States reached by runs each of whose steps is taken where it is allowed. -/
inductive ReachableUnder (allowed : σ → α → Prop) : σ → Prop
  | start {state : σ} (hinitial : machine.initial state) :
      ReachableUnder allowed state
  | next {state after : σ} {action : α}
      (hbefore : ReachableUnder allowed state)
      (hallowed : allowed state action)
      (hstep : machine.step state action = some after) :
      ReachableUnder allowed after

def Reachable : σ → Prop :=
  machine.ReachableUnder fun _ _ => True

variable {machine}

theorem ReachableUnder.mono
    {allowed more : σ → α → Prop}
    (hmore : ∀ state action, allowed state action → more state action)
    {state : σ} (hreach : machine.ReachableUnder allowed state) :
    machine.ReachableUnder more state := by
  induction hreach with
  | start hinitial => exact .start hinitial
  | next _ hallowed hstep ih => exact .next ih (hmore _ _ hallowed) hstep

/-- The invariant rule.  The step obligation may use that its source state is
itself reachable, so invariants proved earlier can be reused. -/
theorem ReachableUnder.invariant
    {allowed : σ → α → Prop} {Inv : σ → Prop}
    (hstart : ∀ state, machine.initial state → Inv state)
    (hnext : ∀ state action after,
      machine.ReachableUnder allowed state → Inv state →
        allowed state action → machine.step state action = some after →
          Inv after)
    {state : σ} (hreach : machine.ReachableUnder allowed state) :
    Inv state := by
  induction hreach with
  | start hinitial => exact hstart _ hinitial
  | next hbefore hallowed hstep ih =>
      exact hnext _ _ _ hbefore ih hallowed hstep

theorem Reachable.invariant
    {Inv : σ → Prop}
    (hstart : ∀ state, machine.initial state → Inv state)
    (hnext : ∀ state action after,
      machine.Reachable state → Inv state →
        machine.step state action = some after → Inv after)
    {state : σ} (hreach : machine.Reachable state) :
    Inv state :=
  ReachableUnder.invariant hstart
    (fun state action after hbefore hinv _ hstep =>
      hnext state action after hbefore hinv hstep)
    hreach

variable (machine)

/-- Execute a displayed list of actions. -/
def execute : σ → List α → Option σ
  | state, [] => some state
  | state, action :: rest =>
      match machine.step state action with
      | none => none
      | some after => execute after rest

variable {machine}

theorem Reachable.execute
    {state after : σ} {actions : List α}
    (hreach : machine.Reachable state)
    (hrun : machine.execute state actions = some after) :
    machine.Reachable after := by
  induction actions generalizing state with
  | nil =>
      simp only [Machine.execute, Option.some.injEq] at hrun
      subst after
      exact hreach
  | cons action rest ih =>
      simp only [Machine.execute] at hrun
      cases hstep : machine.step state action with
      | none =>
          simp [hstep] at hrun
      | some middle =>
          simp only [hstep] at hrun
          exact ih (.next hreach trivial hstep) hrun

/-- What every step from a reachable state keeps holds at the end of a run that
starts with it. -/
theorem Reachable.run_invariant
    {Inv : σ → Prop}
    (hnext : ∀ state action after,
      machine.Reachable state → Inv state →
        machine.step state action = some after → Inv after)
    {state after : σ} {actions : List α} (hreach : machine.Reachable state)
    (hinv : Inv state) (hrun : machine.execute state actions = some after) :
    Inv after := by
  induction actions generalizing state with
  | nil =>
      simp only [Machine.execute, Option.some.injEq] at hrun
      subst after
      exact hinv
  | cons action rest ih =>
      simp only [Machine.execute] at hrun
      cases hstep : machine.step state action with
      | none =>
          simp [hstep] at hrun
      | some middle =>
          simp only [hstep] at hrun
          exact ih (.next hreach trivial hstep) (hnext _ _ _ hreach hinv hstep) hrun

/-- Membership of an executed run in a restricted reachable set: every action
is checked against the state in which it is taken. -/
def RunAllowed (machine : Machine σ α) (allowed : σ → α → Prop) :
    σ → List α → Prop
  | _, [] => True
  | state, action :: rest =>
      allowed state action ∧
        ∀ after, machine.step state action = some after →
          RunAllowed machine allowed after rest

theorem ReachableUnder.execute
    {allowed : σ → α → Prop} {state after : σ} {actions : List α}
    (hreach : machine.ReachableUnder allowed state)
    (hallowed : machine.RunAllowed allowed state actions)
    (hrun : machine.execute state actions = some after) :
    machine.ReachableUnder allowed after := by
  induction actions generalizing state with
  | nil =>
      simp only [Machine.execute, Option.some.injEq] at hrun
      subst after
      exact hreach
  | cons action rest ih =>
      simp only [Machine.execute] at hrun
      cases hstep : machine.step state action with
      | none =>
          simp [hstep] at hrun
      | some middle =>
          simp only [hstep] at hrun
          exact ih (.next hreach hallowed.1 hstep)
            (hallowed.2 middle hstep) hrun

variable (machine)

/-- Execute a displayed list of actions, each of which passes a check in the
state in which it is taken. -/
def executeUnder (check : σ → α → Bool) : σ → List α → Option σ
  | state, [] => some state
  | state, action :: rest =>
      if check state action then
        match machine.step state action with
        | none => none
        | some after => executeUnder check after rest
      else none

variable {machine}

theorem ReachableUnder.executeUnder
    {check : σ → α → Bool} {state after : σ} {actions : List α}
    (hreach : machine.ReachableUnder (fun state action => check state action = true) state)
    (hrun : machine.executeUnder check state actions = some after) :
    machine.ReachableUnder (fun state action => check state action = true) after := by
  induction actions generalizing state with
  | nil =>
      simp only [Machine.executeUnder, Option.some.injEq] at hrun
      subst after
      exact hreach
  | cons action rest ih =>
      simp only [Machine.executeUnder] at hrun
      split at hrun
      · rename_i hallowed
        cases hstep : machine.step state action with
        | none => simp [hstep] at hrun
        | some middle =>
            simp only [hstep] at hrun
            exact ih (.next hreach hallowed hstep) hrun
      · cases hrun

end Machine

end LibrarySystem
