import LibrarySystem.Foundation.Machine

/-!
# Coroutines of several processes over one store

A coroutine runs until it awaits: a command of the store, which is carried out at one
moment and answered at a later one, or a lock of its process.  Between two awaits it
works on the memory of its process and nothing else of that process runs.

`Meets` is the program logic.  A moment is what a coroutine can rely on: the clock, the
store and the memory of its process, all of which only grow while it waits.  What is
proved of a program is proved at one moment and used at any later one.
-/

namespace LibrarySystem

/-- `update` gets the time at which its call began, for histories only. -/
inductive Coroutine (L K C : Type) (R : C → Type) (α : Type) : Type
  | done (value : α)
  | inspect (next : L → Coroutine L K C R α)
  | update (effect : ℕ → L → L) (next : Coroutine L K C R α)
  | acquire (lock : K) (next : Coroutine L K C R α)
  | release (lock : K) (next : Coroutine L K C R α)
  | await (command : C) (next : R command → Coroutine L K C R α)

/-- What one process can see at one time. -/
structure Instant (L S : Type) where
  now : ℕ
  shared : S
  memory : L

namespace Instant

variable {L S : Type}

instance [Preorder L] [Preorder S] : Preorder (Instant L S) where
  le first second := first.now ≤ second.now ∧ first.shared ≤ second.shared ∧
    first.memory ≤ second.memory
  le_refl moment := ⟨le_refl _, le_refl _, le_refl _⟩
  le_trans first second third hfirst hsecond :=
    ⟨hfirst.1.trans hsecond.1, hfirst.2.1.trans hsecond.2.1, hfirst.2.2.trans hsecond.2.2⟩

def tick (moment : Instant L S) : Instant L S :=
  { moment with now := moment.now + 1 }

@[simp] theorem now_tick (moment : Instant L S) : moment.tick.now = moment.now + 1 := rfl

@[simp] theorem shared_tick (moment : Instant L S) : moment.tick.shared = moment.shared := rfl

@[simp] theorem memory_tick (moment : Instant L S) : moment.tick.memory = moment.memory := rfl

theorem le_tick [Preorder L] [Preorder S] (moment : Instant L S) : moment ≤ moment.tick :=
  ⟨Nat.le_succ _, le_refl _, le_refl _⟩

def remember (moment : Instant L S) (effect : L → L) : Instant L S :=
  { moment with memory := effect moment.memory }

@[simp] theorem now_remember (moment : Instant L S) (effect : L → L) :
    (moment.remember effect).now = moment.now := rfl

@[simp] theorem shared_remember (moment : Instant L S) (effect : L → L) :
    (moment.remember effect).shared = moment.shared := rfl

@[simp] theorem memory_remember (moment : Instant L S) (effect : L → L) :
    (moment.remember effect).memory = effect moment.memory := rfl

end Instant

namespace Coroutine

variable {L K C : Type} {R : C → Type} {α β : Type}

protected def bind : Coroutine L K C R α → (α → Coroutine L K C R β) → Coroutine L K C R β
  | .done value, f => f value
  | .inspect next, f => .inspect fun memory => (next memory).bind f
  | .update effect next, f => .update effect (next.bind f)
  | .acquire lock next, f => .acquire lock (next.bind f)
  | .release lock next, f => .release lock (next.bind f)
  | .await command next, f => .await command fun reply => (next reply).bind f

instance : Monad (Coroutine L K C R) where
  pure := Coroutine.done
  bind := Coroutine.bind

/-- Run up to the next await, with the locks held so far. -/
def settle [DecidableEq K] (began : ℕ) :
    L → List K → Coroutine L K C R α → L × List K × Coroutine L K C R α
  | memory, held, .inspect next => (next memory).settle began memory held
  | memory, held, .update effect next => next.settle began (effect began memory) held
  | memory, held, .release lock next => next.settle began memory (held.erase lock)
  | memory, held, program => (memory, held, program)

/-- The programs at which a process goes on with something else. -/
def suspended : Coroutine L K C R α → Bool
  | .done _ | .acquire _ _ | .await _ _ => true
  | _ => false

theorem settle_suspended [DecidableEq K] (began : ℕ) (memory : L) (held : List K)
    (program : Coroutine L K C R α) :
    (program.settle began memory held).2.2.suspended = true := by
  induction program generalizing memory held with
  | done value => rfl
  | inspect next ih => exact ih memory memory held
  | update effect next ih => exact ih (effect began memory) held
  | acquire lock next ih => rfl
  | release lock next ih => exact ih memory (held.erase lock)
  | await command next ih => rfl

/-! ## The program logic -/

/-- `Sound` holds whenever nothing of the process runs.  A command may be issued when
`Issue` holds; `Answer` relates the moments around its execution to the reply, and
`Deliver` is what a run promises when the reply arrives. -/
structure Logic (L S C : Type) (R : C → Type) where
  Sound : Instant L S → Prop
  Issue : Instant L S → C → Prop
  Answer : Instant L S → Instant L S → (command : C) → R command → Prop
  Deliver : Instant L S → (command : C) → R command → Prop

section Meets

variable {S : Type} [Preorder L] [Preorder S]

def Meets (logic : Logic L S C R) (began : ℕ) (post : Instant L S → α → Prop) :
    Instant L S → Coroutine L K C R α → Prop
  | moment, .done value => post moment value
  | moment, .inspect next => (next moment.memory).Meets logic began post moment
  | moment, .update effect next =>
      moment ≤ moment.remember (effect began) ∧
        next.Meets logic began post (moment.remember (effect began))
  | moment, .acquire _ next =>
      logic.Sound moment ∧ ∀ later, moment ≤ later → logic.Sound later →
        next.Meets logic began post later
  | moment, .release _ next => next.Meets logic began post moment
  | moment, .await command next =>
      logic.Sound moment ∧ logic.Issue moment command ∧
        ∀ executed later reply, moment ≤ executed → executed ≤ later →
          logic.Answer moment executed command reply → logic.Sound later →
            logic.Deliver later command reply →
              (next reply).Meets logic began post later

variable {logic : Logic L S C R} {began : ℕ} {post : Instant L S → α → Prop}

/-- Sequencing: the second part is proved at any moment at which the first may end. -/
theorem Meets.bind {final : Instant L S → β → Prop} {moment : Instant L S}
    {program : Coroutine L K C R α} {f : α → Coroutine L K C R β}
    (hprogram : program.Meets logic began post moment)
    (hnext : ∀ later value, moment ≤ later → post later value →
      (f value).Meets logic began final later) :
    (program >>= f).Meets logic began final moment := by
  change (program.bind f).Meets logic began final moment
  induction program generalizing moment with
  | done value => exact hnext moment value (le_refl _) hprogram
  | inspect next ih => exact ih moment.memory hprogram hnext
  | update effect next ih =>
      exact ⟨hprogram.1, ih hprogram.2 fun later value hlater =>
        hnext later value (hprogram.1.trans hlater)⟩
  | acquire lock next ih =>
      exact ⟨hprogram.1, fun later hlater hsound => ih (hprogram.2 later hlater hsound)
        fun last value hlast => hnext last value (hlater.trans hlast)⟩
  | release lock next ih => exact ih hprogram hnext
  | await command next ih =>
      obtain ⟨hsound, hissue, hreply⟩ := hprogram
      refine ⟨hsound, hissue, fun executed later reply hexecuted hlater hanswer hthen hdeliver =>
        ih reply (hreply executed later reply hexecuted hlater hanswer hthen hdeliver)
          fun last value hlast => hnext last value ((hexecuted.trans hlater).trans hlast)⟩

/-- Consequence: a weaker end, judged at any later moment. -/
theorem Meets.weaken {final : Instant L S → α → Prop} {moment : Instant L S}
    {program : Coroutine L K C R α} (hprogram : program.Meets logic began post moment)
    (hend : ∀ later value, moment ≤ later → post later value → final later value) :
    program.Meets logic began final moment := by
  induction program generalizing moment with
  | done value => exact hend moment value (le_refl _) hprogram
  | inspect next ih => exact ih moment.memory hprogram hend
  | update effect next ih =>
      exact ⟨hprogram.1, ih hprogram.2 fun later value hlater =>
        hend later value (hprogram.1.trans hlater)⟩
  | acquire lock next ih =>
      exact ⟨hprogram.1, fun later hlater hsound => ih (hprogram.2 later hlater hsound)
        fun last value hlast => hend last value (hlater.trans hlast)⟩
  | release lock next ih => exact ih hprogram hend
  | await command next ih =>
      obtain ⟨hsound, hissue, hreply⟩ := hprogram
      refine ⟨hsound, hissue, fun executed later reply hexecuted hlater hanswer hthen hdeliver =>
        ih reply (hreply executed later reply hexecuted hlater hanswer hthen hdeliver)
          fun last value hlast => hend last value ((hexecuted.trans hlater).trans hlast)⟩

/-- A suspended program may wait. -/
theorem Meets.later (hissue : ∀ (first second : Instant L S) command, first ≤ second →
      logic.Issue first command → logic.Issue second command)
    (hanswer : ∀ (first second executed : Instant L S) command (reply : R command),
      first ≤ second → second ≤ executed → logic.Answer second executed command reply →
        logic.Answer first executed command reply)
    (hpost : ∀ (first second : Instant L S) value, first ≤ second → logic.Sound second →
      post first value → post second value)
    {moment later : Instant L S} {program : Coroutine L K C R α}
    (hprogram : program.Meets logic began post moment) (hlater : moment ≤ later)
    (hsound : logic.Sound later) (hsuspended : program.suspended = true) :
    program.Meets logic began post later := by
  cases program with
  | done value => exact hpost moment later value hlater hsound hprogram
  | inspect next => cases hsuspended
  | update effect next => cases hsuspended
  | acquire lock next =>
      exact ⟨hsound, fun last hlast => hprogram.2 last (hlater.trans hlast)⟩
  | release lock next => cases hsuspended
  | await command next =>
      obtain ⟨-, hmay, hreply⟩ := hprogram
      refine ⟨hsound, hissue _ _ _ hlater hmay, ?_⟩
      intro executed last reply hexecuted hlast hreplied
      exact hreply executed last reply (hlater.trans hexecuted) hlast
        (hanswer _ _ _ _ _ hlater hexecuted hreplied)

/-- Running up to the next await. -/
theorem Meets.settle [DecidableEq K] {moment : Instant L S} {program : Coroutine L K C R α}
    (hprogram : program.Meets logic began post moment) (held : List K) :
    let settled := program.settle began moment.memory held
    moment ≤ { moment with memory := settled.1 } ∧
      settled.2.2.Meets logic began post { moment with memory := settled.1 } := by
  induction program generalizing moment held with
  | done value => exact ⟨le_refl moment, hprogram⟩
  | inspect next ih => exact ih moment.memory hprogram held
  | update effect next ih =>
      obtain ⟨hremember, hnext⟩ := hprogram
      obtain ⟨hlater, hmeets⟩ := ih hnext held
      exact ⟨hremember.trans hlater, hmeets⟩
  | acquire lock next ih => exact ⟨le_refl moment, hprogram⟩
  | release lock next ih => exact ih hprogram (held.erase lock)
  | await command next ih => exact ⟨le_refl moment, hprogram⟩

/-- A suspended program leaves a sound memory behind. -/
theorem Meets.sound (hpost : ∀ (moment : Instant L S) value, post moment value →
      logic.Sound moment)
    {moment : Instant L S} {program : Coroutine L K C R α}
    (hprogram : program.Meets logic began post moment)
    (hsuspended : program.suspended = true) : logic.Sound moment := by
  cases program with
  | done value => exact hpost moment value hprogram
  | inspect next => cases hsuspended
  | update effect next => cases hsuspended
  | acquire lock next => exact hprogram.1
  | release lock next => cases hsuspended
  | await command next => exact hprogram.1

end Meets

end Coroutine

end LibrarySystem
