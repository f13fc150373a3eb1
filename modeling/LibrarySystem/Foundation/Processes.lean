import LibrarySystem.Foundation.Coroutine

/-!
# Processes that run coroutines

Any number of calls run in any number of processes.  A step starts a call, takes a lock,
carries a command out, delivers its reply, ends a call or cuts it off, or is a step of
the rest of the world.  Every step takes time, so the moments of a run tell what came
before what.
-/

namespace LibrarySystem

/-- `enter` says whether a call may start, and what the process notes when it does; `leave` is
what it notes of a call that was cut off. -/
structure Processes (P Q L K C : Type) (R : C → Type) (E X α S : Type) where
  process : Q → P
  enter : Q → L → Option L
  leave : Q → L → L
  program : Q → Coroutine L K C R α
  perform : ℕ → S → (command : C) → E → S × R command
  change : ℕ → S → X → S

namespace Processes

variable {P Q L K C : Type} {R : C → Type} {E X α S : Type}

inductive Phase (L K C : Type) (R : C → Type) (α : Type) : Type
  | suspended (program : Coroutine L K C R α)
  | answered (command : C) (reply : R command) (next : R command → Coroutine L K C R α)
  | ended

structure Thread (Q L K C : Type) (R : C → Type) (α S : Type) where
  request : Q
  start : Instant L S
  held : List K
  phase : Phase L K C R α

/-- A call that has returned. -/
structure Returned (Q L α S : Type) where
  request : Q
  start : Instant L S
  stop : Instant L S
  value : α

/-- `calls` is a history. -/
structure World (P Q L K C : Type) (R : C → Type) (α S : Type) where
  now : ℕ
  shared : S
  memories : P → L
  threads : List (Thread Q L K C R α S)
  calls : List (Returned Q L α S)

inductive Action (Q E X : Type)
  | start (request : Q)
  | acquire (thread : ℕ)
  | perform (thread : ℕ) (draw : E)
  | resume (thread : ℕ)
  | finish (thread : ℕ)
  | abandon (thread : ℕ)
  | change (cause : X)

namespace World

variable (world : World P Q L K C R α S)

def moment (process : P) : Instant L S :=
  ⟨world.now, world.shared, world.memories process⟩

/-- No call of the same process has the lock. -/
def free [DecidableEq P] [DecidableEq K] (env : Processes P Q L K C R E X α S)
    (process : P) (lock : K) : Bool :=
  world.threads.all fun thread =>
    env.process thread.request != process || !thread.held.contains lock

end World

section Step

variable [DecidableEq P] [DecidableEq K] (env : Processes P Q L K C R E X α S)
  (world : World P Q L K C R α S)

/-- A thread runs up to its next await. -/
def run (thread : Thread Q L K C R α S) (memory : L) (program : Coroutine L K C R α) :
    Thread Q L K C R α S × (P → L) :=
  let settled := program.settle thread.start.now memory thread.held
  ({ thread with held := settled.2.1, phase := .suspended settled.2.2 },
    Function.update world.memories (env.process thread.request) settled.1)

def begin (request : Q) (memory : L) : World P Q L K C R α S :=
  let opened : Thread Q L K C R α S :=
    ⟨request, { world.moment (env.process request) with memory := memory }, [], .ended⟩
  let ran := env.run world opened memory (env.program request)
  { world with
    now := world.now + 1, memories := ran.2, threads := world.threads ++ [ran.1] }

def step : Action Q E X → Option (World P Q L K C R α S)
  | .start request =>
      (env.enter request (world.memories (env.process request))).map (env.begin world request)
  | .acquire i =>
      match world.threads[i]? with
      | none => none
      | some thread =>
          match thread.phase with
          | .suspended (.acquire lock next) =>
              let process := env.process thread.request
              if world.free env process lock then
                let ran := env.run world { thread with held := lock :: thread.held }
                  (world.memories process) next
                some { world with
                  now := world.now + 1, memories := ran.2, threads := world.threads.set i ran.1 }
              else none
          | _ => none
  | .perform i draw =>
      match world.threads[i]? with
      | none => none
      | some thread =>
          match thread.phase with
          | .suspended (.await command next) =>
              let outcome := env.perform world.now world.shared command draw
              some { world with
                now := world.now + 1
                shared := outcome.1
                threads := world.threads.set i
                  { thread with phase := .answered command outcome.2 next } }
          | _ => none
  | .resume i =>
      match world.threads[i]? with
      | none => none
      | some thread =>
          match thread.phase with
          | .answered _ reply next =>
              let ran := env.run world thread
                (world.memories (env.process thread.request)) (next reply)
              some { world with
                now := world.now + 1, memories := ran.2, threads := world.threads.set i ran.1 }
          | _ => none
  | .finish i =>
      match world.threads[i]? with
      | none => none
      | some thread =>
          match thread.phase with
          | .suspended (.done value) =>
              let stop := (world.moment (env.process thread.request)).tick
              some { world with
                now := world.now + 1
                threads := world.threads.set i { thread with held := [], phase := .ended }
                calls := world.calls ++ [⟨thread.request, thread.start, stop, value⟩] }
          | _ => none
  | .abandon i =>
      match world.threads[i]? with
      | none => none
      | some thread =>
          match thread.phase with
          | .ended => none
          | _ =>
              let process := env.process thread.request
              some { world with
                now := world.now + 1
                memories := Function.update world.memories process
                  (env.leave thread.request (world.memories process))
                threads := world.threads.set i { thread with held := [], phase := .ended } }
  | .change cause =>
      some { world with
        now := world.now + 1, shared := env.change world.now world.shared cause }

end Step

/-- The runs that begin in a state of the store with fresh processes. -/
def machine [DecidableEq P] [DecidableEq K] (env : Processes P Q L K C R E X α S)
    (initial : S → L → Prop) :
    Machine (World P Q L K C R α S) (Action Q E X) where
  initial world := (∀ process, initial world.shared (world.memories process)) ∧
    world.threads = [] ∧ world.calls = []
  step := env.step

/-! ## What is proved of every run -/

/-- A run keeps the promise of the logic when a reply is delivered, and the rest of the world
does what it may. -/
def Keeps (env : Processes P Q L K C R E X α S) (logic : Coroutine.Logic L S C R)
    (calm : S → X → Prop) (world : World P Q L K C R α S) : Action Q E X → Prop
  | .resume i => ∀ thread command reply next, world.threads[i]? = some thread →
      thread.phase = .answered command reply next →
        logic.Deliver (world.moment (env.process thread.request)).tick command reply
  | .change cause => calm world.shared cause
  | _ => True

section Soundness

variable [Preorder L] [Preorder S]

/-- What a call returns with. -/
def Ends (logic : Coroutine.Logic L S C R) (post : Q → Instant L S → Instant L S → α → Prop)
    (request : Q) (start stop : Instant L S) (value : α) : Prop :=
  logic.Sound stop ∧ post request start stop value

/-- The obligations of the logic. -/
structure Valid (env : Processes P Q L K C R E X α S) (logic : Coroutine.Logic L S C R)
    (calm : S → X → Prop) (initial : S → L → Prop)
    (post : Q → Instant L S → Instant L S → α → Prop) : Prop where
  begins : ∀ now shared memory, initial shared memory → logic.Sound ⟨now, shared, memory⟩
  program : ∀ request moment memory, logic.Sound moment →
    env.enter request moment.memory = some memory → moment.memory ≤ memory ∧
      (env.program request).Meets logic moment.now
        (Ends logic post request { moment with memory := memory })
        { moment with memory := memory }
  leave : ∀ request moment, logic.Sound moment →
    moment.memory ≤ env.leave request moment.memory ∧
      logic.Sound { moment with memory := env.leave request moment.memory }
  post_later : ∀ request start (stop later : Instant L S) value, stop ≤ later →
    logic.Sound later → post request start stop value → post request start later value
  issue_later : ∀ (first second : Instant L S) command, first ≤ second →
    logic.Issue first command → logic.Issue second command
  answer_earlier : ∀ (first second executed : Instant L S) command (reply : R command),
    first ≤ second → second ≤ executed → logic.Answer second executed command reply →
      logic.Answer first executed command reply
  tick : ∀ moment, logic.Sound moment → logic.Sound moment.tick
  perform : ∀ moment command draw, logic.Sound moment → logic.Issue moment command →
    let outcome := env.perform moment.now moment.shared command draw
    moment.shared ≤ outcome.1 ∧
      logic.Answer moment ⟨moment.now + 1, outcome.1, moment.memory⟩ command outcome.2 ∧
        ∀ memory, logic.Sound { moment with memory := memory } →
          logic.Sound ⟨moment.now + 1, outcome.1, memory⟩
  change : ∀ moment cause, calm moment.shared cause → logic.Sound moment →
    moment.shared ≤ env.change moment.now moment.shared cause ∧
      logic.Sound ⟨moment.now + 1, env.change moment.now moment.shared cause, moment.memory⟩

variable {env : Processes P Q L K C R E X α S} {logic : Coroutine.Logic L S C R}
  {calm : S → X → Prop} {initial : S → L → Prop} {post : Q → Instant L S → Instant L S → α → Prop}

def Phase.Sane (logic : Coroutine.Logic L S C R)
    (post : Q → Instant L S → Instant L S → α → Prop) (request : Q) (start moment : Instant L S) :
    Phase L K C R α → Prop
  | .suspended program => program.suspended = true ∧
      program.Meets logic start.now (Ends logic post request start) moment
  | .answered command reply next => ∀ later, moment ≤ later → logic.Sound later →
      logic.Deliver later command reply →
        (next reply).Meets logic start.now (Ends logic post request start) later
  | .ended => True

/-- The call had returned when the other one began. -/
def Returned.Precedes (env : Processes P Q L K C R E X α S) (call : Returned Q L α S)
    (request : Q) (start : Instant L S) : Prop :=
  call.stop.shared ≤ start.shared ∧
    (env.process call.request = env.process request → call.stop ≤ start)

structure Returned.Sane (env : Processes P Q L K C R E X α S)
    (post : Q → Instant L S → Instant L S → α → Prop)
    (world : World P Q L K C R α S) (call : Returned Q L α S) : Prop where
  lasts : call.start ≤ call.stop
  past : call.stop ≤ world.moment (env.process call.request)
  ends : post call.request call.start call.stop call.value

structure World.Sane (env : Processes P Q L K C R E X α S) (logic : Coroutine.Logic L S C R)
    (post : Q → Instant L S → Instant L S → α → Prop) (world : World P Q L K C R α S) : Prop where
  sound : ∀ process, logic.Sound (world.moment process)
  threads : ∀ thread ∈ world.threads,
    thread.start ≤ world.moment (env.process thread.request) ∧
      thread.phase.Sane logic post thread.request thread.start
        (world.moment (env.process thread.request))
  calls : ∀ call ∈ world.calls, call.Sane env post world
  before_thread : ∀ call ∈ world.calls, ∀ thread ∈ world.threads,
    call.stop.now ≤ thread.start.now → call.Precedes env thread.request thread.start
  before_call : ∀ call ∈ world.calls, ∀ other ∈ world.calls,
    call.stop.now ≤ other.start.now → call.Precedes env other.request other.start

/-- Time has passed for every process. -/
def World.Later (world after : World P Q L K C R α S) : Prop :=
  ∀ process, world.moment process ≤ after.moment process

theorem Phase.Sane.later (hvalid : env.Valid logic calm initial post) {request : Q}
    {start moment later : Instant L S} {phase : Phase L K C R α}
    (hphase : phase.Sane logic post request start moment) (hlater : moment ≤ later)
    (hsound : logic.Sound later) : phase.Sane logic post request start later := by
  cases phase with
  | suspended program =>
      refine ⟨hphase.1, hphase.2.later hvalid.issue_later hvalid.answer_earlier ?_ hlater
        hsound hphase.1⟩
      intro first second value hle hthen hends
      exact ⟨hthen, hvalid.post_later _ _ _ _ _ hle hthen hends.2⟩
  | answered command reply next =>
      intro last hlast
      exact hphase last (hlater.trans hlast)
  | ended => trivial

theorem Returned.Sane.later {world after : World P Q L K C R α S} {call : Returned Q L α S}
    (hcall : call.Sane env post world) (hlater : world.Later after) :
    call.Sane env post after where
  lasts := hcall.lasts
  past := hcall.past.trans (hlater _)
  ends := hcall.ends

/-- The rest of the world may do anything that lets time pass. -/
theorem World.Sane.later (hvalid : env.Valid logic calm initial post)
    {world after : World P Q L K C R α S} (hworld : world.Sane env logic post)
    (hlater : world.Later after) (hsound : ∀ process, logic.Sound (after.moment process))
    (hthreads : after.threads = world.threads) (hcalls : after.calls = world.calls) :
    after.Sane env logic post where
  sound := hsound
  threads := by
    intro thread hthread
    rw [hthreads] at hthread
    obtain ⟨hstart, hphase⟩ := hworld.threads thread hthread
    exact ⟨hstart.trans (hlater _), hphase.later hvalid (hlater _) (hsound _)⟩
  calls := by
    intro call hcall
    rw [hcalls] at hcall
    exact (hworld.calls call hcall).later hlater
  before_thread := by
    rw [hcalls, hthreads]
    exact hworld.before_thread
  before_call := by
    rw [hcalls]
    exact hworld.before_call

/-- One thread may move on, as long as it keeps to its request. -/
theorem World.Sane.set {world : World P Q L K C R α S} (hworld : world.Sane env logic post)
    {i : ℕ} {thread moved : Thread Q L K C R α S} (hthread : world.threads[i]? = some thread)
    (hrequest : moved.request = thread.request) (hstart : moved.start = thread.start)
    (hphase : moved.phase.Sane logic post thread.request thread.start
      (world.moment (env.process thread.request))) :
    World.Sane env logic post { world with threads := world.threads.set i moved } where
  sound := hworld.sound
  threads := by
    intro other hother
    rcases List.mem_or_eq_of_mem_set hother with hold | rfl
    · exact hworld.threads other hold
    · rw [hrequest, hstart]
      exact ⟨(hworld.threads thread (List.mem_of_getElem? hthread)).1, hphase⟩
  calls call hcall :=
    ⟨(hworld.calls call hcall).lasts, (hworld.calls call hcall).past,
      (hworld.calls call hcall).ends⟩
  before_thread := by
    intro call hcall other hother
    rcases List.mem_or_eq_of_mem_set hother with hold | rfl
    · exact hworld.before_thread call hcall other hold
    · rw [hrequest, hstart]
      exact hworld.before_thread call hcall thread (List.mem_of_getElem? hthread)
  before_call := hworld.before_call

/-- A process notes something, which takes one tick. -/
theorem World.Sane.remember [DecidableEq P] (hvalid : env.Valid logic calm initial post)
    {world : World P Q L K C R α S} (hworld : world.Sane env logic post) {process : P}
    {memory : L} (hmemory : world.memories process ≤ memory)
    (hsound : logic.Sound ⟨world.now + 1, world.shared, memory⟩) :
    World.Sane env logic post { world with
      now := world.now + 1, memories := Function.update world.memories process memory } := by
  refine hworld.later hvalid ?_ ?_ rfl rfl
  · intro other
    refine ⟨Nat.le_succ _, le_refl _, ?_⟩
    by_cases hother : other = process
    · subst hother
      simpa [World.moment] using hmemory
    · simp [World.moment, Function.update_of_ne hother]
  · intro other
    by_cases hother : other = process
    · subst hother
      simpa [World.moment] using hsound
    · simpa [World.moment, Instant.tick, Function.update_of_ne hother] using
        hvalid.tick _ (hworld.sound other)

/-- A coroutine goes on until it waits again. -/
theorem World.Sane.run [DecidableEq P] [DecidableEq K] (hvalid : env.Valid logic calm initial post)
    {world : World P Q L K C R α S} (hworld : world.Sane env logic post) {i : ℕ}
    {thread : Thread Q L K C R α S} (hthread : world.threads[i]? = some thread)
    (held : List K) {program : Coroutine L K C R α}
    (hmeets : program.Meets logic thread.start.now (Ends logic post thread.request thread.start)
      (world.moment (env.process thread.request)).tick) :
    let ran := env.run world { thread with held := held }
      (world.memories (env.process thread.request)) program
    World.Sane env logic post { world with
      now := world.now + 1, memories := ran.2, threads := world.threads.set i ran.1 } := by
  obtain ⟨hlater, hsettled⟩ := hmeets.settle held
  have hsuspended := program.settle_suspended thread.start.now
    (world.memories (env.process thread.request)) held
  have hsound := hsettled.sound (fun _ _ hends => hends.1) hsuspended
  have hnoted := hworld.remember hvalid hlater.2.2 hsound
  refine hnoted.set hthread rfl rfl ⟨hsuspended, ?_⟩
  simpa [World.moment, Instant.tick] using hsettled

theorem World.Sane.begin [DecidableEq P] [DecidableEq K]
    (hvalid : env.Valid logic calm initial post)
    {world : World P Q L K C R α S} (hworld : world.Sane env logic post) {request : Q}
    {memory : L}
    (henter : env.enter request (world.memories (env.process request)) = some memory) :
    (env.begin world request memory).Sane env logic post := by
  obtain ⟨hnoted, hmeets⟩ := hvalid.program request (world.moment (env.process request)) memory
    (hworld.sound _) henter
  obtain ⟨hlater, hsettled⟩ := hmeets.settle []
  have hsuspended := (env.program request).settle_suspended world.now memory []
  have hsound := hvalid.tick _ (hsettled.sound (fun _ _ hends => hends.1) hsuspended)
  have hworld' := hworld.remember hvalid (hnoted.trans hlater.2.2) hsound
  have hticked := hsettled.later hvalid.issue_later hvalid.answer_earlier
    (fun first second value hle hthen hends =>
      ⟨hthen, hvalid.post_later _ _ _ _ _ hle hthen hends.2⟩)
    (Instant.le_tick _) hsound hsuspended
  exact
    { sound := hworld'.sound
      threads := by
        intro thread hthread
        rcases List.mem_append.mp hthread with hold | hnew
        · exact hworld'.threads thread hold
        · rw [List.mem_singleton.mp hnew]
          constructor
          · refine ⟨Nat.le_succ _, le_refl _, ?_⟩
            simpa [World.moment, Processes.begin, Processes.run] using hlater.2.2
          · refine ⟨hsuspended, ?_⟩
            simpa [World.moment, Processes.begin, Processes.run, Instant.tick] using hticked
      calls := fun call hcall =>
        ⟨(hworld'.calls call hcall).lasts, (hworld'.calls call hcall).past,
          (hworld'.calls call hcall).ends⟩
      before_thread := by
        intro call hcall thread hthread hbefore
        rcases List.mem_append.mp hthread with hold | hnew
        · exact hworld'.before_thread call hcall thread hold hbefore
        · rw [List.mem_singleton.mp hnew]
          have hpast := (hworld.calls call hcall).past
          refine ⟨hpast.2.1, fun hsame => ?_⟩
          rw [hsame] at hpast
          exact ⟨hpast.1, hpast.2.1, hpast.2.2.trans hnoted⟩
      before_call := hworld'.before_call }

theorem World.Sane.finish (hvalid : env.Valid logic calm initial post)
    {world : World P Q L K C R α S} (hworld : world.Sane env logic post) {i : ℕ}
    {thread : Thread Q L K C R α S} (hthread : world.threads[i]? = some thread) {value : α}
    (hphase : thread.phase = .suspended (.done value)) :
    World.Sane env logic post { world with
      now := world.now + 1
      threads := world.threads.set i { thread with held := [], phase := .ended }
      calls := world.calls ++ [⟨thread.request, thread.start,
        (world.moment (env.process thread.request)).tick, value⟩] } := by
  obtain ⟨hstart, hsane⟩ := hworld.threads thread (List.mem_of_getElem? hthread)
  rw [hphase] at hsane
  have htick : ∀ process, logic.Sound (world.moment process).tick :=
    fun process => hvalid.tick _ (hworld.sound process)
  have hticked : World.Sane env logic post { world with now := world.now + 1 } :=
    hworld.later hvalid (fun process => (world.moment process).le_tick) htick rfl rfl
  have hset : World.Sane env logic post { world with
      now := world.now + 1
      threads := world.threads.set i { thread with held := [], phase := .ended } } :=
    hticked.set hthread rfl rfl trivial
  have hpost := hvalid.post_later thread.request thread.start _ _ value
    (Instant.le_tick _) (htick _) hsane.2.2
  -- nothing has begun after the new entry of the history
  have hlast : ∀ start : Instant L S, start.now ≤ world.now → ¬ world.now + 1 ≤ start.now := by
    intro start hle hge
    omega
  have hbegan : ∀ other ∈ world.threads, other.start.now ≤ world.now := fun other hother =>
    (hworld.threads other hother).1.1
  exact
    { sound := hset.sound
      threads := hset.threads
      calls := by
        intro call hcall
        rcases List.mem_append.mp hcall with hold | hnew
        · exact ⟨(hset.calls call hold).lasts, (hset.calls call hold).past,
            (hset.calls call hold).ends⟩
        · rw [List.mem_singleton.mp hnew]
          exact ⟨⟨hstart.1.trans (Nat.le_succ _), hstart.2⟩, le_refl _, hpost⟩
      before_thread := by
        intro call hcall other hother hbefore
        rcases List.mem_append.mp hcall with hold | hnew
        · exact hset.before_thread call hold other hother hbefore
        · rw [List.mem_singleton.mp hnew] at hbefore
          refine absurd hbefore (hlast _ ?_)
          rcases List.mem_or_eq_of_mem_set hother with hold | rfl
          · exact hbegan other hold
          · exact hbegan thread (List.mem_of_getElem? hthread)
      before_call := by
        intro call hcall other hother hbefore
        have hother' : other.start.now ≤ world.now := by
          rcases List.mem_append.mp hother with hold | hnew
          · have hcalls := hworld.calls other hold
            exact (hcalls.lasts.trans hcalls.past).1
          · rw [List.mem_singleton.mp hnew]
            exact hbegan thread (List.mem_of_getElem? hthread)
        rcases List.mem_append.mp hcall with hold | hnew
        · rcases List.mem_append.mp hother with hearlier | hnew
          · exact hset.before_call call hold other hearlier hbefore
          · rw [List.mem_singleton.mp hnew] at hbefore ⊢
            exact hworld.before_thread call hold thread (List.mem_of_getElem? hthread) hbefore
        · rw [List.mem_singleton.mp hnew] at hbefore
          exact absurd hbefore (hlast _ hother') }

/-- A command is carried out. -/
theorem World.Sane.perform (hvalid : env.Valid logic calm initial post)
    {world : World P Q L K C R α S} (hworld : world.Sane env logic post) {i : ℕ}
    {thread : Thread Q L K C R α S} (hthread : world.threads[i]? = some thread) {command : C}
    {next : R command → Coroutine L K C R α}
    (hphase : thread.phase = .suspended (.await command next)) (draw : E) :
    World.Sane env logic post { world with
      now := world.now + 1
      shared := (env.perform world.now world.shared command draw).1
      threads := world.threads.set i { thread with
        phase :=
          .answered command (env.perform world.now world.shared command draw).2 next } } := by
  obtain ⟨-, hsane⟩ := hworld.threads thread (List.mem_of_getElem? hthread)
  rw [hphase] at hsane
  obtain ⟨-, -, hissue, hreply⟩ := hsane
  have hperform := fun process hmay =>
    hvalid.perform (world.moment process) command draw (hworld.sound process) hmay
  obtain ⟨hshared, hanswer, hsound⟩ := hperform _ hissue
  have hlater : world.Later { world with
      now := world.now + 1
      shared := (env.perform world.now world.shared command draw).1 } :=
    fun process => ⟨Nat.le_succ _, hshared, le_refl _⟩
  have hafter := hworld.later hvalid hlater
    (fun process => hsound (world.memories process) (hworld.sound process)) rfl rfl
  refine hafter.set hthread rfl rfl ?_
  intro later hle hthen hdeliver
  exact hreply _ later _ (hlater _) hle hanswer hthen hdeliver

/-- Every step keeps it. -/
theorem step_sane [DecidableEq P] [DecidableEq K] (hvalid : env.Valid logic calm initial post)
    {world after : World P Q L K C R α S} {action : Action Q E X}
    (hworld : world.Sane env logic post) (hkeeps : Keeps env logic calm world action)
    (hstep : env.step world action = some after) : after.Sane env logic post := by
  have htick : ∀ process, logic.Sound (world.moment process).tick :=
    fun process => hvalid.tick _ (hworld.sound process)
  cases action with
  | start request =>
      simp only [step, Option.map_eq_some_iff] at hstep
      obtain ⟨memory, henter, rfl⟩ := hstep
      exact hworld.begin hvalid henter
  | acquire i =>
      simp only [step] at hstep
      split at hstep
      · cases hstep
      · rename_i thread hthread
        split at hstep
        · rename_i lock next hphase
          split at hstep
          · simp only [Option.some.injEq] at hstep
            subst hstep
            obtain ⟨-, hsane⟩ := hworld.threads thread (List.mem_of_getElem? hthread)
            rw [hphase] at hsane
            exact hworld.run hvalid hthread _ (hsane.2.2 _ (Instant.le_tick _) (htick _))
          · cases hstep
        · cases hstep
  | perform i draw =>
      simp only [step] at hstep
      split at hstep
      · cases hstep
      · rename_i thread hthread
        split at hstep
        · rename_i command next hphase
          simp only [Option.some.injEq] at hstep
          subst hstep
          exact hworld.perform hvalid hthread hphase draw
        · cases hstep
  | resume i =>
      simp only [step] at hstep
      split at hstep
      · cases hstep
      · rename_i thread hthread
        split at hstep
        · rename_i command reply next hphase
          simp only [Option.some.injEq] at hstep
          subst hstep
          obtain ⟨-, hsane⟩ := hworld.threads thread (List.mem_of_getElem? hthread)
          rw [hphase] at hsane
          exact hworld.run hvalid hthread thread.held (hsane _ (Instant.le_tick _) (htick _)
            (hkeeps thread command reply next hthread hphase))
        · cases hstep
  | finish i =>
      simp only [step] at hstep
      split at hstep
      · cases hstep
      · rename_i thread hthread
        split at hstep
        · rename_i value hphase
          simp only [Option.some.injEq] at hstep
          subst hstep
          exact hworld.finish hvalid hthread hphase
        · cases hstep
  | abandon i =>
      simp only [step] at hstep
      split at hstep
      · cases hstep
      · rename_i thread hthread
        split at hstep
        · cases hstep
        · simp only [Option.some.injEq] at hstep
          subst hstep
          obtain ⟨hnoted, hsound⟩ := hvalid.leave thread.request
            (world.moment (env.process thread.request)) (hworld.sound _)
          exact (hworld.remember hvalid hnoted (hvalid.tick _ hsound)).set hthread rfl rfl trivial
  | change cause =>
      simp only [step, Option.some.injEq] at hstep
      subst hstep
      have hchange := fun process => hvalid.change (world.moment process) cause hkeeps
        (hworld.sound process)
      exact hworld.later hvalid (fun process => ⟨Nat.le_succ _, (hchange process).1, le_refl _⟩)
        (fun process => (hchange process).2) rfl rfl

/-- Every call of every run ends as its program was proved to. -/
theorem reachable_sane [DecidableEq P] [DecidableEq K] (hvalid : env.Valid logic calm initial post)
    {world : World P Q L K C R α S}
    (hreach : (env.machine initial).ReachableUnder (Keeps env logic calm) world) :
    world.Sane env logic post := by
  induction hreach with
  | start hinitial =>
      obtain ⟨hmemories, hthreads, hcalls⟩ := hinitial
      exact
        { sound := fun process => hvalid.begins _ _ _ (hmemories process)
          threads := by simp [hthreads]
          calls := by simp [hcalls]
          before_thread := by simp [hthreads]
          before_call := by simp [hcalls] }
  | next hbefore hkeeps hstep ih => exact step_sane hvalid ih hkeeps hstep

end Soundness

end Processes

end LibrarySystem
