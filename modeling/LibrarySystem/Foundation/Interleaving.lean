import LibrarySystem.Foundation.Run

/-!
# Any number of programs over one state

Requests start at any time and their programs take turns: a look at the shared
state, a lock, a commit that takes effect or is refused.  A program may be cut off
at any point, also between its commit and its answer, and the rest of the world may
change the state in ways a run is restricted to.

The two results are that every program stays within its specification, whatever the
others do, and an invariant rule: an invariant of the shared state that every
specified batch keeps holds in every reachable world, where a batch may also rely
on what its program saw under a lock it still holds.
-/

namespace LibrarySystem

/-- What the programs run in; `outage` is a refusal that has nothing to do with the
state. -/
structure Surroundings (Q D L B R ε α S E : Type) where
  program : Q → Run D L B R ε α
  look : S → E → D
  apply : B → S → Except R S
  outage : R

namespace Interleaving

open Run (Spec Knowledge Meets)

/-- `rest` is `none` when the program was cut off. -/
structure Thread (Q D L B R ε α : Type) where
  request : Q
  rest : Option (Run D L B R ε α)
  knowledge : Knowledge D L
  committed : Bool

/-- A batch that took effect, the states around it, and what its program went on
with. -/
structure Entry (Q D L B R ε α S : Type) where
  request : Q
  batch : B
  before : S
  after : S
  rest : Run D L B R ε α

/-- `log` and `past` are histories: the batches that took effect, and the states so
far. -/
structure World (Q D L B R ε α S : Type) where
  shared : S
  threads : List (Thread Q D L B R ε α)
  log : List (Entry Q D L B R ε α S)
  past : Set S

inductive Action (Q S E : Type)
  | start (request : Q)
  | observe (thread : ℕ) (draw : E)
  | acquire (thread : ℕ)
  | commit (thread : ℕ) (acknowledged : Bool)
  | refuse (thread : ℕ)
  | abandon (thread : ℕ)
  | change (after : S)

variable {Q D L B R ε α S E : Type}

/-- The locks of a thread; they are gone when its program has ended. -/
def Thread.locks (thread : Thread Q D L B R ε α) : List L :=
  match thread.rest with
  | some (.observe _) | some (.acquire _ _) | some (.commit _ _) => thread.knowledge.held
  | _ => []

def Thread.begin (env : Surroundings Q D L B R ε α S E) (request : Q) :
    Thread Q D L B R ε α :=
  ⟨request, some (env.program request), .nothing, false⟩

namespace World

def put (world : World Q D L B R ε α S) (i : ℕ) (thread : Thread Q D L B R ε α) :
    World Q D L B R ε α S :=
  { world with threads := world.threads.set i thread }

/-- No other thread has the lock. -/
def free [DecidableEq L] (world : World Q D L B R ε α S) (i : ℕ) (lock : L) : Bool :=
  (List.range world.threads.length).all fun j =>
    j == i || world.threads[j]?.all fun other => !other.locks.contains lock

theorem free_iff [DecidableEq L] (world : World Q D L B R ε α S) (i : ℕ) (lock : L) :
    world.free i lock = true ↔
      ∀ j other, world.threads[j]? = some other → j ≠ i → lock ∉ other.locks := by
  simp only [free, List.all_eq_true, List.mem_range, Bool.or_eq_true, beq_iff_eq,
    Option.all_eq_true, Bool.not_eq_true', List.contains_eq_mem, decide_eq_false_iff_not]
  constructor
  · intro hfree j other hother hne
    obtain ⟨hlt, -⟩ := List.getElem?_eq_some_iff.mp hother
    exact (hfree j hlt).resolve_left hne other hother
  · intro hfree j _
    by_cases hne : j = i
    · exact Or.inl hne
    · exact Or.inr fun other hother => hfree j other hother hne

/-- A batch takes effect. -/
def land (world : World Q D L B R ε α S) (i : ℕ) (thread : Thread Q D L B R ε α)
    (batch : B) (rest : Run D L B R ε α) (acknowledged : Bool) (after : S) :
    World Q D L B R ε α S :=
  { shared := after
    threads := world.threads.set i
      { thread with rest := if acknowledged then some rest else none, committed := true }
    log := world.log ++ [⟨thread.request, batch, world.shared, after, rest⟩]
    past := insert after world.past }

def step [DecidableEq L] (env : Surroundings Q D L B R ε α S E)
    (world : World Q D L B R ε α S) : Action Q S E → Option (World Q D L B R ε α S)
  | .start request =>
      some { world with threads := world.threads ++ [Thread.begin env request] }
  | .observe i draw =>
      match world.threads[i]? with
      | none => none
      | some thread =>
          match thread.rest with
          | some (.observe next) =>
              let seen := env.look world.shared draw
              some (world.put i { thread with
                rest := some (next seen), knowledge := thread.knowledge.look seen })
          | _ => none
  | .acquire i =>
      match world.threads[i]? with
      | none => none
      | some thread =>
          match thread.rest with
          | some (.acquire lock next) =>
              if world.free i lock then
                some (world.put i { thread with
                  rest := some next, knowledge := thread.knowledge.take lock })
              else none
          | _ => none
  | .commit i acknowledged =>
      match world.threads[i]? with
      | none => none
      | some thread =>
          match thread.rest with
          | some (.commit batch next) =>
              match env.apply batch world.shared with
              | .ok after =>
                  some (world.land i thread batch (next none) acknowledged after)
              | .error refusal =>
                  some (world.put i { thread with
                    rest := some (next (some refusal))
                    knowledge := thread.knowledge.settle })
          | _ => none
  | .refuse i =>
      match world.threads[i]? with
      | none => none
      | some thread =>
          match thread.rest with
          | some (.commit _ next) =>
              some (world.put i { thread with
                rest := some (next (some env.outage))
                knowledge := thread.knowledge.settle })
          | _ => none
  | .abandon i =>
      match world.threads[i]? with
      | none => none
      | some thread => some (world.put i { thread with rest := none })
  | .change after => some { world with shared := after, past := insert after world.past }

end World

/-- The machine of the interleavings that begin in one of the `start` states. -/
def machine [DecidableEq L] (env : Surroundings Q D L B R ε α S E) (start : S → Prop) :
    Machine (World Q D L B R ε α S) (Action Q S E) where
  initial world := start world.shared ∧ world.threads = [] ∧ world.log = [] ∧
    world.past = {world.shared}
  step := World.step env

/-- What a run is restricted to: the requests that may start in a state, and the
changes the rest of the world may make. -/
def Allowed (admissible : S → Q → Prop) (changes : S → S → Prop)
    (world : World Q D L B R ε α S) : Action Q S E → Prop
  | .start request => admissible world.shared request
  | .change after => changes world.shared after
  | _ => True

theorem Allowed.imp {admissible more : S → Q → Prop} {changes : S → S → Prop}
    {world : World Q D L B R ε α S} {action : Action Q S E}
    (hallowed : Allowed admissible changes world action)
    (hmore : ∀ state request, admissible state request → more state request) :
    Allowed more changes world action := by
  cases action with
  | start request => exact hmore _ _ hallowed
  | change after => exact hallowed
  | _ => trivial

/-! ## What a step does -/

/-- The steps of one thread that leave the shared state alone. -/
inductive Advance [DecidableEq L] (env : Surroundings Q D L B R ε α S E)
    (world : World Q D L B R ε α S) (i : ℕ) (thread : Thread Q D L B R ε α) :
    Thread Q D L B R ε α → Prop
  | observe (next : D → Run D L B R ε α) (draw : E)
      (hrest : thread.rest = some (.observe next)) :
      Advance env world i thread
        { thread with
          rest := some (next (env.look world.shared draw))
          knowledge := thread.knowledge.look (env.look world.shared draw) }
  | acquire (lock : L) (next : Run D L B R ε α)
      (hrest : thread.rest = some (.acquire lock next))
      (hfree : world.free i lock = true) :
      Advance env world i thread
        { thread with rest := some next, knowledge := thread.knowledge.take lock }
  | refused (batch : B) (next : Option R → Run D L B R ε α) (refusal : R)
      (hrest : thread.rest = some (.commit batch next)) :
      Advance env world i thread
        { thread with
          rest := some (next (some refusal)), knowledge := thread.knowledge.settle }
  | abandon : Advance env world i thread { thread with rest := none }

section Steps

variable [DecidableEq L] {env : Surroundings Q D L B R ε α S E}
  {world after : World Q D L B R ε α S} {action : Action Q S E}

theorem step_cases (hstep : world.step env action = some after) :
    (∃ request, action = .start request ∧
      after = { world with threads := world.threads ++ [Thread.begin env request] }) ∨
    (∃ i thread moved, world.threads[i]? = some thread ∧
      Advance env world i thread moved ∧ after = world.put i moved) ∨
    (∃ i thread batch next acknowledged state, world.threads[i]? = some thread ∧
      thread.rest = some (.commit batch next) ∧
      env.apply batch world.shared = .ok state ∧
      after = world.land i thread batch (next none) acknowledged state) ∨
    (∃ state, action = .change state ∧
      after = { world with shared := state, past := insert state world.past }) := by
  cases action with
  | start request =>
      simp only [World.step, Option.some.injEq] at hstep
      exact Or.inl ⟨request, rfl, hstep.symm⟩
  | observe i draw =>
      simp only [World.step] at hstep
      split at hstep
      · cases hstep
      · rename_i thread hthread
        split at hstep
        · rename_i next hrest
          simp only [Option.some.injEq] at hstep
          exact Or.inr (Or.inl ⟨i, thread, _, hthread, .observe next draw hrest, hstep.symm⟩)
        · cases hstep
  | acquire i =>
      simp only [World.step] at hstep
      split at hstep
      · cases hstep
      · rename_i thread hthread
        split at hstep
        · rename_i lock next hrest
          split at hstep
          · rename_i hfree
            simp only [Option.some.injEq] at hstep
            exact Or.inr (Or.inl
              ⟨i, thread, _, hthread, .acquire lock next hrest hfree, hstep.symm⟩)
          · cases hstep
        · cases hstep
  | commit i acknowledged =>
      simp only [World.step] at hstep
      split at hstep
      · cases hstep
      · rename_i thread hthread
        split at hstep
        · rename_i batch next hrest
          split at hstep
          · rename_i state happly
            simp only [Option.some.injEq] at hstep
            exact Or.inr (Or.inr (Or.inl
              ⟨i, thread, batch, next, acknowledged, state, hthread, hrest, happly,
                hstep.symm⟩))
          · rename_i refusal happly
            simp only [Option.some.injEq] at hstep
            exact Or.inr (Or.inl
              ⟨i, thread, _, hthread, .refused batch next refusal hrest, hstep.symm⟩)
        · cases hstep
  | refuse i =>
      simp only [World.step] at hstep
      split at hstep
      · cases hstep
      · rename_i thread hthread
        split at hstep
        · rename_i batch next hrest
          simp only [Option.some.injEq] at hstep
          exact Or.inr (Or.inl
            ⟨i, thread, _, hthread, .refused batch next env.outage hrest, hstep.symm⟩)
        · cases hstep
  | abandon i =>
      simp only [World.step] at hstep
      split at hstep
      · cases hstep
      · rename_i thread hthread
        simp only [Option.some.injEq] at hstep
        exact Or.inr (Or.inl ⟨i, thread, _, hthread, .abandon, hstep.symm⟩)
  | change state =>
      simp only [World.step, Option.some.injEq] at hstep
      exact Or.inr (Or.inr (Or.inr ⟨state, rfl, hstep.symm⟩))

end Steps

/-! ## Every program stays within its specification -/

/-- Everything seen was the state at some time. -/
def Viewed (env : Surroundings Q D L B R ε α S E) (past : Set S)
    (knowledge : Knowledge D L) : Prop :=
  ∀ observation ∈ knowledge.seen, ∃ view ∈ past, ∃ draw, observation = env.look view draw

theorem Viewed.mono {env : Surroundings Q D L B R ε α S E} {past more : Set S}
    {knowledge : Knowledge D L} (hviewed : Viewed env past knowledge)
    (hpast : past ⊆ more) : Viewed env more knowledge := by
  intro observation hseen
  obtain ⟨view, hview, draw, heq⟩ := hviewed observation hseen
  exact ⟨view, hpast hview, draw, heq⟩

/-- An entry of the log goes with the result of its program. -/
def Entry.Justified (env : Surroundings Q D L B R ε α S E)
    (spec : Q → Spec D L B ε α) (admissible : S → Q → Prop) (past : Set S)
    (entry : Entry Q D L B R ε α S) : Prop :=
  (∃ view ∈ past, admissible view entry.request) ∧
    ∃ value, entry.rest = .pure value ∧ ∃ knowledge, Viewed env past knowledge ∧
      (spec entry.request).commits knowledge entry.batch value

structure Thread.Sane (env : Surroundings Q D L B R ε α S E)
    (spec : Q → Spec D L B ε α) (admissible : S → Q → Prop)
    (log : List (Entry Q D L B R ε α S)) (past : Set S)
    (thread : Thread Q D L B R ε α) : Prop where
  admitted : ∃ view ∈ past, admissible view thread.request
  viewed : Viewed env past thread.knowledge
  since_seen : ∀ lock, thread.knowledge.since lock ⊆ thread.knowledge.seen
  running : thread.committed = false → ∀ run, thread.rest = some run →
    run.Meets (spec thread.request) thread.knowledge
  settled : thread.committed = true → thread.rest = none ∨
    ∃ entry ∈ log, entry.request = thread.request ∧ thread.rest = some entry.rest

structure World.Sane (env : Surroundings Q D L B R ε α S E)
    (spec : Q → Spec D L B ε α) (admissible : S → Q → Prop)
    (world : World Q D L B R ε α S) : Prop where
  shared_mem : world.shared ∈ world.past
  threads : ∀ thread ∈ world.threads,
    thread.Sane env spec admissible world.log world.past
  log : ∀ entry ∈ world.log, entry.Justified env spec admissible world.past
  exclusive : ∀ (i j : ℕ) (first second : Thread Q D L B R ε α) (lock : L),
    world.threads[i]? = some first → world.threads[j]? = some second → i ≠ j →
      lock ∈ first.locks → lock ∉ second.locks

section Sane

variable {env : Surroundings Q D L B R ε α S E} {spec : Q → Spec D L B ε α}
  {admissible : S → Q → Prop}

theorem Entry.Justified.mono {past more : Set S} {entry : Entry Q D L B R ε α S}
    (hentry : entry.Justified env spec admissible past) (hpast : past ⊆ more) :
    entry.Justified env spec admissible more := by
  obtain ⟨⟨view, hview, hadmissible⟩, value, hrest, knowledge, hviewed, hcommits⟩ := hentry
  exact ⟨⟨view, hpast hview, hadmissible⟩, value, hrest, knowledge, hviewed.mono hpast,
    hcommits⟩

theorem Thread.Sane.mono {log more : List (Entry Q D L B R ε α S)} {past future : Set S}
    {thread : Thread Q D L B R ε α}
    (hthread : thread.Sane env spec admissible log past) (hlog : log ⊆ more)
    (hpast : past ⊆ future) : thread.Sane env spec admissible more future where
  admitted := by
    obtain ⟨view, hview, hadmissible⟩ := hthread.admitted
    exact ⟨view, hpast hview, hadmissible⟩
  viewed := hthread.viewed.mono hpast
  since_seen := hthread.since_seen
  running := hthread.running
  settled hcommitted := (hthread.settled hcommitted).imp_right
    fun ⟨entry, hentry, hsame⟩ => ⟨entry, hlog hentry, hsame⟩

theorem Thread.begin_sane {log : List (Entry Q D L B R ε α S)} {past : Set S}
    {request : Q} (hprogram : (env.program request).Meets (spec request) .nothing)
    (hadmitted : ∃ view ∈ past, admissible view request) :
    (Thread.begin env request).Sane env spec admissible log past where
  admitted := hadmitted
  viewed observation hseen := absurd hseen (Set.notMem_empty _)
  since_seen _ := Set.empty_subset _
  running _ run hrun := by
    simp only [Thread.begin, Option.some.injEq] at hrun
    subst run
    exact hprogram
  settled hcommitted := by cases hcommitted

variable [DecidableEq L]

/-- Only a thread that waits for it takes a new lock. -/
theorem Advance.locks {world : World Q D L B R ε α S} {i : ℕ}
    {thread moved : Thread Q D L B R ε α} (hmoves : Advance env world i thread moved)
    {lock : L} (hlock : lock ∈ moved.locks) :
    lock ∈ thread.locks ∨ world.free i lock = true := by
  cases hmoves with
  | observe next draw hrest =>
      left
      simp only [Thread.locks, hrest]
      simp only [Thread.locks, Knowledge.held_look] at hlock
      split at hlock
      · exact hlock
      · exact hlock
      · exact hlock
      · cases hlock
  | acquire taken next hrest hfree =>
      simp only [Thread.locks, Knowledge.held_take] at hlock
      have hheld : lock ∈ taken :: thread.knowledge.held := by
        split at hlock
        · exact hlock
        · exact hlock
        · exact hlock
        · cases hlock
      rcases List.mem_cons.mp hheld with rfl | hold
      · exact Or.inr hfree
      · left
        simp only [Thread.locks, hrest]
        exact hold
  | refused batch next refusal hrest =>
      simp only [Thread.locks, Knowledge.held_settle] at hlock
      split at hlock <;> cases hlock
  | abandon => cases hlock

omit [DecidableEq L] in
/-- A thread that goes on has not committed. -/
theorem Thread.Sane.uncommitted {log : List (Entry Q D L B R ε α S)} {past : Set S}
    {thread : Thread Q D L B R ε α}
    (hthread : thread.Sane env spec admissible log past)
    (hlog : ∀ entry ∈ log, entry.Justified env spec admissible past)
    {run : Run D L B R ε α} (hrest : thread.rest = some run)
    (hrun : ∀ value, run ≠ .pure value) : thread.committed = false := by
  by_contra hcommitted
  obtain hnone | ⟨entry, hentry, -, hsame⟩ :=
    hthread.settled (Bool.eq_true_of_not_eq_false hcommitted)
  · rw [hrest] at hnone
    cases hnone
  · obtain ⟨-, value, hpure, -⟩ := hlog entry hentry
    rw [hrest, hpure, Option.some.injEq] at hsame
    exact hrun value hsame

theorem Advance.sane {world : World Q D L B R ε α S} {i : ℕ}
    {thread moved : Thread Q D L B R ε α} (hmoves : Advance env world i thread moved)
    (hworld : world.Sane env spec admissible)
    (hthread : thread.Sane env spec admissible world.log world.past) :
    moved.Sane env spec admissible world.log world.past := by
  cases hmoves with
  | observe next draw hrest =>
      have hfalse := hthread.uncommitted hworld.log hrest fun _ h => (by cases h)
      refine ⟨hthread.admitted, ?_, ?_, ?_, ?_⟩
      · rintro observation (rfl | hseen)
        · exact ⟨world.shared, hworld.shared_mem, draw, rfl⟩
        · exact hthread.viewed observation hseen
      · intro lock
        exact Set.insert_subset_insert (hthread.since_seen lock)
      · intro hcommitted run hrun
        simp only [Option.some.injEq] at hrun
        subst run
        exact hthread.running hcommitted _ hrest _
      · exact fun hcommitted => absurd hcommitted (by simp [hfalse])
  | acquire taken next hrest hfree =>
      have hfalse := hthread.uncommitted hworld.log hrest fun _ h => (by cases h)
      refine ⟨hthread.admitted, hthread.viewed, ?_, ?_, ?_⟩
      · exact fun lock => (Set.sep_subset _ _).trans (hthread.since_seen lock)
      · intro hcommitted run hrun
        simp only [Option.some.injEq] at hrun
        subst run
        exact hthread.running hcommitted _ hrest
      · exact fun hcommitted => absurd hcommitted (by simp [hfalse])
  | refused batch next refusal hrest =>
      have hfalse := hthread.uncommitted hworld.log hrest fun _ h => (by cases h)
      refine ⟨hthread.admitted, hthread.viewed, hthread.since_seen, ?_, ?_⟩
      · intro hcommitted run hrun
        simp only [Option.some.injEq] at hrun
        subst run
        exact (hthread.running hcommitted _ hrest).2 refusal
      · exact fun hcommitted => absurd hcommitted (by simp [hfalse])
  | abandon =>
      exact ⟨hthread.admitted, hthread.viewed, hthread.since_seen,
        fun _ _ hrun => (by cases hrun), fun _ => Or.inl rfl⟩

/-- Setting one thread keeps the locks apart when the new one has only old locks or
free ones. -/
theorem exclusive_set {world : World Q D L B R ε α S} {i : ℕ}
    {thread moved : Thread Q D L B R ε α}
    (hworld : world.Sane env spec admissible) (hthread : world.threads[i]? = some thread)
    (hlocks : ∀ lock ∈ moved.locks, lock ∈ thread.locks ∨ world.free i lock = true)
    (m n : ℕ) (first second : Thread Q D L B R ε α) (lock : L)
    (hfirst : (world.threads.set i moved)[m]? = some first)
    (hsecond : (world.threads.set i moved)[n]? = some second) (hne : m ≠ n)
    (hlock : lock ∈ first.locks) : lock ∉ second.locks := by
  have hapart : ∀ k other, world.threads[k]? = some other → k ≠ i → lock ∈ moved.locks →
      lock ∉ other.locks := by
    intro k other hother hki hmoved
    rcases hlocks lock hmoved with hold | hfree
    · exact hworld.exclusive i k thread other lock hthread hother (Ne.symm hki) hold
    · exact (World.free_iff world i lock).mp hfree k other hother hki
  rw [List.getElem?_set] at hfirst hsecond
  by_cases him : i = m
  · subst m
    simp only [if_true, hne, if_false] at hfirst hsecond
    split at hfirst
    · cases hfirst
      exact hapart n second hsecond (Ne.symm hne) hlock
    · cases hfirst
  · simp only [him, if_false] at hfirst
    by_cases hin : i = n
    · subst n
      simp only [if_true] at hsecond
      split at hsecond
      · cases hsecond
        exact fun hmoved => hapart m first hfirst (Ne.symm him) hmoved hlock
      · cases hsecond
    · simp only [hin, if_false] at hsecond
      exact hworld.exclusive m n first second lock hfirst hsecond hne hlock

theorem World.Sane.put {world : World Q D L B R ε α S} {i : ℕ}
    {thread moved : Thread Q D L B R ε α} (hworld : world.Sane env spec admissible)
    (hthread : world.threads[i]? = some thread) (hmoves : Advance env world i thread moved) :
    (world.put i moved).Sane env spec admissible where
  shared_mem := hworld.shared_mem
  threads other hother := by
    rcases List.mem_or_eq_of_mem_set hother with hold | rfl
    · exact hworld.threads other hold
    · exact hmoves.sane hworld (hworld.threads thread (List.mem_of_getElem? hthread))
  log := hworld.log
  exclusive := exclusive_set hworld hthread fun _ => hmoves.locks

omit [DecidableEq L] in
theorem World.Sane.start {world : World Q D L B R ε α S} {request : Q}
    (hworld : world.Sane env spec admissible)
    (hprogram : (env.program request).Meets (spec request) .nothing)
    (hadmissible : admissible world.shared request) :
    World.Sane env spec admissible
      { world with threads := world.threads ++ [Thread.begin env request] } where
  shared_mem := hworld.shared_mem
  threads thread hthread := by
    rcases List.mem_append.mp hthread with hold | hnew
    · exact hworld.threads thread hold
    · rw [List.mem_singleton.mp hnew]
      exact Thread.begin_sane hprogram ⟨world.shared, hworld.shared_mem, hadmissible⟩
  log := hworld.log
  exclusive m n first second lock hfirst hsecond hne hlock := by
    have hnone : ∀ lock, lock ∉ (Thread.begin env request).locks := by
      intro lock hmem
      simp only [Thread.locks, Thread.begin, Knowledge.held_nothing] at hmem
      split at hmem <;> cases hmem
    have hsplit : ∀ {k : ℕ} {thread : Thread Q D L B R ε α},
        (world.threads ++ [Thread.begin env request])[k]? = some thread →
          world.threads[k]? = some thread ∨ thread = Thread.begin env request := by
      intro k thread hk
      rw [List.getElem?_append] at hk
      split at hk
      · exact Or.inl hk
      · exact Or.inr (List.mem_singleton.mp (List.mem_of_getElem? hk))
    rcases hsplit hfirst with hfirst | rfl
    · rcases hsplit hsecond with hsecond | rfl
      · exact hworld.exclusive m n first second lock hfirst hsecond hne hlock
      · exact hnone lock
    · exact absurd hlock (hnone lock)

theorem World.Sane.land {world : World Q D L B R ε α S} {i : ℕ}
    {thread : Thread Q D L B R ε α} {batch : B} {next : Option R → Run D L B R ε α}
    {acknowledged : Bool} {state : S} (hworld : world.Sane env spec admissible)
    (hthread : world.threads[i]? = some thread)
    (hrest : thread.rest = some (.commit batch next)) :
    (world.land i thread batch (next none) acknowledged state).Sane env spec
      admissible := by
  have hthreadSane := hworld.threads thread (List.mem_of_getElem? hthread)
  have hfalse := hthreadSane.uncommitted hworld.log hrest fun _ h => (by cases h)
  obtain ⟨⟨value, hvalue, hcommits⟩, -⟩ := hthreadSane.running hfalse _ hrest
  have hpast : world.past ⊆ insert state world.past := Set.subset_insert _ _
  have hlog : world.log ⊆ world.log ++ [⟨thread.request, batch, world.shared, state, next none⟩] :=
    List.subset_append_left _ _
  exact
    { shared_mem := Set.mem_insert _ _
      threads := by
        intro other hother
        rcases List.mem_or_eq_of_mem_set hother with hold | rfl
        · exact (hworld.threads other hold).mono hlog hpast
        · exact
            { admitted := (hthreadSane.mono hlog hpast).admitted
              viewed := hthreadSane.viewed.mono hpast
              since_seen := hthreadSane.since_seen
              running := fun hcommitted => by cases hcommitted
              settled := fun _ => by
                cases acknowledged with
                | false => exact Or.inl rfl
                | true =>
                    exact Or.inr ⟨_, List.mem_append_right _ (List.mem_singleton_self _),
                      rfl, rfl⟩ }
      log := by
        intro entry hentry
        rcases List.mem_append.mp hentry with hold | hnew
        · exact (hworld.log entry hold).mono hpast
        · rw [List.mem_singleton.mp hnew]
          exact ⟨(hthreadSane.mono hlog hpast).admitted, value, hvalue, thread.knowledge,
            hthreadSane.viewed.mono hpast, hcommits⟩
      exclusive := by
        refine exclusive_set hworld hthread fun lock hlock => ?_
        simp only [Thread.locks, hvalue] at hlock
        cases acknowledged <;> cases hlock }

omit [DecidableEq L] in
theorem World.Sane.change {world : World Q D L B R ε α S} {state : S}
    (hworld : world.Sane env spec admissible) :
    World.Sane env spec admissible
      { world with shared := state, past := insert state world.past } where
  shared_mem := Set.mem_insert _ _
  threads thread hthread :=
    (hworld.threads thread hthread).mono (List.Subset.refl _) (Set.subset_insert _ _)
  log entry hentry := (hworld.log entry hentry).mono (Set.subset_insert _ _)
  exclusive := hworld.exclusive

end Sane

section Runs

variable [DecidableEq L] {env : Surroundings Q D L B R ε α S E}
  {spec : Q → Spec D L B ε α} {start : S → Prop} {admissible : S → Q → Prop}
  {changes : S → S → Prop} {world : World Q D L B R ε α S}

/-- Whatever the others do, a program commits, returns and raises only what its
specification allows for what it has seen. -/
theorem reachable_sane
    (hprogram : ∀ state request, admissible state request →
      (env.program request).Meets (spec request) .nothing)
    (hreach : (machine env start).ReachableUnder (Allowed admissible changes) world) :
    world.Sane env spec admissible := by
  induction hreach with
  | start hinitial =>
      obtain ⟨-, hthreads, hlog, hpast⟩ := hinitial
      exact
        { shared_mem := by simp [hpast]
          threads := by simp [hthreads]
          log := by simp [hlog]
          exclusive := by simp [hthreads] }
  | next hbefore hallowed hstep ih =>
      rcases step_cases hstep with ⟨request, rfl, rfl⟩ | ⟨i, thread, moved, hthread, hmoves, rfl⟩ |
        ⟨i, thread, batch, next, acknowledged, state, hthread, hrest, -, rfl⟩ | ⟨state, -, rfl⟩
      · exact ih.start (hprogram _ request hallowed) hallowed
      · exact ih.put hthread hmoves
      · exact ih.land hthread hrest
      · exact ih.change

/-! ## Invariants of the shared state -/

/-- The obligations of the invariant rule.  `Stable lock observation state` says that
what was seen under the lock still holds; a batch keeps it for the locks of others,
and may use it for its own. -/
structure Keeps (env : Surroundings Q D L B R ε α S E) (spec : Q → Spec D L B ε α)
    (start : S → Prop) (admissible : S → Q → Prop) (changes : S → S → Prop)
    (Inv : Set S → List (Entry Q D L B R ε α S) → S → Prop) (Stable : L → D → S → Prop) :
    Prop where
  begins : ∀ state, start state → Inv {state} [] state
  look : ∀ lock state draw, Stable lock (env.look state draw) state
  commit : ∀ past log state, Inv past log state → state ∈ past →
    ∀ (entry : Entry Q D L B R ε α S) knowledge value after,
      entry.before = state → entry.after = after →
      (∃ view ∈ past, admissible view entry.request) → Viewed env past knowledge →
      (∀ lock ∈ knowledge.held, ∀ seen ∈ knowledge.since lock, Stable lock seen state) →
      (spec entry.request).commits knowledge entry.batch value →
      entry.rest = .pure value → env.apply entry.batch state = .ok after →
        Inv (insert after past) (log ++ [entry]) after ∧
          ∀ lock, lock ∉ knowledge.held → ∀ seen, Stable lock seen state →
            Stable lock seen after
  change : ∀ past log state after, Inv past log state → state ∈ past →
    changes state after →
      Inv (insert after past) log after ∧
        ∀ lock seen, Stable lock seen state → Stable lock seen after

def Held (Stable : L → D → S → Prop) (world : World Q D L B R ε α S) : Prop :=
  ∀ thread ∈ world.threads, ∀ lock ∈ thread.locks, ∀ seen ∈ thread.knowledge.since lock,
    Stable lock seen world.shared

theorem Held.put {Stable : L → D → S → Prop} {i : ℕ} {thread moved : Thread Q D L B R ε α}
    (hlook : ∀ lock state draw, Stable lock (env.look state draw) state)
    (hheld : Held Stable world) (hthread : world.threads[i]? = some thread)
    (hmoves : Advance env world i thread moved) : Held Stable (world.put i moved) := by
  intro other hother lock hlock seen hseen
  have hbefore := hheld thread (List.mem_of_getElem? hthread)
  rcases List.mem_or_eq_of_mem_set hother with hold | rfl
  · exact hheld other hold lock hlock seen hseen
  · cases hmoves with
    | observe next draw hrest =>
        have hold : lock ∈ thread.locks := by
          simp only [Thread.locks, Knowledge.held_look] at hlock
          simp only [Thread.locks, hrest]
          split at hlock
          · exact hlock
          · exact hlock
          · exact hlock
          · cases hlock
        rcases hseen with rfl | hseen
        · exact hlook lock world.shared draw
        · exact hbefore lock hold seen hseen
    | acquire taken next hrest hfree =>
        obtain ⟨hseen, hne⟩ := hseen
        have hold : lock ∈ thread.locks := by
          simp only [Thread.locks, Knowledge.held_take] at hlock
          simp only [Thread.locks, hrest]
          have hmem : lock ∈ taken :: thread.knowledge.held := by
            split at hlock
            · exact hlock
            · exact hlock
            · exact hlock
            · cases hlock
          exact List.mem_of_ne_of_mem hne hmem
        exact hbefore lock hold seen hseen
    | refused batch next refusal hrest =>
        simp only [Thread.locks, Knowledge.held_settle] at hlock
        split at hlock <;> cases hlock
    | abandon => cases hlock

/-- The invariant rule. -/
theorem reachable_keeps
    {Inv : Set S → List (Entry Q D L B R ε α S) → S → Prop} {Stable : L → D → S → Prop}
    (hkeeps : Keeps env spec start admissible changes Inv Stable)
    (hprogram : ∀ state request, admissible state request →
      (env.program request).Meets (spec request) .nothing)
    (hreach : (machine env start).ReachableUnder (Allowed admissible changes) world) :
    Inv world.past world.log world.shared ∧ Held Stable world := by
  induction hreach with
  | start hinitial =>
      obtain ⟨hstart, hthreads, hlog, hpast⟩ := hinitial
      rw [hpast, hlog]
      exact ⟨hkeeps.begins _ hstart, fun thread hthread => by simp [hthreads] at hthread⟩
  | @next before _ action hbefore hallowed hstep ih =>
      obtain ⟨hinv, hheld⟩ := ih
      have hsane := reachable_sane hprogram hbefore
      rcases step_cases hstep with ⟨request, rfl, rfl⟩ | ⟨i, thread, moved, hthread, hmoves, rfl⟩ |
        ⟨i, thread, batch, next, acknowledged, state, hthread, hrest, happly, rfl⟩ |
        ⟨state, rfl, rfl⟩
      · refine ⟨hinv, fun thread hthread lock hlock => ?_⟩
        rcases List.mem_append.mp hthread with hold | hnew
        · exact hheld thread hold lock hlock
        · rw [List.mem_singleton.mp hnew] at hlock
          simp only [Thread.locks, Thread.begin, Knowledge.held_nothing] at hlock
          split at hlock <;> cases hlock
      · exact ⟨hinv, hheld.put hkeeps.look hthread hmoves⟩
      · have hmem := List.mem_of_getElem? hthread
        have hthreadSane := hsane.threads thread hmem
        have hfalse := hthreadSane.uncommitted hsane.log hrest fun _ h => (by cases h)
        obtain ⟨⟨value, hvalue, hcommits⟩, -⟩ := hthreadSane.running hfalse _ hrest
        have hlocks : thread.locks = thread.knowledge.held := by
          simp only [Thread.locks, hrest]
        obtain ⟨hafter, hothers⟩ := hkeeps.commit _ _ _ hinv hsane.shared_mem
          ⟨thread.request, batch, before.shared, state, next none⟩ thread.knowledge value state
          rfl rfl hthreadSane.admitted hthreadSane.viewed
          (fun lock hlock => hheld thread hmem lock (hlocks ▸ hlock)) hcommits hvalue happly
        refine ⟨hafter, fun other hother lock hlock seen hseen => ?_⟩
        obtain ⟨j, hj⟩ := List.getElem?_of_mem hother
        simp only [World.land, List.getElem?_set] at hj
        split at hj
        · split at hj
          · cases hj
            simp only [Thread.locks, hvalue] at hlock
            cases acknowledged <;> cases hlock
          · cases hj
        · rename_i hij
          refine hothers lock (fun hmine => ?_) seen
            (hheld other (List.mem_of_getElem? hj) lock hlock seen hseen)
          exact hsane.exclusive i j thread other lock hthread hj hij (hlocks ▸ hmine) hlock
      · obtain ⟨hafter, hstable⟩ := hkeeps.change _ _ _ _ hinv hsane.shared_mem hallowed
        exact ⟨hafter, fun thread hthread lock hlock seen hseen =>
          hstable lock seen (hheld thread hthread lock hlock seen hseen)⟩

/-! ## Displayed runs -/

/-- The step is one of a request. -/
def Action.isOurs : Action Q S E → Bool
  | .change _ => false
  | _ => true

def Action.isChecked (check : S → Q → Bool) (state : S) : Action Q S E → Bool
  | .start request => check state request
  | .change _ => false
  | _ => true

/-- A displayed run of the requests alone is one of the runs. -/
theorem reachable_execute {after : World Q D L B R ε α S} {actions : List (Action Q S E)}
    (hadmissible : ∀ state request, admissible state request)
    (hreach : (machine env start).ReachableUnder (Allowed admissible changes) world)
    (hours : actions.all Action.isOurs = true)
    (hrun : (machine env start).execute world actions = some after) :
    (machine env start).ReachableUnder (Allowed admissible changes) after := by
  induction actions generalizing world with
  | nil =>
      cases hrun
      exact hreach
  | cons action rest ih =>
      simp only [List.all_cons, Bool.and_eq_true] at hours
      simp only [Machine.execute] at hrun
      cases hstep : (machine env start).step world action with
      | none => simp [hstep] at hrun
      | some middle =>
          simp only [hstep] at hrun
          refine ih (.next hreach ?_ hstep) hours.2 hrun
          cases action with
          | start request => exact hadmissible _ request
          | change state => cases hours.1
          | _ => trivial

/-- A displayed run of the requests alone, in which each is checked as it is let in. -/
def display (env : Surroundings Q D L B R ε α S E) (start : S → Prop) (check : S → Q → Bool)
    (world : World Q D L B R ε α S) : List (Action Q S E) → Option (World Q D L B R ε α S)
  | [] => some world
  | action :: rest =>
      if action.isChecked check world.shared then
        ((machine env start).step world action).bind fun after =>
          display env start check after rest
      else none

theorem reachable_display {check : S → Q → Bool} {after : World Q D L B R ε α S}
    {actions : List (Action Q S E)}
    (hcheck : ∀ state request, check state request = true → admissible state request)
    (hreach : (machine env start).ReachableUnder (Allowed admissible changes) world)
    (hrun : display env start check world actions = some after) :
    (machine env start).ReachableUnder (Allowed admissible changes) after := by
  induction actions generalizing world with
  | nil =>
      cases hrun
      exact hreach
  | cons action rest ih =>
      unfold display at hrun
      split at hrun
      · rename_i hallowed
        obtain ⟨middle, hstep, hrun⟩ := Option.bind_eq_some_iff.mp hrun
        refine ih (.next hreach ?_ hstep) hrun
        cases action with
        | start request => exact hcheck _ request hallowed
        | change state => cases hallowed
        | _ => trivial
      · cases hrun

end Runs

end Interleaving

end LibrarySystem
