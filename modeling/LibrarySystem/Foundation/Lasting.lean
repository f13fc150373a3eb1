import LibrarySystem.Foundation.Interleaving

/-!
# Facts that last

A program that was let in for a reason that no later step undoes acts only on states in
which the reason holds: whatever it looks at and whatever it commits to comes after its
start.  Programs without their locks have more interleavings: every run of the programs
with them is one of theirs, with the steps left out that take a lock.
-/

namespace LibrarySystem

namespace Run

variable {D L B R ε α : Type}

/-- The program without its locks. -/
def unfenced : Run D L B R ε α → Run D L B R ε α
  | .pure value => .pure value
  | .raise error => .raise error
  | .observe next => .observe fun seen => (next seen).unfenced
  | .acquire _ next => next.unfenced
  | .commit batch next => .commit batch fun refusal => (next refusal).unfenced

/-- What was seen, without the locks it was seen under. -/
def Knowledge.unfenced (known : Knowledge D L) : Knowledge D L :=
  ⟨known.seen, [], fun _ => known.seen⟩

/-- What a specification says of a program that saw the same under locks. -/
def Spec.unfenced (spec : Spec D L B ε α) : Spec D L B ε α where
  commits known batch value :=
    ∃ fenced : Knowledge D L, fenced.seen = known.seen ∧ spec.commits fenced batch value
  returns known value :=
    ∃ fenced : Knowledge D L, fenced.seen = known.seen ∧ spec.returns fenced value
  raises known error :=
    ∃ fenced : Knowledge D L, fenced.seen = known.seen ∧ spec.raises fenced error

theorem Meets.unfenced {spec : Spec D L B ε α} {run : Run D L B R ε α}
    {fenced known : Knowledge D L} (hrun : run.Meets spec fenced)
    (hseen : fenced.seen = known.seen) : run.unfenced.Meets spec.unfenced known := by
  induction run generalizing fenced known with
  | pure value => exact ⟨fenced, hseen, hrun⟩
  | raise error => exact ⟨fenced, hseen, hrun⟩
  | observe next ih =>
      intro observation
      apply ih observation (hrun observation)
      simp only [Knowledge.seen_look, hseen]
  | acquire lock next ih =>
      apply ih hrun
      simp only [Knowledge.seen_take, hseen]
  | commit batch next ih =>
      obtain ⟨⟨value, hnext, hcommits⟩, hrefused⟩ := hrun
      constructor
      · refine ⟨value, ?_, fenced, hseen, hcommits⟩
        simp only [hnext, Run.unfenced]
      · intro refusal
        apply ih (some refusal) (hrefused refusal)
        simp only [Knowledge.seen_settle, hseen]

/-- What was learned before holds wherever the program ends. -/
theorem Meets.remember {spec : Spec D L B ε α} {run : Run D L B R ε α}
    {known : Knowledge D L} {P : Set D → Prop}
    (hmono : ∀ seen more, seen ⊆ more → P seen → P more) (hrun : run.Meets spec known)
    (hP : P known.seen) :
    run.Meets
      { commits := fun later batch value => P later.seen ∧ spec.commits later batch value
        returns := fun later value => P later.seen ∧ spec.returns later value
        raises := fun later error => P later.seen ∧ spec.raises later error } known := by
  induction run generalizing known with
  | pure value => exact ⟨hP, hrun⟩
  | raise error => exact ⟨hP, hrun⟩
  | observe next ih =>
      intro observation
      apply ih observation (hrun observation)
      exact hmono _ _ (Set.subset_insert _ _) hP
  | acquire lock next ih => exact ih hrun hP
  | commit batch next ih =>
      obtain ⟨⟨value, hnext, hcommits⟩, hrefused⟩ := hrun
      exact ⟨⟨value, hnext, hP, hcommits⟩, fun refusal => ih (some refusal) (hrefused refusal) hP⟩

end Run

/-- The programs without their locks. -/
def Surroundings.unfenced {Q D L B R ε α S E : Type} (env : Surroundings Q D L B R ε α S E) :
    Surroundings Q D L B R ε α S E :=
  { env with program := fun request => (env.program request).unfenced }

namespace Interleaving

open Run (Spec Knowledge)

section Unfenced

variable {Q D L B R ε α S E : Type}

def Thread.unfenced (thread : Thread Q D L B R ε α) : Thread Q D L B R ε α :=
  { thread with
    rest := thread.rest.map Run.unfenced
    knowledge := thread.knowledge.unfenced }

def Entry.unfenced (entry : Entry Q D L B R ε α S) : Entry Q D L B R ε α S :=
  { entry with rest := entry.rest.unfenced }

namespace World

/-- The world as it is where nobody takes a lock. -/
def unfenced (world : World Q D L B R ε α S) : World Q D L B R ε α S :=
  { world with
    threads := world.threads.map Thread.unfenced
    log := world.log.map Entry.unfenced }

variable {world after : World Q D L B R ε α S}

theorem unfenced_put (i : ℕ) (thread : Thread Q D L B R ε α) :
    (world.put i thread).unfenced = world.unfenced.put i thread.unfenced := by
  simp only [put, unfenced, List.map_set]

theorem unfenced_land (i : ℕ) (thread : Thread Q D L B R ε α) (batch : B)
    (rest : Run D L B R ε α) (acknowledged : Bool) (state : S) :
    (world.land i thread batch rest acknowledged state).unfenced =
      world.unfenced.land i thread.unfenced batch rest.unfenced acknowledged state := by
  have hrest : (if acknowledged then some rest else none).map Run.unfenced =
      if acknowledged then some rest.unfenced else none := by
    cases acknowledged <;> rfl
  simp only [land, unfenced, List.map_set, List.map_append, List.map_singleton, Thread.unfenced,
    hrest]
  rfl

/-- A thread that takes a lock looks the same without it. -/
theorem unfenced_put_self {i : ℕ} {thread moved : Thread Q D L B R ε α}
    (hthread : world.threads[i]? = some thread) (hmoved : moved.unfenced = thread.unfenced) :
    (world.put i moved).unfenced = world.unfenced := by
  have hsame : world.unfenced.threads[i]? = some thread.unfenced := by
    simp only [unfenced, List.getElem?_map, hthread, Option.map_some]
  obtain ⟨hlt, hget⟩ := List.getElem?_eq_some_iff.mp hsame
  rw [unfenced_put, hmoved, ← hget, put, List.set_getElem_self]

/-- Taking a lock is no step without it; every other step is one. -/
theorem step_unfenced [DecidableEq L] {env : Surroundings Q D L B R ε α S E}
    {action : Action Q S E} (hstep : world.step env action = some after) :
    after.unfenced = world.unfenced ∨
      world.unfenced.step env.unfenced action = some after.unfenced := by
  have hfound : ∀ {i : ℕ} {thread : Thread Q D L B R ε α}, world.threads[i]? = some thread →
      world.unfenced.threads[i]? = some thread.unfenced := by
    intro i thread hthread
    simp only [unfenced, List.getElem?_map, hthread, Option.map_some]
  cases action with
  | start request =>
      cases hstep
      right
      simp only [step, unfenced, List.map_append, List.map_singleton]
      rfl
  | change state =>
      cases hstep
      exact Or.inr rfl
  | abandon i =>
      simp only [step] at hstep
      split at hstep
      · cases hstep
      · rename_i thread hthread
        cases hstep
        right
        simp only [step, hfound hthread, unfenced_put]
        rfl
  | observe i draw =>
      simp only [step] at hstep
      split at hstep
      · cases hstep
      · rename_i thread hthread
        split at hstep
        · rename_i next hrest
          cases hstep
          right
          simp only [step, hfound hthread, unfenced_put, Thread.unfenced, hrest, Option.map_some,
            Run.unfenced]
          rfl
        · cases hstep
  | acquire i =>
      simp only [step] at hstep
      split at hstep
      · cases hstep
      · rename_i thread hthread
        split at hstep
        · rename_i lock next hrest
          split at hstep
          · cases hstep
            refine Or.inl (unfenced_put_self hthread ?_)
            simp only [Thread.unfenced, hrest, Option.map_some, Run.unfenced]
            rfl
          · cases hstep
        · cases hstep
  | commit i acknowledged =>
      simp only [step] at hstep
      split at hstep
      · cases hstep
      · rename_i thread hthread
        split at hstep
        · rename_i batch next hrest
          right
          have hcommit : thread.unfenced.rest =
              some (.commit batch fun refusal => (next refusal).unfenced) := by
            simp only [Thread.unfenced, hrest, Option.map_some, Run.unfenced]
          have happly : env.unfenced.apply batch world.unfenced.shared =
              env.apply batch world.shared := rfl
          simp only [step, hfound hthread, hcommit, happly]
          split at hstep
          · rename_i state hstate
            cases hstep
            simp only [unfenced_land]
          · rename_i refusal hrefusal
            cases hstep
            simp only [unfenced_put]
            rfl
        · cases hstep
  | refuse i =>
      simp only [step] at hstep
      split at hstep
      · cases hstep
      · rename_i thread hthread
        split at hstep
        · rename_i batch next hrest
          cases hstep
          right
          simp only [step, hfound hthread, unfenced_put, Thread.unfenced, hrest, Option.map_some,
            Run.unfenced]
          rfl
        · cases hstep

end World

/-- Every run of the programs with their locks is a run of the programs without them, with
the same shared states. -/
theorem reachable_unfenced [DecidableEq L] {env : Surroundings Q D L B R ε α S E}
    {start : S → Prop} {admissible : S → Q → Prop} {changes : S → S → Prop}
    {world : World Q D L B R ε α S}
    (hreach : (machine env start).ReachableUnder (Allowed admissible changes) world) :
    (machine env.unfenced start).ReachableUnder (Allowed admissible changes)
      world.unfenced := by
  induction hreach with
  | start hinitial =>
      obtain ⟨hstart, hthreads, hlog, hpast⟩ := hinitial
      exact .start ⟨hstart, by simp [World.unfenced, hthreads], by simp [World.unfenced, hlog],
        hpast⟩
  | @next before _ action _ hallowed hstep ih =>
      rcases World.step_unfenced hstep with hsame | hmoved
      · rw [hsame]
        exact ih
      · refine .next ih ?_ hmoved
        cases action with
        | start request => exact hallowed
        | change state => exact hallowed
        | _ => trivial

end Unfenced

variable {Q D L B R ε α S E : Type} {env : Surroundings Q D L B R ε α S E}
  {spec : Q → Spec D L B ε α} {start : S → Prop} {admissible : S → Q → Prop}
  {changes : S → S → Prop}

/-- No step undoes what lets a request in. -/
structure Lasting (env : Surroundings Q D L B R ε α S E) (admissible : S → Q → Prop)
    (changes : S → S → Prop) : Prop where
  batch : ∀ state request batch after, admissible state request →
    env.apply batch state = .ok after → admissible after request
  change : ∀ state request after, admissible state request → changes state after →
    admissible after request

/-- No step of a run undoes what lets a request in. -/
def Persists [DecidableEq L] (env : Surroundings Q D L B R ε α S E) (start : S → Prop)
    (admissible : S → Q → Prop) (changes : S → S → Prop) : Prop :=
  ∀ world action after,
    (machine env start).ReachableUnder (Allowed admissible changes) world →
    Allowed admissible changes world action → world.step env action = some after →
      ∀ request, admissible world.shared request → admissible after.shared request

theorem Lasting.persists [DecidableEq L] (hlasting : Lasting env admissible changes) :
    Persists env start admissible changes := by
  intro world action after _ hallowed hstep request hadmissible
  rcases step_cases hstep with ⟨request, rfl, rfl⟩ | ⟨i, thread, moved, -, -, rfl⟩ |
    ⟨i, thread, batch, next, acknowledged, state, -, -, happly, rfl⟩ | ⟨state, rfl, rfl⟩
  · exact hadmissible
  · exact hadmissible
  · exact hlasting.batch _ _ batch _ hadmissible happly
  · exact hlasting.change _ _ _ hadmissible hallowed

/-- Everything seen was the state at some time since the request was let in. -/
def ViewedSince (env : Surroundings Q D L B R ε α S E) (admissible : S → Q → Prop)
    (past : Set S) (request : Q) (knowledge : Knowledge D L) : Prop :=
  ∀ observation ∈ knowledge.seen, ∃ view ∈ past, admissible view request ∧
    ∃ draw, observation = env.look view draw

theorem ViewedSince.mono {past more : Set S} {request : Q} {knowledge : Knowledge D L}
    (hviewed : ViewedSince env admissible past request knowledge) (hpast : past ⊆ more) :
    ViewedSince env admissible more request knowledge := by
  intro observation hseen
  obtain ⟨view, hview, hadmissible, hdraw⟩ := hviewed observation hseen
  exact ⟨view, hpast hview, hadmissible, hdraw⟩

theorem ViewedSince.imp {more : S → Q → Prop} {past : Set S} {request : Q}
    {knowledge : Knowledge D L} (hviewed : ViewedSince env admissible past request knowledge)
    (hmore : ∀ state, admissible state request → more state request) :
    ViewedSince env more past request knowledge := by
  intro observation hseen
  obtain ⟨view, hview, hadmissible, hdraw⟩ := hviewed observation hseen
  exact ⟨view, hview, hmore view hadmissible, hdraw⟩

/-- The reason for which a thread was let in still holds, and held in all it saw. -/
structure Thread.Since (env : Surroundings Q D L B R ε α S E) (admissible : S → Q → Prop)
    (world : World Q D L B R ε α S) (thread : Thread Q D L B R ε α) : Prop where
  now : admissible world.shared thread.request
  viewed : ViewedSince env admissible world.past thread.request thread.knowledge

theorem Advance.since [DecidableEq L] {world : World Q D L B R ε α S} {i : ℕ}
    {thread moved : Thread Q D L B R ε α} (hmoves : Advance env world i thread moved)
    (hshared : world.shared ∈ world.past) (hsince : thread.Since env admissible world) :
    moved.Since env admissible world := by
  cases hmoves with
  | observe next draw hrest =>
      refine ⟨hsince.now, ?_⟩
      rintro observation (rfl | hseen)
      · exact ⟨world.shared, hshared, hsince.now, draw, rfl⟩
      · exact hsince.viewed observation hseen
  | acquire lock next hrest hfree => exact ⟨hsince.now, hsince.viewed⟩
  | refused batch next refusal hrest => exact ⟨hsince.now, hsince.viewed⟩
  | abandon => exact ⟨hsince.now, hsince.viewed⟩

section Runs

variable [DecidableEq L] {world : World Q D L B R ε α S}

/-- Programs act on the states since their start. -/
theorem reachable_since (hpersists : Persists env start admissible changes)
    (hprogram : ∀ state request, admissible state request →
      (env.program request).Meets (spec request) .nothing)
    (hreach : (machine env start).ReachableUnder (Allowed admissible changes) world) :
    ∀ thread ∈ world.threads, thread.Since env admissible world := by
  induction hreach with
  | start hinitial =>
      obtain ⟨-, hthreads, -⟩ := hinitial
      simp [hthreads]
  | @next before _ action hbefore hallowed hstep ih =>
      have hshared := (reachable_sane hprogram hbefore).shared_mem
      have hkept := hpersists before action _ hbefore hallowed hstep
      rcases step_cases hstep with ⟨request, rfl, rfl⟩ | ⟨i, thread, moved, hthread, hmoves, rfl⟩ |
        ⟨i, thread, batch, next, acknowledged, state, hthread, -, -, rfl⟩ |
        ⟨state, rfl, rfl⟩
      · intro thread hmem
        rcases List.mem_append.mp hmem with hold | hnew
        · exact ⟨(ih thread hold).now, (ih thread hold).viewed⟩
        · rw [List.mem_singleton.mp hnew]
          exact ⟨hallowed, fun _ hseen => absurd hseen (Set.notMem_empty _)⟩
      · intro other hmem
        rcases List.mem_or_eq_of_mem_set hmem with hold | rfl
        · exact ⟨(ih other hold).now, (ih other hold).viewed⟩
        · have hsince := hmoves.since hshared (ih thread (List.mem_of_getElem? hthread))
          exact ⟨hsince.now, hsince.viewed⟩
      · intro other hmem
        have hlater : ∀ earlier ∈ before.threads,
            admissible state earlier.request ∧
              ViewedSince env admissible (insert state before.past) earlier.request
                earlier.knowledge := by
          intro earlier hearlier
          have hsince := ih earlier hearlier
          exact ⟨hkept _ hsince.now, hsince.viewed.mono (Set.subset_insert _ _)⟩
        rcases List.mem_or_eq_of_mem_set hmem with hold | rfl
        · exact ⟨(hlater other hold).1, (hlater other hold).2⟩
        · have hthread := hlater thread (List.mem_of_getElem? hthread)
          exact ⟨hthread.1, hthread.2⟩
      · intro thread hmem
        have hsince := ih thread hmem
        exact ⟨hkept _ hsince.now, hsince.viewed.mono (Set.subset_insert _ _)⟩

/-- A batch that is about to be committed, and the reason and the knowledge behind it. -/
theorem reachable_commits (hpersists : Persists env start admissible changes)
    (hprogram : ∀ state request, admissible state request →
      (env.program request).Meets (spec request) .nothing)
    (hreach : (machine env start).ReachableUnder (Allowed admissible changes) world)
    {i : ℕ} {thread : Thread Q D L B R ε α} {batch : B} {next : Option R → Run D L B R ε α}
    (hthread : world.threads[i]? = some thread)
    (hrest : thread.rest = some (.commit batch next)) :
    thread.Since env admissible world ∧
      ∃ value, next none = .pure value ∧
        (spec thread.request).commits thread.knowledge batch value := by
  have hmem := List.mem_of_getElem? hthread
  have hsane := reachable_sane hprogram hreach
  have hfalse := (hsane.threads thread hmem).uncommitted hsane.log hrest fun _ h => (by cases h)
  exact ⟨reachable_since hpersists hprogram hreach thread hmem,
    ((hsane.threads thread hmem).running hfalse _ hrest).1⟩

/-- A program that has returned committed, or returned for what it saw. -/
theorem reachable_finished (hpersists : Persists env start admissible changes)
    (hprogram : ∀ state request, admissible state request →
      (env.program request).Meets (spec request) .nothing)
    (hreach : (machine env start).ReachableUnder (Allowed admissible changes) world)
    {thread : Thread Q D L B R ε α} {value : α} (hthread : thread ∈ world.threads)
    (hrest : thread.rest = some (.pure value)) :
    (∃ entry ∈ world.log, entry.request = thread.request) ∨
      ViewedSince env admissible world.past thread.request thread.knowledge ∧
        (spec thread.request).returns thread.knowledge value := by
  have hsane := (reachable_sane hprogram hreach).threads thread hthread
  cases hcommitted : thread.committed with
  | true =>
      left
      obtain hnone | ⟨entry, hentry, hrequest, -⟩ := hsane.settled hcommitted
      · rw [hrest] at hnone
        cases hnone
      · exact ⟨entry, hentry, hrequest⟩
  | false =>
      right
      exact ⟨(reachable_since hpersists hprogram hreach thread hthread).viewed,
        hsane.running hcommitted _ hrest⟩

/-- The obligations of the rule for lasting reasons: a batch may use that the reason of
its request holds, and held in all its program saw. -/
structure Maintains (env : Surroundings Q D L B R ε α S E) (spec : Q → Spec D L B ε α)
    (start : S → Prop) (admissible : S → Q → Prop) (changes : S → S → Prop)
    (Inv : Set S → List (Entry Q D L B R ε α S) → S → Prop) : Prop where
  begins : ∀ state, start state → Inv {state} [] state
  commit : ∀ past log state, Inv past log state → state ∈ past →
    ∀ (entry : Entry Q D L B R ε α S) knowledge value after,
      entry.before = state → entry.after = after → admissible state entry.request →
      ViewedSince env admissible past entry.request knowledge →
      (spec entry.request).commits knowledge entry.batch value →
      entry.rest = .pure value → env.apply entry.batch state = .ok after →
        Inv (insert after past) (log ++ [entry]) after
  change : ∀ past log state after, Inv past log state → state ∈ past →
    changes state after → Inv (insert after past) log after

theorem reachable_maintains {Inv : Set S → List (Entry Q D L B R ε α S) → S → Prop}
    (hmaintains : Maintains env spec start admissible changes Inv)
    (hpersists : Persists env start admissible changes)
    (hprogram : ∀ state request, admissible state request →
      (env.program request).Meets (spec request) .nothing)
    (hreach : (machine env start).ReachableUnder (Allowed admissible changes) world) :
    Inv world.past world.log world.shared := by
  induction hreach with
  | start hinitial =>
      obtain ⟨hstart, -, hlog, hpast⟩ := hinitial
      rw [hpast, hlog]
      exact hmaintains.begins _ hstart
  | @next before _ action hbefore hallowed hstep ih =>
      have hshared := (reachable_sane hprogram hbefore).shared_mem
      rcases step_cases hstep with ⟨request, rfl, rfl⟩ | ⟨i, thread, moved, hthread, hmoves, rfl⟩ |
        ⟨i, thread, batch, next, acknowledged, state, hthread, hrest, happly, rfl⟩ |
        ⟨state, rfl, rfl⟩
      · exact ih
      · exact ih
      · obtain ⟨hsince, value, hvalue, hcommits⟩ :=
          reachable_commits hpersists hprogram hbefore hthread hrest
        exact hmaintains.commit _ _ _ ih hshared
          ⟨thread.request, batch, before.shared, state, next none⟩ thread.knowledge value state
          rfl rfl hsince.now hsince.viewed hcommits hvalue happly
      · exact hmaintains.change _ _ _ _ ih hshared hallowed

end Runs

end Interleaving

end LibrarySystem
