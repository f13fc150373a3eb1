import LibrarySystem.Foundation.Interleaving

/-!
# Verdicts on what is absent

A program looks for something, does not find it, and goes on to a verdict.  Between two
looks the others may have put it there, unless the program holds the lock they need, or
stands where the run is known to keep them away.  `Assured` follows what a program knows
to be absent from look to look; no verdict of an assured program is given while the thing
is there.
-/

namespace LibrarySystem

namespace Run

section Assured

variable {D L B R ε α β : Type}

/-- What a verdict rests on: the lock that keeps the others away, and the observations
that show nothing. -/
structure Watch (D L : Type) where
  lock : L
  absent : D → Prop

/-- `clear` says that nothing is there when the program goes on; it lasts to the next look
where the program holds the lock or `stands`. -/
def Assured (watch : Watch D L) (stands : Run D L B R ε α → Prop)
    (returns : Prop → List L → α → Prop) (raises : Prop → List L → ε → Prop) :
    Prop → List L → Run D L B R ε α → Prop
  | clear, held, .pure value => returns clear held value
  | clear, held, .raise error => raises clear held error
  | clear, held, .observe next => ∀ seen,
      (next seen).Assured watch stands returns raises
        ((clear ∧ (watch.lock ∈ held ∨ stands (.observe next))) ∨ watch.absent seen) held
  | clear, held, .acquire lock next =>
      next.Assured watch stands returns raises
        (clear ∧ (watch.lock ∈ held ∨ stands (.acquire lock next))) (lock :: held)
  | _, _, .commit _ next => ∀ refusal,
      (next refusal).Assured watch stands returns raises False []

variable {watch : Watch D L} {stands : Run D L B R ε α → Prop}
  {returns : Prop → List L → α → Prop} {raises : Prop → List L → ε → Prop}
  {clear more : Prop} {held : List L} {run : Run D L B R ε α}

theorem Assured.imp {returns' : Prop → List L → α → Prop} {raises' : Prop → List L → ε → Prop}
    (hrun : run.Assured watch stands returns raises clear held)
    (hreturns : ∀ first second held value, (first → second) → returns first held value →
      returns' second held value)
    (hraises : ∀ first second held error, (first → second) → raises first held error →
      raises' second held error)
    (hclear : clear → more) : run.Assured watch stands returns' raises' more held := by
  induction run generalizing clear more held with
  | pure value => exact hreturns _ _ _ _ hclear hrun
  | raise error => exact hraises _ _ _ _ hclear hrun
  | observe next ih =>
      exact fun seen => ih seen (hrun seen) (Or.imp_left (And.imp_left hclear))
  | acquire lock next ih => exact ih hrun (And.imp_left hclear)
  | commit batch next ih => exact fun refusal => ih refusal (hrun refusal) id

theorem Assured.bind {part : Run D L B R ε β} {rest : β → Run D L B R ε α}
    (hpart : part.Assured watch (fun run => stands (run >>= rest))
      (fun clear held value => (rest value).Assured watch stands returns raises clear held)
      raises clear held) :
    (part >>= rest).Assured watch stands returns raises clear held := by
  induction part generalizing clear held with
  | pure value => exact hpart
  | raise error => exact hpart
  | observe next ih => exact fun seen => ih seen (hpart seen)
  | acquire lock next ih => exact ih hpart
  | commit batch next ih => exact fun refusal => ih refusal (hpart refusal)

theorem Assured.tryCatch {handler : ε → Run D L B R ε α}
    (hrun : run.Assured watch (fun part => stands (part.tryCatch handler)) returns
      (fun clear held error => (handler error).Assured watch stands returns raises clear held)
      clear held) :
    (run.tryCatch handler).Assured watch stands returns raises clear held := by
  induction run generalizing clear held with
  | pure value => exact hrun
  | raise error => exact hrun
  | observe next ih => exact fun seen => ih seen (hrun seen)
  | acquire lock next ih => exact ih hrun
  | commit batch next ih => exact fun refusal => ih refusal (hrun refusal)

/-- Every verdict the program may still give is given while nothing is there. -/
def Careful (watch : Watch D L) (stands : Run D L B R ε α → Prop) (verdict : ε → Prop)
    (clear : Prop) (held : List L) (run : Run D L B R ε α) : Prop :=
  run.Assured watch stands (fun _ _ _ => True) (fun clear _ error => verdict error → clear)
    clear held

theorem Careful.mono {verdict : ε → Prop} (hrun : run.Careful watch stands verdict clear held)
    (hclear : clear → more) : run.Careful watch stands verdict more held :=
  Assured.imp hrun (fun _ _ _ _ _ _ => trivial)
    (fun _ _ _ _ hmore hold hverdict => hmore (hold hverdict)) hclear

/-- Where nothing keeps the others away, a careful program relies on nothing. -/
theorem Careful.forget {verdict : ε → Prop} (hrun : run.Careful watch stands verdict clear held)
    (hraise : ∀ error, run ≠ .raise error)
    (hopen : clear → watch.lock ∉ held ∧ ¬ stands run) :
    run.Careful watch stands verdict False held := by
  have hlost : ¬ (clear ∧ (watch.lock ∈ held ∨ stands run)) := by
    rintro ⟨hclear, hheld | hstands⟩
    · exact (hopen hclear).1 hheld
    · exact (hopen hclear).2 hstands
  cases run with
  | pure value => trivial
  | raise error => exact absurd rfl (hraise error)
  | observe next =>
      intro seen
      exact Careful.mono (hrun seen) (Or.imp_left fun hkept => absurd hkept hlost)
  | acquire lock next =>
      have hnext : next.Careful watch stands verdict
          (clear ∧ (watch.lock ∈ held ∨ stands (.acquire lock next))) (lock :: held) := hrun
      exact hnext.mono fun hkept => absurd hkept hlost
  | commit batch next => exact hrun

end Assured

end Run

namespace Interleaving

open Run (Watch)

section Threads

variable {Q D L B R ε α S E : Type} {env : Surroundings Q D L B R ε α S E}
  {watch : Watch D L} {stands : Run D L B R ε α → Prop} {verdict : ε → Prop}
  {clear : Prop} {thread moved : Thread Q D L B R ε α}
  {world : World Q D L B R ε α S} {i : ℕ}

/-- A thread that has given no verdict is careful. -/
def Thread.Careful (watch : Watch D L) (stands : Run D L B R ε α → Prop)
    (verdict : ε → Prop) (clear : Prop) (thread : Thread Q D L B R ε α) : Prop :=
  ∀ run, thread.rest = some run → (∀ error, run ≠ .raise error) →
    run.Careful watch stands verdict clear thread.knowledge.held

theorem Thread.Careful.mono {more : Prop} (hthread : thread.Careful watch stands verdict clear)
    (hclear : clear → more) : thread.Careful watch stands verdict more :=
  fun run hrest hraise => (hthread run hrest hraise).mono hclear

/-- What another thread may do where nothing keeps it away. -/
theorem Thread.Careful.forget (hthread : thread.Careful watch stands verdict clear)
    (hopen : clear → watch.lock ∉ thread.locks ∧ ∀ run, thread.rest = some run → ¬ stands run) :
    thread.Careful watch stands verdict False := by
  intro run hrest hraise
  have hlocks : run.Careful watch stands verdict clear thread.locks →
      run.Careful watch stands verdict False thread.locks :=
    fun hrun => hrun.forget hraise fun hclear => ⟨(hopen hclear).1, (hopen hclear).2 run hrest⟩
  have hrun := hthread run hrest hraise
  cases run with
  | pure value => trivial
  | raise error => exact absurd rfl (hraise error)
  | observe next | acquire lock next | commit batch next =>
      simp only [Thread.locks, hrest] at hlocks
      exact hlocks hrun

/-- A step of a careful thread gives a verdict only while nothing is there, and leaves the
thread careful. -/
theorem Thread.Careful.advance [DecidableEq L]
    (hthread : thread.Careful watch stands verdict clear)
    (hlook : ∀ draw, watch.absent (env.look world.shared draw) → clear)
    (hmoves : Advance env world i thread moved) :
    moved.Careful watch stands verdict clear ∧
      ∀ error, moved.rest = some (.raise error) → verdict error → clear := by
  have hstep : ∀ run, moved.rest = some run →
      run.Careful watch stands verdict clear moved.knowledge.held := by
    intro run hrun
    cases hmoves with
    | observe next draw hrest =>
        cases hrun
        have hnext := hthread _ hrest (fun _ hsame => by cases hsame)
          (env.look world.shared draw)
        apply Run.Careful.mono hnext
        rintro (⟨hclear, -⟩ | habsent)
        · exact hclear
        · exact hlook draw habsent
    | acquire lock next hrest hfree =>
        cases hrun
        have hnext := hthread _ hrest fun _ hsame => by cases hsame
        exact Run.Careful.mono hnext And.left
    | refused batch next refusal hrest =>
        cases hrun
        have hnext := hthread _ hrest (fun _ hsame => by cases hsame) (some refusal)
        exact Run.Careful.mono hnext False.elim
    | abandon => cases hrun
  exact ⟨fun run hrest _ => hstep run hrest, fun error hrest => hstep _ hrest⟩

/-- The program of a thread at a commit ends with it, as it may. -/
theorem World.Sane.committing {spec : Q → Run.Spec D L B ε α} {admissible : S → Q → Prop}
    {batch : B} {next : Option R → Run D L B R ε α}
    (hsane : world.Sane env spec admissible) (hthread : thread ∈ world.threads)
    (hrest : thread.rest = some (.commit batch next)) :
    ∃ value, next none = .pure value ∧
      (spec thread.request).commits thread.knowledge batch value := by
  have hthreadSane := hsane.threads thread hthread
  have hfalse := hthreadSane.uncommitted hsane.log hrest fun _ hsame => by cases hsame
  exact (hthreadSane.running hfalse _ hrest).1

end Threads

end Interleaving

end LibrarySystem
