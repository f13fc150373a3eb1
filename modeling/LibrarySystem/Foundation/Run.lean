import LibrarySystem.Foundation.Machine

/-!
# Transactional programs

A program observes a shared state whenever it needs to, may take locks that it
holds to the end of its transaction, and hands batches of writes to the state,
each of which takes effect as a whole or is refused.  What one run does is given
by the answers it gets; the answers may end at any point, which is a run that is
cut off there.

`Meets` is the program logic: what a program commits, returns and raises is
justified by what it has observed.
-/

namespace LibrarySystem

/-- `observe` goes on with what is seen at that moment, `commit` with the reason of
the refusal, if any. -/
inductive Run (D L B R ε α : Type) : Type
  | pure (value : α)
  | raise (error : ε)
  | observe (next : D → Run D L B R ε α)
  | acquire (lock : L) (next : Run D L B R ε α)
  | commit (batch : B) (next : Option R → Run D L B R ε α)

namespace Run

variable {D L B R ε α β : Type}

protected def bind : Run D L B R ε α → (α → Run D L B R ε β) → Run D L B R ε β
  | .pure value, f => f value
  | .raise error, _ => .raise error
  | .observe next, f => .observe fun seen => (next seen).bind f
  | .acquire lock next, f => .acquire lock (next.bind f)
  | .commit batch next, f => .commit batch fun refusal => (next refusal).bind f

/-- `try` with one handler. -/
protected def tryCatch : Run D L B R ε α → (ε → Run D L B R ε α) → Run D L B R ε α
  | .pure value, _ => .pure value
  | .raise error, handler => handler error
  | .observe next, handler => .observe fun seen => (next seen).tryCatch handler
  | .acquire lock next, handler => .acquire lock (next.tryCatch handler)
  | .commit batch next, handler =>
      .commit batch fun refusal => (next refusal).tryCatch handler

instance : Monad (Run D L B R ε) where
  pure := Run.pure
  bind := Run.bind

instance : MonadExceptOf ε (Run D L B R ε) where
  throw := Run.raise
  tryCatch := Run.tryCatch

@[simp] theorem pure_bind (value : α) (f : α → Run D L B R ε β) :
    ((Run.pure value : Run D L B R ε α) >>= f) = f value := rfl

@[simp] theorem raise_bind (error : ε) (f : α → Run D L B R ε β) :
    ((Run.raise error : Run D L B R ε α) >>= f) = .raise error := rfl

@[simp] theorem observe_bind (next : D → Run D L B R ε α) (f : α → Run D L B R ε β) :
    (Run.observe next >>= f) = .observe fun seen => next seen >>= f := rfl

@[simp] theorem acquire_bind (lock : L) (next : Run D L B R ε α)
    (f : α → Run D L B R ε β) :
    (Run.acquire lock next >>= f) = .acquire lock (next >>= f) := rfl

@[simp] theorem commit_bind (batch : B) (next : Option R → Run D L B R ε α)
    (f : α → Run D L B R ε β) :
    (Run.commit batch next >>= f) = .commit batch fun refusal => next refusal >>= f := rfl

@[simp] theorem pure_eq (value : α) :
    (Pure.pure value : Run D L B R ε α) = .pure value := rfl

@[simp] theorem throw_eq (error : ε) :
    (throw error : Run D L B R ε α) = .raise error := rfl

theorem bind_assoc {γ : Type} (run : Run D L B R ε α) (f : α → Run D L B R ε β)
    (g : β → Run D L B R ε γ) :
    (run >>= f) >>= g = run >>= fun value => f value >>= g := by
  change (run.bind f).bind g = run.bind fun value => (f value).bind g
  induction run with
  | pure value => rfl
  | raise error => rfl
  | observe next ih => simp only [Run.bind, ih]
  | acquire lock next ih => simp only [Run.bind, ih]
  | commit batch next ih => simp only [Run.bind, ih]

theorem bind_pure (run : Run D L B R ε α) : id <$> run = run := by
  change run.bind (fun value => .pure value) = run
  induction run with
  | pure value => rfl
  | raise error => rfl
  | observe next ih => simp only [Run.bind, ih]
  | acquire lock next ih => simp only [Run.bind, ih]
  | commit batch next ih => simp only [Run.bind, ih]

instance : LawfulMonad (Run D L B R ε) :=
  LawfulMonad.mk' _ bind_pure (fun _ _ => rfl) bind_assoc

/-- Raise what a pure computation raises. -/
def ofExcept : Except ε α → Run D L B R ε α
  | .ok value => .pure value
  | .error error => .raise error

@[simp] theorem ofExcept_ok (value : α) :
    (ofExcept (.ok value) : Run D L B R ε α) = .pure value := rfl

@[simp] theorem ofExcept_error (error : ε) :
    (ofExcept (.error error) : Run D L B R ε α) = .raise error := rfl

/-! ## One run -/

/-- What the outside answers to one request of the program. -/
inductive Answer (D R : Type)
  | seen (observation : D)
  | granted
  | settled (refusal : Option R)

/-- The batches that took effect, and how the program ended, if it did. -/
def exec : Run D L B R ε α → List (Answer D R) → List B × Option (Except ε α)
  | .pure value, _ => ([], some (.ok value))
  | .raise error, _ => ([], some (.error error))
  | .observe next, .seen observation :: answers => (next observation).exec answers
  | .acquire _ next, .granted :: answers => next.exec answers
  | .commit batch next, .settled none :: answers =>
      let (batches, result) := (next none).exec answers
      (batch :: batches, result)
  | .commit _ next, .settled (some refusal) :: answers => (next (some refusal)).exec answers
  | _, _ => ([], none)

/-! ## The program logic -/

/-- What a program knows: all it has seen, the locks it holds, and what it has seen
since it took each of them. -/
structure Knowledge (D L : Type) where
  seen : Set D
  held : List L
  since : L → Set D

namespace Knowledge

def nothing : Knowledge D L := ⟨∅, [], fun _ => ∅⟩

def look (knowledge : Knowledge D L) (observation : D) : Knowledge D L :=
  { knowledge with
    seen := insert observation knowledge.seen
    since := fun lock => insert observation (knowledge.since lock) }

def take (knowledge : Knowledge D L) (lock : L) : Knowledge D L :=
  { knowledge with
    held := lock :: knowledge.held
    since := fun other => {observation ∈ knowledge.since other | other ≠ lock} }

/-- The end of a transaction. -/
def settle (knowledge : Knowledge D L) : Knowledge D L :=
  { knowledge with held := [] }

@[simp] theorem seen_nothing : (nothing : Knowledge D L).seen = ∅ := rfl

@[simp] theorem held_nothing : (nothing : Knowledge D L).held = [] := rfl

@[simp] theorem seen_look (knowledge : Knowledge D L) (observation : D) :
    (knowledge.look observation).seen = insert observation knowledge.seen := rfl

@[simp] theorem held_look (knowledge : Knowledge D L) (observation : D) :
    (knowledge.look observation).held = knowledge.held := rfl

@[simp] theorem since_look (knowledge : Knowledge D L) (observation : D) (lock : L) :
    (knowledge.look observation).since lock =
      insert observation (knowledge.since lock) := rfl

@[simp] theorem seen_take (knowledge : Knowledge D L) (lock : L) :
    (knowledge.take lock).seen = knowledge.seen := rfl

@[simp] theorem held_take (knowledge : Knowledge D L) (lock : L) :
    (knowledge.take lock).held = lock :: knowledge.held := rfl

@[simp] theorem since_take (knowledge : Knowledge D L) (lock other : L) :
    (knowledge.take lock).since other =
      {observation ∈ knowledge.since other | other ≠ lock} := rfl

@[simp] theorem seen_settle (knowledge : Knowledge D L) :
    knowledge.settle.seen = knowledge.seen := rfl

@[simp] theorem held_settle (knowledge : Knowledge D L) :
    knowledge.settle.held = [] := rfl

end Knowledge

/-- What a program may commit before it returns a value, and what it may return or
raise without a commit. -/
structure Spec (D L B ε α : Type) where
  commits : Knowledge D L → B → α → Prop
  returns : Knowledge D L → α → Prop
  raises : Knowledge D L → ε → Prop

/-- At most one batch takes effect, after which the program returns. -/
def Meets (spec : Spec D L B ε α) : Knowledge D L → Run D L B R ε α → Prop
  | knowledge, .pure value => spec.returns knowledge value
  | knowledge, .raise error => spec.raises knowledge error
  | knowledge, .observe next =>
      ∀ observation, (next observation).Meets spec (knowledge.look observation)
  | knowledge, .acquire lock next => next.Meets spec (knowledge.take lock)
  | knowledge, .commit batch next =>
      (∃ value, next none = .pure value ∧ spec.commits knowledge batch value) ∧
        ∀ refusal, (next (some refusal)).Meets spec knowledge.settle

/-- A program that commits nothing, with what holds where it ends. -/
def Reads (value : Knowledge D L → α → Prop) (error : Knowledge D L → ε → Prop) :
    Knowledge D L → Run D L B R ε α → Prop
  | knowledge, .pure result => value knowledge result
  | knowledge, .raise raised => error knowledge raised
  | knowledge, .observe next =>
      ∀ observation, (next observation).Reads value error (knowledge.look observation)
  | knowledge, .acquire lock next => next.Reads value error (knowledge.take lock)
  | _, .commit _ _ => False

section Rules

variable {spec : Spec D L B ε α} {knowledge : Knowledge D L}

@[simp] theorem meets_pure (value : α) :
    (Run.pure value : Run D L B R ε α).Meets spec knowledge ↔
      spec.returns knowledge value := Iff.rfl

@[simp] theorem meets_raise (error : ε) :
    (Run.raise error : Run D L B R ε α).Meets spec knowledge ↔
      spec.raises knowledge error := Iff.rfl

@[simp] theorem meets_observe (next : D → Run D L B R ε α) :
    (Run.observe next).Meets spec knowledge ↔
      ∀ observation, (next observation).Meets spec (knowledge.look observation) := Iff.rfl

@[simp] theorem meets_acquire (lock : L) (next : Run D L B R ε α) :
    (Run.acquire lock next).Meets spec knowledge ↔
      next.Meets spec (knowledge.take lock) := Iff.rfl

@[simp] theorem meets_commit (batch : B) (next : Option R → Run D L B R ε α) :
    (Run.commit batch next).Meets spec knowledge ↔
      (∃ value, next none = .pure value ∧ spec.commits knowledge batch value) ∧
        ∀ refusal, (next (some refusal)).Meets spec knowledge.settle := Iff.rfl

/-- A part that commits nothing, before the rest. -/
theorem Meets.bind
    {spec : Spec D L B ε β} {part : Run D L B R ε α} {rest : α → Run D L B R ε β}
    (hpart : part.Reads (fun known value => (rest value).Meets spec known)
      spec.raises knowledge) :
    (part >>= rest).Meets spec knowledge := by
  induction part generalizing knowledge with
  | pure value => exact hpart
  | raise error => exact hpart
  | observe next ih => exact fun observation => ih observation (hpart observation)
  | acquire lock next ih => exact ih hpart
  | commit batch next ih => exact absurd hpart not_false

theorem Reads.bind
    {value : Knowledge D L → β → Prop} {error : Knowledge D L → ε → Prop}
    {part : Run D L B R ε α} {rest : α → Run D L B R ε β}
    (hpart : part.Reads (fun known result => (rest result).Reads value error known)
      error knowledge) :
    (part >>= rest).Reads value error knowledge := by
  induction part generalizing knowledge with
  | pure value => exact hpart
  | raise error => exact hpart
  | observe next ih => exact fun observation => ih observation (hpart observation)
  | acquire lock next ih => exact ih hpart
  | commit batch next ih => exact absurd hpart not_false

/-- A weaker specification is met by the same programs. -/
theorem Meets.imp
    {weaker : Spec D L B ε α} {run : Run D L B R ε α} (hrun : run.Meets spec knowledge)
    (hcommits : ∀ known batch value, spec.commits known batch value →
      weaker.commits known batch value)
    (hreturns : ∀ known value, spec.returns known value → weaker.returns known value)
    (hraises : ∀ known error, spec.raises known error → weaker.raises known error) :
    run.Meets weaker knowledge := by
  induction run generalizing knowledge with
  | pure value => exact hreturns _ _ hrun
  | raise error => exact hraises _ _ hrun
  | observe next ih => exact fun observation => ih observation (hrun observation)
  | acquire lock next ih => exact ih hrun
  | commit batch next ih =>
      obtain ⟨⟨value, hnext, hcommit⟩, hrefused⟩ := hrun
      exact ⟨⟨value, hnext, hcommits _ _ _ hcommit⟩, fun refusal =>
        ih (some refusal) (hrefused refusal)⟩

/-- A value made of the result, and the specification made of it. -/
theorem Meets.map {final : Spec D L B ε β} {run : Run D L B R ε α} (f : α → β)
    (hrun : run.Meets spec knowledge)
    (hcommits : ∀ known batch value, spec.commits known batch value →
      final.commits known batch (f value))
    (hreturns : ∀ known value, spec.returns known value → final.returns known (f value))
    (hraises : ∀ known error, spec.raises known error → final.raises known error) :
    (run >>= fun value => .pure (f value)).Meets final knowledge := by
  induction run generalizing knowledge with
  | pure value => exact hreturns _ _ hrun
  | raise error => exact hraises _ _ hrun
  | observe next ih => exact fun observation => ih observation (hrun observation)
  | acquire lock next ih => exact ih hrun
  | commit batch next ih =>
      obtain ⟨⟨value, hnext, hcommit⟩, hrefused⟩ := hrun
      refine ⟨⟨f value, ?_, hcommits _ _ _ hcommit⟩, fun refusal =>
        ih (some refusal) (hrefused refusal)⟩
      simp only [hnext]
      rfl

end Rules

/-! ## Soundness for one run -/

/-- What the answers of a run show. -/
def observations (answers : List (Answer D R)) : Set D :=
  {observation | .seen observation ∈ answers}

/-- A run commits nothing, or one batch that its result goes with. -/
structure Sound (spec : Spec D L B ε α) (seen : Set D)
    (outcome : List B × Option (Except ε α)) : Prop where
  returned : outcome.1 = [] → ∀ value, outcome.2 = some (.ok value) →
    ∃ knowledge : Knowledge D L, knowledge.seen ⊆ seen ∧ spec.returns knowledge value
  raised : ∀ error, outcome.2 = some (.error error) → outcome.1 = [] ∧
    ∃ knowledge : Knowledge D L, knowledge.seen ⊆ seen ∧ spec.raises knowledge error
  committed : outcome.1 ≠ [] → ∃ batch value, outcome.1 = [batch] ∧
    (outcome.2 = none ∨ outcome.2 = some (.ok value)) ∧
    ∃ knowledge : Knowledge D L, knowledge.seen ⊆ seen ∧
      spec.commits knowledge batch value

theorem Sound.cut (spec : Spec D L B ε α) (seen : Set D) :
    Sound spec seen ([], none) :=
  ⟨fun _ _ hresult => (by cases hresult), fun _ hresult => (by cases hresult),
    fun hne => absurd rfl hne⟩

theorem exec_sound
    {spec : Spec D L B ε α} {run : Run D L B R ε α} {knowledge : Knowledge D L}
    (hmeets : run.Meets spec knowledge) (answers : List (Answer D R)) :
    Sound spec (knowledge.seen ∪ observations answers) (run.exec answers) := by
  induction run generalizing knowledge answers with
  | pure value =>
      refine ⟨fun _ result hresult => ?_, fun _ hresult => (by cases hresult),
        fun hne => absurd rfl hne⟩
      simp only [exec, Option.some.injEq, Except.ok.injEq] at hresult
      subst result
      exact ⟨knowledge, Set.subset_union_left, hmeets⟩
  | raise error =>
      refine ⟨fun _ _ hresult => (by cases hresult), fun raised hraised => ?_,
        fun hne => absurd rfl hne⟩
      simp only [exec, Option.some.injEq, Except.error.injEq] at hraised
      subst raised
      exact ⟨rfl, knowledge, Set.subset_union_left, hmeets⟩
  | observe next ih =>
      match answers with
      | [] | .settled _ :: _ | .granted :: _ => exact Sound.cut _ _
      | .seen observation :: rest =>
          have hrest := ih observation (hmeets observation) rest
          have hsame : insert observation knowledge.seen ∪ observations rest =
              knowledge.seen ∪ observations (.seen observation :: rest) := by
            ext d
            simp only [observations, Set.mem_union, Set.mem_insert_iff, Set.mem_ofPred_eq,
              List.mem_cons, Answer.seen.injEq]
            tauto
          rw [Knowledge.seen_look, hsame] at hrest
          exact hrest
  | acquire lock next ih =>
      match answers with
      | [] | .settled _ :: _ | .seen _ :: _ => exact Sound.cut _ _
      | .granted :: rest =>
          have hrest := ih hmeets rest
          have hsame : observations (.granted :: rest) =
              (observations rest : Set D) := by
            ext d
            simp [observations]
          rw [hsame]
          exact hrest
  | commit batch next ih =>
      obtain ⟨⟨value, hnext, hcommits⟩, hrefused⟩ := hmeets
      match answers with
      | [] | .seen _ :: _ | .granted :: _ => exact Sound.cut _ _
      | .settled none :: rest =>
          simp only [exec, hnext]
          exact
            { returned := fun hempty => (by cases hempty)
              raised := fun _ hresult => (by cases hresult)
              committed := fun _ => ⟨batch, value, rfl, Or.inr rfl, knowledge,
                Set.subset_union_left, hcommits⟩ }
      | .settled (some refusal) :: rest =>
          have hrest := ih (some refusal) (hrefused refusal) rest
          have hsame : observations (.settled (some refusal) :: rest) =
              (observations rest : Set D) := by
            ext d
            simp [observations]
          rw [hsame]
          exact hrest

/-! ## Alone -/

/-- A program on its own: it sees its own effects only, and every lock is free.
`draws` is what its observations bring besides the state. -/
def alone {S E : Type} (look : S → E → D) (apply : B → S → Except R S) (draws : ℕ → E) :
    Run D L B R ε α → ℕ → S → Except ε α × S
  | .pure value, _, state => (.ok value, state)
  | .raise error, _, state => (.error error, state)
  | .observe next, i, state =>
      (next (look state (draws i))).alone look apply draws (i + 1) state
  | .acquire _ next, i, state => next.alone look apply draws i state
  | .commit batch next, i, state =>
      match apply batch state with
      | .ok after => (next none).alone look apply draws i after
      | .error refusal => (next (some refusal)).alone look apply draws i state

end Run

end LibrarySystem
