import Mathlib.Data.Set.Insert
import Mathlib.Logic.Function.Basic
import Mathlib.Logic.Relation
import Mathlib.Tactic.Common

/-!
# Tentative holds and the claims that settle them

A resource is held for one attempt at a time, under a generation that only grows.  The
claim for an attempt is made in another store; it settles the hold or loses it.  The two
stores learn of each other through facts, of which nothing is assumed: they come in any
order, any number of times, late or never.
-/

namespace LibrarySystem

namespace SemanticLock

variable {Resource Claim Tag Terms : Type}

inductive Phase (Claim Terms : Type)
  | free
  | held
  | settled (claim : Claim) (terms : Terms)

structure Hold (Claim Tag Terms : Type) where
  generation : ℤ
  tag : Option Tag
  phase : Phase Claim Terms

structure Attempt (Resource Tag : Type) where
  resource : Resource
  generation : ℤ
  tag : Tag

inductive Progress
  | pending
  | completed
  | cancelled

structure Record (Resource Tag : Type) where
  attempt : Attempt Resource Tag
  progress : Progress

inductive Fact (Resource Claim Tag Terms : Type)
  | held (attempt : Attempt Resource Tag)
  | claimed (claim : Claim) (attempt : Attempt Resource Tag) (terms : Terms)
  | settled (resource : Resource) (generation : ℤ) (claim : Claim)
  | released (resource : Resource) (generation : ℤ)
  | completed (claim : Claim) (resource : Resource)
  | cancelled (claim : Claim)

/-- The two stores, and the facts they have told so far. -/
@[ext]
structure State (Resource Claim Tag Terms : Type) where
  holds : Resource → Option (Hold Claim Tag Terms)
  claims : Claim → Option (Record Resource Tag)
  facts : Set (Fact Resource Claim Tag Terms)

namespace State

/-- The hold of this generation has been settled or released. -/
def Closed (state : State Resource Claim Tag Terms) (resource : Resource) (generation : ℤ) :
    Prop :=
  ∃ hold, state.holds resource = some hold ∧
    (generation < hold.generation ∨ generation = hold.generation ∧ hold.phase ≠ .held)

/-- The claim can no longer settle its hold, nor has it, unless it is over. -/
def Lost (state : State Resource Claim Tag Terms) (claim : Claim) : Prop :=
  ∃ record, state.claims claim = some record ∧
    state.Closed record.attempt.resource record.attempt.generation ∧
    (.settled record.attempt.resource record.attempt.generation claim ∈ state.facts →
      record.progress = .completed)

/-- What is held is not closed. -/
theorem not_closed_of_held {state : State Resource Claim Tag Terms} {resource : Resource}
    {hold : Hold Claim Tag Terms} (hhold : state.holds resource = some hold)
    (hheld : hold.phase = .held) : ¬ state.Closed resource hold.generation := by
  rintro ⟨current, hcurrent, hpast⟩
  rw [hhold, Option.some.injEq] at hcurrent
  subst current
  rcases hpast with hlt | ⟨-, hne⟩
  · exact lt_irrefl _ hlt
  · exact hne hheld

section Updates

variable [DecidableEq Resource] [DecidableEq Claim]

/-- A hold, and the facts told of it. -/
def putHold (state : State Resource Claim Tag Terms) (resource : Resource)
    (hold : Hold Claim Tag Terms) (told : Set (Fact Resource Claim Tag Terms)) :
    State Resource Claim Tag Terms :=
  { state with
    holds := Function.update state.holds resource (some hold)
    facts := state.facts ∪ told }

/-- A claim, and the fact told of it. -/
def putClaim (state : State Resource Claim Tag Terms) (claim : Claim)
    (record : Record Resource Tag) (told : Fact Resource Claim Tag Terms) :
    State Resource Claim Tag Terms :=
  { state with
    claims := Function.update state.claims claim (some record)
    facts := insert told state.facts }

end Updates

end State

section Moves

variable [DecidableEq Resource] [DecidableEq Claim]

/-- What the two stores may do.  A claim is given up only when it is lost. -/
inductive Move (state : State Resource Claim Tag Terms) :
    State Resource Claim Tag Terms → Prop
  | add (resource : Resource) (hold : Hold Claim Tag Terms)
      (hnew : state.holds resource = none) (hfree : hold.phase = .free) :
      Move state (state.putHold resource hold ∅)
  | hold (resource : Resource) (hold : Hold Claim Tag Terms) (tag : Tag)
      (hhold : state.holds resource = some hold) (hfree : hold.phase = .free) :
      Move state (state.putHold resource ⟨hold.generation + 1, some tag, .held⟩
        {.held ⟨resource, hold.generation + 1, tag⟩})
  | release (resource : Resource) (hold : Hold Claim Tag Terms)
      (hhold : state.holds resource = some hold) (hheld : hold.phase = .held) :
      Move state (state.putHold resource { hold with phase := .free }
        {.released resource hold.generation})
  | settle (claim : Claim) (attempt : Attempt Resource Tag) (terms : Terms)
      (hold : Hold Claim Tag Terms) (hfact : .claimed claim attempt terms ∈ state.facts)
      (hhold : state.holds attempt.resource = some hold)
      (hgeneration : hold.generation = attempt.generation)
      (htag : hold.tag = some attempt.tag) (hheld : hold.phase = .held) :
      Move state (state.putHold attempt.resource { hold with phase := .settled claim terms }
        {.settled attempt.resource attempt.generation claim})
  | giveBack (resource : Resource) (hold : Hold Claim Tag Terms) (claim : Claim)
      (terms : Terms) (hfact : .completed claim resource ∈ state.facts)
      (hhold : state.holds resource = some hold) (hphase : hold.phase = .settled claim terms) :
      Move state (state.putHold resource { hold with phase := .free } ∅)
  | claim (claim : Claim) (attempt : Attempt Resource Tag) (terms : Terms)
      (hfact : .held attempt ∈ state.facts) (hnew : state.claims claim = none) :
      Move state (state.putClaim claim ⟨attempt, .pending⟩ (.claimed claim attempt terms))
  | complete (claim : Claim) (record : Record Resource Tag)
      (hclaim : state.claims claim = some record) (hpending : record.progress = .pending) :
      Move state (state.putClaim claim { record with progress := .completed }
        (.completed claim record.attempt.resource))
  | cancel (claim : Claim) (record : Record Resource Tag)
      (hclaim : state.claims claim = some record) (hpending : record.progress = .pending)
      (hlost : state.Lost claim) :
      Move state (state.putClaim claim { record with progress := .cancelled }
        (.cancelled claim))

end Moves

/-- What the two stores agree on. -/
structure State.Consistent (state : State Resource Claim Tag Terms) : Prop where
  held : ∀ attempt, .held attempt ∈ state.facts →
    ∃ hold, state.holds attempt.resource = some hold ∧
      (attempt.generation < hold.generation ∨
        attempt.generation = hold.generation ∧ hold.tag = some attempt.tag)
  claimed : ∀ claim attempt terms, .claimed claim attempt terms ∈ state.facts →
    ∃ record, state.claims claim = some record ∧ record.attempt = attempt
  terms : ∀ claim attempt terms other terms', .claimed claim attempt terms ∈ state.facts →
    .claimed claim other terms' ∈ state.facts → terms = terms'
  rooted : ∀ claim record, state.claims claim = some record →
    .held record.attempt ∈ state.facts
  closed : ∀ resource generation claim, .settled resource generation claim ∈ state.facts →
    state.Closed resource generation
  settled : ∀ resource generation claim, .settled resource generation claim ∈ state.facts →
    ∃ record, state.claims claim = some record ∧ record.attempt.resource = resource ∧
      record.attempt.generation = generation ∧
      (record.progress = .completed ∨ record.progress = .pending ∧
        ∃ hold terms, state.holds resource = some hold ∧ hold.generation = generation ∧
          hold.phase = .settled claim terms)
  unique : ∀ resource generation claim other, .settled resource generation claim ∈ state.facts →
    .settled resource generation other ∈ state.facts → claim = other
  released : ∀ resource generation, .released resource generation ∈ state.facts →
    state.Closed resource generation ∧
      ∀ claim, .settled resource generation claim ∉ state.facts
  current : ∀ resource hold claim terms, state.holds resource = some hold →
    hold.phase = .settled claim terms →
      .settled resource hold.generation claim ∈ state.facts ∧
        ∃ tag, hold.tag = some tag ∧
          .claimed claim ⟨resource, hold.generation, tag⟩ terms ∈ state.facts
  completed : ∀ claim resource, .completed claim resource ∈ state.facts →
    ∃ record, state.claims claim = some record ∧ record.attempt.resource = resource ∧
      record.progress = .completed
  cancelled : ∀ claim, .cancelled claim ∈ state.facts →
    ∃ record, state.claims claim = some record ∧ record.progress = .cancelled
  abandoned : ∀ claim record, state.claims claim = some record →
    record.progress = .cancelled →
      state.Closed record.attempt.resource record.attempt.generation

/-! ## What a move keeps -/

/-- The hold of a later state. -/
inductive Hold.Grows (hold next : Hold Claim Tag Terms) : Prop
  | newer (hgeneration : hold.generation < next.generation)
  | same (hgeneration : hold.generation = next.generation) (htag : hold.tag = next.tag)
      (hphase : hold.phase ≠ .held → next.phase ≠ .held)

/-- The claim of a later state. -/
structure Record.Grows (record next : Record Resource Tag) : Prop where
  attempt : next.attempt = record.attempt
  progress : record.progress ≠ .pending → next.progress = record.progress

namespace State

section Holds

variable [DecidableEq Resource]

@[simp] theorem holds_putHold (state : State Resource Claim Tag Terms) (resource : Resource)
    (hold : Hold Claim Tag Terms) (told : Set (Fact Resource Claim Tag Terms)) :
    (state.putHold resource hold told).holds =
      Function.update state.holds resource (some hold) := rfl

@[simp] theorem claims_putHold (state : State Resource Claim Tag Terms) (resource : Resource)
    (hold : Hold Claim Tag Terms) (told : Set (Fact Resource Claim Tag Terms)) :
    (state.putHold resource hold told).claims = state.claims := rfl

@[simp] theorem facts_putHold (state : State Resource Claim Tag Terms) (resource : Resource)
    (hold : Hold Claim Tag Terms) (told : Set (Fact Resource Claim Tag Terms)) :
    (state.putHold resource hold told).facts = state.facts ∪ told := rfl

end Holds

section Claims

variable [DecidableEq Claim]

@[simp] theorem holds_putClaim (state : State Resource Claim Tag Terms) (claim : Claim)
    (record : Record Resource Tag) (told : Fact Resource Claim Tag Terms) :
    (state.putClaim claim record told).holds = state.holds := rfl

@[simp] theorem claims_putClaim (state : State Resource Claim Tag Terms) (claim : Claim)
    (record : Record Resource Tag) (told : Fact Resource Claim Tag Terms) :
    (state.putClaim claim record told).claims =
      Function.update state.claims claim (some record) := rfl

@[simp] theorem facts_putClaim (state : State Resource Claim Tag Terms) (claim : Claim)
    (record : Record Resource Tag) (told : Fact Resource Claim Tag Terms) :
    (state.putClaim claim record told).facts = insert told state.facts := rfl

end Claims

/-- A hold that grows, among holds that stay. -/
theorem putHold_grows [DecidableEq Resource] {state : State Resource Claim Tag Terms}
    {resource other : Resource} {next hold : Hold Claim Tag Terms}
    {told : Set (Fact Resource Claim Tag Terms)}
    (hgrows : ∀ old, state.holds resource = some old → old.Grows next)
    (hhold : state.holds other = some hold) :
    ∃ later, (state.putHold resource next told).holds other = some later ∧
      hold.Grows later := by
  by_cases hsame : other = resource
  · subst other
    exact ⟨next, Function.update_self _ _ _, hgrows hold hhold⟩
  · refine ⟨hold, ?_, .same rfl rfl id⟩
    rw [holds_putHold, Function.update_of_ne hsame]
    exact hhold

theorem putClaim_grows [DecidableEq Claim] {state : State Resource Claim Tag Terms}
    {claim other : Claim} {next record : Record Resource Tag}
    {told : Fact Resource Claim Tag Terms}
    (hgrows : ∀ old, state.claims claim = some old → old.Grows next)
    (hrecord : state.claims other = some record) :
    ∃ later, (state.putClaim claim next told).claims other = some later ∧
      record.Grows later := by
  by_cases hsame : other = claim
  · subst other
    exact ⟨next, Function.update_self _ _ _, hgrows record hrecord⟩
  · refine ⟨record, ?_, rfl, fun _ => rfl⟩
    rw [claims_putClaim, Function.update_of_ne hsame]
    exact hrecord

end State

section Kept

variable [DecidableEq Resource] [DecidableEq Claim]
  {state after : State Resource Claim Tag Terms}

namespace Move

theorem facts (hmove : Move state after) : state.facts ⊆ after.facts := by
  cases hmove with
  | add | hold | release | settle | giveBack => exact Set.subset_union_left
  | claim | complete | cancel => exact Set.subset_insert _ _

theorem hold_grows (hmove : Move state after) {resource : Resource}
    {hold : Hold Claim Tag Terms} (hhold : state.holds resource = some hold) :
    ∃ later, after.holds resource = some later ∧ hold.Grows later := by
  cases hmove with
  | add other next hnew hfree =>
      apply State.putHold_grows _ hhold
      intro old hold
      rw [hnew] at hold
      cases hold
  | hold other next tag hother hfree =>
      apply State.putHold_grows _ hhold
      intro old hold
      rw [hother, Option.some.injEq] at hold
      exact .newer (hold ▸ Int.lt_succ next.generation)
  | release other next hother hheld | giveBack other next claim terms hfact hother hphase =>
      apply State.putHold_grows _ hhold
      intro old hold
      rw [hother, Option.some.injEq] at hold
      subst old
      exact .same rfl rfl fun _ hnever => by cases hnever
  | settle claim attempt terms next hfact hother hgeneration htag hheld =>
      apply State.putHold_grows _ hhold
      intro old hold
      rw [hother, Option.some.injEq] at hold
      subst old
      exact .same rfl rfl fun _ hnever => by cases hnever
  | claim | complete | cancel => exact ⟨hold, hhold, .same rfl rfl id⟩

theorem claim_grows (hmove : Move state after) {claim : Claim} {record : Record Resource Tag}
    (hrecord : state.claims claim = some record) :
    ∃ later, after.claims claim = some later ∧ record.Grows later := by
  cases hmove with
  | add | hold | release | settle | giveBack => exact ⟨record, hrecord, rfl, fun _ => rfl⟩
  | claim other attempt terms hfact hnew =>
      apply State.putClaim_grows _ hrecord
      intro old hold
      rw [hnew] at hold
      cases hold
  | complete other next hother hpending | cancel other next hother hpending hlost =>
      apply State.putClaim_grows _ hrecord
      intro old hold
      rw [hother, Option.some.injEq] at hold
      subst old
      exact ⟨rfl, fun hdone => absurd hpending hdone⟩

/-- What is closed stays closed. -/
theorem closed (hmove : Move state after) {resource : Resource} {generation : ℤ}
    (hclosed : state.Closed resource generation) : after.Closed resource generation := by
  obtain ⟨hold, hhold, hpast⟩ := hclosed
  obtain ⟨later, hlater, hgrows⟩ := hmove.hold_grows hhold
  refine ⟨later, hlater, ?_⟩
  cases hgrows with
  | newer hgeneration =>
      left
      rcases hpast with hlt | ⟨heq, -⟩
      · exact hlt.trans hgeneration
      · exact heq ▸ hgeneration
  | same hgeneration htag hphase =>
      rcases hpast with hlt | ⟨heq, hne⟩
      · exact Or.inl (hgeneration ▸ hlt)
      · exact Or.inr ⟨heq.trans hgeneration, hphase hne⟩

/-- A hold is settled by a move only while it is held. -/
theorem settles (hmove : Move state after) {resource : Resource} {generation : ℤ}
    {claim : Claim} (hfact : .settled resource generation claim ∈ after.facts) :
    .settled resource generation claim ∈ state.facts ∨
      ¬ state.Closed resource generation ∧ ∃ attempt terms hold,
        .claimed claim attempt terms ∈ state.facts ∧ attempt.resource = resource ∧
          attempt.generation = generation ∧ after.holds resource = some hold ∧
            hold.generation = generation ∧ hold.phase = .settled claim terms := by
  cases hmove with
  | settle other attempt terms hold hclaimed hhold hgeneration htag hheld =>
      rcases hfact with hold' | hnew
      · exact Or.inl hold'
      · cases hnew
        refine Or.inr ⟨?_, attempt, terms, _, hclaimed, rfl, rfl, Function.update_self _ _ _,
          hgeneration, rfl⟩
        rw [← hgeneration]
        exact State.not_closed_of_held hhold hheld
  | add | hold | release | giveBack | claim | complete | cancel =>
      left
      simpa using hfact

/-- What is lost stays lost. -/
theorem lost (hmove : Move state after) {claim : Claim} (hlost : state.Lost claim) :
    after.Lost claim := by
  obtain ⟨record, hrecord, hclosed, hover⟩ := hlost
  obtain ⟨later, hlater, hgrows⟩ := hmove.claim_grows hrecord
  refine ⟨later, hlater, ?_, ?_⟩
  · rw [hgrows.attempt]
    exact hmove.closed hclosed
  · rw [hgrows.attempt]
    intro hfact
    rcases hmove.settles hfact with hold | ⟨hopen, -⟩
    · have hcompleted := hover hold
      rw [hgrows.progress (by simp [hcompleted]), hcompleted]
    · exact absurd hclosed hopen

/-- What was held before the move, or is held since. -/
theorem holds_told (hmove : Move state after) {attempt : Attempt Resource Tag}
    (hfact : .held attempt ∈ after.facts) :
    .held attempt ∈ state.facts ∨
      after.holds attempt.resource = some ⟨attempt.generation, some attempt.tag, .held⟩ := by
  cases hmove with
  | hold resource hold tag hhold hfree =>
      rcases hfact with hold' | hnew
      · exact Or.inl hold'
      · cases hnew
        exact Or.inr (Function.update_self _ _ _)
  | add | release | settle | giveBack | claim | complete | cancel =>
      left
      simpa using hfact

theorem claims_told (hmove : Move state after) {claim : Claim}
    {attempt : Attempt Resource Tag} {terms : Terms}
    (hfact : .claimed claim attempt terms ∈ after.facts) :
    .claimed claim attempt terms ∈ state.facts ∨
      state.claims claim = none ∧
        after = state.putClaim claim ⟨attempt, .pending⟩ (.claimed claim attempt terms) := by
  cases hmove with
  | claim other given granted hheld hnew =>
      rcases hfact with hnow | hold
      · cases hnow
        exact Or.inr ⟨hnew, rfl⟩
      · exact Or.inl hold
  | add | hold | release | settle | giveBack | complete | cancel =>
      left
      simpa using hfact

theorem releases (hmove : Move state after) {resource : Resource} {generation : ℤ}
    (hfact : .released resource generation ∈ after.facts) :
    .released resource generation ∈ state.facts ∨
      ¬ state.Closed resource generation ∧ after.Closed resource generation ∧
        ∀ claim, .settled resource generation claim ∈ after.facts →
          .settled resource generation claim ∈ state.facts := by
  cases hmove with
  | release other hold hhold hheld =>
      rcases hfact with hold' | hnew
      · exact Or.inl hold'
      · cases hnew
        refine Or.inr ⟨State.not_closed_of_held hhold hheld,
          ⟨_, Function.update_self _ _ _, Or.inr ⟨rfl, ?_⟩⟩, ?_⟩
        · exact fun hnever => by cases hnever
        · intro claim hsettled
          simpa using hsettled
  | add | hold | settle | giveBack | claim | complete | cancel =>
      left
      simpa using hfact

theorem completions (hmove : Move state after) {claim : Claim} {resource : Resource}
    (hfact : .completed claim resource ∈ after.facts) :
    .completed claim resource ∈ state.facts ∨
      ∃ record, state.claims claim = some record ∧ record.attempt.resource = resource ∧
        after.claims claim = some { record with progress := .completed } := by
  cases hmove with
  | complete other record hclaim hpending =>
      rcases hfact with hnow | hold
      · cases hnow
        exact Or.inr ⟨record, hclaim, rfl, Function.update_self _ _ _⟩
      · exact Or.inl hold
  | add | hold | release | settle | giveBack | claim | cancel =>
      left
      simpa using hfact

theorem cancellations (hmove : Move state after) {claim : Claim}
    (hfact : .cancelled claim ∈ after.facts) :
    .cancelled claim ∈ state.facts ∨
      ∃ record, after.claims claim = some record ∧ record.progress = .cancelled := by
  cases hmove with
  | cancel other record hclaim hpending hlost =>
      rcases hfact with hnow | hold
      · cases hnow
        exact Or.inr ⟨_, Function.update_self _ _ _, rfl⟩
      · exact Or.inl hold
  | add | hold | release | settle | giveBack | claim | complete =>
      left
      simpa using hfact

/-- Where a claim comes from. -/
theorem claim_cases (hmove : Move state after) {claim : Claim} {record : Record Resource Tag}
    (hrecord : after.claims claim = some record) :
    (∃ earlier, state.claims claim = some earlier ∧ earlier.Grows record ∧
      (record.progress = .cancelled → earlier.progress = .cancelled ∨ state.Lost claim)) ∨
    .held record.attempt ∈ state.facts ∧ record.progress = .pending := by
  cases hmove with
  | add | hold | release | settle | giveBack =>
      exact Or.inl ⟨record, hrecord, ⟨rfl, fun _ => rfl⟩, Or.inl⟩
  | claim other attempt terms hheld hnew =>
      rw [State.claims_putClaim, Function.update_apply] at hrecord
      split at hrecord
      · cases hrecord
        exact Or.inr ⟨hheld, rfl⟩
      · exact Or.inl ⟨record, hrecord, ⟨rfl, fun _ => rfl⟩, Or.inl⟩
  | complete other earlier hother hpending =>
      rw [State.claims_putClaim, Function.update_apply] at hrecord
      split at hrecord
      · rename_i hsame
        subst claim
        cases hrecord
        exact Or.inl ⟨earlier, hother, ⟨rfl, fun hne => absurd hpending hne⟩,
          fun hcancelled => by cases hcancelled⟩
      · exact Or.inl ⟨record, hrecord, ⟨rfl, fun _ => rfl⟩, Or.inl⟩
  | cancel other earlier hother hpending hlost =>
      rw [State.claims_putClaim, Function.update_apply] at hrecord
      split at hrecord
      · rename_i hsame
        subst claim
        cases hrecord
        exact Or.inl ⟨earlier, hother, ⟨rfl, fun hne => absurd hpending hne⟩,
          fun _ => Or.inr hlost⟩
      · exact Or.inl ⟨record, hrecord, ⟨rfl, fun _ => rfl⟩, Or.inl⟩

/-- A settled hold stays until its claim is completed. -/
theorem settled_hold (hmove : Move state after) {resource : Resource}
    {hold : Hold Claim Tag Terms} {claim : Claim} {terms : Terms}
    (hhold : state.holds resource = some hold) (hphase : hold.phase = .settled claim terms) :
    after.holds resource = some hold ∨ .completed claim resource ∈ state.facts := by
  cases hmove with
  | claim | complete | cancel => exact Or.inl hhold
  | add other next hother hfree =>
      left
      rw [State.holds_putHold, Function.update_of_ne]
      · exact hhold
      · rintro rfl
        rw [hhold] at hother
        cases hother
  | hold other next tag hother hfree =>
      left
      rw [State.holds_putHold, Function.update_of_ne]
      · exact hhold
      · rintro rfl
        rw [hhold, Option.some.injEq] at hother
        rw [hother, hfree] at hphase
        cases hphase
  | release other next hother hheld =>
      left
      rw [State.holds_putHold, Function.update_of_ne]
      · exact hhold
      · rintro rfl
        rw [hhold, Option.some.injEq] at hother
        rw [hother, hheld] at hphase
        cases hphase
  | settle other attempt granted next hclaimed hother hgeneration htag hheld =>
      left
      rw [State.holds_putHold, Function.update_of_ne]
      · exact hhold
      · rintro rfl
        rw [hhold, Option.some.injEq] at hother
        rw [hother, hheld] at hphase
        cases hphase
  | giveBack other next ended granted hcompleted hother hsettled =>
      by_cases hsame : resource = other
      · subst other
        rw [hhold, Option.some.injEq] at hother
        subst next
        rw [hphase] at hsettled
        cases hsettled
        exact Or.inr hcompleted
      · left
        rw [State.holds_putHold, Function.update_of_ne hsame]
        exact hhold

/-- Where a settled hold comes from. -/
theorem settled_cases (hmove : Move state after) {resource : Resource}
    {hold : Hold Claim Tag Terms} {claim : Claim} {terms : Terms}
    (hhold : after.holds resource = some hold) (hphase : hold.phase = .settled claim terms) :
    state.holds resource = some hold ∨
      ¬ state.Closed resource hold.generation ∧
        .settled resource hold.generation claim ∈ after.facts ∧
          ∃ tag, hold.tag = some tag ∧
            .claimed claim ⟨resource, hold.generation, tag⟩ terms ∈ state.facts := by
  cases hmove with
  | claim | complete | cancel => exact Or.inl hhold
  | add other next hother hfree =>
      rw [State.holds_putHold, Function.update_apply] at hhold
      split at hhold
      · cases hhold
        rw [hfree] at hphase
        cases hphase
      · exact Or.inl hhold
  | hold other next tag hother hfree | release other next hother hheld
  | giveBack other next ended granted hcompleted hother hsettled =>
      rw [State.holds_putHold, Function.update_apply] at hhold
      split at hhold
      · cases hhold
        cases hphase
      · exact Or.inl hhold
  | settle other attempt granted next hclaimed hother hgeneration htag hheld =>
      rw [State.holds_putHold, Function.update_apply] at hhold
      split at hhold
      · rename_i hsame
        subst resource
        cases hhold
        cases hphase
        have hopen : ¬ state.Closed attempt.resource next.generation :=
          State.not_closed_of_held hother hheld
        refine Or.inr ⟨hopen, ?_, attempt.tag, htag, ?_⟩
        · right
          simp [hgeneration]
        · rw [hgeneration]
          exact hclaimed
      · exact Or.inl hhold

/-- A claim that a move gives up was lost before. -/
theorem gives_up (hmove : Move state after) {claim : Claim} {record later : Record Resource Tag}
    (hrecord : state.claims claim = some record) (hlater : after.claims claim = some later)
    (hcancelled : later.progress = .cancelled) :
    record.progress = .cancelled ∨
      state.Closed record.attempt.resource record.attempt.generation ∧
        (.settled record.attempt.resource record.attempt.generation claim ∈ state.facts →
          record.progress = .completed) := by
  rcases hmove.claim_cases hlater with ⟨earlier, hearlier, -, hwhy⟩ | ⟨-, hpending⟩
  · rw [hrecord, Option.some.injEq] at hearlier
    subst earlier
    rcases hwhy hcancelled with hgone | ⟨found, hfound, hclosed, hover⟩
    · exact Or.inl hgone
    · rw [hrecord, Option.some.injEq] at hfound
      subst found
      exact Or.inr ⟨hclosed, hover⟩
  · rw [hcancelled] at hpending
    cases hpending

/-- A claim that settled its hold is not given up: a lost one never settles, and a hold
that is not held is never settled. -/
theorem settled_claim (hmove : Move state after) (hstate : state.Consistent)
    {resource : Resource} {generation : ℤ} {claim : Claim}
    (hfact : .settled resource generation claim ∈ after.facts) :
    ∃ record, after.claims claim = some record ∧ record.attempt.resource = resource ∧
      record.attempt.generation = generation ∧
      (record.progress = .completed ∨ record.progress = .pending ∧
        ∃ hold terms, after.holds resource = some hold ∧ hold.generation = generation ∧
          hold.phase = .settled claim terms) := by
  rcases hmove.settles hfact with hold |
    ⟨hopen, attempt, terms, hold, hclaimed, rfl, rfl, hhold, hgeneration, hphase⟩
  · obtain ⟨record, hrecord, rfl, rfl, hprogress⟩ :=
      hstate.settled resource generation claim hold
    obtain ⟨later, hlater, hgrows⟩ := hmove.claim_grows hrecord
    refine ⟨later, hlater, by rw [hgrows.attempt], by rw [hgrows.attempt], ?_⟩
    rcases hprogress with hdone | ⟨hpending, held, terms, hheld, hgeneration, hphase⟩
    · left
      rw [hgrows.progress (by simp [hdone]), hdone]
    · have hongoing : record.progress ≠ .completed := by simp [hpending]
      cases hlast : later.progress with
      | completed => exact Or.inl rfl
      | pending =>
          right
          refine ⟨rfl, held, terms, ?_, hgeneration, hphase⟩
          rcases hmove.settled_hold hheld hphase with hkept | hcompleted
          · exact hkept
          · obtain ⟨found, hfound, -, hdone⟩ := hstate.completed claim _ hcompleted
            rw [hrecord, Option.some.injEq] at hfound
            exact absurd (hfound ▸ hdone) hongoing
      | cancelled =>
          rcases hmove.gives_up hrecord hlater hlast with hgone | ⟨-, hover⟩
          · rw [hpending] at hgone
            cases hgone
          · exact absurd (hover hold) hongoing
  · obtain ⟨record, hrecord, rfl⟩ := hstate.claimed claim attempt terms hclaimed
    obtain ⟨later, hlater, hgrows⟩ := hmove.claim_grows hrecord
    refine ⟨later, hlater, by rw [hgrows.attempt], by rw [hgrows.attempt], ?_⟩
    cases hlast : later.progress with
    | completed => exact Or.inl rfl
    | pending => exact Or.inr ⟨rfl, hold, terms, hhold, hgeneration, hphase⟩
    | cancelled =>
        rcases hmove.gives_up hrecord hlater hlast with hgone | ⟨hclosed, -⟩
        · exact absurd (hstate.abandoned claim record hrecord hgone) hopen
        · exact absurd hclosed hopen

/-- Every move keeps what the stores agree on. -/
theorem consistent (hmove : Move state after) (hstate : state.Consistent) :
    after.Consistent := by
  constructor
  · intro attempt hfact
    rcases hmove.holds_told hfact with hold | hnew
    · obtain ⟨hold, hhold, hpast⟩ := hstate.held attempt hold
      obtain ⟨later, hlater, hgrows⟩ := hmove.hold_grows hhold
      refine ⟨later, hlater, ?_⟩
      cases hgrows with
      | newer hgeneration =>
          left
          rcases hpast with hlt | ⟨heq, -⟩
          · exact hlt.trans hgeneration
          · exact heq ▸ hgeneration
      | same hgeneration htag hphase =>
          rw [← hgeneration, ← htag]
          exact hpast
    · exact ⟨_, hnew, Or.inr ⟨rfl, rfl⟩⟩
  · intro claim attempt terms hfact
    rcases hmove.claims_told hfact with hold | ⟨-, rfl⟩
    · obtain ⟨record, hrecord, rfl⟩ := hstate.claimed claim attempt terms hold
      obtain ⟨later, hlater, hgrows⟩ := hmove.claim_grows hrecord
      exact ⟨later, hlater, hgrows.attempt⟩
    · exact ⟨_, Function.update_self _ _ _, rfl⟩
  · intro claim attempt terms other terms' hfact hother
    have hfresh : ∀ given granted, .claimed claim given granted ∈ state.facts →
        state.claims claim ≠ none := by
      intro given granted hold hnew
      obtain ⟨record, hrecord, -⟩ := hstate.claimed claim given granted hold
      rw [hnew] at hrecord
      cases hrecord
    rcases hmove.claims_told hfact with hold | ⟨hnew, rfl⟩
    · rcases hmove.claims_told hother with hold' | ⟨hnew, -⟩
      · exact hstate.terms claim attempt terms other terms' hold hold'
      · exact absurd hnew (hfresh attempt terms hold)
    · rcases hother with hsame | hold'
      · cases hsame
        rfl
      · exact absurd hnew (hfresh other terms' hold')
  · intro claim record hrecord
    rcases hmove.claim_cases hrecord with ⟨earlier, hearlier, hgrows, -⟩ | ⟨hheld, -⟩
    · rw [hgrows.attempt]
      exact hmove.facts (hstate.rooted claim earlier hearlier)
    · exact hmove.facts hheld
  · intro resource generation claim hfact
    rcases hmove.settles hfact with hold | ⟨-, attempt, terms, hold, -, -, -, hhold, hgeneration,
      hphase⟩
    · exact hmove.closed (hstate.closed resource generation claim hold)
    · refine ⟨hold, hhold, Or.inr ⟨hgeneration.symm, ?_⟩⟩
      rw [hphase]
      exact fun hnever => by cases hnever
  · intro resource generation claim hfact
    exact hmove.settled_claim hstate hfact
  · intro resource generation claim other hfact hother
    rcases hmove.settles hfact with hold | ⟨hopen, _, _, hold, -, -, -, hhold, -, hphase⟩
    · rcases hmove.settles hother with hold' | ⟨hopen, -⟩
      · exact hstate.unique resource generation claim other hold hold'
      · exact absurd (hstate.closed resource generation claim hold) hopen
    · rcases hmove.settles hother with hold' | ⟨-, _, _, hagain, -, -, -, hsame, -, hphase'⟩
      · exact absurd (hstate.closed resource generation other hold') hopen
      · rw [hhold, Option.some.injEq] at hsame
        subst hagain
        rw [hphase, Phase.settled.injEq] at hphase'
        exact hphase'.1
  · intro resource generation hfact
    rcases hmove.releases hfact with hold | ⟨hopen, hclosed, hsame⟩
    · obtain ⟨hclosed, hnone⟩ := hstate.released resource generation hold
      refine ⟨hmove.closed hclosed, fun claim hsettled => ?_⟩
      rcases hmove.settles hsettled with hold' | ⟨hopen, -⟩
      · exact hnone claim hold'
      · exact hopen hclosed
    · refine ⟨hclosed, fun claim hsettled => ?_⟩
      exact hopen (hstate.closed resource generation claim (hsame claim hsettled))
  · intro resource hold claim terms hhold hphase
    rcases hmove.settled_cases hhold hphase with hold' | ⟨-, hsettled, tag, htag, hclaimed⟩
    · obtain ⟨hsettled, tag, htag, hclaimed⟩ :=
        hstate.current resource hold claim terms hold' hphase
      exact ⟨hmove.facts hsettled, tag, htag, hmove.facts hclaimed⟩
    · exact ⟨hsettled, tag, htag, hmove.facts hclaimed⟩
  · intro claim resource hfact
    rcases hmove.completions hfact with hold | ⟨record, -, hresource, hlater⟩
    · obtain ⟨record, hrecord, rfl, hdone⟩ := hstate.completed claim resource hold
      obtain ⟨later, hlater, hgrows⟩ := hmove.claim_grows hrecord
      refine ⟨later, hlater, by rw [hgrows.attempt], ?_⟩
      exact (hgrows.progress (by simp [hdone])).trans hdone
    · exact ⟨_, hlater, hresource, rfl⟩
  · intro claim hfact
    rcases hmove.cancellations hfact with hold | hnew
    · obtain ⟨record, hrecord, hdone⟩ := hstate.cancelled claim hold
      obtain ⟨later, hlater, hgrows⟩ := hmove.claim_grows hrecord
      exact ⟨later, hlater, (hgrows.progress (by simp [hdone])).trans hdone⟩
    · exact hnew
  · intro claim record hrecord hcancelled
    rcases hmove.claim_cases hrecord with ⟨earlier, hearlier, hgrows, hwhy⟩ | ⟨-, hpending⟩
    · rw [hgrows.attempt]
      rcases hwhy hcancelled with hold | ⟨found, hfound, hclosed, -⟩
      · exact hmove.closed (hstate.abandoned claim earlier hearlier hold)
      · rw [hearlier, Option.some.injEq] at hfound
        subst found
        exact hmove.closed hclosed
    · rw [hpending] at hcancelled
      cases hcancelled

end Move

/-! ## Runs of moves -/

/-- What a later state has kept of an earlier one. -/
structure State.Before (earlier later : State Resource Claim Tag Terms) : Prop where
  facts : earlier.facts ⊆ later.facts
  lost : ∀ claim, earlier.Lost claim → later.Lost claim

omit [DecidableEq Resource] [DecidableEq Claim] in
theorem State.Before.refl (state : State Resource Claim Tag Terms) : state.Before state :=
  ⟨subset_rfl, fun _ => id⟩

omit [DecidableEq Resource] [DecidableEq Claim] in
theorem State.Before.trans {first second third : State Resource Claim Tag Terms}
    (hfirst : first.Before second) (hsecond : second.Before third) : first.Before third :=
  ⟨hfirst.facts.trans hsecond.facts,
    fun claim hlost => hsecond.lost claim (hfirst.lost claim hlost)⟩

/-- Any number of moves, one after the other. -/
abbrev Moves : State Resource Claim Tag Terms → State Resource Claim Tag Terms → Prop :=
  Relation.ReflTransGen Move

theorem Moves.consistent (hmoves : Moves state after) (hstate : state.Consistent) :
    after.Consistent := by
  induction hmoves with
  | refl => exact hstate
  | tail _ hmove ih => exact hmove.consistent ih

theorem Moves.before (hmoves : Moves state after) : state.Before after := by
  induction hmoves with
  | refl => exact .refl _
  | tail _ hmove ih => exact ih.trans ⟨hmove.facts, fun _ => hmove.lost⟩

/-- What one transaction does: a move, or moves that leave the claims. -/
inductive Turn (state after : State Resource Claim Tag Terms) : Prop
  | move (hmove : Move state after)
  | quiet (hmoves : Moves state after) (hclaims : after.claims = state.claims)

namespace Turn

theorem of_eq (hsame : after = state) : Turn state after := by
  rw [hsame]
  exact .quiet .refl rfl

theorem moves (hturn : Turn state after) : Moves state after := by
  cases hturn with
  | move hmove => exact .single hmove
  | quiet hmoves hclaims => exact hmoves

/-- Only a claim that was there before the transaction is completed in it. -/
theorem completed_claimed (hturn : Turn state after) (hstate : state.Consistent)
    {claim : Claim} {resource : Resource} (hfact : .completed claim resource ∈ after.facts) :
    ∃ record, state.claims claim = some record ∧ record.attempt.resource = resource := by
  cases hturn with
  | move hmove =>
      rcases hmove.completions hfact with hold | ⟨record, hrecord, hresource, -⟩
      · obtain ⟨record, hrecord, hresource, -⟩ := hstate.completed claim resource hold
        exact ⟨record, hrecord, hresource⟩
      · exact ⟨record, hrecord, hresource⟩
  | quiet hmoves hclaims =>
      obtain ⟨record, hrecord, hresource, -⟩ :=
        (Moves.consistent hmoves hstate).completed claim resource hfact
      exact ⟨record, hclaims ▸ hrecord, hresource⟩

end Turn

end Kept

/-! ## What consistent stores say about a claim -/

namespace State.Consistent

variable {state : State Resource Claim Tag Terms}

/-- The stores before the first hold. -/
theorem fresh (hholds : ∀ resource hold, state.holds resource = some hold → hold.phase = .free)
    (hclaims : ∀ claim, state.claims claim = none) (hfacts : state.facts = ∅) :
    state.Consistent where
  held _ hfact := by simp [hfacts] at hfact
  claimed _ _ _ hfact := by simp [hfacts] at hfact
  terms _ _ _ _ _ hfact := by simp [hfacts] at hfact
  rooted claim _ hrecord := by simp [hclaims claim] at hrecord
  closed _ _ _ hfact := by simp [hfacts] at hfact
  settled _ _ _ hfact := by simp [hfacts] at hfact
  unique _ _ _ _ hfact := by simp [hfacts] at hfact
  released _ _ hfact := by simp [hfacts] at hfact
  current resource hold _ _ hhold hphase := by simp [hholds resource hold hhold] at hphase
  completed _ _ hfact := by simp [hfacts] at hfact
  cancelled _ hfact := by simp [hfacts] at hfact
  abandoned claim _ hrecord := by simp [hclaims claim] at hrecord

/-- A settled hold has its claim, which is of the same attempt and was not given up. -/
theorem claim_of_settled (hstate : state.Consistent) {resource : Resource}
    {hold : Hold Claim Tag Terms} {claim : Claim} {terms : Terms}
    (hhold : state.holds resource = some hold) (hphase : hold.phase = .settled claim terms) :
    ∃ record tag, state.claims claim = some record ∧ hold.tag = some tag ∧
      record.attempt = ⟨resource, hold.generation, tag⟩ ∧ record.progress ≠ .cancelled := by
  obtain ⟨hsettled, tag, htag, hclaimed⟩ :=
    hstate.current resource hold claim terms hhold hphase
  obtain ⟨record, hrecord, hattempt⟩ := hstate.claimed claim _ terms hclaimed
  obtain ⟨found, hfound, -, -, hprogress⟩ := hstate.settled _ _ claim hsettled
  rw [hrecord, Option.some.injEq] at hfound
  subst found
  refine ⟨record, tag, hrecord, htag, hattempt, fun hcancelled => ?_⟩
  rw [hcancelled] at hprogress
  rcases hprogress with hdone | ⟨hpending, -⟩
  · cases hdone
  · cases hpending

theorem settled_not_released (hstate : state.Consistent) {resource : Resource}
    {generation : ℤ} {claim : Claim}
    (hsettled : .settled resource generation claim ∈ state.facts) :
    .released resource generation ∉ state.facts :=
  fun hreleased => (hstate.released resource generation hreleased).2 claim hsettled

theorem settled_not_cancelled (hstate : state.Consistent) {resource : Resource}
    {generation : ℤ} {claim : Claim}
    (hsettled : .settled resource generation claim ∈ state.facts) :
    .cancelled claim ∉ state.facts := by
  intro hcancelled
  obtain ⟨record, hrecord, -, -, hprogress⟩ := hstate.settled _ _ claim hsettled
  obtain ⟨found, hfound, hgone⟩ := hstate.cancelled claim hcancelled
  rw [hrecord, Option.some.injEq] at hfound
  rw [hfound, hgone] at hprogress
  rcases hprogress with hdone | ⟨hpending, -⟩
  · cases hdone
  · cases hpending

/-- The claim of a released hold is lost. -/
theorem lost_of_released (hstate : state.Consistent) {claim : Claim}
    {record : Record Resource Tag} (hrecord : state.claims claim = some record)
    (hreleased : .released record.attempt.resource record.attempt.generation ∈ state.facts) :
    state.Lost claim := by
  obtain ⟨hclosed, hnone⟩ := hstate.released _ _ hreleased
  exact ⟨record, hrecord, hclosed, fun hsettled => absurd hsettled (hnone claim)⟩

/-- A hold that was told of is closed when it is no longer held for that attempt. -/
theorem closed_of_stale (hstate : state.Consistent) {attempt : Attempt Resource Tag}
    {hold : Hold Claim Tag Terms} (hheld : .held attempt ∈ state.facts)
    (hhold : state.holds attempt.resource = some hold)
    (hstale : hold.generation = attempt.generation → hold.tag = some attempt.tag →
      hold.phase ≠ .held) : state.Closed attempt.resource attempt.generation := by
  obtain ⟨found, hfound, hpast⟩ := hstate.held attempt hheld
  rw [hhold, Option.some.injEq] at hfound
  subst found
  refine ⟨hold, hhold, ?_⟩
  rcases hpast with hlt | ⟨heq, htag⟩
  · exact Or.inl hlt
  · exact Or.inr ⟨heq, hstale heq.symm htag⟩

/-- A claim whose hold is neither held for it nor settled by it is lost. -/
theorem lost_of_stale (hstate : state.Consistent) {claim : Claim}
    {attempt : Attempt Resource Tag} {terms : Terms} {hold : Hold Claim Tag Terms}
    (hclaimed : .claimed claim attempt terms ∈ state.facts)
    (hhold : state.holds attempt.resource = some hold)
    (hstale : hold.generation = attempt.generation → hold.tag = some attempt.tag →
      hold.phase ≠ .held ∧ hold.phase ≠ .settled claim terms) : state.Lost claim := by
  obtain ⟨record, hrecord, rfl⟩ := hstate.claimed claim attempt terms hclaimed
  have hheld := hstate.rooted claim record hrecord
  refine ⟨record, hrecord, ?_, fun hsettled => ?_⟩
  · exact hstate.closed_of_stale hheld hhold fun hgeneration htag => (hstale hgeneration htag).1
  · obtain ⟨settler, hsettler, -, -, hprogress⟩ := hstate.settled _ _ claim hsettled
    rw [hrecord, Option.some.injEq] at hsettler
    subst settler
    rcases hprogress with hdone | ⟨-, current, granted, hcurrent, hgeneration, hphase⟩
    · exact hdone
    · rw [hhold, Option.some.injEq] at hcurrent
      subst current
      obtain ⟨-, tag, htag, hagain⟩ := hstate.current _ hold claim granted hhold hphase
      have hterms := hstate.terms claim _ _ _ _ hclaimed hagain
      subst granted
      have hsame : hold.tag = some record.attempt.tag := by
        obtain ⟨own, tag, hown, htag, hattempt, -⟩ := hstate.claim_of_settled hhold hphase
        rw [hrecord, Option.some.injEq] at hown
        rw [htag, hown, hattempt]
      exact absurd hphase (hstale hgeneration hsame).2

end State.Consistent

end SemanticLock

end LibrarySystem
