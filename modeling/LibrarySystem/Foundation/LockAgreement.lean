import LibrarySystem.Foundation.SemanticLock

/-!
# When the two stores agree

A fact is dealt with once the other store has answered it, and stays dealt with.  Where
every fact is, nothing is tentative: what is held has been settled or released, and the
settled holds are those of the claims that are pending.
-/

namespace LibrarySystem

namespace SemanticLock

variable {Resource Claim Tag Terms : Type}

namespace State

/-- Everything that the stores contain was told. -/
structure Told (state : State Resource Claim Tag Terms) : Prop where
  held : ∀ resource hold, state.holds resource = some hold → hold.phase = .held →
    ∃ tag, hold.tag = some tag ∧ .held ⟨resource, hold.generation, tag⟩ ∈ state.facts
  claimed : ∀ claim record, state.claims claim = some record →
    ∃ terms, .claimed claim record.attempt terms ∈ state.facts
  completed : ∀ claim record, state.claims claim = some record →
    record.progress = .completed → .completed claim record.attempt.resource ∈ state.facts

/-- A hold is answered by a claim, unless it is over. -/
def Engaged (state : State Resource Claim Tag Terms) (attempt : Attempt Resource Tag) : Prop :=
  state.Closed attempt.resource attempt.generation ∨
    ∃ claim record, state.claims claim = some record ∧ record.attempt = attempt

/-- A claim is answered by settling its hold, unless it is over. -/
def Answered (state : State Resource Claim Tag Terms) (claim : Claim) : Prop :=
  ∃ record, state.claims claim = some record ∧
    state.Closed record.attempt.resource record.attempt.generation ∧
    (.settled record.attempt.resource record.attempt.generation claim ∈ state.facts ∨
      record.progress ≠ .pending)

/-- A completed claim is answered when its hold is no longer settled by it. -/
def Vacated (state : State Resource Claim Tag Terms) (claim : Claim) : Prop :=
  ∃ record hold, state.claims claim = some record ∧
    state.Closed record.attempt.resource record.attempt.generation ∧
    state.holds record.attempt.resource = some hold ∧
    ∀ terms, hold.phase ≠ .settled claim terms

/-- The other store has dealt with the fact. -/
def Dealt (state : State Resource Claim Tag Terms) : Fact Resource Claim Tag Terms → Prop
  | .held attempt => state.Engaged attempt
  | .claimed claim _ _ => state.Answered claim
  | .completed claim _ => state.Vacated claim
  | .settled _ _ _ | .released _ _ | .cancelled _ => True

/-- Nothing is tentative, and the settled holds are those of the pending claims. -/
structure Agreed (state : State Resource Claim Tag Terms) : Prop where
  held : ∀ resource hold, state.holds resource = some hold → hold.phase ≠ .held
  settled : ∀ resource hold claim terms, state.holds resource = some hold →
    hold.phase = .settled claim terms →
      ∃ tag, hold.tag = some tag ∧
        state.claims claim = some ⟨⟨resource, hold.generation, tag⟩, .pending⟩
  pending : ∀ claim record, state.claims claim = some record → record.progress = .pending →
    ∃ hold terms, state.holds record.attempt.resource = some hold ∧
      hold.generation = record.attempt.generation ∧
      hold.tag = some record.attempt.tag ∧ hold.phase = .settled claim terms

end State

section Kept

variable [DecidableEq Resource] [DecidableEq Claim]
  {state after : State Resource Claim Tag Terms}

namespace State.Told

omit [DecidableEq Resource] [DecidableEq Claim] in
/-- The stores before the first hold. -/
theorem fresh (hholds : ∀ resource hold, state.holds resource = some hold → hold.phase = .free)
    (hclaims : ∀ claim, state.claims claim = none) : state.Told where
  held resource hold hhold hheld := by simp [hholds resource hold hhold] at hheld
  claimed claim record hrecord := by simp [hclaims claim] at hrecord
  completed claim record hrecord := by simp [hclaims claim] at hrecord

omit [DecidableEq Claim] in
/-- A hold that is told of, if it is held. -/
theorem putHold (htold : state.Told) {resource : Resource} {hold : Hold Claim Tag Terms}
    {told : Set (Fact Resource Claim Tag Terms)}
    (hheld : hold.phase = .held →
      ∃ tag, hold.tag = some tag ∧ .held ⟨resource, hold.generation, tag⟩ ∈ told) :
    (state.putHold resource hold told).Told where
  held other found hfound hphase := by
    rw [holds_putHold, Function.update_apply] at hfound
    split at hfound
    · rename_i hsame
      subst other
      cases hfound
      obtain ⟨tag, htag, hfact⟩ := hheld hphase
      exact ⟨tag, htag, Or.inr hfact⟩
    · obtain ⟨tag, htag, hfact⟩ := htold.held other found hfound hphase
      exact ⟨tag, htag, Or.inl hfact⟩
  claimed claim record hrecord := by
    obtain ⟨terms, hfact⟩ := htold.claimed claim record hrecord
    exact ⟨terms, Or.inl hfact⟩
  completed claim record hrecord hdone := Or.inl (htold.completed claim record hrecord hdone)

omit [DecidableEq Resource] in
/-- A claim that was told of, or is. -/
theorem putClaim (htold : state.Told) {claim : Claim} {record : Record Resource Tag}
    {told : Fact Resource Claim Tag Terms}
    (hclaimed : ∃ terms, .claimed claim record.attempt terms ∈ insert told state.facts)
    (hdone : record.progress = .completed → told = .completed claim record.attempt.resource) :
    (state.putClaim claim record told).Told where
  held resource hold hhold hphase := by
    obtain ⟨tag, htag, hfact⟩ := htold.held resource hold hhold hphase
    exact ⟨tag, htag, Or.inr hfact⟩
  claimed other found hfound := by
    rw [claims_putClaim, Function.update_apply] at hfound
    split at hfound
    · rename_i hsame
      subst other
      cases hfound
      exact hclaimed
    · obtain ⟨terms, hfact⟩ := htold.claimed other found hfound
      exact ⟨terms, Or.inr hfact⟩
  completed other found hfound hcompleted := by
    rw [claims_putClaim, Function.update_apply] at hfound
    split at hfound
    · rename_i hsame
      subst other
      cases hfound
      exact Or.inl (hdone hcompleted).symm
    · exact Or.inr (htold.completed other found hfound hcompleted)

end State.Told

namespace Move

/-- Every move tells what it does. -/
theorem told (hmove : Move state after) (htold : state.Told) : after.Told := by
  cases hmove with
  | add resource hold hnew hfree =>
      apply htold.putHold
      intro hheld
      rw [hfree] at hheld
      cases hheld
  | hold resource hold tag hhold hfree =>
      exact htold.putHold fun _ => ⟨tag, rfl, rfl⟩
  | release resource hold hhold hheld | giveBack resource hold claim terms hfact hhold hphase =>
      exact htold.putHold fun hnever => by cases hnever
  | settle claim attempt terms hold hfact hhold hgeneration htag hheld =>
      exact htold.putHold fun hnever => by cases hnever
  | claim claim attempt terms hfact hnew =>
      exact htold.putClaim ⟨terms, Or.inl rfl⟩ fun hnever => by cases hnever
  | complete claim record hclaim hpending =>
      obtain ⟨terms, hfact⟩ := htold.claimed claim record hclaim
      exact htold.putClaim ⟨terms, Or.inr hfact⟩ fun _ => rfl
  | cancel claim record hclaim hpending hlost =>
      obtain ⟨terms, hfact⟩ := htold.claimed claim record hclaim
      exact htold.putClaim ⟨terms, Or.inr hfact⟩ fun hnever => by cases hnever

/-- A claim whose hold is over does not settle it. -/
theorem unsettled (hmove : Move state after) (hstate : state.Consistent) {claim : Claim}
    {record : Record Resource Tag} {hold later : Hold Claim Tag Terms}
    (hrecord : state.claims claim = some record)
    (hclosed : state.Closed record.attempt.resource record.attempt.generation)
    (hhold : state.holds record.attempt.resource = some hold)
    (hlater : after.holds record.attempt.resource = some later)
    (hfree : ∀ terms, hold.phase ≠ .settled claim terms) (terms : Terms) :
    later.phase ≠ .settled claim terms := by
  intro hsettled
  rcases hmove.settled_cases hlater hsettled with hsame | ⟨hopen, -, tag, -, hclaimed⟩
  · rw [hhold, Option.some.injEq] at hsame
    exact hfree terms (hsame ▸ hsettled)
  · obtain ⟨found, hfound, hattempt⟩ := hstate.claimed claim _ terms hclaimed
    rw [hrecord, Option.some.injEq] at hfound
    subst found
    apply hopen
    rw [hattempt] at hclosed ⊢
    exact hclosed

theorem engaged (hmove : Move state after) {attempt : Attempt Resource Tag}
    (hengaged : state.Engaged attempt) : after.Engaged attempt := by
  rcases hengaged with hclosed | ⟨claim, record, hrecord, hattempt⟩
  · exact Or.inl (hmove.closed hclosed)
  · obtain ⟨later, hlater, hgrows⟩ := hmove.claim_grows hrecord
    exact Or.inr ⟨claim, later, hlater, hgrows.attempt.trans hattempt⟩

theorem answered (hmove : Move state after) {claim : Claim} (hanswered : state.Answered claim) :
    after.Answered claim := by
  obtain ⟨record, hrecord, hclosed, hover⟩ := hanswered
  obtain ⟨later, hlater, hgrows⟩ := hmove.claim_grows hrecord
  refine ⟨later, hlater, ?_, ?_⟩
  · rw [hgrows.attempt]
    exact hmove.closed hclosed
  · rw [hgrows.attempt]
    rcases hover with hsettled | hdone
    · exact Or.inl (hmove.facts hsettled)
    · exact Or.inr (hgrows.progress hdone ▸ hdone)

theorem vacated (hmove : Move state after) (hstate : state.Consistent) {claim : Claim}
    (hvacated : state.Vacated claim) : after.Vacated claim := by
  obtain ⟨record, hold, hrecord, hclosed, hhold, hfree⟩ := hvacated
  obtain ⟨later, hlater, hgrows⟩ := hmove.claim_grows hrecord
  obtain ⟨next, hnext, -⟩ := hmove.hold_grows hhold
  refine ⟨later, next, hlater, ?_, ?_, ?_⟩
  · rw [hgrows.attempt]
    exact hmove.closed hclosed
  · rw [hgrows.attempt]
    exact hnext
  · exact hmove.unsettled hstate hrecord hclosed hhold hnext hfree

end Move

theorem Moves.told (hmoves : Moves state after) (htold : state.Told) : after.Told := by
  induction hmoves with
  | refl => exact htold
  | tail _ hmove ih => exact hmove.told ih

theorem Moves.claim_grows (hmoves : Moves state after) {claim : Claim}
    {record : Record Resource Tag} (hrecord : state.claims claim = some record) :
    ∃ later, after.claims claim = some later ∧ record.Grows later := by
  induction hmoves with
  | refl => exact ⟨record, hrecord, rfl, fun _ => rfl⟩
  | tail _ hmove ih =>
      obtain ⟨later, hlater, hgrows⟩ := ih
      obtain ⟨last, hlast, hagain⟩ := hmove.claim_grows hlater
      refine ⟨last, hlast, hagain.attempt.trans hgrows.attempt, fun hover => ?_⟩
      have hkept := hgrows.progress hover
      exact (hagain.progress (hkept ▸ hover)).trans hkept

theorem Moves.engaged (hmoves : Moves state after) {attempt : Attempt Resource Tag}
    (hengaged : state.Engaged attempt) : after.Engaged attempt := by
  induction hmoves with
  | refl => exact hengaged
  | tail _ hmove ih => exact hmove.engaged ih

theorem Moves.answered (hmoves : Moves state after) {claim : Claim}
    (hanswered : state.Answered claim) : after.Answered claim := by
  induction hmoves with
  | refl => exact hanswered
  | tail _ hmove ih => exact hmove.answered ih

theorem Moves.vacated (hmoves : Moves state after) (hstate : state.Consistent) {claim : Claim}
    (hvacated : state.Vacated claim) : after.Vacated claim := by
  induction hmoves with
  | refl => exact hvacated
  | tail hbefore hmove ih => exact hmove.vacated (Moves.consistent hbefore hstate) ih

/-- What was dealt with stays dealt with. -/
theorem Moves.dealt (hmoves : Moves state after) (hstate : state.Consistent)
    {fact : Fact Resource Claim Tag Terms} (hdealt : state.Dealt fact) : after.Dealt fact := by
  cases fact with
  | held attempt => exact hmoves.engaged hdealt
  | claimed claim attempt terms => exact hmoves.answered hdealt
  | completed claim resource => exact hmoves.vacated hstate hdealt
  | settled | released | cancelled => trivial

end Kept

/-! ## How facts are dealt with -/

namespace State

variable {state : State Resource Claim Tag Terms}

/-- A claim that settled its hold. -/
theorem Consistent.answered_of_settled (hstate : state.Consistent) {resource : Resource}
    {generation : ℤ} {claim : Claim}
    (hsettled : .settled resource generation claim ∈ state.facts) : state.Answered claim := by
  obtain ⟨record, hrecord, rfl, rfl, -⟩ := hstate.settled _ _ claim hsettled
  exact ⟨record, hrecord, hstate.closed _ _ claim hsettled, Or.inl hsettled⟩

/-- A claim that was given up. -/
theorem Consistent.answered_of_cancelled (hstate : state.Consistent) {claim : Claim}
    (hcancelled : .cancelled claim ∈ state.facts) : state.Answered claim := by
  obtain ⟨record, hrecord, hgone⟩ := hstate.cancelled claim hcancelled
  exact ⟨record, hrecord, hstate.abandoned claim record hrecord hgone, Or.inr (by simp [hgone])⟩

/-- A lost claim that is over. -/
theorem Lost.answered {claim : Claim} {record : Record Resource Tag}
    (hlost : state.Lost claim) (hrecord : state.claims claim = some record)
    (hover : record.progress ≠ .pending) : state.Answered claim := by
  obtain ⟨found, hfound, hclosed, -⟩ := hlost
  rw [hrecord, Option.some.injEq] at hfound
  subst found
  exact ⟨record, hrecord, hclosed, Or.inr hover⟩

/-- A completed claim whose hold was seen to be past it. -/
theorem Consistent.vacated (hstate : state.Consistent) {claim : Claim} {resource : Resource}
    {hold : Hold Claim Tag Terms} (hanswered : state.Answered claim)
    (hcompleted : .completed claim resource ∈ state.facts)
    (hhold : state.holds resource = some hold)
    (hfree : ∀ terms, hold.phase ≠ .settled claim terms) : state.Vacated claim := by
  obtain ⟨record, hrecord, hclosed, -⟩ := hanswered
  obtain ⟨found, hfound, rfl, -⟩ := hstate.completed claim resource hcompleted
  rw [hrecord, Option.some.injEq] at hfound
  subst found
  exact ⟨record, hold, hrecord, hclosed, hhold, hfree⟩

/-- What is completed and past its hold was answered. -/
theorem Consistent.answered_of_vacated (hstate : state.Consistent) {claim : Claim}
    {resource : Resource} (hcompleted : .completed claim resource ∈ state.facts)
    (hvacated : state.Vacated claim) : state.Answered claim := by
  obtain ⟨record, hold, hrecord, hclosed, -, -⟩ := hvacated
  obtain ⟨found, hfound, -, hdone⟩ := hstate.completed claim resource hcompleted
  rw [hrecord, Option.some.injEq] at hfound
  exact ⟨record, hrecord, hclosed, Or.inr (by simp [hfound, hdone])⟩

end State

namespace State.Agreed

variable {state : State Resource Claim Tag Terms}

/-- Where every fact is dealt with, the stores agree. -/
theorem of_dealt (hstate : state.Consistent) (htold : state.Told)
    (hdealt : ∀ fact ∈ state.facts, state.Dealt fact) : state.Agreed where
  held resource hold hhold hheld := by
    obtain ⟨tag, -, hfact⟩ := htold.held resource hold hhold hheld
    have hopen := not_closed_of_held hhold hheld
    rcases hdealt _ hfact with hclosed | ⟨claim, record, hrecord, hattempt⟩
    · exact hopen hclosed
    · obtain ⟨terms, hclaimed⟩ := htold.claimed claim record hrecord
      obtain ⟨found, hfound, hclosed, -⟩ := hdealt _ hclaimed
      rw [hrecord, Option.some.injEq] at hfound
      subst found
      rw [hattempt] at hclosed
      exact hopen hclosed
  settled resource hold claim terms hhold hphase := by
    obtain ⟨record, tag, hrecord, htag, hattempt, hongoing⟩ :=
      hstate.claim_of_settled hhold hphase
    refine ⟨tag, htag, ?_⟩
    have hpending : record.progress = .pending := by
      cases hprogress : record.progress with
      | pending => rfl
      | cancelled => exact absurd hprogress hongoing
      | completed =>
          obtain ⟨found, current, hfound, -, hcurrent, hvacated⟩ :=
            hdealt _ (htold.completed claim record hrecord hprogress)
          rw [hrecord, Option.some.injEq] at hfound
          subst found
          rw [hattempt, hhold, Option.some.injEq] at hcurrent
          subst current
          exact absurd hphase (hvacated terms)
    rw [hrecord, ← hattempt, ← hpending]
  pending claim record hrecord hpending := by
    obtain ⟨terms, hclaimed⟩ := htold.claimed claim record hrecord
    obtain ⟨found, hfound, -, hsettled | hover⟩ := hdealt _ hclaimed
    · rw [hrecord, Option.some.injEq] at hfound
      subst found
      obtain ⟨found, hfound, -, -, hdone | ⟨-, hold, granted, hhold, hgeneration, hphase⟩⟩ :=
        hstate.settled _ _ claim hsettled
      · rw [hrecord, Option.some.injEq] at hfound
        rw [← hfound, hpending] at hdone
        cases hdone
      · refine ⟨hold, granted, hhold, hgeneration, ?_, hphase⟩
        obtain ⟨own, tag, hown, htag, hattempt, -⟩ := hstate.claim_of_settled hhold hphase
        rw [hrecord, Option.some.injEq] at hown
        rw [htag, hown, hattempt]
    · rw [hrecord, Option.some.injEq] at hfound
      exact absurd (hfound ▸ hpending) hover

end State.Agreed

end SemanticLock

end LibrarySystem
