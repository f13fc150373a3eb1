import LibrarySystem.Application.SagaSafety
import LibrarySystem.Foundation.LockAgreement
import LibrarySystem.Persistence.Constructors

/-!
# Catalog and lending agree at quiescence

Events of one aggregate are first handled in commit order; otherwise they arrive in any
order and any number of times.  A handler that returns has dealt with its event, by what it
committed or by what it saw.  Where every event is handled, the two contexts agree.
-/

namespace LibrarySystem

open Run (Spec Knowledge)
open SemanticLock (Move Moves Turn)

/-! ## Books that are past a message -/

section Books

variable {rt : PythonRuntime} {book : Book}

/-- A confirmation that changes nothing finds the book borrowed by its loan. -/
theorem Book.confirm_idle {after : Book} {reservationId patronId loanId : PyStr} {generation : ℤ}
    {borrowedAt returnDueDate : DateTime} {events : List AggregateEvent}
    (hconfirm : book.confirmBorrow rt reservationId generation patronId loanId borrowedAt
      returnDueDate = .ok (after, false, events)) :
    ∃ loan, Book.normalizeReference loanId (py "loan_id") = .ok loan ∧
      book.state.status = .borrowed ∧ book.state.current_loan_id = some loan := by
  unfold Book.confirmBorrow at hconfirm
  simp only [Result.bind_eq_ok, Result.throw_eq, Result.error_bind, Result.pure_eq] at hconfirm
  obtain ⟨token, -, loan, hloan, borrowed, -, due, -, hrest⟩ := hconfirm
  split at hrest
  · rename_i hborrowed
    exact ⟨loan, hloan, hborrowed⟩
  · split at hrest
    · cases hrest
    · split at hrest
      · cases hrest
      · split at hrest <;> cases hrest

/-- A book that refuses a release as stale is not held for that reservation. -/
theorem Book.release_stale {reservationId patronId reason : PyStr} {token : Uuid}
    {generation : ℤ} {raised : Raised} (htoken : rt.parseUuid reservationId = some token)
    (hstale : raised.IsStaleReservation)
    (hrelease : book.release rt reservationId generation patronId reason = .error raised)
    (hgeneration : book.state.hold.generation = generation)
    (htag : book.state.hold.tag = some (token, patronId)) : book.state.hold.phase ≠ .held := by
  obtain ⟨hreservation, hpatron⟩ := BookState.tag_eq_some.mp htag
  have hmatch : book.requireMatchingReservation rt reservationId generation patronId
      (py "release reservation") = .ok token := by
    have hsame : (book.state.reservation_generation : ℤ) = generation := hgeneration
    simp [Book.requireMatchingReservation, Book.parseReservationId,
      parseReservationId_eq_ok_iff.mpr htoken, hreservation, hsame, hpatron]
  obtain ⟨_, _, _, _, rfl⟩ := hstale
  unfold Book.release at hrelease
  rw [hmatch, Result.ok_bind] at hrelease
  obtain hfold | ⟨text, -, hrest⟩ := Result.bind_eq_error.mp hrelease
  · unfold foldText at hfold
    split at hfold
    · cases hfold
    · split at hfold <;> cases hfold
  · intro hheld
    have hreserved : book.state.status = .reserved := by
      cases hstatus : book.state.status with
      | reserved => rfl
      | available | borrowed => simp [BookState.hold, BookState.phase, hstatus] at hheld
    simp [hreserved] at hrest

/-- A book that is past the completion of a loan is not borrowed by it. -/
theorem Book.return_spent {loanId reservationId patronId : PyStr} {generation : ℤ}
    (hspent : (∃ after events,
        book.returnBook rt loanId reservationId generation patronId = .ok (after, false, events)) ∨
      ∃ raised, Raised.IsStaleLoanCompletion raised ∧
        book.returnBook rt loanId reservationId generation patronId = .error raised)
    (terms : LockTerms) : book.state.hold.phase ≠ .settled loanId terms := by
  intro hphase
  have hborrowed : book.state.status = .borrowed := by
    cases hstatus : book.state.status with
    | borrowed => rfl
    | available | reserved => simp [BookState.hold, BookState.phase, hstatus] at hphase
  obtain ⟨-, -, -, hsome, -⟩ := Book.borrowed_ok hborrowed
  obtain ⟨current, hcurrent⟩ := Option.isSome_iff_exists.mp hsome
  have hsame : current.val = loanId := by
    simp only [BookState.hold, BookState.phase, hborrowed, hcurrent, Option.map_some,
      Option.getD_some, SemanticLock.Phase.settled.injEq] at hphase
    exact hphase.1
  subst loanId
  have hreference : Book.normalizeReference current.val (py "loan_id") = .ok current :=
    normalizeReference_val _ current
  simp only [Book.returnBook, hreference, Result.ok_bind, hborrowed, hcurrent, reduceCtorEq,
    false_and, if_false, and_self, dite_true] at hspent
  obtain ⟨_, _, hsame⟩ | ⟨_, ⟨_, _, rfl⟩, hstale⟩ := hspent
  · obtain ⟨_, -, hsame⟩ := Result.bind_eq_ok.mp hsame
    obtain ⟨_, -, hnever⟩ := Result.bind_eq_ok.mp hsame
    cases hnever
  · obtain hparse | ⟨_, -, hstale⟩ := Result.bind_eq_error.mp hstale
    · unfold Book.parseReservationId LibrarySystem.parseReservationId at hparse
      split at hparse <;> cases hparse
    · obtain hmatch | ⟨_, -, hnever⟩ := Result.bind_eq_error.mp hstale
      · obtain ⟨-, hnever⟩ | ⟨-, hnever⟩ := ite_eq_iff.mp hmatch <;> cases hnever
      · cases hnever

end Books

/-! ## What a handler that returns has seen -/

/-- What the event tells was dealt with by the other context. -/
def AggregateEvent.Dealt (rt : PythonRuntime) (lock : LockState) (event : AggregateEvent) :
    Prop :=
  ∀ fact, event.told rt = some fact → lock.Dealt fact

/-- A completed loan is let in once its creation was answered. -/
def SagaRequest.Ready (rt : PythonRuntime) (saga : Saga) (request : SagaRequest) : Prop :=
  request.Admissible saga ∧ ∀ event, request = .deliver (.loanCompleted event) →
    (saga.lock rt).Answered event.loan_id

/-- Every state that was seen was consistent and told what it contains, and led to this one. -/
def Descends (rt : PythonRuntime) (past : Set Saga) (saga : Saga) : Prop :=
  ∀ view ∈ past, (view.lock rt).Consistent ∧ (view.lock rt).Told ∧
    Moves (view.lock rt) (saga.lock rt)

section Readings

variable {rt : PythonRuntime} {saga : Saga} {past : Set Saga} {request : SagaRequest}
  {known : Knowledge Observation PyStr} {admissible : Saga → SagaRequest → Prop}

theorem Saga.seen_book {id : PyStr} {row : BookRow} {book : Book}
    (hviewed : Interleaving.ViewedSince (borrowSaga rt) admissible past request known)
    (hloaded : Loaded known id row book) :
    ∃ view ∈ past, admissible view request ∧ (view.lock rt).holds id = some book.state.hold := by
  obtain ⟨⟨seen, hseen, hrow⟩, hbook⟩ := hloaded
  obtain ⟨view, hview, hadmissible, draws, rfl⟩ := hviewed seen hseen
  obtain ⟨-, hstate⟩ := BookRow.hydrated hbook
  refine ⟨view, hview, hadmissible, ?_⟩
  rw [← hstate]
  exact congrArg (Option.map fun row : BookRow => row.state.hold) hrow

theorem Saga.seen_loan {row : LoanRow} {loan : Loan}
    (hviewed : Interleaving.ViewedSince (borrowSaga rt) admissible past request known)
    (hloaded : Loaded known row.id.val row loan) :
    ∃ view ∈ past, admissible view request ∧
      (view.lock rt).claims row.id.val = some (LoanRow.ofEntity loan 0).claim := by
  obtain ⟨⟨seen, hseen, hrow⟩, hloan⟩ := hloaded
  obtain ⟨view, hview, hadmissible, draws, rfl⟩ := hviewed seen hseen
  refine ⟨view, hview, hadmissible, ?_⟩
  have hclaim : row.claim = (LoanRow.ofEntity loan 0).claim := by
    rw [(LoanRow.toEntity_eq_ok_iff row loan).mp hloan]
    rfl
  rw [← hclaim]
  exact congrArg (Option.map LoanRow.claim) hrow

/-- A replayed loan is the one of the reservation. -/
theorem CreateLoanHandler.mismatches_eq_nil {command : CreateLoanCommand} {loan : Loan}
    {reservation_id : PyStr} (hsame : mismatches command loan reservation_id = []) :
    uuidText loan.reservation_id = reservation_id ∧
      loan.reservation_generation = command.reservation_generation ∧
      loan.patron_id.val = command.patron_id ∧
      loan.catalog_book_id.val = command.catalog_book_id := by
  unfold mismatches at hsame
  simp only [List.filterMap_eq_nil_iff, List.forall_mem_cons, List.not_mem_nil,
    ite_eq_left_iff, reduceCtorEq, imp_false, not_not, decide_eq_true_eq] at hsame
  obtain ⟨hreservation, hgeneration, hpatron, -, hbook, -⟩ := hsame
  exact ⟨hreservation, hgeneration, hpatron, hbook⟩

/-- A reservation whose handler returned has its loan, or is over. -/
theorem CreateLoanOnBookReservedHandler.engaged {event : CatalogBookReserved} {token : Uuid}
    (hdescends : Descends rt past saga)
    (hviewed : Interleaving.ViewedSince (borrowSaga rt) SagaRequest.Admissible past
      (.deliver (.catalogBookReserved event)) known)
    (htoken : rt.parseUuid event.reservation_id = some token)
    (hreturns : (spec rt event).returns known ()) :
    (saga.lock rt).Engaged
      ⟨event.book_id, event.reservation_generation, (token, event.patron_id)⟩ := by
  rcases hreturns with ⟨-, found, loan, hfound, ⟨row, hloaded, hsame⟩, -⟩ |
    ⟨reason, row, book, hloaded, hspent⟩
  · obtain ⟨view, hview, -, hclaim⟩ := Saga.seen_loan hviewed hloaded
    obtain ⟨-, -, hmoves⟩ := hdescends view hview
    obtain ⟨hreservation, hgeneration, hpatron, hbook⟩ := CreateLoanHandler.mismatches_eq_nil hsame
    have hown : found = token :=
      Option.some.inj ((parseReservationId_eq_ok_iff.mp hfound).symm.trans htoken)
    subst found
    have hattempt : (LoanRow.ofEntity loan 0).claim.attempt =
        ⟨event.book_id, event.reservation_generation, (token, event.patron_id)⟩ := by
      rw [← Database.uuidText_injective rt hreservation]
      simp only [LoanRow.claim, LoanRow.ofEntity, hgeneration, hpatron, hbook, command]
    exact hmoves.engaged (Or.inr ⟨_, _, hclaim, hattempt⟩)
  · obtain ⟨view, hview, hemitted, hhold⟩ := Saga.seen_book hviewed hloaded
    obtain ⟨hconsistent, -, hmoves⟩ := hdescends view hview
    have hheld : .held ⟨event.book_id, event.reservation_generation, (token, event.patron_id)⟩ ∈
        (view.lock rt).facts := ⟨_, hemitted, by simp [AggregateEvent.told, htoken]⟩
    apply hmoves.engaged
    left
    apply hconsistent.closed_of_stale hheld hhold
    intro hgeneration htag
    rcases hspent with ⟨after, events, hrelease⟩ | ⟨raised, hstale, hrelease⟩
    · obtain ⟨_, _, -, -, -, -, -, ⟨-, -, -, hstatus⟩ | ⟨hchanged, -⟩⟩ := Book.release_ok hrelease
      · simp [BookState.hold, BookState.phase, hstatus]
      · cases hchanged
    · exact Book.release_stale htoken hstale hrelease hgeneration htag

/-- A loan whose handler returned settled its hold, or is over. -/
theorem ConfirmBorrowOnLoanCreatedHandler.answered {event : LoanCreated} {token : Uuid}
    (hdescends : Descends rt past saga)
    (hviewed : Interleaving.ViewedSince (borrowSaga rt) SagaRequest.Admissible past
      (.deliver (.loanCreated event)) known)
    (htoken : rt.parseUuid event.reservation_id = some token)
    (hreturns : (spec rt event).returns known ()) : (saga.lock rt).Answered event.loan_id := by
  have htold : ∀ view : Saga, .loanCreated event ∈ view.emitted →
      .claimed event.loan_id
        ⟨event.book_id, event.reservation_generation, (token, event.patron_id)⟩
        (event.borrowed_at.toUtc, event.due_date.toUtc) ∈ (view.lock rt).facts := by
    intro view hemitted
    exact ⟨_, hemitted, by simp [AggregateEvent.told, htoken]⟩
  rcases hreturns with ⟨-, row, book, after, events, -, hloaded, hconfirm⟩ |
    ⟨⟨seen, hseen, hstale⟩, found, hfound, hidle⟩
  · obtain ⟨view, hview, hemitted, hhold⟩ := Saga.seen_book hviewed hloaded
    obtain ⟨hconsistent, -, hmoves⟩ := hdescends view hview
    obtain ⟨loan, hloan, hstatus, hcurrent⟩ := Book.confirm_idle hconfirm
    obtain ⟨record, hrecord, -⟩ := hconsistent.claimed _ _ _ (htold view hemitted)
    have hid : loan.val = event.loan_id :=
      (normalizeReference_ok hloan).trans (Saga.canonical_loan hrecord)
    have hphase := BookState.phase_borrowed hstatus
    rw [hcurrent, Option.map_some, Option.getD_some, hid] at hphase
    obtain ⟨hsettled, -⟩ := hconsistent.current _ _ _ _ hhold hphase
    exact hmoves.answered (hconsistent.answered_of_settled hsettled)
  · obtain ⟨view, hview, hthere, draws, rfl⟩ := hviewed seen hseen
    obtain ⟨hconsistent, -, hmoves⟩ := hdescends view hview
    have hlost := hmoves.before.lost _ (Saga.lost_of_stale hconsistent hthere hstale)
    have hown : found = token :=
      Option.some.inj ((parseReservationId_eq_ok_iff.mp hfound).symm.trans htoken)
    subst found
    rcases hidle with ⟨missed, hmissed, hnone⟩ | ⟨row, loan, hloaded, hmatch, hover⟩
    · -- the loan was there since its event was emitted
      obtain ⟨later, hlater, hsince, draws, rfl⟩ := hviewed missed hmissed
      obtain ⟨record, hrecord, hattempt⟩ :=
        (hdescends later hlater).1.claimed _ _ _ (htold later hsince)
      obtain ⟨row, hrow, rfl⟩ := Option.map_eq_some_iff.mp hrecord
      simp only [LoanRow.claim, SemanticLock.Attempt.mk.injEq, Prod.mk.injEq] at hattempt
      exact absurd hattempt.2.2.1 (hnone row (Table.mem_of_lookup hrow))
    · obtain ⟨later, hlater, -, hclaim⟩ := Saga.seen_loan hviewed hloaded
      obtain ⟨-, -, hexpected⟩ := CancelLoanHandler.mismatch_eq_false hmatch
      have hid : row.id.val = event.loan_id := by
        rw [← hexpected event.loan_id rfl, (LoanRow.toEntity_eq_ok_iff row loan).mp hloaded.2]
        rfl
      have hpast : (LoanRow.ofEntity loan 0).claim.progress ≠ .pending := by
        rcases hover with hstatus | hstatus <;>
          simp [LoanRow.claim, LoanRow.ofEntity, hstatus, LoanStatus.progress]
      rw [hid] at hclaim
      obtain ⟨record, hrecord, hgrows⟩ := (hdescends later hlater).2.2.claim_grows hclaim
      exact hlost.answered hrecord (hgrows.progress hpast ▸ hpast)

/-- A completed loan whose handler returned no longer has its book. -/
theorem ReturnBookOnLoanCompletedHandler.vacated {event : LoanCompleted}
    (hdescends : Descends rt past saga)
    (hviewed : Interleaving.ViewedSince (borrowSaga rt) (SagaRequest.Ready rt) past
      (.deliver (.loanCompleted event)) known)
    (hreturns : (spec rt event).returns known ()) : (saga.lock rt).Vacated event.loan_id := by
  obtain ⟨row, book, hloaded, hspent⟩ := hreturns
  obtain ⟨view, hview, ⟨hemitted, hready⟩, hhold⟩ := Saga.seen_book hviewed hloaded
  obtain ⟨hconsistent, -, hmoves⟩ := hdescends view hview
  have hcompleted : .completed event.loan_id event.book_id ∈ (view.lock rt).facts :=
    ⟨_, hemitted, rfl⟩
  exact hmoves.vacated hconsistent
    (hconsistent.vacated (hready event rfl) hcompleted hhold (Book.return_spent hspent))

end Readings

/-! ## Events that are dealt with -/

section Events

variable {rt : PythonRuntime} {saga after : Saga} {past : Set Saga} {lock : LockState}
  {known : Knowledge Observation PyStr} {event : AggregateEvent}

theorem AggregateEvent.told_held {attempt : SemanticLock.Attempt PyStr LockTag}
    (htold : event.told rt = some (.held attempt)) :
    ∃ reserved token, event = .catalogBookReserved reserved ∧
      rt.parseUuid reserved.reservation_id = some token ∧
      attempt = ⟨reserved.book_id, reserved.reservation_generation,
        (token, reserved.patron_id)⟩ := by
  cases event with
  | catalogBookReserved reserved =>
      obtain ⟨token, htoken, hfact⟩ := Option.bind_eq_some_iff.mp htold
      cases hfact
      exact ⟨reserved, token, rfl, htoken, rfl⟩
  | loanCreated created =>
      obtain ⟨token, -, hnever⟩ := Option.bind_eq_some_iff.mp htold
      cases hnever
  | _ => cases htold

theorem AggregateEvent.told_claimed {claim : PyStr}
    {attempt : SemanticLock.Attempt PyStr LockTag} {terms : LockTerms}
    (htold : event.told rt = some (.claimed claim attempt terms)) :
    ∃ created token, event = .loanCreated created ∧
      rt.parseUuid created.reservation_id = some token ∧ claim = created.loan_id := by
  cases event with
  | catalogBookReserved reserved =>
      obtain ⟨token, -, hnever⟩ := Option.bind_eq_some_iff.mp htold
      cases hnever
  | loanCreated created =>
      obtain ⟨token, htoken, hfact⟩ := Option.bind_eq_some_iff.mp htold
      cases hfact
      exact ⟨created, token, rfl, htoken, rfl⟩
  | _ => cases htold

theorem AggregateEvent.told_completed {claim resource : PyStr}
    (htold : event.told rt = some (.completed claim resource)) :
    ∃ completed, event = .loanCompleted completed ∧ claim = completed.loan_id := by
  cases event with
  | catalogBookReserved _ | loanCreated _ =>
      obtain ⟨token, -, hnever⟩ := Option.bind_eq_some_iff.mp htold
      cases hnever
  | loanCompleted completed =>
      cases htold
      exact ⟨completed, rfl, rfl⟩
  | _ => cases htold

/-- Only three kinds of facts are answered. -/
theorem AggregateEvent.dealt_iff : event.Dealt rt lock ↔
    (∀ reserved token, event = .catalogBookReserved reserved →
      rt.parseUuid reserved.reservation_id = some token →
        lock.Engaged ⟨reserved.book_id, reserved.reservation_generation,
          (token, reserved.patron_id)⟩) ∧
    (∀ created token, event = .loanCreated created →
      rt.parseUuid created.reservation_id = some token → lock.Answered created.loan_id) ∧
    ∀ completed, event = .loanCompleted completed → lock.Vacated completed.loan_id := by
  constructor
  · intro hdealt
    refine ⟨?_, ?_, ?_⟩
    · rintro reserved token rfl htoken
      exact hdealt _ (by simp only [told, htoken]; rfl)
    · rintro created token rfl htoken
      exact hdealt _ (by simp only [told, htoken]; rfl)
    · rintro completed rfl
      exact hdealt _ rfl
  · rintro ⟨hheld, hclaimed, hcompleted⟩ fact htold
    cases fact with
    | held attempt =>
        obtain ⟨reserved, token, hevent, htoken, rfl⟩ := told_held htold
        exact hheld reserved token hevent htoken
    | claimed claim attempt terms =>
        obtain ⟨created, token, hevent, htoken, rfl⟩ := told_claimed htold
        exact hclaimed created token hevent htoken
    | completed claim resource =>
        obtain ⟨completed, hevent, rfl⟩ := told_completed htold
        exact hcompleted completed hevent
    | settled | released | cancelled => trivial

/-- What a handler that returned without a commit has dealt with. -/
theorem AggregateEvent.dealt_of_returns (hdescends : Descends rt past saga)
    (hviewed : Interleaving.ViewedSince (borrowSaga rt) (SagaRequest.Ready rt) past
      (.deliver event) known)
    (hreturns : (event.deliverSpec rt).returns known ()) : event.Dealt rt (saga.lock rt) := by
  have hadmissible : Interleaving.ViewedSince (borrowSaga rt) SagaRequest.Admissible past
      (.deliver event) known := hviewed.imp fun _ hready => hready.1
  rw [AggregateEvent.dealt_iff]
  refine ⟨?_, ?_, ?_⟩
  · rintro reserved token rfl htoken
    exact CreateLoanOnBookReservedHandler.engaged hdescends hadmissible htoken hreturns
  · rintro created token rfl htoken
    exact ConfirmBorrowOnLoanCreatedHandler.answered hdescends hadmissible htoken hreturns
  · rintro completed rfl
    exact ReturnBookOnLoanCompletedHandler.vacated hdescends hviewed hreturns

/-- What a handler has dealt with when it committed. -/
theorem AggregateEvent.dealt_of_outcome (hconsistent : (saga.lock rt).Consistent)
    (hready : SagaRequest.Ready rt saga (.deliver event))
    (houtcome : event.Outcome rt (saga.lock rt)) : event.Dealt rt (saga.lock rt) := by
  obtain ⟨hemitted, hanswered⟩ := hready
  rw [AggregateEvent.dealt_iff]
  refine ⟨?_, ?_, ?_⟩
  · rintro reserved token rfl htoken
    rcases houtcome with ⟨found, claim, hfound, hclaim⟩ | hclosed
    · rw [htoken, Option.some.injEq] at hfound
      subst found
      exact Or.inr ⟨claim, _, hclaim, rfl⟩
    · exact Or.inl hclosed
  · rintro created token rfl htoken
    rcases houtcome with hsettled | hcancelled
    · exact hconsistent.answered_of_settled hsettled
    · exact hconsistent.answered_of_cancelled hcancelled
  · rintro completed rfl
    obtain ⟨hold, hhold, hfree⟩ := houtcome
    refine hconsistent.vacated (hanswered completed rfl) ⟨_, hemitted, rfl⟩ hhold ?_
    intro terms hsettled
    rw [hfree] at hsettled
    cases hsettled

theorem AggregateEvent.Dealt.moves (hdealt : event.Dealt rt lock) {later : LockState}
    (hconsistent : lock.Consistent) (hmoves : Moves lock later) : event.Dealt rt later :=
  fun fact htold => hmoves.dealt hconsistent (hdealt fact htold)

/-- A loan is completed after it was created. -/
def Saga.Chronicle (rt : PythonRuntime) (saga : Saga) : Prop :=
  ∀ earlier event later, saga.emitted = earlier ++ .loanCompleted event :: later →
    ∃ created ∈ earlier, ∃ attempt terms,
      created.told rt = some (.claimed event.loan_id attempt terms)

theorem Saga.Chronicle.turn {events : List AggregateEvent} (hchronicle : saga.Chronicle rt)
    (hconsistent : (saga.lock rt).Consistent) (htold : (saga.lock rt).Told)
    (hturn : Turn (saga.lock rt) (after.lock rt))
    (hemitted : after.emitted = saga.emitted ++ events) : after.Chronicle rt := by
  intro earlier event later hsplit
  -- a loan that is completed now was there before this transaction
  have hnew : ∃ created ∈ saga.emitted, ∃ attempt terms,
      created.told rt = some (.claimed event.loan_id attempt terms) := by
    have hcompleted : .completed event.loan_id event.book_id ∈ (after.lock rt).facts :=
      ⟨.loanCompleted event, by simp [hsplit], rfl⟩
    obtain ⟨record, hrecord, -⟩ := hturn.completed_claimed hconsistent hcompleted
    obtain ⟨terms, created, hcreated, hfact⟩ := htold.claimed _ record hrecord
    exact ⟨created, hcreated, record.attempt, terms, hfact⟩
  rw [hemitted] at hsplit
  rcases List.append_eq_append_iff.mp hsplit with ⟨middle, rfl, -⟩ | ⟨middle, hbefore, hrest⟩
  · obtain ⟨created, hcreated, hfact⟩ := hnew
    exact ⟨created, List.mem_append_left _ hcreated, hfact⟩
  · cases middle with
    | nil =>
        rw [List.append_nil] at hbefore
        rw [← hbefore]
        exact hnew
    | cons first rest =>
        obtain ⟨rfl, -⟩ := List.cons.inj hrest
        exact hchronicle earlier event rest hbefore

end Events

/-! ## Runs in commit order -/

/-- `aggregatetype` and `aggregateid` of the outbox row that carries the event. -/
def AggregateEvent.stream : AggregateEvent → PyStr × PyStr
  | catalogBookReserved event => (py "book", event.book_id)
  | catalogBookBorrowed event => (py "book", event.book_id)
  | catalogBookReleased event => (py "book", event.book_id)
  | catalogBookReturned event => (py "book", event.book_id)
  | loanCreated event => (py "loan", event.loan_id)
  | loanCompleted event => (py "loan", event.loan_id)
  | loanCancelled event => (py "loan", event.loan_id)
  | loanExtended event => (py "loan", event.loan_id)
  | bookOverdue event => (py "loan", event.loan_id)
  | patronRegistered event => (py "patron", event.patron_id)
  | patronSuspended event => (py "patron", event.patron_id)
  | patronReinstated event => (py "patron", event.patron_id)

/-- The events that the workflow dispatcher has a handler for. -/
def AggregateEvent.isWorkflow : AggregateEvent → Bool
  | catalogBookReserved _ | catalogBookReleased _ | loanCreated _ | loanCompleted _ => true
  | _ => false

namespace SagaWorld

/-- A handler of the event has returned. -/
def Handled (world : SagaWorld) (event : AggregateEvent) : Prop :=
  ∃ thread ∈ world.threads, thread.request = .deliver event ∧ thread.rest = some (.pure ())

/-- What the same aggregate emitted before the event has been handled. -/
def InOrder (world : SagaWorld) (event : AggregateEvent) : Prop :=
  ∃ earlier later, world.shared.emitted = earlier ++ event :: later ∧
    ∀ other ∈ earlier, other.isWorkflow = true → other.stream = event.stream →
      world.Handled other

/-- No event is awaiting successful handling. -/
def Quiescent (world : SagaWorld) : Prop :=
  ∀ event ∈ world.shared.emitted, event.isWorkflow = true → world.Handled event

/-- Events are first handled in commit order; what was handled may come again. -/
def Ordered (world : SagaWorld) (action : Interleaving.Action SagaRequest Saga Draws) : Prop :=
  Interleaving.Allowed SagaRequest.Admissible Saga.Upkeep world action ∧
    ∀ event, action = .start (.deliver event) → world.Handled event ∨ world.InOrder event

end SagaWorld

/-- The worlds that are reached when events are first handled in commit order. -/
def OrderedSaga (rt : PythonRuntime) (start : Saga → Prop) (world : SagaWorld) : Prop :=
  (Interleaving.machine (borrowSaga rt) start).ReachableUnder SagaWorld.Ordered world

/-- The runs in which a loan is completed after its creation was answered. -/
def ReadySaga (rt : PythonRuntime) (start : Saga → Prop) (world : SagaWorld) : Prop :=
  (Interleaving.machine (borrowSaga rt) start).ReachableUnder
    (Interleaving.Allowed (SagaRequest.Ready rt) Saga.Upkeep) world

/-- What the runs keep: the contexts have dealt with every event whose handler committed. -/
structure Accord (rt : PythonRuntime) (past : Set Saga)
    (log : List (Interleaving.Entry SagaRequest Observation PyStr Batch Refusal AppException Unit
      Saga)) (saga : Saga) : Prop where
  sound : Sound rt past saga
  descends : Descends rt past saga
  chronicle : saga.Chronicle rt
  dealt : ∀ entry ∈ log, ∀ event, entry.request = .deliver event → event.Dealt rt (saga.lock rt)

section Runs

variable {rt : PythonRuntime} {world after : SagaWorld}

theorem Descends.turn {saga next : Saga} {past : Set Saga} (hdescends : Descends rt past saga)
    (hmem : saga ∈ past) (hmoves : Moves (saga.lock rt) (next.lock rt)) :
    Descends rt (insert next past) next := by
  rintro view (rfl | hview)
  · obtain ⟨hconsistent, htold, -⟩ := hdescends saga hmem
    exact ⟨hmoves.consistent hconsistent, hmoves.told htold, .refl⟩
  · obtain ⟨hconsistent, htold, hbefore⟩ := hdescends view hview
    exact ⟨hconsistent, htold, hbefore.trans hmoves⟩

theorem borrowSaga_accords (rt : PythonRuntime) :
    Interleaving.Maintains (borrowSaga rt) (fun request => (request.spec rt).unfenced)
      Saga.Fresh (SagaRequest.Ready rt) Saga.Upkeep (Accord rt) := by
  constructor
  · intro saga hfresh
    have hsound := (borrowSaga_maintains rt).begins saga hfresh
    refine ⟨hsound, ?_, ?_, ?_⟩
    · rintro view rfl
      exact ⟨(hsound.views view rfl).1, .fresh hfresh.free hfresh.unclaimed, .refl⟩
    · intro earlier event later hsplit
      simp [hfresh.emitted] at hsplit
    · exact fun _ hnever => by cases hnever
  · rintro past log saga haccord hmem entry known ⟨⟩ after rfl rfl hready hviewed hcommits - happly
    have hadmissible := hviewed.imp fun _ hready => hready.1
    obtain ⟨fenced, -, hstep, hknown, hcommits⟩ :=
      haccord.sound.landed hadmissible hcommits happly
    obtain ⟨hconsistent, htold, -⟩ := haccord.descends entry.before hmem
    have hturn := SagaRequest.turn hstep haccord.sound hmem hready.1 hknown hcommits
    refine ⟨?_, haccord.descends.turn hmem hturn.moves, ?_, ?_⟩
    · exact haccord.sound.step hmem hturn.moves (haccord.sound.books.effects hstep.effects)
        (haccord.sound.loans.effects hstep.effects)
    · exact haccord.chronicle.turn hconsistent htold hturn hstep.emitted
    · intro other hother event hevent
      rcases List.mem_append.mp hother with hold | hnew
      · exact (haccord.dealt other hold event hevent).moves hconsistent hturn.moves
      · rw [List.mem_singleton.mp hnew] at hevent
        rw [hevent] at hready hknown hcommits
        obtain ⟨-, houtcome⟩ := AggregateEvent.deliver_move hstep haccord.sound hmem hready.1
          hknown hcommits
        refine AggregateEvent.dealt_of_outcome (hturn.moves.consistent hconsistent) ⟨?_, ?_⟩
          houtcome
        · have hemitted : event ∈ entry.after.emitted := by
            rw [hstep.emitted]
            exact List.mem_append_left _ hready.1
          exact hemitted
        · exact fun completed heq => hturn.moves.answered (hready.2 completed heq)
  · intro past log saga after haccord hmem hupkeep
    have hsame := hupkeep.lock rt
    refine ⟨(borrowSaga_maintains rt).change _ log _ _ haccord.sound hmem hupkeep, ?_, ?_, ?_⟩
    · exact haccord.descends.turn hmem (hsame ▸ .refl)
    · intro earlier event later hsplit
      rw [hupkeep.emitted] at hsplit
      exact haccord.chronicle earlier event later hsplit
    · rw [hsame]
      exact haccord.dealt

/-- What one step of the saga does is a run of moves. -/
theorem BorrowSaga.step_moves {action : Interleaving.Action SagaRequest Saga Draws}
    (hreach : BorrowSaga rt Saga.Fresh world)
    (hallowed : Interleaving.Allowed SagaRequest.Admissible Saga.Upkeep world action)
    (hstep : world.step (borrowSaga rt) action = some after) :
    Moves (world.shared.lock rt) (after.shared.lock rt) := by
  have hprogram := fun saga request (_ : SagaRequest.Admissible saga request) =>
    borrowSaga_meets rt request
  rcases Interleaving.step_cases hstep with ⟨request, rfl, rfl⟩ | ⟨i, thread, moved, -, -, rfl⟩ |
    ⟨i, thread, batch, next, acknowledged, state, hthread, hrest, happly, rfl⟩ | ⟨state, rfl, rfl⟩
  · exact .refl
  · exact .refl
  · have hpersists : Interleaving.Persists (borrowSaga rt) Saga.Fresh SagaRequest.Admissible
        Saga.Upkeep := (borrowSaga_lasting rt).persists
    have hsound := Interleaving.reachable_maintains (borrowSaga_maintains rt) hpersists hprogram
      hreach
    have hmem := (Interleaving.reachable_sane hprogram hreach).shared_mem
    obtain ⟨hsince, ⟨⟩, -, hcommits⟩ :=
      Interleaving.reachable_commits hpersists hprogram hreach hthread hrest
    obtain ⟨fenced, -, hlanded, hknown, hcommits⟩ := hsound.landed hsince.viewed hcommits happly
    exact (SagaRequest.turn hlanded hsound hmem hsince.now hknown hcommits).moves
  · have hsame := hallowed.lock rt
    rw [hsame]

theorem ReadySaga.borrowSaga (hreach : ReadySaga rt Saga.Fresh world) :
    BorrowSaga rt Saga.Fresh world :=
  hreach.mono fun _ _ hallowed => hallowed.imp fun _ _ hready => hready.1

theorem SagaRequest.ready_persists (rt : PythonRuntime) :
    Interleaving.Persists (borrowSaga rt) Saga.Fresh (SagaRequest.Ready rt) Saga.Upkeep := by
  rintro world action after hreach hallowed hstep request ⟨hadmissible, hanswered⟩
  have hsaga : BorrowSaga rt Saga.Fresh world := ReadySaga.borrowSaga hreach
  have hlet := hallowed.imp fun _ _ hready => hready.1
  refine ⟨(borrowSaga_lasting rt).persists _ _ _ hsaga hlet hstep request hadmissible, ?_⟩
  exact fun event heq => (hsaga.step_moves hlet hstep).answered (hanswered event heq)

theorem ReadySaga.accord (hreach : ReadySaga rt Saga.Fresh world) :
    Accord rt world.past world.log world.shared :=
  Interleaving.reachable_maintains (borrowSaga_accords rt) (SagaRequest.ready_persists rt)
    (fun _ request _ => borrowSaga_meets rt request) hreach

theorem ReadySaga.shared_mem (hreach : ReadySaga rt Saga.Fresh world) :
    world.shared ∈ world.past :=
  (Interleaving.reachable_sane (fun _ request _ => borrowSaga_meets rt request) hreach).shared_mem

/-- An event whose handler returned has been dealt with. -/
theorem ReadySaga.dealt (hreach : ReadySaga rt Saga.Fresh world) {event : AggregateEvent}
    (hhandled : world.Handled event) : event.Dealt rt (world.shared.lock rt) := by
  obtain ⟨thread, hthread, hrequest, hrest⟩ := hhandled
  rcases Interleaving.reachable_finished (SagaRequest.ready_persists rt)
    (fun _ request _ => borrowSaga_meets rt request) hreach hthread hrest with
    ⟨entry, hentry, hsame⟩ | ⟨hviewed, fenced, hseen, hreturns⟩
  · exact hreach.accord.dealt entry hentry event (hsame.trans hrequest)
  · rw [hrequest] at hviewed hreturns
    exact AggregateEvent.dealt_of_returns hreach.accord.descends
      (fun observation hmem => hviewed observation (hseen ▸ hmem)) hreturns

/-- Commit order lets a completed loan in after its creation was answered. -/
theorem OrderedSaga.ready (hreach : OrderedSaga rt Saga.Fresh world) :
    ReadySaga rt Saga.Fresh world := by
  induction hreach with
  | start hinitial => exact .start hinitial
  | @next before _ action _ hallowed hstep ih =>
      refine .next ih ?_ hstep
      obtain ⟨hallowed, hordered⟩ := hallowed
      cases action with
      | start request =>
          refine ⟨hallowed, ?_⟩
          rintro event rfl
          have hemitted : .loanCompleted event ∈ before.shared.emitted := hallowed
          obtain ⟨hconsistent, -, -⟩ := ih.accord.descends _ ih.shared_mem
          rcases hordered _ rfl with hhandled | ⟨earlier, later, hsplit, hearlier⟩
          · obtain ⟨-, -, hvacated⟩ := AggregateEvent.dealt_iff.mp (ih.dealt hhandled)
            exact hconsistent.answered_of_vacated ⟨_, hemitted, rfl⟩ (hvacated event rfl)
          · obtain ⟨created, hcreated, attempt, terms, htold⟩ :=
              ih.accord.chronicle earlier event later hsplit
            obtain ⟨own, token, rfl, htoken, hsame⟩ := AggregateEvent.told_claimed htold
            have hhandled := hearlier _ hcreated rfl (by simp [AggregateEvent.stream, hsame])
            obtain ⟨-, hanswered, -⟩ := AggregateEvent.dealt_iff.mp (ih.dealt hhandled)
            rw [hsame]
            exact hanswered own token rfl htoken
      | change state => exact hallowed
      | _ => trivial

/-- Where no event awaits its handling, the stores agree. -/
theorem OrderedSaga.agreed (hreach : OrderedSaga rt Saga.Fresh world)
    (hquiescent : world.Quiescent) : (world.shared.lock rt).Agreed := by
  have hready := hreach.ready
  obtain ⟨hconsistent, htold, -⟩ := hready.accord.descends _ hready.shared_mem
  apply SemanticLock.State.Agreed.of_dealt hconsistent htold
  rintro fact ⟨event, hemitted, hfact⟩
  cases hworkflow : event.isWorkflow with
  | true => exact hready.dealt (hquiescent event hemitted hworkflow) fact hfact
  | false =>
      have hdealt : event.Dealt rt (world.shared.lock rt) := by
        rw [AggregateEvent.dealt_iff]
        refine ⟨?_, ?_, ?_⟩
        · rintro _ _ rfl
          cases hworkflow
        · rintro _ _ rfl
          cases hworkflow
        · rintro _ rfl
          cases hworkflow
      exact hdealt fact hfact

end Runs

/-! ## The two contexts at quiescence -/

/-- The loan is out, and for this book. -/
def LoanRow.OutFor (loan : LoanRow) (book : BookRow) : Prop :=
  loan.outstanding = true ∧ loan.catalog_book_id = book.id

theorem LoanRow.outstanding_iff_pending (loan : LoanRow) :
    loan.outstanding = true ↔ loan.claim.progress = .pending := by
  cases hstatus : loan.status <;>
    simp [LoanRow.outstanding, LoanRow.claim, hstatus, LoanStatus.progress]

section Agreement

variable {rt : PythonRuntime} {saga : Saga} {book : BookRow} {loan : LoanRow}

/-- A borrowed book has its loan, which is out. -/
theorem Saga.borrowed_out (hconsistent : (saga.lock rt).Consistent)
    (hagreed : (saga.lock rt).Agreed) (hbook : book ∈ saga.database.books.rows)
    (hstatus : book.state.status = .borrowed) :
    ∃ loan ∈ saga.database.loans.rows, book.BorrowedBy loan ∧ loan.outstanding = true := by
  obtain ⟨loan, hloan, hborrowed, -⟩ := Saga.borrowed_loan hconsistent hbook hstatus
  refine ⟨loan, hloan, hborrowed, ?_⟩
  have hhold : (saga.lock rt).holds book.id.val = some book.state.hold :=
    congrArg (Option.map fun row : BookRow => row.state.hold) ((Table.mem_rows _ _).mp hbook)
  have hclaim : (saga.lock rt).claims loan.id.val = some loan.claim :=
    congrArg (Option.map LoanRow.claim) ((Table.mem_rows _ _).mp hloan)
  have hphase := BookState.phase_borrowed hstatus
  rw [hborrowed.current, Option.map_some, Option.getD_some] at hphase
  obtain ⟨tag, -, hpending⟩ := hagreed.settled _ _ _ _ hhold hphase
  rw [hclaim, Option.some.injEq] at hpending
  rw [LoanRow.outstanding_iff_pending, hpending]

/-- A loan that is out has its book. -/
theorem Saga.out_borrowed (hconsistent : (saga.lock rt).Consistent)
    (hagreed : (saga.lock rt).Agreed) (hbook : book ∈ saga.database.books.rows)
    (hloan : loan ∈ saga.database.loans.rows) (hout : loan.OutFor book) :
    book.state.status = .borrowed ∧ book.BorrowedBy loan := by
  have hhold : (saga.lock rt).holds book.id.val = some book.state.hold :=
    congrArg (Option.map fun row : BookRow => row.state.hold) ((Table.mem_rows _ _).mp hbook)
  have hclaim : (saga.lock rt).claims loan.id.val = some loan.claim :=
    congrArg (Option.map LoanRow.claim) ((Table.mem_rows _ _).mp hloan)
  obtain ⟨hold, terms, hfound, -, -, hphase⟩ := hagreed.pending _ _ hclaim
    ((LoanRow.outstanding_iff_pending loan).mp hout.1)
  have hsame : loan.claim.attempt.resource = book.id.val := congrArg Subtype.val hout.2
  rw [hsame, hhold, Option.some.injEq] at hfound
  subst hold
  have hstatus : book.state.status = .borrowed := by
    cases hstatus : book.state.status with
    | borrowed => rfl
    | available | reserved => simp [BookState.hold, BookState.phase, hstatus] at hphase
  obtain ⟨other, hother, hborrowed, -⟩ := Saga.borrowed_loan hconsistent hbook hstatus
  rw [BookState.phase_borrowed hstatus, hborrowed.current, Option.map_some, Option.getD_some,
    SemanticLock.Phase.settled.injEq] at hphase
  have hown : other = loan := by
    rw [Table.mem_rows] at hother hloan
    rw [hphase.1, hloan, Option.some.injEq] at hother
    exact hother.symm
  exact ⟨hstatus, hown ▸ hborrowed⟩

end Agreement

/-- Catalog and lending agree at quiescence: in every state that is reached when events are
first handled in commit order, and in which none awaits its handling, no book is reserved; a
book is borrowed by a loan exactly when that loan is the one that is out for it, under the
same reservation, generation and patron; and it is available exactly when none is. -/
theorem contexts_agree_at_quiescence {rt : PythonRuntime} {world : SagaWorld}
    (hreach : OrderedSaga rt Saga.Fresh world) (hquiescent : world.Quiescent) :
    ∀ book ∈ world.shared.database.books.rows,
      book.state.status ≠ .reserved ∧
      (∀ loan_id : Reference,
        book.state.status = .borrowed ∧ book.state.current_loan_id = some loan_id ↔
          ∃ loan ∈ world.shared.database.loans.rows, loan.id = loan_id ∧ loan.OutFor book ∧
            ∀ other ∈ world.shared.database.loans.rows, other.OutFor book → other = loan) ∧
      (∀ loan ∈ world.shared.database.loans.rows, loan.OutFor book → book.BorrowedBy loan) ∧
      (book.state.status = .available ↔
        ∀ loan ∈ world.shared.database.loans.rows, ¬ loan.OutFor book) := by
  intro book hbook
  have hconsistent := (hreach.ready.borrowSaga).consistent
  have hagreed := hreach.agreed hquiescent
  have hout : ∀ loan ∈ world.shared.database.loans.rows, loan.OutFor book →
      book.state.status = .borrowed ∧ book.BorrowedBy loan :=
    fun loan hloan => Saga.out_borrowed hconsistent hagreed hbook hloan
  have honly : ∀ loan ∈ world.shared.database.loans.rows,
      ∀ other ∈ world.shared.database.loans.rows, loan.OutFor book → other.OutFor book →
        other = loan := by
    intro loan hloan other hother hfirst hsecond
    have hid : other.id = loan.id := by
      rw [← Option.some.injEq, ← (hout other hother hsecond).2.current,
        (hout loan hloan hfirst).2.current]
    rw [Table.mem_rows] at hloan hother
    rw [hid, hloan, Option.some.injEq] at hother
    exact hother.symm
  have hreserved : book.state.status ≠ .reserved := by
    intro hstatus
    refine hagreed.held book.id.val book.state.hold ?_ ?_
    · exact congrArg (Option.map fun row : BookRow => row.state.hold)
        ((Table.mem_rows _ _).mp hbook)
    · simp [BookState.hold, BookState.phase, hstatus]
  refine ⟨hreserved, ?_, fun loan hloan hfor => (hout loan hloan hfor).2, ?_⟩
  · intro loan_id
    constructor
    · rintro ⟨hstatus, hcurrent⟩
      obtain ⟨loan, hloan, hborrowed, houtstanding⟩ :=
        Saga.borrowed_out hconsistent hagreed hbook hstatus
      have hid : loan.id = loan_id := by
        rw [← Option.some.injEq, ← hborrowed.current, hcurrent]
      exact ⟨loan, hloan, hid, ⟨houtstanding, hborrowed.book⟩,
        fun other hother hsecond => honly loan hloan other hother
          ⟨houtstanding, hborrowed.book⟩ hsecond⟩
    · rintro ⟨loan, hloan, rfl, hfor, -⟩
      exact ⟨(hout loan hloan hfor).1, (hout loan hloan hfor).2.current⟩
  · constructor
    · intro havailable loan hloan hfor
      rw [(hout loan hloan hfor).1] at havailable
      cases havailable
    · intro hnone
      cases hstatus : book.state.status with
      | available => rfl
      | reserved => exact absurd hstatus hreserved
      | borrowed =>
          obtain ⟨loan, hloan, hborrowed, houtstanding⟩ :=
            Saga.borrowed_out hconsistent hagreed hbook hstatus
          exact absurd ⟨houtstanding, hborrowed.book⟩ (hnone loan hloan)

/-! ## A displayed run -/

def SagaRequest.delivers (event : AggregateEvent) : SagaRequest → Bool
  | deliver other => decide (other = event)
  | client _ => false

namespace SagaWorld

def handled (world : SagaWorld) (event : AggregateEvent) : Bool :=
  world.threads.any fun thread => thread.request.delivers event &&
    match thread.rest with
    | some (.pure ()) => true
    | _ => false

theorem handled_sound {world : SagaWorld} {event : AggregateEvent}
    (hcheck : world.handled event = true) : world.Handled event := by
  obtain ⟨thread, hthread, hboth⟩ := List.any_eq_true.mp hcheck
  obtain ⟨hdelivers, hrest⟩ := Bool.and_eq_true_iff.mp hboth
  refine ⟨thread, hthread, ?_, ?_⟩
  · cases hrequest : thread.request with
    | client request => simp [hrequest, SagaRequest.delivers] at hdelivers
    | deliver other =>
        rw [hrequest] at hdelivers
        exact congrArg SagaRequest.deliver (of_decide_eq_true hdelivers)
  · split at hrest
    · assumption
    · cases hrest

/-- What stands before the event is handled, as far as it has to be. -/
def inOrder (world : SagaWorld) (event : AggregateEvent) : List AggregateEvent → Bool
  | [] => false
  | other :: rest => decide (other = event) ||
      (!other.isWorkflow || decide (other.stream ≠ event.stream) || world.handled other) &&
        world.inOrder event rest

theorem inOrder_sound {world : SagaWorld} {event : AggregateEvent} {events : List AggregateEvent}
    (hcheck : world.inOrder event events = true) :
    ∃ earlier later, events = earlier ++ event :: later ∧
      ∀ other ∈ earlier, other.isWorkflow = true → other.stream = event.stream →
        world.Handled other := by
  induction events with
  | nil => cases hcheck
  | cons first rest ih =>
      rcases Bool.or_eq_true_iff.mp hcheck with hhere | hlater
      · exact ⟨[], rest, by rw [of_decide_eq_true hhere, List.nil_append],
          fun _ hnever => by cases hnever⟩
      · obtain ⟨hfirst, hrest⟩ := Bool.and_eq_true_iff.mp hlater
        obtain ⟨earlier, later, rfl, hearlier⟩ := ih hrest
        refine ⟨first :: earlier, later, rfl, ?_⟩
        intro other hother hworkflow hstream
        rcases List.mem_cons.mp hother with rfl | hother
        · simp only [hworkflow, hstream, Bool.not_true, ne_eq, not_true_eq_false, decide_false,
            Bool.or_self, Bool.false_or] at hfirst
          exact handled_sound hfirst
        · exact hearlier other hother hworkflow hstream

/-- What the displayed runs check before each action. -/
def isOrdered (world : SagaWorld) : Interleaving.Action SagaRequest Saga Draws → Bool
  | .start (.client request) => request.isClient
  | .start (.deliver event) => decide (event ∈ world.shared.emitted) &&
      (world.handled event || world.inOrder event world.shared.emitted)
  | .change _ => false
  | _ => true

theorem isOrdered_sound (world : SagaWorld) (action : Interleaving.Action SagaRequest Saga Draws)
    (hcheck : world.isOrdered action = true) : world.Ordered action := by
  cases action with
  | start request =>
      cases request with
      | client request => exact ⟨hcheck, fun _ hnever => by cases hnever⟩
      | deliver event =>
          obtain ⟨hemitted, horder⟩ := Bool.and_eq_true_iff.mp hcheck
          have hadmissible : event ∈ world.shared.emitted := of_decide_eq_true hemitted
          refine ⟨hadmissible, ?_⟩
          rintro other ⟨⟩
          exact (Bool.or_eq_true_iff.mp horder).imp handled_sound inOrder_sound
  | change state => cases hcheck
  | observe | acquire | commit | refuse | abandon =>
      exact ⟨trivial, fun _ hnever => by cases hnever⟩

end SagaWorld

theorem sagaRun_quiescent :
    ∃ world : SagaWorld, OrderedSaga asciiRuntime Saga.Fresh world ∧ world.Quiescent ∧
      world.shared.emitted.length = 3 ∧
        ∃ book ∈ world.shared.database.books.rows, book.state.status = .borrowed ∧
          book.state.current_loan_id.isSome = true := by
  have hresult : ((Interleaving.machine (borrowSaga asciiRuntime) Saga.Fresh).executeUnder
      SagaWorld.isOrdered ⟨sampleSaga, [], [], {sampleSaga}⟩ sagaRun).any
        (fun world : SagaWorld =>
          (world.shared.emitted.all fun event => !event.isWorkflow || world.handled event) &&
            decide (world.shared.emitted.length = 3) &&
              world.shared.database.books.rows.any fun row =>
                decide (row.state.status = .borrowed) && row.state.current_loan_id.isSome) =
        true := by
    decide +kernel
  obtain ⟨world, hrun, hfields⟩ := (Option.any_eq_true _ _).mp hresult
  simp only [Bool.and_eq_true, decide_eq_true_eq, List.any_eq_true, List.all_eq_true,
    Bool.or_eq_true, Bool.not_eq_true'] at hfields
  obtain ⟨⟨hquiescent, hlength⟩, book, hbook, hstatus, hcurrent⟩ := hfields
  refine ⟨world, ?_, ?_, hlength, book, hbook, hstatus, hcurrent⟩
  · have hinitial : (Interleaving.machine (borrowSaga asciiRuntime) Saga.Fresh).initial
        ⟨sampleSaga, [], [], {sampleSaga}⟩ := ⟨sampleSaga_fresh, rfl, rfl, rfl⟩
    exact (Machine.ReachableUnder.executeUnder (.start hinitial) hrun).mono
      SagaWorld.isOrdered_sound
  · intro event hemitted hworkflow
    rcases hquiescent event hemitted with hother | hhandled
    · rw [hworkflow] at hother
      cases hother
    · exact SagaWorld.handled_sound hhandled

theorem contexts_agree_at_quiescence_run :
    ∃ world : SagaWorld, world.Quiescent ∧ world.shared.emitted.length = 3 ∧
      ∃ book ∈ world.shared.database.books.rows, book.state.status = .borrowed ∧
        ∃ loan ∈ world.shared.database.loans.rows, loan.OutFor book ∧ book.BorrowedBy loan := by
  obtain ⟨world, hreach, hquiescent, hlength, book, hbook, hstatus, hsome⟩ := sagaRun_quiescent
  obtain ⟨loan_id, hcurrent⟩ := Option.isSome_iff_exists.mp hsome
  obtain ⟨-, hborrowed, hagree, -⟩ := contexts_agree_at_quiescence hreach hquiescent book hbook
  obtain ⟨loan, hloan, -, hfor, -⟩ := (hborrowed loan_id).mp ⟨hstatus, hcurrent⟩
  exact ⟨world, hquiescent, hlength, book, hbook, hstatus, loan, hloan, hfor,
    hagree loan hloan hfor⟩

end LibrarySystem
