import LibrarySystem.Application.LendingEffects
import LibrarySystem.Foundation.Lasting

/-!
# The event handlers of the borrowing workflow

A reservation asks lending for a loan, the loan settles the reservation, and each side
undoes its own step when the other refused.  The commands run in transactions of their
own, one after the other.
-/

namespace LibrarySystem

open Run (Spec Knowledge)

/-- What ends a borrowing that lending rejects, with `str(error)`. -/
def AppException.rejection : AppException → Option PyStr
  | error@(.bookNotAvailable _) | error@(.patronBorrowingLimitReached _ _)
  | error@(.patronNotEligibleForLoan _ _) => error.message
  | _ => none

namespace CreateLoanOnBookReservedHandler

def command (event : CatalogBookReserved) : CreateLoanCommand where
  reservation_id := event.reservation_id
  reservation_generation := event.reservation_generation
  patron_id := event.patron_id
  patron_email := event.borrower_email
  catalog_book_id := event.book_id
  book_title := event.title
  borrowed_at := event.reserved_at

def release (event : CatalogBookReserved) (reason : PyStr) :
    ReleaseBookReservationCommand where
  book_id := event.book_id
  reservation_id := event.reservation_id
  reservation_generation := event.reservation_generation
  patron_id := event.patron_id
  reason := reason

/-- `_compensate`; a reservation that is over needs none. -/
def compensate (rt : PythonRuntime) (event : CatalogBookReserved) (reason : PyStr) :
    Command Unit :=
  tryCatch (do
    let _ ← ReleaseBookReservationHandler.handle rt (release event reason)
    pure ()) fun
    | .raised (.catalog (.staleReservation _ _ _ _)) => pure ()
    | error => throw error

def handle (rt : PythonRuntime) (event : CatalogBookReserved) : Command Unit :=
  tryCatch (do
    let _ ← CreateLoanHandler.handle rt (command event)
    pure ()) fun error =>
    match error.rejection with
    | some reason => compensate rt event reason
    | none => throw error

end CreateLoanOnBookReservedHandler

namespace ConfirmBorrowOnLoanCreatedHandler

def command (event : LoanCreated) : ConfirmBookBorrowCommand where
  book_id := event.book_id
  reservation_id := event.reservation_id
  reservation_generation := event.reservation_generation
  patron_id := event.patron_id
  loan_id := event.loan_id
  borrowed_at := event.borrowed_at
  return_due_date := event.due_date

def cancellation (event : LoanCreated) : CancelLoanCommand where
  reservation_id := event.reservation_id
  reservation_generation := event.reservation_generation
  patron_id := event.patron_id
  catalog_book_id := event.book_id
  reason := py "catalog reservation is no longer current"
  expected_loan_id := some event.loan_id

def handle (rt : PythonRuntime) (event : LoanCreated) : Command Unit :=
  tryCatch (do
    let _ ← ConfirmBookBorrowHandler.handle rt (command event)
    pure ()) fun
    | .raised (.catalog (.staleReservation _ _ _ _)) => do
        let _ ← CancelLoanHandler.handle rt (cancellation event)
        pure ()
    | error => throw error

end ConfirmBorrowOnLoanCreatedHandler

namespace CancelLoanOnBookReleasedHandler

def command (event : CatalogBookReleased) : CancelLoanCommand where
  reservation_id := event.reservation_id
  reservation_generation := event.reservation_generation
  patron_id := event.patron_id
  catalog_book_id := event.book_id
  reason := event.reason
  expected_loan_id := none

def handle (rt : PythonRuntime) (event : CatalogBookReleased) : Command Unit := do
  let _ ← CancelLoanHandler.handle rt (command event)
  pure ()

end CancelLoanOnBookReleasedHandler

namespace ReturnBookOnLoanCompletedHandler

def command (event : LoanCompleted) : ReturnBookCommand where
  book_id := event.book_id
  loan_id := event.loan_id
  reservation_id := event.reservation_id
  reservation_generation := event.reservation_generation
  patron_id := event.patron_id

def handle (rt : PythonRuntime) (event : LoanCompleted) : Command Unit :=
  tryCatch (do
    let _ ← ReturnBookHandler.handle rt (command event)
    pure ()) fun
    | .raised (.catalog (.staleLoanCompletion _ _)) => pure ()
    | error => throw error

end ReturnBookOnLoanCompletedHandler

/-- The handler that the workflow dispatcher has for an event. -/
def AggregateEvent.deliver (rt : PythonRuntime) : AggregateEvent → Command Unit
  | catalogBookReserved event => CreateLoanOnBookReservedHandler.handle rt event
  | loanCreated event => ConfirmBorrowOnLoanCreatedHandler.handle rt event
  | catalogBookReleased event => CancelLoanOnBookReleasedHandler.handle rt event
  | loanCompleted event => ReturnBookOnLoanCompletedHandler.handle rt event
  | _ => pure ()

/-! ## What the handlers commit -/

section Rules

variable {spec : CommandSpec Unit} {known : Knowledge Observation PyStr}

/-- A command whose answer is not looked at. -/
theorem Command.meets_discard {α : Type} {inner : CommandSpec α} {run : Command α}
    (hrun : run.Meets inner known)
    (hcommits : ∀ later batch value, inner.commits later batch value →
      spec.commits later batch ())
    (hreturns : ∀ later value, inner.returns later value → spec.returns later ())
    (hraises : ∀ later error, inner.raises later error → spec.raises later error) :
    (do let _ ← run; pure () : Command Unit).Meets spec known :=
  hrun.map (fun _ => ()) hcommits hreturns hraises

/-- Loading, when it matters why a row does not hydrate. -/
theorem Uow.reads_getById_hydrate {A : Type} [Stored A] {session : UnitOfWork A} {id : PyStr}
    {value : Knowledge Observation PyStr → Option (Tracked A) × UnitOfWork A → Prop}
    {error : Knowledge Observation PyStr → AppException → Prop}
    (hnew : session.find id = none)
    (hmissing : ∀ seen, value (known.look seen) (none, session))
    (hfound : ∀ seen row, ∀ aggregate : A,
      (Stored.table (A := A) seen.database).lookup id = some row →
      Stored.toEntity row = .ok aggregate →
      value (known.look seen) (some ⟨aggregate, Stored.version row, []⟩,
        session.track (Stored.wrap aggregate).idText ⟨aggregate, Stored.version row, []⟩))
    (herror : ∀ seen, ∀ row : Stored.Row A, ∀ raised, Stored.toEntity row = .error raised →
      error (known.look seen) (.raised raised)) :
    (getById id session).Reads value error known := by
  unfold getById
  apply Run.Reads.bind
  apply reads_get
  simp only [hnew]
  apply Run.Reads.bind
  apply reads_observe
  intro seen
  dsimp only
  cases hrow : (Stored.table (A := A) seen.database).lookup id with
  | none => exact hmissing seen
  | some row =>
      apply Run.Reads.bind
      unfold hydrate
      apply Run.Reads.bind
      apply reads_ofExcept
      · exact fun aggregate haggregate => hfound seen row aggregate hrow haggregate
      · exact fun raised hraised => herror seen row raised hraised

end Rules

theorem BookRow.toEntity_error {row : BookRow} {raised : Raised}
    (hrow : row.toEntity = .error raised) :
    ∃ detail, raised = .catalog (.invalidCatalogState detail) := by
  unfold BookRow.toEntity at hrow
  split at hrow
  · cases hrow
  · cases hrow
    exact ⟨_, rfl⟩

namespace BookMessage

/-- A domain rule that a message breaks is one of the transition, on the book it has
loaded. -/
def Explained (book_id : PyStr)
    (transition : Book → Except Raised (Book × Bool × List AggregateEvent))
    (known : Knowledge Observation PyStr) (error : AppException) : Prop :=
  ∀ raised, error = .raised raised →
    (∃ (row : BookRow) (book : Book), Loaded known book_id row book ∧
      transition book = .error raised) ∨
    ∃ detail, raised = .catalog (.invalidCatalogState detail)

/-- A refused commit is not a broken domain rule. -/
theorem translate_ne_raised (session : UnitOfWork Book) (refusal : Refusal)
    (raised : Raised) : Uow.translate session refusal ≠ .raised raised := by
  cases refusal with
  | integrity constraint =>
      cases constraint <;> exact fun hnever => by cases hnever
  | _ => exact fun hnever => by cases hnever

theorem handle_explained {Result : Type} (rt : PythonRuntime) (book_id : PyStr)
    (transition : Book → Except Raised (Book × Bool × List AggregateEvent))
    {change : UtcDateTime → OperationTransition} (result : Book → Bool → Result)
    (htarget : ∀ now, (change now).status.sources ≠ [])
    (known : Knowledge Observation PyStr) :
    (handle rt book_id transition change result).Meets
      { spec rt book_id transition change result with
        raises := Explained book_id transition } known := by
  apply Uow.meets_transaction.mpr
  apply Uow.Meets.bind
  apply Uow.reads_getById_hydrate rfl
  · exact fun _ raised hraised => by cases hraised
  · intro seen row book hrow hbook
    apply Uow.Meets.bind
    apply Uow.reads_ofExcept
    · rintro ⟨after, changed, events⟩ htransition
      apply Uow.Meets.bind
      apply Uow.reads_mutate
      intro drawn
      cases changed with
      | false =>
          exact ⟨row, book, after, events, rfl, ⟨⟨seen, by simp, hrow⟩, hbook⟩, htransition⟩
      | true =>
          apply Uow.meets_modify.mpr
          apply Uow.Meets.bind
          apply Uow.reads_now
          intro clock
          apply (Uow.meets_transition (htarget _)).mpr
          apply Uow.Meets.commit
          · intro staged rows hstage
            refine ⟨row, book, after, events, clock.draws.now, drawn.draws, rfl,
              ⟨⟨seen, by simp, hrow⟩, hbook⟩, htransition, UnitOfWork.Shows.writes ?_ hstage⟩
            exact (UnitOfWork.shows_updated book after row.version _ events).issue_one
          · exact fun _ _ raised hraised => by cases hraised
          · exact fun _ refusal raised hraised => absurd hraised (translate_ne_raised _ _ _)
    · intro raised htransition error hraised
      cases hraised
      exact Or.inl ⟨row, book, ⟨⟨seen, by simp, hrow⟩, hbook⟩, htransition⟩
  · intro seen row raised hrow error hraised
    cases hraised
    exact Or.inr (BookRow.toEntity_error hrow)

/-- The book that was seen is past the message: it stays as it is, or refuses for one of
these reasons. -/
def Spent (book_id : PyStr)
    (transition : Book → Except Raised (Book × Bool × List AggregateEvent))
    (stale : Raised → Prop) (known : Knowledge Observation PyStr) : Prop :=
  ∃ (row : BookRow) (book : Book), Loaded known book_id row book ∧
    ((∃ after events, transition book = .ok (after, false, events)) ∨
      ∃ raised, stale raised ∧ transition book = .error raised)

theorem Explained.spent {book_id : PyStr}
    {transition : Book → Except Raised (Book × Bool × List AggregateEvent)}
    {stale : Raised → Prop} {known : Knowledge Observation PyStr} {raised : Raised}
    (hexplained : Explained book_id transition known (.raised raised)) (hstale : stale raised)
    (hvalid : ∀ detail, raised ≠ .catalog (.invalidCatalogState detail)) :
    Spent book_id transition stale known := by
  rcases hexplained raised rfl with ⟨row, book, hloaded, hrefused⟩ | ⟨detail, hinvalid⟩
  · exact ⟨row, book, hloaded, Or.inr ⟨raised, hstale, hrefused⟩⟩
  · exact absurd hinvalid (hvalid detail)

end BookMessage

/-- `StaleReservationException` -/
def Raised.IsStaleReservation (raised : Raised) : Prop :=
  ∃ book_id reservation_id generation operation,
    raised = .catalog (.staleReservation book_id reservation_id generation operation)

/-- `StaleLoanCompletionException` -/
def Raised.IsStaleLoanCompletion (raised : Raised) : Prop :=
  ∃ book_id loan_id, raised = .catalog (.staleLoanCompletion book_id loan_id)

namespace CreateLoanOnBookReservedHandler

/-- The reservation is dealt with when its loan is there, or when it is over. -/
def spec (rt : PythonRuntime) (event : CatalogBookReserved) : CommandSpec Unit where
  commits known batch _ :=
    (∃ value, (CreateLoanHandler.spec rt (command event)).commits known batch value) ∨
      ∃ reason value,
        (ReleaseBookReservationHandler.spec rt (release event reason)).commits known batch value
  returns known _ :=
    (∃ value, (CreateLoanHandler.spec rt (command event)).returns known value) ∨
      ∃ reason, BookMessage.Spent event.book_id
        (ReleaseBookReservationHandler.transition rt (release event reason))
        Raised.IsStaleReservation known
  raises _ _ := True

theorem compensate_meets (rt : PythonRuntime) (event : CatalogBookReserved) (reason : PyStr)
    (known : Knowledge Observation PyStr) :
    (compensate rt event reason).Meets (spec rt event) known := by
  apply Run.Meets.tryCatch
  apply Command.meets_discard (BookMessage.handle_explained rt event.book_id
    (ReleaseBookReservationHandler.transition rt (release event reason)) _
    (fun _ => by simp [ReleaseBookReservationHandler.change, BorrowOperationStatus.sources])
    known)
  · exact fun _ _ value hcommits => Or.inr ⟨reason, value, hcommits⟩
  · rintro later _ ⟨row, book, after, events, -, hloaded, hsame⟩
    exact Or.inr ⟨reason, row, book, hloaded, Or.inl ⟨after, events, hsame⟩⟩
  · intro later error hexplained
    dsimp only
    split
    · exact Or.inr ⟨reason, hexplained.spent ⟨_, _, _, _, rfl⟩ fun _ hnever => by cases hnever⟩
    · exact trivial

theorem handle_meets (rt : PythonRuntime) (event : CatalogBookReserved)
    (known : Knowledge Observation PyStr) :
    (handle rt event).Meets (spec rt event) known := by
  apply Run.Meets.tryCatch
  apply Command.meets_discard (CreateLoanHandler.handle_meets rt (command event) known)
  · exact fun _ _ value hcommits => Or.inl ⟨value, hcommits⟩
  · exact fun _ value hreturns => Or.inl ⟨value, hreturns⟩
  · intro later error _
    dsimp only
    split
    · exact compensate_meets rt event _ later
    · exact trivial

end CreateLoanOnBookReservedHandler

namespace ConfirmBorrowOnLoanCreatedHandler

/-- The book that was seen refuses the confirmation as stale. -/
def Stale (rt : PythonRuntime) (event : LoanCreated) (seen : Observation) : Prop :=
  ∃ (row : BookRow) (book : Book) (book_id reservation_id operation : PyStr) (generation : ℤ),
    seen.database.books.lookup event.book_id = some row ∧ row.toEntity = .ok book ∧
      ConfirmBookBorrowHandler.transition rt (command event) book =
        .error (.catalog (.staleReservation book_id reservation_id generation operation))

/-- The loan is cancelled only after the book was seen to refuse it. -/
def spec (rt : PythonRuntime) (event : LoanCreated) : CommandSpec Unit where
  commits known batch _ :=
    (∃ value, (ConfirmBookBorrowHandler.spec rt (command event)).commits known batch value) ∨
      (∃ seen ∈ known.seen, Stale rt event seen) ∧
        ∃ value, (CancelLoanHandler.spec rt (cancellation event)).commits known batch value
  returns known _ :=
    (∃ value, (ConfirmBookBorrowHandler.spec rt (command event)).returns known value) ∨
      (∃ seen ∈ known.seen, Stale rt event seen) ∧
        CancelLoanHandler.Idle rt (cancellation event) known
  raises _ _ := True

theorem handle_meets (rt : PythonRuntime) (event : LoanCreated)
    (known : Knowledge Observation PyStr) :
    (handle rt event).Meets (spec rt event) known := by
  apply Run.Meets.tryCatch
  apply Command.meets_discard (BookMessage.handle_explained rt event.book_id
    (ConfirmBookBorrowHandler.transition rt (command event)) _
    (fun _ => by simp [ConfirmBookBorrowHandler.change, BorrowOperationStatus.sources]) known)
  · exact fun _ _ value hcommits => Or.inl ⟨value, hcommits⟩
  · exact fun _ value hreturns => Or.inl ⟨value, hreturns⟩
  · intro later error hexplained
    dsimp only
    split
    · rename_i book_id reservation_id generation operation
      have hstale : ∃ seen ∈ later.seen, Stale rt event seen := by
        rcases hexplained _ rfl with ⟨row, book, ⟨⟨seen, hseen, hrow⟩, hbook⟩, hrefused⟩ |
          ⟨detail, hinvalid⟩
        · exact ⟨seen, hseen, row, book, _, _, _, _, hrow, hbook, hrefused⟩
        · cases hinvalid
      have hkept : ∀ seen more : Set Observation, seen ⊆ more →
          (∃ observation ∈ seen, Stale rt event observation) →
            ∃ observation ∈ more, Stale rt event observation := by
        intro seen more hmore hold
        obtain ⟨observation, hobserved, hrefused⟩ := hold
        exact ⟨observation, hmore hobserved, hrefused⟩
      apply Command.meets_discard
        ((CancelLoanHandler.handle_meets rt (cancellation event) later).remember hkept hstale)
      · intro known batch value hcommits
        exact Or.inr ⟨hcommits.1, value, hcommits.2⟩
      · intro known value hreturns
        exact Or.inr ⟨hreturns.1, hreturns.2.2⟩
      · exact fun _ _ _ => trivial
    · exact trivial

end ConfirmBorrowOnLoanCreatedHandler

namespace CancelLoanOnBookReleasedHandler

def spec (rt : PythonRuntime) (event : CatalogBookReleased) : CommandSpec Unit where
  commits known batch _ :=
    ∃ value, (CancelLoanHandler.spec rt (command event)).commits known batch value
  returns _ _ := True
  raises _ _ := True

theorem handle_meets (rt : PythonRuntime) (event : CatalogBookReleased)
    (known : Knowledge Observation PyStr) :
    (handle rt event).Meets (spec rt event) known :=
  Command.meets_discard (CancelLoanHandler.handle_meets rt (command event) known)
    (fun _ _ value hcommits => ⟨value, hcommits⟩) (fun _ _ _ => trivial) fun _ _ _ => trivial

end CancelLoanOnBookReleasedHandler

namespace ReturnBookOnLoanCompletedHandler

def spec (rt : PythonRuntime) (event : LoanCompleted) : CommandSpec Unit where
  commits known batch _ :=
    ∃ value, (ReturnBookHandler.spec rt (command event)).commits known batch value
  returns known _ :=
    BookMessage.Spent event.book_id (ReturnBookHandler.transition rt (command event))
      Raised.IsStaleLoanCompletion known
  raises _ _ := True

theorem handle_meets (rt : PythonRuntime) (event : LoanCompleted)
    (known : Knowledge Observation PyStr) :
    (handle rt event).Meets (spec rt event) known := by
  apply Run.Meets.tryCatch
  apply Command.meets_discard (BookMessage.handle_explained rt event.book_id
    (ReturnBookHandler.transition rt (command event)) _
    (fun _ => by simp [ReturnBookHandler.change, BorrowOperationStatus.sources]) known)
  · exact fun _ _ value hcommits => ⟨value, hcommits⟩
  · rintro later _ ⟨row, book, after, events, -, hloaded, hsame⟩
    exact ⟨row, book, hloaded, Or.inl ⟨after, events, hsame⟩⟩
  · intro later error hexplained
    dsimp only
    split
    · exact hexplained.spent ⟨_, _, rfl⟩ fun _ hnever => by cases hnever
    · exact trivial

end ReturnBookOnLoanCompletedHandler

namespace AggregateEvent

def deliverSpec (rt : PythonRuntime) : AggregateEvent → CommandSpec Unit
  | catalogBookReserved event => CreateLoanOnBookReservedHandler.spec rt event
  | loanCreated event => ConfirmBorrowOnLoanCreatedHandler.spec rt event
  | catalogBookReleased event => CancelLoanOnBookReleasedHandler.spec rt event
  | loanCompleted event => ReturnBookOnLoanCompletedHandler.spec rt event
  | _ => { commits := fun _ _ _ => False, returns := fun _ _ => True, raises := fun _ _ => False }

theorem deliver_meets (rt : PythonRuntime) (event : AggregateEvent)
    (known : Knowledge Observation PyStr) :
    (event.deliver rt).Meets (event.deliverSpec rt) known := by
  cases event with
  | catalogBookReserved event => exact CreateLoanOnBookReservedHandler.handle_meets rt event known
  | loanCreated event => exact ConfirmBorrowOnLoanCreatedHandler.handle_meets rt event known
  | catalogBookReleased event => exact CancelLoanOnBookReleasedHandler.handle_meets rt event known
  | loanCompleted event => exact ReturnBookOnLoanCompletedHandler.handle_meets rt event known
  | _ => exact trivial

end AggregateEvent

end LibrarySystem
