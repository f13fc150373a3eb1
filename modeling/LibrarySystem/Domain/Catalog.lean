import LibrarySystem.Domain.Events

/-!
# Catalog

The book aggregate: available, reserved for one borrow attempt, or borrowed
under one loan.  `StateOk` is what `_validate_state` accepts; it is a field of
the structure, so each transition shows that it leaves a valid book.
-/

namespace LibrarySystem

inductive BookStatus
  | available
  | reserved
  | borrowed
deriving DecidableEq

def BookStatus.value : BookStatus → PyStr
  | available => py "available"
  | reserved => py "reserved"
  | borrowed => py "borrowed"

/-- The lifecycle columns that `_validate_state` reads. -/
structure BookState where
  status : BookStatus
  reserved_at : Option UtcDateTime
  borrowed_at : Option UtcDateTime
  return_due_date : Option UtcDateTime
  reservation_id : Option Uuid
  reservation_generation : ℕ
  reserved_patron_id : Option Reference
  reserved_patron_email : Option EmailAddress
  current_loan_id : Option Reference
deriving DecidableEq

namespace BookState

def correlated (state : BookState) : Prop :=
  state.reservation_id.isSome ∧ state.reserved_patron_id.isSome ∧
    state.reserved_patron_email.isSome

/-- `Book._validate_state` raises nothing. -/
def Ok (state : BookState) : Prop :=
  match state.status with
  | .available =>
      state.reserved_at = none ∧ state.borrowed_at = none ∧
        state.return_due_date = none ∧ state.current_loan_id = none ∧
        (state.correlated ∨
          (state.reservation_id = none ∧ state.reserved_patron_id = none ∧
            state.reserved_patron_email = none))
  | .reserved =>
      state.correlated ∧ state.reserved_at.isSome ∧
        1 ≤ state.reservation_generation ∧ state.borrowed_at = none ∧
        state.return_due_date = none ∧ state.current_loan_id = none
  | .borrowed =>
      state.correlated ∧ 1 ≤ state.reservation_generation ∧
        state.reserved_at = none ∧ state.current_loan_id.isSome ∧
        ∃ borrowed due, state.borrowed_at = some borrowed ∧
          state.return_due_date = some due ∧ borrowed < due

end BookState

structure Book where
  title : BoundedText 100
  author : BoundedText 200
  id : Reference
  state : BookState
  last_completed_loan_id : Option Reference
  valid : state.Ok

namespace Book

/-- `BookId(value)` -/
def parseBookId (rt : PythonRuntime) (value : PyStr) : Except Raised Reference :=
  normalizeIdentifier rt (.validation (py "BookId cannot be empty"))
    (.validation (py "BookId has an invalid format")) value

/-- `Title(value)` -/
def parseTitle (value : PyStr) : Except Raised (BoundedText 100) :=
  foldText 100 (.validation (py "Title cannot be empty"))
    (.validation (py "Title cannot be longer than 100 characters")) value

/-- `Author(value)` -/
def parseAuthor (value : PyStr) : Except Raised (BoundedText 200) :=
  foldText 200 (.validation (py "Author cannot be empty"))
    (.validation (py "Author cannot be longer than 200 characters")) value

/-- `Book._normalize_reference` -/
def normalizeReference (value field : PyStr) : Except Raised Reference :=
  LibrarySystem.normalizeReference (.catalog (.invalidCatalogReference field)) value

def parseReservationId (rt : PythonRuntime) (value : PyStr) : Except Raised Uuid :=
  LibrarySystem.parseReservationId rt
    (.validation (py "ReservationId must be a valid UUID")) value

/-- The token of a new reservation: the caller's, or the one drawn. -/
def drawReservationId (rt : PythonRuntime) (nextId : Uuid) :
    Option PyStr → Except Raised Uuid
  | some value => parseReservationId rt value
  | none => .ok nextId

/-- `Book._require_matching_reservation` -/
def requireMatchingReservation (rt : PythonRuntime) (book : Book)
    (reservationId : PyStr) (reservationGeneration : ℤ) (patronId operation : PyStr) :
    Except Raised Uuid := do
  let token ← parseReservationId rt reservationId
  if book.state.reservation_id = some token ∧
      (book.state.reservation_generation : ℤ) = reservationGeneration ∧
      book.state.reserved_patron_id.map Subtype.val = some patronId then
    pure token
  else
    throw (.catalog (.staleReservation book.id.val (uuidText token)
      reservationGeneration operation))

/-- `Book.reserve`; `nextId` is the token drawn when none is passed. -/
def reserve (rt : PythonRuntime) (nextId : Uuid) (book : Book)
    (patronId borrowerEmail : PyStr) (reservedAt : DateTime)
    (reservationId : Option PyStr) :
    Except Raised (Book × Uuid × List AggregateEvent) := do
  if book.state.status ≠ .available then
    throw (.catalog (.bookAlreadyBorrowed book.id.val))
  if PyStr.strip borrowerEmail = [] then
    throw (.catalog .borrowerEmailRequired)
  let patronId ← normalizeReference patronId (py "patron_id")
  let borrowerEmail ← EmailAddress.parse rt borrowerEmail
  let reservedAt ← requireUtcDatetime reservedAt (py "reserved_at")
  let token ← drawReservationId rt nextId reservationId
  let generation := book.state.reservation_generation + 1
  pure
    ({ book with
        state :=
          { status := .reserved
            reserved_at := some reservedAt
            borrowed_at := none
            return_due_date := none
            reservation_id := some token
            reservation_generation := generation
            reserved_patron_id := some patronId
            reserved_patron_email := some borrowerEmail
            current_loan_id := none }
        valid := by simp [BookState.Ok, BookState.correlated, generation] },
      token,
      [.catalogBookReserved
        { book_id := book.id.val
          title := book.title.value
          reservation_id := uuidText token
          reservation_generation := generation
          patron_id := patronId.val
          reserved_at := .ofUtc reservedAt
          borrower_email := borrowerEmail.value }])

theorem reserved_ok
    {book : Book} (hstatus : book.state.status = .reserved) :
    book.state.correlated ∧ book.state.reserved_at.isSome ∧
      1 ≤ book.state.reservation_generation ∧ book.state.borrowed_at = none ∧
      book.state.return_due_date = none ∧ book.state.current_loan_id = none := by
  have hvalid := book.valid
  simpa only [BookState.Ok, hstatus] using hvalid

theorem borrowed_ok
    {book : Book} (hstatus : book.state.status = .borrowed) :
    book.state.correlated ∧ 1 ≤ book.state.reservation_generation ∧
      book.state.reserved_at = none ∧ book.state.current_loan_id.isSome ∧
      ∃ borrowed due, book.state.borrowed_at = some borrowed ∧
        book.state.return_due_date = some due ∧ borrowed < due := by
  have hvalid := book.valid
  simpa only [BookState.Ok, hstatus] using hvalid

/-- `Book.confirm_borrow` -/
def confirmBorrow (rt : PythonRuntime) (book : Book) (reservationId : PyStr)
    (reservationGeneration : ℤ) (patronId loanId : PyStr)
    (borrowedAt returnDueDate : DateTime) :
    Except Raised (Book × Bool × List AggregateEvent) := do
  let token ← requireMatchingReservation rt book reservationId
    reservationGeneration patronId (py "confirm borrow")
  let loanId ← normalizeReference loanId (py "loan_id")
  let borrowedAt ← requireUtcDatetime borrowedAt (py "borrowed_at")
  let returnDueDate ← requireUtcDatetime returnDueDate (py "return_due_date")
  let stale := Raised.catalog (.staleReservation book.id.val (uuidText token)
    reservationGeneration (py "confirm borrow"))
  if book.state.status = .borrowed ∧ book.state.current_loan_id = some loanId then
    if book.state.borrowed_at ≠ some borrowedAt ∨
        book.state.return_due_date ≠ some returnDueDate then
      throw stale
    else
      return (book, false, [])
  if hreserved : book.state.status ≠ .reserved ∨ book.state.current_loan_id.isSome then
    throw stale
  else if hdue : returnDueDate ≤ borrowedAt then
    throw (.catalog .invalidBorrowPeriod)
  else if ∃ reserved ∈ book.state.reserved_at, borrowedAt < reserved then
    throw (.catalog .invalidBorrowPeriod)
  else
    have hstatus : book.state.status = .reserved := by
      by_contra hne
      exact hreserved (Or.inl hne)
    have hemail : book.state.reserved_patron_email.isSome :=
      (reserved_ok hstatus).1.2.2
    pure
      ({ book with
          state :=
            { book.state with
              status := .borrowed
              reserved_at := none
              current_loan_id := some loanId
              borrowed_at := some borrowedAt
              return_due_date := some returnDueDate }
          valid := by
            have hok := reserved_ok hstatus
            refine ⟨hok.1, hok.2.2.1, rfl, rfl, _, _, rfl, rfl, not_le.mp hdue⟩ },
        true,
        [.catalogBookBorrowed
          { book_id := book.id.val
            title := book.title.value
            reservation_id := uuidText token
            reservation_generation := book.state.reservation_generation
            patron_id := patronId
            loan_id := loanId.val
            borrowed_at := .ofUtc borrowedAt
            return_due_date := .ofUtc returnDueDate
            borrower_email := (book.state.reserved_patron_email.get hemail).value }])

/-- `Book.release` -/
def release (rt : PythonRuntime) (book : Book) (reservationId : PyStr)
    (reservationGeneration : ℤ) (patronId reason : PyStr) :
    Except Raised (Book × Bool × List AggregateEvent) := do
  let token ← requireMatchingReservation rt book reservationId
    reservationGeneration patronId (py "release reservation")
  let invalidReason := Raised.catalog .invalidReservationReason
  let reason ← foldText 500 invalidReason invalidReason reason
  if book.state.status = .available then return (book, false, [])
  if hstatus : book.state.status = .reserved then
    pure
      ({ book with
          state :=
            { book.state with
              status := .available
              reserved_at := none
              borrowed_at := none
              return_due_date := none }
          valid := by
            have hok := reserved_ok hstatus
            exact ⟨rfl, rfl, rfl, hok.2.2.2.2.2, Or.inl hok.1⟩ },
        true,
        [.catalogBookReleased
          { book_id := book.id.val
            reservation_id := uuidText token
            reservation_generation := reservationGeneration
            patron_id := patronId
            reason := reason.value }])
  else
    throw (.catalog (.staleReservation book.id.val (uuidText token)
      reservationGeneration (py "release reservation")))

/-- `Book._require_return_correlation` -/
def requireReturnCorrelation (book : Book) (loanId : Reference) (token : Uuid)
    (reservationGeneration : ℤ) (patronId : PyStr) : Except Raised Unit :=
  let mismatches : List PyStr :=
    (if book.state.reservation_id = some token then [] else [py "reservation_id"]) ++
      (if (book.state.reservation_generation : ℤ) = reservationGeneration then []
        else [py "reservation_generation"]) ++
      (if book.state.reserved_patron_id.map Subtype.val = some patronId then []
        else [py "patron_id"])
  if mismatches = [] then .ok ()
  else
    .error (.catalog (.loanCorrelationMismatch book.id.val loanId.val
      ((py ", ").intercalate mismatches ++ py " differ")))

/-- `Book.return_book` -/
def returnBook (rt : PythonRuntime) (book : Book) (loanId reservationId : PyStr)
    (reservationGeneration : ℤ) (patronId : PyStr) :
    Except Raised (Book × Bool × List AggregateEvent) := do
  let loanId ← normalizeReference loanId (py "loan_id")
  let token ← parseReservationId rt reservationId
  let stale := Raised.catalog (.staleLoanCompletion book.id.val loanId.val)
  if book.state.status = .available ∧ book.last_completed_loan_id = some loanId then
    if reservationGeneration < book.state.reservation_generation then throw stale
    requireReturnCorrelation book loanId token reservationGeneration patronId
    return (book, false, [])
  if hborrowed : book.state.status = .borrowed ∧
      book.state.current_loan_id = some loanId then
    requireReturnCorrelation book loanId token reservationGeneration patronId
    have hok := borrowed_ok hborrowed.1
    pure
      ({ book with
          state :=
            { book.state with
              status := .available
              borrowed_at := none
              return_due_date := none
              current_loan_id := none }
          last_completed_loan_id := some loanId
          valid := ⟨hok.2.2.1, rfl, rfl, rfl, Or.inl hok.1⟩ },
        true,
        [.catalogBookReturned
          { book_id := book.id.val
            loan_id := loanId.val
            reservation_id := uuidText (book.state.reservation_id.get hok.1.1)
            reservation_generation := book.state.reservation_generation
            patron_id := (book.state.reserved_patron_id.get hok.1.2.1).val }])
  else
    throw stale

end Book

end LibrarySystem
