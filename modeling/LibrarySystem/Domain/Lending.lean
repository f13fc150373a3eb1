import LibrarySystem.Domain.Events

/-!
# Lending

The loan aggregate.  `Loan.create` builds its event from the arguments it was
given while the constructor stores their normalised forms; every other
transition reads its event from the stored fields.
-/

namespace LibrarySystem

inductive LoanStatus
  | active
  | returned
  | overdue
  | lost
  | cancelled
deriving DecidableEq

def LoanStatus.value : LoanStatus → PyStr
  | active => py "active"
  | returned => py "returned"
  | overdue => py "overdue"
  | lost => py "lost"
  | cancelled => py "cancelled"

namespace DueDate

/-- `DueDate.from_loan_duration` -/
def fromLoanDuration (loanDate : DateTime) (days : ℤ) :
    Except Raised UtcDateTime := do
  if days ≤ 0 then throw (.lending (.invalidLoanDuration days))
  let loanDate ← requireUtcDatetime loanDate (py "borrowed_at")
  (loanDate.addDays days).mapError .python

def isOverdueAsOf (due : UtcDateTime) (currentTime : DateTime) :
    Except Raised Bool := do
  let now ← requireUtcDatetime currentTime (py "current_time")
  pure (decide (due < now))

def daysUntilDueAsOf (due : UtcDateTime) (currentTime : DateTime) :
    Except Raised ℤ := do
  let now ← requireUtcDatetime currentTime (py "current_time")
  pure (due.daysBetween now)

def extend (due : UtcDateTime) (days : ℤ) : Except Raised UtcDateTime := do
  if days ≤ 0 then throw (.lending (.invalidLoanExtension days))
  (due.addDays days).mapError .python

end DueDate

structure BorrowingTerms where
  maxOutstandingLoans : ℕ
  loanDurationDays : ℤ
deriving DecidableEq

/-- `LendingPolicy.for_membership_tier` -/
def LendingPolicy.forMembershipTier (rt : PythonRuntime) (membershipTier : PyStr) :
    Option BorrowingTerms :=
  let tier := rt.lower (PyStr.strip membershipTier)
  if tier = py "regular" then some ⟨5, 14⟩
  else if tier = py "premium" then some ⟨10, 21⟩
  else if tier = py "researcher" then some ⟨20, 30⟩
  else none

structure Loan where
  patron_id : Reference
  patron_email : EmailAddress
  catalog_book_id : Reference
  book_title : BoundedText 100
  due_date : UtcDateTime
  borrowed_at : UtcDateTime
  reservation_id : Uuid
  reservation_generation : ℤ
  id : Reference
  status : LoanStatus
  returned_at : Option UtcDateTime
  generation_pos : 1 ≤ reservation_generation
  borrowed_before_due : borrowed_at < due_date
  borrowed_before_return : ∀ t, returned_at = some t → borrowed_at ≤ t
  returned_iff : status = .returned ↔ returned_at.isSome
deriving DecidableEq

namespace Loan

/-- `Loan._normalize_reference` -/
def normalizeReference (value field : PyStr) : Except Raised Reference :=
  LibrarySystem.normalizeReference (.lending (.invalidLoanReference field)) value

def parseReservationId (rt : PythonRuntime) (value : PyStr) : Except Raised Uuid :=
  LibrarySystem.parseReservationId rt (.lending .invalidReservationId) value

/-- `LoanId(value)` -/
def parseLoanId (rt : PythonRuntime) (value : PyStr) : Except Raised Reference :=
  normalizeIdentifier rt (.lending .invalidLoanId) (.lending .invalidLoanId) value

/-- The constructor call of `create`: an active loan under a fresh id. -/
def construct (rt : PythonRuntime) (patronId patronEmail catalogBookId
    bookTitle : PyStr) (dueDate : UtcDateTime) (borrowedAt : DateTime)
    (reservationId : Uuid) (reservationGeneration : ℤ) (id : Reference) :
    Except Raised Loan := do
  let patronId ← normalizeReference patronId (py "patron_id")
  let catalogBookId ← normalizeReference catalogBookId (py "catalog_book_id")
  let patronEmail ← EmailAddress.parse rt patronEmail
  let invalidTitle := Raised.lending (.invalidLoanReference (py "book_title"))
  let bookTitle ← foldText 100 invalidTitle invalidTitle bookTitle
  if hgeneration : reservationGeneration < 1 then
    throw (.lending (.invalidReservationGeneration reservationGeneration))
  else
    let borrowedAt ← requireUtcDatetime borrowedAt (py "borrowed_at")
    if hdue : dueDate ≤ borrowedAt then
      throw (.lending (.invalidLoanDuration 0))
    else
      pure
        { patron_id := patronId
          patron_email := patronEmail
          catalog_book_id := catalogBookId
          book_title := bookTitle
          due_date := dueDate
          borrowed_at := borrowedAt
          reservation_id := reservationId
          reservation_generation := reservationGeneration
          id := id
          status := .active
          returned_at := none
          generation_pos := by omega
          borrowed_before_due := not_le.mp hdue
          borrowed_before_return := by simp
          returned_iff := by simp }

/-- `Loan.create`; `nextId` is the id the factory draws. -/
def create (rt : PythonRuntime) (nextId : Reference) (patronId patronEmail
    catalogBookId bookTitle : PyStr) (loanDurationDays : ℤ)
    (borrowedAt : DateTime) (reservationId : PyStr)
    (reservationGeneration : ℤ) : Except Raised (Loan × List AggregateEvent) := do
  if reservationGeneration < 1 then
    throw (.lending (.invalidReservationGeneration reservationGeneration))
  let token ← parseReservationId rt reservationId
  let dueDate ← DueDate.fromLoanDuration borrowedAt loanDurationDays
  let loan ← construct rt patronId patronEmail catalogBookId bookTitle dueDate
    borrowedAt token reservationGeneration nextId
  pure (loan,
    [.loanCreated
      { loan_id := loan.id.val
        reservation_id := uuidText token
        reservation_generation := reservationGeneration
        patron_id := patronId
        patron_email := patronEmail
        book_id := catalogBookId
        book_title := bookTitle
        borrowed_at := borrowedAt
        due_date := .ofUtc dueDate }])

/-- `Loan.return_book` -/
def returnBook (loan : Loan) (returnedAt : DateTime) :
    Except Raised (Loan × Bool × List AggregateEvent) := do
  if loan.status = .returned then return (loan, false, [])
  if loan.status = .cancelled then
    throw (.lending (.loanNotActive loan.id.val (py "return")))
  let returnedAt ← requireUtcDatetime returnedAt (py "returned_at")
  if hbefore : returnedAt < loan.borrowed_at then
    throw (.lending (.invalidLoanReturnDate loan.id.val))
  else
    let wasOverdue ← DueDate.isOverdueAsOf loan.due_date (.ofUtc returnedAt)
    pure
      ({ loan with
          status := .returned
          returned_at := some returnedAt
          borrowed_before_return := by
            rintro t ⟨⟩
            exact not_lt.mp hbefore
          returned_iff := by simp },
        true,
        [.loanCompleted
          { loan_id := loan.id.val
            reservation_id := uuidText loan.reservation_id
            reservation_generation := loan.reservation_generation
            patron_id := loan.patron_id.val
            book_id := loan.catalog_book_id.val
            returned_at := .ofUtc returnedAt
            was_overdue := wasOverdue }])

theorem returned_at_eq_none
    {loan : Loan} (hstatus : loan.status ≠ .returned) :
    loan.returned_at = none := by
  have hiff := loan.returned_iff
  cases hreturned : loan.returned_at with
  | none => rfl
  | some t => simp [hreturned, hstatus] at hiff

/-- The loan after a status change that is not a return. -/
def withStatus (loan : Loan) (status : LoanStatus)
    (hbefore : loan.status ≠ .returned) (hafter : status ≠ .returned) : Loan :=
  { loan with
    status := status
    returned_iff := by
      simp [hafter, returned_at_eq_none hbefore] }

/-- `Loan.cancel` -/
def cancel (loan : Loan) (reason : PyStr) :
    Except Raised (Loan × Bool × List AggregateEvent) := do
  if loan.status = .cancelled then return (loan, false, [])
  if hreturned : loan.status = .returned then
    throw (.lending (.loanNotActive loan.id.val (py "cancel")))
  else
    let invalidReason := Raised.lending .invalidCancellationReason
    let reason ← foldText 500 invalidReason invalidReason reason
    pure
      (loan.withStatus .cancelled hreturned (by decide),
        true,
        [.loanCancelled
          { loan_id := loan.id.val
            reservation_id := uuidText loan.reservation_id
            reservation_generation := loan.reservation_generation
            patron_id := loan.patron_id.val
            book_id := loan.catalog_book_id.val
            reason := reason.value }])

/-- `Loan.mark_overdue` -/
def markOverdue (loan : Loan) (currentTime : DateTime) :
    Except Raised (Loan × List AggregateEvent) := do
  if hactive : loan.status = .active then
    let overdue ← DueDate.isOverdueAsOf loan.due_date currentTime
    if !overdue then throw (.lending (.loanNotOverdue loan.id.val))
    let days ← DueDate.daysUntilDueAsOf loan.due_date currentTime
    pure
      (loan.withStatus .overdue (by simp [hactive]) (by decide),
        [.bookOverdue
          { loan_id := loan.id.val
            patron_id := loan.patron_id.val
            patron_email := loan.patron_email.value
            book_id := loan.catalog_book_id.val
            book_title := loan.book_title.value
            due_date := .ofUtc loan.due_date
            days_overdue := |days| }])
  else
    throw (.lending (.loanNotActive loan.id.val (py "mark as overdue")))

theorem lt_of_extend
    {due after : UtcDateTime} {days : ℤ}
    (hextend : DueDate.extend due days = .ok after) :
    due < after := by
  unfold DueDate.extend at hextend
  by_cases hdays : days ≤ 0
  · simp only [hdays, if_true] at hextend
    cases hextend
  · simp only [hdays, if_false] at hextend
    cases hadd : due.addDays days with
    | error error =>
        simp [hadd, Except.mapError] at hextend
    | ok sum =>
        have hsum : sum = after := by
          simp only [hadd, Except.mapError] at hextend
          cases hextend
          rfl
        subst sum
        exact UtcDateTime.lt_of_addDays hadd (by omega)

/-- `Loan.extend` -/
def extend (loan : Loan) (days : ℤ) (currentTime : DateTime) :
    Except Raised (Loan × List AggregateEvent) := do
  if loan.status ≠ .active then
    throw (.lending (.loanNotActive loan.id.val (py "extend")))
  let overdue ← DueDate.isOverdueAsOf loan.due_date currentTime
  if overdue then throw (.lending (.cannotExtendOverdueLoan loan.id.val))
  match hextend : DueDate.extend loan.due_date days with
  | .error error => throw error
  | .ok dueDate =>
      pure
        ({ loan with
            due_date := dueDate
            borrowed_before_due :=
              loan.borrowed_before_due.trans (lt_of_extend hextend) },
          [.loanExtended
            { loan_id := loan.id.val
              patron_id := loan.patron_id.val
              book_id := loan.catalog_book_id.val
              old_due_date := .ofUtc loan.due_date
              new_due_date := .ofUtc dueDate }])

end Loan

end LibrarySystem
