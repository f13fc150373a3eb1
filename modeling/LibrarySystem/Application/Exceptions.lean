import LibrarySystem.Persistence.Database

/-!
# Failures of the command handlers

The application exceptions, those of the bounded contexts that a handler or a
repository raises itself, and what comes from below: a domain rule, the event
registry, the database.
-/

namespace LibrarySystem

inductive AppException
  | raised (error : Raised)
  | registry (error : RegistryException)
  | idempotencyKeyConflict (key detail : PyStr)
  | invalidIdempotencyKey
  | invalidMembershipTier (value : PyStr)
  | bookNotFound (book_id : PyStr)
  | loanNotFound (loan_id : PyStr)
  | patronNotFound (patron_id : PyStr)
  | borrowerNotEligible (borrower_email reason : PyStr)
  | patronEmailAlreadyRegistered (email : PyStr)
  | bookNotAvailable (book_id : PyStr)
  | patronBorrowingLimitReached (patron_id : PyStr) (limit : ℕ)
  | patronNotEligibleForLoan (patron_id reason : PyStr)
  | reservationCorrelationMismatch (reservation_id detail : PyStr)
  | concurrentLoanCreation (reservation_id book_id : PyStr)
  | concurrentModification (aggregate : Aggregate)
  | borrowOperationNotFound (operation_id : PyStr)
  | borrowOperationTransition (operation_id detail : PyStr)
  | valueError (message : PyStr)
  | assertion
  | unreadableReceipt
  | multipleResults
  | database (refusal : Refusal)

namespace AppException

/-- `str(error)`, where the application fixes it. -/
def message : AppException → Option PyStr
  | raised (.validation text) => some text
  | raised (.catalog error) => some error.message
  | raised (.lending error) => some error.message
  | raised (.patron error) => some error.message
  | idempotencyKeyConflict key detail =>
      some (py "Idempotency key '" ++ key ++ py "' conflicts: " ++ detail)
  | invalidIdempotencyKey =>
      some (py "Invalid idempotency key: must be 8-128 URL/log-safe characters")
  | bookNotFound id => some (py "Book with id " ++ id ++ py " not found")
  | loanNotFound id => some (py "Loan with id " ++ id ++ py " not found")
  | patronNotFound id => some (py "Patron with id " ++ id ++ py " not found")
  | borrowerNotEligible email reason =>
      some (py "Borrower " ++ email ++ py " cannot borrow: " ++ reason)
  | patronEmailAlreadyRegistered email =>
      some (py "A patron with email " ++ email ++ py " is already registered")
  | bookNotAvailable id => some (py "Book " ++ id ++ py " is not available for checkout")
  | patronBorrowingLimitReached id limit =>
      some (py "Patron " ++ id ++ py " has reached the borrowing limit of " ++
        Json.renderNat limit)
  | patronNotEligibleForLoan id reason =>
      some (py "Patron " ++ id ++ py " is not eligible for a loan: " ++ reason)
  | reservationCorrelationMismatch id detail =>
      some (py "Reservation " ++ id ++ py " conflicts with its existing loan: " ++ detail)
  | concurrentLoanCreation reservation book =>
      some (py "Concurrent loan creation for reservation " ++ reservation ++
        py " and book " ++ book)
  | concurrentModification (.book book) =>
      some (py "Book with id " ++ book.id.val ++
        py " was modified by another process. Please retry the operation.")
  | concurrentModification (.loan loan) =>
      some (py "Loan " ++ loan.id.val ++ py " was modified by another process")
  | concurrentModification (.patron patron) =>
      some (py "Patron " ++ patron.id.val ++ py " was modified by another process")
  | borrowOperationNotFound id => some (py "Borrow operation " ++ id ++ py " not found")
  | borrowOperationTransition id detail =>
      some (py "Borrow operation " ++ id ++ py " cannot be transitioned: " ++ detail)
  | valueError text => some text
  | _ => none

end AppException

end LibrarySystem
