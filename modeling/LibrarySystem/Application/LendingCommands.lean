import LibrarySystem.Application.CatalogCommands

/-!
# Command handlers of lending

A loan is created for a reservation under the borrowing fence of its patron; a
refused insert is reconciled by reading the loans once more.  Returns and extensions
are keyed by the client, cancellations by the reservation.
-/

namespace LibrarySystem

namespace LoanCommandRepository

/-- `get_by_reservation_id`; the identity map is searched first. -/
def getByReservationId (rt : PythonRuntime) (reservation_id : PyStr) :
    Uow Loan (Option (Tracked Loan)) := do
  let canonical_id ← Uow.ofExcept (Loan.parseReservationId rt reservation_id)
  let session ← get
  match session.identity_map.find? fun entry =>
      entry.2.aggregate.reservation_id = canonical_id with
  | some entry => pure (some entry.2)
  | none =>
      let rows ← Uow.select Loan fun row => row.reservation_id = canonical_id
      let row ← Uow.scalarOneOrNone rows
      match row with
      | none => pure none
      | some row =>
          let loan ← Uow.hydrate (A := Loan) row
          pure (some loan)

/-- `get_active_loan_for_book` -/
def getActiveLoanForBook (catalog_book_id : PyStr) : Uow Loan (Option (Tracked Loan)) := do
  let rows ← Uow.select Loan fun row =>
    row.catalog_book_id.val = catalog_book_id && row.outstanding
  let row ← Uow.scalarOneOrNone rows
  match row with
  | none => pure none
  | some row =>
      let loan ← Uow.entityOf (A := Loan) row
      pure (some loan)

/-- `count_outstanding_for_patron` -/
def countOutstandingForPatron (patron_id : PyStr) : Uow Loan ℕ := do
  let rows ← Uow.select Loan fun row => row.patron_id.val = patron_id && row.outstanding
  pure rows.length

end LoanCommandRepository

/-! ## Creating a loan -/

structure CreateLoanCommand where
  reservation_id : PyStr
  reservation_generation : ℤ
  patron_id : PyStr
  patron_email : PyStr
  catalog_book_id : PyStr
  book_title : PyStr
  borrowed_at : DateTime

structure CreateLoanResult where
  id : PyStr
  reservation_id : PyStr
  reservation_generation : ℤ
  patron_id : PyStr
  catalog_book_id : PyStr
  book_title : PyStr
  borrowed_at : UtcDateTime
  due_date : UtcDateTime
deriving DecidableEq

namespace CreateLoanHandler

def result (loan : Loan) : CreateLoanResult where
  id := loan.id.val
  reservation_id := uuidText loan.reservation_id
  reservation_generation := loan.reservation_generation
  patron_id := loan.patron_id.val
  catalog_book_id := loan.catalog_book_id.val
  book_title := loan.book_title.value
  borrowed_at := loan.borrowed_at
  due_date := loan.due_date

/-- Aware datetimes are equal when their instants are; a naive one equals no aware
one. -/
def sameInstant (t : UtcDateTime) (value : DateTime) : Bool :=
  value.utcoffset.any fun offset => (t.val : ℤ) = DateTime.instant value.wall offset

/-- The fields in which a replay differs from the loan. -/
@[irreducible] def mismatches (command : CreateLoanCommand) (loan : Loan) (reservation_id : PyStr) :
    List PyStr :=
  [(py "reservation_id", decide (uuidText loan.reservation_id = reservation_id)),
    (py "reservation_generation",
      decide (loan.reservation_generation = command.reservation_generation)),
    (py "patron_id", decide (loan.patron_id.val = command.patron_id)),
    (py "patron_email", decide (loan.patron_email.value = command.patron_email)),
    (py "catalog_book_id", decide (loan.catalog_book_id.val = command.catalog_book_id)),
    (py "book_title", decide (loan.book_title.value = command.book_title)),
    (py "borrowed_at", sameInstant loan.borrowed_at command.borrowed_at)].filterMap
      fun comparison => if comparison.2 then none else some comparison.1

/-- `_require_exact_replay`, then the result of the loan found. -/
def replay (command : CreateLoanCommand) (loan : Loan) (reservation_id : PyStr) :
    Uow Loan CreateLoanResult :=
  if mismatches command loan reservation_id = [] then pure (result loan)
  else
    Uow.raise (.reservationCorrelationMismatch reservation_id
      (py "immutable field(s) differ: " ++
        (py ", ").intercalate (mismatches command loan reservation_id)))

/-- The eligibility checks on the authoritative profile, and the terms of its tier. -/
def borrowingTerms (rt : PythonRuntime) (command : CreateLoanCommand) :
    Option BorrowerProfile → Except AppException BorrowingTerms
  | none =>
      .error (.patronNotEligibleForLoan command.patron_id (py "patron no longer exists"))
  | some borrower =>
      let reject (reason : PyStr) :=
        Except.error (AppException.patronNotEligibleForLoan command.patron_id reason)
      if borrower.patron_id ≠ command.patron_id then
        reject (py "authoritative identity mismatch")
      else if borrower.email ≠ command.patron_email then
        reject (py "authoritative email mismatch")
      else if !borrower.is_eligible then
        reject (borrower.ineligible_reason.getD (py "patron policy rejected borrowing"))
      else
        match LendingPolicy.forMembershipTier rt borrower.membership_tier with
        | none => reject (py "membership tier is not supported by Lending")
        | some terms => .ok terms

/-- The decisions of `_create_or_replay` under the fence. -/
def create (rt : PythonRuntime) (command : CreateLoanCommand) (reservation_id : PyStr)
    (outstanding_count : ℕ) : Uow Loan CreateLoanResult := do
  let borrower ← PatronBorrowerDirectoryAdapter.getById command.patron_id
  match borrowingTerms rt command borrower with
  | .error error => Uow.raise error
  | .ok terms =>
      if terms.maxOutstandingLoans ≤ outstanding_count then
        Uow.raise (.patronBorrowingLimitReached command.patron_id
          terms.maxOutstandingLoans)
      else
        let existing ← LoanCommandRepository.getActiveLoanForBook command.catalog_book_id
        match existing with
        | some _ => Uow.raise (.bookNotAvailable command.catalog_book_id)
        | none =>
            let seen ← Uow.observe
            let (loan, events) ← Uow.ofExcept
              (Loan.create rt (uuidReference seen.draws.uuid) command.patron_id
                command.patron_email command.catalog_book_id command.book_title
                terms.loanDurationDays command.borrowed_at reservation_id
                command.reservation_generation)
            let loan ← Uow.create loan events
            Uow.add loan
            Uow.commit rt
            pure (result loan.aggregate)

/-- `_create_or_replay` -/
def createOrReplay (rt : PythonRuntime) (command : CreateLoanCommand)
    (reservation_id : PyStr) : Command CreateLoanResult :=
  Uow.transaction do
    let existing ← LoanCommandRepository.getByReservationId rt reservation_id
    match existing with
    | some loan => replay command loan.aggregate reservation_id
    | none =>
        Uow.acquireBorrowingFence command.patron_id
        let outstanding_count ←
          LoanCommandRepository.countOutstandingForPatron command.patron_id
        let existing ← LoanCommandRepository.getByReservationId rt reservation_id
        match existing with
        | some loan => replay command loan.aggregate reservation_id
        | none => create rt command reservation_id outstanding_count

/-- `_reconcile_concurrent_insert` -/
def reconcileConcurrentInsert (rt : PythonRuntime) (command : CreateLoanCommand)
    (reservation_id : PyStr) (conflict : AppException) : Command CreateLoanResult :=
  Uow.transaction do
    let winner ← LoanCommandRepository.getByReservationId rt reservation_id
    match winner with
    | some loan => replay command loan.aggregate reservation_id
    | none =>
        let winner ← LoanCommandRepository.getActiveLoanForBook command.catalog_book_id
        match winner with
        | some _ => Uow.raise (.bookNotAvailable command.catalog_book_id)
        | none => Uow.raise conflict

def handle (rt : PythonRuntime) (command : CreateLoanCommand) :
    Command CreateLoanResult := do
  let token ← Command.ofExcept (Loan.parseReservationId rt command.reservation_id)
  let reservation_id := uuidText token
  tryCatch (createOrReplay rt command reservation_id) fun error =>
    match error with
    | .concurrentLoanCreation _ _ =>
        reconcileConcurrentInsert rt command reservation_id error
    | _ => throw error

end CreateLoanHandler

/-! ## Returning a loan -/

structure ReturnLoanCommand where
  loan_id : PyStr
  idempotency_key : Option PyStr

structure ReturnLoanResult where
  id : PyStr
  returned_at : UtcDateTime
  was_overdue : Bool
deriving DecidableEq

instance : Receipted ReturnLoanResult where
  response result :=
    [(py "id", .str result.id), (py "returned_at", .str (isoformat result.returned_at)),
      (py "was_overdue", .bool result.was_overdue)]
  ofResponse rt members := do
    let id ← Response.text members (py "id")
    let returned_at ← Response.datetime members rt (py "returned_at")
    let was_overdue ← Response.flag members (py "was_overdue")
    pure ⟨id, returned_at, was_overdue⟩

namespace ReturnLoanHandler

def scope : PyStr := py "lending.return_loan"

def facts (command : ReturnLoanCommand) : List (PyStr × Json) :=
  [(py "loan_id", .str (PyStr.strip command.loan_id))]

def result (loan : Loan) (returned_at : UtcDateTime) : ReturnLoanResult where
  id := loan.id.val
  returned_at := returned_at
  was_overdue := loan.due_date < returned_at

/-- The body of the transaction when no earlier request answers. -/
def returnLoan (rt : PythonRuntime) (command : ReturnLoanCommand)
    (key : Option IdempotencyKey) (request_hash : PyStr) : Uow Loan ReturnLoanResult := do
  let loan_id := PyStr.strip command.loan_id
  let loan ← Uow.getById loan_id
  match loan with
  | none => Uow.raise (.loanNotFound loan_id)
  | some loan =>
      let now ← Uow.now
      let (after, changed, events) ← Uow.ofExcept (loan.aggregate.returnBook (.ofUtc now))
      let loan ← Uow.mutate loan after events
      match loan.aggregate.returned_at with
      | none => Uow.raise .assertion
      | some returned_at =>
          if changed then Uow.update loan
          Uow.keepReceipt rt scope key request_hash (result loan.aggregate returned_at)
          if changed || key.isSome then Uow.commit rt
          pure (result loan.aggregate returned_at)

def handle (rt : PythonRuntime) (command : ReturnLoanCommand) :
    Command ReturnLoanResult := do
  let key ← Run.ofExcept (IdempotencyKey.parse command.idempotency_key)
  let request_hash := commandFingerprint rt (facts command)
  Uow.transaction do
    let earlier ← Uow.replay rt scope key request_hash
    match earlier with
    | some result => pure result
    | none => returnLoan rt command key request_hash

end ReturnLoanHandler

/-! ## Extending a loan -/

structure ExtendLoanCommand where
  loan_id : PyStr
  days : ℤ
  idempotency_key : Option PyStr

structure ExtendLoanResult where
  id : PyStr
  new_due_date : UtcDateTime
deriving DecidableEq

instance : Receipted ExtendLoanResult where
  response result :=
    [(py "id", .str result.id), (py "new_due_date", .str (isoformat result.new_due_date))]
  ofResponse rt members := do
    let id ← Response.text members (py "id")
    let new_due_date ← Response.datetime members rt (py "new_due_date")
    pure ⟨id, new_due_date⟩

namespace ExtendLoanHandler

def scope : PyStr := py "lending.extend_loan"

def facts (command : ExtendLoanCommand) : List (PyStr × Json) :=
  [(py "loan_id", .str (PyStr.strip command.loan_id)), (py "days", .int command.days)]

def result (loan : Loan) : ExtendLoanResult where
  id := loan.id.val
  new_due_date := loan.due_date

/-- The body of the transaction when no earlier request answers. -/
def extend (rt : PythonRuntime) (command : ExtendLoanCommand)
    (key : Option IdempotencyKey) (request_hash : PyStr) : Uow Loan ExtendLoanResult := do
  let loan ← Uow.getById command.loan_id
  match loan with
  | none => Uow.raise (.loanNotFound command.loan_id)
  | some loan =>
      let now ← Uow.now
      let (after, events) ← Uow.ofExcept
        (loan.aggregate.extend command.days (.ofUtc now))
      let loan ← Uow.mutate loan after events
      Uow.update loan
      Uow.keepReceipt rt scope key request_hash (result loan.aggregate)
      Uow.commit rt
      pure (result loan.aggregate)

def handle (rt : PythonRuntime) (command : ExtendLoanCommand) :
    Command ExtendLoanResult := do
  let key ← Run.ofExcept (IdempotencyKey.parse command.idempotency_key)
  let request_hash := commandFingerprint rt (facts command)
  Uow.transaction do
    let earlier ← Uow.replay rt scope key request_hash
    match earlier with
    | some result => pure result
    | none => extend rt command key request_hash

end ExtendLoanHandler

/-! ## Cancelling a loan -/

structure CancelLoanCommand where
  reservation_id : PyStr
  reservation_generation : ℤ
  patron_id : PyStr
  catalog_book_id : PyStr
  reason : PyStr
  expected_loan_id : Option PyStr

namespace CancelLoanHandler

/-- The cancellation is for another loan. -/
def mismatch (command : CancelLoanCommand) (loan : Loan) (reservation_id : PyStr) : Bool :=
  uuidText loan.reservation_id ≠ reservation_id ||
    loan.reservation_generation ≠ command.reservation_generation ||
    loan.patron_id.val ≠ command.patron_id ||
    loan.catalog_book_id.val ≠ command.catalog_book_id ||
    command.expected_loan_id.any fun expected => loan.id.val ≠ expected

def handle (rt : PythonRuntime) (command : CancelLoanCommand) : Command Bool := do
  let token ← Command.ofExcept (Loan.parseReservationId rt command.reservation_id)
  let reservation_id := uuidText token
  Uow.transaction do
    let loan ← LoanCommandRepository.getByReservationId rt reservation_id
    match loan with
    | none => pure false
    | some loan =>
        if mismatch command loan.aggregate reservation_id then
          Uow.raise (.reservationCorrelationMismatch reservation_id
            (py "cancellation does not match loan " ++ loan.aggregate.id.val))
        else
          match loan.aggregate.cancel command.reason with
          | .error (.lending (.loanNotActive _ _)) => pure false
          | .error error => Uow.raise (.raised error)
          | .ok (after, changed, events) =>
              let loan ← Uow.mutate loan after events
              if !changed then pure false
              else
                Uow.update loan
                Uow.commit rt
                pure true

end CancelLoanHandler

end LibrarySystem
