import LibrarySystem.Application.Idempotency

/-!
# Command handlers of the catalog

Adding a book, reserving it for a borrower, and the three messages that move a
reservation on: confirmation, release and return; then the reaper, which releases a
batch of expired reservations.
-/

namespace LibrarySystem

/-- A book as the constructor leaves it when it is given no state. -/
def Book.initial (id : Reference) (title : BoundedText 100) (author : BoundedText 200) :
    Book where
  title := title
  author := author
  id := id
  state :=
    { status := .available
      reserved_at := none
      borrowed_at := none
      return_due_date := none
      reservation_id := none
      reservation_generation := 0
      reserved_patron_id := none
      reserved_patron_email := none
      current_loan_id := none }
  last_completed_loan_id := none
  valid := ⟨rfl, rfl, rfl, rfl, Or.inr ⟨rfl, rfl, rfl⟩⟩

def Book.isBorrowed (book : Book) : Bool := book.state.status = .borrowed

/-- Raise what a value constructor raises, before the transaction. -/
def Command.ofExcept {α : Type} (result : Except Raised α) : Command α :=
  Run.ofExcept (result.mapError .raised)

/-! ## Adding a book -/

structure AddBookCommand where
  title : PyStr
  author : PyStr
  idempotency_key : Option PyStr

structure AddBookResult where
  id : PyStr
  title : PyStr
  author : PyStr
  is_borrowed : Bool
  status : PyStr
deriving DecidableEq

instance : Receipted AddBookResult where
  response result :=
    [(py "id", .str result.id), (py "title", .str result.title),
      (py "author", .str result.author), (py "is_borrowed", .bool result.is_borrowed),
      (py "status", .str result.status)]
  ofResponse _ members := do
    guard (Response.onlyNames members
      [py "id", py "title", py "author", py "is_borrowed", py "status"])
    let id ← Response.text members (py "id")
    let title ← Response.text members (py "title")
    let author ← Response.text members (py "author")
    let is_borrowed ← Response.flag members (py "is_borrowed")
    let status ← Response.text members (py "status")
    pure ⟨id, title, author, is_borrowed, status⟩

namespace AddBookHandler

def scope : PyStr := py "catalog.add_book"

def facts (title : BoundedText 100) (author : BoundedText 200) : List (PyStr × Json) :=
  [(py "title", .str title.value), (py "author", .str author.value)]

def result (book : Book) : AddBookResult where
  id := book.id.val
  title := book.title.value
  author := book.author.value
  is_borrowed := book.isBorrowed
  status := book.state.status.value

def handle (rt : PythonRuntime) (command : AddBookCommand) : Command AddBookResult := do
  let title ← Command.ofExcept (Book.parseTitle command.title)
  let author ← Command.ofExcept (Book.parseAuthor command.author)
  let key ← Run.ofExcept (IdempotencyKey.parse command.idempotency_key)
  let request_hash := commandFingerprint rt (facts title author)
  Uow.transaction (A := Book) do
    let earlier ← Uow.replay rt scope key request_hash
    match earlier with
    | some result => pure result
    | none =>
        let seen ← Uow.observe
        let book ← Uow.create (Book.initial (uuidReference seen.draws.uuid) title author) []
        Uow.add book
        Uow.keepReceipt rt scope key request_hash (result book.aggregate)
        Uow.commit rt
        pure (result book.aggregate)

end AddBookHandler

/-! ## Borrowing a book -/

/-- What the directory says about a patron. -/
structure BorrowerProfile where
  patron_id : PyStr
  email : PyStr
  is_eligible : Bool
  membership_tier : PyStr
  ineligible_reason : Option PyStr

namespace PatronBorrowerDirectoryAdapter

/-- `_translate` -/
def translate (row : PatronRow) : BorrowerProfile where
  patron_id := row.id.val
  email := row.email.value
  is_eligible := !row.is_suspended
  membership_tier := row.membership_tier.value
  ineligible_reason := if row.is_suspended then some (py "patron is suspended") else none

variable {A : Type}

def findByEmail (rt : PythonRuntime) (email : PyStr) : Uow A (Option BorrowerProfile) := do
  let rows ← Uow.select Patron fun row => row.email.value = rt.lower (PyStr.strip email)
  let row ← Uow.scalarOneOrNone rows
  pure (row.map translate)

def getById (patron_id : PyStr) : Uow A (Option BorrowerProfile) := do
  let rows ← Uow.select Patron fun row => row.id.val = PyStr.strip patron_id
  let row ← Uow.scalarOneOrNone rows
  pure (row.map translate)

end PatronBorrowerDirectoryAdapter

structure BorrowBookCommand where
  book_id : PyStr
  borrower_email : PyStr
  idempotency_key : Option PyStr

/-- What the field `return_due_date` of a result can hold: the annotation is not
enforced, and a stored response gives the text of a date back. -/
inductive ReturnDueDate
  | absent
  | date (value : UtcDateTime)
  | text (value : PyStr)
deriving DecidableEq

namespace ReturnDueDate

def ofDate : Option UtcDateTime → ReturnDueDate
  | none => absent
  | some value => date value

def json : ReturnDueDate → Json
  | absent => .null
  | date value => .str (isoformat value)
  | text value => .str value

end ReturnDueDate

structure BorrowBookResult where
  id : PyStr
  title : PyStr
  author : PyStr
  is_borrowed : Bool
  reservation_id : PyStr
  reservation_generation : ℤ
  operation_id : PyStr
  status : PyStr
  return_due_date : ReturnDueDate
deriving DecidableEq

instance : Receipted BorrowBookResult where
  response result :=
    [(py "id", .str result.id), (py "title", .str result.title),
      (py "author", .str result.author), (py "is_borrowed", .bool result.is_borrowed),
      (py "reservation_id", .str result.reservation_id),
      (py "reservation_generation", .int result.reservation_generation),
      (py "operation_id", .str result.operation_id), (py "status", .str result.status),
      (py "return_due_date", result.return_due_date.json)]
  ofResponse _ members := do
    guard (Response.onlyNames members
      [py "id", py "title", py "author", py "is_borrowed", py "reservation_id",
        py "reservation_generation", py "operation_id", py "status",
        py "return_due_date"])
    let id ← Response.text members (py "id")
    let title ← Response.text members (py "title")
    let author ← Response.text members (py "author")
    let is_borrowed ← Response.flag members (py "is_borrowed")
    let reservation_id ← Response.text members (py "reservation_id")
    let reservation_generation ← Response.int members (py "reservation_generation")
    let operation_id ← Response.text members (py "operation_id")
    let status ← Response.text members (py "status")
    let return_due_date ← Response.optionalText members (py "return_due_date")
    pure
      { id := id
        title := title
        author := author
        is_borrowed := is_borrowed
        reservation_id := reservation_id
        reservation_generation := reservation_generation
        operation_id := operation_id
        status := status
        return_due_date :=
          match return_due_date with
          | none => .absent
          | some value => .text value }

namespace BorrowBookHandler

def scope : PyStr := py "catalog.borrow_book"

def facts (command : BorrowBookCommand) (email : EmailAddress) : List (PyStr × Json) :=
  [(py "book_id", .str (PyStr.strip command.book_id)),
    (py "borrower_email", .str email.value)]

def operation (book : Book) (borrower : BorrowerProfile) (now : UtcDateTime) :
    BorrowOperation where
  book_id := book.id.val
  patron_id := borrower.patron_id
  reservation_generation := book.state.reservation_generation
  status := .reserved
  loan_id := none
  failure_reason := none
  created_at := now
  updated_at := now

def result (book : Book) (reservation : Uuid) : BorrowBookResult where
  id := book.id.val
  title := book.title.value
  author := book.author.value
  is_borrowed := book.isBorrowed
  reservation_id := uuidText reservation
  reservation_generation := book.state.reservation_generation
  operation_id := uuidText reservation
  status := book.state.status.value
  return_due_date := .ofDate book.state.return_due_date

/-- The body of the transaction when no earlier request answers. -/
def reserve (rt : PythonRuntime) (command : BorrowBookCommand) (email : EmailAddress)
    (key : Option IdempotencyKey) (request_hash : PyStr) : Uow Book BorrowBookResult := do
  let borrower ← PatronBorrowerDirectoryAdapter.findByEmail rt email.value
  match borrower with
  | none =>
      Uow.raise (.borrowerNotEligible email.value
        (py "no patron registered with this email"))
  | some borrower =>
      if !borrower.is_eligible then
        Uow.raise (.borrowerNotEligible email.value
          (borrower.ineligible_reason.getD (py "patron is not eligible")))
      else
        let book ← Uow.getById command.book_id
        match book with
        | none => Uow.raise (.bookNotFound command.book_id)
        | some book =>
            let now ← Uow.now
            let seen ← Uow.observe
            let (reserved, reservation, events) ← Uow.ofExcept
              (book.aggregate.reserve rt seen.draws.uuid borrower.patron_id borrower.email
                (.ofUtc now) none)
            let book ← Uow.mutate book reserved events
            Uow.update book
            Uow.addOperation (uuidText reservation) (operation book.aggregate borrower now)
            Uow.keepReceipt rt scope key request_hash (result book.aggregate reservation)
            Uow.commit rt
            pure (result book.aggregate reservation)

def handle (rt : PythonRuntime) (command : BorrowBookCommand) :
    Command BorrowBookResult := do
  let key ← Run.ofExcept (IdempotencyKey.parse command.idempotency_key)
  let email ← Command.ofExcept (EmailAddress.parse rt command.borrower_email)
  let request_hash := commandFingerprint rt (facts command email)
  Uow.transaction do
    let earlier ← Uow.replay rt scope key request_hash
    match earlier with
    | some result => pure result
    | none => reserve rt command email key request_hash

end BorrowBookHandler

/-! ## Messages that move a reservation on -/

namespace BookMessage

/-- What confirmation, release and return share: the transition of the book, and the
operation that goes with a change. -/
def handle {Result : Type} (rt : PythonRuntime) (book_id : PyStr)
    (transition : Book → Except Raised (Book × Bool × List AggregateEvent))
    (change : UtcDateTime → OperationTransition) (result : Book → Bool → Result) :
    Command Result :=
  Uow.transaction (A := Book) do
    let book ← Uow.getById book_id
    match book with
    | none => Uow.raise (.bookNotFound book_id)
    | some book =>
        let (after, changed, events) ← Uow.ofExcept (transition book.aggregate)
        let book ← Uow.mutate book after events
        if !changed then pure (result book.aggregate false)
        else
          Uow.update book
          let now ← Uow.now
          Uow.transition (change now)
          Uow.commit rt
          pure (result book.aggregate true)

end BookMessage

structure ConfirmBookBorrowCommand where
  book_id : PyStr
  reservation_id : PyStr
  reservation_generation : ℤ
  patron_id : PyStr
  loan_id : PyStr
  borrowed_at : DateTime
  return_due_date : DateTime

namespace ConfirmBookBorrowHandler

def change (command : ConfirmBookBorrowCommand) (now : UtcDateTime) :
    OperationTransition where
  operation_id := command.reservation_id
  status := .borrowed
  book_id := command.book_id
  patron_id := command.patron_id
  reservation_generation := command.reservation_generation
  loan_id := some command.loan_id
  failure_reason := none
  updated_at := now

def transition (rt : PythonRuntime) (command : ConfirmBookBorrowCommand) (book : Book) :
    Except Raised (Book × Bool × List AggregateEvent) :=
  book.confirmBorrow rt command.reservation_id command.reservation_generation
    command.patron_id command.loan_id command.borrowed_at command.return_due_date

def handle (rt : PythonRuntime) (command : ConfirmBookBorrowCommand) : Command Bool :=
  BookMessage.handle rt command.book_id (transition rt command) (change command)
    fun _ changed => changed

end ConfirmBookBorrowHandler

structure ReleaseBookReservationCommand where
  book_id : PyStr
  reservation_id : PyStr
  reservation_generation : ℤ
  patron_id : PyStr
  reason : PyStr

namespace ReleaseBookReservationHandler

def change (command : ReleaseBookReservationCommand) (now : UtcDateTime) :
    OperationTransition where
  operation_id := command.reservation_id
  status := .released
  book_id := command.book_id
  patron_id := command.patron_id
  reservation_generation := command.reservation_generation
  loan_id := none
  failure_reason := some (PyStr.collapse command.reason)
  updated_at := now

def transition (rt : PythonRuntime) (command : ReleaseBookReservationCommand)
    (book : Book) : Except Raised (Book × Bool × List AggregateEvent) :=
  book.release rt command.reservation_id command.reservation_generation command.patron_id
    (PyStr.collapse command.reason)

def handle (rt : PythonRuntime) (command : ReleaseBookReservationCommand) : Command Bool :=
  BookMessage.handle rt command.book_id (transition rt command) (change command)
    fun _ changed => changed

end ReleaseBookReservationHandler

structure ReturnBookCommand where
  book_id : PyStr
  loan_id : PyStr
  reservation_id : PyStr
  reservation_generation : ℤ
  patron_id : PyStr

structure ReturnBookResult where
  id : PyStr
  title : PyStr
  author : PyStr
  is_borrowed : Bool
  status : PyStr
deriving DecidableEq

namespace ReturnBookHandler

def change (command : ReturnBookCommand) (now : UtcDateTime) : OperationTransition where
  operation_id := command.reservation_id
  status := .returned
  book_id := command.book_id
  patron_id := command.patron_id
  reservation_generation := command.reservation_generation
  loan_id := some command.loan_id
  failure_reason := none
  updated_at := now

def result (book : Book) : ReturnBookResult where
  id := book.id.val
  title := book.title.value
  author := book.author.value
  is_borrowed := book.isBorrowed
  status := book.state.status.value

def transition (rt : PythonRuntime) (command : ReturnBookCommand) (book : Book) :
    Except Raised (Book × Bool × List AggregateEvent) :=
  book.returnBook rt command.loan_id command.reservation_id command.reservation_generation
    command.patron_id

def handle (rt : PythonRuntime) (command : ReturnBookCommand) :
    Command ReturnBookResult :=
  BookMessage.handle rt command.book_id (transition rt command) (change command)
    fun book _ => result book

end ReturnBookHandler

/-! ## Releasing expired reservations -/

structure ReleaseExpiredReservationsCommand where
  ttl_seconds : ℤ
  batch_size : ℤ

structure ReleaseExpiredReservationsResult where
  released_count : ℕ
  batch_full : Bool
deriving DecidableEq

def BookRow.reservedAt (row : BookRow) : ℕ :=
  match row.state.reserved_at with
  | some t => t.val
  | none => 0

/-- `find_expired_reservations`; rows that another transaction has locked are
skipped. -/
def BookCommandRepository.findExpiredReservations (cutoff : UtcDateTime) (limit : ℕ) :
    Uow Book (List (Tracked Book)) := do
  let rows ← Uow.select Book fun row =>
    row.state.status = .reserved && row.state.reserved_at.any fun t => t < cutoff
  let seen ← Uow.observe
  let unlocked := rows.filter fun row => !seen.draws.locked row.id.val
  let ordered := unlocked.mergeSort fun left right =>
    left.reservedAt < right.reservedAt || (left.reservedAt = right.reservedAt &&
      seen.draws.rank left.id.val ≤ seen.draws.rank right.id.val)
  (ordered.take limit).mapM (Uow.entityOf (A := Book))

namespace ReleaseExpiredReservationsHandler

def reason (command : ReleaseExpiredReservationsCommand) : PyStr :=
  py "reservation expired after " ++ Json.renderInt command.ttl_seconds ++
    py "s without loan confirmation"

def change (book : Book) (reservation : Uuid) (patron : Reference) (now : UtcDateTime) :
    OperationTransition where
  operation_id := uuidText reservation
  status := .released
  book_id := book.id.val
  patron_id := patron.val
  reservation_generation := book.state.reservation_generation
  loan_id := none
  failure_reason := some (py "reservation expired")
  updated_at := now

/-- `self.clock.now() - timedelta(seconds=ttl_seconds)` -/
def cutoff (now : UtcDateTime) (ttl_seconds : ℤ) : Except Raised UtcDateTime :=
  let micros := (now.val : ℤ) - ttl_seconds * 1000000
  if h : 0 ≤ micros ∧ micros < wallSpan then .ok ⟨micros.toNat, by omega⟩
  else .error (.python .overflowError)

/-- The body of the loop; the value says whether the book was released. -/
def releaseOne (rt : PythonRuntime) (command : ReleaseExpiredReservationsCommand)
    (book : Tracked Book) : Uow Book Bool :=
  match book.aggregate.state.reservation_id, book.aggregate.state.reserved_patron_id with
  | some reservation, some patron => do
      let (after, changed, events) ← Uow.ofExcept
        (book.aggregate.release rt (uuidText reservation)
          book.aggregate.state.reservation_generation patron.val (reason command))
      let book ← Uow.mutate book after events
      if !changed then pure false
      else
        Uow.update book
        let now ← Uow.now
        Uow.transition (change book.aggregate reservation patron now)
        pure true
  | _, _ => Uow.raise .assertion

def releaseAll (rt : PythonRuntime) (command : ReleaseExpiredReservationsCommand) :
    List (Tracked Book) → Uow Book ℕ
  | [] => pure 0
  | book :: rest => do
      let released ← releaseOne rt command book
      let count ← releaseAll rt command rest
      pure (count + if released then 1 else 0)

def handle (rt : PythonRuntime) (command : ReleaseExpiredReservationsCommand) :
    Command ReleaseExpiredReservationsResult := do
  if command.ttl_seconds ≤ 0 then
    throw (.valueError (py "ttl_seconds must be positive"))
  if ¬ (1 ≤ command.batch_size ∧ command.batch_size ≤ 1000) then
    throw (.valueError (py "batch_size must be between 1 and 1000"))
  let now ← .observe fun seen => .pure seen.draws.now
  let cutoff ← Command.ofExcept (cutoff now command.ttl_seconds)
  Uow.transaction do
    let expired ← BookCommandRepository.findExpiredReservations cutoff
      command.batch_size.toNat
    let released_count ← releaseAll rt command expired
    if !expired.isEmpty then Uow.commit rt
    pure ⟨released_count, expired.length = command.batch_size⟩

end ReleaseExpiredReservationsHandler

end LibrarySystem
