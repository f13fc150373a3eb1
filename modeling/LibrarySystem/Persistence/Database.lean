import LibrarySystem.Events.AggregateCalls
import LibrarySystem.Persistence.Columns
import LibrarySystem.Persistence.Rows
import Mathlib.Data.List.AList

/-!
# The database

The tables with their keys and unique indexes, and the statements the
repositories issue.  An UPDATE holds the lock of its row until the transaction
ends and its version only grows (`update_at_commit`), so a transaction is taken to run
its statements when it commits; the batch takes effect as a whole or is refused by the
first statement that fails.
-/

namespace LibrarySystem

/-- A table whose rows carry their primary key. -/
structure Table (Row : Type) (id : Row → PyStr) where
  entries : AList fun _ : PyStr => Row
  keyed : ∀ key row, entries.lookup key = some row → id row = key

namespace Table

variable {Row : Type} {id : Row → PyStr}

def lookup (table : Table Row id) (key : PyStr) : Option Row := table.entries.lookup key

def rows (table : Table Row id) : List Row := table.entries.entries.map Sigma.snd

/-- The row replaces the one with its key, if there is one. -/
def insert (table : Table Row id) (row : Row) : Table Row id where
  entries := table.entries.insert (id row) row
  keyed key found hfound := by
    by_cases hkey : key = id row
    · subst key
      rw [AList.lookup_insert, Option.some.injEq] at hfound
      rw [hfound]
    · rw [AList.lookup_insert_ne hkey] at hfound
      exact table.keyed key found hfound

instance : EmptyCollection (Table Row id) where
  emptyCollection := ⟨∅, by simp⟩

@[simp] theorem lookup_insert (table : Table Row id) (row : Row) :
    (table.insert row).lookup (id row) = some row :=
  AList.lookup_insert _

theorem lookup_insert_ne (table : Table Row id) (row : Row) {key : PyStr}
    (hkey : key ≠ id row) : (table.insert row).lookup key = table.lookup key :=
  AList.lookup_insert_ne hkey

theorem mem_rows (table : Table Row id) (row : Row) :
    row ∈ table.rows ↔ table.lookup (id row) = some row := by
  simp only [rows, List.mem_map]
  constructor
  · rintro ⟨⟨key, found⟩, hmem, rfl⟩
    have hlookup := AList.mem_lookup_iff.mpr hmem
    rw [table.keyed key found hlookup]
    exact hlookup
  · exact fun hlookup => ⟨⟨id row, row⟩, AList.mem_lookup_iff.mp hlookup, rfl⟩

/-- No two rows have the same key. -/
theorem rows_nodup (table : Table Row id) : (table.rows.map id).Nodup := by
  have hkeys : table.rows.map id = table.entries.keys := by
    simp only [rows, AList.keys, List.keys, List.map_map]
    apply List.map_congr_left
    rintro ⟨key, found⟩ hmem
    exact table.keyed key found (AList.mem_lookup_iff.mpr hmem)
  rw [hkeys]
  exact table.entries.keys_nodup

end Table

inductive BorrowOperationStatus
  | reserved
  | borrowed
  | released
  | returned
deriving DecidableEq

/-- `borrow_operations`, under `operation_id`. -/
structure BorrowOperation where
  book_id : PyStr
  patron_id : PyStr
  reservation_generation : ℤ
  status : BorrowOperationStatus
  loan_id : Option PyStr
  failure_reason : Option PyStr
  created_at : UtcDateTime
  updated_at : UtcDateTime
deriving DecidableEq

/-- `ck_borrow_operations_state` -/
def BorrowOperation.stateOk (operation : BorrowOperation) : Bool :=
  match operation.status with
  | .reserved => operation.loan_id.isNone && operation.failure_reason.isNone
  | .borrowed | .returned => operation.loan_id.isSome && operation.failure_reason.isNone
  | .released =>
      operation.loan_id.isNone && operation.failure_reason.any (Sql.isBoundedText 500)

/-- The allowed sources of a transition. -/
def BorrowOperationStatus.sources : BorrowOperationStatus → List BorrowOperationStatus
  | .reserved => []
  | .borrowed | .released => [.reserved]
  | .returned => [.borrowed]

/-- The arguments of `BorrowOperationRepository.transition`. -/
structure OperationTransition where
  operation_id : PyStr
  status : BorrowOperationStatus
  book_id : PyStr
  patron_id : PyStr
  reservation_generation : ℤ
  loan_id : Option PyStr
  failure_reason : Option PyStr
  updated_at : UtcDateTime

namespace OperationTransition

/-- The WHERE clause, the operation id aside. -/
def matches_ (transition : OperationTransition) (operation : BorrowOperation) : Bool :=
  operation.book_id = transition.book_id && operation.patron_id = transition.patron_id &&
    operation.reservation_generation = transition.reservation_generation &&
    transition.status.sources.contains operation.status

def write (transition : OperationTransition) (operation : BorrowOperation) :
    BorrowOperation :=
  { operation with
    status := transition.status
    loan_id := transition.loan_id
    failure_reason := transition.failure_reason
    updated_at := transition.updated_at }

end OperationTransition

/-- `command_receipts`, under scope and key. -/
structure CommandReceipt where
  request_hash : PyStr
  response_payload : PyStr
deriving DecidableEq

/-- `outbox` -/
structure OutboxRow where
  id : EventIdentity
  aggregatetype : PyStr
  aggregateid : PyStr
  type : PyStr
  payload : PyStr
  occurred_at : UtcDateTime
deriving DecidableEq

structure Database where
  books : Table BookRow fun row => row.id.val
  loans : Table LoanRow fun row => row.id.val
  patrons : Table PatronRow fun row => row.id.val
  borrow_operations : AList fun _ : PyStr => BorrowOperation
  command_receipts : AList fun _ : PyStr × PyStr => CommandReceipt
  outbox : List OutboxRow

namespace Aggregate

/-- `aggregate.id.value` -/
def idText : Aggregate → PyStr
  | book entity => entity.id.val
  | loan entity => entity.id.val
  | patron entity => entity.id.val

/-- The `aggregate_type` of the outbox rows. -/
def typeName : Aggregate → PyStr
  | book _ => py "book"
  | loan _ => py "loan"
  | patron _ => py "patron"

end Aggregate

inductive Statement
  | insertAggregate (aggregate : Aggregate)
  | updateAggregate (expected_version : ℕ) (aggregate : Aggregate)
  | insertOperation (operation_id : PyStr) (operation : BorrowOperation)
  | transitionOperation (transition : OperationTransition)
  | insertReceipt (scope idempotency_key : PyStr) (receipt : CommandReceipt)
  | insertOutbox (row : OutboxRow)

/-- The constraints that can refuse a statement of the repositories. -/
inductive Constraint
  | booksKey
  | bookReservation
  | bookLoan
  | loansKey
  | loanReservation
  | outstandingLoan
  | patronsKey
  | patronEmail
  | operationsKey
  | operationBook
  | operationGeneration
  | operationId
  | operationLoan
  | operationPatron
  | operationState
  | operationTimestamps
  | receiptsKey
  | outboxKey
deriving DecidableEq

namespace BorrowOperation

/-- The lengths of the columns. -/
def fits (operation_id : PyStr) (operation : BorrowOperation) : Bool :=
  operation_id.length ≤ 36 && operation.book_id.length ≤ 64 && operation.patron_id.length ≤ 64 &&
    operation.loan_id.all (fun loan => loan.length ≤ 64) &&
    operation.failure_reason.all fun reason => reason.length ≤ 500

/-- The CHECK constraints, in the order of their names. -/
def checks (operation_id : PyStr) (operation : BorrowOperation) : List (Constraint × Bool) :=
  [(.operationBook, Sql.isIdentifier operation.book_id),
    (.operationGeneration, 1 ≤ operation.reservation_generation),
    (.operationId, matchesUuidPattern uuidShape operation_id),
    (.operationLoan, operation.loan_id.all Sql.isIdentifier),
    (.operationPatron, Sql.isIdentifier operation.patron_id),
    (.operationState, operation.stateOk),
    (.operationTimestamps, operation.created_at ≤ operation.updated_at)]

/-- A row that the table takes. -/
def wellFormed (operation_id : PyStr) (operation : BorrowOperation) : Bool :=
  operation.fits operation_id && (operation.checks operation_id).all Prod.snd

end BorrowOperation

/-- Why a transaction is refused: the text cannot be stored or is longer than its column, or
the server or the connection fails, or one of the checks does. -/
inductive Refusal
  | unencodable
  | tooLong
  | unavailable
  | stale (aggregate : Aggregate)
  | missing (aggregate : Aggregate)
  | operationMissing (operation_id : PyStr)
  | operationMismatch (operation_id : PyStr)
  | integrity (constraint : Constraint)

/-- Text that PostgreSQL stores. -/
def storable (text : PyStr) : Bool :=
  !PyStr.hasSurrogate text && !PyStr.hasNul text

namespace Statement

/-- The texts a statement sends, those aside that the model knows to be ASCII. -/
def texts : Statement → List PyStr
  | insertAggregate (.book book) => [book.title.value, book.author.value]
  | insertAggregate (.loan loan) => [loan.book_title.value]
  | insertAggregate (.patron patron) | updateAggregate _ (.patron patron) =>
      [patron.name.first_name.value, patron.name.last_name.value] ++
        (patron.suspended_reason.map BoundedText.value).toList
  | updateAggregate _ (.book _) | updateAggregate _ (.loan _) => []
  | insertOperation id operation =>
      [id, operation.book_id, operation.patron_id] ++ operation.loan_id.toList ++
        operation.failure_reason.toList
  | transitionOperation transition =>
      [transition.operation_id, transition.book_id, transition.patron_id] ++
        transition.loan_id.toList ++ transition.failure_reason.toList
  | insertReceipt _ _ _ => []
  | insertOutbox _ => []

end Statement

namespace Database

/-- Another row holds the value. -/
def taken {Row Value : Type} [DecidableEq Value] {id : Row → PyStr}
    (table : Table Row id) (column : Row → Option Value) (row : Row) : Bool :=
  (column row).isSome &&
    table.rows.any fun other => id other ≠ id row && column other = column row

/-- The unique indexes of `books`. -/
def storeBook (db : Database) (row : BookRow) : Except Refusal Database :=
  if taken db.books (fun row => row.state.reservation_id) row then
    .error (.integrity .bookReservation)
  else if taken db.books (fun row => row.state.current_loan_id) row then
    .error (.integrity .bookLoan)
  else .ok { db with books := db.books.insert row }

/-- The unique indexes of `loans`. -/
def storeLoan (db : Database) (row : LoanRow) : Except Refusal Database :=
  if taken db.loans (fun row => some row.reservation_id) row then
    .error (.integrity .loanReservation)
  else if taken db.loans LoanRow.outstandingBook row then
    .error (.integrity .outstandingLoan)
  else .ok { db with loans := db.loans.insert row }

/-- The unique index of `patrons`. -/
def storePatron (db : Database) (row : PatronRow) : Except Refusal Database :=
  if taken db.patrons (fun row => some row.email) row then
    .error (.integrity .patronEmail)
  else .ok { db with patrons := db.patrons.insert row }

def insertAggregate (db : Database) : Aggregate → Except Refusal Database
  | .book book =>
      if (db.books.lookup book.id.val).isSome then .error (.integrity .booksKey)
      else db.storeBook (.ofEntity book 0)
  | .loan loan =>
      if (db.loans.lookup loan.id.val).isSome then .error (.integrity .loansKey)
      else db.storeLoan (.ofEntity loan 0)
  | .patron patron =>
      if (db.patrons.lookup patron.id.val).isSome then .error (.integrity .patronsKey)
      else db.storePatron (.ofEntity patron 0)

/-- `UPDATE … WHERE id = … AND version = …` -/
def updateAggregate (db : Database) (expected : ℕ) (aggregate : Aggregate) :
    Except Refusal Database :=
  match aggregate with
  | .book book =>
      match db.books.lookup book.id.val with
      | none => .error (.missing aggregate)
      | some row =>
          if row.version = expected then db.storeBook (row.write book)
          else .error (.stale aggregate)
  | .loan loan =>
      match db.loans.lookup loan.id.val with
      | none => .error (.missing aggregate)
      | some row =>
          if row.version = expected then db.storeLoan (row.write loan)
          else .error (.stale aggregate)
  | .patron patron =>
      match db.patrons.lookup patron.id.val with
      | none => .error (.missing aggregate)
      | some row =>
          if row.version = expected then db.storePatron (row.write patron)
          else .error (.stale aggregate)

def storeOperation (db : Database) (operation_id : PyStr) (operation : BorrowOperation) :
    Except Refusal Database :=
  if !operation.fits operation_id then .error .tooLong
  else
    match (operation.checks operation_id).find? fun check => !check.2 with
    | some check => .error (.integrity check.1)
    | none =>
        .ok { db with
          borrow_operations := db.borrow_operations.insert operation_id operation }

def insertOperation (db : Database) (operation_id : PyStr) (operation : BorrowOperation) :
    Except Refusal Database :=
  -- the checks come before the entry in the index of the key
  db.storeOperation operation_id operation >>= fun stored =>
    if (db.borrow_operations.lookup operation_id).isSome then
      .error (.integrity .operationsKey)
    else .ok stored

def transitionOperation (db : Database) (transition : OperationTransition) :
    Except Refusal Database :=
  match db.borrow_operations.lookup transition.operation_id with
  | none => .error (.operationMissing transition.operation_id)
  | some operation =>
      if transition.matches_ operation then
        db.storeOperation transition.operation_id (transition.write operation)
      else .error (.operationMismatch transition.operation_id)

def insertReceipt (db : Database) (scope idempotency_key : PyStr)
    (receipt : CommandReceipt) : Except Refusal Database :=
  if (db.command_receipts.lookup (scope, idempotency_key)).isSome then
    .error (.integrity .receiptsKey)
  else
    .ok { db with
      command_receipts := db.command_receipts.insert (scope, idempotency_key) receipt }

def insertOutbox (db : Database) (row : OutboxRow) : Except Refusal Database :=
  if db.outbox.any fun other => other.id = row.id then .error (.integrity .outboxKey)
  else .ok { db with outbox := db.outbox ++ [row] }

def perform (db : Database) : Statement → Except Refusal Database
  | .insertAggregate aggregate => db.insertAggregate aggregate
  | .updateAggregate expected aggregate => db.updateAggregate expected aggregate
  | .insertOperation id operation => db.insertOperation id operation
  | .transitionOperation transition => db.transitionOperation transition
  | .insertReceipt scope key receipt => db.insertReceipt scope key receipt
  | .insertOutbox row => db.insertOutbox row

def run (db : Database) (statement : Statement) : Except Refusal Database :=
  if statement.texts.all storable then db.perform statement else .error .unencodable

def runAll (db : Database) : List Statement → Except Refusal Database
  | [] => .ok db
  | statement :: rest => do
      let after ← db.run statement
      after.runAll rest

end Database

end LibrarySystem
