import LibrarySystem.Domain.SharedKernel

/-!
# Domain events

The event classes, with the annotated type of every field, and the events the
aggregates raise.  Dataclass annotations are not enforced at run time, so an
event instance of a class holds arbitrary Python values; what the base class
does enforce, its identity and its UTC timestamp, is part of the instance.
-/

namespace LibrarySystem

/-- A Python value as the wire contract sees it; `object` stands for an
instance of any class that is not listed. -/
inductive PyValue
  | none
  | bool (value : Bool)
  | int (value : ℤ)
  | float (bits : BitVec 64)
  | str (value : PyStr)
  | datetime (value : DateTime)
  | list (items : List PyValue)
  | dict (entries : List (PyStr × PyValue))
  | object (className : PyStr)

/-- The annotations that occur in the event classes. -/
inductive FieldType
  | str
  | bool
  | int
  | datetime
  | optionalStr
deriving DecidableEq

inductive EventClass
  | bookAddedToCatalog
  | bookRemovedFromCatalog
  | catalogBookReserved
  | catalogBookBorrowed
  | catalogBookReleased
  | catalogBookReturned
  | loanCreated
  | loanCompleted
  | loanCancelled
  | loanExtended
  | bookOverdue
  | patronRegistered
  | patronSuspended
  | patronReinstated
deriving DecidableEq

namespace EventClass

/-- `type(event).__name__` -/
def name : EventClass → PyStr
  | bookAddedToCatalog => py "BookAddedToCatalog"
  | bookRemovedFromCatalog => py "BookRemovedFromCatalog"
  | catalogBookReserved => py "CatalogBookReserved"
  | catalogBookBorrowed => py "CatalogBookBorrowed"
  | catalogBookReleased => py "CatalogBookReleased"
  | catalogBookReturned => py "CatalogBookReturned"
  | loanCreated => py "LoanCreated"
  | loanCompleted => py "LoanCompleted"
  | loanCancelled => py "LoanCancelled"
  | loanExtended => py "LoanExtended"
  | bookOverdue => py "BookOverdue"
  | patronRegistered => py "PatronRegistered"
  | patronSuspended => py "PatronSuspended"
  | patronReinstated => py "PatronReinstated"

/-- The fields a class adds to the base class, in declaration order. -/
def domainFields : EventClass → List (PyStr × FieldType)
  | bookAddedToCatalog =>
      [(py "book_id", .str), (py "title", .str), (py "author", .str)]
  | bookRemovedFromCatalog => [(py "book_id", .str)]
  | catalogBookReserved =>
      [(py "book_id", .str), (py "title", .str), (py "reservation_id", .str),
        (py "reservation_generation", .int), (py "patron_id", .str),
        (py "reserved_at", .datetime), (py "borrower_email", .str)]
  | catalogBookBorrowed =>
      [(py "book_id", .str), (py "title", .str), (py "reservation_id", .str),
        (py "reservation_generation", .int), (py "patron_id", .str),
        (py "loan_id", .str), (py "borrowed_at", .datetime),
        (py "return_due_date", .datetime), (py "borrower_email", .str)]
  | catalogBookReleased =>
      [(py "book_id", .str), (py "reservation_id", .str),
        (py "reservation_generation", .int), (py "patron_id", .str),
        (py "reason", .str)]
  | catalogBookReturned =>
      [(py "book_id", .str), (py "loan_id", .str), (py "reservation_id", .str),
        (py "reservation_generation", .int), (py "patron_id", .str)]
  | loanCreated =>
      [(py "loan_id", .str), (py "reservation_id", .str),
        (py "reservation_generation", .int), (py "patron_id", .str),
        (py "patron_email", .str), (py "book_id", .str),
        (py "book_title", .str), (py "borrowed_at", .datetime),
        (py "due_date", .datetime)]
  | loanCompleted =>
      [(py "loan_id", .str), (py "reservation_id", .str),
        (py "reservation_generation", .int), (py "patron_id", .str),
        (py "book_id", .str), (py "returned_at", .datetime),
        (py "was_overdue", .bool)]
  | loanCancelled =>
      [(py "loan_id", .str), (py "reservation_id", .str),
        (py "reservation_generation", .int), (py "patron_id", .str),
        (py "book_id", .str), (py "reason", .str)]
  | loanExtended =>
      [(py "loan_id", .str), (py "patron_id", .str), (py "book_id", .str),
        (py "old_due_date", .datetime), (py "new_due_date", .datetime)]
  | bookOverdue =>
      [(py "loan_id", .str), (py "patron_id", .str), (py "patron_email", .str),
        (py "book_id", .str), (py "book_title", .str),
        (py "due_date", .datetime), (py "days_overdue", .int)]
  | patronRegistered =>
      [(py "patron_id", .str), (py "email", .str), (py "name", .str),
        (py "membership_tier", .str)]
  | patronSuspended => [(py "patron_id", .str), (py "reason", .str)]
  | patronReinstated => [(py "patron_id", .str)]

/-- The fields of the base class come first. -/
def metadataFields : List (PyStr × FieldType) :=
  [(py "event_id", .str), (py "occurred_at", .datetime),
    (py "correlation_id", .optionalStr), (py "causation_id", .optionalStr)]

/-- `fields(event_class)` with its type hints. -/
def fields (cls : EventClass) : List (PyStr × FieldType) :=
  metadataFields ++ cls.domainFields

def domainFieldNames (cls : EventClass) : List PyStr :=
  cls.domainFields.map Prod.fst

end EventClass

/-- What `DomainEvent.__post_init__` leaves in every event. -/
structure EventMetadata where
  event_id : EventIdentity
  occurred_at : UtcDateTime
  correlation_id : EventIdentity
  causation_id : Option EventIdentity

/-- An instance of an event class: one value for each declared field. -/
structure DomainEvent where
  eventClass : EventClass
  metadata : EventMetadata
  data : List (PyStr × PyValue)
  data_fields : data.map Prod.fst = eventClass.domainFieldNames

/-! ## The events of the aggregates -/

structure CatalogBookReserved where
  book_id : PyStr
  title : PyStr
  reservation_id : PyStr
  reservation_generation : ℤ
  patron_id : PyStr
  reserved_at : DateTime
  borrower_email : PyStr

structure CatalogBookBorrowed where
  book_id : PyStr
  title : PyStr
  reservation_id : PyStr
  reservation_generation : ℤ
  patron_id : PyStr
  loan_id : PyStr
  borrowed_at : DateTime
  return_due_date : DateTime
  borrower_email : PyStr

structure CatalogBookReleased where
  book_id : PyStr
  reservation_id : PyStr
  reservation_generation : ℤ
  patron_id : PyStr
  reason : PyStr

structure CatalogBookReturned where
  book_id : PyStr
  loan_id : PyStr
  reservation_id : PyStr
  reservation_generation : ℤ
  patron_id : PyStr

structure LoanCreated where
  loan_id : PyStr
  reservation_id : PyStr
  reservation_generation : ℤ
  patron_id : PyStr
  patron_email : PyStr
  book_id : PyStr
  book_title : PyStr
  borrowed_at : DateTime
  due_date : DateTime

structure LoanCompleted where
  loan_id : PyStr
  reservation_id : PyStr
  reservation_generation : ℤ
  patron_id : PyStr
  book_id : PyStr
  returned_at : DateTime
  was_overdue : Bool

structure LoanCancelled where
  loan_id : PyStr
  reservation_id : PyStr
  reservation_generation : ℤ
  patron_id : PyStr
  book_id : PyStr
  reason : PyStr

structure BookOverdue where
  loan_id : PyStr
  patron_id : PyStr
  patron_email : PyStr
  book_id : PyStr
  book_title : PyStr
  due_date : DateTime
  days_overdue : ℤ

structure LoanExtended where
  loan_id : PyStr
  patron_id : PyStr
  book_id : PyStr
  old_due_date : DateTime
  new_due_date : DateTime

structure PatronRegistered where
  patron_id : PyStr
  email : PyStr
  name : PyStr
  membership_tier : PyStr

structure PatronSuspended where
  patron_id : PyStr
  reason : PyStr

structure PatronReinstated where
  patron_id : PyStr

/-- The constructor call of one aggregate method, before the base class adds
its metadata. -/
inductive AggregateEvent
  | catalogBookReserved (event : CatalogBookReserved)
  | catalogBookBorrowed (event : CatalogBookBorrowed)
  | catalogBookReleased (event : CatalogBookReleased)
  | catalogBookReturned (event : CatalogBookReturned)
  | loanCreated (event : LoanCreated)
  | loanCompleted (event : LoanCompleted)
  | loanCancelled (event : LoanCancelled)
  | loanExtended (event : LoanExtended)
  | bookOverdue (event : BookOverdue)
  | patronRegistered (event : PatronRegistered)
  | patronSuspended (event : PatronSuspended)
  | patronReinstated (event : PatronReinstated)

namespace AggregateEvent

def eventClass : AggregateEvent → EventClass
  | catalogBookReserved _ => .catalogBookReserved
  | catalogBookBorrowed _ => .catalogBookBorrowed
  | catalogBookReleased _ => .catalogBookReleased
  | catalogBookReturned _ => .catalogBookReturned
  | loanCreated _ => .loanCreated
  | loanCompleted _ => .loanCompleted
  | loanCancelled _ => .loanCancelled
  | loanExtended _ => .loanExtended
  | bookOverdue _ => .bookOverdue
  | patronRegistered _ => .patronRegistered
  | patronSuspended _ => .patronSuspended
  | patronReinstated _ => .patronReinstated

/-- The field values in declaration order. -/
def values : AggregateEvent → List PyValue
  | catalogBookReserved e =>
      [.str e.book_id, .str e.title, .str e.reservation_id,
        .int e.reservation_generation, .str e.patron_id,
        .datetime e.reserved_at, .str e.borrower_email]
  | catalogBookBorrowed e =>
      [.str e.book_id, .str e.title, .str e.reservation_id,
        .int e.reservation_generation, .str e.patron_id, .str e.loan_id,
        .datetime e.borrowed_at, .datetime e.return_due_date,
        .str e.borrower_email]
  | catalogBookReleased e =>
      [.str e.book_id, .str e.reservation_id, .int e.reservation_generation,
        .str e.patron_id, .str e.reason]
  | catalogBookReturned e =>
      [.str e.book_id, .str e.loan_id, .str e.reservation_id,
        .int e.reservation_generation, .str e.patron_id]
  | loanCreated e =>
      [.str e.loan_id, .str e.reservation_id, .int e.reservation_generation,
        .str e.patron_id, .str e.patron_email, .str e.book_id,
        .str e.book_title, .datetime e.borrowed_at, .datetime e.due_date]
  | loanCompleted e =>
      [.str e.loan_id, .str e.reservation_id, .int e.reservation_generation,
        .str e.patron_id, .str e.book_id, .datetime e.returned_at,
        .bool e.was_overdue]
  | loanCancelled e =>
      [.str e.loan_id, .str e.reservation_id, .int e.reservation_generation,
        .str e.patron_id, .str e.book_id, .str e.reason]
  | loanExtended e =>
      [.str e.loan_id, .str e.patron_id, .str e.book_id,
        .datetime e.old_due_date, .datetime e.new_due_date]
  | bookOverdue e =>
      [.str e.loan_id, .str e.patron_id, .str e.patron_email, .str e.book_id,
        .str e.book_title, .datetime e.due_date, .int e.days_overdue]
  | patronRegistered e =>
      [.str e.patron_id, .str e.email, .str e.name, .str e.membership_tier]
  | patronSuspended e => [.str e.patron_id, .str e.reason]
  | patronReinstated e => [.str e.patron_id]

/-- The event instance the aggregate appends. -/
def stamp (metadata : EventMetadata) (event : AggregateEvent) : DomainEvent where
  eventClass := event.eventClass
  metadata := metadata
  data := event.eventClass.domainFieldNames.zip event.values
  data_fields := by
    cases event <;> rfl

end AggregateEvent

end LibrarySystem
