import LibrarySystem.Application.Exceptions
import LibrarySystem.Foundation.Run

/-!
# Units of work

The session of one transaction: the identity map, the dirty ids, the statements
issued so far and the events still on the aggregates.  The repositories of the three
contexts share their methods up to the row, so each method is written once.

A session keeps as history the transitions its aggregates went through; a batch takes
them along beside its statements.
-/

namespace LibrarySystem

/-- What a run meets at one moment: the clock, fresh ids, the metadata of new events,
the iteration orders of two sets, and the rows others have locked. -/
structure Draws where
  now : UtcDateTime
  uuid : Uuid
  metadata : ℕ → EventMetadata
  order : MetadataOrder
  rank : PyStr → ℕ
  locked : PyStr → Bool

structure Observation where
  database : Database
  draws : Draws

/-- One transition: the aggregate after it and the events it added. -/
structure Transition where
  after : Aggregate
  events : List DomainEvent

structure Batch where
  statements : List Statement
  transitions : List Transition

/-- The programs of the command handlers; the locks are the borrowing fences. -/
abbrev Command := Run Observation PyStr Batch Refusal AppException

structure Tracked (A : Type) where
  aggregate : A
  version : ℕ
  events : List DomainEvent

/-- The object after a transition. -/
def Tracked.changed {A : Type} (entity : Tracked A) (aggregate : A)
    (events : List DomainEvent) : Tracked A :=
  { entity with aggregate := aggregate, events := entity.events ++ events }

structure UnitOfWork (A : Type) where
  identity_map : List (PyStr × Tracked A) := []
  dirty_ids : List PyStr := []
  statements : List Statement := []
  pending : List PyStr := []
  transitions : List Transition := []

/-- What the repository and the unit of work of an aggregate do not share. -/
class Stored (A : Type) where
  Row : Type
  key : Row → PyStr
  table : Database → Table Row key
  toEntity : Row → Except Raised A
  version : Row → ℕ
  wrap : A → Aggregate
  key_eq : ∀ row aggregate, toEntity row = .ok aggregate →
    (wrap aggregate).idText = key row
  /-- How `commit` reports a violated constraint; the aggregate is the first of the
  identity map. -/
  violated : Option A → Constraint → Option AppException

instance : Stored Book where
  Row := BookRow
  key := fun row => row.id.val
  table := Database.books
  toEntity := BookRow.toEntity
  version := BookRow.version
  wrap := .book
  key_eq row book hrow := by
    rw [(BookRow.toEntity_eq_ok_iff row book).mp hrow]
    rfl
  violated _ _ := none

instance : Stored Loan where
  Row := LoanRow
  key := fun row => row.id.val
  table := Database.loans
  toEntity := LoanRow.toEntity
  version := LoanRow.version
  wrap := .loan
  key_eq row loan hrow := by
    rw [(LoanRow.toEntity_eq_ok_iff row loan).mp hrow]
    rfl
  violated
    | some loan, .loanReservation | some loan, .outstandingLoan =>
        some (.concurrentLoanCreation (uuidText loan.reservation_id)
          loan.catalog_book_id.val)
    | none, .loanReservation | none, .outstandingLoan =>
        some (.concurrentLoanCreation (py "unknown") (py "unknown"))
    | _, _ => none

instance : Stored Patron where
  Row := PatronRow
  key := fun row => row.id.val
  table := Database.patrons
  toEntity := PatronRow.toEntity
  version := PatronRow.version
  wrap := .patron
  key_eq row patron hrow := by
    rw [(PatronRow.toEntity_eq_ok_iff row patron).mp hrow]
    rfl
  violated
    | some patron, .patronEmail => some (.patronEmailAlreadyRegistered patron.email.value)
    | none, .patronEmail => some (.patronEmailAlreadyRegistered (py "unknown"))
    | _, _ => none

/-- A step of a transaction. -/
abbrev Uow (A : Type) := StateT (UnitOfWork A) Command

namespace UnitOfWork

variable {A : Type}

def find (session : UnitOfWork A) (id : PyStr) : Option (Tracked A) :=
  session.identity_map.lookup id

/-- `self.identity_map[id] = entity` -/
def set (id : PyStr) (entity : Tracked A) :
    List (PyStr × Tracked A) → List (PyStr × Tracked A)
  | [] => [(id, entity)]
  | (key, other) :: rest =>
      if key = id then (key, entity) :: rest else (key, other) :: set id entity rest

def track (session : UnitOfWork A) (id : PyStr) (entity : Tracked A) : UnitOfWork A :=
  { session with identity_map := set id entity session.identity_map }

/-- `self.dirty_ids.add(id)` -/
def markDirty (session : UnitOfWork A) (id : PyStr) : UnitOfWork A :=
  { session with
    dirty_ids :=
      if id ∈ session.dirty_ids then session.dirty_ids else session.dirty_ids ++ [id] }

/-- `_clear_committed_events` -/
def clearCommittedEvents (session : UnitOfWork A) : UnitOfWork A :=
  { session with
    identity_map := session.identity_map.map fun entry =>
      if entry.1 ∈ session.dirty_ids then (entry.1, { entry.2 with events := [] }) else entry
    dirty_ids := [] }

def issue (session : UnitOfWork A) (statement : Statement) : UnitOfWork A :=
  { session with statements := session.statements ++ [statement] }

/-- The history of a transition whose events are on the aggregate. -/
def record [Stored A] (session : UnitOfWork A) (aggregate : A) (events : List DomainEvent) :
    UnitOfWork A :=
  { session with
    transitions := session.transitions ++ [⟨Stored.wrap aggregate, events⟩] }

/-- A statement for an aggregate, which enters the identity map and is dirty. -/
def save [Stored A] (session : UnitOfWork A) (statement : Statement) (entity : Tracked A) :
    UnitOfWork A :=
  let id := (Stored.wrap entity.aggregate).idText
  ((session.issue statement).track id entity).markDirty id

end UnitOfWork

namespace Uow

variable {A α : Type}

def observe : Uow A Observation := fun session =>
  .observe fun seen => .pure (seen, session)

/-- `self.clock.now()` -/
def now : Uow A UtcDateTime := do
  let seen ← observe
  pure seen.draws.now

def raise (error : AppException) : Uow A α := fun _ => .raise error

def ofExcept (result : Except Raised α) : Uow A α := fun session =>
  match result with
  | .ok value => .pure (value, session)
  | .error error => .raise (.raised error)

/-- `acquire_borrowing_fence` -/
def acquireBorrowingFence (patron_id : PyStr) : Uow A Unit := fun session =>
  .acquire patron_id (.pure ((), session))

variable [Stored A]

/-- Hydrate a row and enter it into the identity map. -/
def hydrate (row : Stored.Row A) : Uow A (Tracked A) := do
  let aggregate ← ofExcept (Stored.toEntity row)
  let entity : Tracked A := ⟨aggregate, Stored.version row, []⟩
  modify fun session => session.track (Stored.wrap aggregate).idText entity
  pure entity

/-- `get_by_id` of the three repositories -/
def getById (id : PyStr) : Uow A (Option (Tracked A)) := do
  let session ← get
  match session.find id with
  | some entity => pure (some entity)
  | none =>
      let seen ← observe
      match (Stored.table (A := A) seen.database).lookup id with
      | none => pure none
      | some row =>
          let entity ← hydrate row
          pure (some entity)

/-- The rows a SELECT returns. -/
def select (B : Type) [Stored B] (condition : Stored.Row B → Bool) :
    Uow A (List (Stored.Row B)) := do
  let seen ← observe
  pure ((Stored.table (A := B) seen.database).rows.filter condition)

/-- `scalar_one_or_none()` -/
def scalarOneOrNone (rows : List α) : Uow A (Option α) :=
  match rows with
  | [] => pure none
  | [row] => pure (some row)
  | _ => raise .multipleResults

/-- The entity of a row: the one of the identity map, if there is one. -/
def entityOf (row : Stored.Row A) : Uow A (Tracked A) := do
  let session ← get
  match session.find (Stored.key row) with
  | some entity => pure entity
  | none => hydrate row

/-- `add` of the three repositories -/
def add (entity : Tracked A) : Uow A Unit :=
  modify fun session =>
    session.save (.insertAggregate (Stored.wrap entity.aggregate)) entity

/-- `update` of the three repositories -/
def update (entity : Tracked A) : Uow A Unit :=
  modify fun session =>
    session.save (.updateAggregate entity.version (Stored.wrap entity.aggregate))
      { entity with version := entity.version + 1 }

/-- The events as the aggregate appends them. -/
def stamp (draws : Draws) (events : List AggregateEvent) : List DomainEvent :=
  events.mapIdx fun i event => event.stamp (draws.metadata i)

/-- A transition changes the object the identity map holds. -/
def mutate (entity : Tracked A) (aggregate : A) (events : List AggregateEvent) :
    Uow A (Tracked A) := do
  let seen ← observe
  let stamped := stamp seen.draws events
  let changed := entity.changed aggregate stamped
  modify fun session =>
    (session.track (Stored.wrap aggregate).idText changed).record aggregate stamped
  pure changed

/-- A factory returns an object no map holds yet. -/
def create (aggregate : A) (events : List AggregateEvent) : Uow A (Tracked A) := do
  let seen ← observe
  let stamped := stamp seen.draws events
  modify fun session => session.record aggregate stamped
  pure ⟨aggregate, 0, stamped⟩

/-- `BorrowOperationRepository.add` -/
def addOperation (operation_id : PyStr) (operation : BorrowOperation) : Uow A Unit :=
  modify fun session => session.issue (.insertOperation operation_id operation)

/-- `BorrowOperationRepository.transition` -/
def transition (change : OperationTransition) : Uow A Unit :=
  if change.status.sources = [] then
    raise (.borrowOperationTransition change.operation_id
      (py "reserved is not a transition target"))
  else modify fun session => session.issue (.transitionOperation change)

/-- `CommandReceiptRepository.add` -/
def addReceipt (scope idempotency_key : PyStr) (receipt : CommandReceipt) : Uow A Unit :=
  modify fun session =>
    { session.issue (.insertReceipt scope idempotency_key receipt) with
      pending := session.pending ++ [idempotency_key] }

/-- `CommandReceiptRepository.get` -/
def getReceipt (scope idempotency_key : PyStr) : Uow A (Option CommandReceipt) := do
  let seen ← observe
  pure (seen.database.command_receipts.lookup (scope, idempotency_key))

/-! ## Commit -/

/-- `outbox_type_for_event_class` -/
def outboxType (cls : EventClass) : PyStr :=
  (contractOf cls).qualifiedName ++ py ".v" ++ Json.renderInt (contractOf cls).version

/-- `OutboxMessageModel.from_domain_event` -/
def outboxRow (rt : PythonRuntime) (order : MetadataOrder) (aggregate : Aggregate)
    (event : DomainEvent) : Except RegistryException OutboxRow := do
  let payload ← serializeEvent rt order event
  pure
    { id := event.metadata.event_id
      aggregatetype := aggregate.typeName
      aggregateid := aggregate.idText
      type := outboxType event.eventClass
      payload := payload
      occurred_at := event.metadata.occurred_at }

/-- `_stage_domain_events`, over the dirty ids in the order of the set. -/
def stageDomainEvents (rt : PythonRuntime) (draws : Draws) (session : UnitOfWork A) :
    Except RegistryException (List OutboxRow) := do
  let ids := session.dirty_ids.mergeSort fun left right =>
    decide (draws.rank left ≤ draws.rank right)
  let rows ← (ids.filterMap session.find).mapM fun entity =>
    entity.events.mapM (outboxRow rt draws.order (Stored.wrap entity.aggregate))
  pure rows.flatten

/-- What a refused transaction raises: the repositories report the statements they
check themselves, `commit` the constraints. -/
def translate (session : UnitOfWork A) : Refusal → AppException
  | .stale aggregate => .concurrentModification aggregate
  | .operationMissing operation_id => .borrowOperationNotFound operation_id
  | .operationMismatch operation_id =>
      .borrowOperationTransition operation_id
        (py "identity, fencing generation, or current status does not match")
  | .integrity .receiptsKey =>
      .idempotencyKeyConflict (session.pending.head?.getD (py "unknown"))
        (py "another request with this key committed concurrently; retry")
  | .integrity constraint =>
      (Stored.violated (session.identity_map.head?.map fun entry => entry.2.aggregate)
        constraint).getD (.database (.integrity constraint))
  | refusal => .database refusal

/-- `commit` of the three units of work -/
def commit (rt : PythonRuntime) : Uow A Unit := fun session =>
  .observe fun seen =>
    match stageDomainEvents rt seen.draws session with
    | .error error => .raise (.registry error)
    | .ok rows =>
        .commit ⟨session.statements ++ rows.map .insertOutbox, session.transitions⟩ fun
          | none => .pure ((), session.clearCommittedEvents)
          | some refusal => .raise (translate session refusal)

/-- `async with self.uow` -/
def transaction (body : Uow A α) : Command α :=
  body {} >>= fun outcome => pure outcome.1

end Uow

end LibrarySystem
