import LibrarySystem.Application.LoanAdmission
import LibrarySystem.Application.WorkflowHandlers
import LibrarySystem.Foundation.SemanticLock

/-!
# The borrow saga

Clients borrow, return and extend, the reaper releases, and every event that was ever
emitted may be handled at any time: in any order, again, late or never.  The programs go
without the borrowing fence, which only keeps some of them apart: every run with it is one
of these.  Books and loans are a semantic lock and its claims, so a definitive borrow is
never contradicted.
-/

namespace LibrarySystem

open Run (Spec Knowledge)

namespace AggregateEvent

/-- The typed event that a subscriber gets back. -/
def ofEvent (event : DomainEvent) : Option AggregateEvent :=
  match event.eventClass, event.data.map Prod.snd with
  | .catalogBookReserved, [.str book_id, .str title, .str reservation_id,
      .int reservation_generation, .str patron_id, .datetime reserved_at,
      .str borrower_email] =>
      some (.catalogBookReserved ⟨book_id, title, reservation_id, reservation_generation,
        patron_id, reserved_at, borrower_email⟩)
  | .catalogBookBorrowed, [.str book_id, .str title, .str reservation_id,
      .int reservation_generation, .str patron_id, .str loan_id, .datetime borrowed_at,
      .datetime return_due_date, .str borrower_email] =>
      some (.catalogBookBorrowed ⟨book_id, title, reservation_id, reservation_generation,
        patron_id, loan_id, borrowed_at, return_due_date, borrower_email⟩)
  | .catalogBookReleased, [.str book_id, .str reservation_id, .int reservation_generation,
      .str patron_id, .str reason] =>
      some (.catalogBookReleased ⟨book_id, reservation_id, reservation_generation, patron_id,
        reason⟩)
  | .catalogBookReturned, [.str book_id, .str loan_id, .str reservation_id,
      .int reservation_generation, .str patron_id] =>
      some (.catalogBookReturned ⟨book_id, loan_id, reservation_id, reservation_generation,
        patron_id⟩)
  | .loanCreated, [.str loan_id, .str reservation_id, .int reservation_generation,
      .str patron_id, .str patron_email, .str book_id, .str book_title, .datetime borrowed_at,
      .datetime due_date] =>
      some (.loanCreated ⟨loan_id, reservation_id, reservation_generation, patron_id,
        patron_email, book_id, book_title, borrowed_at, due_date⟩)
  | .loanCompleted, [.str loan_id, .str reservation_id, .int reservation_generation,
      .str patron_id, .str book_id, .datetime returned_at, .bool was_overdue] =>
      some (.loanCompleted ⟨loan_id, reservation_id, reservation_generation, patron_id, book_id,
        returned_at, was_overdue⟩)
  | .loanCancelled, [.str loan_id, .str reservation_id, .int reservation_generation,
      .str patron_id, .str book_id, .str reason] =>
      some (.loanCancelled ⟨loan_id, reservation_id, reservation_generation, patron_id, book_id,
        reason⟩)
  | .loanExtended, [.str loan_id, .str patron_id, .str book_id, .datetime old_due_date,
      .datetime new_due_date] =>
      some (.loanExtended ⟨loan_id, patron_id, book_id, old_due_date, new_due_date⟩)
  | .bookOverdue, [.str loan_id, .str patron_id, .str patron_email, .str book_id,
      .str book_title, .datetime due_date, .int days_overdue] =>
      some (.bookOverdue ⟨loan_id, patron_id, patron_email, book_id, book_title, due_date,
        days_overdue⟩)
  | .patronRegistered, [.str patron_id, .str email, .str name, .str membership_tier] =>
      some (.patronRegistered ⟨patron_id, email, name, membership_tier⟩)
  | .patronSuspended, [.str patron_id, .str reason] => some (.patronSuspended ⟨patron_id, reason⟩)
  | .patronReinstated, [.str patron_id] => some (.patronReinstated ⟨patron_id⟩)
  | _, _ => none

@[simp] theorem ofEvent_stamp (metadata : EventMetadata) (event : AggregateEvent) :
    ofEvent (event.stamp metadata) = some event := by
  cases event <;> rfl

end AggregateEvent

@[simp] theorem Uow.ofEvent_stamp (draws : Draws) (events : List AggregateEvent) :
    (Uow.stamp draws events).filterMap AggregateEvent.ofEvent = events := by
  have hback : AggregateEvent.ofEvent ∘ (fun pair : AggregateEvent × ℕ =>
      pair.1.stamp (draws.metadata pair.2)) = fun pair => some pair.1 := by
    funext pair
    exact AggregateEvent.ofEvent_stamp _ _
  rw [Uow.stamp, List.mapIdx_eq_zipIdx_map, List.filterMap_map, hback, List.filterMap_eq_map',
    List.zipIdx_map_fst]

/-- The events that a batch emits. -/
def Batch.emits (batch : Batch) : List AggregateEvent :=
  (batch.transitions.flatMap Transition.events).filterMap AggregateEvent.ofEvent

/-! ## The saga -/

/-- The database, and every event emitted so far. -/
structure Saga where
  database : Database
  emitted : List AggregateEvent

/-- The requests of clients, operators and the reaper; the other commands come from the
workflow handlers only. -/
def Request.isClient : Request → Bool
  | circulation (.confirmBookBorrow _) | circulation (.releaseBookReservation _)
  | circulation (.returnBook _) | circulation (.createLoan _)
  | circulation (.cancelLoan _) => false
  | _ => true

inductive SagaRequest
  | client (request : Request)
  | deliver (event : AggregateEvent)

namespace SagaRequest

/-- Only what was emitted is delivered. -/
def Admissible (saga : Saga) : SagaRequest → Prop
  | client request => request.isClient = true
  | deliver event => event ∈ saga.emitted

def handle (rt : PythonRuntime) : SagaRequest → Command Unit
  | client request => do
      let _ ← request.handle rt
      pure ()
  | deliver event => event.deliver rt

def spec (rt : PythonRuntime) : SagaRequest → CommandSpec Unit
  | client request =>
      { commits := fun known batch _ => ∃ value, (request.spec rt).commits known batch value
        returns := fun _ _ => True
        raises := fun _ _ => True }
  | deliver event => event.deliverSpec rt

theorem handle_meets (rt : PythonRuntime) (request : SagaRequest)
    (known : Knowledge Observation PyStr) :
    (request.handle rt).Meets (request.spec rt) known := by
  cases request with
  | client request =>
      exact Command.meets_discard (request.handle_meets rt known)
        (fun _ _ value hcommits => ⟨value, hcommits⟩) (fun _ _ _ => trivial) fun _ _ _ => trivial
  | deliver event => exact event.deliver_meets rt known

end SagaRequest

def borrowSaga (rt : PythonRuntime) :
    Surroundings SagaRequest Observation PyStr Batch Refusal AppException Unit Saga Draws where
  program request := (request.handle rt).unfenced
  look saga draws := ⟨saga.database, draws⟩
  apply batch saga := do
    let after ← saga.database.runAll batch.statements
    pure ⟨after, saga.emitted ++ batch.emits⟩
  outage := .unavailable

/-- Retention leaves the events that were emitted. -/
structure Saga.Upkeep (saga after : Saga) : Prop where
  database : LibrarySystem.Upkeep saga.database after.database
  emitted : after.emitted = saga.emitted

abbrev SagaWorld : Type :=
  Interleaving.World SagaRequest Observation PyStr Batch Refusal AppException Unit Saga

def BorrowSaga (rt : PythonRuntime) (start : Saga → Prop) (world : SagaWorld) : Prop :=
  (Interleaving.machine (borrowSaga rt) start).ReachableUnder
    (Interleaving.Allowed SagaRequest.Admissible Saga.Upkeep) world

/-- The programs with the borrowing fence. -/
def fencedSaga (rt : PythonRuntime) :
    Surroundings SagaRequest Observation PyStr Batch Refusal AppException Unit Saga Draws :=
  { borrowSaga rt with program := fun request => request.handle rt }

theorem BorrowSaga.of_fenced {rt : PythonRuntime} {start : Saga → Prop} {world : SagaWorld}
    (hreach : (Interleaving.machine (fencedSaga rt) start).ReachableUnder
      (Interleaving.Allowed SagaRequest.Admissible Saga.Upkeep) world) :
    BorrowSaga rt start world.unfenced :=
  Interleaving.reachable_unfenced hreach

/-! ## Books and loans as a semantic lock -/

abbrev LockTag : Type := Uuid × PyStr

abbrev LockTerms : Type := Option UtcDateTime × Option UtcDateTime

abbrev LockState : Type := SemanticLock.State PyStr PyStr LockTag LockTerms

abbrev LockFact : Type := SemanticLock.Fact PyStr PyStr LockTag LockTerms

namespace BookState

def tag (state : BookState) : Option LockTag :=
  state.reservation_id.bind fun token =>
    state.reserved_patron_id.map fun patron => (token, patron.val)

def phase (state : BookState) : SemanticLock.Phase PyStr LockTerms :=
  match state.status with
  | .available => .free
  | .reserved => .held
  | .borrowed =>
      .settled ((state.current_loan_id.map Subtype.val).getD [])
        (state.borrowed_at, state.return_due_date)

def hold (state : BookState) : SemanticLock.Hold PyStr LockTag LockTerms :=
  ⟨state.reservation_generation, state.tag, state.phase⟩

end BookState

def LoanStatus.progress : LoanStatus → SemanticLock.Progress
  | returned => .completed
  | cancelled => .cancelled
  | _ => .pending

def LoanRow.claim (row : LoanRow) : SemanticLock.Record PyStr LockTag :=
  ⟨⟨row.catalog_book_id.val, row.reservation_generation,
    (row.reservation_id, row.patron_id.val)⟩, row.status.progress⟩

def DateTime.toUtc (value : DateTime) : Option UtcDateTime :=
  (requireUtcDatetime value []).toOption

/-- What an event tells the other context. -/
def AggregateEvent.told (rt : PythonRuntime) : AggregateEvent → Option LockFact
  | catalogBookReserved event => do
      let token ← rt.parseUuid event.reservation_id
      pure (.held ⟨event.book_id, event.reservation_generation, (token, event.patron_id)⟩)
  | catalogBookBorrowed event =>
      some (.settled event.book_id event.reservation_generation event.loan_id)
  | catalogBookReleased event => some (.released event.book_id event.reservation_generation)
  | loanCreated event => do
      let token ← rt.parseUuid event.reservation_id
      pure (.claimed event.loan_id
        ⟨event.book_id, event.reservation_generation, (token, event.patron_id)⟩
        (event.borrowed_at.toUtc, event.due_date.toUtc))
  | loanCompleted event => some (.completed event.loan_id event.book_id)
  | loanCancelled event => some (.cancelled event.loan_id)
  | _ => none

def factsOf (rt : PythonRuntime) (events : List AggregateEvent) : Set LockFact :=
  {fact | ∃ event ∈ events, event.told rt = some fact}

/-- The two contexts as the semantic lock sees them. -/
def Saga.lock (rt : PythonRuntime) (saga : Saga) : LockState where
  holds id := (saga.database.books.lookup id).map fun row => row.state.hold
  claims id := (saga.database.loans.lookup id).map LoanRow.claim
  facts := factsOf rt saga.emitted

/-! ## Transitions as moves -/

section Transitions

variable {rt : PythonRuntime} {lock : LockState}

theorem factsOf_one {event : AggregateEvent} {fact : LockFact}
    (htold : event.told rt = some fact) : factsOf rt [event] = {fact} := by
  ext other
  simp [factsOf, htold, eq_comm]

theorem factsOf_silent {events : List AggregateEvent}
    (htold : ∀ event ∈ events, event.told rt = none) : factsOf rt events = ∅ := by
  ext other
  simp only [factsOf, Set.mem_ofPred_eq, Set.mem_empty_iff_false, iff_false]
  rintro ⟨event, hevent, hfact⟩
  rw [htold event hevent] at hfact
  cases hfact

theorem factsOf_append (earlier later : List AggregateEvent) :
    factsOf rt (earlier ++ later) = factsOf rt earlier ∪ factsOf rt later := by
  ext fact
  simp only [factsOf, Set.mem_ofPred_eq, List.mem_append, Set.mem_union, or_and_right, exists_or]

open SemanticLock

theorem Book.reserve_move {nextId : Uuid} {book after : Book}
    {patronId borrowerEmail : PyStr} {reservedAt : DateTime} {reservationId : Option PyStr}
    {token : Uuid} {events : List AggregateEvent}
    (hhold : lock.holds book.id.val = some book.state.hold)
    (hreserve : book.reserve rt nextId patronId borrowerEmail reservedAt reservationId =
      .ok (after, token, events)) :
    Move lock (lock.putHold book.id.val after.state.hold (factsOf rt events)) := by
  obtain ⟨hstatus, -, patron, email, reserved, -, -, -, -, -, -, -, hstate, rfl⟩ :=
    Book.reserve_ok hreserve
  have hfree : book.state.hold.phase = .free := by
    simp [BookState.hold, BookState.phase, hstatus]
  have htold : factsOf rt [.catalogBookReserved
      { book_id := book.id.val
        title := book.title.value
        reservation_id := uuidText token
        reservation_generation := (book.state.reservation_generation + 1 : ℕ)
        patron_id := patron.val
        reserved_at := .ofUtc reserved
        borrower_email := email.value }] =
      {.held ⟨book.id.val, book.state.hold.generation + 1, (token, patron.val)⟩} := by
    apply factsOf_one
    simp [AggregateEvent.told, rt.parseUuid_uuidText, BookState.hold]
  have hafter : after.state.hold =
      ⟨book.state.hold.generation + 1, some (token, patron.val), .held⟩ := by
    simp [hstate, BookState.hold, BookState.tag, BookState.phase]
  rw [htold, hafter]
  exact .hold book.id.val book.state.hold (token, patron.val) hhold hfree

theorem Book.release_move {book after : Book} {reservationId patronId reason : PyStr}
    {generation : ℤ} {events : List AggregateEvent}
    (hhold : lock.holds book.id.val = some book.state.hold)
    (hrelease : book.release rt reservationId generation patronId reason =
      .ok (after, true, events)) :
    Move lock (lock.putHold book.id.val after.state.hold (factsOf rt events)) := by
  obtain ⟨token, text, -, -, hgeneration, -, -, ⟨hchanged, -⟩ |
    ⟨-, hstatus, -, -, -, -, hstate, rfl⟩⟩ := Book.release_ok hrelease
  · cases hchanged
  · have hheld : book.state.hold.phase = .held := by
      simp [BookState.hold, BookState.phase, hstatus]
    have htold : factsOf rt [.catalogBookReleased
        { book_id := book.id.val
          reservation_id := uuidText token
          reservation_generation := generation
          patron_id := patronId
          reason := text.value }] =
        {.released book.id.val book.state.hold.generation} := by
      apply factsOf_one
      simp [AggregateEvent.told, BookState.hold, hgeneration]
    have hafter : after.state.hold = { book.state.hold with phase := .free } := by
      simp [hstate, BookState.hold, BookState.tag, BookState.phase]
    rw [htold, hafter]
    exact .release book.id.val book.state.hold hhold hheld

theorem DateTime.toUtc_eq_some {value : DateTime} {field : PyStr} {t : UtcDateTime} :
    value.toUtc = some t ↔ requireUtcDatetime value field = .ok t := by
  unfold DateTime.toUtc requireUtcDatetime
  cases value.utcoffset with
  | none => simp [Except.toOption]
  | some offset =>
      dsimp only
      cases DateTime.astimezoneUtc value.wall offset <;> simp [Except.mapError, Except.toOption]

/-- The dates of an accepted confirmation are those of the call. -/
theorem Book.confirmBorrow_dates {book after : Book} {reservationId patronId loanId : PyStr}
    {generation : ℤ} {borrowedAt returnDueDate : DateTime} {events : List AggregateEvent}
    (hconfirm : book.confirmBorrow rt reservationId generation patronId loanId borrowedAt
      returnDueDate = .ok (after, true, events)) :
    borrowedAt.toUtc = after.state.borrowed_at ∧
      returnDueDate.toUtc = after.state.return_due_date := by
  unfold Book.confirmBorrow at hconfirm
  simp only [Result.bind_eq_ok, Result.throw_eq, Result.error_bind, Result.pure_eq] at hconfirm
  obtain ⟨token, -, loan, -, borrowed, hborrowed, due, hdue, hrest⟩ := hconfirm
  split at hrest
  · split at hrest <;> cases hrest
  · split at hrest
    · cases hrest
    · split at hrest
      · cases hrest
      · split at hrest
        · cases hrest
        · cases hrest
          exact ⟨DateTime.toUtc_eq_some.mpr hborrowed, DateTime.toUtc_eq_some.mpr hdue⟩

theorem BookState.tag_eq_some {state : BookState} {token : Uuid} {patron : PyStr} :
    state.tag = some (token, patron) ↔
      state.reservation_id = some token ∧
        state.reserved_patron_id.map Subtype.val = some patron := by
  unfold BookState.tag
  cases state.reservation_id <;> cases state.reserved_patron_id <;> simp

/-- A confirmation of a loan that was created settles the hold of its reservation. -/
theorem Book.confirm_move {book after : Book} {event : LoanCreated}
    {events : List AggregateEvent}
    (hhold : lock.holds book.id.val = some book.state.hold)
    (hbook : book.id.val = event.book_id)
    (hcanonical : ∀ attempt terms, .claimed event.loan_id attempt terms ∈ lock.facts →
      PyStr.strip event.loan_id = event.loan_id)
    (htold : ∀ fact, (AggregateEvent.loanCreated event).told rt = some fact → fact ∈ lock.facts)
    (hconfirm : ConfirmBookBorrowHandler.transition rt
      (ConfirmBorrowOnLoanCreatedHandler.command event) book = .ok (after, true, events)) :
    factsOf rt events =
        {.settled book.id.val event.reservation_generation event.loan_id} ∧
      Move lock (lock.putHold book.id.val after.state.hold (factsOf rt events)) := by
  obtain ⟨hborrowed, hdue⟩ := Book.confirmBorrow_dates hconfirm
  obtain ⟨token, loan, borrowed, due, email, htoken, hreservation, hgeneration, hpatron, hloan,
    hstatus, -, -, -, -, hstate, -, rfl⟩ := Book.confirmBorrow_ok hconfirm
  dsimp only [ConfirmBorrowOnLoanCreatedHandler.command] at *
  let attempt : Attempt PyStr LockTag :=
    ⟨book.id.val, event.reservation_generation, (token, event.patron_id)⟩
  have hclaimed : .claimed event.loan_id attempt (some borrowed, some due) ∈ lock.facts := by
    apply htold
    rw [hstate] at hborrowed hdue
    simp [AggregateEvent.told, parseReservationId_eq_ok_iff.mp htoken, hborrowed, hdue, attempt,
      hbook]
  have hid : loan.val = event.loan_id :=
    (normalizeReference_ok hloan).trans (hcanonical attempt _ hclaimed)
  have hfacts : factsOf rt [.catalogBookBorrowed
      { book_id := book.id.val
        title := book.title.value
        reservation_id := uuidText token
        reservation_generation := book.state.reservation_generation
        patron_id := event.patron_id
        loan_id := loan.val
        borrowed_at := .ofUtc borrowed
        return_due_date := .ofUtc due
        borrower_email := email.value }] =
      {.settled attempt.resource attempt.generation event.loan_id} := by
    apply factsOf_one
    simp [AggregateEvent.told, attempt, hgeneration, hid]
  have hafter : after.state.hold =
      { book.state.hold with phase := .settled event.loan_id (some borrowed, some due) } := by
    simp [hstate, BookState.hold, BookState.tag, BookState.phase, hid]
  refine ⟨hfacts, ?_⟩
  rw [hfacts, hafter]
  apply Move.settle event.loan_id attempt (some borrowed, some due) book.state.hold hclaimed hhold
  · exact hgeneration
  · exact BookState.tag_eq_some.mpr ⟨hreservation, hpatron⟩
  · simp [BookState.hold, BookState.phase, hstatus]

/-- A return of a completed loan gives the book of its hold back. -/
theorem Book.giveBack_move {book after : Book} {loanId reservationId patronId : PyStr}
    {generation : ℤ} {events : List AggregateEvent}
    (hhold : lock.holds book.id.val = some book.state.hold)
    (hcanonical : PyStr.strip loanId = loanId) 
    (hcompleted : .completed loanId book.id.val ∈ lock.facts)
    (hreturn : book.returnBook rt loanId reservationId generation patronId =
      .ok (after, true, events)) :
    Move lock (lock.putHold book.id.val after.state.hold (factsOf rt events)) := by
  obtain ⟨token, loan, patron, hloan, -, -, -, -, -, hstatus, hcurrent, -, -, -, -, hstate, rfl⟩ :=
    Book.returnBook_ok hreturn
  have hid : loan.val = loanId := (normalizeReference_ok hloan).trans hcanonical
  have hphase : book.state.hold.phase =
      .settled loanId (book.state.borrowed_at, book.state.return_due_date) := by
    simp [BookState.hold, BookState.phase, hstatus, hcurrent, hid]
  have hfacts : factsOf rt [.catalogBookReturned
      { book_id := book.id.val
        loan_id := loan.val
        reservation_id := uuidText token
        reservation_generation := book.state.reservation_generation
        patron_id := patron.val }] = ∅ :=
    factsOf_silent fun event hevent => by
      rw [List.mem_singleton.mp hevent]
      rfl
  have hafter : after.state.hold = { book.state.hold with phase := .free } := by
    simp [hstate, BookState.hold, BookState.tag, BookState.phase]
  rw [hfacts, hafter]
  exact .giveBack book.id.val book.state.hold loanId _ hcompleted hhold hphase

theorem Book.normalizeReference_error {value field : PyStr} {raised : Raised}
    (hvalue : Book.normalizeReference value field = .error raised) :
    raised = .catalog (.invalidCatalogReference field) := by
  simp only [Book.normalizeReference, LibrarySystem.normalizeReference] at hvalue
  split at hvalue
  · cases hvalue
  · cases hvalue
    rfl

theorem requireUtcDatetime_ne_catalog (value : DateTime) (field : PyStr)
    (raised : CatalogException) : requireUtcDatetime value field ≠ .error (.catalog raised) := by
  unfold requireUtcDatetime
  cases value.utcoffset with
  | none => exact fun hnever => by cases hnever
  | some offset =>
      dsimp only
      cases DateTime.astimezoneUtc value.wall offset <;> exact fun hnever => by cases hnever

/-- A book that refuses a confirmation as stale is neither held for it nor settled by it. -/
theorem Book.confirm_stale {book : Book} {event : LoanCreated} {token : Uuid}
    {book_id reservation_id operation : PyStr} {generation : ℤ}
    (htoken : rt.parseUuid event.reservation_id = some token)
    (hstale : ConfirmBookBorrowHandler.transition rt
      (ConfirmBorrowOnLoanCreatedHandler.command event) book =
        .error (.catalog (.staleReservation book_id reservation_id generation operation)))
    (hgeneration : book.state.hold.generation = event.reservation_generation)
    (htag : book.state.hold.tag = some (token, event.patron_id)) :
    book.state.hold.phase ≠ .held ∧
      book.state.hold.phase ≠
        .settled event.loan_id (event.borrowed_at.toUtc, event.due_date.toUtc) := by
  obtain ⟨hreservation, hpatron⟩ := BookState.tag_eq_some.mp htag
  have hmatch : book.requireMatchingReservation rt event.reservation_id
      event.reservation_generation event.patron_id (py "confirm borrow") = .ok token := by
    have hsame : (book.state.reservation_generation : ℤ) = event.reservation_generation :=
      hgeneration
    simp [Book.requireMatchingReservation, Book.parseReservationId,
      parseReservationId_eq_ok_iff.mpr htoken, hreservation, hsame, hpatron]
  unfold ConfirmBookBorrowHandler.transition Book.confirmBorrow at hstale
  simp only [ConfirmBorrowOnLoanCreatedHandler.command, hmatch, Result.ok_bind] at hstale
  cases hloan : Book.normalizeReference event.loan_id (py "loan_id") with
  | error raised =>
      rw [hloan, Result.error_bind, Except.error.injEq] at hstale
      rw [Book.normalizeReference_error hloan] at hstale
      cases hstale
  | ok loan =>
      have hid := normalizeReference_ok hloan
      rw [hloan, Result.ok_bind] at hstale
      obtain hnever | ⟨borrowed, hborrowedAt, hstale⟩ := Result.bind_eq_error.mp hstale
      · exact absurd hnever (requireUtcDatetime_ne_catalog _ _ _)
      obtain hnever | ⟨due, hdueAt, hstale⟩ := Result.bind_eq_error.mp hstale
      · exact absurd hnever (requireUtcDatetime_ne_catalog _ _ _)
      have hborrowed := DateTime.toUtc_eq_some.mpr hborrowedAt
      have hdue := DateTime.toUtc_eq_some.mpr hdueAt
      rw [hborrowed, hdue]
      simp only [BookState.hold, BookState.phase]
      cases hstatus : book.state.status with
      | available => exact ⟨fun hnever => (by cases hnever), fun hnever => (by cases hnever)⟩
      | reserved =>
          have hfree := (Book.reserved_ok hstatus).2.2.2.2.2
          simp only [hstatus, hfree, reduceCtorEq, false_and, if_false, ne_eq, not_true_eq_false,
            Option.isSome_none, Bool.false_eq_true, or_self, dite_false] at hstale
          split at hstale
          · cases hstale
          · split at hstale <;> cases hstale
      | borrowed =>
          obtain ⟨-, -, -, hsome, -⟩ := Book.borrowed_ok hstatus
          obtain ⟨current, hcurrent⟩ := Option.isSome_iff_exists.mp hsome
          refine ⟨fun hnever => (by cases hnever), fun hsettled => ?_⟩
          simp only [hcurrent, Option.map_some, Option.getD_some, Phase.settled.injEq,
            Prod.mk.injEq] at hsettled
          obtain ⟨hsame, hborrowedAt, hdueAt⟩ := hsettled
          have hown : current = loan := by
            apply Subtype.ext
            rw [hid, ← hsame, Reference.strip_val]
          subst loan
          simp [hstatus, hcurrent, hborrowedAt, hdueAt] at hstale

/-- A loan that is created for a reservation claims its hold. -/
theorem Loan.create_move {event : CatalogBookReserved} {nextId : Reference} {days : ℤ}
    {token : Uuid} {loan : Loan} {events : List AggregateEvent}
    (hbook : PyStr.strip event.book_id = event.book_id)
    (hpatron : PyStr.strip event.patron_id = event.patron_id)
    (htold : ∀ fact, (AggregateEvent.catalogBookReserved event).told rt = some fact →
      fact ∈ lock.facts)
    (htoken : rt.parseUuid event.reservation_id = some token)
    (hnew : lock.claims loan.id.val = none)
    (hcreate : Loan.create rt nextId event.patron_id event.borrower_email event.book_id
      event.title days event.reserved_at (uuidText token) event.reservation_generation =
        .ok (loan, events)) :
    ∃ fact, factsOf rt events = {fact} ∧
      (LoanRow.ofEntity loan 0).claim = ⟨⟨event.book_id, event.reservation_generation,
        (token, event.patron_id)⟩, .pending⟩ ∧
      Move lock (lock.putClaim loan.id.val (LoanRow.ofEntity loan 0).claim fact) := by
  obtain ⟨hparsed, hloanPatron, hloanBook, hgeneration, -, hstatus, created, rfl, hid,
    hreservation, hcreated, hcreatedPatron, hcreatedBook, hborrowed, hdue⟩ :=
    Loan.create_fields hcreate
  have hown : loan.reservation_id = token :=
    Except.ok.inj (hparsed.symm.trans parseReservationId_uuidText)
  let attempt : Attempt PyStr LockTag :=
    ⟨event.book_id, event.reservation_generation, (token, event.patron_id)⟩
  have hheld : .held attempt ∈ lock.facts := by
    apply htold
    simp [AggregateEvent.told, htoken, attempt]
  have hclaim : (LoanRow.ofEntity loan 0).claim = ⟨attempt, .pending⟩ := by
    simp [LoanRow.claim, LoanRow.ofEntity, hloanBook, hbook, hgeneration, hown, hloanPatron,
      hpatron, hstatus, LoanStatus.progress, attempt]
  refine ⟨.claimed loan.id.val attempt (some loan.borrowed_at, some loan.due_date), ?_, hclaim,
    ?_⟩
  · apply factsOf_one
    have hdueUtc : created.due_date.toUtc = some loan.due_date := by
      rw [hdue]
      exact DateTime.toUtc_eq_some.mpr (requireUtcDatetime_ofUtc _ [])
    simp [AggregateEvent.told, hreservation, hown, rt.parseUuid_uuidText,
      DateTime.toUtc_eq_some.mpr hborrowed, hdueUtc, hid, hcreatedBook, hcreated, hcreatedPatron,
      attempt]
  · rw [hclaim]
    exact .claim loan.id.val attempt _ hheld hnew

theorem Loan.returnBook_event {loan after : Loan} {returnedAt : DateTime}
    {events : List AggregateEvent}
    (hreturn : loan.returnBook returnedAt = .ok (after, true, events)) :
    ∃ event : LoanCompleted, events = [.loanCompleted event] ∧ event.loan_id = loan.id.val ∧
      event.book_id = loan.catalog_book_id.val := by
  unfold Loan.returnBook at hreturn
  simp only [Result.throw_eq, Result.pure_eq] at hreturn
  split at hreturn
  · cases hreturn
  · split at hreturn
    · cases hreturn
    · obtain ⟨returned, -, hrest⟩ := Result.bind_eq_ok.mp hreturn
      split at hrest
      · cases hrest
      · obtain ⟨overdue, -, hrest⟩ := Result.bind_eq_ok.mp hrest
        cases hrest
        exact ⟨_, rfl, rfl, rfl⟩

theorem LoanStatus.progress_eq_pending {status : LoanStatus} (hreturned : status ≠ .returned)
    (hcancelled : status ≠ .cancelled) : status.progress = .pending := by
  cases status <;> first | rfl | exact absurd rfl hreturned | exact absurd rfl hcancelled

theorem Loan.complete_move {row : LoanRow} {loan after : Loan} {returnedAt : DateTime}
    {events : List AggregateEvent} (hrow : row.toEntity = .ok loan)
    (hclaim : lock.claims row.id.val = some row.claim)
    (hreturn : loan.returnBook returnedAt = .ok (after, true, events)) :
    factsOf rt events = {.completed row.id.val row.catalog_book_id.val} ∧
      Move lock (lock.putClaim row.id.val (row.write after).claim
        (.completed row.id.val row.catalog_book_id.val)) := by
  have hentity := (LoanRow.toEntity_eq_ok_iff row loan).mp hrow
  have hid : loan.id = row.id := by rw [hentity]; rfl
  have hsame : row.status = loan.status := by rw [hentity]; rfl
  have hshelf : loan.catalog_book_id = row.catalog_book_id := by rw [hentity]; rfl
  obtain ⟨event, rfl, hevent, hbook⟩ := Loan.returnBook_event hreturn
  obtain ⟨hchanged, -⟩ | ⟨-, hreturned, hcancelled, hstatus, -⟩ := Loan.returnBook_ok hreturn
  · cases hchanged
  · constructor
    · apply factsOf_one
      simp [AggregateEvent.told, hevent, hid, hbook, hshelf]
    · have hafter : (row.write after).claim = { row.claim with progress := .completed } := by
        simp [LoanRow.claim, LoanRow.write, hstatus, LoanStatus.progress]
      rw [hafter]
      apply Move.complete row.id.val row.claim hclaim
      simp only [LoanRow.claim, hsame]
      exact LoanStatus.progress_eq_pending hreturned hcancelled

theorem Loan.cancel_move {row : LoanRow} {loan after : Loan} {reason : PyStr}
    {events : List AggregateEvent} (hrow : row.toEntity = .ok loan)
    (hclaim : lock.claims row.id.val = some row.claim) (hlost : lock.Lost row.id.val)
    (hcancel : loan.cancel reason = .ok (after, true, events)) :
    factsOf rt events = {.cancelled row.id.val} ∧
      Move lock (lock.putClaim row.id.val (row.write after).claim (.cancelled row.id.val)) := by
  have hentity := (LoanRow.toEntity_eq_ok_iff row loan).mp hrow
  have hid : loan.id = row.id := by rw [hentity]; rfl
  have hsame : row.status = loan.status := by rw [hentity]; rfl
  unfold Loan.cancel at hcancel
  simp only [Result.throw_eq, Result.pure_eq] at hcancel
  split at hcancel
  · cases hcancel
  · rename_i hongoing
    split at hcancel
    · cases hcancel
    · rename_i hreturned
      obtain ⟨text, -, hrest⟩ := Result.bind_eq_ok.mp hcancel
      cases hrest
      constructor
      · apply factsOf_one
        simp [AggregateEvent.told, hid]
      · have hafter : (row.write (loan.withStatus .cancelled hreturned (by decide))).claim =
            { row.claim with progress := .cancelled } := rfl
        rw [hafter]
        apply Move.cancel row.id.val row.claim hclaim _ hlost
        simp only [LoanRow.claim, hsame]
        exact LoanStatus.progress_eq_pending hreturned hongoing

/-- An extension leaves the claim. -/
theorem Loan.extend_claim {row : LoanRow} {loan after : Loan} {days : ℤ} {time : DateTime}
    {events : List AggregateEvent} (hrow : row.toEntity = .ok loan)
    (hextend : loan.extend days time = .ok (after, events)) :
    factsOf rt events = ∅ ∧ (row.write after).claim = row.claim := by
  have hentity := (LoanRow.toEntity_eq_ok_iff row loan).mp hrow
  have hsame : row.status = loan.status := by rw [hentity]; rfl
  unfold Loan.extend at hextend
  simp only [Result.throw_eq, Result.error_bind, Result.pure_eq, Result.guard_eq_ok,
    Result.bind_eq_ok] at hextend
  obtain ⟨-, overdue, -, -, hextend⟩ := hextend
  split at hextend
  · cases hextend
  · cases hextend
    constructor
    · apply factsOf_silent
      intro event hevent
      rw [List.mem_singleton.mp hevent]
      rfl
    · simp [LoanRow.claim, LoanRow.write, hsame]

theorem Patron.suspend_silent {patron after : Patron} {reason : PyStr}
    {events : List AggregateEvent} (hsuspend : patron.suspend reason = .ok (after, events)) :
    factsOf rt events = ∅ := by
  unfold Patron.suspend at hsuspend
  simp only [Result.throw_eq, Result.error_bind, Result.pure_eq, Result.guard_eq_ok,
    Result.bind_eq_ok, Except.ok.injEq, Prod.mk.injEq] at hsuspend
  obtain ⟨-, _, -, -, rfl⟩ := hsuspend
  apply factsOf_silent
  simp [AggregateEvent.told]

theorem Patron.reinstate_silent {patron after : Patron} {events : List AggregateEvent}
    (hreinstate : patron.reinstate = .ok (after, events)) : factsOf rt events = ∅ := by
  unfold Patron.reinstate at hreinstate
  simp only [Result.throw_eq, Result.error_bind, Result.pure_eq, Result.guard_eq_ok,
    Except.ok.injEq, Prod.mk.injEq] at hreinstate
  obtain ⟨-, -, rfl⟩ := hreinstate
  apply factsOf_silent
  simp [AggregateEvent.told]

theorem Patron.upgradeTier_silent {patron after : Patron} {tier : MembershipTier}
    {events : List AggregateEvent} (hupgrade : patron.upgradeTier tier = .ok (after, events)) :
    factsOf rt events = ∅ := by
  unfold Patron.upgradeTier at hupgrade
  simp only [Result.throw_eq, Result.error_bind, Result.pure_eq, Result.guard_eq_ok,
    Except.ok.injEq, Prod.mk.injEq] at hupgrade
  obtain ⟨-, -, rfl⟩ := hupgrade
  exact factsOf_silent fun _ hmem => by cases hmem

end Transitions

end LibrarySystem
