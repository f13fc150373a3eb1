import LibrarySystem.Domain.BookTransitions
import LibrarySystem.Domain.Methods

/-!
# The history of a book

A book object answers calls with any arguments.  What it emits is one cycle for
each generation: a reservation that is released, or borrowed and returned.  The
log alone determines the lifecycle of the book, and a message about another
reservation than the current one does nothing.
-/

namespace LibrarySystem

open Result

/-- The calls of the four transitions; `nextId` is the token drawn when none is passed. -/
inductive BookCall
  | reserve (nextId : Uuid) (patronId borrowerEmail : PyStr) (reservedAt : DateTime)
      (reservationId : Option PyStr)
  | confirmBorrow (reservationId : PyStr) (reservationGeneration : ℤ)
      (patronId loanId : PyStr) (borrowedAt returnDueDate : DateTime)
  | release (reservationId : PyStr) (reservationGeneration : ℤ) (patronId reason : PyStr)
  | returnBook (loanId reservationId : PyStr) (reservationGeneration : ℤ)
      (patronId : PyStr)

abbrev BookObject := Object BookFields AggregateEvent

namespace BookCall

/-- The object after the call, whether it returned or raised. -/
def perform (rt : PythonRuntime) : BookCall → BookObject → BookObject
  | reserve nextId patronId borrowerEmail reservedAt reservationId, self =>
      (BookMethod.reserve rt nextId patronId borrowerEmail reservedAt reservationId self).2
  | confirmBorrow reservationId generation patronId loanId borrowedAt returnDueDate, self =>
      (BookMethod.confirmBorrow rt reservationId generation patronId loanId borrowedAt
        returnDueDate self).2
  | release reservationId generation patronId reason, self =>
      (BookMethod.release rt reservationId generation patronId reason self).2
  | returnBook loanId reservationId generation patronId, self =>
      (BookMethod.returnBook rt loanId reservationId generation patronId self).2

def performAll (rt : PythonRuntime) (calls : List BookCall) (self : BookObject) :
    BookObject :=
  calls.foldl (fun self call => call.perform rt self) self

/-- The reservation a call names; `reserve` opens a new one. -/
def named : BookCall → Option (PyStr × ℤ × PyStr)
  | reserve .. => none
  | confirmBorrow reservationId generation patronId _ _ _ =>
      some (reservationId, generation, patronId)
  | release reservationId generation patronId _ => some (reservationId, generation, patronId)
  | returnBook _ reservationId generation patronId =>
      some (reservationId, generation, patronId)

/-- The transition of a valid book. -/
def answer (rt : PythonRuntime) (book : Book) : BookCall → Book × List AggregateEvent
  | reserve nextId patronId borrowerEmail reservedAt reservationId =>
      settled book
        (book.reserve rt nextId patronId borrowerEmail reservedAt reservationId)
  | confirmBorrow reservationId generation patronId loanId borrowedAt returnDueDate =>
      settled book
        (book.confirmBorrow rt reservationId generation patronId loanId borrowedAt
          returnDueDate)
  | release reservationId generation patronId reason =>
      settled book (book.release rt reservationId generation patronId reason)
  | returnBook loanId reservationId generation patronId =>
      settled book
        (book.returnBook rt loanId reservationId generation patronId)

theorem perform_of (rt : PythonRuntime) (call : BookCall) (book : Book)
    (pending : List AggregateEvent) :
    call.perform rt (.of Book.fields book pending) =
      .of Book.fields (call.answer rt book).1 (pending ++ (call.answer rt book).2) := by
  cases call with
  | reserve =>
      exact Method.CarriesOut.object (BookMethod.reserve_carriesOut rt book _ _ _ _ _) pending
  | confirmBorrow =>
      exact Method.CarriesOut.object
        (BookMethod.confirmBorrow_carriesOut rt book _ _ _ _ _ _) pending
  | release =>
      exact Method.CarriesOut.object (BookMethod.release_carriesOut rt book _ _ _ _) pending
  | returnBook =>
      exact Method.CarriesOut.object (BookMethod.returnBook_carriesOut rt book _ _ _ _) pending

theorem performAll_of (rt : PythonRuntime) (calls : List BookCall) (book : Book)
    (pending : List AggregateEvent) :
    performAll rt calls (.of Book.fields book pending) =
      .of Book.fields (history (fun book call => call.answer rt book) book calls).1
        (pending ++ (history (fun book call => call.answer rt book) book calls).2) :=
  foldl_perform (fun call book pending => call.perform_of rt book pending) calls book pending

end BookCall

/-! ## What one call can do -/

/-- The four ways a book can change, with the event each one emits. -/
inductive Book.Advance (book after : Book) : AggregateEvent → Prop
  | reserved {token : Uuid} {patron : Reference} {email : EmailAddress}
      {reserved : UtcDateTime}
      (hstatus : book.state.status = .available)
      (hlast : after.last_completed_loan_id = book.last_completed_loan_id)
      (hstate : after.state =
        { status := .reserved
          reserved_at := some reserved
          borrowed_at := none
          return_due_date := none
          reservation_id := some token
          reservation_generation := book.state.reservation_generation + 1
          reserved_patron_id := some patron
          reserved_patron_email := some email
          current_loan_id := none }) :
      Advance book after (.catalogBookReserved
        { book_id := book.id.val
          title := book.title.value
          reservation_id := uuidText token
          reservation_generation := (book.state.reservation_generation + 1 : ℕ)
          patron_id := patron.val
          reserved_at := .ofUtc reserved
          borrower_email := email.value })
  | borrowed {token : Uuid} {patron loan : Reference} {email : EmailAddress}
      {borrowed due : UtcDateTime}
      (hstatus : book.state.status = .reserved)
      (htoken : book.state.reservation_id = some token)
      (hpatron : book.state.reserved_patron_id = some patron)
      (hemail : book.state.reserved_patron_email = some email)
      (hlast : after.last_completed_loan_id = book.last_completed_loan_id)
      (hstate : after.state =
        { book.state with
          status := .borrowed
          reserved_at := none
          current_loan_id := some loan
          borrowed_at := some borrowed
          return_due_date := some due }) :
      Advance book after (.catalogBookBorrowed
        { book_id := book.id.val
          title := book.title.value
          reservation_id := uuidText token
          reservation_generation := book.state.reservation_generation
          patron_id := patron.val
          loan_id := loan.val
          borrowed_at := .ofUtc borrowed
          return_due_date := .ofUtc due
          borrower_email := email.value })
  | released {token : Uuid} {patron : Reference} {reason : BoundedText 500}
      (hstatus : book.state.status = .reserved)
      (htoken : book.state.reservation_id = some token)
      (hpatron : book.state.reserved_patron_id = some patron)
      (hlast : after.last_completed_loan_id = book.last_completed_loan_id)
      (hstate : after.state =
        { book.state with
          status := .available
          reserved_at := none
          borrowed_at := none
          return_due_date := none }) :
      Advance book after (.catalogBookReleased
        { book_id := book.id.val
          reservation_id := uuidText token
          reservation_generation := book.state.reservation_generation
          patron_id := patron.val
          reason := reason.value })
  | returned {token : Uuid} {patron loan : Reference}
      (hstatus : book.state.status = .borrowed)
      (htoken : book.state.reservation_id = some token)
      (hpatron : book.state.reserved_patron_id = some patron)
      (hloan : book.state.current_loan_id = some loan)
      (hlast : after.last_completed_loan_id = some loan)
      (hstate : after.state =
        { book.state with
          status := .available
          borrowed_at := none
          return_due_date := none
          current_loan_id := none }) :
      Advance book after (.catalogBookReturned
        { book_id := book.id.val
          loan_id := loan.val
          reservation_id := uuidText token
          reservation_generation := book.state.reservation_generation
          patron_id := patron.val })

/-- A call leaves the book as it was and emits nothing, or advances it by one event. -/
theorem BookCall.answer_cases (rt : PythonRuntime) (book : Book) (call : BookCall) :
    call.answer rt book = (book, []) ∨
      ∃ after event, call.answer rt book = (after, [event]) ∧ book.Advance after event := by
  cases call with
  | reserve nextId patronId borrowerEmail reservedAt reservationId =>
      simp only [BookCall.answer]
      cases hreserve : book.reserve rt nextId patronId borrowerEmail reservedAt
          reservationId with
      | error error => exact Or.inl rfl
      | ok result =>
          obtain ⟨after, token, events⟩ := result
          obtain ⟨hstatus, -, patron, email, reserved, -, -, -, -, -, -, hlast, hstate, rfl⟩ :=
            Book.reserve_ok hreserve
          exact Or.inr ⟨after, _, rfl, .reserved hstatus hlast hstate⟩
  | confirmBorrow reservationId generation patronId loanId borrowedAt returnDueDate =>
      simp only [BookCall.answer]
      cases hconfirm : book.confirmBorrow rt reservationId generation patronId loanId
          borrowedAt returnDueDate with
      | error error => exact Or.inl rfl
      | ok result =>
          obtain ⟨after, changed, events⟩ := result
          cases changed with
          | false =>
              obtain ⟨rfl, rfl⟩ := Book.confirmBorrow_unchanged hconfirm
              exact Or.inl rfl
          | true =>
              obtain ⟨token, loan, borrowed, due, email, -, htoken, -, hpatron, -, hstatus, -, -,
                -, hlast, hstate, hemail, rfl⟩ := Book.confirmBorrow_ok hconfirm
              obtain ⟨patron, hholder, rfl⟩ := Option.map_eq_some_iff.mp hpatron
              exact Or.inr ⟨after, _, rfl, .borrowed hstatus htoken hholder hemail hlast hstate⟩
  | release reservationId generation patronId reason =>
      simp only [BookCall.answer]
      cases hrelease : book.release rt reservationId generation patronId reason with
      | error error => exact Or.inl rfl
      | ok result =>
          obtain ⟨after, changed, events⟩ := result
          obtain ⟨token, text, -, htoken, rfl, hpatron, -, hcases⟩ := Book.release_ok hrelease
          obtain ⟨patron, hholder, rfl⟩ := Option.map_eq_some_iff.mp hpatron
          rcases hcases with ⟨-, rfl, rfl, -⟩ | ⟨-, hstatus, -, -, -, hlast, hstate, rfl⟩
          · exact Or.inl rfl
          · exact Or.inr ⟨after, _, rfl, .released hstatus htoken hholder hlast hstate⟩
  | returnBook loanId reservationId generation patronId =>
      simp only [BookCall.answer]
      cases hreturn : book.returnBook rt loanId reservationId generation patronId with
      | error error => exact Or.inl rfl
      | ok result =>
          obtain ⟨after, changed, events⟩ := result
          cases changed with
          | false =>
              obtain ⟨rfl, rfl⟩ := Book.returnBook_unchanged hreturn
              exact Or.inl rfl
          | true =>
              obtain ⟨token, loan, patron, -, -, htoken, -, hpatron, -, hstatus, hloan, -, -, -,
                hlast, hstate, rfl⟩ := Book.returnBook_ok hreturn
              exact Or.inr ⟨after, _, rfl, .returned hstatus htoken hpatron hloan hlast hstate⟩

/-! ## The lifecycle as the log tells it -/

/-- The lifecycle fields as plain values, as the events carry them. -/
structure BookView where
  status : BookStatus
  reserved_at : Option DateTime
  borrowed_at : Option DateTime
  return_due_date : Option DateTime
  reservation_id : Option PyStr
  reservation_generation : ℤ
  reserved_patron_id : Option PyStr
  reserved_patron_email : Option PyStr
  current_loan_id : Option PyStr
  last_completed_loan_id : Option PyStr

def BookFields.view (self : BookFields) : BookView where
  status := self.state.status
  reserved_at := self.state.reserved_at.map .ofUtc
  borrowed_at := self.state.borrowed_at.map .ofUtc
  return_due_date := self.state.return_due_date.map .ofUtc
  reservation_id := self.state.reservation_id.map uuidText
  reservation_generation := self.state.reservation_generation
  reserved_patron_id := self.state.reserved_patron_id.map Subtype.val
  reserved_patron_email := self.state.reserved_patron_email.map EmailAddress.value
  current_loan_id := self.state.current_loan_id.map Subtype.val
  last_completed_loan_id := self.last_completed_loan_id.map Subtype.val

/-- The fold step of one event. -/
def BookView.apply (view : BookView) : AggregateEvent → BookView
  | .catalogBookReserved event =>
      { view with
        status := .reserved
        reserved_at := some event.reserved_at
        borrowed_at := none
        return_due_date := none
        reservation_id := some event.reservation_id
        reservation_generation := event.reservation_generation
        reserved_patron_id := some event.patron_id
        reserved_patron_email := some event.borrower_email
        current_loan_id := none }
  | .catalogBookBorrowed event =>
      { view with
        status := .borrowed
        reserved_at := none
        borrowed_at := some event.borrowed_at
        return_due_date := some event.return_due_date
        reservation_id := some event.reservation_id
        reservation_generation := event.reservation_generation
        reserved_patron_id := some event.patron_id
        reserved_patron_email := some event.borrower_email
        current_loan_id := some event.loan_id }
  | .catalogBookReleased event =>
      { view with
        status := .available
        reserved_at := none
        borrowed_at := none
        return_due_date := none
        reservation_id := some event.reservation_id
        reservation_generation := event.reservation_generation
        reserved_patron_id := some event.patron_id }
  | .catalogBookReturned event =>
      { view with
        status := .available
        borrowed_at := none
        return_due_date := none
        reservation_id := some event.reservation_id
        reservation_generation := event.reservation_generation
        reserved_patron_id := some event.patron_id
        current_loan_id := none
        last_completed_loan_id := some event.loan_id }
  | _ => view

theorem Book.Advance.apply_view {book after : Book} {event : AggregateEvent}
    (hadvance : book.Advance after event) :
    book.fields.view.apply event = after.fields.view := by
  cases hadvance with
  | reserved hstatus hlast hstate =>
      simp [BookView.apply, BookFields.view, Book.fields, hstate, hlast]
  | borrowed hstatus htoken hpatron hemail hlast hstate =>
      simp [BookView.apply, BookFields.view, Book.fields, hstate, hlast, htoken, hpatron,
        hemail]
  | released hstatus htoken hpatron hlast hstate =>
      simp [BookView.apply, BookFields.view, Book.fields, hstate, hlast, htoken, hpatron]
  | returned hstatus htoken hpatron hloan hlast hstate =>
      simp [BookView.apply, BookFields.view, Book.fields, hstate, hlast, htoken, hpatron]

/-! ## The shape of the log -/

/-- The reservation an event of the catalog carries: id, generation and patron. -/
def AggregateEvent.reservation : AggregateEvent → Option (PyStr × ℤ × PyStr)
  | .catalogBookReserved event =>
      some (event.reservation_id, event.reservation_generation, event.patron_id)
  | .catalogBookBorrowed event =>
      some (event.reservation_id, event.reservation_generation, event.patron_id)
  | .catalogBookReleased event =>
      some (event.reservation_id, event.reservation_generation, event.patron_id)
  | .catalogBookReturned event =>
      some (event.reservation_id, event.reservation_generation, event.patron_id)
  | _ => none

/-- The events of one reservation: it is released, or borrowed and returned. -/
inductive Cycle : List AggregateEvent → Prop
  | released (reserved : CatalogBookReserved) (released : CatalogBookReleased) :
      Cycle [.catalogBookReserved reserved, .catalogBookReleased released]
  | returned (reserved : CatalogBookReserved) (borrowed : CatalogBookBorrowed)
      (returned : CatalogBookReturned) :
      Cycle [.catalogBookReserved reserved, .catalogBookBorrowed borrowed,
        .catalogBookReturned returned]

/-- One cycle for each generation from 1 on, each about one reservation. -/
inductive Cycles : ℕ → List AggregateEvent → Prop
  | start : Cycles 0 []
  | next {generation : ℕ} {log cycle : List AggregateEvent} (token patron : PyStr)
      (hlog : Cycles generation log) (hcycle : Cycle cycle)
      (hsame : ∀ event ∈ cycle, event.reservation = some (token, (generation : ℤ) + 1, patron)) :
      Cycles (generation + 1) (log ++ cycle)

/-- The reservation the book holds, or held last. -/
def BookFields.current (self : BookFields) : Option (PyStr × ℤ × PyStr) := do
  let token ← self.state.reservation_id
  let patron ← self.state.reserved_patron_id
  pure (uuidText token, self.state.reservation_generation, patron.val)

/-- Closed cycles, and behind them what the current reservation has emitted so far. -/
def Book.Logged (book : Book) (log : List AggregateEvent) : Prop :=
  match book.state.status with
  | .available => Cycles book.state.reservation_generation log
  | .reserved =>
      ∃ closed reserved generation, log = closed ++ [.catalogBookReserved reserved] ∧
        Cycles generation closed ∧ book.state.reservation_generation = generation + 1 ∧
        book.fields.current = (AggregateEvent.catalogBookReserved reserved).reservation
  | .borrowed =>
      ∃ closed reserved borrowed generation,
        log = closed ++ [.catalogBookReserved reserved, .catalogBookBorrowed borrowed] ∧
        Cycles generation closed ∧ book.state.reservation_generation = generation + 1 ∧
        book.fields.current = (AggregateEvent.catalogBookReserved reserved).reservation ∧
        book.fields.current = (AggregateEvent.catalogBookBorrowed borrowed).reservation

theorem Book.current_eq {book : Book} {token : Uuid} {patron : Reference}
    (htoken : book.state.reservation_id = some token)
    (hpatron : book.state.reserved_patron_id = some patron) :
    book.fields.current =
      some (uuidText token, (book.state.reservation_generation : ℤ), patron.val) := by
  simp [BookFields.current, Book.fields, htoken, hpatron]

theorem Book.current_generation {book : Book} {token patron : PyStr} {generation : ℤ}
    (hcurrent : book.fields.current = some (token, generation, patron)) :
    generation = book.state.reservation_generation := by
  simp only [BookFields.current, Option.bind_eq_bind, Option.bind_eq_some_iff,
    Option.pure_def, Option.some.injEq, Prod.mk.injEq] at hcurrent
  obtain ⟨_, -, _, -, -, rfl, -⟩ := hcurrent
  rfl

theorem Book.Logged.advance {book after : Book} {log : List AggregateEvent}
    {event : AggregateEvent} (hlogged : book.Logged log)
    (hadvance : book.Advance after event) :
    after.Logged (log ++ [event]) := by
  cases hadvance with
  | @reserved token patron email reserved hstatus hlast hstate =>
      simp only [Book.Logged, hstatus] at hlogged
      simp only [Book.Logged, hstate]
      refine ⟨log, _, book.state.reservation_generation, rfl, hlogged, rfl, ?_⟩
      simp [BookFields.current, Book.fields, hstate, AggregateEvent.reservation]
  | @borrowed token patron loan email borrowed due hstatus htoken hpatron hemail hlast hstate =>
      simp only [Book.Logged, hstatus] at hlogged
      obtain ⟨closed, reserved, generation, rfl, hclosed, hgeneration, hcurrent⟩ := hlogged
      have hsame : after.fields.current = book.fields.current := by
        simp [BookFields.current, Book.fields, hstate]
      simp only [Book.Logged, hstate]
      refine ⟨closed, reserved, _, generation, List.append_assoc _ _ _, hclosed, hgeneration,
        hsame.trans hcurrent, ?_⟩
      exact hsame.trans (book.current_eq htoken hpatron)
  | @released token patron reason hstatus htoken hpatron hlast hstate =>
      simp only [Book.Logged, hstatus] at hlogged
      obtain ⟨closed, reserved, generation, rfl, hclosed, hgeneration, hcurrent⟩ := hlogged
      rw [book.current_eq htoken hpatron, hgeneration, Nat.cast_succ] at hcurrent
      simp only [Book.Logged, hstate, hgeneration, List.append_assoc]
      refine .next (uuidText token) patron.val hclosed (.released reserved _)
        (List.forall_mem_cons.mpr ⟨hcurrent.symm, List.forall_mem_singleton.mpr ?_⟩)
      rw [AggregateEvent.reservation, Nat.cast_succ]
  | @returned token patron loan hstatus htoken hpatron hloan hlast hstate =>
      simp only [Book.Logged, hstatus] at hlogged
      obtain ⟨closed, reserved, borrowed, generation, rfl, hclosed, hgeneration, hcurrent,
        hconfirmed⟩ := hlogged
      rw [book.current_eq htoken hpatron, hgeneration, Nat.cast_succ] at hcurrent hconfirmed
      simp only [Book.Logged, hstate, hgeneration, List.append_assoc]
      refine .next (uuidText token) patron.val hclosed (.returned reserved borrowed _)
        (List.forall_mem_cons.mpr ⟨hcurrent.symm, List.forall_mem_cons.mpr
          ⟨hconfirmed.symm, List.forall_mem_singleton.mpr ?_⟩⟩)
      rw [AggregateEvent.reservation, Nat.cast_succ]

/-- A log with an open cycle is cut off before that cycle's last event. -/
theorem Book.Logged.isPrefix {book : Book} {log : List AggregateEvent}
    (hlogged : book.Logged log) :
    ∃ generation full, Cycles generation full ∧ log <+: full := by
  unfold Book.Logged at hlogged
  split at hlogged
  · exact ⟨_, log, hlogged, List.prefix_refl log⟩
  · obtain ⟨closed, reserved, generation, rfl, hclosed, hgeneration, hcurrent⟩ := hlogged
    have hnumber := book.current_generation hcurrent
    refine ⟨_, _, .next reserved.reservation_id reserved.patron_id hclosed (.released reserved
      { book_id := reserved.book_id
        reservation_id := reserved.reservation_id
        reservation_generation := reserved.reservation_generation
        patron_id := reserved.patron_id
        reason := [] }) ?_, ?_⟩
    · simp [AggregateEvent.reservation, hnumber, hgeneration]
    · exact ⟨[_], List.append_assoc _ _ _⟩
  · obtain ⟨closed, reserved, borrowed, generation, rfl, hclosed, hgeneration, hcurrent,
      hconfirmed⟩ := hlogged
    have hnumber := book.current_generation hcurrent
    rw [hconfirmed] at hcurrent
    refine ⟨_, _, .next reserved.reservation_id reserved.patron_id hclosed
      (.returned reserved borrowed
        { book_id := reserved.book_id
          loan_id := borrowed.loan_id
          reservation_id := reserved.reservation_id
          reservation_generation := reserved.reservation_generation
          patron_id := reserved.patron_id }) ?_, ?_⟩
    · simp only [AggregateEvent.reservation] at hcurrent
      simp [AggregateEvent.reservation, hnumber, hgeneration, hcurrent]
    · exact ⟨[_], List.append_assoc _ _ _⟩

/-! ## Every history -/

section History

variable (rt : PythonRuntime)

theorem BookCall.logged_answer {book : Book} {log : List AggregateEvent}
    (hlogged : book.Logged log) (call : BookCall) :
    (call.answer rt book).1.Logged (log ++ (call.answer rt book).2) := by
  rcases call.answer_cases rt book with hnone | ⟨after, event, hone, hadvance⟩
  · simpa [hnone] using hlogged
  · rw [hone]
    exact hlogged.advance hadvance

theorem BookCall.foldl_answer (book : Book) (call : BookCall) :
    (call.answer rt book).2.foldl BookView.apply book.fields.view =
      (call.answer rt book).1.fields.view := by
  rcases call.answer_cases rt book with hnone | ⟨after, event, hone, hadvance⟩
  · simp [hnone]
  · simpa [hone] using hadvance.apply_view

/-- A reservation is named by the value of its token. -/
def BookFields.Holds (self : BookFields) : PyStr × ℤ × PyStr → Prop
  | (reservationId, generation, patronId) =>
      ∃ token, rt.parseUuid reservationId = some token ∧
        self.state.reservation_id = some token ∧
        (self.state.reservation_generation : ℤ) = generation ∧
        self.state.reserved_patron_id.map Subtype.val = some patronId

theorem BookCall.answer_of_not_holds (book : Book) {call : BookCall}
    {named : PyStr × ℤ × PyStr} (hnamed : call.named = some named)
    (hother : ¬ book.fields.Holds rt named) :
    call.answer rt book = (book, []) := by
  cases call with
  | reserve => cases hnamed
  | confirmBorrow reservationId generation patronId loanId borrowedAt returnDueDate =>
      cases hnamed
      simp only [BookCall.answer]
      cases hconfirm : book.confirmBorrow rt reservationId generation patronId loanId
          borrowedAt returnDueDate with
      | error error => rfl
      | ok result =>
          obtain ⟨after, changed, events⟩ := result
          cases changed with
          | false =>
              obtain ⟨rfl, rfl⟩ := Book.confirmBorrow_unchanged hconfirm
              rfl
          | true =>
              obtain ⟨token, -, -, -, -, hparse, htoken, hgeneration, hpatron, -⟩ :=
                Book.confirmBorrow_ok hconfirm
              exact (hother ⟨token, parseReservationId_eq_ok_iff.mp hparse, htoken, hgeneration,
                hpatron⟩).elim
  | release reservationId generation patronId reason =>
      cases hnamed
      simp only [BookCall.answer]
      cases hrelease : book.release rt reservationId generation patronId reason with
      | error error => rfl
      | ok result =>
          obtain ⟨after, changed, events⟩ := result
          obtain ⟨token, -, hparse, htoken, hgeneration, hpatron, -⟩ := Book.release_ok hrelease
          exact (hother ⟨token, parseReservationId_eq_ok_iff.mp hparse, htoken, hgeneration,
            hpatron⟩).elim
  | returnBook loanId reservationId generation patronId =>
      cases hnamed
      simp only [BookCall.answer]
      cases hreturn : book.returnBook rt loanId reservationId generation patronId with
      | error error => rfl
      | ok result =>
          obtain ⟨after, changed, events⟩ := result
          cases changed with
          | false =>
              obtain ⟨rfl, rfl⟩ := Book.returnBook_unchanged hreturn
              rfl
          | true =>
              obtain ⟨token, -, patron, -, hparse, htoken, hgeneration, hpatron, rfl, -⟩ :=
                Book.returnBook_ok hreturn
              exact (hother ⟨token, parseReservationId_eq_ok_iff.mp hparse, htoken, hgeneration,
                by rw [show book.fields.state.reserved_patron_id = some patron from hpatron]
                   rfl⟩).elim

/-- For any calls to an available book of generation 0, failed calls included: the log is
a prefix of one cycle for each generation, it folds to the lifecycle of the book, and a
call about another reservation than the current one does nothing. -/
theorem book_history (book : Book) (havailable : book.state.status = .available)
    (hgeneration : book.state.reservation_generation = 0) (calls : List BookCall) :
    let self := BookCall.performAll rt calls (.of Book.fields book [])
    (∃ generation full, Cycles generation full ∧ self.pending <+: full) ∧
      self.pending.foldl BookView.apply book.fields.view = self.fields.view ∧
      ∀ call named, BookCall.named call = some named → ¬ self.fields.Holds rt named →
        call.perform rt self = self := by
  simp only [BookCall.performAll_of, List.nil_append]
  have hlogged : book.Logged [] := by
    simp only [Book.Logged, havailable, hgeneration]
    exact .start
  have hafter := history_invariant Book.Logged
    (fun _ _ call hinv => BookCall.logged_answer rt hinv call) hlogged calls
  refine ⟨hafter.isPrefix, foldl_history (fun book => book.fields.view)
    (BookCall.foldl_answer rt) book calls, ?_⟩
  intro call named hnamed hother
  rw [BookCall.perform_of, BookCall.answer_of_not_holds rt _ hnamed hother, List.append_nil]

end History

def shelvedState : BookState where
  status := .available
  reserved_at := none
  borrowed_at := none
  return_due_date := none
  reservation_id := none
  reservation_generation := 0
  reserved_patron_id := none
  reserved_patron_email := none
  current_loan_id := none

theorem shelvedState_ok : shelvedState.Ok := ⟨rfl, rfl, rfl, rfl, Or.inr ⟨rfl, rfl, rfl⟩⟩

def shelvedBook : Book where
  title := ⟨py "Persuasion", by decide, by decide, by decide⟩
  author := ⟨py "Jane Austen", by decide, by decide, by decide⟩
  id := uuidReference 7
  state := shelvedState
  last_completed_loan_id := none
  valid := shelvedState_ok

/-- A reservation, a release of another generation, the loan and its return. -/
def borrowingCalls : List BookCall :=
  [.reserve 9 (py "p1") (py "ann@lee.org") (.ofUtc 0) none,
    .release (uuidText 9) 2 (py "p1") (py "late"),
    .confirmBorrow (uuidText 9) 1 (py "p1") (py "l1") (.ofUtc 1) (.ofUtc 2),
    .returnBook (py "l1") (uuidText 9) 1 (py "p1")]

theorem book_history_shelved :
    let self := BookCall.performAll asciiRuntime borrowingCalls (.of Book.fields shelvedBook [])
    self.pending.length = 3 ∧ self.fields.state.reservation_generation = 1 ∧
      (∃ generation full, Cycles generation full ∧ self.pending <+: full) ∧
        self.pending.foldl BookView.apply shelvedBook.fields.view = self.fields.view ∧
        ∀ call named, BookCall.named call = some named →
          ¬ self.fields.Holds asciiRuntime named → call.perform asciiRuntime self = self :=
  ⟨by decide +kernel, by decide +kernel,
    book_history asciiRuntime shelvedBook rfl rfl borrowingCalls⟩

end LibrarySystem
