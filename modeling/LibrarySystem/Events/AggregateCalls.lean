import LibrarySystem.Domain.BookTransitions
import LibrarySystem.Events.Publication

/-!
# What the aggregates say

A call is a factory or a transition with its arguments; its outcome is the
aggregate before and after it and the events it added.  An outcome is sound
when each of its events is accepted by the wire contract, under any identity
and timestamp, and repeats the values the aggregate stores.  Every call is
sound except `Loan.create` on arguments its constructor has to normalise.
-/

namespace LibrarySystem

open Result

/-- The datetime is the stored instant. -/
def Denotes (value : DateTime) (t : UtcDateTime) : Prop :=
  ∃ offset, value.utcoffset = some offset ∧
    DateTime.instant value.wall offset = t.val

@[simp] theorem ofUtc_denotes (t : UtcDateTime) : Denotes (.ofUtc t) t :=
  ⟨.zero, rfl, by simp [DateTime.instant, UtcOffset.zero, DateTime.ofUtc]⟩

theorem requireUtcDatetime_ok
    {value : DateTime} {fieldName : PyStr} {t : UtcDateTime}
    (hrequire : requireUtcDatetime value fieldName = .ok t) :
    Denotes value t ∧ coerceAware value = .ok (.datetime (.ofUtc t)) := by
  unfold requireUtcDatetime at hrequire
  cases hoffset : value.utcoffset with
  | none => simp [hoffset] at hrequire
  | some offset =>
      simp only [hoffset, mapError_eq_ok] at hrequire
      refine ⟨⟨offset, hoffset, (astimezoneUtc_instant hrequire).symm⟩, ?_⟩
      simp only [coerceAware, hoffset, hrequire]
      rfl

theorem normalizeReference_ok
    {invalid : Raised} {value : PyStr} {r : Reference}
    (hnormalize : normalizeReference invalid value = .ok r) :
    r.val = PyStr.strip value := by
  unfold normalizeReference at hnormalize
  simp only at hnormalize
  split at hnormalize
  · simp only [Except.ok.injEq] at hnormalize
    rw [← hnormalize]
  · simp at hnormalize

/-! ## Truth of an event -/

/-- What a loan event must repeat; the old due date of an extension is the one
stored before the call. -/
def Loan.Tells (before after : Loan) : AggregateEvent → Prop
  | .loanCreated event =>
      event.loan_id = after.id.val ∧
        event.reservation_id = uuidText after.reservation_id ∧
        event.reservation_generation = after.reservation_generation ∧
        event.patron_id = after.patron_id.val ∧
        event.patron_email = after.patron_email.value ∧
        event.book_id = after.catalog_book_id.val ∧
        event.book_title = after.book_title.value ∧
        Denotes event.borrowed_at after.borrowed_at ∧
        Denotes event.due_date after.due_date
  | .loanCompleted event =>
      event.loan_id = after.id.val ∧
        event.reservation_id = uuidText after.reservation_id ∧
        event.reservation_generation = after.reservation_generation ∧
        event.patron_id = after.patron_id.val ∧
        event.book_id = after.catalog_book_id.val ∧
        ∃ t, after.returned_at = some t ∧ Denotes event.returned_at t
  | .loanCancelled event =>
      event.loan_id = after.id.val ∧
        event.reservation_id = uuidText after.reservation_id ∧
        event.reservation_generation = after.reservation_generation ∧
        event.patron_id = after.patron_id.val ∧
        event.book_id = after.catalog_book_id.val
  | .loanExtended event =>
      event.loan_id = after.id.val ∧ event.patron_id = after.patron_id.val ∧
        event.book_id = after.catalog_book_id.val ∧
        Denotes event.old_due_date before.due_date ∧
        Denotes event.new_due_date after.due_date
  | .bookOverdue event =>
      event.loan_id = after.id.val ∧ event.patron_id = after.patron_id.val ∧
        event.patron_email = after.patron_email.value ∧
        event.book_id = after.catalog_book_id.val ∧
        event.book_title = after.book_title.value ∧
        Denotes event.due_date after.due_date
  | _ => False

def Book.Tells (after : Book) : AggregateEvent → Prop
  | .catalogBookReserved event =>
      event.book_id = after.id.val ∧ event.title = after.title.value ∧
        after.state.reservation_id.map uuidText = some event.reservation_id ∧
        event.reservation_generation = after.state.reservation_generation ∧
        after.state.reserved_patron_id.map Subtype.val = some event.patron_id ∧
        (∃ t, after.state.reserved_at = some t ∧ Denotes event.reserved_at t) ∧
        after.state.reserved_patron_email.map EmailAddress.value =
          some event.borrower_email
  | .catalogBookBorrowed event =>
      event.book_id = after.id.val ∧ event.title = after.title.value ∧
        after.state.reservation_id.map uuidText = some event.reservation_id ∧
        event.reservation_generation = after.state.reservation_generation ∧
        after.state.reserved_patron_id.map Subtype.val = some event.patron_id ∧
        after.state.current_loan_id.map Subtype.val = some event.loan_id ∧
        (∃ t, after.state.borrowed_at = some t ∧ Denotes event.borrowed_at t) ∧
        (∃ t, after.state.return_due_date = some t ∧
          Denotes event.return_due_date t) ∧
        after.state.reserved_patron_email.map EmailAddress.value =
          some event.borrower_email
  | .catalogBookReleased event =>
      event.book_id = after.id.val ∧
        after.state.reservation_id.map uuidText = some event.reservation_id ∧
        event.reservation_generation = after.state.reservation_generation ∧
        after.state.reserved_patron_id.map Subtype.val = some event.patron_id
  | .catalogBookReturned event =>
      event.book_id = after.id.val ∧
        after.last_completed_loan_id.map Subtype.val = some event.loan_id ∧
        after.state.reservation_id.map uuidText = some event.reservation_id ∧
        event.reservation_generation = after.state.reservation_generation ∧
        after.state.reserved_patron_id.map Subtype.val = some event.patron_id
  | _ => False

def Patron.Tells (after : Patron) : AggregateEvent → Prop
  | .patronRegistered event =>
      event.patron_id = after.id.val ∧ event.email = after.email.value ∧
        event.name = after.name.fullName ∧
        event.membership_tier = after.membership_tier.value
  | .patronSuspended event =>
      event.patron_id = after.id.val ∧
        after.suspended_reason.map BoundedText.value = some event.reason
  | .patronReinstated event => event.patron_id = after.id.val
  | _ => False

inductive Aggregate
  | book (book : Book)
  | loan (loan : Loan)
  | patron (patron : Patron)

/-- A factory has no aggregate before it; `before` is then the new one. -/
structure Outcome where
  before : Aggregate
  after : Aggregate
  events : List AggregateEvent

def Outcome.Tells (outcome : Outcome) (event : AggregateEvent) : Prop :=
  match outcome.before, outcome.after with
  | .book _, .book after => after.Tells event
  | .loan before, .loan after => before.Tells after event
  | .patron _, .patron after => after.Tells event
  | _, _ => False

/-- Every event can be published and tells the truth. -/
def Outcome.Sound (rt : PythonRuntime) (outcome : Outcome) : Prop :=
  ∀ event ∈ outcome.events, event.Published rt ∧ outcome.Tells event

/-! ## Calls -/

/-- The factories and transitions; `nextId` is what `next_id` would draw. -/
inductive AggregateCall
  | createLoan (nextId : Reference) (patronId patronEmail catalogBookId
      bookTitle : PyStr) (loanDurationDays : ℤ) (borrowedAt : DateTime)
      (reservationId : PyStr) (reservationGeneration : ℤ)
  | returnLoan (loan : Loan) (returnedAt : DateTime)
  | cancelLoan (loan : Loan) (reason : PyStr)
  | markOverdue (loan : Loan) (currentTime : DateTime)
  | extendLoan (loan : Loan) (days : ℤ) (currentTime : DateTime)
  | reserveBook (book : Book) (nextId : Uuid) (patronId borrowerEmail : PyStr)
      (reservedAt : DateTime) (reservationId : Option PyStr)
  | confirmBorrow (book : Book) (reservationId : PyStr)
      (reservationGeneration : ℤ) (patronId loanId : PyStr)
      (borrowedAt returnDueDate : DateTime)
  | releaseBook (book : Book) (reservationId : PyStr)
      (reservationGeneration : ℤ) (patronId reason : PyStr)
  | returnBook (book : Book) (loanId reservationId : PyStr)
      (reservationGeneration : ℤ) (patronId : PyStr)
  | registerPatron (nextId : Reference) (name : PatronName) (email : EmailAddress)
      (registeredAt : DateTime) (membershipTier : MembershipTier)
  | suspendPatron (patron : Patron) (reason : PyStr)
  | reinstatePatron (patron : Patron)
  | upgradeTier (patron : Patron) (newTier : MembershipTier)

namespace AggregateCall

def run (rt : PythonRuntime) : AggregateCall → Except Raised Outcome
  | createLoan nextId patronId patronEmail catalogBookId bookTitle days borrowedAt
      reservationId generation => do
      let result ← Loan.create rt nextId patronId patronEmail catalogBookId
        bookTitle days borrowedAt reservationId generation
      pure ⟨.loan result.1, .loan result.1, result.2⟩
  | returnLoan loan returnedAt => do
      let result ← loan.returnBook returnedAt
      pure ⟨.loan loan, .loan result.1, result.2.2⟩
  | cancelLoan loan reason => do
      let result ← loan.cancel reason
      pure ⟨.loan loan, .loan result.1, result.2.2⟩
  | markOverdue loan currentTime => do
      let result ← loan.markOverdue currentTime
      pure ⟨.loan loan, .loan result.1, result.2⟩
  | extendLoan loan days currentTime => do
      let result ← loan.extend days currentTime
      pure ⟨.loan loan, .loan result.1, result.2⟩
  | reserveBook book nextId patronId borrowerEmail reservedAt reservationId => do
      let result ← book.reserve rt nextId patronId borrowerEmail reservedAt
        reservationId
      pure ⟨.book book, .book result.1, result.2.2⟩
  | confirmBorrow book reservationId generation patronId loanId borrowedAt due => do
      let result ← book.confirmBorrow rt reservationId generation patronId loanId
        borrowedAt due
      pure ⟨.book book, .book result.1, result.2.2⟩
  | releaseBook book reservationId generation patronId reason => do
      let result ← book.release rt reservationId generation patronId reason
      pure ⟨.book book, .book result.1, result.2.2⟩
  | returnBook book loanId reservationId generation patronId => do
      let result ← book.returnBook rt loanId reservationId generation patronId
      pure ⟨.book book, .book result.1, result.2.2⟩
  | registerPatron nextId name email registeredAt tier => do
      let result ← Patron.register nextId name email registeredAt tier
      pure ⟨.patron result.1, .patron result.1, result.2⟩
  | suspendPatron patron reason => do
      let result ← patron.suspend reason
      pure ⟨.patron patron, .patron result.1, result.2⟩
  | reinstatePatron patron => do
      let result ← patron.reinstate
      pure ⟨.patron patron, .patron result.1, result.2⟩
  | upgradeTier patron newTier => do
      let result ← patron.upgradeTier newTier
      pure ⟨.patron patron, .patron result.1, result.2⟩

/-- The arguments of `Loan.create` are already in the form it stores. -/
def Normalized (rt : PythonRuntime) : AggregateCall → Prop
  | createLoan _ patronId patronEmail catalogBookId bookTitle _ _ _ _ =>
      PyStr.strip patronId = patronId ∧
        rt.lower (PyStr.strip patronEmail) = patronEmail ∧
        PyStr.strip catalogBookId = catalogBookId ∧
        PyStr.collapse bookTitle = bookTitle
  | _ => True

end AggregateCall

/-! ## The loan -/

section Loan

variable {rt : PythonRuntime}

theorem Loan.construct_ok
    {patronId patronEmail catalogBookId bookTitle : PyStr} {dueDate : UtcDateTime}
    {borrowedAt : DateTime} {token : Uuid} {generation : ℤ} {id : Reference}
    {loan : Loan}
    (hconstruct : Loan.construct rt patronId patronEmail catalogBookId bookTitle
      dueDate borrowedAt token generation id = .ok loan) :
    loan.patron_id.val = PyStr.strip patronId ∧
      loan.patron_email.value = rt.lower (PyStr.strip patronEmail) ∧
      loan.catalog_book_id.val = PyStr.strip catalogBookId ∧
      loan.book_title.value = PyStr.collapse bookTitle ∧
      loan.due_date = dueDate ∧
      requireUtcDatetime borrowedAt (py "borrowed_at") = .ok loan.borrowed_at ∧
      loan.reservation_id = token ∧ loan.reservation_generation = generation := by
  unfold Loan.construct at hconstruct
  simp only [bind_eq_ok, throw_eq, pure_eq] at hconstruct
  obtain ⟨patron, hpatron, book, hbook, email, hemail, title, htitle, hrest⟩ :=
    hconstruct
  split at hrest
  · simp at hrest
  · simp only [bind_eq_ok] at hrest
    obtain ⟨borrowed, hborrowed, hrest⟩ := hrest
    split at hrest
    · simp at hrest
    · simp only [Except.ok.injEq] at hrest
      subst loan
      exact ⟨normalizeReference_ok hpatron, EmailAddress.parse_value hemail,
        normalizeReference_ok hbook, foldText_value htitle, rfl, hborrowed, rfl, rfl⟩

/-- `Loan.create` is sound exactly on normalised arguments. -/
theorem Loan.create_sound_iff
    {nextId : Reference} {patronId patronEmail catalogBookId bookTitle : PyStr}
    {days : ℤ} {borrowedAt : DateTime} {reservationId : PyStr} {generation : ℤ}
    {loan : Loan} {events : List AggregateEvent}
    (hcreate : Loan.create rt nextId patronId patronEmail catalogBookId bookTitle
      days borrowedAt reservationId generation = .ok (loan, events)) :
    Outcome.Sound rt ⟨.loan loan, .loan loan, events⟩ ↔
      PyStr.strip patronId = patronId ∧
        rt.lower (PyStr.strip patronEmail) = patronEmail ∧
        PyStr.strip catalogBookId = catalogBookId ∧
        PyStr.collapse bookTitle = bookTitle := by
  unfold Loan.create at hcreate
  simp only [bind_eq_ok, throw_eq, error_bind, pure_eq, guard_eq_ok,
    Except.ok.injEq] at hcreate
  obtain ⟨hgeneration, token, htoken, due, hdue, made, hmade, hpair⟩ := hcreate
  simp only [Prod.mk.injEq] at hpair
  obtain ⟨rfl, rfl⟩ := hpair
  obtain ⟨hpatron, hemail, hbook, htitle, hdueDate, hborrowed, hreservation,
    hgen⟩ := Loan.construct_ok hmade
  obtain ⟨hdenotes, hcoerce⟩ := requireUtcDatetime_ok hborrowed
  constructor
  · intro hsound
    obtain ⟨-, -, -, -, htells⟩ := hsound _ (List.mem_singleton_self _)
    obtain ⟨hpatron', hemail', hbook', htitle', -⟩ := htells
    exact ⟨hpatron.symm.trans hpatron'.symm, hemail.symm.trans hemail'.symm,
      hbook.symm.trans hbook'.symm, htitle.symm.trans htitle'.symm⟩
  · rintro ⟨hpatron', hemail', hbook', htitle'⟩ event hevent
    rw [List.mem_singleton.mp hevent]
    rw [hpatron'] at hpatron
    rw [hemail'] at hemail
    rw [hbook'] at hbook
    rw [htitle'] at htitle
    refine ⟨?_, rfl, congrArg uuidText hreservation.symm, hgen.symm, hpatron.symm,
      hemail.symm, hbook.symm, htitle.symm, hdenotes, hdueDate ▸ ofUtc_denotes _⟩
    rw [← hpatron, ← hemail, ← hbook, ← htitle]
    exact published_created made.catalog_book_id made.patron_id made.id
      made.book_title token (by omega) made.patron_email hcoerce
      (hdueDate ▸ made.borrowed_before_due)

theorem sound_nil (before after : Aggregate) :
    Outcome.Sound rt ⟨before, after, []⟩ := by
  intro event hevent
  simp at hevent

/-- The event of a call that adds exactly one. -/
theorem sound_singleton
    {before after : Aggregate} {event : AggregateEvent}
    (hpublished : event.Published rt)
    (htells : Outcome.Tells ⟨before, after, [event]⟩ event) :
    Outcome.Sound rt ⟨before, after, [event]⟩ := by
  intro other hother
  rw [List.mem_singleton.mp hother]
  exact ⟨hpublished, htells⟩

theorem Loan.returnBook_sound
    {loan : Loan} {returnedAt : DateTime} {result : Loan × Bool × List AggregateEvent}
    (hreturn : loan.returnBook returnedAt = .ok result) :
    Outcome.Sound rt ⟨.loan loan, .loan result.1, result.2.2⟩ := by
  unfold Loan.returnBook at hreturn
  simp only [throw_eq, error_bind, pure_eq] at hreturn
  split at hreturn
  · simp only [Except.ok.injEq] at hreturn
    subst result
    exact sound_nil _ _
  · simp only [guard_eq_ok, bind_eq_ok] at hreturn
    obtain ⟨-, returned, -, hreturn⟩ := hreturn
    split at hreturn
    · simp at hreturn
    · simp only [bind_eq_ok, Except.ok.injEq] at hreturn
      obtain ⟨wasOverdue, -, rfl⟩ := hreturn
      exact sound_singleton
        (published_completed _ _ _ _ loan.generation_pos _ _)
        ⟨rfl, rfl, rfl, rfl, rfl, returned, rfl, ofUtc_denotes _⟩

theorem Loan.cancel_sound
    {loan : Loan} {reason : PyStr} {result : Loan × Bool × List AggregateEvent}
    (hcancel : loan.cancel reason = .ok result) :
    Outcome.Sound rt ⟨.loan loan, .loan result.1, result.2.2⟩ := by
  unfold Loan.cancel at hcancel
  simp only [throw_eq, pure_eq] at hcancel
  split at hcancel
  · simp only [Except.ok.injEq] at hcancel
    subst result
    exact sound_nil _ _
  · split at hcancel
    · simp at hcancel
    · simp only [bind_eq_ok, Except.ok.injEq] at hcancel
      obtain ⟨text, -, rfl⟩ := hcancel
      exact sound_singleton
        (published_cancelled _ _ _ _ loan.generation_pos text)
        ⟨rfl, rfl, rfl, rfl, rfl⟩

theorem overdue_days_pos
    {due : UtcDateTime} {currentTime : DateTime} {days : ℤ}
    (hoverdue : DueDate.isOverdueAsOf due currentTime = .ok true)
    (hdays : DueDate.daysUntilDueAsOf due currentTime = .ok days) :
    1 ≤ |days| := by
  simp only [DueDate.isOverdueAsOf, DueDate.daysUntilDueAsOf, bind_eq_ok, pure_eq,
    Except.ok.injEq, decide_eq_true_eq] at hoverdue hdays
  obtain ⟨now, hnow, hlt⟩ := hoverdue
  obtain ⟨now', hnow', rfl⟩ := hdays
  rw [hnow] at hnow'
  simp only [Except.ok.injEq] at hnow'
  subst now'
  exact UtcDateTime.one_le_abs_daysBetween hlt

theorem Loan.markOverdue_sound
    {loan : Loan} {currentTime : DateTime} {result : Loan × List AggregateEvent}
    (hmark : loan.markOverdue currentTime = .ok result) :
    Outcome.Sound rt ⟨.loan loan, .loan result.1, result.2⟩ := by
  unfold Loan.markOverdue at hmark
  simp only [throw_eq, error_bind, pure_eq] at hmark
  split at hmark
  · simp only [bind_eq_ok, guard_eq_ok, Except.ok.injEq, Bool.not_eq_true',
      Bool.not_eq_false] at hmark
    obtain ⟨overdue, hoverdue, htrue, days, hdays, rfl⟩ := hmark
    rw [htrue] at hoverdue
    exact sound_singleton
      (published_overdue _ _ _ _ _ _ (overdue_days_pos hoverdue hdays))
      ⟨rfl, rfl, rfl, rfl, rfl, ofUtc_denotes _⟩
  · simp at hmark

theorem Loan.extend_sound
    {loan : Loan} {days : ℤ} {currentTime : DateTime}
    {result : Loan × List AggregateEvent}
    (hextend : loan.extend days currentTime = .ok result) :
    Outcome.Sound rt ⟨.loan loan, .loan result.1, result.2⟩ := by
  unfold Loan.extend at hextend
  simp only [throw_eq, error_bind, pure_eq, guard_eq_ok, bind_eq_ok] at hextend
  obtain ⟨-, overdue, -, -, hextend⟩ := hextend
  split at hextend
  · simp at hextend
  · rename_i due hdue
    simp only [Except.ok.injEq] at hextend
    subst result
    exact sound_singleton (published_extended _ _ _ (Loan.lt_of_extend hdue))
      ⟨rfl, rfl, rfl, ofUtc_denotes _, ofUtc_denotes _⟩

end Loan

/-! ## The book -/

section Book

variable {rt : PythonRuntime}

theorem Book.reserve_sound
    {book : Book} {nextId : Uuid} {patronId borrowerEmail : PyStr}
    {reservedAt : DateTime} {reservationId : Option PyStr}
    {result : Book × Uuid × List AggregateEvent}
    (hreserve : book.reserve rt nextId patronId borrowerEmail reservedAt
      reservationId = .ok result) :
    Outcome.Sound rt ⟨.book book, .book result.1, result.2.2⟩ := by
  unfold Book.reserve at hreserve
  simp only [throw_eq, error_bind, pure_eq, guard_eq_ok, bind_eq_ok,
    Except.ok.injEq] at hreserve
  obtain ⟨-, -, patron, -, email, -, reserved, -, token, -, rfl⟩ := hreserve
  have hpos : (1 : ℤ) ≤ (book.state.reservation_generation + 1 : ℕ) := by omega
  exact sound_singleton
    (published_reserved book.id patron book.title token hpos email reserved)
    ⟨rfl, rfl, rfl, rfl, rfl, ⟨reserved, rfl, ofUtc_denotes _⟩, rfl⟩

theorem Book.confirmBorrow_sound
    {book : Book} {reservationId : PyStr} {generation : ℤ} {patronId loanId : PyStr}
    {borrowedAt returnDueDate : DateTime} {result : Book × Bool × List AggregateEvent}
    (hconfirm : book.confirmBorrow rt reservationId generation patronId loanId
      borrowedAt returnDueDate = .ok result) :
    Outcome.Sound rt ⟨.book book, .book result.1, result.2.2⟩ := by
  unfold Book.confirmBorrow at hconfirm
  simp only [throw_eq, pure_eq, bind_eq_ok] at hconfirm
  obtain ⟨token, hmatch, loan, -, borrowed, -, due, -, hconfirm⟩ := hconfirm
  obtain ⟨-, htoken, hgeneration, hpatron⟩ := Book.requireMatchingReservation_ok hmatch
  obtain ⟨patron, hpatron, rfl⟩ := Option.map_eq_some_iff.mp hpatron
  split at hconfirm
  · split at hconfirm
    · simp at hconfirm
    · simp only [Except.ok.injEq] at hconfirm
      subst result
      exact sound_nil _ _
  · split at hconfirm
    · simp at hconfirm
    · rename_i hreserved
      split at hconfirm
      · simp at hconfirm
      · rename_i hdue
        split at hconfirm
        · simp at hconfirm
        · simp only [Except.ok.injEq] at hconfirm
          subst result
          have hstatus : book.state.status = .reserved := by
            by_contra hne
            exact hreserved (Or.inl hne)
          have hok := Book.reserved_ok hstatus
          obtain ⟨email, hemail⟩ := Option.isSome_iff_exists.mp hok.1.2.2
          have hpos : (1 : ℤ) ≤ book.state.reservation_generation := by
            exact_mod_cast hok.2.2.1
          refine sound_singleton
            (published_borrowed book.id patron loan book.title token hpos _
              (not_le.mp hdue))
            ⟨rfl, rfl, by simp [htoken], rfl, by simp [hpatron], rfl,
              ⟨borrowed, rfl, ofUtc_denotes _⟩, ⟨due, rfl, ofUtc_denotes _⟩, ?_⟩
          simp [hemail]

theorem Book.release_sound
    {book : Book} {reservationId : PyStr} {generation : ℤ} {patronId reason : PyStr}
    {result : Book × Bool × List AggregateEvent}
    (hrelease : book.release rt reservationId generation patronId reason =
      .ok result) :
    Outcome.Sound rt ⟨.book book, .book result.1, result.2.2⟩ := by
  unfold Book.release at hrelease
  simp only [throw_eq, pure_eq, bind_eq_ok] at hrelease
  obtain ⟨token, hmatch, text, -, hrelease⟩ := hrelease
  obtain ⟨-, htoken, hgeneration, hpatron⟩ := Book.requireMatchingReservation_ok hmatch
  obtain ⟨patron, hpatron, rfl⟩ := Option.map_eq_some_iff.mp hpatron
  split at hrelease
  · simp only [Except.ok.injEq] at hrelease
    subst result
    exact sound_nil _ _
  · split at hrelease
    · rename_i hstatus
      simp only [Except.ok.injEq] at hrelease
      subst result
      have hok := Book.reserved_ok hstatus
      have hpos : 1 ≤ generation := by
        have hnat := hok.2.2.1
        omega
      exact sound_singleton (published_released book.id patron token hpos text)
        ⟨rfl, by simp [htoken], hgeneration.symm, by simp [hpatron]⟩
    · simp at hrelease

theorem Book.returnBook_sound
    {book : Book} {loanId reservationId : PyStr} {generation : ℤ} {patronId : PyStr}
    {result : Book × Bool × List AggregateEvent}
    (hreturn : book.returnBook rt loanId reservationId generation patronId =
      .ok result) :
    Outcome.Sound rt ⟨.book book, .book result.1, result.2.2⟩ := by
  unfold Book.returnBook at hreturn
  simp only [throw_eq, error_bind, pure_eq, bind_eq_ok] at hreturn
  obtain ⟨loan, -, token, -, hreturn⟩ := hreturn
  split at hreturn
  · simp only [guard_eq_ok, bind_eq_ok, Except.ok.injEq] at hreturn
    obtain ⟨-, _, -, rfl⟩ := hreturn
    exact sound_nil _ _
  · split at hreturn
    · rename_i hborrowed
      simp only [bind_eq_ok, Except.ok.injEq] at hreturn
      obtain ⟨_, -, rfl⟩ := hreturn
      have hok := Book.borrowed_ok hborrowed.1
      have hpos : (1 : ℤ) ≤ book.state.reservation_generation := by
        exact_mod_cast hok.2.1
      exact sound_singleton
        (published_returned book.id _ loan _ hpos)
        ⟨rfl, rfl,
          (congrArg (Option.map uuidText) (Option.some_get hok.1.1)).symm, rfl,
          (congrArg (Option.map Subtype.val) (Option.some_get hok.1.2.1)).symm⟩
    · simp at hreturn

end Book

/-! ## The patron -/

section Patron

variable {rt : PythonRuntime}

theorem Patron.register_sound
    {nextId : Reference} {name : PatronName} {email : EmailAddress}
    {registeredAt : DateTime} {tier : MembershipTier}
    {result : Patron × List AggregateEvent}
    (hregister : Patron.register nextId name email registeredAt tier = .ok result) :
    Outcome.Sound rt ⟨.patron result.1, .patron result.1, result.2⟩ := by
  unfold Patron.register at hregister
  simp only [bind_eq_ok, pure_eq, Except.ok.injEq] at hregister
  obtain ⟨registered, -, rfl⟩ := hregister
  exact sound_singleton (published_registered _ _ _ _) ⟨rfl, rfl, rfl, rfl⟩

theorem Patron.suspend_sound
    {patron : Patron} {reason : PyStr} {result : Patron × List AggregateEvent}
    (hsuspend : patron.suspend reason = .ok result) :
    Outcome.Sound rt ⟨.patron patron, .patron result.1, result.2⟩ := by
  unfold Patron.suspend at hsuspend
  simp only [throw_eq, error_bind, pure_eq, guard_eq_ok, bind_eq_ok,
    Except.ok.injEq] at hsuspend
  obtain ⟨-, text, -, rfl⟩ := hsuspend
  exact sound_singleton (published_suspended _ text) ⟨rfl, rfl⟩

theorem Patron.reinstate_sound
    {patron : Patron} {result : Patron × List AggregateEvent}
    (hreinstate : patron.reinstate = .ok result) :
    Outcome.Sound rt ⟨.patron patron, .patron result.1, result.2⟩ := by
  unfold Patron.reinstate at hreinstate
  simp only [throw_eq, error_bind, pure_eq, guard_eq_ok, Except.ok.injEq]
    at hreinstate
  obtain ⟨-, rfl⟩ := hreinstate
  exact sound_singleton (published_reinstated _) rfl

theorem Patron.upgradeTier_sound
    {patron : Patron} {tier : MembershipTier} {result : Patron × List AggregateEvent}
    (hupgrade : patron.upgradeTier tier = .ok result) :
    Outcome.Sound rt ⟨.patron patron, .patron result.1, result.2⟩ := by
  unfold Patron.upgradeTier at hupgrade
  simp only [throw_eq, error_bind, pure_eq, guard_eq_ok, Except.ok.injEq]
    at hupgrade
  obtain ⟨-, rfl⟩ := hupgrade
  exact sound_nil _ _

end Patron

/-! ## Every call -/

/-- `Loan.create` for one patron id, everything else already normalised. -/
def createFor (patronId : PyStr) : AggregateCall :=
  .createLoan ⟨py "loan-1", by decide⟩ patronId (py "reader@example.org") (py "b1")
    (py "Dune") 14 (.ofUtc 0)
    (py "00000000-0000-0000-0000-000000000001") 1

/-- A successful call publishes true events exactly when it is not a
`Loan.create` on arguments that still need normalising. -/
theorem call_sound_iff_normalized
    (rt : PythonRuntime) (call : AggregateCall) (outcome : Outcome)
    (hrun : call.run rt = .ok outcome) :
    outcome.Sound rt ↔ call.Normalized rt := by
  cases call with
  | createLoan nextId patronId patronEmail bookId title days borrowedAt rid gen =>
      simp only [AggregateCall.run, bind_eq_ok, pure_eq, Except.ok.injEq] at hrun
      obtain ⟨⟨loan, events⟩, hcreate, rfl⟩ := hrun
      exact Loan.create_sound_iff hcreate
  | returnLoan loan returnedAt =>
      simp only [AggregateCall.run, bind_eq_ok, pure_eq, Except.ok.injEq] at hrun
      obtain ⟨result, hresult, rfl⟩ := hrun
      exact iff_of_true (Loan.returnBook_sound hresult) trivial
  | cancelLoan loan reason =>
      simp only [AggregateCall.run, bind_eq_ok, pure_eq, Except.ok.injEq] at hrun
      obtain ⟨result, hresult, rfl⟩ := hrun
      exact iff_of_true (Loan.cancel_sound hresult) trivial
  | markOverdue loan currentTime =>
      simp only [AggregateCall.run, bind_eq_ok, pure_eq, Except.ok.injEq] at hrun
      obtain ⟨result, hresult, rfl⟩ := hrun
      exact iff_of_true (Loan.markOverdue_sound hresult) trivial
  | extendLoan loan days currentTime =>
      simp only [AggregateCall.run, bind_eq_ok, pure_eq, Except.ok.injEq] at hrun
      obtain ⟨result, hresult, rfl⟩ := hrun
      exact iff_of_true (Loan.extend_sound hresult) trivial
  | reserveBook book nextId patronId email reservedAt rid =>
      simp only [AggregateCall.run, bind_eq_ok, pure_eq, Except.ok.injEq] at hrun
      obtain ⟨result, hresult, rfl⟩ := hrun
      exact iff_of_true (Book.reserve_sound hresult) trivial
  | confirmBorrow book rid gen patronId loanId borrowedAt due =>
      simp only [AggregateCall.run, bind_eq_ok, pure_eq, Except.ok.injEq] at hrun
      obtain ⟨result, hresult, rfl⟩ := hrun
      exact iff_of_true (Book.confirmBorrow_sound hresult) trivial
  | releaseBook book rid gen patronId reason =>
      simp only [AggregateCall.run, bind_eq_ok, pure_eq, Except.ok.injEq] at hrun
      obtain ⟨result, hresult, rfl⟩ := hrun
      exact iff_of_true (Book.release_sound hresult) trivial
  | returnBook book loanId rid gen patronId =>
      simp only [AggregateCall.run, bind_eq_ok, pure_eq, Except.ok.injEq] at hrun
      obtain ⟨result, hresult, rfl⟩ := hrun
      exact iff_of_true (Book.returnBook_sound hresult) trivial
  | registerPatron nextId name email registeredAt tier =>
      simp only [AggregateCall.run, bind_eq_ok, pure_eq, Except.ok.injEq] at hrun
      obtain ⟨result, hresult, rfl⟩ := hrun
      exact iff_of_true (Patron.register_sound hresult) trivial
  | suspendPatron patron reason =>
      simp only [AggregateCall.run, bind_eq_ok, pure_eq, Except.ok.injEq] at hrun
      obtain ⟨result, hresult, rfl⟩ := hrun
      exact iff_of_true (Patron.suspend_sound hresult) trivial
  | reinstatePatron patron =>
      simp only [AggregateCall.run, bind_eq_ok, pure_eq, Except.ok.injEq] at hrun
      obtain ⟨result, hresult, rfl⟩ := hrun
      exact iff_of_true (Patron.reinstate_sound hresult) trivial
  | upgradeTier patron tier =>
      simp only [AggregateCall.run, bind_eq_ok, pure_eq, Except.ok.injEq] at hrun
      obtain ⟨result, hresult, rfl⟩ := hrun
      exact iff_of_true (Patron.upgradeTier_sound hresult) trivial

theorem createFor_trimmed_sound :
    ∃ outcome, (createFor (py "p1")).run asciiRuntime = .ok outcome ∧
      outcome.Sound asciiRuntime := by
  have hsome : ((createFor (py "p1")).run asciiRuntime).toOption.isSome = true := by
    decide +kernel
  obtain ⟨outcome, hrun⟩ := ok_of_isSome hsome
  refine ⟨outcome, hrun, ?_⟩
  rw [call_sound_iff_normalized asciiRuntime _ outcome hrun]
  exact ⟨by decide, by decide, by decide, by decide⟩

theorem createFor_padded_unsound :
    ∃ outcome, (createFor (py " p1 ")).run asciiRuntime = .ok outcome ∧
      ¬ outcome.Sound asciiRuntime := by
  have hsome : ((createFor (py " p1 ")).run asciiRuntime).toOption.isSome = true := by
    decide +kernel
  obtain ⟨outcome, hrun⟩ := ok_of_isSome hsome
  refine ⟨outcome, hrun, ?_⟩
  simp only [createFor, AggregateCall.run, bind_eq_ok, pure_eq, Except.ok.injEq] at hrun
  obtain ⟨⟨loan, events⟩, hcreate, rfl⟩ := hrun
  rw [Loan.create_sound_iff hcreate]
  exact fun hnormalized => absurd hnormalized.1 (by decide)

end LibrarySystem
