import LibrarySystem.Domain.Methods
import LibrarySystem.Foundation.Result

/-!
# The history of a loan

A loan is created active.  Extensions move its due date, it may turn overdue
once, and a return or a cancellation closes it for good.  Times may go backwards
between calls; each comparison is made against the due date then in force.
-/

namespace LibrarySystem

open Result

inductive LoanCall
  | returnBook (returnedAt : DateTime)
  | cancel (reason : PyStr)
  | markOverdue (currentTime : DateTime)
  | extend (days : ℤ) (currentTime : DateTime)

abbrev LoanObject := Object LoanFields AggregateEvent

namespace LoanCall

/-- The object after the call, whether it returned or raised. -/
def perform : LoanCall → LoanObject → LoanObject
  | returnBook returnedAt, self => (LoanMethod.returnBook returnedAt self).2
  | cancel reason, self => (LoanMethod.cancel reason self).2
  | markOverdue currentTime, self => (LoanMethod.markOverdue currentTime self).2
  | extend days currentTime, self => (LoanMethod.extend days currentTime self).2

def performAll (calls : List LoanCall) (self : LoanObject) : LoanObject :=
  calls.foldl (fun self call => call.perform self) self

/-- The transition of a valid loan. -/
def answer (loan : Loan) : LoanCall → Loan × List AggregateEvent
  | returnBook returnedAt => settled loan (loan.returnBook returnedAt)
  | cancel reason => settled loan (loan.cancel reason)
  | markOverdue currentTime => settled loan (silently (loan.markOverdue currentTime))
  | extend days currentTime => settled loan (silently (loan.extend days currentTime))

theorem perform_of (call : LoanCall) (loan : Loan) (pending : List AggregateEvent) :
    call.perform (.of Loan.fields loan pending) =
      .of Loan.fields (call.answer loan).1 (pending ++ (call.answer loan).2) := by
  cases call with
  | returnBook =>
      exact Method.CarriesOut.object (LoanMethod.returnBook_carriesOut loan _) pending
  | cancel => exact Method.CarriesOut.object (LoanMethod.cancel_carriesOut loan _) pending
  | markOverdue =>
      exact Method.CarriesOut.object (LoanMethod.markOverdue_carriesOut loan _) pending
  | extend => exact Method.CarriesOut.object (LoanMethod.extend_carriesOut loan _ _) pending

theorem performAll_of (calls : List LoanCall) (loan : Loan) (pending : List AggregateEvent) :
    performAll calls (.of Loan.fields loan pending) =
      .of Loan.fields (history (fun loan call => call.answer loan) loan calls).1
        (pending ++ (history (fun loan call => call.answer loan) loan calls).2) :=
  foldl_perform perform_of calls loan pending

end LoanCall

/-! ## What one call can do -/

/-- The ways a call can change a loan, with the event each one emits. -/
inductive Loan.Advance (loan after : Loan) : LoanCall → AggregateEvent → Prop
  | completed {returnedAt : DateTime} {t : UtcDateTime}
      (hopen : loan.status ≠ .returned ∧ loan.status ≠ .cancelled)
      (ht : requireUtcDatetime returnedAt (py "returned_at") = .ok t)
      (hfields : after.fields =
        { loan.fields with status := .returned, returned_at := some t }) :
      Advance loan after (.returnBook returnedAt) (.loanCompleted
        { loan_id := loan.id.val
          reservation_id := uuidText loan.reservation_id
          reservation_generation := loan.reservation_generation
          patron_id := loan.patron_id.val
          book_id := loan.catalog_book_id.val
          returned_at := .ofUtc t
          was_overdue := decide (loan.due_date < t) })
  | cancelled {reason : PyStr} {text : BoundedText 500}
      (hopen : loan.status ≠ .returned ∧ loan.status ≠ .cancelled)
      (hfields : after.fields = { loan.fields with status := .cancelled }) :
      Advance loan after (.cancel reason) (.loanCancelled
        { loan_id := loan.id.val
          reservation_id := uuidText loan.reservation_id
          reservation_generation := loan.reservation_generation
          patron_id := loan.patron_id.val
          book_id := loan.catalog_book_id.val
          reason := text.value })
  | overdue {currentTime : DateTime} {now : UtcDateTime}
      (hactive : loan.status = .active)
      (hnow : requireUtcDatetime currentTime (py "current_time") = .ok now)
      (hpast : loan.due_date < now)
      (hfields : after.fields = { loan.fields with status := .overdue }) :
      Advance loan after (.markOverdue currentTime) (.bookOverdue
        { loan_id := loan.id.val
          patron_id := loan.patron_id.val
          patron_email := loan.patron_email.value
          book_id := loan.catalog_book_id.val
          book_title := loan.book_title.value
          due_date := .ofUtc loan.due_date
          days_overdue := |loan.due_date.daysBetween now| })
  | extended {days : ℤ} {currentTime : DateTime} {due : UtcDateTime}
      (hactive : loan.status = .active) (hlater : loan.due_date < due)
      (hfields : after.fields = { loan.fields with due_date := due }) :
      Advance loan after (.extend days currentTime) (.loanExtended
        { loan_id := loan.id.val
          patron_id := loan.patron_id.val
          book_id := loan.catalog_book_id.val
          old_due_date := .ofUtc loan.due_date
          new_due_date := .ofUtc due })

/-- A call leaves the loan as it was and emits nothing, or advances it by one event. -/
theorem LoanCall.answer_cases (loan : Loan) (call : LoanCall) :
    call.answer loan = (loan, []) ∨
      ∃ after event, call.answer loan = (after, [event]) ∧ loan.Advance after call event := by
  cases call with
  | returnBook returnedAt =>
      simp only [LoanCall.answer, Loan.returnBook]
      split
      · exact Or.inl rfl
      · rename_i hreturned
        split
        · exact Or.inl rfl
        · rename_i hcancelled
          cases ht : requireUtcDatetime returnedAt (py "returned_at") with
          | error error => exact Or.inl rfl
          | ok t =>
              simp only [ok_bind]
              split
              · exact Or.inl rfl
              · simp only [DueDate.isOverdueAsOf_ofUtc, ok_bind]
                exact Or.inr ⟨_, _, rfl, .completed ⟨hreturned, hcancelled⟩ ht rfl⟩
  | cancel reason =>
      simp only [LoanCall.answer, Loan.cancel]
      split
      · exact Or.inl rfl
      · rename_i hcancelled
        split
        · exact Or.inl rfl
        · rename_i hreturned
          cases foldText 500 (Raised.lending .invalidCancellationReason)
              (.lending .invalidCancellationReason) reason with
          | error error => exact Or.inl rfl
          | ok text => exact Or.inr ⟨_, _, rfl, .cancelled ⟨hreturned, hcancelled⟩ rfl⟩
  | markOverdue currentTime =>
      simp only [LoanCall.answer, Loan.markOverdue, silently_dite, silently_bind]
      split
      · rename_i hactive
        cases hoverdue : DueDate.isOverdueAsOf loan.due_date currentTime with
        | error error => exact Or.inl rfl
        | ok overdue =>
            obtain ⟨now, hnow, rfl, hdays⟩ := DueDate.daysUntilDueAsOf_of_overdue hoverdue
            simp only [ok_bind, silently_ite, silently_bind]
            split
            · exact Or.inl rfl
            · rename_i hpast
              rw [hdays]
              refine Or.inr ⟨_, _, rfl, .overdue hactive hnow (by simpa using hpast) rfl⟩
      · exact Or.inl rfl
  | extend days currentTime =>
      simp only [LoanCall.answer, Loan.extend, silently_ite, silently_bind]
      split
      · exact Or.inl rfl
      · rename_i hactive
        cases DueDate.isOverdueAsOf loan.due_date currentTime with
        | error error => exact Or.inl rfl
        | ok overdue =>
            simp only [ok_bind]
            split
            · exact Or.inl rfl
            · split
              · exact Or.inl rfl
              · rename_i due hextend
                exact Or.inr ⟨_, _, rfl, .extended (not_not.mp hactive)
                  (Loan.lt_of_extend hextend) rfl⟩

/-! ## The story of a loan -/

/-- The instant of the first aware datetime lies before that of the second. -/
def DateTime.Before (earlier later : DateTime) : Prop :=
  ∃ offset offset', earlier.utcoffset = some offset ∧ later.utcoffset = some offset' ∧
    DateTime.instant earlier.wall offset < DateTime.instant later.wall offset'

@[simp] theorem DateTime.before_ofUtc (t u : UtcDateTime) :
    (DateTime.ofUtc t).Before (.ofUtc u) ↔ t < u := by
  rw [Fin.lt_def]
  simp [DateTime.Before, DateTime.ofUtc, DateTime.instant, UtcOffset.zero]

/-- A loan is completed or cancelled. -/
inductive Closing
  | completed (event : LoanCompleted)
  | cancelled (event : LoanCancelled)

def Closing.event : Closing → AggregateEvent
  | completed event => .loanCompleted event
  | cancelled event => .loanCancelled event

def Closing.status : Closing → LoanStatus
  | completed _ => .returned
  | cancelled _ => .cancelled

structure LoanStory where
  created : LoanCreated
  extensions : List LoanExtended
  overdue : Option BookOverdue
  closing : Option Closing

namespace LoanStory

variable (story : LoanStory)

/-- `LoanCreated LoanExtended* BookOverdue? (LoanCompleted | LoanCancelled)?` -/
def log : List AggregateEvent :=
  .loanCreated story.created :: (story.extensions.map .loanExtended ++
    (story.overdue.toList.map .bookOverdue ++ story.closing.toList.map Closing.event))

/-- The due date after the last extension. -/
def dueDate : DateTime :=
  story.extensions.foldl (fun _ event => event.new_due_date) story.created.due_date

/-- Each extension starts from the due date before it and moves it to a later one. -/
def Chained : DateTime → List LoanExtended → Prop
  | _, [] => True
  | due, event :: rest =>
      event.old_due_date = due ∧ due.Before event.new_due_date ∧
        Chained event.new_due_date rest

structure Consistent : Prop where
  chained : Chained story.created.due_date story.extensions
  overdue : ∀ event ∈ story.overdue, event.due_date = story.dueDate ∧ 1 ≤ event.days_overdue
  completed : ∀ event, story.closing = some (.completed event) →
    (event.was_overdue = true ↔ story.dueDate.Before event.returned_at)

def status : LoanStatus :=
  match story.closing, story.overdue with
  | some closing, _ => closing.status
  | none, some _ => .overdue
  | none, none => .active

variable {story}

theorem chained_append {due : DateTime} {extensions : List LoanExtended}
    {event : LoanExtended} (hchained : Chained due extensions)
    (hold : event.old_due_date = extensions.foldl (fun _ event => event.new_due_date) due)
    (hlater : event.old_due_date.Before event.new_due_date) :
    Chained due (extensions ++ [event]) := by
  induction extensions generalizing due with
  | nil =>
      simp only [List.foldl_nil] at hold
      exact ⟨hold, hold ▸ hlater, trivial⟩
  | cons first rest ih => exact ⟨hchained.1, hchained.2.1, ih hchained.2.2 hold⟩

theorem closing_eq_none (hreturned : story.status ≠ .returned)
    (hcancelled : story.status ≠ .cancelled) : story.closing = none := by
  unfold status at hreturned hcancelled
  cases hclosing : story.closing with
  | none => rfl
  | some closing =>
      rw [hclosing] at hreturned hcancelled
      cases closing with
      | completed => exact absurd rfl hreturned
      | cancelled => exact absurd rfl hcancelled

theorem overdue_eq_none (hactive : story.status = .active) : story.overdue = none := by
  have hclosing : story.closing = none :=
    closing_eq_none (by simp [hactive]) (by simp [hactive])
  unfold status at hactive
  rw [hclosing] at hactive
  cases hoverdue : story.overdue with
  | none => rfl
  | some event =>
      rw [hoverdue] at hactive
      cases hactive

end LoanStory

/-- The log of the loan so far is a story that has come to its status and due date. -/
def Loan.Logged (loan : Loan) (log : List AggregateEvent) : Prop :=
  ∃ story : LoanStory, log = story.log ∧ story.Consistent ∧ story.status = loan.status ∧
    story.dueDate = .ofUtc loan.due_date

/-- The days past due that have started. -/
def StartedDays (due now : UtcDateTime) (days : ℤ) : Prop :=
  (days - 1) * microsPerDay < (now.val : ℤ) - due.val ∧
    (now.val : ℤ) - due.val ≤ days * microsPerDay

theorem startedDays_abs_daysBetween {due now : UtcDateTime} (hpast : due < now) :
    StartedDays due now |due.daysBetween now| := by
  rw [abs_of_neg (UtcDateTime.daysBetween_neg hpast)]
  have hday : (0 : ℤ) < microsPerDay := by decide
  have hfloor := Int.mul_ediv_add_emod ((due.val : ℤ) - now.val) microsPerDay
  have hlow := Int.emod_nonneg ((due.val : ℤ) - now.val) hday.ne'
  have hhigh := Int.emod_lt_of_pos ((due.val : ℤ) - now.val) hday
  unfold StartedDays UtcDateTime.daysBetween
  constructor <;> linarith

theorem Loan.Logged.close {loan after : Loan} {log : List AggregateEvent}
    (hlogged : loan.Logged log)
    (hopen : loan.status ≠ .returned ∧ loan.status ≠ .cancelled) (closing : Closing)
    (hcompleted : ∀ event, closing = .completed event →
      (event.was_overdue = true ↔ (DateTime.ofUtc loan.due_date).Before event.returned_at))
    (hdue : after.due_date = loan.due_date)
    (hstatus : after.status = closing.status) :
    after.Logged (log ++ [closing.event]) := by
  obtain ⟨story, rfl, hconsistent, hbefore, hdate⟩ := hlogged
  rw [← hbefore] at hopen
  have hnone := LoanStory.closing_eq_none hopen.1 hopen.2
  refine ⟨{ story with closing := some closing }, ?_, ⟨hconsistent.chained,
    hconsistent.overdue, ?_⟩, ?_, ?_⟩
  · simp [LoanStory.log, hnone]
  · intro event hevent
    rw [hcompleted event (Option.some.inj hevent), ← hdate]
    rfl
  · exact hstatus.symm
  · rw [hdue]
    exact hdate

theorem Loan.Logged.turnOverdue {loan after : Loan} {log : List AggregateEvent}
    (hlogged : loan.Logged log) (hactive : loan.status = .active) (event : BookOverdue)
    (hdue : event.due_date = .ofUtc loan.due_date) (hdays : 1 ≤ event.days_overdue)
    (hstatus : after.status = .overdue) (hsame : after.due_date = loan.due_date) :
    after.Logged (log ++ [.bookOverdue event]) := by
  obtain ⟨story, rfl, hconsistent, hbefore, hdate⟩ := hlogged
  rw [hactive] at hbefore
  have hclosing : story.closing = none :=
    LoanStory.closing_eq_none (by simp [hbefore]) (by simp [hbefore])
  have hnone := LoanStory.overdue_eq_none hbefore
  refine ⟨{ story with overdue := some event }, ?_, ⟨hconsistent.chained, ?_, ?_⟩, ?_, ?_⟩
  · simp [LoanStory.log, hnone, hclosing]
  · rintro _ ⟨⟩
    exact ⟨hdue.trans hdate.symm, hdays⟩
  · intro completed hcompleted
    rw [hclosing] at hcompleted
    cases hcompleted
  · rw [hstatus, LoanStory.status, hclosing]
  · rw [hsame]
    exact hdate

theorem Loan.Logged.extend {loan after : Loan} {log : List AggregateEvent}
    (hlogged : loan.Logged log) (hactive : loan.status = .active) (event : LoanExtended)
    (hold : event.old_due_date = .ofUtc loan.due_date)
    (hnew : event.new_due_date = .ofUtc after.due_date)
    (hlater : loan.due_date < after.due_date) (hstatus : after.status = .active) :
    after.Logged (log ++ [.loanExtended event]) := by
  obtain ⟨story, rfl, hconsistent, hbefore, hdate⟩ := hlogged
  rw [hactive] at hbefore
  have hclosing : story.closing = none :=
    LoanStory.closing_eq_none (by simp [hbefore]) (by simp [hbefore])
  have hnone := LoanStory.overdue_eq_none hbefore
  refine ⟨{ story with extensions := story.extensions ++ [event] }, ?_, ⟨?_, ?_, ?_⟩, ?_, ?_⟩
  · simp [LoanStory.log, hnone, hclosing]
  · refine LoanStory.chained_append hconsistent.chained (hold.trans hdate.symm) ?_
    rw [hold, hnew]
    exact (DateTime.before_ofUtc _ _).mpr hlater
  · intro overdue hoverdue
    rw [hnone] at hoverdue
    cases hoverdue
  · intro completed hcompleted
    rw [hclosing] at hcompleted
    cases hcompleted
  · rw [hstatus, LoanStory.status, hclosing, hnone]
  · simp [LoanStory.dueDate, hnew]

theorem Loan.Logged.advance {loan after : Loan} {log : List AggregateEvent} {call : LoanCall}
    {event : AggregateEvent} (hlogged : loan.Logged log)
    (hadvance : loan.Advance after call event) : after.Logged (log ++ [event]) := by
  cases hadvance with
  | completed hopen ht hfields =>
      refine hlogged.close hopen (.completed _) ?_ (congrArg LoanFields.due_date hfields)
        (congrArg LoanFields.status hfields)
      rintro event ⟨⟩
      simp
  | cancelled hopen hfields =>
      exact hlogged.close hopen (.cancelled _) (by rintro event ⟨⟩)
        (congrArg LoanFields.due_date hfields) (congrArg LoanFields.status hfields)
  | overdue hactive hnow hpast hfields =>
      exact hlogged.turnOverdue hactive _ rfl (UtcDateTime.one_le_abs_daysBetween hpast)
        (congrArg LoanFields.status hfields) (congrArg LoanFields.due_date hfields)
  | extended hactive hlater hfields =>
      have hdue : after.due_date = _ := congrArg LoanFields.due_date hfields
      refine hlogged.extend hactive _ rfl (congrArg DateTime.ofUtc hdue.symm) (hdue ▸ hlater) ?_
      exact (congrArg LoanFields.status hfields).trans hactive

/-! ## The loan as the log tells it -/

structure LoanView where
  status : LoanStatus
  due_date : DateTime
  returned_at : Option DateTime

def LoanFields.view (self : LoanFields) : LoanView where
  status := self.status
  due_date := .ofUtc self.due_date
  returned_at := self.returned_at.map .ofUtc

/-- The fold step of one event; a log starts with the creation. -/
def LoanView.apply (view : Option LoanView) : AggregateEvent → Option LoanView
  | .loanCreated event => some ⟨.active, event.due_date, none⟩
  | .loanExtended event => view.map fun view => { view with due_date := event.new_due_date }
  | .bookOverdue _ => view.map fun view => { view with status := .overdue }
  | .loanCompleted event =>
      view.map fun view =>
        { view with status := .returned, returned_at := some event.returned_at }
  | .loanCancelled _ => view.map fun view => { view with status := .cancelled }
  | _ => view

theorem Loan.Advance.apply_view {loan after : Loan} {call : LoanCall} {event : AggregateEvent}
    (hadvance : loan.Advance after call event) :
    LoanView.apply (some loan.fields.view) event = some after.fields.view := by
  cases hadvance with
  | completed hopen ht hfields => rw [hfields]; rfl
  | cancelled hopen hfields => rw [hfields]; rfl
  | overdue hactive hnow hpast hfields => rw [hfields]; rfl
  | extended hactive hlater hfields => rw [hfields]; rfl

/-- What the event of a call says about the loan before and after it. -/
def LoanCall.Truthful (before after : LoanFields) : LoanCall → AggregateEvent → Prop
  | returnBook returnedAt, .loanCompleted event =>
      ∃ t, requireUtcDatetime returnedAt (py "returned_at") = .ok t ∧
        after.returned_at = some t ∧ event.returned_at = .ofUtc t ∧
        (event.was_overdue = true ↔ before.due_date < t)
  | cancel _, .loanCancelled _ => True
  | markOverdue currentTime, .bookOverdue event =>
      ∃ now, requireUtcDatetime currentTime (py "current_time") = .ok now ∧
        event.due_date = .ofUtc before.due_date ∧
        StartedDays before.due_date now event.days_overdue ∧ 1 ≤ event.days_overdue
  | extend _ _, .loanExtended event =>
      event.old_due_date = .ofUtc before.due_date ∧
        event.new_due_date = .ofUtc after.due_date ∧ before.due_date < after.due_date
  | _, _ => False

theorem Loan.Advance.truthful {loan after : Loan} {call : LoanCall} {event : AggregateEvent}
    (hadvance : loan.Advance after call event) :
    call.Truthful loan.fields after.fields event := by
  cases hadvance with
  | @completed returnedAt t hopen ht hfields =>
      exact ⟨t, ht, congrArg LoanFields.returned_at hfields, rfl, decide_eq_true_iff⟩
  | cancelled => trivial
  | @overdue currentTime now hactive hnow hpast hfields =>
      exact ⟨now, hnow, rfl, startedDays_abs_daysBetween hpast,
        UtcDateTime.one_le_abs_daysBetween hpast⟩
  | extended hactive hlater hfields =>
      have hdue : after.fields.due_date = _ := congrArg LoanFields.due_date hfields
      exact ⟨rfl, congrArg DateTime.ofUtc hdue.symm, hdue ▸ hlater⟩

/-! ## Every history -/

theorem LoanCall.logged_answer {loan : Loan} {log : List AggregateEvent}
    (hlogged : loan.Logged log) (call : LoanCall) :
    (call.answer loan).1.Logged (log ++ (call.answer loan).2) := by
  rcases call.answer_cases loan with hnone | ⟨after, event, hone, hadvance⟩
  · simpa [hnone] using hlogged
  · rw [hone]
    exact hlogged.advance hadvance

theorem LoanCall.foldl_answer (loan : Loan) (call : LoanCall) :
    (call.answer loan).2.foldl LoanView.apply (some loan.fields.view) =
      some (call.answer loan).1.fields.view := by
  rcases call.answer_cases loan with hnone | ⟨after, event, hone, hadvance⟩
  · simp [hnone]
  · simpa [hone] using hadvance.apply_view

/-- A closed loan answers no call. -/
theorem LoanCall.answer_of_closed {loan : Loan}
    (hclosed : loan.status = .returned ∨ loan.status = .cancelled) (call : LoanCall) :
    call.answer loan = (loan, []) := by
  rcases call.answer_cases loan with hnone | ⟨after, event, -, hadvance⟩
  · exact hnone
  · have hopen : loan.status ≠ .returned ∧ loan.status ≠ .cancelled := by
      cases hadvance with
      | completed hopen => exact hopen
      | cancelled hopen => exact hopen
      | overdue hactive => simp [hactive]
      | extended hactive => simp [hactive]
    rcases hclosed with hreturned | hcancelled
    · exact absurd hreturned hopen.1
    · exact absurd hcancelled hopen.2

theorem LoanCall.performAll_of_closed {loan : Loan}
    (hclosed : loan.status = .returned ∨ loan.status = .cancelled) (calls : List LoanCall)
    (pending : List AggregateEvent) :
    performAll calls (.of Loan.fields loan pending) = .of Loan.fields loan pending := by
  induction calls with
  | nil => rfl
  | cons call rest ih =>
      rw [performAll, List.foldl_cons, perform_of, answer_of_closed hclosed, List.append_nil]
      exact ih

theorem Loan.create_ok {rt : PythonRuntime} {nextId : Reference}
    {patronId patronEmail catalogBookId bookTitle reservationId : PyStr} {days : ℤ}
    {borrowedAt : DateTime} {generation : ℤ} {loan : Loan} {created : List AggregateEvent}
    (hcreate : Loan.create rt nextId patronId patronEmail catalogBookId bookTitle days
      borrowedAt reservationId generation = .ok (loan, created)) :
    loan.status = .active ∧ loan.returned_at = none ∧
      ∃ event : LoanCreated, created = [.loanCreated event] ∧
        event.due_date = .ofUtc loan.due_date := by
  unfold Loan.create at hcreate
  simp only [bind_eq_ok, throw_eq, error_bind, pure_eq, guard_eq_ok, Except.ok.injEq,
    Prod.mk.injEq] at hcreate
  obtain ⟨-, token, -, due, -, built, hconstruct, rfl, rfl⟩ := hcreate
  unfold Loan.construct at hconstruct
  simp only [bind_eq_ok, throw_eq, pure_eq] at hconstruct
  obtain ⟨patron, -, book, -, email, -, title, -, hrest⟩ := hconstruct
  split at hrest
  · cases hrest
  · obtain ⟨borrowed, -, hrest⟩ := bind_eq_ok.mp hrest
    split at hrest
    · cases hrest
    · cases hrest
      exact ⟨rfl, rfl, _, rfl, rfl⟩

/-- For any calls to a loan made by the factory: its log is a consistent story, nothing
changes a closed loan, the return date goes with the status, each event tells the truth
about the call, and the log folds to the loan. -/
theorem loan_history {rt : PythonRuntime} {nextId : Reference}
    {patronId patronEmail catalogBookId bookTitle reservationId : PyStr} {days : ℤ}
    {borrowedAt : DateTime} {generation : ℤ} {loan : Loan} {created : List AggregateEvent}
    (hcreate : Loan.create rt nextId patronId patronEmail catalogBookId bookTitle days
      borrowedAt reservationId generation = .ok (loan, created)) (calls : List LoanCall) :
    let self := LoanCall.performAll calls (.of Loan.fields loan created)
    (∃ story : LoanStory, self.pending = story.log ∧ story.Consistent) ∧
      (self.fields.status = .returned ∨ self.fields.status = .cancelled →
        ∀ more, LoanCall.performAll more self = self) ∧
      (self.fields.status = .returned ↔ self.fields.returned_at.isSome) ∧
      (∀ t, self.fields.returned_at = some t → self.fields.borrowed_at ≤ t) ∧
      (∀ call event, (LoanCall.perform call self).pending = self.pending ++ [event] →
        call.Truthful self.fields (call.perform self).fields event) ∧
      self.pending.foldl LoanView.apply none = some self.fields.view := by
  obtain ⟨hactive, hnone, event, rfl, hdue⟩ := Loan.create_ok hcreate
  have hlogged : loan.Logged [.loanCreated event] :=
    ⟨⟨event, [], none, none⟩, rfl, ⟨trivial, by simp, by simp⟩, hactive.symm, hdue⟩
  rw [LoanCall.performAll_of]
  obtain ⟨story, hstory, hconsistent, -, -⟩ := history_invariant Loan.Logged
    (fun _ _ call hinv => LoanCall.logged_answer hinv call) hlogged calls
  have hfold := foldl_history (fun loan => some loan.fields.view)
    LoanCall.foldl_answer loan calls
  generalize history (fun loan (call : LoanCall) => call.answer loan) loan calls = last
    at hstory hfold ⊢
  obtain ⟨after, log⟩ := last
  refine ⟨⟨story, hstory, hconsistent⟩, fun hclosed more =>
    LoanCall.performAll_of_closed hclosed more _, after.returned_iff,
    after.borrowed_before_return, ?_, ?_⟩
  · intro call emitted hemitted
    rw [LoanCall.perform_of] at hemitted ⊢
    rcases call.answer_cases after with hquiet | ⟨next, said, hsaid, hadvance⟩
    · simp [hquiet, Object.of] at hemitted
    · rw [hsaid] at hemitted ⊢
      obtain rfl : said = emitted := by simpa [Object.of] using hemitted
      exact hadvance.truthful
  · have hview : loan.fields.view = ⟨.active, event.due_date, none⟩ := by
      simp [LoanFields.view, Loan.fields, hactive, hnone, hdue]
    rw [hview] at hfold
    exact hfold

def lentReading : Except Raised (Loan × List AggregateEvent) :=
  Loan.create asciiRuntime (uuidReference 5) (py "p1") (py "ann@lee.org") (py "b1")
    (py "Emma") 14 (.ofUtc 0) (uuidText 9) 1

/-- Two extensions, the second one too late, then an overdue return. -/
def lendingCalls : List LoanCall :=
  [.extend 7 (.ofUtc 1), .markOverdue (.ofUtc (Fin.ofNat wallSpan (22 * microsPerDay))),
    .extend 7 (.ofUtc 2), .returnBook (.ofUtc (Fin.ofNat wallSpan (23 * microsPerDay)))]

theorem loan_history_lent :
    ∃ loan created, lentReading = .ok (loan, created) ∧
      let self := LoanCall.performAll lendingCalls (.of Loan.fields loan created)
      self.pending.length = 4 ∧
      (∃ story : LoanStory, self.pending = story.log ∧ story.Consistent) ∧
      (self.fields.status = .returned ∨ self.fields.status = .cancelled →
        ∀ more, LoanCall.performAll more self = self) ∧
      (self.fields.status = .returned ↔ self.fields.returned_at.isSome) ∧
      (∀ t, self.fields.returned_at = some t → self.fields.borrowed_at ≤ t) ∧
      (∀ call event, (LoanCall.perform call self).pending = self.pending ++ [event] →
        call.Truthful self.fields (call.perform self).fields event) ∧
      self.pending.foldl LoanView.apply none = some self.fields.view := by
  have hlength : (lentReading.toOption.map fun made => (LoanCall.performAll lendingCalls
      (.of Loan.fields made.1 made.2)).pending.length) = some 4 := by decide +kernel
  obtain ⟨⟨loan, created⟩, hmade, hlength⟩ := Option.map_eq_some_iff.mp hlength
  have hcreate : lentReading = .ok (loan, created) := ok_of_toOption hmade
  exact ⟨loan, created, hcreate, hlength, loan_history hcreate lendingCalls⟩

end LibrarySystem
