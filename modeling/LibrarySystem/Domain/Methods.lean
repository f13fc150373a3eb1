import LibrarySystem.Domain.Catalog
import LibrarySystem.Domain.Lending
import LibrarySystem.Domain.Patron
import LibrarySystem.Foundation.Method

/-!
# The methods of the aggregates, statement by statement

The transitions of the aggregates compute the state after the call.  The methods
assign one field after the other and append their event last, and what they
assigned stays when a later statement raises.  Each method carries out its
transition: every check that can fail stands before the first assignment.
-/

namespace LibrarySystem

/-! ## Book -/

/-- The public fields of a book. -/
structure BookFields where
  title : BoundedText 100
  author : BoundedText 200
  id : Reference
  state : BookState
  last_completed_loan_id : Option Reference

def Book.fields (book : Book) : BookFields where
  title := book.title
  author := book.author
  id := book.id
  state := book.state
  last_completed_loan_id := book.last_completed_loan_id

abbrev BookMethod := Method BookFields AggregateEvent Raised

namespace BookMethod

def assign (update : BookState → BookState) : BookMethod Unit :=
  Method.assign fun self => { self with state := update self.state }

/-- `Book.reserve` -/
def reserve (rt : PythonRuntime) (nextId : Uuid) (patronId borrowerEmail : PyStr)
    (reservedAt : DateTime) (reservationId : Option PyStr) : BookMethod Uuid := do
  let self ← Method.read id
  if self.state.status ≠ .available then
    throw (.catalog (.bookAlreadyBorrowed self.id.val))
  if PyStr.strip borrowerEmail = [] then
    throw (.catalog .borrowerEmailRequired)
  let patronId ← Method.check (Book.normalizeReference patronId (py "patron_id"))
  let borrowerEmail ← Method.check (EmailAddress.parse rt borrowerEmail)
  let reservedAt ← Method.check (requireUtcDatetime reservedAt (py "reserved_at"))
  let token ← Method.check (Book.drawReservationId rt nextId reservationId)
  assign fun state => { state with status := .reserved }
  assign fun state => { state with reserved_at := some reservedAt }
  assign fun state => { state with borrowed_at := none }
  assign fun state => { state with return_due_date := none }
  assign fun state => { state with reservation_id := some token }
  assign fun state =>
    { state with reservation_generation := state.reservation_generation + 1 }
  assign fun state => { state with reserved_patron_id := some patronId }
  assign fun state => { state with reserved_patron_email := some borrowerEmail }
  assign fun state => { state with current_loan_id := none }
  let self ← Method.read id
  Method.addEvent (.catalogBookReserved
    { book_id := self.id.val
      title := self.title.value
      reservation_id := uuidText token
      reservation_generation := self.state.reservation_generation
      patron_id := patronId.val
      reserved_at := .ofUtc reservedAt
      borrower_email := borrowerEmail.value })
  pure token

/-- `Book._require_matching_reservation` -/
def requireMatchingReservation (rt : PythonRuntime) (self : BookFields)
    (reservationId : PyStr) (reservationGeneration : ℤ) (patronId operation : PyStr) :
    Except Raised Uuid := do
  let token ← Book.parseReservationId rt reservationId
  if self.state.reservation_id = some token ∧
      (self.state.reservation_generation : ℤ) = reservationGeneration ∧
      self.state.reserved_patron_id.map Subtype.val = some patronId then
    pure token
  else
    throw (.catalog (.staleReservation self.id.val (uuidText token)
      reservationGeneration operation))

/-- `Book.confirm_borrow`; a book whose borrower has no address fails the assertion. -/
def confirmBorrow (rt : PythonRuntime) (reservationId : PyStr)
    (reservationGeneration : ℤ) (patronId loanId : PyStr)
    (borrowedAt returnDueDate : DateTime) : BookMethod Bool := do
  let self ← Method.read id
  let token ← Method.check (requireMatchingReservation rt self reservationId
    reservationGeneration patronId (py "confirm borrow"))
  let loanId ← Method.check (Book.normalizeReference loanId (py "loan_id"))
  let borrowedAt ← Method.check (requireUtcDatetime borrowedAt (py "borrowed_at"))
  let returnDueDate ← Method.check (requireUtcDatetime returnDueDate (py "return_due_date"))
  let stale := Raised.catalog (.staleReservation self.id.val (uuidText token)
    reservationGeneration (py "confirm borrow"))
  if self.state.status = .borrowed ∧ self.state.current_loan_id = some loanId then
    if self.state.borrowed_at ≠ some borrowedAt ∨
        self.state.return_due_date ≠ some returnDueDate then
      throw stale
    else
      return false
  if self.state.status ≠ .reserved ∨ self.state.current_loan_id.isSome then
    throw stale
  if returnDueDate ≤ borrowedAt then
    throw (.catalog .invalidBorrowPeriod)
  if ∃ reserved ∈ self.state.reserved_at, borrowedAt < reserved then
    throw (.catalog .invalidBorrowPeriod)
  match self.state.reserved_patron_email with
  | none => throw (.python .assertionError)
  | some borrowerEmail =>
    assign fun state => { state with status := .borrowed }
    assign fun state => { state with reserved_at := none }
    assign fun state => { state with current_loan_id := some loanId }
    assign fun state => { state with borrowed_at := some borrowedAt }
    assign fun state => { state with return_due_date := some returnDueDate }
    let self ← Method.read id
    Method.addEvent (.catalogBookBorrowed
      { book_id := self.id.val
        title := self.title.value
        reservation_id := uuidText token
        reservation_generation := self.state.reservation_generation
        patron_id := patronId
        loan_id := loanId.val
        borrowed_at := .ofUtc borrowedAt
        return_due_date := .ofUtc returnDueDate
        borrower_email := borrowerEmail.value })
    pure true

/-- `Book.release` -/
def release (rt : PythonRuntime) (reservationId : PyStr)
    (reservationGeneration : ℤ) (patronId reason : PyStr) : BookMethod Bool := do
  let self ← Method.read id
  let token ← Method.check (requireMatchingReservation rt self reservationId
    reservationGeneration patronId (py "release reservation"))
  let invalidReason := Raised.catalog .invalidReservationReason
  let reason ← Method.check (foldText 500 invalidReason invalidReason reason)
  if self.state.status = .available then return false
  if self.state.status ≠ .reserved then
    throw (.catalog (.staleReservation self.id.val (uuidText token)
      reservationGeneration (py "release reservation")))
  assign fun state => { state with status := .available }
  assign fun state => { state with reserved_at := none }
  assign fun state => { state with borrowed_at := none }
  assign fun state => { state with return_due_date := none }
  Method.addEvent (.catalogBookReleased
    { book_id := self.id.val
      reservation_id := uuidText token
      reservation_generation := reservationGeneration
      patron_id := patronId
      reason := reason.value })
  pure true

/-- `Book._require_return_correlation` -/
def requireReturnCorrelation (self : BookFields) (loanId : Reference) (token : Uuid)
    (reservationGeneration : ℤ) (patronId : PyStr) : Except Raised Unit :=
  let mismatches : List PyStr :=
    (if self.state.reservation_id = some token then [] else [py "reservation_id"]) ++
      (if (self.state.reservation_generation : ℤ) = reservationGeneration then []
        else [py "reservation_generation"]) ++
      (if self.state.reserved_patron_id.map Subtype.val = some patronId then []
        else [py "patron_id"])
  if mismatches = [] then .ok ()
  else
    .error (.catalog (.loanCorrelationMismatch self.id.val loanId.val
      ((py ", ").intercalate mismatches ++ py " differ")))

/-- `Book.return_book`; both assertions stand before the first assignment. -/
def returnBook (rt : PythonRuntime) (loanId reservationId : PyStr)
    (reservationGeneration : ℤ) (patronId : PyStr) : BookMethod Bool := do
  let loanId ← Method.check (Book.normalizeReference loanId (py "loan_id"))
  let token ← Method.check (Book.parseReservationId rt reservationId)
  let self ← Method.read id
  let stale := Raised.catalog (.staleLoanCompletion self.id.val loanId.val)
  if self.state.status = .available ∧ self.last_completed_loan_id = some loanId then
    if reservationGeneration < self.state.reservation_generation then throw stale
    Method.check (requireReturnCorrelation self loanId token reservationGeneration patronId)
    return false
  if ¬ (self.state.status = .borrowed ∧ self.state.current_loan_id = some loanId) then
    throw stale
  Method.check (requireReturnCorrelation self loanId token reservationGeneration patronId)
  match self.state.reservation_id, self.state.reserved_patron_id with
  | some reservationId, some patronId =>
    assign fun state => { state with status := .available }
    assign fun state => { state with borrowed_at := none }
    assign fun state => { state with return_due_date := none }
    assign fun state => { state with current_loan_id := none }
    Method.assign fun self => { self with last_completed_loan_id := some loanId }
    let self ← Method.read id
    Method.addEvent (.catalogBookReturned
      { book_id := self.id.val
        loan_id := loanId.val
        reservation_id := uuidText reservationId
        reservation_generation := self.state.reservation_generation
        patron_id := patronId.val })
    pure true
  | _, _ => throw (.python .assertionError)

variable (rt : PythonRuntime) (book : Book)

theorem reserve_carriesOut (nextId : Uuid) (patronId borrowerEmail : PyStr)
    (reservedAt : DateTime) (reservationId : Option PyStr) :
    (reserve rt nextId patronId borrowerEmail reservedAt reservationId).CarriesOut
      Book.fields book
      (Book.reserve rt nextId book patronId borrowerEmail reservedAt reservationId) := by
  unfold reserve Book.reserve
  apply Method.CarriesOut.read
  refine .ite (fun _ => .raise_bind) fun _ => ?_
  refine .ite (fun _ => .raise_bind) fun _ => ?_
  refine .check _ fun patron _ => ?_
  refine .check _ fun email _ => ?_
  refine .check _ fun reserved _ => ?_
  exact .check _ fun token _ pending => rfl

theorem confirmBorrow_carriesOut (reservationId : PyStr) (reservationGeneration : ℤ)
    (patronId loanId : PyStr) (borrowedAt returnDueDate : DateTime) :
    (confirmBorrow rt reservationId reservationGeneration patronId loanId borrowedAt
      returnDueDate).CarriesOut Book.fields book
      (Book.confirmBorrow rt book reservationId reservationGeneration patronId loanId
        borrowedAt returnDueDate) := by
  unfold confirmBorrow Book.confirmBorrow
  apply Method.CarriesOut.read
  refine .check (Book.requireMatchingReservation rt book _ _ _ _) fun token _ => ?_
  refine .check _ fun loan _ => ?_
  refine .check _ fun borrowed _ => ?_
  refine .check _ fun due _ => ?_
  refine .ite (fun _ => .ite (fun _ => .raise) fun _ => .unchanged) fun _ => ?_
  refine .dite (fun _ => .raise_bind) fun hreserved => ?_
  refine .dite (fun _ => .raise_bind) fun hdue => ?_
  refine .ite (fun _ => .raise_bind) fun _ => ?_
  have hstatus : book.state.status = .reserved := by
    by_contra hne
    exact hreserved (Or.inl hne)
  obtain ⟨email, hemail⟩ := Option.isSome_iff_exists.mp (Book.reserved_ok hstatus).1.2.2
  have hstored : (Book.fields book).state.reserved_patron_email = some email := hemail
  have hget : ∀ hsome, book.state.reserved_patron_email.get hsome = email :=
    fun hsome => Option.get_of_eq_some hsome hemail
  simp only [id_eq, hstored, hget]
  exact fun pending => rfl

theorem release_carriesOut (reservationId : PyStr) (reservationGeneration : ℤ)
    (patronId reason : PyStr) :
    (release rt reservationId reservationGeneration patronId reason).CarriesOut
      Book.fields book
      (Book.release rt book reservationId reservationGeneration patronId reason) := by
  unfold release Book.release
  apply Method.CarriesOut.read
  refine .check (Book.requireMatchingReservation rt book _ _ _ _) fun token _ => ?_
  refine .check _ fun text _ => ?_
  refine .ite (fun _ => .unchanged) fun _ => ?_
  by_cases hstatus : book.state.status = .reserved
  · have hstored : (Book.fields book).state.status = .reserved := hstatus
    simp only [id_eq, hstored, hstatus, ne_eq, not_true_eq_false, if_false, dif_pos]
    exact fun pending => rfl
  · have hstored : (Book.fields book).state.status ≠ .reserved := hstatus
    simp only [id_eq, hstored, hstatus, ne_eq, not_false_eq_true, if_true, dif_neg]
    exact .raise_bind

theorem returnBook_carriesOut (loanId reservationId : PyStr) (reservationGeneration : ℤ)
    (patronId : PyStr) :
    (returnBook rt loanId reservationId reservationGeneration patronId).CarriesOut
      Book.fields book
      (Book.returnBook rt book loanId reservationId reservationGeneration patronId) := by
  unfold returnBook Book.returnBook
  refine .check _ fun loan _ => ?_
  refine .check _ fun token _ => ?_
  apply Method.CarriesOut.read
  refine .ite (fun _ => ?_) fun _ => ?_
  · refine .ite (fun _ => .raise_bind) fun _ => ?_
    exact .check (Book.requireReturnCorrelation book loan token _ _)
      fun _ _ => .unchanged
  · by_cases hborrowed : book.state.status = .borrowed ∧
        book.state.current_loan_id = some loan
    · have hstored : (Book.fields book).state.status = .borrowed ∧
          (Book.fields book).state.current_loan_id = some loan := hborrowed
      simp only [id_eq, hstored, hborrowed, and_self, not_true_eq_false, if_false, dif_pos]
      refine .check (Book.requireReturnCorrelation book loan token _ _) fun _ _ => ?_
      have hok := (Book.borrowed_ok hborrowed.1).1
      obtain ⟨reservation, hreservation⟩ := Option.isSome_iff_exists.mp hok.1
      obtain ⟨patron, hpatron⟩ := Option.isSome_iff_exists.mp hok.2.1
      have hsaved : (Book.fields book).state.reservation_id = some reservation := hreservation
      have hholder : (Book.fields book).state.reserved_patron_id = some patron := hpatron
      have hget : ∀ hsome, book.state.reservation_id.get hsome = reservation :=
        fun hsome => Option.get_of_eq_some hsome hreservation
      have hgetPatron : ∀ hsome, book.state.reserved_patron_id.get hsome = patron :=
        fun hsome => Option.get_of_eq_some hsome hpatron
      simp only [hsaved, hholder, hget, hgetPatron]
      exact fun pending => rfl
    · have hstored : ¬ ((Book.fields book).state.status = .borrowed ∧
          (Book.fields book).state.current_loan_id = some loan) := hborrowed
      rw [dif_neg hborrowed]
      simp only [id_eq, hstored, not_false_eq_true, if_true]
      exact .raise_bind

end BookMethod

/-! ## Loan -/

/-- The public fields of a loan. -/
structure LoanFields where
  patron_id : Reference
  patron_email : EmailAddress
  catalog_book_id : Reference
  book_title : BoundedText 100
  due_date : UtcDateTime
  borrowed_at : UtcDateTime
  reservation_id : Uuid
  reservation_generation : ℤ
  id : Reference
  status : LoanStatus
  returned_at : Option UtcDateTime

def Loan.fields (loan : Loan) : LoanFields where
  patron_id := loan.patron_id
  patron_email := loan.patron_email
  catalog_book_id := loan.catalog_book_id
  book_title := loan.book_title
  due_date := loan.due_date
  borrowed_at := loan.borrowed_at
  reservation_id := loan.reservation_id
  reservation_generation := loan.reservation_generation
  id := loan.id
  status := loan.status
  returned_at := loan.returned_at

/-- The comparison of a stored due date with a stored instant cannot raise. -/
theorem DueDate.isOverdueAsOf_ofUtc (due t : UtcDateTime) :
    DueDate.isOverdueAsOf due (.ofUtc t) = .ok (decide (due < t)) := by
  unfold DueDate.isOverdueAsOf
  rw [requireUtcDatetime_ofUtc]
  rfl

/-- The days are counted from the instant that was compared. -/
theorem DueDate.daysUntilDueAsOf_of_overdue {due : UtcDateTime} {currentTime : DateTime}
    {overdue : Bool} (hoverdue : DueDate.isOverdueAsOf due currentTime = .ok overdue) :
    ∃ now, requireUtcDatetime currentTime (py "current_time") = .ok now ∧
      overdue = decide (due < now) ∧
      DueDate.daysUntilDueAsOf due currentTime = .ok (due.daysBetween now) := by
  unfold DueDate.isOverdueAsOf at hoverdue
  cases hnow : requireUtcDatetime currentTime (py "current_time") with
  | error error =>
      rw [hnow] at hoverdue
      cases hoverdue
  | ok now =>
      rw [hnow] at hoverdue
      cases hoverdue
      refine ⟨now, rfl, rfl, ?_⟩
      rw [DueDate.daysUntilDueAsOf, hnow]
      rfl

abbrev LoanMethod := Method LoanFields AggregateEvent Raised

namespace LoanMethod

/-- `Loan.return_book` -/
def returnBook (returnedAt : DateTime) : LoanMethod Bool := do
  let self ← Method.read id
  if self.status = .returned then return false
  if self.status = .cancelled then
    throw (.lending (.loanNotActive self.id.val (py "return")))
  let returnedAt ← Method.check (requireUtcDatetime returnedAt (py "returned_at"))
  if returnedAt < self.borrowed_at then
    throw (.lending (.invalidLoanReturnDate self.id.val))
  Method.assign fun self => { self with status := .returned }
  Method.assign fun self => { self with returned_at := some returnedAt }
  let self ← Method.read id
  let wasOverdue ← Method.check (DueDate.isOverdueAsOf self.due_date (.ofUtc returnedAt))
  Method.addEvent (.loanCompleted
    { loan_id := self.id.val
      reservation_id := uuidText self.reservation_id
      reservation_generation := self.reservation_generation
      patron_id := self.patron_id.val
      book_id := self.catalog_book_id.val
      returned_at := .ofUtc returnedAt
      was_overdue := wasOverdue })
  pure true

/-- `Loan.cancel` -/
def cancel (reason : PyStr) : LoanMethod Bool := do
  let self ← Method.read id
  if self.status = .cancelled then return false
  if self.status = .returned then
    throw (.lending (.loanNotActive self.id.val (py "cancel")))
  let invalidReason := Raised.lending .invalidCancellationReason
  let reason ← Method.check (foldText 500 invalidReason invalidReason reason)
  Method.assign fun self => { self with status := .cancelled }
  let self ← Method.read id
  Method.addEvent (.loanCancelled
    { loan_id := self.id.val
      reservation_id := uuidText self.reservation_id
      reservation_generation := self.reservation_generation
      patron_id := self.patron_id.val
      book_id := self.catalog_book_id.val
      reason := reason.value })
  pure true

/-- `Loan.mark_overdue`; the days are counted after the status is set. -/
def markOverdue (currentTime : DateTime) : LoanMethod Unit := do
  let self ← Method.read id
  if self.status ≠ .active then
    throw (.lending (.loanNotActive self.id.val (py "mark as overdue")))
  let overdue ← Method.check (DueDate.isOverdueAsOf self.due_date currentTime)
  if !overdue then throw (.lending (.loanNotOverdue self.id.val))
  Method.assign fun self => { self with status := .overdue }
  let self ← Method.read id
  let days ← Method.check (DueDate.daysUntilDueAsOf self.due_date currentTime)
  Method.addEvent (.bookOverdue
    { loan_id := self.id.val
      patron_id := self.patron_id.val
      patron_email := self.patron_email.value
      book_id := self.catalog_book_id.val
      book_title := self.book_title.value
      due_date := .ofUtc self.due_date
      days_overdue := |days| })

/-- `Loan.extend` -/
def extend (days : ℤ) (currentTime : DateTime) : LoanMethod Unit := do
  let self ← Method.read id
  if self.status ≠ .active then
    throw (.lending (.loanNotActive self.id.val (py "extend")))
  let overdue ← Method.check (DueDate.isOverdueAsOf self.due_date currentTime)
  if overdue then throw (.lending (.cannotExtendOverdueLoan self.id.val))
  let oldDueDate := self.due_date
  let dueDate ← Method.check (DueDate.extend self.due_date days)
  Method.assign fun self => { self with due_date := dueDate }
  let self ← Method.read id
  Method.addEvent (.loanExtended
    { loan_id := self.id.val
      patron_id := self.patron_id.val
      book_id := self.catalog_book_id.val
      old_due_date := .ofUtc oldDueDate
      new_due_date := .ofUtc self.due_date })

variable (loan : Loan)

theorem returnBook_carriesOut (returnedAt : DateTime) :
    (returnBook returnedAt).CarriesOut Loan.fields loan (loan.returnBook returnedAt) := by
  unfold returnBook Loan.returnBook
  apply Method.CarriesOut.read
  refine .ite (fun _ => .unchanged) fun _ => ?_
  refine .ite (fun _ => .raise_bind) fun _ => ?_
  refine .check _ fun returned _ => ?_
  refine .dite (fun _ => .raise_bind) fun _ => ?_
  simp only [DueDate.isOverdueAsOf_ofUtc]
  exact fun pending => rfl

theorem cancel_carriesOut (reason : PyStr) :
    (cancel reason).CarriesOut Loan.fields loan (loan.cancel reason) := by
  unfold cancel Loan.cancel
  apply Method.CarriesOut.read
  refine .ite (fun _ => .unchanged) fun _ => ?_
  refine .dite (fun _ => .raise_bind) fun _ => ?_
  exact .check _ fun text _ pending => rfl

theorem markOverdue_carriesOut (currentTime : DateTime) :
    (markOverdue currentTime).CarriesOut Loan.fields loan
      (silently (loan.markOverdue currentTime)) := by
  unfold markOverdue Loan.markOverdue
  apply Method.CarriesOut.read
  by_cases hactive : loan.status = .active
  · have hstored : (Loan.fields loan).status = .active := hactive
    simp only [id_eq, hstored, hactive, ne_eq, not_true_eq_false, if_false, dif_pos,
      silently_bind]
    refine .check (DueDate.isOverdueAsOf loan.due_date currentTime)
      fun overdue hoverdue => ?_
    simp only [silently_ite, silently_bind]
    refine .ite (fun _ => .raise_bind) fun _ => ?_
    obtain ⟨now, -, -, hdays⟩ := DueDate.daysUntilDueAsOf_of_overdue hoverdue
    rw [hdays]
    exact fun pending => (Method.bind_check_ok hdays _ _).trans rfl
  · have hstored : (Loan.fields loan).status ≠ .active := hactive
    simp only [id_eq, hstored, hactive, ne_eq, not_false_eq_true, if_true, dif_neg]
    exact .raise_bind

theorem extend_carriesOut (days : ℤ) (currentTime : DateTime) :
    (extend days currentTime).CarriesOut Loan.fields loan
      (silently (loan.extend days currentTime)) := by
  unfold extend Loan.extend
  simp only [silently_ite, silently_bind]
  apply Method.CarriesOut.read
  refine .ite (fun _ => .raise_bind) fun _ => ?_
  refine .check _ fun overdue _ => ?_
  refine .ite (fun _ => .raise_bind) fun _ => ?_
  intro pending
  split
  · rename_i error hextend
    exact Method.bind_check_error hextend _ _
  · rename_i due hextend
    exact (Method.bind_check_ok hextend _ _).trans rfl

end LoanMethod

/-! ## Patron -/

/-- The public fields of a patron. -/
structure PatronFields where
  name : PatronName
  email : EmailAddress
  registered_at : UtcDateTime
  id : Reference
  membership_tier : MembershipTier
  is_suspended : Bool
  suspended_reason : Option (BoundedText 500)

def Patron.fields (patron : Patron) : PatronFields where
  name := patron.name
  email := patron.email
  registered_at := patron.registered_at
  id := patron.id
  membership_tier := patron.membership_tier
  is_suspended := patron.isSuspended
  suspended_reason := patron.suspended_reason

abbrev PatronMethod := Method PatronFields AggregateEvent Raised

namespace PatronMethod

/-- `Patron.suspend` -/
def suspend (reason : PyStr) : PatronMethod Unit := do
  let self ← Method.read id
  if self.is_suspended then
    throw (.patron (.patronAlreadySuspended self.id.val))
  let invalidReason := Raised.patron .invalidSuspensionReason
  let reason ← Method.check (foldText 500 invalidReason invalidReason reason)
  Method.assign fun self => { self with is_suspended := true }
  Method.assign fun self => { self with suspended_reason := some reason }
  Method.addEvent (.patronSuspended { patron_id := self.id.val, reason := reason.value })

/-- `Patron.reinstate` -/
def reinstate : PatronMethod Unit := do
  let self ← Method.read id
  if !self.is_suspended then
    throw (.patron (.patronNotSuspended self.id.val))
  Method.assign fun self => { self with is_suspended := false }
  Method.assign fun self => { self with suspended_reason := none }
  Method.addEvent (.patronReinstated { patron_id := self.id.val })

/-- `Patron.upgrade_tier` -/
def upgradeTier (newTier : MembershipTier) : PatronMethod Unit := do
  let self ← Method.read id
  if newTier.progression ≤ self.membership_tier.progression then
    throw (.patron (.invalidTierUpgrade self.membership_tier.value newTier.value))
  Method.assign fun self => { self with membership_tier := newTier }

variable (patron : Patron)

theorem suspend_carriesOut (reason : PyStr) :
    (suspend reason).CarriesOut Patron.fields patron
      (silently (patron.suspend reason)) := by
  unfold suspend Patron.suspend
  simp only [silently_ite, silently_bind]
  apply Method.CarriesOut.read
  refine .ite (fun _ => .raise_bind) fun _ => ?_
  exact .check _ fun text _ pending => rfl

theorem reinstate_carriesOut :
    reinstate.CarriesOut Patron.fields patron (silently patron.reinstate) := by
  unfold reinstate Patron.reinstate
  simp only [silently_ite, silently_bind]
  apply Method.CarriesOut.read
  exact .ite (fun _ => .raise_bind) fun _ pending => rfl

theorem upgradeTier_carriesOut (newTier : MembershipTier) :
    (upgradeTier newTier).CarriesOut Patron.fields patron
      (silently (patron.upgradeTier newTier)) := by
  unfold upgradeTier Patron.upgradeTier
  simp only [silently_ite, silently_bind]
  apply Method.CarriesOut.read
  refine .ite (fun _ => .raise_bind) fun _ pending => ?_
  exact Prod.ext rfl (Object.ext rfl (List.append_nil pending).symm)

end PatronMethod

end LibrarySystem
