import LibrarySystem.Domain.Catalog
import LibrarySystem.Domain.Lending
import LibrarySystem.Domain.Patron

/-!
# Rows of the aggregates

Each model has the columns of its table.  `ofEntity` gives the row that is
inserted, `write` the row after the repository's UPDATE, which sets some of the
columns only, and `toEntity` the hydrated aggregate with the checks of its
constructor.
-/

namespace LibrarySystem

instance (state : BookState) : Decidable state.correlated :=
  inferInstanceAs (Decidable (_ ∧ _ ∧ _))

/-- The dates of a borrowed book. -/
def BookState.periodOk (state : BookState) : Bool :=
  match state.borrowed_at, state.return_due_date with
  | some borrowed, some due => borrowed < due
  | _, _ => false

theorem BookState.periodOk_iff (state : BookState) :
    state.periodOk = true ↔ ∃ borrowed due, state.borrowed_at = some borrowed ∧
      state.return_due_date = some due ∧ borrowed < due := by
  unfold periodOk
  cases state.borrowed_at <;> cases state.return_due_date <;> simp

instance (state : BookState) : Decidable state.Ok :=
  match hstatus : state.status with
  | .available =>
      decidable_of_iff
        (state.reserved_at = none ∧ state.borrowed_at = none ∧
          state.return_due_date = none ∧ state.current_loan_id = none ∧
          (state.correlated ∨
            (state.reservation_id = none ∧ state.reserved_patron_id = none ∧
              state.reserved_patron_email = none)))
        (by simp only [BookState.Ok, hstatus])
  | .reserved =>
      decidable_of_iff
        (state.correlated ∧ state.reserved_at.isSome ∧
          1 ≤ state.reservation_generation ∧ state.borrowed_at = none ∧
          state.return_due_date = none ∧ state.current_loan_id = none)
        (by simp only [BookState.Ok, hstatus])
  | .borrowed =>
      decidable_of_iff
        (state.correlated ∧ 1 ≤ state.reservation_generation ∧
          state.reserved_at = none ∧ state.current_loan_id.isSome ∧
          state.periodOk = true)
        (by simp only [BookState.Ok, hstatus, state.periodOk_iff])

/-- What `_validate_state` says about a state that is not valid. -/
def BookState.invalidDetail (state : BookState) : PyStr :=
  match state.status with
  | .available =>
      if state.reserved_at.isSome || state.borrowed_at.isSome ||
          state.return_due_date.isSome || state.current_loan_id.isSome then
        py "available book retains an active lifecycle field"
      else py "historical reservation correlation is incomplete"
  | .reserved => py "reserved book lacks exact reservation state"
  | .borrowed => py "borrowed book lacks exact loan correlation and dates"

/-- `books` -/
structure BookRow where
  id : Reference
  title : BoundedText 100
  author : BoundedText 200
  state : BookState
  last_completed_loan_id : Option Reference
  version : ℕ

namespace BookRow

def ofEntity (book : Book) (version : ℕ) : BookRow :=
  { id := book.id
    title := book.title
    author := book.author
    state := book.state
    last_completed_loan_id := book.last_completed_loan_id
    version := version }

def toEntity (row : BookRow) : Except Raised Book :=
  if hvalid : row.state.Ok then
    .ok
      { id := row.id
        title := row.title
        author := row.author
        state := row.state
        last_completed_loan_id := row.last_completed_loan_id
        valid := hvalid }
  else .error (.catalog (.invalidCatalogState row.state.invalidDetail))

/-- The columns of `BookCommandRepository.update`. -/
def write (row : BookRow) (book : Book) : BookRow :=
  { row with
    state := book.state
    last_completed_loan_id := book.last_completed_loan_id
    version := row.version + 1 }

theorem toEntity_eq_ok_iff (row : BookRow) (book : Book) :
    row.toEntity = .ok book ↔ row = ofEntity book row.version := by
  unfold toEntity
  constructor
  · intro hrow
    split at hrow
    · cases hrow
      rfl
    · cases hrow
  · intro hrow
    have hvalid : row.state.Ok := by
      rw [hrow]
      exact book.valid
    rw [dif_pos hvalid, Except.ok.injEq]
    obtain ⟨title, author, id, state, completed, valid⟩ := book
    obtain ⟨rowId, rowTitle, rowAuthor, rowState, rowCompleted, version⟩ := row
    cases hrow
    rfl

@[simp] theorem toEntity_ofEntity (book : Book) (version : ℕ) :
    (ofEntity book version).toEntity = .ok book :=
  (toEntity_eq_ok_iff _ _).mpr rfl

end BookRow

/-- `loans` -/
structure LoanRow where
  id : Reference
  patron_id : Reference
  patron_email : EmailAddress
  catalog_book_id : Reference
  reservation_id : Uuid
  reservation_generation : ℤ
  book_title : BoundedText 100
  borrowed_at : UtcDateTime
  due_date : UtcDateTime
  returned_at : Option UtcDateTime
  status : LoanStatus
  version : ℕ

namespace LoanRow

def ofEntity (loan : Loan) (version : ℕ) : LoanRow :=
  { id := loan.id
    patron_id := loan.patron_id
    patron_email := loan.patron_email
    catalog_book_id := loan.catalog_book_id
    reservation_id := loan.reservation_id
    reservation_generation := loan.reservation_generation
    book_title := loan.book_title
    borrowed_at := loan.borrowed_at
    due_date := loan.due_date
    returned_at := loan.returned_at
    status := loan.status
    version := version }

/-- `LoanModel.to_entity`; the checks are those of `Loan.__post_init__`. -/
def toEntity (row : LoanRow) : Except Raised Loan :=
  if hgeneration : row.reservation_generation < 1 then
    .error (.lending (.invalidReservationGeneration row.reservation_generation))
  else if hdue : row.due_date ≤ row.borrowed_at then
    .error (.lending (.invalidLoanDuration 0))
  else if hreturn : ∃ t ∈ row.returned_at, t < row.borrowed_at then
    .error (.lending (.invalidLoanReturnDate row.id.val))
  else if hstatus : row.status = .returned ↔ row.returned_at.isSome then
    .ok
      { id := row.id
        patron_id := row.patron_id
        patron_email := row.patron_email
        catalog_book_id := row.catalog_book_id
        reservation_id := row.reservation_id
        reservation_generation := row.reservation_generation
        book_title := row.book_title
        borrowed_at := row.borrowed_at
        due_date := row.due_date
        returned_at := row.returned_at
        status := row.status
        generation_pos := by omega
        borrowed_before_due := not_le.mp hdue
        borrowed_before_return := fun t ht =>
          not_lt.mp fun hlt => hreturn ⟨t, ht, hlt⟩
        returned_iff := hstatus }
  else
    .error (.lending (.invalidLoanState
      (py "returned status and returned_at must change together")))

/-- The columns of `LoanCommandRepository.update`. -/
def write (row : LoanRow) (loan : Loan) : LoanRow :=
  { row with
    status := loan.status
    returned_at := loan.returned_at
    due_date := loan.due_date
    version := row.version + 1 }

theorem toEntity_eq_ok_iff (row : LoanRow) (loan : Loan) :
    row.toEntity = .ok loan ↔ row = ofEntity loan row.version := by
  unfold toEntity
  constructor
  · intro hrow
    split_ifs at hrow
    cases hrow
    rfl
  · intro hrow
    have hgeneration : ¬ row.reservation_generation < 1 := by
      rw [hrow]
      exact not_lt.mpr loan.generation_pos
    have hdue : ¬ row.due_date ≤ row.borrowed_at := by
      rw [hrow]
      exact not_le.mpr loan.borrowed_before_due
    have hreturn : ¬ ∃ t ∈ row.returned_at, t < row.borrowed_at := by
      rw [hrow]
      rintro ⟨t, ht, hlt⟩
      exact absurd (loan.borrowed_before_return t ht) (not_le.mpr hlt)
    have hstatus : row.status = .returned ↔ row.returned_at.isSome := by
      rw [hrow]
      exact loan.returned_iff
    rw [dif_neg hgeneration, dif_neg hdue, dif_neg hreturn, dif_pos hstatus,
      Except.ok.injEq]
    obtain ⟨patron, email, book, title, due, borrowed, reservation, generation, id, status,
      returned, h1, h2, h3, h4⟩ := loan
    obtain ⟨_, _, _, _, _, _, _, _, _, _, _, _⟩ := row
    cases hrow
    rfl

@[simp] theorem toEntity_ofEntity (loan : Loan) (version : ℕ) :
    (ofEntity loan version).toEntity = .ok loan :=
  (toEntity_eq_ok_iff _ _).mpr rfl

/-- `status NOT IN ('returned', 'cancelled')` -/
def outstanding (row : LoanRow) : Bool :=
  row.status ≠ .returned && row.status ≠ .cancelled

/-- The column of the partial unique index over outstanding loans. -/
def outstandingBook (row : LoanRow) : Option Reference :=
  if row.outstanding then some row.catalog_book_id else none

end LoanRow

/-- `patrons` -/
structure PatronRow where
  id : Reference
  name : PatronName
  email : EmailAddress
  membership_tier : MembershipTier
  is_suspended : Bool
  suspended_reason : Option (BoundedText 500)
  registered_at : UtcDateTime
  version : ℕ

namespace PatronRow

def ofEntity (patron : Patron) (version : ℕ) : PatronRow :=
  { id := patron.id
    name := patron.name
    email := patron.email
    membership_tier := patron.membership_tier
    is_suspended := patron.isSuspended
    suspended_reason := patron.suspended_reason
    registered_at := patron.registered_at
    version := version }

def toEntity (row : PatronRow) : Except Raised Patron :=
  let invalid detail := Except.error (Raised.patron (.invalidPatronState detail))
  if row.is_suspended && row.suspended_reason.isNone then
    invalid (py "suspended patron requires a bounded reason")
  else if !row.is_suspended && row.suspended_reason.isSome then
    invalid (py "active patron cannot retain a suspension reason")
  else
    .ok
      { id := row.id
        name := row.name
        email := row.email
        registered_at := row.registered_at
        membership_tier := row.membership_tier
        suspended_reason := row.suspended_reason }

/-- The columns of `PatronCommandRepository.update`. -/
def write (row : PatronRow) (patron : Patron) : PatronRow :=
  { row with
    name := patron.name
    email := patron.email
    membership_tier := patron.membership_tier
    is_suspended := patron.isSuspended
    suspended_reason := patron.suspended_reason
    version := row.version + 1 }

theorem toEntity_eq_ok_iff (row : PatronRow) (patron : Patron) :
    row.toEntity = .ok patron ↔ row = ofEntity patron row.version := by
  obtain ⟨id, name, email, tier, suspended, reason, registered, version⟩ := row
  obtain ⟨patronName, patronEmail, patronRegistered, patronId, patronTier, patronReason⟩ :=
    patron
  unfold toEntity ofEntity Patron.isSuspended
  cases suspended <;> cases reason <;> cases patronReason <;> simp <;> tauto

@[simp] theorem toEntity_ofEntity (patron : Patron) (version : ℕ) :
    (ofEntity patron version).toEntity = .ok patron :=
  (toEntity_eq_ok_iff _ _).mpr rfl

end PatronRow

end LibrarySystem
