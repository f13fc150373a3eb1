import LibrarySystem.Domain.Methods
import LibrarySystem.Foundation.Result
import LibrarySystem.Persistence.Rows

/-!
# The constructors of the aggregates

A constructor normalises every argument and then checks the state.  A value
object is passed as its text: constructing it once more changes nothing, so an
aggregate given its own fields is built again as it was.
-/

namespace LibrarySystem

open Result

/-! ## Values that are already normalised -/

@[simp] theorem foldText_val {maximum : ℕ} (empty tooLong : Raised)
    (text : BoundedText maximum) : foldText maximum empty tooLong text.value = .ok text := by
  unfold foldText
  rw [dif_neg (by rw [text.folded]; exact text.nonempty),
    dif_pos (by rw [text.folded]; exact text.bounded)]
  congr 1
  obtain ⟨value, folded, nonempty, bounded⟩ := text
  simp only [BoundedText.mk.injEq]
  exact folded

@[simp] theorem normalizeReference_val (invalid : Raised) (reference : Reference) :
    normalizeReference invalid reference.val = .ok reference := by
  unfold normalizeReference
  simp only [Reference.strip_val]
  exact dif_pos reference.property

@[simp] theorem EmailAddress.parse_val (rt : PythonRuntime) (email : EmailAddress) :
    EmailAddress.parse rt email.value = .ok email := by
  unfold EmailAddress.parse
  rw [dif_pos (by rw [email.normalized rt]; exact ⟨email.wellFormed, email.bounded⟩)]
  congr 1
  obtain ⟨value, wellFormed, bounded, lowerCase⟩ := email
  simp only [EmailAddress.mk.injEq]
  exact EmailAddress.normalized rt ⟨value, wellFormed, bounded, lowerCase⟩

/-- An identifier that its own constructor leaves as it is. -/
def Reference.Canonical (rt : PythonRuntime) (id : Reference) : Prop :=
  ∀ uuid, rt.parseUuid id.val = some uuid → id = uuidReference uuid

theorem uuidReference_canonical (rt : PythonRuntime) (uuid : Uuid) :
    (uuidReference uuid).Canonical rt := by
  intro other hother
  simp only [uuidReference, rt.parseUuid_uuidText, Option.some.injEq] at hother
  rw [hother]

theorem normalizeIdentifier_canonical {rt : PythonRuntime} {empty invalid : Raised}
    {value : PyStr} {id : Reference}
    (hnormalize : normalizeIdentifier rt empty invalid value = .ok id) : id.Canonical rt := by
  unfold normalizeIdentifier at hnormalize
  simp only at hnormalize
  split at hnormalize
  · cases hnormalize
  · split at hnormalize
    · split at hnormalize
      · cases hnormalize
        exact uuidReference_canonical rt _
      · rename_i hnone
        cases hnormalize
        intro uuid huuid
        rw [hnone] at huuid
        cases huuid
    · cases hnormalize

theorem normalizeIdentifier_val {rt : PythonRuntime} (empty invalid : Raised) {id : Reference}
    (hcanonical : id.Canonical rt) :
    normalizeIdentifier rt empty invalid id.val = .ok id := by
  unfold normalizeIdentifier
  simp only [Reference.strip_val, id.ne_nil, if_false]
  rw [dif_pos id.property]
  split
  · rename_i uuid huuid
    rw [hcanonical uuid huuid]
  · rfl

/-- A field that may be absent. -/
def optionally {α β : Type} (parse : α → Except Raised β) :
    Option α → Except Raised (Option β)
  | some value => (parse value).map some
  | none => .ok none

theorem optionally_map {α β : Type} {parse : α → Except Raised β} {text : β → α}
    (hparse : ∀ value, parse (text value) = .ok value) (value : Option β) :
    optionally parse (value.map text) = .ok value := by
  cases value with
  | none => rfl
  | some value =>
      simp only [Option.map_some, optionally, hparse]
      rfl

theorem optionally_ofUtc (field : PyStr) (value : Option UtcDateTime) :
    optionally (fun value => requireUtcDatetime value field) (value.map .ofUtc) =
      .ok value := by
  cases value with
  | none => rfl
  | some t =>
      rw [Option.map_some, optionally, requireUtcDatetime_ofUtc]
      rfl

theorem optionally_email (rt : PythonRuntime) (value : Option EmailAddress) :
    optionally (EmailAddress.parse rt) (value.map EmailAddress.value) = .ok value :=
  optionally_map (EmailAddress.parse_val rt) value

/-! ## Book -/

/-- The arguments of `Book(...)`. -/
structure BookArguments where
  title : PyStr
  author : PyStr
  id : PyStr
  status : PyStr
  reserved_at : Option DateTime
  borrowed_at : Option DateTime
  return_due_date : Option DateTime
  reservation_id : Option PyStr
  reservation_generation : ℤ
  reserved_patron_id : Option PyStr
  reserved_patron_email : Option PyStr
  current_loan_id : Option PyStr
  last_completed_loan_id : Option PyStr

/-- `BookStatus(value)` -/
def BookStatus.ofValue (value : PyStr) : Option BookStatus :=
  [available, reserved, borrowed].find? fun status => status.value = value

@[simp] theorem BookStatus.ofValue_value (status : BookStatus) :
    BookStatus.ofValue status.value = some status := by
  cases status <;> decide

namespace Book

/-- `Book.__post_init__` -/
def postInit (rt : PythonRuntime) (args : BookArguments) : Except Raised Book := do
  let invalidState detail := Raised.catalog (.invalidCatalogState detail)
  let title ← parseTitle args.title
  let author ← parseAuthor args.author
  let id ← parseBookId rt args.id
  let status ← (BookStatus.ofValue args.status).elim
    (.error (invalidState (py "unknown status"))) .ok
  if args.reservation_generation < 0 then
    throw (invalidState (py "reservation generation must be non-negative"))
  let reservationId ← optionally (parseReservationId rt) args.reservation_id
  let reference (field : PyStr) := optionally fun value => normalizeReference value field
  let reservedPatronId ← reference (py "reserved_patron_id") args.reserved_patron_id
  let currentLoanId ← reference (py "current_loan_id") args.current_loan_id
  let lastCompletedLoanId ←
    reference (py "last_completed_loan_id") args.last_completed_loan_id
  let reservedPatronEmail ←
    optionally (EmailAddress.parse rt) args.reserved_patron_email
  let utc (field : PyStr) := optionally fun value => requireUtcDatetime value field
  let reservedAt ← utc (py "reserved_at") args.reserved_at
  let borrowedAt ← utc (py "borrowed_at") args.borrowed_at
  let returnDueDate ← utc (py "return_due_date") args.return_due_date
  BookRow.toEntity
    { id := id
      title := title
      author := author
      state :=
        { status := status
          reserved_at := reservedAt
          borrowed_at := borrowedAt
          return_due_date := returnDueDate
          reservation_id := reservationId
          reservation_generation := args.reservation_generation.toNat
          reserved_patron_id := reservedPatronId
          reserved_patron_email := reservedPatronEmail
          current_loan_id := currentLoanId }
      last_completed_loan_id := lastCompletedLoanId
      version := 0 }

end Book

/-- The fields of a book as arguments. -/
def BookFields.arguments (self : BookFields) : BookArguments where
  title := self.title.value
  author := self.author.value
  id := self.id.val
  status := self.state.status.value
  reserved_at := self.state.reserved_at.map .ofUtc
  borrowed_at := self.state.borrowed_at.map .ofUtc
  return_due_date := self.state.return_due_date.map .ofUtc
  reservation_id := self.state.reservation_id.map uuidText
  reservation_generation := self.state.reservation_generation
  reserved_patron_id := self.state.reserved_patron_id.map Subtype.val
  reserved_patron_email := self.state.reserved_patron_email.map EmailAddress.value
  current_loan_id := self.state.current_loan_id.map Subtype.val
  last_completed_loan_id := self.last_completed_loan_id.map Subtype.val

namespace Book

variable {rt : PythonRuntime}

theorem optionally_uuidText (value : Option Uuid) :
    optionally (parseReservationId rt) (value.map uuidText) = .ok value :=
  optionally_map (fun _ => parseReservationId_uuidText) value

theorem optionally_reference (field : PyStr) (value : Option Reference) :
    optionally (fun value => normalizeReference value field) (value.map Subtype.val) =
      .ok value :=
  optionally_map (normalizeReference_val _) value

theorem canonical_of_postInit {args : BookArguments} {book : Book}
    (hinit : postInit rt args = .ok book) : book.id.Canonical rt := by
  unfold postInit at hinit
  simp only [bind_eq_ok, throw_eq, error_bind, guard_eq_ok] at hinit
  obtain ⟨_, -, _, -, id, hid, _, -, -, _, -, _, -, _, -, _, -, _, -, _, -, _, -, _, -,
    hentity⟩ := hinit
  have hsame : id = book.id :=
    congrArg BookRow.id ((BookRow.toEntity_eq_ok_iff _ _).mp hentity)
  rw [← hsame]
  exact normalizeIdentifier_canonical hid

/-- A book given its own fields is the same book. -/
theorem postInit_fields {book : Book} (hid : book.id.Canonical rt) :
    postInit rt book.fields.arguments = .ok book := by
  have hnonneg : ¬ (book.state.reservation_generation : ℤ) < 0 := by omega
  unfold postInit
  simp only [BookFields.arguments, Book.fields, parseTitle, parseAuthor, parseBookId,
    foldText_val, normalizeIdentifier_val _ _ hid, BookStatus.ofValue_value, Option.elim_some,
    hnonneg, if_false, optionally_uuidText, optionally_reference, optionally_email,
    optionally_ofUtc, ok_bind, Int.toNat_natCast]
  exact BookRow.toEntity_ofEntity book 0

end Book

/-! ## Loan -/

/-- The arguments of `Loan(...)`. -/
structure LoanArguments where
  patron_id : PyStr
  patron_email : PyStr
  catalog_book_id : PyStr
  book_title : PyStr
  due_date : DateTime
  borrowed_at : DateTime
  reservation_id : PyStr
  reservation_generation : ℤ
  id : PyStr
  status : PyStr
  returned_at : Option DateTime

/-- `LoanStatus(value)` -/
def LoanStatus.ofValue (value : PyStr) : Option LoanStatus :=
  [active, returned, overdue, lost, cancelled].find? fun status => status.value = value

@[simp] theorem LoanStatus.ofValue_value (status : LoanStatus) :
    LoanStatus.ofValue status.value = some status := by
  cases status <;> decide

namespace Loan

/-- `Loan.__post_init__` -/
def postInit (rt : PythonRuntime) (args : LoanArguments) : Except Raised Loan := do
  let id ← parseLoanId rt args.id
  let reservationId ← parseReservationId rt args.reservation_id
  let dueDate ← requireUtcDatetime args.due_date (py "due_date")
  let status ← (LoanStatus.ofValue args.status).elim
    (.error (.lending (.invalidLoanState (py "unknown status")))) .ok
  let patronId ← normalizeReference args.patron_id (py "patron_id")
  let catalogBookId ← normalizeReference args.catalog_book_id (py "catalog_book_id")
  let patronEmail ← EmailAddress.parse rt args.patron_email
  let invalidTitle := Raised.lending (.invalidLoanReference (py "book_title"))
  let bookTitle ← foldText 100 invalidTitle invalidTitle args.book_title
  if args.reservation_generation < 1 then
    throw (.lending (.invalidReservationGeneration args.reservation_generation))
  let borrowedAt ← requireUtcDatetime args.borrowed_at (py "borrowed_at")
  let returnedAt ←
    optionally (fun value => requireUtcDatetime value (py "returned_at")) args.returned_at
  LoanRow.toEntity
    { id := id
      patron_id := patronId
      patron_email := patronEmail
      catalog_book_id := catalogBookId
      reservation_id := reservationId
      reservation_generation := args.reservation_generation
      book_title := bookTitle
      borrowed_at := borrowedAt
      due_date := dueDate
      returned_at := returnedAt
      status := status
      version := 0 }

end Loan

/-- The fields of a loan as arguments. -/
def LoanFields.arguments (self : LoanFields) : LoanArguments where
  patron_id := self.patron_id.val
  patron_email := self.patron_email.value
  catalog_book_id := self.catalog_book_id.val
  book_title := self.book_title.value
  due_date := .ofUtc self.due_date
  borrowed_at := .ofUtc self.borrowed_at
  reservation_id := uuidText self.reservation_id
  reservation_generation := self.reservation_generation
  id := self.id.val
  status := self.status.value
  returned_at := self.returned_at.map .ofUtc

namespace Loan

variable {rt : PythonRuntime}

theorem canonical_of_postInit {args : LoanArguments} {loan : Loan}
    (hinit : postInit rt args = .ok loan) : loan.id.Canonical rt := by
  unfold postInit at hinit
  simp only [bind_eq_ok, throw_eq, error_bind, guard_eq_ok] at hinit
  obtain ⟨id, hid, _, -, _, -, _, -, _, -, _, -, _, -, _, -, -, _, -, _, -, hentity⟩ := hinit
  have hsame : id = loan.id :=
    congrArg LoanRow.id ((LoanRow.toEntity_eq_ok_iff _ _).mp hentity)
  rw [← hsame]
  exact normalizeIdentifier_canonical hid

/-- A loan given its own fields is the same loan. -/
theorem postInit_fields {loan : Loan} (hid : loan.id.Canonical rt) :
    postInit rt loan.fields.arguments = .ok loan := by
  have hpositive : ¬ loan.reservation_generation < 1 := not_lt.mpr loan.generation_pos
  unfold postInit
  simp only [LoanFields.arguments, Loan.fields, parseLoanId, normalizeIdentifier_val _ _ hid,
    parseReservationId, parseReservationId_uuidText, requireUtcDatetime_ofUtc,
    LoanStatus.ofValue_value, Option.elim_some, Loan.normalizeReference, normalizeReference_val,
    EmailAddress.parse_val, foldText_val, hpositive, if_false, optionally_ofUtc, ok_bind]
  exact LoanRow.toEntity_ofEntity loan 0

/-- The factory's own constructor call. -/
theorem canonical_of_create {nextId : Uuid}
    {patronId patronEmail catalogBookId bookTitle reservationId : PyStr} {days : ℤ}
    {borrowedAt : DateTime} {generation : ℤ} {loan : Loan} {created : List AggregateEvent}
    (hcreate : Loan.create rt (uuidReference nextId) patronId patronEmail catalogBookId
      bookTitle days borrowedAt reservationId generation = .ok (loan, created)) :
    loan.id.Canonical rt := by
  unfold Loan.create at hcreate
  simp only [bind_eq_ok, throw_eq, error_bind, pure_eq, guard_eq_ok, Except.ok.injEq,
    Prod.mk.injEq] at hcreate
  obtain ⟨-, _, -, _, -, built, hconstruct, rfl, -⟩ := hcreate
  unfold Loan.construct at hconstruct
  simp only [bind_eq_ok, throw_eq, pure_eq] at hconstruct
  obtain ⟨_, -, _, -, _, -, _, -, hrest⟩ := hconstruct
  split at hrest
  · cases hrest
  · obtain ⟨_, -, hrest⟩ := bind_eq_ok.mp hrest
    split at hrest
    · cases hrest
    · cases hrest
      exact uuidReference_canonical rt nextId

end Loan

/-! ## Patron -/

/-- The arguments of `Patron(...)`. -/
structure PatronArguments where
  first_name : PyStr
  last_name : PyStr
  email : PyStr
  registered_at : DateTime
  id : PyStr
  membership_tier : PyStr
  is_suspended : Bool
  suspended_reason : Option PyStr

/-- `MembershipTier(value)` -/
def MembershipTier.ofValue (value : PyStr) : Option MembershipTier :=
  [regular, premium, researcher].find? fun tier => tier.value = value

@[simp] theorem MembershipTier.ofValue_value (tier : MembershipTier) :
    MembershipTier.ofValue tier.value = some tier := by
  cases tier <;> decide

namespace Patron

/-- `Patron.__post_init__` -/
def postInit (rt : PythonRuntime) (args : PatronArguments) : Except Raised Patron := do
  let invalidState detail := Raised.patron (.invalidPatronState detail)
  let id ← parsePatronId rt args.id
  let name ← PatronName.parse args.first_name args.last_name
  let email ← EmailAddress.parse rt args.email
  let tier ← (MembershipTier.ofValue args.membership_tier).elim
    (.error (invalidState (py "unknown membership tier"))) .ok
  let registeredAt ← requireUtcDatetime args.registered_at (py "registered_at")
  let unbounded := invalidState (py "suspended patron requires a bounded reason")
  let reason ←
    if args.is_suspended then
      (foldText 500 unbounded unbounded (args.suspended_reason.getD [])).map some
    else if args.suspended_reason.isSome then
      .error (invalidState (py "active patron cannot retain a suspension reason"))
    else .ok none
  pure
    { name := name
      email := email
      registered_at := registeredAt
      id := id
      membership_tier := tier
      suspended_reason := reason }

end Patron

/-- The fields of a patron as arguments. -/
def PatronFields.arguments (self : PatronFields) : PatronArguments where
  first_name := self.name.first_name.value
  last_name := self.name.last_name.value
  email := self.email.value
  registered_at := .ofUtc self.registered_at
  id := self.id.val
  membership_tier := self.membership_tier.value
  is_suspended := self.is_suspended
  suspended_reason := self.suspended_reason.map BoundedText.value

theorem PatronName.parse_val (name : PatronName) :
    PatronName.parse name.first_name.value name.last_name.value = .ok name := by
  unfold PatronName.parse
  simp only [name.first_name.folded, name.last_name.folded, name.first_name.nonempty,
    name.last_name.nonempty, if_false, foldText_val, ok_bind, pure_eq]

namespace Patron

variable {rt : PythonRuntime}

theorem canonical_of_postInit {args : PatronArguments} {patron : Patron}
    (hinit : postInit rt args = .ok patron) : patron.id.Canonical rt := by
  unfold postInit at hinit
  obtain ⟨id, hid, hrest⟩ := bind_eq_ok.mp hinit
  have hsame : patron.id = id := by
    obtain ⟨_, -, hrest⟩ := bind_eq_ok.mp hrest
    obtain ⟨_, -, hrest⟩ := bind_eq_ok.mp hrest
    obtain ⟨_, -, hrest⟩ := bind_eq_ok.mp hrest
    obtain ⟨_, -, hrest⟩ := bind_eq_ok.mp hrest
    split at hrest
    · obtain ⟨_, -, hrest⟩ := bind_eq_ok.mp hrest
      cases hrest
      rfl
    · split at hrest
      · cases hrest
      · cases hrest
        rfl
  rw [hsame]
  exact normalizeIdentifier_canonical hid

/-- A patron given its own fields is the same patron. -/
theorem postInit_fields {patron : Patron} (hid : patron.id.Canonical rt) :
    postInit rt patron.fields.arguments = .ok patron := by
  unfold postInit
  simp only [PatronFields.arguments, Patron.fields, parsePatronId,
    normalizeIdentifier_val _ _ hid, PatronName.parse_val, EmailAddress.parse_val,
    MembershipTier.ofValue_value, Option.elim_some, requireUtcDatetime_ofUtc, ok_bind,
    Patron.isSuspended]
  obtain ⟨name, email, registered, id, tier, reason⟩ := patron
  cases reason with
  | none => rfl
  | some reason =>
      simp only [Option.map_some, Option.isSome_some, if_true, Option.getD_some, foldText_val]
      rfl

theorem canonical_of_register {nextId : Uuid} {name : PatronName} {email : EmailAddress}
    {registeredAt : DateTime} {tier : MembershipTier} {patron : Patron}
    {events : List AggregateEvent}
    (hregister : register (uuidReference nextId) name email registeredAt tier =
      .ok (patron, events)) : patron.id.Canonical rt := by
  unfold register at hregister
  simp only [bind_eq_ok, pure_eq, Except.ok.injEq, Prod.mk.injEq] at hregister
  obtain ⟨_, -, rfl, -⟩ := hregister
  exact uuidReference_canonical rt nextId

end Patron

end LibrarySystem
