import LibrarySystem.Foundation.Sql
import LibrarySystem.Persistence.Columns
import LibrarySystem.Persistence.Constructors

/-!
# The tables of the aggregates

The columns of a model are texts, numbers and instants, and its CHECK
constraints are conditions on them.  Every aggregate writes a row that all the
constraints accept and that is read back as the same aggregate.
-/

namespace LibrarySystem

open Result

/-- The text functions of the database that depend on its locale. -/
structure SqlText where
  lower : PyStr → PyStr
  lower_ascii : ∀ s, PyStr.isAscii s = true → lower s = s.map CodePoint.asciiLower

namespace Sql

/-- The conditions that the tables share on an address. -/
def isNormalizedEmail (db : SqlText) (text : PyStr) : Bool :=
  text = db.lower (trim text) && lengthBetween 3 254 text && isEmail text

theorem length_of_isEmail {text : PyStr} (hemail : isEmail text = true) : 3 ≤ text.length := by
  have hsplit := congrArg List.length
    (List.takeWhile_append_dropWhile (p := isEmailLocal) (l := text))
  unfold isEmail at hemail
  cases hdrop : text.dropWhile isEmailLocal with
  | nil => rw [hdrop] at hemail; cases hemail
  | cons at_ domain =>
      rw [hdrop] at hemail hsplit
      simp only [Bool.and_eq_true, bne_iff_ne, ne_eq] at hemail
      have hlocal := List.length_pos_of_ne_nil hemail.1.1.2
      have hdomain : domain ≠ [] := by
        rintro rfl
        simp at hemail
      have hpositive := List.length_pos_of_ne_nil hdomain
      simp only [List.length_append, List.length_cons] at hsplit
      omega

theorem isNormalizedEmail_value (db : SqlText) (email : EmailAddress) :
    isNormalizedEmail db email.value = true := by
  have htrim : trim email.value = email.value := by
    apply trim_eq_self
    intro c hc
    by_contra hblank
    have hspace := isSpace_of_isBlank (by simpa using hblank)
    simp [(isEmail_ascii email.wellFormed hc).2] at hspace
  have hnormal : db.lower (trim email.value) = email.value := by
    rw [htrim, db.lower_ascii _ email.isAscii_value, email.asciiLower_value]
  simp only [isNormalizedEmail, lengthBetween, hnormal, Bool.and_eq_true, decide_eq_true_eq]
  exact ⟨⟨trivial, length_of_isEmail email.wellFormed, email.bounded⟩, email.wellFormed⟩

/-- An optional column whose values all meet their condition. -/
theorem accepts_nullOr {α : Type} {holds : PyStr → Bool} {text : α → PyStr}
    (hholds : ∀ value, holds (text value) = true) (column : Option α) :
    Accepts (or (isNull (column.map text)) (test holds (column.map text))) := by
  cases column with
  | none => simp
  | some value => simp [hholds value]

end Sql

/-- A stored reservation id is never the empty text. -/
theorem filter_uuidText (column : Option Uuid) :
    ((column.map uuidText).filter fun text => text ≠ []) = column.map uuidText := by
  cases column with
  | none => rfl
  | some uuid =>
      have hne : uuidText uuid ≠ [] := (uuidReference uuid).ne_nil
      simp [Option.filter, hne]

/-! ## books -/

theorem BookStatus.value_mem (status : BookStatus) :
    status.value ∈ [py "available", py "reserved", py "borrowed"] := by
  cases status <;> decide

/-- The columns of `books`; a `timestamptz` is an instant. -/
structure BookModel where
  id : PyStr
  title : PyStr
  author : PyStr
  status : PyStr
  reserved_at : Option UtcDateTime
  borrowed_at : Option UtcDateTime
  return_due_date : Option UtcDateTime
  reservation_id : Option PyStr
  reservation_generation : ℤ
  reserved_patron_id : Option PyStr
  reserved_patron_email : Option PyStr
  current_loan_id : Option PyStr
  last_completed_loan_id : Option PyStr
  version : ℤ

theorem BookStatus.value_injective : Function.Injective BookStatus.value := by
  intro status other hvalue
  cases status <;> cases other <;> first | rfl | exact absurd hvalue (by decide)

/-- The test for another status failed. -/
theorem BookStatus.eq_of_value {s t : BookStatus}
    (hother : ¬ decide (s.value ≠ t.value) = true) : s = t :=
  value_injective (by simpa using hother)

namespace BookModel

/-- `BookModel.__table_args__` -/
def constraints (db : SqlText) (self : BookModel) : List (PyStr × SqlBool) :=
  let nullOrIdentifier (column : Option PyStr) :=
    Sql.or (Sql.isNull column) (Sql.test Sql.isIdentifier column)
  [(py "ck_books_status",
      some (decide (self.status ∈ [py "available", py "reserved", py "borrowed"]))),
    (py "ck_books_reservation_generation", some (0 ≤ self.reservation_generation)),
    (py "ck_books_id", some (Sql.isIdentifier self.id)),
    (py "ck_books_reservation_id",
      Sql.or (Sql.isNull self.reservation_id)
        (Sql.test (matchesUuidPattern uuidShape) self.reservation_id)),
    (py "ck_books_reserved_patron_id", nullOrIdentifier self.reserved_patron_id),
    (py "ck_books_current_loan_id", nullOrIdentifier self.current_loan_id),
    (py "ck_books_last_completed_loan_id", nullOrIdentifier self.last_completed_loan_id),
    (py "ck_books_version", some (0 ≤ self.version)),
    (py "ck_books_title", some (Sql.isBoundedText 100 self.title)),
    (py "ck_books_author", some (Sql.isBoundedText 200 self.author)),
    (py "ck_books_reserved_patron_email",
      Sql.or (Sql.isNull self.reserved_patron_email)
        (Sql.test (Sql.isNormalizedEmail db) self.reserved_patron_email)),
    (py "ck_books_reserved_state",
      Sql.or (some (self.status ≠ py "reserved"))
        (Sql.and (some (1 ≤ self.reservation_generation))
          (Sql.and (Sql.isNotNull self.reservation_id)
            (Sql.and (Sql.isNotNull self.reserved_at)
              (Sql.and (Sql.isNotNull self.reserved_patron_id)
                (Sql.and (Sql.isNotNull self.reserved_patron_email)
                  (Sql.and (Sql.isNull self.current_loan_id)
                    (Sql.and (Sql.isNull self.borrowed_at)
                      (Sql.isNull self.return_due_date))))))))),
    (py "ck_books_borrowed_state",
      Sql.or (some (self.status ≠ py "borrowed"))
        (Sql.and (some (1 ≤ self.reservation_generation))
          (Sql.and (Sql.isNotNull self.reservation_id)
            (Sql.and (Sql.isNull self.reserved_at)
              (Sql.and (Sql.isNotNull self.reserved_patron_id)
                (Sql.and (Sql.isNotNull self.reserved_patron_email)
                  (Sql.and (Sql.isNotNull self.current_loan_id)
                    (Sql.and (Sql.isNotNull self.borrowed_at)
                      (Sql.compare (fun due borrowed => decide (borrowed < due))
                        self.return_due_date self.borrowed_at))))))))),
    (py "ck_books_available_state",
      Sql.or (some (self.status ≠ py "available"))
        (Sql.and (Sql.isNull self.current_loan_id)
          (Sql.and (Sql.isNull self.reserved_at)
            (Sql.and (Sql.isNull self.borrowed_at)
              (Sql.isNull self.return_due_date)))))]

def Accepted (db : SqlText) (self : BookModel) : Prop :=
  ∀ check ∈ self.constraints db, Sql.Accepts check.2

/-- `BookModel.from_entity` -/
def fromEntity (book : BookFields) (version : ℕ) : BookModel where
  id := book.id.val
  title := book.title.value
  author := book.author.value
  status := book.state.status.value
  reserved_at := book.state.reserved_at
  borrowed_at := book.state.borrowed_at
  return_due_date := book.state.return_due_date
  reservation_id := book.state.reservation_id.map uuidText
  reservation_generation := book.state.reservation_generation
  reserved_patron_id := book.state.reserved_patron_id.map Subtype.val
  reserved_patron_email := book.state.reserved_patron_email.map EmailAddress.value
  current_loan_id := book.state.current_loan_id.map Subtype.val
  last_completed_loan_id := book.last_completed_loan_id.map Subtype.val
  version := version

/-- `BookModel.to_entity`, with the version of the hydrated book. -/
def toEntity (rt : PythonRuntime) (self : BookModel) : Except Raised (Book × ℤ) := do
  let id ← Book.parseBookId rt self.id
  let title ← Book.parseTitle self.title
  let author ← Book.parseAuthor self.author
  let status ← (BookStatus.ofValue self.status).elim
    (.error (.python (.valueError (self.status ++ py " is not a valid BookStatus")))) .ok
  let reservationId ← optionally (Book.parseReservationId rt)
    (self.reservation_id.filter fun text => text ≠ [])
  let book ← Book.postInit rt
    { title := title.value
      author := author.value
      id := id.val
      status := status.value
      reserved_at := self.reserved_at.map .ofUtc
      borrowed_at := self.borrowed_at.map .ofUtc
      return_due_date := self.return_due_date.map .ofUtc
      reservation_id := reservationId.map uuidText
      reservation_generation := self.reservation_generation
      reserved_patron_id := self.reserved_patron_id
      reserved_patron_email := self.reserved_patron_email
      current_loan_id := self.current_loan_id
      last_completed_loan_id := self.last_completed_loan_id }
  pure (book, self.version)

variable {rt : PythonRuntime} (db : SqlText) (book : Book) (version : ℕ)

theorem accepted_fromEntity : (fromEntity book.fields version).Accepted db := by
  simp only [Accepted, constraints, fromEntity, Book.fields, List.forall_mem_cons,
    List.not_mem_nil, false_imp_iff, implies_true, and_true, Sql.accepts_some]
  refine ⟨decide_eq_true book.state.status.value_mem, decide_eq_true (by omega),
    Sql.isIdentifier_val _,
    Sql.accepts_nullOr uuidText_matches _, Sql.accepts_nullOr Sql.isIdentifier_val _,
    Sql.accepts_nullOr Sql.isIdentifier_val _, Sql.accepts_nullOr Sql.isIdentifier_val _,
    decide_eq_true (by omega), Sql.isBoundedText_value _, Sql.isBoundedText_value _,
    Sql.accepts_nullOr (Sql.isNormalizedEmail_value db) _, ?_, ?_, ?_⟩
  all_goals
    simp only [Sql.accepts_or, Sql.accepts_some, Sql.accepts_and, Sql.accepts_isNull,
      Sql.accepts_isNotNull, Sql.accepts_compare, Option.isSome_map, Option.map_eq_none_iff]
    refine or_iff_not_imp_left.mpr fun hother => ?_
  · obtain ⟨⟨hid, hpatron, hemail⟩, hat, hgeneration, hborrowed, hdue, hloan⟩ :=
      Book.reserved_ok (BookStatus.eq_of_value hother)
    exact ⟨decide_eq_true (by omega), hid, hat, hpatron, hemail, hloan, hborrowed, hdue⟩
  · obtain ⟨⟨hid, hpatron, hemail⟩, hgeneration, hat, hloan, borrowed, due, hfrom, hto, hlt⟩ :=
      Book.borrowed_ok (BookStatus.eq_of_value hother)
    refine ⟨decide_eq_true (by omega), hid, hat, hpatron, hemail, hloan, by simp [hfrom], ?_⟩
    rw [hfrom, hto]
    rintro _ ⟨⟩ _ ⟨⟩
    exact decide_eq_true hlt
  · have havailable := book.valid
    simp only [BookState.Ok, BookStatus.eq_of_value (t := .available) hother] at havailable
    obtain ⟨hat, hborrowed, hdue, hloan, -⟩ := havailable
    exact ⟨hloan, hat, hborrowed, hdue⟩

theorem toEntity_fromEntity (hid : book.id.Canonical rt) :
    (fromEntity book.fields version).toEntity rt = .ok (book, (version : ℤ)) := by
  have hinit := Book.postInit_fields hid
  simp only [BookFields.arguments, Book.fields] at hinit
  unfold toEntity
  simp only [fromEntity, Book.fields, Book.parseBookId, normalizeIdentifier_val _ _ hid,
    Book.parseTitle, Book.parseAuthor, foldText_val, BookStatus.ofValue_value,
    Option.elim_some, filter_uuidText, Book.optionally_uuidText, ok_bind, hinit]
  rfl

end BookModel

/-! ## loans -/

theorem LoanStatus.value_mem (status : LoanStatus) :
    status.value ∈
      [py "active", py "returned", py "overdue", py "lost", py "cancelled"] := by
  cases status <;> decide

theorem LoanStatus.value_injective : Function.Injective LoanStatus.value := by
  intro status other hvalue
  cases status <;> cases other <;> first | rfl | exact absurd hvalue (by decide)

/-- The columns of `loans`. -/
structure LoanModel where
  id : PyStr
  patron_id : PyStr
  patron_email : PyStr
  catalog_book_id : PyStr
  reservation_id : PyStr
  reservation_generation : ℤ
  book_title : PyStr
  borrowed_at : UtcDateTime
  due_date : UtcDateTime
  returned_at : Option UtcDateTime
  status : PyStr
  version : ℤ

namespace LoanModel

/-- `LoanModel.__table_args__` -/
def constraints (db : SqlText) (self : LoanModel) : List (PyStr × SqlBool) :=
  [(py "ck_loans_status",
      some (decide (self.status ∈
        [py "active", py "returned", py "overdue", py "lost", py "cancelled"]))),
    (py "ck_loans_reservation_generation", some (1 ≤ self.reservation_generation)),
    (py "ck_loans_id", some (Sql.isIdentifier self.id)),
    (py "ck_loans_patron_id", some (Sql.isIdentifier self.patron_id)),
    (py "ck_loans_catalog_book_id", some (Sql.isIdentifier self.catalog_book_id)),
    (py "ck_loans_reservation_id", some (matchesUuidPattern uuidShape self.reservation_id)),
    (py "ck_loans_version", some (0 ≤ self.version)),
    (py "ck_loans_due_after_borrow", some (self.borrowed_at < self.due_date)),
    (py "ck_loans_return_after_borrow",
      Sql.or (Sql.isNull self.returned_at)
        (Sql.test (fun returned => decide (self.borrowed_at ≤ returned)) self.returned_at)),
    (py "ck_loans_returned_state",
      Sql.or
        (Sql.and (some (self.status = py "returned")) (Sql.isNotNull self.returned_at))
        (Sql.and (some (self.status ≠ py "returned")) (Sql.isNull self.returned_at))),
    (py "ck_loans_patron_email", some (Sql.isNormalizedEmail db self.patron_email)),
    (py "ck_loans_book_title", some (Sql.isBoundedText 100 self.book_title))]

def Accepted (db : SqlText) (self : LoanModel) : Prop :=
  ∀ check ∈ self.constraints db, Sql.Accepts check.2

/-- `LoanModel.from_entity` -/
def fromEntity (loan : LoanFields) (version : ℕ) : LoanModel where
  id := loan.id.val
  patron_id := loan.patron_id.val
  patron_email := loan.patron_email.value
  catalog_book_id := loan.catalog_book_id.val
  reservation_id := uuidText loan.reservation_id
  reservation_generation := loan.reservation_generation
  book_title := loan.book_title.value
  borrowed_at := loan.borrowed_at
  due_date := loan.due_date
  returned_at := loan.returned_at
  status := loan.status.value
  version := version

/-- `LoanModel.to_entity`, with the version of the hydrated loan. -/
def toEntity (rt : PythonRuntime) (self : LoanModel) : Except Raised (Loan × ℤ) := do
  let id ← Loan.parseLoanId rt self.id
  let reservationId ← Loan.parseReservationId rt self.reservation_id
  let dueDate ← requireUtcDatetime (.ofUtc self.due_date) (py "due_date")
  let status ← (LoanStatus.ofValue self.status).elim
    (.error (.python (.valueError (self.status ++ py " is not a valid LoanStatus")))) .ok
  let loan ← Loan.postInit rt
    { patron_id := self.patron_id
      patron_email := self.patron_email
      catalog_book_id := self.catalog_book_id
      book_title := self.book_title
      due_date := .ofUtc dueDate
      borrowed_at := .ofUtc self.borrowed_at
      reservation_id := uuidText reservationId
      reservation_generation := self.reservation_generation
      id := id.val
      status := status.value
      returned_at := self.returned_at.map .ofUtc }
  pure (loan, self.version)

variable {rt : PythonRuntime} (db : SqlText) (loan : Loan) (version : ℕ)

theorem accepted_fromEntity : (fromEntity loan.fields version).Accepted db := by
  have hgeneration := loan.generation_pos
  simp only [Accepted, constraints, fromEntity, Loan.fields, List.forall_mem_cons,
    List.not_mem_nil, false_imp_iff, implies_true, and_true, Sql.accepts_some]
  refine ⟨decide_eq_true loan.status.value_mem, decide_eq_true hgeneration,
    Sql.isIdentifier_val _, Sql.isIdentifier_val _, Sql.isIdentifier_val _,
    uuidText_matches _, decide_eq_true (by omega), decide_eq_true loan.borrowed_before_due,
    ?_, ?_, Sql.isNormalizedEmail_value db _, Sql.isBoundedText_value _⟩
  · rw [Sql.accepts_or, Sql.accepts_isNull, Sql.accepts_test]
    exact Or.inr fun returned hreturned =>
      decide_eq_true (loan.borrowed_before_return returned hreturned)
  · simp only [Sql.accepts_or, Sql.accepts_and, Sql.accepts_some, Sql.accepts_isNull,
      Sql.accepts_isNotNull]
    by_cases hstatus : loan.status = .returned
    · exact Or.inl ⟨decide_eq_true (congrArg LoanStatus.value hstatus),
        loan.returned_iff.mp hstatus⟩
    · have hnone : loan.returned_at = none := by
        simpa using mt loan.returned_iff.mpr hstatus
      exact Or.inr ⟨decide_eq_true (LoanStatus.value_injective.ne hstatus), hnone⟩

theorem toEntity_fromEntity (hid : loan.id.Canonical rt) :
    (fromEntity loan.fields version).toEntity rt = .ok (loan, (version : ℤ)) := by
  have hinit := Loan.postInit_fields hid
  simp only [LoanFields.arguments, Loan.fields] at hinit
  unfold toEntity
  simp only [fromEntity, Loan.fields, Loan.parseLoanId, normalizeIdentifier_val _ _ hid,
    Loan.parseReservationId, parseReservationId_uuidText, requireUtcDatetime_ofUtc,
    LoanStatus.ofValue_value, Option.elim_some, ok_bind, hinit]
  rfl

end LoanModel

/-! ## patrons -/

theorem MembershipTier.value_mem (tier : MembershipTier) :
    tier.value ∈ [py "regular", py "premium", py "researcher"] := by
  cases tier <;> decide

/-- The columns of `patrons`. -/
structure PatronModel where
  id : PyStr
  first_name : PyStr
  last_name : PyStr
  email : PyStr
  membership_tier : PyStr
  is_suspended : Bool
  suspended_reason : Option PyStr
  registered_at : UtcDateTime
  version : ℤ

namespace PatronModel

/-- `PatronModel.__table_args__` -/
def constraints (db : SqlText) (self : PatronModel) : List (PyStr × SqlBool) :=
  [(py "ck_patrons_membership_tier",
      some (decide (self.membership_tier ∈
        [py "regular", py "premium", py "researcher"]))),
    (py "ck_patrons_id", some (Sql.isIdentifier self.id)),
    (py "ck_patrons_version", some (0 ≤ self.version)),
    (py "ck_patrons_first_name", some (Sql.isBoundedText 100 self.first_name)),
    (py "ck_patrons_last_name", some (Sql.isBoundedText 100 self.last_name)),
    (py "ck_patrons_email_normalized",
      some (self.email = db.lower (Sql.trim self.email))),
    (py "ck_patrons_email_length", some (Sql.lengthBetween 3 254 self.email)),
    (py "ck_patrons_email_format", some (isEmail self.email)),
    (py "ck_patrons_suspension_state",
      Sql.or
        (Sql.and (some self.is_suspended)
          (Sql.and (Sql.isNotNull self.suspended_reason)
            (Sql.test (Sql.isBoundedText 500) self.suspended_reason)))
        (Sql.and (some (!self.is_suspended)) (Sql.isNull self.suspended_reason)))]

def Accepted (db : SqlText) (self : PatronModel) : Prop :=
  ∀ check ∈ self.constraints db, Sql.Accepts check.2

/-- `PatronModel.from_entity` -/
def fromEntity (patron : PatronFields) (version : ℕ) : PatronModel where
  id := patron.id.val
  first_name := patron.name.first_name.value
  last_name := patron.name.last_name.value
  email := patron.email.value
  membership_tier := patron.membership_tier.value
  is_suspended := patron.is_suspended
  suspended_reason := patron.suspended_reason.map BoundedText.value
  registered_at := patron.registered_at
  version := version

/-- `PatronModel.to_entity`, with the version of the hydrated patron. -/
def toEntity (rt : PythonRuntime) (self : PatronModel) : Except Raised (Patron × ℤ) := do
  let id ← Patron.parsePatronId rt self.id
  let name ← PatronName.parse self.first_name self.last_name
  let email ← EmailAddress.parse rt self.email
  let tier ← (MembershipTier.ofValue self.membership_tier).elim
    (.error (.python
      (.valueError (self.membership_tier ++ py " is not a valid MembershipTier")))) .ok
  let patron ← Patron.postInit rt
    { first_name := name.first_name.value
      last_name := name.last_name.value
      email := email.value
      registered_at := .ofUtc self.registered_at
      id := id.val
      membership_tier := tier.value
      is_suspended := self.is_suspended
      suspended_reason := self.suspended_reason }
  pure (patron, self.version)

variable {rt : PythonRuntime} (db : SqlText) (patron : Patron) (version : ℕ)

theorem accepted_fromEntity : (fromEntity patron.fields version).Accepted db := by
  have hemail := Sql.isNormalizedEmail_value db patron.email
  simp only [Sql.isNormalizedEmail, Bool.and_eq_true] at hemail
  simp only [Accepted, constraints, fromEntity, Patron.fields, List.forall_mem_cons,
    List.not_mem_nil, false_imp_iff, implies_true, and_true, Sql.accepts_some]
  refine ⟨decide_eq_true patron.membership_tier.value_mem, Sql.isIdentifier_val _,
    decide_eq_true (by omega), Sql.isBoundedText_value _, Sql.isBoundedText_value _,
    hemail.1.1, hemail.1.2, hemail.2, ?_⟩
  simp only [Patron.isSuspended]
  cases patron.suspended_reason with
  | none => simp
  | some reason => simp [Sql.isBoundedText_value reason]

theorem toEntity_fromEntity (hid : patron.id.Canonical rt) :
    (fromEntity patron.fields version).toEntity rt = .ok (patron, (version : ℤ)) := by
  have hinit := Patron.postInit_fields hid
  simp only [PatronFields.arguments, Patron.fields] at hinit
  unfold toEntity
  simp only [fromEntity, Patron.fields, Patron.parsePatronId, normalizeIdentifier_val _ _ hid,
    PatronName.parse_val, EmailAddress.parse_val, MembershipTier.ofValue_value,
    Option.elim_some, ok_bind, hinit]
  rfl

end PatronModel

end LibrarySystem
