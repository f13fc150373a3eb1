import LibrarySystem.Domain.BookHistory
import LibrarySystem.Domain.LoanHistory
import LibrarySystem.Persistence.Models

/-!
# Transitions of the aggregates and their rows

A call on an aggregate raises and leaves the object as it was, or it leaves an
object whose row the constraints of its table accept and that is read back
field by field.  Neither depends on the calls made before.
-/

namespace LibrarySystem

open Result

/-! ## Calls that return or raise -/

section Calls

variable {A F E χ α : Type} {fields : A → F}

/-- Whether a method returned; what it returned is dropped. -/
def ending (result : Except Raised α × Object F E) : Except Raised Unit :=
  result.1.map fun _ => ()

theorem Method.CarriesOut.atomic_of_ending {method : Method F E Raised α} {before : A}
    {transition : Except Raised (A × α × List E)}
    (hcarries : method.CarriesOut fields before transition) {pending : List E}
    {error : Raised} (hraise : ending (method (.of fields before pending)) = .error error) :
    (method (.of fields before pending)).2 = .of fields before pending := by
  have hraised : (method (.of fields before pending)).1 = .error error := by
    unfold ending at hraise
    cases hresult : (method (.of fields before pending)).1 with
    | ok value => rw [hresult] at hraise; cases hraise
    | error other => rw [hresult] at hraise; cases hraise; rfl
  exact hcarries.atomic hraised

/-- A call leaves the object as it was or an object that can be stored. -/
def Settles (outcome : χ → Object F E → Except Raised Unit)
    (perform : χ → Object F E → Object F E) (Storable : F → Prop) (self : Object F E) :
    Prop :=
  ∀ call, (∀ error, outcome call self = .error error → perform call self = self) ∧
    (outcome call self = .ok () → Storable (perform call self).fields)

end Calls

/-! ## Books -/

/-- Whether the call returned or raised. -/
def BookCall.outcome (rt : PythonRuntime) : BookCall → BookObject → Except Raised Unit
  | reserve nextId patronId borrowerEmail reservedAt reservationId, self =>
      ending
        (BookMethod.reserve rt nextId patronId borrowerEmail reservedAt reservationId self)
  | confirmBorrow reservationId generation patronId loanId borrowedAt returnDueDate, self =>
      ending
        (BookMethod.confirmBorrow rt reservationId generation patronId loanId borrowedAt
          returnDueDate self)
  | release reservationId generation patronId reason, self =>
      ending (BookMethod.release rt reservationId generation patronId reason self)
  | returnBook loanId reservationId generation patronId, self =>
      ending (BookMethod.returnBook rt loanId reservationId generation patronId self)

theorem BookCall.atomic (rt : PythonRuntime) (call : BookCall) (book : Book)
    (pending : List AggregateEvent) {error : Raised}
    (hraise : call.outcome rt (.of Book.fields book pending) = .error error) :
    call.perform rt (.of Book.fields book pending) = .of Book.fields book pending := by
  cases call with
  | reserve => exact (BookMethod.reserve_carriesOut rt book _ _ _ _ _).atomic_of_ending hraise
  | confirmBorrow =>
      exact (BookMethod.confirmBorrow_carriesOut rt book _ _ _ _ _ _).atomic_of_ending hraise
  | release => exact (BookMethod.release_carriesOut rt book _ _ _ _).atomic_of_ending hraise
  | returnBook =>
      exact (BookMethod.returnBook_carriesOut rt book _ _ _ _).atomic_of_ending hraise

/-- The columns `BookCommandRepository.update` does not set. -/
def Book.fixed (book : Book) : Reference × BoundedText 100 × BoundedText 200 :=
  (book.id, book.title, book.author)

theorem Book.fixed_eq {book after : Book} (hid : after.id = book.id)
    (htitle : after.title = book.title) (hauthor : after.author = book.author) :
    after.fixed = book.fixed := by
  simp only [fixed, hid, htitle, hauthor]

/-- No call changes what an UPDATE does not write. -/
theorem BookCall.answer_fixed (rt : PythonRuntime) (call : BookCall) (book : Book) :
    (call.answer rt book).1.fixed = book.fixed := by
  cases call with
  | reserve nextId patronId borrowerEmail reservedAt reservationId =>
      simp only [BookCall.answer]
      cases hreserve : book.reserve rt nextId patronId borrowerEmail reservedAt
          reservationId with
      | error error => rfl
      | ok result =>
          obtain ⟨after, token, events⟩ := result
          obtain ⟨-, -, _, _, _, -, -, -, hid, htitle, hauthor, -⟩ := Book.reserve_ok hreserve
          exact Book.fixed_eq hid htitle hauthor
  | confirmBorrow reservationId generation patronId loanId borrowedAt returnDueDate =>
      simp only [BookCall.answer]
      cases hconfirm : book.confirmBorrow rt reservationId generation patronId loanId
          borrowedAt returnDueDate with
      | error error => rfl
      | ok result =>
          obtain ⟨after, changed, events⟩ := result
          cases changed with
          | false => exact congrArg Book.fixed (Book.confirmBorrow_unchanged hconfirm).1
          | true =>
              obtain ⟨_, _, _, _, _, -, -, -, -, -, -, hid, htitle, hauthor, -⟩ :=
                Book.confirmBorrow_ok hconfirm
              exact Book.fixed_eq hid htitle hauthor
  | release reservationId generation patronId reason =>
      simp only [BookCall.answer]
      cases hrelease : book.release rt reservationId generation patronId reason with
      | error error => rfl
      | ok result =>
          obtain ⟨after, changed, events⟩ := result
          obtain ⟨_, _, -, -, -, -, -, hcases⟩ := Book.release_ok hrelease
          rcases hcases with ⟨-, hsame, -⟩ | ⟨-, -, hid, htitle, hauthor, -⟩
          · exact congrArg Book.fixed hsame
          · exact Book.fixed_eq hid htitle hauthor
  | returnBook loanId reservationId generation patronId =>
      simp only [BookCall.answer]
      cases hreturn : book.returnBook rt loanId reservationId generation patronId with
      | error error => rfl
      | ok result =>
          obtain ⟨after, changed, events⟩ := result
          cases changed with
          | false => exact congrArg Book.fixed (Book.returnBook_unchanged hreturn).1
          | true =>
              obtain ⟨_, _, _, -, -, -, -, -, -, -, -, hid, htitle, hauthor, -⟩ :=
                Book.returnBook_ok hreturn
              exact Book.fixed_eq hid htitle hauthor

theorem BookCall.answer_id (rt : PythonRuntime) (call : BookCall) (book : Book) :
    (call.answer rt book).1.id = book.id :=
  congrArg Prod.fst (call.answer_fixed rt book)

/-- The row of a book is accepted and read back field by field. -/
def BookModel.Rehydrates (rt : PythonRuntime) (db : SqlText) (version : ℕ)
    (self : BookFields) : Prop :=
  (fromEntity self version).Accepted db ∧
    ∃ book, (fromEntity self version).toEntity rt = .ok (book, (version : ℤ)) ∧
      book.fields = self

theorem BookModel.rehydrates {rt : PythonRuntime} {book : Book} (hid : book.id.Canonical rt)
    (db : SqlText) (version : ℕ) : Rehydrates rt db version book.fields :=
  ⟨accepted_fromEntity db book version, book, toEntity_fromEntity book version hid, rfl⟩

/-! ## Loans -/

/-- Whether the call returned or raised. -/
def LoanCall.outcome : LoanCall → LoanObject → Except Raised Unit
  | returnBook returnedAt, self => ending (LoanMethod.returnBook returnedAt self)
  | cancel reason, self => ending (LoanMethod.cancel reason self)
  | markOverdue currentTime, self => ending (LoanMethod.markOverdue currentTime self)
  | extend days currentTime, self => ending (LoanMethod.extend days currentTime self)

theorem LoanCall.atomic (call : LoanCall) (loan : Loan) (pending : List AggregateEvent)
    {error : Raised} (hraise : call.outcome (.of Loan.fields loan pending) = .error error) :
    call.perform (.of Loan.fields loan pending) = .of Loan.fields loan pending := by
  cases call with
  | returnBook => exact (LoanMethod.returnBook_carriesOut loan _).atomic_of_ending hraise
  | cancel => exact (LoanMethod.cancel_carriesOut loan _).atomic_of_ending hraise
  | markOverdue => exact (LoanMethod.markOverdue_carriesOut loan _).atomic_of_ending hraise
  | extend => exact (LoanMethod.extend_carriesOut loan _ _).atomic_of_ending hraise

/-- The columns `LoanCommandRepository.update` does not set. -/
def Loan.fixed (loan : Loan) :
    Reference × Reference × EmailAddress × Reference × Uuid × ℤ × BoundedText 100 ×
      UtcDateTime :=
  (loan.id, loan.patron_id, loan.patron_email, loan.catalog_book_id, loan.reservation_id,
    loan.reservation_generation, loan.book_title, loan.borrowed_at)

theorem Loan.fixed_eq {loan after : Loan} {status : LoanStatus} {due : UtcDateTime}
    {returned : Option UtcDateTime}
    (hfields : after.fields =
      { loan.fields with status := status, due_date := due, returned_at := returned }) :
    after.fixed = loan.fixed := by
  simp only [Loan.fields, LoanFields.mk.injEq] at hfields
  simp only [fixed, hfields]

/-- No call changes what an UPDATE does not write. -/
theorem LoanCall.answer_fixed (call : LoanCall) (loan : Loan) :
    (call.answer loan).1.fixed = loan.fixed := by
  rcases call.answer_cases loan with hnone | ⟨after, event, hone, hadvance⟩
  · rw [hnone]
  · rw [hone]
    cases hadvance with
    | completed _ _ hfields => exact Loan.fixed_eq hfields
    | cancelled _ hfields => exact Loan.fixed_eq hfields
    | overdue _ _ _ hfields => exact Loan.fixed_eq hfields
    | extended _ _ hfields => exact Loan.fixed_eq hfields

theorem LoanCall.answer_id (call : LoanCall) (loan : Loan) :
    (call.answer loan).1.id = loan.id :=
  congrArg Prod.fst (call.answer_fixed loan)

/-- The ways a loan comes to be; the factory draws a fresh id. -/
inductive Loan.Constructed (rt : PythonRuntime) : Loan → Prop
  | init {args : LoanArguments} {loan : Loan} (hinit : Loan.postInit rt args = .ok loan) :
      Constructed rt loan
  | create {nextId : Uuid} {patronId patronEmail catalogBookId bookTitle reservationId : PyStr}
      {days : ℤ} {borrowedAt : DateTime} {generation : ℤ} {loan : Loan}
      {created : List AggregateEvent}
      (hcreate : Loan.create rt (uuidReference nextId) patronId patronEmail catalogBookId
        bookTitle days borrowedAt reservationId generation = .ok (loan, created)) :
      Constructed rt loan

theorem Loan.Constructed.canonical {rt : PythonRuntime} {loan : Loan}
    (hconstructed : Loan.Constructed rt loan) : loan.id.Canonical rt := by
  cases hconstructed with
  | init hinit => exact canonical_of_postInit hinit
  | create hcreate => exact canonical_of_create hcreate

/-- The row of a loan is accepted and read back field by field. -/
def LoanModel.Rehydrates (rt : PythonRuntime) (db : SqlText) (version : ℕ)
    (self : LoanFields) : Prop :=
  (fromEntity self version).Accepted db ∧
    ∃ loan, (fromEntity self version).toEntity rt = .ok (loan, (version : ℤ)) ∧
      loan.fields = self

theorem LoanModel.rehydrates {rt : PythonRuntime} {loan : Loan} (hid : loan.id.Canonical rt)
    (db : SqlText) (version : ℕ) : Rehydrates rt db version loan.fields :=
  ⟨accepted_fromEntity db loan version, loan, toEntity_fromEntity loan version hid, rfl⟩

/-! ## Patrons -/

/-- The columns `PatronCommandRepository.update` does not set. -/
def Patron.fixed (patron : Patron) : Reference × UtcDateTime :=
  (patron.id, patron.registered_at)

inductive PatronCall
  | suspend (reason : PyStr)
  | reinstate
  | upgradeTier (newTier : MembershipTier)

abbrev PatronObject := Object PatronFields AggregateEvent

namespace PatronCall

/-- The object after the call, whether it returned or raised. -/
def perform : PatronCall → PatronObject → PatronObject
  | suspend reason, self => (PatronMethod.suspend reason self).2
  | reinstate, self => (PatronMethod.reinstate self).2
  | upgradeTier newTier, self => (PatronMethod.upgradeTier newTier self).2

/-- Whether the call returned or raised. -/
def outcome : PatronCall → PatronObject → Except Raised Unit
  | suspend reason, self => ending (PatronMethod.suspend reason self)
  | reinstate, self => ending (PatronMethod.reinstate self)
  | upgradeTier newTier, self => ending (PatronMethod.upgradeTier newTier self)

def performAll (calls : List PatronCall) (self : PatronObject) : PatronObject :=
  calls.foldl (fun self call => call.perform self) self

/-- The transition of a valid patron. -/
def answer (patron : Patron) : PatronCall → Patron × List AggregateEvent
  | suspend reason => settled patron (silently (patron.suspend reason))
  | reinstate => settled patron (silently patron.reinstate)
  | upgradeTier newTier => settled patron (silently (patron.upgradeTier newTier))

theorem perform_of (call : PatronCall) (patron : Patron) (pending : List AggregateEvent) :
    call.perform (.of Patron.fields patron pending) =
      .of Patron.fields (call.answer patron).1 (pending ++ (call.answer patron).2) := by
  cases call with
  | suspend => exact (PatronMethod.suspend_carriesOut patron _).object pending
  | reinstate => exact (PatronMethod.reinstate_carriesOut patron).object pending
  | upgradeTier => exact (PatronMethod.upgradeTier_carriesOut patron _).object pending

theorem performAll_of (calls : List PatronCall) (patron : Patron)
    (pending : List AggregateEvent) :
    performAll calls (.of Patron.fields patron pending) =
      .of Patron.fields (history (fun patron call => call.answer patron) patron calls).1
        (pending ++ (history (fun patron call => call.answer patron) patron calls).2) :=
  foldl_perform perform_of calls patron pending

theorem atomic (call : PatronCall) (patron : Patron) (pending : List AggregateEvent)
    {error : Raised} (hraise : call.outcome (.of Patron.fields patron pending) = .error error) :
    call.perform (.of Patron.fields patron pending) = .of Patron.fields patron pending := by
  cases call with
  | suspend => exact (PatronMethod.suspend_carriesOut patron _).atomic_of_ending hraise
  | reinstate => exact (PatronMethod.reinstate_carriesOut patron).atomic_of_ending hraise
  | upgradeTier => exact (PatronMethod.upgradeTier_carriesOut patron _).atomic_of_ending hraise

/-- No call changes what an UPDATE does not write. -/
theorem answer_fixed (call : PatronCall) (patron : Patron) :
    (call.answer patron).1.fixed = patron.fixed := by
  cases call with
  | suspend reason =>
      simp only [answer, Patron.suspend, silently_ite, silently_bind]
      split
      · rfl
      · cases foldText 500 (Raised.patron .invalidSuspensionReason)
            (.patron .invalidSuspensionReason) reason <;> rfl
  | reinstate =>
      simp only [answer, Patron.reinstate, silently_ite, silently_bind]
      split <;> rfl
  | upgradeTier newTier =>
      simp only [answer, Patron.upgradeTier, silently_ite, silently_bind]
      split <;> rfl

theorem answer_id (call : PatronCall) (patron : Patron) :
    (call.answer patron).1.id = patron.id :=
  congrArg Prod.fst (call.answer_fixed patron)

end PatronCall

/-- The ways a patron comes to be; the factory draws a fresh id. -/
inductive Patron.Constructed (rt : PythonRuntime) : Patron → Prop
  | init {args : PatronArguments} {patron : Patron}
      (hinit : Patron.postInit rt args = .ok patron) : Constructed rt patron
  | register {nextId : Uuid} {name : PatronName} {email : EmailAddress}
      {registeredAt : DateTime} {tier : MembershipTier} {patron : Patron}
      {events : List AggregateEvent}
      (hregister : Patron.register (uuidReference nextId) name email registeredAt tier =
        .ok (patron, events)) : Constructed rt patron

theorem Patron.Constructed.canonical {rt : PythonRuntime} {patron : Patron}
    (hconstructed : Patron.Constructed rt patron) : patron.id.Canonical rt := by
  cases hconstructed with
  | init hinit => exact canonical_of_postInit hinit
  | register hregister => exact canonical_of_register hregister

/-- The row of a patron is accepted and read back field by field. -/
def PatronModel.Rehydrates (rt : PythonRuntime) (db : SqlText) (version : ℕ)
    (self : PatronFields) : Prop :=
  (fromEntity self version).Accepted db ∧
    ∃ patron, (fromEntity self version).toEntity rt = .ok (patron, (version : ℤ)) ∧
      patron.fields = self

theorem PatronModel.rehydrates {rt : PythonRuntime} {patron : Patron}
    (hid : patron.id.Canonical rt) (db : SqlText) (version : ℕ) :
    Rehydrates rt db version patron.fields :=
  ⟨accepted_fromEntity db patron version, patron, toEntity_fromEntity patron version hid, rfl⟩

/-! ## Every history -/

theorem transitions_rehydratable (rt : PythonRuntime) (db : SqlText) (version : ℕ)
    (pending : List AggregateEvent) :
    (∀ args book, Book.postInit rt args = .ok book → ∀ calls,
      Settles (BookCall.outcome rt) (BookCall.perform rt) (BookModel.Rehydrates rt db version)
        (BookCall.performAll rt calls (.of Book.fields book pending))) ∧
    (∀ loan, Loan.Constructed rt loan → ∀ calls,
      Settles LoanCall.outcome LoanCall.perform (LoanModel.Rehydrates rt db version)
        (LoanCall.performAll calls (.of Loan.fields loan pending))) ∧
    (∀ patron, Patron.Constructed rt patron → ∀ calls,
      Settles PatronCall.outcome PatronCall.perform (PatronModel.Rehydrates rt db version)
        (PatronCall.performAll calls (.of Patron.fields patron pending))) := by
  refine ⟨fun args book hinit calls call => ?_, fun loan hconstructed calls call => ?_,
    fun patron hconstructed calls call => ?_⟩
  · rw [BookCall.performAll_of]
    refine ⟨fun error hraise => BookCall.atomic rt call _ _ hraise, fun _ => ?_⟩
    rw [BookCall.perform_of]
    refine BookModel.rehydrates ?_ db version
    rw [BookCall.answer_id, history_fixed Book.id fun book call => call.answer_id rt book]
    exact Book.canonical_of_postInit hinit
  · rw [LoanCall.performAll_of]
    refine ⟨fun error hraise => LoanCall.atomic call _ _ hraise, fun _ => ?_⟩
    rw [LoanCall.perform_of]
    refine LoanModel.rehydrates ?_ db version
    rw [LoanCall.answer_id, history_fixed Loan.id fun loan call => call.answer_id loan]
    exact hconstructed.canonical
  · rw [PatronCall.performAll_of]
    refine ⟨fun error hraise => PatronCall.atomic call _ _ hraise, fun _ => ?_⟩
    rw [PatronCall.perform_of]
    refine PatronModel.rehydrates ?_ db version
    rw [PatronCall.answer_id, history_fixed Patron.id fun patron call => call.answer_id patron]
    exact hconstructed.canonical

def asciiSqlText : SqlText := ⟨asciiRuntime.lower, asciiRuntime.lower_ascii⟩

def registeredReading : Except Raised (Patron × List AggregateEvent) :=
  Patron.register (uuidReference 2)
    ⟨⟨py "Eve", by decide, by decide, by decide⟩, ⟨py "Moss", by decide, by decide, by decide⟩⟩
    ⟨py "eve@moss.org", by decide, by decide, by decide⟩ (.ofUtc 0) .regular

theorem registeredReading_ok : ∃ patron events, registeredReading = .ok (patron, events) := by
  unfold registeredReading Patron.register
  rw [requireUtcDatetime_ofUtc]
  exact ⟨_, _, rfl⟩

/-- After a whole borrowing the book is reserved again; a second reservation raises. -/
theorem transitions_rehydratable_borrowing :
    let self := BookCall.performAll asciiRuntime borrowingCalls (.of Book.fields shelvedBook [])
    let again := BookCall.reserve 9 (py "p1") (py "ann@lee.org") (.ofUtc 0) none
    BookModel.Rehydrates asciiRuntime asciiSqlText 3 (again.perform asciiRuntime self).fields ∧
      (∃ error, again.outcome asciiRuntime (again.perform asciiRuntime self) = .error error ∧
        again.perform asciiRuntime (again.perform asciiRuntime self) =
          again.perform asciiRuntime self) ∧
      (∃ loan created, lentReading = .ok (loan, created) ∧
        Settles LoanCall.outcome LoanCall.perform
          (LoanModel.Rehydrates asciiRuntime asciiSqlText 3)
          (LoanCall.performAll lendingCalls (.of Loan.fields loan []))) ∧
      ∃ patron events, registeredReading = .ok (patron, events) ∧
        Settles PatronCall.outcome PatronCall.perform
          (PatronModel.Rehydrates asciiRuntime asciiSqlText 3)
          (PatronCall.performAll [.suspend (py "late"), .suspend (py "later")]
            (.of Patron.fields patron [])) := by
  intro self again
  obtain ⟨hbooks, hloans, hpatrons⟩ :=
    transitions_rehydratable asciiRuntime asciiSqlText 3 []
  have hshelved : Book.postInit asciiRuntime shelvedBook.fields.arguments = .ok shelvedBook :=
    Book.postInit_fields (uuidReference_canonical asciiRuntime 7)
  have hreserved : (again.outcome asciiRuntime self).toOption = some () := by decide +kernel
  have hrefused : (again.outcome asciiRuntime (again.perform asciiRuntime self)).toOption =
      none := by decide +kernel
  have hlent : lentReading.toOption.isSome = true := by decide +kernel
  obtain ⟨⟨loan, created⟩, hmade⟩ := Option.isSome_iff_exists.mp hlent
  have hloan : lentReading = .ok (loan, created) := ok_of_toOption hmade
  obtain ⟨patron, events, hpatron⟩ := registeredReading_ok
  refine ⟨(hbooks _ _ hshelved borrowingCalls again).2 (ok_of_toOption hreserved), ?_,
    ⟨loan, created, hloan, hloans loan (.create hloan) _⟩,
    patron, events, hpatron, hpatrons patron (.register hpatron) _⟩
  cases houtcome : again.outcome asciiRuntime (again.perform asciiRuntime self) with
  | ok value =>
      rw [houtcome] at hrefused
      cases hrefused
  | error error =>
      have hlast : BookCall.performAll asciiRuntime (borrowingCalls ++ [again])
          (.of Book.fields shelvedBook []) = again.perform asciiRuntime self :=
        List.foldl_append
      have hsettles := hbooks _ _ hshelved (borrowingCalls ++ [again]) again
      rw [hlast] at hsettles
      exact ⟨error, rfl, hsettles.1 error houtcome⟩

end LibrarySystem
