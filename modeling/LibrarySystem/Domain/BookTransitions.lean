import LibrarySystem.Domain.Catalog
import LibrarySystem.Foundation.Result

/-!
# What a transition of a book does

One inversion lemma for each transition: when it is accepted, and the book it leaves.
-/

namespace LibrarySystem

open Result

namespace Book

variable {rt : PythonRuntime}

theorem requireMatchingReservation_ok {book : Book} {reservationId : PyStr}
    {generation : ℤ} {patronId operation : PyStr} {token : Uuid}
    (hmatch : requireMatchingReservation rt book reservationId generation patronId
      operation = .ok token) :
    parseReservationId rt reservationId = .ok token ∧
      book.state.reservation_id = some token ∧
      (book.state.reservation_generation : ℤ) = generation ∧
      book.state.reserved_patron_id.map Subtype.val = some patronId := by
  unfold requireMatchingReservation at hmatch
  obtain ⟨parsed, hparsed, hrest⟩ := bind_eq_ok.mp hmatch
  split at hrest
  · rename_i hsame
    cases hrest
    exact ⟨hparsed, hsame⟩
  · cases hrest

theorem reserve_ok {nextId : Uuid} {book after : Book} {patronId borrowerEmail : PyStr}
    {reservedAt : DateTime} {reservationId : Option PyStr} {token : Uuid}
    {events : List AggregateEvent}
    (hreserve : reserve rt nextId book patronId borrowerEmail reservedAt reservationId =
      .ok (after, token, events)) :
    book.state.status = .available ∧
      drawReservationId rt nextId reservationId = .ok token ∧
      ∃ patron email reserved,
        normalizeReference patronId (py "patron_id") = .ok patron ∧
        EmailAddress.parse rt borrowerEmail = .ok email ∧
        requireUtcDatetime reservedAt (py "reserved_at") = .ok reserved ∧
        after.id = book.id ∧ after.title = book.title ∧ after.author = book.author ∧
        after.last_completed_loan_id = book.last_completed_loan_id ∧
        after.state =
          { status := .reserved
            reserved_at := some reserved
            borrowed_at := none
            return_due_date := none
            reservation_id := some token
            reservation_generation := book.state.reservation_generation + 1
            reserved_patron_id := some patron
            reserved_patron_email := some email
            current_loan_id := none } ∧
        events =
          [.catalogBookReserved
            { book_id := book.id.val
              title := book.title.value
              reservation_id := uuidText token
              reservation_generation := (book.state.reservation_generation + 1 : ℕ)
              patron_id := patron.val
              reserved_at := .ofUtc reserved
              borrower_email := email.value }] := by
  unfold reserve at hreserve
  simp only [bind_eq_ok, throw_eq, error_bind, pure_eq, guard_eq_ok, not_not,
    Except.ok.injEq, Prod.mk.injEq] at hreserve
  obtain ⟨hstatus, -, patron, hpatron, email, hemail, reserved, hreserved, drawn, hdrawn,
    rfl, rfl, rfl⟩ := hreserve
  exact ⟨hstatus, hdrawn, patron, email, reserved, hpatron, hemail, hreserved, rfl, rfl, rfl,
    rfl, rfl, rfl⟩

theorem confirmBorrow_ok {book after : Book} {reservationId patronId loanId : PyStr}
    {generation : ℤ} {borrowedAt returnDueDate : DateTime} {events : List AggregateEvent}
    (hconfirm : confirmBorrow rt book reservationId generation patronId loanId borrowedAt
      returnDueDate = .ok (after, true, events)) :
    ∃ token loan borrowed due email,
      parseReservationId rt reservationId = .ok token ∧
      book.state.reservation_id = some token ∧
      (book.state.reservation_generation : ℤ) = generation ∧
      book.state.reserved_patron_id.map Subtype.val = some patronId ∧
      normalizeReference loanId (py "loan_id") = .ok loan ∧
      book.state.status = .reserved ∧
      after.id = book.id ∧ after.title = book.title ∧ after.author = book.author ∧
      after.last_completed_loan_id = book.last_completed_loan_id ∧
      after.state =
        { book.state with
          status := .borrowed
          reserved_at := none
          current_loan_id := some loan
          borrowed_at := some borrowed
          return_due_date := some due } ∧
      book.state.reserved_patron_email = some email ∧
      events =
        [.catalogBookBorrowed
          { book_id := book.id.val
            title := book.title.value
            reservation_id := uuidText token
            reservation_generation := book.state.reservation_generation
            patron_id := patronId
            loan_id := loan.val
            borrowed_at := .ofUtc borrowed
            return_due_date := .ofUtc due
            borrower_email := email.value }] := by
  unfold confirmBorrow at hconfirm
  simp only [bind_eq_ok, throw_eq, error_bind, pure_eq] at hconfirm
  obtain ⟨token, hmatch, loan, hloan, borrowed, hborrowed, due, hdue, hrest⟩ := hconfirm
  obtain ⟨htoken, hreservation, hgeneration, hpatron⟩ := requireMatchingReservation_ok hmatch
  split at hrest
  · split at hrest <;> cases hrest
  · split at hrest
    · cases hrest
    · rename_i hreserved
      split at hrest
      · cases hrest
      · split at hrest
        · cases hrest
        · cases hrest
          have hstatus : book.state.status = .reserved := by
            by_contra hne
            exact hreserved (Or.inl hne)
          exact ⟨token, loan, borrowed, due, _, htoken, hreservation, hgeneration, hpatron,
            hloan, hstatus, rfl, rfl, rfl, rfl, rfl, (Option.some_get _).symm, rfl⟩

/-- An exact redelivery of an applied confirmation. -/
theorem confirmBorrow_unchanged {book after : Book} {reservationId patronId loanId : PyStr}
    {generation : ℤ} {borrowedAt returnDueDate : DateTime} {events : List AggregateEvent}
    (hconfirm : confirmBorrow rt book reservationId generation patronId loanId borrowedAt
      returnDueDate = .ok (after, false, events)) :
    after = book ∧ events = [] := by
  unfold confirmBorrow at hconfirm
  simp only [bind_eq_ok, throw_eq, error_bind, pure_eq] at hconfirm
  obtain ⟨_, -, _, -, _, -, _, -, hrest⟩ := hconfirm
  split at hrest
  · split at hrest
    · cases hrest
    · cases hrest
      exact ⟨rfl, rfl⟩
  · split at hrest
    · cases hrest
    · split at hrest
      · cases hrest
      · split at hrest <;> cases hrest

theorem release_ok {book after : Book} {reservationId patronId reason : PyStr}
    {generation : ℤ} {changed : Bool} {events : List AggregateEvent}
    (hrelease : release rt book reservationId generation patronId reason =
      .ok (after, changed, events)) :
    ∃ token, ∃ text : BoundedText 500,
      parseReservationId rt reservationId = .ok token ∧
      book.state.reservation_id = some token ∧
      (book.state.reservation_generation : ℤ) = generation ∧
      book.state.reserved_patron_id.map Subtype.val = some patronId ∧
      text.value = PyStr.collapse reason ∧
      ((changed = false ∧ after = book ∧ events = [] ∧ book.state.status = .available) ∨
        (changed = true ∧ book.state.status = .reserved ∧
          after.id = book.id ∧ after.title = book.title ∧ after.author = book.author ∧
          after.last_completed_loan_id = book.last_completed_loan_id ∧
          after.state =
            { book.state with
              status := .available
              reserved_at := none
              borrowed_at := none
              return_due_date := none } ∧
          events =
            [.catalogBookReleased
              { book_id := book.id.val
                reservation_id := uuidText token
                reservation_generation := generation
                patron_id := patronId
                reason := text.value }])) := by
  unfold release at hrelease
  simp only [bind_eq_ok, throw_eq, pure_eq] at hrelease
  obtain ⟨token, hmatch, text, htext, hrest⟩ := hrelease
  obtain ⟨htoken, hreservation, hgeneration, hpatron⟩ := requireMatchingReservation_ok hmatch
  refine ⟨token, text, htoken, hreservation, hgeneration, hpatron, foldText_value htext, ?_⟩
  split at hrest
  · rename_i hstatus
    cases hrest
    exact Or.inl ⟨rfl, rfl, rfl, hstatus⟩
  · split at hrest
    · rename_i hstatus
      cases hrest
      exact Or.inr ⟨rfl, hstatus, rfl, rfl, rfl, rfl, rfl, rfl⟩
    · cases hrest

theorem requireReturnCorrelation_ok {book : Book} {loan : Reference} {token : Uuid}
    {generation : ℤ} {patronId : PyStr}
    (hcorrelation : requireReturnCorrelation book loan token generation patronId = .ok ()) :
    book.state.reservation_id = some token ∧
      (book.state.reservation_generation : ℤ) = generation ∧
      book.state.reserved_patron_id.map Subtype.val = some patronId := by
  unfold requireReturnCorrelation at hcorrelation
  by_cases hreservation : book.state.reservation_id = some token
  · by_cases hgeneration : (book.state.reservation_generation : ℤ) = generation
    · refine ⟨hreservation, hgeneration, ?_⟩
      simpa [hreservation, hgeneration] using hcorrelation
    · simp [hreservation, hgeneration] at hcorrelation
  · simp [hreservation] at hcorrelation

theorem returnBook_ok {book after : Book} {loanId reservationId patronId : PyStr}
    {generation : ℤ} {events : List AggregateEvent}
    (hreturn : returnBook rt book loanId reservationId generation patronId =
      .ok (after, true, events)) :
    ∃ token, ∃ loan patron : Reference,
      normalizeReference loanId (py "loan_id") = .ok loan ∧
      parseReservationId rt reservationId = .ok token ∧
      book.state.reservation_id = some token ∧
      (book.state.reservation_generation : ℤ) = generation ∧
      book.state.reserved_patron_id = some patron ∧ patron.val = patronId ∧
      book.state.status = .borrowed ∧ book.state.current_loan_id = some loan ∧
      after.id = book.id ∧ after.title = book.title ∧ after.author = book.author ∧
      after.last_completed_loan_id = some loan ∧
      after.state =
        { book.state with
          status := .available
          borrowed_at := none
          return_due_date := none
          current_loan_id := none } ∧
      events =
        [.catalogBookReturned
          { book_id := book.id.val
            loan_id := loan.val
            reservation_id := uuidText token
            reservation_generation := book.state.reservation_generation
            patron_id := patron.val }] := by
  unfold returnBook at hreturn
  simp only [bind_eq_ok, throw_eq, error_bind, pure_eq] at hreturn
  obtain ⟨loan, hloan, token, htoken, hrest⟩ := hreturn
  split at hrest
  · split at hrest
    · cases hrest
    · obtain ⟨_, -, hrest⟩ := bind_eq_ok.mp hrest
      cases hrest
  · split at hrest
    · rename_i hborrowed
      obtain ⟨_, hcorrelation, hrest⟩ := bind_eq_ok.mp hrest
      obtain ⟨hreservation, hgeneration, hpatron⟩ := requireReturnCorrelation_ok hcorrelation
      obtain ⟨patron, hsome, hpatron⟩ := Option.map_eq_some_iff.mp hpatron
      cases hrest
      refine ⟨token, loan, patron, hloan, htoken, hreservation, hgeneration, hsome, hpatron,
        hborrowed.1, hborrowed.2, rfl, rfl, rfl, rfl, rfl, ?_⟩
      simp [hreservation, hsome]
    · cases hrest

/-- An exact redelivery of an applied return. -/
theorem returnBook_unchanged {book after : Book} {loanId reservationId patronId : PyStr}
    {generation : ℤ} {events : List AggregateEvent}
    (hreturn : returnBook rt book loanId reservationId generation patronId =
      .ok (after, false, events)) :
    after = book ∧ events = [] := by
  unfold returnBook at hreturn
  simp only [bind_eq_ok, throw_eq, error_bind, pure_eq] at hreturn
  obtain ⟨_, -, _, -, hrest⟩ := hreturn
  split at hrest
  · split at hrest
    · cases hrest
    · obtain ⟨_, -, hrest⟩ := bind_eq_ok.mp hrest
      cases hrest
      exact ⟨rfl, rfl⟩
  · split at hrest
    · obtain ⟨_, -, hrest⟩ := bind_eq_ok.mp hrest
      cases hrest
    · cases hrest

end Book

end LibrarySystem
