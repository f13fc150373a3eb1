import LibrarySystem.Application.Lineage
import LibrarySystem.Application.Reservations
import LibrarySystem.Persistence.Constructors

/-!
# Books and their borrow operations

Two state machines in two tables: the reservation a book holds, and the operation that
follows it.  Every transaction moves them together, so that an operation is open exactly
while its book holds the reservation, and the compare-and-set of an operation succeeds
whenever the book accepts the transition that goes with it.
-/

namespace LibrarySystem

open Run (Knowledge)

/-- The operation has come to its end. -/
def BorrowOperation.settled (operation : BorrowOperation) : Bool :=
  operation.status = .released || operation.status = .returned

/-- What is stored under the reservation of a row. -/
def BookRow.Mirrored (row : BookRow) (stored : Option BorrowOperation) : Prop :=
  match row.state.status with
  | .reserved => ∃ operation, stored = some operation ∧ operation.Holds row
  | .borrowed =>
      ∃ operation, stored = some operation ∧ operation.status = .borrowed ∧
        operation.Concerns row ∧ ∃ text loan, operation.loan_id = some text ∧
          Book.normalizeReference text (py "loan_id") = .ok loan ∧
          row.state.current_loan_id = some loan
  | .available => ∀ operation, stored = some operation →
      operation.settled = true ∧ operation.Concerns row

/-- The books and the operations agree. -/
structure Database.Mirrors (db : Database) : Prop where
  valid : ∀ row ∈ db.books.rows, row.state.Ok
  unique : ∀ row ∈ db.books.rows, ∀ other ∈ db.books.rows,
    row.state.reservation_id.isSome →
      other.state.reservation_id = row.state.reservation_id → other = row
  current : ∀ row ∈ db.books.rows, ∀ token, row.state.reservation_id = some token →
    row.Mirrored (db.borrow_operations.lookup (uuidText token))
  pending : ∀ key operation, db.borrow_operations.lookup key = some operation →
    operation.settled = false → ∃ row ∈ db.books.rows, ∃ token,
      row.state.reservation_id = some token ∧ key = uuidText token ∧
      operation.book_id = row.id.val

/-! ## What moves an operation -/

/-- The operation moves from where the book was to where it goes. -/
inductive OperationTransition.Pivots (change : OperationTransition) (book after : Book) : Prop
  | confirmed (hchange : change.status = .borrowed)
      (hbefore : book.state.status = .reserved) (hafter : after.state.status = .borrowed)
      (hloan : ∃ text loan, change.loan_id = some text ∧
        Book.normalizeReference text (py "loan_id") = .ok loan ∧
        after.state.current_loan_id = some loan)
  | released (hchange : change.status = .released)
      (hbefore : book.state.status = .reserved) (hafter : after.state.status = .available)
  | returned (hchange : change.status = .returned)
      (hbefore : book.state.status = .borrowed) (hafter : after.state.status = .available)

/-- A change of the operation that goes with a transition of the book. -/
structure OperationTransition.Tracks (rt : PythonRuntime) (change : OperationTransition)
    (book after : Book) : Prop where
  id : after.id = book.id
  reservation : after.state.reservation_id = book.state.reservation_id
  patron : after.state.reserved_patron_id = book.state.reserved_patron_id
  generation : after.state.reservation_generation = book.state.reservation_generation
  token : ∃ token, Book.parseReservationId rt change.operation_id = .ok token ∧
    book.state.reservation_id = some token
  namesBook : change.book_id = book.id.val
  namesPatron : book.state.reserved_patron_id.map Subtype.val = some change.patron_id
  namesGeneration : change.reservation_generation = book.state.reservation_generation
  stateOk : ∀ operation, (change.write operation).stateOk = true
  reason : ∀ reason ∈ change.failure_reason, reason.length ≤ 500
  pivots : change.Pivots book after

theorem OperationTransition.stateOk_released {change : OperationTransition} {reason : PyStr}
    (hstatus : change.status = .released) (hloan : change.loan_id = none)
    (hreason : change.failure_reason = some reason)
    (hbounded : Sql.isBoundedText 500 reason = true)
    (operation : BorrowOperation) : (change.write operation).stateOk = true := by
  simp [OperationTransition.write, BorrowOperation.stateOk, hstatus, hloan, hreason, hbounded]

namespace Request.Moves

variable {rt : PythonRuntime} {request : Request} {book after : Book}
  {change : OperationTransition}

/-- Of each message, the operation tracks the book. -/
theorem tracks (hmoves : request.Moves rt (.book book) (.book after)
    [.transitionOperation change]) : change.Tracks rt book after := by
  cases hmoves with
  | confirm command hbook hconfirm =>
      obtain ⟨token, loan, _, _, _, htoken, hreservation, hgeneration, hpatron, hloan, hstatus,
        hid, -, -, -, hstate, -, -⟩ := Book.confirmBorrow_ok hconfirm
      exact
        { id := hid
          reservation := by rw [hstate]
          patron := by rw [hstate]
          generation := by rw [hstate]
          token := ⟨token, htoken, hreservation⟩
          namesBook := hbook.symm
          namesPatron := hpatron
          namesGeneration := hgeneration.symm
          stateOk := fun _ => rfl
          reason := by rintro reason ⟨⟩
          pivots := .confirmed rfl hstatus (by rw [hstate])
            ⟨command.loan_id, loan, rfl, hloan, by rw [hstate]⟩ }
  | release command hbook hrelease =>
      obtain ⟨token, text, htoken, hreservation, hgeneration, hpatron, htext,
        ⟨hchanged, -⟩ | ⟨-, hstatus, hid, -, -, -, hstate, -⟩⟩ := Book.release_ok hrelease
      · cases hchanged
      · rw [PyStr.collapse_collapse] at htext
        exact
          { id := hid
            reservation := by rw [hstate]
            patron := by rw [hstate]
            generation := by rw [hstate]
            token := ⟨token, htoken, hreservation⟩
            namesBook := hbook.symm
            namesPatron := hpatron
            namesGeneration := hgeneration.symm
            stateOk := OperationTransition.stateOk_released rfl rfl rfl
              (htext ▸ Sql.isBoundedText_value text)
            reason := by
              rintro reason ⟨⟩
              rw [← htext]
              exact text.bounded
            pivots := .released rfl hstatus (by rw [hstate]) }
  | expire command htoken hpatron hrelease =>
      obtain ⟨_, text, -, -, -, -, -,
        ⟨hchanged, -⟩ | ⟨-, hstatus, hid, -, -, -, hstate, -⟩⟩ := Book.release_ok hrelease
      · cases hchanged
      · exact
          { id := hid
            reservation := by rw [hstate]
            patron := by rw [hstate]
            generation := by rw [hstate]
            token := ⟨_, parseReservationId_uuidText, htoken⟩
            namesBook := congrArg Subtype.val hid
            namesPatron := by
              rw [hpatron]
              rfl
            namesGeneration := by
              simp only [ReleaseExpiredReservationsHandler.change, hstate]
            stateOk := OperationTransition.stateOk_released rfl rfl rfl (by decide +kernel)
            reason := by
              rintro reason ⟨⟩
              decide +kernel
            pivots := .released rfl hstatus (by rw [hstate]) }
  | giveBack command hbook hreturn =>
      obtain ⟨token, loan, patron, -, htoken, hreservation, hgeneration, hsome, hpatron,
        hstatus, -, hid, -, -, -, hstate, -⟩ := Book.returnBook_ok hreturn
      exact
        { id := hid
          reservation := by rw [hstate]
          patron := by rw [hstate]
          generation := by rw [hstate]
          token := ⟨token, htoken, hreservation⟩
          namesBook := hbook.symm
          namesPatron := by
            rw [hsome]
            exact congrArg some hpatron
          namesGeneration := hgeneration.symm
          stateOk := fun _ => rfl
          reason := by rintro reason ⟨⟩
          pivots := .returned rfl hstatus (by rw [hstate]) }

end Request.Moves

/-! ## What keeps the two tables in step -/

/-- The statements on the two tables. -/
def Statement.circulates : Statement → Bool
  | insertAggregate (.book _) | updateAggregate _ (.book _) | insertOperation _ _
  | transitionOperation _ => true
  | _ => false

theorem Statement.circulates_of_isReceipt {statement : Statement}
    (hreceipt : statement.isReceipt = true) : statement.circulates = false := by
  cases statement <;> first | rfl | cases hreceipt

namespace Database

variable {db after : Database}

theorem Effect.circulation_kept {statement : Statement} (heffect : Effect db statement after)
    (hquiet : statement.circulates = false) :
    after.books = db.books ∧ after.borrow_operations = db.borrow_operations := by
  cases heffect <;> first | exact ⟨rfl, rfl⟩ | cases hquiet

theorem Effects.circulation_kept {statements : List Statement}
    (heffects : Effects db statements after)
    (hquiet : ∀ statement ∈ statements, statement.circulates = false) :
    after.books = db.books ∧ after.borrow_operations = db.borrow_operations := by
  induction heffects with
  | nil => exact ⟨rfl, rfl⟩
  | @cons _ _ _ statement rest hfirst _ ih =>
      obtain ⟨hbooks, hoperations⟩ :=
        ih fun other hother => hquiet other (List.mem_cons_of_mem _ hother)
      obtain ⟨hbooks', hoperations'⟩ :=
        hfirst.circulation_kept (hquiet statement List.mem_cons_self)
      exact ⟨hbooks.trans hbooks', hoperations.trans hoperations'⟩

theorem Effects.receipts_kept {statements : List Statement}
    (heffects : Effects db statements after)
    (hreceipts : statements.all Statement.isReceipt = true) :
    after.books = db.books ∧ after.borrow_operations = db.borrow_operations :=
  heffects.circulation_kept fun statement hmem =>
    Statement.circulates_of_isReceipt (List.all_eq_true.mp hreceipts statement hmem)

namespace Mirrors

theorem congr (hmirrors : db.Mirrors) (hbooks : after.books = db.books)
    (hoperations : after.borrow_operations = db.borrow_operations) : after.Mirrors := by
  constructor
  · rw [hbooks]
    exact hmirrors.valid
  · rw [hbooks]
    exact hmirrors.unique
  · rw [hbooks, hoperations]
    exact hmirrors.current
  · rw [hbooks, hoperations]
    exact hmirrors.pending

/-- Retention takes away operations that have come to their end. -/
theorem upkeep (hmirrors : db.Mirrors) (hupkeep : Upkeep db after) : after.Mirrors := by
  have hgone : ∀ key operation, db.borrow_operations.lookup key = some operation →
      operation.settled = false → after.borrow_operations.lookup key = some operation := by
    intro key operation hlookup hopen
    rcases hupkeep.operations key with hsame | ⟨-, found, hfound, hsettled⟩
    · rw [hsame, hlookup]
    · rw [hlookup, Option.some.injEq] at hfound
      subst found
      simp only [BorrowOperation.settled, Bool.or_eq_false_iff, decide_eq_false_iff_not] at hopen
      exact absurd hsettled (not_or.mpr hopen)
  constructor
  · rw [hupkeep.books]
    exact hmirrors.valid
  · rw [hupkeep.books]
    exact hmirrors.unique
  · rw [hupkeep.books]
    intro row hrow token htoken
    have hmirrored := hmirrors.current row hrow token htoken
    cases hstatus : row.state.status with
    | reserved =>
        simp only [BookRow.Mirrored, hstatus] at hmirrored ⊢
        obtain ⟨operation, hlookup, hholds⟩ := hmirrored
        refine ⟨operation, hgone _ _ hlookup ?_, hholds⟩
        simp [BorrowOperation.settled, hholds.status]
    | borrowed =>
        simp only [BookRow.Mirrored, hstatus] at hmirrored ⊢
        obtain ⟨operation, hlookup, hborrowed, hrest⟩ := hmirrored
        refine ⟨operation, hgone _ _ hlookup ?_, hborrowed, hrest⟩
        simp [BorrowOperation.settled, hborrowed]
    | available =>
        simp only [BookRow.Mirrored, hstatus] at hmirrored ⊢
        intro operation hlookup
        rcases hupkeep.operations (uuidText token) with hsame | ⟨hnone, -⟩
        · exact hmirrored operation (hsame ▸ hlookup)
        · rw [hnone] at hlookup
          cases hlookup
  · rw [hupkeep.books]
    intro key operation hlookup hopen
    rcases hupkeep.operations key with hsame | ⟨hnone, -⟩
    · exact hmirrors.pending key operation (hsame ▸ hlookup) hopen
    · rw [hnone] at hlookup
      cases hlookup

/-- A new book has no reservation. -/
theorem added {row : BookRow} (hmirrors : db.Mirrors)
    (hnew : db.books.lookup row.id.val = none) (hvalid : row.state.Ok)
    (hreservation : row.state.reservation_id = none)
    (hbooks : after.books = db.books.insert row)
    (hoperations : after.borrow_operations = db.borrow_operations) : after.Mirrors := by
  constructor
  · rw [hbooks]
    intro other hother
    rcases (mem_rows_insert _ _ _).mp hother with rfl | ⟨-, hold⟩
    · exact hvalid
    · exact hmirrors.valid other hold
  · rw [hbooks]
    intro first hfirst second hsecond hsome hsame
    rcases (mem_rows_insert _ _ _).mp hfirst with rfl | ⟨-, hfirst⟩
    · rw [hreservation] at hsome
      cases hsome
    · rcases (mem_rows_insert _ _ _).mp hsecond with rfl | ⟨-, hsecond⟩
      · rw [← hsame, hreservation] at hsome
        cases hsome
      · exact hmirrors.unique first hfirst second hsecond hsome hsame
  · rw [hbooks, hoperations]
    intro other hother token htoken
    rcases (mem_rows_insert _ _ _).mp hother with rfl | ⟨-, hold⟩
    · rw [hreservation] at htoken
      cases htoken
    · exact hmirrors.current other hold token htoken
  · rw [hbooks, hoperations]
    intro key operation hlookup hopen
    obtain ⟨other, hother, token, htoken, hkey, hbook⟩ :=
      hmirrors.pending key operation hlookup hopen
    refine ⟨other, (mem_rows_insert _ _ _).mpr (Or.inr ⟨fun hid => ?_, hother⟩), token,
      htoken, hkey, hbook⟩
    have hfound := (db.books.mem_rows other).mp hother
    rw [hid, hnew] at hfound
    cases hfound

/-- A book and the operation of its reservation change together. -/
theorem replace (rt : PythonRuntime) {row next : BookRow} {token : Uuid}
    {operation : BorrowOperation} (hmirrors : db.Mirrors)
    (hrow : db.books.lookup next.id.val = some row) (hvalid : next.state.Ok)
    (htoken : next.state.reservation_id = some token)
    (hunique : taken db.books (fun row => row.state.reservation_id) next = false)
    (hmirrored : next.Mirrored (some operation))
    (hbook : operation.book_id = next.id.val)
    (hclear : ∀ key other, db.borrow_operations.lookup key = some other →
      other.settled = false → other.book_id = next.id.val → key = uuidText token)
    (hbooks : after.books = db.books.insert next)
    (hoperations : after.borrow_operations =
      db.borrow_operations.insert (uuidText token) operation) : after.Mirrors := by
  have hapart : ∀ other ∈ db.books.rows, other.id.val ≠ next.id.val →
      other.state.reservation_id ≠ some token := by
    intro other hother hne hsame
    have htaken : taken db.books (fun row => row.state.reservation_id) next = true := by
      simp only [taken, htoken, Option.isSome_some, Bool.true_and, List.any_eq_true]
      exact ⟨other, hother, by simp [hne, hsame]⟩
    rw [htaken] at hunique
    cases hunique
  constructor
  · rw [hbooks]
    intro other hother
    rcases (mem_rows_insert _ _ _).mp hother with rfl | ⟨-, hold⟩
    · exact hvalid
    · exact hmirrors.valid other hold
  · rw [hbooks]
    intro first hfirst second hsecond hsome hsame
    rcases (mem_rows_insert _ _ _).mp hfirst with rfl | ⟨hne, hold⟩
    · rcases (mem_rows_insert _ _ _).mp hsecond with rfl | ⟨hne, hother⟩
      · rfl
      · exact absurd (hsame.trans htoken) (hapart second hother hne)
    · rcases (mem_rows_insert _ _ _).mp hsecond with rfl | ⟨-, hother⟩
      · exact absurd (hsame.symm.trans htoken) (hapart first hold hne)
      · exact hmirrors.unique first hold second hother hsome hsame
  · rw [hbooks, hoperations]
    intro other hother key hkey
    rcases (mem_rows_insert _ _ _).mp hother with rfl | ⟨hne, hold⟩
    · rw [htoken, Option.some.injEq] at hkey
      rw [← hkey, AList.lookup_insert]
      exact hmirrored
    · have hkeys : uuidText key ≠ uuidText token := fun hsame =>
        hapart other hold hne (hkey.trans (congrArg some (uuidText_injective rt hsame)))
      rw [AList.lookup_insert_ne hkeys]
      exact hmirrors.current other hold key hkey
  · rw [hbooks, hoperations]
    intro key found hlookup hopen
    by_cases hkey : key = uuidText token
    · subst key
      rw [AList.lookup_insert, Option.some.injEq] at hlookup
      subst found
      exact ⟨next, (mem_rows_insert _ _ _).mpr (Or.inl rfl), token, htoken, rfl, hbook⟩
    · rw [AList.lookup_insert_ne hkey] at hlookup
      obtain ⟨other, hother, own, hown, hkeyOwn, hbookOwn⟩ :=
        hmirrors.pending key found hlookup hopen
      refine ⟨other, (mem_rows_insert _ _ _).mpr (Or.inr ⟨fun hid => ?_, hother⟩), own, hown,
        hkeyOwn, hbookOwn⟩
      exact hkey (hclear key found hlookup hopen (hbookOwn.trans hid))

/-- An operation that is open belongs to the book it names. -/
theorem pending_of {row : BookRow} {key : PyStr} {operation : BorrowOperation}
    (hmirrors : db.Mirrors) (hrow : db.books.lookup row.id.val = some row)
    (hlookup : db.borrow_operations.lookup key = some operation)
    (hopen : operation.settled = false) (hbook : operation.book_id = row.id.val) :
    ∃ token, row.state.reservation_id = some token ∧ key = uuidText token := by
  obtain ⟨other, hother, token, htoken, hkey, hown⟩ :=
    hmirrors.pending key operation hlookup hopen
  have hfound := (db.books.mem_rows other).mp hother
  rw [← hown, hbook, hrow, Option.some.injEq] at hfound
  subst other
  exact ⟨token, htoken, hkey⟩

/-- No operation is open for a book that is available. -/
theorem not_pending {row : BookRow} {key : PyStr} {operation : BorrowOperation}
    (hmirrors : db.Mirrors) (hrow : db.books.lookup row.id.val = some row)
    (havailable : row.state.status = .available)
    (hlookup : db.borrow_operations.lookup key = some operation)
    (hopen : operation.settled = false) : operation.book_id ≠ row.id.val := by
  intro hbook
  obtain ⟨token, htoken, rfl⟩ := hmirrors.pending_of hrow hlookup hopen hbook
  have hmirrored :=
    hmirrors.current row ((db.books.mem_rows row).mpr hrow) token htoken
  simp only [BookRow.Mirrored, havailable] at hmirrored
  rw [(hmirrored operation hlookup).1] at hopen
  cases hopen

theorem reserve {rt : PythonRuntime} {row : BookRow} {book reserved : Book}
    {nextId token : Uuid} {patron : PatronRow} {now : UtcDateTime}
    {events : List AggregateEvent} (hmirrors : db.Mirrors)
    (hrow : db.books.lookup row.id.val = some row) (hbook : row.toEntity = .ok book)
    (hreserve : book.reserve rt nextId patron.id.val patron.email.value (.ofUtc now) none =
      .ok (reserved, token, events))
    (hunique : taken db.books (fun row => row.state.reservation_id) (row.write reserved) =
      false)
    (hbooks : after.books = db.books.insert (row.write reserved))
    (hoperations : after.borrow_operations = db.borrow_operations.insert (uuidText token)
      (BorrowBookHandler.operation reserved
        (PatronBorrowerDirectoryAdapter.translate patron) now)) : after.Mirrors := by
  obtain ⟨havailable, -, reference, email, time, hreference, -, htime, hid, -, -, -, hstate,
    -⟩ := Book.reserve_ok hreserve
  rw [requireUtcDatetime_ofUtc, Except.ok.injEq] at htime
  subst time
  rw [Book.normalizeReference, normalizeReference_val, Except.ok.injEq] at hreference
  have hentity := (BookRow.toEntity_eq_ok_iff row book).mp hbook
  have hstatus : row.state.status = .available := by
    rw [hentity]
    exact havailable
  have hown : reserved.id.val = row.id.val := by
    rw [hid, hentity]
    rfl
  have hnext : (row.write reserved).state = reserved.state := rfl
  have hreplaced : db.books.lookup (row.write reserved).id.val = some row := hrow
  apply hmirrors.replace rt hreplaced _ _ hunique _ _ _ hbooks hoperations
  · exact reserved.valid
  · rw [hnext, hstate]
  · have hholds : (BorrowBookHandler.operation reserved
        (PatronBorrowerDirectoryAdapter.translate patron) now).Holds (row.write reserved) := by
      constructor
      · rfl
      · exact hown
      · rw [hnext, hstate, ← hreference]
        rfl
      · rfl
      · intro t ht
        rw [hnext, hstate, Option.mem_some_iff] at ht
        rw [← ht]
        exact le_refl now
    simp only [BookRow.Mirrored, hnext, hstate]
    exact ⟨_, rfl, hholds⟩
  · exact hown
  · intro key other hlookup hopen hother
    have hnone := hmirrors.not_pending hrow hstatus hlookup hopen
    exact absurd hother hnone

/-- The operation that a transition finds is the one of the reservation. -/
theorem found {rt : PythonRuntime} {row : BookRow} {book moved : Book}
    {change : OperationTransition} {operation : BorrowOperation} (hmirrors : db.Mirrors)
    (hrow : db.books.lookup row.id.val = some row) (hbook : row.toEntity = .ok book)
    (htracks : change.Tracks rt book moved)
    (hfound : db.borrow_operations.lookup change.operation_id = some operation)
    (hmatches : change.matches_ operation = true) :
    ∃ token, row.state.reservation_id = some token ∧ change.operation_id = uuidText token := by
  have hentity := (BookRow.toEntity_eq_ok_iff row book).mp hbook
  simp only [OperationTransition.matches_, Bool.and_eq_true, decide_eq_true_eq,
    List.contains_eq_mem] at hmatches
  obtain ⟨⟨⟨hbookId, -⟩, -⟩, hsource⟩ := hmatches
  have hopen : operation.settled = false := by
    cases htracks.pivots with
    | confirmed hchange | released hchange | returned hchange =>
        rw [hchange] at hsource
        simp only [BorrowOperationStatus.sources, List.mem_singleton] at hsource
        rw [BorrowOperation.settled, hsource]
        rfl
  apply hmirrors.pending_of hrow hfound hopen
  rw [hbookId, htracks.namesBook, hentity]
  rfl

theorem move {rt : PythonRuntime} {row : BookRow} {book moved : Book}
    {change : OperationTransition} {operation : BorrowOperation} (hmirrors : db.Mirrors)
    (hrow : db.books.lookup row.id.val = some row) (hbook : row.toEntity = .ok book)
    (htracks : change.Tracks rt book moved)
    (hfound : db.borrow_operations.lookup change.operation_id = some operation)
    (hmatches : change.matches_ operation = true)
    (hunique : taken db.books (fun row => row.state.reservation_id) (row.write moved) = false)
    (hbooks : after.books = db.books.insert (row.write moved))
    (hoperations : after.borrow_operations =
      db.borrow_operations.insert change.operation_id (change.write operation)) :
    after.Mirrors := by
  obtain ⟨token, htoken, hkey⟩ := hmirrors.found hrow hbook htracks hfound hmatches
  have hentity := (BookRow.toEntity_eq_ok_iff row book).mp hbook
  have hstate : book.state = row.state := by rw [hentity]; rfl
  simp only [OperationTransition.matches_, Bool.and_eq_true, decide_eq_true_eq] at hmatches
  obtain ⟨⟨⟨hbookId, hpatron⟩, hgeneration⟩, -⟩ := hmatches
  have hown : operation.book_id = row.id.val := by
    rw [hbookId, htracks.namesBook, hentity]
    rfl
  have hconcerns : (change.write operation).Concerns (row.write moved) := by
    constructor
    · exact hown
    · change moved.state.reserved_patron_id.map Subtype.val = some operation.patron_id
      rw [htracks.patron, htracks.namesPatron, hpatron]
    · change operation.reservation_generation = moved.state.reservation_generation
      rw [hgeneration, htracks.namesGeneration, htracks.generation]
  rw [hkey] at hoperations
  have hreplaced : db.books.lookup (row.write moved).id.val = some row := hrow
  have hwritten : (change.write operation).book_id = (row.write moved).id.val := hown
  apply hmirrors.replace rt hreplaced _ _ hunique _ hwritten _ hbooks hoperations
  · exact moved.valid
  · change moved.state.reservation_id = some token
    rw [htracks.reservation, hstate]
    exact htoken
  · cases htracks.pivots with
    | confirmed hchange hbefore hafter hloan =>
        have hnext : (row.write moved).state.status = .borrowed := hafter
        simp only [BookRow.Mirrored, hnext]
        exact ⟨_, rfl, hchange, hconcerns, hloan⟩
    | released hchange hbefore hafter | returned hchange hbefore hafter =>
        have hnext : (row.write moved).state.status = .available := hafter
        simp only [BookRow.Mirrored, hnext]
        rintro other ⟨⟩
        refine ⟨?_, hconcerns⟩
        simp [BorrowOperation.settled, OperationTransition.write, hchange]
  · intro key other hlookup hopen hother
    have hrowBook : other.book_id = row.id.val := hother
    obtain ⟨own, hownToken, rfl⟩ := hmirrors.pending_of hrow hlookup hopen hrowBook
    rw [htoken, Option.some.injEq] at hownToken
    rw [hownToken]

section Pieces

variable {rt : PythonRuntime} {request : Request} {known : Knowledge Observation PyStr}
  {past : Set Database}

/-- A message moves the book and its operation, or takes no effect. -/
theorem message {version : ℕ} {book moved : Book} {change : OperationTransition}
    (hmirrors : db.Mirrors) (hlatest : Latest Book past db)
    (hviewed : Interleaving.Viewed (commandSide rt) past known)
    (hloaded : (Aggregate.book book).LoadedAt known version)
    (htracks : change.Tracks rt book moved)
    (heffects : Effects db
      [.updateAggregate version (.book moved), .transitionOperation change] after) :
    after.Mirrors := by
  obtain ⟨row, hversion, hseen⟩ := hloaded
  cases heffects with
  | cons hfirst hrest =>
      cases hrest with
      | cons hsecond hnil =>
          cases hnil
          cases hfirst with
          | updateBook current _ hcurrent hunique =>
              cases hsecond with
              | transitionOperation _ operation hfound hmatches =>
                  have hid : (Stored.wrap book).idText = moved.id.val :=
                    congrArg Subtype.val htracks.id.symm
                  have hsame : row = current :=
                    hlatest.current hviewed hseen (hid ▸ hcurrent) hversion.symm
                  subst current
                  have hrow : db.books.lookup row.id.val = some row := by
                    rw [db.books.keyed _ _ hcurrent]
                    exact hcurrent
                  exact hmirrors.move hrow hseen.2 htracks hfound hmatches hunique rfl rfl

theorem piece {piece : Piece} (hmirrors : db.Mirrors) (hlatest : Latest Book past db)
    (hviewed : Interleaving.Viewed (commandSide rt) past known)
    (hbased : piece.Based rt request known)
    (heffects : Effects db piece.statements after) : after.Mirrors := by
  obtain ⟨write, aggregate, events, others⟩ := piece
  simp only [Piece.statements] at heffects
  cases hbased with
  | inserted hwrite hreceipts hcreates =>
      dsimp only at hwrite hreceipts hcreates
      subst write
      cases heffects with
      | cons hfirst hothers =>
          obtain ⟨hbooks, hoperations⟩ := hothers.receipts_kept hreceipts
          cases hcreates with
          | book command id htitle hauthor =>
              cases hfirst with
              | insertBook book hnew =>
                  exact hmirrors.added hnew (Book.valid _) rfl hbooks hoperations
          | loan | patron =>
              obtain ⟨hkept, hkeptOperations⟩ := hfirst.circulation_kept rfl
              exact hmirrors.congr (hbooks.trans hkept) (hoperations.trans hkeptOperations)
  | updated version before hwrite hloaded hmoves =>
      dsimp only at hwrite hmoves
      subst write
      cases hmoves with
      | borrow command hreceipts hreserve =>
          obtain ⟨row, hversion, hseen⟩ := hloaded
          cases heffects with
          | cons hfirst hrest =>
              cases hrest with
              | cons hsecond hothers =>
                  obtain ⟨hbooks, hoperations⟩ := hothers.receipts_kept hreceipts
                  cases hfirst with
                  | updateBook current _ hcurrent hunique =>
                      cases hsecond with
                      | insertOperation =>
                          obtain ⟨-, -, _, _, _, -, -, -, hid, -⟩ := Book.reserve_ok hreserve
                          have hsame : row = current := by
                            apply hlatest.current hviewed hseen _ hversion.symm
                            rw [congrArg Subtype.val hid] at hcurrent
                            exact hcurrent
                          subst current
                          have hrow : db.books.lookup row.id.val = some row := by
                            rw [db.books.keyed _ _ hcurrent]
                            exact hcurrent
                          exact hmirrors.reserve hrow hseen.2 hreserve hunique hbooks
                            hoperations
      | confirm command hbook hconfirm =>
          exact hmirrors.message hlatest hviewed hloaded
            (Request.Moves.confirm command hbook hconfirm).tracks heffects
      | release command hbook hrelease =>
          exact hmirrors.message hlatest hviewed hloaded
            (Request.Moves.release command hbook hrelease).tracks heffects
      | expire command htoken hpatron hrelease =>
          exact hmirrors.message hlatest hviewed hloaded
            (Request.Moves.expire command htoken hpatron hrelease).tracks heffects
      | giveBack command hbook hreturn =>
          exact hmirrors.message hlatest hviewed hloaded
            (Request.Moves.giveBack command hbook hreturn).tracks heffects
      | cancel =>
          obtain ⟨hbooks, hoperations⟩ := heffects.circulation_kept (by simp [Statement.circulates])
          exact hmirrors.congr hbooks hoperations
      | extend _ hreceipts | complete _ hreceipts | suspend _ hreceipts
      | reinstate _ hreceipts | upgrade _ hreceipts =>
          cases heffects with
          | cons hfirst hothers =>
              obtain ⟨hkept, hkeptOperations⟩ := hfirst.circulation_kept rfl
              obtain ⟨hbooks, hoperations⟩ := hothers.receipts_kept hreceipts
              exact hmirrors.congr (hbooks.trans hkept) (hoperations.trans hkeptOperations)

/-- Over the pieces of a batch, one after the other. -/
theorem pieces {pieces : List Piece} (hmirrors : db.Mirrors) (hlatest : Latest Book past db)
    (hviewed : Interleaving.Viewed (commandSide rt) past known)
    (hbased : ∀ piece ∈ pieces, piece.Based rt request known)
    (heffects : Effects db (pieces.flatMap Piece.statements) after) : after.Mirrors := by
  induction pieces generalizing db with
  | nil =>
      cases heffects
      exact hmirrors
  | cons piece rest ih =>
      rw [List.flatMap_cons] at heffects
      obtain ⟨middle, hpiece, hrest⟩ := heffects.append
      exact ih (hmirrors.piece hlatest hviewed (hbased piece List.mem_cons_self) hpiece)
        (hlatest.effects hpiece) (fun other hother => hbased other (List.mem_cons_of_mem _ hother))
        hrest

theorem batch {batch : Batch} (hmirrors : db.Mirrors) (hlatest : Latest Book past db)
    (hviewed : Interleaving.Viewed (commandSide rt) past known)
    (hbased : batch.Based rt request known) (heffects : Effects db batch.statements after) :
    after.Mirrors := by
  cases hbased with
  | silent hreceipts =>
      obtain ⟨hbooks, hoperations⟩ := heffects.receipts_kept hreceipts
      exact hmirrors.congr hbooks hoperations
  | stores pieces hplain hids hwrites hbased =>
      obtain ⟨order, arranged, rows, -, -, rfl⟩ := hwrites
      obtain ⟨middle, hpieces, hrows⟩ := heffects.append
      obtain ⟨hbooks, hoperations⟩ := hrows.circulation_kept fun statement hmem => by
        obtain ⟨row, -, rfl⟩ := List.mem_map.mp hmem
        rfl
      exact (hmirrors.pieces hlatest hviewed hbased hpieces).congr hbooks hoperations

end Pieces

/-- An operation is there to be moved, and matches, when its book accepts the transition. -/
theorem accepts {rt : PythonRuntime} {row : BookRow} {book moved : Book}
    {change : OperationTransition} {token : Uuid} (hmirrors : db.Mirrors)
    (hrow : row ∈ db.books.rows) (hbook : row.toEntity = .ok book)
    (htracks : change.Tracks rt book moved) (hkey : change.operation_id = uuidText token) :
    ∃ operation, db.borrow_operations.lookup change.operation_id = some operation ∧
      operation.Concerns row ∧ change.matches_ operation = true := by
  have hentity := (BookRow.toEntity_eq_ok_iff row book).mp hbook
  have hstate : row.state = book.state := by rw [hentity]; rfl
  have hown : change.book_id = row.id.val := by
    rw [htracks.namesBook, hentity]
    rfl
  have htoken : row.state.reservation_id = some token := by
    obtain ⟨parsed, hparsed, hreservation⟩ := htracks.token
    rw [hkey, Book.parseReservationId, parseReservationId_uuidText, Except.ok.injEq] at hparsed
    rw [hstate, hreservation, hparsed]
  have hmatches : ∀ operation : BorrowOperation, operation.Concerns row →
      operation.status ∈ change.status.sources → change.matches_ operation = true := by
    intro operation hconcerns hsource
    have hpatron := hconcerns.patron
    rw [hstate, htracks.namesPatron, Option.some.injEq] at hpatron
    have hgeneration : operation.reservation_generation = change.reservation_generation := by
      rw [hconcerns.generation, hstate, htracks.namesGeneration]
    simp [OperationTransition.matches_, hconcerns.book, hown, hpatron, hgeneration, hsource]
  have hmirrored := hmirrors.current row hrow token htoken
  rw [hkey]
  cases htracks.pivots with
  | confirmed hchange hbefore | released hchange hbefore =>
      simp only [BookRow.Mirrored, hstate, hbefore] at hmirrored
      obtain ⟨operation, hlookup, hholds⟩ := hmirrored
      refine ⟨operation, hlookup, hholds.concerns, hmatches operation hholds.concerns ?_⟩
      rw [hchange, hholds.status]
      exact List.mem_singleton_self _
  | returned hchange hbefore =>
      simp only [BookRow.Mirrored, hstate, hbefore] at hmirrored
      obtain ⟨operation, hlookup, hborrowed, hconcerns, -⟩ := hmirrored
      refine ⟨operation, hlookup, hconcerns, hmatches operation hconcerns ?_⟩
      rw [hchange, hborrowed]
      exact List.mem_singleton_self _

end Mirrors

/-- Operations that have come to their end stay as they are. -/
def EndsStay (db after : Database) : Prop :=
  ∀ key operation, db.borrow_operations.lookup key = some operation →
    operation.settled = true → after.borrow_operations.lookup key = some operation

theorem Effect.endsStay {statement : Statement} (heffect : Effect db statement after) :
    EndsStay db after := by
  intro key operation hlookup hsettled
  cases heffect with
  | insertOperation id other hnew =>
      have hne : key ≠ id := by
        rintro rfl
        rw [hnew] at hlookup
        cases hlookup
      rw [AList.lookup_insert_ne hne]
      exact hlookup
  | transitionOperation change other hfound hmatches =>
      have hne : key ≠ change.operation_id := by
        rintro rfl
        rw [hfound, Option.some.injEq] at hlookup
        subst other
        simp only [OperationTransition.matches_, Bool.and_eq_true, List.contains_eq_mem,
          decide_eq_true_eq] at hmatches
        simp only [BorrowOperation.settled, Bool.or_eq_true, decide_eq_true_eq] at hsettled
        obtain ⟨-, hsource⟩ := hmatches
        rcases hsettled with hstatus | hstatus <;> rw [hstatus] at hsource <;>
          cases hchange : change.status <;>
          simp [hchange, BorrowOperationStatus.sources] at hsource
      rw [AList.lookup_insert_ne hne]
      exact hlookup
  | _ => exact hlookup

theorem Effects.endsStay {statements : List Statement}
    (heffects : Effects db statements after) : EndsStay db after := by
  induction heffects with
  | nil => exact fun _ _ hlookup _ => hlookup
  | cons hfirst _ ih =>
      exact fun key operation hlookup hsettled =>
        ih key operation (hfirst.endsStay key operation hlookup hsettled) hsettled

end Database

/-! ## Every run -/

/-- What the runs keep. -/
structure Circulating (past : Set Database) (log : List Committed) (state : Database) :
    Prop where
  latest : Latest Book past state
  mirrors : state.Mirrors
  ends : ∀ entry ∈ log, entry.before.EndsStay entry.after

theorem circulating_keeps (rt : PythonRuntime) :
    Interleaving.Keeps (commandSide rt) (Request.outcome rt) Database.Mirrors
      (fun _ _ => True) Upkeep Circulating (fun _ _ _ => True) := by
  constructor
  · intro state hmirrors
    refine ⟨?_, hmirrors, by simp⟩
    rintro view rfl id row hrow
    exact ⟨row, hrow, Or.inr rfl⟩
  · exact fun _ _ _ => trivial
  · rintro past log state hcirculating hmem entry known value after rfl rfl - hviewed -
      hcommits - happly
    obtain ⟨answer, -, hcommits⟩ := hcommits
    have heffects := Database.runAll_effects happly
    refine ⟨⟨?_, ?_, ?_⟩, fun _ _ _ _ => trivial⟩
    · exact (hcirculating.latest.effects heffects).insert
    · exact hcirculating.mirrors.batch hcirculating.latest hviewed
        (Request.spec_based hcommits) heffects
    · intro other hother
      rcases List.mem_append.mp hother with hold | hnew
      · exact hcirculating.ends other hold
      · rw [List.mem_singleton.mp hnew]
        exact heffects.endsStay
  · intro past log state after hcirculating hmem hupkeep
    refine ⟨⟨Latest.insert fun view hview id row hrow => ?_,
      hcirculating.mirrors.upkeep hupkeep, hcirculating.ends⟩, fun _ _ _ => trivial⟩
    have htable := Lineal.upkeep (A := Book) state after hupkeep
    rw [htable]
    exact hcirculating.latest view hview id row hrow

theorem CommandSide.circulating {rt : PythonRuntime} {world : CommandWorld}
    (hreach : CommandSide rt Database.Mirrors world) :
    Circulating world.past world.log world.shared :=
  (Interleaving.reachable_keeps (circulating_keeps rt)
    (fun _ request _ => request.program_meets rt .nothing) hreach).1

/-- Over every run the operations mirror the books, and one that has come to its end is
not changed by any transaction. -/
theorem operations_mirror_books {rt : PythonRuntime} {world : CommandWorld}
    (hreach : CommandSide rt Database.Mirrors world) :
    world.shared.Mirrors ∧ ∀ entry ∈ world.log, entry.before.EndsStay entry.after :=
  ⟨hreach.circulating.mirrors, hreach.circulating.ends⟩

theorem sampleDatabase_mirrors : sampleDatabase.Mirrors := by
  have hrows : ∀ row ∈ sampleDatabase.books.rows, row = .ofEntity sampleBook 0 := by
    intro row hrow
    rcases (Database.mem_rows_insert _ _ _).mp hrow with rfl | ⟨-, hnone⟩
    · rfl
    · cases hnone
  constructor
  · intro row hrow
    rw [hrows row hrow]
    exact sampleBook.valid
  · intro row hrow other hother _ _
    rw [hrows row hrow, hrows other hother]
  · intro row hrow token htoken
    rw [hrows row hrow] at htoken
    cases htoken
  · rintro key operation hlookup
    cases hlookup

theorem operations_mirror_borrow :
    ∃ (world : CommandWorld) (row : BookRow), world.log.length = 1 ∧
      row ∈ world.shared.books.rows ∧ row.state.status = .reserved ∧
        world.shared.Mirrors := by
  have hresult : ((Interleaving.machine (commandSide asciiRuntime)
      Database.Mirrors).execute sampleWorld borrowRun).any (fun world =>
        decide (world.log.length = 1) &&
          world.shared.books.rows.any fun row => row.state.status = .reserved) = true := by
    decide +kernel
  obtain ⟨world, hrun, hfields⟩ := (Option.any_eq_true _ _).mp hresult
  simp only [Bool.and_eq_true, decide_eq_true_eq, List.any_eq_true] at hfields
  obtain ⟨hlog, row, hrow, hstatus⟩ := hfields
  have hstart : CommandSide asciiRuntime Database.Mirrors sampleWorld :=
    .start ⟨sampleDatabase_mirrors, rfl, rfl, rfl⟩
  have hreach := Interleaving.reachable_execute (fun _ _ => trivial) hstart rfl hrun
  exact ⟨world, row, hlog, hrow, hstatus, (operations_mirror_books hreach).1⟩

namespace OperationTransition.Tracks

variable {rt : PythonRuntime} {change : OperationTransition} {row : BookRow} {book moved : Book}

/-- A book that moves has been reserved. -/
theorem generation_pos (htracks : change.Tracks rt book moved) :
    1 ≤ book.state.reservation_generation := by
  have hvalid := book.valid
  cases htracks.pivots with
  | confirmed _ hbefore | released _ hbefore | returned _ hbefore =>
      simp only [BookState.Ok, hbefore] at hvalid
      omega

/-- The texts that a transition sends can be stored. -/
theorem sendable (htracks : change.Tracks rt book moved) {token : Uuid}
    (hkey : change.operation_id = uuidText token)
    (hloan : ∀ loan ∈ change.loan_id, isReference loan = true)
    (hreason : ∀ reason ∈ change.failure_reason, storable reason = true) :
    (Statement.transitionOperation change).texts.all storable = true := by
  obtain ⟨patron, -, hpatron⟩ := Option.map_eq_some_iff.mp htracks.namesPatron
  rw [List.all_eq_true]
  intro text htext
  simp only [Statement.texts, List.cons_append, List.nil_append, List.mem_cons, List.mem_append,
    Option.mem_toList] at htext
  rcases htext with rfl | rfl | rfl | hmem | hmem
  · rw [hkey]
    exact storable_of_matchesUuidPattern (uuidText_matches token)
  · rw [htracks.namesBook]
    exact storable_reference book.id
  · rw [← hpatron]
    exact storable_reference patron
  · exact storable_reference ⟨text, hloan text hmem⟩
  · exact hreason text hmem

end OperationTransition.Tracks

/-- Whenever a book accepts the transition of a message that spells the reservation as the
system does, with a loan id of the wire and a reason that can be stored, the compare-and-set of
the operation finds its row; only a clock behind the creation of the operation can refuse it. -/
theorem transition_not_refused {rt : PythonRuntime} {world : CommandWorld}
    (hreach : CommandSide rt Database.Mirrors world) {request : Request} {row : BookRow}
    {book moved : Book} {change : OperationTransition} {token : Uuid}
    (hrow : row ∈ world.shared.books.rows) (hbook : row.toEntity = .ok book)
    (hmoves : request.Moves rt (.book book) (.book moved) [.transitionOperation change])
    (hkey : change.operation_id = uuidText token)
    (hloan : ∀ loan ∈ change.loan_id, isReference loan = true)
    (hreason : ∀ reason ∈ change.failure_reason, storable reason = true) :
    ∃ operation, world.shared.borrow_operations.lookup change.operation_id = some operation ∧
      change.matches_ operation = true ∧ (change.write operation).stateOk = true ∧
        -- the UPDATE of the book, which comes first, leaves the operations as they are
        ∀ db : Database, db.borrow_operations = world.shared.borrow_operations →
          db.run (.transitionOperation change) =
            if operation.created_at ≤ change.updated_at then
              .ok { db with
                borrow_operations :=
                  db.borrow_operations.insert change.operation_id (change.write operation) }
            else .error (.integrity .operationTimestamps) := by
  have htracks := hmoves.tracks
  obtain ⟨operation, hlookup, hconcerns, hmatches⟩ :=
    hreach.circulating.mirrors.accepts hrow hbook htracks hkey
  have hstate := htracks.stateOk operation
  refine ⟨operation, hlookup, hmatches, hstate, fun db hsame => ?_⟩
  rw [← hsame] at hlookup
  rw [Database.run, if_pos (htracks.sendable hkey hloan hreason)]
  simp only [Database.perform, Database.transitionOperation, hlookup, hmatches, if_true]
  have hwritten : (change.write operation).Concerns row :=
    ⟨hconcerns.book, hconcerns.patron, hconcerns.generation⟩
  have hgeneration : 1 ≤ row.state.reservation_generation := by
    rw [(BookRow.toEntity_eq_ok_iff row book).mp hbook]
    exact htracks.generation_pos
  rw [hkey]
  exact hwritten.storeOperation_eq hgeneration token hloan htracks.reason hstate db

def sampleRelease : ReleaseBookReservationCommand where
  book_id := uuidText 1
  reservation_id := uuidText 3
  reservation_generation := 1
  patron_id := uuidText 2
  reason := py "late"

/-- The message about the reservation of the sample run. -/
def releasable (row : BookRow) : Bool :=
  row.id.val = uuidText 1 && row.toEntity.toOption.any fun book =>
    (ReleaseBookReservationHandler.transition asciiRuntime sampleRelease book).toOption.any
      fun outcome => outcome.2.1

theorem transition_not_refused_release :
    ∃ (world : CommandWorld) (operation : BorrowOperation) (stored : Database),
      world.log.length = 1 ∧
        world.shared.borrow_operations.lookup (uuidText 3) = some operation ∧
          (ReleaseBookReservationHandler.change sampleRelease sampleDraws.now).matches_
            operation = true ∧
            world.shared.run (.transitionOperation
              (ReleaseBookReservationHandler.change sampleRelease sampleDraws.now)) =
                .ok stored := by
  have hresult : ((Interleaving.machine (commandSide asciiRuntime)
      Database.Mirrors).execute sampleWorld borrowRun).any (fun world =>
        decide (world.log.length = 1) && world.shared.books.rows.any releasable &&
          (world.shared.borrow_operations.lookup (uuidText 3)).any fun operation =>
            decide (operation.created_at ≤ sampleDraws.now)) = true := by
    decide +kernel
  obtain ⟨world, hrun, hfields⟩ := (Option.any_eq_true _ _).mp hresult
  simp only [Bool.and_eq_true, decide_eq_true_eq, List.any_eq_true, releasable,
    Option.any_eq_true] at hfields
  obtain ⟨⟨hlog, row, hrow, hid, book, hbook, ⟨after, changed, events⟩, hrelease, rfl⟩,
    held, hheld, hcreated⟩ := hfields
  have hentity := Result.ok_of_toOption hbook
  have hstart : CommandSide asciiRuntime Database.Mirrors sampleWorld :=
    .start ⟨sampleDatabase_mirrors, rfl, rfl, rfl⟩
  have hreach := Interleaving.reachable_execute (fun _ _ => trivial) hstart rfl hrun
  have hown : book.id.val = sampleRelease.book_id := by
    rw [(BookRow.toEntity_eq_ok_iff row book).mp hentity] at hid
    exact hid
  have hmoves : Request.Moves asciiRuntime
      (.circulation (.releaseBookReservation sampleRelease)) (.book book) (.book after)
      [.transitionOperation
        (ReleaseBookReservationHandler.change sampleRelease sampleDraws.now)] :=
    .release sampleRelease hown (Result.ok_of_toOption hrelease)
  have hreason : ∀ reason ∈ (ReleaseBookReservationHandler.change sampleRelease
      sampleDraws.now).failure_reason, storable reason = true := by
    rintro reason ⟨⟩
    decide +kernel
  obtain ⟨operation, hlookup, hmatches, -, hupdate⟩ :=
    transition_not_refused hreach hrow hentity hmoves rfl (by rintro loan ⟨⟩) hreason
  obtain rfl : held = operation := Option.some.inj (hheld.symm.trans hlookup)
  exact ⟨world, held, _, hlog, hlookup, hmatches,
    (hupdate world.shared rfl).trans (if_pos hcreated)⟩

end LibrarySystem
