import LibrarySystem.Application.BorrowSaga

/-!
# A definitive borrow is never contradicted

Every transaction of the saga is a run of moves of the semantic lock.  A cancellation
rests on what its handler saw earlier; what was lost then is lost when it commits.
-/

namespace LibrarySystem

open Run (Spec Knowledge)
open SemanticLock (Move Moves Turn)

/-! ## What a transaction leaves -/

section Tables

variable {rt : PythonRuntime} {batch : Batch} {db middle after : Database}
  {known : Knowledge Observation PyStr} {past : Set Database}

/-- The outbox rows leave books and loans alone. -/
theorem Batch.Writes.before_outbox {pieces : List Piece} (hwrites : batch.Writes rt pieces)
    (heffects : Database.Effects db batch.statements after) :
    ∃ middle, Database.Effects db (pieces.flatMap Piece.statements) middle ∧
      after.books = middle.books ∧ after.loans = middle.loans := by
  obtain ⟨order, arranged, rows, -, -, rfl⟩ := hwrites
  obtain ⟨middle, hpieces, hrows⟩ := heffects.append
  have hsilent : ∀ statement ∈ rows.flatten.map Statement.insertOutbox,
      statement.target = none := by
    intro statement hmem
    obtain ⟨row, -, rfl⟩ := List.mem_map.mp hmem
    rfl
  refine ⟨middle, hpieces, ?_, ?_⟩
  · exact hrows.kept Book fun statement hmem _ => by simp [hsilent statement hmem]
  · exact hrows.kept Loan fun statement hmem _ => by simp [hsilent statement hmem]

theorem Batch.Writes.emits {pieces : List Piece} (hwrites : batch.Writes rt pieces) :
    batch.emits = pieces.flatMap fun piece => piece.events.filterMap AggregateEvent.ofEvent := by
  obtain ⟨order, arranged, rows, -, -, rfl⟩ := hwrites
  simp [Batch.emits, List.flatMap_map, List.filterMap_flatMap, Piece.transition]

/-- A piece for another kind of aggregate leaves the table alone. -/
theorem Piece.Plain.kept {piece : Piece} (B : Type) [Stored B] [Repository B]
    (hplain : piece.Plain) (heffects : Database.Effects db piece.statements middle)
    (hother : ∀ aggregate : B, piece.after ≠ Stored.wrap aggregate) :
    Stored.table (A := B) middle = Stored.table db := by
  apply heffects.kept B
  intro statement hmem aggregate
  rcases List.mem_cons.mp hmem with rfl | hmem
  · rw [hplain.target]
    exact fun hsame => hother aggregate (Option.some.inj hsame)
  · rw [hplain.others statement hmem]
    exact fun hnever => by cases hnever

theorem BookRow.hydrated {row : BookRow} {book : Book} (hbook : row.toEntity = .ok book) :
    row.id = book.id ∧ row.state = book.state := by
  rw [(BookRow.toEntity_eq_ok_iff row book).mp hbook]
  exact ⟨rfl, rfl⟩

/-- The UPDATE of a piece found the row that was loaded. -/
theorem Piece.updated_found {A : Type} [Stored A] [Repository A] {row : Stored.Row A}
    {earlier moved : A} {id : PyStr} {draws : Draws} {events : List AggregateEvent}
    {others : List Statement}
    (hothers : ∀ statement ∈ others, statement.target = none ∧ statement.outboxRow = none)
    (heffects : Database.Effects db
      (Piece.updated (Stored.version row) (Stored.wrap moved) draws events others).statements
        middle)
    (hloaded : Loaded known id row earlier)
    (hid : (Stored.wrap earlier).idText = (Stored.wrap moved).idText)
    (hviewed : Interleaving.Viewed (commandSide rt) past known)
    (hlatest : Latest A past db) :
    (Stored.table (A := A) db).lookup (Stored.key row) = some row ∧
      Stored.table (A := A) middle =
        (Stored.table (A := A) db).insert (Repository.write row moved) := by
  cases heffects with
  | cons hfirst hrest =>
      obtain ⟨current, hcurrent, hversion, htable⟩ := Repository.updated _ _ _ _ hfirst
      have hsame : row = current :=
        hlatest.current hviewed hloaded.ownKey (hid ▸ hcurrent) hversion
      subst current
      have hkey := (Stored.table (A := A) db).keyed _ row hcurrent
      constructor
      · rw [hkey]
        exact hcurrent
      · rw [← htable]
        exact hrest.kept A fun statement hmem aggregate => by simp [hothers statement hmem]

end Tables

section Messages

variable {rt : PythonRuntime} {book moved : Book} {events : List AggregateEvent}

theorem ReleaseBookReservationHandler.transition_id {command : ReleaseBookReservationCommand}
    (hrelease : transition rt command book = .ok (moved, true, events)) :
    moved.id = book.id := by
  obtain ⟨_, _, -, -, -, -, -, ⟨hchanged, -⟩ | ⟨-, -, hid, -⟩⟩ := Book.release_ok hrelease
  · cases hchanged
  · exact hid

theorem ConfirmBookBorrowHandler.transition_id {command : ConfirmBookBorrowCommand}
    (hconfirm : transition rt command book = .ok (moved, true, events)) :
    moved.id = book.id := by
  obtain ⟨_, _, _, _, _, -, -, -, -, -, -, hid, -⟩ := Book.confirmBorrow_ok hconfirm
  exact hid

theorem ReturnBookHandler.transition_id {command : ReturnBookCommand}
    (hreturn : transition rt command book = .ok (moved, true, events)) :
    moved.id = book.id := by
  obtain ⟨_, _, _, -, -, -, -, -, -, -, -, hid, -⟩ := Book.returnBook_ok hreturn
  exact hid

theorem CancelLoanHandler.mismatch_eq_false {command : CancelLoanCommand} {loan : Loan}
    {reservation_id : PyStr} (hmatch : mismatch command loan reservation_id = false) :
    loan.reservation_generation = command.reservation_generation ∧
      loan.catalog_book_id.val = command.catalog_book_id ∧
      ∀ expected ∈ command.expected_loan_id, loan.id.val = expected := by
  simp only [mismatch, Bool.or_eq_false_iff, decide_eq_false_iff_not, ne_eq, not_not] at hmatch
  obtain ⟨⟨⟨⟨-, hgeneration⟩, -⟩, hbook⟩, hexpected⟩ := hmatch
  refine ⟨hgeneration, hbook, fun expected hmem => ?_⟩
  rw [Option.mem_def.mp hmem] at hexpected
  simpa using hexpected

end Messages

/-! ## Transactions as moves -/

namespace Saga

variable {rt : PythonRuntime} {saga after : Saga} {events : List AggregateEvent}

theorem lock_putHold {row : BookRow}
    (hbooks : after.database.books = saga.database.books.insert row)
    (hloans : after.database.loans = saga.database.loans)
    (hemitted : after.emitted = saga.emitted ++ events) :
    after.lock rt = (saga.lock rt).putHold row.id.val row.state.hold (factsOf rt events) := by
  ext1
  · funext id
    simp only [lock, hbooks, SemanticLock.State.holds_putHold, Function.update_apply]
    split
    · rename_i hid
      rw [hid, Table.lookup_insert, Option.map_some]
    · rename_i hid
      rw [Table.lookup_insert_ne saga.database.books row hid]
  · funext id
    simp only [lock, hloans, SemanticLock.State.claims_putHold]
  · simp only [lock, hemitted, factsOf_append, SemanticLock.State.facts_putHold]

theorem lock_putClaim {row : LoanRow} {fact : LockFact}
    (hloans : after.database.loans = saga.database.loans.insert row)
    (hbooks : after.database.books = saga.database.books)
    (hemitted : after.emitted = saga.emitted ++ events) (hfact : factsOf rt events = {fact}) :
    after.lock rt = (saga.lock rt).putClaim row.id.val row.claim fact := by
  ext1
  · funext id
    simp only [lock, hbooks, SemanticLock.State.holds_putClaim]
  · funext id
    simp only [lock, hloans, SemanticLock.State.claims_putClaim, Function.update_apply]
    split
    · rename_i hid
      rw [hid, Table.lookup_insert, Option.map_some]
    · rename_i hid
      rw [Table.lookup_insert_ne saga.database.loans row hid]
  · simp only [lock, hemitted, factsOf_append, hfact, SemanticLock.State.facts_putClaim,
      Set.union_singleton]

theorem lock_same (hbooks : after.database.books = saga.database.books)
    (hloans : ∀ id, (after.database.loans.lookup id).map LoanRow.claim =
      (saga.database.loans.lookup id).map LoanRow.claim)
    (hemitted : after.emitted = saga.emitted ++ events) (hsilent : factsOf rt events = ∅) :
    after.lock rt = saga.lock rt := by
  ext1
  · funext id
    simp only [lock, hbooks]
  · funext id
    exact hloans id
  · simp only [lock, hemitted, factsOf_append, hsilent, Set.union_empty]

theorem canonical_book {id : PyStr} {hold : SemanticLock.Hold PyStr LockTag LockTerms}
    (hhold : (saga.lock rt).holds id = some hold) : PyStr.strip id = id := by
  obtain ⟨row, hrow, -⟩ := Option.map_eq_some_iff.mp hhold
  rw [← saga.database.books.keyed id row hrow, Reference.strip_val]

theorem canonical_loan {id : PyStr} {record : SemanticLock.Record PyStr LockTag}
    (hrecord : (saga.lock rt).claims id = some record) : PyStr.strip id = id := by
  obtain ⟨row, hrow, -⟩ := Option.map_eq_some_iff.mp hrecord
  rw [← saga.database.loans.keyed id row hrow, Reference.strip_val]

/-- The row of a book replaced by one of a later state. -/
theorem put_book {row : BookRow} {book moved : Book} (hbook : row.toEntity = .ok book)
    (hrow : saga.database.books.lookup row.id.val = some row)
    (hbooks : after.database.books = saga.database.books.insert (row.write moved))
    (hloans : after.database.loans = saga.database.loans)
    (hemitted : after.emitted = saga.emitted ++ events) :
    (saga.lock rt).holds book.id.val = some book.state.hold ∧
      after.lock rt =
        (saga.lock rt).putHold book.id.val moved.state.hold (factsOf rt events) := by
  obtain ⟨hown, hstate⟩ := BookRow.hydrated hbook
  rw [← hown, ← hstate]
  constructor
  · exact congrArg (Option.map fun row : BookRow => row.state.hold) hrow
  · exact lock_putHold hbooks hloans hemitted

/-- A transaction that took effect, and what its program knew. -/
structure Step (rt : PythonRuntime) (past : Set Database)
    (known : Knowledge Observation PyStr) (batch : Batch) (saga after : Saga) : Prop where
  effects : Database.Effects saga.database batch.statements after.database
  emitted : after.emitted = saga.emitted ++ batch.emits
  viewed : Interleaving.Viewed (commandSide rt) past known
  books : Latest Book past saga.database
  loans : Latest Loan past saga.database

variable {past : Set Database} {known : Knowledge Observation PyStr} {batch : Batch}

namespace Step

/-- The one piece is about a book. -/
theorem book {id : PyStr} {row : BookRow} {book moved : Book} {draws : Draws}
    {others : List Statement} (hstep : Step rt past known batch saga after)
    (hwrites : batch.Writes rt [.updated row.version (.book moved) draws events others])
    (hothers : ∀ statement ∈ others, statement.target = none ∧ statement.outboxRow = none)
    (hloaded : Loaded known id row book) (hid : moved.id = book.id) :
    (saga.lock rt).holds book.id.val = some book.state.hold ∧
      after.lock rt =
        (saga.lock rt).putHold book.id.val moved.state.hold (factsOf rt events) := by
  obtain ⟨middle, hpieces, hbooks, hloans⟩ := hwrites.before_outbox hstep.effects
  rw [List.flatMap_singleton] at hpieces
  obtain ⟨hrow, htable⟩ := Piece.updated_found (A := Book) hothers hpieces hloaded
    (congrArg Subtype.val hid.symm) hstep.viewed hstep.books
  have hkept := (Piece.updated_plain hothers).kept Loan hpieces fun loan hsame => by cases hsame
  have hemits : batch.emits = events := by
    rw [hwrites.emits]
    simp [Piece.updated]
  exact put_book hloaded.2 hrow (hbooks.trans htable) (hloans.trans hkept)
    (hemits ▸ hstep.emitted)

/-- The one piece is about a loan. -/
theorem loan {id : PyStr} {row : LoanRow} {loan moved : Loan} {draws : Draws}
    {others : List Statement} (hstep : Step rt past known batch saga after)
    (hwrites : batch.Writes rt [.updated row.version (.loan moved) draws events others])
    (hothers : ∀ statement ∈ others, statement.target = none ∧ statement.outboxRow = none)
    (hloaded : Loaded known id row loan) (hid : moved.id = loan.id) :
    saga.database.loans.lookup row.id.val = some row ∧
      after.database.loans = saga.database.loans.insert (row.write moved) ∧
      after.database.books = saga.database.books ∧ after.emitted = saga.emitted ++ events := by
  obtain ⟨middle, hpieces, hbooks, hloans⟩ := hwrites.before_outbox hstep.effects
  rw [List.flatMap_singleton] at hpieces
  obtain ⟨hrow, htable⟩ := Piece.updated_found (A := Loan) hothers hpieces hloaded
    (congrArg Subtype.val hid.symm) hstep.viewed hstep.loans
  have hkept := (Piece.updated_plain hothers).kept Book hpieces fun book hsame => by cases hsame
  have hemits : batch.emits = events := by
    rw [hwrites.emits]
    simp [Piece.updated]
  exact ⟨hrow, hloans.trans htable, hbooks.trans hkept, hemits ▸ hstep.emitted⟩

/-- The one piece is about neither. -/
theorem other {piece : Piece} (hstep : Step rt past known batch saga after)
    (hwrites : batch.Writes rt [piece]) (hplain : piece.Plain)
    (hbook : ∀ book, piece.after ≠ .book book) (hloan : ∀ loan, piece.after ≠ .loan loan)
    (hevents : factsOf rt (piece.events.filterMap AggregateEvent.ofEvent) = ∅) :
    after.lock rt = saga.lock rt := by
  obtain ⟨middle, hpieces, hbooks, hloans⟩ := hwrites.before_outbox hstep.effects
  rw [List.flatMap_singleton] at hpieces
  have hbooksKept := hplain.kept Book hpieces hbook
  have hloansKept := hplain.kept Loan hpieces hloan
  have hloansSame : after.database.loans = saga.database.loans := hloans.trans hloansKept
  apply lock_same (hbooks.trans hbooksKept) (fun id => by rw [hloansSame]) hstep.emitted
  rw [hwrites.emits, List.flatMap_singleton]
  exact hevents

theorem borrow {command : BorrowBookCommand} {value : BorrowBookResult}
    (hstep : Step rt past known batch saga after)
    (hcommits : (BorrowBookHandler.spec rt command).commits known batch value) :
    Move (saga.lock rt) (after.lock rt) := by
  obtain ⟨_, _, patron, row, book, reserved, _, _, events, now, _, -, -, -, -, hloaded,
    hreserve, -, hwrites⟩ := hcommits
  obtain ⟨-, -, _, _, _, -, -, -, hid, -⟩ := Book.reserve_ok hreserve
  obtain ⟨hhold, hlock⟩ := hstep.book hwrites
    (CirculationCommand.operation_plain ⟨rfl, rfl⟩ receiptOf_plain) hloaded hid
  rw [hlock]
  exact Book.reserve_move hhold hreserve

/-- A message to a book is about the book that is there. -/
theorem messaged {Result : Type} {book_id : PyStr}
    {transition : Book → Except Raised (Book × Bool × List AggregateEvent)}
    {change : UtcDateTime → OperationTransition} {result : Book → Bool → Result}
    {value : Result} (hstep : Step rt past known batch saga after)
    (hid : ∀ book moved events, transition book = .ok (moved, true, events) →
      moved.id = book.id)
    (hcommits : (BookMessage.spec rt book_id transition change result).commits known batch
      value) :
    ∃ book moved events, book.id.val = book_id ∧ transition book = .ok (moved, true, events) ∧
      (saga.lock rt).holds book.id.val = some book.state.hold ∧
      after.lock rt =
        (saga.lock rt).putHold book.id.val moved.state.hold (factsOf rt events) := by
  obtain ⟨row, book, moved, events, now, _, -, hloaded, htransition, hwrites⟩ := hcommits
  have hown : book.id.val = book_id := by
    obtain ⟨⟨seen, -, hrow⟩, hbook⟩ := hloaded
    rw [← seen.database.books.keyed book_id row hrow]
    exact Stored.key_eq (A := Book) row book hbook
  exact ⟨book, moved, events, hown, htransition, hstep.book hwrites
    (by simp [Statement.target, Statement.outboxRow]) hloaded (hid book moved events htransition)⟩

theorem release {command : ReleaseBookReservationCommand} {value : Bool}
    (hstep : Step rt past known batch saga after)
    (hcommits : (ReleaseBookReservationHandler.spec rt command).commits known batch value) :
    Move (saga.lock rt) (after.lock rt) ∧
      (after.lock rt).Closed command.book_id command.reservation_generation := by
  obtain ⟨book, moved, events, hbook, hrelease, hhold, hlock⟩ := hstep.messaged
    (fun _ _ _ => ReleaseBookReservationHandler.transition_id) hcommits
  rw [hlock]
  refine ⟨Book.release_move hhold hrelease, ?_⟩
  obtain ⟨_, _, -, -, hgeneration, -, -, ⟨hchanged, -⟩ | ⟨-, -, -, -, -, -, hstate, -⟩⟩ :=
    Book.release_ok hrelease
  · cases hchanged
  · refine ⟨moved.state.hold, hbook ▸ Function.update_self _ _ _, Or.inr ⟨?_, ?_⟩⟩
    · simp [hstate, BookState.hold, hgeneration]
    · simp [hstate, BookState.hold, BookState.phase]

theorem confirm {event : LoanCreated} {value : Bool}
    (hstep : Step rt past known batch saga after)
    (hconsistent : (saga.lock rt).Consistent)
    (hemitted : AggregateEvent.loanCreated event ∈ saga.emitted)
    (hcommits : (ConfirmBookBorrowHandler.spec rt
      (ConfirmBorrowOnLoanCreatedHandler.command event)).commits known batch value) :
    Move (saga.lock rt) (after.lock rt) ∧
      .settled event.book_id event.reservation_generation event.loan_id ∈
        (after.lock rt).facts := by
  obtain ⟨book, moved, events, hbook, hconfirm, hhold, hlock⟩ := hstep.messaged
    (fun _ _ _ => ConfirmBookBorrowHandler.transition_id) hcommits
  have hcanonical : ∀ attempt terms, .claimed event.loan_id attempt terms ∈ (saga.lock rt).facts →
      PyStr.strip event.loan_id = event.loan_id := by
    intro attempt terms hclaimed
    obtain ⟨record, hrecord, -⟩ := hconsistent.claimed _ attempt terms hclaimed
    exact canonical_loan hrecord
  obtain ⟨hfacts, hmove⟩ := Book.confirm_move hhold hbook hcanonical
    (fun _ htold => ⟨_, hemitted, htold⟩) hconfirm
  rw [hlock]
  refine ⟨hmove, ?_⟩
  rw [SemanticLock.State.facts_putHold, hfacts, hbook]
  exact Or.inr rfl

theorem giveBack {event : LoanCompleted} {value : ReturnBookResult}
    (hstep : Step rt past known batch saga after)
    (hconsistent : (saga.lock rt).Consistent)
    (hemitted : AggregateEvent.loanCompleted event ∈ saga.emitted)
    (hcommits : (ReturnBookHandler.spec rt
      (ReturnBookOnLoanCompletedHandler.command event)).commits known batch value) :
    Move (saga.lock rt) (after.lock rt) ∧
      ∃ hold, (after.lock rt).holds event.book_id = some hold ∧ hold.phase = .free := by
  obtain ⟨book, moved, events, hbook, hreturn, hhold, hlock⟩ := hstep.messaged
    (fun _ _ _ => ReturnBookHandler.transition_id) hcommits
  have hcompleted : .completed event.loan_id book.id.val ∈ (saga.lock rt).facts :=
    ⟨_, hemitted, by rw [hbook]; rfl⟩
  obtain ⟨record, hrecord, -⟩ := hconsistent.completed _ _ hcompleted
  rw [hlock]
  refine ⟨Book.giveBack_move hhold (canonical_loan hrecord) hcompleted hreturn,
    moved.state.hold, hbook ▸ Function.update_self _ _ _, ?_⟩
  obtain ⟨_, _, _, -, -, -, -, -, -, -, -, -, -, -, -, hstate, -⟩ := Book.returnBook_ok hreturn
  simp [hstate, BookState.hold, BookState.phase]

theorem createLoan {event : CatalogBookReserved} {value : CreateLoanResult}
    (hstep : Step rt past known batch saga after)
    (hconsistent : (saga.lock rt).Consistent)
    (hemitted : AggregateEvent.catalogBookReserved event ∈ saga.emitted)
    (hcommits : (CreateLoanHandler.spec rt
      (CreateLoanOnBookReservedHandler.command event)).commits known batch value) :
    Move (saga.lock rt) (after.lock rt) ∧
      ∃ token claim, rt.parseUuid event.reservation_id = some token ∧
        (after.lock rt).claims claim = some ⟨⟨event.book_id, event.reservation_generation,
          (token, event.patron_id)⟩, .pending⟩ := by
  obtain ⟨token, terms, id, loan, events, _, htoken, hadmitted, hcreate, -, hwrites⟩ := hcommits
  have hparsed : rt.parseUuid event.reservation_id = some token :=
    parseReservationId_eq_ok_iff.mp htoken
  obtain ⟨middle, hpieces, hbooks, hloans⟩ := hwrites.before_outbox hstep.effects
  rw [List.flatMap_singleton] at hpieces
  have hkept := Piece.inserted_plain.kept Book hpieces fun book hsame => by cases hsame
  have hemits : batch.emits = events := by
    rw [hwrites.emits]
    simp [Piece.inserted]
  have hheld : .held ⟨event.book_id, event.reservation_generation, (token, event.patron_id)⟩ ∈
      (saga.lock rt).facts := by
    refine ⟨_, hemitted, ?_⟩
    simp [AggregateEvent.told, hparsed]
  obtain ⟨hold, hhold, -⟩ := hconsistent.held _ hheld
  cases hpieces with
  | cons hfirst hrest =>
      obtain ⟨hnew, htable⟩ := Repository.inserted (A := Loan) _ _ loan hfirst
      cases hrest
      have htold : ∀ fact, (AggregateEvent.catalogBookReserved event).told rt = some fact →
          fact ∈ (saga.lock rt).facts := fun _ htold => ⟨_, hemitted, htold⟩
      have hfree : (saga.lock rt).claims loan.id.val = none :=
        congrArg (Option.map LoanRow.claim) hnew
      obtain ⟨fact, hfact, hclaim, hmove⟩ :=
        Loan.create_move (canonical_book hhold) hadmitted.own htold hparsed hfree hcreate
      rw [@lock_putClaim rt saga after events (LoanRow.ofEntity loan 0) fact
        (hloans.trans htable) (hbooks.trans hkept) (hemits ▸ hstep.emitted) hfact]
      refine ⟨hmove, token, loan.id.val, hparsed, ?_⟩
      rw [← hclaim]
      exact Function.update_self _ _ _

theorem cancel {command : CancelLoanCommand} {value : Bool}
    (hstep : Step rt past known batch saga after)
    (hcommits : (CancelLoanHandler.spec rt command).commits known batch value)
    (hlost : ∀ row : LoanRow, saga.database.loans.lookup row.id.val = some row →
      row.reservation_generation = command.reservation_generation →
      row.catalog_book_id.val = command.catalog_book_id →
      (∀ expected ∈ command.expected_loan_id, row.id.val = expected) →
        (saga.lock rt).Lost row.id.val) :
    Move (saga.lock rt) (after.lock rt) ∧
      ∃ loan_id, (∀ expected ∈ command.expected_loan_id, loan_id = expected) ∧
        .cancelled loan_id ∈ (after.lock rt).facts := by
  obtain ⟨token, row, loan, moved, events, _, -, hloaded, hmatch, hcancel, -, hwrites⟩ := hcommits
  obtain ⟨hrow, hloans, hbooks, hemitted⟩ := hstep.loan hwrites (by simp) hloaded
    (Loan.cancel_id hcancel)
  have hentity := (LoanRow.toEntity_eq_ok_iff row loan).mp hloaded.2
  obtain ⟨hgeneration, hbook, hexpected⟩ := CancelLoanHandler.mismatch_eq_false hmatch
  have hown : ∀ expected ∈ command.expected_loan_id, row.id.val = expected := by
    intro expected hmem
    rw [← hexpected expected hmem, hentity]
    rfl
  have hgone : (saga.lock rt).Lost row.id.val := by
    apply hlost row hrow
    · rw [hentity]
      exact hgeneration
    · rw [hentity]
      exact hbook
    · exact hown
  have hclaim : (saga.lock rt).claims row.id.val = some row.claim :=
    congrArg (Option.map LoanRow.claim) hrow
  obtain ⟨hfact, hmove⟩ := Loan.cancel_move hloaded.2 hclaim hgone hcancel
  rw [@lock_putClaim rt saga after events (row.write moved) _ hloans hbooks hemitted hfact]
  exact ⟨hmove, row.id.val, hown, Or.inl rfl⟩

theorem complete {command : ReturnLoanCommand} {value : ReturnLoanResult}
    (hstep : Step rt past known batch saga after)
    (hcommits : (ReturnLoanHandler.spec rt command).commits known batch value) :
    Turn (saga.lock rt) (after.lock rt) := by
  obtain ⟨_, row, loan, moved, _, events, _, _, -, hloaded, hreturn, -, -,
    ⟨rfl, _, hwrites⟩ | ⟨-, given, -, rfl⟩⟩ := hcommits
  · obtain ⟨hchanged, -⟩ | ⟨-, -, -, -, hid, -⟩ := Loan.returnBook_ok hreturn
    · cases hchanged
    · obtain ⟨hrow, hloans, hbooks, hemitted⟩ := hstep.loan hwrites receiptOf_plain hloaded hid
      have hclaim : (saga.lock rt).claims row.id.val = some row.claim :=
        congrArg (Option.map LoanRow.claim) hrow
      obtain ⟨hfact, hmove⟩ := Loan.complete_move hloaded.2 hclaim hreturn
      rw [@lock_putClaim rt saga after events (row.write moved) _ hloans hbooks hemitted hfact]
      exact .move hmove
  · have hsilent : ∀ statement ∈ (ReturnLoanHandler.receiptBatch rt command given moved
        value).statements, statement.target = none := by
      intro statement hmem
      simp only [ReturnLoanHandler.receiptBatch] at hmem
      exact (receiptOf_plain statement hmem).1
    have hbooks : after.database.books = saga.database.books :=
      hstep.effects.kept Book fun statement hmem _ => by simp [hsilent statement hmem]
    have hloans : after.database.loans = saga.database.loans :=
      hstep.effects.kept Loan fun statement hmem _ => by simp [hsilent statement hmem]
    exact .of_eq (lock_same hbooks (fun id => by rw [hloans]) hstep.emitted
      (factsOf_silent fun _ hmem => by cases hmem))

theorem extend {command : ExtendLoanCommand} {value : ExtendLoanResult}
    (hstep : Step rt past known batch saga after)
    (hcommits : (ExtendLoanHandler.spec rt command).commits known batch value) :
    after.lock rt = saga.lock rt := by
  obtain ⟨_, row, loan, moved, events, _, _, -, hloaded, hextend, -, hwrites⟩ := hcommits
  obtain ⟨hrow, hloans, hbooks, hemitted⟩ := hstep.loan hwrites receiptOf_plain hloaded
    (Loan.extend_id hextend)
  obtain ⟨hsilent, hclaim⟩ := Loan.extend_claim hloaded.2 hextend
  apply lock_same hbooks _ hemitted hsilent
  intro id
  rw [hloans]
  by_cases hid : id = row.id.val
  · rw [hid, hrow, Option.map_some, ← hclaim]
    exact congrArg (Option.map LoanRow.claim) (Table.lookup_insert _ (row.write moved))
  · rw [Table.lookup_insert_ne saga.database.loans (row.write moved) hid]

theorem add {command : AddBookCommand} {value : AddBookResult}
    (hstep : Step rt past known batch saga after)
    (hcommits : (AddBookHandler.spec rt command).commits known batch value) :
    Move (saga.lock rt) (after.lock rt) := by
  obtain ⟨key, title, author, id, draws, -, -, -, -, hwrites⟩ := hcommits
  obtain ⟨middle, hpieces, hbooks, hloans⟩ := hwrites.before_outbox hstep.effects
  rw [List.flatMap_singleton] at hpieces
  have hkept := (Piece.inserted_receipt receiptOf_plain).kept Loan hpieces
    fun loan hsame => by cases hsame
  have hemits : batch.emits = [] := by
    rw [hwrites.emits]
    simp [Piece.inserted]
  cases hpieces with
  | cons hfirst hrest =>
      obtain ⟨hnew, htable⟩ := Repository.inserted (A := Book) _ _ _ hfirst
      have hinserted := htable ▸ hrest.kept Book
        fun statement hmem _ => by simp [receiptOf_plain statement hmem]
      have hsilent : factsOf rt [] = ∅ := factsOf_silent fun _ hmem => by cases hmem
      rw [lock_putHold (hbooks.trans hinserted) (hloans.trans hkept) (hemits ▸ hstep.emitted),
        hsilent]
      exact .add _ _ (congrArg (Option.map fun row : BookRow => row.state.hold) hnew) rfl

theorem patron {scope patron_id : PyStr} {facts : List (PyStr × Json)}
    {transition : Patron → Except Raised (Patron × List AggregateEvent)}
    {key : Except AppException (Option IdempotencyKey)} {value : PatronSnapshot}
    (hstep : Step rt past known batch saga after)
    (hsilent : ∀ patron moved events, transition patron = .ok (moved, events) →
      factsOf rt events = ∅)
    (hcommits : (PatronPolicyChange.spec rt scope patron_id facts transition key).commits known
      batch value) : after.lock rt = saga.lock rt := by
  obtain ⟨_, row, patron, moved, events, _, -, -, -, -, htransition, -, hwrites⟩ := hcommits
  apply hstep.other hwrites (Piece.updated_plain receiptOf_plain)
  · exact fun book hsame => by cases hsame
  · exact fun loan hsame => by cases hsame
  · simp [Piece.updated, hsilent _ _ _ htransition]

theorem register {command : RegisterPatronCommand} {value : PatronSnapshot}
    (hstep : Step rt past known batch saga after)
    (hcommits : (RegisterPatronHandler.spec rt command).commits known batch value) :
    after.lock rt = saga.lock rt := by
  obtain ⟨_, _, _, _, _, _, patron, events, _, -, -, -, -, hregister, -, hwrites⟩ := hcommits
  apply hstep.other hwrites (Piece.inserted_receipt receiptOf_plain)
  · exact fun book hsame => by cases hsame
  · exact fun loan hsame => by cases hsame
  · unfold Patron.register at hregister
    obtain ⟨registered, -, hrest⟩ := Result.bind_eq_ok.mp hregister
    cases hrest
    apply factsOf_silent
    simp [Piece.inserted, AggregateEvent.told]

open ReleaseExpiredReservationsHandler in
/-- The reaper releases one book after the other. -/
theorem releases {command : ReleaseExpiredReservationsCommand} {releases : List Release}
    {db middle : Database} (emitted : List AggregateEvent)
    (hvalid : ∀ release ∈ releases, release.Valid rt command known)
    (hviewed : Interleaving.Viewed (commandSide rt) past known) (hlatest : Latest Book past db)
    (heffects : Database.Effects db ((releases.map Release.piece).flatMap Piece.statements)
      middle) :
    middle.loans = db.loans ∧
      Moves (lock rt ⟨db, emitted⟩) (lock rt ⟨middle, emitted ++ releases.flatMap Release.events⟩)
        := by
  induction releases generalizing db emitted with
  | nil =>
      cases heffects
      rw [List.flatMap_nil, List.append_nil]
      exact ⟨rfl, .refl⟩
  | cons release rest ih =>
      obtain ⟨next, hfirst, hrest⟩ := heffects.append
      have hrelease := hvalid release List.mem_cons_self
      have hothers : ∀ statement ∈ [Statement.transitionOperation (change release.after
          release.reservation release.patron release.now)],
            statement.target = none ∧ statement.outboxRow = none :=
        CirculationCommand.operation_plain ⟨rfl, rfl⟩ (by simp)
      have hid : release.after.id = release.book.id := by
        obtain ⟨_, _, -, -, -, -, -, ⟨hchanged, -⟩ | ⟨-, -, hid, -⟩⟩ :=
          Book.release_ok hrelease.released
        · cases hchanged
        · exact hid
      obtain ⟨hrow, htable⟩ := Piece.updated_found (A := Book) hothers hfirst hrelease.loaded
        (congrArg Subtype.val hid.symm) hviewed hlatest
      have hkept := (Piece.updated_plain hothers).kept Loan hfirst
        fun loan hsame => by cases hsame
      obtain ⟨hloans, hmoves⟩ := ih (emitted ++ release.events)
        (fun other hmem => hvalid other (List.mem_cons_of_mem _ hmem))
        (hlatest.effects hfirst) hrest
      refine ⟨hloans.trans hkept, ?_⟩
      rw [List.flatMap_cons, ← List.append_assoc]
      apply Relation.ReflTransGen.head _ hmoves
      obtain ⟨hhold, hlock⟩ := @put_book rt ⟨db, emitted⟩ ⟨next, emitted ++ release.events⟩
        release.events _ _ _ hrelease.loaded.2 hrow htable hkept rfl
      rw [hlock]
      exact Book.release_move hhold hrelease.released

theorem expire {command : ReleaseExpiredReservationsCommand}
    {value : ReleaseExpiredReservationsResult} (hstep : Step rt past known batch saga after)
    (hcommits : (ReleaseExpiredReservationsHandler.spec rt command).commits known batch value) :
    Turn (saga.lock rt) (after.lock rt) := by
  obtain ⟨releases, -, hvalid, -, -, hwrites⟩ := hcommits
  obtain ⟨middle, hpieces, hbooks, hloans⟩ := hwrites.before_outbox hstep.effects
  obtain ⟨hkept, hmoves⟩ := Step.releases saga.emitted hvalid hstep.viewed
    hstep.books hpieces
  have hemits : batch.emits =
      releases.flatMap ReleaseExpiredReservationsHandler.Release.events := by
    rw [hwrites.emits, List.flatMap_map]
    simp [ReleaseExpiredReservationsHandler.Release.piece, Piece.updated]
  have hafter : after.lock rt = lock rt ⟨middle, saga.emitted ++
      releases.flatMap ReleaseExpiredReservationsHandler.Release.events⟩ := by
    simp only [lock, hbooks, hloans, hstep.emitted, hemits]
  apply Turn.quiet
  · rw [hafter]
    exact hmoves
  · simp only [lock, hloans, hkept]

end Step

theorem token_of_stale {event : LoanCreated} {book : Book}
    {book_id reservation_id operation : PyStr} {generation : ℤ}
    (hrefused : ConfirmBookBorrowHandler.transition rt
      (ConfirmBorrowOnLoanCreatedHandler.command event) book =
        .error (.catalog (.staleReservation book_id reservation_id generation operation))) :
    ∃ token, rt.parseUuid event.reservation_id = some token := by
  unfold ConfirmBookBorrowHandler.transition Book.confirmBorrow
    Book.requireMatchingReservation at hrefused
  cases htoken : Book.parseReservationId rt event.reservation_id with
  | ok token => exact ⟨token, parseReservationId_eq_ok_iff.mp htoken⟩
  | error raised =>
      simp only [ConfirmBorrowOnLoanCreatedHandler.command, htoken, Result.error_bind,
        Except.error.injEq] at hrefused
      subst raised
      unfold Book.parseReservationId parseReservationId at htoken
      split at htoken <;> cases htoken

/-- A loan that a book was seen to refuse as stale was lost by then. -/
theorem lost_of_stale {event : LoanCreated} {draws : Draws}
    (hconsistent : (saga.lock rt).Consistent)
    (hemitted : AggregateEvent.loanCreated event ∈ saga.emitted)
    (hstale : ConfirmBorrowOnLoanCreatedHandler.Stale rt event ⟨saga.database, draws⟩) :
    (saga.lock rt).Lost event.loan_id := by
  obtain ⟨row, book, _, _, _, _, hrow, hbook, hrefused⟩ := hstale
  obtain ⟨token, htoken⟩ := token_of_stale hrefused
  have hclaimed : .claimed event.loan_id
      ⟨event.book_id, event.reservation_generation, (token, event.patron_id)⟩
      (event.borrowed_at.toUtc, event.due_date.toUtc) ∈ (saga.lock rt).facts := by
    refine ⟨_, hemitted, ?_⟩
    simp [AggregateEvent.told, htoken]
  obtain ⟨-, hstate⟩ := BookRow.hydrated hbook
  have hhold : (saga.lock rt).holds event.book_id = some book.state.hold := by
    rw [← hstate]
    exact congrArg (Option.map fun row : BookRow => row.state.hold) hrow
  exact hconsistent.lost_of_stale hclaimed hhold (Book.confirm_stale htoken hrefused)

/-- A loan whose hold was released is lost. -/
theorem lost_of_released {event : CatalogBookReleased} {row : LoanRow}
    (hconsistent : (saga.lock rt).Consistent)
    (hemitted : AggregateEvent.catalogBookReleased event ∈ saga.emitted)
    (hrow : saga.database.loans.lookup row.id.val = some row)
    (hgeneration : row.reservation_generation = event.reservation_generation)
    (hbook : row.catalog_book_id.val = event.book_id) :
    (saga.lock rt).Lost row.id.val := by
  apply hconsistent.lost_of_released (congrArg (Option.map LoanRow.claim) hrow)
  refine ⟨_, hemitted, ?_⟩
  simp [AggregateEvent.told, LoanRow.claim, hgeneration, hbook]

end Saga

/-! ## Every request of the saga -/

/-- What the runs keep: every state that was seen was consistent, and what was told or
lost in it still is. -/
structure Sound (rt : PythonRuntime) (past : Set Saga) (saga : Saga) : Prop where
  views : ∀ view ∈ past, (view.lock rt).Consistent ∧ (view.lock rt).Before (saga.lock rt)
  books : Latest Book (Saga.database '' past) saga.database
  loans : Latest Loan (Saga.database '' past) saga.database

section Requests

variable {rt : PythonRuntime} {saga after : Saga} {past : Set Saga}
  {known : Knowledge Observation PyStr} {batch : Batch}

theorem Saga.viewed {request : SagaRequest}
    (hviewed : Interleaving.ViewedSince (borrowSaga rt) SagaRequest.Admissible past request
      known) :
    Interleaving.Viewed (commandSide rt) (Saga.database '' past) known := by
  intro observation hseen
  obtain ⟨view, hview, -, draws, hlook⟩ := hviewed observation hseen
  exact ⟨view.database, ⟨view, hview, rfl⟩, draws, hlook⟩

theorem SagaRequest.client_turn {request : Request} {value : request.Result}
    (hstep : Saga.Step rt (Saga.database '' past) known batch saga after)
    (hclient : request.isClient = true)
    (hcommits : (request.spec rt).commits known batch value) :
    Turn (saga.lock rt) (after.lock rt) := by
  cases request with
  | addBook command => exact .move (hstep.add hcommits)
  | registerPatron command => exact .of_eq (hstep.register hcommits)
  | suspendPatron command =>
      exact .of_eq
        (hstep.patron (fun _ _ _ hsuspend => Patron.suspend_silent hsuspend) hcommits)
  | reinstatePatron command =>
      exact .of_eq
        (hstep.patron (fun _ _ _ hreinstate => Patron.reinstate_silent hreinstate) hcommits)
  | upgradePatronTier command =>
      obtain ⟨tier, -, hcommits⟩ := hcommits
      exact .of_eq
        (hstep.patron (fun _ _ _ hupgrade => Patron.upgradeTier_silent hupgrade) hcommits)
  | circulation command =>
      cases command with
      | borrowBook command => exact .move (hstep.borrow hcommits)
      | releaseExpiredReservations command => exact hstep.expire hcommits
      | extendLoan command => exact .of_eq (hstep.extend hcommits)
      | returnLoan command => exact hstep.complete hcommits
      | confirmBookBorrow _ | releaseBookReservation _ | returnBook _ | createLoan _
      | cancelLoan _ => cases hclient

/-- What the handler of an event leaves when it commits. -/
def AggregateEvent.Outcome (rt : PythonRuntime) (lock : LockState) : AggregateEvent → Prop
  | catalogBookReserved event =>
      (∃ token claim, rt.parseUuid event.reservation_id = some token ∧
        lock.claims claim = some ⟨⟨event.book_id, event.reservation_generation,
          (token, event.patron_id)⟩, .pending⟩) ∨
      lock.Closed event.book_id event.reservation_generation
  | loanCreated event =>
      .settled event.book_id event.reservation_generation event.loan_id ∈ lock.facts ∨
        .cancelled event.loan_id ∈ lock.facts
  | loanCompleted event => ∃ hold, lock.holds event.book_id = some hold ∧ hold.phase = .free
  | _ => True

/-- What the handler of an event commits is a move.  Only a loan that is lost is
cancelled. -/
theorem AggregateEvent.deliver_move {event : AggregateEvent}
    (hstep : Saga.Step rt (Saga.database '' past) known batch saga after)
    (hsound : Sound rt past saga) (hmem : saga ∈ past) (hemitted : event ∈ saga.emitted)
    (hviewed : Interleaving.ViewedSince (borrowSaga rt) SagaRequest.Admissible past
      (.deliver event) known)
    (hcommits : (event.deliverSpec rt).commits known batch ()) :
    Move (saga.lock rt) (after.lock rt) ∧ event.Outcome rt (after.lock rt) := by
  obtain ⟨hconsistent, -⟩ := hsound.views saga hmem
  cases event with
  | catalogBookReserved event =>
      rcases hcommits with ⟨value, hcreate⟩ | ⟨reason, value, hrelease⟩
      · exact (hstep.createLoan hconsistent hemitted hcreate).imp_right Or.inl
      · exact (hstep.release hrelease).imp_right Or.inr
  | loanCreated event =>
      rcases hcommits with ⟨value, hconfirm⟩ | ⟨⟨seen, hseen, hstale⟩, value, hcancel⟩
      · exact (hstep.confirm hconsistent hemitted hconfirm).imp_right Or.inl
      · obtain ⟨hmove, loan_id, hown, hcancelled⟩ := hstep.cancel hcancel (by
          intro row hrow _ _ hexpected
          obtain ⟨view, hview, hthere, draws, rfl⟩ := hviewed seen hseen
          obtain ⟨hseenConsistent, hbefore⟩ := hsound.views view hview
          rw [hexpected event.loan_id rfl]
          exact hbefore.lost _ (Saga.lost_of_stale hseenConsistent hthere hstale))
        rw [hown event.loan_id rfl] at hcancelled
        exact ⟨hmove, Or.inr hcancelled⟩
  | catalogBookReleased event =>
      obtain ⟨value, hcancel⟩ := hcommits
      refine (hstep.cancel hcancel ?_).imp_right fun _ => trivial
      intro row hrow hgeneration hbook _
      exact Saga.lost_of_released hconsistent hemitted hrow hgeneration hbook
  | loanCompleted event =>
      obtain ⟨value, hreturn⟩ := hcommits
      exact hstep.giveBack hconsistent hemitted hreturn
  | _ => exact absurd hcommits id

theorem SagaRequest.turn {request : SagaRequest}
    (hstep : Saga.Step rt (Saga.database '' past) known batch saga after)
    (hsound : Sound rt past saga) (hmem : saga ∈ past) (hadmissible : request.Admissible saga)
    (hviewed : Interleaving.ViewedSince (borrowSaga rt) SagaRequest.Admissible past request
      known)
    (hcommits : (request.spec rt).commits known batch ()) :
    Turn (saga.lock rt) (after.lock rt) := by
  cases request with
  | client request =>
      obtain ⟨value, hcommits⟩ := hcommits
      exact SagaRequest.client_turn hstep hadmissible hcommits
  | deliver event =>
      exact .move (AggregateEvent.deliver_move hstep hsound hmem hadmissible hviewed hcommits).1

/-- A batch that takes effect, with the knowledge behind it. -/
theorem Sound.landed {request : SagaRequest}
    (hsound : Sound rt past saga)
    (hviewed : Interleaving.ViewedSince (borrowSaga rt) SagaRequest.Admissible past request
      known)
    (hcommits : (request.spec rt).unfenced.commits known batch ())
    (happly : (borrowSaga rt).apply batch saga = .ok after) :
    ∃ fenced, fenced.seen = known.seen ∧
      Saga.Step rt (Saga.database '' past) fenced batch saga after ∧
      Interleaving.ViewedSince (borrowSaga rt) SagaRequest.Admissible past request fenced ∧
      (request.spec rt).commits fenced batch () := by
  obtain ⟨fenced, hseen, hcommits⟩ := hcommits
  obtain ⟨database, hrun, hafter⟩ := Result.bind_eq_ok.mp happly
  have hknown : Interleaving.ViewedSince (borrowSaga rt) SagaRequest.Admissible past request
      fenced := fun observation hmem => hviewed observation (hseen ▸ hmem)
  refine ⟨fenced, hseen, ?_, hknown, hcommits⟩
  rw [← Except.ok.inj hafter]
  exact ⟨Database.runAll_effects hrun, rfl, Saga.viewed hknown, hsound.books, hsound.loans⟩

/-- A run of moves keeps what the runs keep. -/
theorem Sound.step (hsound : Sound rt past saga) (hmem : saga ∈ past)
    (hmoves : Moves (saga.lock rt) (after.lock rt))
    (hbooks : Latest Book (Saga.database '' past) after.database)
    (hloans : Latest Loan (Saga.database '' past) after.database) :
    Sound rt (insert after past) after := by
  constructor
  · rintro view (rfl | hview)
    · exact ⟨hmoves.consistent (hsound.views saga hmem).1, .refl _⟩
    · obtain ⟨hconsistent, hbefore⟩ := hsound.views view hview
      exact ⟨hconsistent, hbefore.trans hmoves.before⟩
  · rw [Set.image_insert_eq]
    exact hbooks.insert
  · rw [Set.image_insert_eq]
    exact hloans.insert

end Requests

/-! ## Every run -/

theorem Saga.Upkeep.lock {saga after : Saga} (hupkeep : Saga.Upkeep saga after)
    (rt : PythonRuntime) : after.lock rt = saga.lock rt := by
  simp only [Saga.lock, hupkeep.database.books, hupkeep.database.loans, hupkeep.emitted]

theorem Table.mem_of_lookup {Row : Type} {id : Row → PyStr} {table : Table Row id}
    {key : PyStr} {row : Row} (hrow : table.lookup key = some row) : row ∈ table.rows := by
  rw [Table.mem_rows, table.keyed key row hrow]
  exact hrow

/-- Every book is on the shelf, no loan exists and nothing was emitted. -/
structure Saga.Fresh (saga : Saga) : Prop where
  books : ∀ row ∈ saga.database.books.rows, row.state.status = .available
  loans : saga.database.loans.rows = []
  emitted : saga.emitted = []

namespace Saga.Fresh

variable {rt : PythonRuntime} {saga : Saga}

theorem free (hfresh : saga.Fresh) (id : PyStr)
    (hold : SemanticLock.Hold PyStr LockTag LockTerms)
    (hhold : (saga.lock rt).holds id = some hold) : hold.phase = .free := by
  obtain ⟨row, hrow, rfl⟩ := Option.map_eq_some_iff.mp hhold
  have havailable := hfresh.books row (Table.mem_of_lookup hrow)
  simp [BookState.hold, BookState.phase, havailable]

theorem unclaimed (hfresh : saga.Fresh) (id : PyStr) : (saga.lock rt).claims id = none := by
  apply Option.map_eq_none_iff.mpr
  cases hrow : saga.database.loans.lookup id with
  | none => rfl
  | some row => simpa [hfresh.loans] using Table.mem_of_lookup hrow

end Saga.Fresh

theorem borrowSaga_lasting (rt : PythonRuntime) :
    Interleaving.Lasting (borrowSaga rt) SagaRequest.Admissible Saga.Upkeep := by
  constructor
  · intro saga request batch after hadmissible happly
    obtain ⟨database, -, hafter⟩ := Result.bind_eq_ok.mp happly
    cases hafter
    cases request with
    | client request => exact hadmissible
    | deliver event => exact List.mem_append_left _ hadmissible
  · intro saga request after hadmissible hupkeep
    cases request with
    | client request => exact hadmissible
    | deliver event =>
        have hemitted : event ∈ saga.emitted := hadmissible
        rw [← hupkeep.emitted] at hemitted
        exact hemitted

theorem borrowSaga_maintains (rt : PythonRuntime) :
    Interleaving.Maintains (borrowSaga rt) (fun request => (request.spec rt).unfenced)
      Saga.Fresh SagaRequest.Admissible Saga.Upkeep (fun past _ saga => Sound rt past saga) := by
  constructor
  · intro saga hfresh
    constructor
    · rintro view rfl
      exact ⟨.fresh hfresh.free hfresh.unclaimed (by simp [Saga.lock, hfresh.emitted, factsOf]),
        .refl _⟩
    · rintro view ⟨earlier, rfl, rfl⟩ id row hrow
      exact ⟨row, hrow, Or.inr rfl⟩
    · rintro view ⟨earlier, rfl, rfl⟩ id row hrow
      exact ⟨row, hrow, Or.inr rfl⟩
  · rintro past _ saga hsound hmem entry known value after rfl rfl hadmissible hviewed
      hcommits - happly
    obtain ⟨fenced, -, hstep, hknown, hcommits⟩ := hsound.landed hviewed hcommits happly
    have hmoves := (SagaRequest.turn hstep hsound hmem hadmissible hknown hcommits).moves
    exact hsound.step hmem hmoves (hsound.books.effects hstep.effects)
      (hsound.loans.effects hstep.effects)
  · intro past _ saga after hsound hmem hupkeep
    have hsame := hupkeep.lock rt
    apply hsound.step hmem
    · rw [hsame]
    · intro view hview id row hrow
      rw [Lineal.upkeep (A := Book) _ _ hupkeep.database]
      exact hsound.books view hview id row hrow
    · intro view hview id row hrow
      rw [Lineal.upkeep (A := Loan) _ _ hupkeep.database]
      exact hsound.loans view hview id row hrow

theorem borrowSaga_meets (rt : PythonRuntime) (request : SagaRequest) :
    ((borrowSaga rt).program request).Meets (request.spec rt).unfenced .nothing :=
  (request.handle_meets rt .nothing).unfenced rfl

/-- The two contexts agree in every reachable state. -/
theorem BorrowSaga.consistent {rt : PythonRuntime} {world : SagaWorld}
    (hreach : BorrowSaga rt Saga.Fresh world) : (world.shared.lock rt).Consistent := by
  have hprogram := fun saga request (_ : SagaRequest.Admissible saga request) =>
    borrowSaga_meets rt request
  have hsound := Interleaving.reachable_maintains (borrowSaga_maintains rt)
    (borrowSaga_lasting rt).persists hprogram hreach
  exact (hsound.views _ (Interleaving.reachable_sane hprogram hreach).shared_mem).1

/-- The book is borrowed by this loan, under this reservation. -/
structure BookRow.BorrowedBy (row : BookRow) (loan : LoanRow) : Prop where
  current : row.state.current_loan_id = some loan.id
  book : loan.catalog_book_id = row.id
  reservation : row.state.reservation_id = some loan.reservation_id
  generation : loan.reservation_generation = row.state.reservation_generation
  patron : row.state.reserved_patron_id = some loan.patron_id

theorem BookState.phase_borrowed {state : BookState} (hstatus : state.status = .borrowed) :
    state.hold.phase = .settled ((state.current_loan_id.map Subtype.val).getD [])
      (state.borrowed_at, state.return_due_date) := by
  simp [BookState.hold, BookState.phase, hstatus]

/-- A borrowed book has its loan, which is not cancelled. -/
theorem Saga.borrowed_loan {rt : PythonRuntime} {saga : Saga}
    (hconsistent : (saga.lock rt).Consistent) {row : BookRow}
    (hrow : row ∈ saga.database.books.rows) (hstatus : row.state.status = .borrowed) :
    ∃ loan ∈ saga.database.loans.rows, row.BorrowedBy loan ∧ loan.status ≠ .cancelled := by
  have hhold : (saga.lock rt).holds row.id.val = some row.state.hold :=
    congrArg (Option.map fun row : BookRow => row.state.hold) ((Table.mem_rows _ _).mp hrow)
  obtain ⟨record, ⟨token, patron⟩, hrecord, htag, hattempt, hprogress⟩ :=
    hconsistent.claim_of_settled hhold (BookState.phase_borrowed hstatus)
  obtain ⟨loan, hloan, rfl⟩ := Option.map_eq_some_iff.mp hrecord
  have hid := saga.database.loans.keyed _ loan hloan
  obtain ⟨hreservation, hpatron⟩ := BookState.tag_eq_some.mp htag
  simp only [LoanRow.claim, SemanticLock.Attempt.mk.injEq, Prod.mk.injEq] at hattempt
  obtain ⟨hbook, hgeneration, rfl, rfl⟩ := hattempt
  refine ⟨loan, Table.mem_of_lookup hloan, ⟨?_, Subtype.ext hbook, hreservation, hgeneration, ?_⟩,
    ?_⟩
  · cases hcurrent : row.state.current_loan_id with
    | none =>
        rw [hcurrent] at hid
        have hreference := loan.id.property
        rw [hid] at hreference
        exact absurd hreference (by decide)
    | some current =>
        rw [hcurrent] at hid
        exact congrArg some (Subtype.ext hid.symm)
  · obtain ⟨found, hfound, hsame⟩ := Option.map_eq_some_iff.mp hpatron
    rw [hfound]
    exact congrArg some (Subtype.ext hsame)
  · intro hcancelled
    simp [LoanRow.claim, hcancelled, LoanStatus.progress] at hprogress

/-- The reservation of a cancelled loan is over. -/
theorem Saga.cancelled_over {rt : PythonRuntime} {saga : Saga}
    (hconsistent : (saga.lock rt).Consistent) {loan : LoanRow}
    (hloan : loan ∈ saga.database.loans.rows) (hcancelled : loan.status = .cancelled) :
    ∃ row ∈ saga.database.books.rows, row.id = loan.catalog_book_id ∧
      loan.reservation_generation ≤ row.state.reservation_generation ∧
      (loan.reservation_generation = row.state.reservation_generation →
        row.state.status ≠ .reserved) ∧ ¬ (row.state.status = .borrowed ∧ row.BorrowedBy loan) := by
  have hrecord : (saga.lock rt).claims loan.id.val = some loan.claim :=
    congrArg (Option.map LoanRow.claim) ((Table.mem_rows _ _).mp hloan)
  obtain ⟨hold, hhold, hpast⟩ := hconsistent.abandoned _ _ hrecord
    (by simp [LoanRow.claim, hcancelled, LoanStatus.progress])
  obtain ⟨row, hrow, rfl⟩ := Option.map_eq_some_iff.mp hhold
  have hmem := Table.mem_of_lookup hrow
  refine ⟨row, hmem, Subtype.ext (saga.database.books.keyed _ row hrow), ?_, ?_, ?_⟩
  · rcases hpast with hlt | ⟨heq, -⟩
    · exact hlt.le
    · exact heq.le
  · intro hsame hreserved
    rcases hpast with hlt | ⟨-, hne⟩
    · exact absurd hsame hlt.ne
    · exact hne (by simp [BookState.hold, BookState.phase, hreserved])
  · rintro ⟨hstatus, hborrowed⟩
    obtain ⟨other, hother, hagain, hongoing⟩ := Saga.borrowed_loan hconsistent hmem hstatus
    have hid : other.id = loan.id := by
      rw [← Option.some.injEq, ← hagain.current, hborrowed.current]
    have hsame : other = loan := by
      rw [Table.mem_rows] at hother hloan
      rw [hid, hloan, Option.some.injEq] at hother
      exact hother.symm
    exact hongoing (hsame ▸ hcancelled)

/-- What was released is another reservation than what was borrowed. -/
theorem Saga.released_elsewhere {rt : PythonRuntime} {saga : Saga}
    (hconsistent : (saga.lock rt).Consistent) {borrowed : CatalogBookBorrowed}
    {released : CatalogBookReleased} (hborrowed : .catalogBookBorrowed borrowed ∈ saga.emitted)
    (hreleased : .catalogBookReleased released ∈ saga.emitted)
    (hbook : released.book_id = borrowed.book_id) :
    released.reservation_generation ≠ borrowed.reservation_generation := by
  intro hgeneration
  have hsettled : .settled borrowed.book_id borrowed.reservation_generation borrowed.loan_id ∈
      (saga.lock rt).facts := ⟨_, hborrowed, rfl⟩
  apply hconsistent.settled_not_released hsettled
  exact ⟨_, hreleased, by simp [AggregateEvent.told, hbook, hgeneration]⟩

/-- What was cancelled is another loan than what was borrowed. -/
theorem Saga.cancelled_elsewhere {rt : PythonRuntime} {saga : Saga}
    (hconsistent : (saga.lock rt).Consistent) {borrowed : CatalogBookBorrowed}
    {cancelled : LoanCancelled} (hborrowed : .catalogBookBorrowed borrowed ∈ saga.emitted)
    (hcancelled : .loanCancelled cancelled ∈ saga.emitted) :
    cancelled.loan_id ≠ borrowed.loan_id := by
  intro hloan
  have hsettled : .settled borrowed.book_id borrowed.reservation_generation borrowed.loan_id ∈
      (saga.lock rt).facts := ⟨_, hborrowed, rfl⟩
  apply hconsistent.settled_not_cancelled hsettled
  exact ⟨_, hcancelled, by simp [AggregateEvent.told, hloan]⟩

/-- A definitive borrow is never contradicted, in whatever order the events arrive and
however often.  A borrowed book has its loan, which is not cancelled; a reservation of
which a borrow was emitted was neither released nor borrowed by another loan, and its loan
was never cancelled; and the reservation of a cancelled loan is over. -/
theorem borrow_never_contradicted {rt : PythonRuntime} {world : SagaWorld}
    (hreach : BorrowSaga rt Saga.Fresh world) :
    (∀ book ∈ world.shared.database.books.rows, book.state.status = .borrowed →
      ∃ loan ∈ world.shared.database.loans.rows,
        book.BorrowedBy loan ∧ loan.status ≠ .cancelled) ∧
    (∀ borrowed, .catalogBookBorrowed borrowed ∈ world.shared.emitted →
      (∀ released, .catalogBookReleased released ∈ world.shared.emitted →
        released.book_id = borrowed.book_id →
          released.reservation_generation ≠ borrowed.reservation_generation) ∧
      (∀ other, .catalogBookBorrowed other ∈ world.shared.emitted →
        other.book_id = borrowed.book_id →
          other.reservation_generation = borrowed.reservation_generation →
            other.loan_id = borrowed.loan_id) ∧
      ∀ cancelled, .loanCancelled cancelled ∈ world.shared.emitted →
        cancelled.loan_id ≠ borrowed.loan_id) ∧
    ∀ loan ∈ world.shared.database.loans.rows, loan.status = .cancelled →
      ∃ book ∈ world.shared.database.books.rows, book.id = loan.catalog_book_id ∧
        loan.reservation_generation ≤ book.state.reservation_generation ∧
        (loan.reservation_generation = book.state.reservation_generation →
          book.state.status ≠ .reserved) ∧
        ¬ (book.state.status = .borrowed ∧ book.BorrowedBy loan) := by
  have hconsistent := hreach.consistent
  refine ⟨fun book hbook hstatus => Saga.borrowed_loan hconsistent hbook hstatus, ?_,
    fun loan hloan hcancelled => Saga.cancelled_over hconsistent hloan hcancelled⟩
  intro borrowed hborrowed
  refine ⟨fun released hreleased hbook =>
      Saga.released_elsewhere hconsistent hborrowed hreleased hbook, ?_,
    fun cancelled hcancelled => Saga.cancelled_elsewhere hconsistent hborrowed hcancelled⟩
  intro other hother hbook hgeneration
  have hsettled : .settled borrowed.book_id borrowed.reservation_generation borrowed.loan_id ∈
      (world.shared.lock rt).facts := ⟨_, hborrowed, rfl⟩
  refine hconsistent.unique _ _ _ _ ?_ hsettled
  exact ⟨_, hother, by simp [AggregateEvent.told, hbook, hgeneration]⟩

/-- Whatever is delivered, and in whatever order: where a book is borrowed by a loan, lending
has that loan for the same reservation and has not cancelled it; no reservation is both
borrowed and released, and no loan both borrowed and cancelled. -/
theorem definitive_borrow_stands {rt : PythonRuntime} {world : SagaWorld}
    (hreach : BorrowSaga rt Saga.Fresh world) :
    (∀ book ∈ world.shared.database.books.rows, ∀ loan_id : Reference,
      book.state.status = .borrowed → book.state.current_loan_id = some loan_id →
        ∃ loan, world.shared.database.loans.lookup loan_id.val = some loan ∧
          loan.catalog_book_id = book.id ∧
          book.state.reservation_id = some loan.reservation_id ∧
          book.state.reservation_generation = loan.reservation_generation ∧
          book.state.reserved_patron_id = some loan.patron_id ∧ loan.status ≠ .cancelled) ∧
    (∀ borrowed released, .catalogBookBorrowed borrowed ∈ world.shared.emitted →
      .catalogBookReleased released ∈ world.shared.emitted →
        ¬ (released.book_id = borrowed.book_id ∧
          released.reservation_generation = borrowed.reservation_generation)) ∧
    ∀ borrowed cancelled, .catalogBookBorrowed borrowed ∈ world.shared.emitted →
      .loanCancelled cancelled ∈ world.shared.emitted →
        cancelled.loan_id ≠ borrowed.loan_id := by
  have hconsistent := hreach.consistent
  refine ⟨fun book hbook loan_id hstatus hcurrent => ?_,
    fun borrowed released hborrowed hreleased hsame =>
      Saga.released_elsewhere hconsistent hborrowed hreleased hsame.1 hsame.2,
    fun borrowed cancelled hborrowed hcancelled =>
      Saga.cancelled_elsewhere hconsistent hborrowed hcancelled⟩
  obtain ⟨loan, hloan, hborrows, hongoing⟩ := Saga.borrowed_loan hconsistent hbook hstatus
  have hid : loan_id = loan.id := by
    rw [← Option.some.injEq, ← hcurrent, hborrows.current]
  refine ⟨loan, ?_, hborrows.book, hborrows.reservation, hborrows.generation.symm,
    hborrows.patron, hongoing⟩
  rw [hid]
  exact (Table.mem_rows _ _).mp hloan

deriving instance DecidableEq for CatalogBookReserved, CatalogBookBorrowed,
  CatalogBookReleased, CatalogBookReturned, LoanCreated, LoanCompleted, LoanCancelled,
  LoanExtended, BookOverdue, PatronRegistered, PatronSuspended, PatronReinstated,
  AggregateEvent

def SagaRequest.isAdmissible (saga : Saga) : SagaRequest → Bool
  | client request => request.isClient
  | deliver event => decide (event ∈ saga.emitted)

theorem SagaRequest.isAdmissible_sound (saga : Saga) (request : SagaRequest)
    (hcheck : request.isAdmissible saga = true) : request.Admissible saga := by
  cases request with
  | client request => exact hcheck
  | deliver event =>
      have hemitted : event ∈ saga.emitted := of_decide_eq_true hcheck
      exact hemitted

theorem thirdEvent_isIdentity : isIdentity (py "event-3") = true := by decide

def thirdDraws : Draws :=
  { sampleDraws with
    metadata := fun _ => { sampleMetadata with
      event_id := ⟨py "event-3", thirdEvent_isIdentity⟩ } }

def sampleReserved : CatalogBookReserved where
  book_id := uuidText 1
  title := py "Emma"
  reservation_id := uuidText 3
  reservation_generation := 1
  patron_id := uuidText 2
  reserved_at := .ofUtc sampleDraws.now
  borrower_email := py "ann@lee.org"

theorem sampleDue_lt : 14 * 86400000000 + 1 < wallSpan := by decide

def sampleCreated : LoanCreated where
  loan_id := uuidText 3
  reservation_id := uuidText 3
  reservation_generation := 1
  patron_id := uuidText 2
  patron_email := py "ann@lee.org"
  book_id := uuidText 1
  book_title := py "Emma"
  borrowed_at := .ofUtc sampleDraws.now
  due_date := .ofUtc ⟨14 * 86400000000 + 1, sampleDue_lt⟩

def sampleSaga : Saga := ⟨sampleDatabase, []⟩

/-- A borrowing, its loan and its confirmation; then the reservation arrives again. -/
def sagaRun : List (Interleaving.Action SagaRequest Saga Draws) :=
  [.start (.client (.circulation sampleBorrow))] ++ List.replicate 6 (.observe 0 sampleDraws) ++
    [.commit 0 true, .start (.deliver (.catalogBookReserved sampleReserved))] ++
    List.replicate 8 (.observe 1 secondDraws) ++
    [.commit 1 true, .start (.deliver (.loanCreated sampleCreated))] ++
    List.replicate 4 (.observe 2 thirdDraws) ++
    [.commit 2 true, .start (.deliver (.catalogBookReserved sampleReserved)),
      .observe 3 thirdDraws]

theorem sampleSaga_fresh : sampleSaga.Fresh where
  books row hrow := by
    have hall : sampleDatabase.books.rows.all
        (fun row => decide (row.state.status = .available)) = true := by decide +kernel
    exact of_decide_eq_true (List.all_eq_true.mp hall row hrow)
  loans := rfl
  emitted := rfl

theorem sagaRun_reaches :
    ∃ world : SagaWorld, BorrowSaga asciiRuntime Saga.Fresh world ∧ world.log.length = 3 ∧
      world.threads.length = 4 ∧
        ∃ book ∈ world.shared.database.books.rows, book.state.status = .borrowed ∧
          book.state.current_loan_id.isSome = true := by
  have hresult : (Interleaving.display (borrowSaga asciiRuntime) Saga.Fresh
      (fun saga request => request.isAdmissible saga)
        ⟨sampleSaga, [], [], {sampleSaga}⟩ sagaRun).any (fun world =>
          decide (world.log.length = 3) && decide (world.threads.length = 4) &&
            world.shared.database.books.rows.any fun row =>
              decide (row.state.status = .borrowed) && row.state.current_loan_id.isSome) =
        true := by
    decide +kernel
  obtain ⟨world, hrun, hfields⟩ := (Option.any_eq_true _ _).mp hresult
  simp only [Bool.and_eq_true, decide_eq_true_eq, List.any_eq_true] at hfields
  obtain ⟨⟨hlog, hthreads⟩, book, hbook, hstatus, hcurrent⟩ := hfields
  have hstart : BorrowSaga asciiRuntime Saga.Fresh ⟨sampleSaga, [], [], {sampleSaga}⟩ :=
    .start ⟨sampleSaga_fresh, rfl, rfl, rfl⟩
  exact ⟨world, Interleaving.reachable_display SagaRequest.isAdmissible_sound hstart hrun, hlog,
    hthreads, book, hbook, hstatus, hcurrent⟩

theorem borrow_never_contradicted_run :
    ∃ world : SagaWorld, world.log.length = 3 ∧ world.threads.length = 4 ∧
      ∃ book ∈ world.shared.database.books.rows, book.state.status = .borrowed ∧
        ∃ loan ∈ world.shared.database.loans.rows,
          book.BorrowedBy loan ∧ loan.status ≠ .cancelled := by
  obtain ⟨world, hreach, hlog, hthreads, book, hbook, hstatus, -⟩ := sagaRun_reaches
  exact ⟨world, hlog, hthreads, book, hbook, hstatus,
    (borrow_never_contradicted hreach).1 book hbook hstatus⟩

theorem definitive_borrow_stands_run :
    ∃ world : SagaWorld, world.log.length = 3 ∧
      ∃ book ∈ world.shared.database.books.rows, ∃ loan_id : Reference,
        book.state.status = .borrowed ∧ book.state.current_loan_id = some loan_id ∧
          ∃ loan, world.shared.database.loans.lookup loan_id.val = some loan ∧
            loan.status ≠ .cancelled := by
  obtain ⟨world, hreach, hlog, -, book, hbook, hstatus, hcurrent⟩ := sagaRun_reaches
  obtain ⟨loan_id, hcurrent⟩ := Option.isSome_iff_exists.mp hcurrent
  obtain ⟨loan, hloan, -, -, -, -, hongoing⟩ :=
    (definitive_borrow_stands hreach).1 book hbook loan_id hstatus hcurrent
  exact ⟨world, hlog, book, hbook, loan_id, hstatus, hcurrent, loan, hloan, hongoing⟩

end LibrarySystem
