import LibrarySystem.Application.OperationKeys
import LibrarySystem.Persistence.Alone

/-!
# Two spellings of one reservation id

A reservation id arrives as text in any letter case.  Lending reads it into a UUID
before anything else, and so do the methods of a book; the transition of the borrow
operation looks the text up as it is.  Two messages that differ in the spelling only
come to the same end exactly if neither gets as far as that lookup.
-/

namespace LibrarySystem

open Result

/-! ## Hexadecimal text in either case -/

namespace CodePoint

theorem isHyphen_asciiLower (c : CodePoint) : isHyphen c.asciiLower = isHyphen c := by
  unfold asciiLower
  split
  · rename_i hupper
    simp only [isUpper, Bool.and_eq_true, decide_eq_true_eq] at hupper
    rw [Bool.eq_iff_iff]
    simp only [isHyphen, beq_iff_eq]
    omega
  · rfl

theorem isHexDigit_asciiLower (c : CodePoint) :
    isHexDigit c.asciiLower = isHexDigit c := by
  unfold asciiLower
  split
  · rename_i hupper
    simp only [isUpper, Bool.and_eq_true, decide_eq_true_eq] at hupper
    rw [Bool.eq_iff_iff]
    simp only [isHexDigit, isDigit, Bool.or_eq_true, Bool.and_eq_true, decide_eq_true_eq]
    omega
  · rfl

theorem hexValue_asciiLower (c : CodePoint) :
    Json.hexValue c.asciiLower = Json.hexValue c := by
  unfold asciiLower
  split
  · rename_i hupper
    simp only [isUpper, Bool.and_eq_true, decide_eq_true_eq] at hupper
    unfold Json.hexValue
    dsimp only
    grind
  · rfl

end CodePoint

/-- Two spellings of one text, which differ in the case of ASCII letters only. -/
def PyStr.SameLetters (text other : PyStr) : Prop :=
  text.map CodePoint.asciiLower = other.map CodePoint.asciiLower

namespace PythonRuntime

/-- `uuid.UUID` reads hexadecimal digits in either case. -/
def IgnoresUuidCase (rt : PythonRuntime) : Prop :=
  ∀ text, matchesUuidPattern uuidShape text = true →
    rt.parseUuid (text.map CodePoint.asciiLower) = rt.parseUuid text

theorem IgnoresUuidCase.same {rt : PythonRuntime} (hignores : rt.IgnoresUuidCase)
    {text other : PyStr} (htext : matchesUuidPattern uuidShape text = true)
    (hother : matchesUuidPattern uuidShape other = true) (hsame : text.SameLetters other) :
    rt.parseUuid text = rt.parseUuid other := by
  rw [← hignores text htext, ← hignores other hother]
  exact congrArg rt.parseUuid hsame

end PythonRuntime

theorem hexNat_asciiLower (digits : PyStr) (start : ℕ) :
    hexNat (digits.map CodePoint.asciiLower) start = hexNat digits start := by
  unfold hexNat
  rw [List.foldl_map]
  simp only [CodePoint.hexValue_asciiLower]

theorem asciiRuntime_ignoresUuidCase : asciiRuntime.IgnoresUuidCase := by
  intro text _
  have hfilter : (text.map CodePoint.asciiLower).filter (fun c => !isHyphen c) =
      (text.filter fun c => !isHyphen c).map CodePoint.asciiLower := by
    rw [List.filter_map]
    simp only [Function.comp_def, CodePoint.isHyphen_asciiLower]
  change readUuid _ = readUuid _
  unfold readUuid
  simp only [hfilter, List.length_map, List.all_map, Function.comp_def,
    CodePoint.isHexDigit_asciiLower, hexNat_asciiLower]

/-! ## The messages of the workflow -/

/-- The commands that event handlers build from the events of the other context. -/
inductive WorkflowCommand
  | createLoan (command : CreateLoanCommand)
  | cancelLoan (command : CancelLoanCommand)
  | confirmBookBorrow (command : ConfirmBookBorrowCommand)
  | releaseBookReservation (command : ReleaseBookReservationCommand)
  | returnBook (command : ReturnBookCommand)

inductive WorkflowResult
  | loan (result : CreateLoanResult)
  | changed (value : Bool)
  | book (result : ReturnBookResult)
deriving DecidableEq

namespace WorkflowCommand

def reservationId : WorkflowCommand → PyStr
  | createLoan command => command.reservation_id
  | cancelLoan command => command.reservation_id
  | confirmBookBorrow command => command.reservation_id
  | releaseBookReservation command => command.reservation_id
  | returnBook command => command.reservation_id

/-- The same command, with its reservation id spelled as `text`. -/
def respelled (text : PyStr) : WorkflowCommand → WorkflowCommand
  | createLoan command => createLoan { command with reservation_id := text }
  | cancelLoan command => cancelLoan { command with reservation_id := text }
  | confirmBookBorrow command => confirmBookBorrow { command with reservation_id := text }
  | releaseBookReservation command =>
      releaseBookReservation { command with reservation_id := text }
  | returnBook command => returnBook { command with reservation_id := text }

def handle (rt : PythonRuntime) : WorkflowCommand → Command WorkflowResult
  | createLoan command => .loan <$> CreateLoanHandler.handle rt command
  | cancelLoan command => .changed <$> CancelLoanHandler.handle rt command
  | confirmBookBorrow command => .changed <$> ConfirmBookBorrowHandler.handle rt command
  | releaseBookReservation command =>
      .changed <$> ReleaseBookReservationHandler.handle rt command
  | returnBook command => .book <$> ReturnBookHandler.handle rt command

end WorkflowCommand

/-! ## Lending reads the id first -/

section Lending

variable {rt : PythonRuntime} {text : PyStr}

theorem CreateLoanHandler.replay_respelled (command : CreateLoanCommand) (loan : Loan)
    (reservation_id : PyStr) :
    replay { command with reservation_id := text } loan reservation_id =
      replay command loan reservation_id := by
  have hmismatches : mismatches { command with reservation_id := text } loan reservation_id =
      mismatches command loan reservation_id := by
    unfold mismatches
    rfl
  unfold replay
  rw [hmismatches]

theorem CreateLoanHandler.handle_respelled (command : CreateLoanCommand)
    (hparse : rt.parseUuid text = rt.parseUuid command.reservation_id) :
    handle rt { command with reservation_id := text } = handle rt command := by
  have hread : Loan.parseReservationId rt text =
      Loan.parseReservationId rt command.reservation_id :=
    parseReservationId_congr hparse
  have hcreate : ∀ reservation_id,
      createOrReplay rt { command with reservation_id := text } reservation_id =
        createOrReplay rt command reservation_id := by
    intro reservation_id
    unfold createOrReplay
    simp only [replay_respelled]
    rfl
  have hreconcile : ∀ reservation_id conflict,
      reconcileConcurrentInsert rt { command with reservation_id := text } reservation_id
          conflict =
        reconcileConcurrentInsert rt command reservation_id conflict := by
    intro reservation_id conflict
    unfold reconcileConcurrentInsert
    simp only [replay_respelled]
  unfold handle
  simp only [hread, hcreate, hreconcile]

theorem CancelLoanHandler.handle_respelled (command : CancelLoanCommand)
    (hparse : rt.parseUuid text = rt.parseUuid command.reservation_id) :
    handle rt { command with reservation_id := text } = handle rt command := by
  have hread : Loan.parseReservationId rt text =
      Loan.parseReservationId rt command.reservation_id :=
    parseReservationId_congr hparse
  unfold handle
  simp only [hread]
  rfl

end Lending

/-! ## A book reads the id first, too -/

section Book

variable {rt : PythonRuntime} {text other : PyStr}

theorem Book.requireMatchingReservation_congr (book : Book)
    (hparse : rt.parseUuid text = rt.parseUuid other) :
    requireMatchingReservation rt book text = requireMatchingReservation rt book other := by
  funext generation patron operation
  unfold requireMatchingReservation
  rw [parseReservationId, parseReservationId, parseReservationId_congr hparse]

theorem ConfirmBookBorrowHandler.transition_respelled (command : ConfirmBookBorrowCommand)
    (hparse : rt.parseUuid text = rt.parseUuid command.reservation_id) :
    transition rt { command with reservation_id := text } = transition rt command := by
  funext book
  unfold transition Book.confirmBorrow
  rw [Book.requireMatchingReservation_congr book hparse]

theorem ReleaseBookReservationHandler.transition_respelled
    (command : ReleaseBookReservationCommand)
    (hparse : rt.parseUuid text = rt.parseUuid command.reservation_id) :
    transition rt { command with reservation_id := text } = transition rt command := by
  funext book
  unfold transition Book.release
  rw [Book.requireMatchingReservation_congr book hparse]

theorem ReturnBookHandler.transition_respelled (command : ReturnBookCommand)
    (hparse : rt.parseUuid text = rt.parseUuid command.reservation_id) :
    transition rt { command with reservation_id := text } = transition rt command := by
  funext book
  unfold transition Book.returnBook
  rw [Book.parseReservationId, Book.parseReservationId, parseReservationId_congr hparse]

end Book

/-! ## A message to a book, on its own -/

namespace BookMessage

section Alone

variable {Result : Type} {rt : PythonRuntime} {draws : ℕ → Draws} {db : Database}
  {book_id : PyStr}
  {transition : Book → Except Raised (Book × Bool × List AggregateEvent)}
  {change : UtcDateTime → OperationTransition} {result : Book → Bool → Result}

/-- What the message does unless the book accepts it. -/
def declined (db : Database) (book_id : PyStr)
    (transition : Book → Except Raised (Book × Bool × List AggregateEvent))
    (result : Book → Bool → Result) : Except AppException Result :=
  match db.books.lookup book_id with
  | none => .error (.bookNotFound book_id)
  | some row =>
      match row.toEntity with
      | .error error => .error (.raised error)
      | .ok book =>
          match transition book with
          | .error error => .error (.raised error)
          | .ok outcome => .ok (result outcome.1 outcome.2.1)

/-- The book with the id takes the transition and is another one after it. -/
structure Accepts (db : Database) (book_id : PyStr)
    (transition : Book → Except Raised (Book × Bool × List AggregateEvent))
    (row : BookRow) (after : Book) : Prop where
  found : db.books.lookup book_id = some row
  changed : ∃ book events, row.toEntity = .ok book ∧
    transition book = .ok (after, true, events)

theorem runAlone_declined
    (hdeclined : ∀ row after, ¬ Accepts db book_id transition row after) :
    db.runAlone draws (handle rt book_id transition change result) =
      (declined db book_id transition result, db) := by
  unfold handle declined
  rw [Uow.runAlone_transaction]
  cases hrow : db.books.lookup book_id with
  | none =>
      rw [Uow.alone_getById_none rfl hrow]
      rfl
  | some row =>
      cases hbook : row.toEntity with
      | error error =>
          rw [Uow.alone_getById_error rfl hrow hbook]
          simp only [hbook]
      | ok book =>
          rw [Uow.alone_getById_some rfl hrow hbook]
          cases htransition : transition book with
          | error error =>
              dsimp only
              rw [Uow.alone_ofExcept_error htransition]
              simp only [hbook, htransition]
          | ok outcome =>
              obtain ⟨after, changed, events⟩ := outcome
              dsimp only
              rw [Uow.alone_ofExcept_ok htransition, Uow.alone_mutate]
              cases changed with
              | true => exact absurd ⟨hrow, book, events, hbook, htransition⟩ (hdeclined row after)
              | false =>
                  simp only [hbook, htransition]
                  rfl

/-- The error of a refused transaction; the catalog has none of its own for a
constraint. -/
def refused : Refusal → AppException := Uow.translate (A := Book) {}

/-- The end of a transaction with these statements. -/
def concluded (db : Database) (statements : List Statement) (value : Result) :
    Except AppException Result × Database :=
  match db.runAll statements with
  | .ok after => (.ok value, after)
  | .error refusal => (.error (refused refusal), db)

theorem translate_eq_refused {session : UnitOfWork Book} (hpending : session.pending = [])
    (refusal : Refusal) : Uow.translate session refusal = refused refusal := by
  unfold refused Uow.translate
  cases refusal with
  | integrity constraint => cases constraint <;> simp [hpending] <;> rfl
  | _ => rfl

theorem committed_eq_concluded {draw : Draws} {session : UnitOfWork Book} {value : Result}
    {rows : List OutboxRow} (hstaged : Uow.stageDomainEvents rt draw session = .ok rows)
    (hpending : session.pending = []) :
    Uow.committed rt draw session value db =
      concluded db (session.statements ++ rows.map .insertOutbox) value := by
  unfold Uow.committed concluded
  rw [hstaged]
  dsimp only
  cases hrun : db.runAll (session.statements ++ rows.map .insertOutbox) with
  | ok after => rfl
  | error refusal => simp only [translate_eq_refused hpending]

/-- What is left when the book has accepted the message. -/
theorem runAlone_accepted (draws : ℕ → Draws) (result : Book → Bool → Result)
    {row : BookRow} {after : Book} (haccepts : Accepts db book_id transition row after)
    (hpublished : ∀ book outcome, transition book = .ok outcome →
      ∀ event ∈ outcome.2.2, event.Published rt) :
    ∃ rows : List OutboxRow, ∀ change, (∀ now, (change now).status.sources ≠ []) →
      db.runAlone draws (handle rt book_id transition change result) =
        concluded db
          ([.updateAggregate row.version (.book after),
            .transitionOperation (change (draws 2).now)] ++ rows.map .insertOutbox)
          (result after true) := by
  obtain ⟨hrow, book, events, hbook, htransition⟩ := haccepts
  obtain ⟨rows, hrows⟩ : ∃ rows, Transition.rows rt (draws 3).order
      ⟨.book after, Uow.stamp (draws 1) events⟩ = .ok rows := by
    apply mapM_ok
    intro event hevent
    obtain ⟨i, hi, rfl⟩ := List.mem_mapIdx.mp hevent
    obtain ⟨text, htext⟩ := hpublished book _ htransition _ (List.getElem_mem hi)
      (draws 3).order ((draws 1).metadata i)
    unfold Uow.outboxRow
    rw [htext]
    exact ⟨_, rfl⟩
  refine ⟨rows, fun change htarget => ?_⟩
  unfold handle
  rw [Uow.runAlone_transaction, Uow.alone_getById_some rfl hrow hbook]
  dsimp only
  rw [Uow.alone_ofExcept_ok htransition, Uow.alone_mutate]
  unfold Uow.update
  simp only [Bool.not_true, Bool.false_eq_true, if_false]
  rw [Uow.alone_modify, Uow.alone_now, Uow.alone_transition (htarget _), Uow.alone_commit]
  have hshows := UnitOfWork.shows_updated book after row.version (draws 1) events
  exact committed_eq_concluded (hshows.issue_one.staged_one hrows) rfl

end Alone

/-- The book accepts the message, its row is updated, and so the transition of the
operation is sent. -/
structure Reaches (db : Database) (book_id : PyStr)
    (transition : Book → Except Raised (Book × Bool × List AggregateEvent))
    (change : OperationTransition) (row : BookRow) (after : Book) : Prop where
  accepts : Accepts db book_id transition row after
  updates : ∃ stored, db.run (.updateAggregate row.version (.book after)) = .ok stored
  sendable : (Statement.transitionOperation change).texts.all storable = true

end BookMessage

/-! ## The lookup of the operation -/

namespace Database

variable {db after : Database}

/-- Only a transition reports a missing operation, and it reports its own. -/
theorem run_operationMissing {statement : Statement} {id : PyStr}
    (hrun : db.run statement = .error (.operationMissing id)) :
    ∃ change, statement = .transitionOperation change ∧ change.operation_id = id := by
  unfold run at hrun
  split at hrun
  · cases statement with
    | insertAggregate aggregate =>
        cases aggregate <;>
          simp only [perform, insertAggregate, storeBook, storeLoan, storePatron] at hrun <;>
          grind
    | updateAggregate version aggregate =>
        cases aggregate <;>
          simp only [perform, updateAggregate, storeBook, storeLoan, storePatron] at hrun <;>
          grind
    | insertOperation operation_id operation =>
        rcases Result.bind_eq_error.mp hrun with hstore | ⟨stored, hstore, hrun⟩
        · simp only [storeOperation] at hstore
          grind
        · split_ifs at hrun
          cases hrun
    | transitionOperation change =>
        refine ⟨change, rfl, ?_⟩
        simp only [perform, transitionOperation, storeOperation] at hrun
        grind
    | insertReceipt scope key receipt =>
        simp only [perform, insertReceipt] at hrun
        grind
    | insertOutbox row =>
        simp only [perform, insertOutbox] at hrun
        grind
  · cases hrun

theorem runAll_error {statements : List Statement} {refusal : Refusal}
    (hrun : db.runAll statements = .error refusal) :
    ∃ statement ∈ statements, ∃ reached : Database, reached.run statement = .error refusal := by
  induction statements generalizing db with
  | nil => cases hrun
  | cons statement rest ih =>
      rcases bind_eq_error.mp hrun with hfirst | ⟨reached, -, hrest⟩
      · exact ⟨statement, List.mem_cons_self, db, hfirst⟩
      · obtain ⟨other, hother, found⟩ := ih hrest
        exact ⟨other, List.mem_cons_of_mem statement hother, found⟩

theorem run_transitionOperation_missing {change : OperationTransition}
    (hsendable : (Statement.transitionOperation change).texts.all storable = true)
    (hmissing : db.borrow_operations.lookup change.operation_id = none) :
    db.run (.transitionOperation change) = .error (.operationMissing change.operation_id) := by
  unfold run
  rw [if_pos hsendable]
  simp only [perform, transitionOperation, hmissing]

theorem run_update_operations {expected : ℕ} {aggregate : Aggregate}
    (hrun : db.run (.updateAggregate expected aggregate) = .ok after) :
    after.borrow_operations = db.borrow_operations := by
  cases run_effect hrun <;> rfl

end Database

namespace BookMessage

section Respelled

variable {Result : Type} {rt : PythonRuntime} {draws : ℕ → Draws} {db : Database}
  {book_id : PyStr}
  {transition : Book → Except Raised (Book × Bool × List AggregateEvent)}
  {result : Book → Bool → Result} {update : Statement} {rows : List OutboxRow}
  {value : Result} {change : OperationTransition}

theorem refused_borrowOperationNotFound {refusal : Refusal} {id : PyStr}
    (hrefused : refused refusal = .borrowOperationNotFound id) :
    refusal = .operationMissing id := by
  unfold refused Uow.translate at hrefused
  cases refusal with
  | operationMissing other =>
      simp only [AppException.borrowOperationNotFound.injEq] at hrefused
      rw [hrefused]
  | integrity constraint => cases constraint <;> cases hrefused
  | _ => cases hrefused

theorem concluded_refused {rest : List Statement} {refusal : Refusal}
    (hrun : db.run update = .error refusal) :
    concluded db (update :: rest) value = (.error (refused refusal), db) := by
  unfold concluded Database.runAll
  rw [hrun]
  rfl

theorem concluded_second {second : Statement} {rest : List Statement} {stored : Database}
    {refusal : Refusal} (hrun : db.run update = .ok stored)
    (hsecond : stored.run second = .error refusal) :
    concluded db (update :: second :: rest) value = (.error (refused refusal), db) := by
  unfold concluded Database.runAll Database.runAll
  rw [hrun, ok_bind, hsecond]
  rfl

/-- A transition that gets as far as the lookup does not find an id that is no key. -/
theorem concluded_missing {rest : List Statement} {stored : Database} {expected : ℕ}
    {aggregate : Aggregate}
    (hrun : db.run (.updateAggregate expected aggregate) = .ok stored)
    (hsendable : (Statement.transitionOperation change).texts.all storable = true)
    (hmissing : db.borrow_operations.lookup change.operation_id = none) :
    concluded db (.updateAggregate expected aggregate :: .transitionOperation change :: rest)
        value =
      (.error (.borrowOperationNotFound change.operation_id), db) := by
  rw [← Database.run_update_operations hrun] at hmissing
  exact concluded_second hrun (Database.run_transitionOperation_missing hsendable hmissing)

/-- No other id is reported as missing. -/
theorem concluded_borrowOperationNotFound {aggregate : Aggregate} {expected : ℕ} {id : PyStr}
    (hconcluded : (concluded db
      ([.updateAggregate expected aggregate, .transitionOperation change] ++
        rows.map .insertOutbox) value).1 = .error (.borrowOperationNotFound id)) :
    id = change.operation_id := by
  unfold concluded at hconcluded
  cases hrun : db.runAll ([.updateAggregate expected aggregate,
      .transitionOperation change] ++ rows.map .insertOutbox) with
  | ok after =>
      rw [hrun] at hconcluded
      cases hconcluded
  | error refusal =>
      rw [hrun] at hconcluded
      simp only [Except.error.injEq] at hconcluded
      have hmissing := refused_borrowOperationNotFound hconcluded
      subst hmissing
      obtain ⟨statement, hmem, reached, hstatement⟩ := Database.runAll_error hrun
      obtain ⟨sent, rfl, hid⟩ := Database.run_operationMissing hstatement
      rw [← hid]
      simp only [List.cons_append, List.nil_append, List.mem_cons, reduceCtorEq, false_or,
        List.mem_map, and_false, exists_false, or_false,
        Statement.transitionOperation.injEq] at hmem
      rw [hmem]

theorem Accepts.unique {row other : BookRow} {after last : Book}
    (haccepts : Accepts db book_id transition row after)
    (hother : Accepts db book_id transition other last) : other = row ∧ last = after := by
  obtain ⟨hrow, book, events, hbook, htransition⟩ := haccepts
  obtain ⟨hrow', book', events', hbook', htransition'⟩ := hother
  obtain rfl : row = other := Option.some.inj (hrow.symm.trans hrow')
  obtain rfl : book = book' := Except.ok.inj (hbook.symm.trans hbook')
  have hsame := Except.ok.inj (htransition.symm.trans htransition')
  simp only [Prod.mk.injEq, true_and] at hsame
  exact ⟨rfl, hsame.1.symm⟩

/-- The change with its operation id spelled as `text`. -/
def respelledChange (text : PyStr) (change : UtcDateTime → OperationTransition) :
    UtcDateTime → OperationTransition :=
  fun now => { change now with operation_id := text }

theorem sendable_respelled {text : PyStr} (htext : storable text = true)
    (hid : storable change.operation_id = true) :
    (Statement.transitionOperation { change with operation_id := text }).texts.all storable =
      (Statement.transitionOperation change).texts.all storable := by
  simp [Statement.texts, htext, hid]

/-- Two spellings come to the same end unless both get as far as the lookup. -/
theorem runAlone_respelled_iff {text : PyStr} {change : UtcDateTime → OperationTransition}
    (htarget : ∀ now, (change now).status.sources ≠ [])
    (hpublished : ∀ book outcome, transition book = .ok outcome →
      ∀ event ∈ outcome.2.2, event.Published rt)
    (htext : storable text = true) (hid : ∀ now, storable (change now).operation_id = true)
    (hsame : ∀ now, text.SameLetters (change now).operation_id)
    (hkeys : db.LowerCaseOperations) :
    db.runAlone draws (handle rt book_id transition (respelledChange text change) result) =
        db.runAlone draws (handle rt book_id transition change result) ↔
      text = (change (draws 2).now).operation_id ∨
        ∀ row after, ¬ Reaches db book_id transition (change (draws 2).now) row after := by
  by_cases haccepts : ∃ row after, Accepts db book_id transition row after
  · obtain ⟨row, after, haccepts⟩ := haccepts
    obtain ⟨rows, hrows⟩ := runAlone_accepted draws result haccepts hpublished
    rw [hrows _ htarget, hrows (respelledChange text change) htarget]
    have hsendable := sendable_respelled htext (hid (draws 2).now)
    constructor
    · intro hequal
      by_cases hother : text = (change (draws 2).now).operation_id
      · exact Or.inl hother
      right
      intro row' after' hreaches
      obtain ⟨rfl, rfl⟩ := haccepts.unique hreaches.accepts
      obtain ⟨stored, hstored⟩ := hreaches.updates
      by_cases hkey : db.borrow_operations.lookup text = none
      · -- the new spelling is not found, and the other end does not speak of it
        have hend := congrArg Prod.fst (hequal.symm.trans
          (concluded_missing hstored (hsendable.trans hreaches.sendable) hkey))
        exact hother (concluded_borrowOperationNotFound hend)
      · by_cases hold : db.borrow_operations.lookup (change (draws 2).now).operation_id = none
        · have hend := congrArg Prod.fst (hequal.trans
            (concluded_missing hstored hreaches.sendable hold))
          exact hother (concluded_borrowOperationNotFound hend).symm
        · -- two keys with the same letters are in lower case, hence one text
          have hfirst := hkeys _ (Option.isSome_iff_ne_none.mpr hkey)
          have hsecond := hkeys _ (Option.isSome_iff_ne_none.mpr hold)
          exact hother (hfirst.symm.trans ((hsame _).trans hsecond))
    · rintro (hequal | hnone)
      · have hchange : respelledChange text change (draws 2).now = change (draws 2).now := by
          unfold respelledChange
          rw [hequal]
        rw [hchange]
      · cases hupdate : db.run (.updateAggregate row.version (.book after)) with
        | error refusal => exact (concluded_refused hupdate).trans (concluded_refused hupdate).symm
        | ok stored =>
            have hunsendable : ¬ (Statement.transitionOperation
                (change (draws 2).now)).texts.all storable = true :=
              fun hsend => hnone row after ⟨haccepts, ⟨stored, hupdate⟩, hsend⟩
            have hrefused : stored.run (.transitionOperation (change (draws 2).now)) =
                .error .unencodable := if_neg hunsendable
            have hrefused' : stored.run (.transitionOperation
                (respelledChange text change (draws 2).now)) = .error .unencodable :=
              if_neg (by rw [← hsendable] at hunsendable; exact hunsendable)
            exact (concluded_second hupdate hrefused').trans
              (concluded_second hupdate hrefused).symm
  · have hdeclined : ∀ row after, ¬ Accepts db book_id transition row after :=
      fun row after hrow => haccepts ⟨row, after, hrow⟩
    rw [runAlone_declined hdeclined, runAlone_declined hdeclined]
    exact iff_of_true rfl (Or.inr fun row after hreaches =>
      hdeclined row after hreaches.accepts)

/-- A spelling that is no key is reported as missing, and nothing is changed. -/
theorem runAlone_missing {change : UtcDateTime → OperationTransition}
    (htarget : ∀ now, (change now).status.sources ≠ [])
    (hpublished : ∀ book outcome, transition book = .ok outcome →
      ∀ event ∈ outcome.2.2, event.Published rt)
    (hkeys : db.LowerCaseOperations)
    (hreaches : ∃ row after, Reaches db book_id transition (change (draws 2).now) row after)
    (hspelling : (change (draws 2).now).operation_id.map CodePoint.asciiLower ≠
      (change (draws 2).now).operation_id) :
    db.runAlone draws (handle rt book_id transition change result) =
      (.error (.borrowOperationNotFound (change (draws 2).now).operation_id), db) := by
  obtain ⟨row, after, haccepts, ⟨stored, hstored⟩, hsendable⟩ := hreaches
  obtain ⟨rows, hrows⟩ := runAlone_accepted draws result haccepts hpublished
  have hmissing : db.borrow_operations.lookup (change (draws 2).now).operation_id = none := by
    by_contra hkey
    exact hspelling (hkeys _ (Option.isSome_iff_ne_none.mpr hkey))
  rw [hrows change htarget]
  exact concluded_missing hstored hsendable hmissing

end Respelled

end BookMessage

/-! ## The five handlers -/

namespace WorkflowCommand

/-- The command moves a book on, and with it the operation of its reservation. -/
def MovesOperation (rt : PythonRuntime) (db : Database) (now : UtcDateTime) :
    WorkflowCommand → Prop
  | createLoan _ | cancelLoan _ => False
  | confirmBookBorrow command =>
      ∃ row after, BookMessage.Reaches db command.book_id
        (ConfirmBookBorrowHandler.transition rt command)
        (ConfirmBookBorrowHandler.change command now) row after
  | releaseBookReservation command =>
      ∃ row after, BookMessage.Reaches db command.book_id
        (ReleaseBookReservationHandler.transition rt command)
        (ReleaseBookReservationHandler.change command now) row after
  | returnBook command =>
      ∃ row after, BookMessage.Reaches db command.book_id
        (ReturnBookHandler.transition rt command)
        (ReturnBookHandler.change command now) row after

end WorkflowCommand

theorem Except.map_injective {ε α β : Type} {f : α → β} (hf : Function.Injective f)
    {x y : Except ε α} (hequal : x.map f = y.map f) : x = y := by
  cases x with
  | error error =>
      cases y with
      | error other => rw [Except.error.inj hequal]
      | ok value => cases hequal
  | ok value =>
      cases y with
      | error other => cases hequal
      | ok other => rw [hf (Except.ok.inj hequal)]

theorem Database.runAlone_map_eq_iff {α β : Type} {db : Database} {draws : ℕ → Draws}
    {command other : Command α} {f : α → β} (hf : Function.Injective f) :
    db.runAlone draws (f <$> command) = db.runAlone draws (f <$> other) ↔
      db.runAlone draws command = db.runAlone draws other := by
  rw [runAlone_map, runAlone_map, Prod.mk.injEq, Prod.ext_iff]
  exact ⟨fun hequal => ⟨Except.map_injective hf hequal.1, hequal.2⟩,
    fun hequal => ⟨congrArg _ hequal.1, hequal.2⟩⟩

theorem WorkflowResult.changed_injective : Function.Injective WorkflowResult.changed :=
  fun _ _ hequal => WorkflowResult.changed.inj hequal

theorem WorkflowResult.book_injective : Function.Injective WorkflowResult.book :=
  fun _ _ hequal => WorkflowResult.book.inj hequal

/-- Both parts of the result for a message to a book. -/
theorem BookMessage.respelled {Result : Type} (rt : PythonRuntime) (draws : ℕ → Draws)
    {db : Database} (book_id : PyStr)
    (transition : Book → Except Raised (Book × Bool × List AggregateEvent))
    (change : UtcDateTime → OperationTransition) (result : Book → Bool → Result)
    {wrap : Result → WorkflowResult} (hwrap : Function.Injective wrap) {text id : PyStr}
    (hid : ∀ now, (change now).operation_id = id)
    (htarget : ∀ now, (change now).status.sources ≠ [])
    (hpublished : ∀ book outcome, transition book = .ok outcome →
      ∀ event ∈ outcome.2.2, event.Published rt)
    (hwire : matchesUuidPattern uuidShape id = true)
    (htext : matchesUuidPattern uuidShape text = true) (hsame : text.SameLetters id)
    (hkeys : db.LowerCaseOperations) :
    (db.runAlone draws
        (wrap <$> handle rt book_id transition (respelledChange text change) result) =
      db.runAlone draws (wrap <$> handle rt book_id transition change result) ↔
        text = id ∨
          ¬ ∃ row after, Reaches db book_id transition (change (draws 2).now) row after) ∧
    ((∃ row after, Reaches db book_id transition (change (draws 2).now) row after) →
      id.map CodePoint.asciiLower ≠ id →
      db.runAlone draws (wrap <$> handle rt book_id transition change result) =
        (.error (.borrowOperationNotFound id), db)) := by
  have hown := hid (draws 2).now
  constructor
  · rw [Database.runAlone_map_eq_iff hwrap, runAlone_respelled_iff htarget hpublished
      (storable_of_matchesUuidPattern htext)
      (fun now => (hid now).symm ▸ storable_of_matchesUuidPattern hwire)
      (fun now => (hid now).symm ▸ hsame) hkeys, hown]
    simp only [not_exists]
  · intro hreaches hspelling
    rw [Database.runAlone_map, runAlone_missing htarget hpublished hkeys hreaches
      (hown.symm ▸ hspelling), hown]
    rfl

/-- Two spellings of a reservation id come to the same end and the same state exactly
if they are one, or the command does not get as far as the borrow operation.  One that
does, with an id that is not in lower case, fails and changes nothing. -/
theorem respelled_iff (rt : PythonRuntime) (hignores : rt.IgnoresUuidCase) (db : Database)
    (hcommitted : CommittedState rt db) (draws : ℕ → Draws) (command : WorkflowCommand)
    (text : PyStr)
    (hwire : matchesUuidPattern uuidShape command.reservationId = true)
    (htext : matchesUuidPattern uuidShape text = true)
    (hsame : text.SameLetters command.reservationId) :
    (db.runAlone draws ((command.respelled text).handle rt) =
        db.runAlone draws (command.handle rt) ↔
      text = command.reservationId ∨ ¬ command.MovesOperation rt db (draws 2).now) ∧
    (command.MovesOperation rt db (draws 2).now →
      command.reservationId.map CodePoint.asciiLower ≠ command.reservationId →
      db.runAlone draws (command.handle rt) =
        (.error (.borrowOperationNotFound command.reservationId), db)) := by
  have hparse := hignores.same htext hwire hsame
  have hkeys := hcommitted.lowerCase
  cases command with
  | createLoan command =>
      refine ⟨iff_of_true ?_ (Or.inr not_false), fun hmoves => hmoves.elim⟩
      simp only [WorkflowCommand.handle, WorkflowCommand.respelled,
        CreateLoanHandler.handle_respelled command hparse]
  | cancelLoan command =>
      refine ⟨iff_of_true ?_ (Or.inr not_false), fun hmoves => hmoves.elim⟩
      simp only [WorkflowCommand.handle, WorkflowCommand.respelled,
        CancelLoanHandler.handle_respelled command hparse]
  | confirmBookBorrow command =>
      have hrun := BookMessage.respelled rt draws command.book_id
        (ConfirmBookBorrowHandler.transition rt command)
        (ConfirmBookBorrowHandler.change command) (fun _ changed => changed)
        WorkflowResult.changed_injective (fun _ => rfl) (fun _ => List.cons_ne_nil _ _)
        (fun _ _ hconfirm event hevent => (Book.confirmBorrow_sound hconfirm event hevent).1)
        hwire htext hsame hkeys
      simp only [WorkflowCommand.handle, WorkflowCommand.respelled,
        ConfirmBookBorrowHandler.handle,
        ConfirmBookBorrowHandler.transition_respelled command hparse]
      exact hrun
  | releaseBookReservation command =>
      have hrun := BookMessage.respelled rt draws command.book_id
        (ReleaseBookReservationHandler.transition rt command)
        (ReleaseBookReservationHandler.change command) (fun _ changed => changed)
        WorkflowResult.changed_injective (fun _ => rfl) (fun _ => List.cons_ne_nil _ _)
        (fun _ _ hrelease event hevent => (Book.release_sound hrelease event hevent).1)
        hwire htext hsame hkeys
      simp only [WorkflowCommand.handle, WorkflowCommand.respelled,
        ReleaseBookReservationHandler.handle,
        ReleaseBookReservationHandler.transition_respelled command hparse]
      exact hrun
  | returnBook command =>
      have hrun := BookMessage.respelled rt draws command.book_id
        (ReturnBookHandler.transition rt command) (ReturnBookHandler.change command)
        (fun book _ => ReturnBookHandler.result book)
        WorkflowResult.book_injective (fun _ => rfl) (fun _ => List.cons_ne_nil _ _)
        (fun _ _ hreturn event hevent => (Book.returnBook_sound hreturn event hevent).1)
        hwire htext hsame hkeys
      simp only [WorkflowCommand.handle, WorkflowCommand.respelled,
        ReturnBookHandler.handle,
        ReturnBookHandler.transition_respelled command hparse]
      exact hrun

/-! ## A reservation whose id has letters -/

def letteredDraws : Draws := { sampleDraws with uuid := 0xAB }

def letteredAnswers : List (Run.Answer Observation Refusal) :=
  List.replicate 6 (.seen ⟨sampleDatabase, letteredDraws⟩) ++ [.settled none]

def letteredOutcome : Except Refusal Database :=
  sampleDatabase.commitAll ((sampleBorrow.handle asciiRuntime).exec letteredAnswers).1

def letteredDatabase : Database := letteredOutcome.toOption.getD sampleDatabase

theorem letteredDatabase_committed : CommittedState asciiRuntime letteredDatabase := by
  have hsome : letteredOutcome.toOption.isSome = true := by decide +kernel
  obtain ⟨after, hafter⟩ := ok_of_isSome hsome
  have hdatabase : letteredDatabase = after := by
    unfold letteredDatabase
    rw [hafter]
    rfl
  rw [hdatabase]
  exact .command (.initial rfl) sampleBorrow letteredAnswers hafter

def confirmationDraws : Draws :=
  { sampleDraws with
    metadata := fun _ =>
      { sampleMetadata with event_id := ⟨py "event-of-confirmation", by decide⟩ } }

def sampleConfirmation : WorkflowCommand :=
  .confirmBookBorrow
    { book_id := uuidText 1
      reservation_id := py "00000000-0000-0000-0000-0000000000AB"
      reservation_generation := 1
      patron_id := uuidText 2
      loan_id := py "loan-1"
      borrowed_at := .ofUtc (Fin.ofNat wallSpan 2)
      return_due_date := .ofUtc (Fin.ofNat wallSpan 3) }

def confirmed (command : WorkflowCommand) : Bool :=
  (letteredDatabase.runAlone (fun _ => confirmationDraws)
    (command.handle asciiRuntime)).1.toOption.isSome

theorem confirmed_lower : confirmed (sampleConfirmation.respelled (uuidText 0xAB)) = true := by
  decide +kernel

theorem confirmed_upper : confirmed sampleConfirmation = false := by
  decide +kernel

/-- The reservation id in capitals is refused where the canonical one is accepted. -/
theorem respelled_differs :
    CommittedState asciiRuntime letteredDatabase ∧
      matchesUuidPattern uuidShape sampleConfirmation.reservationId = true ∧
      matchesUuidPattern uuidShape (uuidText 0xAB) = true ∧
      (uuidText 0xAB).SameLetters sampleConfirmation.reservationId ∧
      letteredDatabase.runAlone (fun _ => confirmationDraws)
          ((sampleConfirmation.respelled (uuidText 0xAB)).handle asciiRuntime) ≠
        letteredDatabase.runAlone (fun _ => confirmationDraws)
          (sampleConfirmation.handle asciiRuntime) := by
  refine ⟨letteredDatabase_committed, by decide, by decide, ?_, fun hequal => ?_⟩
  · unfold PyStr.SameLetters
    decide
  · have hconfirmed : confirmed (sampleConfirmation.respelled (uuidText 0xAB)) =
        confirmed sampleConfirmation := by
      unfold confirmed
      rw [hequal]
    rw [confirmed_lower, confirmed_upper] at hconfirmed
    cases hconfirmed

theorem respelled_iff_capitals :
    sampleConfirmation.MovesOperation asciiRuntime letteredDatabase confirmationDraws.now ∧
      letteredDatabase.runAlone (fun _ => confirmationDraws)
          (sampleConfirmation.handle asciiRuntime) =
        (.error (.borrowOperationNotFound sampleConfirmation.reservationId),
          letteredDatabase) := by
  obtain ⟨hiff, hmissing⟩ := respelled_iff asciiRuntime asciiRuntime_ignoresUuidCase
    letteredDatabase letteredDatabase_committed (fun _ => confirmationDraws)
    sampleConfirmation (uuidText 0xAB) (by decide) (by decide)
    (by unfold PyStr.SameLetters; decide)
  have hmoves : sampleConfirmation.MovesOperation asciiRuntime letteredDatabase
      confirmationDraws.now := by
    by_contra hnot
    have hequal := hiff.mpr (Or.inr hnot)
    have hconfirmed : confirmed (sampleConfirmation.respelled (uuidText 0xAB)) =
        confirmed sampleConfirmation := by
      unfold confirmed
      rw [hequal]
    rw [confirmed_lower, confirmed_upper] at hconfirmed
    cases hconfirmed
  exact ⟨hmoves, hmissing hmoves (by decide)⟩

end LibrarySystem
