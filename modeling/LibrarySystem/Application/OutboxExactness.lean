import LibrarySystem.Application.LendingEffects
import LibrarySystem.Events.RoundTrip
import LibrarySystem.Persistence.Effects

/-!
# The transactional outbox

Every run of a command handler of the catalog and of lending, cut off or refused at any
point, leaves in the outbox the events of the transitions whose new state it committed,
and nothing else.
-/

namespace LibrarySystem

/-- The commands of the two contexts that borrow, move and end a borrowing. -/
inductive CirculationCommand
  | borrowBook (command : BorrowBookCommand)
  | confirmBookBorrow (command : ConfirmBookBorrowCommand)
  | releaseBookReservation (command : ReleaseBookReservationCommand)
  | releaseExpiredReservations (command : ReleaseExpiredReservationsCommand)
  | returnBook (command : ReturnBookCommand)
  | createLoan (command : CreateLoanCommand)
  | extendLoan (command : ExtendLoanCommand)
  | returnLoan (command : ReturnLoanCommand)
  | cancelLoan (command : CancelLoanCommand)

namespace CirculationCommand

def Result : CirculationCommand → Type
  | borrowBook _ => BorrowBookResult
  | confirmBookBorrow _ | releaseBookReservation _ | cancelLoan _ => Bool
  | releaseExpiredReservations _ => ReleaseExpiredReservationsResult
  | returnBook _ => ReturnBookResult
  | createLoan _ => CreateLoanResult
  | extendLoan _ => ExtendLoanResult
  | returnLoan _ => ReturnLoanResult

def handle (rt : PythonRuntime) : (command : CirculationCommand) → Command command.Result
  | borrowBook command => BorrowBookHandler.handle rt command
  | confirmBookBorrow command => ConfirmBookBorrowHandler.handle rt command
  | releaseBookReservation command => ReleaseBookReservationHandler.handle rt command
  | releaseExpiredReservations command =>
      ReleaseExpiredReservationsHandler.handle rt command
  | returnBook command => ReturnBookHandler.handle rt command
  | createLoan command => CreateLoanHandler.handle rt command
  | extendLoan command => ExtendLoanHandler.handle rt command
  | returnLoan command => ReturnLoanHandler.handle rt command
  | cancelLoan command => CancelLoanHandler.handle rt command

/-- The answers that say that nothing was changed; returns answer alike in both
cases. -/
def unchanged : (command : CirculationCommand) → command.Result → Bool
  | confirmBookBorrow _, changed | releaseBookReservation _, changed
  | cancelLoan _, changed => !changed
  | releaseExpiredReservations _, result => result.released_count = 0
  | _, _ => false

end CirculationCommand

/-- The batches of a run, one after the other. -/
def Database.commitAll (db : Database) : List Batch → Except Refusal Database
  | [] => .ok db
  | batch :: rest => do
      let after ← db.runAll batch.statements
      after.commitAll rest

/-- Of the transitions of a transaction, the published ones are those whose new state
was stored; the outbox has grown by their events, those of one aggregate in the order
in which they were raised, and the other transitions raised none. -/
structure ExactOutbox (rt : PythonRuntime) (transitions published : List Transition)
    (db after : Database) : Prop where
  recorded : published.Sublist transitions
  once : (published.map fun transition => transition.after.idText).Nodup
  books : WroteOnly Book db after (published.map Transition.after)
  loans : WroteOnly Loan db after (published.map Transition.after)
  patrons : WroteOnly Patron db after (published.map Transition.after)
  outbox : ∃ (order : MetadataOrder) (arranged : List Transition)
    (rows : List (List OutboxRow)), arranged.Perm published ∧
      arranged.mapM (Transition.rows rt order) = .ok rows ∧
      after.outbox = db.outbox ++ rows.flatten
  silent : ∀ transition ∈ transitions, transition ∈ published ∨ transition.events = []

/-- The write of the piece is the only one of an aggregate, and none is of the outbox. -/
structure Piece.Plain (piece : Piece) : Prop where
  target : piece.write.target = some piece.after
  others : ∀ statement ∈ piece.others, statement.target = none
  outbox : ∀ statement ∈ piece.statements, statement.outboxRow = none

theorem Piece.updated_plain {version : ℕ} {after : Aggregate} {draws : Draws}
    {events : List AggregateEvent} {others : List Statement}
    (hothers : ∀ statement ∈ others, statement.target = none ∧ statement.outboxRow = none) :
    (Piece.updated version after draws events others).Plain where
  target := rfl
  others statement hmem := (hothers statement hmem).1
  outbox statement hmem := by
    rcases List.mem_cons.mp hmem with rfl | hmem
    · rfl
    · exact (hothers statement hmem).2

theorem Piece.inserted_plain {after : Aggregate} {draws : Draws}
    {events : List AggregateEvent} : (Piece.inserted after draws events []).Plain where
  target := rfl
  others _ hmem := by cases hmem
  outbox statement hmem := by
    rw [List.mem_singleton.mp hmem]
    rfl

theorem receiptOf_plain {Result : Type} [Receipted Result] {rt : PythonRuntime}
    {scope : PyStr} {key : Option IdempotencyKey} {request_hash : PyStr} {result : Result} :
    ∀ statement ∈ receiptOf rt scope key request_hash result,
      statement.target = none ∧ statement.outboxRow = none := by
  intro statement hmem
  cases key with
  | none => cases hmem
  | some given =>
      rw [List.mem_singleton.mp hmem]
      exact ⟨rfl, rfl⟩

/-- A batch that stores its transitions, or one that leaves only a receipt. -/
inductive Batch.Exact (rt : PythonRuntime) (batch : Batch) : Prop
  | stores (pieces : List Piece) (hplain : ∀ piece ∈ pieces, piece.Plain)
      (hids : (pieces.map fun piece => piece.after.idText).Nodup)
      (hwrites : batch.Writes rt pieces)
  | silent (hstatements : ∀ statement ∈ batch.statements,
        statement.target = none ∧ statement.outboxRow = none)
      (htransitions : ∀ transition ∈ batch.transitions, transition.events = [])

section Batches

variable {rt : PythonRuntime} {batch : Batch} {db after : Database}

theorem targets_of_pieces {pieces : List Piece} (hplain : ∀ piece ∈ pieces, piece.Plain)
    (rows : List OutboxRow) :
    (pieces.flatMap Piece.statements ++ rows.map Statement.insertOutbox).filterMap
        Statement.target =
      (pieces.map Piece.transition).map Transition.after := by
  have hrows : (rows.map Statement.insertOutbox).filterMap Statement.target = [] := by
    rw [List.filterMap_eq_nil_iff]
    intro statement hmem
    obtain ⟨row, -, rfl⟩ := List.mem_map.mp hmem
    rfl
  rw [List.filterMap_append, hrows, List.append_nil]
  induction pieces with
  | nil => rfl
  | cons piece rest ih =>
      have hpiece := hplain piece List.mem_cons_self
      have hothers : piece.others.filterMap Statement.target = [] :=
        List.filterMap_eq_nil_iff.mpr hpiece.others
      rw [List.flatMap_cons, List.filterMap_append,
        ih fun other hother => hplain other (List.mem_cons_of_mem _ hother)]
      simp [Piece.statements, Piece.transition, hpiece.target, hothers]

theorem outbox_of_pieces {pieces : List Piece} (hplain : ∀ piece ∈ pieces, piece.Plain)
    (rows : List OutboxRow) :
    (pieces.flatMap Piece.statements ++ rows.map Statement.insertOutbox).filterMap
      Statement.outboxRow = rows := by
  have hpieces : (pieces.flatMap Piece.statements).filterMap Statement.outboxRow = [] := by
    rw [List.filterMap_eq_nil_iff]
    intro statement hmem
    obtain ⟨piece, hpiece, hmem⟩ := List.mem_flatMap.mp hmem
    exact (hplain piece hpiece).outbox statement hmem
  rw [List.filterMap_append, hpieces, List.nil_append]
  induction rows with
  | nil => rfl
  | cons row rest ih => simp [Statement.outboxRow, ih]

theorem ExactOutbox.of_effects {statements : List Statement}
    {transitions published : List Transition}
    (heffects : Database.Effects db statements after)
    (hrecorded : published.Sublist transitions)
    (honce : (published.map fun transition => transition.after.idText).Nodup)
    (htargets : statements.filterMap Statement.target = published.map Transition.after)
    (houtbox : ∃ (order : MetadataOrder) (arranged : List Transition)
      (rows : List (List OutboxRow)), arranged.Perm published ∧
        arranged.mapM (Transition.rows rt order) = .ok rows ∧
        statements.filterMap Statement.outboxRow = rows.flatten)
    (hsilent : ∀ transition ∈ transitions,
      transition ∈ published ∨ transition.events = []) :
    ExactOutbox rt transitions published db after := by
  have hids : ((statements.filterMap Statement.target).map Aggregate.idText).Nodup := by
    rw [htargets, List.map_map]
    exact honce
  obtain ⟨order, arranged, rows, hperm, hrows, hflat⟩ := houtbox
  exact
    { recorded := hrecorded
      once := honce
      books := htargets ▸ heffects.wroteOnly hids
      loans := htargets ▸ heffects.wroteOnly hids
      patrons := htargets ▸ heffects.wroteOnly hids
      outbox := ⟨order, arranged, rows, hperm, hrows, hflat ▸ heffects.outbox⟩
      silent := hsilent }

theorem Batch.Exact.exactOutbox (hexact : batch.Exact rt)
    (hrun : db.runAll batch.statements = .ok after) :
    ∃ published, ExactOutbox rt batch.transitions published db after := by
  have heffects := Database.runAll_effects hrun
  cases hexact with
  | stores pieces hplain hids hwrites =>
      obtain ⟨order, arranged, rows, hperm, hrows, rfl⟩ := hwrites
      refine ⟨pieces.map Piece.transition, .of_effects heffects (List.Sublist.refl _) ?_
        (targets_of_pieces hplain _) ?_ fun _ hmem => Or.inl hmem⟩
      · rw [List.map_map]
        exact hids
      · exact ⟨order, arranged, rows, hperm, hrows, outbox_of_pieces hplain _⟩
  | silent hstatements htransitions =>
      refine ⟨[], .of_effects heffects (List.nil_sublist _) List.nodup_nil ?_ ?_
        fun transition hmem => Or.inr (htransitions transition hmem)⟩
      · exact List.filterMap_eq_nil_iff.mpr fun statement hmem =>
          (hstatements statement hmem).1
      · refine ⟨⟨metadataNames, List.Perm.refl _⟩, [], [], List.Perm.refl _, rfl, ?_⟩
        exact List.filterMap_eq_nil_iff.mpr fun statement hmem =>
          (hstatements statement hmem).2

theorem Batch.Exact.one {piece : Piece} (hplain : piece.Plain)
    (hwrites : batch.Writes rt [piece]) : batch.Exact rt :=
  .stores [piece] (fun _ hmem => List.mem_singleton.mp hmem ▸ hplain)
    (List.nodup_singleton _) hwrites

end Batches

namespace CirculationCommand

/-- A batch is exact, and goes with an answer that something was changed. -/
def exactSpec (rt : PythonRuntime) (command : CirculationCommand) :
    CommandSpec command.Result where
  commits _ batch value := batch.Exact rt ∧ command.unchanged value = false
  returns _ _ := True
  raises _ _ := True

theorem operation_plain {statement : Statement} {others : List Statement}
    (hstatement : statement.target = none ∧ statement.outboxRow = none)
    (hothers : ∀ other ∈ others, other.target = none ∧ other.outboxRow = none) :
    ∀ other ∈ statement :: others, other.target = none ∧ other.outboxRow = none := by
  intro other hmem
  rcases List.mem_cons.mp hmem with rfl | hmem
  · exact hstatement
  · exact hothers other hmem

theorem bookMessage_exact {Result : Type} {rt : PythonRuntime} {book_id : PyStr}
    {transition : Book → Except Raised (Book × Bool × List AggregateEvent)}
    {change : UtcDateTime → OperationTransition} {result : Book → Bool → Result}
    {known : Run.Knowledge Observation PyStr} {batch : Batch} {value : Result}
    (hcommits : (BookMessage.spec rt book_id transition change result).commits known batch
      value) :
    batch.Exact rt ∧ ∃ book, value = result book true := by
  obtain ⟨_, _, after, _, _, _, hvalue, -, -, hwrites⟩ := hcommits
  refine ⟨.one (Piece.updated_plain ?_) hwrites, after, hvalue⟩
  exact operation_plain ⟨rfl, rfl⟩ (by simp)

theorem receiptBatch_exact (rt : PythonRuntime) (command : ReturnLoanCommand)
    (key : IdempotencyKey) (loan : Loan) (value : ReturnLoanResult) :
    (ReturnLoanHandler.receiptBatch rt command key loan value).Exact rt := by
  apply Batch.Exact.silent
  · intro statement hmem
    simp only [ReturnLoanHandler.receiptBatch] at hmem
    exact receiptOf_plain statement hmem
  · simp [ReturnLoanHandler.receiptBatch]

theorem handle_exact (rt : PythonRuntime) (command : CirculationCommand) :
    (command.handle rt).Meets (command.exactSpec rt) .nothing := by
  cases command with
  | borrowBook command =>
      apply (BorrowBookHandler.handle_meets rt command _).imp _ (fun _ _ _ => trivial)
        fun _ _ _ => trivial
      rintro _ batch value ⟨_, _, _, _, _, _, _, _, _, _, _, -, -, -, -, -, -, -, hwrites⟩
      exact ⟨.one (Piece.updated_plain
        (operation_plain ⟨rfl, rfl⟩ receiptOf_plain)) hwrites, rfl⟩
  | confirmBookBorrow command =>
      apply (ConfirmBookBorrowHandler.handle_meets rt command _).imp _ (fun _ _ _ => trivial)
        fun _ _ _ => trivial
      intro _ batch value hcommits
      obtain ⟨hexact, book, rfl⟩ := bookMessage_exact hcommits
      exact ⟨hexact, rfl⟩
  | releaseBookReservation command =>
      apply (ReleaseBookReservationHandler.handle_meets rt command _).imp _
        (fun _ _ _ => trivial) fun _ _ _ => trivial
      intro _ batch value hcommits
      obtain ⟨hexact, book, rfl⟩ := bookMessage_exact hcommits
      exact ⟨hexact, rfl⟩
  | releaseExpiredReservations command =>
      apply (ReleaseExpiredReservationsHandler.handle_meets rt command _).imp _
        (fun _ _ _ => trivial) fun _ _ _ => trivial
      rintro _ batch value ⟨releases, hsome, hvalid, hids, hcount, hwrites⟩
      refine ⟨.stores _ ?_ ?_ hwrites, ?_⟩
      · intro piece hpiece
        obtain ⟨release, -, rfl⟩ := List.mem_map.mp hpiece
        exact Piece.updated_plain (operation_plain ⟨rfl, rfl⟩ (by simp))
      · have hsame : (releases.map ReleaseExpiredReservationsHandler.Release.piece).map
            (fun piece => piece.after.idText) =
              releases.map fun release => release.row.id.val := by
          rw [List.map_map]
          exact List.map_congr_left fun release hrelease => (hvalid release hrelease).idText
        rw [hsame]
        exact hids
      · simp [unchanged, hcount, hsome]
  | returnBook command =>
      apply (ReturnBookHandler.handle_meets rt command _).imp _ (fun _ _ _ => trivial)
        fun _ _ _ => trivial
      intro _ batch value hcommits
      exact ⟨(bookMessage_exact hcommits).1, rfl⟩
  | createLoan command =>
      apply (CreateLoanHandler.handle_meets rt command _).imp _ (fun _ _ _ => trivial)
        fun _ _ _ => trivial
      rintro _ batch value ⟨_, _, _, _, _, _, -, -, -, -, hwrites⟩
      exact ⟨.one Piece.inserted_plain hwrites, rfl⟩
  | extendLoan command =>
      apply (ExtendLoanHandler.handle_meets rt command _).imp _ (fun _ _ _ => trivial)
        fun _ _ _ => trivial
      rintro _ batch value ⟨_, _, _, _, _, _, _, -, -, -, -, hwrites⟩
      exact ⟨.one (Piece.updated_plain receiptOf_plain) hwrites, rfl⟩
  | returnLoan command =>
      apply (ReturnLoanHandler.handle_meets rt command _).imp _ (fun _ _ _ => trivial)
        fun _ _ _ => trivial
      rintro _ batch value ⟨_, _, _, _, _, _, _, _, -, -, -, -, -,
        ⟨-, _, hwrites⟩ | ⟨-, given, -, rfl⟩⟩
      · exact ⟨.one (Piece.updated_plain receiptOf_plain) hwrites, rfl⟩
      · exact ⟨receiptBatch_exact rt command given _ value, rfl⟩
  | cancelLoan command =>
      apply (CancelLoanHandler.handle_meets rt command _).imp _ (fun _ _ _ => trivial)
        fun _ _ _ => trivial
      rintro _ batch value ⟨_, _, _, _, _, _, -, -, -, -, rfl, hwrites⟩
      exact ⟨.one (Piece.updated_plain (by simp)) hwrites, rfl⟩

end CirculationCommand

/-- The outbox holds exactly the events of what a run committed. -/
theorem outbox_exact (rt : PythonRuntime) (command : CirculationCommand)
    (answers : List (Run.Answer Observation Refusal)) (db after : Database)
    (hrun : db.commitAll ((command.handle rt).exec answers).1 = .ok after) :
    (∃ published, ExactOutbox rt
      (((command.handle rt).exec answers).1.flatMap Batch.transitions) published db after) ∧
    ((∃ error, ((command.handle rt).exec answers).2 = some (.error error)) → after = db) ∧
    (∀ value, ((command.handle rt).exec answers).2 = some (.ok value) →
      command.unchanged value = true → after = db) ∧
    (((command.handle rt).exec answers).1 = [] → after = db) := by
  have hsound := Run.exec_sound (command.handle_exact rt) answers
  generalize (command.handle rt).exec answers = outcome at hrun hsound ⊢
  obtain ⟨batches, result⟩ := outcome
  cases batches with
  | nil =>
      cases hrun
      refine ⟨⟨[], ?_⟩, fun _ => rfl, fun _ _ _ => rfl, fun _ => rfl⟩
      exact .of_effects (.nil _) (List.nil_sublist _) List.nodup_nil rfl
        ⟨⟨metadataNames, List.Perm.refl _⟩, [], [], List.Perm.refl _, rfl, rfl⟩ (by simp)
  | cons batch rest =>
      obtain ⟨_, value, hbatches, hresult, -, -, hexact, hchanged⟩ :=
        hsound.committed (by simp)
      simp only [List.cons.injEq] at hbatches
      obtain ⟨rfl, rfl⟩ := hbatches
      obtain ⟨stored, hstored, hrest⟩ := Result.bind_eq_ok.mp hrun
      cases hrest
      refine ⟨by simpa using hexact.exactOutbox hstored, ?_, ?_, by simp⟩
      · rintro ⟨error, herror⟩
        exact absurd (hsound.raised error herror).1 (by simp)
      · intro answer hanswer hunchanged
        dsimp only at hresult hanswer
        rcases hresult with rfl | rfl
        · cases hanswer
        · cases hanswer
          rw [hunchanged] at hchanged
          cases hchanged

/-! ## One borrowing -/

def sampleBook : Book :=
  .initial (uuidReference 1) ⟨py "Emma", by decide, by decide, by decide⟩
    ⟨py "Austen", by decide, by decide, by decide⟩

def samplePatron : Patron where
  name :=
    ⟨⟨py "Ann", by decide, by decide, by decide⟩,
      ⟨py "Lee", by decide, by decide, by decide⟩⟩
  email := ⟨py "ann@lee.org", by decide, by decide, by decide⟩
  registered_at := 0
  id := uuidReference 2
  membership_tier := .regular
  suspended_reason := none

def sampleDatabase : Database where
  books := (∅ : Table _ _).insert (.ofEntity sampleBook 0)
  loans := ∅
  patrons := (∅ : Table _ _).insert (.ofEntity samplePatron 0)
  borrow_operations := ∅
  command_receipts := ∅
  outbox := []

def sampleDraws : Draws where
  now := ⟨1, by decide⟩
  uuid := 3
  metadata _ := sampleMetadata
  order := sampleOrder
  rank _ := 0
  locked _ := false

def sampleBorrow : CirculationCommand :=
  .borrowBook ⟨uuidText 1, py "ann@lee.org", none⟩

/-- The six looks of a borrowing at the database, then its commit. -/
def sampleAnswers : List (Run.Answer Observation Refusal) :=
  List.replicate 6 (.seen ⟨sampleDatabase, sampleDraws⟩) ++ [.settled none]

def sampleOutcome : Except Refusal Database :=
  sampleDatabase.commitAll ((sampleBorrow.handle asciiRuntime).exec sampleAnswers).1

theorem outbox_exact_borrow :
    ∃ after published, sampleOutcome = .ok after ∧ after.outbox.length = 1 ∧
      ExactOutbox asciiRuntime
        (((sampleBorrow.handle asciiRuntime).exec sampleAnswers).1.flatMap
          Batch.transitions) published sampleDatabase after := by
  have hlength : (sampleOutcome.toOption.map fun after => after.outbox.length) =
      some 1 := by decide +kernel
  obtain ⟨after, hafter, hlength⟩ := Option.map_eq_some_iff.mp hlength
  have hrun : sampleOutcome = .ok after := Result.ok_of_toOption hafter
  obtain ⟨⟨published, hexact⟩, -⟩ :=
    outbox_exact asciiRuntime sampleBorrow sampleAnswers sampleDatabase after hrun
  exact ⟨after, published, hrun, hlength, hexact⟩

end LibrarySystem
