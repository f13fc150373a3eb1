import LibrarySystem.Application.OutboxExactness

/-!
# The keys of the borrow operations

Only a borrowing inserts an operation, under the text of the reservation it draws.  So
in every committed state the operations are kept under texts in lower case.
-/

namespace LibrarySystem

open Result

/-- `str(uuid)` is in lower case. -/
theorem uuidText_asciiLower (u : Uuid) :
    (uuidText u).map CodePoint.asciiLower = uuidText u := by
  have hdigit : ∀ n, (Json.hexDigit n).asciiLower = Json.hexDigit n := by
    intro n
    apply CodePoint.asciiLower_eq_self
    simp only [CodePoint.isUpper, Json.hexDigit_val, Bool.and_eq_false_iff,
      decide_eq_false_iff_not]
    split <;> omega
  have hgroup : ∀ width n, (padHex width n).map CodePoint.asciiLower = padHex width n := by
    intro width
    induction width with
    | zero => exact fun _ => rfl
    | succ width ih =>
        intro n
        simp [padHex, ih, hdigit]
  have hdash : (py "-").map CodePoint.asciiLower = py "-" := by decide
  simp only [uuidText, List.map_append, hgroup, hdash]

namespace Database

variable {db after : Database}

/-- An operation that is there after a statement was there before, or was inserted. -/
theorem Effect.operations {statement : Statement} (heffect : Effect db statement after)
    {id : PyStr} (hid : (after.borrow_operations.lookup id).isSome = true) :
    (db.borrow_operations.lookup id).isSome = true ∨
      ∃ operation, statement = .insertOperation id operation := by
  cases heffect with
  | insertOperation key operation hnew hstate =>
      by_cases hsame : id = key
      · exact Or.inr ⟨operation, by rw [hsame]⟩
      · rw [AList.lookup_insert_ne hsame] at hid
        exact Or.inl hid
  | transitionOperation change operation hfound hmatches hstate =>
      left
      by_cases hsame : id = change.operation_id
      · rw [hsame, hfound]
        rfl
      · rwa [AList.lookup_insert_ne hsame] at hid
  | _ => exact Or.inl hid

theorem Effects.operations {statements : List Statement}
    (heffects : Effects db statements after) {id : PyStr}
    (hid : (after.borrow_operations.lookup id).isSome = true) :
    (db.borrow_operations.lookup id).isSome = true ∨
      ∃ operation, .insertOperation id operation ∈ statements := by
  induction heffects with
  | nil => exact Or.inl hid
  | cons hfirst _ ih =>
      rcases ih hid with hbefore | ⟨operation, hmem⟩
      · rcases hfirst.operations hbefore with hfound | ⟨operation, rfl⟩
        · exact Or.inl hfound
        · exact Or.inr ⟨operation, List.mem_cons_self⟩
      · exact Or.inr ⟨operation, List.mem_cons_of_mem _ hmem⟩

/-- Every operation is kept under the text of a UUID in lower case. -/
def LowerCaseOperations (db : Database) : Prop :=
  ∀ id, (db.borrow_operations.lookup id).isSome = true → id.map CodePoint.asciiLower = id

end Database

/-! ## Committed states -/

/-- The states the catalog can have come to: its commands and those of lending commit,
and whatever else happens adds no borrow operation; pruning removes some. -/
inductive CommittedState (rt : PythonRuntime) : Database → Prop
  | initial {db : Database} (hempty : db.borrow_operations = ∅) : CommittedState rt db
  | command {db after : Database} (hdb : CommittedState rt db) (command : CirculationCommand)
      (answers : List (Run.Answer Observation Refusal))
      (hrun : db.commitAll ((command.handle rt).exec answers).1 = .ok after) :
      CommittedState rt after
  | other {db after : Database} (hdb : CommittedState rt db)
      (hkept : ∀ id, (after.borrow_operations.lookup id).isSome = true →
        (db.borrow_operations.lookup id).isSome = true) :
      CommittedState rt after

/-- The operations a piece inserts are kept under a text of their reservation. -/
def Piece.InsertsUuids (piece : Piece) : Prop :=
  ∀ id operation, .insertOperation id operation ∈ piece.statements → ∃ u, id = uuidText u

def Batch.InsertsUuids (batch : Batch) : Prop :=
  ∀ id operation, .insertOperation id operation ∈ batch.statements → ∃ u, id = uuidText u

section InsertedIds

variable {rt : PythonRuntime} {batch : Batch}

theorem Batch.Writes.insertsUuids {pieces : List Piece} (hwrites : batch.Writes rt pieces)
    (hpieces : ∀ piece ∈ pieces, piece.InsertsUuids) : batch.InsertsUuids := by
  obtain ⟨_, _, rows, -, -, rfl⟩ := hwrites
  intro id operation hmem
  rcases List.mem_append.mp hmem with hmem | hmem
  · obtain ⟨piece, hpiece, hmem⟩ := List.mem_flatMap.mp hmem
    exact hpieces piece hpiece id operation hmem
  · obtain ⟨row, -, hrow⟩ := List.mem_map.mp hmem
    cases hrow

theorem Batch.Writes.insertsUuids_one {piece : Piece} (hwrites : batch.Writes rt [piece])
    (hpiece : piece.InsertsUuids) : batch.InsertsUuids :=
  hwrites.insertsUuids fun _ hmem => List.mem_singleton.mp hmem ▸ hpiece

theorem Piece.inserted_insertsUuids {after : Aggregate} {draws : Draws}
    {events : List AggregateEvent} : (Piece.inserted after draws events []).InsertsUuids := by
  intro id operation hmem
  cases List.mem_singleton.mp hmem

theorem Piece.updated_insertsUuids {version : ℕ} {after : Aggregate} {draws : Draws}
    {events : List AggregateEvent} {others : List Statement}
    (hothers : ∀ id operation, .insertOperation id operation ∈ others →
      ∃ u, id = uuidText u) :
    (Piece.updated version after draws events others).InsertsUuids := by
  intro id operation hmem
  rcases List.mem_cons.mp hmem with hwrite | hmem
  · cases hwrite
  · exact hothers id operation hmem

theorem insertOperation_not_mem_receiptOf {Result : Type} [Receipted Result] {scope : PyStr}
    {key : Option IdempotencyKey} {request_hash : PyStr} {result : Result} {id : PyStr}
    {operation : BorrowOperation} :
    Statement.insertOperation id operation ∉ receiptOf rt scope key request_hash result := by
  cases key with
  | none => simp [receiptOf]
  | some given => simp [receiptOf]

end InsertedIds

namespace CirculationCommand

def idSpec (command : CirculationCommand) : CommandSpec command.Result where
  commits _ batch _ := batch.InsertsUuids
  returns _ _ := True
  raises _ _ := True

theorem bookMessage_insertsUuids {Result : Type} {rt : PythonRuntime} {book_id : PyStr}
    {transition : Book → Except Raised (Book × Bool × List AggregateEvent)}
    {change : UtcDateTime → OperationTransition} {result : Book → Bool → Result}
    {known : Run.Knowledge Observation PyStr} {batch : Batch} {value : Result}
    (hcommits : (BookMessage.spec rt book_id transition change result).commits known batch
      value) : batch.InsertsUuids := by
  obtain ⟨_, _, _, _, _, _, -, -, -, hwrites⟩ := hcommits
  exact hwrites.insertsUuids_one (Piece.updated_insertsUuids (by simp))

theorem handle_insertsUuids (rt : PythonRuntime) (command : CirculationCommand) :
    (command.handle rt).Meets command.idSpec .nothing := by
  cases command with
  | borrowBook command =>
      apply (BorrowBookHandler.handle_meets rt command _).imp _ (fun _ _ _ => trivial)
        fun _ _ _ => trivial
      rintro _ batch value
        ⟨_, _, _, _, _, _, _, token, _, _, _, -, -, -, -, -, -, -, hwrites⟩
      refine hwrites.insertsUuids_one (Piece.updated_insertsUuids fun id operation hmem => ?_)
      rcases List.mem_cons.mp hmem with hinsert | hmem
      · simp only [Statement.insertOperation.injEq] at hinsert
        exact ⟨token, hinsert.1⟩
      · exact absurd hmem insertOperation_not_mem_receiptOf
  | confirmBookBorrow command =>
      exact (ConfirmBookBorrowHandler.handle_meets rt command _).imp
        (fun _ _ _ hcommits => bookMessage_insertsUuids hcommits) (fun _ _ _ => trivial)
        fun _ _ _ => trivial
  | releaseBookReservation command =>
      exact (ReleaseBookReservationHandler.handle_meets rt command _).imp
        (fun _ _ _ hcommits => bookMessage_insertsUuids hcommits) (fun _ _ _ => trivial)
        fun _ _ _ => trivial
  | releaseExpiredReservations command =>
      apply (ReleaseExpiredReservationsHandler.handle_meets rt command _).imp _
        (fun _ _ _ => trivial) fun _ _ _ => trivial
      rintro _ batch value ⟨releases, -, -, -, -, hwrites⟩
      refine hwrites.insertsUuids fun piece hpiece => ?_
      obtain ⟨release, -, rfl⟩ := List.mem_map.mp hpiece
      exact Piece.updated_insertsUuids (by simp)
  | returnBook command =>
      exact (ReturnBookHandler.handle_meets rt command _).imp
        (fun _ _ _ hcommits => bookMessage_insertsUuids hcommits) (fun _ _ _ => trivial)
        fun _ _ _ => trivial
  | createLoan command =>
      apply (CreateLoanHandler.handle_meets rt command _).imp _ (fun _ _ _ => trivial)
        fun _ _ _ => trivial
      rintro _ batch value ⟨_, _, _, _, _, _, -, -, -, -, hwrites⟩
      exact hwrites.insertsUuids_one Piece.inserted_insertsUuids
  | extendLoan command =>
      apply (ExtendLoanHandler.handle_meets rt command _).imp _ (fun _ _ _ => trivial)
        fun _ _ _ => trivial
      rintro _ batch value ⟨_, _, _, _, _, _, _, -, -, -, -, hwrites⟩
      exact hwrites.insertsUuids_one (Piece.updated_insertsUuids fun _ _ hmem =>
        absurd hmem insertOperation_not_mem_receiptOf)
  | returnLoan command =>
      apply (ReturnLoanHandler.handle_meets rt command _).imp _ (fun _ _ _ => trivial)
        fun _ _ _ => trivial
      rintro _ batch value ⟨_, _, _, _, _, _, _, _, -, -, -, -, -,
        ⟨-, _, hwrites⟩ | ⟨-, given, -, rfl⟩⟩
      · exact hwrites.insertsUuids_one (Piece.updated_insertsUuids fun _ _ hmem =>
          absurd hmem insertOperation_not_mem_receiptOf)
      · intro id operation hmem
        simp only [ReturnLoanHandler.receiptBatch] at hmem
        exact absurd hmem insertOperation_not_mem_receiptOf
  | cancelLoan command =>
      apply (CancelLoanHandler.handle_meets rt command _).imp _ (fun _ _ _ => trivial)
        fun _ _ _ => trivial
      rintro _ batch value ⟨_, _, _, _, _, _, -, -, -, -, rfl, hwrites⟩
      exact hwrites.insertsUuids_one (Piece.updated_insertsUuids (by simp))

end CirculationCommand

/-- The operations of a committed state are kept under canonical texts. -/
theorem CommittedState.lowerCase {rt : PythonRuntime} {db : Database}
    (hdb : CommittedState rt db) : db.LowerCaseOperations := by
  induction hdb with
  | initial hempty =>
      intro id hid
      rw [hempty, AList.lookup_empty] at hid
      cases hid
  | other _ hkept ih => exact fun id hid => ih id (hkept id hid)
  | @command db after _ command answers hrun ih =>
      intro id hid
      have hsound := Run.exec_sound (command.handle_insertsUuids rt) answers
      generalize (command.handle rt).exec answers = outcome at hrun hsound
      obtain ⟨batches, result⟩ := outcome
      cases batches with
      | nil =>
          cases hrun
          exact ih id hid
      | cons batch rest =>
          obtain ⟨_, _, hbatches, -, _, -, hinserts⟩ := hsound.committed (by simp)
          simp only [List.cons.injEq] at hbatches
          obtain ⟨rfl, rfl⟩ := hbatches
          obtain ⟨stored, hstored, hrest⟩ := bind_eq_ok.mp hrun
          cases hrest
          rcases (Database.runAll_effects hstored).operations hid with hbefore | ⟨operation, hmem⟩
          · exact ih id hbefore
          · obtain ⟨u, rfl⟩ := hinserts id operation hmem
            exact uuidText_asciiLower u

end LibrarySystem
