import LibrarySystem.Application.OperationMirror

/-!
# The record of every reservation

The operations tell of each reservation where it stands: that of the current one its status
and its loan, those of earlier ones how they ended.  An operation that was ever stored is
still there, or had come to its end when retention took it.
-/

namespace LibrarySystem

/-- The status of the operation and the status of the book say the same. -/
structure BookRow.RecordedBy (row : BookRow) (operation : BorrowOperation) : Prop where
  reserved : operation.status = .reserved ↔ row.state.status = .reserved
  borrowed : (operation.status = .borrowed ∧ ∃ loan, row.state.current_loan_id = some loan ∧
    operation.loan_id = some loan.val) ↔ row.state.status = .borrowed
  available : row.state.status = .available →
    operation.status = .released ∨ operation.status = .returned

/-- An identifier is its own normal form. -/
theorem Sql.strip_identifier {text : PyStr} (htext : Sql.isIdentifier text = true) :
    PyStr.strip text = text := by
  apply PyStr.strip_eq_self
  intro c hc
  have htail := PyStr.matchesHeadTail_mem htext (fun d hd => by simp [isReferenceTail, hd]) hc
  simp only [isReferenceTail, Bool.or_eq_true, beq_iff_eq] at htail
  rcases htail with (halnum | hunderscore) | hhyphen
  · exact CodePoint.isSpace_eq_false_of_isAlphanumeric halnum
  · simp [CodePoint.isSpace, hunderscore]
  · simp [CodePoint.isSpace, hhyphen]

theorem BorrowOperation.wellFormed_loan {id text : PyStr} {operation : BorrowOperation}
    (hform : operation.wellFormed id = true) (hloan : operation.loan_id = some text) :
    Sql.isIdentifier text = true := by
  simp only [wellFormed, checks, List.all_cons, List.all_nil, Bool.and_eq_true, hloan,
    Option.all_some] at hform
  exact hform.2.2.2.2.1

/-- What mirrors a row, and is stored, records it. -/
theorem BookRow.Mirrored.recordedBy {row : BookRow} {id : PyStr} {operation : BorrowOperation}
    (hmirrored : row.Mirrored (some operation)) (hform : operation.wellFormed id = true) :
    row.RecordedBy operation := by
  unfold Mirrored at hmirrored
  cases hstatus : row.state.status with
  | reserved =>
      rw [hstatus] at hmirrored
      obtain ⟨_, ⟨⟩, hholds⟩ := hmirrored
      constructor <;> simp [hstatus, hholds.status]
  | borrowed =>
      rw [hstatus] at hmirrored
      obtain ⟨_, ⟨⟩, hborrowed, -, text, loan, htext, hloan, hcurrent⟩ := hmirrored
      have hsame : text = loan.val := by
        simp only [Book.normalizeReference, normalizeReference] at hloan
        split at hloan
        · cases hloan
          exact (Sql.strip_identifier (operation.wellFormed_loan hform htext)).symm
        · cases hloan
      constructor <;> simp [hstatus, hborrowed, hcurrent, htext, hsame]
  | available =>
      rw [hstatus] at hmirrored
      obtain ⟨hsettled, -⟩ := hmirrored operation rfl
      simp only [BorrowOperation.settled, Bool.or_eq_true, decide_eq_true_eq] at hsettled
      rcases hsettled with hended | hended <;>
        constructor <;> simp [hstatus, hended]

namespace Database

/-- The operations are rows that the table takes. -/
def StoredOperations (db : Database) : Prop :=
  ∀ key operation, db.borrow_operations.lookup key = some operation →
    operation.wellFormed key = true

/-- The operations are in step with the books. -/
structure Recorded (db : Database) : Prop where
  mirrors : db.Mirrors
  stored : db.StoredOperations

variable {db after : Database}

theorem StoredOperations.insert {key : PyStr} {operation : BorrowOperation}
    (hstored : db.StoredOperations) (hform : operation.wellFormed key = true)
    (hoperations : after.borrow_operations = db.borrow_operations.insert key operation) :
    after.StoredOperations := by
  intro other found hfound
  rw [hoperations] at hfound
  by_cases hsame : other = key
  · subst other
    rw [AList.lookup_insert, Option.some.injEq] at hfound
    exact hfound ▸ hform
  · rw [AList.lookup_insert_ne hsame] at hfound
    exact hstored other found hfound

theorem Effect.storedOperations {statement : Statement} (heffect : Effect db statement after)
    (hstored : db.StoredOperations) : after.StoredOperations := by
  cases heffect with
  | insertOperation id operation _ hform => exact hstored.insert hform rfl
  | transitionOperation change operation _ _ hform => exact hstored.insert hform rfl
  | _ => exact hstored

theorem Effects.storedOperations {statements : List Statement}
    (heffects : Effects db statements after) (hstored : db.StoredOperations) :
    after.StoredOperations := by
  induction heffects with
  | nil => exact hstored
  | cons hfirst _ ih => exact ih (hfirst.storedOperations hstored)

/-- No transaction takes an operation away. -/
theorem Effect.operation_kept {statement : Statement} (heffect : Effect db statement after)
    {key : PyStr} (hthere : (db.borrow_operations.lookup key).isSome = true) :
    (after.borrow_operations.lookup key).isSome = true := by
  cases heffect with
  | insertOperation id operation _ _ =>
      by_cases hsame : key = id
      · rw [hsame, AList.lookup_insert, Option.isSome_some]
      · rwa [AList.lookup_insert_ne hsame]
  | transitionOperation change operation _ _ _ =>
      by_cases hsame : key = change.operation_id
      · rw [hsame, AList.lookup_insert, Option.isSome_some]
      · rwa [AList.lookup_insert_ne hsame]
  | _ => exact hthere

theorem Effects.operation_kept {statements : List Statement}
    (heffects : Effects db statements after) {key : PyStr}
    (hthere : (db.borrow_operations.lookup key).isSome = true) :
    (after.borrow_operations.lookup key).isSome = true := by
  induction heffects with
  | nil => exact hthere
  | cons hfirst _ ih => exact ih (hfirst.operation_kept hthere)

end Database

/-! ## Every run -/

/-- The operation is stored, or it had come to its end in a state that was left. -/
def Accounted (past : Set Database) (state : Database) (key : PyStr) : Prop :=
  (state.borrow_operations.lookup key).isSome = true ∨
    ∃ late ∈ past, ∃ operation, late.borrow_operations.lookup key = some operation ∧
      operation.settled = true

/-- What the runs keep. -/
structure Recording (past : Set Database) (log : List Committed) (state : Database) : Prop where
  circulating : Circulating past log state
  stored : state.StoredOperations
  views : ∀ view ∈ past, view.Mirrors
  accounted : ∀ view ∈ past, ∀ key, (view.borrow_operations.lookup key).isSome = true →
    Accounted past state key

theorem recording_keeps (rt : PythonRuntime) :
    Interleaving.Keeps (commandSide rt) (Request.outcome rt) Database.Recorded
      (fun _ _ => True) Upkeep Recording (fun _ _ _ => True) := by
  have hcirculating := circulating_keeps rt
  constructor
  · intro state hrecorded
    refine ⟨hcirculating.begins state hrecorded.mirrors, hrecorded.stored, ?_, ?_⟩
    · rintro view rfl
      exact hrecorded.mirrors
    · rintro view rfl key hthere
      exact Or.inl hthere
  · exact fun _ _ _ => trivial
  · rintro past log state hrecording hmem entry known value after hbefore hafter hadmitted
      hviewed hheld hcommits hrest happly
    obtain ⟨hnext, -⟩ := hcirculating.commit past log state hrecording.circulating hmem entry
      known value after hbefore hafter hadmitted hviewed hheld hcommits hrest happly
    have heffects := Database.runAll_effects happly
    refine ⟨⟨hnext, heffects.storedOperations hrecording.stored, ?_, ?_⟩,
      fun _ _ _ _ => trivial⟩
    · rintro view (rfl | hview)
      · exact hnext.mirrors
      · exact hrecording.views view hview
    · rintro view (rfl | hview) key hthere
      · exact Or.inl hthere
      · rcases hrecording.accounted view hview key hthere with hkept | ⟨late, hlate, hended⟩
        · exact Or.inl (heffects.operation_kept hkept)
        · exact Or.inr ⟨late, Set.mem_insert_of_mem _ hlate, hended⟩
  · intro past log state after hrecording hmem hupkeep
    obtain ⟨hnext, -⟩ := hcirculating.change past log state after hrecording.circulating hmem
      hupkeep
    refine ⟨⟨hnext, ?_, ?_, ?_⟩, fun _ _ _ => trivial⟩
    · intro key operation hfound
      rcases hupkeep.operations key with hsame | ⟨hgone, -⟩
      · exact hrecording.stored key operation (hsame ▸ hfound)
      · rw [hgone] at hfound
        cases hfound
    · rintro view (rfl | hview)
      · exact hnext.mirrors
      · exact hrecording.views view hview
    · rintro view (rfl | hview) key hthere
      · exact Or.inl hthere
      · rcases hrecording.accounted view hview key hthere with hkept | ⟨late, hlate, hended⟩
        · rcases hupkeep.operations key with hsame | ⟨-, operation, hfound, hsettled⟩
          · exact Or.inl (by rwa [hsame])
          · refine Or.inr ⟨state, Set.mem_insert_of_mem _ hmem, operation, hfound, ?_⟩
            simpa [BorrowOperation.settled] using hsettled
        · exact Or.inr ⟨late, Set.mem_insert_of_mem _ hlate, hended⟩

theorem CommandSide.recording {rt : PythonRuntime} {world : CommandWorld}
    (hreach : CommandSide rt Database.Recorded world) :
    Recording world.past world.log world.shared :=
  (Interleaving.reachable_keeps (recording_keeps rt)
    (fun _ request _ => request.program_meets rt .nothing) hreach).1

/-- The reservation that a row holds has its operation. -/
theorem Database.Mirrors.has_operation {db : Database} (hmirrors : db.Mirrors) {row : BookRow}
    (hrow : row ∈ db.books.rows) {token : Uuid} (htoken : row.state.reservation_id = some token)
    (hopen : row.state.status ≠ .available) :
    (db.borrow_operations.lookup (uuidText token)).isSome = true := by
  have hmirrored := hmirrors.current row hrow token htoken
  unfold BookRow.Mirrored at hmirrored
  cases hstatus : row.state.status with
  | available => exact absurd hstatus hopen
  | reserved | borrowed =>
      rw [hstatus] at hmirrored
      obtain ⟨operation, hfound, -⟩ := hmirrored
      rw [hfound, Option.isSome_some]

/-- The borrow operations are the record of the books.  Every reservation that a book ever
held has its operation, or retention took one that had ended; the operation of the current
reservation has the status of the book and its loan; any other one has ended, and what has
ended no transaction changes; and when the stored book accepts the transition of a message of
the system, the operation is there, matches, and passes `ck_borrow_operations_state`. -/
theorem operations_record_books {rt : PythonRuntime} {world : CommandWorld}
    (hreach : CommandSide rt Database.Recorded world) :
    (∀ view ∈ world.past, ∀ row ∈ view.books.rows, ∀ token,
      row.state.reservation_id = some token → row.state.status ≠ .available →
        (view.borrow_operations.lookup (uuidText token)).isSome = true ∧
          Accounted world.past world.shared (uuidText token)) ∧
    (∀ row ∈ world.shared.books.rows, ∀ token, row.state.reservation_id = some token →
      ∀ operation, world.shared.borrow_operations.lookup (uuidText token) = some operation →
        row.RecordedBy operation) ∧
    (∀ key operation, world.shared.borrow_operations.lookup key = some operation →
      operation.settled = true ∨ ∃ row ∈ world.shared.books.rows, ∃ token,
        row.state.reservation_id = some token ∧ key = uuidText token ∧
          operation.book_id = row.id.val) ∧
    (∀ entry ∈ world.log, entry.before.EndsStay entry.after) ∧
    ∀ request row book moved change token, row ∈ world.shared.books.rows →
      row.toEntity = .ok book →
        Request.Moves rt request (.book book) (.book moved) [.transitionOperation change] →
          change.operation_id = uuidText token →
            ∃ operation,
              world.shared.borrow_operations.lookup change.operation_id = some operation ∧
                change.matches_ operation = true ∧ (change.write operation).stateOk = true := by
  have hrecording := hreach.recording
  have hmirrors := hrecording.circulating.mirrors
  refine ⟨?_, ?_, ?_, hrecording.circulating.ends, ?_⟩
  · intro view hview row hrow token htoken hopen
    have hthere := (hrecording.views view hview).has_operation hrow htoken hopen
    exact ⟨hthere, hrecording.accounted view hview _ hthere⟩
  · intro row hrow token htoken operation hfound
    have hmirrored := hmirrors.current row hrow token htoken
    rw [hfound] at hmirrored
    exact hmirrored.recordedBy (hrecording.stored _ _ hfound)
  · intro key operation hfound
    cases hsettled : operation.settled with
    | true => exact Or.inl rfl
    | false => exact Or.inr (hmirrors.pending key operation hfound hsettled)
  · intro request row book moved change token hrow hbook hmoves hkey
    obtain ⟨operation, hfound, -, hmatches⟩ := hmirrors.accepts hrow hbook hmoves.tracks hkey
    exact ⟨operation, hfound, hmatches, hmoves.tracks.stateOk operation⟩

theorem sampleDatabase_recorded : sampleDatabase.Recorded where
  mirrors := sampleDatabase_mirrors
  stored := by
    rintro key operation hfound
    cases hfound

theorem operations_record_books_borrow :
    ∃ (world : CommandWorld) (row : BookRow) (operation : BorrowOperation),
      world.log.length = 1 ∧ row ∈ world.shared.books.rows ∧ row.state.status = .reserved ∧
        world.shared.borrow_operations.lookup (uuidText 3) = some operation ∧
          operation.status = .reserved := by
  have hresult : ((Interleaving.machine (commandSide asciiRuntime)
      Database.Recorded).execute sampleWorld borrowRun).any (fun world =>
        decide (world.log.length = 1) &&
          (world.shared.books.rows.any fun row => decide (row.state.status = .reserved) &&
            row.state.reservation_id.any fun token => uuidText token = uuidText 3)) = true := by
    decide +kernel
  obtain ⟨world, hrun, hfields⟩ := (Option.any_eq_true _ _).mp hresult
  simp only [Bool.and_eq_true, decide_eq_true_eq, List.any_eq_true, Option.any_eq_true]
    at hfields
  obtain ⟨hlog, row, hrow, hstatus, token, htoken, hspelled⟩ := hfields
  have hstart : CommandSide asciiRuntime Database.Recorded sampleWorld :=
    .start ⟨sampleDatabase_recorded, rfl, rfl, rfl⟩
  have hreach : CommandSide asciiRuntime Database.Recorded world :=
    Interleaving.reachable_execute (fun _ _ => trivial) hstart rfl hrun
  obtain ⟨-, hcurrent, -⟩ := operations_record_books hreach
  have hthere := hreach.recording.circulating.mirrors.has_operation hrow htoken
    (by rw [hstatus]; decide)
  obtain ⟨operation, hfound⟩ := Option.isSome_iff_exists.mp hthere
  have hrecorded := hcurrent row hrow token htoken operation hfound
  exact ⟨world, row, operation, hlog, hrow, hstatus, hspelled ▸ hfound,
    hrecorded.reserved.mpr hstatus⟩

end LibrarySystem
