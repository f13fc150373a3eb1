import LibrarySystem.Application.CatalogEffects
import LibrarySystem.Application.LendingCommands

/-!
# What the lending handlers commit

The counterpart of the catalog's specifications.  A loan is created under the fence of
its patron, so the specification also says what was seen since the fence was taken.
-/

namespace LibrarySystem

open Run (Spec Knowledge)

/-- A handler after the failure of a part: what the part raises, the handler meets. -/
theorem Run.Meets.tryCatch {D L B R ε α : Type} {spec : Spec D L B ε α}
    {knowledge : Knowledge D L} {run : Run D L B R ε α} {handler : ε → Run D L B R ε α}
    (hrun : run.Meets
      { spec with raises := fun known error => (handler error).Meets spec known } knowledge) :
    (run.tryCatch handler).Meets spec knowledge := by
  induction run generalizing knowledge with
  | pure value => exact hrun
  | raise error => exact hrun
  | observe next ih => exact fun observation => ih observation (hrun observation)
  | acquire lock next ih => exact ih hrun
  | commit batch next ih =>
      obtain ⟨⟨value, hnext, hcommit⟩, hrefused⟩ := hrun
      refine ⟨⟨value, ?_, hcommit⟩, fun refusal => ih (some refusal) (hrefused refusal)⟩
      simp only [hnext, Run.tryCatch]

namespace LoanCommandRepository

variable {rt : PythonRuntime} {known : Knowledge Observation PyStr} {session : UnitOfWork Loan}
  {error : Knowledge Observation PyStr → AppException → Prop}

/-- Looking for a reservation in a session that holds no loan. -/
theorem reads_getByReservationId {reservation_id : PyStr}
    {value : Knowledge Observation PyStr → Option (Tracked Loan) × UnitOfWork Loan → Prop}
    (hempty : session.identity_map = [])
    (hmissing : ∀ (seen : Observation) (token : Uuid),
      Loan.parseReservationId rt reservation_id = .ok token →
      (∀ row ∈ seen.database.loans.rows, row.reservation_id ≠ token) →
      value (known.look seen) (none, session))
    (hfound : ∀ (seen : Observation) (row : LoanRow) (loan : Loan),
      Loan.parseReservationId rt reservation_id = .ok loan.reservation_id →
      Loaded (known.look seen) row.id.val row loan →
      value (known.look seen) (some ⟨loan, row.version, []⟩,
        session.track loan.id.val ⟨loan, row.version, []⟩))
    (herror : ∀ later raised, error later raised) :
    (getByReservationId rt reservation_id session).Reads value error known := by
  unfold getByReservationId
  apply Run.Reads.bind
  apply Uow.reads_ofExcept
  · intro token htoken
    apply Run.Reads.bind
    apply Uow.reads_get
    simp only [hempty, List.find?_nil]
    apply Run.Reads.bind
    apply Uow.reads_select
    intro seen
    apply Run.Reads.bind
    apply Uow.reads_scalarOneOrNone
    · intro hnone
      apply hmissing seen token htoken
      intro row hrow hsame
      exact List.filter_eq_nil_iff.mp hnone row hrow (decide_eq_true hsame)
    · intro row hone
      have hmem : row ∈ [row] := List.mem_singleton_self row
      rw [← hone] at hmem
      obtain ⟨hrow, htoken'⟩ := List.mem_filter.mp hmem
      apply Run.Reads.bind
      apply Uow.reads_hydrate
      · intro loan hloan
        refine hfound seen row loan ?_
          ⟨⟨seen, by simp, (seen.database.loans.mem_rows row).mp hrow⟩, hloan⟩
        rw [(LoanRow.toEntity_eq_ok_iff row loan).mp hloan] at htoken'
        rw [htoken, ← of_decide_eq_true htoken']
        rfl
      · exact fun _ => herror _ _
    · exact herror _ _
  · exact fun _ _ => herror _ _

theorem reads_getActiveLoanForBook {catalog_book_id : PyStr}
    {value : Knowledge Observation PyStr → Option (Tracked Loan) × UnitOfWork Loan → Prop}
    (hempty : session.identity_map = [])
    (hmissing : ∀ seen : Observation,
      (∀ row ∈ seen.database.loans.rows, row.outstanding = true →
        row.catalog_book_id.val ≠ catalog_book_id) →
      value (known.look seen) (none, session))
    (hfound : ∀ (seen : Observation) (row : LoanRow) (loan : Loan),
      row.outstanding = true → row.catalog_book_id.val = catalog_book_id →
      Loaded (known.look seen) row.id.val row loan →
      value (known.look seen) (some ⟨loan, row.version, []⟩,
        session.track loan.id.val ⟨loan, row.version, []⟩))
    (herror : ∀ later raised, error later raised) :
    (getActiveLoanForBook catalog_book_id session).Reads value error known := by
  unfold getActiveLoanForBook
  apply Run.Reads.bind
  apply Uow.reads_select
  intro seen
  apply Run.Reads.bind
  apply Uow.reads_scalarOneOrNone
  · intro hnone
    apply hmissing seen
    intro row hrow houtstanding hsame
    exact List.filter_eq_nil_iff.mp hnone row hrow
      (Bool.and_eq_true_iff.mpr ⟨decide_eq_true hsame, houtstanding⟩)
  · intro row hone
    have hmem : row ∈ [row] := List.mem_singleton_self row
    rw [← hone] at hmem
    obtain ⟨hrow, hcondition⟩ := List.mem_filter.mp hmem
    obtain ⟨hbook, houtstanding⟩ := Bool.and_eq_true_iff.mp hcondition
    apply Run.Reads.bind
    have hnew : session.find (Stored.key (A := Loan) row) = none := by
      rw [UnitOfWork.find, hempty]
      rfl
    apply Uow.reads_entityOf hnew
    · intro loan hloan
      exact hfound seen row loan houtstanding (of_decide_eq_true hbook)
        ⟨⟨seen, by simp, (seen.database.loans.mem_rows row).mp hrow⟩, hloan⟩
    · exact fun _ => herror _ _
  · exact herror _ _

theorem reads_countOutstandingForPatron {patron_id : PyStr}
    {value : Knowledge Observation PyStr → ℕ × UnitOfWork Loan → Prop}
    (hcount : ∀ seen : Observation, value (known.look seen)
      ((seen.database.loans.rows.filter fun row =>
        row.patron_id.val = patron_id && row.outstanding).length, session)) :
    (countOutstandingForPatron patron_id session).Reads value error known := by
  unfold countOutstandingForPatron
  apply Run.Reads.bind
  exact Uow.reads_select hcount

end LoanCommandRepository

/-- The directory shows at most one patron, whose row it reads. -/
theorem PatronBorrowerDirectoryAdapter.reads_getById {A : Type} {patron_id : PyStr}
    {known : Knowledge Observation PyStr} {session : UnitOfWork A}
    {value : Knowledge Observation PyStr → Option BorrowerProfile × UnitOfWork A → Prop}
    {error : Knowledge Observation PyStr → AppException → Prop}
    (hnone : ∀ later, value later (none, session))
    (hsome : ∀ (seen : Observation) (row : PatronRow), row ∈ seen.database.patrons.rows →
      value (known.look seen) (some (translate row), session))
    (herror : ∀ later raised, error later raised) :
    (getById patron_id session).Reads value error known := by
  apply Run.Reads.bind
  apply Uow.reads_select
  intro seen
  apply Run.Reads.bind
  apply Uow.reads_scalarOneOrNone
  · exact fun _ => hnone _
  · intro row hrows
    have hmem : row ∈ [row] := List.mem_singleton_self row
    rw [← hrows] at hmem
    exact hsome seen row (List.mem_filter.mp hmem).1
  · exact herror _ _

namespace CreateLoanHandler

/-- What is decided under the fence before the insert. -/
structure Admitted (rt : PythonRuntime) (command : CreateLoanCommand)
    (known : Knowledge Observation PyStr) (terms : BorrowingTerms) : Prop where
  fenced : command.patron_id ∈ known.held
  counted : ∃ seen ∈ known.since command.patron_id,
    (seen.database.loans.rows.filter fun row =>
      row.patron_id.val = command.patron_id && row.outstanding).length <
        terms.maxOutstandingLoans
  eligible : ∃ seen ∈ known.since command.patron_id, ∃ row ∈ seen.database.patrons.rows,
    borrowingTerms rt command (some (PatronBorrowerDirectoryAdapter.translate row)) = .ok terms

/-- A loan of the reservation was seen that agrees with the command. -/
def Existing (known : Knowledge Observation PyStr) (command : CreateLoanCommand)
    (token : Uuid) (loan : Loan) : Prop :=
  ∃ row, Loaded known row.id.val row loan ∧ mismatches command loan (uuidText token) = []

def spec (rt : PythonRuntime) (command : CreateLoanCommand) :
    CommandSpec CreateLoanResult where
  commits known batch value :=
    ∃ token terms nextId loan events draws,
      Loan.parseReservationId rt command.reservation_id = .ok token ∧
      Admitted rt command known terms ∧
      Loan.create rt nextId command.patron_id command.patron_email
        command.catalog_book_id command.book_title terms.loanDurationDays
        command.borrowed_at (uuidText token) command.reservation_generation =
          .ok (loan, events) ∧
      value = result loan ∧
      batch.Writes rt [.inserted (.loan loan) draws events []]
  returns known value :=
    ∃ token loan, Loan.parseReservationId rt command.reservation_id = .ok token ∧
      Existing known command token loan ∧ value = result loan
  raises _ _ := True

section Parts

variable {rt : PythonRuntime} {command : CreateLoanCommand}
  {known : Knowledge Observation PyStr} {session : UnitOfWork Loan} {token : Uuid}
  {raises : Knowledge Observation PyStr → AppException → Prop}

theorem replay_meets {row : LoanRow} {loan : Loan}
    (htoken : Loan.parseReservationId rt command.reservation_id = .ok token)
    (hloaded : Loaded known row.id.val row loan) (hraises : ∀ later error, raises later error) :
    Uow.Meets { spec rt command with raises := raises } known session
      (replay command loan (uuidText token)) := by
  rw [replay]
  generalize hfields : mismatches command loan (uuidText token) = fields
  cases fields with
  | nil => exact ⟨token, loan, htoken, ⟨row, hloaded, hfields⟩, rfl⟩
  | cons field rest => exact hraises _ _

theorem create_meets {outstanding_count : ℕ}
    (htoken : Loan.parseReservationId rt command.reservation_id = .ok token)
    (hempty : session.identity_map = []) (hsession : session.Shows [])
    (hfenced : command.patron_id ∈ known.held)
    (hcounted : ∃ seen ∈ known.since command.patron_id,
      (seen.database.loans.rows.filter fun row =>
        row.patron_id.val = command.patron_id && row.outstanding).length =
          outstanding_count)
    (hraises : ∀ later error, raises later error) :
    Uow.Meets { spec rt command with raises := raises } known session
      (create rt command (uuidText token) outstanding_count) := by
  unfold create
  apply Uow.Meets.bind
  apply PatronBorrowerDirectoryAdapter.reads_getById
  · exact fun _ => hraises _ _
  · intro directory patron hpatron
    dsimp only
    cases hadmit : borrowingTerms rt command
        (some (PatronBorrowerDirectoryAdapter.translate patron)) with
    | error error => exact hraises _ _
    | ok terms =>
        by_cases hlimit : terms.maxOutstandingLoans ≤ outstanding_count
        · simp only [hlimit, if_true]
          exact hraises _ _
        simp only [hlimit, if_false]
        apply Uow.Meets.bind
        apply LoanCommandRepository.reads_getActiveLoanForBook hempty
        · intro shelf _
          apply Uow.Meets.bind
          apply Uow.reads_observe
          intro drawn
          apply Uow.Meets.bind
          apply Uow.reads_ofExcept
          · rintro ⟨loan, events⟩ hcreate
            apply Uow.Meets.bind
            apply Uow.reads_create
            intro stamped
            apply Uow.meets_modify.mpr
            apply Uow.Meets.commit
            · intro staged rows hstage
              obtain ⟨counted, hmem, hcount⟩ := hcounted
              refine ⟨token, terms, uuidReference drawn.draws.uuid, loan, events,
                stamped.draws, htoken, ⟨hfenced, ⟨counted, ?_, ?_⟩, directory, ?_, patron,
                hpatron, hadmit⟩, hcreate, rfl, UnitOfWork.Shows.writes ?_ hstage⟩
              · simp [hmem]
              · omega
              · simp
              · exact hsession.save (by simp)
            · exact fun _ _ => hraises _ _
            · exact fun _ _ => hraises _ _
          · exact fun _ _ => hraises _ _
        · exact fun _ _ _ _ _ _ => hraises _ _
        · exact fun _ _ => hraises _ _
  · exact fun _ _ => hraises _ _

theorem createOrReplay_meets
    (htoken : Loan.parseReservationId rt command.reservation_id = .ok token)
    (hraises : ∀ later error, raises later error) :
    (createOrReplay rt command (uuidText token)).Meets
      { spec rt command with raises := raises } known := by
  apply Uow.meets_transaction.mpr
  apply Uow.Meets.bind
  apply LoanCommandRepository.reads_getByReservationId rfl
  · intro seen _ _ _
    apply Uow.Meets.bind
    change Run.Reads _ _ _ (.acquire command.patron_id (.pure ((), ({} : UnitOfWork Loan))))
    apply Uow.Meets.bind
    apply LoanCommandRepository.reads_countOutstandingForPatron
    intro counted
    apply Uow.Meets.bind
    apply LoanCommandRepository.reads_getByReservationId rfl
    · intro again _ _ _
      exact create_meets htoken rfl .empty (by simp) ⟨counted, by simp, rfl⟩ hraises
    · exact fun _ _ _ _ hloaded => replay_meets htoken hloaded hraises
    · exact fun _ _ => hraises _ _
  · exact fun _ _ _ _ hloaded => replay_meets htoken hloaded hraises
  · exact fun _ _ => hraises _ _

theorem reconcileConcurrentInsert_meets {conflict : AppException}
    (htoken : Loan.parseReservationId rt command.reservation_id = .ok token) :
    (reconcileConcurrentInsert rt command (uuidText token) conflict).Meets
      (spec rt command) known := by
  apply Uow.meets_transaction.mpr
  apply Uow.Meets.bind
  apply LoanCommandRepository.reads_getByReservationId rfl
  · intro seen _ _ _
    apply Uow.Meets.bind
    apply LoanCommandRepository.reads_getActiveLoanForBook rfl
    · exact fun _ _ => trivial
    · exact fun _ _ _ _ _ _ => trivial
    · exact fun _ _ => trivial
  · exact fun _ _ _ _ hloaded =>
      replay_meets htoken hloaded fun _ _ => trivial
  · exact fun _ _ => trivial

end Parts

theorem handle_meets (rt : PythonRuntime) (command : CreateLoanCommand)
    (known : Knowledge Observation PyStr) :
    (handle rt command).Meets (spec rt command) known := by
  apply Command.meets_ofExcept _ fun _ => trivial
  intro token htoken
  apply Run.Meets.tryCatch
  apply createOrReplay_meets htoken
  intro later error
  split
  · exact reconcileConcurrentInsert_meets htoken
  · exact trivial

end CreateLoanHandler

theorem Loan.returnBook_ok {loan after : Loan} {returnedAt : DateTime} {changed : Bool}
    {events : List AggregateEvent}
    (hreturn : loan.returnBook returnedAt = .ok (after, changed, events)) :
    (changed = false ∧ after = loan ∧ events = [] ∧ loan.status = .returned) ∨
      (changed = true ∧ loan.status ≠ .returned ∧ loan.status ≠ .cancelled ∧
        after.status = .returned ∧ after.id = loan.id ∧
        ∃ returned_at, after.returned_at = some returned_at) := by
  unfold Loan.returnBook at hreturn
  by_cases hreturned : loan.status = .returned
  · rw [if_pos hreturned] at hreturn
    cases hreturn
    exact Or.inl ⟨rfl, rfl, rfl, hreturned⟩
  · by_cases hcancelled : loan.status = .cancelled
    · rw [if_neg hreturned, if_pos hcancelled] at hreturn
      cases hreturn
    · rw [if_neg hreturned, if_neg hcancelled] at hreturn
      obtain ⟨returned_at, -, hrest⟩ := Result.bind_eq_ok.mp hreturn
      split at hrest
      · cases hrest
      · obtain ⟨overdue, -, hrest⟩ := Result.bind_eq_ok.mp hrest
        cases hrest
        exact Or.inr ⟨rfl, hreturned, hcancelled, rfl, rfl, returned_at, rfl⟩

namespace ReturnLoanHandler

/-- A keyed return of a loan that is already returned leaves its receipt. -/
def receiptBatch (rt : PythonRuntime) (command : ReturnLoanCommand) (key : IdempotencyKey)
    (loan : Loan) (value : ReturnLoanResult) : Batch :=
  ⟨receiptOf rt scope (some key) (commandFingerprint rt (facts command)) value,
    [⟨.loan loan, []⟩]⟩

def spec (rt : PythonRuntime) (command : ReturnLoanCommand) :
    CommandSpec ReturnLoanResult where
  commits known batch value :=
    ∃ key, ∃ row : LoanRow, ∃ loan after : Loan, ∃ changed events now returned_at,
      IdempotencyKey.parse command.idempotency_key = .ok key ∧
      Loaded known (PyStr.strip command.loan_id) row loan ∧
      loan.returnBook (.ofUtc now) = .ok (after, changed, events) ∧
      after.returned_at = some returned_at ∧ value = result after returned_at ∧
      ((changed = true ∧ ∃ draws, batch.Writes rt
          [.updated row.version (.loan after) draws events
            (receiptOf rt scope key (commandFingerprint rt (facts command)) value)]) ∨
        (changed = false ∧ ∃ given, key = some given ∧
          batch = receiptBatch rt command given after value))
  returns known value :=
    ∃ key, IdempotencyKey.parse command.idempotency_key = .ok key ∧
      (Replayed rt known scope key (commandFingerprint rt (facts command)) value ∨
        key = none ∧ ∃ row : LoanRow, ∃ loan : Loan, ∃ returned_at,
          Loaded known (PyStr.strip command.loan_id) row loan ∧
          loan.status = .returned ∧ loan.returned_at = some returned_at ∧
          value = result loan returned_at)
  raises _ _ := True

theorem handle_meets (rt : PythonRuntime) (command : ReturnLoanCommand)
    (known : Knowledge Observation PyStr) :
    (handle rt command).Meets (spec rt command) known := by
  apply Command.meets_ofExcept' _ fun _ => trivial
  intro key hkey
  apply Uow.meets_transaction.mpr
  apply Uow.Meets.bind
  apply Uow.reads_replay
  · intro later _
    apply Uow.Meets.bind
    apply Uow.reads_getById rfl
    · exact fun _ _ => trivial
    · intro seen row loan hrow hloan
      apply Uow.Meets.bind
      apply Uow.reads_now
      intro clock
      apply Uow.Meets.bind
      apply Uow.reads_ofExcept
      · rintro ⟨after, changed, events⟩ hreturn
        apply Uow.Meets.bind
        apply Uow.reads_mutate
        intro drawn
        have hloaded : ∀ last : Knowledge Observation PyStr, seen ∈ last.seen →
            Loaded last (PyStr.strip command.loan_id) row loan :=
          fun _ hseen => ⟨⟨seen, hseen, hrow⟩, hloan⟩
        dsimp only [Tracked.changed]
        cases hreturned : after.returned_at with
        | none => exact trivial
        | some returned_at =>
            obtain ⟨rfl, rfl, rfl, hstatus⟩ | ⟨rfl, -⟩ := Loan.returnBook_ok hreturn
            · apply Uow.meets_keepReceipt.mpr
              cases key with
              | none =>
                  exact ⟨none, hkey, Or.inr ⟨rfl, row, after, returned_at,
                    hloaded _ (by simp), hstatus, hreturned, rfl⟩⟩
              | some given =>
                  apply Uow.Meets.commit
                  · intro staged rows hstage
                    rw [Uow.stage_clean rfl, Except.ok.injEq] at hstage
                    subst rows
                    exact ⟨some given, row, after, after, false, [], clock.draws.now,
                      returned_at, hkey, hloaded _ (by simp), hreturn, hreturned, rfl,
                      Or.inr ⟨rfl, given, rfl, rfl⟩⟩
                  · exact fun _ _ => trivial
                  · exact fun _ _ => trivial
            · apply Uow.meets_modify.mpr
              apply Uow.meets_keepReceipt.mpr
              apply Uow.Meets.commit
              · intro staged rows hstage
                refine ⟨key, row, loan, after, true, events, clock.draws.now, returned_at,
                  hkey, hloaded _ (by simp), hreturn, hreturned, rfl,
                  Or.inl ⟨rfl, drawn.draws, UnitOfWork.Shows.writes ?_ hstage⟩⟩
                exact (UnitOfWork.shows_updated loan after row.version _ events).keep
              · exact fun _ _ => trivial
              · exact fun _ _ => trivial
      · exact fun _ _ => trivial
    · exact fun _ _ => trivial
  · exact fun _ _ hreplayed => ⟨key, hkey, Or.inl hreplayed⟩
  · exact fun _ _ => trivial

end ReturnLoanHandler

namespace ExtendLoanHandler

def spec (rt : PythonRuntime) (command : ExtendLoanCommand) :
    CommandSpec ExtendLoanResult where
  commits known batch value :=
    ∃ key, ∃ row : LoanRow, ∃ loan after : Loan, ∃ events now draws,
      IdempotencyKey.parse command.idempotency_key = .ok key ∧
      Loaded known command.loan_id row loan ∧
      loan.extend command.days (.ofUtc now) = .ok (after, events) ∧
      value = result after ∧
      batch.Writes rt [.updated row.version (.loan after) draws events
        (receiptOf rt scope key (commandFingerprint rt (facts command)) value)]
  returns known value :=
    ∃ key, IdempotencyKey.parse command.idempotency_key = .ok key ∧
      Replayed rt known scope key (commandFingerprint rt (facts command)) value
  raises _ _ := True

theorem handle_meets (rt : PythonRuntime) (command : ExtendLoanCommand)
    (known : Knowledge Observation PyStr) :
    (handle rt command).Meets (spec rt command) known := by
  apply Command.meets_ofExcept' _ fun _ => trivial
  intro key hkey
  apply Uow.meets_transaction.mpr
  apply Uow.Meets.bind
  apply Uow.reads_replay
  · intro later _
    apply Uow.Meets.bind
    apply Uow.reads_getById rfl
    · exact fun _ _ => trivial
    · intro seen row loan hrow hloan
      apply Uow.Meets.bind
      apply Uow.reads_now
      intro clock
      apply Uow.Meets.bind
      apply Uow.reads_ofExcept
      · rintro ⟨after, events⟩ hextend
        apply Uow.Meets.bind
        apply Uow.reads_mutate
        intro drawn
        apply Uow.meets_modify.mpr
        apply Uow.meets_keepReceipt.mpr
        apply Uow.Meets.commit
        · intro staged rows hstage
          refine ⟨key, row, loan, after, events, clock.draws.now, drawn.draws, hkey,
            ⟨⟨seen, by simp, hrow⟩, hloan⟩, hextend, rfl, UnitOfWork.Shows.writes ?_ hstage⟩
          exact (UnitOfWork.shows_updated loan after row.version _ events).keep
        · exact fun _ _ => trivial
        · exact fun _ _ => trivial
      · exact fun _ _ => trivial
    · exact fun _ _ => trivial
  · exact fun _ _ hreplayed => ⟨key, hkey, hreplayed⟩
  · exact fun _ _ => trivial

end ExtendLoanHandler

/-- A loan that is not cancelled by a cancellation was over before. -/
theorem Loan.cancel_idle {loan : Loan} {reason : PyStr}
    (hidle : (∃ loan_id operation,
        loan.cancel reason = .error (.lending (.loanNotActive loan_id operation))) ∨
      ∃ after events, loan.cancel reason = .ok (after, false, events)) :
    loan.status = .returned ∨ loan.status = .cancelled := by
  by_cases hcancelled : loan.status = .cancelled
  · exact Or.inr hcancelled
  by_cases hreturned : loan.status = .returned
  · exact Or.inl hreturned
  simp only [Loan.cancel, hcancelled, hreturned, if_false, dite_false] at hidle
  obtain ⟨_, _, hraised⟩ | ⟨_, _, hsame⟩ := hidle
  · obtain hfold | ⟨_, -, hnever⟩ := Result.bind_eq_error.mp hraised
    · unfold foldText at hfold
      split at hfold
      · cases hfold
      · split at hfold <;> cases hfold
    · cases hnever
  · obtain ⟨_, -, hnever⟩ := Result.bind_eq_ok.mp hsame
    cases hnever

namespace CancelLoanHandler

/-- There is nothing to cancel: no loan of the reservation was seen, or its loan was over. -/
def Idle (rt : PythonRuntime) (command : CancelLoanCommand)
    (known : Knowledge Observation PyStr) : Prop :=
  ∃ token, Loan.parseReservationId rt command.reservation_id = .ok token ∧
    ((∃ seen ∈ known.seen, ∀ row ∈ seen.database.loans.rows, row.reservation_id ≠ token) ∨
      ∃ row : LoanRow, ∃ loan : Loan, Loaded known row.id.val row loan ∧
        mismatch command loan (uuidText token) = false ∧
        (loan.status = .returned ∨ loan.status = .cancelled))

def spec (rt : PythonRuntime) (command : CancelLoanCommand) : CommandSpec Bool where
  commits known batch value :=
    ∃ token, ∃ row : LoanRow, ∃ loan after : Loan, ∃ events draws,
      Loan.parseReservationId rt command.reservation_id = .ok token ∧
      Loaded known row.id.val row loan ∧
      mismatch command loan (uuidText token) = false ∧
      loan.cancel command.reason = .ok (after, true, events) ∧ value = true ∧
      batch.Writes rt [.updated row.version (.loan after) draws events []]
  returns known value := value = false ∧ Idle rt command known
  raises _ _ := True

theorem handle_meets (rt : PythonRuntime) (command : CancelLoanCommand)
    (known : Knowledge Observation PyStr) :
    (handle rt command).Meets (spec rt command) known := by
  apply Command.meets_ofExcept _ fun _ => trivial
  intro token htoken
  apply Uow.meets_transaction.mpr
  apply Uow.Meets.bind
  apply LoanCommandRepository.reads_getByReservationId rfl
  · intro seen found hfound hmissing
    have hsame : found = token :=
      Except.ok.inj (hfound.symm.trans parseReservationId_uuidText)
    subst found
    exact ⟨rfl, token, htoken, Or.inl ⟨seen, by simp, hmissing⟩⟩
  · intro seen row loan _ hloaded
    dsimp only
    cases hmismatch : mismatch command loan (uuidText token) with
    | true => exact trivial
    | false =>
        simp only [Bool.false_eq_true, if_false]
        have hidle : ∀ later : Knowledge Observation PyStr, (known.look seen).seen ⊆ later.seen →
            loan.status = .returned ∨ loan.status = .cancelled → Idle rt command later :=
          fun _ hseen hover => ⟨token, htoken,
            Or.inr ⟨row, loan, hloaded.mono hseen, hmismatch, hover⟩⟩
        cases hcancel : loan.cancel command.reason with
        | error error =>
            split
            · rename_i hraised
              cases hraised
              exact ⟨rfl, hidle _ subset_rfl (Loan.cancel_idle (Or.inl ⟨_, _, hcancel⟩))⟩
            · exact trivial
            · rename_i hok
              cases hok
        | ok outcome =>
            obtain ⟨after, changed, events⟩ := outcome
            apply Uow.Meets.bind
            apply Uow.reads_mutate
            intro drawn
            cases changed with
            | false =>
                exact ⟨rfl, hidle _ (Set.subset_insert _ _)
                  (Loan.cancel_idle (Or.inr ⟨_, _, hcancel⟩))⟩
            | true =>
                apply Uow.meets_modify.mpr
                apply Uow.Meets.commit
                · intro staged rows hstage
                  refine ⟨token, row, loan, after, events, drawn.draws, htoken, ?_,
                    hmismatch, hcancel, rfl, UnitOfWork.Shows.writes ?_ hstage⟩
                  · exact hloaded.mono
                      ((Set.subset_insert _ _).trans (Set.subset_insert _ _))
                  · exact UnitOfWork.shows_updated loan after row.version _ events
                · exact fun _ _ => trivial
                · exact fun _ _ => trivial
  · exact fun _ _ => trivial

end CancelLoanHandler

end LibrarySystem
