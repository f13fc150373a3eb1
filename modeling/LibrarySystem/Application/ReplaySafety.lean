import LibrarySystem.Application.LoanAdmission
import LibrarySystem.Application.WorkflowHandlers
import LibrarySystem.Foundation.Verdicts

/-!
# Replays of a reservation are not rejected

A loan is rejected for good only while its reservation has none: under the fence of the
patron nobody else lends for it.  The reconciliation of a refused insert reads without the
fence, first by reservation and then by book; the runs here are those in which no loan of
the reservation is committed between the two.
-/

namespace LibrarySystem

open Run (Knowledge Watch)

/-- The reservation has a loan, outstanding or not. -/
def Database.Lends (token : Uuid) (db : Database) : Prop :=
  ∃ row ∈ db.loans.rows, row.reservation_id = token

instance (token : Uuid) (db : Database) : Decidable (db.Lends token) :=
  inferInstanceAs (Decidable (∃ row ∈ db.loans.rows, row.reservation_id = token))

/-- The error makes the reservation be released. -/
def AppException.Rejects (error : AppException) : Prop := error.rejection.isSome = true

/-! ## What a run of `CreateLoanHandler` relies on -/

/-- Lending for the reservation takes the fence of its patron. -/
def lendingWatch (patron_id : PyStr) (token : Uuid) : Watch Observation PyStr where
  lock := patron_id
  absent seen := ¬ seen.database.Lends token

section Steps

variable {A β : Type} {watch : Watch Observation PyStr} {session : UnitOfWork A}
  {raises : Prop → List PyStr → AppException → Prop} {clear : Prop} {held : List PyStr}

theorem assured_scalarOneOrNone {rows : List β}
    {stands : Command (Option β × UnitOfWork A) → Prop}
    {returns : Prop → List PyStr → Option β × UnitOfWork A → Prop}
    (hnone : rows = [] → returns clear held (none, session))
    (hsome : ∀ row, rows = [row] → returns clear held (some row, session))
    (hmany : raises clear held .multipleResults) :
    (Uow.scalarOneOrNone rows session).Assured watch stands returns raises clear held := by
  match rows with
  | [] => exact hnone rfl
  | [row] => exact hsome row rfl
  | _ :: _ :: _ => exact hmany

theorem assured_ofExcept {result : Except Raised β}
    {stands : Command (β × UnitOfWork A) → Prop}
    {returns : Prop → List PyStr → β × UnitOfWork A → Prop}
    (hvalue : ∀ value, result = .ok value → returns clear held (value, session))
    (herror : ∀ error, raises clear held (.raised error)) :
    (Uow.ofExcept result session).Assured watch stands returns raises clear held := by
  cases result with
  | ok value => exact hvalue value rfl
  | error error => exact herror error

theorem assured_get {stands : Command (UnitOfWork A × UnitOfWork A) → Prop}
    {returns : Prop → List PyStr → UnitOfWork A × UnitOfWork A → Prop}
    (hvalue : returns clear held (session, session)) :
    ((get : Uow A (UnitOfWork A)) session).Assured watch stands returns raises clear held :=
  hvalue

theorem assured_select {B : Type} [Stored B] {condition : Stored.Row B → Bool}
    {stands : Command (List (Stored.Row B) × UnitOfWork A) → Prop}
    {returns : Prop → List PyStr → List (Stored.Row B) × UnitOfWork A → Prop}
    (hvalue : ∀ (now : Prop) (seen : Observation),
      (clear → watch.lock ∈ held ∨ stands (Uow.select B condition session) → now) →
      (watch.absent seen → now) → returns now held
        ((Stored.table (A := B) seen.database).rows.filter condition, session)) :
    (Uow.select B condition session).Assured watch stands returns raises clear held := by
  intro seen
  exact hvalue _ seen (fun hclear hkept => Or.inl ⟨hclear, hkept⟩) Or.inr

theorem assured_hydrate [Stored A] {row : Stored.Row A}
    {stands : Command (Tracked A × UnitOfWork A) → Prop}
    {returns : Prop → List PyStr → Tracked A × UnitOfWork A → Prop}
    (hvalue : ∀ entity later, returns clear held (entity, later))
    (herror : ∀ error, raises clear held (.raised error)) :
    (Uow.hydrate row session).Assured watch stands returns raises clear held := by
  apply Run.Assured.bind
  apply assured_ofExcept
  · exact fun _ _ => hvalue _ _
  · exact herror

theorem assured_entityOf [Stored A] {row : Stored.Row A}
    {stands : Command (Tracked A × UnitOfWork A) → Prop}
    {returns : Prop → List PyStr → Tracked A × UnitOfWork A → Prop}
    (hvalue : ∀ entity later, returns clear held (entity, later))
    (herror : ∀ error, raises clear held (.raised error)) :
    (Uow.entityOf row session).Assured watch stands returns raises clear held := by
  unfold Uow.entityOf
  apply Run.Assured.bind
  apply assured_get
  dsimp only
  cases session.find (Stored.key row) with
  | some entity => exact hvalue _ _
  | none => exact assured_hydrate hvalue herror

end Steps

namespace LoanCommandRepository

variable {rt : PythonRuntime} {patron_id catalog_book_id : PyStr} {token : Uuid}
  {session : UnitOfWork Loan} {raises : Prop → List PyStr → AppException → Prop}
  {stands : Command (Option (Tracked Loan) × UnitOfWork Loan) → Prop}
  {returns : Prop → List PyStr → Option (Tracked Loan) × UnitOfWork Loan → Prop}
  {clear : Prop} {held : List PyStr}

/-- A reading by reservation that finds nothing shows that there is nothing. -/
theorem assured_getByReservationId (hempty : session.identity_map = [])
    (hnone : ∀ now : Prop, now → returns now held (none, session))
    (hsome : ∀ now loan later, returns now held (some loan, later))
    (herror : ∀ now error, error.rejection = none → raises now held error) :
    (getByReservationId rt (uuidText token) session).Assured (lendingWatch patron_id token)
      stands returns raises clear held := by
  unfold getByReservationId
  apply Run.Assured.bind
  apply assured_ofExcept _ fun _ => herror _ _ rfl
  intro canonical_id hparse
  rw [Loan.parseReservationId, parseReservationId_uuidText, Except.ok.injEq] at hparse
  subst canonical_id
  apply Run.Assured.bind
  apply assured_get
  simp only [hempty, List.find?_nil]
  apply Run.Assured.bind
  apply assured_select
  intro now seen _ habsent
  apply Run.Assured.bind
  apply assured_scalarOneOrNone
  · intro hrows
    apply hnone
    apply habsent
    rintro ⟨row, hrow, hsame⟩
    exact List.filter_eq_nil_iff.mp hrows row hrow (decide_eq_true hsame)
  · intro row hrows
    apply Run.Assured.bind
    exact assured_hydrate (fun _ _ => hsome _ _ _) fun _ => herror _ _ rfl
  · exact herror _ _ rfl

/-- A reading by book keeps what is known where the others are kept away. -/
theorem assured_getActiveLoanForBook {watch : Watch Observation PyStr}
    (hkept : clear → watch.lock ∈ held ∨ stands (getActiveLoanForBook catalog_book_id session))
    (hvalue : ∀ now : Prop, (clear → now) → ∀ found later, returns now held (found, later))
    (herror : ∀ now error, error.rejection = none → raises now held error) :
    (getActiveLoanForBook catalog_book_id session).Assured watch stands returns raises
      clear held := by
  unfold getActiveLoanForBook at hkept ⊢
  apply Run.Assured.bind
  apply assured_select
  intro now seen hlasts _
  have hnow : clear → now := fun hclear => hlasts hclear (hkept hclear)
  apply Run.Assured.bind
  apply assured_scalarOneOrNone
  · exact fun _ => hvalue _ hnow _ _
  · intro row _
    apply Run.Assured.bind
    exact assured_entityOf (fun _ _ => hvalue _ hnow _ _) fun _ => herror _ _ rfl
  · exact herror _ _ rfl

theorem assured_countOutstandingForPatron {watch : Watch Observation PyStr}
    {stands : Command (ℕ × UnitOfWork Loan) → Prop}
    {returns : Prop → List PyStr → ℕ × UnitOfWork Loan → Prop}
    (hcount : ∀ now count, returns now held (count, session)) :
    (countOutstandingForPatron patron_id session).Assured watch stands returns raises
      clear held := by
  unfold countOutstandingForPatron
  apply Run.Assured.bind
  apply assured_select
  exact fun _ _ _ _ => hcount _ _

end LoanCommandRepository

theorem PatronBorrowerDirectoryAdapter.assured_getById {A : Type}
    {watch : Watch Observation PyStr} {patron_id : PyStr} {session : UnitOfWork A}
    {stands : Command (Option BorrowerProfile × UnitOfWork A) → Prop}
    {returns : Prop → List PyStr → Option BorrowerProfile × UnitOfWork A → Prop}
    {raises : Prop → List PyStr → AppException → Prop} {clear : Prop} {held : List PyStr}
    (hheld : watch.lock ∈ held)
    (hvalue : ∀ now : Prop, (clear → now) → ∀ profile, returns now held (profile, session))
    (herror : ∀ now, raises now held .multipleResults) :
    (getById patron_id session).Assured watch stands returns raises clear held := by
  apply Run.Assured.bind
  apply assured_select
  intro now seen hlasts _
  have hnow : clear → now := fun hclear => hlasts hclear (Or.inl hheld)
  apply Run.Assured.bind
  apply assured_scalarOneOrNone
  · exact fun _ => hvalue _ hnow _
  · exact fun _ _ => hvalue _ hnow _
  · exact herror _

/-- The database refuses a loan with other errors than the rejections. -/
theorem Uow.rejection_translate (session : UnitOfWork Loan) (refusal : Refusal) :
    (Uow.translate session refusal).rejection = none := by
  cases refusal with
  | integrity constraint =>
      cases hfirst : session.identity_map.head? with
      | none => cases constraint <;> simp [Uow.translate, hfirst, Stored.violated] <;> rfl
      | some entry => cases constraint <;> simp [Uow.translate, hfirst, Stored.violated] <;> rfl
  | _ => rfl

theorem Uow.assured_commit {rt : PythonRuntime} {watch : Watch Observation PyStr}
    {session : UnitOfWork Loan} {stands : Command (Unit × UnitOfWork Loan) → Prop}
    {returns : Prop → List PyStr → Unit × UnitOfWork Loan → Prop}
    {raises : Prop → List PyStr → AppException → Prop} {clear : Prop} {held : List PyStr}
    (hvalue : ∀ now locks later, returns now locks ((), later))
    (herror : ∀ now locks error, error.rejection = none → raises now locks error) :
    (Uow.commit rt session).Assured watch stands returns raises clear held := by
  intro seen
  cases hstage : Uow.stageDomainEvents rt seen.draws session with
  | error error =>
      simp only [hstage]
      exact herror _ _ (.registry error) rfl
  | ok rows =>
      simp only [hstage]
      intro refusal
      cases refusal with
      | none => exact hvalue _ _ _
      | some refusal => exact herror _ _ _ (rejection_translate session refusal)

namespace CreateLoanHandler

variable {rt : PythonRuntime} {command : CreateLoanCommand} {token : Uuid}
  {clear : Prop} {held : List PyStr}

/-- A rejection is raised only while the reservation has no loan. -/
def Verdict (clear : Prop) (_ : List PyStr) (error : AppException) : Prop :=
  error.Rejects → clear

theorem Verdict.of_none {error : AppException} (herror : error.rejection = none) :
    Verdict clear held error := by
  intro hrejects
  rw [AppException.Rejects, herror] at hrejects
  cases hrejects

theorem assured_replay {watch : Watch Observation PyStr} {loan : Loan}
    {session : UnitOfWork Loan} {stands : Command (CreateLoanResult × UnitOfWork Loan) → Prop} :
    (replay command loan (uuidText token) session).Assured watch stands
      (fun _ _ _ => True) Verdict clear held := by
  unfold replay
  split
  · trivial
  · exact Verdict.of_none rfl

/-- The decisions under the fence. -/
theorem assured_create {session : UnitOfWork Loan} {outstanding_count : ℕ}
    {stands : Command (CreateLoanResult × UnitOfWork Loan) → Prop}
    (hheld : command.patron_id ∈ held) (hclear : clear) :
    (create rt command (uuidText token) outstanding_count session).Assured
      (lendingWatch command.patron_id token) stands (fun _ _ _ => True) Verdict clear held := by
  unfold create
  apply Run.Assured.bind
  apply PatronBorrowerDirectoryAdapter.assured_getById hheld
  · intro first hfirst profile
    dsimp only
    cases borrowingTerms rt command profile with
    | error error => exact fun _ => hfirst hclear
    | ok terms =>
        dsimp only
        by_cases hlimit : terms.maxOutstandingLoans ≤ outstanding_count
        · simp only [hlimit, if_true]
          exact fun _ => hfirst hclear
        simp only [hlimit, if_false]
        apply Run.Assured.bind
        apply LoanCommandRepository.assured_getActiveLoanForBook fun _ => Or.inl hheld
        · intro second hsecond found later
          cases found with
          | some loan => exact fun _ => hsecond (hfirst hclear)
          | none =>
              apply Run.Assured.bind
              intro drawn
              apply Run.Assured.bind
              apply assured_ofExcept
              · rintro ⟨loan, events⟩ -
                apply Run.Assured.bind
                intro stamped
                change Run.Assured _ _ _ _ _ _ (Uow.commit rt _ >>= _)
                apply Run.Assured.bind
                apply Uow.assured_commit
                · exact fun _ _ _ => trivial
                · exact fun _ _ _ herror => Verdict.of_none herror
              · exact fun _ => Verdict.of_none rfl
        · exact fun _ _ herror => Verdict.of_none herror
  · exact fun _ => Verdict.of_none rfl

theorem assured_createOrReplay {stands : Command CreateLoanResult → Prop} :
    (createOrReplay rt command (uuidText token)).Assured
      (lendingWatch command.patron_id token) stands (fun _ _ _ => True) Verdict clear [] := by
  apply Run.Assured.bind
  apply Run.Assured.bind
  apply LoanCommandRepository.assured_getByReservationId rfl
  · intro _ _
    change Run.Assured _ _ _ _ _ _ (Uow.acquireBorrowingFence command.patron_id {} >>= _)
    apply Run.Assured.bind
    apply Run.Assured.bind
    apply LoanCommandRepository.assured_countOutstandingForPatron
    intro _ outstanding_count
    apply Run.Assured.bind
    apply LoanCommandRepository.assured_getByReservationId rfl
    · intro now hnow
      apply assured_create List.mem_cons_self hnow
    · exact fun _ _ _ => assured_replay
    · exact fun _ _ herror => Verdict.of_none herror
  · exact fun _ _ _ => assured_replay
  · exact fun _ _ herror => Verdict.of_none herror

/-- What is left of `_reconcile_concurrent_insert` when the reading by reservation has
found nothing. -/
def readActiveLoan (command : CreateLoanCommand) (conflict : AppException) :
    Command CreateLoanResult :=
  Uow.transaction (A := Loan) do
    let winner ← LoanCommandRepository.getActiveLoanForBook command.catalog_book_id
    match winner with
    | some _ => Uow.raise (.bookNotAvailable command.catalog_book_id)
    | none => Uow.raise conflict

theorem assured_reconcileConcurrentInsert {conflict : AppException}
    {stands : Command CreateLoanResult → Prop} (hconflict : conflict.rejection = none)
    (hstands : stands (readActiveLoan command conflict)) :
    (reconcileConcurrentInsert rt command (uuidText token) conflict).Assured
      (lendingWatch command.patron_id token) stands (fun _ _ _ => True) Verdict clear held := by
  apply Run.Assured.bind
  apply Run.Assured.bind
  apply LoanCommandRepository.assured_getByReservationId rfl
  · intro now hnow
    apply Run.Assured.bind
    apply LoanCommandRepository.assured_getActiveLoanForBook fun _ => Or.inr hstands
    · intro later hlater found _
      cases found with
      | some loan => exact fun _ => hlater hnow
      | none => exact Verdict.of_none hconflict
    · exact fun _ _ herror => Verdict.of_none herror
  · exact fun _ _ _ => assured_replay
  · exact fun _ _ herror => Verdict.of_none herror

/-- The program stands between the two readings of `_reconcile_concurrent_insert`. -/
def BetweenReads (command : CreateLoanCommand) (program : Command Answered) : Prop :=
  ∃ conflict, program = readActiveLoan command conflict >>= fun value =>
    .pure (Request.answer (.circulation (.createLoan command)) value)

/-- The program of a request rejects only while its reservation has no loan. -/
theorem program_careful
    (htoken : Loan.parseReservationId rt command.reservation_id = .ok token) :
    (Request.program rt (.circulation (.createLoan command))).Careful
      (lendingWatch command.patron_id token) (BetweenReads command) AppException.Rejects
      clear [] := by
  apply Run.Assured.bind
  change Run.Assured _ _ _ _ _ _ (handle rt command)
  unfold handle
  rw [htoken]
  apply Run.Assured.tryCatch
  apply Run.Assured.imp assured_createOrReplay
  · exact fun _ _ _ _ _ _ => trivial
  · intro first second locks error hlasts hverdict
    split
    · apply Run.Assured.imp (assured_reconcileConcurrentInsert rfl ⟨_, rfl⟩)
      · exact fun _ _ _ _ _ _ => trivial
      · exact fun _ _ _ _ hmore hold hrejects => hmore (hold hrejects)
      · exact id
    · exact fun hrejects => hlasts (hverdict hrejects)
  · exact id

end CreateLoanHandler

/-! ## Who lends for a reservation -/

section Lending

variable {rt : PythonRuntime} {request : Request} {token : Uuid}
  {known : Knowledge Observation PyStr} {batch : Batch} {db after : Database}
  {past : Set Database}

theorem Database.lends_insert {row : LoanRow} (hloans : after.loans = db.loans.insert row)
    (hlends : after.Lends token) : db.Lends token ∨ row.reservation_id = token := by
  obtain ⟨found, hfound, hsame⟩ := hlends
  rw [hloans] at hfound
  rcases (Database.mem_rows_insert _ _ _).mp hfound with rfl | ⟨-, hold⟩
  · exact Or.inr hsame
  · exact Or.inl ⟨found, hold, hsame⟩

/-- A reservation gets its loan from a run of `CreateLoanHandler` under the fence. -/
theorem Request.lends_under_fence {value : request.Result}
    (hcommits : (request.spec rt).commits known batch value)
    (hviewed : Interleaving.Viewed (commandSide rt) past known)
    (hloans : Latest Loan past db) (hpatrons : Latest Patron past db)
    (heffects : Database.Effects db batch.statements after)
    (hlends : after.Lends token) (hnew : ¬ db.Lends token) :
    ∃ command, request = .circulation (.createLoan command) ∧
      Loan.parseReservationId rt command.reservation_id = .ok token ∧
        command.patron_id ∈ known.held := by
  have hkept : after.loans ≠ db.loans := by
    intro hsame
    rw [Database.Lends, hsame] at hlends
    exact hnew hlends
  cases Request.loanStep hcommits hviewed hloans hpatrons heffects with
  | quiet _ hsame => exact absurd hsame hkept
  | registered _ _ _ hsame => exact absurd hsame hkept
  | policy _ _ _ _ _ _ hsame => exact absurd hsame hkept
  | moved row loan _ hrow _ _ _ hinserted =>
      rcases Database.lends_insert hinserted hlends with hold | hsame
      · exact absurd hold hnew
      · exact absurd ⟨row, (db.loans.mem_rows row).mpr hrow, hsame⟩ hnew
  | lent command _ _ hrequest =>
      subst request
      obtain ⟨given, terms, _, loan, _, _, hgiven, hadmitted, hcreate, -, hwrites⟩ := hcommits
      obtain ⟨middle, hfirst, hafter, -⟩ := hwrites.effect Piece.inserted_plain heffects
      cases hfirst with
      | insertLoan _ _ _ _ =>
          rcases Database.lends_insert hafter hlends with hold | hsame
          · exact absurd hold hnew
          · have hparse := (Loan.create_fields hcreate).1
            rw [Loan.parseReservationId, parseReservationId_uuidText, Except.ok.injEq] at hparse
            have htoken : given = token := hparse.trans hsame
            exact ⟨command, rfl, htoken ▸ hgiven, hadmitted.fenced⟩

end Lending

/-! ## Runs -/

/-- A reservation is one patron's. -/
def Request.NamesPatron (rt : PythonRuntime) (patronOf : Uuid → PyStr) (request : Request) :
    Prop :=
  ∀ command token, request = .circulation (.createLoan command) →
    Loan.parseReservationId rt command.reservation_id = .ok token →
      command.patron_id = patronOf token

/-- A run for the reservation stands between the two readings of its reconciliation. -/
def Interleaving.Thread.Reconciles (rt : PythonRuntime) (token : Uuid)
    (thread : Thread Request Observation PyStr Batch Refusal AppException Answered) : Prop :=
  ∃ command run, thread.request = .circulation (.createLoan command) ∧
    Loan.parseReservationId rt command.reservation_id = .ok token ∧
      thread.rest = some run ∧ CreateLoanHandler.BetweenReads command run

/-- No step gives a reservation its loan while another run reconciles for it. -/
structure Unreconciled (rt : PythonRuntime) (patronOf : Uuid → PyStr) (world : CommandWorld)
    (action : Interleaving.Action Request Database Draws) : Prop where
  allowed : Interleaving.Allowed (fun _ request => request.NamesPatron rt patronOf) Upkeep
    world action
  apart : ∀ after token, Interleaving.World.step (commandSide rt) world action = some after →
    after.shared.Lends token → ¬ world.shared.Lends token →
      ∀ thread ∈ world.threads, ¬ thread.Reconciles rt token

/-- The worlds of the runs in which no reservation gets its loan between the two readings of
a reconciliation for it. -/
def ReplaySide (rt : PythonRuntime) (patronOf : Uuid → PyStr) (start : Database)
    (world : CommandWorld) : Prop :=
  (Interleaving.machine (commandSide rt) (· = start)).ReachableUnder
    (Unreconciled rt patronOf) world

/-- Every run of `CreateLoanHandler` that is not over is careful. -/
def Vigilant (rt : PythonRuntime) (world : CommandWorld) : Prop :=
  ∀ thread ∈ world.threads, ∀ command token,
    thread.request = .circulation (.createLoan command) →
      Loan.parseReservationId rt command.reservation_id = .ok token →
        thread.Careful (lendingWatch command.patron_id token)
          (CreateLoanHandler.BetweenReads command) AppException.Rejects
          (¬ world.shared.Lends token)

section Runs

variable {rt : PythonRuntime} {patronOf : Uuid → PyStr} {start : Database}
  {world after : CommandWorld} {action : Interleaving.Action Request Database Draws}

theorem ReplaySide.commandSide (hreach : ReplaySide rt patronOf start world) :
    CommandSide rt (· = start) world := by
  refine hreach.mono fun world action hallowed => ?_
  cases action with
  | change state => exact hallowed.allowed
  | _ => trivial

theorem ReplaySide.sane (hreach : ReplaySide rt patronOf start world) :
    world.Sane (LibrarySystem.commandSide rt) (Request.outcome rt)
      fun _ request => request.NamesPatron rt patronOf :=
  Interleaving.reachable_sane (fun _ request _ => request.program_meets rt .nothing)
    (hreach.mono fun _ _ hallowed => hallowed.allowed)

/-- A step of a run of `CreateLoanHandler`, rejecting only what is not there. -/
theorem Vigilant.advance {i : ℕ} {command : CreateLoanCommand} {token : Uuid}
    {thread moved : Interleaving.Thread Request Observation PyStr Batch Refusal AppException
      Answered}
    (hvigilant : Vigilant rt world) (hthread : world.threads[i]? = some thread)
    (hmoves : Interleaving.Advance (LibrarySystem.commandSide rt) world i thread moved)
    (hrequest : moved.request = .circulation (.createLoan command))
    (htoken : Loan.parseReservationId rt command.reservation_id = .ok token) :
    moved.Careful (lendingWatch command.patron_id token)
        (CreateLoanHandler.BetweenReads command) AppException.Rejects
        (¬ world.shared.Lends token) ∧
      ∀ error, moved.rest = some (.raise error) → error.Rejects →
        ¬ world.shared.Lends token := by
  have hsame : moved.request = thread.request := by
    cases hmoves <;> rfl
  have hlook : ∀ draw, (lendingWatch command.patron_id token).absent
      ((LibrarySystem.commandSide rt).look world.shared draw) → ¬ world.shared.Lends token :=
    fun _ habsent => habsent
  exact (hvigilant thread (List.mem_of_getElem? hthread) command token (hsame ▸ hrequest)
    htoken).advance hlook hmoves

theorem Vigilant.put {i : ℕ}
    {thread moved : Interleaving.Thread Request Observation PyStr Batch Refusal AppException
      Answered}
    (hvigilant : Vigilant rt world) (hthread : world.threads[i]? = some thread)
    (hmoves : Interleaving.Advance (LibrarySystem.commandSide rt) world i thread moved) :
    Vigilant rt (world.put i moved) := by
  intro other hother command token hrequest htoken
  rcases List.mem_or_eq_of_mem_set hother with hold | rfl
  · exact hvigilant other hold command token hrequest htoken
  · exact (hvigilant.advance hthread hmoves hrequest htoken).1

/-- A loan that is committed for a reservation surprises no other run for it. -/
theorem Vigilant.land {i : ℕ} {state : Database} {batch : Batch} {answer : Answered}
    {acknowledged : Bool}
    {thread : Interleaving.Thread Request Observation PyStr Batch Refusal AppException Answered}
    (hvigilant : Vigilant rt world)
    (hothers : ∀ token, state.Lends token → ¬ world.shared.Lends token →
      ∀ j other, world.threads[j]? = some other → i ≠ j → ∀ command,
        other.request = .circulation (.createLoan command) →
          Loan.parseReservationId rt command.reservation_id = .ok token →
            command.patron_id ∉ other.locks ∧ ¬ other.Reconciles rt token) :
    Vigilant rt (world.land i thread batch (.pure answer) acknowledged state) := by
  intro other hother command token hrequest htoken
  obtain ⟨j, hj⟩ := List.getElem?_of_mem hother
  simp only [Interleaving.World.land, List.getElem?_set] at hj
  split at hj
  · split at hj
    · cases hj
      intro run hrun _
      cases acknowledged with
      | true =>
          cases hrun
          trivial
      | false => cases hrun
    · cases hj
  · rename_i hij
    have hcareful := hvigilant other (List.mem_of_getElem? hj) command token hrequest htoken
    by_cases hlends : state.Lends token
    · apply (hcareful.forget fun hnew => ?_).mono False.elim
      obtain ⟨hlocks, hapart⟩ := hothers token hlends hnew j other hj hij command hrequest htoken
      exact ⟨hlocks, fun run hrun hstands =>
        hapart ⟨command, run, hrequest, htoken, hrun, hstands⟩⟩
    · exact hcareful.mono fun _ => hlends

theorem ReplaySide.vigilant (hreach : ReplaySide rt patronOf start world) :
    Vigilant rt world := by
  induction hreach with
  | start hinitial =>
      obtain ⟨-, hthreads, -⟩ := hinitial
      intro thread hthread
      rw [hthreads] at hthread
      cases hthread
  | @next before _ action hbefore hallowed hstep ih =>
      rcases Interleaving.step_cases hstep with ⟨request, rfl, rfl⟩ |
        ⟨i, thread, moved, hthread, hmoves, rfl⟩ |
        ⟨i, thread, batch, next, acknowledged, state, hthread, hrest, happly, rfl⟩ |
        ⟨state, rfl, rfl⟩
      · intro thread hthread command token hrequest htoken
        rcases List.mem_append.mp hthread with hold | hnew
        · exact ih thread hold command token hrequest htoken
        · rw [List.mem_singleton.mp hnew] at hrequest ⊢
          cases hrequest
          intro run hrun _
          cases hrun
          exact CreateLoanHandler.program_careful htoken
      · exact ih.put hthread hmoves
      · have hsane := ReplaySide.sane hbefore
        have hmem := List.mem_of_getElem? hthread
        have hthreadSane := hsane.threads thread hmem
        obtain ⟨answer, hanswer, value, -, hcommits⟩ := hsane.committing hmem hrest
        have hhistory := ReplaySide.commandSide hbefore
        rw [hanswer]
        apply ih.land
        intro token hlends hnew j other hother hij command hrequest htoken
        obtain ⟨lending, hlending, htoken', hfence⟩ := Request.lends_under_fence hcommits
          hthreadSane.viewed (hhistory.historic (A := Loan)).latest
          (hhistory.historic (A := Patron)).latest (Database.runAll_effects happly) hlends hnew
        obtain ⟨_, -, hadmitted⟩ := hthreadSane.admitted
        obtain ⟨_, -, hother'⟩ := (hsane.threads other (List.mem_of_getElem? hother)).admitted
        have hpatron : command.patron_id = lending.patron_id :=
          (hother' command token hrequest htoken).trans
            (hadmitted lending token hlending htoken').symm
        have hlocks : thread.locks = thread.knowledge.held := by
          simp only [Interleaving.Thread.locks, hrest]
        constructor
        · rw [hpatron]
          exact hsane.exclusive i j thread other lending.patron_id hthread hother hij
            (hlocks ▸ hfence)
        · exact hallowed.apart _ token hstep hlends hnew other (List.mem_of_getElem? hother)
      · intro thread hthread command token hrequest htoken
        apply (ih thread hthread command token hrequest htoken).mono
        rw [Database.Lends, Database.Lends, hallowed.allowed.loans]
        exact id

end Runs

/-- Where no reservation gets its loan between the two readings of a reconciliation for it,
a run of `CreateLoanHandler` is rejected only while its reservation has no loan, so that
the outstanding loan of the book that it saw, if any, is of another one. -/
theorem valid_replay_not_rejected {rt : PythonRuntime} {patronOf : Uuid → PyStr}
    {start : Database} {world after : CommandWorld}
    {action : Interleaving.Action Request Database Draws} {i : ℕ}
    {thread : Interleaving.Thread Request Observation PyStr Batch Refusal AppException Answered}
    {command : CreateLoanCommand} {token : Uuid} {error : AppException}
    (hreach : ReplaySide rt patronOf start world)
    (hstep : Interleaving.World.step (commandSide rt) world action = some after)
    (hthread : after.threads[i]? = some thread)
    (hrequest : thread.request = .circulation (.createLoan command))
    (htoken : Loan.parseReservationId rt command.reservation_id = .ok token)
    (hraised : thread.rest = some (.raise error)) (hrejects : error.Rejects)
    (hdecided : ∀ earlier, world.threads[i]? = some earlier →
      earlier.rest ≠ some (.raise error)) :
    after.shared = world.shared ∧ ¬ world.shared.Lends token ∧
      ∀ row ∈ world.shared.loans.rows, row.outstanding = true →
        row.catalog_book_id.val = command.catalog_book_id → row.reservation_id ≠ token := by
  have hnone : after.shared = world.shared ∧ ¬ world.shared.Lends token := by
    rcases Interleaving.step_cases hstep with ⟨request, rfl, rfl⟩ |
      ⟨j, earlier, moved, hearlier, hmoves, rfl⟩ |
      ⟨j, earlier, batch, next, acknowledged, state, hearlier, hrest, happly, rfl⟩ |
      ⟨state, rfl, rfl⟩
    · simp only [List.getElem?_append] at hthread
      split at hthread
      · exact absurd hraised (hdecided thread hthread)
      · have hbegun : thread = Interleaving.Thread.begin (commandSide rt) request :=
          List.mem_singleton.mp (List.mem_of_getElem? hthread)
        rw [hbegun] at hrequest hraised
        cases hrequest
        have hcareful : (Request.program rt _).Careful _ _ _ False [] :=
          CreateLoanHandler.program_careful htoken
        rw [show Request.program rt _ = .raise error from Option.some.inj hraised] at hcareful
        exact absurd hrejects hcareful
    · simp only [Interleaving.World.put, List.getElem?_set] at hthread
      split at hthread
      · split at hthread
        · cases hthread
          exact ⟨rfl, (hreach.vigilant.advance hearlier hmoves hrequest htoken).2 error hraised
            hrejects⟩
        · cases hthread
      · exact absurd hraised (hdecided thread hthread)
    · simp only [Interleaving.World.land, List.getElem?_set] at hthread
      split at hthread
      · split at hthread
        · cases hthread
          obtain ⟨answer, hanswer, -⟩ :=
            hreach.sane.committing (List.mem_of_getElem? hearlier) hrest
          cases acknowledged with
          | true => cases hanswer.symm.trans (Option.some.inj hraised)
          | false => cases hraised
        · cases hthread
      · exact absurd hraised (hdecided thread hthread)
    · exact absurd hraised (hdecided thread hthread)
  exact ⟨hnone.1, hnone.2, fun row hrow _ _ hsame => hnone.2 ⟨row, hrow, hsame⟩⟩

/-! ## Two displayed runs -/

def secondPatron : Patron where
  name :=
    ⟨⟨py "Bob", by decide, by decide, by decide⟩,
      ⟨py "Ray", by decide, by decide, by decide⟩⟩
  email := ⟨py "bob@ray.org", by decide, by decide, by decide⟩
  registered_at := 0
  id := uuidReference 4
  membership_tier := .regular
  suspended_reason := none

/-- Two patrons and one book. -/
def pairedDatabase : Database :=
  { sampleDatabase with patrons := sampleDatabase.patrons.insert (.ofEntity secondPatron 0) }

def pairedWorld : CommandWorld := ⟨pairedDatabase, [], [], {pairedDatabase}⟩

/-- An older reservation of the same book. -/
def olderLoanCommand : CreateLoanCommand :=
  { sampleLoanCommand with
    reservation_id := uuidText 6
    patron_id := uuidText 4
    patron_email := py "bob@ray.org" }

def olderCancellation : CancelLoanCommand where
  reservation_id := uuidText 6
  reservation_generation := 1
  patron_id := uuidText 4
  catalog_book_id := uuidText 1
  reason := py "reservation is over"
  expected_loan_id := none

def olderDraws : Draws := { secondDraws with uuid := 8 }

theorem cancellationEvent_isIdentity : isIdentity (py "event-3") = true := by decide

def cancellationDraws : Draws :=
  { sampleDraws with
    metadata := fun _ => { sampleMetadata with
      event_id := ⟨py "event-3", cancellationEvent_isIdentity⟩ } }

/-- A run for the reservation is refused its insert, since the older loan was first, and
looks for its reservation. -/
def refusedRun : List (Interleaving.Action Request Database Draws) :=
  [.start (.circulation (.createLoan sampleLoanCommand)),
    .start (.circulation (.createLoan olderLoanCommand)), .observe 0 sampleDraws, .acquire 0] ++
    List.replicate 7 (.observe 0 sampleDraws) ++ [.observe 1 olderDraws, .acquire 1] ++
    List.replicate 7 (.observe 1 olderDraws) ++ [.commit 1 true, .commit 0 true,
      .observe 0 sampleDraws]

/-- Meanwhile the older loan is cancelled and another run for the reservation lends. -/
def overtakenRun : List (Interleaving.Action Request Database Draws) :=
  refusedRun ++ [.start (.circulation (.cancelLoan olderCancellation))] ++
    List.replicate 3 (.observe 2 cancellationDraws) ++ [.commit 2 true,
      .start (.circulation (.createLoan sampleLoanCommand)), .observe 3 sampleDraws,
      .acquire 3] ++ List.replicate 7 (.observe 3 sampleDraws) ++ [.commit 3 true]

def samplePatronOf (token : Uuid) : PyStr := if token = 5 then uuidText 2 else uuidText 4

/-- The reservation a request lends for, with the patron it names. -/
def Request.lendsFor : Request → Option (Uuid × PyStr)
  | .circulation (.createLoan command) =>
      (Loan.parseReservationId asciiRuntime command.reservation_id).toOption.map fun token =>
        (token, command.patron_id)
  | _ => none

theorem Request.lendsFor_eq_some {request : Request} {token : Uuid} {patron_id : PyStr}
    (hlends : request.lendsFor = some (token, patron_id)) :
    ∃ command, request = .circulation (.createLoan command) ∧
      Loan.parseReservationId asciiRuntime command.reservation_id = .ok token := by
  unfold Request.lendsFor at hlends
  split at hlends
  · rename_i command
    obtain ⟨found, hfound, hpair⟩ := Option.map_eq_some_iff.mp hlends
    cases hpair
    exact ⟨command, rfl, Result.ok_of_toOption hfound⟩
  · cases hlends

/-- A step of the requests alone, each naming the patron of its reservation. -/
def namesPatrons (_ : CommandWorld) : Interleaving.Action Request Database Draws → Bool
  | .start request => request.lendsFor.all fun pair => pair.2 = samplePatronOf pair.1
  | .change _ => false
  | _ => true

theorem namesPatrons_allowed {world : CommandWorld}
    {action : Interleaving.Action Request Database Draws}
    (hnames : namesPatrons world action = true) :
    Interleaving.Allowed (fun _ request => request.NamesPatron asciiRuntime samplePatronOf) Upkeep
      world action := by
  cases action with
  | start request =>
      rintro command token rfl htoken
      simp only [namesPatrons, Request.lendsFor, htoken, Except.toOption, Option.map_some,
        Option.all_some, decide_eq_true_eq] at hnames
      exact hnames
  | change state => cases hnames
  | _ => trivial

def Interleaving.Thread.observes
    (thread : Thread Request Observation PyStr Batch Refusal AppException Answered) : Bool :=
  match thread.rest with
  | some (.observe _) => true
  | _ => false

/-- While a reservation gets its loan, nobody is about to look. -/
def lendsUnseen (world : CommandWorld) (action : Interleaving.Action Request Database Draws) :
    Bool :=
  namesPatrons world action &&
    (Interleaving.World.step (commandSide asciiRuntime) world action).all fun after =>
      (after.shared.loans.rows.all fun row => decide (world.shared.Lends row.reservation_id)) ||
        world.threads.all fun thread => !thread.observes

theorem lendsUnseen_unreconciled {world : CommandWorld}
    {action : Interleaving.Action Request Database Draws}
    (hunseen : lendsUnseen world action = true) :
    Unreconciled asciiRuntime samplePatronOf world action := by
  obtain ⟨hnames, hafter⟩ := Bool.and_eq_true_iff.mp hunseen
  refine ⟨namesPatrons_allowed hnames, fun after token hstep hlends hnew thread hthread => ?_⟩
  simp only [hstep, Option.all_some, Bool.or_eq_true, List.all_eq_true, decide_eq_true_eq,
    Bool.not_eq_true'] at hafter
  rintro ⟨command, run, -, -, hrest, conflict, rfl⟩
  rcases hafter with hold | hquiet
  · obtain ⟨row, hrow, rfl⟩ := hlends
    exact hnew (hold row hrow)
  · have hobserves : thread.observes = true := by
      rw [Interleaving.Thread.observes, hrest]
      rfl
    rw [hquiet thread hthread] at hobserves
    cases hobserves

def Interleaving.Thread.rejected
    (thread : Thread Request Observation PyStr Batch Refusal AppException Answered) : Bool :=
  match thread.rest with
  | some (.raise error) => error.rejection.isSome
  | _ => false

theorem Interleaving.Thread.raise_of_rejected
    {thread : Thread Request Observation PyStr Batch Refusal AppException Answered}
    (hrejected : thread.rejected = true) :
    ∃ error, thread.rest = some (.raise error) ∧ error.Rejects := by
  unfold Interleaving.Thread.rejected at hrejected
  split at hrejected
  · rename_i error hrest
    exact ⟨error, hrest, hrejected⟩
  · cases hrejected

/-- The first run is rejected for the reservation at the next step. -/
def rejectedNext (world : CommandWorld) : Bool :=
  (world.threads[0]?.all fun earlier => !earlier.rejected) &&
    (Interleaving.World.step (commandSide asciiRuntime) world (.observe 0 sampleDraws)).any
      fun after => after.threads[0]?.any fun thread =>
        thread.rejected && decide (thread.request.lendsFor = some (5, uuidText 2))

theorem rejectedNext_step {world : CommandWorld} (hnext : rejectedNext world = true) :
    ∃ after thread command error,
      Interleaving.World.step (commandSide asciiRuntime) world (.observe 0 sampleDraws) =
        some after ∧
      after.threads[0]? = some thread ∧ thread.request = .circulation (.createLoan command) ∧
      Loan.parseReservationId asciiRuntime command.reservation_id = .ok 5 ∧
      thread.rest = some (.raise error) ∧ error.Rejects ∧
      ∀ earlier, world.threads[0]? = some earlier → earlier.rest ≠ some (.raise error) := by
  obtain ⟨hbefore, hafter⟩ := Bool.and_eq_true_iff.mp hnext
  obtain ⟨after, hstep, hthread⟩ := (Option.any_eq_true _ _).mp hafter
  obtain ⟨thread, hthread, hfields⟩ := (Option.any_eq_true _ _).mp hthread
  obtain ⟨hrejected, hlends⟩ := Bool.and_eq_true_iff.mp hfields
  obtain ⟨command, hrequest, htoken⟩ := Request.lendsFor_eq_some (of_decide_eq_true hlends)
  obtain ⟨error, hrest, hrejects⟩ := Interleaving.Thread.raise_of_rejected hrejected
  refine ⟨after, thread, command, error, hstep, hthread, hrequest, htoken, hrest, hrejects,
    fun earlier hearlier hsame => ?_⟩
  simp only [hearlier, Option.all_some, Interleaving.Thread.rejected, hsame,
    Bool.not_eq_true'] at hbefore
  rw [AppException.Rejects, hbefore] at hrejects
  cases hrejects

theorem pairedWorld_initial :
    (Interleaving.machine (commandSide asciiRuntime) (· = pairedDatabase)).initial pairedWorld :=
  ⟨rfl, rfl, rfl, rfl⟩

theorem valid_replay_not_rejected_conflict :
    ∃ (world after : CommandWorld) (error : AppException), error.Rejects ∧
      (∃ thread ∈ after.threads, thread.rest = some (.raise error)) ∧
      ¬ world.shared.Lends 5 ∧ world.shared.Lends 6 := by
  have hresult : ((Interleaving.machine (commandSide asciiRuntime)
      (· = pairedDatabase)).executeUnder lendsUnseen pairedWorld refusedRun).any (fun world =>
        rejectedNext world && decide (world.shared.Lends 6)) = true := by
    decide +kernel
  obtain ⟨world, hrun, hfields⟩ := (Option.any_eq_true _ _).mp hresult
  obtain ⟨hnext, hlends⟩ := Bool.and_eq_true_iff.mp hfields
  obtain ⟨after, thread, command, error, hstep, hthread, hrequest, htoken, hrest, hrejects,
    hdecided⟩ := rejectedNext_step hnext
  have hreach : ReplaySide asciiRuntime samplePatronOf pairedDatabase world :=
    (Machine.ReachableUnder.executeUnder (.start pairedWorld_initial) hrun).mono
      fun _ _ => lendsUnseen_unreconciled
  obtain ⟨-, hnone, -⟩ := valid_replay_not_rejected hreach hstep hthread hrequest htoken hrest
    hrejects hdecided
  exact ⟨world, after, error, hrejects, ⟨thread, List.mem_of_getElem? hthread, hrest⟩, hnone,
    of_decide_eq_true hlends⟩

/-- Without the condition a run is rejected for the loan of its own reservation. -/
theorem replay_rejected_between_reads :
    ∃ (world after : CommandWorld)
      (thread : Interleaving.Thread Request Observation PyStr Batch Refusal AppException Answered)
      (command : CreateLoanCommand) (error : AppException),
      (Interleaving.machine (commandSide asciiRuntime) (· = pairedDatabase)).ReachableUnder
        (Interleaving.Allowed (fun _ request => request.NamesPatron asciiRuntime samplePatronOf)
          Upkeep) world ∧
      Interleaving.World.step (commandSide asciiRuntime) world (.observe 0 sampleDraws) =
        some after ∧
      after.threads[0]? = some thread ∧ thread.request = .circulation (.createLoan command) ∧
      Loan.parseReservationId asciiRuntime command.reservation_id = .ok 5 ∧
      thread.rest = some (.raise error) ∧ error.Rejects ∧
      (∀ earlier, world.threads[0]? = some earlier → earlier.rest ≠ some (.raise error)) ∧
      ∃ row ∈ world.shared.loans.rows, row.outstanding = true ∧
        row.catalog_book_id.val = uuidText 1 ∧ row.reservation_id = 5 := by
  have hresult : ((Interleaving.machine (commandSide asciiRuntime)
      (· = pairedDatabase)).executeUnder namesPatrons pairedWorld overtakenRun).any (fun world =>
        rejectedNext world && world.shared.loans.rows.any fun row => row.outstanding &&
          decide (row.catalog_book_id.val = uuidText 1 ∧ row.reservation_id = 5)) = true := by
    decide +kernel
  obtain ⟨world, hrun, hfields⟩ := (Option.any_eq_true _ _).mp hresult
  obtain ⟨hnext, hloan⟩ := Bool.and_eq_true_iff.mp hfields
  obtain ⟨after, thread, command, error, hstep⟩ := rejectedNext_step hnext
  simp only [List.any_eq_true, Bool.and_eq_true, decide_eq_true_eq] at hloan
  have hreach := (Machine.ReachableUnder.executeUnder (.start pairedWorld_initial) hrun).mono
    fun _ _ => namesPatrons_allowed
  obtain ⟨hmoves, hthread, hrequest, htoken, hrest, hrejects, hdecided⟩ := hstep
  exact ⟨world, after, thread, command, error, hreach, hmoves, hthread, hrequest, htoken, hrest,
    hrejects, hdecided, hloan⟩

end LibrarySystem
