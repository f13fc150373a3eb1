import LibrarySystem.Application.Lineage
import LibrarySystem.Application.Reservations

/-!
# Loan admission

Whoever creates a loan or changes a patron holds the borrowing fence of that patron.  So
what was read under the fence still stands, or errs on the safe side, when the loan is
inserted: the limit of the tier is never passed and no suspended patron gets a loan.
-/

namespace LibrarySystem

open Run (Knowledge)

namespace Table

variable {Row : Type} {id : Row → PyStr}

theorem rows_insert_new (table : Table Row id) {row : Row}
    (hnew : table.lookup (id row) = none) : (table.insert row).rows = row :: table.rows := by
  have hnotMem : id row ∉ table.entries := AList.lookup_eq_none.mp hnew
  simp only [rows, insert, AList.entries_insert_of_notMem hnotMem, List.map_cons]

theorem rows_insert_old (table : Table Row id) {row old : Row}
    (hold : table.lookup (id row) = some old) :
    ∃ others, table.rows.Perm (old :: others) ∧ (table.insert row).rows = row :: others := by
  have hmem : (⟨id row, old⟩ : Sigma fun _ : PyStr => Row) ∈ table.entries.entries :=
    AList.mem_lookup_iff.mp hold
  obtain ⟨found, before, after, -, hentries, hkerase⟩ :=
    List.exists_of_kerase (List.mem_keys_of_mem hmem)
  have hfound : (⟨id row, found⟩ : Sigma fun _ : PyStr => Row) ∈ table.entries.entries := by
    simp [hentries]
  have hsame : found = old :=
    Option.some.inj ((AList.mem_lookup_iff.mpr hfound).symm.trans hold)
  subst found
  refine ⟨(before ++ after).map Sigma.snd, ?_, ?_⟩
  · simp only [rows, hentries]
    exact List.perm_middle.map fun entry : Sigma fun _ : PyStr => Row => entry.2
  · simp only [rows, insert, AList.entries_insert, hkerase, List.map_cons]

/-- The rows with a property, when one row replaces another without gaining it. -/
theorem count_insert_old_le (table : Table Row id) {row old : Row} (p : Row → Bool)
    (hold : table.lookup (id row) = some old) (hp : p row = true → p old = true) :
    ((table.insert row).rows.filter p).length ≤ (table.rows.filter p).length := by
  obtain ⟨others, hperm, hrows⟩ := table.rows_insert_old hold
  rw [(hperm.filter p).length_eq, hrows, List.filter_cons, List.filter_cons]
  split
  · rename_i hrow
    rw [if_pos (hp hrow), List.length_cons, List.length_cons]
  · split
    · exact Nat.le_succ _
    · exact le_rfl

end Table

/-! ## The policy -/

namespace MembershipTier

/-- The most loans that may be outstanding at a time. -/
def limit : MembershipTier → ℕ
  | regular => 5
  | premium => 10
  | researcher => 20

theorem limit_mono {tier next : MembershipTier} (hnext : tier.progression ≤ next.progression) :
    tier.limit ≤ next.limit := by
  revert hnext
  cases tier <;> cases next <;> decide

/-- Lending has terms for every tier. -/
theorem policy_of_tier (rt : PythonRuntime) (tier : MembershipTier) :
    ∃ terms, LendingPolicy.forMembershipTier rt tier.value = some terms ∧
      terms.maxOutstandingLoans = tier.limit := by
  have hascii : PyStr.isAscii (PyStr.strip tier.value) = true := by
    cases tier <;> decide
  unfold LendingPolicy.forMembershipTier
  rw [rt.lower_ascii _ hascii]
  cases tier with
  | regular =>
      rw [if_pos (by decide)]
      exact ⟨_, rfl, rfl⟩
  | premium =>
      rw [if_neg (by decide), if_pos (by decide)]
      exact ⟨_, rfl, rfl⟩
  | researcher =>
      rw [if_neg (by decide), if_neg (by decide), if_pos (by decide)]
      exact ⟨_, rfl, rfl⟩

theorem limit_of_policy {rt : PythonRuntime} {tier : MembershipTier} {terms : BorrowingTerms}
    (hterms : LendingPolicy.forMembershipTier rt tier.value = some terms) :
    terms.maxOutstandingLoans = tier.limit := by
  obtain ⟨granted, hgranted, hlimit⟩ := policy_of_tier rt tier
  rw [hgranted, Option.some.injEq] at hterms
  rw [← hterms, hlimit]

end MembershipTier

/-- The outstanding loans of a patron. -/
def Database.outstandingLoans (db : Database) (patron_id : PyStr) : ℕ :=
  (db.loans.rows.filter fun row => row.patron_id.val = patron_id && row.outstanding).length

/-- The terms that were granted are those of an eligible patron. -/
theorem CreateLoanHandler.borrowingTerms_ok {rt : PythonRuntime} {command : CreateLoanCommand}
    {row : PatronRow} {terms : BorrowingTerms}
    (hterms : borrowingTerms rt command (some (PatronBorrowerDirectoryAdapter.translate row)) =
      .ok terms) :
    row.id.val = command.patron_id ∧ row.is_suspended = false ∧
      terms.maxOutstandingLoans = row.membership_tier.limit := by
  simp only [borrowingTerms, PatronBorrowerDirectoryAdapter.translate] at hterms
  by_cases hid : row.id.val = command.patron_id
  · by_cases hemail : row.email.value = command.patron_email
    · cases hsuspended : row.is_suspended with
      | true => simp [hid, hemail, hsuspended] at hterms
      | false =>
          cases hgranted : LendingPolicy.forMembershipTier rt row.membership_tier.value with
          | none => simp [hid, hemail, hsuspended, hgranted] at hterms
          | some granted =>
              simp only [hid, hemail, hsuspended, hgranted, ne_eq, not_true_eq_false, if_false,
                Bool.not_false, Bool.not_true, Bool.false_eq_true, Except.ok.injEq] at hterms
              subst granted
              exact ⟨hid, rfl, MembershipTier.limit_of_policy hgranted⟩
    · simp [hid, hemail] at hterms
  · simp [hid] at hterms

/-! ## Transitions of loans and patrons -/

section Transitions

open Result

/-- A new loan has the normalised fields of the call, and its event the given ones. -/
theorem Loan.create_fields {rt : PythonRuntime} {nextId : Reference}
    {patronId patronEmail catalogBookId bookTitle reservationId : PyStr} {days : ℤ}
    {borrowedAt : DateTime} {generation : ℤ} {loan : Loan} {events : List AggregateEvent}
    (hcreate : Loan.create rt nextId patronId patronEmail catalogBookId bookTitle days
      borrowedAt reservationId generation = .ok (loan, events)) :
    Loan.parseReservationId rt reservationId = .ok loan.reservation_id ∧
      loan.patron_id.val = PyStr.strip patronId ∧
      loan.catalog_book_id.val = PyStr.strip catalogBookId ∧
      loan.reservation_generation = generation ∧ loan.id = nextId ∧ loan.status = .active ∧
      ∃ event : LoanCreated, events = [.loanCreated event] ∧ event.loan_id = loan.id.val ∧
        event.reservation_id = uuidText loan.reservation_id ∧
        event.reservation_generation = generation ∧ event.patron_id = patronId ∧
        event.book_id = catalogBookId ∧
        requireUtcDatetime event.borrowed_at (py "borrowed_at") = .ok loan.borrowed_at ∧
        event.due_date = .ofUtc loan.due_date := by
  unfold Loan.create at hcreate
  simp only [bind_eq_ok, throw_eq, error_bind, pure_eq, guard_eq_ok, Except.ok.injEq,
    Prod.mk.injEq] at hcreate
  obtain ⟨-, token, htoken, due, -, built, hconstruct, rfl, rfl⟩ := hcreate
  unfold Loan.construct at hconstruct
  simp only [bind_eq_ok, throw_eq, pure_eq] at hconstruct
  obtain ⟨patron, hpatron, book, hbook, email, -, title, -, hrest⟩ := hconstruct
  have hnormal : ∀ {field value : PyStr} {reference : Reference},
      Loan.normalizeReference value field = .ok reference →
        reference.val = PyStr.strip value := by
    intro field value reference hok
    simp only [Loan.normalizeReference, LibrarySystem.normalizeReference] at hok
    split at hok
    · cases hok
      rfl
    · cases hok
  split at hrest
  · cases hrest
  · obtain ⟨borrowed, hborrowed, hrest⟩ := bind_eq_ok.mp hrest
    split at hrest
    · cases hrest
    · cases hrest
      exact ⟨htoken, hnormal hpatron, hnormal hbook, rfl, rfl, rfl, _, rfl, rfl, rfl, rfl, rfl,
        rfl, hborrowed, rfl⟩

/-- A transition of a loan never makes it outstanding again. -/
theorem Request.Moves.outstanding {rt : PythonRuntime} {request : Request}
    {loan moved : Loan} {others : List Statement}
    (hmoves : request.Moves rt (.loan loan) (.loan moved) others)
    (hafter : moved.status ≠ .returned ∧ moved.status ≠ .cancelled) :
    loan.status ≠ .returned ∧ loan.status ≠ .cancelled := by
  cases hmoves with
  | extend command hreceipts hextend =>
      unfold Loan.extend at hextend
      simp only [throw_eq, error_bind, pure_eq, guard_eq_ok] at hextend
      obtain ⟨hactive, -⟩ := hextend
      rw [ne_eq, not_not] at hactive
      rw [hactive]
      decide
  | complete command hreceipts hreturn =>
      obtain ⟨hchanged, -⟩ | ⟨-, -, -, hreturned, -⟩ := Loan.returnBook_ok hreturn
      · cases hchanged
      · exact absurd hreturned hafter.1
  | cancel command hcancel =>
      unfold Loan.cancel at hcancel
      simp only [throw_eq, pure_eq] at hcancel
      split at hcancel
      · cases hcancel
      · split at hcancel
        · cases hcancel
        · obtain ⟨_, -, hcancel⟩ := bind_eq_ok.mp hcancel
          cases hcancel
          exact absurd rfl hafter.2

/-- A transition of a patron never lowers the tier. -/
theorem Request.Moves.tier {rt : PythonRuntime} {request : Request} {patron moved : Patron}
    {others : List Statement}
    (hmoves : request.Moves rt (.patron patron) (.patron moved) others) :
    patron.membership_tier.progression ≤ moved.membership_tier.progression := by
  cases hmoves with
  | suspend command hreceipts hsuspend =>
      unfold Patron.suspend at hsuspend
      simp only [throw_eq, error_bind, pure_eq, guard_eq_ok, bind_eq_ok, Except.ok.injEq,
        Prod.mk.injEq] at hsuspend
      obtain ⟨-, _, -, rfl, -⟩ := hsuspend
      exact le_rfl
  | reinstate command hreceipts hreinstate =>
      unfold Patron.reinstate at hreinstate
      simp only [throw_eq, error_bind, pure_eq, guard_eq_ok, Except.ok.injEq,
        Prod.mk.injEq] at hreinstate
      obtain ⟨-, rfl, -⟩ := hreinstate
      exact le_rfl
  | upgrade command hreceipts htier hupgrade =>
      unfold Patron.upgradeTier at hupgrade
      simp only [throw_eq, error_bind, pure_eq, guard_eq_ok, Except.ok.injEq,
        Prod.mk.injEq] at hupgrade
      obtain ⟨hlower, rfl, -⟩ := hupgrade
      exact (not_le.mp hlower).le

end Transitions

/-- The id of an admitted patron is in its normal form. -/
theorem CreateLoanHandler.Admitted.own {rt : PythonRuntime} {command : CreateLoanCommand}
    {known : Knowledge Observation PyStr} {terms : BorrowingTerms}
    (hadmitted : Admitted rt command known terms) :
    PyStr.strip command.patron_id = command.patron_id := by
  obtain ⟨_, -, row, -, hterms⟩ := hadmitted.eligible
  obtain ⟨hid, -⟩ := borrowingTerms_ok hterms
  rw [← hid]
  exact row.id.strip_val

/-! ## What a batch does to the loans and the patrons -/

/-- What a committed batch does to both tables, and what its program knew. -/
inductive LoanStep (rt : PythonRuntime) (known : Knowledge Observation PyStr)
    (request : Request) (db after : Database) : Prop
  | quiet (hrequest : ∀ command, request ≠ .circulation (.createLoan command))
      (hloans : after.loans = db.loans) (hpatrons : after.patrons = db.patrons)
  | lent (command : CreateLoanCommand) (terms : BorrowingTerms) (loan : Loan)
      (hrequest : request = .circulation (.createLoan command))
      (hadmitted : CreateLoanHandler.Admitted rt command known terms)
      (hpatron : loan.patron_id.val = command.patron_id)
      (hnew : db.loans.lookup loan.id.val = none)
      (hreservation : Database.taken db.loans (fun row => some row.reservation_id)
        (.ofEntity loan 0) = false)
      (hbook : Database.taken db.loans LoanRow.outstandingBook (.ofEntity loan 0) = false)
      (hloans : after.loans = db.loans.insert (.ofEntity loan 0))
      (hpatrons : after.patrons = db.patrons)
  | moved (row : LoanRow) (loan : Loan)
      (hrequest : ∀ command, request ≠ .circulation (.createLoan command))
      (hrow : db.loans.lookup row.id.val = some row)
      (hstill : (row.write loan).outstanding = true → row.outstanding = true)
      (hreservation : Database.taken db.loans (fun row => some row.reservation_id)
        (row.write loan) = false)
      (hbook : Database.taken db.loans LoanRow.outstandingBook (row.write loan) = false)
      (hloans : after.loans = db.loans.insert (row.write loan))
      (hpatrons : after.patrons = db.patrons)
  | registered (patron : Patron)
      (hrequest : ∀ command, request ≠ .circulation (.createLoan command))
      (hnew : db.patrons.lookup patron.id.val = none)
      (hloans : after.loans = db.loans)
      (hpatrons : after.patrons = db.patrons.insert (.ofEntity patron 0))
  | policy (row : PatronRow) (patron : Patron)
      (hrequest : ∀ command, request ≠ .circulation (.createLoan command))
      (hheld : row.id.val ∈ known.held) (hrow : db.patrons.lookup row.id.val = some row)
      (htier : row.membership_tier.progression ≤ patron.membership_tier.progression)
      (hloans : after.loans = db.loans)
      (hpatrons : after.patrons = db.patrons.insert (row.write patron))

section Steps

variable {rt : PythonRuntime} {request : Request} {known : Knowledge Observation PyStr}
  {batch : Batch} {db after : Database} {past : Set Database}

/-- Statements that write no aggregate of a kind leave its table alone. -/
theorem Database.Effects.kept (A : Type) [Stored A] [Repository A]
    {statements : List Statement} (heffects : Effects db statements after)
    (hother : ∀ statement ∈ statements, ∀ aggregate : A,
      statement.target ≠ some (Stored.wrap aggregate)) :
    Stored.table (A := A) after = Stored.table db := by
  induction heffects with
  | nil => rfl
  | cons hfirst _ ih =>
      calc
        _ = Stored.table (A := A) _ :=
          ih fun statement hmem => hother statement (List.mem_cons_of_mem _ hmem)
        _ = _ := Repository.kept _ _ _ hfirst (hother _ List.mem_cons_self)

/-- The write of the one piece of a batch is all that happens to loans and patrons. -/
theorem Batch.Writes.effect {piece : Piece} (hwrites : batch.Writes rt [piece])
    (hplain : piece.Plain) (heffects : Database.Effects db batch.statements after) :
    ∃ middle, Database.Effect db piece.write middle ∧ after.loans = middle.loans ∧
      after.patrons = middle.patrons := by
  obtain ⟨order, arranged, rows, -, -, rfl⟩ := hwrites
  cases heffects with
  | @cons _ middle _ _ _ hfirst hrest =>
      have hnone : ∀ statement ∈ piece.others ++ [] ++ rows.flatten.map Statement.insertOutbox,
          statement.target = none := by
        intro statement hmem
        rw [List.append_nil] at hmem
        rcases List.mem_append.mp hmem with hmem | hmem
        · exact hplain.others statement hmem
        · obtain ⟨row, -, rfl⟩ := List.mem_map.mp hmem
          rfl
      refine ⟨middle, hfirst, ?_, ?_⟩
      · exact hrest.kept Loan fun statement hmem _ => by simp [hnone statement hmem]
      · exact hrest.kept Patron fun statement hmem _ => by simp [hnone statement hmem]

/-- The one piece is about a book. -/
theorem LoanStep.of_book {book : Book} {write : Statement} {events : List DomainEvent}
    {others : List Statement}
    (hrequest : ∀ command, request ≠ .circulation (.createLoan command))
    (hwrites : batch.Writes rt [⟨write, .book book, events, others⟩])
    (hplain : Piece.Plain ⟨write, .book book, events, others⟩)
    (heffects : Database.Effects db batch.statements after) :
    LoanStep rt known request db after := by
  obtain ⟨middle, hfirst, hloans, hpatrons⟩ := hwrites.effect hplain heffects
  have htarget : write.target = some (.book book) := hplain.target
  apply LoanStep.quiet hrequest
  · rw [hloans]
    exact Repository.kept (A := Loan) _ _ _ hfirst fun loan => by
      rw [htarget]
      exact fun hsame => by cases hsame
  · rw [hpatrons]
    exact Repository.kept (A := Patron) _ _ _ hfirst fun patron => by
      rw [htarget]
      exact fun hsame => by cases hsame

/-- The UPDATE of a loan found the row that was loaded. -/
theorem LoanStep.of_loan {id : PyStr} {row : LoanRow} {loan moved : Loan} {draws : Draws}
    {events : List AggregateEvent} {others : List Statement}
    (hrequest : ∀ command, request ≠ .circulation (.createLoan command))
    (hwrites : batch.Writes rt [.updated row.version (.loan moved) draws events others])
    (hothers : ∀ statement ∈ others, statement.target = none ∧ statement.outboxRow = none)
    (hloaded : Loaded known id row loan) (hid : moved.id = loan.id)
    (hstill : (row.write moved).outstanding = true → row.outstanding = true)
    (hviewed : Interleaving.Viewed (commandSide rt) past known)
    (hlatest : Latest Loan past db)
    (heffects : Database.Effects db batch.statements after) :
    LoanStep rt known request db after := by
  obtain ⟨middle, hfirst, hloans, hpatrons⟩ :=
    hwrites.effect (Piece.updated_plain hothers) heffects
  have hpatronsKept : middle.patrons = db.patrons :=
    Repository.kept (A := Patron) _ _ _ hfirst fun patron hsame => by cases hsame
  dsimp only [Piece.updated] at hfirst
  generalize hversion : row.version = expected at hfirst
  cases hfirst with
  | updateLoan current _ hcurrent hreservation hbook =>
      have hlookup : db.loans.lookup loan.id.val = some current := hid ▸ hcurrent
      have hsame : row = current :=
        hlatest.current hviewed hloaded.ownKey hlookup hversion.symm
      subst current
      refine .moved row moved hrequest ?_ hstill hreservation hbook hloans
        (hpatrons.trans hpatronsKept)
      rw [db.loans.keyed _ row hlookup]
      exact hlookup

/-- The UPDATE of a patron found the row that was loaded under the fence. -/
theorem LoanStep.of_patron {scope patron_id : PyStr} {facts : List (PyStr × Json)}
    {transition : Patron → Except Raised (Patron × List AggregateEvent)}
    {key : Except AppException (Option IdempotencyKey)} {value : PatronSnapshot}
    (hrequest : ∀ command, request ≠ .circulation (.createLoan command))
    (hmoves : ∀ patron moved events receipts, receipts.all Statement.isReceipt = true →
      transition patron = .ok (moved, events) →
        request.Moves rt (.patron patron) (.patron moved) receipts)
    (hcommits : (PatronPolicyChange.spec rt scope patron_id facts transition key).commits
      known batch value)
    (hviewed : Interleaving.Viewed (commandSide rt) past known)
    (hlatest : Latest Patron past db)
    (heffects : Database.Effects db batch.statements after) :
    LoanStep rt known request db after := by
  obtain ⟨_, row, patron, moved, events, _, -, hheld, -, hloaded, htransition, -, hwrites⟩ :=
    hcommits
  have hmove := hmoves patron moved events [] rfl htransition
  obtain ⟨earlier, hearlier, hid⟩ := Lineal.moved (A := Patron) rt request _ moved _ hmove
  cases hearlier
  obtain ⟨middle, hfirst, hloans, hpatrons⟩ :=
    hwrites.effect (Piece.updated_plain receiptOf_plain) heffects
  obtain ⟨current, hcurrent, hversion, htable⟩ :=
    Repository.updated (A := Patron) db middle row.version moved hfirst
  have hlookup : db.patrons.lookup patron.id.val = some current := by
    rw [← hid] at hcurrent
    exact hcurrent
  have hsame : row = current := hlatest.current hviewed hloaded.ownKey hlookup hversion
  subst current
  have hrow : row = PatronRow.ofEntity patron row.version :=
    (PatronRow.toEntity_eq_ok_iff row patron).mp hloaded.2
  apply LoanStep.policy row moved hrequest _ _ _ _ (hpatrons.trans htable)
  · obtain ⟨⟨seen, -, hfound⟩, -⟩ := hloaded
    rw [show row.id.val = patron_id from seen.database.patrons.keyed _ row hfound]
    exact hheld
  · rw [db.patrons.keyed _ row hlookup]
    exact hlookup
  · rw [hrow]
    exact hmove.tier
  · rw [hloans]
    exact Repository.kept (A := Loan) _ _ _ hfirst fun loan hsame => by cases hsame

theorem LoanRow.still_outstanding {row : LoanRow} {loan moved : Loan} {others : List Statement}
    (hrow : row.toEntity = .ok loan)
    (hmoves : request.Moves rt (.loan loan) (.loan moved) others)
    (hafter : (row.write moved).outstanding = true) : row.outstanding = true := by
  rw [(LoanRow.toEntity_eq_ok_iff row loan).mp hrow]
  simp only [LoanRow.outstanding, LoanRow.write, LoanRow.ofEntity, Bool.and_eq_true] at hafter ⊢
  obtain ⟨hreturned, hcancelled⟩ :=
    hmoves.outstanding ⟨of_decide_eq_true hafter.1, of_decide_eq_true hafter.2⟩
  exact ⟨decide_eq_true hreturned, decide_eq_true hcancelled⟩

/-- The statements write neither loans nor patrons. -/
theorem LoanStep.of_others
    (hrequest : ∀ command, request ≠ .circulation (.createLoan command))
    (hothers : ∀ statement ∈ batch.statements, ∀ aggregate, statement.target = some aggregate →
      ∃ book, aggregate = .book book)
    (heffects : Database.Effects db batch.statements after) :
    LoanStep rt known request db after := by
  apply LoanStep.quiet hrequest
  · refine heffects.kept Loan fun statement hmem loan htarget => ?_
    obtain ⟨book, hsame⟩ := hothers statement hmem _ htarget
    cases hsame
  · refine heffects.kept Patron fun statement hmem patron htarget => ?_
    obtain ⟨book, hsame⟩ := hothers statement hmem _ htarget
    cases hsame

/-! ### One handler at a time -/

theorem LoanStep.of_registerPatron {command : RegisterPatronCommand}
    {value : PatronSnapshot}
    (hcommits : (RegisterPatronHandler.spec rt command).commits known batch value)
    (heffects : Database.Effects db batch.statements after) :
    LoanStep rt known (.registerPatron command) db after := by
  obtain ⟨_, _, _, _, _, _, patron, _, _, -, -, -, -, -, -, hwrites⟩ := hcommits
  obtain ⟨middle, hfirst, hloans, hpatrons⟩ :=
    hwrites.effect (Piece.inserted_receipt receiptOf_plain) heffects
  obtain ⟨hnew, hinserted⟩ := Repository.inserted (A := Patron) db middle patron hfirst
  apply LoanStep.registered patron (fun _ hsame => by cases hsame) hnew
  · rw [hloans]
    exact Repository.kept (A := Loan) _ _ _ hfirst fun loan hsame => by cases hsame
  · exact hpatrons.trans hinserted

theorem LoanStep.of_releases {releases : List ReleaseExpiredReservationsHandler.Release}
    (hrequest : ∀ command, request ≠ .circulation (.createLoan command))
    (hwrites : batch.Writes rt (releases.map ReleaseExpiredReservationsHandler.Release.piece))
    (heffects : Database.Effects db batch.statements after) :
    LoanStep rt known request db after := by
  obtain ⟨_, _, rows, -, -, rfl⟩ := hwrites
  refine .of_others hrequest (fun statement hmem aggregate htarget => ?_) heffects
  rcases List.mem_append.mp hmem with hmem | hmem
  · obtain ⟨piece, hpiece, hmem⟩ := List.mem_flatMap.mp hmem
    obtain ⟨release, -, rfl⟩ := List.mem_map.mp hpiece
    rcases List.mem_cons.mp hmem with rfl | hmem
    · exact ⟨release.after, (Option.some.inj htarget).symm⟩
    · rw [List.mem_singleton.mp hmem] at htarget
      cases htarget
  · obtain ⟨row, -, rfl⟩ := List.mem_map.mp hmem
    cases htarget

theorem LoanStep.of_createLoan {command : CreateLoanCommand} {value : CreateLoanResult}
    (hcommits : (CreateLoanHandler.spec rt command).commits known batch value)
    (heffects : Database.Effects db batch.statements after) :
    LoanStep rt known (.circulation (.createLoan command)) db after := by
  obtain ⟨token, terms, id, loan, events, _, -, hadmitted, hcreate, -, hwrites⟩ := hcommits
  obtain ⟨-, hpatron, -⟩ := Loan.create_fields hcreate
  rw [hadmitted.own] at hpatron
  obtain ⟨middle, hfirst, hloans, hpatrons⟩ := hwrites.effect Piece.inserted_plain heffects
  cases hfirst with
  | insertLoan _ hnew hreservation hbook =>
      exact .lent command terms loan rfl hadmitted hpatron hnew hreservation hbook hloans hpatrons

section Moved

variable (hviewed : Interleaving.Viewed (commandSide rt) past known)
  (hloans : Latest Loan past db) (heffects : Database.Effects db batch.statements after)

include hviewed hloans heffects

theorem LoanStep.of_extendLoan {command : ExtendLoanCommand} {value : ExtendLoanResult}
    (hcommits : (ExtendLoanHandler.spec rt command).commits known batch value) :
    LoanStep rt known (.circulation (.extendLoan command)) db after := by
  obtain ⟨_, row, loan, moved, events, _, _, -, hloaded, hextend, -, hwrites⟩ := hcommits
  have hmoves : (Request.circulation (.extendLoan command)).Moves rt (.loan loan)
    (.loan moved) [] := .extend command rfl hextend
  exact .of_loan (fun _ hsame => by cases hsame) hwrites receiptOf_plain hloaded
    (Loan.extend_id hextend) (LoanRow.still_outstanding hloaded.2 hmoves) hviewed hloans heffects

theorem LoanStep.of_returnLoan {command : ReturnLoanCommand} {value : ReturnLoanResult}
    (hcommits : (ReturnLoanHandler.spec rt command).commits known batch value) :
    LoanStep rt known (.circulation (.returnLoan command)) db after := by
  obtain ⟨_, row, loan, moved, _, events, _, _, -, hloaded, hreturn, -, -,
    ⟨rfl, _, hwrites⟩ | ⟨-, given, -, rfl⟩⟩ := hcommits
  · obtain ⟨hchanged, -⟩ | ⟨-, -, -, -, hid, -⟩ := Loan.returnBook_ok hreturn
    · cases hchanged
    · have hmoves : (Request.circulation (.returnLoan command)).Moves rt (.loan loan)
        (.loan moved) [] := .complete command rfl hreturn
      exact .of_loan (fun _ hsame => by cases hsame) hwrites receiptOf_plain hloaded hid
        (LoanRow.still_outstanding hloaded.2 hmoves) hviewed hloans heffects
  -- a repetition after the return writes its receipt only
  · refine .of_others (fun _ hsame => by cases hsame) (fun statement hmem aggregate htarget => ?_)
      heffects
    simp only [ReturnLoanHandler.receiptBatch] at hmem
    rw [(receiptOf_plain statement hmem).1] at htarget
    cases htarget

theorem LoanStep.of_cancelLoan {command : CancelLoanCommand} {value : Bool}
    (hcommits : (CancelLoanHandler.spec rt command).commits known batch value) :
    LoanStep rt known (.circulation (.cancelLoan command)) db after := by
  obtain ⟨_, row, loan, moved, events, _, -, hloaded, -, hcancel, -, hwrites⟩ := hcommits
  have hmoves : (Request.circulation (.cancelLoan command)).Moves rt (.loan loan)
    (.loan moved) [] := .cancel command hcancel
  exact .of_loan (fun _ hsame => by cases hsame) hwrites (by simp) hloaded
    (Loan.cancel_id hcancel) (LoanRow.still_outstanding hloaded.2 hmoves) hviewed hloans heffects

end Moved

theorem CirculationCommand.loanStep {command : CirculationCommand} {value : command.Result}
    (hcommits : (command.spec rt).commits known batch value)
    (hviewed : Interleaving.Viewed (commandSide rt) past known)
    (hloans : Latest Loan past db) (heffects : Database.Effects db batch.statements after) :
    LoanStep rt known (.circulation command) db after := by
  cases command with
  | borrowBook command =>
      obtain ⟨_, _, _, _, _, _, _, _, _, _, _, -, -, -, -, -, -, -, hwrites⟩ := hcommits
      exact .of_book (fun _ hsame => by cases hsame) hwrites
        (Piece.updated_plain (CirculationCommand.operation_plain ⟨rfl, rfl⟩ receiptOf_plain))
        heffects
  | confirmBookBorrow command | releaseBookReservation command | returnBook command =>
      obtain ⟨_, _, _, _, _, _, -, -, -, hwrites⟩ := hcommits
      exact .of_book (fun _ hsame => by cases hsame) hwrites
        (Piece.updated_plain (by simp [Statement.target, Statement.outboxRow])) heffects
  | releaseExpiredReservations command =>
      obtain ⟨_, -, -, -, -, hwrites⟩ := hcommits
      exact .of_releases (fun _ hsame => by cases hsame) hwrites heffects
  | createLoan command => exact .of_createLoan hcommits heffects
  | extendLoan command => exact .of_extendLoan hviewed hloans heffects hcommits
  | returnLoan command => exact .of_returnLoan hviewed hloans heffects hcommits
  | cancelLoan command => exact .of_cancelLoan hviewed hloans heffects hcommits

/-- What the batch of a request does to both tables. -/
theorem Request.loanStep {value : request.Result}
    (hcommits : (request.spec rt).commits known batch value)
    (hviewed : Interleaving.Viewed (commandSide rt) past known)
    (hloans : Latest Loan past db) (hpatrons : Latest Patron past db)
    (heffects : Database.Effects db batch.statements after) :
    LoanStep rt known request db after := by
  cases request with
  | addBook command =>
      obtain ⟨_, _, _, _, _, -, -, -, -, hwrites⟩ := hcommits
      exact .of_book (fun _ hsame => by cases hsame) hwrites
        (Piece.inserted_receipt receiptOf_plain) heffects
  | registerPatron command => exact .of_registerPatron hcommits heffects
  | suspendPatron command =>
      exact .of_patron (fun _ hsame => by cases hsame)
        (fun _ _ _ _ hreceipts hsuspend => .suspend command hreceipts hsuspend) hcommits
        hviewed hpatrons heffects
  | reinstatePatron command =>
      exact .of_patron (fun _ hsame => by cases hsame)
        (fun _ _ _ _ hreceipts hreinstate => .reinstate command hreceipts hreinstate) hcommits
        hviewed hpatrons heffects
  | upgradePatronTier command =>
      obtain ⟨tier, htier, hcommits⟩ := hcommits
      exact .of_patron (fun _ hsame => by cases hsame)
        (fun _ _ _ _ hreceipts hupgrade => .upgrade command hreceipts htier hupgrade) hcommits
        hviewed hpatrons heffects
  | circulation command => exact command.loanStep hcommits hviewed hloans heffects

end Steps

/-! ## What stands under the fence -/

/-- No two rows have the same value in a column. -/
def Table.Distinct {Row Value : Type} {id : Row → PyStr} (table : Table Row id)
    (column : Row → Option Value) : Prop :=
  ∀ first ∈ table.rows, ∀ second ∈ table.rows, (column first).isSome = true →
    column first = column second → id first = id second

theorem Table.Distinct.insert {Row Value : Type} [DecidableEq Value] {id : Row → PyStr}
    {table : Table Row id} {column : Row → Option Value} {row : Row}
    (hdistinct : table.Distinct column)
    (hfree : Database.taken table column row = false) : (table.insert row).Distinct column := by
  have hapart : ∀ other ∈ table.rows, id other ≠ id row → (column row).isSome = true →
      column other ≠ column row := by
    intro other hother hne hsome hsame
    have htaken : Database.taken table column row = true := by
      simp only [Database.taken, Bool.and_eq_true, List.any_eq_true, decide_eq_true_eq]
      exact ⟨hsome, other, hother, hne, hsame⟩
    rw [hfree] at htaken
    cases htaken
  intro first hfirst second hsecond hsome hsame
  rcases (Database.mem_rows_insert _ _ _).mp hfirst with rfl | ⟨hfirstNe, hfirstOld⟩
  · rcases (Database.mem_rows_insert _ _ _).mp hsecond with rfl | ⟨hsecondNe, hsecondOld⟩
    · rfl
    · exact absurd hsame.symm (hapart second hsecondOld hsecondNe hsome)
  · rcases (Database.mem_rows_insert _ _ _).mp hsecond with rfl | ⟨-, hsecondOld⟩
    · exact absurd hsame (hapart first hfirstOld hfirstNe (hsame ▸ hsome))
    · exact hdistinct first hfirstOld second hsecondOld hsome hsame

/-- What lending promises about every committed state. -/
structure Database.WithinPolicy (db : Database) : Prop where
  registered : ∀ row ∈ db.loans.rows, ∃ patron ∈ db.patrons.rows, patron.id = row.patron_id
  limited : ∀ row ∈ db.patrons.rows, db.outstandingLoans row.id.val ≤ row.membership_tier.limit
  reservations : db.loans.Distinct fun row => some row.reservation_id
  books : db.loans.Distinct LoanRow.outstandingBook

/-- What was seen under the fence of a patron still stands: the row of the patron, and the
outstanding loans but for those that have ended. -/
structure Fenced (patron_id : PyStr) (seen : Observation) (state : Database) : Prop where
  row : ∀ row, seen.database.patrons.lookup patron_id = some row →
    state.patrons.lookup patron_id = some row
  count : state.outstandingLoans patron_id ≤ seen.database.outstandingLoans patron_id

section Fence

variable {rt : PythonRuntime} {request : Request} {known : Knowledge Observation PyStr}
  {db after : Database} {patron_id : PyStr}

theorem Database.outstandingLoans_insert_new {loan : Loan} (patron_id : PyStr)
    (hnew : db.loans.lookup loan.id.val = none)
    (hloans : after.loans = db.loans.insert (.ofEntity loan 0)) :
    after.outstandingLoans patron_id ≤
      db.outstandingLoans patron_id + if loan.patron_id.val = patron_id then 1 else 0 := by
  have hrows : after.loans.rows = LoanRow.ofEntity loan 0 :: db.loans.rows := by
    rw [hloans]
    exact Table.rows_insert_new db.loans hnew
  have hown : (LoanRow.ofEntity loan 0).patron_id = loan.patron_id := rfl
  rw [outstandingLoans, hrows, List.filter_cons, hown]
  by_cases hpatron : loan.patron_id.val = patron_id
  · rw [if_pos hpatron]
    split
    · exact le_rfl
    · exact Nat.le_succ _
  · simp [hpatron, outstandingLoans]

theorem Database.outstandingLoans_insert_old {row : LoanRow} {loan : Loan}
    (hrow : db.loans.lookup row.id.val = some row)
    (hstill : (row.write loan).outstanding = true → row.outstanding = true)
    (hloans : after.loans = db.loans.insert (row.write loan)) :
    after.outstandingLoans patron_id ≤ db.outstandingLoans patron_id := by
  rw [outstandingLoans, hloans]
  apply @Table.count_insert_old_le _ _ db.loans (row.write loan) _ _ hrow
  simp only [Bool.and_eq_true]
  exact fun hafter => ⟨hafter.1, hstill hafter.2⟩

/-- Who does not hold the fence of a patron adds no loan and leaves the row alone. -/
theorem LoanStep.outside (hstep : LoanStep rt known request db after)
    (hlock : patron_id ∉ known.held) :
    after.outstandingLoans patron_id ≤ db.outstandingLoans patron_id ∧
      ∀ row, db.patrons.lookup patron_id = some row →
        after.patrons.lookup patron_id = some row := by
  cases hstep with
  | quiet hrequest hloans hpatrons =>
      constructor
      · rw [Database.outstandingLoans, hloans]
        exact le_rfl
      · rw [hpatrons]
        exact fun _ hrow => hrow
  | lent command terms loan hrequest hadmitted hpatron hnew hreservation hbook hloans
      hpatrons =>
      have hne : loan.patron_id.val ≠ patron_id := by
        rintro rfl
        rw [hpatron] at hlock
        exact hlock hadmitted.fenced
      constructor
      · have hcount := Database.outstandingLoans_insert_new patron_id hnew hloans
        rw [if_neg hne] at hcount
        exact hcount
      · rw [hpatrons]
        exact fun _ hrow => hrow
  | moved row loan hrequest hrow hstill hreservation hbook hloans hpatrons =>
      constructor
      · exact Database.outstandingLoans_insert_old hrow hstill hloans
      · rw [hpatrons]
        exact fun _ hrow => hrow
  | registered patron hrequest hnew hloans hpatrons =>
      constructor
      · rw [Database.outstandingLoans, hloans]
        exact le_rfl
      · intro row hrow
        have hne : patron_id ≠ patron.id.val := by
          rintro rfl
          rw [hnew] at hrow
          cases hrow
        rw [hpatrons, Table.lookup_insert_ne db.patrons (PatronRow.ofEntity patron 0) hne]
        exact hrow
  | policy current patron hrequest hheld hcurrent htier hloans hpatrons =>
      constructor
      · rw [Database.outstandingLoans, hloans]
        exact le_rfl
      · intro row hrow
        have hne : patron_id ≠ current.id.val := by
          rintro rfl
          exact hlock hheld
        rw [hpatrons, Table.lookup_insert_ne db.patrons (current.write patron) hne]
        exact hrow

/-- The admission still holds when the loan is inserted. -/
theorem CreateLoanHandler.Admitted.stands {command : CreateLoanCommand}
    {terms : BorrowingTerms} (hadmitted : Admitted rt command known terms)
    (hfenced : ∀ lock ∈ known.held, ∀ seen ∈ known.since lock, Fenced lock seen db) :
    ∃ row, db.patrons.lookup command.patron_id = some row ∧ row.is_suspended = false ∧
      db.outstandingLoans command.patron_id < row.membership_tier.limit := by
  obtain ⟨seen, hseen, row, hrow, hterms⟩ := hadmitted.eligible
  obtain ⟨hid, hsuspended, hlimit⟩ := borrowingTerms_ok hterms
  obtain ⟨earlier, hearlier, hcount⟩ := hadmitted.counted
  have hlookup := (seen.database.patrons.mem_rows row).mp hrow
  rw [hid] at hlookup
  refine ⟨row, (hfenced _ hadmitted.fenced seen hseen).row row hlookup, hsuspended, ?_⟩
  calc
    db.outstandingLoans command.patron_id
        ≤ earlier.database.outstandingLoans command.patron_id :=
      (hfenced _ hadmitted.fenced earlier hearlier).count
    _ < terms.maxOutstandingLoans := hcount
    _ = row.membership_tier.limit := hlimit

/-- A loan that a commit has added, and its patron when it was. -/
def Interleaving.Entry.Lends (entry : Committed) : Prop :=
  ∀ loan ∈ entry.after.loans.rows, entry.before.loans.lookup loan.id.val = none →
    ∃ patron, entry.after.patrons.lookup loan.patron_id.val = some patron ∧
      patron.is_suspended = false

theorem LoanStep.lends {entry : Committed}
    (hstep : LoanStep rt known request entry.before entry.after)
    (hfenced : ∀ lock ∈ known.held, ∀ seen ∈ known.since lock, Fenced lock seen entry.before) :
    entry.Lends := by
  have hkept : entry.after.loans = entry.before.loans → entry.Lends := by
    intro hloans loan hloan hnew
    rw [hloans] at hloan
    rw [(entry.before.loans.mem_rows loan).mp hloan] at hnew
    cases hnew
  cases hstep with
  | quiet _ hloans _ => exact hkept hloans
  | registered _ _ _ hloans _ => exact hkept hloans
  | policy _ _ _ _ _ _ hloans _ => exact hkept hloans
  | moved row loan _ hrow _ _ _ hloans _ =>
      intro other hother hnew
      rw [hloans] at hother
      rcases (Database.mem_rows_insert _ _ _).mp hother with rfl | ⟨-, hold⟩
      · rw [show (row.write loan).id = row.id from rfl, hrow] at hnew
        cases hnew
      · rw [(entry.before.loans.mem_rows other).mp hold] at hnew
        cases hnew
  | lent command terms loan _ hadmitted hpatron hnone _ _ hloans hpatrons =>
      intro other hother hnew
      rw [hloans] at hother
      rcases (Database.mem_rows_insert _ _ _).mp hother with rfl | ⟨-, hold⟩
      · obtain ⟨patron, hfound, hsuspended, -⟩ := hadmitted.stands hfenced
        rw [hpatrons, show (LoanRow.ofEntity loan 0).patron_id.val = command.patron_id from
          hpatron]
        exact ⟨patron, hfound, hsuspended⟩
      · rw [(entry.before.loans.mem_rows other).mp hold] at hnew
        cases hnew

theorem PatronTable.still_registered {patrons next : Table PatronRow fun row => row.id.val}
    {added : PatronRow} {reference : Reference} (hnext : next = patrons.insert added)
    (hregistered : ∃ patron ∈ patrons.rows, patron.id = reference) :
    ∃ patron ∈ next.rows, patron.id = reference := by
  subst next
  obtain ⟨patron, hpatron, rfl⟩ := hregistered
  by_cases hsame : patron.id.val = added.id.val
  · exact ⟨added, (Database.mem_rows_insert _ _ _).mpr (Or.inl rfl), Subtype.ext hsame.symm⟩
  · exact ⟨patron, (Database.mem_rows_insert _ _ _).mpr (Or.inr ⟨hsame, hpatron⟩), rfl⟩

/-- A patron who is not registered has no loans. -/
theorem Database.WithinPolicy.no_loans (hdb : db.WithinPolicy)
    (hnew : db.patrons.lookup patron_id = none) : db.outstandingLoans patron_id = 0 := by
  rw [outstandingLoans, List.length_eq_zero_iff, List.filter_eq_nil_iff]
  intro row hrow hown
  simp only [Bool.and_eq_true, decide_eq_true_eq] at hown
  obtain ⟨patron, hpatron, hid⟩ := hdb.registered row hrow
  have hlookup := (db.patrons.mem_rows patron).mp hpatron
  rw [hid, hown.1, hnew] at hlookup
  cases hlookup

/-- Every batch keeps the promises of lending. -/
theorem Database.WithinPolicy.step (hdb : db.WithinPolicy)
    (hstep : LoanStep rt known request db after)
    (hfenced : ∀ lock ∈ known.held, ∀ seen ∈ known.since lock, Fenced lock seen db) :
    after.WithinPolicy := by
  cases hstep with
  | quiet hrequest hloans hpatrons =>
      have hcount : ∀ id, after.outstandingLoans id = db.outstandingLoans id := by
        intro id
        rw [outstandingLoans, hloans, outstandingLoans]
      constructor
      · rw [hloans, hpatrons]
        exact hdb.registered
      · rw [hpatrons]
        intro row hrow
        rw [hcount]
        exact hdb.limited row hrow
      · rw [hloans]
        exact hdb.reservations
      · rw [hloans]
        exact hdb.books
  | lent command terms loan hrequest hadmitted hpatron hnew hreservation hbook hloans
      hpatrons =>
      obtain ⟨current, hcurrent, -, hlimit⟩ := hadmitted.stands hfenced
      constructor
      · rw [hloans, hpatrons]
        intro row hrow
        rcases (mem_rows_insert _ _ _).mp hrow with rfl | ⟨-, hold⟩
        · refine ⟨current, (db.patrons.mem_rows current).mpr ?_, ?_⟩
          · rw [db.patrons.keyed _ current hcurrent]
            exact hcurrent
          · exact Subtype.ext ((db.patrons.keyed _ current hcurrent).trans hpatron.symm)
        · exact hdb.registered row hold
      · rw [hpatrons]
        intro row hrow
        have hcount := outstandingLoans_insert_new row.id.val hnew hloans
        by_cases hown : loan.patron_id.val = row.id.val
        · have hlookup := (db.patrons.mem_rows row).mp hrow
          rw [← hpatron, hown, hlookup, Option.some.injEq] at hcurrent
          subst current
          rw [← hpatron, hown] at hlimit
          rw [if_pos hown] at hcount
          exact hcount.trans hlimit
        · rw [if_neg hown] at hcount
          exact hcount.trans (hdb.limited row hrow)
      · rw [hloans]
        exact hdb.reservations.insert hreservation
      · rw [hloans]
        exact hdb.books.insert hbook
  | moved row loan hrequest hrow hstill hreservation hbook hloans hpatrons =>
      constructor
      · rw [hloans, hpatrons]
        intro other hother
        rcases (mem_rows_insert _ _ _).mp hother with rfl | ⟨-, hold⟩
        · exact hdb.registered row ((db.loans.mem_rows row).mpr hrow)
        · exact hdb.registered other hold
      · rw [hpatrons]
        intro patron hpatron
        exact (outstandingLoans_insert_old hrow hstill hloans).trans
          (hdb.limited patron hpatron)
      · rw [hloans]
        exact hdb.reservations.insert hreservation
      · rw [hloans]
        exact hdb.books.insert hbook
  | registered patron hrequest hnew hloans hpatrons =>
      have hcount : ∀ id, after.outstandingLoans id = db.outstandingLoans id := by
        intro id
        rw [outstandingLoans, hloans, outstandingLoans]
      constructor
      · rw [hloans]
        exact fun row hrow => PatronTable.still_registered hpatrons (hdb.registered row hrow)
      · rw [hpatrons]
        intro row hrow
        rw [hcount]
        rcases (mem_rows_insert _ _ _).mp hrow with rfl | ⟨-, hold⟩
        · have hnone : db.outstandingLoans (PatronRow.ofEntity patron 0).id.val = 0 :=
            hdb.no_loans hnew
          rw [hnone]
          exact Nat.zero_le _
        · exact hdb.limited row hold
      · rw [hloans]
        exact hdb.reservations
      · rw [hloans]
        exact hdb.books
  | policy row patron hrequest hheld hrow htier hloans hpatrons =>
      have hcount : ∀ id, after.outstandingLoans id = db.outstandingLoans id := by
        intro id
        rw [outstandingLoans, hloans, outstandingLoans]
      constructor
      · rw [hloans]
        exact fun row hrow => PatronTable.still_registered hpatrons (hdb.registered row hrow)
      · rw [hpatrons]
        intro other hother
        rw [hcount]
        rcases (mem_rows_insert _ _ _).mp hother with rfl | ⟨-, hold⟩
        · exact (hdb.limited row ((db.patrons.mem_rows row).mpr hrow)).trans
            (MembershipTier.limit_mono htier)
        · exact hdb.limited other hold
      · rw [hloans]
        exact hdb.reservations
      · rw [hloans]
        exact hdb.books

end Fence

/-! ## Every run -/

/-- The loan was inserted while its patron was not suspended and below the limit. -/
def Interleaving.Entry.Admitted (entry : Committed) (command : CreateLoanCommand) : Prop :=
  ∃ row, entry.before.patrons.lookup command.patron_id = some row ∧
    row.is_suspended = false ∧
      entry.before.outstandingLoans command.patron_id < row.membership_tier.limit

/-- What the runs keep. -/
structure Admitting (past : Set Database) (log : List Committed) (state : Database) : Prop where
  loans : Latest Loan past state
  patrons : Latest Patron past state
  policy : state.WithinPolicy
  admitted : ∀ entry ∈ log, ∀ command,
    entry.request = .circulation (.createLoan command) → entry.Admitted command
  views : ∀ view ∈ past, view.WithinPolicy
  lends : ∀ entry ∈ log, entry.Lends

/-- Retention touches neither loans nor patrons. -/
theorem Upkeep.withinPolicy {state after : Database} (hupkeep : Upkeep state after)
    (hpolicy : state.WithinPolicy) : after.WithinPolicy := by
  have hcount : ∀ id, after.outstandingLoans id = state.outstandingLoans id := by
    intro id
    rw [Database.outstandingLoans, hupkeep.loans, Database.outstandingLoans]
  constructor
  · rw [hupkeep.loans, hupkeep.patrons]
    exact hpolicy.registered
  · rw [hupkeep.patrons]
    intro row hrow
    rw [hcount]
    exact hpolicy.limited row hrow
  · rw [hupkeep.loans]
    exact hpolicy.reservations
  · rw [hupkeep.loans]
    exact hpolicy.books

theorem admitting_keeps (rt : PythonRuntime) :
    Interleaving.Keeps (commandSide rt) (Request.outcome rt) Database.WithinPolicy
      (fun _ _ => True) Upkeep Admitting Fenced := by
  constructor
  · intro state hstart
    constructor
    · rintro view rfl id row hrow
      exact ⟨row, hrow, Or.inr rfl⟩
    · rintro view rfl id row hrow
      exact ⟨row, hrow, Or.inr rfl⟩
    · exact hstart
    · exact fun _ hentry => by cases hentry
    · rintro view rfl
      exact hstart
    · exact fun _ hentry => by cases hentry
  · exact fun lock state draw => ⟨fun _ hrow => hrow, le_rfl⟩
  · rintro past log state hadmitting hmem entry known answer after rfl rfl - hviewed hfenced
      hcommits - happly
    obtain ⟨value, -, hcommits⟩ := hcommits
    have heffects := Database.runAll_effects happly
    have hstep := Request.loanStep hcommits hviewed hadmitting.loans hadmitting.patrons heffects
    have hpolicy := hadmitting.policy.step hstep hfenced
    constructor
    · constructor
      · exact (hadmitting.loans.effects heffects).insert
      · exact (hadmitting.patrons.effects heffects).insert
      · exact hpolicy
      · intro other hother command hrequest
        rcases List.mem_append.mp hother with hold | hlast
        · exact hadmitting.admitted other hold command hrequest
        · cases List.mem_singleton.mp hlast
          cases hstep with
          | lent given terms loan hgiven hadmitted =>
              rw [hgiven] at hrequest
              cases hrequest
              exact hadmitted.stands hfenced
          | quiet hother | moved _ _ hother | registered _ hother | policy _ _ hother =>
              exact absurd hrequest (hother command)
      · rintro view (rfl | hview)
        · exact hpolicy
        · exact hadmitting.views view hview
      · intro other hother
        rcases List.mem_append.mp hother with hold | hlast
        · exact hadmitting.lends other hold
        · cases List.mem_singleton.mp hlast
          exact hstep.lends hfenced
    · intro lock hlock seen hseen
      obtain ⟨hcount, hrow⟩ := hstep.outside hlock
      exact ⟨fun row hfound => hrow row (hseen.row row hfound), hcount.trans hseen.count⟩
  · intro past log state after hadmitting hmem hupkeep
    have hpolicy := hupkeep.withinPolicy hadmitting.policy
    constructor
    · constructor
      · refine Latest.insert fun view hview id row hrow => ?_
        rw [show Stored.table (A := Loan) after = Stored.table state from hupkeep.loans]
        exact hadmitting.loans view hview id row hrow
      · refine Latest.insert fun view hview id row hrow => ?_
        rw [show Stored.table (A := Patron) after = Stored.table state from hupkeep.patrons]
        exact hadmitting.patrons view hview id row hrow
      · exact hpolicy
      · exact hadmitting.admitted
      · rintro view (rfl | hview)
        · exact hpolicy
        · exact hadmitting.views view hview
      · exact hadmitting.lends
    · intro lock seen hseen
      constructor
      · rw [hupkeep.patrons]
        exact hseen.row
      · rw [Database.outstandingLoans, hupkeep.loans]
        exact hseen.count

/-- Loans are admitted one after the other.  In every reachable state each patron's
outstanding loans are within the limit of the current tier, no book has two of them and no
reservation two loans; and no loan was ever committed for a patron who was suspended, or
at the limit, when it was. -/
theorem loans_within_policy {rt : PythonRuntime} {world : CommandWorld}
    (hreach : CommandSide rt Database.WithinPolicy world) :
    world.shared.WithinPolicy ∧
      ∀ entry ∈ world.log, ∀ command, entry.request = .circulation (.createLoan command) →
        entry.Admitted command := by
  have hadmitting := (Interleaving.reachable_keeps (admitting_keeps rt)
    (fun _ request _ => request.program_meets rt .nothing) hreach).1
  exact ⟨hadmitting.policy, hadmitting.admitted⟩

/-- Admission is linearizable.  In every state that a run has committed, each patron's
outstanding loans are within the terms of the current tier, no book has two outstanding loans
and no reservation two loans; and no commit has added a loan of a patron who was suspended in
the state it led to. -/
theorem admission_linearizable {rt : PythonRuntime} {world : CommandWorld}
    (hreach : CommandSide rt Database.WithinPolicy world) :
    (∀ state ∈ world.past,
      (∀ patron ∈ state.patrons.rows, ∃ terms,
        LendingPolicy.forMembershipTier rt patron.membership_tier.value = some terms ∧
          state.outstandingLoans patron.id.val ≤ terms.maxOutstandingLoans) ∧
      (∀ first ∈ state.loans.rows, ∀ second ∈ state.loans.rows,
        first.outstanding = true → second.outstanding = true →
          first.catalog_book_id = second.catalog_book_id → first.id = second.id) ∧
      ∀ first ∈ state.loans.rows, ∀ second ∈ state.loans.rows,
        first.reservation_id = second.reservation_id → first.id = second.id) ∧
    ∀ entry ∈ world.log, ∀ loan ∈ entry.after.loans.rows,
      entry.before.loans.lookup loan.id.val = none →
        ∃ patron, entry.after.patrons.lookup loan.patron_id.val = some patron ∧
          patron.is_suspended = false := by
  have hadmitting := (Interleaving.reachable_keeps (admitting_keeps rt)
    (fun _ request _ => request.program_meets rt .nothing) hreach).1
  refine ⟨fun state hstate => ?_, hadmitting.lends⟩
  have hpolicy := hadmitting.views state hstate
  refine ⟨fun patron hpatron => ?_, fun first hfirst second hsecond hone hother hbook => ?_,
    fun first hfirst second hsecond hsame => ?_⟩
  · obtain ⟨terms, hterms, hlimit⟩ := MembershipTier.policy_of_tier rt patron.membership_tier
    exact ⟨terms, hterms, hlimit ▸ hpolicy.limited patron hpatron⟩
  · apply Subtype.ext
    apply hpolicy.books first hfirst second hsecond
    · simp [LoanRow.outstandingBook, hone]
    · simp [LoanRow.outstandingBook, hone, hother, hbook]
  · apply Subtype.ext
    exact hpolicy.reservations first hfirst second hsecond rfl (congrArg some hsame)

def sampleLoanCommand : CreateLoanCommand where
  reservation_id := uuidText 5
  reservation_generation := 1
  patron_id := uuidText 2
  patron_email := py "ann@lee.org"
  catalog_book_id := uuidText 1
  book_title := py "Dune"
  borrowed_at := .ofUtc sampleDraws.now

theorem secondEvent_isIdentity : isIdentity (py "event-2") = true := by decide

def secondDraws : Draws :=
  { sampleDraws with
    metadata := fun _ => { sampleMetadata with
      event_id := ⟨py "event-2", secondEvent_isIdentity⟩ } }

/-- A loan and a suspension of its patron at once; the suspension waits for the fence. -/
def admissionRun : List (Interleaving.Action Request Database Draws) :=
  [.start (.circulation (.createLoan sampleLoanCommand)),
    .start (.suspendPatron ⟨uuidText 2, py "unpaid fees", none⟩),
    .observe 0 sampleDraws, .acquire 0] ++
    List.replicate 7 (.observe 0 sampleDraws) ++ [.commit 0 true, .acquire 1] ++
    List.replicate 3 (.observe 1 secondDraws) ++ [.commit 1 true]

theorem sampleDatabase_withinPolicy : sampleDatabase.WithinPolicy where
  registered _ hrow := by cases hrow
  limited _ _ := Nat.zero_le _
  reservations _ hfirst := by cases hfirst
  books _ hfirst := by cases hfirst

theorem admissionRun_reaches :
    ∃ world : CommandWorld, CommandSide asciiRuntime Database.WithinPolicy world ∧
      world.log.length = 2 ∧ world.shared.outstandingLoans (uuidText 2) = 1 ∧
        ∃ row ∈ world.shared.patrons.rows, row.is_suspended = true := by
  have hresult : ((Interleaving.machine (commandSide asciiRuntime)
      Database.WithinPolicy).execute sampleWorld admissionRun).any (fun world =>
        decide (world.log.length = 2) &&
          decide (world.shared.outstandingLoans (uuidText 2) = 1) &&
            world.shared.patrons.rows.any PatronRow.is_suspended) = true := by
    decide +kernel
  obtain ⟨world, hrun, hfields⟩ := (Option.any_eq_true _ _).mp hresult
  simp only [Bool.and_eq_true, decide_eq_true_eq, List.any_eq_true] at hfields
  obtain ⟨⟨hlog, hcount⟩, hsuspended⟩ := hfields
  have hstart : CommandSide asciiRuntime Database.WithinPolicy sampleWorld :=
    .start ⟨sampleDatabase_withinPolicy, rfl, rfl, rfl⟩
  exact ⟨world, Interleaving.reachable_execute (fun _ _ => trivial) hstart rfl hrun, hlog, hcount,
    hsuspended⟩

theorem loans_within_policy_suspension :
    ∃ world : CommandWorld, world.log.length = 2 ∧
      world.shared.outstandingLoans (uuidText 2) = 1 ∧
        (∃ row ∈ world.shared.patrons.rows, row.is_suspended = true) ∧
          world.shared.WithinPolicy := by
  obtain ⟨world, hreach, hlog, hcount, hsuspended⟩ := admissionRun_reaches
  exact ⟨world, hlog, hcount, hsuspended, (loans_within_policy hreach).1⟩

theorem admission_linearizable_suspension :
    ∃ world : CommandWorld, world.log.length = 2 ∧
      (∃ row ∈ world.shared.patrons.rows, row.is_suspended = true) ∧
        ∀ entry ∈ world.log, ∀ loan ∈ entry.after.loans.rows,
          entry.before.loans.lookup loan.id.val = none →
            ∃ patron, entry.after.patrons.lookup loan.patron_id.val = some patron ∧
              patron.is_suspended = false := by
  obtain ⟨world, hreach, hlog, -, hsuspended⟩ := admissionRun_reaches
  exact ⟨world, hlog, hsuspended, (admission_linearizable hreach).2⟩

end LibrarySystem
