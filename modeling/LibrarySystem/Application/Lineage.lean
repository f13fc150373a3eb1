import LibrarySystem.Application.Requests

/-!
# The history of an aggregate's row

A batch updates a row only when its version is the one that was loaded.  Over every run
of the command side this makes the rows of one aggregate a chain: each is the transition
of a request applied to exactly the row before it.
-/

namespace LibrarySystem

open Run (Knowledge)

def Statement.isReceipt : Statement → Bool
  | insertReceipt _ _ _ => true
  | _ => false

namespace Request

/-- The new aggregates a request may store. -/
inductive Creates (rt : PythonRuntime) : Request → Aggregate → Prop
  | book (command : AddBookCommand) (id : Reference) {title : BoundedText 100}
      {author : BoundedText 200} (htitle : Book.parseTitle command.title = .ok title)
      (hauthor : Book.parseAuthor command.author = .ok author) :
      Creates rt (.addBook command) (.book (.initial id title author))
  | loan (command : CreateLoanCommand) (id : Reference) {token : Uuid}
      {terms : BorrowingTerms} {loan : Loan} {events : List AggregateEvent}
      (htoken : Loan.parseReservationId rt command.reservation_id = .ok token)
      (hcreate : Loan.create rt id command.patron_id command.patron_email
        command.catalog_book_id command.book_title terms.loanDurationDays
        command.borrowed_at (uuidText token) command.reservation_generation =
          .ok (loan, events)) :
      Creates rt (.circulation (.createLoan command)) (.loan loan)
  | patron (command : RegisterPatronCommand) (id : Reference) {name : PatronName}
      {email : EmailAddress} {now : UtcDateTime} {tier : MembershipTier} {patron : Patron}
      {events : List AggregateEvent}
      (hname : PatronName.parse command.first_name command.last_name = .ok name)
      (hemail : EmailAddress.parse rt command.email = .ok email)
      (htier : MembershipTier.parse rt command.membership_tier = .ok tier)
      (hregister : Patron.register id name email (.ofUtc now) tier = .ok (patron, events)) :
      Creates rt (.registerPatron command) (.patron patron)

/-- What a request may make of an aggregate it loads, with the statements that go along;
`receipts` is the one of a keyed request, if any. -/
inductive Moves (rt : PythonRuntime) : Request → Aggregate → Aggregate → List Statement → Prop
  | borrow (command : BorrowBookCommand) {nextId token : Uuid} {patron : PatronRow}
      {now : UtcDateTime} {book after : Book} {events : List AggregateEvent}
      {receipts : List Statement} (hreceipts : receipts.all Statement.isReceipt = true)
      (hreserve : book.reserve rt nextId patron.id.val patron.email.value (.ofUtc now) none =
        .ok (after, token, events)) :
      Moves rt (.circulation (.borrowBook command)) (.book book) (.book after)
        (.insertOperation (uuidText token) (BorrowBookHandler.operation after
          (PatronBorrowerDirectoryAdapter.translate patron) now) :: receipts)
  | confirm (command : ConfirmBookBorrowCommand) {now : UtcDateTime} {book after : Book}
      {events : List AggregateEvent} (hbook : book.id.val = command.book_id)
      (hconfirm : ConfirmBookBorrowHandler.transition rt command book =
        .ok (after, true, events)) :
      Moves rt (.circulation (.confirmBookBorrow command)) (.book book) (.book after)
        [.transitionOperation (ConfirmBookBorrowHandler.change command now)]
  | release (command : ReleaseBookReservationCommand) {now : UtcDateTime} {book after : Book}
      {events : List AggregateEvent} (hbook : book.id.val = command.book_id)
      (hrelease : ReleaseBookReservationHandler.transition rt command book =
        .ok (after, true, events)) :
      Moves rt (.circulation (.releaseBookReservation command)) (.book book) (.book after)
        [.transitionOperation (ReleaseBookReservationHandler.change command now)]
  | expire (command : ReleaseExpiredReservationsCommand) {token : Uuid} {patron : Reference}
      {now : UtcDateTime} {book after : Book} {events : List AggregateEvent}
      (htoken : book.state.reservation_id = some token)
      (hpatron : book.state.reserved_patron_id = some patron)
      (hrelease : book.release rt (uuidText token) book.state.reservation_generation
        patron.val (ReleaseExpiredReservationsHandler.reason command) =
          .ok (after, true, events)) :
      Moves rt (.circulation (.releaseExpiredReservations command)) (.book book)
        (.book after)
        [.transitionOperation
          (ReleaseExpiredReservationsHandler.change after token patron now)]
  | giveBack (command : ReturnBookCommand) {now : UtcDateTime} {book after : Book}
      {events : List AggregateEvent} (hbook : book.id.val = command.book_id)
      (hreturn : ReturnBookHandler.transition rt command book = .ok (after, true, events)) :
      Moves rt (.circulation (.returnBook command)) (.book book) (.book after)
        [.transitionOperation (ReturnBookHandler.change command now)]
  | extend (command : ExtendLoanCommand) {now : UtcDateTime} {loan after : Loan}
      {events : List AggregateEvent} {receipts : List Statement}
      (hreceipts : receipts.all Statement.isReceipt = true)
      (hextend : loan.extend command.days (.ofUtc now) = .ok (after, events)) :
      Moves rt (.circulation (.extendLoan command)) (.loan loan) (.loan after) receipts
  | complete (command : ReturnLoanCommand) {now : UtcDateTime} {loan after : Loan}
      {events : List AggregateEvent} {receipts : List Statement}
      (hreceipts : receipts.all Statement.isReceipt = true)
      (hreturn : loan.returnBook (.ofUtc now) = .ok (after, true, events)) :
      Moves rt (.circulation (.returnLoan command)) (.loan loan) (.loan after) receipts
  | cancel (command : CancelLoanCommand) {loan after : Loan} {events : List AggregateEvent}
      (hcancel : loan.cancel command.reason = .ok (after, true, events)) :
      Moves rt (.circulation (.cancelLoan command)) (.loan loan) (.loan after) []
  | suspend (command : SuspendPatronCommand) {patron after : Patron}
      {events : List AggregateEvent} {receipts : List Statement}
      (hreceipts : receipts.all Statement.isReceipt = true)
      (hsuspend : patron.suspend (PyStr.collapse command.reason) = .ok (after, events)) :
      Moves rt (.suspendPatron command) (.patron patron) (.patron after) receipts
  | reinstate (command : ReinstatePatronCommand) {patron after : Patron}
      {events : List AggregateEvent} {receipts : List Statement}
      (hreceipts : receipts.all Statement.isReceipt = true)
      (hreinstate : patron.reinstate = .ok (after, events)) :
      Moves rt (.reinstatePatron command) (.patron patron) (.patron after) receipts
  | upgrade (command : UpgradePatronTierCommand) {tier : MembershipTier}
      {patron after : Patron} {events : List AggregateEvent} {receipts : List Statement}
      (hreceipts : receipts.all Statement.isReceipt = true)
      (htier : MembershipTier.parse rt command.new_tier = .ok tier)
      (hupgrade : patron.upgradeTier tier = .ok (after, events)) :
      Moves rt (.upgradePatronTier command) (.patron patron) (.patron after) receipts

end Request

/-! ## The rows a batch is based on -/

/-- The aggregate was loaded from a row with this version. -/
def Aggregate.LoadedAt (known : Knowledge Observation PyStr) (version : ℕ) :
    Aggregate → Prop
  | book entity => ∃ row : BookRow, row.version = version ∧ Loaded known row.id.val row entity
  | loan entity => ∃ row : LoanRow, row.version = version ∧ Loaded known row.id.val row entity
  | patron entity =>
      ∃ row : PatronRow, row.version = version ∧ Loaded known row.id.val row entity

/-- The write of a piece inserts what the request creates, or updates what it loaded
and moved. -/
inductive Piece.Based (rt : PythonRuntime) (request : Request)
    (known : Knowledge Observation PyStr) (piece : Piece) : Prop
  | inserted (hwrite : piece.write = .insertAggregate piece.after)
      (hreceipts : piece.others.all Statement.isReceipt = true)
      (hcreates : request.Creates rt piece.after)
  | updated (version : ℕ) (before : Aggregate)
      (hwrite : piece.write = .updateAggregate version piece.after)
      (hloaded : before.LoadedAt known version)
      (hmoves : request.Moves rt before piece.after piece.others)

inductive Batch.Based (rt : PythonRuntime) (request : Request)
    (known : Knowledge Observation PyStr) (batch : Batch) : Prop
  | stores (pieces : List Piece) (hplain : ∀ piece ∈ pieces, piece.Plain)
      (hids : (pieces.map fun piece => piece.after.idText).Nodup)
      (hwrites : batch.Writes rt pieces)
      (hbased : ∀ piece ∈ pieces, piece.Based rt request known)
  | silent (hreceipts : batch.statements.all Statement.isReceipt = true)

section Based

variable {rt : PythonRuntime} {request : Request} {known : Knowledge Observation PyStr}
  {batch : Batch}

theorem Statement.target_of_isReceipt {statement : Statement}
    (hreceipt : statement.isReceipt = true) : statement.target = none := by
  cases statement <;> first | rfl | cases hreceipt

theorem Loaded.ownKey {A : Type} [Stored A] {id : PyStr} {row : Stored.Row A}
    {aggregate : A} (hloaded : Loaded known id row aggregate) :
    Loaded known (Stored.key row) row aggregate := by
  obtain ⟨⟨seen, hseen, hrow⟩, haggregate⟩ := hloaded
  have hkey : Stored.key row = id := (Stored.table seen.database).keyed id row hrow
  exact ⟨⟨seen, hseen, hkey ▸ hrow⟩, haggregate⟩

theorem Batch.Based.one {piece : Piece} (hplain : piece.Plain)
    (hwrites : batch.Writes rt [piece]) (hbased : piece.Based rt request known) :
    batch.Based rt request known := by
  apply Batch.Based.stores [piece] _ (List.nodup_singleton _) hwrites
  · intro other hother
    rw [List.mem_singleton.mp hother]
    exact hbased
  · intro other hother
    rw [List.mem_singleton.mp hother]
    exact hplain

theorem Piece.inserted_receipt {after : Aggregate} {draws : Draws}
    {events : List AggregateEvent} {others : List Statement}
    (hothers : ∀ statement ∈ others, statement.target = none ∧ statement.outboxRow = none) :
    (Piece.inserted after draws events others).Plain where
  target := rfl
  others statement hmem := (hothers statement hmem).1
  outbox statement hmem := by
    rcases List.mem_cons.mp hmem with rfl | hmem
    · rfl
    · exact (hothers statement hmem).2

theorem receiptOf_isReceipt {Result : Type} [Receipted Result] {scope : PyStr}
    {key : Option IdempotencyKey} {request_hash : PyStr} {result : Result} :
    (receiptOf rt scope key request_hash result).all Statement.isReceipt = true := by
  cases key <;> rfl

theorem BookMessage.based {Result : Type} {book_id : PyStr}
    {transition : Book → Except Raised (Book × Bool × List AggregateEvent)}
    {change : UtcDateTime → OperationTransition} {result : Book → Bool → Result}
    {value : Result}
    (hmoves : ∀ book after events now, book.id.val = book_id →
      transition book = .ok (after, true, events) →
        request.Moves rt (.book book) (.book after) [.transitionOperation (change now)])
    (hcommits : (BookMessage.spec rt book_id transition change result).commits known batch
      value) :
    batch.Based rt request known := by
  obtain ⟨row, book, after, events, now, _, -, hloaded, htransition, hwrites⟩ := hcommits
  apply Batch.Based.one (Piece.updated_plain _) hwrites
  · have hid : book.id.val = book_id := by
      obtain ⟨⟨seen, -, hrow⟩, hbook⟩ := hloaded
      rw [← seen.database.books.keyed book_id row hrow]
      exact Stored.key_eq (A := Book) row book hbook
    exact .updated row.version (.book book) rfl ⟨row, rfl, hloaded.ownKey⟩
      (hmoves book after events now hid htransition)
  · simp [Statement.target, Statement.outboxRow]

theorem PatronPolicyChange.based {scope patron_id : PyStr} {facts : List (PyStr × Json)}
    {transition : Patron → Except Raised (Patron × List AggregateEvent)}
    {key : Except AppException (Option IdempotencyKey)} {value : PatronSnapshot}
    (hmoves : ∀ patron after events receipts, receipts.all Statement.isReceipt = true →
      transition patron = .ok (after, events) →
        request.Moves rt (.patron patron) (.patron after) receipts)
    (hcommits : (PatronPolicyChange.spec rt scope patron_id facts transition key).commits
      known batch value) :
    batch.Based rt request known := by
  obtain ⟨_, row, patron, after, events, _, -, -, -, hloaded, htransition, -, hwrites⟩ :=
    hcommits
  apply Batch.Based.one (Piece.updated_plain receiptOf_plain) hwrites
  exact .updated row.version (.patron patron) rfl ⟨row, rfl, hloaded.ownKey⟩
    (hmoves patron after events _ receiptOf_isReceipt htransition)

/-- Every batch of a request is based on what it has seen. -/
theorem Request.spec_based {value : request.Result}
    (hcommits : (request.spec rt).commits known batch value) :
    batch.Based rt request known := by
  cases request with
  | addBook command =>
      obtain ⟨_, title, author, id, _, -, htitle, hauthor, -, hwrites⟩ := hcommits
      apply Batch.Based.one (Piece.inserted_receipt receiptOf_plain) hwrites
      exact .inserted rfl receiptOf_isReceipt (.book command id htitle hauthor)
  | registerPatron command =>
      obtain ⟨name, email, tier, _, id, now, patron, events, _, hname, hemail, htier, -,
        hregister, -, hwrites⟩ := hcommits
      apply Batch.Based.one (Piece.inserted_receipt receiptOf_plain) hwrites
      exact .inserted rfl receiptOf_isReceipt
        (.patron command id hname hemail htier hregister)
  | suspendPatron command =>
      exact PatronPolicyChange.based
        (fun _ _ _ _ hreceipts hsuspend => .suspend command hreceipts hsuspend) hcommits
  | reinstatePatron command =>
      exact PatronPolicyChange.based
        (fun _ _ _ _ hreceipts hreinstate => .reinstate command hreceipts hreinstate) hcommits
  | upgradePatronTier command =>
      obtain ⟨tier, htier, hcommits⟩ := hcommits
      exact PatronPolicyChange.based
        (fun _ _ _ _ hreceipts hupgrade => .upgrade command hreceipts htier hupgrade) hcommits
  | circulation command =>
      cases command with
      | borrowBook command =>
          obtain ⟨_, _, patron, row, book, reserved, _, _, events, now, _, -, -, -, -, hloaded,
            hreserve, -, hwrites⟩ := hcommits
          apply Batch.Based.one (Piece.updated_plain
            (CirculationCommand.operation_plain ⟨rfl, rfl⟩ receiptOf_plain)) hwrites
          exact .updated row.version (.book book) rfl ⟨row, rfl, hloaded.ownKey⟩
            (.borrow command receiptOf_isReceipt hreserve)
      | confirmBookBorrow command =>
          have hspec : (ConfirmBookBorrowHandler.spec rt command).commits known batch value :=
            hcommits
          exact BookMessage.based
            (fun _ _ _ _ hbook hconfirm => .confirm command hbook hconfirm) hspec
      | releaseBookReservation command =>
          have hspec :
              (ReleaseBookReservationHandler.spec rt command).commits known batch value :=
            hcommits
          exact BookMessage.based
            (fun _ _ _ _ hbook hrelease => .release command hbook hrelease) hspec
      | returnBook command =>
          have hspec : (ReturnBookHandler.spec rt command).commits known batch value := hcommits
          exact BookMessage.based
            (fun _ _ _ _ hbook hreturn => .giveBack command hbook hreturn) hspec
      | releaseExpiredReservations command =>
          obtain ⟨releases, -, hvalid, hids, -, hwrites⟩ := hcommits
          apply Batch.Based.stores _ _ _ hwrites
          · intro piece hpiece
            obtain ⟨release, hrelease, rfl⟩ := List.mem_map.mp hpiece
            have hone := hvalid release hrelease
            exact .updated release.row.version (.book release.book) rfl
              ⟨release.row, rfl, hone.loaded⟩
              (.expire command hone.reservation hone.patron hone.released)
          · intro piece hpiece
            obtain ⟨release, -, rfl⟩ := List.mem_map.mp hpiece
            exact Piece.updated_plain (CirculationCommand.operation_plain ⟨rfl, rfl⟩ (by simp))
          · have hsame : (releases.map ReleaseExpiredReservationsHandler.Release.piece).map
                (fun piece => piece.after.idText) =
                  releases.map fun release => release.row.id.val := by
              rw [List.map_map]
              exact List.map_congr_left fun release hrelease =>
                (hvalid release hrelease).idText
            rw [hsame]
            exact hids
      | createLoan command =>
          obtain ⟨token, terms, id, loan, events, _, htoken, -, hcreate, -, hwrites⟩ :=
            hcommits
          apply Batch.Based.one Piece.inserted_plain hwrites
          exact .inserted rfl rfl (.loan command id htoken hcreate)
      | extendLoan command =>
          obtain ⟨_, row, loan, after, events, _, _, -, hloaded, hextend, -, hwrites⟩ :=
            hcommits
          apply Batch.Based.one (Piece.updated_plain receiptOf_plain) hwrites
          exact .updated row.version (.loan loan) rfl ⟨row, rfl, hloaded.ownKey⟩
            (.extend command receiptOf_isReceipt hextend)
      | returnLoan command =>
          obtain ⟨_, row, loan, after, _, events, _, _, -, hloaded, hreturn, -, -,
            ⟨rfl, _, hwrites⟩ | ⟨-, given, -, rfl⟩⟩ := hcommits
          · apply Batch.Based.one (Piece.updated_plain receiptOf_plain) hwrites
            exact .updated row.version (.loan loan) rfl ⟨row, rfl, hloaded.ownKey⟩
              (.complete command receiptOf_isReceipt hreturn)
          · refine .silent ?_
            simp only [ReturnLoanHandler.receiptBatch]
            exact receiptOf_isReceipt
      | cancelLoan command =>
          obtain ⟨_, row, loan, after, events, _, -, hloaded, -, hcancel, -, hwrites⟩ :=
            hcommits
          apply Batch.Based.one (Piece.updated_plain (by simp)) hwrites
          exact .updated row.version (.loan loan) rfl ⟨row, rfl, hloaded⟩
            (.cancel command hcancel)

end Based

/-! ## The chain of the rows -/

/-- What a committed batch makes of the row of an id. -/
inductive Follows (A : Type) [Stored A] [Repository A] (rt : PythonRuntime) (id : PyStr)
    (request : Request) (batch : Batch) :
    Option (Stored.Row A) → Option (Stored.Row A) → Prop
  | kept (row : Option (Stored.Row A))
      (hother : ∀ aggregate : A,
        Stored.wrap aggregate ∈ batch.statements.filterMap Statement.target →
          (Stored.wrap aggregate).idText ≠ id) :
      Follows A rt id request batch row row
  | inserted (aggregate : A)
      (hstatement : Statement.insertAggregate (Stored.wrap aggregate) ∈ batch.statements)
      (hcreates : request.Creates rt (Stored.wrap aggregate)) :
      Follows A rt id request batch none (some (Repository.ofEntity aggregate 0))
  | updated (row : Stored.Row A) (before after : A)
      (hstatement : Statement.updateAggregate (Stored.version row) (Stored.wrap after) ∈
        batch.statements)
      (hrow : Stored.toEntity row = .ok before)
      {others : List Statement}
      (hmoves : request.Moves rt (Stored.wrap before) (Stored.wrap after) others) :
      Follows A rt id request batch (some row) (some (Repository.write row after))

/-- The rows of an id along the log: each is what the next entry found, and each is
followed by what that entry left. -/
inductive Lineage (A : Type) [Stored A] [Repository A] (rt : PythonRuntime) (id : PyStr)
    (first : Option (Stored.Row A)) : List Committed → Option (Stored.Row A) → Prop
  | start : Lineage A rt id first [] first
  | next {log : List Committed} {entry : Committed} {row later : Option (Stored.Row A)}
      (hlog : Lineage A rt id first log row)
      (hbefore : (Stored.table (A := A) entry.before).lookup id = row)
      (hafter : (Stored.table (A := A) entry.after).lookup id = later)
      (hfollows : Follows A rt id entry.request entry.batch row later) :
      Lineage A rt id first (log ++ [entry]) later

/-- A row that was seen has been replaced by a later one, or is the row there is. -/
def Latest (A : Type) [Stored A] (past : Set Database) (state : Database) : Prop :=
  ∀ view ∈ past, ∀ id row, (Stored.table (A := A) view).lookup id = some row →
    ∃ current, (Stored.table (A := A) state).lookup id = some current ∧
      (Stored.version row < Stored.version current ∨ row = current)

/-- The requests and retention treat an aggregate of this kind as one of its table. -/
class Lineal (A : Type) [Stored A] [Repository A] : Prop where
  loaded : ∀ (known : Knowledge Observation PyStr) (version : ℕ) (aggregate : A),
    (Stored.wrap aggregate).LoadedAt known version →
      ∃ row : Stored.Row A, Stored.version row = version ∧
        Loaded known (Stored.key row) row aggregate
  moved : ∀ (rt : PythonRuntime) (request : Request) (before : Aggregate) (after : A)
      (others : List Statement), request.Moves rt before (Stored.wrap after) others →
      ∃ earlier : A, before = Stored.wrap earlier ∧
        (Stored.wrap earlier).idText = (Stored.wrap after).idText
  upkeep : ∀ db after : Database, Upkeep db after →
    Stored.table (A := A) after = Stored.table db

section Identity

open Result

theorem Loan.extend_id {loan after : Loan} {days : ℤ} {time : DateTime}
    {events : List AggregateEvent} (hextend : loan.extend days time = .ok (after, events)) :
    after.id = loan.id := by
  unfold Loan.extend at hextend
  simp only [throw_eq, error_bind, pure_eq, guard_eq_ok, bind_eq_ok] at hextend
  obtain ⟨-, overdue, -, -, hextend⟩ := hextend
  split at hextend
  · cases hextend
  · cases hextend
    rfl

theorem Loan.cancel_id {loan after : Loan} {reason : PyStr} {events : List AggregateEvent}
    (hcancel : loan.cancel reason = .ok (after, true, events)) : after.id = loan.id := by
  unfold Loan.cancel at hcancel
  simp only [throw_eq, pure_eq] at hcancel
  split at hcancel
  · cases hcancel
  · split at hcancel
    · cases hcancel
    · obtain ⟨_, -, hrest⟩ := bind_eq_ok.mp hcancel
      cases hrest
      rfl

theorem Patron.suspend_id {patron after : Patron} {reason : PyStr}
    {events : List AggregateEvent} (hsuspend : patron.suspend reason = .ok (after, events)) :
    after.id = patron.id := by
  unfold Patron.suspend at hsuspend
  simp only [throw_eq, error_bind, pure_eq, guard_eq_ok, bind_eq_ok, Except.ok.injEq,
    Prod.mk.injEq] at hsuspend
  obtain ⟨-, _, -, rfl, -⟩ := hsuspend
  rfl

theorem Patron.reinstate_id {patron after : Patron} {events : List AggregateEvent}
    (hreinstate : patron.reinstate = .ok (after, events)) : after.id = patron.id := by
  unfold Patron.reinstate at hreinstate
  simp only [throw_eq, error_bind, pure_eq, guard_eq_ok, Except.ok.injEq,
    Prod.mk.injEq] at hreinstate
  obtain ⟨-, rfl, -⟩ := hreinstate
  rfl

theorem Patron.upgradeTier_id {patron after : Patron} {tier : MembershipTier}
    {events : List AggregateEvent} (hupgrade : patron.upgradeTier tier = .ok (after, events)) :
    after.id = patron.id := by
  unfold Patron.upgradeTier at hupgrade
  simp only [throw_eq, error_bind, pure_eq, guard_eq_ok, Except.ok.injEq,
    Prod.mk.injEq] at hupgrade
  obtain ⟨-, rfl, -⟩ := hupgrade
  rfl

end Identity

instance : Lineal Book where
  loaded _ _ _ hloaded := hloaded
  upkeep _ _ hupkeep := hupkeep.books
  moved rt request before after others hmoves := by
    cases hmoves with
    | borrow command hreceipts hreserve =>
        obtain ⟨-, -, _, _, _, -, -, -, hid, -⟩ := Book.reserve_ok hreserve
        exact ⟨_, rfl, congrArg Subtype.val hid.symm⟩
    | confirm command hbook hconfirm =>
        obtain ⟨_, _, _, _, _, -, -, -, -, -, -, hid, -⟩ := Book.confirmBorrow_ok hconfirm
        exact ⟨_, rfl, congrArg Subtype.val hid.symm⟩
    | release command hbook hrelease =>
        obtain ⟨_, _, -, -, -, -, -, ⟨hchanged, -⟩ | ⟨-, -, hid, -⟩⟩ :=
          Book.release_ok hrelease
        · cases hchanged
        · exact ⟨_, rfl, congrArg Subtype.val hid.symm⟩
    | expire command htoken hpatron hrelease =>
        obtain ⟨_, _, -, -, -, -, -, ⟨hchanged, -⟩ | ⟨-, -, hid, -⟩⟩ :=
          Book.release_ok hrelease
        · cases hchanged
        · exact ⟨_, rfl, congrArg Subtype.val hid.symm⟩
    | giveBack command hbook hreturn =>
        obtain ⟨_, _, _, -, -, -, -, -, -, -, -, hid, -⟩ := Book.returnBook_ok hreturn
        exact ⟨_, rfl, congrArg Subtype.val hid.symm⟩

instance : Lineal Loan where
  loaded _ _ _ hloaded := hloaded
  upkeep _ _ hupkeep := hupkeep.loans
  moved rt request before after others hmoves := by
    cases hmoves with
    | extend command hreceipts hextend =>
        exact ⟨_, rfl, congrArg Subtype.val (Loan.extend_id hextend).symm⟩
    | complete command hreceipts hreturn =>
        obtain ⟨hchanged, -⟩ | ⟨-, -, -, -, hid, -⟩ := Loan.returnBook_ok hreturn
        · cases hchanged
        · exact ⟨_, rfl, congrArg Subtype.val hid.symm⟩
    | cancel command hcancel =>
        exact ⟨_, rfl, congrArg Subtype.val (Loan.cancel_id hcancel).symm⟩

instance : Lineal Patron where
  loaded _ _ _ hloaded := hloaded
  upkeep _ _ hupkeep := hupkeep.patrons
  moved rt request before after others hmoves := by
    cases hmoves with
    | suspend command hreceipts hsuspend =>
        exact ⟨_, rfl, congrArg Subtype.val (Patron.suspend_id hsuspend).symm⟩
    | reinstate command hreceipts hreinstate =>
        exact ⟨_, rfl, congrArg Subtype.val (Patron.reinstate_id hreinstate).symm⟩
    | upgrade command hreceipts htier hupgrade =>
        exact ⟨_, rfl, congrArg Subtype.val (Patron.upgradeTier_id hupgrade).symm⟩

section Chain

variable {A : Type} [Stored A] [Repository A] {rt : PythonRuntime} {request : Request}
  {batch : Batch} {known : Knowledge Observation PyStr} {db after : Database}
  {past : Set Database} {id : PyStr}

/-- The statement that writes an aggregate is the write of its piece. -/
theorem Piece.of_target {pieces : List Piece} {rows : List OutboxRow}
    (hplain : ∀ piece ∈ pieces, piece.Plain) {statement : Statement} {aggregate : Aggregate}
    (hmem : statement ∈ pieces.flatMap Piece.statements ++ rows.map Statement.insertOutbox)
    (htarget : statement.target = some aggregate) :
    ∃ piece ∈ pieces, statement = piece.write ∧ piece.after = aggregate := by
  rcases List.mem_append.mp hmem with hmem | hmem
  · obtain ⟨piece, hpiece, hmem⟩ := List.mem_flatMap.mp hmem
    rcases List.mem_cons.mp hmem with rfl | hmem
    · rw [(hplain piece hpiece).target, Option.some.injEq] at htarget
      exact ⟨piece, hpiece, rfl, htarget⟩
    · rw [(hplain piece hpiece).others statement hmem] at htarget
      cases htarget
  · obtain ⟨row, -, rfl⟩ := List.mem_map.mp hmem
    cases htarget

omit [Repository A] in
/-- The row that was loaded is the one whose version the UPDATE finds. -/
theorem Latest.current {row current : Stored.Row A} {aggregate : A}
    (hlatest : Latest A past db)
    (hviewed : Interleaving.Viewed (commandSide rt) past known)
    (hloaded : Loaded known (Stored.key row) row aggregate)
    (hcurrent : (Stored.table (A := A) db).lookup (Stored.wrap aggregate).idText =
      some current)
    (hversion : Stored.version current = Stored.version row) : row = current := by
  obtain ⟨⟨seen, hseen, hrow⟩, haggregate⟩ := hloaded
  obtain ⟨view, hview, draw, rfl⟩ := hviewed seen hseen
  obtain ⟨latest, hlookup, hlater⟩ := hlatest view hview _ row hrow
  rw [← Stored.key_eq row aggregate haggregate, hcurrent, Option.some.injEq] at hlookup
  subst latest
  rcases hlater with hlt | hsame
  · omega
  · exact hsame

/-- A statement keeps a row or advances its version. -/
theorem Database.Effect.advances {statement : Statement} {row : Stored.Row A}
    (heffect : Effect db statement after)
    (hrow : (Stored.table (A := A) db).lookup id = some row) :
    ∃ next, (Stored.table (A := A) after).lookup id = some next ∧
      (Stored.version row < Stored.version next ∨ row = next) := by
  by_cases hwritten : ∃ aggregate : A, statement.target = some (Stored.wrap aggregate) ∧
      (Stored.wrap aggregate).idText = id
  · obtain ⟨aggregate, htarget, rfl⟩ := hwritten
    rcases heffect.wrote htarget with ⟨hnew, -⟩ | ⟨current, hcurrent, hnext⟩
    · rw [hrow] at hnew
      cases hnew
    · rw [hrow, Option.some.injEq] at hcurrent
      subst current
      refine ⟨_, hnext, Or.inl ?_⟩
      rw [Repository.version_write]
      exact Nat.lt_succ_self _
  · rw [heffect.lookup_ne fun aggregate htarget hid => hwritten ⟨aggregate, htarget, hid⟩]
    exact ⟨row, hrow, Or.inr rfl⟩

theorem Latest.effects {statements : List Statement} (hlatest : Latest A past db)
    (heffects : Database.Effects db statements after) : Latest A past after := by
  induction heffects with
  | nil => exact hlatest
  | cons hfirst _ ih =>
      refine ih fun view hview id row hrow => ?_
      obtain ⟨current, hcurrent, hlater⟩ := hlatest view hview id row hrow
      obtain ⟨next, hnext, hadvance⟩ := hfirst.advances hcurrent
      refine ⟨next, hnext, ?_⟩
      rcases hlater with hlt | rfl
      · left
        rcases hadvance with hmore | rfl
        · exact hlt.trans hmore
        · exact hlt
      · exact hadvance

omit [Repository A] in
theorem Latest.insert (hlatest : Latest A past after) :
    Latest A (insert after past) after := by
  rintro view (rfl | hview) id row hrow
  · exact ⟨row, hrow, Or.inr rfl⟩
  · exact hlatest view hview id row hrow

/-- An UPDATE that took effect found the row it was based on. -/
theorem Database.Effects.current {statements : List Statement} {row : Stored.Row A}
    {earlier aggregate : A} (heffects : Effects db statements after)
    (hlatest : Latest A past db)
    (hviewed : Interleaving.Viewed (commandSide rt) past known)
    (hids : ((statements.filterMap Statement.target).map Aggregate.idText).Nodup)
    (hstatement : Statement.updateAggregate (Stored.version row) (Stored.wrap aggregate) ∈
      statements)
    (hid : (Stored.wrap earlier).idText = (Stored.wrap aggregate).idText)
    (hloaded : Loaded known (Stored.key row) row earlier) :
    (Stored.table (A := A) db).lookup (Stored.wrap aggregate).idText = some row := by
  obtain ⟨middle, stored, heffect, hsame, -⟩ := heffects.isolate hids hstatement rfl
  obtain ⟨current, hcurrent, hversion, -⟩ :=
    Repository.updated middle stored (Stored.version row) aggregate heffect
  rw [hsame] at hcurrent
  rw [hlatest.current hviewed hloaded (hid ▸ hcurrent) hversion]
  exact hcurrent

variable [Lineal A]

/-- A batch that took effect was based on the rows it found. -/
theorem Batch.Based.follows (hbased : batch.Based rt request known)
    (hviewed : Interleaving.Viewed (commandSide rt) past known)
    (hlatest : Latest A past db) (hrun : db.runAll batch.statements = .ok after)
    (id : PyStr) :
    Follows A rt id request batch ((Stored.table (A := A) db).lookup id)
      ((Stored.table (A := A) after).lookup id) := by
  have heffects := Database.runAll_effects hrun
  by_cases hwritten : ∃ aggregate : A,
      Stored.wrap aggregate ∈ batch.statements.filterMap Statement.target ∧
        (Stored.wrap aggregate).idText = id
  · obtain ⟨aggregate, hmem, rfl⟩ := hwritten
    obtain ⟨statement, hstatement, htarget⟩ := List.mem_filterMap.mp hmem
    cases hbased with
    | silent hreceipts =>
        rw [Statement.target_of_isReceipt
          (List.all_eq_true.mp hreceipts statement hstatement)] at htarget
        cases htarget
    | stores pieces hplain hids hwrites hbased =>
        obtain ⟨order, arranged, rows, -, -, rfl⟩ := hwrites
        have hnodup : (((pieces.flatMap Piece.statements ++
            rows.flatten.map Statement.insertOutbox).filterMap Statement.target).map
              Aggregate.idText).Nodup := by
          rw [targets_of_pieces hplain, List.map_map, List.map_map]
          exact hids
        obtain ⟨piece, hpiece, rfl, hafter⟩ := Piece.of_target hplain hstatement htarget
        cases hbased piece hpiece with
        | inserted hwrite hreceipts hcreates =>
            rw [hafter] at hwrite hcreates
            rw [hwrite] at hstatement htarget
            obtain ⟨middle, stored, heffect, hsame, hlater⟩ :=
              heffects.isolate hnodup hstatement htarget
            obtain ⟨hnew, htable⟩ := Repository.inserted middle stored aggregate heffect
            have hrow : (Stored.table (A := A) stored).lookup (Stored.wrap aggregate).idText =
                some (Repository.ofEntity aggregate 0) := by
              rw [htable, ← Repository.key_ofEntity aggregate 0]
              exact Table.lookup_insert _ _
            rw [← hsame, hlater, hnew, hrow]
            exact .inserted aggregate hstatement hcreates
        | updated version before hwrite hloaded hmoves =>
            rw [hafter] at hwrite hmoves
            rw [hwrite] at hstatement
            obtain ⟨earlier, rfl, hid⟩ := Lineal.moved rt request before aggregate _ hmoves
            obtain ⟨row, rfl, hseen⟩ := Lineal.loaded known version earlier hloaded
            have hfound := heffects.current hlatest hviewed hnodup hstatement hid hseen
            have hwrote := (heffects.wroteOnly hnodup).wrote aggregate hmem
            rcases hwrote with ⟨hnew, -⟩ | ⟨current, hcurrent, hrow⟩
            · rw [hfound] at hnew
              cases hnew
            · rw [hfound, Option.some.injEq] at hcurrent
              rw [hfound, hrow, ← hcurrent]
              exact .updated row earlier aggregate hstatement hseen.2 hmoves
  · have hother : ∀ aggregate : A,
        Stored.wrap aggregate ∈ batch.statements.filterMap Statement.target →
          (Stored.wrap aggregate).idText ≠ id :=
      fun aggregate hmem hsame => hwritten ⟨aggregate, hmem, hsame⟩
    rw [heffects.lookup_ne hother]
    exact .kept _ hother

/-- What the runs keep: no row that was seen is ahead of the table, and every row has
its history. -/
structure Historic (A : Type) [Stored A] [Repository A] (rt : PythonRuntime)
    (start : Database) (past : Set Database) (log : List Committed) (state : Database) :
    Prop where
  latest : Latest A past state
  lineage : ∀ id, Lineage A rt id ((Stored.table (A := A) start).lookup id) log
    ((Stored.table (A := A) state).lookup id)

theorem historic_keeps (rt : PythonRuntime) (start : Database) :
    Interleaving.Keeps (commandSide rt) (Request.outcome rt) (· = start)
      (fun _ _ => True) Upkeep (Historic A rt start) (fun _ _ _ => True) := by
  constructor
  · rintro state rfl
    constructor
    · rintro view rfl id row hrow
      exact ⟨row, hrow, Or.inr rfl⟩
    · exact fun id => .start
  · exact fun _ _ _ => trivial
  · rintro past log state hhistoric hmem entry known value after rfl rfl - hviewed - hcommits
      - happly
    obtain ⟨answer, -, hcommits⟩ := hcommits
    have hfollows := fun id => (Request.spec_based hcommits).follows hviewed
      hhistoric.latest happly id
    have hlatest := hhistoric.latest.effects (Database.runAll_effects happly)
    refine ⟨⟨hlatest.insert, fun id => ?_⟩, fun _ _ _ _ => trivial⟩
    exact .next (hhistoric.lineage id) rfl rfl (hfollows id)
  · intro past log state after hhistoric hmem hupkeep
    have htable := Lineal.upkeep (A := A) state after hupkeep
    refine ⟨⟨Latest.insert fun view hview id row hrow => ?_, ?_⟩, fun _ _ _ => trivial⟩
    · rw [htable]
      exact hhistoric.latest view hview id row hrow
    · rw [htable]
      exact hhistoric.lineage

theorem CommandSide.historic {start : Database} {world : CommandWorld}
    (hreach : CommandSide rt (· = start) world) :
    Historic A rt start world.past world.log world.shared :=
  (Interleaving.reachable_keeps (historic_keeps rt start)
    (fun _ request _ => request.program_meets rt .nothing) hreach).1

end Chain

/-- The rows of every book, loan and patron form one chain from where the run began: the
first is what a request created, and each later one what a request made of exactly the
row before it. -/
theorem row_history {rt : PythonRuntime} {start : Database} {world : CommandWorld}
    (hreach : CommandSide rt (· = start) world) (id : PyStr) :
    Lineage Book rt id (start.books.lookup id) world.log (world.shared.books.lookup id) ∧
      Lineage Loan rt id (start.loans.lookup id) world.log (world.shared.loans.lookup id) ∧
      Lineage Patron rt id (start.patrons.lookup id) world.log
        (world.shared.patrons.lookup id) :=
  ⟨hreach.historic.lineage id, hreach.historic.lineage id, hreach.historic.lineage id⟩

/-- One borrowing, up to its commit. -/
def borrowRun : List (Interleaving.Action Request Database Draws) :=
  .start (.circulation sampleBorrow) ::
    (List.replicate 6 (.observe 0 sampleDraws) ++ [.commit 0 true])

def sampleWorld : CommandWorld := ⟨sampleDatabase, [], [], {sampleDatabase}⟩

theorem sampleWorld_start : CommandSide asciiRuntime (· = sampleDatabase) sampleWorld :=
  .start ⟨rfl, rfl, rfl, rfl⟩

theorem row_history_borrow :
    ∃ (world : CommandWorld) (row : BookRow), world.log.length = 1 ∧ row.version = 1 ∧
      Lineage Book asciiRuntime (uuidText 1) (sampleDatabase.books.lookup (uuidText 1))
        world.log (some row) := by
  have hresult : ((Interleaving.machine (commandSide asciiRuntime)
      (· = sampleDatabase)).execute sampleWorld borrowRun).any (fun world =>
        decide (world.log.length = 1) &&
          (world.shared.books.lookup (uuidText 1)).any fun row => row.version = 1) = true := by
    decide +kernel
  obtain ⟨world, hrun, hfields⟩ := (Option.any_eq_true _ _).mp hresult
  simp only [Bool.and_eq_true, decide_eq_true_eq] at hfields
  obtain ⟨hlog, hrow⟩ := hfields
  obtain ⟨row, hrow, hversion⟩ := (Option.any_eq_true _ _).mp hrow
  have hhistory := (row_history (Interleaving.reachable_execute (fun _ _ => trivial)
    sampleWorld_start rfl hrun) (uuidText 1)).1
  rw [hrow] at hhistory
  exact ⟨world, row, hlog, of_decide_eq_true hversion, hhistory⟩

end LibrarySystem
