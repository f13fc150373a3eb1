import LibrarySystem.Application.CatalogEffects
import LibrarySystem.Persistence.Effects

/-!
# Reservations and their operations

What the tables of the catalog hold for a reserved book, and what the statements that
release one reservation do to them.
-/

namespace LibrarySystem

/-- `status = 'RESERVED' AND reserved_at < cutoff` -/
def BookRow.expired (cutoff : UtcDateTime) (row : BookRow) : Bool :=
  row.state.status = .reserved && row.state.reserved_at.any fun t => t < cutoff

/-- The row after the reservation of its book was released. -/
def BookRow.released (row : BookRow) : BookRow :=
  { row with
    state :=
      { row.state with
        status := .available
        reserved_at := none
        borrowed_at := none
        return_due_date := none }
    version := row.version + 1 }

/-- The operation of the reservation that the row holds. -/
structure BorrowOperation.Holds (operation : BorrowOperation) (row : BookRow) : Prop where
  status : operation.status = .reserved
  book : operation.book_id = row.id.val
  patron : row.state.reserved_patron_id.map Subtype.val = some operation.patron_id
  generation : operation.reservation_generation = row.state.reservation_generation
  created : ∀ t ∈ row.state.reserved_at, operation.created_at ≤ t

/-- The operation is of the reservation that the row has, or had last. -/
structure BorrowOperation.Concerns (operation : BorrowOperation) (row : BookRow) : Prop where
  book : operation.book_id = row.id.val
  patron : row.state.reserved_patron_id.map Subtype.val = some operation.patron_id
  generation : operation.reservation_generation = row.state.reservation_generation

theorem BorrowOperation.Holds.concerns {operation : BorrowOperation} {row : BookRow}
    (hholds : operation.Holds row) : operation.Concerns row :=
  ⟨hholds.book, hholds.patron, hholds.generation⟩

theorem length_le_of_isReference {text : PyStr} (htext : isReference text = true) :
    text.length ≤ 64 := by
  rw [isReference, Bool.and_eq_true, decide_eq_true_eq] at htext
  exact htext.1

/-- An operation of a reservation has its ids from the row, so the table takes what a transition
writes unless the clock is behind its creation. -/
theorem BorrowOperation.Concerns.storeOperation_eq {operation : BorrowOperation} {row : BookRow}
    (hconcerns : operation.Concerns row) (hgeneration : 1 ≤ row.state.reservation_generation)
    (token : Uuid) (hloan : ∀ loan ∈ operation.loan_id, isReference loan = true)
    (hreason : ∀ reason ∈ operation.failure_reason, reason.length ≤ 500)
    (hstate : operation.stateOk = true) (db : Database) :
    db.storeOperation (uuidText token) operation =
      if operation.created_at ≤ operation.updated_at then
        .ok { db with
          borrow_operations := db.borrow_operations.insert (uuidText token) operation }
      else .error (.integrity .operationTimestamps) := by
  obtain ⟨patron, -, hpatron⟩ := Option.map_eq_some_iff.mp hconcerns.patron
  have hkey := uuidText_matches token
  have hbook : isReference operation.book_id = true := by
    rw [hconcerns.book]
    exact row.id.property
  have hreserver : isReference operation.patron_id = true := by
    rw [← hpatron]
    exact patron.property
  have hpositive : 1 ≤ operation.reservation_generation := by
    rw [hconcerns.generation]
    exact_mod_cast hgeneration
  have hfits : operation.fits (uuidText token) = true := by
    simp only [fits, Bool.and_eq_true, decide_eq_true_eq, Option.all_eq_true]
    refine ⟨⟨⟨⟨?_, length_le_of_isReference hbook⟩, length_le_of_isReference hreserver⟩, ?_⟩,
      hreason⟩
    · exact (length_of_matchesUuidPattern hkey).le
    · exact fun loan hmem => length_le_of_isReference (hloan loan hmem)
  have hloans : operation.loan_id.all Sql.isIdentifier = true := by
    rw [Option.all_eq_true]
    exact fun loan hmem => Sql.isIdentifier_val ⟨loan, hloan loan hmem⟩
  by_cases htime : operation.created_at ≤ operation.updated_at
  · have hchecks : (operation.checks (uuidText token)).find? (fun check => !check.2) = none := by
      simp [checks, hloans, htime, hkey, hpositive, hstate, Sql.isIdentifier_val ⟨_, hbook⟩,
        Sql.isIdentifier_val ⟨_, hreserver⟩]
    simp [Database.storeOperation, hfits, hchecks, htime]
  · have hchecks : (operation.checks (uuidText token)).find? (fun check => !check.2) =
        some (.operationTimestamps, false) := by
      simp [checks, hloans, htime, hkey, hpositive, hstate, Sql.isIdentifier_val ⟨_, hbook⟩,
        Sql.isIdentifier_val ⟨_, hreserver⟩]
    simp [Database.storeOperation, hfits, hchecks, htime]

/-- The operation after the release. -/
def BorrowOperation.expire (operation : BorrowOperation) (now : UtcDateTime) :
    BorrowOperation :=
  { operation with
    status := .released
    loan_id := none
    failure_reason := some (py "reservation expired")
    updated_at := now }

namespace Database

/-- Every book is valid, no two books share a reservation, and every reserved book has
its operation. -/
structure HoldsReservations (db : Database) : Prop where
  valid : ∀ row ∈ db.books.rows, row.state.Ok
  unique : ∀ row ∈ db.books.rows, ∀ other ∈ db.books.rows,
    row.state.reservation_id.isSome → other.state.reservation_id = row.state.reservation_id →
      other = row
  operation : ∀ row ∈ db.books.rows, row.state.status = .reserved →
    ∀ token, row.state.reservation_id = some token →
      ∃ operation, db.borrow_operations.lookup (uuidText token) = some operation ∧
        operation.Holds row

/-- Exactly the reservations of the rows were released, each once. -/
structure Released (rows : List BookRow) (db after : Database) : Prop where
  books : ∀ row ∈ rows, db.books.lookup row.id.val = some row ∧
    after.books.lookup row.id.val = some row.released
  otherBooks : ∀ id, (∀ row ∈ rows, row.id.val ≠ id) →
    after.books.lookup id = db.books.lookup id
  operations : ∀ row ∈ rows, ∃ token operation now,
    row.state.reservation_id = some token ∧ operation.Holds row ∧
    db.borrow_operations.lookup (uuidText token) = some operation ∧
    after.borrow_operations.lookup (uuidText token) = some (operation.expire now)
  otherOperations : ∀ id, (∀ row ∈ rows, row.state.reservation_id.map uuidText ≠ some id) →
    after.borrow_operations.lookup id = db.borrow_operations.lookup id
  loans : after.loans = db.loans
  patrons : after.patrons = db.patrons
  receipts : after.command_receipts = db.command_receipts

theorem Released.nil (db : Database) : Released [] db db where
  books _ hrow := by cases hrow
  otherBooks _ _ := rfl
  operations _ hrow := by cases hrow
  otherOperations _ _ := rfl
  loans := rfl
  patrons := rfl
  receipts := rfl

theorem uuidText_injective (rt : PythonRuntime) {left right : Uuid}
    (hsame : uuidText left = uuidText right) : left = right := by
  have hleft := rt.parseUuid_uuidText left
  rw [hsame, rt.parseUuid_uuidText right] at hleft
  exact (Option.some.inj hleft).symm

theorem mem_rows_insert {Row : Type} {id : Row → PyStr} (table : Table Row id)
    (row other : Row) :
    other ∈ (table.insert row).rows ↔
      other = row ∨ (id other ≠ id row ∧ other ∈ table.rows) := by
  rw [Table.mem_rows, Table.mem_rows]
  by_cases hid : id other = id row
  · rw [hid, Table.lookup_insert, Option.some.injEq]
    constructor
    · exact fun hsame => Or.inl hsame.symm
    · rintro (hsame | ⟨hne, -⟩)
      · exact hsame.symm
      · exact absurd rfl hne
  · rw [Table.lookup_insert_ne _ _ hid]
    constructor
    · exact fun hother => Or.inr ⟨hid, hother⟩
    · rintro (rfl | ⟨-, hother⟩)
      · exact absurd rfl hid
      · exact hother

section Held

variable {db mid after : Database} {row : BookRow}

/-- No other book has the reservation of a row. -/
theorem HoldsReservations.not_taken (hheld : db.HoldsReservations)
    (hrow : db.books.lookup row.id.val = some row) :
    taken db.books (fun row => row.state.reservation_id) row.released = false := by
  rw [Bool.eq_false_iff]
  intro htaken
  simp only [taken, Bool.and_eq_true, List.any_eq_true, decide_eq_true_eq] at htaken
  obtain ⟨hsome, other, hother, hne, hsame⟩ := htaken
  have hmem : row ∈ db.books.rows := (db.books.mem_rows row).mpr hrow
  have heq : other = row := hheld.unique row hmem other hother hsome hsame
  subst heq
  exact hne rfl

/-- The tables after one release hold the reservations that are left. -/
theorem HoldsReservations.release (rt : PythonRuntime) (hheld : db.HoldsReservations)
    (hrow : db.books.lookup row.id.val = some row) {token : Uuid}
    (htoken : row.state.reservation_id = some token)
    (hreserved : row.state.status = .reserved) (operation : BorrowOperation) :
    ({ db with
        books := db.books.insert row.released
        borrow_operations := db.borrow_operations.insert (uuidText token) operation } :
      Database).HoldsReservations := by
  have hmem : row ∈ db.books.rows := (db.books.mem_rows row).mpr hrow
  have hvalid := hheld.valid row hmem
  simp only [BookState.Ok, hreserved] at hvalid
  have hreleased : row.released.state.Ok :=
    ⟨rfl, rfl, rfl, hvalid.2.2.2.2.2, Or.inl hvalid.1⟩
  refine { valid := ?_, unique := ?_, operation := ?_ }
  · intro other hother
    rcases (mem_rows_insert _ _ _).mp hother with rfl | ⟨-, hother⟩
    · exact hreleased
    · exact hheld.valid other hother
  · intro first hfirst second hsecond hsome hsame
    rcases (mem_rows_insert _ _ _).mp hfirst with rfl | ⟨hfirstNe, hfirst⟩
    · rcases (mem_rows_insert _ _ _).mp hsecond with rfl | ⟨hsecondNe, hsecond⟩
      · rfl
      · have heq : second = row := hheld.unique row hmem second hsecond hsome hsame
        subst heq
        exact absurd rfl hsecondNe
    · rcases (mem_rows_insert _ _ _).mp hsecond with rfl | ⟨-, hsecond⟩
      · have heq : row = first := hheld.unique first hfirst row hmem hsome hsame
        subst heq
        exact absurd rfl hfirstNe
      · exact hheld.unique first hfirst second hsecond hsome hsame
  · intro other hother hstatus key hkey
    rcases (mem_rows_insert _ _ _).mp hother with rfl | ⟨hne, hother⟩
    · cases hstatus
    · have hother' := hheld.operation other hother hstatus key hkey
      have hkeys : uuidText key ≠ uuidText token := by
        intro hsame
        have htokens := uuidText_injective rt hsame
        have heq : other = row := hheld.unique row hmem other hother
          (by rw [htoken]; rfl) (by rw [hkey, htoken, htokens])
        subst heq
        exact hne rfl
      obtain ⟨found, hfound, hholds⟩ := hother'
      exact ⟨found, (AList.lookup_insert_ne hkeys).trans hfound, hholds⟩

/-- Of two groups of releases one after the other, the second is of other books. -/
theorem Released.apart {first : List BookRow} (hfirst : Released first db mid)
    (hrow : mid.books.lookup row.id.val = some row) (hreserved : row.state.status = .reserved) :
    ∀ other ∈ first, other.id.val ≠ row.id.val := by
  intro other hother hsame
  have hstored := (hfirst.books other hother).2
  rw [hsame, hrow, Option.some.injEq] at hstored
  rw [hstored] at hreserved
  cases hreserved

/-- The second group is of other reservations. -/
theorem Released.apart_token {first : List BookRow} (hfirst : Released first db mid)
    (hheld : mid.HoldsReservations) (hrow : mid.books.lookup row.id.val = some row)
    (hreserved : row.state.status = .reserved) {token : Uuid}
    (htoken : row.state.reservation_id = some token) (rt : PythonRuntime) :
    ∀ other ∈ first, other.state.reservation_id.map uuidText ≠ some (uuidText token) := by
  intro other hother hsame
  obtain ⟨found, hfound, htext⟩ := Option.map_eq_some_iff.mp hsame
  have hfoundToken : found = token := uuidText_injective rt htext
  subst hfoundToken
  have hstored : other.released ∈ mid.books.rows :=
    (mid.books.mem_rows _).mpr (hfirst.books other hother).2
  have heq : other.released = row := hheld.unique row ((mid.books.mem_rows row).mpr hrow)
    other.released hstored (by rw [htoken]; rfl) (hfound.trans htoken.symm)
  rw [← heq] at hreserved
  cases hreserved

theorem Released.append {first second : List BookRow} (rt : PythonRuntime)
    (hfirst : Released first db mid) (hsecond : Released second mid after)
    (hheld : mid.HoldsReservations)
    (hreserved : ∀ row ∈ second, row.state.status = .reserved) :
    Released (first ++ second) db after := by
  have hids : ∀ row ∈ second, ∀ other ∈ first, other.id.val ≠ row.id.val :=
    fun row hrow => hfirst.apart (hsecond.books row hrow).1 (hreserved row hrow)
  have htokens : ∀ row ∈ second, ∀ token, row.state.reservation_id = some token →
      ∀ other ∈ first, other.state.reservation_id.map uuidText ≠ some (uuidText token) :=
    fun row hrow token htoken => hfirst.apart_token hheld (hsecond.books row hrow).1
      (hreserved row hrow) htoken rt
  refine
    { books := ?_
      otherBooks := ?_
      operations := ?_
      otherOperations := ?_
      loans := hsecond.loans.trans hfirst.loans
      patrons := hsecond.patrons.trans hfirst.patrons
      receipts := hsecond.receipts.trans hfirst.receipts }
  · intro row hrow
    rcases List.mem_append.mp hrow with hrow | hrow
    · refine ⟨(hfirst.books row hrow).1, ?_⟩
      rw [hsecond.otherBooks _ fun other hother => (hids other hother row hrow).symm]
      exact (hfirst.books row hrow).2
    · refine ⟨?_, (hsecond.books row hrow).2⟩
      rw [← hfirst.otherBooks _ (hids row hrow)]
      exact (hsecond.books row hrow).1
  · intro id hid
    rw [hsecond.otherBooks id fun row hrow => hid row (List.mem_append_right _ hrow),
      hfirst.otherBooks id fun row hrow => hid row (List.mem_append_left _ hrow)]
  · intro row hrow
    rcases List.mem_append.mp hrow with hrow | hrow
    · obtain ⟨token, operation, now, htoken, hholds, hbefore, hafter⟩ :=
        hfirst.operations row hrow
      refine ⟨token, operation, now, htoken, hholds, hbefore, ?_⟩
      rw [hsecond.otherOperations _ ?_]
      · exact hafter
      · intro other hother hsame
        obtain ⟨found, hfound, htext⟩ := Option.map_eq_some_iff.mp hsame
        refine htokens other hother found hfound row hrow ?_
        rw [htoken, Option.map_some, htext]
    · obtain ⟨token, operation, now, htoken, hholds, hbefore, hafter⟩ :=
        hsecond.operations row hrow
      refine ⟨token, operation, now, htoken, hholds, ?_, hafter⟩
      rw [← hfirst.otherOperations _ (htokens row hrow token htoken)]
      exact hbefore
  · intro id hid
    rw [hsecond.otherOperations id fun row hrow => hid row (List.mem_append_right _ hrow),
      hfirst.otherOperations id fun row hrow => hid row (List.mem_append_left _ hrow)]

/-- Where the rows come from. -/
theorem Released.mem_rows {rows : List BookRow} (hreleased : Released rows db after)
    {found : BookRow} (hfound : found ∈ after.books.rows) :
    (∃ row ∈ rows, found = row.released) ∨
      (found ∈ db.books.rows ∧ ∀ row ∈ rows, row.id.val ≠ found.id.val) := by
  have hlookup := (after.books.mem_rows found).mp hfound
  by_cases hold : ∀ row ∈ rows, row.id.val ≠ found.id.val
  · rw [hreleased.otherBooks _ hold] at hlookup
    exact Or.inr ⟨(db.books.mem_rows found).mpr hlookup, hold⟩
  · simp only [not_forall, not_not] at hold
    obtain ⟨row, hrow, hsame⟩ := hold
    rw [← hsame, (hreleased.books row hrow).2, Option.some.injEq] at hlookup
    exact Or.inl ⟨row, hrow, hlookup.symm⟩

theorem BookRow.expired_released (cut : UtcDateTime) (row : BookRow) :
    row.released.expired cut = false := rfl

theorem rows_nodup (db : Database) : db.books.rows.Nodup :=
  List.Nodup.of_map _ db.books.rows_nodup

/-- The expired rows before are those released and those that are left. -/
theorem Released.expired_perm {rows : List BookRow} (hreleased : Released rows db after)
    {cut : UtcDateTime} (hexpired : ∀ row ∈ rows, row.expired cut = true)
    (hnodup : rows.Nodup) :
    (rows ++ after.books.rows.filter fun row => row.expired cut).Perm
      (db.books.rows.filter fun row => row.expired cut) := by
  have hleft : (rows ++ after.books.rows.filter fun row => row.expired cut).Nodup := by
    refine List.nodup_append.mpr ⟨hnodup, (rows_nodup after).filter _, ?_⟩
    rintro row hrow other hother rfl
    obtain ⟨hmem, hpast⟩ := List.mem_filter.mp hother
    have hlookup := (after.books.mem_rows row).mp hmem
    rw [(hreleased.books row hrow).2, Option.some.injEq] at hlookup
    rw [← hlookup, BookRow.expired_released] at hpast
    cases hpast
  refine (List.perm_ext_iff_of_nodup hleft ((rows_nodup db).filter _)).mpr fun row => ?_
  rw [List.mem_append, List.mem_filter, List.mem_filter]
  constructor
  · rintro (hrow | ⟨hrow, hpast⟩)
    · exact ⟨(db.books.mem_rows row).mpr (hreleased.books row hrow).1, hexpired row hrow⟩
    · rcases hreleased.mem_rows hrow with ⟨other, -, rfl⟩ | ⟨hmem, -⟩
      · rw [BookRow.expired_released] at hpast
        cases hpast
      · exact ⟨hmem, hpast⟩
  · rintro ⟨hrow, hpast⟩
    have hlookup := (db.books.mem_rows row).mp hrow
    by_cases hold : ∀ other ∈ rows, other.id.val ≠ row.id.val
    · refine Or.inr ⟨(after.books.mem_rows row).mpr ?_, hpast⟩
      rw [hreleased.otherBooks _ hold]
      exact hlookup
    · simp only [not_forall, not_not] at hold
      obtain ⟨other, hother, hsame⟩ := hold
      have hstored := (hreleased.books other hother).1
      rw [hsame, hlookup, Option.some.injEq] at hstored
      exact Or.inl (hstored ▸ hother)

theorem Released.congr {rows others : List BookRow} (hreleased : Released rows db after)
    (hperm : rows.Perm others) : Released others db after where
  books row hrow := hreleased.books row (hperm.mem_iff.mpr hrow)
  otherBooks id hid := hreleased.otherBooks id fun row hrow => hid row (hperm.mem_iff.mp hrow)
  operations row hrow := hreleased.operations row (hperm.mem_iff.mpr hrow)
  otherOperations id hid :=
    hreleased.otherOperations id fun row hrow => hid row (hperm.mem_iff.mp hrow)
  loans := hreleased.loans
  patrons := hreleased.patrons
  receipts := hreleased.receipts

/-- The two statements of one release take effect. -/
theorem runAll_release (rt : PythonRuntime) (hheld : db.HoldsReservations)
    (hrow : db.books.lookup row.id.val = some row)
    (hreserved : row.state.status = .reserved) {token : Uuid} {patron : Reference}
    (htoken : row.state.reservation_id = some token)
    (hpatron : row.state.reserved_patron_id = some patron) {book : Book}
    (hid : book.id = row.id) (hwrite : row.write book = row.released) {now : UtcDateTime}
    (hnow : ∀ t ∈ row.state.reserved_at, t ≤ now) :
    ∃ last, db.runAll [.updateAggregate row.version (.book book),
        .transitionOperation
          (ReleaseExpiredReservationsHandler.change book token patron now)] = .ok last ∧
      Released [row] db last ∧ last.HoldsReservations ∧ last.outbox = db.outbox := by
  have hmem : row ∈ db.books.rows := (db.books.mem_rows row).mpr hrow
  obtain ⟨operation, hlookup, hholds⟩ := hheld.operation row hmem hreserved token htoken
  have hvalid := hheld.valid row hmem
  simp only [BookState.Ok, hreserved] at hvalid
  have hstate : book.state = row.released.state := congrArg BookRow.state hwrite
  have hgeneration : book.state.reservation_generation = row.state.reservation_generation := by
    rw [hstate]
    rfl
  have hupdate : db.run (.updateAggregate row.version (.book book)) =
      .ok { db with books := db.books.insert row.released } := by
    have hloan : taken db.books (fun row => row.state.current_loan_id) row.released =
        false := by
      simp [taken, BookRow.released, hvalid.2.2.2.2.2]
    simp only [run, Statement.texts, List.all_nil, if_true, perform, updateAggregate, hid, hrow,
      hwrite, storeBook, hheld.not_taken hrow, hloan, Bool.false_eq_true, if_false]
  let change := ReleaseExpiredReservationsHandler.change book token patron now
  have hmatches : change.matches_ operation = true := by
    have hpatron' : operation.patron_id = patron.val := by
      have hsame := hholds.patron
      rw [hpatron, Option.map_some, Option.some.injEq] at hsame
      exact hsame.symm
    simp [change, ReleaseExpiredReservationsHandler.change, OperationTransition.matches_,
      hholds.book, hpatron', hholds.generation, hgeneration, hholds.status, hid,
      BorrowOperationStatus.sources]
  have htexts : (Statement.transitionOperation change).texts.all storable = true := by
    have hkey := storable_of_matchesUuidPattern (uuidText_matches token)
    have hreason : storable (py "reservation expired") = true := by decide +kernel
    simp [change, ReleaseExpiredReservationsHandler.change, Statement.texts, hkey, hreason,
      storable_reference]
  have hexpire : change.write operation = operation.expire now := rfl
  have htime : (operation.expire now).created_at ≤ (operation.expire now).updated_at := by
    obtain ⟨t, ht⟩ := Option.isSome_iff_exists.mp hvalid.2.1
    exact (hholds.created t ht).trans (hnow t ht)
  have hconcerns : (operation.expire now).Concerns row :=
    ⟨hholds.book, hholds.patron, hholds.generation⟩
  have hstateOk : (operation.expire now).stateOk = true := by
    have hbounded : Sql.isBoundedText 500 (py "reservation expired") = true := by decide +kernel
    simp [BorrowOperation.stateOk, BorrowOperation.expire, hbounded]
  have htransition : ({ db with books := db.books.insert row.released } : Database).run
      (.transitionOperation change) =
        .ok { db with
          books := db.books.insert row.released
          borrow_operations :=
            db.borrow_operations.insert (uuidText token) (operation.expire now) } := by
    have hlookup' : db.borrow_operations.lookup change.operation_id = some operation := hlookup
    simp only [run, htexts, if_true, perform, transitionOperation, hlookup', hmatches, hexpire]
    refine (hconcerns.storeOperation_eq hvalid.2.2.1 token (by rintro loan ⟨⟩) ?_ hstateOk
      _).trans (if_pos htime)
    rintro reason ⟨⟩
    decide +kernel
  refine ⟨_, ?_, ?_, hheld.release rt hrow htoken hreserved (operation.expire now), rfl⟩
  · simp only [runAll, hupdate, Result.ok_bind, htransition, change]
  · refine
      { books := ?_
        otherBooks := ?_
        operations := ?_
        otherOperations := ?_
        loans := rfl
        patrons := rfl
        receipts := rfl }
    · intro other hother
      rw [List.mem_singleton.mp hother]
      exact ⟨hrow, Table.lookup_insert db.books row.released⟩
    · intro id hne
      exact Table.lookup_insert_ne _ _ (hne row (List.mem_singleton_self row)).symm
    · intro other hother
      rw [List.mem_singleton.mp hother]
      exact ⟨token, operation, now, htoken, hholds, hlookup, AList.lookup_insert _⟩
    · intro id hne
      have hkey := hne row (List.mem_singleton_self row)
      rw [htoken, Option.map_some] at hkey
      exact AList.lookup_insert_ne fun hsame => hkey (congrArg some hsame.symm)

end Held

end Database

end LibrarySystem
