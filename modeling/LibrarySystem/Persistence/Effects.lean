import LibrarySystem.Persistence.SessionRules

/-!
# What statements do to the database

One case for each kind of statement, with the checks it passed; then, for a list of
statements, what was appended to the outbox and which rows were written.
-/

namespace LibrarySystem

open Result

/-! ## Text that can be stored -/

theorem storable_of_isAscii {text : PyStr} (hascii : text.isAscii = true)
    (hnul : text.hasNul = false) : storable text = true := by
  simp [storable, PyStr.hasSurrogate_eq_false_of_isAscii hascii, hnul]

/-- An id in the form of the wire can be stored. -/
theorem storable_of_matchesUuidPattern {shape : List Bool} {text : PyStr}
    (hform : matchesUuidPattern shape text = true) : storable text = true := by
  have hchars : ∀ c ∈ text, c.isAscii = true ∧ c.val ≠ 0 := by
    intro c hc
    rcases mem_of_matchesUuidPattern hform hc with hdigit | hhyphen
    · simp only [isHexDigit, CodePoint.isDigit, Bool.or_eq_true, Bool.and_eq_true,
        decide_eq_true_eq] at hdigit
      simp only [CodePoint.isAscii, decide_eq_true_eq]
      omega
    · simp only [isHyphen, beq_iff_eq] at hhyphen
      simp [CodePoint.isAscii, hhyphen]
  apply storable_of_isAscii
  · exact List.all_eq_true.mpr fun c hc => (hchars c hc).1
  · rw [Json.hasNul_eq_not_all]
    simpa using fun c hc => (hchars c hc).2

theorem storable_reference (reference : Reference) : storable reference.val = true := by
  have hmatch := reference.property
  simp only [isReference, Bool.and_eq_true] at hmatch
  have hchars : ∀ c ∈ reference.val, c.isAscii = true ∧ c.val ≠ 0 := by
    intro c hc
    have htail := PyStr.matchesHeadTail_mem hmatch.2
      (fun d hd => by simp [isReferenceTail, hd]) hc
    simp only [isReferenceTail, CodePoint.isAlphanumeric, CodePoint.isLetter,
      CodePoint.isUpper, CodePoint.isLower, CodePoint.isDigit, Bool.or_eq_true,
      Bool.and_eq_true, decide_eq_true_eq, beq_iff_eq] at htail
    simp only [CodePoint.isAscii, decide_eq_true_eq]
    omega
  apply storable_of_isAscii
  · exact List.all_eq_true.mpr fun c hc => (hchars c hc).1
  · rw [Json.hasNul_eq_not_all]
    simpa using fun c hc => (hchars c hc).2

/-! ## What a statement does -/

/-- The aggregate a statement writes. -/
def Statement.target : Statement → Option Aggregate
  | insertAggregate aggregate | updateAggregate _ aggregate => some aggregate
  | _ => none

def Statement.outboxRow : Statement → Option OutboxRow
  | insertOutbox row => some row
  | _ => none

namespace Database

/-- A statement that took effect. -/
inductive Effect (db : Database) : Statement → Database → Prop
  | insertBook (book : Book) (hnew : db.books.lookup book.id.val = none)
      (hreservation : taken db.books (fun row => row.state.reservation_id)
        (.ofEntity book 0) = false) :
      Effect db (.insertAggregate (.book book))
        { db with books := db.books.insert (.ofEntity book 0) }
  | insertLoan (loan : Loan) (hnew : db.loans.lookup loan.id.val = none)
      (hreservation : taken db.loans (fun row => some row.reservation_id)
        (.ofEntity loan 0) = false)
      (hbook : taken db.loans LoanRow.outstandingBook (.ofEntity loan 0) = false) :
      Effect db (.insertAggregate (.loan loan))
        { db with loans := db.loans.insert (.ofEntity loan 0) }
  | insertPatron (patron : Patron) (hnew : db.patrons.lookup patron.id.val = none) :
      Effect db (.insertAggregate (.patron patron))
        { db with patrons := db.patrons.insert (.ofEntity patron 0) }
  | updateBook (row : BookRow) (book : Book)
      (hrow : db.books.lookup book.id.val = some row)
      (hreservation : taken db.books (fun row => row.state.reservation_id)
        (row.write book) = false) :
      Effect db (.updateAggregate row.version (.book book))
        { db with books := db.books.insert (row.write book) }
  | updateLoan (row : LoanRow) (loan : Loan)
      (hrow : db.loans.lookup loan.id.val = some row)
      (hreservation : taken db.loans (fun row => some row.reservation_id)
        (row.write loan) = false)
      (hbook : taken db.loans LoanRow.outstandingBook (row.write loan) = false) :
      Effect db (.updateAggregate row.version (.loan loan))
        { db with loans := db.loans.insert (row.write loan) }
  | updatePatron (row : PatronRow) (patron : Patron)
      (hrow : db.patrons.lookup patron.id.val = some row) :
      Effect db (.updateAggregate row.version (.patron patron))
        { db with patrons := db.patrons.insert (row.write patron) }
  | insertOperation (id : PyStr) (operation : BorrowOperation)
      (hnew : db.borrow_operations.lookup id = none) (hform : operation.wellFormed id = true) :
      Effect db (.insertOperation id operation)
        { db with borrow_operations := db.borrow_operations.insert id operation }
  | transitionOperation (change : OperationTransition) (operation : BorrowOperation)
      (hfound : db.borrow_operations.lookup change.operation_id = some operation)
      (hmatches : change.matches_ operation = true)
      (hform : (change.write operation).wellFormed change.operation_id = true) :
      Effect db (.transitionOperation change)
        { db with
          borrow_operations :=
            db.borrow_operations.insert change.operation_id (change.write operation) }
  | insertReceipt (scope key : PyStr) (receipt : CommandReceipt)
      (hnew : db.command_receipts.lookup (scope, key) = none) :
      Effect db (.insertReceipt scope key receipt)
        { db with
          command_receipts := db.command_receipts.insert (scope, key) receipt }
  | insertOutbox (row : OutboxRow) (hnew : ∀ other ∈ db.outbox, other.id ≠ row.id) :
      Effect db (.insertOutbox row) { db with outbox := db.outbox ++ [row] }

variable {db after : Database}

theorem storeBook_ok {row : BookRow} (hstore : db.storeBook row = .ok after) :
    taken db.books (fun row => row.state.reservation_id) row = false ∧
      after = { db with books := db.books.insert row } := by
  unfold storeBook at hstore
  split_ifs at hstore with hreservation
  cases hstore
  exact ⟨Bool.eq_false_of_not_eq_true hreservation, rfl⟩

theorem storeLoan_ok {row : LoanRow} (hstore : db.storeLoan row = .ok after) :
    taken db.loans (fun row => some row.reservation_id) row = false ∧
      taken db.loans LoanRow.outstandingBook row = false ∧
      after = { db with loans := db.loans.insert row } := by
  unfold storeLoan at hstore
  split_ifs at hstore with hreservation hbook
  cases hstore
  exact ⟨Bool.eq_false_of_not_eq_true hreservation, Bool.eq_false_of_not_eq_true hbook, rfl⟩

theorem storePatron_ok {row : PatronRow} (hstore : db.storePatron row = .ok after) :
    after = { db with patrons := db.patrons.insert row } := by
  unfold storePatron at hstore
  split_ifs at hstore
  cases hstore
  rfl

theorem storeOperation_ok {id : PyStr} {operation : BorrowOperation}
    (hstore : db.storeOperation id operation = .ok after) :
    operation.wellFormed id = true ∧
      after = { db with borrow_operations := db.borrow_operations.insert id operation } := by
  unfold storeOperation at hstore
  split_ifs at hstore with hfits
  split at hstore
  · cases hstore
  · rename_i hchecks
    cases hstore
    simp only [Bool.not_eq_true', Bool.not_eq_false] at hfits
    simp only [List.find?_eq_none, Bool.not_eq_true', Bool.not_eq_false] at hchecks
    rw [BorrowOperation.wellFormed, hfits, Bool.true_and, List.all_eq_true]
    exact ⟨hchecks, rfl⟩

theorem insertAggregate_effect {aggregate : Aggregate}
    (hinsert : db.insertAggregate aggregate = .ok after) :
    Effect db (.insertAggregate aggregate) after := by
  cases aggregate with
  | book book =>
      simp only [insertAggregate] at hinsert
      split_ifs at hinsert with hnew
      obtain ⟨hreservation, rfl⟩ := storeBook_ok hinsert
      exact .insertBook book (Option.not_isSome_iff_eq_none.mp hnew) hreservation
  | loan loan =>
      simp only [insertAggregate] at hinsert
      split_ifs at hinsert with hnew
      obtain ⟨hreservation, hbook, rfl⟩ := storeLoan_ok hinsert
      exact .insertLoan loan (Option.not_isSome_iff_eq_none.mp hnew) hreservation hbook
  | patron patron =>
      simp only [insertAggregate] at hinsert
      split_ifs at hinsert with hnew
      rw [storePatron_ok hinsert]
      exact .insertPatron patron (Option.not_isSome_iff_eq_none.mp hnew)

theorem updateAggregate_effect {expected : ℕ} {aggregate : Aggregate}
    (hupdate : db.updateAggregate expected aggregate = .ok after) :
    Effect db (.updateAggregate expected aggregate) after := by
  cases aggregate with
  | book book =>
      simp only [updateAggregate] at hupdate
      split at hupdate
      · cases hupdate
      · rename_i row hrow
        split_ifs at hupdate with hversion
        obtain ⟨hreservation, rfl⟩ := storeBook_ok hupdate
        subst expected
        exact .updateBook row book hrow hreservation
  | loan loan =>
      simp only [updateAggregate] at hupdate
      split at hupdate
      · cases hupdate
      · rename_i row hrow
        split_ifs at hupdate with hversion
        obtain ⟨hreservation, hbook, rfl⟩ := storeLoan_ok hupdate
        subst expected
        exact .updateLoan row loan hrow hreservation hbook
  | patron patron =>
      simp only [updateAggregate] at hupdate
      split at hupdate
      · cases hupdate
      · rename_i row hrow
        split_ifs at hupdate with hversion
        rw [storePatron_ok hupdate]
        subst expected
        exact .updatePatron row patron hrow

theorem runAll_append (first second : List Statement) :
    db.runAll (first ++ second) = db.runAll first >>= fun mid => mid.runAll second := by
  induction first generalizing db with
  | nil => rfl
  | cons statement rest ih =>
      rw [List.cons_append, runAll, runAll]
      cases db.run statement with
      | error refusal => rfl
      | ok after => exact ih

/-- Outbox rows with new ids are appended. -/
theorem runAll_insertOutbox {rows : List OutboxRow} (hids : (rows.map OutboxRow.id).Nodup)
    (hnew : ∀ row ∈ rows, ∀ other ∈ db.outbox, other.id ≠ row.id) :
    db.runAll (rows.map .insertOutbox) = .ok { db with outbox := db.outbox ++ rows } := by
  induction rows generalizing db with
  | nil => simp [runAll]
  | cons row others ih =>
      simp only [List.map_cons, List.nodup_cons] at hids
      have hfresh : (db.outbox.any fun other => other.id = row.id) = false := by
        simpa using hnew row List.mem_cons_self
      have hfirst : db.run (.insertOutbox row) =
          .ok { db with outbox := db.outbox ++ [row] } := by
        simp [run, Statement.texts, perform, insertOutbox, hfresh]
      have hothers : ∀ other ∈ others, ∀ earlier ∈ db.outbox ++ [row],
          earlier.id ≠ other.id := by
        intro other hother earlier hearlier
        rcases List.mem_append.mp hearlier with hold | hlast
        · exact hnew other (List.mem_cons_of_mem _ hother) earlier hold
        · rw [List.mem_singleton.mp hlast]
          intro hsame
          exact hids.1 (List.mem_map.mpr ⟨other, hother, hsame.symm⟩)
      rw [List.map_cons, runAll, hfirst, ok_bind, ih hids.2 hothers]
      simp

theorem run_effect {statement : Statement} (hrun : db.run statement = .ok after) :
    Effect db statement after := by
  unfold run at hrun
  split_ifs at hrun
  cases statement with
  | insertAggregate aggregate => exact insertAggregate_effect hrun
  | updateAggregate expected aggregate => exact updateAggregate_effect hrun
  | insertOperation id operation =>
      obtain ⟨stored, hstore, hrun⟩ := Result.bind_eq_ok.mp hrun
      split_ifs at hrun with hnew
      cases hrun
      obtain ⟨hform, rfl⟩ := storeOperation_ok hstore
      exact .insertOperation id operation (Option.not_isSome_iff_eq_none.mp hnew) hform
  | transitionOperation change =>
      simp only [perform, Database.transitionOperation] at hrun
      split at hrun
      · cases hrun
      · rename_i operation hfound
        split_ifs at hrun with hmatches
        obtain ⟨hform, rfl⟩ := storeOperation_ok hrun
        exact .transitionOperation change operation hfound hmatches hform
  | insertReceipt scope key receipt =>
      simp only [perform, Database.insertReceipt] at hrun
      split_ifs at hrun with hnew
      cases hrun
      exact .insertReceipt scope key receipt (Option.not_isSome_iff_eq_none.mp hnew)
  | insertOutbox row =>
      simp only [perform, Database.insertOutbox] at hrun
      split_ifs at hrun with hnew
      cases hrun
      refine .insertOutbox row fun other hother hsame => hnew ?_
      exact List.any_eq_true.mpr ⟨other, hother, decide_eq_true hsame⟩

/-- Statements that took effect one after the other. -/
inductive Effects : Database → List Statement → Database → Prop
  | nil (db : Database) : Effects db [] db
  | cons {db middle after : Database} {statement : Statement} {rest : List Statement}
      (first : Effect db statement middle) (others : Effects middle rest after) :
      Effects db (statement :: rest) after

theorem runAll_effects {statements : List Statement}
    (hrun : db.runAll statements = .ok after) : Effects db statements after := by
  induction statements generalizing db with
  | nil =>
      cases hrun
      exact .nil after
  | cons statement rest ih =>
      obtain ⟨middle, hstatement, hrest⟩ := bind_eq_ok.mp hrun
      exact .cons (run_effect hstatement) (ih hrest)

theorem Effects.append {first second : List Statement}
    (heffects : Effects db (first ++ second) after) :
    ∃ middle, Effects db first middle ∧ Effects middle second after := by
  induction first generalizing db with
  | nil => exact ⟨db, .nil db, heffects⟩
  | cons statement rest ih =>
      cases heffects with
      | cons hfirst hothers =>
          obtain ⟨middle, hrest, hsecond⟩ := ih hothers
          exact ⟨middle, .cons hfirst hrest, hsecond⟩

theorem Effect.outbox {statement : Statement} (heffect : Effect db statement after) :
    after.outbox = db.outbox ++ statement.outboxRow.toList := by
  cases heffect <;> simp [Statement.outboxRow]

theorem Effects.outbox {statements : List Statement}
    (heffects : Effects db statements after) :
    after.outbox = db.outbox ++ statements.filterMap Statement.outboxRow := by
  induction heffects with
  | nil => simp
  | @cons _ _ _ statement _ hfirst _ ih =>
      rw [ih, hfirst.outbox, List.append_assoc]
      cases hrow : statement.outboxRow <;> simp [hrow]

end Database

/-! ## The rows that are written -/

open Database

/-- The columns the repository of an aggregate writes, and what its INSERT and UPDATE
do to its table; no other statement touches the table. -/
class Repository (A : Type) [Stored A] where
  ofEntity : A → ℕ → Stored.Row A
  write : Stored.Row A → A → Stored.Row A
  wrap_injective : ∀ first second : A, Stored.wrap first = Stored.wrap second →
    first = second
  key_ofEntity : ∀ (aggregate : A) (version : ℕ),
    Stored.key (ofEntity aggregate version) = (Stored.wrap aggregate).idText
  key_write : ∀ (row : Stored.Row A) (aggregate : A),
    Stored.key (write row aggregate) = Stored.key row
  version_ofEntity : ∀ (aggregate : A) (version : ℕ),
    Stored.version (ofEntity aggregate version) = version
  version_write : ∀ (row : Stored.Row A) (aggregate : A),
    Stored.version (write row aggregate) = Stored.version row + 1
  toEntity_eq_ok_iff : ∀ (row : Stored.Row A) (aggregate : A),
    Stored.toEntity row = .ok aggregate ↔ row = ofEntity aggregate (Stored.version row)
  inserted : ∀ (db after : Database) (aggregate : A),
    Effect db (.insertAggregate (Stored.wrap aggregate)) after →
      (Stored.table (A := A) db).lookup (Stored.wrap aggregate).idText = none ∧
      Stored.table (A := A) after = (Stored.table db).insert (ofEntity aggregate 0)
  updated : ∀ (db after : Database) (version : ℕ) (aggregate : A),
    Effect db (.updateAggregate version (Stored.wrap aggregate)) after →
      ∃ row, (Stored.table (A := A) db).lookup (Stored.wrap aggregate).idText = some row ∧
        Stored.version row = version ∧
        Stored.table (A := A) after = (Stored.table db).insert (write row aggregate)
  kept : ∀ (db after : Database) (statement : Statement), Effect db statement after →
    (∀ aggregate : A, statement.target ≠ some (Stored.wrap aggregate)) →
      Stored.table (A := A) after = Stored.table db

instance : Repository Book where
  ofEntity := .ofEntity
  write := .write
  wrap_injective _ _ hsame := Aggregate.book.inj hsame
  key_ofEntity _ _ := rfl
  key_write _ _ := rfl
  version_ofEntity _ _ := rfl
  version_write _ _ := rfl
  toEntity_eq_ok_iff := BookRow.toEntity_eq_ok_iff
  inserted _ _ _ heffect := by
    cases heffect with
    | insertBook _ hnew => exact ⟨hnew, rfl⟩
  updated _ _ _ _ heffect := by
    cases heffect with
    | updateBook row _ hrow => exact ⟨row, hrow, rfl, rfl⟩
  kept _ _ _ heffect hother := by
    cases heffect with
    | insertBook book | updateBook _ book => exact absurd rfl (hother book)
    | _ => rfl

instance : Repository Loan where
  ofEntity := .ofEntity
  write := .write
  wrap_injective _ _ hsame := Aggregate.loan.inj hsame
  key_ofEntity _ _ := rfl
  key_write _ _ := rfl
  version_ofEntity _ _ := rfl
  version_write _ _ := rfl
  toEntity_eq_ok_iff := LoanRow.toEntity_eq_ok_iff
  inserted _ _ _ heffect := by
    cases heffect with
    | insertLoan _ hnew => exact ⟨hnew, rfl⟩
  updated _ _ _ _ heffect := by
    cases heffect with
    | updateLoan row _ hrow => exact ⟨row, hrow, rfl, rfl⟩
  kept _ _ _ heffect hother := by
    cases heffect with
    | insertLoan loan | updateLoan _ loan => exact absurd rfl (hother loan)
    | _ => rfl

instance : Repository Patron where
  ofEntity := .ofEntity
  write := .write
  wrap_injective _ _ hsame := Aggregate.patron.inj hsame
  key_ofEntity _ _ := rfl
  key_write _ _ := rfl
  version_ofEntity _ _ := rfl
  version_write _ _ := rfl
  toEntity_eq_ok_iff := PatronRow.toEntity_eq_ok_iff
  inserted _ _ _ heffect := by
    cases heffect with
    | insertPatron _ hnew => exact ⟨hnew, rfl⟩
  updated _ _ _ _ heffect := by
    cases heffect with
    | updatePatron row _ hrow => exact ⟨row, hrow, rfl, rfl⟩
  kept _ _ _ heffect hother := by
    cases heffect with
    | insertPatron patron | updatePatron _ patron => exact absurd rfl (hother patron)
    | _ => rfl

section Rows

variable {A : Type} [Stored A] [Repository A] {db middle after : Database}

/-- The INSERT or the UPDATE of the aggregate took effect on its row. -/
def Wrote (db after : Database) (aggregate : A) : Prop :=
  ((Stored.table (A := A) db).lookup (Stored.wrap aggregate).idText = none ∧
    (Stored.table (A := A) after).lookup (Stored.wrap aggregate).idText =
      some (Repository.ofEntity aggregate 0)) ∨
  ∃ row, (Stored.table (A := A) db).lookup (Stored.wrap aggregate).idText = some row ∧
    (Stored.table (A := A) after).lookup (Stored.wrap aggregate).idText =
      some (Repository.write row aggregate)

/-- The rows of these aggregates were written, and no other row of their table. -/
structure WroteOnly (A : Type) [Stored A] [Repository A] (db after : Database)
    (written : List Aggregate) : Prop where
  wrote : ∀ aggregate : A, Stored.wrap aggregate ∈ written → Wrote db after aggregate
  kept : ∀ id, (∀ aggregate : A, Stored.wrap aggregate ∈ written →
      (Stored.wrap aggregate).idText ≠ id) →
    (Stored.table (A := A) after).lookup id = (Stored.table (A := A) db).lookup id

theorem Database.Effect.wrote {statement : Statement} {aggregate : A}
    (heffect : Effect db statement after)
    (htarget : statement.target = some (Stored.wrap aggregate)) :
    Wrote db after aggregate := by
  cases statement with
  | insertAggregate target =>
      simp only [Statement.target, Option.some.injEq] at htarget
      subst target
      obtain ⟨hnew, htable⟩ := Repository.inserted db after aggregate heffect
      refine Or.inl ⟨hnew, ?_⟩
      rw [htable, ← Repository.key_ofEntity aggregate 0]
      exact Table.lookup_insert _ _
  | updateAggregate version target =>
      simp only [Statement.target, Option.some.injEq] at htarget
      subst target
      obtain ⟨row, hrow, -, htable⟩ := Repository.updated db after version aggregate heffect
      refine Or.inr ⟨row, hrow, ?_⟩
      have hkey : Stored.key (Repository.write row aggregate) =
          (Stored.wrap aggregate).idText := by
        rw [Repository.key_write]
        exact (Stored.table (A := A) db).keyed _ _ hrow
      rw [htable, ← hkey]
      exact Table.lookup_insert _ _
  | _ => cases htarget

theorem Database.Effect.lookup_ne {statement : Statement} {id : PyStr}
    (heffect : Effect db statement after)
    (hother : ∀ aggregate : A, statement.target = some (Stored.wrap aggregate) →
      (Stored.wrap aggregate).idText ≠ id) :
    (Stored.table (A := A) after).lookup id = (Stored.table (A := A) db).lookup id := by
  by_cases htarget : ∃ aggregate : A, statement.target = some (Stored.wrap aggregate)
  · obtain ⟨aggregate, htarget⟩ := htarget
    have hne := hother aggregate htarget
    cases statement with
    | insertAggregate target =>
        simp only [Statement.target, Option.some.injEq] at htarget
        subst target
        obtain ⟨-, htable⟩ := Repository.inserted db after aggregate heffect
        rw [htable]
        apply Table.lookup_insert_ne
        rw [Repository.key_ofEntity]
        exact hne.symm
    | updateAggregate version target =>
        simp only [Statement.target, Option.some.injEq] at htarget
        subst target
        obtain ⟨row, hrow, -, htable⟩ := Repository.updated db after version aggregate heffect
        rw [htable]
        apply Table.lookup_insert_ne
        rw [Repository.key_write, (Stored.table (A := A) db).keyed _ _ hrow]
        exact hne.symm
    | _ => cases htarget
  · rw [Repository.kept db after statement heffect fun aggregate hsame =>
      htarget ⟨aggregate, hsame⟩]

theorem Database.Effects.lookup_ne {statements : List Statement} {id : PyStr}
    (heffects : Effects db statements after)
    (hother : ∀ aggregate : A,
      Stored.wrap aggregate ∈ statements.filterMap Statement.target →
        (Stored.wrap aggregate).idText ≠ id) :
    (Stored.table (A := A) after).lookup id = (Stored.table (A := A) db).lookup id := by
  induction heffects with
  | nil => rfl
  | @cons _ _ _ statement rest hfirst _ ih =>
      have hhere : ∀ aggregate : A, statement.target = some (Stored.wrap aggregate) →
          (Stored.wrap aggregate).idText ≠ id := fun aggregate htarget =>
        hother aggregate (List.mem_filterMap.mpr ⟨statement, List.mem_cons_self, htarget⟩)
      rw [ih fun aggregate hmem => hother aggregate ?_, hfirst.lookup_ne hhere]
      obtain ⟨other, hmem, htarget⟩ := List.mem_filterMap.mp hmem
      exact List.mem_filterMap.mpr ⟨other, List.mem_cons_of_mem _ hmem, htarget⟩

/-- Statements for different aggregates write the rows of these and no others. -/
theorem Database.Effects.wroteOnly {statements : List Statement}
    (heffects : Effects db statements after)
    (hids : ((statements.filterMap Statement.target).map Aggregate.idText).Nodup) :
    WroteOnly A db after (statements.filterMap Statement.target) := by
  refine ⟨fun aggregate hwritten => ?_, fun _ => heffects.lookup_ne⟩
  induction heffects with
  | nil => cases hwritten
  | @cons db middle after statement rest hfirst hothers ih =>
      cases htarget : statement.target with
      | none =>
          rw [List.filterMap_cons_none htarget] at hids hwritten
          have hsame : Stored.table (A := A) middle = Stored.table db :=
            Repository.kept _ _ _ hfirst fun other => by simp [htarget]
          have hwrote := ih hids hwritten
          unfold Wrote at hwrote ⊢
          rw [← hsame]
          exact hwrote
      | some target =>
          rw [List.filterMap_cons_some htarget] at hids hwritten
          simp only [List.map_cons, List.nodup_cons, List.mem_map, not_exists,
            not_and] at hids
          rcases List.mem_cons.mp hwritten with rfl | hlater
          · have hwrote := hfirst.wrote htarget
            have hrest := hothers.lookup_ne (A := A) fun other hother =>
              hids.1 _ hother
            unfold Wrote at hwrote ⊢
            rw [hrest]
            exact hwrote
          · have hwrote := ih hids.2 hlater
            have hother : ∀ other : A, statement.target = some (Stored.wrap other) →
                (Stored.wrap other).idText ≠ (Stored.wrap aggregate).idText := by
              intro other hother hsame
              rw [htarget, Option.some.injEq] at hother
              rw [← hother] at hsame
              exact hids.1 _ hlater hsame.symm
            unfold Wrote at hwrote ⊢
            rw [← hfirst.lookup_ne hother]
            exact hwrote

/-- Around the one statement that writes a row, the others leave it alone. -/
theorem Database.Effects.isolate {statements : List Statement} {statement : Statement}
    {aggregate : A} (heffects : Effects db statements after)
    (hids : ((statements.filterMap Statement.target).map Aggregate.idText).Nodup)
    (hmem : statement ∈ statements)
    (htarget : statement.target = some (Stored.wrap aggregate)) :
    ∃ middle stored, Effect middle statement stored ∧
      (Stored.table (A := A) middle).lookup (Stored.wrap aggregate).idText =
        (Stored.table (A := A) db).lookup (Stored.wrap aggregate).idText ∧
      (Stored.table (A := A) after).lookup (Stored.wrap aggregate).idText =
        (Stored.table (A := A) stored).lookup (Stored.wrap aggregate).idText := by
  obtain ⟨earlier, later, rfl⟩ := List.append_of_mem hmem
  obtain ⟨middle, hearlier, hrest⟩ := heffects.append
  cases hrest with
  | @cons _ stored _ _ _ hfirst hlater =>
      simp only [List.filterMap_append, List.filterMap_cons_some htarget, List.map_append,
        List.map_cons, List.nodup_append, List.nodup_cons, List.mem_cons] at hids
      obtain ⟨-, ⟨hafter, -⟩, hbefore⟩ := hids
      refine ⟨middle, stored, hfirst, hearlier.lookup_ne fun other hother hsame => ?_,
        hlater.lookup_ne fun other hother hsame => ?_⟩
      · exact hbefore _ (List.mem_map_of_mem hother) _ (Or.inl rfl) hsame
      · exact hafter (hsame ▸ List.mem_map_of_mem hother)

end Rows

end LibrarySystem
