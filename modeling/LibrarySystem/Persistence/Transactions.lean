import LibrarySystem.Foundation.Machine
import LibrarySystem.Foundation.RowLocks
import LibrarySystem.Persistence.Effects
import LibrarySystem.Persistence.Rehydration

/-!
# Transactions, one statement at a time

The handlers' transactions run their statements when they commit.  Here every statement is a
step of its own: an UPDATE is executed where the repository issues it, its row stays locked
until the transaction ends, and the others go on in between.  A schedule chooses what each
transaction does next, so its steps are those of any program over the repository.
-/

namespace LibrarySystem

/-! ## What the three repositories do not share -/

/-- The calls of an aggregate, the columns its UPDATE leaves as they are, its table with another
row, and its UPDATE of another version. -/
class Transactional (A : Type) [Stored A] [Repository A] where
  Call : Type
  answer : PythonRuntime → A → Call → A × List AggregateEvent
  Fixed : Type
  fixed : A → Fixed
  put : Database → Stored.Row A → Database
  fixed_answer : ∀ rt aggregate call, fixed (answer rt aggregate call).1 = fixed aggregate
  idText_eq : ∀ first second, fixed first = fixed second →
    (Stored.wrap first).idText = (Stored.wrap second).idText
  write_eq : ∀ row before after, Stored.toEntity row = .ok before → fixed after = fixed before →
    Repository.write row after = Repository.ofEntity after (Stored.version row + 1)
  table_put : ∀ db row, Stored.table (A := A) (put db row) = (Stored.table db).insert row
  stale : ∀ (db : Database) (expected : ℕ) (aggregate : A) (row : Stored.Row A),
    (Stored.table db).lookup (Stored.wrap aggregate).idText = some row →
      Stored.version row ≠ expected →
      db.updateAggregate expected (Stored.wrap aggregate) = .error (.stale (Stored.wrap aggregate))

theorem BookRow.write_eq {row : BookRow} {before after : Book} (hrow : row.toEntity = .ok before)
    (hfixed : after.fixed = before.fixed) : row.write after = ofEntity after (row.version + 1) := by
  rw [toEntity_eq_ok_iff] at hrow
  simp only [Book.fixed, Prod.mk.injEq] at hfixed
  obtain ⟨hid, htitle, hauthor⟩ := hfixed
  rw [write, ofEntity, hid, htitle, hauthor]
  rw [hrow]
  rfl

theorem LoanRow.write_eq {row : LoanRow} {before after : Loan} (hrow : row.toEntity = .ok before)
    (hfixed : after.fixed = before.fixed) : row.write after = ofEntity after (row.version + 1) := by
  rw [toEntity_eq_ok_iff] at hrow
  simp only [Loan.fixed, Prod.mk.injEq] at hfixed
  obtain ⟨hid, hpatron, hemail, hbook, htoken, hgeneration, htitle, hborrowed⟩ := hfixed
  rw [write, ofEntity, hid, hpatron, hemail, hbook, htoken, hgeneration, htitle, hborrowed]
  rw [hrow]
  rfl

theorem PatronRow.write_eq {row : PatronRow} {before after : Patron}
    (hrow : row.toEntity = .ok before) (hfixed : after.fixed = before.fixed) :
    row.write after = ofEntity after (row.version + 1) := by
  rw [toEntity_eq_ok_iff] at hrow
  simp only [Patron.fixed, Prod.mk.injEq] at hfixed
  obtain ⟨hid, hregistered⟩ := hfixed
  rw [write, ofEntity, hid, hregistered]
  rw [hrow]
  rfl

instance : Transactional Book where
  Call := BookCall
  answer rt book call := call.answer rt book
  Fixed := Reference × BoundedText 100 × BoundedText 200
  fixed := Book.fixed
  put db row := { db with books := db.books.insert row }
  fixed_answer rt book call := call.answer_fixed rt book
  idText_eq _ _ hsame := congrArg (fun columns => columns.1.val) hsame
  write_eq _ _ _ := BookRow.write_eq
  table_put _ _ := rfl
  stale db expected book row hrow hversion := by
    have hfound : db.books.lookup book.id.val = some row := hrow
    have hother : row.version ≠ expected := hversion
    simp [Stored.wrap, Database.updateAggregate, hfound, hother]

instance : Transactional Loan where
  Call := LoanCall
  answer _ loan call := call.answer loan
  Fixed := Reference × Reference × EmailAddress × Reference × Uuid × ℤ × BoundedText 100 ×
    UtcDateTime
  fixed := Loan.fixed
  put db row := { db with loans := db.loans.insert row }
  fixed_answer _ loan call := call.answer_fixed loan
  idText_eq _ _ hsame := congrArg (fun columns => columns.1.val) hsame
  write_eq _ _ _ := LoanRow.write_eq
  table_put _ _ := rfl
  stale db expected loan row hrow hversion := by
    have hfound : db.loans.lookup loan.id.val = some row := hrow
    have hother : row.version ≠ expected := hversion
    simp [Stored.wrap, Database.updateAggregate, hfound, hother]

instance : Transactional Patron where
  Call := PatronCall
  answer _ patron call := call.answer patron
  Fixed := Reference × UtcDateTime
  fixed := Patron.fixed
  put db row := { db with patrons := db.patrons.insert row }
  fixed_answer _ patron call := call.answer_fixed patron
  idText_eq _ _ hsame := congrArg (fun columns => columns.1.val) hsame
  write_eq _ _ _ := PatronRow.write_eq
  table_put _ _ := rfl
  stale db expected patron row hrow hversion := by
    have hfound : db.patrons.lookup patron.id.val = some row := hrow
    have hother : row.version ≠ expected := hversion
    simp [Stored.wrap, Database.updateAggregate, hfound, hother]

/-! ## The transactions -/

/-- How a transaction ended. -/
inductive Ending
  | committed
  | rolledBack
  | raised (error : AppException)

section Machine

variable (A : Type) [Stored A] [Repository A] [Transactional A]

/-- One `async with self.uow`.  Beside its session stand the rows its objects were read
from, the calls on them, and the rows its UPDATEs have left, which nobody else sees before
the commit. -/
structure Transaction where
  session : UnitOfWork A := {}
  loaded : List (PyStr × Stored.Row A) := []
  calls : List (PyStr × Transactional.Call A) := []
  written : List (Stored.Row A) := []
  ended : Option Ending := none

/-- What a transaction does next. -/
inductive Operation
  | load (id : PyStr)
  | add (aggregate : A) (events : List DomainEvent)
  | call (id : PyStr) (request : Transactional.Call A) (draws : Draws)
  | update (id : PyStr)
  | stage (statement : Statement)
  | commit (draws : Draws)
  | rollback
  | fail

/-- A commit, with the database before and after it. -/
structure Commit where
  index : ℕ
  transaction : Transaction A
  before : Database
  after : Database

structure TransactionWorld where
  shared : Database
  transactions : List (Transaction A)
  log : List (Commit A)

/-- A transaction begins or goes on; or something else changes the database. -/
inductive TransactionAction
  | start
  | run (i : ℕ) (operation : Operation A)
  | change (after : Database)

variable {A}

namespace Transaction

/-- The calls on one object. -/
def callsOn (transaction : Transaction A) (id : PyStr) : List (Transactional.Call A) :=
  (transaction.calls.filter fun entry => entry.1 = id).map Prod.snd

/-- The transaction has updated the row and holds its lock. -/
def updates (transaction : Transaction A) (id : PyStr) : Bool :=
  transaction.written.any fun row => Stored.key row = id

/-- The database as the transaction sees it. -/
def view (transaction : Transaction A) (db : Database) : Database :=
  transaction.written.foldl Transactional.put db

def raise (transaction : Transaction A) (error : AppException) : Transaction A :=
  { transaction with ended := some (.raised error) }

end Transaction

/-- What `update` makes of a refused statement. -/
def updateError : Refusal → AppException
  | .stale aggregate => .concurrentModification aggregate
  | refusal => .database refusal

namespace TransactionWorld

/-- The statements wait for a transaction that has their row, and for one that decides by how
it ends whether the unique indexes take them. -/
def waits (world : TransactionWorld A) (i : ℕ) (own : Transaction A) (target : Option PyStr)
    (statements : List Statement) : Bool :=
  world.transactions.zipIdx.any fun entry =>
    decide (entry.2 ≠ i) && entry.1.ended.isNone &&
      (target.any entry.1.updates ||
        (((own.view (entry.1.view world.shared)).runAll statements).isOk !=
          ((own.view world.shared).runAll statements).isOk))

/-- One operation of a running transaction: the transaction after it, and the database when
it has committed; none while a statement waits. -/
def operate (rt : PythonRuntime) (world : TransactionWorld A) (i : ℕ) (own : Transaction A) :
    Operation A → Option (Transaction A × Option Database)
  | .load id =>
      match own.session.find id with
      | some _ => some (own, none)
      | none =>
          match (Stored.table (A := A) world.shared).lookup id with
          | none => some (own, none)
          | some row =>
              match Stored.toEntity row with
              | .error error => some (own.raise (.raised error), none)
              | .ok aggregate =>
                  some ({ own with
                    session := own.session.track id ⟨aggregate, Stored.version row, []⟩
                    loaded := own.loaded ++ [(id, row)] }, none)
  | .add aggregate events =>
      some ({ own with
        session := (own.session.record aggregate events).save
          (.insertAggregate (Stored.wrap aggregate)) ⟨aggregate, 0, events⟩ }, none)
  | .call id request draws => do
      let entity ← own.session.find id
      let answered := Transactional.answer rt entity.aggregate request
      let stamped := Uow.stamp draws answered.2
      some ({ own with
        session := (own.session.track id (entity.changed answered.1 stamped)).record
          answered.1 stamped
        calls := own.calls ++ [(id, request)] }, none)
  | .update id => do
      let entity ← own.session.find id
      let statement := Statement.updateAggregate entity.version (Stored.wrap entity.aggregate)
      if world.waits i own (some id) [statement] then none
      else
        match (own.view world.shared).run statement with
        | .error refusal => some (own.raise (updateError refusal), none)
        | .ok after =>
            some ({ own with
              session := (own.session.track id
                { entity with version := entity.version + 1 }).markDirty id
              written := own.written ++ ((Stored.table (A := A) after).lookup id).toList },
              none)
  | .stage statement =>
      if statement.target.isNone && statement.outboxRow.isNone then
        some ({ own with session := own.session.issue statement }, none)
      else none
  | .commit draws =>
      match Uow.stageDomainEvents rt draws own.session with
      | .error error => some (own.raise (.registry error), none)
      | .ok rows =>
          let batch := own.session.statements ++ rows.map .insertOutbox
          if world.waits i own none batch then none
          else
            match (own.view world.shared).runAll batch with
            | .error refusal => some (own.raise (Uow.translate own.session refusal), none)
            | .ok after =>
                some ({ own with
                  session := own.session.clearCommittedEvents
                  ended := some .committed }, some after)
  | .rollback => some ({ own with ended := some .rolledBack }, none)
  -- a deadlock, a timeout or a lost connection
  | .fail => some (own.raise (.database .unavailable), none)

def step (rt : PythonRuntime) (world : TransactionWorld A) :
    TransactionAction A → Option (TransactionWorld A)
  | .start => some { world with transactions := world.transactions ++ [{}] }
  | .change after => some { world with shared := after }
  | .run i operation => do
      let own ← world.transactions[i]?
      if own.ended.isSome then none
      else
        let result ← world.operate rt i own operation
        some
          { shared := result.2.getD world.shared
            transactions := world.transactions.set i result.1
            log := world.log ++
              (result.2.map fun after => ⟨i, own, world.shared, after⟩).toList }

/-- A transaction adds new aggregates; those it loads it calls, and then updates once. -/
def Orderly (world : TransactionWorld A) : TransactionAction A → Prop
  | .run i (.add aggregate _) => ∀ own, world.transactions[i]? = some own →
      own.session.find (Stored.wrap aggregate).idText = none
  | .run i (.call id _ _) | .run i (.update id) => ∀ own, world.transactions[i]? = some own →
      id ∈ own.loaded.map Prod.fst ∧ own.updates id = false
  | .change after => Stored.table (A := A) after = Stored.table world.shared
  | _ => True

end TransactionWorld

/-- The transactions of one context, from an empty table on. -/
def transactionMachine (A : Type) [Stored A] [Repository A] [Transactional A]
    (rt : PythonRuntime) : Machine (TransactionWorld A) (TransactionAction A) where
  initial world := (∀ id, (Stored.table (A := A) world.shared).lookup id = none) ∧
    world.transactions = [] ∧ world.log = []
  step := TransactionWorld.step rt

/-- The worlds that orderly transactions reach. -/
def Transacted (rt : PythonRuntime) (world : TransactionWorld A) : Prop :=
  (transactionMachine A rt).ReachableUnder TransactionWorld.Orderly world

end Machine

end LibrarySystem
