import LibrarySystem.Application.OutboxExactness
import LibrarySystem.Application.PatronEffects
import LibrarySystem.Foundation.Interleaving

/-!
# The command side as a whole

All command handlers over one database: any number of requests at once, each cut off or
refused at any point, while retention deletes receipts, terminal operations and published
events.
-/

namespace LibrarySystem

inductive Request
  | addBook (command : AddBookCommand)
  | circulation (command : CirculationCommand)
  | registerPatron (command : RegisterPatronCommand)
  | suspendPatron (command : SuspendPatronCommand)
  | reinstatePatron (command : ReinstatePatronCommand)
  | upgradePatronTier (command : UpgradePatronTierCommand)

namespace Request

def Result : Request → Type
  | addBook _ => AddBookResult
  | circulation command => command.Result
  | _ => PatronSnapshot

def handle (rt : PythonRuntime) : (request : Request) → Command request.Result
  | addBook command => AddBookHandler.handle rt command
  | circulation command => command.handle rt
  | registerPatron command => RegisterPatronHandler.handle rt command
  | suspendPatron command => SuspendPatronHandler.handle rt command
  | reinstatePatron command => ReinstatePatronHandler.handle rt command
  | upgradePatronTier command => UpgradePatronTierHandler.handle rt command

end Request

/-- What a request answers with. -/
abbrev Answered : Type := (request : Request) × request.Result

namespace CirculationCommand

def spec (rt : PythonRuntime) : (command : CirculationCommand) → CommandSpec command.Result
  | borrowBook command => BorrowBookHandler.spec rt command
  | confirmBookBorrow command => ConfirmBookBorrowHandler.spec rt command
  | releaseBookReservation command => ReleaseBookReservationHandler.spec rt command
  | releaseExpiredReservations command => ReleaseExpiredReservationsHandler.spec rt command
  | returnBook command => ReturnBookHandler.spec rt command
  | createLoan command => CreateLoanHandler.spec rt command
  | extendLoan command => ExtendLoanHandler.spec rt command
  | returnLoan command => ReturnLoanHandler.spec rt command
  | cancelLoan command => CancelLoanHandler.spec rt command

theorem handle_meets (rt : PythonRuntime) (command : CirculationCommand)
    (known : Run.Knowledge Observation PyStr) :
    (command.handle rt).Meets (command.spec rt) known := by
  cases command with
  | borrowBook command => exact BorrowBookHandler.handle_meets rt command known
  | confirmBookBorrow command => exact ConfirmBookBorrowHandler.handle_meets rt command known
  | releaseBookReservation command =>
      exact ReleaseBookReservationHandler.handle_meets rt command known
  | releaseExpiredReservations command =>
      exact ReleaseExpiredReservationsHandler.handle_meets rt command known
  | returnBook command => exact ReturnBookHandler.handle_meets rt command known
  | createLoan command => exact CreateLoanHandler.handle_meets rt command known
  | extendLoan command => exact ExtendLoanHandler.handle_meets rt command known
  | returnLoan command => exact ReturnLoanHandler.handle_meets rt command known
  | cancelLoan command => exact CancelLoanHandler.handle_meets rt command known

end CirculationCommand

namespace Request

def spec (rt : PythonRuntime) : (request : Request) → CommandSpec request.Result
  | addBook command => AddBookHandler.spec rt command
  | circulation command => command.spec rt
  | registerPatron command => RegisterPatronHandler.spec rt command
  | suspendPatron command => SuspendPatronHandler.spec rt command
  | reinstatePatron command => ReinstatePatronHandler.spec rt command
  | upgradePatronTier command => UpgradePatronTierHandler.spec rt command

theorem handle_meets (rt : PythonRuntime) (request : Request)
    (known : Run.Knowledge Observation PyStr) :
    (request.handle rt).Meets (request.spec rt) known := by
  cases request with
  | addBook command => exact AddBookHandler.handle_meets rt command known
  | circulation command => exact command.handle_meets rt known
  | registerPatron command => exact RegisterPatronHandler.handle_meets rt command known
  | suspendPatron command => exact SuspendPatronHandler.handle_meets rt command known
  | reinstatePatron command => exact ReinstatePatronHandler.handle_meets rt command known
  | upgradePatronTier command => exact UpgradePatronTierHandler.handle_meets rt command known

def answer (request : Request) (value : request.Result) : Answered := ⟨request, value⟩

/-- The program of a request, with its answer. -/
def program (rt : PythonRuntime) (request : Request) : Command Answered :=
  request.handle rt >>= fun value => .pure (request.answer value)

/-- What a request may commit, return and raise. -/
def outcome (rt : PythonRuntime) (request : Request) : CommandSpec Answered where
  commits known batch answer :=
    ∃ value, answer = request.answer value ∧ (request.spec rt).commits known batch value
  returns known answer :=
    ∃ value, answer = request.answer value ∧ (request.spec rt).returns known value
  raises := (request.spec rt).raises

theorem program_meets (rt : PythonRuntime) (request : Request)
    (known : Run.Knowledge Observation PyStr) :
    (request.program rt).Meets (request.outcome rt) known := by
  apply (request.handle_meets rt known).map request.answer
  · exact fun _ _ value hcommits => ⟨value, rfl, hcommits⟩
  · exact fun _ value hreturns => ⟨value, rfl, hreturns⟩
  · exact fun _ _ hraises => hraises

end Request

/-! ## The database under all of them -/

/-- Retention: rows of the tables that are not aggregates may be gone. -/
structure Upkeep (db after : Database) : Prop where
  books : after.books = db.books
  loans : after.loans = db.loans
  patrons : after.patrons = db.patrons
  operations : ∀ id, after.borrow_operations.lookup id = db.borrow_operations.lookup id ∨
    after.borrow_operations.lookup id = none ∧
      ∃ operation, db.borrow_operations.lookup id = some operation ∧
        (operation.status = .released ∨ operation.status = .returned)
  receipts : ∀ key, after.command_receipts.lookup key = db.command_receipts.lookup key ∨
    after.command_receipts.lookup key = none
  outbox : after.outbox.Sublist db.outbox

/-- The command side of the library. -/
def commandSide (rt : PythonRuntime) :
    Surroundings Request Observation PyStr Batch Refusal AppException Answered Database
      Draws where
  program := Request.program rt
  look database draws := ⟨database, draws⟩
  apply batch database := database.runAll batch.statements
  outage := .unavailable

abbrev CommandWorld : Type :=
  Interleaving.World Request Observation PyStr Batch Refusal AppException Answered Database

abbrev Committed : Type :=
  Interleaving.Entry Request Observation PyStr Batch Refusal AppException Answered Database

/-- The worlds that runs from one of the `start` databases reach. -/
def CommandSide (rt : PythonRuntime) (start : Database → Prop) (world : CommandWorld) : Prop :=
  (Interleaving.machine (commandSide rt) start).ReachableUnder
    (Interleaving.Allowed (fun _ _ => True) Upkeep) world

end LibrarySystem
