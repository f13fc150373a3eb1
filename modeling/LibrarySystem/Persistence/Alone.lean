import LibrarySystem.Persistence.UnitOfWork

/-!
# A command on its own

What a command does to a database when no other transaction is under way: one rule for
each thing the body of a transaction may begin with, and one for its commit.
-/

namespace LibrarySystem

open Result

/-- A command in a committed state, with no other transaction under way. -/
def Database.runAlone {α : Type} (db : Database) (draws : ℕ → Draws) (command : Command α) :
    Except AppException α × Database :=
  command.alone Observation.mk (fun batch db => db.runAll batch.statements) draws 0 db

theorem Run.alone_bind_pure {D L B R ε α β S E : Type} {look : S → E → D}
    {apply : B → S → Except R S} {draws : ℕ → E} (run : Run D L B R ε α) (f : α → β) (i : ℕ)
    (state : S) :
    (run >>= fun value => .pure (f value)).alone look apply draws i state =
      ((run.alone look apply draws i state).1.map f,
        (run.alone look apply draws i state).2) := by
  induction run generalizing i state with
  | pure value => rfl
  | raise error => rfl
  | observe next ih => exact ih _ _ _
  | acquire lock next ih => exact ih _ _
  | commit batch next ih =>
      simp only [Run.commit_bind, Run.alone]
      cases apply batch state with
      | ok after => exact ih none _ _
      | error refusal => exact ih (some refusal) _ _

theorem Database.runAlone_map {α β : Type} {db : Database} {draws : ℕ → Draws}
    (command : Command α) (f : α → β) :
    db.runAlone draws (f <$> command) =
      ((db.runAlone draws command).1.map f, (db.runAlone draws command).2) := by
  rw [map_eq_pure_bind]
  exact Run.alone_bind_pure command f 0 db

namespace Uow

variable {A α β : Type} (draws : ℕ → Draws)

/-- What is left of a transaction, with no other one under way. -/
def alone (body : Uow A α) (session : UnitOfWork A) (i : ℕ) (db : Database) :
    Except AppException α × Database :=
  (body session >>= fun outcome => pure outcome.1).alone Observation.mk
    (fun batch db => db.runAll batch.statements) draws i db

variable {draws} {session : UnitOfWork A} {i : ℕ} {db : Database}

theorem runAlone_transaction (body : Uow A α) :
    db.runAlone draws (transaction body) = alone draws body {} 0 db := rfl

theorem alone_ofExcept_ok {result : Except Raised α} {value : α} {rest : α → Uow A β}
    (hok : result = .ok value) :
    alone draws (ofExcept result >>= rest) session i db =
      alone draws (rest value) session i db := by
  subst hok
  rfl

theorem alone_ofExcept_error {result : Except Raised α} {error : Raised} {rest : α → Uow A β}
    (herror : result = .error error) :
    alone draws (ofExcept result >>= rest) session i db = (.error (.raised error), db) := by
  subst herror
  rfl

theorem alone_modify {change : UnitOfWork A → UnitOfWork A} {rest : Unit → Uow A β} :
    alone draws (modify change >>= rest) session i db =
      alone draws (rest ()) (change session) i db := rfl

theorem alone_now {rest : UtcDateTime → Uow A β} :
    alone draws (now >>= rest) session i db =
      alone draws (rest (draws i).now) session (i + 1) db := rfl

theorem alone_get {rest : UnitOfWork A → Uow A β} :
    alone draws (get >>= rest) session i db = alone draws (rest session) session i db := rfl

theorem alone_observe {rest : Observation → Uow A β} :
    alone draws (observe >>= rest) session i db =
      alone draws (rest ⟨db, draws i⟩) session (i + 1) db := rfl

theorem alone_transition {change : OperationTransition} {rest : Unit → Uow A β}
    (htarget : change.status.sources ≠ []) :
    alone draws (transition change >>= rest) session i db =
      alone draws (rest ()) (session.issue (.transitionOperation change)) i db := by
  have hmodify : (transition change : Uow A Unit) =
      modify fun session => session.issue (.transitionOperation change) := if_neg htarget
  rw [hmodify]
  exact alone_modify

variable [Stored A]

/-- Loading into a session that does not know the id. -/
theorem alone_getById {id : PyStr} {rest : Option (Tracked A) → Uow A β}
    (hnew : session.find id = none) :
    alone draws (getById id >>= rest) session i db =
      alone draws
        (((Stored.table (A := A) db).lookup id).elim (pure none)
          (fun row => some <$> hydrate row) >>= rest) session (i + 1) db := by
  unfold getById
  rw [bind_assoc, alone_get]
  simp only [hnew]
  rw [bind_assoc, alone_observe]
  cases (Stored.table (A := A) db).lookup id with
  | none => rfl
  | some row => rfl

theorem alone_getById_none {id : PyStr} {rest : Option (Tracked A) → Uow A β}
    (hfind : session.find id = none)
    (hrow : (Stored.table (A := A) db).lookup id = none) :
    alone draws (getById id >>= rest) session i db =
      alone draws (rest none) session (i + 1) db := by
  rw [alone_getById hfind, hrow]
  rfl

theorem alone_getById_some {id : PyStr} {row : Stored.Row A} {aggregate : A}
    {rest : Option (Tracked A) → Uow A β} (hfind : session.find id = none)
    (hrow : (Stored.table (A := A) db).lookup id = some row)
    (haggregate : Stored.toEntity row = .ok aggregate) :
    alone draws (getById id >>= rest) session i db =
      alone draws (rest (some ⟨aggregate, Stored.version row, []⟩))
        (session.track (Stored.wrap aggregate).idText ⟨aggregate, Stored.version row, []⟩)
        (i + 1) db := by
  rw [alone_getById hfind, hrow, Option.elim_some, map_eq_pure_bind, bind_assoc]
  unfold hydrate
  rw [bind_assoc, alone_ofExcept_ok haggregate]
  rfl

theorem alone_getById_error {id : PyStr} {row : Stored.Row A} {error : Raised}
    {rest : Option (Tracked A) → Uow A β} (hfind : session.find id = none)
    (hrow : (Stored.table (A := A) db).lookup id = some row)
    (herror : Stored.toEntity row = .error error) :
    alone draws (getById id >>= rest) session i db = (.error (.raised error), db) := by
  rw [alone_getById hfind, hrow, Option.elim_some, map_eq_pure_bind, bind_assoc]
  unfold hydrate
  rw [bind_assoc, alone_ofExcept_error herror]

/-- A row whose entity the session does not know. -/
theorem alone_entityOf {row : Stored.Row A} {aggregate : A} {rest : Tracked A → Uow A β}
    (hfind : session.find (Stored.key row) = none)
    (haggregate : Stored.toEntity row = .ok aggregate) :
    alone draws (entityOf row >>= rest) session i db =
      alone draws (rest ⟨aggregate, Stored.version row, []⟩)
        (session.track (Stored.wrap aggregate).idText ⟨aggregate, Stored.version row, []⟩)
        i db := by
  unfold entityOf
  rw [bind_assoc, alone_get]
  simp only [hfind]
  unfold hydrate
  rw [bind_assoc, alone_ofExcept_ok haggregate]
  rfl

theorem alone_mutate {entity : Tracked A} {aggregate : A} {events : List AggregateEvent}
    {rest : Tracked A → Uow A β} :
    alone draws (mutate entity aggregate events >>= rest) session i db =
      alone draws (rest (entity.changed aggregate (stamp (draws i) events)))
        ((session.track (Stored.wrap aggregate).idText
          (entity.changed aggregate (stamp (draws i) events))).record aggregate
            (stamp (draws i) events)) (i + 1) db := rfl

/-- What is left when the session is committed. -/
def committed (rt : PythonRuntime) (draw : Draws) (session : UnitOfWork A) (value : α)
    (db : Database) : Except AppException α × Database :=
  match stageDomainEvents rt draw session with
  | .error error => (.error (.registry error), db)
  | .ok rows =>
      match db.runAll (session.statements ++ rows.map .insertOutbox) with
      | .ok after => (.ok value, after)
      | .error refusal => (.error (translate session refusal), db)

theorem alone_commit {rt : PythonRuntime} {value : α} :
    alone draws (do commit rt; pure value) session i db =
      committed rt (draws i) session value db := by
  unfold alone commit committed
  simp only [bind, StateT.bind, Run.bind, Run.alone]
  cases stageDomainEvents rt (draws i) session with
  | error error => rfl
  | ok rows =>
      simp only [Run.bind, Run.alone]
      cases db.runAll (session.statements ++ rows.map .insertOutbox) with
      | error refusal => rfl
      | ok after => rfl

end Uow

end LibrarySystem
