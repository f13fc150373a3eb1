import LibrarySystem.Persistence.UnitOfWork

/-!
# Rules for the steps of a transaction

One rule for each step of a unit of work: what is known after it and which session it
leaves.  The proofs about the command handlers go through a handler with them, and
meet at the end the batch that the commit hands to the database.
-/

namespace LibrarySystem

open Run (Spec Knowledge)

namespace UnitOfWork

variable {A : Type}

theorem lookup_set (id : PyStr) (entity : Tracked A) (entries : List (PyStr × Tracked A)) :
    (set id entity entries).lookup id = some entity := by
  induction entries with
  | nil => simp [set]
  | cons entry rest ih =>
      obtain ⟨key, other⟩ := entry
      unfold set
      split
      · rename_i hkey
        simp [hkey]
      · rename_i hkey
        rw [List.lookup_cons, beq_false_of_ne (Ne.symm hkey)]
        exact ih

theorem lookup_set_ne {id other : PyStr} (hne : other ≠ id) (entity : Tracked A)
    (entries : List (PyStr × Tracked A)) :
    (set id entity entries).lookup other = entries.lookup other := by
  induction entries with
  | nil => simp [set, hne]
  | cons entry rest ih =>
      obtain ⟨key, found⟩ := entry
      unfold set
      split
      · rename_i hkey
        simp [hkey, List.lookup_cons, beq_false_of_ne hne]
      · simp [List.lookup_cons, ih]

@[simp] theorem find_track (session : UnitOfWork A) (id : PyStr) (entity : Tracked A) :
    (session.track id entity).find id = some entity :=
  lookup_set id entity session.identity_map

theorem find_track_ne (session : UnitOfWork A) {id other : PyStr} (hne : other ≠ id)
    (entity : Tracked A) : (session.track id entity).find other = session.find other :=
  lookup_set_ne hne entity session.identity_map

@[simp] theorem find_issue (session : UnitOfWork A) (statement : Statement) (id : PyStr) :
    (session.issue statement).find id = session.find id := rfl

variable [Stored A]

@[simp] theorem find_save (session : UnitOfWork A) (statement : Statement)
    (entity : Tracked A) :
    (session.save statement entity).find (Stored.wrap entity.aggregate).idText =
      some entity :=
  find_track _ _ _

theorem find_save_ne (session : UnitOfWork A) (statement : Statement) (entity : Tracked A)
    {id : PyStr} (hne : id ≠ (Stored.wrap entity.aggregate).idText) :
    (session.save statement entity).find id = session.find id :=
  find_track_ne _ hne _

@[simp] theorem statements_save (session : UnitOfWork A) (statement : Statement)
    (entity : Tracked A) :
    (session.save statement entity).statements = session.statements ++ [statement] := rfl

@[simp] theorem transitions_save (session : UnitOfWork A) (statement : Statement)
    (entity : Tracked A) :
    (session.save statement entity).transitions = session.transitions := rfl

end UnitOfWork

namespace Uow

variable {A α β : Type} {spec : Spec Observation PyStr Batch AppException β}
  {known : Knowledge Observation PyStr} {session : UnitOfWork A}

/-- What is left of a transaction meets the specification of its handler. -/
def Meets (spec : Spec Observation PyStr Batch AppException α)
    (known : Knowledge Observation PyStr) (session : UnitOfWork A) (body : Uow A α) : Prop :=
  (body session >>= fun outcome => .pure outcome.1).Meets spec known

theorem meets_transaction {body : Uow A β} :
    (transaction body).Meets spec known ↔ Meets spec known {} body := Iff.rfl

theorem Meets.bind {part : Uow A α} {rest : α → Uow A β}
    (hpart : (part session).Reads
      (fun later outcome => Meets spec later outcome.2 (rest outcome.1))
      spec.raises known) :
    Meets spec known session (part >>= rest) := by
  change ((part session >>= fun outcome => rest outcome.1 outcome.2) >>= _).Meets spec known
  rw [Run.bind_assoc]
  exact Run.Meets.bind hpart

theorem meets_modify {change : UnitOfWork A → UnitOfWork A} {rest : Unit → Uow A β} :
    Meets spec known session (modify change >>= rest) ↔
      Meets spec known (change session) (rest ()) := Iff.rfl

theorem meets_transition {change : OperationTransition} {rest : Unit → Uow A β}
    (htarget : change.status.sources ≠ []) :
    Meets spec known session (transition change >>= rest) ↔
      Meets spec known (session.issue (.transitionOperation change)) (rest ()) := by
  have hmodify : (transition change : Uow A Unit) =
      modify fun session => session.issue (.transitionOperation change) := if_neg htarget
  rw [hmodify]
  exact Iff.rfl

section Steps

variable {value : Knowledge Observation PyStr → α × UnitOfWork A → Prop}
  {error : Knowledge Observation PyStr → AppException → Prop}

theorem reads_ofExcept {result : Except Raised α}
    (hok : ∀ computed, result = .ok computed → value known (computed, session))
    (herror : ∀ raised, result = .error raised → error known (.raised raised)) :
    (ofExcept result session).Reads value error known := by
  cases result with
  | ok computed => exact hok computed rfl
  | error raised => exact herror raised rfl

theorem reads_get
    {value : Knowledge Observation PyStr → UnitOfWork A × UnitOfWork A → Prop}
    (hvalue : value known (session, session)) :
    ((get : Uow A (UnitOfWork A)) session).Reads value error known := hvalue

theorem reads_observe
    {value : Knowledge Observation PyStr → Observation × UnitOfWork A → Prop}
    (hseen : ∀ seen, value (known.look seen) (seen, session)) :
    (observe session).Reads value error known := hseen

theorem reads_now
    {value : Knowledge Observation PyStr → UtcDateTime × UnitOfWork A → Prop}
    (hseen : ∀ seen : Observation, value (known.look seen) (seen.draws.now, session)) :
    (now session).Reads value error known := hseen

theorem reads_getReceipt {scope key : PyStr}
    {value : Knowledge Observation PyStr → Option CommandReceipt × UnitOfWork A → Prop}
    (hseen : ∀ seen : Observation, value (known.look seen)
      (seen.database.command_receipts.lookup (scope, key), session)) :
    (getReceipt scope key session).Reads value error known := hseen

theorem reads_scalarOneOrNone {rows : List α}
    {value : Knowledge Observation PyStr → Option α × UnitOfWork A → Prop}
    (hnone : rows = [] → value known (none, session))
    (hsome : ∀ row, rows = [row] → value known (some row, session))
    (herror : error known .multipleResults) :
    (scalarOneOrNone rows session).Reads value error known := by
  match rows with
  | [] => exact hnone rfl
  | [row] => exact hsome row rfl
  | _ :: _ :: _ => exact herror

variable [Stored A]

theorem reads_hydrate {row : Stored.Row A}
    {value : Knowledge Observation PyStr → Tracked A × UnitOfWork A → Prop}
    (hok : ∀ aggregate : A, Stored.toEntity row = .ok aggregate →
      value known (⟨aggregate, Stored.version row, []⟩,
        session.track (Stored.wrap aggregate).idText ⟨aggregate, Stored.version row, []⟩))
    (herror : ∀ raised, error known (.raised raised)) :
    (hydrate row session).Reads value error known := by
  unfold hydrate
  apply Run.Reads.bind
  apply reads_ofExcept
  · exact hok
  · exact fun raised _ => herror raised

/-- Loading into a session that does not know the id. -/
theorem reads_getById {id : PyStr}
    {value : Knowledge Observation PyStr → Option (Tracked A) × UnitOfWork A → Prop}
    (hnew : session.find id = none)
    (hmissing : ∀ seen, (Stored.table (A := A) seen.database).lookup id = none →
      value (known.look seen) (none, session))
    (hfound : ∀ seen row, ∀ aggregate : A,
      (Stored.table (A := A) seen.database).lookup id = some row →
      Stored.toEntity row = .ok aggregate →
      value (known.look seen) (some ⟨aggregate, Stored.version row, []⟩,
        session.track (Stored.wrap aggregate).idText ⟨aggregate, Stored.version row, []⟩))
    (herror : ∀ later raised, error later (.raised raised)) :
    (getById id session).Reads value error known := by
  unfold getById
  apply Run.Reads.bind
  apply reads_get
  simp only [hnew]
  apply Run.Reads.bind
  apply reads_observe
  intro seen
  dsimp only
  cases hrow : (Stored.table (A := A) seen.database).lookup id with
  | none => exact hmissing seen hrow
  | some row =>
      apply Run.Reads.bind
      apply reads_hydrate
      · exact fun aggregate haggregate => hfound seen row aggregate hrow haggregate
      · exact fun raised => herror _ raised

/-- The entity of a row, in a session that does not know its key. -/
theorem reads_entityOf {row : Stored.Row A}
    {value : Knowledge Observation PyStr → Tracked A × UnitOfWork A → Prop}
    (hnew : session.find (Stored.key row) = none)
    (hok : ∀ aggregate : A, Stored.toEntity row = .ok aggregate →
      value known (⟨aggregate, Stored.version row, []⟩,
        session.track (Stored.wrap aggregate).idText ⟨aggregate, Stored.version row, []⟩))
    (herror : ∀ raised, error known (.raised raised)) :
    (entityOf row session).Reads value error known := by
  unfold entityOf
  apply Run.Reads.bind
  apply reads_get
  simp only [hnew]
  exact reads_hydrate hok herror

omit [Stored A] in
theorem reads_select {B : Type} [Stored B] {condition : Stored.Row B → Bool}
    {value : Knowledge Observation PyStr → List (Stored.Row B) × UnitOfWork A → Prop}
    (hseen : ∀ seen : Observation, value (known.look seen)
      ((Stored.table (A := B) seen.database).rows.filter condition, session)) :
    (select B condition session).Reads value error known := hseen

theorem reads_mutate {entity : Tracked A} {aggregate : A} {events : List AggregateEvent}
    {value : Knowledge Observation PyStr → Tracked A × UnitOfWork A → Prop}
    (hseen : ∀ seen : Observation,
      value (known.look seen)
        (entity.changed aggregate (stamp seen.draws events),
          (session.track (Stored.wrap aggregate).idText
            (entity.changed aggregate (stamp seen.draws events))).record aggregate
              (stamp seen.draws events))) :
    (mutate entity aggregate events session).Reads value error known := hseen

theorem reads_create {aggregate : A} {events : List AggregateEvent}
    {value : Knowledge Observation PyStr → Tracked A × UnitOfWork A → Prop}
    (hseen : ∀ seen : Observation,
      value (known.look seen) (⟨aggregate, 0, stamp seen.draws events⟩,
        session.record aggregate (stamp seen.draws events))) :
    (create aggregate events session).Reads value error known := hseen

end Steps

/-! ## The commit -/

section Commit

variable [Stored A] {rt : PythonRuntime}

theorem Meets.commit {value : β}
    (hcommit : ∀ seen rows, stageDomainEvents rt seen.draws session = .ok rows →
      spec.commits (known.look seen)
        ⟨session.statements ++ rows.map .insertOutbox, session.transitions⟩ value)
    (hregistry : ∀ seen error, spec.raises (known.look seen) (.registry error))
    (hrefused : ∀ seen refusal, spec.raises (known.look seen).settle
      (translate session refusal)) :
    Meets spec known session (do
      Uow.commit rt
      pure value) := by
  intro seen
  cases hstage : stageDomainEvents rt seen.draws session with
  | error error =>
      simp only [hstage]
      exact hregistry seen error
  | ok rows =>
      simp only [hstage]
      exact ⟨⟨value, rfl, hcommit seen rows hstage⟩, hrefused seen⟩

end Commit

end Uow

/-! ## Batches -/

/-- The row was seen under the id, and hydrates to the aggregate. -/
def Loaded {A : Type} [Stored A] (known : Knowledge Observation PyStr) (id : PyStr)
    (row : Stored.Row A) (aggregate : A) : Prop :=
  (∃ seen ∈ known.seen, (Stored.table (A := A) seen.database).lookup id = some row) ∧
    Stored.toEntity row = .ok aggregate

theorem Loaded.mono {A : Type} [Stored A] {known later : Knowledge Observation PyStr}
    {id : PyStr} {row : Stored.Row A} {aggregate : A}
    (hloaded : Loaded known id row aggregate) (hseen : known.seen ⊆ later.seen) :
    Loaded later id row aggregate := by
  obtain ⟨⟨seen, hmem, hrow⟩, haggregate⟩ := hloaded
  exact ⟨⟨seen, hseen hmem, hrow⟩, haggregate⟩

/-- What a batch does to one aggregate: its INSERT or UPDATE, the events of its
transition, and the statements that go with them. -/
structure Piece where
  write : Statement
  after : Aggregate
  events : List DomainEvent
  others : List Statement

namespace Piece

def statements (piece : Piece) : List Statement := piece.write :: piece.others

def transition (piece : Piece) : Transition := ⟨piece.after, piece.events⟩

end Piece

/-- The outbox rows of a transition. -/
def Transition.rows (rt : PythonRuntime) (order : MetadataOrder) (transition : Transition) :
    Except RegistryException (List OutboxRow) :=
  transition.events.mapM (Uow.outboxRow rt order transition.after)

/-- The batch consists of the pieces and the outbox rows of their transitions, those of
one aggregate next to each other and in their order. -/
def Batch.Writes (rt : PythonRuntime) (pieces : List Piece) (batch : Batch) : Prop :=
  ∃ (order : MetadataOrder) (arranged : List Transition) (rows : List (List OutboxRow)),
    arranged.Perm (pieces.map Piece.transition) ∧
    arranged.mapM (Transition.rows rt order) = .ok rows ∧
    batch = ⟨pieces.flatMap Piece.statements ++ rows.flatten.map .insertOutbox,
      pieces.map Piece.transition⟩

/-- The session holds the pieces and nothing else. -/
structure UnitOfWork.Shows {A : Type} [Stored A] (session : UnitOfWork A) (pieces : List Piece) :
    Prop where
  statements : session.statements = pieces.flatMap Piece.statements
  transitions : session.transitions = pieces.map Piece.transition
  dirty : session.dirty_ids = pieces.map fun piece => piece.after.idText
  found : ∀ piece ∈ pieces, ∃ entity, session.find piece.after.idText = some entity ∧
    Stored.wrap entity.aggregate = piece.after ∧ entity.events = piece.events

/-- The piece of a transition that is written by UPDATE. -/
def Piece.updated (version : ℕ) (after : Aggregate) (draws : Draws)
    (events : List AggregateEvent) (others : List Statement) : Piece where
  write := .updateAggregate version after
  after := after
  events := Uow.stamp draws events
  others := others

/-- The piece of a new aggregate. -/
def Piece.inserted (after : Aggregate) (draws : Draws) (events : List AggregateEvent)
    (others : List Statement) : Piece where
  write := .insertAggregate after
  after := after
  events := Uow.stamp draws events
  others := others

section Stage

variable {A : Type} [Stored A] {rt : PythonRuntime} {session : UnitOfWork A}

/-- The entities of the arranged pieces are staged as their transitions. -/
theorem stage_found {order : MetadataOrder} {arranged : List Piece}
    (hfound : ∀ piece ∈ arranged, ∃ entity, session.find piece.after.idText = some entity ∧
      Stored.wrap entity.aggregate = piece.after ∧ entity.events = piece.events) :
    (((arranged.map fun piece => piece.after.idText).filterMap session.find).mapM
      fun entity => entity.events.mapM
        (Uow.outboxRow rt order (Stored.wrap entity.aggregate))) =
      (arranged.map Piece.transition).mapM (Transition.rows rt order) := by
  induction arranged with
  | nil => rfl
  | cons piece rest ih =>
      obtain ⟨entity, hentity, haggregate, hevents⟩ := hfound piece List.mem_cons_self
      have hrest := ih fun other hother => hfound other (List.mem_cons_of_mem piece hother)
      simp only [List.map_cons, List.filterMap_cons, hentity, List.mapM_cons, hrest,
        haggregate, hevents]
      rfl

theorem UnitOfWork.Shows.writes {pieces : List Piece} {draws : Draws} {rows : List OutboxRow}
    (hshows : session.Shows pieces)
    (hstage : Uow.stageDomainEvents rt draws session = .ok rows) :
    Batch.Writes rt pieces
      ⟨session.statements ++ rows.map .insertOutbox, session.transitions⟩ := by
  let rankOf (piece : Piece) := draws.rank piece.after.idText
  let arranged := pieces.mergeSort fun left right => decide (rankOf left ≤ rankOf right)
  have hperm : arranged.Perm pieces := List.mergeSort_perm _ _
  have hids : (session.dirty_ids.mergeSort fun left right =>
      decide (draws.rank left ≤ draws.rank right)) =
        arranged.map fun piece => piece.after.idText := by
    rw [hshows.dirty]
    exact (List.map_mergeSort (f := fun piece : Piece => piece.after.idText)
      fun _ _ _ _ => rfl).symm
  simp only [Uow.stageDomainEvents, hids] at hstage
  rw [stage_found fun piece hpiece => hshows.found piece (hperm.mem_iff.mp hpiece)]
    at hstage
  obtain ⟨staged, hstaged, hrows⟩ := Result.bind_eq_ok.mp hstage
  cases hrows
  refine ⟨draws.order, arranged.map Piece.transition, staged, hperm.map _, hstaged, ?_⟩
  rw [hshows.statements, hshows.transitions]

/-- The rows of a session are staged when those of each piece are. -/
theorem UnitOfWork.Shows.staged {pieces : List Piece} {draws : Draws}
    (hshows : session.Shows pieces)
    (hrows : ∀ piece ∈ pieces, ∃ rows,
      Transition.rows rt draws.order piece.transition = .ok rows) :
    ∃ rows, Uow.stageDomainEvents rt draws session = .ok rows := by
  let rankOf (piece : Piece) := draws.rank piece.after.idText
  let arranged := pieces.mergeSort fun left right => decide (rankOf left ≤ rankOf right)
  have hperm : arranged.Perm pieces := List.mergeSort_perm _ _
  have hids : (session.dirty_ids.mergeSort fun left right =>
      decide (draws.rank left ≤ draws.rank right)) =
        arranged.map fun piece => piece.after.idText := by
    rw [hshows.dirty]
    exact (List.map_mergeSort (f := fun piece : Piece => piece.after.idText)
      fun _ _ _ _ => rfl).symm
  obtain ⟨staged, hstaged⟩ : ∃ staged,
      (arranged.map Piece.transition).mapM (Transition.rows rt draws.order) = .ok staged := by
    apply Result.mapM_ok
    intro transition htransition
    obtain ⟨piece, hpiece, rfl⟩ := List.mem_map.mp htransition
    exact hrows piece (hperm.mem_iff.mp hpiece)
  unfold Uow.stageDomainEvents
  simp only [hids]
  rw [stage_found fun piece hpiece => hshows.found piece (hperm.mem_iff.mp hpiece), hstaged]
  exact ⟨staged.flatten, rfl⟩

/-- The rows staged for one piece are those of its transition. -/
theorem UnitOfWork.Shows.staged_one {piece : Piece} {draws : Draws} {rows : List OutboxRow}
    (hshows : session.Shows [piece])
    (hrows : Transition.rows rt draws.order piece.transition = .ok rows) :
    Uow.stageDomainEvents rt draws session = .ok rows := by
  have hstaged : ((([piece].map fun piece => piece.after.idText).filterMap session.find).mapM
      fun entity => entity.events.mapM
        (Uow.outboxRow rt draws.order (Stored.wrap entity.aggregate))) =
      ([piece].map Piece.transition).mapM (Transition.rows rt draws.order) :=
    stage_found hshows.found
  simp only [List.map_cons, List.map_nil, List.mapM_cons, List.mapM_nil, hrows] at hstaged
  unfold Uow.stageDomainEvents
  rw [hshows.dirty]
  simp only [List.map_cons, List.map_nil, List.mergeSort_singleton, hstaged]
  simp

/-- Nothing is staged for a session that saved nothing. -/
theorem Uow.stage_clean {draws : Draws} (hclean : session.dirty_ids = []) :
    Uow.stageDomainEvents rt draws session = .ok [] := by
  rw [Uow.stageDomainEvents, hclean, List.mergeSort_nil]
  rfl

theorem UnitOfWork.Shows.empty : ({} : UnitOfWork A).Shows [] where
  statements := rfl
  transitions := rfl
  dirty := rfl
  found _ hpiece := by cases hpiece

/-- Loading an aggregate shows nothing. -/
theorem UnitOfWork.Shows.track {pieces : List Piece} {id : PyStr} {entity : Tracked A}
    (hshows : session.Shows pieces)
    (hnew : ∀ piece ∈ pieces, piece.after.idText ≠ id) :
    (session.track id entity).Shows pieces where
  statements := hshows.statements
  transitions := hshows.transitions
  dirty := hshows.dirty
  found piece hpiece := by
    rw [UnitOfWork.find_track_ne session (hnew piece hpiece)]
    exact hshows.found piece hpiece

/-- The last piece of a session that saves an aggregate it has recorded. -/
theorem UnitOfWork.Shows.save {pieces : List Piece} {write : Statement} {aggregate : A}
    {version : ℕ} {events : List DomainEvent} (hshows : session.Shows pieces)
    (hnew : ∀ piece ∈ pieces, piece.after.idText ≠ (Stored.wrap aggregate).idText) :
    ((session.record aggregate events).save write ⟨aggregate, version, events⟩).Shows
      (pieces ++ [⟨write, Stored.wrap aggregate, events, []⟩]) where
  statements := by
    simp only [UnitOfWork.statements_save, List.flatMap_append, List.flatMap_singleton,
      Piece.statements]
    exact congrArg (· ++ [write]) hshows.statements
  transitions := by
    simp only [UnitOfWork.transitions_save, UnitOfWork.record, hshows.transitions,
      List.map_append, List.map_singleton, Piece.transition]
  dirty := by
    have hdirty : (session.record aggregate events).dirty_ids =
        pieces.map fun piece => piece.after.idText := hshows.dirty
    have hfresh : (Stored.wrap aggregate).idText ∉
        pieces.map fun piece => piece.after.idText := by
      intro hmem
      obtain ⟨piece, hpiece, hsame⟩ := List.mem_map.mp hmem
      exact hnew piece hpiece hsame
    simp only [List.map_append, List.map_singleton, UnitOfWork.save, UnitOfWork.markDirty,
      UnitOfWork.track, UnitOfWork.issue, hdirty, hfresh, if_false]
  found piece hpiece := by
    rcases List.mem_append.mp hpiece with hold | hlast
    · rw [UnitOfWork.find_save_ne _ _ _ (hnew piece hold)]
      exact hshows.found piece hold
    · rw [List.mem_singleton.mp hlast]
      exact ⟨_, UnitOfWork.find_save _ _ _, rfl, rfl⟩

/-- More statements for the last piece. -/
theorem UnitOfWork.Shows.more {pieces : List Piece} {piece : Piece} {after : UnitOfWork A}
    {statements : List Statement} (hshows : session.Shows (pieces ++ [piece]))
    (hstatements : after.statements = session.statements ++ statements)
    (htransitions : after.transitions = session.transitions)
    (hdirty : after.dirty_ids = session.dirty_ids)
    (hfind : ∀ id, after.find id = session.find id) :
    after.Shows (pieces ++ [{ piece with others := piece.others ++ statements }]) where
  statements := by
    rw [hstatements, hshows.statements]
    simp [Piece.statements]
  transitions := by
    rw [htransitions, hshows.transitions]
    simp [Piece.transition]
  dirty := by
    rw [hdirty, hshows.dirty]
    simp
  found other hother := by
    rw [hfind]
    rcases List.mem_append.mp hother with hold | hlast
    · exact hshows.found other (List.mem_append_left _ hold)
    · rw [List.mem_singleton.mp hlast]
      exact hshows.found piece (List.mem_append_right _ (List.mem_singleton_self piece))

theorem UnitOfWork.Shows.issue {pieces : List Piece} {piece : Piece} {statement : Statement}
    (hshows : session.Shows (pieces ++ [piece])) :
    (session.issue statement).Shows
      (pieces ++ [{ piece with others := piece.others ++ [statement] }]) :=
  hshows.more rfl rfl rfl fun _ => rfl

/-! ### Sessions of one aggregate -/

/-- An aggregate that is changed and updated is the next piece. -/
theorem UnitOfWork.Shows.updated {pieces : List Piece} (hshows : session.Shows pieces)
    (before after : A) (version : ℕ) (draws : Draws) (events : List AggregateEvent)
    (hnew : ∀ piece ∈ pieces, piece.after.idText ≠ (Stored.wrap after).idText) :
    (((session.track (Stored.wrap after).idText
      (Tracked.changed ⟨before, version, []⟩ after (Uow.stamp draws events))).record after
        (Uow.stamp draws events)).save (.updateAggregate version (Stored.wrap after))
          ⟨after, version + 1, Uow.stamp draws events⟩).Shows
      (pieces ++ [.updated version (Stored.wrap after) draws events []]) :=
  (hshows.track hnew).save hnew

theorem UnitOfWork.shows_updated (before after : A) (version : ℕ) (draws : Draws)
    (events : List AggregateEvent) :
    (((({} : UnitOfWork A).track (Stored.wrap before).idText ⟨before, version, []⟩).track
      (Stored.wrap after).idText
      (Tracked.changed ⟨before, version, []⟩ after (Uow.stamp draws events))).record after
        (Uow.stamp draws events) |>.save (.updateAggregate version (Stored.wrap after))
          ⟨after, version + 1, Uow.stamp draws events⟩).Shows
      [.updated version (Stored.wrap after) draws events []] :=
  (UnitOfWork.Shows.empty.track (by simp)).updated before after version draws events (by simp)

theorem UnitOfWork.shows_inserted (aggregate : A) (draws : Draws)
    (events : List AggregateEvent) :
    ((({} : UnitOfWork A).record aggregate (Uow.stamp draws events)).save
      (.insertAggregate (Stored.wrap aggregate))
        ⟨aggregate, 0, Uow.stamp draws events⟩).Shows
      [.inserted (Stored.wrap aggregate) draws events []] :=
  .save .empty (by simp)

/-- The entities of several rows, in a session that knows none of them. -/
theorem Uow.reads_entities {known : Knowledge Observation PyStr}
    {rows : List (Stored.Row A)}
    {value : Knowledge Observation PyStr → List (Tracked A) × UnitOfWork A → Prop}
    {error : Knowledge Observation PyStr → AppException → Prop}
    (hshows : session.Shows [])
    (hkeys : (rows.map Stored.key).Nodup)
    (hnew : ∀ row ∈ rows, session.find (Stored.key row) = none)
    (hok : ∀ (entities : List (Tracked A)) (later : UnitOfWork A),
      List.Forall₂ (fun (row : Stored.Row A) (entity : Tracked A) =>
        Stored.toEntity row = .ok entity.aggregate ∧
          entity = ⟨entity.aggregate, Stored.version row, []⟩) rows entities →
      later.Shows [] → value known (entities, later))
    (herror : ∀ raised, error known (.raised raised)) :
    (rows.mapM Uow.entityOf session).Reads value error known := by
  induction rows generalizing session value with
  | nil => exact hok [] session .nil hshows
  | cons row rest ih =>
      rw [List.mapM_cons]
      simp only [List.map_cons, List.nodup_cons] at hkeys
      apply Run.Reads.bind
      apply Uow.reads_entityOf (hnew row List.mem_cons_self)
      · intro aggregate haggregate
        apply Run.Reads.bind
        apply ih
        · exact hshows.track (by simp)
        · exact hkeys.2
        · intro other hother
          have hkey : Stored.key other ≠ (Stored.wrap aggregate).idText := by
            rw [Stored.key_eq row aggregate haggregate]
            intro hsame
            exact hkeys.1 (hsame ▸ List.mem_map_of_mem hother)
          rw [UnitOfWork.find_track_ne session hkey]
          exact hnew other (List.mem_cons_of_mem row hother)
        · intro entities later hentities hlater
          exact hok _ later (.cons ⟨haggregate, rfl⟩ hentities) hlater
      · exact herror

theorem UnitOfWork.Shows.issue_one {piece : Piece} {statement : Statement}
    (hshows : session.Shows [piece]) :
    (session.issue statement).Shows
      [{ piece with others := piece.others ++ [statement] }] := by
  rw [← List.nil_append [piece]] at hshows
  exact hshows.issue

end Stage

end LibrarySystem
