import LibrarySystem.Foundation.Machine
import LibrarySystem.Projection.ElasticsearchSync
import LibrarySystem.Projection.SearchIndex

/-!
# The rebuild of a read model

Rows are committed to one table, and the change records of a row reach the
projection consumer in commit order, any of them again later.  A record is written
to the targets that the client's cached discovery returned when the write began,
one target at a time.  The rebuild registers a new physical index as a target,
waits, scans the table in keyset batches, and swaps the alias.
-/

namespace LibrarySystem

/-- A row of the table; `columns` are those besides its id and its version. -/
structure Row (Key : Type) where
  id : Key
  version : ℕ
  columns : Record

/-- The committed versions of one row id, oldest first, and whether the row was
deleted after the last. -/
structure RowHistory {Key : Type} (id : Key) where
  rows : List (Row Key)
  deleted : Bool
  row_id : ∀ row ∈ rows, row.id = id
  row_version : ∀ (n : ℕ) (row : Row Key), rows[n]? = some row → row.version = n
  deleted_row : deleted = true → rows ≠ []

/-- A change record of the table. -/
inductive Change (Key : Type)
  | create (after : Row Key)
  | update (after : Row Key)
  | delete (before : Row Key)

namespace RowHistory

variable {Key : Type} {id : Key}

def empty : RowHistory id where
  rows := []
  deleted := false
  row_id := by simp
  row_version := by simp
  deleted_row := by simp

def live (history : RowHistory id) : Option (Row Key) :=
  if history.deleted then none else history.rows.getLast?

/-- Insert the row, or update it; its version is the next one. -/
def commit (history : RowHistory id) (columns : Record) : RowHistory id where
  rows := history.rows ++ [⟨id, history.rows.length, columns⟩]
  deleted := history.deleted
  row_id := by
    intro row hrow
    rcases List.mem_append.mp hrow with hold | hnew
    · exact history.row_id row hold
    · rw [List.mem_singleton.mp hnew]
  row_version := by
    intro n row hrow
    rw [List.getElem?_append] at hrow
    split at hrow
    · exact history.row_version n row hrow
    · rename_i hlength
      rw [List.getElem?_singleton] at hrow
      split at hrow
      · cases hrow
        show history.rows.length = n
        omega
      · cases hrow
  deleted_row := by simp

def delete (history : RowHistory id) (hrows : history.rows ≠ []) : RowHistory id :=
  { history with
    deleted := true
    deleted_row := fun _ => hrows }

theorem rows_ne_nil
    {history : RowHistory id} (hlive : history.live.isSome) : history.rows ≠ [] := by
  intro hrows
  simp [live, hrows] at hlive

def change (row : Row Key) : Change Key :=
  if row.version = 0 then .create row else .update row

/-- The change records of the row. -/
def changes (history : RowHistory id) : List (Change Key) :=
  history.rows.map change ++
    if history.deleted then (history.rows.getLast?.map Change.delete).toList else []

end RowHistory

/-- The read model that is rebuilt, and how its rows appear to Python: `captured`
gives the columns of a change record, `scanned` those of `_row_to_dict`. -/
structure ReindexConfig (Key : Type) where
  rt : SearchRuntime
  model : ReadModel
  topic : PyStr
  topicToIndex : PyStr → Option PyStr
  topic_registered : topicToIndex topic = some model.aliasName
  idText : Key → PyStr
  idText_injective : Function.Injective idText
  idText_ne_nil : ∀ id, idText id ≠ []
  captured : Record → Record
  scanned : Record → Record

/-- `BATCH_SIZE` -/
def batchSize : ℕ := 500

namespace ReindexConfig

variable {Key : Type} (config : ReindexConfig Key)

/-- The columns of a row as a JSON object. -/
def image (columns : Record → Record) (row : Row Key) : Record :=
  (py "id", .str (config.idText row.id)) :: (py "version", .int row.version) ::
    columns row.columns

/-- The record on the topic. -/
def message (change : Change Key) : CdcMessage :=
  let envelope (id : Key) (op before after) : CdcMessage :=
    { topic := config.topic
      key := some [(py "id", .str (config.idText id))]
      value := some [(py "op", .str op), (py "before", before), (py "after", after)] }
  match change with
  | .create row =>
      envelope row.id (py "c") .null (.obj (config.image config.captured row))
  | .update row =>
      envelope row.id (py "u") .null (.obj (config.image config.captured row))
  | .delete row =>
      envelope row.id (py "d") (.obj (config.image config.captured row)) .null

/-- The requests that processing a record sends to every target. -/
def request (change : Change Key) : Option IndexRequest :=
  ((projectMessage config.rt config.topicToIndex (config.message change)).map
    (ReadModelWrite.request config.rt)).toOption

/-- The document of a scanned row. -/
def scannedDocument (row : Row Key) : Record :=
  config.model.transform config.rt (config.image config.scanned row)

end ReindexConfig

/-- A name that a write is addressed to. -/
inductive WriteTarget
  | logical
  | physical (index : ℕ)
deriving DecidableEq

inductive RebuildStage
  | registered
  | scanning
  | scanned
  | swapped
deriving DecidableEq

/-- A running `reindex_alias`; `mark` is the number of records each row had when
the grace period was over. -/
structure Rebuild (Key : Type) where
  target : ℕ
  stage : RebuildStage
  last_id : Option Key
  pending : List (Row Key)
  mark : Key → ℕ

/-- The table, the consumer and the cluster.  `inflight` are the requests that
the record at `position` still has to send; `buried` rows had their delete record
processed, which was written to the indexes in `tombs`. -/
structure ReindexState (Key : Type) where
  ids : Finset Key
  history : (id : Key) → RowHistory id
  position : Key → ℕ
  inflight : Key → Option (List WriteTarget)
  indexes : ℕ → SearchIndex PyStr Record
  serving : ℕ
  fresh : ℕ
  rebuild : Option (Rebuild Key)
  buried : Key → Bool
  tombs : Key → List ℕ

inductive ReindexAction (Key : Type)
  | insert (id : Key) (columns : Record)
  | update (id : Key) (columns : Record)
  | delete (id : Key)
  | process (id : Key) (targets : List WriteTarget)
  | send (id : Key) (target : WriteTarget)
  | finish (id : Key)
  | abandon (id : Key)
  | redeliver (id : Key) (position : ℕ)
  | register
  | graceOver
  | readBatch
  | bulkWrite (n : ℕ)
  | swap
  | clear
  | fail

/-- A physical index below the bound, or the alias. -/
def WriteTarget.below (bound : ℕ) : WriteTarget → Bool
  | .logical => true
  | .physical index => index < bound

/-- From the end of the grace period on, until the alias is swapped. -/
def RebuildStage.mirrored : RebuildStage → Bool
  | .scanning | .scanned => true
  | _ => false

namespace ReindexState

variable {Key : Type}

/-- The physical index behind a name. -/
def resolve (state : ReindexState Key) : WriteTarget → ℕ
  | .logical => state.serving
  | .physical index => index

/-- The record that is being processed, or the next one. -/
def current (state : ReindexState Key) (id : Key) : Option (Change Key) :=
  (state.history id).changes[state.position id]?

/-- What target discovery can return: the alias, and physical indexes that have
been registered; after the grace period the new one is among them. -/
def discoverable (state : ReindexState Key) (targets : List WriteTarget) : Bool :=
  targets.Nodup && targets.contains .logical && targets.all (WriteTarget.below state.fresh) &&
    state.rebuild.all fun rebuild =>
      !rebuild.stage.mirrored || targets.contains (.physical rebuild.target)

/-- One request reaches an index. -/
def apply (state : ReindexState Key) (index : ℕ) (request : IndexRequest) :
    ℕ → SearchIndex PyStr Record :=
  Function.update state.indexes index
    (Function.update (state.indexes index) request.id
      ((state.indexes index request.id).write request.external_version
        request.document))

variable [LinearOrder Key]

def commitRow (state : ReindexState Key) (id : Key) (columns : Record) :
    ReindexState Key :=
  { state with
    ids := insert id state.ids
    history := Function.update state.history id ((state.history id).commit columns) }

/-- The id of a deleted row is not used again. -/
def insertRow (state : ReindexState Key) (id : Key) (columns : Record) :
    Option (ReindexState Key) :=
  if (state.history id).rows.isEmpty then some (state.commitRow id columns) else none

def updateRow (state : ReindexState Key) (id : Key) (columns : Record) :
    Option (ReindexState Key) :=
  if (state.history id).live.isSome then some (state.commitRow id columns) else none

def deleteRow (state : ReindexState Key) (id : Key) : Option (ReindexState Key) :=
  if hlive : (state.history id).live.isSome then
    some { state with
      history := Function.update state.history id
        ((state.history id).delete (RowHistory.rows_ne_nil hlive)) }
  else none

/-- The consumer begins to write its next record. -/
def process (state : ReindexState Key) (id : Key) (targets : List WriteTarget) :
    Option (ReindexState Key) :=
  if state.inflight id = none ∧ (state.current id).isSome ∧
      state.discoverable targets then
    some { state with inflight := Function.update state.inflight id (some targets) }
  else none

def send (config : ReindexConfig Key) (state : ReindexState Key) (id : Key)
    (target : WriteTarget) : Option (ReindexState Key) := do
  let pending ← state.inflight id
  let change ← state.current id
  let request ← config.request change
  if target ∈ pending then
    some { state with
      indexes := state.apply (state.resolve target) request
      inflight := Function.update state.inflight id (some (pending.erase target))
      tombs := Function.update state.tombs id
        (if request.document.isNone then state.resolve target :: state.tombs id
          else state.tombs id) }
  else none

def isDelete : Change Key → Bool
  | .delete _ => true
  | _ => false

def finish (state : ReindexState Key) (id : Key) : Option (ReindexState Key) :=
  if state.inflight id = some [] then
    some { state with
      position := Function.update state.position id (state.position id + 1)
      inflight := Function.update state.inflight id none
      buried := Function.update state.buried id
        (state.buried id || (state.current id).any isDelete) }
  else none

def redeliver (state : ReindexState Key) (id : Key) (position : ℕ) :
    Option (ReindexState Key) :=
  if state.inflight id = none ∧ position ≤ state.position id then
    some { state with position := Function.update state.position id position }
  else none

/-- `create_index` and `set_reindex_target` -/
def register (state : ReindexState Key) : Option (ReindexState Key) :=
  match state.rebuild with
  | some _ => none
  | none =>
      some { state with
        fresh := state.fresh + 1
        rebuild := some
          { target := state.fresh
            stage := .registered
            last_id := none
            pending := []
            mark := fun _ => 0 } }

/-- `select(model).order_by(model.id).limit(BATCH_SIZE)`, past the last id. -/
def batch (state : ReindexState Key) (last_id : Option Key) : List (Row Key) :=
  (((state.ids.filter fun id =>
      (state.history id).live.isSome ∧ ∀ last ∈ last_id, last < id).sort
    (· ≤ ·)).take batchSize).filterMap fun id => (state.history id).live

/-- A step of the rebuild in the given stage. -/
def inStage (state : ReindexState Key) (stage : RebuildStage)
    (next : Rebuild Key → Option (ReindexState Key)) : Option (ReindexState Key) :=
  match state.rebuild with
  | some rebuild => if rebuild.stage = stage then next rebuild else none
  | none => none

def withRebuild (state : ReindexState Key) (rebuild : Rebuild Key) : ReindexState Key :=
  { state with rebuild := some rebuild }

def readBatch (state : ReindexState Key) (rebuild : Rebuild Key) :
    Option (ReindexState Key) :=
  if rebuild.pending = [] then
    let rows := state.batch rebuild.last_id
    match rows.getLast? with
    | none => some (state.withRebuild { rebuild with stage := .scanned })
    | some last =>
        some (state.withRebuild
          { rebuild with last_id := some last.id, pending := rows })
  else none

/-- One operation of `bulk_index`. -/
def bulkWrite (config : ReindexConfig Key) (state : ReindexState Key)
    (rebuild : Rebuild Key) (n : ℕ) : Option (ReindexState Key) := do
  let row ← rebuild.pending[n]?
  match bulkRequest config.rt (config.scannedDocument row) with
  | none => some { state with rebuild := none }
  | some request =>
      some { state with
        indexes := state.apply rebuild.target request
        rebuild := some { rebuild with pending := rebuild.pending.eraseIdx n } }

def step (config : ReindexConfig Key) (state : ReindexState Key) :
    ReindexAction Key → Option (ReindexState Key)
  | .insert id columns => state.insertRow id columns
  | .update id columns => state.updateRow id columns
  | .delete id => state.deleteRow id
  | .process id targets => state.process id targets
  | .send id target => state.send config id target
  | .finish id => state.finish id
  | .abandon id => some { state with inflight := Function.update state.inflight id none }
  | .redeliver id position => state.redeliver id position
  | .register => state.register
  | .graceOver =>
      state.inStage .registered fun rebuild =>
        some (state.withRebuild
          { rebuild with
            stage := .scanning
            mark := fun id => (state.history id).changes.length })
  | .readBatch => state.inStage .scanning state.readBatch
  | .bulkWrite n => state.inStage .scanning fun rebuild => state.bulkWrite config rebuild n
  | .swap =>
      state.inStage .scanned fun rebuild =>
        some { state with
          serving := rebuild.target
          rebuild := some { rebuild with stage := .swapped } }
  | .clear => state.inStage .swapped fun _ => some { state with rebuild := none }
  | .fail => some { state with rebuild := none }

end ReindexState

/-- Nothing is committed, and the alias serves one of the existing indexes. -/
def reindexMachine {Key : Type} [LinearOrder Key] (config : ReindexConfig Key) :
    Machine (ReindexState Key) (ReindexAction Key) where
  initial state :=
    state.ids = ∅ ∧ (∀ id, state.history id = .empty) ∧ (∀ id, state.position id = 0) ∧
      (∀ id, state.inflight id = none) ∧ (∀ index id, state.indexes index id = .vacant) ∧
      state.serving < state.fresh ∧ state.rebuild = none ∧
      (∀ id, state.buried id = false) ∧ ∀ id, state.tombs id = []
  step := ReindexState.step config

end LibrarySystem
