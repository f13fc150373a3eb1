import LibrarySystem.Projection.Reindex

/-!
# One row in every index

Record `n` of a row is sent with external version `n + 1`, the delete record
included.  `reached` counts the records of a row that an index has been sent, and
an index has caught up with them when its entry is no older, or shows no document
once the delete record is among them.
-/

namespace LibrarySystem

variable {Key : Type}

/-! ## The requests of a record -/

namespace ReindexConfig

variable (config : ReindexConfig Key)

/-- The document shows this committed version, as a change record or the scan
rendered it. -/
def Shows (row : Row Key) (document : Record) : Prop :=
  document = config.model.transform config.rt (config.image config.captured row) ∨
    document = config.scannedDocument row

theorem image_version
    (columns : Record → Record) (row : Row Key) (default : Json) :
    (config.image columns row).get (py "version") default = .int row.version := rfl

theorem image_id
    (columns : Record → Record) (row : Row Key) (default : Json) :
    (config.image columns row).get (py "id") default = .str (config.idText row.id) :=
  rfl

theorem transform_externalVersion
    (columns : Record → Record) (row : Row Key) :
    documentExternalVersion config.rt
        (config.model.transform config.rt (config.image columns row)) =
      some (row.version + 1) := by
  apply documentExternalVersion_of_version
  rw [transform_version, image_version]

theorem idText_truthy (id : Key) : (Json.str (config.idText id)).truthy = true := by
  simp [Json.truthy, config.idText_ne_nil]

theorem aliasName_ne_nil (model : ReadModel) : model.aliasName ≠ [] := by
  cases model <;> decide

theorem projectMessage_registered (value : Record) (key : Option Record) :
    projectMessage config.rt config.topicToIndex ⟨config.topic, key, some value⟩ =
      projectMessage config.rt (fun _ => some config.model.aliasName)
        ⟨config.topic, key, some value⟩ := by
  simp [projectMessage, config.topic_registered]

theorem projectMessage_image
    (key : Option Record) (op : PyStr) (hop : op = py "c" ∨ op = py "u") (row : Row Key) :
    projectMessage config.rt config.topicToIndex
        ⟨config.topic, key, some [(py "op", .str op), (py "before", .null),
          (py "after", .obj (config.image config.captured row))]⟩ =
      .ok (.index config.model.aliasName (.str (config.idText row.id))
        (config.model.transform config.rt (config.image config.captured row))) := by
  have hdelete : op ≠ py "d" := by
    rcases hop with rfl | rfl <;> decide
  have hcases : op = py "c" ∨ op = py "u" ∨ op = py "r" := by tauto
  rw [projectMessage_registered]
  cases hname : config.model.aliasName with
  | nil => exact absurd hname (aliasName_ne_nil _)
  | cons c rest =>
      show (if op = py "d" then _ else if op = py "c" ∨ op = py "u" ∨ op = py "r" then
        projectImage config.rt (c :: rest) config.topic (.str op)
          (some (config.image config.captured row)) else _) = _
      rw [if_neg hdelete, if_pos hcases, ← hname, ← documentFor_aliasName]
      show (if _ then _ else _) = _
      rw [image_id, if_pos (config.idText_truthy row.id)]

theorem projectMessage_delete
    (key : Option Record) (row : Row Key) :
    projectMessage config.rt config.topicToIndex
        ⟨config.topic, key, some [(py "op", .str (py "d")),
          (py "before", .obj (config.image config.captured row)), (py "after", .null)]⟩ =
      .ok (.delete config.model.aliasName (.str (config.idText row.id))
        (some (config.image config.captured row))) := by
  rw [projectMessage_registered]
  cases hname : config.model.aliasName with
  | nil => exact absurd hname (aliasName_ne_nil _)
  | cons c rest => rfl

theorem request_change (row : Row Key) :
    config.request (RowHistory.change row) =
      some ⟨config.idText row.id, some (row.version + 1),
        some (config.model.transform config.rt (config.image config.captured row))⟩ := by
  have hrequest : ∀ op key, op = py "c" ∨ op = py "u" →
      ((projectMessage config.rt config.topicToIndex
        ⟨config.topic, key, some [(py "op", .str op), (py "before", .null),
          (py "after", .obj (config.image config.captured row))]⟩).map
        (ReadModelWrite.request config.rt)).toOption =
      some ⟨config.idText row.id, some (row.version + 1),
        some (config.model.transform config.rt (config.image config.captured row))⟩ := by
    intro op key hop
    rw [config.projectMessage_image key op hop row]
    simp only [Except.map, Except.toOption, ReadModelWrite.request, config.rt.text_str,
      ReadModelWrite.externalVersion, ReadModelWrite.document,
      config.transform_externalVersion]
  unfold RowHistory.change
  split
  · exact hrequest _ _ (Or.inl rfl)
  · exact hrequest _ _ (Or.inr rfl)

theorem request_delete (row : Row Key) :
    config.request (.delete row) =
      some ⟨config.idText row.id, some (row.version + 2), none⟩ := by
  show ((projectMessage config.rt config.topicToIndex
    ⟨config.topic, _, some [(py "op", .str (py "d")),
      (py "before", .obj (config.image config.captured row)),
      (py "after", .null)]⟩).map _).toOption = _
  rw [config.projectMessage_delete]
  have hversion : documentExternalVersion config.rt (config.image config.captured row) =
      some (row.version + 1) :=
    documentExternalVersion_of_version (config.image_version config.captured row .null)
  simp [Except.map, Except.toOption, ReadModelWrite.request, config.rt.text_str,
    ReadModelWrite.externalVersion, ReadModelWrite.document, hversion]

theorem bulkRequest_scanned (row : Row Key) :
    bulkRequest config.rt (config.scannedDocument row) =
      some ⟨config.idText row.id, some (row.version + 1),
        some (config.scannedDocument row)⟩ := by
  have hid : (config.scannedDocument row).get (py "id") .null =
      .str (config.idText row.id) := by
    unfold scannedDocument
    rw [transform_id, image_id]
  unfold bulkRequest
  simp only [hid, config.idText_truthy, if_true, config.rt.text_str]
  rw [show documentExternalVersion config.rt (config.scannedDocument row) = _ from
    config.transform_externalVersion config.scanned row]

end ReindexConfig

/-! ## The records of a row -/

namespace RowHistory

variable {id : Key} (history : RowHistory id)

theorem live_eq_some_iff (row : Row Key) :
    history.live = some row ↔ history.deleted = false ∧ history.rows.getLast? = some row := by
  cases hdeleted : history.deleted <;> simp [live, hdeleted]

theorem rows_eq_nil
    {history : RowHistory id} (hlive : history.live = none)
    (hdeleted : history.deleted = false) : history.rows = [] := by
  simpa [live, hdeleted] using hlive

/-- The last committed version of a live row. -/
theorem live_row
    {history : RowHistory id} {row : Row Key} (hlive : history.live = some row) :
    row.id = id ∧ history.rows[row.version]? = some row ∧
      row.version + 1 = history.rows.length := by
  have hlast := ((history.live_eq_some_iff row).mp hlive).2
  have hmem := List.mem_of_getLast? hlast
  rw [List.getLast?_eq_getElem?] at hlast
  have hversion := history.row_version _ _ hlast
  have hlength : 0 < history.rows.length := List.length_pos_of_mem hmem
  refine ⟨history.row_id row hmem, ?_, by omega⟩
  rw [hversion]
  exact hlast

theorem length_changes_of_live (hdeleted : history.deleted = false) :
    history.changes.length = history.rows.length := by
  simp [changes, hdeleted]

theorem length_changes_of_deleted (hdeleted : history.deleted = true) :
    history.changes.length = history.rows.length + 1 := by
  have hrows := history.deleted_row hdeleted
  simp [changes, hdeleted, List.getLast?_eq_some_getLast hrows]

theorem length_le_changes : history.rows.length ≤ history.changes.length := by
  simp [changes]

/-- What record `n` asks of an index. -/
inductive Records (config : ReindexConfig Key) (n : ℕ) : Option Record → Prop
  | row (row : Row Key) (document : Record) (hrow : history.rows[n]? = some row)
      (hshows : config.Shows row document) : Records config n (some document)
  | delete (hlast : n = history.rows.length) (hdeleted : history.deleted = true) :
      Records config n none

theorem request_of_change
    {history : RowHistory id} (config : ReindexConfig Key) {n : ℕ} {change : Change Key}
    (hchange : history.changes[n]? = some change) :
    ∃ document,
      config.request change = some ⟨config.idText id, some (n + 1), document⟩ ∧
        ReindexState.isDelete change = document.isNone ∧
        history.Records config n document := by
  unfold changes at hchange
  rw [List.getElem?_append] at hchange
  split at hchange
  · rw [List.getElem?_map, Option.map_eq_some_iff] at hchange
    obtain ⟨row, hrow, rfl⟩ := hchange
    have hversion := history.row_version n row hrow
    have hid := history.row_id row (List.mem_of_getElem? hrow)
    refine ⟨_, ?_, ?_, .row row _ hrow (Or.inl rfl)⟩
    · rw [config.request_change, hversion, hid]
    · unfold change
      split <;> rfl
  · rename_i hlength
    rw [List.length_map, not_lt] at hlength
    cases hdeleted : history.deleted with
    | false => simp [hdeleted] at hchange
    | true =>
        have hrows := history.deleted_row hdeleted
        have hlast := List.getLast?_eq_some_getLast hrows
        have hpos := List.length_pos_of_ne_nil hrows
        rw [hdeleted, if_pos rfl, hlast, List.length_map] at hchange
        simp only [Option.map_some, Option.toList_some] at hchange
        rw [List.getElem?_singleton] at hchange
        split at hchange
        · rename_i hn
          cases hchange
          have heq : n = history.rows.length := by omega
          have hversion := history.row_version _ _
            (List.getLast?_eq_getElem? (l := history.rows) ▸ hlast)
          have hid := history.row_id _ (List.getLast_mem hrows)
          refine ⟨none, ?_, rfl, .delete heq hdeleted⟩
          rw [config.request_delete, hversion, hid]
          have hsum : history.rows.length - 1 + 2 = n + 1 := by omega
          rw [hsum]
        · cases hchange

end RowHistory

/-- An entry shows a committed version under the matching external version, or no
document, once written only for a deleted row. -/
structure EntryOk {id : Key} (config : ReindexConfig Key) (history : RowHistory id)
    (entry : IndexEntry Record) : Prop where
  genuine : ∀ document, entry.document = some document →
    ∃ n row, entry.version = n + 1 ∧ history.rows[n]? = some row ∧
      config.Shows row document
  kept : entry.document = none → entry.version ≠ 0 → history.deleted = true

namespace EntryOk

variable {id : Key} {config : ReindexConfig Key} {history : RowHistory id}
  {entry : IndexEntry Record}

theorem vacant : EntryOk config history .vacant := by
  constructor <;> simp [IndexEntry.vacant]

theorem document_eq_none
    (hentry : EntryOk config history entry)
    (hversion : history.rows.length < entry.version) : entry.document = none := by
  cases hdocument : entry.document with
  | none => rfl
  | some document =>
      obtain ⟨n, row, hn, hrow, -⟩ := hentry.genuine document hdocument
      have hlt := (List.getElem?_eq_some_iff.mp hrow).1
      omega

/-- More records of the row may be committed. -/
theorem extend
    {longer : RowHistory id} (hentry : EntryOk config history entry)
    (hrows : history.rows <+: longer.rows)
    (hdeleted : history.deleted = true → longer.deleted = true) :
    EntryOk config longer entry where
  genuine document hdocument := by
    obtain ⟨n, row, hn, hrow, hshows⟩ := hentry.genuine document hdocument
    have hlt := (List.getElem?_eq_some_iff.mp hrow).1
    obtain ⟨later, hlater⟩ := hrows
    refine ⟨n, row, hn, ?_, hshows⟩
    rw [← hlater, List.getElem?_append_left hlt, hrow]
  kept hnone hversion := hdeleted (hentry.kept hnone hversion)

theorem write
    (hentry : EntryOk config history entry) {n : ℕ} {document : Option Record}
    (hrecord : history.Records config n document) :
    EntryOk config history (entry.write (some (n + 1)) document) := by
  by_cases haccepted : entry.version ≤ n + 1
  · rw [IndexEntry.write_accepted haccepted]
    cases hrecord with
    | row row document hrow hshows =>
        refine ⟨?_, by simp⟩
        rintro _ ⟨⟩
        exact ⟨n, row, rfl, hrow, hshows⟩
    | delete hlast hdeleted => exact ⟨by simp, fun _ _ => hdeleted⟩
  · rw [IndexEntry.write_stale (not_le.mp haccepted)]
    exact hentry

/-- After the delete record no document is left. -/
theorem write_delete
    (hentry : EntryOk config history entry) :
    (entry.write (some (history.rows.length + 1)) none).document = none := by
  rcases entry.write_none_document (some (history.rows.length + 1)) with hnone | hstale
  · exact hnone
  · obtain ⟨version, hversion, hlt, hsame⟩ := hstale
    cases hversion
    rw [hsame]
    exact hentry.document_eq_none (by omega)

end EntryOk

/-- The scan has passed this id, and the row it read there, if any, is written. -/
def Rebuild.Covered [LinearOrder Key] (rebuild : Rebuild Key) (id : Key) : Prop :=
  (∀ row ∈ rebuild.pending, row.id ≠ id) ∧
    (rebuild.stage = .scanned ∨
      rebuild.stage = .scanning ∧ ∃ last, rebuild.last_id = some last ∧ id ≤ last)

/-! ## The view of one row -/

/-- Everything in the state that concerns one row id. -/
structure RowView (id : Key) where
  history : RowHistory id
  position : ℕ
  inflight : Option (List WriteTarget)
  entries : ℕ → IndexEntry Record
  buried : Bool
  tombs : List ℕ

def ReindexState.view (config : ReindexConfig Key) (state : ReindexState Key) (id : Key) :
    RowView id :=
  { history := state.history id
    position := state.position id
    inflight := state.inflight id
    entries := fun index => state.indexes index (config.idText id)
    buried := state.buried id
    tombs := state.tombs id }

/-- `ReindexState.resolve` under a given alias. -/
def WriteTarget.resolve (serving : ℕ) : WriteTarget → ℕ
  | .logical => serving
  | .physical index => index

namespace RowView

variable {id : Key}

/-- The number of records that have been sent to an index as far as they were
addressed to it. -/
def reached (view : RowView id) (serving index : ℕ) : ℕ :=
  match view.inflight with
  | none => view.position
  | some pending =>
      if ∀ target ∈ pending, target.resolve serving ≠ index then view.position + 1
      else view.position

/-- An index has caught up with the first `count` records. -/
structure CaughtUp (view : RowView id) (count index : ℕ) : Prop where
  live : view.history.deleted = false → count ≤ (view.entries index).version
  deleted : view.history.deleted = true → view.history.rows.length < count →
    (view.entries index).document = none

theorem CaughtUp.mono
    {view : RowView id} {count fewer index : ℕ} (hcaught : view.CaughtUp count index)
    (hle : fewer ≤ count) : view.CaughtUp fewer index :=
  ⟨fun hlive => hle.trans (hcaught.live hlive),
    fun hdeleted hlt => hcaught.deleted hdeleted (hlt.trans_le hle)⟩

theorem position_le_reached (view : RowView id) (serving index : ℕ) :
    view.position ≤ view.reached serving index := by
  unfold reached
  split
  · exact le_rfl
  · split <;> omega

theorem reached_le (view : RowView id) (serving index : ℕ) :
    view.reached serving index ≤ view.position + 1 := by
  unfold reached
  split
  · omega
  · split <;> omega

/-- What holds of a row in every reachable state, whatever the rebuild does. -/
structure Ok (config : ReindexConfig Key) (serving : ℕ) (view : RowView id) : Prop where
  position_le : view.position ≤ view.history.changes.length
  position_lt : ∀ pending, view.inflight = some pending →
    view.position < view.history.changes.length
  entries : ∀ index, EntryOk config view.history (view.entries index)
  tombs : ∀ index ∈ view.tombs, view.history.deleted = true ∧
    view.history.rows.length + 1 ≤ (view.entries index).version
  buried_deleted : view.buried = true → view.history.deleted = true
  caught : view.CaughtUp (view.reached serving serving) serving
  gone : view.buried = true → (view.entries serving).document = none

/-- What holds of a row while a new index is being built. -/
structure Rebuilding [LinearOrder Key] (serving : ℕ) (rebuild : Rebuild Key)
    (view : RowView id) : Prop where
  swept : view.history.deleted = true →
    view.history.rows.length < view.reached serving rebuild.target →
      (view.entries rebuild.target).document = none
  absent : view.buried = true → (view.entries rebuild.target).document = none
  mirrored : rebuild.stage.mirrored = true →
    view.reached serving rebuild.target ≤ rebuild.mark id ∨
      view.reached serving rebuild.target ≤ (view.entries rebuild.target).version
  mark_le : rebuild.stage.mirrored = true →
    rebuild.mark id ≤ view.history.changes.length
  covered : rebuild.Covered id → view.history.deleted = false →
    rebuild.mark id ≤ (view.entries rebuild.target).version
  pending : ∀ row ∈ rebuild.pending, row.id = id →
    view.history.rows[row.version]? = some row ∧ rebuild.mark id ≤ row.version + 1 ∧
      (view.buried = true →
        view.history.rows.length + 1 ≤ (view.entries rebuild.target).version)

end RowView

end LibrarySystem
