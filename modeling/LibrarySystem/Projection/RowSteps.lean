import LibrarySystem.Projection.RowProgress

/-!
# Steps that concern one row

Each commit, each request of the consumer and each operation of a bulk request
keeps what holds of the row, and what holds of it while a new index is built.
-/

namespace LibrarySystem

variable {Key : Type}

namespace RowView

variable {id : Key} {config : ReindexConfig Key} {serving : ℕ} {view : RowView id}

/-! ## Commits -/

/-- A commit of the row leaves everything else as it is. -/
def withHistory (view : RowView id) (history : RowHistory id) : RowView id :=
  { view with history := history }

/-- A commit of a row that is not deleted. -/
structure Commits (before after : RowHistory id) : Prop where
  alive : before.deleted = false
  rows : before.rows <+: after.rows
  deleted : after.deleted = true → after.rows = before.rows

theorem Ok.reached_le (hok : view.Ok config serving) (index : ℕ) :
    view.reached serving index ≤ view.history.changes.length := by
  have hle := hok.position_le
  unfold reached
  cases hinflight : view.inflight with
  | none => exact hle
  | some pending =>
      have hlt := hok.position_lt pending hinflight
      dsimp only
      split <;> omega

theorem Commits.length_le
    {before after : RowHistory id} (hcommit : Commits before after) :
    before.changes.length ≤ after.changes.length := by
  rw [before.length_changes_of_live hcommit.alive]
  exact hcommit.rows.length_le.trans after.length_le_changes

theorem CaughtUp.commit
    {history : RowHistory id} {count index : ℕ} (hcaught : view.CaughtUp count index)
    (hcommit : Commits view.history history)
    (hcount : count ≤ view.history.changes.length) :
    (view.withHistory history).CaughtUp count index where
  live _ := hcaught.live hcommit.alive
  deleted hdeleted hlt := by
    have hrows := hcommit.deleted hdeleted
    have hlength := view.history.length_changes_of_live hcommit.alive
    simp only [withHistory, hrows] at hlt
    omega

theorem Ok.commit
    {history : RowHistory id} (hok : view.Ok config serving)
    (hcommit : Commits view.history history) :
    (view.withHistory history).Ok config serving where
  position_le := hok.position_le.trans hcommit.length_le
  position_lt pending hpending :=
    (hok.position_lt pending hpending).trans_le hcommit.length_le
  entries index := (hok.entries index).extend hcommit.rows
    fun hdeleted => absurd (hcommit.alive.symm.trans hdeleted) Bool.false_ne_true
  tombs index hindex :=
    absurd (hcommit.alive.symm.trans (hok.tombs index hindex).1) Bool.false_ne_true
  buried_deleted hburied :=
    absurd (hcommit.alive.symm.trans (hok.buried_deleted hburied)) Bool.false_ne_true
  caught := hok.caught.commit hcommit (hok.reached_le serving)
  gone := hok.gone

variable [LinearOrder Key] {rebuild : Rebuild Key}

theorem Rebuilding.commit
    {history : RowHistory id} (hok : view.Ok config serving)
    (hrebuilding : view.Rebuilding serving rebuild)
    (hcommit : Commits view.history history) :
    (view.withHistory history).Rebuilding serving rebuild where
  swept hdeleted hlt := by
    have hcount := hok.reached_le rebuild.target
    have hrows := hcommit.deleted hdeleted
    have hlength := view.history.length_changes_of_live hcommit.alive
    have hbefore : history.rows.length < view.reached serving rebuild.target := hlt
    rw [hrows] at hbefore
    omega
  absent := hrebuilding.absent
  mirrored := hrebuilding.mirrored
  mark_le hmirrored := (hrebuilding.mark_le hmirrored).trans hcommit.length_le
  covered hcovered _ := hrebuilding.covered hcovered hcommit.alive
  pending row hrow hid := by
    obtain ⟨hread, hmark, -⟩ := hrebuilding.pending row hrow hid
    have hlt := (List.getElem?_eq_some_iff.mp hread).1
    obtain ⟨later, hlater⟩ := hcommit.rows
    refine ⟨?_, hmark, fun hburied => ?_⟩
    · show history.rows[row.version]? = some row
      rw [← hlater, List.getElem?_append_left hlt, hread]
    · exact absurd (hcommit.alive.symm.trans (hok.buried_deleted hburied))
        Bool.false_ne_true

/-! ## Going back to an earlier record -/

/-- The record under way is given up, or an earlier one is delivered again. -/
def rewind (view : RowView id) (position : ℕ) : RowView id :=
  { view with position := position, inflight := none }

omit [LinearOrder Key] in
theorem rewind_reached_le
    (view : RowView id) (serving : ℕ) {position : ℕ} (hle : position ≤ view.position) (index : ℕ) :
    (view.rewind position).reached serving index ≤ view.reached serving index :=
  hle.trans (view.position_le_reached serving index)

omit [LinearOrder Key] in
theorem Ok.rewind
    {position : ℕ} (hok : view.Ok config serving) (hle : position ≤ view.position) :
    (view.rewind position).Ok config serving where
  position_le := hle.trans hok.position_le
  position_lt pending hpending := by cases hpending
  entries := hok.entries
  tombs := hok.tombs
  buried_deleted := hok.buried_deleted
  caught :=
    have hcaught := hok.caught.mono (view.rewind_reached_le serving hle serving)
    ⟨hcaught.live, hcaught.deleted⟩
  gone := hok.gone

theorem Rebuilding.rewind
    {position : ℕ} (hrebuilding : view.Rebuilding serving rebuild)
    (hle : position ≤ view.position) :
    (view.rewind position).Rebuilding serving rebuild where
  swept hdeleted hlt :=
    hrebuilding.swept hdeleted (hlt.trans_le (view.rewind_reached_le serving hle rebuild.target))
  absent := hrebuilding.absent
  mirrored hmirrored := by
    have hfewer := view.rewind_reached_le serving hle rebuild.target
    rcases hrebuilding.mirrored hmirrored with hmark | hversion
    · exact Or.inl (hfewer.trans hmark)
    · exact Or.inr (hfewer.trans hversion)
  mark_le := hrebuilding.mark_le
  covered := hrebuilding.covered
  pending := hrebuilding.pending

/-! ## Beginning a record -/

def start (view : RowView id) (targets : List WriteTarget) : RowView id :=
  { view with inflight := some targets }

omit [LinearOrder Key] in
theorem start_reached
    {targets : List WriteTarget} {target : WriteTarget} (htarget : target ∈ targets) :
    (view.start targets).reached serving (target.resolve serving) = view.position :=
  if_neg fun hskipped => hskipped target htarget rfl

omit [LinearOrder Key] in
theorem Ok.start
    {targets : List WriteTarget} (hok : view.Ok config serving)
    (hlt : view.position < view.history.changes.length)
    (hlogical : .logical ∈ targets) :
    (view.start targets).Ok config serving where
  position_le := hok.position_le
  position_lt _ _ := hlt
  entries := hok.entries
  tombs := hok.tombs
  buried_deleted := hok.buried_deleted
  caught := by
    have hreached : (view.start targets).reached serving serving = view.position :=
      start_reached hlogical
    rw [hreached]
    have hcaught := hok.caught.mono (view.position_le_reached serving serving)
    exact ⟨hcaught.live, hcaught.deleted⟩
  gone := hok.gone

/-- A delete record that skips the new index finds no document of the row there. -/
theorem Rebuilding.start
    {targets : List WriteTarget} (hrebuilding : view.Rebuilding serving rebuild)
    (hlt : view.position < view.history.changes.length)
    (hmirrored : rebuild.stage.mirrored = true → .physical rebuild.target ∈ targets)
    (hskipped : .physical rebuild.target ∉ targets → view.history.deleted = true →
      view.position = view.history.rows.length →
        (view.entries rebuild.target).document = none) :
    (view.start targets).Rebuilding serving rebuild where
  swept hdeleted hpassed := by
    by_cases htargets : .physical rebuild.target ∈ targets
    · have hreached : (view.start targets).reached serving rebuild.target =
          view.position := start_reached htargets
      rw [hreached] at hpassed
      exact hrebuilding.swept hdeleted
        (hpassed.trans_le (view.position_le_reached serving rebuild.target))
    · have hle := (view.start targets).reached_le serving rebuild.target
      have hlength := view.history.length_changes_of_deleted hdeleted
      have hrows : view.history.rows.length <
          (view.start targets).reached serving rebuild.target := hpassed
      have hposition : (view.start targets).position = view.position := rfl
      exact hskipped htargets hdeleted (by omega)
  absent := hrebuilding.absent
  mirrored hstage := by
    have hreached : (view.start targets).reached serving rebuild.target =
        view.position := start_reached (hmirrored hstage)
    have hle := view.position_le_reached serving rebuild.target
    rw [hreached]
    rcases hrebuilding.mirrored hstage with hmark | hversion
    · exact Or.inl (hle.trans hmark)
    · exact Or.inr (hle.trans hversion)
  mark_le := hrebuilding.mark_le
  covered := hrebuilding.covered
  pending := hrebuilding.pending

/-! ## One request -/

/-- One write to one index. -/
def written (view : RowView id) (index version : ℕ) (document : Option Record) :
    RowView id :=
  { view with
    entries := Function.update view.entries index
      ((view.entries index).write (some version) document) }

section Written

omit [LinearOrder Key]

variable {index n : ℕ} {document : Option Record}

@[simp] theorem written_entries_self (view : RowView id) (index version : ℕ)
    (document : Option Record) :
    (view.written index version document).entries index =
      (view.entries index).write (some version) document :=
  Function.update_self _ _ _

theorem written_entries_ne {other : ℕ} (hne : other ≠ index) (version : ℕ)
    (document : Option Record) :
    (view.written index version document).entries other = view.entries other :=
  Function.update_of_ne hne _ _

theorem version_le_written (view : RowView id) (index version : ℕ)
    (document : Option Record) (other : ℕ) :
    (view.entries other).version ≤
      ((view.written index version document).entries other).version := by
  by_cases heq : other = index
  · subst other
    rw [written_entries_self]
    exact IndexEntry.version_le_write _ _ _
  · rw [written_entries_ne heq]

theorem entries_written
    (hentries : ∀ other, EntryOk config view.history (view.entries other))
    (hrecord : view.history.Records config n document) (other : ℕ) :
    EntryOk config view.history ((view.written index (n + 1) document).entries other) := by
  by_cases heq : other = index
  · subst other
    rw [written_entries_self]
    exact (hentries index).write hrecord
  · rw [written_entries_ne heq]
    exact hentries other

/-- The index that was written has caught up with the record. -/
theorem caughtUp_written
    (hentry : EntryOk config view.history (view.entries index))
    (hrecord : view.history.Records config n document) :
    (view.written index (n + 1) document).CaughtUp (n + 1) index where
  live _ := by
    rw [written_entries_self]
    exact IndexEntry.le_version_write _ _ _
  deleted _ hlt := by
    rw [written_entries_self]
    cases hrecord with
    | row row document hrow hshows =>
        have hn := (List.getElem?_eq_some_iff.mp hrow).1
        have hrows : view.history.rows.length < n + 1 := hlt
        omega
    | delete hlast _ =>
        rw [hlast]
        exact hentry.write_delete

/-- A write of an older version does not bring a document back where the delete
version is kept. -/
theorem written_document_none
    (hentry : EntryOk config view.history (view.entries index))
    (hrecord : view.history.Records config n document)
    (hkept : document.isSome = true →
      view.history.rows.length + 1 ≤ (view.entries index).version)
    {other : ℕ} (hnone : (view.entries other).document = none) :
    ((view.written index (n + 1) document).entries other).document = none := by
  by_cases heq : other = index
  · subst other
    rw [written_entries_self]
    cases hrecord with
    | row row document hrow hshows =>
        have hn := (List.getElem?_eq_some_iff.mp hrow).1
        have hversion := hkept rfl
        rw [IndexEntry.write_stale (by omega)]
        exact hnone
    | delete hlast _ =>
        rw [hlast]
        exact hentry.write_delete
  · rw [written_entries_ne heq]
    exact hnone

/-- One of the requests of the record under way. -/
def sent (view : RowView id) (serving : ℕ) (pending : List WriteTarget)
    (target : WriteTarget) (document : Option Record) : RowView id :=
  { view.written (target.resolve serving) (view.position + 1) document with
    inflight := some (pending.erase target)
    tombs := if document.isNone then target.resolve serving :: view.tombs
      else view.tombs }

theorem sent_reached_ne
    {pending : List WriteTarget} {target : WriteTarget}
    (hpending : view.inflight = some pending) {other : ℕ}
    (hne : other ≠ target.resolve serving) :
    (view.sent serving pending target document).reached serving other =
      view.reached serving other := by
  have hiff : (∀ name ∈ pending.erase target, name.resolve serving ≠ other) ↔
      ∀ name ∈ pending, name.resolve serving ≠ other := by
    constructor
    · intro hskipped name hname
      by_cases heq : name = target
      · rw [heq]
        exact hne.symm
      · exact hskipped name ((List.mem_erase_of_ne heq).mpr hname)
    · exact fun hskipped name hname => hskipped name (List.mem_of_mem_erase hname)
  simp only [reached, sent, written, hpending, hiff]

/-- Every index is as far as it was, the one written as far as the record. -/
theorem caughtUp_sent
    {pending : List WriteTarget} {target : WriteTarget}
    (hentries : ∀ other, EntryOk config view.history (view.entries other))
    (hpending : view.inflight = some pending)
    (hrecord : view.history.Records config view.position document) {other : ℕ}
    (hcaught : view.CaughtUp (view.reached serving other) other) :
    (view.sent serving pending target document).CaughtUp
      ((view.sent serving pending target document).reached serving other) other := by
  by_cases heq : other = target.resolve serving
  · subst other
    have hwritten := caughtUp_written (hentries (target.resolve serving)) hrecord
    have hle := (view.sent serving pending target document).reached_le serving
      (target.resolve serving)
    have hmono := hwritten.mono hle
    exact ⟨hmono.live, hmono.deleted⟩
  · rw [sent_reached_ne hpending heq]
    have hsame : (view.sent serving pending target document).entries other =
        view.entries other := written_entries_ne heq _ _
    refine ⟨fun hlive => ?_, fun hdeleted hlt => ?_⟩
    · rw [hsame]
      exact hcaught.live hlive
    · rw [hsame]
      exact hcaught.deleted hdeleted hlt

theorem Ok.sent
    {pending : List WriteTarget} {target : WriteTarget} (hok : view.Ok config serving)
    (hpending : view.inflight = some pending)
    (hrecord : view.history.Records config view.position document)
    (hkept : document.isSome = true → view.buried = true →
      target.resolve serving ∈ view.tombs) :
    (view.sent serving pending target document).Ok config serving where
  position_le := hok.position_le
  position_lt _ _ := hok.position_lt pending hpending
  entries := entries_written hok.entries hrecord
  tombs index hindex := by
    have hversion := view.version_le_written (target.resolve serving)
      (view.position + 1) document
    have hold : ∀ index ∈ view.tombs, view.history.deleted = true ∧
        view.history.rows.length + 1 ≤
          ((view.sent serving pending target document).entries index).version :=
      fun index hmem => ⟨(hok.tombs index hmem).1,
        (hok.tombs index hmem).2.trans (hversion index)⟩
    cases hrecord with
    | row row document hrow hshows => exact hold index hindex
    | delete hlast hdeleted =>
        rcases List.mem_cons.mp hindex with rfl | hmem
        · refine ⟨hdeleted, ?_⟩
          show _ ≤ ((view.written (target.resolve serving)
            (view.position + 1) none).entries (target.resolve serving)).version
          rw [written_entries_self, hlast]
          exact IndexEntry.le_version_write _ _ _
        · exact hold index hmem
  buried_deleted := hok.buried_deleted
  caught := caughtUp_sent hok.entries hpending hrecord hok.caught
  gone hburied :=
    written_document_none (hok.entries _) hrecord
      (fun hsome => (hok.tombs _ (hkept hsome hburied)).2) (hok.gone hburied)

end Written

theorem Rebuilding.sent
    {pending : List WriteTarget} {target : WriteTarget} {document : Option Record}
    (hok : view.Ok config serving) (hrebuilding : view.Rebuilding serving rebuild)
    (hpending : view.inflight = some pending)
    (hrecord : view.history.Records config view.position document)
    (hkept : document.isSome = true → view.buried = true →
      target.resolve serving ∈ view.tombs) :
    (view.sent serving pending target document).Rebuilding serving rebuild := by
  have hversion := view.version_le_written (target.resolve serving) (view.position + 1)
    document rebuild.target
  constructor
  · intro hdeleted hlt
    by_cases heq : rebuild.target = target.resolve serving
    · have hwritten := caughtUp_written (hok.entries (target.resolve serving)) hrecord
      have hle := (view.sent serving pending target document).reached_le serving
        rebuild.target
      rw [heq] at hlt hle ⊢
      exact (hwritten.mono hle).deleted hdeleted hlt
    · rw [sent_reached_ne hpending heq] at hlt
      show ((view.written _ _ document).entries rebuild.target).document = none
      rw [written_entries_ne heq]
      exact hrebuilding.swept hdeleted hlt
  · intro hburied
    exact written_document_none (hok.entries _) hrecord
      (fun hsome => (hok.tombs _ (hkept hsome hburied)).2) (hrebuilding.absent hburied)
  · intro hstage
    by_cases heq : rebuild.target = target.resolve serving
    · have hle := (view.sent serving pending target document).reached_le serving
        rebuild.target
      refine Or.inr (hle.trans ?_)
      show view.position + 1 ≤ ((view.written _ _ document).entries _).version
      rw [heq, written_entries_self]
      exact IndexEntry.le_version_write _ _ _
    · rw [sent_reached_ne hpending heq]
      rcases hrebuilding.mirrored hstage with hmark | hreached
      · exact Or.inl hmark
      · exact Or.inr (hreached.trans hversion)
  · exact hrebuilding.mark_le
  · exact fun hcovered hlive => (hrebuilding.covered hcovered hlive).trans hversion
  · intro row hrow hid
    obtain ⟨hread, hmark, hburied⟩ := hrebuilding.pending row hrow hid
    exact ⟨hread, hmark, fun hburiedRow => (hburied hburiedRow).trans hversion⟩

/-! ## The end of a record -/

def finished (view : RowView id) (document : Option Record) : RowView id :=
  { view with
    position := view.position + 1
    inflight := none
    buried := view.buried || document.isNone }

omit [LinearOrder Key] in
theorem finished_reached
    (hpending : view.inflight = some []) (document : Option Record) (index : ℕ) :
    (view.finished document).reached serving index = view.reached serving index := by
  simp [reached, finished, hpending]

omit [LinearOrder Key] in
theorem buried_finished
    {document : Option Record} (hrecord : view.history.Records config view.position document)
    (hburied : (view.finished document).buried = true) :
    view.buried = true ∨
      view.position = view.history.rows.length ∧ view.history.deleted = true := by
  cases hrecord with
  | row row document hrow hshows =>
      exact Or.inl (by simpa [finished] using hburied)
  | delete hlast hdeleted => exact Or.inr ⟨hlast, hdeleted⟩

omit [LinearOrder Key] in
theorem Ok.finished
    {document : Option Record} (hok : view.Ok config serving)
    (hpending : view.inflight = some [])
    (hrecord : view.history.Records config view.position document) :
    (view.finished document).Ok config serving where
  position_le := hok.position_lt [] hpending
  position_lt pending hnone := by cases hnone
  entries := hok.entries
  tombs := hok.tombs
  buried_deleted hburied := by
    rcases buried_finished hrecord hburied with hold | ⟨-, hdeleted⟩
    · exact hok.buried_deleted hold
    · exact hdeleted
  caught := by
    rw [finished_reached hpending]
    exact ⟨hok.caught.live, hok.caught.deleted⟩
  gone hburied := by
    rcases buried_finished hrecord hburied with hold | ⟨hlast, hdeleted⟩
    · exact hok.gone hold
    · apply hok.caught.deleted hdeleted
      have hreached : view.reached serving serving = view.position + 1 := by
        simp [reached, hpending]
      omega

theorem Rebuilding.finished
    {document : Option Record} (hrebuilding : view.Rebuilding serving rebuild)
    (hstage : rebuild.pending ≠ [] → rebuild.stage.mirrored = true)
    (hpending : view.inflight = some [])
    (hrecord : view.history.Records config view.position document) :
    (view.finished document).Rebuilding serving rebuild := by
  have hreached : view.reached serving rebuild.target = view.position + 1 := by
    simp [reached, hpending]
  constructor
  · intro hdeleted hlt
    rw [finished_reached hpending] at hlt
    exact hrebuilding.swept hdeleted hlt
  · intro hburied
    rcases buried_finished hrecord hburied with hold | ⟨hlast, hdeleted⟩
    · exact hrebuilding.absent hold
    · exact hrebuilding.swept hdeleted (by omega)
  · rw [finished_reached hpending]
    exact hrebuilding.mirrored
  · exact hrebuilding.mark_le
  · exact hrebuilding.covered
  · intro row hrow hid
    obtain ⟨hread, hmark, hburied⟩ := hrebuilding.pending row hrow hid
    refine ⟨hread, hmark, fun hburiedRow => ?_⟩
    rcases buried_finished hrecord hburiedRow with hold | ⟨hlast, -⟩
    · exact hburied hold
    · have hlt := (List.getElem?_eq_some_iff.mp hread).1
      have hversion := hrebuilding.mirrored (hstage (List.ne_nil_of_mem hrow))
      show view.history.rows.length + 1 ≤ (view.entries rebuild.target).version
      omega

/-! ## The scan -/

omit [LinearOrder Key] in
theorem Ok.bulk
    {row : Row Key} {document : Record} (hok : view.Ok config serving) {index : ℕ}
    (hne : serving ≠ index) (hread : view.history.rows[row.version]? = some row)
    (hshows : config.Shows row document) :
    (view.written index (row.version + 1) (some document)).Ok config serving := by
  have hversion := view.version_le_written index (row.version + 1) (some document)
  have hserving := view.written_entries_ne hne (row.version + 1) (some document)
  refine
    { position_le := hok.position_le
      position_lt := hok.position_lt
      entries := entries_written hok.entries (.row row document hread hshows)
      tombs := fun other hother =>
        ⟨(hok.tombs other hother).1, (hok.tombs other hother).2.trans (hversion other)⟩
      buried_deleted := hok.buried_deleted
      caught := ⟨fun hlive => (hok.caught.live hlive).trans (hversion serving),
        fun hdeleted hlt => ?_⟩
      gone := fun hburied => ?_ }
  · rw [hserving]
    exact hok.caught.deleted hdeleted hlt
  · rw [hserving]
    exact hok.gone hburied

/-- A row that the scan read late is no newer than its delete record, which the
new index has by then. -/
theorem Rebuilding.bulk
    {row : Row Key} {document : Record} {pending : List (Row Key)}
    (hok : view.Ok config serving) (hrebuilding : view.Rebuilding serving rebuild)
    (hrow : row ∈ rebuild.pending) (hid : row.id = id)
    (hstage : rebuild.stage.mirrored = true) (hshows : config.Shows row document)
    (hsub : ∀ other ∈ pending, other ∈ rebuild.pending) :
    (view.written rebuild.target (row.version + 1) (some document)).Rebuilding serving
      { rebuild with pending := pending } := by
  obtain ⟨hread, hmark, hburied⟩ := hrebuilding.pending row hrow hid
  have hlt := (List.getElem?_eq_some_iff.mp hread).1
  have hversion := view.version_le_written rebuild.target (row.version + 1)
    (some document) rebuild.target
  have hrecord : view.history.Records config row.version (some document) :=
    .row row document hread hshows
  constructor
  · intro hdeleted hpassed
    have hbefore : view.history.rows.length < view.reached serving rebuild.target :=
      hpassed
    have hkept := hrebuilding.mirrored hstage
    exact written_document_none (hok.entries _) hrecord (fun _ => by omega)
      (hrebuilding.swept hdeleted hbefore)
  · intro hburiedRow
    exact written_document_none (hok.entries _) hrecord (fun _ => hburied hburiedRow)
      (hrebuilding.absent hburiedRow)
  · intro _
    rcases hrebuilding.mirrored hstage with hle | hreached
    · exact Or.inl hle
    · exact Or.inr (hreached.trans hversion)
  · exact hrebuilding.mark_le
  · intro _ _
    show rebuild.mark id ≤ ((view.written rebuild.target (row.version + 1)
      (some document)).entries rebuild.target).version
    rw [written_entries_self]
    exact hmark.trans (IndexEntry.le_version_write _ _ _)
  · intro other hother hotherId
    obtain ⟨hreadOther, hmarkOther, hburiedOther⟩ :=
      hrebuilding.pending other (hsub other hother) hotherId
    exact ⟨hreadOther, hmarkOther, fun hburiedRow =>
      (hburiedOther hburiedRow).trans hversion⟩

/-- Another row of the batch was written. -/
theorem Rebuilding.others
    {pending : List (Row Key)} (hrebuilding : view.Rebuilding serving rebuild)
    (hsub : ∀ row ∈ pending, row ∈ rebuild.pending)
    (hkeep : ∀ row ∈ rebuild.pending, row.id = id → row ∈ pending) :
    view.Rebuilding serving { rebuild with pending := pending } where
  swept := hrebuilding.swept
  absent := hrebuilding.absent
  mirrored := hrebuilding.mirrored
  mark_le := hrebuilding.mark_le
  covered hcovered :=
    hrebuilding.covered
      ⟨fun row hrow hid => hcovered.1 row (hkeep row hrow hid) hid, hcovered.2⟩
  pending row hrow := hrebuilding.pending row (hsub row hrow)

/-- A batch: every live row up to its last id is in it or was passed before. -/
theorem Rebuilding.scan
    {after : Rebuild Key} (hok : view.Ok config serving)
    (hrebuilding : view.Rebuilding serving rebuild)
    (htarget : after.target = rebuild.target) (hmark : after.mark = rebuild.mark)
    (hstage : rebuild.stage.mirrored = true)
    (hcovered : after.Covered id → rebuild.Covered id ∨ view.history.live = none)
    (hlive : ∀ row ∈ after.pending, row.id = id → view.history.live = some row) :
    view.Rebuilding serving after := by
  have hle := hrebuilding.mark_le hstage
  constructor
  · rw [htarget]
    exact hrebuilding.swept
  · rw [htarget]
    exact hrebuilding.absent
  · rw [htarget, hmark]
    exact fun _ => hrebuilding.mirrored hstage
  · rw [hmark]
    exact fun _ => hle
  · intro hafter halive
    rw [htarget, hmark]
    rcases hcovered hafter with hbefore | hnone
    · exact hrebuilding.covered hbefore halive
    · have hlength := view.history.length_changes_of_live halive
      rw [RowHistory.rows_eq_nil hnone halive] at hlength
      simp only [List.length_nil] at hlength
      omega
  · intro row hrow hid
    have hrowLive := hlive row hrow hid
    obtain ⟨-, hread, hlength⟩ := RowHistory.live_row hrowLive
    have halive := ((view.history.live_eq_some_iff row).mp hrowLive).1
    rw [view.history.length_changes_of_live halive] at hle
    rw [htarget, hmark]
    refine ⟨hread, by omega, fun hburied => ?_⟩
    exact absurd (halive.symm.trans (hok.buried_deleted hburied)) Bool.false_ne_true

/-- The grace period is over; every record under way is older than the mark. -/
theorem Rebuilding.graceOver
    (hok : view.Ok config serving) (hrebuilding : view.Rebuilding serving rebuild)
    (hpending : rebuild.pending = []) (hlast : rebuild.last_id = none)
    {mark : Key → ℕ} (hmark : mark id = view.history.changes.length) :
    view.Rebuilding serving { rebuild with stage := .scanning, mark := mark } where
  swept := hrebuilding.swept
  absent := hrebuilding.absent
  mirrored _ := Or.inl (by
    show _ ≤ mark id
    rw [hmark]
    exact hok.reached_le rebuild.target)
  mark_le _ := hmark.le
  covered := by
    rintro ⟨-, hscanned | ⟨-, last, hsome, -⟩⟩
    · cases hscanned
    · rw [show ({ rebuild with stage := .scanning, mark := mark } : Rebuild Key).last_id =
        rebuild.last_id from rfl, hlast] at hsome
      cases hsome
  pending row hrow := by
    rw [show ({ rebuild with stage := .scanning, mark := mark } : Rebuild Key).pending =
      rebuild.pending from rfl, hpending] at hrow
    cases hrow

omit [LinearOrder Key] in
/-- After the swap requests to the alias count for the new index. -/
theorem swap_reached_le
    (view : RowView id) {target : ℕ} (hne : target ≠ serving) :
    view.reached target target ≤ view.reached serving target := by
  unfold reached
  split
  · exact le_rfl
  · rename_i pending hpending
    by_cases hskipped : ∀ name ∈ pending, name.resolve target ≠ target
    · rw [if_pos hskipped, if_pos]
      intro name hname heq
      cases name with
      | logical => exact hne heq.symm
      | physical index => exact hskipped _ hname heq
    · rw [if_neg hskipped]
      split <;> omega

theorem Ok.swap
    (hok : view.Ok config serving) (hrebuilding : view.Rebuilding serving rebuild)
    (hne : rebuild.target ≠ serving) (hstage : rebuild.stage = .scanned)
    (hpending : rebuild.pending = []) :
    view.Ok config rebuild.target where
  position_le := hok.position_le
  position_lt := hok.position_lt
  entries := hok.entries
  tombs := hok.tombs
  buried_deleted := hok.buried_deleted
  caught := by
    have hmirrored := hrebuilding.mirrored (by rw [hstage]; rfl)
    have hcovered := hrebuilding.covered
      ⟨by simp [hpending], Or.inl hstage⟩
    have hcaught : view.CaughtUp (view.reached serving rebuild.target) rebuild.target := by
      refine ⟨fun hlive => ?_, hrebuilding.swept⟩
      rcases hmirrored with hmark | hversion
      · exact hmark.trans (hcovered hlive)
      · exact hversion
    exact hcaught.mono (view.swap_reached_le hne)
  gone := hrebuilding.absent

end RowView

end LibrarySystem
