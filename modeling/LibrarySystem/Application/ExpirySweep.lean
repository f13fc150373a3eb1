import LibrarySystem.Application.OutboxExactness
import LibrarySystem.Application.Reservations
import LibrarySystem.Domain.BookHistory
import LibrarySystem.Events.Publication
import LibrarySystem.Persistence.Alone

/-!
# The sweep of the reservation reaper

A sweep releases one batch of expired reservations after the other until a batch is not
full.  Run with the rows to itself, every batch releases all it has found, so that the
number of expired reservations goes down by a whole batch or the sweep ends.
-/

namespace LibrarySystem

open Result

namespace ReleaseExpiredReservationsHandler

/-- `release_all_expired`; `draws i` is what the outside brings to the batch `i`.  The
sweep has no result when `fuel` batches are not enough. -/
def releaseAllExpired (rt : PythonRuntime) (command : ReleaseExpiredReservationsCommand)
    (draws : ℕ → ℕ → Draws) :
    ℕ → ℕ → ℕ → Database → Option (Except AppException ℕ × Database)
  | 0, _, _, _ => none
  | fuel + 1, i, released_count, db =>
      match db.runAlone (draws i) (handle rt command) with
      | (.error error, after) => some (.error error, after)
      | (.ok result, after) =>
          let released_count := released_count + result.released_count
          if result.batch_full then
            releaseAllExpired rt command draws fuel (i + 1) released_count after
          else some (.ok released_count, after)

theorem cutoff_ok {now cut : UtcDateTime} {ttl : ℤ} (hcutoff : cutoff now ttl = .ok cut) :
    (cut.val : ℤ) = now.val - ttl * 1000000 ∧ 0 ≤ (now.val : ℤ) - ttl * 1000000 := by
  unfold cutoff at hcutoff
  simp only at hcutoff
  split_ifs at hcutoff with hrange
  simp only [Except.ok.injEq] at hcutoff
  subst hcutoff
  exact ⟨Int.toNat_of_nonneg hrange.1, hrange.1⟩

/-- A later clock has a later cutoff. -/
theorem cutoff_later {now later cut : UtcDateTime} {ttl : ℤ} (httl : 0 < ttl)
    (hcutoff : cutoff now ttl = .ok cut) (hlater : now ≤ later) :
    ∃ next, cutoff later ttl = .ok next ∧ cut ≤ next := by
  obtain ⟨hcut, hnonneg⟩ := cutoff_ok hcutoff
  have hle : now.val ≤ later.val := hlater
  have hlt := later.isLt
  have hrange : 0 ≤ (later.val : ℤ) - ttl * 1000000 ∧
      (later.val : ℤ) - ttl * 1000000 < wallSpan := by
    constructor
    · omega
    · omega
  refine ⟨⟨((later.val : ℤ) - ttl * 1000000).toNat, by omega⟩, ?_, ?_⟩
  · unfold cutoff
    simp only
    rw [dif_pos hrange]
  · change cut.val ≤ ((later.val : ℤ) - ttl * 1000000).toNat
    omega

/-! ## The text of the reason -/

theorem renderNat_length {n : ℕ} (hn : n < 10 ^ 20) : (Json.renderNat n).length ≤ 20 := by
  unfold Json.renderNat
  split
  · decide
  · rw [List.length_map, List.length_reverse]
    exact (Nat.digits_length_le_iff (by decide) n).mpr hn

theorem isWord_seconds (n : ℕ) : PyStr.IsWord (Json.renderNat n ++ py "s") := by
  constructor
  · exact List.append_ne_nil_of_right_ne_nil _ (by decide)
  · intro c hc
    rcases List.mem_append.mp hc with hc | hc
    · exact CodePoint.isSpace_eq_false_of_isAlphanumeric
        (by simp [CodePoint.isAlphanumeric, Json.renderNat_all_digit n c hc])
    · have hunit : (py "s").all (fun c => !c.isSpace) = true := by decide +kernel
      simpa using List.all_eq_true.mp hunit c hc

/-- The reason has single blanks between its words. -/
theorem collapse_reason {command : ReleaseExpiredReservationsCommand}
    (httl : 0 < command.ttl_seconds) :
    PyStr.collapse (reason command) = reason command := by
  obtain ⟨n, hn⟩ := Int.eq_ofNat_of_zero_le httl.le
  let words : List PyStr :=
    [py "reservation", py "expired", py "after", Json.renderNat n ++ py "s", py "without",
      py "loan", py "confirmation"]
  have hwords : ∀ word ∈ words, PyStr.IsWord word := by
    have hliteral : [py "reservation", py "expired", py "after", py "without", py "loan",
        py "confirmation"].all
          (fun word => !word.isEmpty && word.all fun c => !c.isSpace) = true := by
      decide +kernel
    intro word hword
    by_cases hseconds : word = Json.renderNat n ++ py "s"
    · rw [hseconds]
      exact isWord_seconds n
    · have hmem : word ∈ [py "reservation", py "expired", py "after", py "without", py "loan",
          py "confirmation"] := by
        simp only [words, List.mem_cons, List.not_mem_nil, or_false] at hword ⊢
        tauto
      have hword := List.all_eq_true.mp hliteral word hmem
      simp only [Bool.and_eq_true, Bool.not_eq_true', List.isEmpty_eq_false_iff,
        List.all_eq_true] at hword
      exact hword
  have hjoined : reason command = PyStr.joinWords words := by
    have hrender : Json.renderInt command.ttl_seconds = Json.renderNat n := by
      rw [hn]
      rfl
    have hfirst : py "reservation expired after " =
        py "reservation" ++ CodePoint.space :: (py "expired" ++ CodePoint.space ::
          (py "after" ++ [CodePoint.space])) := by decide +kernel
    have hlast : py "s without loan confirmation" =
        py "s" ++ CodePoint.space :: (py "without" ++ CodePoint.space ::
          (py "loan" ++ CodePoint.space :: py "confirmation")) := by decide +kernel
    simp [reason, hrender, hfirst, hlast, words, PyStr.joinWords]
  rw [hjoined, PyStr.collapse, PyStr.splitWords_joinWords words hwords]

theorem foldText_reason {command : ReleaseExpiredReservationsCommand}
    {now cut : UtcDateTime} (httl : 0 < command.ttl_seconds)
    (hcutoff : cutoff now command.ttl_seconds = .ok cut) (empty tooLong : Raised) :
    ∃ text, foldText 500 empty tooLong (reason command) = .ok text := by
  obtain ⟨n, hn⟩ := Int.eq_ofNat_of_zero_le httl.le
  have hsmall : n < 10 ^ 20 := by
    have hnonneg := (cutoff_ok hcutoff).2
    have hlt := now.isLt
    rw [hn] at hnonneg
    have hspan : wallSpan < 10 ^ 20 := by decide
    omega
  have hrender : Json.renderInt command.ttl_seconds = Json.renderNat n := by
    rw [hn]
    rfl
  have hlength : (reason command).length ≤ 500 := by
    have hseconds := renderNat_length hsmall
    have hfirst : (py "reservation expired after ").length = 26 := by decide
    have hlast : (py "s without loan confirmation").length = 27 := by decide
    simp only [reason, hrender, List.length_append, hfirst, hlast]
    omega
  have hnonempty : reason command ≠ [] := by
    intro hnil
    have hfirst : (reason command).length = 0 := by rw [hnil, List.length_nil]
    have hlast : (py "s without loan confirmation").length = 27 := by decide
    simp only [reason, List.length_append, hlast] at hfirst
    omega
  unfold foldText
  simp only [collapse_reason httl]
  rw [dif_neg hnonempty, dif_pos hlength]
  exact ⟨_, rfl⟩

/-! ## One release -/

/-- A release of a reserved book of the database. -/
structure Release.Planned (rt : PythonRuntime) (command : ReleaseExpiredReservationsCommand)
    (release : Release) : Prop where
  hydrated : release.row.toEntity = .ok release.book
  status : release.row.state.status = .reserved
  reservation : release.row.state.reservation_id = some release.reservation
  patron : release.row.state.reserved_patron_id = some release.patron
  written : release.row.write release.after = release.row.released
  id : release.after.id = release.row.id
  events : release.events =
    [.catalogBookReleased
      { book_id := release.row.id.val
        reservation_id := uuidText release.reservation
        reservation_generation := release.row.state.reservation_generation
        patron_id := release.patron.val
        reason := reason command }]
  clock : ∀ t ∈ release.row.state.reserved_at, t ≤ release.now

theorem release_reserved (rt : PythonRuntime) {command : ReleaseExpiredReservationsCommand}
    {book : Book} {token : Uuid} {patron : Reference}
    (hstatus : book.state.status = .reserved)
    (htoken : book.state.reservation_id = some token)
    (hpatron : book.state.reserved_patron_id = some patron)
    (hreason : ∀ empty tooLong, ∃ text,
      foldText 500 empty tooLong (reason command) = .ok text) :
    ∃ after events, book.release rt (uuidText token) book.state.reservation_generation
      patron.val (reason command) = .ok (after, true, events) := by
  have hmatching : book.requireMatchingReservation rt (uuidText token)
      book.state.reservation_generation patron.val (py "release reservation") = .ok token := by
    simp [Book.requireMatchingReservation, Book.parseReservationId, parseReservationId_uuidText,
      htoken, hpatron]
  obtain ⟨text, htext⟩ := hreason (Raised.catalog .invalidReservationReason)
    (Raised.catalog .invalidReservationReason)
  have hunavailable : book.state.status ≠ .available := by simp [hstatus]
  unfold Book.release
  simp only [hmatching, htext, ok_bind, hunavailable, if_false]
  rw [dif_pos hstatus]
  exact ⟨_, _, rfl⟩

/-- What the release of a hydrated row amounts to. -/
theorem planned_of_release {rt : PythonRuntime}
    {command : ReleaseExpiredReservationsCommand} {row : BookRow} {book after : Book}
    {token : Uuid} {patron : Reference} {events : List AggregateEvent} {now : UtcDateTime}
    (httl : 0 < command.ttl_seconds)
    (hhydrated : row.toEntity = .ok book) (hstatus : row.state.status = .reserved)
    (htoken : row.state.reservation_id = some token)
    (hpatron : row.state.reserved_patron_id = some patron)
    (hrelease : book.release rt (uuidText token) book.state.reservation_generation
      patron.val (reason command) = .ok (after, true, events))
    (hclock : ∀ t ∈ row.state.reserved_at, t ≤ now) (draws : Draws) :
    Release.Planned rt command ⟨row, book, after, events, token, patron, now, draws⟩ := by
  have hrow := (BookRow.toEntity_eq_ok_iff row book).mp hhydrated
  have hstate : row.state = book.state := congrArg BookRow.state hrow
  have hid : row.id = book.id := congrArg BookRow.id hrow
  have hcompleted : row.last_completed_loan_id = book.last_completed_loan_id :=
    congrArg BookRow.last_completed_loan_id hrow
  obtain ⟨read, text, hread, -, -, -, htext, ⟨hchanged, -⟩ |
    ⟨-, -, hafter, -, -, hlast, hafterState, hevents⟩⟩ := Book.release_ok hrelease
  · cases hchanged
  · have hreadToken : read = token :=
      Except.ok.inj (hread.symm.trans parseReservationId_uuidText)
    refine
      { hydrated := hhydrated
        status := hstatus
        reservation := htoken
        patron := hpatron
        written := ?_
        id := hafter.trans hid.symm
        events := ?_
        clock := hclock }
    · simp only [BookRow.write, BookRow.released, hafterState, hlast, ← hstate, ← hcompleted]
    · rw [hevents, hreadToken, htext, collapse_reason httl, ← hid, ← hstate]

/-! ## One batch -/

section Batch

variable {rt : PythonRuntime} {command : ReleaseExpiredReservationsCommand} (draws : ℕ → Draws)
  {session : UnitOfWork Book} {β : Type}

/-- The identity that the event of a release draws. -/
def Release.eventId (release : Release) : EventIdentity := (release.draws.metadata 0).event_id

theorem Release.Planned.idText {release : Release} (hplanned : release.Planned rt command) :
    release.piece.after.idText = release.row.id.val :=
  congrArg Subtype.val hplanned.id

/-- What a row of an expired reservation brings along. -/
structure Releasable (draws : ℕ → Draws) (row : BookRow) : Prop where
  valid : row.state.Ok
  status : row.state.status = .reserved
  clock : ∀ k, ∀ t ∈ row.state.reserved_at, t ≤ (draws k).now

/-- The entity that the row is loaded as. -/
def LoadedAs (row : BookRow) (entity : Tracked Book) : Prop :=
  row.toEntity = .ok entity.aggregate ∧ entity = ⟨entity.aggregate, row.version, []⟩

theorem alone_releaseOne (rt : PythonRuntime) (db : Database) (i : ℕ) {pieces : List Piece}
    {row : BookRow} {entity : Tracked Book} (httl : 0 < command.ttl_seconds)
    (hreason : ∀ empty tooLong, ∃ text,
      foldText 500 empty tooLong (reason command) = .ok text)
    (hshows : session.Shows pieces)
    (hnew : ∀ piece ∈ pieces, piece.after.idText ≠ row.id.val)
    (hrow : Releasable draws row) (hentity : LoadedAs row entity)
    (rest : Bool → Uow Book β) :
    ∃ (release : Release) (later : UnitOfWork Book), release.row = row ∧
      release.draws = draws i ∧ release.Planned rt command ∧
      later.Shows (pieces ++ [release.piece]) ∧
      Uow.alone draws (releaseOne rt command entity >>= rest) session i db =
        Uow.alone draws (rest true) later (i + 2) db := by
  obtain ⟨hhydrated, hloaded⟩ := hentity
  obtain ⟨book, version, kept⟩ := entity
  simp only [Tracked.mk.injEq, true_and] at hloaded
  obtain ⟨rfl, rfl⟩ := hloaded
  have hbook := (BookRow.toEntity_eq_ok_iff row book).mp hhydrated
  have hstate : row.state = book.state := congrArg BookRow.state hbook
  have hvalid := hrow.valid
  simp only [BookState.Ok, hrow.status] at hvalid
  obtain ⟨token, htoken⟩ := Option.isSome_iff_exists.mp hvalid.1.1
  obtain ⟨patron, hpatron⟩ := Option.isSome_iff_exists.mp hvalid.1.2.1
  obtain ⟨after, events, hrelease⟩ := release_reserved rt
    (hstate ▸ hrow.status) (hstate ▸ htoken) (hstate ▸ hpatron) hreason
  have hplanned := planned_of_release httl hhydrated hrow.status htoken
    hpatron hrelease (hrow.clock (i + 1)) (draws i)
  have hfresh : ∀ piece ∈ pieces, piece.after.idText ≠ (Stored.wrap after).idText := by
    intro piece hpiece
    change piece.after.idText ≠ after.id.val
    rw [hplanned.id]
    exact hnew piece hpiece
  have hshown : (UnitOfWork.issue _ (.transitionOperation
      (change after token patron (draws (i + 1)).now))).Shows (pieces ++ [_]) :=
    (hshows.updated book after row.version (draws i) events hfresh).issue
  refine ⟨_, _, rfl, rfl, hplanned, hshown, ?_⟩
  unfold releaseOne
  simp only [← hstate, htoken, hpatron]
  rw [hstate, bind_assoc, Uow.alone_ofExcept_ok hrelease]
  dsimp only
  rw [bind_assoc, Uow.alone_mutate]
  simp only [Bool.not_true, Bool.false_eq_true, if_false]
  unfold Uow.update
  rw [bind_assoc, Uow.alone_modify, bind_assoc, Uow.alone_now, bind_assoc,
    Uow.alone_transition (by simp [change, BorrowOperationStatus.sources])]
  rfl

theorem alone_releaseAll (rt : PythonRuntime) (db : Database) (i : ℕ) {pieces : List Piece}
    {rows : List BookRow} {entities : List (Tracked Book)} (httl : 0 < command.ttl_seconds)
    (hreason : ∀ empty tooLong, ∃ text,
      foldText 500 empty tooLong (reason command) = .ok text)
    (hshows : session.Shows pieces)
    (hnew : ∀ row ∈ rows, ∀ piece ∈ pieces, piece.after.idText ≠ row.id.val)
    (hids : (rows.map fun row => row.id.val).Nodup)
    (hrows : ∀ row ∈ rows, Releasable draws row)
    (hentities : List.Forall₂ LoadedAs rows entities) (rest : ℕ → Uow Book β) :
    ∃ (releases : List Release) (later : UnitOfWork Book), releases.map Release.row = rows ∧
      releases.map Release.eventId =
        (List.range rows.length).map (fun k => ((draws (i + 2 * k)).metadata 0).event_id) ∧
      (∀ release ∈ releases, release.Planned rt command) ∧
      later.Shows (pieces ++ releases.map Release.piece) ∧
      Uow.alone draws (releaseAll rt command entities >>= rest) session i db =
        Uow.alone draws (rest rows.length) later (i + 2 * rows.length) db := by
  induction entities generalizing rows pieces session i rest with
  | nil =>
      cases hentities
      exact ⟨[], session, rfl, rfl, by simp, by simpa using hshows, rfl⟩
  | cons entity entities ih =>
      obtain ⟨row, others, hentity, hothers, rfl⟩ :=
        List.forall₂_cons_right_iff.mp hentities
      simp only [List.map_cons, List.nodup_cons] at hids
      obtain ⟨release, middle, hrow, hdraws, hplanned, hmiddle, hrun⟩ :=
        alone_releaseOne draws rt db i httl hreason hshows
          (hnew row List.mem_cons_self) (hrows row List.mem_cons_self) hentity
          (fun released => do
            let count ← releaseAll rt command entities
            rest (count + if released then 1 else 0))
      have hnew' : ∀ other ∈ others, ∀ piece ∈ pieces ++ [release.piece],
          piece.after.idText ≠ other.id.val := by
        intro other hother piece hpiece
        rcases List.mem_append.mp hpiece with hold | hlast
        · exact hnew other (List.mem_cons_of_mem _ hother) piece hold
        · rw [List.mem_singleton.mp hlast, hplanned.idText, hrow]
          intro hsame
          refine hids.1 (List.mem_map.mpr ⟨other, hother, ?_⟩)
          exact hsame.symm
      obtain ⟨releases, later, hmap, hevents, hall, hlater, hrest⟩ :=
        ih (i + 2) hmiddle hnew' hids.2
          (fun other hother => hrows other (List.mem_cons_of_mem _ hother)) hothers
          (fun count => rest (count + if true then 1 else 0))
      refine ⟨release :: releases, later, ?_, ?_, ?_, ?_, ?_⟩
      · rw [List.map_cons, hrow, hmap]
      · have hhead : release.eventId = ((draws (i + 2 * 0)).metadata 0).event_id := by
          rw [Release.eventId, hdraws]
          rfl
        rw [List.map_cons, hevents, List.length_cons, List.range_succ_eq_map, List.map_cons,
          List.map_map, hhead]
        refine congrArg (List.cons _) (List.map_congr_left fun k _ => ?_)
        change ((draws (i + 2 + 2 * k)).metadata 0).event_id =
          ((draws (i + 2 * (k + 1))).metadata 0).event_id
        rw [show i + 2 + 2 * k = i + 2 * (k + 1) by omega]
      · intro other hother
        rcases List.mem_cons.mp hother with rfl | hother
        · exact hplanned
        · exact hall other hother
      · simpa using hlater
      · unfold releaseAll
        simp only [bind_assoc, pure_bind]
        rw [hrun, hrest, List.length_cons,
          show i + 2 + 2 * others.length = i + 2 * (others.length + 1) by omega]
        rfl

/-- The rows of a batch are loaded one by one. -/
theorem alone_entities (db : Database) (i : ℕ) {rows : List BookRow}
    (hshows : session.Shows []) (hkeys : (rows.map fun row => row.id.val).Nodup)
    (hnew : ∀ row ∈ rows, session.find row.id.val = none)
    (hvalid : ∀ row ∈ rows, row.state.Ok) (rest : List (Tracked Book) → Uow Book β) :
    ∃ (entities : List (Tracked Book)) (later : UnitOfWork Book),
      List.Forall₂ LoadedAs rows entities ∧ later.Shows [] ∧
      Uow.alone draws (rows.mapM (Uow.entityOf (A := Book)) >>= rest) session i db =
        Uow.alone draws (rest entities) later i db := by
  induction rows generalizing session rest with
  | nil => exact ⟨[], session, .nil, hshows, rfl⟩
  | cons row others ih =>
      simp only [List.map_cons, List.nodup_cons] at hkeys
      have hok := hvalid row List.mem_cons_self
      let book : Book := ⟨row.title, row.author, row.id, row.state,
        row.last_completed_loan_id, hok⟩
      have hhydrated : row.toEntity = .ok book := by
        unfold BookRow.toEntity
        rw [dif_pos hok]
      have hnew' : ∀ other ∈ others,
          (session.track row.id.val ⟨book, row.version, []⟩).find other.id.val = none := by
        intro other hother
        rw [UnitOfWork.find_track_ne]
        · exact hnew other (List.mem_cons_of_mem _ hother)
        · intro hsame
          exact hkeys.1 (List.mem_map.mpr ⟨other, hother, hsame⟩)
      obtain ⟨entities, later, hentities, hlater, hrest⟩ :=
        ih (hshows.track (by simp)) hkeys.2 hnew'
          (fun other hother => hvalid other (List.mem_cons_of_mem _ hother))
          (fun entities => rest (⟨book, row.version, []⟩ :: entities))
      refine ⟨⟨book, row.version, []⟩ :: entities, later, .cons ⟨hhydrated, rfl⟩ hentities,
        hlater, ?_⟩
      rw [List.mapM_cons, bind_assoc, Uow.alone_entityOf (hnew row List.mem_cons_self) hhydrated,
        ← hrest]
      simp only [bind_assoc, pure_bind]
      rfl

/-- A batch is the first part of the expired rows in the order of their reservations. -/
theorem alone_findExpiredReservations (db : Database) (i : ℕ) (cut : UtcDateTime) (limit : ℕ)
    (hvalid : ∀ row ∈ db.books.rows, row.state.Ok)
    (hunlocked : ∀ id, (draws (i + 1)).locked id = false)
    (rest : List (Tracked Book) → Uow Book β) :
    ∃ (ordered : List BookRow) (entities : List (Tracked Book)) (later : UnitOfWork Book),
      ordered.Perm (db.books.rows.filter fun row => row.expired cut) ∧
      List.Forall₂ LoadedAs (ordered.take limit) entities ∧ later.Shows [] ∧
      Uow.alone draws (BookCommandRepository.findExpiredReservations cut limit >>= rest) {} i
        db = Uow.alone draws (rest entities) later (i + 2) db := by
  let unlocked := (db.books.rows.filter fun row => row.expired cut).filter fun row =>
    !(draws (i + 1)).locked row.id.val
  let ordered := unlocked.mergeSort fun left right =>
    left.reservedAt < right.reservedAt || (left.reservedAt = right.reservedAt &&
      (draws (i + 1)).rank left.id.val ≤ (draws (i + 1)).rank right.id.val)
  have hunlocked' : unlocked = db.books.rows.filter fun row => row.expired cut :=
    List.filter_eq_self.mpr fun row _ => by simp [hunlocked]
  have hperm : ordered.Perm (db.books.rows.filter fun row => row.expired cut) := by
    rw [← hunlocked']
    exact List.mergeSort_perm _ _
  have hsub : (ordered.take limit).Sublist ordered := List.take_sublist _ _
  have hkeys : ((ordered.take limit).map fun row => row.id.val).Nodup := by
    refine (hsub.map _).nodup ?_
    rw [(hperm.map _).nodup_iff]
    exact (List.filter_sublist.map _).nodup db.books.rows_nodup
  have hmem : ∀ row ∈ ordered.take limit, row ∈ db.books.rows := fun row hrow =>
    (List.mem_filter.mp (hperm.mem_iff.mp (List.mem_of_mem_take hrow))).1
  obtain ⟨entities, later, hentities, hlater, hrest⟩ :=
    alone_entities draws db (i + 2) .empty hkeys (fun _ _ => rfl)
      (fun row hrow => hvalid row (hmem row hrow)) rest
  refine ⟨ordered, entities, later, hperm, hentities, hlater, ?_⟩
  rw [← hrest]
  rfl

/-- The outbox row that announces the release of a row's reservation. -/
def Announces (rt : PythonRuntime) (command : ReleaseExpiredReservationsCommand)
    (row : BookRow) (announcement : OutboxRow) : Prop :=
  ∃ token patron metadata order, row.state.reservation_id = some token ∧
    row.state.reserved_patron_id = some patron ∧
    announcement.id = metadata.event_id ∧ announcement.occurred_at = metadata.occurred_at ∧
    announcement.aggregatetype = py "book" ∧ announcement.aggregateid = row.id.val ∧
    announcement.type = Uow.outboxType .catalogBookReleased ∧
    serializeEvent rt order
      ((AggregateEvent.catalogBookReleased
        { book_id := row.id.val
          reservation_id := uuidText token
          reservation_generation := row.state.reservation_generation
          patron_id := patron.val
          reason := reason command }).stamp metadata) = .ok announcement.payload

theorem Release.Planned.rows {release : Release} (hplanned : release.Planned rt command)
    (hreason : ∀ empty tooLong, ∃ text,
      foldText 500 empty tooLong (reason command) = .ok text)
    (httl : 0 < command.ttl_seconds) (order : MetadataOrder) :
    ∃ announcement, Transition.rows rt order release.piece.transition = .ok [announcement] ∧
      Announces rt command release.row announcement ∧ announcement.id = release.eventId := by
  have hgeneration : (1 : ℤ) ≤ release.row.state.reservation_generation := by
    have hrow := (BookRow.toEntity_eq_ok_iff _ _).mp hplanned.hydrated
    have hstate : release.row.state = release.book.state := congrArg BookRow.state hrow
    have hok := release.book.valid
    rw [← hstate] at hok
    simp only [BookState.Ok, hplanned.status] at hok
    exact_mod_cast hok.2.2.1
  obtain ⟨text, htext⟩ := hreason (Raised.catalog .invalidReservationReason)
    (Raised.catalog .invalidReservationReason)
  have hvalue : text.value = reason command := by
    rw [foldText_value htext, collapse_reason httl]
  obtain ⟨payload, hpayload⟩ := published_released release.row.id release.patron
    release.reservation hgeneration text order (release.draws.metadata 0)
  rw [hvalue] at hpayload
  let announcement : OutboxRow :=
    { id := release.eventId
      aggregatetype := py "book"
      aggregateid := release.row.id.val
      type := Uow.outboxType .catalogBookReleased
      payload := payload
      occurred_at := (release.draws.metadata 0).occurred_at }
  have hrows : Transition.rows rt order release.piece.transition = .ok [announcement] := by
    have hstamped : Uow.stamp release.draws release.events =
        [AggregateEvent.stamp (release.draws.metadata 0) (.catalogBookReleased
          { book_id := release.row.id.val
            reservation_id := uuidText release.reservation
            reservation_generation := release.row.state.reservation_generation
            patron_id := release.patron.val
            reason := reason command })] := by
      rw [hplanned.events]
      rfl
    change (Uow.stamp release.draws release.events).mapM
      (Uow.outboxRow rt order (.book release.after)) = .ok [announcement]
    rw [hstamped, List.mapM_cons, List.mapM_nil, Uow.outboxRow, hpayload]
    simp only [ok_bind, pure_eq, Aggregate.idText, hplanned.id]
    rfl
  exact ⟨announcement, hrows, ⟨release.reservation, release.patron, release.draws.metadata 0,
    order, hplanned.reservation, hplanned.patron, rfl, rfl, rfl, rfl, rfl, hpayload⟩, rfl⟩

/-- The statements of several releases take effect. -/
theorem runAll_releases {db : Database} {releases : List Release}
    (hplanned : ∀ release ∈ releases, release.Planned rt command)
    (hheld : db.HoldsReservations)
    (hrows : ∀ release ∈ releases,
      db.books.lookup release.row.id.val = some release.row)
    (hids : (releases.map fun release => release.row.id.val).Nodup) :
    ∃ after, db.runAll ((releases.map Release.piece).flatMap Piece.statements) = .ok after ∧
      Database.Released (releases.map Release.row) db after ∧ after.HoldsReservations ∧
      after.outbox = db.outbox := by
  induction releases generalizing db with
  | nil => exact ⟨db, rfl, .nil db, hheld, rfl⟩
  | cons release others ih =>
      simp only [List.map_cons, List.nodup_cons] at hids
      have hone := hplanned release List.mem_cons_self
      obtain ⟨mid, hrun, hmid, hmidHeld, houtbox⟩ := Database.runAll_release rt hheld
        (hrows release List.mem_cons_self) hone.status hone.reservation hone.patron hone.id
        hone.written hone.clock
      have hothers : ∀ other ∈ others,
          mid.books.lookup other.row.id.val = some other.row := by
        intro other hother
        rw [hmid.otherBooks]
        · exact hrows other (List.mem_cons_of_mem _ hother)
        · intro row hrow hsame
          rw [List.mem_singleton.mp hrow] at hsame
          exact hids.1 (List.mem_map.mpr ⟨other, hother, hsame.symm⟩)
      obtain ⟨after, hrest, hafter, hheldAfter, houtboxAfter⟩ :=
        ih (fun other hother => hplanned other (List.mem_cons_of_mem _ hother)) hmidHeld
          hothers hids.2
      refine ⟨after, ?_, ?_, hheldAfter, houtboxAfter.trans houtbox⟩
      · rw [List.map_cons, List.flatMap_cons, Database.runAll_append]
        have hfirst : db.runAll release.piece.statements = .ok mid := hrun
        rw [hfirst, ok_bind]
        exact hrest
      · refine hmid.append rt hafter hmidHeld fun row hrow => ?_
        obtain ⟨other, hother, rfl⟩ := List.mem_map.mp hrow
        exact (hplanned other (List.mem_cons_of_mem _ hother)).status

/-- The staged rows announce the releases one by one. -/
theorem announces_staged {turn : List Release} {order : MetadataOrder}
    {rows : List (List OutboxRow)} (httl : 0 < command.ttl_seconds)
    (hreason : ∀ empty tooLong, ∃ text,
      foldText 500 empty tooLong (reason command) = .ok text)
    (hplanned : ∀ release ∈ turn, release.Planned rt command)
    (hstaged : (turn.map fun release => release.piece.transition).mapM
      (Transition.rows rt order) = .ok rows) :
    List.Forall₂ (fun (release : Release) (row : OutboxRow) =>
      Announces rt command release.row row ∧ row.id = release.eventId) turn rows.flatten := by
  induction turn generalizing rows with
  | nil =>
      cases hstaged
      exact .nil
  | cons release others ih =>
      rw [List.map_cons, List.mapM_cons] at hstaged
      obtain ⟨first, hfirst, hstaged⟩ := bind_eq_ok.mp hstaged
      obtain ⟨rest, hrest, hstaged⟩ := bind_eq_ok.mp hstaged
      cases hstaged
      obtain ⟨announcement, hone, hannounces⟩ :=
        (hplanned release List.mem_cons_self).rows hreason httl order
      rw [hone, Except.ok.injEq] at hfirst
      subst hfirst
      rw [List.flatten_cons, List.singleton_append]
      exact .cons hannounces
        (ih (fun other hother => hplanned other (List.mem_cons_of_mem _ hother)) hrest)

/-- The commit of a batch. -/
theorem committed_releases {db : Database} {draw : Draws} {releases : List Release} {value : β}
    (httl : 0 < command.ttl_seconds)
    (hreason : ∀ empty tooLong, ∃ text,
      foldText 500 empty tooLong (reason command) = .ok text)
    (hshows : session.Shows (releases.map Release.piece))
    (hplanned : ∀ release ∈ releases, release.Planned rt command)
    (hheld : db.HoldsReservations)
    (hrows : ∀ release ∈ releases,
      db.books.lookup release.row.id.val = some release.row)
    (hids : (releases.map fun release => release.row.id.val).Nodup)
    (hevents : (releases.map Release.eventId).Nodup)
    (hnew : ∀ release ∈ releases, ∀ row ∈ db.outbox, row.id ≠ release.eventId) :
    ∃ after announced announcements, Uow.committed rt draw session value db =
        (.ok value, after) ∧
      Database.Released (releases.map Release.row) db after ∧ after.HoldsReservations ∧
      announced.Perm (releases.map Release.row) ∧
      List.Forall₂ (Announces rt command) announced announcements ∧
      after.outbox = db.outbox ++ announcements ∧
      ∀ row ∈ announcements, ∃ release ∈ releases, row.id = release.eventId := by
  obtain ⟨staged, hstage⟩ : ∃ staged, Uow.stageDomainEvents rt draw session = .ok staged := by
    refine hshows.staged fun piece hpiece => ?_
    obtain ⟨release, hrelease, rfl⟩ := List.mem_map.mp hpiece
    obtain ⟨announcement, hone, -⟩ := (hplanned release hrelease).rows hreason httl draw.order
    exact ⟨[announcement], hone⟩
  obtain ⟨order, arranged, rows, hperm, hstaged, hbatch⟩ := hshows.writes hstage
  have hstatements := congrArg Batch.statements hbatch
  dsimp only at hstatements
  obtain ⟨turn, rfl, hturn⟩ : ∃ turn : List Release,
      arranged = turn.map (fun release => release.piece.transition) ∧ turn.Perm releases := by
    rw [List.map_map] at hperm
    have hcomp := congrFun₂ (List.eq_map_comp_perm fun release : Release =>
      release.piece.transition) arranged releases
    exact hcomp.mpr hperm
  have hannounced := announces_staged httl hreason
    (fun release hrelease => hplanned release (hturn.mem_iff.mp hrelease)) hstaged
  have hids' : rows.flatten.map OutboxRow.id = turn.map Release.eventId := by
    have heach : List.Forall₂ (· = ·) (rows.flatten.map OutboxRow.id)
        (turn.map Release.eventId) :=
      List.forall₂_map_left_iff.mpr (List.forall₂_map_right_iff.mpr
        (hannounced.flip.imp fun _ _ hboth => hboth.2))
    rwa [List.forall₂_eq_eq_eq] at heach
  obtain ⟨mid, hrun, hreleased, hheldMid, houtbox⟩ :=
    runAll_releases hplanned hheld hrows hids
  have hfresh : ∀ row ∈ rows.flatten, ∃ release ∈ releases, row.id = release.eventId := by
    intro row hrow
    have hmem : row.id ∈ turn.map Release.eventId := hids' ▸ List.mem_map_of_mem hrow
    obtain ⟨release, hrelease, hsame⟩ := List.mem_map.mp hmem
    exact ⟨release, hturn.mem_iff.mp hrelease, hsame.symm⟩
  have hinserted : mid.runAll (rows.flatten.map .insertOutbox) =
      .ok { mid with outbox := mid.outbox ++ rows.flatten } := by
    apply Database.runAll_insertOutbox
    · rw [hids', (hturn.map _).nodup_iff]
      exact hevents
    · intro row hrow other hother
      obtain ⟨release, hrelease, hsame⟩ := hfresh row hrow
      rw [hsame]
      rw [houtbox] at hother
      exact hnew release hrelease other hother
  refine ⟨{ mid with outbox := mid.outbox ++ rows.flatten }, turn.map Release.row,
    rows.flatten, ?_, ?_, ?_, hturn.map _, ?_, by rw [houtbox], hfresh⟩
  · unfold Uow.committed
    rw [hstage]
    simp only [hstatements, Database.runAll_append, hrun, ok_bind, hinserted]
  · exact { hreleased with }
  · exact { hheldMid with }
  · exact List.forall₂_map_left_iff.mpr (hannounced.imp fun _ _ hboth => hboth.1)

/-- What a batch does with the first of the expired rows. -/
structure BatchReleased (rt : PythonRuntime) (command : ReleaseExpiredReservationsCommand)
    (batch : List BookRow) (db after : Database) (drawn : Set EventIdentity) : Prop where
  released : Database.Released batch db after
  held : after.HoldsReservations
  announced : ∃ announced announcements, announced.Perm batch ∧
    List.Forall₂ (Announces rt command) announced announcements ∧
    after.outbox = db.outbox ++ announcements ∧
    ∀ row ∈ announcements, row.id ∈ drawn

/-- The event identities that a batch may draw. -/
def drawnIds (draws : ℕ → Draws) : Set EventIdentity :=
  {id | ∃ k ≤ 2002, id = ((draws k).metadata 0).event_id}

/-- The handler after its query. -/
def releaseFound (rt : PythonRuntime) (command : ReleaseExpiredReservationsCommand)
    (expired : List (Tracked Book)) : Uow Book ReleaseExpiredReservationsResult := do
  let released_count ← releaseAll rt command expired
  if !expired.isEmpty then Uow.commit rt
  pure ⟨released_count, expired.length = command.batch_size⟩

theorem runAlone_handle (rt : PythonRuntime) {db : Database} {cut : UtcDateTime}
    (httl : 0 < command.ttl_seconds)
    (hbatch : 1 ≤ command.batch_size ∧ command.batch_size ≤ 1000)
    (hcutoff : cutoff (draws 0).now command.ttl_seconds = .ok cut) :
    db.runAlone draws (handle rt command) =
      Uow.alone draws (BookCommandRepository.findExpiredReservations cut
        command.batch_size.toNat >>= releaseFound rt command) {} 1 db := by
  have hstart : ¬ command.ttl_seconds ≤ 0 := not_le.mpr httl
  unfold handle
  simp only [hstart, hbatch, and_self, not_true_eq_false, if_false]
  change Run.alone _ _ _ (Command.ofExcept (cutoff (draws 0).now _) >>= _) 1 db = _
  unfold Command.ofExcept
  rw [hcutoff]
  rfl

section Events

variable {draws} {releases : List Release} {size : ℕ} (hsize : size ≤ 1000)
  (hevents : releases.map Release.eventId =
    (List.range size).map fun k => ((draws (3 + 2 * k)).metadata 0).event_id)

include hsize hevents

theorem eventId_mem_drawnIds {release : Release} (hrelease : release ∈ releases) :
    release.eventId ∈ drawnIds draws := by
  have hmem : release.eventId ∈ releases.map Release.eventId := List.mem_map_of_mem hrelease
  rw [hevents] at hmem
  obtain ⟨k, hk, hsame⟩ := List.mem_map.mp hmem
  have hk := List.mem_range.mp hk
  exact ⟨3 + 2 * k, by omega, hsame.symm⟩

theorem eventIds_nodup
    (hdistinct : Set.InjOn (fun k => ((draws k).metadata 0).event_id) {k | k ≤ 2002}) :
    (releases.map Release.eventId).Nodup := by
  rw [hevents]
  refine List.Nodup.map_on ?_ List.nodup_range
  intro left hleft right hright hsame
  have hleft := List.mem_range.mp hleft
  have hright := List.mem_range.mp hright
  have hindex := hdistinct (by simp; omega : 3 + 2 * left ∈ {k | k ≤ 2002})
    (by simp; omega : 3 + 2 * right ∈ {k | k ≤ 2002}) hsame
  omega

end Events

/-- The handler from the entities it loaded on. -/
theorem alone_releaseFound (rt : PythonRuntime) {db : Database} {batch : List BookRow}
    {entities : List (Tracked Book)} (httl : 0 < command.ttl_seconds)
    (hreason : ∀ empty tooLong, ∃ text,
      foldText 500 empty tooLong (reason command) = .ok text)
    (hheld : db.HoldsReservations) (hloaded : session.Shows [])
    (hentities : List.Forall₂ LoadedAs batch entities)
    (hstored : ∀ row ∈ batch, row ∈ db.books.rows) (hsmall : batch.length ≤ 1000)
    (hids : (batch.map fun row => row.id.val).Nodup)
    (hreleasable : ∀ row ∈ batch, Releasable draws row)
    (hdistinct : Set.InjOn (fun k => ((draws k).metadata 0).event_id) {k | k ≤ 2002})
    (hfresh : ∀ row ∈ db.outbox, row.id ∉ drawnIds draws) :
    ∃ after, Uow.alone draws (releaseFound rt command entities) session 3 db =
        (.ok ⟨batch.length, batch.length = command.batch_size⟩, after) ∧
      BatchReleased rt command batch db after (drawnIds draws) := by
  obtain ⟨releases, later, hrows, hevents, hplanned, hlater, hall⟩ :=
    alone_releaseAll draws rt db 3 httl hreason hloaded (by simp) hids hreleasable hentities
      (fun released_count => do
        if !entities.isEmpty then Uow.commit rt
        pure (⟨released_count, entities.length = command.batch_size⟩ :
          ReleaseExpiredReservationsResult))
  have hlength : entities.length = batch.length := hentities.length_eq.symm
  rw [List.nil_append] at hlater
  change ∃ after, Uow.alone draws (releaseAll rt command entities >>= _) session 3 db = _ ∧ _
  rw [hall]
  cases hcase : batch with
  | nil =>
      have hnone : entities = [] := List.eq_nil_of_length_eq_zero (by rw [hlength, hcase]; rfl)
      subst hnone
      exact ⟨db, rfl, .nil db, hheld, [], [], .refl _, .nil, by simp, by simp⟩
  | cons first others =>
      have hsome : entities.isEmpty = false := by
        rw [List.isEmpty_eq_false_iff, ← List.length_pos_iff, hlength, hcase]
        exact Nat.succ_pos _
      simp only [hsome, Bool.not_false, if_true]
      rw [Uow.alone_commit]
      have hlookup : ∀ release ∈ releases,
          db.books.lookup release.row.id.val = some release.row := by
        intro release hrelease
        have hmem : release.row ∈ batch := hrows ▸ List.mem_map_of_mem hrelease
        exact (db.books.mem_rows _).mp (hstored _ hmem)
      obtain ⟨after, announced, announcements, hcommit, hreleased, hheldAfter, hturn,
        hannounces, houtbox, hfrom⟩ := committed_releases httl hreason hlater hplanned hheld
          hlookup (by rw [← hrows, List.map_map] at hids; exact hids)
          (eventIds_nodup hsmall hevents hdistinct)
          (fun release hrelease row hrow hsame =>
            hfresh row hrow (hsame ▸ eventId_mem_drawnIds hsmall hevents hrelease))
      rw [hrows] at hreleased hturn
      rw [← hcase]
      refine ⟨after, hlength ▸ hcommit, hreleased, hheldAfter, announced, announcements,
        hturn, hannounces, houtbox, fun row hrow => ?_⟩
      obtain ⟨release, hrelease, hsame⟩ := hfrom row hrow
      rw [hsame]
      exact eventId_mem_drawnIds hsmall hevents hrelease

theorem alone_handle (rt : PythonRuntime) {db : Database} {cut : UtcDateTime}
    (httl : 0 < command.ttl_seconds)
    (hbatch : 1 ≤ command.batch_size ∧ command.batch_size ≤ 1000)
    (hcutoff : cutoff (draws 0).now command.ttl_seconds = .ok cut)
    (hheld : db.HoldsReservations) (hunlocked : ∀ k id, (draws k).locked id = false)
    (hclock : ∀ row ∈ db.books.rows, row.expired cut →
      ∀ k, ∀ t ∈ row.state.reserved_at, t ≤ (draws k).now)
    (hdistinct : Set.InjOn (fun k => ((draws k).metadata 0).event_id) {k | k ≤ 2002})
    (hfresh : ∀ row ∈ db.outbox, row.id ∉ drawnIds draws) :
    ∃ (ordered : List BookRow) (after : Database),
      ordered.Perm (db.books.rows.filter fun row => row.expired cut) ∧
      db.runAlone draws (handle rt command) =
        (.ok ⟨(ordered.take command.batch_size.toNat).length,
          (ordered.take command.batch_size.toNat).length = command.batch_size⟩, after) ∧
      BatchReleased rt command (ordered.take command.batch_size.toNat) db after
        (drawnIds draws) := by
  obtain ⟨ordered, entities, loaded, hperm, hentities, hloaded, hfind⟩ :=
    alone_findExpiredReservations draws db 1 cut command.batch_size.toNat hheld.valid
      (hunlocked 2) (releaseFound rt command)
  let batch := ordered.take command.batch_size.toNat
  change List.Forall₂ LoadedAs batch entities at hentities
  have hexpired : ∀ row ∈ batch, row ∈ db.books.rows ∧ row.expired cut = true := fun row hrow =>
    List.mem_filter.mp (hperm.mem_iff.mp (List.mem_of_mem_take hrow))
  have hids : (batch.map fun row => row.id.val).Nodup := by
    refine ((List.take_sublist _ _).map _).nodup ?_
    rw [(hperm.map _).nodup_iff]
    exact (List.filter_sublist.map _).nodup db.books.rows_nodup
  have hsmall : batch.length ≤ 1000 := by
    have hle : batch.length ≤ command.batch_size.toNat := List.length_take_le _ _
    omega
  have hreleasable : ∀ row ∈ batch, Releasable draws row := by
    intro row hrow
    obtain ⟨hmem, hpast⟩ := hexpired row hrow
    refine ⟨hheld.valid row hmem, ?_, hclock row hmem hpast⟩
    simp only [BookRow.expired, Bool.and_eq_true, decide_eq_true_eq] at hpast
    exact hpast.1
  obtain ⟨after, hafter, hreleased⟩ := alone_releaseFound draws rt httl
    (fun empty tooLong => foldText_reason httl hcutoff empty tooLong) hheld hloaded hentities
    (fun row hrow => (hexpired row hrow).1) hsmall hids hreleasable hdistinct hfresh
  exact ⟨ordered, after, hperm,
    (runAlone_handle draws rt httl hbatch hcutoff).trans (hfind.trans hafter), hreleased⟩

end Batch

/-! ## The sweep -/

/-- What a sweep meets that has the rows to itself, with the cutoff of its first batch: no
row is locked, the clock is not set back behind the beginning, no reservation expires on
the way, and the events get ids of their own. -/
structure Calm (command : ReleaseExpiredReservationsCommand) (draws : ℕ → ℕ → Draws)
    (cut : UtcDateTime) (db : Database) : Prop where
  unlocked : ∀ i k id, (draws i k).locked id = false
  clock : ∀ i k, (draws 0 0).now ≤ (draws i k).now
  settled : ∀ row ∈ db.books.rows, ∀ i later,
    cutoff (draws i 0).now command.ttl_seconds = .ok later →
      row.expired later = true → row.expired cut = true
  distinct : Set.InjOn (fun p : ℕ × ℕ => ((draws p.1 p.2).metadata 0).event_id)
    {p | p.1 ≤ db.books.rows.length ∧ p.2 ≤ 2002}
  fresh : ∀ i ≤ db.books.rows.length, ∀ row ∈ db.outbox, row.id ∉ drawnIds (draws i)

/-- What a sweep leaves behind. -/
structure Drained (rt : PythonRuntime) (command : ReleaseExpiredReservationsCommand)
    (cut : UtcDateTime) (db after : Database) : Prop where
  drained : ∀ row ∈ after.books.rows, row.expired cut = false
  released : Database.Released (db.books.rows.filter fun row => row.expired cut) db after
  announced : ∃ announced announcements,
    announced.Perm (db.books.rows.filter fun row => row.expired cut) ∧
    List.Forall₂ (Announces rt command) announced announcements ∧
    after.outbox = db.outbox ++ announcements

section Sweep

variable {rt : PythonRuntime} {command : ReleaseExpiredReservationsCommand}
  {draws : ℕ → ℕ → Draws} {cut : UtcDateTime}

theorem expired_later {row : BookRow} {later : UtcDateTime} (hlater : cut ≤ later)
    (hexpired : row.expired cut = true) : row.expired later = true := by
  simp only [BookRow.expired, Bool.and_eq_true, decide_eq_true_eq, Option.any_eq_true]
    at hexpired ⊢
  obtain ⟨hstatus, t, ht, hlt⟩ := hexpired
  exact ⟨hstatus, t, ht, hlt.trans_le hlater⟩

/-- A batch that was followed by the rest of a sweep. -/
theorem BatchReleased.drained {batch : List BookRow} {db mid after : Database}
    {drawn : Set EventIdentity} (hfirst : BatchReleased rt command batch db mid drawn)
    (hexpired : ∀ row ∈ batch, row.expired cut = true) (hnodup : batch.Nodup)
    (hrest : Drained rt command cut mid after) : Drained rt command cut db after where
  drained := hrest.drained
  released := by
    refine Database.Released.congr (hfirst.released.append rt hrest.released hfirst.held ?_)
      (hfirst.released.expired_perm hexpired hnodup)
    intro row hrow
    have hpast := (List.mem_filter.mp hrow).2
    simp only [BookRow.expired, Bool.and_eq_true, decide_eq_true_eq] at hpast
    exact hpast.1
  announced := by
    obtain ⟨first, rows, hfirstPerm, hfirstRows, hfirstOutbox, -⟩ := hfirst.announced
    obtain ⟨second, others, hsecondPerm, hsecondRows, hsecondOutbox⟩ := hrest.announced
    refine ⟨first ++ second, rows ++ others, ?_, ?_, ?_⟩
    · exact (hfirstPerm.append hsecondPerm).trans
        (hfirst.released.expired_perm hexpired hnodup)
    · exact List.rel_append hfirstRows hsecondRows
    · rw [hsecondOutbox, hfirstOutbox, List.append_assoc]

/-- With nothing left to release the sweep is over. -/
theorem Drained.of_none {db : Database}
    (hnone : (db.books.rows.filter fun row => row.expired cut) = []) :
    Drained rt command cut db db where
  drained row hrow := by simpa using List.filter_eq_nil_iff.mp hnone row hrow
  released := hnone ▸ .nil db
  announced := ⟨[], [], by rw [hnone], .nil, by simp⟩

/-- An expired reservation was made before any batch of the sweep. -/
theorem reserved_by_now {start now : UtcDateTime} {row : BookRow}
    (hcutoff : cutoff start command.ttl_seconds = .ok cut) (httl : 0 < command.ttl_seconds)
    (hclock : start ≤ now) (hexpired : row.expired cut = true) :
    ∀ t ∈ row.state.reserved_at, t ≤ now := by
  intro t ht
  simp only [BookRow.expired, Bool.and_eq_true, Option.any_eq_true, decide_eq_true_eq] at hexpired
  obtain ⟨-, other, hother, hlt⟩ := hexpired
  rw [Option.mem_def.mp ht, Option.some.injEq] at hother
  subst hother
  have hstart : cut ≤ start := by
    have hvalue := (cutoff_ok hcutoff).1
    change cut.val ≤ start.val
    omega
  exact hlt.le.trans (hstart.trans hclock)

section Batches

variable {start : UtcDateTime} {last : ℕ} {db : Database}
  (httl : 0 < command.ttl_seconds)
  (hbatch : 1 ≤ command.batch_size ∧ command.batch_size ≤ 1000)
  (hcutoff : cutoff start command.ttl_seconds = .ok cut)
  (hunlocked : ∀ i k id, (draws i k).locked id = false)
  (hclock : ∀ i k, start ≤ (draws i k).now)
  (hdistinct : Set.InjOn (fun p : ℕ × ℕ => ((draws p.1 p.2).metadata 0).event_id)
    {p | p.1 ≤ last ∧ p.2 ≤ 2002})

include hdistinct in
/-- No two batches of a sweep draw the same identity. -/
theorem drawnIds_disjoint {i j : ℕ} (hi : i ≤ last) (hj : j ≤ last) {id : EventIdentity}
    (hfirst : id ∈ drawnIds (draws i)) (hsecond : id ∈ drawnIds (draws j)) : i = j := by
  obtain ⟨k, hk, rfl⟩ := hfirst
  obtain ⟨k', hk', hsame⟩ := hsecond
  have hin : ((i, k) : ℕ × ℕ) ∈ {p : ℕ × ℕ | p.1 ≤ last ∧ p.2 ≤ 2002} := ⟨hi, hk⟩
  have hin' : ((j, k') : ℕ × ℕ) ∈ {p : ℕ × ℕ | p.1 ≤ last ∧ p.2 ≤ 2002} := ⟨hj, hk'⟩
  exact (Prod.mk.inj (hdistinct hin hin' hsame)).1

/-- What is expired for a later batch was expired for the first. -/
def Settled (command : ReleaseExpiredReservationsCommand) (draws : ℕ → ℕ → Draws)
    (cut : UtcDateTime) (db : Database) : Prop :=
  ∀ row ∈ db.books.rows, ∀ i later,
    cutoff (draws i 0).now command.ttl_seconds = .ok later →
      row.expired later = true → row.expired cut = true

theorem BatchReleased.settled {batch : List BookRow} {mid : Database}
    {drawn : Set EventIdentity} (hreleased : BatchReleased rt command batch db mid drawn)
    (hsettled : Settled command draws cut db) : Settled command draws cut mid := by
  intro row hrow j next hnext hexpired
  rcases hreleased.released.mem_rows hrow with ⟨other, -, rfl⟩ | ⟨hmem, -⟩
  · cases hexpired
  · exact hsettled row hmem j next hnext hexpired

include httl hbatch hcutoff hunlocked hclock hdistinct

/-- One batch releases as many of the expired reservations as fit in it. -/
theorem sweep_batch (rt : PythonRuntime) {i : ℕ} (hi : i ≤ last)
    (hheld : db.HoldsReservations) (hsettled : Settled command draws cut db)
    (hfresh : ∀ row ∈ db.outbox, row.id ∉ drawnIds (draws i)) :
    ∃ (batch : List BookRow) (mid : Database),
      db.runAlone (draws i) (handle rt command) =
        (.ok ⟨batch.length, batch.length = command.batch_size⟩, mid) ∧
      BatchReleased rt command batch db mid (drawnIds (draws i)) ∧
      (∀ row ∈ batch, row.expired cut = true) ∧ batch.Nodup ∧
      batch.length = min command.batch_size.toNat
        (db.books.rows.filter fun row => row.expired cut).length := by
  obtain ⟨later, hlater, hcut⟩ := cutoff_later httl hcutoff (hclock i 0)
  have hsame : (db.books.rows.filter fun row => row.expired later) =
      db.books.rows.filter fun row => row.expired cut := by
    refine List.filter_congr fun row hrow => Bool.eq_iff_iff.mpr ⟨?_, ?_⟩
    · exact hsettled row hrow i later hlater
    · exact expired_later hcut
  have hpast : ∀ row ∈ db.books.rows, row.expired later = true →
      ∀ k, ∀ t ∈ row.state.reserved_at, t ≤ (draws i k).now := fun row hrow hexpired k =>
    reserved_by_now hcutoff httl (hclock i k) (hsettled row hrow i later hlater hexpired)
  have hinner : Set.InjOn (fun k => ((draws i k).metadata 0).event_id) {k | k ≤ 2002} := by
    intro left hleft right hright heq
    have hin : ∀ k ≤ 2002, ((i, k) : ℕ × ℕ) ∈ {p : ℕ × ℕ | p.1 ≤ last ∧ p.2 ≤ 2002} :=
      fun k hk => ⟨hi, hk⟩
    exact (Prod.mk.inj (hdistinct (hin left hleft) (hin right hright) heq)).2
  obtain ⟨ordered, mid, hperm, hrun, hreleased⟩ := alone_handle (draws i) rt httl hbatch hlater
    hheld (hunlocked i) hpast hinner hfresh
  rw [hsame] at hperm
  have hsub : (ordered.take command.batch_size.toNat).Sublist ordered := List.take_sublist _ _
  refine ⟨_, mid, hrun, hreleased, fun row hrow => ?_, ?_, ?_⟩
  · exact (List.mem_filter.mp (hperm.mem_iff.mp (hsub.subset hrow))).2
  · exact hsub.nodup (hperm.nodup_iff.mpr ((Database.rows_nodup db).filter _))
  · rw [List.length_take, hperm.length_eq]

/-- The rest of a sweep, from a batch on.  The induction is on the number of expired
reservations, which a full batch lowers by its size. -/
theorem sweep_drains_from (rt : PythonRuntime) (n i released_count : ℕ)
    (hheld : db.HoldsReservations)
    (hcount : (db.books.rows.filter fun row => row.expired cut).length = n)
    (hlast : i + n ≤ last) (hsettled : Settled command draws cut db)
    (hfresh : ∀ j, i ≤ j → j ≤ last → ∀ row ∈ db.outbox, row.id ∉ drawnIds (draws j)) :
    ∃ after, Drained rt command cut db after ∧
      ∀ fuel, n / command.batch_size.toNat < fuel →
        releaseAllExpired rt command draws fuel i released_count db =
          some (.ok (released_count + n), after) := by
  induction n using Nat.strong_induction_on generalizing i released_count db with
  | _ n ih =>
      obtain ⟨batch, mid, hrun, hreleased, hexpired, hnodup, hlength⟩ :=
        sweep_batch httl hbatch hcutoff hunlocked hclock hdistinct rt (by omega) hheld hsettled
          (hfresh i le_rfl (by omega))
      have hleft := (hreleased.released.expired_perm hexpired hnodup).length_eq
      rw [List.length_append, hcount] at hleft
      rw [hcount] at hlength
      by_cases hfull : command.batch_size.toNat ≤ n
      · rw [Nat.min_eq_left hfull] at hlength
        have hfullInt : (batch.length : ℤ) = command.batch_size := by omega
        have hfreshMid : ∀ j, i + 1 ≤ j → j ≤ last → ∀ row ∈ mid.outbox,
            row.id ∉ drawnIds (draws j) := by
          obtain ⟨-, announcements, -, -, houtbox, hdrawn⟩ := hreleased.announced
          intro j hj hjlast row hrow hid
          rw [houtbox] at hrow
          rcases List.mem_append.mp hrow with hold | hnew
          · exact hfresh j (by omega) hjlast row hold hid
          · have hindex := drawnIds_disjoint hdistinct (by omega) hjlast (hdrawn row hnew) hid
            omega
        obtain ⟨after, hdrained, hrest⟩ := ih (n - command.batch_size.toNat) (by omega)
          (i + 1) (released_count + batch.length) hreleased.held (by omega) (by omega)
          (hreleased.settled hsettled) hfreshMid
        refine ⟨after, hreleased.drained hexpired hnodup hdrained, ?_⟩
        intro fuel hfuel
        obtain ⟨fuel, rfl⟩ := Nat.exists_eq_add_one_of_ne_zero (Nat.ne_zero_of_lt hfuel)
        have hdiv : n / command.batch_size.toNat =
            (n - command.batch_size.toNat) / command.batch_size.toNat + 1 :=
          Nat.div_eq_sub_div (by omega) hfull
        unfold releaseAllExpired
        rw [hrun]
        simp only [hfullInt, decide_true, if_true]
        rw [hrest fuel (by omega), hlength,
          show released_count + command.batch_size.toNat + (n - command.batch_size.toNat) =
            released_count + n by omega]
      · rw [Nat.min_eq_right (by omega)] at hlength
        have hnotFull : ¬ (batch.length : ℤ) = command.batch_size := by omega
        have hnone : (mid.books.rows.filter fun row => row.expired cut) = [] :=
          List.eq_nil_of_length_eq_zero (by omega)
        refine ⟨mid, hreleased.drained hexpired hnodup (.of_none hnone), ?_⟩
        intro fuel hfuel
        obtain ⟨fuel, rfl⟩ := Nat.exists_eq_add_one_of_ne_zero (Nat.ne_zero_of_lt hfuel)
        unfold releaseAllExpired
        rw [hrun]
        simp only [hnotFull, decide_false, Bool.false_eq_true, if_false]
        rw [hlength]

end Batches

/-- A sweep ends, and has released exactly the reservations that had expired when it
began. -/
theorem expiry_sweep_drains (rt : PythonRuntime) (command : ReleaseExpiredReservationsCommand)
    (draws : ℕ → ℕ → Draws) (db : Database) (cut : UtcDateTime)
    (httl : 0 < command.ttl_seconds)
    (hbatch : 1 ≤ command.batch_size ∧ command.batch_size ≤ 1000)
    (hheld : db.HoldsReservations)
    (hcutoff : cutoff (draws 0 0).now command.ttl_seconds = .ok cut)
    (hcalm : Calm command draws cut db) :
    ∃ after, Drained rt command cut db after ∧
      ∀ fuel, (db.books.rows.filter fun row => row.expired cut).length /
          command.batch_size.toNat < fuel →
        releaseAllExpired rt command draws fuel 0 0 db =
          some (.ok (db.books.rows.filter fun row => row.expired cut).length, after) := by
  have hcount : (db.books.rows.filter fun row => row.expired cut).length ≤
      db.books.rows.length := List.length_filter_le _ _
  have hdrains := sweep_drains_from httl hbatch hcutoff hcalm.unlocked hcalm.clock
    hcalm.distinct rt _ 0 0 hheld rfl (by omega) hcalm.settled
    (fun j _ hj => hcalm.fresh j hj)
  simpa using hdrains

end Sweep

/-! ## A sweep of one batch -/

/-- A book reserved at time zero. -/
def reservedRow : BookRow where
  id := uuidReference 7
  title := shelvedBook.title
  author := sampleBook.author
  state :=
    { status := .reserved
      reserved_at := some 0
      borrowed_at := none
      return_due_date := none
      reservation_id := some 8
      reservation_generation := 1
      reserved_patron_id := some (uuidReference 9)
      reserved_patron_email := some samplePatron.email
      current_loan_id := none }
  last_completed_loan_id := none
  version := 1

def reservedOperation : BorrowOperation where
  book_id := uuidText 7
  patron_id := uuidText 9
  reservation_generation := 1
  status := .reserved
  loan_id := none
  failure_reason := none
  created_at := 0
  updated_at := 0

def reservedDatabase : Database where
  books := (∅ : Table _ _).insert reservedRow
  loans := ∅
  patrons := ∅
  borrow_operations := (∅ : AList _).insert (uuidText 8) reservedOperation
  command_receipts := ∅
  outbox := []

theorem isIdentity_of_isReference {s : PyStr} (hs : isReference s = true) :
    isIdentity s = true := by
  cases s with
  | nil => cases hs
  | cons c rest =>
      simp only [isReference, PyStr.matchesHeadTail, Bool.and_eq_true, decide_eq_true_eq,
        List.all_eq_true] at hs
      simp only [isIdentity, PyStr.matchesHeadTail, Bool.and_eq_true, decide_eq_true_eq,
        List.all_eq_true]
      refine ⟨⟨by simp, by omega⟩, hs.2.1, fun d hd => ?_⟩
      have htail := hs.2.2 d hd
      simp only [isReferenceTail, Bool.or_eq_true] at htail
      simp only [isIdentityTail, Bool.or_eq_true]
      tauto

/-- The text of a UUID as the identity of an event. -/
def uuidIdentity (u : Uuid) : EventIdentity :=
  ⟨uuidText u, isIdentity_of_isReference (uuidText_isReference u)⟩

/-- Two seconds after the reservation, with an event id for each look of each batch. -/
def sweepDraws (i k : ℕ) : Draws :=
  { sampleDraws with
    now := ⟨2000000, by decide⟩
    metadata := fun _ =>
      { sampleMetadata with
        event_id := uuidIdentity (Fin.ofNat (2 ^ 128) (i * 4000 + k)) } }

theorem reservedDatabase_holds : reservedDatabase.HoldsReservations := by
  have hrows : reservedDatabase.books.rows = [reservedRow] := rfl
  refine { valid := ?_, unique := ?_, operation := ?_ }
  · rw [hrows]
    intro row hrow
    rw [List.mem_singleton.mp hrow]
    exact ⟨⟨rfl, rfl, rfl⟩, rfl, le_refl 1, rfl, rfl, rfl⟩
  · rw [hrows]
    intro row hrow other hother _ _
    rw [List.mem_singleton.mp hrow, List.mem_singleton.mp hother]
  · rw [hrows]
    intro row hrow _ token htoken
    rw [List.mem_singleton.mp hrow] at htoken ⊢
    have hkey : (8 : Uuid) = token := Option.some.inj htoken
    subst hkey
    refine ⟨reservedOperation, AList.lookup_insert _, rfl, rfl, rfl, rfl, ?_⟩
    intro t ht
    exact (Option.some.inj ht).le

theorem sweepDraws_cutoff (i k : ℕ) :
    cutoff (sweepDraws i k).now 1 = .ok ⟨1000000, by decide⟩ := by
  have hnow : (sweepDraws i k).now = ⟨2000000, by decide⟩ := rfl
  rw [hnow]
  decide +kernel

theorem sweepDraws_calm :
    Calm ⟨1, 1⟩ sweepDraws ⟨1000000, by decide⟩ reservedDatabase where
  unlocked _ _ _ := rfl
  clock _ _ := le_rfl
  settled row _ i later hlater hexpired := by
    rw [sweepDraws_cutoff, Except.ok.injEq] at hlater
    rw [hlater]
    exact hexpired
  distinct := by
    rintro ⟨i, k⟩ ⟨hi, hk⟩ ⟨i', k'⟩ ⟨hi', hk'⟩ hsame
    have hsmall : reservedDatabase.books.rows.length = 1 := rfl
    rw [hsmall] at hi hi'
    dsimp only at hi hk hi' hk'
    have htexts : uuidText (Fin.ofNat (2 ^ 128) (i * 4000 + k)) =
        uuidText (Fin.ofNat (2 ^ 128) (i' * 4000 + k')) := congrArg Subtype.val hsame
    have hvalues := congrArg Fin.val (Database.uuidText_injective asciiRuntime htexts)
    simp only [Fin.ofNat] at hvalues
    rw [Nat.mod_eq_of_lt (by omega), Nat.mod_eq_of_lt (by omega)] at hvalues
    have hfirst : i = i' := by omega
    have hsecond : k = k' := by omega
    rw [hfirst, hsecond]
  fresh _ _ row hrow := by cases hrow

/-- One reservation, batches of one: a full batch and an empty one. -/
theorem expiry_sweep_drains_reserved :
    ∃ after, Drained asciiRuntime ⟨1, 1⟩ ⟨1000000, by decide⟩ reservedDatabase after ∧
      ∀ fuel, 1 / 1 < fuel →
        releaseAllExpired asciiRuntime ⟨1, 1⟩ sweepDraws fuel 0 0 reservedDatabase =
          some (.ok 1, after) :=
  expiry_sweep_drains asciiRuntime ⟨1, 1⟩ sweepDraws reservedDatabase ⟨1000000, by decide⟩
    (by decide) (by decide) reservedDatabase_holds (sweepDraws_cutoff 0 0)
    sweepDraws_calm

end ReleaseExpiredReservationsHandler

end LibrarySystem
