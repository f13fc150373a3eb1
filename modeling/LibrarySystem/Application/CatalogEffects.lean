import LibrarySystem.Application.CatalogCommands
import LibrarySystem.Domain.BookTransitions

/-!
# What the catalog handlers commit

For each handler, the batch it hands to the database and the result that goes with it,
in terms of the row it loaded and of the transition of the aggregate.
-/

namespace LibrarySystem

open Run (Spec Knowledge)

/-- A run of the command handlers, with its result. -/
abbrev CommandSpec := Spec Observation PyStr Batch AppException

theorem Command.meets_ofExcept {α β : Type} {spec : CommandSpec β}
    {known : Knowledge Observation PyStr} {result : Except Raised α} {rest : α → Command β}
    (hok : ∀ value, result = .ok value → (rest value).Meets spec known)
    (herror : ∀ error, spec.raises known error) :
    (Command.ofExcept result >>= rest).Meets spec known := by
  cases result with
  | ok value => exact hok value rfl
  | error error => exact herror _

theorem Command.meets_ofExcept' {α β : Type} {spec : CommandSpec β}
    {known : Knowledge Observation PyStr} {result : Except AppException α}
    {rest : α → Command β}
    (hok : ∀ value, result = .ok value → (rest value).Meets spec known)
    (herror : ∀ error, spec.raises known error) :
    ((Run.ofExcept result : Command α) >>= rest).Meets spec known := by
  cases result with
  | ok value => exact hok value rfl
  | error error => exact herror _

namespace AddBookHandler

def spec (rt : PythonRuntime) (command : AddBookCommand) : CommandSpec AddBookResult where
  commits _ batch value :=
    ∃ key title author id draws,
      IdempotencyKey.parse command.idempotency_key = .ok key ∧
      Book.parseTitle command.title = .ok title ∧
      Book.parseAuthor command.author = .ok author ∧
      value = result (.initial id title author) ∧
      batch.Writes rt [.inserted (.book (.initial id title author)) draws []
        (receiptOf rt scope key (commandFingerprint rt (facts title author)) value)]
  returns known value :=
    ∃ key title author, IdempotencyKey.parse command.idempotency_key = .ok key ∧
      Book.parseTitle command.title = .ok title ∧
      Book.parseAuthor command.author = .ok author ∧
      Replayed rt known scope key (commandFingerprint rt (facts title author)) value
  raises _ _ := True

theorem handle_meets (rt : PythonRuntime) (command : AddBookCommand)
    (known : Knowledge Observation PyStr) :
    (handle rt command).Meets (spec rt command) known := by
  apply Command.meets_ofExcept _ fun _ => trivial
  intro title htitle
  apply Command.meets_ofExcept _ fun _ => trivial
  intro author hauthor
  apply Command.meets_ofExcept' _ fun _ => trivial
  intro key hkey
  apply Uow.meets_transaction.mpr
  apply Uow.Meets.bind
  apply Uow.reads_replay
  · intro later _
    apply Uow.Meets.bind
    apply Uow.reads_observe
    intro seen
    apply Uow.Meets.bind
    apply Uow.reads_create
    intro drawn
    apply Uow.meets_modify.mpr
    apply Uow.meets_keepReceipt.mpr
    apply Uow.Meets.commit
    · intro staged rows hstage
      refine ⟨key, title, author, uuidReference seen.draws.uuid, drawn.draws, hkey, htitle,
        hauthor, rfl, UnitOfWork.Shows.writes ?_ hstage⟩
      exact (UnitOfWork.shows_inserted _ _ _).keep
    · exact fun _ _ => trivial
    · exact fun _ _ => trivial
  · exact fun _ _ hreplayed => ⟨key, title, author, hkey, htitle, hauthor, hreplayed⟩
  · exact fun _ _ => trivial

end AddBookHandler

theorem PatronBorrowerDirectoryAdapter.reads_findByEmail {A : Type} {rt : PythonRuntime}
    {email : PyStr} {known : Knowledge Observation PyStr} {session : UnitOfWork A}
    {value : Knowledge Observation PyStr → Option BorrowerProfile × UnitOfWork A → Prop}
    {error : Knowledge Observation PyStr → AppException → Prop}
    (hnone : ∀ later, value later (none, session))
    (hsome : ∀ (seen : Observation) (row : PatronRow), row ∈ seen.database.patrons.rows →
      value (known.look seen) (some (translate row), session))
    (herror : ∀ later raised, error later raised) :
    (findByEmail rt email session).Reads value error known := by
  apply Run.Reads.bind
  apply Uow.reads_select
  intro seen
  apply Run.Reads.bind
  apply Uow.reads_scalarOneOrNone
  · exact fun _ => hnone _
  · intro row hrows
    have hmem : row ∈ [row] := List.mem_singleton_self row
    rw [← hrows] at hmem
    exact hsome seen row (List.mem_filter.mp hmem).1
  · exact herror _ _

namespace BorrowBookHandler

def spec (rt : PythonRuntime) (command : BorrowBookCommand) :
    CommandSpec BorrowBookResult where
  commits known batch value :=
    ∃ key email, ∃ patron : PatronRow, ∃ row : BookRow, ∃ book reserved : Book,
      ∃ nextId token events now draws,
      IdempotencyKey.parse command.idempotency_key = .ok key ∧
      EmailAddress.parse rt command.borrower_email = .ok email ∧
      (∃ seen ∈ known.seen, patron ∈ seen.database.patrons.rows) ∧
      patron.is_suspended = false ∧
      Loaded known command.book_id row book ∧
      book.reserve rt nextId patron.id.val patron.email.value (.ofUtc now) none =
        .ok (reserved, token, events) ∧
      value = result reserved token ∧
      batch.Writes rt [.updated row.version (.book reserved) draws events
        (.insertOperation (uuidText token)
            (operation reserved (PatronBorrowerDirectoryAdapter.translate patron) now) ::
          receiptOf rt scope key (commandFingerprint rt (facts command email)) value)]
  returns known value :=
    ∃ key email, IdempotencyKey.parse command.idempotency_key = .ok key ∧
      EmailAddress.parse rt command.borrower_email = .ok email ∧
      Replayed rt known scope key (commandFingerprint rt (facts command email)) value
  raises _ _ := True

theorem handle_meets (rt : PythonRuntime) (command : BorrowBookCommand)
    (known : Knowledge Observation PyStr) :
    (handle rt command).Meets (spec rt command) known := by
  apply Command.meets_ofExcept' _ fun _ => trivial
  intro key hkey
  apply Command.meets_ofExcept _ fun _ => trivial
  intro email hemail
  apply Uow.meets_transaction.mpr
  apply Uow.Meets.bind
  apply Uow.reads_replay
  · intro later _
    apply Uow.Meets.bind
    apply PatronBorrowerDirectoryAdapter.reads_findByEmail
    · exact fun _ => trivial
    · intro directory patron hpatron
      dsimp only
      by_cases hsuspended : patron.is_suspended = true
      · simp only [PatronBorrowerDirectoryAdapter.translate, hsuspended, Bool.not_true,
          Bool.not_false, if_true]
        exact trivial
      · simp only [PatronBorrowerDirectoryAdapter.translate, hsuspended, Bool.not_false,
          Bool.not_true]
        apply Uow.Meets.bind
        apply Uow.reads_getById rfl
        · exact fun _ _ => trivial
        · intro seen row book hrow hbook
          apply Uow.Meets.bind
          apply Uow.reads_now
          intro clock
          apply Uow.Meets.bind
          apply Uow.reads_observe
          intro drawn
          apply Uow.Meets.bind
          apply Uow.reads_ofExcept
          · rintro ⟨reserved, token, events⟩ hreserve
            apply Uow.Meets.bind
            apply Uow.reads_mutate
            intro stamped
            apply Uow.meets_modify.mpr
            apply Uow.meets_modify.mpr
            apply Uow.meets_keepReceipt.mpr
            apply Uow.Meets.commit
            · intro staged rows hstage
              refine ⟨key, email, patron, row, book, reserved, drawn.draws.uuid, token, events,
                clock.draws.now, stamped.draws, hkey, hemail, ⟨directory, by simp, hpatron⟩,
                by simpa using hsuspended, ⟨⟨seen, by simp, hrow⟩, hbook⟩, hreserve, rfl,
                UnitOfWork.Shows.writes ?_ hstage⟩
              exact (UnitOfWork.shows_updated book reserved row.version _ events).issue_one.keep
            · exact fun _ _ => trivial
            · exact fun _ _ => trivial
          · exact fun _ _ => trivial
        · exact fun _ _ => trivial
    · exact fun _ _ => trivial
  · exact fun _ _ hreplayed => ⟨key, email, hkey, hemail, hreplayed⟩
  · exact fun _ _ => trivial

end BorrowBookHandler

namespace BookMessage

def spec {Result : Type} (rt : PythonRuntime) (book_id : PyStr)
    (transition : Book → Except Raised (Book × Bool × List AggregateEvent))
    (change : UtcDateTime → OperationTransition) (result : Book → Bool → Result) :
    CommandSpec Result where
  commits known batch value :=
    ∃ row : BookRow, ∃ book after : Book, ∃ events now draws,
      value = result after true ∧ Loaded known book_id row book ∧
      transition book = .ok (after, true, events) ∧
      batch.Writes rt [.updated row.version (.book after) draws events
        [.transitionOperation (change now)]]
  returns known value :=
    ∃ row : BookRow, ∃ book after : Book, ∃ events,
      value = result after false ∧ Loaded known book_id row book ∧
      transition book = .ok (after, false, events)
  raises _ _ := True

theorem handle_meets {Result : Type} (rt : PythonRuntime) (book_id : PyStr)
    (transition : Book → Except Raised (Book × Bool × List AggregateEvent))
    {change : UtcDateTime → OperationTransition} (result : Book → Bool → Result)
    (htarget : ∀ now, (change now).status.sources ≠ [])
    (known : Knowledge Observation PyStr) :
    (handle rt book_id transition change result).Meets
      (spec rt book_id transition change result) known := by
  apply Uow.meets_transaction.mpr
  apply Uow.Meets.bind
  apply Uow.reads_getById rfl
  · exact fun _ _ => trivial
  · intro seen row book hrow hbook
    apply Uow.Meets.bind
    apply Uow.reads_ofExcept
    · rintro ⟨after, changed, events⟩ htransition
      apply Uow.Meets.bind
      apply Uow.reads_mutate
      intro drawn
      cases changed with
      | false =>
          exact ⟨row, book, after, events, rfl, ⟨⟨seen, by simp, hrow⟩, hbook⟩, htransition⟩
      | true =>
          apply Uow.meets_modify.mpr
          apply Uow.Meets.bind
          apply Uow.reads_now
          intro clock
          apply (Uow.meets_transition (htarget _)).mpr
          apply Uow.Meets.commit
          · intro staged rows hstage
            refine ⟨row, book, after, events, clock.draws.now, drawn.draws, rfl,
              ⟨⟨seen, by simp, hrow⟩, hbook⟩, htransition, UnitOfWork.Shows.writes ?_ hstage⟩
            exact (UnitOfWork.shows_updated book after row.version _ events).issue_one
          · exact fun _ _ => trivial
          · exact fun _ _ => trivial
    · exact fun _ _ => trivial
  · exact fun _ _ => trivial

end BookMessage

namespace ConfirmBookBorrowHandler

def spec (rt : PythonRuntime) (command : ConfirmBookBorrowCommand) : CommandSpec Bool :=
  BookMessage.spec rt command.book_id (transition rt command) (change command)
    fun _ changed => changed

theorem handle_meets (rt : PythonRuntime) (command : ConfirmBookBorrowCommand)
    (known : Knowledge Observation PyStr) :
    (handle rt command).Meets (spec rt command) known :=
  BookMessage.handle_meets _ _ _ _ (fun _ => by simp [change, BorrowOperationStatus.sources])
    known

end ConfirmBookBorrowHandler

namespace ReleaseBookReservationHandler

def spec (rt : PythonRuntime) (command : ReleaseBookReservationCommand) :
    CommandSpec Bool :=
  BookMessage.spec rt command.book_id (transition rt command) (change command)
    fun _ changed => changed

theorem handle_meets (rt : PythonRuntime) (command : ReleaseBookReservationCommand)
    (known : Knowledge Observation PyStr) :
    (handle rt command).Meets (spec rt command) known :=
  BookMessage.handle_meets _ _ _ _ (fun _ => by simp [change, BorrowOperationStatus.sources])
    known

end ReleaseBookReservationHandler

namespace ReturnBookHandler

def spec (rt : PythonRuntime) (command : ReturnBookCommand) :
    CommandSpec ReturnBookResult :=
  BookMessage.spec rt command.book_id (transition rt command) (change command)
    fun book _ => result book

theorem handle_meets (rt : PythonRuntime) (command : ReturnBookCommand)
    (known : Knowledge Observation PyStr) :
    (handle rt command).Meets (spec rt command) known :=
  BookMessage.handle_meets _ _ _ _ (fun _ => by simp [change, BorrowOperationStatus.sources])
    known

end ReturnBookHandler

namespace ReleaseExpiredReservationsHandler

/-- One released reservation of a batch. -/
structure Release where
  row : BookRow
  book : Book
  after : Book
  events : List AggregateEvent
  reservation : Uuid
  patron : Reference
  now : UtcDateTime
  draws : Draws

namespace Release

def piece (release : Release) : Piece :=
  .updated release.row.version (.book release.after) release.draws release.events
    [.transitionOperation
      (change release.after release.reservation release.patron release.now)]

structure Valid (rt : PythonRuntime) (command : ReleaseExpiredReservationsCommand)
    (known : Knowledge Observation PyStr) (release : Release) : Prop where
  loaded : Loaded known release.row.id.val release.row release.book
  reservation : release.book.state.reservation_id = some release.reservation
  patron : release.book.state.reserved_patron_id = some release.patron
  released : release.book.release rt (uuidText release.reservation)
    release.book.state.reservation_generation release.patron.val (reason command) =
      .ok (release.after, true, release.events)

end Release

def spec (rt : PythonRuntime) (command : ReleaseExpiredReservationsCommand) :
    CommandSpec ReleaseExpiredReservationsResult where
  commits known batch value :=
    ∃ releases : List Release, releases ≠ [] ∧
      (∀ release ∈ releases, release.Valid rt command known) ∧
      (releases.map fun release => release.row.id.val).Nodup ∧
      value.released_count = releases.length ∧
      batch.Writes rt (releases.map Release.piece)
  returns _ value := value.released_count = 0
  raises _ _ := True

theorem release_after {rt : PythonRuntime} {book after : Book} {token : PyStr}
    {generation : ℤ} {patron reason : PyStr} {changed : Bool} {events : List AggregateEvent}
    (hstatus : book.state.status = .reserved)
    (hrelease : book.release rt token generation patron reason =
      .ok (after, changed, events)) :
    changed = true ∧ after.id = book.id := by
  obtain ⟨_, _, -, -, -, -, -, ⟨-, -, -, havailable⟩ | ⟨hchanged, -, hid, -⟩⟩ :=
    Book.release_ok hrelease
  · rw [hstatus] at havailable
    cases havailable
  · exact ⟨hchanged, hid⟩

/-- What the loop is about to do with an entity. -/
def Expired (known : Knowledge Observation PyStr) (row : BookRow) (entity : Tracked Book) :
    Prop :=
  Loaded known row.id.val row entity.aggregate ∧
    entity = ⟨entity.aggregate, row.version, []⟩ ∧
    entity.aggregate.state.status = .reserved

theorem Release.Valid.mono {rt : PythonRuntime}
    {command : ReleaseExpiredReservationsCommand} {known later : Knowledge Observation PyStr}
    {release : Release} (hvalid : release.Valid rt command known)
    (hseen : known.seen ⊆ later.seen) : release.Valid rt command later where
  loaded := hvalid.loaded.mono hseen
  reservation := hvalid.reservation
  patron := hvalid.patron
  released := hvalid.released

/-- One turn of the loop releases its book. -/
theorem reads_releaseOne {rt : PythonRuntime}
    {command : ReleaseExpiredReservationsCommand} {known : Knowledge Observation PyStr}
    {session : UnitOfWork Book} {pieces : List Piece} {row : BookRow} {entity : Tracked Book}
    {value : Knowledge Observation PyStr → Bool × UnitOfWork Book → Prop}
    {error : Knowledge Observation PyStr → AppException → Prop}
    (hshows : session.Shows pieces)
    (hnew : ∀ piece ∈ pieces, piece.after.idText ≠ row.id.val)
    (hexpired : Expired known row entity)
    (hok : ∀ later, ∀ release : Release, ∀ changed : UnitOfWork Book,
      known.seen ⊆ later.seen → release.row = row →
      release.Valid rt command later → changed.Shows (pieces ++ [release.piece]) →
      value later (true, changed))
    (herror : ∀ later raised, error later raised) :
    (releaseOne rt command entity session).Reads value error known := by
  obtain ⟨hloaded, hentity, hstatus⟩ := hexpired
  obtain ⟨book, version, kept⟩ := entity
  simp only [Tracked.mk.injEq, true_and] at hentity
  obtain ⟨rfl, rfl⟩ := hentity
  dsimp only at hloaded hstatus
  have hid : book.id.val = row.id.val :=
    Stored.key_eq (A := Book) row book hloaded.2
  unfold releaseOne
  cases hreservation : book.state.reservation_id with
  | none => exact herror _ _
  | some reservation =>
      cases hpatron : book.state.reserved_patron_id with
      | none => exact herror _ _
      | some patron =>
          apply Run.Reads.bind
          apply Uow.reads_ofExcept
          · rintro ⟨after, changed, events⟩ hrelease
            obtain ⟨rfl, hafter⟩ := release_after hstatus hrelease
            have hfresh : ∀ piece ∈ pieces,
                piece.after.idText ≠ (Stored.wrap after).idText := by
              intro piece hpiece
              change piece.after.idText ≠ after.id.val
              rw [hafter, hid]
              exact hnew piece hpiece
            apply Run.Reads.bind
            apply Uow.reads_mutate
            intro drawn
            apply Run.Reads.bind
            change Run.Reads _ _ _ (Run.pure _)
            apply Run.Reads.bind
            apply Uow.reads_now
            intro clock
            refine hok _ ⟨row, book, after, events, reservation, patron,
              clock.draws.now, drawn.draws⟩ _ ?_ rfl ?_ ?_
            · exact (Set.subset_insert _ _).trans (Set.subset_insert _ _)
            · exact
                { loaded := hloaded.mono
                    ((Set.subset_insert _ _).trans (Set.subset_insert _ _))
                  reservation := hreservation
                  patron := hpatron
                  released := hrelease }
            · exact (hshows.updated book after row.version drawn.draws events
                hfresh).issue
          · exact fun _ _ => herror _ _

theorem Release.Valid.idText {rt : PythonRuntime}
    {command : ReleaseExpiredReservationsCommand} {known : Knowledge Observation PyStr}
    {release : Release} (hvalid : release.Valid rt command known) :
    release.piece.after.idText = release.row.id.val := by
  obtain ⟨_, _, -, -, -, -, -, ⟨hchanged, -⟩ | ⟨-, -, hid, -⟩⟩ :=
    Book.release_ok hvalid.released
  · cases hchanged
  · have hloaded : release.book.id.val = release.row.id.val :=
      Stored.key_eq (A := Book) release.row release.book hvalid.loaded.2
    change release.after.id.val = release.row.id.val
    rw [hid, hloaded]

theorem Expired.mono {known later : Knowledge Observation PyStr} {row : BookRow}
    {entity : Tracked Book} (hexpired : Expired known row entity)
    (hseen : known.seen ⊆ later.seen) : Expired later row entity :=
  ⟨hexpired.1.mono hseen, hexpired.2⟩

/-- The loop releases every book, those before it kept. -/
theorem reads_releaseAll {rt : PythonRuntime}
    {command : ReleaseExpiredReservationsCommand} {known : Knowledge Observation PyStr}
    {session : UnitOfWork Book} {released : List Release} {rows : List BookRow}
    {entities : List (Tracked Book)}
    {value : Knowledge Observation PyStr → ℕ × UnitOfWork Book → Prop}
    {error : Knowledge Observation PyStr → AppException → Prop}
    (hshows : session.Shows (released.map Release.piece))
    (hvalid : ∀ release ∈ released, release.Valid rt command known)
    (hids : (released.map Release.row ++ rows).map (fun row => row.id.val) |>.Nodup)
    (hexpired : List.Forall₂ (Expired known) rows entities)
    (hok : ∀ later, ∀ releases : List Release, ∀ changed : UnitOfWork Book,
      releases.map Release.row = released.map Release.row ++ rows →
      (∀ release ∈ releases, release.Valid rt command later) →
      changed.Shows (releases.map Release.piece) →
      value later (entities.length, changed))
    (herror : ∀ later raised, error later raised) :
    (releaseAll rt command entities session).Reads value error known := by
  induction entities generalizing rows known session released value with
  | nil =>
      cases hexpired
      exact hok known released session (by simp) hvalid hshows
  | cons entity entities ih =>
      obtain ⟨row, rest, hentity, hentities, rfl⟩ :=
        List.forall₂_cons_right_iff.mp hexpired
      unfold releaseAll
      apply Run.Reads.bind
      have hnew : ∀ piece ∈ released.map Release.piece,
          piece.after.idText ≠ row.id.val := by
        intro piece hpiece hsame
        obtain ⟨release, hrelease, rfl⟩ := List.mem_map.mp hpiece
        rw [(hvalid release hrelease).idText] at hsame
        rw [List.map_append, List.nodup_append] at hids
        exact hids.2.2 _ (List.mem_map_of_mem (List.mem_map_of_mem hrelease)) _
          (List.mem_map_of_mem List.mem_cons_self) hsame
      apply reads_releaseOne hshows hnew hentity
      · intro later release changed hseen hrow hrelease hchanged
        apply Run.Reads.bind
        apply ih
          (by simpa using hchanged : changed.Shows ((released ++ [release]).map _))
        · intro other hother
          rcases List.mem_append.mp hother with hold | hlast
          · exact (hvalid other hold).mono hseen
          · rw [List.mem_singleton.mp hlast]
            exact hrelease
        · simpa [hrow] using hids
        · exact hentities.imp fun _ _ hother => hother.mono hseen
        · intro last releases final hrows hreleases hfinal
          refine hok last releases final ?_ hreleases hfinal
          simp [hrows, hrow]
      · exact herror

/-- The expired rows are seen rows of reserved books, each once. -/
theorem reads_findExpiredReservations {known : Knowledge Observation PyStr}
    {cutoff : UtcDateTime} {limit : ℕ}
    {value : Knowledge Observation PyStr → List (Tracked Book) × UnitOfWork Book → Prop}
    {error : Knowledge Observation PyStr → AppException → Prop}
    (hok : ∀ later rows entities, ∀ session : UnitOfWork Book,
      (rows.map fun row : BookRow => row.id.val).Nodup →
      List.Forall₂ (Expired later) rows entities → session.Shows [] →
      value later (entities, session))
    (herror : ∀ later raised, error later raised) :
    (BookCommandRepository.findExpiredReservations cutoff limit {}).Reads value error
      known := by
  unfold BookCommandRepository.findExpiredReservations
  apply Run.Reads.bind
  apply Uow.reads_select
  intro seen
  apply Run.Reads.bind
  apply Uow.reads_observe
  intro drawn
  dsimp only
  generalize hordered : List.mergeSort _ _ = ordered
  have hmem : ∀ row ∈ ordered.take limit, row ∈ seen.database.books.rows ∧
      row.state.status = .reserved := by
    intro row hrow
    have hrow := List.mem_of_mem_take hrow
    rw [← hordered, List.mem_mergeSort] at hrow
    obtain ⟨hselected, hcondition⟩ := List.mem_filter.mp (List.mem_filter.mp hrow).1
    simp only [Bool.and_eq_true, decide_eq_true_eq] at hcondition
    exact ⟨hselected, hcondition.1⟩
  have hnodup : ((ordered.take limit).map fun row => row.id.val).Nodup := by
    have hsub : (ordered.take limit).Sublist ordered := List.take_sublist _ _
    refine (hsub.map _).nodup ?_
    rw [← hordered, ((List.mergeSort_perm _ _).map _).nodup_iff]
    refine ((List.filter_sublist.trans List.filter_sublist).map _).nodup ?_
    exact seen.database.books.rows_nodup
  apply Uow.reads_entities .empty hnodup fun _ _ => rfl
  · intro entities later hentities hlater
    refine hok _ (ordered.take limit) entities later hnodup ?_ hlater
    refine List.forall₂_iff_zip.mpr ⟨hentities.length_eq, fun {row entity} hpair => ?_⟩
    obtain ⟨haggregate, hentity⟩ := List.forall₂_zip hentities hpair
    obtain ⟨hrow, hstatus⟩ := hmem row (List.of_mem_zip hpair).1
    have hlookup := (seen.database.books.mem_rows row).mp hrow
    refine ⟨⟨⟨seen, by simp, hlookup⟩, haggregate⟩, hentity, ?_⟩
    rw [(BookRow.toEntity_eq_ok_iff row entity.aggregate).mp haggregate] at hstatus
    exact hstatus
  · exact fun _ => herror _ _

theorem handle_meets (rt : PythonRuntime) (command : ReleaseExpiredReservationsCommand)
    (known : Knowledge Observation PyStr) :
    (handle rt command).Meets (spec rt command) known := by
  unfold handle
  by_cases httl : command.ttl_seconds ≤ 0
  · simp only [httl, if_true]
    exact trivial
  by_cases hbatch : 1 ≤ command.batch_size ∧ command.batch_size ≤ 1000
  · simp only [httl, hbatch, and_self, not_true_eq_false, if_false]
    intro clock
    apply Command.meets_ofExcept _ fun _ => trivial
    intro cutoff _
    apply Uow.meets_transaction.mpr
    apply Uow.Meets.bind
    apply reads_findExpiredReservations
    · intro later rows entities session hrows hexpired hsession
      apply Uow.Meets.bind
      have hnone : session.Shows (([] : List Release).map Release.piece) := hsession
      apply reads_releaseAll hnone (by simp) (by simpa using hrows) hexpired
      · intro last releases final hreleases hvalid hfinal
        have hlength : releases.length = entities.length := by
          rw [← hexpired.length_eq, ← List.length_map (f := Release.row), hreleases]
          rfl
        cases entities with
        | nil => exact rfl
        | cons entity rest =>
            apply Uow.Meets.commit
            · intro seen staged hstage
              refine ⟨releases, ?_, fun release hrelease => ?_, ?_, hlength.symm,
                UnitOfWork.Shows.writes hfinal hstage⟩
              · rintro rfl
                cases hlength
              · exact (hvalid release hrelease).mono (Set.subset_insert _ _)
              · have hsplit : (releases.map fun release => release.row.id.val) =
                    (releases.map Release.row).map fun row => row.id.val := by
                  rw [List.map_map]
                  rfl
                rw [hsplit, hreleases]
                exact hrows
            · exact fun _ _ => trivial
            · exact fun _ _ => trivial
      · exact fun _ _ => trivial
    · exact fun _ _ => trivial
  · simp only [httl, hbatch, not_false_eq_true, if_true, if_false]
    exact trivial

end ReleaseExpiredReservationsHandler

end LibrarySystem
