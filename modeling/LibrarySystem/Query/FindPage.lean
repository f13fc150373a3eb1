import LibrarySystem.Query.Listings

/-!
# Pages from either backend

A page is searched in Elasticsearch and falls back to PostgreSQL.  A cursor names the
backend that issued it, and a request with that cursor stays there.
-/

namespace LibrarySystem

open Result

/-! ## The repositories -/

/-- What the three query repositories do not share: the shape of the query, the checks of a
cursor's two values, the SELECT, and the conversion of a document. -/
structure QueryRepository (Row Item : Type) where
  name : PyStr
  filters : List (PyStr × Json)
  readValues : Json → Json → Except QueryException (PyValue × PyValue)
  listing : Listing Row Item
  fromHit : Record → Except QueryException Item

section Repositories

variable {Text : Type} [LinearOrder Text] (rt : QueryRuntime) (db : Collation Text)

/-- The checks of a cursor of books. -/
def BookQueryRepository.readValues (first second : Json) :
    Except QueryException (PyValue × PyValue) := do
  let title ← cursorString first (py "title sort value") 100 fun _ => true
  let book_id ← cursorString second (py "book id") 64 cursorIdPattern
  pure (.str title, .str book_id)

/-- The checks of a cursor of patrons or loans; the instant goes on as a text. -/
def readInstantValues (field : PyStr) (first second : Json) :
    Except QueryException (PyValue × PyValue) := do
  let value ← cursorDatetime rt (Json.toValue first)
  let id ← cursorString second field 64 cursorIdPattern
  pure (.str value.isoformat, .str id)

/-- `filters` as `cursor_scope` gets it. -/
def optionalText (value : Option PyStr) : Json := value.elim .null .str

def BookQueryRepository.repository (filters : BookFilters) :
    QueryRepository BookModel BookReadModel where
  name := py "books"
  filters :=
    [(py "only_available", .bool filters.only_available),
      (py "only_borrowed", .bool filters.only_borrowed),
      (py "author_contains", optionalText filters.author_contains),
      (py "title_contains", optionalText filters.title_contains)]
  readValues := BookQueryRepository.readValues
  listing := BookQueryRepository.listing rt db filters
  fromHit := bookFromHit rt

def PatronQueryRepository.repository (filters : PatronFilters) :
    QueryRepository PatronModel PatronReadModel where
  name := py "patrons"
  filters :=
    [(py "only_suspended", .bool filters.only_suspended),
      (py "membership_tier", optionalText filters.membership_tier)]
  readValues := readInstantValues rt (py "patron id")
  listing := PatronQueryRepository.listing rt db filters
  fromHit := patronFromHit rt

def LoanQueryRepository.repository (filters : LoanFilters) :
    QueryRepository LoanModel LoanReadModel where
  name := py "patron-loans"
  filters :=
    [(py "patron_id", .str filters.patron_id), (py "only_active", .bool filters.only_active)]
  readValues := readInstantValues rt (py "loan id")
  listing := LoanQueryRepository.listing rt db filters
  fromHit := loanFromHit rt

end Repositories

/-! ## A request -/

/-- `ElasticsearchClient.search` -/
structure SearchResult where
  hits : List Record
  total : Json

/-- What a request finds: the freshness of the projection, the search behind its circuit
breaker, and the table. -/
structure QueryEnvironment (Row : Type) where
  fresh : Except QueryException Bool
  search : Option (PyValue × PyValue) → Except QueryException SearchResult
  rows : Except QueryException (List Row)

/-- The backends that a request asked, each with its sort key, and the page with the one
that served it. -/
structure PageAnswer (Item : Type) where
  asked : List (Backend × Option (PyValue × PyValue))
  outcome : Except QueryException (Backend × QueryPage Item)

namespace QueryException

/-- `SearchEngineException` and `CircuitBreakerOpenException` -/
def isUnavailable : QueryException → Bool
  | searchEngine _ => true
  | circuitBreakerOpen => true
  | _ => false

/-- `KeyError`, `TypeError` and `ValueError` with its subclass. -/
def isInvalidDocument : QueryException → Bool
  | keyError _ => true
  | typeError _ => true
  | valueError _ => true
  | invalidPagination _ => true
  | _ => false

end QueryException

/-- `list(value)` -/
def PyValue.toList : PyValue → Except QueryException (List PyValue)
  | .list items => .ok items
  | .str text => .ok (text.map fun c => .str [c])
  | .dict entries => .ok (entries.map fun entry => .str entry.1)
  | _ => .error (.typeError (py "object is not iterable"))

namespace QueryRepository

variable {Row Item : Type} (rt : QueryRuntime) (repository : QueryRepository Row Item)

def scope : PyStr := cursorScope rt.toPythonRuntime repository.name repository.filters

/-- What a cursor says, once every part of it is checked. -/
def openCursor (limit offset : ℤ) (cursor : Option PyStr) :
    Except QueryException (Option (PyValue × PyValue) × Option Backend) := do
  validatePagination limit offset cursor
  match cursor with
  | none => pure (none, none)
  | some text =>
      if text = [] then pure (none, none)
      else do
        let decoded ← decodeCursorWithBackend rt.toPythonRuntime text (repository.scope rt) 2
        match decoded.1 with
        | [first, second] => do
            let values ← repository.readValues first second
            pure (some values, decoded.2)
        | _ => throw (.other (py "IndexError"))

variable (environment : QueryEnvironment Row) (limit offset : ℤ)

/-- The page from PostgreSQL, after the backends asked before. -/
def answerFromDb (asked : List (Backend × Option (PyValue × PyValue)))
    (values : Option (PyValue × PyValue)) : PageAnswer Item where
  asked := asked ++ [(.postgresql, values)]
  outcome := do
    let rows ← environment.rows
    let page ← repository.listing.findPageFromDb rt.toPythonRuntime limit offset values
      (repository.scope rt) rows
    pure (.postgresql, page)

/-- The sort values of the last hit, or else those of its item. -/
def hitSortValues (hit : Record) (item : Item) : Except QueryException (List PyValue) :=
  let found := Json.toValue (hit.get (py "_sort") .null)
  if found.truthy = true then found.toList
  else .ok [(repository.listing.sortValues item).1, (repository.listing.sortValues item).2]

/-- The cursor after a full page of hits. -/
def nextCursorFromHits (hits : List Record) (items : List Item) :
    Except QueryException (Option PyStr) :=
  match hits.getLast?, items.getLast? with
  | some hit, some item =>
      if hits.length = limit then do
        let sortValues ← repository.hitSortValues hit item
        let next_cursor ← encodeCursor rt.toPythonRuntime (repository.scope rt) sortValues
          (some .elasticsearch)
        pure (some next_cursor)
      else pure none
  | _, _ => pure none

/-- The page from Elasticsearch, with the fallbacks that the cursor allows. -/
def answerFromSearch (values : Option (PyValue × PyValue)) (pinned : Option Backend) :
    PageAnswer Item :=
  let asked := [(Backend.elasticsearch, values)]
  match environment.search values with
  | .error raised =>
      if raised.isUnavailable = true ∧ pinned ≠ some .elasticsearch then
        repository.answerFromDb rt environment limit offset asked values
      else ⟨asked, .error raised⟩
  | .ok result =>
      match result.hits.mapM repository.fromHit with
      | .error raised =>
          if raised.isInvalidDocument = true then
            if pinned = some .elasticsearch then
              ⟨asked, .error (.searchEngine
                (py "Elasticsearch returned an invalid document for a pinned cursor"))⟩
            else repository.answerFromDb rt environment limit offset asked values
          else ⟨asked, .error raised⟩
      | .ok items =>
          ⟨asked, do
            let next_cursor ← repository.nextCursorFromHits rt limit result.hits items
            pure (.elasticsearch, ⟨items, next_cursor, some result.total⟩)⟩

/-- The choice of a backend. -/
def answer (values : Option (PyValue × PyValue)) (pinned : Option Backend) : PageAnswer Item :=
  match environment.fresh with
  | .error raised => ⟨[], .error raised⟩
  | .ok fresh =>
      if fresh = false ∨ pinned = some .postgresql then
        if pinned = some .elasticsearch then
          ⟨[], .error (.searchEngine
            (py "This page cursor is pinned to Elasticsearch, which is disabled or lagging"))⟩
        else repository.answerFromDb rt environment limit offset [] values
      else repository.answerFromSearch rt environment limit offset values pinned

/-- `find_page` and `find_by_patron_page` -/
def findPage (cursor : Option PyStr) : PageAnswer Item :=
  match repository.openCursor rt limit offset cursor with
  | .error raised => ⟨[], .error raised⟩
  | .ok opened => repository.answer rt environment limit offset opened.1 opened.2

end QueryRepository

/-! ## Cursors keep to their backend -/

/-- A cursor that a backend's page of some query may carry. -/
def CursorIssued (rt : QueryRuntime) (backend : Backend) (cursor : PyStr) : Prop :=
  ∃ (name : PyStr) (filters : List (PyStr × Json)) (sortValues : List PyValue),
    encodeCursor rt.toPythonRuntime (cursorScope rt.toPythonRuntime name filters) sortValues
      (some backend) = .ok cursor

namespace PageAnswer

variable {Item : Type} {rt : QueryRuntime}

/-- What an answer tells: the page is that of a backend it asked, and carries a cursor of
that backend. -/
def Sound (rt : QueryRuntime) (answer : PageAnswer Item) : Prop :=
  ∀ served page, answer.outcome = .ok (served, page) →
    served ∈ answer.asked.map Prod.fst ∧
      ∀ cursor ∈ page.next_cursor, CursorIssued rt served cursor

theorem sound_error (asked : List (Backend × Option (PyValue × PyValue)))
    (raised : QueryException) : Sound rt (⟨asked, .error raised⟩ : PageAnswer Item) := by
  intro served page hserved
  cases hserved

/-- A request that asks no backend but one, and is served by that one or raises. -/
def StaysOn (backend : Backend) (answer : PageAnswer Item) : Prop :=
  (∀ asked ∈ answer.asked, asked.1 = backend) ∧
    ∀ served page, answer.outcome = .ok (served, page) → served = backend

end PageAnswer

namespace QueryRepository

variable {Row Item : Type} {rt : QueryRuntime} {repository : QueryRepository Row Item}
  {environment : QueryEnvironment Row} {limit offset : ℤ} {backend served : Backend}
  {page : QueryPage Item}

/-- The decoder finds the backend that the cursor was issued by. -/
theorem decodeCursorWithBackend_issued {cursor scope : PyStr} {sort : List Json}
    {found : Option Backend} (hcursor : CursorIssued rt backend cursor)
    (hdecode : decodeCursorWithBackend rt.toPythonRuntime cursor scope 2 = .ok (sort, found)) :
    found = some backend := by
  obtain ⟨name, filters, sortValues, hencode⟩ := hcursor
  obtain ⟨_, -, hload, -⟩ :=
    loadCursor_encodeCursor rt (cursorScope_isAscii rt name filters) hencode
  unfold decodeCursorWithBackend at hdecode
  rw [hload] at hdecode
  split at hdecode
  · cases hdecode
  · dsimp only at hdecode
    split at hdecode
    · cases hdecode
    · have hbackend : envelopeBackend (.str backend.name) = .ok (some backend) := by
        unfold envelopeBackend
        dsimp only
        rw [Backend.ofName_name]
      simp only [Json.lookup, if_pos, Option.getD_some, hbackend, ok_bind, pure_eq,
        Except.ok.injEq, Prod.mk.injEq] at hdecode
      exact hdecode.2.symm

/-- A cursor that passes the checks is there, and names the backend that issued it. -/
theorem openCursor_issued {cursor : PyStr} {values : Option (PyValue × PyValue)}
    {found : Option Backend} (hcursor : CursorIssued rt backend cursor)
    (hopen : repository.openCursor rt limit offset (some cursor) = .ok (values, found)) :
    found = some backend := by
  obtain ⟨_, hvalid, hopen⟩ := bind_eq_ok.mp hopen
  dsimp only at hopen
  have hne : cursor ≠ [] := by
    intro hempty
    subst hempty
    unfold validatePagination at hvalid
    simp at hvalid
    grind
  rw [if_neg hne] at hopen
  obtain ⟨⟨sort, decoded⟩, hdecode, hopen⟩ := bind_eq_ok.mp hopen
  have hfound := decodeCursorWithBackend_issued hcursor hdecode
  dsimp only at hopen
  split at hopen
  · obtain ⟨read, -, hopen⟩ := bind_eq_ok.mp hopen
    rw [pure_eq, Except.ok.injEq, Prod.mk.injEq] at hopen
    rw [← hopen.2, hfound]
  · cases hopen

theorem nextCursor_issued {listing : Listing Row Item} {items : List Item}
    {next_cursor : Option PyStr}
    (hnext : listing.nextCursor rt.toPythonRuntime limit (repository.scope rt) items =
      .ok next_cursor) :
    ∀ cursor ∈ next_cursor, CursorIssued rt .postgresql cursor := by
  intro cursor hcursor
  unfold Listing.nextCursor at hnext
  split at hnext
  · rename_i last _
    split at hnext
    · cases hencode : encodeCursor rt.toPythonRuntime (repository.scope rt)
          [(listing.sortValues last).1, (listing.sortValues last).2] (some .postgresql) with
      | error raised =>
          rw [hencode] at hnext
          cases hnext
      | ok issued =>
          rw [hencode] at hnext
          cases hnext
          cases hcursor
          exact ⟨_, _, _, hencode⟩
    · cases hnext
      cases hcursor
  · cases hnext
    cases hcursor

theorem nextCursorFromHits_issued {hits : List Record} {items : List Item}
    {next_cursor : Option PyStr}
    (hnext : repository.nextCursorFromHits rt limit hits items = .ok next_cursor) :
    ∀ cursor ∈ next_cursor, CursorIssued rt .elasticsearch cursor := by
  intro cursor hcursor
  unfold nextCursorFromHits at hnext
  split at hnext
  · split at hnext
    · obtain ⟨sortValues, -, hnext⟩ := bind_eq_ok.mp hnext
      obtain ⟨issued, hencode, hnext⟩ := bind_eq_ok.mp hnext
      cases hnext
      cases hcursor
      exact ⟨_, _, _, hencode⟩
    · cases hnext
      cases hcursor
  · cases hnext
    cases hcursor

theorem answerFromDb_sound (asked : List (Backend × Option (PyValue × PyValue)))
    (values : Option (PyValue × PyValue)) :
    PageAnswer.Sound rt (repository.answerFromDb rt environment limit offset asked values) := by
  intro served page hserved
  obtain ⟨rows, -, hserved⟩ := bind_eq_ok.mp hserved
  obtain ⟨found, hfound, hserved⟩ := bind_eq_ok.mp hserved
  cases hserved
  refine ⟨by simp [answerFromDb], ?_⟩
  obtain ⟨selected, -, hfound⟩ := bind_eq_ok.mp hfound
  obtain ⟨next_cursor, hnext, hfound⟩ := bind_eq_ok.mp hfound
  cases hfound
  exact nextCursor_issued hnext

theorem answerFromSearch_sound (values : Option (PyValue × PyValue)) (pinned : Option Backend) :
    PageAnswer.Sound rt
      (repository.answerFromSearch rt environment limit offset values pinned) := by
  unfold answerFromSearch
  split
  · split
    · exact answerFromDb_sound _ _
    · exact PageAnswer.sound_error _ _
  · split
    · split
      · split
        · exact PageAnswer.sound_error _ _
        · exact answerFromDb_sound _ _
      · exact PageAnswer.sound_error _ _
    · intro served page hserved
      obtain ⟨next_cursor, hnext, hserved⟩ := bind_eq_ok.mp hserved
      cases hserved
      exact ⟨by simp, nextCursorFromHits_issued hnext⟩

theorem answer_sound (values : Option (PyValue × PyValue)) (pinned : Option Backend) :
    PageAnswer.Sound rt (repository.answer rt environment limit offset values pinned) := by
  unfold answer
  split
  · exact PageAnswer.sound_error _ _
  · split
    · split
      · exact PageAnswer.sound_error _ _
      · exact answerFromDb_sound _ _
    · exact answerFromSearch_sound _ _

theorem findPage_sound (cursor : Option PyStr) :
    PageAnswer.Sound rt (repository.findPage rt environment limit offset cursor) := by
  unfold findPage
  split
  · exact PageAnswer.sound_error _ _
  · exact answer_sound _ _

/-- A pinned request asks no other backend, whatever becomes of the search. -/
theorem answer_pinned (values : Option (PyValue × PyValue)) (backend : Backend) :
    ∀ asked ∈ (repository.answer rt environment limit offset values (some backend)).asked,
      asked.1 = backend := by
  unfold answer
  split
  · intro asked hasked
    cases hasked
  · cases backend with
    | postgresql =>
        rw [if_pos (.inr rfl), if_neg (by decide)]
        intro asked hasked
        rw [List.mem_singleton.mp hasked]
    | elasticsearch =>
        rw [if_pos rfl]
        split
        · intro asked hasked
          cases hasked
        · have honly : (repository.answerFromSearch rt environment limit offset values
              (some .elasticsearch)).asked = [(.elasticsearch, values)] := by
            unfold answerFromSearch
            split
            · rw [if_neg (fun h => h.2 rfl)]
            · split
              · dsimp only
                rw [if_pos rfl]
                split <;> rfl
              · rfl
          rw [honly]
          intro asked hasked
          rw [List.mem_singleton.mp hasked]

theorem findPage_issued {cursor : PyStr} (hcursor : CursorIssued rt backend cursor) :
    ∀ asked ∈ (repository.findPage rt environment limit offset (some cursor)).asked,
      asked.1 = backend := by
  unfold findPage
  split
  · intro asked hasked
    cases hasked
  · rename_i opened hopen
    obtain ⟨values, found⟩ := opened
    rw [openCursor_issued hcursor hopen]
    exact answer_pinned values backend

/-! ## Walks -/

/-- The answers to a first request and to those that follow, each with the cursor of the
page before it. -/
inductive PageWalk (rt : QueryRuntime) (repository : QueryRepository Row Item) :
    Option PyStr → List (PageAnswer Item) → Prop
  | last (environment : QueryEnvironment Row) (limit offset : ℤ) (cursor : Option PyStr) :
      PageWalk rt repository cursor [repository.findPage rt environment limit offset cursor]
  | more {environment : QueryEnvironment Row} {limit offset : ℤ} {cursor : Option PyStr}
      {served : Backend} {page : QueryPage Item} {next : PyStr}
      {answers : List (PageAnswer Item)}
      (hserved : (repository.findPage rt environment limit offset cursor).outcome =
        .ok (served, page))
      (hnext : page.next_cursor = some next)
      (hrest : PageWalk rt repository (some next) answers) :
      PageWalk rt repository cursor
        (repository.findPage rt environment limit offset cursor :: answers)

theorem findPage_staysOn {cursor : PyStr} (hcursor : CursorIssued rt backend cursor) :
    (repository.findPage rt environment limit offset (some cursor)).StaysOn backend := by
  refine ⟨findPage_issued hcursor, fun served page hserved => ?_⟩
  obtain ⟨asked, hasked, rfl⟩ := List.mem_map.mp (findPage_sound _ served page hserved).1
  exact findPage_issued hcursor asked hasked

/-- From a cursor of a backend on, the walk stays on that backend. -/
theorem PageWalk.staysOn {cursor : Option PyStr} {answers : List (PageAnswer Item)}
    (hwalk : PageWalk rt repository cursor answers)
    (hcursor : ∃ issued, cursor = some issued ∧ CursorIssued rt backend issued) :
    ∀ answer ∈ answers, answer.StaysOn backend := by
  induction hwalk with
  | last environment limit offset cursor =>
      obtain ⟨issued, rfl, hissued⟩ := hcursor
      intro answer hanswer
      rw [List.mem_singleton.mp hanswer]
      exact findPage_staysOn hissued
  | @more environment limit offset _ _ _ _ _ hserved hnext hrest ih =>
      obtain ⟨issued, rfl, hissued⟩ := hcursor
      have hstays : (repository.findPage rt environment limit offset (some issued)).StaysOn
          backend := findPage_staysOn hissued
      have hnextIssued := (findPage_sound _ _ _ hserved).2 _ hnext
      rw [hstays.2 _ _ hserved] at hnextIssued
      intro answer hanswer
      rcases List.mem_cons.mp hanswer with rfl | hlater
      · exact hstays
      · exact ih ⟨_, rfl, hnextIssued⟩ answer hlater

/-- Whoever served a page serves the pages after it, and a cursor of any query is a sort key
for its own backend only. -/
def KeepsBackend (rt : QueryRuntime) (repository : QueryRepository Row Item) : Prop :=
  (∀ cursor first answers served page,
    PageWalk rt repository cursor (first :: answers) → first.outcome = .ok (served, page) →
      ∀ answer ∈ answers, answer.StaysOn served) ∧
  (∀ environment limit offset cursor served page,
    (repository.findPage rt environment limit offset cursor).outcome = .ok (served, page) →
      ∀ issued ∈ page.next_cursor, CursorIssued rt served issued) ∧
  ∀ backend cursor, CursorIssued rt backend cursor → ∀ environment limit offset,
    ∀ asked ∈ (repository.findPage rt environment limit offset (some cursor)).asked,
      asked.1 = backend

theorem keepsBackend (rt : QueryRuntime) (repository : QueryRepository Row Item) :
    KeepsBackend rt repository := by
  refine ⟨?_, fun _ _ _ cursor served page hserved => (findPage_sound cursor served page hserved).2,
    fun _ _ hcursor _ _ _ => findPage_issued hcursor⟩
  intro cursor first answers served page hwalk hfirst
  cases hwalk with
  | last environment limit offset =>
      intro answer hanswer
      cases hanswer
  | more hserved hnext hrest =>
      rw [hserved, Except.ok.injEq, Prod.mk.injEq] at hfirst
      rw [← hfirst.1]
      have hissued := (findPage_sound _ _ _ hserved).2 _ hnext
      exact hrest.staysOn ⟨_, rfl, hissued⟩

end QueryRepository

/-- No listing changes its backend in the middle of a walk. -/
theorem page_walks_keep_backend {Text : Type} [LinearOrder Text] (rt : QueryRuntime)
    (db : Collation Text) :
    (∀ filters, (BookQueryRepository.repository rt db filters).KeepsBackend rt) ∧
    (∀ filters, (PatronQueryRepository.repository rt db filters).KeepsBackend rt) ∧
    ∀ filters, (LoanQueryRepository.repository rt db filters).KeepsBackend rt :=
  ⟨fun _ => QueryRepository.keepsBackend rt _, fun _ => QueryRepository.keepsBackend rt _,
    fun _ => QueryRepository.keepsBackend rt _⟩

end LibrarySystem
