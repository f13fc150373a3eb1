import LibrarySystem.Query.FindPage
import LibrarySystem.Query.KeysetWalks

/-!
# Cursors at the boundary

Which of the cursors that the server issues it takes back, and which cursors a client may
send that are refused with anything but a validation error.
-/

namespace LibrarySystem

open Result

/-! ## The length of a cursor -/

/-- The length of a text in the JSON of a cursor, without its quotes. -/
def escapedLength (text : PyStr) : ℕ := (text.flatMap Json.escapeAscii).length

theorem renderString_length (text : PyStr) :
    (Json.renderString true text).length = escapedLength text + 2 := by
  unfold Json.renderString escapedLength
  rw [if_pos rfl, List.length_cons, List.length_append, List.length_singleton]

theorem escapeAscii_of_isReferenceTail {c : CodePoint} (hc : isReferenceTail c = true) :
    Json.escapeAscii c = [c] := by
  simp only [isReferenceTail, CodePoint.isAlphanumeric, CodePoint.isLetter, CodePoint.isUpper,
    CodePoint.isLower, CodePoint.isDigit, Bool.or_eq_true, Bool.and_eq_true, decide_eq_true_eq,
    beq_iff_eq] at hc
  have hrange : 0x20 ≤ c.val ∧ c.val ≤ 0x7E := by omega
  have hquote : c.val ≠ 0x22 := by omega
  have hbackslash : c.val ≠ 0x5C := by omega
  have hshort : Json.shortEscape c = none := by
    unfold Json.shortEscape
    rw [if_neg hquote, if_neg hbackslash, if_neg (by omega), if_neg (by omega),
      if_neg (by omega), if_neg (by omega), if_neg (by omega)]
  unfold Json.escapeAscii
  rw [hshort]
  dsimp only
  rw [if_pos hrange]

theorem escapedLength_of_cursorId {text : PyStr} (htext : text.all isReferenceTail = true) :
    escapedLength text = text.length := by
  unfold escapedLength
  induction text with
  | nil => rfl
  | cons c rest ih =>
      rw [List.all_cons, Bool.and_eq_true] at htext
      rw [List.flatMap_cons, List.length_append, ih htext.2,
        escapeAscii_of_isReferenceTail htext.1, List.length_singleton, List.length_cons,
        Nat.add_comm]

theorem cursorId_of_isReference {text : PyStr} (htext : isReference text = true) :
    text ≠ [] ∧ text.length ≤ 64 ∧ cursorIdPattern text = true ∧
      text.all isReferenceTail = true := by
  simp only [isReference, Bool.and_eq_true, decide_eq_true_eq] at htext
  refine ⟨?_, htext.1, htext.2, ?_⟩
  · rintro rfl
    cases htext.2
  · cases text with
    | nil => rfl
    | cons c rest =>
        have hmatch := htext.2
        simp only [PyStr.matchesHeadTail, Bool.and_eq_true] at hmatch
        rw [List.all_cons, hmatch.2, Bool.and_true, isReferenceTail, hmatch.1]
        rfl

theorem isAscii_of_cursorId {text : PyStr} (htext : text.all isReferenceTail = true) :
    PyStr.isAscii text = true := by
  simp only [PyStr.isAscii, List.all_eq_true] at htext ⊢
  intro c hc
  have htail := htext c hc
  simp only [isReferenceTail, CodePoint.isAlphanumeric, CodePoint.isLetter, CodePoint.isUpper,
    CodePoint.isLower, CodePoint.isDigit, Bool.or_eq_true, Bool.and_eq_true, decide_eq_true_eq,
    beq_iff_eq] at htail
  simp only [CodePoint.isAscii, decide_eq_true_eq]
  omega

theorem escapedLength_cursorScope (rt : QueryRuntime) (name : PyStr)
    (filters : List (PyStr × Json)) :
    escapedLength (cursorScope rt.toPythonRuntime name filters) = 24 := by
  obtain ⟨htotal, hhex⟩ := cursorScope_hex rt name filters
  rw [escapedLength_of_cursorId, htotal]
  rw [List.all_eq_true] at hhex ⊢
  exact fun c hc => isReferenceTail_of_isHexDigit (.inl (hhex c hc))

theorem cursorPayload_length (rt : PythonRuntime) {scope : PyStr}
    (hscope : escapedLength scope = 24) (title id : PyStr) :
    (cursorPayload rt scope [.str title, .str id] (some .postgresql)).length =
      80 + escapedLength title + escapedLength id := by
  unfold cursorPayload
  rw [sortKeys_cursorEnvelope]
  have hitems : Json.sortItems [.str title, .str id] = [.str title, .str id] := rfl
  rw [hitems]
  have hstyle : JsonStyle.compact.ensureAscii = true ∧
      List.length JsonStyle.compact.keySeparator = 1 ∧
      List.length JsonStyle.compact.itemSeparator = 1 := by decide
  have hnames : escapedLength (py "backend") = 7 ∧ escapedLength Backend.postgresql.name = 10 ∧
      escapedLength (py "scope") = 5 ∧ escapedLength (py "sort") = 4 ∧
      escapedLength (py "v") = 1 := by decide
  have hmarks : List.length (py "\x7b") = 1 ∧ List.length (py "\x7d") = 1 ∧
      List.length (py "[") = 1 ∧ List.length (py "]") = 1 ∧
      List.length (Json.renderInt 1) = 1 := by decide
  simp only [Json.render, Json.renderMembers, Json.renderItems, List.length_append, hstyle,
    renderString_length, hscope, hnames, hmarks]
  omega

/-- A cursor of books has at most 1024 characters if its texts have at most 688 escaped. -/
theorem bookCursor_length_le (rt : QueryRuntime) {name : PyStr} {filters : List (PyStr × Json)}
    {title id cursor : PyStr}
    (hcursor : encodeCursor rt.toPythonRuntime (cursorScope rt.toPythonRuntime name filters)
      [.str title, .str id] (some .postgresql) = .ok cursor) :
    cursor.length ≤ maxCursorLength ↔ escapedLength title + escapedLength id ≤ 688 := by
  obtain ⟨sort, hsort, -, hlength⟩ :=
    loadCursor_encodeCursor rt (cursorScope_isAscii rt name filters) hcursor
  cases hsort
  rw [hlength, cursorPayload_length rt.toPythonRuntime (escapedLength_cursorScope rt _ _)]
  unfold maxCursorLength
  omega

/-! ## The cursors that the server issues -/

namespace QueryRepository

variable {Row Item : Type} {rt : QueryRuntime} {repository : QueryRepository Row Item}
  {environment : QueryEnvironment Row} {limit offset : ℤ} {page : QueryPage Item}

theorem validatePagination_limit {cursor : Option PyStr}
    (hvalid : validatePagination limit offset cursor = .ok ()) : 1 ≤ limit ∧ limit ≤ 1000 := by
  unfold validatePagination at hvalid
  split at hvalid
  · cases hvalid
  · rename_i hlimit
    unfold maxPageSize at hlimit
    omega

theorem validatePagination_cursor (hlimit : 1 ≤ limit ∧ limit ≤ 1000) {cursor : PyStr}
    (hne : cursor ≠ []) (hlength : cursor.length ≤ maxCursorLength) :
    validatePagination limit 0 (some cursor) = .ok () := by
  have hbound : ¬(limit < 1 ∨ maxPageSize < limit) := by
    unfold maxPageSize
    omega
  unfold validatePagination
  rw [if_neg hbound, if_neg (by omega), if_neg (fun h => h.2 rfl), if_neg, if_neg]
  · rintro ⟨h, -⟩
    cases h
  · simpa [hne] using hlength

theorem validatePagination_cursor_length {cursor : PyStr}
    (hvalid : validatePagination limit offset (some cursor) = .ok ()) :
    cursor.length ≤ maxCursorLength := by
  unfold validatePagination at hvalid
  split at hvalid
  · cases hvalid
  · split at hvalid
    · cases hvalid
    · split at hvalid
      · cases hvalid
      · split at hvalid
        · cases hvalid
        · rename_i hcursor
          simp only [Option.any_some, decide_eq_true_eq, not_or, not_lt] at hcursor
          exact hcursor.2

/-- A page from PostgreSQL is that of the SELECT. -/
theorem answer_served_postgresql {values : Option (PyValue × PyValue)} {pinned : Option Backend}
    (hserved : (repository.answer rt environment limit offset values pinned).outcome =
      .ok (.postgresql, page)) :
    ∃ rows, environment.rows = .ok rows ∧
      repository.listing.findPageFromDb rt.toPythonRuntime limit offset values
        (repository.scope rt) rows = .ok page := by
  have hdb : ∀ asked, (repository.answerFromDb rt environment limit offset asked values).outcome =
      .ok (.postgresql, page) → ∃ rows, environment.rows = .ok rows ∧
        repository.listing.findPageFromDb rt.toPythonRuntime limit offset values
          (repository.scope rt) rows = .ok page := by
    intro asked hanswer
    obtain ⟨rows, hrows, hanswer⟩ := bind_eq_ok.mp hanswer
    obtain ⟨found, hfound, hanswer⟩ := bind_eq_ok.mp hanswer
    cases hanswer
    exact ⟨rows, hrows, hfound⟩
  unfold answer at hserved
  split at hserved
  · cases hserved
  · split at hserved
    · split at hserved
      · cases hserved
      · exact hdb _ hserved
    · unfold answerFromSearch at hserved
      dsimp only at hserved
      split at hserved
      · split at hserved
        · exact hdb _ hserved
        · cases hserved
      · split at hserved
        · split at hserved
          · split at hserved
            · cases hserved
            · exact hdb _ hserved
          · cases hserved
        · obtain ⟨next_cursor, -, hserved⟩ := bind_eq_ok.mp hserved
          cases hserved

/-- What a page from PostgreSQL with a cursor was made of. -/
theorem findPage_issued_postgresql {cursor : Option PyStr} {issued : PyStr}
    (hserved : (repository.findPage rt environment limit offset cursor).outcome =
      .ok (.postgresql, page))
    (hissued : page.next_cursor = some issued) :
    (1 ≤ limit ∧ limit ≤ 1000) ∧ ∃ rows row, environment.rows = .ok rows ∧ row ∈ rows ∧
      page.items.getLast? = some (repository.listing.item row) ∧
      encodeCursor rt.toPythonRuntime (repository.scope rt)
        [(repository.listing.sortValues (repository.listing.item row)).1,
          (repository.listing.sortValues (repository.listing.item row)).2]
        (some .postgresql) = .ok issued := by
  unfold findPage at hserved
  split at hserved
  · cases hserved
  · rename_i opened hopen
    obtain ⟨_, hvalid, -⟩ := bind_eq_ok.mp hopen
    refine ⟨validatePagination_limit hvalid, ?_⟩
    obtain ⟨rows, hrows, hpage⟩ := answer_served_postgresql hserved
    obtain ⟨found, hselect, hpage⟩ := bind_eq_ok.mp hpage
    obtain ⟨next_cursor, hnext, hpage⟩ := bind_eq_ok.mp hpage
    cases hpage
    have hmem : ∀ row ∈ found, row ∈ rows := repository.listing.mem_of_select hselect
    rcases List.eq_nil_or_concat' found with rfl | ⟨earlier, row, rfl⟩
    · cases hnext
      cases hissued
    · refine ⟨rows, row, hrows, hmem row (by simp), by simp, ?_⟩
      unfold Listing.nextCursor at hnext
      rw [List.map_append, List.map_singleton, List.getLast?_concat] at hnext
      dsimp only at hnext hissued
      split at hnext
      · cases hencode : encodeCursor rt.toPythonRuntime (repository.scope rt)
            [(repository.listing.sortValues (repository.listing.item row)).1,
              (repository.listing.sortValues (repository.listing.item row)).2]
            (some .postgresql) with
        | error raised =>
            rw [hencode] at hnext
            cases hnext
        | ok cursor =>
            rw [hencode] at hnext
            cases hnext
            cases hissued
            rfl
      · cases hnext
        cases hissued

end QueryRepository

/-- A book whose texts are those of a `Title` and a `BookId`. -/
def BookModel.Catalogued (row : BookModel) : Prop :=
  ∃ (title : BoundedText 100) (id : Reference), row.title = title.value ∧ row.id = id.val

/-- The title sort value is short enough as a text and in the cursor, and is read back as it
was written. -/
def BookReadModel.FitsCursor (rt : QueryRuntime) (last : BookReadModel) : Prop :=
  (rt.lower last.title).length ≤ 100 ∧
    escapedLength (rt.lower last.title) + last.id.length ≤ 688 ∧
    PyStr.hasSplitPair (rt.lower last.title) = false

section Books

variable {Text : Type} [LinearOrder Text] (rt : QueryRuntime) (db : Collation Text)

theorem cursorString_ok {text field : PyStr} {maxLength : ℕ} {pattern : PyStr → Bool}
    (hne : text ≠ []) (hlength : text.length ≤ maxLength) (hpattern : pattern text = true) :
    cursorString (.str text) field maxLength pattern = .ok text := by
  unfold cursorString
  dsimp only
  rw [if_neg (by simp [hne, hlength]), if_pos hpattern]

theorem cursorString_eq_ok {value : Json} {text field : PyStr} {maxLength : ℕ}
    {pattern : PyStr → Bool} (hread : cursorString value field maxLength pattern = .ok text) :
    value = .str text ∧ text ≠ [] ∧ text.length ≤ maxLength ∧ pattern text = true := by
  unfold cursorString at hread
  dsimp only at hread
  split at hread
  · split at hread
    · cases hread
    · rename_i hbounds
      split at hread
      · rename_i hpattern
        cases hread
        simp only [not_or, not_lt] at hbounds
        exact ⟨rfl, hbounds.1, hbounds.2, hpattern⟩
      · cases hread
  · cases hread

/-- The sort values of an envelope of the query's own. -/
theorem envelopeSort_own (scope : PyStr) (sort : List Json) (backend : Json) :
    envelopeSort scope sort.length
      [(py "backend", backend), (py "scope", .str scope), (py "sort", .arr sort),
        (py "v", .int 1)] = some sort := by
  change (if scope = scope ∧ sort.length = sort.length then some sort else none) = some sort
  rw [if_pos ⟨rfl, rfl⟩]

/-- The decoder's answer to a cursor of the query's own. -/
theorem decodeCursorWithBackend_own {scope issued : PyStr} {sort : List Json} {backend : Backend}
    (hload : loadCursor rt.toPythonRuntime issued =
      some (.obj [(py "backend", .str backend.name), (py "scope", .str scope),
        (py "sort", .arr sort), (py "v", .int 1)]))
    (hne : issued ≠ []) (hlength : issued.length ≤ maxCursorLength) :
    decodeCursorWithBackend rt.toPythonRuntime issued scope sort.length =
      .ok (sort, some backend) := by
  have hbackend : envelopeBackend (.str backend.name) = .ok (some backend) := by
    unfold envelopeBackend
    dsimp only
    rw [Backend.ofName_name]
  unfold decodeCursorWithBackend
  rw [if_neg (by simp [hne, hlength]), hload]
  dsimp only
  rw [envelopeSort_own]
  simp only [Json.lookup, if_pos, Option.getD_some, hbackend, ok_bind, pure_eq]

/-- The query takes a cursor of its own back exactly if its last book fits. -/
theorem BookQueryRepository.openCursor_issued {filters : BookFilters} {limit : ℤ}
    (hlimit : 1 ≤ limit ∧ limit ≤ 1000) {last : BookReadModel} {issued : PyStr}
    (htitle : last.title ≠ []) (hid : isReference last.id = true)
    (hencode : encodeCursor rt.toPythonRuntime
      ((BookQueryRepository.repository rt db filters).scope rt)
      [.str (rt.lower last.title), .str last.id] (some .postgresql) = .ok issued) :
    (BookQueryRepository.repository rt db filters).openCursor rt limit 0 (some issued) =
        .ok (some (.str (rt.lower last.title), .str last.id), some .postgresql) ↔
      last.FitsCursor rt := by
  have hbound := bookCursor_length_le rt hencode
  obtain ⟨sort, hsort, hload, hchars⟩ :=
    loadCursor_encodeCursor rt (cursorScope_isAscii rt _ _) hencode
  cases hsort
  obtain ⟨hidNe, hidLength, hidPattern, hidTail⟩ := cursorId_of_isReference hid
  have hidAscii : PyStr.isAscii last.id = true := isAscii_of_cursorId hidTail
  rw [escapedLength_of_cursorId hidTail] at hbound
  have hreread : Json.rereadItems rt.readFloat
      (Json.sortItems [.str (rt.lower last.title), .str last.id]) =
        [.str (Json.joinText (rt.lower last.title)), .str last.id] := by
    change [Json.str _, Json.str (Json.joinText last.id)] = _
    rw [joinText_of_isAscii hidAscii]
  rw [hreread] at hload
  have hne : issued ≠ [] := by
    intro hempty
    rw [hempty, cursorPayload_length rt.toPythonRuntime (escapedLength_cursorScope rt _ _)]
      at hchars
    simp only [List.length_nil] at hchars
    omega
  have hdecode : issued.length ≤ maxCursorLength →
      decodeCursorWithBackend rt.toPythonRuntime issued
        ((BookQueryRepository.repository rt db filters).scope rt) 2 =
          .ok ([.str (Json.joinText (rt.lower last.title)), .str last.id], some .postgresql) :=
    fun hlength => decodeCursorWithBackend_own rt hload hne hlength
  constructor
  · intro hopen
    obtain ⟨_, hvalid, hopen⟩ := bind_eq_ok.mp hopen
    have hlength := QueryRepository.validatePagination_cursor_length hvalid
    dsimp only at hopen
    rw [if_neg hne, hdecode hlength, ok_bind] at hopen
    obtain ⟨values, hread, hopen⟩ := bind_eq_ok.mp hopen
    cases hopen
    obtain ⟨title, hfirst, hread⟩ := bind_eq_ok.mp hread
    obtain ⟨book_id, -, hread⟩ := bind_eq_ok.mp hread
    obtain ⟨hvalue, -, hshort, -⟩ := cursorString_eq_ok hfirst
    cases hread
    exact ⟨hshort, hbound.mp hlength,
      (Json.joinText_eq_self_iff _).mp (Json.str.inj hvalue)⟩
  · rintro ⟨hshort, hescaped, hsplit⟩
    have hlength := hbound.mpr hescaped
    have hread : BookQueryRepository.readValues (.str (rt.lower last.title)) (.str last.id) =
        .ok (.str (rt.lower last.title), .str last.id) := by
      unfold BookQueryRepository.readValues
      rw [cursorString_ok (rt.lower_ne_nil _ htitle) hshort rfl, ok_bind,
        cursorString_ok hidNe hidLength hidPattern, ok_bind, pure_eq]
    rw [(Json.joinText_eq_self_iff _).mpr hsplit] at hdecode
    unfold QueryRepository.openCursor
    rw [QueryRepository.validatePagination_cursor hlimit hne hlength, ok_bind]
    dsimp only
    rw [if_neg hne, hdecode hlength, ok_bind]
    change (BookQueryRepository.readValues _ _ >>= _) = _
    rw [hread]
    rfl

/-- A page of books from PostgreSQL, with a cursor: the same query with this cursor is
answered after the last book, if and only if that book fits. -/
theorem BookQueryRepository.issued_cursors_accepted (filters : BookFilters)
    (environment : QueryEnvironment BookModel) (limit offset : ℤ) (cursor : Option PyStr)
    (page : QueryPage BookReadModel) (issued : PyStr)
    (hrows : ∀ rows, environment.rows = .ok rows → ∀ row ∈ rows, row.Catalogued)
    (hserved : ((BookQueryRepository.repository rt db filters).findPage rt environment limit
      offset cursor).outcome = .ok (.postgresql, page))
    (hissued : page.next_cursor = some issued) :
    ∃ last, page.items.getLast? = some last ∧
      ((BookQueryRepository.repository rt db filters).openCursor rt limit 0 (some issued) =
          .ok (some (.str (rt.lower last.title), .str last.id), some .postgresql) ↔
        last.FitsCursor rt) := by
  obtain ⟨hlimit, rows, row, hfound, hrow, hlast, hencode⟩ :=
    QueryRepository.findPage_issued_postgresql hserved hissued
  obtain ⟨title, id, htitle, hid⟩ := hrows rows hfound row hrow
  have hnonempty : row.toReadModel.title ≠ [] := by
    change row.title ≠ []
    rw [htitle]
    exact title.nonempty
  have hreference : isReference row.toReadModel.id = true := by
    change isReference row.id = true
    rw [hid]
    exact id.property
  exact ⟨row.toReadModel, hlast,
    BookQueryRepository.openCursor_issued rt db hlimit hnonempty hreference hencode⟩

end Books

/-- A database with one book, and no search. -/
def unsearched (rows : List BookModel) : QueryEnvironment BookModel where
  fresh := .ok false
  search := fun _ => .error .circuitBreakerOpen
  rows := .ok rows

def everyBook : BookFilters := ⟨false, false, none, none⟩

def duneAnswer : PageAnswer BookReadModel :=
  (BookQueryRepository.repository asciiQueryRuntime asciiCollation everyBook).findPage
    asciiQueryRuntime (unsearched [titledRow (py "b1") (py "Dune")]) 1 0 none

theorem BookQueryRepository.issued_cursors_accepted_dune :
    ∃ page issued, duneAnswer.outcome = .ok (.postgresql, page) ∧
      page.next_cursor = some issued ∧
      ∃ last, page.items.getLast? = some last ∧
        ((BookQueryRepository.repository asciiQueryRuntime asciiCollation everyBook).openCursor
            asciiQueryRuntime 1 0 (some issued) =
              .ok (some (.str (asciiQueryRuntime.lower last.title), .str last.id),
                some .postgresql) ↔
          last.FitsCursor asciiQueryRuntime) := by
  have hfull : ((duneAnswer.outcome.toOption.bind fun answer => answer.2.next_cursor).isSome &&
      decide (duneAnswer.outcome.toOption.map Prod.fst = some .postgresql)) = true := by
    decide +kernel
  rw [Bool.and_eq_true, decide_eq_true_eq] at hfull
  cases hanswer : duneAnswer.outcome with
  | error raised =>
      rw [hanswer] at hfull
      cases hfull.1
  | ok answer =>
      obtain ⟨served, page⟩ := answer
      rw [hanswer] at hfull
      obtain ⟨issued, hissued⟩ := Option.isSome_iff_exists.mp hfull.1
      cases hfull.2
      refine ⟨page, issued, rfl, hissued, ?_⟩
      refine BookQueryRepository.issued_cursors_accepted asciiQueryRuntime asciiCollation
        everyBook (unsearched [titledRow (py "b1") (py "Dune")]) 1 0 none page issued ?_ hanswer
        hissued
      intro rows hrows row hrow
      cases hrows
      rw [List.mem_singleton.mp hrow]
      exact ⟨⟨py "Dune", by decide, by decide, by decide⟩, ⟨py "b1", by decide⟩, rfl, rfl⟩

/-- Sixty characters outside the basic plane, each twelve characters of JSON. -/
def longTitle : BoundedText 100 :=
  ⟨List.replicate 60 ⟨0x1F600, by decide⟩, by decide +kernel, by decide, by decide⟩

def longAnswer : PageAnswer BookReadModel :=
  (BookQueryRepository.repository asciiQueryRuntime asciiCollation everyBook).findPage
    asciiQueryRuntime (unsearched [titledRow (py "b1") longTitle.value]) 1 0 none

/-- The cursor after a title of sixty characters has 1070, and is refused. -/
theorem BookQueryRepository.issued_cursor_refused :
    (titledRow (py "b1") longTitle.value).Catalogued ∧
    ∃ page issued last, longAnswer.outcome = .ok (.postgresql, page) ∧
      page.next_cursor = some issued ∧ page.items.getLast? = some last ∧
      (BookQueryRepository.repository asciiQueryRuntime asciiCollation everyBook).openCursor
          asciiQueryRuntime 1 0 (some issued) ≠
        .ok (some (.str (asciiQueryRuntime.lower last.title), .str last.id),
          some .postgresql) := by
  refine ⟨⟨longTitle, ⟨py "b1", by decide⟩, rfl, rfl⟩, ?_⟩
  have hrefused : ((longAnswer.outcome.toOption.bind fun answer => answer.2.next_cursor).any
      fun issued => decide (maxCursorLength < issued.length)) = true ∧
      (longAnswer.outcome.toOption.map fun answer => (answer.1, answer.2.items.length)) =
        some (.postgresql, 1) := by
    decide +kernel
  cases hanswer : longAnswer.outcome with
  | error raised =>
      rw [hanswer] at hrefused
      cases hrefused.1
  | ok answer =>
      obtain ⟨served, items, next_cursor, total⟩ := answer
      rw [hanswer] at hrefused
      simp only [Except.toOption, Option.bind_some, Option.map_some, Option.some.injEq,
        Prod.mk.injEq] at hrefused
      obtain ⟨hlong, hserved, hitems⟩ := hrefused
      obtain ⟨last, hlast⟩ := List.length_eq_one_iff.mp hitems
      obtain ⟨issued, rfl, hlong⟩ := (Option.any_eq_true _ _).mp hlong
      refine ⟨_, issued, last, by rw [hserved], rfl, by simp [hlast], fun hopen => ?_⟩
      obtain ⟨_, hvalid, -⟩ := bind_eq_ok.mp hopen
      have hshort := QueryRepository.validatePagination_cursor_length hvalid
      exact absurd hshort (not_le.mpr (of_decide_eq_true hlong))

/-! ## The cursors that a client may send -/

def QueryException.isInvalidPagination : QueryException → Bool
  | invalidPagination _ => true
  | _ => false

/-- Two sort values, or a validation error. -/
def ValidationOnly (wellFormed : PyValue × PyValue → Prop) :
    Except QueryException (Option (PyValue × PyValue) × Option Backend) → Prop
  | .ok opened => ∃ values, opened.1 = some values ∧ wellFormed values
  | .error raised => raised.isInvalidPagination = true

/-- Another exception. -/
def escapes : Except QueryException (Option (PyValue × PyValue) × Option Backend) → Bool
  | .ok _ => false
  | .error raised => !raised.isInvalidPagination

theorem not_validationOnly {wellFormed : PyValue × PyValue → Prop}
    {result : Except QueryException (Option (PyValue × PyValue) × Option Backend)}
    (hescapes : escapes result = true) : ¬ValidationOnly wellFormed result := by
  cases result with
  | ok opened => cases hescapes
  | error raised =>
      intro hvalid
      have hinvalid : raised.isInvalidPagination = true := hvalid
      rw [escapes, hinvalid] at hescapes
      cases hescapes

/-- A text of at most 100 characters, and an id. -/
def TitleAndId (values : PyValue × PyValue) : Prop :=
  ∃ title id, values = (.str title, .str id) ∧ (title ≠ [] ∧ title.length ≤ 100) ∧
    id.length ≤ 64 ∧ cursorIdPattern id = true

/-- The ISO-8601 text of an instant, and an id. -/
def InstantAndId (values : PyValue × PyValue) : Prop :=
  ∃ (t : UtcDateTime) (id : PyStr), values = (.str (isoformat t), .str id) ∧
    id.length ≤ 64 ∧ cursorIdPattern id = true

/-- A value that a set cannot be asked for. -/
def Json.isUnhashable : Json → Bool
  | .arr _ => true
  | .obj _ => true
  | _ => false

def isSupportedBackend : Json → Bool
  | .null => true
  | .str name => (Backend.ofName name).isSome
  | _ => false

/-- A datetime with an offset that takes it out of the years 1 to 9999. -/
def isOverflowingInstant (rt : PythonRuntime) : Json → Bool
  | .str text =>
      (rt.fromisoformat (replaceZulu text)).any fun value =>
        value.utcoffset.any fun offset =>
          !decide (0 ≤ DateTime.instant value.wall offset ∧
            DateTime.instant value.wall offset < wallSpan)
  | _ => false

/-- A payload that belongs to the query, with an unhashable backend, or with a first sort
value of the given kind. -/
def isHostileCursor (rt : PythonRuntime) (scope : PyStr) (hostile : Json → Bool)
    (cursor : PyStr) : Bool :=
  match loadCursor rt cursor with
  | some (.obj members) =>
      match envelopeSort scope 2 members with
      | some sort =>
          let backend := (Json.lookup (py "backend") members).getD .null
          backend.isUnhashable || (isSupportedBackend backend && sort.head?.any hostile)
      | none => false
  | _ => false

/-- The reading of the sort values fails with a validation error, unless the first one is
of the hostile kind. -/
def ReadsValues (wellFormed : PyValue × PyValue → Prop) (hostile : Bool) :
    Except QueryException (PyValue × PyValue) → Prop
  | .ok values => wellFormed values ∧ hostile = false
  | .error raised => raised.isInvalidPagination = !hostile

section Hostile

theorem envelopeBackend_cases (backend : Json) :
    (backend.isUnhashable = true ∧ ∃ raised, envelopeBackend backend = .error raised ∧
      raised.isInvalidPagination = false) ∨
    (backend.isUnhashable = false ∧ isSupportedBackend backend = false ∧
      ∃ raised, envelopeBackend backend = .error raised ∧ raised.isInvalidPagination = true) ∨
    (backend.isUnhashable = false ∧ isSupportedBackend backend = true ∧
      ∃ found, envelopeBackend backend = .ok found) := by
  cases backend with
  | null => exact .inr (.inr ⟨rfl, rfl, _, rfl⟩)
  | arr items => exact .inl ⟨rfl, _, rfl, rfl⟩
  | obj members => exact .inl ⟨rfl, _, rfl, rfl⟩
  | bool value => exact .inr (.inl ⟨rfl, rfl, _, rfl, rfl⟩)
  | int value => exact .inr (.inl ⟨rfl, rfl, _, rfl, rfl⟩)
  | float bits => exact .inr (.inl ⟨rfl, rfl, _, rfl, rfl⟩)
  | str name =>
      cases hname : Backend.ofName name with
      | none =>
          refine .inr (.inl ⟨rfl, ?_,
            .invalidPagination (py "cursor has an unsupported backend"), ?_, rfl⟩)
          · simp only [isSupportedBackend, hname, Option.isSome_none]
          · simp only [envelopeBackend, hname]
      | some backend =>
          refine .inr (.inr ⟨rfl, ?_, some backend, ?_⟩)
          · simp only [isSupportedBackend, hname, Option.isSome_some]
          · simp only [envelopeBackend, hname]

theorem envelopeSort_length {scope : PyStr} {members : List (PyStr × Json)} {sort : List Json}
    (hsort : envelopeSort scope 2 members = some sort) :
    ∃ first second, sort = [first, second] := by
  unfold envelopeSort at hsort
  dsimp only at hsort
  split at hsort
  · cases hsort
  · split at hsort
    · split at hsort
      · split at hsort
        · rename_i hmatch
          cases hsort
          exact List.length_eq_two.mp hmatch.2
        · cases hsort
      · cases hsort
    · cases hsort

variable {Row Item : Type} (rt : QueryRuntime) (repository : QueryRepository Row Item)
  {limit offset : ℤ} {wellFormed : PyValue × PyValue → Prop} {hostile : Json → Bool}

theorem loadCursor_nil : loadCursor rt.toPythonRuntime [] = none := rfl

/-- A request whose cursor is refused before it is decoded. -/
theorem validatePagination_refused (hlimit : 1 ≤ limit ∧ limit ≤ 1000) {cursor : PyStr}
    (hrefused : ¬(offset = 0 ∧ cursor ≠ [] ∧ cursor.length ≤ maxCursorLength)) :
    ∃ message, validatePagination limit offset (some cursor) =
      .error (.invalidPagination message) := by
  have hbound : ¬(limit < 1 ∨ maxPageSize < limit) := by
    unfold maxPageSize
    omega
  unfold validatePagination
  rw [if_neg hbound]
  by_cases hnegative : offset < 0
  · exact ⟨_, if_pos hnegative⟩
  · rw [if_neg hnegative]
    by_cases hzero : offset = 0
    · have hcursor : cursor = [] ∨ maxCursorLength < cursor.length := by
        by_contra hfine
        rw [not_or, not_lt] at hfine
        exact hrefused ⟨hzero, hfine⟩
      rw [if_neg (fun h => h.2 hzero), if_pos (by simpa using hcursor)]
      exact ⟨_, rfl⟩
    · exact ⟨_, if_pos ⟨rfl, hzero⟩⟩

/-- The end of the checks, for a payload that belongs to the query. -/
theorem openCursor_values
    (hread : ∀ first second, ReadsValues wellFormed (hostile first)
      (repository.readValues first second)) (first second backend : Json) :
    ValidationOnly wellFormed (do
        let found ← envelopeBackend backend
        let decoded ← pure ([first, second], found)
        match decoded.1 with
        | [first, second] => do
            let values ← repository.readValues first second
            pure (some values, decoded.2)
        | _ => throw (.other (py "IndexError"))) ↔
      ¬((backend.isUnhashable || (isSupportedBackend backend &&
        [first, second].head?.any hostile)) = true) := by
  rcases envelopeBackend_cases backend with ⟨hunhashable, raised, hraised, hinvalid⟩ |
      ⟨hunhashable, hsupported, raised, hraised, hinvalid⟩ |
      ⟨hunhashable, hsupported, found, hfound⟩
  · rw [hraised, hunhashable]
    refine iff_of_false ?_ (by simp)
    intro hvalid
    exact absurd (hinvalid.symm.trans hvalid) (by simp)
  · rw [hraised, hunhashable, hsupported]
    exact iff_of_true hinvalid (by simp)
  · rw [hfound, hunhashable, hsupported]
    have hvalues := hread first second
    change ValidationOnly wellFormed (repository.readValues first second >>= fun values =>
      pure (some values, found)) ↔ _
    cases hresult : repository.readValues first second with
    | ok values =>
        rw [hresult] at hvalues
        refine iff_of_true ⟨values, rfl, hvalues.1⟩ ?_
        simp [hvalues.2]
    | error raised =>
        rw [hresult] at hvalues
        have hflag : raised.isInvalidPagination = !hostile first := hvalues
        change raised.isInvalidPagination = true ↔ _
        rw [hflag]
        simp

theorem openCursor_validationOnly
    (hread : ∀ first second, ReadsValues wellFormed (hostile first)
      (repository.readValues first second))
    (hlimit : 1 ≤ limit ∧ limit ≤ 1000) (cursor : PyStr) :
    ValidationOnly wellFormed (repository.openCursor rt limit offset (some cursor)) ↔
      ¬(offset = 0 ∧ cursor.length ≤ maxCursorLength ∧
        isHostileCursor rt.toPythonRuntime (repository.scope rt) hostile cursor = true) := by
  unfold QueryRepository.openCursor
  by_cases hpass : offset = 0 ∧ cursor ≠ [] ∧ cursor.length ≤ maxCursorLength
  · obtain ⟨rfl, hne, hlength⟩ := hpass
    rw [QueryRepository.validatePagination_cursor hlimit hne hlength, ok_bind]
    dsimp only
    rw [if_neg hne]
    unfold decodeCursorWithBackend isHostileCursor
    rw [if_neg (by simp [hne, hlength])]
    cases hload : loadCursor rt.toPythonRuntime cursor with
    | none => exact iff_of_true rfl (by simp)
    | some payload =>
        cases payload with
        | obj members =>
            cases hsort : envelopeSort (repository.scope rt) 2 members with
            | none => simp [hsort, ValidationOnly, QueryException.isInvalidPagination]
            | some sort =>
                obtain ⟨first, second, rfl⟩ := envelopeSort_length hsort
                have hvalues := openCursor_values repository hread first second
                  ((Json.lookup (py "backend") members).getD .null)
                simp only [hsort, hlength, true_and, bind_assoc]
                exact hvalues
        | null | bool _ | int _ | float _ | str _ | arr _ => exact iff_of_true rfl (by simp)
  · obtain ⟨message, hinvalid⟩ := validatePagination_refused hlimit hpass
    rw [hinvalid, error_bind]
    refine iff_of_true rfl ?_
    rintro ⟨hzero, hlength, hhostile⟩
    have hempty : cursor = [] := by
      by_contra hne
      exact hpass ⟨hzero, hne, hlength⟩
    rw [hempty, isHostileCursor, loadCursor_nil] at hhostile
    cases hhostile

theorem cursorString_error {value : Json} {field : PyStr} {maxLength : ℕ}
    {pattern : PyStr → Bool} {raised : QueryException}
    (hread : cursorString value field maxLength pattern = .error raised) :
    raised.isInvalidPagination = true := by
  unfold cursorString at hread
  dsimp only at hread
  split at hread
  · split at hread
    · cases hread
      rfl
    · split at hread <;> cases hread
      rfl
  · cases hread
    rfl

theorem BookQueryRepository.readValues_settles (first second : Json) :
    ReadsValues TitleAndId false (BookQueryRepository.readValues first second) := by
  unfold BookQueryRepository.readValues
  cases hfirst : cursorString first (py "title sort value") 100 fun _ => true with
  | error raised => exact cursorString_error hfirst
  | ok title =>
      rw [ok_bind]
      cases hsecond : cursorString second (py "book id") 64 cursorIdPattern with
      | error raised => exact cursorString_error hsecond
      | ok book_id =>
          obtain ⟨-, hne, htitle, -⟩ := cursorString_eq_ok hfirst
          obtain ⟨-, -, hid, hpattern⟩ := cursorString_eq_ok hsecond
          exact ⟨⟨title, book_id, rfl, ⟨hne, htitle⟩, hid, hpattern⟩, rfl⟩

/-- An instant of a cursor is UTC, is refused, or overflows on its way to UTC. -/
theorem cursorDatetime_cases (value : Json) :
    (isOverflowingInstant rt.toPythonRuntime value = true ∧
      cursorDatetime rt (Json.toValue value) = .error .overflowError) ∨
    (isOverflowingInstant rt.toPythonRuntime value = false ∧
      ((∃ message, cursorDatetime rt (Json.toValue value) =
          .error (.invalidPagination message)) ∨
        ∃ t, cursorDatetime rt (Json.toValue value) = .ok (.ofUtc t))) := by
  cases value with
  | null => exact .inr ⟨rfl, .inl ⟨_, rfl⟩⟩
  | bool value => exact .inr ⟨rfl, .inl ⟨_, rfl⟩⟩
  | arr items => exact .inr ⟨rfl, .inl ⟨_, rfl⟩⟩
  | obj members => exact .inr ⟨rfl, .inl ⟨_, rfl⟩⟩
  | int millis =>
      refine .inr ⟨rfl, ?_⟩
      simp only [Json.toValue, cursorDatetime]
      cases rt.fromMillis millis with
      | none => exact .inl ⟨_, rfl⟩
      | some t => exact .inr ⟨t, rfl⟩
  | float bits =>
      refine .inr ⟨rfl, ?_⟩
      simp only [Json.toValue, cursorDatetime]
      cases rt.fromFloatMillis bits with
      | none => exact .inl ⟨_, rfl⟩
      | some t => exact .inr ⟨t, rfl⟩
  | str text =>
      simp only [Json.toValue, cursorDatetime, isOverflowingInstant]
      cases rt.fromisoformat (replaceZulu text) with
      | none => exact .inr ⟨rfl, .inl ⟨_, rfl⟩⟩
      | some value =>
          dsimp only
          cases hoffset : value.utcoffset with
          | none =>
              refine .inr ⟨?_, .inr ⟨value.wall, rfl⟩⟩
              rw [Option.any_some, hoffset, Option.any_none]
          | some offset =>
              dsimp only
              rw [Option.any_some, hoffset, Option.any_some]
              unfold DateTime.astimezoneUtc
              dsimp only
              split
              · rename_i hrange
                exact .inr ⟨by simp [hrange], .inr ⟨_, rfl⟩⟩
              · rename_i hrange
                exact .inl ⟨by simp [hrange], rfl⟩

theorem readInstantValues_settles (field : PyStr) (first second : Json) :
    ReadsValues InstantAndId (isOverflowingInstant rt.toPythonRuntime first)
      (readInstantValues rt field first second) := by
  unfold readInstantValues
  rcases cursorDatetime_cases rt first with
    ⟨hoverflow, hfirst⟩ | ⟨hoverflow, ⟨message, hfirst⟩ | ⟨t, hfirst⟩⟩
  · rw [hfirst, hoverflow]
    rfl
  · rw [hfirst, hoverflow]
    rfl
  · rw [hfirst, hoverflow, ok_bind]
    cases hsecond : cursorString second field 64 cursorIdPattern with
    | error raised => exact cursorString_error hsecond
    | ok id =>
        obtain ⟨-, -, hid, hpattern⟩ := cursorString_eq_ok hsecond
        refine ⟨⟨t, id, ?_, hid, hpattern⟩, rfl⟩
        rw [DateTime.isoformat_ofUtc]

end Hostile

/-- A cursor is answered with two sort values or a validation error, unless it belongs to the
query and brings an unhashable backend, or an instant that overflows. -/
theorem client_cursors_validated {Text : Type} [LinearOrder Text] (rt : QueryRuntime)
    (db : Collation Text) (limit offset : ℤ) (hlimit : 1 ≤ limit ∧ limit ≤ 1000)
    (cursor : PyStr) :
    (∀ filters, ValidationOnly TitleAndId
        ((BookQueryRepository.repository rt db filters).openCursor rt limit offset
          (some cursor)) ↔
      ¬(offset = 0 ∧ cursor.length ≤ maxCursorLength ∧
        isHostileCursor rt.toPythonRuntime
          ((BookQueryRepository.repository rt db filters).scope rt) (fun _ => false) cursor =
            true)) ∧
    (∀ filters, ValidationOnly InstantAndId
        ((PatronQueryRepository.repository rt db filters).openCursor rt limit offset
          (some cursor)) ↔
      ¬(offset = 0 ∧ cursor.length ≤ maxCursorLength ∧
        isHostileCursor rt.toPythonRuntime
          ((PatronQueryRepository.repository rt db filters).scope rt)
          (isOverflowingInstant rt.toPythonRuntime) cursor = true)) ∧
    ∀ filters, ValidationOnly InstantAndId
        ((LoanQueryRepository.repository rt db filters).openCursor rt limit offset
          (some cursor)) ↔
      ¬(offset = 0 ∧ cursor.length ≤ maxCursorLength ∧
        isHostileCursor rt.toPythonRuntime
          ((LoanQueryRepository.repository rt db filters).scope rt)
          (isOverflowingInstant rt.toPythonRuntime) cursor = true) :=
  ⟨fun _ => openCursor_validationOnly rt _
      (fun first second => BookQueryRepository.readValues_settles first second) hlimit cursor,
    fun _ => openCursor_validationOnly rt _
      (fun first second => readInstantValues_settles rt _ first second) hlimit cursor,
    fun _ => openCursor_validationOnly rt _
      (fun first second => readInstantValues_settles rt _ first second) hlimit cursor⟩

/-- The cursor that a client writes from its members. -/
def clientCursor (members : List (PyStr × Json)) : PyStr :=
  urlsafeB64encode ((PyStr.encodeUtf8
    (Json.render asciiRuntime.floatRepr .compact (.obj members))).getD [])

/-- A backend that is a list. -/
def unhashableCursor (scope : PyStr) : PyStr :=
  clientCursor [(py "backend", .arr []), (py "scope", .str scope),
    (py "sort", .arr [.str (py "a"), .str (py "b")]), (py "v", .int 1)]

/-- An instant before the year 1. -/
def overflowingCursor (scope : PyStr) : PyStr :=
  clientCursor [(py "scope", .str scope),
    (py "sort", .arr [.str (py "0001-01-01T00:00:00+01:00"), .str (py "p1")]), (py "v", .int 1)]

theorem client_cursors_escape :
    ¬ValidationOnly TitleAndId
      ((BookQueryRepository.repository asciiQueryRuntime asciiCollation everyBook).openCursor
        asciiQueryRuntime 10 0 (some (unhashableCursor
          ((BookQueryRepository.repository asciiQueryRuntime asciiCollation everyBook).scope
            asciiQueryRuntime)))) ∧
    ¬ValidationOnly InstantAndId
      ((PatronQueryRepository.repository asciiQueryRuntime asciiCollation
        ⟨false, none⟩).openCursor asciiQueryRuntime 10 0 (some (overflowingCursor
          ((PatronQueryRepository.repository asciiQueryRuntime asciiCollation
            ⟨false, none⟩).scope asciiQueryRuntime)))) := by
  refine ⟨not_validationOnly ?_, not_validationOnly ?_⟩
  · decide +kernel
  · decide +kernel

/-- The first cursor, asked of the loans of a patron: it is hostile there too. -/
theorem client_cursors_validated_unhashable :
    ¬ValidationOnly InstantAndId
      ((LoanQueryRepository.repository asciiQueryRuntime asciiCollation
        ⟨py "p1", true⟩).openCursor asciiQueryRuntime 10 0 (some (unhashableCursor
          ((LoanQueryRepository.repository asciiQueryRuntime asciiCollation
            ⟨py "p1", true⟩).scope asciiQueryRuntime)))) := by
  have hloans := (client_cursors_validated asciiQueryRuntime asciiCollation 10 0 (by decide)
    (unhashableCursor ((LoanQueryRepository.repository asciiQueryRuntime asciiCollation
      ⟨py "p1", true⟩).scope asciiQueryRuntime))).2.2 ⟨py "p1", true⟩
  rw [hloans, not_not]
  exact ⟨rfl, by decide +kernel, by decide +kernel⟩

end LibrarySystem
