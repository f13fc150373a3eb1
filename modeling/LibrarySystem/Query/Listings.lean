import LibrarySystem.Foundation.Keyset
import LibrarySystem.Foundation.Like
import LibrarySystem.Query.Pagination

/-!
# Listings from the database

The three listings as PostgreSQL serves them: filters, a keyset predicate and an order
that agree, and the cursor of the next page.
-/

namespace LibrarySystem

open Result

/-! ## Substring search -/

/-- `value.replace(old, new)` for an `old` of one character. -/
def PyStr.replaceChar (old : CodePoint) (new value : PyStr) : PyStr :=
  value.flatMap fun c => if c = old then new else [c]

def percentSign : CodePoint := ⟨0x25, by decide⟩

def underscore : CodePoint := ⟨0x5F, underscore_valid⟩

/-- `_contains_pattern` -/
def containsPattern (value : PyStr) : PyStr :=
  let escaped := PyStr.replaceChar underscore (py "\\_")
    (PyStr.replaceChar percentSign (py "\\%")
      (PyStr.replaceChar Json.backslash (py "\\\\") value))
  py "%" ++ escaped ++ py "%"

/-- `LIKE` with `escape="\\"` -/
def sqlWildcards : Like.Wildcards CodePoint where
  sequence := percentSign
  single := underscore
  escape := Json.backslash
  sequence_ne_escape := by decide

/-- `text LIKE pattern ESCAPE '\'` -/
def sqlLike (pattern text : PyStr) : Option Bool := Like.like sqlWildcards pattern text

/-- The three replacements escape each character once: backslashes go first, so those that
the others write are not escaped again. -/
theorem replaceChar_eq_escaped (value : PyStr) :
    PyStr.replaceChar underscore (py "\\_")
        (PyStr.replaceChar percentSign (py "\\%")
          (PyStr.replaceChar Json.backslash (py "\\\\") value)) =
      value.flatMap (Like.escaped sqlWildcards) := by
  have hbackslash : py "\\\\" = [Json.backslash, Json.backslash] := by decide
  have hpercent : py "\\%" = [Json.backslash, percentSign] := by decide
  have hunderscore : py "\\_" = [Json.backslash, underscore] := by decide
  have hne : Json.backslash ≠ percentSign ∧ Json.backslash ≠ underscore ∧
      percentSign ≠ underscore := by decide
  simp only [PyStr.replaceChar, List.flatMap_assoc]
  refine congrArg (fun escape => List.flatMap escape value) (funext fun c => ?_)
  by_cases hfirst : c = Json.backslash
  · subst hfirst
    simp [hbackslash, hne.1, hne.2.1, Like.escaped, sqlWildcards]
  · by_cases hsecond : c = percentSign
    · subst hsecond
      simp [hpercent, hne.1.symm, hne.2.1, hne.2.2, Like.escaped, sqlWildcards]
    · by_cases hthird : c = underscore
      · subst hthird
        simp [hunderscore, hne.2.1.symm, hne.2.2.symm, Like.escaped, sqlWildcards]
      · simp [hfirst, hsecond, hthird, Like.escaped, sqlWildcards]

/-- The pattern of a search text matches the texts that the search text occurs in. -/
theorem containsPattern_literal (value text : PyStr) :
    sqlLike (containsPattern value) text = some (decide (value <:+: text)) := by
  have hpattern : containsPattern value =
      sqlWildcards.sequence ::
        (value.flatMap (Like.escaped sqlWildcards) ++ [sqlWildcards.sequence]) := by
    unfold containsPattern
    rw [replaceChar_eq_escaped]
    rfl
  rw [sqlLike, hpattern, Like.like_infix]

example : sqlLike (containsPattern (py "\\%_")) (py "50\\%_off") = some true := by decide

/-! ## A page from the database -/

/-- The locale of the database: how it folds case, and where a text stands in its order,
in which no two texts are equal. -/
structure Collation (Text : Type) extends SqlText where
  key : PyStr → Text
  key_injective : Function.Injective key

/-- `text ILIKE pattern ESCAPE '\'`; a pattern the server refuses matches nothing here. -/
def ilike (db : SqlText) (text pattern : PyStr) : Bool :=
  sqlLike (db.lower pattern) (db.lower text) = some true

/-- What the three listings do not share: the conditions of the filters and of a cursor,
the order, what becomes of a row, and the sort values of the last item. -/
structure Listing (Row Item : Type) where
  selects : Row → Bool
  after : PyValue × PyValue → Except QueryException (Row → Bool)
  precedes : Row → Row → Bool
  item : Row → Item
  sortValues : Item → PyValue × PyValue

namespace Listing

variable {Row Item : Type} (listing : Listing Row Item)

/-- The rows of the SELECT.  A filter text that PostgreSQL does not take (NUL, surrogates) is
compared here like any other, where the server refuses the statement. -/
def select (limit offset : ℤ) (cursorValues : Option (PyValue × PyValue)) (rows : List Row) :
    Except QueryException (List Row) := do
  let remaining ←
    match cursorValues with
    | none => pure (rows.filter listing.selects)
    | some values => do
        let after ← listing.after values
        pure ((rows.filter listing.selects).filter after)
  pure (((remaining.mergeSort listing.precedes).drop offset.toNat).take limit.toNat)

theorem mem_of_select {limit offset : ℤ} {cursorValues : Option (PyValue × PyValue)}
    {rows found : List Row}
    (hselect : listing.select limit offset cursorValues rows = .ok found) :
    ∀ row ∈ found, row ∈ rows := by
  have hpage : ∀ remaining : List Row,
      ∀ row ∈ ((remaining.mergeSort listing.precedes).drop offset.toNat).take limit.toNat,
        row ∈ remaining := by
    intro remaining row hrow
    exact List.mem_mergeSort.mp (List.mem_of_mem_drop (List.mem_of_mem_take hrow))
  intro row hrow
  unfold select at hselect
  cases cursorValues with
  | none =>
      cases hselect
      exact (List.mem_filter.mp (hpage _ row hrow)).1
  | some values =>
      dsimp only at hselect
      obtain ⟨after, -, hselect⟩ := bind_eq_ok.mp hselect
      cases hselect
      exact (List.mem_filter.mp (List.mem_filter.mp (hpage _ row hrow)).1).1

/-- The cursor after a full page. -/
def nextCursor (rt : PythonRuntime) (limit : ℤ) (scope : PyStr) (items : List Item) :
    Except QueryException (Option PyStr) :=
  match items.getLast? with
  | some last =>
      if items.length = limit then
        some <$> encodeCursor rt scope
          [(listing.sortValues last).1, (listing.sortValues last).2] (some .postgresql)
      else pure none
  | none => pure none

/-- `_find_page_from_db` and `_find_by_patron_page_from_db` -/
def findPageFromDb (rt : PythonRuntime) (limit offset : ℤ)
    (cursorValues : Option (PyValue × PyValue)) (scope : PyStr) (rows : List Row) :
    Except QueryException (QueryPage Item) := do
  let found ← listing.select limit offset cursorValues rows
  let items := found.map listing.item
  let next_cursor ← listing.nextCursor rt limit scope items
  pure ⟨items, next_cursor, none⟩

end Listing

/-- An instant that the database compares its own with.  No caller gets here with a naive one,
which the driver refuses with an error of its own. -/
def bindTimestamp (value : DateTime) : Except QueryException UtcDateTime :=
  match value.utcoffset with
  | none => .error (.typeError (py "can't subtract offset-naive and offset-aware datetimes"))
  | some offset => (DateTime.astimezoneUtc value.wall offset).mapError fun _ => .overflowError

section Repositories

variable {Text : Type} [LinearOrder Text] (rt : QueryRuntime) (db : Collation Text)

/-! ### Books -/

structure BookFilters where
  only_available : Bool
  only_borrowed : Bool
  author_contains : Option PyStr
  title_contains : Option PyStr

/-- The text filters apply when they are not empty. -/
def containsFilter (value : Option PyStr) (column : PyStr) : Bool :=
  value.all fun value => value = [] || ilike db.toSqlText column (containsPattern value)

def BookFilters.selects (filters : BookFilters) (row : BookModel) : Bool :=
  containsFilter db filters.title_contains row.title &&
    containsFilter db filters.author_contains row.author &&
    (if filters.only_available then row.status = py "available"
      else if filters.only_borrowed then row.status = py "borrowed"
      else true)

/-- `BookQueryRepository._find_page_from_db` -/
def BookQueryRepository.listing (filters : BookFilters) : Listing BookModel BookReadModel where
  selects := filters.selects db
  after values :=
    let title := rt.str values.1
    let book_id := rt.str values.2
    .ok fun row => db.key title < db.key (db.lower row.title) ||
      (db.lower row.title = title && db.key book_id < db.key row.id)
  precedes left right :=
    db.key (db.lower left.title) < db.key (db.lower right.title) ||
      (db.lower left.title = db.lower right.title && db.key left.id ≤ db.key right.id)
  item := BookModel.toReadModel
  sortValues item := (.str (rt.lower item.title), .str item.id)

/-! ### Patrons -/

structure PatronFilters where
  only_suspended : Bool
  membership_tier : Option PyStr

def PatronFilters.selects (filters : PatronFilters) (row : PatronModel) : Bool :=
  (!filters.only_suspended || row.is_suspended) &&
    filters.membership_tier.all fun tier => tier = [] || row.membership_tier = tier

/-- `PatronQueryRepository._find_page_from_db` -/
def PatronQueryRepository.listing (filters : PatronFilters) :
    Listing PatronModel PatronReadModel where
  selects := filters.selects
  after values := do
    let registered_at ← cursorDatetime rt values.1
    let registered_at ← bindTimestamp registered_at
    let patron_id := rt.str values.2
    pure fun row => registered_at < row.registered_at ||
      (row.registered_at = registered_at && db.key patron_id < db.key row.id)
  precedes left right :=
    left.registered_at < right.registered_at ||
      (left.registered_at = right.registered_at && db.key left.id ≤ db.key right.id)
  item := PatronModel.toReadModel
  sortValues item := (.datetime item.registered_at, .str item.id)

/-! ### The loans of a patron -/

structure LoanFilters where
  patron_id : PyStr
  only_active : Bool

/-- `TERMINAL_STATUSES` -/
def terminalStatuses : List PyStr := [py "returned", py "cancelled"]

def LoanFilters.selects (filters : LoanFilters) (row : LoanModel) : Bool :=
  row.patron_id = filters.patron_id &&
    (!filters.only_active || row.status ∉ terminalStatuses)

/-- `LoanQueryRepository._find_by_patron_page_from_db` -/
def LoanQueryRepository.listing (filters : LoanFilters) : Listing LoanModel LoanReadModel where
  selects := filters.selects
  after values := do
    let borrowed_at ← cursorDatetime rt values.1
    let borrowed_at ← bindTimestamp borrowed_at
    let loan_id := rt.str values.2
    pure fun row => row.borrowed_at < borrowed_at ||
      (row.borrowed_at = borrowed_at && db.key loan_id < db.key row.id)
  precedes left right :=
    right.borrowed_at < left.borrowed_at ||
      (left.borrowed_at = right.borrowed_at && db.key left.id ≤ db.key right.id)
  item := LoanModel.toReadModel
  sortValues item := (.datetime item.borrowed_at, .str item.id)

end Repositories

end LibrarySystem
