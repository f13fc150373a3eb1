import LibrarySystem.Events.Registry
import LibrarySystem.Persistence.Models
import LibrarySystem.Projection.ElasticsearchSync

/-!
# Read models

What the query side answers with.  A read model is converted from a database row, or
hydrated from the entries of a document, in which an instant may still be a text.
-/

namespace LibrarySystem

open Result

/-! ## ISO-8601 of any datetime -/

/-- The wall-clock reading without an offset. -/
def wallText (wall : Fin wallSpan) : PyStr :=
  let micros := wall.val % 1000000
  let seconds := wall.val / 1000000
  let ymd := ordToYmd (seconds / 86400)
  padDigits 4 ymd.1 ++ py "-" ++ padDigits 2 ymd.2.1 ++ py "-" ++
    padDigits 2 ymd.2.2 ++ py "T" ++ padDigits 2 (seconds / 3600 % 24) ++
    py ":" ++ padDigits 2 (seconds / 60 % 60) ++ py ":" ++
    padDigits 2 (seconds % 60) ++
    (if micros = 0 then [] else py "." ++ padDigits 6 micros)

/-- `±HH:MM[:SS[.ffffff]]` -/
def offsetText (offset : UtcOffset) : PyStr :=
  let magnitude := offset.micros.natAbs
  let micros := magnitude % 1000000
  let seconds := magnitude / 1000000
  (if offset.micros < 0 then py "-" else py "+") ++ padDigits 2 (seconds / 3600) ++
    py ":" ++ padDigits 2 (seconds / 60 % 60) ++
    (if seconds % 60 = 0 ∧ micros = 0 then []
      else py ":" ++ padDigits 2 (seconds % 60) ++
        (if micros = 0 then [] else py "." ++ padDigits 6 micros))

/-- `value.isoformat()` -/
def DateTime.isoformat (value : DateTime) : PyStr :=
  wallText value.wall ++ value.utcoffset.elim [] offsetText

@[simp] theorem DateTime.isoformat_ofUtc (t : UtcDateTime) :
    (DateTime.ofUtc t).isoformat = LibrarySystem.isoformat t := by
  have hoffset : offsetText .zero = py "+00:00" := by decide
  simp only [DateTime.isoformat, DateTime.ofUtc, Option.elim_some, hoffset]
  rfl

/-- `value.replace("Z", "+00:00")` -/
def replaceZulu (value : PyStr) : PyStr :=
  value.flatMap fun c => if c.val = 0x5A then py "+00:00" else [c]

theorem replaceZulu_eq_self {value : PyStr} (hvalue : ∀ c ∈ value, c.val ≠ 0x5A) :
    replaceZulu value = value := by
  induction value with
  | nil => rfl
  | cons c rest ih =>
      have hrest := ih fun d hd => hvalue d (List.mem_cons_of_mem c hd)
      unfold replaceZulu at hrest ⊢
      rw [List.flatMap_cons, if_neg (hvalue c List.mem_cons_self), hrest]
      rfl

/-- The characters of a UTC datetime's text. -/
theorem isoformat_all {p : CodePoint → Bool} (hdigit : ∀ n, p (digit n) = true)
    (hmarks : (py "-T:.+0").all p = true) (t : UtcDateTime) : (isoformat t).all p = true := by
  have hpad : ∀ width n, (padDigits width n).all p = true := by
    intro width
    induction width with
    | zero => exact fun _ => rfl
    | succ width ih =>
        intro n
        rw [padDigits, List.all_append, ih]
        simp [hdigit]
  have hmark : ∀ mark : PyStr, mark.all (fun c => (py "-T:.+0").contains c) = true →
      mark.all p = true := by
    intro mark hmem
    rw [List.all_eq_true] at hmarks hmem ⊢
    exact fun c hc => hmarks c (List.contains_iff_mem.mp (hmem c hc))
  unfold isoformat
  simp only [List.all_append, hpad, hmark (py "-") (by decide), hmark (py "T") (by decide),
    hmark (py ":") (by decide), hmark (py "+00:00") (by decide), Bool.and_true, Bool.true_and]
  split
  · rfl
  · rw [List.all_append, hpad, hmark (py ".") (by decide)]
    rfl

/-- The text of a UTC datetime has no `Z` to replace. -/
theorem replaceZulu_isoformat (t : UtcDateTime) : replaceZulu (isoformat t) = isoformat t := by
  apply replaceZulu_eq_self
  have hnot : ∀ n, decide ((digit n).val ≠ 0x5A) = true := by
    intro n
    have hval : (digit n).val = 0x30 + n % 10 := Json.digit_val n
    rw [decide_eq_true_eq, hval]
    omega
  have hall := isoformat_all (p := fun c => decide (c.val ≠ 0x5A)) hnot (by decide) t
  rw [List.all_eq_true] at hall
  exact fun c hc => of_decide_eq_true (hall c hc)

/-! ## The interpreter of the query side -/

/-- The operations of the interpreter that only the query side uses. -/
structure QueryRuntime extends PythonRuntime where
  /-- `str(value)` -/
  str : PyValue → PyStr
  str_str : ∀ s, str (.str s) = s
  /-- `datetime.fromtimestamp(value / 1_000, tz=timezone.utc)`, `none` for `OverflowError`,
  `OSError` and `ValueError` -/
  fromMillis : ℤ → Option UtcDateTime
  fromFloatMillis : BitVec 64 → Option UtcDateTime
  /-- No character is lowered to nothing. -/
  lower_ne_nil : ∀ s, s ≠ [] → lower s ≠ []
  sha256_length : ∀ data, (sha256 data).length = 64
  sha256_hex : ∀ data, (sha256 data).all isHexDigit = true
  /-- `float(repr(value))`, which gives the value back except for the payload of a NaN. -/
  readFloat : BitVec 64 → BitVec 64
  floats_read : Json.FloatsRead parseFloat floatRepr readFloat

theorem asciiRuntime_floats_read :
    Json.FloatsRead asciiRuntime.parseFloat asciiRuntime.floatRepr (fun _ => 0) := by
  intro bits fuel rest hrest
  have htake : rest.takeWhile CodePoint.isDigit = [] ∧ rest.dropWhile CodePoint.isDigit = rest := by
    cases rest with
    | nil => exact ⟨rfl, rfl⟩
    | cons c tail =>
        have hc := (hrest c tail rfl).1
        simp [hc]
  have hfraction : Json.scanFraction (⟨0x2E, by decide⟩ :: digit 0 :: rest) =
      ([⟨0x2E, by decide⟩, digit 0], rest) := by
    have hdigit : (digit 0).isDigit = true := by decide
    simp [Json.scanFraction, hdigit, htake.1, htake.2]
  change Json.scanUnsigned asciiRuntime.parseFloat false
    (digit 0 :: ⟨0x2E, by decide⟩ :: digit 0 :: rest) = _
  have hinteger : Json.scanIntegerPart (digit 0 :: ⟨0x2E, by decide⟩ :: digit 0 :: rest) =
      some ([digit 0], ⟨0x2E, by decide⟩ :: digit 0 :: rest) := rfl
  unfold Json.scanUnsigned
  simp only [hinteger, Option.bind_eq_bind, Option.bind_some, hfraction,
    Json.scanExponent_delimited hrest]
  rfl

/-- An interpreter of the query side on which closed terms can be evaluated. -/
def asciiQueryRuntime : QueryRuntime where
  toPythonRuntime := asciiRuntime
  str := fun value =>
    match value with
    | .str text => text
    | _ => py "..."
  str_str := fun _ => rfl
  fromMillis := fun millis =>
    let micros := 62135596800000000 + millis * 1000
    if 0 ≤ micros ∧ micros < wallSpan then some (Fin.ofNat wallSpan micros.toNat) else none
  fromFloatMillis := fun _ => none
  lower_ne_nil := fun _ hs => mt List.map_eq_nil_iff.mp hs
  sha256_length := fun _ => padHex_length _ _
  sha256_hex := foldedDigest_all
  readFloat := fun _ => 0
  floats_read := asciiRuntime_floats_read

/-- What a request of the query side raises. -/
inductive QueryException
  | invalidPagination (message : PyStr)
  | searchEngine (message : PyStr)
  | circuitBreakerOpen
  | keyError (key : PyStr)
  | valueError (message : PyStr)
  | typeError (message : PyStr)
  | overflowError
  | other (className : PyStr)
deriving DecidableEq

/-! ## Hydration -/

section Hydration

variable (rt : QueryRuntime)

/-- `_optional_datetime` -/
def optionalDatetime (value : PyValue) (field : PyStr) :
    Except QueryException (Option DateTime) :=
  match value with
  | .none => .ok none
  | .datetime value => .ok (some value)
  | .str value =>
      match rt.fromisoformat (replaceZulu value) with
      | some value => .ok (some value)
      | none => .error (.valueError (field ++ py " is not an ISO-8601 datetime"))
  | _ => .error (.valueError (field ++ py " must be a datetime or ISO-8601 string"))

/-- `_required_datetime` -/
def requiredDatetime (value : PyValue) (field : PyStr) : Except QueryException DateTime := do
  match ← optionalDatetime rt value field with
  | some value => pure value
  | none => throw (.valueError (field ++ py " must be a datetime"))

/-- `value[key]` -/
def getItem (values : List (PyStr × PyValue)) (key : PyStr) : Except QueryException PyValue :=
  match PyValue.lookup key values with
  | some value => .ok value
  | none => .error (.keyError key)

/-- `value.get(key, default)` -/
def getOr (values : List (PyStr × PyValue)) (key : PyStr) (default : PyValue) : PyValue :=
  (PyValue.lookup key values).getD default

/-- `bool(value)` -/
def PyValue.truthy : PyValue → Bool
  | .none => false
  | .bool value => value
  | .int value => value ≠ 0
  | .float bits => bits.toNat ≠ 0 ∧ bits.toNat ≠ 2 ^ 63
  | .str value => value ≠ []
  | .datetime _ => true
  | .list items => !items.isEmpty
  | .dict entries => !entries.isEmpty
  | .object _ => true

structure BookReadModel where
  id : PyStr
  title : PyStr
  author : PyStr
  is_borrowed : Bool
  status : PyStr
  borrowed_at : Option DateTime
  return_due_date : Option DateTime
deriving DecidableEq

/-- `BookReadModel.from_mapping` -/
def BookReadModel.fromMapping (value : List (PyStr × PyValue)) :
    Except QueryException BookReadModel := do
  let status := rt.str (getOr value (py "status") (.str (py "available")))
  let id ← getItem value (py "id")
  let borrowedAt ← optionalDatetime rt (PyValue.get (py "borrowed_at") value)
    (py "borrowed_at")
  let returnDueDate ← optionalDatetime rt (PyValue.get (py "return_due_date") value)
    (py "return_due_date")
  pure
    { id := rt.str id
      title := rt.str (getOr value (py "title") (.str []))
      author := rt.str (getOr value (py "author") (.str []))
      is_borrowed := status = py "borrowed"
      status := status
      borrowed_at := borrowedAt
      return_due_date := returnDueDate }

/-- The reason of a suspension is passed on as it is found. -/
structure PatronReadModel where
  id : PyStr
  name : PyStr
  first_name : PyStr
  last_name : PyStr
  email : PyStr
  membership_tier : PyStr
  is_suspended : Bool
  suspended_reason : PyValue
  registered_at : DateTime

/-- `PatronReadModel.from_mapping` -/
def PatronReadModel.fromMapping (value : List (PyStr × PyValue)) :
    Except QueryException PatronReadModel := do
  let id ← getItem value (py "id")
  let registeredAt ← requiredDatetime rt (PyValue.get (py "registered_at") value)
    (py "registered_at")
  pure
    { id := rt.str id
      name := rt.str (getOr value (py "name") (getOr value (py "full_name") (.str [])))
      first_name := rt.str (getOr value (py "first_name") (.str []))
      last_name := rt.str (getOr value (py "last_name") (.str []))
      email := rt.str (getOr value (py "email") (.str []))
      membership_tier := rt.str (getOr value (py "membership_tier") (.str (py "regular")))
      is_suspended := (getOr value (py "is_suspended") (.bool false)).truthy
      suspended_reason := PyValue.get (py "suspended_reason") value
      registered_at := registeredAt }

structure LoanReadModel where
  id : PyStr
  patron_id : PyStr
  patron_email : PyStr
  catalog_book_id : PyStr
  book_title : PyStr
  borrowed_at : DateTime
  due_date : DateTime
  returned_at : Option DateTime
  status : PyStr
deriving DecidableEq

/-- `LoanReadModel.from_mapping` -/
def LoanReadModel.fromMapping (value : List (PyStr × PyValue)) :
    Except QueryException LoanReadModel := do
  let id ← getItem value (py "id")
  let borrowedAt ← requiredDatetime rt (PyValue.get (py "borrowed_at") value) (py "borrowed_at")
  let dueDate ← requiredDatetime rt (PyValue.get (py "due_date") value) (py "due_date")
  let returnedAt ← optionalDatetime rt (PyValue.get (py "returned_at") value) (py "returned_at")
  pure
    { id := rt.str id
      patron_id := rt.str (getOr value (py "patron_id") (.str []))
      patron_email := rt.str (getOr value (py "patron_email") (.str []))
      catalog_book_id := rt.str (getOr value (py "catalog_book_id") (.str []))
      book_title := rt.str (getOr value (py "book_title") (.str []))
      borrowed_at := borrowedAt
      due_date := dueDate
      returned_at := returnedAt
      status := rt.str (getOr value (py "status") (.str [])) }

/-- A text that `fromisoformat` reads is hydrated as what it reads. -/
theorem optionalDatetime_text {text : PyStr} {value : DateTime}
    (htext : rt.fromisoformat (replaceZulu text) = some value) (field : PyStr) :
    optionalDatetime rt (.str text) field = .ok (some value) := by
  simp only [optionalDatetime, htext]

theorem requiredDatetime_text {text : PyStr} {value : DateTime}
    (htext : rt.fromisoformat (replaceZulu text) = some value) (field : PyStr) :
    requiredDatetime rt (.str text) field = .ok value := by
  unfold requiredDatetime
  rw [optionalDatetime_text rt htext, ok_bind]
  rfl

end Hydration

/-! ## Conversion of rows -/

/-- `BookQueryRepository._to_read_model_from_db` -/
def BookModel.toReadModel (row : BookModel) : BookReadModel where
  id := row.id
  title := row.title
  author := row.author
  is_borrowed := row.status = py "borrowed"
  status := row.status
  borrowed_at := row.borrowed_at.map .ofUtc
  return_due_date := row.return_due_date.map .ofUtc

/-- `PatronQueryRepository._to_read_model_from_db` -/
def PatronModel.toReadModel (patron : PatronModel) : PatronReadModel where
  id := patron.id
  name := patron.first_name ++ py " " ++ patron.last_name
  first_name := patron.first_name
  last_name := patron.last_name
  email := patron.email
  membership_tier := patron.membership_tier
  is_suspended := patron.is_suspended
  suspended_reason := patron.suspended_reason.elim .none .str
  registered_at := .ofUtc patron.registered_at

/-- `LoanQueryRepository._to_read_model_from_db` -/
def LoanModel.toReadModel (loan : LoanModel) : LoanReadModel where
  id := loan.id
  patron_id := loan.patron_id
  patron_email := loan.patron_email
  catalog_book_id := loan.catalog_book_id
  book_title := loan.book_title
  borrowed_at := .ofUtc loan.borrowed_at
  due_date := .ofUtc loan.due_date
  returned_at := loan.returned_at.map .ofUtc
  status := loan.status

/-! ## Conversion of documents -/

/-- `BookQueryRepository._to_read_model_from_es` -/
def bookFromHit (rt : QueryRuntime) (hit : Record) : Except QueryException BookReadModel :=
  let status := hit.get (py "status") (.str (py "available"))
  BookReadModel.fromMapping rt (Json.toEntries ((py "status", status) :: hit))

/-- `PatronQueryRepository._to_read_model_from_es` -/
def patronFromHit (rt : QueryRuntime) (hit : Record) : Except QueryException PatronReadModel :=
  PatronReadModel.fromMapping rt (Json.toEntries hit)

/-- `LoanQueryRepository._to_read_model_from_es` -/
def loanFromHit (rt : QueryRuntime) (hit : Record) : Except QueryException LoanReadModel :=
  LoanReadModel.fromMapping rt (Json.toEntries hit)

end LibrarySystem
