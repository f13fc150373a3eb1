import LibrarySystem.Python.UrlsafeBase64
import LibrarySystem.Query.ReadModels

/-!
# Pagination

Offsets within a window, and the opaque cursors of a listing.  A cursor is the JSON of
the query's scope, the sort values of the last item and the backend that served it, in
base64 for URLs; the decoder looks at every part of it again.
-/

namespace LibrarySystem

open Result

def maxPageSize : ℤ := 1000

def maxResultWindow : ℤ := 10000

def maxCursorLength : ℕ := 1024

/-- One page and the cursor of the next one. -/
structure QueryPage (Item : Type) where
  items : List Item
  next_cursor : Option PyStr
  total : Option Json

/-- `validate_pagination` -/
def validatePagination (limit offset : ℤ) (cursor : Option PyStr) :
    Except QueryException Unit :=
  if limit < 1 ∨ maxPageSize < limit then
    .error (.invalidPagination (py "limit must be between 1 and 1000"))
  else if offset < 0 then
    .error (.invalidPagination (py "offset must be non-negative"))
  else if cursor.isSome ∧ offset ≠ 0 then
    .error (.invalidPagination (py "cursor and non-zero offset are mutually exclusive"))
  else if cursor.any fun text => decide (text = [] ∨ maxCursorLength < text.length) then
    .error (.invalidPagination (py "invalid cursor"))
  else if cursor = none ∧ maxResultWindow < offset + limit then
    .error (.invalidPagination
      (py "offset + limit must not exceed 10000; use a cursor"))
  else .ok ()

/-- `CURSOR_BACKENDS` -/
inductive Backend
  | elasticsearch
  | postgresql
deriving DecidableEq

namespace Backend

def name : Backend → PyStr
  | elasticsearch => py "elasticsearch"
  | postgresql => py "postgresql"

/-- Membership of a text. -/
def ofName (text : PyStr) : Option Backend :=
  [elasticsearch, postgresql].find? fun backend => backend.name = text

@[simp] theorem ofName_name (backend : Backend) : ofName backend.name = some backend := by
  cases backend <;> decide

theorem name_isAscii (backend : Backend) : PyStr.isAscii backend.name = true := by
  cases backend <;> decide

end Backend

/-! ## Python objects as JSON -/

/-- The `default` of `json.dumps`, for datetimes and for what it refuses. -/
structure JsonDefault where
  datetime : DateTime → Json
  unsupported : PyStr → PyStr

mutual

/-- What `json.dumps(value, default=default)` writes. -/
def PyValue.toJson (default : JsonDefault) : PyValue → Except QueryException Json
  | .none => .ok .null
  | .bool value => .ok (.bool value)
  | .int value => .ok (.int value)
  | .float bits => .ok (.float bits)
  | .str value => .ok (.str value)
  | .datetime value => .ok (default.datetime value)
  | .list items => do
      let items ← PyValue.toJsonItems default items
      pure (.arr items)
  | .dict entries => do
      let members ← PyValue.toJsonEntries default entries
      pure (.obj members)
  | .object className => .error (.typeError (default.unsupported className))

def PyValue.toJsonItems (default : JsonDefault) :
    List PyValue → Except QueryException (List Json)
  | [] => .ok []
  | item :: rest => do
      let first ← PyValue.toJson default item
      let tail ← PyValue.toJsonItems default rest
      pure (first :: tail)

def PyValue.toJsonEntries (default : JsonDefault) :
    List (PyStr × PyValue) → Except QueryException (List (PyStr × Json))
  | [] => .ok []
  | (name, value) :: rest => do
      let first ← PyValue.toJson default value
      let tail ← PyValue.toJsonEntries default rest
      pure ((name, first) :: tail)

end

/-- `_json_default` of the cursors. -/
def cursorDefault : JsonDefault where
  datetime := fun value => .str value.isoformat
  unsupported := fun className => py "Unsupported cursor value: " ++ className

/-! ## Cursors -/

/-- `cursor_scope`; the canonical text is ASCII. -/
def cursorScope (rt : PythonRuntime) (name : PyStr) (filters : List (PyStr × Json)) : PyStr :=
  let canonical := Json.render rt.floatRepr .compact
    (Json.sortKeys (.obj [(py "name", .str name), (py "filters", .obj filters)]))
  (rt.sha256 ((PyStr.encodeUtf8 canonical).getD [])).take 24

def cursorEnvelope (scope : PyStr) (sort : List Json) (backend : Option Backend) : Json :=
  .obj ([(py "v", .int 1), (py "scope", .str scope), (py "sort", .arr sort)] ++
    (backend.map fun backend => (py "backend", Json.str backend.name)).toList)

/-- The text of a cursor before it is encoded; it is ASCII. -/
def cursorPayload (rt : PythonRuntime) (scope : PyStr) (sort : List Json)
    (backend : Option Backend) : PyStr :=
  Json.render rt.floatRepr .compact (Json.sortKeys (cursorEnvelope scope sort backend))

/-- `encode_cursor` -/
def encodeCursor (rt : PythonRuntime) (scope : PyStr) (sortValues : List PyValue)
    (backend : Option Backend) : Except QueryException PyStr := do
  let sort ← PyValue.toJsonItems cursorDefault sortValues
  let payload := (PyStr.encodeUtf8 (cursorPayload rt scope sort backend)).getD []
  pure ((urlsafeB64encode payload).rdropWhile (· == padding))

/-- The padding, the decoding and `json.loads`; `none` is one of the three exceptions. -/
def loadCursor (rt : PythonRuntime) (cursor : PyStr) : Option Json := do
  let data ← urlsafeB64decode
    (cursor ++ List.replicate ((4 - cursor.length % 4) % 4) padding)
  let text ← decodeUtf8 data
  Json.loads rt.parseFloat text

/-- The sort values of an envelope that belongs to the query. -/
def envelopeSort (expectedScope : PyStr) (expectedValues : ℕ)
    (members : List (PyStr × Json)) : Option (List Json) :=
  let get := fun key => (Json.lookup key members).getD .null
  if members.any fun member =>
      member.1 ∉ [py "v", py "scope", py "sort", py "backend"] then none
  else if equalsEnvelopeVersion (get (py "v")) then
    match get (py "scope"), get (py "sort") with
    | .str scope, .arr sort =>
        if scope = expectedScope ∧ sort.length = expectedValues then some sort else none
    | _, _ => none
  else none

/-- `backend not in CURSOR_BACKENDS`, which has to hash the value. -/
def envelopeBackend : Json → Except QueryException (Option Backend)
  | .null => .ok none
  | .arr _ => .error (.typeError (py "unhashable type: 'list'"))
  | .obj _ => .error (.typeError (py "unhashable type: 'dict'"))
  | .str name =>
      match Backend.ofName name with
      | some backend => .ok (some backend)
      | none => .error (.invalidPagination (py "cursor has an unsupported backend"))
  | _ => .error (.invalidPagination (py "cursor has an unsupported backend"))

/-- `decode_cursor_with_backend` -/
def decodeCursorWithBackend (rt : PythonRuntime) (cursor expectedScope : PyStr)
    (expectedValues : ℕ) : Except QueryException (List Json × Option Backend) :=
  if cursor = [] ∨ maxCursorLength < cursor.length then
    .error (.invalidPagination (py "invalid cursor"))
  else
    match loadCursor rt cursor with
    | none => .error (.invalidPagination (py "invalid cursor"))
    | some (.obj members) =>
        match envelopeSort expectedScope expectedValues members with
        | none => .error (.invalidPagination (py "cursor does not match this query"))
        | some sort => do
            let backend ← envelopeBackend ((Json.lookup (py "backend") members).getD .null)
            pure (sort, backend)
    | some _ => .error (.invalidPagination (py "cursor does not match this query"))

/-- `cursor_string`; without a pattern every text matches. -/
def cursorString (value : Json) (field : PyStr) (maxLength : ℕ)
    (pattern : PyStr → Bool) : Except QueryException PyStr :=
  let invalid := QueryException.invalidPagination (py "cursor contains an invalid " ++ field)
  match value with
  | .str text =>
      if text = [] ∨ maxLength < text.length then .error invalid
      else if pattern text then .ok text else .error invalid
  | _ => .error invalid

/-- `[A-Za-z0-9][A-Za-z0-9_-]*` -/
def cursorIdPattern (text : PyStr) : Bool :=
  PyStr.matchesHeadTail CodePoint.isAlphanumeric isReferenceTail text

/-- `_cursor_datetime` -/
def cursorDatetime (rt : QueryRuntime) (value : PyValue) : Except QueryException DateTime :=
  let invalid := QueryException.invalidPagination (py "cursor contains an invalid datetime")
  match value with
  | .datetime value => .ok value
  | .str text =>
      match rt.fromisoformat (replaceZulu text) with
      | none => .error invalid
      | some value =>
          match value.utcoffset with
          | none => .ok (.ofUtc value.wall)
          | some offset =>
              -- `astimezone` raises `OverflowError`, which is no `ValueError`
              ((DateTime.astimezoneUtc value.wall offset).map .ofUtc).mapError
                fun _ => .overflowError
  | .int millis => (rt.fromMillis millis).elim (.error invalid) fun t => .ok (.ofUtc t)
  | .float bits => (rt.fromFloatMillis bits).elim (.error invalid) fun t => .ok (.ofUtc t)
  | _ => .error invalid

/-! ## What a cursor carries -/

mutual

theorem PyValue.toJson_toValue (default : JsonDefault) (value : Json) :
    (Json.toValue value).toJson default = .ok value := by
  cases value with
  | arr items =>
      simp only [Json.toValue, PyValue.toJson, PyValue.toJsonItems_toValues default items]
      rfl
  | obj members =>
      simp only [Json.toValue, PyValue.toJson, PyValue.toJsonEntries_toEntries default members]
      rfl
  | null | bool _ | int _ | float _ | str _ => rfl

theorem PyValue.toJsonItems_toValues (default : JsonDefault) (items : List Json) :
    PyValue.toJsonItems default (Json.toValues items) = .ok items := by
  match items with
  | [] => rfl
  | item :: rest =>
      simp only [Json.toValues, PyValue.toJsonItems, PyValue.toJson_toValue default item,
        PyValue.toJsonItems_toValues default rest]
      rfl

theorem PyValue.toJsonEntries_toEntries (default : JsonDefault)
    (members : List (PyStr × Json)) :
    PyValue.toJsonEntries default (Json.toEntries members) = .ok members := by
  match members with
  | [] => rfl
  | (name, value) :: rest =>
      simp only [Json.toEntries, PyValue.toJsonEntries, PyValue.toJson_toValue default value,
        PyValue.toJsonEntries_toEntries default rest]
      rfl

end

section RoundTrip

variable (rt : QueryRuntime)

theorem isAscii_of_isHexDigit {c : CodePoint} (hc : isHexDigit c = true) : c.isAscii = true := by
  simp only [isHexDigit, CodePoint.isDigit, Bool.or_eq_true, Bool.and_eq_true,
    decide_eq_true_eq] at hc
  simp only [CodePoint.isAscii, decide_eq_true_eq]
  omega

theorem cursorScope_hex (name : PyStr) (filters : List (PyStr × Json)) :
    (cursorScope rt.toPythonRuntime name filters).length = 24 ∧
      (cursorScope rt.toPythonRuntime name filters).all isHexDigit = true := by
  unfold cursorScope
  constructor
  · rw [List.length_take, rt.sha256_length]
    rfl
  · have hhex := rt.sha256_hex
    simp only [List.all_eq_true] at hhex ⊢
    exact fun c hc => hhex _ c (List.mem_of_mem_take hc)

theorem cursorScope_isAscii (name : PyStr) (filters : List (PyStr × Json)) :
    PyStr.isAscii (cursorScope rt.toPythonRuntime name filters) = true := by
  have hhex := (cursorScope_hex rt name filters).2
  simp only [PyStr.isAscii, List.all_eq_true] at hhex ⊢
  exact fun c hc => isAscii_of_isHexDigit (hhex c hc)

theorem joinText_of_isAscii {text : PyStr} (htext : PyStr.isAscii text = true) :
    Json.joinText text = text :=
  (Json.joinText_eq_self_iff text).mpr (Json.hasSplitPair_of_isAscii htext)

theorem sortKeys_cursorEnvelope (scope : PyStr) (sort : List Json) (backend : Backend) :
    Json.sortKeys (cursorEnvelope scope sort (some backend)) =
      .obj [(py "backend", .str backend.name), (py "scope", .str scope),
        (py "sort", .arr (Json.sortItems sort)), (py "v", .int 1)] :=
  rfl

/-- A cursor is read back as the envelope it was written from. -/
theorem loadCursor_encodeCursor {scope : PyStr} (hscope : PyStr.isAscii scope = true)
    {sortValues : List PyValue} {backend : Backend} {cursor : PyStr}
    (hcursor : encodeCursor rt.toPythonRuntime scope sortValues (some backend) = .ok cursor) :
    ∃ sort, PyValue.toJsonItems cursorDefault sortValues = .ok sort ∧
      loadCursor rt.toPythonRuntime cursor =
        some (.obj [(py "backend", .str backend.name), (py "scope", .str scope),
          (py "sort", .arr (Json.rereadItems rt.readFloat (Json.sortItems sort))),
          (py "v", .int 1)]) ∧
      cursor.length =
        (4 * (cursorPayload rt.toPythonRuntime scope sort (some backend)).length + 2) / 3 := by
  obtain ⟨sort, hsort, hencode⟩ := bind_eq_ok.mp hcursor
  rw [pure_eq, Except.ok.injEq] at hencode
  refine ⟨sort, hsort, ?_⟩
  have hascii : PyStr.isAscii (cursorPayload rt.toPythonRuntime scope sort (some backend)) =
      true := Json.render_compact_isAscii rt.floatRepr_isAscii _
  obtain ⟨data, hdata, hlength⟩ := PyStr.encodeUtf8_of_isAscii hascii
  rw [hdata, Option.getD_some] at hencode
  obtain ⟨hdecode, hchars⟩ := urlsafeB64decode_encode data cursor hencode.symm
  constructor
  · unfold loadCursor
    rw [hdecode]
    simp only [Option.bind_eq_bind, Option.bind_some]
    rw [decodeUtf8_encodeUtf8 hdata, Option.bind_some]
    unfold cursorPayload
    rw [Json.loads_render_any rt.parseFloat rt.floatRepr Json.readable_compact _
      fun _ => rt.floats_read, sortKeys_cursorEnvelope]
    have hjoin : ∀ text : PyStr, PyStr.isAscii text = true → Json.joinText text = text :=
      fun _ => joinText_of_isAscii
    simp only [Json.reread, Json.rereadMembers, hjoin _ backend.name_isAscii, hjoin _ hscope,
      hjoin (py "backend") (by decide), hjoin (py "scope") (by decide),
      hjoin (py "sort") (by decide), hjoin (py "v") (by decide)]
    have hkeys : [py "backend", py "scope", py "sort", py "v"].Nodup := by decide
    exact congrArg (fun members => some (Json.obj members)) (Json.buildDict_eq_self hkeys)
  · rw [hchars, hlength]

end RoundTrip

end LibrarySystem
