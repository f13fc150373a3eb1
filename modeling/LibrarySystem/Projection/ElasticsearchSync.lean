import LibrarySystem.Python.Json

/-!
# From rows to documents

The projection consumer turns a change record into one write of a read model,
and the search client gives that write the version under which it is sent.  The
rebuild uses the same transforms on the rows it scans.
-/

namespace LibrarySystem

/-- A decoded JSON object. -/
abbrev Record := List (PyStr × Json)

/-- `data.get(key, default)` -/
def Record.get (data : Record) (key : PyStr) (default : Json) : Json :=
  (Json.lookup key data).getD default

/-- `bool(value)` -/
def Json.truthy : Json → Bool
  | .null => false
  | .bool value => value
  | .int value => value ≠ 0
  | .float bits => bits.toNat ≠ 0 ∧ bits.toNat ≠ 2 ^ 63
  | .str value => value ≠ []
  | .arr items => !items.isEmpty
  | .obj members => !members.isEmpty

/-- Conversions of the interpreter. -/
structure SearchRuntime where
  /-- `int(raw)`, `none` for `TypeError` and `ValueError` -/
  toInt : Json → Option ℤ
  toInt_int : ∀ n, toInt (.int n) = some n
  /-- `str(value)` -/
  text : Json → PyStr
  text_str : ∀ s, text (.str s) = s
  /-- `datetime.fromtimestamp(value / 1_000_000, tz=utc)` in ISO form with `Z` -/
  fromtimestamp : ℤ → PyStr

/-- `_parse_timestamp` -/
def parseTimestamp (rt : SearchRuntime) : Json → Json
  | .int value => .str (rt.fromtimestamp value)
  | .bool value => .str (rt.fromtimestamp value.toNat)
  | .str value => .str value
  | _ => .null

/-- `transform_book` -/
def transformBook (rt : SearchRuntime) (data : Record) : Record :=
  let status := data.get (py "status") (.str (py "available"))
  [(py "id", data.get (py "id") .null),
    (py "title", data.get (py "title") .null),
    (py "author", data.get (py "author") .null),
    (py "status", status),
    (py "is_borrowed", .bool (match status with
      | .str value => value = py "borrowed"
      | _ => false)),
    (py "reserved_at", parseTimestamp rt (data.get (py "reserved_at") .null)),
    (py "borrowed_at", parseTimestamp rt (data.get (py "borrowed_at") .null)),
    (py "return_due_date", parseTimestamp rt (data.get (py "return_due_date") .null)),
    (py "version", data.get (py "version") (.int 0))]

/-- `transform_patron` -/
def transformPatron (rt : SearchRuntime) (data : Record) : Record :=
  let firstName := data.get (py "first_name") (.str [])
  let lastName := data.get (py "last_name") (.str [])
  [(py "id", data.get (py "id") .null),
    (py "first_name", firstName),
    (py "last_name", lastName),
    (py "full_name",
      .str (PyStr.strip (rt.text firstName ++ py " " ++ rt.text lastName))),
    (py "email", data.get (py "email") .null),
    (py "membership_tier", data.get (py "membership_tier") .null),
    (py "is_suspended", data.get (py "is_suspended") (.bool false)),
    (py "suspended_reason", data.get (py "suspended_reason") .null),
    (py "registered_at", parseTimestamp rt (data.get (py "registered_at") .null)),
    (py "current_loan_count", data.get (py "current_loan_count") (.int 0)),
    (py "version", data.get (py "version") (.int 0))]

/-- `transform_loan` -/
def transformLoan (rt : SearchRuntime) (data : Record) : Record :=
  [(py "id", data.get (py "id") .null),
    (py "patron_id", data.get (py "patron_id") .null),
    (py "patron_email", data.get (py "patron_email") .null),
    (py "catalog_book_id", data.get (py "catalog_book_id") .null),
    (py "book_title", data.get (py "book_title") .null),
    (py "borrowed_at", parseTimestamp rt (data.get (py "borrowed_at") .null)),
    (py "due_date", parseTimestamp rt (data.get (py "due_date") .null)),
    (py "returned_at", parseTimestamp rt (data.get (py "returned_at") .null)),
    (py "status", data.get (py "status") .null),
    (py "version", data.get (py "version") (.int 0))]

/-- The keys of `ALIASES`. -/
inductive ReadModel
  | books
  | patrons
  | loans
deriving DecidableEq

namespace ReadModel

/-- The alias, which is also the logical index of the consumer. -/
def aliasName : ReadModel → PyStr
  | books => py "books"
  | patrons => py "patrons"
  | loans => py "loans"

def transform (rt : SearchRuntime) : ReadModel → Record → Record
  | books => transformBook rt
  | patrons => transformPatron rt
  | loans => transformLoan rt

end ReadModel

/-- The branches of `_process_message` on the index. -/
def documentFor (rt : SearchRuntime) (index : PyStr) (after : Record) : Record :=
  if index = py "books" then transformBook rt after
  else if index = py "patrons" then transformPatron rt after
  else if index = py "loans" then transformLoan rt after
  else after

structure CdcMessage where
  topic : PyStr
  key : Option Record
  value : Option Record

/-- What makes a change record unrecoverable. -/
inductive UnrecoverableCdc
  | noProjection (topic : PyStr)
  | tombstoneWithoutId (topic : PyStr)
  | deleteWithoutId (topic : PyStr)
  | documentWithoutId (op : Json) (topic : PyStr)
  | withoutAfter (op : Json) (topic : PyStr)
  | unsupportedOperation (op : Json) (topic : PyStr)

/-- `index_read_model` and `delete_read_model`, with their arguments. -/
inductive ReadModelWrite
  | index (logical_index : PyStr) (doc_id : Json) (document : Record)
  | delete (logical_index : PyStr) (doc_id : Json) (source : Option Record)

/-- `record and "id" in record` -/
def idOf : Option Record → Option Json
  | some data => Json.lookup (py "id") data
  | none => none

/-- `value.get(field)` as an optional object. -/
def imageOf (field : PyStr) (value : Record) : Option Record :=
  match Json.lookup field value with
  | some (.obj members) => some members
  | _ => none

/-- A create, update or read record. -/
def projectImage (rt : SearchRuntime) (index topic : PyStr) (op : Json)
    (after : Option Record) : Except UnrecoverableCdc ReadModelWrite :=
  match after with
  | none | some [] => .error (.withoutAfter op topic)
  | some data =>
      let docId := data.get (py "id") .null
      if docId.truthy then .ok (.index index docId (documentFor rt index data))
      else .error (.documentWithoutId op topic)

/-- `_process_message`, up to the write of the read model. -/
def projectMessage (rt : SearchRuntime) (topicToIndex : PyStr → Option PyStr)
    (message : CdcMessage) : Except UnrecoverableCdc ReadModelWrite :=
  match topicToIndex message.topic with
  | none | some [] => .error (.noProjection message.topic)
  | some index =>
      match message.value with
      | none =>
          match idOf message.key with
          | some docId => .ok (.delete index docId none)
          | none => .error (.tombstoneWithoutId message.topic)
      | some value =>
          let op := value.get (py "op") .null
          let unsupported := UnrecoverableCdc.unsupportedOperation op message.topic
          match op with
          | .str name =>
              if name = py "d" then
                match idOf (imageOf (py "before") value) with
                | some docId => .ok (.delete index docId (imageOf (py "before") value))
                | none => .error (.deleteWithoutId message.topic)
              else if name = py "c" ∨ name = py "u" ∨ name = py "r" then
                projectImage rt index message.topic op (imageOf (py "after") value)
              else .error unsupported
          | _ => .error unsupported

/-- `_document_external_version` -/
def documentExternalVersion (rt : SearchRuntime) (document : Record) : Option ℕ :=
  match document.get (py "version") .null with
  | .null => none
  | raw =>
      match rt.toInt raw with
      | some version => if 0 ≤ version then some (version + 1).toNat else none
      | none => none

namespace ReadModelWrite

/-- The version that both methods send; a delete takes the one after its row's. -/
def externalVersion (rt : SearchRuntime) : ReadModelWrite → Option ℕ
  | index _ _ document => documentExternalVersion rt document
  | delete _ _ source => (documentExternalVersion rt (source.getD [])).map (· + 1)

/-- The document that is stored, none for a delete. -/
def document : ReadModelWrite → Option Record
  | index _ _ document => some document
  | delete _ _ _ => none

end ReadModelWrite

/-- One request to a physical index. -/
structure IndexRequest where
  id : PyStr
  external_version : Option ℕ
  document : Option Record

/-- What `index_read_model` and `delete_read_model` send to each target. -/
def ReadModelWrite.request (rt : SearchRuntime) (write : ReadModelWrite) : IndexRequest :=
  { id := match write with
      | .index _ docId _ | .delete _ docId _ => rt.text docId
    external_version := write.externalVersion rt
    document := write.document }

/-- The operation `bulk_index` sends for one document, none without an id. -/
def bulkRequest (rt : SearchRuntime) (document : Record) : Option IndexRequest :=
  let docId := document.get (py "id") .null
  if docId.truthy then
    some ⟨rt.text docId, documentExternalVersion rt document, some document⟩
  else none

/-! ## Versions are carried through -/

theorem documentExternalVersion_of_version
    {rt : SearchRuntime} {document : Record} {version : ℕ}
    (hversion : document.get (py "version") .null = .int version) :
    documentExternalVersion rt document = some (version + 1) := by
  unfold documentExternalVersion
  rw [hversion]
  simp only [rt.toInt_int]
  simp only [Nat.cast_nonneg, if_true, Option.some.injEq]
  omega

/-- Every transform copies the version column. -/
theorem transform_version
    (rt : SearchRuntime) (model : ReadModel) (data : Record) :
    (model.transform rt data).get (py "version") .null =
      data.get (py "version") (.int 0) := by
  cases model <;> rfl

/-- Every transform copies the id column. -/
theorem transform_id
    (rt : SearchRuntime) (model : ReadModel) (data : Record) :
    (model.transform rt data).get (py "id") .null = data.get (py "id") .null := by
  cases model <;> rfl

theorem documentFor_aliasName
    (rt : SearchRuntime) (model : ReadModel) (data : Record) :
    documentFor rt model.aliasName data = model.transform rt data := by
  cases model <;> rfl

end LibrarySystem
