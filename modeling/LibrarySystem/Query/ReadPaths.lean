import LibrarySystem.Persistence.Database
import LibrarySystem.Query.KeysetWalks

/-!
# The three read paths

A read model comes from the row itself, from the document that the projection made of the
row, or from the JSON that the cache kept of it.
-/

namespace LibrarySystem

open Result

/-! ## Rows as records -/

/-- The text of an instant in UTC with a `Z`. -/
def isoformatZulu (t : UtcDateTime) : PyStr := wallText t ++ py "Z"

/-- A change record or `_row_to_dict` gives the instants of its columns as texts. -/
abbrev Spelling := PyStr → UtcDateTime → PyStr

namespace Spelling

variable (spelling : Spelling)

/-- What `fromisoformat` reads is the instant that was written. -/
def Reads (rt : PythonRuntime) : Prop :=
  ∀ column t, rt.fromisoformat (replaceZulu (spelling column t)) = some (.ofUtc t)

def timestamp (column : PyStr) (value : Option UtcDateTime) : PyStr × Json :=
  (column, value.elim .null fun t => .str (spelling column t))

end Spelling

/-- A nullable column of texts. -/
def textColumn (column : PyStr) (value : Option PyStr) : PyStr × Json :=
  (column, value.elim .null .str)

/-- The columns of `books`. -/
def BookModel.record (spelling : Spelling) (row : BookModel) : Record :=
  [(py "id", .str row.id), (py "title", .str row.title), (py "author", .str row.author),
    (py "status", .str row.status), spelling.timestamp (py "reserved_at") row.reserved_at,
    spelling.timestamp (py "borrowed_at") row.borrowed_at,
    spelling.timestamp (py "return_due_date") row.return_due_date,
    textColumn (py "reservation_id") row.reservation_id,
    (py "reservation_generation", .int row.reservation_generation),
    textColumn (py "reserved_patron_id") row.reserved_patron_id,
    textColumn (py "reserved_patron_email") row.reserved_patron_email,
    textColumn (py "current_loan_id") row.current_loan_id,
    textColumn (py "last_completed_loan_id") row.last_completed_loan_id,
    (py "version", .int row.version)]

/-- The columns of `patrons`. -/
def PatronModel.record (spelling : Spelling) (row : PatronModel) : Record :=
  [(py "id", .str row.id), (py "first_name", .str row.first_name),
    (py "last_name", .str row.last_name), (py "email", .str row.email),
    (py "membership_tier", .str row.membership_tier), (py "is_suspended", .bool row.is_suspended),
    textColumn (py "suspended_reason") row.suspended_reason,
    spelling.timestamp (py "registered_at") (some row.registered_at),
    (py "version", .int row.version)]

/-- The columns of `loans`. -/
def LoanModel.record (spelling : Spelling) (row : LoanModel) : Record :=
  [(py "id", .str row.id), (py "patron_id", .str row.patron_id),
    (py "patron_email", .str row.patron_email), (py "catalog_book_id", .str row.catalog_book_id),
    (py "reservation_id", .str row.reservation_id),
    (py "reservation_generation", .int row.reservation_generation),
    (py "book_title", .str row.book_title),
    spelling.timestamp (py "borrowed_at") (some row.borrowed_at),
    spelling.timestamp (py "due_date") (some row.due_date),
    spelling.timestamp (py "returned_at") row.returned_at, (py "status", .str row.status),
    (py "version", .int row.version)]

/-- A hit of `ElasticsearchClient.search`, the entries of the document first. -/
def searchHit (doc_id : PyStr) (score sort : Json) (document : Record) : Record :=
  document ++ [(py "id", .str doc_id), (py "score", score), (py "_sort", sort)]

/-! ## The cache -/

/-- `_DATETIME_TYPE_KEY` -/
def datetimeTypeKey : PyStr := py "__clean_architecture_type__"

/-- `_json_default` of the cache. -/
def redisDefault : JsonDefault where
  datetime := fun value =>
    .obj [(datetimeTypeKey, .str (py "datetime")), (py "value", .str value.isoformat)]
  unsupported := fun className =>
    py "Object of type " ++ className ++ py " is not JSON serializable"

section Redis

variable (rt : QueryRuntime)

/-- `_json_object_hook` -/
def jsonObjectHook (entries : List (PyStr × PyValue)) : PyValue :=
  match PyValue.get datetimeTypeKey entries, PyValue.lookup (py "value") entries with
  | .str kind, some value =>
      if kind = py "datetime" ∧
          entries.all (fun entry => entry.1 ∈ [datetimeTypeKey, py "value"]) = true then
        match rt.fromisoformat (replaceZulu (rt.str value)) with
        | some read => .datetime read
        | none => .dict entries
      else .dict entries
  | _, _ => .dict entries

mutual

/-- `json.loads(text, object_hook=_json_object_hook)`, from what `json.loads(text)` gives. -/
def hookValue : Json → PyValue
  | .null => .none
  | .bool value => .bool value
  | .int value => .int value
  | .float bits => .float bits
  | .str value => .str value
  | .arr items => .list (hookValues items)
  | .obj members => jsonObjectHook rt (hookEntries members)

def hookValues : List Json → List PyValue
  | [] => []
  | item :: rest => hookValue item :: hookValues rest

def hookEntries : List (PyStr × Json) → List (PyStr × PyValue)
  | [] => []
  | (name, value) :: rest => (name, hookValue value) :: hookEntries rest

end

/-- The texts in the cache. -/
abbrev RedisStore := PyStr → Option PyStr

/-- `RedisClient.set`; the answer is `False` when the value cannot be written. -/
def RedisStore.set (store : RedisStore) (key : PyStr) (value : PyValue) : Bool × RedisStore :=
  match PyValue.toJson redisDefault value with
  | .error _ => (false, store)
  | .ok serialized =>
      (true, Function.update store key (some (Json.render rt.floatRepr .default serialized)))

/-- `RedisClient.get` -/
def RedisStore.get (store : RedisStore) (key : PyStr) : Option PyValue := do
  let value ← store key
  if value = [] then none
  else do
    let loaded ← Json.loads rt.parseFloat value
    pure (hookValue rt loaded)

end Redis

/-! ## Read models as dictionaries -/

def optionalInstant (value : Option DateTime) : PyValue := value.elim .none .datetime

/-- `__dict__` -/
def BookReadModel.dict (self : BookReadModel) : List (PyStr × PyValue) :=
  [(py "id", .str self.id), (py "title", .str self.title), (py "author", .str self.author),
    (py "is_borrowed", .bool self.is_borrowed), (py "status", .str self.status),
    (py "borrowed_at", optionalInstant self.borrowed_at),
    (py "return_due_date", optionalInstant self.return_due_date)]

def PatronReadModel.dict (self : PatronReadModel) : List (PyStr × PyValue) :=
  [(py "id", .str self.id), (py "name", .str self.name),
    (py "first_name", .str self.first_name), (py "last_name", .str self.last_name),
    (py "email", .str self.email), (py "membership_tier", .str self.membership_tier),
    (py "is_suspended", .bool self.is_suspended),
    (py "suspended_reason", self.suspended_reason),
    (py "registered_at", .datetime self.registered_at)]

def LoanReadModel.dict (self : LoanReadModel) : List (PyStr × PyValue) :=
  [(py "id", .str self.id), (py "patron_id", .str self.patron_id),
    (py "patron_email", .str self.patron_email),
    (py "catalog_book_id", .str self.catalog_book_id), (py "book_title", .str self.book_title),
    (py "borrowed_at", .datetime self.borrowed_at), (py "due_date", .datetime self.due_date),
    (py "returned_at", optionalInstant self.returned_at), (py "status", .str self.status)]

/-! ## What the cache gives back -/

mutual

/-- No float, UTC datetimes only, no text with a split surrogate pair, and no dictionary that
the hook takes for a datetime. -/
def PyValue.cacheable : PyValue → Bool
  | .none => true
  | .bool _ => true
  | .int _ => true
  | .float _ => false
  | .str value => !PyStr.hasSplitPair value
  | .datetime value => value = .ofUtc value.wall
  | .list items => PyValue.cacheableItems items
  | .dict entries =>
      PyValue.cacheableEntries entries && decide (entries.map Prod.fst).Nodup &&
        (PyValue.lookup datetimeTypeKey entries).isNone
  | .object _ => false

def PyValue.cacheableItems : List PyValue → Bool
  | [] => true
  | item :: rest => PyValue.cacheable item && PyValue.cacheableItems rest

def PyValue.cacheableEntries : List (PyStr × PyValue) → Bool
  | [] => true
  | (name, value) :: rest =>
      !PyStr.hasSplitPair name && PyValue.cacheable value && PyValue.cacheableEntries rest

end

section Cached

variable (rt : QueryRuntime)

theorem jsonObjectHook_dict {entries : List (PyStr × PyValue)}
    (hentries : PyValue.lookup datetimeTypeKey entries = none) :
    jsonObjectHook rt entries = .dict entries := by
  unfold jsonObjectHook PyValue.get
  rw [hentries]
  rfl

theorem jsonObjectHook_datetime (t : UtcDateTime) :
    jsonObjectHook rt
      [(datetimeTypeKey, .str (py "datetime")), (py "value", .str (isoformat t))] =
        .datetime (.ofUtc t) := by
  have hread : rt.fromisoformat (replaceZulu (rt.str (.str (isoformat t)))) =
      some (.ofUtc t) := by
    rw [rt.str_str, replaceZulu_isoformat, rt.fromisoformat_isoformat]
  have hkind : PyValue.get datetimeTypeKey
      [(datetimeTypeKey, .str (py "datetime")), (py "value", .str (isoformat t))] =
        .str (py "datetime") := rfl
  have hlookup : PyValue.lookup (py "value")
      [(datetimeTypeKey, .str (py "datetime")), (py "value", .str (isoformat t))] =
        some (.str (isoformat t)) := rfl
  unfold jsonObjectHook
  rw [hkind, hlookup]
  dsimp only
  rw [if_pos ⟨rfl, rfl⟩, hread]

mutual

/-- A cacheable value is written as JSON that reads back as the value. -/
theorem PyValue.hookValue_toJson (value : PyValue) (hvalue : value.cacheable = true) :
    ∃ json, value.toJson redisDefault = .ok json ∧ Json.faithful json = true ∧
      hookValue rt json = value := by
  cases value with
  | none => exact ⟨.null, rfl, rfl, rfl⟩
  | bool value => exact ⟨.bool value, rfl, rfl, rfl⟩
  | int value => exact ⟨.int value, rfl, rfl, rfl⟩
  | float bits => cases hvalue
  | str value => exact ⟨.str value, rfl, hvalue, rfl⟩
  | datetime value =>
      have hutc : value = .ofUtc value.wall := of_decide_eq_true hvalue
      refine ⟨_, rfl, ?_, ?_⟩
      · have hascii : PyStr.hasSplitPair value.isoformat = false := by
          rw [hutc, DateTime.isoformat_ofUtc]
          exact Json.hasSplitPair_of_isAscii (isoformat_isAscii _)
        have hnames : [datetimeTypeKey, py "value"].Nodup := by decide
        simp only [redisDefault, Json.faithful, Json.faithfulMembers, hascii, List.map_cons,
          List.map_nil, hnames, decide_true]
        rfl
      · rw [hutc]
        simp only [redisDefault, DateTime.isoformat_ofUtc, hookValue, hookEntries]
        exact jsonObjectHook_datetime rt _
  | list items =>
      obtain ⟨written, hwritten, hfaithful, hread⟩ :=
        PyValue.hookValues_toJsonItems items hvalue
      refine ⟨.arr written, ?_, hfaithful, ?_⟩
      · rw [PyValue.toJson, hwritten, ok_bind, pure_eq]
      · rw [hookValue, hread]
  | dict entries =>
      simp only [PyValue.cacheable, Bool.and_eq_true, decide_eq_true_eq,
        Option.isNone_iff_eq_none] at hvalue
      obtain ⟨members, hmembers, hfaithful, hread, hnames⟩ :=
        PyValue.hookEntries_toJsonEntries entries hvalue.1.1
      refine ⟨.obj members, ?_, ?_, ?_⟩
      · rw [PyValue.toJson, hmembers, ok_bind, pure_eq]
      · rw [Json.faithful, hfaithful, hnames, Bool.true_and, decide_eq_true_eq]
        exact hvalue.1.2
      · rw [hookValue, hread, jsonObjectHook_dict rt hvalue.2]
  | object className => cases hvalue

theorem PyValue.hookValues_toJsonItems (items : List PyValue)
    (hitems : PyValue.cacheableItems items = true) :
    ∃ written, PyValue.toJsonItems redisDefault items = .ok written ∧
      Json.faithfulItems written = true ∧ hookValues rt written = items := by
  match items with
  | [] => exact ⟨[], rfl, rfl, rfl⟩
  | item :: rest =>
      simp only [PyValue.cacheableItems, Bool.and_eq_true] at hitems
      obtain ⟨first, hfirst, hfaithful, hread⟩ := PyValue.hookValue_toJson item hitems.1
      obtain ⟨others, hothers, hrest, hreads⟩ :=
        PyValue.hookValues_toJsonItems rest hitems.2
      refine ⟨first :: others, ?_, ?_, ?_⟩
      · rw [PyValue.toJsonItems, hfirst, ok_bind, hothers, ok_bind, pure_eq]
      · rw [Json.faithfulItems, hfaithful, hrest]
        rfl
      · rw [hookValues, hread, hreads]

theorem PyValue.hookEntries_toJsonEntries (entries : List (PyStr × PyValue))
    (hentries : PyValue.cacheableEntries entries = true) :
    ∃ members, PyValue.toJsonEntries redisDefault entries = .ok members ∧
      Json.faithfulMembers members = true ∧ hookEntries rt members = entries ∧
      members.map Prod.fst = entries.map Prod.fst := by
  match entries with
  | [] => exact ⟨[], rfl, rfl, rfl, rfl⟩
  | (name, value) :: rest =>
      simp only [PyValue.cacheableEntries, Bool.and_eq_true] at hentries
      obtain ⟨first, hfirst, hfaithful, hread⟩ := PyValue.hookValue_toJson value hentries.1.2
      obtain ⟨others, hothers, hrest, hreads, hnames⟩ :=
        PyValue.hookEntries_toJsonEntries rest hentries.2
      refine ⟨(name, first) :: others, ?_, ?_, ?_, ?_⟩
      · rw [PyValue.toJsonEntries, hfirst, ok_bind, hothers, ok_bind, pure_eq]
      · rw [Json.faithfulMembers, hentries.1.1, hfaithful, hrest]
        rfl
      · rw [hookEntries, hread, hreads]
      · rw [List.map_cons, List.map_cons, hnames]

end

/-- A cacheable value that was set is what the cache gives back. -/
theorem RedisStore.get_set (store : RedisStore) (key : PyStr) {value : PyValue}
    (hvalue : value.cacheable = true) :
    (store.set rt key value).1 = true ∧
      ((store.set rt key value).2).get rt key = some value := by
  obtain ⟨json, hjson, hfaithful, hread⟩ := PyValue.hookValue_toJson rt value hvalue
  have hloads := Json.loads_render rt.parseFloat rt.floatRepr Json.readable_default json hfaithful
  have hne : Json.render rt.floatRepr .default json ≠ [] := by
    intro hempty
    rw [hempty] at hloads
    cases hloads
  unfold RedisStore.set
  rw [hjson]
  refine ⟨rfl, ?_⟩
  unfold RedisStore.get
  dsimp only
  rw [Function.update_self, Option.bind_eq_bind, Option.bind_some, if_neg hne, hloads]
  exact congrArg some hread

end Cached

/-! ## Hydration from entries -/

section Entries

variable {rt : QueryRuntime} {entries : List (PyStr × PyValue)}

theorem str_getOr {name text : PyStr} {default : PyValue}
    (hentry : PyValue.lookup name entries = some (.str text)) :
    rt.str (getOr entries name default) = text := by
  unfold getOr
  rw [hentry, Option.getD_some, rt.str_str]

theorem getItem_ok {name : PyStr} {value : PyValue}
    (hentry : PyValue.lookup name entries = some value) : getItem entries name = .ok value := by
  unfold getItem
  rw [hentry]

theorem BookReadModel.fromMapping_ok {self : BookReadModel}
    (hid : PyValue.lookup (py "id") entries = some (.str self.id))
    (htitle : PyValue.lookup (py "title") entries = some (.str self.title))
    (hauthor : PyValue.lookup (py "author") entries = some (.str self.author))
    (hstatus : PyValue.lookup (py "status") entries = some (.str self.status))
    (hborrowed : optionalDatetime rt (PyValue.get (py "borrowed_at") entries) (py "borrowed_at") =
      .ok self.borrowed_at)
    (hdue : optionalDatetime rt (PyValue.get (py "return_due_date") entries)
      (py "return_due_date") = .ok self.return_due_date)
    (hflag : self.is_borrowed = decide (self.status = py "borrowed")) :
    BookReadModel.fromMapping rt entries = .ok self := by
  unfold BookReadModel.fromMapping
  dsimp only
  rw [getItem_ok hid, ok_bind, hborrowed, ok_bind, hdue, ok_bind, pure_eq, str_getOr hstatus,
    str_getOr htitle, str_getOr hauthor, rt.str_str, ← hflag]

theorem PatronReadModel.fromMapping_ok {self : PatronReadModel} {flag : Bool}
    (hid : PyValue.lookup (py "id") entries = some (.str self.id))
    (hname : rt.str (getOr entries (py "name") (getOr entries (py "full_name") (.str []))) =
      self.name)
    (hfirst : PyValue.lookup (py "first_name") entries = some (.str self.first_name))
    (hlast : PyValue.lookup (py "last_name") entries = some (.str self.last_name))
    (hemail : PyValue.lookup (py "email") entries = some (.str self.email))
    (htier : PyValue.lookup (py "membership_tier") entries = some (.str self.membership_tier))
    (hsuspended : PyValue.lookup (py "is_suspended") entries = some (.bool flag))
    (hflag : self.is_suspended = flag)
    (hreason : PyValue.get (py "suspended_reason") entries = self.suspended_reason)
    (hregistered : requiredDatetime rt (PyValue.get (py "registered_at") entries)
      (py "registered_at") = .ok self.registered_at) :
    PatronReadModel.fromMapping rt entries = .ok self := by
  have htruthy : (getOr entries (py "is_suspended") (.bool false)).truthy = self.is_suspended := by
    unfold getOr
    rw [hsuspended, hflag]
    rfl
  unfold PatronReadModel.fromMapping
  rw [getItem_ok hid, ok_bind, hregistered, ok_bind, pure_eq, hname, str_getOr hfirst,
    str_getOr hlast, str_getOr hemail, str_getOr htier, htruthy, hreason, rt.str_str]

theorem LoanReadModel.fromMapping_ok {self : LoanReadModel}
    (hid : PyValue.lookup (py "id") entries = some (.str self.id))
    (hpatron : PyValue.lookup (py "patron_id") entries = some (.str self.patron_id))
    (hemail : PyValue.lookup (py "patron_email") entries = some (.str self.patron_email))
    (hbook : PyValue.lookup (py "catalog_book_id") entries = some (.str self.catalog_book_id))
    (htitle : PyValue.lookup (py "book_title") entries = some (.str self.book_title))
    (hborrowed : requiredDatetime rt (PyValue.get (py "borrowed_at") entries) (py "borrowed_at") =
      .ok self.borrowed_at)
    (hdue : requiredDatetime rt (PyValue.get (py "due_date") entries) (py "due_date") =
      .ok self.due_date)
    (hreturned : optionalDatetime rt (PyValue.get (py "returned_at") entries) (py "returned_at") =
      .ok self.returned_at)
    (hstatus : PyValue.lookup (py "status") entries = some (.str self.status)) :
    LoanReadModel.fromMapping rt entries = .ok self := by
  unfold LoanReadModel.fromMapping
  rw [getItem_ok hid, ok_bind, hborrowed, ok_bind, hdue, ok_bind, hreturned, ok_bind, pure_eq,
    str_getOr hpatron, str_getOr hemail, str_getOr hbook, str_getOr htitle, str_getOr hstatus,
    rt.str_str]

end Entries

/-! ## The document of a row -/

section Documents

variable (rt : QueryRuntime) (search : SearchRuntime) {spelling : Spelling}

/-- The instant of a column comes back from the document. -/
theorem optionalDatetime_timestamp (hspelling : spelling.Reads rt.toPythonRuntime)
    (column field : PyStr) (value : Option UtcDateTime) :
    optionalDatetime rt
      (Json.toValue (parseTimestamp search (value.elim .null fun t => .str (spelling column t))))
      field = .ok (value.map .ofUtc) := by
  cases value with
  | none => rfl
  | some t => exact optionalDatetime_text rt (hspelling column t) field

theorem requiredDatetime_timestamp (hspelling : spelling.Reads rt.toPythonRuntime)
    (column field : PyStr) (t : UtcDateTime) :
    requiredDatetime rt
      (Json.toValue (parseTimestamp search (.str (spelling column t)))) field = .ok (.ofUtc t) :=
  requiredDatetime_text rt (hspelling column t) field

variable (doc_id : PyStr) (score sort : Json)

theorem bookFromHit_document (hspelling : spelling.Reads rt.toPythonRuntime) (row : BookModel) :
    bookFromHit rt (searchHit doc_id score sort (transformBook search (row.record spelling))) =
      .ok row.toReadModel := by
  exact BookReadModel.fromMapping_ok rfl rfl rfl rfl
    (optionalDatetime_timestamp rt search hspelling _ _ row.borrowed_at)
    (optionalDatetime_timestamp rt search hspelling _ _ row.return_due_date) rfl

theorem loanFromHit_document (hspelling : spelling.Reads rt.toPythonRuntime) (row : LoanModel) :
    loanFromHit rt (searchHit doc_id score sort (transformLoan search (row.record spelling))) =
      .ok row.toReadModel := by
  exact LoanReadModel.fromMapping_ok rfl rfl rfl rfl rfl
    (requiredDatetime_timestamp rt search hspelling _ _ row.borrowed_at)
    (requiredDatetime_timestamp rt search hspelling _ _ row.due_date)
    (optionalDatetime_timestamp rt search hspelling _ _ row.returned_at) rfl

/-- The document has the full name without the blanks around it. -/
theorem patronFromHit_document (hspelling : spelling.Reads rt.toPythonRuntime)
    (row : PatronModel) :
    patronFromHit rt (searchHit doc_id score sort (transformPatron search (row.record spelling))) =
      .ok { row.toReadModel with
        name := PyStr.strip (row.first_name ++ py " " ++ row.last_name) } := by
  refine PatronReadModel.fromMapping_ok rfl ?_ rfl rfl rfl rfl rfl rfl ?_
    (requiredDatetime_timestamp rt search hspelling _ _ row.registered_at)
  · change rt.str (.str (PyStr.strip (search.text (.str row.first_name) ++ py " " ++
      search.text (.str row.last_name)))) = _
    rw [rt.str_str, search.text_str, search.text_str]
  · change Json.toValue (row.suspended_reason.elim .null .str) =
      row.suspended_reason.elim .none .str
    cases row.suspended_reason <;> rfl

end Documents

/-! ## The dictionary of a read model -/

section Dictionaries

variable (rt : QueryRuntime)

theorem optionalDatetime_optionalInstant (value : Option DateTime) (field : PyStr) :
    optionalDatetime rt (optionalInstant value) field = .ok value := by
  cases value <;> rfl

theorem BookReadModel.fromMapping_dict {self : BookReadModel}
    (hflag : self.is_borrowed = decide (self.status = py "borrowed")) :
    BookReadModel.fromMapping rt self.dict = .ok self :=
  BookReadModel.fromMapping_ok rfl rfl rfl rfl
    (optionalDatetime_optionalInstant rt self.borrowed_at _)
    (optionalDatetime_optionalInstant rt self.return_due_date _) hflag

theorem PatronReadModel.fromMapping_dict (self : PatronReadModel) :
    PatronReadModel.fromMapping rt self.dict = .ok self :=
  PatronReadModel.fromMapping_ok rfl (rt.str_str self.name) rfl rfl rfl rfl rfl rfl rfl rfl

theorem LoanReadModel.fromMapping_dict (self : LoanReadModel) :
    LoanReadModel.fromMapping rt self.dict = .ok self :=
  LoanReadModel.fromMapping_ok rfl rfl rfl rfl rfl rfl rfl
    (optionalDatetime_optionalInstant rt self.returned_at _) rfl

end Dictionaries

/-! ## Stored texts -/

/-- A text that PostgreSQL can hold has no surrogates at all. -/
theorem hasSplitPair_of_storable {text : PyStr} (htext : storable text = true) :
    PyStr.hasSplitPair text = false := by
  have hsurrogate : PyStr.hasSurrogate text = false := by
    simp only [storable, Bool.and_eq_true, Bool.not_eq_true'] at htext
    exact htext.1
  clear htext
  induction text with
  | nil => rfl
  | cons c rest ih =>
      rw [PyStr.hasSurrogate_cons, Bool.or_eq_false_iff] at hsurrogate
      cases rest with
      | nil => rfl
      | cons d tail =>
          have hc : c.isHighSurrogate = false := (Bool.or_eq_false_iff.mp hsurrogate.1).1
          rw [PyStr.hasSplitPair, hc, Bool.false_and, Bool.false_or]
          exact ih hsurrogate.2

/-- The texts that the read model of a row shows. -/
def BookModel.texts (row : BookModel) : List PyStr := [row.id, row.title, row.author, row.status]

def PatronModel.texts (row : PatronModel) : List PyStr :=
  [row.id, row.first_name, row.last_name, row.email, row.membership_tier] ++
    row.suspended_reason.toList

def LoanModel.texts (row : LoanModel) : List PyStr :=
  [row.id, row.patron_id, row.patron_email, row.catalog_book_id, row.book_title, row.status]

theorem cacheable_instant (value : Option UtcDateTime) :
    (optionalInstant (value.map .ofUtc)).cacheable = true := by
  cases value with
  | none => rfl
  | some t => exact decide_eq_true rfl

theorem cacheable_text {text : PyStr} (htext : storable text = true) :
    (PyValue.str text).cacheable = true := by
  rw [PyValue.cacheable, hasSplitPair_of_storable htext]
  rfl

/-- Names that a dictionary of the cache may have. -/
def areCacheableNames (names : List PyStr) : Bool :=
  names.all (fun name => !PyStr.hasSplitPair name && name ≠ datetimeTypeKey) &&
    decide names.Nodup

theorem cacheable_dict {entries : List (PyStr × PyValue)}
    (hnames : areCacheableNames (entries.map Prod.fst) = true)
    (hvalues : ∀ entry ∈ entries, entry.2.cacheable = true) :
    (PyValue.dict entries).cacheable = true := by
  simp only [areCacheableNames, Bool.and_eq_true] at hnames
  have hentries : PyValue.cacheableEntries entries = true ∧
      PyValue.lookup datetimeTypeKey entries = none := by
    obtain ⟨hall, -⟩ := hnames
    induction entries with
    | nil => exact ⟨rfl, rfl⟩
    | cons entry rest ih =>
        obtain ⟨name, value⟩ := entry
        simp only [List.map_cons, List.all_cons, Bool.and_eq_true, decide_eq_true_eq] at hall
        obtain ⟨hrest, hlookup⟩ :=
          ih (fun entry hentry => hvalues entry (List.mem_cons_of_mem _ hentry)) hall.2
        have hvalue := hvalues (name, value) List.mem_cons_self
        constructor
        · rw [PyValue.cacheableEntries, hall.1.1, hvalue, hrest]
          rfl
        · rw [PyValue.lookup, if_neg hall.1.2, hlookup]
  rw [PyValue.cacheable, hentries.1, hnames.2, hentries.2]
  rfl

theorem BookModel.cacheable {row : BookModel} (hrow : row.texts.all storable = true) :
    (PyValue.dict row.toReadModel.dict).cacheable = true := by
  simp only [BookModel.texts, List.all_cons, List.all_nil, Bool.and_true, Bool.and_eq_true] at hrow
  refine cacheable_dict rfl ?_
  simp only [BookReadModel.dict, BookModel.toReadModel, List.forall_mem_cons, List.not_mem_nil,
    false_implies, implies_true, and_true]
  exact ⟨cacheable_text hrow.1, cacheable_text hrow.2.1, cacheable_text hrow.2.2.1, rfl,
    cacheable_text hrow.2.2.2, cacheable_instant row.borrowed_at,
    cacheable_instant row.return_due_date⟩

theorem LoanModel.cacheable {row : LoanModel} (hrow : row.texts.all storable = true) :
    (PyValue.dict row.toReadModel.dict).cacheable = true := by
  simp only [LoanModel.texts, List.all_cons, List.all_nil, Bool.and_true, Bool.and_eq_true] at hrow
  obtain ⟨hid, hpatron, hemail, hbook, htitle, hstatus⟩ := hrow
  refine cacheable_dict rfl ?_
  simp only [LoanReadModel.dict, LoanModel.toReadModel, List.forall_mem_cons, List.not_mem_nil,
    false_implies, implies_true, and_true]
  exact ⟨cacheable_text hid, cacheable_text hpatron, cacheable_text hemail, cacheable_text hbook,
    cacheable_text htitle, decide_eq_true rfl, decide_eq_true rfl,
    cacheable_instant row.returned_at, cacheable_text hstatus⟩

theorem storable_fullName {first last : PyStr} (hfirst : storable first = true)
    (hlast : storable last = true) : storable (first ++ py " " ++ last) = true := by
  simp only [storable, Bool.and_eq_true, Bool.not_eq_true', PyStr.hasNul] at hfirst hlast ⊢
  rw [PyStr.hasSurrogate_append, PyStr.hasSurrogate_append, hfirst.1, hlast.1, List.any_append,
    List.any_append, hfirst.2, hlast.2]
  exact ⟨rfl, rfl⟩

theorem PatronModel.cacheable {row : PatronModel} (hrow : row.texts.all storable = true) :
    (PyValue.dict row.toReadModel.dict).cacheable = true := by
  simp only [PatronModel.texts, List.all_append, List.all_cons, List.all_nil, Bool.and_true,
    Bool.and_eq_true] at hrow
  obtain ⟨⟨hid, hfirst, hlast, hemail, htier⟩, hreason⟩ := hrow
  have hsuspended : (row.suspended_reason.elim PyValue.none .str).cacheable = true := by
    cases hcase : row.suspended_reason with
    | none => rfl
    | some reason =>
        rw [hcase] at hreason
        simp only [Option.toList_some, List.all_cons, List.all_nil, Bool.and_true] at hreason
        exact cacheable_text hreason
  refine cacheable_dict rfl ?_
  simp only [PatronReadModel.dict, PatronModel.toReadModel, List.forall_mem_cons, List.not_mem_nil,
    false_implies, implies_true, and_true]
  exact ⟨cacheable_text hid, cacheable_text (storable_fullName hfirst hlast),
    cacheable_text hfirst, cacheable_text hlast, cacheable_text hemail, cacheable_text htier, rfl,
    hsuspended, decide_eq_true rfl⟩

/-! ## Names -/

/-- A folded text has no blanks around it. -/
theorem joinWords_ends (words : List PyStr) (hwords : ∀ word ∈ words, PyStr.IsWord word)
    (hne : words ≠ []) :
    (∃ c rest, PyStr.joinWords words = c :: rest ∧ c.isSpace = false) ∧
      ∃ rest c, PyStr.joinWords words = rest ++ [c] ∧ c.isSpace = false := by
  induction words with
  | nil => exact absurd rfl hne
  | cons word tail ih =>
      have hword := hwords word List.mem_cons_self
      obtain ⟨c, rest, hhead⟩ := List.exists_cons_of_ne_nil hword.1
      have hc : c.isSpace = false := hword.2 c (by simp [hhead])
      cases tail with
      | nil =>
          obtain ⟨front, d, hlast⟩ := List.eq_nil_or_concat' word |>.resolve_left hword.1
          exact ⟨⟨c, rest, hhead, hc⟩, front, d, hlast, hword.2 d (by simp [hlast])⟩
      | cons next others =>
          obtain ⟨-, front, d, hlast, hd⟩ :=
            ih (fun w hw => hwords w (List.mem_cons_of_mem _ hw)) (by simp)
          constructor
          · exact ⟨c, _, by rw [PyStr.joinWords, hhead, List.cons_append], hc⟩
          · exact ⟨word ++ CodePoint.space :: front, d,
              by rw [PyStr.joinWords, hlast, List.append_assoc, List.cons_append], hd⟩

theorem strip_append_of_ends {first last : PyStr} {c d : CodePoint} {rest front middle : PyStr}
    (hfirst : first = c :: rest) (hc : c.isSpace = false) (hlast : last = front ++ [d])
    (hd : d.isSpace = false) :
    PyStr.strip (first ++ middle ++ last) = first ++ middle ++ last := by
  have hdrop : (first ++ middle ++ last).dropWhile CodePoint.isSpace = first ++ middle ++ last := by
    rw [hfirst, List.cons_append, List.cons_append, List.dropWhile_cons_of_neg (by simp [hc])]
  unfold PyStr.strip
  rw [hdrop, hlast, ← List.append_assoc, List.rdropWhile_concat_neg _ _ _ (by simp [hd])]

/-- The full name of a patron of the domain has no blanks around it. -/
theorem strip_boundedName {maximum : ℕ} (first last : BoundedText maximum) :
    PyStr.strip (first.value ++ py " " ++ last.value) = first.value ++ py " " ++ last.value := by
  have hwords : ∀ text : BoundedText maximum, PyStr.splitWords [] text.value ≠ [] ∧
      ∀ word ∈ PyStr.splitWords [] text.value, PyStr.IsWord word := by
    intro text
    constructor
    · intro hnil
      have hfolded := text.folded
      rw [PyStr.collapse, hnil] at hfolded
      exact text.nonempty hfolded.symm
    · exact fun word hword => PyStr.isWord_of_mem_splitWords (by simp) hword
  obtain ⟨⟨c, rest, hhead, hc⟩, -⟩ :=
    joinWords_ends _ (hwords first).2 (hwords first).1
  obtain ⟨-, front, d, hlast, hd⟩ := joinWords_ends _ (hwords last).2 (hwords last).1
  exact strip_append_of_ends (first.folded.symm.trans hhead) hc (last.folded.symm.trans hlast) hd

/-! ## The three paths -/

theorem replaceZulu_zulu {wall : PyStr}
    (hwall : replaceZulu (wall ++ py "+00:00") = wall ++ py "+00:00") :
    replaceZulu (wall ++ py "Z") = wall ++ py "+00:00" := by
  have hsplit : ∀ first last : PyStr,
      replaceZulu (first ++ last) = replaceZulu first ++ replaceZulu last :=
    fun first last => List.flatMap_append
  have hzulu : replaceZulu (py "Z") = py "+00:00" := by decide
  have hutc : replaceZulu (py "+00:00") = py "+00:00" := by decide
  rw [hsplit, hzulu]
  rwa [hsplit, hutc] at hwall

theorem isoformat_eq_wallText (t : UtcDateTime) : isoformat t = wallText t ++ py "+00:00" := by
  have hoffset : offsetText .zero = py "+00:00" := by decide
  rw [← DateTime.isoformat_ofUtc]
  simp only [DateTime.isoformat, DateTime.ofUtc, Option.elim_some, hoffset]

/-- The two forms that the projection sees. -/
theorem Spelling.reads_of_forms (rt : PythonRuntime) {spelling : Spelling}
    (hforms : ∀ column t, spelling column t = isoformat t ∨ spelling column t = isoformatZulu t) :
    spelling.Reads rt := by
  have hzulu : ∀ t : UtcDateTime, replaceZulu (isoformatZulu t) = isoformat t := by
    intro t
    have hutc := replaceZulu_isoformat t
    rw [isoformat_eq_wallText] at hutc ⊢
    exact replaceZulu_zulu hutc
  intro column t
  rcases hforms column t with hform | hform
  · rw [hform, replaceZulu_isoformat, rt.fromisoformat_isoformat]
  · rw [hform, hzulu, rt.fromisoformat_isoformat]

section Paths

variable (rt : QueryRuntime) (search : SearchRuntime) (spelling : Spelling)
  (doc_id : PyStr) (score sort : Json) (store : RedisStore) (key : PyStr)

/-- The cache gives the read model back. -/
def ReadsBack {Model : Type} (fromMapping : List (PyStr × PyValue) → Except QueryException Model)
    (dict : List (PyStr × PyValue)) (self : Model) : Prop :=
  ∃ entries, ((store.set rt key (.dict dict)).2).get rt key = some (.dict entries) ∧
    fromMapping entries = .ok self

theorem readsBack_of_cacheable {Model : Type}
    {fromMapping : List (PyStr × PyValue) → Except QueryException Model}
    {dict : List (PyStr × PyValue)} {self : Model}
    (hdict : (PyValue.dict dict).cacheable = true) (hself : fromMapping dict = .ok self) :
    ReadsBack rt store key fromMapping dict self :=
  ⟨dict, (store.get_set rt key hdict).2, hself⟩

/-- The document of a row, the cached dictionary and the row itself give one read model; the
document of a patron has another name if there are blanks around the full name. -/
theorem read_paths_agree (hspelling : spelling.Reads rt.toPythonRuntime) :
    (∀ row : BookModel, row.texts.all storable = true →
      bookFromHit rt (searchHit doc_id score sort (transformBook search (row.record spelling))) =
        .ok row.toReadModel ∧
      ReadsBack rt store key (BookReadModel.fromMapping rt) row.toReadModel.dict
        row.toReadModel) ∧
    (∀ row : LoanModel, row.texts.all storable = true →
      loanFromHit rt (searchHit doc_id score sort (transformLoan search (row.record spelling))) =
        .ok row.toReadModel ∧
      ReadsBack rt store key (LoanReadModel.fromMapping rt) row.toReadModel.dict
        row.toReadModel) ∧
    (∀ row : PatronModel, row.texts.all storable = true →
      (patronFromHit rt
          (searchHit doc_id score sort (transformPatron search (row.record spelling))) =
          .ok row.toReadModel ↔
        PyStr.strip (row.first_name ++ py " " ++ row.last_name) =
          row.first_name ++ py " " ++ row.last_name) ∧
      ReadsBack rt store key (PatronReadModel.fromMapping rt) row.toReadModel.dict
        row.toReadModel) ∧
    ∀ (patron : PatronFields) (version : ℕ),
      patronFromHit rt (searchHit doc_id score sort
          (transformPatron search ((PatronModel.fromEntity patron version).record spelling))) =
        .ok (PatronModel.fromEntity patron version).toReadModel := by
  refine ⟨fun row hrow => ⟨?_, ?_⟩, fun row hrow => ⟨?_, ?_⟩, fun row hrow => ⟨?_, ?_⟩,
    fun patron version => ?_⟩
  · exact bookFromHit_document rt search doc_id score sort hspelling row
  · exact readsBack_of_cacheable rt store key (BookModel.cacheable hrow)
      (BookReadModel.fromMapping_dict rt rfl)
  · exact loanFromHit_document rt search doc_id score sort hspelling row
  · exact readsBack_of_cacheable rt store key (LoanModel.cacheable hrow)
      (LoanReadModel.fromMapping_dict rt row.toReadModel)
  · rw [patronFromHit_document rt search doc_id score sort hspelling row, Except.ok.injEq]
    constructor
    · exact fun hsame => congrArg PatronReadModel.name hsame
    · intro hstrip
      rw [hstrip]
      rfl
  · exact readsBack_of_cacheable rt store key (PatronModel.cacheable hrow)
      (PatronReadModel.fromMapping_dict rt row.toReadModel)
  · rw [patronFromHit_document rt search doc_id score sort hspelling]
    have hname : PyStr.strip ((PatronModel.fromEntity patron version).first_name ++ py " " ++
        (PatronModel.fromEntity patron version).last_name) =
          (PatronModel.fromEntity patron version).first_name ++ py " " ++
            (PatronModel.fromEntity patron version).last_name :=
      strip_boundedName patron.name.first_name patron.name.last_name
    rw [hname]
    rfl

end Paths

def asciiSearchRuntime : SearchRuntime where
  toInt := fun value =>
    match value with
    | .int n => some n
    | _ => none
  toInt_int := fun _ => rfl
  text := fun value =>
    match value with
    | .str s => s
    | _ => []
  text_str := fun _ => rfl
  fromtimestamp := fun _ => py "1970-01-01T00:00:00Z"

/-- The loans of the change records, the other columns of the rebuild. -/
def mixedSpelling : Spelling := fun column t =>
  if column = py "borrowed_at" then isoformatZulu t else isoformat t

theorem mixedSpelling_reads : mixedSpelling.Reads asciiRuntime := by
  refine Spelling.reads_of_forms asciiRuntime fun column t => ?_
  unfold mixedSpelling
  split
  · exact .inr rfl
  · exact .inl rfl

theorem read_paths_agree_active :
    (loanFromHit asciiQueryRuntime (searchHit (py "l1") .null (.arr [])
        (transformLoan asciiSearchRuntime ((activeRow (py "l1") 5).record mixedSpelling))) =
      .ok (activeRow (py "l1") 5).toReadModel ∧
    ReadsBack asciiQueryRuntime (fun _ => none) (py "loan:l1")
      (LoanReadModel.fromMapping asciiQueryRuntime) (activeRow (py "l1") 5).toReadModel.dict
      (activeRow (py "l1") 5).toReadModel) :=
  (read_paths_agree asciiQueryRuntime asciiSearchRuntime mixedSpelling (py "l1") .null (.arr [])
    (fun _ => none) (py "loan:l1") mixedSpelling_reads).2.1 _ (by decide)

/-- The CHECKs of the table trim a first name before they measure it. -/
def blankedRow : PatronModel := { memberRow (py "p1") 0 with first_name := py " Ann" }

theorem read_paths_disagree_blanked :
    blankedRow.Accepted asciiCollation.toSqlText ∧ blankedRow.texts.all storable = true ∧
      patronFromHit asciiQueryRuntime (searchHit (py "p1") .null (.arr [])
          (transformPatron asciiSearchRuntime (blankedRow.record mixedSpelling))) ≠
        .ok blankedRow.toReadModel := by
  refine ⟨?_, by decide, ?_⟩
  · have hchecks : (blankedRow.constraints asciiCollation.toSqlText).all
        (fun check => decide (Sql.Accepts check.2)) = true := by decide +kernel
    rw [List.all_eq_true] at hchecks
    exact fun check hcheck => of_decide_eq_true (hchecks check hcheck)
  · rw [patronFromHit_document asciiQueryRuntime asciiSearchRuntime (py "p1") .null (.arr [])
      mixedSpelling_reads blankedRow, Ne, Except.ok.injEq]
    intro hsame
    have hname := congrArg PatronReadModel.name hsame
    exact absurd hname (by decide +kernel)

end LibrarySystem
