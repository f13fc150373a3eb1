import LibrarySystem.Domain.Events

/-!
# The wire contract of domain events

`serialize_event` checks an event with the same constructor path that
`deserialize_event` runs on a decoded payload, then writes the envelope.  The
checks are split into the stages of the source: metadata, field names, field
types, business semantics, and the constructor of the event class.
-/

namespace LibrarySystem

structure EventContract where
  «namespace» : PyStr
  name : PyStr
  version : ℤ
  eventClass : EventClass
deriving DecidableEq

def EventContract.qualifiedName (contract : EventContract) : PyStr :=
  contract.namespace ++ py "." ++ contract.name

/-- `_CONTRACT_BY_CLASS` -/
def contractOf : EventClass → EventContract
  | .bookAddedToCatalog =>
      ⟨py "library.catalog", py "book-added", 1, .bookAddedToCatalog⟩
  | .bookRemovedFromCatalog =>
      ⟨py "library.catalog", py "book-removed", 1, .bookRemovedFromCatalog⟩
  | .catalogBookReserved =>
      ⟨py "library.catalog", py "book-reserved", 1, .catalogBookReserved⟩
  | .catalogBookBorrowed =>
      ⟨py "library.catalog", py "book-borrowed", 1, .catalogBookBorrowed⟩
  | .catalogBookReleased =>
      ⟨py "library.catalog", py "book-released", 1, .catalogBookReleased⟩
  | .catalogBookReturned =>
      ⟨py "library.catalog", py "book-returned", 1, .catalogBookReturned⟩
  | .loanCreated => ⟨py "library.lending", py "loan-created", 1, .loanCreated⟩
  | .loanCompleted =>
      ⟨py "library.lending", py "loan-completed", 1, .loanCompleted⟩
  | .loanCancelled =>
      ⟨py "library.lending", py "loan-cancelled", 1, .loanCancelled⟩
  | .loanExtended => ⟨py "library.lending", py "loan-extended", 1, .loanExtended⟩
  | .bookOverdue => ⟨py "library.lending", py "book-overdue", 1, .bookOverdue⟩
  | .patronRegistered =>
      ⟨py "library.patron", py "patron-registered", 1, .patronRegistered⟩
  | .patronSuspended =>
      ⟨py "library.patron", py "patron-suspended", 1, .patronSuspended⟩
  | .patronReinstated =>
      ⟨py "library.patron", py "patron-reinstated", 1, .patronReinstated⟩

def eventClasses : List EventClass :=
  [.bookAddedToCatalog, .bookRemovedFromCatalog, .catalogBookReserved,
    .catalogBookBorrowed, .catalogBookReleased, .catalogBookReturned,
    .loanCreated, .loanCompleted, .loanCancelled, .loanExtended, .bookOverdue,
    .patronRegistered, .patronSuspended, .patronReinstated]

/-- `EVENT_CONTRACTS` -/
def eventContracts : List EventContract := eventClasses.map contractOf

/-- `_CONTRACT_BY_NAME.get` -/
def contractByName (qualifiedName : PyStr) : Option EventContract :=
  eventContracts.find? fun contract => contract.qualifiedName = qualifiedName

theorem contractByName_contractOf (cls : EventClass) :
    contractByName (contractOf cls).qualifiedName = some (contractOf cls) := by
  cases cls <;> decide

theorem mem_of_contractByName
    {qualifiedName : PyStr} {contract : EventContract}
    (hfind : contractByName qualifiedName = some contract) :
    contract = contractOf contract.eventClass ∧
      contract.qualifiedName = qualifiedName := by
  have hmem := List.mem_of_find?_eq_some hfind
  have hname := List.find?_some hfind
  refine ⟨?_, by simpa using hname⟩
  obtain ⟨cls, _, rfl⟩ := List.mem_map.mp hmem
  cases cls <;> rfl

inductive ContractErrorKind
  | unsupportedEventContract
  | invalidEventEnvelope
deriving DecidableEq

structure EventContractError where
  kind : ContractErrorKind
  message : PyStr
  event_id : Option PyStr
  contract_name : Option PyStr
  contract_version : Option ℤ
deriving DecidableEq

/-- What the registry raises: its own error, or one it does not catch. -/
inductive RegistryException
  | contract (error : EventContractError)
  | escaped (error : Raised)

namespace PyValue

def lookup (key : PyStr) : List (PyStr × PyValue) → Option PyValue
  | [] => Option.none
  | (name, value) :: rest => if name = key then some value else lookup key rest

/-- `values.get(key)` -/
def get (key : PyStr) (values : List (PyStr × PyValue)) : PyValue :=
  (lookup key values).getD .none

end PyValue

mutual

/-- A decoded JSON value as a Python object. -/
def Json.toValue : Json → PyValue
  | .null => .none
  | .bool value => .bool value
  | .int value => .int value
  | .float bits => .float bits
  | .str value => .str value
  | .arr items => .list (Json.toValues items)
  | .obj members => .dict (Json.toEntries members)

def Json.toValues : List Json → List PyValue
  | [] => []
  | item :: rest => Json.toValue item :: Json.toValues rest

def Json.toEntries : List (PyStr × Json) → List (PyStr × PyValue)
  | [] => []
  | (name, value) :: rest => (name, Json.toValue value) :: Json.toEntries rest

end

/-- `_encode_value` on a datetime. -/
def encodeDatetime (value : DateTime) : Except PyException Json :=
  match value.utcoffset with
  | none =>
      .error (.typeError (py "Event datetimes must include an explicit UTC offset"))
  | some offset => do
      let utc ← DateTime.astimezoneUtc value.wall offset
      pure (.str (isoformat utc))

mutual

/-- What `json.dumps(value, default=_encode_value)` writes. -/
def PyValue.encode : PyValue → Except PyException Json
  | .none => .ok .null
  | .bool value => .ok (.bool value)
  | .int value => .ok (.int value)
  | .float bits => .ok (.float bits)
  | .str value => .ok (.str value)
  | .datetime value => encodeDatetime value
  | .list items => do
      let items ← PyValue.encodeItems items
      pure (.arr items)
  | .dict entries => do
      let members ← PyValue.encodeEntries entries
      pure (.obj members)
  | .object className =>
      .error (.typeError
        (py "Cannot serialize " ++ className ++ py " in an event contract"))

def PyValue.encodeItems : List PyValue → Except PyException (List Json)
  | [] => .ok []
  | item :: rest => do
      let first ← PyValue.encode item
      let tail ← PyValue.encodeItems rest
      pure (first :: tail)

def PyValue.encodeEntries :
    List (PyStr × PyValue) → Except PyException (List (PyStr × Json))
  | [] => .ok []
  | (name, value) :: rest => do
      let first ← PyValue.encode value
      let tail ← PyValue.encodeEntries rest
      pure ((name, first) :: tail)

end

/-! ## Field types -/

/-- The `Z` suffix is spelled out before `fromisoformat`. -/
def normalizeZulu (value : PyStr) : PyStr :=
  if value.getLast? = some ⟨0x5A, by decide⟩ then value.dropLast ++ py "+00:00"
  else value

def coerceAware (value : DateTime) : Except PyException PyValue :=
  match value.utcoffset with
  | none => .error (.valueError (py "must include an explicit UTC offset"))
  | some offset => do
      let utc ← DateTime.astimezoneUtc value.wall offset
      pure (.datetime (.ofUtc utc))

def coerceStr : PyValue → Except PyException PyValue
  | .str value =>
      if PyStr.strip value = [] then
        .error (.typeError (py "must be a non-empty string"))
      else .ok (.str value)
  | _ => .error (.typeError (py "must be a non-empty string"))

/-- `_coerce_and_validate_value` -/
def coerceAndValidateValue (rt : PythonRuntime) :
    FieldType → PyValue → Except PyException PyValue
  | .optionalStr, .none => .ok .none
  | .optionalStr, value =>
      match coerceStr value with
      | .ok value => .ok value
      | .error _ => .error (.typeError (py "does not match typing.Optional[str]"))
  | .datetime, .datetime value => coerceAware value
  | .datetime, .str value =>
      match rt.fromisoformat (normalizeZulu value) with
      | none => .error (.valueError (py "must be an ISO-8601 datetime"))
      | some value => coerceAware value
  | .datetime, _ => .error (.typeError (py "must be an ISO-8601 datetime"))
  | .str, value => coerceStr value
  | .bool, .bool value => .ok (.bool value)
  | .bool, _ => .error (.typeError (py "must be a boolean"))
  | .int, .int value => .ok (.int value)
  | .int, _ => .error (.typeError (py "must be an integer"))

/-- The text of the exceptions that `except (TypeError, ValueError)` catches. -/
def PyException.caught : PyException → Option PyStr
  | .typeError message => some message
  | .valueError message => some message
  | .overflowError | .assertionError => none

def invalidEnvelope (contract : EventContract) (eventId : Option PyStr)
    (message : PyStr) : EventContractError :=
  { kind := .invalidEventEnvelope
    message := message
    event_id := eventId
    contract_name := some contract.qualifiedName
    contract_version := some contract.version }

/-- Re-raise what is caught as a contract error, let the rest through. -/
def wrapCaught {α : Type} (wrap : PyStr → EventContractError) :
    Except PyException α → Except RegistryException α
  | .ok value => .ok value
  | .error error =>
      match error.caught with
      | some message => .error (.contract (wrap message))
      | none => .error (.escaped (.python error))

/-- The loop over the declared fields: a field without a value is skipped. -/
def coerceFields (rt : PythonRuntime) (contract : EventContract) (eventId : PyStr)
    (values : List (PyStr × PyValue)) :
    List (PyStr × FieldType) → Except RegistryException (List (PyStr × PyValue))
  | [] => .ok []
  | (name, type) :: rest =>
      match PyValue.lookup name values with
      | none => coerceFields rt contract eventId values rest
      | some value => do
          let coerced ← wrapCaught
            (fun message => invalidEnvelope contract (some eventId)
              (py "Invalid value for " ++ name ++ py ": " ++ message))
            (coerceAndValidateValue rt type value)
          let tail ← coerceFields rt contract eventId values rest
          pure ((name, coerced) :: tail)

/-! ## Business semantics -/

/-- Run a check on each named field that has a value. -/
def checkEach (values : List (PyStr × PyValue))
    (check : PyStr → PyValue → Except PyException Unit) :
    List PyStr → Except PyException Unit
  | [] => .ok ()
  | name :: rest =>
      match PyValue.get name values with
      | .none => checkEach values check rest
      | value => do
          check name value
          checkEach values check rest

def checkReferenceId (name : PyStr) : PyValue → Except PyException Unit
  | .str value =>
      if isReference value = true then .ok ()
      else .error (.valueError (name ++ py " must be a safe 1-64 character ID"))
  | _ => .error (.valueError (name ++ py " must be a safe 1-64 character ID"))

def checkReservationId (_name : PyStr) : PyValue → Except PyException Unit
  | .str value =>
      if matchesUuidPattern uuidShape value = true then .ok ()
      else .error (.valueError (py "reservation_id must be a UUID"))
  | _ => .error (.valueError (py "reservation_id must be a UUID"))

/-- `type(value) is not int or value < 1`, for the generation and the days. -/
def checkPositive (name : PyStr) : PyValue → Except PyException Unit
  | .int value =>
      if value < 1 then
        .error (.valueError (name ++ py " must be a positive integer"))
      else .ok ()
  | _ => .error (.valueError (name ++ py " must be a positive integer"))

def checkEmail (rt : PythonRuntime) (name : PyStr) :
    PyValue → Except PyException Unit
  | .str value =>
      if value = rt.lower (PyStr.strip value) ∧ value.length ≤ 254 ∧
          isEmail value = true then .ok ()
      else
        .error (.valueError (name ++ py " must be a normalized email address"))
  | _ => .error (.valueError (name ++ py " must be a normalized email address"))

def checkBounded (maximum : ℕ) (name : PyStr) : PyValue → Except PyException Unit
  | .str value =>
      if PyStr.strip value ≠ [] ∧ value.length ≤ maximum then .ok ()
      else
        .error (.valueError (name ++ py " must be 1-" ++ Json.renderNat maximum ++
          py " characters"))
  | _ =>
      .error (.valueError (name ++ py " must be 1-" ++ Json.renderNat maximum ++
        py " characters"))

/-- `right <= left` raises when both are present; only aware datetimes reach
this comparison. -/
def checkAfter (left : PyValue) (message : PyStr) :
    PyValue → Except PyException Unit
  | .none => .ok ()
  | right =>
      match left, right with
      | .none, _ => .ok ()
      | .datetime ⟨wall, some offset⟩, .datetime ⟨wall', some offset'⟩ =>
          if DateTime.instant wall' offset' ≤ DateTime.instant wall offset then
            .error (.valueError message)
          else .ok ()
      | _, _ => .error (.typeError (py "'<=' not supported between instances"))

def boundedFields : List (PyStr × ℕ) :=
  [(py "title", 100), (py "book_title", 100), (py "reason", 500),
    (py "original_event_type", 64), (py "aggregate_type", 32),
    (py "aggregate_id", 64)]

/-- `_validate_event_semantics` -/
def validateEventSemantics (rt : PythonRuntime) (values : List (PyStr × PyValue)) :
    Except PyException Unit := do
  checkEach values checkReferenceId [py "book_id", py "loan_id", py "patron_id"]
  checkEach values checkReservationId [py "reservation_id"]
  checkEach values checkPositive [py "reservation_generation"]
  checkEach values (checkEmail rt) [py "borrower_email", py "patron_email"]
  let borrowedAt := PyValue.get (py "borrowed_at") values
  checkAfter borrowedAt (py "due_date must be after borrowed_at")
    (PyValue.get (py "due_date") values)
  checkAfter borrowedAt (py "return_due_date must be after borrowed_at")
    (PyValue.get (py "return_due_date") values)
  checkAfter (PyValue.get (py "old_due_date") values)
    (py "new_due_date must be after old_due_date")
    (PyValue.get (py "new_due_date") values)
  checkEach values checkPositive [py "days_overdue"]
  boundedFields.forM fun field =>
    checkEach values (checkBounded field.2) [field.1]

/-! ## The constructor of the event class -/

/-- The list in the interpreter's message about missing arguments. -/
def listNames : List PyStr → PyStr
  | [] => []
  | [name] => py "'" ++ name ++ py "'"
  | [first, second] => py "'" ++ first ++ py "' and '" ++ second ++ py "'"
  | [first, second, third] =>
      py "'" ++ first ++ py "', '" ++ second ++ py "', and '" ++ third ++ py "'"
  | first :: rest => py "'" ++ first ++ py "', " ++ listNames rest

def missingArguments (cls : EventClass) (missing : List PyStr) : PyStr :=
  cls.name ++ py ".__init__() missing " ++ Json.renderNat missing.length ++
    (if missing.length = 1 then py " required positional argument: "
      else py " required positional arguments: ") ++ listNames missing

/-- `_event_identity` on any value. -/
def eventIdentityOf (fieldName : PyStr) : PyValue → Except Raised EventIdentity
  | .str value => eventIdentity value fieldName
  | _ => .error (.validation (fieldName ++ py " must be a string"))

/-- `DomainEvent.__post_init__` -/
def postInit (kwargs : List (PyStr × PyValue)) : Except Raised EventMetadata := do
  let eventId ← eventIdentityOf (py "event_id") (PyValue.get (py "event_id") kwargs)
  let correlationId ←
    match PyValue.get (py "correlation_id") kwargs with
    | .none => pure eventId
    | value => eventIdentityOf (py "correlation_id") value
  let causationId ←
    match PyValue.get (py "causation_id") kwargs with
    | .none => pure none
    | value => (eventIdentityOf (py "causation_id") value).map some
  let occurredAt ←
    match PyValue.get (py "occurred_at") kwargs with
    | .datetime value => requireUtcDatetime value (py "occurred_at")
    | _ => throw (.validation (py "occurred_at must be a datetime"))
  pure
    { event_id := eventId
      occurred_at := occurredAt
      correlation_id := correlationId
      causation_id := causationId }

def missingFields (cls : EventClass) (kwargs : List (PyStr × PyValue)) :
    List PyStr :=
  cls.domainFieldNames.filter fun name => (PyValue.lookup name kwargs).isNone

/-- `_validate_event_semantics` and `event_class(**kwargs)`. -/
def finishEvent (rt : PythonRuntime) (contract : EventContract) (eventId : PyStr)
    (kwargs : List (PyStr × PyValue)) : Except RegistryException DomainEvent := do
  let invalidData (message : PyStr) :=
    invalidEnvelope contract (some eventId)
      (py "Invalid " ++ contract.qualifiedName ++ py " v" ++
        Json.renderInt contract.version ++ py " data: " ++ message)
  wrapCaught invalidData (validateEventSemantics rt kwargs)
  let missing := missingFields contract.eventClass kwargs
  if missing ≠ [] then
    throw (.contract (invalidData (missingArguments contract.eventClass missing)))
  let metadata ← (postInit kwargs).mapError .escaped
  pure
    { eventClass := contract.eventClass
      metadata := metadata
      data := contract.eventClass.domainFieldNames.map fun name =>
        (name, PyValue.get name kwargs)
      data_fields := by simp [Function.comp_def] }

/-! ## Metadata and field names -/

/-- `correlation_id` or `causation_id`: null or non-blank text. -/
def isTraceValue : PyValue → Bool
  | .none => true
  | .str value => PyStr.strip value != []
  | _ => false

def checkMetadata (contract : EventContract) (metadata : List (PyStr × PyValue)) :
    Except EventContractError PyStr :=
  match PyValue.get (py "event_id") metadata with
  | .str eventId =>
      if PyStr.strip eventId = [] then
        .error (invalidEnvelope contract none
          (py "Event metadata requires a non-empty event_id"))
      else
        let blankTrace (name : PyStr) :=
          invalidEnvelope contract (some eventId) (py "Event metadata " ++ name ++
            py " must be a non-empty string or null")
        match PyValue.get (py "occurred_at") metadata with
        | .str _ | .datetime _ =>
            if isTraceValue (PyValue.get (py "correlation_id") metadata) then
              if isTraceValue (PyValue.get (py "causation_id") metadata) then
                .ok eventId
              else .error (blankTrace (py "causation_id"))
            else .error (blankTrace (py "correlation_id"))
        | _ =>
            .error (invalidEnvelope contract (some eventId)
              (py "Event metadata requires occurred_at"))
  | _ =>
      .error (invalidEnvelope contract none
        (py "Event metadata requires a non-empty event_id"))

/-- The names of a `dict` outside the allowed ones. -/
def unexpectedNames {α : Type} (entries : List (PyStr × α)) (allowed : List PyStr) :
    List PyStr :=
  ((entries.map Prod.fst).filter fun name => name ∉ allowed).dedup

/-- `_format_field_names` -/
def formatFieldNames (names : List PyStr) : PyStr :=
  (py ", ").intercalate (names.mergeSort Json.textLe)

def checkDataNames (contract : EventContract) (eventId : PyStr)
    (data : List (PyStr × PyValue)) : Except EventContractError Unit :=
  let unexpected := unexpectedNames data contract.eventClass.domainFieldNames
  if unexpected = [] then .ok ()
  else
    .error (invalidEnvelope contract (some eventId)
      (py "Unexpected " ++ contract.qualifiedName ++ py " data field(s): " ++
        formatFieldNames unexpected))

/-- `_construct_event` -/
def constructEvent (rt : PythonRuntime) (contract : EventContract)
    (metadata data : List (PyStr × PyValue)) :
    Except RegistryException DomainEvent := do
  let eventId ← (checkMetadata contract metadata).mapError .contract
  (checkDataNames contract eventId data).mapError .contract
  let kwargs ← coerceFields rt contract eventId (metadata ++ data)
    contract.eventClass.fields
  finishEvent rt contract eventId kwargs

/-! ## Writing -/

def metadataNames : List PyStr := EventClass.metadataFields.map Prod.fst

/-- `_METADATA_FIELDS` is a set: its iteration order is fixed per process. -/
abbrev MetadataOrder := {order : List PyStr // order.Perm metadataNames}

def EventMetadata.entry (metadata : EventMetadata) (name : PyStr) : PyValue :=
  if name = py "event_id" then .str metadata.event_id.val
  else if name = py "occurred_at" then .datetime (.ofUtc metadata.occurred_at)
  else if name = py "correlation_id" then .str metadata.correlation_id.val
  else
    match metadata.causation_id with
    | some causation => .str causation.val
    | none => .none

theorem EventMetadata.entry_causation (metadata : EventMetadata) :
    metadata.entry (py "causation_id") =
      metadata.causation_id.elim .none (fun causation => .str causation.val) := by
  unfold EventMetadata.entry
  rw [if_neg (by decide), if_neg (by decide), if_neg (by decide)]
  cases metadata.causation_id <;> rfl

def EventMetadata.entries (metadata : EventMetadata) (order : MetadataOrder) :
    List (PyStr × PyValue) :=
  order.val.map fun name => (name, metadata.entry name)

def envelopeVersion : ℤ := 1

def envelope (contract : EventContract) (metadata data : List (PyStr × Json)) :
    Json :=
  .obj
    [(py "envelope_version", .int envelopeVersion),
      (py "contract", .obj
        [(py "namespace", .str contract.namespace), (py "name", .str contract.name),
          (py "version", .int contract.version)]),
      (py "metadata", .obj metadata),
      (py "data", .obj data)]

/-- `serialize_event` -/
def serializeEvent (rt : PythonRuntime) (order : MetadataOrder) (event : DomainEvent) :
    Except RegistryException PyStr := do
  let contract := contractOf event.eventClass
  let metadata := event.metadata.entries order
  let _ ← constructEvent rt contract metadata event.data
  let encode (entries : List (PyStr × PyValue)) :=
    (PyValue.encodeEntries entries).mapError fun error =>
      RegistryException.escaped (.python error)
  let metadata ← encode metadata
  let data ← encode event.data
  pure (Json.render rt.floatRepr .compact (envelope contract metadata data))

/-! ## Reading -/

/-- `value == 1`, which `True` and `1.0` satisfy as well. -/
def equalsEnvelopeVersion : Json → Bool
  | .int value => value == envelopeVersion
  | .bool value => value
  | .float bits => bits == 0x3FF0000000000000#64
  | _ => false

/-- `_optional_string` -/
def optionalString : Json → Option PyStr
  | .str value => if isIdentity value then some value else none
  | _ => none

def isLowerAlphanumeric (c : CodePoint) : Bool := c.isLower || c.isDigit

/-- `[a-z][a-z0-9.-]*`, at most 80 characters. -/
def isNamespace (s : PyStr) : Bool :=
  decide (s.length ≤ 80) &&
    PyStr.matchesHeadTail CodePoint.isLower
      (fun c => isLowerAlphanumeric c || c.val == 0x2E || c.val == 0x2D) s

/-- `[a-z][a-z0-9-]*`, at most 64 characters. -/
def isContractName (s : PyStr) : Bool :=
  decide (s.length ≤ 64) &&
    PyStr.matchesHeadTail CodePoint.isLower
      (fun c => isLowerAlphanumeric c || c.val == 0x2D) s

def qualifiedNameOf : Json → Json → Option PyStr
  | .str «namespace», .str name =>
      if isNamespace «namespace» && isContractName name then
        some («namespace» ++ py "." ++ name)
      else none
  | _, _ => none

/-- `payload.get(key)` -/
def Json.get (key : PyStr) (members : List (PyStr × Json)) : Json :=
  (Json.lookup key members).getD .null

def envelopeError (message : PyStr) (eventId : Option PyStr)
    (contractName : Option PyStr) : EventContractError :=
  { kind := .invalidEventEnvelope
    message := message
    event_id := eventId
    contract_name := contractName
    contract_version := none }

def unsupportedError (message : PyStr) (eventId : Option PyStr)
    (contractName : Option PyStr) (contractVersion : Option ℤ) :
    EventContractError :=
  { kind := .unsupportedEventContract
    message := message
    event_id := eventId
    contract_name := contractName
    contract_version := contractVersion }

def envelopeNames : List PyStr :=
  [py "envelope_version", py "contract", py "metadata", py "data"]

def contractNames : List PyStr := [py "namespace", py "name", py "version"]

/-- The three objects of an envelope. -/
structure EnvelopeParts where
  contract : List (PyStr × Json)
  metadata : List (PyStr × Json)
  data : List (PyStr × Json)

def readParts (rt : PythonRuntime) (payload : List (PyStr × Json)) :
    Except EventContractError EnvelopeParts := do
  let unexpected := unexpectedNames payload envelopeNames
  if unexpected ≠ [] then
    throw (envelopeError (py "Unexpected event envelope field(s): " ++
      formatFieldNames unexpected) none none)
  let version := Json.get (py "envelope_version") payload
  if !equalsEnvelopeVersion version then
    throw (unsupportedError (py "Unsupported event envelope version: " ++
      rt.repr version) none none none)
  match Json.get (py "contract") payload with
  | .obj contract =>
      match Json.get (py "metadata") payload with
      | .obj metadata =>
          match Json.get (py "data") payload with
          | .obj data => pure ⟨contract, metadata, data⟩
          | _ => throw (envelopeError (py "Event data must be an object") none none)
      | _ =>
          throw (envelopeError (py "Event metadata must be an object") none none)
  | _ => throw (envelopeError (py "Event contract must be an object") none none)

def missingMetadata (metadata : List (PyStr × Json)) : List PyStr :=
  metadataNames.filter fun name => (Json.lookup name metadata).isNone

def readContract (parts : EnvelopeParts) :
    Except EventContractError EventContract := do
  let eventId := optionalString (Json.get (py "event_id") parts.metadata)
  let unexpected := unexpectedNames parts.contract contractNames
  if unexpected ≠ [] then
    throw (envelopeError (py "Unexpected event contract field(s): " ++
      formatFieldNames unexpected) eventId none)
  let unexpected := unexpectedNames parts.metadata metadataNames
  if unexpected ≠ [] then
    throw (envelopeError (py "Unexpected event metadata field(s): " ++
      formatFieldNames unexpected) eventId none)
  let missing := missingMetadata parts.metadata
  if missing ≠ [] then
    throw (envelopeError (py "Missing event metadata field(s): " ++
      formatFieldNames missing) eventId none)
  let qualifiedName := qualifiedNameOf (Json.get (py "namespace") parts.contract)
    (Json.get (py "name") parts.contract)
  match qualifiedName, Json.get (py "version") parts.contract with
  | some name, .int version =>
      let unsupported := unsupportedError (py "Unsupported event contract " ++ name ++
        py " v" ++ Json.renderInt version) eventId (some name) (some version)
      match contractByName name with
      | some contract =>
          if version = contract.version then pure contract else throw unsupported
      | none => throw unsupported
  | _, _ =>
      throw (envelopeError
        (py "Event contract requires string namespace/name and integer version")
        eventId qualifiedName)

/-- `deserialize_event` -/
def deserializeEvent (rt : PythonRuntime) (payload : Json) :
    Except RegistryException DomainEvent :=
  match payload with
  | .obj members => do
      let parts ← (readParts rt members).mapError .contract
      let contract ← (readContract parts).mapError .contract
      constructEvent rt contract (Json.toEntries parts.metadata)
        (Json.toEntries parts.data)
  | _ =>
      .error (.contract
        (envelopeError (py "Event payload must be a JSON object") none none))

end LibrarySystem
