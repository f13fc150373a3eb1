import LibrarySystem.Events.RoundTrip
import LibrarySystem.Messaging.DeadLetter

/-!
# One message of the domain-event consumer

`_process_message` dispatches an accepted event, or quarantines the payload and
asks for the source record to be parked.  The dispatcher and the database do
not fail here, so the outcome is decided by the payload alone.  The
database stores every row that fits the quarantine table: a 32-bit contract
version and text without NUL.
-/

namespace LibrarySystem

open Result

/-- A row of `event_quarantine`. -/
structure QuarantinedEvent where
  id : PyStr
  event_id : Option PyStr
  topic : PyStr
  message_key : Option PyStr
  contract_name : Option PyStr
  contract_version : Option ℤ
  reason : PyStr
  payload : PyStr

def fitsInteger (n : ℤ) : Bool := -2147483648 ≤ n && n ≤ 2147483647

def textFits (text : PyStr) : Bool := !PyStr.hasNul text

/-- The columns hold the row. -/
def QuarantinedEvent.fits (row : QuarantinedEvent) : Bool :=
  textFits row.id && row.event_id.all textFits && textFits row.topic &&
    row.message_key.all textFits && row.contract_name.all textFits &&
    row.contract_version.all fitsInteger && textFits row.reason &&
    textFits row.payload

/-- `_searchable_identity` -/
def searchableIdentity (maximum : ℕ) (value : Option PyStr) : Option PyStr :=
  value.filter fun s =>
    decide (1 ≤ s.length) && decide (s.length ≤ maximum) &&
      PyStr.matchesHeadTail CodePoint.isAlphanumeric isIdentityTail s

inductive QuarantineFailure
  | unicodeEncodeError
  | databaseRefused
deriving DecidableEq

/-- `None if message_key is None else _canonical_json(message_key)` -/
def keyJson (rt : PythonRuntime) : Json → Option PyStr
  | .null => none
  | key => some (Json.canonical rt.floatRepr key)

def nul : CodePoint := ⟨0, by decide⟩

/-- `f"{topic}\0{key_json}\0{payload_json}"` -/
def fingerprintText (rt : PythonRuntime) (topic : Topic) (key payload : Json) : PyStr :=
  topic.val ++ nul :: ((keyJson rt key).getD (py "None") ++
    nul :: Json.canonical rt.floatRepr payload)

/-- `SqlAlchemyEventQuarantine.quarantine` -/
def quarantine (rt : PythonRuntime) (topic : Topic) (key payload : Json)
    (error : EventContractError) : Except QuarantineFailure QuarantinedEvent :=
  match PyStr.encodeUtf8 (fingerprintText rt topic key payload) with
  | none => .error .unicodeEncodeError
  | some bytes =>
      let row : QuarantinedEvent :=
        { id := rt.sha256 bytes
          event_id := searchableIdentity 128 error.event_id
          topic := topic.val
          message_key := keyJson rt key
          contract_name := searchableIdentity 160 error.contract_name
          contract_version := error.contract_version
          reason := error.message
          payload := Json.canonical rt.floatRepr payload }
      if row.fits then .ok row else .error .databaseRefused

structure EventDeliveryIdentity where
  contract_name : PyStr
  contract_version : ℤ
  payload_hash : PyStr

/-- `_delivery_identity` of an accepted event; `none` is the
`UnicodeEncodeError` of the hash. -/
def deliveryIdentity (rt : PythonRuntime) (event : DomainEvent) (value : Json) :
    Option EventDeliveryIdentity :=
  (PyStr.encodeUtf8 (Json.canonical rt.floatRepr value)).map fun bytes =>
    { contract_name := (contractOf event.eventClass).qualifiedName
      contract_version := (contractOf event.eventClass).version
      payload_hash := rt.sha256 bytes }

/-- `DURABLE_TRANSITION_EVENTS` -/
def EventClass.isDurableTransition : EventClass → Bool
  | .catalogBookReserved | .catalogBookReleased | .loanCreated | .loanCompleted => true
  | _ => false

inductive ConsumerException
  | unrecoverable (message : PyStr)
  | durable (message : PyStr)
  | unicodeEncodeError
  | escaped (error : Raised)

structure Processed where
  dispatched : List (DomainEvent × EventDeliveryIdentity)
  quarantined : List QuarantinedEvent
  raised : Option ConsumerException

/-- The branches of `_process_message` on what the registry made of a value;
`hasQuarantine` tells whether the consumer was given a quarantine. -/
def settleMessage (rt : PythonRuntime) (hasQuarantine : Bool) (topic : Topic)
    (key value : Json) : Except RegistryException DomainEvent → Processed
  | .error (.contract error) =>
      if hasQuarantine then
        match quarantine rt topic key value error with
        | .error _ =>
            ⟨[], [], some (.durable (py "Could not quarantine unsupported event from " ++
              topic.val))⟩
        | .ok row =>
            ⟨[], [row], some (.unrecoverable
              (py "Unsupported domain event quarantined as " ++ row.id))⟩
      else
        ⟨[], [], some (.unrecoverable (py "Unsupported domain event on " ++ topic.val ++
          py ": " ++ error.message))⟩
  | .error (.escaped error) => ⟨[], [], some (.escaped error)⟩
  | .ok event =>
      match deliveryIdentity rt event value with
      | some identity => ⟨[(event, identity)], [], none⟩
      | none =>
          if event.eventClass.isDurableTransition then
            ⟨[], [], some (.durable (py "State transition " ++
              event.eventClass.name ++ py " has not converged"))⟩
          else ⟨[], [], some .unicodeEncodeError⟩

/-- `DomainEventConsumer._process_message` -/
def processMessage (rt : PythonRuntime) (hasQuarantine : Bool) (topic : Topic)
    (key value : Json) : Processed :=
  match value with
  | .null => ⟨[], [], none⟩
  | value => settleMessage rt hasQuarantine topic key value (deserializeEvent rt value)

/-- Exactly one dispatch and no exception, or no dispatch and the exception
that parks the record. -/
def Processed.Settled (processed : Processed) : Prop :=
  (∃ delivery, processed.dispatched = [delivery] ∧ processed.raised = none) ∨
    ∃ message, processed.dispatched = [] ∧
      processed.raised = some (.unrecoverable message)

/-! ## The payloads that are settled -/

/-- What the checks before the field coercion hand on: the contract, the raw
event id and all values. -/
def framedEvent (rt : PythonRuntime) (value : Json) :
    Option (EventContract × PyStr × List (PyStr × PyValue)) :=
  match value with
  | .obj members => do
      let parts ← (readParts rt members).toOption
      let contract ← (readContract parts).toOption
      let metadata := Json.toEntries parts.metadata
      let data := Json.toEntries parts.data
      let eventId ← (checkMetadata contract metadata).toOption
      let _ ← (checkDataNames contract eventId data).toOption
      pure (contract, eventId, metadata ++ data)
  | _ => none

/-- An ISO-8601 text whose UTC reading leaves the years 1 to 9999. -/
def UnrepresentableInstant (rt : PythonRuntime) (value : PyValue) : Prop :=
  ∃ text found offset, value = .str text ∧
    rt.fromisoformat (normalizeZulu text) = some found ∧
    found.utcoffset = some offset ∧
    ¬ (0 ≤ DateTime.instant found.wall offset ∧
      DateTime.instant found.wall offset < wallSpan)

/-- The first field that is not of its kind is an unrepresentable datetime. -/
def OverflowsFirst (rt : PythonRuntime) (values : List (PyStr × PyValue)) :
    List (PyStr × FieldType) → Prop
  | [] => False
  | (name, type) :: rest =>
      match PyValue.lookup name values with
      | none => OverflowsFirst rt values rest
      | some value =>
          (type = .datetime ∧ UnrepresentableInstant rt value) ∨
            ((coerceAndValidateValue rt type value).toOption.isSome = true ∧
              OverflowsFirst rt values rest)

/-- Each trace identity is null or matches the identity pattern. -/
def isTraced (kwargs : List (PyStr × PyValue)) : Bool :=
  [py "event_id", py "correlation_id", py "causation_id"].all fun name =>
    match PyValue.get name kwargs with
    | .str value => isIdentity (PyStr.strip value)
    | .none => name != py "event_id"
    | _ => false

/-- Every check before the constructor of the base class passes. -/
def Complete (rt : PythonRuntime) (value : Json) (kwargs : List (PyStr × PyValue)) :
    Prop :=
  ∃ contract eventId values, framedEvent rt value = some (contract, eventId, values) ∧
    coerceFields rt contract eventId values contract.eventClass.fields = .ok kwargs ∧
    validateEventSemantics rt kwargs = .ok () ∧
    missingFields contract.eventClass kwargs = []

/-- The names outside the envelope that a rejected payload is reported with. -/
def reportedNames (rt : PythonRuntime) : Json → List PyStr
  | .obj members =>
      if unexpectedNames members envelopeNames ≠ [] then
        unexpectedNames members envelopeNames
      else
        match readParts rt members with
        | .error _ => []
        | .ok parts =>
            if unexpectedNames parts.contract contractNames ≠ [] then
              unexpectedNames parts.contract contractNames
            else if unexpectedNames parts.metadata metadataNames ≠ [] then
              unexpectedNames parts.metadata metadataNames
            else
              match readContract parts with
              | .error _ => []
              | .ok contract =>
                  match checkMetadata contract (Json.toEntries parts.metadata) with
                  | .error _ => []
                  | .ok _ =>
                      unexpectedNames (Json.toEntries parts.data)
                        contract.eventClass.domainFieldNames
  | _ => []

/-- An integer version that is not the registered one of its contract. -/
def versionMismatch : Option PyStr → Json → Option ℤ
  | some name, .int version =>
      match contractByName name with
      | some contract => if version = contract.version then none else some version
      | none => some version
  | _, _ => none

/-- The integer version of a readable contract that is not registered. -/
def unregisteredVersion (rt : PythonRuntime) : Json → Option ℤ
  | .obj members =>
      match readParts rt members with
      | .error _ => none
      | .ok parts =>
          if unexpectedNames parts.contract contractNames = [] ∧
              unexpectedNames parts.metadata metadataNames = [] ∧
              missingMetadata parts.metadata = [] then
            versionMismatch
              (qualifiedNameOf (Json.get (py "namespace") parts.contract)
                (Json.get (py "name") parts.contract))
              (Json.get (py "version") parts.contract)
          else none
  | _ => none

/-- The condition on key and payload under which the message is settled. -/
structure SettledInput (rt : PythonRuntime) (hasQuarantine : Bool) (key value : Json) :
    Prop where
  representable : ∀ contract eventId values,
    framedEvent rt value = some (contract, eventId, values) →
      ¬ OverflowsFirst rt values contract.eventClass.fields
  traced : ∀ kwargs, Complete rt value kwargs → isTraced kwargs = true
  accepted_text : ∀ kwargs, Complete rt value kwargs → value.hasSurrogate = false
  rejected_text : (∀ kwargs, ¬ Complete rt value kwargs) → hasQuarantine = true →
    value.hasSurrogate = false ∧ key.hasSurrogate = false
  rejected_row : (∀ kwargs, ¬ Complete rt value kwargs) → hasQuarantine = true →
    (∀ name ∈ reportedNames rt value, PyStr.hasNul name = false) ∧
      (unregisteredVersion rt value).all fitsInteger = true

end LibrarySystem
