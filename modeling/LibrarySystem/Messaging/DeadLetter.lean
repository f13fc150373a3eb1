import LibrarySystem.Foundation.Result
import LibrarySystem.Python.Bytes
import LibrarySystem.Python.JsonParse
import LibrarySystem.Python.Runtime

/-!
# Records and their dead letters

A record is parked as a JSON wrapper whose key and value are base64, so bytes
that are no UTF-8 or no JSON survive.  The replay tool reads the wrapper; what
it would send back is exactly what was parked.
-/

namespace LibrarySystem

open Result

/-- Kafka topic names: 1 to 249 ASCII characters. -/
def isTopic (s : PyStr) : Bool :=
  decide (1 ≤ s.length) && decide (s.length ≤ 249) && PyStr.isAscii s &&
    !PyStr.hasNul s

abbrev Topic := {s : PyStr // isTopic s = true}

theorem Topic.isAscii (topic : Topic) : PyStr.isAscii topic.val = true := by
  have htopic := topic.property
  simp only [isTopic, Bool.and_eq_true] at htopic
  exact htopic.1.2

/-- `ConsumerRecord` -/
structure ConsumerRecord where
  topic : Topic
  partition : ℕ
  offset : ℕ
  key : Option Bytes
  value : Option Bytes
deriving DecidableEq

abbrev TopicPartition := Topic × ℕ

def ConsumerRecord.source (record : ConsumerRecord) : TopicPartition :=
  (record.topic, record.partition)

/-- A record handed to the producer. -/
structure ProducedRecord where
  topic : PyStr
  key : Option Bytes
  value : Bytes
deriving DecidableEq

/-- `_DLQ_BINARY_FIELD` -/
def binaryField : PyStr := py "__kafka_bytes_base64__"

/-- `encode_dead_letter_field` -/
def encodeDeadLetterField : Option Bytes → Json
  | none => .null
  | some data => .obj [(binaryField, .str (b64encode data))]

inductive DeadLetterField
  | plain (value : Json)
  | bytes (data : Bytes)

/-- `decode_dead_letter_field` -/
def decodeDeadLetterField : Json → Except PyException DeadLetterField
  | .obj [(name, .str text)] =>
      if name = binaryField then
        match b64decode text with
        | some data => .ok (.bytes data)
        | none =>
            .error (.valueError
              (py "DLQ record contains invalid base64 Kafka bytes"))
      else .ok (.plain (.obj [(name, .str text)]))
  | value => .ok (.plain value)

/-- `json.dumps(value).encode("utf-8")` -/
def encodeJson (rt : PythonRuntime) (value : Json) : Option Bytes :=
  PyStr.encodeUtf8 (Json.render rt.floatRepr .default value)

def deadLetterTopic (topic : Topic) : PyStr := topic.val ++ py ".dlq"

/-- The wrapper of `_send_to_dead_letter`. -/
def deadLetterMessage (record : ConsumerRecord) (error : PyStr) : Json :=
  .obj
    [(py "original_topic", .str record.topic.val),
      (py "partition", .int record.partition), (py "offset", .int record.offset),
      (py "key", encodeDeadLetterField record.key),
      (py "value", encodeDeadLetterField record.value), (py "error", .str error)]

/-- What `send` encodes for the dead-letter topic; `none` is a serialization
error. -/
def deadLetter (rt : PythonRuntime) (record : ConsumerRecord) (error : PyStr) :
    Option ProducedRecord := do
  let value ← encodeJson rt (deadLetterMessage record error)
  match record.key with
  | none => pure ⟨deadLetterTopic record.topic, none, value⟩
  | some _ => do
      let key ← encodeJson rt (encodeDeadLetterField record.key)
      pure ⟨deadLetterTopic record.topic, some key, value⟩

/-! ## Replay -/

/-- `json.loads(data.decode("utf-8"))` -/
def readJson (rt : PythonRuntime) (data : Bytes) : Option Json := do
  let text ← decodeUtf8 data
  Json.loads rt.parseFloat text

/-- `_require_kafka_bytes` -/
def requireKafkaBytes : DeadLetterField → Except PyException (Option Bytes)
  | .plain .null => .ok none
  | .plain _ =>
      .error (.valueError (py "DLQ key and value must use the current byte envelope"))
  | .bytes data => .ok (some data)

/-- The topic, key and value that `replay_partition` publishes again; `none`
is a skipped wrapper. -/
def replayWrapper (wrapper : Json) :
    Except PyException (Option (PyStr × Option Bytes × Option Bytes)) :=
  match wrapper with
  | .obj members =>
      match Json.lookup (py "original_topic") members,
        Json.lookup (py "value") members with
      | some (.str topic), some value => do
          let value ← decodeDeadLetterField value
          let key ← decodeDeadLetterField
            ((Json.lookup (py "key") members).getD .null)
          let value ← requireKafkaBytes value
          let key ← requireKafkaBytes key
          pure (some (topic, key, value))
      | _, _ => .ok none
  | _ => .ok none

/-- The dead letter names the record's position, and replaying it publishes the
record's bytes again on its topic. -/
def Lossless (rt : PythonRuntime) (record : ConsumerRecord) (letter : ProducedRecord) :
    Prop :=
  letter.topic = deadLetterTopic record.topic ∧
    ∃ members, readJson rt letter.value = some (.obj members) ∧
      Json.lookup (py "partition") members = some (.int record.partition) ∧
      Json.lookup (py "offset") members = some (.int record.offset) ∧
      replayWrapper (.obj members) =
        .ok (some (record.topic.val, record.key, record.value))

theorem decode_encodeDeadLetterField (field : Option Bytes) :
    ∃ found, decodeDeadLetterField (encodeDeadLetterField field) = .ok found ∧
      requireKafkaBytes found = .ok field := by
  cases field with
  | none => exact ⟨.plain .null, rfl, rfl⟩
  | some data =>
      refine ⟨.bytes data, ?_, rfl⟩
      simp only [encodeDeadLetterField, decodeDeadLetterField, if_true,
        b64decode_b64encode]

theorem encodeJson_readJson (rt : PythonRuntime) (value : Json) (hvalue : value.plain = true) :
    ∃ data, encodeJson rt value = some data ∧ readJson rt data = some value.join := by
  have hascii := Json.render_default_isAscii rt.floatRepr_isAscii value
  have hsome := PyStr.encodeUtf8_isSome (Json.render rt.floatRepr .default value)
  rw [PyStr.hasSurrogate_eq_false_of_isAscii hascii] at hsome
  obtain ⟨data, hdata⟩ := Option.isSome_iff_exists.mp hsome
  refine ⟨data, hdata, ?_⟩
  simp only [readJson, decodeUtf8_encodeUtf8 hdata, Option.bind_eq_bind,
    Option.bind_some]
  exact Json.loads_render_plain _ _ Json.readable_default value hvalue

theorem joinText_ascii {s : PyStr} (hs : PyStr.isAscii s = true) :
    Json.joinText s = s :=
  Json.mergeUnits_flatMap (Json.hasSplitPair_of_isAscii hs)

theorem join_encodeDeadLetterField (field : Option Bytes) :
    (encodeDeadLetterField field).join = encodeDeadLetterField field ∧
      (encodeDeadLetterField field).plain = true := by
  cases field with
  | none => exact ⟨rfl, rfl⟩
  | some data =>
      have hname : Json.joinText binaryField = binaryField := joinText_ascii (by decide)
      simp [encodeDeadLetterField, Json.join, Json.joinMembers, Json.plain,
        Json.plainMembers, hname, joinText_ascii (b64encode_isAscii data)]

/-- A record can always be wrapped, and the wrapper loses nothing. -/
theorem deadLetter_lossless
    (rt : PythonRuntime) (record : ConsumerRecord) (error : PyStr) :
    ∃ letter, deadLetter rt record error = some letter ∧
      Lossless rt record letter := by
  obtain ⟨hkey, hplainKey⟩ := join_encodeDeadLetterField record.key
  obtain ⟨hvalue, hplainValue⟩ := join_encodeDeadLetterField record.value
  have hnames : ∀ name ∈ [py "original_topic", py "partition", py "offset", py "key",
      py "value", py "error"], Json.joinText name = name := by
    intro name hname
    refine joinText_ascii ?_
    simp only [List.mem_cons, List.not_mem_nil, or_false] at hname
    rcases hname with rfl | rfl | rfl | rfl | rfl | rfl <;> decide
  simp only [List.forall_mem_cons, List.not_mem_nil, false_implies, implies_true,
    and_true] at hnames
  obtain ⟨h1, h2, h3, h4, h5, h6⟩ := hnames
  have hjoin : (deadLetterMessage record error).join =
      deadLetterMessage record (Json.joinText error) := by
    simp [deadLetterMessage, Json.join, Json.joinMembers, hkey, hvalue, h1, h2, h3, h4,
      h5, h6, joinText_ascii record.topic.isAscii]
  have hplain : (deadLetterMessage record error).plain = true := by
    have hnodup : [py "original_topic", py "partition", py "offset", py "key",
      py "value", py "error"].Nodup := by decide
    simp only [deadLetterMessage, Json.plain, Json.plainMembers, hplainKey, hplainValue,
      Json.joinMembers, List.map_cons, List.map_nil, h1, h2, h3, h4, h5, h6, hnodup,
      Bool.and_self, decide_true]
  obtain ⟨data, hdata, hread⟩ := encodeJson_readJson rt _ hplain
  have hlossless : ∀ key, Lossless rt record
      ⟨deadLetterTopic record.topic, key, data⟩ := by
    intro key
    rw [hjoin] at hread
    refine ⟨rfl, _, hread, rfl, rfl, ?_⟩
    obtain ⟨value, hvalue, hvalueBytes⟩ := decode_encodeDeadLetterField record.value
    obtain ⟨key, hkey, hkeyBytes⟩ := decode_encodeDeadLetterField record.key
    have hfields : ∀ key value error : Json,
        replayWrapper (.obj [(py "original_topic", .str record.topic.val),
          (py "partition", .int record.partition), (py "offset", .int record.offset),
          (py "key", key), (py "value", value), (py "error", error)]) = (do
            let value ← decodeDeadLetterField value
            let key ← decodeDeadLetterField key
            let value ← requireKafkaBytes value
            let key ← requireKafkaBytes key
            pure (some (record.topic.val, key, value))) := fun _ _ _ => rfl
    rw [hfields, hvalue, hkey]
    simp only [ok_bind, hvalueBytes, hkeyBytes]
    rfl
  cases hfield : record.key with
  | none =>
      refine ⟨_, ?_, hlossless none⟩
      simp [deadLetter, hdata, hfield]
  | some bytes =>
      rw [hfield] at hplainKey
      obtain ⟨key, hencoded, -⟩ := encodeJson_readJson rt _ hplainKey
      refine ⟨_, ?_, hlossless (some key)⟩
      simp [deadLetter, hdata, hfield, hencoded]

end LibrarySystem
