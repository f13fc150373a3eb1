import LibrarySystem.Messaging.PollBudget
import LibrarySystem.Python.JsonParse

/-!
# The runtime configuration

`load_runtime_config` validates the tree that was read from etcd.  Every class is a
`_ConfigModel`: strict, closed to further keys, and with checks that see one value or the
whole mapping.

pydantic reads the text of a `str` where a constraint or a `Literal` makes it, and refuses
surrogates there.  Whether it takes them where a `str` is not constrained is left to
`plainText`, the texts that it takes then.
-/

namespace LibrarySystem

/-- The value of a double, `none` for an infinity or a NaN. -/
def floatValue (bits : BitVec 64) : Option ℚ :=
  let exponent : ℕ := bits.toNat / 2 ^ 52 % 2 ^ 11
  let fraction : ℕ := bits.toNat % 2 ^ 52
  if exponent = 2047 then none
  else
    let magnitude : ℚ :=
      if exponent = 0 then fraction / 2 ^ 1074
      else (2 ^ 52 + fraction) * 2 ^ exponent / 2 ^ 1075
    some (if bits.toNat < 2 ^ 63 then magnitude else -magnitude)

namespace Json

/-- A `float` annotation takes a float or an integer, and no `bool`. -/
def number? : Json → Option ℚ
  | .int value => some value
  | .float bits => floatValue bits
  | _ => none

/-- `isinstance(value, dict)`; no key of a `dict` occurs twice. -/
def dict? : Json → Option (List (PyStr × Json))
  | .obj members => if (members.map Prod.fst).Nodup then some members else none
  | _ => none

end Json

/-! ## Fields -/

/-- What a field of a `_ConfigModel` accepts; a `plain` text is not constrained. -/
inductive ConfigType
  | str (valid : PyStr → Bool)
  | plain (valid : PyStr → Bool)
  | int (ge le : ℤ)
  | float (valid : ℚ → Bool)
  | optionalFloat (valid : ℚ → Bool)
  | bool
  | texts (valid : PyStr → PyStr → Bool)
  | model (fields : List (PyStr × Bool × ConfigType)) (valid : List (PyStr × Json) → Bool)

namespace ConfigType

mutual

def accepts : ConfigType → Json → Bool
  | .str valid, .str value => !PyStr.hasSurrogate value && valid value
  | .plain valid, .str value => valid value
  | .int ge le, .int value => decide (ge ≤ value) && decide (value ≤ le)
  | .float valid, value => value.number?.any valid
  | .optionalFloat _, .null => true
  | .optionalFloat valid, value => value.number?.any valid
  | .bool, .bool _ => true
  | .texts valid, value =>
      match value.dict? with
      | some members =>
          decide (members ≠ []) && members.all fun member =>
            match member.2 with
            | .str text => valid member.1 text
            | _ => false
      | none => false
  | .model fields valid, value =>
      match value.dict? with
      | some members =>
          acceptsFields fields members &&
            members.all (fun member => (fields.map Prod.fst).contains member.1) &&
              valid members
      | none => false
  | _, _ => false

/-- A field without a default must be there. -/
def acceptsFields : List (PyStr × Bool × ConfigType) → List (PyStr × Json) → Bool
  | [], _ => true
  | (name, required, type) :: rest, members =>
      (match Json.lookup name members with
        | some value => accepts type value
        | none => !required) && acceptsFields rest members

end

theorem acceptsFields_iff
    (fields : List (PyStr × Bool × ConfigType)) (members : List (PyStr × Json)) :
    acceptsFields fields members = true ↔
      ∀ field ∈ fields,
        (∀ value, Json.lookup field.1 members = some value → field.2.2.accepts value = true) ∧
          (field.2.1 = true → (Json.lookup field.1 members).isSome = true) := by
  induction fields with
  | nil => simp [acceptsFields]
  | cons field rest ih =>
      obtain ⟨name, required, type⟩ := field
      rw [acceptsFields, Bool.and_eq_true, ih, List.forall_mem_cons]
      cases Json.lookup name members with
      | none => simp
      | some value => simp

/-- What an accepted mapping is. -/
structure Accepted (fields : List (PyStr × Bool × ConfigType))
    (valid : List (PyStr × Json) → Bool) (members : List (PyStr × Json)) : Prop where
  nodup : (members.map Prod.fst).Nodup
  accepted : acceptsFields fields members = true
  closed : ∀ member ∈ members, member.1 ∈ fields.map Prod.fst
  checked : valid members = true

theorem accepts_model_iff
    (fields : List (PyStr × Bool × ConfigType)) (valid : List (PyStr × Json) → Bool)
    (value : Json) :
    (ConfigType.model fields valid).accepts value = true ↔
      ∃ members, value = .obj members ∧ Accepted fields valid members := by
  cases value with
  | obj members =>
      by_cases hnodup : (members.map Prod.fst).Nodup
      · simp only [accepts, Json.dict?, if_pos hnodup, Bool.and_eq_true, List.all_eq_true,
          List.contains_iff_mem, Json.obj.injEq, exists_eq_left']
        exact ⟨fun h => ⟨hnodup, h.1.1, h.1.2, h.2⟩, fun h => ⟨⟨h.accepted, h.closed⟩, h.checked⟩⟩
      · simp only [accepts, Json.dict?, if_neg hnodup, Bool.false_eq_true, Json.obj.injEq,
          exists_eq_left', false_iff]
        exact fun h => hnodup h.nodup
  | null | bool _ | int _ | float _ | str _ | arr _ => simp [accepts, Json.dict?]

namespace Accepted

variable {fields : List (PyStr × Bool × ConfigType)} {valid : List (PyStr × Json) → Bool}
  {members : List (PyStr × Json)}

/-- A required field is there and accepted. -/
theorem field (h : Accepted fields valid members) {name : PyStr} {type : ConfigType}
    (hfield : (name, true, type) ∈ fields) :
    ∃ value, Json.lookup name members = some value ∧ type.accepts value = true := by
  have hname := (acceptsFields_iff fields members).mp h.accepted _ hfield
  obtain ⟨value, hvalue⟩ := Option.isSome_iff_exists.mp (hname.2 rfl)
  exact ⟨value, hvalue, hname.1 value hvalue⟩

end Accepted

end ConfigType

/-! ## The checks of the classes -/

namespace PyStr

/-- `bool(value.strip())` -/
def nonblank (s : PyStr) : Bool := decide (strip s ≠ [])

/-- `value.startswith(prefixes)` -/
def startsWithAny (prefixes : List PyStr) (s : PyStr) : Bool :=
  prefixes.any fun start => start.isPrefixOf s

def atSign : CodePoint := 0x40

def dot : CodePoint := 0x2E

/-- The check of `require_email_shape` on `value.rpartition("@")`. -/
def hasEmailShape (s : PyStr) : Bool :=
  let domain := s.reverse.takeWhile (· ≠ atSign)
  let front := (s.reverse.dropWhile (· ≠ atSign)).tail
  s.contains atSign && decide (front ≠ []) && domain.contains dot

end PyStr

namespace RuntimeConfig

/-- The values that a check reads from validated members. -/
def textAt (name : PyStr) (members : List (PyStr × Json)) : PyStr :=
  match Json.lookup name members with
  | some (.str text) => text
  | _ => []

def numberAt (name : PyStr) (members : List (PyStr × Json)) : ℚ :=
  ((Json.lookup name members).bind Json.number?).getD 0

def intAt (name : PyStr) (members : List (PyStr × Json)) : ℤ :=
  match Json.lookup name members with
  | some (.int value) => value
  | _ => 0

def boolAt (name : PyStr) (members : List (PyStr × Json)) : Bool :=
  match Json.lookup name members with
  | some (.bool value) => value
  | _ => false

def membersAt (name : PyStr) (members : List (PyStr × Json)) : List (PyStr × Json) :=
  ((Json.lookup name members).bind Json.dict?).getD []

/-- `Literal[...]` -/
def literal (values : List PyStr) : ConfigType := .str fun value => values.contains value

/-- `Field(min_length=..., max_length=...)` with `reject_blank`. -/
def nonblankText (minLength maxLength : ℕ) : ConfigType :=
  .str fun value =>
    decide (minLength ≤ value.length) && decide (value.length ≤ maxLength) && value.nonblank

/-- `Field(gt=0, le=...)` -/
def positive (le : ℚ) : ConfigType := .float fun value => decide (0 < value) && decide (value ≤ le)

/-- `Field(ge=0, le=...)` -/
def upTo (le : ℚ) : ConfigType := .float fun value => decide (0 ≤ value) && decide (value ≤ le)

def required (name : PyStr) (type : ConfigType) : PyStr × Bool × ConfigType := (name, true, type)

def LoggingConfig : ConfigType :=
  .model
    [required (py "format") (literal [py "json", py "standard"]),
      required (py "level") (literal
        [py "DEBUG", py "INFO", py "WARNING", py "ERROR", py "CRITICAL"])]
    fun _ => true

def DatabasePoolConfig : ConfigType :=
  .model
    [required (py "pool_size") (.int 1 100), required (py "max_overflow") (.int 0 100)]
    fun members =>
      decide (intAt (py "pool_size") members + intAt (py "max_overflow") members ≤ 100)

def DatabasePoolsConfig : ConfigType :=
  .model
    [required (py "api") DatabasePoolConfig, required (py "workflow") DatabasePoolConfig,
      required (py "notification") DatabasePoolConfig, required (py "reaper") DatabasePoolConfig,
      required (py "projection") DatabasePoolConfig, required (py "cli") DatabasePoolConfig,
      required (py "maintenance") DatabasePoolConfig]
    fun _ => true

/-- The prefixes of `require_supported_database_url`. -/
def databaseUrlPrefixes : List PyStr :=
  [py "postgresql://", py "postgres://", py "postgresql+asyncpg://", py "sqlite://",
    py "sqlite+aiosqlite://"]

def DatabaseConfig : ConfigType :=
  .model
    [required (py "url") (.str fun value =>
        decide (1 ≤ value.length) && value.startsWithAny databaseUrlPrefixes),
      required (py "pool_timeout") (.int 1 300), required (py "pool_recycle") (.int 0 86400),
      required (py "pools") DatabasePoolsConfig]
    fun _ => true

def SendGridConfig : ConfigType :=
  .model
    [required (py "api_key") (.str fun value => decide (1 ≤ value.length) && value.nonblank),
      required (py "from_email") (.str fun value =>
        decide (3 ≤ value.length) && value.nonblank && value.hasEmailShape),
      required (py "request_timeout_seconds") (positive 60)]
    fun _ => true

def CircuitBreakerConfig : ConfigType :=
  .model
    [required (py "name") (nonblankText 1 64),
      required (py "failure_threshold") (.int 1 10000),
      required (py "success_threshold") (.int 1 10000),
      required (py "timeout") (positive 86400),
      required (py "failure_rate_threshold") (positive 100),
      required (py "window_seconds") (positive 86400),
      required (py "minimum_calls") (.int 1 1000000),
      required (py "half_open_max_calls") (.int 1 10000),
      (py "call_timeout", false,
        .optionalFloat fun value => decide (0 < value) && decide (value ≤ 600))]
    fun _ => true

def CircuitBreakersConfig : ConfigType :=
  .model
    [required (py "sendgrid") CircuitBreakerConfig,
      required (py "elasticsearch") CircuitBreakerConfig]
    fun members =>
      decide (textAt (py "name") (membersAt (py "sendgrid") members) ≠
        textAt (py "name") (membersAt (py "elasticsearch") members))

def RedisConfig : ConfigType :=
  .model
    [required (py "url") (.str fun value =>
        decide (1 ≤ value.length) && value.startsWithAny [py "redis://", py "rediss://"]),
      required (py "cache_ttl") (.int 1 86400), required (py "enabled") .bool]
    fun _ => true

/-- `require_distinct_consumer_groups` -/
def kafkaValid (members : List (PyStr × Json)) : Bool :=
  decide [textAt (py "projection_group_id") members, textAt (py "workflow_group_id") members,
    textAt (py "notification_group_id") members].Nodup &&
  decide (pollCycleBudget (numberAt (py "message_processing_timeout_seconds") members)
      (numberAt (py "retry_backoff_seconds") members)
      (intAt (py "consumer_max_retries") members).toNat 60 * 1000 <
    intAt (py "consumer_max_poll_interval_ms") members)

def KafkaConfig : ConfigType :=
  .model
    [required (py "bootstrap_servers") (.str fun value =>
        decide (1 ≤ value.length) && value.nonblank),
      required (py "projection_group_id") (nonblankText 1 255),
      required (py "consumer_max_retries") (.int 0 100),
      required (py "retry_backoff_seconds") (upTo 300),
      required (py "consumer_max_poll_interval_ms") (.int 1000 86400000),
      required (py "message_processing_timeout_seconds") (positive 240),
      required (py "internal_topic_replication_factor") (.int 1 32767),
      required (py "workflow_group_id") (nonblankText 1 255),
      required (py "notification_group_id") (nonblankText 1 255)]
    kafkaValid

def ElasticsearchConfig (plainText : PyStr → Bool) : ConfigType :=
  .model
    [required (py "enabled") .bool,
      required (py "url") (.str fun value =>
        decide (1 ≤ value.length) && value.startsWithAny [py "http://", py "https://"]),
      required (py "max_connections") (.int 1 1000), required (py "request_timeout") (.int 1 300),
      required (py "max_retries") (.int 0 100), required (py "username") (.plain plainText),
      required (py "password") (.plain plainText), required (py "verify_certs") .bool]
    fun members =>
      (!(textAt (py "url") members).startsWithAny [py "https://"] ||
          boolAt (py "verify_certs") members) &&
        (textAt (py "username") members).isEmpty == (textAt (py "password") members).isEmpty

def CatalogConfig : ConfigType :=
  .model
    [required (py "reservation_ttl_seconds") (.int 1 86400),
      required (py "reaper_interval_seconds") (.int 1 3600)]
    fun members =>
      decide (intAt (py "reaper_interval_seconds") members <
        intAt (py "reservation_ttl_seconds") members)

def CdcConfig (plainText : PyStr → Bool) : ConfigType :=
  .model
    [required (py "topic_to_index") (.texts fun topic index =>
      plainText topic && plainText index && (topic.nonblank && index.nonblank))]
    fun _ => true

/-- `require_breaker_timeout_outside_client_timeout` -/
def breakerTimeoutValid (members : List (PyStr × Json)) : Bool :=
  let breaker := membersAt (py "elasticsearch") (membersAt (py "circuit_breakers") members)
  match (Json.lookup (py "call_timeout") breaker).bind Json.number? with
  | some call_timeout =>
      decide ((intAt (py "request_timeout") (membersAt (py "elasticsearch") members) : ℚ) <
        call_timeout)
  | none => false

end RuntimeConfig

def RuntimeConfig (plainText : PyStr → Bool) : ConfigType :=
  .model
    [RuntimeConfig.required (py "environment") (RuntimeConfig.literal
        [py "development", py "test", py "staging", py "production"]),
      RuntimeConfig.required (py "logging") RuntimeConfig.LoggingConfig,
      RuntimeConfig.required (py "database") RuntimeConfig.DatabaseConfig,
      RuntimeConfig.required (py "sendgrid") RuntimeConfig.SendGridConfig,
      RuntimeConfig.required (py "circuit_breakers") RuntimeConfig.CircuitBreakersConfig,
      RuntimeConfig.required (py "redis") RuntimeConfig.RedisConfig,
      RuntimeConfig.required (py "kafka") RuntimeConfig.KafkaConfig,
      RuntimeConfig.required (py "elasticsearch")
        (RuntimeConfig.ElasticsearchConfig plainText),
      RuntimeConfig.required (py "catalog") RuntimeConfig.CatalogConfig,
      RuntimeConfig.required (py "cdc") (RuntimeConfig.CdcConfig plainText)]
    RuntimeConfig.breakerTimeoutValid

/-- `load_runtime_config` accepts the tree. -/
def loadRuntimeConfig (plainText : PyStr → Bool) (raw : Json) : Bool :=
  (RuntimeConfig plainText).accepts raw

/-! ## The Kafka client of the container -/

namespace RuntimeConfig

variable {fields : List (PyStr × Bool × ConfigType)} {valid : List (PyStr × Json) → Bool}
  {members : List (PyStr × Json)}

theorem intAt_mem {name : PyStr} {a b : ℤ} (h : ConfigType.Accepted fields valid members)
    (hfield : required name (.int a b) ∈ fields) :
    a ≤ intAt name members ∧ intAt name members ≤ b := by
  obtain ⟨value, hlookup, haccepts⟩ := h.field hfield
  cases value with
  | int value => simpa [intAt, hlookup, ConfigType.accepts] using haccepts
  | null | bool _ | float _ | str _ | arr _ | obj _ => simp [ConfigType.accepts] at haccepts

theorem numberAt_valid {name : PyStr} {check : ℚ → Bool}
    (h : ConfigType.Accepted fields valid members)
    (hfield : required name (.float check) ∈ fields) :
    check (numberAt name members) = true := by
  obtain ⟨value, hlookup, haccepts⟩ := h.field hfield
  rw [ConfigType.accepts] at haccepts
  obtain ⟨number, hnumber, hcheck⟩ := (Option.any_eq_true _ _).mp haccepts
  simpa [numberAt, hlookup, hnumber] using hcheck

theorem numberAt_positive {name : PyStr} {bound : ℚ}
    (h : ConfigType.Accepted fields valid members)
    (hfield : required name (positive bound) ∈ fields) :
    0 < numberAt name members ∧ numberAt name members ≤ bound := by
  simpa using numberAt_valid h hfield

theorem numberAt_upTo {name : PyStr} {bound : ℚ}
    (h : ConfigType.Accepted fields valid members)
    (hfield : required name (upTo bound) ∈ fields) :
    0 ≤ numberAt name members ∧ numberAt name members ≤ bound := by
  simpa using numberAt_valid h hfield

/-- What the container hands to `KafkaClient` from a validated `KafkaConfig`. -/
def kafkaParameters (kafka : List (PyStr × Json)) : KafkaParameters where
  bootstrap_servers := textAt (py "bootstrap_servers") kafka
  consumer_max_retries := .int (intAt (py "consumer_max_retries") kafka)
  retry_backoff_seconds := .finite (numberAt (py "retry_backoff_seconds") kafka)
  consumer_max_poll_interval_ms := .int (intAt (py "consumer_max_poll_interval_ms") kafka)
  message_processing_timeout_seconds :=
    .finite (numberAt (py "message_processing_timeout_seconds") kafka)
  internal_topic_replication_factor :=
    .int (intAt (py "internal_topic_replication_factor") kafka)

/-- A configuration that passes its own checks passes those of the client. -/
theorem kafkaClient_init {kafka : Json} (h : KafkaConfig.accepts kafka = true) :
    ∃ members client, kafka = .obj members ∧
      KafkaClient.init (kafkaParameters members) = .ok client := by
  obtain ⟨members, rfl, haccepted⟩ := (ConfigType.accepts_model_iff _ _ _).mp h
  have hretries : 0 ≤ intAt (py "consumer_max_retries") members ∧
      intAt (py "consumer_max_retries") members ≤ 100 :=
    intAt_mem haccepted (by simp)
  have hinterval : 1000 ≤ intAt (py "consumer_max_poll_interval_ms") members ∧
      intAt (py "consumer_max_poll_interval_ms") members ≤ 86400000 :=
    intAt_mem haccepted (by simp)
  have hreplication : 1 ≤ intAt (py "internal_topic_replication_factor") members ∧
      intAt (py "internal_topic_replication_factor") members ≤ 32767 :=
    intAt_mem haccepted (by simp)
  have hbackoff : 0 ≤ numberAt (py "retry_backoff_seconds") members ∧
      numberAt (py "retry_backoff_seconds") members ≤ 300 :=
    numberAt_upTo haccepted (by simp)
  have htimeout : 0 < numberAt (py "message_processing_timeout_seconds") members ∧
      numberAt (py "message_processing_timeout_seconds") members ≤
        maxMessageProcessingTimeoutSeconds :=
    numberAt_positive haccepted (by simp [maxMessageProcessingTimeoutSeconds])
  have hvalid := haccepted.checked
  simp only [kafkaValid, Bool.and_eq_true, decide_eq_true_eq] at hvalid
  obtain ⟨client, hclient⟩ := KafkaClient.init_ok (kafkaParameters members) rfl rfl rfl rfl rfl
    hretries.1 hbackoff.1 hinterval.1 htimeout hreplication hvalid.2
  exact ⟨members, client, rfl, hclient⟩

/-- The Kafka section of an accepted configuration. -/
theorem kafka_of_loadRuntimeConfig {plainText : PyStr → Bool} {raw : Json}
    (h : loadRuntimeConfig plainText raw = true) :
    ∃ members kafka, raw = .obj members ∧
      Json.lookup (py "kafka") members = some (.obj kafka) ∧
      ∃ client, KafkaClient.init (kafkaParameters kafka) = .ok client := by
  obtain ⟨members, rfl, haccepted⟩ := (ConfigType.accepts_model_iff _ _ _).mp h
  obtain ⟨value, hlookup, hvalue⟩ : ∃ value,
      Json.lookup (py "kafka") members = some value ∧ KafkaConfig.accepts value = true :=
    haccepted.field (by simp [required])
  obtain ⟨kafka, client, rfl, hclient⟩ := kafkaClient_init hvalue
  exact ⟨members, kafka, rfl, hlookup, client, hclient⟩

end RuntimeConfig

/-- Every call for one record makes at most one attempt more than there are retries, and
takes less time than the poll interval. -/
def KafkaClient.PollCycleFits (client : KafkaClient) : Prop :=
  ∀ (timing : CallTiming client) (rt : PythonRuntime) (policy : ConsumePolicy)
    (record : ConsumerRecord) (environment : VisitEnvironment),
    (handleWithRetry rt policy record environment client.consumer_max_retries 0).attempts.length
        ≤ client.consumer_max_retries + 1 ∧
      (timedHandling timing rt policy record environment client.consumer_max_retries 0).1 =
        handleWithRetry rt policy record environment client.consumer_max_retries 0 ∧
      (timedHandling timing rt policy record environment client.consumer_max_retries 0).2 * 1000 <
        client.consumer_max_poll_interval_ms

theorem KafkaClient.pollCycleFits (client : KafkaClient) : client.PollCycleFits := by
  intro timing rt policy record environment
  have hfits := timedHandling_fits timing rt policy record environment
  exact ⟨handleWithRetry_attempts_le rt policy record environment _ 0,
    timedHandling_handling timing rt policy record environment _ 0, by linarith⟩

/-- A poll cycle always fits, and a validated configuration always gives a client. -/
theorem pollCycle_fits
    {parameters : KafkaParameters} {client : KafkaClient}
    (hclient : KafkaClient.init parameters = .ok client)
    {plainText : PyStr → Bool} {raw : Json} (hraw : loadRuntimeConfig plainText raw = true) :
    (parameters.consumer_max_retries.number? = some (client.consumer_max_retries : ℤ) ∧
      parameters.retry_backoff_seconds.finite? = some client.retry_backoff_seconds ∧
      parameters.consumer_max_poll_interval_ms.number? =
        some client.consumer_max_poll_interval_ms ∧
      parameters.message_processing_timeout_seconds.finite? =
        some client.message_processing_timeout_seconds ∧
      client.PollCycleFits) ∧
    ∃ members kafka, raw = .obj members ∧
      Json.lookup (py "kafka") members = some (.obj kafka) ∧
      ∃ configured, KafkaClient.init (RuntimeConfig.kafkaParameters kafka) = .ok configured := by
  obtain ⟨hretries, hbackoff, hinterval, htimeout⟩ := KafkaClient.init_values hclient
  exact ⟨⟨hretries, hbackoff, hinterval, htimeout, client.pollCycleFits⟩,
    RuntimeConfig.kafka_of_loadRuntimeConfig hraw⟩

/-- The defaults of the constructor. -/
def defaultKafkaParameters : KafkaParameters where
  bootstrap_servers := py "localhost:9092"
  consumer_max_retries := .int 3
  retry_backoff_seconds := .finite 1
  consumer_max_poll_interval_ms := .int 900000
  message_processing_timeout_seconds := .finite 180
  internal_topic_replication_factor := .int 3

def samplePool : Json := .obj [(py "pool_size", .int 20), (py "max_overflow", .int 10)]

def sampleBreaker (name : PyStr) : Json :=
  .obj
    [(py "name", .str name), (py "failure_threshold", .int 5), (py "success_threshold", .int 2),
      (py "timeout", .int 30), (py "failure_rate_threshold", .int 50),
      (py "window_seconds", .int 60), (py "minimum_calls", .int 10),
      (py "half_open_max_calls", .int 1), (py "call_timeout", .int 35)]

/-- `build_config` with whole seconds. -/
def sampleConfig : Json :=
  .obj
    [(py "environment", .str (py "development")),
      (py "logging", .obj [(py "format", .str (py "json")), (py "level", .str (py "INFO"))]),
      (py "database", .obj
        [(py "url", .str (py "postgresql+asyncpg://library@localhost:5432/library_db")),
          (py "pool_timeout", .int 30), (py "pool_recycle", .int 1800),
          (py "pools", .obj
            [(py "api", samplePool), (py "workflow", samplePool), (py "notification", samplePool),
              (py "reaper", samplePool), (py "projection", samplePool), (py "cli", samplePool),
              (py "maintenance", samplePool)])]),
      (py "sendgrid", .obj
        [(py "api_key", .str (py "SG.placeholder")),
          (py "from_email", .str (py "admin@library.com")),
          (py "request_timeout_seconds", .int 15)]),
      (py "circuit_breakers", .obj
        [(py "sendgrid", sampleBreaker (py "sendgrid")),
          (py "elasticsearch", sampleBreaker (py "elasticsearch"))]),
      (py "redis", .obj
        [(py "url", .str (py "redis://localhost:6379/0")), (py "cache_ttl", .int 120),
          (py "enabled", .bool true)]),
      (py "kafka", .obj
        [(py "bootstrap_servers", .str (py "localhost:9092")),
          (py "projection_group_id", .str (py "es-sync-consumer")),
          (py "consumer_max_retries", .int 3), (py "retry_backoff_seconds", .int 1),
          (py "consumer_max_poll_interval_ms", .int 900000),
          (py "message_processing_timeout_seconds", .int 180),
          (py "internal_topic_replication_factor", .int 3),
          (py "workflow_group_id", .str (py "domain-workflow-worker-v1")),
          (py "notification_group_id", .str (py "domain-notification-worker-v1"))]),
      (py "elasticsearch", .obj
        [(py "enabled", .bool false), (py "url", .str (py "http://localhost:9200")),
          (py "max_connections", .int 300), (py "request_timeout", .int 30),
          (py "max_retries", .int 3), (py "username", .str []), (py "password", .str []),
          (py "verify_certs", .bool true)]),
      (py "catalog", .obj
        [(py "reservation_ttl_seconds", .int 300), (py "reaper_interval_seconds", .int 60)]),
      (py "cdc", .obj
        [(py "topic_to_index", .obj
          [(py "library.public.books", .str (py "books")),
            (py "library.public.patrons", .str (py "patrons")),
            (py "library.public.loans", .str (py "loans"))])])]

theorem sampleConfig_accepted : loadRuntimeConfig (fun _ => true) sampleConfig = true := by
  decide +kernel

theorem pollCycle_fits_defaults :
    ∃ client, KafkaClient.init defaultKafkaParameters = .ok client ∧ client.PollCycleFits := by
  have hdefaults : (KafkaClient.init defaultKafkaParameters).isOk = true := by decide +kernel
  cases hclient : KafkaClient.init defaultKafkaParameters with
  | error exception => simp [hclient, Except.isOk, Except.toBool] at hdefaults
  | ok client =>
      exact ⟨client, rfl, (pollCycle_fits hclient sampleConfig_accepted).1.2.2.2.2⟩

end LibrarySystem
