import LibrarySystem.Events.Construction

/-!
# The wire format round-trips

An event whose datetime fields hold datetimes and whose text has no split
surrogate pair is decoded from its own wire form as the same event, and an
accepted payload decodes to an event that is written and decoded back to
itself.  Both conditions are needed: the reader joins split pairs, and an
ISO-8601 text in a datetime field is accepted by the writer but read as a
datetime.
-/

namespace LibrarySystem

open Result

namespace DomainEvent

/-- Every datetime field holds a datetime. -/
def Declared (event : DomainEvent) : Prop :=
  ∀ field ∈ event.eventClass.domainFields, ∀ value,
    PyValue.lookup field.1 event.data = some value → field.2.Declares value

def NoSplitPair (event : DomainEvent) : Prop :=
  ∀ name text, PyValue.lookup name event.data = some (.str text) →
    PyStr.hasSplitPair text = false

/-- Equality of events with datetimes compared as instants. -/
def Same (left right : DomainEvent) : Prop :=
  left.eventClass = right.eventClass ∧ left.metadata = right.metadata ∧
    ∀ name ∈ left.eventClass.domainFieldNames,
      (PyValue.get name left.data).Same (PyValue.get name right.data)

end DomainEvent

/-- `deserialize_event(json.loads(text))`, `none` when either raises. -/
def decodeEvent (rt : PythonRuntime) (text : PyStr) : Option DomainEvent :=
  match Json.loads rt.parseFloat text with
  | none => none
  | some payload => (deserializeEvent rt payload).toOption

section Own

variable {rt : PythonRuntime} {order : MetadataOrder} {event : DomainEvent}

theorem domainFieldNames_of_mem
    {cls : EventClass} {field : PyStr × FieldType}
    (hfield : field ∈ cls.domainFields) :
    field.1 ∈ cls.domainFieldNames :=
  List.mem_map_of_mem hfield

theorem DomainEvent.lookup_data
    (event : DomainEvent) {name : PyStr}
    (hname : name ∈ event.eventClass.domainFieldNames) :
    ∃ value, PyValue.lookup name event.data = some value := by
  rw [← event.data_fields, ← PyValue.lookup_isSome] at hname
  exact Option.isSome_iff_exists.mp hname

theorem DomainEvent.data_nodup (event : DomainEvent) :
    (event.data.map Prod.fst).Nodup := by
  have hnodup := fields_nodup event.eventClass
  rw [fields_names, List.nodup_append] at hnodup
  rw [event.data_fields]
  exact hnodup.2.1

/-- Lookups in an event's own entries. -/
theorem lookup_own_metadata
    {name : PyStr} (hname : name ∈ metadataNames) :
    PyValue.lookup name (event.metadata.entries order ++ event.data) =
      some (event.metadata.entry name) := by
  rw [PyValue.lookup_append, event.metadata.lookup_entries order hname]
  rfl

theorem lookup_own_data
    {name : PyStr} (hname : name ∈ event.eventClass.domainFieldNames) :
    PyValue.lookup name (event.metadata.entries order ++ event.data) =
      PyValue.lookup name event.data := by
  have habsent : PyValue.lookup name (event.metadata.entries order) = none := by
    rw [PyValue.lookup_eq_none, EventMetadata.entries_names, order.property.mem_iff]
    exact fun hmeta => metadataNames_not_domain _ name hmeta hname
  rw [PyValue.lookup_append, habsent]
  rfl

theorem get_entries (metadata : EventMetadata) {name : PyStr}
    (hname : name ∈ metadataNames) :
    PyValue.get name (metadata.entries order) = metadata.entry name := by
  simp [PyValue.get, metadata.lookup_entries order hname]

theorem EventIdentity.strip_ne_nil (identity : EventIdentity) :
    PyStr.strip identity.val ≠ [] := by
  rw [EventIdentity.strip_val]
  exact identity.ne_nil

theorem isTraceValue_entry (metadata : EventMetadata) :
    isTraceValue (metadata.entry (py "correlation_id")) = true ∧
      isTraceValue (metadata.entry (py "causation_id")) = true := by
  constructor
  · change (PyStr.strip metadata.correlation_id.val != []) = true
    simpa using metadata.correlation_id.ne_nil
  · rw [metadata.entry_causation]
    cases metadata.causation_id with
    | none => rfl
    | some causation =>
        change (PyStr.strip causation.val != []) = true
        simpa using causation.ne_nil

theorem checkMetadata_own (contract : EventContract) :
    checkMetadata contract (event.metadata.entries order) =
      .ok event.metadata.event_id.val := by
  apply checkMetadata_of
  · exact get_entries event.metadata (by decide)
  · exact event.metadata.event_id.strip_ne_nil
  · exact Or.inr ⟨_, get_entries event.metadata (by decide)⟩
  · rw [get_entries event.metadata (by decide)]
    exact (isTraceValue_entry event.metadata).1
  · rw [get_entries event.metadata (by decide)]
    exact (isTraceValue_entry event.metadata).2

theorem checkDataNames_own (eventId : PyStr) :
    checkDataNames (contractOf event.eventClass) eventId event.data = .ok () := by
  have hclass : (contractOf event.eventClass).eventClass = event.eventClass := by
    cases event.eventClass <;> rfl
  rw [checkDataNames_ok, event.data_fields, hclass]
  exact fun _ hname => hname

theorem contractOf_eventClass (cls : EventClass) :
    (contractOf cls).eventClass = cls := by
  cases cls <;> rfl

/-- The keyword arguments rebuilt from an event's own entries. -/
theorem coerceFields_own
    {contract : EventContract} {eventId : PyStr} {kwargs : List (PyStr × PyValue)}
    (hkwargs : coerceFields rt contract eventId
      (event.metadata.entries order ++ event.data) event.eventClass.fields =
        .ok kwargs) :
    (∀ name ∈ metadataNames,
      PyValue.lookup name kwargs = some (event.metadata.entry name)) ∧
    (∀ field ∈ event.eventClass.domainFields, ∃ value coerced,
      PyValue.lookup field.1 event.data = some value ∧
        coerceAndValidateValue rt field.2 value = .ok coerced ∧
        PyValue.lookup field.1 kwargs = some coerced) ∧
    ∀ name, name ∉ metadataNames → name ∉ event.eventClass.domainFieldNames →
      PyValue.lookup name kwargs = none := by
  obtain ⟨habsent, hpresent⟩ := coerceFields_lookup hkwargs (fields_nodup _)
  refine ⟨?_, ?_, ?_⟩
  · intro name hname
    obtain ⟨field, hfield, rfl⟩ := List.mem_map.mp hname
    have hcoerced := event.metadata.coerce_entry rt field hfield
    rcases hpresent field (List.mem_append_left _ hfield) with
      ⟨hnone, -⟩ | ⟨value, coerced, hvalue, hcoerce, hlookup⟩
    · rw [lookup_own_metadata hname] at hnone
      simp at hnone
    · rw [lookup_own_metadata hname] at hvalue
      simp only [Option.some.injEq] at hvalue
      subst hvalue
      rw [hcoerced] at hcoerce
      simp only [Except.ok.injEq] at hcoerce
      rw [hlookup, hcoerce]
  · intro field hfield
    have hname := domainFieldNames_of_mem hfield
    obtain ⟨found, hfound⟩ := event.lookup_data hname
    rcases hpresent field (List.mem_append_right _ hfield) with
      ⟨hnone, -⟩ | ⟨value, coerced, hvalue, hcoerce, hlookup⟩
    · rw [lookup_own_data hname, hfound] at hnone
      simp at hnone
    · rw [lookup_own_data hname] at hvalue
      exact ⟨value, coerced, hvalue, hcoerce, hlookup⟩
  · intro name hmeta hdomain
    apply habsent
    rw [fields_names, List.mem_append, not_or]
    exact ⟨hmeta, hdomain⟩

theorem missingFields_own
    {contract : EventContract} {eventId : PyStr} {kwargs : List (PyStr × PyValue)}
    (hkwargs : coerceFields rt contract eventId
      (event.metadata.entries order ++ event.data) event.eventClass.fields =
        .ok kwargs) :
    missingFields event.eventClass kwargs = [] := by
  unfold missingFields
  rw [List.filter_eq_nil_iff]
  intro name hname
  obtain ⟨field, hfield, rfl⟩ := List.mem_map.mp hname
  obtain ⟨value, coerced, -, -, hlookup⟩ := (coerceFields_own hkwargs).2.1 field hfield
  simp [hlookup]

/-- Constructing an event from its own entries only coerces its fields. -/
theorem constructEvent_own
    {result : DomainEvent}
    (hconstruct : constructEvent rt (contractOf event.eventClass)
      (event.metadata.entries order) event.data = .ok result) :
    ∃ kwargs,
      coerceFields rt (contractOf event.eventClass) event.metadata.event_id.val
        (event.metadata.entries order ++ event.data) event.eventClass.fields =
          .ok kwargs ∧
      validateEventSemantics rt kwargs = .ok () ∧
      result.eventClass = event.eventClass ∧ result.metadata = event.metadata ∧
      result.data = event.eventClass.domainFieldNames.map
        fun name => (name, PyValue.get name kwargs) := by
  obtain ⟨eventId, kwargs, hmetadata, -, hkwargs, hfinish⟩ :=
    constructEvent_ok_iff.mp hconstruct
  rw [checkMetadata_own] at hmetadata
  simp only [Except.ok.injEq] at hmetadata
  subst eventId
  rw [contractOf_eventClass] at hkwargs
  obtain ⟨hsemantics, -, hclass, hpost, hdata⟩ := finishEvent_ok_iff.mp hfinish
  rw [contractOf_eventClass] at hclass hdata
  rw [postInit_of_entries (coerceFields_own hkwargs).1] at hpost
  simp only [Except.ok.injEq] at hpost
  exact ⟨kwargs, hkwargs, hsemantics, hclass, hpost.symm, hdata⟩

theorem constructEvent_own_of
    {kwargs : List (PyStr × PyValue)}
    (hkwargs : coerceFields rt (contractOf event.eventClass)
      event.metadata.event_id.val (event.metadata.entries order ++ event.data)
      event.eventClass.fields = .ok kwargs)
    (hsemantics : validateEventSemantics rt kwargs = .ok ()) :
    ∃ result, constructEvent rt (contractOf event.eventClass)
        (event.metadata.entries order) event.data = .ok result ∧
      result.eventClass = event.eventClass ∧ result.metadata = event.metadata ∧
      result.data = event.eventClass.domainFieldNames.map
        fun name => (name, PyValue.get name kwargs) := by
  let result : DomainEvent :=
    { eventClass := event.eventClass
      metadata := event.metadata
      data := event.eventClass.domainFieldNames.map
        fun name => (name, PyValue.get name kwargs)
      data_fields := by simp [Function.comp_def] }
  refine ⟨result, ?_, rfl, rfl, rfl⟩
  refine constructEvent_ok_iff.mpr ⟨_, kwargs, checkMetadata_own _,
    checkDataNames_own _, ?_, finishEvent_ok_iff.mpr ⟨hsemantics, ?_, ?_, ?_, ?_⟩⟩
  · rw [contractOf_eventClass]
    exact hkwargs
  · rw [contractOf_eventClass]
    exact missingFields_own hkwargs
  · rw [contractOf_eventClass]
  · exact postInit_of_entries (coerceFields_own hkwargs).1
  · rw [contractOf_eventClass]

theorem serializeEvent_ok_iff {text : PyStr} :
    serializeEvent rt order event = .ok text ↔
      ∃ result metadata data,
        constructEvent rt (contractOf event.eventClass)
          (event.metadata.entries order) event.data = .ok result ∧
        PyValue.encodeEntries (event.metadata.entries order) = .ok metadata ∧
        PyValue.encodeEntries event.data = .ok data ∧
        text = Json.render rt.floatRepr .compact
          (envelope (contractOf event.eventClass) metadata data) := by
  unfold serializeEvent
  simp only [bind_eq_ok, mapError_eq_ok, pure_eq, Except.ok.injEq]
  constructor
  · rintro ⟨result, hresult, metadata, hmetadata, data, hdata, htext⟩
    exact ⟨result, metadata, data, hresult, hmetadata, hdata, htext.symm⟩
  · rintro ⟨result, metadata, data, hresult, hmetadata, hdata, htext⟩
    exact ⟨result, hresult, metadata, hmetadata, data, hdata, htext.symm⟩

/-- The checks before the JSON encoder leave it nothing to refuse. -/
theorem serializeEvent_of_construct
    {result : DomainEvent}
    (hconstruct : constructEvent rt (contractOf event.eventClass)
      (event.metadata.entries order) event.data = .ok result) :
    ∃ text, serializeEvent rt order event = .ok text := by
  obtain ⟨kwargs, hkwargs, -⟩ := constructEvent_own hconstruct
  have hmetadata : ∃ members,
      PyValue.encodeEntries (event.metadata.entries order) = .ok members := by
    apply encodeEntries_ok
    intro entry hentry
    obtain ⟨name, hname, rfl⟩ := List.mem_map.mp hentry
    obtain ⟨field, hfield, rfl⟩ := List.mem_map.mp
      (order.property.mem_iff.mp hname)
    exact encode_of_coerce (event.metadata.coerce_entry rt field hfield)
  have hdata : ∃ members, PyValue.encodeEntries event.data = .ok members := by
    apply encodeEntries_ok
    rintro ⟨name, value⟩ hentry
    have hlookup := PyValue.lookup_of_mem event.data_nodup hentry
    have hname : name ∈ event.eventClass.domainFieldNames := by
      rw [← event.data_fields]
      exact List.mem_map_of_mem hentry
    obtain ⟨field, hfield, rfl⟩ := List.mem_map.mp hname
    obtain ⟨value', coerced, hvalue, hcoerce, -⟩ :=
      (coerceFields_own hkwargs).2.1 field hfield
    rw [hlookup] at hvalue
    simp only [Option.some.injEq] at hvalue
    subst hvalue
    exact encode_of_coerce hcoerce
  obtain ⟨metadata, hmetadata⟩ := hmetadata
  obtain ⟨data, hdata⟩ := hdata
  exact ⟨_, serializeEvent_ok_iff.mpr
    ⟨result, metadata, data, hconstruct, hmetadata, hdata, rfl⟩⟩

/-! ## Reading back what was written -/

/-- The decoded metadata and data give the same constructor arguments. -/
theorem constructEvent_encoded
    {metadata data : List (PyStr × Json)} {result : DomainEvent}
    (hconstruct : constructEvent rt (contractOf event.eventClass)
      (event.metadata.entries order) event.data = .ok result)
    (hmetadata : PyValue.encodeEntries (event.metadata.entries order) = .ok metadata)
    (hdata : PyValue.encodeEntries event.data = .ok data)
    (hdeclared : event.Declared) :
    constructEvent rt (contractOf event.eventClass) (Json.toEntries metadata)
      (Json.toEntries data) = .ok result := by
  obtain ⟨eventId, kwargs, hcheck, hnames, hkwargs, hfinish⟩ :=
    constructEvent_ok_iff.mp hconstruct
  obtain ⟨hmetaNames, hmetaLookup⟩ := encodeEntries_lookup hmetadata
  obtain ⟨hdataNames, hdataLookup⟩ := encodeEntries_lookup hdata
  have hencodedMeta : ∀ name ∈ metadataNames, ∃ json,
      (event.metadata.entry name).encode = .ok json ∧
        PyValue.lookup name (Json.toEntries metadata) = some json.toValue := by
    intro name hname
    obtain ⟨json, hjson, hmember⟩ := hmetaLookup name _
      (event.metadata.lookup_entries order hname)
    exact ⟨json, hjson, by rw [toEntries_lookup, hmember]; rfl⟩
  have hget : ∀ name ∈ metadataNames, ∃ json,
      (event.metadata.entry name).encode = .ok json ∧
        PyValue.get name (Json.toEntries metadata) = json.toValue := by
    intro name hname
    obtain ⟨json, hjson, hlookup⟩ := hencodedMeta name hname
    exact ⟨json, hjson, by simp [PyValue.get, hlookup]⟩
  have htext : ∀ name ∈ metadataNames, ∀ text,
      event.metadata.entry name = .str text →
        PyValue.get name (Json.toEntries metadata) = .str text := by
    intro name hname text hentry
    obtain ⟨json, hjson, hvalue⟩ := hget name hname
    rw [hentry] at hjson
    simp only [PyValue.encode, Except.ok.injEq] at hjson
    rw [hvalue, ← hjson]
    rfl
  refine constructEvent_ok_iff.mpr ⟨eventId, kwargs, ?_, ?_, ?_, hfinish⟩
  · rw [checkMetadata_own] at hcheck
    simp only [Except.ok.injEq] at hcheck
    subst eventId
    apply checkMetadata_of
    · exact htext _ (by decide) _ rfl
    · exact event.metadata.event_id.strip_ne_nil
    · left
      obtain ⟨json, hjson, hvalue⟩ := hget (py "occurred_at") (by decide)
      refine ⟨isoformat event.metadata.occurred_at, ?_⟩
      change PyValue.encode (.datetime (.ofUtc event.metadata.occurred_at)) = _ at hjson
      simp only [PyValue.encode, encodeDatetime, DateTime.ofUtc,
        DateTime.astimezoneUtc_zero, ok_bind, pure_eq, Except.ok.injEq] at hjson
      rw [hvalue, ← hjson]
      rfl
    · rw [htext (py "correlation_id") (by decide) _ rfl]
      exact (isTraceValue_entry event.metadata).1
    · obtain ⟨json, hjson, hvalue⟩ := hget (py "causation_id") (by decide)
      rw [hvalue]
      rw [event.metadata.entry_causation] at hjson
      have htrace := (isTraceValue_entry event.metadata).2
      rw [event.metadata.entry_causation] at htrace
      cases hcausation : event.metadata.causation_id with
      | none =>
          simp only [hcausation, Option.elim_none, PyValue.encode, Except.ok.injEq] at hjson
          rw [← hjson]
          rfl
      | some causation =>
          simp only [hcausation, Option.elim_some, PyValue.encode, Except.ok.injEq]
            at hjson htrace
          rw [← hjson]
          exact htrace
  · rw [checkDataNames_ok] at hnames ⊢
    rw [toEntries_names, hdataNames]
    exact hnames
  · rw [contractOf_eventClass] at hkwargs ⊢
    refine coerceFields_congr hkwargs ?_
    intro field hfield
    rcases List.mem_append.mp hfield with hmeta | hdomain
    · have hname : field.1 ∈ metadataNames := List.mem_map_of_mem hmeta
      refine ⟨fun hnone => ?_, fun value coerced hvalue hcoerce => ?_⟩
      · rw [lookup_own_metadata hname] at hnone
        simp at hnone
      · rw [lookup_own_metadata hname] at hvalue
        simp only [Option.some.injEq] at hvalue
        subst hvalue
        obtain ⟨json, hjson, hlookup⟩ := hencodedMeta field.1 hname
        refine ⟨json.toValue, ?_, ?_⟩
        · rw [PyValue.lookup_append, hlookup]
          rfl
        · have hself := event.metadata.coerce_entry rt field hmeta
          rw [hself] at hcoerce
          simp only [Except.ok.injEq] at hcoerce
          rw [← hcoerce]
          exact coerce_encoded hself (coerced_declares hself) hjson
    · have hname := domainFieldNames_of_mem hdomain
      obtain ⟨found, hfound⟩ := event.lookup_data hname
      refine ⟨fun hnone => ?_, fun value coerced hvalue hcoerce => ?_⟩
      · rw [lookup_own_data hname, hfound] at hnone
        simp at hnone
      · rw [lookup_own_data hname] at hvalue
        obtain ⟨json, hjson, hmember⟩ := hdataLookup field.1 value hvalue
        have habsent : PyValue.lookup field.1 (Json.toEntries metadata) = none := by
          rw [PyValue.lookup_eq_none, toEntries_names, hmetaNames,
            EventMetadata.entries_names, order.property.mem_iff]
          exact fun hmeta => metadataNames_not_domain _ field.1 hmeta hname
        refine ⟨json.toValue, ?_,
          coerce_encoded hcoerce (hdeclared field hdomain value hvalue) hjson⟩
        rw [PyValue.lookup_append, habsent, toEntries_lookup, hmember]
        rfl

theorem contractOf_readable (cls : EventClass) :
    qualifiedNameOf (.str (contractOf cls).namespace) (.str (contractOf cls).name) =
        some (contractOf cls).qualifiedName ∧
      (contractOf cls).version = 1 := by
  cases cls <;> decide

/-- The envelope of a registered contract is read back. -/
theorem deserializeEvent_envelope
    (cls : EventClass) {metadata data : List (PyStr × Json)}
    (hmetadata : (metadata.map Prod.fst).Perm metadataNames) :
    deserializeEvent rt (envelope (contractOf cls) metadata data) =
      constructEvent rt (contractOf cls) (Json.toEntries metadata)
        (Json.toEntries data) := by
  have hparts : readParts rt
      [(py "envelope_version", .int envelopeVersion),
        (py "contract", .obj
          [(py "namespace", .str (contractOf cls).namespace),
            (py "name", .str (contractOf cls).name),
            (py "version", .int (contractOf cls).version)]),
        (py "metadata", .obj metadata), (py "data", .obj data)] =
      .ok ⟨[(py "namespace", .str (contractOf cls).namespace),
        (py "name", .str (contractOf cls).name),
        (py "version", .int (contractOf cls).version)], metadata, data⟩ := by
    rfl
  have hunexpected : unexpectedNames metadata metadataNames = [] := by
    rw [unexpectedNames_eq_nil]
    exact fun name hname => hmetadata.mem_iff.mp hname
  have hmissing : missingMetadata metadata = [] := by
    unfold missingMetadata
    rw [List.filter_eq_nil_iff]
    intro name hname
    have hsome := (Json.lookup_isSome name metadata).mpr
      (hmetadata.mem_iff.mpr hname)
    simp [Option.isSome_iff_ne_none.mp hsome]
  have hcontract : readContract
      ⟨[(py "namespace", .str (contractOf cls).namespace),
        (py "name", .str (contractOf cls).name),
        (py "version", .int (contractOf cls).version)], metadata, data⟩ =
      .ok (contractOf cls) := by
    have hnames : unexpectedNames
        [(py "namespace", Json.str (contractOf cls).namespace),
          (py "name", .str (contractOf cls).name),
          (py "version", .int (contractOf cls).version)] contractNames = [] := by
      rfl
    have hfirst : Json.get (py "namespace")
        [(py "namespace", .str (contractOf cls).namespace),
          (py "name", .str (contractOf cls).name),
          (py "version", .int (contractOf cls).version)] =
        .str (contractOf cls).namespace := rfl
    have hsecond : Json.get (py "name")
        [(py "namespace", .str (contractOf cls).namespace),
          (py "name", .str (contractOf cls).name),
          (py "version", .int (contractOf cls).version)] =
        .str (contractOf cls).name := rfl
    have hthird : Json.get (py "version")
        [(py "namespace", .str (contractOf cls).namespace),
          (py "name", .str (contractOf cls).name),
          (py "version", .int (contractOf cls).version)] =
        .int (contractOf cls).version := rfl
    unfold readContract
    simp only [hnames, hunexpected, hmissing, hfirst, hsecond, hthird,
      (contractOf_readable cls).1, contractByName_contractOf, ne_eq,
      not_true_eq_false, if_false, if_true, pure_eq]
  simp only [envelope, deserializeEvent, hparts, hcontract, mapError_ok, ok_bind]

theorem encodeEntries_mem
    {entries : List (PyStr × PyValue)} {members : List (PyStr × Json)}
    (hencode : PyValue.encodeEntries entries = .ok members) :
    ∀ member ∈ members, ∃ value, (member.1, value) ∈ entries ∧
      value.encode = .ok member.2 := by
  induction entries generalizing members with
  | nil =>
      simp only [PyValue.encodeEntries, Except.ok.injEq] at hencode
      simp [← hencode]
  | cons entry entries ih =>
      obtain ⟨name, value⟩ := entry
      simp only [PyValue.encodeEntries, bind_eq_ok, pure_eq, Except.ok.injEq] at hencode
      obtain ⟨json, hjson, tail, htail, rfl⟩ := hencode
      intro member hmember
      rcases List.mem_cons.mp hmember with rfl | hmember
      · exact ⟨value, by simp, hjson⟩
      · obtain ⟨found, hfound, hencoded⟩ := ih htail member hmember
        exact ⟨found, by simp [hfound], hencoded⟩

/-- The JSON form of a coercible value is read back, unless it is text with a
split pair. -/
theorem faithful_of_coerce
    {type : FieldType} {value coerced : PyValue} {json : Json}
    (hcoerce : coerceAndValidateValue rt type value = .ok coerced)
    (htext : ∀ text, value = .str text → PyStr.hasSplitPair text = false)
    (hencode : value.encode = .ok json) :
    json.faithful = true := by
  have hstr : ∀ text, value = .str text → json.faithful = true := by
    rintro text rfl
    simp only [PyValue.encode, Except.ok.injEq] at hencode
    subst hencode
    simpa [Json.faithful] using htext text rfl
  rcases coerce_ok_cases hcoerce with ⟨rfl, h⟩ | ⟨rfl, utc, rfl, h⟩
  · rcases h with ⟨-, rfl⟩ | ⟨-, text, rfl, -⟩ | ⟨-, b, rfl⟩ | ⟨-, n, rfl⟩
    · simp only [PyValue.encode, Except.ok.injEq] at hencode
      subst hencode
      rfl
    · exact hstr text rfl
    · simp only [PyValue.encode, Except.ok.injEq] at hencode
      subst hencode
      rfl
    · simp only [PyValue.encode, Except.ok.injEq] at hencode
      subst hencode
      rfl
  · rcases h with ⟨text, rfl⟩ | ⟨wall, offset, rfl, hutc⟩
    · exact hstr text rfl
    · simp only [PyValue.encode, encodeDatetime, hutc, ok_bind, pure_eq,
        Except.ok.injEq] at hencode
      subst hencode
      simpa [Json.faithful] using Json.hasSplitPair_of_isAscii (isoformat_isAscii utc)

theorem EventMetadata.entry_text (metadata : EventMetadata) (name text : PyStr)
    (hentry : metadata.entry name = .str text) :
    PyStr.hasSplitPair text = false := by
  have hascii : ∀ identity : EventIdentity,
      PyStr.hasSplitPair identity.val = false := by
    intro identity
    apply Json.hasSplitPair_of_isAscii
    simp only [PyStr.isAscii, List.all_eq_true]
    exact fun c hc => (identity.mem hc).1
  unfold EventMetadata.entry at hentry
  split_ifs at hentry
  · simp only [PyValue.str.injEq] at hentry
    exact hentry ▸ hascii metadata.event_id
  · simp only [PyValue.str.injEq] at hentry
    exact hentry ▸ hascii metadata.correlation_id
  · cases hcausation : metadata.causation_id with
    | none => simp [hcausation] at hentry
    | some causation =>
        simp only [hcausation, PyValue.str.injEq] at hentry
        exact hentry ▸ hascii causation

theorem names_noSplitPair (cls : EventClass) :
    ∀ name ∈ metadataNames ++ cls.domainFieldNames,
      PyStr.hasSplitPair name = false := by
  cases cls <;> decide

theorem contract_noSplitPair (cls : EventClass) :
    PyStr.hasSplitPair (contractOf cls).namespace = false ∧
      PyStr.hasSplitPair (contractOf cls).name = false := by
  cases cls <;> decide

theorem envelope_faithful
    {metadata data : List (PyStr × Json)} {result : DomainEvent}
    (hconstruct : constructEvent rt (contractOf event.eventClass)
      (event.metadata.entries order) event.data = .ok result)
    (hmetadata : PyValue.encodeEntries (event.metadata.entries order) = .ok metadata)
    (hdata : PyValue.encodeEntries event.data = .ok data)
    (htext : event.NoSplitPair) :
    (envelope (contractOf event.eventClass) metadata data).faithful = true := by
  obtain ⟨kwargs, hkwargs, -⟩ := constructEvent_own hconstruct
  have hcontract := contract_noSplitPair event.eventClass
  have hmetaNames := (encodeEntries_lookup hmetadata).1
  have hdataNames := (encodeEntries_lookup hdata).1
  have hmeta : Json.faithfulMembers metadata = true := by
    rw [Json.faithfulMembers_iff]
    intro member hmember
    obtain ⟨value, hentry, hencode⟩ := encodeEntries_mem hmetadata member hmember
    obtain ⟨name, hname, hpair⟩ := List.mem_map.mp hentry
    simp only [Prod.mk.injEq] at hpair
    obtain ⟨rfl, rfl⟩ := hpair
    have hname' := order.property.mem_iff.mp hname
    obtain ⟨field, hfield, hfirst⟩ := List.mem_map.mp hname'
    refine ⟨names_noSplitPair event.eventClass _ (List.mem_append_left _ hname'), ?_⟩
    have hcoerce := event.metadata.coerce_entry rt field hfield
    rw [hfirst] at hcoerce
    exact faithful_of_coerce hcoerce (event.metadata.entry_text _) hencode
  have hbody : Json.faithfulMembers data = true := by
    rw [Json.faithfulMembers_iff]
    intro member hmember
    obtain ⟨value, hentry, hencode⟩ := encodeEntries_mem hdata member hmember
    have hlookup := PyValue.lookup_of_mem event.data_nodup hentry
    have hname : member.1 ∈ event.eventClass.domainFieldNames := by
      rw [← event.data_fields]
      exact List.mem_map_of_mem hentry
    refine ⟨names_noSplitPair event.eventClass _ (List.mem_append_right _ hname), ?_⟩
    obtain ⟨field, hfield, hfirst⟩ := List.mem_map.mp hname
    obtain ⟨value', coerced, hvalue, hcoerce, -⟩ :=
      (coerceFields_own hkwargs).2.1 field hfield
    rw [hfirst, hlookup] at hvalue
    simp only [Option.some.injEq] at hvalue
    subst hvalue
    exact faithful_of_coerce hcoerce
      (fun text hstr => htext _ text (by rw [hlookup, hstr])) hencode
  have hmetaNodup : (metadata.map Prod.fst).Nodup := by
    rw [hmetaNames, EventMetadata.entries_names, order.property.nodup_iff]
    decide
  have hdataNodup : (data.map Prod.fst).Nodup := by
    rw [hdataNames]
    exact event.data_nodup
  have houter : ([py "envelope_version", py "contract", py "metadata",
      py "data"] : List PyStr).Nodup := by decide
  have hinner : ([py "namespace", py "name", py "version"] : List PyStr).Nodup := by
    decide
  have hkeys : ∀ name ∈ [py "envelope_version", py "contract", py "metadata",
      py "data", py "namespace", py "name", py "version"],
      PyStr.hasSplitPair name = false := by decide
  simp only [List.forall_mem_cons, List.not_mem_nil, false_implies,
    implies_true, and_true] at hkeys
  simp only [envelope, Json.faithful, Json.faithfulMembers, hmeta, hbody,
    hmetaNodup, hdataNodup, hcontract.1, hcontract.2, hkeys, List.map_cons,
    List.map_nil, houter, hinner, Bool.not_false, Bool.and_true,
    decide_true]

/-- An event is decoded from its own wire form, coerced but otherwise the
same. -/
theorem decode_serialized
    {text : PyStr} (hserialize : serializeEvent rt order event = .ok text)
    (hdeclared : event.Declared) (htext : event.NoSplitPair) :
    ∃ result, constructEvent rt (contractOf event.eventClass)
        (event.metadata.entries order) event.data = .ok result ∧
      decodeEvent rt text = some result := by
  obtain ⟨result, metadata, data, hconstruct, hmetadata, hdata, rfl⟩ :=
    serializeEvent_ok_iff.mp hserialize
  have hloads := Json.loads_render rt.parseFloat rt.floatRepr Json.readable_compact _
    (envelope_faithful hconstruct hmetadata hdata htext)
  have hnames : (metadata.map Prod.fst).Perm metadataNames := by
    rw [(encodeEntries_lookup hmetadata).1, EventMetadata.entries_names]
    exact order.property
  refine ⟨result, hconstruct, ?_⟩
  simp only [decodeEvent, hloads]
  rw [deserializeEvent_envelope _ hnames,
    constructEvent_encoded hconstruct hmetadata hdata hdeclared]
  rfl

theorem same_of_constructEvent
    {result : DomainEvent}
    (hconstruct : constructEvent rt (contractOf event.eventClass)
      (event.metadata.entries order) event.data = .ok result)
    (hdeclared : event.Declared) :
    result.Same event := by
  obtain ⟨kwargs, hkwargs, -, hclass, hmetadata, hdata⟩ :=
    constructEvent_own hconstruct
  refine ⟨hclass, hmetadata, ?_⟩
  intro name hname
  rw [hclass] at hname
  obtain ⟨field, hfield, rfl⟩ := List.mem_map.mp hname
  obtain ⟨value, coerced, hvalue, hcoerce, hlookup⟩ :=
    (coerceFields_own hkwargs).2.1 field hfield
  have hleft : PyValue.get field.1 result.data = coerced := by
    rw [hdata, PyValue.get, PyValue.lookup_map _ _ hname]
    simp [PyValue.get, hlookup]
  have hright : PyValue.get field.1 event.data = value := by
    simp [PyValue.get, hvalue]
  rw [hleft, hright]
  exact coerced_same hcoerce (hdeclared field hfield value hvalue)

/-! ## Writing back what was read -/

theorem checkEach_congr
    {values values' : List (PyStr × PyValue)}
    (check : PyStr → PyValue → Except PyException Unit) {names : List PyStr}
    (hnames : ∀ name ∈ names, PyValue.get name values = PyValue.get name values') :
    checkEach values check names = checkEach values' check names := by
  induction names with
  | nil => rfl
  | cons name names ih =>
      have htail := ih fun other hother => hnames other (by simp [hother])
      simp only [checkEach, hnames name (by simp), htail]

/-- The semantic checks read the data fields only. -/
theorem validateEventSemantics_congr
    {values values' : List (PyStr × PyValue)}
    (hget : ∀ name, name ∉ metadataNames →
      PyValue.get name values = PyValue.get name values') :
    validateEventSemantics rt values = validateEventSemantics rt values' := by
  have heach : ∀ check names, (∀ name ∈ names, name ∉ metadataNames) →
      checkEach values check names = checkEach values' check names :=
    fun check names hnames => checkEach_congr check fun name hname =>
      hget name (hnames name hname)
  have hbounded : (fun field : PyStr × ℕ =>
      checkEach values (checkBounded field.2) [field.1]) =
        fun field => if field.1 ∈ metadataNames then
          checkEach values (checkBounded field.2) [field.1]
        else checkEach values' (checkBounded field.2) [field.1] := by
    funext field
    split
    · rfl
    · rename_i hname
      exact heach _ _ (by simpa using hname)
  have hloop : boundedFields.forM (fun field =>
      checkEach values (checkBounded field.2) [field.1]) =
        boundedFields.forM fun field =>
          checkEach values' (checkBounded field.2) [field.1] := by
    rw [hbounded]
    rfl
  unfold validateEventSemantics
  rw [heach _ _ (by decide), heach _ _ (by decide), heach _ _ (by decide),
    heach _ _ (by decide), heach checkPositive [py "days_overdue"] (by decide),
    hget _ (by decide), hget (py "due_date") (by decide),
    hget (py "return_due_date") (by decide), hget (py "old_due_date") (by decide),
    hget (py "new_due_date") (by decide), hloop]

/-- An event that was constructed from any payload is constructed again from
its own entries. -/
theorem constructEvent_again
    (order : MetadataOrder) {cls : EventClass}
    {metadata data : List (PyStr × PyValue)}
    (hconstruct : constructEvent rt (contractOf cls) metadata data = .ok event) :
    event.eventClass = cls ∧ event.Declared ∧
      (∀ field ∈ cls.domainFields, ∃ value coerced,
        PyValue.lookup field.1 (metadata ++ data) = some value ∧
          coerceAndValidateValue rt field.2 value = .ok coerced ∧
          PyValue.lookup field.1 event.data = some coerced) ∧
      constructEvent rt (contractOf event.eventClass)
        (event.metadata.entries order) event.data = .ok event := by
  obtain ⟨eventId, kwargs, hcheck, hnames, hkwargs, hfinish⟩ :=
    constructEvent_ok_iff.mp hconstruct
  obtain ⟨hsemantics, hmissing, hclass, hpost, hdata⟩ := finishEvent_ok_iff.mp hfinish
  rw [contractOf_eventClass] at hclass hkwargs hmissing hdata
  subst hclass
  obtain ⟨habsent, hpresent⟩ := coerceFields_lookup hkwargs (fields_nodup _)
  have hfields : ∀ field ∈ event.eventClass.domainFields, ∃ value coerced,
      PyValue.lookup field.1 (metadata ++ data) = some value ∧
        coerceAndValidateValue rt field.2 value = .ok coerced ∧
        PyValue.lookup field.1 kwargs = some coerced := by
    intro field hfield
    rcases hpresent field (List.mem_append_right _ hfield) with
      ⟨-, hnone⟩ | hsome
    · unfold missingFields at hmissing
      rw [List.filter_eq_nil_iff] at hmissing
      exact absurd (by simp [hnone]) (hmissing field.1 (domainFieldNames_of_mem hfield))
    · exact hsome
  have hlookup : ∀ field ∈ event.eventClass.domainFields, ∀ coerced,
      PyValue.lookup field.1 kwargs = some coerced →
        PyValue.lookup field.1 event.data = some coerced := by
    intro field hfield coerced hcoerced
    rw [hdata, PyValue.lookup_map _ _ (domainFieldNames_of_mem hfield)]
    simp [PyValue.get, hcoerced]
  have hdeclared : event.Declared := by
    intro field hfield value hvalue
    obtain ⟨_, coerced, -, hcoerce, hfound⟩ := hfields field hfield
    rw [hlookup field hfield coerced hfound] at hvalue
    simp only [Option.some.injEq] at hvalue
    exact hvalue ▸ coerced_declares hcoerce
  have hvalues : ∀ field ∈ event.eventClass.domainFields, ∃ value coerced,
      PyValue.lookup field.1 (metadata ++ data) = some value ∧
        coerceAndValidateValue rt field.2 value = .ok coerced ∧
        PyValue.lookup field.1 event.data = some coerced := by
    intro field hfield
    obtain ⟨value, coerced, hvalue, hcoerce, hfound⟩ := hfields field hfield
    exact ⟨value, coerced, hvalue, hcoerce, hlookup field hfield coerced hfound⟩
  obtain ⟨own, hown⟩ : ∃ own, coerceFields rt (contractOf event.eventClass)
      event.metadata.event_id.val (event.metadata.entries order ++ event.data)
      event.eventClass.fields = .ok own := by
    apply coerceFields_ok
    intro field hfield value hvalue
    rcases List.mem_append.mp hfield with hmeta | hdomain
    · rw [lookup_own_metadata (List.mem_map_of_mem hmeta)] at hvalue
      simp only [Option.some.injEq] at hvalue
      exact ⟨_, hvalue ▸ event.metadata.coerce_entry rt field hmeta⟩
    · rw [lookup_own_data (domainFieldNames_of_mem hdomain)] at hvalue
      obtain ⟨_, coerced, -, hcoerce, hfound⟩ := hvalues field hdomain
      rw [hfound] at hvalue
      simp only [Option.some.injEq] at hvalue
      exact ⟨coerced, hvalue ▸ coerce_coerced hcoerce⟩
  obtain ⟨-, hownData, hownAbsent⟩ := coerceFields_own hown
  have hget : ∀ name, name ∉ metadataNames →
      PyValue.get name own = PyValue.get name kwargs := by
    intro name hname
    by_cases hdomain : name ∈ event.eventClass.domainFieldNames
    · obtain ⟨field, hfield, rfl⟩ := List.mem_map.mp hdomain
      obtain ⟨value, coerced, hvalue, hcoerce, hfound⟩ := hownData field hfield
      obtain ⟨_, coerced', -, hcoerce', hfound'⟩ := hfields field hfield
      rw [hlookup field hfield coerced' hfound'] at hvalue
      simp only [Option.some.injEq] at hvalue
      subst hvalue
      rw [coerce_coerced hcoerce'] at hcoerce
      simp only [Except.ok.injEq] at hcoerce
      simp [PyValue.get, hfound, hfound', hcoerce]
    · have hnone := habsent name (by
        rw [fields_names, List.mem_append, not_or]
        exact ⟨hname, hdomain⟩)
      simp [PyValue.get, hownAbsent name hname hdomain, hnone]
  have hsemantics' : validateEventSemantics rt own = .ok () := by
    rw [validateEventSemantics_congr hget]
    exact hsemantics
  obtain ⟨result, hresult, hresultClass, hresultMeta, hresultData⟩ :=
    constructEvent_own_of hown hsemantics'
  have hsame : result = event := by
    have hentries : result.data = event.data := by
      rw [hresultData, hdata]
      apply List.map_congr_left
      intro name hname
      rw [hget name fun hmeta => metadataNames_not_domain _ name hmeta hname]
    obtain ⟨rcls, rmeta, rdata, rfields⟩ := result
    obtain ⟨ecls, emeta, edata, efields⟩ := event
    simp only at hresultClass hresultMeta hentries
    subst hresultClass
    subst hresultMeta
    subst hentries
    rfl
  exact ⟨rfl, hdeclared, hvalues, hsame ▸ hresult⟩

theorem readContract_ok
    {parts : EnvelopeParts} {contract : EventContract}
    (hread : readContract parts = .ok contract) :
    contract = contractOf contract.eventClass ∧
      ∀ name ∈ metadataNames, name ∈ parts.metadata.map Prod.fst := by
  unfold readContract at hread
  simp only [throw_eq, error_bind, guard_eq_ok, not_not] at hread
  obtain ⟨-, -, hmissing, hread⟩ := hread
  refine ⟨?_, ?_⟩
  · split at hread
    · rename_i name version hname hversion
      cases hfind : contractByName name with
      | none => simp [hfind] at hread
      | some found =>
          simp only [hfind] at hread
          split at hread
          · simp only [pure_eq, Except.ok.injEq] at hread
            subst hread
            exact (mem_of_contractByName hfind).1
          · simp at hread
    · simp at hread
  · intro name hname
    unfold missingMetadata at hmissing
    rw [List.filter_eq_nil_iff] at hmissing
    have hsome := hmissing name hname
    rw [← Json.lookup_isSome]
    simpa [Option.isSome_iff_ne_none] using hsome

/-- What an accepted payload went through. -/
theorem deserializeEvent_ok
    {payload : Json} (hdeserialize : deserializeEvent rt payload = .ok event) :
    ∃ members parts, payload = .obj members ∧ readParts rt members = .ok parts ∧
      readContract parts = .ok (contractOf event.eventClass) ∧
      constructEvent rt (contractOf event.eventClass)
        (Json.toEntries parts.metadata) (Json.toEntries parts.data) = .ok event := by
  cases payload with
  | obj members =>
      simp only [deserializeEvent, bind_eq_ok, mapError_eq_ok] at hdeserialize
      obtain ⟨parts, hparts, contract, hcontract, hconstruct⟩ := hdeserialize
      obtain ⟨eventId, kwargs, -, -, -, hfinish⟩ := constructEvent_ok_iff.mp hconstruct
      have hclass := (finishEvent_ok_iff.mp hfinish).2.2.1
      have hregistered : contract = contractOf event.eventClass := by
        rw [hclass]
        exact (readContract_ok hcontract).1
      subst hregistered
      exact ⟨members, parts, rfl, hparts, hcontract, hconstruct⟩
  | null | bool _ | int _ | float _ | str _ | arr _ =>
      simp [deserializeEvent] at hdeserialize

theorem readParts_ok
    {members : List (PyStr × Json)} {parts : EnvelopeParts}
    (hread : readParts rt members = .ok parts) :
    Json.lookup (py "metadata") members = some (.obj parts.metadata) ∧
      Json.lookup (py "data") members = some (.obj parts.data) := by
  have hget : ∀ key entries, Json.get key members = .obj entries →
      Json.lookup key members = some (.obj entries) := by
    intro key entries hentries
    unfold Json.get at hentries
    cases hlookup : Json.lookup key members with
    | none => simp [hlookup] at hentries
    | some value => simpa [hlookup] using hentries
  unfold readParts at hread
  simp only [throw_eq, error_bind, guard_eq_ok] at hread
  obtain ⟨-, -, hread⟩ := hread
  split at hread
  · split at hread
    · rename_i metadata hmetadata
      split at hread
      · rename_i data hdata
        simp only [pure_eq, Except.ok.injEq] at hread
        subst hread
        exact ⟨hget _ _ hmetadata, hget _ _ hdata⟩
      · simp at hread
    · simp at hread
  · simp at hread

theorem deserialized_noSplitPair
    {payload : Json} (hdeserialize : deserializeEvent rt payload = .ok event)
    (hpayload : payload.hasSplitPair = false) :
    event.NoSplitPair := by
  obtain ⟨members, parts, rfl, hparts, hcontract, hconstruct⟩ :=
    deserializeEvent_ok hdeserialize
  obtain ⟨hmeta, hbody⟩ := readParts_ok hparts
  have hentries : ∀ key value,
      PyValue.lookup key (Json.toEntries parts.metadata ++ Json.toEntries parts.data) =
        some value → ∀ text, value = .str text →
          PyStr.hasSplitPair text = false := by
    have hone : ∀ part, Json.hasSplitPair (.obj part) = false → ∀ key text,
        PyValue.lookup key (Json.toEntries part) = some (.str text) →
          PyStr.hasSplitPair text = false := by
      intro part hpart key text hlookup
      rw [toEntries_lookup] at hlookup
      obtain ⟨json, hjson, htext⟩ := Option.map_eq_some_iff.mp hlookup
      have hclean := Json.hasSplitPair_lookup hpart hjson
      cases json with
      | str found =>
          simp only [Json.toValue, PyValue.str.injEq] at htext
          exact htext ▸ hclean
      | null | bool _ | int _ | float _ | arr _ | obj _ => simp [Json.toValue] at htext
    have hclean : ∀ key value, Json.lookup key members = some value →
        value.hasSplitPair = false :=
      fun key value => Json.hasSplitPair_lookup hpayload
    rintro key value hlookup text rfl
    rw [PyValue.lookup_append] at hlookup
    rcases Option.or_eq_some_iff.mp hlookup with hleft | ⟨-, hright⟩
    · exact hone _ (hclean _ _ hmeta) key text hleft
    · exact hone _ (hclean _ _ hbody) key text hright
  obtain ⟨-, -, hvalues, -⟩ :=
    constructEvent_again ⟨metadataNames, .refl _⟩ hconstruct
  intro name text hlookup
  have hname : name ∈ event.eventClass.domainFieldNames := by
    rw [← event.data_fields, ← PyValue.lookup_isSome, hlookup]
    rfl
  obtain ⟨field, hfield, rfl⟩ := List.mem_map.mp hname
  obtain ⟨value, coerced, hvalue, hcoerce, hfound⟩ := hvalues field hfield
  rw [hfound] at hlookup
  simp only [Option.some.injEq] at hlookup
  subst hlookup
  rcases coerce_ok_cases hcoerce with ⟨hsame, -⟩ | ⟨-, utc, hutc, -⟩
  · exact hentries _ _ hvalue text hsame.symm
  · simp at hutc

end Own

/-- Both round trips of the wire format, for values of the declared kinds and
text without split surrogate pairs. -/
theorem wire_format_round_trips (rt : PythonRuntime) (order : MetadataOrder) :
    (∀ event text, serializeEvent rt order event = .ok text →
      event.Declared → event.NoSplitPair →
        ∃ decoded, decodeEvent rt text = some decoded ∧ decoded.Same event) ∧
    ∀ payload event, deserializeEvent rt payload = .ok event →
      payload.hasSplitPair = false →
        ∃ text, serializeEvent rt order event = .ok text ∧
          decodeEvent rt text = some event := by
  constructor
  · intro event text hserialize hdeclared htext
    obtain ⟨decoded, hconstruct, hdecode⟩ :=
      decode_serialized hserialize hdeclared htext
    exact ⟨decoded, hdecode, same_of_constructEvent hconstruct hdeclared⟩
  · intro payload event hdeserialize hpayload
    have htext := deserialized_noSplitPair hdeserialize hpayload
    obtain ⟨members, parts, rfl, hparts, hcontract, hconstruct⟩ :=
      deserializeEvent_ok hdeserialize
    obtain ⟨-, hdeclared, -, hagain⟩ := constructEvent_again order hconstruct
    obtain ⟨text, hserialize⟩ := serializeEvent_of_construct hagain
    obtain ⟨decoded, hdecoded, hdecode⟩ :=
      decode_serialized hserialize hdeclared htext
    rw [hagain] at hdecoded
    simp only [Except.ok.injEq] at hdecoded
    exact ⟨text, hserialize, hdecoded ▸ hdecode⟩

/-! ## Why both conditions are there -/

def sampleMetadata : EventMetadata where
  event_id := ⟨py "event-1", by decide⟩
  occurred_at := 0
  correlation_id := ⟨py "event-1", by decide⟩
  causation_id := none

def sampleOrder : MetadataOrder := ⟨metadataNames, .refl _⟩

/-- A suspension whose reason has the given text. -/
def suspendedWith (reason : PyStr) : DomainEvent where
  eventClass := .patronSuspended
  metadata := sampleMetadata
  data := [(py "patron_id", .str (py "p1")), (py "reason", .str reason)]
  data_fields := rfl

/-- An extension whose dates are ISO-8601 text. -/
def extendedWithText : DomainEvent where
  eventClass := .loanExtended
  metadata := sampleMetadata
  data :=
    [(py "loan_id", .str (py "l1")), (py "patron_id", .str (py "p1")),
      (py "book_id", .str (py "b1")),
      (py "old_due_date", .str (py "2026-01-01T00:00:00+00:00")),
      (py "new_due_date", .str (py "2026-01-02T00:00:00+00:00"))]
  data_fields := rfl

def splitPair : PyStr := [⟨0xD800, by decide⟩, ⟨0xDC00, by decide⟩]

theorem same_str {value : PyValue} {text : PyStr} (hsame : value.Same (.str text)) :
    value = .str text := by
  cases value with
  | datetime value =>
      obtain ⟨wall, offset⟩ := value
      cases offset <;> exact hsame
  | none | bool _ | int _ | float _ | str _ | list _ | dict _ | object _ =>
      exact hsame

/-- The wire form of the event, empty when it is refused. -/
def wireText (event : DomainEvent) : PyStr :=
  (serializeEvent asciiRuntime sampleOrder event).toOption.getD []

/-- A text field of the decoded event. -/
def decodedText (name : PyStr) (text : PyStr) : Option (Option PyStr) :=
  (decodeEvent asciiRuntime text).map fun decoded =>
    match PyValue.get name decoded.data with
    | .str value => some value
    | _ => none

/-- A decoded text field that differs shows that the event differs. -/
theorem not_same_of_decodedText
    {event : DomainEvent} (name value : PyStr) (found : Option PyStr) {text : PyStr}
    (hname : name ∈ event.eventClass.domainFieldNames)
    (hvalue : PyValue.get name event.data = .str value)
    (hdecoded : decodedText name text = some found) (hne : found ≠ some value) :
    ¬ ∃ decoded, decodeEvent asciiRuntime text = some decoded ∧
      decoded.Same event := by
  rintro ⟨decoded, hdecode, hclass, -, hsame⟩
  have hfield := hsame name (hclass ▸ hname)
  rw [hvalue] at hfield
  simp only [decodedText, hdecode, Option.map_some, same_str hfield,
    Option.some.injEq] at hdecoded
  exact hne hdecoded.symm

/-- The decoded form of `suspendedWith (py "late")` as it stands on the wire. -/
def suspendedPayload : Json :=
  envelope (contractOf .patronSuspended)
    [(py "event_id", .str (py "event-1")),
      (py "occurred_at", .str (py "0001-01-01T00:00:00+00:00")),
      (py "correlation_id", .str (py "event-1")), (py "causation_id", .null)]
    [(py "patron_id", .str (py "p1")), (py "reason", .str (py "late"))]

theorem wire_format_round_trips_sample :
    (∃ decoded, decodeEvent asciiRuntime (wireText (suspendedWith (py "late"))) =
        some decoded ∧ decoded.Same (suspendedWith (py "late"))) ∧
      ∃ event text, deserializeEvent asciiRuntime suspendedPayload = .ok event ∧
        serializeEvent asciiRuntime sampleOrder event = .ok text ∧
        decodeEvent asciiRuntime text = some event := by
  constructor
  · have hserialize : serializeEvent asciiRuntime sampleOrder
        (suspendedWith (py "late")) =
          .ok (wireText (suspendedWith (py "late"))) := rfl
    refine (wire_format_round_trips asciiRuntime sampleOrder).1 _ _ hserialize ?_ ?_
    · intro field hfield value hvalue
      simp only [suspendedWith, EventClass.domainFields, List.mem_cons,
        List.not_mem_nil, or_false] at hfield
      rcases hfield with rfl | rfl <;> exact trivial
    · intro name text hlookup
      have hmem := PyValue.mem_of_lookup hlookup
      simp only [suspendedWith, List.mem_cons, Prod.mk.injEq, PyValue.str.injEq,
        List.not_mem_nil, or_false] at hmem
      rcases hmem with ⟨-, rfl⟩ | ⟨-, rfl⟩ <;> decide
  · have haccepted :
        (deserializeEvent asciiRuntime suspendedPayload).toOption.isSome = true := by
      decide +kernel
    obtain ⟨event, hdeserialize⟩ := ok_of_isSome haccepted
    obtain ⟨text, hserialize, hdecode⟩ :=
      (wire_format_round_trips asciiRuntime sampleOrder).2 suspendedPayload event
        hdeserialize (by decide)
    exact ⟨event, text, hdeserialize, hserialize, hdecode⟩

theorem wire_format_loses_text_and_kind :
    (∃ text, serializeEvent asciiRuntime sampleOrder (suspendedWith splitPair) =
        .ok text ∧
      ¬ ∃ decoded, decodeEvent asciiRuntime text = some decoded ∧
        decoded.Same (suspendedWith splitPair)) ∧
    ∃ text, serializeEvent asciiRuntime sampleOrder extendedWithText = .ok text ∧
      ¬ ∃ decoded, decodeEvent asciiRuntime text = some decoded ∧
        decoded.Same extendedWithText := by
  constructor
  · refine ⟨wireText (suspendedWith splitPair), rfl,
      not_same_of_decodedText (py "reason") splitPair
        (some [⟨0x10000, by decide⟩]) (by decide) rfl ?_ (by decide)⟩
    decide +kernel
  · refine ⟨wireText extendedWithText, rfl,
      not_same_of_decodedText (py "old_due_date")
        (py "2026-01-01T00:00:00+00:00") none (by decide) rfl ?_ (by decide)⟩
    decide +kernel

end LibrarySystem
