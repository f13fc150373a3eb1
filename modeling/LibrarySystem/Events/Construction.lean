import LibrarySystem.Foundation.Result
import LibrarySystem.Events.Registry

/-!
# What the constructor path accepts

Lookup rules for the dictionaries of the registry, the inversion of
`_construct_event`, and the two facts the round trips rest on: a coerced value
is coerced to itself, and the JSON form of a declared value is coerced to the
same value as the value itself.
-/

namespace LibrarySystem

open Result

/-! ## Dictionaries -/

namespace PyValue

theorem lookup_append (key : PyStr) (left right : List (PyStr × PyValue)) :
    lookup key (left ++ right) = (lookup key left).or (lookup key right) := by
  induction left with
  | nil => simp [lookup]
  | cons entry left ih =>
      simp only [List.cons_append, lookup]
      split <;> simp [ih]

theorem lookup_isSome (key : PyStr) (entries : List (PyStr × PyValue)) :
    (lookup key entries).isSome = true ↔ key ∈ entries.map Prod.fst := by
  induction entries with
  | nil => simp [lookup]
  | cons entry entries ih =>
      simp only [lookup, List.map_cons, List.mem_cons]
      split
      · rename_i hname
        simp [hname]
      · rename_i hname
        simp [ih, Ne.symm hname]

theorem lookup_eq_none (key : PyStr) (entries : List (PyStr × PyValue)) :
    lookup key entries = Option.none ↔ key ∉ entries.map Prod.fst := by
  rw [← lookup_isSome, Bool.not_eq_true, Option.isSome_eq_false_iff,
    Option.isNone_iff_eq_none]

theorem mem_of_lookup
    {key : PyStr} {entries : List (PyStr × PyValue)} {value : PyValue}
    (hlookup : lookup key entries = some value) :
    (key, value) ∈ entries := by
  induction entries with
  | nil => simp [lookup] at hlookup
  | cons entry entries ih =>
      simp only [lookup] at hlookup
      split at hlookup
      · rename_i hname
        simp only [Option.some.injEq] at hlookup
        subst hlookup
        subst hname
        simp
      · simp [ih hlookup]

theorem lookup_of_mem
    {entries : List (PyStr × PyValue)} (hnodup : (entries.map Prod.fst).Nodup)
    {key : PyStr} {value : PyValue} (hmem : (key, value) ∈ entries) :
    lookup key entries = some value := by
  induction entries with
  | nil => simp at hmem
  | cons entry entries ih =>
      simp only [List.map_cons, List.nodup_cons] at hnodup
      rcases List.mem_cons.mp hmem with rfl | hmem
      · simp [lookup]
      · have hne : entry.1 ≠ key := by
          intro hname
          have hkey : key ∈ entries.map Prod.fst :=
            List.mem_map_of_mem hmem
          exact hnodup.1 (hname ▸ hkey)
        simpa [lookup, hne] using ih hnodup.2 hmem

theorem lookup_map
    (names : List PyStr) (value : PyStr → PyValue) {key : PyStr}
    (hkey : key ∈ names) :
    lookup key (names.map fun name => (name, value name)) = some (value key) := by
  induction names with
  | nil => simp at hkey
  | cons name names ih =>
      simp only [List.map_cons, lookup]
      split
      · rename_i hname
        rw [hname]
      · rename_i hname
        rcases List.mem_cons.mp hkey with rfl | hkey
        · simp at hname
        · exact ih hkey

end PyValue

theorem toEntries_lookup (key : PyStr) (members : List (PyStr × Json)) :
    PyValue.lookup key (Json.toEntries members) =
      (Json.lookup key members).map Json.toValue := by
  induction members with
  | nil => rfl
  | cons member members ih =>
      obtain ⟨name, value⟩ := member
      simp only [Json.toEntries, PyValue.lookup, Json.lookup]
      split
      · rfl
      · exact ih

theorem toEntries_names (members : List (PyStr × Json)) :
    (Json.toEntries members).map Prod.fst = members.map Prod.fst := by
  induction members with
  | nil => rfl
  | cons member members ih => simp [Json.toEntries, ih]

theorem Json.lookup_isSome (key : PyStr) (members : List (PyStr × Json)) :
    (Json.lookup key members).isSome = true ↔ key ∈ members.map Prod.fst := by
  rw [← toEntries_names, ← PyValue.lookup_isSome, toEntries_lookup, Option.isSome_map]

/-- Encoding keeps the names and encodes each value. -/
theorem encodeEntries_lookup
    {entries : List (PyStr × PyValue)} {members : List (PyStr × Json)}
    (hencode : PyValue.encodeEntries entries = .ok members) :
    members.map Prod.fst = entries.map Prod.fst ∧
      ∀ key value, PyValue.lookup key entries = some value →
        ∃ json, value.encode = .ok json ∧ Json.lookup key members = some json := by
  induction entries generalizing members with
  | nil =>
      simp only [PyValue.encodeEntries, Except.ok.injEq] at hencode
      subst members
      simp [PyValue.lookup]
  | cons entry entries ih =>
      obtain ⟨name, value⟩ := entry
      simp only [PyValue.encodeEntries] at hencode
      cases hvalue : value.encode with
      | error error =>
          rw [hvalue] at hencode
          cases hencode
      | ok json =>
          cases htail : PyValue.encodeEntries entries with
          | error error =>
              rw [hvalue, htail] at hencode
              cases hencode
          | ok tail =>
              rw [hvalue, htail] at hencode
              obtain rfl : (name, json) :: tail = members := by
                cases hencode
                rfl
              obtain ⟨hnames, hlookup⟩ := ih htail
              refine ⟨by simp [hnames], ?_⟩
              intro key found hfound
              simp only [PyValue.lookup, Json.lookup] at hfound ⊢
              split at hfound
              · rename_i hname
                obtain rfl : value = found := by simpa using hfound
                exact ⟨json, hvalue, by simp [hname]⟩
              · rename_i hname
                obtain ⟨found', hencoded, hmember⟩ := hlookup key found hfound
                exact ⟨found', hencoded, by simp [hname, hmember]⟩

theorem encodeEntries_ok
    {entries : List (PyStr × PyValue)}
    (hvalues : ∀ entry ∈ entries, ∃ json, entry.2.encode = .ok json) :
    ∃ members, PyValue.encodeEntries entries = .ok members := by
  induction entries with
  | nil => exact ⟨[], rfl⟩
  | cons entry entries ih =>
      obtain ⟨json, hjson⟩ := hvalues entry (by simp)
      obtain ⟨members, hmembers⟩ := ih fun e he => hvalues e (by simp [he])
      refine ⟨(entry.1, json) :: members, ?_⟩
      simp only [PyValue.encodeEntries, hjson, hmembers]
      rfl

/-! ## Field types -/

/-- A value of the annotated kind; the annotation is what the claim about the
wire format adds to a successful coercion. -/
def FieldType.Declares : FieldType → PyValue → Prop
  | .datetime, .datetime _ => True
  | .datetime, _ => False
  | _, _ => True

/-- Same value, datetimes compared as instants. -/
def PyValue.Same : PyValue → PyValue → Prop
  | .datetime ⟨wall, some offset⟩, .datetime ⟨wall', some offset'⟩ =>
      DateTime.instant wall offset = DateTime.instant wall' offset'
  | left, right => left = right

theorem astimezoneUtc_instant
    {wall : Fin wallSpan} {offset : UtcOffset} {utc : UtcDateTime}
    (hutc : DateTime.astimezoneUtc wall offset = .ok utc) :
    (utc.val : ℤ) = DateTime.instant wall offset := by
  unfold DateTime.astimezoneUtc at hutc
  simp only at hutc
  split at hutc
  · rename_i hrange
    simp only [Except.ok.injEq] at hutc
    subst utc
    simp only
    omega
  · simp at hutc

theorem coerceAware_ok
    {value : DateTime} {coerced : PyValue}
    (hcoerce : coerceAware value = .ok coerced) :
    ∃ offset utc, value.utcoffset = some offset ∧
      DateTime.astimezoneUtc value.wall offset = .ok utc ∧
      coerced = .datetime (.ofUtc utc) := by
  unfold coerceAware at hcoerce
  cases hoffset : value.utcoffset with
  | none => simp [hoffset] at hcoerce
  | some offset =>
      simp only [hoffset] at hcoerce
      cases hutc : DateTime.astimezoneUtc value.wall offset with
      | error error =>
          rw [hutc] at hcoerce
          cases hcoerce
      | ok utc =>
          rw [hutc] at hcoerce
          cases hcoerce
          exact ⟨offset, utc, rfl, hutc, rfl⟩

@[simp] theorem coerceAware_ofUtc (t : UtcDateTime) :
    coerceAware (.ofUtc t) = .ok (.datetime (.ofUtc t)) := by
  simp only [coerceAware, DateTime.ofUtc, DateTime.astimezoneUtc_zero]
  rfl

theorem coerceStr_ok
    {value coerced : PyValue} (hcoerce : coerceStr value = .ok coerced) :
    ∃ text, value = .str text ∧ PyStr.strip text ≠ [] ∧ coerced = .str text := by
  cases value with
  | str text =>
      simp only [coerceStr] at hcoerce
      split at hcoerce
      · simp at hcoerce
      · rename_i hne
        simp only [Except.ok.injEq] at hcoerce
        exact ⟨text, rfl, hne, hcoerce.symm⟩
  | none | bool _ | int _ | float _ | datetime _ | list _ | dict _ | object _ =>
      simp [coerceStr] at hcoerce

/-- The values a field type accepts, and what becomes of them. -/
theorem coerce_ok_cases
    {rt : PythonRuntime} {type : FieldType} {value coerced : PyValue}
    (hcoerce : coerceAndValidateValue rt type value = .ok coerced) :
    (coerced = value ∧
      ((type = .optionalStr ∧ value = .none) ∨
        ((type = .optionalStr ∨ type = .str) ∧
          ∃ text, value = .str text ∧ PyStr.strip text ≠ []) ∨
        (type = .bool ∧ ∃ b, value = .bool b) ∨
        (type = .int ∧ ∃ n, value = .int n))) ∨
      (type = .datetime ∧ ∃ utc, coerced = .datetime (.ofUtc utc) ∧
        ((∃ text, value = .str text) ∨
          ∃ wall offset, value = .datetime ⟨wall, some offset⟩ ∧
            DateTime.astimezoneUtc wall offset = .ok utc)) := by
  cases type with
  | optionalStr =>
      left
      cases value with
      | none =>
          simp only [coerceAndValidateValue, Except.ok.injEq] at hcoerce
          exact ⟨hcoerce.symm, Or.inl ⟨rfl, rfl⟩⟩
      | str text =>
          simp only [coerceAndValidateValue] at hcoerce
          split at hcoerce
          · rename_i hstr
            obtain ⟨text', htext, hne, hresult⟩ := coerceStr_ok hstr
            simp only [Except.ok.injEq] at hcoerce
            subst hcoerce
            exact ⟨by rw [hresult, htext],
              Or.inr (Or.inl ⟨Or.inl rfl, text', htext, hne⟩)⟩
          · simp at hcoerce
      | bool _ | int _ | float _ | datetime _ | list _ | dict _ | object _ =>
          simp [coerceAndValidateValue, coerceStr] at hcoerce
  | str =>
      left
      obtain ⟨text, htext, hne, hresult⟩ := coerceStr_ok hcoerce
      exact ⟨by rw [hresult, htext],
        Or.inr (Or.inl ⟨Or.inr rfl, text, htext, hne⟩)⟩
  | bool =>
      left
      cases value with
      | bool b =>
          simp only [coerceAndValidateValue, Except.ok.injEq] at hcoerce
          exact ⟨hcoerce.symm, Or.inr (Or.inr (Or.inl ⟨rfl, b, rfl⟩))⟩
      | none | str _ | int _ | float _ | datetime _ | list _ | dict _ | object _ =>
          simp [coerceAndValidateValue] at hcoerce
  | int =>
      left
      cases value with
      | int n =>
          simp only [coerceAndValidateValue, Except.ok.injEq] at hcoerce
          exact ⟨hcoerce.symm, Or.inr (Or.inr (Or.inr ⟨rfl, n, rfl⟩))⟩
      | none | str _ | bool _ | float _ | datetime _ | list _ | dict _ | object _ =>
          simp [coerceAndValidateValue] at hcoerce
  | datetime =>
      right
      refine ⟨rfl, ?_⟩
      cases value with
      | datetime value =>
          obtain ⟨offset, utc, hoffset, hutc, hresult⟩ := coerceAware_ok hcoerce
          obtain ⟨wall, utcoffset⟩ := value
          simp only at hoffset hutc
          subst hoffset
          exact ⟨utc, hresult, Or.inr ⟨wall, offset, rfl, hutc⟩⟩
      | str text =>
          simp only [coerceAndValidateValue] at hcoerce
          split at hcoerce
          · simp at hcoerce
          · obtain ⟨offset, utc, -, -, hresult⟩ := coerceAware_ok hcoerce
            exact ⟨utc, hresult, Or.inl ⟨text, rfl⟩⟩
      | none | bool _ | int _ | float _ | list _ | dict _ | object _ =>
          simp [coerceAndValidateValue] at hcoerce

theorem coerce_str {rt : PythonRuntime} {text : PyStr} (htext : PyStr.strip text ≠ []) :
    coerceAndValidateValue rt .str (.str text) = .ok (.str text) := by
  simp [coerceAndValidateValue, coerceStr, htext]

theorem coerce_optionalStr
    {rt : PythonRuntime} {text : PyStr} (htext : PyStr.strip text ≠ []) :
    coerceAndValidateValue rt .optionalStr (.str text) = .ok (.str text) := by
  simp [coerceAndValidateValue, coerceStr, htext]

/-- Coercion is idempotent. -/
theorem coerce_coerced
    {rt : PythonRuntime} {type : FieldType} {value coerced : PyValue}
    (hcoerce : coerceAndValidateValue rt type value = .ok coerced) :
    coerceAndValidateValue rt type coerced = .ok coerced := by
  rcases coerce_ok_cases hcoerce with ⟨rfl, -⟩ | ⟨rfl, utc, rfl, -⟩
  · exact hcoerce
  · exact coerceAware_ofUtc utc

theorem coerced_declares
    {rt : PythonRuntime} {type : FieldType} {value coerced : PyValue}
    (hcoerce : coerceAndValidateValue rt type value = .ok coerced) :
    type.Declares coerced := by
  rcases coerce_ok_cases hcoerce with ⟨rfl, h⟩ | ⟨rfl, utc, rfl, -⟩
  · rcases h with ⟨rfl, -⟩ | ⟨rfl | rfl, -⟩ | ⟨rfl, -⟩ | ⟨rfl, -⟩ <;>
      simp [FieldType.Declares]
  · exact trivial

theorem coerced_same
    {rt : PythonRuntime} {type : FieldType} {value coerced : PyValue}
    (hcoerce : coerceAndValidateValue rt type value = .ok coerced)
    (hdeclares : type.Declares value) :
    coerced.Same value := by
  rcases coerce_ok_cases hcoerce with ⟨rfl, h⟩ | ⟨rfl, utc, rfl, h⟩
  · rcases h with ⟨-, rfl⟩ | ⟨-, text, rfl, -⟩ | ⟨-, b, rfl⟩ | ⟨-, n, rfl⟩ <;>
      simp [PyValue.Same]
  · rcases h with ⟨text, rfl⟩ | ⟨wall, offset, rfl, hutc⟩
    · simp [FieldType.Declares] at hdeclares
    · simp only [PyValue.Same, DateTime.ofUtc]
      rw [← astimezoneUtc_instant hutc]
      simp [DateTime.instant, UtcOffset.zero]

theorem normalizeZulu_isoformat (t : UtcDateTime) :
    normalizeZulu (isoformat t) = isoformat t := by
  unfold normalizeZulu
  rw [isoformat_getLast, if_neg]
  decide

/-- A declared value and its JSON form are coerced alike. -/
theorem coerce_encoded
    {rt : PythonRuntime} {type : FieldType} {value coerced : PyValue} {json : Json}
    (hcoerce : coerceAndValidateValue rt type value = .ok coerced)
    (hdeclares : type.Declares value) (hencode : value.encode = .ok json) :
    coerceAndValidateValue rt type json.toValue = .ok coerced := by
  rcases coerce_ok_cases hcoerce with ⟨rfl, h⟩ | ⟨rfl, utc, rfl, h⟩
  · have hself : json.toValue = coerced := by
      rcases h with ⟨-, rfl⟩ | ⟨-, text, rfl, -⟩ | ⟨-, b, rfl⟩ | ⟨-, n, rfl⟩ <;>
        · simp only [PyValue.encode, Except.ok.injEq] at hencode
          subst hencode
          rfl
    rw [hself]
    exact hcoerce
  · rcases h with ⟨text, rfl⟩ | ⟨wall, offset, rfl, hutc⟩
    · simp [FieldType.Declares] at hdeclares
    · have hjson : json = .str (isoformat utc) := by
        simp only [PyValue.encode, encodeDatetime, hutc] at hencode
        cases hencode
        rfl
      subst hjson
      simp only [Json.toValue, coerceAndValidateValue, normalizeZulu_isoformat,
        rt.fromisoformat_isoformat, coerceAware_ofUtc]

/-- A coerced field value can be encoded. -/
theorem encode_of_coerce
    {rt : PythonRuntime} {type : FieldType} {value coerced : PyValue}
    (hcoerce : coerceAndValidateValue rt type value = .ok coerced) :
    ∃ json, value.encode = .ok json := by
  rcases coerce_ok_cases hcoerce with ⟨rfl, h⟩ | ⟨rfl, utc, rfl, h⟩
  · rcases h with ⟨-, rfl⟩ | ⟨-, text, rfl, -⟩ | ⟨-, b, rfl⟩ | ⟨-, n, rfl⟩ <;>
      exact ⟨_, rfl⟩
  · rcases h with ⟨text, rfl⟩ | ⟨wall, offset, rfl, hutc⟩
    · exact ⟨_, rfl⟩
    · refine ⟨.str (isoformat utc), ?_⟩
      simp only [PyValue.encode, encodeDatetime, hutc]
      rfl

/-! ## The stages -/

section Stages

variable {rt : PythonRuntime} {contract : EventContract} {eventId : PyStr}

theorem wrapCaught_ok
    {α : Type} {wrap : PyStr → EventContractError} {result : Except PyException α}
    {value : α} (hwrap : wrapCaught wrap result = .ok value) :
    result = .ok value := by
  unfold wrapCaught at hwrap
  cases result with
  | ok found =>
      simp only [Except.ok.injEq] at hwrap
      rw [hwrap]
  | error error =>
      simp only at hwrap
      split at hwrap <;> simp at hwrap

/-- Every declared field that has a value was coerced; the others stay
absent. -/
theorem coerceFields_lookup
    {values kwargs : List (PyStr × PyValue)} {fields : List (PyStr × FieldType)}
    (hcoerce : coerceFields rt contract eventId values fields = .ok kwargs)
    (hnodup : (fields.map Prod.fst).Nodup) :
    (∀ name, name ∉ fields.map Prod.fst → PyValue.lookup name kwargs = none) ∧
      ∀ field ∈ fields,
        (PyValue.lookup field.1 values = none ∧
          PyValue.lookup field.1 kwargs = none) ∨
        ∃ value coerced, PyValue.lookup field.1 values = some value ∧
          coerceAndValidateValue rt field.2 value = .ok coerced ∧
          PyValue.lookup field.1 kwargs = some coerced := by
  induction fields generalizing kwargs with
  | nil =>
      simp only [coerceFields, Except.ok.injEq] at hcoerce
      subst kwargs
      simp [PyValue.lookup]
  | cons field fields ih =>
      obtain ⟨name, type⟩ := field
      simp only [List.map_cons, List.nodup_cons] at hnodup
      simp only [coerceFields] at hcoerce
      cases hvalue : PyValue.lookup name values with
      | none =>
          simp only [hvalue] at hcoerce
          obtain ⟨habsent, hpresent⟩ := ih hcoerce hnodup.2
          refine ⟨?_, ?_⟩
          · intro other hother
            simp only [List.map_cons, List.mem_cons, not_or] at hother
            exact habsent other hother.2
          · intro field hfield
            rcases List.mem_cons.mp hfield with rfl | hfield
            · exact Or.inl ⟨hvalue, habsent name hnodup.1⟩
            · exact hpresent field hfield
      | some value =>
          simp only [hvalue] at hcoerce
          cases hwrapped : wrapCaught
              (fun message => invalidEnvelope contract (some eventId)
                (py "Invalid value for " ++ name ++ py ": " ++ message))
              (coerceAndValidateValue rt type value) with
          | error error =>
              rw [hwrapped] at hcoerce
              cases hcoerce
          | ok coerced =>
              rw [hwrapped] at hcoerce
              cases htail : coerceFields rt contract eventId values fields with
              | error error =>
                  rw [htail] at hcoerce
                  cases hcoerce
              | ok tail =>
                  rw [htail] at hcoerce
                  obtain rfl : (name, coerced) :: tail = kwargs := by
                    cases hcoerce
                    rfl
                  obtain ⟨habsent, hpresent⟩ := ih htail hnodup.2
                  refine ⟨?_, ?_⟩
                  · intro other hother
                    simp only [List.map_cons, List.mem_cons, not_or] at hother
                    simp [PyValue.lookup, Ne.symm hother.1, habsent other hother.2]
                  · intro field hfield
                    rcases List.mem_cons.mp hfield with rfl | hfield
                    · exact Or.inr ⟨value, coerced, hvalue, wrapCaught_ok hwrapped,
                        by simp [PyValue.lookup]⟩
                    · have hmem : field.1 ∈ fields.map Prod.fst :=
                        List.mem_map_of_mem hfield
                      have hne : name ≠ field.1 := by
                        intro hname
                        exact hnodup.1 (hname ▸ hmem)
                      simpa [PyValue.lookup, hne] using hpresent field hfield

theorem coerceFields_ok
    {values : List (PyStr × PyValue)} {fields : List (PyStr × FieldType)}
    (hfields : ∀ field ∈ fields, ∀ value,
      PyValue.lookup field.1 values = some value →
        ∃ coerced, coerceAndValidateValue rt field.2 value = .ok coerced) :
    ∃ kwargs, coerceFields rt contract eventId values fields = .ok kwargs := by
  induction fields with
  | nil => exact ⟨[], rfl⟩
  | cons field fields ih =>
      obtain ⟨name, type⟩ := field
      obtain ⟨kwargs, hkwargs⟩ := ih fun field hfield =>
        hfields field (by simp [hfield])
      cases hvalue : PyValue.lookup name values with
      | none => exact ⟨kwargs, by simp only [coerceFields, hvalue, hkwargs]⟩
      | some value =>
          obtain ⟨coerced, hcoerced⟩ := hfields (name, type) (by simp) value hvalue
          refine ⟨(name, coerced) :: kwargs, ?_⟩
          simp only [coerceFields, hvalue, hcoerced, hkwargs, wrapCaught]
          rfl

theorem coerceFields_congr
    {values values' : List (PyStr × PyValue)} {fields : List (PyStr × FieldType)}
    {kwargs : List (PyStr × PyValue)}
    (hcoerce : coerceFields rt contract eventId values fields = .ok kwargs)
    (hfields : ∀ field ∈ fields,
      (PyValue.lookup field.1 values = none →
        PyValue.lookup field.1 values' = none) ∧
      ∀ value coerced, PyValue.lookup field.1 values = some value →
        coerceAndValidateValue rt field.2 value = .ok coerced →
          ∃ value', PyValue.lookup field.1 values' = some value' ∧
            coerceAndValidateValue rt field.2 value' = .ok coerced) :
    coerceFields rt contract eventId values' fields = .ok kwargs := by
  induction fields generalizing kwargs with
  | nil => exact hcoerce
  | cons field fields ih =>
      obtain ⟨name, type⟩ := field
      have hrest := fun field hfield => hfields field (List.mem_cons_of_mem _ hfield)
      obtain ⟨habsent, hpresent⟩ := hfields (name, type) (by simp)
      simp only [coerceFields] at hcoerce ⊢
      cases hvalue : PyValue.lookup name values with
      | none =>
          simp only [hvalue] at hcoerce
          simp only [habsent hvalue]
          exact ih hcoerce hrest
      | some value =>
          simp only [hvalue] at hcoerce
          cases hresult : coerceAndValidateValue rt type value with
          | error error =>
              rw [hresult, wrapCaught] at hcoerce
              split at hcoerce <;> cases hcoerce
          | ok coerced =>
              rw [hresult] at hcoerce
              obtain ⟨value', hvalue', hresult'⟩ := hpresent value coerced hvalue hresult
              cases htail : coerceFields rt contract eventId values fields with
              | error error =>
                  rw [htail] at hcoerce
                  cases hcoerce
              | ok tail =>
                  rw [htail] at hcoerce
                  simp only [hvalue', hresult', ih htail hrest]
                  exact hcoerce

theorem finishEvent_ok_iff
    {kwargs : List (PyStr × PyValue)} {event : DomainEvent} :
    finishEvent rt contract eventId kwargs = .ok event ↔
      validateEventSemantics rt kwargs = .ok () ∧
        missingFields contract.eventClass kwargs = [] ∧
        event.eventClass = contract.eventClass ∧
        postInit kwargs = .ok event.metadata ∧
        event.data = contract.eventClass.domainFieldNames.map
          fun name => (name, PyValue.get name kwargs) := by
  unfold finishEvent
  simp only [bind_eq_ok, throw_eq, error_bind, pure_eq, guard_eq_ok,
    mapError_eq_ok, not_not]
  constructor
  · rintro ⟨_, hsemantics, hmissing, metadata, hpost, ⟨⟩⟩
    exact ⟨wrapCaught_ok hsemantics, hmissing, rfl, hpost, rfl⟩
  · rintro ⟨hsemantics, hmissing, hclass, hpost, hdata⟩
    refine ⟨(), by rw [hsemantics]; rfl, hmissing, event.metadata, hpost, ?_⟩
    obtain ⟨cls, metadata, data, hfields⟩ := event
    simp only at hclass hdata
    subst hclass
    subst hdata
    rfl

/-- `_construct_event` succeeds exactly when all its stages do. -/
theorem constructEvent_ok_iff
    {metadata data : List (PyStr × PyValue)} {event : DomainEvent} :
    constructEvent rt contract metadata data = .ok event ↔
      ∃ eventId kwargs,
        checkMetadata contract metadata = .ok eventId ∧
        checkDataNames contract eventId data = .ok () ∧
        coerceFields rt contract eventId (metadata ++ data)
          contract.eventClass.fields = .ok kwargs ∧
        finishEvent rt contract eventId kwargs = .ok event := by
  unfold constructEvent
  simp only [bind_eq_ok, mapError_eq_ok]
  constructor
  · rintro ⟨eventId, hmetadata, _, hnames, kwargs, hkwargs, hfinish⟩
    exact ⟨eventId, kwargs, hmetadata, hnames, hkwargs, hfinish⟩
  · rintro ⟨eventId, kwargs, hmetadata, hnames, hkwargs, hfinish⟩
    exact ⟨eventId, hmetadata, (), hnames, kwargs, hkwargs, hfinish⟩

theorem checkMetadata_ok
    {metadata : List (PyStr × PyValue)} {eventId : PyStr}
    (hmetadata : checkMetadata contract metadata = .ok eventId) :
    PyValue.get (py "event_id") metadata = .str eventId ∧
      PyStr.strip eventId ≠ [] ∧
      ((∃ text, PyValue.get (py "occurred_at") metadata = .str text) ∨
        ∃ value, PyValue.get (py "occurred_at") metadata = .datetime value) ∧
      isTraceValue (PyValue.get (py "correlation_id") metadata) = true ∧
      isTraceValue (PyValue.get (py "causation_id") metadata) = true := by
  unfold checkMetadata at hmetadata
  split at hmetadata
  · rename_i raw hevent
    simp only [guard_eq_ok] at hmetadata
    obtain ⟨hne, hmetadata⟩ := hmetadata
    split at hmetadata
    · rename_i text htext
      split_ifs at hmetadata with hcorrelation hcausation
      simp only [Except.ok.injEq] at hmetadata
      subst eventId
      exact ⟨hevent, hne, Or.inl ⟨text, htext⟩, hcorrelation, hcausation⟩
    · rename_i value hvalue
      split_ifs at hmetadata with hcorrelation hcausation
      simp only [Except.ok.injEq] at hmetadata
      subst eventId
      exact ⟨hevent, hne, Or.inr ⟨value, hvalue⟩, hcorrelation, hcausation⟩
    · simp at hmetadata
  · simp at hmetadata

theorem checkMetadata_of
    {metadata : List (PyStr × PyValue)} {eventId : PyStr}
    (hevent : PyValue.get (py "event_id") metadata = .str eventId)
    (hne : PyStr.strip eventId ≠ [])
    (hoccurred : (∃ text, PyValue.get (py "occurred_at") metadata = .str text) ∨
      ∃ value, PyValue.get (py "occurred_at") metadata = .datetime value)
    (hcorrelation : isTraceValue (PyValue.get (py "correlation_id") metadata) = true)
    (hcausation : isTraceValue (PyValue.get (py "causation_id") metadata) = true) :
    checkMetadata contract metadata = .ok eventId := by
  unfold checkMetadata
  rcases hoccurred with ⟨text, htext⟩ | ⟨value, hvalue⟩
  · simp only [hevent, hne, htext, hcorrelation, hcausation, if_true, if_false]
  · simp only [hevent, hne, hvalue, hcorrelation, hcausation, if_true, if_false]

theorem unexpectedNames_eq_nil
    {α : Type} {entries : List (PyStr × α)} {allowed : List PyStr} :
    unexpectedNames entries allowed = [] ↔
      ∀ name ∈ entries.map Prod.fst, name ∈ allowed := by
  unfold unexpectedNames
  rw [List.dedup_eq_nil, List.filter_eq_nil_iff]
  simp

theorem checkDataNames_ok
    {data : List (PyStr × PyValue)} :
    checkDataNames contract eventId data = .ok () ↔
      ∀ name ∈ data.map Prod.fst, name ∈ contract.eventClass.domainFieldNames := by
  unfold checkDataNames
  simp only
  rw [← unexpectedNames_eq_nil]
  split <;> simp_all

end Stages

/-! ## The entries of an event instance -/

theorem fields_nodup (cls : EventClass) :
    (cls.fields.map Prod.fst).Nodup := by
  cases cls <;> decide

theorem fields_names (cls : EventClass) :
    cls.fields.map Prod.fst = metadataNames ++ cls.domainFieldNames := by
  simp [EventClass.fields, metadataNames, EventClass.domainFieldNames]

theorem metadataNames_not_domain (cls : EventClass) :
    ∀ name ∈ metadataNames, name ∉ cls.domainFieldNames := by
  have hnodup := fields_nodup cls
  rw [fields_names, List.nodup_append] at hnodup
  exact fun name hname hdomain => hnodup.2.2 name hname name hdomain rfl

theorem EventMetadata.lookup_entries
    (metadata : EventMetadata) (order : MetadataOrder) {name : PyStr}
    (hname : name ∈ metadataNames) :
    PyValue.lookup name (metadata.entries order) = some (metadata.entry name) :=
  PyValue.lookup_map _ _ (order.property.mem_iff.mpr hname)

theorem EventMetadata.entries_names
    (metadata : EventMetadata) (order : MetadataOrder) :
    (metadata.entries order).map Prod.fst = order.val := by
  simp [EventMetadata.entries, Function.comp_def]

/-- The entries of an event's metadata are coerced to themselves. -/
theorem EventMetadata.coerce_entry
    (rt : PythonRuntime) (metadata : EventMetadata) :
    ∀ field ∈ EventClass.metadataFields,
      coerceAndValidateValue rt field.2 (metadata.entry field.1) =
        .ok (metadata.entry field.1) := by
  have htext : ∀ identity : EventIdentity, PyStr.strip identity.val ≠ [] := by
    intro identity
    rw [EventIdentity.strip_val]
    exact identity.ne_nil
  intro field hfield
  simp only [EventClass.metadataFields, List.mem_cons, List.not_mem_nil,
    or_false] at hfield
  rcases hfield with rfl | rfl | rfl | rfl
  · exact coerce_str (htext metadata.event_id)
  · exact coerceAware_ofUtc metadata.occurred_at
  · exact coerce_optionalStr (htext metadata.correlation_id)
  · simp only [metadata.entry_causation]
    cases hcausation : metadata.causation_id with
    | none => rfl
    | some causation => exact coerce_optionalStr (htext causation)

/-- The base class rebuilds the metadata it wrote. -/
theorem postInit_of_entries
    {metadata : EventMetadata} {kwargs : List (PyStr × PyValue)}
    (hkwargs : ∀ name ∈ metadataNames,
      PyValue.lookup name kwargs = some (metadata.entry name)) :
    postInit kwargs = .ok metadata := by
  have hget : ∀ name ∈ metadataNames, PyValue.get name kwargs = metadata.entry name :=
    fun name hname => by simp [PyValue.get, hkwargs name hname]
  have hevent := hget (py "event_id") (by decide)
  have hoccurred := hget (py "occurred_at") (by decide)
  have hcorrelation := hget (py "correlation_id") (by decide)
  have hcausation := hget (py "causation_id") (by decide)
  change _ = PyValue.str metadata.event_id.val at hevent
  change _ = PyValue.datetime (.ofUtc metadata.occurred_at) at hoccurred
  change _ = PyValue.str metadata.correlation_id.val at hcorrelation
  rw [metadata.entry_causation] at hcausation
  unfold postInit
  simp only [hevent, hoccurred, hcorrelation, hcausation, eventIdentityOf,
    eventIdentity_val, ok_bind, requireUtcDatetime_ofUtc, pure_eq]
  cases hnone : metadata.causation_id with
  | none =>
      simp only [Option.elim_none]
      rw [← hnone]
  | some causation =>
      simp only [Option.elim_some, eventIdentity_val, Except.map, ok_bind]
      rw [← hnone]

end LibrarySystem
