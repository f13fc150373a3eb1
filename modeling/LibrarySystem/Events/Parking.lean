import LibrarySystem.Events.Consumer

/-!
# Which messages are settled

Every refusal of the registry is followed through: which exception it is,
whether its text can be stored, and which contract version it reports.  From
this the consumer's outcome is read off, and compared with the condition on the
payload.
-/

namespace LibrarySystem

open Result

/-! ## Texts -/

theorem intercalate_hasNul (names : List PyStr) :
    PyStr.hasNul ((py ", ").intercalate names) = names.any PyStr.hasNul := by
  have hseparator : PyStr.hasNul (py ", ") = false := by decide
  induction names with
  | nil => rfl
  | cons name names ih =>
      cases names with
      | nil => simp [List.intercalate]
      | cons next names =>
          simp only [List.intercalate, List.intersperse_cons_cons, List.flatten_cons,
            PyStr.hasNul_append, hseparator, Bool.false_or] at ih ⊢
          rw [ih]
          rfl

theorem formatFieldNames_hasNul (names : List PyStr) :
    PyStr.hasNul (formatFieldNames names) = names.any PyStr.hasNul := by
  unfold formatFieldNames
  rw [intercalate_hasNul, Bool.eq_iff_iff]
  simp only [List.any_eq_true]
  constructor <;>
    · rintro ⟨name, hname, hnul⟩
      refine ⟨name, ?_, hnul⟩
      simpa using hname

theorem mem_range_hasNul
    {s : PyStr} {p : CodePoint → Bool} (hs : ∀ c ∈ s, p c = true)
    (hnul : ∀ c : CodePoint, p c = true → c.val ≠ 0) :
    PyStr.hasNul s = false := by
  simp only [PyStr.hasNul, List.any_eq_false, beq_iff_eq]
  exact fun c hc => hnul c (hs c hc)

theorem alphanumeric_ne_nul {c : CodePoint} (hc : c.isAlphanumeric = true) :
    c.val ≠ 0 := by
  simp only [CodePoint.isAlphanumeric, CodePoint.isLetter, CodePoint.isUpper,
    CodePoint.isLower, CodePoint.isDigit, Bool.or_eq_true, Bool.and_eq_true,
    decide_eq_true_eq] at hc
  omega

theorem searchableIdentity_hasNul
    {maximum : ℕ} {value : Option PyStr} {text : PyStr}
    (hvalue : searchableIdentity maximum value = some text) :
    PyStr.hasNul text = false := by
  unfold searchableIdentity at hvalue
  obtain ⟨-, hmatch⟩ := Option.filter_eq_some_iff.mp hvalue
  simp only [Bool.and_eq_true] at hmatch
  refine mem_range_hasNul (fun c hc => PyStr.matchesHeadTail_mem hmatch.2
    (fun d hd => by simp [isIdentityTail, hd]) hc) ?_
  intro c hc
  simp only [isIdentityTail, Bool.or_eq_true, beq_iff_eq] at hc
  rcases hc with (((halnum | h) | h) | h) | h
  · exact alphanumeric_ne_nul halnum
  all_goals omega

theorem qualifiedNameOf_hasNul
    {space name : Json} {qualified : PyStr}
    (hname : qualifiedNameOf space name = some qualified) :
    PyStr.hasNul qualified = false := by
  unfold qualifiedNameOf at hname
  split at hname
  · split at hname
    · rename_i hvalid
      simp only [isNamespace, isContractName, Bool.and_eq_true] at hvalid
      simp only [Option.some.injEq] at hname
      subst hname
      have hlower : ∀ c : CodePoint, c.isLower = true → c.val ≠ 0 := by
        intro c hc
        simp only [CodePoint.isLower, Bool.and_eq_true, decide_eq_true_eq] at hc
        omega
      have htail : ∀ c : CodePoint, (isLowerAlphanumeric c || c.val == 0x2E ||
          c.val == 0x2D) = true → c.val ≠ 0 := by
        intro c hc
        simp only [isLowerAlphanumeric, CodePoint.isLower, CodePoint.isDigit,
          Bool.or_eq_true, Bool.and_eq_true, decide_eq_true_eq, beq_iff_eq] at hc
        omega
      have hspace := mem_range_hasNul (fun c hc => PyStr.matchesHeadTail_mem
        hvalid.1.2 (fun d hd => by simp [isLowerAlphanumeric, hd]) hc) htail
      have htext := mem_range_hasNul (fun c hc => PyStr.matchesHeadTail_mem
        hvalid.2.2 (fun d hd => by simp [isLowerAlphanumeric, hd]) hc)
        (fun c hc => htail c (by
          simp only [Bool.or_eq_true] at hc ⊢
          rcases hc with hc | hc
          · exact Or.inl (Or.inl hc)
          · exact Or.inr hc))
      have hdot : PyStr.hasNul (py ".") = false := by decide
      simp [hspace, htext, hdot]
    · simp at hname
  · simp at hname

theorem contractOf_hasNul (cls : EventClass) :
    PyStr.hasNul (contractOf cls).qualifiedName = false := by
  cases cls <;> decide

theorem fieldNames_hasNul (cls : EventClass) :
    ∀ name ∈ cls.fields.map Prod.fst, PyStr.hasNul name = false := by
  cases cls <;> decide

/-! ## Refusals -/

/-- An exception the registry turns into a contract error with storable text. -/
def Refuses (error : PyException) : Prop :=
  ∃ message, error.caught = some message ∧ PyStr.hasNul message = false

theorem refuses_valueError {message : PyStr} (hmessage : PyStr.hasNul message = false) :
    Refuses (.valueError message) :=
  ⟨message, rfl, hmessage⟩

theorem refuses_typeError {message : PyStr} (hmessage : PyStr.hasNul message = false) :
    Refuses (.typeError message) :=
  ⟨message, rfl, hmessage⟩

/-- A decoded JSON value is never a datetime object. -/
def PyValue.isDatetime : PyValue → Bool
  | .datetime _ => true
  | _ => false

@[simp] theorem toValue_isDatetime (value : Json) : value.toValue.isDatetime = false := by
  cases value <;> rfl

section Coercion

variable {rt : PythonRuntime}

theorem coerceStr_error
    {value : PyValue} {error : PyException} (hcoerce : coerceStr value = .error error) :
    error = .typeError (py "must be a non-empty string") := by
  cases value with
  | str text =>
      simp only [coerceStr] at hcoerce
      split at hcoerce
      · simpa using hcoerce.symm
      · simp at hcoerce
  | none | bool _ | int _ | float _ | datetime _ | list _ | dict _ | object _ =>
      simpa [coerceStr] using hcoerce.symm

theorem coerceAware_error
    {value : DateTime} {error : PyException}
    (hcoerce : coerceAware value = .error error) :
    (value.utcoffset = none ∧ Refuses error) ∨
      ∃ offset, value.utcoffset = some offset ∧ error = .overflowError ∧
        ¬ (0 ≤ DateTime.instant value.wall offset ∧
          DateTime.instant value.wall offset < wallSpan) := by
  unfold coerceAware at hcoerce
  cases hoffset : value.utcoffset with
  | none =>
      simp only [hoffset, Except.error.injEq] at hcoerce
      subst error
      exact Or.inl ⟨rfl, refuses_valueError (by decide)⟩
  | some offset =>
      right
      simp only [hoffset, bind_eq_error, pure_eq, reduceCtorEq, and_false,
        exists_false, or_false] at hcoerce
      unfold DateTime.astimezoneUtc at hcoerce
      simp only at hcoerce
      split at hcoerce
      · simp at hcoerce
      · rename_i hrange
        simp only [Except.error.injEq] at hcoerce
        exact ⟨offset, rfl, hcoerce.symm, hrange⟩

theorem coerceAware_overflow
    {value : DateTime} {offset : UtcOffset} (hoffset : value.utcoffset = some offset)
    (hrange : ¬ (0 ≤ DateTime.instant value.wall offset ∧
      DateTime.instant value.wall offset < wallSpan)) :
    coerceAware value = .error .overflowError := by
  simp only [coerceAware, hoffset, DateTime.astimezoneUtc]
  rw [dif_neg hrange]
  rfl

/-- A field that is not of its kind is refused, unless it is an
unrepresentable datetime. -/
theorem coerce_error_cases
    {type : FieldType} {value : PyValue} {error : PyException}
    (hcoerce : coerceAndValidateValue rt type value = .error error)
    (hjson : value.isDatetime = false) :
    (Refuses error ∧ ¬ (type = .datetime ∧ UnrepresentableInstant rt value)) ∨
      (error = .overflowError ∧ type = .datetime ∧ UnrepresentableInstant rt value) := by
  have hstr : ∀ error, error = PyException.typeError (py "must be a non-empty string") →
      Refuses error := by
    rintro error rfl
    exact refuses_typeError (by decide)
  cases type with
  | optionalStr =>
      refine Or.inl ⟨?_, by simp⟩
      have hmessage : Refuses (.typeError (py "does not match typing.Optional[str]")) :=
        refuses_typeError (by decide)
      cases value with
      | none => simp [coerceAndValidateValue] at hcoerce
      | bool _ | int _ | float _ | str _ | datetime _ | list _ | dict _ | object _ =>
          simp only [coerceAndValidateValue] at hcoerce
          split at hcoerce
          · simp at hcoerce
          · simp only [Except.error.injEq] at hcoerce
            exact hcoerce ▸ hmessage
  | str =>
      refine Or.inl ⟨?_, by simp⟩
      exact hstr error (coerceStr_error hcoerce)
  | bool =>
      refine Or.inl ⟨?_, by simp⟩
      cases value with
      | bool _ => simp [coerceAndValidateValue] at hcoerce
      | none | int _ | float _ | str _ | datetime _ | list _ | dict _ | object _ =>
          simp only [coerceAndValidateValue, Except.error.injEq] at hcoerce
          exact hcoerce ▸ refuses_typeError (by decide)
  | int =>
      refine Or.inl ⟨?_, by simp⟩
      cases value with
      | int _ => simp [coerceAndValidateValue] at hcoerce
      | none | bool _ | float _ | str _ | datetime _ | list _ | dict _ | object _ =>
          simp only [coerceAndValidateValue, Except.error.injEq] at hcoerce
          exact hcoerce ▸ refuses_typeError (by decide)
  | datetime =>
      cases value with
      | datetime _ => simp [PyValue.isDatetime] at hjson
      | str text =>
          simp only [coerceAndValidateValue] at hcoerce
          cases hread : rt.fromisoformat (normalizeZulu text) with
          | none =>
              simp only [hread, Except.error.injEq] at hcoerce
              refine Or.inl ⟨hcoerce ▸ refuses_valueError (by decide), ?_⟩
              rintro ⟨-, text', found, offset, htext, hfound, -⟩
              simp only [PyValue.str.injEq] at htext
              rw [← htext, hread] at hfound
              simp at hfound
          | some found =>
              simp only [hread] at hcoerce
              rcases coerceAware_error hcoerce with
                ⟨hnaive, hrefuses⟩ | ⟨offset, hoffset, herror, hrange⟩
              · refine Or.inl ⟨hrefuses, ?_⟩
                rintro ⟨-, text', found', offset, htext, hfound, hoffset, -⟩
                simp only [PyValue.str.injEq] at htext
                rw [← htext, hread] at hfound
                simp only [Option.some.injEq] at hfound
                rw [← hfound, hnaive] at hoffset
                simp at hoffset
              · exact Or.inr ⟨herror, rfl, text, found, offset, rfl, hread, hoffset,
                  hrange⟩
      | none | bool _ | int _ | float _ | list _ | dict _ | object _ =>
          simp only [coerceAndValidateValue, Except.error.injEq] at hcoerce
          refine Or.inl ⟨hcoerce ▸ refuses_typeError (by decide), ?_⟩
          rintro ⟨-, text, found, offset, htext, -⟩
          simp at htext

theorem coerce_unrepresentable
    {value : PyValue} (hvalue : UnrepresentableInstant rt value) :
    coerceAndValidateValue rt .datetime value = .error .overflowError := by
  obtain ⟨text, found, offset, rfl, hread, hoffset, hrange⟩ := hvalue
  simp only [coerceAndValidateValue, hread]
  exact coerceAware_overflow hoffset hrange

/-- The refusal of a payload with a registered contract. -/
structure RefusedUnder (contract : EventContract) (error : EventContractError) :
    Prop where
  text : PyStr.hasNul error.message = false
  version : error.contract_version = some contract.version

/-- What becomes of the declared fields of a decoded payload. -/
inductive CoercionOutcome (contract : EventContract) :
    Except RegistryException (List (PyStr × PyValue)) → Prop
  | coerced (kwargs : List (PyStr × PyValue)) :
      CoercionOutcome contract (.ok kwargs)
  | refused (error : EventContractError) (herror : RefusedUnder contract error) :
      CoercionOutcome contract (.error (.contract error))

theorem coerceFields_outcome
    {contract : EventContract} {eventId : PyStr} {values : List (PyStr × PyValue)}
    {fields : List (PyStr × FieldType)}
    (hnames : ∀ name ∈ fields.map Prod.fst, PyStr.hasNul name = false)
    (hjson : ∀ name value, PyValue.lookup name values = some value →
      value.isDatetime = false) :
    (¬ OverflowsFirst rt values fields ∧
        CoercionOutcome contract (coerceFields rt contract eventId values fields)) ∨
      (OverflowsFirst rt values fields ∧
        coerceFields rt contract eventId values fields =
          .error (.escaped (.python .overflowError))) := by
  induction fields with
  | nil => exact Or.inl ⟨id, .coerced []⟩
  | cons field fields ih =>
      obtain ⟨name, type⟩ := field
      have hrest := ih fun other hother => hnames other (by simp [hother])
      cases hvalue : PyValue.lookup name values with
      | none => simpa only [coerceFields, OverflowsFirst, hvalue] using hrest
      | some value =>
          simp only [coerceFields, OverflowsFirst, hvalue]
          cases hcoerce : coerceAndValidateValue rt type value with
          | ok coerced =>
              have hnot : ¬ (type = .datetime ∧ UnrepresentableInstant rt value) := by
                rintro ⟨rfl, hbad⟩
                rw [coerce_unrepresentable hbad] at hcoerce
                simp at hcoerce
              simp only [hnot, false_or, Except.toOption, Option.isSome_some, true_and,
                wrapCaught, ok_bind]
              rcases hrest with ⟨hfirst, houtcome⟩ | ⟨hfirst, herror⟩
              · refine Or.inl ⟨hfirst, ?_⟩
                generalize coerceFields rt contract eventId values fields = result
                  at houtcome ⊢
                cases houtcome with
                | coerced kwargs => exact .coerced _
                | refused error herror => exact .refused error herror
              · exact Or.inr ⟨hfirst, by rw [herror]; rfl⟩
          | error error =>
              have hnone : (Except.error error : Except PyException PyValue).toOption.isSome =
                  false := rfl
              simp only [hnone, Bool.false_eq_true, false_and, or_false]
              rcases coerce_error_cases hcoerce (hjson name value hvalue) with
                ⟨⟨message, hcaught, htext⟩, hnot⟩ | ⟨rfl, hbad⟩
              · refine Or.inl ⟨hnot, ?_⟩
                simp only [wrapCaught, hcaught, error_bind]
                have hname := hnames name (by simp)
                have hopening : PyStr.hasNul (py "Invalid value for ") = false := by decide
                have hcolon : PyStr.hasNul (py ": ") = false := by decide
                exact .refused _
                  ⟨by simp [invalidEnvelope, hopening, hname, hcolon, htext], rfl⟩
              · exact Or.inr ⟨hbad, rfl⟩

end Coercion

section Semantics

variable {rt : PythonRuntime}

theorem checkEach_refuses
    {values : List (PyStr × PyValue)}
    {check : PyStr → PyValue → Except PyException Unit} {names : List PyStr}
    {error : PyException}
    (hcheck : ∀ name ∈ names, ∀ value error, check name value = .error error →
      Refuses error)
    (herror : checkEach values check names = .error error) :
    Refuses error := by
  induction names with
  | nil => simp [checkEach] at herror
  | cons name names ih =>
      have hrest := ih fun other hother => hcheck other (by simp [hother])
      simp only [checkEach] at herror
      split at herror
      · exact hrest herror
      · rcases bind_eq_error.mp herror with hfirst | ⟨_, -, htail⟩
        · exact hcheck name (by simp) _ error hfirst
        · exact hrest htail

theorem checkReferenceId_refuses
    {name : PyStr} (hname : PyStr.hasNul name = false) {value : PyValue}
    {error : PyException} (herror : checkReferenceId name value = .error error) :
    Refuses error := by
  have hmessage : Refuses (.valueError (name ++ py " must be a safe 1-64 character ID")) :=
    refuses_valueError (by simp [hname]; decide)
  unfold checkReferenceId at herror
  split at herror
  · split at herror
    · simp at herror
    · exact (Except.error.inj herror) ▸ hmessage
  · exact (Except.error.inj herror) ▸ hmessage

theorem checkReservationId_refuses
    {name : PyStr} {value : PyValue} {error : PyException}
    (herror : checkReservationId name value = .error error) :
    Refuses error := by
  have hmessage : Refuses (.valueError (py "reservation_id must be a UUID")) :=
    refuses_valueError (by decide)
  unfold checkReservationId at herror
  split at herror
  · split at herror
    · simp at herror
    · exact (Except.error.inj herror) ▸ hmessage
  · exact (Except.error.inj herror) ▸ hmessage

theorem checkPositive_refuses
    {name : PyStr} (hname : PyStr.hasNul name = false) {value : PyValue}
    {error : PyException} (herror : checkPositive name value = .error error) :
    Refuses error := by
  have hmessage : Refuses (.valueError (name ++ py " must be a positive integer")) :=
    refuses_valueError (by simp [hname]; decide)
  unfold checkPositive at herror
  split at herror
  · split at herror
    · exact (Except.error.inj herror) ▸ hmessage
    · simp at herror
  · exact (Except.error.inj herror) ▸ hmessage

theorem checkEmail_refuses
    {name : PyStr} (hname : PyStr.hasNul name = false) {value : PyValue}
    {error : PyException} (herror : checkEmail rt name value = .error error) :
    Refuses error := by
  have hmessage :
      Refuses (.valueError (name ++ py " must be a normalized email address")) :=
    refuses_valueError (by simp [hname]; decide)
  unfold checkEmail at herror
  split at herror
  · split at herror
    · simp at herror
    · exact (Except.error.inj herror) ▸ hmessage
  · exact (Except.error.inj herror) ▸ hmessage

theorem checkBounded_refuses
    {maximum : ℕ} {name : PyStr} (hname : PyStr.hasNul name = false) {value : PyValue}
    {error : PyException} (herror : checkBounded maximum name value = .error error) :
    Refuses error := by
  have hmessage : Refuses (.valueError (name ++ py " must be 1-" ++
      Json.renderNat maximum ++ py " characters")) := by
    have hmust : PyStr.hasNul (py " must be 1-") = false := by decide
    have hcharacters : PyStr.hasNul (py " characters") = false := by decide
    exact refuses_valueError
      (by simp [hname, hmust, hcharacters, Json.renderNat_hasNul])
  unfold checkBounded at herror
  split at herror
  · split at herror
    · simp at herror
    · exact (Except.error.inj herror) ▸ hmessage
  · exact (Except.error.inj herror) ▸ hmessage

theorem checkAfter_refuses
    {left right : PyValue} {message : PyStr} (hmessage : PyStr.hasNul message = false)
    {error : PyException} (herror : checkAfter left message right = .error error) :
    Refuses error := by
  unfold checkAfter at herror
  split at herror
  · simp at herror
  · split at herror
    · simp at herror
    · split at herror
      · exact (Except.error.inj herror) ▸ refuses_valueError hmessage
      · simp at herror
    · exact (Except.error.inj herror) ▸ refuses_typeError (by decide)

theorem checkBoundedFields_refuses
    {values : List (PyStr × PyValue)} {fields : List (PyStr × ℕ)}
    (hnames : ∀ field ∈ fields, PyStr.hasNul field.1 = false) {error : PyException}
    (herror : (fields.forM fun field =>
      checkEach values (checkBounded field.2) [field.1]) = .error error) :
    Refuses error := by
  induction fields with
  | nil => simp at herror
  | cons field fields ih =>
      rcases bind_eq_error.mp herror with hfirst | ⟨_, -, htail⟩
      · refine checkEach_refuses (fun name hname value error hcheck => ?_) hfirst
        obtain rfl : name = field.1 := by simpa using hname
        exact checkBounded_refuses (hnames field (by simp)) hcheck
      · exact ih (fun other hother => hnames other (by simp [hother])) htail

theorem validateEventSemantics_refuses
    {values : List (PyStr × PyValue)} {error : PyException}
    (herror : validateEventSemantics rt values = .error error) :
    Refuses error := by
  have hclean : ∀ name ∈ [py "book_id", py "loan_id", py "patron_id",
      py "reservation_generation", py "borrower_email", py "patron_email",
      py "days_overdue"], PyStr.hasNul name = false := by
    decide
  unfold validateEventSemantics at herror
  simp only [bind_eq_error] at herror
  rcases herror with href | ⟨_, -, hres | ⟨_, -, hgen | ⟨_, -, hmail | ⟨_, -, hdue |
    ⟨_, -, hreturn | ⟨_, -, hnew | ⟨_, -, hdays | ⟨_, -, hbounded⟩⟩⟩⟩⟩⟩⟩⟩
  · refine checkEach_refuses (fun name hname value error => ?_) href
    exact checkReferenceId_refuses (hclean name (by aesop))
  · exact checkEach_refuses (fun _ _ _ _ => checkReservationId_refuses) hres
  · refine checkEach_refuses (fun name hname value error => ?_) hgen
    exact checkPositive_refuses (hclean name (by aesop))
  · refine checkEach_refuses (fun name hname value error => ?_) hmail
    exact checkEmail_refuses (hclean name (by aesop))
  · exact checkAfter_refuses (by decide) hdue
  · exact checkAfter_refuses (by decide) hreturn
  · exact checkAfter_refuses (by decide) hnew
  · refine checkEach_refuses (fun name hname value error => ?_) hdays
    exact checkPositive_refuses (hclean name (by aesop))
  · exact checkBoundedFields_refuses (by decide) hbounded

end Semantics

/-! ## The constructor -/

theorem listNames_hasNul
    {names : List PyStr} (hnames : ∀ name ∈ names, PyStr.hasNul name = false) :
    PyStr.hasNul (listNames names) = false := by
  have hquote : PyStr.hasNul (py "'") = false := by decide
  have hand : PyStr.hasNul (py "' and '") = false := by decide
  have hcomma : PyStr.hasNul (py "', '") = false := by decide
  have hlast : PyStr.hasNul (py "', and '") = false := by decide
  have hnext : PyStr.hasNul (py "', ") = false := by decide
  fun_induction listNames names with
  | case1 => rfl
  | case2 name => simp [hquote, hnames]
  | case3 first second => simp [hquote, hand, hnames]
  | case4 first second third => simp [hquote, hcomma, hlast, hnames]
  | case5 first rest _ _ _ ih =>
      have hrest := ih fun name hname => hnames name (by simp [hname])
      simp [hquote, hnext, hnames, hrest]

theorem missingArguments_hasNul
    {cls : EventClass} {missing : List PyStr}
    (hmissing : ∀ name ∈ missing, PyStr.hasNul name = false) :
    PyStr.hasNul (missingArguments cls missing) = false := by
  have hclass : PyStr.hasNul cls.name = false := by cases cls <;> decide
  have hinit : PyStr.hasNul (py ".__init__() missing ") = false := by decide
  have hone : PyStr.hasNul (py " required positional argument: ") = false := by decide
  have hmany : PyStr.hasNul (py " required positional arguments: ") = false := by decide
  unfold missingArguments
  split <;> simp [hclass, hinit, hone, hmany, Json.renderNat_hasNul,
    listNames_hasNul hmissing]

theorem eventIdentityOf_isOk (fieldName : PyStr) (value : PyValue) :
    (eventIdentityOf fieldName value).toOption.isSome =
      match value with
      | .str text => isIdentity (PyStr.strip text)
      | _ => false := by
  cases value with
  | str text =>
      simp only [eventIdentityOf, eventIdentity]
      split
      · rename_i hvalid
        simp [hvalid, Except.toOption]
      · rename_i hvalid
        simp only [Bool.not_eq_true] at hvalid
        simp [hvalid, Except.toOption]
  | none | bool _ | int _ | float _ | datetime _ | list _ | dict _ | object _ => rfl

theorem optionalIdentity_isOk
    {α β : Type} {name : PyStr} {value : PyValue} {absent : α}
    {read : PyValue → Except Raised α} {f : α → Except Raised β} {p : Bool}
    (hread : ∀ value, (read value).toOption.isSome =
      (eventIdentityOf name value).toOption.isSome)
    (hf : ∀ a, (f a).toOption.isSome = p) :
    (match value with
      | .none => pure absent >>= f
      | value => read value >>= f).toOption.isSome =
      ((match value with
        | .str text => isIdentity (PyStr.strip text)
        | .none => true
        | _ => false) && p) := by
  cases value with
  | none => simpa using hf absent
  | str _ | bool _ | int _ | float _ | datetime _ | list _ | dict _ | object _ =>
      simp only
      rw [isSome_bind hf, hread, eventIdentityOf_isOk]

theorem isTraced_eq (kwargs : List (PyStr × PyValue)) :
    isTraced kwargs =
      ((match PyValue.get (py "event_id") kwargs with
        | .str text => isIdentity (PyStr.strip text)
        | _ => false) &&
      ((match PyValue.get (py "correlation_id") kwargs with
        | .str text => isIdentity (PyStr.strip text)
        | .none => true
        | _ => false) &&
      (match PyValue.get (py "causation_id") kwargs with
        | .str text => isIdentity (PyStr.strip text)
        | .none => true
        | _ => false))) := by
  have hcorrelation : (py "correlation_id" != py "event_id") = true := by decide
  have hcausation : (py "causation_id" != py "event_id") = true := by decide
  simp only [isTraced, List.all_cons, List.all_nil, Bool.and_true, hcorrelation,
    hcausation, bne_self_eq_false]
  congr 1
  split <;> simp_all

/-- With a coerced timestamp the base class only refuses trace identities. -/
theorem postInit_isOk
    {kwargs : List (PyStr × PyValue)} {utc : UtcDateTime}
    (hoccurred : PyValue.get (py "occurred_at") kwargs = .datetime (.ofUtc utc)) :
    (postInit kwargs).toOption.isSome = isTraced kwargs := by
  rw [isTraced_eq, ← eventIdentityOf_isOk (py "event_id")]
  have hwrap : ∀ value, ((eventIdentityOf (py "causation_id") value).map
      some).toOption.isSome =
        (eventIdentityOf (py "causation_id") value).toOption.isSome := by
    intro value
    cases eventIdentityOf (py "causation_id") value <;> rfl
  unfold postInit
  refine isSome_bind fun eventId => ?_
  refine optionalIdentity_isOk (fun _ => rfl) fun correlationId => ?_
  rw [← Bool.and_true (match PyValue.get (py "causation_id") kwargs with
    | .str text => isIdentity (PyStr.strip text)
    | .none => true
    | _ => false)]
  refine optionalIdentity_isOk hwrap fun causationId => ?_
  simp only [hoccurred, requireUtcDatetime_ofUtc]
  rfl

section Outcome

variable {rt : PythonRuntime} {contract : EventContract} {eventId : PyStr}

theorem finishEvent_outcome
    (hcontract : contract = contractOf contract.eventClass)
    {kwargs : List (PyStr × PyValue)} {utc : UtcDateTime}
    (hoccurred : PyValue.get (py "occurred_at") kwargs = .datetime (.ofUtc utc)) :
    (validateEventSemantics rt kwargs = .ok () ∧
        missingFields contract.eventClass kwargs = [] ∧
        ((isTraced kwargs = true ∧
            ∃ event, finishEvent rt contract eventId kwargs = .ok event) ∨
          (isTraced kwargs = false ∧
            ∃ error, finishEvent rt contract eventId kwargs = .error (.escaped error)))) ∨
      (¬ (validateEventSemantics rt kwargs = .ok () ∧
          missingFields contract.eventClass kwargs = []) ∧
        ∃ error, finishEvent rt contract eventId kwargs = .error (.contract error) ∧
          RefusedUnder contract error) := by
  have hname : PyStr.hasNul contract.qualifiedName = false :=
    hcontract ▸ contractOf_hasNul contract.eventClass
  have hinvalid : PyStr.hasNul (py "Invalid ") = false := by decide
  have hv : PyStr.hasNul (py " v") = false := by decide
  have hdata : PyStr.hasNul (py " data: ") = false := by decide
  have hrefused : ∀ message, PyStr.hasNul message = false →
      RefusedUnder contract (invalidEnvelope contract (some eventId)
        (py "Invalid " ++ contract.qualifiedName ++ py " v" ++
          Json.renderInt contract.version ++ py " data: " ++ message)) := by
    intro message hmessage
    exact ⟨by simp [invalidEnvelope, hname, hinvalid, hv, hdata, hmessage,
      Json.renderInt_hasNul], rfl⟩
  cases hsemantics : validateEventSemantics rt kwargs with
  | error error =>
      obtain ⟨message, hcaught, htext⟩ := validateEventSemantics_refuses hsemantics
      refine Or.inr ⟨by simp, _, ?_, hrefused message htext⟩
      simp only [finishEvent, hsemantics, wrapCaught, hcaught, error_bind]
  | ok _ =>
      by_cases hmissing : missingFields contract.eventClass kwargs = []
      · refine Or.inl ⟨rfl, hmissing, ?_⟩
        have hpost := postInit_isOk hoccurred
        cases hresult : postInit kwargs with
        | ok metadata =>
            left
            rw [hresult] at hpost
            let event : DomainEvent :=
              { eventClass := contract.eventClass
                metadata := metadata
                data := contract.eventClass.domainFieldNames.map fun name =>
                  (name, PyValue.get name kwargs)
                data_fields := by simp [Function.comp_def] }
            exact ⟨hpost.symm, event,
              finishEvent_ok_iff.mpr ⟨hsemantics, hmissing, rfl, hresult, rfl⟩⟩
        | error error =>
            right
            rw [hresult] at hpost
            refine ⟨hpost.symm, error, ?_⟩
            simp [finishEvent, hsemantics, wrapCaught, hmissing, hresult]
      · have htext : PyStr.hasNul (missingArguments contract.eventClass
            (missingFields contract.eventClass kwargs)) = false := by
          apply missingArguments_hasNul
          intro name hname
          have hdomain : name ∈ contract.eventClass.domainFieldNames :=
            (List.mem_filter.mp hname).1
          apply fieldNames_hasNul contract.eventClass
          rw [fields_names]
          exact List.mem_append_right _ hdomain
        refine Or.inr ⟨fun h => hmissing h.2, _, ?_, hrefused _ htext⟩
        simp only [finishEvent, hsemantics, wrapCaught, ok_bind]
        rw [if_pos hmissing]
        rfl

theorem toEntries_isDatetime
    {metadata data : List (PyStr × Json)} {name : PyStr} {value : PyValue}
    (hlookup : PyValue.lookup name (Json.toEntries metadata ++ Json.toEntries data) =
      some value) :
    value.isDatetime = false := by
  simp only [PyValue.lookup_append, toEntries_lookup, Option.or_eq_some_iff,
    Option.map_eq_some_iff] at hlookup
  rcases hlookup with ⟨json, -, rfl⟩ | ⟨-, json, -, rfl⟩ <;>
    exact toValue_isDatetime json

/-- The coerced timestamp of a payload that passed the metadata checks. -/
theorem coerced_occurredAt
    {metadata data kwargs : List (PyStr × PyValue)}
    (hmetadata : checkMetadata contract metadata = .ok eventId)
    (hcoerce : coerceFields rt contract eventId (metadata ++ data)
      contract.eventClass.fields = .ok kwargs) :
    ∃ utc, PyValue.get (py "occurred_at") kwargs = .datetime (.ofUtc utc) := by
  obtain ⟨-, -, hoccurred, -, -⟩ := checkMetadata_ok hmetadata
  have hpresent : PyValue.lookup (py "occurred_at") (metadata ++ data) ≠ none := by
    rw [PyValue.lookup_append]
    intro hnone
    obtain ⟨hleft, -⟩ := Option.or_eq_none_iff.mp hnone
    simp [PyValue.get, hleft] at hoccurred
  have hfield : (py "occurred_at", FieldType.datetime) ∈ contract.eventClass.fields := by
    simp [EventClass.fields, EventClass.metadataFields]
  rcases (coerceFields_lookup hcoerce (fields_nodup _)).2 _ hfield with
    ⟨hnone, -⟩ | ⟨value, coerced, -, hvalue, hlookup⟩
  · exact absurd hnone hpresent
  · rcases coerce_ok_cases hvalue with ⟨-, h⟩ | ⟨-, utc, rfl, -⟩
    · simp at h
    · exact ⟨utc, by simp [PyValue.get, hlookup]⟩

end Outcome

/-! ## The envelope -/

section Envelope

variable {rt : PythonRuntime} {contract : EventContract}

theorem unexpectedMessage_hasNul
    {message : PyStr} (hmessage : PyStr.hasNul message = false) (names : List PyStr) :
    PyStr.hasNul (message ++ formatFieldNames names) = names.any PyStr.hasNul := by
  rw [PyStr.hasNul_append, hmessage, formatFieldNames_hasNul, Bool.false_or]

theorem readParts_error
    {members : List (PyStr × Json)} {error : EventContractError}
    (hread : readParts rt members = .error error) :
    error.contract_version = none ∧
      PyStr.hasNul error.message =
        (unexpectedNames members envelopeNames).any PyStr.hasNul := by
  unfold readParts at hread
  simp only [throw_eq, error_bind] at hread
  by_cases hunexpected : unexpectedNames members envelopeNames = []
  · simp only [hunexpected, ne_eq, not_true_eq_false, if_false] at hread
    rw [hunexpected]
    split at hread
    · obtain rfl := Except.error.inj hread
      have hopening : PyStr.hasNul (py "Unsupported event envelope version: ") = false := by
        decide
      exact ⟨rfl, by simp [unsupportedError, hopening, rt.repr_hasNul]⟩
    · split at hread
      · split at hread
        · split at hread
          · simp at hread
          · obtain rfl := Except.error.inj hread
            exact ⟨rfl, by simp only [envelopeError]; decide⟩
        · obtain rfl := Except.error.inj hread
          exact ⟨rfl, by simp only [envelopeError]; decide⟩
      · obtain rfl := Except.error.inj hread
        exact ⟨rfl, by simp only [envelopeError]; decide⟩
  · simp only [hunexpected, ne_eq, not_false_eq_true, if_true, Except.error.injEq] at hread
    subst hread
    exact ⟨rfl, unexpectedMessage_hasNul (by decide) _⟩

theorem checkMetadata_error
    {metadata : List (PyStr × PyValue)} {error : EventContractError}
    (hcheck : checkMetadata contract metadata = .error error) :
    RefusedUnder contract error := by
  unfold checkMetadata at hcheck
  split at hcheck
  · split at hcheck
    · obtain rfl := Except.error.inj hcheck
      exact ⟨by simp only [invalidEnvelope]; decide, rfl⟩
    · split at hcheck
      · split_ifs at hcheck
        · obtain rfl := Except.error.inj hcheck
          exact ⟨by simp only [invalidEnvelope]; decide, rfl⟩
        · obtain rfl := Except.error.inj hcheck
          exact ⟨by simp only [invalidEnvelope]; decide, rfl⟩
      · split_ifs at hcheck
        · obtain rfl := Except.error.inj hcheck
          exact ⟨by simp only [invalidEnvelope]; decide, rfl⟩
        · obtain rfl := Except.error.inj hcheck
          exact ⟨by simp only [invalidEnvelope]; decide, rfl⟩
      · obtain rfl := Except.error.inj hcheck
        exact ⟨by simp only [invalidEnvelope]; decide, rfl⟩
  · obtain rfl := Except.error.inj hcheck
    exact ⟨by simp only [invalidEnvelope]; decide, rfl⟩

theorem checkDataNames_error
    (hcontract : contract = contractOf contract.eventClass) {eventId : PyStr}
    {data : List (PyStr × PyValue)} {error : EventContractError}
    (hcheck : checkDataNames contract eventId data = .error error) :
    error.contract_version = some contract.version ∧
      PyStr.hasNul error.message =
        (unexpectedNames data contract.eventClass.domainFieldNames).any PyStr.hasNul := by
  have hname : PyStr.hasNul contract.qualifiedName = false :=
    hcontract ▸ contractOf_hasNul contract.eventClass
  have hunexpected : PyStr.hasNul (py "Unexpected ") = false := by decide
  have hfields : PyStr.hasNul (py " data field(s): ") = false := by decide
  unfold checkDataNames at hcheck
  simp only at hcheck
  split at hcheck
  · simp at hcheck
  · obtain rfl := Except.error.inj hcheck
    exact ⟨rfl, unexpectedMessage_hasNul (by simp [hname, hunexpected, hfields]) _⟩

theorem readContract_error
    {parts : EnvelopeParts} {error : EventContractError}
    (hread : readContract parts = .error error) :
    (unexpectedNames parts.contract contractNames ≠ [] ∧
        error.contract_version = none ∧
        PyStr.hasNul error.message =
          (unexpectedNames parts.contract contractNames).any PyStr.hasNul) ∨
      (unexpectedNames parts.contract contractNames = [] ∧
        unexpectedNames parts.metadata metadataNames ≠ [] ∧
        error.contract_version = none ∧
        PyStr.hasNul error.message =
          (unexpectedNames parts.metadata metadataNames).any PyStr.hasNul) ∨
      (unexpectedNames parts.contract contractNames = [] ∧
        unexpectedNames parts.metadata metadataNames = [] ∧
        PyStr.hasNul error.message = false ∧
        ((missingMetadata parts.metadata ≠ [] ∧ error.contract_version = none) ∨
          (missingMetadata parts.metadata = [] ∧
            error.contract_version = versionMismatch
              (qualifiedNameOf (Json.get (py "namespace") parts.contract)
                (Json.get (py "name") parts.contract))
              (Json.get (py "version") parts.contract)))) := by
  unfold readContract at hread
  simp only [throw_eq, error_bind] at hread
  by_cases hcontract : unexpectedNames parts.contract contractNames = []
  · right
    rw [if_neg (not_not.mpr hcontract)] at hread
    by_cases hmetadata : unexpectedNames parts.metadata metadataNames = []
    · right
      refine ⟨hcontract, hmetadata, ?_⟩
      rw [if_neg (not_not.mpr hmetadata)] at hread
      by_cases hmissing : missingMetadata parts.metadata = []
      · rw [if_neg (not_not.mpr hmissing)] at hread
        split at hread
        · rename_i name version hname hversion
          have hclean := qualifiedNameOf_hasNul hname
          have hopening : PyStr.hasNul (py "Unsupported event contract ") = false := by
            decide
          have hv : PyStr.hasNul (py " v") = false := by decide
          have htext : PyStr.hasNul (py "Unsupported event contract " ++ name ++
              py " v" ++ Json.renderInt version) = false := by
            simp [hclean, hopening, hv, Json.renderInt_hasNul]
          simp only [hname, hversion]
          split at hread
          · split at hread
            · simp at hread
            · rename_i hne
              obtain rfl := Except.error.inj hread
              exact ⟨htext, Or.inr ⟨hmissing, by
                simp [unsupportedError, versionMismatch, *]⟩⟩
          · obtain rfl := Except.error.inj hread
            exact ⟨htext, Or.inr ⟨hmissing, by
                simp [unsupportedError, versionMismatch, *]⟩⟩
        · rename_i hother
          obtain rfl := Except.error.inj hread
          refine ⟨by simp only [envelopeError]; decide, Or.inr ⟨hmissing, ?_⟩⟩
          unfold versionMismatch
          split
          · rename_i name version hname hversion
            exact absurd hversion (hother name version hname)
          · rfl
      · rw [if_pos hmissing] at hread
        obtain rfl := Except.error.inj hread
        refine ⟨?_, Or.inl ⟨hmissing, rfl⟩⟩
        refine (unexpectedMessage_hasNul (by decide) _).trans ?_
        rw [List.any_eq_false]
        intro name hname
        have hclean : ∀ name ∈ metadataNames, PyStr.hasNul name = false := by decide
        simp [hclean name (List.mem_filter.mp hname).1]
    · rw [if_pos hmetadata] at hread
      obtain rfl := Except.error.inj hread
      exact Or.inl ⟨hcontract, hmetadata, rfl, unexpectedMessage_hasNul (by decide) _⟩
  · rw [if_pos hcontract] at hread
    obtain rfl := Except.error.inj hread
    exact Or.inl ⟨hcontract, rfl, unexpectedMessage_hasNul (by decide) _⟩

end Envelope

/-! ## The outcome of a payload -/

section Payload

variable {rt : PythonRuntime}

/-- What the registry does with a decoded value. -/
inductive RegistryOutcome (rt : PythonRuntime) (value : Json) :
    Except RegistryException DomainEvent → Prop
  | accepted (kwargs : List (PyStr × PyValue)) (event : DomainEvent)
      (hcomplete : Complete rt value kwargs) (htraced : isTraced kwargs = true)
      (hfirst : ∀ contract eventId values,
        framedEvent rt value = some (contract, eventId, values) →
          ¬ OverflowsFirst rt values contract.eventClass.fields) :
      RegistryOutcome rt value (.ok event)
  | untraced (kwargs : List (PyStr × PyValue)) (error : Raised)
      (hcomplete : Complete rt value kwargs) (htraced : isTraced kwargs = false) :
      RegistryOutcome rt value (.error (.escaped error))
  | unrepresentable (contract : EventContract) (eventId : PyStr)
      (values : List (PyStr × PyValue)) (error : Raised)
      (hframed : framedEvent rt value = some (contract, eventId, values))
      (hoverflow : OverflowsFirst rt values contract.eventClass.fields) :
      RegistryOutcome rt value (.error (.escaped error))
  | refused (error : EventContractError)
      (hincomplete : ∀ kwargs, ¬ Complete rt value kwargs)
      (hfirst : ∀ contract eventId values,
        framedEvent rt value = some (contract, eventId, values) →
          ¬ OverflowsFirst rt values contract.eventClass.fields)
      (htext : PyStr.hasNul error.message = (reportedNames rt value).any PyStr.hasNul)
      (hversion : error.contract_version.all fitsInteger =
        (unregisteredVersion rt value).all fitsInteger) :
      RegistryOutcome rt value (.error (.contract error))

/-- A value that is refused before its fields are read. -/
theorem refused_unframed
    {value : Json} {error : EventContractError} (hframed : framedEvent rt value = none)
    (htext : PyStr.hasNul error.message = (reportedNames rt value).any PyStr.hasNul)
    (hversion : error.contract_version.all fitsInteger =
      (unregisteredVersion rt value).all fitsInteger) :
    RegistryOutcome rt value (.error (.contract error)) := by
  refine .refused error ?_ ?_ htext hversion
  · rintro kwargs ⟨contract, eventId, values, hsome, -⟩
    simp [hframed] at hsome
  · intro contract eventId values hsome
    simp [hframed] at hsome

theorem registered_fitsInteger
    {contract : EventContract} (hcontract : contract = contractOf contract.eventClass) :
    fitsInteger contract.version = true := by
  rw [hcontract]
  cases contract.eventClass <;> decide

theorem readParts_fields_ok
    {members : List (PyStr × Json)} {parts : EnvelopeParts}
    (hread : readParts rt members = .ok parts) :
    unexpectedNames members envelopeNames = [] := by
  unfold readParts at hread
  simp only [throw_eq, error_bind, guard_eq_ok, not_not] at hread
  exact hread.1

theorem readContract_fields_ok
    {parts : EnvelopeParts} {contract : EventContract}
    (hread : readContract parts = .ok contract) :
    unexpectedNames parts.contract contractNames = [] ∧
      unexpectedNames parts.metadata metadataNames = [] ∧
      missingMetadata parts.metadata = [] ∧
      ∃ name, qualifiedNameOf (Json.get (py "namespace") parts.contract)
          (Json.get (py "name") parts.contract) = some name ∧
        Json.get (py "version") parts.contract = .int contract.version ∧
        contractByName name = some contract := by
  unfold readContract at hread
  simp only [throw_eq, error_bind, guard_eq_ok, not_not] at hread
  obtain ⟨hcontract, hmetadata, hmissing, hread⟩ := hread
  refine ⟨hcontract, hmetadata, hmissing, ?_⟩
  split at hread
  · rename_i name version hname hversion
    refine ⟨name, hname, ?_⟩
    split at hread
    · rename_i found hfound
      split at hread
      · rename_i hsame
        simp only [pure_eq, Except.ok.injEq] at hread
        subst hread
        exact ⟨hsame ▸ hversion, hfound⟩
      · simp at hread
    · simp at hread
  · simp at hread

/-- A registered contract leaves no version to report. -/
theorem unregisteredVersion_registered
    {members : List (PyStr × Json)} {parts : EnvelopeParts} {contract : EventContract}
    (hparts : readParts rt members = .ok parts)
    (hcontract : readContract parts = .ok contract) :
    unregisteredVersion rt (.obj members) = none := by
  obtain ⟨hnames, hmetadata, hmissing, name, hname, hversion, hfound⟩ :=
    readContract_fields_ok hcontract
  simp [unregisteredVersion, hparts, hnames, hmetadata, hmissing, hname, hversion,
    hfound, versionMismatch]

section Framed

variable {value : Json} {contract : EventContract} {eventId : PyStr}
  {values : List (PyStr × PyValue)}
  (hframed : framedEvent rt value = some (contract, eventId, values))

include hframed

theorem complete_iff_of_framed (kwargs : List (PyStr × PyValue)) :
    Complete rt value kwargs ↔
      coerceFields rt contract eventId values contract.eventClass.fields = .ok kwargs ∧
        validateEventSemantics rt kwargs = .ok () ∧
        missingFields contract.eventClass kwargs = [] := by
  constructor
  · rintro ⟨contract', eventId', values', hother, hstages⟩
    rw [hframed] at hother
    obtain ⟨rfl, rfl, rfl⟩ : contract = contract' ∧ eventId = eventId' ∧ values = values' := by
      simpa using hother
    exact hstages
  · exact fun hstages => ⟨contract, eventId, values, hframed, hstages⟩

theorem not_overflowsFirst_of_framed
    (hnot : ¬ OverflowsFirst rt values contract.eventClass.fields)
    (contract' : EventContract) (eventId' : PyStr) (values' : List (PyStr × PyValue))
    (hother : framedEvent rt value = some (contract', eventId', values')) :
    ¬ OverflowsFirst rt values' contract'.eventClass.fields := by
  rw [hframed] at hother
  obtain ⟨rfl, rfl, rfl⟩ : contract = contract' ∧ eventId = eventId' ∧ values = values' := by
    simpa using hother
  exact hnot

/-- A framed event is refused by its fields or by its semantics, under its contract. -/
theorem refused_framed {error : EventContractError}
    (hclean : (reportedNames rt value).any PyStr.hasNul = false)
    (hnone : unregisteredVersion rt value = none)
    (hfits : fitsInteger contract.version = true)
    (hnot : ¬ OverflowsFirst rt values contract.eventClass.fields)
    (hrefused : RefusedUnder contract error)
    (hincomplete : ∀ kwargs, ¬ Complete rt value kwargs) :
    RegistryOutcome rt value (.error (.contract error)) := by
  refine .refused error hincomplete (not_overflowsFirst_of_framed hframed hnot) ?_ ?_
  · rw [hrefused.text, hclean]
  · rw [hrefused.version, hnone]
    exact hfits

end Framed

/-- The fields and the semantics of a framed event. -/
theorem framed_outcome {value : Json} {contract : EventContract} {eventId : PyStr}
    {metadata data : List (PyStr × PyValue)}
    (hframed : framedEvent rt value = some (contract, eventId, metadata ++ data))
    (hregistered : contract = contractOf contract.eventClass)
    (hmetadata : checkMetadata contract metadata = .ok eventId)
    (hjson : ∀ name found, PyValue.lookup name (metadata ++ data) = some found →
      found.isDatetime = false)
    (hclean : (reportedNames rt value).any PyStr.hasNul = false)
    (hnone : unregisteredVersion rt value = none) :
    RegistryOutcome rt value (coerceFields rt contract eventId (metadata ++ data)
      contract.eventClass.fields >>= finishEvent rt contract eventId) := by
  have hfits := registered_fitsInteger hregistered
  have hcomplete := complete_iff_of_framed hframed
  rcases coerceFields_outcome (fieldNames_hasNul contract.eventClass) hjson with
    ⟨hnot, houtcome⟩ | ⟨hoverflow, herror⟩
  · cases hcoerce : coerceFields rt contract eventId (metadata ++ data)
        contract.eventClass.fields with
    | error error =>
        rw [hcoerce] at houtcome
        cases houtcome with
        | refused error hrefused =>
            refine refused_framed hframed hclean hnone hfits hnot hrefused fun kwargs hkwargs => ?_
            have hok := ((hcomplete kwargs).mp hkwargs).1
            rw [hcoerce] at hok
            cases hok
    | ok kwargs =>
        obtain ⟨utc, hoccurred⟩ := coerced_occurredAt hmetadata hcoerce
        rw [ok_bind]
        rcases finishEvent_outcome hregistered hoccurred with
          ⟨hsemantics, hmissing, hfinish⟩ | ⟨hstages, error, herror, hrefused⟩
        · have hdone := (hcomplete kwargs).mpr ⟨hcoerce, hsemantics, hmissing⟩
          rcases hfinish with ⟨htraced, event, hevent⟩ | ⟨htraced, error, herror⟩
          · rw [hevent]
            exact .accepted kwargs event hdone htraced
              (not_overflowsFirst_of_framed hframed hnot)
          · rw [herror]
            exact .untraced kwargs error hdone htraced
        · rw [herror]
          refine refused_framed hframed hclean hnone hfits hnot hrefused fun other hother => ?_
          obtain ⟨hok, hrest⟩ := (hcomplete other).mp hother
          rw [hcoerce] at hok
          obtain rfl := Except.ok.inj hok
          exact hstages hrest
  · rw [herror]
    exact .unrepresentable contract eventId _ _ hframed hoverflow

/-- The event part of a payload with a registered contract. -/
theorem constructEvent_outcome
    {members : List (PyStr × Json)} {parts : EnvelopeParts} {contract : EventContract}
    (hparts : readParts rt members = .ok parts)
    (hcontract : readContract parts = .ok contract) :
    RegistryOutcome rt (.obj members) (constructEvent rt contract
      (Json.toEntries parts.metadata) (Json.toEntries parts.data)) := by
  have hregistered := (readContract_ok hcontract).1
  obtain ⟨hnames, hmetadata, -⟩ := readContract_fields_ok hcontract
  have henvelope := readParts_fields_ok hparts
  have hnone := unregisteredVersion_registered hparts hcontract
  have hfits := registered_fitsInteger hregistered
  cases hmeta : checkMetadata contract (Json.toEntries parts.metadata) with
  | error error =>
      have hreported : reportedNames rt (.obj members) = [] := by
        simp [reportedNames, henvelope, hparts, hnames, hmetadata, hcontract, hmeta]
      have hrefused := checkMetadata_error hmeta
      simp only [constructEvent, hmeta, mapError_error, error_bind]
      refine refused_unframed ?_ ?_ ?_
      · simp [framedEvent, hparts, hcontract, hmeta, Except.toOption]
      · rw [hrefused.text, hreported]
        rfl
      · rw [hrefused.version, hnone]
        exact hfits
  | ok eventId =>
      have hreported : reportedNames rt (.obj members) = unexpectedNames
          (Json.toEntries parts.data) contract.eventClass.domainFieldNames := by
        simp [reportedNames, henvelope, hparts, hnames, hmetadata, hcontract, hmeta]
      cases hdata : checkDataNames contract eventId (Json.toEntries parts.data) with
      | error error =>
          obtain ⟨hversion, htext⟩ := checkDataNames_error hregistered hdata
          simp only [constructEvent, hmeta, hdata, mapError_ok, mapError_error, ok_bind,
            error_bind]
          refine refused_unframed ?_ ?_ ?_
          · simp [framedEvent, hparts, hcontract, hmeta, hdata, Except.toOption]
          · rw [htext, hreported]
          · rw [hversion, hnone]
            exact hfits
      | ok _ =>
          have hclean : (reportedNames rt (.obj members)).any PyStr.hasNul = false := by
            rw [hreported, unexpectedNames_eq_nil.mpr (checkDataNames_ok.mp hdata)]
            rfl
          have hframed : framedEvent rt (.obj members) = some (contract, eventId,
              Json.toEntries parts.metadata ++ Json.toEntries parts.data) := by
            simp [framedEvent, hparts, hcontract, hmeta, hdata, Except.toOption]
          simp only [constructEvent, hmeta, hdata, mapError_ok, ok_bind]
          exact framed_outcome hframed hregistered hmeta (fun _ _ => toEntries_isDatetime) hclean
            hnone

theorem deserialize_outcome (rt : PythonRuntime) (value : Json) :
    RegistryOutcome rt value (deserializeEvent rt value) := by
  cases value with
  | obj members =>
      cases hparts : readParts rt members with
      | error error =>
          obtain ⟨hversion, htext⟩ := readParts_error hparts
          simp only [deserializeEvent, hparts, mapError_error, error_bind]
          refine refused_unframed ?_ ?_ ?_
          · simp [framedEvent, hparts, Except.toOption]
          · rw [htext]
            by_cases hnames : unexpectedNames members envelopeNames = [] <;>
              simp [reportedNames, hnames, hparts]
          · simp [hversion, unregisteredVersion, hparts]
      | ok parts =>
          cases hcontract : readContract parts with
          | error error =>
              have henvelope := readParts_fields_ok hparts
              simp only [deserializeEvent, hparts, hcontract, mapError_ok, mapError_error,
                ok_bind, error_bind]
              have hframed : framedEvent rt (.obj members) = none := by
                simp [framedEvent, hparts, hcontract, Except.toOption]
              rcases readContract_error hcontract with
                ⟨hnames, hversion, htext⟩ | ⟨hnames, hmetadata, hversion, htext⟩ |
                ⟨hnames, hmetadata, htext, hversion⟩
              · refine refused_unframed hframed ?_ ?_
                · simp [htext, reportedNames, henvelope, hparts, hnames]
                · simp [hversion, unregisteredVersion, hparts, hnames]
              · refine refused_unframed hframed ?_ ?_
                · simp [htext, reportedNames, henvelope, hparts, hnames, hmetadata]
                · simp [hversion, unregisteredVersion, hparts, hmetadata]
              · refine refused_unframed hframed ?_ ?_
                · simp [htext, reportedNames, henvelope, hparts, hnames, hmetadata,
                    hcontract]
                · rcases hversion with ⟨hmissing, hversion⟩ | ⟨hmissing, hversion⟩
                  · simp [hversion, unregisteredVersion, hparts, hmissing]
                  · simp only [hversion, unregisteredVersion, hparts, hnames, hmetadata,
                      hmissing, and_self, if_true]
          | ok contract =>
              simp only [deserializeEvent, hparts, hcontract, mapError_ok, ok_bind]
              exact constructEvent_outcome hparts hcontract
  | null | bool _ | int _ | float _ | str _ | arr _ =>
      have htext : PyStr.hasNul (py "Event payload must be a JSON object") = false := by
        decide
      exact refused_unframed rfl htext rfl

end Payload

/-! ## Quarantine -/

section Quarantine

variable {rt : PythonRuntime}

theorem canonical_hasSurrogate (value : Json) :
    PyStr.hasSurrogate (Json.canonical rt.floatRepr value) = value.hasSurrogate := by
  rw [Json.canonical, Json.render_raw_hasSurrogate rt.floatRepr_hasSurrogate,
    Json.sortKeys_hasSurrogate]

theorem canonical_hasNul (value : Json) :
    PyStr.hasNul (Json.canonical rt.floatRepr value) = false :=
  Json.render_raw_hasNul rt.floatRepr_hasNul _

theorem fingerprintText_hasSurrogate (topic : Topic) (key value : Json) :
    PyStr.hasSurrogate (fingerprintText rt topic key value) =
      (key.hasSurrogate || value.hasSurrogate) := by
  have htopic : PyStr.hasSurrogate topic.val = false := by
    have htopic := topic.property
    simp only [isTopic, Bool.and_eq_true] at htopic
    exact PyStr.hasSurrogate_eq_false_of_isAscii htopic.1.2
  have hnul : nul.isSurrogate = false := by decide
  have hnone : PyStr.hasSurrogate (py "None") = false := by decide
  have hkey : PyStr.hasSurrogate ((keyJson rt key).getD (py "None")) =
      key.hasSurrogate := by
    cases key with
    | null => exact hnone
    | bool _ | int _ | float _ | str _ | arr _ | obj _ => exact canonical_hasSurrogate _
  simp [fingerprintText, htopic, hnul, hkey, canonical_hasSurrogate]

theorem quarantine_ok_iff
    (rt : PythonRuntime) (topic : Topic) (key value : Json) (error : EventContractError) :
    (∃ row, quarantine rt topic key value error = .ok row) ↔
      value.hasSurrogate = false ∧ key.hasSurrogate = false ∧
        PyStr.hasNul error.message = false ∧
        error.contract_version.all fitsInteger = true := by
  have hencode := PyStr.encodeUtf8_isSome (fingerprintText rt topic key value)
  rw [fingerprintText_hasSurrogate] at hencode
  unfold quarantine
  cases hbytes : PyStr.encodeUtf8 (fingerprintText rt topic key value) with
  | none =>
      rw [hbytes] at hencode
      simp only [reduceCtorEq, exists_false, false_iff]
      rintro ⟨hvalue, hkey, -⟩
      simp [hvalue, hkey] at hencode
  | some bytes =>
      rw [hbytes] at hencode
      simp only [Option.isSome_some, Bool.true_eq, Bool.not_eq_true',
        Bool.or_eq_false_iff] at hencode
      have htopic : PyStr.hasNul topic.val = false := by
        have htopic := topic.property
        simp only [isTopic, Bool.and_eq_true, Bool.not_eq_true'] at htopic
        exact htopic.2
      have hevent : (searchableIdentity 128 error.event_id).all textFits = true := by
        cases hid : searchableIdentity 128 error.event_id with
        | none => rfl
        | some text => simp [textFits, searchableIdentity_hasNul hid]
      have hname : (searchableIdentity 160 error.contract_name).all textFits = true := by
        cases hid : searchableIdentity 160 error.contract_name with
        | none => rfl
        | some text => simp [textFits, searchableIdentity_hasNul hid]
      have hkey : (keyJson rt key).all textFits = true := by
        cases key with
        | null => rfl
        | bool _ | int _ | float _ | str _ | arr _ | obj _ =>
            simp [keyJson, textFits, canonical_hasNul]
      simp only [QuarantinedEvent.fits, hevent, hname, hkey, textFits, rt.sha256_hasNul,
        htopic, canonical_hasNul, Bool.not_false, Bool.true_and, Bool.and_true, hencode,
        true_and]
      split
      · rename_i hfits
        simp only [Bool.and_eq_true, Bool.not_eq_true'] at hfits
        simp [hfits]
      · rename_i hfits
        simp only [Bool.and_eq_true, Bool.not_eq_true', not_and] at hfits
        simp only [reduceCtorEq, exists_false, false_iff, not_and]
        exact fun htext hversion => hfits hversion htext

end Quarantine

/-! ## The message -/

section Message

variable {rt : PythonRuntime}

theorem Complete.unique
    {value : Json} {kwargs kwargs' : List (PyStr × PyValue)}
    (hcomplete : Complete rt value kwargs) (hcomplete' : Complete rt value kwargs') :
    kwargs = kwargs' := by
  obtain ⟨contract, eventId, values, hframed, hcoerce, -⟩ := hcomplete
  obtain ⟨contract', eventId', values', hframed', hcoerce', -⟩ := hcomplete'
  rw [hframed] at hframed'
  obtain ⟨rfl, rfl, rfl⟩ : contract = contract' ∧ eventId = eventId' ∧
      values = values' := by
    simpa using hframed'
  rw [hcoerce] at hcoerce'
  exact Except.ok.inj hcoerce'

theorem deliveryIdentity_isSome
    (rt : PythonRuntime) (event : DomainEvent) (value : Json) :
    (deliveryIdentity rt event value).isSome = !value.hasSurrogate := by
  rw [deliveryIdentity, Option.isSome_map,
    Json.encodeUtf8_canonical_isSome rt.floatRepr_hasSurrogate]

theorem processMessage_eq
    (hasQuarantine : Bool) (topic : Topic) (key : Json) {value : Json}
    (hvalue : value ≠ .null) :
    processMessage rt hasQuarantine topic key value =
      settleMessage rt hasQuarantine topic key value (deserializeEvent rt value) := by
  cases value with
  | null => exact absurd rfl hvalue
  | bool _ | int _ | float _ | str _ | arr _ | obj _ => rfl

theorem accepted_settled_iff
    {hasQuarantine : Bool} {topic : Topic} {key value : Json} {event : DomainEvent} :
    (settleMessage rt hasQuarantine topic key value (.ok event)).Settled ↔
      value.hasSurrogate = false := by
  have hidentity := deliveryIdentity_isSome rt event value
  simp only [settleMessage]
  cases hfound : deliveryIdentity rt event value with
  | none =>
      rw [hfound] at hidentity
      simp only [Option.isSome_none, Bool.false_eq, Bool.not_eq_false'] at hidentity
      by_cases hdurable : event.eventClass.isDurableTransition = true <;>
        simp [hdurable, Processed.Settled, hidentity]
  | some identity =>
      rw [hfound] at hidentity
      simp only [Option.isSome_some, Bool.true_eq, Bool.not_eq_true'] at hidentity
      simp [Processed.Settled, hidentity]

theorem refused_settled_iff
    {hasQuarantine : Bool} {topic : Topic} {key value : Json}
    {error : EventContractError} :
    (settleMessage rt hasQuarantine topic key value (.error (.contract error))).Settled ↔
      (hasQuarantine = true →
        (value.hasSurrogate = false ∧ key.hasSurrogate = false) ∧
          PyStr.hasNul error.message = false ∧
          error.contract_version.all fitsInteger = true) := by
  simp only [settleMessage]
  cases hasQuarantine with
  | false => simp [Processed.Settled]
  | true =>
      have hok := quarantine_ok_iff rt topic key value error
      cases hresult : quarantine rt topic key value error with
      | error failure =>
          simp only [hresult, reduceCtorEq, exists_false, false_iff] at hok
          simp only [if_true, Processed.Settled, List.ne_cons_self, reduceCtorEq,
            exists_false, and_false, or_self, true_implies, Option.some.injEq,
            false_iff, and_assoc]
          simpa using hok
      | ok row =>
          simp only [hresult, Except.ok.injEq, exists_eq', true_iff] at hok
          simp [Processed.Settled, hok]

/-- A decoded message other than null is dispatched once or parked exactly when
its instants, trace identities, text and reported version can be represented. -/
theorem message_settled_iff
    (rt : PythonRuntime) (hasQuarantine : Bool) (topic : Topic) (key value : Json)
    (hvalue : value ≠ .null) :
    (processMessage rt hasQuarantine topic key value).Settled ↔
      SettledInput rt hasQuarantine key value := by
  rw [processMessage_eq hasQuarantine topic key hvalue]
  have houtcome := deserialize_outcome rt value
  cases hresult : deserializeEvent rt value with
  | ok event =>
      rw [hresult] at houtcome
      rw [accepted_settled_iff]
      cases houtcome with
      | accepted kwargs _ hcomplete htraced hfirst =>
          constructor
          · intro htext
            exact
              { representable := hfirst
                traced := fun kwargs' hother => hcomplete.unique hother ▸ htraced
                accepted_text := fun _ _ => htext
                rejected_text := fun hnone => absurd hcomplete (hnone kwargs)
                rejected_row := fun hnone => absurd hcomplete (hnone kwargs) }
          · exact fun hinput => hinput.accepted_text kwargs hcomplete
  | error failure =>
      rw [hresult] at houtcome
      cases houtcome with
      | untraced kwargs error hcomplete htraced =>
          refine iff_of_false (by simp [settleMessage, Processed.Settled]) ?_
          intro hinput
          have := hinput.traced kwargs hcomplete
          simp [htraced] at this
      | unrepresentable contract eventId values error hframed hoverflow =>
          refine iff_of_false (by simp [settleMessage, Processed.Settled]) ?_
          exact fun hinput => hinput.representable _ _ _ hframed hoverflow
      | refused error hincomplete hfirst htext hversion =>
          rw [refused_settled_iff, htext, hversion]
          constructor
          · intro hfits
            exact
              { representable := hfirst
                traced := fun kwargs hcomplete => absurd hcomplete (hincomplete kwargs)
                accepted_text := fun kwargs hcomplete =>
                  absurd hcomplete (hincomplete kwargs)
                rejected_text := fun _ hquarantine => (hfits hquarantine).1
                rejected_row := fun _ hquarantine => by
                  have hrow := (hfits hquarantine).2
                  simpa using hrow }
          · intro hinput hquarantine
            have hrow := hinput.rejected_row hincomplete hquarantine
            refine ⟨hinput.rejected_text hincomplete hquarantine, ?_, hrow.2⟩
            simpa using hrow.1

/-! ## Messages that are not settled -/

def sampleTopic : Topic := ⟨py "outbox.event.patron", by decide⟩

/-- A payload of `PatronSuspended` with the given event id, time and version. -/
def suspendedEnvelope (eventId occurredAt : PyStr) (version : ℤ) (reason : PyStr) :
    Json :=
  envelope { contractOf .patronSuspended with version := version }
    [(py "event_id", .str eventId), (py "occurred_at", .str occurredAt),
      (py "correlation_id", .null), (py "causation_id", .null)]
    [(py "patron_id", .str (py "p1")), (py "reason", .str reason)]

def epoch : PyStr := py "0001-01-01T00:00:00+00:00"

/-- Whether the exception lets the record be parked. -/
def ConsumerException.parks : ConsumerException → Bool
  | .unrecoverable _ => true
  | _ => false

theorem Processed.not_settled
    {processed : Processed}
    (hraised : processed.raised.map ConsumerException.parks = some false) :
    ¬ processed.Settled := by
  rintro (⟨delivery, -, hnone⟩ | ⟨message, -, hmessage⟩)
  · simp [hnone] at hraised
  · simp [hmessage, ConsumerException.parks] at hraised

theorem message_settled_sample :
    (processMessage asciiRuntime true sampleTopic .null
        (suspendedEnvelope (py "event-1") epoch 1 (py "late"))).Settled ↔
      SettledInput asciiRuntime true .null
        (suspendedEnvelope (py "event-1") epoch 1 (py "late")) :=
  message_settled_iff asciiRuntime true sampleTopic .null _ (by simp [suspendedEnvelope,
    envelope])

/-- A blank in the event id, a time before year 1 in UTC, a lone surrogate and a
version beyond 32 bits each leave the record to be retried. -/
theorem poison_retried :
    (¬ (processMessage asciiRuntime true sampleTopic .null
        (suspendedEnvelope (py "event 1") epoch 1 (py "late"))).Settled) ∧
      (¬ (processMessage asciiRuntime true sampleTopic .null
        (suspendedEnvelope (py "event-1") (py "0001-01-01T00:00:00+01:00") 1
          (py "late"))).Settled) ∧
      (¬ (processMessage asciiRuntime true sampleTopic .null
        (suspendedEnvelope (py "event-1") epoch 1 [⟨0xD800, by decide⟩])).Settled) ∧
      ¬ (processMessage asciiRuntime true sampleTopic .null
        (suspendedEnvelope (py "event-1") epoch 2147483648 (py "late"))).Settled :=
  ⟨Processed.not_settled (by decide +kernel), Processed.not_settled (by decide +kernel),
    Processed.not_settled (by decide +kernel), Processed.not_settled (by decide +kernel)⟩

end Message

end LibrarySystem
