import LibrarySystem.Domain.Catalog
import LibrarySystem.Domain.Lending
import LibrarySystem.Domain.Patron
import LibrarySystem.Events.RoundTrip

/-!
# What the aggregates publish

Every factory and transition is one call; its outcome is the aggregate before
and after it and the events it added.  An outcome is sound when each event is
accepted by the wire contract, under any identity and timestamp, and repeats
the values the aggregate stores.  All calls are sound except `Loan.create` on
arguments that its constructor normalises.
-/

namespace LibrarySystem

open Result

/-! ## Accepting a typed event -/

/-- The coercion of each field of a class, in order. -/
inductive CoercesTo (rt : PythonRuntime) :
    List (PyStr × FieldType) → List PyValue → List PyValue → Prop
  | nil : CoercesTo rt [] [] []
  | cons {field : PyStr × FieldType} {fields : List (PyStr × FieldType)}
      {value coerced : PyValue} {values rest : List PyValue}
      (hfield : coerceAndValidateValue rt field.2 value = .ok coerced)
      (hfields : CoercesTo rt fields values rest) :
      CoercesTo rt (field :: fields) (value :: values) (coerced :: rest)

theorem CoercesTo.lookup
    {rt : PythonRuntime} {fields : List (PyStr × FieldType)}
    {values coerced : List PyValue} (hcoerces : CoercesTo rt fields values coerced) :
    ∀ field ∈ fields, (fields.map Prod.fst).Nodup →
      ∃ value result,
        PyValue.lookup field.1 ((fields.map Prod.fst).zip values) = some value ∧
        coerceAndValidateValue rt field.2 value = .ok result ∧
        PyValue.lookup field.1 ((fields.map Prod.fst).zip coerced) = some result := by
  induction hcoerces with
  | nil => simp
  | @cons first fields value coerced values rest hfirst _ ih =>
      intro field hfield hnodup
      simp only [List.map_cons, List.nodup_cons] at hnodup
      rcases List.mem_cons.mp hfield with rfl | hfield
      · exact ⟨value, coerced, by simp [PyValue.lookup], hfirst,
          by simp [PyValue.lookup]⟩
      · obtain ⟨found, final, hfound, hcoerce, hfinal⟩ := ih field hfield hnodup.2
        have hname : field.1 ∈ fields.map Prod.fst := List.mem_map_of_mem hfield
        have hne : first.1 ≠ field.1 := fun heq => hnodup.1 (heq ▸ hname)
        exact ⟨found, final, by simpa [PyValue.lookup, hne] using hfound, hcoerce,
          by simpa [PyValue.lookup, hne] using hfinal⟩

/-- Which semantic check a field name is under. -/
inductive FieldRule
  | reference
  | reservation
  | positive
  | email
  | bounded (maximum : ℕ)
  | free
deriving DecidableEq

def fieldRule (name : PyStr) : FieldRule :=
  if name ∈ [py "book_id", py "loan_id", py "patron_id"] then .reference
  else if name = py "reservation_id" then .reservation
  else if name ∈ [py "reservation_generation", py "days_overdue"] then .positive
  else if name ∈ [py "borrower_email", py "patron_email"] then .email
  else
    match boundedFields.find? fun field => field.1 = name with
    | some field => .bounded field.2
    | none => .free

/-- A value that comes from the type its field is stored in. -/
def FieldRule.Holds : FieldRule → PyValue → Prop
  | .reference, value => ∃ r : Reference, value = .str r.val
  | .reservation, value => ∃ u : Uuid, value = .str (uuidText u)
  | .positive, value => ∃ n : ℤ, value = .int n ∧ 1 ≤ n
  | .email, value => ∃ email : EmailAddress, value = .str email.value
  | .bounded maximum, value =>
      ∃ text : BoundedText maximum, value = .str text.value
  | .free, _ => True

theorem checkEach_ok
    {values : List (PyStr × PyValue)}
    {check : PyStr → PyValue → Except PyException Unit} {names : List PyStr}
    (hnames : ∀ name ∈ names, ∀ value, PyValue.lookup name values = some value →
      check name value = .ok ()) :
    checkEach values check names = .ok () := by
  induction names with
  | nil => rfl
  | cons name names ih =>
      have htail := ih fun other hother => hnames other (by simp [hother])
      simp only [checkEach]
      split
      · exact htail
      · rename_i value hvalue
        cases hlookup : PyValue.lookup name values with
        | none =>
            exact absurd (by simp [PyValue.get, hlookup]) hvalue
        | some found =>
            have hcheck := hnames name (by simp) found hlookup
            simp only [PyValue.get, hlookup, Option.getD_some, hcheck, htail, ok_bind]

/-- `right` is a later instant than `left`, when both are present. -/
def DatesOrdered (left right : PyValue) : Prop :=
  left = .none ∨ right = .none ∨
    ∃ t u : UtcDateTime, left = .datetime (.ofUtc t) ∧
      right = .datetime (.ofUtc u) ∧ t < u

theorem checkAfter_ok
    {left right : PyValue} {message : PyStr} (hdates : DatesOrdered left right) :
    checkAfter left message right = .ok () := by
  rcases hdates with rfl | rfl | ⟨t, u, rfl, rfl, hlt⟩
  · cases right <;> rfl
  · rfl
  · have hlater : ¬ DateTime.instant u .zero ≤ DateTime.instant t .zero := by
      rw [Fin.lt_def] at hlt
      simp only [DateTime.instant, UtcOffset.zero]
      omega
    simp only [checkAfter, DateTime.ofUtc]
    rw [if_neg hlater]

theorem checkEmail_value (rt : PythonRuntime) (name : PyStr) (email : EmailAddress) :
    checkEmail rt name (.str email.value) = .ok () := by
  simp [checkEmail, email.normalized rt, email.bounded, email.wellFormed]

theorem checkBounded_value {maximum : ℕ} (name : PyStr) (text : BoundedText maximum) :
    checkBounded maximum name (.str text.value) = .ok () := by
  simp [checkBounded, text.strip_ne_nil, text.bounded]

/-- Values of the stored types, with dates in order, pass every semantic
check. -/
theorem validateEventSemantics_ok
    (rt : PythonRuntime) {values : List (PyStr × PyValue)}
    (hrules : ∀ entry ∈ values, (fieldRule entry.1).Holds entry.2)
    (hdue : DatesOrdered (PyValue.get (py "borrowed_at") values)
      (PyValue.get (py "due_date") values))
    (hreturn : DatesOrdered (PyValue.get (py "borrowed_at") values)
      (PyValue.get (py "return_due_date") values))
    (hextension : DatesOrdered (PyValue.get (py "old_due_date") values)
      (PyValue.get (py "new_due_date") values)) :
    validateEventSemantics rt values = .ok () := by
  have hholds : ∀ name value, PyValue.lookup name values = some value →
      (fieldRule name).Holds value :=
    fun name value hlookup => hrules (name, value) (PyValue.mem_of_lookup hlookup)
  have hreferences : checkEach values checkReferenceId
      [py "book_id", py "loan_id", py "patron_id"] = .ok () := by
    apply checkEach_ok
    intro name hname value hlookup
    have hrule : fieldRule name = .reference := by simp only [fieldRule, hname, if_true]
    have hvalue := hholds name value hlookup
    rw [hrule] at hvalue
    obtain ⟨r, rfl⟩ := hvalue
    simp [checkReferenceId, r.property]
  have hreservation : checkEach values checkReservationId [py "reservation_id"] =
      .ok () := by
    apply checkEach_ok
    intro name hname value hlookup
    rw [List.mem_singleton.mp hname] at hlookup
    have hrule : fieldRule (py "reservation_id") = .reservation := by decide
    have hvalue := hholds _ value hlookup
    rw [hrule] at hvalue
    obtain ⟨u, rfl⟩ := hvalue
    simp [checkReservationId, uuidText_matches]
  have hpositive : ∀ name, fieldRule name = .positive →
      checkEach values checkPositive [name] = .ok () := by
    intro name hrule
    apply checkEach_ok
    intro other hother value hlookup
    rw [List.mem_singleton.mp hother] at hlookup
    have hvalue := hholds _ value hlookup
    rw [hrule] at hvalue
    obtain ⟨n, rfl, hn⟩ := hvalue
    have hnot : ¬ n < 1 := by omega
    simp [checkPositive, hnot]
  have hemail : checkEach values (checkEmail rt)
      [py "borrower_email", py "patron_email"] = .ok () := by
    apply checkEach_ok
    intro name hname value hlookup
    have hrule : ∀ name ∈ [py "borrower_email", py "patron_email"],
        fieldRule name = .email := by decide
    have hvalue := hholds name value hlookup
    rw [hrule name hname] at hvalue
    obtain ⟨email, rfl⟩ := hvalue
    exact checkEmail_value rt name email
  have hbounded : ∀ field ∈ boundedFields,
      checkEach values (checkBounded field.2) [field.1] = .ok () := by
    intro field hfield
    apply checkEach_ok
    intro name hname value hlookup
    rw [List.mem_singleton.mp hname] at hlookup
    have hrule : ∀ field ∈ boundedFields,
        fieldRule field.1 = .bounded field.2 := by decide
    have hvalue := hholds _ value hlookup
    rw [hrule field hfield] at hvalue
    obtain ⟨text, rfl⟩ := hvalue
    exact checkBounded_value name text
  have hloop : ∀ fields : List (PyStr × ℕ),
      (∀ field ∈ fields, checkEach values (checkBounded field.2) [field.1] = .ok ()) →
        fields.forM (fun field =>
          checkEach values (checkBounded field.2) [field.1]) =
            (.ok () : Except PyException Unit) := by
    intro fields
    induction fields with
    | nil => exact fun _ => rfl
    | cons field fields ih =>
        intro hfields
        have htail := ih fun other hother => hfields other (by simp [hother])
        change (checkEach values (checkBounded field.2) [field.1] >>= fun _ =>
          fields.forM fun field =>
            checkEach values (checkBounded field.2) [field.1]) = _
        rw [hfields field (by simp), ok_bind, htail]
  unfold validateEventSemantics
  simp only [hreferences, hreservation, hpositive _ (show fieldRule
    (py "reservation_generation") = .positive by decide), hemail,
    checkAfter_ok hdue, checkAfter_ok hreturn, checkAfter_ok hextension,
    hpositive _ (show fieldRule (py "days_overdue") = .positive by decide),
    ok_bind, hloop boundedFields hbounded]

/-- Accepted by `serialize_event` whatever identity and timestamp the event
gets. -/
def AggregateEvent.Published (rt : PythonRuntime) (event : AggregateEvent) : Prop :=
  ∀ order metadata, ∃ text, serializeEvent rt order (event.stamp metadata) = .ok text

theorem AggregateEvent.published_of
    {rt : PythonRuntime} {event : AggregateEvent} (coerced : List PyValue)
    (hcoerces : CoercesTo rt event.eventClass.domainFields event.values coerced)
    (hsemantics : validateEventSemantics rt
      (event.eventClass.domainFieldNames.zip coerced) = .ok ()) :
    event.Published rt := by
  intro order metadata
  have hnodup : (event.eventClass.domainFields.map Prod.fst).Nodup := by
    have hall := fields_nodup event.eventClass
    rw [fields_names, List.nodup_append] at hall
    exact hall.2.1
  have hlookup := fun field hfield => hcoerces.lookup field hfield hnodup
  obtain ⟨kwargs, hkwargs⟩ : ∃ kwargs,
      coerceFields rt (contractOf (event.stamp metadata).eventClass)
        (event.stamp metadata).metadata.event_id.val
        ((event.stamp metadata).metadata.entries order ++ (event.stamp metadata).data)
        (event.stamp metadata).eventClass.fields = .ok kwargs := by
    apply coerceFields_ok
    intro field hfield value hvalue
    rcases List.mem_append.mp hfield with hmeta | hdomain
    · rw [lookup_own_metadata (List.mem_map_of_mem hmeta)] at hvalue
      simp only [Option.some.injEq] at hvalue
      exact ⟨_, hvalue ▸ metadata.coerce_entry rt field hmeta⟩
    · rw [lookup_own_data (domainFieldNames_of_mem hdomain)] at hvalue
      obtain ⟨found, result, hfound, hcoerce, -⟩ := hlookup field hdomain
      have hsame : found = value := by
        have heq : some found = some value := hfound.symm.trans hvalue
        simpa using heq
      exact ⟨result, hsame ▸ hcoerce⟩
  obtain ⟨-, hdata, habsent⟩ := coerceFields_own hkwargs
  have hget : ∀ name, name ∉ metadataNames → PyValue.get name kwargs =
      PyValue.get name (event.eventClass.domainFieldNames.zip coerced) := by
    intro name hname
    by_cases hdomain : name ∈ event.eventClass.domainFieldNames
    · obtain ⟨field, hfield, rfl⟩ := List.mem_map.mp hdomain
      obtain ⟨value, result, hvalue, hcoerce, hresult⟩ := hdata field hfield
      obtain ⟨found, final, hfound, hfinal, hzip⟩ := hlookup field hfield
      have hsame : found = value := by
        have heq : some found = some value := hfound.symm.trans hvalue
        simpa using heq
      rw [hsame, hcoerce] at hfinal
      simp only [Except.ok.injEq] at hfinal
      have hzip' : PyValue.lookup field.1
          (event.eventClass.domainFieldNames.zip coerced) = some final := hzip
      simp [PyValue.get, hresult, hzip', hfinal]
    · have hzip : PyValue.lookup name
          (event.eventClass.domainFieldNames.zip coerced) = none := by
        rw [PyValue.lookup_eq_none]
        intro hmem
        obtain ⟨entry, hentry, rfl⟩ := List.mem_map.mp hmem
        exact hdomain (List.of_mem_zip hentry).1
      simp [PyValue.get, habsent name hname hdomain, hzip]
  have hvalid : validateEventSemantics rt kwargs = .ok () := by
    rw [validateEventSemantics_congr hget]
    exact hsemantics
  obtain ⟨result, hresult, -⟩ := constructEvent_own_of hkwargs hvalid
  exact serializeEvent_of_construct hresult

/-! ## The stored types on the wire -/

section Stored

variable {rt : PythonRuntime} {name : PyStr}

theorem coerce_reference (r : Reference) :
    coerceAndValidateValue rt .str (.str r.val) = .ok (.str r.val) :=
  coerce_str (by rw [Reference.strip_val]; exact r.ne_nil)

theorem coerce_uuid (u : Uuid) :
    coerceAndValidateValue rt .str (.str (uuidText u)) = .ok (.str (uuidText u)) :=
  coerce_reference (uuidReference u)

theorem coerce_bounded {maximum : ℕ} (text : BoundedText maximum) :
    coerceAndValidateValue rt .str (.str text.value) = .ok (.str text.value) :=
  coerce_str text.strip_ne_nil

theorem EmailAddress.strip_ne_nil (email : EmailAddress) :
    PyStr.strip email.value ≠ [] := by
  have hstrip : PyStr.strip email.value = email.value :=
    PyStr.strip_eq_self fun _ hc => (isEmail_ascii email.wellFormed hc).2
  rw [hstrip]
  intro hnil
  have hformed := email.wellFormed
  rw [hnil] at hformed
  exact absurd hformed (by decide)

theorem coerce_email (email : EmailAddress) :
    coerceAndValidateValue rt .str (.str email.value) = .ok (.str email.value) :=
  coerce_str email.strip_ne_nil

theorem coerce_utc (t : UtcDateTime) :
    coerceAndValidateValue rt .datetime (.datetime (.ofUtc t)) =
      .ok (.datetime (.ofUtc t)) :=
  coerceAware_ofUtc t

/-- The rules of a class hold of its values. -/
inductive RulesHold : List PyStr → List PyValue → Prop
  | nil : RulesHold [] []
  | cons {name : PyStr} {names : List PyStr} {value : PyValue} {values : List PyValue}
      (hrule : (fieldRule name).Holds value) (hrules : RulesHold names values) :
      RulesHold (name :: names) (value :: values)

theorem RulesHold.entries
    {names : List PyStr} {values : List PyValue} (hrules : RulesHold names values) :
    ∀ entry ∈ names.zip values, (fieldRule entry.1).Holds entry.2 := by
  induction hrules with
  | nil => simp
  | cons hrule _ ih =>
      intro entry hentry
      rw [List.zip_cons_cons] at hentry
      rcases List.mem_cons.mp hentry with rfl | hentry
      · exact hrule
      · exact ih entry hentry

theorem holds_reference (hrule : fieldRule name = .reference) (r : Reference) :
    (fieldRule name).Holds (.str r.val) := by
  rw [hrule]
  exact ⟨r, rfl⟩

theorem holds_reservation (hrule : fieldRule name = .reservation) (u : Uuid) :
    (fieldRule name).Holds (.str (uuidText u)) := by
  rw [hrule]
  exact ⟨u, rfl⟩

theorem holds_positive (hrule : fieldRule name = .positive) {n : ℤ} (hn : 1 ≤ n) :
    (fieldRule name).Holds (.int n) := by
  rw [hrule]
  exact ⟨n, rfl, hn⟩

theorem holds_email (hrule : fieldRule name = .email) (email : EmailAddress) :
    (fieldRule name).Holds (.str email.value) := by
  rw [hrule]
  exact ⟨email, rfl⟩

theorem holds_bounded
    {maximum : ℕ} (hrule : fieldRule name = .bounded maximum)
    (text : BoundedText maximum) :
    (fieldRule name).Holds (.str text.value) := by
  rw [hrule]
  exact ⟨text, rfl⟩

theorem holds_free (hrule : fieldRule name = .free) (value : PyValue) :
    (fieldRule name).Holds value := by
  rw [hrule]
  exact trivial

theorem get_zip
    {names : List PyStr} {values : List PyValue} {value : PyValue} (index : ℕ)
    (hindex : names.idxOf name = index) (hvalue : values[index]? = some value)
    (hnames : name ∈ names) :
    PyValue.get name (names.zip values) = value := by
  induction names generalizing values index with
  | nil => simp at hnames
  | cons first names ih =>
      cases values with
      | nil => simp at hvalue
      | cons head values =>
          rw [List.zip_cons_cons]
          by_cases hfirst : first = name
          · subst hfirst
            rw [List.idxOf_cons_self] at hindex
            subst hindex
            simpa [PyValue.get, PyValue.lookup] using hvalue
          · rw [List.idxOf_cons_ne _ hfirst] at hindex
            subst hindex
            have htail := ih _ rfl (by simpa using hvalue)
              (List.mem_of_ne_of_mem (Ne.symm hfirst) hnames)
            simpa [PyValue.get, PyValue.lookup, hfirst] using htail

theorem get_zip_none
    {names : List PyStr} (values : List PyValue) (hname : name ∉ names) :
    PyValue.get name (names.zip values) = .none := by
  have hlookup : PyValue.lookup name (names.zip values) = none := by
    rw [PyValue.lookup_eq_none]
    intro hmem
    obtain ⟨entry, hentry, rfl⟩ := List.mem_map.mp hmem
    exact hname (List.of_mem_zip hentry).1
  simp [PyValue.get, hlookup]

/-- A class is published when its values obey their rules and its dates are in
order. -/
theorem AggregateEvent.published_of_rules
    {event : AggregateEvent} (cls : EventClass) (hclass : event.eventClass = cls)
    (coerced : List PyValue)
    (hcoerces : CoercesTo rt cls.domainFields event.values coerced)
    (hrules : RulesHold cls.domainFieldNames coerced)
    (hdue : DatesOrdered
      (PyValue.get (py "borrowed_at") (cls.domainFieldNames.zip coerced))
      (PyValue.get (py "due_date") (cls.domainFieldNames.zip coerced)))
    (hreturn : DatesOrdered
      (PyValue.get (py "borrowed_at") (cls.domainFieldNames.zip coerced))
      (PyValue.get (py "return_due_date") (cls.domainFieldNames.zip coerced)))
    (hextension : DatesOrdered
      (PyValue.get (py "old_due_date") (cls.domainFieldNames.zip coerced))
      (PyValue.get (py "new_due_date") (cls.domainFieldNames.zip coerced))) :
    event.Published rt := by
  subst hclass
  exact published_of coerced hcoerces
    (validateEventSemantics_ok rt hrules.entries hdue hreturn hextension)

/-- Classes without a borrow date and without an old due date. -/
theorem AggregateEvent.published_undated
    {event : AggregateEvent} (cls : EventClass) (hclass : event.eventClass = cls)
    (coerced : List PyValue)
    (hcoerces : CoercesTo rt cls.domainFields event.values coerced)
    (hrules : RulesHold cls.domainFieldNames coerced)
    (hborrowed : py "borrowed_at" ∉ cls.domainFieldNames)
    (hold : py "old_due_date" ∉ cls.domainFieldNames) :
    event.Published rt :=
  published_of_rules cls hclass coerced hcoerces hrules
    (Or.inl (get_zip_none coerced hborrowed)) (Or.inl (get_zip_none coerced hborrowed))
    (Or.inl (get_zip_none coerced hold))

section Catalog

variable (book patron loan : Reference) (title : BoundedText 100) (token : Uuid)
  {generation : ℤ} (hgeneration : 1 ≤ generation) (email : EmailAddress)

include hgeneration

theorem published_reserved (reservedAt : UtcDateTime) :
    (AggregateEvent.catalogBookReserved
      { book_id := book.val, title := title.value, reservation_id := uuidText token
        reservation_generation := generation, patron_id := patron.val
        reserved_at := .ofUtc reservedAt
        borrower_email := email.value }).Published rt :=
  AggregateEvent.published_undated .catalogBookReserved rfl _
    (.cons (coerce_reference book) <| .cons (coerce_bounded title) <|
      .cons (coerce_uuid token) <| .cons rfl <| .cons (coerce_reference patron) <|
      .cons (coerce_utc reservedAt) <| .cons (coerce_email email) .nil)
    (.cons (holds_reference (by decide) book) <|
      .cons (holds_bounded (by decide) title) <|
      .cons (holds_reservation (by decide) token) <|
      .cons (holds_positive (by decide) hgeneration) <|
      .cons (holds_reference (by decide) patron) <|
      .cons (holds_free (by decide) _) <|
      .cons (holds_email (by decide) email) .nil)
    (by decide) (by decide)

theorem published_borrowed {borrowedAt due : UtcDateTime} (hdue : borrowedAt < due) :
    (AggregateEvent.catalogBookBorrowed
      { book_id := book.val, title := title.value, reservation_id := uuidText token
        reservation_generation := generation, patron_id := patron.val
        loan_id := loan.val, borrowed_at := .ofUtc borrowedAt
        return_due_date := .ofUtc due
        borrower_email := email.value }).Published rt := by
  refine AggregateEvent.published_of_rules .catalogBookBorrowed rfl _
    (.cons (coerce_reference book) <| .cons (coerce_bounded title) <|
      .cons (coerce_uuid token) <| .cons rfl <| .cons (coerce_reference patron) <|
      .cons (coerce_reference loan) <| .cons (coerce_utc borrowedAt) <|
      .cons (coerce_utc due) <| .cons (coerce_email email) .nil)
    (.cons (holds_reference (by decide) book) <|
      .cons (holds_bounded (by decide) title) <|
      .cons (holds_reservation (by decide) token) <|
      .cons (holds_positive (by decide) hgeneration) <|
      .cons (holds_reference (by decide) patron) <|
      .cons (holds_reference (by decide) loan) <|
      .cons (holds_free (by decide) _) <| .cons (holds_free (by decide) _) <|
      .cons (holds_email (by decide) email) .nil) ?_ ?_ ?_
  · exact Or.inr (Or.inl (get_zip_none _ (by decide)))
  · exact Or.inr (Or.inr ⟨borrowedAt, due, get_zip 6 (by decide) rfl (by decide),
      get_zip 7 (by decide) rfl (by decide), hdue⟩)
  · exact Or.inl (get_zip_none _ (by decide))

theorem published_released (reason : BoundedText 500) :
    (AggregateEvent.catalogBookReleased
      { book_id := book.val, reservation_id := uuidText token
        reservation_generation := generation, patron_id := patron.val
        reason := reason.value }).Published rt :=
  AggregateEvent.published_undated .catalogBookReleased rfl _
    (.cons (coerce_reference book) <| .cons (coerce_uuid token) <| .cons rfl <|
      .cons (coerce_reference patron) <| .cons (coerce_bounded reason) .nil)
    (.cons (holds_reference (by decide) book) <|
      .cons (holds_reservation (by decide) token) <|
      .cons (holds_positive (by decide) hgeneration) <|
      .cons (holds_reference (by decide) patron) <|
      .cons (holds_bounded (by decide) reason) .nil)
    (by decide) (by decide)

theorem published_returned :
    (AggregateEvent.catalogBookReturned
      { book_id := book.val, loan_id := loan.val, reservation_id := uuidText token
        reservation_generation := generation
        patron_id := patron.val }).Published rt :=
  AggregateEvent.published_undated .catalogBookReturned rfl _
    (.cons (coerce_reference book) <| .cons (coerce_reference loan) <|
      .cons (coerce_uuid token) <| .cons rfl <| .cons (coerce_reference patron) .nil)
    (.cons (holds_reference (by decide) book) <|
      .cons (holds_reference (by decide) loan) <|
      .cons (holds_reservation (by decide) token) <|
      .cons (holds_positive (by decide) hgeneration) <|
      .cons (holds_reference (by decide) patron) .nil)
    (by decide) (by decide)

/-- The borrow date is the caller's, the due date is already in UTC. -/
theorem published_created
    {borrowedAt : DateTime} {borrowed due : UtcDateTime}
    (hborrowed : coerceAware borrowedAt = .ok (.datetime (.ofUtc borrowed)))
    (hdue : borrowed < due) :
    (AggregateEvent.loanCreated
      { loan_id := loan.val, reservation_id := uuidText token
        reservation_generation := generation, patron_id := patron.val
        patron_email := email.value, book_id := book.val
        book_title := title.value, borrowed_at := borrowedAt
        due_date := .ofUtc due }).Published rt := by
  refine AggregateEvent.published_of_rules .loanCreated rfl _
    (.cons (coerce_reference loan) <| .cons (coerce_uuid token) <| .cons rfl <|
      .cons (coerce_reference patron) <| .cons (coerce_email email) <|
      .cons (coerce_reference book) <| .cons (coerce_bounded title) <|
      .cons hborrowed <| .cons (coerce_utc due) .nil)
    (.cons (holds_reference (by decide) loan) <|
      .cons (holds_reservation (by decide) token) <|
      .cons (holds_positive (by decide) hgeneration) <|
      .cons (holds_reference (by decide) patron) <|
      .cons (holds_email (by decide) email) <|
      .cons (holds_reference (by decide) book) <|
      .cons (holds_bounded (by decide) title) <|
      .cons (holds_free (by decide) _) <| .cons (holds_free (by decide) _) .nil) ?_ ?_ ?_
  · exact Or.inr (Or.inr ⟨borrowed, due, get_zip 7 (by decide) rfl (by decide),
      get_zip 8 (by decide) rfl (by decide), hdue⟩)
  · exact Or.inr (Or.inl (get_zip_none _ (by decide)))
  · exact Or.inl (get_zip_none _ (by decide))

theorem published_completed (returnedAt : UtcDateTime) (wasOverdue : Bool) :
    (AggregateEvent.loanCompleted
      { loan_id := loan.val, reservation_id := uuidText token
        reservation_generation := generation, patron_id := patron.val
        book_id := book.val, returned_at := .ofUtc returnedAt
        was_overdue := wasOverdue }).Published rt :=
  AggregateEvent.published_undated .loanCompleted rfl _
    (.cons (coerce_reference loan) <| .cons (coerce_uuid token) <| .cons rfl <|
      .cons (coerce_reference patron) <| .cons (coerce_reference book) <|
      .cons (coerce_utc returnedAt) <| .cons rfl .nil)
    (.cons (holds_reference (by decide) loan) <|
      .cons (holds_reservation (by decide) token) <|
      .cons (holds_positive (by decide) hgeneration) <|
      .cons (holds_reference (by decide) patron) <|
      .cons (holds_reference (by decide) book) <|
      .cons (holds_free (by decide) _) <| .cons (holds_free (by decide) _) .nil)
    (by decide) (by decide)

theorem published_cancelled (reason : BoundedText 500) :
    (AggregateEvent.loanCancelled
      { loan_id := loan.val, reservation_id := uuidText token
        reservation_generation := generation, patron_id := patron.val
        book_id := book.val, reason := reason.value }).Published rt :=
  AggregateEvent.published_undated .loanCancelled rfl _
    (.cons (coerce_reference loan) <| .cons (coerce_uuid token) <| .cons rfl <|
      .cons (coerce_reference patron) <| .cons (coerce_reference book) <|
      .cons (coerce_bounded reason) .nil)
    (.cons (holds_reference (by decide) loan) <|
      .cons (holds_reservation (by decide) token) <|
      .cons (holds_positive (by decide) hgeneration) <|
      .cons (holds_reference (by decide) patron) <|
      .cons (holds_reference (by decide) book) <|
      .cons (holds_bounded (by decide) reason) .nil)
    (by decide) (by decide)

end Catalog

theorem published_extended
    (loan patron book : Reference) {old new : UtcDateTime} (hdates : old < new) :
    (AggregateEvent.loanExtended
      { loan_id := loan.val, patron_id := patron.val, book_id := book.val
        old_due_date := .ofUtc old, new_due_date := .ofUtc new }).Published rt := by
  refine AggregateEvent.published_of_rules .loanExtended rfl _
    (.cons (coerce_reference loan) <| .cons (coerce_reference patron) <|
      .cons (coerce_reference book) <| .cons (coerce_utc old) <|
      .cons (coerce_utc new) .nil)
    (.cons (holds_reference (by decide) loan) <|
      .cons (holds_reference (by decide) patron) <|
      .cons (holds_reference (by decide) book) <|
      .cons (holds_free (by decide) _) <| .cons (holds_free (by decide) _) .nil) ?_ ?_ ?_
  · exact Or.inl (get_zip_none _ (by decide))
  · exact Or.inl (get_zip_none _ (by decide))
  · exact Or.inr (Or.inr ⟨old, new, get_zip 3 (by decide) rfl (by decide),
      get_zip 4 (by decide) rfl (by decide), hdates⟩)

theorem published_overdue
    (loan patron book : Reference) (email : EmailAddress) (title : BoundedText 100)
    (due : UtcDateTime) {days : ℤ} (hdays : 1 ≤ days) :
    (AggregateEvent.bookOverdue
      { loan_id := loan.val, patron_id := patron.val, patron_email := email.value
        book_id := book.val, book_title := title.value, due_date := .ofUtc due
        days_overdue := days }).Published rt :=
  AggregateEvent.published_undated .bookOverdue rfl _
    (.cons (coerce_reference loan) <| .cons (coerce_reference patron) <|
      .cons (coerce_email email) <| .cons (coerce_reference book) <|
      .cons (coerce_bounded title) <| .cons (coerce_utc due) <| .cons rfl .nil)
    (.cons (holds_reference (by decide) loan) <|
      .cons (holds_reference (by decide) patron) <|
      .cons (holds_email (by decide) email) <|
      .cons (holds_reference (by decide) book) <|
      .cons (holds_bounded (by decide) title) <|
      .cons (holds_free (by decide) _) <|
      .cons (holds_positive (by decide) hdays) .nil)
    (by decide) (by decide)

theorem fullName_strip_ne_nil (name : PatronName) :
    PyStr.strip name.fullName ≠ [] := by
  intro hnil
  have hall := (PyStr.strip_eq_nil_iff _).mp hnil
  have hne := name.first_name.nonempty
  rw [← name.first_name.folded] at hne
  obtain ⟨c, hc, hspace⟩ := PyStr.exists_not_isSpace_of_collapse_ne_nil hne
  rw [name.first_name.folded] at hc
  have htrue := hall c (by simp [PatronName.fullName, hc])
  rw [hspace] at htrue
  exact Bool.false_ne_true htrue

theorem tier_strip_ne_nil (tier : MembershipTier) :
    PyStr.strip tier.value ≠ [] := by
  cases tier <;> decide

theorem published_registered
    (patron : Reference) (email : EmailAddress) (name : PatronName)
    (tier : MembershipTier) :
    (AggregateEvent.patronRegistered
      { patron_id := patron.val, email := email.value, name := name.fullName
        membership_tier := tier.value }).Published rt :=
  AggregateEvent.published_undated .patronRegistered rfl _
    (.cons (coerce_reference patron) <| .cons (coerce_email email) <|
      .cons (coerce_str (fullName_strip_ne_nil name)) <|
      .cons (coerce_str (tier_strip_ne_nil tier)) .nil)
    (.cons (holds_reference (by decide) patron) <|
      .cons (holds_free (by decide) _) <| .cons (holds_free (by decide) _) <|
      .cons (holds_free (by decide) _) .nil)
    (by decide) (by decide)

theorem published_suspended (patron : Reference) (reason : BoundedText 500) :
    (AggregateEvent.patronSuspended
      { patron_id := patron.val, reason := reason.value }).Published rt :=
  AggregateEvent.published_undated .patronSuspended rfl _
    (.cons (coerce_reference patron) <| .cons (coerce_bounded reason) .nil)
    (.cons (holds_reference (by decide) patron) <|
      .cons (holds_bounded (by decide) reason) .nil)
    (by decide) (by decide)

theorem published_reinstated (patron : Reference) :
    (AggregateEvent.patronReinstated { patron_id := patron.val }).Published rt :=
  AggregateEvent.published_undated .patronReinstated rfl _
    (.cons (coerce_reference patron) .nil)
    (.cons (holds_reference (by decide) patron) .nil)
    (by decide) (by decide)

end Stored

end LibrarySystem
