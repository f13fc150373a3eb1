import LibrarySystem.Python.Runtime

/-!
# Shared kernel

Domain exceptions with their messages, and the values every bounded context
builds on: references, identifiers, bounded text, e-mail addresses, UTC
timestamps and the identity of an event.  Each value type carries the check its
constructor makes, so the lemmas about the wire contract read their facts off
the types.
-/

namespace LibrarySystem

inductive CatalogException
  | bookAlreadyBorrowed (bookId : PyStr)
  | staleReservation (bookId reservationId : PyStr) (generation : ℤ)
      (operation : PyStr)
  | loanCorrelationMismatch (bookId loanId : PyStr) (detail : PyStr)
  | staleLoanCompletion (bookId loanId : PyStr)
  | borrowerEmailRequired
  | invalidCatalogReference (field : PyStr)
  | invalidReservationReason
  | invalidBorrowPeriod
  | invalidCatalogState (detail : PyStr)
deriving DecidableEq

inductive LendingException
  | loanNotActive (loanId operation : PyStr)
  | loanNotOverdue (loanId : PyStr)
  | cannotExtendOverdueLoan (loanId : PyStr)
  | invalidLoanId
  | invalidReservationId
  | invalidLoanDuration (days : ℤ)
  | invalidLoanExtension (days : ℤ)
  | invalidLoanReturnDate (loanId : PyStr)
  | invalidLoanReference (field : PyStr)
  | invalidLoanState (detail : PyStr)
  | invalidCancellationReason
  | invalidReservationGeneration (generation : ℤ)
deriving DecidableEq

inductive PatronException
  | patronAlreadySuspended (patronId : PyStr)
  | patronNotSuspended (patronId : PyStr)
  | invalidTierUpgrade (current requested : PyStr)
  | invalidPatronId
  | invalidPatronName (field detail : PyStr)
  | invalidSuspensionReason
  | invalidPatronState (detail : PyStr)
deriving DecidableEq

/-- What a domain operation can raise. -/
inductive Raised
  | python (error : PyException)
  | validation (message : PyStr)
  | catalog (error : CatalogException)
  | lending (error : LendingException)
  | patron (error : PatronException)
deriving DecidableEq

namespace CatalogException

def message : CatalogException → PyStr
  | bookAlreadyBorrowed bookId =>
      py "Book with id " ++ bookId ++ py " is already borrowed"
  | staleReservation bookId reservationId generation operation =>
      py "Cannot " ++ operation ++ py " book " ++ bookId ++ py ": reservation " ++
        reservationId ++ py "/" ++ Json.renderInt generation ++ py " is stale"
  | loanCorrelationMismatch bookId loanId detail =>
      py "Cannot return book " ++ bookId ++ py ": loan " ++ loanId ++
        py " does not match the current borrow (" ++ detail ++ py ")"
  | staleLoanCompletion bookId loanId =>
      py "Cannot return book " ++ bookId ++ py ": loan " ++ loanId ++
        py " does not match the current borrow"
  | borrowerEmailRequired => py "Borrower email is required"
  | invalidCatalogReference field => field ++ py " has an invalid value"
  | invalidReservationReason =>
      py "Reservation release reason must be between 1 and 500 characters"
  | invalidBorrowPeriod =>
      py "Borrow due date must be after the borrow timestamp"
  | invalidCatalogState detail => py "Invalid catalog book state: " ++ detail

end CatalogException

namespace LendingException

def message : LendingException → PyStr
  | loanNotActive loanId operation =>
      py "Cannot " ++ operation ++ py ": Loan " ++ loanId ++ py " is not active"
  | loanNotOverdue loanId => py "Loan " ++ loanId ++ py " is not past its due date"
  | cannotExtendOverdueLoan loanId =>
      py "Cannot extend loan " ++ loanId ++ py ": loan is overdue"
  | invalidLoanId => py "LoanId cannot be empty"
  | invalidReservationId => py "ReservationId must be a valid UUID"
  | invalidLoanDuration days =>
      py "Loan duration must be positive (received " ++ Json.renderInt days ++
        py " days)"
  | invalidLoanExtension days =>
      py "Loan extension must be positive (received " ++ Json.renderInt days ++
        py " days)"
  | invalidLoanReturnDate loanId =>
      py "Loan " ++ loanId ++ py " cannot be returned before it was borrowed"
  | invalidLoanReference field => field ++ py " has an invalid value"
  | invalidLoanState detail => py "Invalid loan state: " ++ detail
  | invalidCancellationReason =>
      py "Cancellation reason must be between 1 and 500 characters"
  | invalidReservationGeneration generation =>
      py "Reservation generation must be positive (received " ++
        Json.renderInt generation ++ py ")"

end LendingException

namespace PatronException

def message : PatronException → PyStr
  | patronAlreadySuspended patronId =>
      py "Patron " ++ patronId ++ py " is already suspended"
  | patronNotSuspended patronId => py "Patron " ++ patronId ++ py " is not suspended"
  | invalidTierUpgrade current requested =>
      py "Cannot upgrade from " ++ current ++ py " to " ++ requested ++
        py ": can only upgrade to a higher tier"
  | invalidPatronId => py "PatronId cannot be empty"
  | invalidPatronName field detail => field ++ py " " ++ detail
  | invalidSuspensionReason =>
      py "Suspension reason must be between 1 and 500 characters"
  | invalidPatronState detail => py "Invalid patron state: " ++ detail

end PatronException

/-! ## Timestamps -/

/-- `require_utc_datetime` -/
def requireUtcDatetime (value : DateTime) (fieldName : PyStr) :
    Except Raised UtcDateTime :=
  match value.utcoffset with
  | none => .error (.validation (fieldName ++ py " must include a timezone"))
  | some offset => (DateTime.astimezoneUtc value.wall offset).mapError .python

@[simp] theorem requireUtcDatetime_ofUtc (t : UtcDateTime) (fieldName : PyStr) :
    requireUtcDatetime (.ofUtc t) fieldName = .ok t := by
  unfold requireUtcDatetime
  simp only [DateTime.ofUtc]
  rw [DateTime.astimezoneUtc_zero]
  rfl

/-! ## References and identifiers -/

def isReferenceTail (c : CodePoint) : Bool :=
  c.isAlphanumeric || c.val == 0x5F || c.val == 0x2D

/-- `[A-Za-z0-9][A-Za-z0-9_-]*`, at most 64 characters. -/
def isReference (s : PyStr) : Bool :=
  decide (s.length ≤ 64) &&
    PyStr.matchesHeadTail CodePoint.isAlphanumeric isReferenceTail s

abbrev Reference := {s : PyStr // isReference s = true}

/-- `_normalize_reference`, with the exception of its context. -/
def normalizeReference (invalid : Raised) (value : PyStr) :
    Except Raised Reference :=
  let normalized := PyStr.strip value
  if h : isReference normalized = true then .ok ⟨normalized, h⟩
  else .error invalid

/-- `ReservationId(value)`, with the exception of its context. -/
def parseReservationId (rt : PythonRuntime) (invalid : Raised) (value : PyStr) :
    Except Raised Uuid :=
  match rt.parseUuid value with
  | some uuid => .ok uuid
  | none => .error invalid

section ReservationId

variable {rt : PythonRuntime} {invalid : Raised} {value other : PyStr} {token : Uuid}

theorem parseReservationId_eq_ok_iff :
    parseReservationId rt invalid value = .ok token ↔ rt.parseUuid value = some token := by
  unfold parseReservationId
  split <;> simp_all

theorem parseReservationId_uuidText :
    parseReservationId rt invalid (uuidText token) = .ok token :=
  parseReservationId_eq_ok_iff.mpr (rt.parseUuid_uuidText token)

theorem parseReservationId_congr (hparse : rt.parseUuid value = rt.parseUuid other) :
    parseReservationId rt invalid value = parseReservationId rt invalid other := by
  unfold parseReservationId
  rw [hparse]

end ReservationId

theorem isReferenceTail_of_isHexDigit
    {c : CodePoint} (hc : isHexDigit c = true ∨ isHyphen c = true) :
    isReferenceTail c = true := by
  simp only [isHexDigit, isHyphen, isReferenceTail, CodePoint.isAlphanumeric,
    CodePoint.isLetter, CodePoint.isUpper, CodePoint.isLower, CodePoint.isDigit,
    Bool.or_eq_true, Bool.and_eq_true, decide_eq_true_eq, beq_iff_eq] at hc ⊢
  omega

theorem uuidText_isReference (u : Uuid) : isReference (uuidText u) = true := by
  have hmatch := uuidText_matches u
  have hlength := length_of_matchesUuidPattern hmatch
  have hall := fun c hc => isReferenceTail_of_isHexDigit
    (mem_of_matchesUuidPattern hmatch (c := c) hc)
  cases htext : uuidText u with
  | nil => rw [htext] at hlength; simp [uuidShape] at hlength
  | cons c rest =>
      rw [htext] at hmatch hlength hall
      have hhead : c.isAlphanumeric = true := by
        simp only [uuidShape, List.replicate, List.cons_append,
          matchesUuidPattern, Bool.and_eq_true] at hmatch
        have hdigit := hmatch.1
        simp only [isHexDigit, CodePoint.isAlphanumeric, CodePoint.isLetter,
          CodePoint.isUpper, CodePoint.isLower, CodePoint.isDigit,
          Bool.or_eq_true, Bool.and_eq_true, decide_eq_true_eq, Bool.false_eq_true,
          if_false] at hdigit ⊢
        omega
      have hshort : (c :: rest).length ≤ 64 := by
        rw [hlength]
        decide
      simp only [isReference, PyStr.matchesHeadTail, hhead, Bool.true_and,
        Bool.and_eq_true, decide_eq_true_eq, List.all_eq_true]
      exact ⟨hshort, fun d hd => hall d (by simp [hd])⟩

def uuidReference (u : Uuid) : Reference := ⟨uuidText u, uuidText_isReference u⟩

/-- The constructor shared by `BookId`, `LoanId` and `PatronId`: a reference
that is put in canonical form when it is a UUID. -/
def normalizeIdentifier (rt : PythonRuntime) (empty invalid : Raised)
    (value : PyStr) : Except Raised Reference :=
  let stripped := PyStr.strip value
  if stripped = [] then .error empty
  else if h : isReference stripped = true then
    match rt.parseUuid stripped with
    | some uuid => .ok (uuidReference uuid)
    | none => .ok ⟨stripped, h⟩
  else .error invalid

theorem Reference.not_isSpace
    (r : Reference) {c : CodePoint} (hc : c ∈ r.val) :
    c.isSpace = false := by
  have hmatch := r.property
  simp only [isReference, Bool.and_eq_true] at hmatch
  have htail := PyStr.matchesHeadTail_mem hmatch.2
    (fun d hd => by simp [isReferenceTail, hd]) hc
  simp only [isReferenceTail, Bool.or_eq_true, beq_iff_eq] at htail
  rcases htail with (halnum | hunderscore) | hhyphen
  · exact CodePoint.isSpace_eq_false_of_isAlphanumeric halnum
  · simp [CodePoint.isSpace, hunderscore]
  · simp [CodePoint.isSpace, hhyphen]

theorem Reference.ne_nil (r : Reference) : r.val ≠ [] := by
  have hmatch := r.property
  simp only [isReference, Bool.and_eq_true] at hmatch
  exact PyStr.ne_nil_of_matchesHeadTail hmatch.2

@[simp] theorem Reference.strip_val (r : Reference) : PyStr.strip r.val = r.val :=
  PyStr.strip_eq_self fun _ hc => r.not_isSpace hc

/-! ## Bounded text -/

/-- Whitespace-folded, non-empty text of bounded length. -/
structure BoundedText (maximum : ℕ) where
  value : PyStr
  folded : PyStr.collapse value = value
  nonempty : value ≠ []
  bounded : value.length ≤ maximum
deriving DecidableEq

/-- `" ".join(str(value).split())` followed by the two length checks. -/
def foldText (maximum : ℕ) (empty tooLong : Raised) (value : PyStr) :
    Except Raised (BoundedText maximum) :=
  if hempty : PyStr.collapse value = [] then .error empty
  else if hlong : (PyStr.collapse value).length ≤ maximum then
    .ok ⟨PyStr.collapse value, PyStr.collapse_collapse value, hempty, hlong⟩
  else .error tooLong

theorem foldText_value
    {maximum : ℕ} {empty tooLong : Raised} {value : PyStr}
    {text : BoundedText maximum}
    (hfold : foldText maximum empty tooLong value = .ok text) :
    text.value = PyStr.collapse value := by
  unfold foldText at hfold
  split_ifs at hfold
  simp only [Except.ok.injEq] at hfold
  rw [← hfold]

theorem BoundedText.strip_ne_nil {maximum : ℕ} (text : BoundedText maximum) :
    PyStr.strip text.value ≠ [] := by
  have hne := text.nonempty
  rw [← text.folded] at hne ⊢
  exact PyStr.strip_collapse_ne_nil hne

/-! ## E-mail addresses -/

def isEmailLocal (c : CodePoint) : Bool :=
  c.isAlphanumeric || c.val == 0x2E || c.val == 0x5F || c.val == 0x25 ||
    c.val == 0x2B || c.val == 0x2D

def isEmailDomain (c : CodePoint) : Bool :=
  c.isAlphanumeric || c.val == 0x2E || c.val == 0x2D

/-- `[A-Za-z0-9._%+-]+@[A-Za-z0-9.-]+[.][A-Za-z]{2,}` -/
def isEmail (s : PyStr) : Bool :=
  match s.dropWhile isEmailLocal with
  | at_ :: domain =>
      at_.val == 0x40 && s.takeWhile isEmailLocal != [] &&
        domain.all isEmailDomain &&
        match domain.reverse.dropWhile CodePoint.isLetter with
        | dot :: host =>
            dot.val == 0x2E && host != [] &&
              2 ≤ (domain.reverse.takeWhile CodePoint.isLetter).length
        | [] => false
  | [] => false

structure EmailAddress where
  value : PyStr
  wellFormed : isEmail value = true
  bounded : value.length ≤ 254
  lowerCase : value.all (fun c => !c.isUpper) = true
deriving DecidableEq

/-- `EmailAddress(value)` -/
def EmailAddress.parse (rt : PythonRuntime) (value : PyStr) :
    Except Raised EmailAddress :=
  if h : isEmail (rt.lower (PyStr.strip value)) = true ∧
      (rt.lower (PyStr.strip value)).length ≤ 254 then
    .ok ⟨rt.lower (PyStr.strip value), h.1, h.2, by
      simpa using rt.lower_not_upper (PyStr.strip value)⟩
  else
    .error (.validation
      (py "Invalid email address: " ++ rt.lower (PyStr.strip value)))

theorem EmailAddress.parse_value
    {rt : PythonRuntime} {value : PyStr} {email : EmailAddress}
    (hparse : EmailAddress.parse rt value = .ok email) :
    email.value = rt.lower (PyStr.strip value) := by
  unfold EmailAddress.parse at hparse
  split at hparse
  · simp only [Except.ok.injEq] at hparse
    rw [← hparse]
  · simp at hparse

theorem isEmail_mem
    {s : PyStr} (hs : isEmail s = true) {c : CodePoint} (hc : c ∈ s) :
    isEmailLocal c = true ∨ c.val = 0x40 := by
  unfold isEmail at hs
  rw [← List.takeWhile_append_dropWhile (p := isEmailLocal) (l := s)] at hc
  rcases List.mem_append.mp hc with hlocal | hrest
  · exact Or.inl (List.mem_takeWhile_imp hlocal)
  · cases hdrop : s.dropWhile isEmailLocal with
    | nil => rw [hdrop] at hrest; simp at hrest
    | cons d domain =>
        rw [hdrop] at hs hrest
        simp only [Bool.and_eq_true, beq_iff_eq, List.all_eq_true] at hs
        rcases List.mem_cons.mp hrest with rfl | hmem
        · exact Or.inr hs.1.1.1
        · have hdomain := hs.1.2 c hmem
          simp only [isEmailDomain, isEmailLocal, Bool.or_eq_true] at hdomain ⊢
          tauto

theorem isEmail_ascii
    {s : PyStr} (hs : isEmail s = true) {c : CodePoint} (hc : c ∈ s) :
    c.isAscii = true ∧ c.isSpace = false := by
  rcases isEmail_mem hs hc with hlocal | hat
  · simp only [isEmailLocal, Bool.or_eq_true, beq_iff_eq] at hlocal
    simp only [CodePoint.isAscii, decide_eq_true_eq]
    rcases hlocal with ((((halnum | h) | h) | h) | h) | h
    · exact ⟨by simpa [CodePoint.isAscii] using
          CodePoint.isAscii_of_isAlphanumeric halnum,
        CodePoint.isSpace_eq_false_of_isAlphanumeric halnum⟩
    all_goals exact ⟨by omega, by simp [CodePoint.isSpace, h]⟩
  · exact ⟨by simp [CodePoint.isAscii, hat], by simp [CodePoint.isSpace, hat]⟩

theorem EmailAddress.isAscii_value (email : EmailAddress) :
    PyStr.isAscii email.value = true := by
  simp only [PyStr.isAscii, List.all_eq_true]
  exact fun _ hc => (isEmail_ascii email.wellFormed hc).1

theorem EmailAddress.asciiLower_value (email : EmailAddress) :
    email.value.map CodePoint.asciiLower = email.value := by
  have hlower := email.lowerCase
  simp only [List.all_eq_true, Bool.not_eq_true'] at hlower
  calc
    email.value.map CodePoint.asciiLower = email.value.map id :=
      List.map_congr_left fun c hc => CodePoint.asciiLower_eq_self (hlower c hc)
    _ = email.value := List.map_id _

/-- The wire contract's normalisation check holds of every address. -/
theorem EmailAddress.normalized (rt : PythonRuntime) (email : EmailAddress) :
    rt.lower (PyStr.strip email.value) = email.value := by
  have hstrip : PyStr.strip email.value = email.value :=
    PyStr.strip_eq_self fun _ hc => (isEmail_ascii email.wellFormed hc).2
  rw [hstrip, rt.lower_ascii _ email.isAscii_value, email.asciiLower_value]

/-! ## Event identity -/

def isIdentityTail (c : CodePoint) : Bool :=
  c.isAlphanumeric || c.val == 0x2E || c.val == 0x5F || c.val == 0x3A ||
    c.val == 0x2D

/-- 1 to 128 characters of `[A-Za-z0-9][A-Za-z0-9._:-]*`. -/
def isIdentity (s : PyStr) : Bool :=
  decide (1 ≤ s.length) && decide (s.length ≤ 128) &&
    PyStr.matchesHeadTail CodePoint.isAlphanumeric isIdentityTail s

abbrev EventIdentity := {s : PyStr // isIdentity s = true}

/-- `_event_identity` on a string. -/
def eventIdentity (value : PyStr) (fieldName : PyStr) :
    Except Raised EventIdentity :=
  let normalized := PyStr.strip value
  if h : isIdentity normalized = true then .ok ⟨normalized, h⟩
  else
    .error (.validation (fieldName ++ py " must be 1-128 URL/log-safe characters"))

theorem EventIdentity.mem
    (identity : EventIdentity) {c : CodePoint} (hc : c ∈ identity.val) :
    c.isAscii = true ∧ c.isSpace = false := by
  have hmatch := identity.property
  simp only [isIdentity, Bool.and_eq_true] at hmatch
  have htail := PyStr.matchesHeadTail_mem hmatch.2
    (fun d hd => by simp [isIdentityTail, hd]) hc
  simp only [isIdentityTail, Bool.or_eq_true, beq_iff_eq] at htail
  rcases htail with (((halnum | h) | h) | h) | h
  · exact ⟨CodePoint.isAscii_of_isAlphanumeric halnum,
      CodePoint.isSpace_eq_false_of_isAlphanumeric halnum⟩
  all_goals exact ⟨by simp [CodePoint.isAscii, h], by simp [CodePoint.isSpace, h]⟩

@[simp] theorem EventIdentity.strip_val (identity : EventIdentity) :
    PyStr.strip identity.val = identity.val :=
  PyStr.strip_eq_self fun _ hc => (identity.mem hc).2

theorem EventIdentity.ne_nil (identity : EventIdentity) : identity.val ≠ [] := by
  have hmatch := identity.property
  simp only [isIdentity, Bool.and_eq_true] at hmatch
  exact PyStr.ne_nil_of_matchesHeadTail hmatch.2

@[simp] theorem eventIdentity_val (identity : EventIdentity) (fieldName : PyStr) :
    eventIdentity identity.val fieldName = .ok identity := by
  have hvalid : isIdentity (PyStr.strip identity.val) = true := by
    rw [EventIdentity.strip_val]
    exact identity.property
  unfold eventIdentity
  simp only [hvalid, dif_pos]
  exact congrArg Except.ok (Subtype.ext (EventIdentity.strip_val identity))

end LibrarySystem
