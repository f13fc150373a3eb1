import LibrarySystem.Persistence.SessionRules

/-!
# Idempotency keys

The key of a request, the fingerprint of its command facts, and the receipt that a
keyed command commits together with its effect.  A later request with the key is
answered from the receipt.
-/

namespace LibrarySystem

/-- 8 to 128 characters of `[A-Za-z0-9][A-Za-z0-9._:-]*`. -/
def isIdempotencyKey (s : PyStr) : Bool :=
  decide (8 ≤ s.length) && isIdentity s

abbrev IdempotencyKey := {s : PyStr // isIdempotencyKey s = true}

/-- `IdempotencyKey(key) if key else None` -/
def IdempotencyKey.parse : Option PyStr → Except AppException (Option IdempotencyKey)
  | none | some [] => .ok none
  | some value =>
      if h : isIdempotencyKey (PyStr.strip value) = true then
        .ok (some ⟨PyStr.strip value, h⟩)
      else .error .invalidIdempotencyKey

/-- `command_fingerprint`; the text is ASCII, so encoding it never fails. -/
def commandFingerprint (rt : PythonRuntime) (values : List (PyStr × Json)) : PyStr :=
  let payload := Json.render rt.floatRepr .compact (Json.sortKeys (.obj values))
  rt.sha256 ((PyStr.encodeUtf8 payload).getD [])

/-- A result that is kept in a receipt: its mapping, with datetimes as
`_json_default` writes them, and what its class makes of a stored mapping, `none` for
an exception. -/
class Receipted (Result : Type) where
  response : Result → List (PyStr × Json)
  ofResponse : PythonRuntime → List (PyStr × Json) → Option Result

/-- `json.dumps(response, default=_json_default, sort_keys=True)` -/
def dumpResponse {Result : Type} [Receipted Result] (rt : PythonRuntime)
    (result : Result) : PyStr :=
  Json.render rt.floatRepr .default (Json.sortKeys (.obj (Receipted.response result)))

/-- `json.loads` and the constructor of the result. -/
def loadResponse {Result : Type} [Receipted Result] (rt : PythonRuntime)
    (payload : PyStr) : Option Result :=
  match Json.loads rt.parseFloat payload with
  | some (.obj members) => Receipted.ofResponse rt members
  | _ => none

namespace Response

variable (members : List (PyStr × Json))

/-- A keyword call accepts these names only. -/
def onlyNames (names : List PyStr) : Bool :=
  members.all fun member => names.contains member.1

def text (name : PyStr) : Option PyStr :=
  match Json.lookup name members with
  | some (.str value) => some value
  | _ => none

def flag (name : PyStr) : Option Bool :=
  match Json.lookup name members with
  | some (.bool value) => some value
  | _ => none

def int (name : PyStr) : Option ℤ :=
  match Json.lookup name members with
  | some (.int value) => some value
  | _ => none

def optionalText (name : PyStr) : Option (Option PyStr) :=
  match Json.lookup name members with
  | some (.str value) => some (some value)
  | some .null => some none
  | _ => none

/-- `datetime.fromisoformat`, as an instant. -/
def datetime (rt : PythonRuntime) (name : PyStr) : Option UtcDateTime :=
  match Json.lookup name members with
  | some (.str value) =>
      match rt.fromisoformat value with
      | some ⟨wall, some offset⟩ => (DateTime.astimezoneUtc wall offset).toOption
      | _ => none
  | _ => none

end Response

namespace Uow

variable {A Result : Type} [Receipted Result]

/-- The answer of an earlier request with the key. -/
def replay (rt : PythonRuntime) (scope : PyStr) (key : Option IdempotencyKey)
    (request_hash : PyStr) : Uow A (Option Result) :=
  match key with
  | none => pure none
  | some key => do
      let receipt ← getReceipt scope key.val
      match receipt with
      | none => pure none
      | some receipt =>
          if receipt.request_hash ≠ request_hash then
            raise (.idempotencyKeyConflict key.val (py "request fingerprint differs"))
          else
            match loadResponse rt receipt.response_payload with
            | none => raise .unreadableReceipt
            | some result => pure (some result)

/-- The receipt of this request. -/
def keepReceipt (rt : PythonRuntime) (scope : PyStr) (key : Option IdempotencyKey)
    (request_hash : PyStr) (result : Result) : Uow A Unit :=
  match key with
  | none => pure ()
  | some key => addReceipt scope key.val ⟨request_hash, dumpResponse rt result⟩

end Uow

/-! ## Rules -/

/-- The statement of the receipt, for a keyed request. -/
def receiptOf {Result : Type} [Receipted Result] (rt : PythonRuntime) (scope : PyStr)
    (key : Option IdempotencyKey) (request_hash : PyStr) (result : Result) :
    List Statement :=
  match key with
  | none => []
  | some key => [.insertReceipt scope key.val ⟨request_hash, dumpResponse rt result⟩]

/-- A receipt of the key with the same fingerprint was seen, and holds the result. -/
def Replayed {Result : Type} [Receipted Result] (rt : PythonRuntime)
    (known : Run.Knowledge Observation PyStr) (scope : PyStr)
    (key : Option IdempotencyKey) (request_hash : PyStr) (result : Result) : Prop :=
  ∃ given receipt, key = some given ∧
    (∃ seen ∈ known.seen,
      seen.database.command_receipts.lookup (scope, given.val) = some receipt) ∧
    receipt.request_hash = request_hash ∧
    loadResponse rt receipt.response_payload = some result

def UnitOfWork.keep {A : Type} (session : UnitOfWork A) (key : Option IdempotencyKey)
    (receipt : List Statement) : UnitOfWork A :=
  { session with
    statements := session.statements ++ receipt
    pending := session.pending ++ (key.map Subtype.val).toList }

theorem UnitOfWork.Shows.keep {A : Type} [Stored A] {session : UnitOfWork A} {piece : Piece}
    {key : Option IdempotencyKey} {receipt : List Statement}
    (hshows : session.Shows [piece]) :
    (session.keep key receipt).Shows
      [{ piece with others := piece.others ++ receipt }] := by
  rw [← List.nil_append [piece]] at hshows
  exact hshows.more rfl rfl rfl fun _ => rfl

namespace Uow

open Run (Spec Knowledge)

variable {A Result β : Type} [Receipted Result] {rt : PythonRuntime} {scope : PyStr}
  {key : Option IdempotencyKey} {request_hash : PyStr}
  {known : Knowledge Observation PyStr} {session : UnitOfWork A}

theorem reads_replay
    {value : Knowledge Observation PyStr → Option Result × UnitOfWork A → Prop}
    {error : Knowledge Observation PyStr → AppException → Prop}
    (hfresh : ∀ later, known.seen ⊆ later.seen → value later (none, session))
    (hreplayed : ∀ later result, Replayed rt later scope key request_hash result →
      value later (some result, session))
    (herror : ∀ later raised, error later raised) :
    (replay rt scope key request_hash session).Reads value error known := by
  cases key with
  | none => exact hfresh known (Set.Subset.refl _)
  | some given =>
      unfold replay
      apply Run.Reads.bind
      apply reads_getReceipt
      intro seen
      have hlater : known.seen ⊆ (known.look seen).seen := Set.subset_insert _ _
      dsimp only
      cases hreceipt : seen.database.command_receipts.lookup (scope, given.val) with
      | none => exact hfresh _ hlater
      | some receipt =>
          by_cases hhash : receipt.request_hash = request_hash
          · simp only [hhash, ne_eq, not_true_eq_false, if_false]
            cases hload : (loadResponse rt receipt.response_payload : Option Result) with
            | none => exact herror _ _
            | some result =>
                exact hreplayed _ result ⟨given, receipt, rfl,
                  ⟨seen, Set.mem_insert _ _, hreceipt⟩, hhash, hload⟩
          · simp only [ne_eq, hhash, not_false_eq_true, if_true]
            exact herror _ _

theorem meets_keepReceipt {spec : Spec Observation PyStr Batch AppException β}
    {result : Result} {rest : Unit → Uow A β} :
    Meets spec known session (keepReceipt rt scope key request_hash result >>= rest) ↔
      Meets spec known
        (session.keep key (receiptOf rt scope key request_hash result)) (rest ()) := by
  cases key with
  | none =>
      have hsame : session.keep none (receiptOf rt scope none request_hash result) =
          session := by
        simp [UnitOfWork.keep, receiptOf]
      rw [hsame]
      rfl
  | some given => rfl

end Uow

end LibrarySystem
