import LibrarySystem.Application.Lineage
import LibrarySystem.Application.StoredResponses

/-!
# Requests with an idempotency key

Every keyed request stores its receipt in the batch of its effect, under a primary key.
However its repetitions interleave, one of them takes effect at most, and those that
answer give its answer.
-/

namespace LibrarySystem

open Run (Knowledge)

/-- The result of a request, whatever its command. -/
inductive Reply
  | addBook (result : AddBookResult)
  | borrowBook (result : BorrowBookResult)
  | returnLoan (result : ReturnLoanResult)
  | extendLoan (result : ExtendLoanResult)
  | patron (snapshot : PatronSnapshot)
  | other

/-- What a keyed request stores its receipt under, and the fingerprint in it. -/
structure RequestToken where
  scope : PyStr
  key : IdempotencyKey
  request_hash : PyStr
deriving DecidableEq

namespace Request

def reply : (request : Request) → request.Result → Reply
  | addBook _, result => .addBook result
  | circulation (.borrowBook _), result => .borrowBook result
  | circulation (.returnLoan _), result => .returnLoan result
  | circulation (.extendLoan _), result => .extendLoan result
  | circulation (.confirmBookBorrow _), _ | circulation (.releaseBookReservation _), _
  | circulation (.releaseExpiredReservations _), _ | circulation (.returnBook _), _
  | circulation (.createLoan _), _ | circulation (.cancelLoan _), _ => .other
  | registerPatron _, snapshot | suspendPatron _, snapshot | reinstatePatron _, snapshot
  | upgradePatronTier _, snapshot => .patron snapshot

/-- The key of a request and the fingerprint of its facts, when both can be computed. -/
def token (rt : PythonRuntime) : Request → Option RequestToken
  | addBook command => do
      let title ← (Book.parseTitle command.title).toOption
      let author ← (Book.parseAuthor command.author).toOption
      let key ← (IdempotencyKey.parse command.idempotency_key).toOption
      key.map fun key => ⟨AddBookHandler.scope, key,
        commandFingerprint rt (AddBookHandler.facts title author)⟩
  | circulation (.borrowBook command) => do
      let key ← (IdempotencyKey.parse command.idempotency_key).toOption
      let email ← (EmailAddress.parse rt command.borrower_email).toOption
      key.map fun key => ⟨BorrowBookHandler.scope, key,
        commandFingerprint rt (BorrowBookHandler.facts command email)⟩
  | circulation (.returnLoan command) => do
      let key ← (IdempotencyKey.parse command.idempotency_key).toOption
      key.map fun key => ⟨ReturnLoanHandler.scope, key,
        commandFingerprint rt (ReturnLoanHandler.facts command)⟩
  | circulation (.extendLoan command) => do
      let key ← (IdempotencyKey.parse command.idempotency_key).toOption
      key.map fun key => ⟨ExtendLoanHandler.scope, key,
        commandFingerprint rt (ExtendLoanHandler.facts command)⟩
  | registerPatron command => do
      let name ← (PatronName.parse command.first_name command.last_name).toOption
      let email ← (EmailAddress.parse rt command.email).toOption
      let tier ← (MembershipTier.parse rt command.membership_tier).toOption
      let key ← (IdempotencyKey.parse command.idempotency_key).toOption
      key.map fun key => ⟨RegisterPatronHandler.scope, key,
        commandFingerprint rt (RegisterPatronHandler.facts name email tier)⟩
  | suspendPatron command => do
      let key ← (IdempotencyKey.parse command.idempotency_key).toOption
      key.map fun key => ⟨SuspendPatronHandler.scope, key,
        commandFingerprint rt (SuspendPatronHandler.facts command)⟩
  | reinstatePatron command => do
      let key ← (IdempotencyKey.parse command.idempotency_key).toOption
      key.map fun key => ⟨ReinstatePatronHandler.scope, key,
        commandFingerprint rt (ReinstatePatronHandler.facts command)⟩
  | upgradePatronTier command => do
      let tier ← (MembershipTier.parse rt command.new_tier).toOption
      let key ← (IdempotencyKey.parse command.idempotency_key).toOption
      key.map fun key => ⟨UpgradePatronTierHandler.scope, key,
        commandFingerprint rt (UpgradePatronTierHandler.facts command tier)⟩
  | _ => none

end Request

namespace Reply

/-- The payload of the receipt. -/
def dump (rt : PythonRuntime) : Reply → PyStr
  | addBook result => dumpResponse rt result
  | borrowBook result => dumpResponse rt result
  | returnLoan result => dumpResponse rt result
  | extendLoan result => dumpResponse rt result
  | patron snapshot => dumpResponse rt snapshot
  | other => []

/-- What the handler of a scope makes of a payload. -/
def load (rt : PythonRuntime) (scope payload : PyStr) : Option Reply :=
  if scope = AddBookHandler.scope then (loadResponse rt payload).map addBook
  else if scope = BorrowBookHandler.scope then (loadResponse rt payload).map borrowBook
  else if scope = ReturnLoanHandler.scope then (loadResponse rt payload).map returnLoan
  else if scope = ExtendLoanHandler.scope then (loadResponse rt payload).map extendLoan
  else (loadResponse rt payload).map patron

def Plain : Reply → Prop
  | addBook result => Restorable.Plain result
  | borrowBook result => Restorable.Plain result
  | returnLoan result => Restorable.Plain result
  | extendLoan result => Restorable.Plain result
  | patron snapshot => Restorable.Plain snapshot
  | other => True

/-- The scopes whose handlers give replies of this kind. -/
def scopes : Reply → List PyStr
  | addBook _ => [AddBookHandler.scope]
  | borrowBook _ => [BorrowBookHandler.scope]
  | returnLoan _ => [ReturnLoanHandler.scope]
  | extendLoan _ => [ExtendLoanHandler.scope]
  | patron _ => [RegisterPatronHandler.scope, SuspendPatronHandler.scope,
      ReinstatePatronHandler.scope, UpgradePatronTierHandler.scope]
  | other => []

/-- What is stored is read back by the handlers of its scope. -/
theorem load_dump (rt : PythonRuntime) {reply : Reply} {scope : PyStr}
    (hscope : scope ∈ reply.scopes) (hplain : reply.Plain) :
    load rt scope (reply.dump rt) = some reply := by
  cases reply with
  | addBook result =>
      rw [List.mem_singleton.mp hscope]
      have hload := loadResponse_dumpResponse rt hplain
      simp only [load, dump, if_true, hload, Option.map_some]
  | borrowBook result =>
      rw [List.mem_singleton.mp hscope]
      have hload := loadResponse_dumpResponse rt hplain
      have hfirst : BorrowBookHandler.scope ≠ AddBookHandler.scope := by decide
      simp only [load, dump, if_true, if_neg hfirst, hload, Option.map_some]
  | returnLoan result =>
      rw [List.mem_singleton.mp hscope]
      have hload := loadResponse_dumpResponse rt hplain
      have hfirst : ReturnLoanHandler.scope ≠ AddBookHandler.scope := by decide
      have hsecond : ReturnLoanHandler.scope ≠ BorrowBookHandler.scope := by decide
      simp only [load, dump, if_true, if_neg hfirst, if_neg hsecond, hload, Option.map_some]
  | extendLoan result =>
      rw [List.mem_singleton.mp hscope]
      have hload := loadResponse_dumpResponse rt hplain
      have hfirst : ExtendLoanHandler.scope ≠ AddBookHandler.scope := by decide
      have hsecond : ExtendLoanHandler.scope ≠ BorrowBookHandler.scope := by decide
      have hthird : ExtendLoanHandler.scope ≠ ReturnLoanHandler.scope := by decide
      simp only [load, dump, if_true, if_neg hfirst, if_neg hsecond, if_neg hthird, hload,
        Option.map_some]
  | patron snapshot =>
      have hload := loadResponse_dumpResponse rt hplain
      have hother : scope ≠ AddBookHandler.scope ∧ scope ≠ BorrowBookHandler.scope ∧
          scope ≠ ReturnLoanHandler.scope ∧ scope ≠ ExtendLoanHandler.scope := by
        revert scope
        simp only [scopes]
        decide
      simp only [load, dump, if_neg hother.1, if_neg hother.2.1, if_neg hother.2.2.1,
        if_neg hother.2.2.2, hload, Option.map_some]
  | other => cases hscope

end Reply

/-- The receipt that a keyed request commits with this reply. -/
def RequestToken.receipt (rt : PythonRuntime) (token : RequestToken) (reply : Reply) :
    CommandReceipt :=
  ⟨token.request_hash, reply.dump rt⟩

section Receipts

variable {rt : PythonRuntime} {request : Request} {token : RequestToken}
  {known : Knowledge Observation PyStr} {batch : Batch}

theorem Request.scope_mem (htoken : request.token rt = some token) (value : request.Result) :
    token.scope ∈ (request.reply value).scopes := by
  cases request with
  | circulation command =>
      cases command with
      | borrowBook | returnLoan | extendLoan =>
          simp only [Request.token, Option.bind_eq_bind, Option.bind_eq_some_iff,
            Option.map_eq_some_iff] at htoken
          grind [Request.reply, Reply.scopes]
      | _ => cases htoken
  | _ =>
      simp only [Request.token, Option.bind_eq_bind, Option.bind_eq_some_iff,
        Option.map_eq_some_iff] at htoken
      grind [Request.reply, Reply.scopes]

theorem Batch.Writes.mem {piece : Piece} {statement : Statement}
    (hwrites : batch.Writes rt [piece]) (hmem : statement ∈ piece.others) :
    statement ∈ batch.statements := by
  obtain ⟨_, _, _, -, -, rfl⟩ := hwrites
  simp [Piece.statements, hmem]

theorem receiptOf_mem {Result : Type} [Receipted Result] {scope : PyStr}
    {key : Option IdempotencyKey} {given : IdempotencyKey} {request_hash : PyStr}
    {result : Result} (hkey : key = some given) :
    Statement.insertReceipt scope given.val ⟨request_hash, dumpResponse rt result⟩ ∈
      receiptOf rt scope key request_hash result := by
  subst key
  exact List.mem_singleton_self _

theorem PatronPolicyChange.receipt_mem {scope patron_id : PyStr} {facts : List (PyStr × Json)}
    {transition : Patron → Except Raised (Patron × List AggregateEvent)}
    {key : Except AppException (Option IdempotencyKey)} {given : IdempotencyKey}
    {value : PatronSnapshot} (hkey : key.toOption.join = some given)
    (hcommits : (PatronPolicyChange.spec rt scope patron_id facts transition key).commits
      known batch value) :
    Statement.insertReceipt scope given.val
      ⟨commandFingerprint rt facts, dumpResponse rt value⟩ ∈ batch.statements := by
  obtain ⟨found, _, _, _, _, _, hfound, -, -, -, -, -, hwrites⟩ := hcommits
  rw [hfound] at hkey
  exact hwrites.mem (receiptOf_mem hkey)

/-- A keyed request stores its receipt in every batch. -/
theorem Request.commits_receipt {value : request.Result}
    (hcommits : (request.spec rt).commits known batch value)
    (htoken : request.token rt = some token) :
    Statement.insertReceipt token.scope token.key.val
      (token.receipt rt (request.reply value)) ∈ batch.statements := by
  cases request with
  | addBook command =>
      obtain ⟨key, title, author, _, _, hkey, htitle, hauthor, -, hwrites⟩ := hcommits
      simp only [Request.token, htitle, hauthor, hkey, Except.toOption, Option.bind_eq_bind,
        Option.bind_some, Option.map_eq_some_iff] at htoken
      obtain ⟨given, hgiven, rfl⟩ := htoken
      exact hwrites.mem (receiptOf_mem hgiven)
  | registerPatron command =>
      obtain ⟨name, email, tier, key, _, _, _, _, _, hname, hemail, htier, hkey, -, -,
        hwrites⟩ := hcommits
      simp only [Request.token, hname, hemail, htier, hkey, Except.toOption,
        Option.bind_eq_bind, Option.bind_some, Option.map_eq_some_iff] at htoken
      obtain ⟨given, hgiven, rfl⟩ := htoken
      exact hwrites.mem (receiptOf_mem hgiven)
  | suspendPatron command | reinstatePatron command =>
      simp only [Request.token, Option.bind_eq_bind, Option.bind_eq_some_iff,
        Option.map_eq_some_iff] at htoken
      obtain ⟨key, hkey, given, rfl, rfl⟩ := htoken
      exact PatronPolicyChange.receipt_mem (by rw [hkey]; rfl) hcommits
  | upgradePatronTier command =>
      obtain ⟨tier, htier, hcommits⟩ := hcommits
      have hsome : (MembershipTier.parse rt command.new_tier).toOption = some tier := by
        rw [htier]
        rfl
      simp only [Request.token, hsome, Option.bind_eq_bind, Option.bind_some,
        Option.bind_eq_some_iff, Option.map_eq_some_iff] at htoken
      obtain ⟨key, hkey, given, rfl, rfl⟩ := htoken
      exact PatronPolicyChange.receipt_mem (by rw [hkey]; rfl) hcommits
  | circulation command =>
      cases command with
      | borrowBook command =>
          obtain ⟨key, email, _, _, _, _, _, _, _, _, _, hkey, hemail, -, -, -, -, -,
            hwrites⟩ := hcommits
          simp only [Request.token, hkey, hemail, Except.toOption, Option.bind_eq_bind,
            Option.bind_some, Option.map_eq_some_iff] at htoken
          obtain ⟨given, hgiven, rfl⟩ := htoken
          exact hwrites.mem (List.mem_cons_of_mem _ (receiptOf_mem hgiven))
      | extendLoan command =>
          obtain ⟨key, _, _, _, _, _, _, hkey, -, -, -, hwrites⟩ := hcommits
          simp only [Request.token, hkey, Except.toOption, Option.bind_eq_bind,
            Option.bind_some, Option.map_eq_some_iff] at htoken
          obtain ⟨given, hgiven, rfl⟩ := htoken
          exact hwrites.mem (receiptOf_mem hgiven)
      | returnLoan command =>
          obtain ⟨key, _, _, _, _, _, _, _, hkey, -, -, -, -,
            ⟨-, _, hwrites⟩ | ⟨-, other, hother, rfl⟩⟩ := hcommits
          · simp only [Request.token, hkey, Except.toOption, Option.bind_eq_bind,
              Option.bind_some, Option.map_eq_some_iff] at htoken
            obtain ⟨given, hgiven, rfl⟩ := htoken
            exact hwrites.mem (receiptOf_mem hgiven)
          · simp only [Request.token, hkey, Except.toOption, Option.bind_eq_bind,
              Option.bind_some, Option.map_eq_some_iff] at htoken
            obtain ⟨given, hgiven, rfl⟩ := htoken
            rw [hother, Option.some.injEq] at hgiven
            subst other
            exact receiptOf_mem rfl
      | _ => cases htoken

/-- The receipt that an answer was read from. -/
def RequestToken.Answers (rt : PythonRuntime) (known : Knowledge Observation PyStr)
    (token : RequestToken) (reply : Reply) : Prop :=
  ∃ receipt, (∃ seen ∈ known.seen,
      seen.database.command_receipts.lookup (token.scope, token.key.val) = some receipt) ∧
    receipt.request_hash = token.request_hash ∧
    Reply.load rt token.scope receipt.response_payload = some reply

theorem Replayed.answers {Result : Type} [Receipted Result] {scope request_hash : PyStr}
    {key : Option IdempotencyKey} {given : IdempotencyKey} {result : Result}
    {reply : Result → Reply} (hreplayed : Replayed rt known scope key request_hash result)
    (hkey : key = some given)
    (hload : ∀ payload, Reply.load rt scope payload =
      (loadResponse rt payload : Option Result).map reply) :
    RequestToken.Answers rt known ⟨scope, given, request_hash⟩ (reply result) := by
  obtain ⟨found, receipt, hfound, hseen, hhash, hresult⟩ := hreplayed
  rw [hkey, Option.some.injEq] at hfound
  subst found
  refine ⟨receipt, hseen, hhash, ?_⟩
  rw [hload, hresult, Option.map_some]

theorem PatronPolicyChange.answers {scope patron_id : PyStr} {facts : List (PyStr × Json)}
    {transition : Patron → Except Raised (Patron × List AggregateEvent)}
    {key : Except AppException (Option IdempotencyKey)} {given : IdempotencyKey}
    {value : PatronSnapshot} (hkey : key.toOption.join = some given)
    (hload : ∀ payload, Reply.load rt scope payload =
      (loadResponse rt payload : Option PatronSnapshot).map Reply.patron)
    (hreturns : (PatronPolicyChange.spec rt scope patron_id facts transition key).returns
      known value) :
    RequestToken.Answers rt known ⟨scope, given, commandFingerprint rt facts⟩
      (.patron value) := by
  obtain ⟨found, hfound, hreplayed⟩ := hreturns
  rw [hfound] at hkey
  exact hreplayed.answers hkey hload

/-- A keyed request that answers without a commit answers from a receipt of its facts. -/
theorem Request.returns_answers {value : request.Result}
    (hreturns : (request.spec rt).returns known value)
    (htoken : request.token rt = some token) :
    token.Answers rt known (request.reply value) := by
  cases request with
  | addBook command =>
      obtain ⟨key, title, author, hkey, htitle, hauthor, hreplayed⟩ := hreturns
      simp only [Request.token, htitle, hauthor, hkey, Except.toOption, Option.bind_eq_bind,
        Option.bind_some, Option.map_eq_some_iff] at htoken
      obtain ⟨given, hgiven, rfl⟩ := htoken
      exact hreplayed.answers hgiven fun _ => rfl
  | registerPatron command =>
      obtain ⟨name, email, tier, key, hname, hemail, htier, hkey, hreplayed⟩ := hreturns
      simp only [Request.token, hname, hemail, htier, hkey, Except.toOption,
        Option.bind_eq_bind, Option.bind_some, Option.map_eq_some_iff] at htoken
      obtain ⟨given, hgiven, rfl⟩ := htoken
      exact hreplayed.answers hgiven fun _ => rfl
  | suspendPatron command | reinstatePatron command =>
      simp only [Request.token, Option.bind_eq_bind, Option.bind_eq_some_iff,
        Option.map_eq_some_iff] at htoken
      obtain ⟨key, hkey, given, rfl, rfl⟩ := htoken
      exact PatronPolicyChange.answers (by rw [hkey]; rfl) (fun _ => rfl) hreturns
  | upgradePatronTier command =>
      obtain ⟨tier, htier, hreturns⟩ := hreturns
      have hsome : (MembershipTier.parse rt command.new_tier).toOption = some tier := by
        rw [htier]
        rfl
      simp only [Request.token, hsome, Option.bind_eq_bind, Option.bind_some,
        Option.bind_eq_some_iff, Option.map_eq_some_iff] at htoken
      obtain ⟨key, hkey, given, rfl, rfl⟩ := htoken
      exact PatronPolicyChange.answers (by rw [hkey]; rfl) (fun _ => rfl) hreturns
  | circulation command =>
      cases command with
      | borrowBook command =>
          obtain ⟨key, email, hkey, hemail, hreplayed⟩ := hreturns
          simp only [Request.token, hkey, hemail, Except.toOption, Option.bind_eq_bind,
            Option.bind_some, Option.map_eq_some_iff] at htoken
          obtain ⟨given, hgiven, rfl⟩ := htoken
          exact hreplayed.answers hgiven fun _ => rfl
      | extendLoan command =>
          obtain ⟨key, hkey, hreplayed⟩ := hreturns
          simp only [Request.token, hkey, Except.toOption, Option.bind_eq_bind,
            Option.bind_some, Option.map_eq_some_iff] at htoken
          obtain ⟨given, hgiven, rfl⟩ := htoken
          exact hreplayed.answers hgiven fun _ => rfl
      | returnLoan command =>
          obtain ⟨key, hkey, hreplayed | ⟨hnone, -⟩⟩ := hreturns
          · simp only [Request.token, hkey, Except.toOption, Option.bind_eq_bind,
              Option.bind_some, Option.map_eq_some_iff] at htoken
            obtain ⟨given, hgiven, rfl⟩ := htoken
            exact hreplayed.answers hgiven fun _ => rfl
          · simp only [Request.token, hkey, hnone, Except.toOption, Option.bind_eq_bind,
              Option.bind_some, Option.map_none] at htoken
            cases htoken
      | _ => cases htoken

end Receipts

end LibrarySystem
