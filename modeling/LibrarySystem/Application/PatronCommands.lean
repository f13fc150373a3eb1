import LibrarySystem.Application.LendingCommands

/-!
# Command handlers of the patrons

Registration, and the three changes of policy, which take the borrowing fence of the
patron before they read the row.
-/

namespace LibrarySystem

/-- `MembershipTier(value.strip().lower())` -/
def MembershipTier.parse (rt : PythonRuntime) (value : PyStr) :
    Except AppException MembershipTier :=
  let tier := rt.lower (PyStr.strip value)
  if tier = py "regular" then .ok .regular
  else if tier = py "premium" then .ok .premium
  else if tier = py "researcher" then .ok .researcher
  else .error (.invalidMembershipTier tier)

/-- `PatronSnapshot` -/
structure PatronSnapshot where
  id : PyStr
  name : PyStr
  first_name : PyStr
  last_name : PyStr
  email : PyStr
  membership_tier : PyStr
  is_suspended : Bool
  suspended_reason : Option PyStr
  registered_at : UtcDateTime
deriving DecidableEq

/-- `from_patron` -/
def PatronSnapshot.ofPatron (patron : Patron) : PatronSnapshot where
  id := patron.id.val
  name := patron.name.fullName
  first_name := patron.name.first_name.value
  last_name := patron.name.last_name.value
  email := patron.email.value
  membership_tier := patron.membership_tier.value
  is_suspended := patron.isSuspended
  suspended_reason := patron.suspended_reason.map BoundedText.value
  registered_at := patron.registered_at

instance : Receipted PatronSnapshot where
  response result :=
    [(py "id", .str result.id), (py "name", .str result.name),
      (py "first_name", .str result.first_name), (py "last_name", .str result.last_name),
      (py "email", .str result.email),
      (py "membership_tier", .str result.membership_tier),
      (py "is_suspended", .bool result.is_suspended),
      (py "suspended_reason",
        match result.suspended_reason with
        | none => .null
        | some reason => .str reason),
      (py "registered_at", .str (isoformat result.registered_at))]
  ofResponse rt members := do
    guard (Response.onlyNames members
      [py "id", py "name", py "first_name", py "last_name", py "email",
        py "membership_tier", py "is_suspended", py "suspended_reason",
        py "registered_at"])
    let id ← Response.text members (py "id")
    let name ← Response.text members (py "name")
    let first_name ← Response.text members (py "first_name")
    let last_name ← Response.text members (py "last_name")
    let email ← Response.text members (py "email")
    let membership_tier ← Response.text members (py "membership_tier")
    let is_suspended ← Response.flag members (py "is_suspended")
    let suspended_reason ← Response.optionalText members (py "suspended_reason")
    let registered_at ← Response.datetime members rt (py "registered_at")
    pure
      { id := id
        name := name
        first_name := first_name
        last_name := last_name
        email := email
        membership_tier := membership_tier
        is_suspended := is_suspended
        suspended_reason := suspended_reason
        registered_at := registered_at }

/-! ## Registration -/

structure RegisterPatronCommand where
  first_name : PyStr
  last_name : PyStr
  email : PyStr
  membership_tier : PyStr
  idempotency_key : Option PyStr

namespace RegisterPatronHandler

def scope : PyStr := py "patron.register"

def facts (name : PatronName) (email : EmailAddress) (tier : MembershipTier) :
    List (PyStr × Json) :=
  [(py "first_name", .str name.first_name.value),
    (py "last_name", .str name.last_name.value), (py "email", .str email.value),
    (py "membership_tier", .str tier.value)]

/-- `get_by_email` -/
def getByEmail (rt : PythonRuntime) (email : PyStr) :
    Uow Patron (Option (Tracked Patron)) := do
  let email ← Uow.ofExcept (EmailAddress.parse rt email)
  let rows ← Uow.select Patron fun row => row.email = email
  let row ← Uow.scalarOneOrNone rows
  match row with
  | none => pure none
  | some row =>
      let patron ← Uow.entityOf (A := Patron) row
      pure (some patron)

/-- The body of the transaction when no earlier request answers. -/
def register (rt : PythonRuntime) (name : PatronName) (email : EmailAddress)
    (tier : MembershipTier) (key : Option IdempotencyKey) (request_hash : PyStr) :
    Uow Patron PatronSnapshot := do
  let existing ← getByEmail rt email.value
  match existing with
  | some _ => Uow.raise (.patronEmailAlreadyRegistered email.value)
  | none =>
      let seen ← Uow.observe
      let (patron, events) ← Uow.ofExcept
        (Patron.register (uuidReference seen.draws.uuid) name email
          (.ofUtc seen.draws.now) tier)
      let patron ← Uow.create patron events
      Uow.add patron
      Uow.keepReceipt rt scope key request_hash (PatronSnapshot.ofPatron patron.aggregate)
      Uow.commit rt
      pure (PatronSnapshot.ofPatron patron.aggregate)

def handle (rt : PythonRuntime) (command : RegisterPatronCommand) :
    Command PatronSnapshot := do
  let name ← Command.ofExcept (PatronName.parse command.first_name command.last_name)
  let email ← Command.ofExcept (EmailAddress.parse rt command.email)
  let tier ← Run.ofExcept (MembershipTier.parse rt command.membership_tier)
  let key ← Run.ofExcept (IdempotencyKey.parse command.idempotency_key)
  let request_hash := commandFingerprint rt (facts name email tier)
  Uow.transaction do
    let earlier ← Uow.replay rt scope key request_hash
    match earlier with
    | some result => pure result
    | none => register rt name email tier key request_hash

end RegisterPatronHandler

/-! ## Changes of policy -/

namespace PatronPolicyChange

/-- What suspension, reinstatement and tier upgrade share: the body of the transaction
when no earlier request answers, with the transition of the aggregate. -/
def apply (rt : PythonRuntime) (scope patron_id : PyStr)
    (transition : Patron → Except Raised (Patron × List AggregateEvent))
    (key : Option IdempotencyKey) (request_hash : PyStr) : Uow Patron PatronSnapshot := do
  Uow.acquireBorrowingFence patron_id
  let patron ← Uow.getById patron_id
  match patron with
  | none => Uow.raise (.patronNotFound patron_id)
  | some patron =>
      let (after, events) ← Uow.ofExcept (transition patron.aggregate)
      let patron ← Uow.mutate patron after events
      Uow.update patron
      Uow.keepReceipt rt scope key request_hash (PatronSnapshot.ofPatron patron.aggregate)
      Uow.commit rt
      pure (PatronSnapshot.ofPatron patron.aggregate)

/-- The transaction of the three handlers. -/
def handle (rt : PythonRuntime) (scope patron_id : PyStr)
    (facts : List (PyStr × Json))
    (transition : Patron → Except Raised (Patron × List AggregateEvent))
    (key : Option IdempotencyKey) : Command PatronSnapshot :=
  let request_hash := commandFingerprint rt facts
  Uow.transaction do
    let earlier ← Uow.replay rt scope key request_hash
    match earlier with
    | some result => pure result
    | none => apply rt scope patron_id transition key request_hash

end PatronPolicyChange

structure SuspendPatronCommand where
  patron_id : PyStr
  reason : PyStr
  idempotency_key : Option PyStr

namespace SuspendPatronHandler

def scope : PyStr := py "patron.suspend"

def facts (command : SuspendPatronCommand) : List (PyStr × Json) :=
  [(py "patron_id", .str (PyStr.strip command.patron_id)),
    (py "reason", .str (PyStr.collapse command.reason))]

def handle (rt : PythonRuntime) (command : SuspendPatronCommand) :
    Command PatronSnapshot := do
  let key ← Run.ofExcept (IdempotencyKey.parse command.idempotency_key)
  PatronPolicyChange.handle rt scope (PyStr.strip command.patron_id) (facts command)
    (fun patron => patron.suspend (PyStr.collapse command.reason)) key

end SuspendPatronHandler

structure ReinstatePatronCommand where
  patron_id : PyStr
  idempotency_key : Option PyStr

namespace ReinstatePatronHandler

def scope : PyStr := py "patron.reinstate"

def facts (command : ReinstatePatronCommand) : List (PyStr × Json) :=
  [(py "patron_id", .str (PyStr.strip command.patron_id))]

def handle (rt : PythonRuntime) (command : ReinstatePatronCommand) :
    Command PatronSnapshot := do
  let key ← Run.ofExcept (IdempotencyKey.parse command.idempotency_key)
  PatronPolicyChange.handle rt scope (PyStr.strip command.patron_id) (facts command)
    Patron.reinstate key

end ReinstatePatronHandler

structure UpgradePatronTierCommand where
  patron_id : PyStr
  new_tier : PyStr
  idempotency_key : Option PyStr

namespace UpgradePatronTierHandler

def scope : PyStr := py "patron.upgrade_tier"

def facts (command : UpgradePatronTierCommand) (new_tier : MembershipTier) :
    List (PyStr × Json) :=
  [(py "patron_id", .str (PyStr.strip command.patron_id)),
    (py "new_tier", .str new_tier.value)]

def handle (rt : PythonRuntime) (command : UpgradePatronTierCommand) :
    Command PatronSnapshot := do
  let new_tier ← Run.ofExcept (MembershipTier.parse rt command.new_tier)
  let key ← Run.ofExcept (IdempotencyKey.parse command.idempotency_key)
  PatronPolicyChange.handle rt scope (PyStr.strip command.patron_id)
    (facts command new_tier) (fun patron => patron.upgradeTier new_tier) key

end UpgradePatronTierHandler

end LibrarySystem
