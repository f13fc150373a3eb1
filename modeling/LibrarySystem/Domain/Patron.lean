import LibrarySystem.Domain.Events

/-!
# Patron

The patron aggregate: registration, suspension and its lifting, and the
one-way progression of membership tiers.
-/

namespace LibrarySystem

inductive MembershipTier
  | regular
  | premium
  | researcher
deriving DecidableEq

namespace MembershipTier

def value : MembershipTier → PyStr
  | regular => py "regular"
  | premium => py "premium"
  | researcher => py "researcher"

def progression : MembershipTier → ℕ
  | regular => 0
  | premium => 1
  | researcher => 2

end MembershipTier

structure PatronName where
  first_name : BoundedText 100
  last_name : BoundedText 100
deriving DecidableEq

namespace PatronName

/-- `PatronName(first_name, last_name)`: both blanks are refused before either
length. -/
def parse (firstName lastName : PyStr) : Except Raised PatronName := do
  let empty (field : PyStr) :=
    Raised.patron (.invalidPatronName field (py "cannot be empty"))
  let tooLong (field : PyStr) :=
    Raised.patron (.invalidPatronName field (py "is too long"))
  if PyStr.collapse firstName = [] then throw (empty (py "First name"))
  if PyStr.collapse lastName = [] then throw (empty (py "Last name"))
  let firstName ← foldText 100 (empty (py "First name"))
    (tooLong (py "First name")) firstName
  let lastName ← foldText 100 (empty (py "Last name"))
    (tooLong (py "Last name")) lastName
  pure ⟨firstName, lastName⟩

def fullName (name : PatronName) : PyStr :=
  name.first_name.value ++ py " " ++ name.last_name.value

end PatronName

structure Patron where
  name : PatronName
  email : EmailAddress
  registered_at : UtcDateTime
  id : Reference
  membership_tier : MembershipTier
  suspended_reason : Option (BoundedText 500)
deriving DecidableEq

namespace Patron

/-- `PatronId(value)` -/
def parsePatronId (rt : PythonRuntime) (value : PyStr) : Except Raised Reference :=
  normalizeIdentifier rt (.patron .invalidPatronId) (.patron .invalidPatronId) value

/-- The constructor ties `is_suspended` to the presence of a reason. -/
def isSuspended (patron : Patron) : Bool := patron.suspended_reason.isSome

/-- `Patron.register`; `nextId` is the id the factory draws. -/
@[irreducible] def register (nextId : Reference) (name : PatronName) (email : EmailAddress)
    (registeredAt : DateTime) (membershipTier : MembershipTier) :
    Except Raised (Patron × List AggregateEvent) := do
  let registeredAt ← requireUtcDatetime registeredAt (py "registered_at")
  let patron : Patron :=
    { name := name
      email := email
      registered_at := registeredAt
      id := nextId
      membership_tier := membershipTier
      suspended_reason := none }
  pure (patron,
    [.patronRegistered
      { patron_id := patron.id.val
        email := patron.email.value
        name := patron.name.fullName
        membership_tier := patron.membership_tier.value }])

/-- `Patron.suspend` -/
def suspend (patron : Patron) (reason : PyStr) :
    Except Raised (Patron × List AggregateEvent) := do
  if patron.isSuspended then
    throw (.patron (.patronAlreadySuspended patron.id.val))
  let invalidReason := Raised.patron .invalidSuspensionReason
  let reason ← foldText 500 invalidReason invalidReason reason
  pure ({ patron with suspended_reason := some reason },
    [.patronSuspended { patron_id := patron.id.val, reason := reason.value }])

/-- `Patron.reinstate` -/
def reinstate (patron : Patron) : Except Raised (Patron × List AggregateEvent) := do
  if !patron.isSuspended then
    throw (.patron (.patronNotSuspended patron.id.val))
  pure ({ patron with suspended_reason := none },
    [.patronReinstated { patron_id := patron.id.val }])

/-- `Patron.upgrade_tier` -/
def upgradeTier (patron : Patron) (newTier : MembershipTier) :
    Except Raised (Patron × List AggregateEvent) := do
  if newTier.progression ≤ patron.membership_tier.progression then
    throw (.patron (.invalidTierUpgrade patron.membership_tier.value newTier.value))
  pure ({ patron with membership_tier := newTier }, [])

end Patron

end LibrarySystem
