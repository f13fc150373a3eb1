import LibrarySystem.Foundation.Machine
import LibrarySystem.Domain.SharedKernel

/-!
# The handler inbox

Rows of `event_inbox`, and the three operations on them.  A claim is a
transaction that reads the database clock, then locks the row, decides, and
writes; the row lock lets the decision and the commit happen at once.  Where no
row was found the insert is a later step, which the primary key may refuse.
Times are microseconds.
-/

namespace LibrarySystem

inductive InboxStatus
  | processing
  | processed
  | failed
deriving DecidableEq

inductive InboxClaimStatus
  | claimed
  | processed
  | busy
deriving DecidableEq

structure InboxClaim where
  status : InboxClaimStatus
  token : Option PyStr
deriving DecidableEq

/-- The contract and trace metadata that a row keeps of its event. -/
structure InboxIdentity where
  contract_name : PyStr
  contract_version : ℤ
  payload_hash : PyStr
  correlation_id : Option PyStr
  causation_id : Option PyStr
deriving DecidableEq

/-- The arguments of `claim`. -/
structure InboxDelivery where
  event_id : PyStr
  handler_name : PyStr
  identity : InboxIdentity
deriving DecidableEq

abbrev InboxKey := PyStr × PyStr

def InboxDelivery.key (delivery : InboxDelivery) : InboxKey :=
  (delivery.event_id, delivery.handler_name)

structure InboxMessage where
  identity : InboxIdentity
  status : InboxStatus
  attempts : ℕ
  claim_token : Option PyStr
  lease_until : Option ℤ
  received_at : ℤ
  processed_at : Option ℤ
  last_error : Option PyStr
deriving DecidableEq

/-- `ck_event_inbox_status_fields` -/
def InboxMessage.statusFields (row : InboxMessage) : Bool :=
  match row.status with
  | .processing =>
      row.claim_token.isSome && row.lease_until.isSome && row.processed_at.isNone
  | .processed =>
      row.claim_token.isNone && row.lease_until.isNone && row.processed_at.isSome
  | .failed =>
      row.claim_token.isNone && row.lease_until.isNone && row.processed_at.isNone

/-- `_is_sha256` -/
def isSha256 (value : PyStr) : Bool :=
  value.length == 64 && value.all fun c => (py "0123456789abcdef").contains c

/-- `_validate_delivery_identity` on a value that is not `None`. -/
def isDeliveryIdentity (max_length : ℕ) (value : PyStr) : Bool :=
  decide (1 ≤ value.length) && decide (value.length ≤ max_length) &&
    PyStr.matchesHeadTail CodePoint.isAlphanumeric isIdentityTail value

/-- The checks of `claim` before its first transaction. -/
def InboxDelivery.valid (delivery : InboxDelivery) : Bool :=
  isSha256 delivery.identity.payload_hash &&
    isDeliveryIdentity 128 delivery.event_id &&
    isDeliveryIdentity 128 delivery.handler_name &&
    isDeliveryIdentity 160 delivery.identity.contract_name &&
    delivery.identity.correlation_id.all (isDeliveryIdentity 128) &&
    delivery.identity.causation_id.all (isDeliveryIdentity 128)

/-- `_is_future` -/
def isFuture (value : Option ℤ) (now : ℤ) : Bool :=
  value.any fun value => now < value

inductive ClaimDecision
  | absent
  | collision
  | answered (claim : InboxClaim)
  | claimed (row : InboxMessage)

/-- What `claim` does with the row that it locked; `seen` is the clock reading
taken before. -/
def decideClaim (lease : ℤ) (delivery : InboxDelivery) (token : PyStr) (seen : ℤ) :
    Option InboxMessage → ClaimDecision
  | none => .absent
  | some row =>
      if row.identity ≠ delivery.identity then .collision
      else if row.processed_at.isSome || row.status = .processed then
        .answered ⟨.processed, none⟩
      else if row.status = .processing && isFuture row.lease_until seen then
        .answered ⟨.busy, none⟩
      else
        .claimed { row with
          status := .processing
          attempts := row.attempts + 1
          claim_token := some token
          lease_until := some (seen + lease)
          last_error := none }

/-- The row that `claim` inserts. -/
def insertedRow (lease : ℤ) (delivery : InboxDelivery) (token : PyStr) (seen : ℤ) :
    InboxMessage :=
  { identity := delivery.identity
    status := .processing
    attempts := 1
    claim_token := some token
    lease_until := some (seen + lease)
    received_at := seen
    processed_at := none
    last_error := none }

/-- The `UPDATE` of `complete`; `none` is a row count of zero. -/
def completeRow (token : PyStr) (now : ℤ) (row : InboxMessage) : Option InboxMessage :=
  if row.claim_token = some token ∧ row.processed_at = none then
    some { row with
      status := .processed
      processed_at := some now
      claim_token := none
      lease_until := none
      last_error := none }
  else none

/-- The `UPDATE` of `fail`. -/
def failRow (token : PyStr) (error : PyStr) (row : InboxMessage) : Option InboxMessage :=
  if row.claim_token = some token ∧ row.processed_at = none then
    some { row with
      status := .failed
      claim_token := none
      lease_until := none
      last_error := some (error.take 8000) }
  else none

/-! ## Workers -/

/-- Where a worker stands.  `attempts` counts the tries that `claim` has left. -/
inductive InboxPhase
  | idle
  | claiming (delivery : InboxDelivery) (attempts : ℕ)
  | opened (delivery : InboxDelivery) (attempts : ℕ) (token : PyStr) (seen : ℤ)
  | absent (delivery : InboxDelivery) (attempts : ℕ) (token : PyStr) (seen : ℤ)
  | answered (delivery : InboxDelivery) (claim : InboxClaim)
  | refused (delivery : InboxDelivery)
  | running (delivery : InboxDelivery) (token : PyStr)
  | ended (delivery : InboxDelivery) (token : PyStr)
deriving DecidableEq

/-- A claim that was answered `CLAIMED`. -/
structure Grant where
  key : InboxKey
  token : PyStr
  lease_until : ℤ
deriving DecidableEq

/-- The table and the workers.  `issued`, `grants` (latest first) and `released`
record the tokens drawn, the claims granted, and the tokens whose holder
completed or failed its claim. -/
structure InboxHost (Worker : Type) where
  rows : InboxKey → Option InboxMessage
  now : ℤ
  phase : Worker → InboxPhase
  issued : List PyStr
  grants : List Grant
  released : List PyStr

inductive InboxAction (Worker : Type)
  | tick (now : ℤ)
  | claim (worker : Worker) (delivery : InboxDelivery)
  | read (worker : Worker) (token : PyStr)
  | select (worker : Worker)
  | insert (worker : Worker)
  | fault (worker : Worker)
  | start (worker : Worker)
  | finish (worker : Worker)
  | complete (worker : Worker) (processed_at : ℤ)
  | fail (worker : Worker) (error : PyStr)
  | leave (worker : Worker)

namespace InboxHost

variable {Worker : Type} [DecidableEq Worker]

def become (host : InboxHost Worker) (worker : Worker) (phase : InboxPhase) :
    InboxHost Worker :=
  { host with phase := Function.update host.phase worker phase }

def store (host : InboxHost Worker) (key : InboxKey) (row : InboxMessage) :
    InboxHost Worker :=
  { host with rows := Function.update host.rows key (some row) }

/-- Commit a claimed row and answer `CLAIMED`. -/
def grant (host : InboxHost Worker) (worker : Worker) (delivery : InboxDelivery)
    (token : PyStr) (lease_until : ℤ) (row : InboxMessage) : InboxHost Worker :=
  { (host.store delivery.key row).become worker
      (.answered delivery ⟨.claimed, some token⟩) with
    grants := ⟨delivery.key, token, lease_until⟩ :: host.grants }

/-- Commit the row of a completed or failed claim. -/
def release (host : InboxHost Worker) (key : InboxKey) (token : PyStr)
    (row : InboxMessage) : InboxHost Worker :=
  { host.store key row with released := token :: host.released }

/-- `IntegrityError`: the loop goes round once more, or the claim is `BUSY`. -/
def conflict (host : InboxHost Worker) (worker : Worker) (delivery : InboxDelivery) :
    ℕ → InboxHost Worker
  | 0 => host.become worker (.answered delivery ⟨.busy, none⟩)
  | attempts + 1 => host.become worker (.claiming delivery (attempts + 1))

def select (lease : ℤ) (host : InboxHost Worker) (worker : Worker)
    (delivery : InboxDelivery) (attempts : ℕ) (token : PyStr) (seen : ℤ) :
    InboxHost Worker :=
  match decideClaim lease delivery token seen (host.rows delivery.key) with
  | .absent => host.become worker (.absent delivery attempts token seen)
  | .collision => host.become worker (.refused delivery)
  | .answered claim => host.become worker (.answered delivery claim)
  | .claimed row => host.grant worker delivery token (seen + lease) row

def insert (lease : ℤ) (host : InboxHost Worker) (worker : Worker)
    (delivery : InboxDelivery) (attempts : ℕ) (token : PyStr) (seen : ℤ) :
    InboxHost Worker :=
  if host.rows delivery.key = none ∧ 1 ≤ delivery.identity.contract_version then
    host.grant worker delivery token (seen + lease)
      (insertedRow lease delivery token seen)
  else host.conflict worker delivery attempts

def step (lease : ℤ) (host : InboxHost Worker) :
    InboxAction Worker → Option (InboxHost Worker)
  | .tick now => if host.now ≤ now then some { host with now := now } else none
  | .claim worker delivery =>
      match host.phase worker with
      | .idle =>
          if delivery.valid then some (host.become worker (.claiming delivery 2))
          else some (host.become worker (.refused delivery))
      | _ => none
  | .read worker token =>
      match host.phase worker with
      | .claiming delivery (attempts + 1) =>
          if token ∈ host.issued then none
          else
            some { host.become worker (.opened delivery attempts token host.now) with
              issued := token :: host.issued }
      | _ => none
  | .select worker =>
      match host.phase worker with
      | .opened delivery attempts token seen =>
          some (host.select lease worker delivery attempts token seen)
      | _ => none
  | .insert worker =>
      match host.phase worker with
      | .absent delivery attempts token seen =>
          some (host.insert lease worker delivery attempts token seen)
      | _ => none
  | .fault worker =>
      match host.phase worker with
      | .claiming delivery _ | .opened delivery _ _ _ | .absent delivery _ _ _
      | .answered delivery _ => some (host.become worker (.refused delivery))
      | _ => none
  | .start worker =>
      match host.phase worker with
      | .answered delivery ⟨.claimed, some token⟩ =>
          some (host.become worker (.running delivery token))
      | _ => none
  | .finish worker =>
      match host.phase worker with
      | .running delivery token => some (host.become worker (.ended delivery token))
      | _ => none
  | .complete worker processed_at =>
      match host.phase worker with
      | .ended delivery token =>
          match (host.rows delivery.key).bind (completeRow token processed_at) with
          | some row => some (host.release delivery.key token row)
          | none => some host
      | _ => none
  | .fail worker error =>
      match host.phase worker with
      | .ended delivery token =>
          match (host.rows delivery.key).bind (failRow token error) with
          | some row => some (host.release delivery.key token row)
          | none => some host
      | _ => none
  | .leave worker => some (host.become worker .idle)

end InboxHost

def inboxMachine (Worker : Type) [DecidableEq Worker] (lease : ℤ) :
    Machine (InboxHost Worker) (InboxAction Worker) where
  initial host :=
    (∀ key, host.rows key = none) ∧ (∀ worker, host.phase worker = .idle) ∧
      host.issued = [] ∧ host.grants = [] ∧ host.released = []
  step := InboxHost.step lease

end LibrarySystem
