import LibrarySystem.Messaging.DeadLetter

/-!
# One record of the consume loop

`_handle_with_retry` runs the handler until it returns, raises something
unrecoverable, or the retries are used up; a record that cannot be processed is
parked on the dead-letter topic.  Everything the client awaits (the handler,
the pauses, the park, the commit) ends as the environment decides, cancellation
included.
-/

namespace LibrarySystem

structure KafkaConfig where
  consumer_max_retries : ℕ

/-- The flags of one `consume` call. -/
structure ConsumePolicy where
  retry_forever : Bool
  park_unrecoverable : Bool

/-- An exception of the handler, by the classes the client distinguishes. -/
inductive HandlingError
  | unrecoverable (message : PyStr)
  | durable (message : PyStr)
  | timeout
  | other (message : PyStr)

namespace HandlingError

/-- `str(error)` -/
def text : HandlingError → PyStr
  | .unrecoverable message | .durable message | .other message => message
  | .timeout => []

/-- `isinstance(error, UnrecoverableMessageException)` -/
def isUnrecoverable : HandlingError → Bool
  | .unrecoverable _ => true
  | _ => false

/-- `isinstance(error, DurableMessageHandlingException)` -/
def isDurable : HandlingError → Bool
  | .durable _ => true
  | _ => false

end HandlingError

/-- How one attempt ends; cancellation is no `Exception`. -/
inductive AttemptEnd
  | returned
  | raised (error : HandlingError)
  | cancelled

/-- How parking ends.  A send that is not acknowledged in time may have been
stored by the broker or not. -/
inductive ParkEnd
  | acknowledged
  | ensureTopicFailed
  | sendFailed (stored : Bool)
  | timedOut (stored : Bool)
  | cancelled (stored : Bool)
deriving DecidableEq

inductive CommitEnd
  | acknowledged
  | failed (stored : Bool)
  | cancelled (stored : Bool)

/-- Everything awaited while one record is processed. -/
structure VisitEnvironment where
  handler : ℕ → AttemptEnd
  sleepCancelled : ℕ → Bool
  park : ParkEnd
  commit : CommitEnd
  lagCancelled : Bool

/-- `_decode_json_field` on a consumed record; an absent field is `None`. -/
def decodeJsonField (rt : PythonRuntime) (field : PyStr) :
    Option Bytes → Except HandlingError Json
  | none => .ok .null
  | some data =>
      match readJson rt data with
      | some value => .ok value
      | none =>
          .error (.unrecoverable
            (py "Malformed Kafka " ++ field ++ py ": expected UTF-8 JSON"))

/-- The `try` block: the handler is awaited once key and value are decoded. -/
def attemptHandling (rt : PythonRuntime) (record : ConsumerRecord)
    (handler : AttemptEnd) : AttemptEnd :=
  match decodeJsonField rt (py "key") record.key with
  | .error error => .raised error
  | .ok _ =>
      match decodeJsonField rt (py "value") record.value with
      | .error error => .raised error
      | .ok _ => handler

/-- How the call for one record ends. -/
inductive CallEnd
  | returned
  | raised
  | cancelled
deriving DecidableEq

structure Parking where
  error : HandlingError
  finish : ParkEnd
  letter : Option ProducedRecord

structure Handling where
  attempts : List AttemptEnd
  parking : Option Parking
  finish : CallEnd

/-- `_park_on_dead_letter` and `_send_to_dead_letter` -/
def parkOnDeadLetter (rt : PythonRuntime) (record : ConsumerRecord)
    (error : HandlingError) (finish : ParkEnd) : Parking × CallEnd :=
  let letter := deadLetter rt record error.text
  match finish with
  | .acknowledged =>
      (⟨error, finish, letter⟩, if letter.isSome then .returned else .raised)
  | .ensureTopicFailed => (⟨error, finish, none⟩, .raised)
  | .sendFailed stored => (⟨error, finish, if stored then letter else none⟩, .raised)
  | .timedOut stored => (⟨error, finish, if stored then letter else none⟩, .raised)
  | .cancelled stored => (⟨error, finish, if stored then letter else none⟩, .cancelled)

/-- Park after a failed attempt. -/
def parkAfter (rt : PythonRuntime) (record : ConsumerRecord) (error : HandlingError)
    (finish : ParkEnd) : Handling :=
  let parked := parkOnDeadLetter rt record error finish
  ⟨[.raised error], some parked.1, parked.2⟩

/-- `_handle_with_retry` with `remaining` retries left after `attempt`. -/
def handleWithRetry (rt : PythonRuntime) (policy : ConsumePolicy)
    (record : ConsumerRecord) (environment : VisitEnvironment) (remaining : ℕ)
    (attempt : ℕ) : Handling :=
  match attemptHandling rt record (environment.handler attempt) with
  | .returned => ⟨[.returned], none, .returned⟩
  | .cancelled => ⟨[.cancelled], none, .cancelled⟩
  | .raised error =>
      if error.isUnrecoverable then
        if policy.park_unrecoverable then
          parkAfter rt record error environment.park
        else ⟨[.raised error], none, .raised⟩
      else
        match remaining with
        | remaining + 1 =>
            if environment.sleepCancelled attempt then
              ⟨[.raised error], none, .cancelled⟩
            else
              let rest :=
                handleWithRetry rt policy record environment remaining (attempt + 1)
              ⟨.raised error :: rest.attempts, rest.parking, rest.finish⟩
        | 0 =>
            if policy.retry_forever || error.isDurable then
              ⟨[.raised error], none, .raised⟩
            else parkAfter rt record error environment.park

/-- One pass of the `consume` loop over a delivered record. -/
structure Visit where
  policy : ConsumePolicy
  record : ConsumerRecord
  handling : Handling
  commit : Option CommitEnd
  lagCancelled : Bool

def consumeRecord (rt : PythonRuntime) (config : KafkaConfig) (policy : ConsumePolicy)
    (record : ConsumerRecord) (environment : VisitEnvironment) : Visit :=
  let handling :=
    handleWithRetry rt policy record environment config.consumer_max_retries 0
  { policy := policy
    record := record
    handling := handling
    commit := if handling.finish = .returned then some environment.commit else none
    lagCancelled := environment.lagCancelled }

namespace Visit

/-- The last attempt returned. -/
def isHandled (visit : Visit) : Prop :=
  visit.handling.attempts.getLast? = some .returned

/-- The offset the broker stores for the record's partition. -/
def committed (visit : Visit) : Option ℕ :=
  match visit.commit with
  | none => none
  | some .acknowledged => some (visit.record.offset + 1)
  | some (.failed stored) | some (.cancelled stored) =>
      if stored then some (visit.record.offset + 1) else none

/-- The loop goes on to the next record. -/
def continues (visit : Visit) : Bool :=
  match visit.commit with
  | some .acknowledged => !visit.lagCancelled
  | _ => false

def letter (visit : Visit) : Option ProducedRecord :=
  visit.handling.parking.bind Parking.letter

/-- The exception the last attempt ended with. -/
def lastError (visit : Visit) : Option HandlingError :=
  match visit.handling.attempts.getLast? with
  | some (.raised error) => some error
  | _ => none

end Visit

/-! ## What one call does -/

/-- The ends of a call that the consume loop depends on. -/
structure Handling.Proper (rt : PythonRuntime) (policy : ConsumePolicy)
    (record : ConsumerRecord) (handling : Handling) : Prop where
  attempted : handling.attempts ≠ []
  returned : handling.finish = .returned →
    handling.attempts.getLast? = some .returned ∨
      ∃ parking letter, handling.parking = some parking ∧
        parking.letter = some letter ∧ Lossless rt record letter
  durable : ∀ error, handling.attempts.getLast? = some (.raised error) →
    (policy.retry_forever = true ∨ error.isDurable = true) →
      error.isUnrecoverable = false → handling.parking = none
  unrecoverable : ∀ error, handling.attempts.getLast? = some (.raised error) →
    policy.park_unrecoverable = false → error.isUnrecoverable = true →
      handling.parking = none ∧ handling.finish ≠ .returned
  unparked : ∀ parking, handling.parking = some parking →
    parking.finish ≠ .acknowledged → handling.finish ≠ .returned

section Call

variable {rt : PythonRuntime} {policy : ConsumePolicy} {record : ConsumerRecord}

theorem parkAfter_proper
    {error : HandlingError} {finish : ParkEnd}
    (hdurable : (policy.retry_forever = true ∨ error.isDurable = true) →
      error.isUnrecoverable = true)
    (hunrecoverable : error.isUnrecoverable = true → policy.park_unrecoverable = true) :
    (parkAfter rt record error finish).Proper rt policy record := by
  obtain ⟨letter, hletter, hlossless⟩ := deadLetter_lossless rt record error.text
  refine ⟨by simp [parkAfter], ?_, ?_, ?_, ?_⟩
  · intro hreturned
    right
    cases finish with
    | acknowledged =>
        exact ⟨_, letter, rfl, hletter, hlossless⟩
    | ensureTopicFailed | sendFailed _ | timedOut _ | cancelled _ =>
        simp [parkAfter, parkOnDeadLetter] at hreturned
  · intro found hlast hpolicy hrecoverable
    obtain rfl : error = found := by simpa [parkAfter] using hlast
    simp [hdurable hpolicy] at hrecoverable
  · intro found hlast hpolicy hfound
    obtain rfl : error = found := by simpa [parkAfter] using hlast
    simp [hunrecoverable hfound] at hpolicy
  · intro parking hparking hfinish hreturned
    obtain rfl : _ = parking := Option.some.inj hparking
    cases finish with
    | acknowledged => exact hfinish rfl
    | ensureTopicFailed | sendFailed _ | timedOut _ | cancelled _ =>
        simp [parkAfter, parkOnDeadLetter] at hreturned

theorem notParked_proper
    {finished : AttemptEnd} {finish : CallEnd}
    (hreturned : finish = .returned → finished = .returned)
    (herror : ∀ error, finished = .raised error → finish ≠ .returned) :
    Handling.Proper rt policy record ⟨[finished], none, finish⟩ := by
  refine ⟨by simp, ?_, ?_, ?_, ?_⟩
  · intro hfinish
    left
    simp [hreturned hfinish]
  · intro error _ _ _
    rfl
  · intro error hlast _ _
    exact ⟨rfl, herror error (by simpa using hlast)⟩
  · intro parking hparking
    simp at hparking

/-- A retry keeps the ends of the attempts after it. -/
theorem Handling.Proper.retry
    {handling : Handling} (hproper : handling.Proper rt policy record)
    (error : HandlingError) :
    Handling.Proper rt policy record
      ⟨.raised error :: handling.attempts, handling.parking, handling.finish⟩ := by
  have hlast : (AttemptEnd.raised error :: handling.attempts).getLast? =
      handling.attempts.getLast? := by
    rw [List.getLast?_cons_of_ne_nil hproper.attempted]
  exact
    { attempted := by simp
      returned := fun hfinish => by
        rw [hlast]
        exact hproper.returned hfinish
      durable := fun found hfound => hproper.durable found (hlast ▸ hfound)
      unrecoverable := fun found hfound => hproper.unrecoverable found (hlast ▸ hfound)
      unparked := hproper.unparked }

/-- By induction on the retries that are left. -/
theorem handleWithRetry_proper
    (environment : VisitEnvironment) (remaining attempt : ℕ) :
    (handleWithRetry rt policy record environment remaining attempt).Proper rt policy
      record := by
  induction remaining generalizing attempt with
  | zero =>
      rw [handleWithRetry]
      cases attemptHandling rt record (environment.handler attempt) with
      | returned => exact notParked_proper (fun _ => rfl) (by simp)
      | cancelled => exact notParked_proper (by simp) (by simp)
      | raised error =>
          by_cases hunrecoverable : error.isUnrecoverable = true
          · by_cases hpark : policy.park_unrecoverable = true
            · simp only [hunrecoverable, hpark, if_true]
              exact parkAfter_proper (fun _ => hunrecoverable) (fun _ => hpark)
            · simp only [hunrecoverable, hpark, if_true]
              exact notParked_proper (by simp) (by simp)
          · by_cases hdurable : (policy.retry_forever || error.isDurable) = true
            · simp only [hunrecoverable, hdurable, if_true]
              exact notParked_proper (by simp) (by simp)
            · simp only [hunrecoverable, hdurable]
              refine parkAfter_proper (fun hpolicy => ?_)
                (fun h => absurd h hunrecoverable)
              simp only [Bool.or_eq_true] at hdurable
              exact absurd hpolicy hdurable
  | succ remaining ih =>
      rw [handleWithRetry]
      cases attemptHandling rt record (environment.handler attempt) with
      | returned => exact notParked_proper (fun _ => rfl) (by simp)
      | cancelled => exact notParked_proper (by simp) (by simp)
      | raised error =>
          by_cases hunrecoverable : error.isUnrecoverable = true
          · by_cases hpark : policy.park_unrecoverable = true
            · simp only [hunrecoverable, hpark, if_true]
              exact parkAfter_proper (fun _ => hunrecoverable) (fun _ => hpark)
            · simp only [hunrecoverable, hpark, if_true]
              exact notParked_proper (by simp) (by simp)
          · by_cases hcancelled : environment.sleepCancelled attempt = true
            · simp only [hunrecoverable, hcancelled, if_true]
              exact notParked_proper (by simp) (by simp)
            · simp only [hunrecoverable, hcancelled]
              exact (ih (attempt + 1)).retry error

end Call

end LibrarySystem
