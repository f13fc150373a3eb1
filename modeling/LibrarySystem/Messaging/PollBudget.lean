import LibrarySystem.Messaging.KafkaClient
import Mathlib.Algebra.Order.BigOperators.Group.List
import Mathlib.Data.Rat.Defs
import Mathlib.Tactic.Linarith
import Mathlib.Tactic.Positivity

/-!
# The time of one poll cycle

The constructor of `KafkaClient` compares the longest time that the retries of one
record can take with the poll interval.  The arithmetic is over exact rationals.
-/

namespace LibrarySystem

/-- An argument annotated `int`; `bool` is a kind of `int`. -/
inductive PyInteger
  | bool (value : Bool)
  | int (value : ℤ)

/-- An argument annotated `float`, which may be an integer. -/
inductive PyNumber
  | bool (value : Bool)
  | int (value : ℤ)
  | finite (value : ℚ)
  | notFinite

/-- `DLQ_PARK_TIMEOUT_SECONDS` -/
def dlqParkTimeoutSeconds : ℚ := 60

/-- `MAX_MESSAGE_PROCESSING_TIMEOUT_SECONDS` -/
def maxMessageProcessingTimeoutSeconds : ℚ := 240

/-- The pause after attempt number `attempt`. -/
def retryDelay (retry_backoff_seconds : ℚ) (attempt : ℕ) : ℚ :=
  min (retry_backoff_seconds * 2 ^ min attempt 10) 60

def retryDelayBudget (retry_backoff_seconds : ℚ) (retries : ℕ) : ℚ :=
  ((List.range retries).map (retryDelay retry_backoff_seconds)).sum

/-- Every attempt, every pause and one park, with five seconds to spare. -/
def pollCycleBudget (timeout retry_backoff_seconds : ℚ) (retries : ℕ) (park : ℚ) : ℚ :=
  timeout * (retries + 1) + retryDelayBudget retry_backoff_seconds retries + park + 5

/-! ## The constructor -/

structure KafkaParameters where
  bootstrap_servers : PyStr
  consumer_max_retries : PyInteger
  retry_backoff_seconds : PyNumber
  consumer_max_poll_interval_ms : PyInteger
  message_processing_timeout_seconds : PyNumber
  internal_topic_replication_factor : PyInteger

/-- A client; the fields after the parameters are what the constructor has checked. -/
structure KafkaClient where
  bootstrap_servers : PyStr
  consumer_max_retries : ℕ
  retry_backoff_seconds : ℚ
  consumer_max_poll_interval_ms : ℤ
  message_processing_timeout_seconds : ℚ
  internal_topic_replication_factor : ℤ
  backoff_nonneg : 0 ≤ retry_backoff_seconds
  interval_ge : 1000 ≤ consumer_max_poll_interval_ms
  timeout_pos : 0 < message_processing_timeout_seconds
  timeout_le : message_processing_timeout_seconds ≤ maxMessageProcessingTimeoutSeconds
  replication_ge : 1 ≤ internal_topic_replication_factor
  replication_le : internal_topic_replication_factor ≤ 32767
  budget_lt : pollCycleBudget message_processing_timeout_seconds retry_backoff_seconds
    consumer_max_retries dlqParkTimeoutSeconds * 1000 < consumer_max_poll_interval_ms

namespace PyInteger

/-- The number of an argument that is no `bool`. -/
def number? : PyInteger → Option ℤ
  | .bool _ => none
  | .int value => some value

end PyInteger

namespace PyNumber

/-- The number of an argument that is no `bool` and finite. -/
def finite? : PyNumber → Option ℚ
  | .int value => some value
  | .finite value => some value
  | .bool _ | .notFinite => none

end PyNumber

/-- One check of the constructor: the value when it satisfies `valid`. -/
def requireValue {α : Type} (value : Option α) (valid : α → Prop) [DecidablePred valid]
    (message : PyStr) : Except PyException {found : α // valid found} :=
  match value with
  | some found =>
      if h : valid found then .ok ⟨found, h⟩ else .error (.valueError message)
  | none => .error (.valueError message)

section RequireValue

variable {α : Type} {value : Option α} (valid : α → Prop) [DecidablePred valid]
  (message : PyStr)

theorem requireValue_ok {found : α} (hvalue : value = some found) (hvalid : valid found) :
    requireValue value valid message = .ok ⟨found, hvalid⟩ := by
  subst hvalue
  exact dif_pos hvalid

variable {valid message}

theorem eq_some_of_requireValue {found : {found : α // valid found}}
    (h : requireValue value valid message = .ok found) : value = some found.1 := by
  cases value with
  | none => simp [requireValue] at h
  | some other =>
      simp only [requireValue] at h
      split at h
      · simp only [Except.ok.injEq] at h
        rw [← h]
      · simp at h

end RequireValue

namespace KafkaClient

/-- `KafkaClient.__init__` -/
def init (parameters : KafkaParameters) : Except PyException KafkaClient := do
  let retries ← requireValue parameters.consumer_max_retries.number? (0 ≤ ·)
    (py "consumer_max_retries must be non-negative")
  let backoff ← requireValue parameters.retry_backoff_seconds.finite? (0 ≤ ·)
    (py "retry_backoff_seconds must be non-negative")
  let interval ← requireValue parameters.consumer_max_poll_interval_ms.number? (1000 ≤ ·)
    (py "consumer_max_poll_interval_ms must be at least 1000")
  let timeout ← requireValue parameters.message_processing_timeout_seconds.finite?
    (fun value => 0 < value ∧ value ≤ maxMessageProcessingTimeoutSeconds)
    (py "message_processing_timeout_seconds must be greater than zero and at most 240 to " ++
      py "remain below the handler inbox lease")
  let replication ← requireValue parameters.internal_topic_replication_factor.number?
    (fun value => 1 ≤ value ∧ value ≤ 32767)
    (py "internal_topic_replication_factor must be between 1 and 32767")
  if hbudget : pollCycleBudget timeout.1 backoff.1 retries.1.toNat dlqParkTimeoutSeconds * 1000 <
      interval.1 then
    pure
      { bootstrap_servers := parameters.bootstrap_servers
        consumer_max_retries := retries.1.toNat
        retry_backoff_seconds := backoff.1
        consumer_max_poll_interval_ms := interval.1
        message_processing_timeout_seconds := timeout.1
        internal_topic_replication_factor := replication.1
        backoff_nonneg := backoff.2
        interval_ge := interval.2
        timeout_pos := timeout.2.1
        timeout_le := timeout.2.2
        replication_ge := replication.2.1
        replication_le := replication.2.2
        budget_lt := hbudget }
  else
    throw (.valueError (py "Kafka max poll interval must exceed the worst-case message " ++
      py "processing and retry budget"))

/-- The parameters that the constructor accepts. -/
theorem init_ok (parameters : KafkaParameters) {retries interval replication : ℤ}
    {backoff timeout : ℚ}
    (hretries : parameters.consumer_max_retries.number? = some retries)
    (hbackoff : parameters.retry_backoff_seconds.finite? = some backoff)
    (hinterval : parameters.consumer_max_poll_interval_ms.number? = some interval)
    (htimeout : parameters.message_processing_timeout_seconds.finite? = some timeout)
    (hreplication : parameters.internal_topic_replication_factor.number? = some replication)
    (hretriesValid : 0 ≤ retries) (hbackoffValid : 0 ≤ backoff)
    (hintervalValid : 1000 ≤ interval)
    (htimeoutValid : 0 < timeout ∧ timeout ≤ maxMessageProcessingTimeoutSeconds)
    (hreplicationValid : 1 ≤ replication ∧ replication ≤ 32767)
    (hbudget : pollCycleBudget timeout backoff retries.toNat dlqParkTimeoutSeconds * 1000 <
      interval) :
    ∃ client, init parameters = .ok client := by
  have htimeoutOk := fun message => requireValue_ok
    (fun value => 0 < value ∧ value ≤ maxMessageProcessingTimeoutSeconds) message
    htimeout htimeoutValid
  have hreplicationOk := fun message => requireValue_ok
    (fun value => 1 ≤ value ∧ value ≤ 32767) message hreplication hreplicationValid
  simp only [init, requireValue_ok (0 ≤ ·) _ hretries hretriesValid,
    requireValue_ok (0 ≤ ·) _ hbackoff hbackoffValid,
    requireValue_ok (1000 ≤ ·) _ hinterval hintervalValid,
    htimeoutOk, hreplicationOk, bind, Except.bind, dif_pos hbudget]
  exact ⟨_, rfl⟩

/-- The numbers of a client are those that it was given. -/
theorem init_values {parameters : KafkaParameters} {client : KafkaClient}
    (h : init parameters = .ok client) :
    parameters.consumer_max_retries.number? = some (client.consumer_max_retries : ℤ) ∧
      parameters.retry_backoff_seconds.finite? = some client.retry_backoff_seconds ∧
      parameters.consumer_max_poll_interval_ms.number? =
        some client.consumer_max_poll_interval_ms ∧
      parameters.message_processing_timeout_seconds.finite? =
        some client.message_processing_timeout_seconds := by
  simp only [init, Result.bind_eq_ok] at h
  obtain ⟨retries, hretries, backoff, hbackoff, interval, hinterval, timeout, htimeout,
    replication, hreplication, hbudget⟩ := h
  split at hbudget
  · obtain rfl := Except.ok.inj hbudget
    refine ⟨?_, eq_some_of_requireValue hbackoff, eq_some_of_requireValue hinterval,
      eq_some_of_requireValue htimeout⟩
    rw [eq_some_of_requireValue hretries, Int.toNat_of_nonneg retries.2]
  · simp at hbudget

end KafkaClient

/-! ## The time of one call -/

/-- How long the awaits of one call take, within the limits that the client sets. -/
structure CallTiming (client : KafkaClient) where
  attempt : ℕ → ℚ
  /-- A pause that is cut off by a cancellation. -/
  cutPause : ℕ → ℚ
  park : ℚ
  attempt_le : ∀ n, attempt n ≤ client.message_processing_timeout_seconds
  cutPause_le : ∀ n, cutPause n ≤ retryDelay client.retry_backoff_seconds n
  park_le : park ≤ dlqParkTimeoutSeconds

section Call

variable {client : KafkaClient} (timing : CallTiming client)
  (rt : PythonRuntime) (policy : ConsumePolicy) (record : ConsumerRecord)
  (environment : VisitEnvironment)

/-- `_handle_with_retry` together with the time that it takes. -/
def timedHandling (remaining attempt : ℕ) : Handling × ℚ :=
  match attemptHandling rt record (environment.handler attempt) with
  | .returned => (⟨[.returned], none, .returned⟩, timing.attempt attempt)
  | .cancelled => (⟨[.cancelled], none, .cancelled⟩, timing.attempt attempt)
  | .raised error =>
      if error.isUnrecoverable then
        if policy.park_unrecoverable then
          (parkAfter rt record error environment.park, timing.attempt attempt + timing.park)
        else (⟨[.raised error], none, .raised⟩, timing.attempt attempt)
      else
        match remaining with
        | remaining + 1 =>
            if environment.sleepCancelled attempt then
              (⟨[.raised error], none, .cancelled⟩,
                timing.attempt attempt + timing.cutPause attempt)
            else
              let rest := timedHandling remaining (attempt + 1)
              (⟨.raised error :: rest.1.attempts, rest.1.parking, rest.1.finish⟩,
                timing.attempt attempt +
                  (retryDelay client.retry_backoff_seconds attempt + rest.2))
        | 0 =>
            if policy.retry_forever || error.isDurable then
              (⟨[.raised error], none, .raised⟩, timing.attempt attempt)
            else
              (parkAfter rt record error environment.park, timing.attempt attempt + timing.park)

/-- The time is taken beside the call and changes nothing about it. -/
theorem timedHandling_handling (remaining attempt : ℕ) :
    (timedHandling timing rt policy record environment remaining attempt).1 =
      handleWithRetry rt policy record environment remaining attempt := by
  induction remaining generalizing attempt with
  | zero =>
      rw [timedHandling, handleWithRetry]
      cases attemptHandling rt record (environment.handler attempt) with
      | returned => rfl
      | cancelled => rfl
      | raised error =>
          simp only
          split_ifs <;> rfl
  | succ remaining ih =>
      rw [timedHandling, handleWithRetry]
      cases attemptHandling rt record (environment.handler attempt) with
      | returned => rfl
      | cancelled => rfl
      | raised error =>
          simp only [ih (attempt + 1)]
          split_ifs <;> rfl

/-- What the attempts from `attempt` on can still take. -/
def remainingBudget (client : KafkaClient) (attempt remaining : ℕ) : ℚ :=
  client.message_processing_timeout_seconds * (remaining + 1) +
    ((List.range remaining).map fun i =>
      retryDelay client.retry_backoff_seconds (attempt + i)).sum +
    dlqParkTimeoutSeconds

theorem remainingBudget_succ (attempt remaining : ℕ) :
    remainingBudget client attempt (remaining + 1) =
      client.message_processing_timeout_seconds +
        (retryDelay client.retry_backoff_seconds attempt +
          remainingBudget client (attempt + 1) remaining) := by
  have hpauses : (List.range remaining).map (fun i =>
        retryDelay client.retry_backoff_seconds (attempt + Nat.succ i)) =
      (List.range remaining).map fun i =>
        retryDelay client.retry_backoff_seconds (attempt + 1 + i) := by
    refine List.map_congr_left fun i _ => ?_
    rw [Nat.succ_eq_add_one, ← Nat.add_assoc, Nat.add_right_comm]
  simp only [remainingBudget, List.range_succ_eq_map, List.map_cons, List.sum_cons, List.map_map,
    Function.comp_def, hpauses, Nat.add_zero, Nat.cast_succ]
  ring

theorem retryDelay_nonneg (client : KafkaClient) (attempt : ℕ) :
    0 ≤ retryDelay client.retry_backoff_seconds attempt := by
  have hbackoff := client.backoff_nonneg
  exact le_min (by positivity) (by norm_num)

/-- One attempt and one park fit into any budget. -/
theorem timeout_add_park_le (client : KafkaClient) (attempt remaining : ℕ) :
    client.message_processing_timeout_seconds + dlqParkTimeoutSeconds ≤
      remainingBudget client attempt remaining := by
  have hrest : 0 ≤ client.message_processing_timeout_seconds * remaining :=
    mul_nonneg client.timeout_pos.le (Nat.cast_nonneg remaining)
  have hpauses : 0 ≤ ((List.range remaining).map fun i =>
      retryDelay client.retry_backoff_seconds (attempt + i)).sum := by
    refine List.sum_nonneg fun pause hpause => ?_
    obtain ⟨i, _, rfl⟩ := List.mem_map.mp hpause
    exact retryDelay_nonneg client (attempt + i)
  rw [remainingBudget]
  linarith

theorem dlqParkTimeoutSeconds_nonneg : 0 ≤ dlqParkTimeoutSeconds := by
  norm_num [dlqParkTimeoutSeconds]

theorem remainingBudget_nonneg (client : KafkaClient) (attempt remaining : ℕ) :
    0 ≤ remainingBudget client attempt remaining := by
  have htimeout := client.timeout_pos
  have hpark := dlqParkTimeoutSeconds_nonneg
  have hfirst := timeout_add_park_le client attempt remaining
  linarith

theorem parked_le (attempt remaining : ℕ) :
    timing.attempt attempt + timing.park ≤ remainingBudget client attempt remaining :=
  (add_le_add (timing.attempt_le attempt) timing.park_le).trans
    (timeout_add_park_le client attempt remaining)

theorem unparked_le (attempt remaining : ℕ) :
    timing.attempt attempt ≤ remainingBudget client attempt remaining := by
  have hattempt := timing.attempt_le attempt
  have hpark := dlqParkTimeoutSeconds_nonneg
  have hfirst := timeout_add_park_le client attempt remaining
  linarith

/-- By induction on the retries that are left: each pays for the pause before it and for its
own attempt. -/
theorem timedHandling_le (remaining attempt : ℕ) :
    (timedHandling timing rt policy record environment remaining attempt).2 ≤
      remainingBudget client attempt remaining := by
  induction remaining generalizing attempt with
  | zero =>
      rw [timedHandling]
      cases attemptHandling rt record (environment.handler attempt) with
      | returned => exact unparked_le timing attempt 0
      | cancelled => exact unparked_le timing attempt 0
      | raised error =>
          simp only
          split_ifs
          · exact parked_le timing attempt 0
          · exact unparked_le timing attempt 0
          · exact unparked_le timing attempt 0
          · exact parked_le timing attempt 0
  | succ remaining ih =>
      rw [timedHandling]
      cases attemptHandling rt record (environment.handler attempt) with
      | returned => exact unparked_le timing attempt (remaining + 1)
      | cancelled => exact unparked_le timing attempt (remaining + 1)
      | raised error =>
          simp only
          split_ifs
          · exact parked_le timing attempt (remaining + 1)
          · exact unparked_le timing attempt (remaining + 1)
          · have hrest := remainingBudget_nonneg client (attempt + 1) remaining
            have hattempt := timing.attempt_le attempt
            have hpause := timing.cutPause_le attempt
            rw [remainingBudget_succ]
            linarith
          · rw [remainingBudget_succ]
            exact add_le_add (timing.attempt_le attempt)
              (add_le_add (le_refl _) (ih (attempt + 1)))

/-- One attempt more than there are retries. -/
theorem handleWithRetry_attempts_le (remaining attempt : ℕ) :
    (handleWithRetry rt policy record environment remaining attempt).attempts.length ≤
      remaining + 1 := by
  induction remaining generalizing attempt with
  | zero =>
      rw [handleWithRetry]
      cases attemptHandling rt record (environment.handler attempt) with
      | returned => exact le_refl 1
      | cancelled => exact le_refl 1
      | raised error =>
          simp only
          split_ifs <;> exact le_refl 1
  | succ remaining ih =>
      rw [handleWithRetry]
      cases attemptHandling rt record (environment.handler attempt) with
      | returned => simp
      | cancelled => simp
      | raised error =>
          simp only
          split_ifs
          · simp [parkAfter]
          · simp
          · simp
          · exact Nat.succ_le_succ (ih (attempt + 1))

/-- The call for one record ends five seconds before the poll interval does. -/
theorem timedHandling_fits :
    ((timedHandling timing rt policy record environment client.consumer_max_retries 0).2 + 5)
        * 1000 < client.consumer_max_poll_interval_ms := by
  have htime := timedHandling_le timing rt policy record environment client.consumer_max_retries 0
  have hbudget := client.budget_lt
  simp only [remainingBudget, Nat.zero_add] at htime
  rw [pollCycleBudget, retryDelayBudget] at hbudget
  linarith

end Call

end LibrarySystem
