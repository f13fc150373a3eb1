import LibrarySystem.Delivery.InboxExclusion
import LibrarySystem.Messaging.KafkaClient

/-!
# Poll cycles of the notification consumer

A worker gets a record, and every attempt of its poll cycle claims the event in
the inbox, runs the handler, and records the result.  An attempt that raises is
repeated until the retries are used up, and the record is then parked, whatever
made the attempts raise.  Workers crash, attempts time out at any point, and
records are delivered again to any worker.
-/

namespace LibrarySystem

/-- Why an attempt of a poll cycle raised. -/
inductive AttemptFailure
  | handlerRaised
  | leased
  | refused
  | completionFailed
  | timedOut
deriving DecidableEq

/-- One record of a structurally valid event at its subscribed handler; the
failures of the cycle have the latest first. -/
structure PollCycle where
  delivery : InboxDelivery
  attempt : ℕ
  failures : List AttemptFailure

/-- The answer of `complete` or `fail`; a lost call may have been committed. -/
inductive SettleReply
  | answered
  | lost (stored : Bool)

structure NotificationHost (Worker : Type) where
  inbox : InboxHost Worker
  cycle : Worker → Option PollCycle
  raised : Worker → Bool
  parked : List PollCycle

inductive NotificationAction (Worker : Type)
  | tick (now : ℤ)
  | deliver (worker : Worker) (delivery : InboxDelivery)
  | attempt (worker : Worker)
  | read (worker : Worker) (token : PyStr)
  | select (worker : Worker)
  | insert (worker : Worker)
  | fault (worker : Worker)
  | start (worker : Worker)
  | handled (worker : Worker) (raised : Bool)
  | settle (worker : Worker) (at_time : ℤ) (error : PyStr) (reply : SettleReply)
  | conclude (worker : Worker)
  | timeout (worker : Worker)
  | crash (worker : Worker)

/-- The row of the pair still names the token. -/
def InboxHost.names {Worker : Type} (inbox : InboxHost Worker) (delivery : InboxDelivery)
    (token : PyStr) : Bool :=
  (inbox.rows delivery.key).any fun row =>
    row.claim_token = some token ∧ row.processed_at = none

namespace NotificationHost

variable {Worker : Type} [DecidableEq Worker]

/-- The worker's dispatch is over. -/
def withCycle (host : NotificationHost Worker) (worker : Worker)
    (cycle : Option PollCycle) : NotificationHost Worker :=
  { host with
    inbox := host.inbox.become worker .idle
    cycle := Function.update host.cycle worker cycle }

/-- The attempt raised: try again, or park the record. -/
def failAttempt (config : KafkaConfig) (host : NotificationHost Worker) (worker : Worker)
    (cycle : PollCycle) (failure : AttemptFailure) : NotificationHost Worker :=
  let failed := { cycle with failures := failure :: cycle.failures }
  if cycle.attempt < config.consumer_max_retries then
    host.withCycle worker (some { failed with attempt := cycle.attempt + 1 })
  else { host.withCycle worker none with parked := failed :: host.parked }

/-- `fail` after the handler raised, `complete` after it returned. -/
def settleAction (host : NotificationHost Worker) (worker : Worker) (at_time : ℤ)
    (error : PyStr) : InboxAction Worker :=
  if host.raised worker then .fail worker error else .complete worker at_time

/-- The inbox after the settling call, and whether the row was matched. -/
def settled (lease : ℤ) (host : NotificationHost Worker) (worker : Worker)
    (delivery : InboxDelivery) (token : PyStr) (at_time : ℤ) (error : PyStr) :
    InboxHost Worker × Bool :=
  ((host.inbox.step lease (host.settleAction worker at_time error)).getD host.inbox,
    host.inbox.names delivery token)

def settle (lease : ℤ) (config : KafkaConfig) (host : NotificationHost Worker)
    (worker : Worker) (cycle : PollCycle) (delivery : InboxDelivery) (token : PyStr)
    (at_time : ℤ) (error : PyStr) (reply : SettleReply) : NotificationHost Worker :=
  let (inbox, matched) := host.settled lease worker delivery token at_time error
  let stored := { host with inbox := inbox }
  match reply with
  | .lost committed =>
      (if committed then stored else host).failAttempt config worker cycle
        (if host.raised worker then .handlerRaised else .completionFailed)
  | .answered =>
      if host.raised worker then stored.failAttempt config worker cycle .handlerRaised
      else if matched then stored.withCycle worker none
      else stored.failAttempt config worker cycle .completionFailed

/-- A step of the inbox on behalf of a worker that has a poll cycle. -/
def through (lease : ℤ) (host : NotificationHost Worker) (worker : Worker)
    (action : InboxAction Worker) : Option (NotificationHost Worker) :=
  if (host.cycle worker).isSome then
    (host.inbox.step lease action).map fun inbox => { host with inbox := inbox }
  else none

def step (lease : ℤ) (config : KafkaConfig) (host : NotificationHost Worker) :
    NotificationAction Worker → Option (NotificationHost Worker)
  | .tick now =>
      (host.inbox.step lease (.tick now)).map fun inbox => { host with inbox := inbox }
  | .deliver worker delivery =>
      if host.cycle worker = none ∧ delivery.valid = true ∧
          1 ≤ delivery.identity.contract_version then
        some (host.withCycle worker (some ⟨delivery, 0, []⟩))
      else none
  | .attempt worker => do
      let cycle ← host.cycle worker
      host.through lease worker (.claim worker cycle.delivery)
  | .read worker token => host.through lease worker (.read worker token)
  | .select worker => host.through lease worker (.select worker)
  | .insert worker => host.through lease worker (.insert worker)
  | .fault worker => host.through lease worker (.fault worker)
  | .start worker => host.through lease worker (.start worker)
  | .handled worker raised =>
      (host.through lease worker (.finish worker)).map fun host =>
        { host with raised := Function.update host.raised worker raised }
  | .settle worker at_time error reply => do
      let cycle ← host.cycle worker
      match host.inbox.phase worker with
      | .ended delivery token =>
          some (host.settle lease config worker cycle delivery token at_time error reply)
      | _ => none
  | .conclude worker => do
      let cycle ← host.cycle worker
      match host.inbox.phase worker with
      | .answered _ ⟨.processed, _⟩ => some (host.withCycle worker none)
      | .answered _ ⟨.busy, _⟩ => some (host.failAttempt config worker cycle .leased)
      | .refused _ => some (host.failAttempt config worker cycle .refused)
      | _ => none
  | .timeout worker => do
      let cycle ← host.cycle worker
      if host.inbox.phase worker = .idle then none
      else some (host.failAttempt config worker cycle .timedOut)
  | .crash worker => some (host.withCycle worker none)

end NotificationHost

def notifications (Worker : Type) [DecidableEq Worker] (lease : ℤ)
    (config : KafkaConfig) :
    Machine (NotificationHost Worker) (NotificationAction Worker) where
  initial host :=
    (inboxMachine Worker lease).initial host.inbox ∧ (∀ worker, host.cycle worker = none) ∧
      host.parked = []
  step := NotificationHost.step lease config

/-- The handler itself ran and raised on every attempt of the cycle. -/
def PollCycle.RaisedThroughout (config : KafkaConfig) (cycle : PollCycle) : Prop :=
  cycle.failures = List.replicate (config.consumer_max_retries + 1) .handlerRaised

/-! ## Attempts that fail without the handler -/

/-- The claimed row is leased or carries other metadata. -/
def leasedElsewhere (delivery : InboxDelivery) (seen : ℤ) (row : InboxMessage) : Bool :=
  row.identity ≠ delivery.identity ||
    row.status = .processing && isFuture row.lease_until seen

/-- The step makes an attempt raise although its handler does not: the claimed
row is leased or carries other metadata, a call of the inbox fails, the attempt
times out, or the completion of a returned handler is refused. -/
def NotificationHost.miscounts {Worker : Type} (host : NotificationHost Worker) :
    NotificationAction Worker → Bool
  | .select worker =>
      match host.inbox.phase worker with
      | .opened delivery _ _ seen =>
          (host.inbox.rows delivery.key).any (leasedElsewhere delivery seen)
      | _ => false
  | .fault _ | .timeout _ => true
  | .settle worker _ _ reply =>
      !host.raised worker &&
        match reply, host.inbox.phase worker with
        | .lost _, _ => true
        | .answered, .ended delivery token => !host.inbox.names delivery token
        | .answered, _ => false
  | _ => false

/-- Where a worker stands when no step of its attempt miscounted: a second try
of a claim finds a row. -/
def SoundPhase (rows : InboxKey → Option InboxMessage) : InboxPhase → Prop
  | .idle | .running _ _ | .ended _ _ => True
  | .claiming delivery attempts =>
      1 ≤ delivery.identity.contract_version ∧
        (attempts = 2 ∨ attempts = 1 ∧ rows delivery.key ≠ none)
  | .opened delivery attempts _ _ =>
      1 ≤ delivery.identity.contract_version ∧
        (attempts = 1 ∨ attempts = 0 ∧ rows delivery.key ≠ none)
  | .absent delivery attempts _ _ =>
      1 ≤ delivery.identity.contract_version ∧ attempts = 1
  | .answered _ claim => claim.status ≠ .busy
  | .refused _ => False

theorem SoundPhase.mono
    {rows rows' : InboxKey → Option InboxMessage} {phase : InboxPhase}
    (hsound : SoundPhase rows phase) (hrows : ∀ key, rows key ≠ none → rows' key ≠ none) :
    SoundPhase rows' phase := by
  cases phase with
  | claiming delivery attempts =>
      obtain ⟨hversion, htwo | ⟨hone, hrow⟩⟩ := hsound
      · exact ⟨hversion, Or.inl htwo⟩
      · exact ⟨hversion, Or.inr ⟨hone, hrows _ hrow⟩⟩
  | opened delivery attempts token seen =>
      obtain ⟨hversion, hone | ⟨hzero, hrow⟩⟩ := hsound
      · exact ⟨hversion, Or.inl hone⟩
      · exact ⟨hversion, Or.inr ⟨hzero, hrows _ hrow⟩⟩
  | idle => trivial
  | absent delivery attempts token seen => exact hsound
  | answered delivery claim => exact hsound
  | refused delivery => exact hsound
  | running delivery token => trivial
  | ended delivery token => trivial

def SoundInbox {Worker : Type} (inbox : InboxHost Worker) : Prop :=
  ∀ worker, SoundPhase inbox.rows (inbox.phase worker)

section Inbox

variable {Worker : Type} [DecidableEq Worker] {lease : ℤ} {inbox after : InboxHost Worker}

theorem SoundInbox.become
    (hsound : SoundInbox inbox) {worker : Worker} {phase : InboxPhase}
    (hphase : SoundPhase inbox.rows phase) : SoundInbox (inbox.become worker phase) := by
  intro other
  by_cases hother : other = worker
  · subst hother
    simpa [InboxHost.become] using hphase
  · simpa [InboxHost.become, hother] using hsound other

omit [DecidableEq Worker] in
theorem InboxHost.store_keeps
    (inbox : InboxHost Worker) (stored : InboxKey) (row : InboxMessage) (key : InboxKey)
    (hrow : inbox.rows key ≠ none) : (inbox.store stored row).rows key ≠ none := by
  by_cases hkey : key = stored
  · subst hkey
    simp [InboxHost.store]
  · simpa [InboxHost.store, hkey] using hrow

omit [DecidableEq Worker] in
theorem SoundInbox.store
    (hsound : SoundInbox inbox) (key : InboxKey) (row : InboxMessage) :
    SoundInbox (inbox.store key row) :=
  fun worker => (hsound worker).mono (inbox.store_keeps key row)

theorem SoundInbox.grant
    (hsound : SoundInbox inbox) (worker : Worker) (delivery : InboxDelivery)
    (token : PyStr) (lease_until : ℤ) (row : InboxMessage) :
    SoundInbox (inbox.grant worker delivery token lease_until row) := by
  have hanswered : SoundPhase (inbox.store delivery.key row).rows
      (.answered delivery ⟨.claimed, some token⟩) := by
    simp [SoundPhase]
  exact (hsound.store delivery.key row).become hanswered

/-- A claim that finds no leased row and no other metadata. -/
theorem SoundInbox.select
    (hsound : SoundInbox inbox) {worker : Worker} {delivery : InboxDelivery} {attempts : ℕ}
    {token : PyStr} {seen : ℤ}
    (hphase : inbox.phase worker = .opened delivery attempts token seen)
    (hfree : (inbox.rows delivery.key).any (leasedElsewhere delivery seen) = false) :
    SoundInbox (inbox.select lease worker delivery attempts token seen) := by
  have hopened := hsound worker
  rw [hphase] at hopened
  unfold InboxHost.select
  cases hrow : inbox.rows delivery.key with
  | none =>
      simp only [decideClaim]
      refine hsound.become ⟨hopened.1, ?_⟩
      rcases hopened.2 with hone | ⟨-, hexists⟩
      · exact hone
      · exact (hexists hrow).elim
  | some row =>
      rw [hrow, Option.any_some, leasedElsewhere, Bool.or_eq_false_iff] at hfree
      have hidentity : row.identity = delivery.identity := by simpa using hfree.1
      have hbusy : ¬ (decide (row.status = .processing) &&
          isFuture row.lease_until seen) = true := by
        rw [hfree.2]
        exact Bool.false_ne_true
      simp only [decideClaim, hidentity, ne_eq, not_true, if_false]
      by_cases hprocessed : (row.processed_at.isSome ||
          decide (row.status = .processed)) = true
      · rw [if_pos hprocessed]
        exact hsound.become (by simp [SoundPhase])
      · rw [if_neg hprocessed, if_neg hbusy]
        exact hsound.grant worker delivery token (seen + lease) _

theorem SoundInbox.insert
    (hsound : SoundInbox inbox) {worker : Worker} {delivery : InboxDelivery} {attempts : ℕ}
    {token : PyStr} {seen : ℤ}
    (hphase : inbox.phase worker = .absent delivery attempts token seen) :
    SoundInbox (inbox.insert lease worker delivery attempts token seen) := by
  have habsent := hsound worker
  rw [hphase] at habsent
  obtain ⟨hversion, rfl⟩ := habsent
  unfold InboxHost.insert
  by_cases hrow : inbox.rows delivery.key = none
  · rw [if_pos ⟨hrow, hversion⟩]
    exact hsound.grant worker delivery token (seen + lease) _
  · rw [if_neg (fun hinsert => hrow hinsert.1)]
    exact hsound.become ⟨hversion, Or.inr ⟨rfl, hrow⟩⟩

/-- The steps of an attempt that does not miscount. -/
theorem SoundInbox.step
    {host : NotificationHost Worker} {worker : Worker} (token : PyStr)
    (hsound : SoundInbox host.inbox) {action : InboxAction Worker}
    (haction : action = .read worker token ∨ action = .insert worker ∨
      action = .start worker ∨ action = .finish worker ∨
        action = .select worker ∧ host.miscounts (.select worker) = false)
    (hstep : host.inbox.step lease action = some after) : SoundInbox after := by
  rcases haction with rfl | rfl | rfl | rfl | ⟨rfl, hmiscounts⟩
  · simp only [InboxHost.step] at hstep
    split at hstep
    · rename_i delivery attempts hphase
      have hclaiming := hsound worker
      rw [hphase] at hclaiming
      split at hstep
      · cases hstep
      · obtain rfl := Option.some.inj hstep
        refine hsound.become ⟨hclaiming.1, ?_⟩
        rcases hclaiming.2 with htwo | ⟨hone, hrow⟩
        · exact Or.inl (by omega)
        · exact Or.inr ⟨by omega, hrow⟩
    · cases hstep
  · simp only [InboxHost.step] at hstep
    split at hstep
    · rename_i hphase
      obtain rfl := Option.some.inj hstep
      exact hsound.insert hphase
    · cases hstep
  · simp only [InboxHost.step] at hstep
    split at hstep
    · obtain rfl := Option.some.inj hstep
      exact hsound.become trivial
    · cases hstep
  · simp only [InboxHost.step] at hstep
    split at hstep
    · obtain rfl := Option.some.inj hstep
      exact hsound.become trivial
    · cases hstep
  · simp only [InboxHost.step] at hstep
    split at hstep
    · rename_i delivery attempts token seen hphase
      obtain rfl := Option.some.inj hstep
      simp only [NotificationHost.miscounts, hphase] at hmiscounts
      exact hsound.select hphase hmiscounts
    · cases hstep

theorem SoundInbox.settle
    (hsound : SoundInbox inbox) (lease : ℤ) {worker : Worker} {action : InboxAction Worker}
    (haction : (∃ processed_at, action = .complete worker processed_at) ∨
      ∃ error, action = .fail worker error) :
    SoundInbox ((inbox.step lease action).getD inbox) := by
  cases hstep : inbox.step lease action with
  | none => exact hsound
  | some after =>
      rw [Option.getD_some]
      rcases haction with ⟨processed_at, rfl⟩ | ⟨error, rfl⟩
      · simp only [InboxHost.step] at hstep
        split at hstep
        · split at hstep
          · obtain rfl := Option.some.inj hstep
            exact hsound.store _ _
          · obtain rfl := Option.some.inj hstep
            exact hsound
        · cases hstep
      · simp only [InboxHost.step] at hstep
        split at hstep
        · split at hstep
          · obtain rfl := Option.some.inj hstep
            exact hsound.store _ _
          · obtain rfl := Option.some.inj hstep
            exact hsound
        · cases hstep

end Inbox

/-! ## The invariant -/

/-- Every failure so far is an exception of the handler. -/
structure SoundCycle (config : KafkaConfig) (cycle : PollCycle) : Prop where
  failures : cycle.failures = List.replicate cycle.attempt .handlerRaised
  within : cycle.attempt ≤ config.consumer_max_retries
  valid : cycle.delivery.valid = true
  version : 1 ≤ cycle.delivery.identity.contract_version

structure SoundHost {Worker : Type} (config : KafkaConfig)
    (host : NotificationHost Worker) : Prop where
  inbox : SoundInbox host.inbox
  cycles : ∀ worker cycle, host.cycle worker = some cycle → SoundCycle config cycle
  parked : ∀ cycle ∈ host.parked, cycle.RaisedThroughout config

section Steps

variable {Worker : Type} [DecidableEq Worker] {lease : ℤ} {config : KafkaConfig}
  {host after : NotificationHost Worker}

omit [DecidableEq Worker] in
theorem SoundHost.withInbox
    (hsound : SoundHost config host) {inbox : InboxHost Worker}
    (hinbox : SoundInbox inbox) : SoundHost config { host with inbox := inbox } :=
  ⟨hinbox, hsound.cycles, hsound.parked⟩

theorem SoundHost.withCycle
    (hsound : SoundHost config host) (worker : Worker) {cycle : Option PollCycle}
    (hcycle : ∀ started, cycle = some started → SoundCycle config started) :
    SoundHost config (host.withCycle worker cycle) := by
  refine ⟨hsound.inbox.become trivial, fun other started hother => ?_, hsound.parked⟩
  by_cases hsame : other = worker
  · subst hsame
    exact hcycle started (by simpa [NotificationHost.withCycle] using hother)
  · exact hsound.cycles other started
      (by simpa [NotificationHost.withCycle, hsame] using hother)

theorem SoundHost.failAttempt
    (hsound : SoundHost config host) {worker : Worker} {cycle : PollCycle}
    (hcycle : SoundCycle config cycle) :
    SoundHost config (host.failAttempt config worker cycle .handlerRaised) := by
  have hfailures : AttemptFailure.handlerRaised :: cycle.failures =
      List.replicate (cycle.attempt + 1) .handlerRaised := by
    rw [hcycle.failures, List.replicate_succ]
  unfold NotificationHost.failAttempt
  by_cases hretry : cycle.attempt < config.consumer_max_retries
  · simp only [hretry, if_true]
    refine hsound.withCycle worker fun started hstarted => ?_
    obtain rfl := Option.some.inj hstarted
    exact ⟨hfailures, hretry, hcycle.valid, hcycle.version⟩
  · simp only [hretry, if_false]
    have hwithout : SoundHost config (host.withCycle worker none) :=
      hsound.withCycle worker fun started hstarted => by cases hstarted
    refine ⟨hwithout.inbox, hwithout.cycles, fun parked hparked => ?_⟩
    rcases List.mem_cons.mp hparked with rfl | hold
    · have hlast : cycle.attempt = config.consumer_max_retries :=
        Nat.le_antisymm hcycle.within (not_lt.mp hretry)
      rw [PollCycle.RaisedThroughout, ← hlast]
      exact hfailures
    · exact hsound.parked parked hold

theorem SoundHost.through
    (hsound : SoundHost config host) {worker : Worker} {action : InboxAction Worker}
    (hinbox : ∀ inbox, host.inbox.step lease action = some inbox → SoundInbox inbox)
    (hstep : host.through lease worker action = some after) : SoundHost config after := by
  unfold NotificationHost.through at hstep
  split at hstep
  · obtain ⟨inbox, hinboxStep, rfl⟩ := Option.map_eq_some_iff.mp hstep
    exact hsound.withInbox (hinbox inbox hinboxStep)
  · cases hstep

theorem SoundHost.settle
    (hsound : SoundHost config host) {worker : Worker} {cycle : PollCycle}
    (hcycle : SoundCycle config cycle) {delivery : InboxDelivery} {token error : PyStr}
    {at_time : ℤ} {reply : SettleReply}
    (hphase : host.inbox.phase worker = .ended delivery token)
    (hallowed : host.miscounts (.settle worker at_time error reply) = false) :
    SoundHost config
      (host.settle lease config worker cycle delivery token at_time error reply) := by
  have haction : (∃ processed_at, host.settleAction worker at_time error =
        .complete worker processed_at) ∨
      ∃ error', host.settleAction worker at_time error = .fail worker error' := by
    unfold NotificationHost.settleAction
    split
    · exact Or.inr ⟨error, rfl⟩
    · exact Or.inl ⟨at_time, rfl⟩
  have hstored := hsound.withInbox (hsound.inbox.settle lease haction)
  cases hraised : host.raised worker with
  | true =>
      cases reply with
      | answered =>
          simp only [NotificationHost.settle, NotificationHost.settled, hraised, if_true]
          exact hstored.failAttempt hcycle
      | lost stored =>
          simp only [NotificationHost.settle, NotificationHost.settled, hraised, if_true]
          cases stored with
          | true => exact hstored.failAttempt hcycle
          | false => exact hsound.failAttempt hcycle
  | false =>
      cases reply with
      | lost stored => simp [NotificationHost.miscounts, hraised] at hallowed
      | answered =>
          have hmatched : host.inbox.names delivery token = true := by
            simpa [NotificationHost.miscounts, hraised, hphase] using hallowed
          simp only [NotificationHost.settle, NotificationHost.settled, hraised,
            Bool.false_eq_true, if_false, hmatched, if_true]
          exact hstored.withCycle worker fun started hstarted => by cases hstarted

theorem SoundHost.step
    (hsound : SoundHost config host) {action : NotificationAction Worker}
    (hallowed : host.miscounts action = false)
    (hstep : host.step lease config action = some after) : SoundHost config after := by
  cases action with
  | tick now =>
      obtain ⟨inbox, hinbox, rfl⟩ := Option.map_eq_some_iff.mp hstep
      simp only [InboxHost.step] at hinbox
      split at hinbox
      · obtain rfl := Option.some.inj hinbox
        exact hsound.withInbox hsound.inbox
      · cases hinbox
  | deliver worker delivery =>
      simp only [NotificationHost.step] at hstep
      split at hstep
      · rename_i hdeliver
        obtain rfl := Option.some.inj hstep
        refine hsound.withCycle worker fun started hstarted => ?_
        obtain rfl := Option.some.inj hstarted
        exact ⟨rfl, Nat.zero_le _, hdeliver.2.1, hdeliver.2.2⟩
      · cases hstep
  | attempt worker =>
      obtain ⟨cycle, hcycle, hthrough⟩ := Option.bind_eq_some_iff.mp hstep
      have hsoundCycle := hsound.cycles worker cycle hcycle
      refine hsound.through (fun inbox hinbox => ?_) hthrough
      simp only [InboxHost.step, hsoundCycle.valid, if_true] at hinbox
      split at hinbox
      · obtain rfl := Option.some.inj hinbox
        exact hsound.inbox.become ⟨hsoundCycle.version, Or.inl rfl⟩
      · cases hinbox
  | read worker token =>
      exact hsound.through (fun inbox => hsound.inbox.step token
        (Or.inl rfl)) hstep
  | select worker =>
      exact hsound.through (fun inbox => hsound.inbox.step []
        (Or.inr (Or.inr (Or.inr (Or.inr ⟨rfl, hallowed⟩))))) hstep
  | insert worker =>
      exact hsound.through (fun inbox => hsound.inbox.step []
        (Or.inr (Or.inl rfl))) hstep
  | fault worker => cases hallowed
  | start worker =>
      exact hsound.through (fun inbox => hsound.inbox.step []
        (Or.inr (Or.inr (Or.inl rfl)))) hstep
  | handled worker raised =>
      obtain ⟨handled, hthrough, rfl⟩ := Option.map_eq_some_iff.mp hstep
      have hhandled : SoundHost config handled :=
        hsound.through (fun inbox => hsound.inbox.step []
          (Or.inr (Or.inr (Or.inr (Or.inl rfl))))) hthrough
      exact ⟨hhandled.inbox, hhandled.cycles, hhandled.parked⟩
  | settle worker at_time error reply =>
      obtain ⟨cycle, hcycle, hsettle⟩ := Option.bind_eq_some_iff.mp hstep
      split at hsettle
      · rename_i hphase
        obtain rfl := Option.some.inj hsettle
        exact hsound.settle (hsound.cycles worker cycle hcycle) hphase hallowed
      · cases hsettle
  | conclude worker =>
      obtain ⟨cycle, hcycle, hconclude⟩ := Option.bind_eq_some_iff.mp hstep
      have hphaseSound := hsound.inbox worker
      split at hconclude
      · obtain rfl := Option.some.inj hconclude
        exact hsound.withCycle worker fun started hstarted => by cases hstarted
      · rename_i hphase
        rw [hphase] at hphaseSound
        exact (hphaseSound rfl).elim
      · rename_i hphase
        rw [hphase] at hphaseSound
        exact hphaseSound.elim
      · cases hconclude
  | timeout worker => cases hallowed
  | crash worker =>
      obtain rfl := Option.some.inj hstep
      exact hsound.withCycle worker fun started hstarted => by cases hstarted

end Steps

/-- In a run in which no step miscounts, a record is parked only after its
handler raised on every attempt of the cycle. -/
theorem parked_after_handler_raised
    (Worker : Type) [DecidableEq Worker] (lease : ℤ) (config : KafkaConfig)
    (host : NotificationHost Worker)
    (hreach : (notifications Worker lease config).ReachableUnder
      (fun host action => !host.miscounts action) host)
    (cycle : PollCycle) (hparked : cycle ∈ host.parked) :
    cycle.RaisedThroughout config := by
  have hsound : SoundHost config host := by
    refine hreach.invariant ?_ ?_
    · rintro start ⟨⟨-, hphases, -⟩, hcycles, hnone⟩
      refine ⟨fun worker => ?_, fun worker cycle h => ?_, fun cycle h => ?_⟩
      · rw [hphases]
        trivial
      · simp [hcycles] at h
      · simp [hnone] at h
    · intro before action after _ hinv hallowed hstep
      exact hinv.step (by simpa using hallowed) hstep
  exact hsound.parked cycle hparked

def idleNotifications : NotificationHost ℕ :=
  { inbox := ⟨fun _ => none, 0, fun _ => .idle, [], [], []⟩
    cycle := fun _ => none
    raised := fun _ => false
    parked := [] }

theorem parked_after_handler_raised_sample :
    ∃ (host : NotificationHost ℕ) (cycle : PollCycle), host.parked = [cycle] ∧
      cycle.RaisedThroughout ⟨1⟩ := by
  let actions : List (NotificationAction ℕ) :=
    [.deliver 0 sampleDelivery, .attempt 0, .read 0 (py "a"), .select 0, .insert 0,
      .start 0, .handled 0 true, .settle 0 1 (py "smtp") .answered,
      .attempt 0, .read 0 (py "b"), .select 0,
      .start 0, .handled 0 true, .settle 0 2 (py "smtp") .answered]
  have hresult : ((notifications ℕ 300 ⟨1⟩).executeUnder
      (fun host action => !host.miscounts action) idleNotifications actions).map
        (fun host => host.parked.length) = some 1 := by
    decide +kernel
  obtain ⟨host, hrun, hlength⟩ := Option.map_eq_some_iff.mp hresult
  obtain ⟨cycle, hparked⟩ := List.length_eq_one_iff.mp hlength
  have hstart : (notifications ℕ 300 ⟨1⟩).ReachableUnder
      (fun host action => !host.miscounts action) idleNotifications :=
    .start ⟨⟨fun _ => rfl, fun _ => rfl, rfl, rfl, rfl⟩, fun _ => rfl, rfl⟩
  refine ⟨host, cycle, hparked, ?_⟩
  exact parked_after_handler_raised ℕ 300 ⟨1⟩ host (hstart.executeUnder hrun) cycle
    (by rw [hparked]; exact List.mem_singleton_self cycle)

/-- A worker crashes within its lease; the next one finds the row leased on both
of its attempts and parks a record whose handler never raised. -/
theorem leased_record_parked :
    ∃ (host : NotificationHost ℕ) (cycle : PollCycle),
      (notifications ℕ 300 ⟨1⟩).Reachable host ∧ cycle ∈ host.parked ∧
        cycle.failures = [.leased, .leased] ∧ ¬ cycle.RaisedThroughout ⟨1⟩ := by
  let actions : List (NotificationAction ℕ) :=
    [.deliver 0 sampleDelivery, .attempt 0, .read 0 (py "a"), .select 0, .insert 0,
      .start 0, .crash 0, .tick 5,
      .deliver 1 sampleDelivery, .attempt 1, .read 1 (py "b"), .select 1, .conclude 1,
      .tick 6, .attempt 1, .read 1 (py "c"), .select 1, .conclude 1]
  have hresult : ((notifications ℕ 300 ⟨1⟩).execute idleNotifications actions).map
      (fun host => host.parked.map PollCycle.failures) = some [[.leased, .leased]] := by
    decide +kernel
  obtain ⟨host, hrun, hfailures⟩ := Option.map_eq_some_iff.mp hresult
  obtain ⟨cycle, hcycle, hleased⟩ : ∃ cycle ∈ host.parked,
      cycle.failures = [.leased, .leased] := by
    rw [← List.mem_map, hfailures]
    exact List.mem_singleton_self _
  have hstart : (notifications ℕ 300 ⟨1⟩).Reachable idleNotifications :=
    .start ⟨⟨fun _ => rfl, fun _ => rfl, rfl, rfl, rfl⟩, fun _ => rfl, rfl⟩
  refine ⟨host, cycle, hstart.execute hrun, hcycle, hleased, ?_⟩
  rw [PollCycle.RaisedThroughout, hleased]
  decide

/-! ## The retry loop -/

section Loop

variable {rt : PythonRuntime} {policy : ConsumePolicy} {record : ConsumerRecord}
  {environment : VisitEnvironment}

/-- The attempt raises what the loop answers with another one. -/
def VisitEnvironment.Retriable (environment : VisitEnvironment) (rt : PythonRuntime)
    (record : ConsumerRecord) (attempt : ℕ) : Prop :=
  environment.sleepCancelled attempt = false ∧
    ∃ error, attemptHandling rt record (environment.handler attempt) = .raised error ∧
      error.isUnrecoverable = false ∧ error.isDurable = false

/-- The loop after a number of attempts that raised. -/
theorem handleWithRetry_from (policy : ConsumePolicy) {failed remaining : ℕ} (attempt : ℕ)
    (hfailed : failed ≤ remaining)
    (hraises : ∀ earlier < failed, environment.Retriable rt record (attempt + earlier)) :
    let rest := handleWithRetry rt policy record environment (remaining - failed)
      (attempt + failed)
    let whole := handleWithRetry rt policy record environment remaining attempt
    whole.attempts.length = failed + rest.attempts.length ∧ whole.parking = rest.parking ∧
      whole.finish = rest.finish := by
  induction failed generalizing remaining attempt with
  | zero => simp
  | succ failed ih =>
      obtain ⟨remaining, rfl⟩ : ∃ fewer, remaining = fewer + 1 :=
        ⟨remaining - 1, by omega⟩
      obtain ⟨hsleep, error, hraised, hrecoverable, -⟩ := hraises 0 (Nat.succ_pos failed)
      rw [Nat.add_zero] at hsleep hraised
      have hlater : ∀ earlier < failed,
          environment.Retriable rt record (attempt + 1 + earlier) := by
        intro earlier hearlier
        have hnext := hraises (earlier + 1) (by omega)
        rwa [show attempt + (earlier + 1) = attempt + 1 + earlier by omega] at hnext
      obtain ⟨hlength, hparking, hfinish⟩ :=
        ih (attempt + 1) (Nat.le_of_succ_le_succ hfailed) hlater
      have hleft : remaining + 1 - (failed + 1) = remaining - failed := by omega
      have hnext : attempt + (failed + 1) = attempt + 1 + failed := by omega
      rw [hleft, hnext]
      dsimp only
      rw [handleWithRetry, hraised]
      simp only [hrecoverable, hsleep, Bool.false_eq_true, if_false, List.length_cons]
      exact ⟨by omega, hparking, hfinish⟩

/-- After the last retry the record is parked. -/
theorem handleWithRetry_parks {attempt : ℕ}
    (hraises : environment.Retriable rt record attempt) :
    let handling := handleWithRetry rt ⟨false, true⟩ record environment 0 attempt
    handling.attempts.length = 1 ∧ handling.parking.isSome = true := by
  obtain ⟨-, error, hraised, hrecoverable, hfleeting⟩ := hraises
  simp [handleWithRetry, hraised, hrecoverable, hfleeting, parkAfter]

end Loop

section Counted

variable {Worker : Type} [DecidableEq Worker] {lease : ℤ} {config : KafkaConfig}
  {host after : NotificationHost Worker}

/-- What a step does to the cycles: nothing, or it starts one, ends one, or fails an attempt. -/
theorem NotificationHost.step_cycles {action : NotificationAction Worker}
    (hstep : host.step lease config action = some after) :
    ∃ base : NotificationHost Worker, base.cycle = host.cycle ∧ base.parked = host.parked ∧
      (after = base ∨ ∃ worker, after = base.withCycle worker none ∨
        (∃ delivery, after = base.withCycle worker (some ⟨delivery, 0, []⟩)) ∨
        ∃ cycle failure, host.cycle worker = some cycle ∧
          after = base.failAttempt config worker cycle failure) := by
  have hthrough : ∀ {worker : Worker} {action : InboxAction Worker}
      {reached : NotificationHost Worker}, host.through lease worker action = some reached →
        reached.cycle = host.cycle ∧ reached.parked = host.parked := by
    intro worker action reached hreached
    unfold NotificationHost.through at hreached
    split at hreached
    · obtain ⟨inbox, -, rfl⟩ := Option.map_eq_some_iff.mp hreached
      exact ⟨rfl, rfl⟩
    · cases hreached
  cases action with
  | tick now =>
      obtain ⟨inbox, -, rfl⟩ := Option.map_eq_some_iff.mp hstep
      exact ⟨{ host with inbox := inbox }, rfl, rfl, Or.inl rfl⟩
  | deliver worker delivery =>
      simp only [NotificationHost.step] at hstep
      split at hstep
      · cases hstep
        exact ⟨host, rfl, rfl, Or.inr ⟨worker, Or.inr (Or.inl ⟨delivery, rfl⟩)⟩⟩
      · cases hstep
  | attempt worker =>
      obtain ⟨cycle, -, hstep⟩ := Option.bind_eq_some_iff.mp hstep
      exact ⟨after, (hthrough hstep).1, (hthrough hstep).2, Or.inl rfl⟩
  | read worker _ | select worker | insert worker | fault worker | start worker =>
      exact ⟨after, (hthrough hstep).1, (hthrough hstep).2, Or.inl rfl⟩
  | handled worker raised =>
      obtain ⟨handled, hhandled, rfl⟩ := Option.map_eq_some_iff.mp hstep
      exact ⟨{ handled with raised := Function.update handled.raised worker raised },
        (hthrough hhandled).1, (hthrough hhandled).2, Or.inl rfl⟩
  | settle worker at_time error reply =>
      obtain ⟨cycle, hcycle, hsettle⟩ := Option.bind_eq_some_iff.mp hstep
      split at hsettle
      · rename_i delivery token _
        cases hsettle
        rcases hsettled : host.settled lease worker delivery token at_time error with
          ⟨inbox, matched⟩
        let stored : NotificationHost Worker := { host with inbox := inbox }
        simp only [NotificationHost.settle, hsettled]
        cases reply with
        | lost committed =>
            refine ⟨if committed then stored else host, ?_, ?_,
              Or.inr ⟨worker, Or.inr (Or.inr ⟨cycle, _, hcycle, rfl⟩)⟩⟩ <;> split <;> rfl
        | answered =>
            refine ⟨stored, rfl, rfl, Or.inr ⟨worker, ?_⟩⟩
            dsimp only
            split_ifs
            · exact Or.inr (Or.inr ⟨cycle, _, hcycle, rfl⟩)
            · exact Or.inl rfl
            · exact Or.inr (Or.inr ⟨cycle, _, hcycle, rfl⟩)
      · cases hsettle
  | conclude worker =>
      obtain ⟨cycle, hcycle, hconclude⟩ := Option.bind_eq_some_iff.mp hstep
      split at hconclude <;> cases hconclude
      · exact ⟨host, rfl, rfl, Or.inr ⟨worker, Or.inl rfl⟩⟩
      · exact ⟨host, rfl, rfl, Or.inr ⟨worker, Or.inr (Or.inr ⟨cycle, _, hcycle, rfl⟩)⟩⟩
      · exact ⟨host, rfl, rfl, Or.inr ⟨worker, Or.inr (Or.inr ⟨cycle, _, hcycle, rfl⟩)⟩⟩
  | timeout worker =>
      obtain ⟨cycle, hcycle, htimeout⟩ := Option.bind_eq_some_iff.mp hstep
      split at htimeout <;> cases htimeout
      exact ⟨host, rfl, rfl, Or.inr ⟨worker, Or.inr (Or.inr ⟨cycle, _, hcycle, rfl⟩)⟩⟩
  | crash worker =>
      cases hstep
      exact ⟨host, rfl, rfl, Or.inr ⟨worker, Or.inl rfl⟩⟩

/-- The failures of a cycle are its attempts so far, and a parked one has used them up. -/
structure CountedHost (config : KafkaConfig) (host : NotificationHost Worker) : Prop where
  cycles : ∀ worker cycle, host.cycle worker = some cycle →
    cycle.failures.length = cycle.attempt ∧ cycle.attempt ≤ config.consumer_max_retries
  parked : ∀ cycle ∈ host.parked, cycle.failures.length = config.consumer_max_retries + 1

theorem CountedHost.withCycle (hcounted : CountedHost config host) (worker : Worker)
    {cycle : Option PollCycle} (hcycle : ∀ started, cycle = some started →
      started.failures.length = started.attempt ∧
        started.attempt ≤ config.consumer_max_retries) :
    CountedHost config (host.withCycle worker cycle) where
  cycles := by
    intro other started hother
    by_cases hsame : other = worker
    · subst hsame
      exact hcycle started (by simpa [NotificationHost.withCycle] using hother)
    · exact hcounted.cycles other started
        (by simpa [NotificationHost.withCycle, hsame] using hother)
  parked := hcounted.parked

theorem CountedHost.withoutCycle (hcounted : CountedHost config host) (worker : Worker) :
    CountedHost config (host.withCycle worker none) :=
  hcounted.withCycle worker fun started hstarted => by cases hstarted

theorem CountedHost.failAttempt (hcounted : CountedHost config host) {worker : Worker}
    {cycle : PollCycle} (hcycle : cycle.failures.length = cycle.attempt ∧
      cycle.attempt ≤ config.consumer_max_retries) (failure : AttemptFailure) :
    CountedHost config (host.failAttempt config worker cycle failure) := by
  obtain ⟨hlength, hwithin⟩ := hcycle
  unfold NotificationHost.failAttempt
  dsimp only
  split
  · rename_i hretry
    refine hcounted.withCycle worker fun started hstarted => ?_
    cases hstarted
    exact ⟨by simp [hlength], hretry⟩
  · refine ⟨(hcounted.withoutCycle worker).cycles, fun parked hparked => ?_⟩
    rcases List.mem_cons.mp hparked with rfl | hold
    · simp only [List.length_cons]
      omega
    · exact hcounted.parked parked hold

theorem CountedHost.step {action : NotificationAction Worker}
    (hcounted : CountedHost config host)
    (hstep : host.step lease config action = some after) : CountedHost config after := by
  obtain ⟨base, hcycles, hparked, heffect⟩ := NotificationHost.step_cycles hstep
  have hbase : CountedHost config base :=
    ⟨fun worker cycle hcycle => hcounted.cycles worker cycle (hcycles ▸ hcycle),
      fun cycle hcycle => hcounted.parked cycle (hparked ▸ hcycle)⟩
  rcases heffect with rfl | ⟨worker, rfl | ⟨delivery, rfl⟩ | ⟨cycle, failure, hcycle, rfl⟩⟩
  · exact hbase
  · exact hbase.withoutCycle worker
  · refine hbase.withCycle worker fun started hstarted => ?_
    cases hstarted
    exact ⟨rfl, Nat.zero_le _⟩
  · exact hbase.failAttempt (hcounted.cycles worker cycle hcycle) failure

/-- A poll cycle is a call of the client's loop.  Where the loop's attempts raise as those of
the cycle did, it stands at the same attempt with the same retries left, and it parks the record
after the attempts of a parked cycle. -/
theorem cycle_follows_loop
    (hreach : (notifications Worker lease config).Reachable host)
    (rt : PythonRuntime) (record : ConsumerRecord) (environment : VisitEnvironment) :
    let loop := handleWithRetry rt ⟨false, true⟩ record environment
    let call := loop config.consumer_max_retries 0
    (∀ worker cycle, host.cycle worker = some cycle →
      (∀ attempt < cycle.failures.length, environment.Retriable rt record attempt) →
      let rest := loop (config.consumer_max_retries - cycle.attempt) cycle.attempt
      call.attempts.length = cycle.failures.length + rest.attempts.length ∧
        call.parking = rest.parking ∧ call.finish = rest.finish) ∧
    ∀ cycle ∈ host.parked,
      (∀ attempt < cycle.failures.length, environment.Retriable rt record attempt) →
      call.attempts.length = cycle.failures.length ∧ call.parking.isSome = true := by
  have hcounted : CountedHost config host := by
    refine hreach.invariant ?_ fun _ _ _ _ hinv hstep => hinv.step hstep
    rintro start ⟨-, hcycles, hnone⟩
    exact ⟨fun worker cycle hcycle => (by simp [hcycles] at hcycle),
      fun cycle hcycle => (by simp [hnone] at hcycle)⟩
  refine ⟨fun worker cycle hcycle hraises => ?_, fun cycle hparked hraises => ?_⟩
  · obtain ⟨hlength, hwithin⟩ := hcounted.cycles worker cycle hcycle
    rw [hlength] at hraises ⊢
    have hfrom := handleWithRetry_from ⟨false, true⟩ 0 hwithin
      fun earlier hearlier => by simpa using hraises earlier hearlier
    simpa using hfrom
  · have hlength := hcounted.parked cycle hparked
    rw [hlength] at hraises ⊢
    obtain ⟨hattempts, hparking, -⟩ := handleWithRetry_from ⟨false, true⟩ 0 le_rfl
      fun earlier hearlier => by
        simpa using hraises earlier (Nat.lt_succ_of_lt hearlier)
    obtain ⟨hlast, hparks⟩ := handleWithRetry_parks (hraises _ (Nat.lt_succ_self _))
    simp only [Nat.sub_self, Nat.zero_add] at hattempts hparking
    exact ⟨by rw [hattempts, hlast], by rw [hparking]; exact hparks⟩

end Counted

end LibrarySystem
