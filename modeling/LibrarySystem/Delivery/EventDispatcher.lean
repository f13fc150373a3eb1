import LibrarySystem.Delivery.Inbox
import LibrarySystem.Events.Consumer
import LibrarySystem.Foundation.Method

/-!
# The event dispatcher

`dispatch` goes through the subscription map and attempts every registration
whose event type fits.  What an attempt calls is logged with the answer it got.
The answers of the handlers and of the inbox are part of the input, one set for
each registration, so that every pattern of failures is a value of it.  What they
raise is an `Exception`; a cancellation, which no clause of `dispatch` catches, is
not modelled.
-/

namespace LibrarySystem

/-- What can be raised while an event is dispatched. -/
inductive DispatchException (ε : Type)
  | other (error : ε)
  | registry (error : RegistryException)
  | unicodeEncodeError
  | typeError (message : PyStr)
  | runtimeError (message : PyStr)
  | eventDispatcher (message : PyStr) (original : DispatchException ε)

/-- What names a handler: its own consumer name, or its class. -/
structure HandlerObject where
  inbox_consumer_name : Option PyStr
  module_ : PyStr
  qualname : PyStr

/-- `_handler_name` -/
def HandlerObject.handlerName (handler : HandlerObject) : PyStr :=
  match handler.inbox_consumer_name with
  | some explicit =>
      if PyStr.strip explicit ≠ [] then explicit
      else handler.module_ ++ py "." ++ handler.qualname
  | none => handler.module_ ++ py "." ++ handler.qualname

/-- A handler, a provider with what calling it gives (`none` is an object without
`handle`), or an object that is neither. -/
inductive Registration (ε : Type)
  | handler (self : HandlerObject)
  | provider (built : Except (DispatchException ε) (Option HandlerObject))
  | uncallable

/-- `_resolve_handler` -/
def resolveHandler {ε : Type} : Registration ε → Except (DispatchException ε) HandlerObject
  | .handler self => .ok self
  | .provider built =>
      built.bind fun handler =>
        handler.elim
          (.error (.typeError (py "Event subscription must resolve to an event handler"))) .ok
  | .uncallable =>
      .error (.typeError (py "Event subscription must resolve to an event handler"))

/-- What the handler and the inbox answer during one attempt. -/
structure Answers (ε : Type) where
  handle : DomainEvent → Except (DispatchException ε) Unit
  claim : InboxDelivery → Except (DispatchException ε) InboxClaim
  complete : InboxKey → PyStr → Except (DispatchException ε) Unit
  fail : InboxKey → PyStr → DispatchException ε → Except (DispatchException ε) Unit

/-- A registration of the subscription map with the answers it will meet. -/
structure Subscription (ε : Type) where
  registration : Registration ε
  answers : Answers ε

/-- One call of an attempt, with its answer. -/
inductive DispatchCall (ε : Type)
  | resolve (answer : Except (DispatchException ε) HandlerObject)
  | claim (answer : Except (DispatchException ε) InboxClaim)
  | handle (answer : Except (DispatchException ε) Unit)
  | complete (answer : Except (DispatchException ε) Unit)
  | fail (answer : Except (DispatchException ε) Unit)

/-- The failures of a dispatch, and the calls it made. -/
abbrev Dispatching (ε : Type) :=
  Method (List (DispatchException ε)) (DispatchCall ε) (DispatchException ε)

/-- `EventDispatcher`; `isinstance` is the class hierarchy of the events. -/
structure EventDispatcher (Class ε : Type) where
  handlers : List (Class × List (Subscription ε))
  hasInbox : Bool
  isinstance : DomainEvent → Class → Bool

namespace EventDispatcher

variable {Class ε : Type}

/-- `_current_identity` -/
def currentIdentity (rt : PythonRuntime) (order : MetadataOrder) (event : DomainEvent) :
    Except (DispatchException ε) EventDeliveryIdentity := do
  let payload ← (serializeEvent rt order event).mapError .registry
  match PyStr.encodeUtf8 payload with
  | some bytes =>
      pure
        { contract_name := (contractOf event.eventClass).qualifiedName
          contract_version := (contractOf event.eventClass).version
          payload_hash := rt.sha256 bytes }
  | none => throw .unicodeEncodeError

/-- The first `try` of an attempt. -/
def claim (identity : Except (DispatchException ε) EventDeliveryIdentity)
    (answers : Answers ε) (event : DomainEvent) (handlerName : PyStr) :
    Except (DispatchException ε) InboxClaim := do
  let identity ← identity
  answers.claim
    { event_id := event.metadata.event_id.val
      handler_name := handlerName
      identity :=
        { contract_name := identity.contract_name
          contract_version := identity.contract_version
          payload_hash := identity.payload_hash
          correlation_id := some event.metadata.correlation_id.val
          causation_id := event.metadata.causation_id.map Subtype.val } }

/-- `failures.append(error)` -/
def append (error : DispatchException ε) : Dispatching ε Unit :=
  Method.assign (· ++ [error])

/-- The failure of a call, if it failed. -/
def appendFailure : Except (DispatchException ε) Unit → Dispatching ε Unit
  | .ok () => pure ()
  | .error error => append error

/-- Handling and the record of its outcome; a handler without inbox has no token. -/
def handle (answers : Answers ε) (event : DomainEvent) (handlerName : PyStr)
    (claimToken : Option PyStr) : Dispatching ε Unit := do
  let key : InboxKey := (event.metadata.event_id.val, handlerName)
  let handled := answers.handle event
  Method.addEvent (.handle handled)
  appendFailure handled
  match handled, claimToken with
  | .error error, some token => do
      Method.addEvent (.fail (answers.fail key token error))
      appendFailure (answers.fail key token error)
  | .ok (), some token => do
      Method.addEvent (.complete (answers.complete key token))
      appendFailure (answers.complete key token)
  | _, none => pure ()

/-- The body of the inner loop. -/
def attempt (hasInbox : Bool) (identity : Except (DispatchException ε) EventDeliveryIdentity)
    (event : DomainEvent) (subscription : Subscription ε) : Dispatching ε Unit := do
  let answers := subscription.answers
  let resolved := resolveHandler subscription.registration
  Method.addEvent (.resolve resolved)
  let handler ← Method.check resolved
  let handlerName := handler.handlerName
  if hasInbox then
    let claimed := claim identity answers event handlerName
    Method.addEvent (.claim claimed)
    match claimed with
    | .error error => append error
    | .ok claim =>
      match claim.status with
      | .processed => pure ()
      | .busy =>
        append (.runtimeError (py "Event " ++ event.metadata.event_id.val ++
          py " is already leased by " ++ handlerName))
      | .claimed =>
        if claim.token.getD [] = [] then
          append (.runtimeError
            (py "Inbox returned a claimed event without a fencing token for " ++
              event.metadata.event_id.val ++ py "/" ++ handlerName))
        else handle answers event handlerName claim.token
  else handle answers event handlerName none

/-- The end of `dispatch`. -/
def raiseFailures (event : DomainEvent) : Dispatching ε Unit := do
  let failures ← Method.read id
  match failures with
  | [] => pure ()
  | first :: _ =>
    throw (.eventDispatcher
      (Json.renderInt failures.length ++ py " handler(s) failed for " ++
        event.eventClass.name ++ py " (event_id=" ++ event.metadata.event_id.val ++
        py "); message will be retried") first)

/-- `EventDispatcher.dispatch` -/
def dispatch (rt : PythonRuntime) (order : MetadataOrder) (self : EventDispatcher Class ε)
    (event : DomainEvent) (deliveryIdentity : Option EventDeliveryIdentity) :
    Dispatching ε Unit := do
  let identity := deliveryIdentity.elim (currentIdentity rt order event) .ok
  Method.forEach (fun entry =>
    if self.isinstance event entry.1 then
      Method.forEach (attempt self.hasInbox identity event) entry.2
    else pure ()) self.handlers
  raiseFailures event

/-! ## What an attempt is -/

/-- The registrations of the event's class and of its base classes. -/
def subscribed (self : EventDispatcher Class ε) (event : DomainEvent) :
    List (Subscription ε) :=
  self.handlers.flatMap fun entry => if self.isinstance event entry.1 then entry.2 else []

end EventDispatcher

/-- A claim that lets the handler run. -/
def InboxClaim.Grants (claim : InboxClaim) : Prop :=
  claim.status = .claimed ∧ claim.token.getD [] ≠ []

/-- The call failed; a claim that found nothing to do did not. -/
def DispatchCall.Failed {ε : Type} : DispatchCall ε → Prop
  | resolve answer => answer.toOption = none
  | claim answer => ∀ claim, answer = .ok claim → claim.status ≠ .processed ∧ ¬ claim.Grants
  | handle answer => answer.toOption = none
  | complete answer => answer.toOption = none
  | fail answer => answer.toOption = none

/-- One attempt of a registration: the handler runs unless the inbox keeps it from
running, and the outcome is recorded. -/
inductive Subscription.Attempt {ε : Type} (inbox : Bool) (event : DomainEvent)
    (self : Subscription ε) : List (DispatchCall ε) → Prop
  | unresolved {error : DispatchException ε}
      (hresolve : resolveHandler self.registration = .error error) :
      Attempt inbox event self [.resolve (.error error)]
  | refused {handler : HandlerObject} {claimed : Except (DispatchException ε) InboxClaim}
      (hresolve : resolveHandler self.registration = .ok handler) (hinbox : inbox = true)
      (hrefused : ∀ claim, claimed = .ok claim → ¬ claim.Grants) :
      Attempt inbox event self [.resolve (.ok handler), .claim claimed]
  | completed {handler : HandlerObject} {claim : InboxClaim}
      {answer : Except (DispatchException ε) Unit}
      (hresolve : resolveHandler self.registration = .ok handler) (hinbox : inbox = true)
      (hgrants : claim.Grants) (hhandle : self.answers.handle event = .ok ()) :
      Attempt inbox event self
        [.resolve (.ok handler), .claim (.ok claim), .handle (.ok ()), .complete answer]
  | recorded {handler : HandlerObject} {claim : InboxClaim} {error : DispatchException ε}
      {answer : Except (DispatchException ε) Unit}
      (hresolve : resolveHandler self.registration = .ok handler) (hinbox : inbox = true)
      (hgrants : claim.Grants) (hhandle : self.answers.handle event = .error error) :
      Attempt inbox event self
        [.resolve (.ok handler), .claim (.ok claim), .handle (.error error), .fail answer]
  | direct {handler : HandlerObject}
      (hresolve : resolveHandler self.registration = .ok handler) (hinbox : inbox = false) :
      Attempt inbox event self
        [.resolve (.ok handler), .handle (self.answers.handle event)]

/-- Each registration is attempted once, and the dispatch raises its own exception
exactly if a call failed. -/
def GivesChance {ε : Type} (inbox : Bool) (event : DomainEvent)
    (subscriptions : List (Subscription ε))
    (outcome : Except (DispatchException ε) Unit ×
      Object (List (DispatchException ε)) (DispatchCall ε)) : Prop :=
  ∃ attempts : List (List (DispatchCall ε)),
    List.Forall₂ (fun subscription calls => subscription.Attempt inbox event calls)
      subscriptions attempts ∧
    outcome.2.pending = attempts.flatten ∧
    ((∃ message original, outcome.1 = .error (.eventDispatcher message original)) ↔
      ∃ calls ∈ attempts, ∃ call ∈ calls, call.Failed)

namespace EventDispatcher

variable {Class ε : Type}

abbrev DispatchState (ε : Type) := Object (List (DispatchException ε)) (DispatchCall ε)

/-- What an attempt leaves: more failures exactly if one of its calls failed. -/
def Leaves (self after : DispatchState ε) (calls : List (DispatchCall ε)) : Prop :=
  after.pending = self.pending ++ calls ∧
    ∃ failures, after.fields = self.fields ++ failures ∧
      (failures ≠ [] ↔ ∃ call ∈ calls, call.Failed)

/-- What `appendFailure` appends. -/
def failuresOf : Except (DispatchException ε) Unit → List (DispatchException ε)
  | .ok () => []
  | .error error => [error]

theorem failuresOf_ne_nil (answer : Except (DispatchException ε) Unit) :
    failuresOf answer ≠ [] ↔ answer.toOption = none := by
  cases answer <;> simp [failuresOf, Except.toOption]

theorem appendFailure_bind (answer : Except (DispatchException ε) Unit)
    (rest : Unit → Dispatching ε Unit) (self : DispatchState ε) :
    (appendFailure answer >>= rest) self =
      rest () { self with fields := self.fields ++ failuresOf answer } := by
  cases answer with
  | ok value => simp [appendFailure, failuresOf, bind]
  | error error => rfl

theorem appendFailure_apply (answer : Except (DispatchException ε) Unit)
    (self : DispatchState ε) :
    appendFailure answer self =
      (.ok (), { self with fields := self.fields ++ failuresOf answer }) := by
  cases answer with
  | ok value => simp [appendFailure, failuresOf]
  | error error => rfl

/-- Two calls that can fail, one after the other. -/
theorem leaves_two (self : DispatchState ε) {calls : List (DispatchCall ε)}
    {handled settled : Except (DispatchException ε) Unit}
    (hcalls : (∃ call ∈ calls, call.Failed) ↔
      handled.toOption = none ∨ settled.toOption = none) :
    Leaves self
      ⟨self.fields ++ failuresOf handled ++ failuresOf settled, self.pending ++ calls⟩ calls := by
  refine ⟨rfl, failuresOf handled ++ failuresOf settled, List.append_assoc _ _ _, ?_⟩
  rw [hcalls, ← failuresOf_ne_nil, ← failuresOf_ne_nil, ne_eq, List.append_eq_nil_iff]
  tauto

/-- A handler that was let run, and the record of how it ended. -/
theorem handle_claimed (answers : Answers ε) (event : DomainEvent)
    (handlerName token : PyStr) (self : DispatchState ε) :
    ∃ after calls,
      handle answers event handlerName (some token) self = (.ok (), after) ∧
      Leaves self after calls ∧
      ((answers.handle event = .ok () ∧
          ∃ answer, calls = [.handle (.ok ()), .complete answer]) ∨
        ∃ error, answers.handle event = .error error ∧
          ∃ answer, calls = [.handle (.error error), .fail answer]) := by
  let key : InboxKey := (event.metadata.event_id.val, handlerName)
  unfold handle
  cases hhandle : answers.handle event with
  | ok value =>
      simp only [Method.bind_addEvent, appendFailure_bind, appendFailure_apply]
      refine ⟨_, [.handle (.ok ()), .complete (answers.complete key token)], rfl, ?_,
        Or.inl ⟨trivial, _, rfl⟩⟩
      simp only [List.append_assoc self.pending, List.singleton_append]
      exact leaves_two self (by simp [DispatchCall.Failed])
  | error error =>
      simp only [Method.bind_addEvent, appendFailure_bind, appendFailure_apply]
      refine ⟨_, [.handle (.error error), .fail (answers.fail key token error)], rfl, ?_,
        Or.inr ⟨error, rfl, _, rfl⟩⟩
      simp only [List.append_assoc self.pending, List.singleton_append]
      exact leaves_two self (by simp [DispatchCall.Failed])

/-- A registration that cannot be resolved ends the dispatch. -/
theorem attempt_unresolved {hasInbox : Bool}
    {identity : Except (DispatchException ε) EventDeliveryIdentity} {event : DomainEvent}
    {subscription : Subscription ε} {error : DispatchException ε}
    (hresolve : resolveHandler subscription.registration = .error error)
    (self : DispatchState ε) :
    attempt hasInbox identity event subscription self =
      (.error error, { self with pending := self.pending ++ [.resolve (.error error)] }) := by
  unfold attempt
  simp only [hresolve, Method.bind_addEvent]
  exact Method.bind_check_error rfl _ _

/-- A registration that is resolved is attempted, whatever fails. -/
theorem attempt_resolved {hasInbox : Bool}
    {identity : Except (DispatchException ε) EventDeliveryIdentity} {event : DomainEvent}
    {subscription : Subscription ε} {handler : HandlerObject}
    (hresolve : resolveHandler subscription.registration = .ok handler)
    (self : DispatchState ε) :
    ∃ after calls,
      attempt hasInbox identity event subscription self = (.ok (), after) ∧
      Leaves self after calls ∧ subscription.Attempt hasInbox event calls := by
  unfold attempt
  simp only [hresolve, Method.bind_addEvent]
  rw [Method.bind_check_ok rfl]
  have hresolved : ¬ (DispatchCall.resolve (ε := ε) (.ok handler)).Failed := by
    simp [DispatchCall.Failed, Except.toOption]
  cases hasInbox with
  | false =>
      rw [if_neg Bool.false_ne_true]
      unfold handle
      simp only [Method.bind_addEvent, appendFailure_bind, List.append_assoc]
      refine ⟨⟨self.fields ++ failuresOf (subscription.answers.handle event), _⟩,
        [.resolve (.ok handler), .handle (subscription.answers.handle event)], ?_,
        ⟨rfl, failuresOf (subscription.answers.handle event), rfl, ?_⟩, .direct hresolve rfl⟩
      · cases subscription.answers.handle event <;> rfl
      · simp only [failuresOf_ne_nil, List.exists_mem_cons_iff, hresolved, false_or,
          List.not_mem_nil, false_and, exists_false, or_false]
        rfl
  | true =>
      simp only [if_true, Method.bind_addEvent]
      cases hclaim : claim identity subscription.answers event handler.handlerName with
      | error error =>
          refine ⟨_, [.resolve (.ok handler), .claim (.error error)], rfl,
            ⟨List.append_assoc _ _ _, [error], rfl, ?_⟩, .refused hresolve rfl (by simp)⟩
          simp [DispatchCall.Failed]
      | ok claim =>
          obtain ⟨status, token⟩ := claim
          have hrefused (hnot : ¬ InboxClaim.Grants ⟨status, token⟩) :
              subscription.Attempt true event
                [.resolve (.ok handler), .claim (.ok ⟨status, token⟩)] :=
            .refused hresolve rfl (by rintro _ ⟨⟩; exact hnot)
          cases status with
          | processed =>
              refine ⟨_, _, rfl, ⟨List.append_assoc _ _ _, [], (List.append_nil _).symm, ?_⟩,
                hrefused (by simp [InboxClaim.Grants])⟩
              simp [DispatchCall.Failed, Except.toOption]
          | busy =>
              have hnot : ¬ InboxClaim.Grants ⟨.busy, token⟩ := by simp [InboxClaim.Grants]
              refine ⟨_, _, rfl, ⟨List.append_assoc _ _ _, [_], rfl, ?_⟩, hrefused hnot⟩
              simp [DispatchCall.Failed, hnot]
          | claimed =>
              simp only []
              split
              · rename_i htoken
                have hnot : ¬ InboxClaim.Grants ⟨.claimed, token⟩ := by
                  simp [InboxClaim.Grants, htoken]
                refine ⟨_, _, rfl, ⟨List.append_assoc _ _ _, [_], rfl, ?_⟩, hrefused hnot⟩
                simp [DispatchCall.Failed, hnot]
              · rename_i htoken
                have hgrants : InboxClaim.Grants ⟨.claimed, token⟩ := ⟨rfl, htoken⟩
                cases token with
                | none => exact absurd rfl htoken
                | some token =>
                    obtain ⟨after, calls, hrun, ⟨hpending, failures, hfields, hfailures⟩, hcases⟩ :=
                      handle_claimed subscription.answers event handler.handlerName token
                        ⟨self.fields, self.pending ++ [.resolve (.ok handler)] ++
                          [.claim (.ok ⟨.claimed, some token⟩)]⟩
                    refine ⟨after,
                      .resolve (.ok handler) :: .claim (.ok ⟨.claimed, some token⟩) :: calls, hrun,
                      ⟨by simpa using hpending, failures, hfields, ?_⟩, ?_⟩
                    · rw [hfailures]
                      simp [DispatchCall.Failed, Except.toOption, hgrants]
                    · rcases hcases with ⟨hok, answer, rfl⟩ | ⟨error, herror, answer, rfl⟩
                      · exact .completed hresolve rfl hgrants hok
                      · exact .recorded hresolve rfl hgrants herror

/-! ## The loop over the registrations -/

theorem Leaves.append {self middle after : DispatchState ε}
    {calls later : List (DispatchCall ε)} (hfirst : Leaves self middle calls)
    (hrest : Leaves middle after later) : Leaves self after (calls ++ later) := by
  obtain ⟨hpending, failures, hfields, hfailures⟩ := hfirst
  obtain ⟨hpending', failures', hfields', hfailures'⟩ := hrest
  refine ⟨by rw [hpending', hpending, List.append_assoc], failures ++ failures',
    by rw [hfields', hfields, List.append_assoc], ?_⟩
  simp only [ne_eq, List.append_eq_nil_iff, not_and_or, List.mem_append, or_and_right,
    exists_or]
  exact or_congr hfailures hfailures'

/-- All the registrations are attempted, or those before the first one that cannot be
resolved. -/
theorem forEach_attempt {hasInbox : Bool}
    {identity : Except (DispatchException ε) EventDeliveryIdentity} {event : DomainEvent}
    (subscriptions : List (Subscription ε)) (self : DispatchState ε) :
    (∃ after attempts,
      Method.forEach (attempt hasInbox identity event) subscriptions self = (.ok (), after) ∧
      List.Forall₂ (fun subscription calls => subscription.Attempt hasInbox event calls)
        subscriptions attempts ∧
      Leaves self after attempts.flatten ∧
      ∀ subscription ∈ subscriptions,
        (resolveHandler subscription.registration).toOption.isSome) ∨
    ∃ earlier subscription later error after attempts,
      subscriptions = earlier ++ subscription :: later ∧
      resolveHandler subscription.registration = .error error ∧
      Method.forEach (attempt hasInbox identity event) subscriptions self = (.error error, after) ∧
      List.Forall₂ (fun subscription calls => subscription.Attempt hasInbox event calls)
        (earlier ++ [subscription]) attempts ∧
      after.pending = self.pending ++ attempts.flatten ∧
      .resolve (.error error) ∈ attempts.flatten ∧
      ∀ subscription ∈ earlier,
        (resolveHandler subscription.registration).toOption.isSome := by
  induction subscriptions generalizing self with
  | nil =>
      exact Or.inl ⟨self, [], rfl, .nil,
        ⟨(List.append_nil _).symm, [], (List.append_nil _).symm, by simp⟩, by simp⟩
  | cons first rest ih =>
      cases hresolve : resolveHandler first.registration with
      | error error =>
          refine Or.inr ⟨[], first, rest, error, _, [[.resolve (.error error)]], rfl, hresolve,
            Method.forEach_cons_error (attempt_unresolved hresolve self),
            .cons (.unresolved hresolve) .nil, rfl, by simp, by simp⟩
      | ok handler =>
          have hresolved : ∃ after calls,
              attempt hasInbox identity event first self = (.ok (), after) ∧
              Leaves self after calls ∧ first.Attempt hasInbox event calls :=
            attempt_resolved hresolve self
          obtain ⟨middle, calls, hfirst, hleaves, hattempt⟩ := hresolved
          have hsome : (resolveHandler first.registration).toOption.isSome := by
            simp [hresolve, Except.toOption]
          rw [Method.forEach_cons_ok hfirst]
          rcases ih middle with ⟨after, attempts, hrun, hattempts, hrest, hall⟩ |
            ⟨earlier, bad, later, error, after, attempts, rfl, hbad, hrun, hattempts, hpending,
              hcall, hall⟩
          · exact Or.inl ⟨after, calls :: attempts, hrun, .cons hattempt hattempts,
              hleaves.append hrest, List.forall_mem_cons.mpr ⟨hsome, hall⟩⟩
          · refine Or.inr ⟨first :: earlier, bad, later, error, after, calls :: attempts, rfl,
              hbad, hrun, .cons hattempt hattempts, ?_, List.mem_append_right calls hcall,
              List.forall_mem_cons.mpr ⟨hsome, hall⟩⟩
            rw [hpending, hleaves.1, List.append_assoc]
            rfl

theorem forEach_handlers (body : Subscription ε → Dispatching ε Unit)
    (self : EventDispatcher Class ε) (event : DomainEvent) :
    Method.forEach (fun entry =>
        if self.isinstance event entry.1 then Method.forEach body entry.2 else pure ())
      self.handlers =
      Method.forEach body (self.subscribed event) := by
  rw [subscribed, ← Method.forEach_forEach]
  congr 1
  funext entry
  split <;> rfl

theorem raiseFailures_apply (event : DomainEvent) (self : DispatchState ε) :
    ∃ ending, raiseFailures event self = (ending, self) ∧
      ((∃ message original, ending = .error (.eventDispatcher message original)) ↔
        self.fields ≠ []) := by
  obtain ⟨failures, log⟩ := self
  cases failures with
  | nil => exact ⟨_, rfl, by simp⟩
  | cons first rest => exact ⟨_, rfl, by simp⟩

end EventDispatcher

def DispatchCall.isResolve {ε : Type} : DispatchCall ε → Bool
  | resolve _ => true
  | _ => false

variable {ε : Type} {inbox : Bool} {event : DomainEvent}

theorem Subscription.Attempt.countP_isResolve {subscription : Subscription ε}
    {calls : List (DispatchCall ε)} (hattempt : subscription.Attempt inbox event calls) :
    calls.countP DispatchCall.isResolve = 1 := by
  cases hattempt <;> rfl

/-- The log of attempts tells how many there were. -/
theorem countP_isResolve_flatten {subscriptions : List (Subscription ε)}
    {attempts : List (List (DispatchCall ε))}
    (hattempts : List.Forall₂ (fun subscription calls => subscription.Attempt inbox event calls)
      subscriptions attempts) :
    attempts.flatten.countP DispatchCall.isResolve = subscriptions.length := by
  induction hattempts with
  | nil => rfl
  | cons hattempt _ ih =>
      rw [List.flatten_cons, List.countP_append, hattempt.countP_isResolve, ih,
        List.length_cons, Nat.add_comm]

/-- Every registration can be resolved, but for a last one whose provider raises the
dispatcher's own exception. -/
def Resolvable (subscriptions : List (Subscription ε)) : Prop :=
  ∀ earlier subscription later error, subscriptions = earlier ++ subscription :: later →
    resolveHandler subscription.registration = .error error →
      later = [] ∧ ∃ message original, error = .eventDispatcher message original

namespace EventDispatcher

variable {Class : Type}

theorem dispatch_gives_chance_iff (rt : PythonRuntime) (order : MetadataOrder)
    (self : EventDispatcher Class ε) (event : DomainEvent)
    (deliveryIdentity : Option EventDeliveryIdentity) :
    GivesChance self.hasInbox event (self.subscribed event)
        (self.dispatch rt order event deliveryIdentity ⟨[], []⟩) ↔
      Resolvable (self.subscribed event) := by
  unfold dispatch
  rw [forEach_handlers]
  rcases @forEach_attempt _ self.hasInbox
      (deliveryIdentity.elim (currentIdentity rt order event) .ok) event
      (self.subscribed event) ⟨[], []⟩ with
    ⟨after, attempts, hrun, hattempts, ⟨hpending, failures, hfields, hfailures⟩, hall⟩ |
    ⟨earlier, bad, later, error, after, attempts, hsplit, hbad, hrun, hattempts, hpending,
      hcall, hall⟩
  · rw [Method.bind_of_ok hrun]
    obtain ⟨ending, hraise, hending⟩ := raiseFailures_apply event after
    rw [hraise]
    refine iff_of_true ⟨attempts, hattempts, hpending, ?_⟩ ?_
    · rw [hending, hfields, List.nil_append, hfailures]
      simp only [List.mem_flatten]
      tauto
    · intro earlier subscription later error hsplit herror
      have hsome := hall subscription (by simp [hsplit])
      rw [herror] at hsome
      cases hsome
  · rw [Method.bind_of_error hrun]
    have hfailed : DispatchCall.Failed (ε := ε) (.resolve (.error error)) := rfl
    constructor
    · rintro ⟨given, hgiven, hlog, hraised⟩
      have hflatten : given.flatten = attempts.flatten := hlog.symm.trans hpending
      obtain ⟨calls, hcalls, hmem⟩ := List.mem_flatten.mp (hflatten ▸ hcall)
      obtain ⟨message, original, hkind⟩ := hraised.mpr ⟨calls, hcalls, _, hmem, hfailed⟩
      have hlength : (self.subscribed event).length = (earlier ++ [bad]).length := by
        rw [← countP_isResolve_flatten hgiven, hflatten, countP_isResolve_flatten hattempts]
      obtain rfl : later = [] := by simpa [hsplit] using hlength
      rw [hsplit]
      intro earlier' other later' error' hsplit' hother
      -- only the last registration is unresolved
      rcases List.eq_nil_or_concat later' with rfl | ⟨init, last, rfl⟩
      · obtain ⟨-, hsame⟩ := List.append_inj' hsplit' rfl
        cases hsame
        rw [hbad] at hother
        cases hother
        exact ⟨rfl, message, original, Except.error.inj hkind⟩
      · rw [List.concat_eq_append, ← List.cons_append, ← List.append_assoc] at hsplit'
        obtain ⟨rfl, -⟩ := List.append_inj' hsplit' rfl
        have hsome := hall other (by simp)
        rw [hother] at hsome
        cases hsome
    · intro hresolvable
      obtain ⟨rfl, message, original, rfl⟩ := hresolvable earlier bad later error hsplit hbad
      obtain ⟨calls, hcalls, hmem⟩ := List.mem_flatten.mp hcall
      refine ⟨attempts, hsplit ▸ hattempts, hpending, iff_of_true ⟨message, original, rfl⟩
        ⟨calls, hcalls, _, hmem, hfailed⟩⟩

/-- A provider that fails, then a handler. -/
def faultySubscriptions : List (Subscription PUnit) :=
  let quiet : Answers PUnit :=
    { handle := fun _ => .ok ()
      claim := fun _ => .ok ⟨.claimed, some (py "t1")⟩
      complete := fun _ _ => .ok ()
      fail := fun _ _ _ => .ok () }
  [{ registration := .provider (.error (.other ())), answers := quiet },
    { registration := .handler ⟨some (py "mail"), py "mail", py "Mail"⟩, answers := quiet }]

def faultyDispatcher : EventDispatcher PUnit PUnit where
  handlers := [((), faultySubscriptions)]
  hasInbox := true
  isinstance := fun _ _ => true

/-- The provider's exception leaves the dispatcher at once, and the handler is not run. -/
theorem dispatch_stops_at_failing_provider :
    ¬ GivesChance true (suspendedWith (py "late"))
      (faultyDispatcher.subscribed (suspendedWith (py "late")))
      (faultyDispatcher.dispatch asciiRuntime sampleOrder (suspendedWith (py "late")) none
        ⟨[], []⟩) := by
  rintro ⟨attempts, hattempts, hpending, -⟩
  have hcount := countP_isResolve_flatten hattempts
  rw [← hpending] at hcount
  exact absurd hcount (by decide)

end EventDispatcher

end LibrarySystem
