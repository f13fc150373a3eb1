import LibrarySystem.Application.LendingEffects
import LibrarySystem.Application.PatronCommands

/-!
# What the patron handlers commit

A change of policy is made under the fence of the patron, from a row that was read
since the fence was taken.
-/

namespace LibrarySystem

open Run (Spec Knowledge)

namespace RegisterPatronHandler

def spec (rt : PythonRuntime) (command : RegisterPatronCommand) :
    CommandSpec PatronSnapshot where
  commits _ batch value :=
    ∃ name email tier key nextId now, ∃ patron : Patron, ∃ events draws,
      PatronName.parse command.first_name command.last_name = .ok name ∧
      EmailAddress.parse rt command.email = .ok email ∧
      MembershipTier.parse rt command.membership_tier = .ok tier ∧
      IdempotencyKey.parse command.idempotency_key = .ok key ∧
      Patron.register nextId name email (.ofUtc now) tier = .ok (patron, events) ∧
      value = .ofPatron patron ∧
      batch.Writes rt [.inserted (.patron patron) draws events
        (receiptOf rt scope key (commandFingerprint rt (facts name email tier)) value)]
  returns known value :=
    ∃ name email tier key,
      PatronName.parse command.first_name command.last_name = .ok name ∧
      EmailAddress.parse rt command.email = .ok email ∧
      MembershipTier.parse rt command.membership_tier = .ok tier ∧
      IdempotencyKey.parse command.idempotency_key = .ok key ∧
      Replayed rt known scope key (commandFingerprint rt (facts name email tier)) value
  raises _ _ := True

theorem reads_getByEmail {rt : PythonRuntime} {email : PyStr}
    {known : Knowledge Observation PyStr} {session : UnitOfWork Patron}
    {value : Knowledge Observation PyStr → Option (Tracked Patron) × UnitOfWork Patron → Prop}
    {error : Knowledge Observation PyStr → AppException → Prop}
    (hempty : session.identity_map = [])
    (hmissing : ∀ later, value later (none, session))
    (hfound : ∀ later patron changed, value later (some patron, changed))
    (herror : ∀ later raised, error later raised) :
    (getByEmail rt email session).Reads value error known := by
  unfold getByEmail
  apply Run.Reads.bind
  apply Uow.reads_ofExcept
  · intro parsed _
    apply Run.Reads.bind
    apply Uow.reads_select
    intro seen
    apply Run.Reads.bind
    apply Uow.reads_scalarOneOrNone
    · exact fun _ => hmissing _
    · intro row _
      apply Run.Reads.bind
      have hnew : session.find (Stored.key (A := Patron) row) = none := by
        rw [UnitOfWork.find, hempty]
        rfl
      apply Uow.reads_entityOf hnew
      · exact fun _ _ => hfound _ _ _
      · exact fun _ => herror _ _
    · exact herror _ _
  · exact fun _ _ => herror _ _

theorem handle_meets (rt : PythonRuntime) (command : RegisterPatronCommand)
    (known : Knowledge Observation PyStr) :
    (handle rt command).Meets (spec rt command) known := by
  apply Command.meets_ofExcept _ fun _ => trivial
  intro name hname
  apply Command.meets_ofExcept _ fun _ => trivial
  intro email hemail
  apply Command.meets_ofExcept' _ fun _ => trivial
  intro tier htier
  apply Command.meets_ofExcept' _ fun _ => trivial
  intro key hkey
  apply Uow.meets_transaction.mpr
  apply Uow.Meets.bind
  apply Uow.reads_replay
  · intro later _
    apply Uow.Meets.bind
    apply reads_getByEmail rfl
    · intro last
      refine Uow.Meets.bind (Uow.reads_observe fun drawn => Uow.Meets.bind ?_)
      apply Uow.reads_ofExcept
      · rintro ⟨patron, events⟩ hregister
        apply Uow.Meets.bind
        apply Uow.reads_create
        intro stamped
        apply Uow.meets_modify.mpr
        apply Uow.meets_keepReceipt.mpr
        apply Uow.Meets.commit
        · intro staged rows hstage
          refine ⟨name, email, tier, key, uuidReference drawn.draws.uuid, drawn.draws.now,
            patron, events, stamped.draws, hname, hemail, htier, hkey, hregister, rfl,
            UnitOfWork.Shows.writes ?_ hstage⟩
          exact (UnitOfWork.shows_inserted patron stamped.draws events).keep
        · exact fun _ _ => trivial
        · exact fun _ _ => trivial
      · exact fun _ _ => trivial
    · exact fun _ _ _ => trivial
    · exact fun _ _ => trivial
  · exact fun _ _ hreplayed =>
      ⟨name, email, tier, key, hname, hemail, htier, hkey, hreplayed⟩
  · exact fun _ _ => trivial

end RegisterPatronHandler

namespace PatronPolicyChange

def spec (rt : PythonRuntime) (scope patron_id : PyStr) (facts : List (PyStr × Json))
    (transition : Patron → Except Raised (Patron × List AggregateEvent))
    (key : Except AppException (Option IdempotencyKey)) : CommandSpec PatronSnapshot where
  commits known batch value :=
    ∃ given, ∃ row : PatronRow, ∃ patron after : Patron, ∃ events draws,
      key = .ok given ∧ patron_id ∈ known.held ∧
      (∃ seen ∈ known.since patron_id,
        seen.database.patrons.lookup patron_id = some row) ∧
      Loaded known patron_id row patron ∧
      transition patron = .ok (after, events) ∧ value = .ofPatron after ∧
      batch.Writes rt [.updated row.version (.patron after) draws events
        (receiptOf rt scope given (commandFingerprint rt facts) value)]
  returns known value :=
    ∃ given, key = .ok given ∧
      Replayed rt known scope given (commandFingerprint rt facts) value
  raises _ _ := True

theorem handle_meets (rt : PythonRuntime) (scope patron_id : PyStr)
    (facts : List (PyStr × Json))
    (transition : Patron → Except Raised (Patron × List AggregateEvent))
    (key : Option IdempotencyKey) (known : Knowledge Observation PyStr) :
    (handle rt scope patron_id facts transition key).Meets
      (spec rt scope patron_id facts transition (.ok key)) known := by
  apply Uow.meets_transaction.mpr
  apply Uow.Meets.bind
  apply Uow.reads_replay
  · intro later _
    apply Uow.Meets.bind
    change Run.Reads _ _ _ (.acquire patron_id (.pure ((), ({} : UnitOfWork Patron))))
    apply Uow.Meets.bind
    apply Uow.reads_getById rfl
    · exact fun _ _ => trivial
    · intro seen row patron hrow hpatron
      apply Uow.Meets.bind
      apply Uow.reads_ofExcept
      · rintro ⟨after, events⟩ htransition
        apply Uow.Meets.bind
        apply Uow.reads_mutate
        intro drawn
        apply Uow.meets_modify.mpr
        apply Uow.meets_keepReceipt.mpr
        apply Uow.Meets.commit
        · intro staged rows hstage
          refine ⟨key, row, patron, after, events, drawn.draws, rfl, by simp,
            ⟨seen, by simp, hrow⟩, ⟨⟨seen, by simp, hrow⟩, hpatron⟩, htransition, rfl,
            UnitOfWork.Shows.writes ?_ hstage⟩
          exact (UnitOfWork.shows_updated patron after row.version _ events).keep
        · exact fun _ _ => trivial
        · exact fun _ _ => trivial
      · exact fun _ _ => trivial
    · exact fun _ _ => trivial
  · exact fun _ _ hreplayed => ⟨key, rfl, hreplayed⟩
  · exact fun _ _ => trivial

/-- The change after the key is read. -/
theorem keyed_meets (rt : PythonRuntime) (scope patron_id : PyStr)
    (facts : List (PyStr × Json))
    (transition : Patron → Except Raised (Patron × List AggregateEvent))
    (idempotency_key : Option PyStr) (known : Knowledge Observation PyStr) :
    (Run.ofExcept (IdempotencyKey.parse idempotency_key) >>= fun key =>
      handle rt scope patron_id facts transition key : Command PatronSnapshot).Meets
        (spec rt scope patron_id facts transition (IdempotencyKey.parse idempotency_key))
        known := by
  apply Command.meets_ofExcept' _ fun _ => trivial
  intro key hkey
  rw [hkey]
  exact handle_meets _ _ _ _ _ _ _

end PatronPolicyChange

namespace SuspendPatronHandler

def spec (rt : PythonRuntime) (command : SuspendPatronCommand) :
    CommandSpec PatronSnapshot :=
  PatronPolicyChange.spec rt scope (PyStr.strip command.patron_id) (facts command)
    (fun patron => patron.suspend (PyStr.collapse command.reason))
    (IdempotencyKey.parse command.idempotency_key)

theorem handle_meets (rt : PythonRuntime) (command : SuspendPatronCommand)
    (known : Knowledge Observation PyStr) :
    (handle rt command).Meets (spec rt command) known :=
  PatronPolicyChange.keyed_meets _ _ _ _ _ _ _

end SuspendPatronHandler

namespace ReinstatePatronHandler

def spec (rt : PythonRuntime) (command : ReinstatePatronCommand) :
    CommandSpec PatronSnapshot :=
  PatronPolicyChange.spec rt scope (PyStr.strip command.patron_id) (facts command)
    Patron.reinstate (IdempotencyKey.parse command.idempotency_key)

theorem handle_meets (rt : PythonRuntime) (command : ReinstatePatronCommand)
    (known : Knowledge Observation PyStr) :
    (handle rt command).Meets (spec rt command) known :=
  PatronPolicyChange.keyed_meets _ _ _ _ _ _ _

end ReinstatePatronHandler

namespace UpgradePatronTierHandler

def spec (rt : PythonRuntime) (command : UpgradePatronTierCommand) :
    CommandSpec PatronSnapshot where
  commits known batch value :=
    ∃ new_tier, MembershipTier.parse rt command.new_tier = .ok new_tier ∧
      (PatronPolicyChange.spec rt scope (PyStr.strip command.patron_id)
        (facts command new_tier) (fun patron => patron.upgradeTier new_tier)
        (IdempotencyKey.parse command.idempotency_key)).commits known batch value
  returns known value :=
    ∃ new_tier, MembershipTier.parse rt command.new_tier = .ok new_tier ∧
      (PatronPolicyChange.spec rt scope (PyStr.strip command.patron_id)
        (facts command new_tier) (fun patron => patron.upgradeTier new_tier)
        (IdempotencyKey.parse command.idempotency_key)).returns known value
  raises _ _ := True

theorem handle_meets (rt : PythonRuntime) (command : UpgradePatronTierCommand)
    (known : Knowledge Observation PyStr) :
    (handle rt command).Meets (spec rt command) known := by
  apply Command.meets_ofExcept' _ fun _ => trivial
  intro new_tier htier
  apply Run.Meets.imp (PatronPolicyChange.keyed_meets _ _ _ _ _ _ _)
  · exact fun _ _ _ hcommits => ⟨new_tier, htier, hcommits⟩
  · exact fun _ _ hreturns => ⟨new_tier, htier, hreturns⟩
  · exact fun _ _ _ => trivial

end UpgradePatronTierHandler

end LibrarySystem
