import LibrarySystem.Delivery.Inbox

/-!
# Mutual exclusion of the inbox

The row of a pair names the token of the latest granted claim, or none.  Every
older claim has run out or was given up before the row was granted again, so at
most one claim of a pair is live.
-/

namespace LibrarySystem

namespace InboxPhase

/-- A token that was drawn and not granted yet, with the clock reading. -/
def pending? : InboxPhase → Option (PyStr × ℤ)
  | .opened _ _ token seen | .absent _ _ token seen => some (token, seen)
  | _ => none

/-- A granted claim that the worker still holds. -/
def held? : InboxPhase → Option (InboxDelivery × PyStr)
  | .answered delivery ⟨.claimed, some token⟩ => some (delivery, token)
  | .running delivery token | .ended delivery token => some (delivery, token)
  | _ => none

/-- A granted claim whose handler run has not ended. -/
def active? : InboxPhase → Option PyStr
  | .answered _ ⟨.claimed, some token⟩ | .running _ token => some token
  | _ => none

/-- The later phase has no token that the earlier one did not have. -/
structure Keeps (before after : InboxPhase) : Prop where
  pending : ∀ drawn, after.pending? = some drawn → before.pending? = some drawn
  held : ∀ held, after.held? = some held → before.held? = some held
  active : ∀ token, after.active? = some token → before.active? = some token

theorem active?_held {phase : InboxPhase} {token : PyStr}
    (hactive : phase.active? = some token) :
    ∃ delivery, phase.held? = some (delivery, token) := by
  unfold active? at hactive
  split at hactive
  · exact ⟨_, by rw [← Option.some.inj hactive]; rfl⟩
  · exact ⟨_, by rw [← Option.some.inj hactive]; rfl⟩
  · cases hactive

theorem Keeps.of_none {before after : InboxPhase}
    (hpending : after.pending? = none) (hheld : after.held? = none) :
    before.Keeps after where
  pending drawn h := by simp [hpending] at h
  held held h := by simp [hheld] at h
  active token h := by
    obtain ⟨delivery, h⟩ := active?_held h
    simp [hheld] at h

end InboxPhase

section Rows

variable {lease : ℤ} {delivery : InboxDelivery} {token : PyStr} {seen : ℤ}
  {row after : InboxMessage}

/-- The row that a granted claim leaves behind. -/
structure ClaimedRow (token : PyStr) (lease_until : ℤ) (row : InboxMessage) : Prop where
  status : row.status = .processing
  token : row.claim_token = some token
  lease : row.lease_until = some lease_until
  fields : row.statusFields = true

theorem insertedRow_claimed :
    ClaimedRow token (seen + lease) (insertedRow lease delivery token seen) :=
  ⟨rfl, rfl, rfl, rfl⟩

/-- A row is claimed again only when it is not processed and its lease, if it
has one, has run out. -/
theorem decideClaim_claimed
    (hfields : row.statusFields = true)
    (hclaimed : decideClaim lease delivery token seen (some row) = .claimed after) :
    ClaimedRow token (seen + lease) after ∧ row.status ≠ .processed ∧
      ∀ lease_until, row.lease_until = some lease_until → lease_until ≤ seen := by
  simp only [decideClaim] at hclaimed
  split at hclaimed
  · cases hclaimed
  · split at hclaimed
    · cases hclaimed
    · rename_i hopen
      split at hclaimed
      · cases hclaimed
      · rename_i hfree
        obtain rfl := ClaimDecision.claimed.inj hclaimed
        simp only [Bool.or_eq_true, decide_eq_true_eq, not_or, Bool.not_eq_true,
          Option.isSome_eq_false_iff, Option.isNone_iff_eq_none] at hopen
        refine ⟨⟨rfl, rfl, rfl, ?_⟩, hopen.2, fun lease_until hlease => ?_⟩
        · simp [InboxMessage.statusFields, hopen.1]
        · cases hstatus : row.status with
          | processing =>
              simpa [hstatus, hlease, isFuture] using hfree
          | processed => exact (hopen.2 hstatus).elim
          | failed => simp [InboxMessage.statusFields, hstatus, hlease] at hfields

theorem completeRow_eq {now : ℤ} (hcomplete : completeRow token now row = some after) :
    row.claim_token = some token ∧ after.claim_token = none ∧
      after.status = .processed ∧ after.statusFields = true := by
  unfold completeRow at hcomplete
  split at hcomplete
  · rename_i hmatch
    obtain rfl := Option.some.inj hcomplete
    exact ⟨hmatch.1, rfl, rfl, rfl⟩
  · cases hcomplete

theorem failRow_eq {error : PyStr} (hfail : failRow token error row = some after) :
    row.claim_token = some token ∧ after.claim_token = none ∧
      after.statusFields = true := by
  unfold failRow at hfail
  split at hfail
  · rename_i hmatch
    obtain rfl := Option.some.inj hfail
    exact ⟨hmatch.1, rfl, by simp [InboxMessage.statusFields, hmatch.2]⟩
  · cases hfail

end Rows

/-! ## What one step does -/

section Steps

variable {Worker : Type} [DecidableEq Worker] {lease : ℤ}
  {host after : InboxHost Worker} {action : InboxAction Worker}

/-- The row that a grant replaces: none, or one that is not processed and whose
lease, if it has one, has run out. -/
def InboxHost.Replaceable (host : InboxHost Worker) (key : InboxKey) (seen : ℤ) : Prop :=
  ∀ row, host.rows key = some row → row.status ≠ .processed ∧
    ∀ lease_until, row.lease_until = some lease_until → lease_until ≤ seen

inductive InboxHost.Moves (lease : ℤ) (host : InboxHost Worker) :
    InboxHost Worker → Prop
  | tick (now : ℤ) (hnow : host.now ≤ now) : Moves lease host { host with now := now }
  | calm (worker : Worker) (phase : InboxPhase) (hkeeps : (host.phase worker).Keeps phase) :
      Moves lease host (host.become worker phase)
  | read (worker : Worker) (delivery : InboxDelivery) (attempts : ℕ) (token : PyStr)
      (hfresh : token ∉ host.issued) :
      Moves lease host
        { host.become worker (.opened delivery attempts token host.now) with
          issued := token :: host.issued }
  | grant (worker : Worker) (delivery : InboxDelivery) (token : PyStr) (seen : ℤ)
      (row : InboxMessage) (hpending : (host.phase worker).pending? = some (token, seen))
      (hrow : ClaimedRow token (seen + lease) row)
      (hreplaced : host.Replaceable delivery.key seen) :
      Moves lease host (host.grant worker delivery token (seen + lease) row)
  | release (worker : Worker) (delivery : InboxDelivery) (token : PyStr)
      (before row : InboxMessage) (hphase : host.phase worker = .ended delivery token)
      (hbefore : host.rows delivery.key = some before)
      (htoken : before.claim_token = some token) (hcleared : row.claim_token = none)
      (hfields : row.statusFields = true) :
      Moves lease host (host.release delivery.key token row)
  | stay : Moves lease host host

/-- Every row satisfies the check constraint on its status fields. -/
def InboxHost.Checked (host : InboxHost Worker) : Prop :=
  ∀ key row, host.rows key = some row → row.statusFields = true

theorem InboxHost.select_moves
    (hchecked : host.Checked) {worker : Worker} {delivery : InboxDelivery} {attempts : ℕ}
    {token : PyStr} {seen : ℤ}
    (hphase : host.phase worker = .opened delivery attempts token seen) :
    host.Moves lease (host.select lease worker delivery attempts token seen) := by
  unfold select
  split
  · refine .calm worker _ ⟨fun drawn h => ?_, fun held h => by (cases h),
      fun token h => by (cases h)⟩
    rw [hphase]
    exact h
  · exact .calm worker _ (.of_none rfl rfl)
  · rename_i claim hclaim
    refine .calm worker _ (.of_none rfl ?_)
    cases hrow : host.rows delivery.key with
    | none => simp [hrow, decideClaim] at hclaim
    | some row =>
        simp only [hrow, decideClaim] at hclaim
        split_ifs at hclaim <;> · obtain rfl := ClaimDecision.answered.inj hclaim; rfl
  · rename_i row hclaim
    cases hrow : host.rows delivery.key with
    | none => simp [hrow, decideClaim] at hclaim
    | some before =>
        rw [hrow] at hclaim
        obtain ⟨hclaimed, hopen, hexpired⟩ :=
          decideClaim_claimed (hchecked delivery.key before hrow) hclaim
        refine .grant worker delivery token seen row (by simp [hphase, InboxPhase.pending?])
          hclaimed ?_
        intro other hother
        obtain rfl := Option.some.inj (hrow.symm.trans hother)
        exact ⟨hopen, hexpired⟩

theorem InboxHost.insert_moves
    {worker : Worker} {delivery : InboxDelivery} {attempts : ℕ} {token : PyStr} {seen : ℤ}
    (hphase : host.phase worker = .absent delivery attempts token seen) :
    host.Moves lease (host.insert lease worker delivery attempts token seen) := by
  unfold insert
  split
  · rename_i hinsert
    refine .grant worker delivery token seen _ (by simp [hphase, InboxPhase.pending?])
      insertedRow_claimed ?_
    intro row hrow
    simp [hinsert.1] at hrow
  · cases attempts with
    | zero => exact .calm worker _ (.of_none rfl rfl)
    | succ attempts => exact .calm worker _ (.of_none rfl rfl)

theorem InboxHost.step_moves
    (hchecked : host.Checked) (hstep : host.step lease action = some after) :
    host.Moves lease after := by
  cases action with
  | tick now =>
      simp only [step] at hstep
      split at hstep
      · rename_i hnow
        obtain rfl := Option.some.inj hstep
        exact .tick now hnow
      · cases hstep
  | claim worker delivery =>
      simp only [step] at hstep
      split at hstep
      · split at hstep
        all_goals
          obtain rfl := Option.some.inj hstep
          exact .calm worker _ (.of_none rfl rfl)
      · cases hstep
  | read worker token =>
      simp only [step] at hstep
      split at hstep
      · rename_i delivery attempts _
        split at hstep
        · cases hstep
        · rename_i hfresh
          obtain rfl := Option.some.inj hstep
          exact .read worker delivery attempts token hfresh
      · cases hstep
  | select worker =>
      simp only [step] at hstep
      split at hstep
      · rename_i hphase
        obtain rfl := Option.some.inj hstep
        exact select_moves hchecked hphase
      · cases hstep
  | insert worker =>
      simp only [step] at hstep
      split at hstep
      · rename_i hphase
        obtain rfl := Option.some.inj hstep
        exact insert_moves hphase
      · cases hstep
  | fault worker =>
      simp only [step] at hstep
      split at hstep
      · obtain rfl := Option.some.inj hstep
        exact .calm worker _ (.of_none rfl rfl)
      · obtain rfl := Option.some.inj hstep
        exact .calm worker _ (.of_none rfl rfl)
      · obtain rfl := Option.some.inj hstep
        exact .calm worker _ (.of_none rfl rfl)
      · obtain rfl := Option.some.inj hstep
        exact .calm worker _ (.of_none rfl rfl)
      · cases hstep
  | start worker =>
      simp only [step] at hstep
      split at hstep
      · rename_i hphase
        obtain rfl := Option.some.inj hstep
        refine .calm worker _ ⟨fun drawn h => by (cases h), fun held h => ?_,
          fun token h => ?_⟩
        · rw [hphase]
          exact h
        · rw [hphase]
          exact h
      · cases hstep
  | finish worker =>
      simp only [step] at hstep
      split at hstep
      · rename_i hphase
        obtain rfl := Option.some.inj hstep
        refine .calm worker _ ⟨fun drawn h => by (cases h), fun held h => ?_,
          fun token h => by (cases h)⟩
        rw [hphase]
        exact h
      · cases hstep
  | complete worker processed_at =>
      simp only [step] at hstep
      split at hstep
      · rename_i delivery token hphase
        split at hstep
        · rename_i row hrow
          obtain rfl := Option.some.inj hstep
          obtain ⟨before, hbefore, hcomplete⟩ := Option.bind_eq_some_iff.mp hrow
          obtain ⟨htoken, hcleared, -, hfields⟩ := completeRow_eq hcomplete
          exact .release worker delivery token before row hphase hbefore htoken hcleared
            hfields
        · obtain rfl := Option.some.inj hstep
          exact .stay
      · cases hstep
  | fail worker error =>
      simp only [step] at hstep
      split at hstep
      · rename_i delivery token hphase
        split at hstep
        · rename_i row hrow
          obtain rfl := Option.some.inj hstep
          obtain ⟨before, hbefore, hfail⟩ := Option.bind_eq_some_iff.mp hrow
          obtain ⟨htoken, hcleared, hfields⟩ := failRow_eq hfail
          exact .release worker delivery token before row hphase hbefore htoken hcleared
            hfields
        · obtain rfl := Option.some.inj hstep
          exact .stay
      · cases hstep
  | leave worker =>
      obtain rfl := Option.some.inj hstep
      exact .calm worker _ (.of_none rfl rfl)

end Steps

/-! ## The invariant -/

/-- The worker drew the token for a claim in progress or holds it. -/
def InboxPhase.Has (phase : InboxPhase) (token : PyStr) : Prop :=
  (∃ seen, phase.pending? = some (token, seen)) ∨
    ∃ delivery, phase.held? = some (delivery, token)

theorem InboxPhase.Keeps.has {before after : InboxPhase} {token : PyStr}
    (hkeeps : before.Keeps after) (hhas : after.Has token) : before.Has token := by
  rcases hhas with ⟨seen, hpending⟩ | ⟨delivery, hheld⟩
  · exact Or.inl ⟨seen, hkeeps.pending _ hpending⟩
  · exact Or.inr ⟨delivery, hkeeps.held _ hheld⟩

/-- The latest claim granted on a pair. -/
def InboxHost.latest {Worker : Type} (host : InboxHost Worker) (key : InboxKey) :
    Option Grant :=
  host.grants.find? fun grant => grant.key = key

structure InboxInvariant {Worker : Type} (host : InboxHost Worker) : Prop where
  checked : host.Checked
  current : ∀ key row token, host.rows key = some row → row.claim_token = some token →
    ∃ grant, host.latest key = some grant ∧ grant.token = token ∧
      row.lease_until = some grant.lease_until
  given : ∀ grant ∈ host.grants, grant.token ∈ host.released ∨
    grant.lease_until ≤ host.now ∨
      ∃ row, host.rows grant.key = some row ∧ row.claim_token = some grant.token
  issued : ∀ grant ∈ host.grants, grant.token ∈ host.issued
  distinct : (host.grants.map Grant.token).Nodup
  pending : ∀ worker token seen, (host.phase worker).pending? = some (token, seen) →
    seen ≤ host.now ∧ token ∈ host.issued ∧ ∀ grant ∈ host.grants, grant.token ≠ token
  held : ∀ worker delivery token, (host.phase worker).held? = some (delivery, token) →
    ∃ grant ∈ host.grants, grant.key = delivery.key ∧ grant.token = token
  released : ∀ token ∈ host.released, ∃ grant ∈ host.grants, grant.token = token
  active : ∀ worker token, (host.phase worker).active? = some token →
    token ∉ host.released
  own : ∀ worker other token, (host.phase worker).Has token →
    (host.phase other).Has token → worker = other

section Invariant

variable {Worker : Type} [DecidableEq Worker] {lease : ℤ} {host : InboxHost Worker}

omit [DecidableEq Worker] in
theorem InboxInvariant.has_issued
    (hinv : InboxInvariant host) {worker : Worker} {token : PyStr}
    (hhas : (host.phase worker).Has token) : token ∈ host.issued := by
  rcases hhas with ⟨seen, hpending⟩ | ⟨delivery, hheld⟩
  · exact (hinv.pending worker token seen hpending).2.1
  · obtain ⟨grant, hgrant, -, rfl⟩ := hinv.held worker delivery token hheld
    exact hinv.issued grant hgrant

omit [DecidableEq Worker] in
/-- Grants with one token are one grant. -/
theorem InboxInvariant.grant_eq
    (hinv : InboxInvariant host) {first second : Grant} (hfirst : first ∈ host.grants)
    (hsecond : second ∈ host.grants) (htoken : first.token = second.token) :
    first = second :=
  List.inj_on_of_nodup_map hinv.distinct hfirst hsecond htoken

omit [DecidableEq Worker] in
theorem InboxInvariant.tick
    (hinv : InboxInvariant host) {now : ℤ} (hnow : host.now ≤ now) :
    InboxInvariant { host with now := now } :=
  { checked := hinv.checked
    current := hinv.current
    given := fun grant hgrant => by
      rcases hinv.given grant hgrant with hreleased | hexpired | hrow
      · exact Or.inl hreleased
      · exact Or.inr (Or.inl (hexpired.trans hnow))
      · exact Or.inr (Or.inr hrow)
    issued := hinv.issued
    distinct := hinv.distinct
    pending := fun worker token seen hpending => by
      obtain ⟨hseen, hrest⟩ := hinv.pending worker token seen hpending
      exact ⟨hseen.trans hnow, hrest⟩
    held := hinv.held
    released := hinv.released
    active := hinv.active
    own := hinv.own }

theorem InboxInvariant.calm
    (hinv : InboxInvariant host) {worker : Worker} {phase : InboxPhase}
    (hkeeps : (host.phase worker).Keeps phase) :
    InboxInvariant (host.become worker phase) := by
  have hphase : ∀ other, (host.phase other).Keeps ((host.become worker phase).phase other) := by
    intro other
    by_cases hother : other = worker
    · subst hother
      simpa [InboxHost.become] using hkeeps
    · have hsame : (host.become worker phase).phase other = host.phase other := by
        simp [InboxHost.become, hother]
      rw [hsame]
      exact ⟨fun _ h => h, fun _ h => h, fun _ h => h⟩
  exact
    { checked := hinv.checked
      current := hinv.current
      given := hinv.given
      issued := hinv.issued
      distinct := hinv.distinct
      pending := fun other token seen hpending =>
        hinv.pending other token seen ((hphase other).pending _ hpending)
      held := fun other delivery token hheld =>
        hinv.held other delivery token ((hphase other).held _ hheld)
      released := hinv.released
      active := fun other token hactive =>
        hinv.active other token ((hphase other).active _ hactive)
      own := fun first second token hfirst hsecond =>
        hinv.own first second token ((hphase first).has hfirst) ((hphase second).has hsecond) }

/-- Only the worker whose phase changes can have a token that is new to it. -/
theorem InboxHost.own_update
    (hinv : InboxInvariant host) {worker : Worker} {phase : InboxPhase} {token : PyStr}
    (hphase : ∀ other, phase.Has other → other = token)
    (hothers : ∀ other, (host.phase other).Has token → other = worker)
    (first second : Worker) (drawn : PyStr)
    (hfirst : ((host.become worker phase).phase first).Has drawn)
    (hsecond : ((host.become worker phase).phase second).Has drawn) : first = second := by
  by_cases h1 : first = worker
  · by_cases h2 : second = worker
    · rw [h1, h2]
    · subst h1
      simp only [become, Function.update_self, Function.update_of_ne h2] at hfirst hsecond
      rw [hphase drawn hfirst] at hsecond
      exact (hothers second hsecond).symm
  · by_cases h2 : second = worker
    · subst h2
      simp only [become, Function.update_self, Function.update_of_ne h1] at hfirst hsecond
      rw [hphase drawn hsecond] at hfirst
      exact hothers first hfirst
    · simp only [become, Function.update_of_ne h1, Function.update_of_ne h2]
        at hfirst hsecond
      exact hinv.own first second drawn hfirst hsecond

theorem InboxInvariant.read
    (hinv : InboxInvariant host) (worker : Worker) (delivery : InboxDelivery)
    (attempts : ℕ) {token : PyStr} (hfresh : token ∉ host.issued) :
    InboxInvariant
      { host.become worker (.opened delivery attempts token host.now) with
        issued := token :: host.issued } := by
  have hothers : ∀ other, (host.phase other).Has token → other = worker := fun other hhas =>
    (hfresh (hinv.has_issued hhas)).elim
  have hdrawn : ∀ other, (InboxPhase.opened delivery attempts token host.now).Has other →
      other = token := by
    rintro other (⟨seen, hpending⟩ | ⟨held, hheld⟩)
    · simp only [InboxPhase.pending?, Option.some.injEq, Prod.mk.injEq] at hpending
      exact hpending.1.symm
    · simp [InboxPhase.held?] at hheld
  refine
    { checked := hinv.checked
      current := hinv.current
      given := hinv.given
      issued := fun grant hgrant => List.mem_cons_of_mem _ (hinv.issued grant hgrant)
      distinct := hinv.distinct
      pending := ?_
      held := ?_
      released := hinv.released
      active := ?_
      own := InboxHost.own_update hinv hdrawn hothers }
  · intro other drawn seen hpending
    by_cases hother : other = worker
    · subst hother
      simp only [InboxHost.become, Function.update_self, InboxPhase.pending?,
        Option.some.injEq, Prod.mk.injEq] at hpending
      obtain ⟨rfl, rfl⟩ := hpending
      exact ⟨le_rfl, List.mem_cons_self, fun grant hgrant hsame =>
        hfresh (hsame ▸ hinv.issued grant hgrant)⟩
    · simp only [InboxHost.become, Function.update_of_ne hother] at hpending
      obtain ⟨hseen, hissued, hgrants⟩ := hinv.pending other drawn seen hpending
      exact ⟨hseen, List.mem_cons_of_mem _ hissued, hgrants⟩
  · intro other held drawn hheld
    by_cases hother : other = worker
    · subst hother
      simp [InboxHost.become, InboxPhase.held?] at hheld
    · simp only [InboxHost.become, Function.update_of_ne hother] at hheld
      exact hinv.held other held drawn hheld
  · intro other drawn hactive
    by_cases hother : other = worker
    · subst hother
      simp [InboxHost.become, InboxPhase.active?] at hactive
    · simp only [InboxHost.become, Function.update_of_ne hother] at hactive
      exact hinv.active other drawn hactive

theorem InboxInvariant.grant
    (hinv : InboxInvariant host) {worker : Worker} {delivery : InboxDelivery}
    {token : PyStr} {seen : ℤ} {row : InboxMessage}
    (hpending : (host.phase worker).pending? = some (token, seen))
    (hrow : ClaimedRow token (seen + lease) row)
    (hreplaced : host.Replaceable delivery.key seen) :
    InboxInvariant (host.grant worker delivery token (seen + lease) row) := by
  obtain ⟨hseen, hissued, hnew⟩ := hinv.pending worker token seen hpending
  have hrows : ∀ key, key ≠ delivery.key →
      (host.grant worker delivery token (seen + lease) row).rows key = host.rows key :=
    fun key hkey => Function.update_of_ne hkey _ _
  have hstored : (host.grant worker delivery token (seen + lease) row).rows delivery.key =
      some row := Function.update_self _ _ _
  have hothers : ∀ other, (host.phase other).Has token → other = worker := fun other hhas =>
    hinv.own other worker token hhas (Or.inl ⟨seen, hpending⟩)
  have hdrawn : ∀ other,
      (InboxPhase.answered delivery ⟨.claimed, some token⟩).Has other → other = token := by
    rintro other (⟨drawn, hdrawn⟩ | ⟨held, hheld⟩)
    · simp [InboxPhase.pending?] at hdrawn
    · simp only [InboxPhase.held?, Option.some.injEq, Prod.mk.injEq] at hheld
      exact hheld.2.symm
  refine
    { checked := ?_, current := ?_, given := ?_, issued := ?_, distinct := ?_,
      pending := ?_, held := ?_, released := ?_, active := ?_,
      own := InboxHost.own_update hinv hdrawn hothers }
  · intro key other hother
    by_cases hkey : key = delivery.key
    · subst hkey
      obtain rfl := Option.some.inj (hstored.symm.trans hother)
      exact hrow.fields
    · rw [hrows key hkey] at hother
      exact hinv.checked key other hother
  · intro key other drawn hother hdrawn
    by_cases hkey : key = delivery.key
    · subst hkey
      obtain rfl := Option.some.inj (hstored.symm.trans hother)
      obtain rfl := Option.some.inj (hrow.token.symm.trans hdrawn)
      exact ⟨⟨delivery.key, token, seen + lease⟩,
        List.find?_cons_of_pos (by simp), rfl, hrow.lease⟩
    · rw [hrows key hkey] at hother
      obtain ⟨latest, hlatest, hrest⟩ := hinv.current key other drawn hother hdrawn
      refine ⟨latest, ?_, hrest⟩
      exact (List.find?_cons_of_neg (by simpa using Ne.symm hkey)).trans hlatest
  · intro other hother
    rcases List.mem_cons.mp hother with rfl | hold
    · exact Or.inr (Or.inr ⟨row, hstored, hrow.token⟩)
    · rcases hinv.given other hold with hreleased | hexpired | ⟨before, hbefore, htoken⟩
      · exact Or.inl hreleased
      · exact Or.inr (Or.inl hexpired)
      · by_cases hkey : other.key = delivery.key
        · obtain ⟨latest, hlatest, hsame, hlease⟩ :=
            hinv.current other.key before other.token hbefore htoken
          obtain rfl := hinv.grant_eq (List.mem_of_find?_eq_some hlatest) hold hsame
          have hexpired := (hreplaced before (hkey ▸ hbefore)).2 _ hlease
          exact Or.inr (Or.inl (hexpired.trans hseen))
        · exact Or.inr (Or.inr ⟨before, (hrows other.key hkey).trans hbefore, htoken⟩)
  · intro other hother
    rcases List.mem_cons.mp hother with rfl | hold
    · exact hissued
    · exact hinv.issued other hold
  · simp only [InboxHost.grant, List.map_cons, List.nodup_cons, List.mem_map, not_exists,
      not_and]
    exact ⟨hnew, hinv.distinct⟩
  · intro other drawn reading hother
    by_cases hworker : other = worker
    · subst hworker
      simp [InboxHost.grant, InboxHost.become, InboxPhase.pending?] at hother
    · simp only [InboxHost.grant, InboxHost.become, InboxHost.store,
        Function.update_of_ne hworker] at hother
      obtain ⟨hreading, hdrawnIssued, hfree⟩ := hinv.pending other drawn reading hother
      refine ⟨hreading, hdrawnIssued, fun grant hgrant hsame => ?_⟩
      rcases List.mem_cons.mp hgrant with rfl | hold
      · subst hsame
        exact hworker (hothers other (Or.inl ⟨reading, hother⟩))
      · exact hfree grant hold hsame
  · intro other held drawn hother
    by_cases hworker : other = worker
    · subst hworker
      simp only [InboxHost.grant, InboxHost.become, InboxHost.store, Function.update_self,
        InboxPhase.held?, Option.some.injEq, Prod.mk.injEq] at hother
      obtain ⟨rfl, rfl⟩ := hother
      exact ⟨_, List.mem_cons_self, rfl, rfl⟩
    · simp only [InboxHost.grant, InboxHost.become, InboxHost.store,
        Function.update_of_ne hworker] at hother
      obtain ⟨grant, hgrant, hrest⟩ := hinv.held other held drawn hother
      exact ⟨grant, List.mem_cons_of_mem _ hgrant, hrest⟩
  · intro drawn hdrawn
    obtain ⟨grant, hgrant, hsame⟩ := hinv.released drawn hdrawn
    exact ⟨grant, List.mem_cons_of_mem _ hgrant, hsame⟩
  · intro other drawn hother
    by_cases hworker : other = worker
    · subst hworker
      simp only [InboxHost.grant, InboxHost.become, InboxHost.store, Function.update_self,
        InboxPhase.active?, Option.some.injEq] at hother
      subst hother
      intro hreleased
      obtain ⟨grant, hgrant, hsame⟩ := hinv.released token hreleased
      exact hnew grant hgrant hsame
    · simp only [InboxHost.grant, InboxHost.become, InboxHost.store,
        Function.update_of_ne hworker] at hother
      exact hinv.active other drawn hother

omit [DecidableEq Worker] in
theorem InboxInvariant.release
    (hinv : InboxInvariant host) {worker : Worker} {delivery : InboxDelivery}
    {token : PyStr} {before row : InboxMessage}
    (hphase : host.phase worker = .ended delivery token)
    (hbefore : host.rows delivery.key = some before)
    (htoken : before.claim_token = some token) (hcleared : row.claim_token = none)
    (hfields : row.statusFields = true) :
    InboxInvariant (host.release delivery.key token row) := by
  have hrows : ∀ key, key ≠ delivery.key →
      (host.release delivery.key token row).rows key = host.rows key :=
    fun key hkey => Function.update_of_ne hkey _ _
  have hstored : (host.release delivery.key token row).rows delivery.key = some row :=
    Function.update_self _ _ _
  refine
    { checked := ?_, current := ?_, given := ?_, issued := hinv.issued,
      distinct := hinv.distinct, pending := hinv.pending, held := hinv.held,
      released := ?_, active := ?_, own := hinv.own }
  · intro key other hother
    by_cases hkey : key = delivery.key
    · subst hkey
      obtain rfl := Option.some.inj (hstored.symm.trans hother)
      exact hfields
    · rw [hrows key hkey] at hother
      exact hinv.checked key other hother
  · intro key other drawn hother hdrawn
    by_cases hkey : key = delivery.key
    · subst hkey
      obtain rfl := Option.some.inj (hstored.symm.trans hother)
      rw [hcleared] at hdrawn
      cases hdrawn
    · rw [hrows key hkey] at hother
      exact hinv.current key other drawn hother hdrawn
  · intro grant hgrant
    rcases hinv.given grant hgrant with hreleased | hexpired | ⟨held, hheld, hgiven⟩
    · exact Or.inl (List.mem_cons_of_mem _ hreleased)
    · exact Or.inr (Or.inl hexpired)
    · by_cases hkey : grant.key = delivery.key
      · rw [hkey, hbefore] at hheld
        obtain rfl := Option.some.inj hheld
        obtain rfl := Option.some.inj (htoken.symm.trans hgiven)
        exact Or.inl List.mem_cons_self
      · exact Or.inr (Or.inr ⟨held, (hrows grant.key hkey).trans hheld, hgiven⟩)
  · intro drawn hdrawn
    rcases List.mem_cons.mp hdrawn with rfl | hold
    · obtain ⟨grant, hgrant, -, hsame⟩ :=
        hinv.held worker delivery drawn (by rw [hphase]; rfl)
      exact ⟨grant, hgrant, hsame⟩
    · exact hinv.released drawn hold
  · intro other drawn hactive hdrawn
    rcases List.mem_cons.mp hdrawn with rfl | hold
    · obtain ⟨held, hheld⟩ := InboxPhase.active?_held hactive
      have hsame := hinv.own other worker drawn (Or.inr ⟨held, hheld⟩)
        (Or.inr ⟨delivery, by rw [hphase]; rfl⟩)
      subst hsame
      have hended : (host.phase other).active? = some drawn := hactive
      simp [hphase, InboxPhase.active?] at hended
    · exact hinv.active other drawn hactive hold

theorem InboxInvariant.moves
    {after : InboxHost Worker} (hinv : InboxInvariant host) (hmoves : host.Moves lease after) :
    InboxInvariant after := by
  cases hmoves with
  | tick now hnow => exact hinv.tick hnow
  | calm worker phase hkeeps => exact hinv.calm hkeeps
  | read worker delivery attempts token hfresh =>
      exact hinv.read worker delivery attempts hfresh
  | grant worker delivery token seen row hpending hrow hreplaced =>
      exact hinv.grant hpending hrow hreplaced
  | release worker delivery token before row hphase hbefore htoken hcleared hfields =>
      exact hinv.release hphase hbefore htoken hcleared hfields
  | stay => exact hinv

theorem inbox_invariant
    (hreach : (inboxMachine Worker lease).Reachable host) : InboxInvariant host := by
  refine hreach.invariant ?_ ?_
  · rintro start ⟨hrows, hphases, hissued, hgrants, hreleased⟩
    exact
      { checked := fun key row hrow => by simp [hrows] at hrow
        current := fun key row token hrow => by simp [hrows] at hrow
        given := fun grant hgrant => by simp [hgrants] at hgrant
        issued := fun grant hgrant => by simp [hgrants] at hgrant
        distinct := by simp [hgrants]
        pending := fun worker token seen h => by simp [hphases, InboxPhase.pending?] at h
        held := fun worker delivery token h => by simp [hphases, InboxPhase.held?] at h
        released := fun token h => by simp [hreleased] at h
        active := fun worker token h => by simp [hphases, InboxPhase.active?] at h
        own := fun worker other token h => by
          simp [hphases, InboxPhase.Has, InboxPhase.pending?, InboxPhase.held?] at h }
  · intro before action after _ hinv hstep
    exact hinv.moves (InboxHost.step_moves hinv.checked hstep)

end Invariant

/-! ## Leases, tokens and runs -/

namespace InboxHost

variable {Worker : Type}

/-- The claim's lease has not run out and was not given up. -/
def Live (host : InboxHost Worker) (grant : Grant) : Prop :=
  grant.token ∉ host.released ∧ host.now < grant.lease_until

/-- The pair was granted again after the claim. -/
def Superseded (host : InboxHost Worker) (grant : Grant) : Prop :=
  grant ∈ host.grants ∧
    ∃ latest, host.latest grant.key = some latest ∧ latest.token ≠ grant.token

def Processed (host : InboxHost Worker) (key : InboxKey) (row : InboxMessage) : Prop :=
  host.rows key = some row ∧ row.status = .processed

/-- Every handler run in progress is within the lease of its claim. -/
def RunsInLease (host : InboxHost Worker) : Prop :=
  ∀ worker delivery token, host.phase worker = .running delivery token →
    ∃ grant ∈ host.grants, grant.token = token ∧ host.now < grant.lease_until

end InboxHost

section Exclusion

variable {Worker : Type} [DecidableEq Worker] {lease : ℤ} {host after : InboxHost Worker}

omit [DecidableEq Worker] in
/-- A live claim is the one that its row names. -/
theorem InboxInvariant.live_token
    (hinv : InboxInvariant host) {grant : Grant} (hgrant : grant ∈ host.grants)
    (hlive : host.Live grant) :
    ∃ row, host.rows grant.key = some row ∧ row.claim_token = some grant.token := by
  rcases hinv.given grant hgrant with hreleased | hexpired | hrow
  · exact (hlive.1 hreleased).elim
  · exact (not_lt.mpr hexpired hlive.2).elim
  · exact hrow

omit [DecidableEq Worker] in
theorem InboxInvariant.live_unique
    (hinv : InboxInvariant host) {first second : Grant} (hfirst : first ∈ host.grants)
    (hsecond : second ∈ host.grants) (hkey : first.key = second.key)
    (hlive : host.Live first) (hother : host.Live second) : first = second := by
  obtain ⟨row, hrow, htoken⟩ := hinv.live_token hfirst hlive
  obtain ⟨other, hrow', htoken'⟩ := hinv.live_token hsecond hother
  rw [← hkey, hrow] at hrow'
  obtain rfl := Option.some.inj hrow'
  exact hinv.grant_eq hfirst hsecond (Option.some.inj (htoken.symm.trans htoken'))

omit [DecidableEq Worker] in
/-- No row names a superseded token. -/
theorem InboxInvariant.superseded_token
    (hinv : InboxInvariant host) {grant : Grant} (hsuperseded : host.Superseded grant)
    {row : InboxMessage} (hrow : host.rows grant.key = some row) :
    row.claim_token ≠ some grant.token := by
  intro htoken
  obtain ⟨-, latest, hlatest, hdiffers⟩ := hsuperseded
  obtain ⟨current, hcurrent, hsame, -⟩ := hinv.current grant.key row grant.token hrow htoken
  obtain rfl := Option.some.inj (hlatest.symm.trans hcurrent)
  exact hdiffers hsame

theorem InboxInvariant.superseded_moves
    (hinv : InboxInvariant host) {grant : Grant} (hsuperseded : host.Superseded grant)
    (hmoves : host.Moves lease after) : after.Superseded grant := by
  cases hmoves with
  | tick now hnow => exact hsuperseded
  | calm worker phase hkeeps => exact hsuperseded
  | read worker delivery attempts token hfresh => exact hsuperseded
  | release worker delivery token before row hphase hbefore htoken hcleared hfields =>
      exact hsuperseded
  | stay => exact hsuperseded
  | grant worker delivery token seen row hpending hrow hreplaced =>
      obtain ⟨hgrant, latest, hlatest, hdiffers⟩ := hsuperseded
      refine ⟨List.mem_cons_of_mem _ hgrant, ?_⟩
      by_cases hkey : delivery.key = grant.key
      · refine ⟨⟨delivery.key, token, seen + lease⟩,
          List.find?_cons_of_pos (by simpa using hkey), ?_⟩
        exact Ne.symm ((hinv.pending worker token seen hpending).2.2 grant hgrant)
      · exact ⟨latest, (List.find?_cons_of_neg (by simpa using hkey)).trans hlatest,
          hdiffers⟩

theorem InboxInvariant.processed_moves
    (hinv : InboxInvariant host) {key : InboxKey} {row : InboxMessage}
    (hprocessed : host.Processed key row) (hmoves : host.Moves lease after) :
    after.Processed key row := by
  obtain ⟨hrow, hstatus⟩ := hprocessed
  cases hmoves with
  | tick now hnow => exact ⟨hrow, hstatus⟩
  | calm worker phase hkeeps => exact ⟨hrow, hstatus⟩
  | read worker delivery attempts token hfresh => exact ⟨hrow, hstatus⟩
  | stay => exact ⟨hrow, hstatus⟩
  | grant worker delivery token seen claimed hpending hclaimed hreplaced =>
      by_cases hkey : key = delivery.key
      · subst hkey
        exact ((hreplaced row hrow).1 hstatus).elim
      · exact ⟨(Function.update_of_ne hkey _ _).trans hrow, hstatus⟩
  | release worker delivery token before released hphase hbefore htoken hcleared hfields =>
      by_cases hkey : key = delivery.key
      · subst hkey
        obtain rfl := Option.some.inj (hrow.symm.trans hbefore)
        have hchecked := hinv.checked delivery.key row hrow
        simp [InboxMessage.statusFields, hstatus, htoken] at hchecked
      · exact ⟨(Function.update_of_ne hkey _ _).trans hrow, hstatus⟩

/-- `complete` and `fail` with a superseded token match no row. -/
theorem InboxInvariant.superseded_settles
    (hinv : InboxInvariant host) {grant : Grant} (hsuperseded : host.Superseded grant)
    {worker : Worker} {delivery : InboxDelivery}
    (hphase : host.phase worker = .ended delivery grant.token)
    {action : InboxAction Worker}
    (haction : (∃ processed_at, action = .complete worker processed_at) ∨
      ∃ error, action = .fail worker error)
    (hstep : host.step lease action = some after) : after = host := by
  obtain ⟨held, hheld, hkey, htoken⟩ :=
    hinv.held worker delivery grant.token (by rw [hphase]; rfl)
  obtain rfl := hinv.grant_eq hheld hsuperseded.1 htoken
  have hunmatched : ∀ row, host.rows delivery.key = some row →
      ¬ row.claim_token = some held.token := by
    rw [← hkey]
    exact fun row hrow => hinv.superseded_token hsuperseded hrow
  rcases haction with ⟨processed_at, rfl⟩ | ⟨error, rfl⟩
  · simp only [InboxHost.step, hphase] at hstep
    split at hstep
    · rename_i row hrow
      obtain ⟨before, hbefore, hcomplete⟩ := Option.bind_eq_some_iff.mp hrow
      exact (hunmatched before hbefore (completeRow_eq hcomplete).1).elim
    · exact (Option.some.inj hstep).symm
  · simp only [InboxHost.step, hphase] at hstep
    split at hstep
    · rename_i row hrow
      obtain ⟨before, hbefore, hfail⟩ := Option.bind_eq_some_iff.mp hrow
      exact (hunmatched before hbefore (failRow_eq hfail).1).elim
    · exact (Option.some.inj hstep).symm

/-- A `complete` that does not raise leaves the row processed. -/
theorem InboxHost.complete_processed
    {worker : Worker} {processed_at : ℤ} {delivery : InboxDelivery} {token : PyStr}
    (hphase : host.phase worker = .ended delivery token)
    (hstep : host.step lease (.complete worker processed_at) = some after)
    (hsucceeds : after ≠ host) : ∃ row, after.Processed delivery.key row := by
  simp only [step, hphase] at hstep
  split at hstep
  · rename_i row hrow
    obtain rfl := Option.some.inj hstep
    obtain ⟨before, -, hcomplete⟩ := Option.bind_eq_some_iff.mp hrow
    exact ⟨row, Function.update_self _ _ _, (completeRow_eq hcomplete).2.2.1⟩
  · exact (hsucceeds (Option.some.inj hstep).symm).elim

/-- A claim that finds a processed row is answered `PROCESSED`, or refused when
it carries other metadata. -/
theorem InboxHost.select_processed
    {worker : Worker} {delivery : InboxDelivery} {attempts : ℕ} {token : PyStr} {seen : ℤ}
    {row : InboxMessage}
    (hphase : host.phase worker = .opened delivery attempts token seen)
    (hprocessed : host.Processed delivery.key row) :
    host.step lease (.select worker) = some (host.become worker
      (if row.identity = delivery.identity then .answered delivery ⟨.processed, none⟩
        else .refused delivery)) := by
  obtain ⟨hrow, hstatus⟩ := hprocessed
  by_cases hidentity : row.identity = delivery.identity
  · simp [step, hphase, select, hrow, decideClaim, hidentity, hstatus]
  · simp [step, hphase, select, hrow, decideClaim, hidentity]

omit [DecidableEq Worker] in
theorem InboxInvariant.running_live
    (hinv : InboxInvariant host) (hlease : host.RunsInLease) {worker : Worker}
    {delivery : InboxDelivery} {token : PyStr}
    (hphase : host.phase worker = .running delivery token) :
    ∃ grant ∈ host.grants, grant.key = delivery.key ∧ grant.token = token ∧
      host.Live grant := by
  obtain ⟨grant, hgrant, hsame, hnow⟩ := hlease worker delivery token hphase
  obtain ⟨held, hheld, hkey, htoken⟩ :=
    hinv.held worker delivery token (by rw [hphase]; rfl)
  obtain rfl := hinv.grant_eq hgrant hheld (hsame.trans htoken.symm)
  refine ⟨grant, hgrant, hkey, hsame, ?_, hnow⟩
  rw [hsame]
  exact hinv.active worker token (by rw [hphase]; rfl)

omit [DecidableEq Worker] in
/-- Runs that stay within their leases do not overlap, and none is in progress
on a processed pair. -/
theorem InboxInvariant.runs_exclusive
    (hinv : InboxInvariant host) (hlease : host.RunsInLease) :
    (∀ worker other delivery token delivery' token',
        host.phase worker = .running delivery token →
          host.phase other = .running delivery' token' →
            delivery.key = delivery'.key → worker = other) ∧
      ∀ worker delivery token row, host.phase worker = .running delivery token →
        ¬ host.Processed delivery.key row := by
  constructor
  · intro worker other delivery token delivery' token' hphase hother hkey
    obtain ⟨first, hfirst, hfirstKey, rfl, hlive⟩ := hinv.running_live hlease hphase
    obtain ⟨second, hsecond, hsecondKey, rfl, hlive'⟩ := hinv.running_live hlease hother
    obtain rfl := hinv.live_unique hfirst hsecond
      (hfirstKey.trans (hkey.trans hsecondKey.symm)) hlive hlive'
    exact hinv.own worker other first.token (Or.inr ⟨delivery, by rw [hphase]; rfl⟩)
      (Or.inr ⟨delivery', by rw [hother]; rfl⟩)
  · rintro worker delivery token row hphase ⟨hrow, hstatus⟩
    obtain ⟨grant, hgrant, hkey, rfl, hlive⟩ := hinv.running_live hlease hphase
    obtain ⟨current, hcurrent, htoken⟩ := hinv.live_token hgrant hlive
    rw [hkey] at hcurrent
    obtain rfl := Option.some.inj (hrow.symm.trans hcurrent)
    have hchecked := hinv.checked delivery.key row hrow
    simp [InboxMessage.statusFields, hstatus, htoken] at hchecked

end Exclusion

/-- Mutual exclusion of the inbox, for every interleaving of the workers. -/
theorem inbox_mutual_exclusion
    (Worker : Type) [DecidableEq Worker] (lease : ℤ) (host : InboxHost Worker)
    (hreach : (inboxMachine Worker lease).Reachable host) :
    (∀ first ∈ host.grants, ∀ second ∈ host.grants, first.key = second.key →
        host.Live first → host.Live second → first = second) ∧
      (∀ grant, host.Superseded grant → ∀ actions later,
        (inboxMachine Worker lease).execute host actions = some later →
          ∀ worker delivery, later.phase worker = .ended delivery grant.token →
            ∀ action after, ((∃ processed_at, action = .complete worker processed_at) ∨
                ∃ error, action = .fail worker error) →
              later.step lease action = some after → after.rows = later.rows) ∧
      (∀ worker delivery token processed_at after,
        host.phase worker = .ended delivery token →
          host.step lease (.complete worker processed_at) = some after → after ≠ host →
            ∃ row, after.Processed delivery.key row) ∧
      (∀ key row, host.Processed key row → ∀ actions later,
        (inboxMachine Worker lease).execute host actions = some later →
          later.Processed key row ∧
            ∀ worker delivery attempts token seen,
              later.phase worker = .opened delivery attempts token seen →
                delivery.key = key →
                  later.step lease (.select worker) = some (later.become worker
                    (if row.identity = delivery.identity then
                      .answered delivery ⟨.processed, none⟩
                    else .refused delivery))) ∧
      (host.RunsInLease →
        (∀ worker other delivery token delivery' token',
          host.phase worker = .running delivery token →
            host.phase other = .running delivery' token' →
              delivery.key = delivery'.key → worker = other) ∧
          ∀ worker delivery token row, host.phase worker = .running delivery token →
            ¬ host.Processed delivery.key row) := by
  have hinv := inbox_invariant hreach
  refine ⟨?_, ?_, ?_, ?_, ?_⟩
  · intro first hfirst second hsecond hkey hlive hother
    exact hinv.live_unique hfirst hsecond hkey hlive hother
  · intro grant hsuperseded actions later hrun worker delivery hphase action after
      haction hstep
    have hlater := inbox_invariant (hreach.execute hrun)
    have hstill : later.Superseded grant := hreach.run_invariant
      (fun before action next hbefore hheld hnext =>
        (inbox_invariant hbefore).superseded_moves hheld
          (InboxHost.step_moves (inbox_invariant hbefore).checked hnext))
      hsuperseded hrun
    rw [hlater.superseded_settles hstill hphase haction hstep]
  · intro worker delivery token processed_at after hphase hstep hsucceeds
    exact InboxHost.complete_processed hphase hstep hsucceeds
  · intro key row hprocessed actions later hrun
    have hstill : later.Processed key row := hreach.run_invariant
      (fun before action next hbefore hheld hnext =>
        (inbox_invariant hbefore).processed_moves hheld
          (InboxHost.step_moves (inbox_invariant hbefore).checked hnext))
      hprocessed hrun
    refine ⟨hstill, fun worker delivery attempts token seen hphase hkey => ?_⟩
    subst hkey
    exact InboxHost.select_processed hphase hstill
  · intro hlease
    exact hinv.runs_exclusive hlease

def sampleDelivery : InboxDelivery :=
  { event_id := py "event-1"
    handler_name := py "handler-1"
    identity :=
      { contract_name := py "catalog.book-borrowed"
        contract_version := 1
        payload_hash := List.replicate 64 0x61
        correlation_id := none
        causation_id := none } }

theorem inbox_mutual_exclusion_sample :
    ∃ (host : InboxHost ℕ) (row : InboxMessage),
      host.Processed sampleDelivery.key row ∧ ∀ actions later,
        (inboxMachine ℕ 300).execute host actions = some later →
          later.Processed sampleDelivery.key row := by
  let start : InboxHost ℕ := ⟨fun _ => none, 0, fun _ => .idle, [], [], []⟩
  let actions : List (InboxAction ℕ) :=
    [.claim 0 sampleDelivery, .read 0 (py "a"), .claim 1 sampleDelivery, .read 1 (py "b"),
      .select 0, .select 1, .insert 0, .insert 1, .start 0, .finish 0, .complete 0 9]
  have hresult : ((inboxMachine ℕ 300).execute start actions).map
      (fun host => (host.rows sampleDelivery.key).map InboxMessage.status) =
        some (some .processed) := by decide +kernel
  obtain ⟨host, hrun, hends⟩ := Option.map_eq_some_iff.mp hresult
  obtain ⟨row, hrow, hstatus⟩ := Option.map_eq_some_iff.mp hends
  have hstart : (inboxMachine ℕ 300).Reachable start :=
    .start ⟨fun _ => rfl, fun _ => rfl, rfl, rfl, rfl⟩
  have hexclusion := inbox_mutual_exclusion ℕ 300 host (hstart.execute hrun)
  refine ⟨host, row, ⟨hrow, hstatus⟩, fun actions later hlater => ?_⟩
  exact (hexclusion.2.2.2.1 sampleDelivery.key row ⟨hrow, hstatus⟩ actions later hlater).1

end LibrarySystem
