import LibrarySystem.Persistence.TransactionRules

/-!
# No lost update

Over any interleaving of transactions the committed rows of an aggregate are a chain: each is
what the calls of one transaction made of the aggregate that was committed before it, under
the next version.  A transaction that is based on another row is refused at its UPDATE.
-/

namespace LibrarySystem

open Database

variable {A : Type} [Stored A] [Repository A] [Transactional A] {rt : PythonRuntime}

/-! ## The rows that are committed -/

/-- The rows of an id along the log of the commits.  Each entry finds the row its predecessor
left; it leaves the row as it is, inserts the first one, or commits what its calls made of
the aggregate it found. -/
inductive CommittedRows (rt : PythonRuntime) (id : PyStr) :
    List (Commit A) → Option (Stored.Row A) → Prop
  | start : CommittedRows rt id [] none
  | kept {log : List (Commit A)} {entry : Commit A} {row : Option (Stored.Row A)}
      (hlog : CommittedRows rt id log row)
      (hupdates : entry.transaction.updates id = false)
      (hadds : entry.transaction.adds id = false)
      (hbefore : (Stored.table (A := A) entry.before).lookup id = row)
      (hafter : (Stored.table (A := A) entry.after).lookup id = row) :
      CommittedRows rt id (log ++ [entry]) row
  | added {log : List (Commit A)} {entry : Commit A} (aggregate : A)
      (hlog : CommittedRows rt id log none)
      (hadds : entry.transaction.adds id = true)
      (hinsert : .insertAggregate (Stored.wrap aggregate) ∈
        entry.transaction.session.statements)
      (hbefore : (Stored.table (A := A) entry.before).lookup id = none)
      (hafter : (Stored.table (A := A) entry.after).lookup id =
        some (Repository.ofEntity aggregate 0)) :
      CommittedRows rt id (log ++ [entry]) (some (Repository.ofEntity aggregate 0))
  | updated {log : List (Commit A)} {entry : Commit A} {row : Stored.Row A} (before : A)
      (hlog : CommittedRows rt id log (some row))
      (hupdates : entry.transaction.updates id = true)
      (hbefore : (Stored.table (A := A) entry.before).lookup id = some row)
      (hrow : Stored.toEntity row = .ok before)
      (hafter : (Stored.table (A := A) entry.after).lookup id =
        some (Repository.ofEntity (entry.transaction.called rt id before)
          (Stored.version row + 1))) :
      CommittedRows rt id (log ++ [entry])
        (some (Repository.ofEntity (entry.transaction.called rt id before)
          (Stored.version row + 1)))

/-- The versions of an id that were committed, in their order. -/
def committedVersions (id : PyStr) (log : List (Commit A)) : List ℕ :=
  (log.filter fun entry => entry.transaction.updates id || entry.transaction.adds id).filterMap
    fun entry => ((Stored.table (A := A) entry.after).lookup id).map Stored.version

/-- The versions of the rows are consecutive. -/
theorem CommittedRows.versions {id : PyStr} {log : List (Commit A)}
    {row : Option (Stored.Row A)} (hrows : CommittedRows rt id log row) :
    committedVersions id log = List.range (row.elim 0 fun row => Stored.version row + 1) := by
  induction hrows with
  | start => rfl
  | kept hlog hupdates hadds hbefore hafter ih =>
      rw [← ih]
      simp [committedVersions, List.filter_append, hupdates, hadds]
  | added aggregate hlog hadds hinsert hbefore hafter ih =>
      rw [committedVersions] at ih
      rw [committedVersions, List.filter_append, List.filterMap_append, ih]
      simp [hadds, hafter, Repository.version_ofEntity, List.range_succ]
  | updated before hlog hupdates hbefore hrow hafter ih =>
      rw [committedVersions] at ih
      rw [committedVersions, List.filter_append, List.filterMap_append, ih]
      simp [hupdates, hafter, Repository.version_ofEntity, List.range_succ]

/-! ## All transactions -/

/-- What a running transaction has read and locked. -/
def Transaction.hand (own : Transaction A) : Option (RowLocks.Hand PyStr (Stored.Row A)) :=
  if own.ended.isNone then
    some ⟨own.loaded, own.loaded.filter fun entry => own.updates entry.1⟩
  else none

def hands (transactions : List (Transaction A)) (i : ℕ) :
    Option (RowLocks.Hand PyStr (Stored.Row A)) :=
  transactions[i]?.bind Transaction.hand

section Hands

variable {transactions : List (Transaction A)} {i : ℕ} {own : Transaction A}

theorem Transaction.hand_running (hrunning : own.ended = none) :
    own.hand = some ⟨own.loaded, own.loaded.filter fun entry => own.updates entry.1⟩ := by
  simp [hand, hrunning]

theorem hands_running (hown : transactions[i]? = some own) (hrunning : own.ended = none) :
    hands transactions i =
      some ⟨own.loaded, own.loaded.filter fun entry => own.updates entry.1⟩ := by
  rw [hands, hown, Option.bind_some, Transaction.hand_running hrunning]

theorem hands_set (hown : transactions[i]? = some own) (next : Transaction A) :
    hands (transactions.set i next) = Function.update (hands transactions) i next.hand := by
  have hbound : i < transactions.length := (List.getElem?_eq_some_iff.mp hown).1
  funext j
  by_cases hj : j = i
  · subst j
    simp [hands, hbound]
  · rw [Function.update_of_ne hj, hands, hands, List.getElem?_set_ne (Ne.symm hj)]

theorem hands_append (next : Transaction A) :
    hands (transactions ++ [next]) =
      Function.update (hands transactions) transactions.length next.hand := by
  funext j
  by_cases hj : j = transactions.length
  · subst j
    simp [hands]
  · rw [Function.update_of_ne hj, hands, hands]
    rcases Nat.lt_or_gt_of_ne hj with hlt | hgt
    · rw [List.getElem?_append_left hlt]
    · rw [List.getElem?_eq_none (by simp; omega), List.getElem?_eq_none hgt.le]

end Hands

/-- What every run keeps. -/
structure TransactionWorld.Sound (rt : PythonRuntime) (world : TransactionWorld A) : Prop where
  locks : RowLocks.Sound Stored.version (Stored.table (A := A) world.shared).lookup
    (hands world.transactions)
  transactions : ∀ (i : ℕ) (own : Transaction A), world.transactions[i]? = some own →
    own.ended = none → own.Sound rt
  history : ∀ id, CommittedRows rt id world.log ((Stored.table (A := A) world.shared).lookup id)
  committed : ∀ entry ∈ world.log, ∃ own, world.transactions[entry.index]? = some own ∧
    own.ended = some .committed

namespace TransactionWorld

variable {world after : TransactionWorld A} {i : ℕ} {own next : Transaction A}

theorem Sound.read (hsound : world.Sound rt) (hown : world.transactions[i]? = some own)
    (hrunning : own.ended = none) {key : PyStr} {row : Stored.Row A}
    (hmem : (key, row) ∈ own.loaded) :
    RowLocks.Seen Stored.version (Stored.table (A := A) world.shared).lookup key row :=
  hsound.locks.read i _ (hands_running hown hrunning) key row hmem

/-- A row that a running transaction has updated is still the one it loaded. -/
theorem Sound.held (hsound : world.Sound rt) (hown : world.transactions[i]? = some own)
    (hrunning : own.ended = none) {key : PyStr} {row : Stored.Row A}
    (hmem : (key, row) ∈ own.loaded) (hupdates : own.updates key = true) :
    (Stored.table (A := A) world.shared).lookup key = some row :=
  hsound.locks.held i _ (hands_running hown hrunning) key row
    (List.mem_filter.mpr ⟨hmem, hupdates⟩)

/-- A transaction goes on or ends without a commit. -/
theorem Sound.set (hsound : world.Sound rt) (hown : world.transactions[i]? = some own)
    (hrunning : own.ended = none)
    (hlocks : RowLocks.Sound Stored.version (Stored.table (A := A) world.shared).lookup
      (Function.update (hands world.transactions) i next.hand))
    (hnext : next.ended = none → next.Sound rt) :
    Sound rt { world with transactions := world.transactions.set i next } := by
  refine ⟨?_, ?_, hsound.history, ?_⟩
  · rw [hands_set hown]
    exact hlocks
  · intro j found hfound hgoes
    by_cases hj : i = j
    · subst j
      rw [List.getElem?_set_self (List.getElem?_eq_some_iff.mp hown).1,
        Option.some.injEq] at hfound
      subst found
      exact hnext hgoes
    · rw [List.getElem?_set_ne hj] at hfound
      exact hsound.transactions j found hfound hgoes
  · intro entry hentry
    obtain ⟨found, hfound, hended⟩ := hsound.committed entry hentry
    refine ⟨found, ?_, hended⟩
    rw [List.getElem?_set_ne, hfound]
    rintro rfl
    rw [hown, Option.some.injEq] at hfound
    rw [← hfound, hrunning] at hended
    cases hended

/-- Two running transactions have not updated the same row. -/
theorem Sound.apart (hsound : world.Sound rt) (hown : world.transactions[i]? = some own)
    (hrunning : own.ended = none) {j : ℕ} {other : Transaction A} (hj : j ≠ i)
    (hother : world.transactions[j]? = some other) (hgoes : other.ended = none) {key : PyStr}
    (hupdates : own.updates key = true) : other.updates key = false := by
  apply Bool.eq_false_of_not_eq_true
  intro hboth
  obtain ⟨row, _, _, hloaded, -⟩ :=
    (hsound.transactions i own hown hrunning).updated_loaded hupdates
  obtain ⟨found, _, _, hfound, -⟩ :=
    (hsound.transactions j other hother hgoes).updated_loaded hboth
  exact hsound.locks.apart i j _ _ hj.symm (hands_running hown hrunning)
    (hands_running hother hgoes) key row found (List.mem_filter.mpr ⟨hloaded, hupdates⟩)
    (List.mem_filter.mpr ⟨hfound, hboth⟩)

/-- A transaction goes on. -/
theorem Sound.advance (hsound : world.Sound rt) (hown : world.transactions[i]? = some own)
    (hrunning : own.ended = none) (hnext : next.Sound rt) (hgoes : next.ended = none)
    (hread : ∀ key row, (key, row) ∈ next.loaded →
      RowLocks.Seen Stored.version (Stored.table (A := A) world.shared).lookup key row)
    (hheld : ∀ key row, (key, row) ∈ next.loaded → next.updates key = true →
      (Stored.table (A := A) world.shared).lookup key = some row)
    (hapart : ∀ j other, j ≠ i → world.transactions[j]? = some other → other.ended = none →
      ∀ key, next.updates key = true → other.updates key = false) :
    Sound rt { world with transactions := world.transactions.set i next } := by
  refine hsound.set hown hrunning ?_ fun _ => hnext
  rw [Transaction.hand_running hgoes]
  apply hsound.locks.take
  · exact hread
  · intro key row hmem
    obtain ⟨hloaded, hupdates⟩ := List.mem_filter.mp hmem
    exact hheld key row hloaded hupdates
  · intro j hand hj hhand key row taken hmem htaken
    obtain ⟨other, hother, hsome⟩ := Option.bind_eq_some_iff.mp hhand
    cases hended : other.ended with
    | some ending => simp [Transaction.hand, hended] at hsome
    | none =>
        rw [Transaction.hand_running hended, Option.some.injEq] at hsome
        subst hand
        have hidle := hapart j other hj hother hended key (List.mem_filter.mp hmem).2
        rw [(List.mem_filter.mp htaken).2] at hidle
        cases hidle

/-- A transaction that reads and updates nothing more goes on. -/
theorem Sound.goes (hsound : world.Sound rt) (hown : world.transactions[i]? = some own)
    (hrunning : own.ended = none) (hnext : next.Sound rt) (hgoes : next.ended = none)
    (hloaded : next.loaded = own.loaded) (hwritten : next.written = own.written) :
    Sound rt { world with transactions := world.transactions.set i next } := by
  have hupdates : ∀ key, next.updates key = own.updates key := fun key => by
    rw [Transaction.updates, hwritten, Transaction.updates]
  apply hsound.advance hown hrunning hnext hgoes
  · intro key row hmem
    exact hsound.read hown hrunning (hloaded ▸ hmem)
  · intro key row hmem hupdated
    exact hsound.held hown hrunning (hloaded ▸ hmem) (hupdates key ▸ hupdated)
  · intro j other hj hother hended key hupdated
    exact hsound.apart hown hrunning hj hother hended (hupdates key ▸ hupdated)

theorem Sound.loads (hsound : world.Sound rt) (hown : world.transactions[i]? = some own)
    (hrunning : own.ended = none) {id : PyStr} {row : Stored.Row A} {aggregate : A}
    (hnew : own.session.find id = none)
    (hrow : (Stored.table (A := A) world.shared).lookup id = some row)
    (haggregate : Stored.toEntity row = .ok aggregate) :
    Sound rt { world with
      transactions := world.transactions.set i { own with
        session := own.session.track id ⟨aggregate, Stored.version row, []⟩
        loaded := own.loaded ++ [(id, row)] } } := by
  have hbefore := hsound.transactions i own hown hrunning
  apply hsound.advance hown hrunning (hbefore.load hnew hrow haggregate) hrunning
  · intro key found hmem
    rcases List.mem_append.mp hmem with hold | hlast
    · exact hsound.read hown hrunning hold
    · cases List.mem_singleton.mp hlast
      exact ⟨row, hrow, Or.inr rfl⟩
  · intro key found hmem hupdates
    rcases List.mem_append.mp hmem with hold | hlast
    · exact hsound.held hown hrunning hold hupdates
    · cases List.mem_singleton.mp hlast
      exact hrow
  · exact fun j other hj hother hended key hupdates =>
      hsound.apart hown hrunning hj hother hended hupdates

/-- An UPDATE takes the lock of the row that was loaded. -/
theorem Sound.locks_row (hsound : world.Sound rt) (hown : world.transactions[i]? = some own)
    (hrunning : own.ended = none) {id : PyStr} {entity : Tracked A} {changed : Database}
    (hentity : own.session.find id = some entity) (hloaded : id ∈ own.loaded.map Prod.fst)
    (hupdates : own.updates id = false)
    (hfree : ∀ j other, j ≠ i → world.transactions[j]? = some other → other.ended = none →
      other.updates id = false)
    (hrun : (own.view world.shared).run
      (.updateAggregate entity.version (Stored.wrap entity.aggregate)) = .ok changed) :
    Sound rt { world with
      transactions := world.transactions.set i { own with
        session := (own.session.track id
          { entity with version := entity.version + 1 }).markDirty id
        written := own.written ++
          ((Stored.table (A := A) changed).lookup id).toList } } := by
  have hbefore := hsound.transactions i own hown hrunning
  have hread : ∀ key row, (key, row) ∈ own.loaded →
      RowLocks.Seen Stored.version (Stored.table (A := A) world.shared).lookup key row :=
    fun _ _ hmem => hsound.read hown hrunning hmem
  obtain ⟨row, hmem⟩ := Transaction.exists_loaded hloaded
  obtain ⟨before, hrow, -, hid, hnext⟩ := hbefore.finds hread hentity hupdates hrun hmem
  have hkey : Stored.key (Repository.ofEntity (own.called rt id before)
      (Stored.version row + 1)) = id := (Repository.key_ofEntity _ _).trans hid
  rw [hnext, Option.toList_some]
  have hsplit : ∀ {key}, Transaction.updates { own with
      session := (own.session.track id
        { entity with version := entity.version + 1 }).markDirty id
      written := own.written ++
        [Repository.ofEntity (own.called rt id before) (Stored.version row + 1)] } key = true →
      own.updates key = true ∨ id = key := by
    intro key hupdated
    simpa [Transaction.updates, hkey] using hupdated
  apply hsound.advance hown hrunning (hbefore.update hentity hmem hrow hid hupdates) hrunning
  · exact fun key found hfound => hsound.read hown hrunning hfound
  · intro key found hfound hupdated
    rcases hsplit hupdated with hold | rfl
    · exact hsound.held hown hrunning hfound hold
    · obtain ⟨_, -, hcurrent, -⟩ := hbefore.finds hread hentity hupdates hrun hfound
      exact hcurrent
  · intro j other hj hother hended key hupdated
    rcases hsplit hupdated with hold | rfl
    · exact hsound.apart hown hrunning hj hother hended hold
    · exact hfree j other hj hother hended

/-- A transaction ends without a commit. -/
theorem Sound.stops (hsound : world.Sound rt) (hown : world.transactions[i]? = some own)
    (hrunning : own.ended = none) (ending : Ending) :
    Sound rt { world with
      transactions := world.transactions.set i { own with ended := some ending } } := by
  refine hsound.set hown hrunning ?_ fun hnever => by cases hnever
  exact hsound.locks.leave i

/-- A commit extends the history of every row. -/
theorem Sound.commits (hsound : world.Sound rt) (hown : world.transactions[i]? = some own)
    (hrunning : own.ended = none) {rows : List OutboxRow} {changed : Database}
    (hrun : (own.view world.shared).runAll
      (own.session.statements ++ rows.map .insertOutbox) = .ok changed)
    (hends : next.ended = some .committed) :
    Sound rt
      { shared := changed
        transactions := world.transactions.set i next
        log := world.log ++ [⟨i, own, world.shared, changed⟩] } := by
  have hbefore := hsound.transactions i own hown hrunning
  have hcommit := hbefore.commit hrun
  have hhand : next.hand = none := by simp [Transaction.hand, hends]
  have hset : Sound rt { world with transactions := world.transactions.set i next } := by
    apply hsound.set hown hrunning
    · rw [hhand]
      exact hsound.locks.leave i
    · intro hnever
      rw [hends] at hnever
      cases hnever
  refine ⟨?_, hset.transactions, ?_, ?_⟩
  · rw [hands_set hown, hhand]
    apply hsound.locks.commit (hands_running hown hrunning)
    · intro key row hmem
      obtain ⟨hloaded, hupdates⟩ := List.mem_filter.mp hmem
      have hcurrent := hsound.held hown hrunning hloaded hupdates
      rcases hcommit key with ⟨found, before, hfound, -, -, hafter⟩ | ⟨_, hidle, -⟩ | ⟨hidle, -⟩
      · rw [hsound.held hown hrunning hfound hupdates, Option.some.injEq] at hcurrent
        subst found
        refine ⟨_, hafter, ?_⟩
        rw [Repository.version_ofEntity]
        exact Nat.lt_succ_self _
      · rw [hupdates] at hidle
        cases hidle
      · rw [hupdates] at hidle
        cases hidle
    · intro key hfree
      rcases hcommit key with ⟨row, _, hloaded, hupdates, -⟩ | ⟨_, -, -, -, hnew, -⟩ |
        ⟨-, -, hsame⟩
      · exact absurd (List.mem_filter.mpr ⟨hloaded, hupdates⟩) (hfree row)
      · exact Or.inl hnew
      · exact Or.inr hsame
  · intro id
    have hlog := hsound.history id
    rcases hcommit id with ⟨row, before, hloaded, hupdates, hrow, hafter⟩ |
      ⟨aggregate, -, hadds, hinsert, hnew, hafter⟩ | ⟨hupdates, hadds, hsame⟩
    · have hcurrent := hsound.held hown hrunning hloaded hupdates
      rw [hcurrent] at hlog
      rw [hafter]
      exact .updated before hlog hupdates hcurrent hrow hafter
    · rw [hnew] at hlog
      rw [hafter]
      exact .added aggregate hlog hadds hinsert hnew hafter
    · rw [hsame]
      exact .kept hlog hupdates hadds rfl hsame
  · intro entry hentry
    rcases List.mem_append.mp hentry with hold | hlast
    · exact hset.committed entry hold
    · rw [List.mem_singleton.mp hlast]
      exact ⟨next, List.getElem?_set_self (List.getElem?_eq_some_iff.mp hown).1, hends⟩

theorem Sound.starts (hsound : world.Sound rt) :
    Sound rt { world with transactions := world.transactions ++ [{}] } := by
  refine ⟨?_, ?_, hsound.history, ?_⟩
  · rw [hands_append]
    apply hsound.locks.take
    · exact fun _ _ hnever => by cases hnever
    · exact fun _ _ hnever => by cases hnever
    · exact fun _ _ _ _ _ _ _ hnever => by cases hnever
  · intro j found hfound hgoes
    rcases Nat.lt_trichotomy j world.transactions.length with hlt | rfl | hgt
    · rw [List.getElem?_append_left hlt] at hfound
      exact hsound.transactions j found hfound hgoes
    · simp only [List.getElem?_concat_length, Option.some.injEq] at hfound
      exact hfound ▸ .empty
    · rw [List.getElem?_eq_none (by simp; omega)] at hfound
      cases hfound
  · intro entry hentry
    obtain ⟨found, hfound, hended⟩ := hsound.committed entry hentry
    refine ⟨found, ?_, hended⟩
    rw [List.getElem?_append_left (List.getElem?_eq_some_iff.mp hfound).1]
    exact hfound

/-- Every orderly step keeps what the runs keep. -/
theorem Sound.step (hsound : world.Sound rt) {action : TransactionAction A}
    (horderly : world.Orderly action) (hstep : world.step rt action = some after) :
    after.Sound rt := by
  obtain ⟨rfl, rfl⟩ | ⟨changed, rfl, rfl⟩ |
    ⟨i, operation, own, next, stored, rfl, hown, hrunning, hoperated, rfl⟩ := step_cases hstep
  · exact hsound.starts
  · have htable : Stored.table (A := A) changed = Stored.table world.shared := horderly
    refine ⟨?_, hsound.transactions, ?_, hsound.committed⟩
    · rw [htable]
      exact hsound.locks
    · rw [htable]
      exact hsound.history
  · have hbefore := hsound.transactions i own hown hrunning
    cases hoperated with
    | unchanged id =>
        simpa using hsound.goes hown hrunning hbefore hrunning rfl rfl
    | loaded id hnew hrow haggregate =>
        simpa using hsound.loads hown hrunning hnew hrow haggregate
    | added aggregate events =>
        simpa using hsound.goes hown hrunning (hbefore.add (horderly own hown)) hrunning rfl rfl
    | called id request draws hentity =>
        obtain ⟨hloaded, hupdates⟩ := horderly own hown
        simpa using hsound.goes hown hrunning (hbefore.call hentity hloaded hupdates) hrunning
          rfl rfl
    | updated id hentity hfree hrun =>
        obtain ⟨hloaded, hupdates⟩ := horderly own hown
        simpa using hsound.locks_row hown hrunning hentity hloaded hupdates hfree hrun
    | staged htarget =>
        simpa using hsound.goes hown hrunning (hbefore.stage htarget) hrunning rfl rfl
    | committed draws hrun => exact hsound.commits hown hrunning hrun rfl
    | stopped operation hending => simpa using hsound.stops hown hrunning _

theorem sound_of_transacted (hreach : Transacted rt world) : world.Sound rt := by
  refine Machine.ReachableUnder.invariant ?_ ?_ hreach
  · rintro state ⟨hempty, htransactions, hlog⟩
    refine ⟨.empty fun i => by rw [htransactions]; rfl, ?_, ?_, ?_⟩
    · intro i own hown
      rw [htransactions] at hown
      cases hown
    · intro id
      rw [hlog, hempty]
      exact .start
    · intro entry hentry
      rw [hlog] at hentry
      cases hentry
  · exact fun _ _ _ _ hsound horderly hstep => hsound.step horderly hstep

end TransactionWorld

/-! ## Transactions that are based on another row -/

/-- What `update` raises when the row has another version: the text of a statement that
cannot be sent is met first. -/
def Tracked.staleError (entity : Tracked A) : AppException :=
  if (Statement.updateAggregate entity.version (Stored.wrap entity.aggregate)).texts.all storable
  then .concurrentModification (Stored.wrap entity.aggregate)
  else .database .unencodable

theorem Tracked.run_stale (entity : Tracked A) {db : Database} {row : Stored.Row A}
    (hrow : (Stored.table (A := A) db).lookup (Stored.wrap entity.aggregate).idText = some row)
    (hversion : Stored.version row ≠ entity.version) :
    ∃ refusal, db.run (.updateAggregate entity.version (Stored.wrap entity.aggregate)) =
      .error refusal ∧ updateError refusal = entity.staleError := by
  unfold Database.run Tracked.staleError
  split
  · exact ⟨_, Transactional.stale db entity.version entity.aggregate row hrow hversion, rfl⟩
  · exact ⟨_, rfl, rfl⟩

/-- An UPDATE of a row that was overtaken raises, and nothing else happens. -/
theorem TransactionWorld.Sound.refuses {world after : TransactionWorld A} {i : ℕ}
    {own : Transaction A} {id : PyStr} {row : Stored.Row A} (hsound : world.Sound rt)
    (hown : world.transactions[i]? = some own) (hrunning : own.ended = none)
    (hmem : (id, row) ∈ own.loaded)
    (hstale : (Stored.table (A := A) world.shared).lookup id ≠ some row)
    (hstep : world.step rt (.run i (.update id)) = some after) :
    ∃ entity, own.session.find id = some entity ∧ after = { world with
      transactions := world.transactions.set i (own.raise entity.staleError) } := by
  obtain ⟨entity, before, hentity, -, hid, hcalled, hversion⟩ :=
    (hsound.transactions i own hown hrunning).loaded id row hmem
  have hupdates : own.updates id = false := by
    apply Bool.eq_false_of_not_eq_true
    exact fun hupdated => hstale (hsound.held hown hrunning hmem hupdated)
  obtain ⟨current, hcurrent, hlater⟩ := (hsound.read hown hrunning hmem).overtaken hstale
  have hidText : (Stored.wrap entity.aggregate).idText = id := by
    rw [hcalled, Transaction.idText_called, hid]
  have hfound : (Stored.table (A := A) (own.view world.shared)).lookup
      (Stored.wrap entity.aggregate).idText = some current := by
    rw [hidText, Transaction.view_of_not_updates hupdates, hcurrent]
  have hother : Stored.version current ≠ entity.version := by
    rw [hversion hupdates]
    exact hlater.ne'
  obtain ⟨refusal, hrun, herror⟩ := entity.run_stale hfound hother
  refine ⟨entity, hentity, ?_⟩
  rw [← herror]
  simp only [TransactionWorld.step, hown, Option.bind_eq_bind, Option.bind_some, hrunning,
    Option.isSome_none, Bool.false_eq_true, if_false, TransactionWorld.operate, hentity] at hstep
  split at hstep
  · cases hstep
  · rw [hrun] at hstep
    cases hstep
    simp

/-! ## No lost update -/

/-- The rows of every id are one chain under consecutive versions.  A running transaction
whose row was overtaken raises at its UPDATE, and one that has raised has committed nothing. -/
structure LostUpdateFree (rt : PythonRuntime) (world : TransactionWorld A) : Prop where
  history : ∀ id, CommittedRows rt id world.log ((Stored.table (A := A) world.shared).lookup id)
  versions : ∀ id, ∃ count, committedVersions id world.log = List.range count
  refused : ∀ (i : ℕ) (own : Transaction A) (id : PyStr) (row : Stored.Row A),
    world.transactions[i]? = some own → own.ended = none → (id, row) ∈ own.loaded →
      (Stored.table (A := A) world.shared).lookup id ≠ some row →
      ∀ after, world.step rt (.run i (.update id)) = some after →
        ∃ entity, own.session.find id = some entity ∧ after = { world with
          transactions := world.transactions.set i (own.raise entity.staleError) }
  discarded : ∀ (i : ℕ) (own : Transaction A) (error : AppException),
    world.transactions[i]? = some own → own.ended = some (.raised error) →
      ∀ entry ∈ world.log, entry.index ≠ i

theorem TransactionWorld.Sound.lostUpdateFree {world : TransactionWorld A}
    (hsound : world.Sound rt) : LostUpdateFree rt world where
  history := hsound.history
  versions id := ⟨_, (hsound.history id).versions⟩
  refused _ _ _ _ hown hrunning hmem hstale _ hstep :=
    hsound.refuses hown hrunning hmem hstale hstep
  discarded i own error hown hraised entry hentry hindex := by
    obtain ⟨found, hfound, hended⟩ := hsound.committed entry hentry
    rw [hindex, hown, Option.some.injEq] at hfound
    rw [← hfound, hraised] at hended
    cases hended

/-- No interleaving of transactions over the books, the loans or the patrons loses an
update. -/
theorem no_lost_update (rt : PythonRuntime) :
    (∀ world : TransactionWorld Book, Transacted rt world → LostUpdateFree rt world) ∧
      (∀ world : TransactionWorld Loan, Transacted rt world → LostUpdateFree rt world) ∧
      ∀ world : TransactionWorld Patron, Transacted rt world → LostUpdateFree rt world :=
  ⟨fun _ hreach => (TransactionWorld.sound_of_transacted hreach).lostUpdateFree,
    fun _ hreach => (TransactionWorld.sound_of_transacted hreach).lostUpdateFree,
    fun _ hreach => (TransactionWorld.sound_of_transacted hreach).lostUpdateFree⟩

/-- An UPDATE that was executed early writes what it would write at the commit: the row it
found is still there. -/
theorem update_at_commit {world : TransactionWorld A} {i : ℕ} {own : Transaction A} {id : PyStr}
    (hreach : Transacted rt world) (hown : world.transactions[i]? = some own)
    (hrunning : own.ended = none) (hupdates : own.updates id = true) :
    ∃ row before, (id, row) ∈ own.loaded ∧ Stored.toEntity row = .ok before ∧
      (Stored.table (A := A) world.shared).lookup id = some row ∧
      ∀ later, world.shared.run (.updateAggregate (Stored.version row)
          (Stored.wrap (own.called rt id before))) = .ok later →
        (Stored.table (A := A) later).lookup id =
          (Stored.table (A := A) (own.view world.shared)).lookup id := by
  have hsound := TransactionWorld.sound_of_transacted hreach
  have hbefore := hsound.transactions i own hown hrunning
  obtain ⟨row, before, next, hmem, hrow, hnext, hkey, hsame⟩ := hbefore.updated_loaded hupdates
  have hcurrent := hsound.held hown hrunning hmem hupdates
  have hidText := Repository.key_ofEntity (own.called rt id before) (Stored.version row + 1)
  rw [← hsame, hkey] at hidText
  refine ⟨row, before, hmem, hrow, hcurrent, fun later hrun => ?_⟩
  have hview : (Stored.table (A := A) (own.view world.shared)).lookup id = some next := by
    rw [← hkey]
    exact Transaction.lookup_view hbefore.writtenOnce hnext _
  rw [hview, hsame, ← Transactional.write_eq row before _ hrow
    (Transaction.fixed_called rt own id before)]
  rcases (run_effect hrun).wrote rfl with ⟨hnew, -⟩ | ⟨found, hfound, hwrote⟩
  · rw [← hidText, hcurrent] at hnew
    cases hnew
  · rw [← hidText, hcurrent, Option.some.injEq] at hfound
    subst found
    rw [← hidText] at hwrote
    exact hwrote

/-! ## Two suspensions -/

/-- What the displayed runs check before each action. -/
def TransactionWorld.isOrderly (world : TransactionWorld A) : TransactionAction A → Bool
  | .run i (.add aggregate _) => world.transactions[i]?.all fun own =>
      (own.session.find (Stored.wrap aggregate).idText).isNone
  | .run i (.call id _ _) | .run i (.update id) => world.transactions[i]?.all fun own =>
      decide (id ∈ own.loaded.map Prod.fst) && !own.updates id
  | .change _ => false
  | _ => true

theorem TransactionWorld.isOrderly_sound (world : TransactionWorld A)
    (action : TransactionAction A) (hcheck : world.isOrderly action = true) :
    world.Orderly action := by
  cases action with
  | start => trivial
  | change after => cases hcheck
  | run i operation =>
      cases operation with
      | add aggregate events =>
          intro own hown
          simpa [isOrderly, hown] using hcheck
      | call id request draws =>
          intro own hown
          simpa [isOrderly, hown] using hcheck
      | update id =>
          intro own hown
          simpa [isOrderly, hown] using hcheck
      | _ => trivial

def suspendedReader : Patron where
  name :=
    ⟨⟨py "Ivo", by decide, by decide, by decide⟩,
      ⟨py "Reed", by decide, by decide, by decide⟩⟩
  email := ⟨py "ivo@reed.org", by decide, by decide, by decide⟩
  registered_at := 0
  id := uuidReference 2
  membership_tier := .regular
  suspended_reason := none

def suspensionDraws : Draws where
  now := 0
  uuid := 3
  metadata _ := sampleMetadata
  order := sampleOrder
  rank _ := 0
  locked _ := false

def emptyDatabase : Database := ⟨∅, ∅, ∅, ∅, ∅, []⟩

/-- Two transactions load the patron and suspend it; the first has committed, the reason of
the second cannot be stored. -/
def suspensionRun : List (TransactionAction Patron) :=
  [.start, .run 0 (.add suspendedReader []), .run 0 (.commit suspensionDraws), .start, .start,
    .run 1 (.load (uuidText 2)), .run 2 (.load (uuidText 2)),
    .run 1 (.call (uuidText 2) (PatronCall.suspend (py "late")) suspensionDraws),
    .run 2 (.call (uuidText 2) (PatronCall.suspend (py "late\x00")) suspensionDraws),
    .run 1 (.update (uuidText 2)), .run 1 (.commit suspensionDraws)]

def suspensionWorld : Option (TransactionWorld Patron) :=
  (transactionMachine Patron asciiRuntime).executeUnder TransactionWorld.isOrderly
    ⟨emptyDatabase, [], []⟩ suspensionRun

theorem suspensionWorld_transacted {world : TransactionWorld Patron}
    (hrun : suspensionWorld = some world) : Transacted asciiRuntime world := by
  have hinitial : (transactionMachine Patron asciiRuntime).initial ⟨emptyDatabase, [], []⟩ :=
    ⟨fun _ => rfl, rfl, rfl⟩
  exact (Machine.ReachableUnder.executeUnder (.start hinitial) hrun).mono
    TransactionWorld.isOrderly_sound

def Ending.isConflict : Ending → Bool
  | .raised (.concurrentModification _) => true
  | _ => false

/-- The second transaction loaded a row that was overtaken, and its UPDATE raises something
else than a conflict. -/
def unencodableUpdate (world : TransactionWorld Patron) : Bool :=
  world.transactions[2]?.any fun own => own.ended.isNone && own.loaded.any fun entry =>
    (world.shared.patrons.lookup entry.1).all (fun row => row.version ≠ entry.2.version) &&
      (world.step asciiRuntime (.run 2 (.update entry.1))).any fun after =>
        after.transactions[2]?.any fun later => !later.ended.any Ending.isConflict

theorem no_lost_update_suspensions :
    ∃ world : TransactionWorld Patron, world.log.length = 2 ∧
      committedVersions (uuidText 2) world.log = [0, 1] ∧
      LostUpdateFree asciiRuntime world := by
  have hresult : suspensionWorld.any (fun world => decide (world.log.length = 2) &&
      decide (committedVersions (uuidText 2) world.log = [0, 1])) = true := by
    decide +kernel
  obtain ⟨world, hrun, hfields⟩ := (Option.any_eq_true _ _).mp hresult
  simp only [Bool.and_eq_true, decide_eq_true_eq] at hfields
  exact ⟨world, hfields.1, hfields.2,
    (no_lost_update asciiRuntime).2.2 world (suspensionWorld_transacted hrun)⟩

/-- The second suspension is overtaken, and a database error is what it raises. -/
theorem overtaken_suspension_unencodable :
    ¬ ∀ world : TransactionWorld Patron, Transacted asciiRuntime world →
      ∀ (i : ℕ) (own : Transaction Patron) (id : PyStr) (row : PatronRow),
        world.transactions[i]? = some own → own.ended = none → (id, row) ∈ own.loaded →
          world.shared.patrons.lookup id ≠ some row →
          ∀ after, world.step asciiRuntime (.run i (.update id)) = some after →
            ∃ later aggregate, after.transactions[i]? = some later ∧
              later.ended = some (.raised (.concurrentModification aggregate)) := by
  intro hclaim
  have hresult : suspensionWorld.any unencodableUpdate = true := by decide +kernel
  obtain ⟨world, hrun, hfields⟩ := (Option.any_eq_true _ _).mp hresult
  obtain ⟨own, hown, hfields⟩ := (Option.any_eq_true _ _).mp hfields
  obtain ⟨hrunning, hfields⟩ := Bool.and_eq_true_iff.mp hfields
  obtain ⟨⟨id, row⟩, hmem, hfields⟩ := List.any_eq_true.mp hfields
  obtain ⟨hversion, hfields⟩ := Bool.and_eq_true_iff.mp hfields
  obtain ⟨after, hstep, hfields⟩ := (Option.any_eq_true _ _).mp hfields
  obtain ⟨later, hlater, hother⟩ := (Option.any_eq_true _ _).mp hfields
  have hstale : world.shared.patrons.lookup id ≠ some row := by
    intro hsame
    simp [hsame] at hversion
  obtain ⟨found, aggregate, hfound, hconflict⟩ :=
    hclaim world (suspensionWorld_transacted hrun) 2 own id row hown
      (Option.isNone_iff_eq_none.mp hrunning) hmem hstale after hstep
  rw [hlater, Option.some.injEq] at hfound
  subst found
  simp [hconflict, Ending.isConflict] at hother

end LibrarySystem
