import LibrarySystem.Persistence.Transactions

/-!
# Rules for the steps of a transaction that runs its statements at once

What a running transaction keeps of what it has read, called and written, with one rule for
each operation; and what an operation leaves, with all it has checked.
-/

namespace LibrarySystem

open Database

variable {A : Type} [Stored A] [Repository A] [Transactional A] {rt : PythonRuntime}

/-- One more call is answered by what the calls before it left. -/
theorem history_concat {σ χ ε : Type} (call : σ → χ → σ × List ε) (state : σ) (calls : List χ)
    (last : χ) :
    (history call state (calls ++ [last])).1 = (call (history call state calls).1 last).1 := by
  induction calls generalizing state with
  | nil => rfl
  | cons first rest ih => exact ih (call state first).1

omit [Stored A] [Repository A] [Transactional A] in
theorem UnitOfWork.isSome_find_track {session : UnitOfWork A} {other : PyStr} (id : PyStr)
    (entity : Tracked A) (hsome : (session.find other).isSome = true) :
    ((session.track id entity).find other).isSome = true := by
  by_cases hother : other = id
  · rw [hother, find_track]
    rfl
  · rwa [find_track_ne _ hother]

/-! ## One transaction -/

namespace Transaction

/-- What the transaction's calls on the object make of the aggregate. -/
def called (rt : PythonRuntime) (own : Transaction A) (id : PyStr) (before : A) : A :=
  (history (Transactional.answer rt) before (own.callsOn id)).1

/-- The transaction inserts a new aggregate under the id. -/
def adds (own : Transaction A) (id : PyStr) : Bool :=
  own.session.statements.any fun statement =>
    statement.target.any fun aggregate => decide (aggregate.idText = id)

variable {own : Transaction A} {id : PyStr}

theorem updates_iff : own.updates id = true ↔ ∃ row ∈ own.written, Stored.key row = id := by
  simp [updates]

theorem adds_iff : own.adds id = true ↔ ∃ statement ∈ own.session.statements,
    ∃ aggregate, statement.target = some aggregate ∧ aggregate.idText = id := by
  simp [adds, Option.any_eq_true]

/-- The transaction sees its own rows. -/
theorem lookup_view {rows : List (Stored.Row A)} (hnodup : (rows.map Stored.key).Nodup)
    {row : Stored.Row A} (hmem : row ∈ rows) (db : Database) :
    (Stored.table (A := A) (rows.foldl Transactional.put db)).lookup (Stored.key row) =
      some row := by
  induction rows using List.reverseRecOn with
  | nil => cases hmem
  | append_singleton earlier last ih =>
      rw [List.foldl_append, List.foldl_cons, List.foldl_nil, Transactional.table_put]
      rw [List.map_append, List.nodup_append] at hnodup
      rcases List.mem_append.mp hmem with hearlier | hlast
      · rw [Table.lookup_insert_ne]
        · exact ih hnodup.1 hearlier
        · exact hnodup.2.2 _ (List.mem_map_of_mem hearlier) _ (by simp)
      · rw [List.mem_singleton.mp hlast]
        exact Table.lookup_insert _ _

/-- Elsewhere it sees what is committed. -/
theorem lookup_view_ne {rows : List (Stored.Row A)} (hother : ∀ row ∈ rows, Stored.key row ≠ id)
    (db : Database) :
    (Stored.table (A := A) (rows.foldl Transactional.put db)).lookup id =
      (Stored.table (A := A) db).lookup id := by
  induction rows generalizing db with
  | nil => rfl
  | cons row rest ih =>
      rw [List.foldl_cons, ih fun other hmem => hother other (List.mem_cons_of_mem _ hmem),
        Transactional.table_put]
      exact Table.lookup_insert_ne _ _ (hother row List.mem_cons_self).symm

theorem view_of_not_updates (hupdates : own.updates id = false) (db : Database) :
    (Stored.table (A := A) (own.view db)).lookup id = (Stored.table (A := A) db).lookup id := by
  apply lookup_view_ne
  intro row hmem hkey
  rw [updates_iff.mpr ⟨row, hmem, hkey⟩] at hupdates
  cases hupdates

/-- What a running transaction keeps of what it has read, called and written. -/
structure Sound (rt : PythonRuntime) (own : Transaction A) : Prop where
  loaded : ∀ id row, (id, row) ∈ own.loaded →
    ∃ entity before, own.session.find id = some entity ∧ Stored.toEntity row = .ok before ∧
      (Stored.wrap before).idText = id ∧ entity.aggregate = own.called rt id before ∧
      (own.updates id = false → entity.version = Stored.version row)
  written : ∀ next ∈ own.written, ∃ row before, (Stored.key next, row) ∈ own.loaded ∧
    Stored.toEntity row = .ok before ∧
    next = Repository.ofEntity (own.called rt (Stored.key next) before)
      (Stored.version row + 1)
  writtenOnce : (own.written.map Stored.key).Nodup
  staged : ∀ statement ∈ own.session.statements, ∀ target, statement.target = some target →
    ∃ aggregate : A, statement = .insertAggregate (Stored.wrap aggregate) ∧
      target = Stored.wrap aggregate ∧
      (own.session.find target.idText).isSome = true ∧
      target.idText ∉ own.loaded.map Prod.fst
  stagedOnce :
    ((own.session.statements.filterMap Statement.target).map Aggregate.idText).Nodup
  called : ∀ entry ∈ own.calls, entry.1 ∈ own.loaded.map Prod.fst

/-! ## What the operations keep -/

section Calls

variable {next : Transaction A} {request : Transactional.Call A}

theorem called_append (hcalls : next.calls = own.calls ++ [(id, request)]) (before : A) :
    next.called rt id before =
      (Transactional.answer rt (own.called rt id before) request).1 := by
  simp [called, callsOn, hcalls, history_concat]

theorem called_append_ne {other : PyStr} (hne : other ≠ id)
    (hcalls : next.calls = own.calls ++ [(id, request)]) (before : A) :
    next.called rt other before = own.called rt other before := by
  simp [called, callsOn, hcalls, hne.symm]

end Calls

theorem fixed_called (rt : PythonRuntime) (own : Transaction A) (id : PyStr) (before : A) :
    Transactional.fixed (own.called rt id before) = Transactional.fixed before :=
  history_fixed Transactional.fixed (Transactional.fixed_answer rt) before _

theorem idText_called (rt : PythonRuntime) (own : Transaction A) (id : PyStr) (before : A) :
    (Stored.wrap (own.called rt id before)).idText = (Stored.wrap before).idText :=
  Transactional.idText_eq _ _ (fixed_called rt own id before)

theorem Sound.empty : ({} : Transaction A).Sound rt where
  loaded _ _ hnever := by cases hnever
  written _ hnever := by cases hnever
  writtenOnce := List.nodup_nil
  staged _ hnever := by cases hnever
  stagedOnce := List.nodup_nil
  called _ hnever := by cases hnever

/-- An object that is not in the identity map was neither called nor updated. -/
theorem Sound.unknown (hsound : own.Sound rt) (hnew : own.session.find id = none) :
    id ∉ own.loaded.map Prod.fst := by
  intro hmem
  obtain ⟨⟨_, row⟩, hloaded, rfl⟩ := List.mem_map.mp hmem
  obtain ⟨entity, _, hentity, -⟩ := hsound.loaded _ row hloaded
  rw [hnew] at hentity
  cases hentity

theorem exists_loaded (hloaded : id ∈ own.loaded.map Prod.fst) :
    ∃ row, (id, row) ∈ own.loaded := by
  simpa using hloaded

theorem Sound.updated_loaded (hsound : own.Sound rt) (hupdates : own.updates id = true) :
    ∃ row before next, (id, row) ∈ own.loaded ∧ Stored.toEntity row = .ok before ∧
      next ∈ own.written ∧ Stored.key next = id ∧
      next = Repository.ofEntity (own.called rt id before) (Stored.version row + 1) := by
  obtain ⟨next, hnext, rfl⟩ := updates_iff.mp hupdates
  obtain ⟨row, before, hloaded, hrow, hsame⟩ := hsound.written next hnext
  exact ⟨row, before, next, hloaded, hrow, hnext, rfl, hsame⟩

theorem Sound.load (hsound : own.Sound rt) {db : Database} {row : Stored.Row A} {aggregate : A}
    (hnew : own.session.find id = none)
    (hrow : (Stored.table (A := A) db).lookup id = some row)
    (haggregate : Stored.toEntity row = .ok aggregate) :
    Sound rt { own with
      session := own.session.track id ⟨aggregate, Stored.version row, []⟩
      loaded := own.loaded ++ [(id, row)] } := by
  have hunknown := hsound.unknown hnew
  have hne : ∀ other, (own.session.find other).isSome = true → other ≠ id := by
    rintro other hsome rfl
    rw [hnew] at hsome
    cases hsome
  constructor
  · intro other found hmem
    rcases List.mem_append.mp hmem with hold | hlast
    · obtain ⟨entity, before, hentity, hrest⟩ := hsound.loaded other found hold
      have hother := hne other (by rw [hentity]; rfl)
      exact ⟨entity, before, by rw [UnitOfWork.find_track_ne _ hother, hentity], hrest⟩
    · cases List.mem_singleton.mp hlast
      refine ⟨_, aggregate, UnitOfWork.find_track _ _ _, haggregate, ?_, ?_, fun _ => rfl⟩
      · rw [Stored.key_eq row aggregate haggregate]
        exact (Stored.table db).keyed id row hrow
      · have hnone : own.callsOn id = [] := by
          simp only [callsOn, List.map_eq_nil_iff, List.filter_eq_nil_iff, decide_eq_true_eq]
          rintro entry hentry rfl
          exact hunknown (hsound.called entry hentry)
        simp only [Transaction.called, callsOn] at hnone ⊢
        rw [hnone]
        rfl
  · intro next hnext
    obtain ⟨found, before, hloaded, hrest⟩ := hsound.written next hnext
    exact ⟨found, before, List.mem_append_left _ hloaded, hrest⟩
  · exact hsound.writtenOnce
  · intro statement hstatement target htarget
    obtain ⟨added, hinsert, hadded, hfind, hloaded⟩ :=
      hsound.staged statement hstatement target htarget
    have hother := hne _ hfind
    refine ⟨added, hinsert, hadded, ?_, ?_⟩
    · rwa [UnitOfWork.find_track_ne _ hother]
    · simp only [List.map_append, List.map_cons, List.map_nil, List.mem_append,
        List.mem_singleton, not_or]
      exact ⟨hloaded, hother⟩
  · exact hsound.stagedOnce
  · intro entry hentry
    rw [List.map_append]
    exact List.mem_append_left _ (hsound.called entry hentry)

theorem Sound.add (hsound : own.Sound rt) {aggregate : A} {events : List DomainEvent}
    (hnew : own.session.find (Stored.wrap aggregate).idText = none) :
    Sound rt { own with
      session := (own.session.record aggregate events).save
        (.insertAggregate (Stored.wrap aggregate)) ⟨aggregate, 0, events⟩ } := by
  have hne : ∀ other, (own.session.find other).isSome = true →
      other ≠ (Stored.wrap aggregate).idText := by
    rintro other hsome rfl
    rw [hnew] at hsome
    cases hsome
  constructor
  · intro id row hmem
    obtain ⟨entity, before, hentity, hrest⟩ := hsound.loaded id row hmem
    refine ⟨entity, before, ?_, hrest⟩
    rw [UnitOfWork.find_save_ne _ _ _ (hne id (by rw [hentity]; rfl))]
    exact hentity
  · exact hsound.written
  · exact hsound.writtenOnce
  · intro statement hstatement target htarget
    rcases List.mem_append.mp hstatement with hold | hlast
    · obtain ⟨added, hinsert, hadded, hfind, hloaded⟩ := hsound.staged statement hold target htarget
      refine ⟨added, hinsert, hadded, ?_, hloaded⟩
      rw [UnitOfWork.find_save_ne _ _ _ (hne _ hfind)]
      exact hfind
    · rw [List.mem_singleton.mp hlast] at htarget ⊢
      cases htarget
      refine ⟨aggregate, rfl, rfl, ?_, hsound.unknown hnew⟩
      have hfound := UnitOfWork.find_save (own.session.record aggregate events)
        (.insertAggregate (Stored.wrap aggregate)) ⟨aggregate, 0, events⟩
      rw [hfound]
      rfl
  · have htargets : ∀ target ∈ own.session.statements.filterMap Statement.target,
        target.idText ≠ (Stored.wrap aggregate).idText := by
      intro target hmem
      obtain ⟨statement, hstatement, htarget⟩ := List.mem_filterMap.mp hmem
      obtain ⟨_, -, -, hfind, -⟩ := hsound.staged statement hstatement target htarget
      exact hne _ hfind
    rw [UnitOfWork.statements_save, List.filterMap_append, List.map_append, List.nodup_append]
    refine ⟨hsound.stagedOnce, List.nodup_singleton _, ?_⟩
    rintro text htext _ hlast rfl
    obtain ⟨target, htarget, rfl⟩ := List.mem_map.mp htext
    exact htargets target htarget (List.mem_singleton.mp hlast)
  · exact hsound.called

theorem Sound.call (hsound : own.Sound rt) {request : Transactional.Call A}
    {entity : Tracked A} {stamped : List DomainEvent}
    (hentity : own.session.find id = some entity) (hloaded : id ∈ own.loaded.map Prod.fst)
    (hupdates : own.updates id = false) :
    Sound rt { own with
      session := (own.session.track id (entity.changed
        (Transactional.answer rt entity.aggregate request).1 stamped)).record
          (Transactional.answer rt entity.aggregate request).1 stamped
      calls := own.calls ++ [(id, request)] } := by
  constructor
  · intro other row hmem
    obtain ⟨found, before, hfound, hrow, hid, hcalled, hversion⟩ := hsound.loaded other row hmem
    by_cases hother : other = id
    · rw [hother] at hid hfound hcalled hversion ⊢
      rw [hentity, Option.some.injEq] at hfound
      subst found
      refine ⟨_, before, UnitOfWork.find_track _ _ _, hrow, hid, ?_, hversion⟩
      rw [called_append rfl, ← hcalled]
      rfl
    · refine ⟨found, before, ?_, hrow, hid, ?_, hversion⟩
      · exact (UnitOfWork.find_track_ne _ hother _).trans hfound
      · exact hcalled.trans (called_append_ne hother rfl before).symm
  · intro next hnext
    obtain ⟨row, before, hrest, hrow, hsame⟩ := hsound.written next hnext
    have hother : Stored.key next ≠ id := by
      intro hkey
      have hnever : own.updates id = true := updates_iff.mpr ⟨next, hnext, hkey⟩
      rw [hupdates] at hnever
      cases hnever
    refine ⟨row, before, hrest, hrow, hsame.trans ?_⟩
    congr 1
    exact (called_append_ne hother rfl before).symm
  · exact hsound.writtenOnce
  · intro statement hstatement target htarget
    obtain ⟨added, hinsert, hadded, hsome, hrest⟩ :=
      hsound.staged statement hstatement target htarget
    exact ⟨added, hinsert, hadded, UnitOfWork.isSome_find_track _ _ hsome, hrest⟩
  · exact hsound.stagedOnce
  · intro entry hentry
    rcases List.mem_append.mp hentry with hold | hlast
    · exact hsound.called entry hold
    · rw [List.mem_singleton.mp hlast]
      exact hloaded

theorem Sound.stage (hsound : own.Sound rt) {statement : Statement}
    (htarget : statement.target = none) :
    Sound rt { own with session := own.session.issue statement } := by
  refine ⟨hsound.loaded, hsound.written, hsound.writtenOnce, ?_, ?_, hsound.called⟩
  · intro other hother target hsome
    rcases List.mem_append.mp hother with hold | hlast
    · exact hsound.staged other hold target hsome
    · rw [List.mem_singleton.mp hlast, htarget] at hsome
      cases hsome
  · simpa [UnitOfWork.issue, htarget] using hsound.stagedOnce

/-- An UPDATE that takes effect finds the row that was loaded, and writes what the calls made
of it. -/
theorem Sound.finds (hsound : own.Sound rt) {db after : Database} {entity : Tracked A}
    (hread : ∀ key row, (key, row) ∈ own.loaded →
      RowLocks.Seen Stored.version (Stored.table (A := A) db).lookup key row)
    (hentity : own.session.find id = some entity) (hupdates : own.updates id = false)
    (hrun : (own.view db).run
      (.updateAggregate entity.version (Stored.wrap entity.aggregate)) = .ok after)
    {row : Stored.Row A} (hmem : (id, row) ∈ own.loaded) :
    ∃ before, Stored.toEntity row = .ok before ∧
      (Stored.table (A := A) db).lookup id = some row ∧
      (Stored.wrap (own.called rt id before)).idText = id ∧
      (Stored.table (A := A) after).lookup id =
        some (Repository.ofEntity (own.called rt id before) (Stored.version row + 1)) := by
  obtain ⟨found, before, hfound, hrow, hid, hcalled, hversion⟩ := hsound.loaded id row hmem
  rw [hentity, Option.some.injEq] at hfound
  subst found
  have hidText := (idText_called rt own id before).trans hid
  have heffect := run_effect hrun
  obtain ⟨current, hcurrent, hsame, -⟩ := Repository.updated _ _ _ _ heffect
  rw [hcalled, hidText, view_of_not_updates hupdates] at hcurrent
  have hown := (hread _ row hmem).current hcurrent (hsame.trans (hversion hupdates))
  subst current
  refine ⟨before, hrow, hcurrent, hidText, ?_⟩
  rcases heffect.wrote rfl with ⟨hnew, -⟩ | ⟨current, hthere, hnext⟩
  · rw [hcalled, hidText, view_of_not_updates hupdates, hcurrent] at hnew
    cases hnew
  · rw [hcalled, hidText, view_of_not_updates hupdates, hcurrent, Option.some.injEq] at hthere
    subst current
    rw [hcalled, hidText, Transactional.write_eq row before _ hrow
      (fixed_called rt own id before)] at hnext
    exact hnext

theorem Sound.update (hsound : own.Sound rt) {row : Stored.Row A} {before : A}
    {entity : Tracked A} (hentity : own.session.find id = some entity)
    (hmem : (id, row) ∈ own.loaded) (hrow : Stored.toEntity row = .ok before)
    (hid : (Stored.wrap (own.called rt id before)).idText = id)
    (hupdates : own.updates id = false) :
    Sound rt { own with
      session := (own.session.track id { entity with version := entity.version + 1 }).markDirty id
      written := own.written ++
        [Repository.ofEntity (own.called rt id before) (Stored.version row + 1)] } := by
  have hkey : Stored.key (Repository.ofEntity (own.called rt id before)
      (Stored.version row + 1)) = id := (Repository.key_ofEntity _ _).trans hid
  constructor
  · intro other found hloaded
    obtain ⟨tracked, start, htracked, hstart, hsame, hcalled, hversion⟩ :=
      hsound.loaded other found hloaded
    by_cases hother : other = id
    · rw [hother] at hsame htracked hcalled ⊢
      rw [hentity, Option.some.injEq] at htracked
      subst tracked
      refine ⟨_, start, UnitOfWork.find_track _ _ _, hstart, hsame, hcalled, ?_⟩
      intro hnever
      simp [updates, hkey] at hnever
    · refine ⟨tracked, start, ?_, hstart, hsame, hcalled, ?_⟩
      · exact (UnitOfWork.find_track_ne _ hother _).trans htracked
      · intro hidle
        apply hversion
        simp only [updates, List.any_append, Bool.or_eq_false_iff] at hidle ⊢
        exact hidle.1
  · intro next hnext
    rcases List.mem_append.mp hnext with hold | hlast
    · exact hsound.written next hold
    · rw [List.mem_singleton.mp hlast, hkey]
      exact ⟨row, before, hmem, hrow, rfl⟩
  · rw [List.map_append, List.nodup_append]
    refine ⟨hsound.writtenOnce, List.nodup_singleton _, ?_⟩
    rintro key hold _ hlast rfl
    obtain ⟨next, hnext, rfl⟩ := List.mem_map.mp hold
    have hagain := (List.mem_singleton.mp hlast).trans hkey
    rw [updates_iff.mpr ⟨next, hnext, hagain⟩] at hupdates
    cases hupdates
  · intro statement hstatement target htarget
    obtain ⟨added, hinsert, hadded, hsome, hrest⟩ :=
      hsound.staged statement hstatement target htarget
    exact ⟨added, hinsert, hadded, UnitOfWork.isSome_find_track _ _ hsome, hrest⟩
  · exact hsound.stagedOnce
  · exact hsound.called

/-- What a commit makes of the row of an id. -/
theorem Sound.commit (hsound : own.Sound rt) {db after : Database} {rows : List OutboxRow}
    (hrun : (own.view db).runAll (own.session.statements ++ rows.map .insertOutbox) = .ok after)
    (id : PyStr) :
    (∃ row before, (id, row) ∈ own.loaded ∧ own.updates id = true ∧
      Stored.toEntity row = .ok before ∧
      (Stored.table (A := A) after).lookup id =
        some (Repository.ofEntity (own.called rt id before) (Stored.version row + 1))) ∨
    (∃ aggregate : A, own.updates id = false ∧ own.adds id = true ∧
      .insertAggregate (Stored.wrap aggregate) ∈ own.session.statements ∧
      (Stored.table (A := A) db).lookup id = none ∧
      (Stored.table (A := A) after).lookup id = some (Repository.ofEntity aggregate 0)) ∨
    own.updates id = false ∧ own.adds id = false ∧
      (Stored.table (A := A) after).lookup id = (Stored.table (A := A) db).lookup id := by
  have heffects := runAll_effects hrun
  have htargets : (own.session.statements ++ rows.map Statement.insertOutbox).filterMap
      Statement.target = own.session.statements.filterMap Statement.target := by
    rw [List.filterMap_append, List.append_right_eq_self, List.filterMap_eq_nil_iff]
    intro statement hmem
    obtain ⟨row, -, rfl⟩ := List.mem_map.mp hmem
    rfl
  cases hupdates : own.updates id with
  | true =>
      left
      obtain ⟨row, before, next, hloaded, hrow, hnext, rfl, hsame⟩ :=
        hsound.updated_loaded hupdates
      refine ⟨row, before, hloaded, rfl, hrow, ?_⟩
      rw [heffects.lookup_ne, view, lookup_view hsound.writtenOnce hnext, ← hsame]
      intro aggregate hmem hid
      rw [htargets] at hmem
      obtain ⟨statement, hstatement, htarget⟩ := List.mem_filterMap.mp hmem
      obtain ⟨_, -, -, -, hnot⟩ := hsound.staged statement hstatement _ htarget
      rw [hid] at hnot
      exact hnot (List.mem_map_of_mem hloaded)
  | false =>
      right
      cases hadds : own.adds id with
      | true =>
          left
          obtain ⟨statement, hstatement, target, htarget, rfl⟩ := adds_iff.mp hadds
          obtain ⟨aggregate, rfl, rfl, -⟩ := hsound.staged statement hstatement target htarget
          obtain ⟨middle, stored, heffect, hsame, hlater⟩ := heffects.isolate
            (htargets ▸ hsound.stagedOnce) (List.mem_append_left _ hstatement) rfl
          obtain ⟨hnew, htable⟩ := Repository.inserted middle stored aggregate heffect
          refine ⟨aggregate, rfl, rfl, hstatement, ?_, ?_⟩
          · rw [← view_of_not_updates hupdates, ← hsame, hnew]
          · rw [hlater, htable, ← Repository.key_ofEntity aggregate 0]
            exact Table.lookup_insert _ _
      | false =>
          right
          refine ⟨rfl, rfl, ?_⟩
          rw [heffects.lookup_ne, view_of_not_updates hupdates]
          intro aggregate hmem hid
          rw [htargets] at hmem
          obtain ⟨statement, hstatement, htarget⟩ := List.mem_filterMap.mp hmem
          rw [adds_iff.mpr ⟨statement, hstatement, _, htarget, hid⟩] at hadds
          cases hadds

end Transaction

/-- What an operation leaves: the running transaction, or the one that has ended. -/
inductive Operated (rt : PythonRuntime) (world : TransactionWorld A) (i : ℕ)
    (own : Transaction A) : Operation A → Transaction A → Option Database → Prop
  | unchanged (id : PyStr) : Operated rt world i own (.load id) own none
  | loaded (id : PyStr) {row : Stored.Row A} {aggregate : A}
      (hnew : own.session.find id = none)
      (hrow : (Stored.table (A := A) world.shared).lookup id = some row)
      (haggregate : Stored.toEntity row = .ok aggregate) :
      Operated rt world i own (.load id)
        { own with
          session := own.session.track id ⟨aggregate, Stored.version row, []⟩
          loaded := own.loaded ++ [(id, row)] } none
  | added (aggregate : A) (events : List DomainEvent) :
      Operated rt world i own (.add aggregate events)
        { own with
          session := (own.session.record aggregate events).save
            (.insertAggregate (Stored.wrap aggregate)) ⟨aggregate, 0, events⟩ } none
  | called (id : PyStr) (request : Transactional.Call A) (draws : Draws) {entity : Tracked A}
      {stamped : List DomainEvent} (hentity : own.session.find id = some entity) :
      Operated rt world i own (.call id request draws)
        { own with
          session := (own.session.track id (entity.changed
            (Transactional.answer rt entity.aggregate request).1 stamped)).record
              (Transactional.answer rt entity.aggregate request).1 stamped
          calls := own.calls ++ [(id, request)] } none
  | updated (id : PyStr) {entity : Tracked A} {after : Database}
      (hentity : own.session.find id = some entity)
      (hfree : ∀ j other, j ≠ i → world.transactions[j]? = some other → other.ended = none →
        other.updates id = false)
      (hrun : (own.view world.shared).run
        (.updateAggregate entity.version (Stored.wrap entity.aggregate)) = .ok after) :
      Operated rt world i own (.update id)
        { own with
          session := (own.session.track id
            { entity with version := entity.version + 1 }).markDirty id
          written := own.written ++ ((Stored.table (A := A) after).lookup id).toList } none
  | staged {statement : Statement} (htarget : statement.target = none) :
      Operated rt world i own (.stage statement)
        { own with session := own.session.issue statement } none
  | committed (draws : Draws) {rows : List OutboxRow} {after : Database}
      (hrun : (own.view world.shared).runAll
        (own.session.statements ++ rows.map .insertOutbox) = .ok after) :
      Operated rt world i own (.commit draws)
        { own with
          session := own.session.clearCommittedEvents
          ended := some .committed } (some after)
  | stopped (operation : Operation A) {ending : Ending} (hending : ending ≠ .committed) :
      Operated rt world i own operation { own with ended := some ending } none

namespace TransactionWorld

variable {world after : TransactionWorld A} {i : ℕ} {own next : Transaction A}

/-- Statements that do not wait have their row for themselves. -/
theorem free_of_waits {id : PyStr} {statements : List Statement}
    (hwaits : world.waits i own (some id) statements = false) {j : ℕ} {other : Transaction A}
    (hj : j ≠ i) (hother : world.transactions[j]? = some other) (hrunning : other.ended = none) :
    other.updates id = false := by
  have hmem : (other, j) ∈ world.transactions.zipIdx :=
    List.mk_mem_zipIdx_iff_getElem?.mpr hother
  have hnot := List.any_eq_false.mp hwaits (other, j) hmem
  simp only [ne_eq, hj, not_false_eq_true, decide_true, hrunning, Option.isNone_none,
    Bool.and_self, Option.any_some, Bool.true_and, Bool.or_eq_true, not_or,
    Bool.not_eq_true] at hnot
  exact hnot.1

theorem operate_cases {operation : Operation A} {stored : Option Database}
    (hoperate : world.operate rt i own operation = some (next, stored)) :
    Operated rt world i own operation next stored := by
  cases operation with
  | load id =>
      simp only [operate] at hoperate
      split at hoperate
      · cases hoperate
        exact .unchanged id
      · rename_i hnew
        split at hoperate
        · cases hoperate
          exact .unchanged id
        · rename_i row hrow
          split at hoperate
          · cases hoperate
            exact .stopped _ (by simp)
          · rename_i aggregate haggregate
            cases hoperate
            exact .loaded id hnew hrow haggregate
  | add aggregate events =>
      cases hoperate
      exact .added aggregate events
  | call id request draws =>
      obtain ⟨entity, hentity, hrest⟩ := Option.bind_eq_some_iff.mp hoperate
      cases hrest
      exact .called id request draws hentity
  | update id =>
      obtain ⟨entity, hentity, hrest⟩ := Option.bind_eq_some_iff.mp hoperate
      simp only at hrest
      split at hrest
      · cases hrest
      · rename_i hwaits
        split at hrest
        · cases hrest
          exact .stopped _ (by simp)
        · rename_i stored hrun
          cases hrest
          refine .updated id hentity ?_ hrun
          exact fun j other hj hother hrunning =>
            free_of_waits (Bool.eq_false_of_not_eq_true hwaits) hj hother hrunning
  | stage statement =>
      simp only [operate] at hoperate
      split at hoperate
      · rename_i hplain
        cases hoperate
        exact .staged (Option.isNone_iff_eq_none.mp (Bool.and_eq_true_iff.mp hplain).1)
      · cases hoperate
  | commit draws =>
      simp only [operate] at hoperate
      split at hoperate
      · cases hoperate
        exact .stopped _ (by simp)
      · split at hoperate
        · cases hoperate
        · split at hoperate
          · cases hoperate
            exact .stopped _ (by simp)
          · rename_i hrun
            cases hoperate
            exact .committed draws hrun
  | rollback =>
      cases hoperate
      exact .stopped _ (by simp)
  | fail =>
      cases hoperate
      exact .stopped _ (by simp)

/-- A running transaction takes a step, or another one begins, or the database changes. -/
theorem step_cases {action : TransactionAction A} (hstep : world.step rt action = some after) :
    (action = .start ∧ after = { world with transactions := world.transactions ++ [{}] }) ∨
    (∃ changed, action = .change changed ∧ after = { world with shared := changed }) ∨
    ∃ i operation own next stored, action = .run i operation ∧
      world.transactions[i]? = some own ∧ own.ended = none ∧
      Operated rt world i own operation next stored ∧
      after =
        { shared := stored.getD world.shared
          transactions := world.transactions.set i next
          log := world.log ++
            (stored.map fun changed => ⟨i, own, world.shared, changed⟩).toList } := by
  cases action with
  | start =>
      cases hstep
      exact Or.inl ⟨rfl, rfl⟩
  | change changed =>
      cases hstep
      exact Or.inr (Or.inl ⟨changed, rfl, rfl⟩)
  | run i operation =>
      right
      right
      obtain ⟨own, hown, hrest⟩ := Option.bind_eq_some_iff.mp hstep
      split at hrest
      · cases hrest
      · rename_i hrunning
        obtain ⟨⟨next, stored⟩, hoperate, hafter⟩ := Option.bind_eq_some_iff.mp hrest
        cases hafter
        exact ⟨i, operation, own, next, stored, rfl, hown,
          Option.not_isSome_iff_eq_none.mp hrunning, operate_cases hoperate, rfl⟩

end TransactionWorld

end LibrarySystem
