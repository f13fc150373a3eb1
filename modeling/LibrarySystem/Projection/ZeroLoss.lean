import LibrarySystem.Projection.RowSteps

/-!
# The rebuilt index loses nothing

Once every record of a row has been processed, the index behind the alias shows
the row at its latest version, or no document once it is deleted.  Two kinds of
steps are left out: a delete record that skips the registered index while that
index holds the row's document, and a record redelivered after the row's delete
record to an index that was never sent the delete.
-/

namespace LibrarySystem

variable {Key : Type} [LinearOrder Key]

/-- No delete record skips an index that shows, or is later sent, another record
of the row. -/
def ReindexState.carriesDeletes (config : ReindexConfig Key) (state : ReindexState Key) :
    ReindexAction Key → Bool
  | .process id targets =>
      state.rebuild.all fun rebuild =>
        rebuild.stage ≠ .registered || targets.contains (.physical rebuild.target) ||
          !(state.current id).any isDelete ||
          (state.indexes rebuild.target (config.idText id)).document.isNone
  | .send id target =>
      (state.current id).any isDelete || !state.buried id ||
        (state.tombs id).contains (state.resolve target)
  | _ => true

/-! ## The invariant -/

structure ReindexState.RebuildOk (config : ReindexConfig Key) (state : ReindexState Key)
    (rebuild : Rebuild Key) : Prop where
  target_lt : rebuild.target < state.fresh
  swapped : rebuild.stage = .swapped → rebuild.target = state.serving
  target_ne : rebuild.stage ≠ .swapped → rebuild.target ≠ state.serving
  building : rebuild.stage ≠ .swapped → ∀ id,
    (state.view config id).Rebuilding state.serving rebuild
  pending : rebuild.stage ≠ .scanning → rebuild.pending = []
  unstarted : rebuild.stage = .registered → rebuild.last_id = none

structure ReindexState.Ok (config : ReindexConfig Key) (state : ReindexState Key) :
    Prop where
  views : ∀ id, (state.view config id).Ok config state.serving
  serving_lt : state.serving < state.fresh
  inflight_lt : ∀ id pending, state.inflight id = some pending →
    ∀ target ∈ pending, target.below state.fresh = true
  vacant : ∀ index, state.fresh ≤ index → ∀ text, state.indexes index text = .vacant
  foreign : ∀ index text, (∀ id, text ≠ config.idText id) →
    state.indexes index text = .vacant
  ids : ∀ id, (state.history id).rows ≠ [] → id ∈ state.ids
  rebuild : ∀ rebuild, state.rebuild = some rebuild → state.RebuildOk config rebuild

namespace ReindexState

variable {config : ReindexConfig Key} {state after : ReindexState Key}

omit [LinearOrder Key] in
theorem resolve_eq (state : ReindexState Key) (target : WriteTarget) :
    state.resolve target = target.resolve state.serving := by
  cases target <;> rfl

/-- A step that changes what concerns one row only. -/
structure ChangesRow (config : ReindexConfig Key) (state after : ReindexState Key)
    (id : Key) : Prop where
  serving : after.serving = state.serving
  fresh : after.fresh = state.fresh
  rebuild : after.rebuild = state.rebuild
  others : ∀ other, other ≠ id → after.view config other = state.view config other

theorem Ok.changesRow
    (id : Key) (hok : state.Ok config) (hrow : ChangesRow config state after id)
    (hview : (after.view config id).Ok config state.serving)
    (hrebuilding : ∀ rebuild, state.rebuild = some rebuild → rebuild.stage ≠ .swapped →
      (after.view config id).Rebuilding state.serving rebuild)
    (hinflight : ∀ pending, after.inflight id = some pending →
      ∀ target ∈ pending, target.below state.fresh = true)
    (hvacant : ∀ index, state.fresh ≤ index → ∀ text,
      after.indexes index text = .vacant)
    (hforeign : ∀ index text, (∀ id, text ≠ config.idText id) →
      after.indexes index text = .vacant)
    (hids : ∀ id, (after.history id).rows ≠ [] → id ∈ after.ids) :
    after.Ok config where
  views other := by
    rw [hrow.serving]
    by_cases hother : other = id
    · subst other
      exact hview
    · rw [hrow.others other hother]
      exact hok.views other
  serving_lt := by
    rw [hrow.serving, hrow.fresh]
    exact hok.serving_lt
  inflight_lt other pending hpending := by
    rw [hrow.fresh]
    by_cases hother : other = id
    · subst other
      exact hinflight pending hpending
    · have hsame : (state.view config other).inflight = some pending := by
        rw [← hrow.others other hother]
        exact hpending
      exact hok.inflight_lt other pending hsame
  vacant := by
    rw [hrow.fresh]
    exact hvacant
  foreign := hforeign
  ids := hids
  rebuild rebuild hrebuild := by
    rw [hrow.rebuild] at hrebuild
    have hbefore := hok.rebuild rebuild hrebuild
    refine
      { target_lt := hrow.fresh ▸ hbefore.target_lt
        swapped := hrow.serving ▸ hbefore.swapped
        target_ne := hrow.serving ▸ hbefore.target_ne
        building := fun hstage other => ?_
        pending := hbefore.pending
        unstarted := hbefore.unstarted }
    rw [hrow.serving]
    by_cases hother : other = id
    · subst other
      exact hrebuilding rebuild hrebuild hstage
    · rw [hrow.others other hother]
      exact hbefore.building hstage other

/-! ## Commits -/

theorem view_commit_ne
    {id other : Key} (hother : other ≠ id) (history : RowHistory id) (ids : Finset Key) :
    ({ state with ids := ids, history := Function.update state.history id history } :
      ReindexState Key).view config other = state.view config other := by
  simp [view, Function.update_of_ne hother]

theorem view_commit
    {id : Key} (history : RowHistory id) (ids : Finset Key) :
    ({ state with ids := ids, history := Function.update state.history id history } :
      ReindexState Key).view config id = (state.view config id).withHistory history := by
  simp [view, RowView.withHistory]

theorem Ok.commits
    {id : Key} {history : RowHistory id} {ids : Finset Key} (hok : state.Ok config)
    (hcommit : RowView.Commits (state.history id) history)
    (hsub : state.ids ⊆ ids) (hid : id ∈ ids) :
    ({ state with ids := ids, history := Function.update state.history id history } :
      ReindexState Key).Ok config := by
  have hview := hok.views id
  apply hok.changesRow id
  · exact ⟨rfl, rfl, rfl, fun other hother => view_commit_ne hother history ids⟩
  · rw [view_commit]
    exact hview.commit hcommit
  · intro rebuild hrebuild hstage
    rw [view_commit]
    exact ((hok.rebuild rebuild hrebuild).building hstage id).commit hview hcommit
  · exact hok.inflight_lt id
  · exact hok.vacant
  · exact hok.foreign
  · intro other hrows
    by_cases hother : other = id
    · subst other
      exact hid
    · have hbefore : (state.history other).rows ≠ [] := by
        simpa [Function.update_of_ne hother] using hrows
      exact hsub (hok.ids other hbefore)

theorem Ok.commitRow
    {id : Key} (hok : state.Ok config) (halive : (state.history id).deleted = false)
    (columns : Record) : (state.commitRow id columns).Ok config := by
  refine hok.commits ⟨halive, ⟨_, rfl⟩, fun hdeleted => ?_⟩ (Finset.subset_insert _ _)
    (Finset.mem_insert_self _ _)
  exact absurd (halive.symm.trans hdeleted) Bool.false_ne_true

omit [LinearOrder Key] in
theorem alive_of_live
    {id : Key} {history : RowHistory id} (hlive : history.live.isSome = true) :
    history.deleted = false := by
  obtain ⟨row, hrow⟩ := Option.isSome_iff_exists.mp hlive
  exact ((history.live_eq_some_iff row).mp hrow).1

theorem Ok.insertRow
    {id : Key} {columns : Record} (hok : state.Ok config)
    (hstep : state.insertRow id columns = some after) : after.Ok config := by
  unfold ReindexState.insertRow at hstep
  split at hstep
  · rename_i hempty
    cases hstep
    refine hok.commitRow ?_ columns
    cases hdeleted : (state.history id).deleted with
    | false => rfl
    | true =>
        exact absurd (List.isEmpty_iff.mp hempty)
          ((state.history id).deleted_row hdeleted)
  · cases hstep

theorem Ok.updateRow
    {id : Key} {columns : Record} (hok : state.Ok config)
    (hstep : state.updateRow id columns = some after) : after.Ok config := by
  unfold ReindexState.updateRow at hstep
  split at hstep
  · rename_i hlive
    cases hstep
    exact hok.commitRow (alive_of_live hlive) columns
  · cases hstep

theorem Ok.deleteRow
    {id : Key} (hok : state.Ok config) (hstep : state.deleteRow id = some after) :
    after.Ok config := by
  unfold ReindexState.deleteRow at hstep
  split at hstep
  · rename_i hlive
    cases hstep
    exact hok.commits ⟨alive_of_live hlive, List.prefix_refl _, fun _ => rfl⟩
      (Finset.Subset.refl _) (hok.ids id (RowHistory.rows_ne_nil hlive))
  · cases hstep

/-! ## The consumer -/

omit [LinearOrder Key] in
/-- The record under way, and what it asks of an index. -/
theorem current_request
    (config : ReindexConfig Key) {id : Key} {change : Change Key}
    (hchange : state.current id = some change) :
    ∃ document,
      config.request change =
          some ⟨config.idText id, some (state.position id + 1), document⟩ ∧
        isDelete change = document.isNone ∧
        (state.history id).Records config (state.position id) document :=
  RowHistory.request_of_change config hchange

theorem Ok.process
    {id : Key} {targets : List WriteTarget} (hok : state.Ok config)
    (hallowed : state.carriesDeletes config (.process id targets) = true)
    (hstep : state.process id targets = some after) : after.Ok config := by
  unfold ReindexState.process at hstep
  split at hstep
  · rename_i hguard
    obtain ⟨-, hcurrent, hdiscoverable⟩ := hguard
    cases hstep
    simp only [discoverable, Bool.and_eq_true, List.all_eq_true, List.contains_iff_mem]
      at hdiscoverable
    obtain ⟨⟨⟨-, hlogical⟩, hbelow⟩, hmirrored⟩ := hdiscoverable
    obtain ⟨change, hchange⟩ := Option.isSome_iff_exists.mp hcurrent
    have hlt : state.position id < (state.history id).changes.length :=
      (List.getElem?_eq_some_iff.mp hchange).1
    have hself : ({ state with
        inflight := Function.update state.inflight id (some targets) } :
          ReindexState Key).view config id = (state.view config id).start targets := by
      simp [view, RowView.start]
    apply hok.changesRow id
    · refine ⟨rfl, rfl, rfl, fun other hother => ?_⟩
      simp [view, Function.update_of_ne hother]
    · rw [hself]
      exact (hok.views id).start hlt hlogical
    · intro rebuild hrebuild hstage
      rw [hself]
      refine ((hok.rebuild rebuild hrebuild).building hstage id).start hlt ?_ ?_
      · intro hin
        simpa [hrebuild, hin] using hmirrored
      · intro hskipped hdeleted hposition
        have hregistered : rebuild.stage = .registered := by
          cases hcase : rebuild.stage with
          | registered => rfl
          | swapped => exact absurd hcase hstage
          | scanning | scanned =>
              refine absurd ?_ hskipped
              simpa [hrebuild, hcase, RebuildStage.mirrored] using hmirrored
        have hdelete : isDelete change = true := by
          obtain ⟨document, -, hkind, hrecord⟩ := current_request config hchange
          cases hrecord with
          | row row document hrow hshows =>
              have hn := (List.getElem?_eq_some_iff.mp hrow).1
              have hat : state.position id = (state.history id).rows.length := hposition
              omega
          | delete _ _ => simpa using hkind
        show (state.indexes rebuild.target (config.idText id)).document = none
        simpa [carriesDeletes, hrebuild, hregistered, hskipped, hchange, hdelete]
          using hallowed
    · intro pending hpending target htarget
      simp only [Function.update_self, Option.some.injEq] at hpending
      subst pending
      exact hbelow target htarget
    · exact hok.vacant
    · exact hok.foreign
    · exact hok.ids
  · cases hstep

omit [LinearOrder Key] in
theorem apply_self (index other : ℕ) (request : IndexRequest) :
    state.apply index request other request.id =
      Function.update (fun index => state.indexes index request.id) index
        ((state.indexes index request.id).write request.external_version
          request.document) other := by
  unfold apply
  by_cases hother : other = index
  · subst other
    simp
  · simp [Function.update_of_ne hother]

omit [LinearOrder Key] in
theorem apply_ne
    (index other : ℕ) (request : IndexRequest) {text : PyStr} (htext : text ≠ request.id) :
    state.apply index request other text = state.indexes other text := by
  unfold apply
  by_cases hother : other = index
  · subst other
    simp [Function.update_of_ne htext]
  · simp [Function.update_of_ne hother]

theorem apply_vacant
    (hok : state.Ok config) {index : ℕ} (hindex : index < state.fresh)
    (request : IndexRequest) (other : ℕ) (hother : state.fresh ≤ other) (text : PyStr) :
    state.apply index request other text = .vacant := by
  unfold apply
  rw [Function.update_of_ne (by omega)]
  exact hok.vacant other hother text

omit [LinearOrder Key] in
theorem resolve_lt
    {target : WriteTarget} (hserving : state.serving < state.fresh)
    (hbelow : target.below state.fresh = true) : state.resolve target < state.fresh := by
  cases target with
  | logical => exact hserving
  | physical index => exact decide_eq_true_iff.mp hbelow

theorem Ok.send
    {id : Key} {target : WriteTarget} (hok : state.Ok config)
    (hallowed : state.carriesDeletes config (.send id target) = true)
    (hstep : state.send config id target = some after) : after.Ok config := by
  unfold ReindexState.send at hstep
  simp only [Option.bind_eq_bind, Option.bind_eq_some_iff] at hstep
  obtain ⟨pending, hpending, change, hchange, request, hrequest, hstep⟩ := hstep
  split at hstep
  · rename_i htarget
    cases hstep
    obtain ⟨document, hsent, hkind, hrecord⟩ := current_request config hchange
    rw [hsent, Option.some.injEq] at hrequest
    subst request
    have hkept : document.isSome = true → state.buried id = true →
        target.resolve state.serving ∈ state.tombs id := by
      intro hsome hburied
      have hnone : isDelete change = false := by
        rw [hkind]
        simpa using hsome
      rw [← state.resolve_eq]
      simpa [carriesDeletes, hchange, hnone, hburied] using hallowed
    have hself : ({ state with
        indexes := state.apply (state.resolve target)
          ⟨config.idText id, some (state.position id + 1), document⟩
        inflight := Function.update state.inflight id (some (pending.erase target))
        tombs := Function.update state.tombs id
          (if document.isNone then state.resolve target :: state.tombs id
            else state.tombs id) } : ReindexState Key).view config id =
          (state.view config id).sent state.serving pending target document := by
      simp only [view, RowView.sent, RowView.written, Function.update_self, resolve_eq]
      congr 1
      funext index
      exact apply_self _ _ _
    apply hok.changesRow id
    · refine ⟨rfl, rfl, rfl, fun other hother => ?_⟩
      have htext : config.idText other ≠ config.idText id :=
        fun heq => hother (config.idText_injective heq)
      simp only [view, Function.update_of_ne hother]
      congr 1
      funext index
      exact apply_ne _ _ _ htext
    · rw [hself]
      exact (hok.views id).sent hpending hrecord hkept
    · intro rebuild hrebuild hstage
      rw [hself]
      exact ((hok.rebuild rebuild hrebuild).building hstage id).sent (hok.views id)
        hpending hrecord hkept
    · intro rest hrest other hother
      simp only [Function.update_self, Option.some.injEq] at hrest
      subst rest
      exact hok.inflight_lt id pending hpending other (List.mem_of_mem_erase hother)
    · intro index hindex text
      exact apply_vacant hok (resolve_lt hok.serving_lt
        (hok.inflight_lt id pending hpending target htarget)) _ index hindex text
    · intro index text hforeign
      exact (apply_ne _ index _ (hforeign id)).trans (hok.foreign index text hforeign)
    · exact hok.ids
  · cases hstep

theorem Ok.finish
    {id : Key} (hok : state.Ok config) (hstep : state.finish id = some after) :
    after.Ok config := by
  unfold ReindexState.finish at hstep
  split at hstep
  · rename_i hpending
    cases hstep
    have hlt := (hok.views id).position_lt [] hpending
    obtain ⟨change, hchange⟩ : ∃ change, state.current id = some change :=
      ⟨_, List.getElem?_eq_getElem hlt⟩
    obtain ⟨document, -, hkind, hrecord⟩ := current_request config hchange
    have hself : ({ state with
        position := Function.update state.position id (state.position id + 1)
        inflight := Function.update state.inflight id none
        buried := Function.update state.buried id
          (state.buried id || (state.current id).any isDelete) } :
          ReindexState Key).view config id =
          (state.view config id).finished document := by
      simp [view, RowView.finished, hchange, hkind]
    apply hok.changesRow id
    · refine ⟨rfl, rfl, rfl, fun other hother => ?_⟩
      simp [view, Function.update_of_ne hother]
    · rw [hself]
      exact (hok.views id).finished hpending hrecord
    · intro rebuild hrebuild hstage
      rw [hself]
      refine ((hok.rebuild rebuild hrebuild).building hstage id).finished ?_ hpending
        hrecord
      intro hne
      have hscanning : rebuild.stage = .scanning := by
        by_contra hother
        exact hne ((hok.rebuild rebuild hrebuild).pending hother)
      rw [hscanning]
      rfl
    · intro pending hnone
      simp at hnone
    · exact hok.vacant
    · exact hok.foreign
    · exact hok.ids
  · cases hstep

/-- The record under way is given up, or earlier ones are delivered again. -/
theorem Ok.rewinds
    (id : Key) {position : ℕ} (hok : state.Ok config)
    (hle : position ≤ state.position id)
    (hserving : after.serving = state.serving) (hfresh : after.fresh = state.fresh)
    (hrebuild : after.rebuild = state.rebuild) (hids : after.ids = state.ids)
    (hhistory : after.history = state.history) (hindexes : after.indexes = state.indexes)
    (hself : after.view config id = (state.view config id).rewind position)
    (hothers : ∀ other, other ≠ id → after.view config other = state.view config other) :
    after.Ok config := by
  apply hok.changesRow id ⟨hserving, hfresh, hrebuild, hothers⟩
  · rw [hself]
    exact (hok.views id).rewind hle
  · intro rebuild hsome hstage
    rw [hself]
    exact ((hok.rebuild rebuild hsome).building hstage id).rewind hle
  · intro pending hpending
    have hnone : (after.view config id).inflight = none := by
      rw [hself]
      rfl
    rw [show after.inflight id = none from hnone] at hpending
    cases hpending
  · rw [hindexes]
    exact hok.vacant
  · rw [hindexes]
    exact hok.foreign
  · rw [hids, hhistory]
    exact hok.ids

theorem Ok.abandon
    (hok : state.Ok config) (id : Key) :
    ({ state with inflight := Function.update state.inflight id none } :
      ReindexState Key).Ok config := by
  refine hok.rewinds id le_rfl rfl rfl rfl rfl rfl rfl ?_ fun other hother => ?_
  · simp [view, RowView.rewind]
  · simp [view, Function.update_of_ne hother]

theorem Ok.redeliver
    {id : Key} {position : ℕ} (hok : state.Ok config)
    (hstep : state.redeliver id position = some after) : after.Ok config := by
  unfold ReindexState.redeliver at hstep
  split at hstep
  · rename_i hguard
    cases hstep
    refine hok.rewinds id hguard.2 rfl rfl rfl rfl rfl rfl ?_
      fun other hother => ?_
    · simp [view, RowView.rewind, hguard.1]
    · simp [view, Function.update_of_ne hother]
  · cases hstep

/-! ## The rebuild -/

/-- A step of the rebuild that writes nothing and keeps the alias. -/
theorem Ok.withRebuild
    {rebuild : Rebuild Key} (hok : state.Ok config)
    (hrebuild : state.RebuildOk config rebuild) :
    (state.withRebuild rebuild).Ok config where
  views := hok.views
  serving_lt := hok.serving_lt
  inflight_lt := hok.inflight_lt
  vacant := hok.vacant
  foreign := hok.foreign
  ids := hok.ids
  rebuild := by
    rintro _ ⟨⟩
    exact
      { target_lt := hrebuild.target_lt
        swapped := hrebuild.swapped
        target_ne := hrebuild.target_ne
        building := hrebuild.building
        pending := hrebuild.pending
        unstarted := hrebuild.unstarted }

theorem Ok.withoutRebuild
    (hok : state.Ok config) : ({ state with rebuild := none } : ReindexState Key).Ok config where
  views := hok.views
  serving_lt := hok.serving_lt
  inflight_lt := hok.inflight_lt
  vacant := hok.vacant
  foreign := hok.foreign
  ids := hok.ids
  rebuild := by
    rintro _ ⟨⟩

theorem Ok.register
    (hok : state.Ok config) (hstep : state.register = some after) : after.Ok config := by
  unfold ReindexState.register at hstep
  cases hrebuild : state.rebuild with
  | some rebuild => simp [hrebuild] at hstep
  | none =>
      simp only [hrebuild, Option.some.injEq] at hstep
      subst after
      have hvacant : ∀ id, (state.view config id).entries state.fresh = .vacant :=
        fun id => hok.vacant state.fresh le_rfl _
      have hbelow : ∀ {target : WriteTarget}, target.below state.fresh = true →
          target.below (state.fresh + 1) = true := by
        intro target htarget
        cases target with
        | logical => rfl
        | physical index =>
            have hlt := decide_eq_true_iff.mp htarget
            exact decide_eq_true_iff.mpr (by omega)
      refine
        { views := hok.views
          serving_lt := hok.serving_lt.trans (Nat.lt_succ_self _)
          inflight_lt := fun id pending hpending target htarget =>
            hbelow (hok.inflight_lt id pending hpending target htarget)
          vacant := fun index hindex text =>
            hok.vacant index ((Nat.le_succ _).trans hindex) text
          foreign := hok.foreign
          ids := hok.ids
          rebuild := ?_ }
      rintro _ ⟨⟩
      refine
        { target_lt := Nat.lt_succ_self _
          swapped := fun hstage => by cases hstage
          target_ne := fun _ => hok.serving_lt.ne'
          building := fun _ id => ?_
          pending := fun _ => rfl
          unstarted := fun _ => rfl }
      show (state.view config id).Rebuilding state.serving _
      constructor
      · intro _ _
        simp [hvacant, IndexEntry.vacant]
      · intro _
        simp [hvacant, IndexEntry.vacant]
      · intro hstage
        cases hstage
      · intro hstage
        cases hstage
      · rintro ⟨-, hstage | ⟨hstage, -⟩⟩ <;> cases hstage
      · intro row hrow
        cases hrow

omit [LinearOrder Key] in
theorem inStage_eq_some
    {stage : RebuildStage} {next : Rebuild Key → Option (ReindexState Key)}
    (hstep : state.inStage stage next = some after) :
    ∃ rebuild, state.rebuild = some rebuild ∧ rebuild.stage = stage ∧
      next rebuild = some after := by
  unfold inStage at hstep
  cases hrebuild : state.rebuild with
  | none => simp [hrebuild] at hstep
  | some rebuild =>
      simp only [hrebuild] at hstep
      split at hstep
      · exact ⟨rebuild, rfl, ‹_›, hstep⟩
      · cases hstep

theorem Ok.graceOver
    {rebuild : Rebuild Key} (hok : state.Ok config) (hrebuild : state.rebuild = some rebuild)
    (hstage : rebuild.stage = .registered) :
    (state.withRebuild
      { rebuild with
        stage := .scanning
        mark := fun id => (state.history id).changes.length }).Ok config := by
  have hbefore := hok.rebuild rebuild hrebuild
  have hne : rebuild.stage ≠ .swapped := by simp [hstage]
  exact hok.withRebuild
    { target_lt := hbefore.target_lt
      swapped := fun h => by cases h
      target_ne := fun _ => hbefore.target_ne hne
      building := fun _ id =>
        (hbefore.building hne id).graceOver (hok.views id)
          (hbefore.pending (by simp [hstage])) (hbefore.unstarted hstage) rfl
      pending := fun h => absurd rfl h
      unstarted := fun h => by cases h }

/-- A live row past the last id and not past the batch is in the batch. -/
theorem mem_batch
    {last_id : Option Key} {id : Key} (hid : id ∈ state.ids)
    (hlive : (state.history id).live.isSome = true)
    (hpast : ∀ last ∈ last_id, last < id)
    (hend : ∀ last, (state.batch last_id).getLast? = some last → id ≤ last.id) :
    ∃ row ∈ state.batch last_id, row.id = id := by
  obtain ⟨row, hrow⟩ := Option.isSome_iff_exists.mp hlive
  have hrowId := (RowHistory.live_row hrow).1
  unfold batch at hend ⊢
  generalize hkeys : (state.ids.filter fun id =>
    (state.history id).live.isSome ∧ ∀ last ∈ last_id, last < id).sort (· ≤ ·) = keys
    at hend ⊢
  have hmem : id ∈ keys := by
    rw [← hkeys, Finset.mem_sort, Finset.mem_filter]
    exact ⟨hid, hlive, hpast⟩
  have hsorted : keys.Pairwise (· ≤ ·) := hkeys ▸ Finset.pairwise_sort _ _
  have hlives : ∀ key ∈ keys, (state.history key).live.isSome = true := by
    intro key hkey
    rw [← hkeys, Finset.mem_sort, Finset.mem_filter] at hkey
    exact hkey.2.1
  by_cases htake : id ∈ keys.take batchSize
  · exact ⟨row, List.mem_filterMap.mpr ⟨id, htake, hrow⟩, hrowId⟩
  · exfalso
    rw [← List.take_append_drop batchSize keys] at hmem hsorted
    have hdrop : id ∈ keys.drop batchSize :=
      (List.mem_append.mp hmem).resolve_left htake
    have hbefore := (List.pairwise_append.mp hsorted).2.2
    have hfirst : ∃ key, key ∈ keys.take batchSize := by
      have hlength := List.length_pos_of_mem hdrop
      rw [List.length_drop] at hlength
      refine ⟨keys.get ⟨0, by omega⟩, List.mem_iff_getElem?.mpr ⟨0, ?_⟩⟩
      rw [List.getElem?_take_of_lt (by decide)]
      exact List.getElem?_eq_getElem _
    obtain ⟨first, hfirst⟩ := hfirst
    obtain ⟨firstRow, hfirstRow⟩ :=
      Option.isSome_iff_exists.mp (hlives first (List.mem_of_mem_take hfirst))
    have hnonempty : (keys.take batchSize).filterMap
        (fun id => (state.history id).live) ≠ [] :=
      List.ne_nil_of_mem (List.mem_filterMap.mpr ⟨first, hfirst, hfirstRow⟩)
    have hlast := List.getLast?_eq_some_getLast hnonempty
    obtain ⟨key, hkey, hkeyRow⟩ :=
      List.mem_filterMap.mp (List.getLast_mem hnonempty)
    have hkeyId := (RowHistory.live_row hkeyRow).1
    have hle := hend _ hlast
    rw [hkeyId] at hle
    have heq := le_antisymm hle (hbefore key hkey id hdrop)
    exact htake (heq ▸ hkey)

theorem batch_row
    {last_id : Option Key} {row : Row Key} (hrow : row ∈ state.batch last_id) :
    (state.history row.id).live = some row := by
  obtain ⟨id, -, hlive⟩ := List.mem_filterMap.mp hrow
  rw [(RowHistory.live_row hlive).1]
  exact hlive

/-- What the next batch leaves behind was passed before or is not live. -/
theorem passed_of_batch
    (hok : state.Ok config) {rebuild : Rebuild Key} (hpending : rebuild.pending = [])
    (hstage : rebuild.stage = .scanning) {id : Key}
    (hunread : ∀ row ∈ state.batch rebuild.last_id, row.id ≠ id)
    (hend : ∀ last, (state.batch rebuild.last_id).getLast? = some last → id ≤ last.id) :
    rebuild.Covered id ∨ (state.history id).live = none := by
  cases hlive : (state.history id).live with
  | none => exact Or.inr rfl
  | some row =>
      left
      refine ⟨by simp [hpending], Or.inr ⟨hstage, ?_⟩⟩
      by_contra hnew
      have hsome : (state.history id).live.isSome = true := by simp [hlive]
      have hid := hok.ids id (RowHistory.rows_ne_nil hsome)
      have hpast : ∀ last ∈ rebuild.last_id, last < id := by
        intro last hlast
        by_contra hle
        exact hnew ⟨last, hlast, not_lt.mp hle⟩
      obtain ⟨read, hread, hreadId⟩ := mem_batch hid hsome hpast hend
      exact hunread read hread hreadId

theorem Ok.readBatch
    {rebuild : Rebuild Key} (hok : state.Ok config) (hrebuild : state.rebuild = some rebuild)
    (hstage : rebuild.stage = .scanning) (hstep : state.readBatch rebuild = some after) :
    after.Ok config := by
  have hbefore := hok.rebuild rebuild hrebuild
  have hne : rebuild.stage ≠ .swapped := by simp [hstage]
  have hmirrored : rebuild.stage.mirrored = true := by
    rw [hstage]
    rfl
  unfold ReindexState.readBatch at hstep
  split at hstep
  · rename_i hpending
    dsimp only at hstep
    split at hstep
    · rename_i hlast
      cases hstep
      have hempty := List.getLast?_eq_none_iff.mp hlast
      refine hok.withRebuild
        { target_lt := hbefore.target_lt
          swapped := fun h => by cases h
          target_ne := fun _ => hbefore.target_ne hne
          building := fun _ id => ?_
          pending := fun _ => hpending
          unstarted := fun h => by cases h }
      refine (hbefore.building hne id).scan (hok.views id) rfl rfl hmirrored
        (fun _ => ?_) fun row hrow => ?_
      · exact passed_of_batch hok hpending hstage (by simp [hempty]) (by simp [hlast])
      · rw [show ({ rebuild with stage := .scanned } : Rebuild Key).pending =
          rebuild.pending from rfl, hpending] at hrow
        cases hrow
    · rename_i last hlast
      cases hstep
      refine hok.withRebuild
        { target_lt := hbefore.target_lt
          swapped := fun h => absurd h hne
          target_ne := fun _ => hbefore.target_ne hne
          building := fun _ id => ?_
          pending := fun h => absurd hstage h
          unstarted := fun h => by simp [hstage] at h }
      refine (hbefore.building hne id).scan (hok.views id) rfl rfl hmirrored
        (fun hcovered => ?_) fun row hrow hid => ?_
      · apply passed_of_batch hok hpending hstage hcovered.1
        rcases hcovered.2 with hscanned | ⟨-, passed, hpassed, hle⟩
        · simp [hstage] at hscanned
        · intro other hother
          cases hpassed
          rw [hlast, Option.some.injEq] at hother
          rwa [← hother]
      · subst hid
        exact batch_row hrow
  · cases hstep

theorem Ok.bulkWrite
    {rebuild : Rebuild Key} {n : ℕ} (hok : state.Ok config)
    (hrebuild : state.rebuild = some rebuild) (hstage : rebuild.stage = .scanning)
    (hstep : state.bulkWrite config rebuild n = some after) : after.Ok config := by
  have hbefore := hok.rebuild rebuild hrebuild
  have hne : rebuild.stage ≠ .swapped := by simp [hstage]
  have htarget := hbefore.target_ne hne
  unfold ReindexState.bulkWrite at hstep
  simp only [Option.bind_eq_bind, Option.bind_eq_some_iff, config.bulkRequest_scanned]
    at hstep
  obtain ⟨row, hrow, hstep⟩ := hstep
  cases hstep
  have hmem := List.mem_of_getElem? hrow
  have hread := ((hbefore.building hne row.id).pending row hmem rfl).1
  have hshows : config.Shows row (config.scannedDocument row) := Or.inr rfl
  set request : IndexRequest := ⟨config.idText row.id, some (row.version + 1),
    some (config.scannedDocument row)⟩
  set written : ReindexState Key :=
    { state with
      indexes := state.apply rebuild.target request
      rebuild := some { rebuild with pending := rebuild.pending.eraseIdx n } }
  have hself : written.view config row.id =
      (state.view config row.id).written rebuild.target (row.version + 1)
        (some (config.scannedDocument row)) := by
    simp only [view, RowView.written, written]
    congr 1
    funext index
    exact apply_self rebuild.target index request
  have hothers : ∀ other, other ≠ row.id →
      written.view config other = state.view config other := by
    intro other hother
    have htext : config.idText other ≠ config.idText row.id :=
      fun heq => hother (config.idText_injective heq)
    simp only [view, written]
    congr 1
    funext index
    exact apply_ne rebuild.target index request htext
  have hsub : ∀ other ∈ rebuild.pending.eraseIdx n, other ∈ rebuild.pending :=
    fun other hother => List.mem_of_mem_eraseIdx hother
  refine
    { views := fun other => ?_
      serving_lt := hok.serving_lt
      inflight_lt := hok.inflight_lt
      vacant := fun index hindex text =>
        apply_vacant hok hbefore.target_lt request index hindex text
      foreign := fun index text hforeign =>
        (apply_ne rebuild.target index request (hforeign row.id)).trans
          (hok.foreign index text hforeign)
      ids := hok.ids
      rebuild := ?_ }
  · by_cases hother : other = row.id
    · subst hother
      rw [hself]
      exact (hok.views row.id).bulk htarget.symm hread hshows
    · rw [hothers other hother]
      exact hok.views other
  · rintro _ ⟨⟩
    refine
      { target_lt := hbefore.target_lt
        swapped := fun h => absurd h hne
        target_ne := fun _ => htarget
        building := fun _ other => ?_
        pending := fun h => absurd hstage h
        unstarted := fun h => by simp [hstage] at h }
    by_cases hother : other = row.id
    · subst hother
      rw [hself]
      refine (hbefore.building hne row.id).bulk (hok.views row.id) hmem rfl ?_ hshows hsub
      rw [hstage]
      rfl
    · rw [hothers other hother]
      refine (hbefore.building hne other).others hsub fun read hreadMem hid => ?_
      rw [List.mem_eraseIdx_iff_getElem?]
      obtain ⟨k, hk⟩ := List.mem_iff_getElem?.mp hreadMem
      refine ⟨k, fun heq => ?_, hk⟩
      subst heq
      rw [hrow, Option.some.injEq] at hk
      exact hother (hk ▸ hid.symm)

theorem Ok.swap
    {rebuild : Rebuild Key} (hok : state.Ok config) (hrebuild : state.rebuild = some rebuild)
    (hstage : rebuild.stage = .scanned) :
    ({ state with
      serving := rebuild.target
      rebuild := some { rebuild with stage := .swapped } } : ReindexState Key).Ok config := by
  have hbefore := hok.rebuild rebuild hrebuild
  have hne : rebuild.stage ≠ .swapped := by simp [hstage]
  have hpending := hbefore.pending (by simp [hstage])
  exact
    { views := fun id => (hok.views id).swap (hbefore.building hne id)
        (hbefore.target_ne hne) hstage hpending
      serving_lt := hbefore.target_lt
      inflight_lt := hok.inflight_lt
      vacant := hok.vacant
      foreign := hok.foreign
      ids := hok.ids
      rebuild := by
        rintro _ ⟨⟩
        exact
          { target_lt := hbefore.target_lt
            swapped := fun _ => rfl
            target_ne := fun h => absurd rfl h
            building := fun h => absurd rfl h
            pending := fun _ => hpending
            unstarted := fun h => by cases h } }

theorem Ok.step
    {action : ReindexAction Key} (hok : state.Ok config)
    (hallowed : state.carriesDeletes config action = true)
    (hstep : state.step config action = some after) : after.Ok config := by
  cases action with
  | insert id columns => exact hok.insertRow hstep
  | update id columns => exact hok.updateRow hstep
  | delete id => exact hok.deleteRow hstep
  | process id targets => exact hok.process hallowed hstep
  | send id target => exact hok.send hallowed hstep
  | finish id => exact hok.finish hstep
  | abandon id =>
      cases hstep
      exact hok.abandon id
  | redeliver id position => exact hok.redeliver hstep
  | register => exact hok.register hstep
  | graceOver =>
      obtain ⟨rebuild, hrebuild, hstage, hnext⟩ := inStage_eq_some hstep
      cases hnext
      exact hok.graceOver hrebuild hstage
  | readBatch =>
      obtain ⟨rebuild, hrebuild, hstage, hnext⟩ := inStage_eq_some hstep
      exact hok.readBatch hrebuild hstage hnext
  | bulkWrite n =>
      obtain ⟨rebuild, hrebuild, hstage, hnext⟩ := inStage_eq_some hstep
      exact hok.bulkWrite hrebuild hstage hnext
  | swap =>
      obtain ⟨rebuild, hrebuild, hstage, hnext⟩ := inStage_eq_some hstep
      cases hnext
      exact hok.swap hrebuild hstage
  | clear =>
      obtain ⟨rebuild, hrebuild, hstage, hnext⟩ := inStage_eq_some hstep
      cases hnext
      exact hok.withoutRebuild
  | fail =>
      cases hstep
      exact hok.withoutRebuild

theorem Ok.start (hstart : (reindexMachine config).initial state) : state.Ok config := by
  obtain ⟨-, hhistory, hposition, hinflight, hindexes, hserving, hrebuild, hburied, htombs⟩ :=
    hstart
  have hrows : ∀ id, (state.history id).rows = [] := fun id => by
    rw [hhistory]
    rfl
  exact
    { views := fun id =>
        { position_le := by
            show state.position id ≤ _
            rw [hposition]
            exact Nat.zero_le _
          position_lt := fun pending hpending => by
            rw [show (state.view config id).inflight = none from hinflight id] at hpending
            cases hpending
          entries := fun index => by
            show EntryOk config _ (state.indexes index _)
            rw [hindexes]
            exact .vacant
          tombs := fun index hindex => by
            rw [show (state.view config id).tombs = [] from htombs id] at hindex
            cases hindex
          buried_deleted := fun h => by
            rw [show (state.view config id).buried = false from hburied id] at h
            cases h
          caught := by
            have hreached : (state.view config id).reached state.serving state.serving =
                0 := by
              simp [RowView.reached, view, hinflight, hposition]
            rw [hreached]
            exact ⟨fun _ => Nat.zero_le _, fun _ hlt => absurd hlt (Nat.not_lt_zero _)⟩
          gone := fun h => by
            rw [show (state.view config id).buried = false from hburied id] at h
            cases h }
      serving_lt := hserving
      inflight_lt := fun id pending hpending => by
        rw [hinflight] at hpending
        cases hpending
      vacant := fun index _ text => hindexes index text
      foreign := fun index text _ => hindexes index text
      ids := fun id h => absurd (hrows id) h
      rebuild := fun rebuild hsome => by
        rw [hrebuild] at hsome
        cases hsome }

/-! ## Nothing is lost -/

/-- The entry of a live row, or of an id without one. -/
def Exact (config : ReindexConfig Key) (entry : IndexEntry Record) :
    Option (Row Key) → Prop
  | some row => entry.version = row.version + 1 ∧
      ∃ document, entry.document = some document ∧ config.Shows row document
  | none => entry.document = none

/-- The index behind the alias, and the one being built. -/
structure ZeroLoss (config : ReindexConfig Key) (state : ReindexState Key) : Prop where
  exact : ∀ id, state.position id = (state.history id).changes.length →
    state.inflight id = none →
      Exact config (state.indexes state.serving (config.idText id))
        (state.history id).live
  onlyRows : ∀ text document,
    (state.indexes state.serving text).document = some document →
      ∃ id, text = config.idText id
  genuine : ∀ index id,
    EntryOk config (state.history id) (state.indexes index (config.idText id))
  gone : ∀ id, state.buried id = true →
    (state.indexes state.serving (config.idText id)).document = none ∧
      ∀ rebuild, state.rebuild = some rebuild →
        (state.indexes rebuild.target (config.idText id)).document = none

omit [LinearOrder Key] in
/-- A row all of whose records are processed. -/
theorem exact_of_processed
    {id : Key} {serving : ℕ} {view : RowView id} (hok : view.Ok config serving)
    (hposition : view.position = view.history.changes.length)
    (hinflight : view.inflight = none) :
    Exact config (view.entries serving) view.history.live := by
  have hreached : view.reached serving serving = view.history.changes.length := by
    simp [RowView.reached, hinflight, hposition]
  have hcaught := hok.caught
  have hentry := hok.entries serving
  rw [hreached] at hcaught
  cases hlive : view.history.live with
  | none =>
      show (view.entries serving).document = none
      cases hdeleted : view.history.deleted with
      | true =>
          have hlength := view.history.length_changes_of_deleted hdeleted
          exact hcaught.deleted hdeleted (by omega)
      | false =>
          have hrows := RowHistory.rows_eq_nil hlive hdeleted
          cases hdocument : (view.entries serving).document with
          | none => rfl
          | some document =>
              obtain ⟨n, row, -, hrow, -⟩ := hentry.genuine document hdocument
              simp [hrows] at hrow
  | some row =>
      obtain ⟨-, hrow, hlength⟩ := RowHistory.live_row hlive
      have halive := ((view.history.live_eq_some_iff row).mp hlive).1
      have hversion := hcaught.live halive
      rw [view.history.length_changes_of_live halive] at hversion
      cases hdocument : (view.entries serving).document with
      | none =>
          have hdeleted := hentry.kept hdocument (by omega)
          exact absurd (halive.symm.trans hdeleted) Bool.false_ne_true
      | some document =>
          obtain ⟨n, shown, hn, hshown, hshows⟩ := hentry.genuine document hdocument
          have hlt := (List.getElem?_eq_some_iff.mp hshown).1
          have hsame : n = row.version := by omega
          subst hsame
          rw [hrow, Option.some.injEq] at hshown
          subst shown
          exact ⟨hn, document, hdocument, hshows⟩

theorem Ok.zeroLoss (hok : state.Ok config) : state.ZeroLoss config where
  exact id hposition hinflight := exact_of_processed (hok.views id) hposition hinflight
  onlyRows text document hdocument := by
    by_contra hforeign
    rw [hok.foreign state.serving text fun id heq => hforeign ⟨id, heq⟩] at hdocument
    cases hdocument
  genuine index id := (hok.views id).entries index
  gone id hburied := by
    refine ⟨(hok.views id).gone hburied, fun rebuild hrebuild => ?_⟩
    have hbuild := hok.rebuild rebuild hrebuild
    by_cases hstage : rebuild.stage = .swapped
    · rw [hbuild.swapped hstage]
      exact (hok.views id).gone hburied
    · exact (hbuild.building hstage id).absent hburied

omit [LinearOrder Key] in
theorem version_le_apply
    (index : ℕ) (request : IndexRequest) (other : ℕ) (text : PyStr) :
    (state.indexes other text).version ≤
      (state.apply index request other text).version := by
  by_cases htext : text = request.id
  · subst text
    rw [apply_self]
    by_cases hother : other = index
    · subst other
      rw [Function.update_self]
      exact IndexEntry.version_le_write _ _ _
    · rw [Function.update_of_ne hother]
  · rw [apply_ne index other request htext]

/-- No write, of the consumer or of the scan, puts an older document in place of a
newer one. -/
theorem version_le_step
    {action : ReindexAction Key} (hstep : state.step config action = some after)
    (index : ℕ) (text : PyStr) :
    (state.indexes index text).version ≤ (after.indexes index text).version := by
  cases action with
  | insert id columns =>
      simp only [step, ReindexState.insertRow] at hstep
      split at hstep <;> cases hstep
      exact le_rfl
  | update id columns =>
      simp only [step, ReindexState.updateRow] at hstep
      split at hstep <;> cases hstep
      exact le_rfl
  | delete id =>
      simp only [step, ReindexState.deleteRow] at hstep
      split at hstep <;> cases hstep
      exact le_rfl
  | process id targets =>
      simp only [step, ReindexState.process] at hstep
      split at hstep <;> cases hstep
      exact le_rfl
  | send id target =>
      simp only [step, ReindexState.send, Option.bind_eq_bind,
        Option.bind_eq_some_iff] at hstep
      obtain ⟨pending, -, change, -, request, -, hstep⟩ := hstep
      split at hstep <;> cases hstep
      exact version_le_apply _ _ index text
  | finish id =>
      simp only [step, ReindexState.finish] at hstep
      split at hstep <;> cases hstep
      exact le_rfl
  | abandon id =>
      cases hstep
      exact le_rfl
  | redeliver id position =>
      simp only [step, ReindexState.redeliver] at hstep
      split at hstep <;> cases hstep
      exact le_rfl
  | register =>
      simp only [step, ReindexState.register] at hstep
      split at hstep <;> cases hstep
      exact le_rfl
  | graceOver =>
      obtain ⟨rebuild, -, -, hnext⟩ := inStage_eq_some hstep
      cases hnext
      exact le_rfl
  | readBatch =>
      obtain ⟨rebuild, -, -, hnext⟩ := inStage_eq_some hstep
      simp only [ReindexState.readBatch] at hnext
      split at hnext
      · split at hnext <;> cases hnext <;> exact le_rfl
      · cases hnext
  | bulkWrite n =>
      obtain ⟨rebuild, -, -, hnext⟩ := inStage_eq_some hstep
      simp only [ReindexState.bulkWrite, Option.bind_eq_bind, Option.bind_eq_some_iff,
        config.bulkRequest_scanned] at hnext
      obtain ⟨row, -, hnext⟩ := hnext
      cases hnext
      exact version_le_apply _ _ index text
  | swap =>
      obtain ⟨rebuild, -, -, hnext⟩ := inStage_eq_some hstep
      cases hnext
      exact le_rfl
  | clear =>
      obtain ⟨rebuild, -, -, hnext⟩ := inStage_eq_some hstep
      cases hnext
      exact le_rfl
  | fail =>
      cases hstep
      exact le_rfl

end ReindexState

/-- In every run whose delete records are carried to each index that shows another
record of the row. -/
theorem rebuild_loses_nothing
    (config : ReindexConfig Key) {state : ReindexState Key}
    (hreach : (reindexMachine config).ReachableUnder
      (fun state action => state.carriesDeletes config action = true) state) :
    state.ZeroLoss config ∧
      ∀ action after, (reindexMachine config).step state action = some after →
        ∀ index text,
          (state.indexes index text).version ≤ (after.indexes index text).version := by
  have hok : state.Ok config :=
    hreach.invariant (fun _ hstart => .start hstart)
      fun _ _ _ _ hbefore hallowed hstep => hbefore.step hallowed hstep
  exact ⟨hok.zeroLoss, fun action after hstep index text =>
    ReindexState.version_le_step hstep index text⟩

/-! ## A single book -/

section SingleBook

def intOf : Json → Option ℤ
  | .int n => some n
  | _ => none

def textOf : Json → PyStr
  | .str s => s
  | _ => []

/-- A table of books that ever holds one row. -/
def singleBook : ReindexConfig Unit where
  rt :=
    { toInt := intOf
      toInt_int := fun _ => rfl
      text := textOf
      text_str := fun _ => rfl
      fromtimestamp := Json.renderInt }
  model := .books
  topic := py "library.public.books"
  topicToIndex topic :=
    if topic = py "library.public.books" then some (py "books") else none
  topic_registered := by decide +kernel
  idText _ := py "book-1"
  idText_injective := fun _ _ _ => rfl
  idText_ne_nil := by decide
  captured columns := columns
  scanned columns := columns

def emptyShelf : ReindexState Unit where
  ids := ∅
  history _ := .empty
  position _ := 0
  inflight _ := none
  indexes _ _ := .vacant
  serving := 0
  fresh := 1
  rebuild := none
  buried _ := false
  tombs _ := []

theorem emptyShelf_initial : (reindexMachine singleBook).initial emptyShelf := by
  refine ⟨rfl, fun _ => rfl, fun _ => rfl, fun _ => rfl, fun _ _ => rfl, by decide, rfl,
    fun _ => rfl, fun _ => rfl⟩

/-- The book is inserted, indexed, and copied while a rebuild runs; the update that
follows the swap is processed too. -/
def rebuildRun : List (ReindexAction Unit) :=
  [.insert () [], .process () [.logical], .send () .logical, .finish (), .register,
    .graceOver, .readBatch, .bulkWrite 0, .update () [], .process () [.logical, .physical 1],
    .send () (.physical 1), .readBatch, .swap, .send () .logical, .finish ()]

theorem rebuild_loses_nothing_sample :
    ∃ state : ReindexState Unit,
      state.serving = 1 ∧ (state.history ()).live.map Row.version = some 1 ∧
        state.ZeroLoss singleBook := by
  have hrun : (((reindexMachine singleBook).executeUnder
      (fun state action => state.carriesDeletes singleBook action) emptyShelf
      rebuildRun).map fun state =>
        (state.serving, (state.history ()).live.map Row.version)) =
      some (1, some 1) := by decide +kernel
  obtain ⟨state, hstate, hvalues⟩ := Option.map_eq_some_iff.mp hrun
  rw [Prod.mk.injEq] at hvalues
  exact ⟨state, hvalues.1, hvalues.2,
    (rebuild_loses_nothing singleBook
      (Machine.ReachableUnder.executeUnder (.start emptyShelf_initial) hstate)).1⟩

/-- A client that has discovered the new index writes the insert to both, one whose
cached targets are older writes the delete to the alias only; the scan finds no row. -/
def staleDeleteRun : List (ReindexAction Unit) :=
  [.insert () [], .register, .process () [.logical, .physical 1], .send () .logical,
    .send () (.physical 1), .finish (), .delete (), .process () [.logical],
    .send () .logical, .finish (), .graceOver, .readBatch, .swap]

/-- Every record is processed, the row is deleted, and the index behind the alias
shows it. -/
theorem stale_delete_resurrects :
    ∃ state : ReindexState Unit, (reindexMachine singleBook).Reachable state ∧
      (∀ id, state.position id = (state.history id).changes.length ∧
        state.inflight id = none) ∧
      (state.history ()).live.isNone = true ∧
      (state.indexes state.serving (singleBook.idText ())).document.isSome = true := by
  have hrun : (((reindexMachine singleBook).execute emptyShelf staleDeleteRun).map
      fun state =>
        (decide (state.position () = (state.history ()).changes.length),
          (state.inflight ()).isNone, (state.history ()).live.isNone,
          (state.indexes state.serving (singleBook.idText ())).document.isSome)) =
      some (true, true, true, true) := by decide +kernel
  obtain ⟨state, hstate, hvalues⟩ := Option.map_eq_some_iff.mp hrun
  simp only [Prod.mk.injEq, decide_eq_true_eq, Option.isNone_iff_eq_none] at hvalues
  obtain ⟨hposition, hinflight, hlive, hdocument⟩ := hvalues
  refine ⟨state, Machine.Reachable.execute (.start emptyShelf_initial) hstate,
    fun _ => ⟨hposition, hinflight⟩, ?_, hdocument⟩
  simp [hlive]

end SingleBook

end LibrarySystem
