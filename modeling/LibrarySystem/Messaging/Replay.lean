import LibrarySystem.Foundation.Machine
import LibrarySystem.Messaging.DeadLetter

/-!
# Replaying dead letters

A replay reads one partition of a dead-letter topic from its committed offset up to an
end that was looked up before, publishes what each wrapper holds, and commits after each
record.  Any number of replays may run, and each may be cut off between any two awaits.
-/

namespace LibrarySystem

/-- What is in a dead-letter topic: a parked record, or anything else. -/
inductive DlqContent
  | parked (record : ConsumerRecord) (error : PyStr)
  | foreign (value : Option Bytes)

structure DlqEntry where
  offset : ℕ
  content : DlqContent

namespace DlqEntry

variable (rt : PythonRuntime)

def value (entry : DlqEntry) : Option Bytes :=
  match entry.content with
  | .parked record error => (deadLetter rt record error).map ProducedRecord.value
  | .foreign value => value

/-- The `value_deserializer` of the replay. -/
def deserialize : Option Bytes → Except PyException Json
  | none | some [] => .ok .null
  | some data =>
      match readJson rt data with
      | some value => .ok value
      | none => .error (.valueError (py "expected UTF-8 JSON"))

/-- What is published again for the entry, `none` when it is skipped. -/
def replay (entry : DlqEntry) :
    Except PyException (Option (PyStr × Option Bytes × Option Bytes)) := do
  let wrapper ← deserialize rt (entry.value rt)
  replayWrapper wrapper

end DlqEntry

/-- A message that a replay published, with the offset of its wrapper. -/
structure Republished where
  offset : ℕ
  message : PyStr × Option Bytes × Option Bytes

/-- What a replay publishes for an entry. -/
def DlqEntry.republished (rt : PythonRuntime) (entry : DlqEntry) : Option Republished :=
  match entry.replay rt with
  | .ok (some message) => some ⟨entry.offset, message⟩
  | _ => none

/-- How `send_raw` ends; a message may be stored without the call returning true. -/
inductive RawSendEnd
  | delivered
  | failed (stored : Bool)

/-- A run of `replay_partition`; `pending` is the offset it commits next. -/
structure ReplaySession where
  start : ℕ
  end_offset : ℕ
  position : ℕ
  pending : Option ℕ
  sent : List Republished

structure CompletedReplay where
  start : ℕ
  end_offset : ℕ
  sent : List Republished

/-- One partition of a dead-letter topic and its replays. -/
structure ReplayWorld where
  log : List DlqEntry
  log_end : ℕ
  committed : Option ℕ
  sessions : ℕ → Option ReplaySession
  published : List Republished
  completed : List CompletedReplay

inductive ReplayAction
  | append (entry : DlqEntry)
  | control
  | start (id : ℕ) (fromBeginning : Bool) (endOffset : ℕ)
  | replay (id : ℕ) (send : RawSendEnd)
  | commit (id : ℕ) (stored acknowledged : Bool)
  | finish (id : ℕ)
  | crash (id : ℕ)

namespace ReplayWorld

def put (world : ReplayWorld) (id : ℕ) (session : Option ReplaySession) : ReplayWorld :=
  { world with sessions := Function.update world.sessions id session }

/-- The record `getone` returns. -/
def fetch (world : ReplayWorld) (session : ReplaySession) : Option DlqEntry :=
  world.log.find? fun entry => session.position ≤ entry.offset

/-- The body of the loop up to its commit. -/
def replayNext (rt : PythonRuntime) (world : ReplayWorld) (id : ℕ) (session : ReplaySession)
    (entry : DlqEntry) (send : RawSendEnd) : ReplayWorld :=
  let advanced := { session with position := entry.offset + 1, pending := some entry.offset }
  match entry.replay rt with
  | .error _ => world.put id none
  | .ok none => world.put id (some advanced)
  | .ok (some message) =>
      let sent : Republished := ⟨entry.offset, message⟩
      match send with
      | .delivered =>
          { world.put id (some { advanced with sent := session.sent ++ [sent] }) with
            published := world.published ++ [sent] }
      | .failed true => { world.put id none with published := world.published ++ [sent] }
      | .failed false => world.put id none

def step (rt : PythonRuntime) (world : ReplayWorld) : ReplayAction → Option ReplayWorld
  | .append entry =>
      if world.log_end ≤ entry.offset then
        some { world with log := world.log ++ [entry], log_end := entry.offset + 1 }
      else none
  | .control => some { world with log_end := world.log_end + 1 }
  | .start id fromBeginning endOffset =>
      -- nothing expires from the log, which begins at zero
      let start := if fromBeginning then 0 else world.committed.getD 0
      if (world.sessions id).isNone ∧ endOffset ≤ world.log_end then
        some (world.put id (some ⟨start, endOffset, start, none, []⟩))
      else none
  | .replay id send => do
      let session ← world.sessions id
      let entry ← world.fetch session
      if session.pending = none ∧ session.position < session.end_offset then
        some (world.replayNext rt id session entry send)
      else none
  | .commit id stored acknowledged => do
      let session ← world.sessions id
      let offset ← session.pending
      let after := world.put id
        (if acknowledged then some { session with pending := none } else none)
      some (if stored || acknowledged then { after with committed := some (offset + 1) }
        else after)
  | .finish id => do
      let session ← world.sessions id
      if session.pending = none ∧ session.end_offset ≤ session.position then
        some { world.put id none with
          completed := ⟨session.start, session.end_offset, session.sent⟩ :: world.completed }
      else none
  | .crash id => (world.sessions id).map fun _ => world.put id none

end ReplayWorld

def replayMachine (rt : PythonRuntime) : Machine ReplayWorld ReplayAction where
  initial world :=
    world.log = [] ∧ world.committed = none ∧ (∀ id, world.sessions id = none) ∧
      world.published = [] ∧ world.completed = []
  step := ReplayWorld.step rt

/-! ## Parked records -/

/-- A parked record is replayed with its own bytes. -/
theorem DlqEntry.replay_parked (rt : PythonRuntime) {entry : DlqEntry}
    {record : ConsumerRecord} {error : PyStr} (hcontent : entry.content = .parked record error) :
    entry.replay rt = .ok (some (record.topic.val, record.key, record.value)) := by
  obtain ⟨letter, hletter, -, members, hread, -, -, hreplay⟩ :=
    deadLetter_lossless rt record error
  have hvalue : entry.value rt = some letter.value := by
    unfold DlqEntry.value
    rw [hcontent]
    simp only [hletter, Option.map_some]
  have hdeserialize : deserialize rt (some letter.value) = .ok (.obj members) := by
    cases hbytes : letter.value with
    | nil =>
        rw [hbytes] at hread
        cases hread
    | cons byte rest =>
        rw [hbytes] at hread
        simp only [deserialize, hread]
  unfold DlqEntry.replay
  rw [hvalue, hdeserialize, Result.ok_bind, hreplay]

/-! ## The invariant -/

/-- The entries of a range of offsets. -/
def dlqRange (start stop : ℕ) (log : List DlqEntry) : List DlqEntry :=
  log.filter fun entry => decide (start ≤ entry.offset) && decide (entry.offset < stop)

/-- The entry is no wrapper, or what it holds was published. -/
def ReplayWorld.Settled (rt : PythonRuntime) (world : ReplayWorld) (entry : DlqEntry) : Prop :=
  entry.replay rt = .ok none ∨
    ∃ sent ∈ world.published, sent.offset = entry.offset ∧
      entry.replay rt = .ok (some sent.message)

def ReplayWorld.SettledBefore (rt : PythonRuntime) (world : ReplayWorld) (offset : ℕ) : Prop :=
  offset ≤ world.log_end ∧
    ∀ entry ∈ world.log, entry.offset < offset → world.Settled rt entry

structure ReplaySession.Sound (rt : PythonRuntime) (world : ReplayWorld)
    (session : ReplaySession) : Prop where
  started : session.start ≤ session.position
  settled : world.SettledBefore rt session.position
  pending : ∀ offset, session.pending = some offset → offset + 1 = session.position
  sent : session.sent =
    (dlqRange session.start session.position world.log).filterMap (DlqEntry.republished rt)
  published : session.sent.Sublist world.published
  ended : session.end_offset ≤ world.log_end

structure ReplayInvariant (rt : PythonRuntime) (world : ReplayWorld) : Prop where
  ordered : world.log.Pairwise fun earlier later => earlier.offset < later.offset
  bounded : ∀ entry ∈ world.log, entry.offset < world.log_end
  faithful : ∀ sent ∈ world.published, ∃ entry ∈ world.log, sent.offset = entry.offset ∧
    entry.replay rt = .ok (some sent.message)
  committed : ∀ offset, world.committed = some offset → world.SettledBefore rt offset
  sessions : ∀ id session, world.sessions id = some session → session.Sound rt world
  completed : ∀ replay ∈ world.completed, replay.end_offset ≤ world.log_end ∧
    (dlqRange replay.start replay.end_offset world.log).filterMap (DlqEntry.republished rt) <+:
      replay.sent ∧ replay.sent.Sublist world.published

section Ranges

variable {rt : PythonRuntime} {log : List DlqEntry} {start stop : ℕ}

/-- Later entries are in no range that ended before. -/
theorem dlqRange_append {added : List DlqEntry} (hadded : ∀ entry ∈ added, stop ≤ entry.offset) :
    dlqRange start stop (log ++ added) = dlqRange start stop log := by
  have hnone : (added.filter fun entry =>
      decide (start ≤ entry.offset) && decide (entry.offset < stop)) = [] := by
    rw [List.filter_eq_nil_iff]
    intro entry hentry
    have := hadded entry hentry
    simp only [Bool.and_eq_true, decide_eq_true_eq]
    omega
  rw [dlqRange, List.filter_append, hnone, List.append_nil]
  rfl

/-- The record that is fetched is the next of the range. -/
theorem dlqRange_fetch (hordered : log.Pairwise fun earlier later => earlier.offset < later.offset)
    {position : ℕ} {entry : DlqEntry} (hstart : start ≤ position)
    (hfetch : (log.find? fun entry => decide (position ≤ entry.offset)) = some entry) :
    entry ∈ log ∧ position ≤ entry.offset ∧
      (∀ other ∈ log, other.offset < entry.offset + 1 → other.offset < position ∨ other = entry) ∧
      dlqRange start (entry.offset + 1) log = dlqRange start position log ++ [entry] := by
  obtain ⟨hposition, before, after, rfl, hbefore⟩ := List.find?_eq_some_iff_append.mp hfetch
  have hentry : position ≤ entry.offset := of_decide_eq_true hposition
  obtain ⟨-, hrest, -⟩ := List.pairwise_append.mp hordered
  have hafter := (List.pairwise_cons.mp hrest).1
  have hearlier : ∀ other ∈ before, other.offset < position := by
    intro other hother
    have hnot := hbefore other hother
    simp only [Bool.not_eq_true', decide_eq_false_iff_not] at hnot
    omega
  refine ⟨by simp, hentry, ?_, ?_⟩
  · intro other hother hlt
    rcases List.mem_append.mp hother with hold | hnew
    · exact Or.inl (hearlier other hold)
    · rcases List.mem_cons.mp hnew with rfl | hlater
      · exact Or.inr rfl
      · have := hafter other hlater
        omega
  · have hnone : ∀ bound ≤ entry.offset + 1, (after.filter fun other =>
        decide (start ≤ other.offset) && decide (other.offset < bound)) = [] := by
      intro bound hbound
      rw [List.filter_eq_nil_iff]
      intro other hother
      have := hafter other hother
      simp only [Bool.and_eq_true, decide_eq_true_eq]
      omega
    have hsame : (before.filter fun other =>
        decide (start ≤ other.offset) && decide (other.offset < entry.offset + 1)) =
        before.filter fun other =>
          decide (start ≤ other.offset) && decide (other.offset < position) := by
      apply List.filter_congr
      intro other hother
      have := hearlier other hother
      congr 1
      simp only [decide_eq_decide]
      omega
    have hin : start ≤ entry.offset := hstart.trans hentry
    have hout : ¬ entry.offset < position := by omega
    simp only [dlqRange, List.filter_append, List.filter_cons, hnone _ le_rfl,
      hnone position (by omega), hsame, hin, hout, decide_true, decide_false, Bool.and_false,
      Nat.lt_succ_self, Bool.and_self, if_true, Bool.false_eq_true, if_false, List.append_nil]

theorem dlqRange_starts {longer : ℕ}
    (hordered : log.Pairwise fun earlier later => earlier.offset < later.offset)
    (hlonger : stop ≤ longer) : dlqRange start stop log <+: dlqRange start longer log := by
  induction log with
  | nil => exact List.nil_prefix
  | cons entry rest ih =>
      obtain ⟨hfirst, hrest⟩ := List.pairwise_cons.mp hordered
      by_cases hstop : entry.offset < stop
      · have hlong : entry.offset < longer := hstop.trans_le hlonger
        by_cases hstart : start ≤ entry.offset
        · simpa [dlqRange, hstart, hstop, hlong] using ih hrest
        · simpa [dlqRange, hstart] using ih hrest
      · have hnone : dlqRange start stop (entry :: rest) = [] := by
          rw [dlqRange, List.filter_eq_nil_iff]
          intro other hother
          have hlater : entry.offset ≤ other.offset := by
            rcases List.mem_cons.mp hother with rfl | hmem
            · exact le_rfl
            · exact (hfirst other hmem).le
          simp only [Bool.and_eq_true, decide_eq_true_eq]
          omega
        rw [hnone]
        exact List.nil_prefix

end Ranges

section Steps

variable {rt : PythonRuntime} {world after : ReplayWorld}

/-- The log and what was published only grow. -/
structure ReplayWorld.Extends (world after : ReplayWorld) : Prop where
  log : ∃ added, after.log = world.log ++ added ∧ ∀ entry ∈ added, world.log_end ≤ entry.offset
  log_end : world.log_end ≤ after.log_end
  published : ∃ more, after.published = world.published ++ more

theorem ReplayWorld.SettledBefore.later {offset : ℕ} (hsettled : world.SettledBefore rt offset)
    (hext : world.Extends after) : after.SettledBefore rt offset := by
  obtain ⟨hoffset, hentries⟩ := hsettled
  obtain ⟨added, hlog, hadded⟩ := hext.log
  obtain ⟨more, hpublished⟩ := hext.published
  refine ⟨hoffset.trans hext.log_end, fun entry hentry hlt => ?_⟩
  rw [hlog] at hentry
  rcases List.mem_append.mp hentry with hold | hnew
  · refine (hentries entry hold hlt).imp_right ?_
    rintro ⟨sent, hsent, hrest⟩
    exact ⟨sent, by rw [hpublished]; exact List.mem_append_left _ hsent, hrest⟩
  · have := hadded entry hnew
    omega

theorem ReplaySession.Sound.later {session : ReplaySession} (hsound : session.Sound rt world)
    (hext : world.Extends after) : session.Sound rt after := by
  obtain ⟨added, hlog, hadded⟩ := hext.log
  obtain ⟨more, hpublished⟩ := hext.published
  refine { hsound with
    settled := hsound.settled.later hext
    sent := ?_
    published := ?_
    ended := hsound.ended.trans hext.log_end }
  · rw [hlog, dlqRange_append fun entry hentry => hsound.settled.1.trans (hadded entry hentry)]
    exact hsound.sent
  · rw [hpublished]
    exact hsound.published.trans (List.sublist_append_left _ _)

/-- What a change of the log or of the published messages has to bring along. -/
theorem ReplayInvariant.extend (hinv : ReplayInvariant rt world) (hext : world.Extends after)
    (hordered : after.log.Pairwise fun earlier later => earlier.offset < later.offset)
    (hbounded : ∀ entry ∈ after.log, entry.offset < after.log_end)
    (hfaithful : ∀ sent ∈ after.published, sent ∈ world.published ∨
      ∃ entry ∈ after.log, sent.offset = entry.offset ∧
        entry.replay rt = .ok (some sent.message))
    (hcommitted : ∀ offset, after.committed = some offset →
      after.SettledBefore rt offset ∨ world.committed = some offset)
    (hcompleted : ∀ replay ∈ after.completed, replay ∈ world.completed ∨
      replay.end_offset ≤ after.log_end ∧
        (dlqRange replay.start replay.end_offset after.log).filterMap
          (DlqEntry.republished rt) <+: replay.sent ∧ replay.sent.Sublist after.published)
    (hsessions : ∀ id session, after.sessions id = some session →
      session.Sound rt after ∨ world.sessions id = some session) :
    ReplayInvariant rt after := by
  obtain ⟨added, hlog, hadded⟩ := hext.log
  obtain ⟨more, hpublished⟩ := hext.published
  refine ⟨hordered, hbounded, ?_, ?_, ?_, ?_⟩
  · intro sent hsent
    rcases hfaithful sent hsent with hold | hnew
    · obtain ⟨entry, hentry, hrest⟩ := hinv.faithful sent hold
      exact ⟨entry, by rw [hlog]; exact List.mem_append_left _ hentry, hrest⟩
    · exact hnew
  · intro offset hoffset
    rcases hcommitted offset hoffset with hnew | hold
    · exact hnew
    · exact (hinv.committed offset hold).later hext
  · intro id session hsession
    rcases hsessions id session hsession with hnew | hold
    · exact hnew
    · exact (hinv.sessions id session hold).later hext
  · intro replay hreplay
    rcases hcompleted replay hreplay with hold | hnew
    · obtain ⟨hend, hsent, hsublist⟩ := hinv.completed replay hold
      refine ⟨hend.trans hext.log_end, ?_⟩
      rw [hlog, dlqRange_append fun entry hentry => hend.trans (hadded entry hentry), hpublished]
      exact ⟨hsent, hsublist.trans (List.sublist_append_left _ _)⟩
    · exact hnew

theorem extends_same (hlog : after.log = world.log) (hend : after.log_end = world.log_end)
    (hpublished : after.published = world.published) : world.Extends after where
  log := ⟨[], by rw [hlog, List.append_nil], fun _ hnil => by cases hnil⟩
  log_end := hend.ge
  published := ⟨[], by rw [hpublished, List.append_nil]⟩

theorem ReplayWorld.extends_put (id : ℕ) (session : Option ReplaySession) :
    world.Extends (world.put id session) :=
  extends_same rfl rfl rfl

theorem ReplayWorld.extends_publish (id : ℕ) (session : Option ReplaySession)
    (sent : Republished) :
    world.Extends { world.put id session with published := world.published ++ [sent] } :=
  ⟨⟨[], (List.append_nil _).symm, fun _ hnil => by cases hnil⟩, le_rfl, ⟨[sent], rfl⟩⟩

theorem sessions_update {id other : ℕ} {entry : Option ReplaySession} {session : ReplaySession}
    (hsession : Function.update world.sessions id entry other = some session) :
    entry = some session ∨ world.sessions other = some session := by
  by_cases hother : other = id
  · subst hother
    rw [Function.update_self] at hsession
    exact Or.inl hsession
  · rw [Function.update_of_ne hother] at hsession
    exact Or.inr hsession

/-- A session that is put in place has to be sound. -/
theorem ReplayInvariant.put (hinv : ReplayInvariant rt world) (id : ℕ)
    {entry : Option ReplaySession}
    (hentry : ∀ session, entry = some session → session.Sound rt world) :
    ReplayInvariant rt (world.put id entry) := by
  refine hinv.extend (world.extends_put id entry) hinv.ordered hinv.bounded
    (fun sent hsent => Or.inl hsent) (fun _ => Or.inr) (fun _ => Or.inl) ?_
  intro other session hsession
  exact (sessions_update hsession).imp_left fun hnew =>
    (hentry session hnew).later (world.extends_put id entry)

/-- A message that is published belongs to an entry of the log. -/
theorem ReplayInvariant.publish (hinv : ReplayInvariant rt world) (id : ℕ)
    {placed : Option ReplaySession} {entry : DlqEntry} (hentry : entry ∈ world.log)
    {message : PyStr × Option Bytes × Option Bytes}
    (hmessage : entry.replay rt = .ok (some message))
    (hplaced : ∀ session, placed = some session →
      session.Sound rt { world.put id placed with
        published := world.published ++ [⟨entry.offset, message⟩] }) :
    ReplayInvariant rt { world.put id placed with
      published := world.published ++ [⟨entry.offset, message⟩] } := by
  refine hinv.extend (world.extends_publish id placed _) hinv.ordered hinv.bounded ?_
    (fun _ => Or.inr) (fun _ => Or.inl) ?_
  · intro sent hsent
    refine (List.mem_append.mp hsent).imp_right fun hnew => ?_
    rw [List.mem_singleton.mp hnew]
    exact ⟨entry, hentry, rfl, hmessage⟩
  · intro other session hsession
    exact (sessions_update hsession).imp_left (hplaced session)

/-- The record that is fetched is the first that is not settled yet. -/
theorem ReplayInvariant.replayNext (hinv : ReplayInvariant rt world) (id : ℕ)
    {session : ReplaySession} (hsession : world.sessions id = some session)
    {entry : DlqEntry} (hfetch : world.fetch session = some entry) (send : RawSendEnd) :
    ReplayInvariant rt (world.replayNext rt id session entry send) := by
  have hsound := hinv.sessions id session hsession
  obtain ⟨hentry, hposition, hearlier, hrange⟩ :=
    dlqRange_fetch hinv.ordered hsound.started hfetch
  have hbound := hinv.bounded entry hentry
  -- the session after the record, once that is settled in a later world
  have hadvance : ∀ later : ReplayWorld, world.Extends later → later.log = world.log →
      later.Settled rt entry → ∀ sent : List Republished,
      sent = session.sent ++ (entry.republished rt).toList → sent.Sublist later.published →
      ReplaySession.Sound rt later
        { session with
          position := entry.offset + 1
          pending := some entry.offset
          sent := sent } := by
    intro later hext hlog hsettled sent hsent hsublist
    have hbefore := hsound.settled.later hext
    refine ⟨hsound.started.trans (by simp only; omega), ⟨?_, ?_⟩, ?_, ?_, hsublist,
      hsound.ended.trans hext.log_end⟩
    · exact Nat.succ_le_of_lt (hbound.trans_le hext.log_end)
    · intro other hother hlt
      rw [hlog] at hother
      rcases hearlier other hother hlt with hlt | rfl
      · exact hbefore.2 other (by rw [hlog]; exact hother) hlt
      · exact hsettled
    · intro offset hoffset
      exact congrArg (· + 1) (Option.some.inj hoffset).symm
    · have hone : [entry].filterMap (DlqEntry.republished rt) =
          (entry.republished rt).toList := by
        cases hrepublished : entry.republished rt <;> simp [hrepublished]
      simp only
      rw [hlog, hrange, List.filterMap_append, ← hsound.sent, hone, hsent]
  unfold ReplayWorld.replayNext
  cases hreplay : entry.replay rt with
  | error error => exact hinv.put id fun _ hnone => by cases hnone
  | ok wrapper =>
      cases wrapper with
      | none =>
          have hskipped : entry.republished rt = none := by
            simp only [DlqEntry.republished, hreplay]
          refine hinv.put id fun placed hplaced => ?_
          cases hplaced
          refine hadvance world (extends_same rfl rfl rfl) rfl (Or.inl hreplay) session.sent ?_
            hsound.published
          simp [hskipped]
      | some message =>
          have hrepublished : entry.republished rt = some ⟨entry.offset, message⟩ := by
            simp only [DlqEntry.republished, hreplay]
          cases send with
          | delivered =>
              refine hinv.publish id hentry hreplay fun placed hplaced => ?_
              cases hplaced
              refine hadvance _ (world.extends_publish id _ _) rfl ?_ _ ?_ ?_
              · exact Or.inr ⟨⟨entry.offset, message⟩, by simp, rfl, hreplay⟩
              · simp [hrepublished]
              · exact hsound.published.append_right _
          | failed stored =>
              cases stored with
              | true => exact hinv.publish id hentry hreplay fun _ hnone => by cases hnone
              | false => exact hinv.put id fun _ hnone => by cases hnone

/-- One step keeps the invariant. -/
theorem ReplayInvariant.next (hinv : ReplayInvariant rt world) (action : ReplayAction)
    (hstep : world.step rt action = some after) : ReplayInvariant rt after := by
  cases action with
  | append entry =>
      simp only [ReplayWorld.step] at hstep
      split_ifs at hstep with hentry
      cases hstep
      refine hinv.extend ⟨⟨[entry], rfl, by simpa using hentry⟩, by simp only; omega,
        ⟨[], (List.append_nil _).symm⟩⟩ ?_ ?_ (fun sent hsent => Or.inl hsent)
        (fun _ => Or.inr) (fun _ => Or.inl) fun _ _ => Or.inr
      · refine List.pairwise_append.mpr ⟨hinv.ordered, List.pairwise_singleton _ _, ?_⟩
        intro earlier hearlier later hlater
        rw [List.mem_singleton.mp hlater]
        exact (hinv.bounded earlier hearlier).trans_le hentry
      · intro other hother
        rcases List.mem_append.mp hother with hold | hnew
        · have := hinv.bounded other hold
          simp only
          omega
        · rw [List.mem_singleton.mp hnew]
          exact Nat.lt_succ_self _
  | control =>
      cases hstep
      refine hinv.extend ⟨⟨[], (List.append_nil _).symm, fun _ hnil => by cases hnil⟩,
        Nat.le_succ _, ⟨[], (List.append_nil _).symm⟩⟩ hinv.ordered
        (fun entry hentry => (hinv.bounded entry hentry).trans (Nat.lt_succ_self _))
        (fun sent hsent => Or.inl hsent) (fun _ => Or.inr) (fun _ => Or.inl)
        fun _ _ => Or.inr
  | start id fromBeginning endOffset =>
      have hzero : world.SettledBefore rt 0 :=
        ⟨Nat.zero_le _, fun _ _ hlt => absurd hlt (Nat.not_lt_zero _)⟩
      have hstart : world.SettledBefore rt
          (if fromBeginning then 0 else world.committed.getD 0) := by
        split
        · exact hzero
        · cases hcommitted : world.committed with
          | none => exact hzero
          | some offset => exact hinv.committed offset hcommitted
      simp only [ReplayWorld.step] at hstep
      generalize (if fromBeginning then 0 else world.committed.getD 0) = start at hstart hstep
      split_ifs at hstep with hfree
      cases hstep
      refine hinv.put id fun session hnew => ?_
      cases hnew
      refine ⟨le_rfl, hstart, fun _ hnone => (by cases hnone), ?_, List.nil_sublist _, hfree.2⟩
      have hempty : dlqRange start start world.log = [] := by
        rw [dlqRange, List.filter_eq_nil_iff]
        intro entry _
        simp only [Bool.and_eq_true, decide_eq_true_eq]
        omega
      simp [hempty]
  | replay id send =>
      obtain ⟨session, hsession, hrest⟩ := Option.bind_eq_some_iff.mp hstep
      obtain ⟨entry, hfetch, hrest⟩ := Option.bind_eq_some_iff.mp hrest
      split_ifs at hrest
      cases hrest
      exact hinv.replayNext id hsession hfetch send
  | commit id stored acknowledged =>
      obtain ⟨session, hsession, hrest⟩ := Option.bind_eq_some_iff.mp hstep
      obtain ⟨offset, hpending, hrest⟩ := Option.bind_eq_some_iff.mp hrest
      have hsound := hinv.sessions id session hsession
      have hput : ReplayInvariant rt (world.put id
          (if acknowledged then some { session with pending := none } else none)) := by
        refine hinv.put id fun placed hplaced => ?_
        split_ifs at hplaced
        cases hplaced
        exact { hsound with pending := fun _ hnone => by cases hnone }
      cases hrest
      split
      · refine hput.extend (extends_same rfl rfl rfl) hput.ordered hput.bounded
          (fun sent hsent => Or.inl hsent) ?_ (fun _ => Or.inl) fun _ _ => Or.inr
        intro committed hcommitted
        cases hcommitted
        rw [hsound.pending offset hpending]
        exact Or.inl (hsound.settled.later (extends_same rfl rfl rfl))
      · exact hput
  | finish id =>
      obtain ⟨session, hsession, hrest⟩ := Option.bind_eq_some_iff.mp hstep
      have hsound := hinv.sessions id session hsession
      split_ifs at hrest with hdone
      cases hrest
      have hput : ReplayInvariant rt (world.put id none) :=
        hinv.put id fun _ hnone => by cases hnone
      refine hput.extend (extends_same rfl rfl rfl) hput.ordered hput.bounded
        (fun sent hsent => Or.inl hsent) (fun _ => Or.inr) ?_ fun _ _ => Or.inr
      intro replay hreplay
      rcases List.mem_cons.mp hreplay with rfl | hold
      · refine Or.inr ⟨hsound.ended, ?_, hsound.published⟩
        rw [hsound.sent]
        exact (dlqRange_starts hinv.ordered hdone.2).filterMap _
      · exact Or.inl hold
  | crash id =>
      obtain ⟨session, -, rfl⟩ := Option.map_eq_some_iff.mp hstep
      exact hinv.put id fun _ hnone => by cases hnone

end Steps

theorem reachable_replayInvariant {rt : PythonRuntime} {world : ReplayWorld}
    (hreach : (replayMachine rt).Reachable world) : ReplayInvariant rt world := by
  refine Machine.Reachable.invariant ?_ ?_ hreach
  · rintro start ⟨hlog, hcommitted, hsessions, hpublished, hcompleted⟩
    constructor
    · simp [hlog]
    · simp [hlog]
    · simp [hpublished]
    · simp [hcommitted]
    · simp [hsessions]
    · simp [hcompleted]
  · intro before action after _ hinv hstep
    exact hinv.next action hstep

/-! ## Lossless replay -/

/-- Whatever replays run and wherever they are cut off: what is published is what the
wrapper of its offset holds, which for a parked record is its topic and its bytes; nothing
but skipped entries and published wrappers lies before the committed offset; and a
completed replay sent the wrappers of its range, in order. -/
theorem replay_lossless (rt : PythonRuntime) (world : ReplayWorld)
    (hreach : (replayMachine rt).Reachable world) :
    (∀ entry ∈ world.log, ∀ record error, entry.content = .parked record error →
      entry.replay rt = .ok (some (record.topic.val, record.key, record.value))) ∧
    (∀ sent ∈ world.published, ∃ entry ∈ world.log, sent.offset = entry.offset ∧
      entry.replay rt = .ok (some sent.message)) ∧
    (∀ offset, world.committed = some offset → ∀ entry ∈ world.log, entry.offset < offset →
      entry.replay rt = .ok none ∨ ∃ sent ∈ world.published, sent.offset = entry.offset ∧
        entry.replay rt = .ok (some sent.message)) ∧
    (∀ replay ∈ world.completed,
      -- a record after the range is read, too, where the range ends in a gap of the log
      (dlqRange replay.start replay.end_offset world.log).filterMap (DlqEntry.republished rt) <+:
        replay.sent ∧ replay.sent.Sublist world.published) ∧
    world.log.Pairwise fun earlier later => earlier.offset < later.offset := by
  have hinv := reachable_replayInvariant hreach
  refine ⟨?_, hinv.faithful, ?_, ?_, hinv.ordered⟩
  · intro entry _ record error hcontent
    exact entry.replay_parked rt hcontent
  · intro offset hoffset
    exact (hinv.committed offset hoffset).2
  · intro replay hreplay
    exact (hinv.completed replay hreplay).2

def sampleParked : ConsumerRecord where
  topic := ⟨py "outbox.event.book", by decide⟩
  partition := 0
  offset := 7
  key := some [0xFF]
  value := some []

/-- A parked record, a replay that is cut off after the publish, and one that completes. -/
def sampleReplayActions : List ReplayAction :=
  [.append ⟨0, .parked sampleParked (py "bad")⟩, .append ⟨1, .foreign none⟩,
    .start 0 false 2, .replay 0 (.failed true), .start 1 false 2, .replay 1 .delivered,
    .commit 1 true true, .replay 1 .delivered, .commit 1 true true, .finish 1]

theorem replay_lossless_sample :
    ∃ world : ReplayWorld, world.committed = some 2 ∧
      (∀ sent ∈ world.published, ∃ entry ∈ world.log, sent.offset = entry.offset ∧
        entry.replay asciiRuntime = .ok (some sent.message)) ∧
      world.published.map Republished.message =
        [(py "outbox.event.book", some [0xFF], some []),
          (py "outbox.event.book", some [0xFF], some [])] := by
  let start : ReplayWorld := ⟨[], 0, none, fun _ => none, [], []⟩
  have hcommitted : ((replayMachine asciiRuntime).execute start sampleReplayActions).map
      ReplayWorld.committed = some (some 2) := by decide +kernel
  have hpublished : ((replayMachine asciiRuntime).execute start sampleReplayActions).map
      (fun world => world.published.map Republished.message) =
        some [(py "outbox.event.book", some [0xFF], some []),
          (py "outbox.event.book", some [0xFF], some [])] := by decide +kernel
  obtain ⟨world, hrun, hend⟩ := Option.map_eq_some_iff.mp hcommitted
  rw [hrun, Option.map_some, Option.some.injEq] at hpublished
  have hstart : (replayMachine asciiRuntime).Reachable start :=
    .start ⟨rfl, rfl, fun _ => rfl, rfl, rfl⟩
  have hlossless := replay_lossless asciiRuntime world (hstart.execute hrun)
  exact ⟨world, hend, hlossless.2.1, hpublished⟩

end LibrarySystem
