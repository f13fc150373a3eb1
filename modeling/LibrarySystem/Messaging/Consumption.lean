import LibrarySystem.Foundation.Machine
import LibrarySystem.Messaging.KafkaClient

/-!
# At-least-once consumption

Partition logs, the committed offsets of the consumer group, and the sessions of
one consumer.  A session starts from the committed offsets (the earliest record
where there is none) and ends with the first call that does not go on; records
of any partitions are delivered in any interleaving, those of one partition in
log order.
-/

namespace LibrarySystem

structure Session where
  policy : ConsumePolicy
  position : TopicPartition → ℕ

structure ConsumerGroup where
  log : TopicPartition → List ConsumerRecord
  committed : TopicPartition → Option ℕ
  deadLetters : List ProducedRecord
  session : Option Session
  visits : List Visit

namespace ConsumerGroup

/-- Where consumption of a partition resumes; `auto_offset_reset` is
`earliest`. -/
def resume (group : ConsumerGroup) (source : TopicPartition) : ℕ :=
  (group.committed source).getD 0

/-- The state after one delivered record was processed. -/
def afterVisit (group : ConsumerGroup) (session : Session) (visit : Visit) :
    ConsumerGroup :=
  let source := visit.record.source
  { log := group.log
    committed := Function.update group.committed source
      (visit.committed.or (group.committed source))
    deadLetters := visit.letter.toList ++ group.deadLetters
    session :=
      if visit.continues then
        some { session with
          position := Function.update session.position source (visit.record.offset + 1) }
      else none
    visits := visit :: group.visits }

end ConsumerGroup

inductive GroupAction
  | append (record : ConsumerRecord)
  | connect (policy : ConsumePolicy)
  | deliver (source : TopicPartition) (environment : VisitEnvironment)
  | rebalance (source : TopicPartition)
  | stop

namespace ConsumerGroup

/-- The next record a session gets from a partition. -/
def nextRecord (group : ConsumerGroup) (session : Session) (source : TopicPartition) :
    Option ConsumerRecord :=
  (group.log source).find? fun record => session.position source ≤ record.offset

def step (rt : PythonRuntime) (config : KafkaConfig) (group : ConsumerGroup) :
    GroupAction → Option ConsumerGroup
  | .append record =>
      if ∀ earlier ∈ group.log record.source, earlier.offset < record.offset then
        some { group with
          log := Function.update group.log record.source
            (group.log record.source ++ [record]) }
      else none
  | .connect policy =>
      match group.session with
      | some _ => none
      | none => some { group with session := some ⟨policy, group.resume⟩ }
  | .deliver source environment => do
      let session ← group.session
      let record ← group.nextRecord session source
      pure (group.afterVisit session
        (consumeRecord rt config session.policy record environment))
  | .rebalance source => do
      let session ← group.session
      pure { group with
        session := some { session with
          position := Function.update session.position source (group.resume source) } }
  | .stop => some { group with session := none }

end ConsumerGroup

def consumption (rt : PythonRuntime) (config : KafkaConfig) :
    Machine ConsumerGroup GroupAction where
  initial group :=
    (∀ source, group.log source = []) ∧ (∀ source, group.committed source = none) ∧
      group.deadLetters = [] ∧ group.session = none ∧ group.visits = []
  step := ConsumerGroup.step rt config

/-! ## The invariant -/

/-- The record was handled without exception, or a lossless dead letter of it
was published. -/
def ConsumerGroup.Settled (rt : PythonRuntime) (group : ConsumerGroup)
    (record : ConsumerRecord) : Prop :=
  (∃ visit ∈ group.visits, visit.record = record ∧ visit.isHandled) ∨
    ∃ letter ∈ group.deadLetters, Lossless rt record letter

/-- Every visited record of the partition before the offset is settled. -/
def ConsumerGroup.SettledBefore (rt : PythonRuntime) (group : ConsumerGroup)
    (source : TopicPartition) (offset : ℕ) : Prop :=
  ∀ visit ∈ group.visits, visit.record.source = source → visit.record.offset < offset →
    group.Settled rt visit.record

/-- What holds of a single visit whatever its environment did. -/
structure Visit.Proper (rt : PythonRuntime) (visit : Visit) : Prop where
  handling : visit.handling.Proper rt visit.policy visit.record
  commit : visit.handling.finish ≠ .returned → visit.commit = none

/-- The offset stored by the latest visit to the partition that stored one. -/
def lastCommitted (source : TopicPartition) : List Visit → Option ℕ
  | [] => none
  | visit :: earlier =>
      if visit.record.source = source then
        visit.committed.or (lastCommitted source earlier)
      else lastCommitted source earlier

structure ConsumptionInvariant (rt : PythonRuntime) (group : ConsumerGroup) : Prop where
  ordered : ∀ source, (group.log source).Pairwise fun earlier later =>
    earlier.offset < later.offset
  logged : ∀ visit ∈ group.visits, visit.record ∈ group.log visit.record.source
  routed : ∀ source, ∀ record ∈ group.log source, record.source = source
  proper : ∀ visit ∈ group.visits, visit.Proper rt
  committed : ∀ source, group.committed source = lastCommitted source group.visits
  acknowledged : ∀ source, group.SettledBefore rt source (group.resume source)
  positioned : ∀ session, group.session = some session → ∀ source,
    group.resume source ≤ session.position source ∧
      group.SettledBefore rt source (session.position source)
  published : ∀ letter ∈ group.deadLetters, ∃ visit ∈ group.visits,
    visit.letter = some letter

theorem consumeRecord_proper
    (rt : PythonRuntime) (config : KafkaConfig) (policy : ConsumePolicy)
    (record : ConsumerRecord) (environment : VisitEnvironment) :
    (consumeRecord rt config policy record environment).Proper rt where
  handling := handleWithRetry_proper environment config.consumer_max_retries 0
  commit := by
    intro hfinish
    simp only [consumeRecord] at hfinish ⊢
    rw [if_neg hfinish]

section Visits

variable {rt : PythonRuntime} {group : ConsumerGroup} {session : Session} {visit : Visit}

theorem Visit.committed_eq {n : ℕ} (hcommitted : visit.committed = some n) :
    n = visit.record.offset + 1 ∧ visit.commit ≠ none := by
  unfold Visit.committed at hcommitted
  split at hcommitted
  · simp at hcommitted
  · rename_i hcommit
    simp only [Option.some.injEq] at hcommitted
    exact ⟨hcommitted.symm, by simp [hcommit]⟩
  · rename_i stored hcommit
    split at hcommitted
    · simp only [Option.some.injEq] at hcommitted
      exact ⟨hcommitted.symm, by simp [hcommit]⟩
    · simp at hcommitted
  · rename_i stored hcommit
    split at hcommitted
    · simp only [Option.some.injEq] at hcommitted
      exact ⟨hcommitted.symm, by simp [hcommit]⟩
    · simp at hcommitted

/-- A visit that issues a commit settled its record. -/
theorem Visit.Proper.settled
    (hproper : visit.Proper rt) (hcommit : visit.commit ≠ none) :
    visit.isHandled ∨ ∃ letter, visit.letter = some letter ∧
      Lossless rt visit.record letter := by
  have hfinish : visit.handling.finish = .returned := by
    by_contra hfinish
    exact hcommit (hproper.commit hfinish)
  rcases hproper.handling.returned hfinish with
    hhandled | ⟨parking, letter, hparking, hletter, hlossless⟩
  · exact Or.inl hhandled
  · exact Or.inr ⟨letter, by simp [Visit.letter, hparking, hletter], hlossless⟩

theorem Visit.commit_of_continues (hcontinues : visit.continues = true) :
    visit.committed = some (visit.record.offset + 1) := by
  unfold Visit.continues at hcontinues
  split at hcontinues
  · rename_i hcommit
    simp [Visit.committed, hcommit]
  · simp at hcontinues

theorem settled_afterVisit_of
    {record : ConsumerRecord} (hsettled : group.Settled rt record) :
    (group.afterVisit session visit).Settled rt record := by
  rcases hsettled with ⟨other, hother, hrecord, hhandled⟩ | ⟨letter, hletter, hlossless⟩
  · exact Or.inl ⟨other, List.mem_cons_of_mem _ hother, hrecord, hhandled⟩
  · exact Or.inr ⟨letter, List.mem_append_right _ hletter, hlossless⟩

theorem settled_afterVisit
    (hproper : visit.Proper rt) (hcommit : visit.commit ≠ none) :
    (group.afterVisit session visit).Settled rt visit.record := by
  rcases hproper.settled hcommit with hhandled | ⟨letter, hletter, hlossless⟩
  · exact Or.inl ⟨visit, List.mem_cons_self, rfl, hhandled⟩
  · refine Or.inr ⟨letter, List.mem_append_left _ ?_, hlossless⟩
    simp [hletter]

/-- The delivered record is the first one at or after the position. -/
theorem nextRecord_spec
    (hordered : ∀ source, (group.log source).Pairwise fun earlier later =>
      earlier.offset < later.offset)
    {source : TopicPartition} {record : ConsumerRecord}
    (hnext : group.nextRecord session source = some record) :
    record ∈ group.log source ∧ session.position source ≤ record.offset ∧
      ∀ other ∈ group.log source, session.position source ≤ other.offset →
        other.offset ≤ record.offset → other = record := by
  unfold ConsumerGroup.nextRecord at hnext
  obtain ⟨hposition, before, after, hlog, hbefore⟩ :=
    List.find?_eq_some_iff_append.mp hnext
  simp only [decide_eq_true_eq] at hposition
  have hsorted := hordered source
  rw [hlog] at hsorted ⊢
  refine ⟨by simp, hposition, ?_⟩
  intro other hother hat hle
  rcases List.mem_append.mp hother with hother | hother
  · have hnot := hbefore other hother
    simp only [Bool.not_eq_true', decide_eq_false_iff_not] at hnot
    exact absurd hat hnot
  · rcases List.mem_cons.mp hother with rfl | hother
    · rfl
    · have hlater := (List.pairwise_append.mp hsorted).2.1
      have hlt := (List.pairwise_cons.mp hlater).1 other hother
      omega

theorem settledBefore_keep
    {source : TopicPartition} {offset : ℕ}
    (hbefore : group.SettledBefore rt source offset)
    (hvisit : visit.record.source = source → offset ≤ visit.record.offset) :
    (group.afterVisit session visit).SettledBefore rt source offset := by
  intro other hother hsource hlt
  rcases List.mem_cons.mp hother with rfl | hother
  · have hle := hvisit hsource
    omega
  · exact settled_afterVisit_of (hbefore other hother hsource hlt)

/-- Committing a record settles everything visited up to it. -/
theorem settledBefore_advance
    (hinv : ConsumptionInvariant rt group) (hsession : group.session = some session)
    (hproper : visit.Proper rt) (hcommit : visit.commit ≠ none)
    (hfirst : ∀ other ∈ group.log visit.record.source,
      session.position visit.record.source ≤ other.offset →
        other.offset ≤ visit.record.offset → other = visit.record) :
    (group.afterVisit session visit).SettledBefore rt visit.record.source
      (visit.record.offset + 1) := by
  intro other hother hsource hlt
  rcases List.mem_cons.mp hother with rfl | hother
  · exact settled_afterVisit hproper hcommit
  · by_cases hposition :
        other.record.offset < session.position visit.record.source
    · exact settled_afterVisit_of
        ((hinv.positioned session hsession _).2 other hother hsource hposition)
    · have hlogged := hinv.logged other hother
      rw [hsource] at hlogged
      rw [hfirst other.record hlogged (by omega) (by omega)]
      exact settled_afterVisit hproper hcommit

theorem resume_afterVisit_other
    {source : TopicPartition} (hsource : visit.record.source ≠ source) :
    (group.afterVisit session visit).resume source = group.resume source := by
  simp [ConsumerGroup.resume, ConsumerGroup.afterVisit, Function.update_of_ne hsource.symm]

theorem resume_afterVisit_none (hcommitted : visit.committed = none)
    (source : TopicPartition) :
    (group.afterVisit session visit).resume source = group.resume source := by
  by_cases hsource : visit.record.source = source
  · subst hsource
    simp [ConsumerGroup.resume, ConsumerGroup.afterVisit, hcommitted]
  · exact resume_afterVisit_other hsource

theorem resume_afterVisit_some {n : ℕ} (hcommitted : visit.committed = some n) :
    (group.afterVisit session visit).resume visit.record.source = n := by
  simp [ConsumerGroup.resume, ConsumerGroup.afterVisit, hcommitted]

theorem acknowledged_afterVisit
    (hinv : ConsumptionInvariant rt group) (hsession : group.session = some session)
    (hproper : visit.Proper rt)
    (hposition : session.position visit.record.source ≤ visit.record.offset)
    (hfirst : ∀ other ∈ group.log visit.record.source,
      session.position visit.record.source ≤ other.offset →
        other.offset ≤ visit.record.offset → other = visit.record)
    (source : TopicPartition) :
    (group.afterVisit session visit).SettledBefore rt source
      ((group.afterVisit session visit).resume source) := by
  by_cases hsource : visit.record.source = source
  · subst hsource
    cases hcommitted : visit.committed with
    | none =>
        rw [resume_afterVisit_none hcommitted]
        refine settledBefore_keep (hinv.acknowledged _) fun _ => ?_
        exact (hinv.positioned session hsession _).1.trans hposition
    | some n =>
        obtain ⟨rfl, hcommit⟩ := Visit.committed_eq hcommitted
        rw [resume_afterVisit_some hcommitted]
        exact settledBefore_advance hinv hsession hproper hcommit hfirst
  · rw [resume_afterVisit_other hsource]
    exact settledBefore_keep (hinv.acknowledged _) fun h => absurd h hsource

theorem positioned_afterVisit
    (hinv : ConsumptionInvariant rt group) (hsession : group.session = some session)
    (hproper : visit.Proper rt)
    (hfirst : ∀ other ∈ group.log visit.record.source,
      session.position visit.record.source ≤ other.offset →
        other.offset ≤ visit.record.offset → other = visit.record)
    {after : Session} (hafter : (group.afterVisit session visit).session = some after)
    (source : TopicPartition) :
    (group.afterVisit session visit).resume source ≤ after.position source ∧
      (group.afterVisit session visit).SettledBefore rt source
        (after.position source) := by
  simp only [ConsumerGroup.afterVisit, Option.ite_none_right_eq_some,
    Option.some.injEq] at hafter
  obtain ⟨hcontinues, rfl⟩ := hafter
  have hcommitted := Visit.commit_of_continues hcontinues
  have hcommit := (Visit.committed_eq hcommitted).2
  by_cases hsource : visit.record.source = source
  · subst hsource
    simp only [Function.update_self]
    rw [resume_afterVisit_some hcommitted]
    exact ⟨le_rfl, settledBefore_advance hinv hsession hproper hcommit hfirst⟩
  · simp only [Function.update_of_ne (Ne.symm hsource)]
    obtain ⟨hresume, hbefore⟩ := hinv.positioned session hsession source
    rw [resume_afterVisit_other hsource]
    exact ⟨hresume, settledBefore_keep hbefore fun h => absurd h hsource⟩

/-- What one delivery preserves. -/
theorem ConsumptionInvariant.deliver
    (hinv : ConsumptionInvariant rt group) (hsession : group.session = some session)
    (hproper : visit.Proper rt)
    (hnext : group.nextRecord session visit.record.source = some visit.record) :
    ConsumptionInvariant rt (group.afterVisit session visit) := by
  obtain ⟨hlogged, hposition, hfirst⟩ := nextRecord_spec hinv.ordered hnext
  exact
    { ordered := hinv.ordered
      logged := List.forall_mem_cons.mpr ⟨hlogged, hinv.logged⟩
      routed := hinv.routed
      proper := List.forall_mem_cons.mpr ⟨hproper, hinv.proper⟩
      committed := by
        intro source
        simp only [ConsumerGroup.afterVisit, lastCommitted]
        by_cases hsource : visit.record.source = source
        · subst hsource
          simp [hinv.committed]
        · simp [hsource, Function.update_of_ne (Ne.symm hsource), hinv.committed]
      acknowledged := acknowledged_afterVisit hinv hsession hproper hposition hfirst
      positioned := fun after hafter =>
        positioned_afterVisit hinv hsession hproper hfirst hafter
      published := by
        intro letter hletter
        rcases List.mem_append.mp hletter with hletter | hletter
        · exact ⟨visit, List.mem_cons_self, by simpa using hletter⟩
        · obtain ⟨other, hother, hpublished⟩ := hinv.published letter hletter
          exact ⟨other, List.mem_cons_of_mem _ hother, hpublished⟩ }

end Visits

section Run

variable {rt : PythonRuntime} {config : KafkaConfig} {group : ConsumerGroup}

theorem consumption_start (hinitial : (consumption rt config).initial group) :
    ConsumptionInvariant rt group := by
  obtain ⟨hlog, hcommitted, hletters, hsession, hvisits⟩ := hinitial
  exact
    { ordered := fun source => by simp [hlog]
      logged := by simp [hvisits]
      routed := fun source => by simp [hlog]
      proper := by simp [hvisits]
      committed := fun source => by simp [hcommitted, hvisits, lastCommitted]
      acknowledged := fun source => by simp [ConsumerGroup.SettledBefore, hvisits]
      positioned := by simp [hsession]
      published := by simp [hletters] }

theorem consumption_step
    {after : ConsumerGroup} {action : GroupAction} (hinv : ConsumptionInvariant rt group)
    (hstep : (consumption rt config).step group action = some after) :
    ConsumptionInvariant rt after := by
  cases action with
  | append record =>
      simp only [consumption, ConsumerGroup.step, Option.ite_none_right_eq_some,
        Option.some.injEq] at hstep
      obtain ⟨hlast, rfl⟩ := hstep
      refine
        { hinv with
          ordered := fun source => ?_
          logged := fun visit hvisit => ?_
          routed := fun source other hother => ?_ }
      · by_cases hsource : source = record.source
        · subst hsource
          simp only [Function.update_self]
          refine List.pairwise_append.mpr ⟨hinv.ordered _, by simp, ?_⟩
          intro earlier hearlier later hlater
          rw [List.mem_singleton.mp hlater]
          exact hlast earlier hearlier
        · simp only [Function.update_of_ne hsource]
          exact hinv.ordered source
      · have hlogged := hinv.logged visit hvisit
        by_cases hsource : visit.record.source = record.source
        · simp only [hsource, Function.update_self]
          exact List.mem_append_left _ (hsource ▸ hlogged)
        · simp only [Function.update_of_ne hsource]
          exact hlogged
      · by_cases hsource : source = record.source
        · subst hsource
          simp only [Function.update_self, List.mem_append, List.mem_singleton] at hother
          rcases hother with hother | rfl
          · exact hinv.routed _ other hother
          · rfl
        · simp only [Function.update_of_ne hsource] at hother
          exact hinv.routed source other hother
  | connect policy =>
      simp only [consumption, ConsumerGroup.step] at hstep
      split at hstep
      · simp at hstep
      · obtain rfl := Option.some.inj hstep
        refine { hinv with positioned := fun session hsession source => ?_ }
        obtain rfl := Option.some.inj hsession
        exact ⟨le_rfl, hinv.acknowledged source⟩
  | deliver source environment =>
      simp only [consumption, ConsumerGroup.step, Option.bind_eq_bind,
        Option.bind_eq_some_iff, Option.pure_def, Option.some.injEq] at hstep
      obtain ⟨session, hsession, record, hnext, rfl⟩ := hstep
      have hsource : record.source = source :=
        hinv.routed source record (nextRecord_spec hinv.ordered hnext).1
      subst hsource
      exact hinv.deliver hsession (consumeRecord_proper rt config _ record environment)
        hnext
  | rebalance source =>
      simp only [consumption, ConsumerGroup.step, Option.bind_eq_bind,
        Option.bind_eq_some_iff, Option.pure_def, Option.some.injEq] at hstep
      obtain ⟨session, hsession, rfl⟩ := hstep
      refine { hinv with positioned := fun moved hmoved other => ?_ }
      obtain rfl := Option.some.inj hmoved
      by_cases hother : other = source
      · subst hother
        simp only [Function.update_self]
        exact ⟨le_rfl, hinv.acknowledged other⟩
      · simp only [Function.update_of_ne hother]
        exact hinv.positioned session hsession other
  | stop =>
      simp only [consumption, ConsumerGroup.step, Option.some.injEq] at hstep
      subst hstep
      exact { hinv with positioned := by simp }

theorem consumption_invariant (hreach : (consumption rt config).Reachable group) :
    ConsumptionInvariant rt group :=
  hreach.invariant (fun _ => consumption_start)
    (fun _ _ _ _ hinv hstep => consumption_step hinv hstep)

/-- Committed offsets only pass over records that were handled or losslessly
parked; durable failures are not parked; unrecoverable ones are neither parked
nor committed where parking is off; a park that fails commits nothing. -/
theorem consumption_at_least_once (rt : PythonRuntime) (config : KafkaConfig)
    (group : ConsumerGroup) (hreach : (consumption rt config).Reachable group) :
    (∀ source offset, group.committed source = some (offset + 1) →
        ∀ visit ∈ group.visits, visit.record.source = source →
          visit.record.offset ≤ offset → group.Settled rt visit.record) ∧
      (∀ source, group.committed source = lastCommitted source group.visits) ∧
      (∀ letter ∈ group.deadLetters, ∃ visit ∈ group.visits,
        visit.letter = some letter) ∧
      ∀ visit ∈ group.visits,
        (∀ error, visit.lastError = some error →
          (visit.policy.retry_forever = true ∨ error.isDurable = true) →
            error.isUnrecoverable = false → visit.letter = none) ∧
        (∀ error, visit.lastError = some error →
          visit.policy.park_unrecoverable = false → error.isUnrecoverable = true →
            visit.letter = none ∧ visit.committed = none) ∧
        ∀ parking, visit.handling.parking = some parking →
          parking.finish ≠ .acknowledged → visit.committed = none := by
  have hinv := consumption_invariant hreach
  have huncommitted : ∀ visit ∈ group.visits, visit.handling.finish ≠ .returned →
      visit.committed = none := by
    intro visit hvisit hfinish
    simp [Visit.committed, (hinv.proper visit hvisit).commit hfinish]
  have hlast : ∀ (visit : Visit) error, visit.lastError = some error →
      visit.handling.attempts.getLast? = some (.raised error) := by
    intro visit error herror
    unfold Visit.lastError at herror
    split at herror
    · rename_i found hfound
      rw [hfound, Option.some.inj herror]
    · simp at herror
  refine ⟨?_, hinv.committed, hinv.published, ?_⟩
  · intro source offset hcommitted visit hvisit hsource hle
    refine hinv.acknowledged source visit hvisit hsource ?_
    simp only [ConsumerGroup.resume, hcommitted, Option.getD_some]
    omega
  · intro visit hvisit
    have hproper := (hinv.proper visit hvisit).handling
    refine ⟨?_, ?_, ?_⟩
    · intro error herror hpolicy hrecoverable
      have hparking := hproper.durable error (hlast visit error herror) hpolicy
        hrecoverable
      simp [Visit.letter, hparking]
    · intro error herror hpolicy hunrecoverable
      obtain ⟨hparking, hfinish⟩ :=
        hproper.unrecoverable error (hlast visit error herror) hpolicy hunrecoverable
      exact ⟨by simp [Visit.letter, hparking], huncommitted visit hvisit hfinish⟩
    · intro parking hparking hfinish
      exact huncommitted visit hvisit (hproper.unparked parking hparking hfinish)

end Run

/-! ## A run -/

def loanTopic : Topic := ⟨py "outbox.event.loan", by decide⟩

def loanRecord (offset : ℕ) : ConsumerRecord :=
  { topic := loanTopic, partition := 0, offset := offset, key := none, value := none }

def emptyGroup : ConsumerGroup :=
  { log := fun _ => [], committed := fun _ => none, deadLetters := [], session := none,
    visits := [] }

/-- The handler returns for one record and fails durably for the next. -/
def sampleRun : List GroupAction :=
  let environment (handler : AttemptEnd) : VisitEnvironment :=
    { handler := fun _ => handler, sleepCancelled := fun _ => false,
      park := .acknowledged, commit := .acknowledged, lagCancelled := false }
  [.append (loanRecord 0), .append (loanRecord 1), .connect ⟨false, true⟩,
    .deliver (loanTopic, 0) (environment .returned),
    .deliver (loanTopic, 0) (environment (.raised (.durable (py "busy"))))]

theorem consumption_at_least_once_sample :
    ∃ group, (consumption asciiRuntime ⟨1⟩).execute emptyGroup sampleRun = some group ∧
      group.committed (loanTopic, 0) = some 1 ∧ group.visits.length = 2 ∧
      group.Settled asciiRuntime (loanRecord 0) := by
  have hstart : (consumption asciiRuntime ⟨1⟩).Reachable emptyGroup :=
    .start ⟨fun _ => rfl, fun _ => rfl, rfl, rfl, rfl⟩
  have hrun : (consumption asciiRuntime ⟨1⟩).execute emptyGroup sampleRun = some _ := rfl
  refine ⟨_, hrun, rfl, rfl, ?_⟩
  exact (consumption_at_least_once asciiRuntime ⟨1⟩ _ (hstart.execute hrun)).1
    (loanTopic, 0) 0 rfl _ (List.mem_cons_of_mem _ List.mem_cons_self) rfl le_rfl

end LibrarySystem
