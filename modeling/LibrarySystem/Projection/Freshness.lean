import LibrarySystem.Foundation.Machine
import LibrarySystem.Messaging.KafkaClient

/-!
# The freshness of the projection

A check reads the committed offset of every watched partition and then its end offset,
one partition at a time, while producers append and the projection group commits.  Its
answer is kept for a while, and any number of checks may overlap.
-/

namespace LibrarySystem

/-- What a check can see of Kafka, and the monotonic clock; `passed` is the highest offset
that the projection group has committed so far. -/
structure Moment where
  clock : ℚ
  appended : TopicPartition → ℕ
  committed : TopicPartition → Option ℕ
  passed : TopicPartition → ℕ
  metadata : Topic → Option (List ℕ)

namespace Moment

/-- Time passes, logs grow, and what was committed once stays committed. -/
structure Before (earlier later : Moment) : Prop where
  clock : earlier.clock ≤ later.clock
  appended : ∀ source, earlier.appended source ≤ later.appended source
  passed : ∀ source, earlier.passed source ≤ later.passed source

theorem Before.refl (moment : Moment) : moment.Before moment :=
  ⟨le_rfl, fun _ => le_rfl, fun _ => le_rfl⟩

theorem Before.trans {first second third : Moment} (hfirst : first.Before second)
    (hsecond : second.Before third) : first.Before third where
  clock := hfirst.clock.trans hsecond.clock
  appended source := (hfirst.appended source).trans (hsecond.appended source)
  passed source := (hfirst.passed source).trans (hsecond.passed source)

end Moment

structure FreshnessConfig where
  topics : List Topic
  cache_seconds : ℚ

/-- The partitions of the topics as the metadata lists them, `none` when a topic is
unknown. -/
def FreshnessConfig.watched (config : FreshnessConfig) (moment : Moment) :
    Option (List TopicPartition) := do
  let lists ← config.topics.mapM fun topic =>
    (moment.metadata topic).map fun ids => ids.map fun id => (topic, id)
  pure lists.flatten

/-- How far a check has come; an offset is `none` until it is read. -/
inductive CheckProgress
  | connecting
  | reading (partitions : List TopicPartition)
      (committed : TopicPartition → Option (Option ℕ)) (ends : TopicPartition → Option ℕ)

/-- A call of `is_fresh` that found no cached answer. -/
structure FreshnessCheck where
  asked : Moment
  progress : CheckProgress

/-- `end == 0 or partition in committed and committed[partition].offset >= end` -/
def caughtUp (committed : Option (Option ℕ)) (endOffset : Option ℕ) : Bool :=
  match endOffset with
  | none => false
  | some 0 => true
  | some endOffset =>
      match committed with
      | some (some offset) => endOffset ≤ offset
      | _ => false

inductive AnswerSource
  | cache
  | check (partitions : List TopicPartition)

/-- An answer of `is_fresh`, with the moments of the call and of the return. -/
structure FreshnessAnswer where
  asked : Moment
  given : Moment
  source : AnswerSource
  fresh : Bool

/-- `KafkaProjectionFreshness` and its surroundings; `answers` are those given so far. -/
structure FreshnessGate where
  moment : Moment
  cached_until : ℚ
  cached_fresh : Bool
  checks : ℕ → Option FreshnessCheck
  answers : List FreshnessAnswer

inductive FreshnessAction
  | append (source : TopicPartition)
  | commit (source : TopicPartition) (offset : Option ℕ)
  | refresh (metadata : Topic → Option (List ℕ))
  | elapse (seconds : ℚ)
  | call (id : ℕ)
  | list (id : ℕ)
  | readCommitted (id : ℕ) (source : TopicPartition)
  | readEnd (id : ℕ) (source : TopicPartition)
  | finish (id : ℕ)
  | fail (id : ℕ)
  | cancel (id : ℕ)

namespace FreshnessGate

def put (gate : FreshnessGate) (id : ℕ) (check : Option FreshnessCheck) : FreshnessGate :=
  { gate with checks := Function.update gate.checks id check }

/-- `_cache` and the return. -/
def conclude (config : FreshnessConfig) (gate : FreshnessGate) (id : ℕ) (asked : Moment)
    (partitions : List TopicPartition) (fresh : Bool) : FreshnessGate :=
  { gate with
    cached_fresh := fresh
    cached_until := asked.clock + config.cache_seconds
    checks := Function.update gate.checks id none
    answers := ⟨asked, gate.moment, .check partitions, fresh⟩ :: gate.answers }

/-- What the rest of the world does. -/
def moved (gate : FreshnessGate) (moment : Moment) : FreshnessGate :=
  { gate with moment := moment }

def step (config : FreshnessConfig) (gate : FreshnessGate) :
    FreshnessAction → Option FreshnessGate
  | .append source =>
      some (gate.moved { gate.moment with
        appended := Function.update gate.moment.appended source
          (gate.moment.appended source + 1) })
  | .commit source offset =>
      -- a broker may also forget an offset, and a group may go back
      some (gate.moved { gate.moment with
        committed := Function.update gate.moment.committed source offset
        passed := Function.update gate.moment.passed source
          (max (gate.moment.passed source) (offset.getD 0)) })
  | .refresh metadata => some (gate.moved { gate.moment with metadata := metadata })
  | .elapse seconds =>
      if 0 ≤ seconds then
        some (gate.moved { gate.moment with clock := gate.moment.clock + seconds })
      else none
  | .call id =>
      if (gate.checks id).isSome then none
      else if gate.moment.clock < gate.cached_until then
        some { gate with
          answers := ⟨gate.moment, gate.moment, .cache, gate.cached_fresh⟩ :: gate.answers }
      else some (gate.put id (some ⟨gate.moment, .connecting⟩))
  | .list id =>
      match gate.checks id with
      | some ⟨asked, .connecting⟩ =>
          match config.watched gate.moment with
          | none => some (gate.conclude config id asked [] false)
          | some partitions =>
              some (gate.put id
                (some ⟨asked, .reading partitions (fun _ => none) (fun _ => none)⟩))
      | _ => none
  | .readCommitted id source =>
      match gate.checks id with
      | some ⟨asked, .reading partitions committed ends⟩ =>
          if source ∈ partitions ∧ committed source = none then
            let read := Function.update committed source (some (gate.moment.committed source))
            some (gate.put id (some ⟨asked, .reading partitions read ends⟩))
          else none
      | _ => none
  | .readEnd id source =>
      match gate.checks id with
      | some ⟨asked, .reading partitions committed ends⟩ =>
          -- the committed offsets have all been awaited
          if source ∈ partitions ∧ ∀ other ∈ partitions, committed other ≠ none then
            let read := Function.update ends source (some (gate.moment.appended source))
            some (gate.put id (some ⟨asked, .reading partitions committed read⟩))
          else none
      | _ => none
  | .finish id =>
      match gate.checks id with
      | some ⟨asked, .reading partitions committed ends⟩ =>
          if ∀ source ∈ partitions, ends source ≠ none then
            some (gate.conclude config id asked partitions
              (partitions.all fun source => caughtUp (committed source) (ends source)))
          else none
      | _ => none
  | .fail id => (gate.checks id).map fun check => gate.conclude config id check.asked [] false
  | .cancel id => (gate.checks id).map fun _ => gate.put id none

end FreshnessGate

def freshnessMachine (config : FreshnessConfig) : Machine FreshnessGate FreshnessAction where
  initial gate :=
    (∀ source, gate.moment.committed source = none) ∧ gate.cached_fresh = false ∧
      (∀ id, gate.checks id = none) ∧ gate.answers = []
  step := FreshnessGate.step config

/-! ## The invariant -/

/-- Every record that was in the partitions at the first moment had its offset committed
by the second. -/
def Covers (partitions : List TopicPartition) (asked given : Moment) : Prop :=
  ∀ source ∈ partitions, ∀ offset < asked.appended source, offset < given.passed source

/-- The partitions are those that the metadata listed in between. -/
def FreshnessConfig.ListedBetween (config : FreshnessConfig) (asked given : Moment)
    (partitions : List TopicPartition) : Prop :=
  ∃ moment : Moment, asked.Before moment ∧ moment.Before given ∧
    config.watched moment = some partitions

/-- What a check has read is right whatever happens later: the offsets that were read
as committed have been, and the ends came after the call. -/
def FreshnessCheck.Sound (config : FreshnessConfig) (check : FreshnessCheck)
    (now : Moment) : Prop :=
  check.asked.Before now ∧
    ∀ partitions committed ends, check.progress = .reading partitions committed ends →
      config.ListedBetween check.asked now partitions ∧
        (∀ source offset, committed source = some (some offset) → offset ≤ now.passed source) ∧
        ∀ source count, ends source = some count → check.asked.appended source ≤ count

/-- A positive answer of a check that was not read from the cache. -/
structure FreshnessAnswer.Live (config : FreshnessConfig) (answer : FreshnessAnswer)
    (partitions : List TopicPartition) : Prop where
  source : answer.source = .check partitions
  fresh : answer.fresh = true
  before : answer.asked.Before answer.given
  listed : config.ListedBetween answer.asked answer.given partitions
  covers : Covers partitions answer.asked answer.given

structure FreshnessInvariant (config : FreshnessConfig) (gate : FreshnessGate) : Prop where
  committed : ∀ source offset, gate.moment.committed source = some offset →
    offset ≤ gate.moment.passed source
  checks : ∀ id check, gate.checks id = some check → check.Sound config gate.moment
  past : ∀ answer ∈ gate.answers, answer.given.Before gate.moment
  live : ∀ answer ∈ gate.answers, answer.fresh = true → ∀ partitions,
    answer.source = .check partitions → answer.Live config partitions
  cached : gate.cached_fresh = true → ∃ answer ∈ gate.answers, ∃ partitions,
    answer.Live config partitions ∧
      gate.cached_until = answer.asked.clock + config.cache_seconds
  cache : ∀ answer ∈ gate.answers, answer.fresh = true → answer.source = .cache →
    ∃ check ∈ gate.answers, ∃ partitions, check.Live config partitions ∧
      check.given.Before answer.asked ∧
      answer.asked.clock < check.asked.clock + config.cache_seconds

section Steps

variable {config : FreshnessConfig} {gate : FreshnessGate}

theorem FreshnessCheck.Sound.later {check : FreshnessCheck} {now later : Moment}
    (hsound : check.Sound config now) (hlater : now.Before later) :
    check.Sound config later := by
  obtain ⟨hasked, hreading⟩ := hsound
  refine ⟨hasked.trans hlater, fun partitions committed ends hprogress => ?_⟩
  obtain ⟨⟨moment, hafter, hbefore, hwatched⟩, hcommitted, hends⟩ :=
    hreading partitions committed ends hprogress
  exact ⟨⟨moment, hafter, hbefore.trans hlater, hwatched⟩,
    fun source offset hoffset => (hcommitted source offset hoffset).trans (hlater.passed source),
    hends⟩

/-- The rest of the world does not break what the gate knows. -/
theorem FreshnessInvariant.moved (hinv : FreshnessInvariant config gate) {later : Moment}
    (hlater : gate.moment.Before later)
    (hcommitted : ∀ source offset, later.committed source = some offset →
      offset ≤ later.passed source) :
    FreshnessInvariant config (gate.moved later) where
  committed := hcommitted
  checks id check hcheck := (hinv.checks id check hcheck).later hlater
  past answer hanswer := (hinv.past answer hanswer).trans hlater
  live := hinv.live
  cached := hinv.cached
  cache := hinv.cache

theorem FreshnessInvariant.put (hinv : FreshnessInvariant config gate) (id : ℕ)
    {entry : Option FreshnessCheck}
    (hentry : ∀ check, entry = some check → check.Sound config gate.moment) :
    FreshnessInvariant config (gate.put id entry) := by
  refine { hinv with checks := ?_ }
  intro other check hcheck
  change Function.update gate.checks id entry other = some check at hcheck
  by_cases hid : other = id
  · subst hid
    rw [Function.update_self] at hcheck
    exact hentry check hcheck
  · rw [Function.update_of_ne hid] at hcheck
    exact hinv.checks other check hcheck

/-- A positive answer of a check is live. -/
theorem FreshnessInvariant.conclude (hinv : FreshnessInvariant config gate) (id : ℕ)
    {asked : Moment} (hasked : asked.Before gate.moment) {partitions : List TopicPartition}
    {fresh : Bool}
    (hfresh : fresh = true → config.ListedBetween asked gate.moment partitions ∧
      Covers partitions asked gate.moment) :
    FreshnessInvariant config (gate.conclude config id asked partitions fresh) := by
  have hlive : fresh = true →
      FreshnessAnswer.Live config ⟨asked, gate.moment, .check partitions, fresh⟩ partitions :=
    fun htrue => ⟨rfl, htrue, hasked, (hfresh htrue).1, (hfresh htrue).2⟩
  constructor
  · exact hinv.committed
  · have hcleared : FreshnessInvariant config (gate.put id none) :=
      hinv.put id fun check hnone => by cases hnone
    exact hcleared.checks
  · intro answer hanswer
    rcases List.mem_cons.mp hanswer with rfl | hold
    · exact .refl _
    · exact hinv.past answer hold
  · intro answer hanswer htrue others hsource
    rcases List.mem_cons.mp hanswer with rfl | hold
    · cases hsource
      exact hlive htrue
    · exact hinv.live answer hold htrue others hsource
  · intro htrue
    exact ⟨_, List.mem_cons_self, partitions, hlive htrue, rfl⟩
  · intro answer hanswer htrue hsource
    rcases List.mem_cons.mp hanswer with rfl | hold
    · cases hsource
    · obtain ⟨check, hcheck, hrest⟩ := hinv.cache answer hold htrue hsource
      exact ⟨check, List.mem_cons_of_mem _ hcheck, hrest⟩

/-- An answer from the cache repeats that of the check it was kept from. -/
theorem FreshnessInvariant.answerCached (hinv : FreshnessInvariant config gate)
    (huntil : gate.moment.clock < gate.cached_until) :
    FreshnessInvariant config
      { gate with
        answers := ⟨gate.moment, gate.moment, .cache, gate.cached_fresh⟩ :: gate.answers } := by
  constructor
  · exact hinv.committed
  · exact hinv.checks
  · intro answer hanswer
    rcases List.mem_cons.mp hanswer with rfl | hold
    · exact .refl _
    · exact hinv.past answer hold
  · intro answer hanswer htrue partitions hsource
    rcases List.mem_cons.mp hanswer with rfl | hold
    · cases hsource
    · exact hinv.live answer hold htrue partitions hsource
  · intro htrue
    obtain ⟨check, hcheck, hrest⟩ := hinv.cached htrue
    exact ⟨check, List.mem_cons_of_mem _ hcheck, hrest⟩
  · intro answer hanswer htrue hsource
    rcases List.mem_cons.mp hanswer with rfl | hold
    · obtain ⟨check, hcheck, partitions, hlive, hkept⟩ := hinv.cached htrue
      rw [hkept] at huntil
      exact ⟨check, List.mem_cons_of_mem _ hcheck, partitions, hlive, hinv.past check hcheck,
        huntil⟩
    · obtain ⟨check, hcheck, hrest⟩ := hinv.cache answer hold htrue hsource
      exact ⟨check, List.mem_cons_of_mem _ hcheck, hrest⟩

/-- What is committed at least up to the end that was read covers the records that were
there before the call: the end was read later than the call began, and the committed
offset was committed by then. -/
theorem covers_of_caughtUp {asked now : Moment} {partitions : List TopicPartition}
    {committed : TopicPartition → Option (Option ℕ)} {ends : TopicPartition → Option ℕ}
    (hcommitted : ∀ source offset, committed source = some (some offset) →
      offset ≤ now.passed source)
    (hends : ∀ source count, ends source = some count → asked.appended source ≤ count)
    (hfresh : (partitions.all fun source => caughtUp (committed source) (ends source)) = true) :
    Covers partitions asked now := by
  intro source hsource offset hoffset
  have hcaught := List.all_eq_true.mp hfresh source hsource
  cases hend : ends source with
  | none =>
      rw [hend] at hcaught
      cases hcaught
  | some count =>
      have hcount := hends source count hend
      cases count with
      | zero => omega
      | succ count =>
          cases hread : committed source with
          | none =>
              rw [hend, hread] at hcaught
              cases hcaught
          | some stored =>
              cases stored with
              | none =>
                  rw [hend, hread] at hcaught
                  cases hcaught
              | some stored =>
                  have hstored := hcommitted source stored hread
                  rw [hend, hread] at hcaught
                  have hreached : count + 1 ≤ stored := of_decide_eq_true hcaught
                  omega

/-- Steps of the rest of the world. -/
theorem FreshnessInvariant.world (hinv : FreshnessInvariant config gate)
    {after : FreshnessGate} :
    (∀ source, FreshnessGate.step config gate (.append source) = some after →
      FreshnessInvariant config after) ∧
    (∀ source offset, FreshnessGate.step config gate (.commit source offset) = some after →
      FreshnessInvariant config after) ∧
    (∀ metadata, FreshnessGate.step config gate (.refresh metadata) = some after →
      FreshnessInvariant config after) ∧
    (∀ seconds, FreshnessGate.step config gate (.elapse seconds) = some after →
      FreshnessInvariant config after) := by
  refine ⟨?_, ?_, ?_, ?_⟩
  · rintro source ⟨⟩
    refine hinv.moved ⟨le_rfl, fun other => ?_, fun _ => le_rfl⟩ hinv.committed
    by_cases hother : other = source
    · subst hother
      simp
    · simp [hother]
  · rintro source offset ⟨⟩
    refine hinv.moved ⟨le_rfl, fun _ => le_rfl, fun other => ?_⟩ fun other stored hstored => ?_
    · by_cases hother : other = source
      · subst hother
        simp
      · simp [hother]
    · by_cases hother : other = source
      · subst hother
        simp only [Function.update_self] at hstored ⊢
        rw [hstored]
        exact le_max_right _ _
      · simp only [Function.update_of_ne hother] at hstored ⊢
        exact hinv.committed other stored hstored
  · rintro metadata ⟨⟩
    exact hinv.moved ⟨le_rfl, fun _ => le_rfl, fun _ => le_rfl⟩ hinv.committed
  · intro seconds hstep
    simp only [FreshnessGate.step] at hstep
    split at hstep
    · rename_i hseconds
      cases hstep
      exact hinv.moved ⟨le_add_of_nonneg_right hseconds, fun _ => le_rfl, fun _ => le_rfl⟩
        hinv.committed
    · cases hstep

/-- One step keeps the invariant. -/
theorem FreshnessInvariant.next (hinv : FreshnessInvariant config gate)
    (action : FreshnessAction) {after : FreshnessGate}
    (hstep : FreshnessGate.step config gate action = some after) :
    FreshnessInvariant config after := by
  cases action with
  | append source => exact hinv.world.1 source hstep
  | commit source offset => exact hinv.world.2.1 source offset hstep
  | refresh metadata => exact hinv.world.2.2.1 metadata hstep
  | elapse seconds => exact hinv.world.2.2.2 seconds hstep
  | call id =>
      simp only [FreshnessGate.step] at hstep
      split_ifs at hstep with hbusy huntil
      · cases hstep
        exact hinv.answerCached huntil
      · cases hstep
        refine hinv.put id fun check hcheck => ?_
        cases hcheck
        exact ⟨.refl _, fun _ _ _ hprogress => by cases hprogress⟩
  | list id =>
      simp only [FreshnessGate.step] at hstep
      split at hstep
      · rename_i asked hcheck
        have hasked := (hinv.checks id _ hcheck).1
        split at hstep
        · cases hstep
          exact hinv.conclude id hasked fun hfalse => by cases hfalse
        · rename_i partitions hwatched
          cases hstep
          refine hinv.put id fun check hnew => ?_
          cases hnew
          refine ⟨hasked, fun others committed ends hprogress => ?_⟩
          cases hprogress
          exact ⟨⟨gate.moment, hasked, .refl _, hwatched⟩, fun _ _ hnone => (by cases hnone),
            fun _ _ hnone => (by cases hnone)⟩
      · cases hstep
  | readCommitted id source =>
      simp only [FreshnessGate.step] at hstep
      split at hstep
      · rename_i asked partitions committed ends hcheck
        obtain ⟨hasked, hreading⟩ := hinv.checks id _ hcheck
        obtain ⟨hlisted, hcommitted, hends⟩ := hreading partitions committed ends rfl
        split_ifs at hstep
        cases hstep
        refine hinv.put id fun check hnew => ?_
        cases hnew
        refine ⟨hasked, fun others read ends hprogress => ?_⟩
        cases hprogress
        refine ⟨hlisted, fun other offset hread => ?_, hends⟩
        by_cases hother : other = source
        · subst hother
          rw [Function.update_self] at hread
          exact hinv.committed other offset (Option.some.inj hread)
        · rw [Function.update_of_ne hother] at hread
          exact hcommitted other offset hread
      · cases hstep
  | readEnd id source =>
      simp only [FreshnessGate.step] at hstep
      split at hstep
      · rename_i asked partitions committed ends hcheck
        obtain ⟨hasked, hreading⟩ := hinv.checks id _ hcheck
        obtain ⟨hlisted, hcommitted, hends⟩ := hreading partitions committed ends rfl
        split_ifs at hstep
        cases hstep
        refine hinv.put id fun check hnew => ?_
        cases hnew
        refine ⟨hasked, fun others committed read hprogress => ?_⟩
        cases hprogress
        refine ⟨hlisted, hcommitted, fun other count hread => ?_⟩
        by_cases hother : other = source
        · subst hother
          rw [Function.update_self] at hread
          rw [← Option.some.inj hread]
          exact hasked.appended other
        · rw [Function.update_of_ne hother] at hread
          exact hends other count hread
      · cases hstep
  | finish id =>
      simp only [FreshnessGate.step] at hstep
      split at hstep
      · rename_i asked partitions committed ends hcheck
        obtain ⟨hasked, hreading⟩ := hinv.checks id _ hcheck
        obtain ⟨hlisted, hcommitted, hends⟩ := hreading partitions committed ends rfl
        split_ifs at hstep
        cases hstep
        exact hinv.conclude id hasked fun hfresh =>
          ⟨hlisted, covers_of_caughtUp hcommitted hends hfresh⟩
      · cases hstep
  | fail id =>
      obtain ⟨check, hcheck, rfl⟩ := Option.map_eq_some_iff.mp hstep
      exact hinv.conclude id (hinv.checks id check hcheck).1 fun hfalse => by cases hfalse
  | cancel id =>
      obtain ⟨check, hcheck, rfl⟩ := Option.map_eq_some_iff.mp hstep
      exact hinv.put id fun check hnone => by cases hnone

end Steps

theorem reachable_freshnessInvariant {config : FreshnessConfig} {gate : FreshnessGate}
    (hreach : (freshnessMachine config).Reachable gate) : FreshnessInvariant config gate := by
  refine Machine.Reachable.invariant ?_ ?_ hreach
  · rintro start ⟨hcommitted, hfresh, hchecks, hanswers⟩
    constructor
    · intro source offset hoffset
      rw [hcommitted source] at hoffset
      cases hoffset
    · intro id check hcheck
      rw [hchecks id] at hcheck
      cases hcheck
    · simp [hanswers]
    · simp [hanswers]
    · simp [hfresh]
    · simp [hanswers]
  · intro before action after _ hinv hstep
    exact hinv.next action hstep

/-! ## Soundness -/

/-- A positive answer of a live check means that every record appended to a watched
partition before the call had its offset committed before the return.  A positive answer
from the cache repeats that of a live check that began at most `cache_seconds` before. -/
theorem freshness_sound (config : FreshnessConfig) (gate : FreshnessGate)
    (hreach : (freshnessMachine config).Reachable gate) (answer : FreshnessAnswer)
    (hanswer : answer ∈ gate.answers) (hfresh : answer.fresh = true) :
    (∀ partitions, answer.source = .check partitions →
      config.ListedBetween answer.asked answer.given partitions ∧
        ∀ source ∈ partitions, ∀ offset < answer.asked.appended source,
          offset < answer.given.passed source) ∧
    (answer.source = .cache → ∃ check ∈ gate.answers, ∃ partitions,
      check.source = .check partitions ∧ check.fresh = true ∧
        check.given.Before answer.asked ∧
        answer.asked.clock - check.asked.clock ≤ config.cache_seconds ∧
        config.ListedBetween check.asked check.given partitions ∧
        ∀ source ∈ partitions, ∀ offset < check.asked.appended source,
          offset < check.given.passed source) := by
  have hinv := reachable_freshnessInvariant hreach
  constructor
  · intro partitions hsource
    have hlive := hinv.live answer hanswer hfresh partitions hsource
    exact ⟨hlive.listed, hlive.covers⟩
  · intro hsource
    obtain ⟨check, hcheck, partitions, hlive, hbefore, huntil⟩ :=
      hinv.cache answer hanswer hfresh hsource
    refine ⟨check, hcheck, partitions, hlive.source, hlive.fresh, hbefore, ?_, hlive.listed,
      hlive.covers⟩
    linarith

def booksTopic : Topic := ⟨py "library.public.books", by decide⟩

/-- One partition with a record that the group has committed, and two calls within a
second. -/
def sampleFreshnessActions : List FreshnessAction :=
  [.append (booksTopic, 0), .commit (booksTopic, 0) (some 1), .call 0, .list 0,
    .readCommitted 0 (booksTopic, 0), .readEnd 0 (booksTopic, 0), .finish 0,
    .elapse (1 / 2), .call 1]

def FreshnessAnswer.isCached (answer : FreshnessAnswer) : Bool :=
  match answer.source with
  | .cache => true
  | .check _ => false

theorem freshness_sound_sample :
    ∃ (gate : FreshnessGate) (answer : FreshnessAnswer),
      answer ∈ gate.answers ∧ answer.source = .cache ∧ answer.fresh = true ∧
        ∃ check ∈ gate.answers, ∃ partitions, check.source = .check partitions ∧
          ∀ source ∈ partitions, ∀ offset < check.asked.appended source,
            offset < check.given.passed source := by
  let config : FreshnessConfig := ⟨[booksTopic], 1⟩
  let start : FreshnessGate :=
    ⟨⟨0, fun _ => 0, fun _ => none, fun _ => 0, fun _ => some [0]⟩, 0, false,
      fun _ => none, []⟩
  have hresult : ((freshnessMachine config).execute start sampleFreshnessActions).map
      (fun gate => gate.answers.map fun answer => (answer.isCached, answer.fresh)) =
        some [(true, true), (false, true)] := by decide +kernel
  obtain ⟨gate, hrun, hanswers⟩ := Option.map_eq_some_iff.mp hresult
  have hstart : (freshnessMachine config).Reachable start :=
    .start ⟨fun _ => rfl, rfl, fun _ => rfl, rfl⟩
  obtain ⟨answer, rest, hcons⟩ :=
    List.exists_cons_of_ne_nil (l := gate.answers) (by rintro hnil; simp [hnil] at hanswers)
  have hmem : answer ∈ gate.answers := by simp [hcons]
  simp only [hcons, List.map_cons, List.cons.injEq, Prod.mk.injEq] at hanswers
  have hsource : answer.source = .cache := by
    cases hkind : answer.source with
    | cache => rfl
    | check partitions => simp [FreshnessAnswer.isCached, hkind] at hanswers
  obtain ⟨-, hcache⟩ :=
    freshness_sound config gate (hstart.execute hrun) answer hmem hanswers.1.2
  obtain ⟨check, hcheck, partitions, hpartitions, -, -, -, -, hcovers⟩ := hcache hsource
  exact ⟨gate, answer, hmem, hsource, hanswers.1.2, check, hcheck, partitions, hpartitions,
    hcovers⟩

end LibrarySystem
