import LibrarySystem.Caching.CacheAdapter

/-!
# The fence of the cache

A generation that has been reached stays reached at its time, and an entry stored under
it was loaded afterwards.  A read that asks for the generation first can therefore not
get a value older than the last advance before it, wherever writes, advances and late
stores fall between its awaits, as long as Redis keeps its counters.  A counter that is lost
starts again at 0, and what was stored under an old generation can be read again.

A process that could not advance the generation owes an advance.  It reads past Redis
until its flag is cleared, so the guarantee extends to failed invalidations in the runs
in which no flag is cleared by an advance older than what is owed.
-/

namespace LibrarySystem

namespace CacheAdapter

open Coroutine (Meets)

variable {P N K T : Type}

/-- What is later has at least the same generations, reached at the same times. -/
instance : Preorder (Redis N K T) where
  le first second := ∀ namespace_, first.generation namespace_ ≤ second.generation namespace_ ∧
    ∀ generation ≤ first.generation namespace_,
      second.reached namespace_ generation = first.reached namespace_ generation
  le_refl redis _ := ⟨le_refl _, fun _ _ => rfl⟩
  le_trans first second third hfirst hsecond namespace_ := by
    refine ⟨(hfirst namespace_).1.trans (hsecond namespace_).1, fun generation hle => ?_⟩
    rw [(hsecond namespace_).2 generation (hle.trans (hfirst namespace_).1),
      (hfirst namespace_).2 generation hle]

instance : Preorder (Memory N) where
  le first second := ∀ namespace_, first.owed namespace_ ≤ second.owed namespace_
  le_refl _ _ := le_refl _
  le_trans _ _ _ hfirst hsecond namespace_ := (hfirst namespace_).trans (hsecond namespace_)

/-- When the generation was last advanced. -/
def Redis.advanced (redis : Redis N K T) (namespace_ : N) : ℕ :=
  redis.reached namespace_ (redis.generation namespace_)

/-- The generation exists, and the value was loaded after it was reached. -/
def Redis.Holds (redis : Redis N K T) (namespaceOf : K → N) (key : K) (generation : ℕ)
    (value : Loaded T) : Prop :=
  generation ≤ redis.generation (namespaceOf key) ∧
    redis.reached (namespaceOf key) generation ≤ value.began

theorem Redis.Holds.later {namespaceOf : K → N} {first second : Redis N K T} {key : K}
    {generation : ℕ} {value : Loaded T} (hholds : first.Holds namespaceOf key generation value)
    (hle : first ≤ second) : second.Holds namespaceOf key generation value := by
  obtain ⟨hgeneration, hreached⟩ := hholds
  refine ⟨hgeneration.trans (hle _).1, ?_⟩
  rw [(hle _).2 generation hgeneration]
  exact hreached

structure Redis.Sound (namespaceOf : K → N) (now : ℕ) (redis : Redis N K T) : Prop where
  ordered : ∀ namespace_ first second, first ≤ second →
    second ≤ redis.generation namespace_ →
      redis.reached namespace_ first ≤ redis.reached namespace_ second
  past : ∀ namespace_, redis.advanced namespace_ ≤ now
  entries : ∀ key generation value, redis.entries key generation = some value →
    redis.Holds namespaceOf key generation value
  late : ∀ entry ∈ redis.late, redis.Holds namespaceOf entry.1 entry.2.1 entry.2.2

theorem Redis.Sound.reached_le {namespaceOf : K → N} {now : ℕ} {redis : Redis N K T}
    (hredis : redis.Sound namespaceOf now) {namespace_ : N} {generation : ℕ}
    (hle : generation ≤ redis.generation namespace_) :
    redis.reached namespace_ generation ≤ now :=
  (hredis.ordered namespace_ generation _ hle (le_refl _)).trans (hredis.past namespace_)

theorem Redis.advanced_mono {namespaceOf : K → N} {now : ℕ} {first second : Redis N K T}
    (hle : first ≤ second) (hsecond : second.Sound namespaceOf now) (namespace_ : N) :
    first.advanced namespace_ ≤ second.advanced namespace_ := by
  calc first.advanced namespace_
      = second.reached namespace_ (first.generation namespace_) :=
        ((hle namespace_).2 _ (le_refl _)).symm
    _ ≤ second.advanced namespace_ :=
        hsecond.ordered namespace_ _ _ (hle namespace_).1 (le_refl _)

/-! ## The logic -/

section FenceLogic

variable (namespaceOf : K → N) (careful : Prop)

/-- Without a flag nothing is owed, in a careful run. -/
structure Sound (moment : Instant (Memory N) (Redis N K T)) : Prop where
  redis : moment.shared.Sound namespaceOf moment.now
  owed : ∀ namespace_, moment.memory.owed namespace_ ≤ moment.now
  covered : careful → ∀ namespace_, moment.memory.unsafe_namespaces namespace_ = false →
    moment.memory.owed namespace_ ≤ moment.shared.advanced namespace_

def Issue (moment : Instant (Memory N) (Redis N K T)) : Command N K T → Prop
  | .set key generation value => moment.shared.Holds namespaceOf key generation value
  | _ => True

def Answer (moment executed : Instant (Memory N) (Redis N K T)) :
    (command : Command N K T) → Reply command → Prop
  | .getNamespaceGeneration namespace_, reply => ∀ generation, reply = some generation →
      moment.shared.generation namespace_ ≤ generation ∧
        generation ≤ executed.shared.generation namespace_
  | .bumpNamespaceGeneration namespace_, reply => reply ≠ none →
      moment.now ≤ executed.shared.advanced namespace_
  | .get key generation, reply => ∀ value, reply = some value →
      executed.shared.Holds namespaceOf key generation value
  | .factory, reply => moment.now ≤ reply.began
  | _, _ => True

/-- A flag is cleared by an advance that covers what is owed. -/
def Deliver (moment : Instant (Memory N) (Redis N K T)) :
    (command : Command N K T) → Reply command → Prop
  | .bumpNamespaceGeneration namespace_, reply => careful → reply ≠ none →
      moment.memory.owed namespace_ ≤ moment.shared.advanced namespace_
  | _, _ => True

def fenceLogic : Coroutine.Logic (Memory N) (Redis N K T) (Command N K T) Reply where
  Sound := Sound namespaceOf careful
  Issue := Issue namespaceOf
  Answer := Answer namespaceOf
  Deliver := Deliver careful

/-- What each call returns with. -/
def Post : Request P N K → Instant (Memory N) (Redis N K T) →
    Instant (Memory N) (Redis N K T) → Result T → Prop
  | .getOrSet _ key _, start, _, .loaded value =>
      start.shared.Sound namespaceOf start.now ∧
        start.shared.advanced (namespaceOf key) ≤ value.began ∧
          (careful → start.memory.owed (namespaceOf key) ≤ value.began)
  | .invalidateAll _ namespace_, start, stop, .fenced success
  | .invalidateEntity _ namespace_ _, start, stop, .fenced success =>
      if success then start.now ≤ stop.shared.advanced namespace_
      else start.now ≤ stop.memory.owed namespace_
  | _, _, _, _ => True

end FenceLogic

/-! ## Reads -/

section Reads

variable {namespaceOf : K → N} {careful : Prop} {began floor : ℕ}
  {moment : Instant (Memory N) (Redis N K T)}

/-- The generation exists and was reached late enough. -/
def Above (moment : Instant (Memory N) (Redis N K T)) (namespace_ : N) (floor generation : ℕ) :
    Prop :=
  generation ≤ moment.shared.generation namespace_ ∧
    floor ≤ moment.shared.reached namespace_ generation

theorem Above.later {later : Instant (Memory N) (Redis N K T)} {namespace_ : N}
    {generation : ℕ} (habove : Above moment namespace_ floor generation)
    (hle : moment ≤ later) : Above later namespace_ floor generation := by
  obtain ⟨hgeneration, hfloor⟩ := habove
  refine ⟨hgeneration.trans (hle.2.1 _).1, ?_⟩
  rw [(hle.2.1 _).2 generation hgeneration]
  exact hfloor

/-- A read ends with a value loaded late enough. -/
def Recent (namespaceOf : K → N) (careful : Prop) (floor : ℕ)
    (stop : Instant (Memory N) (Redis N K T)) (value : Loaded T) : Prop :=
  Sound namespaceOf careful stop ∧ floor ≤ value.began

variable {α : Type} {post : Instant (Memory N) (Redis N K T) → α → Prop}

theorem generation_meets {namespace_ : N} {next : Option ℕ → Task N K T α}
    (hsound : Sound namespaceOf careful moment)
    (hfloor : floor ≤ moment.shared.advanced namespace_)
    (hnone : ∀ later, moment ≤ later → Sound namespaceOf careful later →
      (next none).Meets (fenceLogic namespaceOf careful) began post later)
    (hsome : ∀ later generation, moment ≤ later → Sound namespaceOf careful later →
      Above later namespace_ floor generation →
        (next (some generation)).Meets (fenceLogic namespaceOf careful) began post later) :
    (await (.getNamespaceGeneration namespace_) >>= next).Meets
      (fenceLogic namespaceOf careful) began post moment := by
  refine ⟨hsound, trivial, fun executed later reply hexecuted hlater hanswer hthen _ => ?_⟩
  have hle := hexecuted.trans hlater
  cases reply with
  | none => exact hnone later hle hthen
  | some generation =>
      obtain ⟨hfrom, hto⟩ := hanswer generation rfl
      have hbound := hto.trans (hlater.2.1 namespace_).1
      refine hsome later generation hle hthen ⟨hbound, ?_⟩
      calc floor
          ≤ moment.shared.advanced namespace_ := hfloor
        _ = later.shared.reached namespace_ (moment.shared.generation namespace_) :=
            ((hle.2.1 namespace_).2 _ (le_refl _)).symm
        _ ≤ later.shared.reached namespace_ generation :=
            hthen.redis.ordered namespace_ _ _ hfrom hbound

theorem get_meets {key : K} {generation : ℕ} {next : Option (Loaded T) → Task N K T α}
    (hsound : Sound namespaceOf careful moment)
    (habove : Above moment (namespaceOf key) floor generation)
    (hnone : ∀ later, moment ≤ later → Sound namespaceOf careful later →
      (next none).Meets (fenceLogic namespaceOf careful) began post later)
    (hsome : ∀ later value, moment ≤ later → Sound namespaceOf careful later →
      floor ≤ value.began →
        (next (some value)).Meets (fenceLogic namespaceOf careful) began post later) :
    (await (.get key generation) >>= next).Meets (fenceLogic namespaceOf careful) began post
      moment := by
  refine ⟨hsound, trivial, fun executed later reply hexecuted hlater hanswer hthen _ => ?_⟩
  have hle := hexecuted.trans hlater
  cases reply with
  | none => exact hnone later hle hthen
  | some value =>
      have hheld := (hanswer value rfl).2
      exact hsome later value hle hthen ((habove.later hexecuted).2.trans hheld)

theorem factory_meets {next : Loaded T → Task N K T α}
    (hsound : Sound namespaceOf careful moment)
    (hnext : ∀ later value, moment ≤ later → Sound namespaceOf careful later →
      moment.now ≤ value.began →
        (next value).Meets (fenceLogic namespaceOf careful) began post later) :
    (await .factory >>= next).Meets (fenceLogic namespaceOf careful) began post moment :=
  ⟨hsound, trivial, fun _ later value hexecuted hlater hanswer hthen _ =>
    hnext later value (hexecuted.trans hlater) hthen hanswer⟩

/-- The commands whose answer says nothing about the generation. -/
theorem await_meets {command : Command N K T} {next : Reply command → Task N K T α}
    (hsound : Sound namespaceOf careful moment) (hissue : Issue namespaceOf moment command)
    (hnext : ∀ later reply, moment ≤ later → Sound namespaceOf careful later →
      (next reply).Meets (fenceLogic namespaceOf careful) began post later) :
    (await command >>= next).Meets (fenceLogic namespaceOf careful) began post moment :=
  ⟨hsound, hissue, fun _ later reply hexecuted hlater _ hthen _ =>
    hnext later reply (hexecuted.trans hlater) hthen⟩

theorem factory_recent (hsound : Sound namespaceOf careful moment) (hfloor : floor ≤ moment.now) :
    (await .factory).Meets (fenceLogic namespaceOf careful) began
      (Recent (T := T) namespaceOf careful floor) moment :=
  factory_meets hsound fun _ _ _ hthen hbegan => ⟨hthen, hfloor.trans hbegan⟩

theorem store_recent {key : K} {generation : ℕ} {result : Loaded T}
    (hsound : Sound namespaceOf careful moment)
    (hholds : moment.shared.Holds namespaceOf key generation result)
    (hfloor : floor ≤ result.began) :
    (store key generation result).Meets (fenceLogic namespaceOf careful) began
      (Recent namespaceOf careful floor) moment := by
  unfold store
  split
  · exact await_meets hsound hholds fun later _ _ hthen => ⟨hthen, hfloor⟩
  · exact ⟨hsound, hfloor⟩

/-- Whichever generation the result is stored under was reached before it was loaded. -/
theorem load_recent {key : K} {generation : ℕ} (hsound : Sound namespaceOf careful moment)
    (habove : Above moment (namespaceOf key) floor generation) :
    (load (namespaceOf key) key generation).Meets (fenceLogic namespaceOf careful) began
      (Recent (T := T) namespaceOf careful floor) moment := by
  have hnow := hsound.redis.reached_le habove.1
  have hfloor : floor ≤ moment.now := habove.2.trans hnow
  refine factory_meets hsound fun loaded result hloaded hthen hbegan => ?_
  have hholds : moment.shared.Holds namespaceOf key generation result :=
    ⟨habove.1, hnow.trans hbegan⟩
  refine generation_meets hthen (le_refl _) ?_ ?_
  · intro later _ hlast
    exact ⟨hlast, hfloor.trans hbegan⟩
  · intro later current hlater hlast hcurrent
    dsimp only
    split
    · -- a second run of the factory, after the new generation was read
      refine factory_meets hlast fun last again hle hend hagain => ?_
      have hreached := hlast.redis.reached_le hcurrent.1
      refine store_recent hend ?_ ?_
      · exact Redis.Holds.later ⟨hcurrent.1, hreached.trans hagain⟩ hle.2.1
      · exact hfloor.trans ((hloaded.trans hlater).1.trans hagain)
    · exact store_recent hlast (hholds.later (hloaded.trans hlater).2.1) (hfloor.trans hbegan)

theorem loadUnder_recent {key : K} {generation : ℕ} {lease : Lease}
    (hsound : Sound namespaceOf careful moment)
    (habove : Above moment (namespaceOf key) floor generation) :
    (loadUnder (namespaceOf key) key generation lease).Meets (fenceLogic namespaceOf careful)
      began (Recent (T := T) namespaceOf careful floor) moment := by
  refine (load_recent hsound habove).bind fun later value _ hvalue => ?_
  cases lease with
  | token token => exact await_meets hvalue.1 trivial fun last _ _ hthen => ⟨hthen, hvalue.2⟩
  | unavailable => exact hvalue
  | contended => exact hvalue

theorem waitForPeer_recent {key : K} {generation : ℕ} (polls : ℕ)
    (hsound : Sound namespaceOf careful moment)
    (habove : Above moment (namespaceOf key) floor generation) :
    (waitForPeer key generation polls).Meets (fenceLogic namespaceOf careful) began
      (fun stop found => Sound namespaceOf careful stop ∧
        ∀ cached : Loaded T, found = some cached → floor ≤ cached.began) moment := by
  induction polls generalizing moment with
  | zero => exact ⟨hsound, fun _ hfound => by cases hfound⟩
  | succ polls ih =>
      refine await_meets hsound trivial fun slept _ hslept hawake => ?_
      refine get_meets hawake (habove.later hslept) ?_ ?_
      · intro later hlater hthen
        exact ih hthen ((habove.later hslept).later hlater)
      · intro later value _ hthen hvalue
        exact ⟨hthen, fun cached hfound => by cases hfound; exact hvalue⟩

theorem inFlight_recent {key : K} (polls : ℕ) (hsound : Sound namespaceOf careful moment)
    (hfloor : floor ≤ moment.shared.advanced (namespaceOf key)) :
    (inFlight (namespaceOf key) key polls).Meets (fenceLogic namespaceOf careful) began
      (Recent (T := T) namespaceOf careful floor) moment := by
  have hnow := hfloor.trans (hsound.redis.past _)
  refine generation_meets hsound hfloor ?_ ?_
  · intro later hlater hthen
    exact factory_recent hthen (hnow.trans hlater.1)
  · intro read generation _ hthen habove
    refine get_meets hthen habove ?_ fun later value _ hlast hvalue => ⟨hlast, hvalue⟩
    intro missed hmissed hstill
    refine await_meets hstill trivial fun asked lease hasked hsince => ?_
    have hasked' := (habove.later hmissed).later hasked
    cases lease with
    | unavailable => exact loadUnder_recent hsince hasked'
    | token token => exact loadUnder_recent hsince hasked'
    | contended =>
        refine (waitForPeer_recent polls hsince hasked').bind ?_
        intro waited found hwaited hfound
        cases found with
        | some cached => exact ⟨hfound.1, hfound.2 cached rfl⟩
        | none =>
            refine await_meets hfound.1 trivial fun again lease hagain hlast => ?_
            exact loadUnder_recent hlast ((hasked'.later hwaited).later hagain)

/-- A read past the flag is as recent as the last advance. -/
theorem readThrough_recent (key : K) (polls : ℕ) (hsound : Sound namespaceOf careful moment)
    (hfloor : floor ≤ moment.shared.advanced (namespaceOf key)) :
    (readThrough (namespaceOf key) key polls).Meets (fenceLogic namespaceOf careful) began
      (Recent (T := T) namespaceOf careful floor) moment := by
  have hnow := hfloor.trans (hsound.redis.past _)
  refine generation_meets hsound hfloor ?_ ?_
  · intro later hlater hthen
    exact factory_recent hthen (hnow.trans hlater.1)
  · intro read generation hread hthen habove
    refine get_meets hthen habove ?_ fun later value _ hlast hvalue => ⟨hlast, hvalue⟩
    intro missed hmissed hstill
    refine ⟨hstill, fun entered hentered hinside => ?_⟩
    have hle := (hread.trans hmissed).trans hentered
    have hadvanced := hfloor.trans
      (Redis.advanced_mono hle.2.1 hinside.redis (namespaceOf key))
    exact (inFlight_recent polls hinside hadvanced).bind fun _ _ _ hvalue => hvalue

end Reads

/-! ## The flag -/

section Flag

variable [DecidableEq N] {namespaceOf : K → N} {careful : Prop} {began floor : ℕ}
  {moment : Instant (Memory N) (Redis N K T)} {namespace_ : N}

theorem le_add : moment ≤ moment.remember (add namespace_ began) := by
  refine ⟨le_refl _, le_refl _, fun other => ?_⟩
  by_cases hother : other = namespace_
  · subst hother
    simp [add]
  · simp [add, Function.update_of_ne hother]

omit [DecidableEq N] in
/-- What is noted without a change of flags and debts. -/
theorem Sound.remember (hsound : Sound namespaceOf careful moment)
    {effect : Memory N → Memory N}
    (hflags : (effect moment.memory).unsafe_namespaces = moment.memory.unsafe_namespaces)
    (howed : (effect moment.memory).owed = moment.memory.owed) :
    moment ≤ moment.remember effect ∧ Sound namespaceOf careful (moment.remember effect) := by
  refine ⟨⟨le_refl _, le_refl _, fun other => ?_⟩, hsound.redis, ?_, ?_⟩
  · simp [howed]
  · simpa [howed] using hsound.owed
  · simpa [howed, hflags] using hsound.covered

theorem Sound.startRecovery (hsound : Sound namespaceOf careful moment) :
    moment ≤ moment.remember (startRecovery namespace_ began) ∧
      Sound namespaceOf careful (moment.remember (startRecovery namespace_ began)) := by
  apply hsound.remember
  · unfold CacheAdapter.startRecovery
    split <;> rfl
  · unfold CacheAdapter.startRecovery
    split <;> rfl

theorem Sound.discard (hsound : Sound namespaceOf careful moment)
    (hcovered : careful →
      moment.memory.owed namespace_ ≤ moment.shared.advanced namespace_) :
    Sound namespaceOf careful (moment.remember (discard namespace_ began)) where
  redis := hsound.redis
  owed := hsound.owed
  covered hcareful other hflag := by
    by_cases hother : other = namespace_
    · subst hother
      exact hcovered hcareful
    · refine hsound.covered hcareful other ?_
      simpa [CacheAdapter.discard, Function.update_of_ne hother] using hflag

theorem Sound.add (hsound : Sound namespaceOf careful moment) (hbegan : began ≤ moment.now) :
    Sound namespaceOf careful (moment.remember (add namespace_ began)) where
  redis := hsound.redis
  owed other := by
    by_cases hother : other = namespace_
    · subst hother
      simpa [CacheAdapter.add] using ⟨hsound.owed other, hbegan⟩
    · simpa [CacheAdapter.add, Function.update_of_ne hother] using hsound.owed other
  covered hcareful other hflag := by
    by_cases hother : other = namespace_
    · subst hother
      simp [CacheAdapter.add] at hflag
    · have hcovered := hsound.covered hcareful other (by
        simpa [CacheAdapter.add, Function.update_of_ne hother] using hflag)
      simpa [CacheAdapter.add, Function.update_of_ne hother] using hcovered

/-- A recovery that succeeds leaves nothing owed. -/
theorem recoverNamespaceOnce_meets (hsound : Sound namespaceOf careful moment)
    (hfloor : floor ≤ moment.memory.owed namespace_) :
    (recoverNamespaceOnce namespace_).Meets (fenceLogic namespaceOf careful) began
      (fun stop recovered => Sound namespaceOf careful stop ∧
        (recovered = true → careful → floor ≤ stop.shared.advanced namespace_))
      (moment : Instant (Memory N) (Redis N K T)) := by
  have hcleared : ∀ later : Instant (Memory N) (Redis N K T), moment ≤ later →
      Sound namespaceOf careful later → later.memory.unsafe_namespaces namespace_ = false →
        careful → floor ≤ later.shared.advanced namespace_ := by
    intro later hle hthen hflag hcareful
    exact (hfloor.trans (hle.2.2 namespace_)).trans (hthen.covered hcareful namespace_ hflag)
  change Meets _ _ _ _ (if _ then _ else _)
  split
  · rename_i hflag
    exact ⟨hsound, fun _ => hcleared moment (le_refl _) hsound (by simpa using hflag)⟩
  · refine ⟨hsound, fun inside hinside hthen => ?_⟩
    change Meets _ _ _ _ (if _ then _ else _)
    split
    · rename_i hflag
      exact ⟨hthen, fun _ => hcleared inside hinside hthen (by simpa using hflag)⟩
    · refine ⟨hthen, trivial,
        fun executed later reply hexecuted hlater hanswer hlast hdeliver => ?_⟩
      cases reply with
      | none => exact ⟨hlast, fun h => by cases h⟩
      | some generation =>
          have hcovered : careful →
              later.memory.owed namespace_ ≤ later.shared.advanced namespace_ :=
            fun hcareful => hdeliver hcareful (by simp)
          have howed := hfloor.trans (((hinside.trans hexecuted).trans hlater).2.2 namespace_)
          exact ⟨⟨le_refl _, le_refl _, fun _ => le_refl _⟩, hlast.discard hcovered,
            fun _ hcareful => howed.trans (hcovered hcareful)⟩

theorem recoverNamespace_meets (rounds : ℕ) (hsound : Sound namespaceOf careful moment) :
    (recoverNamespace namespace_ rounds).Meets (fenceLogic namespaceOf careful) began
      (fun stop _ => Sound namespaceOf careful stop)
      (moment : Instant (Memory N) (Redis N K T)) := by
  induction rounds generalizing moment with
  | zero => exact hsound
  | succ rounds ih =>
      change Meets _ _ _ _ (if _ then _ else _)
      split
      · exact hsound.remember rfl rfl
      · refine await_meets hsound trivial fun slept _ _ hawake => ?_
        refine (recoverNamespaceOnce_meets hawake (Nat.zero_le _)).bind ?_
        intro tried recovered _ hrecovered
        split
        · exact hrecovered.1.remember rfl rfl
        · exact ih hrecovered.1

theorem advanceGeneration_meets (hsound : Sound namespaceOf careful moment)
    (hbegan : began ≤ moment.now) :
    (advanceGeneration namespace_).Meets (fenceLogic namespaceOf careful) began
      (fun stop fenced => Sound namespaceOf careful stop ∧
        if fenced then began ≤ stop.shared.advanced namespace_
        else began ≤ stop.memory.owed namespace_)
      (moment : Instant (Memory N) (Redis N K T)) := by
  refine ⟨hsound, trivial, fun executed later reply hexecuted hlater hanswer hlast hdeliver => ?_⟩
  cases reply with
  | some generation =>
      have hadvanced : moment.now ≤ later.shared.advanced namespace_ :=
        (hanswer (by simp)).trans (Redis.advanced_mono hlater.2.1 hlast.redis namespace_)
      exact ⟨⟨le_refl _, le_refl _, fun _ => le_refl _⟩,
        hlast.discard fun hcareful => hdeliver hcareful (by simp), hbegan.trans hadvanced⟩
  | none =>
      have hadd : Sound namespaceOf careful (later.remember (add namespace_ began)) :=
        hlast.add (hbegan.trans (hexecuted.trans hlater).1)
      obtain ⟨hle, hstarted⟩ := hadd.startRecovery
      refine ⟨le_add, hle, hstarted, ?_⟩
      have howed := hle.2.2 namespace_
      refine le_trans ?_ howed
      simp [add]

theorem getOrSet_meets {key : K} (polls : ℕ) (hsound : Sound namespaceOf careful moment) :
    (getOrSet (namespaceOf key) key polls).Meets (fenceLogic namespaceOf careful) began
      (fun stop value => Sound namespaceOf careful stop ∧
        moment.shared.advanced (namespaceOf key) ≤ value.began ∧
          (careful → moment.memory.owed (namespaceOf key) ≤ value.began))
      (moment : Instant (Memory N) (Redis N K T)) := by
  have hpast := hsound.redis.past (namespaceOf key)
  have howed := hsound.owed (namespaceOf key)
  change Meets _ _ _ _ (if _ then _ else _)
  split
  · refine (recoverNamespaceOnce_meets hsound (le_refl _)).bind ?_
    intro tried recovered htried hrecovered
    cases recovered with
    | false =>
        refine factory_meets hrecovered.1 fun last value _ hlast hbegan => ?_
        have hnow := htried.1.trans hbegan
        exact ⟨hlast, hpast.trans hnow, fun _ => howed.trans hnow⟩
    | true =>
        have hadvanced := Redis.advanced_mono htried.2.1 hrecovered.1.redis (namespaceOf key)
        refine (readThrough_recent key polls hrecovered.1 (le_refl _)).weaken
          fun stop value _ hvalue => ?_
        exact ⟨hvalue.1, hadvanced.trans hvalue.2,
          fun hcareful => (hrecovered.2 rfl hcareful).trans hvalue.2⟩
  · rename_i hflag
    refine (readThrough_recent key polls hsound (le_refl _)).weaken fun stop value _ hvalue => ?_
    refine ⟨hvalue.1, hvalue.2, fun hcareful => ?_⟩
    have hcovered := hsound.covered hcareful (namespaceOf key) (by simpa using hflag)
    exact hcovered.trans hvalue.2

omit [DecidableEq N] in
/-- What an invalidation leaves behind stays true while it removes entries. -/
theorem Fenced.later {fenced : Bool} {first second : Instant (Memory N) (Redis N K T)}
    (hfenced : if fenced then began ≤ first.shared.advanced namespace_
      else began ≤ first.memory.owed namespace_)
    (hle : first ≤ second) (hsecond : Sound namespaceOf careful second) :
    if fenced then began ≤ second.shared.advanced namespace_
      else began ≤ second.memory.owed namespace_ := by
  cases fenced with
  | true => exact hfenced.trans (Redis.advanced_mono hle.2.1 hsecond.redis namespace_)
  | false => exact hfenced.trans (hle.2.2 namespace_)

theorem invalidateAll_meets (hsound : Sound namespaceOf careful moment)
    (hbegan : began ≤ moment.now) :
    (invalidateAll namespace_).Meets (fenceLogic namespaceOf careful) began
      (fun stop fenced => Sound namespaceOf careful stop ∧
        if fenced then began ≤ stop.shared.advanced namespace_
        else began ≤ stop.memory.owed namespace_)
      (moment : Instant (Memory N) (Redis N K T)) := by
  refine (advanceGeneration_meets hsound hbegan).bind fun advanced fenced _ hfenced => ?_
  refine await_meets hfenced.1 trivial fun removed _ hremoved hthen => ?_
  exact ⟨hthen, Fenced.later hfenced.2 hremoved hthen⟩

theorem invalidateEntity_meets {key : K} (hsound : Sound namespaceOf careful moment)
    (hbegan : began ≤ moment.now) :
    (invalidateEntity namespace_ key).Meets (fenceLogic namespaceOf careful) began
      (fun stop fenced => Sound namespaceOf careful stop ∧
        if fenced then began ≤ stop.shared.advanced namespace_
        else began ≤ stop.memory.owed namespace_)
      (moment : Instant (Memory N) (Redis N K T)) := by
  refine (advanceGeneration_meets hsound hbegan).bind fun advanced fenced _ hfenced => ?_
  refine await_meets hfenced.1 trivial fun first _ hfirst hone => ?_
  refine await_meets hone trivial fun second _ hsecond htwo => ?_
  refine await_meets htwo trivial fun third _ hthird hthree => ?_
  exact ⟨hthree, Fenced.later hfenced.2 ((hfirst.trans hsecond).trans hthird) hthree⟩

end Flag

/-! ## Redis -/

section RedisSteps

variable [DecidableEq N] [DecidableEq K] {namespaceOf : K → N} {now : ℕ}
  {redis : Redis N K T}

omit [DecidableEq N] [DecidableEq K] in
theorem Redis.Sound.tick (hredis : redis.Sound namespaceOf now) :
    redis.Sound namespaceOf (now + 1) where
  ordered := hredis.ordered
  past namespace_ := (hredis.past namespace_).trans (Nat.le_succ _)
  entries := hredis.entries
  late := hredis.late

omit [DecidableEq K] in
@[simp] theorem Redis.generation_incr (namespace_ : N) :
    (redis.incr now namespace_).generation namespace_ = redis.generation namespace_ + 1 := by
  simp [Redis.incr, Redis.generation]

omit [DecidableEq K] in
theorem Redis.generation_incr_of_ne {namespace_ other : N} (hother : other ≠ namespace_) :
    (redis.incr now namespace_).generation other = redis.generation other := by
  simp [Redis.incr, Redis.generation, Function.update_of_ne hother]

omit [DecidableEq K] in
theorem Redis.le_incr (namespace_ : N) : redis ≤ redis.incr now namespace_ := by
  intro other
  by_cases hother : other = namespace_
  · subst hother
    refine ⟨by simp, fun generation hle => ?_⟩
    have hne : generation ≠ redis.generation other + 1 := by omega
    simp [Redis.incr, Function.update_of_ne hne]
  · refine ⟨(Redis.generation_incr_of_ne hother).ge, fun generation _ => ?_⟩
    simp [Redis.incr, Function.update_of_ne hother]

omit [DecidableEq K] in
theorem Redis.advanced_incr (namespace_ : N) :
    (redis.incr now namespace_).advanced namespace_ = now := by
  simp [Redis.advanced, Redis.incr, Redis.generation]

omit [DecidableEq K] in
theorem Redis.Sound.incr (hredis : redis.Sound namespaceOf now) (namespace_ : N) :
    (redis.incr now namespace_).Sound namespaceOf (now + 1) where
  ordered other first second hle hsecond := by
    by_cases hother : other = namespace_
    · subst hother
      rw [Redis.generation_incr] at hsecond
      simp only [Redis.incr, Function.update_self]
      by_cases hnew : second = redis.generation other + 1
      · subst hnew
        by_cases hfirst : first = redis.generation other + 1
        · subst hfirst
          exact le_refl _
        · rw [Function.update_self, Function.update_of_ne hfirst]
          exact hredis.reached_le (by omega)
      · have hfirst : first ≠ redis.generation other + 1 := by omega
        rw [Function.update_of_ne hfirst, Function.update_of_ne hnew]
        exact hredis.ordered other first second hle (by omega)
    · rw [Redis.generation_incr_of_ne hother] at hsecond
      simp only [Redis.incr, Function.update_of_ne hother]
      exact hredis.ordered other first second hle hsecond
  past other := by
    by_cases hother : other = namespace_
    · subst hother
      rw [Redis.advanced_incr]
      exact Nat.le_succ _
    · have hpast := hredis.past other
      rw [Redis.advanced, Redis.generation_incr_of_ne hother]
      simp only [Redis.incr, Function.update_of_ne hother]
      exact hpast.trans (Nat.le_succ _)
  entries key generation value hentry :=
    (hredis.entries key generation value hentry).later (Redis.le_incr namespace_)
  late entry hentry := (hredis.late entry hentry).later (Redis.le_incr namespace_)

omit [DecidableEq N] in
theorem Redis.Sound.store (hredis : redis.Sound namespaceOf now) {key : K} {generation : ℕ}
    {value : Loaded T} (hholds : redis.Holds namespaceOf key generation value) :
    (redis.store key generation value).Sound namespaceOf now where
  ordered := hredis.ordered
  past := hredis.past
  entries other g found hentry := by
    simp only [Redis.store] at hentry
    by_cases hkey : other = key
    · subst hkey
      rw [Function.update_self] at hentry
      by_cases hg : g = generation
      · subst hg
        rw [Function.update_self, Option.some.injEq] at hentry
        subst hentry
        exact hholds
      · rw [Function.update_of_ne hg] at hentry
        exact hredis.entries other g found hentry
    · rw [Function.update_of_ne hkey] at hentry
      exact hredis.entries other g found hentry
  late := hredis.late

omit [DecidableEq N] [DecidableEq K] in
theorem Redis.Sound.remove (hredis : redis.Sound namespaceOf now) (gone : K → ℕ → Bool) :
    (redis.remove gone).Sound namespaceOf now where
  ordered := hredis.ordered
  past := hredis.past
  entries key generation value hentry := by
    simp only [Redis.remove] at hentry
    split at hentry
    · cases hentry
    · exact hredis.entries key generation value hentry
  late := hredis.late

omit [DecidableEq N] in
theorem Redis.Sound.lease (hredis : redis.Sound namespaceOf now) (key : K) (generation : ℕ)
    (token : Option ℕ) : (redis.lease key generation token).Sound namespaceOf now :=
  ⟨hredis.ordered, hredis.past, hredis.entries, hredis.late⟩

omit [DecidableEq N] [DecidableEq K] in
/-- A write that has not arrived yet. -/
theorem Redis.Sound.postpone (hredis : redis.Sound namespaceOf now) {key : K} {generation : ℕ}
    {value : Loaded T} (hholds : redis.Holds namespaceOf key generation value) :
    Redis.Sound namespaceOf now { redis with late := (key, generation, value) :: redis.late } where
  ordered := hredis.ordered
  past := hredis.past
  entries := hredis.entries
  late entry hentry := by
    rcases List.mem_cons.mp hentry with rfl | hold
    · exact hholds
    · exact hredis.late entry hold

theorem perform_sound (matching : N → Pattern → K → Bool) (hredis : redis.Sound namespaceOf now)
    {self : Memory N} (command : Command N K T) (draw : Draw T)
    (hissue : Issue namespaceOf ⟨now, redis, self⟩ command) :
    let outcome := perform matching now redis command draw
    redis ≤ outcome.1 ∧ outcome.1.Sound namespaceOf (now + 1) ∧
      Answer namespaceOf ⟨now, redis, self⟩ ⟨now + 1, outcome.1, self⟩ command outcome.2 := by
  have htick := hredis.tick
  have hstay : redis ≤ redis := le_refl _
  cases command with
  | getNamespaceGeneration namespace_ =>
      refine ⟨hstay, htick, fun generation hreply => ?_⟩
      simp only [perform] at hreply
      split at hreply
      · cases hreply
        exact ⟨le_refl _, le_refl _⟩
      · cases hreply
  | bumpNamespaceGeneration namespace_ =>
      cases hcarried : draw.carried with
      | false =>
          simp only [perform, hcarried, Bool.false_eq_true, ↓reduceIte, Bool.false_and]
          exact ⟨hstay, htick, fun h => absurd rfl h⟩
      | true =>
          simp only [perform, hcarried, ↓reduceIte]
          exact ⟨Redis.le_incr namespace_, hredis.incr namespace_,
            fun _ => (Redis.advanced_incr namespace_).ge⟩
  | get key generation =>
      refine ⟨hstay, htick, fun value hreply => ?_⟩
      simp only [perform] at hreply
      split at hreply
      · exact hredis.entries key generation value hreply
      · cases hreply
  | set key generation value =>
      simp only [perform]
      split
      · exact ⟨hstay, htick.store hissue, trivial⟩
      · exact ⟨hstay, htick.postpone hissue, trivial⟩
  | delete key => exact ⟨hstay, htick, trivial⟩
  | deletePattern namespace_ pattern =>
      simp only [perform]
      split
      · exact ⟨hstay, htick.remove _, trivial⟩
      · exact ⟨hstay, htick, trivial⟩
  | tryAcquireLock key generation =>
      simp only [perform]
      split
      · split
        · exact ⟨hstay, htick.lease _ _ _, trivial⟩
        · exact ⟨hstay, htick, trivial⟩
      · exact ⟨hstay, htick, trivial⟩
  | releaseLock key generation token =>
      simp only [perform]
      split
      · exact ⟨hstay, htick.lease _ _ _, trivial⟩
      · exact ⟨hstay, htick, trivial⟩
  | factory => exact ⟨hstay, htick, le_refl _⟩
  | sleep => exact ⟨hstay, htick, trivial⟩

/-- Redis keeps its counters; this one is not there or stays. -/
def KeepsCounters (redis : Redis N K T) : Cause N K → Prop
  | .lose namespace_ => redis.counter namespace_ = none
  | _ => True

theorem change_sound (hredis : redis.Sound namespaceOf now) {cause : Cause N K}
    (hkeeps : KeepsCounters redis cause) :
    redis ≤ change now redis cause ∧ (change now redis cause).Sound namespaceOf (now + 1) := by
  have hstay : redis ≤ redis := le_refl _
  cases cause with
  | write => exact ⟨hstay, hredis.ordered, hredis.tick.past, hredis.entries, hredis.late⟩
  | lose namespace_ =>
      have hsame : Function.update redis.counter namespace_ none = redis.counter :=
        Function.update_eq_self_iff.mpr hkeeps.symm
      simp only [change, hsame]
      exact ⟨hstay, hredis.tick⟩
  | evict key generation => exact ⟨hstay, hredis.tick.remove _⟩
  | expire key generation => exact ⟨hstay, hredis.tick.lease _ _ _⟩
  | arrive index =>
      simp only [change]
      split
      · exact ⟨hstay, hredis.tick⟩
      · rename_i entry hentry
        exact ⟨hstay, hredis.tick.store (hredis.late _ (List.mem_of_getElem? hentry))⟩
  | advance namespace_ => exact ⟨Redis.le_incr namespace_, hredis.incr namespace_⟩

end RedisSteps

/-! ## Every run -/

section Runs

variable [DecidableEq N] [DecidableEq K] {namespaceOf : K → N}
  {matching : N → Pattern → K → Bool} {careful : Prop}

theorem fence_valid :
    (processes P T namespaceOf matching).Valid (fenceLogic namespaceOf careful) KeepsCounters
      Fresh (Post namespaceOf careful) where
  begins now redis self hfresh := by
    obtain ⟨hcounters, hreached, hentries, hlate, hflags, htasks, howed⟩ := hfresh
    exact
      { redis :=
          { ordered := by simp [hreached]
            past := by simp [Redis.advanced, hreached]
            entries := by simp [hentries]
            late := by simp [hlate] }
        owed := by simp [howed]
        covered := by simp [howed] }
  program request moment self hsound henter := by
    cases request with
    | getOrSet process key polls =>
        simp only [processes, enter, Option.some.injEq] at henter
        subst henter
        exact ⟨le_refl _, (getOrSet_meets polls hsound).bind
          fun _ _ _ hvalue => ⟨hvalue.1, hsound.redis, hvalue.2⟩⟩
    | invalidateAll process namespace_ =>
        simp only [processes, enter, Option.some.injEq] at henter
        subst henter
        exact ⟨le_refl _, (invalidateAll_meets hsound (le_refl _)).bind
          fun _ _ _ hfenced => hfenced⟩
    | invalidateEntity process namespace_ key =>
        simp only [processes, enter, Option.some.injEq] at henter
        subst henter
        exact ⟨le_refl _, (invalidateEntity_meets hsound (le_refl _)).bind
          fun _ _ _ hfenced => hfenced⟩
    | recoverNamespace process namespace_ rounds =>
        simp only [processes, enter] at henter
        split at henter
        · simp only [Option.some.injEq] at henter
          subst henter
          obtain ⟨hle, hnoted⟩ : moment ≤ moment.remember (fun self => { self with
              recovery_tasks := Function.update self.recovery_tasks namespace_ .running }) ∧ _ :=
            hsound.remember rfl rfl
          exact ⟨hle.2.2, (recoverNamespace_meets rounds hnoted).bind
            fun _ _ _ hthen => ⟨hthen, trivial⟩⟩
        · cases henter
  leave request moment hsound := by
    cases request with
    | recoverNamespace process namespace_ rounds =>
        obtain ⟨hle, hnoted⟩ : moment ≤ moment.remember (popRecovery namespace_ 0) ∧ _ :=
          hsound.remember rfl rfl
        exact ⟨hle.2.2, hnoted⟩
    | getOrSet process key polls => exact ⟨le_refl _, hsound⟩
    | invalidateAll process namespace_ => exact ⟨le_refl _, hsound⟩
    | invalidateEntity process namespace_ key => exact ⟨le_refl _, hsound⟩
  post_later request start stop later value hle hlater hpost := by
    cases request with
    | getOrSet process key polls =>
        cases value with
        | loaded value => exact hpost
        | _ => trivial
    | invalidateAll process namespace_ =>
        cases value with
        | fenced success => exact Fenced.later hpost hle hlater
        | _ => trivial
    | invalidateEntity process namespace_ key =>
        cases value with
        | fenced success => exact Fenced.later hpost hle hlater
        | _ => trivial
    | recoverNamespace process namespace_ rounds => trivial
  issue_later first second command hle hissue := by
    cases command with
    | set key generation value => exact Redis.Holds.later hissue hle.2.1
    | _ => trivial
  answer_earlier first second executed command reply hle hexecuted hanswer := by
    cases command with
    | getNamespaceGeneration namespace_ =>
        intro generation hreply
        obtain ⟨hfrom, hto⟩ := hanswer generation hreply
        exact ⟨(hle.2.1 namespace_).1.trans hfrom, hto⟩
    | bumpNamespaceGeneration namespace_ => exact fun hreply => hle.1.trans (hanswer hreply)
    | get key generation => exact hanswer
    | factory => exact hle.1.trans hanswer
    | _ => trivial
  tick moment hsound :=
    ⟨hsound.redis.tick, fun namespace_ => (hsound.owed namespace_).trans (Nat.le_succ _),
      hsound.covered⟩
  perform moment command draw hsound hissue := by
    obtain ⟨hle, hredis, hanswer⟩ := perform_sound matching hsound.redis
      command draw hissue
    refine ⟨hle, hanswer, fun self hself => ⟨hredis, ?_, ?_⟩⟩
    · exact fun namespace_ => (hself.owed namespace_).trans (Nat.le_succ _)
    · intro hcareful namespace_ hflag
      exact (hself.covered hcareful namespace_ hflag).trans
        (Redis.advanced_mono hle hredis namespace_)
  change moment cause hkeeps hsound := by
    obtain ⟨hle, hredis⟩ := change_sound hsound.redis hkeeps
    refine ⟨hle, hredis, ?_, ?_⟩
    · exact fun namespace_ => (hsound.owed namespace_).trans (Nat.le_succ _)
    · intro hcareful namespace_ hflag
      exact (hsound.covered hcareful namespace_ hflag).trans
        (Redis.advanced_mono hle hredis namespace_)

/-- The call fences the namespace. -/
def Request.invalidates (namespace_ : N) : Request P N K → Bool
  | .invalidateAll _ other => other == namespace_
  | .invalidateEntity _ other _ => other == namespace_
  | _ => false

omit [DecidableEq K] in
/-- What an invalidation has left behind when it returned. -/
theorem post_invalidates {request : Request P N K} {namespace_ : N} {fenced : Bool}
    {start stop : Instant (Memory N) (Redis N K T)}
    (hrequest : request.invalidates namespace_ = true)
    (hpost : Post namespaceOf careful request start stop (.fenced fenced)) :
    if fenced then start.now ≤ stop.shared.advanced namespace_
    else start.now ≤ stop.memory.owed namespace_ := by
  cases request with
  | getOrSet process key polls => cases hrequest
  | invalidateAll process other =>
      have hsame : other = namespace_ := by simpa [Request.invalidates] using hrequest
      subst hsame
      exact hpost
  | invalidateEntity process other key =>
      have hsame : other = namespace_ := by simpa [Request.invalidates] using hrequest
      subst hsame
      exact hpost
  | recoverNamespace process other rounds => cases hrequest

abbrev CacheWorld (P N K T : Type) : Type :=
  Processes.World P (Request P N K) (Memory N) (Lock N K) (Command N K T) Reply (Result T)
    (Redis N K T)

abbrev CacheCall (P N K T : Type) : Type :=
  Processes.Returned (Request P N K) (Memory N) (Result T) (Redis N K T)

/-- A read that began after an invalidation returned, in the histories of one run. -/
structure ReadsAfter (namespaceOf : K → N) (world : CacheWorld P N K T)
    (call read : CacheCall P N K T) (fenced : Bool) (value : Loaded T) : Prop where
  call_mem : call ∈ world.calls
  read_mem : read ∈ world.calls
  request : ∃ reader key polls, read.request = .getOrSet reader key polls ∧
    call.request.invalidates (namespaceOf key) = true
  call_value : call.value = .fenced fenced
  read_value : read.value = .loaded value
  after : call.stop.now ≤ read.start.now

/-- The value was loaded after every write committed before the invalidation was called. -/
def Current (world : CacheWorld P N K T) (call : CacheCall P N K T) (value : Loaded T) : Prop :=
  ∀ write ∈ world.shared.writes, write < call.start.now → write < value.began

omit [DecidableEq K] in
theorem current_of_sane {env : Processes P (Request P N K) (Memory N) (Lock N K)
      (Command N K T) Reply (Draw T) (Cause N K) (Result T) (Redis N K T)}
    {world : CacheWorld P N K T}
    (hsane : world.Sane env (fenceLogic namespaceOf careful) (Post namespaceOf careful))
    {call read : CacheCall P N K T} {fenced : Bool} {value : Loaded T}
    (hreads : ReadsAfter namespaceOf world call read fenced value)
    (hkind : fenced = true ∨ careful ∧ env.process call.request = env.process read.request) :
    Current world call value := by
  obtain ⟨reader, key, polls, hrequest, hfences⟩ := hreads.request
  have hcall := (hsane.calls call hreads.call_mem).ends
  have hread := (hsane.calls read hreads.read_mem).ends
  rw [hreads.call_value] at hcall
  rw [hreads.read_value, hrequest] at hread
  have hleft := post_invalidates hfences hcall
  obtain ⟨hshared, hmoment⟩ :=
    hsane.before_call call hreads.call_mem read hreads.read_mem hreads.after
  intro write _ hwrite
  refine lt_of_lt_of_le hwrite ?_
  cases fenced with
  | true =>
      calc call.start.now
          ≤ call.stop.shared.advanced (namespaceOf key) := hleft
        _ ≤ read.start.shared.advanced (namespaceOf key) :=
            Redis.advanced_mono hshared hread.1 (namespaceOf key)
        _ ≤ value.began := hread.2.1
  | false =>
      obtain ⟨hcareful, hprocess⟩ := hkind.resolve_left (by simp)
      calc call.start.now
          ≤ call.stop.memory.owed (namespaceOf key) := hleft
        _ ≤ read.start.memory.owed (namespaceOf key) := (hmoment hprocess).2.2 (namespaceOf key)
        _ ≤ value.began := hread.2.2 hcareful

/-- When a process hears that it has advanced a generation, the generation was advanced
after the last invalidation of that process that failed was called. -/
def clearsCovered (world : CacheWorld P N K T) :
    Processes.Action (Request P N K) (Draw T) (Cause N K) → Bool
  | .resume i =>
      match world.threads[i]? with
      | none => true
      | some thread =>
          match thread.phase with
          | .answered (.bumpNamespaceGeneration namespace_) reply _ =>
              reply.isNone ||
                decide ((world.memories thread.request.process).owed namespace_ ≤
                  world.shared.advanced namespace_)
          | _ => true
  | _ => true

/-- Redis does not lose a counter that is there. -/
def keepsCounters (world : CacheWorld P N K T) :
    Processes.Action (Request P N K) (Draw T) (Cause N K) → Bool
  | .change (.lose namespace_) => (world.shared.counter namespace_).isNone
  | _ => true

theorem keeps_of_checks {world : CacheWorld P N K T}
    {action : Processes.Action (Request P N K) (Draw T) (Cause N K)}
    (hcounters : keepsCounters world action = true)
    (hclears : careful → clearsCovered world action = true) :
    Processes.Keeps (processes P T namespaceOf matching) (fenceLogic namespaceOf careful)
      KeepsCounters world action := by
  cases action with
  | resume i =>
      intro thread command reply next hthread hphase
      cases command with
      | bumpNamespaceGeneration namespace_ =>
          intro hcareful hreply
          have hcovered := hclears hcareful
          simp only [clearsCovered, hthread, hphase, Bool.or_eq_true, decide_eq_true_eq,
            Option.isNone_iff_eq_none] at hcovered
          exact hcovered.resolve_left hreply
      | _ => trivial
  | change cause =>
      cases cause with
      | lose namespace_ => exact Option.isNone_iff_eq_none.mp hcounters
      | _ => trivial
  | _ => trivial

theorem sane_of_counters [DecidableEq P] {world : CacheWorld P N K T}
    (hreach : ((processes P T namespaceOf matching).machine Fresh).ReachableUnder
      (fun state action => keepsCounters state action = true) world) :
    world.Sane (processes P T namespaceOf matching) (fenceLogic namespaceOf False)
      (Post namespaceOf False) :=
  Processes.reachable_sane fence_valid
    (hreach.mono fun _ _ hcounters => keeps_of_checks hcounters False.elim)

/-- Whatever the placement of writes, advances and late stores: once an invalidation
that advanced the generation has returned, no process reads anything older.  Redis keeps its
counters in the run. -/
theorem read_after_fence [DecidableEq P] {world : CacheWorld P N K T}
    (hreach : ((processes P T namespaceOf matching).machine Fresh).ReachableUnder
      (fun state action => keepsCounters state action = true) world)
    {call read : CacheCall P N K T} {value : Loaded T}
    (hreads : ReadsAfter namespaceOf world call read true value) :
    Current world call value :=
  current_of_sane (sane_of_counters hreach) hreads (Or.inl rfl)

/-- Redis keeps its counters, and no flag is cleared too early. -/
def carefulStep (world : CacheWorld P N K T)
    (action : Processes.Action (Request P N K) (Draw T) (Cause N K)) : Bool :=
  keepsCounters world action && clearsCovered world action

theorem sane_of_careful [DecidableEq P] {world : CacheWorld P N K T}
    (hreach : ((processes P T namespaceOf matching).machine Fresh).ReachableUnder
      (fun state action => carefulStep state action = true) world) :
    world.Sane (processes P T namespaceOf matching) (fenceLogic namespaceOf True)
      (Post namespaceOf True) := by
  refine Processes.reachable_sane fence_valid (hreach.mono fun _ _ hchecks => ?_)
  rw [carefulStep, Bool.and_eq_true] at hchecks
  exact keeps_of_checks hchecks.1 fun _ => hchecks.2

/-- In a run in which Redis keeps its counters and no flag is cleared too early, a process
never reads what is older than an invalidation of its own, be it one that failed. -/
theorem read_after_own_invalidation [DecidableEq P] {world : CacheWorld P N K T}
    (hreach : ((processes P T namespaceOf matching).machine Fresh).ReachableUnder
      (fun state action => carefulStep state action = true) world)
    {call read : CacheCall P N K T} {fenced : Bool} {value : Loaded T}
    (hreads : ReadsAfter namespaceOf world call read fenced value)
    (hprocess : call.request.process = read.request.process) : Current world call value :=
  current_of_sane (sane_of_careful hreach) hreads (Or.inr ⟨trivial, hprocess⟩)

/-! ## Commands and the reads after them -/

/-- A read of `reader` that began after an `invalidate_all` of `writer` had returned. -/
structure FollowsCommand (namespaceOf : K → N) (world : CacheWorld P N K T) (writer reader : P)
    (call read : CacheCall P N K T) (fenced : Bool) (value : Loaded T) : Prop where
  call_mem : call ∈ world.calls
  read_mem : read ∈ world.calls
  invalidates : ∃ namespace_ key polls, namespaceOf key = namespace_ ∧
    call.request = .invalidateAll writer namespace_ ∧ read.request = .getOrSet reader key polls
  call_value : call.value = .fenced fenced
  read_value : read.value = .loaded value
  after : call.stop.now ≤ read.start.now

omit [DecidableEq K] in
theorem FollowsCommand.readsAfter {world : CacheWorld P N K T} {writer reader : P}
    {call read : CacheCall P N K T} {fenced : Bool} {value : Loaded T}
    (hfollows : FollowsCommand namespaceOf world writer reader call read fenced value) :
    ReadsAfter namespaceOf world call read fenced value where
  call_mem := hfollows.call_mem
  read_mem := hfollows.read_mem
  request := by
    obtain ⟨namespace_, key, polls, rfl, hcall, hread⟩ := hfollows.invalidates
    refine ⟨reader, key, polls, hread, ?_⟩
    rw [hcall]
    exact beq_self_eq_true _
  call_value := hfollows.call_value
  read_value := hfollows.read_value
  after := hfollows.after

/-- After a command whose increment succeeded no replica reads what was loaded before it. -/
def ReadsOwnCommands (namespaceOf : K → N) (world : CacheWorld P N K T) : Prop :=
  ∀ writer reader call read value,
    FollowsCommand namespaceOf world writer reader call read true value →
      ∀ write ∈ world.shared.writes, write < call.start.now → write < value.began

/-- After a command of a process, successful or not, it reads nothing loaded before. -/
def FailsClosed (namespaceOf : K → N) (world : CacheWorld P N K T) : Prop :=
  ∀ process call read fenced value,
    FollowsCommand namespaceOf world process process call read fenced value →
      ∀ write ∈ world.shared.writes, write < call.start.now → write < value.began

/-- Every replica reads after every command, for as long as Redis keeps its counters. -/
theorem readsOwnCommands_of_counters [DecidableEq P] {world : CacheWorld P N K T}
    (hreach : ((processes P T namespaceOf matching).machine Fresh).ReachableUnder
      (fun state action => keepsCounters state action = true) world) :
    ReadsOwnCommands namespaceOf world :=
  fun _ _ _ _ _ hfollows =>
    current_of_sane (sane_of_counters hreach) hfollows.readsAfter (Or.inl rfl)

/-- The adapter fails closed in every run in which no flag is cleared too early. -/
theorem failsClosed_of_careful [DecidableEq P] {world : CacheWorld P N K T}
    (hreach : ((processes P T namespaceOf matching).machine Fresh).ReachableUnder
      (fun state action => carefulStep state action = true) world) :
    FailsClosed namespaceOf world := by
  intro process call read fenced value hfollows
  obtain ⟨namespace_, key, polls, -, hcall, hread⟩ := hfollows.invalidates
  have hprocess : call.request.process = read.request.process := by
    rw [hcall, hread]
    rfl
  exact current_of_sane (sane_of_careful hreach) hfollows.readsAfter
    (Or.inr ⟨trivial, hprocess⟩)

end Runs

/-! ## Runs of two processes -/

def sampleProcesses : Processes ℕ (Request ℕ Unit ℕ) (Memory Unit) (Lock Unit ℕ)
    (Command Unit ℕ ℕ) Reply (Draw ℕ) (Cause Unit ℕ) (Result ℕ) (Redis Unit ℕ ℕ) :=
  processes ℕ ℕ (fun _ => ()) fun _ _ _ => true

def emptyCache : CacheWorld ℕ Unit ℕ ℕ where
  now := 0
  shared := ⟨fun _ => none, fun _ _ => 0, fun _ _ => none, fun _ _ => none, [], []⟩
  memories _ := ⟨fun _ => false, fun _ => .idle, fun _ => 0⟩
  threads := []
  calls := []

theorem emptyCache_initial : (sampleProcesses.machine Fresh).initial emptyCache :=
  ⟨fun _ => ⟨rfl, rfl, rfl, rfl, rfl, rfl, rfl⟩, rfl, rfl⟩

/-- Redis carries a command out and answers it. -/
def answered (token : ℕ) (value : Option ℕ) : Draw ℕ := ⟨true, true, token, value⟩

def lost : Draw ℕ := ⟨false, false, 0, none⟩

/-- A read loads an old value; while it does, the source is written and the generation
advanced, so it loads again; a second process then reads what the first has stored. -/
def fencedRun : List (Processes.Action (Request ℕ Unit ℕ) (Draw ℕ) (Cause Unit ℕ)) :=
  [.start (.getOrSet 0 5 3), .perform 0 (answered 0 none), .resume 0,
    .perform 0 (answered 0 none), .resume 0, .acquire 0,
    .perform 0 (answered 0 none), .resume 0, .perform 0 (answered 0 none), .resume 0,
    .perform 0 (answered 7 none), .resume 0, .perform 0 (answered 0 (some 1)),
    .change .write, .start (.invalidateAll 0 ()), .perform 1 (answered 0 none), .resume 1,
    .perform 1 (answered 0 none), .resume 1, .finish 1,
    .resume 0, .perform 0 (answered 0 none), .resume 0, .perform 0 (answered 0 (some 2)),
    .resume 0, .perform 0 (answered 0 none), .resume 0, .perform 0 (answered 0 none),
    .resume 0, .finish 0,
    .start (.getOrSet 1 5 3), .perform 2 (answered 0 none), .resume 2,
    .perform 2 (answered 0 none), .resume 2, .finish 2]

/-- A returned call of a displayed run, by its place in the history. -/
theorem exists_call {world : CacheWorld ℕ Unit ℕ ℕ} {i : ℕ} {request : Request ℕ Unit ℕ}
    {value : Result ℕ} {began ended : ℕ}
    (hcall : world.calls[i]?.map (fun call =>
        (call.request, call.value, call.start.now, call.stop.now)) =
      some (request, value, began, ended)) :
    ∃ call ∈ world.calls, call.request = request ∧ call.value = value ∧
      call.start.now = began ∧ call.stop.now = ended := by
  obtain ⟨call, hget, hfields⟩ := Option.map_eq_some_iff.mp hcall
  simp only [Prod.mk.injEq] at hfields
  exact ⟨call, List.mem_of_getElem? hget, hfields⟩

theorem fencedRun_follows :
    ∃ (world : CacheWorld ℕ Unit ℕ ℕ) (call read : CacheCall ℕ Unit ℕ ℕ),
      (sampleProcesses.machine Fresh).ReachableUnder
          (fun state action => keepsCounters state action = true) world ∧
        world.shared.writes = [13] ∧ call.start.now = 14 ∧
          FollowsCommand (fun _ => ()) world 0 1 call read true ⟨some 2, 23⟩ := by
  have hresult : ((sampleProcesses.machine Fresh).executeUnder keepsCounters emptyCache
      fencedRun).any (fun world => decide (world.shared.writes = [13]) &&
        (decide (world.calls[0]?.map (fun call =>
          (call.request, call.value, call.start.now, call.stop.now)) =
            some (.invalidateAll 0 (), .fenced true, 14, 20)) &&
        decide (world.calls[2]?.map (fun call =>
          (call.request, call.value, call.start.now, call.stop.now)) =
            some (.getOrSet 1 5 3, .loaded ⟨some 2, 23⟩, 30, 36)))) = true := by
    decide +kernel
  obtain ⟨world, hrun, hfields⟩ := (Option.any_eq_true _ _).mp hresult
  simp only [Bool.and_eq_true, decide_eq_true_eq] at hfields
  obtain ⟨hwrites, hfirst, hlast⟩ := hfields
  obtain ⟨call, hcall, hinvalidates, hfenced, hbegan, hended⟩ := exists_call hfirst
  obtain ⟨read, hread, hrequest, hvalue, hstarted, -⟩ := exists_call hlast
  exact ⟨world, call, read, Machine.ReachableUnder.executeUnder (.start emptyCache_initial) hrun,
    hwrites, hbegan, hcall, hread, ⟨(), 5, 3, rfl, hinvalidates, hrequest⟩, hfenced, hvalue,
    by omega⟩

theorem read_after_fence_reloaded :
    ∃ (world : CacheWorld ℕ Unit ℕ ℕ) (call : CacheCall ℕ Unit ℕ ℕ),
      world.shared.writes = [13] ∧ call.start.now = 14 ∧ Current world call ⟨some 2, 23⟩ := by
  obtain ⟨world, call, read, hreach, hwrites, hbegan, hfollows⟩ := fencedRun_follows
  exact ⟨world, call, hwrites, hbegan, read_after_fence hreach hfollows.readsAfter⟩

theorem readsOwnCommands_of_counters_reloaded :
    ∃ (world : CacheWorld ℕ Unit ℕ ℕ) (call read : CacheCall ℕ Unit ℕ ℕ),
      world.shared.writes = [13] ∧ call.start.now = 14 ∧
        FollowsCommand (fun _ => ()) world 0 1 call read true ⟨some 2, 23⟩ ∧
          ReadsOwnCommands (fun _ => ()) world := by
  obtain ⟨world, call, read, hreach, hwrites, hbegan, hfollows⟩ := fencedRun_follows
  exact ⟨world, call, read, hwrites, hbegan, hfollows, readsOwnCommands_of_counters hreach⟩

/-- An old value is stored under generation 0; the source is written and the generation
advanced, but the entries stay.  The counter goes, so the next read asks for generation 0. -/
def lostCounterRun : List (Processes.Action (Request ℕ Unit ℕ) (Draw ℕ) (Cause Unit ℕ)) :=
  [.start (.getOrSet 0 5 3), .perform 0 (answered 0 none), .resume 0,
    .perform 0 (answered 0 none), .resume 0, .acquire 0,
    .perform 0 (answered 0 none), .resume 0, .perform 0 (answered 0 none), .resume 0,
    .perform 0 (answered 7 none), .resume 0, .perform 0 (answered 0 (some 1)), .resume 0,
    .perform 0 (answered 0 none), .resume 0, .perform 0 (answered 0 none), .resume 0,
    .perform 0 (answered 0 none), .resume 0, .finish 0,
    .change .write, .start (.invalidateAll 0 ()), .perform 1 (answered 0 none), .resume 1,
    .perform 1 lost, .resume 1, .finish 1, .change (.lose ()),
    .start (.getOrSet 1 5 3), .perform 2 (answered 0 none), .resume 2,
    .perform 2 (answered 0 none), .resume 2, .finish 2]

theorem stale_read_after_lost_counter :
    ∃ (world : CacheWorld ℕ Unit ℕ ℕ) (call read : CacheCall ℕ Unit ℕ ℕ),
      (sampleProcesses.machine Fresh).Reachable world ∧
        ReadsAfter (fun _ => ()) world call read true ⟨some 1, 12⟩ ∧
        ¬ Current world call ⟨some 1, 12⟩ := by
  have hresult : ((sampleProcesses.machine Fresh).execute emptyCache lostCounterRun).any
      (fun world => decide (world.shared.writes = [21]) &&
        (decide (world.calls[1]?.map (fun call =>
          (call.request, call.value, call.start.now, call.stop.now)) =
            some (.invalidateAll 0 (), .fenced true, 22, 28)) &&
        decide (world.calls[2]?.map (fun call =>
          (call.request, call.value, call.start.now, call.stop.now)) =
            some (.getOrSet 1 5 3, .loaded ⟨some 1, 12⟩, 29, 35)))) = true := by
    decide +kernel
  obtain ⟨world, hrun, hfields⟩ := (Option.any_eq_true _ _).mp hresult
  simp only [Bool.and_eq_true, decide_eq_true_eq] at hfields
  obtain ⟨hwrites, hsecond, hlast⟩ := hfields
  obtain ⟨call, hcall, hinvalidates, hfenced, hbegan, hended⟩ := exists_call hsecond
  obtain ⟨read, hread, hrequest, hvalue, hstarted, -⟩ := exists_call hlast
  refine ⟨world, call, read, Machine.Reachable.execute (.start emptyCache_initial) hrun,
    ⟨hcall, hread, ⟨1, 5, 3, hrequest, by rw [hinvalidates]; rfl⟩, hfenced, hvalue, by omega⟩,
    fun hcurrent => ?_⟩
  have hlate := hcurrent 21 (by rw [hwrites]; simp) (by omega)
  simp at hlate

/-- An old value is stored; the source is written, and the process fails to advance the
generation.  Its next read recovers first and then loads again. -/
def recoveredRun : List (Processes.Action (Request ℕ Unit ℕ) (Draw ℕ) (Cause Unit ℕ)) :=
  [.start (.getOrSet 0 5 3), .perform 0 (answered 0 none), .resume 0,
    .perform 0 (answered 0 none), .resume 0, .acquire 0,
    .perform 0 (answered 0 none), .resume 0, .perform 0 (answered 0 none), .resume 0,
    .perform 0 (answered 7 none), .resume 0, .perform 0 (answered 0 (some 1)), .resume 0,
    .perform 0 (answered 0 none), .resume 0, .perform 0 (answered 0 none), .resume 0,
    .perform 0 (answered 0 none), .resume 0, .finish 0,
    .change .write, .start (.invalidateAll 0 ()), .perform 1 lost, .resume 1,
    .perform 1 lost, .resume 1, .finish 1,
    .start (.getOrSet 0 5 3), .acquire 2, .perform 2 (answered 0 none), .resume 2,
    .perform 2 (answered 0 none), .resume 2, .perform 2 (answered 0 none), .resume 2,
    .acquire 2, .perform 2 (answered 0 none), .resume 2, .perform 2 (answered 0 none),
    .resume 2, .perform 2 (answered 8 none), .resume 2, .perform 2 (answered 0 (some 2)),
    .resume 2, .perform 2 (answered 0 none), .resume 2, .perform 2 (answered 0 none),
    .resume 2, .perform 2 (answered 0 none), .resume 2, .finish 2]

theorem recoveredRun_follows :
    ∃ (world : CacheWorld ℕ Unit ℕ ℕ) (call read : CacheCall ℕ Unit ℕ ℕ),
      (sampleProcesses.machine Fresh).ReachableUnder
          (fun state action => carefulStep state action = true) world ∧
        world.shared.writes = [21] ∧ call.start.now = 22 ∧
          FollowsCommand (fun _ => ()) world 0 0 call read false ⟨some 2, 43⟩ := by
  have hresult : ((sampleProcesses.machine Fresh).executeUnder carefulStep emptyCache
      recoveredRun).any (fun world => decide (world.shared.writes = [21]) &&
        (decide (world.calls[1]?.map (fun call =>
          (call.request, call.value, call.start.now, call.stop.now)) =
            some (.invalidateAll 0 (), .fenced false, 22, 28)) &&
        decide (world.calls[2]?.map (fun call =>
          (call.request, call.value, call.start.now, call.stop.now)) =
            some (.getOrSet 0 5 3, .loaded ⟨some 2, 43⟩, 28, 52)))) = true := by
    decide +kernel
  obtain ⟨world, hrun, hfields⟩ := (Option.any_eq_true _ _).mp hresult
  simp only [Bool.and_eq_true, decide_eq_true_eq] at hfields
  obtain ⟨hwrites, hsecond, hlast⟩ := hfields
  obtain ⟨call, hcall, hinvalidates, hfailed, hbegan, hended⟩ := exists_call hsecond
  obtain ⟨read, hread, hrequest, hvalue, hstarted, -⟩ := exists_call hlast
  exact ⟨world, call, read, Machine.ReachableUnder.executeUnder (.start emptyCache_initial) hrun,
    hwrites, hbegan, hcall, hread, ⟨(), 5, 3, rfl, hinvalidates, hrequest⟩, hfailed, hvalue,
    by omega⟩

theorem read_after_own_invalidation_recovered :
    ∃ (world : CacheWorld ℕ Unit ℕ ℕ) (call : CacheCall ℕ Unit ℕ ℕ),
      world.shared.writes = [21] ∧ call.start.now = 22 ∧ Current world call ⟨some 2, 43⟩ := by
  obtain ⟨world, call, read, hreach, hwrites, hbegan, hfollows⟩ := recoveredRun_follows
  obtain ⟨namespace_, key, polls, -, hcall, hread⟩ := hfollows.invalidates
  exact ⟨world, call, hwrites, hbegan,
    read_after_own_invalidation hreach hfollows.readsAfter (by rw [hcall, hread]; rfl)⟩

theorem failsClosed_of_careful_recovered :
    ∃ (world : CacheWorld ℕ Unit ℕ ℕ) (call read : CacheCall ℕ Unit ℕ ℕ),
      world.shared.writes = [21] ∧ call.start.now = 22 ∧
        FollowsCommand (fun _ => ()) world 0 0 call read false ⟨some 2, 43⟩ ∧
          FailsClosed (fun _ => ()) world := by
  obtain ⟨world, call, read, hreach, hwrites, hbegan, hfollows⟩ := recoveredRun_follows
  exact ⟨world, call, read, hwrites, hbegan, hfollows, failsClosed_of_careful hreach⟩

/-- The first invalidation has advanced the generation and waits for the answer.  An old
value is stored under it, the source is written, a second invalidation fails; then the
answer to the first clears the flag. -/
def earlyClearRun : List (Processes.Action (Request ℕ Unit ℕ) (Draw ℕ) (Cause Unit ℕ)) :=
  [.start (.invalidateAll 0 ()), .perform 0 (answered 0 none),
    .start (.getOrSet 1 5 3), .perform 1 (answered 0 none), .resume 1,
    .perform 1 (answered 0 none), .resume 1, .acquire 1,
    .perform 1 (answered 0 none), .resume 1, .perform 1 (answered 0 none), .resume 1,
    .perform 1 (answered 7 none), .resume 1, .perform 1 (answered 0 (some 1)), .resume 1,
    .perform 1 (answered 0 none), .resume 1, .perform 1 (answered 0 none), .resume 1,
    .perform 1 (answered 0 none), .resume 1, .finish 1,
    .change .write, .start (.invalidateAll 0 ()), .perform 2 lost, .resume 2,
    .perform 2 lost, .resume 2, .finish 2, .resume 0,
    .start (.getOrSet 0 5 3), .perform 3 (answered 0 none), .resume 3,
    .perform 3 (answered 0 none), .resume 3, .finish 3]

theorem stale_read_after_early_clear :
    ∃ (world : CacheWorld ℕ Unit ℕ ℕ) (call read : CacheCall ℕ Unit ℕ ℕ),
      (sampleProcesses.machine Fresh).ReachableUnder
          (fun state action => keepsCounters state action = true) world ∧
        FollowsCommand (fun _ => ()) world 0 0 call read false ⟨some 1, 14⟩ ∧
        ¬ Current world call ⟨some 1, 14⟩ := by
  have hresult : ((sampleProcesses.machine Fresh).executeUnder keepsCounters emptyCache
      earlyClearRun).any (fun world => decide (world.shared.writes = [23]) &&
        (decide (world.calls[1]?.map (fun call =>
          (call.request, call.value, call.start.now, call.stop.now)) =
            some (.invalidateAll 0 (), .fenced false, 24, 30)) &&
        decide (world.calls[2]?.map (fun call =>
          (call.request, call.value, call.start.now, call.stop.now)) =
            some (.getOrSet 0 5 3, .loaded ⟨some 1, 14⟩, 31, 37)))) = true := by
    decide +kernel
  obtain ⟨world, hrun, hfields⟩ := (Option.any_eq_true _ _).mp hresult
  simp only [Bool.and_eq_true, decide_eq_true_eq] at hfields
  obtain ⟨hwrites, hsecond, hlast⟩ := hfields
  obtain ⟨call, hcall, hinvalidates, hfailed, hbegan, hended⟩ := exists_call hsecond
  obtain ⟨read, hread, hrequest, hvalue, hstarted, -⟩ := exists_call hlast
  refine ⟨world, call, read,
    Machine.ReachableUnder.executeUnder (.start emptyCache_initial) hrun,
    ⟨hcall, hread, ⟨(), 5, 3, rfl, hinvalidates, hrequest⟩, hfailed, hvalue, by omega⟩,
    fun hcurrent => ?_⟩
  have hlate := hcurrent 23 (by rw [hwrites]; simp) (by omega)
  simp at hlate

theorem early_clear_opens_fence :
    ∃ world : CacheWorld ℕ Unit ℕ ℕ,
      (sampleProcesses.machine Fresh).ReachableUnder
          (fun state action => keepsCounters state action = true) world ∧
        ¬ FailsClosed (fun _ => ()) world := by
  obtain ⟨world, call, read, hreach, hfollows, hstale⟩ := stale_read_after_early_clear
  exact ⟨world, hreach, fun hcloses => hstale (hcloses 0 call read false _ hfollows)⟩

end CacheAdapter

end LibrarySystem
