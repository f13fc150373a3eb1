import LibrarySystem.Foundation.Processes

/-!
# The cache adapter

Reads and invalidations of any number of processes that share one Redis.  A committed
write is fenced by the generation of its namespace: entries are stored under the
generation that was current, and a process that cannot advance it keeps away from Redis
until it can.

Redis may lose anything it holds, a generation counter too; a counter that is not there is
read as generation 0.

Times are histories: `began` is when the factory of a value was run, `reached` when a
generation was, `owed` when the last invalidation was called that could not advance it.
-/

namespace LibrarySystem

namespace CacheAdapter

/-- A result of a factory; `none` is Python's `None`. -/
structure Loaded (T : Type) where
  value : Option T
  began : ℕ
  deriving DecidableEq

/-! ## Redis -/

structure Redis (N K T : Type) where
  counter : N → Option ℕ
  reached : N → ℕ → ℕ
  entries : K → ℕ → Option (Loaded T)
  leases : K → ℕ → Option ℕ
  -- writes whose client has given up waiting
  late : List (K × ℕ × Loaded T)
  -- when the source was written
  writes : List ℕ

inductive Lease
  | unavailable
  | contended
  | token (token : ℕ)

/-- The keys of a namespace, or those of its lists or its counts. -/
inductive Pattern
  | all
  | list
  | count

inductive Command (N K T : Type)
  | getNamespaceGeneration (namespace_ : N)
  | bumpNamespaceGeneration (namespace_ : N)
  | get (key : K) (generation : ℕ)
  | set (key : K) (generation : ℕ) (value : Loaded T)
  | delete (key : K)
  | deletePattern (namespace_ : N) (pattern : Pattern)
  | tryAcquireLock (key : K) (generation : ℕ)
  | releaseLock (key : K) (generation : ℕ) (token : ℕ)
  | factory
  | sleep

abbrev Reply {N K T : Type} : Command N K T → Type
  | .getNamespaceGeneration _ => Option ℕ
  | .bumpNamespaceGeneration _ => Option ℕ
  | .get _ _ => Option (Loaded T)
  | .tryAcquireLock _ _ => Lease
  | .factory => Loaded T
  | _ => Unit

/-- Whether Redis carries a command out while its client waits, and whether the client
hears of it; the token of a lease and the value the source gives. -/
structure Draw (T : Type) where
  carried : Bool
  heard : Bool
  token : ℕ
  value : Option T

section Store

variable {N K T : Type} [DecidableEq N] [DecidableEq K] (matching : N → Pattern → K → Bool)

def Redis.store (redis : Redis N K T) (key : K) (generation : ℕ) (value : Loaded T) :
    Redis N K T :=
  { redis with
    entries := Function.update redis.entries key
      (Function.update (redis.entries key) generation (some value)) }

/-- `int(raw) if raw is not None else 0` -/
def Redis.generation (redis : Redis N K T) (namespace_ : N) : ℕ :=
  (redis.counter namespace_).getD 0

/-- `INCR` counts a missing key as 0. -/
def Redis.incr (redis : Redis N K T) (now : ℕ) (namespace_ : N) : Redis N K T :=
  { redis with
    counter := Function.update redis.counter namespace_ (some (redis.generation namespace_ + 1))
    reached := Function.update redis.reached namespace_
      (Function.update (redis.reached namespace_) (redis.generation namespace_ + 1) now) }

def Redis.lease (redis : Redis N K T) (key : K) (generation : ℕ) (token : Option ℕ) :
    Redis N K T :=
  { redis with
    leases := Function.update redis.leases key
      (Function.update (redis.leases key) generation token) }

def Redis.remove (redis : Redis N K T) (gone : K → ℕ → Bool) : Redis N K T :=
  { redis with
    entries := fun key generation =>
      if gone key generation then none else redis.entries key generation }

/-- The methods of `RedisClient`: every failure is answered with a value. -/
def perform (now : ℕ) (redis : Redis N K T) :
    (command : Command N K T) → Draw T → Redis N K T × Reply command
  | .getNamespaceGeneration namespace_, draw =>
      (redis, if draw.carried && draw.heard then some (redis.generation namespace_) else none)
  | .bumpNamespaceGeneration namespace_, draw =>
      let after := if draw.carried then redis.incr now namespace_ else redis
      (after, if draw.carried && draw.heard then some (after.generation namespace_) else none)
  | .get key generation, draw =>
      (redis, if draw.carried && draw.heard then redis.entries key generation else none)
  | .set key generation value, draw =>
      (if draw.carried then redis.store key generation value
        else { redis with late := (key, generation, value) :: redis.late }, ())
  -- every entry has a generation in its key, which this one lacks
  | .delete _, _ => (redis, ())
  | .deletePattern namespace_ pattern, draw =>
      (if draw.carried then redis.remove fun key _ => matching namespace_ pattern key
        else redis, ())
  | .tryAcquireLock key generation, draw =>
      if draw.carried then
        match redis.leases key generation with
        | none => (redis.lease key generation (some draw.token),
            if draw.heard then .token draw.token else .unavailable)
        | some _ => (redis, if draw.heard then .contended else .unavailable)
      else (redis, .unavailable)
  | .releaseLock key generation token, draw =>
      (if draw.carried && redis.leases key generation == some token then
        redis.lease key generation none else redis, ())
  | .factory, draw => (redis, ⟨draw.value, now⟩)
  | .sleep, _ => (redis, ())

/-- The rest of the world: the source is written, entries, leases and counters go, a write
arrives late, another client advances a generation. -/
inductive Cause (N K : Type)
  | write
  | lose (namespace_ : N)
  | evict (key : K) (generation : ℕ)
  | expire (key : K) (generation : ℕ)
  | arrive (index : ℕ)
  | advance (namespace_ : N)

def change (now : ℕ) (redis : Redis N K T) : Cause N K → Redis N K T
  | .write => { redis with writes := now :: redis.writes }
  | .lose namespace_ => { redis with counter := Function.update redis.counter namespace_ none }
  | .evict key generation => redis.remove fun k g => k == key && g == generation
  | .expire key generation => redis.lease key generation none
  | .arrive index =>
      match redis.late[index]? with
      | none => redis
      | some (key, generation, value) => redis.store key generation value
  | .advance namespace_ => redis.incr now namespace_

end Store

/-! ## The memory of a process -/

inductive RecoveryTask
  | idle
  | created
  | running

structure Memory (N : Type) where
  unsafe_namespaces : N → Bool
  recovery_tasks : N → RecoveryTask
  owed : N → ℕ

inductive Lock (N K : Type)
  | flight (key : K) (generation : ℕ)
  | recovery (namespace_ : N)
  deriving DecidableEq

section Programs

variable {N K T : Type} [DecidableEq N]

abbrev Task (N K T α : Type) : Type :=
  Coroutine (Memory N) (Lock N K) (Command N K T) Reply α

def memory : Task N K T (Memory N) := .inspect .done

def await (command : Command N K T) : Task N K T (Reply command) := .await command .done

def acquire (lock : Lock N K) : Task N K T Unit := .acquire lock (.done ())

def release (lock : Lock N K) : Task N K T Unit := .release lock (.done ())

def assign (effect : ℕ → Memory N → Memory N) : Task N K T Unit := .update effect (.done ())

def discard (namespace_ : N) (_ : ℕ) (self : Memory N) : Memory N :=
  { self with
    unsafe_namespaces := Function.update self.unsafe_namespaces namespace_ false }

def add (namespace_ : N) (began : ℕ) (self : Memory N) : Memory N :=
  { self with
    unsafe_namespaces := Function.update self.unsafe_namespaces namespace_ true
    owed := Function.update self.owed namespace_ (max (self.owed namespace_) began) }

def startRecovery (namespace_ : N) (_ : ℕ) (self : Memory N) : Memory N :=
  match self.recovery_tasks namespace_ with
  | .idle => { self with
      recovery_tasks := Function.update self.recovery_tasks namespace_ .created }
  | _ => self

def popRecovery (namespace_ : N) (_ : ℕ) (self : Memory N) : Memory N :=
  { self with recovery_tasks := Function.update self.recovery_tasks namespace_ .idle }

def recoverNamespaceOnce (namespace_ : N) : Task N K T Bool := do
  if !(← memory).unsafe_namespaces namespace_ then return true
  acquire (.recovery namespace_)
  if !(← memory).unsafe_namespaces namespace_ then
    release (.recovery namespace_)
    return true
  match ← await (.bumpNamespaceGeneration namespace_) with
  | none =>
      release (.recovery namespace_)
      return false
  | some _ =>
      assign (discard namespace_)
      release (.recovery namespace_)
      return true

/-- The loop of the background task; `rounds` is how often the run gets to its head. -/
def recoverNamespace (namespace_ : N) : ℕ → Task N K T Unit
  | 0 => pure ()
  | rounds + 1 => do
      if !(← memory).unsafe_namespaces namespace_ then
        assign (popRecovery namespace_)
      else
        await .sleep
        if ← recoverNamespaceOnce namespace_ then
          assign (popRecovery namespace_)
        else recoverNamespace namespace_ rounds

def advanceGeneration (namespace_ : N) : Task N K T Bool := do
  match ← await (.bumpNamespaceGeneration namespace_) with
  | some _ =>
      assign (discard namespace_)
      return true
  | none =>
      assign (add namespace_)
      assign (startRecovery namespace_)
      return false

def invalidateAll (namespace_ : N) : Task N K T Bool := do
  let fenced ← advanceGeneration namespace_
  await (.deletePattern namespace_ .all)
  return fenced

/-- `key` is the direct key of the entity. -/
def invalidateEntity (namespace_ : N) (key : K) : Task N K T Bool := do
  let fenced ← advanceGeneration namespace_
  await (.delete key)
  await (.deletePattern namespace_ .list)
  await (.deletePattern namespace_ .count)
  return fenced

/-- `polls` is how many times the clock lets a peer be looked for. -/
def waitForPeer (key : K) (generation : ℕ) : ℕ → Task N K T (Option (Loaded T))
  | 0 => pure none
  | polls + 1 => do
      await .sleep
      match ← await (.get key generation) with
      | some cached => return some cached
      | none => waitForPeer key generation polls

def store (key : K) (generation : ℕ) (result : Loaded T) : Task N K T (Loaded T) := do
  if result.value.isSome then await (.set key generation result)
  return result

/-- The `try` block. -/
def load (namespace_ : N) (key : K) (generation : ℕ) : Task N K T (Loaded T) := do
  let result ← await .factory
  match ← await (.getNamespaceGeneration namespace_) with
  | none => return result
  | some current_generation =>
      if current_generation ≠ generation then
        -- the factory may have seen the state before a write
        let result ← await .factory
        store key current_generation result
      else store key generation result

/-- The `try` block and its `finally`. -/
def loadUnder (namespace_ : N) (key : K) (generation : ℕ) (lease : Lease) :
    Task N K T (Loaded T) := do
  let result ← load namespace_ key generation
  match lease with
  | .token token => await (.releaseLock key generation token)
  | _ => pure ()
  return result

/-- The body of `async with flight`. -/
def inFlight (namespace_ : N) (key : K) (polls : ℕ) : Task N K T (Loaded T) := do
  match ← await (.getNamespaceGeneration namespace_) with
  | none => await .factory
  | some generation =>
      match ← await (.get key generation) with
      | some cached => return cached
      | none =>
          match ← await (.tryAcquireLock key generation) with
          | .contended =>
              match ← waitForPeer key generation polls with
              | some cached => return cached
              | none =>
                  let lease ← await (.tryAcquireLock key generation)
                  loadUnder namespace_ key generation lease
          | lease => loadUnder namespace_ key generation lease

def readThrough (namespace_ : N) (key : K) (polls : ℕ) : Task N K T (Loaded T) := do
  match ← await (.getNamespaceGeneration namespace_) with
  | none => await .factory
  | some generation =>
      match ← await (.get key generation) with
      | some cached => return cached
      | none =>
          acquire (.flight key generation)
          let result ← inFlight namespace_ key polls
          release (.flight key generation)
          return result

def getOrSet (namespace_ : N) (key : K) (polls : ℕ) : Task N K T (Loaded T) := do
  if (← memory).unsafe_namespaces namespace_ then
    if !(← recoverNamespaceOnce namespace_) then
      return ← await .factory
  readThrough namespace_ key polls

end Programs

/-! ## Calls -/

inductive Request (P N K : Type)
  | getOrSet (process : P) (key : K) (polls : ℕ)
  | invalidateAll (process : P) (namespace_ : N)
  | invalidateEntity (process : P) (namespace_ : N) (key : K)
  | recoverNamespace (process : P) (namespace_ : N) (rounds : ℕ)
  deriving DecidableEq

inductive Result (T : Type)
  | loaded (value : Loaded T)
  | fenced (success : Bool)
  | recovered
  deriving DecidableEq

section Calls

variable {P N K T : Type} [DecidableEq N]

def Request.process : Request P N K → P
  | .getOrSet process _ _ => process
  | .invalidateAll process _ => process
  | .invalidateEntity process _ _ => process
  | .recoverNamespace process _ _ => process

/-- A background task starts when it has been created. -/
def enter : Request P N K → Memory N → Option (Memory N)
  | .recoverNamespace _ namespace_ _, self =>
      match self.recovery_tasks namespace_ with
      | .created => some { self with
          recovery_tasks := Function.update self.recovery_tasks namespace_ .running }
      | _ => none
  | _, self => some self

/-- The `finally` of a background task that is cut off; a task that is done can be replaced. -/
def leave : Request P N K → Memory N → Memory N
  | .recoverNamespace _ namespace_ _, self => popRecovery namespace_ 0 self
  | _, self => self

def program (namespaceOf : K → N) : Request P N K → Task N K T (Result T)
  | .getOrSet _ key polls => do
      let value ← getOrSet (namespaceOf key) key polls
      return .loaded value
  | .invalidateAll _ namespace_ => do
      let fenced ← invalidateAll namespace_
      return .fenced fenced
  | .invalidateEntity _ namespace_ key => do
      let fenced ← invalidateEntity namespace_ key
      return .fenced fenced
  | .recoverNamespace _ namespace_ rounds => do
      recoverNamespace namespace_ rounds
      return .recovered

/-- Any number of processes with one Redis: `namespaceOf` reads the namespace off a key,
`matching` says which keys a pattern matches. -/
def processes [DecidableEq K] (P T : Type) (namespaceOf : K → N)
    (matching : N → Pattern → K → Bool) :
    Processes P (Request P N K) (Memory N) (Lock N K) (Command N K T) Reply (Draw T)
      (Cause N K) (Result T) (Redis N K T) where
  process := Request.process
  enter := enter
  leave := leave
  program := program namespaceOf
  perform := perform matching
  change := change

/-- Fresh processes and an empty Redis. -/
def Fresh (redis : Redis N K T) (self : Memory N) : Prop :=
  (redis.counter = fun _ => none) ∧ (redis.reached = fun _ _ => 0) ∧
    (redis.entries = fun _ _ => none) ∧ redis.late = [] ∧
      (self.unsafe_namespaces = fun _ => false) ∧
        (self.recovery_tasks = fun _ => .idle) ∧ (self.owed = fun _ => 0)

end Calls

end CacheAdapter

end LibrarySystem
