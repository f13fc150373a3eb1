import LibrarySystem.Application.KeyedRuns

/-!
# What a receipt knows of its command

A receipt keeps a digest of the compact JSON text of the command facts.  The text tells
the facts apart, except that it writes a character beyond the basic plane like its two
surrogates.
-/

namespace LibrarySystem

/-! ## Facts as text -/

namespace Json

/-- A dictionary written twice with its names in one order. -/
theorem eq_of_perm_of_names {first second : List (PyStr × Json)}
    (hperm : first.Perm second) (hnames : first.map Prod.fst = second.map Prod.fst)
    (hnodup : (second.map Prod.fst).Nodup) : first = second := by
  apply List.ext_getElem hperm.length_eq
  intro i hfirst hsecond
  apply List.inj_on_of_nodup_map hnodup
  · exact hperm.mem_iff.mp (List.getElem_mem hfirst)
  · exact List.getElem_mem hsecond
  · have hleft : i < (first.map Prod.fst).length := by simpa using hfirst
    have hright : i < (second.map Prod.fst).length := by simpa using hsecond
    have hname : (first.map Prod.fst)[i] = (second.map Prod.fst)[i] := by
      simp only [hnames]
    simpa only [List.getElem_map] using hname

theorem joinMembers_eq_map (members : List (PyStr × Json)) :
    joinMembers members = members.map fun member => (joinText member.1, join member.2) := by
  induction members with
  | nil => rfl
  | cons member rest ih => rw [joinMembers, List.map_cons, ih]

/-- A value without items or members that is read as it is but for split pairs. -/
def isScalar : Json → Bool
  | .null | .bool _ | .int _ | .str _ => true
  | _ => false

theorem isScalar_plain (value : Json) :
    isScalar value = true → sortKeys value = value ∧ plain value = true := by
  cases value <;> simp [isScalar, sortKeys, plain]

theorem plainMembers_iff (members : List (PyStr × Json)) :
    plainMembers members = true ↔ ∀ member ∈ members, plain member.2 = true := by
  induction members with
  | nil => simp [plainMembers]
  | cons member rest ih => simp [plainMembers, ih]

/-- Members of plain names and leaves. -/
structure Flat (members : List (PyStr × Json)) : Prop where
  names : (members.map Prod.fst).Nodup
  plain : ∀ member ∈ members, PyStr.hasSplitPair member.1 = false
  leaves : ∀ member ∈ members, isScalar member.2 = true

namespace Flat

variable {members others : List (PyStr × Json)}

theorem sorted (hflat : Flat members) : (sortMembers members).Perm members := by
  have hsame : members.map (fun member => (member.1, sortKeys member.2)) = members := by
    conv_rhs => rw [← List.map_id members]
    apply List.map_congr_left
    intro member hmember
    rw [((isScalar_plain _) (hflat.leaves member hmember)).1]
    rfl
  rw [← hsame]
  exact hsame.symm ▸ sortMembers_perm members

theorem joinMembers_names (hflat : Flat members) :
    (joinMembers members).map Prod.fst = members.map Prod.fst := by
  rw [joinMembers_eq_map, List.map_map]
  apply List.map_congr_left
  intro member hmember
  exact (joinText_eq_self_iff member.1).mpr (hflat.plain member hmember)

theorem plain_sorted (hflat : Flat members) :
    Json.plain (sortKeys (.obj members)) = true := by
  have hperm := hflat.sorted
  simp only [sortKeys, Json.plain, Bool.and_eq_true, decide_eq_true_eq, plainMembers_iff]
  constructor
  · intro member hmember
    exact ((isScalar_plain _) (hflat.leaves member (hperm.mem_iff.mp hmember))).2
  · have hjoined : ((joinMembers (sortMembers members)).map Prod.fst).Perm
        ((joinMembers members).map Prod.fst) := by
      simp only [joinMembers_eq_map]
      exact (hperm.map _).map _
    rw [hjoined.nodup_iff, hflat.joinMembers_names]
    exact hflat.names

/-- Flat members with the same names and the same sorted text differ in split pairs
only. -/
theorem joinMembers_eq_of_render (hflat : Flat members) (hothers : Flat others)
    (hnames : members.map Prod.fst = others.map Prod.fst) {style : JsonStyle}
    (hstyle : Readable style) (floatRepr : BitVec 64 → PyStr)
    (htext : render floatRepr style (sortKeys (.obj members)) =
      render floatRepr style (sortKeys (.obj others))) :
    joinMembers members = joinMembers others := by
  have hread := loads_render_plain (fun _ => 0) floatRepr hstyle _ hflat.plain_sorted
  rw [htext, loads_render_plain (fun _ => 0) floatRepr hstyle _ hothers.plain_sorted] at hread
  simp only [sortKeys, join, Option.some.injEq, Json.obj.injEq] at hread
  have hperm : (joinMembers members).Perm (joinMembers others) := by
    have hfirst : (joinMembers (sortMembers members)).Perm (joinMembers members) := by
      simp only [joinMembers_eq_map]
      exact hflat.sorted.map _
    have hsecond : (joinMembers (sortMembers others)).Perm (joinMembers others) := by
      simp only [joinMembers_eq_map]
      exact hothers.sorted.map _
    exact hfirst.symm.trans (hread ▸ hsecond)
  have hkeys : (joinMembers members).map Prod.fst = (joinMembers others).map Prod.fst := by
    rw [hflat.joinMembers_names, hothers.joinMembers_names, hnames]
  apply eq_of_perm_of_names hperm hkeys
  rw [hothers.joinMembers_names]
  exact hothers.names

end Flat

end Json

/-! ## The facts of a request -/

/-- What a keyed request stores its receipt under, and the facts in its fingerprint. -/
structure CommandFacts where
  scope : PyStr
  key : IdempotencyKey
  values : List (PyStr × Json)

namespace CommandFacts

def slot (facts : CommandFacts) : PyStr × PyStr := (facts.scope, facts.key.val)

/-- The bytes that `command_fingerprint` digests. -/
def payload (rt : PythonRuntime) (facts : CommandFacts) : List (Fin 256) :=
  (PyStr.encodeUtf8 (Json.render rt.floatRepr .compact
    (Json.sortKeys (.obj facts.values)))).getD []

def token (rt : PythonRuntime) (facts : CommandFacts) : RequestToken :=
  ⟨facts.scope, facts.key, commandFingerprint rt facts.values⟩

/-- The same facts, but for surrogate pairs written as one character. -/
def Alike (first second : CommandFacts) : Prop :=
  Json.joinMembers first.values = Json.joinMembers second.values

/-- SHA-256 tells the two payloads apart. -/
def Distinguished (rt : PythonRuntime) (first second : CommandFacts) : Prop :=
  rt.sha256 (first.payload rt) = rt.sha256 (second.payload rt) →
    first.payload rt = second.payload rt

/-- The names of the facts under a scope. -/
def names (scope : PyStr) : List PyStr :=
  if scope = AddBookHandler.scope then [py "title", py "author"]
  else if scope = BorrowBookHandler.scope then [py "book_id", py "borrower_email"]
  else if scope = ReturnLoanHandler.scope then [py "loan_id"]
  else if scope = ExtendLoanHandler.scope then [py "loan_id", py "days"]
  else if scope = RegisterPatronHandler.scope then
    [py "first_name", py "last_name", py "email", py "membership_tier"]
  else if scope = SuspendPatronHandler.scope then [py "patron_id", py "reason"]
  else if scope = ReinstatePatronHandler.scope then [py "patron_id"]
  else [py "patron_id", py "new_tier"]

end CommandFacts

/-- The facts of a request with a key, when both can be computed. -/
def Request.commandFacts (rt : PythonRuntime) : Request → Option CommandFacts
  | addBook command => do
      let title ← (Book.parseTitle command.title).toOption
      let author ← (Book.parseAuthor command.author).toOption
      let key ← (IdempotencyKey.parse command.idempotency_key).toOption
      key.map fun key => ⟨AddBookHandler.scope, key, AddBookHandler.facts title author⟩
  | circulation (.borrowBook command) => do
      let key ← (IdempotencyKey.parse command.idempotency_key).toOption
      let email ← (EmailAddress.parse rt command.borrower_email).toOption
      key.map fun key => ⟨BorrowBookHandler.scope, key, BorrowBookHandler.facts command email⟩
  | circulation (.returnLoan command) => do
      let key ← (IdempotencyKey.parse command.idempotency_key).toOption
      key.map fun key => ⟨ReturnLoanHandler.scope, key, ReturnLoanHandler.facts command⟩
  | circulation (.extendLoan command) => do
      let key ← (IdempotencyKey.parse command.idempotency_key).toOption
      key.map fun key => ⟨ExtendLoanHandler.scope, key, ExtendLoanHandler.facts command⟩
  | registerPatron command => do
      let name ← (PatronName.parse command.first_name command.last_name).toOption
      let email ← (EmailAddress.parse rt command.email).toOption
      let tier ← (MembershipTier.parse rt command.membership_tier).toOption
      let key ← (IdempotencyKey.parse command.idempotency_key).toOption
      key.map fun key =>
        ⟨RegisterPatronHandler.scope, key, RegisterPatronHandler.facts name email tier⟩
  | suspendPatron command => do
      let key ← (IdempotencyKey.parse command.idempotency_key).toOption
      key.map fun key => ⟨SuspendPatronHandler.scope, key, SuspendPatronHandler.facts command⟩
  | reinstatePatron command => do
      let key ← (IdempotencyKey.parse command.idempotency_key).toOption
      key.map fun key =>
        ⟨ReinstatePatronHandler.scope, key, ReinstatePatronHandler.facts command⟩
  | upgradePatronTier command => do
      let tier ← (MembershipTier.parse rt command.new_tier).toOption
      let key ← (IdempotencyKey.parse command.idempotency_key).toOption
      key.map fun key =>
        ⟨UpgradePatronTierHandler.scope, key, UpgradePatronTierHandler.facts command tier⟩
  | _ => none

section Facts

variable {rt : PythonRuntime} {request : Request} {facts : CommandFacts}

theorem Request.token_eq_facts (rt : PythonRuntime) (request : Request) :
    request.token rt = (request.commandFacts rt).map (CommandFacts.token rt) := by
  cases request with
  | circulation command =>
      cases command with
      | borrowBook | returnLoan | extendLoan =>
          simp only [Request.token, Request.commandFacts, Option.bind_eq_bind,
            Option.map_bind, Option.map_map, Function.comp_def, CommandFacts.token]
      | _ => rfl
  | _ =>
      simp only [Request.token, Request.commandFacts, Option.bind_eq_bind,
        Option.map_bind, Option.map_map, Function.comp_def, CommandFacts.token]

/-- The facts of a request are leaves under the names of its scope. -/
theorem Request.commandFacts_shape (hfacts : request.commandFacts rt = some facts) :
    facts.values.map Prod.fst = CommandFacts.names facts.scope ∧
      ∀ member ∈ facts.values, Json.isScalar member.2 = true := by
  cases request with
  | addBook command =>
      simp only [Request.commandFacts, Option.bind_eq_bind, Option.bind_eq_some_iff,
        Option.map_eq_some_iff] at hfacts
      obtain ⟨_, -, _, -, _, -, _, -, rfl⟩ := hfacts
      exact ⟨rfl, by simp [AddBookHandler.facts, Json.isScalar]⟩
  | registerPatron command =>
      simp only [Request.commandFacts, Option.bind_eq_bind, Option.bind_eq_some_iff,
        Option.map_eq_some_iff] at hfacts
      obtain ⟨_, -, _, -, _, -, _, -, _, -, rfl⟩ := hfacts
      exact ⟨rfl, by simp [RegisterPatronHandler.facts, Json.isScalar]⟩
  | suspendPatron command | reinstatePatron command =>
      simp only [Request.commandFacts, Option.bind_eq_bind, Option.bind_eq_some_iff,
        Option.map_eq_some_iff] at hfacts
      obtain ⟨_, -, _, -, rfl⟩ := hfacts
      exact ⟨rfl, by simp [SuspendPatronHandler.facts, ReinstatePatronHandler.facts,
        Json.isScalar]⟩
  | upgradePatronTier command =>
      simp only [Request.commandFacts, Option.bind_eq_bind, Option.bind_eq_some_iff,
        Option.map_eq_some_iff] at hfacts
      obtain ⟨_, -, _, -, _, -, rfl⟩ := hfacts
      exact ⟨rfl, by simp [UpgradePatronTierHandler.facts, Json.isScalar]⟩
  | circulation command =>
      cases command with
      | borrowBook command =>
          simp only [Request.commandFacts, Option.bind_eq_bind, Option.bind_eq_some_iff,
            Option.map_eq_some_iff] at hfacts
          obtain ⟨_, -, _, -, _, -, rfl⟩ := hfacts
          exact ⟨rfl, by simp [BorrowBookHandler.facts, Json.isScalar]⟩
      | returnLoan command | extendLoan command =>
          simp only [Request.commandFacts, Option.bind_eq_bind, Option.bind_eq_some_iff,
            Option.map_eq_some_iff] at hfacts
          obtain ⟨_, -, _, -, rfl⟩ := hfacts
          exact ⟨rfl, by simp [ReturnLoanHandler.facts, ExtendLoanHandler.facts, Json.isScalar]⟩
      | _ => cases hfacts

theorem CommandFacts.names_plain (scope : PyStr) :
    (names scope).Nodup ∧ ∀ name ∈ names scope, PyStr.hasSplitPair name = false := by
  unfold names
  split_ifs <;> decide

theorem Request.commandFacts_flat (hfacts : request.commandFacts rt = some facts) :
    Json.Flat facts.values := by
  obtain ⟨hnames, hleaves⟩ := Request.commandFacts_shape hfacts
  obtain ⟨hnodup, hplain⟩ := CommandFacts.names_plain facts.scope
  rw [← hnames] at hnodup hplain
  exact ⟨hnodup, fun member hmember => hplain _ (List.mem_map_of_mem hmember), hleaves⟩

/-- Under one key the fingerprint tells the facts apart as far as SHA-256 does. -/
theorem Request.alike_of_fingerprint {other : Request} {given : CommandFacts}
    (hfacts : request.commandFacts rt = some facts)
    (hgiven : other.commandFacts rt = some given) (hslot : facts.slot = given.slot)
    (hdigest : facts.Distinguished rt given)
    (hsame : commandFingerprint rt facts.values = commandFingerprint rt given.values) :
    facts.Alike given := by
  have hbytes := hdigest hsame
  have hencoded : ∀ values : List (PyStr × Json), ∃ bytes,
      PyStr.encodeUtf8 (Json.render rt.floatRepr .compact (Json.sortKeys (.obj values))) =
        some bytes := by
    intro values
    obtain ⟨bytes, hbytes, -⟩ := PyStr.encodeUtf8_of_isAscii
      (Json.render_compact_isAscii rt.floatRepr_isAscii (Json.sortKeys (.obj values)))
    exact ⟨bytes, hbytes⟩
  have htext : Json.render rt.floatRepr .compact (Json.sortKeys (.obj facts.values)) =
      Json.render rt.floatRepr .compact (Json.sortKeys (.obj given.values)) := by
    obtain ⟨bytes, hfirst⟩ := hencoded facts.values
    obtain ⟨others, hsecond⟩ := hencoded given.values
    simp only [CommandFacts.payload, hfirst, hsecond, Option.getD_some] at hbytes
    subst hbytes
    exact Option.some.inj
      ((decodeUtf8_encodeUtf8 hfirst).symm.trans (decodeUtf8_encodeUtf8 hsecond))
  have hscope : facts.scope = given.scope := congrArg Prod.fst hslot
  have hnames : facts.values.map Prod.fst = given.values.map Prod.fst := by
    rw [(Request.commandFacts_shape hfacts).1, (Request.commandFacts_shape hgiven).1, hscope]
  exact (Request.commandFacts_flat hfacts).joinMembers_eq_of_render
    (Request.commandFacts_flat hgiven) hnames Json.readable_compact rt.floatRepr htext

theorem Request.token_of_facts (hfacts : request.commandFacts rt = some facts) :
    request.token rt = some (facts.token rt) := by
  rw [Request.token_eq_facts, hfacts, Option.map_some]

end Facts

/-! ## Requests under one key -/

/-- The receipt has the digest of the facts and is read as the reply. -/
structure CommandReceipt.Keeps (rt : PythonRuntime) (facts : CommandFacts) (reply : Reply)
    (receipt : CommandReceipt) : Prop where
  request_hash : receipt.request_hash = commandFingerprint rt facts.values
  response : Reply.load rt facts.scope receipt.response_payload = some reply

section Runs

variable {rt : PythonRuntime} {world : CommandWorld} {facts : CommandFacts}

theorem KeyedSide.receipt_of_commit (hreach : KeyedSide rt world) {entry : Committed}
    (hentry : entry ∈ world.log) (hfacts : entry.request.commandFacts rt = some facts) :
    ∃ value receipt, entry.rest = .pure (entry.request.answer value) ∧
      world.shared.command_receipts.lookup facts.slot = some receipt ∧
      receipt.Keeps rt facts (entry.request.reply value) := by
  have htoken := Request.token_of_facts hfacts
  obtain ⟨value, hrest, hplain, hfound⟩ := hreach.once.left entry hentry _ htoken
  refine ⟨value, _, hrest, hfound, rfl, ?_⟩
  exact Reply.load_dump rt (Request.scope_mem htoken value) hplain

theorem KeyedSide.receipt_of_answer (hreach : KeyedSide rt world)
    {thread : Interleaving.Thread Request Observation PyStr Batch Refusal AppException Answered}
    (hthread : thread ∈ world.threads) (hfacts : thread.request.commandFacts rt = some facts)
    {answer : Answered} (hanswer : thread.rest = some (.pure answer)) :
    ∃ receipt, world.shared.command_receipts.lookup facts.slot = some receipt ∧
      receipt.Keeps rt facts answer.reply := by
  obtain ⟨receipt, hfound, hhash, hload⟩ :=
    hreach.answered hthread (Request.token_of_facts hfacts) hanswer
  exact ⟨receipt, hfound, hhash, hload⟩

/-- One receipt is read as one reply under a scope. -/
theorem CommandReceipt.Keeps.reply_unique {receipt : CommandReceipt} {given : CommandFacts}
    {reply same : Reply} (hkeeps : receipt.Keeps rt facts reply)
    (hsame : receipt.Keeps rt given same) (hslot : facts.slot = given.slot) :
    reply = same := by
  have hscope : facts.scope = given.scope := congrArg Prod.fst hslot
  have hresponse := hkeeps.response
  rw [hscope, hsame.response] at hresponse
  exact (Option.some.inj hresponse).symm

end Runs

/-- However the requests under one key interleave and wherever they are cut off, one takes
effect at most, with a receipt that is read as its answer; all that answer give this answer,
and none with other facts answers when there is a receipt. -/
theorem keyed_commands_once {rt : PythonRuntime} {world : CommandWorld}
    (hreach : KeyedSide rt world) (slot : PyStr × PyStr) :
    (world.log.filter fun entry => entry.request.Under rt slot).length ≤ 1 ∧
      (∀ entry ∈ world.log, ∀ facts, entry.request.commandFacts rt = some facts →
        facts.slot = slot → ∃ value receipt,
          entry.rest = .pure (entry.request.answer value) ∧
          world.shared.command_receipts.lookup slot = some receipt ∧
          receipt.Keeps rt facts (entry.request.reply value)) ∧
      (∀ thread ∈ world.threads, ∀ facts answer,
        thread.request.commandFacts rt = some facts → facts.slot = slot →
          thread.rest = some (.pure answer) →
            (∃ receipt, world.shared.command_receipts.lookup slot = some receipt ∧
              receipt.Keeps rt facts answer.reply) ∧
            ∀ entry ∈ world.log, entry.request.Under rt slot → ∀ effect,
              entry.rest = .pure effect → answer.reply = effect.reply) ∧
      ∀ receipt, world.shared.command_receipts.lookup slot = some receipt →
        ∀ request facts, Request.commandFacts rt request = some facts → facts.slot = slot →
          receipt.request_hash = commandFingerprint rt facts.values →
            ∀ thread ∈ world.threads, ∀ given,
              thread.request.commandFacts rt = some given → given.slot = slot →
                facts.Distinguished rt given → ¬ facts.Alike given →
                  ∀ answer, thread.rest ≠ some (.pure answer) := by
  refine ⟨hreach.once.once slot, ?_, ?_, ?_⟩
  · rintro entry hentry facts hfacts rfl
    exact hreach.receipt_of_commit hentry hfacts
  · rintro thread hthread facts answer hfacts rfl hanswer
    obtain ⟨receipt, hfound, hkeeps⟩ := hreach.receipt_of_answer hthread hfacts hanswer
    refine ⟨⟨receipt, hfound, hkeeps⟩, fun entry hentry hunder effect heffect => ?_⟩
    rw [Request.Under, Request.token_eq_facts, Option.map_map] at hunder
    obtain ⟨given, hgiven, hslot⟩ := Option.map_eq_some_iff.mp hunder
    obtain ⟨value, same, hvalue, hsame, hkept⟩ := hreach.receipt_of_commit hentry hgiven
    have hsame' : world.shared.command_receipts.lookup facts.slot = some same := hslot ▸ hsame
    rw [hfound, Option.some.injEq] at hsame'
    subst same
    rw [heffect, Run.pure.injEq] at hvalue
    subst effect
    exact hkeeps.reply_unique hkept hslot.symm
  · rintro receipt hreceipt request facts hfacts rfl hhash thread hthread given hgiven hslot
      hdigest hother answer hanswer
    obtain ⟨same, hsame, hkeeps⟩ := hreach.receipt_of_answer hthread hgiven hanswer
    rw [hslot, hreceipt, Option.some.injEq] at hsame
    subst same
    exact hother (Request.alike_of_fingerprint hfacts hgiven hslot.symm hdigest
      (hhash.symm.trans hkeeps.request_hash))

def keyedAdd (title : PyStr) : Request :=
  .addBook ⟨title, py "Ann Lee", some (py "add-book-1")⟩

/-- A character beyond the basic plane. -/
def grinning : PyStr := [0x1F600]

def grinningPair : PyStr := [0xD83D, 0xDE00]

/-- The new book has an id of its own. -/
def shelvedDraws : Draws := { sampleDraws with uuid := 7 }

/-- One request takes effect; the same again and the title as two surrogates are answered
from its receipt. -/
def titledRun : List (Interleaving.Action Request Database Draws) :=
  .start (keyedAdd grinning) :: List.replicate 4 (.observe 0 shelvedDraws) ++ [.commit 0 true,
    .start (keyedAdd grinning), .observe 1 sampleDraws,
    .start (keyedAdd grinningPair), .observe 2 sampleDraws]

/-- The slot of a request and the title among its facts. -/
def Request.titled (request : Request) : Option ((PyStr × PyStr) × Option PyStr) :=
  (request.commandFacts asciiRuntime).map fun facts =>
    (facts.slot, Response.text facts.values (py "title"))

def addSlot : PyStr × PyStr := (AddBookHandler.scope, py "add-book-1")

theorem titledRun_answers :
    ∃ world : CommandWorld, KeyedSide asciiRuntime world ∧
      (∃ entry ∈ world.log, entry.request.titled = some (addSlot, some grinning)) ∧
      ∀ title ∈ [grinning, grinningPair], ∃ thread ∈ world.threads, ∃ answer,
        thread.rest = some (.pure answer) ∧
          thread.request.titled = some (addSlot, some title) := by
  have hresult : ((Interleaving.machine (commandSide asciiRuntime)
      Database.Legible).execute sampleWorld titledRun).any (fun world =>
        (world.log.any fun entry =>
          decide (entry.request.titled = some (addSlot, some grinning))) &&
        [grinning, grinningPair].all fun title => world.threads.any fun thread =>
          thread.given.isSome && decide (thread.request.titled = some (addSlot, some title))) =
        true := by
    decide +kernel
  obtain ⟨world, hrun, hfields⟩ := (Option.any_eq_true _ _).mp hresult
  simp only [Bool.and_eq_true, List.any_eq_true, List.all_eq_true, decide_eq_true_eq] at hfields
  obtain ⟨hentry, hthreads⟩ := hfields
  refine ⟨world, ?_, hentry, fun title htitle => ?_⟩
  · exact Interleaving.reachable_execute (fun _ _ => trivial)
      (.start ⟨sampleDatabase_legible, rfl, rfl, rfl⟩) rfl hrun
  · obtain ⟨thread, hthread, hgiven, htitled⟩ := hthreads title htitle
    obtain ⟨answer, hanswer⟩ := Option.isSome_iff_exists.mp hgiven
    exact ⟨thread, hthread, answer, Interleaving.Thread.rest_of_given hanswer, htitled⟩

theorem Request.facts_of_titled {request : Request} {slot : PyStr × PyStr} {title : PyStr}
    (htitled : request.titled = some (slot, some title)) :
    ∃ facts, request.commandFacts asciiRuntime = some facts ∧ facts.slot = slot ∧
      Response.text facts.values (py "title") = some title := by
  obtain ⟨facts, hfacts, hpair⟩ := Option.map_eq_some_iff.mp htitled
  exact ⟨facts, hfacts, congrArg Prod.fst hpair, congrArg Prod.snd hpair⟩

theorem keyed_commands_once_titled :
    ∃ (world : CommandWorld) (entry : Committed) (effect : Answered), entry ∈ world.log ∧
      entry.rest = .pure effect ∧
      (world.log.filter fun entry => entry.request.Under asciiRuntime addSlot).length ≤ 1 ∧
      ∃ thread ∈ world.threads, ∃ answer, thread.rest = some (.pure answer) ∧
        answer.reply = effect.reply := by
  obtain ⟨world, hreach, ⟨entry, hentry, htitled⟩, hthreads⟩ := titledRun_answers
  obtain ⟨facts, hfacts, hslot, -⟩ := Request.facts_of_titled htitled
  obtain ⟨thread, hthread, answer, hanswer, hsame⟩ := hthreads grinning List.mem_cons_self
  obtain ⟨given, hgiven, hslot', -⟩ := Request.facts_of_titled hsame
  obtain ⟨honce, hcommits, hanswers, -⟩ := keyed_commands_once hreach addSlot
  obtain ⟨value, _, hvalue, -, -⟩ := hcommits entry hentry facts hfacts hslot
  have hunder : entry.request.Under asciiRuntime addSlot := by
    rw [Request.Under, Request.token_of_facts hfacts, Option.map_some, ← hslot]
    rfl
  exact ⟨world, entry, _, hentry, hvalue, honce, thread, hthread, answer, hanswer,
    (hanswers thread hthread given answer hgiven hslot' hanswer).2 entry hentry hunder _ hvalue⟩

/-- A request with another title is answered from the receipt of this one. -/
theorem split_title_answered :
    ∃ (world : CommandWorld) (entry : Committed) (facts given : CommandFacts),
      KeyedSide asciiRuntime world ∧ entry ∈ world.log ∧
      entry.request.commandFacts asciiRuntime = some facts ∧
      ∃ thread ∈ world.threads, thread.request.commandFacts asciiRuntime = some given ∧
        facts.slot = given.slot ∧ facts.values ≠ given.values ∧
        ∃ answer, thread.rest = some (.pure answer) := by
  obtain ⟨world, hreach, ⟨entry, hentry, htitled⟩, hthreads⟩ := titledRun_answers
  obtain ⟨facts, hfacts, hslot, htitle⟩ := Request.facts_of_titled htitled
  obtain ⟨thread, hthread, answer, hanswer, hother⟩ :=
    hthreads grinningPair (List.mem_cons_of_mem _ List.mem_cons_self)
  obtain ⟨given, hgiven, hslot', htitle'⟩ := Request.facts_of_titled hother
  refine ⟨world, entry, facts, given, hreach, hentry, hfacts, thread, hthread, hgiven,
    hslot.trans hslot'.symm, ?_, answer, hanswer⟩
  intro hsame
  rw [hsame, htitle'] at htitle
  exact absurd htitle (by decide)

end LibrarySystem
