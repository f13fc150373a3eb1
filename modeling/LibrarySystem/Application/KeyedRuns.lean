import LibrarySystem.Application.KeyedRequests

/-!
# Repetitions of a keyed request

Over every run of the command side, while receipts are kept: the receipt a batch inserts
is there from then on, so that no other batch under its key takes effect, and it reads
back as the answer of the request that stored it.
-/

namespace LibrarySystem

open Run (Knowledge)

/-! ## Texts that were stored -/

/-- Every book has a title and an author that PostgreSQL stores. -/
def Database.Legible (db : Database) : Prop :=
  ∀ id row, db.books.lookup id = some row →
    storable row.title.value = true ∧ storable row.author.value = true

section Legible

variable {db after : Database} {statement : Statement} {statements : List Statement}

theorem Database.Effect.legible (heffect : Effect db statement after)
    (htexts : statement.texts.all storable = true) (hdb : db.Legible) : after.Legible := by
  cases heffect with
  | insertBook book =>
      intro id row hrow
      by_cases hid : id = book.id.val
      · subst id
        have hsame := Table.lookup_insert db.books (BookRow.ofEntity book 0)
        rw [show row = BookRow.ofEntity book 0 from Option.some.inj (hrow.symm.trans hsame)]
        simp only [Statement.texts, List.all_cons, List.all_nil, Bool.and_true,
          Bool.and_eq_true] at htexts
        exact htexts
      · exact hdb id row (Table.lookup_insert_ne db.books (BookRow.ofEntity book 0) hid ▸ hrow)
  | updateBook current book hcurrent =>
      intro id row hrow
      by_cases hid : id = current.id.val
      · subst id
        have hsame := Table.lookup_insert db.books (current.write book)
        rw [show row = current.write book from Option.some.inj (hrow.symm.trans hsame)]
        exact hdb _ current hcurrent
      · exact hdb id row (Table.lookup_insert_ne db.books (current.write book) hid ▸ hrow)
  | _ => exact hdb

/-- A batch that took effect has only texts that can be stored. -/
theorem Database.runAll_storable (hrun : db.runAll statements = .ok after) :
    ∀ statement ∈ statements, statement.texts.all storable = true := by
  induction statements generalizing db with
  | nil => exact fun _ hmem => by cases hmem
  | cons first rest ih =>
      obtain ⟨middle, hfirst, hrest⟩ := Result.bind_eq_ok.mp hrun
      intro statement hmem
      rcases List.mem_cons.mp hmem with rfl | hmem
      · unfold Database.run at hfirst
        split_ifs at hfirst with htexts
        exact htexts
      · exact ih hrest statement hmem

theorem Database.runAll_legible (hrun : db.runAll statements = .ok after)
    (hdb : db.Legible) : after.Legible := by
  have htexts := runAll_storable hrun
  have heffects := runAll_effects hrun
  clear hrun
  induction heffects with
  | nil => exact hdb
  | cons hfirst _ ih =>
      exact ih (hfirst.legible (htexts _ List.mem_cons_self) hdb)
        fun statement hmem => htexts statement (List.mem_cons_of_mem _ hmem)

end Legible

/-! ## The answers are read back -/

theorem PlainTexts.of_storable {texts : List PyStr}
    (htexts : ∀ text ∈ texts, storable text = true) : PlainTexts texts :=
  fun text htext => hasSplitPair_of_storable (htexts text htext)

theorem storable_uuidText (token : Uuid) : storable (uuidText token) = true :=
  storable_of_matchesUuidPattern (uuidText_matches token)

theorem PatronSnapshot.plain_ofPatron {patron : Patron}
    (htexts : ([patron.name.first_name.value, patron.name.last_name.value] ++
      (patron.suspended_reason.map BoundedText.value).toList).all storable = true) :
    Restorable.Plain (PatronSnapshot.ofPatron patron) := by
  simp only [List.all_append, List.all_cons, List.all_nil, Bool.and_true,
    Bool.and_eq_true, List.all_eq_true] at htexts
  obtain ⟨⟨hfirst, hlast⟩, hreason⟩ := htexts
  have htier : PyStr.hasSplitPair patron.membership_tier.value = false := by
    cases patron.membership_tier <;> decide
  have hemail := Json.hasSplitPair_of_isAscii patron.email.isAscii_value
  simp only [Restorable.Plain, PlainTexts, PatronSnapshot.ofPatron, List.cons_append,
    List.nil_append, List.forall_mem_cons]
  exact ⟨hasSplitPair_of_storable (storable_reference patron.id),
    hasSplitPair_of_storable (storable_fullName hfirst hlast), hasSplitPair_of_storable hfirst,
    hasSplitPair_of_storable hlast, hemail, htier,
    fun text htext => hasSplitPair_of_storable (hreason text htext)⟩

theorem Batch.Writes.write_mem {rt : PythonRuntime} {batch : Batch} {piece : Piece}
    (hwrites : batch.Writes rt [piece]) : piece.write ∈ batch.statements := by
  obtain ⟨_, _, _, -, -, rfl⟩ := hwrites
  simp [Piece.statements]

section Answers

variable {rt : PythonRuntime} {request : Request} {token : RequestToken}
  {known : Knowledge Observation PyStr} {batch : Batch}

theorem PatronPolicyChange.plain {scope patron_id : PyStr} {facts : List (PyStr × Json)}
    {transition : Patron → Except Raised (Patron × List AggregateEvent)}
    {key : Except AppException (Option IdempotencyKey)} {value : PatronSnapshot}
    (htexts : ∀ statement ∈ batch.statements, statement.texts.all storable = true)
    (hcommits : (PatronPolicyChange.spec rt scope patron_id facts transition key).commits
      known batch value) :
    Restorable.Plain value := by
  obtain ⟨_, _, _, _, _, _, -, -, -, -, -, rfl, hwrites⟩ := hcommits
  exact PatronSnapshot.plain_ofPatron (htexts _ hwrites.write_mem)

/-- The answer of a batch that took effect has only texts that can be stored. -/
theorem Request.commits_plain {value : request.Result}
    (hcommits : (request.spec rt).commits known batch value)
    (hseen : ∀ seen ∈ known.seen, seen.database.Legible)
    (htexts : ∀ statement ∈ batch.statements, statement.texts.all storable = true) :
    (request.reply value).Plain := by
  cases request with
  | addBook command =>
      obtain ⟨_, title, author, id, _, -, -, -, rfl, hwrites⟩ := hcommits
      have hstored := htexts _ hwrites.write_mem
      simp only [Piece.inserted, Statement.texts, List.all_cons, List.all_nil, Bool.and_true,
        Bool.and_eq_true] at hstored
      have hstatus : storable BookStatus.available.value = true := by decide
      apply PlainTexts.of_storable
      simp only [AddBookHandler.result, Book.initial, List.forall_mem_cons]
      exact ⟨storable_reference id, hstored.1, hstored.2, hstatus, by simp⟩
  | registerPatron command =>
      obtain ⟨_, _, _, _, _, _, patron, _, _, -, -, -, -, -, rfl, hwrites⟩ := hcommits
      exact PatronSnapshot.plain_ofPatron (htexts _ hwrites.write_mem)
  | suspendPatron command | reinstatePatron command =>
      exact PatronPolicyChange.plain htexts hcommits
  | upgradePatronTier command =>
      obtain ⟨_, -, hcommits⟩ := hcommits
      exact PatronPolicyChange.plain htexts hcommits
  | circulation command =>
      cases command with
      | borrowBook command =>
          obtain ⟨_, _, _, row, book, _, _, _, _, _, _, -, -, -, -,
            ⟨⟨seen, hmem, hrow⟩, hbook⟩, hreserve, rfl, -⟩ := hcommits
          obtain ⟨-, -, _, _, _, -, -, -, -, htitle, hauthor, -, hstate, -⟩ :=
            Book.reserve_ok hreserve
          have hstored := hseen seen hmem _ row hrow
          rw [(BookRow.toEntity_eq_ok_iff row book).mp hbook] at hstored
          constructor
          · simp only [BorrowBookHandler.result, hstate, ReturnDueDate.ofDate]
          · apply PlainTexts.of_storable
            simp only [BorrowBookHandler.result, htitle, hauthor, hstate, List.forall_mem_cons]
            exact ⟨storable_reference _, hstored.1, hstored.2, storable_uuidText _,
              storable_uuidText _, by decide, by simp⟩
      | extendLoan command =>
          obtain ⟨_, _, _, _, _, _, _, -, -, -, rfl, -⟩ := hcommits
          apply PlainTexts.of_storable
          simp only [ExtendLoanHandler.result, List.forall_mem_cons]
          exact ⟨storable_reference _, by simp⟩
      | returnLoan command =>
          obtain ⟨_, _, _, _, _, _, _, _, -, -, -, -, rfl, -⟩ := hcommits
          apply PlainTexts.of_storable
          simp only [ReturnLoanHandler.result, List.forall_mem_cons]
          exact ⟨storable_reference _, by simp⟩
      | _ => trivial

end Answers

/-! ## Receipts stay -/

section Receipts

variable {db after : Database} {statement : Statement} {statements : List Statement}

theorem Database.Effect.receipt_kept {slot : PyStr × PyStr} {receipt : CommandReceipt}
    (heffect : Effect db statement after)
    (hfound : db.command_receipts.lookup slot = some receipt) :
    after.command_receipts.lookup slot = some receipt := by
  cases heffect with
  | insertReceipt scope key _ hnew =>
      have hne : slot ≠ (scope, key) := by
        rintro rfl
        rw [hnew] at hfound
        cases hfound
      rw [AList.lookup_insert_ne hne]
      exact hfound
  | _ => exact hfound

theorem Database.Effects.receipt_kept {slot : PyStr × PyStr} {receipt : CommandReceipt}
    (heffects : Effects db statements after)
    (hfound : db.command_receipts.lookup slot = some receipt) :
    after.command_receipts.lookup slot = some receipt := by
  induction heffects with
  | nil => exact hfound
  | cons hfirst _ ih => exact ih (hfirst.receipt_kept hfound)

/-- A receipt that a batch inserted is new, and it is there afterwards. -/
theorem Database.Effects.receipt_inserted {scope key : PyStr} {receipt : CommandReceipt}
    (heffects : Effects db statements after)
    (hmem : Statement.insertReceipt scope key receipt ∈ statements) :
    db.command_receipts.lookup (scope, key) = none ∧
      after.command_receipts.lookup (scope, key) = some receipt := by
  obtain ⟨earlier, later, rfl⟩ := List.append_of_mem hmem
  obtain ⟨middle, hearlier, hrest⟩ := heffects.append
  cases hrest with
  | cons hfirst hlater =>
      cases hfirst with
      | insertReceipt _ _ _ hnew =>
          constructor
          · cases hfound : db.command_receipts.lookup (scope, key) with
            | none => rfl
            | some other =>
                rw [hearlier.receipt_kept hfound] at hnew
                cases hnew
          · exact hlater.receipt_kept (AList.lookup_insert _)

end Receipts

/-! ## One effect for each key -/

/-- Retention before the expiry of a receipt. -/
structure ReceiptsKept (db after : Database) : Prop where
  upkeep : Upkeep db after
  receipts : after.command_receipts = db.command_receipts

/-- The runs of the command side in which receipts are kept. -/
def KeyedSide (rt : PythonRuntime) (world : CommandWorld) : Prop :=
  (Interleaving.machine (commandSide rt) Database.Legible).ReachableUnder
    (Interleaving.Allowed (fun _ _ => True) ReceiptsKept) world

def RequestToken.slot (token : RequestToken) : PyStr × PyStr := (token.scope, token.key.val)

def Answered.reply (answer : Answered) : Reply := answer.1.reply answer.2

/-- The request has the scope and the key. -/
def Request.Under (rt : PythonRuntime) (slot : PyStr × PyStr) (request : Request) : Prop :=
  (request.token rt).map RequestToken.slot = some slot

instance (rt : PythonRuntime) (slot : PyStr × PyStr) :
    DecidablePred (Request.Under rt slot) :=
  fun request => inferInstanceAs (Decidable ((request.token rt).map _ = some slot))

/-- The entry left its receipt, which reads back as its answer. -/
def LeavesReceipt (rt : PythonRuntime) (state : Database) (entry : Committed) : Prop :=
  ∀ token, entry.request.token rt = some token →
    ∃ value : entry.request.Result, entry.rest = .pure (entry.request.answer value) ∧
      (entry.request.reply value).Plain ∧
      state.command_receipts.lookup token.slot =
        some (token.receipt rt (entry.request.reply value))

/-- What the runs keep. -/
structure KeyedOnce (rt : PythonRuntime) (past : Set Database) (log : List Committed)
    (state : Database) : Prop where
  legible : ∀ view ∈ past, view.Legible
  kept : ∀ view ∈ past, ∀ slot receipt, view.command_receipts.lookup slot = some receipt →
    state.command_receipts.lookup slot = some receipt
  left : ∀ entry ∈ log, LeavesReceipt rt state entry
  once : ∀ slot, (log.filter fun entry => entry.request.Under rt slot).length ≤ 1

section Runs

variable {rt : PythonRuntime} {past : Set Database} {log : List Committed}
  {state after : Database} {entry : Committed} {world : CommandWorld}

theorem LeavesReceipt.mono (hleft : LeavesReceipt rt state entry)
    (hkept : ∀ slot receipt, state.command_receipts.lookup slot = some receipt →
      after.command_receipts.lookup slot = some receipt) : LeavesReceipt rt after entry := by
  intro token htoken
  obtain ⟨value, hrest, hplain, hfound⟩ := hleft token htoken
  exact ⟨value, hrest, hplain, hkept _ _ hfound⟩

/-- A key whose receipt is not there has had no effect. -/
theorem KeyedOnce.unused (honce : KeyedOnce rt past log state) {slot : PyStr × PyStr}
    (hnone : state.command_receipts.lookup slot = none) :
    (log.filter fun entry => entry.request.Under rt slot) = [] := by
  rw [List.filter_eq_nil_iff]
  intro entry hentry hunder
  obtain ⟨token, htoken, rfl⟩ := Option.map_eq_some_iff.mp (of_decide_eq_true hunder)
  obtain ⟨_, -, -, hfound⟩ := honce.left entry hentry token htoken
  rw [hnone] at hfound
  cases hfound

theorem KeyedOnce.land (honce : KeyedOnce rt past log state)
    (hkept : ∀ slot receipt, state.command_receipts.lookup slot = some receipt →
      after.command_receipts.lookup slot = some receipt)
    (hlegible : after.Legible) (hleft : LeavesReceipt rt after entry)
    (hnew : ∀ token, entry.request.token rt = some token →
      state.command_receipts.lookup token.slot = none) :
    KeyedOnce rt (insert after past) (log ++ [entry]) after where
  legible := by
    rintro view (rfl | hview)
    · exact hlegible
    · exact honce.legible view hview
  kept := by
    rintro view (rfl | hview) slot receipt hfound
    · exact hfound
    · exact hkept slot receipt (honce.kept view hview slot receipt hfound)
  left := by
    intro other hother
    rcases List.mem_append.mp hother with hold | hlast
    · exact (honce.left other hold).mono hkept
    · rw [List.mem_singleton.mp hlast]
      exact hleft
  once slot := by
    rw [List.filter_append, List.length_append]
    by_cases hunder : entry.request.Under rt slot
    · obtain ⟨token, htoken, rfl⟩ := Option.map_eq_some_iff.mp hunder
      rw [honce.unused (hnew token htoken)]
      exact (Nat.zero_add _).trans_le (List.length_filter_le _ _)
    · rw [List.filter_cons_of_neg (by simpa using hunder)]
      exact honce.once slot

theorem keyedOnce_keeps (rt : PythonRuntime) :
    Interleaving.Keeps (commandSide rt) (Request.outcome rt) Database.Legible
      (fun _ _ => True) ReceiptsKept (KeyedOnce rt) (fun _ _ _ => True) := by
  constructor
  · intro state hlegible
    constructor
    · rintro view rfl
      exact hlegible
    · rintro view rfl _ _ hfound
      exact hfound
    · exact fun _ hentry => by cases hentry
    · exact fun _ => Nat.zero_le 1
  · exact fun _ _ _ => trivial
  · rintro past log state honce hmem entry known answer after rfl rfl - hviewed - hcommits
      hrest happly
    obtain ⟨value, rfl, hcommits⟩ := hcommits
    have heffects := Database.runAll_effects happly
    have hseen : ∀ seen ∈ known.seen, seen.database.Legible := by
      intro seen hmem
      obtain ⟨view, hview, draw, rfl⟩ := hviewed seen hmem
      exact honce.legible view hview
    have hplain := entry.request.commits_plain hcommits hseen
      (Database.runAll_storable happly)
    refine ⟨honce.land (fun _ _ => heffects.receipt_kept)
      (Database.runAll_legible happly (honce.legible _ hmem)) ?_ ?_, fun _ _ _ _ => trivial⟩
    · exact fun token htoken => ⟨value, hrest, hplain,
        (heffects.receipt_inserted (Request.commits_receipt hcommits htoken)).2⟩
    · exact fun token htoken =>
        (heffects.receipt_inserted (Request.commits_receipt hcommits htoken)).1
  · intro past log state after honce hmem hchange
    have hkept : ∀ slot receipt, state.command_receipts.lookup slot = some receipt →
        after.command_receipts.lookup slot = some receipt := by
      intro slot receipt hfound
      rw [hchange.receipts]
      exact hfound
    refine ⟨⟨?_, ?_, fun entry hentry => (honce.left entry hentry).mono hkept, honce.once⟩,
      fun _ _ _ => trivial⟩
    · rintro view (rfl | hview)
      · intro id row hrow
        rw [hchange.upkeep.books] at hrow
        exact honce.legible state hmem id row hrow
      · exact honce.legible view hview
    · rintro view (rfl | hview) slot receipt hfound
      · exact hfound
      · exact hkept slot receipt (honce.kept view hview slot receipt hfound)

theorem KeyedSide.once (hreach : KeyedSide rt world) :
    KeyedOnce rt world.past world.log world.shared :=
  (Interleaving.reachable_keeps (keyedOnce_keeps rt)
    (fun _ request _ => request.program_meets rt .nothing) hreach).1

/-- An answer to a keyed request is in the receipt of its key, with its fingerprint. -/
theorem KeyedSide.answered (hreach : KeyedSide rt world)
    {thread : Interleaving.Thread Request Observation PyStr Batch Refusal AppException Answered}
    (hthread : thread ∈ world.threads) {token : RequestToken}
    (htoken : thread.request.token rt = some token) {answer : Answered}
    (hanswer : thread.rest = some (.pure answer)) :
    ∃ receipt, world.shared.command_receipts.lookup token.slot = some receipt ∧
      receipt.request_hash = token.request_hash ∧
      Reply.load rt token.scope receipt.response_payload = some answer.reply := by
  have honce := hreach.once
  have hsane := (Interleaving.reachable_sane
    (fun _ request _ => request.program_meets rt .nothing) hreach).threads thread hthread
  cases hcommitted : thread.committed with
  | false =>
      obtain ⟨value, rfl, hreturns⟩ := hsane.running hcommitted _ hanswer
      obtain ⟨receipt, ⟨seen, hseen, hfound⟩, hhash, hload⟩ :=
        Request.returns_answers hreturns htoken
      obtain ⟨view, hview, draw, rfl⟩ := hsane.viewed seen hseen
      exact ⟨receipt, honce.kept view hview _ receipt hfound, hhash, hload⟩
  | true =>
      obtain hnone | ⟨entry, hentry, hrequest, hrest⟩ := hsane.settled hcommitted
      · rw [hanswer] at hnone
        cases hnone
      · rw [← hrequest] at htoken
        obtain ⟨value, hvalue, hplain, hfound⟩ := honce.left entry hentry token htoken
        rw [hanswer, hvalue, Option.some.injEq, Run.pure.injEq] at hrest
        subst answer
        exact ⟨_, hfound, rfl, Reply.load_dump rt (Request.scope_mem htoken value) hplain⟩

/-- A request with this token has answered, or took effect with this answer. -/
inductive Gave (rt : PythonRuntime) (world : CommandWorld) (token : RequestToken)
    (answer : Answered) : Prop
  | answered
      (thread : Interleaving.Thread Request Observation PyStr Batch Refusal AppException Answered)
      (hthread : thread ∈ world.threads) (htoken : thread.request.token rt = some token)
      (hanswer : thread.rest = some (.pure answer))
  | committed (entry : Committed) (hentry : entry ∈ world.log)
      (htoken : entry.request.token rt = some token) (hanswer : entry.rest = .pure answer)

theorem KeyedSide.gave (hreach : KeyedSide rt world) {token : RequestToken}
    {answer : Answered} (hgave : Gave rt world token answer) :
    ∃ receipt, world.shared.command_receipts.lookup token.slot = some receipt ∧
      receipt.request_hash = token.request_hash ∧
      Reply.load rt token.scope receipt.response_payload = some answer.reply := by
  cases hgave with
  | answered thread hthread htoken hanswer => exact hreach.answered hthread htoken hanswer
  | committed entry hentry htoken hanswer =>
      obtain ⟨value, hvalue, hplain, hfound⟩ := hreach.once.left entry hentry token htoken
      rw [hanswer, Run.pure.injEq] at hvalue
      subst answer
      exact ⟨_, hfound, rfl, Reply.load_dump rt (Request.scope_mem htoken value) hplain⟩

end Runs

/-- However the repetitions of a keyed request interleave and wherever they are cut off,
one of them takes effect at most; all that answer have its facts and give its answer. -/
theorem repetitions_answer_alike {rt : PythonRuntime} {world : CommandWorld}
    (hreach : KeyedSide rt world) (slot : PyStr × PyStr) :
    (world.log.filter fun entry => entry.request.Under rt slot).length ≤ 1 ∧
      ∀ token other answer given, token.slot = slot → other.slot = slot →
        Gave rt world token answer → Gave rt world other given →
          token.request_hash = other.request_hash ∧ answer.reply = given.reply := by
  constructor
  · exact hreach.once.once slot
  · intro token other answer given htoken hother hfirst hsecond
    obtain ⟨receipt, hfound, hhash, hload⟩ := hreach.gave hfirst
    obtain ⟨same, hsame, hhash', hload'⟩ := hreach.gave hsecond
    rw [htoken] at hfound
    rw [hother, hfound, Option.some.injEq] at hsame
    subst same
    have hscope : token.scope = other.scope := congrArg Prod.fst (htoken.trans hother.symm)
    rw [← hscope, hload, Option.some.injEq] at hload'
    exact ⟨hhash.symm.trans hhash', hload'⟩

def keyedBorrow : Request :=
  .circulation (.borrowBook ⟨uuidText 1, py "ann@lee.org", some (py "borrow-1")⟩)

/-- Two requests at once: the one that takes effect loses its answer, the other is
refused; a third is answered from the receipt. -/
def repeatedRun : List (Interleaving.Action Request Database Draws) :=
  [.start keyedBorrow, .start keyedBorrow] ++
    List.replicate 7 (.observe 0 sampleDraws) ++ List.replicate 7 (.observe 1 sampleDraws) ++
    [.commit 0 false, .commit 1 true, .start keyedBorrow, .observe 2 sampleDraws]

def Interleaving.Thread.given
    (thread : Thread Request Observation PyStr Batch Refusal AppException Answered) :
    Option Answered :=
  match thread.rest with
  | some (.pure answer) => some answer
  | _ => none

theorem Interleaving.Thread.rest_of_given
    {thread : Thread Request Observation PyStr Batch Refusal AppException Answered}
    {answer : Answered} (hgiven : thread.given = some answer) :
    thread.rest = some (.pure answer) := by
  unfold Interleaving.Thread.given at hgiven
  split at hgiven
  · rename_i hrest
    rw [hrest, Option.some.inj hgiven]
  · cases hgiven

theorem sampleDatabase_legible : sampleDatabase.Legible := by
  intro id row hrow
  have hmem : row ∈ sampleDatabase.books.rows :=
    (Table.mem_rows _ _).mpr (sampleDatabase.books.keyed id row hrow ▸ hrow)
  have hall : sampleDatabase.books.rows.all (fun row =>
      storable row.title.value && storable row.author.value) = true := by decide +kernel
  exact Bool.and_eq_true_iff.mp (List.all_eq_true.mp hall row hmem)

theorem repetitions_answer_alike_borrow :
    ∃ (world : CommandWorld) (token : RequestToken) (answer effect : Answered),
      world.threads.length = 3 ∧ Gave asciiRuntime world token answer ∧
        Gave asciiRuntime world token effect ∧
          (world.log.filter fun entry => entry.request.Under asciiRuntime token.slot).length ≤ 1 ∧
            answer.reply = effect.reply := by
  have hresult : ((Interleaving.machine (commandSide asciiRuntime)
      Database.Legible).execute sampleWorld repeatedRun).any (fun world =>
        decide (world.threads.length = 3) && world.threads[2]?.any fun third =>
          third.given.isSome && decide (third.request.token asciiRuntime =
            keyedBorrow.token asciiRuntime) && world.log.any fun entry =>
              decide (entry.request.token asciiRuntime = keyedBorrow.token asciiRuntime)) =
        true := by
    decide +kernel
  obtain ⟨world, hrun, hfields⟩ := (Option.any_eq_true _ _).mp hresult
  simp only [Bool.and_eq_true, decide_eq_true_eq] at hfields
  obtain ⟨hlength, hthird⟩ := hfields
  obtain ⟨third, hthird, hfields⟩ := (Option.any_eq_true _ _).mp hthird
  simp only [Bool.and_eq_true, decide_eq_true_eq, List.any_eq_true] at hfields
  obtain ⟨⟨hgiven, htoken⟩, entry, hentry, hsame⟩ := hfields
  obtain ⟨answer, hanswer⟩ := Option.isSome_iff_exists.mp hgiven
  have hkeyed : (keyedBorrow.token asciiRuntime).isSome = true := by decide +kernel
  obtain ⟨token, hkeyed⟩ := Option.isSome_iff_exists.mp hkeyed
  rw [hkeyed] at htoken hsame
  have hreach : KeyedSide asciiRuntime world :=
    Interleaving.reachable_execute (fun _ _ => trivial)
      (.start ⟨sampleDatabase_legible, rfl, rfl, rfl⟩) rfl hrun
  obtain ⟨value, heffect, -⟩ := hreach.once.left entry hentry token hsame
  have hfirst : Gave asciiRuntime world token answer :=
    .answered third (List.mem_of_getElem? hthird) htoken
      (Interleaving.Thread.rest_of_given hanswer)
  have hsecond : Gave asciiRuntime world token (entry.request.answer value) :=
    .committed entry hentry hsame heffect
  obtain ⟨honce, hall⟩ := repetitions_answer_alike hreach token.slot
  exact ⟨world, token, answer, _, hlength, hfirst, hsecond, honce,
    (hall token token _ _ rfl rfl hfirst hsecond).2⟩

end LibrarySystem
