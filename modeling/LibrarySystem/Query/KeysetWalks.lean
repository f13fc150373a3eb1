import LibrarySystem.Query.Listings
import Mathlib.Data.Prod.Lex

/-!
# Walks through the listings of the database

A client that passes the sort key of each page's last item on to the next request gets
every matching row once, in the advertised order, and comes to an end.
-/

namespace LibrarySystem

open Result

/-- The columns of an order; the id decides between equal first columns. -/
structure SortKey (First : Type) where
  first : First
  id : PyStr

namespace SortKey

variable {First Value Text : Type} [LinearOrder Value] [LinearOrder Text]

/-- The lexicographic order, the first column by its value. -/
abbrev order (value : First → Value) (hvalue : Function.Injective value) (db : Collation Text) :
    LinearOrder (SortKey First) :=
  LinearOrder.lift' (fun key => toLex (value key.first, db.key key.id)) <| by
    rintro ⟨first, id⟩ ⟨other, otherId⟩ hsame
    have hpair := Prod.mk.inj (congrArg ofLex hsame)
    exact congrArg₂ SortKey.mk (hvalue hpair.1) (db.key_injective hpair.2)

variable {value : First → Value} {hvalue : Function.Injective value} {db : Collation Text}

theorem order_le_iff (left right : SortKey First) :
    (order value hvalue db).le left right ↔
      value left.first < value right.first ∨
        (left.first = right.first ∧ db.key left.id ≤ db.key right.id) := by
  change toLex (value left.first, db.key left.id) ≤ toLex (value right.first, db.key right.id) ↔ _
  rw [Prod.Lex.toLex_le_toLex]
  simp only [hvalue.eq_iff]

theorem order_lt_iff (left right : SortKey First) :
    (order value hvalue db).lt left right ↔
      value left.first < value right.first ∨
        (left.first = right.first ∧ db.key left.id < db.key right.id) := by
  change toLex (value left.first, db.key left.id) < toLex (value right.first, db.key right.id) ↔ _
  rw [Prod.Lex.toLex_lt_toLex]
  simp only [hvalue.eq_iff]

end SortKey

/-- A sort value as it comes back in a cursor: an instant is a text there. -/
def inCursor : PyValue → PyValue
  | .datetime value => .str value.isoformat
  | value => value

namespace Listing

variable {Row Item κ : Type} (listing : Listing Row Item) (rt : PythonRuntime)

/-- The items of a page, and the key of the last one when there is another page; `pass`
says in which form the client hands the key on. -/
def fetchFromDb (limit : ℤ) (scope : PyStr) (pass : PyValue → PyValue) (rows : List Row)
    (cursorValues : Option (PyValue × PyValue)) :
    Except QueryException (List Item × Option (PyValue × PyValue)) := do
  let page ← listing.findPageFromDb rt limit 0 cursorValues scope rows
  pure (page.items, page.next_cursor.bind fun _ => page.items.getLast?.map fun last =>
    (pass (listing.sortValues last).1, pass (listing.sortValues last).2))

/-- The walk ends, and its pages are the matching rows, each once and in order. -/
def WalksComplete (limit : ℤ) (scope : PyStr) (pass : PyValue → PyValue) (rows : List Row) :
    Prop :=
  ∃ (pages : List (List Item)) (ordered : List Row),
    Keyset.Walk (listing.fetchFromDb rt limit scope pass rows) none pages ∧
    pages.flatten = ordered.map listing.item ∧
    ordered.Perm (rows.filter listing.selects) ∧
    ordered.Pairwise fun left right => listing.precedes left right = true

/-- The order, the condition of a cursor and the sort values are those of one key. -/
structure KeyedBy [LinearOrder κ] (key : Row → κ) (values : κ → PyValue × PyValue)
    (pass : PyValue → PyValue) (rows : List Row) : Prop where
  precedes : ∀ left right, listing.precedes left right = decide (key left ≤ key right)
  after : ∀ bound, listing.after (values bound) = .ok fun row => decide (bound < key row)
  last : ∀ row ∈ rows, (pass (listing.sortValues (listing.item row)).1,
    pass (listing.sortValues (listing.item row)).2) = values (key row)
  encoded : ∀ row ∈ rows, ∃ sort, PyValue.toJsonItems cursorDefault
    [(listing.sortValues (listing.item row)).1,
      (listing.sortValues (listing.item row)).2] = .ok sort

section Complete

variable {listing rt} [LinearOrder κ] {key : Row → κ} {values : κ → PyValue × PyValue}
  {pass : PyValue → PyValue} {rows : List Row} {limit : ℤ} {scope : PyStr}

/-- The SELECT is a page of the key's listing. -/
theorem KeyedBy.select (hkeyed : listing.KeyedBy key values pass rows) (bound : Option κ) :
    listing.select limit 0 (bound.map values) rows =
      .ok (Keyset.page key limit.toNat bound (rows.filter listing.selects)) := by
  have hsort : ∀ found : List Row, found.mergeSort listing.precedes = Keyset.ordered key found := by
    intro found
    have hprecedes : listing.precedes = fun left right => decide (key left ≤ key right) :=
      funext fun left => funext fun right => hkeyed.precedes left right
    rw [hprecedes]
    rfl
  cases bound with
  | none =>
      have hall : Keyset.later key none (rows.filter listing.selects) =
          rows.filter listing.selects := by
        unfold Keyset.later
        simp
      simp only [Listing.select, Option.map_none, pure_eq, ok_bind, hsort, Int.toNat_zero,
        List.drop_zero, Keyset.page, hall]
  | some bound =>
      simp only [Listing.select, Option.map_some, hkeyed.after, pure_eq, ok_bind, hsort,
        Int.toNat_zero, List.drop_zero, Keyset.page, Keyset.later, Option.all_some]

/-- A request is answered with the page of the key's listing. -/
theorem KeyedBy.fetch (hkeyed : listing.KeyedBy key values pass rows) (hlimit : 1 ≤ limit)
    (bound : Option κ) :
    listing.fetchFromDb rt limit scope pass rows (bound.map values) =
      .ok ((Keyset.page key limit.toNat bound (rows.filter listing.selects)).map listing.item,
        (Keyset.next key limit.toNat
          (Keyset.page key limit.toNat bound (rows.filter listing.selects))).map values) := by
  have hmem : ∀ row ∈ Keyset.page key limit.toNat bound (rows.filter listing.selects),
      row ∈ rows := by
    intro row hrow
    have hlater := (Keyset.ordered_perm key _).mem_iff.mp (List.mem_of_mem_take hrow)
    exact (List.mem_filter.mp (List.mem_filter.mp hlater).1).1
  unfold fetchFromDb findPageFromDb
  rw [hkeyed.select, ok_bind]
  generalize Keyset.page key limit.toNat bound (rows.filter listing.selects) = found at hmem ⊢
  rcases List.eq_nil_or_concat' found with rfl | ⟨earlier, row, rfl⟩
  · have hempty : Keyset.next key limit.toNat ([] : List Row) = none := by
      unfold Keyset.next
      split <;> rfl
    rw [hempty]
    rfl
  · obtain ⟨sort, hsort⟩ := hkeyed.encoded row (hmem row (by simp))
    have hlast := hkeyed.last row (hmem row (by simp))
    have hlength : ((((earlier ++ [row]).map listing.item).length : ℤ) = limit) ↔
        (earlier ++ [row]).length = limit.toNat := by
      rw [List.length_map]
      omega
    simp only [nextCursor, List.map_append, List.map_cons, List.map_nil,
      List.getLast?_append, List.getLast?_singleton, Option.some_or]
    rw [← List.map_singleton, ← List.map_append]
    by_cases hfull : (earlier ++ [row]).length = limit.toNat
    · rw [if_pos (hlength.mpr hfull)]
      unfold encodeCursor Keyset.next
      rw [hsort, if_pos hfull]
      simp [← hlast]
    · rw [if_neg (mt hlength.mp hfull)]
      unfold Keyset.next
      rw [if_neg hfull]
      rfl

theorem KeyedBy.walksComplete (hkeyed : listing.KeyedBy key values pass rows)
    (hlimit : 1 ≤ limit) (hkeys : (rows.map key).Nodup) :
    listing.WalksComplete rt limit scope pass rows := by
  have hselected : ((rows.filter listing.selects).map key).Nodup :=
    (List.filter_sublist.map key).nodup hkeys
  have hcomplete : ∃ pages,
      Keyset.Walk (Keyset.fetch (ε := QueryException) key limit.toNat
        (rows.filter listing.selects)) none pages ∧
      pages.flatten = Keyset.ordered key (rows.filter listing.selects) :=
    Keyset.walk_complete (by omega) hselected
  obtain ⟨pages, hwalk, hflatten⟩ := hcomplete
  have hfetch : ∀ (bound : Option κ) (items : List Row) (next : Option κ),
      Keyset.fetch (ε := QueryException) key limit.toNat
        (rows.filter listing.selects) bound = .ok (items, next) →
      listing.fetchFromDb rt limit scope pass rows (bound.map values) =
        .ok (items.map listing.item, next.map values) := by
    intro bound items next hanswer
    unfold Keyset.fetch at hanswer
    simp only [Except.ok.injEq, Prod.mk.injEq] at hanswer
    rw [hkeyed.fetch hlimit, ← hanswer.2, hanswer.1]
  refine ⟨pages.map (List.map listing.item),
    Keyset.ordered key (rows.filter listing.selects), ?_, ?_, Keyset.ordered_perm _ _, ?_⟩
  · exact Keyset.Walk.map hfetch hwalk
  · rw [← hflatten, List.map_flatten]
  · refine (Keyset.ordered_pairwise hselected).imp fun hlt => ?_
    rw [hkeyed.precedes, decide_eq_true_eq]
    exact hlt.le

end Complete

end Listing

/-! ## The three listings -/

section Repositories

variable {Text : Type} [LinearOrder Text] (rt : QueryRuntime) (db : Collation Text)
  {limit : ℤ} {scope : PyStr} {pass : PyValue → PyValue}

theorem cursorDatetime_pass (hpass : pass = id ∨ pass = inCursor) (t : UtcDateTime) :
    cursorDatetime rt (pass (.datetime (.ofUtc t))) = .ok (.ofUtc t) := by
  rcases hpass with rfl | rfl
  · rfl
  · simp only [inCursor, DateTime.isoformat_ofUtc, cursorDatetime, replaceZulu_isoformat,
      rt.fromisoformat_isoformat]
    simp only [DateTime.ofUtc]
    rw [DateTime.astimezoneUtc_zero]
    rfl

theorem pass_str (hpass : pass = id ∨ pass = inCursor) (text : PyStr) :
    pass (.str text) = .str text := by
  rcases hpass with rfl | rfl <;> rfl

theorem bindTimestamp_ofUtc (t : UtcDateTime) : bindTimestamp (.ofUtc t) = .ok t := by
  unfold bindTimestamp
  simp only [DateTime.ofUtc]
  rw [DateTime.astimezoneUtc_zero]
  rfl

/-- The cursor's instant reaches the condition of the SELECT. -/
theorem bind_cursor_instant {α : Type} (hpass : pass = id ∨ pass = inCursor) (t : UtcDateTime)
    (condition : UtcDateTime → Except QueryException α) :
    (cursorDatetime rt (pass (.datetime (.ofUtc t))) >>= fun value =>
      bindTimestamp value >>= condition) = condition t := by
  rw [cursorDatetime_pass rt hpass, ok_bind, bindTimestamp_ofUtc, ok_bind]

/-- The folded title, then the id. -/
def BookModel.sortKey (row : BookModel) : SortKey PyStr := ⟨db.lower row.title, row.id⟩

theorem BookQueryRepository.walksComplete (hlimit : 1 ≤ limit)
    (hpass : pass = id ∨ pass = inCursor) (filters : BookFilters) {rows : List BookModel}
    (hids : (rows.map BookModel.id).Nodup)
    (hlower : ∀ row ∈ rows, db.lower row.title = rt.lower row.title) :
    (BookQueryRepository.listing rt db filters).WalksComplete rt.toPythonRuntime limit scope pass
      rows := by
  let order : LinearOrder (SortKey PyStr) := SortKey.order db.key db.key_injective db
  have hkeyed : (BookQueryRepository.listing rt db filters).KeyedBy (BookModel.sortKey db)
      (fun key => (.str key.first, .str key.id)) pass rows :=
    { precedes := fun left right => by
        rw [Bool.eq_iff_iff, decide_eq_true_eq]
        refine Iff.trans ?_ (SortKey.order_le_iff _ _).symm
        simp only [BookQueryRepository.listing, BookModel.sortKey, Bool.or_eq_true,
          Bool.and_eq_true, decide_eq_true_eq]
      after := fun bound => by
        refine congrArg Except.ok (funext fun row => ?_)
        rw [Bool.eq_iff_iff, decide_eq_true_eq]
        refine Iff.trans ?_ (SortKey.order_lt_iff _ _).symm
        simp only [rt.str_str, BookModel.sortKey, Bool.or_eq_true, Bool.and_eq_true,
          decide_eq_true_eq]
        exact or_congr Iff.rfl (and_congr_left' eq_comm)
      last := fun row hrow => by
        simp only [BookQueryRepository.listing, pass_str hpass, BookModel.toReadModel,
          BookModel.sortKey, hlower row hrow]
      encoded := fun row _ => ⟨_, rfl⟩ }
  refine hkeyed.walksComplete hlimit (List.Nodup.of_map SortKey.id ?_)
  rw [List.map_map]
  exact hids

/-- The registration, then the id. -/
def PatronModel.sortKey (row : PatronModel) : SortKey UtcDateTime := ⟨row.registered_at, row.id⟩

theorem PatronQueryRepository.walksComplete (hlimit : 1 ≤ limit)
    (hpass : pass = id ∨ pass = inCursor) (filters : PatronFilters) {rows : List PatronModel}
    (hids : (rows.map PatronModel.id).Nodup) :
    (PatronQueryRepository.listing rt db filters).WalksComplete rt.toPythonRuntime limit scope
      pass rows := by
  let order : LinearOrder (SortKey UtcDateTime) := SortKey.order id Function.injective_id db
  have hkeyed : (PatronQueryRepository.listing rt db filters).KeyedBy PatronModel.sortKey
      (fun key => (pass (.datetime (.ofUtc key.first)), .str key.id)) pass rows :=
    { precedes := fun left right => by
        rw [Bool.eq_iff_iff, decide_eq_true_eq]
        refine Iff.trans ?_ (SortKey.order_le_iff _ _).symm
        simp only [PatronQueryRepository.listing, PatronModel.sortKey, Bool.or_eq_true,
          Bool.and_eq_true, decide_eq_true_eq, id_eq]
      after := fun bound => by
        refine (bind_cursor_instant rt hpass bound.first _).trans ?_
        refine congrArg Except.ok (funext fun row => ?_)
        rw [Bool.eq_iff_iff, decide_eq_true_eq]
        refine Iff.trans ?_ (SortKey.order_lt_iff _ _).symm
        simp only [rt.str_str, PatronModel.sortKey, Bool.or_eq_true, Bool.and_eq_true,
          decide_eq_true_eq, id_eq]
        exact or_congr Iff.rfl (and_congr_left' eq_comm)
      last := fun row _ => by
        simp only [PatronQueryRepository.listing, pass_str hpass, PatronModel.toReadModel,
          PatronModel.sortKey]
      encoded := fun row _ => ⟨_, rfl⟩ }
  refine hkeyed.walksComplete hlimit (List.Nodup.of_map SortKey.id ?_)
  rw [List.map_map]
  exact hids

/-- The date of the loan, the latest first, then the id. -/
def LoanModel.sortKey (row : LoanModel) : SortKey UtcDateTime := ⟨row.borrowed_at, row.id⟩

theorem LoanQueryRepository.walksComplete (hlimit : 1 ≤ limit)
    (hpass : pass = id ∨ pass = inCursor) (filters : LoanFilters) {rows : List LoanModel}
    (hids : (rows.map LoanModel.id).Nodup) :
    (LoanQueryRepository.listing rt db filters).WalksComplete rt.toPythonRuntime limit scope
      pass rows := by
  let order : LinearOrder (SortKey UtcDateTime) :=
    SortKey.order OrderDual.toDual OrderDual.toDual.injective db
  have hkeyed : (LoanQueryRepository.listing rt db filters).KeyedBy LoanModel.sortKey
      (fun key => (pass (.datetime (.ofUtc key.first)), .str key.id)) pass rows :=
    { precedes := fun left right => by
        rw [Bool.eq_iff_iff, decide_eq_true_eq]
        refine Iff.trans ?_ (SortKey.order_le_iff _ _).symm
        simp only [LoanQueryRepository.listing, LoanModel.sortKey, Bool.or_eq_true,
          Bool.and_eq_true, decide_eq_true_eq, OrderDual.toDual_lt_toDual]
      after := fun bound => by
        refine (bind_cursor_instant rt hpass bound.first _).trans ?_
        refine congrArg Except.ok (funext fun row => ?_)
        rw [Bool.eq_iff_iff, decide_eq_true_eq]
        refine Iff.trans ?_ (SortKey.order_lt_iff _ _).symm
        simp only [rt.str_str, LoanModel.sortKey, Bool.or_eq_true, Bool.and_eq_true,
          decide_eq_true_eq, OrderDual.toDual_lt_toDual]
        exact or_congr Iff.rfl (and_congr_left' eq_comm)
      last := fun row _ => by
        simp only [LoanQueryRepository.listing, pass_str hpass, LoanModel.toReadModel,
          LoanModel.sortKey]
      encoded := fun row _ => ⟨_, rfl⟩ }
  refine hkeyed.walksComplete hlimit (List.Nodup.of_map SortKey.id ?_)
  rw [List.map_map]
  exact hids

/-- A client that hands on the last key of each page, as it is or as a cursor carries it,
walks through every listing of the database to its end. -/
theorem keyset_walks_complete (limit : ℤ) (hlimit : 1 ≤ limit) (scope : PyStr)
    (pass : PyValue → PyValue) (hpass : pass = id ∨ pass = inCursor) :
    (∀ (filters : BookFilters) (rows : List BookModel), (rows.map BookModel.id).Nodup →
      (∀ row ∈ rows, db.lower row.title = rt.lower row.title) →
        (BookQueryRepository.listing rt db filters).WalksComplete rt.toPythonRuntime limit scope
          pass rows) ∧
    (∀ (filters : PatronFilters) (rows : List PatronModel), (rows.map PatronModel.id).Nodup →
      (PatronQueryRepository.listing rt db filters).WalksComplete rt.toPythonRuntime limit scope
        pass rows) ∧
    (∀ (filters : LoanFilters) (rows : List LoanModel), (rows.map LoanModel.id).Nodup →
      (LoanQueryRepository.listing rt db filters).WalksComplete rt.toPythonRuntime limit scope
        pass rows) :=
  ⟨fun filters _ hids hlower =>
      BookQueryRepository.walksComplete rt db hlimit hpass filters hids hlower,
    fun filters _ hids => PatronQueryRepository.walksComplete rt db hlimit hpass filters hids,
    fun filters _ hids => LoanQueryRepository.walksComplete rt db hlimit hpass filters hids⟩

end Repositories

/-- Texts in the order of their code points. -/
def asciiCollation : Collation PyStr where
  lower := asciiRuntime.lower
  lower_ascii := asciiRuntime.lower_ascii
  key := id
  key_injective := Function.injective_id

def titledRow (id title : PyStr) : BookModel where
  id := id
  title := title
  author := py "Frank Herbert"
  status := py "available"
  reserved_at := none
  borrowed_at := none
  return_due_date := none
  reservation_id := none
  reservation_generation := 0
  reserved_patron_id := none
  reserved_patron_email := none
  current_loan_id := none
  last_completed_loan_id := none
  version := 0

def memberRow (id : PyStr) (registered_at : UtcDateTime) : PatronModel where
  id := id
  first_name := py "Ann"
  last_name := py "Lee"
  email := id ++ py "@lee.org"
  membership_tier := py "regular"
  is_suspended := false
  suspended_reason := none
  registered_at := registered_at
  version := 0

def activeRow (id : PyStr) (borrowed_at : UtcDateTime) : LoanModel where
  id := id
  patron_id := py "p1"
  patron_email := py "p1@lee.org"
  catalog_book_id := py "b1"
  reservation_id := uuidText 8
  reservation_generation := 1
  book_title := py "Dune"
  borrowed_at := borrowed_at
  due_date := borrowed_at
  returned_at := none
  status := py "active"
  version := 0

/-- Pages of one row, with equal first keys: the id alone leads from one to the other. -/
theorem keyset_walks_complete_ties :
    (BookQueryRepository.listing asciiQueryRuntime asciiCollation
      ⟨true, false, none, some (py "d")⟩).WalksComplete asciiRuntime 1 (py "books") inCursor
        [titledRow (py "b2") (py "Dune"), titledRow (py "b1") (py "DUNE")] ∧
    (PatronQueryRepository.listing asciiQueryRuntime asciiCollation
      ⟨false, some (py "regular")⟩).WalksComplete asciiRuntime 1 (py "patrons") inCursor
        [memberRow (py "p2") 0, memberRow (py "p1") 0] ∧
    (LoanQueryRepository.listing asciiQueryRuntime asciiCollation
      ⟨py "p1", true⟩).WalksComplete asciiRuntime 1 (py "loans") inCursor
        [activeRow (py "l2") 0, activeRow (py "l1") 5, activeRow (py "l3") 5] := by
  obtain ⟨hbooks, -, -⟩ :=
    keyset_walks_complete asciiQueryRuntime asciiCollation 1 (le_refl 1) (py "books") inCursor
      (.inr rfl)
  obtain ⟨-, hpatrons, -⟩ :=
    keyset_walks_complete asciiQueryRuntime asciiCollation 1 (le_refl 1) (py "patrons") inCursor
      (.inr rfl)
  obtain ⟨-, -, hloans⟩ :=
    keyset_walks_complete asciiQueryRuntime asciiCollation 1 (le_refl 1) (py "loans") inCursor
      (.inr rfl)
  exact ⟨hbooks _ _ (by decide) fun _ _ => rfl, hpatrons _ _ (by decide),
    hloans _ _ (by decide)⟩

end LibrarySystem
