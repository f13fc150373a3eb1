import Mathlib.Data.List.Sort
import Mathlib.Order.Defs.LinearOrder
import Mathlib.Tactic

/-!
# Keyset pagination

A listing orders its rows by a key that no two of them share, and a page is what comes
first among the rows with a greater key than the last one seen.  A walk asks for page
after page until one is not full.  It comes to an end, and its pages put together are
the listing.
-/

namespace LibrarySystem

namespace Keyset

variable {α β γ κ ε : Type}

/-! ## Walks -/

/-- The pages a client gets from a cursor on, up to the first without a next one. -/
inductive Walk (fetch : Option γ → Except ε (List β × Option γ)) :
    Option γ → List (List β) → Prop
  | last {cursor : Option γ} {items : List β} (hfetch : fetch cursor = .ok (items, none)) :
      Walk fetch cursor [items]
  | more {cursor : Option γ} {items : List β} {next : γ} {pages : List (List β)}
      (hfetch : fetch cursor = .ok (items, some next)) (hrest : Walk fetch (some next) pages) :
      Walk fetch cursor (items :: pages)

/-! ## The listing -/

section Listing

variable [LinearOrder κ] (key : α → κ)

/-- `ORDER BY key` -/
def ordered (rows : List α) : List α :=
  rows.mergeSort fun left right => decide (key left ≤ key right)

/-- The rows with a greater key. -/
def later (bound : Option κ) (rows : List α) : List α :=
  rows.filter fun row => bound.all fun last => decide (last < key row)

/-- The first rows after the bound. -/
def page (limit : ℕ) (bound : Option κ) (rows : List α) : List α :=
  (ordered key (later key bound rows)).take limit

/-- The bound of the next page, if this one is full. -/
def next (limit : ℕ) (items : List α) : Option κ :=
  if items.length = limit then items.getLast?.map key else none

variable {key} {rows : List α} {bound : Option κ} {limit : ℕ}

variable (key) in
theorem ordered_perm (rows : List α) : (ordered key rows).Perm rows :=
  List.mergeSort_perm _ _

/-- Rows with distinct keys are in strict order. -/
theorem ordered_pairwise (hkeys : (rows.map key).Nodup) :
    (ordered key rows).Pairwise fun left right => key left < key right := by
  have hsorted : (ordered key rows).Pairwise fun left right => key left ≤ key right := by
    have hpairwise : (ordered key rows).Pairwise fun left right =>
        decide (key left ≤ key right) = true := by
      apply List.pairwise_mergeSort
      · intro a b c hab hbc
        simp only [decide_eq_true_eq] at hab hbc ⊢
        exact hab.trans hbc
      · intro a b
        simp only [Bool.or_eq_true, decide_eq_true_eq]
        exact le_total _ _
    exact hpairwise.imp fun hle => of_decide_eq_true hle
  have hdistinct : (ordered key rows).Pairwise fun left right => key left ≠ key right := by
    have hperm : (ordered key rows).Perm rows := ordered_perm key rows
    exact List.pairwise_map.mp ((hperm.map key).nodup_iff.mpr hkeys)
  exact (hsorted.and hdistinct).imp fun hboth => lt_of_le_of_ne hboth.1 hboth.2

/-- A list in strict order is determined by its rows. -/
theorem eq_of_perm {left right : List α} (hperm : left.Perm right)
    (hleft : left.Pairwise fun first second => key first < key second)
    (hright : right.Pairwise fun first second => key first < key second) : left = right := by
  refine List.Perm.eq_of_pairwise ?_ hleft hright hperm
  exact fun first second _ _ hlt hgt => absurd (hlt.trans hgt) (lt_irrefl _)

theorem later_keys (hkeys : (rows.map key).Nodup) :
    ((later key bound rows).map key).Nodup :=
  (List.filter_sublist.map key).nodup hkeys

/-- What follows a full page is what comes after its last key. -/
theorem drop_page {items : List α} {last : α}
    (hkeys : (rows.map key).Nodup)
    (hitems : page key limit bound rows = items ++ [last]) :
    (ordered key (later key bound rows)).drop limit =
      ordered key (later key (some (key last)) rows) := by
  have hlater : ((later key bound rows).map key).Nodup := later_keys hkeys
  have hsorted := ordered_pairwise hlater
  have hsplit : ordered key (later key bound rows) =
      (items ++ [last]) ++ (ordered key (later key bound rows)).drop limit := by
    rw [← hitems]
    exact (List.take_append_drop limit _).symm
  generalize (ordered key (later key bound rows)).drop limit = rest at hsplit ⊢
  rw [hsplit, List.append_assoc, List.singleton_append] at hsorted
  obtain ⟨-, htail, hbefore⟩ := List.pairwise_append.mp hsorted
  obtain ⟨hafter, hrest⟩ := List.pairwise_cons.mp htail
  have hbound : bound.all (fun least => decide (least < key last)) = true := by
    have hmem : last ∈ ordered key (later key bound rows) := by
      rw [hsplit]
      simp
    have hlater := (ordered_perm key _).mem_iff.mp hmem
    exact (List.mem_filter.mp hlater).2
  refine eq_of_perm ?_ hrest (ordered_pairwise (later_keys hkeys))
  refine List.Perm.trans ?_ (ordered_perm key _).symm
  -- both are the rows after `last`, once among those after the bound, once among all
  have hfilter : later key (some (key last)) (ordered key (later key bound rows)) = rest := by
    rw [hsplit]
    unfold later
    rw [List.append_assoc, List.singleton_append, List.filter_append, List.filter_cons]
    have hnone : items.filter (fun row => (some (key last)).all fun least =>
        decide (least < key row)) = [] := by
      rw [List.filter_eq_nil_iff]
      intro row hrow
      have hlt := hbefore row hrow last List.mem_cons_self
      simpa using hlt.le
    have hall : rest.filter (fun row => (some (key last)).all fun least =>
        decide (least < key row)) = rest := by
      rw [List.filter_eq_self]
      intro row hrow
      simpa using hafter row hrow
    rw [hnone, hall]
    simp
  have hperm := (ordered_perm key (later key bound rows)).filter
    fun row => (some (key last)).all fun least => decide (least < key row)
  change (later key (some (key last)) (ordered key (later key bound rows))).Perm _ at hperm
  rw [hfilter] at hperm
  refine hperm.trans (List.Perm.of_eq ?_)
  unfold later
  rw [List.filter_filter]
  apply List.filter_congr
  intro row _
  cases bound with
  | none => simp
  | some least =>
      simp only [Option.all_some, decide_eq_true_eq] at hbound
      simp only [Option.all_some, Bool.and_eq_left_iff_imp, decide_eq_true_eq]
      exact fun hlt => hbound.trans hlt

/-- The page of a listing and the bound of the next one, as a client of the rows sees
them. -/
def fetch (key : α → κ) (limit : ℕ) (rows : List α) (bound : Option κ) :
    Except ε (List α × Option κ) :=
  .ok (page key limit bound rows, next key limit (page key limit bound rows))

theorem walk_from (hlimit : 1 ≤ limit) (hkeys : (rows.map key).Nodup) (count : ℕ)
    (bound : Option κ) (hcount : (later key bound rows).length = count) :
    ∃ pages, Walk (fetch (ε := ε) key limit rows) bound pages ∧
      pages.flatten = ordered key (later key bound rows) := by
  induction count using Nat.strong_induction_on generalizing bound with
  | _ count ih =>
      have hlength : (ordered key (later key bound rows)).length = count :=
        (ordered_perm key _).length_eq.trans hcount
      by_cases hfull : (page key limit bound rows).length = limit
      · -- a full page ends with a row, and what follows it is shorter
        have hne : page key limit bound rows ≠ [] := by
          intro hnil
          rw [hnil] at hfull
          simp only [List.length_nil] at hfull
          omega
        obtain ⟨items, last, hitems⟩ := (List.eq_nil_or_concat' _).resolve_left hne
        have hdrop := drop_page hkeys hitems
        have hshorter : (later key (some (key last)) rows).length < count := by
          rw [← (ordered_perm key _).length_eq, ← hdrop, List.length_drop, hlength]
          have htake : limit ≤ count := by
            rw [← hfull, ← hlength]
            exact List.length_take_le' limit _
          omega
        obtain ⟨pages, hwalk, hflatten⟩ := ih _ hshorter (some (key last)) rfl
        refine ⟨page key limit bound rows :: pages, .more ?_ hwalk, ?_⟩
        · unfold fetch next
          rw [if_pos hfull, hitems]
          simp
        · rw [List.flatten_cons, hflatten, ← hdrop]
          exact List.take_append_drop limit _
      · refine ⟨[page key limit bound rows], .last ?_, ?_⟩
        · unfold fetch next
          rw [if_neg hfull]
        · rw [List.flatten_singleton]
          refine List.take_of_length_le ?_
          by_contra hlong
          exact hfull (List.length_take_of_le (by omega))

/-- The walk from the start ends, and its pages are the listing. -/
theorem walk_complete (hlimit : 1 ≤ limit) (hkeys : (rows.map key).Nodup) :
    ∃ pages, Walk (fetch (ε := ε) key limit rows) none pages ∧
      pages.flatten = ordered key rows := by
  obtain ⟨pages, hwalk, hflatten⟩ := walk_from (ε := ε) hlimit hkeys _ none rfl
  refine ⟨pages, hwalk, hflatten.trans ?_⟩
  unfold later
  simp

end Listing

/-! ## Another representation of rows and bounds -/

/-- A fetch that answers as another one does, with its items and cursors written
differently, has the corresponding walks. -/
theorem Walk.map {fetch : Option γ → Except ε (List β × Option γ)} {δ ζ : Type}
    {other : Option δ → Except ε (List ζ × Option δ)} {item : β → ζ} {cursor : γ → δ}
    (hfetch : ∀ bound items next, fetch bound = .ok (items, next) →
      other (bound.map cursor) = .ok (items.map item, next.map cursor))
    {bound : Option γ} {pages : List (List β)} (hwalk : Walk fetch bound pages) :
    Walk other (bound.map cursor) (pages.map (List.map item)) := by
  induction hwalk with
  | last hlast => exact .last (hfetch _ _ _ hlast)
  | more hmore _ ih => exact .more (hfetch _ _ _ hmore) ih

end Keyset

end LibrarySystem
