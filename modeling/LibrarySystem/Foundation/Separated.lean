import Mathlib.Data.List.Count
import Mathlib.Data.List.DropRight
import Mathlib.Data.List.Infix
import Mathlib.Tactic.Linarith

/-!
# Words with a separator

Words that are joined by a separator and split again, and the removal of a pattern from a
text.
-/

namespace LibrarySystem

universe u

namespace Separated

variable {α : Type u} [DecidableEq α]

/-- The words between the separators; there is always one more of them. -/
def split (sep : α) : List α → List (List α)
  | [] => [[]]
  | c :: rest =>
      if c = sep then [] :: split sep rest
      else
        match split sep rest with
        | [] => [[c]]
        | word :: words => (c :: word) :: words

def join (sep : α) : List (List α) → List α
  | [] => []
  | [word] => word
  | word :: next :: rest => word ++ sep :: join sep (next :: rest)

omit [DecidableEq α] in
omit [DecidableEq α] in
theorem join_cons_eq (sep : α) (word : List α) (rest : List (List α)) :
    join sep (word :: rest) = word ++ rest.flatMap (sep :: ·) := by
  induction rest generalizing word with
  | nil => simp [join]
  | cons next rest ih => rw [join, ih next, List.flatMap_cons, List.cons_append]

section Enclosed

variable {sep : α} {mid : List α} {words : List (List α)}

end Enclosed

/-! ## Trimming -/

/-- Without the separators at both ends. -/
def trim (sep : α) (text : List α) : List α :=
  (text.dropWhile (· = sep)).rdropWhile (· = sep)

end Separated

end LibrarySystem
