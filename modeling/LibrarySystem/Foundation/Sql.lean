import Mathlib.Tactic

/-!
# SQL conditions

A condition is true, false or NULL.  A CHECK constraint refuses a row only when
its condition is false, so acceptance distributes over AND and OR, whatever is
NULL.
-/

namespace LibrarySystem

/-- `none` is NULL. -/
abbrev SqlBool := Option Bool

namespace Sql

variable {α β : Type}

def and : SqlBool → SqlBool → SqlBool
  | some false, _ => some false
  | _, some false => some false
  | some true, some true => some true
  | _, _ => none

def or : SqlBool → SqlBool → SqlBool
  | some true, _ => some true
  | _, some true => some true
  | some false, some false => some false
  | _, _ => none

def isNull (column : Option α) : SqlBool := some column.isNone

def isNotNull (column : Option α) : SqlBool := some column.isSome

/-- A test of one column; NULL when the column is. -/
def test (holds : α → Bool) (column : Option α) : SqlBool := column.map holds

/-- A comparison of two columns; NULL when either is. -/
def compare (holds : α → β → Bool) (left : Option α) (right : Option β) : SqlBool :=
  left.bind fun a => right.map (holds a)

/-- What a CHECK constraint asks. -/
def Accepts (condition : SqlBool) : Prop := condition ≠ some false

instance (condition : SqlBool) : Decidable (Accepts condition) :=
  inferInstanceAs (Decidable (condition ≠ some false))

@[simp] theorem accepts_some (value : Bool) : Accepts (some value) ↔ value = true := by
  cases value <;> simp [Accepts]

@[simp] theorem accepts_and (left right : SqlBool) :
    Accepts (and left right) ↔ Accepts left ∧ Accepts right := by
  rcases left with _ | _ | _ <;> rcases right with _ | _ | _ <;> simp [Accepts, and]

@[simp] theorem accepts_or (left right : SqlBool) :
    Accepts (or left right) ↔ Accepts left ∨ Accepts right := by
  rcases left with _ | _ | _ <;> rcases right with _ | _ | _ <;> simp [Accepts, or]

@[simp] theorem accepts_isNull (column : Option α) :
    Accepts (isNull column) ↔ column = none := by
  simp [isNull]

@[simp] theorem accepts_isNotNull (column : Option α) :
    Accepts (isNotNull column) ↔ column.isSome = true := by
  simp [isNotNull]

@[simp] theorem accepts_test (holds : α → Bool) (column : Option α) :
    Accepts (test holds column) ↔ ∀ a ∈ column, holds a = true := by
  cases column <;> simp [test, Accepts]

@[simp] theorem accepts_compare (holds : α → β → Bool) (left : Option α)
    (right : Option β) :
    Accepts (compare holds left right) ↔ ∀ a ∈ left, ∀ b ∈ right, holds a b = true := by
  cases left <;> cases right <;> simp [compare, Accepts]

end Sql

end LibrarySystem
