import LibrarySystem.Domain.SharedKernel
import Mathlib.Data.List.DropRight

/-!
# Texts in columns

The text functions of the CHECK constraints.
-/

namespace LibrarySystem

namespace Sql

def isBlank (c : CodePoint) : Bool := c.val == 0x20

/-- `trim(text)` -/
def trim (text : PyStr) : PyStr := (text.dropWhile isBlank).rdropWhile isBlank

/-- `length(text) BETWEEN low AND high` -/
def lengthBetween (low high : ℕ) (text : PyStr) : Bool :=
  low ≤ text.length && text.length ≤ high

/-- `text ~ '^[A-Za-z0-9][A-Za-z0-9_-]*$'` -/
def isIdentifier (text : PyStr) : Bool :=
  PyStr.matchesHeadTail CodePoint.isAlphanumeric isReferenceTail text

def isBoundedText (maximum : ℕ) (text : PyStr) : Bool := lengthBetween 1 maximum (trim text)

theorem isIdentifier_val (reference : Reference) : isIdentifier reference.val = true := by
  have hvalid := reference.property
  simp only [isReference, Bool.and_eq_true] at hvalid
  exact hvalid.2

theorem trim_sublist (text : PyStr) : (trim text).Sublist text :=
  ((List.rdropWhile_prefix _ _).sublist).trans (List.dropWhile_sublist _)

theorem trim_eq_self {text : PyStr} (hblank : ∀ c ∈ text, isBlank c = false) :
    trim text = text := by
  have hdrop : text.dropWhile isBlank = text := by
    cases text with
    | nil => rfl
    | cons c rest => exact List.dropWhile_cons_of_neg (by simp [hblank c])
  rw [trim, hdrop, List.rdropWhile_eq_self_iff]
  intro hne
  simp [hblank _ (List.getLast_mem hne)]

theorem trim_ne_nil {text : PyStr} (hsome : ∃ c ∈ text, isBlank c = false) :
    trim text ≠ [] := by
  obtain ⟨c, hc, hvisible⟩ := hsome
  intro hnil
  rw [trim, List.rdropWhile_eq_nil_iff] at hnil
  rw [← List.takeWhile_append_dropWhile (p := isBlank) (l := text)] at hc
  rcases List.mem_append.mp hc with hlead | hrest
  · exact absurd (List.mem_takeWhile_imp hlead) (by simp [hvisible])
  · exact absurd (hnil c hrest) (by simp [hvisible])

theorem isSpace_of_isBlank {c : CodePoint} (hc : isBlank c = true) : c.isSpace = true := by
  have hval : c.val = 0x20 := by simpa [isBlank] using hc
  simp [CodePoint.isSpace, hval]

theorem isBoundedText_value {maximum : ℕ} (text : BoundedText maximum) :
    isBoundedText maximum text.value = true := by
  have hvisible : ∃ c ∈ text.value, isBlank c = false := by
    have hstrip := text.strip_ne_nil
    rw [ne_eq, PyStr.strip_eq_nil_iff] at hstrip
    push Not at hstrip
    obtain ⟨c, hc, hspace⟩ := hstrip
    refine ⟨c, hc, ?_⟩
    by_contra hblank
    exact hspace (isSpace_of_isBlank (by simpa using hblank))
  have hpositive := List.length_pos_of_ne_nil (trim_ne_nil hvisible)
  have hbound := (trim_sublist text.value).length_le.trans text.bounded
  simp only [isBoundedText, lengthBetween, Bool.and_eq_true, decide_eq_true_eq]
  exact ⟨hpositive, hbound⟩

end Sql

end LibrarySystem
