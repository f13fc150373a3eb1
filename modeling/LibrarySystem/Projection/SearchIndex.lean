import Mathlib.Tactic

/-!
# Versioned documents

A physical index keeps the version of the last accepted write of every
document id, also once the document is deleted.  Under `external_gte` a write
is accepted unless a later version is there; a write without a version takes the
next one.
-/

namespace LibrarySystem

universe u v

/-- What an index keeps under one id: version 0 before any write, no document
once deleted. -/
structure IndexEntry (Doc : Type u) where
  version : ℕ
  document : Option Doc

namespace IndexEntry

variable {Doc : Type u}

def vacant : IndexEntry Doc := ⟨0, none⟩

/-- One index or delete request. -/
def write (entry : IndexEntry Doc) (external_version : Option ℕ)
    (document : Option Doc) : IndexEntry Doc :=
  match external_version with
  | some version => if entry.version ≤ version then ⟨version, document⟩ else entry
  | none => ⟨entry.version + 1, document⟩

theorem write_stale
    {entry : IndexEntry Doc} {version : ℕ} (hstale : version < entry.version)
    (document : Option Doc) :
    entry.write (some version) document = entry :=
  if_neg (not_le.mpr hstale)

theorem write_accepted
    {entry : IndexEntry Doc} {version : ℕ} (haccepted : entry.version ≤ version)
    (document : Option Doc) :
    entry.write (some version) document = ⟨version, document⟩ :=
  if_pos haccepted

theorem version_le_write
    (entry : IndexEntry Doc) (external_version : Option ℕ) (document : Option Doc) :
    entry.version ≤ (entry.write external_version document).version := by
  cases external_version with
  | none => exact Nat.le_succ _
  | some version =>
      by_cases haccepted : entry.version ≤ version
      · rw [write_accepted haccepted]
        exact haccepted
      · rw [write_stale (not_le.mp haccepted)]

/-- The version of a request is reached, whether it is accepted or not. -/
theorem le_version_write
    (entry : IndexEntry Doc) (version : ℕ) (document : Option Doc) :
    version ≤ (entry.write (some version) document).version := by
  by_cases haccepted : entry.version ≤ version
  · rw [write_accepted haccepted]
  · rw [write_stale (not_le.mp haccepted)]
    exact le_of_lt (not_le.mp haccepted)

/-- A delete leaves no document unless a later version is there. -/
theorem write_none_document
    (entry : IndexEntry Doc) (external_version : Option ℕ) :
    (entry.write external_version none).document = none ∨
      ∃ version, external_version = some version ∧ version < entry.version ∧
        entry.write external_version none = entry := by
  cases external_version with
  | none => exact Or.inl rfl
  | some version =>
      by_cases haccepted : entry.version ≤ version
      · rw [write_accepted haccepted]
        exact Or.inl rfl
      · exact Or.inr ⟨version, rfl, not_le.mp haccepted, write_stale (not_le.mp haccepted) _⟩

end IndexEntry

/-- A physical index. -/
abbrev SearchIndex (Key : Type v) (Doc : Type u) := Key → IndexEntry Doc

end LibrarySystem
