import Mathlib.Tactic

/-!
# Versions and row locks

Transactions read the rows of a table and lock the ones they replace until they end.  A row
that was read is still there, or a higher version has taken its place; so a lock that is
taken on the version that was read is a lock on the row that was read.
-/

namespace LibrarySystem

namespace RowLocks

variable {κ ρ : Type}

/-- The rows a transaction has read, and those of them it has locked. -/
structure Hand (κ ρ : Type) where
  read : List (κ × ρ)
  held : List (κ × ρ)

/-- The row is the one in the table, or it was replaced. -/
def Seen (version : ρ → ℕ) (rows : κ → Option ρ) (key : κ) (row : ρ) : Prop :=
  ∃ current, rows key = some current ∧ (version row < version current ∨ row = current)

/-- What the table and the transactions that have not ended keep to each other. -/
structure Sound (version : ρ → ℕ) (rows : κ → Option ρ) (hands : ℕ → Option (Hand κ ρ)) :
    Prop where
  read : ∀ i hand, hands i = some hand → ∀ key row, (key, row) ∈ hand.read →
    Seen version rows key row
  held : ∀ i hand, hands i = some hand → ∀ key row, (key, row) ∈ hand.held →
    rows key = some row
  apart : ∀ i j first second, i ≠ j → hands i = some first → hands j = some second →
    ∀ key row other, (key, row) ∈ first.held → (key, other) ∉ second.held

section Rules

variable {version : ρ → ℕ} {rows after : κ → Option ρ} {hands : ℕ → Option (Hand κ ρ)}
  {i : ℕ} {hand : Hand κ ρ}

/-- The row with the version that was read is the row that was read. -/
theorem Seen.current {key : κ} {row current : ρ} (hseen : Seen version rows key row)
    (hcurrent : rows key = some current) (hversion : version current = version row) :
    row = current := by
  obtain ⟨found, hfound, hlater⟩ := hseen
  rw [hcurrent, Option.some.injEq] at hfound
  subst found
  rcases hlater with hlt | hsame
  · omega
  · exact hsame

/-- A row that was read and is no longer there has been overtaken. -/
theorem Seen.overtaken {key : κ} {row : ρ} (hseen : Seen version rows key row)
    (hgone : rows key ≠ some row) :
    ∃ current, rows key = some current ∧ version row < version current := by
  obtain ⟨current, hcurrent, hlt | rfl⟩ := hseen
  · exact ⟨current, hcurrent, hlt⟩
  · exact absurd hcurrent hgone

theorem Sound.empty (hempty : ∀ i, hands i = none) : Sound version rows hands := by
  constructor
  · intro i hand hhand
    rw [hempty] at hhand
    cases hhand
  · intro i hand hhand
    rw [hempty] at hhand
    cases hhand
  · intro i j first second _ hfirst
    rw [hempty] at hfirst
    cases hfirst

/-- A transaction takes up what it has read and locked. -/
theorem Sound.take (hsound : Sound version rows hands)
    (hread : ∀ key row, (key, row) ∈ hand.read → Seen version rows key row)
    (hheld : ∀ key row, (key, row) ∈ hand.held → rows key = some row)
    (hapart : ∀ j other, j ≠ i → hands j = some other → ∀ key row taken,
      (key, row) ∈ hand.held → (key, taken) ∉ other.held) :
    Sound version rows (Function.update hands i (some hand)) := by
  constructor
  · intro j found hfound
    by_cases hj : j = i
    · rw [hj, Function.update_self, Option.some.injEq] at hfound
      exact hfound ▸ hread
    · rw [Function.update_of_ne hj] at hfound
      exact hsound.read j found hfound
  · intro j found hfound
    by_cases hj : j = i
    · rw [hj, Function.update_self, Option.some.injEq] at hfound
      exact hfound ▸ hheld
    · rw [Function.update_of_ne hj] at hfound
      exact hsound.held j found hfound
  · intro j k first second hne hfirst hsecond key row other hmem htaken
    by_cases hj : j = i
    · rw [hj, Function.update_self, Option.some.injEq] at hfirst
      subst first
      have hk : k ≠ i := fun hk => hne (hj.trans hk.symm)
      rw [Function.update_of_ne hk] at hsecond
      exact hapart k second hk hsecond key row other hmem htaken
    · rw [Function.update_of_ne hj] at hfirst
      by_cases hk : k = i
      · rw [hk, Function.update_self, Option.some.injEq] at hsecond
        subst second
        exact hapart j first hj hfirst key other row htaken hmem
      · rw [Function.update_of_ne hk] at hsecond
        exact hsound.apart j k first second hne hfirst hsecond key row other hmem htaken

/-- A transaction ends, and its locks are gone. -/
theorem Sound.leave (hsound : Sound version rows hands) (i : ℕ) :
    Sound version rows (Function.update hands i none) := by
  have hothers : ∀ j found, Function.update hands i none j = some found →
      hands j = some found := by
    intro j found hfound
    by_cases hj : j = i
    · rw [hj, Function.update_self] at hfound
      cases hfound
    · rwa [Function.update_of_ne hj] at hfound
  constructor
  · exact fun j found hfound => hsound.read j found (hothers j found hfound)
  · exact fun j found hfound => hsound.held j found (hothers j found hfound)
  · exact fun j k first second hne hfirst hsecond => hsound.apart j k first second hne
      (hothers j first hfirst) (hothers k second hsecond)

/-- A transaction commits: it raises the versions of the rows it has locked, it may add
rows, and all other rows stay. -/
theorem Sound.commit (hsound : Sound version rows hands) (hhand : hands i = some hand)
    (hwrites : ∀ key row, (key, row) ∈ hand.held →
      ∃ next, after key = some next ∧ version row < version next)
    (hkept : ∀ key, (∀ row, (key, row) ∉ hand.held) →
      rows key = none ∨ after key = rows key) :
    Sound version after (Function.update hands i none) := by
  have hothers : ∀ j found, Function.update hands i none j = some found →
      j ≠ i ∧ hands j = some found := by
    intro j found hfound
    by_cases hj : j = i
    · rw [hj, Function.update_self] at hfound
      cases hfound
    · rw [Function.update_of_ne hj] at hfound
      exact ⟨hj, hfound⟩
  constructor
  · intro j found hfound key row hmem
    obtain ⟨current, hcurrent, hlater⟩ :=
      hsound.read j found (hothers j found hfound).2 key row hmem
    by_cases hlocked : ∃ own, (key, own) ∈ hand.held
    · obtain ⟨own, hown⟩ := hlocked
      have hsame := hsound.held i hand hhand key own hown
      rw [hcurrent, Option.some.injEq] at hsame
      subst own
      obtain ⟨next, hnext, hlt⟩ := hwrites key current hown
      refine ⟨next, hnext, Or.inl ?_⟩
      rcases hlater with hless | rfl
      · exact hless.trans hlt
      · exact hlt
    · rcases hkept key fun own hown => hlocked ⟨own, hown⟩ with hnone | hsame
      · rw [hnone] at hcurrent
        cases hcurrent
      · exact ⟨current, hsame.trans hcurrent, hlater⟩
  · intro j found hfound key row hmem
    obtain ⟨hj, hfound⟩ := hothers j found hfound
    have hrow := hsound.held j found hfound key row hmem
    rcases hkept key fun own hown => hsound.apart j i found hand hj hfound hhand key row own hmem
        hown with hnone | hsame
    · rw [hnone] at hrow
      cases hrow
    · exact hsame.trans hrow
  · exact fun j k first second hne hfirst hsecond => hsound.apart j k first second hne
      (hothers j first hfirst).2 (hothers k second hsecond).2

end Rules

end RowLocks

end LibrarySystem
