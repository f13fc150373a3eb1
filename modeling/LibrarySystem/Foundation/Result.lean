import Mathlib.Tactic

/-!
# Exceptions

Inversion rules for computations in `Except`: a sequence succeeds when each
step does, and fails with the error of the first step that fails.
-/

namespace LibrarySystem

universe u v

namespace Result

variable {ε δ : Type u} {α β : Type v}

theorem bind_eq_ok {x : Except ε α} {f : α → Except ε β} {b : β} :
    (x >>= f) = .ok b ↔ ∃ a, x = .ok a ∧ f a = .ok b := by
  cases x with
  | error e =>
      constructor
      · intro h
        cases h
      · rintro ⟨_, h, _⟩
        cases h
  | ok a =>
      constructor
      · exact fun h => ⟨a, rfl, h⟩
      · rintro ⟨_, ⟨⟩, h⟩
        exact h

theorem bind_eq_error {x : Except ε α} {f : α → Except ε β} {e : ε} :
    (x >>= f) = .error e ↔
      x = .error e ∨ ∃ a, x = .ok a ∧ f a = .error e := by
  cases x with
  | error d =>
      constructor
      · intro h
        cases h
        exact Or.inl rfl
      · rintro (⟨⟨⟩⟩ | ⟨_, h, _⟩)
        · rfl
        · cases h
  | ok a =>
      constructor
      · exact fun h => Or.inr ⟨a, rfl, h⟩
      · rintro (h | ⟨_, ⟨⟩, h⟩)
        · cases h
        · exact h

@[simp] theorem ok_bind (a : α) (f : α → Except ε β) :
    (Except.ok a >>= f) = f a := rfl

@[simp] theorem error_bind (e : ε) (f : α → Except ε β) :
    ((Except.error e : Except ε α) >>= f) = .error e := rfl

@[simp] theorem pure_eq (a : α) : (pure a : Except ε α) = .ok a := rfl

@[simp] theorem throw_eq (e : ε) : (throw e : Except ε α) = .error e := rfl

@[simp] theorem mapError_ok (g : ε → δ) (a : α) :
    (Except.ok a : Except ε α).mapError g = .ok a := rfl

@[simp] theorem mapError_error (g : ε → δ) (e : ε) :
    (Except.error e : Except ε α).mapError g = .error (g e) := rfl

theorem mapError_eq_ok {x : Except ε α} {g : ε → δ} {a : α} :
    x.mapError g = .ok a ↔ x = .ok a := by
  cases x <;> simp [Except.mapError]

/-- A guard that lets its continuation run only when it holds. -/
theorem guard_eq_ok {p : Prop} [Decidable p] {e : ε} {x : Except ε α} {a : α} :
    (if p then .error e else x) = .ok a ↔ ¬ p ∧ x = .ok a := by
  split <;> simp_all

/-- Steps whose success does not depend on earlier results. -/
theorem isSome_bind
    {x : Except ε α} {f : α → Except ε β} {p : Bool}
    (hf : ∀ a, (f a).toOption.isSome = p) :
    (x >>= f).toOption.isSome = (x.toOption.isSome && p) := by
  cases x with
  | error e => rfl
  | ok a => exact hf a

theorem ok_of_isSome {x : Except ε α} (hx : x.toOption.isSome = true) :
    ∃ a, x = .ok a := by
  cases x with
  | error e => exact absurd hx Bool.false_ne_true
  | ok a => exact ⟨a, rfl⟩

theorem ok_of_toOption {x : Except ε α} {a : α} (hx : x.toOption = some a) : x = .ok a := by
  cases x with
  | error e => cases hx
  | ok b => exact congrArg Except.ok (Option.some.inj hx)

theorem mapM_ok {f : α → Except ε β} {values : List α}
    (hvalues : ∀ value ∈ values, ∃ b, f value = .ok b) :
    ∃ results, values.mapM f = .ok results := by
  induction values with
  | nil => exact ⟨[], rfl⟩
  | cons value rest ih =>
      obtain ⟨b, hb⟩ := hvalues value List.mem_cons_self
      obtain ⟨results, hresults⟩ := ih fun other hother =>
        hvalues other (List.mem_cons_of_mem value hother)
      exact ⟨b :: results, by rw [List.mapM_cons, hb, ok_bind, hresults, ok_bind, pure_eq]⟩

end Result

end LibrarySystem
