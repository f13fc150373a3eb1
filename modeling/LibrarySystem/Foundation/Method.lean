import Mathlib.Tactic

/-!
# Methods of mutable objects

A method assigns fields, emits events and may raise at any point; an exception
does not undo the assignments made before it.  A transition computes the new
fields and the events at once, or raises.  A method carries out a transition
when it ends where the transition says and raises without a trace.  The rules
go through the body of the method: a check is peeled from both sides, and what
stands behind the last check is straight-line code.
-/

namespace LibrarySystem

universe u

/-- The fields of an object and the events it has not handed over yet. -/
@[ext] structure Object (F E : Type) where
  fields : F
  pending : List E

/-- A method body; the object it leaves is kept when it raises. -/
def Method (F E ε α : Type) := Object F E → Except ε α × Object F E

namespace Method

variable {F E ε α β : Type}

instance : Monad (Method F E ε) where
  pure value self := (.ok value, self)
  bind part rest self :=
    match part self with
    | (.ok value, after) => rest value after
    | (.error error, after) => (.error error, after)

instance : MonadExceptOf ε (Method F E ε) where
  throw error self := (.error error, self)
  tryCatch body handler self :=
    match body self with
    | (.ok value, after) => (.ok value, after)
    | (.error error, after) => handler error after

/-- The value of an expression over the fields. -/
def read (value : F → α) : Method F E ε α := fun self => (.ok (value self.fields), self)

/-- One assignment. -/
def assign (update : F → F) : Method F E ε Unit :=
  fun self => (.ok (), { self with fields := update self.fields })

/-- `self.add_event(event)` -/
def addEvent (event : E) : Method F E ε Unit :=
  fun self => (.ok (), { self with pending := self.pending ++ [event] })

/-- A computation that does not touch the object. -/
def check (result : Except ε α) : Method F E ε α := fun self => (result, self)

@[simp] theorem bind_read (value : F → α) (rest : α → Method F E ε β) (self : Object F E) :
    (read value >>= rest) self = rest (value self.fields) self := rfl

@[simp] theorem bind_assign (update : F → F) (rest : Unit → Method F E ε β)
    (self : Object F E) :
    (assign update >>= rest) self = rest () { self with fields := update self.fields } := rfl

@[simp] theorem bind_addEvent (event : E) (rest : Unit → Method F E ε β)
    (self : Object F E) :
    (addEvent event >>= rest) self =
      rest () { self with pending := self.pending ++ [event] } := rfl

@[simp] theorem pure_apply (value : α) (self : Object F E) :
    (pure value : Method F E ε α) self = (.ok value, self) := rfl

@[simp] theorem throw_apply (error : ε) (self : Object F E) :
    (throw error : Method F E ε α) self = (.error error, self) := rfl

@[simp] theorem bind_throw (error : ε) (rest : α → Method F E ε β) (self : Object F E) :
    ((throw error : Method F E ε α) >>= rest) self = (.error error, self) := rfl

theorem bind_check_ok {result : Except ε α} {value : α} (hok : result = .ok value)
    (rest : α → Method F E ε β) (self : Object F E) :
    (check result >>= rest) self = rest value self := by
  subst hok
  rfl

theorem bind_check_error {result : Except ε α} {error : ε} (herror : result = .error error)
    (rest : α → Method F E ε β) (self : Object F E) :
    (check result >>= rest) self = (.error error, self) := by
  subst herror
  rfl

theorem bind_of_ok {part : Method F E ε α} {value : α} {self after : Object F E}
    (hpart : part self = (.ok value, after)) (rest : α → Method F E ε β) :
    (part >>= rest) self = rest value after := by
  simp [bind, hpart]

theorem bind_of_error {part : Method F E ε α} {error : ε} {self after : Object F E}
    (hpart : part self = (.error error, after)) (rest : α → Method F E ε β) :
    (part >>= rest) self = (.error error, after) := by
  simp [bind, hpart]

/-- `for item in items` -/
def forEach (body : β → Method F E ε Unit) : List β → Method F E ε Unit
  | [] => pure ()
  | first :: rest => body first >>= fun _ => forEach body rest

variable {body : β → Method F E ε Unit} {first : β} {rest : List β}
  {self after : Object F E}

theorem forEach_cons_ok (hfirst : body first self = (.ok (), after)) :
    forEach body (first :: rest) self = forEach body rest after :=
  bind_of_ok hfirst _

theorem forEach_cons_error {error : ε} (hfirst : body first self = (.error error, after)) :
    forEach body (first :: rest) self = (.error error, after) :=
  bind_of_error hfirst _

theorem forEach_append (body : β → Method F E ε Unit) (earlier later : List β) :
    forEach body (earlier ++ later) = forEach body earlier >>= fun _ => forEach body later := by
  funext self
  induction earlier generalizing self with
  | nil => rfl
  | cons first rest ih =>
      cases hfirst : body first self with
      | mk result after =>
        cases result with
        | ok value =>
            rw [List.cons_append, forEach_cons_ok hfirst, ih]
            simp [bind, forEach_cons_ok hfirst]
        | error error =>
            rw [List.cons_append, forEach_cons_error hfirst]
            exact (bind_of_error (forEach_cons_error hfirst) _).symm

/-- A loop in a loop goes through all the inner items. -/
theorem forEach_forEach {γ : Type} (body : β → Method F E ε Unit) (inner : γ → List β)
    (items : List γ) :
    forEach (fun item => forEach body (inner item)) items =
      forEach body (items.flatMap inner) := by
  induction items with
  | nil => rfl
  | cons first rest ih => rw [List.flatMap_cons, forEach_append, ← ih]; rfl

end Method

/-! ## Transitions -/

section Transition

variable {A F E ε α β : Type} (fields : A → F)

/-- The object that stands for a value. -/
def Object.of (value : A) (pending : List E) : Object F E := ⟨fields value, pending⟩

/-- What a transition of `before` leaves: its result, or `before` as it was. -/
def Object.settle (before : A) (pending : List E) :
    Except ε (A × α × List E) → Except ε α × Object F E
  | .ok (after, value, events) => (.ok value, .of fields after (pending ++ events))
  | .error error => (.error error, .of fields before pending)

/-- The method does what the transition says, in any object that stands for `before`. -/
def Method.CarriesOut (method : Method F E ε α) (before : A)
    (transition : Except ε (A × α × List E)) : Prop :=
  ∀ pending, method (.of fields before pending) = Object.settle fields before pending transition

variable {fields} {before : A}

namespace Method.CarriesOut

theorem check (result : Except ε β) {rest : β → Method F E ε α}
    {next : β → Except ε (A × α × List E)}
    (hrest : ∀ value, result = .ok value →
      (rest value).CarriesOut fields before (next value)) :
    (Method.check result >>= rest).CarriesOut fields before (result >>= next) := by
  intro pending
  cases hresult : result with
  | error error => rfl
  | ok value => exact hrest value hresult pending

theorem read {value : F → β} {rest : β → Method F E ε α}
    {transition : Except ε (A × α × List E)}
    (hrest : (rest (value (fields before))).CarriesOut fields before transition) :
    (Method.read value >>= rest).CarriesOut fields before transition :=
  hrest

theorem ite {condition : Prop} [Decidable condition] {method other : Method F E ε α}
    {transition otherwise : Except ε (A × α × List E)}
    (hthen : condition → method.CarriesOut fields before transition)
    (helse : ¬ condition → other.CarriesOut fields before otherwise) :
    (if condition then method else other).CarriesOut fields before
      (if condition then transition else otherwise) := by
  split
  · exact hthen ‹_›
  · exact helse ‹_›

theorem dite {condition : Prop} [Decidable condition] {method other : Method F E ε α}
    {transition : condition → Except ε (A × α × List E)}
    {otherwise : ¬ condition → Except ε (A × α × List E)}
    (hthen : ∀ h, method.CarriesOut fields before (transition h))
    (helse : ∀ h, other.CarriesOut fields before (otherwise h)) :
    (if condition then method else other).CarriesOut fields before
      (if h : condition then transition h else otherwise h) := by
  split
  · exact hthen ‹_›
  · exact helse ‹_›

theorem raise {error : ε} :
    (throw error : Method F E ε α).CarriesOut fields before (.error error) :=
  fun _ => rfl

theorem raise_bind {error : ε} {rest : β → Method F E ε α} :
    ((throw error : Method F E ε β) >>= rest).CarriesOut fields before (.error error) :=
  fun _ => rfl

/-- The method found nothing to do. -/
theorem unchanged {value : α} :
    (pure value : Method F E ε α).CarriesOut fields before (.ok (before, value, [])) := by
  intro pending
  simp [Object.settle]

end Method.CarriesOut

/-- A transition that returns nothing. -/
def silently (transition : Except ε (A × List E)) : Except ε (A × Unit × List E) :=
  transition.map fun result => (result.1, (), result.2)

@[simp] theorem silently_bind (result : Except ε β) (next : β → Except ε (A × List E)) :
    silently (result >>= next) = result >>= fun value => silently (next value) := by
  cases result <;> rfl

@[simp] theorem silently_ok (result : A × List E) :
    silently (pure result : Except ε (A × List E)) = pure (result.1, (), result.2) := rfl

@[simp] theorem silently_throw (error : ε) :
    silently (throw error : Except ε (A × List E)) = throw error := rfl

@[simp] theorem silently_ite {condition : Prop} [Decidable condition]
    (transition otherwise : Except ε (A × List E)) :
    silently (if condition then transition else otherwise) =
      if condition then silently transition else silently otherwise := by
  split <;> rfl

@[simp] theorem silently_dite {condition : Prop} [Decidable condition]
    (transition : condition → Except ε (A × List E))
    (otherwise : ¬ condition → Except ε (A × List E)) :
    silently (if h : condition then transition h else otherwise h) =
      if h : condition then silently (transition h) else silently (otherwise h) := by
  split <;> rfl

/-- A method that carries out a transition leaves no trace when it raises. -/
theorem Method.CarriesOut.atomic {method : Method F E ε α}
    {transition : Except ε (A × α × List E)}
    (hcarries : method.CarriesOut fields before transition) {pending : List E} {error : ε}
    (hraise : (method (.of fields before pending)).1 = .error error) :
    (method (.of fields before pending)).2 = .of fields before pending := by
  rw [hcarries pending] at hraise ⊢
  cases transition with
  | error _ => rfl
  | ok result => cases hraise

/-- The new value and the events of a transition; nothing happened when it raised. -/
def settled (before : A) : Except ε (A × α × List E) → A × List E
  | .ok (after, _, events) => (after, events)
  | .error _ => (before, [])

theorem Method.CarriesOut.object {method : Method F E ε α}
    {transition : Except ε (A × α × List E)}
    (hcarries : method.CarriesOut fields before transition) (pending : List E) :
    (method (.of fields before pending)).2 =
      .of fields (settled before transition).1 (pending ++ (settled before transition).2) := by
  rw [hcarries pending]
  cases transition with
  | error error => simp [Object.settle, settled]
  | ok result => rfl

end Transition

/-! ## Histories -/

section History

variable {σ χ ε υ : Type} (call : σ → χ → σ × List ε)

/-- A component that answers a sequence of calls, and everything it emitted. -/
def history : σ → List χ → σ × List ε
  | state, [] => (state, [])
  | state, first :: rest =>
      let answered := call state first
      let later := history answered.1 rest
      (later.1, answered.2 ++ later.2)

variable {call}

/-- What every call keeps, of the state and all that was emitted so far, holds of every
history. -/
theorem history_invariant (Inv : σ → List ε → Prop)
    (hcall : ∀ state log request, Inv state log →
      Inv (call state request).1 (log ++ (call state request).2))
    {state : σ} {log : List ε} (hinv : Inv state log) (calls : List χ) :
    Inv (history call state calls).1 (log ++ (history call state calls).2) := by
  induction calls generalizing state log with
  | nil => simpa [history] using hinv
  | cons first rest ih =>
      have hlater := ih (hcall state log first hinv)
      rwa [List.append_assoc] at hlater

/-- What every call leaves as it is, a history leaves as it is. -/
theorem history_fixed (key : σ → υ)
    (hcall : ∀ state request, key (call state request).1 = key state) (state : σ)
    (calls : List χ) : key (history call state calls).1 = key state := by
  induction calls generalizing state with
  | nil => rfl
  | cons first rest ih => exact (ih _).trans (hcall state first)

/-- A view that every call moves as its events say is moved so by the whole log. -/
theorem foldl_history (view : σ → υ) {apply : υ → ε → υ}
    (hcall : ∀ state request,
      (call state request).2.foldl apply (view state) = view (call state request).1)
    (state : σ) (calls : List χ) :
    (history call state calls).2.foldl apply (view state) =
      view (history call state calls).1 := by
  induction calls generalizing state with
  | nil => rfl
  | cons first rest ih =>
      simp only [history, List.foldl_append, hcall]
      exact ih _

/-- The calls of an object whose methods carry out the answers of a component. -/
theorem foldl_perform {F : Type} {fields : σ → F}
    {perform : χ → Object F ε → Object F ε}
    (hperform : ∀ request state pending, perform request (.of fields state pending) =
      .of fields (call state request).1 (pending ++ (call state request).2))
    (calls : List χ) (state : σ) (pending : List ε) :
    calls.foldl (fun self request => perform request self) (.of fields state pending) =
      .of fields (history call state calls).1 (pending ++ (history call state calls).2) := by
  induction calls generalizing state pending with
  | nil => simp [history]
  | cons first rest ih =>
      rw [List.foldl_cons, hperform, ih, List.append_assoc]
      rfl

end History

end LibrarySystem
