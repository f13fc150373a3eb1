import LibrarySystem.Application.LendingCommands
import LibrarySystem.Application.PatronCommands
import LibrarySystem.Query.ReadPaths

/-!
# The responses that receipts keep

A receipt keeps the response of its command as JSON text with sorted keys.  A response
of texts that PostgreSQL stores is read back as it was written.
-/

namespace LibrarySystem

namespace Json

theorem insertMember_perm (member : PyStr × Json) (members : List (PyStr × Json)) :
    (insertMember member members).Perm (member :: members) := by
  induction members with
  | nil => exact List.Perm.refl _
  | cons first rest ih =>
      unfold insertMember
      split
      · exact List.Perm.refl _
      · exact (ih.cons first).trans (List.Perm.swap member first rest)

theorem sortMembers_perm (members : List (PyStr × Json)) :
    (sortMembers members).Perm (members.map fun member => (member.1, sortKeys member.2)) := by
  induction members with
  | nil => exact List.Perm.refl _
  | cons first rest ih =>
      rw [sortMembers, List.map_cons]
      exact (insertMember_perm _ _).trans (ih.cons _)

theorem faithful_sortKeys {members : List (PyStr × Json)}
    (hnames : (members.map Prod.fst).Nodup)
    (hmembers : ∀ member ∈ members, PyStr.hasSplitPair member.1 = false ∧
      faithful (sortKeys member.2) = true) :
    faithful (sortKeys (.obj members)) = true := by
  have hperm := sortMembers_perm members
  simp only [sortKeys, faithful, Bool.and_eq_true, decide_eq_true_eq]
  constructor
  · rw [faithfulMembers_iff]
    intro member hmember
    obtain ⟨first, hfirst, rfl⟩ := List.mem_map.mp (hperm.mem_iff.mp hmember)
    exact hmembers first hfirst
  · rw [(hperm.map Prod.fst).nodup_iff, List.map_map]
    exact hnames

end Json

/-- A result whose stored response is read back, when it is `Plain`. -/
class Restorable (Result : Type) [Receipted Result] where
  Plain : Result → Prop
  names : ∀ result : Result, ((Receipted.response result).map Prod.fst).Nodup
  faithful : ∀ result, Plain result → ∀ member ∈ Receipted.response result,
    PyStr.hasSplitPair member.1 = false ∧ Json.faithful (Json.sortKeys member.2) = true
  restores : ∀ (rt : PythonRuntime) (result : Result), Plain result →
    Receipted.ofResponse rt (Json.sortMembers (Receipted.response result)) = some result

/-- What is written is read back. -/
theorem loadResponse_dumpResponse {Result : Type} [Receipted Result] [Restorable Result]
    (rt : PythonRuntime) {result : Result} (hplain : Restorable.Plain result) :
    loadResponse rt (dumpResponse rt result) = some result := by
  have hloads := Json.loads_render rt.parseFloat rt.floatRepr Json.readable_default _
    (Json.faithful_sortKeys (Restorable.names result) (Restorable.faithful result hplain))
  unfold loadResponse dumpResponse
  rw [hloads]
  exact Restorable.restores rt result hplain

def PlainTexts (texts : List PyStr) : Prop := ∀ text ∈ texts, PyStr.hasSplitPair text = false

/-- The text of an instant is read as the instant. -/
theorem Response.datetime_isoformat (rt : PythonRuntime) {members : List (PyStr × Json)}
    {name : PyStr} (t : UtcDateTime)
    (hlookup : Json.lookup name members = some (.str (isoformat t))) :
    Response.datetime members rt name = some t := by
  have hinstant : (DateTime.astimezoneUtc t .zero).toOption = some t := by
    rw [DateTime.astimezoneUtc_zero]
    rfl
  unfold Response.datetime
  rw [hlookup]
  dsimp only
  rw [rt.fromisoformat_isoformat]
  exact hinstant

theorem hasSplitPair_isoformat (t : UtcDateTime) :
    PyStr.hasSplitPair (isoformat t) = false :=
  Json.hasSplitPair_of_isAscii (isoformat_isAscii t)

instance : Restorable AddBookResult where
  Plain result := PlainTexts [result.id, result.title, result.author, result.status]
  names _ := by
    simp only [Receipted.response, List.map_cons, List.map_nil]
    decide
  faithful result hplain := by
    simp only [PlainTexts, List.forall_mem_cons] at hplain
    obtain ⟨hid, htitle, hauthor, hstatus, -⟩ := hplain
    simp only [Receipted.response, List.forall_mem_cons, Json.sortKeys, Json.faithful, hid,
      htitle, hauthor, hstatus]
    decide
  restores _ _ _ := rfl

instance : Restorable BorrowBookResult where
  Plain result := result.return_due_date = .absent ∧
    PlainTexts [result.id, result.title, result.author, result.reservation_id,
      result.operation_id, result.status]
  names _ := by
    simp only [Receipted.response, List.map_cons, List.map_nil]
    decide
  faithful result hplain := by
    simp only [PlainTexts, List.forall_mem_cons] at hplain
    obtain ⟨hdate, hid, htitle, hauthor, hreservation, hoperation, hstatus, -⟩ := hplain
    simp only [Receipted.response, List.forall_mem_cons, hdate, ReturnDueDate.json,
      Json.sortKeys, Json.faithful, hid, htitle, hauthor, hreservation, hoperation, hstatus]
    decide
  restores _ result hplain := by
    obtain ⟨id, title, author, borrowed, reservation, generation, operation, status, date⟩ :=
      result
    obtain ⟨rfl, -⟩ := hplain
    rfl

instance : Restorable ReturnLoanResult where
  Plain result := PlainTexts [result.id]
  names _ := by
    simp only [Receipted.response, List.map_cons, List.map_nil]
    decide
  faithful result hplain := by
    simp only [PlainTexts, List.forall_mem_cons] at hplain
    obtain ⟨hid, -⟩ := hplain
    simp only [Receipted.response, List.forall_mem_cons, Json.sortKeys, Json.faithful, hid,
      hasSplitPair_isoformat]
    decide
  restores rt result _ := by
    have hdate : Response.datetime (Json.sortMembers (Receipted.response result)) rt
        (py "returned_at") = some result.returned_at :=
      Response.datetime_isoformat rt result.returned_at rfl
    simp only [Receipted.ofResponse, hdate]
    rfl

instance : Restorable ExtendLoanResult where
  Plain result := PlainTexts [result.id]
  names _ := by
    simp only [Receipted.response, List.map_cons, List.map_nil]
    decide
  faithful result hplain := by
    simp only [PlainTexts, List.forall_mem_cons] at hplain
    obtain ⟨hid, -⟩ := hplain
    simp only [Receipted.response, List.forall_mem_cons, Json.sortKeys, Json.faithful, hid,
      hasSplitPair_isoformat]
    decide
  restores rt result _ := by
    have hdate : Response.datetime (Json.sortMembers (Receipted.response result)) rt
        (py "new_due_date") = some result.new_due_date :=
      Response.datetime_isoformat rt result.new_due_date rfl
    simp only [Receipted.ofResponse, hdate]
    rfl

instance : Restorable PatronSnapshot where
  Plain result := PlainTexts ([result.id, result.name, result.first_name, result.last_name,
    result.email, result.membership_tier] ++ result.suspended_reason.toList)
  names _ := by
    simp only [Receipted.response, List.map_cons, List.map_nil]
    decide
  faithful result hplain := by
    simp only [PlainTexts, List.cons_append, List.nil_append, List.forall_mem_cons] at hplain
    obtain ⟨hid, hname, hfirst, hlast, hemail, htier, hreason⟩ := hplain
    cases hsuspended : result.suspended_reason with
    | none =>
        simp only [Receipted.response, List.forall_mem_cons, hsuspended, Json.sortKeys,
          Json.faithful, hid, hname, hfirst, hlast, hemail, htier, hasSplitPair_isoformat]
        decide
    | some reason =>
        have hplain := hreason reason (by simp [hsuspended])
        simp only [Receipted.response, List.forall_mem_cons, hsuspended, Json.sortKeys,
          Json.faithful, hid, hname, hfirst, hlast, hemail, htier, hasSplitPair_isoformat,
          hplain]
        decide
  restores rt result _ := by
    have hdate : Response.datetime (Json.sortMembers (Receipted.response result)) rt
        (py "registered_at") = some result.registered_at :=
      Response.datetime_isoformat rt result.registered_at rfl
    obtain ⟨id, name, first, last, email, tier, suspended, reason, registered⟩ := result
    simp only [Receipted.ofResponse, hdate]
    cases reason <;> rfl

end LibrarySystem
