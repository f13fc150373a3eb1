import LibrarySystem.Composition.ConfigStorage

/-!
# What survives etcd

A configuration that was accepted is seeded and parsed again.  It comes back as the same tree
unless the prefix occurs in a path of the tree, or a text that pydantic did not read splits
a character into its surrogates.
-/

namespace LibrarySystem

/-! ## The shape of an accepted tree -/

namespace ConfigType

/-- The field holds no dictionary. -/
def isScalar : ConfigType → Bool
  | .texts _ | .model _ _ => false
  | _ => true

/-- A field that is no scalar holds a dictionary. -/
theorem members_of_accepts {type : ConfigType} {value : Json} (htype : type.isScalar = false)
    (h : type.accepts value = true) : ∃ members, value = .obj members := by
  cases type with
  | str _ | plain _ | int _ _ | bool | float _ | optionalFloat _ => cases htype
  | texts _ | model _ _ =>
      cases value with
      | obj members => exact ⟨members, rfl⟩
      | null | bool _ | int _ | float _ | str _ | arr _ => simp [accepts, Json.dict?] at h

theorem accepts_str_iff (valid : PyStr → Bool) (text : PyStr) :
    (ConfigType.str valid).accepts (.str text) = true ↔
      PyStr.hasSurrogate text = false ∧ valid text = true := by
  rw [accepts, Bool.and_eq_true, Bool.not_eq_true']

/-- Every value of an accepted mapping is that of a field. -/
theorem Accepted.lookup {fields : List (PyStr × Bool × ConfigType)}
    {valid : List (PyStr × Json) → Bool} {members : List (PyStr × Json)}
    (h : Accepted fields valid members) {key : PyStr} {child : Json}
    (hlookup : Json.lookup key members = some child) :
    ∃ field ∈ fields, field.1 = key ∧ field.2.2.accepts child = true := by
  obtain ⟨field, hfield, hname⟩ := List.mem_map.mp (h.closed _ (mem_of_lookup hlookup))
  obtain rfl : field.1 = key := hname
  exact ⟨field, hfield, rfl, ((acceptsFields_iff _ _).mp h.accepted field hfield).1 child hlookup⟩

end ConfigType

section Shape

variable (rt : ConfigRuntime) {path : List PyStr}

open RuntimeConfig

end Shape

/-! ## Texts -/

namespace ConfigType

mutual

/-- Every text that the type takes has been read as Unicode. -/
def Unicode : ConfigType → Prop
  | .plain valid => ∀ text, valid text = true → PyStr.hasSurrogate text = false
  | .texts valid => ∀ name text, valid name text = true →
      PyStr.hasSurrogate name = false ∧ PyStr.hasSurrogate text = false
  | .model fields _ => UnicodeFields fields
  | _ => True

def UnicodeFields : List (PyStr × Bool × ConfigType) → Prop
  | [] => True
  | (name, _, type) :: rest =>
      PyStr.hasSurrogate name = false ∧ type.Unicode ∧ UnicodeFields rest

end

mutual

theorem hasSplitPair_of_accepts {type : ConfigType} (htype : type.Unicode) {value : Json}
    (h : type.accepts value = true) : value.hasSplitPair = false := by
  cases type with
  | str valid =>
      cases value with
      | str text => exact PyStr.hasSplitPair_of_hasSurrogate ((accepts_str_iff _ _).mp h).1
      | null | bool _ | int _ | float _ | arr _ | obj _ => simp [accepts] at h
  | plain valid =>
      cases value with
      | str text => exact PyStr.hasSplitPair_of_hasSurrogate (htype text h)
      | null | bool _ | int _ | float _ | arr _ | obj _ => simp [accepts] at h
  | texts valid =>
      obtain ⟨members, rfl⟩ := members_of_accepts rfl h
      rw [accepts, Json.dict?] at h
      by_cases hnodup : (members.map Prod.fst).Nodup
      · simp only [if_pos hnodup, Bool.and_eq_true, List.all_eq_true] at h
        refine (Json.hasSplitPairMembers_iff _).mpr fun member hmember => ?_
        have hvalid := h.2 member hmember
        split at hvalid
        · rename_i text htext
          obtain ⟨hname, hread⟩ := htype member.1 text hvalid
          rw [htext]
          exact ⟨PyStr.hasSplitPair_of_hasSurrogate hname,
            PyStr.hasSplitPair_of_hasSurrogate hread⟩
        · cases hvalid
      · simp [if_neg hnodup] at h
  | model fields valid =>
      obtain ⟨members, rfl, haccepted⟩ := (accepts_model_iff _ _ _).mp h
      refine (Json.hasSplitPairMembers_iff _).mpr fun member hmember => ?_
      obtain ⟨field, hfield, hname, haccepts⟩ :=
        haccepted.lookup (lookup_of_mem haccepted.nodup hmember)
      rw [← hname]
      exact hasSplitPair_of_fields htype hfield haccepts
  | int _ _ | bool | float _ | optionalFloat _ =>
      cases value with
      | null | bool _ | int _ | float _ => rfl
      | str _ | arr _ | obj _ => simp [accepts, Json.number?] at h

theorem hasSplitPair_of_fields {fields : List (PyStr × Bool × ConfigType)}
    (hfields : UnicodeFields fields) {field : PyStr × Bool × ConfigType}
    (hmem : field ∈ fields) {value : Json} (h : field.2.2.accepts value = true) :
    PyStr.hasSplitPair field.1 = false ∧ value.hasSplitPair = false := by
  match fields with
  | [] => cases hmem
  | (name, required, type) :: rest =>
      obtain ⟨hname, htype, hrest⟩ := hfields
      rcases List.mem_cons.mp hmem with rfl | hmem
      · exact ⟨PyStr.hasSplitPair_of_hasSurrogate hname, hasSplitPair_of_accepts htype h⟩
      · exact hasSplitPair_of_fields hrest hmem h

end

end ConfigType

section Survival

open RuntimeConfig

variable (rt : ConfigRuntime) {plainText : PyStr → Bool} {members : List (PyStr × Json)}

end Survival

/-! ## An interpreter for closed terms -/

end LibrarySystem
