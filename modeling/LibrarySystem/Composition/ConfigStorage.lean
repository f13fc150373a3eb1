import LibrarySystem.Composition.ConfigTree

/-!
# Storing the leaves of a configuration

Each leaf of the tree has one key in etcd, and the text under that key is read back as the
leaf or, where a text has a split surrogate pair, as something else.
-/

namespace LibrarySystem

/-- What the flattened configuration holds for a leaf. -/
def flatValue (rt : PythonRuntime) : Json → Json
  | .obj members => .str (dumps rt (.obj members))
  | value => value

section Flatten

variable (rt : PythonRuntime)

mutual

theorem flattenValue_eq (fullKey : PyStr) (tree : Json) :
    flattenValue rt fullKey tree =
      (leaves id tree).map fun leaf =>
        (fullKey ++ leaf.1.flatMap (slash :: ·), flatValue rt leaf.2) := by
  cases tree with
  | obj members =>
      rw [flattenValue, leaves]
      by_cases hleaf : isLeafDict members = true
      · simp [hleaf, flatValue]
      · rw [if_neg hleaf, if_neg hleaf, flattenMembers_eq (fullKey ++ [slash]) members]
        refine List.map_congr_left fun leaf hmem => ?_
        obtain ⟨part, rest, hpath⟩ := List.exists_cons_of_ne_nil (memberLeaves_path_ne id hmem)
        rw [hpath, Separated.join_cons_eq, List.flatMap_cons, List.append_assoc]
        rfl
  | null | bool _ | int _ | float _ | str _ | arr _ => simp [flattenValue, leaves, flatValue]

theorem flattenMembers_eq (start : PyStr) (members : List (PyStr × Json)) :
    flattenMembers rt start members =
      (memberLeaves id members).map fun leaf =>
        (start ++ Separated.join slash leaf.1, flatValue rt leaf.2) := by
  match members with
  | [] => rfl
  | (key, value) :: rest =>
      rw [flattenMembers, memberLeaves, List.map_append, List.map_map,
        flattenValue_eq (start ++ key) value, flattenMembers_eq start rest]
      congr 1
      refine List.map_congr_left fun leaf _ => ?_
      rw [Function.comp_apply, Separated.join_cons_eq, List.append_assoc]

end

end Flatten

section Map

variable (read : Json → Json)

mutual

/-- The leaves as they are written come from the leaves of the tree. -/
theorem leaves_map (tree : Json) :
    leaves read tree = (leaves id tree).map fun leaf => (leaf.1, read leaf.2) := by
  cases tree with
  | obj members =>
      rw [leaves, leaves]
      by_cases hleaf : isLeafDict members = true
      · simp [hleaf]
      · rw [if_neg hleaf, if_neg hleaf, memberLeaves_map members]
  | null | bool _ | int _ | float _ | str _ | arr _ => rfl

theorem memberLeaves_map (members : List (PyStr × Json)) :
    memberLeaves read members =
      (memberLeaves id members).map fun leaf => (leaf.1, read leaf.2) := by
  match members with
  | [] => rfl
  | (key, value) :: rest =>
      rw [memberLeaves, memberLeaves, List.map_append, List.map_map, leaves_map value,
        memberLeaves_map rest, List.map_map]
      rfl

end

end Map

/-! ## Paths of a configuration -/

section Paths

variable {path : List PyStr}

end Paths

/-! ## The store -/

section Store

variable (rt : PythonRuntime) {configPrefix : PyStr}

end Store

/-! ## Reading a leaf back -/

theorem PyStr.hasSplitPair_of_hasSurrogate {s : PyStr} (hs : PyStr.hasSurrogate s = false) :
    PyStr.hasSplitPair s = false := by
  induction s with
  | nil => rfl
  | cons c rest ih =>
      rw [PyStr.hasSurrogate, List.any_cons, Bool.or_eq_false_iff, CodePoint.isSurrogate,
        Bool.or_eq_false_iff] at hs
      cases rest with
      | nil => rfl
      | cons d rest => rw [PyStr.hasSplitPair, hs.1.1, ih hs.2, Bool.false_and, Bool.false_or]

section Runtime

variable (rt : ConfigRuntime)

/-- A value of a leaf dictionary of a configuration. -/
def isScalar : Json → Bool
  | .float bits => (floatValue bits).isSome
  | .arr _ | .obj _ => false
  | _ => true

theorem lookup_map (read : Json → Json) (key : PyStr) (members : List (PyStr × Json)) :
    Json.lookup key (members.map fun member => (member.1, read member.2)) =
      (Json.lookup key members).map read := by
  induction members with
  | nil => rfl
  | cons member rest ih =>
      obtain ⟨name, value⟩ := member
      rw [List.map_cons, Json.lookup, Json.lookup, ih]
      split <;> rfl

end Runtime

end LibrarySystem
