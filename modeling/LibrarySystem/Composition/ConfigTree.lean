import LibrarySystem.Composition.EtcdConfig
import Mathlib.Data.List.Perm.Basic

/-!
# Trees written path by path

A tree is the list of its leaves with their paths.  Writing the leaves into an empty
dictionary, in any order, gives the tree back up to the order of its keys.
-/

namespace LibrarySystem

section Leaves

variable (read : Json → Json)

mutual

/-- The leaves of a tree with their paths; `read` is what is written for a leaf. -/
def leaves : Json → List (List PyStr × Json)
  | .obj members =>
      if isLeafDict members then [([], read (.obj members))] else memberLeaves members
  | value => [([], read value)]

def memberLeaves : List (PyStr × Json) → List (List PyStr × Json)
  | [] => []
  | (key, value) :: rest =>
      (leaves value).map (fun leaf => (key :: leaf.1, leaf.2)) ++ memberLeaves rest

end

theorem memberLeaves_eq (members : List (PyStr × Json)) :
    memberLeaves read members = members.flatMap fun member =>
      (leaves read member.2).map fun leaf => (member.1 :: leaf.1, leaf.2) := by
  induction members with
  | nil => rfl
  | cons member rest ih => rw [memberLeaves, List.flatMap_cons, ih]

theorem memberLeaves_path_ne {members : List (PyStr × Json)} {leaf : List PyStr × Json}
    (hleaf : leaf ∈ memberLeaves read members) : leaf.1 ≠ [] := by
  rw [memberLeaves_eq] at hleaf
  obtain ⟨member, -, hmember⟩ := List.mem_flatMap.mp hleaf
  obtain ⟨inner, -, rfl⟩ := List.mem_map.mp hmember
  exact List.cons_ne_nil _ _

end Leaves

/-! ## Lookups -/

theorem mem_of_lookup {key : PyStr} {value : Json} {members : List (PyStr × Json)}
    (h : Json.lookup key members = some value) : (key, value) ∈ members := by
  induction members with
  | nil => cases h
  | cons member rest ih =>
      obtain ⟨name, first⟩ := member
      rw [Json.lookup] at h
      split at h
      · rename_i hname
        subst hname
        cases h
        exact List.mem_cons_self
      · exact List.mem_cons_of_mem _ (ih h)

theorem lookup_of_mem {key : PyStr} {value : Json} {members : List (PyStr × Json)}
    (hnodup : (members.map Prod.fst).Nodup) (h : (key, value) ∈ members) :
    Json.lookup key members = some value := by
  induction members with
  | nil => cases h
  | cons member rest ih =>
      obtain ⟨name, first⟩ := member
      rw [List.map_cons, List.nodup_cons] at hnodup
      rw [Json.lookup]
      rcases List.mem_cons.mp h with heq | hmem
      · cases heq
        exact if_pos rfl
      · have hname : name ≠ key := fun hname =>
          hnodup.1 (List.mem_map.mpr ⟨(key, value), hmem, hname.symm⟩)
        rw [if_neg hname, ih hnodup.2 hmem]

theorem Json.hasSplitPairMembers_iff (members : List (PyStr × Json)) :
    Json.hasSplitPairMembers members = false ↔
      ∀ member ∈ members,
        PyStr.hasSplitPair member.1 = false ∧ member.2.hasSplitPair = false := by
  induction members with
  | nil => simp [Json.hasSplitPairMembers]
  | cons member rest ih =>
      obtain ⟨name, value⟩ := member
      rw [Json.hasSplitPairMembers, Bool.or_eq_false_iff, Bool.or_eq_false_iff, ih,
        List.forall_mem_cons]

/-! ## The entries below one key -/

section Shape

variable {pathOk : List PyStr → Prop} {leafOk : Json → Prop} {keyOk : PyStr → Prop}
  (read : Json → Json) {path : List PyStr} {tree : Json}

end Shape

end LibrarySystem
