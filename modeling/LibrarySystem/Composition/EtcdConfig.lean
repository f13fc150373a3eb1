import LibrarySystem.Composition.RuntimeConfig
import LibrarySystem.Foundation.Separated
import LibrarySystem.Foundation.Result

/-!
# The configuration in etcd

`seed_config` stores a configuration tree under one prefix: dictionaries without inner
dictionaries as JSON text, texts as they are, and other values as JSON.  `EtcdAdapter` reads
the keys back into a tree.
-/

namespace LibrarySystem

def slash : CodePoint := 0x2F

/-- `is_leaf_dict` -/
def isLeafDict (members : List (PyStr × Json)) : Bool :=
  members.all fun member => member.2.members?.isNone

section Codec

variable (rt : PythonRuntime)

/-- `json.dumps(value)` -/
def dumps (value : Json) : PyStr := value.render rt.floatRepr .default

mutual

/-- The items that one value of the configuration adds to the result. -/
def flattenValue (fullKey : PyStr) : Json → List (PyStr × Json)
  | .obj members =>
      if isLeafDict members then [(fullKey, .str (dumps rt (.obj members)))]
      else flattenMembers (fullKey ++ [slash]) members
  | value => [(fullKey, value)]

def flattenMembers (start : PyStr) : List (PyStr × Json) → List (PyStr × Json)
  | [] => []
  | (key, value) :: rest => flattenValue (start ++ key) value ++ flattenMembers start rest

end

/-- What etcd holds under each key. -/
abbrev EtcdStore := PyStr → Option PyStr

/-- What `get_prefix` returns, in any order. -/
structure EtcdStore.Listing (store : EtcdStore) (start : PyStr)
    (entries : List (PyStr × PyStr)) : Prop where
  nodup : (entries.map Prod.fst).Nodup
  mem_iff : ∀ key value, (key, value) ∈ entries ↔ start <+: key ∧ store key = some value

/-- `client.put(key, value)`; keys and values are sent as UTF-8, and `none` is
`UnicodeEncodeError`. -/
def EtcdStore.put (store : EtcdStore) (key value : PyStr) : Option EtcdStore :=
  if PyStr.hasSurrogate key || PyStr.hasSurrogate value then none
  else some fun other => if other = key then some value else store other

end Codec

/-! ## Trees up to the order of their keys -/

end LibrarySystem
