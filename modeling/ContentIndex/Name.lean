import ContentIndex.Value.Key

/-!
# Names of node types

Any value that may stand as a key names a node type. Two names are the same if their keys are,
whatever the values look like.
-/

namespace ContentIndex

set_option autoImplicit false

structure Name where
  value : Value
  key : Key
  deriving Inhabited

namespace Name

def ofText (s : String) : Name :=
  ⟨.str s, [.str s]⟩

def ofValue? (v : Value) : Option Name :=
  v.key?.map fun key => ⟨v, key⟩

def keys (names : List Name) : List Key :=
  names.map (·.key)

end Name

end ContentIndex
