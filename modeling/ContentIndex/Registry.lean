import ContentIndex.Store
import ContentIndex.Table
import ContentIndex.Value.Key
import ContentIndex.Value.Written

/-!
# Registries

Node types under their names, in the order in which the names were first registered. A name that
is registered again stands for its newest type.
-/

namespace ContentIndex

set_option autoImplicit false

abbrev Registry := Table Key Nat

namespace Registry

def has (r : Registry) (name : Key) : Bool :=
  (r.lookup name).isSome

def register (r : Registry) (name : Key) (id : Nat) : Registry :=
  r.put name id

def registerAll (r : Registry) (types : List (Name × Nat)) : Registry :=
  types.foldl (fun r (name, id) => r.register name.key id) r

/-- The type of a name. -/
def get (r : Registry) (name : Value) : Except Error Nat :=
  match name.key? with
  | none => .error (.fault (.wrongType ("unhashable type: '" ++ name.typeName ++ "'")))
  | some key =>
    match r.lookup key with
    | some id => .ok id
    | none => .error (name.problemWith (.unknownType name))

def replacedMessage (name : Value) : String :=
  "Replacing node type: " ++ name.shown

theorem lookup_register_self (r : Registry) (name : Key) (id : Nat) :
    (r.register name id).lookup name = some id :=
  Table.lookup_put_self r name id

theorem lookup_register_of_ne (r : Registry) {name other : Key} (id : Nat)
    (hne : other ≠ name) : (r.register name id).lookup other = r.lookup other :=
  Table.lookup_put_of_ne r id hne

end Registry

end ContentIndex
