/-!
# JSON

A document: null, truth values, numbers, texts, arrays and objects, whose members keep their order.
Integers are kept apart from other numbers, which are floats and may be infinite or no number.
-/

namespace ContentIndex

set_option autoImplicit false

inductive Json where
  | null
  | bool (b : Bool)
  | int (n : Int)
  | float (x : Float)
  | str (s : String)
  | array (items : List Json)
  | object (members : List (String × Json))

instance : Inhabited Json := ⟨.null⟩

end ContentIndex
