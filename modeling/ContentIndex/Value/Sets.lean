import ContentIndex.Error
import ContentIndex.Value.Order

/-!
# Sets of values

A set holds one value for each key. Sets of numbers list them in ascending order, other sets in
the order of insertion.
-/

namespace ContentIndex.Value

set_option autoImplicit false

def unhashable (v : Value) : Fault :=
  .wrongType ("unhashable type: '" ++ v.typeName ++ "'")

def keyOf (v : Value) : Except Fault Key :=
  match v.key? with
  | some key => .ok key
  | Option.none => .error (unhashable v)

def isNumber (v : Value) : Bool :=
  (number? v).isSome

def notAbove (v w : Value) : Bool :=
  match compareWith v w with
  | .ordered .gt => false
  | _ => true

def ofDistinct (items : List Value) : Value :=
  .set (if items.all isNumber then items.mergeSort notAbove else items) 0

/-- The set of the given values, all of which have a key. -/
def ofElements (items : List Value) : Value :=
  ofDistinct (dedup items)

/-- Those of the items that are among the others, or that are not. -/
def kept (items others : List Value) (among : Bool) : List Value :=
  let known := keySet others
  items.filter fun v => (v.key?.map known.contains).getD false == among

def unite (a b : List Value) : Value :=
  ofElements (a ++ b)

/-- What both hold, taken from the smaller one, of equally large ones from the second. -/
def intersection (a b : List Value) : Value :=
  if a.length < b.length then ofDistinct (kept a b true) else ofDistinct (kept b a true)

def difference (a b : List Value) : Value :=
  ofDistinct (kept a b false)

def symmetricDifference (a b : List Value) : Value :=
  ofDistinct (kept a b false ++ kept b a false)

/-- Whether an operator combines sets. -/
def combinesSets : BinaryOp → Bool
  | .bitOr | .bitAnd | .sub | .bitXor => true
  | _ => false

def onSets (op : BinaryOp) (a b : List Value) : Option Value :=
  match op with
  | .bitOr => some (unite a b)
  | .bitAnd => some (intersection a b)
  | .sub => some (difference a b)
  | .bitXor => some (symmetricDifference a b)
  | _ => Option.none

end ContentIndex.Value
