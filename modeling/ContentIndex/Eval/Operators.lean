import ContentIndex.Eval.Iterate
import ContentIndex.Value.Subscript

/-!
# Comparisons and membership

Comparisons of two values, among them whether they are one and the same, and whether a collection
holds a value.
-/

namespace ContentIndex.Eval

set_option autoImplicit false

def bytesContain (b : List UInt8) (v : Value) : Except Fault Bool :=
  match v with
  | .bytes part =>
    .ok ((Text.cut? (part.map fun x => Char.ofNat x.toNat)
      (b.map fun x => Char.ofNat x.toNat)).isSome)
  | _ =>
    match Value.intOf? v with
    | some n =>
      if 0 ≤ n && n < 256 then .ok (b.contains (UInt8.ofNat n.toNat))
      else .error (.wrongValue "byte must be in range(0, 256)")
    | none => .error (.wrongType ("a bytes-like object is required, not '" ++ v.typeName ++ "'"))

/-- Whether a collection holds a value. -/
def contains (I : Interp) (v : Value) (collection : Value) : Eval Bool := do
  match collection with
  | .str s =>
    match v with
    | .str part => return (Text.cut? part.toList s.toList).isSome
    | _ => fault (.wrongType ("'in <string>' requires string as left operand, not " ++ v.typeName))
  | .bytes b => ofFault (bytesContain b v)
  | .set .. => ofFault (Value.holds collection v)
  | .view .keys .. => ofFault (Value.holds collection v)
  | .view .items .. => ofFault (Value.holds collection v)
  | .dict entries _ => do
    let key ← ofFault (Value.keyOf v)
    return Entries.contains entries key
  | .range start stop step _ => return (Value.rangePosition? start stop step v).isSome
  | _ =>
    match collection.listed? with
    | some items => return items.any (Value.same v)
    | none =>
      if isIterable collection then
        let found ← search I (fun w => pure (Value.same v w)) longest (← iterate collection)
        return found.isSome
      else
        fault (.wrongType ("argument of type '" ++ collection.typeName ++ "' is not iterable"))

def compareSymbol : CompareOp → String
  | .lt => "<"
  | .le => "<="
  | .gt => ">"
  | .ge => ">="
  | _ => "="

def orderStep (op : CompareOp) (v w : Value) : Except Fault Bool :=
  match (Value.compareWith v w).holds? op with
  | some r => .ok r
  | none =>
    .error (.wrongType ("'" ++ compareSymbol op ++ "' not supported between instances of '" ++
      v.typeName ++ "' and '" ++ w.typeName ++ "'"))

/-- One comparison. -/
def compareStep (I : Interp) (op : CompareOp) (v w : Value) : Eval Bool := do
  match op with
  | .same => return Value.identical v w
  | .notSame => return !Value.identical v w
  | .elementOf => contains I v w
  | .notElementOf => return !(← contains I v w)
  | _ =>
    match Value.compareViews? op v w with
    | some result => ofFault result
    | none =>
      match op with
      | .eq => return Value.equal v w
      | .ne => return !Value.equal v w
      | _ => ofFault (orderStep op v w)

end ContentIndex.Eval
