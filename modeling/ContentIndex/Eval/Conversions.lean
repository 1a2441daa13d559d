import ContentIndex.Decimal.Reader
import ContentIndex.Eval.Methods

/-!
# Conversions between kinds of values

Numbers from texts and other numbers, dictionaries from pairs, and the kinds a value belongs to.
-/

namespace ContentIndex.Eval

set_option autoImplicit false

/-- Bases in which any number of digits is read. -/
def isBinaryBase (base : Nat) : Bool :=
  [2, 4, 8, 16, 32].contains base

def integerOfText (margin : Char → Bool) (base : Nat) (s : List Char) : Except Fault Value :=
  let (used, digits) := Decimal.effectiveBase base (Text.trim margin s)
  if Value.digitLimit < digits && !isBinaryBase used then .error Value.exceedsDigits
  else
    match Decimal.intOfText? margin base s with
    | some n => .ok (.int n)
    | none =>
      .error (.wrongValue ("invalid literal for int() with base " ++
        (Value.int base).quoted ++ ": " ++ quoteText (String.ofList s)))

def asciiOfBytes (b : List UInt8) : List Char :=
  b.map fun x => Char.ofNat x.toNat

def integerOf (v : Value) : Except Fault Value :=
  match v with
  | .bool b => .ok (.int (if b then 1 else 0))
  | .int n => .ok (.int n)
  | .float x =>
    match Decimal.truncate? x with
    | some n => .ok (.int n)
    | none =>
      if x.isNaN then .error (.wrongValue "cannot convert float NaN to integer")
      else .error (.tooLarge "cannot convert float infinity to integer")
  | .nan _ => .error (.wrongValue "cannot convert float NaN to integer")
  | .str s => integerOfText Decimal.isMargin 10 s.toList
  | .bytes b => integerOfText Decimal.isByteMargin 10 (asciiOfBytes b)
  | v =>
    .error (.wrongType ("int() argument must be a string, a bytes-like object or a real number, " ++
      "not '" ++ v.typeName ++ "'"))

def integerInBase (v base : Value) : Except Fault Value := do
  let b ← intArg base
  if !(b == 0 || (2 ≤ b && b ≤ 36)) then
    .error (.wrongValue "int() base must be >= 2 and <= 36, or 0")
  else
    match v with
    | .str s => integerOfText Decimal.isMargin b.toNat s.toList
    | .bytes bs => integerOfText Decimal.isByteMargin b.toNat (asciiOfBytes bs)
    | _ => .error (.wrongType "int() can't convert non-string with explicit base")

def floatOfText (margin : Char → Bool) (s : List Char) : Except Fault Value :=
  match Decimal.floatOfText? margin s with
  | some x => .ok (.float x)
  | none =>
    .error (.wrongValue ("could not convert string to float: " ++ quoteText (String.ofList s)))

def floatOf (v : Value) : Except Fault Value :=
  match v with
  | .float x => .ok (.float x)
  | .nan mark => .ok (.nan mark)
  | .str s => floatOfText Decimal.isMargin s.toList
  | .bytes b => floatOfText Decimal.isByteMargin (asciiOfBytes b)
  | v =>
    match Value.intOf? v with
    | some n => (Value.floatOfInt n).map .float
    | none =>
      .error (.wrongType ("float() argument must be a string or a real number, not '" ++
        v.typeName ++ "'"))

/-- Two elements that make an entry. -/
def pairOf (I : Interp) (v : Value) : Eval (Value × Value) := do
  if !isIterable v then fault (.wrongType "cannot convert dictionary update sequence element")
  else
    match ← collect I v with
    | [key, value] => return (key, value)
    | _ => fault (.wrongValue "dictionary update sequence element has wrong length")

def insertChecked (entries : Entries) (key value : Value) : Except Fault Entries := do
  let _ ← Value.keyOf key
  return Entries.insert entries key value

/-- The dictionary that a mapping or a list of pairs gives. -/
def dictOf (I : Interp) (v : Value) : Eval Entries := do
  match v.entries? with
  | some entries => return entries
  | none =>
    let step (entries : List (Value × Value)) (item : Value) : Eval (List (Value × Value)) := do
      let (key, value) ← pairOf I item
      let _ ← ofFault (Value.keyOf key)
      return (key, value) :: entries
    let reversed ← fold I step longest (← iterate v) []
    return Entries.ofList reversed.reverse

def elementsOf (vs : List Value) : Except Fault Value := do
  let _ ← vs.mapM Value.keyOf
  return Value.ofElements vs

/-- Whether a value belongs to a type of the language. -/
def isOfBuiltin (v : Value) (b : Builtin) : Bool :=
  match b, v with
  | .bool, .bool _ => true
  | .int, .bool _ => true
  | .int, .int _ => true
  | .float, .float _ => true
  | .float, .nan _ => true
  | .str, .str _ => true
  | .list, .list .. => true
  | .tuple, .tuple .. => true
  | .set, .set .. => true
  | .dict, .dict .. => true
  | .range, .range .. => true
  | .enumerate, .cursor .enumerate _ => true
  | .filter, .cursor .filter _ => true
  | .map, .cursor .map _ => true
  | .zip, .cursor .zip _ => true
  | .reversed, .cursor .reversed _ => true
  | _, _ => false

/-- Whether a value belongs to a type of the library, by name. -/
def isOfType (v : Value) (t : LibraryType) : Bool :=
  match v with
  | .asset a _ => t.name == "Asset" || t.name == a.typeName
  | v => t.name == v.typeName

def notATypeInfo : Fault :=
  .wrongType "isinstance() arg 2 must be a type, a tuple of types, or a union"

/-- Whether a value belongs to a member of a union; null stands for its own type. -/
def isOfMember (v : Value) : Value → Bool
  | .none => v.identical .none
  | .builtin b => isOfBuiltin v b
  | .typeObject t => isOfType v t
  | _ => false

def isParameterised (v : Value) : Bool :=
  v matches .object ..

/-- Whether a value belongs to a type, to a member of a union or to one of nested tuples. -/
def isInstance (v : Value) : Value → Except Fault Bool
  | .builtin b => if b.isType then .ok (isOfBuiltin v b) else .error notATypeInfo
  | .typeObject t => .ok (isOfType v t)
  | .tuple items _ => anyInstance v items
  | .union members =>
    if members.any isParameterised then .error notATypeInfo
    else .ok (members.any (isOfMember v))
  | _ => .error notATypeInfo
where
  anyInstance (v : Value) : List Value → Except Fault Bool
    | [] => .ok false
    | t :: ts => do if ← isInstance v t then return true else anyInstance v ts

def lengthOf (v : Value) : Except Fault Value :=
  match v with
  | .range start stop step _ =>
    let n := Value.rangeLength start stop step
    if Decimal.signUnit ≤ n then .error (.tooLarge "too many elements to count")
    else .ok (.int n)
  | .object "NodeTypeRegistry" _ => .ok (.int 0)
  | _ =>
    match v with
    | .str s => .ok (.int s.length)
    | _ =>
      match v.listed? with
      | some items => .ok (.int items.length)
      | none => .error (.wrongType ("object of type '" ++ v.typeName ++ "' has no len()"))

def roundNumber (v places : Value) : Except Fault Value :=
  match Value.number? v, places with
  | some (.int n), .none => .ok (.int n)
  | some (.float x), .none =>
    match Decimal.roundToInt? x with
    | some n => .ok (.int n)
    | none =>
      if x.isNaN then .error (.wrongValue "cannot convert float NaN to integer")
      else .error (.tooLarge "cannot convert float infinity to integer")
  | some (.int n), p => do return .int (Decimal.roundIntToPlaces n (← intArg p))
  | some (.float x), p => do
    let y := Decimal.roundToPlaces x (← intArg p)
    if Decimal.isInfinite y && !Decimal.isInfinite x then
      .error (.tooLarge "rounded value too large to represent")
    else return .float y
  | none, _ =>
    .error (.wrongType ("type " ++ v.typeName ++ " doesn't define __round__ method"))

end ContentIndex.Eval
