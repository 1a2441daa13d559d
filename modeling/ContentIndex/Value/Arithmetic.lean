import ContentIndex.Decimal.Arithmetic
import ContentIndex.Error
import ContentIndex.Value.Pattern
import ContentIndex.Value.Views

/-!
# Operators on values

Integers are unlimited; a float in either place makes the result a float. Texts and sequences can
be added and repeated, sets combined, dictionaries overlaid.
-/

namespace ContentIndex.Value

set_option autoImplicit false

def opSymbol : BinaryOp → String
  | .add => "+" | .sub => "-" | .mul => "*" | .matmul => "@" | .div => "/" | .floorDiv => "//"
  | .mod => "%" | .pow => "**" | .shiftLeft => "<<" | .shiftRight => ">>" | .bitOr => "|"
  | .bitXor => "^" | .bitAnd => "&"

def unsupported (op : BinaryOp) (a b : Value) : Fault :=
  .wrongType ("unsupported operand type(s) for " ++ opSymbol op ++ ": '" ++ a.typeName ++
    "' and '" ++ b.typeName ++ "'")

/-- Longest sequence, in elements, and largest integer, in bits, that an operator builds. -/
def sizeLimit : Nat := 100000000

def floatOfInt (n : Int) : Except Fault Float :=
  match Decimal.ofInt? n with
  | some x => .ok x
  | Option.none => .error (.tooLarge "int too large to convert to float")

def Number.toFloat : Number → Except Fault Float
  | .int n => floatOfInt n
  | .float x => .ok x

def twosComplement (width : Nat) (n : Int) : Nat :=
  (n % Int.ofNat (Nat.pow 2 width)).toNat

def ofTwosComplement (width n : Nat) : Int :=
  if n < Nat.pow 2 (width - 1) then Int.ofNat n else Int.ofNat n - Int.ofNat (Nat.pow 2 width)

/-- Applies an operator to the binary digits of two integers, negative ones in two's complement. -/
def bitwise (f : Nat → Nat → Nat) (a b : Int) : Int :=
  let width := max a.natAbs.log2 b.natAbs.log2 + 2
  ofTwosComplement width (f (twosComplement width a) (twosComplement width b))

/-- More binary digits than an integer can have at all. -/
def digitBound : Int := 30 * 2305843009213693950

def shiftLeft (a b : Int) : Except Fault Value :=
  if b < 0 then .error (.wrongValue "negative shift count")
  else if a == 0 then .ok (.int 0)
  else if digitBound ≤ b then .error (.tooLarge "too many digits in integer")
  else if sizeLimit < a.natAbs.log2 + b.toNat then .error .outOfMemory
  else .ok (.int (a * Int.ofNat (Nat.pow 2 b.toNat)))

def shiftRight (a b : Int) : Except Fault Value :=
  if b < 0 then .error (.wrongValue "negative shift count")
  else if Int.ofNat a.natAbs.log2 < b then .ok (.int (if a < 0 then -1 else 0))
  else .ok (.int (a.fdiv (Int.ofNat (Nat.pow 2 b.toNat))))

def powerOfFloats (x y : Float) : Except Fault Value :=
  match Decimal.power x y with
  | .ok z => .ok (.float z)
  | .error .zeroToNegative =>
    .error (.divisionByZero "0.0 cannot be raised to a negative power")
  | .error .tooLarge => .error (.tooLarge "(34, 'Numerical result out of range')")
  | .error .notReal => .ok (.object "complex" 0)

/-- The power of the magnitude, negative for an odd power of a negative number. -/
def signedPower (a : Int) (n : Nat) : Int :=
  let magnitude := Int.ofNat (Nat.pow a.natAbs n)
  if a < 0 && n % 2 == 1 then -magnitude else magnitude

def powerOfInts (a b : Int) : Except Fault Value :=
  if b < 0 then do powerOfFloats (← floatOfInt a) (← floatOfInt b)
  else if 1 < a.natAbs && sizeLimit < (a.natAbs.log2 + 1) * b.toNat then .error .outOfMemory
  else if a == 1 || a == 0 || a == -1 then
    .ok (.int (if b == 0 then 1 else if a == -1 && b % 2 == 0 then 1 else a))
  else .ok (.int (signedPower a b.toNat))

def divideInts (a b : Int) : Except Fault Value :=
  if b == 0 then .error (.divisionByZero "division by zero")
  else
    let x := Decimal.ofRatio ((a < 0) != (b < 0)) a.natAbs b.natAbs
    if Decimal.isInfinite x then
      .error (.tooLarge "integer division result too large for a float")
    else .ok (.float x)

def onInts (op : BinaryOp) (a b : Int) : Option (Except Fault Value) :=
  match op with
  | .add => some (.ok (.int (a + b)))
  | .sub => some (.ok (.int (a - b)))
  | .mul => some (.ok (.int (a * b)))
  | .div => some (divideInts a b)
  | .floorDiv =>
    some (if b == 0 then .error (.divisionByZero "integer division or modulo by zero")
      else .ok (.int (a.fdiv b)))
  | .mod =>
    some (if b == 0 then .error (.divisionByZero "integer modulo by zero")
      else .ok (.int (a.fmod b)))
  | .pow => some (powerOfInts a b)
  | .shiftLeft => some (shiftLeft a b)
  | .shiftRight => some (shiftRight a b)
  | .bitOr => some (.ok (.int (bitwise Nat.lor a b)))
  | .bitXor => some (.ok (.int (bitwise Nat.xor a b)))
  | .bitAnd => some (.ok (.int (bitwise Nat.land a b)))
  | .matmul => Option.none

def onFloats (op : BinaryOp) (x y : Float) : Option (Except Fault Value) :=
  match op with
  | .add => some (.ok (.float (x + y)))
  | .sub => some (.ok (.float (x - y)))
  | .mul => some (.ok (.float (x * y)))
  | .div =>
    some (if y == 0 then .error (.divisionByZero "float division by zero")
      else .ok (.float (x / y)))
  | .floorDiv =>
    some (if y == 0 then .error (.divisionByZero "float floor division by zero")
      else .ok (.float (Decimal.floorDivMod x y).1))
  | .mod =>
    some (if y == 0 then .error (.divisionByZero "float modulo")
      else .ok (.float (Decimal.floorDivMod x y).2))
  | .pow => some (powerOfFloats x y)
  | _ => Option.none

def onNumbers (op : BinaryOp) (a b : Number) : Option (Except Fault Value) :=
  match a, b with
  | .int m, .int n => onInts op m n
  | _, _ =>
    match a.toFloat, b.toFloat with
    | .ok x, .ok y => onFloats op x y
    | .error e, _ => some (.error e)
    | _, .error e => some (.error e)

def onBools (op : BinaryOp) (a b : Bool) : Option Value :=
  match op with
  | .bitOr => some (.bool (a || b))
  | .bitAnd => some (.bool (a && b))
  | .bitXor => some (.bool (a != b))
  | _ => Option.none

/-- A number of repetitions; its size is limited even where nothing is repeated. -/
def repetitions (n : Int) : Except Fault Nat :=
  if n < -indexLimit || indexLimit ≤ n then
    .error (.tooLarge "cannot fit 'int' into an index-sized integer")
  else .ok n.toNat

def repeated {α : Type} (packed : Bool) (items : List α) (n : Int) : Except Fault (List α) := do
  let count ← repetitions n
  if items.isEmpty then return []
  else if packed && indexLimit ≤ Int.ofNat (items.length * count) then
    .error (.tooLarge "repeated text is too long")
  else if sizeLimit < items.length * count then .error .outOfMemory
  else return (List.replicate count items).flatten

def repeatSequence (v : Value) (n : Int) : Option (Except Fault Value) :=
  match v with
  | .str s => some ((repeated true s.toList n).map chars)
  | .bytes b => some ((repeated true b n).map .bytes)
  | .list items _ => some ((repeated false items n).map fun vs => .list vs 0)
  | .tuple items mark =>
    some ((repeated false items n).map fun vs => .tuple vs (if n == 1 then mark else 0))
  | _ => Option.none

/-- One tuple after another; nothing added to a tuple leaves it as it is. -/
def appendTuples (s : List Value) (m : Nat) (t : List Value) (n : Nat) : Value :=
  if s.isEmpty then .tuple t n else if t.isEmpty then .tuple s m else .tuple (s ++ t) 0

def onSequences (op : BinaryOp) (a b : Value) : Option (Except Fault Value) :=
  match op with
  | .add =>
    match a, b with
    | .str s, .str t => some (.ok (.str (s ++ t)))
    | .bytes s, .bytes t => some (.ok (.bytes (s ++ t)))
    | .list s _, .list t _ => some (.ok (.list (s ++ t) 0))
    | .tuple s m, .tuple t n => some (.ok (appendTuples s m t n))
    | _, _ => Option.none
  | .mul =>
    match intOf? b with
    | some n => repeatSequence a n
    | Option.none =>
      match intOf? a with
      | some n => repeatSequence b n
      | Option.none => Option.none
  | _ => Option.none

/-- The entries of the second dictionary inserted into the first. -/
def overlay (a b : Entries) : Entries :=
  b.foldl (fun d e => Entries.insert d e.1 e.2) a

def onCollections (op : BinaryOp) (a b : Value) : Option (Except Fault Value) :=
  match a.entries?, b.entries?, op with
  | some x, some y, .bitOr => some (.ok (.dict (overlay x y) 0))
  | _, _, _ =>
    if a.isSetView || b.isSetView then onViews op a b
    else
      match a, b with
      | .set x _, .set y _ => (onSets op x y).map .ok
      | _, _ => Option.none

/-- A pattern and the values for its marks. -/
def onPattern (pattern v : Value) : Option (Except Fault Value) :=
  match pattern with
  | .str s => some ((fillPattern true s.toList v).map chars)
  | .bytes b =>
    let s := b.map fun x => Char.ofNat x.toNat
    some ((fillPattern false s v).map fun cs => .bytes (cs.map fun c => UInt8.ofNat c.toNat))
  | _ => Option.none

/-- Types, null and unions of them combine to a union. -/
def typesIn? : Value → Option (List Value)
  | .none => some [.none]
  | .builtin b => if b.isType then some [.builtin b] else Option.none
  | .typeObject t => some [.typeObject t]
  | .union members => some members
  | .object "GenericAlias" mark => some [.object "GenericAlias" mark]
  | _ => Option.none

def unionOf? (a b : Value) : Option Value :=
  match a, b with
  | .none, .none => Option.none
  | _, _ =>
    match typesIn? a, typesIn? b with
    | some x, some y =>
      match dedup (x ++ y) with
      | [t] => some t
      | members => some (.union members)
    | _, _ => Option.none

def binary (op : BinaryOp) (a b : Value) : Except Fault Value :=
  let result :=
    match a, b, op with
    | .str _, _, .mod => onPattern a b
    | .bytes _, _, .mod => onPattern a b
    | .bool x, .bool y, _ =>
      match onBools op x y with
      | some v => some (.ok v)
      | Option.none => onInts op (if x then 1 else 0) (if y then 1 else 0)
    | _, _, _ =>
      match number? a, number? b with
      | some x, some y => onNumbers op x y
      | _, _ =>
        (onSequences op a b).orElse fun _ => (onCollections op a b).orElse fun _ =>
          if op == .bitOr then (unionOf? a b).map .ok else Option.none
  match result with
  | some r => r
  | Option.none => .error (unsupported op a b)

def unary (op : UnaryOp) (v : Value) : Except Fault Value :=
  match op, number? v with
  | .negation, _ => .ok (.bool !v.truth)
  | .plus, some (.int n) => .ok (.int n)
  | .plus, some (.float x) => .ok (.float x)
  | .minus, some (.int n) => .ok (.int (-n))
  | .minus, some (.float x) => .ok (.float (-x))
  | .invert, some (.int n) => .ok (.int (-n - 1))
  | _, _ => .error (.wrongType ("bad operand type for unary operator: '" ++ v.typeName ++ "'"))

def absolute (v : Value) : Except Fault Value :=
  match number? v with
  | some (.int n) => .ok (.int n.natAbs)
  | some (.float x) => .ok (.float x.abs)
  | Option.none => .error (.wrongType ("bad operand type for abs(): '" ++ v.typeName ++ "'"))

end ContentIndex.Value
