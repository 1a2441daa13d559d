/-!
# Binary floating point numbers as exact fractions

A finite number is `mantissa * 2 ^ exponent` with a sign. `ofRatio` is the number nearest to a
quotient of naturals, a tie going to the even mantissa. Everything exact about numbers (their
text, comparison with integers, rounding) goes through these two functions.
-/

namespace ContentIndex.Decimal

set_option autoImplicit false

inductive Decoded where
  | nan
  | infinite (negative : Bool)
  | finite (negative : Bool) (mantissa : Nat) (exponent : Int)
  deriving DecidableEq, Repr

/-- The place of the exponent among the bits: two to the power of fifty-two. -/
def mantissaUnit : Nat := 4503599627370496

/-- The place of the sign: two to the power of sixty-three. -/
def signUnit : Nat := 9223372036854775808

def decode (x : Float) : Decoded :=
  let bits := x.toBits.toNat
  let negative := bits / signUnit == 1
  let biased := bits / mantissaUnit % 2048
  let fraction := bits % mantissaUnit
  if biased == 2047 then
    if fraction == 0 then .infinite negative else .nan
  else if biased == 0 then .finite negative fraction (-1074)
  else .finite negative (fraction + mantissaUnit) (Int.ofNat biased - 1075)

def ofBits (negative : Bool) (magnitude : Nat) : Float :=
  Float.ofBits (UInt64.ofNat (magnitude + if negative then signUnit else 0))

def infinity (negative : Bool) : Float :=
  ofBits negative (2047 * mantissaUnit)

def notANumber : Float :=
  ofBits false (2047 * mantissaUnit + mantissaUnit / 2)

def zero (negative : Bool) : Float :=
  ofBits negative 0

/-- The quotient to the nearest natural, a tie going to the even one. -/
def divRoundEven (num den : Nat) : Nat :=
  let q := num / den
  let r := num % den
  if 2 * r < den then q
  else if den < 2 * r then q + 1
  else if q % 2 == 0 then q else q + 1

/-- `num / den * 2 ^ (-exponent)` as a quotient of naturals. -/
def scaleTwo (num den : Nat) (exponent : Int) : Nat × Nat :=
  let scale := Nat.pow 2 exponent.natAbs
  if exponent < 0 then (num * scale, den) else (num, den * scale)

/-- Exponent at which the quotient has a mantissa of fifty-three bits, or the least one there is. -/
def mantissaExponent (num den : Nat) : Int :=
  let guess := Int.ofNat num.log2 - Int.ofNat den.log2 - 52
  let (n, d) := scaleTwo num den guess
  max (-1074) (if n < d * mantissaUnit then guess - 1 else guess)

def ofRatio (negative : Bool) (num den : Nat) : Float :=
  if num == 0 then zero negative
  else
    let exponent := mantissaExponent num den
    let (n, d) := scaleTwo num den exponent
    let magnitude := (exponent + 1074).toNat * mantissaUnit + divRoundEven n d
    if magnitude < 2047 * mantissaUnit then ofBits negative magnitude else infinity negative

/-- `mantissa * 2 ^ exponent`. -/
def ofScaled (negative : Bool) (mantissa : Nat) (exponent : Int) : Float :=
  let (n, d) := scaleTwo mantissa 1 (-exponent)
  ofRatio negative n d

def isInfinite (x : Float) : Bool :=
  match decode x with
  | .infinite _ => true
  | _ => false

def isNegative (x : Float) : Bool :=
  x.toBits ≥ 0x8000000000000000

/-- The nearest number, or `none` if it is beyond the largest finite one. -/
def ofInt? (n : Int) : Option Float :=
  let x := ofRatio (decide (n < 0)) n.natAbs 1
  if isInfinite x then none else some x

/-- A finite number as numerator and denominator. -/
def fraction? (x : Float) : Option (Int × Nat) :=
  match decode x with
  | .finite negative mantissa exponent =>
    let (n, d) := scaleTwo mantissa 1 (-exponent)
    some (if negative then -Int.ofNat n else Int.ofNat n, d)
  | _ => none

/-- The integer toward zero. -/
def truncate? (x : Float) : Option Int :=
  (fraction? x).map fun (n, d) => n.tdiv d

/-- The integer that a number is, if it is one. -/
def integer? (x : Float) : Option Int :=
  match fraction? x with
  | some (n, d) => if n % d == 0 then some (n / d) else none
  | none => none

/-- Order of a float and an integer; none for a number that is not one. -/
def compareInt? (x : Float) (n : Int) : Option Ordering :=
  match decode x with
  | .nan => none
  | .infinite negative => some (if negative then .lt else .gt)
  | .finite .. =>
    match fraction? x with
    | some (a, d) => some (compare a (n * d))
    | none => none

end ContentIndex.Decimal
