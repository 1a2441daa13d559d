import ContentIndex.Decimal.Binary64

/-!
# Division, powers and rounding of floats

Quotients are rounded down and remainders take the sign of the divisor. Rounding to decimal
places works on the exact fraction, a tie going to the even neighbour.
-/

namespace ContentIndex.Decimal

set_option autoImplicit false

/-- Remainder with the sign of the dividend; exact. -/
def remainder (x y : Float) : Float :=
  match decode x, decode y with
  | .finite negative m q, .finite _ n p =>
    if n == 0 then notANumber
    else
      let low := min q p
      let a := m * Nat.pow 2 (q - low).toNat
      let b := n * Nat.pow 2 (p - low).toNat
      ofScaled negative (a % b) low
  | .finite .., .infinite _ => x
  | _, _ => notANumber

def copySign (magnitude : Float) (sign : Float) : Float :=
  if isNegative magnitude == isNegative sign then magnitude else -magnitude

/-- Quotient rounded down and the remainder that goes with it; the divisor is not zero. -/
def floorDivMod (x y : Float) : Float × Float :=
  let rest := remainder x y
  let quotient := (x - rest) / y
  let (quotient, rest) :=
    if rest == 0 then (quotient, copySign 0 y)
    else if (y < 0) != (rest < 0) then (quotient - 1, rest + y)
    else (quotient, rest)
  if quotient == 0 then (copySign 0 (x / y), rest)
  else
    let down := quotient.floor
    (if quotient - down > 0.5 then down + 1 else down, rest)

/-- The nearest integer to a fraction, a tie going to the even one. -/
def roundFraction (num : Int) (den : Nat) : Int :=
  let n := Int.ofNat (divRoundEven num.natAbs den)
  if num < 0 then -n else n

def roundToInt? (x : Float) : Option Int :=
  (fraction? x).map fun (n, d) => roundFraction n d

/-- The nearest multiple of `10 ^ (-places)`. -/
def roundToPlaces (x : Float) (places : Int) : Float :=
  match decode x with
  | .finite negative .. =>
    if 323 < places then x
    else if places < -308 then zero negative
    else
      match fraction? x with
      | some (n, d) =>
        let up := Nat.pow 10 places.toNat
        let down := Nat.pow 10 (-places).toNat
        ofRatio negative (divRoundEven (n.natAbs * up) (d * down) * down) up
      | none => x
  | _ => x

def roundIntToPlaces (n : Int) (places : Int) : Int :=
  if places ≥ 0 then n
  else
    let unit := Nat.pow 10 places.natAbs
    roundFraction n unit * Int.ofNat unit

inductive PowerFault where
  | zeroToNegative
  | tooLarge
  | notReal
  deriving DecidableEq, Repr

def isOddInteger (y : Float) : Bool :=
  match integer? y with
  | some n => n % 2 == 1
  | none => false

/-- Powers whose result is a float; the special cases are those of the IEEE power function. -/
def power (x y : Float) : Except PowerFault Float :=
  if y == 0 then .ok 1
  else if x.isNaN then .ok x
  else if y.isNaN then .ok (if x == 1 then 1 else y)
  else if isInfinite y then
    let size := x.abs
    if size == 1 then .ok 1
    else if (y > 0) == (size > 1) then .ok (infinity false)
    else .ok 0
  else if isInfinite x then
    let odd := isOddInteger y
    if y > 0 then .ok (if odd then x else x.abs)
    else .ok (if odd then copySign 0 x else 0)
  else if x == 0 then
    if y < 0 then .error .zeroToNegative
    else .ok (if isOddInteger y then x else 0)
  else if x < 0 && (integer? y).isNone then .error .notReal
  else if x == 1 then .ok 1
  else
    let z := Float.pow x.abs y
    let z := if x < 0 && isOddInteger y then -z else z
    if isInfinite z then .error .tooLarge else .ok z

end ContentIndex.Decimal
