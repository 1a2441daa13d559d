import ContentIndex.Decimal.Layout

/-!
# Numbers with a given number of places

A magnitude is a quotient of naturals. It is written with a fixed number of places after the
point, with one digit before the point and an exponent, or in the shorter of the two ways; a tie
goes to the even digit.
-/

namespace ContentIndex.Decimal

set_option autoImplicit false

/-- Digits before the point and, with a point between them, after it. -/
def pointed (keepPoint : Bool) (whole rest : List Char) : List Char :=
  if rest.isEmpty then (if keepPoint then whole ++ ['.'] else whole) else whole ++ '.' :: rest

def fixedText (places : Nat) (keepPoint : Bool) (num den : Nat) : List Char :=
  let n := divRoundEven (num * Nat.pow 10 places) den
  let digits := padLeft (places + 1) (Text.natDigits n)
  let whole := digits.length - places
  pointed keepPoint (digits.take whole) (digits.drop whole)

/-- The exponent of ten at which a positive magnitude has one digit before the point. -/
def magnitudeOf (num den : Nat) : Int :=
  if den ≤ num then Int.ofNat (Text.natDigits (num / den)).length - 1
  else
    let length := (Text.natDigits (den / num)).length
    if den ≤ num * Nat.pow 10 (length - 1) then 1 - Int.ofNat length else -Int.ofNat length

/-- Leading digits, one before the point and `places` after it, and the exponent of the first. -/
def leading (places : Nat) (num den : Nat) : List Char × Int :=
  if num == 0 then (List.replicate (places + 1) '0', 0)
  else
    let e := magnitudeOf num den
    let shift := Int.ofNat places - e
    let n :=
      if shift < 0 then divRoundEven num (den * Nat.pow 10 shift.natAbs)
      else divRoundEven (num * Nat.pow 10 shift.natAbs) den
    let digits := Text.natDigits n
    if digits.length ≤ places + 1 then (digits, e) else (digits.take (places + 1), e + 1)

def scientificText (places : Nat) (keepPoint : Bool) (num den : Nat) : List Char :=
  let (digits, e) := leading places num den
  pointed keepPoint (digits.take 1) (digits.drop 1) ++ floatFormat.exponentText e

def withoutTrailingZeros (s : List Char) : List Char :=
  (s.reverse.dropWhile (· == '0')).reverse

/-- A number of significant digits: positional unless the exponent is below minus four or not
below that number. Zeros at the end are kept only on request. -/
def generalText (significant : Nat) (keepZeros : Bool) (num den : Nat) : List Char :=
  let p := max 1 significant
  let (digits, e) := leading (p - 1) num den
  let trimmed (s : List Char) : List Char := if keepZeros then s else withoutTrailingZeros s
  if e < -4 || Int.ofNat p ≤ e then
    pointed keepZeros (digits.take 1) (trimmed (digits.drop 1)) ++ floatFormat.exponentText e
  else if e < 0 then
    pointed keepZeros ['0'] (trimmed (List.replicate (e.natAbs - 1) '0' ++ digits))
  else
    pointed keepZeros (digits.take (e.toNat + 1)) (trimmed (digits.drop (e.toNat + 1)))

end ContentIndex.Decimal
