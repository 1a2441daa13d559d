import ContentIndex.Decimal.Shortest
import ContentIndex.Text.Digits

/-!
# Numbers as texts

Integers are written in decimal. A float has the fewest digits that read back; it is written
positionally from `0.0001` to below `10 ^ 16`, always with a point, and otherwise with a signed
exponent of at least two digits.
-/

namespace ContentIndex.Decimal

set_option autoImplicit false

structure FloatFormat where
  firstPositional : Int
  lastPositional : Int
  exponentDigits : Nat
  nan : List Char
  infinite : List Char

def floatFormat : FloatFormat :=
  ⟨-3, 16, 2, ['n', 'a', 'n'], ['i', 'n', 'f']⟩

def padLeft (width : Nat) (s : List Char) : List Char :=
  List.replicate (width - s.length) '0' ++ s

def signed (negative : Bool) (s : List Char) : List Char :=
  if negative then '-' :: s else s

def FloatFormat.exponentText (f : FloatFormat) (e : Int) : List Char :=
  'e' :: (if e < 0 then '-' else '+') :: padLeft f.exponentDigits (Text.natDigits e.natAbs)

/-- Digits whose point stands `point` places after the first one. -/
def FloatFormat.layout (f : FloatFormat) (digits : List Char) (point : Int) : List Char :=
  if f.firstPositional ≤ point && point ≤ f.lastPositional then
    if point ≤ 0 then '0' :: '.' :: List.replicate point.natAbs '0' ++ digits
    else
      let whole := point.toNat
      if digits.length ≤ whole then
        digits ++ List.replicate (whole - digits.length) '0' ++ ['.', '0']
      else digits.take whole ++ '.' :: digits.drop whole
  else
    match digits with
    | [] => []
    | [d] => d :: f.exponentText (point - 1)
    | d :: rest => d :: '.' :: rest ++ f.exponentText (point - 1)

def floatText (x : Float) : List Char :=
  match decode x with
  | .nan => floatFormat.nan
  | .infinite negative => signed negative floatFormat.infinite
  | .finite negative mantissa exponent =>
    if mantissa == 0 then signed negative ['0', '.', '0']
    else
      let (n, e) := shortest mantissa exponent
      let digits := Text.natDigits n
      signed negative (floatFormat.layout digits (e + digits.length))

def intText (n : Int) : List Char :=
  signed (decide (n < 0)) (Text.natDigits n.natAbs)

end ContentIndex.Decimal
