import ContentIndex.Decimal.Binary64

/-!
# The shortest decimal that reads back

A positive number `m * 2 ^ q` owns the decimals that round to it: those between the midpoints to
its two neighbours, the midpoints included if `m` is even. Of the decimals it owns, one with the
fewest digits is taken, and of these the nearest, or the even one of two that are equally near. It
is enough to look at the two neighbours of the number on each grid, from one digit to seventeen.
-/

namespace ContentIndex.Decimal

set_option autoImplicit false

/-- Endpoints of the owned interval over a common denominator, the number itself between them. -/
structure Interval where
  low : Nat
  value : Nat
  high : Nat
  den : Nat
  closed : Bool

def Interval.of (m : Nat) (q : Int) : Interval :=
  let below := if m == mantissaUnit && q != -1074 then 1 else 2
  let (scale, den) := scaleTwo 1 1 (2 - q)
  ⟨(4 * m - below) * scale, 4 * m * scale, (4 * m + 2) * scale, den, m % 2 == 0⟩

/-- Whether `digits * 10 ^ exponent` lies in the interval. -/
def Interval.holds (i : Interval) (digits : Nat) (exponent : Int) : Bool :=
  let point := digits * Nat.pow 10 exponent.toNat * i.den
  let unit := Nat.pow 10 (-exponent).toNat
  if i.closed then i.low * unit ≤ point && point ≤ i.high * unit
  else i.low * unit < point && point < i.high * unit

/-- Twice the number on the grid `10 ^ exponent`, rounded down. -/
def Interval.twiceOnGrid (i : Interval) (exponent : Int) : Nat :=
  2 * i.value * Nat.pow 10 (-exponent).toNat / (i.den * Nat.pow 10 exponent.toNat)

/-- Whether twice the number is on the grid `10 ^ exponent`. -/
def Interval.isHalfOnGrid (i : Interval) (exponent : Int) : Bool :=
  2 * i.value * Nat.pow 10 (-exponent).toNat % (i.den * Nat.pow 10 exponent.toNat) == 0

/-- The owned neighbour of the number on one grid. -/
def Interval.onGrid? (i : Interval) (exponent : Int) : Option Nat :=
  let twice := i.twiceOnGrid exponent
  let lower := twice / 2
  match i.holds lower exponent && lower != 0, i.holds (lower + 1) exponent with
  | true, true =>
    let down := twice % 2 == 0 || i.isHalfOnGrid exponent && lower % 2 == 0
    some (if down then lower else lower + 1)
  | true, false => some lower
  | false, true => some (lower + 1)
  | false, false => none

/-- Number of digits before the point, at least `guess`, tried upward. -/
def Interval.magnitude (i : Interval) : Nat → Int → Int
  | 0, guess => guess
  | fuel + 1, guess =>
    if i.value * Nat.pow 10 (-guess).toNat < i.den * Nat.pow 10 guess.toNat then guess
    else i.magnitude fuel (guess + 1)

def Interval.search (i : Interval) (magnitude : Int) : Nat → Nat → Nat × Int
  | 0, _ => (i.twiceOnGrid (magnitude - 17) / 2, magnitude - 17)
  | fuel + 1, digits =>
    match i.onGrid? (magnitude - digits) with
    | some n => (n, magnitude - digits)
    | none => i.search magnitude fuel (digits + 1)

/-- A neighbour may be the next power of ten: its zeros are not digits of it. -/
def dropZeros : Nat → Nat × Int → Nat × Int
  | 0, d => d
  | fuel + 1, (n, e) => if n % 10 == 0 && n != 0 then dropZeros fuel (n / 10, e + 1) else (n, e)

/-- Digits and exponent of ten of the shortest decimal of `m * 2 ^ q`, for a positive `m`. -/
def shortest (m : Nat) (q : Int) : Nat × Int :=
  let i := Interval.of m q
  let guess := (Int.ofNat m.log2 + q) * 30103 / 100000 - 1
  dropZeros 17 (i.search (i.magnitude 5 guess) 17 1)

theorem Interval.holds_of_onGrid {i : Interval} {exponent : Int} {n : Nat}
    (h : i.onGrid? exponent = some n) : i.holds n exponent = true := by
  unfold Interval.onGrid? at h
  dsimp only at h
  split at h
  · rename_i h1 h2
    simp only [Bool.and_eq_true] at h1
    simp only [Option.some.injEq] at h
    split at h <;> subst h
    · exact h1.1
    · exact h2
  · rename_i h1 _
    simp only [Bool.and_eq_true] at h1
    simp only [Option.some.injEq] at h
    subst h
    exact h1.1
  · rename_i h2
    simp only [Option.some.injEq] at h
    subst h
    exact h2
  · cases h

end ContentIndex.Decimal
