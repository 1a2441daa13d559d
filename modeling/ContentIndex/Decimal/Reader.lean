import ContentIndex.Decimal.Binary64
import ContentIndex.Text.Blank
import ContentIndex.Text.Digits

/-!
# Reading numbers

Digits may be grouped by single low lines, and surrounding blanks are ignored. Digits of every
script count; a base may be announced by `0x`, `0o` or `0b`.
-/

namespace ContentIndex.Decimal

set_option autoImplicit false

/-- Values of a non-empty run of digits in which single low lines stand between digits only. -/
def groupedDigits? (value? : Char → Option Nat) : List Char → Option (List Nat)
  | [] => none
  | [c] => (value? c).map ([·])
  | '_' :: _ => none
  | c :: '_' :: rest =>
    match value? c, groupedDigits? value? rest with
    | some d, some ds => some (d :: ds)
    | _, _ => none
  | c :: rest =>
    match value? c, groupedDigits? value? rest with
    | some d, some ds => some (d :: ds)
    | _, _ => none

def digitBelow? (base : Nat) (c : Char) : Option Nat :=
  let value := (Text.decimalValue? c).orElse fun _ => Text.letterDigit? c
  value.filter (· < base)

def natOfBase? (base : Nat) (s : List Char) : Option Nat :=
  (groupedDigits? (digitBelow? base) s).map (Text.ofDigits base)

def splitSign : List Char → Bool × List Char
  | '-' :: rest => (true, rest)
  | '+' :: rest => (false, rest)
  | s => (false, s)

/-- Base announced at the start of a text, and the text after it. -/
def announcedBase? : List Char → Option (Nat × List Char)
  | '0' :: c :: rest =>
    match c with
    | 'x' | 'X' => some (16, rest)
    | 'o' | 'O' => some (8, rest)
    | 'b' | 'B' => some (2, rest)
    | _ => none
  | _ => none

def dropLowLine : List Char → List Char
  | '_' :: rest => rest
  | s => s

/-- White space around a number in a text: blanks, but not the separators of ASCII. -/
def isMargin (c : Char) : Bool :=
  Text.isBlank c && !(28 ≤ c.toNat && c.toNat ≤ 31)

/-- White space around a number in bytes. -/
def isByteMargin (c : Char) : Bool :=
  (9 ≤ c.toNat && c.toNat ≤ 13) || c == ' '

/-- The base in which the digits of a text are read, and the number of its digits. -/
def effectiveBase (base : Nat) (s : List Char) : Nat × Nat :=
  let used :=
    match announcedBase? (splitSign s).2 with
    | some (announced, _) => if base == 0 then announced else base
    | none => if base == 0 then 10 else base
  (used, (s.filter fun c => (digitBelow? used c).isSome).length)

/-- Reads an unsigned integer; base zero takes the announced base, else decimal without a leading
zero unless all digits are zero. -/
def natOfText? (base : Nat) (s : List Char) : Option Nat :=
  match announcedBase? s with
  | some (announced, rest) =>
    if base == 0 || base == announced then natOfBase? announced (dropLowLine rest)
    else natOfBase? base s
  | none =>
    if base == 0 then
      (natOfBase? 10 s).filter fun n => n == 0 || !(s.head? == some '0')
    else natOfBase? base s

def intOfText? (margin : Char → Bool) (base : Nat) (s : List Char) : Option Int :=
  let (negative, digits) := splitSign (Text.trim margin s)
  (natOfText? base digits).map fun n => if negative then -Int.ofNat n else Int.ofNat n

/-- `digits * 10 ^ exponent`; exponents far outside the range of floats are cut short. -/
def ofDecimal (negative : Bool) (digits : Nat) (length : Nat) (exponent : Int) : Float :=
  if digits == 0 then zero negative
  else if 310 < exponent then infinity negative
  else if exponent + length < -330 then zero negative
  else ofRatio negative (digits * Nat.pow 10 exponent.toNat) (Nat.pow 10 (-exponent).toNat)

/-- Digits, point and exponent of an unsigned decimal, every part checked. -/
def decimalOfText? (s : List Char) : Option (Nat × Nat × Int) :=
  let mantissa := s.takeWhile fun c => c != 'e' && c != 'E'
  let exponentPart := s.drop mantissa.length
  let whole := mantissa.takeWhile (· != '.')
  let point := mantissa.drop whole.length
  let digits? (part : List Char) : Option (List Nat) :=
    if part.isEmpty then some [] else groupedDigits? Text.decimalValue? part
  match digits? whole, digits? (point.drop 1) with
  | some before, some after =>
    if before.isEmpty && after.isEmpty then none
    else
      let digits := before ++ after
      let places := Int.ofNat after.length
      match exponentPart with
      | [] => some (Text.ofDigits 10 digits, digits.length, -places)
      | _ :: rest =>
        let (negative, e) := splitSign rest
        (groupedDigits? Text.decimalValue? e).map fun es =>
          let n := Int.ofNat (Text.ofDigits 10 es)
          (Text.ofDigits 10 digits, digits.length, (if negative then -n else n) - places)
  | _, _ => none

def asciiLower (s : List Char) : List Char :=
  s.map Char.toLower

def floatOfText? (margin : Char → Bool) (s : List Char) : Option Float :=
  let (negative, rest) := splitSign (Text.trim margin s)
  let name := String.ofList (asciiLower rest)
  if name == "inf" || name == "infinity" then some (infinity negative)
  else if name == "nan" then some notANumber
  else
    (decimalOfText? rest).map fun (digits, length, exponent) =>
      ofDecimal negative digits length exponent

end ContentIndex.Decimal
