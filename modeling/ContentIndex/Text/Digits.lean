import ContentIndex.Text.DigitTable
import ContentIndex.Text.Ranges

/-!
# Digits of every script
-/

namespace ContentIndex.Text

set_option autoImplicit false

def isDigit (c : Char) : Bool :=
  inRanges digitBounds c.toNat

/-- Value of a character in its decimal system; systems of ten digits follow one another. -/
def decimalValue? (c : Char) : Option Nat :=
  (offsetInRanges? decimalBounds c.toNat).map (· % 10)

theorem decimalValue_lt {c : Char} {d : Nat} (h : decimalValue? c = some d) : d < 10 := by
  obtain ⟨n, _, rfl⟩ := Option.map_eq_some_iff.1 h
  exact Nat.mod_lt _ (by decide)

/-- Value of an ASCII digit or letter in positional systems up to base thirty-six. -/
def letterDigit? (c : Char) : Option Nat :=
  if '0' ≤ c && c ≤ '9' then some (c.toNat - 48)
  else if 'a' ≤ c && c ≤ 'z' then some (c.toNat - 87)
  else if 'A' ≤ c && c ≤ 'Z' then some (c.toNat - 55)
  else none

/-- The digit below sixteen as a lower-case character. -/
def hexDigit (n : Nat) : Char :=
  if n < 10 then Char.ofNat (48 + n) else Char.ofNat (87 + n)

def hexDigits : Nat → Nat → List Char
  | 0, _ => []
  | width + 1, n => hexDigits width (n / 16) ++ [hexDigit (n % 16)]

def natDigits (n : Nat) : List Char :=
  Nat.toDigits 10 n

/-- Value of a run of digits, most significant first. -/
def ofDigits (base : Nat) (digits : List Nat) : Nat :=
  digits.foldl (fun total d => total * base + d) 0

end ContentIndex.Text
