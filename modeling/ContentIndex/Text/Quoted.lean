import ContentIndex.Text.Digits
import ContentIndex.Text.Printable

/-!
# Quoted texts

A text is quoted with apostrophes, or with double quotes when only apostrophes occur in it.
Backslash, the quote and characters without a visible form are escaped.
-/

namespace ContentIndex.Text

set_option autoImplicit false

def quoteMark (hasApostrophe hasDouble : Bool) : Char :=
  if hasApostrophe && !hasDouble then '"' else '\''

def escapeChar (mark c : Char) : List Char :=
  if c == mark || c == '\\' then ['\\', c]
  else if c == '\n' then ['\\', 'n']
  else if c == '\r' then ['\\', 'r']
  else if c == '\t' then ['\\', 't']
  else if isPrintable c then [c]
  else if c.toNat < 0x100 then '\\' :: 'x' :: hexDigits 2 c.toNat
  else if c.toNat < 0x10000 then '\\' :: 'u' :: hexDigits 4 c.toNat
  else '\\' :: 'U' :: hexDigits 8 c.toNat

def quote (s : List Char) : List Char :=
  let mark := quoteMark (s.contains '\'') (s.contains '"')
  mark :: s.flatMap (escapeChar mark) ++ [mark]

def escapeByte (mark : Char) (b : UInt8) : List Char :=
  let c := Char.ofNat b.toNat
  if c == mark || c == '\\' then ['\\', c]
  else if c == '\n' then ['\\', 'n']
  else if c == '\r' then ['\\', 'r']
  else if c == '\t' then ['\\', 't']
  else if b < 32 || b ≥ 127 then '\\' :: 'x' :: hexDigits 2 b.toNat
  else [c]

/-- Bytes are quoted like a text of ASCII characters, after the letter b. -/
def quoteBytes (bytes : List UInt8) : List Char :=
  let mark := quoteMark (bytes.contains 39) (bytes.contains 34)
  'b' :: mark :: bytes.flatMap (escapeByte mark) ++ [mark]

end ContentIndex.Text
