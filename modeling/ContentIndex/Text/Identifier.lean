import ContentIndex.Text.IdentifierTable
import ContentIndex.Text.Ranges

/-!
# Characters of names
-/

namespace ContentIndex.Text

set_option autoImplicit false

def isAsciiLetter (c : Char) : Bool :=
  ('a' ≤ c && c ≤ 'z') || ('A' ≤ c && c ≤ 'Z')

def isAsciiDigit (c : Char) : Bool :=
  '0' ≤ c && c ≤ '9'

def isIdentifierStart (c : Char) : Bool :=
  if c.toNat < 128 then isAsciiLetter c || c == '_' else inRanges identifierStartBounds c.toNat

def isIdentifierPart (c : Char) : Bool :=
  if c.toNat < 128 then isAsciiLetter c || isAsciiDigit c || c == '_'
  else inRanges identifierPartBounds c.toNat

end ContentIndex.Text
