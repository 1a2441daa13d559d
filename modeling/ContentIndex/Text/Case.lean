import ContentIndex.Text.CaseTable
import ContentIndex.Text.Ranges

/-!
# Letter case

Full case mappings: one character may become several. A capital sigma becomes the final small
sigma at the end of a word, that is after a cased character and before none, when characters
that case ignores are passed over.
-/

namespace ContentIndex.Text

set_option autoImplicit false

def CaseRun.shift? (run : CaseRun) (code : Nat) : Option Nat :=
  if run.first ≤ code && code ≤ run.last && (code - run.first) % run.stride == 0 then
    some (Int.ofNat code + run.shift).toNat
  else none

def lookupCase (long : List (Nat × List Nat)) (runs : List CaseRun) (c : Char) :
    Option (List Char) :=
  match long.lookup c.toNat with
  | some codes => some (codes.map Char.ofNat)
  | none => (runs.findSome? (·.shift? c.toNat)).map fun code => [Char.ofNat code]

def lowerChar (c : Char) : List Char :=
  if c.toNat < 128 then [c.toLower] else (lookupCase lowerLong lowerRuns c).getD [c]

def upperChar (c : Char) : List Char :=
  if c.toNat < 128 then [c.toUpper] else (lookupCase upperLong upperRuns c).getD [c]

def titleChar (c : Char) : List Char :=
  if c.toNat < 128 then [c.toUpper] else (lookupCase titleLong titleRuns c).getD (upperChar c)

def isCased (c : Char) : Bool :=
  inRanges casedBounds c.toNat

def isCaseIgnorable (c : Char) : Bool :=
  inRanges caseIgnorableBounds c.toNat

def startsCased (s : List Char) : Bool :=
  ((s.dropWhile isCaseIgnorable).head?.map isCased).getD false

def lowerAt (before : List Char) (c : Char) (after : List Char) : List Char :=
  if c == 'Σ' then
    if startsCased before && !startsCased after then ['ς'] else ['σ']
  else lowerChar c

/-- Lower case of a text that follows the reversed characters `before`. -/
def lowerFrom (before : List Char) : List Char → List Char
  | [] => []
  | c :: rest => lowerAt before c rest ++ lowerFrom (c :: before) rest

def lower (s : List Char) : List Char :=
  lowerFrom [] s

def upper (s : List Char) : List Char :=
  s.flatMap upperChar

def capitalize : List Char → List Char
  | [] => []
  | c :: rest => titleChar c ++ lowerFrom [c] rest

end ContentIndex.Text
