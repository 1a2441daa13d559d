import ContentIndex.Text.CompositeTable
import ContentIndex.Text.MarkTable
import ContentIndex.Text.Ranges
import ContentIndex.Text.VariantTable

/-!
# Normal form of names

Names that differ only in how their characters are encoded or styled are one name. The normal form
takes every character apart, orders the marks after a letter by their classes and composes again
what can be composed: it is Unicode's form KC on the characters that names are made of. The tables
hold no other characters. `nameForm_of_ascii` says that plain names are their own form.
-/

namespace ContentIndex.Text

set_option autoImplicit false

/-- First code of the leading consonants of Hangul. -/
def leadBase : Nat := 0x1100

/-- First code of its vowels. -/
def vowelBase : Nat := 0x1161

/-- The code before the first closing consonant. -/
def tailBase : Nat := 0x11A7

/-- First code of its composed syllables. -/
def syllableBase : Nat := 0xAC00

def leadCount : Nat := 19

def vowelCount : Nat := 21

def tailCount : Nat := 28

/-- Codes of the letters of a syllable; a syllable may end in its vowel. -/
def syllableParts? (code : Nat) : Option (List Nat) :=
  let index := code - syllableBase
  if syllableBase ≤ code && index < leadCount * vowelCount * tailCount then
    let untailed := index / tailCount
    let letters := [leadBase + untailed / vowelCount, vowelBase + untailed % vowelCount]
    let tail := index % tailCount
    some (if tail == 0 then letters else letters ++ [tailBase + tail])
  else none

/-- The syllable of a leading consonant and a vowel, or of an open syllable and a tail. -/
def syllable? (first second : Nat) : Option Nat :=
  let lead := first - leadBase
  let vowel := second - vowelBase
  let tail := second - tailBase
  let index := first - syllableBase
  if leadBase ≤ first && lead < leadCount && vowelBase ≤ second && vowel < vowelCount then
    some (syllableBase + (lead * vowelCount + vowel) * tailCount)
  else if syllableBase ≤ first && index < leadCount * vowelCount * tailCount &&
      index % tailCount == 0 && tailBase < second && tail < tailCount then
    some (first + tail)
  else none

def VariantRun.target? (run : VariantRun) (code : Nat) : Option Nat :=
  if run.first ≤ code && code ≤ run.last then some (run.target + (code - run.first)) else none

def VariantBlock.target? (block : VariantBlock) (code : Nat) : Option Nat :=
  if block.first ≤ code then block.targets[code - block.first]? else none

/-- The composite of a base, in a list of bases each with its composite. -/
def compositeIn? : List Nat → Nat → Option Nat
  | base :: composite :: rest, code =>
    if base == code then some composite else compositeIn? rest code
  | _, _ => none

/-- The base of a composite, in such a list. -/
def baseIn? : List Nat → Nat → Option Nat
  | base :: composite :: rest, code =>
    if composite == code then some base else baseIn? rest code
  | _, _ => none

def MarkComposites.parts? (entry : MarkComposites) (code : Nat) : Option (List Nat) :=
  (baseIn? entry.bases code).map fun base => [base, entry.mark]

/-- What a character stands for, one step of it. -/
def parts? (code : Nat) : Option (List Nat) :=
  (syllableParts? code)
    <|> composites.findSome? (·.parts? code)
    <|> (variantRuns.findSome? (·.target? code)).map ([·])
    <|> (variantBlocks.findSome? (·.target? code)).map ([·])
    <|> (variantTexts.find? (·.code == code)).map (·.parts)

/-- No character is taken apart in more steps than this. -/
def deepest : Nat := 4

def takeApart : Nat → Nat → List Nat
  | 0, code => [code]
  | depth + 1, code =>
    match parts? code with
    | some parts => parts.flatMap (takeApart depth)
    | none => [code]

/-- The class of a mark, and 0 for a character that is none. -/
def markOrder (code : Nat) : Nat :=
  ((markClasses.find? fun entry => inRanges entry.bounds code).map (·.order)).getD 0

/-- Puts a character in front of ordered ones, after the marks of lower classes. -/
def insertByOrder (code : Nat) : List Nat → List Nat
  | [] => [code]
  | next :: rest =>
    if markOrder next != 0 && markOrder next < markOrder code then next :: insertByOrder code rest
    else code :: next :: rest

def orderMarks (codes : List Nat) : List Nat :=
  codes.foldr insertByOrder []

def composite? (first second : Nat) : Option Nat :=
  (syllable? first second)
    <|> (composites.find? (·.mark == second)).bind fun entry => compositeIn? entry.bases first

/-- Composes a character with what follows it; `kept` holds, last first, the marks after it that
do not compose. A mark of the class of the last one kept is out of reach. -/
def composeWith (base : Nat) (kept : List Nat) : List Nat → List Nat
  | [] => base :: kept.reverse
  | code :: rest =>
    let order := markOrder code
    let reachable := (kept.head?.map fun last => decide (markOrder last < order)).getD true
    match if reachable then composite? base code else none with
    | some composite => composeWith composite kept rest
    | none =>
      if order == 0 then base :: kept.reverse ++ composeWith code [] rest
      else composeWith base (code :: kept) rest

def compose : List Nat → List Nat
  | [] => []
  | code :: rest => composeWith code [] rest

/-- The form under which a name is known. -/
def nameForm (s : List Char) : List Char :=
  if s.all (·.toNat < 128) then s
  else
    (compose (orderMarks ((s.map Char.toNat).flatMap (takeApart deepest)))).map Char.ofNat

theorem nameForm_of_ascii {s : List Char} (h : s.all (·.toNat < 128) = true) : nameForm s = s := by
  simp [nameForm, h]

theorem length_insertByOrder (code : Nat) (codes : List Nat) :
    (insertByOrder code codes).length = codes.length + 1 := by
  induction codes with
  | nil => rfl
  | cons next rest ih =>
    unfold insertByOrder
    split
    · simp [ih]
    · rfl

theorem length_orderMarks (codes : List Nat) : (orderMarks codes).length = codes.length := by
  induction codes with
  | nil => rfl
  | cons code rest ih =>
    simp only [orderMarks, List.foldr_cons] at ih ⊢
    rw [length_insertByOrder, ih, List.length_cons]

end ContentIndex.Text
