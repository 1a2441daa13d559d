import ContentIndex.Markup.Heading
import ContentIndex.Markup.Strip

/-!
# Fulltext buckets of a marked-up text

Heading elements go to the bucket of their level, each after a blank, and everything else goes to
the text bucket, which always comes first. Buckets hold no markup, and their blanks are collapsed.
-/

namespace ContentIndex.Markup

set_option autoImplicit false

open Text

inductive Bucket where
  | text
  | heading (level : Level)
  deriving DecidableEq, Repr

def Bucket.name : Bucket → List Char
  | .text => ['t', 'e', 'x', 't']
  | .heading level => level.name

/-- Keeps the words on both sides of a tag apart. -/
def pad : List Char → List Char
  | [] => []
  | c :: rest =>
    if c = '<' then ' ' :: '<' :: pad rest
    else if c = '>' then '>' :: ' ' :: pad rest
    else c :: pad rest

/-- Every run of blanks becomes one space. -/
def collapseBlanks : List Char → List Char
  | [] => []
  | [c] => [if isBlank c then ' ' else c]
  | c :: d :: rest =>
    if isBlank c then
      if isBlank d then collapseBlanks (d :: rest) else ' ' :: collapseBlanks (d :: rest)
    else c :: collapseBlanks (d :: rest)

def headingNames : List (List Char) :=
  Level.all.map Level.name

abbrev Parts := List (Bucket × List Char)

def Parts.append (parts : Parts) (bucket : Bucket) (addition : List Char) : Parts :=
  match parts with
  | [] => [(bucket, addition)]
  | (b, s) :: rest =>
    if b = bucket then (b, s ++ addition) :: rest else (b, s) :: Parts.append rest bucket addition

def Parts.add (parts : Parts) : Piece → Parts
  | .body c => parts.append .text [c]
  | .heading element => parts.append (.heading element.level) (' ' :: element.source)

/-- Characters of the text bucket in order, then one part for each level in order of appearance. -/
def partsOf (all : List Piece) : Parts :=
  let text := all.flatMap fun
    | .body c => [c]
    | .heading _ => []
  let headings := all.filter fun
    | .body _ => false
    | .heading _ => true
  (.text, text) :: headings.foldl Parts.add []

def cleanPart (s : List Char) : List Char :=
  collapseBlanks (stripTags [] s)

def buckets (s : List Char) : Parts :=
  (partsOf (pieces (stripTags headingNames (pad s)))).map fun (bucket, part) =>
    (bucket, cleanPart part)

end ContentIndex.Markup
