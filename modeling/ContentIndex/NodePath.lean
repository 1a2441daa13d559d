import ContentIndex.Text.Split

/-!
# Paths of nodes

A path is a text in which slashes separate names. Its prefixes are listed from the shallowest on;
the path of the parent drops the last name.
-/

namespace ContentIndex.NodePath

set_option autoImplicit false

open Text

def isSlash (c : Char) : Bool :=
  c == '/'

def dropSlashes (path : List Char) : List Char :=
  trimEnd isSlash path

/-- Prefixes that end in one of the names; `current` holds what comes before, with its slash. -/
def prefixesFrom (current : List Char) : List (List Char) → List (List Char)
  | [] => []
  | name :: rest =>
    let next := current ++ name ++ ['/']
    dropSlashes next :: prefixesFrom next rest

def prefixes (path : List Char) : List (List Char) :=
  if path.isEmpty then []
  else if path == ['/'] then [['/']]
  else
    let names := splitOn ['/'] (trimStart isSlash path)
    if path.head? == some '/' then ['/'] :: prefixesFrom ['/'] names else prefixesFrom [] names

/-- What stands before and after the last slash; without a slash, nothing is split off. -/
def splitLast (path : List Char) : List Char × List Char :=
  let name := (path.reverse.takeWhile (!isSlash ·)).reverse
  if name.length == path.length then (path, path)
  else (path.take (path.length - name.length - 1), name)

def name (path : List Char) : List Char :=
  (splitLast (dropSlashes path)).2

/-- The root and the empty path have no parent. -/
def parent? (path : List Char) : Option (List Char) :=
  if path.isEmpty || path == ['/'] then none
  else
    let before := (splitLast (dropSlashes path)).1
    some (if before.isEmpty then ['/'] else before)

end ContentIndex.NodePath
