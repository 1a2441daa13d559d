import ContentIndex.Text.Split

/-!
# Paths of files

A path has a root, which is empty, one slash or two, and names. Empty names and single dots are
left out when a text is read, so `text` gives the tidy form.
-/

namespace ContentIndex

set_option autoImplicit false

structure FilePath where
  root : String
  names : List String
  deriving DecidableEq, Repr, Inhabited, Hashable

namespace FilePath

def rootOf (s : List Char) : String :=
  match (s.takeWhile (· == '/')).length with
  | 0 => ""
  | 2 => "//"
  | _ => "/"

def ofText (s : String) : FilePath :=
  let names := (Text.splitOn ['/'] s.toList).filter fun n => !n.isEmpty && n != ['.']
  ⟨rootOf s.toList, names.map String.ofList⟩

def text (p : FilePath) : String :=
  if p.root.isEmpty && p.names.isEmpty then "." else p.root ++ "/".intercalate p.names

def isAbsolute (p : FilePath) : Bool :=
  !p.root.isEmpty

def name (p : FilePath) : String :=
  p.names.getLast?.getD ""

def parent (p : FilePath) : FilePath :=
  ⟨p.root, p.names.dropLast⟩

/-- An absolute path stands for itself; another one starts at `base`. -/
def under (base p : FilePath) : FilePath :=
  if p.isAbsolute then p else ⟨base.root, base.names ++ p.names⟩

/-- The part of the last name from its last point on, unless that point is its first or last
character. -/
def suffix (p : FilePath) : String :=
  let n := p.name.toList
  let after := (n.reverse.takeWhile (· != '.')).reverse
  let stem := n.length - after.length - 1
  if after.isEmpty || after.length == n.length || stem == 0 then ""
  else String.ofList ('.' :: after)

def stem (p : FilePath) : String :=
  String.ofList (p.name.toList.take (p.name.length - p.suffix.length))

end FilePath

end ContentIndex
