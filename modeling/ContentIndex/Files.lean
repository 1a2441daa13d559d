import ContentIndex.FilePath
import ContentIndex.Text.Blank

/-!
# A tree of files

Files are kept under the names that lead to them from the root of the tree. Every proper beginning
of such a list of names is a directory, and so are the listed folders with everything above them
and the current directory, from which paths without a root start.
-/

namespace ContentIndex

set_option autoImplicit false

inductive FileFault where
  | missing (path : String)
  | directory (path : String)
  | notDirectory (path : String)
  | exists (path : String)
  | nullCharacter
  | notText
  deriving DecidableEq, Repr

structure Files where
  here : List String
  folders : List (List String)
  entries : List (List String × ByteArray)
  deriving Inhabited

namespace Files

inductive Place where
  | file (content : ByteArray)
  | directory
  | missing
  | blocked

def empty (here : List String) : Files := ⟨here, [], []⟩

def content? (fs : Files) (names : List String) : Option ByteArray :=
  fs.entries.lookup names

def isDirectory (fs : Files) (names : List String) : Bool :=
  names.isPrefixOf fs.here || fs.folders.any names.isPrefixOf ||
    fs.entries.any fun e => names.isPrefixOf e.1 && names.length < e.1.length

def start (fs : Files) (path : FilePath) : List String :=
  if path.isAbsolute then [] else fs.here

/-- Where names lead from a directory, two points leading up. -/
def settle (start names : List String) : List String :=
  names.foldl (fun place name => if name == ".." then place.dropLast else place ++ [name]) start

/-- Follows names from a directory of the tree; only the last one need not be a directory. -/
def follow (fs : Files) (start : List String) : List String → List String ⊕ Place
  | [] => .inl start
  | name :: rest =>
    if name == ".." then follow fs start.dropLast rest
    else
      let next := start ++ [name]
      if rest.isEmpty then .inl next
      else if fs.isDirectory next then follow fs next rest
      else if (fs.content? next).isSome then .inr .blocked
      else .inr .missing

def placeAt (fs : Files) (names : List String) : Place :=
  match fs.content? names with
  | some bytes => .file bytes
  | none => if fs.isDirectory names then .directory else .missing

def find (fs : Files) (path : FilePath) : Place :=
  match fs.follow (fs.start path) path.names with
  | .inr place => place
  | .inl names => fs.placeAt names

def hasNull (path : FilePath) : Bool :=
  path.names.any fun name => name.toList.contains '\x00'

def exists? (fs : Files) (path : FilePath) : Bool :=
  !hasNull path &&
    match fs.find path with
    | .file _ => true
    | .directory => true
    | _ => false

def read (fs : Files) (path : FilePath) : Except FileFault ByteArray :=
  if hasNull path then .error .nullCharacter
  else
    match fs.find path with
    | .file bytes => .ok bytes
    | .directory => .error (.directory path.text)
    | .missing => .error (.missing path.text)
    | .blocked => .error (.notDirectory path.text)

/-- Content as a text, its line ends unified. -/
def textOf (bytes : ByteArray) : Except FileFault String :=
  match String.fromUTF8? bytes with
  | some s => .ok (String.ofList (Text.unifyLineEnds s.toList))
  | none => .error .notText

def readText (fs : Files) (path : FilePath) : Except FileFault String :=
  (fs.read path).bind textOf

def put (fs : Files) (names : List String) (bytes : ByteArray) : Files :=
  if (fs.content? names).isSome then
    { fs with entries := fs.entries.map fun e => if e.1 == names then (names, bytes) else e }
  else { fs with entries := fs.entries ++ [(names, bytes)] }

/-- The names under which the file of a path is kept. -/
def resolve (fs : Files) (path : FilePath) : List String :=
  settle (fs.start path) path.names

/-- The fault that keeps the directories on the way to a file from being made. -/
def parentFault? (fs : Files) (path : FilePath) : Option FileFault :=
  match fs.find path.parent with
  | .file _ => some (.exists path.parent.text)
  | .blocked => some (.notDirectory path.parent.text)
  | _ => none

/-- The directories on the way through names that are not there yet, as far as no file is met. -/
def missingFolders (fs : Files) (start : List String) : List String → List (List String)
  | [] => []
  | name :: rest =>
    if name == ".." then missingFolders fs start.dropLast rest
    else
      let next := start ++ [name]
      if fs.isDirectory next then missingFolders fs next rest
      else if (fs.content? next).isSome then []
      else next :: missingFolders fs next rest

/-- With the directories that lead to a path. -/
def withFolders (fs : Files) (path : FilePath) : Files :=
  { fs with folders := fs.folders ++ fs.missingFolders (fs.start path) path.parent.names }

/-- Makes the directories that lead to the file and replaces its content. -/
def write (fs : Files) (path : FilePath) (bytes : ByteArray) : Except FileFault Files :=
  if hasNull path then .error .nullCharacter
  else
    let ready := fs.withFolders path
    match ready.parentFault? path, ready.follow (ready.start path) path.names with
    | some fault, _ => .error fault
    | none, .inr _ => .error (.notDirectory path.text)
    | none, .inl names =>
      match ready.placeAt names with
      | .directory => .error (.directory path.text)
      | _ => .ok (ready.put names bytes)

/-- Files that are new or have another content than before, under their paths from the current
directory, in order. -/
def changes (old new : Files) : List (String × ByteArray) :=
  let changed := new.entries.filter fun e => old.content? e.1 != some e.2
  let named := changed.map fun e =>
    ("/".intercalate ((new.here.isPrefixOf? e.1).getD ("" :: e.1)), e.2)
  named.mergeSort fun a b => a.1 ≤ b.1

end Files

end ContentIndex
