import ContentIndex.FilePath

/-!
# Assets

Binary resources of nodes. An asset held in memory goes by its file name unless it has an
identifier of its own, and a file by its path.
-/

namespace ContentIndex

set_option autoImplicit false

inductive AssetContent where
  | memory (bytes : List UInt8)
  | file (path : FilePath)
  deriving DecidableEq, Repr

structure Asset where
  content : AssetContent
  filename : String
  identifier : String
  deriving DecidableEq, Repr

namespace Asset

def ofBytes (bytes : List UInt8) (filename identifier : String) : Asset :=
  ⟨.memory bytes, filename, if identifier.isEmpty then filename else identifier⟩

def ofFile (path : FilePath) (identifier : String) : Asset :=
  ⟨.file path, path.name, if identifier.isEmpty then path.text else identifier⟩

def typeName (a : Asset) : String :=
  match a.content with
  | .memory _ => "BytesAsset"
  | .file _ => "FileAsset"

end Asset

end ContentIndex
