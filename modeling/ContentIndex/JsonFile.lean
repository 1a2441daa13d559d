import ContentIndex.Error
import ContentIndex.Value.Document

/-!
# JSON files

Reading takes the whole file as one document; writing replaces the file and makes the directories
that lead to it.
-/

namespace ContentIndex.JsonFile

set_option autoImplicit false

/-- Numbers with too many digits and documents that are nested too deeply are no faults of the
format. -/
def documentError (f : Json.Fault) : Error :=
  match f.expected with
  | .shortNumber => .fault Value.exceedsDigits
  | .shallow => .fault .tooDeep
  | _ => .json f

def read (files : Files) (path : FilePath) : Except Error Value :=
  match files.readText path with
  | .error f => .error (.fault (.file f))
  | .ok s =>
    match Json.parse s with
    | .error f => .error (documentError f)
    | .ok document => .ok (.ofJson document)

def text (style : Json.Style) (v : Value) : Except Fault String :=
  (v.toJson Value.writingLimit).map fun document => document.text style

def write (files : Files) (path : FilePath) (style : Json.Style) (v : Value) :
    Except Fault Files := do
  let s ← text style v
  match files.write path s.toUTF8 with
  | .ok files => .ok files
  | .error f => .error (.file f)

end ContentIndex.JsonFile
