import ContentIndex.Error
import ContentIndex.Files
import ContentIndex.Text.Base64

/-!
# Attachments

Assets are written in base64; lists and tuples of assets become lists, and null stays null. Any
other value is refused, the first one from the left deciding, and so are lists nested too deep.
-/

namespace ContentIndex.Attachment

set_option autoImplicit false

/-- Content of an asset. -/
def content (files : Files) (a : Asset) : Except Fault (List UInt8) :=
  match a.content with
  | .memory bytes => .ok bytes
  | .file path =>
    match files.read path with
    | .ok bytes => .ok bytes.toList
    | .error f => .error (.file f)

/-- Lists and tuples one in another that the stack has room for. -/
def nestingLimit : Nat := 494

mutual
/-- `v` for the index where at most `room` lists and tuples may still stand one in another. -/
def encodeWithin (files : Files) : Nat → Value → Except Error Value
  | _, .none => .ok .none
  | 0, .list _ _ => .error (.fault .tooDeep)
  | 0, .tuple _ _ => .error (.fault .tooDeep)
  | room + 1, .list items _ => (encodeAll files room items).map fun vs => .list vs 0
  | room + 1, .tuple items _ => (encodeAll files room items).map fun vs => .list vs 0
  | _, .asset a _ =>
    match content files a with
    | .ok bytes => .ok (.chars (Text.Base64.encode bytes))
    | .error f => .error (.fault f)
  | _, v => .error (.unsupportedAsset v.typeName)

def encodeAll (files : Files) : Nat → List Value → Except Error (List Value)
  | _, [] => .ok []
  | room, v :: vs =>
    match encodeWithin files room v with
    | .error e => .error e
    | .ok w =>
      match encodeAll files room vs with
      | .error e => .error e
      | .ok ws => .ok (w :: ws)
end

def encode (files : Files) (v : Value) : Except Error Value :=
  encodeWithin files nestingLimit v

end ContentIndex.Attachment
