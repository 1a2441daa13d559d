import ContentIndex.Decimal.Layout
import ContentIndex.Text.Quoted
import ContentIndex.Value.Basic

/-!
# Values as texts

`quoted` shows a value as it stands inside others; `show` shows a text or a moment plainly and
every other value quoted.
-/

namespace ContentIndex

set_option autoImplicit false

def quoteText (s : String) : String :=
  String.ofList (Text.quote s.toList)

namespace Value

def rangeText (start stop step : Int) : String :=
  let number (n : Int) := String.ofList (Decimal.intText n)
  let ends := number start ++ ", " ++ number stop
  "range(" ++ ends ++ (if step == 1 then "" else ", " ++ number step) ++ ")"

def assetText (a : Asset) : String :=
  match a.content with
  | .memory content =>
    "BytesAsset(" ++ quoteText a.filename ++ ", " ++
      String.ofList (Text.natDigits content.length) ++ " bytes)"
  | .file path => "FileAsset(" ++ quoteText path.text ++ ")"

/-- A single item keeps a comma. -/
def tupleText : List String → String
  | [item] => "(" ++ item ++ ",)"
  | items => "(" ++ ", ".intercalate items ++ ")"

/-- Names of the members of a union of types. -/
def memberNames (members : List Value) : List String :=
  members.map fun v =>
    match v with
    | .none => "None"
    | .builtin b => b.name
    | .typeObject t => t.home ++ "." ++ t.name
    | v => v.typeName

mutual
def quoted : Value → String
  | .none => "None"
  | .bool b => if b then "True" else "False"
  | .int n => String.ofList (Decimal.intText n)
  | .float x => String.ofList (Decimal.floatText x)
  | .nan _ => "nan"
  | .str s => quoteText s
  | .bytes b => String.ofList (Text.quoteBytes b)
  | .list items _ => "[" ++ ", ".intercalate (quotedAll items) ++ "]"
  | .tuple items _ => tupleText (quotedAll items)
  | .set items _ =>
    if items.isEmpty then "set()"
    else "\x7b" ++ ", ".intercalate (quotedAll items) ++ "\x7d"
  | .dict entries _ => "\x7b" ++ ", ".intercalate (quotedEntries entries) ++ "\x7d"
  | .range start stop step _ => rangeText start stop step
  | .view .keys entries _ _ => "dict_keys([" ++ ", ".intercalate (quotedKeys entries) ++ "])"
  | .view .values entries _ _ => "dict_values([" ++ ", ".intercalate (quotedValues entries) ++ "])"
  | .view .items entries _ _ => "dict_items([" ++ ", ".intercalate (quotedPairs entries) ++ "])"
  | .moment t _ => t.quoted
  | .node ref => ref.caption
  | .nodeType ref => ref.caption
  | .rule name type indexing extractor _ =>
    "PropertyConfiguration(name=" ++ quoted name ++ ", type=" ++ quoted type ++ ", indexing=" ++
      quoted indexing ++ ", fulltext_extractor=" ++ quoted extractor ++ ")"
  | .asset a _ => assetText a
  | .filePath p => "PosixPath(" ++ quoteText p.text ++ ")"
  | .stream typeName _ => "<" ++ typeName ++ ">"
  | .helper _ => "<IndexingHelper>"
  | .object typeName _ => if typeName == "ellipsis" then "Ellipsis" else "<" ++ typeName ++ ">"
  | .cursor kind _ => "<" ++ kind.typeName ++ ">"
  | .builtin b =>
    if b.isType then "<class '" ++ b.name ++ "'>" else "<built-in function " ++ b.name ++ ">"
  | .function f => "<function " ++ f.name ++ ">"
  | .typeObject t => "<class '" ++ t.home ++ "." ++ t.name ++ "'>"
  | .union members => " | ".intercalate (memberNames members)
  | .module name => "<module '" ++ name ++ "'>"
  | .method _ name _ => "<method " ++ name ++ ">"
  | .closure .. => "<function <lambda>>"

def quotedAll : List Value → List String
  | [] => []
  | v :: vs => quoted v :: quotedAll vs

def quotedEntries : List (Value × Value) → List String
  | [] => []
  | (k, v) :: rest => (quoted k ++ ": " ++ quoted v) :: quotedEntries rest

def quotedPairs : List (Value × Value) → List String
  | [] => []
  | (k, v) :: rest => ("(" ++ quoted k ++ ", " ++ quoted v ++ ")") :: quotedPairs rest

def quotedKeys : List (Value × Value) → List String
  | [] => []
  | (k, _) :: rest => quoted k :: quotedKeys rest

def quotedValues : List (Value × Value) → List String
  | [] => []
  | (_, v) :: rest => quoted v :: quotedValues rest
end

def shown : Value → String
  | .str s => s
  | .moment t _ => t.text
  | .filePath p => p.text
  | .object typeName _ =>
    if typeName == "ContentSearchError" || typeName == "ConfigurationError" then ""
    else quoted (.object typeName 0)
  | v => quoted v

end Value

end ContentIndex
