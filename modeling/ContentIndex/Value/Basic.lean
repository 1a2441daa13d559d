import ContentIndex.Asset
import ContentIndex.Expr.Basic
import ContentIndex.Moment

/-!
# Values

What properties hold, rules compute and definitions are made of. Nodes, node types, lazy sequences
and open files are references into a store, the first two with the caption they are shown by.

Values that can be told apart although they look alike carry a mark: collections, which may be
changed in place, resources, functions, and numbers that are not numbers. Equal marks mean one and
the same value; mark zero stands for a mark not given out yet.
-/

namespace ContentIndex

set_option autoImplicit false

/-- The functions that expressions may use by default. -/
inductive Builtin where
  | abs | all | any | bool | dict | enumerate | filter | float | int | isinstance | len | list
  | map | max | min | range | reversed | round | set | sorted | str | sum | tuple | zip
  deriving DecidableEq, Repr

namespace Builtin

def every : List Builtin :=
  [.abs, .all, .any, .bool, .dict, .enumerate, .filter, .float, .int, .isinstance, .len, .list,
    .map, .max, .min, .range, .reversed, .round, .set, .sorted, .str, .sum, .tuple, .zip]

def name : Builtin → String
  | .abs => "abs" | .all => "all" | .any => "any" | .bool => "bool" | .dict => "dict"
  | .enumerate => "enumerate" | .filter => "filter" | .float => "float" | .int => "int"
  | .isinstance => "isinstance" | .len => "len" | .list => "list" | .map => "map" | .max => "max"
  | .min => "min" | .range => "range" | .reversed => "reversed" | .round => "round"
  | .set => "set" | .sorted => "sorted" | .str => "str" | .sum => "sum" | .tuple => "tuple"
  | .zip => "zip"

/-- Whether the name stands for a type of values, rather than for a function. -/
def isType : Builtin → Bool
  | .bool | .dict | .enumerate | .filter | .float | .int | .list | .map | .range | .reversed
  | .set | .str | .tuple | .zip => true
  | _ => false

theorem mem_every (b : Builtin) : b ∈ every := by
  cases b <;> decide

end Builtin

inductive ViewKind where
  | keys
  | values
  | items
  deriving DecidableEq, Repr

def ViewKind.typeName : ViewKind → String
  | .keys => "dict_keys"
  | .values => "dict_values"
  | .items => "dict_items"

inductive CursorKind where
  | generator | map | filter | zip | enumerate | reversed | listReversed | rangeItems
  | longRangeItems
  | viewReversed (kind : ViewKind)
  deriving DecidableEq, Repr

def CursorKind.typeName : CursorKind → String
  | .generator => "generator"
  | .map => "map"
  | .filter => "filter"
  | .zip => "zip"
  | .enumerate => "enumerate"
  | .reversed => "reversed"
  | .listReversed => "list_reverseiterator"
  | .rangeItems => "range_iterator"
  | .longRangeItems => "longrange_iterator"
  | .viewReversed .keys => "dict_reversekeyiterator"
  | .viewReversed .values => "dict_reversevalueiterator"
  | .viewReversed .items => "dict_reverseitemiterator"

/-- A reference into the store with its caption. -/
structure Reference where
  id : Nat
  caption : String
  deriving DecidableEq, Repr

/-- Functions of the library that can be given to expressions by name. -/
inductive LibraryFunction where
  | pathPrefixes | typeNames | nodeIdentifiers | nodeProperty | stripTags | htmlTags | intoBucket
  | encodeAsset | getPath | mergeDicts | unwrap | logUnindexed
  | other (name : String)
  deriving DecidableEq, Repr

def LibraryFunction.name : LibraryFunction → String
  | .pathPrefixes => "build_all_path_prefixes"
  | .typeNames => "extract_node_type_names_and_supertypes"
  | .nodeIdentifiers => "convert_nodes_to_identifiers"
  | .nodeProperty => "convert_nodes_to_property"
  | .stripTags => "strip_tags"
  | .htmlTags => "extract_html_tags"
  | .intoBucket => "extract_into"
  | .encodeAsset => "index_asset"
  | .getPath => "get_path"
  | .mergeDicts => "merge_dicts"
  | .unwrap => "unwrap_expression"
  | .logUnindexed => "log_unindexed_property"
  | .other name => name

inductive TypeKind where
  | plain
  | abstract
  | model
  deriving DecidableEq, Repr

def TypeKind.typeName : TypeKind → String
  | .plain => "type"
  | .abstract => "ABCMeta"
  | .model => "ModelMetaclass"

/-- A type of the library, with the module it is defined in. -/
structure LibraryType where
  name : String
  home : String
  kind : TypeKind
  makes : Bool
  deriving DecidableEq, Repr

/-- A variable of an expression: a value, a place of this part that may be filled later, such a
place of an enclosing part, or a name whose look-up fails. -/
inductive Slot (α : Type) where
  | value (v : α)
  | cell (id : Nat)
  | captured (id : Nat)
  | unusable (what : String)

inductive Value where
  | none
  | bool (b : Bool)
  | int (n : Int)
  | float (x : Float)
  | nan (mark : Nat)
  | str (s : String)
  | bytes (b : List UInt8)
  | list (items : List Value) (mark : Nat)
  | tuple (items : List Value) (mark : Nat)
  | set (items : List Value) (mark : Nat)
  | dict (entries : List (Value × Value)) (mark : Nat)
  | range (start stop step : Int) (mark : Nat)
  | view (kind : ViewKind) (entries : List (Value × Value)) (owner mark : Nat)
  | moment (t : Moment) (mark : Nat)
  | node (ref : Reference)
  | nodeType (ref : Reference)
  | rule (name type indexing extractor : Value) (mark : Nat)
  | asset (a : Asset) (mark : Nat)
  | filePath (p : FilePath)
  | stream (typeName : String) (id : Nat)
  | helper (mark : Nat)
  | object (typeName : String) (mark : Nat)
  | cursor (kind : CursorKind) (id : Nat)
  | builtin (b : Builtin)
  | function (f : LibraryFunction)
  | typeObject (t : LibraryType)
  | union (members : List Value)
  | module (name : String)
  | method (receiver : Value) (name : String) (mark : Nat)
  | closure (params : Params Expr) (body : Expr) (defaults : List Value)
      (keywordDefaults : List (String × Value)) (scope : List (String × Slot Value)) (mark : Nat)

abbrev Entries := List (Value × Value)

namespace Value

instance : Inhabited Value := ⟨.none⟩

def text (s : String) : Value := .str s

def chars (s : List Char) : Value := .str (String.ofList s)

def ofTexts (ss : List (List Char)) : Value := .list (ss.map .chars) 0

def asString? : Value → Option String
  | .str s => some s
  | _ => Option.none

/-- Entries of a dictionary. -/
def entries? : Value → Option Entries
  | .dict entries _ => some entries
  | _ => Option.none

def isDict (v : Value) : Bool := v.entries?.isSome

def typeName : Value → String
  | .none => "NoneType"
  | .bool _ => "bool"
  | .int _ => "int"
  | .float _ => "float"
  | .nan _ => "float"
  | .str _ => "str"
  | .bytes _ => "bytes"
  | .list .. => "list"
  | .tuple .. => "tuple"
  | .set .. => "set"
  | .dict .. => "dict"
  | .range .. => "range"
  | .view kind .. => kind.typeName
  | .moment .. => "datetime"
  | .node _ => "Node"
  | .nodeType _ => "NodeType"
  | .rule .. => "PropertyConfiguration"
  | .asset a _ => a.typeName
  | .filePath _ => "PosixPath"
  | .stream typeName _ => typeName
  | .helper _ => "IndexingHelper"
  | .object typeName _ => typeName
  | .cursor kind _ => kind.typeName
  | .builtin b => if b.isType then "type" else "builtin_function_or_method"
  | .function _ => "function"
  | .typeObject t => t.kind.typeName
  | .union _ => "UnionType"
  | .module _ => "module"
  | .method (.node _) .. => "method"
  | .method (.nodeType _) .. => "method"
  | .method (.asset ..) .. => "method"
  | .method (.helper _) .. => "method"
  | .method (.builtin _) .. => "method_descriptor"
  | .method .. => "builtin_function_or_method"
  | .closure .. => "function"

/-- Number of elements of a range. -/
def rangeLength (start stop step : Int) : Nat :=
  if step > 0 then ((stop - start + step - 1) / step).toNat
  else if step < 0 then ((start - stop - step - 1) / -step).toNat
  else 0

def rangeItem (start step : Int) (i : Nat) : Int :=
  start + step * Int.ofNat i

/-- Whether a condition on the value holds. -/
def truth : Value → Bool
  | .none => false
  | .bool b => b
  | .int n => n != 0
  | .float x => x != 0
  | .str s => !s.isEmpty
  | .bytes b => !b.isEmpty
  | .list items _ => !items.isEmpty
  | .tuple items _ => !items.isEmpty
  | .set items _ => !items.isEmpty
  | .dict entries _ => !entries.isEmpty
  | .range start stop step _ => rangeLength start stop step != 0
  | .view _ entries .. => !entries.isEmpty
  | .object typeName _ => typeName != "NodeTypeRegistry"
  | _ => true

/-- The elements of a value that lists them. -/
def listed? : Value → Option (List Value)
  | .list items _ => some items
  | .tuple items _ => some items
  | .set items _ => some items
  | .str s => some (s.toList.map fun c => .chars [c])
  | .bytes b => some (b.map fun x => .int x.toNat)
  | .dict entries _ => some (entries.map (·.1))
  | .view .keys entries .. => some (entries.map (·.1))
  | .view .values entries .. => some (entries.map (·.2))
  | .view .items entries .. => some (entries.map fun e => .tuple [e.1, e.2] 0)
  | _ => Option.none

end Value

end ContentIndex
