import ContentIndex.Eval.Scope
import ContentIndex.Node

/-!
# Attributes of values

What stands behind a dot: data of nodes, node types, rules and assets, and the methods of every
kind of value. A method is bound to its value when it is looked up.
-/

namespace ContentIndex.Eval

set_option autoImplicit false

def textMethods : List String :=
  ["upper", "lower", "strip", "lstrip", "rstrip", "split", "rsplit", "splitlines", "join",
    "replace", "startswith", "endswith", "find", "index", "count", "capitalize", "isdigit",
    "partition"]

def helperMethods : List (String × LibraryFunction) :=
  [LibraryFunction.pathPrefixes, .typeNames, .nodeIdentifiers, .nodeProperty, .htmlTags,
    .intoBucket, .encodeAsset].map fun f => (f.name, f)

def nodeMethods : List String :=
  ["has_property", "get_property", "get_node_type", "get_path", "get_identifier"]

def nodeTypeMethods : List String :=
  ["get_declared_super_types", "has_configuration", "get_configuration"]

/-- Methods of the values of a type of the language. -/
def builtinMethods : Builtin → List String
  | .str => textMethods
  | .dict => ["get", "keys", "values", "items"]
  | .list => ["index", "count"]
  | .tuple => ["index", "count"]
  | .range => ["index", "count"]
  | _ => []

/-- Methods of every kind of value; those of a type take the value first. -/
def methodsOf : Value → List String
  | .str _ => textMethods
  | .dict .. => builtinMethods .dict
  | .list .. => builtinMethods .list
  | .tuple .. => builtinMethods .tuple
  | .range .. => builtinMethods .range
  | .builtin b => builtinMethods b
  | .moment .. => ["isoformat"]
  | .node _ => nodeMethods
  | .nodeType _ => nodeTypeMethods
  | .asset .. => ["get_stream"]
  | .stream typeName _ =>
    ["read", "readline", "readlines", "seek", "tell"] ++
      (if typeName == "BytesIO" then ["getvalue"] else [])
  | .helper _ => "allows_call_of_method" :: helperMethods.map (·.1)
  | _ => []

def nodeData? (st : Store) (n : Node) (attr : String) : Option (Except Fault Value) :=
  match attr with
  | "identifier" => some (.ok n.identifier)
  | "path" => some (.ok n.path)
  | "node_type" => some (.ok (st.typeValue n.type))
  | "properties" => some (.ok (.dict n.properties n.mark))
  | "name" => some n.name
  | "parent_path" => some n.parentPath
  | _ => none

def nodeTypeData? (st : Store) (t : NodeType) (attr : String) : Option Value :=
  match attr with
  | "name" => some t.name.value
  | "declared_super_types" => some (.list (t.supers.map st.typeValue) (t.mark + 2))
  | "configuration" => some t.configurationValue
  | "properties" => some t.propertiesValue
  | _ => none

def momentData? (t : Moment) (attr : String) : Option Value :=
  let fields : List (String × Nat) :=
    [("year", t.year), ("month", t.month), ("day", t.day), ("hour", t.hour),
      ("minute", t.minute), ("second", t.second), ("microsecond", t.microsecond)]
  (fields.lookup attr).map fun n => .int n

def assetData? (a : Asset) (attr : String) : Option Value :=
  match attr, a.content with
  | "identifier", _ => some (.str a.identifier)
  | "filename", _ => some (.str a.filename)
  | "data", .memory bytes => some (.bytes bytes)
  | "path", .file path => some (.filePath path)
  | _, _ => none

def filePathData? (p : FilePath) (attr : String) : Option Value :=
  match attr with
  | "name" => some (.str p.name)
  | "suffix" => some (.str p.suffix)
  | "stem" => some (.str p.stem)
  | "parent" => some (.filePath p.parent)
  | "parts" =>
    some (.tuple ((if p.root.isEmpty then p.names else p.root :: p.names).map .str) 0)
  | _ => none

def numberData? (v : Value) (attr : String) : Option Value :=
  match v, attr with
  | .int _, "real" => some v
  | .int n, "numerator" => some (.int n)
  | .float _, "real" => some v
  | .nan _, "real" => some v
  | _, _ => none

def rangeData? (start stop step : Int) (attr : String) : Option Value :=
  match attr with
  | "start" => some (.int start)
  | "stop" => some (.int stop)
  | "step" => some (.int step)
  | _ => none

def ruleFields (name type indexing extractor : Value) : List (String × Value) :=
  [("name", name), ("type", type), ("indexing", indexing), ("fulltext_extractor", extractor)]

/-- Data behind an attribute, as far as there is any. -/
def data? (st : Store) (v : Value) (attr : String) : Option (Except Fault Value) :=
  match v with
  | .node ref => (st.node? ref.id).bind fun n => nodeData? st n attr
  | .nodeType ref => (st.type? ref.id).bind fun t => (nodeTypeData? st t attr).map .ok
  | .rule name type indexing extractor _ =>
    ((ruleFields name type indexing extractor).lookup attr).map .ok
  | .asset a _ => (assetData? a attr).map .ok
  | .moment t _ => (momentData? t attr).map .ok
  | .filePath p => (filePathData? p attr).map .ok
  | .range start stop step _ => (rangeData? start stop step attr).map .ok
  | _ => (numberData? v attr).map .ok

/-- What stands behind an attribute; what has been put there since comes first. -/
def access (v : Value) (attr : String) : Eval Value := do
  let st ← get
  let extra := (v.identity?).bind fun owner => st.extras.lookup (owner, attr)
  match extra, data? st v attr with
  | some w, _ => return w
  | none, some result => ofFault result
  | none, none =>
    if (methodsOf v).contains attr then return .method v attr 0
    else fault (.noAttribute v.typeName attr)

/-- Whether attributes can be put on a value. -/
def takesAttributes : Value → Bool
  | .node _ => true
  | .nodeType _ => true
  | .asset .. => true
  | .helper _ => true
  | .closure .. => true
  | .function _ => true
  | .typeObject _ => true
  | .module _ => true
  | .object .. => true
  | _ => false

/-- Attributes that are computed and cannot be put. -/
def isComputed (v : Value) (attr : String) : Bool :=
  match v with
  | .node _ => attr == "name" || attr == "parent_path"
  | .nodeType _ => attr == "properties"
  | _ => false

def putExtra (v : Value) (attr : String) (w : Value) : Eval Unit := do
  match v.identity? with
  | some owner =>
    modify fun st =>
      { st with altered := true, extras := Table.put st.extras (owner, attr) w }
  | none => pure ()

/-- Puts a value behind an attribute. -/
def putAttribute (v : Value) (attr : String) (w : Value) : Eval Unit := do
  match v with
  | .rule .. => fault .frozen
  | _ =>
    if !takesAttributes v || isComputed v attr then fault (.noAttribute v.typeName attr)
    else
      match v, attr, w with
      | .node ref, "path", _ => modify fun st => st.changeNode ref.id fun n => { n with path := w }
      | .node ref, "identifier", _ =>
        modify fun st => st.changeNode ref.id fun n => { n with identifier := w }
      | .node ref, "properties", .dict entries mark =>
        modify fun st =>
          st.changeNode ref.id fun n => { n with properties := entries, mark := mark }
      | _, _, _ => putExtra v attr w

end ContentIndex.Eval
