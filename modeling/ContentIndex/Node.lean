import ContentIndex.NodePath
import ContentIndex.Store
import ContentIndex.Value.Merge

/-!
# Nodes and node types

What a node says about itself: its name and the path of its parent follow from its path. A node
type answers for its whole configuration and for single dotted paths in it.
-/

namespace ContentIndex

set_option autoImplicit false

namespace Node

/-- The characters of a path; a path may be any value, but only a text has names. -/
def pathChars (path : Value) : Except Fault (List Char) :=
  match path with
  | .str s => .ok s.toList
  | .bytes _ => .error (.wrongType "a bytes-like object is required, not 'str'")
  | v => .error (.noAttribute v.typeName "rstrip")

def name (n : Node) : Except Fault Value :=
  (pathChars n.path).map fun cs => .chars (NodePath.name cs)

/-- None for the root. -/
def parentPath (n : Node) : Except Fault Value :=
  (pathChars n.path).map fun cs =>
    match NodePath.parent? cs with
    | some parent => .chars parent
    | none => .none

def property? (n : Node) (name : String) : Option Value :=
  Entries.findText? n.properties name

def property (n : Node) (name : String) : Value :=
  (n.property? name).getD .none

end Node

namespace NodeType

def configurationValue (t : NodeType) : Value :=
  .dict t.configuration t.mark

def config? (t : NodeType) (path : String) : Option Value :=
  Value.getPath? t.configurationValue path

/-- A path that leads to null counts as unset. -/
def hasConfig (t : NodeType) (path : String) : Bool :=
  match t.config? path with
  | none => false
  | some .none => false
  | some _ => true

def isFulltextEnabled (t : NodeType) : Bool :=
  match t.config? "search.fulltext.enable" with
  | some (.bool b) => b
  | _ => false

def ruleValue (name : Value) (rule : Rule) (mark : Nat) : Value :=
  .rule name rule.type rule.indexing rule.extractor mark

def propertiesValue (t : NodeType) : Value :=
  .dict (t.properties.zipIdx.map fun ((name, rule), i) =>
    (name, ruleValue name rule (t.mark + 3 + i))) (t.mark + 1)

end NodeType

namespace Rule

/-- An entry of a dictionary that may be absent, null or empty. -/
def section? (v : Option Value) : Except Fault Entries :=
  match v with
  | none => .ok []
  | some v =>
    if !v.truth then .ok []
    else
      match v.entries? with
      | some entries => .ok entries
      | none => .error (.noAttribute v.typeName "get")

def field (entries : Entries) (name : String) : Value :=
  (Entries.findText? entries name).getD .none

def ofDefinition (definition : Value) : Except Fault Rule := do
  let data ← section? (some definition)
  let search ← section? (Entries.findText? data "search")
  return ⟨field data "type", field search "indexing", field search "fulltextExtractor"⟩

end Rule

namespace NodeType

def rulesOf : Entries → Except Fault (List (Value × Rule))
  | [] => .ok []
  | (name, definition) :: rest => do
    let rule ← Rule.ofDefinition definition
    let rules ← rulesOf rest
    return (name, rule) :: rules

/-- A type with the rules that its configuration gives to its properties. -/
def make (name : Name) (supers : List Nat) (configuration : Entries) : Except Fault NodeType := do
  let properties ← Rule.section? (Entries.findText? configuration "properties")
  return ⟨name, supers, configuration, ← rulesOf properties, 0⟩

end NodeType

end ContentIndex
