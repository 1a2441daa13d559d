import ContentIndex.Catalogue
import ContentIndex.Eval.Iterate
import ContentIndex.Evaluator
import ContentIndex.Registry

/-!
# Loading nodes

A definition gives the identifier, the path, the type and the properties of a node. A dictionary
whose only key is the asset marker stands for the file it names; such markers are found in lists,
as many one in another as the stack has room for, and nowhere else.
-/

namespace ContentIndex.Loading

set_option autoImplicit false

/-- The path under the only key of a marker. -/
def marked? (v : Value) : Option Value :=
  match v.entries? with
  | some [(.str key, path)] => if key == Catalogue.assetMarker then some path else none
  | _ => none

/-- The file that a marker names, from the base directory unless its path is absolute. -/
def fileAsset (base : Option FilePath) (path : Value) : Except Fault Value :=
  match path with
  | .str s =>
    let p := FilePath.ofText s
    .ok (.asset (Asset.ofFile ((base.map fun b => b.under p).getD p) "") 0)
  | .filePath p => .ok (.asset (Asset.ofFile ((base.map fun b => b.under p).getD p) "") 0)
  | v => .error (.wrongType ("expected a path, not " ++ v.typeName))

/-- Lists one in another that the stack has room for. -/
def listLimit : Nat := 494

mutual
/-- A property where at most `room` lists may still stand one in another. -/
def propertyValue (base : Option FilePath) : Nat → Value → Except Fault Value
  | 0, .list _ _ => .error .tooDeep
  | room + 1, .list items _ => (propertyValues base room items).map fun vs => .list vs 0
  | _, v =>
    match marked? v with
    | some path => fileAsset base path
    | none => .ok v

def propertyValues (base : Option FilePath) : Nat → List Value → Except Fault (List Value)
  | _, [] => .ok []
  | room, v :: vs =>
    match propertyValue base room v with
    | .error f => .error f
    | .ok w =>
      match propertyValues base room vs with
      | .error f => .error f
      | .ok ws => .ok (w :: ws)
end

def propertyEntries (base : Option FilePath) : Entries → Except Fault Entries
  | [] => .ok []
  | (name, v) :: rest =>
    match propertyValue base listLimit v with
    | .error f => .error f
    | .ok w => (propertyEntries base rest).map fun ws => (name, w) :: ws

def propertiesOf (definition : Entries) : Except Fault Entries :=
  match Entries.findText? definition "properties" with
  | none => .ok []
  | some v =>
    if !v.truth then .ok []
    else
      match v.entries? with
      | some entries => .ok entries
      | none => .error (.noAttribute v.typeName "items")

def required (definition : Entries) (field : String) : Except Error Value :=
  match Entries.findText? definition field with
  | some v => .ok v
  | none =>
    let shown : Value := .dict definition 0
    .error (shown.problemWith (.missingField field shown))

def faultOr {α : Type} : Except Fault α → Except Error α
  | .ok a => .ok a
  | .error f => .error (.fault f)

def nodeOf (registry : Registry) (base : Option FilePath)
    (definition : Value) : Except Error Node :=
  match definition.entries? with
  | none => .error (.fault (.wrongType "a node definition must be a dictionary"))
  | some entries => do
    let identifier ← required entries "identifier"
    let path ← required entries "path"
    let typeName ← required entries "nodeType"
    let properties ← faultOr (propertiesOf entries)
    let properties ← faultOr (propertyEntries base properties)
    let type ← registry.get typeName
    return ⟨identifier, path, type, .none, properties, 0⟩

def nodesOf (registry : Registry) (base : Option FilePath) :
    List Value → Except Error (List Node)
  | [] => .ok []
  | v :: vs =>
    match nodeOf registry base v with
    | .error e => .error e
    | .ok n => (nodesOf registry base vs).map fun ns => n :: ns

def nodesMessage (count : Nat) : String :=
  "Loaded " ++ String.ofList (Text.natDigits count) ++ " nodes"

/-- Loads nodes of registered types. -/
def loadNodes (registry : Registry) (base : Option FilePath) (definitions : Value) :
    Eval (List Nat) := do
  let definitions ← Eval.collect Eval.standard definitions
  match nodesOf registry base definitions with
  | .error e => throw e
  | .ok nodes =>
    let (st, ids) := (← get).addNodes nodes
    set (st.note .debug (nodesMessage nodes.length))
    return ids

end ContentIndex.Loading
