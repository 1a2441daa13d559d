import ContentIndex.Catalogue
import ContentIndex.Evaluator

/-!
# Variables of every expression

Settings name them by the path of what they stand for: a module and one of its exports, with a
colon or the last point between them. A type among them is made without arguments. The variables
are built together on first use and kept; when one of them fails, nothing is kept.
-/

namespace ContentIndex.Context

set_option autoImplicit false

abbrev Variables := List (String × Value)

/-- A path, which has to be a text; what can be gone through lacks the means to be taken apart. -/
def pathText (path : Value) : Except Fault String :=
  match path with
  | .str s => .ok s
  | .bytes _ => .error (.wrongType "a bytes-like object is required, not 'str'")
  | v =>
    if Eval.isIterable v then .error (.noAttribute v.typeName "rpartition")
    else .error (.wrongType ("argument of type '" ++ v.typeName ++ "' is not iterable"))

/-- The module and the export that a path names; without a separator the module is empty. -/
def splitPath (path : String) : String × String :=
  match Text.cut? [':'] path.toList with
  | some (home, attr) => (String.ofList home, String.ofList attr)
  | none =>
    match Text.splitAtMostFromEnd ['.'] 1 path.toList with
    | [home, attr] => (String.ofList home, String.ofList attr)
    | _ => ("", path)

/-- Names of the packages on the way to a module, and its own name. -/
def dottedPrefixes (name : String) : List String :=
  let parts := Text.splitOn ['.'] name.toList
  (List.range parts.length).map fun n => String.ofList (Text.join ['.'] (parts.take (n + 1)))

/-- Goes down to a module; `parent` is the entry it was last found in. -/
def descend (path : String) (parent : Option Catalogue.Entry) :
    List String → Except ConfigurationProblem Catalogue.Entry
  | [] =>
    match parent with
    | some entry => .ok entry
    | none => .error (.invalidImport path)
  | name :: rest =>
    match Catalogue.find? name, parent with
    | some entry, _ => descend path (some entry) rest
    | none, some entry =>
      if entry.isPackage then .error (.noModule path name)
      else .error (.noPackage path name entry.name)
    | none, none => .error (.noModule path name)

def resolve (path : String) : Except Error Value :=
  let (home, attr) := splitPath path
  if home.isEmpty || attr.isEmpty then .error (.configuration (.invalidImport path))
  else if home.startsWith "." then
    .error (.fault (.wrongType "a package is needed for a relative import"))
  else
    match descend path none (dottedPrefixes home) with
    | .error p => .error (.configuration p)
    | .ok entry =>
      match entry.exports.lookup attr with
      | some v => .ok v
      | none => .error (.configuration (.noExport home attr))

/-- What a variable stands for. -/
def instance? (v : Value) : Except Error Value :=
  match v with
  | .typeObject t =>
    match Eval.made? t with
    | some v => .ok v
    | none => .error (.fault (Eval.notMade t))
  | v => .ok v

/-- The values that paths stand for, in order. -/
def build : Entries → Except Error Entries
  | [] => .ok []
  | (name, path) :: rest => do
    match pathText path with
    | .error f => .error (.fault f)
    | .ok path =>
      let v ← instance? (← resolve path)
      return (name, v) :: (← build rest)

/-- Names in ascending order, if they can be ordered. -/
def builtMessage (built : Entries) : Except Fault String := do
  let sorted ← Eval.sortKeyed false (built.map fun e => (e.1, e.1))
  return "Initialized default context variables: " ++ (Value.list (sorted.map (·.1)) 0).quoted

/-- Builds what paths stand for. -/
def buildAll (paths : Entries) : Eval Entries := do
  match build paths with
  | .error e => throw e
  | .ok entries =>
    let (entries, next) := Value.withMarksEntries entries [] (← get).next
    modify fun st => { st with next := next }
    Eval.note .debug (← Eval.ofFault (builtMessage entries))
    return entries

def pathEntries (paths : List (String × String)) : Entries :=
  paths.map fun (name, path) => (.str name, .str path)

def variablesOf (entries : Entries) : Variables :=
  entries.filterMap fun (name, v) => name.asString?.map fun name => (name, v)

/-- The variables, built unless they are there already. -/
def get (paths : List (String × String)) (built : Option Variables) : Eval Variables := do
  match built with
  | some bindings => return bindings
  | none => return variablesOf (← buildAll (pathEntries paths))

end ContentIndex.Context
