import ContentIndex.Attachment
import ContentIndex.Eval.Conversions
import ContentIndex.Expr.Wrapper
import ContentIndex.Hierarchy
import ContentIndex.Markup.Buckets

/-!
# Helpers for indexing rules

Path prefixes, flattened type names, fulltext buckets of marked-up texts, references to other
nodes and encoded assets, as functions on values.
-/

namespace ContentIndex.Indexing

set_option autoImplicit false

open Eval

/-- Prefixes of a path; anything empty has none. -/
def pathPrefixes (path : Value) : Except Fault Value :=
  if !path.truth then .ok (.list [] 0)
  else
    match path with
    | .str s => .ok (.ofTexts (NodePath.prefixes s.toList))
    | .bytes _ => .error (.wrongType "startswith first arg must be bytes")
    | v => .error (.noAttribute v.typeName "startswith")

def typeNames (types : Array NodeType) (v : Value) : Except Error Value :=
  match v with
  | .nodeType ref =>
    match Hierarchy.flatten types ref.id with
    | .ok names => .ok (.list (names.map (·.value)) 0)
    | .error names => .error (Hierarchy.cycleError names)
  | v => .error (.fault (.noAttribute v.typeName "get_declared_super_types"))

/-- Fulltext buckets of a text. -/
def textBuckets (text : String) : List (String × String) :=
  (Markup.buckets text.toList).map fun (bucket, part) =>
    (String.ofList bucket.name, String.ofList part)

/-- Fulltext buckets of the text of a value; null has none of its own. -/
def htmlBuckets (v : Value) : Except Fault (List (String × String)) :=
  match v with
  | .none => .ok (textBuckets "")
  | v => v.written.map textBuckets

def bucketEntries (buckets : List (String × String)) : Entries :=
  buckets.map fun (bucket, part) => (.str bucket, .str part)

def htmlTags (v : Value) : Except Fault Value :=
  (htmlBuckets v).map fun buckets => .dict (bucketEntries buckets) 0

def intoBucket (bucket v : Value) : Except Fault Value := do
  let _ ← Value.keyOf bucket
  return .dict [(bucket, v)] 0

def tagName (v : Value) : Except Fault (List Char) :=
  match v with
  | .str s => .ok s.toList
  | .bytes b => .ok (b.map fun x => Char.ofNat x.toNat)
  | v => .error (.noAttribute v.typeName "lower")

def stripTags (v : Value) (allowed : List Value) : Except Fault Value := do
  let names ← allowed.mapM tagName
  match v with
  | .str s => return .chars (Markup.stripTags names s.toList)
  | _ => .error (.wrongType "expected string or bytes-like object")

/-- Whether a value counts as a list of nodes: it can be gone through and is no text or mapping. -/
def isNodeList (v : Value) : Bool :=
  isIterable v && !(v matches .str _ || v matches .bytes _ || v.isDict)

def nodeIdentifiers (I : Interp) (nodes : Value) : Eval Value := do
  if isNodeList nodes then
    let step (acc : List Value) (v : Value) : Eval (List Value) := do
      return (← access v "identifier") :: acc
    let reversed ← fold I step longest (← iterate nodes) []
    return .list reversed.reverse 0
  else return .list [] 0

def nodeProperty (I : Interp) (nodes name : Value) : Eval Value := do
  if isNodeList nodes then
    let step (acc : List Value) (v : Value) : Eval (List Value) := do
      let getter ← access v "get_property"
      match getter with
      | .method receiver attr _ => return (← valueMethod I receiver attr [name] []) :: acc
      | v => fault (.noAttribute v.typeName "get_property")
    let reversed ← fold I step longest (← iterate nodes) []
    return .list reversed.reverse 0
  else return .list [] 0

def ofError {α : Type} : Except Error α → Eval α
  | .ok a => pure a
  | .error e => throw e

/-- A mapping, or pairs that make one, with a dictionary merged into it. -/
def mergeDicts (I : Interp) (base override : Value) : Eval Value := do
  let entries ← dictOf I base
  match override.entries? with
  | some o => return .dict (Value.mergeEntries entries o) 0
  | none => fault (.noAttribute override.typeName "items")

def unwrapText (v : Value) : Except Fault Value :=
  match v with
  | .str s => .ok (.chars (Expr.unwrap s.toList))
  | _ => .error (.wrongType "expected string or bytes-like object")

def unindexedMessage (name : Value) : String :=
  "Property " ++ inQuotes name.shown ++ " has no indexing configuration and is not indexed"

/-- Names and defaults of the parameters of a function. -/
def signature (f : LibraryFunction) : Signature :=
  match f with
  | .pathPrefixes => named f.name ["path"] []
  | .typeNames => named f.name ["node_type"] []
  | .nodeIdentifiers => named f.name ["nodes"] []
  | .nodeProperty => named f.name ["nodes", "property_name"] []
  | .stripTags => named f.name ["value"] [("allowed_tags", .tuple [] 0)]
  | .htmlTags => named f.name ["value"] []
  | .intoBucket => named f.name ["bucket_name", "value"] []
  | .encodeAsset => named f.name ["value"] []
  | .getPath => named f.name ["data", "path"] [("default", .none)]
  | .mergeDicts => named f.name ["base", "override"] []
  | .unwrap => named f.name ["expression"] []
  | .logUnindexed => named f.name ["property_name"] []
  | .other name => positional name [] []

def apply (I : Interp) (f : LibraryFunction) (args : List Value) (keywords : Keywords) :
    Eval Value := do
  let values ← ofFault ((signature f).bind args keywords)
  match f, values with
  | .pathPrefixes, [path] => ofFault (pathPrefixes path)
  | .typeNames, [v] => do ofError (typeNames (← get).types v)
  | .nodeIdentifiers, [nodes] => nodeIdentifiers I nodes
  | .nodeProperty, [nodes, name] => nodeProperty I nodes name
  | .stripTags, [v, allowed] => do ofFault (stripTags v (← collect I allowed))
  | .htmlTags, [v] => ofFault (htmlTags v)
  | .intoBucket, [bucket, v] => ofFault (intoBucket bucket v)
  | .encodeAsset, [v] => do ofError (Attachment.encode (← get).files v)
  | .getPath, [data, path, default] => ofFault do
    return (Value.getPath? data (← pathArg path)).getD default
  | .mergeDicts, [base, override] => mergeDicts I base override
  | .unwrap, [v] => ofFault (unwrapText v)
  | .logUnindexed, [name] => do
    note .warning (unindexedMessage name)
    return .none
  | f, _ => fault (.wrongType (f.name ++ "() cannot be called here"))

/-- A method of the helper that expressions know by name. -/
def helperMethod (I : Interp) (name : String) (args : List Value) (keywords : Keywords) :
    Eval Value := do
  match helperMethods.lookup name with
  | some f => apply I f args keywords
  | none =>
    if name == "allows_call_of_method" then
      let _ ← ofFault ((named name ["method_name"] []).bind args keywords)
      return .bool true
    else fault (.noAttribute "IndexingHelper" name)

end ContentIndex.Indexing
