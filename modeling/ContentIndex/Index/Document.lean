import ContentIndex.Index.Extraction
import ContentIndex.Indexing

/-!
# Index documents

Everything a search backend gets for a node: the stored properties with the node's own data among
them, and the fulltext buckets.
-/

namespace ContentIndex.Index

set_option autoImplicit false

structure Document where
  identifier : Value
  workspace : String
  properties : Entries
  fulltext : Entries
  deriving Inhabited

/-- An empty name of a workspace stands for the standard one. -/
def workspaceOf (target : Option String) : String :=
  match target with
  | none => Catalogue.standardWorkspace
  | some w => if w.isEmpty then Catalogue.standardWorkspace else w

/-- Prefixes of the path of the parent; the root has none. -/
def ancestorPaths (n : Node) : Except Fault Value := do
  match ← n.parentPath with
  | .none => return .list [] 0
  | parent => Indexing.pathPrefixes parent

/-- Data of the node itself, over stored properties of the same names. -/
def withNodeData (st : Store) (n : Node) (stored : Entries) : Except Error Entries := do
  let ancestors ←
    match ancestorPaths n with
    | .ok v => .ok v
    | .error f => .error (.fault f)
  let types ← Indexing.typeNames st.types (st.typeValue n.type)
  let own : List (String × Value) :=
    [("__identifier", n.identifier), ("__path", n.path), ("__parentPath", ancestors),
      ("__typeAndSupertypes", types)]
  return own.foldl (fun d (name, v) => Entries.insertText d name v) stored

def ofExcept {α : Type} : Except Error α → Extract α
  | .ok a => pure a
  | .error e => throw e

/-- The document of a node, made without changing the index. -/
def build (s : Setup) (id : Nat) (target : Option String) : Extract Document := do
  modify fun x => { x with buckets := [] }
  let stored ← extract s id
  let x ← get
  match x.store.node? id with
  | none => throw (.fault (.outOfRange "list"))
  | some n =>
    let properties ← ofExcept (withNodeData x.store n stored)
    return ⟨n.identifier, workspaceOf target, properties, x.buckets⟩

end ContentIndex.Index
