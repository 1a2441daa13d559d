import ContentIndex.Index.Document

/-!
# Staged changes

Documents are kept by workspace and identifier. Indexing and removing a node only stage a change;
flushing applies the staged changes in order. A node whose document cannot be built is not staged.
-/

namespace ContentIndex.Index

set_option autoImplicit false

inductive Change where
  | write (document : Document)
  | remove (workspace : String) (identifier : Value)

abbrev DocumentKey := String × Key

abbrev Documents := Table DocumentKey Document

def keyOf (workspace : String) (identifier : Value) : Except Fault DocumentKey :=
  match identifier.key? with
  | some key => .ok (workspace, key)
  | none => .error (.wrongType ("unhashable type: '" ++ identifier.typeName ++ "'"))

namespace Change

/-- One change; nothing is looked for in an empty index. -/
def apply (documents : Documents) : Change → Except Fault Documents
  | .write d => (keyOf d.workspace d.identifier).map fun key => documents.put key d
  | .remove workspace identifier =>
    if documents.isEmpty then .ok documents
    else (keyOf workspace identifier).map fun key => documents.erase key

def isWrite : Change → Bool
  | .write _ => true
  | .remove .. => false

/-- Applies changes in order; documents changed before a failure stay changed. -/
def applyAll (documents : Documents) : List Change → Documents × Option Fault
  | [] => (documents, none)
  | change :: rest =>
    match change.apply documents with
    | .ok documents => applyAll documents rest
    | .error f => (documents, some f)

end Change

/-- An index with what extraction remembers from node to node. -/
structure Indexer where
  extraction : Extraction
  documents : Documents
  pending : List Change

abbrev Work := ExceptT Error (StateM Indexer)

namespace Indexer

def empty (st : Store) : Indexer :=
  ⟨⟨st, none, [], [], []⟩, [], []⟩

def find? (x : Indexer) (workspace : String) (identifier : Value) :
    Except Fault (Option Document) :=
  (keyOf workspace identifier).map fun key => x.documents.lookup key

end Indexer

def counted (n : Nat) : String :=
  String.ofList (Text.natDigits n)

def liftExtract {α : Type} (action : Extract α) : Work α := fun x =>
  let (result, extraction) := action x.extraction
  (result, { x with extraction := extraction })

def note (level : LogLevel) (message : String) : Work Unit :=
  liftExtract (lift (Eval.note level message))

def stage (change : Change) : Work Unit :=
  modify fun x => { x with pending := x.pending ++ [change] }

def indexNode (s : Setup) (id : Nat) (target : Option String) : Work Unit := do
  let document ← liftExtract (build s id target)
  stage (.write document)
  let x ← get
  let path := ((x.extraction.store.node? id).map (·.path)).getD .none
  note .debug ("Staged " ++ path.shown ++ " for indexing (" ++ counted x.pending.length ++
    " pending)")

def removeNode (id : Nat) (target : Option String) : Work Unit := do
  match (← get).extraction.store.node? id with
  | none => throw (.fault (.outOfRange "list"))
  | some n =>
    stage (.remove (workspaceOf target) n.identifier)
    note .debug ("Staged " ++ n.path.shown ++ " for removal")

/-- Applies the staged changes; the number of documents written. -/
def flush : Work Nat := do
  let x ← get
  let (documents, failure) := Change.applyAll x.documents x.pending
  match failure with
  | some f =>
    set { x with documents := documents }
    throw (.fault f)
  | none =>
    let written := x.pending.countP Change.isWrite
    set { x with documents := documents, pending := [] }
    note .info ("Flushed " ++ counted written ++ " documents (" ++ counted documents.length ++
      " in index)")
    return written

end ContentIndex.Index
