import ContentIndex.Error
import ContentIndex.Files
import ContentIndex.Name
import ContentIndex.Table
import ContentIndex.Value.Marks

/-!
# The store

Node types, nodes, lazy sequences and open variables, each under the number of its creation, with
the files and the messages noted so far. References to numbers that were never given out do not
occur in values that the store handed out.

Values are trees. What has been changed in place since a value was made is kept under the mark of
the collection that was changed; `refresh` brings a value up to date.
-/

namespace ContentIndex

set_option autoImplicit false

/-- The search rules of one property, as its definition gives them. -/
structure Rule where
  type : Value
  indexing : Value
  extractor : Value
  deriving Inhabited

/-- A node type; its configuration, its rules as a dictionary, the list of its supertypes and each
rule have the marks from `mark` on. -/
structure NodeType where
  name : Name
  supers : List Nat
  configuration : Entries
  properties : List (Value × Rule)
  mark : Nat
  deriving Inhabited

/-- A node; its properties are the dictionary with the mark. -/
structure Node where
  identifier : Value
  path : Value
  type : Nat
  typeName : Value
  properties : Entries
  mark : Nat
  deriving Inhabited

inductive Element where
  | single (e : Expr)
  | pair (key value : Expr)

/-- The state of a lazy sequence. The elements of a collection come with the collection and the
number of elements taken, since it may change meanwhile. -/
inductive Cursor where
  | items (rest : List Value) (source : Value) (taken : Nat)
  | counting (next step : Int) (left : Nat)
  | mapping (f : Value) (sources : List Nat)
  | filtering (f : Value) (source : Nat)
  | zipping (sources : List Nat) (strict : Bool)
  | numbering (next : Int) (source : Nat)
  | comprehension (element : Element) (clauses : List (Clause Expr)) (active : List Nat)
      (scope : List (String × Slot Value))
  | bytes (content : List UInt8) (position : Nat)
  | finished

inductive LogLevel where
  | debug
  | info
  | warning
  deriving DecidableEq, Repr

def LogLevel.name : LogLevel → String
  | .debug => "DEBUG"
  | .info => "INFO"
  | .warning => "WARNING"

structure LogRecord where
  level : LogLevel
  message : String
  deriving DecidableEq, Repr

structure Store where
  types : Array NodeType
  nodes : Array Node
  cursors : Array Cursor
  cells : Array (Option Value)
  depth : Nat
  files : Files
  log : List LogRecord
  /-- The next mark to give out. -/
  next : Nat
  /-- Whether anything has been changed in place. -/
  altered : Bool
  /-- Changed collections by their marks. -/
  changed : Table Nat Value
  /-- Data put on values that have none of their own under these names. -/
  extras : Table (KeyAtom × String) Value
  deriving Inhabited

namespace Store

/-- The first mark that is not reserved. -/
def firstMark : Nat := 16

def empty (files : Files) : Store :=
  ⟨#[], #[], #[], #[], 0, files, [], firstMark, false, [], []⟩

/-- A value with marks of its own. -/
def mark (st : Store) (v : Value) : Store × Value :=
  let (v, next) := v.withMarks st.next
  ({ st with next := next }, v)

def addCursor (st : Store) (c : Cursor) : Store × Nat :=
  ({ st with cursors := st.cursors.push c }, st.cursors.size)

def type? (st : Store) (id : Nat) : Option NodeType :=
  st.types[id]?

def node? (st : Store) (id : Nat) : Option Node :=
  st.nodes[id]?

def note (st : Store) (level : LogLevel) (message : String) : Store :=
  { st with log := st.log ++ [⟨level, message⟩] }

/-- Marks that a node type takes up. -/
def marksOf (t : NodeType) : Nat :=
  3 + t.properties.length

/-- Adds a node type, with marks of its own. -/
def addType (st : Store) (t : NodeType) : Store × Nat :=
  let (entries, next) := Value.withMarksEntries t.configuration [] st.next
  let t := { t with configuration := entries, mark := next }
  ({ st with types := st.types.push t, next := next + marksOf t }, st.types.size)

def typeCaption (name : Value) : String :=
  "NodeType(" ++ name.quoted ++ ")"

def typeName (st : Store) (id : Nat) : Value :=
  ((st.type? id).map (·.name.value)).getD .none

/-- A node type as a value. -/
def typeValue (st : Store) (id : Nat) : Value :=
  .nodeType ⟨id, typeCaption (st.typeName id)⟩

def nodeCaption (path typeName : Value) : String :=
  "Node(" ++ path.quoted ++ ", type=" ++ typeName.quoted ++ ")"

/-- Adds a node, with marks of its own; the name of its type is looked up. -/
def addNode (st : Store) (n : Node) : Store × Nat :=
  let (st, identifier) := st.mark n.identifier
  let (st, path) := st.mark n.path
  let (entries, next) := Value.withMarksEntries n.properties [] st.next
  let n := ⟨identifier, path, n.type, st.typeName n.type, entries, next⟩
  ({ st with nodes := st.nodes.push n, next := next + 1 }, st.nodes.size)

def addNodes (st : Store) (nodes : List Node) : Store × List Nat :=
  let (st, ids) := nodes.foldl (fun (st, ids) n =>
    let (st, id) := addNode st n
    (st, id :: ids)) (st, [])
  (st, ids.reverse)

/-- A node as a value. -/
def nodeValue (st : Store) (id : Nat) : Value :=
  match st.node? id with
  | some n => .node ⟨id, nodeCaption n.path n.typeName⟩
  | none => .node ⟨id, ""⟩

/-- What the node holds now. -/
def propertiesOf (st : Store) (id : Nat) : Entries :=
  ((st.node? id).map (·.properties)).getD []

/-- What a collection has been changed to. -/
def changedTo? (st : Store) (mark : Nat) : Option Value :=
  st.changed.lookup mark

mutual
/-- A value with everything that has been changed in place as it is now. -/
def refresh (st : Store) : Value → Value
  | .list items mark => (st.changedTo? mark).getD (.list (refreshAll st items) mark)
  | .dict entries mark => (st.changedTo? mark).getD (.dict (refreshEntries st entries) mark)
  | .tuple items mark => .tuple (refreshAll st items) mark
  | .set items mark => .set (refreshAll st items) mark
  | .view kind entries owner mark =>
    match st.changedTo? owner with
    | some (.dict entries _) => .view kind entries owner mark
    | _ => .view kind (refreshEntries st entries) owner mark
  | .node ref => st.nodeValue ref.id
  | .method receiver name mark => .method (refresh st receiver) name mark
  | v => v

def refreshAll (st : Store) : List Value → List Value
  | [] => []
  | v :: vs => refresh st v :: refreshAll st vs

def refreshEntries (st : Store) : List (Value × Value) → List (Value × Value)
  | [] => []
  | (k, v) :: rest => (k, refresh st v) :: refreshEntries st rest
end

/-- The parts of a collection as they are now. -/
def refreshParts (st : Store) : Value → Value
  | .list items mark => .list (st.refreshAll items) mark
  | .dict entries mark => .dict (st.refreshEntries entries) mark
  | v => v

/-- A value as it is now; most of the time nothing has been changed. -/
def current (st : Store) (v : Value) : Value :=
  if st.altered then st.refresh v else v

/-- Entries of the dictionary with a mark as they are now. -/
def entriesNow (st : Store) (mark : Nat) (entries : Entries) : Entries :=
  match st.changedTo? mark with
  | some (.dict entries _) => entries
  | _ => st.refreshEntries entries

/-- Nodes and types with everything that has been changed in place. -/
def settle (st : Store) : Store :=
  { st with
    altered := true
    nodes := st.nodes.map fun n =>
      { n with
        identifier := st.refresh n.identifier
        path := st.refresh n.path
        properties := st.entriesNow n.mark n.properties }
    types := st.types.map fun t =>
      { t with configuration := st.entriesNow t.mark t.configuration } }

/-- Changes the collection with a mark in place. -/
def overwrite (st : Store) (mark : Nat) (v : Value) : Store :=
  let st := { st with changed := st.changed.put mark (st.refreshParts v) }
  let changed := st.changed.map fun (m, w) => (m, st.refreshParts w)
  settle { st with changed := changed }

/-- Changes the properties of a node in place. -/
def setProperties (st : Store) (id : Nat) (properties : Entries) : Store :=
  match st.node? id with
  | some n =>
    let (entries, next) := Value.withMarksEntries properties [] st.next
    overwrite { st with next := next } n.mark (.dict entries n.mark)
  | none => st

/-- Changes a node. -/
def changeNode (st : Store) (id : Nat) (change : Node → Node) : Store :=
  match st.node? id with
  | some n => settle { st with nodes := st.nodes.setIfInBounds id (change n) }
  | none => st

/-- Elements of a collection that are still to come; a dictionary must keep its size. -/
def restOf (st : Store) (rest : List Value) (source : Value) (taken : Nat) :
    Except Fault (List Value) :=
  let sized (before : Entries) (v : Value) : Except Fault (List Value) :=
    if ((v.listed?).getD []).length == before.length then .ok (((v.listed?).getD []).drop taken)
    else .error .changedSize
  match source, st.refresh source with
  | .list .., .list items _ => .ok (items.drop taken)
  | .dict entries _, now => sized entries now
  | .view _ entries _ _, now => sized entries now
  | _, _ => .ok rest

end Store

/-- A computation over the store; what it did to the store stays done when it fails. -/
abbrev Eval := ExceptT Error (StateM Store)

namespace Eval

def fault {α : Type} (f : Fault) : Eval α :=
  throw (.fault f)

def ofFault {α : Type} : Except Fault α → Eval α
  | .ok a => pure a
  | .error f => fault f

/-- A value with marks of its own. -/
def fresh (v : Value) : Eval Value := do
  if v.isUnmarked then
    let (st, v) := (← get).mark v
    set st
    return v
  else return v

/-- A value as it is now. -/
def current (v : Value) : Eval Value := do
  return (← get).current v

def newCursor (c : Cursor) : Eval Nat := do
  let (st, id) := (← get).addCursor c
  set st
  return id

def cursor (id : Nat) : Eval Cursor := do
  return (← get).cursors[id]?.getD .finished

def setCursor (id : Nat) (c : Cursor) : Eval Unit :=
  modify fun st => { st with cursors := st.cursors.setIfInBounds id c }

def newCell : Eval Nat := do
  let st ← get
  set { st with cells := st.cells.push none }
  return st.cells.size

def setCell (id : Nat) (v : Value) : Eval Unit :=
  modify fun st => { st with cells := st.cells.setIfInBounds id (some v) }

def cell (id : Nat) : Eval (Option Value) := do
  return (← get).cells[id]?.getD none

def note (level : LogLevel) (message : String) : Eval Unit :=
  modify fun st => st.note level message

end Eval

end ContentIndex
