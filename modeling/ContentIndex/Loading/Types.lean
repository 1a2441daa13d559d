import ContentIndex.Evaluator
import ContentIndex.Hierarchy
import ContentIndex.Node
import ContentIndex.Registry

/-!
# Loading node types

A batch of definitions is made into types, supertypes first: those of the batch, whatever their
order in it, and otherwise the registered ones. A type holds the configurations of its supertypes
merged in their order, with its own definition on top; whether it is abstract is its own word
only. The registry changes only when the whole batch could be made.
-/

namespace ContentIndex.Loading

set_option autoImplicit false

/-- A definition under its name. -/
structure Definition where
  name : Name
  entries : Entries

/-- Definitions by name, in order. -/
abbrev Batch := Table Key Definition

/-- The types so far, and those of the batch among them in the order of their making. -/
structure Progress where
  types : Array NodeType
  made : List (Name × Nat)

/-- A lazy sequence becomes the list of its elements. -/
def listedValue (v : Value) : Eval Value := do
  if v.listed?.isNone && Eval.isIterable v then
    return .list (← Eval.collect Eval.standard v) 0
  else return v

/-- The entries of a definition; nothing at all stands for no entries. -/
def definitionOf (v : Value) : Eval Entries := do
  if !v.truth then return []
  else
    let entries ← Eval.dictOf Eval.standard v
    match Entries.findText? entries "superTypes" with
    | some supers => return Entries.insertText entries "superTypes" (← listedValue supers)
    | none => return entries

def definitionsOf : Entries → Eval Batch
  | [] => pure []
  | (name, v) :: rest => do
    let entries ← definitionOf v
    let others ← definitionsOf rest
    match Name.ofValue? name with
    | some name => return (name.key, ⟨name, entries⟩) :: others
    | none => return others

def batchOf (definitions : Value) : Eval Batch :=
  match definitions.entries? with
  | none => Eval.fault (.noAttribute definitions.typeName "items")
  | some entries => definitionsOf entries

/-- Names of the supertypes of a definition: a list, a single name, or the names that a dictionary
does not switch off. -/
def superNames (definition : Entries) : Except Fault (List Value) :=
  match Entries.findText? definition "superTypes" with
  | none => .ok []
  | some v =>
    if !v.truth then .ok []
    else
      match v, v.entries? with
      | _, some entries => .ok ((entries.filter (·.2.truth)).map (·.1))
      | .str s, none => .ok [.str s]
      | v, none =>
        match v.listed? with
        | some items => .ok items
        | none => .error (.wrongType ("'" ++ v.typeName ++ "' object is not iterable"))

def configurationOf (types : Array NodeType) (id : Nat) : Entries :=
  (types[id]?.map (·.configuration)).getD []

/-- Configurations of supertypes, the later ones over the earlier ones. -/
def inherited (types : Array NodeType) (supers : List Nat) : Entries :=
  supers.foldl (fun merged id => Value.mergeEntries merged (configurationOf types id)) []

/-- What a definition adds of its own. -/
def ownPart (definition : Entries) : Entries :=
  Entries.eraseText definition "superTypes"

def isAbstract (own : Entries) : Bool :=
  ((Entries.findText? own "abstract").map Value.truth).getD false

def configuration (types : Array NodeType) (supers : List Nat) (definition : Entries) : Entries :=
  let own := ownPart definition
  Entries.insertText (Value.mergeEntries (inherited types supers) own) "abstract"
    (.bool (isAbstract own))

/-- Adds the type of a definition whose supertypes are there. -/
def Progress.add (p : Progress) (name : Name) (definition : Entries) (supers : List Nat) :
    Except Error (Progress × Nat) :=
  match NodeType.make name supers (configuration p.types supers definition) with
  | .error f => .error (.fault f)
  | .ok t => .ok (⟨p.types.push t, p.made ++ [(name, p.types.size)]⟩, p.types.size)

/-- The type that has been made under a name. -/
def Progress.find? (p : Progress) (key : Key) : Option Nat :=
  (p.made.find? fun m => m.1.key == key).map (·.2)

/-- Number of definitions that are not being made. -/
def waiting (batch : Batch) (active : List Name) : Nat :=
  batch.countP fun d => !(Name.keys active).contains d.1

theorem waiting_cons_lt {batch : Batch} {active : List Name} {name : Name}
    {definition : Definition} (hb : batch.lookup name.key = some definition)
    (ha : name.key ∉ Name.keys active) : waiting batch (name :: active) < waiting batch active := by
  have hmem : (name.key, definition) ∈ batch := by
    induction batch with
    | nil => simp at hb
    | cons d rest ih =>
      obtain ⟨k, e⟩ := d
      cases h : name.key == k with
      | true =>
        simp only [List.lookup_cons, h, Option.some.injEq] at hb
        rw [eq_of_beq h, hb]
        exact List.mem_cons_self
      | false =>
        simp only [List.lookup_cons, h] at hb
        exact List.mem_cons_of_mem _ (ih hb)
  unfold waiting
  apply Hierarchy.countP_lt_countP hmem
  · simpa using ha
  · simp [Name.keys]
  · intro d hd
    simp only [Name.keys, List.map_cons, List.contains_eq_mem, List.mem_cons, Bool.not_eq_true',
      decide_eq_false_iff_not, not_or] at hd ⊢
    exact hd.2

def unhashableName (v : Value) : Error :=
  .fault (.wrongType ("unhashable type: '" ++ v.typeName ++ "'"))

/-- Most types of a batch that can be above each other. -/
def heightLimit : Nat := 494

mutual
/-- The type of a name, made if it is one of the batch; `active` are the names being made, the
innermost first. -/
def make (registry : Registry) (batch : Batch) (active : List Name) (p : Progress)
    (name : Value) : Except Error (Progress × Nat) :=
  match Name.ofValue? name with
  | none => .error (unhashableName name)
  | some n =>
    match p.find? n.key with
    | some id => .ok (p, id)
    | none =>
      match _h : batch.lookup n.key with
      | none => (registry.get name).map fun id => (p, id)
      | some definition =>
        if _ha : n.key ∈ Name.keys active then
          .error (Hierarchy.cycleError (Hierarchy.cycleAt active n))
        else if heightLimit ≤ active.length then .error (.fault .tooDeep)
        else
          match superNames definition.entries with
          | .error f => .error (.fault f)
          | .ok names =>
            match makeAll registry batch (n :: active) p names with
            | .error e => .error e
            | .ok (p, supers) => p.add n definition.entries supers
termination_by (waiting batch active, 0)
decreasing_by
  left
  exact waiting_cons_lt _h _ha

def makeAll (registry : Registry) (batch : Batch) (active : List Name) (p : Progress)
    (names : List Value) : Except Error (Progress × List Nat) :=
  match names with
  | [] => .ok (p, [])
  | name :: rest =>
    match make registry batch active p name with
    | .error e => .error e
    | .ok (p, id) =>
      match makeAll registry batch active p rest with
      | .error e => .error e
      | .ok (p, ids) => .ok (p, id :: ids)
termination_by (waiting batch active, names.length)
decreasing_by
  · right; simp
  · right; simp
end

/-- Makes the whole batch. -/
def makeBatch (types : Array NodeType) (registry : Registry) (batch : Batch) :
    Except Error Progress :=
  (makeAll registry batch [] ⟨types, []⟩ (batch.map fun d => d.2.name.value)).map (·.1)

def loadedMessage (p : Progress) : String :=
  "Loaded " ++ String.ofList (Text.natDigits p.made.length) ++ " node types"

def typeMessages (registry : Registry) (p : Progress) : List LogRecord :=
  (p.made.filter fun t => registry.has t.1.key).map
      (fun t => ⟨.debug, Registry.replacedMessage t.1.value⟩) ++
    [⟨.info, loadedMessage p⟩]

/-- A store with more node types. -/
def withTypes (st : Store) (types : List NodeType) : Store :=
  types.foldl (fun st t => (st.addType t).1) st

/-- Loads a batch into a registry; the types it made, supertypes before their subtypes. -/
def loadTypes (registry : Registry) (definitions : Value) : Eval (Registry × List Nat) := do
  let batch ← batchOf definitions
  let st ← get
  match makeBatch st.types registry batch with
  | .error e => throw e
  | .ok p =>
    let st := withTypes st (p.types.toList.drop st.types.size)
    set { st with log := st.log ++ typeMessages registry p }
    return (registry.registerAll p.made, p.made.map (·.2))

end ContentIndex.Loading
