import ContentIndex.Context
import ContentIndex.Node
import ContentIndex.Settings

/-!
# Extraction

The properties of a node, in the order its type declares them, are stored as its rules say: a
property's own rule comes before the default of its type, and the empty rule stores nothing. A
property with no rule at all is reported. Where the type has fulltext enabled, each extractor adds
to the buckets, whether or not its property is stored. The first failure ends the extraction; what
was added to the buckets before it stays.
-/

namespace ContentIndex.Index

set_option autoImplicit false

/-- A rule and the variables it was given to an evaluator with. -/
structure RuleCall where
  rule : Value
  bindings : Context.Variables

abbrev RuleEvaluator := Value → Context.Variables → Eval Value

namespace RuleEvaluator

/-- Rules are expressions; only a text is one. -/
def standard : RuleEvaluator := fun rule bindings =>
  match rule with
  | .str text => evaluate Builtin.every text bindings
  | v => Eval.fault (.wrongType ("an expression must be a text, not " ++ v.typeName))

/-- Looks results up; a rule that is not in the table is its own result. -/
def ofTable (results : Entries) : RuleEvaluator := fun rule _ =>
  match rule.key? with
  | some key => return (Entries.find? results key).getD rule
  | none => Eval.fault (.wrongType ("unhashable type: '" ++ rule.typeName ++ "'"))

end RuleEvaluator

/-- What to do about a property without a rule. -/
inductive Unindexed where
  | ignore
  | collect
  | warn
  deriving DecidableEq, Repr

structure Setup where
  settings : Settings
  evaluator : RuleEvaluator
  unindexed : Unindexed

/-- The state of an extraction: variables of every expression once they are built, the rules
evaluated, the properties reported, and the fulltext buckets of the node at hand. -/
structure Extraction where
  store : Store
  bindings : Option Context.Variables
  calls : List RuleCall
  reported : List Value
  buckets : Entries

abbrev Extract := ExceptT Error (StateM Extraction)

/-- A step on the store. It starts with an empty log, so that nothing can depend on what has been
noted before; what it notes is added to the log. -/
def lift {α : Type} (action : Eval α) : Extract α := fun x =>
  let (result, store) := action { x.store with log := [] }
  (result, { x with store := { store with log := x.store.log ++ store.log } })

def liftFault {α : Type} : Except Fault α → Extract α
  | .ok a => pure a
  | .error f => throw (.fault f)

/-- The variables that a rule sees: those of every expression, under those of the property. -/
def ruleVariables (common : Context.Variables) (node name value : Value) : Context.Variables :=
  let common : Table String Value := common
  ((common.put "node" node).put "propertyName" name).put "value" value

def commonVariables (s : Setup) : Extract Context.Variables := do
  let bindings ← lift (Context.get s.settings.context (← get).bindings)
  modify fun x => { x with bindings := some bindings }
  return bindings

def evaluateRule (s : Setup) (node : Nat) (name rule value : Value) : Extract Value := do
  let common ← commonVariables s
  let bindings := ruleVariables common ((← get).store.nodeValue node) name value
  modify fun x => { x with calls := x.calls ++ [⟨rule, bindings⟩] }
  lift (s.evaluator rule bindings)

/-- The text that a bucket gets for a value. -/
def bucketText (st : Store) : Value → Except Fault String
  | .none => .ok ""
  | v => (st.current v).written

/-- What stands in a bucket after a text has been added to it. -/
def extended (current : Value) (text : String) : Except Fault Value :=
  match current with
  | .str s => .ok (.str (s ++ text))
  | .list items mark => .ok (.list (items ++ text.toList.map fun c => .chars [c]) mark)
  | v => .error (.wrongType ("cannot add a text to " ++ v.typeName))

/-- Buckets of which one is there, empty unless it was there before. -/
def withBucket (buckets : Entries) (bucket : Value) : Entries :=
  match (bucket.key?).bind (Entries.find? buckets) with
  | some _ => buckets
  | none => Entries.insert buckets bucket (.str "")

/-- Adds a text to a bucket, one space before it. -/
def addToBucket (buckets : Entries) (bucket : Value) (text : String) : Except Fault Entries := do
  let current := ((bucket.key?).bind (Entries.find? buckets)).getD (.str "")
  return Entries.insert buckets bucket (← extended current (" " ++ text))

def addToBuckets : Entries → Extract Unit
  | [] => pure ()
  | (bucket, v) :: rest => do
    modify fun x => { x with buckets := withBucket x.buckets bucket }
    let x ← get
    let buckets ← liftFault do addToBucket x.buckets bucket (← bucketText x.store v)
    set { x with buckets := buckets }
    addToBuckets rest

def isEmptyRule : Value → Bool
  | .str s => s.isEmpty
  | _ => false

/-- The value of a property of a node, null unless it is set. -/
def heldValue (st : Store) (id : Nat) (name : Value) : Value :=
  ((name.key?).bind (Entries.find? (st.propertiesOf id))).getD .none

def pathOf (st : Store) (id : Nat) : Value :=
  ((st.node? id).map (·.path)).getD .none

/-- Evaluates a rule for a property as the node has it now. -/
def evaluateFor (s : Setup) (id : Nat) (name rule : Value) : Extract Value := do
  evaluateRule s id name rule (heldValue (← get).store id name)

def addFulltext (s : Setup) (id : Nat) (name extractor : Value) : Extract Unit := do
  if isEmptyRule extractor then return ()
  let result ← evaluateFor s id name extractor
  match result.entries? with
  | some entries => addToBuckets entries
  | none => throw (.invalidFulltext name (pathOf (← get).store id) extractor)

/-- A property's own rule, or else the default of its type. -/
def effectiveRule (settings : Settings) (rule : Rule) : Except Fault Value :=
  match rule.indexing with
  | .none =>
    (settings.ruleFor rule.type).map fun default => (default.map Value.str).getD .none
  | own => .ok own

def unindexedNote (path name : Value) : String :=
  path.shown ++ ": no indexing rule for " ++ name.shown

def report (s : Setup) (id : Nat) (name : Value) : Extract Unit := do
  lift (Eval.note .debug (unindexedNote (pathOf (← get).store id) name))
  match s.unindexed with
  | .ignore => return ()
  | .collect => modify fun x => { x with reported := x.reported ++ [name] }
  | .warn => lift (Eval.note .warning (Indexing.unindexedMessage name))

/-- The entry of a property among those to store, if it has one. -/
def storedEntry (s : Setup) (id : Nat) (name : Value) (rule : Rule) :
    Extract (Option (Value × Value)) := do
  let effective ← liftFault (effectiveRule s.settings rule)
  match effective with
  | .none =>
    report s id name
    return none
  | rule =>
    if isEmptyRule rule then return none
    else return some (name, ← evaluateFor s id name rule)

def extractProperty (s : Setup) (id : Nat) (fulltext : Bool) (name : Value) (rule : Rule) :
    Extract (Option (Value × Value)) := do
  let entry ← storedEntry s id name rule
  if fulltext then
    match rule.extractor with
    | .none => pure ()
    | extractor => addFulltext s id name extractor
  return entry

def extractAll (s : Setup) (id : Nat) (fulltext : Bool) :
    List (Value × Rule) → Extract Entries
  | [] => pure []
  | (name, rule) :: rest => do
    let entry ← extractProperty s id fulltext name rule
    let entries ← extractAll s id fulltext rest
    return entry.toList ++ entries

/-- The entries to store for a node. -/
def extract (s : Setup) (id : Nat) : Extract Entries := do
  let st := (← get).store
  match st.node? id with
  | none => return []
  | some n =>
    match st.type? n.type with
    | none => return []
    | some t => extractAll s id t.isFulltextEnabled t.properties

end ContentIndex.Index
