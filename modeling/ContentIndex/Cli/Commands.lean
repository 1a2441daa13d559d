import ContentIndex.Cli.Arguments
import ContentIndex.Index.Staging
import ContentIndex.Loading.Nodes
import ContentIndex.Loading.Types

/-!
# Commands

A command prints a text and ends with an exit code. Errors of settings, definitions, expressions
and files are printed and end the command with code one; any other error leaves it.
-/

namespace ContentIndex.Cli

set_option autoImplicit false

structure Outcome where
  printed : String
  status : Except Error Nat
  store : Store

/-- Errors that a command prints. -/
def isPrinted : Error → Bool
  | .fault (.file f) => f.isRefusal
  | .fault _ => false
  | _ => true

def ended (printed : String) (st : Store) : Outcome :=
  ⟨printed, .ok 0, st⟩

/-- Ends a command by an error, after what it printed; `report` is the text for the error. -/
def failed (printed : String) (report : String → String) (e : Error) (st : Store) : Outcome :=
  if isPrinted e then ⟨printed ++ report e.message, .ok 1, st⟩
  else ⟨printed, .error e, st⟩

/-- A part of a content export, an empty one unless it is given. -/
def part (content : Entries) (name : String) (empty : Value) : Value :=
  match Entries.findText? content name with
  | some v => if v.truth then v else empty
  | none => empty

/-- Loads the node types and nodes of a content export. -/
def loadContent (path : FilePath) : Eval (Registry × List Nat) := do
  match JsonFile.read (← get).files path with
  | .error e => throw e
  | .ok content =>
    let content ← Eval.fresh content
    match content.entries? with
    | none => Eval.fault (.noAttribute content.typeName "get")
    | some entries =>
      let (registry, _) ← Loading.loadTypes [] (part entries "nodeTypes" (.dict [] 0))
      let nodes ← Loading.loadNodes registry (some path.parent) (part entries "nodes" (.list [] 0))
      return (registry, nodes)

structure IndexOptions where
  content : String
  settings : PathChoice
  output : Option String
  workspace : Option String
  strict : Bool

def indexAll (s : Index.Setup) (workspace : Option String) : List Nat → Index.Work Unit
  | [] => pure ()
  | node :: rest => do
    Index.indexNode s node workspace
    indexAll s workspace rest

def indexingMessage (count : Nat) (content : String) : String :=
  "Indexing " ++ Index.counted count ++ " nodes from: " ++ content

def lift {α : Type} (action : Eval α) : Index.Work α :=
  Index.liftExtract (Index.lift action)

def loadSettings (choice : PathChoice) (environment : Option String) : Eval Settings :=
  match choice with
  | .absent => Settings.load none environment
  | .path text => Settings.load (some text) environment
  | .nothing => Eval.fault (.wrongType "expected a path, not nothing")

def indexContent (o : IndexOptions) (environment : Option String) : Index.Work Unit := do
  let settings ← lift (loadSettings o.settings environment)
  let (_, nodes) ← lift (loadContent (FilePath.ofText o.content))
  let setup : Index.Setup :=
    ⟨settings, Index.RuleEvaluator.standard, if o.strict then .warn else .ignore⟩
  lift (Eval.note .info (indexingMessage nodes.length o.content))
  indexAll setup o.workspace nodes
  let _ ← Index.flush

/-- What is printed of a document, as it is now. -/
def documentValue (st : Store) (d : Index.Document) : Value :=
  .dict [(.str "properties", .dict (st.refreshEntries d.properties) 0),
    (.str "fulltext", .dict (st.refreshEntries d.fulltext) 0)] 0

/-- Documents by identifier. -/
def documentsValue (st : Store) (documents : Index.Documents) : Value :=
  .dict (documents.foldl (fun d e => Entries.insert d e.2.identifier (documentValue st e.2)) []) 0

def resultCount : Value → Nat
  | .dict entries _ => entries.length
  | _ => 0

def indexFailed (message : String) : String :=
  "\n❌ Indexing failed!\n   Error: " ++ message ++ "\n"

def writtenReport (count : Nat) (path : FilePath) : String :=
  "\n✅ Indexed " ++ Index.counted count ++ " nodes\n   Path: " ++ path.text ++ "\n"

def printDocuments (o : IndexOptions) (result : Value) (st : Store) : Outcome :=
  match o.output.filter (!·.isEmpty) with
  | some output =>
    let path := FilePath.ofText output
    match JsonFile.write st.files path Json.pretty result with
    | .error f => ⟨"", .error (.fault f), st⟩
    | .ok files => ended (writtenReport (resultCount result) path) { st with files := files }
  | none =>
    match JsonFile.text Json.pretty result with
    | .error f => ⟨"", .error (.fault f), st⟩
    | .ok text => ended (text ++ "\n") st

def runIndex (o : IndexOptions) (environment : Option String) (st : Store) : Outcome :=
  match indexContent o environment (Index.Indexer.empty st) with
  | (.error e, x) => failed "" indexFailed e x.extraction.store
  | (.ok _, x) =>
    let st := x.extraction.store
    printDocuments o (documentsValue st x.documents) st

def typeText (t : NodeType) (names : List String) : String :=
  "  " ++ t.name.value.shown ++ (if t.isFulltextEnabled then " (fulltext)" else "") ++ "\n      " ++
    " > ".intercalate names ++ "\n"

/-- The listing of node types, as far as it comes. -/
def typesText (types : Array NodeType) (printed : String) : List Nat → String × Option Error
  | [] => (printed, none)
  | id :: rest =>
    match types[id]?, Hierarchy.flatten types id with
    | none, _ => typesText types printed rest
    | some _, .error names => (printed, some (Hierarchy.cycleError names))
    | some t, .ok names =>
      typesText types (printed ++ typeText t (names.map (·.value.shown))) rest

def typesHeader : String :=
  "\n📋 Node Types:\n" ++ String.ofList (List.replicate 50 '-') ++ "\n"

def typesFailed (message : String) : String :=
  "❌ Error reading node types: " ++ message ++ "\n"

/-- The type of the given name, or all types. -/
def selectTypes (registry : Registry) (name : Option String) : Except Error (List Nat) :=
  match name.filter (!·.isEmpty) with
  | some name => (registry.get (.str name)).map fun id => [id]
  | none => .ok (registry.map (·.2))

def runNodeTypes (content : String) (name : Option String) (st : Store) : Outcome :=
  match loadContent (FilePath.ofText content) st with
  | (.error e, st) => failed "" typesFailed e st
  | (.ok (registry, _), st) =>
    match selectTypes registry name with
    | .error e => failed "" typesFailed e st
    | .ok ids =>
      match typesText st.types typesHeader ids with
      | (printed, none) => ended printed st
      | (printed, some e) => failed printed typesFailed e st

def runPrefixes (path : String) (st : Store) : Outcome :=
  ended (String.join ((NodePath.prefixes path.toList).map fun p => String.ofList p ++ "\n")) st

def htmlText (markup : String) : String :=
  let buckets : Value := .dict (Indexing.bucketEntries (Indexing.textBuckets markup)) 0
  match JsonFile.text Json.pretty buckets with
  | .ok text => text ++ "\n"
  | .error _ => ""

/-- Reads a file, or with a dash the given input. -/
def runHtml (file input : String) (st : Store) : Outcome :=
  if file == "-" then
    ended (htmlText (String.ofList (Text.unifyLineEnds input.toList))) st
  else
    let path := FilePath.ofText file
    if !st.files.exists? path then ⟨"❌ File not found: " ++ path.text ++ "\n", .ok 1, st⟩
    else
      match st.files.readText path with
      | .ok markup => ended (htmlText markup) st
      | .error f => ⟨"", .error (.fault (.file f)), st⟩

def Command.run (command : Command) (environment : Option String) (input : String) (st : Store) :
    Outcome :=
  match command with
  | .index content settings output workspace strict =>
    runIndex ⟨content, settings, output, workspace, strict⟩ environment st
  | .nodeTypes content name => runNodeTypes content name st
  | .prefixes path => runPrefixes path st
  | .html file => runHtml file input st

def Refusal.outcome (r : Refusal) (st : Store) : Outcome :=
  match r with
  | .usage => ⟨"", .ok 2, st⟩
  | .help => ⟨"", .ok 0, st⟩

/-- Carries out a command line; whether debug messages are shown comes with the outcome. -/
def run (argv : List String) (environment : Option String) (input : String) (st : Store) :
    Outcome × Bool :=
  match readArguments argv with
  | .error r => (r.outcome st, false)
  | .ok invocation => (invocation.command.run environment input st, invocation.verbose)

/-- Messages that are shown: debug messages only on request. -/
def shownLog (verbose : Bool) (log : List LogRecord) : List LogRecord :=
  log.filter fun r => verbose || r.level != .debug

end ContentIndex.Cli
