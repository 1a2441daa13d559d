import ContentIndex.Catalogue
import ContentIndex.JsonFile
import ContentIndex.Store
import ContentIndex.Table

/-!
# Settings

Variables of every expression, and for each type of property its defaults. What settings give is
laid over the shipped defaults, entry by entry; every problem of the given data is listed with the
keys that lead to it.
-/

namespace ContentIndex

set_option autoImplicit false

structure TypeDefaults where
  indexing : Option String
  extra : Entries
  deriving Inhabited

structure Settings where
  context : Table String String
  types : Table String TypeDefaults
  deriving Inhabited

namespace Settings

/-- The keys that lead to a problem, and its kind. -/
abbrev Problem := List Value × String

def standard : Settings :=
  ⟨Catalogue.standardContext, Catalogue.standardRules.map fun (t, rule) => (t, ⟨some rule, []⟩)⟩

/-- The default rule for a type of properties; the empty rule is one. -/
def ruleFor (s : Settings) (type : Value) : Except Fault (Option String) :=
  match type with
  | .none => .ok none
  | .str t => .ok ((s.types.lookup t).bind (·.indexing))
  | v =>
    match v.key? with
    | some _ => .ok none
    | none => .error (.wrongType ("unhashable type: '" ++ v.typeName ++ "'"))

/-- A text, or a sequence of bytes that encodes one. -/
def textOf (v : Value) : Except String String :=
  match v with
  | .str s => .ok s
  | .bytes b =>
    match String.fromUTF8? ⟨b.toArray⟩ with
    | some s => .ok s
    | none => .error "string_unicode"
  | _ => .error "string_type"

/-- How a key stands in the list of keys that lead to a problem. -/
def step (key : Value) : Value :=
  match key with
  | .str s => .str s
  | .int n => if -9223372036854775808 ≤ n ∧ n ≤ 9223372036854775807 then .int n else .str key.quoted
  | .bool b => .int (if b then 1 else 0)
  | _ => .str key.quoted

/-- Results and problems of the entries of a dictionary with texts as keys. -/
def readEntries {α : Type} (read : List Value → Value → Except (List Problem) α)
    (loc : List Value) : Entries → List (String × α) × List Problem
  | [] => ([], [])
  | (k, v) :: rest =>
    let (results, problems) := readEntries read loc rest
    let here := loc ++ [step k]
    match textOf k, read here v with
    | .ok key, .ok a => ((key, a) :: results, problems)
    | .ok _, .error ps => (results, ps ++ problems)
    | .error kind, .ok _ => (results, (here ++ [.str "[key]"], kind) :: problems)
    | .error kind, .error ps => (results, (here ++ [.str "[key]"], kind) :: ps ++ problems)

def readDict {α : Type} (read : List Value → Value → Except (List Problem) α)
    (loc : List Value) (v : Value) : Except (List Problem) (List (String × α)) :=
  match v.entries? with
  | none => .error [(loc, "dict_type")]
  | some entries =>
    match readEntries read loc entries with
    | (results, []) => .ok (Table.ofList results)
    | (_, problems) => .error problems

def readText (loc : List Value) (v : Value) : Except (List Problem) String :=
  match textOf v with
  | .ok s => .ok s
  | .error kind => .error [(loc, kind)]

def readRule (loc : List Value) : Option Value → Except (List Problem) (Option String)
  | none => .ok none
  | some .none => .ok none
  | some v => (readText loc v).map some

def keyProblems (loc : List Value) (entries : Entries) : List Problem :=
  entries.filterMap fun (k, _) =>
    match k with
    | .str _ => none
    | _ => some (loc ++ [step k], "invalid_key")

def readTypeDefaults (loc : List Value) (v : Value) : Except (List Problem) TypeDefaults :=
  match v.entries? with
  | none => .error [(loc, "model_type")]
  | some entries =>
    let extra := Entries.eraseText entries "indexing"
    match readRule (loc ++ [.str "indexing"]) (Entries.findText? entries "indexing"),
      keyProblems loc extra with
    | .ok rule, [] => .ok ⟨rule, extra⟩
    | .ok _, problems => .error problems
    | .error ps, problems => .error (ps ++ problems)

/-- A section laid over its default; anything but null and a dictionary stays as it is. -/
def overlaid (default : Entries) (v : Value) : Value :=
  match v with
  | .none => .dict default 0
  | _ =>
    match v.entries? with
    | some entries => .dict (entries.foldl (fun d (k, w) => Entries.insert d k w) default) 0
    | none => v

/-- A section under one of its two names, the first of them counting before the second. -/
def sectionOf (data : Entries) (first second : String) : Option (String × Value) :=
  match Entries.findText? data first with
  | some v => some (first, v)
  | none => (Entries.findText? data second).map fun v => (second, v)

def readSection {α : Type} (data : Entries) (names : String × String) (default : Entries)
    (read : List Value → Value → Except (List Problem) α) :
    Except (List Problem) (List (String × α)) :=
  match sectionOf data names.1 names.2 with
  | none => readDict read [.str names.1] (.dict default 0)
  | some (name, v) => readDict read [.str name] (overlaid default v)

def contextNames : String × String := ("defaultContext", "default_context")

def typeNames : String × String :=
  ("defaultConfigurationPerType", "default_configuration_per_type")

def ofEntries (data : Entries) : Except (List Problem) Settings :=
  let context := readSection data contextNames
    (Catalogue.standardContext.map fun (k, v) => (.str k, .str v)) readText
  let types := readSection data typeNames Catalogue.standardTypeDefaults readTypeDefaults
  match context, types with
  | .ok context, .ok types => .ok ⟨context, types⟩
  | .error ps, .ok _ => .error ps
  | .ok _, .error ps => .error ps
  | .error ps, .error qs => .error (ps ++ qs)

def ofValue (data : Value) : Except (List Problem) Settings :=
  match data.entries? with
  | some entries => ofEntries entries
  | none => .error [([], "model_type")]

/-- Settings of a document, which must be an object. -/
def ofDocument (path : FilePath) (data : Value) : Except Error Settings :=
  match data.entries? with
  | none => .error (.configuration (.settingsNotObject path.text))
  | some entries =>
    match ofEntries entries with
    | .ok s => .ok s
    | .error ps => .error (.configuration (.invalidSettings path.text ps))

/-- Settings of the named file, or else of the one that the environment names, or else the shipped
ones. -/
def load (path environment : Option String) : Eval Settings := do
  match path.orElse fun _ => environment.filter (!·.isEmpty) with
  | none =>
    Eval.note .debug "No settings file given, using defaults"
    return standard
  | some path =>
    let path := FilePath.ofText path
    match (JsonFile.read (← get).files path).bind (ofDocument path) with
    | .error e => throw e
    | .ok settings =>
      Eval.note .debug ("Loaded settings from " ++ path.text)
      return settings

end Settings

end ContentIndex
