import ContentIndex.Value.Basic

/-!
# What settings may name

The modules of the library under their dotted names, and what each of them offers: functions,
types and constants. A package also offers the modules inside it.
-/

namespace ContentIndex.Catalogue

set_option autoImplicit false

structure Entry where
  name : String
  isPackage : Bool
  exports : List (String × Value)

def home (part : String) : String :=
  if part.isEmpty then "contentsearch" else "contentsearch." ++ part

/-- Types with the module that defines them; the last part says whether one can be made without
arguments. -/
def types : List LibraryType :=
  [("Node", "repository.base", .plain, false),
    ("NodeType", "repository.base", .plain, false),
    ("PropertyConfiguration", "repository.base", .plain, false),
    ("Asset", "repository.base", .abstract, false),
    ("FileAsset", "repository.base", .abstract, false),
    ("BytesAsset", "repository.base", .abstract, false),
    ("NodeTypeRegistry", "repository.registry", .plain, true),
    ("NodeIndexer", "indexer.base", .abstract, false),
    ("AbstractNodeIndexer", "indexer.base", .abstract, false),
    ("InMemoryNodeIndexer", "indexer.memory", .abstract, true),
    ("IndexDocument", "indexer.memory", .plain, false),
    ("DefaultContextVariables", "eel.evaluator", .plain, false),
    ("ExpressionEvaluator", "eel.evaluator", .abstract, false),
    ("PythonExpressionEvaluator", "eel.evaluator", .abstract, true),
    ("IndexingHelper", "eel.indexing_helper", .plain, true),
    ("SearchSettings", "settings", .model, true),
    ("TypeDefaultConfiguration", "settings", .model, true),
    ("ContentSearchError", "utils", .plain, true),
    ("ConfigurationError", "utils", .plain, true),
    ("ExpressionError", "utils", .plain, false),
    ("NodeTypeCycleError", "utils", .plain, false),
    ("IndexingError", "utils", .plain, false),
    ("InvalidFulltextExpression", "utils", .plain, false),
    ("UnsupportedAssetType", "utils", .plain, false)].map fun (name, part, kind, makes) =>
      ⟨name, home part, kind, makes⟩

def typeExports (names : List String) : List (String × Value) :=
  (types.filter fun t => names.contains t.name).map fun t => (t.name, .typeObject t)

def functionExports (functions : List LibraryFunction) : List (String × Value) :=
  functions.map fun f => (f.name, .function f)

def moduleExports (part : String) (names : List String) : List (String × Value) :=
  names.map fun name => (name, .module (home (if part.isEmpty then name else part ++ "." ++ name)))

def objectExports (exports : List (String × String)) : List (String × Value) :=
  exports.map fun (name, typeName) => (name, .object typeName 0)

def helperFunctions : List LibraryFunction :=
  [.pathPrefixes, .typeNames, .nodeIdentifiers, .nodeProperty, .stripTags, .htmlTags, .intoBucket,
    .encodeAsset]

def errorTypes : List String :=
  ["ContentSearchError", "ConfigurationError", "ExpressionError", "NodeTypeCycleError",
    "IndexingError", "InvalidFulltextExpression", "UnsupportedAssetType"]

def evaluatorTypes : List String :=
  ["DefaultContextVariables", "ExpressionEvaluator", "PythonExpressionEvaluator"]

def repositoryTypes : List String :=
  ["Node", "NodeType", "PropertyConfiguration", "Asset", "FileAsset", "BytesAsset"]

def headingTags : Value :=
  .tuple (["h1", "h2", "h3", "h4", "h5", "h6"].map .str) 0

def helperPath : String :=
  home "eel.indexing_helper" ++ ":IndexingHelper"

/-- Variables that every expression has unless settings replace them, with the paths of what they
stand for. -/
def standardContext : List (String × String) :=
  [("Indexing", helperPath)]

/-- Rules for the properties of a type that have none of their own. -/
def standardRules : List (String × String) :=
  [("string", "$\x7bvalue\x7d"), ("boolean", "$\x7bvalue\x7d"), ("integer", "$\x7bvalue\x7d"),
    ("float", "$\x7bvalue\x7d"),
    ("DateTime", "$\x7bvalue.isoformat() if value is not None else None\x7d")]

def ofPairs (pairs : List (String × String)) : Value :=
  .dict (pairs.map fun (k, v) => (.str k, .str v)) 0

/-- The same rules as settings write them. -/
def standardTypeDefaults : Entries :=
  standardRules.map fun (name, rule) => (.str name, ofPairs [("indexing", rule)])

def settingsVariable : String := "CONTENTSEARCH_SETTINGS"

def assetMarker : String := "__asset"

def standardWorkspace : String := "live"

def logger : List (String × Value) :=
  objectExports [("logger", "Logger")]

def entries : List Entry :=
  [⟨home "", true,
      typeExports (repositoryTypes.filter (· != "PropertyConfiguration") ++ evaluatorTypes ++
        errorTypes ++ ["NodeTypeRegistry", "NodeIndexer", "AbstractNodeIndexer",
          "InMemoryNodeIndexer", "IndexDocument", "IndexingHelper", "SearchSettings"]) ++
      functionExports [.pathPrefixes, .htmlTags, .typeNames, .encodeAsset,
        .other "load_settings"] ++
      moduleExports "" ["eel", "indexer", "repository", "settings", "utils", "cli"]⟩,
    ⟨home "utils", false,
      typeExports errorTypes ++
      functionExports [.getPath, .mergeDicts, .other "read_json", .other "write_json"] ++
      objectExports [("PathLike", "_UnionGenericAlias")] ++ logger⟩,
    ⟨home "settings", false,
      typeExports ["SearchSettings", "TypeDefaultConfiguration", "ConfigurationError"] ++
      functionExports [.other "load_settings", .other "read_json"] ++
      [("SETTINGS_ENV_VAR", .str settingsVariable), ("DEFAULT_CONTEXT", ofPairs standardContext),
        ("DEFAULT_CONFIGURATION_PER_TYPE", .dict standardTypeDefaults 0)] ++
      objectExports [("PathLike", "_UnionGenericAlias")] ++ logger⟩,
    ⟨home "eel", true,
      typeExports ("IndexingHelper" :: evaluatorTypes) ++
      functionExports (helperFunctions ++ [.unwrap, .other "resolve_import_path"]) ++
      moduleExports "eel" ["evaluator", "indexing_helper"]⟩,
    ⟨home "eel.evaluator", false,
      typeExports (evaluatorTypes ++
        ["ConfigurationError", "ContentSearchError", "ExpressionError"]) ++
      functionExports [.unwrap, .other "resolve_import_path"] ++
      [("SAFE_BUILTINS", .dict (Builtin.every.map fun b => (.str b.name, .builtin b)) 0)] ++
      logger⟩,
    ⟨home "eel.indexing_helper", false,
      typeExports ["IndexingHelper", "Asset", "NodeTypeCycleError", "UnsupportedAssetType"] ++
      functionExports helperFunctions ++ [("HEADING_TAGS", headingTags)] ++ logger⟩,
    ⟨home "repository", true,
      typeExports ("NodeTypeRegistry" :: repositoryTypes) ++
      moduleExports "repository" ["base", "registry"]⟩,
    ⟨home "repository.base", false,
      typeExports repositoryTypes ++ functionExports [.getPath]⟩,
    ⟨home "repository.registry", false,
      typeExports ["NodeTypeRegistry", "FileAsset", "Node", "NodeType", "ConfigurationError",
        "NodeTypeCycleError"] ++
      functionExports [.mergeDicts] ++ [("ASSET_MARKER", .str assetMarker)] ++ logger⟩,
    ⟨home "indexer", true,
      typeExports ["NodeIndexer", "AbstractNodeIndexer", "InMemoryNodeIndexer",
        "IndexDocument"] ++
      functionExports [.logUnindexed] ++ [("DEFAULT_WORKSPACE", .str standardWorkspace)] ++
      objectExports [("UnindexedPropertyHandler", "_CallableGenericAlias")] ++
      moduleExports "indexer" ["base", "memory"]⟩,
    ⟨home "indexer.base", false,
      typeExports (evaluatorTypes ++ ["NodeIndexer", "AbstractNodeIndexer", "Node",
        "SearchSettings", "InvalidFulltextExpression"]) ++
      functionExports [.logUnindexed] ++
      objectExports [("UnindexedPropertyHandler", "_CallableGenericAlias")] ++ logger⟩,
    ⟨home "indexer.memory", false,
      typeExports ["IndexDocument", "InMemoryNodeIndexer", "AbstractNodeIndexer",
        "ExpressionEvaluator", "Node", "SearchSettings"] ++
      functionExports [.pathPrefixes, .typeNames] ++
      [("DEFAULT_WORKSPACE", .str standardWorkspace)] ++
      objectExports [("UnindexedPropertyHandler", "_CallableGenericAlias")] ++ logger⟩,
    ⟨home "cli", false,
      functionExports (["cmd_index", "cmd_nodetypes", "cmd_prefixes", "cmd_html", "main"].map
        .other) ++ logger⟩]

def find? (name : String) : Option Entry :=
  entries.find? (·.name == name)

end ContentIndex.Catalogue
