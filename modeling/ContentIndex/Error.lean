import ContentIndex.Expr.Access
import ContentIndex.Files
import ContentIndex.Json.Parser
import ContentIndex.Value.Text

/-!
# Errors

Everything that can go wrong, by cause. A fault is a failed step of a computation; the other
errors concern settings, definitions, expressions and assets. `message` is the text that is shown.
-/

namespace ContentIndex

set_option autoImplicit false

inductive Fault where
  | divisionByZero (what : String)
  | noAttribute (typeName attr : String)
  | unbound (id : String)
  | unboundLocal (id : String)
  | outOfRange (typeName : String)
  | noKey (key : Value)
  | wrongType (what : String)
  | wrongValue (what : String)
  | tooLarge (what : String)
  | tooDeep
  | outOfMemory
  | changedSize
  | frozen
  | unknownEncoding (name : String)
  | undecodable
  | file (fault : FileFault)

namespace FileFault

def kind : FileFault → String
  | .missing _ => "FileNotFoundError"
  | .directory _ => "IsADirectoryError"
  | .notDirectory _ => "NotADirectoryError"
  | .exists _ => "FileExistsError"
  | .nullCharacter => "ValueError"
  | .notText => "UnicodeDecodeError"

def message : FileFault → String
  | .missing path => "[Errno 2] No such file or directory: " ++ quoteText path
  | .directory path => "[Errno 21] Is a directory: " ++ quoteText path
  | .notDirectory path => "[Errno 20] Not a directory: " ++ quoteText path
  | .exists path => "[Errno 17] File exists: " ++ quoteText path
  | .nullCharacter => "embedded null byte"
  | .notText => "invalid text"

/-- Whether the file system refused, rather than the text of a path or of a file. -/
def isRefusal : FileFault → Bool
  | .nullCharacter => false
  | .notText => false
  | _ => true

end FileFault

namespace Fault

/-- The word for the kind of fault. -/
def kind : Fault → String
  | .divisionByZero _ => "ZeroDivisionError"
  | .noAttribute .. => "AttributeError"
  | .unbound _ => "NameError"
  | .unboundLocal _ => "UnboundLocalError"
  | .outOfRange _ => "IndexError"
  | .noKey _ => "KeyError"
  | .wrongType _ => "TypeError"
  | .wrongValue _ => "ValueError"
  | .tooLarge _ => "OverflowError"
  | .tooDeep => "RecursionError"
  | .outOfMemory => "MemoryError"
  | .changedSize => "RuntimeError"
  | .frozen => "FrozenInstanceError"
  | .unknownEncoding _ => "LookupError"
  | .undecodable => "UnicodeDecodeError"
  | .file fault => fault.kind

def message : Fault → String
  | .divisionByZero what => what
  | .noAttribute typeName attr => "'" ++ typeName ++ "' object has no attribute '" ++ attr ++ "'"
  | .unbound id => "name '" ++ id ++ "' is not defined"
  | .unboundLocal id =>
    "cannot access local variable '" ++ id ++ "' where it is not associated with a value"
  | .outOfRange typeName => typeName ++ " index out of range"
  | .noKey key => key.quoted
  | .wrongType what => what
  | .wrongValue what => what
  | .tooLarge what => what
  | .tooDeep => "maximum recursion depth exceeded"
  | .outOfMemory => ""
  | .changedSize => "dictionary changed size during iteration"
  | .frozen => "cannot assign to field"
  | .unknownEncoding name => "unknown encoding: " ++ name
  | .undecodable => "invalid bytes"
  | .file fault => fault.message

end Fault

/-- Why a settings file, a definition or an import path cannot be used. -/
inductive ConfigurationProblem where
  | unknownType (name : Value)
  | missingField (field : String) (definition : Value)
  | settingsNotObject (path : String)
  | invalidSettings (path : String) (problems : List (List Value × String))
  | invalidImport (path : String)
  | noModule (path name : String)
  | noPackage (path name parent : String)
  | noExport (home attr : String)

inductive ExpressionProblem where
  | offender (o : Offender)
  | malformed
  | failed (fault : Fault)

inductive Error where
  | fault (f : Fault)
  | configuration (p : ConfigurationProblem)
  | cycle (names : List String)
  | unsupportedAsset (typeName : String)
  | invalidFulltext (property path extractor : Value)
  | expression (text : String) (p : ExpressionProblem)
  | json (f : Json.Fault)

def inQuotes (s : String) : String :=
  "\"" ++ s ++ "\""

namespace ConfigurationProblem

def problemText (p : List Value × String) : String :=
  ".".intercalate (p.1.map Value.shown) ++ ": " ++ p.2

def message : ConfigurationProblem → String
  | .unknownType name => "Node type " ++ inQuotes name.shown ++ " is not registered"
  | .missingField field definition =>
    "Node definition is missing " ++ quoteText field ++ ": " ++ definition.quoted
  | .settingsNotObject path => "Settings file " ++ path ++ " must contain a JSON object"
  | .invalidSettings path problems =>
    "Invalid settings in " ++ path ++ ": " ++ "; ".intercalate (problems.map problemText)
  | .invalidImport path => "Invalid import path " ++ inQuotes path
  | .noModule path name =>
    "Cannot import " ++ inQuotes path ++ ": No module named " ++ quoteText name
  | .noPackage path name parent =>
    "Cannot import " ++ inQuotes path ++ ": No module named " ++ quoteText name ++ "; " ++
      quoteText parent ++ " is not a package"
  | .noExport home attr => "Module " ++ inQuotes home ++ " has no attribute " ++ inQuotes attr

end ConfigurationProblem

def Offender.message (o : Offender) (expression : String) : String :=
  let what :=
    match o with
    | .access attr => "attribute " ++ inQuotes attr
    | .name id => "name " ++ inQuotes id
  "Access to " ++ what ++ " is not allowed in " ++ inQuotes expression

namespace Error

def message : Error → String
  | .fault f => f.message
  | .configuration p => p.message
  | .cycle names => "Node type supertype cycle detected: " ++ " -> ".intercalate names
  | .unsupportedAsset typeName =>
    "Value of type " ++ typeName ++ " could not be converted to asset binary."
  | .invalidFulltext property path extractor =>
    "The fulltext index for property " ++ inQuotes property.shown ++ " of node " ++
      inQuotes path.shown ++ " could not be retrieved; the expression " ++
      inQuotes extractor.shown ++ " is no valid fulltext extraction expression."
  | .expression text p =>
    match p with
    | .offender o => o.message text
    | .malformed => "Invalid expression " ++ inQuotes text ++ ": invalid syntax"
    | .failed f =>
      "Expression " ++ inQuotes text ++ " failed: " ++ f.kind ++ ": " ++ f.message
  | .json f => f.message

end Error

end ContentIndex
