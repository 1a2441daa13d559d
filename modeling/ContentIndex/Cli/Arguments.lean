import ContentIndex.Text.Digits
import ContentIndex.Text.Split

/-!
# Command lines

Options come before the command or after it, each with the options of its own. A long option may
be shortened as long as only one option begins that way; a value follows its option or is written
behind it. A negative number and anything with a blank is no option, and two dashes end the
options; as a value they stand for nothing.
-/

namespace ContentIndex.Cli

set_option autoImplicit false

inductive Flag where
  | help | verbose | settings | output | workspace | strict
  deriving DecidableEq, Repr

def Flag.takesValue : Flag → Bool
  | .settings | .output | .workspace => true
  | _ => false

/-- Why a command line is not carried out. -/
inductive Refusal where
  | usage
  | help
  deriving DecidableEq, Repr

abbrev Options := List (String × Flag)

def helpOptions : Options :=
  [("-h", .help), ("--help", .help)]

def mainOptions : Options :=
  helpOptions ++ [("-v", .verbose), ("--verbose", .verbose)]

def indexOptions : Options :=
  helpOptions ++ [("-s", .settings), ("--settings", .settings), ("-o", .output),
    ("--output", .output), ("-w", .workspace), ("--workspace", .workspace), ("--strict", .strict)]

/-- What an argument is: an option, perhaps with a value behind an equals sign, the letter of a flag
with what is written right behind it, a name that looks like an option, or a word. -/
inductive Mark where
  | option (flag : Flag) (value : Option String)
  | letter (flag : Flag) (behind : String)
  | unknown
  | word
  | separator
  deriving Repr

/-- A minus sign and decimal digits, perhaps with a point before the last ones. -/
def isNegativeNumber (s : List Char) : Bool :=
  let body := if s.getLast? == some '\n' then s.dropLast else s
  match body with
  | '-' :: rest =>
    let digit (c : Char) := (Text.decimalValue? c).isSome
    let fraction := rest.dropWhile digit
    match fraction with
    | [] => !rest.isEmpty
    | c :: places => c == '.' && !places.isEmpty && places.all digit
  | _ => false

/-- Splits a value off behind an equals sign. -/
def splitValue (arg : String) : String × Option String :=
  match Text.cut? ['='] arg.toList with
  | some (name, value) => (String.ofList name, some (String.ofList value))
  | none => (arg, none)

/-- Options that an argument may mean without being one literally. -/
def candidates (options : Options) (arg : String) : List Mark :=
  if arg.startsWith "--" then
    let (name, value) := splitValue arg
    (options.filter fun o => o.1.startsWith name).map fun o => .option o.2 value
  else
    let short := String.ofList (arg.toList.take 2)
    options.filterMap fun o =>
      if o.1 == short then
        some (.letter o.2 (String.ofList (arg.toList.drop 2)))
      else if o.1.startsWith arg then some (.option o.2 none)
      else none

def splitExact? (options : Options) (arg : String) : Option Mark :=
  match splitValue arg with
  | (name, some value) =>
    (options.lookup name).map fun flag => .option flag (some value)
  | _ => none

def markOf (options : Options) (arg : String) : Except Refusal Mark :=
  if !arg.startsWith "-" || arg == "-" then .ok .word
  else
    match options.lookup arg, splitExact? options arg, candidates options arg with
    | some flag, _, _ => .ok (.option flag none)
    | none, some mark, _ => .ok mark
    | none, none, [mark] => .ok mark
    | none, none, _ :: _ :: _ => .error .usage
    | none, none, [] =>
      if isNegativeNumber arg.toList || arg.toList.contains ' ' then .ok .word
      else .ok .unknown

abbrev Marked := Mark × String

def markAll (options : Options) : List String → Except Refusal (List Marked)
  | [] => .ok []
  | arg :: rest =>
    if arg == "--" then .ok ((.separator, arg) :: rest.map fun word => (.word, word))
    else
      match markOf options arg with
      | .error r => .error r
      | .ok mark => (markAll options rest).map fun marks => (mark, arg) :: marks

/-- A flag with its value, which is none for a flag that takes no value. -/
abbrev Setting := Flag × Option String

/-- Flags with their values; the last of them may still want its value. -/
structure Reading where
  flags : List Setting
  wanting : Option Flag

def Reading.asksHelp (r : Reading) : Bool :=
  r.flags.any (·.1 == .help)

def Reading.after (flag : Flag) (r : Reading) : Reading :=
  { r with flags := (flag, none) :: r.flags }

def separator : String := "--"

/-- A value written behind its flag; the separator is dropped. -/
def attached (value : String) : Option String :=
  if value == separator then none else some value

/-- Flags of one letter may be written together; the first that takes a value has the rest. -/
def readLetters (options : Options) (flag : Flag) : List Char → Except Refusal Reading
  | [] => .ok (if flag.takesValue then ⟨[], some flag⟩ else ⟨[(flag, none)], none⟩)
  | letter :: rest =>
    if flag.takesValue then .ok ⟨[(flag, attached (String.ofList (letter :: rest)))], none⟩
    else
      match options.lookup (String.ofList ['-', letter]) with
      | none => .error .usage
      | some next => (readLetters options next rest).map (Reading.after flag)

/-- A flag with the value behind its equals sign. What follows a single letter that takes no value
are more letters. -/
def readValue (options : Options) (single : Bool) (flag : Flag) (value : String) :
    Except Refusal Reading :=
  if flag.takesValue then .ok ⟨[(flag, attached value)], none⟩
  else if single && !value.isEmpty then readLetters options flag value.toList
  else .error .usage

/-- What a mark gives, unless it is a word; none for a name that is no option. -/
def Mark.read (options : Options) (single : Bool) : Mark → Except Refusal (Option Reading)
  | .option flag none => (readLetters options flag []).map some
  | .option flag (some value) => (readValue options single flag value).map some
  | .letter flag behind => (readLetters options flag behind.toList).map some
  | _ => .ok none

/-- Whether an argument starts with one dash only. -/
def isSingle (arg : String) : Bool :=
  arg.startsWith "-" && !arg.startsWith separator

/-- What a command line gave: flags, words in their places, and whether something was left over. -/
structure Given where
  flags : List Setting
  words : List String
  extra : Bool

/-- Where the words of a command go: still to come, directly following, or all placed. -/
inductive Stage where
  | waiting
  | following
  | placed
  | closed
  deriving DecidableEq, Repr

/-- The stage after a word, and whether the word is left over. -/
def Stage.afterWord (two : Bool) : Stage → Stage × Bool
  | .waiting => (if two then .following else .placed, false)
  | .following => (.placed, false)
  | .placed => (.closed, true)
  | .closed => (.closed, true)

def Stage.afterOption : Stage → Stage
  | .waiting => .waiting
  | _ => .closed

/-- Reads the options and words of a command that takes one word, or up to two. -/
def readCommand (options : Options) (two : Bool) (stage : Stage) (g : Given) :
    List Marked → Except Refusal Given
  | [] => if stage == .waiting then .error .usage else .ok g
  | (.word, word) :: rest =>
    let (next, left) := stage.afterWord two
    readCommand options two next
      (if left then { g with extra := true } else { g with words := g.words ++ [word] }) rest
  | (.separator, _) :: rest =>
    readCommand options two stage (if stage == .closed then { g with extra := true } else g) rest
  | (mark, arg) :: rest =>
    match mark.read options (isSingle arg) with
    | .error r => .error r
    | .ok none => readCommand options two stage.afterOption { g with extra := true } rest
    | .ok (some reading) =>
      let g := { g with flags := g.flags ++ reading.flags }
      match reading.wanting with
      | none =>
        if reading.asksHelp then .error .help
        else readCommand options two stage.afterOption g rest
      | some flag =>
        match rest with
        | (.word, value) :: rest =>
          if reading.asksHelp then .error .help
          else
            readCommand options two stage.afterOption
              { g with flags := g.flags ++ [(flag, some value)] } rest
        | _ => .error .usage

/-- A path that may be left out, or given as nothing at all. -/
inductive PathChoice where
  | absent
  | path (text : String)
  | nothing
  deriving DecidableEq, Repr

inductive Command where
  | index (content : String) (settings : PathChoice) (output workspace : Option String)
      (strict : Bool)
  | nodeTypes (content : String) (name : Option String)
  | prefixes (path : String)
  | html (file : String)
  deriving Repr

structure Invocation where
  verbose : Bool
  command : Command
  deriving Repr

/-- The last value given for a flag. -/
def Given.value? (g : Given) (flag : Flag) : Option String :=
  (g.flags.reverse.lookup flag).join

def Given.pathChoice (g : Given) (flag : Flag) : PathChoice :=
  match g.flags.reverse.lookup flag with
  | none => .absent
  | some none => .nothing
  | some (some text) => .path text

def Given.has (g : Given) (flag : Flag) : Bool :=
  (g.flags.lookup flag).isSome

def Given.command (g : Given) (name : String) : Except Refusal Command :=
  match name, g.words with
  | "index", [content] =>
    .ok (.index content (g.pathChoice .settings) (g.value? .output) (g.value? .workspace)
      (g.has .strict))
  | "nodetypes", [content] => .ok (.nodeTypes content none)
  | "nodetypes", [content, name] => .ok (.nodeTypes content (attached name))
  | "prefixes", [path] => .ok (.prefixes path)
  | "html", [file] => .ok (.html file)
  | _, _ => .error .usage

def commandNames : List String :=
  ["index", "nodetypes", "prefixes", "html"]

def readNamed (name : String) (args : List String) : Except Refusal (Command × Bool) := do
  if !commandNames.contains name then .error .usage
  else
    let options := if name == "index" then indexOptions else helpOptions
    let marks ← markAll options args
    let given ← readCommand options (name == "nodetypes") .waiting ⟨[], [], false⟩ marks
    return (← given.command name, given.extra)

/-- Reads what stands before the command, and then the command. -/
def readMain (verbose extra : Bool) : List Marked → Except Refusal Invocation
  | [] => .error .usage
  | (.separator, _) :: _ => .error .usage
  | (.word, name) :: rest => do
    let (command, left) ← readNamed name (rest.map (·.2))
    if extra || left then .error .usage else .ok ⟨verbose, command⟩
  | (mark, arg) :: rest =>
    match mark.read mainOptions (isSingle arg) with
    | .error r => .error r
    | .ok none => readMain verbose true rest
    | .ok (some reading) =>
      if reading.asksHelp then .error .help
      else
        readMain (verbose || reading.flags.any (·.1 == .verbose)) extra rest

def readArguments (argv : List String) : Except Refusal Invocation := do
  readMain false false (← markAll mainOptions argv)

end ContentIndex.Cli
