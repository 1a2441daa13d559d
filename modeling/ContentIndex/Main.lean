import ContentIndex.Cli.Sources

/-!
# The program

Reads the files that the command line asks for, carries the command out on them, writes what it
changed and prints what it printed; messages go to the error output.
-/

namespace ContentIndex.Main

set_option autoImplicit false

/-- Adds what lies under a path, a file or a folder; nothing if there is neither. -/
def addPath (files : Files) (path : String) : IO Files := do
  let names := files.resolve (FilePath.ofText path)
  try
    let place ← IO.FS.realPath (FilePath.ofText path).text
    if ← place.isDir then return { files with folders := files.folders ++ [names] }
    else return files.put names (← IO.FS.readBinFile place)
  catch _ => return files

def addPaths (files : Files) (paths : List String) : IO Files :=
  paths.foldlM addPath files

partial def readInput (stream : IO.FS.Stream) (sofar : String) : IO String := do
  let line ← stream.getLine
  if line.isEmpty then return sofar else readInput stream (sofar ++ line)

def writeChanges (old new : Files) : IO Unit := do
  for (name, bytes) in old.changes new do
    let path := FilePath.ofText name
    IO.FS.createDirAll path.parent.text
    IO.FS.writeBinFile path.text bytes

def filesFor (command : Cli.Command) (environment : Option String) : IO Files := do
  let here ← IO.currentDir
  let start := Files.empty (FilePath.ofText here.toString).names
  let files ← addPaths start (command.paths environment ++ command.outputs)
  addPaths files ((command.assets (Store.empty files)).map FilePath.text)

def finish (outcome : Cli.Outcome) (verbose : Bool) : IO UInt32 := do
  for record in Cli.shownLog verbose outcome.store.log do
    IO.eprintln ("[" ++ record.level.name ++ "] " ++ record.message)
  IO.print outcome.printed
  match outcome.status with
  | .ok code => return code.toUInt32
  | .error e =>
    IO.eprintln e.message
    return 1

end ContentIndex.Main

open ContentIndex in
def main (argv : List String) : IO UInt32 := do
  match Cli.readArguments argv with
  | .error refusal => Main.finish (refusal.outcome (Store.empty (Files.empty []))) false
  | .ok ⟨verbose, command⟩ =>
    let environment ← IO.getEnv Catalogue.settingsVariable
    let files ← Main.filesFor command environment
    let input ← if command.readsInput then Main.readInput (← IO.getStdin) "" else pure ""
    let outcome := command.run environment input (Store.empty files)
    Main.writeChanges files outcome.store.files
    Main.finish outcome verbose
