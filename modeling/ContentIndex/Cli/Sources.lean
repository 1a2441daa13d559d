import ContentIndex.Cli.Commands

/-!
# Files of a command

The paths that a command line names, and those of the assets that the nodes of a content export
hold: a command reads no other file.
-/

namespace ContentIndex.Cli

set_option autoImplicit false

def PathChoice.toList : PathChoice → List String
  | .path text => [text]
  | _ => []

def Command.paths (command : Command) (environment : Option String) : List String :=
  match command with
  | .index content settings _ _ _ => content :: (settings.toList ++ environment.toList)
  | .nodeTypes content _ => [content]
  | .prefixes _ => []
  | .html file => if file == "-" then [] else [file]

def Command.outputs : Command → List String
  | .index _ _ output _ _ => output.toList
  | _ => []

def Command.readsInput : Command → Bool
  | .html file => file == "-"
  | _ => false

mutual
def assetPaths : Value → List FilePath
  | .asset a _ =>
    match a.content with
    | .file path => [path]
    | .memory _ => []
  | .list items _ => assetPathsAll items
  | _ => []

def assetPathsAll : List Value → List FilePath
  | [] => []
  | v :: vs => assetPaths v ++ assetPathsAll vs
end

/-- Paths of the assets of a content export that can be loaded. -/
def Command.assets (command : Command) (st : Store) : List FilePath :=
  match command with
  | .index content .. =>
    let (_, st) := loadContent (FilePath.ofText content) st
    st.nodes.toList.flatMap fun n => assetPathsAll (n.properties.map (·.2))
  | _ => []

end ContentIndex.Cli
