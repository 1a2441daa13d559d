import ContentIndex.Store

/-!
# Arguments

Parameters take positional arguments in order, then those given by name, then their defaults.
-/

namespace ContentIndex.Eval

set_option autoImplicit false

structure Signature where
  name : String
  required : List String
  optional : List (String × Value)
  /-- Whether the parameters may be given by name. -/
  named : Bool

abbrev Keywords := List (String × Value)

def Signature.ids (s : Signature) : List String :=
  s.required ++ s.optional.map (·.1)

/-- The value of the parameter at a place. -/
def Signature.pick (s : Signature) (args : List Value) (keywords : Keywords) (i : Nat)
    (id : String) (default : Option Value) : Except Fault Value :=
  match args[i]? with
  | some v => .ok v
  | none =>
    match keywords.lookup id, default with
    | some v, _ => .ok v
    | none, some v => .ok v
    | none, none => .error (.wrongType (s.name ++ "() missing required argument: '" ++ id ++ "'"))

/-- One value for every parameter. -/
def Signature.bind (s : Signature) (args : List Value) (keywords : Keywords) :
    Except Fault (List Value) :=
  let ids := s.ids
  if !s.named && !keywords.isEmpty then
    .error (.wrongType (s.name ++ "() takes no keyword arguments"))
  else if ids.length < args.length then
    .error (.wrongType (s.name ++ "() takes fewer arguments"))
  else
    let given := ids.take args.length
    match keywords.find? fun k => given.contains k.1 || !ids.contains k.1 with
    | some k => .error (.wrongType (s.name ++ "() got an unexpected argument '" ++ k.1 ++ "'"))
    | none =>
      let params :=
        s.required.map (fun id => (id, none)) ++ s.optional.map fun (id, v) => (id, some v)
      params.zipIdx.mapM fun ((id, default), i) => s.pick args keywords i id default

end ContentIndex.Eval
