import ContentIndex.Eval.Builtins
import ContentIndex.Eval.Operators
import ContentIndex.Indexing

/-!
# One step of evaluation

The meaning of every kind of expression in terms of the meaning of its parts, and of every kind of
call. Operands are evaluated from left to right; conditions and comparisons stop as soon as their
outcome is known.
-/

namespace ContentIndex.Eval

set_option autoImplicit false

def literalValue : Literal → Value
  | .none => .none
  | .bool b => .bool b
  | .int n => .int n
  | .float x => .float x
  | .text s => .str s
  | .bytes b => .bytes b
  | .ellipsis => .object "ellipsis" 0

/-- Values of items, starred ones spread out. -/
def evalItems (I : Interp) (scope : Scope) : List Expr → Eval (List Value)
  | [] => pure []
  | .starred e :: rest => do
    let v ← I.eval e scope
    let vs ← collect I v
    return vs ++ (← evalItems I scope rest)
  | e :: rest => do
    let v ← I.eval e scope
    return v :: (← evalItems I scope rest)

/-- Values of the elements of a set. They are added one by one from the first starred one on, and
in a large display throughout; those before it are added together. -/
def evalElements (I : Interp) (scope : Scope) (single : Bool) (waiting done : List Value) :
    List Expr → Eval (List Value)
  | [] => do
    let _ ← ofFault (waiting.reverse.mapM Value.keyOf)
    return done.reverse ++ waiting.reverse
  | .starred e :: rest => do
    let _ ← ofFault (waiting.reverse.mapM Value.keyOf)
    let vs ← collect I (← I.eval e scope)
    let _ ← ofFault (vs.mapM Value.keyOf)
    evalElements I scope true [] (vs.reverse ++ waiting ++ done) rest
  | e :: rest => do
    let v ← I.eval e scope
    if single then
      let _ ← ofFault (Value.keyOf v)
      evalElements I scope true waiting (v :: done) rest
    else evalElements I scope false (v :: waiting) done rest

/-- More elements than a display builds at once. -/
def largeDisplay : Nat := 30

/-- Keywords of a mapping, which must have texts as keys. -/
def spreadKeywords (v : Value) : Except Fault Keywords :=
  match v.entries? with
  | none => .error (.wrongType ("argument after ** must be a mapping, not " ++ v.typeName))
  | some entries =>
    entries.mapM fun (k, w) =>
      match k with
      | .str s => Except.ok (s, w)
      | _ => .error (.wrongType "keywords must be strings")

def hasDuplicate (keywords : Keywords) : Bool :=
  let ids := keywords.map (·.1)
  ids.eraseDups.length != ids.length

/-- Arguments given by name; those of a mapping join the earlier ones at once. -/
def evalKeywords (I : Interp) (scope : Scope) (given : Keywords) :
    List (Option String × Expr) → Eval Keywords
  | [] => pure given
  | (some id, e) :: rest => do
    let v ← I.eval e scope
    evalKeywords I scope (given ++ [(id, v)]) rest
  | (none, e) :: rest => do
    let keywords ← ofFault (spreadKeywords (← I.eval e scope))
    if hasDuplicate (given ++ keywords) then
      fault (.wrongType "got multiple values for keyword argument")
    else evalKeywords I scope (given ++ keywords) rest

def insertAll (entries : Entries) : List (Value × Value) → Except Fault Entries
  | [] => .ok entries
  | (k, v) :: rest => do insertAll (← insertChecked entries k v) rest

/-- Entries of a dictionary display; those waiting are inserted when a spread mapping or the end
is reached. -/
def evalEntries (I : Interp) (scope : Scope) (entries : Entries) (waiting : List (Value × Value)) :
    List (Option Expr × Expr) → Eval Entries
  | [] => ofFault (insertAll entries waiting)
  | (some k, e) :: rest => do
    let key ← I.eval k scope
    let v ← I.eval e scope
    evalEntries I scope entries (waiting ++ [(key, v)]) rest
  | (none, e) :: rest => do
    let before ← ofFault (insertAll entries waiting)
    let v ← I.eval e scope
    match v.entries? with
    | none => fault (.wrongType ("'" ++ v.typeName ++ "' object is not a mapping"))
    | some more => evalEntries I scope (Value.overlay before more) [] rest

/-- The last operand that is evaluated: the first one whose truth decides. -/
def evalLogic (I : Interp) (scope : Scope) (deciding : Bool) : Value → List Expr → Eval Value
  | last, [] => pure last
  | _, e :: rest => do
    let v ← I.eval e scope
    if v.truth == deciding then pure v else evalLogic I scope deciding v rest

/-- A chain of comparisons after its first operand. -/
def evalChain (I : Interp) (scope : Scope) (v : Value) : List (CompareOp × Expr) → Eval Value
  | [] => pure (.bool true)
  | (op, e) :: rest => do
    let w ← I.eval e scope
    let holds ← compareStep I op (← current v) w
    if rest.isEmpty || !holds then pure (.bool holds) else evalChain I scope w rest

/-- The text of a field. -/
def fieldText (conversion : Conversion) (v : Value) : Except Fault String :=
  match conversion with
  | .plain => v.written
  | .text => v.written
  | .quoted => v.writtenQuoted
  | .ascii => v.writtenQuoted.map Value.asciiOnly

def evalPieces (I : Interp) (scope : Scope) : List Expr → Eval (List String)
  | [] => pure []
  | e :: rest => do
    let v ← I.eval e scope
    return v.shown :: (← evalPieces I scope rest)

def evalDefaults (I : Interp) (scope : Scope) :
    List (String × Option Expr) → Eval (List (String × Value))
  | [] => pure []
  | (_, none) :: rest => evalDefaults I scope rest
  | (id, some e) :: rest => do
    let v ← I.eval e scope
    return (id, v) :: (← evalDefaults I scope rest)

def newCells : List String → Eval (List (String × Nat))
  | [] => pure []
  | id :: rest => do
    let cell ← newCell
    return (id, cell) :: (← newCells rest)

/-- A cursor over a comprehension; its first source is evaluated at once. -/
def startComprehension (I : Interp) (scope : Scope) (names : List String) (element : Element)
    (clauses : List (Clause Expr)) : Eval Nat := do
  match clauses with
  | [] => newCursor .finished
  | first :: _ =>
    let source ← I.eval first.source scope
    let cursor ← iterate source
    let cells ← newCells (boundNames clauses)
    newCursor (.comprehension element clauses [cursor]
      (Scope.ofCells cells ++ scope.restrict names))

def currentAll : List Value → Eval (List Value)
  | [] => pure []
  | v :: vs => do
    let v ← current v
    return v :: (← currentAll vs)

def evalStep (I : Interp) (e : Expr) (scope : Scope) : Eval Value := do
  match e with
  | .literal l => return literalValue l
  | .name id => scope.find id
  | .access value attr => access (← I.eval value scope) attr
  | .subscript value (.slice lower upper step) =>
    let v ← I.eval value scope
    let l ← evalOption I scope lower
    let u ← evalOption I scope upper
    let s ← evalOption I scope step
    ofFault (Value.sliced (← current v) l u s)
  | .subscript value index =>
    let v ← I.eval value scope
    let i ← I.eval index scope
    ofFault (Value.subscript (← current v) i)
  | .slice lower upper step =>
    let _ ← evalOption I scope lower
    let _ ← evalOption I scope upper
    let _ ← evalOption I scope step
    return .object "slice" 0
  | .call function args keywords =>
    let f ← I.eval function scope
    let vs ← evalItems I scope args
    let ks ← evalKeywords I scope [] keywords
    if hasDuplicate ks then fault (.wrongType "got multiple values for keyword argument")
    else I.call f (← currentAll vs) ks
  | .starred value => I.eval value scope
  | .list items => return .list (← evalItems I scope items) 0
  | .tuple items => return .tuple (← evalItems I scope items) 0
  | .set items => do
    return Value.ofElements (← evalElements I scope (largeDisplay < items.length) [] [] items)
  | .dict entries => return .dict (← evalEntries I scope [] [] entries) 0
  | .unary op operand => ofFault (Value.unary op (← I.eval operand scope))
  | .binary left op right =>
    let v ← I.eval left scope
    let w ← I.eval right scope
    let v ← current v
    let a ← besideView I op v w
    let b ← besideView I op w v
    ofFault (Value.binary op a b)
  | .both operands => evalLogic I scope false .none operands
  | .either operands => evalLogic I scope true .none operands
  | .compare left rest => evalChain I scope (← I.eval left scope) rest
  | .conditional test body orElse =>
    let t ← I.eval test scope
    if t.truth then I.eval body scope else I.eval orElse scope
  | .lambda params body =>
    let defaults ← evalItems I scope params.defaults
    let keywordDefaults ← evalDefaults I scope params.keywordOnly
    return .closure params body defaults keywordDefaults (scope.restrict body.names) 0
  | .comprehension kind element clauses =>
    let id ← startComprehension I scope e.names (.single element) clauses
    match kind with
    | .generator => return .cursor .generator id
    | .list => return .list (← drain I id) 0
    | .set =>
      let step (acc : List Value) (v : Value) : Eval (List Value) := do
        let _ ← ofFault (Value.keyOf v)
        return v :: acc
      let reversed ← fold I step longest id []
      return Value.ofElements reversed.reverse
  | .dictComprehension key value clauses =>
    let id ← startComprehension I scope e.names (.pair key value) clauses
    let step (acc : List (Value × Value)) (v : Value) : Eval (List (Value × Value)) := do
      match v with
      | .tuple [k, w] _ =>
        let _ ← ofFault (Value.keyOf k)
        return (k, w) :: acc
      | _ => return acc
    let reversed ← fold I step longest id []
    return .dict (Entries.ofList reversed.reverse) 0
  | .field value conversion format =>
    let v ← I.eval value scope
    let spec ← evalOption I scope format
    match spec with
    | .str s =>
      if s.isEmpty then do return .str (← ofFault (fieldText conversion v))
      else fault (.wrongValue "Invalid format specifier")
    | _ => do return .str (← ofFault (fieldText conversion v))
  | .joined pieces => return .str (String.join (← evalPieces I scope pieces))

/-- Values of the parameters of a function, in the order of the parameters. -/
def bindParams (params : Params Expr) (defaults : List Value) (keywordDefaults : Keywords)
    (args : List Value) (keywords : Keywords) : Except Fault (List (String × Value)) :=
  let ids := params.positionalOnly ++ params.positional
  let bad (what : String) : Except Fault (List (String × Value)) :=
    .error (.wrongType ("<lambda>() " ++ what))
  if ids.length < args.length && params.rest.isNone then bad "takes fewer positional arguments"
  else
    let positional := ids.zip args
    let rest := params.rest.toList.map fun id => (id, Value.tuple (args.drop ids.length) 0)
    let byName := params.positional ++ params.keywordOnly.map (·.1)
    let (known, unknown) := keywords.partition fun k => byName.contains k.1
    if known.any fun k => (positional.lookup k.1).isSome then bad "got multiple values for argument"
    else if !unknown.isEmpty && params.keywordRest.isNone then
      bad "got an unexpected keyword argument"
    else
      let firstDefault := ids.length - defaults.length
      let fallback := ((ids.drop firstDefault).zip defaults) ++ keywordDefaults
      let wanted := (ids.drop args.length) ++ params.keywordOnly.map (·.1)
      let given := wanted.mapM fun id =>
        ((known.lookup id).orElse fun _ => fallback.lookup id).map fun v => (id, v)
      match given with
      | none => bad "missing required arguments"
      | some given =>
        let others := params.keywordRest.toList.map fun id =>
          (id, Value.dict (unknown.map fun k => (.str k.1, k.2)) 0)
        .ok (positional ++ given ++ rest ++ others)

/-- The value that a type makes without arguments. -/
def made? (t : LibraryType) : Option Value :=
  if t.makes then some (if t.name == "IndexingHelper" then .helper 0 else .object t.name 0)
  else none

def notMade (t : LibraryType) : Fault :=
  .wrongType (t.name ++ "() cannot be made here")

def instantiate (t : LibraryType) (args : List Value) (keywords : Keywords) : Eval Value :=
  match made? t with
  | some v => if args.isEmpty && keywords.isEmpty then return v else fault (notMade t)
  | none => fault (notMade t)

/-- Bindings with marks of their own. -/
def freshBindings : List (String × Value) → Eval (List (String × Value))
  | [] => pure []
  | (id, v) :: rest => do
    let v ← fresh v
    return (id, v) :: (← freshBindings rest)

def callStep (I : Interp) (f : Value) (args : List Value) (keywords : Keywords) : Eval Value :=
  match f with
  | .builtin b => callBuiltin I b args keywords
  | .function f => Indexing.apply I f args keywords
  | .method (.helper _) name _ => Indexing.helperMethod I name args keywords
  | .method receiver name _ => valueMethod I receiver name args keywords
  | .closure params body defaults keywordDefaults scope _ => do
    let locals ← ofFault (bindParams params defaults keywordDefaults args keywords)
    let locals ← freshBindings locals
    deeper (I.eval body (Scope.ofValues locals ++ scope))
  | .typeObject t => instantiate t args keywords
  | v => fault (.wrongType ("'" ++ v.typeName ++ "' object is not callable"))

end ContentIndex.Eval
