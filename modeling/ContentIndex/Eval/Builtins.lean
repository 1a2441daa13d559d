import ContentIndex.Eval.Conversions
import ContentIndex.Text.Encoding

/-!
# Built-in functions

The functions that expressions may use by default. Those that go through something take their
elements one at a time; `map`, `filter`, `zip`, `enumerate` and `reversed` give lazy sequences.
-/

namespace ContentIndex.Eval

set_option autoImplicit false

/-- Whether `a` comes before `b`. -/
def less (a b : Value) : Except Fault Bool :=
  match (Value.compareWith a b).holds? .lt with
  | some r => .ok r
  | none =>
    .error (.wrongType ("'<' not supported between instances of '" ++ a.typeName ++ "' and '" ++
      b.typeName ++ "'"))

abbrev Keyed := Value × Value

/-- Merges two sorted runs; an element of the first run comes first unless the other is less. -/
def mergeRuns (before : Value → Value → Except Fault Bool) :
    List Keyed → List Keyed → Except Fault (List Keyed)
  | [], ys => .ok ys
  | xs, [] => .ok xs
  | x :: xs, y :: ys => do
    if ← before y.1 x.1 then return y :: (← mergeRuns before (x :: xs) ys)
    else return x :: (← mergeRuns before xs (y :: ys))
termination_by xs ys => xs.length + ys.length

def mergePairs (before : Value → Value → Except Fault Bool) :
    List (List Keyed) → Except Fault (List (List Keyed))
  | a :: b :: rest => do return (← mergeRuns before a b) :: (← mergePairs before rest)
  | rest => .ok rest

def mergeAll (before : Value → Value → Except Fault Bool) :
    Nat → List (List Keyed) → Except Fault (List Keyed)
  | 0, runs => .ok runs.flatten
  | _ + 1, [] => .ok []
  | _ + 1, [run] => .ok run
  | fuel + 1, runs => do mergeAll before fuel (← mergePairs before runs)

/-- Stable sort by the first parts. -/
def sortKeyed (descending : Bool) (items : List Keyed) : Except Fault (List Keyed) :=
  let before (a b : Value) : Except Fault Bool := if descending then less b a else less a b
  mergeAll before items.length (items.map ([·]))

/-- Pairs every element with its key; without a key function it is its own. -/
def withKeys (I : Interp) (key : Value) : List Value → Eval (List Keyed)
  | [] => pure []
  | v :: vs => do
    let k ←
      match key with
      | .none => pure v
      | f => I.call f [v] []
    return (k, v) :: (← withKeys I key vs)

/-- The extreme element, the first of several. -/
def extreme (better : Value → Value → Except Fault Bool) :
    Keyed → List Keyed → Except Fault Value
  | best, [] => .ok best.2
  | best, item :: rest => do
    if ← better item.1 best.1 then extreme better item rest else extreme better best rest

def extremeOf (I : Interp) (name : String) (better : Value → Value → Except Fault Bool)
    (args : List Value) (keywords : Keywords) : Eval Value := do
  match keywords.find? fun k => k.1 != "key" && k.1 != "default" with
  | some k => fault (.wrongType (name ++ "() got an unexpected keyword argument '" ++ k.1 ++ "'"))
  | none =>
    let key := (keywords.lookup "key").getD .none
    let default := keywords.lookup "default"
    let items ←
      match args with
      | [] => fault (.wrongType (name ++ " expected at least 1 argument, got 0"))
      | [v] => collect I v
      | _ =>
        if default.isSome then
          fault (.wrongType ("Cannot specify a default for " ++ name ++
            "() with multiple positional arguments"))
        else pure args
    match ← withKeys I key items, default with
    | first :: rest, _ => ofFault (extreme better first rest)
    | [], some v => return v
    | [], none => fault (.wrongValue (name ++ "() arg is an empty sequence"))

def anyOf (I : Interp) (v : Value) (wanted : Bool) : Eval Bool := do
  let found ← search I (fun w => pure (w.truth == wanted)) longest (← iterate v)
  return found.isSome

def sumOf (I : Interp) (v start : Value) : Eval Value := do
  match start with
  | .str _ => fault (.wrongType "sum() can't sum strings [use ''.join(seq) instead]")
  | .bytes _ => fault (.wrongType "sum() can't sum bytes [use b''.join(seq) instead]")
  | _ => fold I (fun acc w => ofFault (Value.binary .add acc w)) longest (← iterate v) start

def rangeOf (args : List Value) : Except Fault Value := do
  match args with
  | [stop] => return .range 0 (← intArg stop) 1 0
  | [start, stop] => return .range (← intArg start) (← intArg stop) 1 0
  | [start, stop, step] =>
    let a ← intArg start
    let b ← intArg stop
    let s ← intArg step
    if s == 0 then .error (.wrongValue "range() arg 3 must not be zero") else return .range a b s 0
  | _ => .error (.wrongType "range expected 1 to 3 arguments")

/-- Whether all numbers of a range are of limited size. -/
def isShortRange (start stop step : Int) : Bool :=
  [start, stop, step].all fun n => -Value.indexLimit ≤ n && n < Value.indexLimit

def reversedOf (v : Value) : Eval Value := do
  let lazy (kind : CursorKind) (items : List Value) : Eval Value := do
    return .cursor kind (← newItems items.reverse .none)
  match v with
  | .list items _ => lazy .listReversed items
  | .range start stop step _ =>
    let n := Value.rangeLength start stop step
    let last := Value.rangeItem start step (n - 1)
    let kind := if isShortRange start stop step then .rangeItems else .longRangeItems
    return .cursor kind (← newCursor (.counting last (-step) n))
  | .dict entries _ => lazy (.viewReversed .keys) (entries.map (·.1))
  | .view kind .. => lazy (.viewReversed kind) (v.listed?.getD [])
  | .set .. => fault (.wrongType "'set' object is not reversible")
  | .cursor .. => fault (.wrongType ("'" ++ v.typeName ++ "' object is not reversible"))
  | _ =>
    match v.listed? with
    | some items => lazy .reversed items
    | none => fault (.wrongType ("'" ++ v.typeName ++ "' object is not reversible"))

def iterateAll : List Value → Eval (List Nat)
  | [] => pure []
  | v :: vs => do
    let id ← iterate v
    return id :: (← iterateAll vs)

/-- Name of an encoding or a policy. -/
def nameArg (v : Value) : Except Fault String :=
  match v with
  | .str s =>
    if s.toList.contains '\x00' then .error (.wrongValue "embedded null character") else .ok s
  | v => .error (.wrongType ("str() argument must be str, not " ++ v.typeName))

/-- Bytes read as text. -/
def decodeBytes (bytes : List UInt8) (encoding policy : String) : Except Fault Value :=
  match Text.Encoding.named? encoding with
  | none => .error (.unknownEncoding encoding)
  | some e =>
    let pieces := e.pieces bytes
    match Text.Policy.named? policy with
    | some p =>
      match p.resolveAll? pieces with
      | some cs => .ok (.chars cs)
      | none =>
        if p == .writing then .error (.wrongType "policy cannot be used for reading")
        else .error .undecodable
    | none =>
      match Text.Policy.refuse.resolveAll? pieces with
      | some cs => .ok (.chars cs)
      | none => .error (.unknownEncoding policy)

/-- What stands for an argument that is not given. -/
def notGiven : Value := .object "NotGiven" 0

def isGiven : Value → Bool
  | .object "NotGiven" _ => false
  | _ => true

/-- The text of a value, or bytes read as text if an encoding or a policy is given. -/
def textOf (args : List Value) (keywords : Keywords) : Except Fault Value := do
  let signature := named "str" []
    [("object", notGiven), ("encoding", notGiven), ("errors", notGiven)]
  match ← signature.bind args keywords with
  | [v, encoding, policy] =>
    let name (w : Value) (default : String) : Except Fault String :=
      if isGiven w then nameArg w else .ok default
    let encodingName ← name encoding "utf-8"
    let policyName ← name policy "strict"
    if !isGiven v then return .str ""
    else if !isGiven encoding && !isGiven policy then return .str (← v.written)
    else
      match v with
      | .bytes [] => return .str ""
      | .bytes b => decodeBytes b encodingName policyName
      | .str _ => .error (.wrongType "decoding str is not supported")
      | v => .error (.wrongType ("decoding to str: need a bytes-like object, " ++ v.typeName ++
          " found"))
  | _ => .ok .none

/-- The optional single argument of a conversion. -/
def oneOrNone (name : String) (args : List Value) (keywords : Keywords) :
    Except Fault (Option Value) :=
  match args, keywords with
  | [], [] => .ok none
  | [v], [] => .ok (some v)
  | _, _ => .error (.wrongType (name ++ "() takes at most one argument"))

def callBuiltin (I : Interp) (b : Builtin) (args : List Value) (keywords : Keywords) :
    Eval Value := do
  let single (run : Value → Eval Value) : Eval Value := do
    match ← ofFault ((positional b.name ["argument"] []).bind args keywords) with
    | [v] => run v
    | _ => return .none
  let optional (default : Value) (run : Value → Eval Value) : Eval Value := do
    match ← ofFault (oneOrNone b.name args keywords) with
    | none => return default
    | some v => run v
  match b with
  | .abs => single fun v => ofFault (Value.absolute v)
  | .all => single fun v => do return .bool !(← anyOf I v false)
  | .any => single fun v => do return .bool (← anyOf I v true)
  | .bool => optional (.bool false) fun v => return .bool v.truth
  | .len => single fun v => ofFault (lengthOf v)
  | .list => optional (.list [] 0) fun v => do return .list (← collect I v) 0
  | .tuple => optional (.tuple [] 0) fun v => do
    match v with
    | .tuple .. => return v
    | _ => return .tuple (← collect I v) 0
  | .set => optional (.set [] 0) fun v => do ofFault (elementsOf (← collect I v))
  | .float => optional (.float 0) fun v => ofFault (floatOf v)
  | .str => ofFault (textOf args keywords)
  | .int =>
    match args, keywords with
    | [v], [] => ofFault (integerOf v)
    | [], [] => return .int 0
    | [v, base], [] => ofFault (integerInBase v base)
    | [v], [("base", base)] => ofFault (integerInBase v base)
    | _, _ => fault (.wrongType "int() takes at most 2 arguments")
  | .dict => do
    let given ←
      match args with
      | [] => pure []
      | [v] => dictOf I v
      | _ => fault (.wrongType "dict expected at most 1 argument")
    return .dict (keywords.foldl (fun d k => Entries.insertText d k.1 k.2) given) 0
  | .range =>
    if keywords.isEmpty then ofFault (rangeOf args)
    else fault (.wrongType "range() takes no keyword arguments")
  | .sorted => do
    match args with
    | [v] =>
      match keywords.find? fun k => k.1 != "key" && k.1 != "reverse" with
      | some _ => fault (.wrongType "sort() got an unexpected keyword argument")
      | none =>
        let items ← collect I v
        let descending := (keywords.lookup "reverse").getD (.bool false)
        let backwards ← ofFault (flagArg descending)
        let keyed ← withKeys I ((keywords.lookup "key").getD .none) items
        let sorted ← ofFault (sortKeyed backwards keyed)
        return .list (sorted.map (·.2)) 0
    | _ => fault (.wrongType "sorted expected 1 argument")
  | .max => extremeOf I "max" (fun a b => less b a) args keywords
  | .min => extremeOf I "min" less args keywords
  | .sum => do
    match ← ofFault
        ((named "sum" ["iterable"] [("start", .int 0)]).bind args keywords) with
    | [v, start] =>
      if args.isEmpty then fault (.wrongType "sum() takes at least 1 positional argument")
      else sumOf I v start
    | _ => return .none
  | .round => do
    match ← ofFault ((named "round" ["number"] [("ndigits", .none)]).bind args keywords) with
    | [v, places] => ofFault (roundNumber v places)
    | _ => return .none
  | .isinstance => do
    match ← ofFault ((positional "isinstance" ["object", "class"] []).bind args keywords) with
    | [v, t] => return .bool (← ofFault (isInstance v t))
    | _ => return .none
  | .reversed => single reversedOf
  | .enumerate => do
    match ← ofFault
        ((named "enumerate" ["iterable"] [("start", .int 0)]).bind args keywords) with
    | [v, start] =>
      let n ← ofFault (intArg start)
      return .cursor .enumerate (← newCursor (.numbering n (← iterate v)))
    | _ => return .none
  | .zip => do
    match keywords with
    | [] => return .cursor .zip (← newCursor (.zipping (← iterateAll args) false))
    | [("strict", strict)] =>
      return .cursor .zip (← newCursor (.zipping (← iterateAll args) strict.truth))
    | _ => fault (.wrongType "zip() got an unexpected keyword argument")
  | .map => do
    match args, keywords with
    | f :: v :: vs, [] =>
      return .cursor .map (← newCursor (.mapping f (← iterateAll (v :: vs))))
    | _, _ => fault (.wrongType "map() must have at least two arguments.")
  | .filter => do
    match args, keywords with
    | [f, v], [] => return .cursor .filter (← newCursor (.filtering f (← iterate v)))
    | _, _ => fault (.wrongType "filter expected 2 arguments")

end ContentIndex.Eval
