import ContentIndex.Eval.Attributes
import ContentIndex.Value.Arithmetic
import ContentIndex.Value.Subscript

/-!
# Lazy sequences

Everything that can be gone through has a cursor. Finite values are listed at once; the others
are advanced one element at a time.
-/

namespace ContentIndex.Eval

set_option autoImplicit false

/-- More elements than any sequence is gone through for. -/
def longest : Nat := 1000000000000

def notIterable {α : Type} (v : Value) : Eval α :=
  fault (.wrongType ("'" ++ v.typeName ++ "' object is not iterable"))

def isIterable : Value → Bool
  | .cursor .. => true
  | .range .. => true
  | .stream .. => true
  | v => v.listed?.isSome

/-- A cursor over the elements of a collection. -/
def newItems (items : List Value) (source : Value) : Eval Nat :=
  newCursor (.items items source 0)

def iterate (v : Value) : Eval Nat :=
  match v with
  | .cursor _ id => pure id
  | .stream _ id => pure id
  | .range start stop step _ =>
    newCursor (.counting start step (Value.rangeLength start stop step))
  | _ =>
    match v.listed? with
    | some items => newItems items v
    | none => notIterable v

/-- Goes through the rest of a cursor. -/
def fold {α : Type} (I : Interp) (step : α → Value → Eval α) : Nat → Nat → α → Eval α
  | 0, _, acc => pure acc
  | fuel + 1, id, acc => do
    match ← I.next id with
    | none => pure acc
    | some v => fold I step fuel id (← step acc v)

def drain (I : Interp) (id : Nat) : Eval (List Value) := do
  let reversed ← fold I (fun acc v => pure (v :: acc)) longest id []
  return reversed.reverse

/-- How many elements a value announces that it does not list. -/
def announced (v : Value) : Eval Nat := do
  match v with
  | .range start stop step _ => return Value.rangeLength start stop step
  | .cursor _ id =>
    match ← cursor id with
    | .counting _ _ left => return left
    | _ => return 0
  | _ => return 0

/-- All elements of a value. -/
def collect (I : Interp) (v : Value) : Eval (List Value) :=
  match v.listed? with
  | some items => pure items
  | none => do
    let n ← announced v
    if Value.indexLimit ≤ Int.ofNat n then fault (.tooLarge "too many elements to count")
    else if Value.sizeLimit < n then fault .outOfMemory
    else drain I (← iterate v)

/-- The first elements of a cursor. -/
def takeFrom (I : Interp) (id : Nat) : Nat → Eval (List Value)
  | 0 => pure []
  | n + 1 => do
    match ← I.next id with
    | none => pure []
    | some v => return v :: (← takeFrom I id n)

/-- An operand of an operator: a lazy sequence is listed if it is combined with a view. -/
def besideView (I : Interp) (op : BinaryOp) (v other : Value) : Eval Value :=
  if other.isSetView && Value.combinesSets op && v.listed?.isNone && isIterable v then do
    return .list (← collect I v) 0
  else pure v

/-- The first element with a property. -/
def search (I : Interp) (p : Value → Eval Bool) : Nat → Nat → Eval (Option Value)
  | 0, _ => pure none
  | fuel + 1, id => do
    match ← I.next id with
    | none => pure none
    | some v => if ← p v then pure (some v) else search I p fuel id

/-- One element of each source, in order, unless one of them has come to its end. -/
def nextOfEach (I : Interp) : List Nat → Eval (Option (List Value))
  | [] => pure (some [])
  | id :: rest => do
    match ← I.next id with
    | none => pure none
    | some v =>
      match ← nextOfEach I rest with
      | none => pure none
      | some vs => pure (some (v :: vs))

/-- Whether one of the sources still has an element. -/
def anyLeft (I : Interp) : List Nat → Eval Bool
  | [] => pure false
  | id :: rest => do
    match ← I.next id with
    | some _ => pure true
    | none => anyLeft I rest

/-- Like `nextOfEach`, for sources that must end together; `first` marks the first source. -/
def nextStrict (I : Interp) (first : Bool) : List Nat → Eval (Option (List Value))
  | [] => pure (some [])
  | id :: rest => do
    match ← I.next id with
    | none =>
      if !first then fault (.wrongValue "zip() arguments differ in length")
      else if ← anyLeft I rest then fault (.wrongValue "zip() arguments differ in length")
      else pure none
    | some v =>
      match ← nextStrict I false rest with
      | none => pure none
      | some vs => pure (some (v :: vs))

/-- Names that the targets of a comprehension bind. -/
def boundNames (clauses : List (Clause Expr)) : List String :=
  (clauses.flatMap fun clause => targetNames clause.target).eraseDups
where
  targetNames : Expr → List String
    | .name id => [id]
    | .starred e => targetNames e
    | .tuple items => targetNamesAll items
    | .list items => targetNamesAll items
    | _ => []
  targetNamesAll : List Expr → List String
    | [] => []
    | e :: es => targetNames e ++ targetNamesAll es

/-- Values for targets of which one may be starred: that one takes what the others leave. -/
def distribute (targets : List Expr) (values : List Value) : Except Fault (List Value) :=
  match targets.findIdx? Expr.isStarred with
  | none =>
    if values.length == targets.length then .ok values
    else if values.length < targets.length then
      .error (.wrongValue "not enough values to unpack")
    else .error (.wrongValue "too many values to unpack")
  | some i =>
    let after := targets.length - i - 1
    if values.length < targets.length - 1 then
      .error (.wrongValue "not enough values to unpack")
    else
      let middle := (values.drop i).take (values.length - i - after)
      .ok (values.take i ++ [.list middle 0] ++ values.drop (values.length - after))

/-- The elements of a value, one for each target. -/
def unpack (I : Interp) (targets : List Expr) (v : Value) : Eval (List Value) := do
  if !isIterable v then
    fault (.wrongType ("cannot unpack non-iterable " ++ v.typeName ++ " object"))
  else if targets.any Expr.isStarred || v.listed?.isSome then
    ofFault (distribute targets (← collect I v))
  else ofFault (distribute targets (← takeFrom I (← iterate v) (targets.length + 1)))

def evalOption (I : Interp) (scope : Scope) : Option Expr → Eval Value
  | none => pure .none
  | some e => I.eval e scope

/-- Keeps a collection that was changed in place. -/
def overwrite (v : Value) : Eval Unit :=
  match v with
  | .list _ mark => modify fun st => st.overwrite mark v
  | .dict _ mark => modify fun st => st.overwrite mark v
  | _ => pure ()

def putElement (v index element : Value) : Eval Unit := do
  overwrite (← ofFault (Value.withElement v index element))

/-- Puts the elements of a value in the place of a part of a list. -/
def putPart (I : Interp) (v lower upper step elements : Value) : Eval Unit := do
  match v with
  | .list items _ =>
    let span ← ofFault (Value.spanOf items.length lower upper step)
    if isIterable elements then
      overwrite (← ofFault (Value.withPart v span (← collect I elements)))
    else fault (.wrongType "can only assign an iterable")
  | .dict .. => fault (.wrongType "unhashable type: 'slice'")
  | _ => fault (Value.unassignable v)

mutual
/-- Puts a value into the places of a target. -/
def assign (I : Interp) (scope : Scope) : Expr → Value → Eval Unit
  | .name id, v =>
    match scope.cellOf? id with
    | some cell => setCell cell v
    | none => fault (.unbound id)
  | .starred e, v => assign I scope e v
  | .tuple items, v => do assignAll I scope items (← unpack I items v)
  | .list items, v => do assignAll I scope items (← unpack I items v)
  | .access owner attr, v => do putAttribute (← I.eval owner scope) attr v
  | .subscript owner (.slice lower upper step), v => do
    let w ← I.eval owner scope
    let l ← evalOption I scope lower
    let u ← evalOption I scope upper
    let s ← evalOption I scope step
    putPart I (← current w) l u s v
  | .subscript owner index, v => do
    let w ← I.eval owner scope
    let i ← I.eval index scope
    putElement (← current w) i v
  | _, v => fault (Value.unassignable v)

def assignAll (I : Interp) (scope : Scope) : List Expr → List Value → Eval Unit
  | e :: es, v :: vs => do
    assign I scope e (← fresh v)
    assignAll I scope es vs
  | _, _ => pure ()
end

/-- Whether all conditions hold, in order. -/
def allHold (I : Interp) (scope : Scope) : List Expr → Eval Bool
  | [] => pure true
  | e :: es => do
    let v ← I.eval e scope
    if v.truth then allHold I scope es else pure false

def elementValue (I : Interp) (scope : Scope) : Element → Eval Value
  | .single e => I.eval e scope
  | .pair key value => do
    let k ← I.eval key scope
    let v ← I.eval value scope
    return .tuple [k, v] 0

/-- The next element of a comprehension and the cursors it then goes through, the innermost
clause first. -/
def advance (I : Interp) (element : Element) (clauses : List (Clause Expr)) (scope : Scope) :
    Nat → List Nat → Eval (Option (Value × List Nat))
  | 0, _ => pure none
  | _ + 1, [] => pure none
  | fuel + 1, id :: outer =>
    match clauses[outer.length]? with
    | none => pure none
    | some clause => do
      match ← I.next id with
      | none => advance I element clauses scope fuel outer
      | some v =>
        assign I scope clause.target v
        if ← allHold I scope clause.conditions then
          match clauses[outer.length + 1]? with
          | none => do
            let w ← elementValue I scope element
            return some (w, id :: outer)
          | some inner => do
            let source ← I.eval inner.source scope
            let cursor ← iterate source
            advance I element clauses scope fuel (cursor :: id :: outer)
        else advance I element clauses scope fuel (id :: outer)

/-- Deepest nesting of calls and comprehensions. -/
def callLimit : Nat := 985

/-- Runs a computation one call deeper. -/
def deeper {α : Type} (run : Eval α) : Eval α := do
  let st ← get
  if callLimit ≤ st.depth then fault .tooDeep
  else
    set { st with depth := st.depth + 1 }
    let result ← run
    modify fun st => { st with depth := st.depth - 1 }
    return result

/-- What is left to come of the elements of a collection. -/
def itemsLeft (rest : List Value) (source : Value) (taken : Nat) : Eval (List Value) := do
  let st ← get
  if st.altered then ofFault (st.restOf rest source taken) else pure rest

/-- Number of bytes through the next line end. -/
def lineLength (content : List UInt8) : Nat :=
  let line := content.takeWhile (· != 10)
  if line.length < content.length then line.length + 1 else line.length

/-- The next element of a cursor. -/
def nextStep (I : Interp) (id : Nat) : Eval (Option Value) := do
  match ← cursor id with
  | .finished => return none
  | .items rest source taken =>
    match ← itemsLeft rest source taken with
    | [] =>
      setCursor id .finished
      return none
    | v :: rest =>
      setCursor id (.items rest source (taken + 1))
      return some v
  | .counting _ _ 0 => return none
  | .counting n step (left + 1) =>
    setCursor id (.counting (n + step) step left)
    return some (.int n)
  | .mapping f sources =>
    match ← nextOfEach I sources with
    | none => return none
    | some vs => return some (← I.call f vs [])
  | .filtering f source =>
    let keep (v : Value) : Eval Bool := do
      match f with
      | .none => return v.truth
      | _ => return (← I.call f [v] []).truth
    search I keep longest source
  | .zipping [] _ => return none
  | .zipping sources strict =>
    let row ← if strict then nextStrict I true sources else nextOfEach I sources
    return row.map fun vs => .tuple vs 0
  | .numbering n source =>
    match ← I.next source with
    | none => return none
    | some v =>
      setCursor id (.numbering (n + 1) source)
      return some (.tuple [.int n, v] 0)
  | .comprehension element clauses active scope =>
    setCursor id .finished
    match ← deeper (advance I element clauses scope longest active) with
    | none => return none
    | some (v, active) =>
      setCursor id (.comprehension element clauses active scope)
      return some v
  | .bytes content position =>
    let rest := content.drop position
    if rest.isEmpty then return none
    else
      let n := lineLength rest
      setCursor id (.bytes content (position + n))
      return some (.bytes (rest.take n))

end ContentIndex.Eval
