import ContentIndex.Attachment
import ContentIndex.Eval.Arguments
import ContentIndex.Eval.Attributes
import ContentIndex.Eval.Iterate
import ContentIndex.Node
import ContentIndex.Text.Case
import ContentIndex.Text.Split
import ContentIndex.Value.Subscript

/-!
# Methods

What texts, dictionaries, sequences, moments, nodes and node types can be asked for. Positions in
texts are counted in characters and clipped like those of slices.
-/

namespace ContentIndex.Eval

set_option autoImplicit false

open Text

def wrongKind {α : Type} (what : String) (v : Value) : Except Fault α :=
  .error (.wrongType (what ++ ", not " ++ v.typeName))

def textArg (v : Value) : Except Fault (List Char) :=
  match v with
  | .str s => .ok s.toList
  | _ => wrongKind "must be str" v

def intArg (v : Value) : Except Fault Int :=
  match Value.intOf? v with
  | some n => .ok n
  | none =>
    .error (.wrongType ("'" ++ v.typeName ++ "' object cannot be interpreted as an integer"))

/-- An integer of limited size. -/
def sizedArg (limit : Int) (v : Value) : Except Fault Int := do
  let n ← intArg v
  if n < -limit || limit ≤ n then .error (.tooLarge "integer too large") else return n

/-- A limit on a number of steps; a negative one is no limit. -/
def limitArg (most : Nat) (v : Value) : Except Fault Nat := do
  let n ← sizedArg Value.indexLimit v
  return if n < 0 then most else min most n.toNat

/-- A flag that is given as an integer of limited size. -/
def flagArg (v : Value) : Except Fault Bool := do
  return (← sizedArg 2147483648 v) != 0

def positional (name : String) (required : List String) (optional : List (String × Value)) :
    Signature :=
  ⟨name, required, optional, false⟩

def named (name : String) (required : List String) (optional : List (String × Value)) : Signature :=
  ⟨name, required, optional, true⟩

/-- Part of a text between two positions, and where it starts; none if it cannot hold anything. -/
def window (s : List Char) (lower upper : Value) : Except Fault (Option (Nat × List Char)) := do
  let n := s.length
  let l ← Value.bound lower
  let u ← Value.bound upper
  let start := (l.map (Value.clip n 0 (n + 1))).getD 0
  let stop := (u.map (Value.clip n 0 n)).getD n
  if start > n || stop < start then return none
  else return some (start.toNat, (s.take stop.toNat).drop start.toNat)

/-- Position of the first occurrence within bounds. -/
def findWithin (s : List Char) (mark lower upper : Value) : Except Fault (Option Nat) := do
  let m ← textArg mark
  match ← window s lower upper with
  | none => return none
  | some (start, part) => return (Text.find? m part).map (· + start)

def trimWith (trimmer : (Char → Bool) → List Char → List Char) (s : List Char) (chars : Value) :
    Except Fault Value :=
  match chars with
  | .none => .ok (.chars (trimmer isBlank s))
  | .str cs => .ok (.chars (trimmer (cs.toList.contains ·) s))
  | v => wrongKind "strip arg must be None or str" v

def cutText (s : List Char) (fromEnd : Bool) (mark limit : Value) : Except Fault Value := do
  let most ← limitArg (unlimited s) limit
  match mark with
  | .none =>
    return .ofTexts (if fromEnd then splitBlankFromEnd most s else splitBlank most s)
  | .str m =>
    if m.isEmpty then .error (.wrongValue "empty separator")
    else
      return .ofTexts
        (if fromEnd then splitAtMostFromEnd m.toList most s else splitAtMost m.toList most s)
  | v => wrongKind "must be str or None" v

/-- Whether the text starts, or ends, with one of the marks. -/
def hasAffix (atEnd : Bool) (s : List Char) (marks lower upper : Value) : Except Fault Value := do
  let part ← window s lower upper
  let matchOne (m : List Char) : Except Fault Bool :=
    match part with
    | none => .ok false
    | some (_, part) => .ok (if atEnd then m.isSuffixOf part else m.isPrefixOf part)
  match marks with
  | .str m => return .bool (← matchOne m.toList)
  | .tuple items _ =>
    let found ← items.anyM fun item =>
      match item with
      | .str m => matchOne m.toList
      | v => wrongKind "tuple for startswith must only contain str" v
    return .bool found
  | v => wrongKind "first arg must be str or a tuple of str" v

def joinTexts (mark : List Char) (items : List Value) : Except Fault Value := do
  let pieces ← items.mapM fun v =>
    match v with
    | .str s => Except.ok s.toList
    | v => wrongKind "sequence item: expected str instance" v
  return .chars (Text.join mark pieces)

def partitionText (s : List Char) (mark : Value) : Except Fault Value := do
  let m ← textArg mark
  if m.isEmpty then .error (.wrongValue "empty separator")
  else
    match cut? m s with
    | some (before, after) => return .tuple [.chars before, .chars m, .chars after] 0
    | none => return .tuple [.chars s, .str "", .str ""] 0

def noArgs (name : String) (v : Value) (args : List Value) (keywords : Keywords) :
    Except Fault Value := do
  let _ ← (positional name [] []).bind args keywords
  return v

def bounds : List (String × Value) := [("start", .none), ("end", .none)]

def textMethod (I : Interp) (name : String) (s : List Char) (args : List Value)
    (keywords : Keywords) : Eval Value :=
  let bound (required : List String) (optional : List (String × Value))
      (run : List Value → Except Fault Value) : Eval Value :=
    ofFault do run (← (positional name required optional).bind args keywords)
  match name with
  | "upper" => ofFault (noArgs name (.chars (upper s)) args keywords)
  | "lower" => ofFault (noArgs name (.chars (lower s)) args keywords)
  | "capitalize" => ofFault (noArgs name (.chars (capitalize s)) args keywords)
  | "isdigit" => ofFault (noArgs name (.bool (!s.isEmpty && s.all isDigit)) args keywords)
  | "strip" => bound [] [("chars", .none)] fun vs => trimWith trim s (vs.headD .none)
  | "lstrip" => bound [] [("chars", .none)] fun vs => trimWith trimStart s (vs.headD .none)
  | "rstrip" => bound [] [("chars", .none)] fun vs => trimWith trimEnd s (vs.headD .none)
  | "split" | "rsplit" => ofFault do
    let vs ← (named name [] [("sep", .none), ("maxsplit", .int (-1))]).bind args keywords
    match vs with
    | [mark, limit] => cutText s (name == "rsplit") mark limit
    | _ => .ok .none
  | "splitlines" => ofFault do
    let vs ← (named name [] [("keepends", .bool false)]).bind args keywords
    return .ofTexts (lines (← flagArg (vs.headD .none)) s)
  | "join" => do
    match ← ofFault ((positional name ["iterable"] []).bind args keywords) with
    | [v] => ofFault (joinTexts s (← collect I v))
    | _ => return .none
  | "replace" => bound ["old", "new"] [("count", .int (-1))] fun vs =>
    match vs with
    | [old, new, limit] => do
      return .chars (replaceAtMost (← textArg old) (← textArg new)
        (← limitArg (unlimited s) limit) s)
    | _ => .ok .none
  | "startswith" | "endswith" => bound ["affix"] bounds fun vs =>
    match vs with
    | [marks, lower, upper] => hasAffix (name == "endswith") s marks lower upper
    | _ => .ok .none
  | "find" | "index" => bound ["sub"] bounds fun vs =>
    match vs with
    | [mark, lower, upper] => do
      match ← findWithin s mark lower upper with
      | some i => return .int i
      | none =>
        if name == "find" then return .int (-1) else .error (.wrongValue "substring not found")
    | _ => .ok .none
  | "count" => bound ["sub"] bounds fun vs =>
    match vs with
    | [mark, lower, upper] => do
      let m ← textArg mark
      match ← window s lower upper with
      | none => return .int 0
      | some (_, part) => return .int (countOf m part)
    | _ => .ok .none
  | "partition" => bound ["sep"] [] fun vs => partitionText s (vs.headD .none)
  | _ => fault (.noAttribute "str" name)

def dictMethod (name : String) (entries : Entries) (mark : Nat) (args : List Value)
    (keywords : Keywords) : Except Fault Value :=
  match name with
  | "get" => do
    match ← (positional name ["key"] [("default", .none)]).bind args keywords with
    | [key, default] =>
      let k ← Value.keyOf key
      return (Entries.find? entries k).getD default
    | _ => .ok .none
  | "keys" => noArgs name (.view .keys entries mark 0) args keywords
  | "values" => noArgs name (.view .values entries mark 0) args keywords
  | "items" => noArgs name (.view .items entries mark 0) args keywords
  | _ => .error (.noAttribute "dict" name)

/-- Position of the first element between two positions that is the same as `v`. -/
def indexOf (items : List Value) (v lower upper : Value) : Except Fault Value := do
  let n := items.length
  let l ← intArg lower
  let u ← intArg upper
  let start := (Value.clip n 0 n l).toNat
  let stop := (Value.clip n 0 n u).toNat
  match ((items.take stop).drop start).findIdx? (Value.same v) with
  | some i => return .int (i + start)
  | none => .error (.wrongValue "value is not in the sequence")

def sequenceMethod (name : String) (items : List Value) (args : List Value) (keywords : Keywords) :
    Except Fault Value :=
  match name with
  | "index" => do
    let last : Value := .int items.length
    match ← (positional name ["value"] [("start", .int 0), ("stop", last)]).bind args keywords with
    | [v, lower, upper] => indexOf items v lower upper
    | _ => .ok .none
  | "count" => do
    match ← (positional name ["value"] []).bind args keywords with
    | [v] => return .int ((items.filter (Value.same v)).length)
    | _ => .ok .none
  | _ => .error (.noAttribute "list" name)

def rangeMethod (name : String) (start stop step : Int) (args : List Value) (keywords : Keywords) :
    Except Fault Value := do
  match ← (positional name ["value"] []).bind args keywords with
  | [v] =>
    match name, Value.rangePosition? start stop step v with
    | "count", found => return .int (if found.isSome then 1 else 0)
    | _, some i => return .int i
    | _, none => .error (.wrongValue (v.quoted ++ " is not in range"))
  | _ => .ok .none

def precisionArg (t : Moment) (v : Value) : Except Fault Moment.Precision :=
  match v with
  | .str "auto" => .ok t.precision
  | .str "hours" => .ok .hours
  | .str "minutes" => .ok .minutes
  | .str "seconds" => .ok .seconds
  | .str "milliseconds" => .ok .milliseconds
  | .str "microseconds" => .ok .microseconds
  | .str _ => .error (.wrongValue "Unknown timespec value")
  | v => .error (.wrongType ("isoformat() argument 2 must be str, not " ++ v.typeName))

def momentMethod (t : Moment) (args : List Value) (keywords : Keywords) : Except Fault Value := do
  match ← (named "isoformat" [] [("sep", .str "T"), ("timespec", .str "auto")]).bind args keywords
    with
  | [sep, timespec] =>
    let s ← textArg sep
    if s.length == 1 then return .str (t.isoText (String.ofList s) (← precisionArg t timespec))
    else .error (.wrongType "isoformat() argument 1 must be a unicode character")
  | _ => .ok .none

/-- What a node holds now; something else may have been put in the place of its properties. -/
def heldBy (st : Store) (id : Nat) (n : Node) : Except Fault Entries :=
  match st.extras.lookup (.node id, "properties") with
  | none => .ok n.properties
  | some v =>
    match v.entries? with
    | some entries => .ok entries
    | none => .error (.wrongType ("argument of type '" ++ v.typeName ++ "' is not iterable"))

def nodeMethod (st : Store) (id : Nat) (n : Node) (name : String) (args : List Value)
    (keywords : Keywords) : Except Fault Value :=
  match name with
  | "has_property" => do
    let key ← Value.keyOf
      ((← (named name ["property_name"] []).bind args keywords).headD .none)
    return .bool (Entries.contains (← heldBy st id n) key)
  | "get_property" => do
    let key ← Value.keyOf
      ((← (named name ["property_name"] []).bind args keywords).headD .none)
    return (Entries.find? (← heldBy st id n) key).getD .none
  | "get_node_type" =>
    let held := st.extras.lookup (.node id, "node_type")
    noArgs name (held.getD (st.typeValue n.type)) args keywords
  | "get_path" => noArgs name n.path args keywords
  | "get_identifier" => noArgs name n.identifier args keywords
  | _ => .error (.noAttribute "Node" name)

def pathArg (v : Value) : Except Fault String :=
  match v with
  | .str s => .ok s
  | .bytes _ => .error (.wrongType "a bytes-like object is required, not 'str'")
  | v => .error (.noAttribute v.typeName "split")

def nodeTypeMethod (st : Store) (t : NodeType) (name : String) (args : List Value)
    (keywords : Keywords) : Except Fault Value :=
  match name with
  | "get_declared_super_types" => noArgs name (.list (t.supers.map st.typeValue) 0) args keywords
  | "has_configuration" => do
    let path ← pathArg ((← (named name ["path"] []).bind args keywords).headD .none)
    return .bool (t.hasConfig path)
  | "get_configuration" => do
    match ← (named name ["path"] [("default", .none)]).bind args keywords with
    | [path, default] => return (t.config? (← pathArg path)).getD default
    | _ => .ok .none
  | _ => .error (.noAttribute "NodeType" name)

def assetMethod (a : Asset) (name : String) (args : List Value) (keywords : Keywords) :
    Eval Value := do
  let _ ← ofFault (noArgs name .none args keywords)
  let bytes ← ofFault (Attachment.content (← get).files a)
  let id ← newCursor (.bytes bytes 0)
  match a.content with
  | .memory _ => return .stream "BytesIO" id
  | .file _ => return .stream "BufferedReader" id

/-- A number of bytes to read: all that are left for null and for a negative number. -/
def amountArg (most : Nat) (v : Value) : Except Fault Nat :=
  match v with
  | .none => .ok most
  | _ => limitArg most v

/-- The lines of bytes, with their ends. -/
def byteLines : Nat → List UInt8 → List (List UInt8)
  | 0, _ => []
  | _, [] => []
  | fuel + 1, bytes =>
    let n := lineLength bytes
    bytes.take n :: byteLines fuel (bytes.drop n)

/-- Reads on from where a stream stands. -/
def streamMethod (id : Nat) (name : String) (args : List Value) (keywords : Keywords) :
    Eval Value := do
  match ← cursor id with
  | .bytes content position =>
    let rest := content.drop position
    let advanceBy (n : Nat) (v : Value) : Eval Value := do
      setCursor id (.bytes content (position + n))
      return v
    match name with
    | "read" =>
      let vs ← ofFault ((positional name [] [("size", .int (-1))]).bind args keywords)
      let n ← ofFault (amountArg rest.length (vs.headD .none))
      advanceBy n (.bytes (rest.take n))
    | "readline" =>
      let vs ← ofFault ((positional name [] [("size", .int (-1))]).bind args keywords)
      let n := min (← ofFault (amountArg rest.length (vs.headD .none))) (lineLength rest)
      advanceBy n (.bytes (rest.take n))
    | "readlines" =>
      let _ ← ofFault ((positional name [] [("hint", .int (-1))]).bind args keywords)
      advanceBy rest.length (.list ((byteLines rest.length rest).map .bytes) 0)
    | "seek" =>
      let vs ← ofFault ((positional name ["offset"] []).bind args keywords)
      let n ← ofFault (sizedArg Value.indexLimit (vs.headD .none))
      if n < 0 then fault (.wrongValue "negative seek value")
      else
        setCursor id (.bytes content n.toNat)
        return .int n
    | "tell" => ofFault (noArgs name (.int position) args keywords)
    | _ => ofFault (noArgs name (.bytes content) args keywords)
  | _ => return .none

/-- A method of a value of its own type, but not of the indexing helper. -/
def boundMethod (I : Interp) (receiver : Value) (name : String) (args : List Value)
    (keywords : Keywords) : Eval Value := do
  let st ← get
  match receiver with
  | .str s => textMethod I name s.toList args keywords
  | .dict entries mark => ofFault (dictMethod name entries mark args keywords)
  | .list items _ => ofFault (sequenceMethod name items args keywords)
  | .tuple items _ => ofFault (sequenceMethod name items args keywords)
  | .range start stop step _ => ofFault (rangeMethod name start stop step args keywords)
  | .moment t _ => ofFault (momentMethod t args keywords)
  | .node ref =>
    match st.node? ref.id with
    | some n => ofFault (nodeMethod st ref.id n name args keywords)
    | none => return .none
  | .nodeType ref =>
    match st.type? ref.id with
    | some t => ofFault (nodeTypeMethod st t name args keywords)
    | none => return .none
  | .asset a _ => assetMethod a name args keywords
  | .stream _ id => streamMethod id name args keywords
  | v => fault (.noAttribute v.typeName name)

/-- A method of a value; one of a type takes the value first. -/
def valueMethod (I : Interp) (receiver : Value) (name : String) (args : List Value)
    (keywords : Keywords) : Eval Value := do
  match receiver with
  | .builtin b =>
    match args with
    | v :: rest =>
      if typeOf? v == some b then boundMethod I v name rest keywords
      else fault (.wrongType ("descriptor '" ++ name ++ "' for '" ++ b.name ++
        "' objects doesn't apply to a '" ++ v.typeName ++ "' object"))
    | [] =>
      fault (.wrongType ("unbound method " ++ b.name ++ "." ++ name ++ "() needs an argument"))
  | v => boundMethod I (← current v) name args keywords
where
  typeOf? : Value → Option Builtin
    | .str _ => some .str
    | .dict .. => some .dict
    | .list .. => some .list
    | .tuple .. => some .tuple
    | .range .. => some .range
    | _ => none

end ContentIndex.Eval
