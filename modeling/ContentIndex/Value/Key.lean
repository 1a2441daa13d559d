import ContentIndex.Decimal.Binary64
import ContentIndex.Value.Basic
import Std.Data.HashMap
import Std.Data.HashSet

/-!
# Keys

Values that may stand as keys of a dictionary have a canonical key; two of them are the same key
exactly when their canonical keys are equal. Numbers of equal value share a key whatever their
kind; what is told apart by a mark has the mark as its key. A dictionary keeps its keys in the
order of their first insertion.

Another canonical form tells one and the same value from equal ones.
-/

namespace ContentIndex

set_option autoImplicit false

inductive KeyAtom where
  | none
  | int (n : Int)
  | float (bits : UInt64)
  | str (s : String)
  | bytes (b : List UInt8)
  | opened
  | closed
  | instant (aware : Bool) (n : Int)
  | node (id : Nat)
  | nodeType (id : Nat)
  | mark (n : Nat)
  | numbered (kind : String) (id : Nat)
  | filePath (p : FilePath)
  | object (kind name : String)
  deriving DecidableEq, Hashable, Repr

abbrev Key := List KeyAtom

namespace Value

def floatKey (x : Float) : KeyAtom :=
  match Decimal.integer? x with
  | some n => .int n
  | Option.none => .float x.toBits

def rangeKey (start stop step : Int) : Key :=
  match rangeLength start stop step with
  | 0 => [.object "range" "", .int 0]
  | 1 => [.object "range" "", .int 1, .int start]
  | n => [.object "range" "", .int n, .int start, .int step]

/-- A mark that has been given out. -/
def marked? (mark : Nat) : Option KeyAtom :=
  if mark == 0 then Option.none else some (.mark mark)

/-- What a value has in common only with itself; single values, texts and the empty tuple are one
with every value of their kind and content. -/
def identity? : Value → Option KeyAtom
  | .none => some .none
  | .bool b => some (.object "bool" (if b then "True" else "False"))
  | .int n => some (.int n)
  | .float x => some (.float x.toBits)
  | .str s => some (.str s)
  | .bytes b => some (.bytes b)
  | .tuple [] _ => some (.object "tuple" "")
  | .nan mark => marked? mark
  | .list _ mark => marked? mark
  | .tuple _ mark => marked? mark
  | .set _ mark => marked? mark
  | .dict _ mark => marked? mark
  | .range _ _ _ mark => marked? mark
  | .view _ _ _ mark => marked? mark
  | .moment _ mark => marked? mark
  | .node ref => some (.node ref.id)
  | .nodeType ref => some (.nodeType ref.id)
  | .rule _ _ _ _ mark => marked? mark
  | .asset _ mark => marked? mark
  | .filePath p => some (.filePath p)
  | .stream _ id => some (.numbered "stream" id)
  | .helper mark => marked? mark
  | .object typeName mark =>
    if mark == 0 then some (.object "object" typeName) else some (.mark mark)
  | .cursor _ id => some (.numbered "cursor" id)
  | .builtin b => some (.object "builtin" b.name)
  | .function f => some (.object "function" f.name)
  | .typeObject t => some (.object "type" t.name)
  | .union _ => Option.none
  | .module name => some (.object "module" name)
  | .method _ _ mark => marked? mark
  | .closure _ _ _ _ _ mark => marked? mark

/-- Whether two values are one and the same. -/
def identical (v w : Value) : Bool :=
  match identity? v, identity? w with
  | some a, some b => a == b
  | _, _ => false

mutual
/-- The canonical key; none for values that may change. -/
def key? : Value → Option Key
  | .none => some [.none]
  | .bool b => some [.int (if b then 1 else 0)]
  | .int n => some [.int n]
  | .float x => some [floatKey x]
  | .nan mark => some [.mark mark]
  | .str s => some [.str s]
  | .bytes b => some [.bytes b]
  | .list .. => Option.none
  | .tuple items _ => (keys? items).map fun ks => .opened :: ks ++ [.closed]
  | .set .. => Option.none
  | .dict .. => Option.none
  | .range start stop step _ => some (rangeKey start stop step)
  | .view .values _ _ mark => some [.mark mark]
  | .view .. => Option.none
  | .moment t _ => some [.instant t.offset.isSome t.instant]
  | .node ref => some [.node ref.id]
  | .nodeType ref => some [.nodeType ref.id]
  | .rule name type indexing extractor _ =>
    match key? name, key? type, key? indexing, key? extractor with
    | some a, some b, some c, some d =>
      some (.object "rule" "" :: .opened :: a ++ b ++ c ++ d ++ [.closed])
    | _, _, _, _ => Option.none
  | .asset _ mark => some [.mark mark]
  | .filePath p => some [.filePath p]
  | .stream _ id => some [.numbered "stream" id]
  | .helper mark => some [.mark mark]
  | .object "slice" _ => Option.none
  | .object typeName mark =>
    some [if mark == 0 then .object "object" typeName else .mark mark]
  | .cursor _ id => some [.numbered "cursor" id]
  | .builtin b => some [.object "builtin" b.name]
  | .function f => some [.object "function" f.name]
  | .typeObject t => some [.object "type" t.name]
  | .union members => (keys? members).map fun ks => .object "union" "" :: ks
  | .module name => some [.object "module" name]
  | .method receiver name _ =>
    (identity? receiver).map fun owner => [.object "method" name, owner]
  | .closure _ _ _ _ _ mark => some [.mark mark]

def keys? : List Value → Option Key
  | [] => some []
  | v :: vs =>
    match key? v, keys? vs with
    | some k, some ks => some (k ++ ks)
    | _, _ => Option.none
end

def hasKey (key : Key) (v : Value) : Bool :=
  v.key? == some key

end Value

namespace Entries

def find? (entries : Entries) (key : Key) : Option Value :=
  match entries with
  | [] => none
  | (k, v) :: rest => if k.hasKey key then some v else find? rest key

def contains (entries : Entries) (key : Key) : Bool :=
  (find? entries key).isSome

/-- Replaces the value of a key that is there, and appends another one. -/
def insert (entries : Entries) (key : Value) (value : Value) : Entries :=
  match entries with
  | [] => [(key, value)]
  | (k, v) :: rest =>
    if k.key? == key.key? then (k, value) :: rest else (k, v) :: insert rest key value

def erase (entries : Entries) (key : Key) : Entries :=
  entries.filter fun e => !e.1.hasKey key

/-- Entries in the order of the first insertion of their keys, the values being the last ones that
the table holds. -/
def listed (order : List (Value × Key)) (values : Std.HashMap Key Value) : Entries :=
  order.filterMap fun (key, k) => (values[k]?).map fun v => (key, v)

/-- The dictionary that inserting the entries one by one makes; entries whose key may change are
left out. -/
def ofList (entries : List (Value × Value)) : Entries :=
  let step (acc : List (Value × Key) × Std.HashMap Key Value) (e : Value × Value) :=
    match e.1.key? with
    | some k => (if acc.2.contains k then acc.1 else (e.1, k) :: acc.1, acc.2.insert k e.2)
    | none => acc
  let (order, values) := entries.foldl step ([], ∅)
  listed order.reverse values

def findText? (entries : Entries) (key : String) : Option Value :=
  find? entries [.str key]

def insertText (entries : Entries) (key : String) (value : Value) : Entries :=
  insert entries (.str key) value

def eraseText (entries : Entries) (key : String) : Entries :=
  erase entries [.str key]

end Entries

namespace Value

/-- Whether a key is among those of a list of values. -/
def keyAmong (items : List Value) (key : Key) : Bool :=
  items.any (·.hasKey key)

def keySet (items : List Value) : Std.HashSet Key :=
  items.foldl (fun known v => (v.key?.map known.insert).getD known) ∅

/-- Keeps the first of the values that share a key, and drops those without one. -/
def dedup (items : List Value) : List Value :=
  let step (acc : List Value × Std.HashSet Key) (v : Value) :=
    match v.key? with
    | some k => if acc.2.contains k then acc else (v :: acc.1, acc.2.insert k)
    | Option.none => acc
  (items.foldl step ([], ∅)).1.reverse

end Value

end ContentIndex
