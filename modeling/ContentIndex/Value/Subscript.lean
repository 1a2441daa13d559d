import ContentIndex.Error
import ContentIndex.Value.Sets

/-!
# Elements and slices

Positions count from zero, negative ones from the end. A slice clips its bounds to the sequence;
its step may run backwards. Elements of lists and entries of dictionaries can be replaced, and a
part of a list can be replaced by other elements.
-/

namespace ContentIndex.Value

set_option autoImplicit false

/-- A position as it stands in a sequence of the given length. -/
def position? (length : Nat) (i : Int) : Option Nat :=
  let j := if i < 0 then i + length else i
  if 0 ≤ j && j < length then some j.toNat else Option.none

/-- A bound of a slice, clipped to the sequence: `low` and `high` are the limits for its step. -/
def clip (length : Nat) (low high : Int) (i : Int) : Int :=
  let j := if i < 0 then i + length else i
  min high (max low j)

structure Span where
  start : Int
  stop : Int
  step : Int

def Span.of (length : Nat) (lower upper step : Option Int) : Option Span :=
  let s := step.getD 1
  let n := Int.ofNat length
  if s == 0 then Option.none
  else if s > 0 then
    some ⟨(lower.map (clip length 0 n)).getD 0, (upper.map (clip length 0 n)).getD n, s⟩
  else
    some ⟨(lower.map (clip length (-1) (n - 1))).getD (n - 1),
      (upper.map (clip length (-1) (n - 1))).getD (-1), s⟩

def Span.positions (span : Span) : List Nat :=
  (List.range (rangeLength span.start span.stop span.step)).map fun i =>
    (rangeItem span.start span.step i).toNat

def Span.pick {α : Type} (span : Span) (items : List α) : List α :=
  let all := items.toArray
  span.positions.filterMap fun i => all[i]?

def bound (v : Value) : Except Fault (Option Int) :=
  match v with
  | .none => .ok Option.none
  | _ =>
    match intOf? v with
    | some n => .ok (some n)
    | Option.none => .error (.wrongType "slice indices must be integers or None")

def unsubscriptable (v : Value) : Fault :=
  .wrongType ("'" ++ v.typeName ++ "' object is not subscriptable")

def sequenceLength? : Value → Option Nat
  | .str s => some s.length
  | .bytes b => some b.length
  | .list items _ => some items.length
  | .tuple items _ => some items.length
  | .range start stop step _ => some (rangeLength start stop step)
  | _ => Option.none

/-- The part of a sequence of the given length that the bounds and the step describe; the step is
looked at first. -/
def spanOf (n : Nat) (lower upper step : Value) : Except Fault Span := do
  let s ← bound step
  if s == some 0 then .error (.wrongValue "slice step cannot be zero")
  else
    let l ← bound lower
    let u ← bound upper
    match Span.of n l u s with
    | Option.none => .error (.wrongValue "slice step cannot be zero")
    | some span => return span

/-- Whether a span takes every element, in order. -/
def Span.isWhole (span : Span) (n : Nat) : Bool :=
  span.start == 0 && span.stop == Int.ofNat n && span.step == 1

def sliced (v lower upper step : Value) : Except Fault Value :=
  match sequenceLength? v with
  | Option.none => .error (unsubscriptable v)
  | some n => do
    let span ← spanOf n lower upper step
    match v with
    | .str s => .ok (chars (span.pick s.toList))
    | .bytes b => .ok (.bytes (span.pick b))
    | .list items _ => .ok (.list (span.pick items) 0)
    | .tuple items mark => .ok (.tuple (span.pick items) (if span.isWhole n then mark else 0))
    | .range start _ k _ =>
      .ok (.range (start + span.start * k) (start + span.stop * k) (k * span.step) 0)
    | _ => .error (unsubscriptable v)

def itemAt? (v : Value) (i : Nat) : Option Value :=
  match v with
  | .str s => s.toList[i]?.map fun c => chars [c]
  | .bytes b => b[i]?.map fun x => .int x.toNat
  | .list items _ => items[i]?
  | .tuple items _ => items[i]?
  | .range start _ step _ => some (.int (rangeItem start step i))
  | _ => Option.none

/-- Types that take other types as parameters. -/
def isParametric : Value → Bool
  | .builtin b => [.list, .dict, .tuple, .set, .enumerate].contains b
  | _ => false

def elementOf (v index : Value) : Except Fault Value :=
  match v.entries? with
  | some entries => do
    let key ← keyOf index
    match Entries.find? entries key with
    | some w => .ok w
    | Option.none => .error (.noKey index)
  | Option.none =>
    match sequenceLength? v with
    | Option.none => .error (unsubscriptable v)
    | some n =>
      match intOf? index with
      | Option.none =>
        .error (.wrongType (v.typeName ++ " indices must be integers or slices, not " ++
          index.typeName))
      | some i =>
        match (position? n i).bind (itemAt? v) with
        | some w => .ok w
        | Option.none =>
          let what := if v.typeName == "str" then "string" else v.typeName
          .error (.outOfRange what)

def subscript (v index : Value) : Except Fault Value :=
  if isParametric v then .ok (.object "GenericAlias" 0) else elementOf v index

def unassignable (v : Value) : Fault :=
  .wrongType ("'" ++ v.typeName ++ "' object does not support item assignment")

/-- A collection after one of its elements has been replaced, or an entry put. -/
def withElement (v index element : Value) : Except Fault Value :=
  match v with
  | .dict entries mark => do
    let _ ← keyOf index
    return .dict (Entries.insert entries index element) mark
  | .list items mark =>
    match intOf? index with
    | Option.none => .error (.wrongType "list indices must be integers or slices")
    | some i =>
      match position? items.length i with
      | some j => .ok (.list (items.set j element) mark)
      | Option.none => .error (.outOfRange "list assignment")
  | _ => .error (unassignable v)

/-- Elements with those at the given positions replaced. -/
def replaceAt (items : List Value) (positions : List Nat) (elements : List Value) : List Value :=
  (positions.zip elements).foldl (fun vs (i, v) => vs.set i v) items

/-- A list after a part of it has been replaced; a part with a step keeps its length. -/
def withPart (v : Value) (span : Span) (elements : List Value) : Except Fault Value :=
  match v with
  | .list items mark =>
    if span.step == 1 then
      let start := span.start.toNat
      .ok (.list (items.take start ++ elements ++ items.drop (max start span.stop.toNat)) mark)
    else if span.positions.length == elements.length then
      .ok (.list (replaceAt items span.positions elements) mark)
    else .error (.wrongValue "attempt to assign a sequence of another size to an extended slice")
  | _ => .error (unassignable v)

end ContentIndex.Value
