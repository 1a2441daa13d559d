import ContentIndex.Value.Sets

/-!
# Views combined like sets

A view of keys or of items can be combined with anything that lists values, on either side; the
result is a set. Values without a key cannot become its elements. Such a view is compared with
sets and with other such views by what both hold.
-/

namespace ContentIndex.Value

set_option autoImplicit false

/-- Whether a view holds a value; an item is looked up by its key. -/
def viewHolds (kind : ViewKind) (entries : Entries) (v : Value) : Except Fault Bool :=
  match kind, v with
  | .items, .tuple [key, w] _ => do
    match Entries.find? entries (← keyOf key) with
    | some x => return same x w
    | Option.none => return false
  | .items, _ => .ok false
  | _, _ => do return (Entries.find? entries (← keyOf v)).isSome

/-- Whether a set holds a value; a set is looked for by its elements, but is never found. -/
def setHolds (items : List Value) (v : Value) : Except Fault Bool :=
  match v with
  | .set .. => .ok false
  | _ => (keyOf v).map (keyAmong items)

/-- Whether a set, or a view that can be compared like one, holds a value. -/
def holds (collection v : Value) : Except Fault Bool :=
  match collection with
  | .set items _ => setHolds items v
  | .view kind entries _ _ => viewHolds kind entries v
  | _ => .ok false

def holdsAll (collection : Value) : List Value → Except Fault Bool
  | [] => .ok true
  | v :: vs => do if ← holds collection v then holdsAll collection vs else return false

/-- Comparison of a view with a set or another view; none unless the other value is one. Values
without a key cannot be looked up in a set. -/
def compareView? (op : CompareOp) (view other : Value) : Option (Except Fault Bool) :=
  match setLike? view, setLike? other with
  | some a, some b =>
    match op with
    | .eq => some (if a.length == b.length then holdsAll other a else .ok false)
    | .ne => some (if a.length == b.length then (holdsAll other a).map (!·) else .ok true)
    | .lt => some (if a.length < b.length then holdsAll other a else .ok false)
    | .le => some (if a.length ≤ b.length then holdsAll other a else .ok false)
    | .gt => some (if b.length < a.length then holdsAll view b else .ok false)
    | .ge => some (if b.length ≤ a.length then holdsAll view b else .ok false)
    | _ => Option.none
  | _, _ => Option.none

def swapped : CompareOp → CompareOp
  | .lt => .gt
  | .le => .ge
  | .gt => .lt
  | .ge => .le
  | op => op

/-- Comparison of two values of which one is a view like a set; the view decides. -/
def compareViews? (op : CompareOp) (v w : Value) : Option (Except Fault Bool) :=
  if isSetView v then compareView? op v w
  else if isSetView w then compareView? (swapped op) w v
  else Option.none

/-- The elements of a value, each with a key. -/
def setElements (v : Value) : Except Fault (List Value) :=
  match v.listed? with
  | some items => do
    let _ ← items.mapM keyOf
    return dedup items
  | Option.none => .error (.wrongType ("'" ++ v.typeName ++ "' object is not iterable"))

/-- What a view and another collection both hold: taken from a set that is smaller than the view
and from whatever is no set, else from the view. -/
def commonWithView (kind : ViewKind) (entries : Entries) (other : Value) : Except Fault Value := do
  match other with
  | .set items _ =>
    if entries.length ≤ items.length then
      return ofElements (kept (← setElements (.view kind entries 0 0)) items true)
  | _ => pure ()
  match other.listed? with
  | some items =>
    let found ← items.filterM (viewHolds kind entries)
    return ofElements (← setElements (.list found 0))
  | Option.none => .error (.wrongType ("'" ++ other.typeName ++ "' object is not iterable"))

/-- What two values, one of which is a view, both hold; of two views the larger one is searched. -/
def common (a b : Value) : Except Fault Value :=
  match a, b with
  | .view k x _ _, .view l y _ _ =>
    if k == .values then commonWithView l y a
    else if l != .values && x.length < y.length then commonWithView l y a
    else commonWithView k x b
  | .view k x _ _, _ => commonWithView k x b
  | _, .view l y _ _ => commonWithView l y a
  | _, _ => .ok .none

/-- An operator on two values, one of which is a view. -/
def onViews (op : BinaryOp) (a b : Value) : Option (Except Fault Value) :=
  if op == .bitAnd then some (common a b)
  else if combinesSets op then
    some do
      let x ← setElements a
      let y ← setElements b
      return (onSets op x y).getD .none
  else Option.none

end ContentIndex.Value
