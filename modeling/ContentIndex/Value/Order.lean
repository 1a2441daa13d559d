import ContentIndex.Value.Key

/-!
# Equality and order of values

Numbers are compared by value across their kinds, sequences element by element, dictionaries and
sets by their keys. Values without an order between them have no comparison.
-/

namespace ContentIndex

set_option autoImplicit false

namespace Value

/-- A number of either kind. -/
inductive Number where
  | int (n : Int)
  | float (x : Float)

def number? : Value → Option Number
  | .bool b => some (.int (if b then 1 else 0))
  | .int n => some (.int n)
  | .float x => some (.float x)
  | .nan _ => some (.float (0 / 0))
  | _ => Option.none

def intOf? : Value → Option Int
  | .bool b => some (if b then 1 else 0)
  | .int n => some n
  | _ => Option.none

/-- Whether a range holds a number. -/
def rangeHolds (start stop step n : Int) : Bool :=
  let inside := if step > 0 then start ≤ n && n < stop else stop < n && n ≤ start
  inside && (n - start) % step == 0

/-- The position in a range of the number that equals a value. -/
def rangePosition? (start stop step : Int) (v : Value) : Option Int :=
  let whole :=
    match number? v with
    | some (.int n) => some n
    | some (.float x) => Decimal.integer? x
    | Option.none => Option.none
  whole.bind fun n =>
    if rangeHolds start stop step n then some ((n - start) / step) else Option.none

def Number.equal : Number → Number → Bool
  | .int a, .int b => a == b
  | .int a, .float y => Decimal.compareInt? y a == some .eq
  | .float x, .int b => Decimal.compareInt? x b == some .eq
  | .float x, .float y => x == y

def moments (a b : Moment) : Bool :=
  a.compare? b == some .eq

/-- Whether a value is a view that may be combined and compared like a set. -/
def isSetView : Value → Bool
  | .view .keys .. => true
  | .view .items .. => true
  | _ => false

/-- Elements of a set, or of a view that may be compared like one. -/
def setLike? : Value → Option (List Value)
  | .set items _ => some items
  | .view .keys entries _ _ => some (entries.map (·.1))
  | .view .items entries _ _ => some (entries.map fun e => .tuple [e.1, e.2] 0)
  | _ => Option.none

def includedIn (items others : List Value) : Bool :=
  items.all fun v => (v.key?.map (keyAmong others)).getD false

/-- Equality of two values of which one is no plain value, or of different kinds. -/
def equalOtherwise (v w : Value) : Bool :=
  if isSetView v || isSetView w then
    match setLike? v, setLike? w with
    | some a, some b => a.length == b.length && includedIn a b
    | _, _ => false
  else identical v w

mutual
def equal : Value → Value → Bool
  | .none, .none => true
  | .bool a, w => (number? w).any (Number.equal (.int (if a then 1 else 0)))
  | .int a, w => (number? w).any (Number.equal (.int a))
  | .float x, w => (number? w).any (Number.equal (.float x))
  | .nan _, _ => false
  | .str a, .str b => a == b
  | .bytes a, .bytes b => a == b
  | .list a _, .list b _ => equalAll a b
  | .tuple a _, .tuple b _ => equalAll a b
  | .set a _, .set b _ => a.length == b.length && includedIn a b
  | .dict a _, .dict b _ => a.length == b.length && entriesIn a b
  | .range a b c _, .range x y z _ => rangeKey a b c == rangeKey x y z
  | .view .items a _ _, .view .items b _ _ => a.length == b.length && entriesIn a b
  | .moment a _, .moment b _ => moments a b
  | .rule a b c d _, .rule w x y z _ => equal a w && equal b x && equal c y && equal d z
  | .union a, .union b => a.length == b.length && includedIn a b
  | .method a m _, .method b n _ => m == n && identical a b
  | v, w => equalOtherwise v w

/-- Elements are also equal if they are one and the same. -/
def equalAll : List Value → List Value → Bool
  | [], [] => true
  | v :: vs, w :: ws => (identical v w || equal v w) && equalAll vs ws
  | _, _ => false

def entriesIn : List (Value × Value) → List (Value × Value) → Bool
  | [], _ => true
  | (k, v) :: rest, other =>
    (match k.key? with
      | some key =>
        match Entries.find? other key with
        | some w => identical v w || equal v w
        | Option.none => false
      | Option.none => false) && entriesIn rest other
end

/-- Equality of elements: a value is always the same as itself. -/
def same (v w : Value) : Bool :=
  identical v w || equal v w

/-- The order between two numbers; none if one is not a number. -/
def Number.compare? : Number → Number → Option Ordering
  | .int a, .int b => some (compare a b)
  | .int a, .float y => (Decimal.compareInt? y a).map Ordering.swap
  | .float x, .int b => Decimal.compareInt? x b
  | .float x, .float y =>
    if x < y then some .lt else if y < x then some .gt else if x == y then some .eq else Option.none

def compareChars : List Char → List Char → Ordering
  | [], [] => .eq
  | [], _ => .lt
  | _, [] => .gt
  | a :: as, b :: bs => (compare a.toNat b.toNat).then (compareChars as bs)

def compareBytes : List UInt8 → List UInt8 → Ordering
  | [], [] => .eq
  | [], _ => .lt
  | _, [] => .gt
  | a :: as, b :: bs => (compare a.toNat b.toNat).then (compareBytes as bs)

/-- Outcome of a comparison: an order, unordered numbers, or values that have no order. -/
inductive Comparison where
  | ordered (o : Ordering)
  | unordered
  | inclusion (within contains : Bool)
  | impossible
  deriving DecidableEq, Repr

/-- The order between values that are no sequences. -/
def compareOtherwise (v w : Value) : Comparison :=
  match setLike? v, setLike? w with
  | some a, some b => .inclusion (includedIn a b) (includedIn b a)
  | _, _ =>
    match number? v, number? w with
    | some a, some b =>
      match a.compare? b with
      | some o => .ordered o
      | Option.none => .unordered
    | _, _ => .impossible

mutual
def compareWith : Value → Value → Comparison
  | .str a, .str b => .ordered (compareChars a.toList b.toList)
  | .bytes a, .bytes b => .ordered (compareBytes a b)
  | .list a _, .list b _ => compareItems a b
  | .tuple a _, .tuple b _ => compareItems a b
  | .moment a _, .moment b _ =>
    match a.compare? b with
    | some o => .ordered o
    | Option.none => .impossible
  | .filePath a, .filePath b =>
    .ordered (compareChars ("/".intercalate a.names).toList ("/".intercalate b.names).toList)
  | v, w => compareOtherwise v w

/-- Sequences are compared at the first elements that differ. -/
def compareItems : List Value → List Value → Comparison
  | [], [] => .ordered .eq
  | [], _ :: _ => .ordered .lt
  | _ :: _, [] => .ordered .gt
  | v :: vs, w :: ws => if same v w then compareItems vs ws else compareWith v w
end

/-- Whether an order relation holds, if it is defined. -/
def Comparison.holds? (c : Comparison) (op : CompareOp) : Option Bool :=
  match c with
  | .impossible => Option.none
  | .unordered => some false
  | .ordered o =>
    match op with
    | .lt => some (o == .lt)
    | .le => some (o != .gt)
    | .gt => some (o == .gt)
    | .ge => some (o != .lt)
    | _ => Option.none
  | .inclusion within contains =>
    match op with
    | .lt => some (within && !contains)
    | .le => some within
    | .gt => some (contains && !within)
    | .ge => some contains
    | _ => Option.none

end Value

end ContentIndex
