import ContentIndex.Error
import ContentIndex.Value.Text

/-!
# Writing values out

The text of a value, unless an integer in it has more digits than are ever written.
-/

namespace ContentIndex.Value

set_option autoImplicit false

/-- Most digits of an integer that is written or read in a base other than a power of two. -/
def digitLimit : Nat := 4300

/-- The least natural with too many digits. -/
def tooLong : Nat := Nat.pow 10 digitLimit

def isLong (n : Int) : Bool :=
  14284 ≤ n.natAbs.log2 && tooLong ≤ n.natAbs

mutual
/-- Whether the text of a value contains an integer with too many digits. -/
def hasLongInt : Value → Bool
  | .int n => isLong n
  | .list items _ => anyLongInt items
  | .tuple items _ => anyLongInt items
  | .set items _ => anyLongInt items
  | .dict entries _ => entryLongInt entries
  | .view .keys entries _ _ => keyLongInt entries
  | .view _ entries _ _ => entryLongInt entries
  | .range start stop step _ => isLong start || isLong stop || isLong step
  | .rule name type indexing extractor _ =>
    hasLongInt name || hasLongInt type || hasLongInt indexing || hasLongInt extractor
  | _ => false

def anyLongInt : List Value → Bool
  | [] => false
  | v :: vs => hasLongInt v || anyLongInt vs

def entryLongInt : List (Value × Value) → Bool
  | [] => false
  | (k, v) :: rest => hasLongInt k || hasLongInt v || entryLongInt rest

def keyLongInt : List (Value × Value) → Bool
  | [] => false
  | (k, _) :: rest => hasLongInt k || keyLongInt rest
end

def exceedsDigits : Fault :=
  .wrongValue "Exceeds the limit (4300 digits) for integer string conversion"

mutual
/-- Collections one in another. -/
def nesting : Value → Nat
  | .list items _ => nestingAll items + 1
  | .tuple items _ => nestingAll items + 1
  | .set items _ => nestingAll items + 1
  | .dict entries _ => nestingEntries entries + 1
  | _ => 0

def nestingAll : List Value → Nat
  | [] => 0
  | v :: vs => max (nesting v) (nestingAll vs)

def nestingEntries : List (Value × Value) → Nat
  | [] => 0
  | (k, v) :: rest => max (max (nesting k) (nesting v)) (nestingEntries rest)
end

/-- Most collections one in another that are shown in a message. -/
def shownLimit : Nat := 982

/-- What keeps a value from being shown in a message. -/
def unshowable? (v : Value) : Option Fault :=
  if v.hasLongInt then .some exceedsDigits
  else if shownLimit < v.nesting then .some .tooDeep
  else Option.none

/-- A problem whose message shows a value, or what keeps the value from being shown. -/
def problemWith (shown : Value) (p : ConfigurationProblem) : Error :=
  match shown.unshowable? with
  | .some f => .fault f
  | .none => .configuration p

/-- The text of a value, as `shown` has it. -/
def written (v : Value) : Except Fault String :=
  if v.hasLongInt then .error exceedsDigits else .ok v.shown

/-- The text of a value as it stands inside others. -/
def writtenQuoted (v : Value) : Except Fault String :=
  if v.hasLongInt then .error exceedsDigits else .ok v.quoted

/-- A text in which every other character than those of ASCII is escaped. -/
def asciiOnly (s : String) : String :=
  String.ofList (s.toList.flatMap fun c =>
    if c.toNat < 127 then [c]
    else if c.toNat < 0x100 then '\\' :: 'x' :: Text.hexDigits 2 c.toNat
    else if c.toNat < 0x10000 then '\\' :: 'u' :: Text.hexDigits 4 c.toNat
    else '\\' :: 'U' :: Text.hexDigits 8 c.toNat)

end ContentIndex.Value
