import ContentIndex.Decimal.Binary64
import ContentIndex.Decimal.Places
import ContentIndex.Value.Subscript
import ContentIndex.Value.Written

/-!
# Patterns

A pattern is a text, or a sequence of bytes, with marks for values: a percent sign, then a name in
parentheses, flags, a width, a precision and a letter, all but the letter optional. The values are
the elements of a tuple in order, the entries of a mapping by name, or a single value. All values
of a tuple have to be used, and so has a single one unless it can be looked into.
-/

namespace ContentIndex.Value

set_option autoImplicit false

/-- The values left to fill marks with. -/
structure Supply where
  mapping : Option Value
  waiting : List Value

/-- Whether a value can be looked into by name or position. -/
def isMapping : Value → Bool
  | .dict .. => true
  | .list .. => true
  | .range .. => true
  | .bytes _ => true
  | .union _ => true
  | .object typeName _ => typeName == "GenericAlias"
  | _ => false

def Supply.of (textual : Bool) (v : Value) : Supply :=
  match v with
  | .tuple items _ => ⟨Option.none, items⟩
  | _ =>
    let usable := isMapping v && (textual || !(v matches .bytes _))
    ⟨if usable then some v else Option.none, [v]⟩

/-- The next value, for a mark or for a width or precision. -/
def Supply.next (s : Supply) : Except Fault (Value × Supply) :=
  match s.waiting with
  | v :: rest => .ok (v, { s with waiting := rest })
  | [] => .error (.wrongType "not enough arguments for format string")

structure Flags where
  left : Bool
  plus : Bool
  blank : Bool
  alternate : Bool
  zero : Bool

/-- What stands between the percent sign and the letter. -/
structure Layout where
  flags : Flags
  width : Nat
  precision : Option Nat

def indexLimit : Int := 9223372036854775808

/-- What stands before the closing parenthesis that belongs to an opening one, and after it. -/
def enclosed? : Nat → List Char → Option (List Char × List Char)
  | _, [] => Option.none
  | 0, ')' :: rest => some ([], rest)
  | depth + 1, ')' :: rest => (enclosed? depth rest).map fun (s, r) => (')' :: s, r)
  | depth, '(' :: rest => (enclosed? (depth + 1) rest).map fun (s, r) => ('(' :: s, r)
  | depth, c :: rest => (enclosed? depth rest).map fun (s, r) => (c :: s, r)

def isFlag (c : Char) : Bool :=
  ['-', '+', ' ', '#', '0'].contains c

/-- A number of ASCII digits, or a value in its place; negative values are allowed. -/
def readAmount (limit : Int) (what : String) (s : List Char) (supply : Supply) :
    Except Fault (Option Int × List Char × Supply) :=
  match s with
  | '*' :: rest => do
    let (v, supply) ← supply.next
    match intOf? v with
    | Option.none => .error (.wrongType "* wants int")
    | some n =>
      if n < -limit || limit ≤ n then .error (.tooLarge "number too large for a format")
      else return (some n, rest, supply)
  | _ =>
    let digits := s.takeWhile Text.isAsciiDigit
    if digits.isEmpty then .ok (Option.none, s, supply)
    else
      let n := Text.ofDigits 10 (digits.map fun c => c.toNat - 48)
      if limit ≤ Int.ofNat n then .error (.wrongValue (what ++ " too big"))
      else .ok (some (Int.ofNat n), s.drop digits.length, supply)

/-- The value of a name in parentheses becomes the only one to fill marks with. -/
def readName (textual : Bool) (s : List Char) (supply : Supply) :
    Except Fault (List Char × Supply) :=
  match s with
  | '(' :: inner =>
    match supply.mapping with
    | Option.none => .error (.wrongType "format requires a mapping")
    | some mapping =>
      match enclosed? 0 inner with
      | Option.none => .error (.wrongValue "incomplete format key")
      | some (name, rest) => do
        let key : Value :=
          if textual then .chars name else .bytes (name.map fun c => UInt8.ofNat c.toNat)
        let v ← subscript mapping key
        return (rest, { supply with waiting := [v] })
  | _ => .ok (s, supply)

/-- A precision after a point. -/
def readPrecision (s : List Char) (supply : Supply) :
    Except Fault (Option Nat × List Char × Supply) :=
  match s with
  | '.' :: rest => do
    let (n, rest, supply) ← readAmount 2147483648 "precision" rest supply
    return (some (n.getD 0).toNat, rest, supply)
  | _ => .ok (Option.none, s, supply)

/-- The layout and the letter of a mark, with what follows them. -/
def readMark (textual : Bool) (s : List Char) (supply : Supply) :
    Except Fault (Layout × Char × List Char × Supply) := do
  let (s, supply) ← readName textual s supply
  let flags := s.takeWhile isFlag
  let (width, s, supply) ← readAmount indexLimit "width" (s.drop flags.length) supply
  let (precision, s, supply) ← readPrecision s supply
  let s :=
    match s with
    | 'h' :: rest => rest
    | 'l' :: rest => rest
    | 'L' :: rest => rest
    | s => s
  match s with
  | [] => .error (.wrongValue "incomplete format")
  | letter :: rest =>
    let toLeft := flags.contains '-' || decide (width.getD 0 < 0)
    return (⟨⟨toLeft, flags.contains '+', flags.contains ' ', flags.contains '#',
      flags.contains '0'⟩, (width.getD 0).natAbs, precision⟩, letter, rest, supply)

/-- What fills a mark: a sign, a marker of the base, and the rest. -/
structure Filling where
  numeric : Bool
  sign : List Char
  base : List Char
  body : List Char

/-- Pads a filling to the width, with zeros between sign and digits if flags ask for it. -/
def Filling.padded (f : Filling) (layout : Layout) : Except Fault (List Char) :=
  let sign :=
    if !f.numeric || !f.sign.isEmpty then f.sign
    else if layout.flags.plus then ['+']
    else if layout.flags.blank then [' ']
    else []
  let gap := layout.width - (sign.length + f.base.length + f.body.length)
  if 100000000 < gap then .error .outOfMemory
  else if layout.flags.left then .ok (sign ++ f.base ++ f.body ++ List.replicate gap ' ')
  else if f.numeric && layout.flags.zero then
    .ok (sign ++ f.base ++ List.replicate gap '0' ++ f.body)
  else .ok (List.replicate gap ' ' ++ sign ++ f.base ++ f.body)

def cutTo (precision : Option Nat) (s : List Char) : List Char :=
  match precision with
  | some n => s.take n
  | Option.none => s

def ofText (layout : Layout) (s : List Char) : Filling :=
  ⟨false, [], [], cutTo layout.precision s⟩

/-- The integer that a number stands for. -/
def wholeOf (letter : Char) (v : Value) : Except Fault Int :=
  let integral := ['o', 'x', 'X'].contains letter
  match number? v with
  | some (.int n) => .ok n
  | some (.float x) =>
    if integral then .error (.wrongType "an integer is required")
    else
      match Decimal.truncate? x with
      | some n => .ok n
      | Option.none =>
        if x.isNaN then .error (.wrongValue "cannot convert float NaN to integer")
        else .error (.tooLarge "cannot convert float infinity to integer")
  | Option.none => .error (.wrongType "a real number is required")

def upperCase (s : List Char) : List Char :=
  s.map Char.toUpper

def ofWhole (letter : Char) (layout : Layout) (n : Int) : Except Fault Filling :=
  let radix := if letter == 'o' then 8 else if letter == 'x' || letter == 'X' then 16 else 10
  if radix == 10 && isLong n then .error exceedsDigits
  else
    let digits := Nat.toDigits radix n.natAbs
    let digits := if letter == 'X' then upperCase digits else digits
    let padding := (layout.precision.getD 0) - digits.length
    if 100000000 < padding then .error .outOfMemory
    else
      let base := if layout.flags.alternate && radix != 10 then ['0', letter] else []
      .ok ⟨true, if n < 0 then ['-'] else [], base, List.replicate padding '0' ++ digits⟩

def floatArg (v : Value) : Except Fault Float :=
  match number? v with
  | some (.float x) => .ok x
  | some (.int n) =>
    match Decimal.ofInt? n with
    | some x => .ok x
    | Option.none => .error (.tooLarge "int too large to convert to float")
  | Option.none => .error (.wrongType ("must be real number, not " ++ v.typeName))

/-- The magnitude of a number in the way that the letter names. -/
def magnitudeText (letter : Char) (layout : Layout) (x : Float) : List Char :=
  let places := layout.precision.getD 6
  match Decimal.fraction? x with
  | Option.none => if x.isNaN then ['n', 'a', 'n'] else ['i', 'n', 'f']
  | some (n, d) =>
    match letter with
    | 'e' => Decimal.scientificText places layout.flags.alternate n.natAbs d
    | 'f' => Decimal.fixedText places layout.flags.alternate n.natAbs d
    | _ => Decimal.generalText places layout.flags.alternate n.natAbs d

def ofFloatAs (letter : Char) (layout : Layout) (x : Float) : Filling :=
  let body := magnitudeText letter.toLower layout x
  let negative := Decimal.isNegative x && !x.isNaN
  ⟨true, if negative then ['-'] else [], [], if letter.isUpper then upperCase body else body⟩

/-- A single character, given as such or by its number. -/
def characterOf (textual : Bool) (v : Value) : Except Fault Char :=
  match v, textual, intOf? v with
  | .str s, true, _ =>
    match s.toList with
    | [c] => .ok c
    | _ => .error (.wrongType "%c requires int or char")
  | .bytes [b], false, _ => .ok (Char.ofNat b.toNat)
  | _, _, some n =>
    if n < 0 || (if textual then 0x110000 else 0x100) ≤ n then
      .error (.tooLarge "%c arg not in range")
    else .ok (Char.ofNat n.toNat)
  | _, _, _ => .error (.wrongType "%c requires int or char")

/-- What fills a mark of a letter. -/
def fillingOf (textual : Bool) (letter : Char) (layout : Layout) (v : Value) :
    Except Fault Filling :=
  match letter with
  | 's' | 'b' =>
    if textual then
      if letter == 's' then do return ofText layout (← written v).toList
      else .error (.wrongValue "unsupported format character")
    else
      match v with
      | .bytes b => .ok (ofText layout (b.map fun x => Char.ofNat x.toNat))
      | _ => .error (.wrongType ("%b requires a bytes-like object, not '" ++ v.typeName ++ "'"))
  | 'r' => do
    let s ← writtenQuoted v
    return ofText layout (if textual then s else asciiOnly s).toList
  | 'a' => do return ofText layout (asciiOnly (← writtenQuoted v)).toList
  | 'd' | 'i' | 'u' | 'o' | 'x' | 'X' => do ofWhole letter layout (← wholeOf letter v)
  | 'e' | 'E' | 'f' | 'F' | 'g' | 'G' => do return ofFloatAs letter layout (← floatArg v)
  | 'c' => do return ⟨false, [], [], [← characterOf textual v]⟩
  | _ => .error (.wrongValue "unsupported format character")

/-- A mark after its percent sign, filled, with what follows it. -/
def fillMark (textual : Bool) (s : List Char) (supply : Supply) :
    Except Fault (List Char × List Char × Supply) := do
  let (layout, letter, rest, supply) ← readMark textual s supply
  let (v, supply) ← supply.next
  return (← (← fillingOf textual letter layout v).padded layout, rest, supply)

/-- Fills the marks of a pattern from left to right. -/
def fill (textual : Bool) : Nat → List Char → Supply → Except Fault (List Char × Supply)
  | 0, s, supply => .ok (s, supply)
  | _ + 1, [], supply => .ok ([], supply)
  | fuel + 1, '%' :: '%' :: rest, supply => do
    let (s, supply) ← fill textual fuel rest supply
    return ('%' :: s, supply)
  | fuel + 1, '%' :: rest, supply => do
    let (filled, rest, supply) ← fillMark textual rest supply
    let (s, supply) ← fill textual fuel rest supply
    return (filled ++ s, supply)
  | fuel + 1, c :: rest, supply => do
    let plain := rest.takeWhile (· != '%')
    let (s, supply) ← fill textual fuel (rest.drop plain.length) supply
    return (c :: plain ++ s, supply)

/-- A pattern with all its marks filled; it never has more marks than characters. -/
def fillPattern (textual : Bool) (pattern : List Char) (v : Value) : Except Fault (List Char) := do
  let (s, supply) ← fill textual (pattern.length + 1) pattern (Supply.of textual v)
  if supply.waiting.isEmpty || supply.mapping.isSome then .ok s
  else .error (.wrongType "not all arguments converted during string formatting")

end ContentIndex.Value
