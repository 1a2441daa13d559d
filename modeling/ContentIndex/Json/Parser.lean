import ContentIndex.Decimal.Reader
import ContentIndex.Json.Basic
import ContentIndex.Text.Identifier
import ContentIndex.Text.Split

/-!
# Reading JSON

A document is one value between blanks. A fault names what was expected and where: the position is
counted in characters, in lines and in columns. A later member of an object with the same name is
kept beside the earlier one.
-/

namespace ContentIndex.Json

set_option autoImplicit false

inductive Expectation where
  | value
  | name
  | colon
  | comma
  | nothing
  | controlFree
  | terminated
  | escape
  | codeUnit
  | markFree
  | shortNumber
  | shallow
  deriving DecidableEq, Repr

def Expectation.text : Expectation → String
  | .value => "Expecting value"
  | .name => "Expecting property name enclosed in double quotes"
  | .colon => "Expecting ':' delimiter"
  | .comma => "Expecting ',' delimiter"
  | .nothing => "Extra data"
  | .controlFree => "Invalid control character at"
  | .terminated => "Unterminated string starting at"
  | .escape => "Invalid \\escape"
  | .codeUnit => "Invalid \\uXXXX escape"
  | .markFree => "Unexpected UTF-8 BOM (decode using utf-8-sig)"
  | .shortNumber => "Exceeds the limit"
  | .shallow => "Nested too deeply"

/-- A fault, with the number of characters left where it was found. -/
structure Problem where
  expected : Expectation
  left : Nat
  deriving DecidableEq, Repr

abbrev Result (α : Type) := Except Problem (α × List Char)

def fail {α : Type} (expected : Expectation) (s : List Char) : Result α :=
  .error ⟨expected, s.length⟩

def isSpace (c : Char) : Bool :=
  c == ' ' || c == '\t' || c == '\n' || c == '\r'

def skipSpace (s : List Char) : List Char :=
  s.dropWhile isSpace

def hexValue? (c : Char) : Option Nat :=
  (Text.letterDigit? c).filter (· < 16)

def codeUnit? (a b c d : Char) : Option Nat :=
  match hexValue? a, hexValue? b, hexValue? c, hexValue? d with
  | some w, some x, some y, some z => some (((w * 16 + x) * 16 + y) * 16 + z)
  | _, _, _, _ => none

def isHighSurrogate (n : Nat) : Bool := 0xD800 ≤ n && n < 0xDC00

def isLowSurrogate (n : Nat) : Bool := 0xDC00 ≤ n && n < 0xE000

def joinSurrogates (high low : Nat) : Nat :=
  0x10000 + (high - 0xD800) * 0x400 + (low - 0xDC00)

/-- A code unit that is no character stands for the replacement character. -/
def charOfUnit (n : Nat) : Char :=
  if isHighSurrogate n || isLowSurrogate n then Char.ofNat 0xFFFD else Char.ofNat n

def simpleEscape? : Char → Option Char
  | '"' => some '"'
  | '\\' => some '\\'
  | '/' => some '/'
  | 'b' => some '\x08'
  | 'f' => some '\x0c'
  | 'n' => some '\n'
  | 'r' => some '\r'
  | 't' => some '\t'
  | _ => none

def push (c : Char) : Result (List Char) → Result (List Char)
  | .ok (cs, rest) => .ok (c :: cs, rest)
  | .error p => .error p

/-- Characters of a text after its opening quote, which has `start` characters from it on. -/
def readChars (start : Nat) : List Char → Result (List Char)
  | [] => .error ⟨.terminated, start⟩
  | '"' :: rest => .ok ([], rest)
  | '\\' :: 'u' :: a :: b :: c :: d :: rest =>
    match codeUnit? a b c d, rest with
    | none, _ => fail .codeUnit ('u' :: a :: b :: c :: d :: rest)
    | some _, [] => fail .codeUnit ('u' :: a :: b :: c :: d :: [])
    | some high, '\\' :: 'u' :: e :: f :: g :: h :: after =>
      if isHighSurrogate high && !after.isEmpty then
        match codeUnit? e f g h with
        | none => fail .codeUnit ('u' :: e :: f :: g :: h :: after)
        | some low =>
          if isLowSurrogate low then
            push (Char.ofNat (joinSurrogates high low)) (readChars start after)
          else push (charOfUnit high) (readChars start ('\\' :: 'u' :: e :: f :: g :: h :: after))
      else push (charOfUnit high) (readChars start ('\\' :: 'u' :: e :: f :: g :: h :: after))
    | some unit, r :: rs => push (charOfUnit unit) (readChars start (r :: rs))
  | '\\' :: 'u' :: rest => fail .codeUnit ('u' :: rest)
  | '\\' :: c :: rest =>
    match simpleEscape? c with
    | some e => push e (readChars start rest)
    | none => fail .escape ('\\' :: c :: rest)
  | ['\\'] => .error ⟨.terminated, start⟩
  | c :: rest => if c < ' ' then fail .controlFree (c :: rest) else push c (readChars start rest)

def digitRun (s : List Char) : List Char × List Char :=
  (s.takeWhile Text.isAsciiDigit, s.dropWhile Text.isAsciiDigit)

def decimalOf (ds : List Char) : Nat :=
  Text.ofDigits 10 (ds.filterMap Text.letterDigit?)

def readFraction (s : List Char) : List Char × List Char :=
  match s with
  | '.' :: d :: rest => if Text.isAsciiDigit d then digitRun (d :: rest) else ([], s)
  | _ => ([], s)

def readExponent? (s : List Char) : Option (Int × List Char) :=
  match s with
  | e :: rest =>
    if e == 'e' || e == 'E' then
      let (negative, digits) := Decimal.splitSign rest
      let (ds, after) := digitRun digits
      if ds.isEmpty then none
      else
        let n := Int.ofNat (decimalOf ds)
        some (if negative then -n else n, after)
    else none
  | [] => none

/-- Digits before the point: a zero stands alone. -/
def readWhole? (s : List Char) : Option (List Char × List Char) :=
  match s with
  | '0' :: rest => some (['0'], rest)
  | c :: _ => if Text.isAsciiDigit c then some (digitRun s) else none
  | [] => none

/-- Longest run of digits that is read as an integer. -/
def digitLimit : Nat := 4300

def readNumber (s : List Char) : Result Json :=
  let (negative, digits) :=
    match s with
    | '-' :: rest => (true, rest)
    | _ => (false, s)
  match readWhole? digits with
  | none => fail .value s
  | some (whole, rest) =>
    let (fraction, rest) := readFraction rest
    let exponent := readExponent? rest
    if fraction.isEmpty && exponent.isNone then
      if digitLimit < whole.length then fail .shortNumber s
      else
        let n := Int.ofNat (decimalOf whole)
        .ok (.int (if negative then -n else n), rest)
    else
      let (e, rest) := exponent.getD (0, rest)
      let ds := whole ++ fraction
      .ok (.float (Decimal.ofDecimal negative (decimalOf ds) ds.length
        (e - Int.ofNat fraction.length)), rest)

def words : List (String × Json) :=
  [("null", .null), ("true", .bool true), ("false", .bool false),
    ("NaN", .float Decimal.notANumber), ("Infinity", .float (Decimal.infinity false)),
    ("-Infinity", .float (Decimal.infinity true))]

def readWord? (s : List Char) : Option (Json × List Char) :=
  words.findSome? fun (word, value) =>
    (Text.rest? word.toList s).map fun rest => (value, rest)

def readScalar (s : List Char) : Result Json :=
  match readWord? s with
  | some (value, rest) => .ok (value, rest)
  | none => readNumber s

/-- Deepest nesting of arrays and objects. -/
def nestingLimit : Nat := 980

mutual
/-- A value at the front of the text; `fuel` bounds its nested parts, of which each takes two, and
`levels` the arrays and objects inside one another. -/
def readValue : Nat → Nat → List Char → Result Json
  | 0, _, s => fail .value s
  | fuel + 1, levels, s =>
    match s with
    | '"' :: rest =>
      match readChars s.length rest with
      | .ok (cs, after) => .ok (.str (String.ofList cs), after)
      | .error p => .error p
    | '[' :: rest =>
      if levels == 0 then fail .shallow s
      else
        match skipSpace rest with
        | ']' :: after => .ok (.array [], after)
        | items =>
          match readItems fuel (levels - 1) items with
          | .ok (items, after) => .ok (.array items, after)
          | .error p => .error p
    | '\x7b' :: rest =>
      if levels == 0 then fail .shallow s
      else
        match skipSpace rest with
        | '\x7d' :: after => .ok (.object [], after)
        | members =>
          match readMembers fuel (levels - 1) members with
          | .ok (members, after) => .ok (.object members, after)
          | .error p => .error p
    | _ => readScalar s

/-- Items of an array, at least one, through its closing bracket. -/
def readItems : Nat → Nat → List Char → Result (List Json)
  | 0, _, s => fail .value s
  | fuel + 1, levels, s =>
    match readValue fuel levels s with
    | .error p => .error p
    | .ok (item, rest) =>
      match skipSpace rest with
      | ']' :: after => .ok ([item], after)
      | ',' :: after =>
        match readItems fuel levels (skipSpace after) with
        | .ok (items, after) => .ok (item :: items, after)
        | .error p => .error p
      | other => fail .comma other

/-- Members of an object, at least one, through its closing brace. -/
def readMembers : Nat → Nat → List Char → Result (List (String × Json))
  | 0, _, s => fail .value s
  | fuel + 1, levels, s =>
    match s with
    | '"' :: afterQuote =>
      match readChars s.length afterQuote with
      | .error p => .error p
      | .ok (cs, rest) =>
        match skipSpace rest with
        | ':' :: afterColon =>
          match readValue fuel levels (skipSpace afterColon) with
          | .error p => .error p
          | .ok (value, rest) =>
            let member := (String.ofList cs, value)
            match skipSpace rest with
            | '\x7d' :: after => .ok ([member], after)
            | ',' :: after =>
              match readMembers fuel levels (skipSpace after) with
              | .ok (members, after) => .ok (member :: members, after)
              | .error p => .error p
            | other => fail .comma other
        | other => fail .colon other
    | other => fail .name other
end

def readDocument (s : List Char) : Except Problem Json :=
  if s.head? == some '\uFEFF' then .error ⟨.markFree, s.length⟩
  else
    match readValue (2 * s.length + 2) nestingLimit (skipSpace s) with
    | .error p => .error p
    | .ok (value, rest) =>
      let rest := skipSpace rest
      if rest.isEmpty then .ok value else .error ⟨.nothing, rest.length⟩

/-- A fault with its place in the document. -/
structure Fault where
  expected : Expectation
  line : Nat
  column : Nat
  position : Nat
  deriving DecidableEq, Repr

def Problem.locate (p : Problem) (s : List Char) : Fault :=
  let position := s.length - p.left
  let before := s.take position
  let onLine := (before.reverse.takeWhile (· != '\n')).length
  ⟨p.expected, before.count '\n' + 1, onLine + 1, position⟩

def Fault.message (f : Fault) : String :=
  let n (k : Nat) := String.ofList (Text.natDigits k)
  f.expected.text ++ ": line " ++ n f.line ++ " column " ++ n f.column ++ " (char " ++
    n f.position ++ ")"

def parse (s : String) : Except Fault Json :=
  match readDocument s.toList with
  | .ok value => .ok value
  | .error p => .error (p.locate s.toList)

end ContentIndex.Json
