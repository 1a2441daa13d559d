import ContentIndex.Decimal.Layout
import ContentIndex.Json.Basic

/-!
# Writing JSON

Compact on one line, or one item a line with a given indent. Texts escape quotes, backslashes and
control characters, and on request everything outside ASCII, as UTF-16 code units.
-/

namespace ContentIndex.Json

set_option autoImplicit false

structure Style where
  indent : Option Nat
  asciiOnly : Bool
  deriving DecidableEq, Repr

def pretty : Style := ⟨some 2, false⟩

def unitText (n : Nat) : List Char :=
  '\\' :: 'u' :: Text.hexDigits 4 n

def escapeUnits (n : Nat) : List Char :=
  if n < 0x10000 then unitText n
  else
    let m := n - 0x10000
    unitText (0xD800 + m / 0x400) ++ unitText (0xDC00 + m % 0x400)

def escapeChar (asciiOnly : Bool) (c : Char) : List Char :=
  if c == '"' then ['\\', '"']
  else if c == '\\' then ['\\', '\\']
  else if c == '\n' then ['\\', 'n']
  else if c == '\r' then ['\\', 'r']
  else if c == '\t' then ['\\', 't']
  else if c == '\x0c' then ['\\', 'f']
  else if c == '\x08' then ['\\', 'b']
  else if c < ' ' then unitText c.toNat
  else if asciiOnly && 126 < c.toNat then escapeUnits c.toNat
  else [c]

def quote (asciiOnly : Bool) (s : String) : List Char :=
  '"' :: s.toList.flatMap (escapeChar asciiOnly) ++ ['"']

def floatText (x : Float) : List Char :=
  match Decimal.decode x with
  | .nan => "NaN".toList
  | .infinite negative => Decimal.signed negative "Infinity".toList
  | .finite .. => Decimal.floatText x

/-- Line end and indent before an item at the given depth. -/
def Style.break (style : Style) (depth : Nat) : List Char :=
  match style.indent with
  | some n => '\n' :: List.replicate (n * depth) ' '
  | none => []

/-- Between two items: with an indent the line end separates them. -/
def Style.separator (style : Style) (depth : Nat) : List Char :=
  match style.indent with
  | some _ => ',' :: style.break depth
  | none => [',', ' ']

mutual
def render (style : Style) (depth : Nat) : Json → List Char
  | .null => "null".toList
  | .bool b => (if b then "true" else "false").toList
  | .int n => Decimal.intText n
  | .float x => floatText x
  | .str s => quote style.asciiOnly s
  | .array items =>
    match items with
    | [] => ['[', ']']
    | first :: rest =>
      '[' :: style.break (depth + 1) ++ render style (depth + 1) first ++
        renderItems style (depth + 1) rest ++ style.break depth ++ [']']
  | .object members =>
    match members with
    | [] => ['\x7b', '\x7d']
    | (name, value) :: rest =>
      '\x7b' :: style.break (depth + 1) ++ quote style.asciiOnly name ++ ':' :: ' ' ::
        render style (depth + 1) value ++ renderMembers style (depth + 1) rest ++
        style.break depth ++ ['\x7d']

/-- Further items, each after a separator. -/
def renderItems (style : Style) (depth : Nat) : List Json → List Char
  | [] => []
  | item :: rest =>
    style.separator depth ++ render style depth item ++ renderItems style depth rest

def renderMembers (style : Style) (depth : Nat) : List (String × Json) → List Char
  | [] => []
  | (name, value) :: rest =>
    style.separator depth ++ quote style.asciiOnly name ++ ':' :: ' ' ::
      render style depth value ++ renderMembers style depth rest
end

def text (style : Style) (value : Json) : String :=
  String.ofList (render style 0 value)

end ContentIndex.Json
