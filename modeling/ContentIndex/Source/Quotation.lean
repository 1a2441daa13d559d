import ContentIndex.Source.Token

/-!
# Quoted literals of expressions

A literal has a prefix of letters, one or three quotes and a body. A raw body keeps its
backslashes. A text with fields is cut at single braces; doubled ones stand for themselves, and
a field holds no backslash and no comment.
-/

namespace ContentIndex.Source

set_option autoImplicit false

open Text

structure LiteralKind where
  raw : Bool
  bytes : Bool
  fields : Bool
  deriving DecidableEq, Repr

def LiteralKind.ofPrefix? (letters : List Char) : Option LiteralKind :=
  match String.ofList (letters.map Char.toLower) with
  | "" | "u" => some ⟨false, false, false⟩
  | "r" => some ⟨true, false, false⟩
  | "b" => some ⟨false, true, false⟩
  | "f" => some ⟨false, false, true⟩
  | "br" | "rb" => some ⟨true, true, false⟩
  | "fr" | "rf" => some ⟨true, false, true⟩
  | _ => none

/-- The body of a literal up to its closing quotes, and the text after them. -/
def readBody (quote : Char) (triple : Bool) : List Char → Option (List Char × List Char)
  | [] => none
  | '\\' :: c :: rest =>
    (readBody quote triple rest).map fun (body, after) => ('\\' :: c :: body, after)
  | c :: rest =>
    if c == quote then
      if triple then
        match rest with
        | d :: e :: after =>
          if d == quote && e == quote then some ([], after)
          else (readBody quote triple rest).map fun (body, after) => (c :: body, after)
        | _ => none
      else some ([], rest)
    else if c == '\n' && !triple then none
    else (readBody quote triple rest).map fun (body, after) => (c :: body, after)

def isOctal (c : Char) : Bool :=
  '0' ≤ c && c ≤ '7'

/-- The first digits of an escape, at most `limit`. -/
def octalRun : Nat → List Char → List Char × List Char
  | limit + 1, c :: rest =>
    if isOctal c then
      let (ds, after) := octalRun limit rest
      (c :: ds, after)
    else ([], c :: rest)
  | _, s => ([], s)

/-- Exactly `width` hexadecimal digits. -/
def hexRun? : Nat → List Char → Option (List Nat × List Char)
  | 0, s => some ([], s)
  | width + 1, c :: rest =>
    match (letterDigit? c).filter (· < 16), hexRun? width rest with
    | some d, some (ds, after) => some (d :: ds, after)
    | _, _ => none
  | _ + 1, [] => none

def simpleEscape? : Char → Option Nat
  | '\\' => some 92
  | '\'' => some 39
  | '"' => some 34
  | 'a' => some 7
  | 'b' => some 8
  | 'f' => some 12
  | 'n' => some 10
  | 'r' => some 13
  | 't' => some 9
  | 'v' => some 11
  | _ => none

/-- Code points of a body; `fuel` bounds their number. -/
def unescape (wide : Bool) : Nat → List Char → Option (List Nat)
  | 0, _ => some []
  | _ + 1, [] => some []
  | fuel + 1, '\\' :: c :: rest =>
    let hex (width : Nat) : Option (List Nat) :=
      match hexRun? width rest with
      | some (ds, after) =>
        let code := ofDigits 16 ds
        if code < 0x110000 then (unescape wide fuel after).map (code :: ·) else none
      | none => none
    if c == '\n' then unescape wide fuel rest
    else if isOctal c then
      let (ds, after) := octalRun 3 (c :: rest)
      (unescape wide fuel after).map (ofDigits 8 (digitValues ds) :: ·)
    else if c == 'x' then hex 2
    else if wide && c == 'u' then hex 4
    else if wide && c == 'U' then hex 8
    else if wide && c == 'N' then none
    else
      match simpleEscape? c with
      | some code => (unescape wide fuel rest).map (code :: ·)
      | none => (unescape wide fuel (c :: rest)).map (92 :: ·)
  | fuel + 1, c :: rest => (unescape wide fuel rest).map (c.toNat :: ·)

def bodyText? (raw : Bool) (body : List Char) : Option String :=
  if raw then some (String.ofList body)
  else (unescape true (body.length + 1) body).map fun codes => String.ofList (codes.map Char.ofNat)

def bodyBytes? (raw : Bool) (body : List Char) : Option (List UInt8) :=
  if body.any fun c => 127 < c.toNat then none
  else if raw then some (body.map fun c => UInt8.ofNat c.toNat)
  else (unescape false (body.length + 1) body).map fun codes => codes.map UInt8.ofNat

/-- Where the scan of a field stands: inside a quotation, or between open brackets. -/
structure FieldScan where
  quote : Option (Char × Bool)
  opened : List Char

def closerOf (c : Char) : Char :=
  if c == '(' then ')' else if c == '[' then ']' else '\x7d'

def startsTriple (c : Char) : List Char → Bool
  | d :: e :: _ => d == c && e == c
  | _ => false

/-- The source of a field up to its end mark, which is left in place; `fuel` bounds its length. -/
def fieldSource (fuel : Nat) (scan : FieldScan) (s : List Char) :
    Option (List Char × List Char) :=
  match fuel, s with
  | 0, _ => none
  | _, [] => none
  | fuel + 1, c :: rest =>
    let keep (n : Nat) (scan : FieldScan) : Option (List Char × List Char) :=
      (fieldSource fuel scan (s.drop n)).map fun (source, after) => (s.take n ++ source, after)
    if c == '\\' then none
    else
      match scan.quote with
      | some (q, triple) =>
        if c == q then
          if triple then
            if startsTriple q rest then keep 3 ⟨none, scan.opened⟩ else keep 1 scan
          else keep 1 ⟨none, scan.opened⟩
        else keep 1 scan
      | none =>
        if c == '\'' || c == '"' then
          if startsTriple c rest then keep 3 ⟨some (c, true), scan.opened⟩
          else keep 1 ⟨some (c, false), scan.opened⟩
        else if c == '(' || c == '[' || c == '\x7b' then keep 1 ⟨none, c :: scan.opened⟩
        else if c == '#' then none
        else if scan.opened.isEmpty && "!:=<>\x7d".toList.contains c then
          if "!=<>".toList.contains c && rest.head? == some '=' then keep 2 scan
          else if c == '<' || c == '>' then keep 1 scan
          else some ([], s)
        else if c == ')' || c == ']' || c == '\x7d' then
          match scan.opened with
          | o :: os => if closerOf o == c then keep 1 ⟨none, os⟩ else none
          | [] => none
        else keep 1 scan

def conversionOf? : Char → Option Conversion
  | 's' => some .text
  | 'r' => some .quoted
  | 'a' => some .ascii
  | _ => none

/-- Conversion mark of a field and the text after it. -/
def readConversion? : List Char → Option (Conversion × List Char)
  | '!' :: c :: rest => (conversionOf? c).map fun conversion => (conversion, rest)
  | '!' :: [] => none
  | s => some (.plain, s)

/-- Literal text up to a brace; inside a format braces are never doubled. -/
def literalRun (inFormat : Bool) : List Char → List Char × List Char
  | '\x7b' :: '\x7b' :: rest =>
    if inFormat then ([], '\x7b' :: '\x7b' :: rest)
    else
      let (run, after) := literalRun inFormat rest
      ('\x7b' :: run, after)
  | '\x7d' :: '\x7d' :: rest =>
    if inFormat then ([], '\x7d' :: '\x7d' :: rest)
    else
      let (run, after) := literalRun inFormat rest
      ('\x7d' :: run, after)
  | c :: rest =>
    if c == '\x7b' || c == '\x7d' then ([], c :: rest)
    else
      let (run, after) := literalRun inFormat rest
      (c :: run, after)
  | [] => ([], [])

def textPiece (s : String) : List Piece :=
  if s.isEmpty then [] else [.text s]

mutual
/-- Pieces up to the end, or inside a format up to its closing brace, which is left in place. -/
def readPieces (fuel : Nat) (raw inFormat : Bool) (s : List Char) :
    Option (List Piece × List Char) :=
  match fuel with
  | 0 => none
  | fuel + 1 =>
    let (run, rest) := literalRun inFormat s
    match bodyText? raw run with
    | none => none
    | some text =>
      match rest with
      | [] => if inFormat then none else some (textPiece text, [])
      | '\x7b' :: source =>
        match readField fuel raw inFormat source with
        | none => none
        | some (field, after) =>
          (readPieces fuel raw inFormat after).map fun (pieces, after) =>
            (textPiece text ++ field ++ pieces, after)
      | _ => if inFormat then some (textPiece text, rest) else none

/-- One field, through its closing brace; a field shown with its source is two pieces. -/
def readField (fuel : Nat) (raw inFormat : Bool) (s : List Char) :
    Option (List Piece × List Char) :=
  match fuel with
  | 0 => none
  | fuel + 1 =>
    match fieldSource (s.length + 1) ⟨none, []⟩ s with
    | none => none
    | some (source, rest) =>
      if source.all isBlank then none
      else
        let shown := rest.head? == some '='
        let rest' := if shown then (rest.drop 1).dropWhile isBlank else rest
        let label := if shown then s.take (s.length - rest'.length) else []
        match readConversion? rest' with
        | none => none
        | some (conversion, rest) =>
          let kind := if shown && conversion == .plain then .quoted else conversion
          let labelPiece := textPiece (String.ofList label)
          match rest with
          | '\x7d' :: after =>
            some (labelPiece ++ [.field (String.ofList source) kind none], after)
          | ':' :: spec =>
            if inFormat then none
            else
              match readPieces fuel raw true spec with
              | some (pieces, '\x7d' :: after) =>
                some (labelPiece ++ [.field (String.ofList source)
                  (if shown then conversion else kind) (some pieces)], after)
              | _ => none
          | _ => none
end

/-- The token of a literal whose prefix has been read; the text starts at its quotes. -/
def readLiteral (kind : LiteralKind) (s : List Char) : Option (Token × List Char) :=
  match s with
  | [] => none
  | quote :: rest =>
    let triple := startsTriple quote rest
    match readBody quote triple (if triple then rest.drop 2 else rest) with
    | none => none
    | some (body, after) =>
      if kind.bytes then
        (bodyBytes? kind.raw body).map fun b => (.literal (.bytes b), after)
      else if kind.fields then
        match readPieces (body.length + 2) kind.raw false body with
        | some (pieces, []) => some (.formatted pieces, after)
        | _ => none
      else (bodyText? kind.raw body).map fun t => (.literal (.text t), after)

end ContentIndex.Source
