import ContentIndex.Source.Quotation
import ContentIndex.Text.NormalForm
import ContentIndex.Text.Split

/-!
# Cutting a source into tokens

Blanks, comments and continued lines separate tokens. A line end counts only outside brackets and
after the first token; the line of the first token is not indented. A name is read in its normal
form, while a keyword must be written plainly.
-/

namespace ContentIndex.Source

set_option autoImplicit false

open Text

/-- Depth of open brackets, and whether a token has been read. -/
structure LexState where
  depth : Nat
  started : Bool

def isSpace (c : Char) : Bool :=
  c == ' ' || c == '\t' || c == '\x0c'

def bracketLimit : Nat := 200

def LexState.after (st : LexState) (symbol : List Char) : Option LexState :=
  if symbol == ['('] || symbol == ['['] || symbol == ['\x7b'] then
    if st.depth < bracketLimit then some ⟨st.depth + 1, true⟩ else none
  else if symbol == [')'] || symbol == [']'] || symbol == ['\x7d'] then some ⟨st.depth - 1, true⟩
  else some ⟨st.depth, true⟩

def readSymbol? (s : List Char) : Option (List Char × List Char) :=
  symbols.findSome? fun symbol => (Text.rest? symbol s).map fun after => (symbol, after)

/-- A word, or the literal whose prefix it is. -/
def readWord (s : List Char) : Option (Token × List Char) :=
  let word := s.takeWhile isIdentifierPart
  let rest := s.dropWhile isIdentifierPart
  let quoted := rest.head? == some '\'' || rest.head? == some '"'
  match LiteralKind.ofPrefix? word with
  | some kind => if quoted then readLiteral kind rest else some (.name (String.ofList word), rest)
  | none =>
    let written := String.ofList word
    some
      (if keywords.contains written then .keyword written
        else .name (String.ofList (nameForm word)), rest)

/-- The next token, at a character that is neither blank nor the start of a comment. -/
def readToken (s : List Char) : Option (Token × List Char) :=
  match s with
  | [] => none
  | c :: rest =>
    if isIdentifierStart c then readWord s
    else if isAsciiDigit c then readNumber s
    else if c == '.' && (rest.head?.map isAsciiDigit).getD false then readFraction [] rest
    else if c == '\'' || c == '"' then readLiteral ⟨false, false, false⟩ s
    else (readSymbol? s).map fun (symbol, after) => (.symbol (String.ofList symbol), after)

/-- The next column that a tabulator leads to. -/
def tabStop (column : Nat) : Nat :=
  (column / 8 + 1) * 8

/-- The column at which a line starts, and the line from there. A form feed leads back to the first
column. A line continued within its blanks starts where the first of its parts that has any blanks
was continued. -/
def lineStart (column continued : Nat) : List Char → Nat × List Char
  | ' ' :: rest => lineStart (column + 1) continued rest
  | '\t' :: rest => lineStart (tabStop column) continued rest
  | '\x0c' :: rest => lineStart 0 continued rest
  | '\\' :: '\n' :: rest => lineStart column (if continued == 0 then column else continued) rest
  | rest => (if continued == 0 then column else continued, rest)

/-- Whether the line that starts here is indented and holds more than a comment. -/
def isIndented (s : List Char) : Bool :=
  let (column, rest) := lineStart 0 0 s
  column != 0 && rest.head?.any fun c => c != '\n' && c != '#'

def lexFrom : Nat → LexState → List Char → Option (List Token)
  | 0, _, _ => none
  | _ + 1, _, [] => some []
  | fuel + 1, st, c :: rest =>
    if isSpace c then lexFrom fuel st rest
    else if c == '#' then lexFrom fuel st (rest.dropWhile (· != '\n'))
    else if c == '\n' then
      if st.depth != 0 then lexFrom fuel st rest
      else if st.started then (lexFrom fuel st rest).map (.newline :: ·)
      else if isIndented rest then none
      else lexFrom fuel st rest
    else if c == '\\' then
      match rest with
      | '\n' :: after => if after.isEmpty then none else lexFrom fuel st after
      | _ => none
    else
      match readToken (c :: rest) with
      | none => none
      | some (token, after) =>
        let next :=
          match token with
          | .symbol s => st.after s.toList
          | _ => some ⟨st.depth, true⟩
        match next with
        | none => none
        | some st => (lexFrom fuel st after).map (token :: ·)

def lex (source : List Char) : Option (List Token) :=
  let s := unifyLineEnds source
  if isIndented s then none else lexFrom (s.length + 1) ⟨0, false⟩ s

end ContentIndex.Source
