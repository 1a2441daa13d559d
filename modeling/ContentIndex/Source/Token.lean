import ContentIndex.Decimal.Reader
import ContentIndex.Expr.Basic
import ContentIndex.Text.Identifier

/-!
# Tokens of expressions

Words, literals and symbols. A text with fields is kept in pieces: the source of a field is read
as an expression later. Numbers may group their digits with single low lines; a decimal integer
does not start with a zero unless it is zero, and no word may follow a number directly unless it
is one of the operators written as words.
-/

namespace ContentIndex.Source

set_option autoImplicit false

open Text

inductive Piece where
  | text (s : String)
  | field (source : String) (conversion : Conversion) (format : Option (List Piece))
  deriving Inhabited

inductive Token where
  | name (id : String)
  | keyword (word : String)
  | literal (l : Literal)
  | formatted (pieces : List Piece)
  | symbol (s : String)
  | newline
  deriving Inhabited

def keywords : List String :=
  ["False", "None", "True", "and", "as", "assert", "async", "await", "break", "class", "continue",
    "def", "del", "elif", "else", "except", "finally", "for", "from", "global", "if", "import",
    "in", "is", "lambda", "nonlocal", "not", "or", "pass", "raise", "return", "try", "while",
    "with", "yield"]

/-- Symbols, longer ones before their beginnings. -/
def symbols : List (List Char) :=
  ["**=", "//=", ">>=", "<<=", "...", "!=", "->", ":=", "==", "<=", ">=", "<>", "**", "//", "<<",
    ">>", "+=", "-=", "*=", "/=", "%=", "&=", "|=", "^=", "@=", "+", "-", "*", "/", "%", "@", "&",
    "|", "^", "~", "<", ">", "(", ")", "[", "]", "\x7b", "\x7d", ",", ":", ".", ";", "="].map
    String.toList

/-- Digits in groups; what follows a low line must be a digit. -/
def readDigits (isDigit : Char → Bool) : List Char → Option (List Char × List Char)
  | '_' :: c :: rest =>
    if isDigit c then (readDigits isDigit rest).map fun (ds, after) => (c :: ds, after) else none
  | ['_'] => none
  | c :: rest =>
    if isDigit c then (readDigits isDigit rest).map fun (ds, after) => (c :: ds, after)
    else some ([], c :: rest)
  | [] => some ([], [])

/-- Words that may follow a number without a blank. -/
def wordMayFollow (s : List Char) : Bool :=
  ["and", "else", "for", "if", "in", "is", "not", "or"].any fun w => w.toList.isPrefixOf s

def numberEnds (s : List Char) : Bool :=
  match s with
  | [] => true
  | c :: _ => wordMayFollow s || !isIdentifierPart c

/-- Longest run of decimal digits that is read as an integer. -/
def digitLimit : Nat := 4300

def digitValues (ds : List Char) : List Nat :=
  ds.filterMap letterDigit?

def finishInteger (base : Nat) (digits rest : List Char) : Option (Token × List Char) :=
  if digits.isEmpty || !numberEnds rest then none
  else if base == 10 && digitLimit < digits.length then none
  else some (.literal (.int (ofDigits base (digitValues digits))), rest)

def isDigitBelow (base : Nat) (c : Char) : Bool :=
  match letterDigit? c with
  | some d => d < base
  | none => false

/-- Exponent with its sign, if a complete one follows. -/
def readExponent? (s : List Char) : Option (Int × List Char) :=
  match s with
  | e :: rest =>
    if e == 'e' || e == 'E' then
      let (negative, digits) := Decimal.splitSign rest
      match digits with
      | d :: _ =>
        if isAsciiDigit d then
          (readDigits isAsciiDigit digits).map fun (ds, after) =>
            let n := Int.ofNat (ofDigits 10 (digitValues ds))
            (if negative then -n else n, after)
        else none
      | [] => none
    else none
  | [] => none

def startsExponent (s : List Char) : Bool :=
  match s with
  | c :: _ => (c == 'e' || c == 'E') && !wordMayFollow s
  | [] => false

def finishFloat (whole fraction rest : List Char) : Option (Token × List Char) :=
  let digits := whole ++ fraction
  let places := Int.ofNat fraction.length
  let value (exponent : Int) : Token :=
    .literal (.float
      (Decimal.ofDecimal false (ofDigits 10 (digitValues digits)) digits.length
        (exponent - places)))
  if startsExponent rest then
    match readExponent? rest with
    | some (exponent, after) => if numberEnds after then some (value exponent, after) else none
    | none => none
  else if numberEnds rest then some (value 0, rest) else none

def readFraction (whole s : List Char) : Option (Token × List Char) :=
  match s with
  | c :: _ =>
    if isAsciiDigit c then
      match readDigits isAsciiDigit s with
      | some (fraction, rest) => finishFloat whole fraction rest
      | none => none
    else finishFloat whole [] s
  | [] => finishFloat whole [] []

def readDecimal (s : List Char) : Option (Token × List Char) :=
  match readDigits isAsciiDigit s with
  | none => none
  | some (whole, rest) =>
    match rest with
    | '.' :: after => readFraction whole after
    | _ =>
      if startsExponent rest then finishFloat whole [] rest
      else if whole.head? == some '0' && whole.any (· != '0') then none
      else finishInteger 10 whole rest

def readBased (base : Nat) (s : List Char) : Option (Token × List Char) :=
  match readDigits (isDigitBelow base) s with
  | some (digits, rest) => finishInteger base digits rest
  | none => none

/-- A number that starts with a digit. -/
def readNumber (s : List Char) : Option (Token × List Char) :=
  match Decimal.announcedBase? s with
  | some (base, rest) => readBased base rest
  | none => readDecimal s

end ContentIndex.Source
