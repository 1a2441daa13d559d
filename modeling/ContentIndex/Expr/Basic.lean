/-!
# Expressions

The language of indexing rules: literals, displays, names, access, calls, operators, conditions,
anonymous functions, comprehensions and texts with fields. The helper structures stand for the
parts of an expression that are no expressions themselves.
-/

namespace ContentIndex

set_option autoImplicit false

inductive Literal where
  | none
  | bool (b : Bool)
  | int (n : Nat)
  | float (x : Float)
  | text (s : String)
  | bytes (b : List UInt8)
  | ellipsis
  deriving DecidableEq, Repr

inductive UnaryOp where
  | plus
  | minus
  | invert
  | negation
  deriving DecidableEq, Repr

inductive BinaryOp where
  | add
  | sub
  | mul
  | matmul
  | div
  | floorDiv
  | mod
  | pow
  | shiftLeft
  | shiftRight
  | bitOr
  | bitXor
  | bitAnd
  deriving DecidableEq, Repr

inductive CompareOp where
  | eq
  | ne
  | lt
  | le
  | gt
  | ge
  | same
  | notSame
  | elementOf
  | notElementOf
  deriving DecidableEq, Repr

inductive Conversion where
  | plain
  | text
  | quoted
  | ascii
  deriving DecidableEq, Repr

inductive Collection where
  | list
  | set
  | generator
  deriving DecidableEq, Repr

/-- Parameters of an anonymous function; the defaults belong to the last positional ones. -/
structure Params (α : Type) where
  positionalOnly : List String
  positional : List String
  rest : Option String
  keywordOnly : List (String × Option α)
  keywordRest : Option String
  defaults : List α

/-- One `for` clause of a comprehension with its conditions. -/
structure Clause (α : Type) where
  target : α
  source : α
  conditions : List α

inductive Expr where
  | literal (l : Literal)
  | name (id : String)
  | access (value : Expr) (attr : String)
  | subscript (value index : Expr)
  | slice (lower upper step : Option Expr)
  | call (function : Expr) (args : List Expr) (keywords : List (Option String × Expr))
  | starred (value : Expr)
  | list (items : List Expr)
  | tuple (items : List Expr)
  | set (items : List Expr)
  | dict (entries : List (Option Expr × Expr))
  | unary (op : UnaryOp) (operand : Expr)
  | binary (left : Expr) (op : BinaryOp) (right : Expr)
  | both (operands : List Expr)
  | either (operands : List Expr)
  | compare (left : Expr) (rest : List (CompareOp × Expr))
  | conditional (test body orElse : Expr)
  | lambda (params : Params Expr) (body : Expr)
  | comprehension (kind : Collection) (element : Expr) (clauses : List (Clause Expr))
  | dictComprehension (key value : Expr) (clauses : List (Clause Expr))
  | field (value : Expr) (conversion : Conversion) (format : Option Expr)
  | joined (pieces : List Expr)

instance : Inhabited Expr := ⟨.literal .none⟩

def Expr.isStarred : Expr → Bool
  | .starred _ => true
  | _ => false

end ContentIndex
