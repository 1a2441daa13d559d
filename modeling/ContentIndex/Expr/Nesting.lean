import ContentIndex.Expr.Tree

/-!
# Limits on nesting

An expression that ends in an operand of its own kind again and again is read by nested steps, and
what has been read is gone through by nested steps; both have limits, and so has an expression that
is about to be evaluated. `Expr.chain` counts the steps of reading, `Tree.depth` the others.
-/

namespace ContentIndex.Expr

set_option autoImplicit false

/-- Nested steps that reading the last operand takes. -/
def chain : Expr → Nat
  | .unary _ operand => chain operand + 1
  | .lambda _ body => chain body + 2
  | .conditional _ _ orElse => chain orElse + 1
  | .binary _ .pow right => chain right + 2
  | _ => 0

def chainLimit : Nat := 5975

/-- Most levels of an expression that can be checked. -/
def checkedLevels : Nat := 2960

/-- Most levels of an expression that can be evaluated. -/
def evaluatedLevels : Nat := 990

end ContentIndex.Expr
