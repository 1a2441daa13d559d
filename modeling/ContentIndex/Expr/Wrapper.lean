import ContentIndex.Text.Split

/-!
# The wrapper of expressions

An expression may stand between a dollar sign with an opening brace and a closing brace. The
wrapper and the blanks around and inside it are dropped; without a wrapper only the blanks are.
-/

namespace ContentIndex.Expr

set_option autoImplicit false

open Text

def opening : List Char := ['$', '\x7b']

/-- What stands inside the wrapper, if the text is wrapped. -/
def wrapped? (s : List Char) : Option (List Char) :=
  match Text.rest? opening s with
  | some rest => if rest.getLast? = some '\x7d' then some rest.dropLast else none
  | none => none

def unwrap (s : List Char) : List Char :=
  let trimmed := trim isBlank s
  match wrapped? trimmed with
  | some inner => trim isBlank inner
  | none => trimmed

end ContentIndex.Expr
