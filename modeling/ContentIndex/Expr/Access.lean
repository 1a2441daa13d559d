import ContentIndex.Expr.Tree

/-!
# Access rules of expressions

Attributes that start with a low line, the two formatting methods, which reach attributes by name
from inside a text, and names that start with two low lines are off limits. The first offender is
the first one level by level. `firstOffender?_eq_none_iff` says that none is overlooked.
-/

namespace ContentIndex

set_option autoImplicit false

inductive Offender where
  | access (attr : String)
  | name (id : String)
  deriving DecidableEq, Repr

def blockedAttributes : List String := ["format", "format_map"]

def isBlockedAttribute (attr : String) : Bool :=
  ['_'].isPrefixOf attr.toList || blockedAttributes.contains attr

def isBlockedName (id : String) : Bool :=
  ['_', '_'].isPrefixOf id.toList

def Label.offender? : Label → Option Offender
  | .access attr => if isBlockedAttribute attr then some (.access attr) else none
  | .name id => if isBlockedName id then some (.name id) else none
  | .other => none

namespace Expr

def firstOffender? (e : Expr) : Option Offender :=
  e.toTree.byLevel.findSome? Label.offender?

theorem firstOffender?_eq_none_iff (e : Expr) :
    e.firstOffender? = none ↔ ∀ l ∈ e.toTree.labels, l.offender? = none := by
  simp [firstOffender?, Tree.mem_byLevel]

end Expr

end ContentIndex
