import ContentIndex.Expr.Tree
import ContentIndex.Store

/-!
# Scopes

The variables an expression can see, the innermost ones first. A function or a comprehension keeps
the part of its scope that its names ask for, and nothing else; a place that it keeps belongs to an
enclosing part.
-/

namespace ContentIndex

set_option autoImplicit false

abbrev Scope := List (String × Slot Value)

namespace Scope

def ofValues (bindings : List (String × Value)) : Scope :=
  bindings.map fun (id, v) => (id, .value v)

/-- A variable as an inner part sees it. -/
def captured : Slot Value → Slot Value
  | .cell cell => .captured cell
  | slot => slot

/-- The named part of a scope, for an inner part. -/
def restrict (ids : List String) (scope : Scope) : Scope :=
  ids.eraseDups.filterMap fun id => (scope.lookup id).map fun slot => (id, captured slot)

/-- Places for the variables of a comprehension. -/
def ofCells (cells : List (String × Nat)) : Scope :=
  cells.map fun (id, cell) => (id, .cell cell)

def cellOf? (scope : Scope) (id : String) : Option Nat :=
  match scope.lookup id with
  | some (.cell cell) => some cell
  | _ => none

theorem restrict_congr {ids : List String} {a b : Scope}
    (h : ∀ id ∈ ids, a.lookup id = b.lookup id) : restrict ids a = restrict ids b := by
  unfold restrict
  have hd : ∀ id ∈ ids.eraseDups, a.lookup id = b.lookup id := fun id hid =>
    h id (List.mem_eraseDups.1 hid)
  generalize ids.eraseDups = distinct at hd
  induction distinct with
  | nil => rfl
  | cons id rest ih =>
    simp only [List.filterMap_cons, hd id List.mem_cons_self,
      ih fun x hx => hd x (List.mem_cons_of_mem _ hx)]

end Scope

/-- What the parts of evaluation ask of one another: evaluate an expression, call a value, and
advance a lazy sequence. -/
structure Interp where
  eval : Expr → Scope → Eval Value
  call : Value → List Value → List (String × Value) → Eval Value
  next : Nat → Eval (Option Value)

/-- The value of a variable; a place of a comprehension may still be empty. -/
def Scope.find (scope : Scope) (id : String) : Eval Value :=
  match scope.lookup id with
  | none => Eval.fault (.unbound id)
  | some (.value v) => pure v
  | some (.unusable what) => Eval.fault (.wrongType what)
  | some (.cell cell) => do
    match ← Eval.cell cell with
    | some v => pure v
    | none => Eval.fault (.unboundLocal id)
  | some (.captured cell) => do
    match ← Eval.cell cell with
    | some v => pure v
    | none => Eval.fault (.unbound id)

end ContentIndex
