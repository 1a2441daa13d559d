import ContentIndex.Expr.Basic

/-!
# Expressions as labelled trees

Every part of an expression is a node: also keyword arguments, parameter lists and clauses.
`Tree.byLevel` lists the labels level by level, from left to right. Names and accessed attributes
are the labels of interest. `Tree.depth` counts the levels.
-/

namespace ContentIndex

set_option autoImplicit false

inductive Label where
  | name (id : String)
  | access (attr : String)
  | other
  deriving DecidableEq, Repr

inductive Tree where
  | node (label : Label) (children : List Tree)

namespace Tree

def label : Tree → Label
  | node l _ => l

def children : Tree → List Tree
  | node _ ts => ts

def leaf : Tree := node .other []

mutual
def size : Tree → Nat
  | node _ ts => sizeAll ts + 1

def sizeAll : List Tree → Nat
  | [] => 0
  | t :: ts => size t + sizeAll ts
end

mutual
/-- Number of levels. -/
def depth : Tree → Nat
  | node _ ts => depthAll ts + 1

def depthAll : List Tree → Nat
  | [] => 0
  | t :: ts => max (depth t) (depthAll ts)
end

mutual
/-- Labels of the tree, a node before its children. -/
def labels : Tree → List Label
  | node l ts => l :: labelsAll ts

def labelsAll : List Tree → List Label
  | [] => []
  | t :: ts => labels t ++ labelsAll ts
end

theorem sizeAll_append (ts us : List Tree) : sizeAll (ts ++ us) = sizeAll ts + sizeAll us := by
  induction ts with
  | nil => simp [sizeAll]
  | cons t ts ih => simp [sizeAll, ih]; omega

mutual
theorem depth_le_size : (t : Tree) → t.depth ≤ t.size
  | node _ ts => Nat.succ_le_succ (depthAll_le_sizeAll ts)

theorem depthAll_le_sizeAll : (ts : List Tree) → depthAll ts ≤ sizeAll ts
  | [] => Nat.le_refl _
  | t :: ts => by
    have h := depth_le_size t
    have hs := depthAll_le_sizeAll ts
    simp only [depthAll, sizeAll]
    omega
end

/-- Visits a queue of trees; the children of a visited one go to its end. -/
def visit : List Tree → List Label
  | [] => []
  | node l ts :: rest => l :: visit (rest ++ ts)
termination_by queue => sizeAll queue
decreasing_by
  simp only [sizeAll_append, sizeAll, size]
  omega

def byLevel (t : Tree) : List Label :=
  visit [t]

theorem mem_labelsAll {l : Label} {ts : List Tree} :
    l ∈ labelsAll ts ↔ ∃ t ∈ ts, l ∈ labels t := by
  induction ts with
  | nil => simp [labelsAll]
  | cons t ts ih => simp [labelsAll, ih]

theorem mem_visit {l : Label} {queue : List Tree} : l ∈ visit queue ↔ l ∈ labelsAll queue := by
  fun_induction visit queue with
  | case1 => simp [labelsAll]
  | case2 label ts rest ih =>
    simp only [List.mem_cons, ih, mem_labelsAll, List.mem_append, labels, labelsAll]
    grind [mem_labelsAll]

theorem mem_byLevel {l : Label} {t : Tree} : l ∈ t.byLevel ↔ l ∈ t.labels := by
  simp [byLevel, mem_visit, labelsAll]

end Tree

namespace Expr

mutual
def toTree : Expr → Tree
  | .literal _ => .leaf
  | .name id => .node (.name id) []
  | .access value attr => .node (.access attr) [toTree value]
  | .subscript value index => .node .other [toTree value, toTree index]
  | .slice lower upper step =>
    .node .other (optionTree lower ++ optionTree upper ++ optionTree step)
  | .call function args keywords =>
    .node .other (toTree function :: listTree args ++ keywordTree keywords)
  | .starred value => .node .other [toTree value]
  | .list items => .node .other (listTree items)
  | .tuple items => .node .other (listTree items)
  | .set items => .node .other (listTree items)
  | .dict entries => .node .other (keyTree entries ++ valueTree entries)
  | .unary _ operand => .node .other [toTree operand]
  | .binary left _ right => .node .other [toTree left, toTree right]
  | .both operands => .node .other (listTree operands)
  | .either operands => .node .other (listTree operands)
  | .compare left rest => .node .other (toTree left :: operandTree rest)
  | .conditional test body orElse => .node .other [toTree test, toTree body, toTree orElse]
  | .lambda params body => .node .other [paramsTree params, toTree body]
  | .comprehension _ element clauses => .node .other (toTree element :: clauseTree clauses)
  | .dictComprehension key value clauses =>
    .node .other (toTree key :: toTree value :: clauseTree clauses)
  | .field value _ format => .node .other (toTree value :: optionTree format)
  | .joined pieces => .node .other (listTree pieces)

def listTree : List Expr → List Tree
  | [] => []
  | e :: es => toTree e :: listTree es

def optionTree : Option Expr → List Tree
  | none => []
  | some e => [toTree e]

def keywordTree : List (Option String × Expr) → List Tree
  | [] => []
  | (_, e) :: rest => .node .other [toTree e] :: keywordTree rest

def keyTree : List (Option Expr × Expr) → List Tree
  | [] => []
  | (key, _) :: rest => optionTree key ++ keyTree rest

def valueTree : List (Option Expr × Expr) → List Tree
  | [] => []
  | (_, value) :: rest => toTree value :: valueTree rest

def operandTree : List (CompareOp × Expr) → List Tree
  | [] => []
  | (_, e) :: rest => toTree e :: operandTree rest

def keywordOnlyTree : List (String × Option Expr) → List Tree
  | [] => []
  | (_, e) :: rest => optionTree e ++ keywordOnlyTree rest

def paramsTree : Params Expr → Tree
  | ⟨_, _, _, keywordOnly, _, defaults⟩ =>
    .node .other (keywordOnlyTree keywordOnly ++ listTree defaults)

def clauseTree : List (Clause Expr) → List Tree
  | [] => []
  | ⟨target, source, conditions⟩ :: rest =>
    .node .other (toTree target :: toTree source :: listTree conditions) :: clauseTree rest
end

def nameOf? : Label → Option String
  | .name id => some id
  | _ => none

/-- Names that occur in an expression as such: not attributes, keywords or parameters. -/
def names (e : Expr) : List String :=
  e.toTree.labels.filterMap nameOf?

end Expr

end ContentIndex
