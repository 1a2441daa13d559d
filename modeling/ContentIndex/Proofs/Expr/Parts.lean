import ContentIndex.Expr.Tree
import Mathlib.Data.List.Basic
import Mathlib.Logic.Relation

/-!
# Parts of expressions

The expressions that stand directly in another one, for every kind of expression, and those that
stand in it at any depth. The labels of the tree of an expression are its own and those of its
parts: the further nodes of the tree, for keyword arguments, parameter lists and clauses, have no
label of interest.
-/

namespace ContentIndex

set_option autoImplicit false

def Clause.parts (clause : Clause Expr) : List Expr :=
  clause.target :: clause.source :: clause.conditions

def Params.parts (params : Params Expr) : List Expr :=
  params.keywordOnly.filterMap (·.2) ++ params.defaults

namespace Expr

/-- What stands directly in an expression. -/
def parts : Expr → List Expr
  | .literal _ => []
  | .name _ => []
  | .access value _ => [value]
  | .subscript value index => [value, index]
  | .slice lower upper step => lower.toList ++ upper.toList ++ step.toList
  | .call function args keywords => function :: args ++ keywords.map (·.2)
  | .starred value => [value]
  | .list items => items
  | .tuple items => items
  | .set items => items
  | .dict entries => entries.filterMap (·.1) ++ entries.map (·.2)
  | .unary _ operand => [operand]
  | .binary left _ right => [left, right]
  | .both operands => operands
  | .either operands => operands
  | .compare left rest => left :: rest.map (·.2)
  | .conditional test body orElse => [test, body, orElse]
  | .lambda params body => params.parts ++ [body]
  | .comprehension _ element clauses => element :: clauses.flatMap Clause.parts
  | .dictComprehension key value clauses => key :: value :: clauses.flatMap Clause.parts
  | .field value _ format => value :: format.toList
  | .joined pieces => pieces

/-- An expression holds itself, its parts, their parts, and so on. -/
def Holds : Expr → Expr → Prop :=
  Relation.ReflTransGen fun e part => part ∈ e.parts

def label : Expr → Label
  | .name id => .name id
  | .access _ attr => .access attr
  | _ => .other

section Trees

@[simp]
theorem listTree_eq (es : List Expr) : listTree es = es.map toTree := by
  induction es with
  | nil => rfl
  | cons e es ih => rw [listTree, ih, List.map_cons]

@[simp]
theorem optionTree_eq (e : Option Expr) : optionTree e = e.toList.map toTree := by
  cases e <;> rfl

@[simp]
theorem keywordTree_eq (keywords : List (Option String × Expr)) :
    keywordTree keywords = keywords.map fun k => .node .other [k.2.toTree] := by
  induction keywords with
  | nil => rfl
  | cons k rest ih => rw [keywordTree, ih, List.map_cons]

@[simp]
theorem keyTree_eq (entries : List (Option Expr × Expr)) :
    keyTree entries = (entries.filterMap (·.1)).map toTree := by
  induction entries with
  | nil => rfl
  | cons entry rest ih =>
    obtain ⟨key, value⟩ := entry
    cases key <;> simp [keyTree, ih]

@[simp]
theorem valueTree_eq (entries : List (Option Expr × Expr)) :
    valueTree entries = (entries.map (·.2)).map toTree := by
  induction entries with
  | nil => rfl
  | cons entry rest ih => rw [valueTree, ih, List.map_cons, List.map_cons]

@[simp]
theorem operandTree_eq (rest : List (CompareOp × Expr)) :
    operandTree rest = (rest.map (·.2)).map toTree := by
  induction rest with
  | nil => rfl
  | cons operand rest ih => rw [operandTree, ih, List.map_cons, List.map_cons]

@[simp]
theorem keywordOnlyTree_eq (params : List (String × Option Expr)) :
    keywordOnlyTree params = (params.filterMap (·.2)).map toTree := by
  induction params with
  | nil => rfl
  | cons param rest ih =>
    obtain ⟨id, default⟩ := param
    cases default <;> simp [keywordOnlyTree, ih]

@[simp]
theorem paramsTree_eq (params : Params Expr) :
    paramsTree params = .node .other (params.parts.map toTree) := by
  cases params
  simp [paramsTree, Params.parts]

@[simp]
theorem clauseTree_eq (clauses : List (Clause Expr)) :
    clauseTree clauses = clauses.map fun c => .node .other (c.parts.map toTree) := by
  induction clauses with
  | nil => rfl
  | cons clause rest ih => simp [clauseTree, ih, Clause.parts]

end Trees

section Labels

open ContentIndex.Tree (labels labelsAll)

variable {l : Label}

/-- Nodes without a label of interest can be left out. -/
theorem mem_labelsAll_bare {α : Type} (hl : l ≠ .other) (xs : List α) (f : α → List Tree) :
    l ∈ labelsAll (xs.map fun x => .node .other (f x)) ↔ l ∈ labelsAll (xs.flatMap f) := by
  simp only [Tree.mem_labelsAll, List.mem_map, List.mem_flatMap]
  constructor
  · rintro ⟨_, ⟨x, hx, rfl⟩, h⟩
    rw [labels, List.mem_cons, Tree.mem_labelsAll] at h
    obtain ⟨t, ht, h⟩ := h.resolve_left hl
    exact ⟨t, ⟨x, hx, ht⟩, h⟩
  · rintro ⟨t, ⟨x, hx, ht⟩, h⟩
    refine ⟨_, ⟨x, hx, rfl⟩, ?_⟩
    rw [labels, List.mem_cons, Tree.mem_labelsAll]
    exact .inr ⟨t, ht, h⟩

theorem mem_labelsAll_append {ts us : List Tree} :
    l ∈ labelsAll (ts ++ us) ↔ l ∈ labelsAll ts ∨ l ∈ labelsAll us := by
  simp only [Tree.mem_labelsAll, List.mem_append, or_and_right, exists_or]

/-- A label of interest is that of the expression or stands in one of its parts. -/
theorem mem_labels_iff (hl : l ≠ .other) (e : Expr) :
    l ∈ e.toTree.labels ↔ l = e.label ∨ ∃ part ∈ e.parts, l ∈ part.toTree.labels := by
  have hparts : ∀ es : List Expr,
      l ∈ labelsAll (es.map toTree) ↔ ∃ part ∈ es, l ∈ part.toTree.labels := fun es => by
    simp only [Tree.mem_labelsAll, List.mem_map, exists_exists_and_eq_and]
  rw [← hparts]
  cases e <;>
    simp [toTree, Tree.leaf, label, parts, labels, labelsAll, hl, mem_labelsAll_append,
      mem_labelsAll_bare, List.map_flatMap, ← List.map_eq_flatMap, Function.comp_def]

end Labels

section Sizes

open ContentIndex.Tree (size sizeAll)

theorem sizeAll_flatMap_le {α : Type} (xs : List α) (f : α → List Tree) :
    sizeAll (xs.flatMap f) ≤ sizeAll (xs.map fun x => .node .other (f x)) := by
  induction xs with
  | nil => exact Nat.le_refl _
  | cons x xs ih =>
    simp only [List.flatMap_cons, List.map_cons, sizeAll, size, Tree.sizeAll_append]
    omega

theorem size_le_of_mem {t : Tree} {ts : List Tree} (h : t ∈ ts) : t.size ≤ sizeAll ts := by
  obtain ⟨before, after, rfl⟩ := List.append_of_mem h
  simp only [Tree.sizeAll_append, sizeAll]
  omega

/-- The trees of the parts are smaller than the tree of the whole. -/
theorem sizeAll_parts_lt (e : Expr) : sizeAll (e.parts.map toTree) < e.toTree.size := by
  have hkeywords := fun keywords : List (Option String × Expr) =>
    sizeAll_flatMap_le keywords fun k => [k.2.toTree]
  have hclauses := fun clauses : List (Clause Expr) =>
    sizeAll_flatMap_le clauses fun c => c.parts.map toTree
  cases e with
  | call function args keywords =>
    have h := hkeywords keywords
    simp [toTree, parts, size, sizeAll, Tree.sizeAll_append, ← List.map_eq_flatMap,
      Function.comp_def] at h ⊢
    omega
  | comprehension kind element clauses =>
    have h := hclauses clauses
    simp [toTree, parts, size, sizeAll, List.map_flatMap] at h ⊢
    omega
  | dictComprehension key value clauses =>
    have h := hclauses clauses
    simp [toTree, parts, size, sizeAll, List.map_flatMap] at h ⊢
    omega
  | lambda params body =>
    simp only [toTree, paramsTree_eq, parts, List.map_append, List.map_cons, List.map_nil, size,
      sizeAll, Tree.sizeAll_append]
    omega
  | _ => simp [toTree, Tree.leaf, parts, size, sizeAll, Tree.sizeAll_append]

theorem size_part_lt {e part : Expr} (h : part ∈ e.parts) : part.toTree.size < e.toTree.size :=
  Nat.lt_of_le_of_lt (size_le_of_mem (List.mem_map_of_mem h)) e.sizeAll_parts_lt

end Sizes

/-- The labels of interest are those of the expressions that an expression holds. -/
theorem mem_labels_iff_holds {l : Label} (hl : l ≠ .other) (e : Expr) :
    l ∈ e.toTree.labels ↔ ∃ part, Holds e part ∧ part.label = l := by
  constructor
  · intro h
    induction hn : e.toTree.size using Nat.strongRecOn generalizing e with
    | _ n ih =>
      subst hn
      obtain rfl | ⟨part, hpart, h⟩ := (mem_labels_iff hl e).1 h
      · exact ⟨e, .refl, rfl⟩
      · obtain ⟨inner, hinner, hlabel⟩ := ih _ (size_part_lt hpart) part h rfl
        exact ⟨inner, .head hpart hinner, hlabel⟩
  · rintro ⟨part, hpart, rfl⟩
    induction hpart using Relation.ReflTransGen.head_induction_on with
    | refl => exact (mem_labels_iff hl part).2 (.inl rfl)
    | head hstep _ ih => exact (mem_labels_iff hl _).2 (.inr ⟨_, hstep, ih⟩)

theorem nameOf?_eq_some_iff {l : Label} {id : String} : nameOf? l = some id ↔ l = .name id := by
  cases l <;> simp [nameOf?]

theorem mem_names_iff {e : Expr} {id : String} : id ∈ e.names ↔ .name id ∈ e.toTree.labels := by
  simp only [names, List.mem_filterMap, nameOf?_eq_some_iff, exists_eq_right]

theorem name_mem_names (id : String) : id ∈ (name id).names :=
  mem_names_iff.2 ((mem_labels_iff (l := .name id) nofun _).2 (.inl rfl))

theorem names_part {e part : Expr} (h : part ∈ e.parts) {id : String} (hid : id ∈ part.names) :
    id ∈ e.names :=
  mem_names_iff.2 ((mem_labels_iff (l := .name id) nofun e).2 (.inr ⟨part, h, mem_names_iff.1 hid⟩))

end Expr

end ContentIndex
