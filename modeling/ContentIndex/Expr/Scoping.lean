import ContentIndex.Expr.Basic

/-!
# Binding rules of expressions

An expression that can be read may still bind wrongly: a keyword given twice, two parameters of
one name, or more than one starred part in a target.
-/

namespace ContentIndex

set_option autoImplicit false

namespace Expr

def reserved (id : String) : Bool :=
  id == "__debug__"

def distinct (ids : List String) : Bool :=
  ids.eraseDups.length == ids.length

def Params.ids (params : Params Expr) : List String :=
  params.positionalOnly ++ params.positional ++ params.keywordOnly.map (·.1) ++
    params.rest.toList ++ params.keywordRest.toList

mutual
/-- Whether a target has at most one starred part on every level. -/
def targetBinds : Expr → Bool
  | .starred e => targetBinds e
  | .tuple items => (items.filter isStarred).length ≤ 1 && targetsBind items
  | .list items => (items.filter isStarred).length ≤ 1 && targetsBind items
  | _ => true

def targetsBind : List Expr → Bool
  | [] => true
  | e :: es => targetBinds e && targetsBind es
end

mutual
def bindsWell : Expr → Bool
  | .literal _ => true
  | .name _ => true
  | .access value _ => bindsWell value
  | .subscript value index => bindsWell value && bindsWell index
  | .slice lower upper step => optionBinds lower && optionBinds upper && optionBinds step
  | .call function args keywords =>
    bindsWell function && listBinds args && keywordsBind keywords &&
      distinct (keywords.filterMap (·.1)) && !(keywords.filterMap (·.1)).any reserved
  | .starred value => bindsWell value
  | .list items => listBinds items
  | .tuple items => listBinds items
  | .set items => listBinds items
  | .dict entries => entriesBind entries
  | .unary _ operand => bindsWell operand
  | .binary left _ right => bindsWell left && bindsWell right
  | .both operands => listBinds operands
  | .either operands => listBinds operands
  | .compare left rest => bindsWell left && operandsBind rest
  | .conditional test body orElse => bindsWell test && bindsWell body && bindsWell orElse
  | .lambda params body => paramsBind params && bindsWell body
  | .comprehension _ element clauses => bindsWell element && clausesBind clauses
  | .dictComprehension key value clauses =>
    bindsWell key && bindsWell value && clausesBind clauses
  | .field value _ format => bindsWell value && optionBinds format
  | .joined pieces => listBinds pieces

def listBinds : List Expr → Bool
  | [] => true
  | e :: es => bindsWell e && listBinds es

def optionBinds : Option Expr → Bool
  | none => true
  | some e => bindsWell e

def keywordsBind : List (Option String × Expr) → Bool
  | [] => true
  | (_, e) :: rest => bindsWell e && keywordsBind rest

def entriesBind : List (Option Expr × Expr) → Bool
  | [] => true
  | (key, value) :: rest => optionBinds key && bindsWell value && entriesBind rest

def operandsBind : List (CompareOp × Expr) → Bool
  | [] => true
  | (_, e) :: rest => bindsWell e && operandsBind rest

def keywordOnlyBinds : List (String × Option Expr) → Bool
  | [] => true
  | (_, e) :: rest => optionBinds e && keywordOnlyBinds rest

def paramsBind : Params Expr → Bool
  | ⟨positionalOnly, positional, rest, keywordOnly, keywordRest, defaults⟩ =>
    let ids := Params.ids ⟨positionalOnly, positional, rest, keywordOnly, keywordRest, defaults⟩
    distinct ids && !ids.any reserved && keywordOnlyBinds keywordOnly && listBinds defaults

def clausesBind : List (Clause Expr) → Bool
  | [] => true
  | ⟨target, source, conditions⟩ :: rest =>
    !isStarred target && targetBinds target && bindsWell target && bindsWell source &&
      listBinds conditions && clausesBind rest
end

end Expr

end ContentIndex
