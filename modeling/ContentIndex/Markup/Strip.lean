import ContentIndex.Markup.Item
import ContentIndex.Text.Case

/-!
# Stripping markup

Directives go, and so do the tags whose name is not among the allowed ones, whatever their case.
-/

namespace ContentIndex.Markup

set_option autoImplicit false

open Text

def isAllowed (allowed : List (List Char)) (name : List Char) : Bool :=
  (allowed.map lower).contains (lower name)

def Item.kept (allowed : List (List Char)) : Item → Bool
  | .plain _ => true
  | .directive _ => false
  | .tag name _ => isAllowed allowed name

def stripTags (allowed : List (List Char)) (s : List Char) : List Char :=
  ((items s).filter (Item.kept allowed)).flatMap Item.source

theorem stripTags_eq_self {allowed : List (List Char)} {s : List Char}
    (h : ∀ item ∈ items s, item.kept allowed = true) : stripTags allowed s = s := by
  rw [stripTags, List.filter_eq_self.2 h, source_items]

end ContentIndex.Markup
