import ContentIndex.Expr.Access
import ContentIndex.Proofs.Expr.Parts

/-!
# What the access rules forbid

An expression breaks a rule with an attribute or a name of its own. The first offender of an
expression is that of the leftmost tree on the highest level that has any, and there is one exactly
if the expression holds one that breaks a rule.
-/

namespace ContentIndex

set_option autoImplicit false

namespace Tree

/-- The trees that stand a number of levels below those given, from left to right. -/
def level (ts : List Tree) : Nat → List Tree
  | 0 => ts
  | n + 1 => level (ts.flatMap children) n

/-- The first tree with a property when trees are gone through level by level. -/
def FirstBelow {α : Type} (f : Label → Option α) (ts : List Tree) (a : α) : Prop :=
  ∃ n before t after, level ts n = before ++ t :: after ∧ f t.label = some a ∧
    (∀ u ∈ before, f u.label = none) ∧ ∀ m < n, ∀ u ∈ level ts m, f u.label = none

theorem sizeAll_children (ts : List Tree) :
    sizeAll ts = sizeAll (ts.flatMap children) + ts.length := by
  induction ts with
  | nil => rfl
  | cons t ts ih =>
    obtain ⟨l, us⟩ := t
    simp only [sizeAll, size, List.flatMap_cons, children, sizeAll_append, List.length_cons, ih]
    omega

/-- With the children of the visited trees at its end, the queue goes on with the rest. -/
theorem visit_append (ts us : List Tree) :
    visit (ts ++ us) = ts.map label ++ visit (us ++ ts.flatMap children) := by
  induction ts generalizing us with
  | nil => simp
  | cons t ts ih =>
    obtain ⟨l, vs⟩ := t
    rw [List.cons_append, visit, List.append_assoc, ih]
    simp only [List.map_cons, label, List.flatMap_cons, children, List.cons_append,
      List.append_assoc]

/-- One level after the other. -/
theorem visit_eq (ts : List Tree) : visit ts = ts.map label ++ visit (ts.flatMap children) := by
  simpa using visit_append ts []

@[simp]
theorem level_nil (n : Nat) : level [] n = [] := by
  induction n with
  | zero => rfl
  | succ n ih => exact ih

section First

variable {α : Type} {f : Label → Option α} {ts : List Tree} {a : α}

theorem findSome?_labels :
    (ts.map label).findSome? f = some a ↔
      ∃ before t after, ts = before ++ t :: after ∧ f t.label = some a ∧
        ∀ u ∈ before, f u.label = none := by
  rw [List.findSome?_map, List.findSome?_eq_some_iff]
  rfl

/-- The first one stands among the trees themselves, or, if none of them counts, further down. -/
theorem firstBelow_iff :
    FirstBelow f ts a ↔ (ts.map label).findSome? f = some a ∨
      (ts.map label).findSome? f = none ∧ FirstBelow f (ts.flatMap children) a := by
  have hnone : (ts.map label).findSome? f = none ↔ ∀ u ∈ ts, f u.label = none := by simp
  rw [findSome?_labels, hnone]
  constructor
  · rintro ⟨n, before, t, after, hlevel, ht, hbefore, habove⟩
    cases n with
    | zero => exact .inl ⟨before, t, after, hlevel, ht, hbefore⟩
    | succ n =>
      exact .inr ⟨habove 0 n.succ_pos, n, before, t, after, hlevel, ht, hbefore, fun m hm =>
        habove (m + 1) (Nat.succ_lt_succ hm)⟩
  · rintro (⟨before, t, after, hlevel, ht, hbefore⟩ |
      ⟨htop, n, before, t, after, hlevel, ht, hbefore, habove⟩)
    · exact ⟨0, before, t, after, hlevel, ht, hbefore, nofun⟩
    · refine ⟨n + 1, before, t, after, hlevel, ht, hbefore, fun m hm => ?_⟩
      cases m with
      | zero => exact htop
      | succ m => exact habove m (Nat.lt_of_succ_lt_succ hm)

/-- The queue gives the first tree of the highest level. -/
theorem findSome?_visit : (visit ts).findSome? f = some a ↔ FirstBelow f ts a := by
  induction hn : sizeAll ts using Nat.strongRecOn generalizing ts with
  | _ n ih =>
    subst hn
    cases ts with
    | nil => simp [visit, FirstBelow]
    | cons t ts =>
      have hsize := sizeAll_children (t :: ts)
      rw [List.length_cons] at hsize
      rw [visit_eq, List.findSome?_append, firstBelow_iff, ← ih _ (by omega) rfl]
      cases ((t :: ts).map label).findSome? f <;> simp

end First

end Tree

/-- Attributes that are off limits. -/
def IsForbiddenAttribute (attr : String) : Prop :=
  ['_'] <+: attr.toList ∨ attr = "format" ∨ attr = "format_map"

/-- Names that are off limits. -/
def IsForbiddenName (id : String) : Prop :=
  ['_', '_'] <+: id.toList

theorem isBlockedAttribute_iff {attr : String} :
    isBlockedAttribute attr = true ↔ IsForbiddenAttribute attr := by
  simp [isBlockedAttribute, blockedAttributes, IsForbiddenAttribute]

theorem isBlockedName_iff {id : String} : isBlockedName id = true ↔ IsForbiddenName id :=
  List.isPrefixOf_iff_prefix

namespace Expr

/-- How an expression breaks a rule with an attribute or a name of its own. -/
inductive Breaks : Expr → Offender → Prop where
  | access {value : Expr} {attr : String} (h : IsForbiddenAttribute attr) :
    Breaks (.access value attr) (.access attr)
  | name {id : String} (h : IsForbiddenName id) : Breaks (.name id) (.name id)

theorem breaks_iff {e : Expr} {o : Offender} : Breaks e o ↔ e.label.offender? = some o := by
  constructor
  · rintro (h | h)
    · simp [label, Label.offender?, isBlockedAttribute_iff.2 h]
    · simp [label, Label.offender?, isBlockedName_iff.2 h]
  · intro h
    cases e with
    | access value attr =>
      obtain ⟨hattr, ho⟩ := Option.ite_none_right_eq_some.1 h
      cases ho
      exact .access (isBlockedAttribute_iff.1 hattr)
    | name id =>
      obtain ⟨hid, ho⟩ := Option.ite_none_right_eq_some.1 h
      cases ho
      exact .name (isBlockedName_iff.1 hid)
    | _ => cases h

/-- `o` is how the first expression, level by level, breaks a rule. -/
def FirstOffender (e : Expr) (o : Offender) : Prop :=
  Tree.FirstBelow Label.offender? [e.toTree] o

theorem firstOffender?_eq_some_iff {e : Expr} {o : Offender} :
    e.firstOffender? = some o ↔ FirstOffender e o :=
  Tree.findSome?_visit

/-- The expressions that an expression holds break rules as the labels of its tree do. -/
theorem exists_breaks_iff {e : Expr} {o : Offender} :
    (∃ part, Holds e part ∧ Breaks part o) ↔ ∃ l ∈ e.toTree.labels, l.offender? = some o := by
  constructor
  · rintro ⟨part, hpart, hbreaks⟩
    have hl := breaks_iff.1 hbreaks
    have hother : part.label ≠ .other := fun h => by simp [h, Label.offender?] at hl
    exact ⟨part.label, (mem_labels_iff_holds hother e).2 ⟨part, hpart, rfl⟩, hl⟩
  · rintro ⟨l, hmem, hl⟩
    have hother : l ≠ .other := fun h => by simp [h, Label.offender?] at hl
    obtain ⟨part, hpart, rfl⟩ := (mem_labels_iff_holds hother e).1 hmem
    exact ⟨part, hpart, breaks_iff.2 hl⟩

/-- There is a first offender exactly if any expression in it breaks a rule. -/
theorem exists_firstOffender_iff {e : Expr} :
    (∃ o, FirstOffender e o) ↔ ∃ part o, Holds e part ∧ Breaks part o := by
  rw [exists_comm]
  simp only [exists_breaks_iff, ← firstOffender?_eq_some_iff]
  constructor
  · rintro ⟨o, ho⟩
    obtain ⟨l, hl, ho⟩ := List.exists_of_findSome?_eq_some ho
    exact ⟨o, l, Tree.mem_byLevel.1 hl, ho⟩
  · rintro ⟨o, l, hl, ho⟩
    refine Option.ne_none_iff_exists'.1 fun hnone => ?_
    rw [(firstOffender?_eq_none_iff e).1 hnone l hl] at ho
    cases ho

end Expr

end ContentIndex
