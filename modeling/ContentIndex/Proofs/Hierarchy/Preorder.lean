import ContentIndex.Hierarchy
import Mathlib.Data.Fintype.EquivFin
import Mathlib.Logic.Relation

/-!
# The preorder of a hierarchy

The plain way through a hierarchy: a type, and then everything above each of its supertypes in
turn, as often as it is met. Where no type is above itself this comes to an end, and the names that
it meets are those of the types that can be reached.
-/

namespace ContentIndex.Hierarchy

set_option autoImplicit false

open Relation (ReflTransGen TransGen)

/-- One type declares another as its supertype. -/
def Extends (types : Array NodeType) (sub super : Nat) : Prop :=
  ∃ t, types[sub]? = some t ∧ super ∈ t.supers

/-- A type or anything above it. -/
abbrev Reaches (types : Array NodeType) : Nat → Nat → Prop :=
  ReflTransGen (Extends types)

/-- Anything strictly above a type. -/
abbrev Inherits (types : Array NodeType) : Nat → Nat → Prop :=
  TransGen (Extends types)

/-- A hierarchy in which equal names mean the same type and no type is above itself. -/
structure Coherent (types : Array NodeType) (root : Nat) : Prop where
  present : ∀ id, Reaches types root id → ∃ t, types[id]? = some t
  named : ∀ {a b s t}, Reaches types root a → Reaches types root b →
    types[a]? = some s → types[b]? = some t → s.name.key = t.name.key → a = b
  acyclic : ∀ id, Reaches types root id → ¬ Inherits types id id

/-- Supertypes are older than their subtypes. -/
def Founded (types : Array NodeType) (root : Nat) : Prop :=
  ∀ {id : Nat} {t : NodeType}, Reaches types root id → types[id]? = some t →
    ∀ super ∈ t.supers, super < id

/-- Names met on the way through the hierarchies of some types, with repetitions. -/
inductive Preorder (types : Array NodeType) : List Nat → List Name → Prop where
  | nil : Preorder types [] []
  | cons {id : Nat} {ids : List Nat} {t : NodeType} {above names : List Name} :
      types[id]? = some t → Preorder types t.supers above → Preorder types ids names →
      Preorder types (id :: ids) (t.name :: above ++ names)

section Reaching

variable {types : Array NodeType} {root id x : Nat} {t : NodeType}

/-- The hierarchy of a type above the root is coherent as that of the root is. -/
theorem Coherent.of_reaches (h : Coherent types root) (hid : Reaches types root id) :
    Coherent types id where
  present := fun x hx => h.present x (hid.trans hx)
  named := fun ha hb => h.named (hid.trans ha) (hid.trans hb)
  acyclic := fun x hx => h.acyclic x (hid.trans hx)

theorem reaches_super (ht : types[id]? = some t) {super : Nat} (hs : super ∈ t.supers) :
    Reaches types id super :=
  .single ⟨t, ht, hs⟩

/-- What can be reached is the type itself, or can be reached from one of its supertypes. -/
theorem reaches_iff (ht : types[id]? = some t) :
    Reaches types id x ↔ x = id ∨ ∃ super ∈ t.supers, Reaches types super x := by
  constructor
  · intro h
    rcases ReflTransGen.cases_head h with rfl | ⟨super, ⟨t', ht', hs⟩, hx⟩
    · exact .inl rfl
    · rw [ht] at ht'
      cases ht'
      exact .inr ⟨super, hs, hx⟩
  · rintro (rfl | ⟨super, hs, hx⟩)
    · exact .refl
    · exact (reaches_super ht hs).trans hx

theorem Founded.lt (h : Founded types root) (hid : Reaches types root id)
    (habove : Inherits types id x) : x < id := by
  induction habove with
  | single hx =>
    obtain ⟨t, ht, hs⟩ := hx
    exact h hid ht _ hs
  | tail hbetween hx ih =>
    obtain ⟨t, ht, hs⟩ := hx
    exact (h (hid.trans hbetween.to_reflTransGen) ht _ hs).trans ih

/-- Types with distinct names, all younger than their supertypes, make coherent hierarchies. -/
theorem coherent_of_founded (h : Founded types root) (hroot : root < types.size)
    (hnames : (types.toList.map fun t => t.name.key).Nodup) : Coherent types root where
  present := by
    intro id hid
    have hlt : id < types.size := by
      rcases Relation.reflTransGen_iff_eq_or_transGen.1 hid with rfl | habove
      · exact hroot
      · exact (h.lt .refl habove).trans hroot
    exact ⟨types[id], Array.getElem?_eq_getElem hlt⟩
  named := by
    intro a b s t _ _ hs ht hkey
    have hget : ∀ {id : Nat} {t : NodeType}, types[id]? = some t →
        (types.toList.map fun t => t.name.key)[id]? = some t.name.key := by
      intro id t ht
      rw [List.getElem?_map, Array.getElem?_toList, ht]
      rfl
    have hlt := (List.getElem?_eq_some_iff.1 (hget hs)).1
    refine (List.getElem?_inj hlt hnames).1 ?_
    rw [hget hs, hget ht, hkey]
  acyclic := fun id hid habove => Nat.lt_irrefl id (h.lt hid habove)

end Reaching

/-! ## What the preorder meets -/

section Meeting

variable {types : Array NodeType} {root : Nat} {ids : List Nat} {names : List Name}

theorem Preorder.mem_iff (h : Preorder types ids names) (n : Name) :
    n ∈ names ↔
      ∃ id ∈ ids, ∃ x t, Reaches types id x ∧ types[x]? = some t ∧ t.name = n := by
  induction h with
  | nil => simp
  | @cons id ids t above names ht _ _ ihAbove ihNames =>
    have hhead : n ∈ t.name :: above ↔
        ∃ x s, Reaches types id x ∧ types[x]? = some s ∧ s.name = n := by
      rw [List.mem_cons, ihAbove]
      constructor
      · rintro (rfl | ⟨super, hs, x, s, hx, hxs, hn⟩)
        · exact ⟨id, t, .refl, ht, rfl⟩
        · exact ⟨x, s, (reaches_super ht hs).trans hx, hxs, hn⟩
      · rintro ⟨x, s, hx, hxs, hn⟩
        rcases (reaches_iff ht).1 hx with rfl | ⟨super, hs, hx⟩
        · rw [ht] at hxs
          cases hxs
          exact .inl hn.symm
        · exact .inr ⟨super, hs, x, s, hx, hxs, hn⟩
    rw [List.mem_append, hhead, ihNames]
    simp only [List.mem_cons, exists_eq_or_imp]

/-- The way through several hierarchies is one after the other. -/
theorem preorder_flatten {lists : List (List Name)}
    (h : List.Forall₂ (fun id names => Preorder types [id] names) ids lists) :
    Preorder types ids lists.flatten := by
  induction h with
  | nil => exact .nil
  | cons hid _ ih =>
    cases hid with
    | cons ht habove hrest =>
      cases hrest
      rw [List.append_nil]
      exact .cons ht habove ih

theorem exists_preorders (h : ∀ id ∈ ids, ∃ names, Preorder types [id] names) :
    ∃ lists, List.Forall₂ (fun id names => Preorder types [id] names) ids lists := by
  induction ids with
  | nil => exact ⟨[], .nil⟩
  | cons id rest ih =>
    obtain ⟨⟨names, hnames⟩, hrest⟩ := List.forall_mem_cons.1 h
    obtain ⟨lists, hlists⟩ := ih hrest
    exact ⟨names :: lists, .cons hnames hlists⟩

/-- The types of a coherent hierarchy are finitely many, and inheriting is well-founded on them. -/
theorem Coherent.wellFounded (h : Coherent types root) :
    WellFounded fun a b : {id // Reaches types root id} => Inherits types b.1 a.1 := by
  have hlt : ∀ id : {id // Reaches types root id}, id.1 < types.size := by
    intro id
    obtain ⟨t, ht⟩ := h.present id.1 id.2
    exact (Array.getElem?_eq_some_iff.1 ht).1
  have hinjective : Function.Injective fun id : {id // Reaches types root id} =>
      (⟨id.1, hlt id⟩ : Fin types.size) :=
    fun _ _ hab => Subtype.ext (congrArg Fin.val hab)
  have : Finite {id // Reaches types root id} := .of_injective _ hinjective
  have : IsTrans {id // Reaches types root id} fun a b => Inherits types b.1 a.1 :=
    ⟨fun _ _ _ hab hbc => TransGen.trans hbc hab⟩
  have : Std.Irrefl fun a b : {id // Reaches types root id} => Inherits types b.1 a.1 :=
    ⟨fun id => h.acyclic id.1 id.2⟩
  exact Finite.wellFounded_of_trans_of_irrefl _

theorem Coherent.exists_preorder (h : Coherent types root) :
    ∃ names, Preorder types [root] names := by
  have hall : ∀ id : {id // Reaches types root id}, ∃ names, Preorder types [id.1] names := by
    intro id
    induction id using h.wellFounded.induction with
    | _ id ih =>
      obtain ⟨t, ht⟩ := h.present id.1 id.2
      have hsupers : ∀ super ∈ t.supers, ∃ names, Preorder types [super] names := fun super hs =>
        ih ⟨super, id.2.trans (reaches_super ht hs)⟩ (.single ⟨t, ht, hs⟩)
      obtain ⟨lists, hlists⟩ := exists_preorders hsupers
      exact ⟨_, .cons ht (preorder_flatten hlists) .nil⟩
  exact hall ⟨root, .refl⟩

end Meeting

end ContentIndex.Hierarchy
