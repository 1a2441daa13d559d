import ContentIndex.Proofs.Firsts
import ContentIndex.Proofs.Hierarchy.Preorder

/-!
# Flattening a hierarchy

The walk with a stack passes over a type that it has met before. It comes to the same names as the
plain way through the hierarchy, each at its first place: a type that has been met and left has
everything above it among the names already. It fails only where a name comes back above a type
that bears it.
-/

namespace ContentIndex

set_option autoImplicit false

namespace Name

theorem mem_keys {n : Name} {names : List Name} (h : n ∈ names) : n.key ∈ keys names :=
  List.mem_map_of_mem h

theorem keys_append (names others : List Name) :
    keys (names ++ others) = keys names ++ keys others :=
  List.map_append

theorem mem_keys_firsts {k : Key} {names : List Name} :
    k ∈ keys (firsts Name.key names) ↔ k ∈ keys names :=
  ContentIndex.mem_keys_firsts

end Name

namespace Hierarchy

open Relation (ReflTransGen TransGen)

/-- A name comes back above a type that bears it. -/
def Recurs (types : Array NodeType) (root : Nat) : Prop :=
  ∃ sub super s t, Reaches types root sub ∧ Inherits types sub super ∧ types[sub]? = some s ∧
    types[super]? = some t ∧ s.name.key = t.name.key

/-- What is pending on the stack is above all the types that it is pending for. -/
def Aligned (types : Array NodeType) (root : Nat) : List Name → List (List Nat) → Prop
  | _, [] => True
  | ancestry, supers :: rest =>
    (∀ super ∈ supers, Reaches types root super ∧ ∀ n ∈ ancestry, ∃ sub t,
      Reaches types root sub ∧ types[sub]? = some t ∧ t.name = n ∧ Inherits types sub super) ∧
    Aligned types root (ancestry.drop 1) rest

/-- Types that have been met and left have everything above them met, too. -/
def Settled (types : Array NodeType) (root : Nat) (met ancestry : List Name) : Prop :=
  ∀ id t, Reaches types root id → types[id]? = some t → t.name.key ∈ Name.keys met →
    t.name.key ∉ Name.keys ancestry → ∀ x s, Reaches types id x → types[x]? = some s →
    s.name.key ∈ Name.keys met

section Stack

variable {types : Array NodeType} {root id : Nat} {t : NodeType} {supers : List Nat}
  {ancestry : List Name} {rest : List (List Nat)}

theorem Aligned.tail (h : Aligned types root ancestry ((id :: supers) :: rest)) :
    Aligned types root ancestry (supers :: rest) :=
  ⟨(List.forall_mem_cons.1 h.1).2, h.2⟩

theorem Aligned.push (h : Aligned types root ancestry ((id :: supers) :: rest))
    (ht : types[id]? = some t) :
    Aligned types root (t.name :: ancestry) (t.supers :: supers :: rest) := by
  obtain ⟨hid, hancestry⟩ := (List.forall_mem_cons.1 h.1).1
  refine ⟨?_, h.tail⟩
  intro super hs
  have hextends : Extends types id super := ⟨t, ht, hs⟩
  refine ⟨hid.tail hextends, List.forall_mem_cons.2 ⟨?_, ?_⟩⟩
  · exact ⟨id, t, hid, ht, rfl, .single hextends⟩
  · intro n hn
    obtain ⟨sub, s, hsub, hs, hname, habove⟩ := hancestry n hn
    exact ⟨sub, s, hsub, hs, hname, habove.tail hextends⟩

/-- A type that is met while its name is on the stack is a name that comes back. -/
theorem Aligned.not_mem (h : Aligned types root ancestry ((id :: supers) :: rest))
    (hr : ¬ Recurs types root) (ht : types[id]? = some t) : t.name.key ∉ Name.keys ancestry := by
  intro hmem
  obtain ⟨n, hn, hkey⟩ := List.mem_map.1 hmem
  obtain ⟨sub, s, hsub, hs, rfl, habove⟩ := (List.forall_mem_cons.1 h.1).1.2 n hn
  exact hr ⟨sub, id, s, t, hsub, habove, hs, ht, hkey⟩

theorem aligned_root (ht : types[root]? = some t) :
    Aligned types root [t.name] [t.supers] := by
  refine ⟨fun super hs => ⟨reaches_super ht hs, ?_⟩, trivial⟩
  exact List.forall_mem_singleton.2 ⟨root, t, .refl, ht, rfl, .single ⟨t, ht, hs⟩⟩

/-- A walk on which no name comes back succeeds. -/
theorem run_ok (hr : ¬ Recurs types root) {w : Walk}
    (h : Aligned types root w.ancestry w.pending) : ∃ names, w.run types = .ok names := by
  fun_induction Walk.run types w with
  | case1 names => exact ⟨names, rfl⟩
  | case2 names ancestry rest ih => exact ih h.2
  | case3 names ancestry id supers rest hid ih => exact ih h.tail
  | case4 names ancestry id supers rest t ht hmem => exact absurd hmem (h.not_mem hr ht)
  | case5 names ancestry id supers rest t ht _ _ ih => exact ih h.tail
  | case6 names ancestry id supers rest t ht _ _ ih => exact ih (h.push ht)

theorem flatten_ok (hr : ¬ Recurs types root) : ∃ names, flatten types root = .ok names := by
  unfold flatten
  cases ht : types[root]? with
  | none => exact ⟨[], rfl⟩
  | some t => exact run_ok hr (aligned_root ht)

end Stack

/-! ## The walk and the preorder -/

section Steps

variable {types : Array NodeType} {id : Nat} {t : NodeType} {supers : List Nat}
  {names ancestry : List Name} {rest : List (List Nat)}

theorem run_pop : Walk.run types ⟨names, ancestry, [] :: rest⟩ =
    Walk.run types ⟨names, ancestry.drop 1, rest⟩ := by
  rw [Walk.run]

theorem run_super (ht : types[id]? = some t) (hout : t.name.key ∉ Name.keys ancestry) :
    Walk.run types ⟨names, ancestry, (id :: supers) :: rest⟩ =
      if t.name.key ∈ Name.keys names then Walk.run types ⟨names, ancestry, supers :: rest⟩
      else Walk.run types
        ⟨names ++ [t.name], t.name :: ancestry, t.supers :: supers :: rest⟩ := by
  rw [Walk.run]
  split
  · rename_i hnone
    cases ht.symm.trans hnone
  · rename_i t' ht'
    cases ht.symm.trans ht'
    rw [if_neg hout]

end Steps

section Walk

variable {types : Array NodeType} {root id : Nat} {t : NodeType} {ids : List Nat}
  {met above ancestry : List Name} {rest : List (List Nat)}

/-- In a coherent hierarchy a name that comes back is a type above itself. -/
theorem Coherent.not_recurs (h : Coherent types root) : ¬ Recurs types root := by
  rintro ⟨sub, super, s, t, hsub, habove, hs, ht, hkey⟩
  have heq : sub = super := h.named hsub (hsub.trans habove.to_reflTransGen) hs ht hkey
  subst heq
  exact h.acyclic sub hsub habove

/-- Everything above types that have been gone through is met. -/
theorem Settled.append (h : Coherent types root) (hs : Settled types root met ancestry)
    (hids : ∀ id ∈ ids, Reaches types root id) (hp : Preorder types ids above) :
    Settled types root (met ++ above) ancestry := by
  intro id t hid ht hmem hleft x s hx hxs
  rw [Name.keys_append, List.mem_append] at hmem ⊢
  rcases hmem with hmet | habove
  · exact .inl (hs id t hid ht hmet hleft x s hx hxs)
  · obtain ⟨n, hn, hkey⟩ := List.mem_map.1 habove
    obtain ⟨first, hfirst, y, u, hy, hyu, rfl⟩ := (hp.mem_iff n).1 hn
    have heq : y = id := h.named ((hids first hfirst).trans hy) hid hyu ht hkey
    subst heq
    exact .inr (Name.mem_keys ((hp.mem_iff s.name).2 ⟨first, hfirst, x, s, hy.trans hx, hxs, rfl⟩))

/-- A type that is entered is met, but not left. -/
theorem Settled.push (hs : Settled types root met ancestry) (n : Name) :
    Settled types root (met ++ [n]) (n :: ancestry) := by
  intro id t hid ht hmem hleft x s hx hxs
  rw [Name.keys_append, List.mem_append] at hmem ⊢
  have hmet : t.name.key ∈ Name.keys met := hmem.resolve_right fun hlast =>
    hleft (List.mem_cons.2 (.inl (List.mem_singleton.1 hlast)))
  exact .inl (hs id t hid ht hmet (fun hin => hleft (List.mem_cons_of_mem _ hin)) x s hx hxs)

/-- The walk goes through the types that are pending as the preorder does. -/
theorem run_pending (h : Coherent types root) (hp : Preorder types ids above)
    (ha : Aligned types root ancestry (ids :: rest)) (hs : Settled types root met ancestry) :
    Walk.run types ⟨firsts Name.key met, ancestry, ids :: rest⟩ =
      Walk.run types ⟨firsts Name.key (met ++ above), ancestry, [] :: rest⟩ := by
  induction hp generalizing met ancestry rest with
  | nil => rw [List.append_nil]
  | @cons id ids t above names ht habove _ ihAbove ihNames =>
    have hid : Reaches types root id := (ha.1 id List.mem_cons_self).1
    have hone : Preorder types [id] (t.name :: above) := by
      have hp := Preorder.cons ht habove .nil
      rwa [List.append_nil] at hp
    have hs' : Settled types root (met ++ (t.name :: above)) ancestry :=
      hs.append h (List.forall_mem_singleton.2 hid) hone
    have hgo := ihNames ha.tail hs'
    rw [List.append_assoc] at hgo
    have hout : t.name.key ∉ Name.keys ancestry := ha.not_mem h.not_recurs ht
    rw [run_super ht hout]
    by_cases hmet : t.name.key ∈ Name.keys met
    · -- the type has been left, so nothing of its hierarchy is new
      have hold : ∀ n ∈ t.name :: above, n.key ∈ Name.keys met := by
        intro n hn
        obtain ⟨_, hfirst, x, s, hx, hxs, rfl⟩ := (hone.mem_iff n).1 hn
        cases List.mem_singleton.1 hfirst
        exact hs id t hid ht hmet hout x s hx hxs
      rw [if_pos (Name.mem_keys_firsts.2 hmet), ← hgo, firsts_append_of_subset hold]
    · have hnew : firsts Name.key met ++ [t.name] = firsts Name.key (met ++ [t.name]) :=
        (firsts_concat_of_not_mem hmet).symm
      have henter := ihAbove (ha.push ht) (hs.push t.name)
      rw [List.append_assoc, List.singleton_append] at henter
      rw [if_neg fun hmem => hmet (Name.mem_keys_firsts.1 hmem), hnew, henter, run_pop,
        List.drop_one, List.tail_cons, hgo]

theorem flatten_preorder (h : Coherent types root) (ht : types[root]? = some t)
    (hp : Preorder types t.supers above) :
    flatten types root = .ok (firsts Name.key (t.name :: above)) := by
  have hs : Settled types root [t.name] [t.name] :=
    fun _ _ _ _ hmem hleft => absurd hmem hleft
  have hone : firsts Name.key [t.name] = [t.name] := rfl
  have hrun := run_pending h hp (aligned_root ht) hs
  rw [hone, run_pop] at hrun
  unfold flatten
  rw [ht]
  dsimp only
  rw [hrun, Walk.run]
  rfl

/-- Names that are told apart by their keys are told apart by being different. -/
theorem Coherent.mem_firsts (h : Coherent types root) {all : List Name}
    (hp : Preorder types [root] all) (n : Name) :
    n ∈ firsts Name.key all ↔ ∃ x s, Reaches types root x ∧ types[x]? = some s ∧ s.name = n := by
  have hall : ∀ n, n ∈ all ↔ ∃ x s, Reaches types root x ∧ types[x]? = some s ∧ s.name = n := by
    intro n
    rw [hp.mem_iff]
    simp only [List.mem_singleton, exists_eq_left]
  rw [← hall]
  refine ⟨mem_of_mem_firsts, fun hn => ?_⟩
  obtain ⟨m, hm, hkey⟩ := List.mem_map.1 (Name.mem_keys_firsts.2 (Name.mem_keys hn))
  obtain ⟨x, s, hx, hs, rfl⟩ := (hall n).1 hn
  obtain ⟨y, t, hy, ht, rfl⟩ := (hall m).1 (mem_of_mem_firsts hm)
  have heq : y = x := h.named hy hx ht hs hkey
  subst heq
  cases hs.symm.trans ht
  exact hm

/-- The lists of the supertypes of a type, flattened each for itself. -/
theorem Coherent.flatten_supers (h : Coherent types root)
    {lists : List (List Name)} (hids : ∀ id ∈ ids, Reaches types root id)
    (hp : List.Forall₂ (fun id names => Preorder types [id] names) ids lists) :
    List.Forall₂ (fun id names => flatten types id = .ok names) ids
      (lists.map (firsts Name.key)) := by
  induction hp with
  | nil => exact .nil
  | cons hone _ ih =>
    obtain ⟨hid, hrest⟩ := List.forall_mem_cons.1 hids
    refine .cons ?_ (ih hrest)
    cases hone with
    | cons ht habove hend =>
      cases hend
      rw [List.append_nil]
      exact flatten_preorder (h.of_reaches hid) ht habove

/-- Flattening gives a type and then the flattened lists of its supertypes in their order, each name
at its first place; that is the whole preorder without its repetitions, so it starts with the type
and lists just the names that can be reached, each of them once. -/
theorem flatten_eq_firsts (h : Coherent types root) :
    ∃ t names, types[root]? = some t ∧ flatten types root = .ok names ∧
      (∃ lists, List.Forall₂ (fun super list => flatten types super = .ok list) t.supers lists ∧
        names = firsts Name.key (t.name :: lists.flatten)) ∧
      (∃ all, Preorder types [root] all ∧ names = firsts Name.key all) ∧
      names.head? = some t.name ∧ (Name.keys names).Nodup ∧
      ∀ n, n ∈ names ↔ ∃ x s, Reaches types root x ∧ types[x]? = some s ∧ s.name = n := by
  obtain ⟨t, ht⟩ := h.present root .refl
  have hids : ∀ super ∈ t.supers, Reaches types root super := fun super hs => reaches_super ht hs
  obtain ⟨lists, hlists⟩ := exists_preorders fun super hs =>
    (h.of_reaches (hids super hs)).exists_preorder
  have hp : Preorder types [root] (t.name :: lists.flatten) := by
    have hroot := Preorder.cons ht (preorder_flatten hlists) .nil
    rwa [List.append_nil] at hroot
  have hsame : firsts Name.key ([t.name] ++ lists.flatten) =
      firsts Name.key ([t.name] ++ (lists.map (firsts Name.key)).flatten) :=
    firsts_append_congr rfl (firsts_flatten Name.key lists).symm
  refine ⟨t, _, ht, flatten_preorder h ht (preorder_flatten hlists), ?_, ⟨_, hp, rfl⟩, rfl,
    nodup_keys_firsts _ _, h.mem_firsts hp⟩
  exact ⟨_, h.flatten_supers hids hlists, hsame⟩

/-- Diamonds above diamonds: a type with supertypes that are above each other, too. -/
def diamonds : Array NodeType :=
  #[⟨.ofText "Base", [], [], [], 0⟩, ⟨.ofText "Left", [0], [], [], 0⟩,
    ⟨.ofText "Right", [0], [], [], 0⟩, ⟨.ofText "Middle", [1, 2], [], [], 0⟩,
    ⟨.ofText "Top", [3, 1, 2, 0], [], [], 0⟩]

theorem founded_diamonds : Founded diamonds 4 := by
  have hall : ∀ id : Fin 5, ∀ super ∈ (diamonds[id]).supers, super < id := by decide
  intro id t _ ht super hs
  obtain ⟨hlt, rfl⟩ := Array.getElem?_eq_some_iff.1 ht
  exact hall ⟨id, hlt⟩ super hs

theorem coherent_diamonds : Coherent diamonds 4 :=
  coherent_of_founded founded_diamonds (by decide) (by decide)

theorem flatten_eq_firsts_diamonds :
    Coherent diamonds 4 ∧ ∃ names, flatten diamonds 4 = .ok names ∧
      names.head? = some (.ofText "Top") ∧ (Name.keys names).Nodup := by
  obtain ⟨t, names, ht, hnames, -, -, hhead, hnodup, -⟩ := flatten_eq_firsts coherent_diamonds
  cases ht
  exact ⟨coherent_diamonds, names, hnames, hhead, hnodup⟩

end Walk

end Hierarchy

end ContentIndex
