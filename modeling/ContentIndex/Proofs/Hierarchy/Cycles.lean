import ContentIndex.Indexing
import ContentIndex.Proofs.Hierarchy.Turns
import Mathlib.Data.List.Chain
import Mathlib.Data.List.Forall2

/-!
# Cycles in hierarchies

A walk knows the way from the root to the type that it is in, and from everything that it has left
every way up ends. So it meets a name of its own way only on a cycle, whose names it then lists; and
when it ends otherwise, every way up from the root ends, and there is no cycle to be found.
-/

namespace ContentIndex.Hierarchy

set_option autoImplicit false

open Relation (ReflTransGen TransGen)

/-- Among the types from the root up, equal names mean the same type. -/
def Wellnamed (types : Array NodeType) (root : Nat) : Prop :=
  ∀ a b s t, Reaches types root a → Reaches types root b → types[a]? = some s →
    types[b]? = some t → s.name.key = t.name.key → a = b

def Bears (types : Array NodeType) (id : Nat) (n : Name) : Prop :=
  ∃ t, types[id]? = some t ∧ t.name = n

/-- The names of a way along declared supertypes that leads from a type back to it. -/
structure IsCircle (types : Array NodeType) (root : Nat) (names : List Name) : Prop where
  closed : ∃ n between, names = n :: (between ++ [n])
  distinct : (Name.keys names.dropLast).Nodup
  linked : ∃ id ids, List.Forall₂ (Bears types) (id :: (ids ++ [id])) names ∧
    (id :: (ids ++ [id])).IsChain (Extends types) ∧ ∀ x ∈ id :: ids, Reaches types root x

/-- Every way up from a type ends. -/
def Bounded (types : Array NodeType) (id : Nat) : Prop :=
  Acc (fun super sub => Extends types sub super) id

section Bounds

variable {types : Array NodeType} {root id x : Nat} {names : List Name}

theorem bounded_of_supers (h : ∀ super, Extends types id super → Bounded types super) :
    Bounded types id :=
  Acc.intro id h

theorem Bounded.of_reaches (h : Bounded types id) (hx : Reaches types id x) : Bounded types x := by
  induction hx with
  | refl => exact h
  | tail _ hs ih => exact ih.inv hs

theorem Bounded.not_inherits (h : Bounded types id) : ¬ Inherits types id id := by
  induction h with
  | intro id _ ih =>
    intro hcycle
    obtain ⟨super, hs, hback⟩ := TransGen.head'_iff.1 hcycle
    exact ih super hs (TransGen.tail' hback hs)

theorem IsCircle.exists_cycle (h : IsCircle types root names) :
    ∃ id, Reaches types root id ∧ Inherits types id id := by
  obtain ⟨id, ids, -, hchain, hreaches⟩ := h.linked
  have hpath : (id :: (ids ++ [id])).IsChain (Inherits types) := hchain.imp fun _ _ => .single
  exact ⟨id, hreaches id List.mem_cons_self,
    hpath.rel_cons (List.mem_append_right _ List.mem_cons_self)⟩

end Bounds

/-! ## The way to the innermost type -/

/-- What a type on the way has left of its supertypes: from the others every way up ends, but for
the one that the walk has gone into. -/
structure Frame (types : Array NodeType) (inner : Option Nat) (id : Nat) (supers : List Nat) :
    Prop where
  declared : ∀ super ∈ supers, Extends types id super
  settled : ∀ super, Extends types id super →
    super ∈ supers ∨ Bounded types super ∨ inner = some super

/-- Frames for all types on the way, the innermost one first. -/
def Frames (types : Array NodeType) : Option Nat → List Nat → List (List Nat) → Prop
  | _, [], [] => True
  | inner, id :: path, supers :: pending =>
    Frame types inner id supers ∧ Frames types (some id) path pending
  | _, _, _ => False

/-- A walk whose stack is a way from the root, the innermost type first. Everything else that it
has met is left behind, with every way up from there. -/
structure Tracked (types : Array NodeType) (root : Nat) (path : List Nat) (w : Walk) : Prop where
  frames : Frames types none path w.pending
  named : List.Forall₂ (Bears types) path w.ancestry
  linked : path.IsChain fun super sub => Extends types sub super
  reached : ∀ id ∈ path, Reaches types root id
  distinct : (Name.keys w.ancestry).Nodup
  met : ∀ id t, Reaches types root id → types[id]? = some t → t.name.key ∈ Name.keys w.names →
    id ∈ path ∨ Bounded types id
  rooted : ∃ t, types[root]? = some t ∧ t.name.key ∈ Name.keys w.names

section Tracking

variable {types : Array NodeType} {root id sub : Nat} {t : NodeType} {path supers : List Nat}
  {inner : Option Nat} {names ancestry : List Name} {rest pending : List (List Nat)} {w : Walk}

theorem Frame.of_bounded (h : Frame types inner sub (id :: supers)) (hid : Bounded types id) :
    Frame types inner sub supers where
  declared := fun super hs => h.declared super (List.mem_cons_of_mem _ hs)
  settled := by
    intro super hs
    rcases h.settled super hs with hmem | hrest
    · rcases List.mem_cons.1 hmem with rfl | hmem
      · exact .inr (.inl hid)
      · exact .inl hmem
    · exact .inr hrest

/-- The walk goes into a supertype. -/
theorem Frame.into (h : Frame types none sub (id :: supers)) :
    Frame types (some id) sub supers where
  declared := fun super hs => h.declared super (List.mem_cons_of_mem _ hs)
  settled := by
    intro super hs
    rcases h.settled super hs with hmem | hbounded | hnone
    · rcases List.mem_cons.1 hmem with rfl | hmem
      · exact .inr (.inr rfl)
      · exact .inl hmem
    · exact .inr (.inl hbounded)
    · cases hnone

/-- The walk comes back from a supertype that it has gone through. -/
theorem Frames.out (h : Frames types (some id) path pending) (hid : Bounded types id) :
    Frames types none path pending := by
  match path, pending, h with
  | [], [], _ => trivial
  | sub :: path, supers :: pending, ⟨hframe, hframes⟩ =>
    refine ⟨⟨hframe.declared, fun super hs => ?_⟩, hframes⟩
    rcases hframe.settled super hs with hmem | hbounded | heq
    · exact .inl hmem
    · exact .inr (.inl hbounded)
    · cases heq
      exact .inr (.inl hid)

theorem frame_of_type (ht : types[id]? = some t) : Frame types none id t.supers where
  declared := fun _ hs => ⟨t, ht, hs⟩
  settled := by
    rintro super ⟨t', ht', hs⟩
    cases ht.symm.trans ht'
    exact .inl hs

/-- The innermost type of a walk with something pending. -/
theorem Tracked.innermost (h : Tracked types root path ⟨names, ancestry, supers :: rest⟩) :
    ∃ sub below, path = sub :: below ∧ Frame types none sub supers ∧
      Frames types (some sub) below rest := by
  have hframes := h.frames
  match path, hframes with
  | sub :: below, hframes => exact ⟨sub, below, rfl, hframes.1, hframes.2⟩

theorem mem_keys_of_bears (h : List.Forall₂ (Bears types) path names) (hid : id ∈ path)
    (ht : types[id]? = some t) : t.name.key ∈ Name.keys names := by
  induction h with
  | nil => cases hid
  | cons hx _ ih =>
    rcases List.mem_cons.1 hid with rfl | hid
    · obtain ⟨t', ht', rfl⟩ := hx
      cases ht.symm.trans ht'
      exact List.mem_cons_self
    · exact List.mem_cons_of_mem _ (ih hid)

/-- A supertype from which every way up ends is passed over. -/
theorem Tracked.pass (h : Tracked types root path ⟨names, ancestry, (id :: supers) :: rest⟩)
    (hid : Bounded types id) : Tracked types root path ⟨names, ancestry, supers :: rest⟩ := by
  obtain ⟨sub, below, rfl, hframe, hframes⟩ := h.innermost
  exact ⟨⟨hframe.of_bounded hid, hframes⟩, h.named, h.linked, h.reached, h.distinct, h.met,
    h.rooted⟩

theorem Tracked.leave (h : Tracked types root path ⟨names, ancestry, [] :: rest⟩) :
    ∃ below, Tracked types root below ⟨names, ancestry.drop 1, rest⟩ := by
  obtain ⟨sub, below, rfl, hframe, hframes⟩ := h.innermost
  have hsub : Bounded types sub := by
    refine bounded_of_supers fun super hs => ?_
    rcases hframe.settled super hs with hmem | hbounded | hnone
    · cases hmem
    · exact hbounded
    · cases hnone
  have hnamed := h.named
  have hdistinct := h.distinct
  match ancestry, hnamed with
  | n :: ancestry, .cons _ hnamed =>
    refine ⟨below, hframes.out hsub, hnamed, h.linked.tail, fun id hid =>
      h.reached id (List.mem_cons_of_mem _ hid), (List.nodup_cons.1 hdistinct).2, ?_, h.rooted⟩
    intro id t hid ht hmet
    rcases h.met id t hid ht hmet with hmem | hbounded
    · rcases List.mem_cons.1 hmem with rfl | hmem
      · exact .inr hsub
      · exact .inl hmem
    · exact .inr hbounded

/-- The innermost type declares what is pending for it. -/
theorem Tracked.declares
    (h : Tracked types root path ⟨names, ancestry, (id :: supers) :: rest⟩) :
    Reaches types root id ∧ ∀ sub ∈ path.head?, Extends types sub id := by
  obtain ⟨sub, below, rfl, hframe, -⟩ := h.innermost
  have hid := hframe.declared id List.mem_cons_self
  refine ⟨(h.reached sub List.mem_cons_self).tail hid, fun x hx => ?_⟩
  cases hx
  exact hid

theorem Tracked.enter (hn : Wellnamed types root)
    (h : Tracked types root path ⟨names, ancestry, (id :: supers) :: rest⟩)
    (ht : types[id]? = some t) (hout : t.name.key ∉ Name.keys ancestry) :
    Tracked types root (id :: path)
      ⟨names ++ [t.name], t.name :: ancestry, t.supers :: supers :: rest⟩ := by
  obtain ⟨hid, hextends⟩ := h.declares
  obtain ⟨sub, below, rfl, hframe, hframes⟩ := h.innermost
  refine ⟨⟨frame_of_type ht, hframe.into, hframes⟩, .cons ⟨t, ht, rfl⟩ h.named, ?_, ?_, ?_, ?_, ?_⟩
  · exact List.isChain_cons_cons.2 ⟨hextends sub rfl, h.linked⟩
  · exact List.forall_mem_cons.2 ⟨hid, h.reached⟩
  · exact List.nodup_cons.2 ⟨hout, h.distinct⟩
  · intro x s hx hs hmet
    rw [Name.keys, List.map_append, List.mem_append] at hmet
    rcases hmet with hmet | hlast
    · exact (h.met x s hx hs hmet).imp_left (List.mem_cons_of_mem _)
    · exact .inl (List.mem_cons.2 (.inl (hn x id s t hx hid hs ht (List.mem_singleton.1 hlast))))
  · obtain ⟨s, hs, hmet⟩ := h.rooted
    refine ⟨s, hs, ?_⟩
    rw [Name.keys, List.map_append]
    exact List.mem_append_left _ hmet

/-- The cycle is cut out of the stack at the first place that bears the name. -/
theorem cycleAt_eq {n : Name} (h : n.key ∈ Name.keys names) :
    ∃ before m after, names = before ++ m :: after ∧ m.key = n.key ∧
      cycleAt names n = m :: (before.reverse ++ [n]) := by
  induction names with
  | nil => cases h
  | cons m rest ih =>
    by_cases hm : m.key = n.key
    · exact ⟨[], m, rest, rfl, hm, by simp [cycleAt, hm]⟩
    · have hrest : n.key ∈ Name.keys rest := (List.mem_cons.1 h).resolve_left (Ne.symm hm)
      obtain ⟨before, x, after, hsplit, hx, hcycle⟩ := ih hrest
      refine ⟨m :: before, x, after, congrArg (m :: ·) hsplit, hx, ?_⟩
      obtain ⟨hstart, hbelow⟩ := List.cons.inj hcycle
      have hbefore := List.reverse_injective (List.append_cancel_right hbelow)
      simp [cycleAt, hm, hstart, hbefore]

/-- A name of the way that comes back closes a circle. -/
theorem Tracked.circle (hn : Wellnamed types root)
    (h : Tracked types root path ⟨names, ancestry, (id :: supers) :: rest⟩)
    (ht : types[id]? = some t) (hmem : t.name.key ∈ Name.keys ancestry) :
    IsCircle types root (cycleAt ancestry t.name) := by
  obtain ⟨hid, hextends⟩ := h.declares
  obtain ⟨before, n, after, rfl, hkey, hcycle⟩ := cycleAt_eq hmem
  -- the way, cut at the type that bears the name
  have hcut := (List.take_append_drop before.length path).symm
  have hinner := List.forall₂_take_append _ _ _ h.named
  have houter := List.forall₂_drop_append _ _ _ h.named
  generalize path.take before.length = inner at hcut hinner
  generalize path.drop before.length = outer at hcut houter
  subst hcut
  cases houter with
  | @cons x _ outer _ hx houter =>
    obtain ⟨s, hs, rfl⟩ := hx
    have heq : x = id := hn x id s t (h.reached x (by simp)) hid hs ht hkey
    subst heq
    cases ht.symm.trans hs
    have hup : (x :: inner.reverse).IsChain (Extends types) := by
      have hsplit : inner ++ x :: outer = (inner ++ [x]) ++ outer := by simp
      have hchain := h.linked
      rw [hsplit] at hchain
      have hreverse := List.isChain_reverse.2 hchain.left_of_append
      rwa [List.reverse_concat] at hreverse
    have hlast : ∀ sub ∈ (x :: inner.reverse).getLast?, Extends types sub x := by
      rw [← List.reverse_concat, List.getLast?_reverse]
      intro sub hsub
      refine hextends sub ?_
      cases inner <;> exact hsub
    refine ⟨⟨t.name, before.reverse, hcycle⟩, ?_, x, inner.reverse, ?_, ?_, ?_⟩
    · have hnodup : (Name.keys (before ++ [t.name])).Nodup := by
        refine h.distinct.sublist (List.Sublist.map _ ?_)
        exact (List.Sublist.refl before).append (List.singleton_sublist.2 List.mem_cons_self)
      rw [hcycle, ← List.cons_append, List.dropLast_concat, ← List.reverse_concat, Name.keys,
        List.map_reverse]
      exact List.nodup_reverse.2 hnodup
    · rw [hcycle]
      exact .cons ⟨t, ht, rfl⟩ (List.rel_append (List.rel_reverse hinner) (.cons ⟨t, ht, rfl⟩ .nil))
    · refine List.isChain_append.2 ⟨hup, List.isChain_singleton _, fun sub hsub y hy => ?_⟩
      cases hy
      exact hlast sub hsub
    · intro y hy
      rcases List.mem_cons.1 hy with rfl | hy
      · exact hid
      · exact h.reached y (List.mem_append_left _ (List.mem_reverse.1 hy))

/-! ## What a walk comes to -/

/-- A walk goes on along its way, or ends with a circle or with every way up from the root. -/
def Shown (types : Array NodeType) (root : Nat) : Walk ⊕ Outcome → Prop
  | .inl w => ∃ path, Tracked types root path w
  | .inr (.ok _) => Bounded types root
  | .inr (.error names) => IsCircle types root names

theorem Tracked.turn (hn : Wellnamed types root) (h : Tracked types root path w)
    {next : Walk ⊕ Outcome} (hturn : Turn types w next) : Shown types root next := by
  cases hturn with
  | finish =>
    have hframes := h.frames
    match path, hframes with
    | [], _ =>
      obtain ⟨t, ht, hmet⟩ := h.rooted
      exact (h.met root t .refl ht hmet).resolve_left List.not_mem_nil
  | leave => exact h.leave
  | @absent _ _ id _ _ hid =>
    refine ⟨path, h.pass (bounded_of_supers ?_)⟩
    rintro super ⟨t, ht, -⟩
    cases hid.symm.trans ht
  | @back _ _ id _ _ t ht hmem => exact h.circle hn ht hmem
  | @pass _ _ id _ _ t ht hout hmet =>
    refine ⟨path, h.pass ((h.met id t h.declares.1 ht hmet).resolve_left fun hid => ?_)⟩
    exact hout (mem_keys_of_bears h.named hid ht)
  | @enter _ _ id _ _ t ht hout _ => exact ⟨id :: path, h.enter hn ht hout⟩

theorem Tracked.within (hn : Wellnamed types root) (h : Tracked types root path w) {n : Nat}
    {outcome : Outcome} (hrun : Walk.within types n w = some outcome) :
    Shown types root (.inr outcome) := by
  induction n generalizing w path with
  | zero => cases hrun
  | succ n ih =>
    have hnext := h.turn hn (turn_taken types w)
    rw [Walk.within] at hrun
    cases hturn : w.turn types with
    | inl w' =>
      rw [hturn] at hrun hnext
      obtain ⟨path', h'⟩ := hnext
      exact ih h' hrun
    | inr last =>
      rw [hturn] at hrun hnext
      cases hrun
      exact hnext

theorem tracked_start (hn : Wellnamed types root) (ht : types[root]? = some t) :
    Tracked types root [root] (Walk.start t) where
  frames := ⟨frame_of_type ht, trivial⟩
  named := .cons ⟨t, ht, rfl⟩ .nil
  linked := List.isChain_singleton _
  reached := List.forall_mem_singleton.2 .refl
  distinct := List.nodup_singleton _
  met := fun id s hid hs hmet =>
    .inl (List.mem_singleton.2 (hn id root s t hid .refl hs ht (List.mem_singleton.1 hmet)))
  rooted := ⟨t, ht, List.mem_singleton.2 rfl⟩

theorem shown_flatten (hn : Wellnamed types root) (ht : types[root]? = some t) :
    Shown types root (.inr (flatten types root)) :=
  (tracked_start hn ht).within hn (within_graphSize ht)

end Tracking

/-! ## The error -/

section Error

variable {types : Array NodeType} {root : Nat} {t : NodeType} {names : List Name}

theorem flatten_error_iff (hn : Wellnamed types root) (ht : types[root]? = some t) :
    (∃ names, flatten types root = .error names) ↔
      ∃ id, Reaches types root id ∧ Inherits types id id := by
  have hshown := shown_flatten hn ht
  cases hout : flatten types root with
  | error names =>
    rw [hout] at hshown
    exact iff_of_true ⟨names, rfl⟩ hshown.exists_cycle
  | ok names =>
    rw [hout] at hshown
    refine iff_of_false ?_ ?_
    · rintro ⟨_, h⟩
      cases h
    · rintro ⟨id, hid, hcycle⟩
      exact (Bounded.of_reaches hshown hid).not_inherits hcycle

/-- What flattening a type says of it as a value. -/
theorem typeNames_error (h : flatten types root = .error names) (caption : String) :
    Indexing.typeNames types (.nodeType ⟨root, caption⟩) = .error (cycleError names) := by
  simp only [Indexing.typeNames, h]

/-- Flattening a type ends on every graph of types, after no more turns of the walk than there are
types and declared supertypes, and one. Where equal names mean the same type, it fails just if some
type at or above the root is above itself; and it fails with the names of a way along declared
supertypes from a type back to it, which has no other name twice. -/
theorem flatten_ends (ht : types[root]? = some t) (caption : String) :
    Walk.within types (graphSize types + 1) (Walk.start t) = some (flatten types root) ∧
    (Wellnamed types root →
      ((∃ names, flatten types root = .error names) ↔
        ∃ id, Reaches types root id ∧ Inherits types id id) ∧
      ∀ names, flatten types root = .error names → IsCircle types root names ∧
        ∀ texts : List String, names = texts.map .ofText →
          Indexing.typeNames types (.nodeType ⟨root, caption⟩) = .error (.cycle texts)) := by
  refine ⟨within_graphSize ht, fun hn => ⟨flatten_error_iff hn ht, fun names herror => ?_⟩⟩
  have hshown := shown_flatten hn ht
  rw [herror] at hshown
  refine ⟨hshown, ?_⟩
  rintro texts rfl
  rw [typeNames_error herror, cycleError_ofText]

/-- A page whose supertypes lead into a ring of two types. -/
def ring : Array NodeType :=
  #[⟨.ofText "Page", [2, 1], [], [], 0⟩, ⟨.ofText "Article", [2, 3], [], [], 0⟩,
    ⟨.ofText "Base", [], [], [], 0⟩, ⟨.ofText "Section", [1], [], [], 0⟩]

theorem wellnamed_ring : Wellnamed ring 0 := by
  have hall : ∀ a b : Fin 4, (ring[a]).name.key = (ring[b]).name.key → a = b := by decide
  intro a b s t _ _ hs ht hkey
  obtain ⟨ha, rfl⟩ := Array.getElem?_eq_some_iff.1 hs
  obtain ⟨hb, rfl⟩ := Array.getElem?_eq_some_iff.1 ht
  exact congrArg Fin.val (hall ⟨a, ha⟩ ⟨b, hb⟩ hkey)

theorem flatten_ends_ring :
    Wellnamed ring 0 ∧
    Walk.within ring 10 (Walk.start ring[0]) =
      some (.error (["Article", "Section", "Article"].map .ofText)) ∧
    IsCircle ring 0 (["Article", "Section", "Article"].map .ofText) ∧
    Indexing.typeNames ring (.nodeType ⟨0, "Page"⟩) =
      .error (.cycle ["Article", "Section", "Article"]) := by
  have hwithin : Walk.within ring 10 (Walk.start ring[0]) =
      some (.error (["Article", "Section", "Article"].map .ofText)) := by rfl
  obtain ⟨hends, hcycles⟩ := @flatten_ends ring 0 _ rfl "Page"
  have herror := Option.some.inj (hends.symm.trans hwithin)
  obtain ⟨hcircle, htexts⟩ := (hcycles wellnamed_ring).2 _ herror
  exact ⟨wellnamed_ring, hwithin, hcircle, htexts _ rfl⟩

end Error

end ContentIndex.Hierarchy
