import ContentIndex.Store

/-!
# Flattened hierarchies

The names of a node type and everything above it: a type comes before its supertypes, these in
declared order, and each name stands at its first place. The walk keeps its own stack, so it ends
on every graph of types; a supertype that bears the name of one of its descendants on the stack
is a cycle.
-/

namespace ContentIndex.Hierarchy

set_option autoImplicit false

/-- The state of a walk: names found so far, names of the types on the stack and the supertypes
each of them has left, both with the innermost type first. -/
structure Walk where
  names : List Name
  ancestry : List Name
  pending : List (List Nat)

def uncollected (types : Array NodeType) (names : List Name) : Nat :=
  types.toList.countP fun t => !(Name.keys names).contains t.name.key

def pendingSize (pending : List (List Nat)) : Nat :=
  pending.foldr (fun supers total => supers.length + 1 + total) 0

/-- From the type of the given name down to the innermost one, and back to that name. -/
def cycleAt (ancestry : List Name) (name : Name) : List Name :=
  let below := (ancestry.takeWhile fun n => n.key != name.key).reverse
  let start := (ancestry.find? fun n => n.key == name.key).getD name
  start :: (below ++ [name])

theorem countP_lt_countP {α : Type} {p q : α → Bool} {l : List α} {a : α} (ha : a ∈ l)
    (hp : p a = true) (hq : q a = false) (himp : ∀ x, q x = true → p x = true) :
    l.countP q < l.countP p := by
  induction l with
  | nil => simp at ha
  | cons b bs ih =>
    have hle : bs.countP q ≤ bs.countP p := List.countP_mono_left fun x _ h => himp x h
    rcases List.mem_cons.1 ha with rfl | hb
    · simp [hp, hq]; omega
    · have hlt := ih hb
      by_cases hqb : q b = true
      · simp [hqb, himp b hqb]; omega
      · simp only [Bool.not_eq_true] at hqb
        by_cases hpb : p b = true
        · simp [hqb, hpb]; omega
        · simp only [Bool.not_eq_true] at hpb
          simp [hqb, hpb]; omega

theorem uncollected_append_lt {types : Array NodeType} {names : List Name} {id : Nat}
    {t : NodeType} (ht : types[id]? = some t) (hn : t.name.key ∉ Name.keys names) :
    uncollected types (names ++ [t.name]) < uncollected types names := by
  unfold uncollected
  apply countP_lt_countP (a := t)
  · exact Array.mem_toList_iff.2 (Array.mem_of_getElem? ht)
  · simpa using hn
  · simp [Name.keys]
  · intro x hx
    simp only [Name.keys, List.map_append, List.contains_eq_mem, List.mem_append,
      Bool.not_eq_true', decide_eq_false_iff_not, not_or] at hx ⊢
    exact hx.1

def Walk.run (types : Array NodeType) (w : Walk) : Except (List Name) (List Name) :=
  match w with
  | ⟨names, _, []⟩ => .ok names
  | ⟨names, ancestry, [] :: rest⟩ => Walk.run types ⟨names, ancestry.drop 1, rest⟩
  | ⟨names, ancestry, (id :: supers) :: rest⟩ =>
    match _h : types[id]? with
    | none => Walk.run types ⟨names, ancestry, supers :: rest⟩
    | some t =>
      if t.name.key ∈ Name.keys ancestry then .error (cycleAt ancestry t.name)
      else if t.name.key ∈ Name.keys names then Walk.run types ⟨names, ancestry, supers :: rest⟩
      else Walk.run types ⟨names ++ [t.name], t.name :: ancestry, t.supers :: supers :: rest⟩
termination_by (uncollected types w.names, pendingSize w.pending)
decreasing_by
  · simp only [pendingSize, List.foldr_cons]
    right; simp
  · simp only [pendingSize, List.foldr_cons, List.length_cons]
    right; omega
  · simp only [pendingSize, List.foldr_cons, List.length_cons]
    right; omega
  · left
    exact uncollected_append_lt _h (by assumption)

/-- The flattened hierarchy of a type, or the names of a cycle. -/
def flatten (types : Array NodeType) (root : Nat) : Except (List Name) (List Name) :=
  match types[root]? with
  | none => .ok []
  | some t => Walk.run types ⟨[t.name], [t.name], [t.supers]⟩

/-- The error for a cycle; only texts can be listed in its message. -/
def cycleError (names : List Name) : Error :=
  match names.mapM fun n => n.value.asString? with
  | some texts => .cycle texts
  | none => .fault (.wrongType "sequence item: expected str instance")

theorem cycleError_ofText (names : List String) :
    cycleError (names.map .ofText) = .cycle names := by
  have hmap : (names.map Name.ofText).mapM (fun n => n.value.asString?) = some names := by
    induction names with
    | nil => rfl
    | cons a rest ih =>
      rw [List.map_cons, List.mapM_cons, ih]
      rfl
  rw [cycleError, hmap]

end ContentIndex.Hierarchy
