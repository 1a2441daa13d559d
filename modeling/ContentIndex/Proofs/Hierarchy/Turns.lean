import ContentIndex.Proofs.Hierarchy.Preorder

/-!
# The turns of a walk

A walk goes on turn by turn: it looks at the innermost type on its stack and takes the next of the
supertypes that this one has left, or leaves the type if there is none. Every turn uses up a
supertype or a type, and a type is entered only under a new name; so the walk ends on every graph
of types after no more turns than there are types and declared supertypes, and one that ends it.
-/

namespace ContentIndex.Hierarchy

set_option autoImplicit false

abbrev Outcome := Except (List Name) (List Name)

/-- What one turn leads to: another walk to go on with, or the outcome. -/
def Walk.turn (types : Array NodeType) (w : Walk) : Walk ⊕ Outcome :=
  match w with
  | ⟨names, _, []⟩ => .inr (.ok names)
  | ⟨names, ancestry, [] :: rest⟩ => .inl ⟨names, ancestry.drop 1, rest⟩
  | ⟨names, ancestry, (id :: supers) :: rest⟩ =>
    match types[id]? with
    | none => .inl ⟨names, ancestry, supers :: rest⟩
    | some t =>
      if (Name.keys ancestry).contains t.name.key then .inr (.error (cycleAt ancestry t.name))
      else if (Name.keys names).contains t.name.key then .inl ⟨names, ancestry, supers :: rest⟩
      else .inl ⟨names ++ [t.name], t.name :: ancestry, t.supers :: supers :: rest⟩

/-- The turns that there are, each with the condition that it is taken under. -/
inductive Turn (types : Array NodeType) : Walk → Walk ⊕ Outcome → Prop where
  | finish {names ancestry} : Turn types ⟨names, ancestry, []⟩ (.inr (.ok names))
  | leave {names ancestry rest} :
      Turn types ⟨names, ancestry, [] :: rest⟩ (.inl ⟨names, ancestry.drop 1, rest⟩)
  | absent {names ancestry id supers rest} : types[id]? = none →
      Turn types ⟨names, ancestry, (id :: supers) :: rest⟩ (.inl ⟨names, ancestry, supers :: rest⟩)
  | back {names ancestry id supers rest t} : types[id]? = some t →
      t.name.key ∈ Name.keys ancestry →
      Turn types ⟨names, ancestry, (id :: supers) :: rest⟩
        (.inr (.error (cycleAt ancestry t.name)))
  | pass {names ancestry id supers rest t} : types[id]? = some t →
      t.name.key ∉ Name.keys ancestry → t.name.key ∈ Name.keys names →
      Turn types ⟨names, ancestry, (id :: supers) :: rest⟩ (.inl ⟨names, ancestry, supers :: rest⟩)
  | enter {names ancestry id supers rest t} : types[id]? = some t →
      t.name.key ∉ Name.keys ancestry → t.name.key ∉ Name.keys names →
      Turn types ⟨names, ancestry, (id :: supers) :: rest⟩
        (.inl ⟨names ++ [t.name], t.name :: ancestry, t.supers :: supers :: rest⟩)

/-- The outcome of a walk, if it comes within the given number of turns. -/
def Walk.within (types : Array NodeType) : Nat → Walk → Option Outcome
  | 0, _ => none
  | n + 1, w =>
    match w.turn types with
    | .inl w' => Walk.within types n w'
    | .inr outcome => some outcome

/-- The walk that flattening a type starts with. -/
def Walk.start (t : NodeType) : Walk :=
  ⟨[t.name], [t.name], [t.supers]⟩

/-- Types with a name that has not been met, each with all its supertypes. -/
def unmetSize (types : Array NodeType) (names : List Name) : Nat :=
  pendingSize ((types.toList.filter fun t => !(Name.keys names).contains t.name.key).map (·.supers))

/-- All types, each with all its supertypes. -/
def graphSize (types : Array NodeType) : Nat :=
  pendingSize (types.toList.map (·.supers))

/-- Turns that a walk may still take before the one that ends it. -/
def Walk.budget (types : Array NodeType) (w : Walk) : Nat :=
  unmetSize types w.names + pendingSize w.pending

variable {types : Array NodeType} {root : Nat} {t : NodeType} {names : List Name} {w w' : Walk}

theorem flatten_eq_run (ht : types[root]? = some t) :
    flatten types root = (Walk.start t).run types := by
  unfold flatten
  rw [ht]
  rfl

theorem turn_taken (types : Array NodeType) (w : Walk) : Turn types w (w.turn types) := by
  obtain ⟨names, ancestry, pending⟩ := w
  match pending with
  | [] => exact .finish
  | [] :: rest => exact .leave
  | (id :: supers) :: rest =>
    cases ht : types[id]? with
    | none =>
      have hturn : Walk.turn types ⟨names, ancestry, (id :: supers) :: rest⟩ =
          .inl ⟨names, ancestry, supers :: rest⟩ := by
        simp only [Walk.turn, ht]
      rw [hturn]
      exact .absent ht
    | some t =>
      have hturn : Walk.turn types ⟨names, ancestry, (id :: supers) :: rest⟩ =
          if t.name.key ∈ Name.keys ancestry then .inr (.error (cycleAt ancestry t.name))
          else if t.name.key ∈ Name.keys names then .inl ⟨names, ancestry, supers :: rest⟩
          else .inl ⟨names ++ [t.name], t.name :: ancestry, t.supers :: supers :: rest⟩ := by
        simp only [Walk.turn, ht, List.contains_iff_mem]
      rw [hturn]
      split_ifs with hout hmet
      · exact .back ht hout
      · exact .pass ht hout hmet
      · exact .enter ht hout hmet

/-- A walk goes on as its turn says. -/
theorem run_of_turn {next : Walk ⊕ Outcome} (h : Turn types w next) :
    w.run types = next.elim (·.run types) id := by
  have hsuper : ∀ {names ancestry id supers rest} {t : NodeType}, types[id]? = some t →
      Walk.run types ⟨names, ancestry, (id :: supers) :: rest⟩ =
        if t.name.key ∈ Name.keys ancestry then .error (cycleAt ancestry t.name)
        else if t.name.key ∈ Name.keys names then Walk.run types ⟨names, ancestry, supers :: rest⟩
        else Walk.run types
          ⟨names ++ [t.name], t.name :: ancestry, t.supers :: supers :: rest⟩ := by
    intro names ancestry id supers rest t ht
    rw [Walk.run]
    split
    · rename_i hnone
      cases ht.symm.trans hnone
    · rename_i t' ht'
      cases ht.symm.trans ht'
      rfl
  cases h with
  | finish => rw [Walk.run]; rfl
  | leave => rw [Walk.run]; rfl
  | absent hid =>
    rw [Walk.run]
    split
    · rfl
    · rename_i t ht
      cases hid.symm.trans ht
  | back ht hout => rw [hsuper ht, if_pos hout]; rfl
  | pass ht hout hmet => rw [hsuper ht, if_neg hout, if_pos hmet]; rfl
  | enter ht hout hmet => rw [hsuper ht, if_neg hout, if_neg hmet]; rfl

/-! ## The number of turns -/

@[simp]
theorem pendingSize_nil : pendingSize [] = 0 :=
  rfl

@[simp]
theorem pendingSize_cons (supers : List Nat) (rest : List (List Nat)) :
    pendingSize (supers :: rest) = supers.length + 1 + pendingSize rest :=
  rfl

theorem pendingSize_append (before after : List (List Nat)) :
    pendingSize (before ++ after) = pendingSize before + pendingSize after := by
  induction before with
  | nil => exact (Nat.zero_add _).symm
  | cons supers rest ih =>
    rw [List.cons_append, pendingSize_cons, pendingSize_cons, ih]
    exact (Nat.add_assoc _ _ _).symm

theorem pendingSize_filter_le {p q : NodeType → Bool} (himp : ∀ t, q t = true → p t = true)
    (l : List NodeType) :
    pendingSize ((l.filter q).map (·.supers)) ≤ pendingSize ((l.filter p).map (·.supers)) := by
  induction l with
  | nil => exact Nat.le_refl _
  | cons t rest ih =>
    by_cases hq : q t = true
    · rw [List.filter_cons_of_pos hq, List.filter_cons_of_pos (himp t hq)]
      exact Nat.add_le_add_left ih _
    · rw [List.filter_cons_of_neg hq, List.filter_cons]
      split
      · exact ih.trans (Nat.le_add_left _ _)
      · exact ih

/-- A type that no longer counts takes its share away. -/
theorem pendingSize_filter_lt {p q : NodeType → Bool} {l : List NodeType} (ht : t ∈ l)
    (hp : p t = true) (hq : q t = false) (himp : ∀ s, q s = true → p s = true) :
    pendingSize ((l.filter q).map (·.supers)) + (t.supers.length + 1) ≤
      pendingSize ((l.filter p).map (·.supers)) := by
  obtain ⟨before, after, rfl⟩ := List.append_of_mem ht
  have hbefore := pendingSize_filter_le himp before
  have hafter := pendingSize_filter_le himp after
  simp only [List.filter_append, List.filter_cons, hp, hq, List.map_append, pendingSize_append,
    if_true, List.map_cons, pendingSize_cons, Bool.false_eq_true, if_false]
  omega

theorem unmetSize_append (ht : t ∈ types.toList) (hnew : t.name.key ∉ Name.keys names) :
    unmetSize types (names ++ [t.name]) + (t.supers.length + 1) ≤ unmetSize types names := by
  refine pendingSize_filter_lt ht ?_ ?_ ?_
  · simpa using hnew
  · simp [Name.keys]
  · intro s hs
    simp only [Name.keys, List.map_append, List.contains_eq_mem, List.mem_append,
      Bool.not_eq_true', decide_eq_false_iff_not, not_or] at hs ⊢
    exact hs.1

/-- A turn that does not end the walk uses up some of its budget. -/
theorem budget_lt_of_turn (h : Turn types w (.inl w')) : w'.budget types < w.budget types := by
  unfold Walk.budget
  cases h with
  | leave => simp
  | absent => simp
  | pass => simp
  | enter ht _ hmet =>
    have hentered := unmetSize_append (Array.mem_toList_iff.2 (Array.mem_of_getElem? ht)) hmet
    simp only [pendingSize_cons, List.length_cons]
    omega

/-- A walk ends within its budget and one turn more. -/
theorem within_budget {n : Nat} (h : w.budget types < n) :
    Walk.within types n w = some (w.run types) := by
  induction n generalizing w with
  | zero => exact absurd h (Nat.not_lt_zero _)
  | succ n ih =>
    have hturn := turn_taken types w
    rw [Walk.within, run_of_turn hturn]
    cases hnext : w.turn types with
    | inl w' =>
      rw [hnext] at hturn
      have hless := budget_lt_of_turn hturn
      exact ih (by omega)
    | inr outcome => rfl

theorem budget_start_le (ht : types[root]? = some t) :
    (Walk.start t).budget types ≤ graphSize types := by
  have hmem : t ∈ types.toList := Array.mem_toList_iff.2 (Array.mem_of_getElem? ht)
  have hroot : unmetSize types ([] ++ [t.name]) + (t.supers.length + 1) ≤ unmetSize types [] :=
    unmetSize_append hmem List.not_mem_nil
  have hall : unmetSize types [] = graphSize types := by
    have hkept : (types.toList.filter fun t => !(Name.keys []).contains t.name.key) =
        types.toList := List.filter_eq_self.2 fun _ _ => rfl
    rw [unmetSize, hkept, graphSize]
  rw [List.nil_append] at hroot
  simp only [Walk.budget, Walk.start, pendingSize_cons, pendingSize_nil]
  omega

/-- Flattening ends, whatever the graph of types looks like. -/
theorem within_graphSize (ht : types[root]? = some t) :
    Walk.within types (graphSize types + 1) (Walk.start t) = some (flatten types root) := by
  rw [flatten_eq_run ht]
  exact within_budget (Nat.lt_succ_of_le (budget_start_le ht))

end ContentIndex.Hierarchy
