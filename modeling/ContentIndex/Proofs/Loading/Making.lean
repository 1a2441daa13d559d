import ContentIndex.Proofs.Loading.Graph
import Mathlib.Data.List.Chain
import Mathlib.Data.List.Nodup

/-!
# Making a batch

Types are made depth first. The names being made form a path of declarations, and a type is made
after its supertypes. So either every name can be made, supertypes before subtypes, or there is an
unknown supertype, a cycle, or a path that is too long.
-/

namespace ContentIndex.Loading

set_option autoImplicit false

/-- Where a supertype is found: among the types made, if the batch has the name, and otherwise in
the registry. -/
def resolve (registry : Registry) (graph : Graph) (p : Progress) (name : String) : Option Nat :=
  if (graph.lookup name).isSome then p.find? [.str name] else registry.lookup [.str name]

/-- The type of a name of the batch: it has the supertypes that the name declares. -/
structure IsTypeOf (registry : Registry) (graph : Graph) (p : Progress) (name : String)
    (t : NodeType) : Prop where
  named : t.name = .ofText name
  supers : ∃ names, graph.lookup name = some names ∧
    names.map (resolve registry graph p) = t.supers.map some
  shape : isConfiguration t.configuration = true

/-- Types made of a batch, every one after its supertypes. -/
inductive Built (registry : Registry) (graph : Graph) (types : Array NodeType) :
    Progress → Prop where
  | start : Built registry graph types ⟨types, []⟩
  | add {p : Progress} {name : String} {t : NodeType} :
      Built registry graph types p → p.find? [.str name] = none →
      IsTypeOf registry graph p name t →
      Built registry graph types ⟨p.types.push t, p.made ++ [(.ofText name, p.types.size)]⟩

/-- A step of making types: others may have been made, but none of those being made. -/
structure Made (registry : Registry) (graph : Graph) (types : Array NodeType)
    (active : List String) (p p' : Progress) : Prop where
  built : Built registry graph types p'
  keeps : ∀ key id, p.find? key = some id → p'.find? key = some id
  waits : ∀ name ∈ active, p'.find? [.str name] = none

/-- Names being made, the innermost first: a path of declarations that is not too long. -/
structure Active (graph : Graph) (active : List String) : Prop where
  nodup : active.Nodup
  batch : ∀ name ∈ active, (graph.lookup name).isSome = true
  path : active.IsChain fun super sub => Declares graph sub super
  length : active.length ≤ heightLimit

/-- Why a batch cannot be made. -/
inductive Failure (registry : Registry) (graph : Graph) : Error → Prop where
  | unknown {sub super : String} : Declares graph sub super → graph.lookup super = none →
      registry.has [.str super] = false →
      Failure registry graph (.configuration (.unknownType (.str super)))
  | cycle {name : String} {between : List String} : (name :: between).Nodup →
      (∀ a ∈ name :: between, (graph.lookup a).isSome = true) →
      (name :: between ++ [name]).IsChain (Declares graph) →
      Failure registry graph (.cycle (name :: between ++ [name]))
  | deep {path : List String} : path.length = heightLimit + 1 → path.Nodup →
      (∀ a ∈ path, (graph.lookup a).isSome = true) → path.IsChain (Declares graph) →
      Failure registry graph (.fault .tooDeep)

/-! ## Progress -/

section Progress

variable {registry : Registry} {graph : Graph} {types : Array NodeType} {p p' p'' : Progress}
  {active : List String}

theorem find?_concat (p : Progress) (all : Array NodeType) (name : Name) (id : Nat) (key : Key) :
    (⟨all, p.made ++ [(name, id)]⟩ : Progress).find? key =
      (p.find? key).or (if name.key = key then some id else none) := by
  unfold Progress.find?
  rw [List.find?_append, Option.map_or]
  congr 1
  by_cases h : name.key = key
  · simp [h]
  · simp [h]

theorem find?_append (p : Progress) (all : Array NodeType) (name : String) (id : Nat) (key : Key) :
    (⟨all, p.made ++ [(.ofText name, id)]⟩ : Progress).find? key =
      (p.find? key).or (if ([.str name] : Key) = key then some id else none) :=
  find?_concat p all (.ofText name) id key

theorem find?_added {name : String} {all : Array NodeType} {id : Nat}
    (h : p.find? [.str name] = none) :
    (⟨all, p.made ++ [(.ofText name, id)]⟩ : Progress).find? [.str name] = some id := by
  rw [find?_append, h, if_pos rfl]
  rfl

theorem find?_kept {name : String} {all : Array NodeType} {id other : Nat} {key : Key}
    (h : p.find? key = some other) :
    (⟨all, p.made ++ [(.ofText name, id)]⟩ : Progress).find? key = some other := by
  rw [find?_append, h]
  rfl

theorem Made.refl (h : Built registry graph types p)
    (hw : ∀ name ∈ active, p.find? [.str name] = none) : Made registry graph types active p p :=
  ⟨h, fun _ _ hf => hf, hw⟩

theorem Made.trans {others : List String} (h : Made registry graph types others p p')
    (h' : Made registry graph types active p' p'') : Made registry graph types active p p'' :=
  ⟨h'.built, fun key id hf => h'.keeps key id (h.keeps key id hf), h'.waits⟩

/-- What is looked up among the types made, or somewhere else, stays found. -/
theorem find?_or_keeps (hk : ∀ key id, p.find? key = some id → p'.find? key = some id)
    {c : Prop} [Decidable c] {key : Key} {other : Option Nat} {id : Nat}
    (h : (if c then p.find? key else other) = some id) :
    (if c then p'.find? key else other) = some id := by
  split at h <;> rename_i hc
  · rw [if_pos hc]
    exact hk _ _ h
  · rw [if_neg hc]
    exact h

theorem resolve_keeps (hk : ∀ key id, p.find? key = some id → p'.find? key = some id)
    {name : String} {id : Nat} (h : resolve registry graph p name = some id) :
    resolve registry graph p' name = some id :=
  find?_or_keeps hk h

theorem map_resolve_keeps (hk : ∀ key id, p.find? key = some id → p'.find? key = some id)
    {names : List String} {ids : List Nat}
    (h : names.map (resolve registry graph p) = ids.map some) :
    names.map (resolve registry graph p') = ids.map some := by
  induction names generalizing ids with
  | nil => exact h
  | cons name rest ih =>
    cases ids with
    | nil => cases h
    | cons id others =>
      obtain ⟨hid, hrest⟩ := List.cons_eq_cons.1 h
      rw [List.map_cons, List.map_cons, resolve_keeps hk hid, ih hrest]

theorem resolve_of_mem {name : String} {names : List String} {ids : List Nat}
    (h : names.map (resolve registry graph p) = ids.map some) (hn : name ∈ names) :
    ∃ id, resolve registry graph p name = some id := by
  have hmem : resolve registry graph p name ∈ ids.map some := h ▸ List.mem_map_of_mem hn
  obtain ⟨id, _, hid⟩ := List.mem_map.1 hmem
  exact ⟨id, hid.symm⟩

namespace IsTypeOf

variable {name : String} {t : NodeType}

theorem isSome (h : IsTypeOf registry graph p name t) : (graph.lookup name).isSome = true := by
  obtain ⟨names, hg, _⟩ := h.supers
  rw [hg]
  rfl

theorem keeps (h : IsTypeOf registry graph p name t)
    (hk : ∀ key id, p.find? key = some id → p'.find? key = some id) :
    IsTypeOf registry graph p' name t := by
  obtain ⟨names, hg, hsupers⟩ := h.supers
  exact ⟨h.named, ⟨names, hg, map_resolve_keeps hk hsupers⟩, h.shape⟩

theorem resolve_declared (h : IsTypeOf registry graph p name t) {super : String}
    (hd : Declares graph name super) : ∃ id, resolve registry graph p super = some id := by
  obtain ⟨names, hg, hsupers⟩ := h.supers
  obtain ⟨others, hothers, hsuper⟩ := hd
  rw [hg] at hothers
  cases hothers
  exact resolve_of_mem hsupers hsuper

end IsTypeOf

end Progress

/-! ## What has been built -/

section Built

variable {registry : Registry} {graph : Graph} {types : Array NodeType} {p : Progress}

theorem getElem?_of_isPrefix {all all' : Array NodeType} (h : all.toList <+: all'.toList) {id : Nat}
    (hid : id < all.size) : all'[id]? = all[id]? := by
  obtain ⟨more, hmore⟩ := h
  rw [← Array.getElem?_toList, ← hmore, List.getElem?_append_left hid, Array.getElem?_toList]

/-- The types from before stay where they are. -/
theorem Built.isPrefix (h : Built registry graph types p) : types.toList <+: p.types.toList := by
  induction h with
  | start => exact List.prefix_refl _
  | add _ _ _ ih =>
    rw [Array.toList_push]
    exact ih.trans (List.prefix_append _ _)

theorem Built.size_le (h : Built registry graph types p) : types.size ≤ p.types.size :=
  h.isPrefix.length_le

theorem Built.kept (h : Built registry graph types p) {id : Nat} (hid : id < types.size) :
    p.types[id]? = types[id]? :=
  getElem?_of_isPrefix h.isPrefix hid

/-- What has been made under a key is a new type of a name of the batch. -/
theorem Built.found (h : Built registry graph types p) {key : Key} {id : Nat}
    (hf : p.find? key = some id) :
    ∃ name t, key = [.str name] ∧ types.size ≤ id ∧ p.types[id]? = some t ∧
      IsTypeOf registry graph p name t := by
  induction h with
  | start => cases hf
  | @add p name t hb hnew ht ih =>
    rw [find?_append] at hf
    cases hold : p.find? key with
    | some id' =>
      rw [hold] at hf
      cases hf
      obtain ⟨name', t', hkey, hsize, hstored, ht'⟩ := ih hold
      refine ⟨name', t', hkey, hsize, ?_, ht'.keeps fun _ _ => find?_kept⟩
      have hlt : id < p.types.size := (Array.getElem?_eq_some_iff.1 hstored).1
      rw [Array.getElem?_push, if_neg (Nat.ne_of_lt hlt)]
      exact hstored
    | none =>
      rw [hold] at hf
      by_cases hkey : ([.str name] : Key) = key
      · rw [if_pos hkey] at hf
        cases hf
        refine ⟨name, t, hkey.symm, hb.size_le, ?_, ht.keeps fun _ _ => find?_kept⟩
        rw [Array.getElem?_push, if_pos rfl]
      · rw [if_neg hkey] at hf
        cases hf

theorem Built.isSome (h : Built registry graph types p) {name : String} {id : Nat}
    (hf : p.find? [.str name] = some id) : (graph.lookup name).isSome = true := by
  obtain ⟨_, _, hkey, _, _, ht⟩ := h.found hf
  cases hkey
  exact ht.isSome

end Built

/-! ## The path of names being made -/

section Path

variable {registry : Registry} {graph : Graph} {active : List String} {name : String}

theorem Active.cons (h : Active graph active) (hn : name ∉ active)
    (hb : (graph.lookup name).isSome = true)
    (hd : ∀ sub ∈ active.head?, Declares graph sub name) (hlen : active.length < heightLimit) :
    Active graph (name :: active) where
  nodup := List.nodup_cons.2 ⟨hn, h.nodup⟩
  batch := List.forall_mem_cons.2 ⟨hb, h.batch⟩
  path := List.isChain_cons.2 ⟨hd, h.path⟩
  length := hlen

theorem Active.failure_deep (h : Active graph active) (hn : name ∉ active)
    (hb : (graph.lookup name).isSome = true)
    (hd : ∀ sub ∈ active.head?, Declares graph sub name) (hlen : heightLimit ≤ active.length) :
    Failure registry graph (.fault .tooDeep) := by
  have hmax := h.length
  have hlength : (name :: active).reverse.length = heightLimit + 1 := by
    rw [List.length_reverse, List.length_cons]
    omega
  have hnodup : (name :: active).reverse.Nodup :=
    List.nodup_reverse.2 (List.nodup_cons.2 ⟨hn, h.nodup⟩)
  have hbatch : ∀ a ∈ name :: active, (graph.lookup a).isSome = true :=
    List.forall_mem_cons.2 ⟨hb, h.batch⟩
  have hpath : (name :: active).reverse.IsChain (Declares graph) :=
    List.isChain_reverse.2 (List.isChain_cons.2 ⟨hd, h.path⟩)
  exact .deep hlength hnodup (fun a ha => hbatch a (List.mem_reverse.1 ha)) hpath

theorem key_ofText_beq (a b : String) :
    ((Name.ofText a).key == (Name.ofText b).key) = (a == b) := by
  by_cases h : a = b
  · subst h
    simp
  · simp [Name.ofText, h]

/-- The cycle that a declared name closes when it is being made already: from that name inwards, and
back to it. -/
theorem cycleAt_ofText {before after : List String} (hn : name ∉ before) :
    Hierarchy.cycleAt ((before ++ name :: after).map .ofText) (.ofText name) =
      (name :: before.reverse ++ [name]).map .ofText := by
  have hne : ∀ a ∈ before, (a == name) = false := by
    intro a ha
    rw [beq_eq_false_iff_ne]
    rintro rfl
    exact hn ha
  have hfind : ((before ++ name :: after).map Name.ofText).find?
      (fun n => n.key == (Name.ofText name).key) = some (.ofText name) := by
    have hsame : (fun n => n.key == (Name.ofText name).key) ∘ Name.ofText = (· == name) :=
      funext fun a => key_ofText_beq a name
    have hnone : before.find? (· == name) = none :=
      List.find?_eq_none.2 fun a ha => by simp [hne a ha]
    rw [List.find?_map, hsame, List.find?_append, hnone]
    simp
  have htake : ((before ++ name :: after).map Name.ofText).takeWhile
      (fun n => n.key != (Name.ofText name).key) = before.map .ofText := by
    have hsame : (fun n => n.key != (Name.ofText name).key) ∘ Name.ofText = (· != name) :=
      funext fun a => congrArg not (key_ofText_beq a name)
    have hall : ∀ a ∈ before, (a != name) = true := fun a ha => congrArg not (hne a ha)
    rw [List.takeWhile_map, hsame, List.takeWhile_append_of_pos hall]
    simp
  rw [Hierarchy.cycleAt, hfind, htake, Option.getD_some]
  simp only [List.map_append, List.map_cons, List.map_reverse, List.map_nil, List.cons_append]

theorem Active.failure_cycle (h : Active graph active) (hn : name ∈ active)
    (hd : ∀ sub ∈ active.head?, Declares graph sub name) :
    Failure registry graph (Hierarchy.cycleError
      (Hierarchy.cycleAt (active.map .ofText) (.ofText name))) := by
  obtain ⟨before, after, rfl, hbefore⟩ := List.eq_append_cons_of_mem hn
  rw [cycleAt_ofText hbefore, Hierarchy.cycleError_ofText]
  have hsplit : before ++ name :: after = (before ++ [name]) ++ after := by simp
  have hreverse : name :: before.reverse = (before ++ [name]).reverse := by simp
  have hnodup : (before ++ [name]).Nodup := by
    have hall := h.nodup
    rw [hsplit] at hall
    exact hall.of_append_left
  have hbatch : ∀ a ∈ before ++ [name], (graph.lookup a).isSome = true := by
    intro a ha
    apply h.batch
    rw [hsplit]
    exact List.mem_append_left _ ha
  have hpath : (name :: (before ++ [name])).IsChain fun super sub => Declares graph sub super := by
    have hall := h.path
    rw [hsplit] at hall
    refine List.isChain_cons.2 ⟨?_, hall.left_of_append⟩
    intro sub hsub
    apply hd
    cases before with
    | nil => exact hsub
    | cons a rest => exact hsub
  refine .cycle ?_ ?_ ?_
  · rw [hreverse]
    exact List.nodup_reverse.2 hnodup
  · rw [hreverse]
    exact fun a ha => hbatch a (List.mem_reverse.1 ha)
  · have hturned : name :: before.reverse ++ [name] = (name :: (before ++ [name])).reverse := by
      simp
    rw [hturned]
    exact List.isChain_reverse.2 hpath

end Path

/-! ## Making -/

section Making

variable {registry : Registry} {batch : Batch} {graph : Graph} {types : Array NodeType}
  {active : List String} {p : Progress} {name : String}

/-- The equation of making, for a name that may be a key. -/
theorem make_eq (registry : Registry) (batch : Batch) (active : List Name) (p : Progress)
    {v : Value} {key : Key} (h : v.key? = some key) : make registry batch active p v =
      match p.find? key with
      | some id => .ok (p, id)
      | none =>
        match batch.lookup key with
        | none => (registry.get v).map fun id => (p, id)
        | some definition =>
          if key ∈ Name.keys active then
            .error (Hierarchy.cycleError (Hierarchy.cycleAt active ⟨v, key⟩))
          else if heightLimit ≤ active.length then .error (.fault .tooDeep)
          else
            match superNames definition.entries with
            | .error f => .error (.fault f)
            | .ok names =>
              match makeAll registry batch (⟨v, key⟩ :: active) p names with
              | .error e => .error e
              | .ok (p, supers) => p.add ⟨v, key⟩ definition.entries supers := by
  rw [make]
  simp only [Name.ofValue?, h, Option.map_some]
  cases p.find? key with
  | some id => rfl
  | none =>
    dsimp only
    split <;> rename_i h <;> rw [h]
    dsimp only
    split
    · rfl
    · rfl

/-- The equation of making for a name that is a text. -/
theorem make_str (registry : Registry) (batch : Batch) (active : List Name) (p : Progress)
    (name : String) : make registry batch active p (.str name) =
      match p.find? [.str name] with
      | some id => .ok (p, id)
      | none =>
        match batch.lookup [.str name] with
        | none => (registry.get (.str name)).map fun id => (p, id)
        | some definition =>
          if [.str name] ∈ Name.keys active then
            .error (Hierarchy.cycleError (Hierarchy.cycleAt active (.ofText name)))
          else if heightLimit ≤ active.length then .error (.fault .tooDeep)
          else
            match superNames definition.entries with
            | .error f => .error (.fault f)
            | .ok names =>
              match makeAll registry batch (.ofText name :: active) p names with
              | .error e => .error e
              | .ok (p, supers) => p.add (.ofText name) definition.entries supers :=
  make_eq registry batch active p rfl

/-- Registered types are there and have configurations of the declared shape. -/
def Registered (registry : Registry) (types : Array NodeType) : Prop :=
  ∀ key id, registry.lookup key = some id →
    ∃ t, types[id]? = some t ∧ isConfiguration t.configuration = true

/-- Making the type of a name ends with it, or with a failure of the batch. -/
def Ends (registry : Registry) (batch : Batch) (graph : Graph) (types : Array NodeType)
    (active : List String) (p : Progress) (name : String) : Prop :=
  (∃ p' id, make registry batch (active.map .ofText) p (.str name) = .ok (p', id) ∧
    Made registry graph types active p p' ∧ resolve registry graph p' name = some id) ∨
  ∃ e, make registry batch (active.map .ofText) p (.str name) = .error e ∧
    Failure registry graph e

/-- Making ends so for every name that the innermost name declares, and at the start for every name
of the batch. -/
def Makes (registry : Registry) (batch : Batch) (graph : Graph) (types : Array NodeType)
    (active : List String) : Prop :=
  ∀ p name, Built registry graph types p → (∀ a ∈ active, p.find? [.str a] = none) →
    (∀ sub ∈ active.head?, Declares graph sub name) →
    (active = [] → (graph.lookup name).isSome = true) →
    Ends registry batch graph types active p name

theorem makeAll_outcome (hmakes : Makes registry batch graph types active) {names : List String}
    (hb : Built registry graph types p) (hw : ∀ a ∈ active, p.find? [.str a] = none)
    (hd : ∀ name ∈ names, ∀ sub ∈ active.head?, Declares graph sub name)
    (hroot : active = [] → ∀ name ∈ names, (graph.lookup name).isSome = true) :
    (∃ p' ids, makeAll registry batch (active.map .ofText) p (names.map .str) = .ok (p', ids) ∧
      Made registry graph types active p p' ∧
      names.map (resolve registry graph p') = ids.map some) ∨
    ∃ e, makeAll registry batch (active.map .ofText) p (names.map .str) = .error e ∧
      Failure registry graph e := by
  induction names generalizing p with
  | nil =>
    refine .inl ⟨p, [], ?_, .refl hb hw, rfl⟩
    rw [List.map_nil, makeAll]
  | cons name rest ih =>
    rw [List.map_cons, makeAll]
    rcases hmakes p name hb hw (hd name List.mem_cons_self)
      (fun ha => hroot ha name List.mem_cons_self) with
      ⟨p₁, id, hmake, hmade, hid⟩ | ⟨e, hmake, he⟩
    · rw [hmake]
      rcases ih hmade.built hmade.waits (fun n hn => hd n (List.mem_cons_of_mem _ hn))
        (fun ha n hn => hroot ha n (List.mem_cons_of_mem _ hn)) with
        ⟨p₂, ids, hall, hmade', hids⟩ | ⟨e, hall, he⟩
      · refine .inl ⟨p₂, id :: ids, ?_, hmade.trans hmade', ?_⟩
        · simp only [hall]
        · rw [List.map_cons, List.map_cons, resolve_keeps hmade'.keeps hid, hids]
      · refine .inr ⟨e, ?_, he⟩
        simp only [hall]
    · refine .inr ⟨e, ?_, he⟩
      rw [hmake]

end Making

/-! ## The outcome of making -/

section Outcome

variable {registry : Registry} {batch : Batch} {graph : Graph} {types : Array NodeType}
  {active : List String} {p : Progress} {name : String}

/-- A supertype that has been found has a configuration of the declared shape. -/
theorem Built.shape (hb : Built registry graph types p) (hr : Registered registry types) {id : Nat}
    (h : resolve registry graph p name = some id) :
    isConfiguration (configurationOf p.types id) = true := by
  unfold resolve at h
  split at h
  · obtain ⟨_, t, _, _, hstored, ht⟩ := hb.found h
    rw [configurationOf, hstored]
    exact ht.shape
  · obtain ⟨t, ht, hshape⟩ := hr _ _ h
    have hid : id < types.size := (Array.getElem?_eq_some_iff.1 ht).1
    rw [configurationOf, hb.kept hid, ht]
    exact hshape

/-- A type whose supertypes have been found is added under its name. -/
theorem add_outcome (hr : Registered registry types) {names : List String} {ids : List Nat}
    {definition : Entries} (hg : graph.lookup name = some names)
    (hshape : isConfiguration definition = true) (hb : Built registry graph types p)
    (hw : ∀ a ∈ name :: active, p.find? [.str a] = none) (hn : name ∉ active)
    (hids : names.map (resolve registry graph p) = ids.map some) :
    ∃ p' id, p.add (.ofText name) definition ids = .ok (p', id) ∧
      Made registry graph types active p p' ∧ resolve registry graph p' name = some id := by
  have hnew : p.find? [.str name] = none := hw name List.mem_cons_self
  have hsupers : ∀ id ∈ ids, isConfiguration (configurationOf p.types id) = true := by
    intro id hid
    have hmem : some id ∈ names.map (resolve registry graph p) :=
      hids ▸ List.mem_map_of_mem hid
    obtain ⟨super, _, hsuper⟩ := List.mem_map.1 hmem
    exact hb.shape hr hsuper
  have hconfiguration := isConfiguration_configuration hsupers hshape
  obtain ⟨rules, hmake⟩ := NodeType.make_eq hconfiguration (.ofText name) ids
  refine ⟨_, _, by rw [Progress.add, hmake], ⟨?_, ?_, ?_⟩, ?_⟩
  · exact hb.add hnew ⟨rfl, ⟨names, hg, hids⟩, hconfiguration⟩
  · exact fun _ _ => find?_kept
  · intro a ha
    have hne : ([.str name] : Key) ≠ [.str a] := by
      rintro heq
      cases heq
      exact hn ha
    rw [find?_append, hw a (List.mem_cons_of_mem _ ha), if_neg hne]
    rfl
  · rw [resolve, if_pos (by rw [hg]; rfl), find?_added hnew]

/-- A name that is not of the batch stands for a registered type, or is unknown. -/
theorem make_registered (hb : Built registry graph types p)
    (hw : ∀ a ∈ active, p.find? [.str a] = none)
    (hd : ∀ sub ∈ active.head?, Declares graph sub name)
    (hroot : active = [] → (graph.lookup name).isSome = true)
    (hp : p.find? [.str name] = none) (hlookup : batch.lookup [.str name] = none)
    (hg : graph.lookup name = none) : Ends registry batch graph types active p name := by
  rw [Ends, make_str, hp, hlookup]
  dsimp only [Registry.get, Value.key?]
  cases hfound : registry.lookup [.str name] with
  | some id =>
    refine .inl ⟨p, id, rfl, .refl hb hw, ?_⟩
    rw [resolve, if_neg (by rw [hg]; nofun), hfound]
  | none =>
    cases active with
    | nil => exact absurd (hroot rfl) (by rw [hg]; nofun)
    | cons sub rest =>
      refine .inr ⟨_, rfl, .unknown (hd sub rfl) hg ?_⟩
      rw [Registry.has, hfound]
      rfl

/-- A name of the batch is made after its supertypes, which are made on the path that ends with
it. -/
theorem make_defined (hr : Registered registry types) (ha : Active graph active)
    (hb : Built registry graph types p) (hw : ∀ a ∈ active, p.find? [.str a] = none)
    (hd : ∀ sub ∈ active.head?, Declares graph sub name) (hp : p.find? [.str name] = none)
    {d : Definition} {names : List String} (hlookup : batch.lookup [.str name] = some d)
    (hg : graph.lookup name = some names) (hsupers : superNames d.entries = .ok (names.map .str))
    (hshape : isConfiguration d.entries = true)
    (hmakes : Active graph (name :: active) → Makes registry batch graph types (name :: active)) :
    Ends registry batch graph types active p name := by
  have hin : (graph.lookup name).isSome = true := by rw [hg]; rfl
  rw [Ends, make_str, hp, hlookup]
  dsimp only
  by_cases hmem : name ∈ active
  · rw [if_pos (by simpa [Name.keys, Name.ofText] using hmem)]
    exact .inr ⟨_, rfl, ha.failure_cycle hmem hd⟩
  rw [if_neg (by simpa [Name.keys, Name.ofText] using hmem), List.length_map]
  by_cases hlen : heightLimit ≤ active.length
  · rw [if_pos hlen]
    exact .inr ⟨_, rfl, ha.failure_deep hmem hin hd hlen⟩
  rw [if_neg hlen, hsupers]
  dsimp only
  -- the supertypes meet the name as one that is being made
  have hwaits : ∀ a ∈ name :: active, p.find? [.str a] = none := List.forall_mem_cons.2 ⟨hp, hw⟩
  have hdeclares : ∀ super ∈ names, ∀ sub ∈ (name :: active).head?, Declares graph sub super := by
    rintro super hsuper sub hsub
    cases hsub
    exact ⟨names, hg, hsuper⟩
  have hactive : Active graph (name :: active) := ha.cons hmem hin hd (by omega)
  have hinner : name :: active = [] → ∀ super ∈ names, (graph.lookup super).isSome = true :=
    fun h => absurd h (List.cons_ne_nil name active)
  rcases makeAll_outcome (hmakes hactive) hb hwaits hdeclares hinner with
    ⟨p₁, ids, hall, hmade, hids⟩ | ⟨e, hall, he⟩
  · rw [List.map_cons] at hall
    rw [hall]
    obtain ⟨p₂, id, hadd, hadded, hid⟩ :=
      add_outcome hr hg hshape hmade.built hmade.waits hmem hids
    exact .inl ⟨p₂, id, hadd, hmade.trans hadded, hid⟩
  · rw [List.map_cons] at hall
    rw [hall]
    exact .inr ⟨e, rfl, he⟩

/-- Every declared name is made, unless a failure of the batch is met. The recursion is on the room
that is left above the names being made. -/
theorem make_outcome (hreads : List.Forall₂ ReadsAs batch graph) (hr : Registered registry types)
    {active : List String} (ha : Active graph active) :
    Makes registry batch graph types active := by
  intro p name hb hw hd hroot
  cases hp : p.find? [.str name] with
  | some id =>
    rw [Ends, make_str, hp]
    refine .inl ⟨p, id, rfl, .refl hb hw, ?_⟩
    rw [resolve, if_pos (hb.isSome hp), hp]
  | none =>
    obtain ⟨hlookup, hg⟩ | ⟨d, names, hlookup, hg, hsupers, hshape⟩ := lookup_batch hreads name
    · exact make_registered hb hw hd hroot hp hlookup hg
    · have hmakes : Active graph (name :: active) →
          Makes registry batch graph types (name :: active) := fun hactive =>
        have hroom := hactive.length
        make_outcome hreads hr hactive
      exact make_defined hr ha hb hw hd hp hlookup hg hsupers hshape hmakes
termination_by heightLimit - active.length
decreasing_by
  rw [List.length_cons] at hroom ⊢
  omega

end Outcome

end ContentIndex.Loading
