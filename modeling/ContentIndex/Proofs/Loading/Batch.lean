import ContentIndex.Proofs.Loading.Making
import Mathlib.Data.List.Perm.Subperm
import Std.Data.String.ToNat

/-!
# Loading a batch

A batch is loaded as a whole or not at all. That it could be made says that it is closed under
supertypes and has no cycle, since a type is made after its supertypes; and a batch that is closed,
free of cycles and not too high can be made.
-/

namespace ContentIndex.Loading

set_option autoImplicit false

/-- No path of declarations is too long to be followed. -/
def Shallow (graph : Graph) : Prop :=
  ∀ path : List String, path.Nodup → (∀ a ∈ path, (graph.lookup a).isSome = true) →
    path.IsChain (Declares graph) → path.length ≤ heightLimit

/-- A registry in which a batch has been registered: its names stand for the new types, which have
the supertypes that they declare, and all other names stand for what they stood for. -/
structure Loaded (registry : Registry) (graph : Graph) (st : Store) (registry' : Registry)
    (made : List Nat) (st' : Store) : Prop where
  replaced : ∀ name names, graph.lookup name = some names → ∃ id t,
    registry'.lookup [.str name] = some id ∧ st.types.size ≤ id ∧ st'.types[id]? = some t ∧
    t.name = .ofText name ∧
    names.map (fun super => registry'.lookup [.str super]) = t.supers.map some
  kept : ∀ key, (∀ name, key = [.str name] → graph.lookup name = none) →
    registry'.lookup key = registry.lookup key
  types : ∀ id < st.types.size, st'.types[id]? = st.types[id]?
  made : ∀ id, id ∈ made ↔
    ∃ name, (graph.lookup name).isSome = true ∧ registry'.lookup [.str name] = some id
  registered : Registered registry' st'.types

/-! ## The order of making -/

section Order

variable {registry : Registry} {graph : Graph} {types : Array NodeType} {p : Progress}
  {name sub super : String} {id i : Nat} {key : Key}

theorem Built.find?_lt (hb : Built registry graph types p) (h : p.find? key = some id) :
    id < p.types.size := by
  obtain ⟨_, t, _, _, hstored, _⟩ := hb.found h
  exact (Array.getElem?_eq_some_iff.1 hstored).1

/-- The supertypes of a type that has been made were made before it. -/
theorem Built.declares_lt (hb : Built registry graph types p) (h : p.find? [.str sub] = some i)
    (hd : Declares graph sub super) (hin : (graph.lookup super).isSome = true) :
    ∃ j < i, p.find? [.str super] = some j := by
  induction hb with
  | start => cases h
  | @add p name t hb hnew ht ih =>
    rw [find?_append] at h
    cases hold : p.find? [.str sub] with
    | some i' =>
      rw [hold] at h
      cases h
      obtain ⟨j, hlt, hj⟩ := ih hold
      exact ⟨j, hlt, find?_kept hj⟩
    | none =>
      rw [hold] at h
      split at h
      · rename_i heq
        cases heq
        cases h
        obtain ⟨j, hj⟩ := ht.resolve_declared hd
        rw [resolve, if_pos hin] at hj
        exact ⟨j, hb.find?_lt hj, find?_kept hj⟩
      · cases h

/-- All names of a batch have been made. -/
structure Complete (registry : Registry) (graph : Graph) (types : Array NodeType)
    (p : Progress) : Prop where
  built : Built registry graph types p
  all : ∀ name, (graph.lookup name).isSome = true → ∃ id, p.find? [.str name] = some id

theorem Complete.known (hc : Complete registry graph types p) : Known registry graph := by
  intro sub super hd
  obtain ⟨id, hid⟩ := hc.all sub hd.isSome
  obtain ⟨_, t, hkey, _, _, ht⟩ := hc.built.found hid
  cases hkey
  obtain ⟨j, hj⟩ := ht.resolve_declared hd
  unfold resolve at hj
  split at hj
  · exact .inl ‹_›
  · refine .inr ?_
    rw [Registry.has, hj]
    rfl

theorem Complete.transGen_lt (hc : Complete registry graph types p)
    (h : Relation.TransGen (Declares graph) sub super) (hin : (graph.lookup super).isSome = true) :
    ∃ i j, p.find? [.str sub] = some i ∧ p.find? [.str super] = some j ∧ j < i := by
  induction h with
  | single hd =>
    obtain ⟨i, hi⟩ := hc.all sub hd.isSome
    obtain ⟨j, hlt, hj⟩ := hc.built.declares_lt hi hd hin
    exact ⟨i, j, hi, hj, hlt⟩
  | tail _ hd ih =>
    obtain ⟨i, j, hi, hj, hlt⟩ := ih hd.isSome
    obtain ⟨k, hlt', hk⟩ := hc.built.declares_lt hj hd hin
    exact ⟨i, k, hi, hk, hlt'.trans hlt⟩

/-- The ids of a cycle would go down for ever. -/
theorem Complete.isAcyclic (hc : Complete registry graph types p) : IsAcyclic graph := by
  intro name h
  obtain ⟨_, hd, _⟩ := Relation.TransGen.head'_iff.1 h
  obtain ⟨i, j, hi, hj, hlt⟩ := hc.transGen_lt h hd.isSome
  rw [hi] at hj
  cases hj
  exact absurd hlt (Nat.lt_irrefl i)

end Order

/-! ## Registering what has been made -/

section Register

variable {registry : Registry} {graph : Graph} {types : Array NodeType} {p : Progress}

theorem lookup_registerAll_concat (registry : Registry) (made : List (Name × Nat)) (name : Name)
    (id : Nat) (key : Key) : (registry.registerAll (made ++ [(name, id)])).lookup key =
      if name.key = key then some id else (registry.registerAll made).lookup key := by
  have hlast : registry.registerAll (made ++ [(name, id)]) =
      (registry.registerAll made).register name.key id := List.foldl_append
  rw [hlast]
  split
  · rename_i hkey
    rw [← hkey, Registry.lookup_register_self]
  · rename_i hkey
    rw [Registry.lookup_register_of_ne _ _ (Ne.symm hkey)]

theorem Built.lookup_registerAll (hb : Built registry graph types p) (key : Key) :
    (registry.registerAll p.made).lookup key = (p.find? key).or (registry.lookup key) := by
  induction hb with
  | start => rfl
  | @add p name t hb hnew ht ih =>
    have hname : (Name.ofText name).key = [.str name] := rfl
    rw [lookup_registerAll_concat, find?_append, ih, hname]
    by_cases hkey : ([.str name] : Key) = key
    · rw [if_pos hkey, if_pos hkey, ← hkey, hnew]
      rfl
    · rw [if_neg hkey, if_neg hkey, Option.or_none]

theorem Built.mem_made (hb : Built registry graph types p) (id : Nat) :
    id ∈ p.made.map (·.2) ↔ ∃ name, p.find? [.str name] = some id := by
  induction hb with
  | start => simp [Progress.find?]
  | @add p name t hb hnew ht ih =>
    rw [List.map_append, List.mem_append, ih]
    constructor
    · rintro (⟨other, hother⟩ | hlast)
      · exact ⟨other, find?_kept hother⟩
      · cases List.mem_singleton.1 hlast
        exact ⟨name, find?_added hnew⟩
    · rintro ⟨other, hother⟩
      rw [find?_append, Option.or_eq_some_iff] at hother
      rcases hother with hold | ⟨_, hlast⟩
      · exact .inl ⟨other, hold⟩
      · split at hlast
        · cases hlast
          exact .inr List.mem_cons_self
        · cases hlast

/-- Names stand in the new registry for what the supertypes of the batch were found to be. -/
theorem Complete.lookup_registerAll (hc : Complete registry graph types p) (name : String) :
    (registry.registerAll p.made).lookup [.str name] = resolve registry graph p name := by
  rw [hc.built.lookup_registerAll, resolve]
  split
  · rename_i hin
    obtain ⟨id, hid⟩ := hc.all name hin
    rw [hid]
    rfl
  · rename_i hout
    cases hf : p.find? [.str name] with
    | none => rfl
    | some id => exact absurd (hc.built.isSome hf) hout

end Register

/-! ## The new types in the store -/

section Types

variable {st : Store} {t : NodeType} {id : Nat}

/-- A type as it stands in a store, where it has marks of its own. -/
structure StoredAs (t t' : NodeType) : Prop where
  name : t'.name = t.name
  supers : t'.supers = t.supers
  properties : t'.properties = t.properties
  configuration : ∃ next, t'.configuration = (Value.withMarksEntries t.configuration [] next).1

theorem StoredAs.shape {t' : NodeType} (h : StoredAs t t')
    (hshape : isConfiguration t.configuration = true) : isConfiguration t'.configuration = true := by
  obtain ⟨next, hnext⟩ := h.configuration
  rw [hnext]
  exact isConfiguration_withMarks hshape next

theorem withTypes_kept {ts : List NodeType} (h : id < st.types.size) :
    (withTypes st ts).types[id]? = st.types[id]? := by
  induction ts generalizing st with
  | nil => rfl
  | cons t rest ih =>
    have hpush : id < (st.addType t).1.types.size := by
      rw [Store.addType, Array.size_push]
      omega
    have hrest : withTypes st (t :: rest) = withTypes (st.addType t).1 rest := rfl
    rw [hrest, ih hpush, Store.addType, Array.getElem?_push, if_neg (by omega)]

theorem withTypes_size (st : Store) (ts : List NodeType) :
    (withTypes st ts).types.size = st.types.size + ts.length := by
  induction ts generalizing st with
  | nil => rfl
  | cons t rest ih =>
    have hrest : withTypes st (t :: rest) = withTypes (st.addType t).1 rest := rfl
    rw [hrest, ih, Store.addType, Array.size_push, List.length_cons]
    omega

theorem withTypes_new {ts : List NodeType} {k : Nat} (h : ts[k]? = some t) :
    ∃ t', (withTypes st ts).types[st.types.size + k]? = some t' ∧ StoredAs t t' := by
  induction ts generalizing st k with
  | nil => cases h
  | cons u rest ih =>
    have hrest : withTypes st (u :: rest) = withTypes (st.addType u).1 rest := rfl
    have hsize : (st.addType u).1.types.size = st.types.size + 1 := Array.size_push _
    rw [hrest]
    cases k with
    | zero =>
      cases h
      rw [Nat.add_zero, withTypes_kept (by omega), Store.addType, Array.getElem?_push, if_pos rfl]
      exact ⟨_, rfl, rfl, rfl, rfl, _, rfl⟩
    | succ k =>
      have hk : ∃ t', (withTypes (st.addType u).1 rest).types[(st.addType u).1.types.size + k]? =
          some t' ∧ StoredAs t t' := ih h
      rwa [hsize, Nat.add_assoc, Nat.add_comm 1 k] at hk

/-- The store after a batch has every type that was made. -/
theorem withTypes_found {all : Array NodeType} (hsize : st.types.size ≤ id)
    (h : all[id]? = some t) :
    ∃ t', (withTypes st (all.toList.drop st.types.size)).types[id]? = some t' ∧ StoredAs t t' := by
  have hdrop : (all.toList.drop st.types.size)[id - st.types.size]? = some t := by
    rw [List.getElem?_drop, Nat.add_sub_cancel' hsize, Array.getElem?_toList]
    exact h
  obtain ⟨t', ht', hstored⟩ : ∃ t', (withTypes st (all.toList.drop st.types.size)).types[
      st.types.size + (id - st.types.size)]? = some t' ∧ StoredAs t t' := withTypes_new hdrop
  rw [Nat.add_sub_cancel' hsize] at ht'
  exact ⟨t', ht', hstored⟩

end Types

/-! ## The outcome of loading -/

section Outcome

variable {registry : Registry} {batch : Batch} {definitions : Value} {graph : Graph} {st : Store}
  {types : Array NodeType} {p : Progress}

theorem active_nil (graph : Graph) : Active graph [] where
  nodup := .nil
  batch := nofun
  path := .nil
  length := Nat.zero_le _

/-- All of a batch is made, or there is a failure. -/
theorem makeBatch_outcome (hreads : List.Forall₂ ReadsAs batch graph)
    (hr : Registered registry types) :
    (∃ p, makeBatch types registry batch = .ok p ∧ Complete registry graph types p) ∨
      ∃ e, makeBatch types registry batch = .error e ∧ Failure registry graph e := by
  have hnames : batch.map (fun d => d.2.name.value) = (graph.map (·.1)).map .str := by
    rw [names_batch hreads, List.map_map]
    rfl
  have hin : ∀ name ∈ graph.map (·.1), (graph.lookup name).isSome = true := by
    intro name hname
    obtain ⟨g, hg, rfl⟩ := List.mem_map.1 hname
    exact List.lookup_isSome_iff.2 ⟨g, hg, beq_self_eq_true _⟩
  rcases makeAll_outcome (make_outcome hreads hr (active_nil graph)) .start nofun
    (fun _ _ => nofun) (fun _ => hin) with ⟨p, ids, hall, hmade, hids⟩ | ⟨e, hall, he⟩
  · rw [List.map_nil] at hall
    refine .inl ⟨p, by rw [makeBatch, hnames, hall]; rfl, hmade.built, ?_⟩
    intro name hname
    obtain ⟨g, hg, heq⟩ := List.lookup_isSome_iff.1 hname
    obtain rfl : name = g.1 := eq_of_beq heq
    obtain ⟨id, hid⟩ := resolve_of_mem hids (List.mem_map_of_mem hg)
    rw [resolve, if_pos hname] at hid
    exact ⟨id, hid⟩
  · rw [List.map_nil] at hall
    exact .inr ⟨e, by rw [makeBatch, hnames, hall]; rfl, he⟩

/-- The store in which the types of a batch have been registered. -/
def loadedStore (registry : Registry) (st : Store) (p : Progress) : Store :=
  let st := withTypes st (p.types.toList.drop st.types.size)
  { st with log := st.log ++ typeMessages registry p }

theorem Complete.replaced (hc : Complete registry graph st.types p) {name : String}
    {names : List String} (hg : graph.lookup name = some names) :
    ∃ id t, (registry.registerAll p.made).lookup [.str name] = some id ∧ st.types.size ≤ id ∧
      (loadedStore registry st p).types[id]? = some t ∧ t.name = .ofText name ∧
      names.map (fun super => (registry.registerAll p.made).lookup [.str super]) =
        t.supers.map some := by
  obtain ⟨id, hid⟩ := hc.all name (by rw [hg]; rfl)
  -- the type as it was made, and then as it stands in the store
  obtain ⟨_, t, hkey, hsize, hbuilt, ht⟩ := hc.built.found hid
  cases hkey
  obtain ⟨others, hg', hsupers⟩ := ht.supers
  rw [hg] at hg'
  cases hg'
  obtain ⟨t', ht', hstored⟩ := withTypes_found hsize hbuilt
  refine ⟨id, t', ?_, hsize, ht', hstored.name.trans ht.named, ?_⟩
  · rw [hc.built.lookup_registerAll, hid]
    rfl
  · rw [hstored.supers, ← hsupers]
    exact List.map_congr_left fun super _ => hc.lookup_registerAll super

/-- Registered types have the declared shape again. -/
theorem Complete.registered (hc : Complete registry graph st.types p)
    (hr : Registered registry st.types) :
    Registered (registry.registerAll p.made) (loadedStore registry st p).types := by
  intro key id hlookup
  rw [hc.built.lookup_registerAll, Option.or_eq_some_iff] at hlookup
  rcases hlookup with hf | ⟨_, hold⟩
  · obtain ⟨_, t, _, hsize, hbuilt, ht⟩ := hc.built.found hf
    obtain ⟨t', ht', hstored⟩ := withTypes_found hsize hbuilt
    exact ⟨t', ht', hstored.shape ht.shape⟩
  · obtain ⟨t, ht, hshape⟩ := hr key id hold
    have hid : id < st.types.size := (Array.getElem?_eq_some_iff.1 ht).1
    exact ⟨t, (withTypes_kept hid).trans ht, hshape⟩

theorem Complete.loaded (hc : Complete registry graph st.types p)
    (hr : Registered registry st.types) :
    Loaded registry graph st (registry.registerAll p.made) (p.made.map (·.2))
      (loadedStore registry st p) where
  replaced := fun _ _ hg => hc.replaced hg
  kept := by
    intro key hkey
    rw [hc.built.lookup_registerAll]
    cases hf : p.find? key with
    | none => rfl
    | some id =>
      obtain ⟨name, t, hname, _, _, ht⟩ := hc.built.found hf
      exact absurd ht.isSome (by rw [hkey name hname]; nofun)
  types := fun _ hid => withTypes_kept hid
  made := by
    intro id
    rw [hc.built.mem_made]
    refine exists_congr fun name => ⟨fun hf => ?_, fun ⟨hin, hlookup⟩ => ?_⟩
    · rw [hc.built.lookup_registerAll, hf]
      exact ⟨hc.built.isSome hf, rfl⟩
    · rwa [hc.lookup_registerAll, resolve, if_pos hin] at hlookup
  registered := hc.registered hr

/-- A loading that fails leaves everything as it was. -/
theorem loadTypes_run (registry : Registry) (h : graphOf? definitions = some graph) (st : Store) :
    ∃ batch, List.Forall₂ ReadsAs batch graph ∧ loadTypes registry definitions st =
      match makeBatch st.types registry batch with
      | .ok p => (.ok (registry.registerAll p.made, p.made.map (·.2)), loadedStore registry st p)
      | .error e => (.error e, st) := by
  obtain ⟨batch, hbatch, hreads⟩ := batchOf_run h st
  refine ⟨batch, hreads, ?_⟩
  simp only [loadTypes, run_bind, hbatch, run_get]
  cases makeBatch st.types registry batch with
  | ok p => rfl
  | error e => rfl

/-! ### Failures -/

theorem transGen_of_path {name : String} {between : List String}
    (h : (name :: between ++ [name]).IsChain (Declares graph)) :
    Relation.TransGen (Declares graph) name name := by
  have hpath : (name :: (between ++ [name])).IsChain (Relation.TransGen (Declares graph)) :=
    h.imp fun _ _ => .single
  exact hpath.rel_cons (List.mem_append_right _ List.mem_cons_self)

/-- A batch that is closed, free of cycles and not too high does not fail. -/
theorem Failure.elim {e : Error} (hf : Failure registry graph e) (hk : Known registry graph)
    (ha : IsAcyclic graph) (hs : Shallow graph) : False := by
  cases hf with
  | unknown hd hout hnone =>
    rcases hk _ _ hd with hin | hin
    · rw [hout] at hin
      cases hin
    · rw [hnone] at hin
      cases hin
  | cycle _ _ hpath => exact ha _ (transGen_of_path hpath)
  | deep hlen hnodup hin hpath =>
    have hle := hs _ hnodup hin hpath
    omega

/-- Loading a batch of definitions of the declared shape registers all of it or changes nothing. It
fails only for an unknown supertype, for a cycle, which the error names, or for a path of
declarations that is too long; without such a path it succeeds just if the batch is closed and free
of cycles. -/
theorem loadTypes_outcome (h : graphOf? definitions = some graph)
    (hr : Registered registry st.types) :
    ((∃ registry' made st', loadTypes registry definitions st = (.ok (registry', made), st') ∧
        Known registry graph ∧ IsAcyclic graph ∧ Loaded registry graph st registry' made st') ∨
      ∃ e, loadTypes registry definitions st = (.error e, st) ∧ Failure registry graph e) ∧
    (Shallow graph → ((∃ loaded, (loadTypes registry definitions st).1 = .ok loaded) ↔
      Known registry graph ∧ IsAcyclic graph)) := by
  obtain ⟨batch, hreads, hrun⟩ := loadTypes_run registry h st
  rw [hrun]
  rcases makeBatch_outcome hreads hr with ⟨p, hmake, hc⟩ | ⟨e, hmake, he⟩
  · rw [hmake]
    exact ⟨.inl ⟨_, _, _, rfl, hc.known, hc.isAcyclic, hc.loaded hr⟩,
      fun _ => ⟨fun _ => ⟨hc.known, hc.isAcyclic⟩, fun _ => ⟨_, rfl⟩⟩⟩
  · rw [hmake]
    refine ⟨.inr ⟨e, rfl, he⟩, fun hs => ⟨fun ⟨_, hloaded⟩ => ?_, fun ⟨hk, ha⟩ => ?_⟩⟩
    · cases hloaded
    · exact (he.elim hk ha hs).elim

/-- A batch of few definitions has no long paths. -/
theorem shallow_of_length_le (h : graph.length ≤ heightLimit) : Shallow graph := by
  intro path hnodup hin _
  have hsub : path ⊆ graph.map (·.1) := by
    intro a ha
    obtain ⟨g, hg, heq⟩ := List.lookup_isSome_iff.1 (hin a ha)
    obtain rfl : a = g.1 := eq_of_beq heq
    exact List.mem_map_of_mem hg
  have hle := (hnodup.subperm hsub).length_le
  rw [List.length_map] at hle
  exact hle.trans h

/-- Pages, which have a type of the batch and a registered one as supertypes. -/
def pages : Value :=
  .dict [(.str "Page", .dict [(.str "superTypes", .list [.str "Base", .str "Titled"] 0)] 0),
    (.str "Titled", .none)] 0

def pagesGraph : Graph :=
  [("Page", ["Base", "Titled"]), ("Titled", [])]

theorem declares_pagesGraph {sub super : String} (h : Declares pagesGraph sub super) :
    sub = "Page" ∧ (super = "Base" ∨ super = "Titled") := by
  obtain ⟨names, hg, hsuper⟩ := h
  obtain ⟨g, hmem, heq⟩ := List.lookup_isSome_iff.1 (Option.isSome_of_mem hg)
  obtain rfl : sub = g.1 := eq_of_beq heq
  rcases List.mem_pair.1 hmem with rfl | rfl
  · cases hg
    exact ⟨rfl, by simpa using hsuper⟩
  · cases hg
    cases hsuper

theorem known_pagesGraph {registry : Registry} (h : registry.has [.str "Base"] = true) :
    Known registry pagesGraph := by
  intro sub super hd
  obtain ⟨-, rfl | rfl⟩ := declares_pagesGraph hd
  · exact .inr h
  · exact .inl rfl

theorem isAcyclic_pagesGraph : IsAcyclic pagesGraph := by
  intro name h
  obtain ⟨_, hfirst, _⟩ := Relation.TransGen.head'_iff.1 h
  obtain ⟨_, _, hlast⟩ := Relation.TransGen.tail'_iff.1 h
  obtain ⟨rfl, _⟩ := declares_pagesGraph hfirst
  obtain ⟨_, hname | hname⟩ := declares_pagesGraph hlast <;> exact absurd hname (by decide)

def baseStore : Store :=
  ((Store.empty default).addType ⟨.ofText "Base", [], [], [], 0⟩).1

theorem registered_baseStore : Registered [([.str "Base"], 0)] baseStore.types := by
  intro key id h
  rw [List.lookup_cons] at h
  split at h
  · cases h
    exact ⟨_, rfl, rfl⟩
  · cases h

/-- The pages can be loaded where their registered supertype is. -/
theorem loadTypes_outcome_pages :
    graphOf? pages = some pagesGraph ∧ Registered [([.str "Base"], 0)] baseStore.types ∧
      ∃ loaded, (loadTypes [([.str "Base"], 0)] pages baseStore).1 = .ok loaded :=
  ⟨rfl, registered_baseStore,
    ((loadTypes_outcome rfl registered_baseStore).2 (shallow_of_length_le (by decide))).2
      ⟨known_pagesGraph rfl, isAcyclic_pagesGraph⟩⟩

end Outcome

/-! ## Chains -/

section Chain

variable {registry : Registry} {batch : Batch} {graph : Graph} {types : Array NodeType}

/-- A path on which every name declares just the next one is followed from its start, whatever is
registered, and is too long. -/
theorem make_deep (hreads : List.Forall₂ ReadsAs batch graph) {f : Nat → String}
    (hf : Function.Injective f) (hg : ∀ k ≤ heightLimit, graph.lookup (f k) = some [f (k + 1)])
    {k : Nat} (hk : k ≤ heightLimit) :
    make registry batch (((List.range k).map f).reverse.map .ofText) ⟨types, []⟩ (.str (f k)) =
      .error (.fault .tooDeep) := by
  obtain ⟨_, hout⟩ | ⟨d, names, hlookup, hnames, hsupers, _⟩ := lookup_batch hreads (f k)
  · rw [hg k hk] at hout
    cases hout
  rw [hg k hk] at hnames
  cases hnames
  have hnew : f k ∉ ((List.range k).map f).reverse := by
    rw [List.mem_reverse, List.mem_map]
    rintro ⟨i, hi, heq⟩
    exact absurd (List.mem_range.1 hi) (by rw [hf heq]; exact Nat.lt_irrefl k)
  have hstart : (⟨types, []⟩ : Progress).find? [.str (f k)] = none := rfl
  rw [make_str, hstart, hlookup]
  dsimp only
  rw [if_neg (by simpa [Name.keys, Name.ofText] using hnew), List.length_map, List.length_reverse,
    List.length_map, List.length_range]
  by_cases hlast : heightLimit ≤ k
  · rw [if_pos hlast]
  · have hnext : make registry batch (((List.range (k + 1)).map f).reverse.map .ofText)
        ⟨types, []⟩ (.str (f (k + 1))) = .error (.fault .tooDeep) :=
      make_deep hreads hf hg (by omega)
    have hpath : ((List.range (k + 1)).map f).reverse.map Name.ofText =
        .ofText (f k) :: ((List.range k).map f).reverse.map .ofText := by
      simp [List.range_succ]
    rw [hpath] at hnext
    rw [if_neg hlast, hsupers]
    dsimp only
    rw [List.map_cons, makeAll]
    simp only [hnext]
termination_by heightLimit - k

/-- Names of the types in a chain. -/
def link (k : Nat) : String :=
  "t" ++ k.repr

theorem link_injective : Function.Injective link := by
  intro i j h
  simpa [link, Nat.repr_inj] using h

/-- A chain of some length: every name declares the next one, and the last one nothing. -/
def chainGraph (n : Nat) : Graph :=
  (List.range n).map fun k => (link k, if k + 1 < n then [link (k + 1)] else [])

/-- The definitions of a chain, subtypes first. -/
def chain (n : Nat) : Value :=
  .dict ((List.range n).map fun k => (.str (link k), .dict
    (if k + 1 < n then [(.str "superTypes", .list [.str (link (k + 1))] 0)] else []) 0)) 0

theorem graphOf?_chain (n : Nat) : graphOf? (chain n) = some (chainGraph n) := by
  have hlink : ∀ k, declaration? (.str (link k), .dict
      (if k + 1 < n then [(.str "superTypes", .list [.str (link (k + 1))] 0)] else []) 0) =
      some (link k, if k + 1 < n then [link (k + 1)] else []) := by
    intro k
    by_cases hk : k + 1 < n
    · rw [if_pos hk, if_pos hk]
      rfl
    · rw [if_neg hk, if_neg hk]
      rfl
  rw [chain, graphOf?, List.mapM_map]
  exact (congrArg (fun f => List.mapM f _) (funext hlink)).trans List.mapM_pure

theorem lookup_chainGraph {n k : Nat} (h : k < n) :
    (chainGraph n).lookup (link k) = some (if k + 1 < n then [link (k + 1)] else []) := by
  have hlookup : ∀ ks : List Nat, k ∈ ks →
      (ks.map fun k => (link k, if k + 1 < n then [link (k + 1)] else [])).lookup (link k) =
        some (if k + 1 < n then [link (k + 1)] else []) := by
    intro ks hk
    induction ks with
    | nil => cases hk
    | cons i rest ih =>
      by_cases hi : k = i
      · subst hi
        exact List.lookup_cons_self
      · have hne : (link k == link i) = false := beq_false_of_ne fun heq => hi (link_injective heq)
        rw [List.map_cons, List.lookup_cons, hne]
        exact ih ((List.mem_cons.1 hk).resolve_left hi)
  exact hlookup _ (List.mem_range.2 h)

theorem declares_chainGraph {n : Nat} {sub super : String}
    (h : Declares (chainGraph n) sub super) :
    ∃ k, sub = link k ∧ super = link (k + 1) ∧ k + 1 < n := by
  obtain ⟨names, hg, hsuper⟩ := h
  obtain ⟨g, hmem, heq⟩ := List.lookup_isSome_iff.1 (Option.isSome_of_mem hg)
  obtain ⟨k, hk, rfl⟩ := List.mem_map.1 hmem
  obtain rfl : sub = link k := eq_of_beq heq
  rw [lookup_chainGraph (List.mem_range.1 hk)] at hg
  by_cases hnext : k + 1 < n
  · rw [if_pos hnext] at hg
    cases hg
    exact ⟨k, rfl, List.mem_singleton.1 hsuper, hnext⟩
  · rw [if_neg hnext] at hg
    cases hg
    cases hsuper

theorem known_chainGraph (n : Nat) : Known registry (chainGraph n) := by
  intro sub super h
  obtain ⟨k, _, rfl, hk⟩ := declares_chainGraph h
  rw [lookup_chainGraph hk]
  exact .inl rfl

theorem isAcyclic_chainGraph (n : Nat) : IsAcyclic (chainGraph n) := by
  have hup : ∀ sub super, Relation.TransGen (Declares (chainGraph n)) sub super →
      ∃ i j, sub = link i ∧ super = link j ∧ i < j := by
    intro sub super h
    induction h with
    | single hd =>
      obtain ⟨k, hsub, hsuper, _⟩ := declares_chainGraph hd
      exact ⟨k, k + 1, hsub, hsuper, Nat.lt_succ_self k⟩
    | tail _ hd ih =>
      obtain ⟨i, j, hi, hj, hlt⟩ := ih
      obtain ⟨k, hsub, hsuper, _⟩ := declares_chainGraph hd
      have hjk : j = k := link_injective (hj.symm.trans hsub)
      exact ⟨i, k + 1, hi, hsuper, by omega⟩
  intro name h
  obtain ⟨i, j, hi, hj, hlt⟩ := hup name name h
  exact absurd (link_injective (hi.symm.trans hj)) (Nat.ne_of_lt hlt)

/-- A chain that is too long cannot be loaded, although it is closed and has no cycle. -/
theorem loadTypes_chain {n : Nat} (h : heightLimit + 1 < n) (registry : Registry) (st : Store) :
    loadTypes registry (chain n) st = (.error (.fault .tooDeep), st) := by
  obtain ⟨batch, hreads, hrun⟩ := loadTypes_run registry (graphOf?_chain n) st
  have hlinks : ∀ k ≤ heightLimit, (chainGraph n).lookup (link k) = some [link (k + 1)] := by
    intro k hk
    rw [lookup_chainGraph (by omega), if_pos (by omega)]
  have hfirst : make registry batch [] ⟨st.types, []⟩ (.str (link 0)) =
      .error (.fault .tooDeep) := make_deep hreads link_injective hlinks (Nat.zero_le _)
  obtain ⟨m, rfl⟩ : ∃ m, n = m + 1 := ⟨n - 1, by omega⟩
  have hnames : (chainGraph (m + 1)).map (fun g => Value.str g.1) =
      .str (link 0) :: (List.range m).map fun k => .str (link (k + 1)) := by
    rw [chainGraph, List.map_map, List.range_succ_eq_map, List.map_cons, List.map_map]
    rfl
  rw [hrun, makeBatch, names_batch hreads, hnames, makeAll, hfirst]
  rfl

/-- A chain of 600 definitions is not loaded, although it has no unknown name and no cycle. -/
theorem long_chain_not_loaded :
    graphOf? (chain 600) = some (chainGraph 600) ∧
      Registered [] (Store.empty default).types ∧
      loadTypes [] (chain 600) (.empty default) = (.error (.fault .tooDeep), .empty default) ∧
      ¬ ((∃ loaded, (loadTypes [] (chain 600) (.empty default)).1 = .ok loaded) ↔
        Known [] (chainGraph 600) ∧ IsAcyclic (chainGraph 600)) := by
  have hrun := loadTypes_chain (n := 600) (by decide) [] (.empty default)
  refine ⟨graphOf?_chain 600, nofun, hrun, fun h => ?_⟩
  obtain ⟨loaded, hloaded⟩ := h.2 ⟨known_chainGraph 600, isAcyclic_chainGraph 600⟩
  rw [hrun] at hloaded
  cases hloaded

end Chain

end ContentIndex.Loading
