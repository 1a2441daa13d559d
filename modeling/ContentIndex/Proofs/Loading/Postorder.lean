import ContentIndex.Proofs.Firsts
import ContentIndex.Proofs.Loading.History
import Mathlib.Data.Option.Basic
import Mathlib.Logic.ExistsUnique

/-!
# The order in which types are made

Loading takes the definitions one after the other and goes up from each of them through the
supertypes that it lists; a type is made when all that are above it have been. What loading returns
is in that order, and so in the order of the definitions only if every definition stands behind
those of its supertypes.
-/

namespace ContentIndex.Loading

set_option autoImplicit false

/-- Each key at its first place. -/
abbrev once (keys : List Key) : List Key :=
  firsts (fun key => key) keys

/-- The keys of the batch that are met on the way up from some keys, each behind those that are met
above it, and as often as it is met. -/
inductive Postorder (batch : Batch) : List Key → List Key → Prop where
  | nil : Postorder batch [] []
  | other {key : Key} {keys met : List Key} : batch.lookup key = none →
      Postorder batch keys met → Postorder batch (key :: keys) met
  | defined {key : Key} {d : Definition} {names : List Value} {supers keys above met : List Key} :
      batch.lookup key = some d → superNames d.entries = .ok names →
      names.map Value.key? = supers.map some → Postorder batch supers above →
      Postorder batch keys met → Postorder batch (key :: keys) (above ++ key :: met)

/-- Every key stands behind those of its supertypes that the batch defines. -/
def AfterSupers (batch : Batch) (keys : List Key) : Prop :=
  ∀ before sub after, keys = before ++ sub :: after →
    ∀ super, Lists batch sub super → (batch.lookup super).isSome = true → super ∈ before

/-- The keys of the types made so far, in the order of their making. -/
def Progress.keys (p : Progress) : List Key :=
  p.made.map fun m => m.1.key

/-! ## Ways up -/

section Ways

variable {batch : Batch} {key sub super : Key} {keys others before met met' : List Key}
  {names : List Value} {d : Definition}

/-- A listed supertype is one of the names of the definition. -/
theorem Lists.mem (h : Lists batch sub super) (hd : batch.lookup sub = some d)
    (hnames : superNames d.entries = .ok names) : ∃ v ∈ names, v.key? = some super := by
  obtain ⟨d', names', v, hd', hnames', hv, hkey⟩ := h
  rw [hd] at hd'
  cases hd'
  rw [hnames] at hnames'
  cases hnames'
  exact ⟨v, hv, hkey⟩

theorem lists_of_mem (hd : batch.lookup sub = some d) (hnames : superNames d.entries = .ok names)
    (hkeys : names.map Value.key? = keys.map some) (hs : super ∈ keys) :
    Lists batch sub super := by
  have hmem : some super ∈ names.map Value.key? := hkeys ▸ List.mem_map_of_mem hs
  obtain ⟨v, hv, hkey⟩ := List.mem_map.1 hmem
  exact ⟨d, names, v, hd, hnames, hv, hkey⟩

theorem keys_unique {found : List (Option Key)} (h : found = keys.map some)
    (h' : found = others.map some) : keys = others :=
  List.map_injective_iff.2 (Option.some_injective Key) (h.symm.trans h')

theorem isSome_lookup_iff : (batch.lookup key).isSome = true ↔ key ∈ batch.map (·.1) := by
  rw [List.lookup_isSome_iff, List.mem_map]
  simp only [beq_iff_eq]
  exact exists_congr fun _ => and_congr_right fun _ => eq_comm

theorem Postorder.cons (h : Postorder batch [key] met) (hrest : Postorder batch keys met') :
    Postorder batch (key :: keys) (met ++ met') := by
  cases h with
  | other hb hnil =>
    cases hnil
    exact .other hb hrest
  | defined hd hnames hsupers habove hnil =>
    cases hnil
    rw [List.append_assoc]
    exact .defined hd hnames hsupers habove hrest

theorem Postorder.unique (h : Postorder batch keys met) (h' : Postorder batch keys met') :
    met = met' := by
  induction h generalizing met' with
  | nil =>
    cases h'
    rfl
  | other hb _ ih =>
    cases h' with
    | other _ hrest => exact ih hrest
    | defined hd => exact absurd (hb.symm.trans hd) nofun
  | defined hd hnames hsupers _ _ ihabove ihrest =>
    cases h' with
    | other hb => exact absurd (hb.symm.trans hd) nofun
    | defined hd' hnames' hsupers' habove hrest =>
      rw [hd] at hd'
      cases hd'
      rw [hnames] at hnames'
      cases hnames'
      cases keys_unique hsupers hsupers'
      rw [ihabove habove, ihrest hrest]

theorem Postorder.defines (h : Postorder batch keys met) :
    ∀ key ∈ met, (batch.lookup key).isSome = true := by
  induction h with
  | nil => exact List.forall_mem_nil _
  | other _ _ ih => exact ih
  | defined hd _ _ _ _ ihabove ihrest =>
    exact List.forall_mem_append.2
      ⟨ihabove, List.forall_mem_cons.2 ⟨Option.isSome_of_eq_some hd, ihrest⟩⟩

theorem Postorder.mem (h : Postorder batch keys met) :
    ∀ key ∈ keys, (batch.lookup key).isSome = true → key ∈ met := by
  induction h with
  | nil => exact List.forall_mem_nil _
  | other hb _ ih =>
    refine List.forall_mem_cons.2 ⟨fun hin => ?_, ih⟩
    rw [hb] at hin
    cases hin
  | defined _ _ _ _ _ _ ihrest =>
    refine List.forall_mem_cons.2 ⟨fun _ => ?_, fun key hkey hin => ?_⟩
    · exact List.mem_append_right _ List.mem_cons_self
    · exact List.mem_append_right _ (List.mem_cons_of_mem _ (ihrest key hkey hin))

/-- Where all that is listed is there, nothing else is met on the way up. -/
theorem Postorder.subset (h : Postorder batch keys met)
    (hclosed : ∀ sub ∈ before, ∀ super, Lists batch sub super →
      (batch.lookup super).isSome = true → super ∈ before)
    (hkeys : ∀ key ∈ keys, (batch.lookup key).isSome = true → key ∈ before) :
    ∀ key ∈ met, key ∈ before := by
  induction h with
  | nil => exact List.forall_mem_nil _
  | other _ _ ih => exact ih (List.forall_mem_cons.1 hkeys).2
  | defined hd hnames hsupers _ _ ihabove ihrest =>
    obtain ⟨hkey, hrest⟩ := List.forall_mem_cons.1 hkeys
    have hkey := hkey (Option.isSome_of_eq_some hd)
    have habove := ihabove fun super hs => hclosed _ hkey super (lists_of_mem hd hnames hsupers hs)
    exact List.forall_mem_append.2 ⟨habove, List.forall_mem_cons.2 ⟨hkey, ihrest hrest⟩⟩

theorem AfterSupers.concat (h : AfterSupers batch keys)
    (hkey : ∀ super, Lists batch key super → (batch.lookup super).isSome = true → super ∈ keys) :
    AfterSupers batch (keys ++ [key]) := by
  intro before sub after hsplit super hlists hin
  rcases List.eq_nil_or_concat after with rfl | ⟨after', last, rfl⟩
  · obtain ⟨rfl, hlast⟩ := List.append_inj' hsplit rfl
    cases hlast
    exact hkey super hlists hin
  · have hsplit : keys ++ [key] = (before ++ sub :: after') ++ [last] := by simpa using hsplit
    obtain ⟨rfl, -⟩ := List.append_inj' hsplit rfl
    exact h before sub after' rfl super hlists hin

theorem once_of_nodup (h : keys.Nodup) : once keys = keys :=
  firsts_of_nodup (by rwa [List.map_id'])

theorem mem_once : key ∈ once keys ↔ key ∈ keys := by
  have hkeys : key ∈ (once keys).map (fun key => key) ↔ key ∈ keys.map (fun key => key) :=
    mem_keys_firsts
  rwa [List.map_id', List.map_id'] at hkeys

theorem nodup_once (keys : List Key) : (once keys).Nodup := by
  have hkeys := nodup_keys_firsts (fun key : Key => key) keys
  rwa [List.map_id'] at hkeys

theorem once_append_of_subset (h : ∀ key ∈ met, key ∈ before) (rest : List Key) :
    once (before ++ (met ++ rest)) = once (before ++ rest) := by
  rw [← List.append_assoc]
  refine firsts_append_congr (firsts_append_of_subset fun key hkey => ?_) rfl
  rw [List.map_id']
  exact h key hkey

theorem once_once_append (keys rest : List Key) : once (once keys ++ rest) = once (keys ++ rest) :=
  firsts_append_congr (firsts_firsts _ _) rfl

/-- Keys that stand behind their supertypes have nothing new above them. -/
theorem AfterSupers.once_eq (h : AfterSupers batch keys) (hnodup : keys.Nodup)
    (hin : ∀ key ∈ keys, (batch.lookup key).isSome = true) (hmet : Postorder batch others met)
    (hsplit : keys = before ++ others) : once (before ++ met) = keys := by
  induction hmet generalizing before with
  | nil =>
    rw [← hsplit]
    exact once_of_nodup hnodup
  | @other key _ _ hb _ _ =>
    have hkey := hin key (hsplit ▸ List.mem_append_right _ List.mem_cons_self)
    rw [hb] at hkey
    cases hkey
  | @defined key d names supers rest above met hd hnames hsupers habove _ _ ihrest =>
    have hclosed : ∀ sub ∈ before, ∀ super, Lists batch sub super →
        (batch.lookup super).isSome = true → super ∈ before := by
      intro sub hsub super hlists hsuper
      obtain ⟨front, back, rfl⟩ := List.append_of_mem hsub
      have hfront : keys = front ++ sub :: (back ++ key :: rest) := by simpa using hsplit
      exact List.mem_append_left _ (h front sub _ hfront super hlists hsuper)
    have hbefore := habove.subset hclosed fun super hs =>
      h before key rest hsplit super (lists_of_mem hd hnames hsupers hs)
    have hnext : keys = (before ++ [key]) ++ rest := by simpa using hsplit
    calc once (before ++ (above ++ key :: met))
        = once (before ++ key :: met) := once_append_of_subset hbefore _
      _ = once ((before ++ [key]) ++ met) := by rw [List.append_assoc, List.singleton_append]
      _ = keys := ihrest hnext

end Ways

/-! ## Keys of what has been made -/

section Made

variable {registry : Registry} {batch : Batch} {types : Array NodeType} {p p' : Progress}
  {active : List Name} {key : Key} {id : Nat} {v : Value} {names : List Value} {ids : List Nat}

theorem keys_concat (p : Progress) (all : Array NodeType) (name : Name) (id : Nat) :
    (⟨all, p.made ++ [(name, id)]⟩ : Progress).keys = p.keys ++ [name.key] := by
  rw [Progress.keys, List.map_append]
  rfl

theorem mem_keys_iff : key ∈ p.keys ↔ ∃ id, p.find? key = some id := by
  rw [← Option.isSome_iff_exists, Progress.find?, Option.isSome_map, List.find?_isSome,
    Progress.keys, List.mem_map]
  simp only [beq_iff_eq]

theorem not_mem_keys_iff : key ∉ p.keys ↔ p.find? key = none := by
  rw [mem_keys_iff, ← Option.isSome_iff_exists, Option.not_isSome_iff_eq_none]

theorem Assembled.nodup_keys (h : Assembled registry batch types p) : p.keys.Nodup := by
  induction h with
  | start => exact List.nodup_nil
  | add _ hnew _ _ ih =>
    rw [keys_concat, ← List.concat_eq_append]
    exact ih.concat (not_mem_keys_iff.2 hnew)

/-- What is found for a key of the batch has been made. -/
theorem Finds.mem_keys (h : Finds registry batch p v id) (hkey : v.key? = some key)
    (hin : (batch.lookup key).isSome = true) : key ∈ p.keys := by
  obtain ⟨key', hkey', hfound⟩ := h
  rw [hkey] at hkey'
  cases hkey'
  rw [found, if_pos hin] at hfound
  exact mem_keys_iff.2 ⟨id, hfound⟩

theorem Assembled.afterSupers (h : Assembled registry batch types p) :
    AfterSupers batch p.keys := by
  induction h with
  | start =>
    intro before sub after hsplit
    cases before <;> cases hsplit
  | add _ _ hd hm ih =>
    rw [keys_concat]
    refine ih.concat fun super hlists hin => ?_
    obtain ⟨names, hnames, hfinds⟩ := hm.supers
    obtain ⟨v, hv, hkey⟩ := hlists.mem hd hnames
    obtain ⟨id, -, hfind⟩ := exists_of_mem_left hfinds hv
    exact hfind.mem_keys hkey hin

/-- Names that have been found have only what has been made on the way up. -/
theorem exists_postorder (hfinds : List.Forall₂ (Finds registry batch p) names ids)
    (hclosed : ∀ key ∈ p.keys, ∃ met, Postorder batch [key] met ∧ ∀ k ∈ met, k ∈ p.keys) :
    ∃ supers met, names.map Value.key? = supers.map some ∧ Postorder batch supers met ∧
      ∀ k ∈ met, k ∈ p.keys := by
  induction hfinds with
  | nil => exact ⟨[], [], rfl, .nil, List.forall_mem_nil _⟩
  | @cons v id names ids hfind _ ih =>
    obtain ⟨supers, met, hkeys, hmet, hmade⟩ := ih
    have ⟨key, hkey, _⟩ := hfind
    have hcons : (v :: names).map Value.key? = (key :: supers).map some := by
      rw [List.map_cons, hkey, hkeys, List.map_cons]
    cases hb : batch.lookup key with
    | none => exact ⟨key :: supers, met, hcons, .other hb hmet, hmade⟩
    | some d =>
      obtain ⟨above, habove, hall⟩ := hclosed key (hfind.mem_keys hkey (by rw [hb]; rfl))
      exact ⟨key :: supers, above ++ met, hcons, habove.cons hmet,
        List.forall_mem_append.2 ⟨hall, hmade⟩⟩

theorem Assembled.closed (h : Assembled registry batch types p) :
    ∀ key ∈ p.keys, ∃ met, Postorder batch [key] met ∧ ∀ k ∈ met, k ∈ p.keys := by
  induction h with
  | start => exact List.forall_mem_nil _
  | @add p d t _ _ hd hm ih =>
    rw [keys_concat]
    refine List.forall_mem_append.2 ⟨fun key hkey => ?_, List.forall_mem_singleton.2 ?_⟩
    · obtain ⟨met, hmet, hall⟩ := ih key hkey
      exact ⟨met, hmet, fun k hk => List.mem_append_left _ (hall k hk)⟩
    · obtain ⟨names, hnames, hfinds⟩ := hm.supers
      obtain ⟨supers, met, hkeys, hmet, hall⟩ := exists_postorder hfinds ih
      refine ⟨met ++ [t.name.key], .defined hd hnames hkeys hmet .nil, ?_⟩
      exact List.forall_mem_append.2 ⟨fun k hk => List.mem_append_left _ (hall k hk),
        fun k hk => List.mem_append_right _ hk⟩

/-! ## Making in postorder -/

/-- Making a name adds what is met on the way up from it and has not been made. -/
def MakesInOrder (registry : Registry) (batch : Batch) (types : Array NodeType)
    (active : List Name) : Prop :=
  ∀ p v p' id, Assembled registry batch types p → (∀ n ∈ active, p.find? n.key = none) →
    make registry batch active p v = .ok (p', id) →
    ∃ key met, v.key? = some key ∧ Postorder batch [key] met ∧ p'.keys = once (p.keys ++ met)

theorem makeAll_order (hstep : MakesInOrder registry batch types active)
    (ha : Assembled registry batch types p) (hw : ∀ n ∈ active, p.find? n.key = none)
    (h : makeAll registry batch active p names = .ok (p', ids)) :
    ∃ keys met, names.map Value.key? = keys.map some ∧ Postorder batch keys met ∧
      p'.keys = once (p.keys ++ met) := by
  induction names generalizing p ids with
  | nil =>
    rw [makeAll] at h
    cases h
    exact ⟨[], [], rfl, .nil, by rw [List.append_nil, once_of_nodup ha.nodup_keys]⟩
  | cons v rest ih =>
    rw [makeAll] at h
    split at h
    · cases h
    rename_i p₁ id hmake
    split at h
    · cases h
    rename_i p₂ others hall
    cases h
    obtain ⟨hone, -⟩ := make_proceeds active p v p₁ id ha hw hmake
    obtain ⟨key, above, hkey, habove, hkeys⟩ := hstep p v p₁ id ha hw hmake
    obtain ⟨keys, met, hrest, hmet, hlast⟩ := ih hone.assembled hone.waits hall
    refine ⟨key :: keys, above ++ met, ?_, habove.cons hmet, ?_⟩
    · rw [List.map_cons, hkey, hrest, List.map_cons]
    · rw [hlast, hkeys, once_once_append, List.append_assoc]

/-- The recursion is on the room that is left above the names being made. -/
theorem make_order (active : List Name) : MakesInOrder registry batch types active := by
  intro p v p' id ha hw h
  obtain ⟨key, hkey, ⟨hp, rfl⟩ | ⟨hp, hb, hlookup, rfl⟩ |
    ⟨d, names, p₁, supers, hp, hb, hactive, hlen, hnames, hall, hadd⟩⟩ := make_ok_cases h
  · obtain ⟨met, hmet, hmade⟩ := ha.closed key (mem_keys_iff.2 ⟨id, hp⟩)
    refine ⟨key, met, hkey, hmet, ?_⟩
    rw [← List.append_nil met, once_append_of_subset hmade, List.append_nil,
      once_of_nodup ha.nodup_keys]
  · refine ⟨key, [], hkey, .other hb .nil, ?_⟩
    rw [List.append_nil, once_of_nodup ha.nodup_keys]
  · have hwaits : ∀ n ∈ (⟨v, key⟩ : Name) :: active, p.find? n.key = none :=
      List.forall_mem_cons.2 ⟨hp, hw⟩
    obtain ⟨hsupers, -⟩ := makeAll_proceeds (make_proceeds (⟨v, key⟩ :: active)) ha hwaits hall
    obtain ⟨keys, above, hkeys, habove, hmade⟩ :=
      makeAll_order (make_order (⟨v, key⟩ :: active)) ha hwaits hall
    obtain ⟨t, hmake, rfl, -⟩ := add_ok hadd
    have hnew : key ∉ p₁.keys := not_mem_keys_iff.2 (hsupers.waits ⟨v, key⟩ List.mem_cons_self)
    have hnodup : (p₁.keys ++ [key]).Nodup := by
      rw [← List.concat_eq_append]
      exact hsupers.assembled.nodup_keys.concat hnew
    refine ⟨key, above ++ [key], hkey, .defined hb hnames hkeys habove .nil, ?_⟩
    calc Progress.keys ⟨p₁.types.push t, p₁.made ++ [(⟨v, key⟩, p₁.types.size)]⟩
        = once (p₁.keys ++ [key]) := by rw [keys_concat, once_of_nodup hnodup]
      _ = once (p.keys ++ (above ++ [key])) := by
        rw [hmade, once_once_append, List.append_assoc]
termination_by heightLimit - active.length
decreasing_by
  rw [List.length_cons]
  omega

end Made

/-! ## What loading returns -/

section Loaded

variable {registry registry' : Registry} {definitions : Value} {entries : Entries} {batch : Batch}
  {types : Array NodeType} {st st' between : Store} {p : Progress} {key : Key} {id : Nat}
  {made : List Nat} {met : List Key}

/-- The definitions stand in the batch in their order, each under its name. -/
theorem definitionsOf_ok (h : definitionsOf entries st = (.ok batch, between)) :
    batch.map (·.1) = entries.filterMap (fun e => e.1.key?) ∧
      batch.map (fun d => d.2.name.value.key?) = (batch.map (·.1)).map some := by
  induction entries generalizing st batch with
  | nil =>
    cases h
    exact ⟨rfl, rfl⟩
  | cons e rest ih =>
    obtain ⟨name, v⟩ := e
    rw [definitionsOf] at h
    obtain ⟨_, -, hfail⟩ | ⟨own, st₁, -, h⟩ := run_bind_cases h
    · cases hfail
    obtain ⟨_, -, hfail⟩ | ⟨others, st₂, hothers, h⟩ := run_bind_cases h
    · cases hfail
    cases hname : name.key? with
    | none =>
      rw [Name.ofValue?, hname] at h
      cases h
      simp only [List.filterMap_cons, hname]
      exact ih hothers
    | some key =>
      rw [Name.ofValue?, hname] at h
      cases h
      obtain ⟨hkeys, hnames⟩ := ih hothers
      simp only [List.filterMap_cons, hname]
      exact ⟨congrArg (key :: ·) hkeys, List.cons_eq_cons.2 ⟨hname, hnames⟩⟩

/-- All of a batch is made, in the postorder of its definitions. -/
theorem makeBatch_order (hnames : batch.map (fun d => d.2.name.value.key?) =
      (batch.map (·.1)).map some) (h : makeBatch types registry batch = .ok p) :
    Assembled registry batch types p ∧
      ∃ met, Postorder batch (batch.map (·.1)) met ∧ p.keys = once met := by
  rw [makeBatch] at h
  cases hall : makeAll registry batch [] ⟨types, []⟩ (batch.map fun d => d.2.name.value) with
  | error e =>
    rw [hall] at h
    cases h
  | ok made =>
    rw [hall] at h
    cases h
    obtain ⟨hproceeds, -⟩ := makeAll_proceeds (make_proceeds []) .start (List.forall_mem_nil _) hall
    obtain ⟨keys, met, hkeys, hmet, hmade⟩ :=
      makeAll_order (make_order []) .start (List.forall_mem_nil _) hall
    rw [List.map_map] at hkeys
    obtain rfl : keys = batch.map (·.1) := keys_unique hkeys hnames
    exact ⟨hproceeds.assembled, met, hmet, hmade⟩

theorem Assembled.made_new (h : Assembled registry batch types p) :
    ∀ m ∈ p.made, ∃ t, types.size ≤ m.2 ∧ p.types[m.2]? = some t ∧ t.name = m.1 := by
  induction h with
  | start => exact List.forall_mem_nil _
  | @add p d t hb _ _ _ ih =>
    refine List.forall_mem_append.2 ⟨fun m hm => ?_, List.forall_mem_singleton.2 ?_⟩
    · obtain ⟨u, hsize, hu, hname⟩ := ih m hm
      have hlt : m.2 < p.types.size := (Array.getElem?_eq_some_iff.1 hu).1
      exact ⟨u, hsize, by rw [Array.getElem?_push, if_neg (Nat.ne_of_lt hlt), hu], hname⟩
    · exact ⟨t, hb.size_le, by rw [Array.getElem?_push, if_pos rfl], rfl⟩

/-- A new type that bears a name and stands for it in the registry. -/
def MadeFor (registry : Registry) (old st : Store) (id : Nat) (key : Key) : Prop :=
  ∃ t, old.types.size ≤ id ∧ st.types[id]? = some t ∧ t.name.key = key ∧
    registry.lookup key = some id

theorem Assembled.madeFor (h : Assembled registry batch st.types p) :
    List.Forall₂ (MadeFor (registry.registerAll p.made) st (loadedStore registry st p))
      (p.made.map (·.2)) p.keys := by
  rw [Progress.keys, List.forall₂_map_left_iff, List.forall₂_map_right_iff, List.forall₂_same]
  intro m hm
  obtain ⟨t, hsize, ht, hname⟩ := h.made_new m hm
  obtain ⟨t', ht', hstored⟩ := loadedStore_new registry hsize ht
  refine ⟨t', hsize, ht', by rw [hstored.name, hname], ?_⟩
  rw [h.lookup_registerAll, ← hname, h.find?_new hsize ht]
  rfl

/-- The keys that are met on the way up from all of a batch are its keys. -/
theorem Postorder.perm (h : Postorder batch (batch.map (·.1)) met)
    (hnodup : (batch.map (·.1)).Nodup) : (once met).Perm (batch.map (·.1)) := by
  refine (List.perm_ext_iff_of_nodup (nodup_once met) hnodup).2 fun key => ?_
  rw [mem_once]
  exact ⟨fun hkey => isSome_lookup_iff.1 (h.defines key hkey),
    fun hkey => h.mem key hkey (isSome_lookup_iff.2 hkey)⟩

theorem batchOf_ok (h : batchOf definitions st = (.ok batch, between)) :
    ∃ entries, definitions.entries? = some entries ∧
      definitionsOf entries st = (.ok batch, between) := by
  rw [batchOf] at h
  cases hentries : definitions.entries? with
  | none =>
    rw [hentries] at h
    cases h
  | some entries =>
    rw [hentries] at h
    exact ⟨entries, rfl, h⟩

theorem loadTypes_ok_cases (h : loadTypes registry definitions st = (.ok (registry', made), st')) :
    ∃ batch between p, batchOf definitions st = (.ok batch, between) ∧
      makeBatch between.types registry batch = .ok p ∧
      registry' = registry.registerAll p.made ∧ made = p.made.map (·.2) ∧
      st' = loadedStore registry between p := by
  obtain ⟨_, -, hfail⟩ | ⟨batch, between, hbatch, h⟩ := run_bind_cases h
  · cases hfail
  simp only [run_bind, run_get] at h
  cases hmake : makeBatch between.types registry batch with
  | error e =>
    rw [hmake] at h
    cases h
  | ok p =>
    rw [hmake] at h
    cases h
    exact ⟨batch, between, p, hbatch, hmake, rfl, rfl, rfl⟩

end Loaded

/-- Loading returns a new type for each key of the batch, those in the postorder of the definitions.
That is their own order exactly if each of them stands behind those of its supertypes. -/
theorem loadTypes_order {registry registry' : Registry} {definitions : Value} {made : List Nat}
    {st st' : Store}
    (hd : ∀ entries, definitions.entries? = some entries →
      (entries.filterMap fun e => e.1.key?).Nodup)
    (h : loadTypes registry definitions st = (.ok (registry', made), st')) :
    ∃ entries batch between order, definitions.entries? = some entries ∧
      batchOf definitions st = (.ok batch, between) ∧
      (let keys := entries.filterMap fun e => e.1.key?
      batch.map (·.1) = keys ∧ List.Forall₂ (MadeFor registry' between st') made order ∧
      order.Perm keys ∧ (∃! met, Postorder batch keys met ∧ order = once met) ∧
      AfterSupers batch order ∧ (order = keys ↔ AfterSupers batch keys)) := by
  obtain ⟨batch, between, p, hbatch, hmake, rfl, rfl, rfl⟩ := loadTypes_ok_cases h
  obtain ⟨entries, hentries, hread⟩ := batchOf_ok hbatch
  obtain ⟨hkeys, hnames⟩ := definitionsOf_ok hread
  obtain ⟨hassembled, met, hmet, hmade⟩ := makeBatch_order hnames hmake
  have hnodup := hd entries hentries
  refine ⟨entries, batch, between, p.keys, hentries, hbatch, hkeys, hassembled.madeFor, ?_⟩
  rw [← hkeys] at hnodup ⊢
  refine ⟨hmade ▸ hmet.perm hnodup, ⟨met, ⟨hmet, hmade⟩, fun _ hother => hother.1.unique hmet⟩,
    hassembled.afterSupers, fun heq => heq ▸ hassembled.afterSupers, fun hafter => ?_⟩
  rw [hmade]
  exact hafter.once_eq hnodup (fun _ => isSome_lookup_iff.2) hmet (List.nil_append _).symm

section Forward

/-- A definition that refers to the one behind it. -/
def forward : Entries :=
  [(.str "Article", .dict [(.str "superTypes", .list [.str "Page"] 0)] 0),
    (.str "Page", .dict [] 0)]

theorem makeBatch_forward : makeBatch #[] [] (batchFrom forward) = .ok articlesMade := by
  have hpage : make [] (batchFrom forward) [⟨.str "Article", [.str "Article"]⟩] ⟨#[], []⟩
      (.str "Page") = .ok (pageMade, 0) := by
    rw [make_of_definition rfl rfl rfl (by decide) (by decide) rfl, makeAll]
    rfl
  have harticle : make [] (batchFrom forward) [] ⟨#[], []⟩ (.str "Article") =
      .ok (articlesMade, 1) := by
    rw [make_of_definition rfl rfl rfl (by decide) (by decide) rfl, makeAll, hpage]
    dsimp only
    rw [makeAll]
    rfl
  have hnames : (batchFrom forward).map (fun d => d.2.name.value) =
      [.str "Article", .str "Page"] := rfl
  rw [makeBatch, hnames, makeAll, harticle]
  dsimp only
  rw [makeAll, make_of_find? rfl rfl]
  dsimp only
  rw [makeAll]
  rfl

theorem loadTypes_forward :
    loadTypes [] (.dict forward 0) (.empty default) =
      (.ok (articlesRegistry, [0, 1]), articlesStore) := by
  have hmake : makeBatch (Store.empty default).types [] (batchFrom forward) = .ok articlesMade :=
    makeBatch_forward
  rw [loadTypes_data (by decide), hmake]
  rfl

/-- Both types are returned in the order in which they are met on the way up. -/
theorem loadTypes_order_forward :
    loadTypes [] (.dict forward 0) (.empty default) =
      (.ok (articlesRegistry, [0, 1]), articlesStore) ∧
    ∃ met, Postorder (batchFrom forward) [[.str "Article"], [.str "Page"]] met ∧
      List.Forall₂ (MadeFor articlesRegistry (.empty default) articlesStore) [0, 1] (once met) := by
  have hdistinct : ∀ entries, (Value.dict forward 0).entries? = some entries →
      (entries.filterMap fun e => e.1.key?).Nodup := by
    rintro _ ⟨⟩
    decide
  obtain ⟨entries, batch, between, order, ⟨⟩, hbatch, hkeys, hmade, -, ⟨met, ⟨hmet, rfl⟩, -⟩, -⟩ :=
    loadTypes_order hdistinct loadTypes_forward
  rw [batchOf_data (by decide)] at hbatch
  cases hbatch
  exact ⟨loadTypes_forward, met, hmet, hmade⟩

/-- The page is made first, and so it is returned first, although it is defined behind the
article. -/
theorem page_returned_first :
    loadTypes [] (.dict forward 0) (.empty default) =
      (.ok (articlesRegistry, [0, 1]), articlesStore) ∧
    [0, 1].map (fun id => articlesStore.types[id]?.map fun t => t.name.key) =
      [some [.str "Page"], some [.str "Article"]] ∧
    forward.filterMap (fun e => e.1.key?) = [[.str "Article"], [.str "Page"]] :=
  ⟨loadTypes_forward, rfl, rfl⟩

end Forward

end ContentIndex.Loading
