import ContentIndex.Proofs.Loading.Assembly

/-!
# The order of definitions

A batch in two orders: types are made at different times, with other types made before them and
other names being made. What is made under a name is the same, since it is made of its definition
and of what is made under the names above it. And what could be made in one order can be made in
the other, unless a path of supertypes is too long to be followed; an order that has supertypes
before subtypes never follows one.
-/

namespace ContentIndex.Loading

set_option autoImplicit false

/-- One configuration, in which marks have been given out at two places. -/
def SameButMarks (entries entries' : Entries) : Prop :=
  ∃ unmarked next next', entries = (Value.withMarksEntries unmarked [] next).1 ∧
    entries' = (Value.withMarksEntries unmarked [] next').1

/-- Types of one name in two registries. Their supertypes are, one by one, what one name stands for
in either. -/
structure Alike (registry registry' : Registry) (t t' : NodeType) : Prop where
  name : t.name.key = t'.name.key
  supers : List.Forall₂ (fun super super' => ∃ key, registry.lookup key = some super ∧
    registry'.lookup key = some super') t.supers t'.supers
  configuration : SameButMarks t.configuration t'.configuration
  properties : t.properties = t'.properties

/-- Two loads of a batch with the same outcome: the names of the batch have types that are alike,
and all else is as it was before. -/
structure SameOutcome (definitions : Entries) (before : Registry) (old : Store)
    (registry registry' : Registry) (st st' : Store) : Prop where
  made : ∀ key, Defines definitions key → ∃ id id' t t', registry.lookup key = some id ∧
    registry'.lookup key = some id' ∧ st.types[id]? = some t ∧ st'.types[id']? = some t' ∧
    Alike registry registry' t t'
  kept : ∀ key, ¬ Defines definitions key →
    registry.lookup key = before.lookup key ∧ registry'.lookup key = before.lookup key
  types : ∀ id < old.types.size, st.types[id]? = old.types[id]? ∧ st'.types[id]? = old.types[id]?

/-- A path of supertypes within the batch that is too long to be followed. -/
def Tall (batch : Batch) : Prop :=
  ∃ path : List Key, heightLimit < path.length ∧ path.Nodup ∧
    (∀ key ∈ path, (batch.lookup key).isSome = true) ∧ path.IsChain (Lists batch)

/-- How the loads of a batch in two orders end. -/
inductive InTwoOrders (definitions : Entries) (before : Registry) (old : Store) :
    Except Error (Registry × List Nat) × Store → Except Error (Registry × List Nat) × Store → Prop
  | same {registry registry' : Registry} {made made' : List Nat} {st st' : Store} :
      SameOutcome definitions before old registry registry' st st' →
      InTwoOrders definitions before old (.ok (registry, made), st) (.ok (registry', made'), st')
  | neither {e e' : Error} : InTwoOrders definitions before old (.error e, old) (.error e', old)
  | onlyFirst {loaded : Registry × List Nat} {st : Store} : Tall (batchFrom definitions) →
      InTwoOrders definitions before old (.ok loaded, st) (.error (.fault .tooDeep), old)
  | onlySecond {loaded : Registry × List Nat} {st : Store} : Tall (batchFrom definitions) →
      InTwoOrders definitions before old (.error (.fault .tooDeep), old) (.ok loaded, st)

/-! ## What is made under a name -/

section Unique

variable {registry : Registry} {batch batch' : Batch} {types : Array NodeType} {p q : Progress}
  {key : Key} {i j : Nat} {d : Definition} {t u : NodeType}

/-- Supertypes that are found under one list of names are found under one name each. -/
theorem finds_paired {names : List Value} {is js : List Nat}
    (hi : List.Forall₂ (Finds registry batch p) names is)
    (hj : List.Forall₂ (Finds registry batch' q) names js) :
    List.Forall₂ (fun i j => ∃ key, found registry batch p key = some i ∧
      found registry batch' q key = some j) is js := by
  induction hi generalizing js with
  | nil =>
    cases hj
    exact .nil
  | cons hfind _ ih =>
    cases hj with
    | cons hfind' hrest =>
      obtain ⟨key, hkey, hi⟩ := hfind
      obtain ⟨key', hkey', hj⟩ := hfind'
      rw [hkey] at hkey'
      cases hkey'
      exact .cons ⟨key, hi, hj⟩ (ih hrest)

theorem MadeOf.supers_paired (hm : MadeOf registry batch p d t)
    (hm' : MadeOf registry batch' q d u) :
    List.Forall₂ (fun i j => ∃ key, found registry batch p key = some i ∧
      found registry batch' q key = some j) t.supers u.supers := by
  obtain ⟨names, hnames, hfinds⟩ := hm.supers
  obtain ⟨names', hnames', hfinds'⟩ := hm'.supers
  rw [hnames] at hnames'
  cases hnames'
  exact finds_paired hfinds hfinds'

/-- By induction on the time at which the type was made. -/
theorem configurationOf_unique (hp : Assembled registry batch types p)
    (hq : Assembled registry batch' types q) (hlookup : ∀ key, batch'.lookup key = batch.lookup key)
    (hr : IsRegistry registry types) (hi : found registry batch p key = some i)
    (hj : found registry batch' q key = some j) :
    configurationOf p.types i = configurationOf q.types j := by
  induction i using Nat.strong_induction_on generalizing key j with
  | _ i ih =>
    cases hkey : batch.lookup key with
    | none =>
      rw [found_other hkey] at hi
      rw [found_other ((hlookup key).trans hkey), hi] at hj
      cases hj
      -- the batch does not define it, so it is one type from before
      have hold : i < types.size := hr.lt hi
      exact configurationOf_congr ((hp.kept hold).trans (hq.kept hold).symm)
    | some d =>
      rw [found_defined hkey] at hi
      rw [found_defined ((hlookup key).trans hkey)] at hj
      obtain ⟨t, d₁, -, ht, -, hd₁, hm, hlt⟩ := hp.found_new hr hi
      obtain ⟨u, d₂, -, hu, -, hd₂, hm', -⟩ := hq.found_new hr hj
      rw [hkey] at hd₁
      rw [hlookup key, hkey] at hd₂
      cases hd₁
      cases hd₂
      have hsupers : List.Forall₂ (fun a b =>
          configurationOf p.types a = configurationOf q.types b) t.supers u.supers := by
        have hboth := (List.forall₂_and_left _ _).2 ⟨hlt, hm.supers_paired hm'⟩
        exact hboth.imp fun a b ⟨ha, key', hfa, hfb⟩ => ih a ha hfa hfb
      rw [configurationOf, configurationOf, ht, hu]
      exact hm.configuration_eq.trans
        ((configuration_congr d.entries hsupers).trans hm'.configuration_eq.symm)

/-- The supertypes of a definition give it the same configuration wherever they have been found. -/
theorem configuration_unique (hp : Assembled registry batch types p)
    (hq : Assembled registry batch' types q) (hlookup : ∀ key, batch'.lookup key = batch.lookup key)
    (hr : IsRegistry registry types) {is js : List Nat} (entries : Entries)
    (h : List.Forall₂ (fun i j => ∃ key, found registry batch p key = some i ∧
      found registry batch' q key = some j) is js) :
    configuration p.types is entries = configuration q.types js entries :=
  configuration_congr entries <| h.imp fun _ _ ⟨_, hi, hj⟩ =>
    configurationOf_unique hp hq hlookup hr hi hj

end Unique

/-! ## Making again in another order -/

section Again

variable {registry : Registry} {batch batch' : Batch} {types : Array NodeType} {p q : Progress}
  {active : List Name} {v : Value} {key : Key} {id : Nat}

/-- It succeeds, unless it would have to follow a path that is too long. -/
def OkUnlessTall (batch : Batch) {α : Type} (result : Except Error α) : Prop :=
  (∃ a, result = .ok a) ∨ result = .error (.fault .tooDeep) ∧ Tall batch

/-- The way from the names being made, the innermost first, to a name that they need. All of them
have been made in the other order, and later than what they need. -/
structure Needs (batch : Batch) (p : Progress) (active : List Name) (key : Key) (id : Nat) :
    Prop where
  later : ∀ n ∈ active, ∃ i, p.find? n.key = some i ∧ id < i
  nodup : (Name.keys active).Nodup
  path : (key :: Name.keys active).IsChain fun super sub => Lists batch sub super

theorem Needs.not_mem (h : Needs batch p active key id) (hf : p.find? key = some id) :
    key ∉ Name.keys active := by
  intro hmem
  obtain ⟨n, hn, rfl⟩ := List.mem_map.1 hmem
  obtain ⟨i, hi, hlt⟩ := h.later n hn
  rw [hf] at hi
  cases hi
  exact absurd hlt (Nat.lt_irrefl id)

theorem Needs.next (h : Needs batch p active key id) (hf : p.find? key = some id) {super : Key}
    {i : Nat} (hlists : Lists batch key super) (hi : i < id) :
    Needs batch p (⟨v, key⟩ :: active) super i where
  later := by
    refine List.forall_mem_cons.2 ⟨⟨id, hf, hi⟩, fun n hn => ?_⟩
    obtain ⟨j, hj, hlt⟩ := h.later n hn
    exact ⟨j, hj, hi.trans hlt⟩
  nodup := List.nodup_cons.2 ⟨h.not_mem hf, h.nodup⟩
  path := List.IsChain.cons_cons hlists h.path

theorem Needs.tall (h : Needs batch p active key id) (hp : Assembled registry batch types p)
    (hf : p.find? key = some id) (hlen : heightLimit ≤ active.length) : Tall batch := by
  refine ⟨(key :: Name.keys active).reverse, ?_, ?_, ?_, ?_⟩
  · rw [List.length_reverse, List.length_cons, Name.keys, List.length_map]
    omega
  · exact List.nodup_reverse.2 (List.nodup_cons.2 ⟨h.not_mem hf, h.nodup⟩)
  · intro k hk
    rcases List.mem_cons.1 (List.mem_reverse.1 hk) with rfl | hk
    · exact hp.isSome hf
    · obtain ⟨n, hn, rfl⟩ := List.mem_map.1 hk
      obtain ⟨i, hi, _⟩ := h.later n hn
      exact hp.isSome hi
  · exact List.isChain_reverse.2 h.path

/-- Making a name succeeds from whatever has been made of the batch by then. -/
def MakesAgain (registry : Registry) (batch batch' : Batch) (types : Array NodeType)
    (active : List Name) (v : Value) : Prop :=
  ∀ q, Assembled registry batch' types q → (∀ n ∈ active, q.find? n.key = none) →
    OkUnlessTall batch (make registry batch' active q v)

theorem makeAll_again {names : List Value}
    (hstep : ∀ v ∈ names, MakesAgain registry batch batch' types active v)
    (hq : Assembled registry batch' types q) (hw : ∀ n ∈ active, q.find? n.key = none) :
    OkUnlessTall batch (makeAll registry batch' active q names) := by
  induction names generalizing q with
  | nil =>
    rw [makeAll]
    exact .inl ⟨_, rfl⟩
  | cons v rest ih =>
    obtain ⟨hv, hrest⟩ := List.forall_mem_cons.1 hstep
    rw [makeAll]
    rcases hv q hq hw with ⟨⟨q', id⟩, hmake⟩ | ⟨hmake, htall⟩
    · obtain ⟨hproceeds, _⟩ := make_proceeds active q v q' id hq hw hmake
      rw [hmake]
      dsimp only
      rcases ih hrest hproceeds.assembled hproceeds.waits with ⟨⟨q'', ids⟩, hall⟩ | ⟨hall, htall⟩
      · rw [hall]
        exact .inl ⟨_, rfl⟩
      · rw [hall]
        exact .inr ⟨rfl, htall⟩
    · rw [hmake]
      exact .inr ⟨rfl, htall⟩

/-- A definition that has become a type becomes one again. -/
theorem add_again (hp : Assembled registry batch types p) (hq : Assembled registry batch' types q)
    (hlookup : ∀ key, batch'.lookup key = batch.lookup key) (hr : IsRegistry registry types)
    {d : Definition} {t : NodeType} (hm : MadeOf registry batch p d t) {names : List Value}
    {supers : List Nat}
    (hnames : superNames d.entries = .ok names)
    (hfinds : List.Forall₂ (Finds registry batch' q) names supers) (name : Name) :
    ∃ q' id, q.add name d.entries supers = .ok (q', id) := by
  obtain ⟨names', hnames', hfinds'⟩ := hm.supers
  rw [hnames] at hnames'
  cases hnames'
  have hsame := configuration_unique hp hq hlookup hr d.entries (finds_paired hfinds' hfinds)
  obtain ⟨u, hu, _⟩ := NodeType.make_other hm.made name supers
  rw [hsame] at hu
  rw [Progress.add, hu]
  exact ⟨_, _, rfl⟩

/-- By induction on the time at which the type was made in the other order. -/
theorem make_again (hp : Assembled registry batch types p)
    (hlookup : ∀ key, batch'.lookup key = batch.lookup key) (hr : IsRegistry registry types)
    (hv : v.key? = some key) (hf : found registry batch p key = some id)
    (hneeds : Needs batch p active key id) : MakesAgain registry batch batch' types active v := by
  induction id using Nat.strong_induction_on generalizing active v key with
  | _ id ih =>
    intro q hq hw
    cases hdone : q.find? key with
    | some i => exact .inl ⟨_, make_of_find? hv hdone⟩
    | none =>
      cases hd : batch.lookup key with
      | none =>
        rw [found_other hd] at hf
        exact .inl ⟨_, make_of_lookup hv hdone ((hlookup key).trans hd) hf⟩
      | some d =>
        rw [found_defined hd] at hf
        have hd' : batch'.lookup key = some d := (hlookup key).trans hd
        have hactive := hneeds.not_mem hf
        rcases Nat.lt_or_ge active.length heightLimit with hlen | hlen
        · obtain ⟨t, e, -, -, -, he, hm, hlt⟩ := hp.found_new hr hf
          rw [hd] at he
          cases he
          obtain ⟨names, hnames, hfinds⟩ := hm.supers
          have hwaits : ∀ n ∈ (⟨v, key⟩ : Name) :: active, q.find? n.key = none :=
            List.forall_mem_cons.2 ⟨hdone, hw⟩
          -- its supertypes were made before it in the other order
          have hstep : ∀ w ∈ names,
              MakesAgain registry batch batch' types (⟨v, key⟩ :: active) w := by
            intro w hw
            obtain ⟨super, hsuper, k, hk, hfound⟩ := exists_of_mem_left hfinds hw
            have hi := hlt super hsuper
            exact ih super hi hk hfound (hneeds.next hf ⟨d, names, w, hd, hnames, hw, hk⟩ hi)
          rw [make_of_definition hv hdone hd' hactive hlen hnames]
          rcases makeAll_again hstep hq hwaits with ⟨⟨q', supers⟩, hall⟩ | ⟨hall, htall⟩
          · obtain ⟨hproceeds, hfinds'⟩ :=
              makeAll_proceeds (make_proceeds (⟨v, key⟩ :: active)) hq hwaits hall
            obtain ⟨q'', i, hadd⟩ :=
              add_again hp hproceeds.assembled hlookup hr hm hnames hfinds' ⟨v, key⟩
            rw [hall]
            exact .inl ⟨_, hadd⟩
          · rw [hall]
            exact .inr ⟨rfl, htall⟩
        · rw [make_tooDeep hv hdone hd' hactive hlen]
          exact .inr ⟨rfl, hneeds.tall hp hf hlen⟩

end Again

/-! ## Two orders -/

section TwoOrders

variable {registry : Registry} {batch batch' : Batch} {types : Array NodeType} {p q : Progress}
  {definitions others : Entries} {st : Store}

/-- What has been made as a whole in one order is made in the other. -/
theorem makeBatch_again (hp : Finished registry batch types p)
    (hlookup : ∀ key, (batchFrom others).lookup key = batch.lookup key)
    (hr : IsRegistry registry types) :
    OkUnlessTall batch (makeBatch types registry (batchFrom others)) := by
  have hstep : ∀ v ∈ (batchFrom others).map (fun d => d.2.name.value),
      MakesAgain registry batch (batchFrom others) types [] v := by
    intro v hv
    obtain ⟨⟨key, d⟩, hd, rfl⟩ := List.mem_map.1 hv
    have hin : (batch.lookup key).isSome = true := by
      rw [← hlookup]
      exact List.lookup_isSome_iff.2 ⟨_, hd, beq_self_eq_true _⟩
    obtain ⟨id, hid⟩ := hp.all key hin
    have hfound : found registry batch p key = some id := by rw [found, if_pos hin, hid]
    exact make_again hp.assembled hlookup hr (key?_name hd) hfound
      ⟨List.forall_mem_nil _, List.nodup_nil, List.isChain_singleton key⟩
  rcases makeAll_again hstep .start (List.forall_mem_nil _) with ⟨⟨q, ids⟩, hall⟩ | ⟨hall, htall⟩
  · exact .inl ⟨q, by rw [makeBatch, hall]; rfl⟩
  · exact .inr ⟨by rw [makeBatch, hall]; rfl, htall⟩

theorem Tall.congr (h : Tall batch') (hlookup : ∀ key, batch'.lookup key = batch.lookup key) :
    Tall batch := by
  obtain ⟨path, hlen, hnodup, hin, hpath⟩ := h
  refine ⟨path, hlen, hnodup, fun key hk => hlookup key ▸ hin key hk, hpath.imp ?_⟩
  rintro sub super ⟨d, names, v, hd, hnames, hv, hkey⟩
  exact ⟨d, names, v, hlookup sub ▸ hd, hnames, hv, hkey⟩

/-- Types that have been made under one key in two orders are alike as they stand in the stores. -/
theorem Finished.alike (hp : Finished registry batch st.types p)
    (hq : Finished registry batch' st.types q)
    (hlookup : ∀ key, batch'.lookup key = batch.lookup key) (hr : IsRegistry registry st.types)
    {key : Key} (hin : (batch.lookup key).isSome = true) :
    ∃ id id' t t', (registry.registerAll p.made).lookup key = some id ∧
      (registry.registerAll q.made).lookup key = some id' ∧
      (loadedStore registry st p).types[id]? = some t ∧
      (loadedStore registry st q).types[id']? = some t' ∧
      Alike (registry.registerAll p.made) (registry.registerAll q.made) t t' := by
  obtain ⟨i, hi⟩ := hp.all key hin
  obtain ⟨j, hj⟩ := hq.all key (by rw [hlookup]; exact hin)
  obtain ⟨t, d, hsize, ht, hname, hd, hm, -⟩ := hp.assembled.found_new hr hi
  obtain ⟨u, d', hsize', hu, hname', hd', hm', -⟩ := hq.assembled.found_new hr hj
  rw [hlookup, hd] at hd'
  cases hd'
  have hsupers := hm.supers_paired hm'
  have hsame := configuration_unique hp.assembled hq.assembled hlookup hr d.entries hsupers
  have hconfiguration : t.configuration = u.configuration :=
    hm.configuration_eq.trans (hsame.trans hm'.configuration_eq.symm)
  have hproperties : t.properties = u.properties := by
    obtain ⟨u', hu', hproperties⟩ := NodeType.make_other hm.made u.name u.supers
    rw [hsame, hm'.made] at hu'
    cases hu'
    exact hproperties.symm
  -- and now as they stand in the stores
  obtain ⟨t', ht', hstored⟩ := loadedStore_new registry hsize ht
  obtain ⟨u', hu', hstored'⟩ := loadedStore_new registry hsize' hu
  obtain ⟨next, hnext⟩ := hstored.configuration
  obtain ⟨next', hnext'⟩ := hstored'.configuration
  refine ⟨i, j, t', u', ?_, ?_, ht', hu', ?_, ?_, ?_, ?_⟩
  · rw [hp.assembled.lookup_registerAll, hi]
    rfl
  · rw [hq.assembled.lookup_registerAll, hj]
    rfl
  · rw [hstored.name, hstored'.name, hname, hname']
  · rw [hstored.supers, hstored'.supers]
    exact hsupers.imp fun _ _ ⟨k, hk, hk'⟩ =>
      ⟨k, (hp.lookup k).trans hk, (hq.lookup k).trans hk'⟩
  · exact ⟨t.configuration, next, next', hnext, by rw [hnext', hconfiguration]⟩
  · rw [hstored.properties, hstored'.properties, hproperties]

theorem Finished.sameOutcome (hp : Finished registry (batchFrom definitions) st.types p)
    (hq : Finished registry batch' st.types q)
    (hlookup : ∀ key, batch'.lookup key = (batchFrom definitions).lookup key)
    (hr : IsRegistry registry st.types) :
    SameOutcome definitions registry st (registry.registerAll p.made)
      (registry.registerAll q.made) (loadedStore registry st p) (loadedStore registry st q) where
  made := fun _ hin => hp.alike hq hlookup hr hin
  kept := by
    intro key hout
    rw [hp.lookup, hq.lookup]
    exact ⟨if_neg hout, if_neg (by rw [hlookup]; exact hout)⟩
  types := fun _ hid => ⟨loadedStore_kept hid, loadedStore_kept hid⟩

/-- A batch in two orders: both fail and change nothing, or both succeed and give every name alike
types, unless a path of supertypes within the batch is longer than can be followed. -/
theorem loadTypes_perm (hd : IsBatch definitions) (hperm : definitions.Perm others)
    (hr : IsRegistry registry st.types) (mark mark' : Nat) :
    InTwoOrders definitions registry st (loadTypes registry (.dict definitions mark) st)
      (loadTypes registry (.dict others mark') st) := by
  have hlookup := hd.lookup_perm hperm
  rw [loadTypes_data hd.data, loadTypes_data (hd.perm hperm).data]
  cases hp : makeBatch st.types registry (batchFrom definitions) with
  | ok p =>
    have hfinished := makeBatch_finished hp
    rcases makeBatch_again hfinished hlookup hr with ⟨q, hq⟩ | ⟨hq, htall⟩
    · rw [hq]
      exact .same (hfinished.sameOutcome (makeBatch_finished hq) hlookup hr)
    · rw [hq]
      exact .onlyFirst htall
  | error e =>
    cases hq : makeBatch st.types registry (batchFrom others) with
    | error e' => exact .neither
    | ok q =>
      have hback : ∀ key, (batchFrom definitions).lookup key = (batchFrom others).lookup key :=
        fun key => (hlookup key).symm
      rcases makeBatch_again (makeBatch_finished hq) hback hr with ⟨p, hp'⟩ | ⟨hp', htall⟩
      · rw [hp] at hp'
        cases hp'
      · rw [hp] at hp'
        cases hp'
        exact .onlySecond (htall.congr hlookup)

/-- The definitions of the pages, subtypes first. -/
def pageDefinitions : Entries :=
  [(.str "Page", .dict [(.str "superTypes", .list [.str "Base", .str "Titled"] 0)] 0),
    (.str "Titled", .none)]

theorem isRegistry_baseStore : IsRegistry [([.str "Base"], 0)] baseStore.types := by
  intro key id h
  rw [List.lookup_cons] at h
  split at h
  · rename_i hkey
    cases h
    exact ⟨_, rfl, (eq_of_beq hkey).symm⟩
  · cases h

theorem loadTypes_perm_pages :
    IsBatch pageDefinitions ∧ pageDefinitions.Perm pageDefinitions.reverse ∧
      IsRegistry [([.str "Base"], 0)] baseStore.types ∧
      InTwoOrders pageDefinitions [([.str "Base"], 0)] baseStore
        (loadTypes [([.str "Base"], 0)] (.dict pageDefinitions 0) baseStore)
        (loadTypes [([.str "Base"], 0)] (.dict pageDefinitions.reverse 0) baseStore) := by
  have hbatch : IsBatch pageDefinitions := ⟨by decide, by decide⟩
  have hperm : pageDefinitions.Perm pageDefinitions.reverse := (List.reverse_perm _).symm
  exact ⟨hbatch, hperm, isRegistry_baseStore,
    loadTypes_perm hbatch hperm isRegistry_baseStore 0 0⟩

end TwoOrders

/-! ## Supertypes first -/

section SupersFirst

variable {registry : Registry} {batch : Batch} {graph : Graph} {types : Array NodeType}
  {p : Progress}

/-- Every supertype stands before its subtypes, or is registered. -/
def SupersFirst (registry : Registry) (graph : Graph) : Prop :=
  ∀ before g after, graph = before ++ g :: after → ∀ super ∈ g.2,
    super ∈ before.map (·.1) ∨ graph.lookup super = none ∧ registry.has [.str super] = true

theorem exists_ids {names : List String}
    (h : ∀ name ∈ names, ∃ id, resolve registry graph p name = some id) :
    ∃ ids : List Nat, names.map (resolve registry graph p) = ids.map some := by
  induction names with
  | nil => exact ⟨[], rfl⟩
  | cons name rest ih =>
    obtain ⟨⟨id, hid⟩, hrest⟩ := List.forall_mem_cons.1 h
    obtain ⟨ids, hids⟩ := ih hrest
    exact ⟨id :: ids, by rw [List.map_cons, List.map_cons, hid, hids]⟩

/-- Names that can be found are not gone after. -/
theorem makeAll_found (hreads : List.Forall₂ ReadsAs batch graph)
    (hb : Built registry graph types p) (active : List Name) {names : List String}
    {ids : List Nat} (h : names.map (resolve registry graph p) = ids.map some) :
    makeAll registry batch active p (names.map .str) = .ok (p, ids) := by
  induction names generalizing ids with
  | nil =>
    cases ids with
    | nil => rw [List.map_nil, makeAll]
    | cons => cases h
  | cons name rest ih =>
    cases ids with
    | nil => cases h
    | cons id others =>
      obtain ⟨hid, hrest⟩ := List.cons_eq_cons.1 h
      have hmake : make registry batch active p (.str name) = .ok (p, id) := by
        rw [make_str]
        unfold resolve at hid
        split at hid
        · rw [hid]
        · rename_i hout
          have hp : p.find? [.str name] = none :=
            Option.eq_none_iff_forall_ne_some.2 fun i hi => hout (hb.isSome hi)
          obtain ⟨hnone, -⟩ | ⟨d, names, -, hg, -⟩ := lookup_batch hreads name
          · rw [hp, hnone]
            dsimp only [Registry.get, Value.key?]
            rw [hid]
            rfl
          · exact absurd (by rw [hg]; rfl) hout
      rw [List.map_cons, makeAll, hmake]
      dsimp only
      rw [ih hrest]

/-- A name is made at once when its supertypes can be found. -/
theorem make_ready (hreads : List.Forall₂ ReadsAs batch graph) (hr : Registered registry types)
    (hb : Built registry graph types p) {name : String} {names : List String} {ids : List Nat}
    (hg : graph.lookup name = some names)
    (hids : names.map (resolve registry graph p) = ids.map some) :
    ∃ p' id, make registry batch [] p (.str name) = .ok (p', id) ∧
      Made registry graph types [] p p' ∧ p'.find? [.str name] = some id := by
  cases hp : p.find? [.str name] with
  | some id => exact ⟨p, id, by rw [make_str, hp], .refl hb nofun, hp⟩
  | none =>
    obtain ⟨-, hnone⟩ | ⟨d, names', hd, hg', hsupers, hshape⟩ := lookup_batch hreads name
    · rw [hg] at hnone
      cases hnone
    rw [hg] at hg'
    cases hg'
    have hwaits : ∀ a ∈ [name], p.find? [.str a] = none := List.forall_mem_singleton.2 hp
    obtain ⟨p', id, hadd, hmade, hid⟩ :=
      add_outcome hr hg hshape hb hwaits List.not_mem_nil hids
    refine ⟨p', id, ?_, hmade, ?_⟩
    · rw [make_of_definition rfl hp hd List.not_mem_nil (by decide) hsupers,
        makeAll_found hreads hb _ hids]
      exact hadd
    · rwa [resolve, if_pos (by rw [hg]; rfl)] at hid

/-- Making goes through the batch once. -/
theorem makeAll_first (hreads : List.Forall₂ ReadsAs batch graph) (hr : Registered registry types)
    (hnodup : (graph.map (·.1)).Nodup) (hfirst : SupersFirst registry graph)
    {before after : Graph} (hgraph : graph = before ++ after)
    (hb : Built registry graph types p)
    (hbefore : ∀ name ∈ before.map (·.1), ∃ id, p.find? [.str name] = some id) :
    ∃ p' ids, makeAll registry batch [] p (after.map fun g => .str g.1) = .ok (p', ids) := by
  induction after generalizing before p with
  | nil =>
    rw [List.map_nil, makeAll]
    exact ⟨_, _, rfl⟩
  | cons g after ih =>
    obtain ⟨name, names⟩ := g
    have hg : graph.lookup name = some names :=
      (lookup_eq_some_iff hnodup).2 (hgraph ▸ List.mem_append_right _ List.mem_cons_self)
    have hsupers : ∀ super ∈ names, ∃ id, resolve registry graph p super = some id := by
      intro super hsuper
      rcases hfirst before _ after hgraph super hsuper with hin | ⟨hout, hhas⟩
      · obtain ⟨id, hid⟩ := hbefore super hin
        exact ⟨id, by rw [resolve, if_pos (hb.isSome hid), hid]⟩
      · obtain ⟨id, hid⟩ := Option.isSome_iff_exists.1 hhas
        exact ⟨id, by rw [resolve, if_neg (by simp [hout]), hid]⟩
    obtain ⟨ids, hids⟩ := exists_ids hsupers
    obtain ⟨p₁, id, hmake, hmade, hid⟩ := make_ready hreads hr hb hg hids
    have hmore : ∀ n ∈ (before ++ [(name, names)]).map (·.1), ∃ id, p₁.find? [.str n] = some id := by
      intro n hn
      rw [List.map_append, List.mem_append] at hn
      rcases hn with hn | hn
      · obtain ⟨i, hi⟩ := hbefore n hn
        exact ⟨i, hmade.keeps _ _ hi⟩
      · cases List.mem_singleton.1 hn
        exact ⟨id, hid⟩
    obtain ⟨p₂, others, hall⟩ := ih (by rw [hgraph, List.append_assoc]; rfl) hmade.built hmore
    rw [List.map_cons, makeAll, hmake]
    dsimp only
    rw [hall]
    exact ⟨_, _, rfl⟩

/-- A batch that has supertypes before subtypes is loaded, however high it is. -/
theorem loadTypes_first {definitions : Value} (hg : graphOf? definitions = some graph) {st : Store}
    (hr : Registered registry st.types) (hnodup : (graph.map (·.1)).Nodup)
    (hfirst : SupersFirst registry graph) :
    ∃ loaded, (loadTypes registry definitions st).1 = .ok loaded := by
  obtain ⟨batch, hreads, hrun⟩ := loadTypes_run registry hg st
  obtain ⟨p, ids, hall⟩ :=
    makeAll_first hreads hr hnodup hfirst (List.nil_append graph).symm .start nofun
  have hmake : makeBatch st.types registry batch = .ok p := by
    rw [makeBatch, names_batch hreads, hall]
    rfl
  rw [hrun, hmake]
  exact ⟨_, rfl⟩

end SupersFirst

/-! ## A chain in two orders -/

section Chain

/-- The definitions of a chain, subtypes first. -/
def chainDefinitions (n : Nat) : Entries :=
  (List.range n).map fun k => (.str (link k), .dict
    (if k + 1 < n then [(.str "superTypes", .list [.str (link (k + 1))] 0)] else []) 0)

theorem isBatch_chainDefinitions (n : Nat) : IsBatch (chainDefinitions n) where
  data := by
    intro e he
    obtain ⟨k, _, rfl⟩ := List.mem_map.1 he
    dsimp only
    split <;> rfl
  distinct := by
    have hkeys : (chainDefinitions n).filterMap (fun e => e.1.key?) =
        (List.range n).map fun k => [.str (link k)] := by
      rw [chainDefinitions, List.filterMap_map, ← List.filterMap_eq_map]
      rfl
    rw [hkeys]
    refine List.nodup_range.map fun i j h => ?_
    cases h' : link_injective (by simpa using h)
    rfl

theorem mapM_reverse {α β : Type} {f : α → Option β} {as : List α} {bs : List β}
    (h : as.mapM f = some bs) : as.reverse.mapM f = some bs.reverse := by
  induction as generalizing bs with
  | nil =>
    cases h
    rfl
  | cons a rest ih =>
    simp only [List.mapM_cons, bind, Option.bind_eq_some_iff] at h
    obtain ⟨b, hb, others, hothers, hbs⟩ := h
    cases hbs
    rw [List.reverse_cons, List.mapM_append, ih hothers, List.mapM_cons, hb]
    simp

theorem graphOf?_reverse {definitions : Entries} {mark : Nat} {graph : Graph}
    (h : graphOf? (.dict definitions mark) = some graph) :
    graphOf? (.dict definitions.reverse mark) = some graph.reverse :=
  mapM_reverse h

theorem nodup_chainGraph (n : Nat) : ((chainGraph n).map (·.1)).Nodup := by
  rw [chainGraph, List.map_map]
  exact List.nodup_range.map link_injective

theorem supersFirst_reverse (registry : Registry) (n : Nat) :
    SupersFirst registry (chainGraph n).reverse := by
  intro before g after hgraph super hsuper
  have hchain : chainGraph n = after.reverse ++ g :: before.reverse := by
    rw [← List.reverse_reverse (chainGraph n), hgraph]
    simp
  obtain ⟨ks, ls, hrange, _, hls⟩ := List.map_eq_append_iff.1 hchain
  cases ls with
  | nil => cases hls
  | cons k ls =>
    obtain ⟨rfl, hbefore⟩ := List.cons_eq_cons.1 hls
    dsimp only at hsuper
    split at hsuper
    · rename_i hk
      obtain rfl := List.mem_singleton.1 hsuper
      -- the number after `k` comes after it
      have hmem : k + 1 ∈ ks ++ k :: ls := hrange ▸ List.mem_range.2 hk
      have hsorted : (ks ++ k :: ls).Pairwise (· < ·) := hrange ▸ List.pairwise_lt_range
      have hlt : ∀ i ∈ ks, i < k := fun i hi =>
        (List.pairwise_append.1 hsorted).2.2 i hi k List.mem_cons_self
      rcases List.mem_append.1 hmem with hks | hls
      · exact absurd (hlt _ hks) (by omega)
      · rcases List.mem_cons.1 hls with heq | hls
        · omega
        · refine .inl ?_
          rw [← List.mem_reverse, ← List.map_reverse, ← hbefore, List.map_map]
          exact List.mem_map.2 ⟨k + 1, hls, rfl⟩
    · cases hsuper

/-- A long chain can be loaded from its end, but not from its start. -/
theorem chain_loaded_reversed :
    IsBatch (chainDefinitions 600) ∧
      (chainDefinitions 600).Perm (chainDefinitions 600).reverse ∧
      loadTypes [] (.dict (chainDefinitions 600) 0) (.empty default) =
        (.error (.fault .tooDeep), .empty default) ∧
      ∃ loaded, (loadTypes [] (.dict (chainDefinitions 600).reverse 0) (.empty default)).1 =
        .ok loaded := by
  refine ⟨isBatch_chainDefinitions 600, (List.reverse_perm _).symm, ?_, ?_⟩
  · exact loadTypes_chain (by decide) [] (.empty default)
  · refine loadTypes_first (graphOf?_reverse (graphOf?_chain 600)) nofun ?_
      (supersFirst_reverse [] 600)
    rw [List.map_reverse]
    exact List.nodup_reverse.2 (nodup_chainGraph 600)

end Chain

end ContentIndex.Loading
