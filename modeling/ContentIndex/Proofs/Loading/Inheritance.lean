import ContentIndex.Proofs.Loading.Assembly
import ContentIndex.Proofs.Loading.Merging

/-!
# What types inherit

A type has the configurations of its supertypes, the later ones over the earlier ones, with its own
definition on top. Where the configurations that meet hold dictionaries at the same paths, every
leaf is that of the definition or of the last supertype that has it, and the properties stand in the
order in which they are first met.
-/

namespace ContentIndex

set_option autoImplicit false

/-- Names of the properties that a configuration has. -/
def propertyNames (configuration : Entries) : List Value :=
  Entries.names (Value.sectionOf (Entries.findText? configuration "properties"))

/-- A type has rules for just the properties of its configuration. -/
def NodeType.IsRuled (t : NodeType) : Prop :=
  t.properties.map (·.1) = propertyNames t.configuration

theorem NodeType.names_rulesOf {entries : Entries} {rules : List (Value × Rule)}
    (h : NodeType.rulesOf entries = .ok rules) : rules.map (·.1) = Entries.names entries := by
  induction entries generalizing rules with
  | nil =>
    cases h
    rfl
  | cons e rest ih =>
    obtain ⟨name, definition⟩ := e
    simp only [NodeType.rulesOf, bind, Except.bind] at h
    split at h
    · cases h
    · split at h
      · cases h
      · rename_i others hothers
        cases h
        rw [List.map_cons, ih hothers]
        rfl

theorem NodeType.isRuled_make {name : Name} {supers : List Nat} {configuration : Entries}
    {t : NodeType} (h : NodeType.make name supers configuration = .ok t)
    (hproperties : ∀ v, Entries.findText? configuration "properties" = some v → v.isDict = true) :
    t.IsRuled := by
  have hsection : Rule.section? (Entries.findText? configuration "properties") =
      .ok (Value.sectionOf (Entries.findText? configuration "properties")) := by
    apply Rule.section?_eq
    intro w hw
    obtain ⟨entries, mark, rfl⟩ := Value.exists_dict (hproperties w hw)
    rfl
  simp only [NodeType.make, hsection, bind, Except.bind] at h
  split at h
  · cases h
  · rename_i rules hrules
    cases h
    exact NodeType.names_rulesOf hrules

namespace Loading

def abstractKey : Key :=
  [.str "abstract"]

/-- The configurations that go into the types of a batch: what the definitions add of their own, and
the registered supertypes. -/
inductive Source (registry : Registry) (batch : Batch) (types : Array NodeType) : Entries → Prop
  | own {key : Key} {d : Definition} : batch.lookup key = some d →
      Source registry batch types (ownPart d.entries)
  | registered {sub super : Key} {id : Nat} : Lists batch sub super →
      batch.lookup super = none → registry.lookup super = some id →
      Source registry batch types (configurationOf types id)

/-- Configurations whose properties are a dictionary wherever they are there, and of which none
holds a dictionary where another one holds something else; whether they are abstract does not
matter. -/
structure Consistent (sources : Entries → Prop) : Prop where
  distinct : ∀ c, sources c → (Value.dict c 0).AllDistinct
  agree : ∀ c c' path, sources c → sources c' → path.head? ≠ some abstractKey →
    (Value.dict c 0).AgreeAt (.dict c' 0) path
  properties : ∀ c v, sources c → Entries.findText? c "properties" = some v → v.isDict = true

/-- A configuration that holds a dictionary, or something else, where one of the sources does. -/
structure Composed (sources : Entries → Prop) (c : Entries) : Prop where
  distinct : (Value.dict c 0).AllDistinct
  kinds : ∀ key path w, key ≠ abstractKey → (Value.dict c 0).at? (key :: path) = some w →
    ∃ s x, sources s ∧ (Value.dict s 0).at? (key :: path) = some x ∧ x.isDict = w.isDict
  properties : ∀ v, Entries.findText? c "properties" = some v → v.isDict = true

/-! ## Composed configurations -/

section Composed

variable {sources : Entries → Prop} {c c' : Entries} {path : List Key} {types : Array NodeType}
  {ids : List Nat}

theorem Composed.of_source (hs : Consistent sources) (h : sources c) : Composed sources c where
  distinct := hs.distinct c h
  kinds := fun _ _ w _ hw => ⟨c, w, h, hw, rfl⟩
  properties := fun v hv => hs.properties c v h hv

theorem Composed.agree (hs : Consistent sources) (h : Composed sources c)
    (h' : Composed sources c') (hpath : path.head? ≠ some abstractKey) :
    (Value.dict c 0).AgreeAt (.dict c' 0) path := by
  intro a b ha hb
  cases path with
  | nil =>
    rw [Value.at?_nil] at ha hb
    cases ha
    cases hb
    rfl
  | cons key path =>
    have hkey : key ≠ abstractKey := fun heq => hpath (by rw [heq]; rfl)
    obtain ⟨s, x, hsource, hx, hkind⟩ := h.kinds key path a hkey ha
    obtain ⟨s', x', hsource', hx', hkind'⟩ := h'.kinds key path b hkey hb
    rw [← hkind, ← hkind']
    exact hs.agree s s' (key :: path) hsource hsource' hpath x x' hx hx'

theorem Composed.nil : Composed sources [] where
  distinct := by
    intro path es m h
    cases path with
    | nil =>
      rw [Value.at?_nil] at h
      cases h
      exact List.nodup_nil
    | cons => cases h
  kinds := nofun
  properties := nofun

theorem merge_eq (c c' : Entries) : Value.mergeValue (some (.dict c 0)) (.dict c' 0) =
    .dict (Value.mergeEntries c c') 0 := rfl

theorem Composed.merge (h : Composed sources c) (h' : Composed sources c') :
    Composed sources (Value.mergeEntries c c') where
  distinct := by
    rw [← merge_eq]
    refine h'.distinct.mergeValue fun a ha => ?_
    cases ha
    exact h.distinct
  kinds := by
    intro key path w hkey hw
    rw [← merge_eq] at hw
    rcases Value.at?_mergeValue h'.distinct hw with hw | ⟨a, ha, hw | ⟨_, _, _, _, _, hw, heq⟩⟩
    · exact h'.kinds key path w hkey hw
    · cases ha
      exact h.kinds key path w hkey hw
    · obtain ⟨s, x, hsource, hx, hkind⟩ := h'.kinds key path _ hkey hw
      exact ⟨s, x, hsource, hx, hkind.trans (by rw [heq]; rfl)⟩
  properties := by
    intro v hv
    rw [Entries.findText?, Entries.find?_merge (h'.distinct [] _ _ (Value.at?_nil _))] at hv
    cases hf : Entries.find? c' [.str "properties"] with
    | none =>
      rw [hf] at hv
      exact h.properties v hv
    | some w =>
      rw [hf] at hv
      cases hv
      obtain ⟨es, m, rfl⟩ := Value.exists_dict (h'.properties w hf)
      rw [Value.mergeValue]
      split <;> rfl

theorem find?_setAbstract {key : Key} (hkey : key ≠ abstractKey) (c : Entries) (v : Value) :
    Entries.find? (Entries.insertText c "abstract" v) key = Entries.find? c key := by
  have hne : some abstractKey ≠ some key := fun heq => hkey (Option.some.inj heq).symm
  exact Entries.find?_insert_of_ne (k := .str "abstract") hne c v

theorem Composed.setAbstract (h : Composed sources c) (b : Bool) :
    Composed sources (Entries.insertText c "abstract" (.bool b)) where
  distinct := by
    intro path es m hpath
    cases path with
    | nil =>
      rw [Value.at?_nil] at hpath
      cases hpath
      exact (h.distinct [] _ _ (Value.at?_nil _)).insert _ _
    | cons key path =>
      by_cases hkey : key = abstractKey
      · have hbool : Entries.find? (Entries.insertText c "abstract" (.bool b)) key =
            some (.bool b) := Entries.find?_insert_self (by rw [hkey]; rfl) c _
        rw [Value.at?_dict, hbool] at hpath
        cases path <;> cases hpath
      · rw [Value.at?_dict, find?_setAbstract hkey, ← Value.at?_dict c 0] at hpath
        exact h.distinct _ es m hpath
  kinds := by
    intro key path w hkey hw
    rw [Value.at?_dict, find?_setAbstract hkey, ← Value.at?_dict c 0] at hw
    exact h.kinds key path w hkey hw
  properties := by
    intro v hv
    rw [Entries.findText?, find?_setAbstract (by decide)] at hv
    exact h.properties v hv

/-! ### Leaves -/

theorem Composed.leaf?_merge (hs : Consistent sources) (h : Composed sources c)
    (h' : Composed sources c') (hpath : path.head? ≠ some abstractKey) :
    (Value.dict (Value.mergeEntries c c') 0).leaf? path =
      ((Value.dict c' 0).leaf? path).or ((Value.dict c 0).leaf? path) := by
  rw [← merge_eq, Value.leaf?_mergeValue h'.distinct]
  · rfl
  · intro a ha q hq
    cases ha
    refine h.agree hs h' fun hhead => hpath ?_
    obtain ⟨rest, rfl⟩ := hq
    rw [List.head?_append, hhead]
    rfl

theorem leaf?_setAbstract (hpath : path.head? ≠ some abstractKey) (c : Entries) (v : Value) :
    (Value.dict (Entries.insertText c "abstract" v) 0).leaf? path =
      (Value.dict c 0).leaf? path := by
  cases path with
  | nil => rfl
  | cons key path =>
    have hkey : key ≠ abstractKey := fun heq => hpath (by rw [heq]; rfl)
    rw [Value.leaf?_dict, Value.leaf?_dict, find?_setAbstract hkey]

theorem inherited_concat (types : Array NodeType) (ids : List Nat) (id : Nat) :
    inherited types (ids ++ [id]) =
      Value.mergeEntries (inherited types ids) (configurationOf types id) :=
  List.foldl_append

theorem Composed.inherited (h : ∀ id ∈ ids, Composed sources (configurationOf types id)) :
    Composed sources (inherited types ids) := by
  induction ids using List.reverseRecOn with
  | nil => exact .nil
  | append_singleton ids id ih =>
    rw [inherited_concat]
    obtain ⟨hids, hid⟩ := List.forall_mem_append.1 h
    exact (ih hids).merge (hid id List.mem_cons_self)

/-- The last supertype that has a leaf passes it on. -/
theorem leaf?_inherited (hs : Consistent sources)
    (h : ∀ id ∈ ids, Composed sources (configurationOf types id))
    (hpath : path.head? ≠ some abstractKey) :
    (Value.dict (inherited types ids) 0).leaf? path =
      ids.reverse.findSome? fun id => (Value.dict (configurationOf types id) 0).leaf? path := by
  induction ids using List.reverseRecOn with
  | nil => cases path <;> rfl
  | append_singleton ids id ih =>
    obtain ⟨hids, hid⟩ := List.forall_mem_append.1 h
    rw [inherited_concat,
      (Composed.inherited hids).leaf?_merge hs (hid id List.mem_cons_self) hpath, ih hids,
      List.reverse_append, List.reverse_singleton, List.singleton_append, List.findSome?_cons]
    cases (Value.dict (configurationOf types id) 0).leaf? path <;> rfl

/-! ### Properties -/

theorem Composed.section_distinct (h : Composed sources c) :
    Entries.Distinct (Value.sectionOf (Entries.findText? c "properties")) := by
  cases hf : Entries.findText? c "properties" with
  | none => exact List.nodup_nil
  | some v =>
    obtain ⟨es, m, rfl⟩ := Value.exists_dict (h.properties v hf)
    refine h.distinct [[.str "properties"]] es m ?_
    have hfind : Entries.find? c [.str "properties"] = some (.dict es m) := hf
    rw [Value.at?_dict, hfind]
    exact Value.at?_nil _

theorem Composed.propertyNames_merge (h : Composed sources c) (h' : Composed sources c') :
    propertyNames (Value.mergeEntries c c') =
      firsts Value.key? (propertyNames c ++ propertyNames c') := by
  have hdistinct := h.section_distinct
  have hdistinct' := h'.section_distinct
  have hmerge := Entries.find?_merge (h'.distinct [] _ _ (Value.at?_nil _)) c [.str "properties"]
  simp only [propertyNames, Entries.findText?] at hdistinct hdistinct' ⊢
  rw [hmerge]
  cases hf' : Entries.find? c' [.str "properties"] with
  | none =>
    have hnone : Entries.names (Value.sectionOf none) = [] := rfl
    rw [hnone, List.append_nil, firsts_of_nodup hdistinct]
  | some v' =>
    obtain ⟨override, m', rfl⟩ := Value.exists_dict (h'.properties v' hf')
    rw [hf'] at hdistinct'
    cases hf : Entries.find? c [.str "properties"] with
    | none =>
      have hnone : Entries.names (Value.sectionOf none) = [] := rfl
      dsimp only
      rw [hnone, List.nil_append, Value.mergeValue_none, firsts_of_nodup hdistinct']
    | some v =>
      obtain ⟨base, m, rfl⟩ := Value.exists_dict (h.properties v hf)
      rw [hf] at hdistinct
      exact hdistinct.names_merge override

theorem propertyNames_setAbstract (c : Entries) (v : Value) :
    propertyNames (Entries.insertText c "abstract" v) = propertyNames c := by
  rw [propertyNames, Entries.findText?, find?_setAbstract (by decide)]
  rfl

theorem propertyNames_inherited (h : ∀ id ∈ ids, Composed sources (configurationOf types id)) :
    propertyNames (inherited types ids) =
      firsts Value.key? (ids.map fun id => propertyNames (configurationOf types id)).flatten := by
  induction ids using List.reverseRecOn with
  | nil => rfl
  | append_singleton ids id ih =>
    obtain ⟨hids, hid⟩ := List.forall_mem_append.1 h
    rw [inherited_concat,
      (Composed.inherited hids).propertyNames_merge (hid id List.mem_cons_self), ih hids,
      List.map_append, List.flatten_append, List.map_singleton, List.flatten_singleton]
    exact firsts_append_congr (firsts_firsts _ _) rfl

end Composed

/-! ## Types that have been made -/

section Made

variable {registry : Registry} {batch : Batch} {types : Array NodeType} {p : Progress}
  {key : Key} {id : Nat} {d : Definition} {t : NodeType}

/-- Every type of a batch, and every registered supertype, has a composed configuration. By
induction on the time at which the type was made. -/
theorem Assembled.composed (h : Assembled registry batch types p)
    (hs : Consistent (Source registry batch types)) (hr : IsRegistry registry types)
    (hf : found registry batch p key = some id)
    (hlisted : (batch.lookup key).isSome = true ∨ ∃ sub, Lists batch sub key) :
    Composed (Source registry batch types) (configurationOf p.types id) := by
  induction id using Nat.strong_induction_on generalizing key with
  | _ id ih =>
    unfold found at hf
    split at hf
    · obtain ⟨t, d, -, ht, -, hd, hm, hlt⟩ := h.found_new hr hf
      have hsupers : ∀ super ∈ t.supers,
          Composed (Source registry batch types) (configurationOf p.types super) := by
        intro super hsuper
        obtain ⟨k, hlists, hfound⟩ := hm.exists_listed hd hsuper
        exact ih super (hlt super hsuper) hfound (.inr ⟨key, hlists⟩)
      have hown : Composed (Source registry batch types) (ownPart d.entries) :=
        .of_source hs (.own hd)
      rw [configurationOf, ht, Option.map_some, Option.getD_some, hm.configuration_eq]
      exact ((Composed.inherited hsupers).merge hown).setAbstract _
    · rename_i hout
      have hold : id < types.size := hr.lt hf
      rw [configurationOf_congr (h.kept hold)]
      obtain ⟨sub, hsub⟩ := hlisted.resolve_left hout
      exact .of_source hs (.registered hsub (Option.not_isSome_iff_eq_none.1 hout) hf)

theorem MadeOf.composed_supers (hm : MadeOf registry batch p d t)
    (h : Assembled registry batch types p) (hs : Consistent (Source registry batch types))
    (hr : IsRegistry registry types) (hd : batch.lookup key = some d) :
    ∀ super ∈ t.supers,
      Composed (Source registry batch types) (configurationOf p.types super) := by
  intro super hsuper
  obtain ⟨k, hlists, hfound⟩ := hm.exists_listed hd hsuper
  exact h.composed hs hr hfound (.inr ⟨key, hlists⟩)

end Made

/-! ## Types that have been loaded -/

def propertyNamesOf (types : Array NodeType) (id : Nat) : List Value :=
  (types[id]?.map fun t => t.properties.map (·.1)).getD []

/-- A type with what its definition gives it and what it inherits. The configurations are those
before marks were given out to new types. -/
structure Derived (registry : Registry) (types : Array NodeType) (configurations : Nat → Entries)
    (d : Definition) (id : Nat) (t : NodeType) : Prop where
  supers : ∃ names, superNames d.entries = .ok names ∧
    List.Forall₂ (fun name super => ∃ key, name.key? = some key ∧
      registry.lookup key = some super) names t.supers
  properties : t.properties.map (·.1) = firsts Value.key?
    ((t.supers.map (propertyNamesOf types)).flatten ++ propertyNames d.entries)
  leaves : ∀ path, path.head? ≠ some abstractKey → path.head? ≠ some [.str "superTypes"] →
    (Value.dict (configurations id) 0).leaf? path =
      ((Value.dict d.entries 0).leaf? path).or
        (t.supers.reverse.findSome? fun super =>
          (Value.dict (configurations super) 0).leaf? path)
  isAbstract : Entries.findText? t.configuration "abstract" =
    some (.bool (((Entries.findText? d.entries "abstract").map Value.truth).getD false))

section Loaded

variable {registry registry' : Registry} {definitions : Entries} {batch : Batch}
  {st st' : Store} {p : Progress} {key : Key} {id mark : Nat} {made : List Nat} {d : Definition}
  {t : NodeType}

theorem findText?_ownPart {name : String} (h : name ≠ "superTypes") (definition : Entries) :
    Entries.findText? (ownPart definition) name = Entries.findText? definition name := by
  have hne : ([.str name] : Key) ≠ [.str "superTypes"] := by simpa using h
  exact Entries.find?_erase_of_ne hne definition

theorem leaf?_ownPart {path : List Key} (h : path.head? ≠ some [.str "superTypes"])
    (definition : Entries) :
    (Value.dict (ownPart definition) 0).leaf? path = (Value.dict definition 0).leaf? path := by
  cases path with
  | nil => rfl
  | cons key path =>
    have hne : key ≠ [.str "superTypes"] := fun heq => h (by rw [heq]; rfl)
    have hfind : Entries.find? (ownPart definition) key = Entries.find? definition key :=
      Entries.find?_erase_of_ne hne definition
    rw [Value.leaf?_dict, Value.leaf?_dict, hfind]

theorem MadeOf.isRuled (hm : MadeOf registry batch p d t)
    (h : Assembled registry batch st.types p)
    (hs : Consistent (Source registry batch st.types)) (hr : IsRegistry registry st.types)
    (hd : batch.lookup key = some d) : t.IsRuled := by
  have hsupers := hm.composed_supers h hs hr hd
  have hown := Composed.of_source hs (.own hd)
  refine NodeType.isRuled_make hm.made fun v hv => ?_
  exact (((Composed.inherited hsupers).merge hown).setAbstract _).properties v hv

/-- The properties of a supertype in the new store are those of the configuration that it passes
on. -/
theorem propertyNamesOf_found (h : Assembled registry batch st.types p)
    (hs : Consistent (Source registry batch st.types)) (hr : IsRegistry registry st.types)
    (hruled : ∀ key id t, registry.lookup key = some id → st.types[id]? = some t → t.IsRuled)
    (hf : found registry batch p key = some id) :
    propertyNamesOf (loadedStore registry st p).types id =
      propertyNames (configurationOf p.types id) := by
  unfold found at hf
  split at hf
  · obtain ⟨t, d, hsize, ht, -, hd, hm, -⟩ := h.found_new hr hf
    obtain ⟨t', ht', hstored⟩ := loadedStore_new registry hsize ht
    rw [propertyNamesOf, ht', Option.map_some, Option.getD_some, hstored.properties, configurationOf,
      ht]
    exact hm.isRuled h hs hr hd
  · obtain ⟨t, ht, -⟩ := hr key id hf
    have hid := hr.lt hf
    rw [propertyNamesOf, loadedStore_kept hid, configurationOf, h.kept hid, ht]
    exact hruled key id t hf ht

theorem MadeOf.derived (hm : MadeOf registry batch p d t)
    (hf : Finished registry batch st.types p)
    (hs : Consistent (Source registry batch st.types)) (hr : IsRegistry registry st.types)
    (hruled : ∀ key id t, registry.lookup key = some id → st.types[id]? = some t → t.IsRuled)
    (hd : batch.lookup key = some d) (ht : p.types[id]? = some t) {t' : NodeType}
    (hstored : StoredAs t t') :
    Derived (registry.registerAll p.made) (loadedStore registry st p).types
      (configurationOf p.types) d id t' := by
  have h := hf.assembled
  have hsupers := hm.composed_supers h hs hr hd
  have hown := Composed.of_source hs (.own hd)
  have hinherited := Composed.inherited hsupers
  have hconfiguration : configurationOf p.types id = configuration p.types t.supers d.entries := by
    rw [configurationOf, ht]
    exact hm.configuration_eq
  refine ⟨?_, ?_, ?_, ?_⟩
  · obtain ⟨names, hnames, hfinds⟩ := hm.supers
    rw [hstored.supers]
    refine ⟨names, hnames, hfinds.imp ?_⟩
    rintro _ _ ⟨key, hkey, hfound⟩
    exact ⟨key, hkey, (hf.lookup key).trans hfound⟩
  · -- the properties of the supertypes as they stand in the store
    have hproperties : t.supers.map (propertyNamesOf (loadedStore registry st p).types) =
        t.supers.map fun super => propertyNames (configurationOf p.types super) := by
      refine List.map_congr_left fun super hsuper => ?_
      obtain ⟨name, -, hfound⟩ := hm.exists_listed hd hsuper
      exact propertyNamesOf_found h hs hr hruled hfound
    have hownNames : propertyNames (ownPart d.entries) = propertyNames d.entries := by
      rw [propertyNames, findText?_ownPart (by decide)]
      rfl
    calc t'.properties.map (·.1) = propertyNames t.configuration := by
          rw [hstored.properties]
          exact hm.isRuled h hs hr hd
      _ = firsts Value.key?
          (propertyNames (inherited p.types t.supers) ++ propertyNames d.entries) := by
          rw [hm.configuration_eq, configuration, propertyNames_setAbstract,
            hinherited.propertyNames_merge hown, hownNames]
      _ = _ := by
          rw [propertyNames_inherited hsupers, hstored.supers, hproperties]
          exact firsts_append_congr (firsts_firsts _ _) rfl
  · intro path hpath hpath'
    rw [hconfiguration, configuration, leaf?_setAbstract hpath,
      hinherited.leaf?_merge hs hown hpath, leaf?_ownPart hpath', leaf?_inherited hs hsupers hpath,
      hstored.supers]
  · obtain ⟨next, hnext⟩ := hstored.configuration
    obtain ⟨m, hm'⟩ := Entries.findText?_withMarks t.configuration "abstract" next
    have hbool : Entries.findText? t.configuration "abstract" =
        some (.bool (isAbstract (ownPart d.entries))) := by
      rw [hm.configuration_eq]
      exact Entries.find?_insert_self rfl _ _
    rw [hnext, hm', hbool, isAbstract, findText?_ownPart (by decide)]
    rfl

/-- Where the configurations that meet are consistent, every type of a batch that has been loaded
has the properties of its supertypes and its own, in the order in which they are first met; the
leaves of its definition, and otherwise those of the last supertype that has them; and its own word
on whether it is abstract. -/
theorem loadTypes_derived (hb : IsBatch definitions) (hr : IsRegistry registry st.types)
    (hs : Consistent (Source registry (batchFrom definitions) st.types))
    (hruled : ∀ key id t, registry.lookup key = some id → st.types[id]? = some t → t.IsRuled)
    (hload : loadTypes registry (.dict definitions mark) st = (.ok (registry', made), st')) :
    ∃ configurations : Nat → Entries,
      (∀ id < st.types.size, configurations id = configurationOf st.types id) ∧
      (∀ id t, st.types.size ≤ id → st'.types[id]? = some t →
        ∃ next, t.configuration = (Value.withMarksEntries (configurations id) [] next).1) ∧
      ∀ key d, (batchFrom definitions).lookup key = some d → ∃ id t,
        registry'.lookup key = some id ∧ st.types.size ≤ id ∧ st'.types[id]? = some t ∧
        Derived registry' st'.types configurations d id t := by
  obtain ⟨p, hf, rfl, rfl⟩ := loadTypes_ok hb.data hload
  have h := hf.assembled
  refine ⟨configurationOf p.types, fun id hid => ?_, fun id t hid ht => ?_, fun key d hd => ?_⟩
  · exact configurationOf_congr (h.kept hid)
  · obtain ⟨u, hu, hstored⟩ := h.stored_new hid ht
    rw [configurationOf, hu]
    exact hstored.configuration
  · obtain ⟨id, hid⟩ := hf.all key (by rw [hd]; rfl)
    obtain ⟨t, d', hsize, ht, -, hd', hm, -⟩ := h.found_new hr hid
    rw [hd] at hd'
    cases hd'
    obtain ⟨t', ht', hstored⟩ := loadedStore_new registry hsize ht
    refine ⟨id, t', ?_, hsize, ht', hm.derived hf hs hr hruled hd ht hstored⟩
    rw [h.lookup_registerAll, hid]
    rfl

end Loaded

/-! ## Rules after a load -/

section Rules

variable {registry registry' : Registry} {definitions : Entries} {st st' : Store} {mark : Nat}
  {made : List Nat}

theorem names_withMarks {entries : Entries} (next : Nat)
    (h : ∀ k ∈ Entries.names entries, ∃ s, k = .str s) :
    Entries.names (Value.withMarksEntries entries [] next).1 = Entries.names entries := by
  induction entries generalizing next with
  | nil => rfl
  | cons e rest ih =>
    obtain ⟨k, v⟩ := e
    obtain ⟨⟨s, rfl⟩, hrest⟩ := List.forall_mem_cons.1 h
    rw [Value.withMarksEntries, Entries.withMarksEntries_append]
    exact congrArg (Value.str s :: ·) (ih _ hrest)

theorem propertyNames_withMarks {c : Entries} (next : Nat)
    (hproperties : ∀ v, Entries.findText? c "properties" = some v → v.isDict = true)
    (hnames : ∀ k ∈ propertyNames c, ∃ s, k = .str s) :
    propertyNames (Value.withMarksEntries c [] next).1 = propertyNames c := by
  obtain ⟨m, hm⟩ := Entries.findText?_withMarks c "properties" next
  rw [propertyNames, propertyNames, hm]
  rw [propertyNames] at hnames
  cases hf : Entries.findText? c "properties" with
  | none => rfl
  | some v =>
    obtain ⟨entries, mark, rfl⟩ := Value.exists_dict (hproperties v hf)
    rw [hf] at hnames
    rw [Option.map_some, Value.withMarks.eq_def]
    cases mark with
    | zero => exact names_withMarks m hnames
    | succ mark => rfl

/-- After a load all registered types have rules for just the properties that they have, as long as
properties have texts as their names. -/
theorem loadTypes_isRuled (hb : IsBatch definitions) (hr : IsRegistry registry st.types)
    (hs : Consistent (Source registry (batchFrom definitions) st.types))
    (hruled : ∀ key id t, registry.lookup key = some id → st.types[id]? = some t → t.IsRuled)
    (hload : loadTypes registry (.dict definitions mark) st = (.ok (registry', made), st'))
    (hnames : ∀ (id : Nat) (t : NodeType), st'.types[id]? = some t →
      ∀ k ∈ t.properties.map (·.1), ∃ s, k = .str s) :
    ∀ key id t, registry'.lookup key = some id → st'.types[id]? = some t → t.IsRuled := by
  obtain ⟨p, hf, rfl, rfl⟩ := loadTypes_ok hb.data hload
  have h := hf.assembled
  intro key id t hid ht
  rw [hf.lookup] at hid
  unfold found at hid
  split at hid
  · obtain ⟨u, d, hsize, hu, -, hd, hm, -⟩ := h.found_new hr hid
    obtain ⟨t', ht', hstored⟩ := loadedStore_new registry hsize hu
    rw [ht] at ht'
    cases ht'
    have hmade := hm.isRuled h hs hr hd
    have hproperties : ∀ v, Entries.findText? u.configuration "properties" = some v →
        v.isDict = true := by
      have hcomposed := h.composed hs hr (found_defined hd ▸ hid) (.inl (by rw [hd]; rfl))
      rw [configurationOf, hu] at hcomposed
      exact hcomposed.properties
    have htexts := hnames id t ht
    obtain ⟨next, hnext⟩ := hstored.configuration
    rw [hstored.properties, hmade] at htexts
    rw [NodeType.IsRuled, hstored.properties, hmade, hnext,
      propertyNames_withMarks next hproperties htexts]
  · rw [loadedStore_kept (hr.lt hid)] at ht
    exact hruled key id t hid ht

end Rules

/-! ## A page that inherits a title -/

section Page

def baseType : NodeType :=
  ⟨.ofText "Base", [], [(.str "properties", .dict [(.str "title", .dict [] 0)] 0),
    (.str "label", .str "base"), (.str "abstract", .bool true)],
    [(.str "title", ⟨.none, .none, .none⟩)], 0⟩

def titledStore : Store :=
  ((Store.empty default).addType baseType).1

def titledRegistry : Registry :=
  [([.str "Base"], 0)]

def pageEntries : Entries :=
  [(.str "superTypes", .str "Base"), (.str "properties", .dict [(.str "text", .dict [] 0)] 0),
    (.str "label", .str "page")]

def titledPage : Entries :=
  [(.str "Page", .dict pageEntries 0)]

theorem lookup_titledPage {key : Key} {d : Definition}
    (h : (batchFrom titledPage).lookup key = some d) :
    key = [.str "Page"] ∧ d.entries = pageEntries := by
  have hbatch : batchFrom titledPage = [([.str "Page"], ⟨.ofText "Page", pageEntries⟩)] := rfl
  rw [hbatch, List.lookup_cons] at h
  split at h
  · rename_i hkey
    cases h
    exact ⟨eq_of_beq hkey, rfl⟩
  · cases h

theorem lookup_titledRegistry {key : Key} {id : Nat} (h : titledRegistry.lookup key = some id) :
    key = [.str "Base"] ∧ id = 0 := by
  rw [titledRegistry, List.lookup_cons] at h
  split at h
  · rename_i hkey
    cases h
    exact ⟨eq_of_beq hkey, rfl⟩
  · cases h

theorem isRegistry_titled : IsRegistry titledRegistry titledStore.types := by
  intro key id h
  obtain ⟨rfl, rfl⟩ := lookup_titledRegistry h
  exact ⟨_, rfl, rfl⟩

theorem source_titled {c : Entries}
    (h : Source titledRegistry (batchFrom titledPage) titledStore.types c) :
    c = ownPart pageEntries ∨ c = configurationOf titledStore.types 0 := by
  cases h with
  | own hd => exact .inl (by rw [(lookup_titledPage hd).2])
  | registered _ _ hid => exact .inr (by rw [(lookup_titledRegistry hid).2])

theorem configurationOf_titled : ∃ m m', configurationOf titledStore.types 0 =
    [(.str "properties", .dict [(.str "title", .dict [] m)] m'), (.str "label", .str "base"),
      (.str "abstract", .bool true)] :=
  ⟨_, _, rfl⟩

theorem ownPart_page : ownPart pageEntries =
    [(.str "properties", .dict [(.str "text", .dict [] 0)] 0), (.str "label", .str "page")] := rfl

theorem agreeAt_titled (path : List Key) :
    (Value.dict (ownPart pageEntries) 0).AgreeAt
      (.dict (configurationOf titledStore.types 0) 0) path := by
  obtain ⟨m, m', hbase⟩ := configurationOf_titled
  have hother : ∀ {name other : String} {v w : Value}, name ≠ other →
      (Value.str name).key? = (Value.str other).key? → ∀ path, v.AgreeAt w path :=
    fun hne heq => absurd (by simpa [Value.key?] using heq) hne
  rw [ownPart_page, hbase]
  refine .dict (List.forall_mem_cons.2 ⟨?_, List.forall_mem_singleton.2 ?_⟩) path
  · refine List.forall_mem_cons.2 ⟨fun _ => .dict ?_, List.forall_mem_cons.2 ⟨?_, ?_⟩⟩
    · exact List.forall_mem_singleton.2 (List.forall_mem_singleton.2 (hother (by decide)))
    · exact hother (by decide)
    · exact List.forall_mem_singleton.2 (hother (by decide))
  · refine List.forall_mem_cons.2 ⟨hother (by decide), List.forall_mem_cons.2 ⟨?_, ?_⟩⟩
    · exact fun _ => .of_not_dict rfl rfl
    · exact List.forall_mem_singleton.2 (hother (by decide))

/-- The properties hold one name without any rules. -/
theorem allDistinct_property (name : String) (m m' : Nat) :
    (Value.dict [(.str name, .dict [] m)] m').AllDistinct := by
  have hkeys : Entries.Distinct [(.str name, .dict [] m)] := List.nodup_singleton _
  have hnone : (Value.dict [] m).AllDistinct := .dict (by decide) (List.forall_mem_nil _) m
  exact .dict hkeys (List.forall_mem_singleton.2 hnone) m'

theorem consistent_titled :
    Consistent (Source titledRegistry (batchFrom titledPage) titledStore.types) where
  distinct := by
    intro c h
    rcases source_titled h with rfl | rfl
    · rw [ownPart_page]
      refine .dict (by decide) (List.forall_mem_cons.2 ⟨allDistinct_property _ _ _, ?_⟩) 0
      exact List.forall_mem_singleton.2 (.of_not_dict rfl)
    · obtain ⟨m, m', hbase⟩ := configurationOf_titled
      have hkeys : Entries.Distinct (configurationOf titledStore.types 0) := by decide
      rw [hbase] at hkeys ⊢
      refine .dict hkeys (List.forall_mem_cons.2 ⟨allDistinct_property _ _ _, ?_⟩) 0
      exact List.forall_mem_cons.2 ⟨.of_not_dict rfl, List.forall_mem_singleton.2 (.of_not_dict rfl)⟩
  agree := by
    intro c c' path h h' _
    rcases source_titled h with rfl | rfl <;> rcases source_titled h' with rfl | rfl
    · exact .refl _ _
    · exact agreeAt_titled path
    · exact (agreeAt_titled path).symm
    · exact .refl _ _
  properties := by
    intro c v h hv
    rcases source_titled h with rfl | rfl <;> cases hv <;> rfl

theorem isRuled_titled {key : Key} {id : Nat} {t : NodeType}
    (h : titledRegistry.lookup key = some id) (ht : titledStore.types[id]? = some t) :
    t.IsRuled := by
  obtain ⟨-, rfl⟩ := lookup_titledRegistry h
  cases ht
  rfl

theorem makeBatch_titledPage :
    ∃ p, makeBatch titledStore.types titledRegistry (batchFrom titledPage) = .ok p :=
  ⟨_, makeBatch_single rfl rfl rfl (.cons ⟨_, rfl, rfl⟩ .nil) rfl⟩

theorem loadTypes_derived_page :
    IsBatch titledPage ∧ IsRegistry titledRegistry titledStore.types ∧
      Consistent (Source titledRegistry (batchFrom titledPage) titledStore.types) ∧
      (∀ key id t, titledRegistry.lookup key = some id → titledStore.types[id]? = some t →
        t.IsRuled) ∧
      ∃ registry' made st' configurations id t,
        loadTypes titledRegistry (.dict titledPage 0) titledStore =
          (.ok (registry', made), st') ∧
        registry'.lookup [.str "Page"] = some id ∧ st'.types[id]? = some t ∧
        Derived registry' st'.types configurations ⟨.ofText "Page", pageEntries⟩ id t := by
  have hb : IsBatch titledPage := ⟨by decide, by decide⟩
  obtain ⟨p, hmake⟩ := makeBatch_titledPage
  have hload : loadTypes titledRegistry (.dict titledPage 0) titledStore =
      (.ok (titledRegistry.registerAll p.made, p.made.map (·.2)),
        loadedStore titledRegistry titledStore p) := by
    rw [loadTypes_data hb.data, hmake]
  obtain ⟨configurations, -, -, hderived⟩ := loadTypes_derived hb isRegistry_titled
    consistent_titled (fun _ _ _ => isRuled_titled) hload
  obtain ⟨id, t, hlookup, -, ht, hpage⟩ := hderived [.str "Page"] _ rfl
  exact ⟨hb, isRegistry_titled, consistent_titled, fun _ _ _ => isRuled_titled, _, _, _,
    configurations, id, t, hload, hlookup, ht, hpage⟩

end Page

end Loading

end ContentIndex
