import ContentIndex.Proofs.Loading.Data

/-!
# What a batch has been made into

Whatever the definitions of a batch hold: where it could be made, every name of it has got a type,
made of its definition and of types that were there before. Here a step of making that succeeds is
taken apart once; what has been made then speaks for itself.
-/

namespace ContentIndex

set_option autoImplicit false

/-- Every registered name stands for a type that bears it. -/
def IsRegistry (registry : Registry) (types : Array NodeType) : Prop :=
  ∀ key id, registry.lookup key = some id → ∃ t, types[id]? = some t ∧ t.name.key = key

theorem IsRegistry.lt {registry : Registry} {types : Array NodeType} {key : Key} {id : Nat}
    (hr : IsRegistry registry types) (h : registry.lookup key = some id) : id < types.size := by
  obtain ⟨t, ht, _⟩ := hr key id h
  exact (Array.getElem?_eq_some_iff.1 ht).1

namespace NodeType

variable {name : Name} {supers : List Nat} {configuration : Entries} {t : NodeType}

theorem make_ok (h : make name supers configuration = .ok t) :
    t.name = name ∧ t.supers = supers ∧ t.configuration = configuration := by
  simp only [make, bind, Except.bind] at h
  split at h
  · cases h
  · split at h
    · cases h
    · cases h
      exact ⟨rfl, rfl, rfl⟩

/-- The rules of a type are those of its configuration alone. -/
theorem make_other (h : make name supers configuration = .ok t) (name' : Name)
    (supers' : List Nat) :
    ∃ t', make name' supers' configuration = .ok t' ∧ t'.properties = t.properties := by
  simp only [make, bind, Except.bind] at h ⊢
  split at h
  · cases h
  · rename_i properties hproperties
    split at h
    · cases h
    · rename_i rules hrules
      cases h
      exact ⟨_, rfl, rfl⟩

end NodeType

namespace Loading

/-- A definition of the batch lists a name among its supertypes. -/
def Lists (batch : Batch) (sub super : Key) : Prop :=
  ∃ d names v, batch.lookup sub = some d ∧ superNames d.entries = .ok names ∧ v ∈ names ∧
    v.key? = some super

/-- Where a name is found: among the types made if the batch defines it, and otherwise in the
registry. -/
def found (registry : Registry) (batch : Batch) (p : Progress) (key : Key) : Option Nat :=
  if (batch.lookup key).isSome then p.find? key else registry.lookup key

/-- A listed supertype is found. -/
def Finds (registry : Registry) (batch : Batch) (p : Progress) (name : Value) (id : Nat) : Prop :=
  ∃ key, name.key? = some key ∧ found registry batch p key = some id

/-- A type made of a definition and of the supertypes that it lists. -/
structure MadeOf (registry : Registry) (batch : Batch) (p : Progress) (d : Definition)
    (t : NodeType) : Prop where
  supers : ∃ names, superNames d.entries = .ok names ∧
    List.Forall₂ (Finds registry batch p) names t.supers
  made : NodeType.make t.name t.supers (configuration p.types t.supers d.entries) = .ok t

/-- Types made of a batch, each of its definition and of types that were there before. -/
inductive Assembled (registry : Registry) (batch : Batch) (types : Array NodeType) :
    Progress → Prop where
  | start : Assembled registry batch types ⟨types, []⟩
  | add {p : Progress} {d : Definition} {t : NodeType} :
      Assembled registry batch types p → p.find? t.name.key = none →
      batch.lookup t.name.key = some d → MadeOf registry batch p d t →
      Assembled registry batch types ⟨p.types.push t, p.made ++ [(t.name, p.types.size)]⟩

/-- All of a batch has been made. -/
structure Finished (registry : Registry) (batch : Batch) (types : Array NodeType)
    (p : Progress) : Prop where
  assembled : Assembled registry batch types p
  all : ∀ key, (batch.lookup key).isSome = true → ∃ id, p.find? key = some id

/-! ## What has been assembled -/

section Assembled

variable {registry : Registry} {batch : Batch} {types : Array NodeType} {p p' : Progress}
  {key : Key} {id : Nat} {d : Definition} {t : NodeType} {name : Value}

theorem found_defined (h : batch.lookup key = some d) :
    found registry batch p key = p.find? key :=
  if_pos (by rw [h]; rfl)

theorem found_other (h : batch.lookup key = none) :
    found registry batch p key = registry.lookup key :=
  if_neg (by rw [h]; nofun)

theorem found_keeps (hk : ∀ key id, p.find? key = some id → p'.find? key = some id)
    (h : found registry batch p key = some id) : found registry batch p' key = some id :=
  find?_or_keeps hk h

theorem Finds.keeps (h : Finds registry batch p name id)
    (hk : ∀ key id, p.find? key = some id → p'.find? key = some id) :
    Finds registry batch p' name id := by
  obtain ⟨key, hkey, hfound⟩ := h
  exact ⟨key, hkey, found_keeps hk hfound⟩

theorem configurationOf_congr {all all' : Array NodeType} (h : all'[id]? = all[id]?) :
    configurationOf all' id = configurationOf all id := by
  rw [configurationOf, configurationOf, h]

/-- What a type is made of are the configurations of its supertypes and its definition. -/
theorem configuration_congr {all all' : Array NodeType} {ids ids' : List Nat} (entries : Entries)
    (h : List.Forall₂ (fun i j => configurationOf all i = configurationOf all' j) ids ids') :
    configuration all ids entries = configuration all' ids' entries := by
  have hfold : ∀ merged, ids.foldl (fun merged id =>
        Value.mergeEntries merged (configurationOf all id)) merged =
      ids'.foldl (fun merged id =>
        Value.mergeEntries merged (configurationOf all' id)) merged := by
    induction h with
    | nil => exact fun _ => rfl
    | cons hid _ ih =>
      intro merged
      rw [List.foldl_cons, List.foldl_cons, hid, ih]
  unfold configuration inherited
  rw [hfold]

theorem Assembled.isPrefix (h : Assembled registry batch types p) :
    types.toList <+: p.types.toList := by
  induction h with
  | start => exact List.prefix_refl _
  | add _ _ _ _ ih =>
    rw [Array.toList_push]
    exact ih.trans (List.prefix_append _ _)

theorem Assembled.size_le (h : Assembled registry batch types p) :
    types.size ≤ p.types.size :=
  h.isPrefix.length_le

theorem Assembled.kept (h : Assembled registry batch types p) (hid : id < types.size) :
    p.types[id]? = types[id]? :=
  getElem?_of_isPrefix h.isPrefix hid

theorem Assembled.find?_lt (h : Assembled registry batch types p) (hf : p.find? key = some id) :
    id < p.types.size := by
  induction h with
  | start => cases hf
  | add _ _ _ _ ih =>
    rw [find?_concat, Option.or_eq_some_iff] at hf
    rw [Array.size_push]
    rcases hf with hold | ⟨_, hlast⟩
    · exact (ih hold).trans (Nat.lt_succ_self _)
    · split at hlast
      · cases hlast
        exact Nat.lt_succ_self _
      · cases hlast

theorem Assembled.found_lt (h : Assembled registry batch types p)
    (hr : IsRegistry registry types) (hf : found registry batch p key = some id) :
    id < p.types.size := by
  unfold found at hf
  split at hf
  · exact h.find?_lt hf
  · exact (hr.lt hf).trans_le h.size_le

theorem exists_of_mem_left {α β : Type} {R : α → β → Prop} {as : List α} {bs : List β}
    (h : List.Forall₂ R as bs) {a : α} (ha : a ∈ as) : ∃ b ∈ bs, R a b := by
  induction h with
  | nil => cases ha
  | cons hab _ ih =>
    rcases List.mem_cons.1 ha with rfl | ha
    · exact ⟨_, List.mem_cons_self, hab⟩
    · obtain ⟨b, hb, hr⟩ := ih ha
      exact ⟨b, List.mem_cons_of_mem _ hb, hr⟩

theorem exists_of_mem_right {α β : Type} {R : α → β → Prop} {as : List α} {bs : List β}
    (h : List.Forall₂ R as bs) {b : β} (hb : b ∈ bs) : ∃ a ∈ as, R a b :=
  exists_of_mem_left h.flip hb

theorem MadeOf.configuration_eq (h : MadeOf registry batch p d t) :
    t.configuration = configuration p.types t.supers d.entries :=
  (NodeType.make_ok h.made).2.2

/-- Every supertype of a type has been found under a name that its definition lists. -/
theorem MadeOf.exists_listed (hm : MadeOf registry batch p d t) (hd : batch.lookup key = some d)
    {super : Nat} (hs : super ∈ t.supers) :
    ∃ name, Lists batch key name ∧ found registry batch p name = some super := by
  obtain ⟨names, hnames, hfinds⟩ := hm.supers
  obtain ⟨v, hv, name, hname, hfound⟩ := exists_of_mem_right hfinds hs
  exact ⟨name, ⟨d, names, v, hd, hnames, hv, hname⟩, hfound⟩

theorem Assembled.supers_lt (h : Assembled registry batch types p)
    (hr : IsRegistry registry types) (hm : MadeOf registry batch p d t)
    (hd : batch.lookup key = some d) : ∀ super ∈ t.supers, super < p.types.size := by
  intro super hs
  obtain ⟨_, _, hfound⟩ := hm.exists_listed hd hs
  exact h.found_lt hr hfound

/-- A type that has been made stays made of its definition while others are made. -/
theorem MadeOf.keeps (hm : MadeOf registry batch p d t)
    (hk : ∀ key id, p.find? key = some id → p'.find? key = some id)
    (hsupers : ∀ super ∈ t.supers, p'.types[super]? = p.types[super]?) :
    MadeOf registry batch p' d t := by
  obtain ⟨names, hnames, hfinds⟩ := hm.supers
  refine ⟨⟨names, hnames, hfinds.imp fun _ _ h => h.keeps hk⟩, ?_⟩
  have hconfiguration : configuration p'.types t.supers d.entries =
      configuration p.types t.supers d.entries :=
    configuration_congr d.entries <| List.forall₂_same.2 fun super hs =>
      configurationOf_congr (hsupers super hs)
  rw [hconfiguration]
  exact hm.made

/-- What is found under a key of the batch is a new type, made of the definition and of older
types. -/
theorem Assembled.found_new (h : Assembled registry batch types p) (hr : IsRegistry registry types)
    (hf : p.find? key = some id) : ∃ t d, types.size ≤ id ∧ p.types[id]? = some t ∧
      t.name.key = key ∧ batch.lookup key = some d ∧ MadeOf registry batch p d t ∧
      ∀ super ∈ t.supers, super < id := by
  induction h with
  | start => cases hf
  | @add p d t hb hnew hd hm ih =>
    -- what is added comes behind all that was there, so that stays as it was made
    have hpush : ∀ {i : Nat}, i < p.types.size → (p.types.push t)[i]? = p.types[i]? := by
      intro i hi
      rw [Array.getElem?_push, if_neg (Nat.ne_of_lt hi)]
    have hkeeps : ∀ key id, p.find? key = some id →
        (⟨p.types.push t, p.made ++ [(t.name, p.types.size)]⟩ : Progress).find? key = some id := by
      intro key id hold
      rw [find?_concat, hold]
      rfl
    rw [find?_concat, Option.or_eq_some_iff] at hf
    rcases hf with hold | ⟨_, hlast⟩
    · obtain ⟨t', d', hsize, ht', hname, hd', hm', hlt⟩ := ih hold
      have hid := hb.find?_lt hold
      exact ⟨t', d', hsize, (hpush hid).trans ht', hname, hd',
        hm'.keeps hkeeps fun super hs => hpush ((hlt super hs).trans hid), hlt⟩
    · split at hlast
      · rename_i heq
        cases hlast
        subst heq
        have hlt := hb.supers_lt hr hm hd
        refine ⟨t, d, hb.size_le, ?_, rfl, hd,
          hm.keeps hkeeps fun super hs => hpush (hlt super hs), hlt⟩
        rw [Array.getElem?_push, if_pos rfl]
      · cases hlast

theorem Assembled.isSome (h : Assembled registry batch types p) (hf : p.find? key = some id) :
    (batch.lookup key).isSome = true := by
  induction h with
  | start => cases hf
  | add _ _ hd _ ih =>
    rw [find?_concat, Option.or_eq_some_iff] at hf
    rcases hf with hold | ⟨_, hlast⟩
    · exact ih hold
    · split at hlast
      · rename_i heq
        rw [← heq, hd]
        rfl
      · cases hlast

/-- Every type that is not from before has been made under its name. -/
theorem Assembled.find?_new (h : Assembled registry batch types p) (hsize : types.size ≤ id)
    (ht : p.types[id]? = some t) : p.find? t.name.key = some id := by
  induction h with
  | start => exact absurd (Array.getElem?_eq_some_iff.1 ht).1 (Nat.not_lt.2 hsize)
  | add hb hnew _ _ ih =>
    rw [Array.getElem?_push] at ht
    rw [find?_concat]
    split at ht
    · rename_i heq
      cases ht
      rw [hnew, if_pos rfl, heq]
      rfl
    · rw [ih ht]
      rfl

end Assembled

/-! ## A step of making -/

section Making

variable {registry : Registry} {batch : Batch} {types : Array NodeType} {active : List Name}
  {p p' : Progress} {v : Value} {key : Key} {id : Nat}

/-- How making a name can succeed: it has been made, it is registered, or it is made now. -/
theorem make_ok_cases (h : make registry batch active p v = .ok (p', id)) :
    ∃ key, v.key? = some key ∧
      ((p.find? key = some id ∧ p' = p) ∨
       (p.find? key = none ∧ batch.lookup key = none ∧ registry.lookup key = some id ∧ p' = p) ∨
       ∃ d names p₁ supers, p.find? key = none ∧ batch.lookup key = some d ∧
        key ∉ Name.keys active ∧ active.length < heightLimit ∧ superNames d.entries = .ok names ∧
        makeAll registry batch (⟨v, key⟩ :: active) p names = .ok (p₁, supers) ∧
        p₁.add ⟨v, key⟩ d.entries supers = .ok (p', id)) := by
  cases hkey : v.key? with
  | none =>
    rw [make, Name.ofValue?, hkey] at h
    cases h
  | some key =>
    refine ⟨key, rfl, ?_⟩
    rw [make_eq _ _ _ _ hkey] at h
    split at h
    · rename_i hp
      cases h
      exact .inl ⟨hp, rfl⟩
    rename_i hp
    split at h
    · rename_i hb
      rw [Registry.get, hkey] at h
      dsimp only at h
      split at h
      · rename_i hlookup
        cases h
        exact .inr (.inl ⟨hp, hb, hlookup, rfl⟩)
      · cases h
    · rename_i d hb
      split at h
      · cases h
      rename_i hactive
      split at h
      · cases h
      rename_i hlen
      split at h
      · cases h
      rename_i names hnames
      split at h
      · cases h
      rename_i p₁ supers hall
      exact .inr (.inr ⟨d, names, p₁, supers, hp, hb, hactive, by omega, hnames, hall, h⟩)

theorem make_of_find? (hv : v.key? = some key) (hp : p.find? key = some id) :
    make registry batch active p v = .ok (p, id) := by
  rw [make_eq _ _ _ _ hv, hp]

theorem make_of_lookup (hv : v.key? = some key) (hp : p.find? key = none)
    (hb : batch.lookup key = none) (hr : registry.lookup key = some id) :
    make registry batch active p v = .ok (p, id) := by
  rw [make_eq _ _ _ _ hv, hp, hb]
  dsimp only
  rw [Registry.get, hv]
  dsimp only
  rw [hr]
  rfl

/-- A definition is made after its supertypes, if there is room above the names being made. -/
theorem make_of_definition {d : Definition} {names : List Value} (hv : v.key? = some key)
    (hp : p.find? key = none) (hd : batch.lookup key = some d) (hactive : key ∉ Name.keys active)
    (hlen : active.length < heightLimit) (hnames : superNames d.entries = .ok names) :
    make registry batch active p v =
      match makeAll registry batch (⟨v, key⟩ :: active) p names with
      | .error e => .error e
      | .ok (p, supers) => p.add ⟨v, key⟩ d.entries supers := by
  rw [make_eq _ _ _ _ hv, hp, hd]
  dsimp only
  rw [if_neg hactive, if_neg (Nat.not_le.2 hlen)]
  cases hall : makeAll registry batch (⟨v, key⟩ :: active) p names with
  | error e => simp only [hnames, hall]
  | ok made => simp only [hnames, hall]

theorem make_tooDeep {d : Definition} (hv : v.key? = some key) (hp : p.find? key = none)
    (hd : batch.lookup key = some d) (hactive : key ∉ Name.keys active)
    (hlen : heightLimit ≤ active.length) :
    make registry batch active p v = .error (.fault .tooDeep) := by
  rw [make_eq _ _ _ _ hv, hp, hd]
  dsimp only
  rw [if_neg hactive, if_pos hlen]

/-- What is found is not made again. -/
theorem make_of_finds (ha : Assembled registry batch types p) (h : Finds registry batch p v id) :
    make registry batch active p v = .ok (p, id) := by
  obtain ⟨key, hkey, hfound⟩ := h
  cases hp : p.find? key with
  | some made =>
    rw [found, if_pos (ha.isSome hp), hp] at hfound
    cases hfound
    exact make_of_find? hkey hp
  | none =>
    cases hb : batch.lookup key with
    | some d =>
      rw [found_defined hb, hp] at hfound
      cases hfound
    | none =>
      rw [found_other hb] at hfound
      exact make_of_lookup hkey hp hb hfound

theorem makeAll_of_finds (ha : Assembled registry batch types p) {names : List Value}
    {ids : List Nat} (h : List.Forall₂ (Finds registry batch p) names ids) :
    makeAll registry batch active p names = .ok (p, ids) := by
  induction h with
  | nil => rw [makeAll]
  | cons hfinds _ ih =>
    rw [makeAll, make_of_finds ha hfinds]
    dsimp only
    rw [ih]

/-- One definition makes one type, if the supertypes that it lists are registered. -/
theorem makeBatch_single {d : Definition} {names : List Value} {supers : List Nat} {t : NodeType}
    (hname : d.name = ⟨v, key⟩) (hv : v.key? = some key) (hnames : superNames d.entries = .ok names)
    (hfinds : List.Forall₂ (Finds registry [(key, d)] ⟨types, []⟩) names supers)
    (ht : NodeType.make d.name supers (configuration types supers d.entries) = .ok t) :
    makeBatch types registry [(key, d)] = .ok ⟨types.push t, [(d.name, types.size)]⟩ := by
  have hmake : make registry [(key, d)] [] ⟨types, []⟩ d.name.value =
      .ok (⟨types.push t, [(d.name, types.size)]⟩, types.size) := by
    rw [hname] at ht ⊢
    rw [make_of_definition hv rfl List.lookup_cons_self List.not_mem_nil (by decide) hnames,
      makeAll_of_finds .start hfinds]
    simp only [Progress.add, ht, List.nil_append]
  rw [makeBatch, List.map_cons, List.map_nil, makeAll, hmake]
  dsimp only
  rw [makeAll]
  rfl

/-- Going on with making: others have been made, but none of those being made. -/
structure Proceeds (registry : Registry) (batch : Batch) (types : Array NodeType)
    (active : List Name) (p p' : Progress) : Prop where
  assembled : Assembled registry batch types p'
  keeps : ∀ key id, p.find? key = some id → p'.find? key = some id
  waits : ∀ n ∈ active, p'.find? n.key = none

/-- Whatever is made for the innermost of the names being made is made well. -/
def Proceeding (registry : Registry) (batch : Batch) (types : Array NodeType)
    (active : List Name) : Prop :=
  ∀ p v p' id, Assembled registry batch types p → (∀ n ∈ active, p.find? n.key = none) →
    make registry batch active p v = .ok (p', id) →
    Proceeds registry batch types active p p' ∧ Finds registry batch p' v id

theorem makeAll_proceeds (hstep : Proceeding registry batch types active) {names : List Value}
    {ids : List Nat} (ha : Assembled registry batch types p)
    (hw : ∀ n ∈ active, p.find? n.key = none)
    (h : makeAll registry batch active p names = .ok (p', ids)) :
    Proceeds registry batch types active p p' ∧
      List.Forall₂ (Finds registry batch p') names ids := by
  induction names generalizing p ids with
  | nil =>
    rw [makeAll] at h
    cases h
    exact ⟨⟨ha, fun _ _ hf => hf, hw⟩, .nil⟩
  | cons v rest ih =>
    rw [makeAll] at h
    split at h
    · cases h
    rename_i p₁ id hmake
    split at h
    · cases h
    rename_i p₂ others hall
    cases h
    obtain ⟨hone, hfinds⟩ := hstep p v p₁ id ha hw hmake
    obtain ⟨hrest, hothers⟩ := ih hone.assembled hone.waits hall
    exact ⟨⟨hrest.assembled, fun key id hf => hrest.keeps key id (hone.keeps key id hf),
      hrest.waits⟩, .cons (hfinds.keeps hrest.keeps) hothers⟩

theorem add_ok {name : Name} {definition : Entries} {supers : List Nat}
    (h : p.add name definition supers = .ok (p', id)) :
    ∃ t, NodeType.make name supers (configuration p.types supers definition) = .ok t ∧
      p' = ⟨p.types.push t, p.made ++ [(name, p.types.size)]⟩ ∧ id = p.types.size := by
  rw [Progress.add] at h
  split at h
  · cases h
  · rename_i t ht
    cases h
    exact ⟨t, ht, rfl, rfl⟩

/-- The type of a definition is added when its supertypes have been found. -/
theorem add_proceeds {name : Name} {d : Definition} {names : List Value} {supers : List Nat}
    (ha : Assembled registry batch types p) (hw : ∀ n ∈ name :: active, p.find? n.key = none)
    (hactive : name.key ∉ Name.keys active) (hd : batch.lookup name.key = some d)
    (hnames : superNames d.entries = .ok names)
    (hfinds : List.Forall₂ (Finds registry batch p) names supers)
    (h : p.add name d.entries supers = .ok (p', id)) :
    Proceeds registry batch types active p p' ∧ p'.find? name.key = some id := by
  obtain ⟨t, hmake, rfl, rfl⟩ := add_ok h
  obtain ⟨rfl, rfl, -⟩ := NodeType.make_ok hmake
  have hnew : p.find? t.name.key = none := hw _ List.mem_cons_self
  refine ⟨⟨.add ha hnew hd ⟨⟨names, hnames, hfinds⟩, hmake⟩, ?_, ?_⟩, ?_⟩
  · intro key id hf
    rw [find?_concat, hf]
    rfl
  · intro n hn
    have hne : t.name.key ≠ n.key := fun heq => hactive (List.mem_map.2 ⟨n, hn, heq.symm⟩)
    rw [find?_concat, hw n (List.mem_cons_of_mem _ hn), if_neg hne]
    rfl
  · rw [find?_concat, hnew, if_pos rfl]
    rfl

/-- The recursion is on the room that is left above the names being made. -/
theorem make_proceeds (active : List Name) : Proceeding registry batch types active := by
  intro p v p' id ha hw h
  obtain ⟨key, hkey, ⟨hp, rfl⟩ | ⟨hp, hb, hlookup, rfl⟩ |
    ⟨d, names, p₁, supers, hp, hb, hactive, hlen, hnames, hall, hadd⟩⟩ := make_ok_cases h
  · refine ⟨⟨ha, fun _ _ hf => hf, hw⟩, key, hkey, ?_⟩
    rw [found, if_pos (ha.isSome hp), hp]
  · exact ⟨⟨ha, fun _ _ hf => hf, hw⟩, key, hkey, (found_other hb).trans hlookup⟩
  · have hwaits : ∀ n ∈ (⟨v, key⟩ : Name) :: active, p.find? n.key = none :=
      List.forall_mem_cons.2 ⟨hp, hw⟩
    obtain ⟨hsupers, hfinds⟩ :=
      makeAll_proceeds (make_proceeds (⟨v, key⟩ :: active)) ha hwaits hall
    obtain ⟨hadded, hf⟩ :=
      add_proceeds hsupers.assembled hsupers.waits hactive hb hnames hfinds hadd
    exact ⟨⟨hadded.assembled, fun key id hold => hadded.keeps key id (hsupers.keeps key id hold),
      hadded.waits⟩, key, hkey, (found_defined hb).trans hf⟩
termination_by heightLimit - active.length
decreasing_by
  rw [List.length_cons]
  omega

end Making

/-! ## A batch that has been loaded -/

section Loaded

variable {registry registry' : Registry} {definitions : Entries} {batch : Batch}
  {types : Array NodeType} {st st' : Store} {p : Progress} {key : Key} {id mark : Nat}
  {made : List Nat}

/-- One definition without supertypes makes one type. -/
theorem loadTypes_single {name : String} {own : Entries} {m mark : Nat} {t : NodeType} {st : Store}
    (hdata : isData (.dict own m) = true) (hsupers : superNames own = .ok [])
    (ht : NodeType.make (.ofText name) [] (configuration #[] [] own) = .ok t)
    (hst : st.types = #[]) :
    loadTypes [] (.dict [(.str name, .dict own m)] mark) st =
      (.ok ([([.str name], 0)], [0]), loadedStore [] st ⟨#[t], [(.ofText name, 0)]⟩) := by
  have hmake : makeBatch #[] [] (batchFrom [(.str name, .dict own m)]) =
      .ok ⟨#[t], [(.ofText name, 0)]⟩ := makeBatch_single rfl rfl hsupers .nil ht
  rw [loadTypes_data (List.forall_mem_singleton.2 hdata), hst, hmake]
  rfl

theorem key?_name {d : Definition} (h : (key, d) ∈ batchFrom definitions) :
    d.name.value.key? = some key := by
  obtain ⟨e, _, he⟩ := List.mem_filterMap.1 h
  obtain ⟨k, hk, hpair⟩ := Option.map_eq_some_iff.1 he
  cases hpair
  exact hk

/-- A batch that could be made has been made as a whole. -/
theorem makeBatch_finished (h : makeBatch types registry (batchFrom definitions) = .ok p) :
    Finished registry (batchFrom definitions) types p := by
  rw [makeBatch] at h
  cases hall : makeAll registry (batchFrom definitions) [] ⟨types, []⟩
      ((batchFrom definitions).map fun d => d.2.name.value) with
  | error e =>
    rw [hall] at h
    cases h
  | ok made =>
    rw [hall] at h
    cases h
    obtain ⟨hproceeds, hfinds⟩ :=
      makeAll_proceeds (make_proceeds []) .start (List.forall_mem_nil _) hall
    refine ⟨hproceeds.assembled, fun key hin => ?_⟩
    obtain ⟨d, hd⟩ := Option.isSome_iff_exists.1 hin
    obtain ⟨before, after, heq, _⟩ := List.lookup_eq_some_iff.1 hd
    have hmem : (key, d) ∈ batchFrom definitions := by
      rw [heq]
      exact List.mem_append_right _ List.mem_cons_self
    obtain ⟨id, _, k, hk, hfound⟩ :=
      exists_of_mem_left hfinds (List.mem_map_of_mem hmem)
    rw [key?_name hmem] at hk
    cases hk
    rw [found, if_pos hin] at hfound
    exact ⟨id, hfound⟩

theorem Assembled.lookup_registerAll (h : Assembled registry batch types p) (key : Key) :
    (registry.registerAll p.made).lookup key = (p.find? key).or (registry.lookup key) := by
  induction h with
  | start => rfl
  | @add p d t hb hnew hd hm ih =>
    rw [lookup_registerAll_concat, find?_concat, ih]
    by_cases hkey : t.name.key = key
    · rw [if_pos hkey, if_pos hkey, ← hkey, hnew]
      rfl
    · rw [if_neg hkey, if_neg hkey, Option.or_none]

/-- Names stand in the new registry for what the supertypes of the batch were found to be. -/
theorem Finished.lookup (h : Finished registry batch types p) (key : Key) :
    (registry.registerAll p.made).lookup key = found registry batch p key := by
  rw [h.assembled.lookup_registerAll, found]
  split
  · rename_i hin
    obtain ⟨id, hid⟩ := h.all key hin
    rw [hid]
    rfl
  · rename_i hout
    cases hf : p.find? key with
    | none => rfl
    | some id => exact absurd (h.assembled.isSome hf) hout

theorem loadedStore_kept (h : id < st.types.size) :
    (loadedStore registry st p).types[id]? = st.types[id]? :=
  withTypes_kept h

theorem loadedStore_new (registry : Registry) {t : NodeType} (hsize : st.types.size ≤ id)
    (h : p.types[id]? = some t) :
    ∃ t', (loadedStore registry st p).types[id]? = some t' ∧ StoredAs t t' :=
  withTypes_found hsize h

theorem Assembled.loadedStore_size (h : Assembled registry batch st.types p) :
    (loadedStore registry st p).types.size = p.types.size := by
  have hsize := h.size_le
  rw [loadedStore, withTypes_size, List.length_drop, Array.length_toList]
  omega

/-- Every new type of the store is one that has been made. -/
theorem Assembled.stored_new (h : Assembled registry batch st.types p) {t : NodeType}
    (hid : st.types.size ≤ id) (ht : (loadedStore registry st p).types[id]? = some t) :
    ∃ u, p.types[id]? = some u ∧ StoredAs u t := by
  have hlt : id < p.types.size := h.loadedStore_size ▸ (Array.getElem?_eq_some_iff.1 ht).1
  have hu : p.types[id]? = some p.types[id] := Array.getElem?_eq_getElem hlt
  obtain ⟨t', ht', hstored⟩ := loadedStore_new registry hid hu
  rw [ht] at ht'
  cases ht'
  exact ⟨_, hu, hstored⟩

/-- A loading that succeeds has made the whole batch. -/
theorem loadTypes_ok (hd : ∀ e ∈ definitions, isData e.2 = true)
    (h : loadTypes registry (.dict definitions mark) st = (.ok (registry', made), st')) :
    ∃ p, Finished registry (batchFrom definitions) st.types p ∧
      registry' = registry.registerAll p.made ∧ st' = loadedStore registry st p := by
  rw [loadTypes_data hd] at h
  cases hmake : makeBatch st.types registry (batchFrom definitions) with
  | error e =>
    rw [hmake] at h
    cases h
  | ok p =>
    rw [hmake] at h
    cases h
    exact ⟨p, makeBatch_finished hmake, rfl, rfl⟩

end Loaded

end Loading

end ContentIndex
