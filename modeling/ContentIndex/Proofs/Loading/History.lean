import ContentIndex.Proofs.Hierarchy.Flattening
import ContentIndex.Proofs.Loading.Assembly

/-!
# Sequences of loads

Batches loaded one after the other into a fresh registry; later batches may define names again.
Types never change, so a type keeps the supertypes that it was made with, also when their names
have come to stand for other types. Every type is younger than its supertypes, whatever the names
are, and two types of one name come of two batches that define it.
-/

namespace ContentIndex.Loading

set_option autoImplicit false

open Hierarchy (Extends Reaches Inherits Recurs flatten flatten_ok)

/-- What batches make of a fresh registry when they are loaded one after the other. -/
inductive History (start : Store) : List Entries → Registry → Store → Prop
  | fresh : History start [] [] start
  | load {batches : List Entries} {registry registry' : Registry} {st st' : Store}
      {definitions : Entries} {mark : Nat} {made : List Nat} :
      History start batches registry st → IsBatch definitions →
      loadTypes registry (.dict definitions mark) st = (.ok (registry', made), st') →
      History start (batches ++ [definitions]) registry' st'

/-- How many of the batches define a name. -/
def timesDefined (batches : List Entries) (key : Key) : Nat :=
  batches.countP fun definitions => Defines definitions key

/-- The types that a sequence of loads has added to those there were before it. -/
structure Grown (base : Nat) (batches : List Entries) (registry : Registry)
    (types : Array NodeType) : Prop where
  registered : ∀ key id, registry.lookup key = some id →
    base ≤ id ∧ ∃ t, types[id]? = some t ∧ t.name.key = key
  supers : ∀ id t, base ≤ id → types[id]? = some t → ∀ super ∈ t.supers, base ≤ super ∧ super < id
  defined : ∀ id t, base ≤ id → types[id]? = some t → 0 < timesDefined batches t.name.key
  again : ∀ i j s t, base ≤ i → i < j → types[i]? = some s → types[j]? = some t →
    s.name.key = t.name.key → 1 < timesDefined batches t.name.key

/-- A type has been left as it is, and so has the registry where it was not defined again: since it
was made, later batches have been loaded that do not define its name. -/
structure Standing (since : Registry) (later : List Entries) (registry : Registry) (st : Store)
    (key : Key) (t : NodeType) : Prop where
  current : ∀ definitions ∈ later, ¬ Defines definitions key
  supers : ∀ super ∈ t.supers, ∃ s, st.types[super]? = some s ∧
    since.lookup s.name.key = some super ∧
    (registry.lookup s.name.key = some super ↔
      ∀ definitions ∈ later, ¬ Defines definitions s.name.key)

/-! ## One load -/

section Load

variable {base : Nat} {batches : List Entries} {registry : Registry} {definitions : Entries}
  {st : Store} {p : Progress} {key : Key} {id : Nat}

theorem timesDefined_concat (batches : List Entries) (definitions : Entries) (key : Key) :
    timesDefined (batches ++ [definitions]) key =
      timesDefined batches key + if Defines definitions key then 1 else 0 := by
  rw [timesDefined, List.countP_append, List.countP_singleton]
  simp [timesDefined]

/-- A type of the new store was there before, or has been made under its name. -/
theorem Finished.stored_cases (h : Finished registry (batchFrom definitions) st.types p)
    (hr : IsRegistry registry st.types) {t : NodeType}
    (ht : (loadedStore registry st p).types[id]? = some t) :
    (id < st.types.size ∧ st.types[id]? = some t) ∨
      (st.types.size ≤ id ∧ p.find? t.name.key = some id ∧ Defines definitions t.name.key ∧
        ∀ super ∈ t.supers, super < id ∧
          ∃ key, (registry.registerAll p.made).lookup key = some super) := by
  rcases Nat.lt_or_ge id st.types.size with hid | hid
  · rw [loadedStore_kept hid] at ht
    exact .inl ⟨hid, ht⟩
  · obtain ⟨u, hu, hstored⟩ := h.assembled.stored_new hid ht
    have hf := h.assembled.find?_new hid hu
    obtain ⟨u', d, -, hu', -, hd, hm, hsupers⟩ := h.assembled.found_new hr hf
    rw [hu] at hu'
    cases hu'
    rw [hstored.name, hstored.supers]
    refine .inr ⟨hid, hf, by rw [Defines, hd]; rfl, fun super hs => ⟨hsupers super hs, ?_⟩⟩
    obtain ⟨key, -, hfound⟩ := hm.exists_listed hd hs
    exact ⟨key, (h.lookup key).trans hfound⟩

theorem Grown.isRegistry {types : Array NodeType} (h : Grown base batches registry types) :
    IsRegistry registry types :=
  fun key id hid => (h.registered key id hid).2

/-- What is registered after a load: new types for the names that it defines. -/
theorem Finished.registered (h : Finished registry (batchFrom definitions) st.types p)
    (hr : IsRegistry registry st.types)
    (hid : (registry.registerAll p.made).lookup key = some id) :
    (¬ Defines definitions key ∧ registry.lookup key = some id ∧ id < st.types.size) ∨
      (Defines definitions key ∧ st.types.size ≤ id) ∧
        ∃ t, (loadedStore registry st p).types[id]? = some t ∧ t.name.key = key := by
  rw [h.lookup, found] at hid
  split at hid
  · rename_i hin
    obtain ⟨t, d, hsize, ht, hname, -, -, -⟩ := h.assembled.found_new hr hid
    obtain ⟨t', ht', hstored⟩ := loadedStore_new registry hsize ht
    exact .inr ⟨⟨hin, hsize⟩, t', ht', by rw [hstored.name, hname]⟩
  · rename_i hout
    exact .inl ⟨hout, hid, hr.lt hid⟩

theorem Grown.load (h : Grown base batches registry st.types) (hbase : base ≤ st.types.size)
    (hf : Finished registry (batchFrom definitions) st.types p) :
    Grown base (batches ++ [definitions]) (registry.registerAll p.made)
      (loadedStore registry st p).types := by
  have hr := h.isRegistry
  have hregistered : ∀ key id, (registry.registerAll p.made).lookup key = some id →
      base ≤ id ∧ ∃ t, (loadedStore registry st p).types[id]? = some t ∧ t.name.key = key := by
    intro key id hid
    rcases hf.registered hr hid with ⟨_, hold, hlt⟩ | ⟨⟨_, hsize⟩, hnew⟩
    · obtain ⟨hle, t, ht, hname⟩ := h.registered key id hold
      exact ⟨hle, t, (loadedStore_kept hlt).trans ht, hname⟩
    · exact ⟨hbase.trans hsize, hnew⟩
  refine ⟨hregistered, ?_, ?_, ?_⟩
  · intro id t hid ht super hs
    rcases hf.stored_cases hr ht with ⟨_, hold⟩ | ⟨_, _, _, hsupers⟩
    · exact h.supers id t hid hold super hs
    · obtain ⟨hlt, key, hkey⟩ := hsupers super hs
      exact ⟨(hregistered key super hkey).1, hlt⟩
  · intro id t hid ht
    rw [timesDefined_concat]
    rcases hf.stored_cases hr ht with ⟨_, hold⟩ | ⟨_, _, hdefines, _⟩
    · have hpos := h.defined id t hid hold
      omega
    · rw [if_pos hdefines]
      omega
  · intro i j s t hi hij hs ht hkey
    rw [timesDefined_concat]
    rcases hf.stored_cases hr ht with ⟨hlt, hold⟩ | ⟨_, hfound, hdefines, _⟩
    · rw [loadedStore_kept (hij.trans hlt)] at hs
      have htwice := h.again i j s t hi hij hs hold hkey
      omega
    · rw [if_pos hdefines]
      rcases hf.stored_cases hr hs with ⟨_, hold⟩ | ⟨_, hfound', _, _⟩
      · have hpos := h.defined i s hi hold
        rw [hkey] at hpos
        omega
      · -- two types of one batch have two names
        rw [hkey, hfound] at hfound'
        cases hfound'
        exact absurd hij (Nat.lt_irrefl _)

/-- A type that has just been made has what is registered as its supertypes. -/
theorem standing_new (h : Grown base (batches ++ [definitions]) (registry.registerAll p.made)
      (loadedStore registry st p).types)
    (hf : Finished registry (batchFrom definitions) st.types p)
    (hr : IsRegistry registry st.types) {t : NodeType} (hsize : st.types.size ≤ id)
    (ht : (loadedStore registry st p).types[id]? = some t) :
    Standing (registry.registerAll p.made) [] (registry.registerAll p.made)
      (loadedStore registry st p) key t where
  current := nofun
  supers := by
    intro super hs
    rcases hf.stored_cases hr ht with ⟨hlt, _⟩ | ⟨_, _, _, hsupers⟩
    · omega
    · obtain ⟨_, k, hk⟩ := hsupers super hs
      obtain ⟨_, s, hs', hname⟩ := h.registered k super hk
      rw [← hname] at hk
      exact ⟨s, hs', hk, ⟨fun _ => nofun, fun _ => hk⟩⟩

/-- A load that does not define the name of a type leaves it standing. -/
theorem Standing.load {since : Registry} {later : List Entries} {t : NodeType}
    (h : Standing since later registry st key t)
    (hf : Finished registry (batchFrom definitions) st.types p)
    (hr : IsRegistry registry st.types) (hout : ¬ Defines definitions key) :
    Standing since (later ++ [definitions]) (registry.registerAll p.made)
      (loadedStore registry st p) key t where
  current := List.forall_mem_append.2 ⟨h.current, List.forall_mem_singleton.2 hout⟩
  supers := by
    intro super hsuper
    obtain ⟨s, hs, hsince, hiff⟩ := h.supers super hsuper
    have hlt : super < st.types.size := (Array.getElem?_eq_some_iff.1 hs).1
    refine ⟨s, (loadedStore_kept hlt).trans hs, hsince, ?_⟩
    rw [List.forall_mem_append, List.forall_mem_singleton, ← hiff]
    constructor
    · intro hnow
      rcases hf.registered hr hnow with ⟨hleft, hold, _⟩ | ⟨⟨_, hsize⟩, _⟩
      · exact ⟨hold, hleft⟩
      · omega
    · rintro ⟨hold, hleft⟩
      rw [hf.lookup, found]
      exact (if_neg hleft).trans hold

end Load

/-! ## All loads -/

section History

variable {start st : Store} {batches : List Entries} {registry : Registry} {key : Key} {id : Nat}

theorem History.grown (h : History start batches registry st) :
    start.types.size ≤ st.types.size ∧ Grown start.types.size batches registry st.types := by
  induction h with
  | fresh =>
    have hnone : ∀ {id : Nat} {t : NodeType}, start.types.size ≤ id → start.types[id]? ≠ some t :=
      fun hid ht => absurd (Array.getElem?_eq_some_iff.1 ht).1 (Nat.not_lt.2 hid)
    refine ⟨Nat.le_refl _, nofun, ?_, ?_, ?_⟩
    · exact fun _ _ hid ht => absurd ht (hnone hid)
    · exact fun _ _ hid ht => absurd ht (hnone hid)
    · exact fun _ _ _ _ hi _ hs => absurd hs (hnone hi)
  | load _ hbatch hload ih =>
    obtain ⟨hsize, hg⟩ := ih
    obtain ⟨p, hf, rfl, rfl⟩ := loadTypes_ok hbatch.data hload
    refine ⟨?_, hg.load hsize hf⟩
    rw [hf.assembled.loadedStore_size]
    exact hsize.trans hf.assembled.size_le

/-- Every registered type has been made by the last batch that defines its name. -/
theorem History.standing (h : History start batches registry st)
    (hid : registry.lookup key = some id) :
    ∃ t before definitions later since st₁, st.types[id]? = some t ∧ t.name.key = key ∧
      batches = before ++ definitions :: later ∧ History start (before ++ [definitions]) since st₁ ∧
      Defines definitions key ∧ Standing since later registry st key t := by
  induction h with
  | fresh => cases hid
  | @load batches registry registry' st st' definitions mark made hold hbatch hload ih =>
    obtain ⟨hsize, hg⟩ := hold.grown
    have hr := hg.isRegistry
    have hnow : History start (batches ++ [definitions]) registry' st' := .load hold hbatch hload
    obtain ⟨-, hg'⟩ := hnow.grown
    obtain ⟨p, hf, rfl, rfl⟩ := loadTypes_ok hbatch.data hload
    rcases hf.registered hr hid with ⟨hout, hlookup, hlt⟩ | ⟨⟨hin, hsize'⟩, t, ht, hname⟩
    · obtain ⟨t, before, d, later, since, st₁, ht, hname, rfl, hsince, hd, hstanding⟩ := ih hlookup
      refine ⟨t, before, d, later ++ [definitions], since, st₁, (loadedStore_kept hlt).trans ht,
        hname, ?_, hsince, hd, hstanding.load hf hr hout⟩
      rw [List.append_assoc, List.cons_append]
    · exact ⟨t, batches, definitions, [], _, _, ht, hname, rfl, hnow, hin,
        standing_new hg' hf hr hsize' ht⟩

theorem Grown.inherits_lt {base : Nat} (h : Grown base batches registry st.types) {i j : Nat}
    (hi : base ≤ i) (hij : Inherits st.types i j) : base ≤ j ∧ j < i := by
  induction hij with
  | single hext =>
    obtain ⟨t, ht, hs⟩ := hext
    exact h.supers _ t hi ht _ hs
  | tail _ hext ih =>
    obtain ⟨t, ht, hs⟩ := hext
    obtain ⟨hle, hlt⟩ := h.supers _ t ih.1 ht _ hs
    exact ⟨hle, hlt.trans ih.2⟩

theorem Grown.reaches_le {base : Nat} (h : Grown base batches registry st.types) {i j : Nat}
    (hi : base ≤ i) (hij : Reaches st.types i j) : base ≤ j := by
  rcases Relation.reflTransGen_iff_eq_or_transGen.1 hij with rfl | hij
  · exact hi
  · exact (h.inherits_lt hi hij).1

/-- A name that recurs on the way up has been defined by more than one batch. -/
theorem Grown.recurs_again {base root : Nat} (h : Grown base batches registry st.types)
    (hroot : base ≤ root) (hrecurs : Recurs st.types root) :
    ∃ sub super s t, Reaches st.types root sub ∧ Inherits st.types sub super ∧
      st.types[sub]? = some s ∧ st.types[super]? = some t ∧ s.name.key = t.name.key ∧
      1 < timesDefined batches s.name.key := by
  obtain ⟨sub, super, s, t, hsub, habove, hs, ht, hkey⟩ := hrecurs
  have hle := h.reaches_le hroot hsub
  obtain ⟨hle', hlt⟩ := h.inherits_lt hle habove
  exact ⟨sub, super, s, t, hsub, habove, hs, ht, hkey,
    h.again super sub t s hle' hlt ht hs hkey.symm⟩

end History

/-! ## Articles and pages -/

section Articles

def articles : Entries :=
  [(.str "Page", .dict [] 0),
    (.str "Article", .dict [(.str "superTypes", .list [.str "Page"] 0)] 0)]

def turned : Entries :=
  [(.str "Page", .dict [(.str "superTypes", .list [.str "Article"] 0)] 0)]

def plainType (name : String) (supers : List Nat) : NodeType :=
  ⟨.ofText name, supers, [(.str "abstract", .bool false)], [], 0⟩

def pageMade : Progress :=
  ⟨#[plainType "Page" []], [(.ofText "Page", 0)]⟩

def articlesMade : Progress :=
  ⟨#[plainType "Page" [], plainType "Article" [0]], [(.ofText "Page", 0), (.ofText "Article", 1)]⟩

theorem makeBatch_articles : makeBatch #[] [] (batchFrom articles) = .ok articlesMade := by
  have hpage : make [] (batchFrom articles) [] ⟨#[], []⟩ (.str "Page") = .ok (pageMade, 0) := by
    rw [make_of_definition rfl rfl rfl (by decide) (by decide) rfl, makeAll]
    rfl
  have hsupers : makeAll [] (batchFrom articles) [⟨.str "Article", [.str "Article"]⟩] pageMade
      [.str "Page"] = .ok (pageMade, [0]) := by
    rw [makeAll, make_of_find? rfl rfl]
    dsimp only
    rw [makeAll]
  have harticle : make [] (batchFrom articles) [] pageMade (.str "Article") =
      .ok (articlesMade, 1) := by
    rw [make_of_definition rfl rfl rfl (by decide) (by decide) rfl, hsupers]
    rfl
  have hnames : (batchFrom articles).map (fun d => d.2.name.value) =
      [.str "Page", .str "Article"] := rfl
  rw [makeBatch, hnames, makeAll, hpage]
  dsimp only
  rw [makeAll, harticle]
  dsimp only
  rw [makeAll]
  rfl

def articlesRegistry : Registry :=
  Registry.registerAll [] articlesMade.made

def articlesStore : Store :=
  loadedStore [] (.empty default) articlesMade

def turnedMade : Progress :=
  ⟨articlesStore.types.push (plainType "Page" [1]), [(.ofText "Page", 2)]⟩

theorem makeBatch_turned :
    makeBatch articlesStore.types articlesRegistry (batchFrom turned) = .ok turnedMade :=
  makeBatch_single rfl rfl rfl (.cons ⟨_, rfl, rfl⟩ .nil) rfl

def turnedRegistry : Registry :=
  articlesRegistry.registerAll turnedMade.made

def turnedStore : Store :=
  loadedStore articlesRegistry articlesStore turnedMade

theorem history_turned :
    History (.empty default) [articles, turned] turnedRegistry turnedStore := by
  have hfirst : loadTypes [] (.dict articles 0) (.empty default) =
      (.ok (articlesRegistry, [0, 1]), articlesStore) := by
    have hmake : makeBatch (Store.empty default).types [] (batchFrom articles) =
        .ok articlesMade := makeBatch_articles
    rw [loadTypes_data (by decide), hmake]
    rfl
  have hsecond : loadTypes articlesRegistry (.dict turned 0) articlesStore =
      (.ok (turnedRegistry, [2]), turnedStore) := by
    rw [loadTypes_data (by decide), makeBatch_turned]
    rfl
  have harticles : History (.empty default) [articles] articlesRegistry articlesStore :=
    .load .fresh ⟨by decide, by decide⟩ hfirst
  exact .load harticles ⟨by decide, by decide⟩ hsecond

end Articles

/-! ## Registered types -/

section Registered

variable {start st : Store} {batches : List Entries} {registry : Registry} {key : Key} {id : Nat}

/-- Every registered type stands as the last batch that defines its name has made it: its
supertypes are those that were registered then, and still are where no later batch defines their
names. No type is above itself; and its hierarchy can be flattened, unless a type has one of the
same name above it, which takes two batches that define that name. -/
theorem history_type (h : History start batches registry st)
    (hid : registry.lookup key = some id) :
    (∃ t before definitions later since st₁, st.types[id]? = some t ∧ t.name.key = key ∧
      batches = before ++ definitions :: later ∧ History start (before ++ [definitions]) since st₁ ∧
      Defines definitions key ∧ Standing since later registry st key t) ∧
    (∀ x, Reaches st.types id x → ¬ Inherits st.types x x) ∧
    ((∃ names, flatten st.types id = .ok names) ∨
      ∃ sub super s t, Reaches st.types id sub ∧ Inherits st.types sub super ∧
        st.types[sub]? = some s ∧ st.types[super]? = some t ∧ s.name.key = t.name.key ∧
        1 < timesDefined batches s.name.key) := by
  obtain ⟨-, hg⟩ := h.grown
  have hbase := (hg.registered key id hid).1
  refine ⟨h.standing hid, fun x hx habove => ?_, ?_⟩
  · exact absurd (hg.inherits_lt (hg.reaches_le hbase hx) habove).2 (Nat.lt_irrefl x)
  · by_cases hrecurs : Recurs st.types id
    · exact .inr (hg.recurs_again hbase hrecurs)
    · exact .inl (flatten_ok hrecurs)

theorem history_type_article :
    History (.empty default) [articles, turned] turnedRegistry turnedStore ∧
      turnedRegistry.lookup [.str "Article"] = some 1 ∧
      ∀ x, Reaches turnedStore.types 1 x → ¬ Inherits turnedStore.types x x := by
  have hid : turnedRegistry.lookup [.str "Article"] = some 1 := rfl
  exact ⟨history_turned, hid, (history_type history_turned hid).2.1⟩

/-- Where the page is defined again, the articles still have the first one as their supertype. They
and the page that is registered now are above each other by name. -/
theorem page_defined_again :
    History (.empty default) [articles, turned] turnedRegistry turnedStore ∧
      (∃ article page, turnedRegistry.lookup [.str "Article"] = some 1 ∧
        turnedStore.types[1]? = some article ∧ 0 ∈ article.supers ∧
        turnedStore.types[0]? = some page ∧ turnedRegistry.lookup page.name.key = some 2) ∧
      flatten turnedStore.types 2 =
        .error [.ofText "Page", .ofText "Article", .ofText "Page"] := by
  have hstart : flatten turnedStore.types 2 =
      Hierarchy.Walk.run turnedStore.types ⟨[.ofText "Page"], [.ofText "Page"], [[1]]⟩ := rfl
  have hback : Hierarchy.Walk.run turnedStore.types
      ⟨[.ofText "Page", .ofText "Article"], [.ofText "Article", .ofText "Page"], [[0], []]⟩ =
      .error [.ofText "Page", .ofText "Article", .ofText "Page"] := by
    rw [Hierarchy.Walk.run]
    rfl
  refine ⟨history_turned, ⟨_, _, rfl, rfl, List.mem_cons_self, rfl, rfl⟩, ?_⟩
  rw [hstart, Hierarchy.run_super rfl (by decide), if_neg (by decide)]
  exact hback

end Registered

end ContentIndex.Loading
