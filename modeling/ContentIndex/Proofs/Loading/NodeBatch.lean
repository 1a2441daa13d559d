import ContentIndex.Proofs.Loading.Documented
import ContentIndex.Proofs.Loading.Markers
import ContentIndex.Proofs.Run

/-!
# Loading nodes all at once

Nodes are loaded if each of their definitions is loadable, in the order of the definitions. The
first definition that is not loadable decides on the error, and then nothing has changed.
-/

namespace ContentIndex.Loading

set_option autoImplicit false

/-- What a definition gives as properties. -/
def propertiesIn (definition : Entries) : Entries :=
  ((Entries.findText? definition "properties").bind Value.entries?).getD []

/-- Properties are a dictionary or null, if there are any, and markers in them hold texts. -/
structure IsDefinition (definition : Entries) : Prop where
  properties : ∀ v ∈ Entries.findText? definition "properties",
    v = .none ∨ ∃ entries mark, v = .dict entries mark
  markers : ∀ e ∈ propertiesIn definition, MarksTexts e.2

/-- All fields are there, there is room for the lists in the properties, and the type is
registered. -/
structure Loadable (registry : Registry) (definition : Entries) : Prop where
  complete : ∀ field ∈ nodeFields, (Entries.findText? definition field).isSome = true
  fits : ∀ e ∈ propertiesIn definition, e.2.Fits listLimit
  registered : ∃ name key id, Entries.findText? definition "nodeType" = some name ∧
    name.key? = some key ∧ registry.lookup key = some id

/-- Why a definition is not loadable: the first field that is missing, and otherwise the lists
before the name of the type. -/
inductive Refused (registry : Registry) (definition : Entries) : Error → Prop
  | missing {field : String}
      (h : nodeFields.find? (fun f => (Entries.findText? definition f).isNone) = some field) :
    Refused registry definition
      (Value.problemWith (.dict definition 0) (.missingField field (.dict definition 0)))
  | lists (hcomplete : ∀ field ∈ nodeFields, (Entries.findText? definition field).isSome = true)
      (h : ¬ ∀ e ∈ propertiesIn definition, e.2.Fits listLimit) :
    Refused registry definition (.fault .tooDeep)
  | unhashable (hcomplete : ∀ field ∈ nodeFields, (Entries.findText? definition field).isSome = true)
      (hfits : ∀ e ∈ propertiesIn definition, e.2.Fits listLimit) {name : Value}
      (hname : Entries.findText? definition "nodeType" = some name) (h : name.key? = none) :
    Refused registry definition (unhashableName name)
  | unknown (hcomplete : ∀ field ∈ nodeFields, (Entries.findText? definition field).isSome = true)
      (hfits : ∀ e ∈ propertiesIn definition, e.2.Fits listLimit) {name : Value} {key : Key}
      (hname : Entries.findText? definition "nodeType" = some name) (hkey : name.key? = some key)
      (h : registry.lookup key = none) :
    Refused registry definition (name.problemWith (.unknownType name))

/-- The node of a definition, apart from marks. -/
structure LoadedAs (registry : Registry) (base : Option FilePath) (definition : Entries)
    (n : Node) : Prop where
  identifier : ∃ v, Entries.findText? definition "identifier" = some v ∧
    n.identifier.unmarked = v.unmarked
  path : ∃ v, Entries.findText? definition "path" = some v ∧ n.path.unmarked = v.unmarked
  type : ∃ name key, Entries.findText? definition "nodeType" = some name ∧
    name.key? = some key ∧ registry.lookup key = some n.type
  properties : List.Forall₂ (fun given kept =>
      kept.1.unmarked = given.1.unmarked ∧ Converts base given.2 kept.2)
    (propertiesIn definition) n.properties

section Definition

variable {registry : Registry} {base : Option FilePath} {definition : Entries}

theorem propertiesOf_eq (h : IsDefinition definition) :
    propertiesOf definition = .ok (propertiesIn definition) := by
  have hproperties := h.properties
  unfold propertiesOf propertiesIn
  cases hfind : Entries.findText? definition "properties" with
  | none => rfl
  | some v =>
    rcases hproperties v hfind with rfl | ⟨entries, mark, rfl⟩
    · rfl
    · cases entries with
      | nil => rfl
      | cons e rest => rfl

theorem propertyEntries_outcome (base : Option FilePath) {entries : Entries}
    (h : ∀ e ∈ entries, MarksTexts e.2) :
    ((∀ e ∈ entries, e.2.Fits listLimit) ∧ ∃ kept, propertyEntries base entries = .ok kept ∧
        List.Forall₂ (fun given kept =>
          kept.1.unmarked = given.1.unmarked ∧ Converts base given.2 kept.2) entries kept) ∨
      (¬ ∀ e ∈ entries, e.2.Fits listLimit) ∧ propertyEntries base entries = .error .tooDeep := by
  induction entries with
  | nil => exact .inl ⟨List.forall_mem_nil _, [], rfl, .nil⟩
  | cons e rest ih =>
    obtain ⟨name, v⟩ := e
    obtain ⟨hv, hrest⟩ := List.forall_mem_cons.1 h
    rw [List.forall_mem_cons, propertyEntries]
    rcases propertyValue_outcome base listLimit v hv with ⟨hfits, w, hw, hconverts⟩ | ⟨hfits, hw⟩
    · rw [hw]
      dsimp only
      rcases ih hrest with ⟨hall, kept, hkept, hsame⟩ | ⟨hall, hkept⟩
      · refine .inl ⟨⟨hfits, hall⟩, (name, w) :: kept, ?_, .cons ⟨rfl, hconverts⟩ hsame⟩
        rw [hkept]
        rfl
      · refine .inr ⟨fun hboth => hall hboth.2, ?_⟩
        rw [hkept]
        rfl
    · refine .inr ⟨fun hboth => hfits hboth.1, ?_⟩
      rw [hw]

theorem required_of_some {field : String} {v : Value}
    (h : Entries.findText? definition field = some v) : required definition field = .ok v := by
  rw [required, h]

theorem required_of_none {field : String} (h : Entries.findText? definition field = none) :
    required definition field = .error
      (Value.problemWith (.dict definition 0) (.missingField field (.dict definition 0))) := by
  rw [required, h]

theorem Refused.not_loadable {e : Error} (h : Refused registry definition e) :
    ¬ Loadable registry definition := by
  intro hl
  obtain ⟨name, key, id, hname, hkey, hlookup⟩ := hl.registered
  cases h with
  | missing hfield =>
    have hnone := List.find?_some hfield
    have hsome := hl.complete _ (List.mem_of_find?_eq_some hfield)
    exact absurd (Option.isNone_iff_eq_none.1 hnone) (Option.isSome_iff_ne_none.1 hsome)
  | lists _ hfits => exact hfits hl.fits
  | unhashable _ _ hname' hkey' =>
    cases hname.symm.trans hname'
    cases hkey.symm.trans hkey'
  | unknown _ _ hname' hkey' hlookup' =>
    cases hname.symm.trans hname'
    cases hkey.symm.trans hkey'
    cases hlookup.symm.trans hlookup'

/-- Without one of its fields a definition is refused for the first one that is missing. -/
theorem nodeOf_incomplete (base : Option FilePath) (mark : Nat)
    (h : ¬ ∀ field ∈ nodeFields, (Entries.findText? definition field).isSome = true) :
    ∃ e, Refused registry definition e ∧
      nodeOf registry base (.dict definition mark) = .error e := by
  rw [nodeOf, Value.entries?]
  dsimp only [bind, Except.bind]
  cases hidentifier : Entries.findText? definition "identifier" with
  | none =>
    refine ⟨_, @Refused.missing _ _ "identifier" ?_, by rw [required_of_none hidentifier]⟩
    simp [nodeFields, hidentifier]
  | some identifier =>
    rw [required_of_some hidentifier]
    cases hpath : Entries.findText? definition "path" with
    | none =>
      refine ⟨_, @Refused.missing _ _ "path" ?_, by rw [required_of_none hpath]⟩
      simp [nodeFields, hidentifier, hpath]
    | some path =>
      rw [required_of_some hpath]
      cases hname : Entries.findText? definition "nodeType" with
      | none =>
        refine ⟨_, @Refused.missing _ _ "nodeType" ?_, by rw [required_of_none hname]⟩
        simp [nodeFields, hidentifier, hpath, hname]
      | some name =>
        refine absurd ?_ h
        simp [nodeFields, hidentifier, hpath, hname]

theorem nodeOf_outcome (registry : Registry) (base : Option FilePath) (h : IsDefinition definition)
    (mark : Nat) :
    (Loadable registry definition ∧ ∃ n, nodeOf registry base (.dict definition mark) = .ok n ∧
        LoadedAs registry base definition n) ∨
      ¬ Loadable registry definition ∧ ∃ e, Refused registry definition e ∧
        nodeOf registry base (.dict definition mark) = .error e := by
  by_cases hcomplete : ∀ field ∈ nodeFields, (Entries.findText? definition field).isSome = true
  · have hfield : ∀ field ∈ nodeFields, ∃ v, Entries.findText? definition field = some v :=
      fun field hmem => Option.isSome_iff_exists.1 (hcomplete field hmem)
    obtain ⟨identifier, hidentifier⟩ := hfield "identifier" (by simp [nodeFields])
    obtain ⟨path, hpath⟩ := hfield "path" (by simp [nodeFields])
    obtain ⟨name, hname⟩ := hfield "nodeType" (by simp [nodeFields])
    simp only [nodeOf, Value.entries?, required_of_some hidentifier, required_of_some hpath,
      required_of_some hname, propertiesOf_eq h, faultOr, bind, Except.bind]
    rcases propertyEntries_outcome base h.markers with ⟨hfits, kept, hkept, hsame⟩ | ⟨hfits, hkept⟩
    · rw [hkept]
      dsimp only
      cases hkey : name.key? with
      | none =>
        have hrefused := @Refused.unhashable registry _ hcomplete hfits _ hname hkey
        exact .inr ⟨hrefused.not_loadable, _, hrefused, by rw [Registry.get, hkey]; rfl⟩
      | some key =>
        cases hlookup : registry.lookup key with
        | none =>
          have hrefused := Refused.unknown hcomplete hfits hname hkey hlookup
          exact .inr ⟨hrefused.not_loadable, _, hrefused, by simp only [Registry.get, hkey, hlookup]⟩
        | some id =>
          refine .inl ⟨⟨hcomplete, hfits, name, key, id, hname, hkey, hlookup⟩,
            ⟨identifier, path, id, .none, kept, 0⟩, ?_, ?_⟩
          · simp only [Registry.get, hkey, hlookup]
            rfl
          · exact ⟨⟨identifier, hidentifier, rfl⟩, ⟨path, hpath, rfl⟩,
              ⟨name, key, hname, hkey, hlookup⟩, hsame⟩
    · rw [hkept]
      have hrefused := @Refused.lists registry _ hcomplete hfits
      exact .inr ⟨hrefused.not_loadable, _, hrefused, rfl⟩
  · exact .inr ⟨fun hl => hcomplete hl.complete, nodeOf_incomplete base mark hcomplete⟩

end Definition

/-! ## All definitions -/

/-- A definition as a dictionary with a mark. -/
def asDict (d : Entries × Nat) : Value :=
  .dict d.1 d.2

section Batch

variable {registry : Registry} {base : Option FilePath} {definitions : List (Entries × Nat)}

theorem nodesOf_outcome (registry : Registry) (base : Option FilePath)
    (h : ∀ d ∈ definitions, IsDefinition d.1) :
    ((∀ d ∈ definitions, Loadable registry d.1) ∧ ∃ nodes,
        nodesOf registry base (definitions.map asDict) = .ok nodes ∧
          List.Forall₂ (fun d n => LoadedAs registry base d.1 n) definitions nodes) ∨
      ∃ before d after e, definitions = before ++ d :: after ∧
        (∀ b ∈ before, Loadable registry b.1) ∧ ¬ Loadable registry d.1 ∧
        Refused registry d.1 e ∧ nodesOf registry base (definitions.map asDict) = .error e := by
  induction definitions with
  | nil => exact .inl ⟨List.forall_mem_nil _, [], rfl, .nil⟩
  | cons d rest ih =>
    obtain ⟨hd, hrest⟩ := List.forall_mem_cons.1 h
    rw [List.map_cons, nodesOf]
    rcases nodeOf_outcome registry base hd d.2 with ⟨hl, n, hn, hloaded⟩ | ⟨hl, e, hrefused, he⟩
    · rw [asDict, hn]
      dsimp only
      rcases ih hrest with ⟨hall, nodes, hnodes, hothers⟩ |
        ⟨before, bad, after, e, rfl, hbefore, hbad, hrefused, he⟩
      · refine .inl ⟨List.forall_mem_cons.2 ⟨hl, hall⟩, n :: nodes, ?_, .cons hloaded hothers⟩
        rw [hnodes]
        rfl
      · refine .inr ⟨d :: before, bad, after, e, rfl, List.forall_mem_cons.2 ⟨hl, hbefore⟩, hbad,
          hrefused, ?_⟩
        rw [he]
        rfl
    · refine .inr ⟨[], d, rest, e, rfl, List.forall_mem_nil _, hl, hrefused, ?_⟩
      rw [asDict, he]

/-! ## Nodes in the store -/

/-- Nodes that differ in marks, and in the name of the type, which comes with the store. -/
structure SameNode (n n' : Node) : Prop where
  identifier : n'.identifier.unmarked = n.identifier.unmarked
  path : n'.path.unmarked = n.path.unmarked
  type : n'.type = n.type
  properties : Value.unmarkedEntries n'.properties = Value.unmarkedEntries n.properties

theorem addNode_eq (st : Store) (n : Node) : ∃ n' next, SameNode n n' ∧
    st.addNode n = ({ st with nodes := st.nodes.push n', next := next }, st.nodes.size) := by
  refine ⟨_, _, ?_, rfl⟩
  exact ⟨Value.unmarked_withMarks _ _, Value.unmarked_withMarks _ _, rfl,
    Value.unmarked_withMarksEntries _ _⟩

theorem addNodes_eq (st : Store) (nodes : List Node) : ∃ nodes' next,
    List.Forall₂ SameNode nodes nodes' ∧
      st.addNodes nodes = ({ st with nodes := st.nodes ++ nodes'.toArray, next := next },
        List.range' st.nodes.size nodes.length) := by
  -- the numbers of the nodes so far are collected in reverse
  have hfold : ∀ (nodes : List Node) (st : Store) (ids : List Nat), ∃ nodes' next,
      List.Forall₂ SameNode nodes nodes' ∧
        nodes.foldl (fun (acc : Store × List Nat) n =>
          ((acc.1.addNode n).1, (acc.1.addNode n).2 :: acc.2)) (st, ids) =
        ({ st with nodes := st.nodes ++ nodes'.toArray, next := next },
          (List.range' st.nodes.size nodes.length).reverse ++ ids) := by
    intro nodes
    induction nodes with
    | nil =>
      intro st ids
      exact ⟨[], st.next, .nil, by simp⟩
    | cons n rest ih =>
      intro st ids
      obtain ⟨n', m, hsame, hn⟩ := addNode_eq st n
      obtain ⟨others, next, hothers, hrest⟩ := ih (st.addNode n).1 ((st.addNode n).2 :: ids)
      refine ⟨n' :: others, next, .cons hsame hothers, ?_⟩
      rw [List.foldl_cons, hrest, hn]
      simp [List.range'_succ]
  obtain ⟨nodes', next, hsame, hadded⟩ := hfold nodes st []
  have hadd : st.addNodes nodes =
      let added := nodes.foldl (fun (acc : Store × List Nat) n =>
        ((acc.1.addNode n).1, (acc.1.addNode n).2 :: acc.2)) (st, [])
      (added.1, added.2.reverse) := rfl
  refine ⟨nodes', next, hsame, ?_⟩
  rw [hadd, hadded]
  simp

theorem forall₂_of_unmarked {R : Value × Value → Value × Value → Prop}
    (hR : ∀ e f g, R e f → g.1.unmarked = f.1.unmarked → g.2.unmarked = f.2.unmarked → R e g)
    {given kept kept' : Entries} (h : List.Forall₂ R given kept)
    (hs : Value.unmarkedEntries kept' = Value.unmarkedEntries kept) :
    List.Forall₂ R given kept' := by
  induction h generalizing kept' with
  | nil =>
    cases kept' with
    | nil => exact .nil
    | cons => cases hs
  | cons he _ ih =>
    cases kept' with
    | nil => cases hs
    | cons g rest =>
      rw [Value.unmarkedEntries, Value.unmarkedEntries] at hs
      obtain ⟨hg, hrest⟩ := List.cons.inj hs
      obtain ⟨hname, hvalue⟩ := Prod.mk.inj hg
      exact .cons (hR _ _ g he hname hvalue) (ih hrest)

theorem LoadedAs.of_same {definition : Entries} {n n' : Node}
    (h : LoadedAs registry base definition n) (hs : SameNode n n') :
    LoadedAs registry base definition n' := by
  obtain ⟨identifier, hidentifier, hsame⟩ := h.identifier
  obtain ⟨path, hpath, hsame'⟩ := h.path
  refine ⟨⟨identifier, hidentifier, hs.identifier.trans hsame⟩,
    ⟨path, hpath, hs.path.trans hsame'⟩, hs.type ▸ h.type, ?_⟩
  refine forall₂_of_unmarked ?_ h.properties hs.properties
  intro e f g hf hname hvalue
  exact ⟨hname.trans hf.1, hf.2.of_unmarked hvalue⟩

theorem loadedAs_of_same {nodes nodes' : List Node}
    (h : List.Forall₂ (fun d n => LoadedAs registry base d.1 n) definitions nodes)
    (hs : List.Forall₂ SameNode nodes nodes') :
    List.Forall₂ (fun d n => LoadedAs registry base d.1 n) definitions nodes' := by
  induction h generalizing nodes' with
  | nil =>
    cases hs
    exact .nil
  | cons hn _ ih =>
    cases hs with
    | cons hsame hrest => exact .cons (hn.of_same hsame) (ih hrest)

end Batch

/-! ## A node with markers -/

section Marked

/-- A page with a marker in a list, and one beside a further key. -/
def markedDefinition : Entries :=
  [(.str "identifier", .str "a"), (.str "path", .str "/a"), (.str "nodeType", .str "Page"),
    (.str "properties", .dict [(.str "files", .list [.dict [(.str "__asset", .str "a.pdf")] 0,
      .dict [(.str "__asset", .str "b.pdf"), (.str "title", .str "B")] 0] 0)] 0)]

theorem MarksTexts.leaf {v : Value} (hlist : ¬ v.IsList)
    (h : ∀ marker, marked? v = some marker → ∃ s, marker = .str s) : MarksTexts v := by
  intro path part marker hpart hmarker
  obtain ⟨-, rfl⟩ := Value.part?_of_not_list hlist hpart
  exact h marker hmarker

theorem MarksTexts.list {items : List Value} (h : ∀ v ∈ items, MarksTexts v) (mark : Nat) :
    MarksTexts (.list items mark) := by
  intro path part marker hpart hmarker
  cases path with
  | nil =>
    cases hpart
    cases hmarker
  | cons i path =>
    obtain ⟨w, hw, hrest⟩ := Value.part?_cons_eq_some_iff.1 hpart
    exact h w (List.mem_of_getElem? hw) path part marker hrest hmarker

theorem isDefinition_marked : IsDefinition markedDefinition := by
  refine ⟨?_, ?_⟩
  · rintro v ⟨⟩
    exact .inr ⟨_, _, rfl⟩
  · have hproperties : propertiesIn markedDefinition = [(.str "files", .list [
        .dict [(.str "__asset", .str "a.pdf")] 0,
        .dict [(.str "__asset", .str "b.pdf"), (.str "title", .str "B")] 0] 0)] := rfl
    rw [hproperties, List.forall_mem_singleton]
    refine .list ?_ 0
    rw [List.forall_mem_cons, List.forall_mem_singleton]
    refine ⟨.leaf id ?_, .leaf id ?_⟩
    · rintro marker ⟨⟩
      exact ⟨_, rfl⟩
    · rintro marker ⟨⟩

def pageRegistry : Registry :=
  [([.str "Page"], 0)]

def noFiles : Files :=
  ⟨[], [], []⟩

theorem loadable_marked : Loadable pageRegistry markedDefinition := by
  refine ⟨by decide +kernel, ?_, .str "Page", [.str "Page"], 0, rfl, rfl, rfl⟩
  have hproperties : propertiesIn markedDefinition = [(.str "files", .list [
      .dict [(.str "__asset", .str "a.pdf")] 0,
      .dict [(.str "__asset", .str "b.pdf"), (.str "title", .str "B")] 0] 0)] := rfl
  rw [hproperties, List.forall_mem_singleton]
  refine Value.fits_list.2 ?_
  rw [List.forall_mem_cons, List.forall_mem_singleton]
  exact ⟨Value.fits_of_not_list id _, Value.fits_of_not_list id _⟩

end Marked

/-! ## Definitions that are complete and refused -/

section Refused

/-- One more list than the number says, one in another. -/
def nestedLists : Nat → Value
  | 0 => .list [] 0
  | n + 1 => .list [nestedLists n] 0

def pageWith (typeName property : Value) : Entries :=
  [(.str "identifier", .str "a"), (.str "path", .str "/a"), (.str "nodeType", typeName),
    (.str "properties", .dict [(.str "p", property)] 0)]

theorem marksTexts_nestedLists (n : Nat) : MarksTexts (nestedLists n) := by
  induction n with
  | zero => exact .list (List.forall_mem_nil _) 0
  | succ n ih => exact .list (List.forall_mem_singleton.2 ih) 0

theorem propertyValue_nestedLists (room : Nat) :
    propertyValue none room (nestedLists room) = .error .tooDeep := by
  induction room with
  | zero => rfl
  | succ room ih =>
    rw [nestedLists, propertyValue, propertyValues, ih]
    rfl

theorem isDefinition_pageWith (typeName : Value) {property : Value} (h : MarksTexts property) :
    IsDefinition (pageWith typeName property) := by
  refine ⟨?_, ?_⟩
  · rintro v ⟨⟩
    exact .inr ⟨_, _, rfl⟩
  · have hproperties : propertiesIn (pageWith typeName property) = [(.str "p", property)] := rfl
    rw [hproperties]
    exact List.forall_mem_singleton.2 h

theorem loadNodes_of_error {registry : Registry} {base : Option FilePath} {definition : Entries}
    {e : Error} (h : nodeOf registry base (.dict definition 0) = .error e) (st : Store) :
    loadNodes registry base (.list [asDict (definition, 0)] 0) st = (.error e, st) := by
  have hcollect : Eval.collect Eval.standard (.list [asDict (definition, 0)] 0) =
    pure [asDict (definition, 0)] := rfl
  rw [loadNodes, hcollect, run_bind]
  simp only [run_pure, nodesOf, asDict, h]
  rfl

end Refused

end ContentIndex.Loading
