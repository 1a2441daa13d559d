import ContentIndex.Proofs.Cli.Faults
import ContentIndex.Proofs.Cli.Indexing
import ContentIndex.Proofs.Marks

/-!
# Failures of the command

Indexing an export of the documented shape prints the documents, or reports an error and ends with
exit code one, or fails with a fault that leaves the command. Each such fault is told by where it
comes from.
-/

namespace ContentIndex

set_option autoImplicit false

/-! ## Loading nodes -/

theorem Registry.get_text_ne (registry : Registry) (name : String) (f : Fault) :
    registry.get (.str name) ≠ .error (.fault f) := by
  intro h
  have hkey : (Value.str name).key? = some [.str name] := rfl
  rw [Registry.get, hkey] at h
  dsimp only at h
  cases hlookup : registry.lookup [.str name] with
  | none =>
    rw [hlookup] at h
    cases h
  | some id =>
    rw [hlookup] at h
    cases h

namespace Loading

/-- A result that fails, if it does, because a marker gives no path of a file, or because more
collections stand one in another than there is room for. -/
def FailsOnPart {α : Type} (base : Option FilePath) (room nesting : Nat)
    (r : Except Fault α) : Prop :=
  ∀ f, r = .error f → (∃ path, fileAsset base path = .error f) ∨ f = .tooDeep ∧ room < nesting

theorem FailsOnPart.map {α β : Type} {base : Option FilePath} {room nesting : Nat}
    {r : Except Fault α} (h : FailsOnPart base room nesting r) (g : α → β) :
    FailsOnPart base room nesting (r.map g) := by
  cases r with
  | ok v => exact nofun
  | error f =>
    rintro _ ⟨⟩
    exact h f rfl

theorem FailsOnPart.mono {α : Type} {base : Option FilePath} {room nesting nesting' : Nat}
    {r : Except Fault α} (h : FailsOnPart base room nesting r) (hle : nesting ≤ nesting') :
    FailsOnPart base room nesting' r :=
  fun f hf => (h f hf).imp id fun ⟨hdeep, hlt⟩ => ⟨hdeep, Nat.lt_of_lt_of_le hlt hle⟩

section Nodes

variable {base : Option FilePath} {registry : Registry} {definitions : List Value}

mutual
theorem failsOnPart_propertyValue (base : Option FilePath) (room : Nat) (v : Value) :
    FailsOnPart base room v.nesting (propertyValue base room v) := by
  rw [propertyValue.eq_def]
  split
  · rintro _ ⟨⟩
    exact .inr ⟨rfl, Nat.succ_pos _⟩
  · rename_i room items mark
    intro f hf
    refine ((failsOnPart_propertyValues base room items).map _ f hf).imp id ?_
    exact fun ⟨hdeep, hlt⟩ => ⟨hdeep, Nat.succ_lt_succ hlt⟩
  · split
    · exact fun f h => .inl ⟨_, h⟩
    · rintro f ⟨⟩

theorem failsOnPart_propertyValues (base : Option FilePath) (room : Nat) (vs : List Value) :
    FailsOnPart base room (Value.nestingAll vs) (propertyValues base room vs) := by
  cases vs with
  | nil => exact nofun
  | cons v rest =>
    have hv := (failsOnPart_propertyValue base room v).mono (Nat.le_max_left _
      (Value.nestingAll rest))
    have hrest := (failsOnPart_propertyValues base room rest).mono (Nat.le_max_right v.nesting _)
    rw [propertyValues, Value.nestingAll]
    split
    · rename_i f hf
      exact fun g hg => hv g (Except.error.inj hg ▸ hf)
    · split
      · rename_i f hf
        exact fun g hg => hrest g (Except.error.inj hg ▸ hf)
      · exact nofun
end

theorem failsOnPart_propertyEntries (base : Option FilePath) (entries : Entries) :
    FailsOnPart base listLimit (Value.nestingEntries entries) (propertyEntries base entries) := by
  fun_induction propertyEntries base entries with
  | case1 => exact nofun
  | case2 name v rest f hf =>
    have hv := (failsOnPart_propertyValue base listLimit v).mono
      (show v.nesting ≤ Value.nestingEntries ((name, v) :: rest) by
        rw [Value.nestingEntries]
        omega)
    exact fun g hg => hv g (Except.error.inj hg ▸ hf)
  | case3 name v rest w hw ih =>
    refine (ih.map _).mono ?_
    rw [Value.nestingEntries]
    exact Nat.le_max_right ..

theorem nesting_le_of_mem {entries : Entries} {e : Value × Value} (h : e ∈ entries) :
    e.2.nesting ≤ Value.nestingEntries entries := by
  induction entries with
  | nil => cases h
  | cons e' rest ih =>
    obtain ⟨k, v⟩ := e'
    rw [Value.nestingEntries]
    rcases List.mem_cons.1 h with rfl | hrest
    · change v.nesting ≤ _
      omega
    · exact (ih hrest).trans (Nat.le_max_right ..)

theorem nesting_le_of_findText? {entries : Entries} {name : String} {v : Value}
    (h : Entries.findText? entries name = some v) : v.nesting ≤ Value.nestingEntries entries := by
  obtain ⟨e, he, -, rfl⟩ := Entries.exists_of_find? h
  exact nesting_le_of_mem he

/-- A documented node is loaded unless its type is unknown, one of its assets has no path or its
lists stand too deep one in another. -/
theorem nodeOf_documented {v : Value} (h : v.isNodeDefinition = true) {f : Fault}
    (hf : nodeOf registry base v = .error (.fault f)) :
    (∃ path, fileAsset base path = .error f) ∨ f = .tooDeep ∧ listLimit < v.nesting := by
  cases v with
  | dict definition mark =>
    obtain ⟨hfields, hproperties⟩ := Bool.and_eq_true_iff.1 h
    have hrequired : ∀ name ∈ nodeFields, ∃ s, required definition name = .ok (.str s) := by
      intro name hname
      have hany := List.all_eq_true.1 hfields name hname
      obtain ⟨v, hv, htext⟩ := (Option.any_eq_true _ _).1 hany
      cases v with
      | str s => exact ⟨s, by rw [required, hv]⟩
      | _ => cases htext
    obtain ⟨identifier, hidentifier⟩ := hrequired "identifier" (by simp [nodeFields])
    obtain ⟨path, hpath⟩ := hrequired "path" (by simp [nodeFields])
    obtain ⟨typeName, htypeName⟩ := hrequired "nodeType" (by simp [nodeFields])
    obtain ⟨properties, hentries, hnesting⟩ : ∃ properties,
        propertiesOf definition = .ok properties ∧
          Value.nestingEntries properties ≤ (Value.dict definition mark).nesting := by
      unfold propertiesOf
      cases hfind : Entries.findText? definition "properties" with
      | none => exact ⟨[], rfl, Nat.zero_le _⟩
      | some v =>
        have hle := nesting_le_of_findText? hfind
        rw [hfind] at hproperties
        cases v with
        | none => exact ⟨[], rfl, Nat.zero_le _⟩
        | dict entries mark =>
          rw [Value.nesting] at hle
          dsimp only
          split
          · exact ⟨[], rfl, Nat.zero_le _⟩
          · refine ⟨entries, rfl, ?_⟩
            rw [Value.nesting]
            omega
        | _ => cases hproperties
    simp only [nodeOf, Value.entries?, hidentifier, hpath, htypeName, hentries, bind, Except.bind,
      faultOr] at hf
    cases hassets : propertyEntries base properties with
    | error g =>
      rw [hassets] at hf
      cases hf
      exact (failsOnPart_propertyEntries base properties).mono hnesting f hassets
    | ok entries =>
      rw [hassets] at hf
      cases hget : registry.get (.str typeName) with
      | ok type => simp [hget, pure, Except.pure] at hf
      | error e =>
        simp only [hget] at hf
        cases hf
        exact absurd hget (registry.get_text_ne typeName f)
  | _ => cases h

theorem nodesOf_documented (h : ∀ v ∈ definitions, v.isNodeDefinition = true) {f : Fault}
    (hf : nodesOf registry base definitions = .error (.fault f)) :
    (∃ path, fileAsset base path = .error f) ∨
      f = .tooDeep ∧ listLimit < Value.nestingAll definitions := by
  induction definitions with
  | nil => cases hf
  | cons v rest ih =>
    obtain ⟨hv, hrest⟩ := List.forall_mem_cons.1 h
    rw [nodesOf] at hf
    rw [Value.nestingAll]
    cases hnode : nodeOf registry base v with
    | error e =>
      rw [hnode] at hf
      cases hf
      exact (nodeOf_documented hv hnode).imp id fun ⟨hdeep, hlt⟩ => ⟨hdeep, by omega⟩
    | ok n =>
      rw [hnode] at hf
      cases hothers : nodesOf registry base rest with
      | error e =>
        rw [hothers] at hf
        cases hf
        exact (ih hrest hothers).imp id fun ⟨hdeep, hlt⟩ => ⟨hdeep, by omega⟩
      | ok others =>
        rw [hothers] at hf
        cases hf

/-- Nodes that have been added are there. -/
theorem lt_of_mem_addNodes (st : Store) (nodes : List Node) :
    ∀ id ∈ (st.addNodes nodes).2, id < (st.addNodes nodes).1.nodes.size := by
  have hfold : ∀ (nodes : List Node) (st : Store) (ids : List Nat),
      (∀ id ∈ ids, id < st.nodes.size) →
      let added := nodes.foldl (fun (acc : Store × List Nat) n =>
        ((acc.1.addNode n).1, (acc.1.addNode n).2 :: acc.2)) (st, ids)
      ∀ id ∈ added.2, id < added.1.nodes.size := by
    intro nodes
    induction nodes with
    | nil => exact fun _ _ h => h
    | cons n rest ih =>
      intro st ids h
      have hsize : (st.addNode n).1.nodes.size = st.nodes.size + 1 := Array.size_push ..
      refine ih (st.addNode n).1 _ (List.forall_mem_cons.2 ⟨?_, fun id hid => ?_⟩)
      · rw [hsize]
        exact Nat.lt_succ_self _
      · rw [hsize]
        exact Nat.lt_succ_of_lt (h id hid)
  intro id hid
  exact hfold nodes st [] (List.forall_mem_nil _) id (List.mem_reverse.1 hid)

/-- Loading documented nodes gives nodes that are there, or there is an error, which is a fault only
if an asset has no path or lists stand too deep one in another. -/
theorem loadNodes_documented (registry : Registry) (base : Option FilePath)
    (h : ∀ v ∈ definitions, v.isNodeDefinition = true) (mark : Nat) (st : Store) :
    (∃ ids st', loadNodes registry base (.list definitions mark) st = (.ok ids, st') ∧
      st'.types = st.types ∧ ∀ id ∈ ids, id < st'.nodes.size) ∨
    ∃ e, loadNodes registry base (.list definitions mark) st = (.error e, st) ∧
      ∀ f, e = .fault f → (∃ path, fileAsset base path = .error f) ∨
        f = .tooDeep ∧ listLimit < Value.nestingAll definitions := by
  have hcollect : Eval.collect Eval.standard (.list definitions mark) = pure definitions := rfl
  rw [loadNodes, hcollect, run_bind]
  simp only [run_pure]
  cases hnodes : nodesOf registry base definitions with
  | error e =>
    refine .inr ⟨e, rfl, ?_⟩
    rintro f rfl
    exact nodesOf_documented h hnodes
  | ok nodes =>
    refine .inl ⟨_, _, rfl, ?_, lt_of_mem_addNodes st nodes⟩
    have htypes : ∀ (st : Store) n, (st.addNode n).1.types = st.types := fun _ _ => rfl
    exact Cli.addNodes_kept htypes st nodes

end Nodes

end Loading

/-! ## Loading an export -/

section Exports

variable {q : String → Bool} {content : Value} {entries : Entries} {mark : Nat}

/-- How many types an export defines. -/
def definitionCount (content : Value) : Nat :=
  match content.entries?.bind (Entries.findText? · "nodeTypes") with
  | some (.dict definitions _) => definitions.length
  | _ => 0

theorem length_withMarksEntries (entries done : Entries) (next : Nat) :
    (Value.withMarksEntries entries done next).1.length = entries.length + done.length := by
  induction entries generalizing done next with
  | nil => simp [Value.withMarksEntries]
  | cons e rest ih =>
    rw [Value.withMarksEntries, ih]
    simp
    omega

theorem definitionCount_withMarks (h : content.isExport q = true) (next : Nat) :
    definitionCount (content.withMarks next).1 = definitionCount content := by
  cases content with
  | dict entries mark =>
    have hdefinitions := (Bool.and_eq_true_iff.1 h).1
    obtain ⟨m, hm⟩ := Entries.findText?_withMarks entries "nodeTypes" next
    rw [Value.withMarks.eq_def]
    cases mark with
    | succ mark => rfl
    | zero =>
      simp only [definitionCount, Value.entries?, Option.bind_some, hm]
      cases hf : Entries.findText? entries "nodeTypes" with
      | none => rfl
      | some v =>
        rw [hf] at hdefinitions
        cases v with
        | none => rfl
        | dict definitions mark =>
          rw [Option.map_some, Value.withMarks.eq_def]
          cases mark with
          | succ mark => rfl
          | zero => exact length_withMarksEntries definitions [] m
        | _ => cases hdefinitions
  | _ => cases h

/-- The definitions of types in an export. -/
theorem exists_part_nodeTypes (h : (Value.dict entries mark).isExport q = true) :
    ∃ definitions m, Cli.part entries "nodeTypes" (.dict [] 0) = .dict definitions m ∧
      (Value.dict definitions m).isDefinitions q = true ∧
      definitions.length ≤ definitionCount (.dict entries mark) := by
  have hdefinitions := (Bool.and_eq_true_iff.1 h).1
  simp only [Cli.part, definitionCount, Value.entries?, Option.bind_some]
  cases hf : Entries.findText? entries "nodeTypes" with
  | none => exact ⟨[], 0, rfl, rfl, Nat.zero_le _⟩
  | some v =>
    rw [hf] at hdefinitions
    cases v with
    | none => exact ⟨[], 0, rfl, rfl, Nat.zero_le _⟩
    | dict definitions m =>
      cases definitions with
      | nil => exact ⟨[], 0, rfl, rfl, Nat.zero_le _⟩
      | cons e rest => exact ⟨e :: rest, m, rfl, hdefinitions, Nat.le_refl _⟩
    | _ => cases hdefinitions

/-- The definitions of nodes in an export. -/
theorem exists_part_nodes (h : (Value.dict entries mark).isExport q = true) :
    ∃ definitions m, Cli.part entries "nodes" (.list [] 0) = .list definitions m ∧
      (∀ v ∈ definitions, v.isNodeDefinition = true) ∧
      Value.nestingAll definitions ≤ (Value.dict entries mark).nesting := by
  have hnodes := (Bool.and_eq_true_iff.1 h).2
  simp only [Cli.part]
  cases hf : Entries.findText? entries "nodes" with
  | none => exact ⟨[], 0, rfl, List.forall_mem_nil _, Nat.zero_le _⟩
  | some v =>
    have hle := Loading.nesting_le_of_findText? hf
    rw [hf] at hnodes
    cases v with
    | none => exact ⟨[], 0, rfl, List.forall_mem_nil _, Nat.zero_le _⟩
    | list definitions m =>
      cases definitions with
      | nil => exact ⟨[], 0, rfl, List.forall_mem_nil _, Nat.zero_le _⟩
      | cons v rest =>
        refine ⟨v :: rest, m, rfl, List.all_eq_true.1 hnodes, ?_⟩
        rw [Value.nesting] at hle
        rw [Value.nesting]
        omega
    | _ => cases hnodes

end Exports

namespace Cli

open Loading

/-- The bare faults that loading a documented export may end with. -/
inductive Unloaded (content : Value) : Fault → Prop
  | types (h : heightLimit < definitionCount content) : Unloaded content .tooDeep
  | lists (h : listLimit < content.nesting) : Unloaded content .tooDeep
  | asset {base : Option FilePath} {path : Value} {f : Fault}
      (h : fileAsset base path = .error f) : Unloaded content f

/-- Loading a documented export into a fresh repository: all types have texts as names and rules,
and all nodes are there, or there is an error. -/
theorem loadContent_documented {q : String → Bool} {content : Value} {path : FilePath} {st : Store}
    (hread : JsonFile.read st.files path = .ok content) (hcontent : content.isExport q = true)
    (hst : st.types = #[]) :
    (∃ registry nodes st', loadContent path st = (.ok (registry, nodes), st') ∧
      (∀ t ∈ st'.fixed.2.1, t.HasTexts q) ∧ ∀ id ∈ nodes, id < st'.fixed.2.2) ∨
    ∃ e st', loadContent path st = (.error e, st') ∧ ∀ f, e = .fault f → Unloaded content f := by
  obtain ⟨marked, next, hmark, hmarked⟩ := Eval.exists_fresh content st
  have hexport : marked.isExport q = true ∧ definitionCount marked = definitionCount content ∧
      marked.nesting = content.nesting := by
    rcases hmarked with rfl | rfl
    · exact ⟨hcontent, rfl, rfl⟩
    · exact ⟨marks_isExport q content st.next hcontent, definitionCount_withMarks hcontent _,
        Value.nesting_withMarks content _⟩
  obtain ⟨hexport, hcount, hnesting⟩ := hexport
  cases marked with
  | dict entries mark =>
    obtain ⟨definitions, m, hpart, hdefinitions, hlength⟩ := exists_part_nodeTypes hexport
    obtain ⟨nodes, n, hpart', hnodes, hnested⟩ := exists_part_nodes hexport
    simp only [loadContent, run_bind, run_get, hread, hmark, Value.entries?, hpart, hpart']
    have hfresh : ({ st with next := next } : Store).types = #[] := hst
    rcases loadTypes_documented hdefinitions hfresh with
      ⟨loaded, p, htypes, htexts⟩ | ⟨e, htypes, hfault⟩
    · simp only [htypes]
      rcases loadNodes_documented loaded.1 (some path.parent) hnodes n
        (loadedStore [] { st with next := next } p) with
        ⟨ids, st', hloaded, hsame, hids⟩ | ⟨e, hloaded, hfault⟩
      · simp only [hloaded, run_pure]
        refine .inl ⟨_, ids, st', rfl, fun kept hkept => ?_, hids⟩
        obtain ⟨t, ht, rfl⟩ := List.mem_map.1 hkept
        rw [hsame, Array.mem_toList_iff] at ht
        obtain ⟨id, hid⟩ := Array.mem_iff_getElem?.1 ht
        exact ⟨(htexts id t hid).name, (htexts id t hid).rules⟩
      · simp only [hloaded]
        refine .inr ⟨e, _, rfl, fun f hf => ?_⟩
        rcases hfault f hf with ⟨asset, hasset⟩ | ⟨rfl, hdeep⟩
        · exact .asset hasset
        · exact .lists (hnesting ▸ Nat.lt_of_lt_of_le hdeep hnested)
    · simp only [htypes]
      refine .inr ⟨e, _, rfl, fun f hf => ?_⟩
      obtain ⟨rfl, hlarge⟩ := hfault f hf
      exact .types (hcount ▸ Nat.lt_of_lt_of_le hlarge hlength)
  | _ => cases hexport

/-! ## The command -/

section Command

open Index

variable {q : String → Bool} {o : IndexOptions} {environment : Option String} {files : Files}
  {content : Value}

/-- The documents of the command in a fresh repository. -/
def documentsFor (o : IndexOptions) (environment : Option String) (files : Files) :
    Except Error (List Document) × Extraction :=
  builtDocuments o.content o.settings environment (Indexer.empty (Store.empty files)).extraction

/-- The faults that leave the command, by where they come from: the settings, the types and assets
of the export, the building of a document, its identifier, and the text of all documents. -/
inductive Escapes (q : String → Bool) (o : IndexOptions) (environment : Option String)
    (files : Files) (content : Value) : Fault → Prop
  | settings {f : Fault}
      (h : (loadSettings o.settings environment (Store.empty files)).1 = .error (.fault f)) :
      Escapes q o environment files content f
  | loading {f : Fault} (h : Unloaded content f) : Escapes q o environment files content f
  | document {settings : Settings} {f : Fault}
      (hsettings : (loadSettings o.settings environment (Store.empty files)).1 = .ok settings)
      (h : Unreported settings q f) : Escapes q o environment files content f
  | identifier {ds : List Document} {d : Document} {y : Extraction}
      (hbuilt : documentsFor o environment files = (.ok ds, y))
      (h : ds.find? (fun d => !hasKey d) = some d) :
      Escapes q o environment files content (unhashable d)
  | output {ds : List Document} {y : Extraction} {f : Fault}
      (hbuilt : documentsFor o environment files = (.ok ds, y))
      (h : JsonFile.text Json.pretty (exported y.store ds) = .error f) :
      Escapes q o environment files content f

/-- A fault that ends the building of the documents has one of the causes. -/
theorem escapes_of_documentsFor
    (hread : JsonFile.read files (FilePath.ofText o.content) = .ok content)
    (hcontent : content.isExport q = true) {f : Fault} {y : Extraction}
    (h : documentsFor o environment files = (.error (.fault f), y)) :
    Escapes q o environment files content f := by
  have hread' : JsonFile.read (Store.empty files).files (FilePath.ofText o.content) =
    .ok content := hread
  have hst : (Store.empty files).types = #[] := rfl
  have hlog : Preserves (fun st : Store => st.withLog []) (loadSettings o.settings environment) :=
    loadSettings_kept (fun _ _ => rfl) o.settings environment
  have hkept := hlog (Store.empty files)
  unfold documentsFor builtDocuments at h
  cases hs : loadSettings o.settings environment (Store.empty files) with
  | mk r st =>
  have hsettings := lift_run (x := (Indexer.empty (Store.empty files)).extraction) hs
  rw [run_bind, hsettings] at h
  rw [hs] at hkept
  have hempty : st.withLog [] = Store.empty files := hkept
  cases r with
  | error e =>
    cases h
    exact .settings (congrArg Prod.fst hs)
  | ok settings =>
  have hstored : (loadSettings o.settings environment (Store.empty files)).1 = .ok settings :=
    congrArg Prod.fst hs
  dsimp only at h
  rcases loadContent_documented hread' hcontent hst with
    ⟨registry, nodes, st', hloaded, htypes, hnodes⟩ | ⟨e, st', hloaded, hfault⟩
  · rw [← hempty] at hloaded
    rw [run_bind, lift_run hloaded] at h
    refine .document hstored ((ends_buildAll htypes hnodes).fault ⟨rfl, ?_⟩ h)
    exact nofun
  · rw [← hempty] at hloaded
    rw [run_bind, lift_run hloaded] at h
    cases h
    exact .loading (hfault f rfl)

theorem exists_fault_of_not_printed {e : Error} (h : isPrinted e = false) : ∃ f, e = .fault f := by
  cases e with
  | fault f => exact ⟨f, rfl⟩
  | _ => cases h

end Command

/-! ## A rule that cannot be read -/

section Unread

open Index

/-- Variables that can be built are there for every rule. -/
theorem exists_get {settings : Settings} {entries : Entries}
    (hbuild : Context.build (Context.pathEntries settings.context) = .ok entries)
    (built : Option Context.Variables) (st : Store) :
    ∃ bindings st', Context.get settings.context built st = (.ok bindings, st') := by
  cases hget : Context.get settings.context built st with
  | mk r st' =>
    cases r with
    | ok bindings => exact ⟨bindings, st', rfl⟩
    | error e => cases hbuild.symm.trans (Context.build_of_get (congrArg Prod.fst hget))

/-- A rule that cannot be read fails as its reading does. -/
theorem evaluateFor_unread (unindexed : Unindexed) {settings : Settings} {entries : Entries}
    {text : String} {e : Error}
    (hbuild : Context.build (Context.pathEntries settings.context) = .ok entries)
    (hread : readExpression text = .error e) (id : Nat) (name : Value) (x : Extraction) :
    ∃ y, evaluateFor (evaluating settings unindexed) id name (.str text) x = (.error e, y) := by
  obtain ⟨bindings, st, hget⟩ := exists_get hbuild x.bindings { x.store with log := [] }
  obtain ⟨y, hcommon⟩ : ∃ y, commonVariables (evaluating settings unindexed) x =
      (.ok bindings, y) := by
    have hlift : Index.lift
        (Context.get (evaluating settings unindexed).settings.context x.bindings) x = _ :=
      lift_run hget
    simp only [commonVariables, run_bind, run_get, hlift, run_modify, run_pure]
    exact ⟨_, rfl⟩
  have hrule : ∀ bindings st, evaluate Builtin.every text bindings st = (.error e, st) := by
    intro bindings st
    rw [evaluate, hread]
    rfl
  have hlift : ∀ bindings z, Index.lift
      ((evaluating settings unindexed).evaluator (.str text) bindings) z = _ :=
    fun bindings z => lift_run (hrule bindings _)
  simp only [evaluateFor, evaluateRule, run_bind, run_get, hcommon, run_modify, hlift]
  exact ⟨_, rfl⟩

def brokenText : String :=
  "\x7b\"nodeTypes\":\x7b\"Page\":\x7b\"properties\":\x7b\"title\":\x7b\"search\":" ++
  "\x7b\"indexing\":\"\\u0000\"\x7d\x7d\x7d\x7d\x7d,\"nodes\":[" ++
  "\x7b\"identifier\":\"a\",\"path\":\"/a\",\"nodeType\":\"Page\"\x7d]\x7d"

def brokenFiles : Files :=
  ⟨[], [], [(["c.json"], brokenText.toUTF8)]⟩

/-- The options of the plain command: the shipped settings, and the result is printed. -/
def plainOptions : IndexOptions :=
  ⟨"c.json", .absent, none, none, false⟩

/-- The fault of a text with a null character. -/
def nullCharacter : Fault :=
  .wrongValue "source code string cannot contain null bytes"

def brokenRules (mark : Nat) : Entries :=
  [(.str "properties", .dict [(.str "title", .dict [(.str "search",
    .dict [(.str "indexing", .str "\x00")] mark)] (mark + 1))] (mark + 2))]

def brokenType : NodeType :=
  ⟨Name.ofText "Page", [], brokenRules 16 ++ [(.str "abstract", .bool false)],
    [(.str "title", ⟨.none, .str "\x00", .none⟩)], 24⟩

/-- The export before its parts get their marks. -/
def brokenContent : Value :=
  .dict [(.str "nodeTypes", .dict [(.str "Page", .dict [(.str "properties",
      .dict [(.str "title", .dict [(.str "search",
        .dict [(.str "indexing", .str "\x00")] 0)] 0)] 0)] 0)] 0),
    (.str "nodes", .list [plainDefinition "/a" 0] 0)] 0

def isBroken : Json → Bool
  | .object [("nodeTypes", .object [("Page", .object [("properties", .object [("title",
      .object [("search", .object [("indexing", .str "\x00")])])])])]), ("nodes", .array
      [.object [("identifier", .str "a"), ("path", .str "/a"), ("nodeType", .str "Page")]])] =>
    true
  | _ => false

theorem read_broken : JsonFile.read brokenFiles (FilePath.ofText "c.json") = .ok brokenContent := by
  have htext : brokenFiles.readText (FilePath.ofText "c.json") = .ok brokenText :=
    Files.readText_of_read rfl (by decide +kernel)
  have hparse : (Json.parse brokenText).toOption.any isBroken = true := by decide +kernel
  obtain ⟨j, hj, hbroken⟩ := (Option.any_eq_true _ _).1 hparse
  rw [JsonFile.read, htext]
  dsimp only
  rw [eq_ok_of_toOption hj]
  unfold isBroken at hbroken
  split at hbroken
  · simp [Value.ofJson, Value.ofJsonMembers, Value.ofJsonAll, Entries.ofList_of_distinct,
      Value.key?, plainDefinition, brokenContent]
  · cases hbroken

theorem loadTypes_broken {st : Store} (h : IsNew st) :
    ∃ st', Loading.loadTypes [] (.dict [(.str "Page", .dict (brokenRules 16) 19)] 20)
        { st with next := 24 } = (.ok ([([.str "Page"], 0)], [0]), st') ∧
      st'.types = #[brokenType] ∧ st'.nodes = #[] ∧ st'.next = 28 := by
  have hmake : NodeType.make (.ofText "Page") []
      (Loading.configuration #[] [] (brokenRules 16)) = .ok { brokenType with mark := 0 } := rfl
  obtain ⟨types, nodes, cursors, cells, depth, files, log, next, altered, changed, extras⟩ := st
  obtain ⟨rfl, rfl, rfl, rfl⟩ := h
  exact ⟨_, Loading.loadTypes_single rfl rfl hmake rfl, rfl, rfl, rfl⟩

theorem loadNodes_broken {st : Store} (ht : st.types = #[brokenType]) (hn : st.nodes = #[])
    (hm : st.next = 28) :
    ∃ st', Loading.loadNodes [([.str "Page"], 0)] (some (FilePath.ofText "c.json").parent)
        (.list [plainDefinition "/a" 21] 22) st = (.ok [0], st') ∧
      st'.types = #[brokenType] ∧ st'.nodes = #[plainNode "/a" 28] := by
  obtain ⟨types, nodes, cursors, cells, depth, files, log, next, altered, changed, extras⟩ := st
  cases ht
  cases hn
  cases hm
  exact ⟨_, rfl, rfl, rfl⟩

theorem loadContent_broken {st : Store} (h : IsNew st)
    (hread : JsonFile.read st.files (FilePath.ofText "c.json") = .ok brokenContent) :
    ∃ st', loadContent (FilePath.ofText "c.json") st = (.ok ([([.str "Page"], 0)], [0]), st') ∧
      st'.types = #[brokenType] ∧ st'.nodes = #[plainNode "/a" 28] := by
  obtain ⟨st₁, htypes, ht, hn, hm⟩ := loadTypes_broken h
  obtain ⟨st₂, hnodes, hst⟩ := loadNodes_broken ht hn hm
  let entries : Entries :=
    [(.str "nodeTypes", .dict [(.str "Page", .dict (brokenRules 16) 19)] 20),
      (.str "nodes", .list [plainDefinition "/a" 21] 22)]
  have hmarks : brokenContent.withMarks st.next = (.dict entries 23, 24) := by
    rw [h.next]
    rfl
  exact ⟨st₂, loadContent_of_parts hread rfl hmarks htypes hnodes, hst⟩

theorem build_broken {x : Extraction} (ht : x.store.types = #[brokenType])
    (hn : x.store.nodes = #[plainNode "/a" 28]) :
    ∃ y, build (evaluating Settings.standard .ignore) 0 none x =
      (.error (.fault nullCharacter), y) := by
  have hcontext : (Context.build (Context.pathEntries Settings.standard.context)).toOption.isSome =
    true := by decide +kernel
  obtain ⟨entries, hentries⟩ := Option.isSome_iff_exists.1 hcontext
  have hread : readExpression "\x00" = .error (.fault nullCharacter) := rfl
  obtain ⟨y, heval⟩ := evaluateFor_unread .ignore (eq_ok_of_toOption hentries) hread 0
    (.str "title") { x with buckets := [] }
  have hnode : x.store.node? 0 = some (plainNode "/a" 28) := by
    rw [Store.node?, hn]
    rfl
  have htype : x.store.type? (plainNode "/a" 28).type = some brokenType := by
    rw [Store.type?, ht]
    rfl
  have hrule : effectiveRule Settings.standard ⟨.none, .str "\x00", .none⟩ =
    .ok (.str "\x00") := rfl
  have hempty : isEmptyRule (.str "\x00") = false := rfl
  simp only [build, run_bind, run_modify, extract, run_get, hnode, htype, brokenType, extractAll,
    extractProperty, storedEntry, hrule, liftFault, run_pure, hempty, heval, Bool.false_eq_true,
    if_false]
  exact ⟨_, rfl⟩

theorem builtDocuments_broken {x : Extraction} (h : IsNew x.store)
    (hread : JsonFile.read x.store.files (FilePath.ofText "c.json") = .ok brokenContent) :
    ∃ y, builtDocuments "c.json" .absent none x = (.error (.fault nullCharacter), y) := by
  have hnew : IsNew (x.store.withLog []) := ⟨h.types, h.nodes, h.next, h.changed⟩
  obtain ⟨st, hcontent, ht, hn⟩ := loadContent_broken hnew hread
  obtain ⟨log, hsettings⟩ := loadSettings_absent x
  obtain ⟨z, hloaded, ht, hn⟩ : ∃ z, Index.lift (loadContent (FilePath.ofText "c.json"))
      (x.withLog log) = (.ok ([([.str "Page"], 0)], [0]), z) ∧
        z.store.types = #[brokenType] ∧ z.store.nodes = #[plainNode "/a" 28] :=
    ⟨_, lift_run hcontent, ht, hn⟩
  obtain ⟨y, hbuild⟩ := build_broken ht hn
  simp only [builtDocuments, run_bind, hsettings, hloaded, buildAll, hbuild]
  exact ⟨_, rfl⟩

theorem documentsFor_broken :
    ∃ y, documentsFor plainOptions none brokenFiles = (.error (.fault nullCharacter), y) :=
  builtDocuments_broken (isNew_empty brokenFiles) read_broken

theorem status_broken : (runIndex plainOptions none (Store.empty brokenFiles)).status =
    .error (.fault nullCharacter) := by
  obtain ⟨y, hbuilt⟩ := documentsFor_broken
  have hsame := runIndex_same plainOptions none (Store.empty brokenFiles)
  rw [← documentsFor, hbuilt] at hsame
  exact hsame.status

theorem isExport_broken : brokenContent.isExport (fun _ => true) = true := by
  simp [brokenContent, Value.isExport, Value.isDefinitions, Value.isSectionOf, Value.isDefinition,
    Value.isListOf, Value.isNodeDefinition, Entries.findText?, Entries.find?, Value.hasKey,
    Value.key?, plainDefinition, nodeFields, isTextKey, Value.isText, hasRules, ruledProperties,
    ruledProperty, searchRules, Shape.under, Value.isTextIf]

end Unread

end Cli

end ContentIndex
