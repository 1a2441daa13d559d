import ContentIndex.Proofs.Cli.Kept
import ContentIndex.Proofs.Files
import ContentIndex.Proofs.Loading.Assembly

/-!
# The command that indexes an export

What the command prints, its exit code and the file that it writes come from the documents of the
nodes alone. Options say where the result goes; the workspace, warnings and debug messages have no
part in it. A failure is printed and leaves all files as they were.
-/

namespace ContentIndex.Cli

set_option autoImplicit false

open Index

section Runs

variable {content : String} {settings : PathChoice} {environment : Option String} {st : Store}

/-- How indexing ends once the documents are built. -/
def settledResult : Except Error (List Document) → Except Error Unit
  | .error e => .error e
  | .ok ds =>
    match ds.find? fun d => !hasKey d with
    | some d => .error (.fault (unhashable d))
    | none => .ok ()

theorem lift_run {α : Type} {action : Eval α} {x : Extraction} {r : Except Error α} {st : Store}
    (h : action { x.store with log := [] } = (r, st)) :
    Index.lift action x = (r, { x with store := st.withLog (x.store.log ++ st.log) }) := by
  simp only [Index.lift, h]
  rfl

theorem liftExtract_run {α : Type} {a b : Extract α} (hab : Alike a b) (z : Extraction)
    (log : List LogRecord) (documents : Documents) (pending : List Change) :
    ∃ log', liftExtract b ⟨z.withLog log, documents, pending⟩ =
      ((a z).1, ⟨(a z).2.withLog log', documents, pending⟩) := by
  obtain ⟨log', h⟩ := hab z log
  exact ⟨log', by simp only [liftExtract, h]⟩

theorem flush_failed {x : Indexer} {documents : Documents} {f : Fault}
    (h : Change.applyAll x.documents x.pending = (documents, some f)) :
    flush x = (.error (.fault f), { x with documents := documents }) := by
  simp only [flush, run_bind, run_get, h, run_set, run_throw]

theorem flush_done {x : Indexer} {documents : Documents}
    (h : Change.applyAll x.documents x.pending = (documents, none)) :
    ∃ n log, flush x = (.ok n, ⟨x.extraction.withLog log, documents, []⟩) := by
  simp only [flush, run_bind, run_get, h, run_set, note_run, run_pure]
  exact ⟨_, _, rfl⟩

/-- Flushing after the documents of all nodes have been staged. -/
theorem flush_run (ds : List Document) (target : Option String) (z : Extraction) :
    ∃ r log documents pending,
      flush ⟨z, [], ds.map fun d => .write (Document.within target d)⟩ =
        (r, ⟨z.withLog log, documents, pending⟩) ∧
      (r.map fun _ => ()) = settledResult (.ok ds) ∧
      ((∀ d ∈ ds, hasKey d = true) →
        documents = Table.under (place target) (Document.within target)
          (latest (fun d => d.identifier.key?) ds)) := by
  cases hfind : ds.find? fun d => !hasKey d with
  | some d =>
    obtain ⟨documents, happly⟩ : ∃ documents, Change.applyAll []
        (ds.map fun d => .write (Document.within target d)) =
          (documents, some (unhashable d)) := applyAll_of_unkeyed hfind
    refine ⟨_, z.store.log, documents, _, flush_failed happly, ?_, ?_⟩
    · simp only [settledResult, hfind, Except.map]
    · intro hkeys
      have hd := List.find?_some hfind
      simp [hkeys d (List.mem_of_find?_eq_some hfind)] at hd
  | none =>
    have hkeys : ∀ d ∈ ds, hasKey d = true := by simpa using hfind
    obtain ⟨n, log, hflush⟩ := flush_done
      (x := ⟨z, [], ds.map fun d => .write (Document.within target d)⟩) (applyAll_latest hkeys)
    refine ⟨_, log, _, _, hflush, ?_, fun _ => rfl⟩
    simp only [settledResult, hfind, Except.map]

/-- Indexing an export builds its documents, and fails if one of them cannot be kept. -/
theorem indexContent_run (o : IndexOptions) (environment : Option String) (z : Extraction)
    (log : List LogRecord) :
    ∃ r y log' documents pending, builtDocuments o.content o.settings environment z = (r, y) ∧
      indexContent o environment ⟨z.withLog log, [], []⟩ =
        (settledResult r, ⟨y.withLog log', documents, pending⟩) ∧
      ∀ ds, r = .ok ds → (∀ d ∈ ds, hasKey d = true) →
        documents = Table.under (place o.workspace) (Document.within o.workspace)
          (latest (fun d => d.identifier.key?) ds) := by
  obtain ⟨log₁, h₁⟩ := liftExtract_run (.lift (loadSettings o.settings environment)) z log [] []
  rw [indexContent, builtDocuments, run_bind, run_bind, lift, h₁]
  cases Index.lift (loadSettings o.settings environment) z with
  | mk r z₁ =>
  cases r with
  | error e => exact ⟨.error e, z₁, log₁, [], [], rfl, rfl, nofun⟩
  | ok settings =>
  obtain ⟨log₂, h₂⟩ := liftExtract_run (.lift (loadContent (FilePath.ofText o.content)))
    z₁ log₁ [] []
  dsimp only
  rw [run_bind, run_bind, lift, h₂]
  cases Index.lift (loadContent (FilePath.ofText o.content)) z₁ with
  | mk r z₂ =>
  cases r with
  | error e => exact ⟨.error e, z₂, log₂, [], [], rfl, rfl, nofun⟩
  | ok loaded =>
  obtain ⟨registry, nodes⟩ := loaded
  obtain ⟨log₃, h₃⟩ := liftExtract_run
    (.lift (Eval.note .info (indexingMessage nodes.length o.content))) z₂ log₂ [] []
  have hnote : liftExtract (Index.lift (Eval.note .info (indexingMessage nodes.length o.content)))
      ⟨z₂.withLog log₂, [], []⟩ = (.ok (), ⟨z₂.withLog log₃, [], []⟩) := by
    rw [h₃, lift_note]
    rfl
  have hway : Unindexed.ignore.Notes (if o.strict then .warn else .ignore) := by
    cases o.strict
    · exact .inl rfl
    · exact .inr ⟨nofun, nofun⟩
  obtain ⟨log₄, pending, h₄, hstaged⟩ := indexAll_run
    (s := ⟨settings, RuleEvaluator.standard, .ignore⟩) hway o.workspace nodes z₂ log₃ [] []
  dsimp only
  rw [run_bind, lift, hnote]
  dsimp only
  rw [run_bind, h₄]
  cases hbuilt : buildAll ⟨settings, RuleEvaluator.standard, .ignore⟩ nodes z₂ with
  | mk r z₃ =>
  rw [hbuilt] at hstaged
  cases r with
  | error e => exact ⟨.error e, z₃, log₄, [], pending, rfl, rfl, nofun⟩
  | ok ds =>
  obtain ⟨r, log₅, documents, pending', hflush, hresult, hdocuments⟩ :=
    flush_run ds o.workspace (z₃.withLog log₄)
  rw [hstaged ds rfl, List.nil_append]
  refine ⟨.ok ds, z₃, log₅, documents, pending', rfl, ?_, ?_⟩
  · dsimp only [Except.map]
    rw [run_bind, hflush, ← hresult]
    cases r <;> rfl
  · rintro _ ⟨⟩ hkeys
    exact hdocuments hkeys

end Runs

/-! ## Outcomes -/

/-- The same is printed, the exit code is the same and the files are left the same. -/
structure Outcome.Same (a b : Outcome) : Prop where
  printed : a.printed = b.printed
  status : a.status = b.status
  files : a.store.files = b.store.files

theorem Outcome.Same.refl (a : Outcome) : a.Same a :=
  ⟨rfl, rfl, rfl⟩

theorem Outcome.Same.symm {a b : Outcome} (h : a.Same b) : b.Same a :=
  ⟨h.printed.symm, h.status.symm, h.files.symm⟩

theorem Outcome.Same.trans {a b c : Outcome} (h : a.Same b) (h' : b.Same c) : a.Same c :=
  ⟨h.printed.trans h'.printed, h.status.trans h'.status, h.files.trans h'.files⟩

section Outcomes

variable {o : IndexOptions} {environment : Option String} {st : Store}

theorem failed_withLog (printed : String) (report : String → String) (e : Error) (st : Store)
    (log : List LogRecord) :
    (failed printed report e (st.withLog log)).Same (failed printed report e st) := by
  unfold failed
  split
  · exact ⟨rfl, rfl, rfl⟩
  · exact ⟨rfl, rfl, rfl⟩

theorem printDocuments_withLog (o : IndexOptions) (result : Value) (st : Store)
    (log : List LogRecord) :
    (printDocuments o result (st.withLog log)).Same (printDocuments o result st) := by
  have hfiles : (st.withLog log).files = st.files := rfl
  unfold printDocuments
  rw [hfiles]
  split
  · dsimp only
    split
    · exact ⟨rfl, rfl, rfl⟩
    · exact ⟨rfl, rfl, rfl⟩
  · split
    · exact ⟨rfl, rfl, rfl⟩
    · exact ⟨rfl, rfl, rfl⟩

/-- The outcome of the command, given the documents of the nodes. -/
def outcomeOf (o : IndexOptions) : Except Error (List Document) × Extraction → Outcome
  | (.error e, y) => failed "" indexFailed e y.store
  | (.ok ds, y) =>
    match settledResult (.ok ds) with
    | .error e => failed "" indexFailed e y.store
    | .ok _ => printDocuments o (exported y.store ds) y.store

theorem runIndex_same (o : IndexOptions) (environment : Option String) (st : Store) :
    (runIndex o environment st).Same
      (outcomeOf o
        (builtDocuments o.content o.settings environment (Indexer.empty st).extraction)) := by
  obtain ⟨r, y, log, documents, pending, hbuilt, hrun, hdocuments⟩ :=
    indexContent_run o environment (Indexer.empty st).extraction st.log
  have hstart : Indexer.empty st = ⟨(Indexer.empty st).extraction.withLog st.log, [], []⟩ := rfl
  rw [hbuilt, runIndex]
  rw [← hstart] at hrun
  rw [hrun]
  cases r with
  | error e => exact failed_withLog "" indexFailed e y.store log
  | ok ds =>
    cases hfind : ds.find? fun d => !hasKey d with
    | some d =>
      have hresult : settledResult (.ok ds) = .error (.fault (unhashable d)) := by
        simp only [settledResult, hfind]
      simp only [outcomeOf, hresult]
      exact failed_withLog "" indexFailed _ y.store log
    | none =>
      have hkeys : ∀ d ∈ ds, hasKey d = true := by simpa using hfind
      have hresult : settledResult (.ok ds) = .ok () := by
        simp only [settledResult, hfind]
      simp only [outcomeOf, hresult]
      rw [hdocuments ds rfl hkeys]
      have hexported := documentsValue_eq y.store log o.workspace ds
      have hstore : (y.withLog log).store = y.store.withLog log := rfl
      rw [hstore, hexported]
      exact printDocuments_withLog o _ y.store log

/-- Where the result goes is the only option that matters. -/
theorem outcomeOf_congr (o o' : IndexOptions) (h : o.output = o'.output)
    (built : Except Error (List Document) × Extraction) :
    outcomeOf o built = outcomeOf o' built := by
  have hprint : ∀ result st, printDocuments o result st = printDocuments o' result st := by
    intro result st
    unfold printDocuments
    rw [h]
  unfold outcomeOf
  simp only [hprint]

theorem settledResult_of_keyed {ds : List Document} (h : ∀ d ∈ ds, hasKey d = true) :
    settledResult (.ok ds) = .ok () := by
  have hnone : ds.find? (fun d => !hasKey d) = none := by simpa using h
  simp only [settledResult, hnone]

/-- Printed, the text ends with a line break. -/
theorem outcomeOf_printed {ds : List Document} {y : Extraction} {text : String}
    (hkeys : ∀ d ∈ ds, hasKey d = true)
    (htext : JsonFile.text Json.pretty (exported y.store ds) = .ok text)
    (ho : o.output.filter (!·.isEmpty) = none) :
    outcomeOf o (.ok ds, y) = ⟨text ++ "\n", .ok 0, y.store⟩ := by
  simp only [outcomeOf, settledResult_of_keyed hkeys, printDocuments, ho, htext, ended]

/-- Written, the text is the whole content of the file. -/
theorem outcomeOf_written {ds : List Document} {y : Extraction} {text path : String}
    {files : Files} (hkeys : ∀ d ∈ ds, hasKey d = true)
    (htext : JsonFile.text Json.pretty (exported y.store ds) = .ok text)
    (ho : o.output = some path) (hpath : path ≠ "")
    (hwrite : y.store.files.write (FilePath.ofText path) text.toUTF8 = .ok files) :
    ∃ printed, outcomeOf o (.ok ds, y) = ⟨printed, .ok 0, { y.store with files := files }⟩ := by
  have hfilter : o.output.filter (!·.isEmpty) = some path := by
    simp [ho, Option.filter, hpath]
  have hfile : JsonFile.write y.store.files (FilePath.ofText path) Json.pretty
      (exported y.store ds) = .ok files := by
    simp only [JsonFile.write, htext, bind, Except.bind, hwrite]
  simp only [outcomeOf, settledResult_of_keyed hkeys, printDocuments, hfilter, hfile, ended]
  exact ⟨_, rfl⟩

end Outcomes

/-! ## What the command does -/

section Command

end Command

/-! ## Two pages with one identifier -/

def pagesText : String :=
  "\x7b\"nodeTypes\":\x7b\"Page\":\x7b\x7d\x7d,\"nodes\":[" ++
  "\x7b\"identifier\":\"a\",\"path\":\"/a\",\"nodeType\":\"Page\"\x7d," ++
  "\x7b\"identifier\":\"a\",\"path\":\"/b\",\"nodeType\":\"Page\"\x7d]\x7d"

def pagesStore : Store :=
  Store.empty ⟨[], [], [(["c.json"], pagesText.toUTF8)]⟩

def plainDefinition (path : String) (mark : Nat) : Value :=
  .dict [(.str "identifier", .str "a"), (.str "path", .str path), (.str "nodeType", .str "Page")]
    mark

def isPages : Json → Bool
  | .object [("nodeTypes", .object [("Page", .object [])]), ("nodes", .array
      [.object [("identifier", .str "a"), ("path", .str "/a"), ("nodeType", .str "Page")],
       .object [("identifier", .str "a"), ("path", .str "/b"), ("nodeType", .str "Page")]])] =>
    true
  | _ => false

/-- The export before its parts get their marks. -/
def pagesContent : Value :=
  .dict [(.str "nodeTypes", .dict [(.str "Page", .dict [] 0)] 0),
    (.str "nodes", .list [plainDefinition "/a" 0, plainDefinition "/b" 0] 0)] 0

theorem eq_ok_of_toOption {ε α : Type} {r : Except ε α} {a : α} (h : r.toOption = some a) :
    r = .ok a := by
  cases r with
  | error e => cases h
  | ok b => exact congrArg Except.ok (Option.some.inj h)

theorem readText_pages : pagesStore.files.readText (FilePath.ofText "c.json") = .ok pagesText :=
  have hplain : '\r' ∉ pagesText.toList := by decide +kernel
  Files.readText_of_read rfl hplain

theorem parse_pages : ∃ j, Json.parse pagesText = .ok j ∧ isPages j = true := by
  have h : (Json.parse pagesText).toOption.any isPages = true := by decide +kernel
  cases hj : Json.parse pagesText with
  | error e => rw [hj] at h; cases h
  | ok j => rw [hj] at h; exact ⟨j, rfl, h⟩

theorem read_pages : JsonFile.read pagesStore.files (FilePath.ofText "c.json") =
    .ok pagesContent := by
  obtain ⟨j, hparse, hj⟩ := parse_pages
  rw [JsonFile.read, readText_pages]
  dsimp only
  rw [hparse]
  unfold isPages at hj
  split at hj
  · simp [Value.ofJson, Value.ofJsonMembers, Value.ofJsonAll, Entries.ofList_of_distinct,
      Value.key?, plainDefinition, pagesContent]
  · cases hj

def plainType : NodeType :=
  ⟨Name.ofText "Page", [], [(.str "abstract", .bool false)], [], 22⟩

def plainNode (path : String) (mark : Nat) : Node :=
  ⟨.str "a", .str path, 0, .str "Page", [], mark⟩

/-- A repository that has nothing yet but its files. -/
structure IsNew (st : Store) : Prop where
  types : st.types = #[]
  nodes : st.nodes = #[]
  next : st.next = Store.firstMark
  changed : st.changed = []

theorem isNew_empty (files : Files) : IsNew (Store.empty files) :=
  ⟨rfl, rfl, rfl, rfl⟩

theorem loadTypes_pages {st : Store} (h : IsNew st) :
    ∃ st', Loading.loadTypes [] (.dict [(.str "Page", .dict [] 16)] 17) { st with next := 22 } =
        (.ok ([([.str "Page"], 0)], [0]), st') ∧
      st'.types = #[plainType] ∧ st'.nodes = #[] ∧ st'.next = 25 ∧ st'.changed = [] := by
  have hmake : NodeType.make (.ofText "Page") [] (Loading.configuration #[] [] []) =
    .ok { plainType with mark := 0 } := rfl
  obtain ⟨types, nodes, cursors, cells, depth, files, log, next, altered, changed, extras⟩ := st
  obtain ⟨rfl, rfl, rfl, rfl⟩ := h
  exact ⟨_, Loading.loadTypes_single rfl rfl hmake rfl, rfl, rfl, rfl, rfl⟩

/-- The repository once both pages are loaded. -/
structure HasPages (st : Store) : Prop where
  types : st.types = #[plainType]
  nodes : st.nodes = #[plainNode "/a" 25, plainNode "/b" 26]
  changed : st.changed = []

theorem loadNodes_pages {st : Store} (ht : st.types = #[plainType]) (hn : st.nodes = #[])
    (hm : st.next = 25) (hc : st.changed = []) :
    ∃ st', Loading.loadNodes [([.str "Page"], 0)] (some (FilePath.ofText "c.json").parent)
        (.list [plainDefinition "/a" 18, plainDefinition "/b" 19] 20) st = (.ok [0, 1], st') ∧
      HasPages st' := by
  obtain ⟨types, nodes, cursors, cells, depth, files, log, next, altered, changed, extras⟩ := st
  cases ht
  cases hn
  cases hm
  cases hc
  exact ⟨_, rfl, rfl, rfl, rfl⟩

/-- Loading an export from its parts, which get marks of their own first. -/
theorem loadContent_of_parts {path : FilePath} {content : Value} {entries : Entries}
    {mark next : Nat} {registry : Registry} {made nodes : List Nat} {st after last : Store}
    (hread : JsonFile.read st.files path = .ok content) (hunmarked : content.isUnmarked = true)
    (hmarks : content.withMarks st.next = (.dict entries mark, next))
    (htypes : Loading.loadTypes [] (part entries "nodeTypes" (.dict [] 0))
      { st with next := next } = (.ok (registry, made), after))
    (hnodes : Loading.loadNodes registry (some path.parent) (part entries "nodes" (.list [] 0))
      after = (.ok nodes, last)) :
    loadContent path st = (.ok (registry, nodes), last) := by
  have hfresh : Eval.fresh content st = (.ok (.dict entries mark), { st with next := next }) := by
    simp only [Eval.fresh, hunmarked, if_true, run_bind, run_get, Store.mark, hmarks, run_set,
      run_pure]
  simp only [loadContent, run_bind, run_get, hread, hfresh, Value.entries?, htypes, hnodes,
    run_pure]

theorem loadContent_pages {st : Store} (h : IsNew st)
    (hread : JsonFile.read st.files (FilePath.ofText "c.json") = .ok pagesContent) :
    ∃ st', loadContent (FilePath.ofText "c.json") st = (.ok ([([.str "Page"], 0)], [0, 1]), st') ∧
      HasPages st' := by
  obtain ⟨st₁, htypes, ht, hn, hm, hc⟩ := loadTypes_pages h
  obtain ⟨st₂, hnodes, hst⟩ := loadNodes_pages ht hn hm hc
  let entries : Entries := [(.str "nodeTypes", .dict [(.str "Page", .dict [] 16)] 17),
    (.str "nodes", .list [plainDefinition "/a" 18, plainDefinition "/b" 19] 20)]
  have hmarks : pagesContent.withMarks st.next = (.dict entries 21, 22) := by
    rw [h.next]
    rfl
  exact ⟨st₂, loadContent_of_parts hread rfl hmarks htypes hnodes, hst⟩

def plainDocument (path : String) : Document :=
  ⟨.str "a", "live", [(.str "__identifier", .str "a"), (.str "__path", .str path),
    (.str "__parentPath", .ofTexts [['/']]),
    (.str "__typeAndSupertypes", .list [.str "Page"] 0)], []⟩

theorem build_plainNode (s : Setup) {x : Extraction} (h : HasPages x.store) {id : Nat}
    {path : String} {mark : Nat} (hn : x.store.node? id = some (plainNode path mark))
    (hpath : NodePath.parent? path.toList = some ['/']) :
    build s id none x = (.ok (plainDocument path), { x with buckets := [] }) := by
  have ht : x.store.types[0]? = some plainType := by rw [h.types]; rfl
  have hextract : extract s id { x with buckets := [] } = (.ok [], { x with buckets := [] }) := by
    have hnode : ({ x with buckets := [] } : Extraction).store.node? id =
      some (plainNode path mark) := hn
    have htype : ({ x with buckets := [] } : Extraction).store.type? 0 = some plainType := ht
    simp only [extract, run_bind, run_get, hnode]
    rw [show (plainNode path mark).type = 0 from rfl, htype]
    rfl
  have hnames : Indexing.typeNames x.store.types (x.store.typeValue (plainNode path mark).type) =
      .ok (.list [.str "Page"] 0) :=
    @typeNames_of_root _ ⟨0, _⟩ plainType ht rfl
  have hpaths : ancestorPaths (plainNode path mark) = .ok (.ofTexts [['/']]) := by
    simp only [ancestorPaths, Node.parentPath, plainNode, Node.pathChars, Except.map, hpath]
    rfl
  have hdata : withNodeData x.store (plainNode path mark) [] =
      .ok (plainDocument path).properties := by
    simp only [withNodeData, hpaths, hnames]
    rfl
  exact build_of_extract hextract hn hdata

/-- Where no settings are asked for, the shipped ones apply. -/
theorem loadSettings_absent (x : Extraction) :
    ∃ log, Index.lift (loadSettings .absent none) x =
      (.ok Settings.standard, x.withLog log) :=
  ⟨_, rfl⟩

theorem builtDocuments_pages {x : Extraction} (h : IsNew x.store)
    (hread : JsonFile.read x.store.files (FilePath.ofText "c.json") = .ok pagesContent) :
    ∃ y, builtDocuments "c.json" .absent none x =
      (.ok [plainDocument "/a", plainDocument "/b"], y) ∧ HasPages y.store := by
  have hnew : IsNew (x.store.withLog []) := ⟨h.types, h.nodes, h.next, h.changed⟩
  obtain ⟨st, hcontent, hst⟩ := loadContent_pages hnew hread
  obtain ⟨log, hsettings⟩ := loadSettings_absent x
  have hloaded := lift_run (x := x.withLog log) hcontent
  have hpages : ∀ log, HasPages (st.withLog log) := fun _ =>
    ⟨hst.types, hst.nodes, hst.changed⟩
  have hfirst : ∀ log, (st.withLog log).node? 0 = some (plainNode "/a" 25) := by
    intro log
    simp [Store.node?, (hpages log).nodes]
  have hlast : ∀ log, (st.withLog log).node? 1 = some (plainNode "/b" 26) := by
    intro log
    simp [Store.node?, (hpages log).nodes]
  simp only [builtDocuments, run_bind, hsettings, hloaded, buildAll]
  rw [build_plainNode _ (hpages _) (hfirst _) rfl]
  dsimp only
  rw [build_plainNode _ (hpages _) (hlast _) rfl]
  exact ⟨_, rfl, hpages _⟩

/-- What is exported of the pages: the document of the last one. -/
def pagesValue : Value :=
  .dict [(.str "a", .dict [(.str "properties", .dict (plainDocument "/b").properties 0),
    (.str "fulltext", .dict [] 0)] 0)] 0

theorem exported_pages {st : Store} (h : st.changed = []) :
    exported st [plainDocument "/a", plainDocument "/b"] = pagesValue := by
  obtain ⟨types, nodes, cursors, cells, depth, files, log, next, altered, changed, extras⟩ := st
  cases h
  rfl

end ContentIndex.Cli
