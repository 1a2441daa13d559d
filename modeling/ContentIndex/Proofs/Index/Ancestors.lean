import ContentIndex.Proofs.Entries
import ContentIndex.Proofs.Index.Staging
import ContentIndex.Proofs.Paths.Parents

/-!
# Documents and the nodes above them

The document of a node lists the paths above the path of the node, which are those of the proper
beginnings of its names. So one node is above another just if its names are a proper beginning of
those of the other, whatever the names look like as texts.

This is for names joined by single slashes. For any other path the document lists the prefixes of
the parent, whose path is shorter unless the path is a name that no slash stands before or behind.
-/

namespace ContentIndex.Index

set_option autoImplicit false

open NodePath

section Data

variable {n : Node} {path : List Char} {segments : List (List Char)}

theorem parentPath_text (hp : n.path = .str (String.ofList path)) :
    n.parentPath = .ok (match parent? path with
      | some parent => .chars parent
      | none => .none) := by
  have hchars : Node.pathChars n.path = .ok path := by
    rw [hp]
    exact congrArg Except.ok String.toList_ofList
  rw [Node.parentPath, hchars]
  rfl

/-- The document of a node lists the prefixes of the parent. -/
theorem ancestorPaths_text (hp : n.path = .str (String.ofList path)) :
    ancestorPaths n = .ok (.ofTexts (parentPrefixes path)) := by
  rw [ancestorPaths, parentPath_text hp, parentPrefixes]
  cases parent? path with
  | none => rfl
  | some parent => exact pathPrefixes_text parent

theorem pathPrefixes_absolute (segments : List (List Char)) :
    Indexing.pathPrefixes (.chars (absolute segments)) =
      .ok (.ofTexts (prefixes (absolute segments))) :=
  pathPrefixes_text _

/-- The paths above the path of a node, as its document lists them. -/
theorem ancestorPaths_eq (h : AreSegments segments)
    (hp : n.path = .str (String.ofList (absolute segments))) :
    ancestorPaths n = .ok (.ofTexts (ancestors segments)) := by
  rw [ancestorPaths_text hp, parentPrefixes_absolute h]

end Data

section Building

variable {s : Setup} {id : Nat} {target : Option String} {x y : Extraction} {n : Node}
  {stored : Entries} {segments : List (List Char)}

/-- A document is made of what is extracted and of the node as it is then. -/
theorem build_cases {r : Except Error Document} (hbuild : build s id target x = (r, y))
    (hn : y.store.node? id = some n) :
    (∃ e, r = .error e ∧ (extract s id { x with buckets := [] }).1 = .error e) ∨
      ∃ stored, r = (withNodeData y.store n stored).map fun properties =>
        ⟨n.identifier, workspaceOf target, properties, y.buckets⟩ := by
  simp only [build, run_bind, run_modify, run_get] at hbuild
  cases hextract : extract s id { x with buckets := [] } with
  | mk result z =>
    rw [hextract] at hbuild
    cases result with
    | error e =>
      cases hbuild
      exact .inl ⟨e, rfl, rfl⟩
    | ok stored =>
      refine .inr ⟨stored, ?_⟩
      dsimp only at hbuild
      cases hnode : z.store.node? id with
      | none =>
        rw [hnode] at hbuild
        cases hbuild
        cases hn.symm.trans hnode
      | some m =>
        rw [hnode] at hbuild
        simp only [run_bind, run_pure] at hbuild
        cases hdata : withNodeData z.store m stored with
        | error e =>
          rw [hdata] at hbuild
          cases hbuild
          cases hn.symm.trans hnode
          rw [hdata]
          rfl
        | ok properties =>
          rw [hdata] at hbuild
          cases hbuild
          cases hn.symm.trans hnode
          rw [hdata]
          rfl

/-- The paths of the nodes above are no reason to fail. -/
theorem withNodeData_eq {st : Store} {paths : Value} (hpaths : ancestorPaths n = .ok paths) :
    withNodeData st n stored =
      (Indexing.typeNames st.types (st.typeValue n.type)).map fun types =>
        Entries.insertText (Entries.insertText (Entries.insertText (Entries.insertText stored
          "__identifier" n.identifier) "__path" n.path) "__parentPath" paths)
          "__typeAndSupertypes" types := by
  unfold withNodeData
  rw [hpaths]
  cases Indexing.typeNames st.types (st.typeValue n.type) <;> rfl

/-- What is found under the names of a node's own data. -/
theorem withNodeData_found {st : Store} {properties : Entries} {paths : Value}
    (h : withNodeData st n stored = .ok properties) (hpaths : ancestorPaths n = .ok paths) :
    Entries.findText? properties "__path" = some n.path ∧
      Entries.findText? properties "__parentPath" = some paths := by
  rw [withNodeData_eq hpaths] at h
  cases htypes : Indexing.typeNames st.types (st.typeValue n.type) with
  | error e =>
    rw [htypes] at h
    cases h
  | ok types =>
    rw [htypes] at h
    cases h
    have hother : ∀ (name key : String) (entries : Entries) (v : Value), name ≠ key →
        Entries.findText? (Entries.insertText entries name v) key =
          Entries.findText? entries key := by
      intro name key entries v hne
      exact Entries.find?_insert_of_ne (by simpa [Value.key?] using hne) entries v
    have hself : ∀ (name : String) (entries : Entries) (v : Value),
        Entries.findText? (Entries.insertText entries name v) name = some v :=
      fun name entries v => Entries.find?_insert_self rfl entries v
    constructor
    · rw [hother _ _ _ _ (by decide), hother _ _ _ _ (by decide), hself]
    · rw [hother _ _ _ _ (by decide), hself]

/-- The document of a node whose path has the given names lists just the paths of the proper
beginnings of these names, from the root down, each once; nothing about the path keeps it from being
made. These and the path itself are the prefixes of the path. So the path of another node is listed
just if its names are a proper beginning of those of the node. -/
theorem build_ancestors {r : Except Error Document} (hbuild : build s id target x = (r, y))
    (hn : y.store.node? id = some n) (hsegments : AreSegments segments)
    (hpath : n.path = .str (String.ofList (absolute segments))) :
    (∀ d, r = .ok d → Entries.findText? d.properties "__path" = some n.path ∧
      Entries.findText? d.properties "__parentPath" = some (.ofTexts (ancestors segments))) ∧
    (∀ e, r = .error e → (extract s id { x with buckets := [] }).1 = .error e ∨
      Indexing.typeNames y.store.types (y.store.typeValue n.type) = .error e) ∧
    (ancestors segments).Nodup ∧
    Indexing.pathPrefixes n.path = .ok (.ofTexts (ancestors segments ++ [absolute segments])) ∧
    ∀ others, AreSegments others →
      (absolute others ∈ ancestors segments ↔ others <+: segments ∧ others ≠ segments) := by
  have hpaths := ancestorPaths_eq hsegments hpath
  refine ⟨?_, ?_, nodup_ancestors hsegments, ?_, fun others ho => mem_ancestors_iff hsegments ho⟩
  · rintro d rfl
    rcases build_cases hbuild hn with ⟨e, he, -⟩ | ⟨stored, hdata⟩
    · cases he
    · cases hproperties : withNodeData y.store n stored with
      | error e =>
        rw [hproperties] at hdata
        cases hdata
      | ok properties =>
        rw [hproperties] at hdata
        cases hdata
        exact withNodeData_found hproperties hpaths
  · rintro e rfl
    rcases build_cases hbuild hn with ⟨e', he, hextract⟩ | ⟨stored, hdata⟩
    · cases he
      exact .inl hextract
    · rw [withNodeData_eq hpaths] at hdata
      cases htypes : Indexing.typeNames y.store.types (y.store.typeValue n.type) with
      | error e' =>
        rw [htypes] at hdata
        cases hdata
        exact .inr rfl
      | ok types =>
        rw [htypes] at hdata
        cases hdata
  · rw [← prefixes_absolute hsegments, ← pathPrefixes_absolute, hpath]
    rfl

/-! ## A post in a blog -/

def postNames : List (List Char) := ["site".toList, "blog".toList, "post".toList]

/-- A type without properties. -/
def postType : NodeType :=
  ⟨Name.ofText "Page", [], [], [], 20⟩

def postNode : Node :=
  ⟨.str "n", .str "/site/blog/post", 0, .str "Page", [], 16⟩

def postState : Extraction :=
  ⟨{ Store.empty (Files.empty []) with
    types := #[postType], nodes := #[postNode], next := 30 },
    none, [], [], []⟩

def postDocument : Document :=
  ⟨.str "n", "live",
    [(.str "__identifier", .str "n"), (.str "__path", .str "/site/blog/post"),
      (.str "__parentPath", .ofTexts (ancestors postNames)),
      (.str "__typeAndSupertypes", .list [.str "Page"] 0)], []⟩

theorem areSegments_post : AreSegments postNames := by
  simp [AreSegments, IsSegment, postNames]

/-- A store with one node, at the path. -/
def stateAt (path : List Char) : Extraction :=
  ⟨{ Store.empty (Files.empty []) with
    types := #[postType], nodes := #[{ postNode with path := .chars path }], next := 30 },
    none, [], [], []⟩

def documentAt (path : List Char) : Document :=
  ⟨.str "n", "live",
    [(.str "__identifier", .str "n"), (.str "__path", .chars path),
      (.str "__parentPath", .ofTexts (parentPrefixes path)),
      (.str "__typeAndSupertypes", .list [.str "Page"] 0)], []⟩

theorem build_at (path : List Char) :
    build sharing 0 none (stateAt path) = (.ok (documentAt path), stateAt path) := by
  have hpaths : ancestorPaths { postNode with path := .chars path } =
      .ok (.ofTexts (parentPrefixes path)) := ancestorPaths_text rfl
  have htype : (stateAt path).store.types[0]? = some postType := rfl
  have hnames : Indexing.typeNames (stateAt path).store.types ((stateAt path).store.typeValue 0) =
      .ok (.list [.str "Page"] 0) :=
    @typeNames_of_root _ ⟨0, _⟩ postType htype rfl
  have hdata : withNodeData (stateAt path).store { postNode with path := .chars path } [] =
      .ok (documentAt path).properties := by
    rw [withNodeData_eq hpaths]
    exact congrArg (Except.map _) hnames
  exact build_of_extract rfl rfl hdata

theorem build_post : build sharing 0 none postState = (.ok postDocument, postState) := by
  have hbuild := build_at (absolute postNames)
  rw [documentAt, parentPrefixes_absolute areSegments_post] at hbuild
  exact hbuild

/-- A node at `/site` is above the post, one at `/si` is not. -/
theorem build_ancestors_post :
    build sharing 0 none postState = (.ok postDocument, postState) ∧
    AreSegments postNames ∧
    Entries.findText? postDocument.properties "__parentPath" =
      some (.ofTexts ["/".toList, "/site".toList, "/site/blog".toList]) ∧
    absolute ["site".toList] ∈ ancestors postNames ∧
    absolute ["si".toList] ∉ ancestors postNames := by
  obtain ⟨hdocument, -, -, -, habove⟩ := build_ancestors build_post rfl areSegments_post rfl
  refine ⟨build_post, areSegments_post, (hdocument _ rfl).2, (habove _ ?_).2 ?_, fun hmem => ?_⟩
  · simp [AreSegments, IsSegment]
  · exact ⟨⟨["blog".toList, "post".toList], rfl⟩, by decide⟩
  · have hbegins := ((habove _ (by simp [AreSegments, IsSegment])).1 hmem).1
    revert hbegins
    decide

/-! ## Any path -/

/-- A node has no parent just if its path is the root or empty. The path of the parent is shorter
unless the path is a name with no slash at all, which is its own parent. So going up comes to an end
for absolute paths, besides the empty one, and for no others; and a node is listed above itself in
its document just if its path is such a name. -/
theorem parentPath_ascends {n : Node} {path : List Char}
    (hpath : n.path = .str (String.ofList path)) :
    n.parentPath = .ok (match parent? path with
      | some parent => .chars parent
      | none => .none) ∧
    (parent? path = none ↔ path = [] ∨ path = ['/']) ∧
    (∀ parent, parent? path = some parent →
      (parent.length < path.length ↔ ¬ IsSegment path)) ∧
    (IsSegment path → parent? path = some path) ∧
    ((∃ k, above? k path = none) ↔ path = [] ∨ path.head? = some '/') ∧
    ∀ {s : Setup} {id : Nat} {target : Option String} {x y : Extraction} {d : Document},
      build s id target x = (.ok d, y) → y.store.node? id = some n →
        Entries.findText? d.properties "__path" = some n.path ∧
        Entries.findText? d.properties "__parentPath" =
          some (.ofTexts (parentPrefixes path)) ∧
        (path ∈ parentPrefixes path ↔ IsSegment path) := by
  refine ⟨parentPath_text hpath, parent?_eq_none_iff, fun _ => length_parent_lt_iff,
    parent?_segment, exists_above_eq_none_iff path, ?_⟩
  intro s id target x y d hbuild hn
  rcases build_cases hbuild hn with ⟨e, he, -⟩ | ⟨stored, hdata⟩
  · cases he
  · cases hproperties : withNodeData y.store n stored with
    | error e =>
      rw [hproperties] at hdata
      cases hdata
    | ok properties =>
      rw [hproperties] at hdata
      cases hdata
      obtain ⟨hown, hparents⟩ := withNodeData_found hproperties (ancestorPaths_text hpath)
      exact ⟨hown, hparents, mem_parentPrefixes_iff path⟩

/-- Two slashes before the name and one behind it. -/
theorem parentPath_ascends_post :
    parent? "//post/".toList = some "/".toList ∧
    (∃ k, above? k "//post/".toList = none) ∧
    build sharing 0 none (stateAt "//post/".toList) =
      (.ok (documentAt "//post/".toList), stateAt "//post/".toList) ∧
    "//post/".toList ∉ parentPrefixes "//post/".toList := by
  have hbuild := build_at "//post/".toList
  obtain ⟨-, -, -, -, hends, hlisted⟩ := @parentPath_ascends
    { postNode with path := .chars "//post/".toList } "//post/".toList rfl
  refine ⟨by decide, hends.2 (.inr rfl), hbuild, fun hmem => ?_⟩
  exact absurd ((hlisted hbuild rfl).2.2.1 hmem).2 (by decide)

/-- A node whose path is a name is above itself, and nothing else is. -/
theorem post_above_itself :
    Node.parentPath { postNode with path := .str "post" } = .ok (.str "post") ∧
    (∀ k, above? k "post".toList ≠ none) ∧
    build sharing 0 none (stateAt "post".toList) =
      (.ok (documentAt "post".toList), stateAt "post".toList) ∧
    parentPrefixes "post".toList = ["post".toList] := by
  refine ⟨rfl, fun k hk => ?_, build_at _, by decide⟩
  have habsolute := (exists_above_eq_none_iff "post".toList).1 ⟨k, hk⟩
  revert habsolute
  decide

end Building

end ContentIndex.Index
