import ContentIndex.Proofs.Index.Staging

/-!
# Reading back

What has been staged for a key is what is read under that key after the next flush, and nothing else
changes. Writers take an empty name of a workspace for the standard workspace, the reader takes it
as it is.
-/

namespace ContentIndex.Index

set_option autoImplicit false

/-- The workspace that is read, the standard one unless one is named. -/
def readFrom (target : Option String) : String :=
  target.getD Catalogue.standardWorkspace

theorem workspaceOf_eq_readFrom {target : Option String} (h : target ≠ some "") :
    workspaceOf target = readFrom target := by
  cases target with
  | none => rfl
  | some w =>
    have hw : w.isEmpty = false := by
      rw [Bool.eq_false_iff, Ne, String.isEmpty_iff]
      rintro rfl
      exact h rfl
    simp [workspaceOf, readFrom, hw]

theorem workspaceOf_ne_empty (target : Option String) : workspaceOf target ≠ "" := by
  cases target with
  | none => decide
  | some w =>
    unfold workspaceOf
    dsimp only
    split
    · decide
    · rename_i hw
      rintro rfl
      exact hw rfl

/-! ## One change -/

/-- The key that a change is about. -/
def Change.key (c : Change) : String × Option Key :=
  match c with
  | .write d => (d.workspace, d.identifier.key?)
  | .remove workspace identifier => (workspace, identifier.key?)

/-- What is found under the key of a change after it. -/
def Change.left : Change → Option Document
  | .write d => some d
  | .remove _ _ => none

section Changes

variable {x y : Indexer} {workspace : String} {identifier : Value} {documents : Documents}
  {key : Key}

theorem find?_eq (h : identifier.key? = some key) :
    x.find? workspace identifier = .ok (x.documents.lookup (workspace, key)) := by
  rw [Indexer.find?, keyOf, h]
  rfl

/-- Two indexes answer alike under a key if their documents do. -/
theorem find?_congr
    (h : ∀ key, identifier.key? = some key →
      x.documents.lookup (workspace, key) = y.documents.lookup (workspace, key)) :
    x.find? workspace identifier = y.find? workspace identifier := by
  unfold Indexer.find? keyOf
  cases hkey : identifier.key? with
  | none => rfl
  | some key =>
    simp only [Except.map]
    rw [h key hkey]

theorem lookup_directly_self {c : Change} (h : c.key = (workspace, some key)) :
    (c.directly documents).lookup (workspace, key) = c.left := by
  cases c with
  | write d =>
    obtain ⟨rfl, hkey⟩ := Prod.mk.inj h
    simp only [Change.directly, hkey]
    exact Table.lookup_put_self documents _ d
  | remove w identifier =>
    obtain ⟨rfl, hkey⟩ := Prod.mk.inj h
    simp only [Change.directly, hkey]
    exact Table.lookup_erase_self documents _

theorem lookup_directly_of_ne {c : Change} (h : c.key ≠ (workspace, some key)) :
    (c.directly documents).lookup (workspace, key) = documents.lookup (workspace, key) := by
  cases c with
  | write d =>
    simp only [Change.directly]
    cases hkey : d.identifier.key? with
    | none => rfl
    | some k =>
      refine Table.lookup_put_of_ne documents d ?_
      rintro heq
      obtain ⟨rfl, rfl⟩ := Prod.mk.inj heq
      exact h (by rw [Change.key, hkey])
  | remove w identifier =>
    simp only [Change.directly]
    cases hkey : identifier.key? with
    | none => rfl
    | some k =>
      refine Table.lookup_erase_of_ne documents ?_
      rintro heq
      obtain ⟨rfl, rfl⟩ := Prod.mk.inj heq
      exact h (by rw [Change.key, hkey])

/-- Two indexes answer alike under every key but one. -/
def AgreeBut (key : String × Option Key) (x y : Indexer) : Prop :=
  ∀ (w : String) (identifier : Value), (w, identifier.key?) ≠ key →
    x.find? w identifier = y.find? w identifier

end Changes

/-! ## One operation and a flush -/

section Flushed

variable {s : Setup} {x : Indexer} {documents : Documents}

/-- The state after a flush. -/
def flushed (s : Setup) (x : Indexer) : Indexer :=
  (run s [.flush] x).2

theorem flushed_eq (h : Change.applyAll x.documents x.pending = (documents, none)) :
    ∃ log, flushed s x = ⟨x.extraction.withLog log, documents, []⟩ := by
  obtain ⟨log, hrun⟩ := perform_flush (s := s) h
  refine ⟨log, ?_⟩
  simp only [flushed, run, hrun]

theorem perform_flushed_eq (h : Change.applyAll x.documents x.pending = (documents, none)) (op : Op)
    (hkeys : ∀ c ∈ (op.request s x.extraction).1, c.identifier.key?.isSome = true) :
    ∃ log, flushed s (op.perform s x).2 =
      ⟨(op.request s x.extraction).2.withLog log,
        (op.request s x.extraction).1.toList.foldl Change.directly documents, []⟩ := by
  have hx : Follows x x.extraction documents := ⟨⟨x.extraction.store.log, rfl⟩, h⟩
  obtain ⟨r, y, hrun, hy, -⟩ := perform_follows hx op hkeys
  obtain ⟨log, hlog⟩ := hy.extraction
  obtain ⟨log', hflush⟩ := flushed_eq (s := s) hy.settled
  refine ⟨log', ?_⟩
  rw [hrun, hflush, hlog]
  rfl

/-- The document under the key of a change is what the change leaves there, and every other one is
as it was. -/
theorem find?_flushed_change
    (h : Change.applyAll x.documents x.pending = (documents, none)) {op : Op} {c : Change}
    {y : Extraction} {key : Key} {workspace : String}
    (hrequest : op.request s x.extraction = (some c, y)) (hkey : c.key = (workspace, some key)) :
    (∃ log, (flushed s (op.perform s x).2).extraction = y.withLog log) ∧
      (∀ identifier : Value, identifier.key? = some key →
        (flushed s (op.perform s x).2).find? workspace identifier = .ok c.left) ∧
      AgreeBut (workspace, some key) (flushed s (op.perform s x).2) (flushed s x) := by
  have hkeys : ∀ c ∈ (op.request s x.extraction).1, c.identifier.key?.isSome = true := by
    intro c' hc'
    rw [hrequest] at hc'
    obtain rfl := Option.some.inj hc'
    have hsame : c.identifier.key? = c.key.2 := by cases c <;> rfl
    rw [hsame, hkey]
    rfl
  obtain ⟨log, hafter⟩ := perform_flushed_eq h op hkeys
  obtain ⟨log', hbefore⟩ := flushed_eq (s := s) h
  rw [hafter, hbefore, hrequest]
  refine ⟨⟨log, rfl⟩, ?_, ?_⟩
  · intro identifier hidentifier
    rw [find?_eq hidentifier]
    exact congrArg Except.ok (lookup_directly_self hkey)
  · intro w identifier hne
    refine find?_congr fun key' hkey' => lookup_directly_of_ne ?_
    rw [hkey, ← hkey']
    exact hne.symm

end Flushed

/-! ## Reachable states -/

section Reachable

variable {s : Setup} {st : Store} {ops : List Op}

/-- Nothing is ever kept under the empty name. -/
theorem lookup_requests_empty (z : Extraction) (key : Key) :
    ((requests s ops z).foldl Change.directly []).lookup ("", key) = none := by
  rw [List.lookup_eq_none_iff]
  rintro ⟨k, d⟩ hmem
  rw [bne_iff_ne]
  rintro rfl
  rcases Change.mem_foldl_directly hmem with hnil | ⟨hw, hworkspace, -⟩
  · cases hnil
  · obtain ⟨before, id, target, later, y, -, hb⟩ := mem_requests hw
    rw [build_workspace hb] at hworkspace
    exact workspaceOf_ne_empty target hworkspace.symm

/-- What the changes asked for make when they are applied at once is what the staged changes make
of the documents of a reachable state. -/
theorem applyAll_reachable
    (hkeys : ∀ c ∈ requests s ops (Indexer.empty st).extraction,
      c.identifier.key?.isSome = true) :
    let x := (run s ops (Indexer.empty st)).2
    Change.applyAll x.documents x.pending =
      ((requests s ops (Indexer.empty st).extraction).foldl Change.directly [], none) :=
  (run_follows (Follows.empty st) ops hkeys).1.settled

theorem now_congr {st st' : Store} (hchanged : st'.changed = st.changed)
    (hnodes : st'.nodes = st.nodes) (d : Document) : d.now st' = d.now st := by
  have hvalue : ∀ id, st'.nodeValue id = st.nodeValue id := by
    intro id
    simp only [Store.nodeValue, Store.node?, hnodes]
  have hmark : ∀ m, st'.changedTo? m = st.changedTo? m := by
    intro m
    simp only [Store.changedTo?, hchanged]
  simp only [Document.now, Store.refresh_congr hvalue _ fun m _ => hmark m,
    Store.refreshEntries_congr hvalue _ fun m _ => hmark m]

/-- After a node has been indexed and the index flushed, the document just built is read under the
workspace that it was indexed for and the identifier of its node, as it was built; after a node has
been removed nothing is read there. Under every other key the same is read as after a flush alone.
The workspace that a reader names is the one that it was indexed for, unless this is named by the
empty text: nothing is ever read under that name. -/
theorem find?_flushed
    (hkeys : ∀ c ∈ requests s ops (Indexer.empty st).extraction,
      c.identifier.key?.isSome = true)
    {x : Indexer} (hx : (run s ops (Indexer.empty st)).2 = x) (id : Nat) (target : Option String) :
    (∀ d y, build s id target x.extraction = (.ok d, y) → d.identifier.key?.isSome = true →
      ∃ z, flushed s (Op.perform s (.index id target) x).2 = z ∧
        (y.store.node? id).map (·.identifier) = some d.identifier ∧
        z.find? (workspaceOf target) d.identifier = .ok (some d) ∧
        d.now z.extraction.store = d.now y.store ∧
        AgreeBut (workspaceOf target, d.identifier.key?) z (flushed s x) ∧
        (y.store.changed = x.extraction.store.changed →
          y.store.nodes = x.extraction.store.nodes →
          ∀ other : Document,
            other.now z.extraction.store = other.now (flushed s x).extraction.store)) ∧
    (∀ n, x.extraction.store.node? id = some n → n.identifier.key?.isSome = true →
      ∃ z, flushed s (Op.perform s (.remove id target) x).2 = z ∧
        z.find? (workspaceOf target) n.identifier = .ok none ∧
        AgreeBut (workspaceOf target, n.identifier.key?) z (flushed s x) ∧
        ∀ other : Document,
          other.now z.extraction.store = other.now (flushed s x).extraction.store) ∧
    (target ≠ some "" → workspaceOf target = readFrom target) ∧
    ∀ identifier : Value, identifier.key?.isSome = true →
      (flushed s x).find? "" identifier = .ok none := by
  have hsettled := applyAll_reachable hkeys
  dsimp only at hsettled
  rw [hx] at hsettled
  obtain ⟨log, hflushed⟩ := flushed_eq (s := s) hsettled
  refine ⟨?index, ?remove, workspaceOf_eq_readFrom, ?empty⟩
  case index =>
    intro d y hbuild hkey
    obtain ⟨key, hkey⟩ := Option.isSome_iff_exists.1 hkey
    obtain ⟨n, hn, hidentifier, hworkspace⟩ := build_node hbuild
    have hrequest : (Op.index id target).request s x.extraction = (some (.write d), y) := by
      simp only [Op.request, hbuild]
    have htarget : (Change.write d).key = (workspaceOf target, some key) := by
      rw [Change.key, hworkspace, hkey]
    obtain ⟨⟨log', hstate⟩, hself, hothers⟩ := find?_flushed_change hsettled hrequest htarget
    refine ⟨_, rfl, ?_, hself d.identifier hkey, ?_, hkey ▸ hothers, ?_⟩
    · rw [hn, hidentifier]
      rfl
    · rw [hstate]
      exact now_withLog y.store log' d
    · intro hchanged hnodes other
      rw [hstate, hflushed]
      calc other.now (y.withLog log').store
          = other.now y.store := now_withLog y.store log' other
        _ = other.now x.extraction.store := now_congr hchanged hnodes other
        _ = other.now (x.extraction.withLog log).store :=
            (now_withLog x.extraction.store log other).symm
  case remove =>
    intro n hn hkey
    obtain ⟨key, hkey⟩ := Option.isSome_iff_exists.1 hkey
    have hrequest : (Op.remove id target).request s x.extraction =
        (some (.remove (workspaceOf target) n.identifier), x.extraction) := by
      simp only [Op.request, hn, Option.map_some]
    have htarget : (Change.remove (workspaceOf target) n.identifier).key =
        (workspaceOf target, some key) := by
      rw [Change.key, hkey]
    obtain ⟨⟨log', hstate⟩, hself, hothers⟩ := find?_flushed_change hsettled hrequest htarget
    refine ⟨_, rfl, hself n.identifier hkey, hkey ▸ hothers, ?_⟩
    intro other
    rw [hstate, hflushed]
    exact (now_withLog x.extraction.store log' other).trans
      (now_withLog x.extraction.store log other).symm
  case empty =>
    intro identifier hidentifier
    obtain ⟨key, hkey⟩ := Option.isSome_iff_exists.1 hidentifier
    rw [hflushed, find?_eq hkey, lookup_requests_empty]

end Reachable

/-! ## A page read back -/

theorem build_page_for (target : Option String) :
    build sharing 0 target (Indexer.empty pageStore).extraction =
      (.ok { pageDocument with workspace := workspaceOf target }, pageState) := by
  rw [build_target, build_page]
  rfl

/-- The removal of the page is pending when it is indexed for the drafts. -/
theorem find?_flushed_page :
    (∀ c ∈ requests sharing [.remove 0 none] (Indexer.empty pageStore).extraction,
        c.identifier.key?.isSome = true) ∧
      ∃ x z, (run sharing [.remove 0 none] (Indexer.empty pageStore)).2 = x ∧
        flushed sharing (Op.perform sharing (.index 0 (some "draft")) x).2 = z ∧
        z.find? "draft" (.str "n") = .ok (some { pageDocument with workspace := "draft" }) := by
  have hkeys : ∀ c ∈ requests sharing [.remove 0 none] (Indexer.empty pageStore).extraction,
      c.identifier.key?.isSome = true :=
    List.forall_mem_singleton.2 rfl
  obtain ⟨hfollows, -⟩ := run_follows (Follows.empty pageStore) [.remove 0 none] hkeys
  obtain ⟨log, hx⟩ := hfollows.extraction
  obtain ⟨log', hbuild⟩ :=
    deaf_build sharing 0 (some "draft") (Indexer.empty pageStore).extraction log
  rw [build_page_for] at hbuild
  obtain ⟨hindex, -⟩ := find?_flushed hkeys rfl 0 (some "draft")
  obtain ⟨z, hz, -, hfound, -⟩ := hindex _ _ (hx ▸ hbuild) rfl
  exact ⟨hkeys, _, z, rfl, hz, hfound⟩

/-- A page indexed for the workspace with the empty name is found under the standard one, and not
under the empty name. -/
theorem indexed_for_empty_name :
    ∃ d y, build sharing 0 (some "") (Indexer.empty pageStore).extraction = (.ok d, y) ∧
      ∃ z, flushed sharing (Op.perform sharing (.index 0 (some "")) (Indexer.empty pageStore)).2 = z ∧
        z.find? (readFrom (some "")) d.identifier = .ok none ∧
        z.find? Catalogue.standardWorkspace d.identifier = .ok (some d) := by
  have hbuild : build sharing 0 (some "") (Indexer.empty pageStore).extraction =
      (.ok pageDocument, pageState) :=
    build_page_for (some "")
  have hrequest : (Op.index 0 (some "")).request sharing (Indexer.empty pageStore).extraction =
      (some (.write pageDocument), pageState) := by
    simp only [Op.request, hbuild]
  obtain ⟨log, hz⟩ := perform_flushed_eq (s := sharing) (x := Indexer.empty pageStore) rfl
    (.index 0 (some "")) (by rw [hrequest]; exact fun c hc => Option.some.inj hc ▸ rfl)
  refine ⟨pageDocument, pageState, hbuild, _, rfl, ?_, ?_⟩
  · rw [hz, hrequest]
    rfl
  · rw [hz, hrequest]
    rfl

end ContentIndex.Index
