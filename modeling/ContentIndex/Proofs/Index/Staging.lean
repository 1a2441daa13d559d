import ContentIndex.Index.Staging
import ContentIndex.Proofs.Index.Log
import ContentIndex.Proofs.Index.Parts

/-!
# Staging and direct application

An index that stages its changes ends up with the documents that it would have if every change were
made at once, wherever it is flushed. A document is stored as it was built. What is read from it is
what was read then, unless it holds something that has been changed in place since: where rules
change nothing, this can only be the dictionary that a node holds its properties in.
-/

namespace ContentIndex.Index

set_option autoImplicit false

/-! ## Documents -/

namespace Document

/-- What is read from a document now. -/
def now (st : Store) (d : Document) : Document :=
  { d with
    identifier := st.refresh d.identifier
    properties := st.refreshEntries d.properties
    fulltext := st.refreshEntries d.fulltext }

/-- The collections that a document is read through. -/
def collections (d : Document) : List Nat :=
  d.identifier.collections ++ Value.collectionsEntries d.properties ++
    Value.collectionsEntries d.fulltext

end Document

namespace Change

def identifier : Change → Value
  | .write d => d.identifier
  | .remove _ identifier => identifier

/-- The change made at once. -/
def directly (documents : Documents) : Change → Documents
  | .write d =>
    match d.identifier.key? with
    | some key => documents.put (d.workspace, key) d
    | none => documents
  | .remove workspace identifier =>
    match identifier.key? with
    | some key => documents.erase (workspace, key)
    | none => documents

theorem apply_eq_directly (documents : Documents) {c : Change}
    (h : c.identifier.key?.isSome = true) : c.apply documents = .ok (c.directly documents) := by
  obtain ⟨key, hk⟩ := Option.isSome_iff_exists.1 h
  cases c with
  | write d =>
    have hk' : d.identifier.key? = some key := hk
    simp only [apply, directly, keyOf, hk', Except.map]
  | remove workspace identifier =>
    have hk' : identifier.key? = some key := hk
    cases documents with
    | nil => simp only [apply, directly, hk', List.isEmpty_nil, if_true]; rfl
    | cons e rest =>
      simp only [apply, directly, keyOf, hk', Except.map, List.isEmpty_cons, Bool.false_eq_true,
        if_false]

theorem applyAll_concat {documents between : Documents} {pending : List Change}
    (h : applyAll documents pending = (between, none)) (c : Change) :
    applyAll documents (pending ++ [c]) = applyAll between [c] := by
  induction pending generalizing documents with
  | nil =>
    cases h
    rfl
  | cons p rest ih =>
    rw [List.cons_append, applyAll]
    rw [applyAll] at h
    cases hp : p.apply documents with
    | ok next =>
      rw [hp] at h
      exact ih h
    | error f =>
      rw [hp] at h
      cases h

/-- What is stored has been written, under its workspace and identifier. -/
theorem mem_foldl_directly {documents : Documents} {changes : List Change} {key : DocumentKey}
    {d : Document} (h : (key, d) ∈ changes.foldl directly documents) :
    (key, d) ∈ documents ∨
      (.write d ∈ changes ∧ key.1 = d.workspace ∧ d.identifier.key? = some key.2) := by
  induction changes generalizing documents with
  | nil => exact .inl h
  | cons c rest ih =>
    rcases ih h with hmem | ⟨hw, hkey⟩
    · cases c with
      | write e =>
        simp only [directly] at hmem
        split at hmem
        · rename_i k hk
          rcases Table.mem_put hmem with hmem | heq
          · exact .inl hmem
          · cases heq
            exact .inr ⟨List.mem_cons_self, rfl, hk⟩
        · exact .inl hmem
      | remove workspace identifier =>
        simp only [directly] at hmem
        split at hmem
        · exact .inl (Table.mem_of_mem_erase hmem)
        · exact .inl hmem
    · exact .inr ⟨List.mem_cons_of_mem _ hw, hkey⟩

end Change

/-! ## Operations -/

/-- What callers do: index or remove a node, change the properties that a node holds, flush. -/
inductive Op where
  | index (id : Nat) (target : Option String)
  | remove (id : Nat) (target : Option String)
  | edit (id : Nat) (f : Entries → Entries)
  | flush

def Extraction.edit (x : Extraction) (id : Nat) (f : Entries → Entries) : Extraction :=
  { x with store := x.store.setProperties id (f (x.store.propertiesOf id)) }

namespace Op

def isFlush : Op → Bool
  | .flush => true
  | _ => false

/-- An operation on an index that stages; the number of documents it wrote. -/
def perform (s : Setup) : Op → Work Nat
  | .index id target => do
    indexNode s id target
    return 0
  | .remove id target => do
    removeNode id target
    return 0
  | .edit id f => do
    modify fun x => { x with extraction := x.extraction.edit id f }
    return 0
  | .flush => Index.flush

/-- The change that an operation asks for, unless it fails, and the state after it. -/
def request (s : Setup) : Op → Extraction → Option Change × Extraction
  | .index id target, x =>
    match build s id target x with
    | (.ok d, y) => (some (.write d), y)
    | (.error _, y) => (none, y)
  | .remove id target, x =>
    ((x.store.node? id).map fun n => .remove (workspaceOf target) n.identifier, x)
  | .edit id f, x => (none, x.edit id f)
  | .flush, x => (none, x)

end Op

def written : Except Error Nat → Nat
  | .ok n => n
  | .error _ => 0

/-- Operations one after the other, going on after a failure, with the number of documents that all
of them wrote. -/
def run (s : Setup) : List Op → Indexer → Nat × Indexer
  | [], x => (0, x)
  | op :: rest, x =>
    let (r, y) := op.perform s x
    let (n, z) := run s rest y
    (written r + n, z)

/-- The state after operations. -/
def stateAfter (s : Setup) : List Op → Extraction → Extraction
  | [], x => x
  | op :: rest, x => stateAfter s rest (op.request s x).2

/-- The changes that operations ask for, without those that fail. -/
def requests (s : Setup) : List Op → Extraction → List Change
  | [], _ => []
  | op :: rest, x => (op.request s x).1.toList ++ requests s rest (op.request s x).2

/-! ## One operation -/

/-- An index whose repository is this one, up to the log, and whose documents will be these once it
is flushed. -/
structure Follows (x : Indexer) (z : Extraction) (documents : Documents) : Prop where
  extraction : ∃ log, x.extraction = z.withLog log
  settled : Change.applyAll x.documents x.pending = (documents, none)

section Operations

variable {s : Setup} {x y : Indexer} {z : Extraction} {documents : Documents}

theorem note_run (level : LogLevel) (message : String) (x : Indexer) :
    note level message x =
      (.ok (), { x with
        extraction := x.extraction.withLog (x.extraction.store.note level message).log }) := by
  simp only [note, liftExtract, lift_note]
  rfl

theorem indexNode_failed {id : Nat} {target : Option String} {e : Error}
    (h : indexNode s id target x = (.error e, y)) :
    y.documents = x.documents ∧ y.pending = x.pending := by
  simp only [indexNode, run_bind, liftExtract, stage, run_modify, run_get, note_run] at h
  cases hb : build s id target x.extraction with
  | mk r z =>
    rw [hb] at h
    cases r with
    | ok d => cases h
    | error f =>
      cases h
      exact ⟨rfl, rfl⟩

/-- Everything but flushing changes the repository as if nothing were staged, and stages what it
asks for. -/
theorem perform_eq {op : Op} (hf : op.isFlush = false) :
    ∃ r log, op.perform s x = (r, { x with
      extraction := (op.request s x.extraction).2.withLog log
      pending := x.pending ++ (op.request s x.extraction).1.toList }) ∧ written r = 0 := by
  cases op with
  | index id target =>
    simp only [Op.perform, Op.request, indexNode, run_bind, liftExtract, stage, run_modify,
      run_get, note_run]
    cases build s id target x.extraction with
    | mk r z =>
      cases r with
      | ok d => exact ⟨_, _, rfl, rfl⟩
      | error e =>
        refine ⟨.error e, z.store.log, ?_, rfl⟩
        simp [Extraction.withLog, Store.withLog]
  | remove id target =>
    simp only [Op.perform, Op.request, removeNode, run_bind, run_get]
    cases x.extraction.store.node? id with
    | none =>
      refine ⟨.error (.fault (.outOfRange "list")), x.extraction.store.log, ?_, rfl⟩
      simp [Extraction.withLog, Store.withLog, run_throw]
    | some n =>
      simp only [run_bind, stage, run_modify, note_run]
      exact ⟨_, _, rfl, rfl⟩
  | edit id f =>
    refine ⟨.ok 0, (x.extraction.edit id f).store.log, ?_, rfl⟩
    simp [Op.perform, Op.request, run_bind, run_modify, run_pure, Extraction.withLog, Store.withLog]
  | flush => cases hf

theorem perform_flush (h : Change.applyAll x.documents x.pending = (documents, none)) :
    ∃ log, Op.flush.perform s x = (.ok (x.pending.countP Change.isWrite),
      ⟨x.extraction.withLog log, documents, []⟩) := by
  simp only [Op.perform, flush, run_bind, run_get, h, run_set, note_run, run_pure]
  exact ⟨_, rfl⟩

/-- What is asked for does not depend on the log. -/
theorem request_withLog (op : Op) (z : Extraction) (log : List LogRecord) :
    ∃ log', op.request s (z.withLog log) = ((op.request s z).1, (op.request s z).2.withLog log') := by
  cases op with
  | index id target =>
    obtain ⟨log', h⟩ := deaf_build s id target z log
    refine ⟨log', ?_⟩
    simp only [Op.request, h]
    cases build s id target z with
    | mk r y => cases r <;> rfl
  | remove id target => exact ⟨log, rfl⟩
  | edit id f =>
    refine ⟨log, ?_⟩
    simp only [Op.request, Extraction.edit, Extraction.withLog, Store.setProperties_withLog]
    rfl
  | flush => exact ⟨log, rfl⟩

/-- One operation: the repository stays the same up to the log, and the documents get the change that
the operation asks for. -/
theorem perform_follows (h : Follows x z documents) (op : Op)
    (hkeys : ∀ c ∈ (op.request s z).1, c.identifier.key?.isSome = true) :
    ∃ r y, op.perform s x = (r, y) ∧
      Follows y (op.request s z).2 ((op.request s z).1.toList.foldl Change.directly documents) ∧
      written r + y.pending.countP Change.isWrite =
        x.pending.countP Change.isWrite + (op.request s z).1.toList.countP Change.isWrite := by
  obtain ⟨log, hx⟩ := h.extraction
  cases hf : op.isFlush with
  | true =>
    cases op with
    | flush =>
      obtain ⟨log', hrun⟩ := perform_flush (s := s) h.settled
      refine ⟨_, _, hrun, ⟨⟨log', ?_⟩, rfl⟩, rfl⟩
      rw [hx]
      rfl
    | _ => cases hf
  | false =>
    obtain ⟨r, log', hrun, hw⟩ := perform_eq (s := s) (x := x) hf
    obtain ⟨log'', hreq⟩ := request_withLog (s := s) op z log
    rw [hx, hreq] at hrun
    refine ⟨r, _, hrun, ⟨⟨log', rfl⟩, ?_⟩, ?_⟩
    · dsimp only
      cases hc : (op.request s z).1 with
      | none =>
        rw [Option.toList_none, List.append_nil]
        exact h.settled
      | some c =>
        rw [Option.toList_some, Change.applyAll_concat h.settled, Change.applyAll,
          Change.apply_eq_directly documents (hkeys c hc)]
        rfl
    · rw [hw, Nat.zero_add, List.countP_append]

theorem Follows.empty (st : Store) :
    Follows (Indexer.empty st) (Indexer.empty st).extraction [] :=
  ⟨⟨st.log, rfl⟩, rfl⟩

/-! ## Runs -/

theorem requests_append (ops more : List Op) (z : Extraction) :
    requests s (ops ++ more) z = requests s ops z ++ requests s more (stateAfter s ops z) := by
  induction ops generalizing z with
  | nil => rfl
  | cons op rest ih => simp only [List.cons_append, requests, stateAfter, ih, List.append_assoc]

theorem stateAfter_append (ops more : List Op) (z : Extraction) :
    stateAfter s (ops ++ more) z = stateAfter s more (stateAfter s ops z) := by
  induction ops generalizing z with
  | nil => rfl
  | cons op rest ih => exact ih _

/-- Where it is flushed makes no difference to what is asked for. -/
theorem requests_filter (ops : List Op) (z : Extraction) :
    requests s (ops.filter fun op => !op.isFlush) z = requests s ops z := by
  induction ops generalizing z with
  | nil => rfl
  | cons op rest ih =>
    cases op with
    | flush => exact ih z
    | _ =>
      rw [List.filter_cons_of_pos rfl, requests, ih]
      rfl

theorem run_follows (h : Follows x z documents) (ops : List Op)
    (hkeys : ∀ c ∈ requests s ops z, c.identifier.key?.isSome = true) :
    Follows (run s ops x).2 (stateAfter s ops z)
        ((requests s ops z).foldl Change.directly documents) ∧
      (run s ops x).1 + (run s ops x).2.pending.countP Change.isWrite =
        x.pending.countP Change.isWrite + (requests s ops z).countP Change.isWrite := by
  induction ops generalizing x z documents with
  | nil => exact ⟨h, Nat.add_comm _ _⟩
  | cons op rest ih =>
    rw [requests, List.forall_mem_append] at hkeys
    obtain ⟨r, y, hrun, hy, hcount⟩ :=
      perform_follows h op fun c hc => hkeys.1 c (Option.mem_toList.2 hc)
    obtain ⟨hz, hcount'⟩ := ih hy hkeys.2
    simp only [run, hrun, stateAfter, requests, List.foldl_append, List.countP_append]
    refine ⟨hz, ?_⟩
    omega

/-- A document that is asked to be written is the one built of the node at that time. -/
theorem mem_requests {ops : List Op} {d : Document} (h : .write d ∈ requests s ops z) :
    ∃ before id target later y, ops = before ++ .index id target :: later ∧
      build s id target (stateAfter s before z) = (.ok d, y) := by
  induction ops generalizing z with
  | nil => cases h
  | cons op rest ih =>
    rcases List.mem_append.1 h with h | h
    · cases op with
      | index id target =>
        simp only [Op.request] at h
        cases hb : build s id target z with
        | mk r y =>
          rw [hb] at h
          cases r with
          | ok d' =>
            cases List.mem_singleton.1 h
            exact ⟨[], id, target, rest, y, rfl, hb⟩
          | error e => cases h
      | remove id target =>
        simp only [Op.request] at h
        cases hn : z.store.node? id with
        | none => rw [hn] at h; cases h
        | some n => rw [hn] at h; cases List.mem_singleton.1 h
      | _ => cases h
    · obtain ⟨before, id, target, later, y, rfl, hb⟩ := ih h
      exact ⟨op :: before, id, target, later, y, rfl, hb⟩

/-- The workspace that a document is built for has no part in what is built. -/
theorem build_target (s : Setup) (id : Nat) (target : Option String) (z : Extraction) :
    build s id target z =
      ((build s id none z).1.map fun d => { d with workspace := workspaceOf target },
        (build s id none z).2) := by
  simp only [build, run_bind, run_modify, run_get]
  cases extract s id { z with buckets := [] } with
  | mk r y =>
    cases r with
    | error e => rfl
    | ok stored =>
      dsimp only
      cases y.store.node? id with
      | none => rfl
      | some n =>
        dsimp only
        cases withNodeData y.store n stored <;> rfl

/-- A document is built of the node as it is once its rules have been evaluated. -/
theorem build_node {id : Nat} {target : Option String} {z y : Extraction} {d : Document}
    (h : build s id target z = (.ok d, y)) :
    ∃ n, y.store.node? id = some n ∧ d.identifier = n.identifier ∧
      d.workspace = workspaceOf target := by
  unfold build at h
  rcases run_bind_cases h with ⟨e, -, he⟩ | ⟨u, z', -, h⟩
  · cases he
  rcases run_bind_cases h with ⟨e, -, he⟩ | ⟨stored, z'', -, h⟩
  · cases he
  simp only [run_bind, run_get] at h
  cases hn : z''.store.node? id with
  | none => rw [hn] at h; cases h
  | some n =>
    rw [hn] at h
    dsimp only at h
    cases hdata : withNodeData z''.store n stored with
    | error e => rw [hdata] at h; cases h
    | ok properties =>
      rw [hdata] at h
      cases h
      exact ⟨n, hn, rfl, rfl⟩

theorem build_workspace {id : Nat} {target : Option String} {z y : Extraction} {d : Document}
    (h : build s id target z = (.ok d, y)) : d.workspace = workspaceOf target := by
  obtain ⟨n, -, -, hworkspace⟩ := build_node h
  exact hworkspace

/-! ## What stored documents read -/

/-- Building documents changes nothing in place. -/
def Gentle (s : Setup) : List Op → Extraction → Prop
  | [], _ => True
  | op :: rest, z =>
    (∀ id target, op = .index id target →
      (build s id target z).2.store.changed = z.store.changed ∧
        (build s id target z).2.store.nodes = z.store.nodes) ∧
      Gentle s rest (op.request s z).2

/-- An evaluator that changes no collection and no node. -/
def Tame (evaluator : RuleEvaluator) : Prop :=
  ∀ rule bindings st, (evaluator rule bindings st).2.changed = st.changed ∧
    (evaluator rule bindings st).2.nodes = st.nodes

theorem leftAlone_of_tame (h : Tame s.evaluator) :
    LeftAlone s fun x => (x.store.changed, x.store.nodes) where
  common built := by
    intro x
    obtain ⟨r, next, notes, -, hget⟩ := Context.get_run s.settings.context built x.store
    simp only [lift, hget]
  evaluator rule bindings := by
    intro x
    obtain ⟨hc, hn⟩ := h rule bindings { x.store with log := [] }
    exact Prod.ext hc hn
  note _ _ := fun _ => rfl
  account _ _ _ _ := rfl

/-- Where rules change nothing in place, building documents does not. -/
theorem gentle_of_tame (h : Tame s.evaluator) (ops : List Op) (z : Extraction) :
    Gentle s ops z := by
  induction ops generalizing z with
  | nil => trivial
  | cons op rest ih =>
    refine ⟨fun id target _ => ?_, ih _⟩
    have hbuild := (leftAlone_of_tame h).build (fun _ _ => rfl) id target z
    exact Prod.mk.inj hbuild

theorem request_same {op : Op} (hp : z.store.TextPaths) (ho : z.store.OnlyProperties)
    (hg : ∀ id target, op = .index id target →
      (build s id target z).2.store.changed = z.store.changed ∧
        (build s id target z).2.store.nodes = z.store.nodes) :
    z.store.SameButProperties (op.request s z).2.store := by
  cases op with
  | index id target =>
    obtain ⟨hc, hn⟩ := hg id target rfl
    have hstate : ((Op.index id target).request s z).2 = (build s id target z).2 := by
      simp only [Op.request]
      cases build s id target z with
      | mk r y => cases r <;> rfl
    rw [hstate]
    constructor
    · simp only [Store.propertyMarks, hn]
    · intro i
      simp only [Store.nodeValue, Store.node?, hn]
    · intro n hmem
      rw [hn] at hmem
      exact hp n hmem
    · intro m hm
      simp only [Store.propertyMarks, hn] at hm
      simp only [Store.changedTo?, hc]
      exact ho m hm
  | remove id target => exact ⟨rfl, fun _ => rfl, hp, ho⟩
  | edit id f => exact Store.setProperties_same hp ho id _
  | flush => exact ⟨rfl, fun _ => rfl, hp, ho⟩

theorem stateAfter_same {ops : List Op} (hp : z.store.TextPaths) (ho : z.store.OnlyProperties)
    (hg : Gentle s ops z) : z.store.SameButProperties (stateAfter s ops z).store := by
  induction ops generalizing z with
  | nil => exact ⟨rfl, fun _ => rfl, hp, ho⟩
  | cons op rest ih =>
    have hop := request_same hp ho hg.1
    exact hop.trans (ih hop.textPaths hop.onlyProperties hg.2)

theorem Gentle.of_append {ops more : List Op} (hg : Gentle s (ops ++ more) z) :
    Gentle s ops z ∧ Gentle s more (stateAfter s ops z) := by
  induction ops generalizing z with
  | nil => exact ⟨trivial, hg⟩
  | cons op rest ih => exact ⟨⟨hg.1, (ih hg.2).1⟩, (ih hg.2).2⟩

theorem now_withLog (st : Store) (log : List LogRecord) (d : Document) :
    d.now (st.withLog log) = d.now st := by
  simp only [Document.now, Store.refresh_withLog, Store.refreshEntries_withLog]

theorem now_eq {st st' : Store} (h : st.SameButProperties st') (ho : st.OnlyProperties)
    {d : Document} (hfree : ∀ m ∈ d.collections, m ∉ st.propertyMarks) : d.now st' = d.now st := by
  unfold Document.collections at hfree
  rw [List.forall_mem_append, List.forall_mem_append] at hfree
  simp only [Document.now, h.refresh_eq ho hfree.1.1, h.refreshEntries_eq ho hfree.1.2,
    h.refreshEntries_eq ho hfree.2]

end Operations

/-- A document in an index after operations on an empty one: it was built when one of them indexed
its node. If nothing is changed in place but the properties of nodes, and it holds no properties of
a node, the same is read from it now as was read then. -/
def WasBuilt (s : Setup) (st : Store) (ops : List Op) (x : Indexer) (key : DocumentKey)
    (d : Document) : Prop :=
  ∃ before id target later y, ops = before ++ .index id target :: later ∧
    build s id target (run s before (Indexer.empty st)).2.extraction = (.ok d, y) ∧
    key.1 = workspaceOf target ∧ d.identifier.key? = some key.2 ∧
    (Gentle s ops (Indexer.empty st).extraction → st.TextPaths → st.OnlyProperties →
      (∀ m ∈ d.collections, m ∉ st.propertyMarks) → d.now x.extraction.store = d.now y.store)

theorem wasBuilt {s : Setup} {st : Store} {ops : List Op} {x : Indexer} {log : List LogRecord}
    (hx : x.extraction = (stateAfter s ops (Indexer.empty st).extraction).withLog log)
    (hkeys : ∀ c ∈ requests s ops (Indexer.empty st).extraction, c.identifier.key?.isSome = true)
    {key : DocumentKey} {d : Document}
    (h : (key, d) ∈ (requests s ops (Indexer.empty st).extraction).foldl Change.directly []) :
    WasBuilt s st ops x key d := by
  rcases Change.mem_foldl_directly h with hmem | ⟨hw, hworkspace, hkey⟩
  · cases hmem
  obtain ⟨before, id, target, later, y, rfl, hb⟩ := mem_requests hw
  -- the same is built in the state that the index was in, which differs in the log alone
  rw [requests_append, List.forall_mem_append] at hkeys
  obtain ⟨hfollows, -⟩ := run_follows (Follows.empty st) before hkeys.1
  obtain ⟨log', hbefore⟩ := hfollows.extraction
  obtain ⟨log'', hbuild⟩ := deaf_build s id target
    (stateAfter s before (Indexer.empty st).extraction) log'
  rw [← hbefore, hb] at hbuild
  refine ⟨before, id, target, later, _, rfl, hbuild, ?_, hkey, ?_⟩
  · rw [hworkspace, build_workspace hb]
  · intro hg hp ho hfree
    have hy : ((Op.index id target).request s
        (stateAfter s before (Indexer.empty st).extraction)).2 = y := by
      simp only [Op.request, hb]
    obtain ⟨hg₁, hg₂⟩ := hg.of_append
    have hsame := stateAfter_same hp ho hg₁
    have hindex := request_same hsame.textPaths hsame.onlyProperties hg₂.1
    have hlater := stateAfter_same hindex.textPaths hindex.onlyProperties hg₂.2
    rw [hy] at hindex hlater
    have hstate : stateAfter s (before ++ .index id target :: later)
        (Indexer.empty st).extraction = stateAfter s later y := by
      rw [stateAfter_append, stateAfter, hy]
    have hmarks : y.store.propertyMarks = st.propertyMarks := hindex.marks.trans hsame.marks
    calc d.now x.extraction.store
        = d.now (stateAfter s later y).store := by
          rw [hx, hstate]
          exact now_withLog _ log d
      _ = d.now y.store := now_eq hlater hindex.onlyProperties (hmarks ▸ hfree)
      _ = d.now (y.withLog log'').store := (now_withLog y.store log'' d).symm

theorem run_append (s : Setup) (ops more : List Op) (x : Indexer) :
    run s (ops ++ more) x =
      ((run s ops x).1 + (run s more (run s ops x).2).1, (run s more (run s ops x).2).2) := by
  induction ops generalizing x with
  | nil => simp [run]
  | cons op rest ih =>
    simp only [List.cons_append, run, ih]
    cases op.perform s x with
    | mk r y => simp only [Nat.add_assoc]

theorem run_flushed {s : Setup} {st : Store} {ops : List Op}
    (hkeys : ∀ c ∈ requests s ops (Indexer.empty st).extraction,
      c.identifier.key?.isSome = true) :
    ∃ log, run s (ops ++ [.flush]) (Indexer.empty st) =
      ((requests s ops (Indexer.empty st).extraction).countP Change.isWrite,
        ⟨(stateAfter s ops (Indexer.empty st).extraction).withLog log,
          (requests s ops (Indexer.empty st).extraction).foldl Change.directly [], []⟩) := by
  obtain ⟨hfollows, hcount⟩ := run_follows (Follows.empty st) ops hkeys
  obtain ⟨log, hx⟩ := hfollows.extraction
  obtain ⟨log', hflush⟩ := perform_flush (s := s) hfollows.settled
  have hwritten : (run s ops (Indexer.empty st)).1 +
      (run s ops (Indexer.empty st)).2.pending.countP Change.isWrite =
      (requests s ops (Indexer.empty st).extraction).countP Change.isWrite := by
    rw [hcount]
    exact Nat.zero_add _
  refine ⟨log', ?_⟩
  rw [run_append]
  simp only [run, hflush, written, Nat.add_zero]
  rw [hwritten, hx]
  rfl

/-- After operations on an empty index and a flush, the documents are those that the changes asked
for make when they are applied at once, in order; as many were written as indexing succeeded, each
one as it was built then; and other flushes in between make no difference. Indexing that fails
stages nothing. -/
theorem run_documents {s : Setup} {st : Store} {ops : List Op}
    (hkeys : ∀ c ∈ requests s ops (Indexer.empty st).extraction,
      c.identifier.key?.isSome = true) :
    ∃ n x, run s (ops ++ [.flush]) (Indexer.empty st) = (n, x) ∧
      x.documents =
        (requests s ops (Indexer.empty st).extraction).foldl Change.directly [] ∧
      x.pending = [] ∧
      n = (requests s ops (Indexer.empty st).extraction).countP Change.isWrite ∧
      (∀ key d, (key, d) ∈ x.documents → WasBuilt s st ops x key d) ∧
      (∀ others : List Op,
        others.filter (fun op => !op.isFlush) = ops.filter (fun op => !op.isFlush) →
        (run s (others ++ [.flush]) (Indexer.empty st)).2.documents = x.documents) ∧
      ∀ y z id target e, indexNode s id target y = (.error e, z) →
        z.documents = y.documents ∧ z.pending = y.pending := by
  obtain ⟨log, hrun⟩ := run_flushed hkeys
  refine ⟨_, _, hrun, rfl, rfl, rfl, ?_, ?_, ?_⟩
  · exact fun key d h => wasBuilt rfl hkeys h
  · intro others hsame
    have hrequests : requests s others (Indexer.empty st).extraction =
        requests s ops (Indexer.empty st).extraction := by
      rw [← requests_filter, hsame, requests_filter]
    have hkeys' : ∀ c ∈ requests s others (Indexer.empty st).extraction,
        c.identifier.key?.isSome = true := by
      rw [hrequests]
      exact hkeys
    obtain ⟨log', hothers⟩ := run_flushed hkeys'
    rw [hothers, hrequests]
  · exact fun y z id target e h => indexNode_failed h

/-! ## A document that shares its node's properties -/

theorem typeNames_of_root {types : Array NodeType} {ref : Reference} {t : NodeType}
    (ht : types[ref.id]? = some t) (hs : t.supers = []) :
    Indexing.typeNames types (.nodeType ref) = .ok (.list [t.name.value] 0) := by
  simp [Indexing.typeNames, Hierarchy.flatten, ht, hs, Hierarchy.Walk.run]

theorem build_of_extract {s : Setup} {id : Nat} {target : Option String} {x y : Extraction}
    {stored properties : Entries} {n : Node}
    (h : extract s id { x with buckets := [] } = (.ok stored, y)) (hn : y.store.node? id = some n)
    (hp : withNodeData y.store n stored = .ok properties) :
    build s id target x = (.ok ⟨n.identifier, workspaceOf target, properties, y.buckets⟩, y) := by
  simp only [build, run_bind, run_modify, run_get, h, hn, hp, ofExcept, run_pure]

def pageType : NodeType :=
  ⟨Name.ofText "Page", [], [], [(.str "copy", ⟨.none, .str "copy", .none⟩)], 20⟩

def pageNode : Node :=
  ⟨.str "n", .str "/n", 0, .str "Page", [(.str "title", .str "Home")], 16⟩

def pageStore : Store :=
  { Store.empty (Files.empty []) with types := #[pageType], nodes := #[pageNode], next := 30 }

/-- Every rule gives the properties of the node, the dictionary itself that the node holds. -/
def sharing : Setup where
  settings := Settings.standard
  unindexed := .ignore
  evaluator := fun _ bindings st =>
    match bindings.lookup "node" with
    | some (.node ref) =>
      match st.node? ref.id with
      | some n => (.ok (.dict n.properties n.mark), st)
      | none => (.ok .none, st)
    | _ => (.ok .none, st)

def pageDocument : Document :=
  ⟨.str "n", "live",
    [(.str "copy", .dict [(.str "title", .str "Home")] 16), (.str "__identifier", .str "n"),
      (.str "__path", .str "/n"), (.str "__parentPath", .ofTexts [['/']]),
      (.str "__typeAndSupertypes", .list [.str "Page"] 0)], []⟩

/-- The state after the page has been built. -/
def pageState : Extraction :=
  (extract sharing 0 (Indexer.empty pageStore).extraction).2

def retitle (entries : Entries) : Entries :=
  Entries.insertText entries "title" (.str "Start")

/-- The title in the copy that a document holds. -/
def titleOfCopy (d : Document) : Option String :=
  ((Entries.findText? d.properties "copy").bind fun v =>
    (v.entries?).bind fun entries => Entries.findText? entries "title").bind Value.asString?

/-- What the extraction for the page gives, with the nodes and the types that it leaves. -/
def isPageExtraction (stored : Except Error Entries) (nodes : List Node)
    (types : List NodeType) : Bool :=
  match stored, nodes, types with
  | .ok [(.str "copy", .dict [(.str "title", .str "Home")] 16)],
    [⟨.str "n", .str "/n", 0, .str "Page", [(.str "title", .str "Home")], 16⟩],
    [⟨⟨.str "Page", _⟩, [], _, _, _⟩] => true
  | _, _, _ => false

theorem extract_page :
    ∃ y, extract sharing 0 (Indexer.empty pageStore).extraction =
        (.ok [(.str "copy", .dict [(.str "title", .str "Home")] 16)], y) ∧
      y.store.nodes.toList = [pageNode] ∧ y.buckets = [] ∧
      ∃ t, y.store.types.toList = [t] ∧ t.supers = [] ∧ t.name.value = .str "Page" := by
  generalize hrun : extract sharing 0 (Indexer.empty pageStore).extraction = run
  have hpage : isPageExtraction run.1 run.2.store.nodes.toList run.2.store.types.toList = true := by
    rw [← hrun]
    decide +kernel
  have hbuckets : run.2.buckets.isEmpty = true := by rw [← hrun]; decide +kernel
  obtain ⟨r, y⟩ := run
  unfold isPageExtraction at hpage
  split at hpage
  · rename_i hresult hnodes htypes
    cases hresult
    exact ⟨y, rfl, hnodes, List.isEmpty_iff.1 hbuckets, _, htypes, rfl, rfl⟩
  · cases hpage

theorem build_page :
    build sharing 0 none (Indexer.empty pageStore).extraction = (.ok pageDocument, pageState) := by
  obtain ⟨y, hrun, hnodes, hbuckets, t, htypes, hsupers, hname⟩ := extract_page
  have hn : y.store.node? 0 = some pageNode := by
    simp [Store.node?, ← Array.getElem?_toList, hnodes]
  have ht : y.store.types[0]? = some t := by
    simp [← Array.getElem?_toList, htypes]
  have hnames : Indexing.typeNames y.store.types (y.store.typeValue pageNode.type) =
      .ok (.list [.str "Page"] 0) := by
    rw [← hname]
    exact typeNames_of_root ht hsupers
  have hpaths : ancestorPaths pageNode = .ok (.ofTexts [['/']]) := rfl
  have hdata : withNodeData y.store pageNode
      [(.str "copy", .dict [(.str "title", .str "Home")] 16)] = .ok pageDocument.properties := by
    simp only [withNodeData, hpaths, hnames]
    rfl
  rw [build_of_extract hrun hn hdata, hbuckets, pageState, hrun]
  rfl

/-- The page is to be removed from the drafts, and that is all. -/
def isDraftRemoval : List Change → Bool
  | [.remove "draft" (.str "n")] => true
  | _ => false

/-- Between two flushes the properties of the page are changed, indexing fails for a node that does
not exist, and a removal concerns another workspace. -/
theorem run_documents_page :
    (∀ c ∈ requests sharing
        [.index 0 none, .flush, .edit 0 retitle, .index 7 none, .remove 0 (some "draft")]
        (Indexer.empty pageStore).extraction, c.identifier.key?.isSome = true) ∧
      ∃ n x, run sharing ([.index 0 none, .flush, .edit 0 retitle, .index 7 none,
          .remove 0 (some "draft")] ++ [.flush]) (Indexer.empty pageStore) = (n, x) ∧
        n = 1 ∧ x.documents = [(("live", [.str "n"]), pageDocument)] ∧ x.pending = [] := by
  have hlater : isDraftRemoval (requests sharing
      [.flush, .edit 0 retitle, .index 7 none, .remove 0 (some "draft")] pageState) = true := by
    decide +kernel
  have hrequests : requests sharing
      [.index 0 none, .flush, .edit 0 retitle, .index 7 none, .remove 0 (some "draft")]
      (Indexer.empty pageStore).extraction = [.write pageDocument, .remove "draft" (.str "n")] := by
    rw [requests, Op.request, build_page]
    unfold isDraftRemoval at hlater
    split at hlater
    · rename_i h
      exact congrArg (Change.write pageDocument :: ·) h
    · cases hlater
  have hkeys : ∀ c ∈ requests sharing
      [.index 0 none, .flush, .edit 0 retitle, .index 7 none, .remove 0 (some "draft")]
      (Indexer.empty pageStore).extraction, c.identifier.key?.isSome = true := by
    rw [hrequests]
    exact List.forall_mem_cons.2 ⟨rfl, List.forall_mem_singleton.2 rfl⟩
  obtain ⟨n, x, hrun, hdocuments, hpending, hcount, -⟩ := run_documents hkeys
  rw [hrequests] at hdocuments hcount
  exact ⟨hkeys, n, x, hrun, hcount, hdocuments, hpending⟩

/-- A stored document changes with the properties that it shares with its node: what was read when
it was built is the old title, what is read when it is flushed is the new one. -/
theorem shared_properties_change :
    ∃ d y, build sharing 0 none (Indexer.empty pageStore).extraction = (.ok d, y) ∧
      titleOfCopy (d.now y.store) = some "Home" ∧
      ∃ x, (run sharing [.index 0 none, .edit 0 retitle, .flush] (Indexer.empty pageStore)).2 = x ∧
        x.documents = [(("live", [.str "n"]), d)] ∧
        titleOfCopy (d.now x.extraction.store) = some "Start" := by
  have hrequests : requests sharing [.index 0 none, .edit 0 retitle]
      (Indexer.empty pageStore).extraction = [.write pageDocument] := by
    simp [requests, Op.request, build_page]
  have hstate : stateAfter sharing [.index 0 none, .edit 0 retitle]
      (Indexer.empty pageStore).extraction = pageState.edit 0 retitle := by
    simp [stateAfter, Op.request, build_page]
  have hkeys : ∀ c ∈ requests sharing [.index 0 none, .edit 0 retitle]
      (Indexer.empty pageStore).extraction, c.identifier.key?.isSome = true := by
    rw [hrequests]
    exact List.forall_mem_singleton.2 rfl
  obtain ⟨log, hrun⟩ := run_flushed hkeys
  rw [hrequests, hstate] at hrun
  refine ⟨pageDocument, pageState, build_page, ?_, _, congrArg Prod.snd hrun, rfl, ?_⟩
  · decide +kernel
  · have hread : titleOfCopy (pageDocument.now (pageState.edit 0 retitle).store) = some "Start" := by
      decide +kernel
    exact (congrArg titleOfCopy (now_withLog _ log pageDocument)).trans hread

end ContentIndex.Index
