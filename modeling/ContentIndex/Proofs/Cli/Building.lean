import ContentIndex.Cli.Commands
import ContentIndex.Proofs.Entries
import ContentIndex.Proofs.Index.Staging
import ContentIndex.Proofs.Tables

/-!
# Documents of an export

Indexing all nodes of an export builds the document of one after the other and flushes once. Of
the documents with one identifier the last one is left, in the place of the first one. Neither the
workspace nor warnings have a part in what is built.
-/

namespace ContentIndex.Cli

set_option autoImplicit false

open Index

/-- The documents of all nodes, one after the other; the first failure ends it. -/
def buildAll (s : Setup) : List Nat → Extract (List Document)
  | [] => pure []
  | id :: rest => do
    let d ← build s id none
    let others ← buildAll s rest
    return d :: others

/-- The documents of a content export, without staging any of them. -/
def builtDocuments (content : String) (settings : PathChoice) (environment : Option String) :
    Extract (List Document) := do
  let settings ← Index.lift (loadSettings settings environment)
  let (_, nodes) ← Index.lift (loadContent (FilePath.ofText content))
  buildAll ⟨settings, RuleEvaluator.standard, .ignore⟩ nodes

/-- A document for a workspace. -/
def Document.within (target : Option String) (d : Document) : Document :=
  { d with workspace := workspaceOf target }

/-! ## Staging all of them -/

section Staging

variable {s : Setup} {way : Unindexed}

theorem indexNode_of_error {id : Nat} {target : Option String} {x : Indexer} {e : Error}
    {y : Extraction} (h : build s id target x.extraction = (.error e, y)) :
    indexNode s id target x = (.error e, { x with extraction := y }) := by
  simp only [indexNode, run_bind, liftExtract, h]

theorem indexNode_of_ok {id : Nat} {target : Option String} {x : Indexer} {d : Document}
    {y : Extraction} (h : build s id target x.extraction = (.ok d, y)) :
    ∃ log, indexNode s id target x =
      (.ok (), ⟨y.withLog log, x.documents, x.pending ++ [.write d]⟩) := by
  simp only [indexNode, run_bind, liftExtract, h, stage, run_modify, run_get, note_run]
  exact ⟨_, rfl⟩

/-- Staging the nodes one after the other builds the same documents, up to the log. -/
theorem indexAll_run (hway : s.unindexed.Notes way) (target : Option String) (nodes : List Nat)
    (z : Extraction) (log : List LogRecord) (documents : Documents) (pending : List Change) :
    ∃ log' pending', indexAll { s with unindexed := way } target nodes
        ⟨z.withLog log, documents, pending⟩ =
      ((buildAll s nodes z).1.map fun _ => (),
        ⟨(buildAll s nodes z).2.withLog log', documents, pending'⟩) ∧
      ∀ ds, (buildAll s nodes z).1 = .ok ds →
        pending' = pending ++ ds.map fun d => .write (Document.within target d) := by
  induction nodes generalizing z log pending with
  | nil =>
    refine ⟨log, pending, rfl, ?_⟩
    intro ds hds
    cases hds
    exact (List.append_nil pending).symm
  | cons id rest ih =>
    obtain ⟨log₁, hbuild⟩ := alike_build s hway id target z log
    rw [build_target s id target z] at hbuild
    rw [indexAll, buildAll, run_bind, run_bind]
    cases hone : build s id none z with
    | mk r y =>
      rw [hone] at hbuild
      cases r with
      | error e =>
        rw [indexNode_of_error (x := ⟨z.withLog log, documents, pending⟩) hbuild]
        exact ⟨log₁, pending, rfl, nofun⟩
      | ok d =>
        obtain ⟨log₂, hnode⟩ := indexNode_of_ok (x := ⟨z.withLog log, documents, pending⟩) hbuild
        obtain ⟨log₃, pending', hrest, hstaged⟩ :=
          ih y log₂ (pending ++ [.write (Document.within target d)])
        refine ⟨log₃, pending', ?_, ?_⟩
        · rw [hnode]
          refine hrest.trans ?_
          dsimp only
          rw [run_bind]
          cases buildAll s rest y with
          | mk r' y' => cases r' <;> rfl
        · intro ds hds
          dsimp only at hds
          rw [run_bind] at hds
          cases hothers : buildAll s rest y with
          | mk r' y' =>
            rw [hothers] at hds hstaged
            cases r' with
            | error e => cases hds
            | ok others =>
              cases hds
              rw [hstaged others rfl, List.append_assoc]
              rfl

end Staging

/-! ## Flushing once -/

section Flushing

variable {ds : List Document} {target : Option String} {documents : Documents}

/-- The fault of an identifier that cannot be a key. -/
def unhashable (d : Document) : Fault :=
  .wrongType ("unhashable type: '" ++ d.identifier.typeName ++ "'")

def hasKey (d : Document) : Bool :=
  d.identifier.key?.isSome

theorem applyAll_of_unkeyed {d : Document} (h : ds.find? (fun d => !hasKey d) = some d) :
    ∃ documents', Change.applyAll documents (ds.map fun d => .write (Document.within target d)) =
      (documents', some (unhashable d)) := by
  induction ds generalizing documents with
  | nil => cases h
  | cons e rest ih =>
    rw [List.map_cons, Change.applyAll]
    cases hkey : e.identifier.key? with
    | none =>
      rw [List.find?_cons_of_pos (by simp [hasKey, hkey])] at h
      obtain rfl := Option.some.inj h
      have happly : (Change.write (Document.within target e)).apply documents =
          .error (unhashable e) := by
        have hkey' : (Document.within target e).identifier.key? = none := hkey
        rw [Change.apply, keyOf, hkey']
        rfl
      rw [happly]
      exact ⟨documents, rfl⟩
    | some key =>
      rw [List.find?_cons_of_neg (by simp [hasKey, hkey])] at h
      rw [Change.apply_eq_directly]
      · exact ih h
      · have hkey' : (Document.within target e).identifier.key? = some key := hkey
        rw [Change.identifier, hkey']
        rfl

/-- Where a document is kept. -/
def place (target : Option String) (d : Document) : DocumentKey :=
  (workspaceOf target, d.identifier.key?.getD [])

theorem applyAll_of_keyed (h : ∀ d ∈ ds, hasKey d = true) :
    Change.applyAll documents (ds.map fun d => .write (Document.within target d)) =
      (ds.foldl (fun t d => Table.put t (place target d) (Document.within target d)) documents,
        none) := by
  induction ds generalizing documents with
  | nil => rfl
  | cons d rest ih =>
    obtain ⟨key, hkey⟩ := Option.isSome_iff_exists.1 (h d List.mem_cons_self)
    have hkey' : (Document.within target d).identifier.key? = some key := hkey
    have hdirectly : (Change.write (Document.within target d)).directly documents =
        Table.put documents (place target d) (Document.within target d) := by
      simp only [Change.directly, hkey', place, hkey, Option.getD_some]
      rfl
    rw [List.map_cons, Change.applyAll, Change.apply_eq_directly]
    · rw [List.foldl_cons, ← hdirectly]
      exact ih fun e he => h e (List.mem_cons_of_mem _ he)
    · rw [Change.identifier, hkey']
      rfl

/-- The documents left in an empty index: of those with one identifier the last one, in the place of
the first one. -/
theorem applyAll_latest (h : ∀ d ∈ ds, hasKey d = true) :
    Change.applyAll [] (ds.map fun d => .write (Document.within target d)) =
      (Table.under (place target) (Document.within target)
        (latest (fun d => d.identifier.key?) ds), none) := by
  have hplace : ∀ d ∈ ds, ∀ e ∈ ds,
      place target d = place target e ↔ d.identifier.key? = e.identifier.key? := by
    intro d hd e he
    obtain ⟨key, hkey⟩ := Option.isSome_iff_exists.1 (h d hd)
    obtain ⟨key', hkey'⟩ := Option.isSome_iff_exists.1 (h e he)
    simp [place, hkey, hkey']
  rw [applyAll_of_keyed h, Table.foldl_put_eq, latest_congr hplace]

end Flushing

/-! ## What is exported -/

/-- What is exported of documents as they are now: of those with one identifier the last one, in
the place of the first one. -/
def exported (st : Store) (ds : List Document) : Value :=
  .dict ((latest (fun d => d.identifier.key?) ds).map fun d =>
    (d.identifier, documentValue st d)) 0

theorem documentValue_withLog (st : Store) (log : List LogRecord) (target : Option String)
    (d : Document) :
    documentValue (st.withLog log) (Document.within target d) = documentValue st d := by
  simp only [documentValue, Store.refreshEntries_withLog]
  rfl

theorem documentsValue_eq (st : Store) (log : List LogRecord) (target : Option String)
    (ds : List Document) :
    documentsValue (st.withLog log) (Table.under (place target) (Document.within target)
      (latest (fun d => d.identifier.key?) ds)) = exported st ds := by
  have hdistinct := nodup_keys_latest (fun d : Document => d.identifier.key?) ds
  have hinsert := Entries.foldl_insert_eq_map (fun d : Document => d.identifier)
    (documentValue st) _ hdistinct
  rw [documentsValue, exported, ← hinsert, Table.under, List.foldl_map]
  simp only [documentValue_withLog]
  rfl

end ContentIndex.Cli
