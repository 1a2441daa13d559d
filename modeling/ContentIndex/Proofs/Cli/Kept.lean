import ContentIndex.Proofs.Cli.Building
import ContentIndex.Proofs.Eval.Steps

/-!
# What building documents leaves alone

Reading settings, loading an export and building the documents of its nodes change no file. Rules
do not change the rules of types either.
-/

namespace ContentIndex.Cli

set_option autoImplicit false

open Index

/-! ## Loading -/

section Loading

/-- Reading settings leaves everything but the log alone. -/
theorem loadSettings_kept {γ : Type} {part : Store → γ}
    (hpart : ∀ st log, part { st with log := log } = part st) (choice : PathChoice)
    (environment : Option String) : Preserves part (loadSettings choice environment) := by
  have hnote : ∀ level message, Preserves part (Eval.note level message) :=
    fun _ _ st => hpart st _
  have hload : ∀ path, Preserves part (Settings.load path environment) := by
    intro path
    unfold Settings.load
    split
    · exact .bind (hnote _ _) fun _ => .pure _
    · refine .bind .get fun st => ?_
      split
      · exact .throw _
      · exact .bind (hnote _ _) fun _ => .pure _
  cases choice with
  | absent => exact hload none
  | path text => exact hload (some text)
  | nothing => exact .throw _

theorem definitionOf_files (v : Value) : Preserves Store.files (Loading.definitionOf v) := by
  have hobeys := Eval.lawful_fixed.interp Eval.steps
  unfold Loading.definitionOf
  split
  · exact .pure []
  · refine .bind (Store.files_of_fixed (Eval.lawful_fixed.dictOf hobeys v)) fun entries => ?_
    split
    · refine .bind ?_ fun _ => .pure _
      unfold Loading.listedValue
      split
      · exact .bind (Store.files_of_fixed (Eval.lawful_fixed.collect hobeys _)) fun _ => .pure _
      · exact .pure _
    · exact .pure _

theorem definitionsOf_files (definitions : Entries) :
    Preserves Store.files (Loading.definitionsOf definitions) := by
  induction definitions with
  | nil => exact .pure []
  | cons e rest ih =>
    refine .bind (definitionOf_files e.2) fun entries => .bind ih fun others => ?_
    split
    · exact .pure _
    · exact .pure _

theorem withTypes_files (st : Store) (types : List NodeType) :
    (Loading.withTypes st types).files = st.files := by
  induction types generalizing st with
  | nil => rfl
  | cons t rest ih => exact ih (st.addType t).1

theorem loadTypes_files (registry : Registry) (definitions : Value) :
    Preserves Store.files (Loading.loadTypes registry definitions) := by
  have hbatch : Preserves Store.files (Loading.batchOf definitions) := by
    unfold Loading.batchOf
    split
    · exact .throw _
    · exact definitionsOf_files _
  refine .bind hbatch fun batch st => ?_
  simp only [run_bind, run_get]
  cases Loading.makeBatch st.types registry batch with
  | error e => rfl
  | ok p => exact withTypes_files st _

theorem addNodes_kept {γ : Type} {part : Store → γ}
    (hpart : ∀ st n, part (Store.addNode st n).1 = part st) (st : Store) (nodes : List Node) :
    part (st.addNodes nodes).1 = part st := by
  have hfold : ∀ (nodes : List Node) (st : Store) (ids : List Nat),
      part (nodes.foldl (fun (acc : Store × List Nat) n =>
        ((acc.1.addNode n).1, (acc.1.addNode n).2 :: acc.2)) (st, ids)).1 = part st := by
    intro nodes
    induction nodes with
    | nil => exact fun _ _ => rfl
    | cons n rest ih => exact fun st ids => (ih (st.addNode n).1 _).trans (hpart st n)
  exact hfold nodes st []

theorem loadNodes_files (registry : Registry) (base : Option FilePath) (definitions : Value) :
    Preserves Store.files (Loading.loadNodes registry base definitions) := by
  have hobeys := Eval.lawful_fixed.interp Eval.steps
  refine .bind (Store.files_of_fixed (Eval.lawful_fixed.collect hobeys definitions))
    fun definitions => ?_
  split
  · exact .throw _
  · intro st
    have hfiles : ∀ (st : Store) n, (st.addNode n).1.files = st.files := fun _ _ => rfl
    exact addNodes_kept hfiles st _

theorem loadContent_files (path : FilePath) : Preserves Store.files (loadContent path) := by
  unfold loadContent
  refine .bind .get fun st => ?_
  split
  · exact .throw _
  · refine .bind (Store.files_of_fixed (Eval.lawful_fixed.fresh _)) fun content => ?_
    split
    · exact .throw _
    · exact .bind (loadTypes_files _ _) fun loaded => .bind (loadNodes_files _ _ _) fun _ => .pure _

end Loading

/-! ## Documents -/

section Documents

theorem preserves_lift {α γ : Type} {part : Store → γ} {action : Eval α}
    (hpart : ∀ st log, part { st with log := log } = part st) (h : Preserves part action) :
    Preserves (fun x : Extraction => part x.store) (Index.lift action) := by
  intro x
  have hstart : part { x.store with log := [] } = part x.store := hpart x.store []
  exact (hpart _ _).trans ((h { x.store with log := [] }).trans hstart)

/-- No rule changes a file or a rule. -/
theorem leftAlone_fixed (settings : Settings) (unindexed : Unindexed) :
    LeftAlone ⟨settings, RuleEvaluator.standard, unindexed⟩ fun x => x.store.fixed where
  common built := by
    refine preserves_lift (fun _ _ => rfl) fun st => ?_
    obtain ⟨r, next, notes, -, hget⟩ := Context.get_run settings.context built st
    exact congrArg (fun run => Store.fixed run.2) (hget st.log)
  evaluator rule bindings := by
    refine preserves_lift (fun _ _ => rfl) ?_
    cases rule with
    | str text => exact evaluate_fixed Builtin.every text bindings
    | _ => exact .throw _
  note level message := preserves_lift (fun _ _ => rfl) fun _ => rfl
  account _ _ _ _ := rfl

theorem buildAll_fixed (settings : Settings) (unindexed : Unindexed) (nodes : List Nat) :
    Preserves (fun x : Extraction => x.store.fixed)
      (buildAll ⟨settings, RuleEvaluator.standard, unindexed⟩ nodes) := by
  induction nodes with
  | nil => exact .pure []
  | cons id rest ih =>
    exact .bind ((leftAlone_fixed settings unindexed).build (fun _ _ => rfl) id none) fun _ =>
      .bind ih fun _ => .pure _

theorem builtDocuments_files (content : String) (settings : PathChoice)
    (environment : Option String) :
    Preserves (fun x : Extraction => x.store.files)
      (builtDocuments content settings environment) := by
  refine .bind (preserves_lift (fun _ _ => rfl)
    (loadSettings_kept (fun _ _ => rfl) settings environment)) fun settings => ?_
  refine .bind (preserves_lift (fun _ _ => rfl) (loadContent_files _)) fun loaded => ?_
  exact fun x => congrArg Prod.fst (buildAll_fixed settings .ignore loaded.2 x)

end Documents

end ContentIndex.Cli
