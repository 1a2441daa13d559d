import ContentIndex.Proofs.Loading.Shape
import ContentIndex.Proofs.Run
import Mathlib.Data.List.Forall2

/-!
# The graph that a batch declares

Which names a batch of definitions of the declared shape gives to which supertypes. A definition
may be null; its supertypes may be absent, null, one name, a list of names or a dictionary of names
with flags.
-/

namespace ContentIndex.Loading

set_option autoImplicit false

/-- The supertypes that each name of a batch declares. -/
abbrev Graph := Table String (List String)

/-- Names of the supertypes, without those that are switched off. -/
def declared? (definition : Entries) : Option (List String) :=
  match Entries.findText? definition "superTypes" with
  | none => some []
  | some .none => some []
  | some (.str s) => some (if s.isEmpty then [] else [s])
  | some (.list items _) => items.mapM Value.asString?
  | some (.dict flags _) => (flags.filter (·.2.truth)).mapM fun e => e.1.asString?
  | some _ => none

/-- A definition under its name, if it has the declared shape. -/
def declaration? : Value × Value → Option (String × List String)
  | (.str name, .none) => some (name, [])
  | (.str name, .dict definition _) =>
    if isConfiguration definition then (declared? definition).map fun names => (name, names)
    else none
  | _ => none

def graphOf? : Value → Option Graph
  | .dict definitions _ => definitions.mapM declaration?
  | _ => none

/-- One name declares another as its supertype. -/
def Declares (graph : Graph) (sub super : String) : Prop :=
  ∃ names, graph.lookup sub = some names ∧ super ∈ names

/-- Every supertype is in the batch or registered. -/
def Known (registry : Registry) (graph : Graph) : Prop :=
  ∀ sub super, Declares graph sub super →
    (graph.lookup super).isSome = true ∨ registry.has [.str super] = true

/-- No name is above itself. -/
def IsAcyclic (graph : Graph) : Prop :=
  ∀ name, ¬ Relation.TransGen (Declares graph) name name

theorem Declares.isSome {graph : Graph} {sub super : String} (h : Declares graph sub super) :
    (graph.lookup sub).isSome = true := by
  obtain ⟨names, hg, _⟩ := h
  rw [hg]
  rfl

/-! ## Reading a batch -/

/-- A definition that reads as a declaration of the graph. -/
structure ReadsAs (d : Key × Definition) (g : String × List String) : Prop where
  key : d.1 = [.str g.1]
  name : d.2.name = Name.ofText g.1
  supers : superNames d.2.entries = .ok (g.2.map .str)
  shape : isConfiguration d.2.entries = true

theorem mapM_asString? {α : Type} {f : α → Value} {items : List α} {names : List String}
    (h : items.mapM (fun a => (f a).asString?) = some names) : items.map f = names.map .str := by
  induction items generalizing names with
  | nil =>
    cases h
    rfl
  | cons a rest ih =>
    simp only [List.mapM_cons, bind, Option.bind_eq_some_iff] at h
    obtain ⟨s, hs, others, hothers, hnames⟩ := h
    cases hnames
    have ha : f a = .str s := by
      cases hfa : f a with
      | str t => rw [hfa] at hs; cases hs; rfl
      | _ => rw [hfa] at hs; cases hs
    rw [List.map_cons, List.map_cons, ha, ih hothers]

/-- The names that loading finds are those declared. -/
theorem superNames_eq {definition : Entries} {names : List String}
    (h : declared? definition = some names) :
    superNames definition = .ok (names.map .str) := by
  unfold declared? at h
  unfold superNames
  split at h <;> rename_i hf <;> rw [hf]
  · cases h
    rfl
  · cases h
    rfl
  · cases h
    rename_i s
    by_cases hs : s.isEmpty = true
    · simp [Value.truth, hs]
    · simp [Value.truth, hs, Value.entries?]
  · rename_i items mark
    have hmap : items.map id = names.map .str := mapM_asString? h
    have hitems : items = names.map .str := by rwa [List.map_id] at hmap
    cases items with
    | nil => simp [Value.truth, ← hitems]
    | cons v rest => simp [Value.truth, Value.entries?, Value.listed?, ← hitems]
  · rename_i flags mark
    have hflags : (flags.filter (·.2.truth)).map (·.1) = names.map .str := mapM_asString? h
    cases flags with
    | nil =>
      simp only [List.filter_nil, List.map_nil] at hflags
      simp [Value.truth, ← hflags]
    | cons e rest =>
      have htruth : (Value.dict (e :: rest) mark).truth = true := rfl
      simp only [htruth, Bool.not_true, Bool.false_eq_true, if_false, Value.entries?, hflags]
  · cases h

/-- Values that list supertypes are left as they are. -/
theorem listedValue_run {definition : Entries} {names : List String}
    (h : declared? definition = some names) {v : Value}
    (hv : Entries.findText? definition "superTypes" = some v) (st : Store) :
    listedValue v st = (.ok v, st) := by
  unfold declared? at h
  rw [hv] at h
  cases v with
  | none => rfl
  | str s => rfl
  | list items mark => rfl
  | dict flags mark => rfl
  | _ => cases h

/-- A definition whose supertypes are listed as they stand is taken as it stands. -/
theorem definitionOf_of_listed {definition : Entries} {st : Store}
    (h : ∀ v, Entries.findText? definition "superTypes" = some v → listedValue v st = (.ok v, st))
    (mark : Nat) : definitionOf (.dict definition mark) st = (.ok definition, st) := by
  cases definition with
  | nil => rfl
  | cons e rest =>
    have htruth : (Value.dict (e :: rest) mark).truth = true := rfl
    unfold definitionOf Eval.dictOf
    simp only [htruth, Bool.not_true, Bool.false_eq_true, if_false, Value.entries?, run_bind,
      run_pure]
    cases hf : Entries.findText? (e :: rest) "superTypes" with
    | none => rfl
    | some v =>
      simp only [run_bind, h v hf, run_pure, Entries.insertText_of_findText? hf]

theorem definitionOf_run {definition : Entries} {names : List String}
    (h : declared? definition = some names) (mark : Nat) (st : Store) :
    definitionOf (.dict definition mark) st = (.ok definition, st) :=
  definitionOf_of_listed (fun _ hv => listedValue_run h hv st) mark

theorem declaration?_run {e : Value × Value} {g : String × List String}
    (h : declaration? e = some g) (st : Store) : ∃ entries, e.1 = .str g.1 ∧
      definitionOf e.2 st = (.ok entries, st) ∧
      ReadsAs ([.str g.1], ⟨.ofText g.1, entries⟩) g := by
  unfold declaration? at h
  split at h
  · cases h
    exact ⟨[], rfl, rfl, rfl, rfl, rfl, rfl⟩
  · rename_i name definition mark
    split at h
    · rename_i hshape
      obtain ⟨names, hnames, hg⟩ := Option.map_eq_some_iff.1 h
      cases hg
      exact ⟨definition, rfl, definitionOf_run hnames mark st, rfl, rfl, superNames_eq hnames,
        hshape⟩
    · cases h
  · cases h

/-- A batch of the declared shape is read without changing anything. -/
theorem definitionsOf_run {definitions : Entries} {graph : Graph}
    (h : definitions.mapM declaration? = some graph) (st : Store) :
    ∃ batch, definitionsOf definitions st = (.ok batch, st) ∧ List.Forall₂ ReadsAs batch graph := by
  induction definitions generalizing graph with
  | nil =>
    cases h
    exact ⟨[], rfl, .nil⟩
  | cons e rest ih =>
    simp only [List.mapM_cons, bind, Option.bind_eq_some_iff] at h
    obtain ⟨g, hg, others, hothers, hgraph⟩ := h
    cases hgraph
    obtain ⟨batch, hrun, hreads⟩ := ih hothers
    obtain ⟨name, v⟩ := e
    obtain ⟨entries, rfl, hv, hd⟩ : ∃ entries, name = .str g.1 ∧
        definitionOf v st = (.ok entries, st) ∧
        ReadsAs ([.str g.1], ⟨.ofText g.1, entries⟩) g := declaration?_run hg st
    refine ⟨([.str g.1], ⟨.ofText g.1, entries⟩) :: batch, ?_, .cons hd hreads⟩
    simp only [definitionsOf, run_bind, hv, hrun]
    rfl

theorem batchOf_run {definitions : Value} {graph : Graph} (h : graphOf? definitions = some graph)
    (st : Store) :
    ∃ batch, batchOf definitions st = (.ok batch, st) ∧ List.Forall₂ ReadsAs batch graph := by
  unfold graphOf? at h
  split at h
  · exact definitionsOf_run h st
  · cases h

section Batch

variable {batch : Batch} {graph : Graph}

/-- A batch and its graph know the same names. -/
theorem lookup_batch (h : List.Forall₂ ReadsAs batch graph) (name : String) :
    (batch.lookup [.str name] = none ∧ graph.lookup name = none) ∨
      ∃ d names, batch.lookup [.str name] = some d ∧ graph.lookup name = some names ∧
        superNames d.entries = .ok (names.map .str) ∧ isConfiguration d.entries = true := by
  induction h with
  | nil => exact .inl ⟨rfl, rfl⟩
  | @cons d g batch graph hd _ ih =>
    obtain ⟨key, d⟩ := d
    obtain ⟨s, names⟩ := g
    obtain rfl : key = [.str s] := hd.key
    by_cases hs : name = s
    · subst hs
      exact .inr ⟨d, names, List.lookup_cons_self, List.lookup_cons_self, hd.supers, hd.shape⟩
    · have hkey : (([.str name] : Key) == [.str s]) = false := by simpa using hs
      have hname : (name == s) = false := by simpa using hs
      rw [List.lookup_cons, List.lookup_cons, hkey, hname]
      exact ih

theorem names_batch (h : List.Forall₂ ReadsAs batch graph) :
    batch.map (fun d => d.2.name.value) = graph.map fun g => .str g.1 := by
  induction h with
  | nil => rfl
  | cons hd _ ih =>
    rw [List.map_cons, List.map_cons, ih, hd.name]
    rfl

end Batch

end ContentIndex.Loading
