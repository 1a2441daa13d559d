import ContentIndex.Proofs.Loading.Batch

/-!
# Batches of data

A batch is data when its definitions are dictionaries or null and their supertypes are at hand. Such
a batch is read without running anything, whatever its definitions hold otherwise, and the order of
its definitions does not show in what is found in it.
-/

namespace ContentIndex.Loading

set_option autoImplicit false

/-- A definition whose supertypes, if it has any, are no sequence that has to be gone through. -/
def isData : Value → Bool
  | .none => true
  | .dict definition _ =>
    ((Entries.findText? definition "superTypes").all fun supers =>
      supers.listed?.isSome || !Eval.isIterable supers)
  | _ => false

/-- The entries of a definition that is data. -/
def entriesOf : Value → Entries
  | .dict definition _ => definition
  | _ => []

/-- What a dictionary of definitions defines. -/
def batchFrom (definitions : Entries) : Batch :=
  definitions.filterMap fun e => e.1.key?.map fun key => (key, ⟨⟨e.1, key⟩, entriesOf e.2⟩)

/-- Definitions by name; a dictionary has no key twice. -/
structure IsBatch (definitions : Entries) : Prop where
  data : ∀ e ∈ definitions, isData e.2 = true
  distinct : (definitions.filterMap fun e => e.1.key?).Nodup

/-- The batch has a definition under a key. -/
def Defines (definitions : Entries) (key : Key) : Prop :=
  ((batchFrom definitions).lookup key).isSome = true

instance (definitions : Entries) (key : Key) : Decidable (Defines definitions key) :=
  inferInstanceAs (Decidable (_ = _))

/-! ## Reading -/

theorem definitionOf_data {v : Value} (h : isData v = true) (st : Store) :
    definitionOf v st = (.ok (entriesOf v), st) := by
  cases v with
  | none => rfl
  | dict definition mark =>
    refine definitionOf_of_listed (fun supers hf => ?_) mark
    simp only [isData, hf, Option.all_some, Bool.or_eq_true, Bool.not_eq_true',
      Option.isSome_iff_ne_none] at h
    rcases h with h | h
    · simp [listedValue, h, run_pure]
    · simp [listedValue, h, run_pure]
  | _ => cases h

theorem batchOf_data {definitions : Entries} (h : ∀ e ∈ definitions, isData e.2 = true)
    (mark : Nat) (st : Store) :
    batchOf (.dict definitions mark) st = (.ok (batchFrom definitions), st) := by
  have hread : definitionsOf definitions st = (.ok (batchFrom definitions), st) := by
    induction definitions with
    | nil => rfl
    | cons e rest ih =>
      obtain ⟨name, v⟩ := e
      obtain ⟨hv, hrest⟩ := List.forall_mem_cons.1 h
      simp only [definitionsOf, run_bind, definitionOf_data hv, ih hrest, batchFrom,
        List.filterMap_cons, Name.ofValue?]
      cases name.key? <;> rfl
  exact hread

theorem loadTypes_data {definitions : Entries} (h : ∀ e ∈ definitions, isData e.2 = true)
    (registry : Registry) (mark : Nat) (st : Store) :
    loadTypes registry (.dict definitions mark) st =
      match makeBatch st.types registry (batchFrom definitions) with
      | .ok p => (.ok (registry.registerAll p.made, p.made.map (·.2)), loadedStore registry st p)
      | .error e => (.error e, st) := by
  simp only [loadTypes, run_bind, batchOf_data h, run_get]
  cases makeBatch st.types registry (batchFrom definitions) with
  | ok p => rfl
  | error e => rfl

/-! ## Looking up definitions -/

section Lookup

variable {definitions : Entries} {key : Key} {d : Definition}

theorem keys_batchFrom (definitions : Entries) :
    (batchFrom definitions).map (·.1) = definitions.filterMap fun e => e.1.key? := by
  induction definitions with
  | nil => rfl
  | cons e rest ih =>
    rw [batchFrom, List.filterMap_cons, List.filterMap_cons]
    cases e.1.key? with
    | none => exact ih
    | some key => exact congrArg (key :: ·) ih

theorem lookup_eq_some_iff {κ α : Type} [BEq κ] [LawfulBEq κ] {t : Table κ α} {key : κ} {a : α}
    (h : (t.map (·.1)).Nodup) : t.lookup key = some a ↔ (key, a) ∈ t := by
  induction t with
  | nil => simp
  | cons e rest ih =>
    obtain ⟨k, b⟩ := e
    obtain ⟨hk, hrest⟩ := List.nodup_cons.1 h
    by_cases hkey : key = k
    · subst hkey
      have hnot : (key, a) ∉ rest := fun hmem => hk (List.mem_map.2 ⟨_, hmem, rfl⟩)
      simp [List.lookup_cons_self, hnot, eq_comm]
    · have hne : (key == k) = false := beq_false_of_ne hkey
      rw [List.lookup_cons, hne, List.mem_cons]
      simp only [Prod.mk.injEq, hkey, false_and, false_or]
      exact ih hrest

theorem IsBatch.lookup (h : IsBatch definitions) :
    (batchFrom definitions).lookup key = some d ↔ (key, d) ∈ batchFrom definitions :=
  lookup_eq_some_iff (keys_batchFrom definitions ▸ h.distinct)

/-- The same definitions in another order are the same batch. -/
theorem IsBatch.perm (h : IsBatch definitions) {others : Entries} (hp : definitions.Perm others) :
    IsBatch others where
  data := fun e he => h.data e (hp.mem_iff.2 he)
  distinct := (hp.filterMap _).nodup_iff.1 h.distinct

theorem IsBatch.lookup_perm (h : IsBatch definitions) {others : Entries}
    (hp : definitions.Perm others) (key : Key) :
    (batchFrom others).lookup key = (batchFrom definitions).lookup key := by
  apply Option.ext
  intro d
  rw [(h.perm hp).lookup, h.lookup]
  exact (hp.filterMap _).symm.mem_iff

end Lookup

end ContentIndex.Loading
