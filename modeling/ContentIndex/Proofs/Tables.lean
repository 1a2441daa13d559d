import ContentIndex.Proofs.Firsts
import ContentIndex.Table
import Mathlib.Data.List.Induction

/-!
# Tables made of lists

Putting the elements of a list one after the other leaves the last one of each key, in the place
where its key was first put.
-/

namespace ContentIndex.Table

set_option autoImplicit false

section Lookup

variable {κ α : Type} [BEq κ] [LawfulBEq κ]

theorem lookup_foldl_put (l : List (κ × α)) (t : Table κ α) (key : κ) :
    (l.foldl (fun t (k, a) => put t k a) t).lookup key =
      (l.reverse.lookup key).or (t.lookup key) := by
  induction l generalizing t with
  | nil => rfl
  | cons e rest ih =>
    obtain ⟨k, a⟩ := e
    rw [List.foldl_cons, ih, List.reverse_cons, List.lookup_append, Option.or_assoc]
    congr 1
    by_cases hk : key = k
    · subst hk
      simp [lookup_put_self]
    · have hne : (key == k) = false := beq_false_of_ne hk
      simp [lookup_put_of_ne t a hk, List.lookup_cons, hne]

/-- The last of the entries with a key counts. -/
theorem lookup_ofList (l : List (κ × α)) (key : κ) :
    (ofList l).lookup key = l.reverse.lookup key := by
  rw [ofList, lookup_foldl_put]
  exact Option.or_none

end Lookup

section Order

variable {κ α β : Type} [BEq κ] [LawfulBEq κ] {f : α → κ} {g : α → β} {m : List α} {a : α}

/-- A table with an entry for each of some elements. -/
def under (f : α → κ) (g : α → β) (l : List α) : Table κ β :=
  l.map fun a => (f a, g a)

theorem put_under_of_not_mem (h : f a ∉ m.map f) :
    put (under f g m) (f a) (g a) = under f g (m ++ [a]) := by
  induction m with
  | nil => rfl
  | cons b rest ih =>
    rw [List.map_cons, List.mem_cons, not_or] at h
    have hb : (f a == f b) = false := beq_false_of_ne h.1
    have hrest := ih h.2
    unfold under at hrest ⊢
    simp [put, hb, hrest]

variable [DecidableEq κ]

theorem put_under_of_mem (hdistinct : (m.map f).Nodup) (h : f a ∈ m.map f) :
    put (under f g m) (f a) (g a) = under f g (m.map fun b => if f b = f a then a else b) := by
  induction m with
  | nil => cases h
  | cons b rest ih =>
    obtain ⟨hnew, hrest⟩ := List.nodup_cons.1 hdistinct
    unfold under at ih ⊢
    by_cases hb : f a = f b
    · -- the key stands here, so it does not stand further on
      have hkept : rest.map (fun c => if f c = f a then a else c) = rest := by
        conv_rhs => rw [← List.map_id rest]
        refine List.map_congr_left fun c hc => ?_
        have hne : f c ≠ f a := fun heq => hnew (hb ▸ heq ▸ List.mem_map_of_mem hc)
        exact if_neg hne
      have hreplaced : (b :: rest).map (fun c => if f c = f a then a else c) = a :: rest := by
        rw [List.map_cons, hkept, if_pos hb.symm]
      rw [hreplaced]
      simp [put, hb]
    · have hmem : f a ∈ rest.map f := (List.mem_cons.1 h).resolve_left hb
      have hne : (f a == f b) = false := beq_false_of_ne hb
      simp [put, hne, Ne.symm hb, ih hrest hmem]

/-- Of the elements with one key the last one is left. -/
theorem foldl_put_eq (f : α → κ) (g : α → β) (l : List α) :
    l.foldl (fun t a => put t (f a) (g a)) [] = under f g (latest f l) := by
  induction l using List.reverseRecOn with
  | nil => rfl
  | append_singleton l a ih =>
    have hkeys : f a ∈ (latest f l).map f ↔ f a ∈ l.map f := by
      rw [keys_latest, mem_keys_firsts]
    rw [List.foldl_append, ih, List.foldl_cons, List.foldl_nil]
    by_cases h : f a ∈ l.map f
    · rw [put_under_of_mem (nodup_keys_latest f l) (hkeys.2 h), latest_concat_of_mem h]
    · rw [put_under_of_not_mem (mt hkeys.1 h), latest_concat_of_not_mem h]

end Order

end ContentIndex.Table
