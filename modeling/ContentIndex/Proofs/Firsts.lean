/-!
# First places

Of the elements of a list that share a key only the first one is kept, where it stands. What has
been kept of a first part decides what is kept of the rest.
-/

namespace ContentIndex

set_option autoImplicit false

variable {α κ : Type} [DecidableEq κ]

/-- Each element at its first place; elements with the same key count as the same. -/
def firsts (key : α → κ) : List α → List α
  | [] => []
  | a :: rest => a :: (firsts key rest).filter fun b => key b ≠ key a

section Firsts

variable {key : α → κ} {l m : List α} {a : α} {k : κ}

theorem mem_keys_firsts : k ∈ (firsts key l).map key ↔ k ∈ l.map key := by
  induction l with
  | nil => rfl
  | cons a rest ih =>
    rw [firsts, List.map_cons, List.map_cons, List.mem_cons, List.mem_cons, ← ih]
    by_cases hk : k = key a
    · simp [hk]
    · simp only [hk, false_or, List.mem_map, List.mem_filter, decide_eq_true_eq, ne_eq]
      constructor
      · rintro ⟨b, ⟨hb, _⟩, rfl⟩
        exact ⟨b, hb, rfl⟩
      · rintro ⟨b, hb, rfl⟩
        exact ⟨b, ⟨hb, hk⟩, rfl⟩

theorem mem_of_mem_firsts (h : a ∈ firsts key l) : a ∈ l := by
  induction l with
  | nil => exact h
  | cons b rest ih =>
    rcases List.mem_cons.1 h with rfl | hrest
    · exact List.mem_cons_self
    · exact List.mem_cons_of_mem _ (ih (List.mem_filter.1 hrest).1)

theorem nodup_keys_firsts (key : α → κ) (l : List α) : ((firsts key l).map key).Nodup := by
  induction l with
  | nil => exact List.nodup_nil
  | cons a rest ih =>
    rw [firsts, List.map_cons, List.nodup_cons]
    refine ⟨?_, ih.sublist (List.filter_sublist.map key)⟩
    rintro hmem
    obtain ⟨b, hb, hkey⟩ := List.mem_map.1 hmem
    exact of_decide_eq_true (List.mem_filter.1 hb).2 hkey

theorem firsts_append (key : α → κ) (l m : List α) :
    firsts key (l ++ m) = firsts key l ++ (firsts key m).filter fun b => key b ∉ l.map key := by
  induction l with
  | nil => exact (List.filter_eq_self.2 fun b _ => decide_eq_true List.not_mem_nil).symm
  | cons a rest ih =>
    rw [List.cons_append, firsts, firsts, ih, List.filter_append, List.filter_filter,
      List.cons_append]
    simp only [List.map_cons, List.mem_cons, not_or, Bool.decide_and, ne_eq]

theorem firsts_append_of_subset (h : ∀ b ∈ m, key b ∈ l.map key) :
    firsts key (l ++ m) = firsts key l := by
  have hnone : (firsts key m).filter (fun b => key b ∉ l.map key) = [] := by
    rw [List.filter_eq_nil_iff]
    intro b hb
    simpa using h b (mem_of_mem_firsts hb)
  rw [firsts_append, hnone, List.append_nil]

theorem firsts_concat_of_not_mem (h : key a ∉ l.map key) :
    firsts key (l ++ [a]) = firsts key l ++ [a] := by
  have hone : (firsts key [a]).filter (fun b => key b ∉ l.map key) = [a] :=
    List.filter_eq_self.2 fun b hb => by
      rw [List.mem_singleton.1 hb]
      exact decide_eq_true h
  rw [firsts_append, hone]

theorem firsts_of_nodup (h : (l.map key).Nodup) : firsts key l = l := by
  induction l with
  | nil => rfl
  | cons a rest ih =>
    obtain ⟨ha, hrest⟩ := List.nodup_cons.1 h
    rw [firsts, ih hrest, List.filter_eq_self.2]
    intro b hb
    have hne : key b ≠ key a := fun heq => ha (heq ▸ List.mem_map_of_mem hb)
    exact decide_eq_true hne

theorem firsts_firsts (key : α → κ) (l : List α) : firsts key (firsts key l) = firsts key l :=
  firsts_of_nodup (nodup_keys_firsts key l)

/-- What is kept of the second part depends on what is kept of the first one. -/
theorem firsts_append_congr {l' m' : List α} (hl : firsts key l = firsts key l')
    (hm : firsts key m = firsts key m') : firsts key (l ++ m) = firsts key (l' ++ m') := by
  have hkeys : ∀ k, k ∈ l.map key ↔ k ∈ l'.map key := by
    intro k
    rw [← mem_keys_firsts, hl, mem_keys_firsts]
  rw [firsts_append, firsts_append, hl, hm]
  simp only [hkeys]

theorem firsts_flatten (key : α → κ) (ls : List (List α)) :
    firsts key (ls.map (firsts key)).flatten = firsts key ls.flatten := by
  induction ls with
  | nil => rfl
  | cons l rest ih =>
    rw [List.map_cons, List.flatten_cons, List.flatten_cons]
    exact firsts_append_congr (firsts_firsts key l) ih

end Firsts

/-! ## The last element with a key, at its first place -/

/-- Each key at its first place, with the last of the elements that have it. -/
def latest (key : α → κ) (l : List α) : List α :=
  (firsts key l).map fun a => (l.reverse.find? fun b => key b = key a).getD a

section Latest

variable {key : α → κ} {l : List α} {a : α}

theorem key_getD_find? (key : α → κ) (l : List α) (a : α) :
    key ((l.find? fun b => key b = key a).getD a) = key a := by
  cases h : l.find? fun b => key b = key a with
  | none => rfl
  | some b => simpa using List.find?_some h

theorem keys_latest (key : α → κ) (l : List α) : (latest key l).map key = (firsts key l).map key := by
  rw [latest, List.map_map]
  refine List.map_congr_left fun a _ => ?_
  exact key_getD_find? key l.reverse a

theorem nodup_keys_latest (key : α → κ) (l : List α) : ((latest key l).map key).Nodup := by
  rw [keys_latest]
  exact nodup_keys_firsts key l

theorem latest_concat_of_mem (h : key a ∈ l.map key) :
    latest key (l ++ [a]) = (latest key l).map fun b => if key b = key a then a else b := by
  have hfirsts : firsts key (l ++ [a]) = firsts key l :=
    firsts_append_of_subset fun b hb => (List.mem_singleton.1 hb) ▸ h
  rw [latest, latest, hfirsts, List.map_map]
  refine List.map_congr_left fun b _ => ?_
  rw [List.reverse_append, Function.comp_apply, key_getD_find? key]
  by_cases hb : key b = key a
  · simp [hb]
  · simp [hb, Ne.symm hb]

theorem latest_concat_of_not_mem (h : key a ∉ l.map key) :
    latest key (l ++ [a]) = latest key l ++ [a] := by
  rw [latest, latest, firsts_concat_of_not_mem h, List.map_append]
  congr 1
  · refine List.map_congr_left fun b hb => ?_
    have hne : key a ≠ key b := fun heq => h (heq ▸ List.mem_map_of_mem (mem_of_mem_firsts hb))
    simp [hne]
  · simp

/-- Only which elements share a key matters. -/
theorem firsts_congr {κ' : Type} [DecidableEq κ'] {key' : α → κ'}
    (h : ∀ a ∈ l, ∀ b ∈ l, key a = key b ↔ key' a = key' b) : firsts key l = firsts key' l := by
  induction l with
  | nil => rfl
  | cons a rest ih =>
    have hrest := ih fun b hb c hc => h b (List.mem_cons_of_mem _ hb) c (List.mem_cons_of_mem _ hc)
    rw [firsts, firsts, hrest]
    congr 1
    refine List.filter_congr fun b hb => ?_
    have hb' : b ∈ a :: rest := List.mem_cons_of_mem _ (mem_of_mem_firsts hb)
    simp only [h b hb' a List.mem_cons_self, ne_eq]

theorem latest_congr {κ' : Type} [DecidableEq κ'] {key' : α → κ'}
    (h : ∀ a ∈ l, ∀ b ∈ l, key a = key b ↔ key' a = key' b) : latest key l = latest key' l := by
  rw [latest, latest, ← firsts_congr h]
  refine List.map_congr_left fun a ha => ?_
  have ha' : a ∈ l := mem_of_mem_firsts ha
  have hfind : l.reverse.find? (fun b => key b = key a) =
      l.reverse.find? (fun b => key' b = key' a) := by
    rw [← List.head?_filter, ← List.head?_filter]
    congr 1
    refine List.filter_congr fun b hb => ?_
    simp only [h b (List.mem_reverse.1 hb) a ha']
  rw [hfind]

end Latest

end ContentIndex
