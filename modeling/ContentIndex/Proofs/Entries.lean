import ContentIndex.Value.Key

/-!
# Entries by key

What is found in the entries of a dictionary after one of them has been set or taken away. Only the
key counts; the order of the entries does not matter here.
-/

namespace ContentIndex

set_option autoImplicit false

namespace Value

variable {v w : Value}

/-- Only a text has the key of a text, and only bytes have the key of bytes. -/
theorem isText_of_key? {atom : KeyAtom} (hatom : (∃ s, atom = .str s) ∨ ∃ b, atom = .bytes b)
    (h : v.key? = some [atom]) : (∃ s, v = .str s) ∨ ∃ b, v = .bytes b := by
  cases v with
  | str s => exact .inl ⟨s, rfl⟩
  | bytes b => exact .inr ⟨b, rfl⟩
  | float x =>
    rw [key?, floatKey] at h
    split at h <;> cases h <;> simp at hatom
  | tuple items mark =>
    rw [key?] at h
    obtain ⟨ks, _, hks⟩ := Option.map_eq_some_iff.1 h
    simp at hks
  | range start stop step mark =>
    rw [key?, rangeKey] at h
    split at h <;> cases h
  | view kind entries owner mark =>
    cases kind <;> simp [key?] at h
    subst h
    simp at hatom
  | rule name type indexing extractor mark =>
    rw [key?] at h
    split at h <;> cases h
  | object typeName mark =>
    have hobject : ∀ mark, (if mark == 0 then KeyAtom.object "object" typeName else .mark mark) ≠
        atom := by
      rintro mark rfl
      split at hatom <;> simp at hatom
    unfold key? at h
    split at h <;> simp_all
  | union members =>
    rw [key?] at h
    obtain ⟨ks, _, hks⟩ := Option.map_eq_some_iff.1 h
    cases hks
    simp at hatom
  | method receiver name mark =>
    rw [key?] at h
    obtain ⟨owner, _, hks⟩ := Option.map_eq_some_iff.1 h
    cases hks
  | _ => simp [key?] at h <;> subst h <;> simp at hatom

theorem eq_of_key? (hw : (∃ s, w = .str s) ∨ ∃ b, w = .bytes b) (h : v.key? = w.key?) :
    v = w := by
  rcases hw with ⟨s, rfl⟩ | ⟨b, rfl⟩
  · have hv : v.key? = some [.str s] := h.trans (by rw [key?])
    rcases isText_of_key? (.inl ⟨s, rfl⟩) hv with ⟨s', rfl⟩ | ⟨b, rfl⟩ <;> simp_all [key?]
  · have hv : v.key? = some [.bytes b] := h.trans (by rw [key?])
    rcases isText_of_key? (.inr ⟨b, rfl⟩) hv with ⟨s', rfl⟩ | ⟨b, rfl⟩ <;> simp_all [key?]

theorem eq_str_of_key? {name : String} (h : v.key? = some [.str name]) : v = .str name :=
  eq_of_key? (.inl ⟨name, rfl⟩) (h.trans (by rw [key?]))

end Value

namespace Entries

theorem hasKey_iff {key : Key} {v : Value} : v.hasKey key = true ↔ v.key? = some key := by
  simp [Value.hasKey]

theorem find?_insert_self {k : Value} {key : Key} (h : k.key? = some key) (entries : Entries)
    (v : Value) : find? (insert entries k v) key = some v := by
  induction entries with
  | nil => simp [insert, find?, hasKey_iff.2 h]
  | cons e rest ih =>
    obtain ⟨k', w⟩ := e
    by_cases hk : k'.key? = k.key?
    · simp [insert, find?, hk, Value.hasKey, h]
    · have hne : k'.hasKey key = false := by
        rw [Value.hasKey, beq_eq_false_iff_ne, ← h]
        exact hk
      simp [insert, find?, hk, hne, ih]

theorem find?_insert_of_ne {k : Value} {key : Key} (h : k.key? ≠ some key) (entries : Entries)
    (v : Value) : find? (insert entries k v) key = find? entries key := by
  have hne : k.hasKey key = false := by
    rw [Value.hasKey, beq_eq_false_iff_ne]
    exact h
  induction entries with
  | nil => simp [insert, find?, hne]
  | cons e rest ih =>
    obtain ⟨k', w⟩ := e
    by_cases hk : k'.key? = k.key?
    · have hne' : k'.hasKey key = false := by rw [Value.hasKey, hk, ← Value.hasKey, hne]
      simp [insert, find?, hk, hne']
    · simp [insert, find?, hk, ih]

theorem find?_append (entries others : Entries) (key : Key) :
    find? (entries ++ others) key = (find? entries key).or (find? others key) := by
  induction entries with
  | nil => rfl
  | cons e rest ih =>
    obtain ⟨k, v⟩ := e
    rw [List.cons_append, find?, find?, ih]
    split <;> rfl

theorem find?_erase_of_ne {key other : Key} (h : key ≠ other) (entries : Entries) :
    find? (erase entries other) key = find? entries key := by
  induction entries with
  | nil => rfl
  | cons e rest ih =>
    obtain ⟨k, v⟩ := e
    rw [erase, List.filter_cons]
    by_cases hk : k.key? = some other
    · have hne : k.hasKey key = false := by
        rw [Value.hasKey, hk, beq_eq_false_iff_ne]
        exact fun heq => h (Option.some.inj heq).symm
      rw [if_neg (by simpa using hasKey_iff.2 hk), find?, hne]
      exact ih
    · rw [if_pos (by simpa [Value.hasKey] using hk), find?, find?]
      split
      · rfl
      · exact ih

theorem insert_of_forall_ne {entries : Entries} {k : Value} (h : ∀ e ∈ entries, e.1.key? ≠ k.key?)
    (v : Value) : insert entries k v = entries ++ [(k, v)] := by
  induction entries with
  | nil => rfl
  | cons e rest ih =>
    obtain ⟨k', w⟩ := e
    have hne : k'.key? ≠ k.key? := h (k', w) List.mem_cons_self
    simp [insert, hne, ih fun e he => h e (List.mem_cons_of_mem _ he)]

/-- Inserting under distinct keys lists the entries. -/
theorem foldl_insert_eq_map {α : Type} (f g : α → Value) (l : List α)
    (h : (l.map fun a => (f a).key?).Nodup) :
    l.foldl (fun d a => insert d (f a) (g a)) [] = l.map fun a => (f a, g a) := by
  have hfrom : ∀ (l before : List α), ((before ++ l).map fun a => (f a).key?).Nodup →
      l.foldl (fun d a => insert d (f a) (g a)) (before.map fun a => (f a, g a)) =
        (before ++ l).map fun a => (f a, g a) := by
    intro l
    induction l with
    | nil =>
      intro before _
      rw [List.append_nil]
      rfl
    | cons a rest ih =>
      intro before hdistinct
      have hnew : ∀ e ∈ before.map (fun b => (f b, g b)), e.1.key? ≠ (f a).key? := by
        intro e he
        obtain ⟨b, hb, rfl⟩ := List.mem_map.1 he
        rw [List.map_append, List.nodup_append] at hdistinct
        exact hdistinct.2.2 _ (List.mem_map_of_mem hb) _ List.mem_cons_self
      rw [List.foldl_cons, insert_of_forall_ne hnew]
      have hnext := ih (before ++ [a]) (by rw [List.append_assoc]; exact hdistinct)
      rw [List.map_append, List.append_assoc] at hnext
      exact hnext
  exact hfrom l [] h

/-! ## Lists of entries -/

theorem find?_eq_none {entries : Entries} {key : Key} (h : ∀ e ∈ entries, e.1.key? ≠ some key) :
    find? entries key = none := by
  induction entries with
  | nil => rfl
  | cons e rest ih =>
    obtain ⟨k, v⟩ := e
    have hne : k.hasKey key = false := by
      rw [Bool.eq_false_iff, Ne, hasKey_iff]
      exact h (k, v) List.mem_cons_self
    rw [find?, hne]
    exact ih fun e he => h e (List.mem_cons_of_mem _ he)

theorem find?_of_mem {entries : Entries} (hdistinct : (entries.map fun e => e.1.key?).Nodup)
    {e : Value × Value} {key : Key} (he : e ∈ entries) (hkey : e.1.key? = some key) :
    find? entries key = some e.2 := by
  induction entries with
  | nil => cases he
  | cons e' rest ih =>
    obtain ⟨k, v⟩ := e'
    obtain ⟨hnew, hrest⟩ := List.nodup_cons.1 hdistinct
    rcases List.mem_cons.1 he with rfl | hmem
    · rw [find?, hasKey_iff.2 hkey]
      rfl
    · have hne : k.hasKey key = false := by
        rw [Bool.eq_false_iff, Ne, hasKey_iff]
        intro hk
        exact hnew (List.mem_map.2 ⟨e, hmem, hkey.trans hk.symm⟩)
      rw [find?, hne]
      exact ih hrest hmem

/-- An entry added to the order and the table that a dictionary is made of. -/
def added (acc : List (Value × Key) × Std.HashMap Key Value) (e : Value × Value) :
    List (Value × Key) × Std.HashMap Key Value :=
  match e.1.key? with
  | some k => (if acc.2.contains k then acc.1 else (e.1, k) :: acc.1, acc.2.insert k e.2)
  | none => acc

theorem ofList_eq (entries : Entries) :
    ofList entries =
      listed (entries.foldl added ([], ∅)).1.reverse (entries.foldl added ([], ∅)).2 :=
  rfl

/-- The order and the table of entries under distinct keys. -/
structure Holds (entries : Entries) (acc : List (Value × Key) × Std.HashMap Key Value) : Prop where
  order : acc.1.reverse = entries.map fun e => (e.1, e.1.key?.getD [])
  table : ∀ key, acc.2[key]? = find? entries key

theorem Holds.listed_eq {entries : Entries} {acc : List (Value × Key) × Std.HashMap Key Value}
    (h : Holds entries acc) (hkeys : ∀ e ∈ entries, e.1.key?.isSome = true)
    (hdistinct : (entries.map fun e => e.1.key?).Nodup) :
    listed acc.1.reverse acc.2 = entries := by
  have hfound : ∀ e ∈ entries,
      (acc.2[e.1.key?.getD []]?).map (fun v => (e.1, v)) = some e := by
    intro e he
    obtain ⟨key, hkey⟩ := Option.isSome_iff_exists.1 (hkeys e he)
    simp [hkey, h.table, find?_of_mem hdistinct he hkey]
  have hall : ∀ l : Entries, (∀ e ∈ l, e ∈ entries) →
      l.filterMap (fun e => (acc.2[e.1.key?.getD []]?).map fun v => (e.1, v)) = l := by
    intro l hl
    induction l with
    | nil => rfl
    | cons e rest ih =>
      obtain ⟨he, hrest⟩ := List.forall_mem_cons.1 hl
      rw [List.filterMap_cons, hfound e he, ih hrest]
  rw [h.order, listed, List.filterMap_map]
  exact hall entries fun _ he => he

theorem Holds.added {entries : Entries} {acc : List (Value × Key) × Std.HashMap Key Value}
    (h : Holds entries acc) {e : Value × Value} {key : Key} (hkey : e.1.key? = some key)
    (hnew : find? entries key = none) : Holds (entries ++ [e]) (Entries.added acc e) := by
  have hcontains : acc.2.contains key = false := by
    rw [Std.HashMap.contains_eq_isSome_getElem?, h.table, hnew]
    rfl
  have hone : Entries.added acc e = ((e.1, key) :: acc.1, acc.2.insert key e.2) := by
    simp [Entries.added, hkey, hcontains]
  rw [hone]
  constructor
  · simp [h.order, hkey]
  · intro key'
    rw [Std.HashMap.getElem?_insert, find?_append, h.table]
    by_cases hsame : key = key'
    · subst hsame
      simp [hnew, find?, hasKey_iff.2 hkey]
    · have hne : e.1.hasKey key' = false := by
        rw [Bool.eq_false_iff, Ne, hasKey_iff, hkey]
        exact fun h => hsame (Option.some.inj h)
      simp [hsame, find?, hne]

theorem Holds.foldl {entries rest : Entries} {acc : List (Value × Key) × Std.HashMap Key Value}
    (h : Holds entries acc) (hkeys : ∀ e ∈ entries ++ rest, e.1.key?.isSome = true)
    (hdistinct : ((entries ++ rest).map fun e => e.1.key?).Nodup) :
    Holds (entries ++ rest) (rest.foldl Entries.added acc) := by
  induction rest generalizing entries acc with
  | nil =>
    rw [List.append_nil]
    exact h
  | cons e rest ih =>
    obtain ⟨key, hkey⟩ := Option.isSome_iff_exists.1 (hkeys e (by simp))
    have hnew : find? entries key = none := by
      refine find?_eq_none fun e' he' heq => ?_
      rw [List.map_append, List.nodup_append] at hdistinct
      exact hdistinct.2.2 _ (List.mem_map_of_mem he') _ List.mem_cons_self (heq.trans hkey.symm)
    rw [List.append_cons] at hkeys hdistinct ⊢
    exact ih (h.added hkey hnew) hkeys hdistinct

/-- Entries under distinct keys are listed as they are. -/
theorem ofList_of_distinct {entries : Entries} (hkeys : ∀ e ∈ entries, e.1.key?.isSome = true)
    (hdistinct : (entries.map fun e => e.1.key?).Nodup) : ofList entries = entries := by
  have hnothing : Holds [] ([], ∅) := ⟨rfl, fun key => by simp [find?]⟩
  have hall : Holds entries (entries.foldl added ([], ∅)) := hnothing.foldl hkeys hdistinct
  rw [ofList_eq]
  exact hall.listed_eq hkeys hdistinct

end Entries

end ContentIndex
