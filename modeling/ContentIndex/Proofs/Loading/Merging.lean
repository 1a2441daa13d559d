import ContentIndex.Proofs.Firsts
import ContentIndex.Proofs.Loading.Shape

/-!
# Merged dictionaries

What stands at a path of keys in a merged dictionary, and in which order its keys stand. Where both
sides hold dictionaries at the same paths, the leaves are those of the override, and of the base
where the override has none; the keys are those of the base, followed by the new ones.
-/

namespace ContentIndex

set_option autoImplicit false

namespace Entries

/-- The keys of a dictionary, in order. -/
def names (entries : Entries) : List Value :=
  entries.map (·.1)

/-- No key stands twice. -/
def Distinct (entries : Entries) : Prop :=
  ((names entries).map Value.key?).Nodup

instance (entries : Entries) : Decidable (Distinct entries) :=
  inferInstanceAs (Decidable (List.Nodup _))

end Entries

namespace Value

/-- What stands at the end of a path of keys. -/
def at? : Value → List Key → Option Value
  | v, [] => some v
  | v, key :: rest =>
    (v.entries?.bind fun entries => Entries.find? entries key).bind fun w => at? w rest

/-- What stands at the end of a path, if it is no dictionary. -/
def leaf? (v : Value) (path : List Key) : Option Value :=
  (v.at? path).filter fun w => !w.isDict

/-- No dictionary anywhere has a key twice. -/
def AllDistinct (v : Value) : Prop :=
  ∀ path entries mark, v.at? path = some (.dict entries mark) → Entries.Distinct entries

/-- Where both hold something at a path, it is a dictionary in both or in neither. -/
def AgreeAt (v w : Value) (path : List Key) : Prop :=
  ∀ a b, v.at? path = some a → w.at? path = some b → a.isDict = b.isDict

end Value

/-! ## Keys -/

namespace Entries

variable {entries base override : Entries} {k v : Value} {key : Key}

theorem names_insert (entries : Entries) (k v : Value) :
    names (insert entries k v) =
      if k.key? ∈ (names entries).map Value.key? then names entries else names entries ++ [k] := by
  induction entries with
  | nil => simp [insert, names]
  | cons e rest ih =>
    obtain ⟨k', w⟩ := e
    rw [insert]
    by_cases hk : k'.key? = k.key?
    · simp [names, hk]
    · have hcons : ∀ es : Entries, names ((k', w) :: es) = k' :: names es := fun _ => rfl
      rw [if_neg (by simpa using hk), hcons, ih, hcons]
      simp only [List.map_cons, List.mem_cons, Ne.symm hk, false_or]
      split <;> rfl

theorem Distinct.names_insert (h : entries.Distinct) (k v : Value) :
    names (insert entries k v) = firsts Value.key? (names entries ++ [k]) := by
  rw [Entries.names_insert]
  split
  · rename_i hmem
    rw [firsts_append_of_subset (by simpa using hmem), firsts_of_nodup h]
  · rename_i hmem
    rw [firsts_concat_of_not_mem hmem, firsts_of_nodup h]

theorem Distinct.insert (h : Distinct entries) (k v : Value) : Distinct (insert entries k v) := by
  rw [Distinct, h.names_insert]
  exact nodup_keys_firsts Value.key? _

/-- The keys of the base, and then the new ones of the override. -/
theorem Distinct.names_merge (h : base.Distinct) (override : Entries) :
    names (Value.mergeEntries base override) =
      firsts Value.key? (names base ++ names override) := by
  induction override generalizing base with
  | nil =>
    have hnil : names [] = [] := rfl
    rw [Value.mergeEntries, hnil, List.append_nil, firsts_of_nodup h]
  | cons e rest ih =>
    obtain ⟨k, v⟩ := e
    have hsplit : names base ++ names ((k, v) :: rest) = (names base ++ [k]) ++ names rest := by
      simp [names]
    rw [Value.mergeEntries, ih (h.insert _ _), h.names_insert, hsplit]
    exact firsts_append_congr (firsts_firsts _ _) rfl

theorem Distinct.merge (h : base.Distinct) (override : Entries) :
    Distinct (Value.mergeEntries base override) := by
  rw [Distinct, h.names_merge]
  exact nodup_keys_firsts Value.key? _

/-- What stands under a key of the override has been merged into what stood there. -/
theorem find?_merge (h : override.Distinct) (base : Entries) (key : Key) :
    find? (Value.mergeEntries base override) key =
      match find? override key with
      | some v => some (Value.mergeValue (find? base key) v)
      | none => find? base key := by
  induction override generalizing base with
  | nil => rfl
  | cons e rest ih =>
    obtain ⟨k, v⟩ := e
    obtain ⟨hk, hrest⟩ := List.nodup_cons.1 h
    rw [Value.mergeEntries, ih hrest, find?]
    by_cases hkey : k.key? = some key
    · have hnone : find? rest key = none := by
        refine find?_eq_none fun e he heq => hk ?_
        rw [hkey, ← heq]
        exact List.mem_map_of_mem (List.mem_map_of_mem he)
      rw [hnone, if_pos (hasKey_iff.2 hkey), find?_insert_self hkey, hkey]
      rfl
    · rw [if_neg (fun hhas => hkey (hasKey_iff.1 hhas)), find?_insert_of_ne hkey]

end Entries

/-! ## Paths -/

namespace Value

variable {v w : Value} {before : Option Value} {entries base override : Entries} {mark : Nat}
  {key : Key} {path : List Key}

@[simp] theorem at?_nil (v : Value) : v.at? [] = some v := by
  rw [at?]

@[simp] theorem at?_dict (entries : Entries) (mark : Nat) (key : Key) (path : List Key) :
    (Value.dict entries mark).at? (key :: path) =
      (Entries.find? entries key).bind fun w => w.at? path := rfl

theorem at?_of_not_dict (h : v.isDict = false) (key : Key) (path : List Key) :
    v.at? (key :: path) = Option.none := by
  have hentries : v.entries? = Option.none := by simpa [isDict] using h
  rw [at?, hentries]
  rfl

theorem leaf?_dict (entries : Entries) (mark : Nat) (key : Key) (path : List Key) :
    (Value.dict entries mark).leaf? (key :: path) =
      (Entries.find? entries key).bind fun w => w.leaf? path := by
  rw [leaf?, at?_dict]
  cases Entries.find? entries key <;> rfl

theorem leaf?_of_not_dict (h : v.isDict = false) (key : Key) (path : List Key) :
    v.leaf? (key :: path) = Option.none := by
  rw [leaf?, at?_of_not_dict h]
  rfl

theorem exists_of_at? (h : (Value.dict entries mark).at? (key :: path) = some v) :
    ∃ e ∈ entries, e.1.key? = some key ∧ e.2.at? path = some v := by
  rw [at?_dict] at h
  obtain ⟨w, hw, hpath⟩ := Option.bind_eq_some_iff.1 h
  obtain ⟨e, he, hkey, rfl⟩ := Entries.exists_of_find? hw
  exact ⟨e, he, hkey, hpath⟩

theorem AllDistinct.of_not_dict (h : v.isDict = false) : v.AllDistinct := by
  intro path es m hpath
  cases path with
  | nil =>
    rw [at?_nil] at hpath
    cases hpath
    cases h
  | cons key path =>
    rw [at?_of_not_dict h] at hpath
    cases hpath

theorem AllDistinct.dict (h : Entries.Distinct entries) (hvalues : ∀ e ∈ entries, e.2.AllDistinct)
    (mark : Nat) : (Value.dict entries mark).AllDistinct := by
  intro path es m hpath
  cases path with
  | nil =>
    rw [at?_nil] at hpath
    cases hpath
    exact h
  | cons key path =>
    obtain ⟨e, he, _, hv⟩ := exists_of_at? hpath
    exact hvalues e he path es m hv

theorem AllDistinct.find? (h : (Value.dict entries mark).AllDistinct)
    (hf : Entries.find? entries key = some v) : v.AllDistinct := by
  intro path es m hpath
  refine h (key :: path) es m ?_
  rw [at?_dict, hf]
  exact hpath

theorem exists_dict (h : v.isDict = true) : ∃ entries mark, v = .dict entries mark := by
  cases v with
  | dict entries mark => exact ⟨entries, mark, rfl⟩
  | _ => cases h

theorem mergeValue_of_not_dict (h : v.isDict = false) : mergeValue before v = v := by
  cases v with
  | dict => cases h
  | _ => rfl

theorem mergeValue_none (v : Value) : mergeValue Option.none v = v := by
  cases v <;> rfl

theorem mergeValue_dict_of_not_dict {a : Value} (h : a.isDict = false) (v : Value) :
    mergeValue (some a) v = v := by
  have hentries : a.entries? = Option.none := by simpa [isDict] using h
  cases v with
  | dict override mark =>
    rw [mergeValue, Option.bind_some, hentries]
  | _ => rfl

/-- Whatever stands somewhere after a merge stood there before, on one side, or has been merged of
two dictionaries that stood there. -/
theorem at?_mergeValue (hv : v.AllDistinct) (h : (mergeValue before v).at? path = some w) :
    v.at? path = some w ∨ ∃ a, before = some a ∧ (a.at? path = some w ∨
      ∃ base override m m', a.at? path = some (.dict base m) ∧
        v.at? path = some (.dict override m') ∧ w = .dict (mergeEntries base override) 0) := by
  induction path generalizing before v with
  | nil =>
    rw [at?_nil] at h
    cases h
    cases v with
    | dict override m' =>
      rw [mergeValue]
      split
      · rename_i base hbase
        obtain ⟨a, rfl, ha⟩ := Option.bind_eq_some_iff.1 hbase
        cases a with
        | dict es m =>
          cases ha
          exact .inr ⟨_, rfl, .inr ⟨base, override, m, m', at?_nil _, at?_nil _, rfl⟩⟩
        | _ => cases ha
      · exact .inl (at?_nil _)
    | _ => exact .inl (at?_nil _)
  | cons key path ih =>
    rcases before with _ | a
    · rw [mergeValue_none] at h
      exact .inl h
    cases hdict : v.isDict with
    | false =>
      rw [mergeValue_of_not_dict hdict] at h
      exact .inl h
    | true =>
      cases hbase : a.isDict with
      | false =>
        rw [mergeValue_dict_of_not_dict hbase] at h
        exact .inl h
      | true =>
        obtain ⟨override, m', rfl⟩ := exists_dict hdict
        obtain ⟨base, m, rfl⟩ := exists_dict hbase
        have hmerge : mergeValue (some (.dict base m)) (.dict override m') =
            .dict (mergeEntries base override) 0 := rfl
        rw [hmerge, at?_dict, Entries.find?_merge (hv [] _ _ (at?_nil _))] at h
        cases hf : Entries.find? override key with
        | none =>
          rw [hf] at h
          exact .inr ⟨_, rfl, .inl h⟩
        | some x =>
          rw [hf, Option.bind_some] at h
          rw [at?_dict, hf, Option.bind_some]
          rcases ih (hv.find? hf) h with hx | ⟨b, hb, hab⟩
          · exact .inl hx
          · refine .inr ⟨_, rfl, ?_⟩
            rw [at?_dict, hb, Option.bind_some]
            exact hab

theorem AllDistinct.mergeValue (hv : v.AllDistinct)
    (hbefore : ∀ a, before = some a → a.AllDistinct) :
    (Value.mergeValue before v).AllDistinct := by
  intro path es m h
  rcases at?_mergeValue hv h with hw | ⟨a, ha, hw | ⟨base, override, _, _, hbase, _, heq⟩⟩
  · exact hv path es m hw
  · exact hbefore a ha path es m hw
  · cases heq
    exact (hbefore a ha path base _ hbase).merge override

theorem AgreeAt.refl (v : Value) (path : List Key) : v.AgreeAt v path := by
  intro a b ha hb
  rw [ha] at hb
  cases hb
  rfl

theorem AgreeAt.symm (h : v.AgreeAt w path) : w.AgreeAt v path :=
  fun a b ha hb => (h b a hb ha).symm

theorem AgreeAt.of_not_dict (hv : v.isDict = false) (hw : w.isDict = false) (path : List Key) :
    v.AgreeAt w path := by
  intro a b ha hb
  cases path with
  | nil =>
    rw [at?_nil] at ha hb
    cases ha
    cases hb
    rw [hv, hw]
  | cons key path =>
    rw [at?_of_not_dict hv] at ha
    cases ha

/-- Dictionaries agree where the values agree that they have under one key. -/
theorem AgreeAt.dict {others : Entries} {m m' : Nat}
    (h : ∀ e ∈ entries, ∀ f ∈ others, e.1.key? = f.1.key? → ∀ path, e.2.AgreeAt f.2 path)
    (path : List Key) : (Value.dict entries m).AgreeAt (.dict others m') path := by
  intro a b ha hb
  cases path with
  | nil =>
    rw [at?_nil] at ha hb
    cases ha
    cases hb
    rfl
  | cons key path =>
    obtain ⟨e, he, hkey, hx⟩ := exists_of_at? ha
    obtain ⟨f, hf, hkey', hy⟩ := exists_of_at? hb
    exact h e he f hf (hkey.trans hkey'.symm) path a b hx hy

theorem AgreeAt.find? {a : Value} {m m' : Nat}
    (h : (Value.dict base m).AgreeAt (.dict override m') (key :: path))
    (ha : Entries.find? base key = some a) (hv : Entries.find? override key = some v) :
    a.AgreeAt v path := by
  intro x y hx hy
  apply h
  · rw [at?_dict, ha]
    exact hx
  · rw [at?_dict, hv]
    exact hy

/-- A leaf of the override, or else of the base, where the two agree on the way. -/
theorem leaf?_mergeValue (hv : v.AllDistinct)
    (h : ∀ a, before = some a → ∀ q, q <+: path → a.AgreeAt v q) :
    (mergeValue before v).leaf? path = (v.leaf? path).or (before.bind fun a => a.leaf? path) := by
  induction path generalizing before v with
  | nil =>
    rcases before with _ | a
    · rw [mergeValue_none, Option.bind_none, Option.or_none]
    have hkind : a.isDict = v.isDict := h a rfl [] List.nil_prefix a v (at?_nil a) (at?_nil v)
    cases hdict : v.isDict with
    | false =>
      have hleaf : v.leaf? [] = some v := by simp [leaf?, Option.filter, hdict]
      rw [mergeValue_of_not_dict hdict, hleaf]
      rfl
    | true =>
      obtain ⟨override, m', rfl⟩ := exists_dict hdict
      obtain ⟨base, m, rfl⟩ := exists_dict (hkind.trans hdict)
      rfl
  | cons key path ih =>
    rcases before with _ | a
    · rw [mergeValue_none, Option.bind_none, Option.or_none]
    have hkind : a.isDict = v.isDict := h a rfl [] List.nil_prefix a v (at?_nil a) (at?_nil v)
    cases hdict : v.isDict with
    | false =>
      rw [mergeValue_of_not_dict hdict, leaf?_of_not_dict hdict, Option.bind_some,
        leaf?_of_not_dict (hkind.trans hdict)]
      rfl
    | true =>
      obtain ⟨override, m', rfl⟩ := exists_dict hdict
      obtain ⟨base, m, rfl⟩ := exists_dict (hkind.trans hdict)
      have hmerge : mergeValue (some (.dict base m)) (.dict override m') =
          .dict (mergeEntries base override) 0 := rfl
      rw [hmerge, leaf?_dict, leaf?_dict, Option.bind_some, leaf?_dict,
        Entries.find?_merge (hv [] _ _ (at?_nil _))]
      -- only under a key that both sides have does the merge go on
      cases hf : Entries.find? override key with
      | none => rfl
      | some x =>
        refine ih (hv.find? hf) fun b hb q hq => ?_
        exact (h _ rfl (key :: q) (List.cons_prefix_cons.2 ⟨rfl, hq⟩)).find? hb hf

end Value

/-! ## Texts as keys -/

namespace Entries

variable {name : String}

theorem withMarksEntries_append (entries done : Entries) (next : Nat) :
    (Value.withMarksEntries entries done next).1 =
      done.reverse ++ (Value.withMarksEntries entries [] next).1 := by
  induction entries generalizing done next with
  | nil => rw [Value.withMarksEntries, Value.withMarksEntries, List.reverse_nil, List.append_nil]
  | cons e rest ih =>
    obtain ⟨k, v⟩ := e
    rw [Value.withMarksEntries, Value.withMarksEntries, ih, ih [_]]
    simp

theorem hasKey_withMarks (k : Value) (next : Nat) :
    (k.withMarks next).1.hasKey [.str name] = k.hasKey [.str name] := by
  rw [Bool.eq_iff_iff, hasKey_iff, hasKey_iff]
  constructor
  · intro h
    rw [Value.eq_str_of_withMarks (Value.eq_str_of_key? h)]
    rfl
  · intro h
    rw [Value.eq_str_of_key? h]
    rfl

/-- Giving out marks moves nothing that stands under a text. -/
theorem findText?_withMarks (entries : Entries) (name : String) (next : Nat) :
    ∃ m, findText? (Value.withMarksEntries entries [] next).1 name =
      (findText? entries name).map fun v => (v.withMarks m).1 := by
  induction entries generalizing next with
  | nil => exact ⟨0, rfl⟩
  | cons e rest ih =>
    obtain ⟨k, v⟩ := e
    have hfirst : findText? (Value.withMarksEntries ((k, v) :: rest) [] next).1 name =
        if k.hasKey [.str name] then some (v.withMarks (k.withMarks next).2).1
        else findText? (Value.withMarksEntries rest []
          (v.withMarks (k.withMarks next).2).2).1 name := by
      rw [Value.withMarksEntries, withMarksEntries_append, findText?, find?_append,
        List.reverse_singleton, find?, hasKey_withMarks]
      split <;> rfl
    have hcons : findText? ((k, v) :: rest) name =
        if k.hasKey [.str name] then some v else findText? rest name := rfl
    rw [hfirst, hcons]
    split
    · exact ⟨_, rfl⟩
    · exact ih _

end Entries

end ContentIndex
