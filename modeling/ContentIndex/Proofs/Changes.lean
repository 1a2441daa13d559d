import ContentIndex.Store

/-!
# What setting properties changes

A value is read through the collections in it and the nodes it refers to. Setting the properties of
a node changes one dictionary in place, the one that the node holds its properties in; a value that
does not contain it reads as before.
-/

namespace ContentIndex

set_option autoImplicit false

namespace Value

mutual
/-- The marks of the collections that a value is read through. -/
def collections : Value → List Nat
  | .list items mark => mark :: collectionsAll items
  | .dict entries mark => mark :: collectionsEntries entries
  | .tuple items _ => collectionsAll items
  | .set items _ => collectionsAll items
  | .view _ entries owner _ => owner :: collectionsEntries entries
  | .method receiver _ _ => collections receiver
  | _ => []

def collectionsAll : List Value → List Nat
  | [] => []
  | v :: vs => collections v ++ collectionsAll vs

def collectionsEntries : List (Value × Value) → List Nat
  | [] => []
  | (_, v) :: rest => collections v ++ collectionsEntries rest
end

end Value

namespace Store

/-- The marks of the dictionaries that nodes hold their properties in. -/
def propertyMarks (st : Store) : List Nat :=
  st.nodes.toList.map (·.mark)

/-- Nothing but properties of nodes has been changed in place. -/
def OnlyProperties (st : Store) : Prop :=
  ∀ m, m ∉ st.propertyMarks → st.changedTo? m = none

/-- Paths of nodes are texts. -/
def TextPaths (st : Store) : Prop :=
  ∀ n ∈ st.nodes.toList, ∃ text, n.path = .str text

variable {st st' : Store}

/-! ## Reading -/

mutual
/-- Reading depends on the collections in the value and on the captions of nodes. -/
theorem refresh_congr (hn : ∀ id, st.nodeValue id = st'.nodeValue id) (v : Value)
    (h : ∀ m ∈ v.collections, st.changedTo? m = st'.changedTo? m) :
    st.refresh v = st'.refresh v := by
  cases v with
  | list items mark =>
    have hmark := h mark List.mem_cons_self
    have hitems := refreshAll_congr hn items fun m hm => h m (List.mem_cons_of_mem _ hm)
    simp only [refresh, hmark, hitems]
  | dict entries mark =>
    have hmark := h mark List.mem_cons_self
    have hentries := refreshEntries_congr hn entries fun m hm => h m (List.mem_cons_of_mem _ hm)
    simp only [refresh, hmark, hentries]
  | tuple items mark => simp only [refresh, refreshAll_congr hn items h]
  | set items mark => simp only [refresh, refreshAll_congr hn items h]
  | view kind entries owner mark =>
    have howner := h owner List.mem_cons_self
    have hentries := refreshEntries_congr hn entries fun m hm => h m (List.mem_cons_of_mem _ hm)
    simp only [refresh, howner, hentries]
  | node ref => simp only [refresh, hn]
  | method receiver name mark => simp only [refresh, refresh_congr hn receiver h]
  | _ => simp only [refresh]

theorem refreshAll_congr (hn : ∀ id, st.nodeValue id = st'.nodeValue id) (vs : List Value)
    (h : ∀ m ∈ Value.collectionsAll vs, st.changedTo? m = st'.changedTo? m) :
    st.refreshAll vs = st'.refreshAll vs := by
  cases vs with
  | nil => rfl
  | cons v rest =>
    have hv := refresh_congr hn v fun m hm => h m (List.mem_append_left _ hm)
    have hrest := refreshAll_congr hn rest fun m hm => h m (List.mem_append_right _ hm)
    simp only [refreshAll, hv, hrest]

theorem refreshEntries_congr (hn : ∀ id, st.nodeValue id = st'.nodeValue id)
    (entries : List (Value × Value))
    (h : ∀ m ∈ Value.collectionsEntries entries, st.changedTo? m = st'.changedTo? m) :
    st.refreshEntries entries = st'.refreshEntries entries := by
  cases entries with
  | nil => rfl
  | cons e rest =>
    obtain ⟨k, v⟩ := e
    have hv := refresh_congr hn v fun m hm => h m (List.mem_append_left _ hm)
    have hrest := refreshEntries_congr hn rest fun m hm => h m (List.mem_append_right _ hm)
    simp only [refreshEntries, hv, hrest]
end

/-! ## The log -/

def withLog (st : Store) (log : List LogRecord) : Store :=
  { st with log := log }

theorem refresh_withLog (st : Store) (log : List LogRecord) (v : Value) :
    (st.withLog log).refresh v = st.refresh v := by
  apply refresh_congr
  · exact fun _ => rfl
  · exact fun _ _ => rfl

theorem refreshEntries_withLog (st : Store) (log : List LogRecord) (entries : Entries) :
    (st.withLog log).refreshEntries entries = st.refreshEntries entries := by
  apply refreshEntries_congr
  · exact fun _ => rfl
  · exact fun _ _ => rfl

theorem refreshParts_withLog (st : Store) (log : List LogRecord) (v : Value) :
    (st.withLog log).refreshParts v = st.refreshParts v := by
  have hall : ∀ items, (st.withLog log).refreshAll items = st.refreshAll items := by
    intro items
    apply refreshAll_congr
    · exact fun _ => rfl
    · exact fun _ _ => rfl
  cases v <;> simp only [refreshParts, hall, refreshEntries_withLog]

theorem settle_withLog (st : Store) (log : List LogRecord) :
    (st.withLog log).settle = st.settle.withLog log := by
  have hnow : ∀ mark entries,
      (st.withLog log).entriesNow mark entries = st.entriesNow mark entries := by
    intro mark entries
    unfold entriesNow
    rw [refreshEntries_withLog]
    rfl
  simp only [settle, refresh_withLog, hnow]
  rfl

theorem overwrite_withLog (st : Store) (log : List LogRecord) (mark : Nat) (v : Value) :
    (st.withLog log).overwrite mark v = (st.overwrite mark v).withLog log := by
  have hsettle (st' : Store) :
      ({ st'.withLog log with
        changed := st'.changed.map fun e : Nat × Value =>
          (e.1, (st'.withLog log).refreshParts e.2) }).settle =
        ({ st' with
          changed := st'.changed.map fun e : Nat × Value =>
            (e.1, st'.refreshParts e.2) }).settle.withLog log := by
    simp only [refreshParts_withLog]
    exact settle_withLog
      { st' with
        changed := st'.changed.map fun e : Nat × Value => (e.1, st'.refreshParts e.2) } log
  unfold overwrite
  rw [refreshParts_withLog]
  exact hsettle { st with changed := st.changed.put mark (st.refreshParts v) }

theorem setProperties_withLog (st : Store) (log : List LogRecord) (id : Nat)
    (properties : Entries) :
    (st.withLog log).setProperties id properties = (st.setProperties id properties).withLog log := by
  have hnode : (st.withLog log).node? id = st.node? id := rfl
  unfold setProperties
  rw [hnode]
  cases st.node? id with
  | none => rfl
  | some n => exact overwrite_withLog { st with next := _ } log n.mark _

/-! ## Setting properties -/

/-- The same nodes, as far as values refer to them, and nothing changed but properties. -/
structure SameButProperties (st st' : Store) : Prop where
  marks : st'.propertyMarks = st.propertyMarks
  nodeValue : ∀ id, st'.nodeValue id = st.nodeValue id
  textPaths : st'.TextPaths
  onlyProperties : st'.OnlyProperties

theorem SameButProperties.trans {st'' : Store} (h : SameButProperties st st')
    (h' : SameButProperties st' st'') : SameButProperties st st'' where
  marks := h'.marks.trans h.marks
  nodeValue id := (h'.nodeValue id).trans (h.nodeValue id)
  textPaths := h'.textPaths
  onlyProperties := h'.onlyProperties

theorem SameButProperties.changedTo?_eq (h : SameButProperties st st') (ho : st.OnlyProperties)
    {m : Nat} (hm : m ∉ st.propertyMarks) : st'.changedTo? m = st.changedTo? m := by
  have hm' : m ∉ st'.propertyMarks := by
    rw [h.marks]
    exact hm
  rw [ho m hm, h.onlyProperties m hm']

/-- What holds no properties of a node reads the same. -/
theorem SameButProperties.refresh_eq (h : SameButProperties st st') (ho : st.OnlyProperties)
    {v : Value} (hfree : ∀ m ∈ v.collections, m ∉ st.propertyMarks) :
    st'.refresh v = st.refresh v :=
  refresh_congr h.nodeValue v fun m hm => h.changedTo?_eq ho (hfree m hm)

theorem SameButProperties.refreshEntries_eq (h : SameButProperties st st') (ho : st.OnlyProperties)
    {entries : Entries} (hfree : ∀ m ∈ Value.collectionsEntries entries, m ∉ st.propertyMarks) :
    st'.refreshEntries entries = st.refreshEntries entries :=
  refreshEntries_congr h.nodeValue entries fun m hm => h.changedTo?_eq ho (hfree m hm)

theorem changedTo?_overwrite {mark m : Nat} {v : Value} (hne : m ≠ mark)
    (h : st.changedTo? m = none) : (st.overwrite mark v).changedTo? m = none := by
  unfold overwrite changedTo? settle
  rw [Table.lookup_map, Table.lookup_put_of_ne _ _ hne]
  unfold changedTo? at h
  rw [h]
  rfl

theorem propertyMarks_overwrite (mark : Nat) (v : Value) :
    (st.overwrite mark v).propertyMarks = st.propertyMarks := by
  simp [overwrite, settle, propertyMarks]

/-- A node after a change in place: all that its caption shows is as before. -/
theorem node?_overwrite (mark : Nat) (v : Value) (hp : st.TextPaths) (id : Nat) :
    (st.overwrite mark v).node? id = none ∧ st.node? id = none ∨
      ∃ n n', st.node? id = some n ∧ (st.overwrite mark v).node? id = some n' ∧
        n'.path = n.path ∧ n'.typeName = n.typeName := by
  simp only [overwrite, settle, node?, Array.getElem?_map]
  cases hn : st.nodes[id]? with
  | none => exact .inl ⟨rfl, rfl⟩
  | some n =>
    obtain ⟨text, ht⟩ := hp n (Array.mem_toList_iff.2 (Array.mem_of_getElem? hn))
    refine .inr ⟨n, _, rfl, rfl, ?_, rfl⟩
    simp only [ht, refresh]

theorem nodeValue_overwrite (mark : Nat) (v : Value) (hp : st.TextPaths) (id : Nat) :
    (st.overwrite mark v).nodeValue id = st.nodeValue id := by
  unfold nodeValue
  rcases node?_overwrite mark v hp id with ⟨hn', hn⟩ | ⟨n, n', hn, hn', hpath, htype⟩
  · rw [hn, hn']
  · rw [hn, hn']
    simp only [hpath, htype]

theorem textPaths_overwrite (mark : Nat) (v : Value) (hp : st.TextPaths) :
    (st.overwrite mark v).TextPaths := by
  intro n' hn'
  obtain ⟨id, hid⟩ := Array.mem_iff_getElem?.1 (Array.mem_toList_iff.1 hn')
  rcases node?_overwrite mark v hp id with ⟨hnone, -⟩ | ⟨n, m, hn, hm, hpath, -⟩
  · cases hnone.symm.trans hid
  · cases hm.symm.trans hid
    obtain ⟨text, ht⟩ := hp n (Array.mem_toList_iff.2 (Array.mem_of_getElem? hn))
    exact ⟨text, hpath.trans ht⟩

/-- Setting the properties of a node changes nothing else in place. -/
theorem setProperties_same (hp : st.TextPaths) (ho : st.OnlyProperties) (id : Nat)
    (properties : Entries) : SameButProperties st (st.setProperties id properties) := by
  unfold setProperties
  cases hn : st.node? id with
  | none => exact ⟨rfl, fun _ => rfl, hp, ho⟩
  | some n =>
    generalize Value.withMarksEntries properties [] st.next = marked
    obtain ⟨entries, next⟩ := marked
    -- the next mark is no part of what is read
    have hp' : TextPaths { st with next := next } := hp
    refine ⟨propertyMarks_overwrite _ _, nodeValue_overwrite _ _ hp',
      textPaths_overwrite _ _ hp', ?_⟩
    intro m hm
    rw [propertyMarks_overwrite] at hm
    have hmem : n.mark ∈ st.propertyMarks :=
      List.mem_map_of_mem (Array.mem_toList_iff.2 (Array.mem_of_getElem? hn))
    refine changedTo?_overwrite ?_ (ho m hm)
    rintro rfl
    exact hm hmem

end Store

end ContentIndex
