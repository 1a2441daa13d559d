import ContentIndex.Loading.Types
import ContentIndex.Proofs.Entries

/-!
# Configurations of the declared shape

Properties, each definition of a property and its search rules are dictionaries or null wherever
they are there. Merging keeps this shape, and a configuration of this shape has rules.
-/

namespace ContentIndex

set_option autoImplicit false

namespace Value

def isSection : Value → Bool
  | .none => true
  | .dict _ _ => true
  | _ => false

/-- The definition of a property: null, or a dictionary whose search rules are one or null. -/
def isPropertyDefinition : Value → Bool
  | .none => true
  | .dict entries _ => entries.all fun e => !e.1.hasKey [.str "search"] || e.2.isSection
  | _ => false

/-- Definitions of properties by name, or null. -/
def isProperties : Value → Bool
  | .none => true
  | .dict entries _ => entries.all fun e => e.2.isPropertyDefinition
  | _ => false

end Value

def isConfiguration (entries : Entries) : Bool :=
  entries.all fun e => !e.1.hasKey [.str "properties"] || e.2.isProperties

/-! ## Entries -/

namespace Entries

/-- What holds of every entry; it may depend on the key. -/
def Each (P : Option Key → Value → Prop) (entries : Entries) : Prop :=
  ∀ e ∈ entries, P e.1.key? e.2

variable {P : Option Key → Value → Prop} {entries base override : Entries}

theorem exists_of_find? {key : Key} {v : Value} (h : find? entries key = some v) :
    ∃ e ∈ entries, e.1.key? = some key ∧ e.2 = v := by
  induction entries with
  | nil => cases h
  | cons e rest ih =>
    obtain ⟨k, w⟩ := e
    rw [find?] at h
    split at h
    · rename_i hk
      cases h
      exact ⟨_, List.mem_cons_self, hasKey_iff.1 hk, rfl⟩
    · obtain ⟨e, he, hkey, hv⟩ := ih h
      exact ⟨e, List.mem_cons_of_mem _ he, hkey, hv⟩

theorem Each.find? (h : Each P entries) {key : Key} {v : Value}
    (hf : find? entries key = some v) : P (some key) v := by
  obtain ⟨e, he, hkey, rfl⟩ := exists_of_find? hf
  exact hkey ▸ h e he

theorem Each.insert (h : Each P entries) {k v : Value} (hv : P k.key? v) :
    Each P (insert entries k v) := by
  induction entries with
  | nil => exact List.forall_mem_singleton.2 hv
  | cons e rest ih =>
    obtain ⟨k', w⟩ := e
    obtain ⟨he, hrest⟩ := List.forall_mem_cons.1 h
    rw [Entries.insert]
    split
    · rename_i heq
      have hkey : k'.key? = k.key? := eq_of_beq heq
      exact List.forall_mem_cons.2 ⟨hkey ▸ hv, hrest⟩
    · exact List.forall_mem_cons.2 ⟨he, ih hrest⟩

theorem Each.erase (h : Each P entries) (key : Key) : Each P (erase entries key) :=
  fun e he => h e (List.mem_filter.1 he).1

/-- Merging keeps what merging two values under one key keeps. -/
theorem Each.merge (hmerge : ∀ k before v, (∀ b ∈ before, P k b) → P k v →
      P k (Value.mergeValue before v))
    (hbase : Each P base) (hover : Each P override) :
    Each P (Value.mergeEntries base override) := by
  induction override generalizing base with
  | nil =>
    rw [Value.mergeEntries]
    exact hbase
  | cons e rest ih =>
    obtain ⟨k, v⟩ := e
    obtain ⟨hv, hrest⟩ := List.forall_mem_cons.1 hover
    rw [Value.mergeEntries]
    refine ih (hbase.insert (hmerge k.key? _ v ?_ hv)) hrest
    intro b hb
    cases hk : k.key? with
    | none => rw [hk] at hb; cases hb
    | some key =>
      rw [hk] at hb
      exact hbase.find? hb

/-- Putting what stands there already changes nothing. -/
theorem insertText_of_findText? {name : String} {v : Value}
    (h : findText? entries name = some v) : insertText entries name v = entries := by
  unfold findText? at h
  unfold insertText
  induction entries with
  | nil => cases h
  | cons e rest ih =>
    obtain ⟨k, w⟩ := e
    have hkey : (k.key? == (Value.str name).key?) = k.hasKey [.str name] := rfl
    rw [Entries.find?] at h
    rw [Entries.insert, hkey]
    by_cases hk : k.hasKey [.str name] = true
    · rw [if_pos hk] at h
      cases h
      rw [if_pos hk]
    · rw [if_neg hk] at h
      rw [if_neg hk, ih h]

end Entries

/-! ## Merging -/

section Shape

variable {entries base override : Entries} {before : Option Value} {v : Value}

/-- What holds of the entry of a name. -/
def AtName (name : String) (P : Value → Bool) (k : Option Key) (v : Value) : Prop :=
  k = some [.str name] → P v = true

theorem each_atName {name : String} {P : Value → Bool} :
    Entries.Each (AtName name P) entries ↔
      (entries.all fun e => !e.1.hasKey [.str name] || P e.2) = true := by
  simp only [Entries.Each, AtName, List.all_eq_true, Bool.or_eq_true, Bool.not_eq_true',
    Value.hasKey, beq_eq_false_iff_ne, ne_eq, Decidable.imp_iff_not_or]

theorem isSection_mergeValue (h : v.isSection = true) :
    (Value.mergeValue before v).isSection = true := by
  cases v with
  | none => rfl
  | dict override mark =>
    rw [Value.mergeValue]
    split <;> rfl
  | _ => cases h

/-- A dictionary merged into one: a shape of both that merging keeps is that of the result. -/
theorem mergeValue_dict {P : Entries → Prop} {Q : Value → Bool}
    (hQ : ∀ es m, Q (.dict es m) = true ↔ P es)
    (hmerge : ∀ base override, P base → P override → P (Value.mergeEntries base override))
    {override : Entries} {mark : Nat} (hb : ∀ b ∈ before, Q b = true)
    (hv : Q (.dict override mark) = true) :
    Q (Value.mergeValue before (.dict override mark)) = true := by
  rw [Value.mergeValue]
  split
  · rename_i es hes
    obtain ⟨b, hbefore, hentries⟩ := Option.bind_eq_some_iff.1 hes
    cases b with
    | dict base m =>
      cases hentries
      rw [hQ] at hv ⊢
      exact hmerge es override ((hQ es m).1 (hb _ hbefore)) hv
    | _ => cases hentries
  · exact hv

theorem isPropertyDefinition_mergeValue (hb : ∀ b ∈ before, b.isPropertyDefinition = true)
    (hv : v.isPropertyDefinition = true) :
    (Value.mergeValue before v).isPropertyDefinition = true := by
  cases v with
  | none => rfl
  | dict override mark =>
    refine mergeValue_dict (fun es m => each_atName.symm) ?_ hb hv
    intro base override hbase hover
    exact Entries.Each.merge (fun k b v hb hv hk => isSection_mergeValue (hv hk)) hbase hover
  | _ => cases hv

theorem isProperties_mergeValue (hb : ∀ b ∈ before, b.isProperties = true)
    (hv : v.isProperties = true) : (Value.mergeValue before v).isProperties = true := by
  cases v with
  | none => rfl
  | dict override mark =>
    refine mergeValue_dict (fun es m => List.all_eq_true) ?_ hb hv
    intro base override hbase hover
    have hmerge : ∀ (k : Option Key) before v, (∀ b ∈ before, b.isPropertyDefinition = true) →
        v.isPropertyDefinition = true → (Value.mergeValue before v).isPropertyDefinition = true :=
      fun _ _ _ => isPropertyDefinition_mergeValue
    exact Entries.Each.merge hmerge hbase hover
  | _ => cases hv

theorem atName_isProperties_mergeValue (k : Option Key) (before : Option Value) (v : Value)
    (hb : ∀ b ∈ before, AtName "properties" Value.isProperties k b)
    (hv : AtName "properties" Value.isProperties k v) :
    AtName "properties" Value.isProperties k (Value.mergeValue before v) :=
  fun hk => isProperties_mergeValue (fun b hmem => hb b hmem hk) (hv hk)

end Shape

/-! ## Giving out marks -/

section Marks

variable {P : Option Key → Value → Prop} {entries done : Entries} {v : Value}

theorem Value.eq_str_of_withMarks {name : String} {next : Nat}
    (h : (v.withMarks next).1 = .str name) : v = .str name := by
  unfold Value.withMarks at h
  split at h <;> first | exact h | cases h | (split at h <;> cases h)

theorem Entries.Each.withMarks
    (hP : ∀ k v n m, P k.key? v → P (Value.withMarks k n).1.key? (Value.withMarks v m).1)
    (h : Each P entries) (hdone : Each P done) (next : Nat) :
    Each P (Value.withMarksEntries entries done next).1 := by
  induction entries generalizing done next with
  | nil =>
    rw [Value.withMarksEntries]
    exact fun e he => hdone e (List.mem_reverse.1 he)
  | cons e rest ih =>
    obtain ⟨k, v⟩ := e
    obtain ⟨he, hrest⟩ := List.forall_mem_cons.1 h
    rw [Value.withMarksEntries]
    exact ih hrest (List.forall_mem_cons.2 ⟨hP k v _ _ he, hdone⟩) _

/-- A dictionary keeps with its marks the shape that its entries keep. -/
theorem dict_withMarks {Q : Value → Bool} {mark : Nat}
    (hQ : ∀ es m, Q (.dict es m) = true ↔ Entries.Each P es)
    (hP : ∀ k v n m, P k.key? v → P (Value.withMarks k n).1.key? (Value.withMarks v m).1)
    (h : Q (.dict entries mark) = true) (next : Nat) :
    Q ((Value.dict entries mark).withMarks next).1 = true := by
  rw [Value.withMarks.eq_def]
  cases mark with
  | zero => exact (hQ _ _).2 (Entries.Each.withMarks hP ((hQ _ _).1 h)
      (List.forall_mem_nil _) next)
  | succ mark => exact h

theorem atName_withMarks {name : String} {Q : Value → Bool}
    (hQ : ∀ v next, Q v = true → Q (v.withMarks next).1 = true) (k v : Value) (n m : Nat)
    (h : AtName name Q k.key? v) :
    AtName name Q (k.withMarks n).1.key? (v.withMarks m).1 := by
  intro hk
  have hname : k = .str name := Value.eq_str_of_withMarks (Value.eq_str_of_key? hk)
  exact hQ v m (h (by rw [hname]; rfl))

theorem isSection_withMarks (v : Value) (next : Nat) (h : v.isSection = true) :
    (v.withMarks next).1.isSection = true := by
  cases v with
  | none => rfl
  | dict entries mark =>
    rw [Value.withMarks.eq_def]
    cases mark <;> rfl
  | _ => cases h

theorem isPropertyDefinition_withMarks (v : Value) (next : Nat)
    (h : v.isPropertyDefinition = true) :
    (v.withMarks next).1.isPropertyDefinition = true := by
  cases v with
  | none => rfl
  | dict entries mark =>
    exact dict_withMarks (fun es m => each_atName.symm) (atName_withMarks isSection_withMarks)
      h next
  | _ => cases h

theorem isProperties_withMarks (v : Value) (next : Nat) (h : v.isProperties = true) :
    (v.withMarks next).1.isProperties = true := by
  cases v with
  | none => rfl
  | dict entries mark =>
    have hP : ∀ (k v : Value) (_ m : Nat), v.isPropertyDefinition = true →
        (v.withMarks m).1.isPropertyDefinition = true :=
      fun _ v _ m => isPropertyDefinition_withMarks v m
    exact dict_withMarks (P := fun _ v => v.isPropertyDefinition = true)
      (fun es m => List.all_eq_true) hP h next
  | _ => cases h

theorem isConfiguration_withMarks (h : isConfiguration entries = true) (next : Nat) :
    isConfiguration (Value.withMarksEntries entries [] next).1 = true :=
  each_atName.1 (Entries.Each.withMarks (atName_withMarks isProperties_withMarks)
    (each_atName.2 h) (List.forall_mem_nil _) next)

end Marks

/-! ## The configuration of a type -/

namespace Loading

variable {types : Array NodeType} {supers : List Nat} {P : Option Key → Value → Prop}

/-- What merging keeps holds of what a type inherits, if it holds of what its supertypes have. -/
theorem each_inherited (hmerge : ∀ k before v, (∀ b ∈ before, P k b) → P k v →
      P k (Value.mergeValue before v))
    (h : ∀ id ∈ supers, Entries.Each P (configurationOf types id)) :
    Entries.Each P (inherited types supers) := by
  have hfold : ∀ (ids : List Nat) merged, Entries.Each P merged →
      (∀ id ∈ ids, Entries.Each P (configurationOf types id)) →
      Entries.Each P (ids.foldl (fun merged id =>
        Value.mergeEntries merged (configurationOf types id)) merged) := by
    intro ids
    induction ids with
    | nil => exact fun merged hm _ => hm
    | cons id rest ih =>
      intro merged hm hids
      obtain ⟨hid, hrest⟩ := List.forall_mem_cons.1 hids
      exact ih _ (Entries.Each.merge hmerge hm hid) hrest
  exact hfold supers [] (List.forall_mem_nil _) h

/-- What merging keeps holds of a type, if it holds of its supertypes, of its definition, and of its
being abstract or not. -/
theorem each_configuration (hmerge : ∀ k before v, (∀ b ∈ before, P k b) → P k v →
      P k (Value.mergeValue before v))
    (habstract : ∀ b, P (some [.str "abstract"]) (.bool b)) {definition : Entries}
    (h : ∀ id ∈ supers, Entries.Each P (configurationOf types id))
    (hd : Entries.Each P definition) : Entries.Each P (configuration types supers definition) :=
  (Entries.Each.merge hmerge (each_inherited hmerge h) (hd.erase _)).insert (habstract _)

theorem isConfiguration_configuration {definition : Entries}
    (h : ∀ id ∈ supers, isConfiguration (configurationOf types id) = true)
    (hd : isConfiguration definition = true) :
    isConfiguration (configuration types supers definition) = true := by
  refine each_atName.1 (each_configuration atName_isProperties_mergeValue (fun b hk => ?_)
    (fun id hid => each_atName.2 (h id hid)) (each_atName.2 hd))
  exact absurd hk (by decide)

end Loading

/-! ## Rules -/

/-- The entries of a dictionary; null has none. -/
def Value.sectionOf : Option Value → Entries
  | some (.dict entries _) => entries
  | _ => []

theorem Rule.section?_eq {v : Option Value} (h : ∀ w ∈ v, w.isSection = true) :
    Rule.section? v = .ok (Value.sectionOf v) := by
  cases v with
  | none => rfl
  | some w =>
    cases w with
    | none => rfl
    | dict entries mark => cases entries <;> rfl
    | _ => exact absurd (h _ rfl) nofun

theorem Rule.ofDefinition_eq {v : Value} (h : v.isPropertyDefinition = true) :
    ∃ rule, Rule.ofDefinition v = .ok rule := by
  have hv : v.isSection = true := by
    cases v with
    | none => rfl
    | dict entries mark => rfl
    | _ => cases h
  have hdata : Rule.section? (some v) = .ok (Value.sectionOf (some v)) :=
    Rule.section?_eq fun w hw => Option.some.inj hw ▸ hv
  have hsearch : ∀ w ∈ Entries.findText? (Value.sectionOf (some v)) "search",
      w.isSection = true := by
    intro w hw
    cases v with
    | dict entries mark => exact (each_atName.2 h).find? hw rfl
    | _ => cases hw
  rw [Rule.ofDefinition, hdata]
  simp only [bind, Except.bind, Rule.section?_eq hsearch]
  exact ⟨_, rfl⟩

theorem NodeType.rulesOf_eq {entries : Entries}
    (h : ∀ e ∈ entries, e.2.isPropertyDefinition = true) :
    ∃ rules, NodeType.rulesOf entries = .ok rules := by
  induction entries with
  | nil => exact ⟨[], rfl⟩
  | cons e rest ih =>
    obtain ⟨name, definition⟩ := e
    obtain ⟨hdefinition, hrest⟩ := List.forall_mem_cons.1 h
    obtain ⟨rule, hrule⟩ := Rule.ofDefinition_eq hdefinition
    obtain ⟨rules, hrules⟩ := ih hrest
    refine ⟨(name, rule) :: rules, ?_⟩
    rw [NodeType.rulesOf, hrule]
    simp only [bind, Except.bind, hrules]
    rfl

/-- A configuration of the declared shape makes a type. -/
theorem NodeType.make_eq {configuration : Entries} (h : isConfiguration configuration = true)
    (name : Name) (supers : List Nat) : ∃ rules, NodeType.make name supers configuration =
      .ok ⟨name, supers, configuration, rules, 0⟩ := by
  have hproperties : ∀ w ∈ Entries.findText? configuration "properties",
      w.isProperties = true := fun w hw => (each_atName.2 h).find? hw rfl
  have hsection : ∀ w ∈ Entries.findText? configuration "properties", w.isSection = true := by
    intro w hw
    have hw' := hproperties w hw
    cases w with
    | none => rfl
    | dict entries mark => rfl
    | _ => cases hw'
  have hrules : ∀ e ∈ Value.sectionOf (Entries.findText? configuration "properties"),
      e.2.isPropertyDefinition = true := by
    intro e he
    cases hf : Entries.findText? configuration "properties" with
    | none => rw [hf] at he; cases he
    | some w =>
      rw [hf] at he
      have hw := hproperties w hf
      cases w with
      | dict entries mark => exact List.all_eq_true.1 hw e he
      | _ => cases he
  obtain ⟨rules, hmade⟩ := NodeType.rulesOf_eq hrules
  refine ⟨rules, ?_⟩
  rw [NodeType.make, Rule.section?_eq hsection]
  simp only [bind, Except.bind, hmade]
  rfl

end ContentIndex
