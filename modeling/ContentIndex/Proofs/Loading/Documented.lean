import ContentIndex.Proofs.Loading.Inheritance

/-!
# Exports of the documented shape

An export has definitions of node types by name and a list of nodes. What a definition says of the
types and rules of properties are texts, if it says anything, and a node has texts as its
identifier, its path and the name of its type. Merging keeps such definitions, so the types that
are made of them have texts as rules, whatever the definitions hold otherwise.
-/

namespace ContentIndex

set_option autoImplicit false

/-! ## Shapes of entries -/

/-- What the entries of a dictionary have to be, by their keys. -/
abbrev Shape := Option Key → Value → Bool

namespace Shape

/-- What the entry of a name has to be; the other entries may be anything. -/
def under (name : String) (q : Value → Bool) : Shape :=
  fun key v => key != some [.str name] || q v

/-- Entries merged into others of the shape have it again. -/
def Merges (p : Shape) : Prop :=
  ∀ key before v, (∀ b ∈ before, p key b = true) → p key v = true →
    p key (Value.mergeValue before v) = true

/-- Entries keep the shape when they get their marks. -/
def Marks (p : Shape) : Prop :=
  ∀ (k v : Value) n m, p k.key? v = true → p (k.withMarks n).1.key? (v.withMarks m).1 = true

end Shape

namespace Value

/-- Values merged into others of a shape have it again. -/
def Merges (r : Value → Bool) : Prop :=
  ∀ before v, (∀ b ∈ before, r b = true) → r v = true → r (mergeValue before v) = true

/-- Values keep a shape when they get their marks. -/
def Marks (r : Value → Bool) : Prop :=
  ∀ v next, r v = true → r (v.withMarks next).1 = true

def isText : Value → Bool
  | .str _ => true
  | _ => false

/-- Null, or a text of the given kind. -/
def isTextIf (q : String → Bool) : Value → Bool
  | .none => true
  | .str s => q s
  | _ => false

/-- Null, or a dictionary whose entries have a shape. -/
def isSectionOf (p : Shape) : Value → Bool
  | .none => true
  | .dict entries _ => entries.all fun e => p e.1.key? e.2
  | _ => false

/-- Null, or a list of values of a shape. -/
def isListOf (q : Value → Bool) : Value → Bool
  | .none => true
  | .list items _ => items.all q
  | _ => false

end Value

/-! ## The documented shape -/

section Documented

variable (q : String → Bool)

/-- Search rules, with texts of the given kind. -/
def searchRules : Shape := fun key v =>
  Shape.under "indexing" (Value.isTextIf q) key v &&
    Shape.under "fulltextExtractor" (Value.isTextIf q) key v

/-- The definition of a property: a type, and search rules. -/
def ruledProperty : Shape := fun key v =>
  Shape.under "type" (Value.isTextIf fun _ => true) key v &&
    Shape.under "search" (Value.isSectionOf (searchRules q)) key v

/-- Definitions of properties by name. -/
def ruledProperties : Shape :=
  Shape.under "properties"
    (Value.isSectionOf fun _ v => v.isSectionOf (ruledProperty q))

/-- The configuration of a type gives rules of the kind. -/
def hasRules (configuration : Entries) : Bool :=
  configuration.all fun e => ruledProperties q e.1.key? e.2

def isTextKey : Option Key → Bool
  | some [.str _] => true
  | _ => false

/-- Supertypes: one name, a list of names, or names with flags. -/
def Value.isSupers (v : Value) : Bool :=
  v.isText || v.isListOf isText || v.isSectionOf fun key _ => isTextKey key

/-- The definition of a type, which may be null. -/
def Value.isDefinition : Value → Bool
  | .none => true
  | .dict definition _ =>
    ((Entries.findText? definition "superTypes").all isSupers) && hasRules q definition
  | _ => false

/-- Definitions of types by name. -/
def Value.isDefinitions : Value → Bool :=
  isSectionOf fun key v => isTextKey key && v.isDefinition q

def nodeFields : List String :=
  ["identifier", "path", "nodeType"]

/-- The definition of a node; properties may be missing. -/
def Value.isNodeDefinition : Value → Bool
  | .dict definition _ =>
    nodeFields.all (fun name => (Entries.findText? definition name).any isText) &&
      (Entries.findText? definition "properties").all (isSectionOf fun _ _ => true)
  | _ => false

/-- An export of the documented shape all of whose rules are texts of the given kind. -/
def Value.isExport : Value → Bool
  | .dict content _ =>
    (Entries.findText? content "nodeTypes").all (isDefinitions q) &&
      (Entries.findText? content "nodes").all (isListOf isNodeDefinition)
  | _ => false

end Documented

/-! ## Merging keeps it -/

section Merging

variable {p p' : Shape} {q : String → Bool} {r : Value → Bool}

theorem Shape.under_iff {name : String} {key : Option Key} {v : Value} :
    Shape.under name r key v = true ↔ AtName name r key v := by
  simp only [Shape.under, AtName, Bool.or_eq_true, bne_iff_ne, ne_eq, Decidable.imp_iff_not_or]

theorem Shape.Merges.and (h : p.Merges) (h' : p'.Merges) :
    Shape.Merges fun key v => p key v && p' key v := by
  intro key before v hb hv
  simp only [Bool.and_eq_true] at hb hv ⊢
  exact ⟨h key before v (fun b hmem => (hb b hmem).1) hv.1,
    h' key before v (fun b hmem => (hb b hmem).2) hv.2⟩

theorem Value.Merges.under (h : Value.Merges r) (name : String) :
    (Shape.under name r).Merges := by
  intro key before v hb hv
  simp only [Shape.under_iff] at hb hv ⊢
  exact fun hk => h before v (fun b hmem => hb b hmem hk) (hv hk)

theorem Value.Merges.values (h : Value.Merges r) : Shape.Merges fun _ v => r v :=
  fun _ => h

theorem merges_isTextIf (q : String → Bool) : Value.Merges (Value.isTextIf q) := by
  intro before v _ hv
  cases v with
  | none => rfl
  | str s => exact hv
  | _ => cases hv

theorem Shape.Merges.isSectionOf (h : p.Merges) : Value.Merges (Value.isSectionOf p) := by
  intro before v hb hv
  cases v with
  | none => rfl
  | dict override mark =>
    refine mergeValue_dict (fun es m => List.all_eq_true) ?_ hb hv
    intro base override hbase hover
    have hmerged : Entries.Each (fun key v => p key v = true)
        (Value.mergeEntries base override) := Entries.Each.merge h hbase hover
    exact hmerged
  | _ => cases hv

theorem merges_ruledProperties (q : String → Bool) : (ruledProperties q).Merges := by
  have hsearch : (searchRules q).Merges :=
    ((merges_isTextIf q).under _).and ((merges_isTextIf q).under _)
  have hproperty : (ruledProperty q).Merges :=
    ((merges_isTextIf _).under _).and (hsearch.isSectionOf.under _)
  exact hproperty.isSectionOf.values.isSectionOf.under _

theorem hasRules_iff {entries : Entries} : hasRules q entries = true ↔
    Entries.Each (fun key v => ruledProperties q key v = true) entries :=
  List.all_eq_true

end Merging

/-! ## Giving out marks keeps it -/

section Marks

variable {p p' : Shape} {q : String → Bool} {r : Value → Bool}

theorem Shape.Marks.and (h : p.Marks) (h' : p'.Marks) :
    Shape.Marks fun key v => p key v && p' key v := by
  intro k v n m hv
  simp only [Bool.and_eq_true] at hv ⊢
  exact ⟨h k v n m hv.1, h' k v n m hv.2⟩

theorem Value.Marks.under (h : Value.Marks r) (name : String) : (Shape.under name r).Marks := by
  intro k v n m hv
  rw [Shape.under_iff] at hv ⊢
  exact atName_withMarks h k v n m hv

theorem Value.Marks.values (h : Value.Marks r) : Shape.Marks fun _ v => r v :=
  fun _ v _ m => h v m

theorem exists_of_isTextKey {k : Value} (h : isTextKey k.key? = true) : ∃ s, k = .str s := by
  unfold isTextKey at h
  split at h
  · rename_i s hkey
    exact ⟨s, Value.eq_str_of_key? hkey⟩
  · cases h

theorem marks_isTextKey : Shape.Marks fun key _ => isTextKey key := by
  intro k v n m hk
  obtain ⟨s, rfl⟩ := exists_of_isTextKey hk
  rfl

theorem marks_isText : Value.Marks Value.isText := by
  intro v next hv
  cases v with
  | str s => rfl
  | _ => cases hv

theorem marks_isTextIf (q : String → Bool) : Value.Marks (Value.isTextIf q) := by
  intro v next hv
  cases v with
  | none => rfl
  | str s => exact hv
  | _ => cases hv

theorem Shape.Marks.isSectionOf (h : p.Marks) : Value.Marks (Value.isSectionOf p) := by
  intro v next hv
  cases v with
  | none => rfl
  | dict entries mark =>
    have hiff : ∀ es m, Value.isSectionOf p (.dict es m) = true ↔
        Entries.Each (fun key v => p key v = true) es := fun _ _ => List.all_eq_true
    exact dict_withMarks hiff h hv next
  | _ => cases hv

theorem marks_ruledProperties (q : String → Bool) : (ruledProperties q).Marks := by
  have hsearch : (searchRules q).Marks :=
    ((marks_isTextIf q).under _).and ((marks_isTextIf q).under _)
  have hproperty : (ruledProperty q).Marks :=
    ((marks_isTextIf _).under _).and (hsearch.isSectionOf.under _)
  exact hproperty.isSectionOf.values.isSectionOf.under _

theorem all_withMarksAll (h : Value.Marks r) {items done : List Value}
    (hitems : ∀ v ∈ items, r v = true) (hdone : ∀ v ∈ done, r v = true) (next : Nat) :
    ∀ v ∈ (Value.withMarksAll items done next).1, r v = true := by
  induction items generalizing done next with
  | nil =>
    rw [Value.withMarksAll]
    exact fun v hv => hdone v (List.mem_reverse.1 hv)
  | cons v rest ih =>
    obtain ⟨hv, hrest⟩ := List.forall_mem_cons.1 hitems
    rw [Value.withMarksAll]
    exact ih hrest (List.forall_mem_cons.2 ⟨h v next hv, hdone⟩) _

theorem Value.Marks.isListOf (h : Value.Marks r) : Value.Marks (Value.isListOf r) := by
  intro v next hv
  cases v with
  | none => rfl
  | list items mark =>
    rw [Value.withMarks.eq_def]
    cases mark with
    | zero =>
      refine List.all_eq_true.2 (all_withMarksAll h (List.all_eq_true.1 hv) ?_ next)
      exact List.forall_mem_nil _
    | succ mark => exact hv
  | _ => cases hv

theorem marks_isSupers : Value.Marks Value.isSupers := by
  intro v next hv
  simp only [Value.isSupers, Bool.or_eq_true] at hv ⊢
  exact hv.imp (Or.imp (marks_isText v next) (marks_isText.isListOf v next))
    (marks_isTextKey.isSectionOf v next)

/-- What stands under a name keeps a shape that values keep. -/
theorem all_findText?_withMarks (h : Value.Marks r) {entries : Entries} {name : String}
    (hall : (Entries.findText? entries name).all r = true) (next : Nat) :
    (Entries.findText? (Value.withMarksEntries entries [] next).1 name).all r = true := by
  obtain ⟨m, hm⟩ := Entries.findText?_withMarks entries name next
  rw [hm]
  cases hf : Entries.findText? entries name with
  | none => rfl
  | some v =>
    rw [hf] at hall
    exact h v m hall

theorem any_findText?_withMarks (h : Value.Marks r) {entries : Entries} {name : String}
    (hany : (Entries.findText? entries name).any r = true) (next : Nat) :
    (Entries.findText? (Value.withMarksEntries entries [] next).1 name).any r = true := by
  obtain ⟨m, hm⟩ := Entries.findText?_withMarks entries name next
  rw [hm]
  cases hf : Entries.findText? entries name with
  | none =>
    rw [hf] at hany
    cases hany
  | some v =>
    rw [hf] at hany
    exact h v m hany

/-- A shape that is one of the entries alone. -/
theorem dict_marks {P : Entries → Prop} (hr : ∀ es m, r (.dict es m) = true ↔ P es)
    (hP : ∀ es next, P es → P (Value.withMarksEntries es [] next).1) {entries : Entries}
    {mark : Nat} (h : r (.dict entries mark) = true) (next : Nat) :
    r ((Value.dict entries mark).withMarks next).1 = true := by
  rw [Value.withMarks.eq_def]
  cases mark with
  | zero => exact (hr _ _).2 (hP entries next ((hr _ _).1 h))
  | succ mark => exact h

theorem hasRules_withMarks {entries : Entries} (h : hasRules q entries = true) (next : Nat) :
    hasRules q (Value.withMarksEntries entries [] next).1 = true :=
  hasRules_iff.2 (Entries.Each.withMarks (P := fun key v => ruledProperties q key v = true)
    (marks_ruledProperties q) (hasRules_iff.1 h) (List.forall_mem_nil _) next)

theorem marks_isDefinition (q : String → Bool) : Value.Marks (Value.isDefinition q) := by
  intro v next hv
  cases v with
  | none => rfl
  | dict definition mark =>
    refine dict_marks (fun es m => Bool.and_eq_true_iff) ?_ hv next
    exact fun es next h => ⟨all_findText?_withMarks marks_isSupers h.1 next,
      hasRules_withMarks h.2 next⟩
  | _ => cases hv

theorem marks_isDefinitions (q : String → Bool) : Value.Marks (Value.isDefinitions q) :=
  (marks_isTextKey.and (marks_isDefinition q).values).isSectionOf

theorem marks_isNodeDefinition : Value.Marks Value.isNodeDefinition := by
  intro v next hv
  cases v with
  | dict definition mark =>
    refine dict_marks (fun es m => Bool.and_eq_true_iff) ?_ hv next
    intro es next h
    have hany : Value.Marks (Value.isSectionOf fun _ _ => true) :=
      Shape.Marks.isSectionOf fun _ _ _ _ _ => rfl
    refine ⟨?_, all_findText?_withMarks hany h.2 next⟩
    rw [List.all_eq_true] at h ⊢
    exact fun name hname => any_findText?_withMarks marks_isText (h.1 name hname) next
  | _ => cases hv

theorem marks_isExport (q : String → Bool) : Value.Marks (Value.isExport q) := by
  intro v next hv
  cases v with
  | dict content mark =>
    refine dict_marks (fun es m => Bool.and_eq_true_iff) ?_ hv next
    exact fun es next h => ⟨all_findText?_withMarks (marks_isDefinitions q) h.1 next,
      all_findText?_withMarks marks_isNodeDefinition.isListOf h.2 next⟩
  | _ => cases hv

end Marks

/-! ## Rules -/

/-- The type and the rules of a property are texts, as far as there are any. -/
def Rule.isTextual (q : String → Bool) (rule : Rule) : Bool :=
  rule.type.isTextIf (fun _ => true) && rule.indexing.isTextIf q && rule.extractor.isTextIf q

/-- A type with a text as its name, whose rules are texts of the given kind. -/
structure NodeType.HasTexts (q : String → Bool) (t : NodeType) : Prop where
  name : ∃ s, t.name = .ofText s
  rules : ∀ e ∈ t.properties, e.2.isTextual q = true

section Rules

variable {p : Shape} {q : String → Bool} {entries : Entries}

theorem Value.isSection_of_isSectionOf {v : Value} (h : v.isSectionOf p = true) :
    v.isSection = true := by
  cases v with
  | none => rfl
  | dict entries mark => rfl
  | _ => cases h

/-- The entries of a section have its shape. -/
theorem Rule.each_of_section? {v : Option Value} (h : ∀ w ∈ v, w.isSectionOf p = true)
    (hs : Rule.section? v = .ok entries) :
    Entries.Each (fun key w => p key w = true) entries := by
  rw [Rule.section?_eq fun w hw => Value.isSection_of_isSectionOf (h w hw)] at hs
  cases hs
  cases v with
  | none => exact List.forall_mem_nil _
  | some w =>
    have hw := h w rfl
    cases w with
    | none => exact List.forall_mem_nil _
    | dict entries mark => exact List.all_eq_true.1 hw
    | _ => cases hw

theorem Rule.field_under {r : Value → Bool} {name : String} (hnone : r .none = true)
    (h : Entries.Each (fun key v => Shape.under name r key v = true) entries) :
    r (Rule.field entries name) = true := by
  unfold Rule.field
  cases hf : Entries.findText? entries name with
  | none => exact hnone
  | some v => exact Shape.under_iff.1 (h.find? hf) rfl

theorem Rule.isTextual_of_definition {v : Value} {rule : Rule}
    (h : v.isSectionOf (ruledProperty q) = true) (hr : Rule.ofDefinition v = .ok rule) :
    rule.isTextual q = true := by
  simp only [Rule.ofDefinition, bind, Except.bind] at hr
  split at hr
  · cases hr
  rename_i data hdata
  split at hr
  · cases hr
  rename_i search hsearch
  cases hr
  have hproperty := Rule.each_of_section? (fun w hw => Option.some.inj hw ▸ h) hdata
  have hrules : ∀ w ∈ Entries.findText? data "search", w.isSectionOf (searchRules q) = true :=
    fun w hw => Shape.under_iff.1 (Bool.and_eq_true_iff.1 (hproperty.find? hw)).2 rfl
  have heach := Rule.each_of_section? hrules hsearch
  simp only [Rule.isTextual, Bool.and_eq_true]
  refine ⟨⟨?type, ?indexing⟩, ?extractor⟩
  case type => exact Rule.field_under rfl fun e he => (Bool.and_eq_true_iff.1 (hproperty e he)).1
  case indexing => exact Rule.field_under rfl fun e he => (Bool.and_eq_true_iff.1 (heach e he)).1
  case extractor => exact Rule.field_under rfl fun e he => (Bool.and_eq_true_iff.1 (heach e he)).2

theorem NodeType.isTextual_of_rulesOf {rules : List (Value × Rule)}
    (h : ∀ e ∈ entries, e.2.isSectionOf (ruledProperty q) = true)
    (hr : NodeType.rulesOf entries = .ok rules) :
    ∀ e ∈ rules, e.2.isTextual q = true := by
  induction entries generalizing rules with
  | nil =>
    cases hr
    exact List.forall_mem_nil _
  | cons e rest ih =>
    obtain ⟨name, definition⟩ := e
    obtain ⟨hdefinition, hrest⟩ := List.forall_mem_cons.1 h
    simp only [NodeType.rulesOf, bind, Except.bind] at hr
    split at hr
    · cases hr
    rename_i rule hrule
    split at hr
    · cases hr
    rename_i others hothers
    cases hr
    exact List.forall_mem_cons.2 ⟨Rule.isTextual_of_definition hdefinition hrule, ih hrest hothers⟩

/-- A type has the rules of its configuration. -/
theorem NodeType.isTextual_of_make {name : Name} {supers : List Nat} {t : NodeType}
    (h : hasRules q entries = true) (hm : NodeType.make name supers entries = .ok t) :
    ∀ e ∈ t.properties, e.2.isTextual q = true := by
  simp only [NodeType.make, bind, Except.bind] at hm
  split at hm
  · cases hm
  rename_i properties hproperties
  split at hm
  · cases hm
  rename_i rules hrules
  cases hm
  have hsection : ∀ w ∈ Entries.findText? entries "properties",
      w.isSectionOf (fun _ v => v.isSectionOf (ruledProperty q)) = true :=
    fun w hw => Shape.under_iff.1 ((hasRules_iff.1 h).find? hw) rfl
  exact NodeType.isTextual_of_rulesOf (Rule.each_of_section? hsection hproperties) hrules

end Rules

/-! ## Documented definitions are declarations -/

section Declarations

variable {q : String → Bool} {entries : Entries}

theorem Shape.under_mono {r r' : Value → Bool} (h : ∀ v, r v = true → r' v = true) {name : String}
    {key : Option Key} {v : Value} (hv : Shape.under name r key v = true) :
    Shape.under name r' key v = true :=
  Shape.under_iff.2 fun hk => h v (Shape.under_iff.1 hv hk)

theorem isConfiguration_of_hasRules (h : hasRules q entries = true) :
    isConfiguration entries = true := by
  have hsection : ∀ v : Value, v.isSectionOf (searchRules q) = true → v.isSection = true :=
    fun v => Value.isSection_of_isSectionOf
  have hproperty : ∀ v : Value, v.isSectionOf (ruledProperty q) = true →
      v.isPropertyDefinition = true := by
    intro v hv
    cases v with
    | none => rfl
    | dict definition mark =>
      have hentries := List.all_eq_true.1 hv
      exact each_atName.1 fun e he => Shape.under_iff.1
        (Shape.under_mono hsection (Bool.and_eq_true_iff.1 (hentries e he)).2)
    | _ => cases hv
  have hproperties : ∀ v : Value,
      v.isSectionOf (fun _ v => v.isSectionOf (ruledProperty q)) = true →
        v.isProperties = true := by
    intro v hv
    cases v with
    | none => rfl
    | dict definitions mark =>
      exact List.all_eq_true.2 fun e he => hproperty e.2 (List.all_eq_true.1 hv e he)
    | _ => cases hv
  exact each_atName.1 fun e he => Shape.under_iff.1
    (Shape.under_mono hproperties (hasRules_iff.1 h e he))

theorem exists_mapM {α β : Type} {f : α → Option β} {as : List α}
    (h : ∀ a ∈ as, (f a).isSome = true) :
    ∃ bs, as.mapM f = some bs ∧ bs.length = as.length := by
  induction as with
  | nil => exact ⟨[], rfl, rfl⟩
  | cons a rest ih =>
    obtain ⟨ha, hrest⟩ := List.forall_mem_cons.1 h
    obtain ⟨b, hb⟩ := Option.isSome_iff_exists.1 ha
    obtain ⟨bs, hbs, hlength⟩ := ih hrest
    refine ⟨b :: bs, ?_, congrArg Nat.succ hlength⟩
    rw [List.mapM_cons, hb, hbs]
    rfl

namespace Loading

theorem exists_declared
    (h : (Entries.findText? entries "superTypes").all Value.isSupers = true) :
    ∃ names, declared? entries = some names := by
  unfold declared?
  cases hf : Entries.findText? entries "superTypes" with
  | none => exact ⟨_, rfl⟩
  | some v =>
    rw [hf] at h
    have hv : v.isSupers = true := h
    simp only [Value.isSupers, Bool.or_eq_true] at hv
    cases v with
    | none => exact ⟨_, rfl⟩
    | str s => exact ⟨_, rfl⟩
    | list items mark =>
      have hitems : ∀ v ∈ items, v.isText = true := by
        rcases hv with (hv | hv) | hv
        · cases hv
        · exact List.all_eq_true.1 hv
        · cases hv
      have htexts : ∀ v ∈ items, v.asString?.isSome = true := by
        intro v hmem
        have hv := hitems v hmem
        cases v with
        | str s => rfl
        | _ => cases hv
      obtain ⟨names, hnames, -⟩ := exists_mapM htexts
      exact ⟨names, hnames⟩
    | dict flags mark =>
      have hflags : ∀ e ∈ flags, isTextKey e.1.key? = true := by
        rcases hv with (hv | hv) | hv
        · cases hv
        · cases hv
        · exact List.all_eq_true.1 hv
      have hkeys : ∀ e ∈ flags.filter (·.2.truth), (e.1.asString?).isSome = true := by
        intro e he
        obtain ⟨s, hs⟩ := exists_of_isTextKey (hflags e (List.mem_filter.1 he).1)
        rw [hs]
        rfl
      obtain ⟨names, hnames, -⟩ := exists_mapM hkeys
      exact ⟨names, hnames⟩
    | _ =>
      rcases hv with (hv | hv) | hv <;> cases hv

theorem exists_declaration {k v : Value} (hk : isTextKey k.key? = true)
    (hv : v.isDefinition q = true) : (declaration? (k, v)).isSome = true := by
  obtain ⟨s, rfl⟩ := exists_of_isTextKey hk
  cases v with
  | none => rfl
  | dict definition mark =>
    obtain ⟨hsupers, hrules⟩ := Bool.and_eq_true_iff.1 hv
    obtain ⟨names, hnames⟩ := exists_declared hsupers
    rw [declaration?, if_pos (isConfiguration_of_hasRules hrules), hnames]
    rfl
  | _ => cases hv

/-- Documented definitions have a graph, with a name for each of them. -/
theorem exists_graph {mark : Nat} (h : (Value.dict entries mark).isDefinitions q = true) :
    ∃ graph, graphOf? (.dict entries mark) = some graph ∧ graph.length = entries.length := by
  refine exists_mapM fun e he => ?_
  obtain ⟨hk, hv⟩ := Bool.and_eq_true_iff.1 (List.all_eq_true.1 h e he)
  exact exists_declaration hk hv

theorem isData_of_isDefinition {v : Value} (h : v.isDefinition q = true) : isData v = true := by
  cases v with
  | none => rfl
  | dict definition mark =>
    have hsupers := (Bool.and_eq_true_iff.1 h).1
    rw [isData]
    cases hf : Entries.findText? definition "superTypes" with
    | none => rfl
    | some v =>
      rw [hf] at hsupers
      have hv : v.isSupers = true := hsupers
      cases v with
      | none => rfl
      | str s => rfl
      | list items mark => rfl
      | dict flags mark => rfl
      | _ => cases hv
  | _ => cases h

theorem hasRules_entriesOf {v : Value} (h : v.isDefinition q = true) :
    hasRules q (entriesOf v) = true := by
  cases v with
  | none => rfl
  | dict definition mark => exact (Bool.and_eq_true_iff.1 h).2
  | _ => cases h

end Loading

end Declarations

/-! ## Loading types -/

namespace Loading

section Types

variable {q : String → Bool} {definitions : Entries} {mark : Nat} {batch : Batch} {p : Progress}
  {st : Store} {graph : Graph}

/-- All types made of definitions that give rules of a kind have such rules. -/
theorem Assembled.isTextual (h : Assembled [] batch #[] p)
    (hbatch : ∀ key d, batch.lookup key = some d → hasRules q d.entries = true) {id : Nat}
    {t : NodeType} (ht : p.types[id]? = some t) :
    hasRules q t.configuration = true ∧ ∀ e ∈ t.properties, e.2.isTextual q = true := by
  induction h generalizing id t with
  | start => cases ht
  | @add p d t' hb hnew hd hm ih =>
    rw [Array.getElem?_push] at ht
    split at ht
    · cases ht
      have hsupers : ∀ super ∈ t'.supers,
          Entries.Each (fun key v => ruledProperties q key v = true)
            (configurationOf p.types super) := by
        intro super _
        unfold configurationOf
        cases hs : p.types[super]? with
        | none => exact List.forall_mem_nil _
        | some s => exact hasRules_iff.1 (ih hs).1
      have hrules : hasRules q (configuration p.types t'.supers d.entries) = true :=
        hasRules_iff.2 (each_configuration (merges_ruledProperties q) (fun _ => rfl) hsupers
          (hasRules_iff.1 (hbatch _ d hd)))
      exact ⟨hm.configuration_eq ▸ hrules, NodeType.isTextual_of_make hrules hm.made⟩
    · exact ih ht

theorem Built.named (h : Built [] graph #[] p) {id : Nat} {t : NodeType}
    (ht : p.types[id]? = some t) : ∃ s, t.name = .ofText s := by
  induction h generalizing id t with
  | start => cases ht
  | @add p name t' hb hnew hnamed ih =>
    rw [Array.getElem?_push] at ht
    split at ht
    · cases ht
      exact ⟨name, hnamed.named⟩
    · exact ih ht

theorem hasRules_of_lookup (h : (Value.dict definitions mark).isDefinitions q = true) {key : Key}
    {d : Definition} (hd : (batchFrom definitions).lookup key = some d) :
    hasRules q d.entries = true := by
  obtain ⟨before, after, heq, -⟩ := List.lookup_eq_some_iff.1 hd
  have hmem : (key, d) ∈ batchFrom definitions := heq ▸ List.mem_append_right _ List.mem_cons_self
  obtain ⟨e, he, hkey⟩ := List.mem_filterMap.1 hmem
  obtain ⟨key', -, hpair⟩ := Option.map_eq_some_iff.1 hkey
  cases hpair
  exact hasRules_entriesOf (Bool.and_eq_true_iff.1 (List.all_eq_true.1 h e he)).2

/-- Loading the types of a documented export into a fresh repository: all types have texts as rules,
or there is an error, which is a fault only if there are too many types. -/
theorem loadTypes_documented (h : (Value.dict definitions mark).isDefinitions q = true)
    (hst : st.types = #[]) :
    (∃ loaded p, loadTypes [] (.dict definitions mark) st = (.ok loaded, loadedStore [] st p) ∧
      ∀ (id : Nat) (t : NodeType), (loadedStore [] st p).types[id]? = some t → t.HasTexts q) ∨
    ∃ e, loadTypes [] (.dict definitions mark) st = (.error e, st) ∧
      ∀ f, e = .fault f → f = .tooDeep ∧ heightLimit < definitions.length := by
  have hdata : ∀ e ∈ definitions, isData e.2 = true := fun e he =>
    isData_of_isDefinition (Bool.and_eq_true_iff.1 (List.all_eq_true.1 h e he)).2
  obtain ⟨graph, hgraph, hlength⟩ := exists_graph h
  obtain ⟨batch, hbatch, hreads⟩ := batchOf_run hgraph st
  rw [batchOf_data hdata] at hbatch
  cases hbatch
  rw [loadTypes_data hdata, hst]
  have hregistered : Registered [] #[] := nofun
  rcases makeBatch_outcome hreads hregistered with
    ⟨p, hmake, hcomplete⟩ | ⟨e, hmake, hfailure⟩
  · rw [hmake]
    refine .inl ⟨_, p, rfl, fun id t ht => ?_⟩
    have hassembled : Assembled [] (batchFrom definitions) st.types p :=
      hst ▸ (makeBatch_finished hmake).assembled
    obtain ⟨u, hu, hstored⟩ := hassembled.stored_new (by rw [hst]; exact Nat.zero_le id) ht
    obtain ⟨s, hs⟩ := hcomplete.built.named hu
    have hrules := (hst ▸ hassembled).isTextual (fun _ _ => hasRules_of_lookup h) hu
    exact ⟨⟨s, hstored.name.trans hs⟩, hstored.properties ▸ hrules.2⟩
  · rw [hmake]
    refine .inr ⟨e, rfl, ?_⟩
    rintro f rfl
    cases hfailure with
    | deep hlen hnodup hin hpath =>
      refine ⟨rfl, Nat.lt_of_not_le fun hle => ?_⟩
      have hshort := shallow_of_length_le (hlength ▸ hle) _ hnodup hin hpath
      omega

end Types

end Loading

end ContentIndex
