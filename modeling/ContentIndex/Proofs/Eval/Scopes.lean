import ContentIndex.Evaluator
import ContentIndex.Proofs.Expr.Parts

/-!
# An expression looks at no variable that it does not name

Evaluation is compared in two scopes that agree on the names of an expression. It gives the same
computation, hence the same result and the same store, and with it the same functions and lazy
sequences, which keep of a scope what their names ask for.
-/

namespace ContentIndex

set_option autoImplicit false

/-- Two scopes have the same variables under the names of an expression. -/
def Scope.AgreeFor (a b : Scope) (e : Expr) : Prop :=
  ∀ id ∈ e.names, a.lookup id = b.lookup id

theorem Scope.AgreeFor.part {a b : Scope} {e part : Expr} (h : a.AgreeFor b e)
    (hpart : part ∈ e.parts) : a.AgreeFor b part :=
  fun id hid => h id (Expr.names_part hpart hid)

theorem Scope.AgreeFor.starred {a b : Scope} {value : Expr} (h : a.AgreeFor b (.starred value)) :
    a.AgreeFor b value :=
  h.part (by simp [Expr.parts])

namespace Eval

/-- The meaning of an expression depends on the variables that it names alone. -/
def SeesNames (I : Interp) : Prop :=
  ∀ {e : Expr} {a b : Scope}, a.AgreeFor b e → I.eval e a = I.eval e b

variable {I : Interp} (hI : SeesNames I) {a b : Scope}

include hI

section Parts

theorem evalItems_congr {items : List Expr} (h : ∀ e ∈ items, a.AgreeFor b e) :
    evalItems I a items = evalItems I b items := by
  induction items with
  | nil => rfl
  | cons e rest ih =>
    have he := h e List.mem_cons_self
    have ih := ih fun e' he' => h e' (List.mem_cons_of_mem e he')
    cases e with
    | starred value =>
      have hvalue := hI he.starred
      simp only [evalItems, hvalue, ih]
    | _ => simp only [evalItems, hI he, ih]

theorem evalElements_congr {items : List Expr} (h : ∀ e ∈ items, a.AgreeFor b e) (single : Bool)
    (waiting done : List Value) :
    evalElements I a single waiting done items = evalElements I b single waiting done items := by
  induction items generalizing single waiting done with
  | nil => rfl
  | cons e rest ih =>
    have he := h e List.mem_cons_self
    have ih := ih fun e' he' => h e' (List.mem_cons_of_mem e he')
    cases e with
    | starred value =>
      have hvalue := hI he.starred
      simp only [evalElements, hvalue, ih]
    | _ => simp only [evalElements, hI he, ih]

theorem evalKeywords_congr {keywords : List (Option String × Expr)}
    (h : ∀ k ∈ keywords, a.AgreeFor b k.2) (given : Keywords) :
    evalKeywords I a given keywords = evalKeywords I b given keywords := by
  induction keywords generalizing given with
  | nil => rfl
  | cons k rest ih =>
    have hk := hI (h k List.mem_cons_self)
    have ih := ih fun k' hk' => h k' (List.mem_cons_of_mem k hk')
    obtain ⟨id, e⟩ := k
    cases id <;> simp only [evalKeywords, hk, ih]

theorem evalEntries_congr {items : List (Option Expr × Expr)}
    (hkeys : ∀ k ∈ items.filterMap (·.1), a.AgreeFor b k)
    (hvalues : ∀ v ∈ items.map (·.2), a.AgreeFor b v) (entries : Entries)
    (waiting : List (Value × Value)) :
    evalEntries I a entries waiting items = evalEntries I b entries waiting items := by
  induction items generalizing entries waiting with
  | nil => rfl
  | cons item rest ih =>
    obtain ⟨key, value⟩ := item
    have hvalue := hI (hvalues value (by simp))
    have ih := ih (fun k hk => hkeys k (by
      rw [List.filterMap_cons]
      split
      · exact hk
      · exact List.mem_cons_of_mem _ hk)) fun v hv => hvalues v (List.mem_cons_of_mem _ hv)
    cases key with
    | none => simp only [evalEntries, hvalue, ih]
    | some key =>
      have hkey := hI (hkeys key (by simp))
      simp only [evalEntries, hkey, hvalue, ih]

theorem evalLogic_congr {operands : List Expr} (h : ∀ e ∈ operands, a.AgreeFor b e)
    (deciding : Bool) (last : Value) :
    evalLogic I a deciding last operands = evalLogic I b deciding last operands := by
  induction operands generalizing last with
  | nil => rfl
  | cons e rest ih =>
    have ih := ih fun e' he' => h e' (List.mem_cons_of_mem e he')
    simp only [evalLogic, hI (h e List.mem_cons_self), ih]

theorem evalChain_congr {rest : List (CompareOp × Expr)} (h : ∀ p ∈ rest, a.AgreeFor b p.2)
    (v : Value) : evalChain I a v rest = evalChain I b v rest := by
  induction rest generalizing v with
  | nil => rfl
  | cons p rest ih =>
    have ih := ih fun p' hp' => h p' (List.mem_cons_of_mem p hp')
    simp only [evalChain, hI (h p List.mem_cons_self), ih]

theorem evalPieces_congr {pieces : List Expr} (h : ∀ e ∈ pieces, a.AgreeFor b e) :
    evalPieces I a pieces = evalPieces I b pieces := by
  induction pieces with
  | nil => rfl
  | cons e rest ih =>
    have ih := ih fun e' he' => h e' (List.mem_cons_of_mem e he')
    simp only [evalPieces, hI (h e List.mem_cons_self), ih]

theorem evalDefaults_congr {params : List (String × Option Expr)}
    (h : ∀ e ∈ params.filterMap (·.2), a.AgreeFor b e) :
    evalDefaults I a params = evalDefaults I b params := by
  induction params with
  | nil => rfl
  | cons param rest ih =>
    obtain ⟨id, default⟩ := param
    cases default with
    | none => simpa only [evalDefaults] using ih h
    | some e =>
      have ih := ih fun e' he' => h e' (List.mem_cons_of_mem _ he')
      simp only [evalDefaults, hI (h e List.mem_cons_self), ih]

theorem evalOption_congr {e : Option Expr} (h : ∀ part ∈ e, a.AgreeFor b part) :
    evalOption I a e = evalOption I b e := by
  cases e with
  | none => rfl
  | some e => exact hI (h e rfl)

theorem evalBounds_congr {lower upper step : Option Expr}
    (h : a.AgreeFor b (.slice lower upper step)) :
    evalOption I a lower = evalOption I b lower ∧ evalOption I a upper = evalOption I b upper ∧
      evalOption I a step = evalOption I b step := by
  refine ⟨evalOption_congr hI fun p hp => h.part ?_, evalOption_congr hI fun p hp => h.part ?_,
    evalOption_congr hI fun p hp => h.part ?_⟩ <;>
  · rw [Option.mem_def] at hp
    simp [Expr.parts, hp]

theorem startComprehension_congr {names : List String}
    (hnames : ∀ id ∈ names, a.lookup id = b.lookup id) {clauses : List (Clause Expr)}
    (h : ∀ clause ∈ clauses, a.AgreeFor b clause.source) (element : Element) :
    startComprehension I a names element clauses =
      startComprehension I b names element clauses := by
  cases clauses with
  | nil => rfl
  | cons first rest =>
    simp only [startComprehension, hI (h first List.mem_cons_self), Scope.restrict_congr hnames]

end Parts

/-- One step of evaluation passes it on from the parts of an expression. -/
theorem evalStep_congr {e : Expr} (h : a.AgreeFor b e) : evalStep I e a = evalStep I e b := by
  have hpart : ∀ part ∈ e.parts, a.AgreeFor b part := fun _ => h.part
  cases e with
  | literal l => rfl
  | name id => simp only [evalStep, Scope.find, h id (Expr.name_mem_names id)]
  | access value attr => simp only [evalStep, hI (hpart value (by simp [Expr.parts]))]
  | subscript value index =>
    have hvalue := hI (hpart value (by simp [Expr.parts]))
    have hindex := hpart index (by simp [Expr.parts])
    cases index with
    | slice lower upper step =>
      obtain ⟨hl, hu, hs⟩ := evalBounds_congr hI hindex
      simp only [evalStep, hvalue, hl, hu, hs]
    | _ => simp only [evalStep, hvalue, hI hindex]
  | slice lower upper step =>
    obtain ⟨hl, hu, hs⟩ := evalBounds_congr hI h
    simp only [evalStep, hl, hu, hs]
  | call function args keywords =>
    have hf := hI (hpart function (by simp [Expr.parts]))
    have hargs := evalItems_congr hI fun p hp =>
      hpart p (List.mem_append_left _ (List.mem_cons_of_mem function hp))
    have hkeywords := evalKeywords_congr hI (fun k hk =>
      hpart k.2 (List.mem_append_right _ (List.mem_map_of_mem hk))) []
    simp only [evalStep, hf, hargs, hkeywords]
  | starred value => exact hI (hpart value (by simp [Expr.parts]))
  | list items =>
    have hitems : evalItems I a items = evalItems I b items := evalItems_congr hI hpart
    simp only [evalStep, hitems]
  | tuple items =>
    have hitems : evalItems I a items = evalItems I b items := evalItems_congr hI hpart
    simp only [evalStep, hitems]
  | set items =>
    have hitems := fun single : Bool =>
      show evalElements I a single [] [] items = evalElements I b single [] [] items from
        evalElements_congr hI hpart single [] []
    simp only [evalStep, hitems]
  | dict entries =>
    have hentries := evalEntries_congr hI
      (fun k hk => hpart k (List.mem_append_left _ hk))
      (fun v hv => hpart v (List.mem_append_right _ hv)) [] []
    simp only [evalStep, hentries]
  | unary op operand => simp only [evalStep, hI (hpart operand (by simp [Expr.parts]))]
  | binary left op right =>
    have hleft := hI (hpart left (by simp [Expr.parts]))
    have hright := hI (hpart right (by simp [Expr.parts]))
    simp only [evalStep, hleft, hright]
  | both operands => exact evalLogic_congr hI hpart _ _
  | either operands => exact evalLogic_congr hI hpart _ _
  | compare left rest =>
    have hleft := hI (hpart left (by simp [Expr.parts]))
    have hrest := fun v => evalChain_congr hI (fun p hp =>
      hpart p.2 (List.mem_cons_of_mem left (List.mem_map_of_mem hp))) v
    simp only [evalStep, hleft, hrest]
  | conditional test body orElse =>
    have htest := hI (hpart test (by simp [Expr.parts]))
    have hbody := hI (hpart body (by simp [Expr.parts]))
    have horElse := hI (hpart orElse (by simp [Expr.parts]))
    simp only [evalStep, htest, hbody, horElse]
  | lambda params body =>
    have hdefaults := evalItems_congr hI fun p hp =>
      hpart p (List.mem_append_left _ (List.mem_append_right _ hp))
    have hkeywords := evalDefaults_congr hI fun p hp =>
      hpart p (List.mem_append_left _ (List.mem_append_left _ hp))
    have hkept := Scope.restrict_congr (hpart body (by simp [Expr.parts]))
    simp only [evalStep, hdefaults, hkeywords, hkept]
  | comprehension kind element clauses =>
    have hstart := startComprehension_congr hI h (fun clause hclause =>
      hpart clause.source (List.mem_cons_of_mem _ (List.mem_flatMap.2
        ⟨clause, hclause, by simp [Clause.parts]⟩))) (.single element)
    simp only [evalStep, hstart]
  | dictComprehension key value clauses =>
    have hstart := startComprehension_congr hI h (fun clause hclause =>
      hpart clause.source (List.mem_cons_of_mem _ (List.mem_cons_of_mem _ (List.mem_flatMap.2
        ⟨clause, hclause, by simp [Clause.parts]⟩)))) (.pair key value)
    simp only [evalStep, hstart]
  | field value conversion format =>
    have hvalue := hI (hpart value (by simp [Expr.parts]))
    have hformat := evalOption_congr hI fun p hp =>
      hpart p (List.mem_cons_of_mem value (Option.mem_toList.2 hp))
    simp only [evalStep, hvalue, hformat]
  | joined pieces =>
    have hpieces : evalPieces I a pieces = evalPieces I b pieces := evalPieces_congr hI hpart
    simp only [evalStep, hpieces]

omit hI in
/-- With any number of nested steps. -/
theorem seesNames_interp (n : Nat) : SeesNames (interp n) := by
  induction n with
  | zero => exact fun _ => rfl
  | succ n ih =>
    intro e a b h
    simp only [interp, evalStep_congr ih h]

end Eval

end ContentIndex
