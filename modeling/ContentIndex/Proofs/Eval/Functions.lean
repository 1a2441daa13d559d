import ContentIndex.Eval.Builtins
import ContentIndex.Eval.Operators
import ContentIndex.Indexing
import ContentIndex.Proofs.Assets.Encoding
import ContentIndex.Proofs.Eval.Laws

/-!
# Functions obey what holds of all computations

Methods, built-in functions, comparisons and the helpers for indexing rules are made of steps that
a lawful property has. The errors that the helpers raise on their own account are a cycle of types
and an asset that cannot be written.
-/

namespace ContentIndex

set_option autoImplicit false

/-- A result that fails, if it does, as evaluation may. -/
def FailsWell {α : Type} (r : Except Error α) : Prop :=
  ∀ e, r = .error e → e.OfEvaluation

namespace FailsWell

variable {α : Type}

theorem ok (v : α) : FailsWell (.ok v) :=
  nofun

theorem error {e : Error} (he : e.OfEvaluation) : FailsWell (.error e : Except Error α) := by
  rintro _ ⟨⟩
  exact he

end FailsWell

namespace Eval

/-- The best of the values by their keys, and the default where there are none. -/
def extremeOr (name : String) (better : Value → Value → Except Fault Bool)
    (default : Option Value) (keyed : List Keyed) : Eval Value :=
  match keyed, default with
  | first :: rest, _ => ofFault (extreme better first rest)
  | [], some v => return v
  | [], none => fault (.wrongValue (name ++ "() arg is an empty sequence"))

/-- Goes on with the one argument of a function. -/
def onSingle (run : Value → Eval Value) : List Value → Eval Value
  | [v] => run v
  | _ => return .none

/-- Goes on with the argument of a function that may be left out. -/
def onGiven (default : Value) (run : Value → Eval Value) : Option Value → Eval Value
  | none => return default
  | some v => run v

end Eval

theorem Hierarchy.cycleError_ofEvaluation (names : List Name) :
    (Hierarchy.cycleError names).OfEvaluation := by
  unfold Hierarchy.cycleError
  split <;> trivial

theorem Indexing.failsWell_typeNames (types : Array NodeType) (v : Value) :
    FailsWell (Indexing.typeNames types v) := by
  unfold Indexing.typeNames
  split
  · split
    · exact .ok _
    · exact .error (Hierarchy.cycleError_ofEvaluation _)
  · exact .error trivial

theorem Attachment.failsWell_encode (files : Files) (v : Value) :
    FailsWell (Attachment.encode files v) := by
  intro e he
  obtain rfl | ⟨leaf, hleaf⟩ := exists_refusal_of_encode he
  · trivial
  · unfold refusal? at hleaf
    split at hleaf
    · cases hleaf
    · split at hleaf <;> cases hleaf
      trivial
    · cases hleaf
      trivial

namespace Eval.Lawful

variable {P : ∀ α : Type, Eval α → Prop} (h : Lawful P) {I : Interp} (hI : Obeys P I)

include h

section Methods

include hI in
theorem textMethod (name : String) (s : List Char) (args : List Value) (keywords : Keywords) :
    P Value (textMethod I name s args keywords) := by
  unfold Eval.textMethod
  dsimp only
  split
  case h_11 =>
    -- `join`, which alone goes through something
    refine h.bind (h.ofFault _) fun vs => ?_
    split
    · exact h.bind (h.collect hI _) fun _ => h.ofFault _
    · exact h.pure _
  case h_19 => exact h.fault _
  all_goals exact h.ofFault _

theorem assetMethod (a : Asset) (name : String) (args : List Value) (keywords : Keywords) :
    P Value (assetMethod a name args keywords) := by
  refine h.bind (h.ofFault _) fun _ => h.bind h.read fun st => h.bind (h.ofFault _) fun bytes =>
    h.bind (h.newCursor _) fun id => ?_
  split <;> exact h.pure _

theorem streamMethod (id : Nat) (name : String) (args : List Value) (keywords : Keywords) :
    P Value (streamMethod id name args keywords) := by
  have hadvance (c : Cursor) (v : Value) : P Value (do Eval.setCursor id c; return v) :=
    h.bind (h.setCursor id c) fun _ => h.pure v
  unfold Eval.streamMethod
  refine h.bind (h.cursor id) fun c => ?_
  split
  · dsimp only
    split
    · exact h.bind (h.ofFault _) fun vs => h.bind (h.ofFault _) fun n => hadvance _ _
    · exact h.bind (h.ofFault _) fun vs => h.bind (h.ofFault _) fun n => hadvance _ _
    · exact h.bind (h.ofFault _) fun vs => hadvance _ _
    · refine h.bind (h.ofFault _) fun vs => h.bind (h.ofFault _) fun n => ?_
      split
      · exact h.fault _
      · exact hadvance _ _
    · exact h.ofFault _
    · exact h.ofFault _
  · exact h.pure _

include hI

theorem boundMethod (receiver : Value) (name : String) (args : List Value) (keywords : Keywords) :
    P Value (boundMethod I receiver name args keywords) := by
  unfold Eval.boundMethod
  refine h.bind h.read fun st => ?_
  split
  · exact h.textMethod hI _ _ _ _
  · exact h.ofFault _
  · exact h.ofFault _
  · exact h.ofFault _
  · exact h.ofFault _
  · exact h.ofFault _
  · split
    · exact h.ofFault _
    · exact h.pure _
  · split
    · exact h.ofFault _
    · exact h.pure _
  · exact h.assetMethod _ _ _ _
  · exact h.streamMethod _ _ _ _
  · exact h.fault _

theorem valueMethod (receiver : Value) (name : String) (args : List Value) (keywords : Keywords) :
    P Value (valueMethod I receiver name args keywords) := by
  unfold Eval.valueMethod
  split
  · split
    · split
      · exact h.boundMethod hI _ _ _ _
      · exact h.fault _
    · exact h.fault _
  · exact h.bind (h.current _) fun v => h.boundMethod hI v name args keywords

end Methods

section Conversions

include hI

theorem pairOf (v : Value) : P (Value × Value) (pairOf I v) := by
  unfold Eval.pairOf
  split
  · exact h.fault _
  · refine h.bind (h.collect hI v) fun vs => ?_
    split
    · exact h.pure _
    · exact h.fault _

theorem dictOf (v : Value) : P Entries (dictOf I v) := by
  unfold Eval.dictOf
  split
  · exact h.pure _
  · refine h.bind (h.iterate v) fun id => h.map (h.fold hI (fun entries item => ?_) longest id []) _
    exact h.bind (h.pairOf hI item) fun pair => h.bind (h.ofFault _) fun _ => h.pure _

end Conversions

section Builtins

theorem iterateAll (vs : List Value) : P (List Nat) (iterateAll vs) := by
  induction vs with
  | nil => exact h.pure []
  | cons v vs ih => exact h.bind (h.iterate v) fun id => h.map ih _

theorem reversedOf (v : Value) : P Value (reversedOf v) := by
  have hlazy (kind : CursorKind) (items : List Value) :
      P Value (do return .cursor kind (← Eval.newItems items.reverse .none)) :=
    h.map (h.newCursor _) _
  unfold Eval.reversedOf
  dsimp only
  split
  · exact hlazy _ _
  · exact h.map (h.newCursor _) _
  · exact hlazy _ _
  · exact hlazy _ _
  · exact h.fault _
  · exact h.fault _
  · split
    · exact hlazy _ _
    · exact h.fault _

include hI

theorem withKeys (key : Value) (vs : List Value) : P (List Keyed) (withKeys I key vs) := by
  induction vs with
  | nil => exact h.pure []
  | cons v vs ih =>
    unfold Eval.withKeys
    split
    · exact h.bind (h.pure v) fun k => h.map ih _
    · exact h.bind (hI.call _ [v] []) fun k => h.map ih _

theorem extremeOf (name : String) (better : Value → Value → Except Fault Bool)
    (args : List Value) (keywords : Keywords) :
    P Value (extremeOf I name better args keywords) := by
  have hchoose (key : Value) (default : Option Value) (items : List Value) :
      P Value (Eval.withKeys I key items >>= Eval.extremeOr name better default) := by
    refine h.bind (h.withKeys hI key items) fun keyed => ?_
    unfold Eval.extremeOr
    split
    · exact h.ofFault _
    · exact h.pure _
    · exact h.fault _
  unfold Eval.extremeOf
  split
  · exact h.fault _
  · dsimp only
    split
    · exact h.bind (h.fault _) (hchoose _ _)
    · exact h.bind (h.collect hI _) (hchoose _ _)
    · split
      · exact h.bind (h.fault _) (hchoose _ _)
      · exact h.bind (h.pure _) (hchoose _ _)

theorem anyOf (v : Value) (wanted : Bool) : P Bool (anyOf I v wanted) :=
  h.bind (h.iterate v) fun id => h.map (h.search hI (fun _ => h.pure _) longest id) _

theorem sumOf (v start : Value) : P Value (sumOf I v start) := by
  unfold Eval.sumOf
  split
  · exact h.fault _
  · exact h.fault _
  · exact h.bind (h.iterate v) fun id => h.fold hI (fun _ _ => h.ofFault _) longest id start

theorem callBuiltin (b : Builtin) (args : List Value) (keywords : Keywords) :
    P Value (callBuiltin I b args keywords) := by
  have hsingle {run : Value → Eval Value} (hrun : ∀ v, P Value (run v)) :
      P Value (Eval.ofFault ((positional b.name ["argument"] []).bind args keywords) >>=
        Eval.onSingle run) := by
    refine h.bind (h.ofFault _) fun vs => ?_
    unfold Eval.onSingle
    split
    · exact hrun _
    · exact h.pure _
  have hoptional (default : Value) {run : Value → Eval Value} (hrun : ∀ v, P Value (run v)) :
      P Value (Eval.ofFault (oneOrNone b.name args keywords) >>= Eval.onGiven default run) := by
    refine h.bind (h.ofFault _) fun given => ?_
    unfold Eval.onGiven
    split
    · exact h.pure _
    · exact hrun _
  cases b with
  | abs => exact hsingle fun v => h.ofFault _
  | all => exact hsingle fun v => h.map (h.anyOf hI v false) _
  | any => exact hsingle fun v => h.map (h.anyOf hI v true) _
  | bool => exact hoptional _ fun v => h.pure _
  | len => exact hsingle fun v => h.ofFault _
  | list => exact hoptional _ fun v => h.map (h.collect hI v) _
  | tuple =>
    refine hoptional _ fun v => ?_
    split
    · exact h.pure _
    · exact h.map (h.collect hI v) _
  | set => exact hoptional _ fun v => h.bind (h.collect hI v) fun _ => h.ofFault _
  | float => exact hoptional _ fun v => h.ofFault _
  | str => exact h.ofFault _
  | int =>
    unfold Eval.callBuiltin
    dsimp only
    split
    · exact h.ofFault _
    · exact h.pure _
    · exact h.ofFault _
    · exact h.ofFault _
    · exact h.fault _
  | dict =>
    unfold Eval.callBuiltin
    dsimp only
    split
    · exact h.map (h.pure _) _
    · exact h.map (h.dictOf hI _) _
    · exact h.map (h.fault _) _
  | range =>
    unfold Eval.callBuiltin
    dsimp only
    split
    · exact h.ofFault _
    · exact h.fault _
  | sorted =>
    unfold Eval.callBuiltin
    dsimp only
    split
    · split
      · exact h.fault _
      · exact h.bind (h.collect hI _) fun items => h.bind (h.ofFault _) fun backwards =>
          h.bind (h.withKeys hI _ items) fun keyed => h.map (h.ofFault _) _
    · exact h.fault _
  | max => exact h.extremeOf hI _ _ _ _
  | min => exact h.extremeOf hI _ _ _ _
  | sum =>
    refine h.bind (h.ofFault _) fun given => ?_
    split
    · split
      · exact h.fault _
      · exact h.sumOf hI _ _
    · exact h.pure _
  | round =>
    refine h.bind (h.ofFault _) fun given => ?_
    split
    · exact h.ofFault _
    · exact h.pure _
  | isinstance =>
    refine h.bind (h.ofFault _) fun given => ?_
    split
    · exact h.map (h.ofFault _) _
    · exact h.pure _
  | reversed => exact hsingle h.reversedOf
  | enumerate =>
    refine h.bind (h.ofFault _) fun given => ?_
    split
    · exact h.bind (h.ofFault _) fun n => h.bind (h.iterate _) fun id => h.map (h.newCursor _) _
    · exact h.pure _
  | zip =>
    unfold Eval.callBuiltin
    dsimp only
    split
    · exact h.bind (h.iterateAll args) fun ids => h.map (h.newCursor _) _
    · exact h.bind (h.iterateAll args) fun ids => h.map (h.newCursor _) _
    · exact h.fault _
  | map =>
    unfold Eval.callBuiltin
    dsimp only
    split
    · exact h.bind (h.iterateAll _) fun ids => h.map (h.newCursor _) _
    · exact h.fault _
  | filter =>
    unfold Eval.callBuiltin
    dsimp only
    split
    · exact h.bind (h.iterate _) fun id => h.map (h.newCursor _) _
    · exact h.fault _

end Builtins

section Operators

include hI

theorem contains (v collection : Value) : P Bool (contains I v collection) := by
  unfold Eval.contains
  split
  · split
    · exact h.pure _
    · exact h.fault _
  · exact h.ofFault _
  · exact h.ofFault _
  · exact h.ofFault _
  · exact h.ofFault _
  · exact h.map (h.ofFault _) _
  · exact h.pure _
  · split
    · exact h.pure _
    · split
      · exact h.bind (h.iterate collection) fun id =>
          h.map (h.search hI (fun _ => h.pure _) longest id) _
      · exact h.fault _

theorem compareStep (op : CompareOp) (v w : Value) : P Bool (compareStep I op v w) := by
  unfold Eval.compareStep
  split
  · exact h.pure _
  · exact h.pure _
  · exact h.contains hI v w
  · exact h.map (h.contains hI v w) _
  · split
    · exact h.ofFault _
    · split
      · exact h.pure _
      · exact h.pure _
      · exact h.ofFault _

end Operators

section Helpers

theorem ofError {α : Type} {r : Except Error α} (hr : FailsWell r) :
    P α (Indexing.ofError r) := by
  cases r with
  | ok v => exact h.pure v
  | error e => exact h.throw e (hr e rfl)

include hI

theorem nodeIdentifiers (nodes : Value) : P Value (Indexing.nodeIdentifiers I nodes) := by
  unfold Indexing.nodeIdentifiers
  split
  · exact h.bind (h.iterate nodes) fun id =>
      h.map (h.fold hI (fun acc v => h.map (h.access v "identifier") _) longest id []) _
  · exact h.pure _

theorem nodeProperty (nodes name : Value) : P Value (Indexing.nodeProperty I nodes name) := by
  unfold Indexing.nodeProperty
  split
  · refine h.bind (h.iterate nodes) fun id => h.map (h.fold hI (fun acc v => ?_) longest id []) _
    refine h.bind (h.access v "get_property") fun getter => ?_
    split
    · exact h.map (h.valueMethod hI _ _ _ _) _
    · exact h.fault _
  · exact h.pure _

theorem mergeDicts (base override : Value) : P Value (Indexing.mergeDicts I base override) := by
  refine h.bind (h.dictOf hI base) fun entries => ?_
  split
  · exact h.pure _
  · exact h.fault _

theorem apply (f : LibraryFunction) (args : List Value) (keywords : Keywords) :
    P Value (Indexing.apply I f args keywords) := by
  unfold Indexing.apply
  refine h.bind (h.ofFault _) fun values => ?_
  split
  · exact h.ofFault _
  · exact h.bind h.read fun st => h.ofError (Indexing.failsWell_typeNames _ _)
  · exact h.nodeIdentifiers hI _
  · exact h.nodeProperty hI _ _
  · exact h.bind (h.collect hI _) fun _ => h.ofFault _
  · exact h.ofFault _
  · exact h.ofFault _
  · exact h.bind h.read fun st => h.ofError (Attachment.failsWell_encode _ _)
  · exact h.ofFault _
  · exact h.mergeDicts hI _ _
  · exact h.ofFault _
  · exact h.bind (h.note _ _) fun _ => h.pure _
  · exact h.fault _

theorem helperMethod (name : String) (args : List Value) (keywords : Keywords) :
    P Value (Indexing.helperMethod I name args keywords) := by
  unfold Indexing.helperMethod
  split
  · exact h.apply hI _ args keywords
  · split
    · exact h.bind (h.ofFault _) fun _ => h.pure _
    · exact h.fault _

end Helpers

end Eval.Lawful

end ContentIndex
