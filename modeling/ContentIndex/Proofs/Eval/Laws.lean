import ContentIndex.Eval.Iterate
import ContentIndex.Proofs.Run

/-!
# What holds of all computations on values

A property of computations is lawful if steps that leave the files, the rules of types and the
number of nodes alone have it, errors that evaluation may raise have it, and sequences inherit it.
Whatever expressions do is made of such steps: what a lawful property needs to know of the parts of
evaluation is only that they have it. This is so for scopes, attributes and lazy sequences.
-/

namespace ContentIndex

set_option autoImplicit false

/-- Faults, and the errors that helpers raise on their own account. -/
def Error.OfEvaluation : Error → Prop
  | .fault _ => True
  | .cycle _ => True
  | .unsupportedAsset _ => True
  | _ => False

namespace Store

/-- What no computation on values changes: the files, of the node types everything but their
configuration, and the number of nodes. -/
def fixed (st : Store) : Files × List NodeType × Nat :=
  (st.files, st.types.toList.map fun t => { t with configuration := [] }, st.nodes.size)

theorem fixed_settle (st : Store) : st.settle.fixed = st.fixed := by
  simp [fixed, settle]

theorem fixed_overwrite (st : Store) (mark : Nat) (v : Value) :
    (st.overwrite mark v).fixed = st.fixed :=
  fixed_settle _

theorem fixed_changeNode (st : Store) (id : Nat) (change : Node → Node) :
    (st.changeNode id change).fixed = st.fixed := by
  unfold changeNode
  split
  · exact (fixed_settle _).trans (by simp [fixed])
  · rfl

end Store

namespace Eval

/-- A step that always gives a value. -/
def act {α : Type} (f : Store → α × Store) : Eval α := fun st =>
  (.ok (f st).1, (f st).2)

structure Lawful (P : ∀ α : Type, Eval α → Prop) : Prop where
  act {α : Type} (f : Store → α × Store) (h : ∀ st, (f st).2.fixed = st.fixed) : P α (act f)
  throw {α : Type} (e : Error) (h : e.OfEvaluation) : P α (throw e)
  bind {α β : Type} {a : Eval α} {f : α → Eval β} (ha : P α a) (hf : ∀ v, P β (f v)) :
    P β (a >>= f)

/-- The parts of evaluation have a property. -/
structure Obeys (P : ∀ α : Type, Eval α → Prop) (I : Interp) : Prop where
  eval (e : Expr) (scope : Scope) : P Value (I.eval e scope)
  call (f : Value) (args : List Value) (keywords : List (String × Value)) :
    P Value (I.call f args keywords)
  next (id : Nat) : P (Option Value) (I.next id)

namespace Lawful

variable {P : ∀ α : Type, Eval α → Prop} (h : Lawful P)

include h

section Store

variable {α β : Type}

theorem pure (v : α) : P α (pure v) :=
  h.act (fun st => (v, st)) fun _ => rfl

theorem read : P Store get :=
  h.act (fun st => (st, st)) fun _ => rfl

theorem change {f : Store → Store} (hf : ∀ st, (f st).fixed = st.fixed) : P PUnit (modify f) :=
  h.act (fun st => (PUnit.unit, f st)) hf

theorem fault (f : Fault) : P α (fault f) :=
  h.throw (.fault f) trivial

theorem ofFault (r : Except Fault α) : P α (ofFault r) := by
  cases r with
  | ok v => exact h.pure v
  | error f => exact h.fault f

theorem map {a : Eval α} (ha : P α a) (f : α → β) : P β (a >>= fun v => Pure.pure (f v)) :=
  h.bind ha fun v => h.pure (f v)

theorem fresh (v : Value) : P Value (fresh v) := by
  unfold Eval.fresh
  split
  · exact h.act (fun st => ((st.mark v).2, (st.mark v).1)) fun _ => rfl
  · exact h.pure v

theorem current (v : Value) : P Value (current v) :=
  h.map h.read fun st => st.current v

theorem newCursor (c : Cursor) : P Nat (newCursor c) :=
  h.act (fun st => (st.cursors.size, (st.addCursor c).1)) fun _ => rfl

theorem cursor (id : Nat) : P Cursor (cursor id) :=
  h.map h.read fun st => st.cursors[id]?.getD .finished

theorem setCursor (id : Nat) (c : Cursor) : P Unit (setCursor id c) :=
  h.change fun _ => rfl

theorem newCell : P Nat newCell :=
  h.act (fun st => (st.cells.size, { st with cells := st.cells.push none })) fun _ => rfl

theorem setCell (id : Nat) (v : Value) : P Unit (setCell id v) :=
  h.change fun _ => rfl

theorem cell (id : Nat) : P (Option Value) (cell id) :=
  h.map h.read fun st => st.cells[id]?.getD none

theorem note (level : LogLevel) (message : String) : P Unit (note level message) :=
  h.change fun _ => rfl

end Store

theorem find (scope : Scope) (id : String) : P Value (scope.find id) := by
  unfold Scope.find
  split
  · exact h.fault _
  · exact h.pure _
  · exact h.fault _
  · refine h.bind (h.cell _) fun found => ?_
    split
    · exact h.pure _
    · exact h.fault _
  · refine h.bind (h.cell _) fun found => ?_
    split
    · exact h.pure _
    · exact h.fault _

section Attributes

theorem access (v : Value) (attr : String) : P Value (access v attr) := by
  unfold Eval.access
  refine h.bind h.read fun st => ?_
  dsimp only
  split
  · exact h.pure _
  · exact h.ofFault _
  · split
    · exact h.pure _
    · exact h.fault _

theorem changeNode (id : Nat) (change : Node → Node) :
    P PUnit (modify fun st => st.changeNode id change) :=
  h.change fun st => st.fixed_changeNode id change

theorem putExtra (v : Value) (attr : String) (w : Value) : P Unit (putExtra v attr w) := by
  unfold Eval.putExtra
  split
  · exact h.change fun _ => rfl
  · exact h.pure _

theorem putAttribute (v : Value) (attr : String) (w : Value) : P Unit (putAttribute v attr w) := by
  unfold Eval.putAttribute
  split
  · exact h.fault _
  · split
    · exact h.fault _
    · split
      · exact h.changeNode _ _
      · exact h.changeNode _ _
      · exact h.changeNode _ _
      · exact h.putExtra _ _ _

end Attributes

section Sequences

variable {I : Interp} (hI : Obeys P I)

theorem iterate (v : Value) : P Nat (iterate v) := by
  unfold Eval.iterate
  split
  · exact h.pure _
  · exact h.pure _
  · exact h.newCursor _
  · split
    · exact h.newCursor _
    · exact h.fault _

theorem announced (v : Value) : P Nat (announced v) := by
  unfold Eval.announced
  split
  · exact h.pure _
  · refine h.bind (h.cursor _) fun c => ?_
    split
    · exact h.pure _
    · exact h.pure _
  · exact h.pure _

include hI

theorem fold {α : Type} {step : α → Value → Eval α} (hstep : ∀ acc v, P α (step acc v))
    (fuel id : Nat) (acc : α) : P α (fold I step fuel id acc) := by
  induction fuel generalizing acc with
  | zero => exact h.pure acc
  | succ fuel ih =>
    refine h.bind (hI.next id) fun next => ?_
    cases next with
    | none => exact h.pure acc
    | some v => exact h.bind (hstep acc v) ih

theorem drain (id : Nat) : P (List Value) (drain I id) :=
  h.map (h.fold hI (fun _ _ => h.pure _) longest id []) _

theorem collect (v : Value) : P (List Value) (collect I v) := by
  unfold Eval.collect
  split
  · exact h.pure _
  · refine h.bind (h.announced v) fun n => ?_
    split
    · exact h.fault _
    · split
      · exact h.fault _
      · exact h.bind (h.iterate v) (h.drain hI)

theorem takeFrom (id n : Nat) : P (List Value) (takeFrom I id n) := by
  induction n with
  | zero => exact h.pure []
  | succ n ih =>
    refine h.bind (hI.next id) fun next => ?_
    cases next with
    | none => exact h.pure []
    | some v => exact h.map ih _

theorem besideView (op : BinaryOp) (v other : Value) : P Value (besideView I op v other) := by
  unfold Eval.besideView
  split
  · exact h.map (h.collect hI v) _
  · exact h.pure v

theorem search {p : Value → Eval Bool} (hp : ∀ v, P Bool (p v)) (fuel id : Nat) :
    P (Option Value) (search I p fuel id) := by
  induction fuel with
  | zero => exact h.pure none
  | succ fuel ih =>
    refine h.bind (hI.next id) fun next => ?_
    cases next with
    | none => exact h.pure none
    | some v =>
      refine h.bind (hp v) fun found => ?_
      cases found with
      | true => exact h.pure _
      | false => exact ih

theorem nextOfEach (ids : List Nat) : P (Option (List Value)) (nextOfEach I ids) := by
  induction ids with
  | nil => exact h.pure _
  | cons id rest ih =>
    refine h.bind (hI.next id) fun next => ?_
    cases next with
    | none => exact h.pure none
    | some v =>
      refine h.bind ih fun others => ?_
      cases others with
      | none => exact h.pure none
      | some vs => exact h.pure _

theorem anyLeft (ids : List Nat) : P Bool (anyLeft I ids) := by
  induction ids with
  | nil => exact h.pure false
  | cons id rest ih =>
    refine h.bind (hI.next id) fun next => ?_
    cases next with
    | none => exact ih
    | some v => exact h.pure true

theorem nextStrict (first : Bool) (ids : List Nat) :
    P (Option (List Value)) (nextStrict I first ids) := by
  induction ids generalizing first with
  | nil => exact h.pure _
  | cons id rest ih =>
    refine h.bind (hI.next id) fun next => ?_
    cases next with
    | none =>
      dsimp only
      split
      · exact h.fault _
      · refine h.bind (h.anyLeft hI rest) fun left => ?_
        cases left with
        | true => exact h.fault _
        | false => exact h.pure none
    | some v =>
      refine h.bind (ih false) fun others => ?_
      cases others with
      | none => exact h.pure none
      | some vs => exact h.pure _

theorem unpack (targets : List Expr) (v : Value) : P (List Value) (unpack I targets v) := by
  unfold Eval.unpack
  split
  · exact h.fault _
  · split
    · exact h.bind (h.collect hI v) fun _ => h.ofFault _
    · exact h.bind (h.iterate v) fun id => h.bind (h.takeFrom hI id _) fun _ => h.ofFault _

theorem evalOption (scope : Scope) (e : Option Expr) : P Value (evalOption I scope e) := by
  cases e with
  | none => exact h.pure Value.none
  | some e => exact hI.eval e scope

omit hI in
theorem overwrite (v : Value) : P Unit (overwrite v) := by
  unfold Eval.overwrite
  split
  · exact h.change fun st => st.fixed_overwrite _ _
  · exact h.change fun st => st.fixed_overwrite _ _
  · exact h.pure _

omit hI in
theorem putElement (v index element : Value) : P Unit (putElement v index element) :=
  h.bind (h.ofFault _) h.overwrite

theorem putPart (v lower upper step elements : Value) :
    P Unit (putPart I v lower upper step elements) := by
  unfold Eval.putPart
  split
  · refine h.bind (h.ofFault _) fun span => ?_
    split
    · exact h.bind (h.collect hI elements) fun _ => h.bind (h.ofFault _) h.overwrite
    · exact h.fault _
  · exact h.fault _
  · exact h.fault _

theorem assign (scope : Scope) (target : Expr) (v : Value) : P Unit (assign I scope target v) := by
  refine Eval.assign.induct_unfolding I scope (fun _ _ a => P Unit a) (fun _ _ a => P Unit a)
    ?cell ?noCell ?starred ?tuple ?list ?access ?part ?element ?other ?more ?done target v
  case cell => exact fun _ v cell _ => h.setCell cell v
  case noCell => exact fun _ _ _ => h.fault _
  case starred => exact fun _ _ ih => ih
  case tuple => exact fun items v ih => h.bind (h.unpack hI items v) ih
  case list => exact fun items v ih => h.bind (h.unpack hI items v) ih
  case access =>
    exact fun owner attr v => h.bind (hI.eval owner scope) fun w => h.putAttribute w attr v
  case part =>
    exact fun owner lower upper step v => h.bind (hI.eval owner scope) fun w =>
      h.bind (h.evalOption hI scope lower) fun l => h.bind (h.evalOption hI scope upper) fun u =>
        h.bind (h.evalOption hI scope step) fun s => h.bind (h.current w) fun w =>
          h.putPart hI w l u s v
  case element =>
    exact fun owner index v _ => h.bind (hI.eval owner scope) fun w =>
      h.bind (hI.eval index scope) fun i => h.bind (h.current w) fun w => h.putElement w i v
  case other => exact fun _ _ _ _ _ _ _ _ _ => h.fault _
  case more =>
    exact fun _ _ v _ ihe ihes => h.bind (h.fresh v) fun w => h.bind (ihe w) fun _ => ihes
  case done => exact fun _ _ _ => h.pure _

theorem allHold (scope : Scope) (es : List Expr) : P Bool (allHold I scope es) := by
  induction es with
  | nil => exact h.pure true
  | cons e es ih =>
    refine h.bind (hI.eval e scope) fun v => ?_
    split
    · exact ih
    · exact h.pure false

theorem elementValue (scope : Scope) (element : Element) :
    P Value (elementValue I scope element) := by
  cases element with
  | single e => exact hI.eval e scope
  | pair key value =>
    exact h.bind (hI.eval key scope) fun k => h.map (hI.eval value scope) _

theorem advance (element : Element) (clauses : List (Clause Expr)) (scope : Scope) (fuel : Nat)
    (active : List Nat) :
    P (Option (Value × List Nat)) (advance I element clauses scope fuel active) := by
  induction fuel generalizing active with
  | zero => exact h.pure none
  | succ fuel ih =>
    cases active with
    | nil => exact h.pure none
    | cons id outer =>
      rw [Eval.advance]
      split
      · exact h.pure none
      · refine h.bind (hI.next id) fun next => ?_
        cases next with
        | none => exact ih outer
        | some v =>
          refine h.bind (h.assign hI scope _ v) fun _ => ?_
          refine h.bind (h.allHold hI scope _) fun holds => ?_
          cases holds with
          | false => exact ih (id :: outer)
          | true =>
            rw [if_pos rfl]
            split
            · exact h.map (h.elementValue hI scope element) _
            · exact h.bind (hI.eval _ scope) fun source => h.bind (h.iterate source) fun cursor =>
                ih (cursor :: id :: outer)

omit hI in
theorem deeper {α : Type} {run : Eval α} (hrun : P α run) : P α (deeper run) := by
  -- the depth is looked at and raised in one step
  have hsteps : Eval.deeper run =
      (Eval.act (fun st => (decide (callLimit ≤ st.depth),
        if callLimit ≤ st.depth then st else { st with depth := st.depth + 1 })) >>= fun full =>
      if full then Eval.fault .tooDeep
      else run >>= fun result =>
        (modify fun st => { st with depth := st.depth - 1 }) >>= fun _ =>
          Pure.pure result) := by
    funext st
    simp only [Eval.deeper, run_bind, run_get, Eval.act]
    by_cases hfull : callLimit ≤ st.depth
    · simp [hfull]
    · simp [hfull, run_bind, run_set]
  rw [hsteps]
  refine h.bind (h.act _ fun st => ?_) fun full => ?_
  · dsimp only
    split <;> rfl
  · cases full with
    | true => exact h.fault _
    | false => exact h.bind hrun fun result => h.bind (h.change fun _ => rfl) fun _ => h.pure result

omit hI in
theorem itemsLeft (rest : List Value) (source : Value) (taken : Nat) :
    P (List Value) (itemsLeft rest source taken) := by
  unfold Eval.itemsLeft
  refine h.bind h.read fun st => ?_
  split
  · exact h.ofFault _
  · exact h.pure _

theorem nextStep (id : Nat) : P (Option Value) (nextStep I id) := by
  unfold Eval.nextStep
  refine h.bind (h.cursor id) fun c => ?_
  cases c with
  | finished => exact h.pure none
  | items rest source taken =>
    refine h.bind (h.itemsLeft rest source taken) fun left => ?_
    cases left with
    | nil => exact h.bind (h.setCursor _ _) fun _ => h.pure none
    | cons v rest => exact h.bind (h.setCursor _ _) fun _ => h.pure _
  | counting n step left =>
    cases left with
    | zero => exact h.pure none
    | succ left => exact h.bind (h.setCursor _ _) fun _ => h.pure _
  | mapping f sources =>
    refine h.bind (h.nextOfEach hI sources) fun row => ?_
    cases row with
    | none => exact h.pure none
    | some vs => exact h.map (hI.call f vs []) _
  | filtering f source =>
    refine h.search hI (fun v => ?_) longest source
    split
    · exact h.pure _
    · exact h.map (hI.call f [v] []) _
  | zipping sources strict =>
    cases sources with
    | nil => exact h.pure none
    | cons id rest =>
      dsimp only
      split
      · exact h.map (h.nextStrict hI true _) _
      · exact h.map (h.nextOfEach hI _) _
  | numbering n source =>
    refine h.bind (hI.next source) fun next => ?_
    cases next with
    | none => exact h.pure none
    | some v => exact h.bind (h.setCursor _ _) fun _ => h.pure _
  | comprehension element clauses active scope =>
    refine h.bind (h.setCursor id .finished) fun _ => ?_
    refine h.bind (h.deeper (h.advance hI element clauses scope longest active)) fun next => ?_
    cases next with
    | none => exact h.pure none
    | some found => exact h.bind (h.setCursor _ _) fun _ => h.pure _
  | bytes content position =>
    dsimp only
    split
    · exact h.pure none
    · exact h.bind (h.setCursor _ _) fun _ => h.pure _

end Sequences

end Lawful

end Eval

end ContentIndex
