import ContentIndex.Evaluator
import ContentIndex.Proofs.Eval.Functions

/-!
# Evaluation obeys what holds of all computations

One step of evaluation has every lawful property that its parts have, so evaluation has it with any
number of nested steps. Two consequences: what is evaluated fails with a fault or with an error of a
helper, and it changes no file.
-/

namespace ContentIndex

set_option autoImplicit false

namespace Eval

namespace Lawful

variable {P : ∀ α : Type, Eval α → Prop} (h : Lawful P)

include h

section Parts

theorem currentAll (vs : List Value) : P (List Value) (currentAll vs) := by
  induction vs with
  | nil => exact h.pure []
  | cons v vs ih => exact h.bind (h.current v) fun v => h.map ih _

theorem newCells (ids : List String) : P (List (String × Nat)) (newCells ids) := by
  induction ids with
  | nil => exact h.pure []
  | cons id rest ih => exact h.bind h.newCell fun cell => h.map ih _

theorem freshBindings (bindings : List (String × Value)) :
    P (List (String × Value)) (freshBindings bindings) := by
  induction bindings with
  | nil => exact h.pure []
  | cons binding rest ih => exact h.bind (h.fresh binding.2) fun v => h.map ih _

variable {I : Interp} (hI : Obeys P I) (scope : Scope)

include hI

theorem evalItems (items : List Expr) : P (List Value) (evalItems I scope items) := by
  fun_induction Eval.evalItems I scope items with
  | case1 => exact h.pure []
  | case2 e rest ih =>
    exact h.bind (hI.eval e scope) fun v => h.bind (h.collect hI v) fun vs => h.map ih _
  | case3 e rest _ ih => exact h.bind (hI.eval e scope) fun v => h.map ih _

theorem evalElements (single : Bool) (waiting done : List Value) (items : List Expr) :
    P (List Value) (evalElements I scope single waiting done items) := by
  fun_induction Eval.evalElements I scope single waiting done items with
  | case1 => exact h.map (h.ofFault _) _
  | case2 single waiting done e rest ih =>
    exact h.bind (h.ofFault _) fun _ => h.bind (hI.eval e scope) fun v =>
      h.bind (h.collect hI v) fun vs => h.bind (h.ofFault _) fun _ => ih vs
  | case3 single waiting done e rest _ ihsingle ihtogether =>
    refine h.bind (hI.eval e scope) fun v => ?_
    split
    · exact h.bind (h.ofFault _) fun _ => ihsingle v
    · exact ihtogether v

theorem evalKeywords (given : Keywords) (keywords : List (Option String × Expr)) :
    P Keywords (evalKeywords I scope given keywords) := by
  fun_induction Eval.evalKeywords I scope given keywords with
  | case1 given => exact h.pure given
  | case2 given id e rest ih => exact h.bind (hI.eval e scope) ih
  | case3 given e rest ih =>
    refine h.bind (hI.eval e scope) fun v => h.bind (h.ofFault _) fun more => ?_
    split
    · exact h.fault _
    · exact ih more

theorem evalEntries (entries : Entries) (waiting : List (Value × Value))
    (items : List (Option Expr × Expr)) :
    P Entries (evalEntries I scope entries waiting items) := by
  fun_induction Eval.evalEntries I scope entries waiting items with
  | case1 => exact h.ofFault _
  | case2 entries waiting k e rest ih =>
    exact h.bind (hI.eval k scope) fun key => h.bind (hI.eval e scope) fun v => ih key v
  | case3 entries waiting e rest ih =>
    refine h.bind (h.ofFault _) fun before => h.bind (hI.eval e scope) fun v => ?_
    split
    · exact h.fault _
    · exact ih before _

theorem evalLogic (deciding : Bool) (last : Value) (operands : List Expr) :
    P Value (evalLogic I scope deciding last operands) := by
  fun_induction Eval.evalLogic I scope deciding last operands with
  | case1 last => exact h.pure last
  | case2 last e rest ih =>
    refine h.bind (hI.eval e scope) fun v => ?_
    split
    · exact h.pure v
    · exact ih v

theorem evalChain (v : Value) (rest : List (CompareOp × Expr)) :
    P Value (evalChain I scope v rest) := by
  fun_induction Eval.evalChain I scope v rest with
  | case1 => exact h.pure _
  | case2 v op e rest ih =>
    refine h.bind (hI.eval e scope) fun w => h.bind (h.current v) fun v =>
      h.bind (h.compareStep hI op v w) fun holds => ?_
    split
    · exact h.pure _
    · exact ih w

theorem evalPieces (pieces : List Expr) : P (List String) (evalPieces I scope pieces) := by
  induction pieces with
  | nil => exact h.pure []
  | cons e rest ih => exact h.bind (hI.eval e scope) fun v => h.map ih _

theorem evalDefaults (params : List (String × Option Expr)) :
    P (List (String × Value)) (evalDefaults I scope params) := by
  fun_induction Eval.evalDefaults I scope params with
  | case1 => exact h.pure []
  | case2 id rest ih => exact ih
  | case3 id e rest ih => exact h.bind (hI.eval e scope) fun v => h.map ih _

theorem startComprehension (names : List String) (element : Element)
    (clauses : List (Clause Expr)) :
    P Nat (startComprehension I scope names element clauses) := by
  unfold Eval.startComprehension
  split
  · exact h.newCursor _
  · exact h.bind (hI.eval _ scope) fun source => h.bind (h.iterate source) fun cursor =>
      h.bind (h.newCells _) fun cells => h.newCursor _

end Parts

variable {I : Interp} (hI : Obeys P I)

include hI

theorem evalStep (e : Expr) (scope : Scope) : P Value (evalStep I e scope) := by
  cases e with
  | literal l => exact h.pure _
  | name id => exact h.find scope id
  | access value attr => exact h.bind (hI.eval value scope) fun v => h.access v attr
  | subscript value index =>
    cases index with
    | slice lower upper step =>
      exact h.bind (hI.eval value scope) fun v => h.bind (h.evalOption hI scope lower) fun l =>
        h.bind (h.evalOption hI scope upper) fun u => h.bind (h.evalOption hI scope step) fun s =>
          h.bind (h.current v) fun v => h.ofFault _
    | _ =>
      exact h.bind (hI.eval value scope) fun v => h.bind (hI.eval _ scope) fun i =>
        h.bind (h.current v) fun v => h.ofFault _
  | slice lower upper step =>
    exact h.bind (h.evalOption hI scope lower) fun _ =>
      h.bind (h.evalOption hI scope upper) fun _ => h.map (h.evalOption hI scope step) _
  | call function args keywords =>
    refine h.bind (hI.eval function scope) fun f => h.bind (h.evalItems hI scope args) fun vs =>
      h.bind (h.evalKeywords hI scope [] keywords) fun ks => ?_
    split
    · exact h.fault _
    · exact h.bind (h.currentAll vs) fun vs => hI.call f vs ks
  | starred value => exact hI.eval value scope
  | list items => exact h.map (h.evalItems hI scope items) _
  | tuple items => exact h.map (h.evalItems hI scope items) _
  | set items => exact h.map (h.evalElements hI scope _ _ _ items) _
  | dict entries => exact h.map (h.evalEntries hI scope _ _ entries) _
  | unary op operand => exact h.bind (hI.eval operand scope) fun _ => h.ofFault _
  | binary left op right =>
    exact h.bind (hI.eval left scope) fun v => h.bind (hI.eval right scope) fun w =>
      h.bind (h.current v) fun v => h.bind (h.besideView hI op v w) fun a =>
        h.bind (h.besideView hI op w v) fun b => h.ofFault _
  | both operands => exact h.evalLogic hI scope _ _ operands
  | either operands => exact h.evalLogic hI scope _ _ operands
  | compare left rest => exact h.bind (hI.eval left scope) fun v => h.evalChain hI scope v rest
  | conditional test body orElse =>
    refine h.bind (hI.eval test scope) fun t => ?_
    split
    · exact hI.eval body scope
    · exact hI.eval orElse scope
  | lambda params body =>
    exact h.bind (h.evalItems hI scope _) fun _ => h.map (h.evalDefaults hI scope _) _
  | comprehension kind element clauses =>
    refine h.bind (h.startComprehension hI scope _ _ clauses) fun id => ?_
    cases kind with
    | generator => exact h.pure _
    | list => exact h.map (h.drain hI id) _
    | set => exact h.map (h.fold hI (fun acc v => h.map (h.ofFault _) _) longest id []) _
  | dictComprehension key value clauses =>
    refine h.bind (h.startComprehension hI scope _ _ clauses) fun id =>
      h.map (h.fold hI (fun acc v => ?_) longest id []) _
    split
    · exact h.map (h.ofFault _) _
    · exact h.pure acc
  | field value conversion format =>
    refine h.bind (hI.eval value scope) fun v => ?_
    refine h.bind (h.evalOption hI scope format) fun spec => ?_
    split
    · split
      · exact h.map (h.ofFault _) _
      · exact h.fault _
    · exact h.map (h.ofFault _) _
  | joined pieces => exact h.map (h.evalPieces hI scope pieces) _

omit hI in
theorem instantiate (t : LibraryType) (args : List Value) (keywords : Keywords) :
    P Value (instantiate t args keywords) := by
  unfold Eval.instantiate
  split
  · split
    · exact h.pure _
    · exact h.fault _
  · exact h.fault _

theorem callStep (f : Value) (args : List Value) (keywords : Keywords) :
    P Value (callStep I f args keywords) := by
  unfold Eval.callStep
  split
  · exact h.callBuiltin hI _ args keywords
  · exact h.apply hI _ args keywords
  · exact h.helperMethod hI _ args keywords
  · exact h.valueMethod hI _ _ args keywords
  · exact h.bind (h.ofFault _) fun locals => h.bind (h.freshBindings locals) fun locals =>
      h.deeper (hI.eval _ _)
  · exact h.instantiate _ args keywords
  · exact h.fault _

omit hI in
theorem settled (v : Value) : P Value (settled v) :=
  h.bind (h.fresh v) h.current

omit hI in
/-- Evaluation has a lawful property with any number of nested steps. -/
theorem interp (n : Nat) : Obeys P (interp n) := by
  induction n with
  | zero => exact ⟨fun _ _ => h.fault _, fun _ _ _ => h.fault _, fun _ => h.fault _⟩
  | succ n ih =>
    refine ⟨fun e scope => ?eval, fun f args keywords => ?call, fun id => ?next⟩
    case eval => exact h.bind (h.evalStep ih e scope) h.settled
    case call => exact h.bind (h.callStep ih f args keywords) h.settled
    case next =>
      refine h.bind (h.nextStep ih id) fun next => ?_
      cases next with
      | none => exact h.pure none
      | some v => exact h.map (h.settled v) _

end Lawful

/-- To fail only as evaluation may is lawful. -/
theorem lawful_failsWell : Lawful fun _ a => ∀ st, FailsWell (a st).1 where
  act _ _ _ := .ok _
  throw _ he _ := .error he
  bind {_ _ a f} ha hf st := by
    have hs := ha st
    rw [run_bind]
    cases h : a st with
    | mk r t =>
      rw [h] at hs
      cases r with
      | ok v => exact hf v t
      | error e => exact .error (hs e rfl)

/-- To leave the files and the rules of types alone is lawful. -/
theorem lawful_fixed : Lawful fun _ a => Preserves Store.fixed a where
  act _ h := h
  throw e _ := .throw e
  bind := .bind

end Eval

theorem Store.files_of_fixed {α : Type} {a : Eval α} (h : Preserves Store.fixed a) :
    Preserves Store.files a :=
  fun st => congrArg Prod.fst (h st)

/-- Evaluating an expression changes no file and no rule of a type. -/
theorem evaluate_fixed (builtins : List Builtin) (text : String)
    (bindings : List (String × Value)) :
    Preserves Store.fixed (evaluate builtins text bindings) := by
  unfold evaluate
  cases readExpression text with
  | error e => exact .throw e
  | ok e =>
    refine .bind (Eval.lawful_fixed.freshBindings bindings) fun bindings st => ?_
    have hkept := (Eval.lawful_fixed.interp Eval.steps).eval e
      (Scope.ofValues bindings ++ builtinScope builtins bindings e.names) { st with depth := 0 }
    dsimp only [Eval.standard]
    split
    · rename_i hrun
      rw [hrun] at hkept
      exact hkept
    · rename_i hrun
      rw [hrun] at hkept
      exact hkept

end ContentIndex
