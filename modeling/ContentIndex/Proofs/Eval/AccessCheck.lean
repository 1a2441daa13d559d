import Mathlib
import ContentIndex.Proofs.Eval.Steps
import ContentIndex.Proofs.Expr.Offenders

/-!
# The access check comes first and overlooks nothing

A text that can be read is refused exactly if its expression holds one that breaks an access rule.
The refusal names the first offender level by level and is all that happens: it is the same for
every context, and the store is left as it is.
-/

namespace ContentIndex

set_option autoImplicit false

/-- The text can be read as an expression; one that is nested more deeply than reading has room for
cannot. -/
structure Parses (text : String) (e : Expr) : Prop where
  noNull : '\x00' ∉ Expr.unwrap text.toList
  parsed : Source.parse? (Expr.unwrap text.toList) = some e
  chain : e.chain ≤ Expr.chainLimit
  levels : e.toTree.depth ≤ Expr.checkedLevels

namespace Error

/-- Whether an error says that something in an expression is not allowed. -/
def IsRefusal : Error → Prop
  | .expression _ (.offender _) => True
  | _ => False

theorem OfEvaluation.not_isRefusal {e : Error} (he : e.OfEvaluation) : ¬ e.IsRefusal := by
  cases e with
  | expression text p => cases he
  | _ => exact id

theorem OfEvaluation.reported_not_isRefusal {e : Error} (he : e.OfEvaluation) (text : String) :
    ¬ (reportFault text e).IsRefusal := by
  cases e with
  | expression text p => cases he
  | _ => exact id

end Error

theorem not_isRefusal_of_preparationError {text : String} {e : Expr} {error : Error}
    (h : preparationError? text e = some error) : ¬ error.IsRefusal := by
  unfold preparationError? at h
  split at h
  · cases h
    exact id
  · split at h
    · cases h
      exact id
    · split at h
      · cases h
      · cases h
        exact id

section Reading

variable {text : String} {e : Expr} (h : Parses text e)

include h

theorem Parses.read_offender {o : Offender} (ho : e.firstOffender? = some o) :
    readExpression text = .error (.expression text (.offender o)) := by
  have hchain := Nat.not_lt.2 h.chain
  have hlevels := Nat.not_lt.2 h.levels
  simp [readExpression, h.noNull, h.parsed, hchain, hlevels, ho]

theorem Parses.read_clean (hnone : e.firstOffender? = none) :
    readExpression text = ((preparationError? text e).map .error).getD (.ok e) := by
  have hchain := Nat.not_lt.2 h.chain
  have hlevels := Nat.not_lt.2 h.levels
  cases hprep : preparationError? text e <;>
    simp [readExpression, h.noNull, h.parsed, hchain, hlevels, hnone, hprep]

/-- A refusal is all that happens, whatever the context. -/
theorem Parses.evaluate_refused {o : Offender} (ho : e.firstOffender? = some o)
    (builtins : List Builtin) (bindings : List (String × Value)) :
    evaluate builtins text bindings = throw (.expression text (.offender o)) := by
  rw [evaluate, h.read_offender ho]

/-- Without an offender nothing is refused. -/
theorem Parses.not_isRefusal (hnone : e.firstOffender? = none) (builtins : List Builtin)
    (bindings : List (String × Value)) (st : Store) {error : Error}
    (herror : (evaluate builtins text bindings st).1 = .error error) : ¬ error.IsRefusal := by
  rw [evaluate, h.read_clean hnone] at herror
  cases hprep : preparationError? text e with
  | some problem =>
    rw [hprep] at herror
    cases herror
    exact not_isRefusal_of_preparationError hprep
  | none =>
    rw [hprep] at herror
    obtain ⟨f, hfresh, hf⟩ | ⟨own, t, -, hrun⟩ := run_bind_cases (Prod.ext herror rfl)
    · cases hf
      have hwell := Eval.lawful_failsWell.freshBindings bindings st error
      exact (hwell (congrArg Prod.fst hfresh)).not_isRefusal
    · have hwell := (Eval.lawful_failsWell.interp Eval.steps).eval e
        (Scope.ofValues own ++ builtinScope builtins own e.names) { t with depth := 0 }
      dsimp only [Eval.standard] at hrun
      split at hrun
      · cases hrun
      · rename_i f u heval
        rw [heval] at hwell
        cases hrun
        exact (hwell f rfl).reported_not_isRefusal text

end Reading

end ContentIndex
