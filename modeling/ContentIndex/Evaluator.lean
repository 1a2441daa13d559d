import ContentIndex.Catalogue
import ContentIndex.Eval.Step
import ContentIndex.Expr.Nesting
import ContentIndex.Expr.Scoping
import ContentIndex.Source.Parser

/-!
# Evaluating expressions

An expression is read, checked and then evaluated with the variables of its context and the
built-in functions it may use, which a variable of the same name hides. Errors of the helpers keep
their kind; any other fault is reported with the expression.
-/

namespace ContentIndex

set_option autoImplicit false

namespace Eval

/-- A result with marks of its own and as it is now. -/
def settled (v : Value) : Eval Value := do
  current (← fresh v)

/-- Evaluation with a bounded number of nested steps. -/
def interp : Nat → Interp
  | 0 => ⟨fun _ _ => fault .tooDeep, fun _ _ _ => fault .tooDeep, fun _ => fault .tooDeep⟩
  | n + 1 =>
    ⟨fun e scope => do settled (← evalStep (interp n) e scope),
      fun f args keywords => do settled (← callStep (interp n) f args keywords),
      fun id => do
        match ← nextStep (interp n) id with
        | none => return none
        | some v => return some (← settled v)⟩

/-- More nested steps than the limit on calls leaves room for. -/
def steps : Nat := 100000000

def standard : Interp := interp steps

end Eval

/-- Words for constants, which no name may have as its normal form. -/
def constantNames : List String :=
  ["None", "True", "False"]

/-- What keeps an expression that breaks no access rule from being evaluated. -/
def preparationError? (text : String) (e : Expr) : Option Error :=
  if Expr.evaluatedLevels < e.toTree.depth then some (.fault .tooDeep)
  else
    match e.names.find? constantNames.contains with
    | some id =>
      some (.fault (.wrongValue ("identifier field can't represent '" ++ id ++ "' constant")))
    | none => if e.bindsWell then none else some (.expression text .malformed)

/-- A checked expression, or what is wrong with the text. -/
def readExpression (text : String) : Except Error Expr :=
  let unwrapped := Expr.unwrap text.toList
  if unwrapped.contains '\x00' then
    .error (.fault (.wrongValue "source code string cannot contain null bytes"))
  else
    match Source.parse? unwrapped with
    | none => .error (.expression text .malformed)
    | some e =>
      if Expr.chainLimit < e.chain then .error (.fault .outOfMemory)
      else if Expr.checkedLevels < e.toTree.depth then .error (.fault .tooDeep)
      else
        match e.firstOffender? with
        | some o => .error (.expression text (.offender o))
        | none =>
          match preparationError? text e with
          | some error => .error error
          | none => .ok e

/-- The variable that built-in functions come from, if it is set. -/
def builtinsVariable : String := "__builtins__"

/-- What a name stands for that is no variable: a built-in function, or what a dictionary or a
module in their place holds. -/
def builtinSlot? (builtins : List Builtin) (given : Option Value) (id : String) :
    Option (Slot Value) :=
  match given with
  | none => (builtins.find? fun b => b.name == id).map fun b => .value (.builtin b)
  | some (.dict entries _) => (Entries.findText? entries id).map .value
  | some (.module home) =>
    ((Catalogue.find? home).bind fun entry => entry.exports.lookup id).map .value
  | some v => some (.unusable ("'" ++ v.typeName ++ "' object is not subscriptable"))

/-- The names of an expression that are no variables, as far as they stand for anything. -/
def builtinScope (builtins : List Builtin) (bindings : List (String × Value)) (ids : List String) :
    Scope :=
  let given := bindings.lookup builtinsVariable
  ids.eraseDups.filterMap fun id =>
    (builtinSlot? builtins given id).map fun slot => (id, slot)

/-- Errors of the helpers as they are, and faults with the expression they come from. -/
def reportFault (text : String) : Error → Error
  | .fault f => .expression text (.failed f)
  | .json f => .json f
  | e => e

def evaluate (builtins : List Builtin) (text : String) (bindings : List (String × Value)) :
    Eval Value :=
  match readExpression text with
  | .error e => throw e
  | .ok e => do
    let bindings ← Eval.freshBindings bindings
    let scope := Scope.ofValues bindings ++ builtinScope builtins bindings e.names
    fun st =>
      match Eval.standard.eval e scope { st with depth := 0 } with
      | (.ok v, st) => (.ok v, st)
      | (.error err, st) => (.error (reportFault text err), st)

end ContentIndex
