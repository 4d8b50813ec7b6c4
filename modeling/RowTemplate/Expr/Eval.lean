import RowTemplate.Expr.Member
import RowTemplate.Expr.Grammar

/-! # Evaluation

The value of an expression in a scope. Operands are evaluated from left to
right, and the first fault is the fault of the whole. Among alternatives for
null, one that fails by a lookup counts as null.
-/

namespace RowTemplate

/-- What an expression can see: the bound names, all of them as an object, and the moment. -/
structure Scope where
  lookup : String → Option Value
  everything : Value
  now : Moment

/-- The moment in the form of a pattern, as a value. -/
def Scope.date (scope : Scope) (pattern : String) : Except EvalError Value :=
  match scope.now.format pattern.toList with
  | .ok s => .ok (.string (String.ofList s))
  | .error fault => .error (.datePattern pattern fault)

/-- The value of a function call. -/
def Scope.call (scope : Scope) (function : String) (args : List Value) :
    Except EvalError Value :=
  let first := args[0]?.getD .null
  match function with
  | "date" => if args.isEmpty then .error .missingPattern else scope.date first.text
  | "String" => .ok (.string (if args.isEmpty then "" else first.text))
  | "Number" => .ok (Value.numberOr (first.number?.map .ofFloat))
  | "parseInt" => .ok (Value.numberOr ((Value.leadingInteger? first.chars).map .int))
  | function =>
    if (scope.lookup function).isSome then .error (.notFunction function)
    else .error (.undefined function)

namespace Expr

mutual

/-- The value of an expression. -/
def eval (scope : Scope) : Expr → Except EvalError Value
  | .literal v => .ok v
  | .name n =>
    match scope.lookup n with
    | some v => .ok v
    | none => .error (.undefined n)
  | .everything => .ok scope.everything
  | .array items => do
    let vs ← evalItems scope items
    return .array vs
  | .object fields => do
    let vs ← evalFields scope fields
    return .ofFields vs
  | .member o p => do
    let v ← eval scope o
    let w ← eval scope p
    v.member w
  | .call function args => do
    let vs ← evalItems scope args
    scope.call function vs
  | .method o m args => do
    let v ← eval scope o
    let vs ← evalItems scope args
    v.callMethod m vs
  | .unary op operand => do
    let v ← eval scope operand
    v.unary op
  | .binary op left right => do
    let v ← eval scope left
    let w ← eval scope right
    v.binary op w
  | .logical op left right => do
    let v ← eval scope left
    if v.isTruthy = (op = .or) then return v else eval scope right
  | .ternary condition yes no => do
    let v ← eval scope condition
    if v.isTruthy then eval scope yes else eval scope no
  | .coalesce items => evalAlternatives scope items

/-- The values of several expressions. -/
def evalItems (scope : Scope) : List Expr → Except EvalError (List Value)
  | [] => .ok []
  | e :: rest => do
    let v ← eval scope e
    let vs ← evalItems scope rest
    return v :: vs

/-- The values of the fields of an object. -/
def evalFields (scope : Scope) : List (String × Expr) → Except EvalError (List (String × Value))
  | [] => .ok []
  | (key, e) :: rest => do
    let v ← eval scope e
    let vs ← evalFields scope rest
    return (key, v) :: vs

/-- The first value that is not null; null when there is none. -/
def evalAlternatives (scope : Scope) : List Expr → Except EvalError Value
  | [] => .ok .null
  | e :: rest =>
    match eval scope e with
    | .ok .null => evalAlternatives scope rest
    | .ok v => .ok v
    | .error fault =>
      if fault.isLookupFailure then evalAlternatives scope rest else .error fault

end

end Expr

end RowTemplate
