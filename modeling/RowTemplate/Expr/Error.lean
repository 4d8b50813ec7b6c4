import RowTemplate.Expr.Token
import RowTemplate.Moment.Pattern

/-! # Faults of evaluation

The causes for which an expression has no value. A lookup failure is a name, a
property or a function that is not there; where a missing name counts as null
it is not an error.
-/

namespace RowTemplate

/-- Why an expression has no value. -/
inductive EvalError
  /-- A name that nothing is bound to. -/
  | undefined (name : String)
  /-- A property of null. -/
  | nullAccess (property : String)
  /-- A bound name used as a function. -/
  | notFunction (name : String)
  /-- A method that values of the type do not have. -/
  | noMethod (typeName method : String)
  | syntaxError (e : SyntaxError)
  | missingPattern
  | datePattern (pattern : String) (fault : Moment.PatternFault)
  | divisionByZero
  | overflow

namespace EvalError

/-- Something that the expression refers to is not there. -/
def isLookupFailure : EvalError → Bool
  | .undefined _ => true
  | .nullAccess _ => true
  | .notFunction _ => true
  | .noMethod .. => true
  | _ => false

/-- The wording of a fault. -/
def message : EvalError → String
  | .undefined name => s!"ReferenceError: \"{name}\" is not defined"
  | .nullAccess property => s!"TypeError: cannot read property \"{property}\" of null"
  | .notFunction name => s!"TypeError: {name} is not a function"
  | .noMethod typeName method => s!"TypeError: {typeName}.{method} is not a function"
  | .syntaxError e => "SyntaxError: " ++ e.message
  | .missingPattern => "date() requires a pattern"
  | .datePattern pattern fault => fault.message pattern
  | .divisionByZero => "division by zero"
  | .overflow => "integer overflow"

end EvalError

end RowTemplate
