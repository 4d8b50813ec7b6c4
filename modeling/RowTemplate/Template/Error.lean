import RowTemplate.Expr.Error

/-! # Failures of an expansion

The causes that end the expansion of a template for one row.
-/

namespace RowTemplate

/-- Why a template has no expansion. -/
inductive ExpandError
  | orphanElseIf
  | orphanElse
  | columnPattern (pattern : String)
  | notNested (key : String)
  | evaluation (expression : String) (cause : EvalError)
  | user (text : String)
  | notInteger (expression value : String)

/-- The wording of a failure. -/
def ExpandError.message : ExpandError → String
  | .orphanElseIf => "invalid template directive: $\x7bif\x7d required before $\x7belse if\x7d"
  | .orphanElse => "invalid template directive: $\x7bif\x7d required before $\x7belse\x7d"
  | .columnPattern pattern =>
    "invalid template directive: invalid column pattern \"" ++ pattern ++ "\""
  | .notNested key =>
    "invalid template directive: \"" ++ key ++
      "\" must contain a nested object when used as an object key"
  | .evaluation expression cause =>
    "error evaluating \"" ++ expression ++ "\": " ++ cause.message
  | .user text => text
  | .notInteger expression value =>
    "cannot convert \"" ++ value ++ "\" to an integer (from \"" ++ expression ++ "\")"

end RowTemplate
