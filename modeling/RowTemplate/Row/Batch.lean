import RowTemplate.Row.Basic
import RowTemplate.Template.Expand

/-! # Batches

A template is expanded once per row, in one context. The result of a row tells
where the row stands in the input and what came of it; a failed row does not
stop the batch.
-/

namespace RowTemplate

/-- What came of a row. -/
structure RowResult where
  line : Nat
  row : Row
  outcome : Except ExpandError (Option Json)

namespace RowResult

/-- The row did not fail. -/
def isSuccess (r : RowResult) : Bool :=
  match r.outcome with
  | .ok _ => true
  | .error _ => false

/-- The expanded document, unless the row failed or nothing is left of the template. -/
def expanded? (r : RowResult) : Option Json :=
  match r.outcome with
  | .ok node => node
  | .error _ => none

/-- The report of a failed row. -/
def failure? (r : RowResult) : Option Json :=
  match r.outcome with
  | .ok _ => none
  | .error e =>
    some <| .object
      [("line", .ofNat r.line), ("row", r.row.toJson), ("error", .string e.message)]

end RowResult

/-- The expansion of a template for one row. -/
def expandRow (template : Json) (row : Row) (ctx : Context) :
    Except ExpandError (Option Json) × Context :=
  (Template.expand template).run.run (ctx.loadRow row)

/-- The results of rows from a position of the input on, and the context behind them. -/
def expandRowsFrom (template : Json) (index : Nat) :
    List Row → Context → List RowResult × Context
  | [], ctx => ([], ctx)
  | row :: rest, ctx =>
    let (outcome, ctx) := expandRow template row ctx
    let (results, ctx) := expandRowsFrom template (index + 1) rest ctx
    (⟨row.lineNumber index, row, outcome⟩ :: results, ctx)

/-- The results of all rows, and the context behind them. -/
def expandRows (template : Json) (rows : List Row) (ctx : Context) :
    List RowResult × Context :=
  expandRowsFrom template 0 rows ctx

end RowTemplate
