import RowTemplate.Expr.ParseCache

/-! # Bindings

The names that expressions can see. Reserved ones come back when a row begins;
a row can only shadow them. The columns are the names of the row in order, and
behind them those of its variables.
-/

namespace RowTemplate

/-- Named values, those that survive a row, and the names of the row. -/
structure Bindings where
  values : Table Value
  reserved : Table Value
  columns : List String
  now : Moment

namespace Bindings

/-- No bindings. -/
def empty (now : Moment) : Bindings := ⟨.empty, .empty, [], now⟩

/-- The value of a name. -/
def get? (b : Bindings) (name : String) : Option Value := b.values.find? name

/-- Binds a name. -/
def set (b : Bindings) (name : String) (v : Value) : Bindings :=
  { b with values := b.values.insert name v }

/-- Binds a name for all rows. -/
def reserve (b : Bindings) (name : String) (v : Value) : Bindings :=
  { b with values := b.values.insert name v, reserved := b.reserved.insert name v }

/-- Adds a name to the columns unless it is one of them. -/
def addColumn (b : Bindings) (name : String) : Bindings :=
  if name ∈ b.columns then b else { b with columns := b.columns ++ [name] }

/-- Binds a name that is a column of the row. -/
def define (b : Bindings) (name : String) (v : Value) : Bindings :=
  (b.set name v).addColumn name

/-- The bindings before a row: the reserved ones, or none and nothing reserved. -/
def reset (b : Bindings) (keepReserved : Bool) : Bindings :=
  if keepReserved then { b with values := b.reserved, columns := [] }
  else { b with values := .empty, reserved := .empty, columns := [] }

/-- What expressions can see. -/
def scope (b : Bindings) : Scope :=
  ⟨b.get?, .object b.values.entries, b.now⟩

end Bindings

end RowTemplate
