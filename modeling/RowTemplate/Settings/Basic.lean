import RowTemplate.Moment.Timestamp
import RowTemplate.Table

/-! # Settings

The choices that a run begins with: what stands for a value that is no integer,
a fixed moment, and names that are bound for all rows.
-/

namespace RowTemplate

/-- What stands for a value that is no integer where one is wanted. -/
inductive IntFallback
  | zero
  | error
deriving DecidableEq

/-- The choices that a run begins with. -/
structure Settings where
  fallback : IntFallback := .zero
  timestamp : Option Moment := none
  reserved : Table String := .empty

/-- The fallback of a name. -/
def IntFallback.ofName? : String → Option IntFallback
  | "zero" => some .zero
  | "error" => some .error
  | _ => none

/-- The name of a fallback. -/
def IntFallback.name : IntFallback → String
  | .zero => "zero"
  | .error => "error"

theorem IntFallback.ofName?_name (f : IntFallback) : ofName? f.name = some f := by
  cases f <;> rfl

end RowTemplate
