import RowTemplate.Json.Reader
import RowTemplate.Row.Csv

/-! # Sources of rows

Rows come from a table, or from a JSON document that is one object or an array
of objects.
-/

namespace RowTemplate

/-- Why a source gives no rows. -/
inductive RowError
  | csv
  | json
  | notObject (index : Nat) (found : String)

/-- The wording of a fault that has one. -/
def RowError.message? : RowError → Option String
  | .csv => none
  | .json => none
  | .notObject index found =>
    some ("row " ++ toString index ++ " is not a JSON object: " ++ found)

/-- The rows of a table. -/
def readTable (bytes : List UInt8) : Except RowError (List Row) :=
  match Csv.rows? bytes with
  | some rows => .ok rows
  | none => .error .csv

/-- The rows of documents, counted from `index`. -/
def objectRows (index : Nat) : List Json → Except RowError (List Row)
  | [] => .ok []
  | .object fields :: rest => (objectRows (index + 1) rest).map (.object fields :: ·)
  | j :: _ => .error (.notObject index j.text)

/-- The rows of a JSON text. -/
def readObjects (text : String) : Except RowError (List Row) :=
  match Json.read? text with
  | none => .error .json
  | some (.array items) => objectRows 0 items
  | some j => objectRows 0 [j]

end RowTemplate
