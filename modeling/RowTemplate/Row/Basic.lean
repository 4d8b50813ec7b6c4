import RowTemplate.Context.Basic

/-! # Rows

One unit of input: the cells of a line of a table, of which some may be
missing, or an object. A row binds its fields, and all of them together as
`column` or `data`.
-/

namespace RowTemplate

/-- A row of input. -/
inductive Row
  | cells (cells : List (String × Option String))
  | object (fields : List (String × Json))

namespace Row

/-- A cell in a document; a missing one is null. -/
def cellJson : Option String → Json
  | some s => .string s
  | none => .null

/-- The row as a document. -/
def toJson : Row → Json
  | .cells cs => .object (putFields [] (cs.map fun (name, cell) => (name, cellJson cell)))
  | .object fields => .object fields

/-- The line of the row at a position of the input; the head of a table is line 1. -/
def lineNumber (row : Row) (index : Nat) : Nat :=
  match row with
  | .cells _ => index + 2
  | .object _ => index + 1

/-- The cells that are not missing. -/
def present (cs : List (String × Option String)) : List (String × String) :=
  cs.filterMap fun (name, cell) => cell.map fun s => (name, s)

end Row

namespace Bindings

/-- Binds and lists several names. -/
def defineAll (b : Bindings) (entries : List (String × Value)) : Bindings :=
  entries.foldl (fun b p => b.define p.1 p.2) b

/-- The bindings of a row: the reserved ones, shadowed by the fields of the row. -/
def loadRow (b : Bindings) (row : Row) : Bindings :=
  let b := b.reset true
  match row with
  | .cells cells =>
    let entries := (Row.present cells).map fun (name, s) => (name, Value.string s)
    (b.defineAll entries).set "column" (.ofFields entries)
  | .object fields =>
    (b.defineAll (Value.fieldsOfJson fields)).set "data" (.ofJson (.object fields))

end Bindings

/-- The context with the bindings of a row. -/
def Context.loadRow (ctx : Context) (row : Row) : Context :=
  ctx.mapBindings (·.loadRow row)

end RowTemplate
