import RowTemplate.Row.Basic

/-! # Tables with commas

Records end at a line feed, a carriage return or both, and blank lines hold
none. A field that begins with a quote goes on to the next single quote, two
quotes being one; what follows up to the comma still belongs to it. The end of
the input closes everything.
-/

namespace RowTemplate.Csv

/-- A field as it stands in the input. -/
abbrev Field := List UInt8

/-- Where in a record the next byte stands. -/
inductive Place
  | betweenRecords
  | fieldStart
  | plain
  | quoted
  | behindQuote
deriving DecidableEq

/-- What is read of a table: the current field, the fields of the current record and the
records, each in reverse. -/
structure Progress where
  place : Place
  field : Field
  fields : List Field
  records : List (List Field)

namespace Progress

/-- Nothing is read. -/
def start : Progress := ⟨.betweenRecords, [], [], []⟩

/-- Ends the current field. -/
def endField (p : Progress) : Progress :=
  { p with place := .fieldStart, field := [], fields := p.field.reverse :: p.fields }

/-- Ends the current record with its last field. -/
def endRecord (p : Progress) : Progress :=
  { place := .betweenRecords
    field := []
    fields := []
    records := (p.field.reverse :: p.fields).reverse :: p.records }

/-- Takes a byte into the current field. -/
def take (p : Progress) (place : Place) (b : UInt8) : Progress :=
  { p with place, field := b :: p.field }

/-- The byte of a quote. -/
def quote : UInt8 := 34

/-- The byte of a comma. -/
def comma : UInt8 := 44

/-- The byte ends a line. -/
def isLineEnd (b : UInt8) : Bool := b = 10 || b = 13

/-- A byte outside of quotes. -/
def stepPlain (p : Progress) (b : UInt8) : Progress :=
  if b = comma then p.endField
  else if isLineEnd b then p.endRecord
  else p.take .plain b

/-- A byte more. -/
def step (p : Progress) (b : UInt8) : Progress :=
  match p.place with
  | .betweenRecords =>
    if isLineEnd b then p
    else if b = quote then { p with place := .quoted }
    else p.stepPlain b
  | .fieldStart => if b = quote then { p with place := .quoted } else p.stepPlain b
  | .plain => p.stepPlain b
  | .quoted => if b = quote then { p with place := .behindQuote } else p.take .quoted b
  | .behindQuote => if b = quote then p.take .quoted b else p.stepPlain b

/-- The records at the end of the input. -/
def finish (p : Progress) : List (List Field) :=
  match p.place with
  | .betweenRecords => p.records.reverse
  | _ => p.endRecord.records.reverse

end Progress

/-- An input without the mark that it may begin with. -/
def withoutMark : List UInt8 → List UInt8
  | 0xEF :: 0xBB :: 0xBF :: bytes => bytes
  | bytes => bytes

/-- The records of an input. -/
def records (bytes : List UInt8) : List (List Field) :=
  ((withoutMark bytes).foldl Progress.step .start).finish

/-- The text of a field, if its bytes are one. -/
def fieldText? (field : Field) : Option String := String.fromUTF8? ⟨field.toArray⟩

/-- The cells of a record under the names of the head: missing where the record is too short,
cut where it is too long. -/
def cells : List String → List String → List (String × Option String)
  | [], _ => []
  | name :: names, [] => (name, none) :: cells names []
  | name :: names, field :: fields => (name, some field) :: cells names fields

/-- The rows of a table, whose first record is the head; every field must be a text. -/
def rows? (bytes : List UInt8) : Option (List Row) := do
  let texts ← (records bytes).mapM (·.mapM fieldText?)
  match texts with
  | [] => return []
  | head :: rest => return rest.map fun fields => .cells (cells head fields)

end RowTemplate.Csv
