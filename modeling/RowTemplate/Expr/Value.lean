import RowTemplate.Json.Writer
import RowTemplate.Number.Reading
import RowTemplate.Text.Blank

/-! # Values of expressions

Integers of 64 bits and binary64 numbers are kept apart; both are numbers to
the language. Objects list their fields in ascending order of names.
-/

namespace RowTemplate

open Number

/-- A value of the expression language. -/
inductive Value
  | null
  | bool (b : Bool)
  | int (n : Int64)
  | float (x : Float)
  | string (s : String)
  | array (items : List Value)
  | object (fields : List (String × Value))
deriving Inhabited

namespace Value

/-- The absent value. -/
def isNull : Value → Bool
  | .null => true
  | _ => false

/-- The text of a string value. -/
def string? : Value → Option String
  | .string s => some s
  | _ => none

/-- The number that a value stands for: null is 0, a truth value 0 or 1, and a text what it
denotes between blanks, 0 when there is nothing. -/
def number? : Value → Option Float
  | .null => some 0
  | .bool b => some (if b then 1 else 0)
  | .int n => some (Float.ofInt n.toInt)
  | .float x => if x.isNaN then none else some x
  | .string s =>
    match Text.trim s.toList with
    | [] => some 0
    | t => readFloat? t
  | .array _ => none
  | .object _ => none

/-- The number that a value stands for, or no number. -/
def toFloat (v : Value) : Float := v.number?.getD (0 / 0)

/-- The value counts as true. -/
def isTruthy : Value → Bool
  | .null => false
  | .bool b => b
  | .int n => n ≠ 0
  | .float x => x != 0 && !x.isNaN
  | .string s => s ≠ ""
  | .array _ => true
  | .object _ => true

/-- A computed number: an integer where it has no fraction and is below `9e15`. -/
def ofFloat (x : Float) : Value :=
  if isIntegral x && x.abs < 9e15 then .int (toNearestWord x) else .float x

/-- The name of a value's type. -/
def typeName : Value → String
  | .null => "null"
  | .bool _ => "boolean"
  | .int _ => "number"
  | .float _ => "number"
  | .string _ => "string"
  | .array _ => "array"
  | .object _ => "object"

mutual

/-- The document of a value; infinities and no number become null. -/
def toJson : Value → Json
  | .null => .null
  | .bool b => .bool b
  | .int n => .ofWord n
  | .float x => (Json.ofFloat? x).getD .null
  | .string s => .string s
  | .array items => .array (itemsToJson items)
  | .object fields => .object (fieldsToJson fields)

/-- The documents of several values. -/
def itemsToJson : List Value → List Json
  | [] => []
  | v :: rest => toJson v :: itemsToJson rest

/-- The documents of the fields of an object. -/
def fieldsToJson : List (String × Value) → List (String × Json)
  | [] => []
  | (name, v) :: rest => (name, toJson v) :: fieldsToJson rest

end

/-- The value of a number in a document. -/
def ofJsonNumber : JsonNumber → Value
  | .integer z _ =>
    match word? z with
    | some n => .int n
    | none => .float (Float.ofInt z)
  | .real x _ => .float x

/-- An object with the given fields; the last field of a name counts. -/
def ofFields (fields : List (String × Value)) : Value :=
  .object (Table.ofList fields).entries

mutual

/-- The value of a document. -/
def ofJson : Json → Value
  | .null => .null
  | .bool b => .bool b
  | .number n => ofJsonNumber n
  | .string s => .string s
  | .array items => .array (itemsOfJson items)
  | .object fields => ofFields (fieldsOfJson fields)

/-- The values of several documents. -/
def itemsOfJson : List Json → List Value
  | [] => []
  | j :: rest => ofJson j :: itemsOfJson rest

/-- The values of the fields of an object. -/
def fieldsOfJson : List (String × Json) → List (String × Value)
  | [] => []
  | (name, j) :: rest => (name, ofJson j) :: fieldsOfJson rest

end

mutual

/-- The characters of a value's text: an array joins its items with commas, null items being
empty, and an object is its compact document. -/
def chars : Value → List Char
  | .null => ['n', 'u', 'l', 'l']
  | .bool true => ['t', 'r', 'u', 'e']
  | .bool false => ['f', 'a', 'l', 's', 'e']
  | .int n => integerText n.toInt
  | .float x => floatText x
  | .string s => s.toList
  | .array items => itemChars items
  | .object fields => Json.chars (.object (fieldsToJson fields))

/-- The items of an array with the commas between them. -/
def itemChars : List Value → List Char
  | [] => []
  | .null :: rest => Json.separator rest ++ itemChars rest
  | v :: rest => chars v ++ Json.separator rest ++ itemChars rest

end

/-- The text of a value, as in interpolation and concatenation. -/
def text (v : Value) : String := String.ofList v.chars

mutual

/-- The same constructor with the same contents; no number differs from itself. -/
def same : Value → Value → Bool
  | .null, .null => true
  | .bool a, .bool b => a == b
  | .int m, .int n => m == n
  | .float x, .float y => x == y
  | .string s, .string t => s == t
  | .array xs, .array ys => sameItems xs ys
  | .object xs, .object ys => sameFields xs ys
  | _, _ => false

/-- Lists of the same values. -/
def sameItems : List Value → List Value → Bool
  | [], [] => true
  | x :: xs, y :: ys => same x y && sameItems xs ys
  | _, _ => false

/-- Lists of the same fields. -/
def sameFields : List (String × Value) → List (String × Value) → Bool
  | [], [] => true
  | (a, x) :: xs, (b, y) :: ys => a == b && same x y && sameFields xs ys
  | _, _ => false

end

end Value

end RowTemplate
