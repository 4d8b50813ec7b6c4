import RowTemplate.Json.Basic
import RowTemplate.Number.Layout

/-! # The compact text of a document

No blanks between tokens, fields in their own order, and only the escapes that
a JSON string needs.
-/

namespace RowTemplate.Json

open RowTemplate.Number (integerText Layout)

/-- A hexadecimal digit, a small letter from ten on. -/
def hexDigit (d : Nat) : Char := Char.ofNat (if d < 10 then 48 + d else 87 + d)

/-- A character inside a JSON string. -/
def escapeChar (c : Char) : List Char :=
  match c with
  | '"' => ['\\', '"']
  | '\\' => ['\\', '\\']
  | '\x08' => ['\\', 'b']
  | '\x0c' => ['\\', 'f']
  | '\n' => ['\\', 'n']
  | '\r' => ['\\', 'r']
  | '\t' => ['\\', 't']
  | c =>
    if c.toNat < 32 then
      ['\\', 'u', '0', '0', hexDigit (c.toNat / 16), hexDigit (c.toNat % 16)]
    else [c]

/-- A JSON string with its quotes. -/
def writeString (s : String) : List Char :=
  '"' :: s.toList.flatMap escapeChar ++ ['"']

/-- A number: an integer in full, any other number with the fewest digits that read back. -/
def writeNumber : JsonNumber → List Char
  | .integer z _ => integerText z
  | .real x _ => Layout.json.writeFloat x

/-- What stands between the items of a list. -/
def separator {α : Type} : List α → List Char
  | [] => []
  | _ :: _ => [',']

mutual

/-- The characters of a document. -/
def chars : Json → List Char
  | .null => ['n', 'u', 'l', 'l']
  | .bool true => ['t', 'r', 'u', 'e']
  | .bool false => ['f', 'a', 'l', 's', 'e']
  | .number n => writeNumber n
  | .string s => writeString s
  | .array items => '[' :: itemChars items ++ [']']
  | .object fields => '{' :: fieldChars fields ++ ['}']

/-- The items of an array with the commas between them. -/
def itemChars : List Json → List Char
  | [] => []
  | item :: rest => chars item ++ separator rest ++ itemChars rest

/-- The fields of an object with the commas between them. -/
def fieldChars : List (String × Json) → List Char
  | [] => []
  | (name, value) :: rest =>
    writeString name ++ ':' :: chars value ++ separator rest ++ fieldChars rest

end

/-- The compact text of a document. -/
def text (j : Json) : String := String.ofList (chars j)

end RowTemplate.Json
