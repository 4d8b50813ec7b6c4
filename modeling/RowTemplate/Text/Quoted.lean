import RowTemplate.Text.Printable

/-! # Quoted texts

A text between double quotes, as error messages show string tokens. Quotes and
backslashes are escaped, and what has no visible form is written by number.
-/

namespace RowTemplate.Text

/-- The hexadecimal digits of a number. -/
def hexDigits (n : Nat) : List Char := Nat.toDigits 16 n

/-- A character inside a quoted text. -/
def quoteChar (c : Char) : List Char :=
  match c with
  | '\x00' => ['\\', '0']
  | '\t' => ['\\', 't']
  | '\n' => ['\\', 'n']
  | '\r' => ['\\', 'r']
  | '\\' => ['\\', '\\']
  | '"' => ['\\', '"']
  | c => if isVisible c then [c] else '\\' :: 'u' :: '{' :: hexDigits c.toNat ++ ['}']

/-- A text between double quotes. -/
def quoted (s : String) : String :=
  String.ofList ('"' :: s.toList.flatMap quoteChar ++ ['"'])

end RowTemplate.Text
