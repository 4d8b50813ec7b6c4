import RowTemplate.Text.Alphabet

/-! # Hexadecimal digits

Numbers and characters given by hexadecimal digits in either case.
-/

namespace RowTemplate.Number

open RowTemplate.Text (isDigit)

/-- The value of a hexadecimal digit. -/
def hexValue? (c : Char) : Option Nat :=
  if isDigit c then some (c.toNat - 48)
  else if 'a' ≤ c ∧ c ≤ 'f' then some (c.toNat - 87)
  else if 'A' ≤ c ∧ c ≤ 'F' then some (c.toNat - 55)
  else none

/-- The number that hexadecimal digits denote; no digits denote zero. -/
def readHex? (s : List Char) : Option Nat :=
  s.foldlM (fun n c => (hexValue? c).map (16 * n + ·)) 0

/-- The character whose number hexadecimal digits denote; a surrogate is none. -/
def hexChar? (s : List Char) : Option Char := do
  let n ← readHex? s
  if n.isValidChar then some (Char.ofNat n) else none

end RowTemplate.Number
