import RowTemplate.Text.Alphabet

/-! # Decimal digits

The decimal text of a natural number or an integer, and reading one back.
Writing uses no leading zero; reading accepts leading zeros and a plus sign.
-/

namespace RowTemplate.Number

open RowTemplate.Text (isDigit)

/-- The character of a digit below ten. -/
def digitChar (d : Nat) : Char := Char.ofNat (48 + d)

/-- The value of a digit character. -/
def digitValue (c : Char) : Nat := c.toNat - 48

/-- The decimal digits of a number, the most significant first. -/
def digits (n : Nat) : List Char :=
  if n < 10 then [digitChar n] else digits (n / 10) ++ [digitChar (n % 10)]
termination_by n

/-- The number that a sequence of digits denotes. -/
def ofDigits (s : List Char) : Nat := s.foldl (fun n c => 10 * n + digitValue c) 0

/-- The decimal text of an integer. -/
def integerText (z : Int) : List Char :=
  if z < 0 then '-' :: digits z.natAbs else digits z.natAbs

/-- The digits of `n` with zeros in front, at least `width` characters. -/
def padded (width n : Nat) : List Char :=
  let s := digits n
  List.replicate (width - s.length) '0' ++ s

/-- The number that a text of at least one digit and nothing else denotes. -/
def readNatural? (s : List Char) : Option Nat :=
  if s ≠ [] ∧ s.all isDigit then some (ofDigits s) else none

/-- The integer that digits after at most one sign denote. -/
def readInteger? : List Char → Option Int
  | '-' :: s => (readNatural? s).map (-Int.ofNat ·)
  | '+' :: s => (readNatural? s).map Int.ofNat
  | s => (readNatural? s).map Int.ofNat

/-- The index that digits after at most one plus sign denote, below `2 ^ 64`. -/
def readIndex? (s : List Char) : Option Nat :=
  let digits := match s with
    | '+' :: s => s
    | s => s
  (readNatural? digits).filter (· < UInt64.size)

end RowTemplate.Number
