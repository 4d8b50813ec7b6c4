import RowTemplate.Number.Binary

/-! # Reading decimal numbers

A decimal coefficient and exponent round to the nearest binary64 number, ties
to even. Free-form text admits a sign, a point at either end, an exponent, and
the names of infinity and of no number in any case.
-/

namespace RowTemplate.Number

open RowTemplate.Text (isDigit)

/-- `m * 10 ^ e` rounded to nearest; out of range it is infinite or zero. -/
def roundDecimal (m : Nat) (e : Int) : Float :=
  let top := e + (digits m).length
  if m = 0 ∨ top < -400 then 0
  else if 400 < top then 1 / 0
  else if 0 ≤ e then Float.ofScientific m false e.toNat
  else Float.ofScientific m true (-e).toNat

/-- A number with its sign. -/
def withSign (negative : Bool) (x : Float) : Float := if negative then -x else x

/-- An exponent after its letter, up to the end of the text. -/
def readExponent? : List Char → Option Int
  | [] => some 0
  | c :: s => if c = 'e' ∨ c = 'E' then readInteger? s else none

/-- An unsigned decimal with an optional point and an optional exponent. -/
def readUnsigned? (s : List Char) : Option Float :=
  let whole := s.takeWhile isDigit
  let rest := s.dropWhile isDigit
  let (fraction, rest) := match rest with
    | '.' :: rest => (rest.takeWhile isDigit, rest.dropWhile isDigit)
    | rest => ([], rest)
  if whole = [] ∧ fraction = [] then none
  else
    (readExponent? rest).map fun e =>
      roundDecimal (ofDigits (whole ++ fraction)) (e - fraction.length)

/-- ASCII capitals made small. -/
def lowerAscii (s : List Char) : List Char :=
  s.map fun c => if 'A' ≤ c ∧ c ≤ 'Z' then Char.ofNat (c.toNat + 32) else c

/-- A number or the name of one, after its sign. -/
def readMagnitude? (s : List Char) : Option Float :=
  let name := lowerAscii s
  if name = "inf".toList ∨ name = "infinity".toList then some (1 / 0)
  else if name = "nan".toList then some (0 / 0)
  else readUnsigned? s

/-- The number that a text denotes. -/
def readFloat? : List Char → Option Float
  | '-' :: s => (readMagnitude? s).map (-·)
  | '+' :: s => readMagnitude? s
  | s => readMagnitude? s

end RowTemplate.Number
