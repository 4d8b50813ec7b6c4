import RowTemplate.Json.Basic
import RowTemplate.Number.Reading

/-! # Numbers in JSON text

An integer that fits a word keeps its value. Any other number is read in two
rounded steps: its leading digits, as many as fit 64 bits, become a binary64
number, which is then multiplied or divided by a power of ten.
-/

namespace RowTemplate.Json

open RowTemplate.Number (digitValue readInteger? withSign)
open RowTemplate.Text (isDigit)

/-- The leading digits of a number and the power of ten that goes with them. -/
structure Significand where
  value : Nat
  exponent : Int
  /-- Further digits are still taken up. -/
  isOpen : Bool

/-- The significand with one digit more, if it still fits 64 bits. -/
def Significand.extend? (s : Significand) (c : Char) : Option Nat :=
  let value := 10 * s.value + digitValue c
  if s.isOpen ∧ value < UInt64.size then some value else none

/-- A digit before the point: one that does not fit raises the exponent. -/
def Significand.whole (s : Significand) (c : Char) : Significand :=
  match s.extend? c with
  | some value => { s with value }
  | none => { s with exponent := s.exponent + 1, isOpen := false }

/-- A digit after the point: one that does not fit is dropped. -/
def Significand.fraction (s : Significand) (c : Char) : Significand :=
  match s.extend? c with
  | some value => { s with value, exponent := s.exponent - 1 }
  | none => { s with isOpen := false }

/-- A number times a power of ten, rounded at every step; absent when out of range. -/
def scaleByTen? (x : Float) (e : Int) : Option Float :=
  if e.natAbs ≤ 308 then
    let power := Float.ofScientific 1 false e.natAbs
    if 0 ≤ e then
      let y := x * power
      if y.isFinite then some y else none
    else some (x / power)
  else if x == 0 then some x
  else if 0 ≤ e then none
  else scaleByTen? (x / Float.ofScientific 1 false 308) (e + 308)
termination_by e.natAbs

/-- The fraction of a number and what follows it; a point needs a digit. -/
def splitFraction? : List Char → Option (List Char × List Char)
  | '.' :: s =>
    match s.takeWhile isDigit with
    | [] => none
    | digits => some (digits, s.dropWhile isDigit)
  | s => some ([], s)

/-- The exponent at the end of a number, and whether there is one. -/
def splitExponent? : List Char → Option (Option Int)
  | [] => some none
  | c :: s => if c = 'e' ∨ c = 'E' then (readInteger? s).map some else none

/-- At least one digit, and no zero in front of another. -/
def isWhole : List Char → Bool
  | [] => false
  | '0' :: _ :: _ => false
  | _ => true

/-- The number that a text without blanks denotes. -/
def readNumeral? (s : List Char) : Option Json := do
  let (negative, s) := match s with
    | '-' :: s => (true, s)
    | s => (false, s)
  let whole := s.takeWhile isDigit
  guard (isWhole whole)
  let (fraction, rest) ← splitFraction? (s.dropWhile isDigit)
  let exponent ← splitExponent? rest
  let significand := whole.foldl Significand.whole ⟨0, 0, true⟩
  let integral := fraction.isEmpty && exponent.isNone && significand.isOpen
  let z : Int := if negative then -significand.value else significand.value
  if h : integral ∧ ¬ (negative ∧ z = 0) ∧ Int64.minValue.toInt ≤ z ∧ z < UInt64.size then
    some (.number (.integer z h.2.2))
  else
    let significand := fraction.foldl Significand.fraction { significand with isOpen := true }
    let x ← scaleByTen? (Float.ofNat significand.value) (significand.exponent + exponent.getD 0)
    ofFloat? (withSign negative x)

end RowTemplate.Json
