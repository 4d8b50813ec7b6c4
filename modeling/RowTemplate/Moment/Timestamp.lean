import RowTemplate.Moment.Basic
import RowTemplate.Text.Blank

/-! # Timestamps

The text form of a moment, `2024-06-01T09:15:00+02:00`, and a reader that also
admits fields without leading zeros, blanks around them, and a space or a small
letter between date and time.
-/

namespace RowTemplate.Moment

open Number (padded ofDigits)
open Text (isBlank isDigit trimLeft)

/-- A year: four digits, with a sign where four digits do not do. -/
def yearText (year : Int) : List Char :=
  if 0 ≤ year ∧ year ≤ 9999 then padded 4 year.toNat
  else (if year < 0 then '-' else '+') :: padded 4 year.natAbs

/-- A fraction of a second with three, six or nine digits, none when it is zero. -/
def fractionText (nano : Nat) : List Char :=
  if nano = 0 then []
  else if nano % 1000000 = 0 then '.' :: padded 3 (nano / 1000000)
  else if nano % 1000 = 0 then '.' :: padded 6 (nano / 1000)
  else '.' :: padded 9 nano

/-- The timestamp of a moment; a leap second is second 60. -/
def timestamp (t : Moment) : String :=
  let leap := 1000000000 ≤ t.nano
  let second := if leap then t.second + 1 else t.second
  let nano := if leap then t.nano - 1000000000 else t.nano
  String.ofList <|
    yearText t.year ++ '-' :: padded 2 t.month ++ '-' :: padded 2 t.day ++
    'T' :: padded 2 t.hour ++ ':' :: padded 2 t.minute ++ ':' :: padded 2 second ++
    fractionText nano ++ t.zoneText

/-- At least one digit and at most `width`, and what follows them. -/
def readField? (width : Nat) (s : List Char) : Option (Nat × List Char) :=
  let digits := (s.take width).takeWhile isDigit
  if digits = [] then none else some (ofDigits digits, s.drop digits.length)

/-- A number after blanks. -/
def readNumber? (width : Nat) (s : List Char) : Option (Nat × List Char) :=
  readField? width (trimLeft s)

/-- A year after blanks; after a sign it may have any number of digits. -/
def readYear? (s : List Char) : Option (Int × List Char) :=
  match trimLeft s with
  | '-' :: s => (readField? s.length s).map fun (n, rest) => (-(n : Int), rest)
  | '+' :: s => (readField? s.length s).map fun (n, rest) => ((n : Int), rest)
  | s => (readField? 4 s).map fun (n, rest) => ((n : Int), rest)

/-- A given character after blanks. -/
def skip? (c : Char) (s : List Char) : Option (List Char) :=
  match trimLeft s with
  | d :: s => if d = c then some s else none
  | [] => none

/-- Nanoseconds after a point; digits after the ninth are dropped. -/
def readFraction? : List Char → Option (Nat × List Char)
  | '.' :: s =>
    let digits := s.takeWhile isDigit
    if digits = [] then none
    else
      let nine := digits.take 9
      some (ofDigits nine * Nat.pow 10 (9 - nine.length), s.drop digits.length)
  | s => some (0, s)

/-- Two digits. -/
def readTwo? : List Char → Option (Nat × List Char)
  | a :: b :: s => if isDigit a ∧ isDigit b then some (ofDigits [a, b], s) else none
  | _ => none

/-- Hours and minutes of an offset after its sign. -/
def readClock? (s : List Char) : Option (Int × List Char) := do
  let (hours, s) ← readTwo? s
  let (minutes, s) ← readTwo? (s.dropWhile fun c => c = ':' || isBlank c)
  guard (minutes < 60)
  return (((hours * 60 + minutes) * 60 : Nat), s)

/-- An offset after blanks: `Z`, `UTC` in any case, or a sign with hours and minutes. -/
def readOffset? (s : List Char) : Option (Int × List Char) :=
  match trimLeft s with
  | 'Z' :: s => some (0, s)
  | 'z' :: s => some (0, s)
  | '+' :: s => readClock? s
  | '-' :: s => (readClock? s).map fun (n, rest) => (-n, rest)
  | '−' :: s => (readClock? s).map fun (n, rest) => (-n, rest)
  | u :: t :: c :: s =>
    if (u = 'U' ∨ u = 'u') ∧ (t = 'T' ∨ t = 't') ∧ (c = 'C' ∨ c = 'c') then some (0, s) else none
  | _ => none

/-- The date and the time exist, and the offset is less than a day. -/
def IsValid (t : Moment) : Prop :=
  -262143 ≤ t.year ∧ t.year ≤ 262142 ∧ 1 ≤ t.month ∧ t.month ≤ 12 ∧
  1 ≤ t.day ∧ t.day ≤ monthLength t.year t.month ∧
  t.hour < 24 ∧ t.minute < 60 ∧ t.second < 60 ∧ t.offset.natAbs < 86400

instance (t : Moment) : Decidable t.IsValid := by unfold IsValid; infer_instance

/-- The moment that a timestamp denotes. -/
def readTimestamp? (text : String) : Option Moment := do
  let (year, s) ← readYear? text.toList
  let (month, s) ← readNumber? 2 (← skip? '-' s)
  let (day, s) ← readNumber? 2 (← skip? '-' s)
  let s ← match s with
    | c :: s => if c = 'T' ∨ c = 't' ∨ c = ' ' then some s else none
    | [] => none
  let (hour, s) ← readNumber? 2 s
  let (minute, s) ← readNumber? 2 (← skip? ':' s)
  let (second, s) ← readNumber? 2 (← skip? ':' s)
  let (fraction, s) ← readFraction? s
  let (offset, s) ← readOffset? s
  guard (trimLeft s).isEmpty
  let leap := second = 60
  let t : Moment :=
    { year, month, day, hour, minute, offset
      second := if leap then 59 else second
      nano := if leap then 1000000000 + fraction else fraction }
  if t.IsValid then some t else none

end RowTemplate.Moment
