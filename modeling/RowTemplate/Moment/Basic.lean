import RowTemplate.Number.Digits

/-! # Moments

A local date and time at a fixed distance from UTC, in the proleptic Gregorian
calendar. A leap second keeps second 59 and has a nanosecond of one billion or
more.
-/

namespace RowTemplate

/-- A local date and time with its offset from UTC in seconds. -/
structure Moment where
  year : Int
  month : Nat
  day : Nat
  hour : Nat
  minute : Nat
  second : Nat
  nano : Nat
  offset : Int
deriving DecidableEq

namespace Moment

/-- The year has a 29th of February. -/
def isLeapYear (year : Int) : Bool :=
  year % 4 = 0 && (year % 100 ≠ 0 || year % 400 = 0)

/-- The number of days of a month. -/
def monthLength (year : Int) : Nat → Nat
  | 2 => if isLeapYear year then 29 else 28
  | 4 | 6 | 9 | 11 => 30
  | _ => 31

/-- The days of the year before a month. -/
def daysBefore (year : Int) : Nat → Nat
  | 0 => 0
  | 1 => 0
  | month + 1 => daysBefore year month + monthLength year month

/-- The day of the year, counted from one. -/
def dayOfYear (t : Moment) : Nat := daysBefore t.year t.month + t.day

/-- The days since the last day of the year 0. -/
def dayNumber (t : Moment) : Int :=
  let y := t.year - 1
  365 * y + y / 4 - y / 100 + y / 400 + t.dayOfYear

/-- The day of the week, Monday being zero. -/
def weekday (t : Moment) : Nat := ((t.dayNumber - 1) % 7).toNat

/-- The full name of a month. -/
def monthName : Nat → String
  | 1 => "January"
  | 2 => "February"
  | 3 => "March"
  | 4 => "April"
  | 5 => "May"
  | 6 => "June"
  | 7 => "July"
  | 8 => "August"
  | 9 => "September"
  | 10 => "October"
  | 11 => "November"
  | _ => "December"

/-- The full name of a day of the week. -/
def weekdayName : Nat → String
  | 0 => "Monday"
  | 1 => "Tuesday"
  | 2 => "Wednesday"
  | 3 => "Thursday"
  | 4 => "Friday"
  | 5 => "Saturday"
  | _ => "Sunday"

/-- The hour of a clock with twelve hours, from one to twelve. -/
def hour12 (t : Moment) : Nat := if t.hour % 12 = 0 then 12 else t.hour % 12

/-- The time is noon or later. -/
def isAfternoon (t : Moment) : Bool := 12 ≤ t.hour

/-- The sign of an offset. -/
def offsetSign (t : Moment) : Char := if t.offset < 0 then '-' else '+'

open Number (padded)

/-- The offset rounded to whole minutes, as in `+02:00`. -/
def zoneText (t : Moment) : List Char :=
  let minutes := (t.offset.natAbs + 30) / 60
  t.offsetSign :: padded 2 (minutes / 60) ++ ':' :: padded 2 (minutes % 60)

end Moment

end RowTemplate
