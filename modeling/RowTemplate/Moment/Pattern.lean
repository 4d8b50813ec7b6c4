import RowTemplate.Moment.Basic
import RowTemplate.Text.Alphabet

/-! # Date patterns

A run of one pattern letter is a field, whose length selects width or style.
Text between single quotes is literal, two quotes are one quote, and any other
character that is not an ASCII letter stands for itself. A pattern is read into
its pieces first; whether it is well formed does not depend on the moment.
-/

namespace RowTemplate.Moment

open Number (padded)
open Text (isLetter)

/-- What a pattern letter asks for. -/
inductive Field
  | year
  | month
  | day
  | dayOfYear
  | hour
  | hourFrom1
  | hour12
  | hour12From0
  | minute
  | second
  | fraction
  | halfDay
  | weekday
  | zoneName
  | offsetOrZ
  | offset
  | zone
deriving DecidableEq

/-- The field of a pattern letter. -/
def Field.ofLetter? : Char → Option Field
  | 'y' | 'u' => some .year
  | 'M' | 'L' => some .month
  | 'd' => some .day
  | 'D' => some .dayOfYear
  | 'H' => some .hour
  | 'k' => some .hourFrom1
  | 'h' => some .hour12
  | 'K' => some .hour12From0
  | 'm' => some .minute
  | 's' => some .second
  | 'S' => some .fraction
  | 'a' => some .halfDay
  | 'E' => some .weekday
  | 'Z' => some .zoneName
  | 'X' => some .offsetOrZ
  | 'x' => some .offset
  | 'z' | 'V' | 'O' => some .zone
  | _ => none

/-- A piece of a pattern. -/
inductive Piece
  | literal (c : Char)
  | field (f : Field) (count : Nat)
deriving DecidableEq

/-- Why a pattern is refused. -/
inductive PatternFault
  | unterminated
  | unsupported (letter : Char)
deriving DecidableEq

/-- Puts a letter's field in front; `follows` says that the text goes on with that letter. -/
def addField (f : Field) (follows : Bool) : List Piece → List Piece
  | .field g count :: pieces =>
    if follows then .field f (count + 1) :: pieces else .field f 1 :: .field g count :: pieces
  | pieces => .field f 1 :: pieces

mutual

/-- The pieces of a pattern. -/
def readPattern : List Char → Except PatternFault (List Piece)
  | [] => .ok []
  | '\'' :: '\'' :: s => (readPattern s).map (.literal '\'' :: ·)
  | '\'' :: s => readQuoted s
  | c :: s =>
    if isLetter c then
      match Field.ofLetter? c with
      | none => .error (.unsupported c)
      | some f => (readPattern s).map (addField f (s.head? = some c))
    else (readPattern s).map (.literal c :: ·)

/-- The pieces of a pattern from inside a quoted literal on. -/
def readQuoted : List Char → Except PatternFault (List Piece)
  | [] => .error .unterminated
  | '\'' :: '\'' :: s => (readQuoted s).map (.literal '\'' :: ·)
  | '\'' :: s => readPattern s
  | c :: s => (readQuoted s).map (.literal c :: ·)

end

/-- An integer with at least `width` digits. -/
def signedText (width : Nat) (z : Int) : List Char :=
  (if z < 0 then ['-'] else []) ++ padded width z.natAbs

/-- The offset as in `+02`, `+0200` or `+02:00`; one letter drops zero minutes. -/
def offsetText (t : Moment) (count : Nat) : List Char :=
  let hours := padded 2 (t.offset.natAbs / 3600)
  let minutes := t.offset.natAbs % 3600 / 60
  if count = 1 ∧ minutes = 0 then t.offsetSign :: hours
  else if count = 1 ∨ count = 2 ∨ count = 4 then t.offsetSign :: hours ++ padded 2 minutes
  else t.offsetSign :: hours ++ ':' :: padded 2 minutes

/-- A name in the style that the length of a run selects. -/
def nameText (name : String) (count : Nat) : List Char :=
  if count ≤ 3 then name.toList.take 3
  else if count = 4 then name.toList
  else name.toList.take 1

/-- The digits of the fraction of a second, with zeros behind the ninth. -/
def nanoText (nano count : Nat) : List Char :=
  (padded 9 (nano % 1000000000)).take count ++ List.replicate (count - 9) '0'

/-- The text of a field. -/
def fieldText (t : Moment) (f : Field) (count : Nat) : List Char :=
  match f with
  | .year => if count = 2 then padded 2 (t.year % 100).toNat else signedText count t.year
  | .month =>
    if count ≤ 2 then padded count t.month else nameText (monthName t.month) count
  | .day => padded count t.day
  | .dayOfYear => padded count t.dayOfYear
  | .hour => padded count t.hour
  | .hourFrom1 => padded count (if t.hour = 0 then 24 else t.hour)
  | .hour12 => padded count t.hour12
  | .hour12From0 => padded count (t.hour % 12)
  | .minute => padded count t.minute
  | .second => padded count t.second
  | .fraction => nanoText t.nano count
  | .halfDay => if t.isAfternoon then ['P', 'M'] else ['A', 'M']
  | .weekday => nameText (weekdayName t.weekday) count
  | .zoneName =>
    if count ≤ 3 then offsetText t 2
    else if count = 4 then
      'G' :: 'M' :: 'T' :: (if t.offset = 0 then [] else offsetText t 3)
    else if t.offset = 0 then ['Z'] else offsetText t 3
  | .offsetOrZ => if t.offset = 0 then ['Z'] else offsetText t count
  | .offset => offsetText t count
  | .zone => t.zoneText

/-- The text of a piece. -/
def pieceText (t : Moment) : Piece → List Char
  | .literal c => [c]
  | .field f count => fieldText t f count

/-- The moment in the form that a pattern describes. -/
def format (t : Moment) (pattern : List Char) : Except PatternFault (List Char) :=
  (readPattern pattern).map (·.flatMap (pieceText t))

/-- The wording of a fault in a pattern. -/
def PatternFault.message (pattern : String) : PatternFault → String
  | .unterminated => s!"unterminated quote in date pattern \"{pattern}\""
  | .unsupported letter => s!"unsupported pattern letter '{letter}' in \"{pattern}\""

end RowTemplate.Moment
