import RowTemplate.Pattern.CharSet
import RowTemplate.Text.Blank
import RowTemplate.Text.Case

/-! # Patterns

The syntax trees of patterns. Flags and classes are resolved while a pattern is
read: a tree speaks of sets of characters and of conditions on the characters
around a place.
-/

namespace RowTemplate.Pattern

open Text

/-- A condition on the characters before and after a place; there is none at the ends. -/
abbrev Look := Option Char → Option Char → Bool

/-- A pattern. -/
inductive Regex
  | empty
  | char (set : CharSet)
  | look (holds : Look)
  | seq (first second : Regex)
  | alt (first second : Regex)
  | repeated (r : Regex) (least : Nat) (most : Option Nat) (greedy : Bool)
  | capture (index : Nat) (r : Regex)

namespace Regex

/-- The pattern can match without a character. -/
def canBeEmpty : Regex → Bool
  | .empty => true
  | .char _ => false
  | .look _ => true
  | .seq r s => r.canBeEmpty && s.canBeEmpty
  | .alt r s => r.canBeEmpty || s.canBeEmpty
  | .repeated r least _ _ => least = 0 || r.canBeEmpty
  | .capture _ r => r.canBeEmpty

/-- The pattern never takes a character. -/
def isAlwaysEmpty : Regex → Bool
  | .empty => true
  | .char _ => false
  | .look _ => true
  | .seq r s => r.isAlwaysEmpty && s.isAlwaysEmpty
  | .alt r s => r.isAlwaysEmpty && s.isAlwaysEmpty
  | .repeated r _ most _ => most = some 0 || r.isAlwaysEmpty
  | .capture _ r => r.isAlwaysEmpty

/-- The pattern holds a capture. -/
def hasCapture : Regex → Bool
  | .empty => false
  | .char _ => false
  | .look _ => false
  | .seq r s => r.hasCapture || s.hasCapture
  | .alt r s => r.hasCapture || s.hasCapture
  | .repeated r _ _ _ => r.hasCapture
  | .capture _ _ => true

/-- About how many steps the pattern has when repetitions are written out. -/
def size : Regex → Nat
  | .empty => 1
  | .char _ => 1
  | .look _ => 1
  | .seq r s => r.size + s.size
  | .alt r s => r.size + s.size + 1
  | .repeated r least most _ => (r.size + 1) * max 1 (max least (most.getD 1))
  | .capture _ r => r.size + 2

/-- A repetition. What never takes a character is repeated at most once, a repetition of no
times is empty, and one of exactly one time is the repeated pattern itself. -/
def times (r : Regex) (least : Nat) (most : Option Nat) (greedy : Bool) : Regex :=
  let least := if r.isAlwaysEmpty then min least 1 else least
  let most := if r.isAlwaysEmpty then some (min (most.getD 1) 1) else most
  if least = 0 ∧ most = some 0 then .empty
  else if least = 1 ∧ most = some 1 then r
  else .repeated r least most greedy

end Regex

/-- How characters of a pattern are understood. -/
structure Flags where
  ignoreCase : Bool := false
  multiLine : Bool := false
  dotAll : Bool := false
  swapGreed : Bool := false
  unicode : Bool := true
  verbose : Bool := false
  crlf : Bool := false

/-- An ASCII letter in the other case. -/
def otherCase (c : Char) : Char := if c.isUpper then c.toLower else c.toUpper

/-- The set with all that differs from its members in case only, if case does not matter. -/
def Flags.fold (f : Flags) (set : CharSet) : CharSet :=
  if f.ignoreCase then
    if f.unicode then fun c => (caseVariants c).any set else fun c => set c || set (otherCase c)
  else set

/-- The set of one character. -/
def Flags.single (f : Flags) (c : Char) : CharSet := f.fold (· = c)

/-- What a dot stands for. -/
def Flags.dot (f : Flags) : CharSet :=
  if f.dotAll then fun _ => true
  else if f.crlf then fun c => c ≠ '\n' && c ≠ '\r'
  else fun c => c ≠ '\n'

/-- A word character under the flags. -/
def Flags.word (f : Flags) : CharSet :=
  if f.unicode then isWord else fun c => isLetter c || isDigit c || c = '_'

/-- A digit under the flags. -/
def Flags.digit (f : Flags) : CharSet := if f.unicode then isDecimal else isDigit

/-- A blank under the flags. -/
def Flags.blank (f : Flags) : CharSet :=
  if f.unicode then isBlank else fun c => c = ' ' || ('\t' ≤ c && c ≤ '\r')

/-- The beginning of the text, or of a line. -/
def Flags.lineStart (f : Flags) : Look := fun before after =>
  match before with
  | none => true
  | some '\n' => f.multiLine
  | some '\r' => f.multiLine && f.crlf && after ≠ some '\n'
  | some _ => false

/-- The end of the text, or of a line. -/
def Flags.lineEnd (f : Flags) : Look := fun before after =>
  match after with
  | none => true
  | some '\n' => f.multiLine && !(f.crlf && before = some '\r')
  | some '\r' => f.multiLine && f.crlf
  | some _ => false

/-- There is a word character. -/
def Flags.isWordAt (f : Flags) : Option Char → Bool
  | none => false
  | some c => f.word c

end RowTemplate.Pattern
