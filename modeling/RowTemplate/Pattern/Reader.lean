import RowTemplate.Pattern.Class
import RowTemplate.Number.Digits

/-! # Reading patterns

A pattern is read from left to right with a stack of open groups. Flags hold
from where they stand to the end of their group. A text that is no pattern is
refused.
-/

namespace RowTemplate.Pattern

open Number (ofDigits)
open Text

/-- A group that is still open, with what stands before it. -/
structure OpenGroup where
  items : List (Option Regex)
  alternatives : List Regex
  flags : Flags
  index : Option Nat

/-- How far a pattern is read: the items of the current alternative, last first, where flags
leave a gap; the alternatives before it, last first; and the open groups. -/
structure Reader where
  items : List (Option Regex)
  alternatives : List Regex
  flags : Flags
  groups : List OpenGroup
  captures : Nat
  names : List (List Char)

namespace Reader

/-- Adds an item. -/
def add (r : Reader) (x : Regex) : Reader := { r with items := some x :: r.items }

/-- The sequence of the items of the current alternative. -/
def sequence (r : Reader) : Regex :=
  r.items.foldl (fun rest item => match item with
    | some x => .seq x rest
    | none => rest) .empty

/-- All alternatives that are read. -/
def whole (r : Reader) : Regex :=
  r.alternatives.foldl (fun rest x => .alt x rest) r.sequence

/-- A repetition of the last item, which must be there. -/
def repeatLast? (r : Reader) (least : Nat) (most : Option Nat) (greedy : Bool) : Option Reader :=
  match r.items with
  | some x :: items =>
    let x := x.times least most (greedy != r.flags.swapGreed)
    if x.size ≤ 300000 then some { r with items := some x :: items } else none
  | _ => none

/-- A repetition, lazy if a question mark follows. -/
def repetition? (r : Reader) (least : Nat) (most : Option Nat) :
    List Char → Option (Reader × List Char)
  | '?' :: s => (r.repeatLast? least most false).map (·, s)
  | s => (r.repeatLast? least most true).map (·, s)

/-- A count between blanks, below `2 ^ 32`. -/
def count? (s : List Char) : Option (Nat × List Char) := do
  let s := trimLeft s
  let digits := s.takeWhile isDigit
  guard (digits ≠ [] ∧ ofDigits digits < UInt32.size)
  return (ofDigits digits, trimLeft (s.dropWhile isDigit))

/-- A repetition with counts, after its opening brace. -/
def counted? (r : Reader) (s : List Char) : Option (Reader × List Char) := do
  let f := r.flags
  let (least, s) ← count? (f.skip s)
  match s with
  | '}' :: s => r.repetition? least (some least) (f.skip s)
  | ',' :: s =>
    match f.skip s with
    | '}' :: s => r.repetition? least none (f.skip s)
    | s =>
      let (most, s) ← count? s
      guard (least ≤ most)
      match s with
      | '}' :: s => r.repetition? least (some most) (f.skip s)
      | _ => none
  | _ => none

/-- Sets or clears a flag. -/
def setFlag? (f : Flags) (on : Bool) : Char → Option Flags
  | 'i' => some { f with ignoreCase := on }
  | 'm' => some { f with multiLine := on }
  | 's' => some { f with dotAll := on }
  | 'U' => some { f with swapGreed := on }
  | 'u' => some { f with unicode := on }
  | 'x' => some { f with verbose := on }
  | 'R' => some { f with crlf := on }
  | _ => none

/-- Flags up to a colon or a closing parenthesis, which is left. No flag occurs twice, and a
minus sign is followed by one. -/
def flags? (f : Flags) (seen : List Char) : List Char → Option (Flags × List Char)
  | [] => none
  | c :: s =>
    if c = ':' ∨ c = ')' then
      if seen.head? = some '-' then none else some (f, c :: s)
    else if c ∈ seen then none
    else if c = '-' then flags? f (c :: seen) s
    else
      match setFlag? f ('-' ∉ seen) c with
      | some f => flags? f (c :: seen) s
      | none => none

/-- Opens a group. -/
def openGroup (r : Reader) (index : Option Nat) (f : Flags) : Reader :=
  { r with
    items := []
    alternatives := []
    flags := f
    groups := ⟨r.items, r.alternatives, r.flags, index⟩ :: r.groups }

/-- Opens a group that captures. -/
def openCapture (r : Reader) : Reader :=
  { r.openGroup (some (r.captures + 1)) r.flags with captures := r.captures + 1 }

/-- The character can stand in the name of a group. -/
def inGroupName (c : Char) : Bool :=
  isAlphanumeric c || c = '_' || c = '.' || c = '[' || c = ']'

/-- A new name of a group up to its closing bracket. -/
def named? (r : Reader) (s : List Char) : Option (Reader × List Char) := do
  let name := s.takeWhile (· ≠ '>')
  let first ← name.head?
  guard ((isAlphabetic first || first = '_') && name.all inGroupName)
  guard !(r.names.contains name)
  match s.dropWhile (· ≠ '>') with
  | _ :: rest => return ({ r.openCapture with names := name :: r.names }, rest)
  | [] => none

/-- A group after its opening parenthesis. -/
def group? (r : Reader) (s : List Char) : Option (Reader × List Char) :=
  match r.flags.skip s with
  | '?' :: '=' :: _ => none
  | '?' :: '!' :: _ => none
  | '?' :: '<' :: '=' :: _ => none
  | '?' :: '<' :: '!' :: _ => none
  | '?' :: 'P' :: '<' :: s => r.named? s
  | '?' :: '<' :: s => r.named? s
  | '?' :: s => do
    let (f, rest) ← flags? r.flags [] s
    match rest with
    | ')' :: rest =>
      guard (s.head? ≠ some ')')
      return ({ r with flags := f, items := none :: r.items }, rest)
    | _ :: rest => return (r.openGroup none f, rest)
    | [] => none
  | s => some (r.openCapture, s)

/-- Closes the innermost group. -/
def close? (r : Reader) : Option Reader :=
  match r.groups with
  | [] => none
  | g :: groups =>
    let x := match g.index with
      | some index => .capture index r.whole
      | none => r.whole
    some
      { r with
        items := some x :: g.items
        alternatives := g.alternatives
        flags := g.flags
        groups }

/-- Reads what begins with a character. -/
def step? (r : Reader) (c : Char) (s : List Char) : Option (Reader × List Char) :=
  match c with
  | '(' => r.group? s
  | ')' => r.close?.map (·, s)
  | '|' => some ({ r with items := [], alternatives := r.sequence :: r.alternatives }, s)
  | '[' => (class? r.flags s).map fun (set, rest) => (r.add (.char set), rest)
  | '?' => r.repetition? 0 (some 1) s
  | '*' => r.repetition? 0 none s
  | '+' => r.repetition? 1 none s
  | '{' => r.counted? s
  | '.' => if r.flags.unicode then some (r.add (.char r.flags.dot), s) else none
  | '^' => some (r.add (.look r.flags.lineStart), s)
  | '$' => some (r.add (.look r.flags.lineEnd), s)
  | '\\' =>
    (escape? r.flags s).map fun (e, rest) =>
      match e with
      | .char c => (r.add (.char (r.flags.single c)), rest)
      | .set set => (r.add (.char set), rest)
      | .look holds => (r.add (.look holds), rest)
  | c => some (r.add (.char (r.flags.single c)), s)

/-- Reads to the end of a text; `fuel` bounds its characters. -/
def run? : Nat → Reader → List Char → Option Reader
  | 0, r, s => if (r.flags.skip s).isEmpty then some r else none
  | fuel + 1, r, s =>
    match r.flags.skip s with
    | [] => some r
    | c :: s =>
      match r.step? c s with
      | some (r, rest) => run? fuel r rest
      | none => none

end Reader

/-- The pattern that a text is. -/
def read? (s : List Char) : Option Regex :=
  match Reader.run? s.length ⟨[], [], {}, [], 0, []⟩ s with
  | some r => if r.groups.isEmpty ∧ r.whole.size ≤ 300000 then some r.whole else none
  | none => none

end RowTemplate.Pattern
