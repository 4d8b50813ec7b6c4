import RowTemplate.Number.Hexadecimal
import RowTemplate.Text.Search

/-! # Lines of a settings file

A line assigns a text to a key, begins a section, or holds nothing but a
comment. Texts stand between double quotes, with escapes, or between single
quotes, without.
-/

namespace RowTemplate.Settings

open Number (hexChar?)
open Text (isDigit isLetter)

/-- A line of a settings file. -/
inductive Line
  | empty
  | beginSection (name : String)
  | assign (key value : String)
deriving DecidableEq

/-- A space or a tab. -/
def isSpace (c : Char) : Bool := c = ' ' || c = '\t'

/-- The character may stand in a text or a comment. -/
def isAllowed (c : Char) : Bool := c = '\t' || (32 ≤ c.toNat && c.toNat ≠ 127)

/-- The character may stand in a key without quotes. -/
def isBare (c : Char) : Bool := isLetter c || isDigit c || c = '_' || c = '-'

/-- The character of an escape with one letter. -/
def escapeValue? : Char → Option Char
  | 'b' => some '\x08'
  | 't' => some '\t'
  | 'n' => some '\n'
  | 'f' => some '\x0c'
  | 'r' => some '\r'
  | '"' => some '"'
  | '\\' => some '\\'
  | _ => none

/-- A text with escapes from behind its opening quote, and what follows the closing one. -/
def escapedText? : List Char → Option (List Char × List Char)
  | [] => none
  | '"' :: s => some ([], s)
  | '\\' :: 'u' :: a :: b :: c :: d :: s => do
    let x ← hexChar? [a, b, c, d]
    let (t, rest) ← escapedText? s
    return (x :: t, rest)
  | '\\' :: 'U' :: a :: b :: c :: d :: e :: f :: g :: h :: s => do
    let x ← hexChar? [a, b, c, d, e, f, g, h]
    let (t, rest) ← escapedText? s
    return (x :: t, rest)
  | '\\' :: c :: s => do
    let x ← escapeValue? c
    let (t, rest) ← escapedText? s
    return (x :: t, rest)
  | c :: s => do
    guard (isAllowed c)
    let (t, rest) ← escapedText? s
    return (c :: t, rest)

/-- A text without escapes from behind its opening quote, and what follows the closing one. -/
def literalText? : List Char → Option (List Char × List Char)
  | [] => none
  | '\'' :: s => some ([], s)
  | c :: s => do
    guard (isAllowed c)
    let (t, rest) ← literalText? s
    return (c :: t, rest)

/-- A text between quotes, and what follows it. -/
def text? : List Char → Option (List Char × List Char)
  | '"' :: s => escapedText? s
  | '\'' :: s => literalText? s
  | _ => none

/-- A key, and what follows it. -/
def key? (s : List Char) : Option (List Char × List Char) :=
  match s.takeWhile isBare with
  | [] => text? s
  | key => some (key, s.dropWhile isBare)

/-- The text is blank up to a comment. -/
def isComment (s : List Char) : Bool :=
  match s.dropWhile isSpace with
  | [] => true
  | c :: s => c = '#' && s.all isAllowed

/-- What follows a character after spaces. -/
def behind? (c : Char) (s : List Char) : Option (List Char) :=
  match s.dropWhile isSpace with
  | d :: s => if d = c then some (s.dropWhile isSpace) else none
  | [] => none

/-- The name of a section behind its opening bracket. -/
def section? (s : List Char) : Option Line := do
  let (name, s) ← key? (s.dropWhile isSpace)
  let s ← behind? ']' s
  if isComment s then some (.beginSection (String.ofList name)) else none

/-- The assignment of a text to a key. -/
def assignment? (s : List Char) : Option Line := do
  let (key, s) ← key? s
  let (value, s) ← text? (← behind? '=' s)
  if isComment s then some (.assign (String.ofList key) (String.ofList value)) else none

/-- The line that a text is. -/
def Line.ofChars? (s : List Char) : Option Line :=
  if isComment s then some .empty
  else
    match s.dropWhile isSpace with
    | '[' :: s => section? s
    | s => assignment? s

/-- The lines of a file without the carriage returns at their ends. -/
def lines (s : List Char) : List (List Char) :=
  let withoutReturn (line : List Char) : List Char :=
    if line.getLast? = some '\r' then line.dropLast else line
  let parts := Text.splitOn '\n' [] s
  parts.dropLast.map withoutReturn ++ parts.getLast?.toList

end RowTemplate.Settings
