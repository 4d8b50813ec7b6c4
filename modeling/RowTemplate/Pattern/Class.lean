import RowTemplate.Number.Hexadecimal
import RowTemplate.Pattern.Property
import RowTemplate.Pattern.Syntax

/-! # Escapes and character classes

What a backslash begins, and what stands between brackets. A class may hold
other classes and combine them by intersection, difference and symmetric
difference.
-/

namespace RowTemplate.Pattern

open Text

/-- Blanks and comments that a verbose pattern skips. -/
def skipComment : Bool → List Char → List Char
  | _, [] => []
  | true, c :: s => skipComment (c ≠ '\n') s
  | false, c :: s =>
    if isBlank c then skipComment false s
    else if c = '#' then skipComment true s
    else c :: s

/-- What the flags skip in front of a text. -/
def Flags.skip (f : Flags) (s : List Char) : List Char :=
  if f.verbose then skipComment false s else s

/-- What a backslash begins. -/
inductive Escape
  | char (c : Char)
  | set (members : CharSet)
  | look (holds : Look)

/-- A text up to a closing brace, without the blanks and comments that a verbose pattern skips. -/
def bracedFrom? (f : Flags) : Bool → List Char → Option (List Char × List Char)
  | _, [] => none
  | true, c :: s => bracedFrom? f (c ≠ '\n') s
  | false, c :: s =>
    if f.verbose && isBlank c then bracedFrom? f false s
    else if f.verbose && c = '#' then bracedFrom? f true s
    else if c = '}' then some ([], s)
    else (bracedFrom? f false s).map fun (inner, rest) => (c :: inner, rest)

/-- A text up to a closing brace. -/
def braced? (f : Flags) (s : List Char) : Option (List Char × List Char) := bracedFrom? f false s

/-- As many characters as `width` says. -/
def fixed? (f : Flags) : Nat → List Char → Option (List Char × List Char)
  | 0, s => some ([], s)
  | width + 1, s =>
    match f.skip s with
    | [] => none
    | c :: s => (fixed? f width s).map fun (inner, rest) => (c :: inner, rest)

/-- A number in braces, or of so many digits. Without Unicode a number of two digits is a byte,
which is a character only if it is ASCII. -/
def hexEscape? (f : Flags) (width : Nat) (s : List Char) : Option (Escape × List Char) :=
  match f.skip s with
  | '{' :: s => do
    let (inner, rest) ← braced? f s
    guard (inner ≠ [])
    let c ← Number.hexChar? inner
    return (.char c, rest)
  | s => do
    let (inner, rest) ← fixed? f width s
    let c ← Number.hexChar? inner
    guard (f.unicode || 2 < width || c.toNat < 128)
    return (.char c, rest)

/-- A set, or without Unicode only one whose members are ASCII. -/
def Flags.negate? (f : Flags) (set : CharSet) : Option CharSet :=
  if f.unicode then some fun c => !set c else none

/-- A set with all that differs from its members in case only if case does not matter, or what
is left out of it. -/
def Flags.foldNegate? (f : Flags) (negated : Bool) (set : CharSet) : Option CharSet :=
  if negated then f.negate? (f.fold set) else some (f.fold set)

/-- A property by its name or its letter, which only Unicode has. -/
def propertyEscape? (f : Flags) (negated : Bool) (s : List Char) : Option (Escape × List Char) := do
  guard f.unicode
  let (name, rest) ← match f.skip s with
    | '{' :: s => braced? f s
    | c :: s => some ([c], s)
    | [] => none
  let set ← f.foldNegate? negated (← property? name)
  return (.set set, rest)

/-- The condition of a word boundary with a name in braces. -/
def boundary? (f : Flags) (name : List Char) : Option Look :=
  match String.ofList name with
  | "start" => some fun a b => !f.isWordAt a && f.isWordAt b
  | "end" => some fun a b => f.isWordAt a && !f.isWordAt b
  | "start-half" => some fun a _ => !f.isWordAt a
  | "end-half" => some fun _ b => !f.isWordAt b
  | _ => none

/-- The character can stand in the name of a word boundary. -/
def inBoundaryName (c : Char) : Bool := isLetter c || c = '-'

/-- A word boundary, with a name or without. -/
def boundaryEscape? (f : Flags) (s : List Char) : Option (Escape × List Char) :=
  let plain : Look := fun a b => f.isWordAt a != f.isWordAt b
  match s with
  | ['{'] => none
  | '{' :: c :: s' =>
    if inBoundaryName c then
      match (c :: s').dropWhile inBoundaryName with
      | '}' :: rest =>
        (boundary? f ((c :: s').takeWhile inBoundaryName)).map fun h => (.look h, rest)
      | _ => none
    else some (.look plain, s)
  | s => some (.look plain, s)

/-- A punctuation mark that a backslash takes literally. -/
def isEscapable (c : Char) : Bool :=
  c.toNat < 128 && !isLetter c && !isDigit c && c ≠ '<' && c ≠ '>'

/-- What a backslash in front of a text begins. -/
def escape? (f : Flags) : List Char → Option (Escape × List Char)
  | [] => none
  | 'x' :: s => hexEscape? f 2 s
  | 'u' :: s => hexEscape? f 4 s
  | 'U' :: s => hexEscape? f 8 s
  | 'p' :: s => propertyEscape? f false s
  | 'P' :: s => propertyEscape? f true s
  | 'd' :: s => some (.set f.digit, s)
  | 's' :: s => some (.set f.blank, s)
  | 'w' :: s => some (.set f.word, s)
  | 'D' :: s => (f.negate? f.digit).map fun set => (.set set, s)
  | 'S' :: s => (f.negate? f.blank).map fun set => (.set set, s)
  | 'W' :: s => (f.negate? f.word).map fun set => (.set set, s)
  | 'a' :: s => some (.char '\x07', s)
  | 'f' :: s => some (.char '\x0c', s)
  | 't' :: s => some (.char '\t', s)
  | 'n' :: s => some (.char '\n', s)
  | 'r' :: s => some (.char '\r', s)
  | 'v' :: s => some (.char '\x0b', s)
  | 'A' :: s => some (.look fun a _ => a.isNone, s)
  | 'z' :: s => some (.look fun _ b => b.isNone, s)
  | 'b' :: s => boundaryEscape? f s
  | 'B' :: s => some (.look fun a b => f.isWordAt a == f.isWordAt b, s)
  | '<' :: s => some (.look fun a b => !f.isWordAt a && f.isWordAt b, s)
  | '>' :: s => some (.look fun a b => f.isWordAt a && !f.isWordAt b, s)
  | c :: s => if isEscapable c then some (.char c, s) else none

/-- The ASCII class of a name. -/
def asciiClass? (name : List Char) : Option CharSet :=
  match String.ofList name with
  | "alnum" => some fun c => isLetter c || isDigit c
  | "alpha" => some isLetter
  | "ascii" => some fun c => c.toNat < 128
  | "blank" => some fun c => c = ' ' || c = '\t'
  | "cntrl" => some fun c => c.toNat < 32 || c.toNat = 127
  | "digit" => some isDigit
  | "graph" => some fun c => '!' ≤ c && c ≤ '~'
  | "lower" => some fun c => 'a' ≤ c && c ≤ 'z'
  | "print" => some fun c => ' ' ≤ c && c ≤ '~'
  | "punct" => some fun c => '!' ≤ c && c ≤ '~' && !isLetter c && !isDigit c
  | "space" => some fun c => c = ' ' || ('\t' ≤ c && c ≤ '\r')
  | "upper" => some fun c => 'A' ≤ c && c ≤ 'Z'
  | "word" => some fun c => isLetter c || isDigit c || c = '_'
  | "xdigit" => some fun c => isDigit c || ('a' ≤ c && c ≤ 'f') || ('A' ≤ c && c ≤ 'F')
  | _ => none

/-- An ASCII class between `[:` and `:]`, after the bracket, and whether it is negated. -/
def bracketName? : List Char → Option (Bool × CharSet × List Char)
  | ':' :: s => do
    let (negated, s) := match s with
      | '^' :: s => (true, s)
      | s => (false, s)
    match s.dropWhile (· ≠ ':') with
    | ':' :: ']' :: rest =>
      let set ← asciiClass? (s.takeWhile (· ≠ ':'))
      return (negated, set, rest)
    | _ => none
  | _ => none

/-- An operation on two sets. -/
inductive SetOp
  | both
  | without
  | either

/-- The members of two sets combined. -/
def SetOp.apply (op : SetOp) (a b : CharSet) : CharSet :=
  match op with
  | .both => fun c => a c && b c
  | .without => fun c => a c && !b c
  | .either => fun c => a c != b c

/-- A class that is still open: what it holds so far, and what stands before its last operator. -/
structure OpenClass where
  negated : Bool
  members : CharSet
  pending : Option (SetOp × CharSet)

/-- What an open class holds, its operator included. -/
def OpenClass.total (f : Flags) (o : OpenClass) : CharSet :=
  match o.pending with
  | some (op, left) => op.apply (f.fold left) (f.fold o.members)
  | none => o.members

/-- The set of a class that closes. -/
def OpenClass.close? (f : Flags) (o : OpenClass) : Option CharSet :=
  f.foldNegate? o.negated (o.total f)

/-- A class with further members. -/
def OpenClass.add (o : OpenClass) (set : CharSet) : OpenClass :=
  { o with members := fun c => o.members c || set c }

/-- A class after an operator. -/
def OpenClass.operate (f : Flags) (op : SetOp) (o : OpenClass) : OpenClass :=
  { o with members := fun _ => false, pending := some (op, o.total f) }

/-- Hyphens at the beginning of a class. -/
def leadingHyphens (f : Flags) (o : OpenClass) : List Char → OpenClass × List Char
  | '-' :: s => (leadingHyphens f (o.add (· = '-')) s).map id f.skip
  | s => (o, s)

/-- A class that opens, after its bracket. -/
def openClass (f : Flags) (s : List Char) : OpenClass × List Char :=
  let (negated, s) := match f.skip s with
    | '^' :: s => (true, f.skip s)
    | s => (false, s)
  match leadingHyphens f ⟨negated, fun _ => false, none⟩ s with
  | (o, ']' :: s') =>
    if s.head? = some '-' then (o, ']' :: s') else (o.add (· = ']'), f.skip s')
  | (o, s) => (o, s)

/-- A member of a class, or the beginning of a range. Without Unicode characters are ASCII. -/
def classItem? (f : Flags) (s : List Char) : Option (Escape × List Char) := do
  let (item, rest) ← match s with
    | [] => none
    | '\\' :: s => escape? f s
    | c :: s => some (.char c, s)
  match item with
  | .char c => guard (f.unicode || c.toNat < 128)
  | _ => pure ()
  return (item, rest)

/-- A member of a class or a range of characters. -/
def classRange? (f : Flags) (s : List Char) : Option (CharSet × List Char) := do
  let (first, s) ← classItem? f s
  let s := f.skip s
  let alone : Option (CharSet × List Char) :=
    match first with
    | .char c => some ((· = c), s)
    | .set set => some (set, s)
    | .look _ => none
  match s with
  | '-' :: s' =>
    match f.skip s' with
    | [] => none
    | c :: s'' =>
      if c = ']' ∨ c = '-' then alone
      else
        match first, ← classItem? f (c :: s'') with
        | .char low, (.char high, rest) =>
          if low ≤ high then some (fun c => low ≤ c && c ≤ high, rest) else none
        | _, _ => none
  | [] => none
  | _ => alone

/-- The set of a class from inside its bracket on; `fuel` bounds the characters read. -/
def classBody? (f : Flags) : Nat → OpenClass → List OpenClass → List Char →
    Option (CharSet × List Char)
  | 0, _, _, _ => none
  | fuel + 1, o, outer, s =>
    match f.skip s with
    | [] => none
    | '[' :: s =>
      match bracketName? s with
      | some (negated, set, rest) =>
        match f.foldNegate? negated set with
        | some set => classBody? f fuel (o.add set) outer rest
        | none => none
      | none =>
        let (inner, rest) := openClass f s
        classBody? f fuel inner (o :: outer) rest
    | ']' :: s =>
      match o.close? f, outer with
      | none, _ => none
      | some set, [] => some (set, s)
      | some set, o' :: outer => classBody? f fuel (o'.add set) outer s
    | '&' :: '&' :: s => classBody? f fuel (o.operate f .both) outer s
    | '-' :: '-' :: s => classBody? f fuel (o.operate f .without) outer s
    | '~' :: '~' :: s => classBody? f fuel (o.operate f .either) outer s
    | s =>
      match classRange? f s with
      | some (set, rest) => classBody? f fuel (o.add set) outer rest
      | none => none

/-- The set of a class after its opening bracket. -/
def class? (f : Flags) (s : List Char) : Option (CharSet × List Char) :=
  let (o, rest) := openClass f s
  classBody? f (s.length + 1) o [] rest

end RowTemplate.Pattern
