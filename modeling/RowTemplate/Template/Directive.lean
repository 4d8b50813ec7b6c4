import RowTemplate.Template.Span

/-! # Directives

A key that is one span can be a directive: a loop over an expression or over
column names, a branch of a condition, the definition of a variable, or an
error. A key has at most one of these forms, which begin with different words.
-/

namespace RowTemplate

open Text (isBlank isLetter isWord trim trimLeft trimRight)

/-- Where a loop takes its values from. -/
inductive LoopSource
  | expression (e : String)
  | columns (pattern : String)
deriving DecidableEq

/-- A link of a chain of conditions. -/
inductive Branch
  | ifTrue (e : String)
  | elseIf (e : String)
  | otherwise
deriving DecidableEq

/-- What a directive key asks for. -/
inductive Directive
  | loop (var : String) (source : LoopSource)
  | branch (b : Branch)
  | var (name : String)
  | error (text : Option String)
deriving DecidableEq

namespace Directive

/-- What follows a word at the beginning of a text. -/
def afterWord? (word : List Char) (s : List Char) : Option (List Char) :=
  if word.isPrefixOf s then some (s.drop word.length) else none

/-- What follows at least one blank. -/
def afterBlanks? : List Char → Option (List Char)
  | [] => none
  | c :: s => if isBlank c then some (trimLeft s) else none

/-- The character begins the name of a variable. -/
def beginsVariable (c : Char) : Bool := isLetter c || c = '_'

/-- The name of a variable, and what follows it. -/
def varName? : List Char → Option (List Char × List Char)
  | [] => none
  | c :: s =>
    if beginsVariable c then some (c :: s.takeWhile isWord, s.dropWhile isWord) else none

/-- What follows a colon after optional blanks. -/
def afterColon? (s : List Char) : Option (List Char) :=
  match trimLeft s with
  | ':' :: s => some s
  | _ => none

/-- The name of a variable and what follows the colon behind it. -/
def named? (s : List Char) : Option (List Char × List Char) := do
  let (name, s) ← varName? s
  let s ← afterColon? s
  return (name, s)

/-- A variable with the columns that it runs over. -/
def columnLoop? (s : List Char) : Option Directive := do
  let s ← afterBlanks? (← afterWord? "column".toList s)
  let (name, pattern) ← named? s
  return .loop (String.ofList name) (.columns (String.ofList (trim pattern)))

/-- A loop. -/
def loop? (body : List Char) : Option Directive := do
  let s ← afterBlanks? (← afterWord? "for".toList body)
  match columnLoop? s with
  | some d => return d
  | none =>
    let (name, e) ← named? s
    return .loop (String.ofList name) (.expression (String.ofList e))

/-- The condition behind the word `if`: after a colon, before which a comment may stand that
begins with a blank. -/
def condition? (s : List Char) : Option (List Char) :=
  match s with
  | ':' :: e => some e
  | c :: s =>
    if isBlank c then
      match s.dropWhile (· ≠ ':') with
      | _ :: e => some e
      | [] => none
    else none
  | [] => none

/-- The word `else` alone, or with a blank and anything behind it. -/
def isElse (body : List Char) : Bool :=
  match afterWord? "else".toList body with
  | some [] => true
  | some (c :: _) => isBlank c
  | none => false

/-- A branch behind `else` and blanks. -/
def elseIf? (body : List Char) : Option (List Char) := do
  let s ← afterBlanks? (← afterWord? "else".toList body)
  condition? (← afterWord? "if".toList s)

/-- A branch of a condition. -/
def branch? (body : List Char) : Option Directive :=
  match elseIf? body with
  | some e => some (.branch (.elseIf (String.ofList e)))
  | none =>
    match (afterWord? "if".toList body).bind condition? with
    | some e => some (.branch (.ifTrue (String.ofList e)))
    | none => if isElse body then some (.branch .otherwise) else none

/-- The definition of a variable. -/
def var? (body : List Char) : Option Directive := do
  let s ← afterBlanks? (← afterWord? "var".toList body)
  let (name, s) ← varName? s
  guard (trimLeft s).isEmpty
  return .var (String.ofList name)

/-- An error, with the text behind the word if there is one. -/
def error? (body : List Char) : Option Directive := do
  let s ← afterWord? "error".toList body
  match s with
  | [] => return .error none
  | c :: s =>
    guard (isBlank c)
    match trim s with
    | [] => return .error none
    | text => return .error (some (String.ofList text))

/-- The directive that a key is. -/
def ofKey? (key : String) : Option Directive := do
  let body ← singleton? key.toList
  (((loop? body).or (branch? body)).or (var? body)).or (error? body)

end Directive

end RowTemplate
