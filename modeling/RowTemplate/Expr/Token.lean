import RowTemplate.Number.Layout
import RowTemplate.Number.Reading
import RowTemplate.Text.Blank
import RowTemplate.Text.Quoted

/-! # Tokens of expressions

A text splits into tokens by taking the longest operator, number or name at
every place; blanks separate. Reading stops at the first character that begins
no token. Places are byte offsets into the UTF-8 form of the text.
-/

namespace RowTemplate

/-- An operator or a punctuation mark. -/
inductive Mark
  | plus
  | minus
  | star
  | slash
  | percent
  | eq
  | strictEq
  | ne
  | strictNe
  | lt
  | le
  | gt
  | ge
  | and
  | or
  | not
  | question
  | doubleQuestion
  | colon
  | dot
  | comma
  | openParen
  | closeParen
  | openBracket
  | closeBracket
  | openBrace
  | closeBrace
deriving DecidableEq

/-- A token of an expression. -/
inductive Token
  | name (n : String)
  | int (n : Int64)
  | float (x : Float)
  | string (s : String)
  | bool (b : Bool)
  | null
  | everything
  | mark (m : Mark)

/-- Why a text is not an expression. Where a token was not expected, it is given; there is none
at the end of the text. -/
inductive SyntaxProblem
  | loneEquals
  | loneAmpersand
  | loneBar
  | unclosedString
  | strayCharacter (c : Char)
  | missing (m : Mark) (found : Option Token)
  | notProperty (found : Option Token)
  | notKey (found : Option Token)
  | notOperand (found : Option Token)
  | trailing (found : Option Token)

/-- A syntax error: its place, its cause, and for a faulty token the text from there on. -/
structure SyntaxError where
  position : Nat
  problem : SyntaxProblem
  context : String

/-- The name of a mark in messages. -/
def Mark.label : Mark → String
  | .plus => "Plus"
  | .minus => "Minus"
  | .star => "Star"
  | .slash => "Slash"
  | .percent => "Percent"
  | .eq => "Eq"
  | .strictEq => "StrictEq"
  | .ne => "Ne"
  | .strictNe => "StrictNe"
  | .lt => "Lt"
  | .le => "Le"
  | .gt => "Gt"
  | .ge => "Ge"
  | .and => "And"
  | .or => "Or"
  | .not => "Not"
  | .question => "Question"
  | .doubleQuestion => "DoubleQuestion"
  | .colon => "Colon"
  | .dot => "Dot"
  | .comma => "Comma"
  | .openParen => "LParen"
  | .closeParen => "RParen"
  | .openBracket => "LBracket"
  | .closeBracket => "RBracket"
  | .openBrace => "LBrace"
  | .closeBrace => "RBrace"

/-- The form of a token in messages. -/
def Token.label : Token → String
  | .name n => "Ident(" ++ Text.quoted n ++ ")"
  | .int n => "Int(" ++ String.ofList (Number.integerText n.toInt) ++ ")"
  | .float x => "Float(" ++ String.ofList (Number.Layout.token.writeFloat x) ++ ")"
  | .string s => "String(" ++ Text.quoted s ++ ")"
  | .bool true => "Bool(true)"
  | .bool false => "Bool(false)"
  | .null => "Null"
  | .everything => "This"
  | .mark m => m.label

/-- The form of the token that was found, or of the end of the text. -/
def foundLabel : Option Token → String
  | some t => t.label
  | none => "Eof"

/-- The wording of a cause. -/
def SyntaxProblem.message : SyntaxProblem → String
  | .loneEquals => "expected '==' for equality comparison"
  | .loneAmpersand => "expected '&&'"
  | .loneBar => "expected '||'"
  | .unclosedString => "unclosed string literal"
  | .strayCharacter c => "unexpected character: '" ++ c.toString ++ "'"
  | .missing m found => "expected " ++ m.label ++ ", found " ++ foundLabel found
  | .notProperty found => "expected property name after '.', found " ++ foundLabel found
  | .notKey found => "expected object key, found " ++ foundLabel found
  | .notOperand found => "unexpected token, found " ++ foundLabel found
  | .trailing found => "unexpected token after expression, found " ++ foundLabel found

/-- The wording of a syntax error. -/
def SyntaxError.message (e : SyntaxError) : String :=
  "at position " ++ toString e.position ++ ": " ++ e.problem.message

/-- The number of bytes of a text. -/
def byteWidth : List Char → Nat
  | [] => 0
  | c :: s => c.utf8Size + byteWidth s

namespace Token

open Number (digitValue ofDigits readWord? roundDecimal)
open Text (isAlphabetic isAlphanumeric isBlank isDigit)

/-- The mark that a character is wherever it occurs. -/
def single? : Char → Option Mark
  | '+' => some .plus
  | '-' => some .minus
  | '*' => some .star
  | '/' => some .slash
  | '%' => some .percent
  | '.' => some .dot
  | ',' => some .comma
  | ':' => some .colon
  | '(' => some .openParen
  | ')' => some .closeParen
  | '[' => some .openBracket
  | ']' => some .closeBracket
  | '{' => some .openBrace
  | '}' => some .closeBrace
  | _ => none

/-- The character that a backslash and `c` denote. -/
def unescape : Char → Char
  | 'n' => '\n'
  | 't' => '\t'
  | 'r' => '\r'
  | '0' => '\x00'
  | c => c

/-- The contents of a string literal after its opening quote, and the number of characters up to
and with the closing one. -/
def stringBody? (quote : Char) : List Char → Option (List Char × Nat)
  | [] => none
  | '\\' :: c :: s => (stringBody? quote s).map fun (t, n) => (unescape c :: t, n + 2)
  | c :: s =>
    if c = quote then some ([], 1)
    else (stringBody? quote s).map fun (t, n) => (c :: t, n + 1)

/-- The digits after a decimal point; a point without a digit after it is no part of a number. -/
def fractionDigits : List Char → List Char
  | '.' :: s => s.takeWhile isDigit
  | _ => []

/-- The number with the given digits; an integer that is no word becomes a float. -/
def ofNumeral (whole fraction : List Char) : Token :=
  match fraction with
  | [] =>
    match readWord? whole with
    | some n => .int n
    | none => .float (roundDecimal (ofDigits whole) 0)
  | fraction => .float (roundDecimal (ofDigits (whole ++ fraction)) (-fraction.length))

/-- The character begins a name. -/
def beginsName (c : Char) : Bool := isAlphabetic c || c = '_' || c = '$'

/-- The character goes on a name. -/
def continuesName (c : Char) : Bool := isAlphanumeric c || c = '_' || c = '$'

/-- A keyword, or else a name. -/
def ofWord (w : String) : Token :=
  if w = "true" then .bool true
  else if w = "false" then .bool false
  else if w = "null" ∨ w = "undefined" then .null
  else if w = "this" then .everything
  else .name w

/-- The operator that begins with `c` and has more than one form, and the number of its further
characters. -/
def operator? (c : Char) (s : List Char) : Option (Except SyntaxProblem (Mark × Nat)) :=
  match c, s with
  | '?', '?' :: _ => some (.ok (.doubleQuestion, 1))
  | '?', _ => some (.ok (.question, 0))
  | '=', '=' :: '=' :: _ => some (.ok (.strictEq, 2))
  | '=', '=' :: _ => some (.ok (.eq, 1))
  | '=', _ => some (.error .loneEquals)
  | '!', '=' :: '=' :: _ => some (.ok (.strictNe, 2))
  | '!', '=' :: _ => some (.ok (.ne, 1))
  | '!', _ => some (.ok (.not, 0))
  | '<', '=' :: _ => some (.ok (.le, 1))
  | '<', _ => some (.ok (.lt, 0))
  | '>', '=' :: _ => some (.ok (.ge, 1))
  | '>', _ => some (.ok (.gt, 0))
  | '&', '&' :: _ => some (.ok (.and, 1))
  | '&', _ => some (.error .loneAmpersand)
  | '|', '|' :: _ => some (.ok (.or, 1))
  | '|', _ => some (.error .loneBar)
  | _, _ => none

/-- The token that begins with `c`, and how many of the characters `s` after it belong to it. -/
def first (c : Char) (s : List Char) : Except SyntaxProblem (Token × Nat) :=
  match single? c with
  | some m => .ok (.mark m, 0)
  | none =>
    match operator? c s with
    | some result => result.map fun (m, n) => (.mark m, n)
    | none =>
      if c = '\'' ∨ c = '"' then
        match stringBody? c s with
        | some (t, n) => .ok (.string (String.ofList t), n)
        | none => .error .unclosedString
      else if isDigit c then
        let whole := s.takeWhile isDigit
        let fraction := fractionDigits (s.dropWhile isDigit)
        let point := if fraction = [] then 0 else 1
        .ok (ofNumeral (c :: whole) fraction, whole.length + point + fraction.length)
      else if beginsName c then
        let more := s.takeWhile continuesName
        .ok (ofWord (String.ofList (c :: more)), more.length)
      else .error (.strayCharacter c)

end Token

/-- A token and the place just behind it. -/
structure Lexeme where
  token : Token
  stop : Nat

/-- How the tokens of a text end: with the text, or at a faulty token. -/
inductive Ending
  | finished (stop : Nat)
  | fault (e : SyntaxError)

/-- The tokens of a text up to its end or to the first faulty one. -/
structure Lexed where
  lexemes : List Lexeme
  ending : Ending

/-- The tokens of the text `s`, which begins at the place `start`. -/
def Lexed.from (start : Nat) : List Char → Lexed
  | [] => ⟨[], .finished start⟩
  | c :: s =>
    if Text.isBlank c then Lexed.from (start + c.utf8Size) s
    else
      match Token.first c s with
      | .error problem => ⟨[], .fault ⟨start, problem, String.ofList ((c :: s).take 20)⟩⟩
      | .ok (token, n) =>
        let stop := start + byteWidth (c :: s.take n)
        let rest := Lexed.from stop (s.drop n)
        ⟨⟨token, stop⟩ :: rest.lexemes, rest.ending⟩
termination_by s => s.length
decreasing_by all_goals (simp only [List.length_cons, List.length_drop]; omega)

/-- The tokens of a text. -/
def lex (text : String) : Lexed := Lexed.from 0 text.toList

end RowTemplate
