import RowTemplate.Expr.Operator
import RowTemplate.Text.Case
import RowTemplate.Text.Search

/-! # Properties, methods and functions

Positions and lengths of texts count characters. A property that a value does
not have is null.
-/

namespace RowTemplate.Value

open Number (isIntegral readIndex? readWord? truncate?)

/-- The position that a property names, if it is one. -/
def index? : Value → Option Nat
  | .int n => if 0 ≤ n.toInt then some n.toInt.toNat else none
  | .float x =>
    if isIntegral x && 0 ≤ x then (truncate? x).map Int.toNat else none
  | .string s => readIndex? s.toList
  | _ => none

/-- A text of one character. -/
def ofChar (c : Char) : Value := .string (String.ofList [c])

/-- The number of things as a value. -/
def ofCount (n : Nat) : Value := .int (Int64.ofInt n)

/-- The property of a value. -/
def member (v property : Value) : Except EvalError Value :=
  match v with
  | .null => .error (.nullAccess property.text)
  | .string s =>
    if property.text = "length" then .ok (ofCount s.toList.length)
    else .ok (((property.index?.bind (s.toList[·]?)).map ofChar).getD .null)
  | .array items =>
    if property.text = "length" then .ok (ofCount items.length)
    else .ok ((property.index?.bind (items[·]?)).getD .null)
  | .object fields => .ok ((fields.lookup property.text).getD .null)
  | _ => .ok .null

/-- A position in a text of `length` characters; one that is negative or no number is zero. -/
def clampIndex (v : Value) (length : Nat) : Nat :=
  let x := v.toFloat
  if x.isNaN || x < 0 then 0
  else
    match truncate? x with
    | some z => min z.toNat length
    | none => length

/-- The text of an argument, empty where it is missing. -/
def textArg (args : List Value) (i : Nat) : List Char :=
  match args[i]? with
  | some v => v.chars
  | none => []

/-- An argument that is missing or null. -/
def isAbsent : Option Value → Bool
  | none => true
  | some v => v.isNull

/-- The characters between two positions in either order; the second one defaults to the end. -/
def substring (s : List Char) (args : List Value) : List Char :=
  let a := match args[0]? with
    | some v => clampIndex v s.length
    | none => 0
  let b := match args[1]? with
    | some v => clampIndex v s.length
    | none => s.length
  (s.take (max a b)).drop (min a b)

/-- The parts of a text between separators; without a separator the whole text is the only one. -/
def splitText (s : List Char) (args : List Value) : List Value :=
  let parts := if isAbsent args[0]? then [s] else Text.split (textArg args 0) s
  parts.map fun part => .string (String.ofList part)

/-- The position of a found thing, or minus one. -/
def ofPosition : Option Nat → Value
  | some n => ofCount n
  | none => .int (-1)

/-- A method of texts. -/
def stringMethod (text : String) (method : String) (args : List Value) :
    Except EvalError Value :=
  let s := text.toList
  match method with
  | "split" => .ok (.array (splitText s args))
  | "toUpperCase" => .ok (.string (String.ofList (Text.toUpper s)))
  | "toLowerCase" => .ok (.string (String.ofList (Text.toLower s)))
  | "trim" => .ok (.string (String.ofList (Text.trim s)))
  | "substring" => .ok (.string (String.ofList (substring s args)))
  | "indexOf" => .ok (ofPosition (Text.indexOf? (textArg args 0) s))
  | "includes" => .ok (.bool (Text.contains (textArg args 0) s))
  | "startsWith" => .ok (.bool ((textArg args 0).isPrefixOf s))
  | "endsWith" => .ok (.bool ((textArg args 0).isSuffixOf s))
  | "replace" =>
    .ok (.string (String.ofList (Text.replaceFirst (textArg args 0) (textArg args 1) s)))
  | method => .error (.noMethod "string" method)

/-- The text of an item of a joined array; null is empty. -/
def joinedItem (v : Value) : List Char := if v.isNull then [] else v.chars

/-- The texts of the items of an array with a separator between them, a comma by default. -/
def join (items args : List Value) : List Char :=
  let separator := if isAbsent args[0]? then [','] else textArg args 0
  separator.intercalate (items.map joinedItem)

/-- A method of arrays. -/
def arrayMethod (items : List Value) (method : String) (args : List Value) :
    Except EvalError Value :=
  let sought := args[0]?.getD .null
  match method with
  | "join" => .ok (.string (String.ofList (join items args)))
  | "includes" => .ok (.bool (items.any (strictlyEqual · sought)))
  | "indexOf" => .ok (ofPosition (items.findIdx? (strictlyEqual · sought)))
  | method => .error (.noMethod "array" method)

/-- The value of a method call. -/
def callMethod (v : Value) (method : String) (args : List Value) : Except EvalError Value :=
  match v with
  | .null => .error (.nullAccess method)
  | .string s => stringMethod s method args
  | .array items => arrayMethod items method args
  | v => .error (.noMethod v.typeName method)

/-- The integer at the beginning of a text, after blanks. -/
def leadingInteger? (s : List Char) : Option Int64 :=
  match Text.trimLeft s with
  | '-' :: s => readWord? ('-' :: s.takeWhile Text.isDigit)
  | '+' :: s => readWord? (s.takeWhile Text.isDigit)
  | s => readWord? (s.takeWhile Text.isDigit)

/-- A number, or no number. -/
def numberOr (v : Option Value) : Value := v.getD (.float (0 / 0))

end RowTemplate.Value
