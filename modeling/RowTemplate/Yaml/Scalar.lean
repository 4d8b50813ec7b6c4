import RowTemplate.Json.Basic
import RowTemplate.Number.Hexadecimal
import RowTemplate.Number.Reading

/-! # Plain scalars

What a scalar without quotes denotes: null, a truth value, an integer in one of
four bases, a decimal number, or else its own text.
-/

namespace RowTemplate.Yaml

open Number (hexValue? readFloat? readNatural?)
open Text (isDigit)

/-- The value of a digit of a base up to sixteen. -/
def digitOf? (base : Nat) (c : Char) : Option Nat := (hexValue? c).filter (· < base)

/-- The number that at least one digit of a base denotes. -/
def readBase? (base : Nat) (s : List Char) : Option Nat :=
  if s = [] then none
  else s.foldlM (fun n c => (digitOf? base c).map (base * n + ·)) 0

/-- Several digits of which the first is zero. -/
def isPadded : List Char → Bool
  | '0' :: c :: s => (c :: s).all isDigit
  | _ => false

/-- The number of a text without a sign: decimal, or in the base that its beginning names. -/
def readMagnitude? (s : List Char) : Option Nat :=
  let based := match s with
    | '0' :: 'x' :: s => readBase? 16 s
    | '0' :: 'o' :: s => readBase? 8 s
    | '0' :: 'b' :: s => readBase? 2 s
    | _ => none
  based.or (if isPadded s then none else readNatural? s)

/-- What stands behind an optional sign. -/
def unsigned : List Char → List Char
  | '+' :: s => s
  | '-' :: s => s
  | s => s

/-- The integer that a text denotes. -/
def readInteger? : List Char → Option Int
  | '-' :: s => (readMagnitude? s).map (-Int.ofNat ·)
  | s => (readMagnitude? (unsigned s)).map Int.ofNat

/-- The names of infinity and of no number. -/
def notFiniteNames : List String :=
  [".inf", ".Inf", ".INF", "+.inf", "+.Inf", "+.INF", "-.inf", "-.Inf", "-.INF",
   ".nan", ".NaN", ".NAN"]

/-- The decimal number or the text that a scalar denotes; what is not finite is null. -/
def realOrText (s : List Char) : Json :=
  let text := String.ofList s
  if isPadded (unsigned s) then .string text
  else if text ∈ notFiniteNames then .null
  else ((readFloat? s).bind Json.ofFloat?).getD (.string text)

/-- The integer as a document. One that needs more than 64 bits has none, and one that needs more
than 128 is a decimal number or a text. -/
def integerOr (s : List Char) (z : Int) : Option Json :=
  if h : Int64.minValue.toInt ≤ z ∧ z < UInt64.size then some (.number (.integer z h))
  else if -(1 <<< 127 : Nat) ≤ z ∧ z < (1 <<< 128 : Nat) then none
  else some (realOrText s)

/-- The document that a plain scalar denotes. -/
def resolve? (s : List Char) : Option Json :=
  let text := String.ofList s
  if text ∈ ["", "~", "null", "Null", "NULL"] then some .null
  else if text ∈ ["true", "True", "TRUE"] then some (.bool true)
  else if text ∈ ["false", "False", "FALSE"] then some (.bool false)
  else
    match readInteger? s with
    | some z => integerOr s z
    | none => some (realOrText s)

end RowTemplate.Yaml
