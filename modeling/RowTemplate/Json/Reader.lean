import RowTemplate.Json.Numeral
import RowTemplate.Number.Hexadecimal

/-! # Reading JSON text

The text splits into tokens; a machine with a stack of open containers builds
the document from them. A repeated field keeps its first place and takes the
last value. At most 127 containers are open at a time.
-/

namespace RowTemplate.Json

open RowTemplate.Number (readHex?)
open RowTemplate.Text (isDigit)

/-- A token of JSON text. -/
inductive Token
  | openArray
  | closeArray
  | openObject
  | closeObject
  | comma
  | colon
  | scalar (j : Json)

/-- Blank space between tokens. -/
def isSpace (c : Char) : Bool := c = ' ' || c = '\n' || c = '\t' || c = '\r'

/-- What stands between the quotes of a string, and what follows the closing one. -/
def splitString? : List Char → Option (List Char × List Char)
  | [] => none
  | '"' :: s => some ([], s)
  | '\\' :: c :: s => (splitString? s).map fun (t, rest) => ('\\' :: c :: t, rest)
  | c :: s =>
    if c.toNat < 32 then none else (splitString? s).map fun (t, rest) => (c :: t, rest)

/-- The character of an escape with one letter. -/
def escapeValue? : Char → Option Char
  | '"' => some '"'
  | '\\' => some '\\'
  | '/' => some '/'
  | 'b' => some '\x08'
  | 'f' => some '\x0c'
  | 'n' => some '\n'
  | 'r' => some '\r'
  | 't' => some '\t'
  | _ => none

/-- The text that the inside of a string denotes; a surrogate stands only in a pair. -/
def unescape? : List Char → Option (List Char)
  | [] => some []
  | '\\' :: 'u' :: a :: b :: c :: d :: s => do
    let high ← readHex? [a, b, c, d]
    if 0xD800 ≤ high ∧ high < 0xDC00 then
      match s with
      | '\\' :: 'u' :: e :: f :: g :: h :: s =>
        let low ← readHex? [e, f, g, h]
        guard (0xDC00 ≤ low ∧ low < 0xE000)
        let t ← unescape? s
        return Char.ofNat (0x10000 + (high - 0xD800) * 0x400 + (low - 0xDC00)) :: t
      | _ => none
    else
      guard (¬ (0xDC00 ≤ high ∧ high < 0xE000))
      let t ← unescape? s
      return Char.ofNat high :: t
  | '\\' :: c :: s => do
    let c ← escapeValue? c
    let t ← unescape? s
    return c :: t
  | c :: s => do
    let t ← unescape? s
    return c :: t

/-- A character of a number or of `true`, `false` and `null`. -/
def isScalarChar (c : Char) : Bool :=
  isDigit c || ('a' ≤ c && c ≤ 'z') || c = 'E' || c = '-' || c = '+' || c = '.'

/-- The scalar that a run of such characters denotes. -/
def readScalar? (s : List Char) : Option Json :=
  if s = "null".toList then some .null
  else if s = "true".toList then some (.bool true)
  else if s = "false".toList then some (.bool false)
  else readNumeral? s

theorem splitString?_length {s t rest : List Char} (h : splitString? s = some (t, rest)) :
    rest.length < s.length := by
  fun_induction splitString? s generalizing t with
  | case1 => simp at h
  | case2 => simp_all
  | case3 c s ih =>
    obtain ⟨⟨u, rest'⟩, hu, heq⟩ := Option.map_eq_some_iff.mp h
    obtain rfl := (Prod.mk.inj heq).2
    have := ih hu
    simp only [List.length_cons]
    omega
  | case4 => simp at h
  | case5 c s _ _ _ ih =>
    obtain ⟨⟨u, rest'⟩, hu, heq⟩ := Option.map_eq_some_iff.mp h
    obtain rfl := (Prod.mk.inj heq).2
    have := ih hu
    simp only [List.length_cons]
    omega

/-- The tokens of a text. -/
def tokens? : List Char → Option (List Token)
  | [] => some []
  | c :: s =>
    if isSpace c then tokens? s
    else
      match c with
      | '[' => (tokens? s).map (.openArray :: ·)
      | ']' => (tokens? s).map (.closeArray :: ·)
      | '{' => (tokens? s).map (.openObject :: ·)
      | '}' => (tokens? s).map (.closeObject :: ·)
      | ',' => (tokens? s).map (.comma :: ·)
      | ':' => (tokens? s).map (.colon :: ·)
      | '"' =>
        match h : splitString? s with
        | none => none
        | some (raw, rest) =>
          have := splitString?_length h
          (unescape? raw).bind fun t =>
            (tokens? rest).map (.scalar (.string (String.ofList t)) :: ·)
      | c =>
        if isScalarChar c then
          have : (s.dropWhile isScalarChar).length < s.length + 1 :=
            Nat.lt_succ_of_le (List.dropWhile_sublist _).length_le
          (readScalar? (c :: s.takeWhile isScalarChar)).bind fun j =>
            (tokens? (s.dropWhile isScalarChar)).map (.scalar j :: ·)
        else none
termination_by s => s.length

/-- A container that is still open; the items of an array are listed last first. -/
inductive Frame
  | array (items : List Json)
  | object (fields : List (String × Json)) (name : String)

/-- What may come next. -/
inductive State
  | value (stack : List Frame)
  | firstItem (stack : List Frame)
  | firstName (stack : List Frame)
  | fieldName (fields : List (String × Json)) (stack : List Frame)
  | colon (fields : List (String × Json)) (name : String) (stack : List Frame)
  | after (last : Json) (stack : List Frame)

/-- A scalar or an opening bracket where a value is wanted. -/
def State.begin (stack : List Frame) : Token → Option State
  | .scalar j => some (.after j stack)
  | .openArray => if stack.length < 127 then some (.firstItem stack) else none
  | .openObject => if stack.length < 127 then some (.firstName stack) else none
  | _ => none

/-- One token more. -/
def State.step : State → Token → Option State
  | .value stack, token => begin stack token
  | .firstItem stack, .closeArray => some (.after (.array []) stack)
  | .firstItem stack, token => begin (.array [] :: stack) token
  | .firstName stack, .closeObject => some (.after (.object []) stack)
  | .firstName stack, .scalar (.string name) => some (.colon [] name stack)
  | .fieldName fields stack, .scalar (.string name) => some (.colon fields name stack)
  | .colon fields name stack, .colon => some (.value (.object fields name :: stack))
  | .after last (.array items :: stack), .comma => some (.value (.array (last :: items) :: stack))
  | .after last (.array items :: stack), .closeArray =>
    some (.after (.array (last :: items).reverse) stack)
  | .after last (.object fields name :: stack), .comma =>
    some (.fieldName (putField name last fields) stack)
  | .after last (.object fields name :: stack), .closeObject =>
    some (.after (.object (putField name last fields)) stack)
  | _, _ => none

/-- The document that a text denotes. -/
def read? (text : String) : Option Json :=
  match (tokens? text.toList).bind (·.foldlM State.step (.value [])) with
  | some (.after j []) => some j
  | _ => none

end RowTemplate.Json
