import RowTemplate.Expr.Value
import RowTemplate.Text.Case

/-! # What a template makes of a value

A value becomes a truth value, an integer, a list of texts, a text or a node of
the document, as the place in the template asks for.
-/

namespace RowTemplate.Value

open Number

/-- The texts that mean no, in any case. -/
def isNegative (s : List Char) : Bool :=
  s.map Text.foldCase ∈ ["no".toList, "none".toList, "na".toList, "false".toList, []]

/-- The truth of a value: a text is true unless it means no. -/
def toBool : Value → Bool
  | .null => false
  | .bool b => b
  | .string s => !isNegative s.toList
  | .int n => n ≠ 0
  | .float x => x != 0
  | .array _ => true
  | .object _ => true

/-- The integer of a value: a number without its fraction, at most the limits of a word. -/
def toInt? : Value → Option Int64
  | .null => some 0
  | .bool b => some (if b then 1 else 0)
  | .int n => some n
  | .float x => if x.isFinite then some (toNearestWord x) else none
  | .string s =>
    let t := Text.trim s.toList
    match readWord? t with
    | some n => some n
    | none =>
      match readFloat? t with
      | some x => if x.isFinite then some (toNearestWord x) else none
      | none => none
  | .array _ => none
  | .object _ => none

/-- The text of a value; null is empty. -/
def toText : Value → String
  | .null => ""
  | v => v.text

/-- The non-empty texts of the items of an array, or of a single value. -/
def toTexts (v : Value) : List String :=
  let texts := match v with
    | .null => []
    | .array items => items.map toText
    | v => [toText v]
  texts.filter (· ≠ "")

/-- The non-empty texts of a value, if there are any. -/
def toTexts? (v : Value) : Option (List String) :=
  match v.toTexts with
  | [] => none
  | texts => some texts

/-- The node of a value: a scalar as it is, an array or object as its text. Null and what is no
finite number have none. -/
def toNode? : Value → Option Json
  | .null => none
  | .bool b => some (.bool b)
  | .int n => some (.ofWord n)
  | .float x => Json.ofFloat? x
  | .string s => some (.string s)
  | .array items => some (.string (Value.array items).text)
  | .object fields => some (.string (Value.object fields).text)

end RowTemplate.Value
