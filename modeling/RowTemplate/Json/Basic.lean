import RowTemplate.Table

/-! # JSON documents

A document keeps the order of its object fields and tells integers from other
numbers. An integer fits a signed or an unsigned word; any other number is a
finite binary64 number.
-/

namespace RowTemplate

/-- A number of a JSON document. -/
inductive JsonNumber
  | integer (z : Int) (bounded : Int64.minValue.toInt ≤ z ∧ z < UInt64.size)
  | real (x : Float) (finite : x.isFinite = true)

/-- A JSON document. -/
inductive Json
  | null
  | bool (b : Bool)
  | number (n : JsonNumber)
  | string (s : String)
  | array (items : List Json)
  | object (fields : List (String × Json))

namespace Json

/-- The number of a word. -/
def ofWord (n : Int64) : Json :=
  .number (.integer n.toInt
    ⟨Int64.le_toInt n, Int.lt_trans (Int64.toInt_lt n) (by decide)⟩)

/-- The number with the value `x`; infinities and no number have none. -/
def ofFloat? (x : Float) : Option Json :=
  if h : x.isFinite = true then some (.number (.real x h)) else none

/-- The integer of a natural number below `2 ^ 64`. -/
def ofNat (n : Nat) : Json :=
  if h : Int64.minValue.toInt ≤ n ∧ (n : Int) < UInt64.size then .number (.integer n h) else .null

/-- The field of an object. -/
def field? (j : Json) (name : String) : Option Json :=
  match j with
  | .object fields => fields.lookup name
  | _ => none

end Json

end RowTemplate
