import RowTemplate.Expr.Syntax
import RowTemplate.Expr.Error

/-! # Operators

Integers compute exactly or fail; a division that leaves a remainder, and every
operation with another number in it, is done in binary64. Equality and order of
numbers are those of binary64.
-/

namespace RowTemplate.Value

open Number

/-- Texts, arrays and objects make an addition a concatenation. -/
def isTextLike : Value → Bool
  | .string _ => true
  | .array _ => true
  | .object _ => true
  | _ => false

/-- The integer as a value, if it fits a word. -/
def ofInt (z : Int) : Except EvalError Value :=
  match word? z with
  | some n => .ok (.int n)
  | none => .error .overflow

/-- Arithmetic of integers. A quotient that does not fit makes its remainder overflow too. -/
def intArith (op : ArithOp) (m n : Int64) : Except EvalError Value :=
  let a := m.toInt
  let b := n.toInt
  match op with
  | .add => ofInt (a + b)
  | .sub => ofInt (a - b)
  | .mul => ofInt (a * b)
  | .div =>
    if b = 0 then .error .divisionByZero
    else if a.tmod b = 0 then ofInt (a.tdiv b)
    else .ok (.float (Float.ofInt a / Float.ofInt b))
  | .rem =>
    if b = 0 then .error .divisionByZero
    else if FitsWord (a.tdiv b) then ofInt (a.tmod b)
    else .error .overflow

/-- Arithmetic of binary64 numbers. -/
def floatArith (op : ArithOp) (x y : Float) : Except EvalError Value :=
  match op with
  | .add => .ok (ofFloat (x + y))
  | .sub => .ok (ofFloat (x - y))
  | .mul => .ok (ofFloat (x * y))
  | .div => if y == 0 then .error .divisionByZero else .ok (ofFloat (x / y))
  | .rem => if y == 0 then .error .divisionByZero else .ok (ofFloat (remainder x y))

/-- Arithmetic of any values. -/
def arith (op : ArithOp) (v w : Value) : Except EvalError Value :=
  if op = .add ∧ (v.isTextLike ∨ w.isTextLike) then
    .ok (.string (String.ofList (v.chars ++ w.chars)))
  else
    match v, w with
    | .int m, .int n => intArith op m n
    | v, w => floatArith op v.toFloat w.toFloat

/-- Equality across types: a text equals an array or object with that text, scalars of different
types compare as numbers, and null equals itself only. -/
def looselyEqual (v w : Value) : Bool :=
  match v, w with
  | .null, .null => true
  | .null, _ => false
  | _, .null => false
  | .string s, .string t => s == t
  | .string s, .array items => (Value.array items).text == s
  | .string s, .object fields => (Value.object fields).text == s
  | .array items, .string s => (Value.array items).text == s
  | .object fields, .string s => (Value.object fields).text == s
  | .array items, w => same (.array items) w
  | .object fields, w => same (.object fields) w
  | v, .array items => same v (.array items)
  | v, .object fields => same v (.object fields)
  | v, w => v.toFloat == w.toFloat

/-- The value is a number. -/
def isNumber : Value → Bool
  | .int _ => true
  | .float _ => true
  | _ => false

/-- Equality within a type; two numbers compare as such. -/
def strictlyEqual (v w : Value) : Bool :=
  if v.isNumber ∧ w.isNumber then v.toFloat == w.toFloat else same v w

/-- The order of two texts, or else of two numbers; no number is not ordered. -/
def order? (v w : Value) : Option Ordering :=
  match v, w with
  | .string s, .string t => some (if s < t then .lt else if s = t then .eq else .gt)
  | v, w =>
    let x := v.toFloat
    let y := w.toFloat
    if x < y then some .lt else if x == y then some .eq else if y < x then some .gt else none

/-- The truth of an equality. -/
def equality (op : EqualityOp) (v w : Value) : Bool :=
  match op with
  | .eq => looselyEqual v w
  | .ne => !looselyEqual v w
  | .strictEq => strictlyEqual v w
  | .strictNe => !strictlyEqual v w

/-- The truth of a comparison. -/
def comparison (op : OrderOp) (v w : Value) : Bool :=
  match op, order? v w with
  | .lt, some o => o == .lt
  | .le, some o => o != .gt
  | .gt, some o => o == .gt
  | .ge, some o => o != .lt
  | _, none => false

/-- The value of an operation with two operands. -/
def binary (op : BinaryOp) (v w : Value) : Except EvalError Value :=
  match op with
  | .arith op => arith op v w
  | .equality op => .ok (.bool (equality op v w))
  | .order op => .ok (.bool (comparison op v w))

/-- The value of an operation with one operand. -/
def unary (op : UnaryOp) (v : Value) : Except EvalError Value :=
  match op, v with
  | .not, v => .ok (.bool (!v.isTruthy))
  | .negate, .int n => ofInt (-n.toInt)
  | .negate, v => .ok (ofFloat (-v.toFloat))

end RowTemplate.Value
