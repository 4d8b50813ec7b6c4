import RowTemplate.Number.Binary

/-! # The shortest decimal that reads back

Around a binary64 number lies the interval of reals that round to it. The
shortest decimal in the interval is searched on the grids of one, two, and so
on up to seventeen digits: on the first grid with a point in the interval the
point nearest to the number is taken. Of two equally near points the layout of
the number chooses one.
-/

namespace RowTemplate.Number

/-- A positive fraction. -/
structure Fraction where
  num : Nat
  den : Nat

/-- `m * 2 ^ e` as a fraction. -/
def Fraction.ofDyadic (m : Nat) (e : Int) : Fraction :=
  if 0 ≤ e then ⟨m <<< e.toNat, 1⟩ else ⟨m, 1 <<< (-e).toNat⟩

/-- The fraction times `10 ^ k`. -/
def Fraction.scale (x : Fraction) (k : Int) : Fraction :=
  if 0 ≤ k then ⟨x.num * Nat.pow 10 k.toNat, x.den⟩ else ⟨x.num, x.den * Nat.pow 10 (-k).toNat⟩

/-- The exponent `k` with `10 ^ k ≤ x < 10 ^ (k + 1)`. -/
def Fraction.magnitude (x : Fraction) : Int :=
  if x.den ≤ x.num then (digits (x.num / x.den)).length - 1
  else
    let d := (digits (x.den / x.num)).length
    if x.den ≤ x.num * Nat.pow 10 (d - 1) then -(d - 1 : Int) else -d

/-- A coefficient times a power of ten. -/
structure Decimal where
  coefficient : Nat
  exponent : Int

/-- Moves trailing zeros of the coefficient into the exponent; `fuel` bounds their number. -/
def Decimal.reduce : Nat → Decimal → Decimal
  | 0, d => d
  | fuel + 1, d =>
    if d.coefficient % 10 = 0 then reduce fuel ⟨d.coefficient / 10, d.exponent + 1⟩ else d

/-- The reals that round to a number, in quarters of the distance to the next larger one. -/
structure Neighbourhood where
  low : Nat
  centre : Nat
  high : Nat
  exponent : Int
  closed : Bool

/-- The neighbourhood of `m * 2 ^ e`; the lower half is narrower above a power of two. -/
def neighbourhood (m : Nat) (e : Int) : Neighbourhood where
  low := 4 * m - (if m = 1 <<< 52 ∧ -1074 < e then 1 else 2)
  centre := 4 * m
  high := 4 * m + 2
  exponent := e - 2
  closed := m % 2 = 0

/-- The point `c * 10 ^ k` lies in the neighbourhood. -/
def Neighbourhood.covers (n : Neighbourhood) (c : Nat) (k : Int) : Bool :=
  let unit := (Fraction.ofDyadic 1 n.exponent).scale (-k)
  let low := n.low * unit.num
  let high := n.high * unit.num
  let point := c * unit.den
  if n.closed then low ≤ point && point ≤ high else low < point && point < high

/-- Which of two points of a grid is taken when a number lies halfway between them. -/
inductive Tie
  | toEven
  | up

/-- The lower of the two points at `below` and `below + 1` is taken. -/
def Tie.takesLower (tie : Tie) (below : Nat) : Bool :=
  match tie with
  | .toEven => below % 2 = 0
  | .up => false

/-- The best point of the grid `10 ^ k` in the neighbourhood of `x`. -/
def Neighbourhood.gridPoint? (n : Neighbourhood) (tie : Tie) (x : Fraction) (k : Int) :
    Option Decimal :=
  let y := x.scale (-k)
  let below := y.num / y.den
  match n.covers below k, n.covers (below + 1) k with
  | true, true =>
    let rest := y.num % y.den
    if 2 * rest < y.den ∨ (2 * rest = y.den ∧ tie.takesLower below) then some ⟨below, k⟩
    else some ⟨below + 1, k⟩
  | true, false => some ⟨below, k⟩
  | false, true => some ⟨below + 1, k⟩
  | false, false => none

/-- The shortest decimal that rounds to `m * 2 ^ e`, nearest among the shortest. -/
def shortest (tie : Tie) (m : Nat) (e : Int) : Decimal :=
  if m = 0 then ⟨0, 0⟩
  else
    let x := Fraction.ofDyadic m e
    let top := x.magnitude
    let found := (List.range 17).findSome? fun (n : Nat) =>
      (neighbourhood m e).gridPoint? tie x (top - n)
    match found with
    | some d => d.reduce 20
    | none => ⟨m, 0⟩

end RowTemplate.Number
