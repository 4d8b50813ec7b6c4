import RowTemplate.Number.Word

/-! # The exact value of a binary64 number

A finite number is a signed mantissa times a power of two. Truncation,
remainder and conversion to integers are computed on that form, without
rounding.
-/

namespace RowTemplate.Number

/-- What the bits of a binary64 number say. -/
inductive Shape
  | finite (negative : Bool) (mantissa : Nat) (exponent : Int)
  | infinite (negative : Bool)
  | nan

/-- The shape of a number; a finite one is `mantissa * 2 ^ exponent` with its sign. -/
def shape (x : Float) : Shape :=
  let bits := x.toBits.toNat
  let negative := bits >>> 63 = 1
  let field : Nat := bits >>> 52 % 2048
  let fraction : Nat := bits % 1 <<< 52
  if field = 2047 then
    if fraction = 0 then .infinite negative else .nan
  else if field = 0 then .finite negative fraction (-1074)
  else .finite negative (1 <<< 52 + fraction) ((field : Int) - 1075)

/-- `m * 2 ^ e` without its fraction. -/
def scaleDown (m : Nat) (e : Int) : Nat :=
  if 0 ≤ e then m <<< e.toNat else m >>> (-e).toNat

/-- `m * 2 ^ e` is an integer. -/
def dyadicIsIntegral (m : Nat) (e : Int) : Bool :=
  0 ≤ e || m % 1 <<< (-e).toNat = 0

/-- The number is finite and has no fraction. -/
def isIntegral (x : Float) : Bool :=
  match shape x with
  | .finite _ m e => dyadicIsIntegral m e
  | _ => false

/-- The integer part of a finite number. -/
def truncate? (x : Float) : Option Int :=
  match shape x with
  | .finite negative m e =>
    some (if negative then -(scaleDown m e : Int) else scaleDown m e)
  | _ => none

/-- The word nearest to the integer part; zero where there is no number. -/
def toNearestWord (x : Float) : Int64 :=
  match shape x with
  | .finite negative m e =>
    nearestWord (if negative then -(scaleDown m e : Int) else scaleDown m e)
  | .infinite true => Int64.minValue
  | .infinite false => Int64.maxValue
  | .nan => 0

/-- The binary64 number `m * 2 ^ e`, where it has one. -/
def ofDyadic (negative : Bool) (m : Nat) (e : Int) : Float :=
  let excess : Int := (m.log2 : Int) - 52
  let shift := max excess (-1074 - e)
  let mantissa := if 0 ≤ shift then m >>> shift.toNat else m <<< (-shift).toNat
  let field := if mantissa < 1 <<< 52 then 0 else (e + shift + 1075).toNat
  let sign := if negative then 1 <<< 63 else 0
  Float.ofBits (UInt64.ofNat (sign + field <<< 52 + mantissa % 1 <<< 52))

/-- The remainder of the division that rounds toward zero; it has the sign of `a`. -/
def remainder (a b : Float) : Float :=
  match shape a, shape b with
  | .finite negative m e, .finite _ m' e' =>
    if m' = 0 then 0 / 0
    else
      let low := min e e'
      ofDyadic negative (m <<< (e - low).toNat % m' <<< (e' - low).toNat) low
  | .finite .., .infinite _ => a
  | _, _ => 0 / 0

end RowTemplate.Number
