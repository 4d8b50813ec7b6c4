import RowTemplate.Number.Digits

/-! # Integers of 64 bits

Arithmetic on them is done over the unbounded integers; a result outside the
range is absent. Nothing wraps around.
-/

namespace RowTemplate.Number

/-- The integer lies between `-2 ^ 63` and `2 ^ 63 - 1`. -/
def FitsWord (z : Int) : Prop := Int64.minValue.toInt ≤ z ∧ z ≤ Int64.maxValue.toInt

instance (z : Int) : Decidable (FitsWord z) := inferInstanceAs (Decidable (_ ∧ _))

/-- The word with the value `z`, if there is one. -/
def word? (z : Int) : Option Int64 :=
  if FitsWord z then some (Int64.ofInt z) else none

/-- The word nearest to `z`. -/
def nearestWord (z : Int) : Int64 :=
  if z < Int64.minValue.toInt then Int64.minValue
  else if z ≤ Int64.maxValue.toInt then Int64.ofInt z
  else Int64.maxValue

/-- The word that digits after at most one sign denote, if it has one. -/
def readWord? (s : List Char) : Option Int64 := (readInteger? s).bind word?

theorem toInt_of_word? {z : Int} {w : Int64} (h : word? z = some w) : w.toInt = z := by
  unfold word? at h
  split at h
  case isTrue hz =>
    obtain rfl := Option.some.inj h
    exact Int64.toInt_ofInt_of_le hz.1 (Int.lt_add_one_of_le hz.2)
  case isFalse => simp at h

end RowTemplate.Number
