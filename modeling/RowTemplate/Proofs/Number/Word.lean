import Mathlib
import RowTemplate.Number.Word

/-! # The range of words

Quotients of words are words, with one exception. Any integer has a nearest
word, which is the integer itself or the limit on its side.
-/

namespace RowTemplate.Number

variable {a b z : Int}

theorem fitsWord_iff : FitsWord z ↔ -2 ^ 63 ≤ z ∧ z < 2 ^ 63 := by
  rw [FitsWord, Int64.toInt_minValue, Int64.toInt_maxValue]
  omega

theorem fitsWord_toInt (n : Int64) : FitsWord n.toInt :=
  fitsWord_iff.mpr ⟨n.le_toInt, n.toInt_lt⟩

/-- The only quotient of words that is no word is that of the least one by `-1`. -/
theorem fitsWord_tdiv_iff (ha : FitsWord a) :
    FitsWord (a.tdiv b) ↔ ¬ (a = -2 ^ 63 ∧ b = -1) := by
  rw [fitsWord_iff] at *
  constructor
  · rintro hfits ⟨rfl, rfl⟩
    exact absurd hfits (by decide)
  · intro hne
    rcases Nat.lt_or_ge 1 b.natAbs with htwo | hone
    · have hquot : (a.tdiv b).natAbs = a.natAbs / b.natAbs := Int.natAbs_tdiv a b
      have hhalf : a.natAbs / b.natAbs ≤ a.natAbs / 2 := Nat.div_le_div_left htwo (by decide)
      omega
    · obtain rfl | rfl | rfl : b = -1 ∨ b = 0 ∨ b = 1 := by omega
      · rw [Int.tdiv_neg, Int.tdiv_one]
        omega
      · rw [Int.tdiv_zero]
        decide
      · rwa [Int.tdiv_one]

/-- The integer in the range of words that is nearest. -/
def clampToWord (z : Int) : Int := max (-2 ^ 63) (min z (2 ^ 63 - 1))

theorem clampToWord_eq_iff : clampToWord z = z ↔ FitsWord z := by
  rw [fitsWord_iff, clampToWord]
  omega

theorem toInt_nearestWord (z : Int) : (nearestWord z).toInt = clampToWord z := by
  have hmin := Int64.toInt_minValue
  have hmax := Int64.toInt_maxValue
  unfold nearestWord clampToWord
  split
  case isTrue => omega
  case isFalse hlow =>
    split
    case isTrue hhigh =>
      rw [Int64.toInt_ofInt_of_le (by omega) (by omega)]
      omega
    case isFalse => omega

theorem nearestWord_of_fitsWord (h : FitsWord z) : nearestWord z = Int64.ofInt z := by
  rw [nearestWord, if_neg (Int.not_lt_of_ge h.1), if_pos h.2]

end RowTemplate.Number
