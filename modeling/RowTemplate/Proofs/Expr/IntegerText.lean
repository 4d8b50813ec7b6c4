import Mathlib
import RowTemplate.Proofs.Expr.Equality
import RowTemplate.Proofs.Expr.Exact
import RowTemplate.Proofs.Expr.Quoting
import RowTemplate.Proofs.Number.Digits

/-! # Integers as expressions

The text of an integer is a numeral, behind a sign if the integer is negative.
As an expression the sign is an operator: the numeral is read by itself and
negated afterwards. That gives the integer back, but for the least word. Its
numeral is just above the words, so that it is read as a binary64 number, and
the negation of that is not turned into a word any more.
-/

namespace RowTemplate

open Grammar Number
open ParseCache (direct)

variable {w : List Char}

/-! ### Numerals -/

theorem isNumeral_digits (n : Nat) : IsNumeral (digits n) where
  nonempty := digits_ne_nil n
  digits := fun _ hc => isDigit_of_mem_digits hc

/-- What a numeral is read as. -/
def Value.ofNumeral (n : Nat) : Value :=
  if n < 2 ^ 63 then .int (Int64.ofNat n) else .float (roundDecimal n 0)

theorem literal_numeral (hw : IsNumeral w) :
    Literal (Token.ofNumeral w []) (.ofNumeral (ofDigits w)) := by
  rw [Token.ofNumeral_nil hw, Value.ofNumeral]
  split
  · exact .int _
  · exact .float _

theorem splits_numeral (hw : IsNumeral w) : Splits w [Token.ofNumeral w []] := by
  obtain ⟨c, w, rfl⟩ := List.exists_cons_of_ne_nil hw.nonempty
  have hdigit := hw.digits c List.mem_cons_self
  exact .single (not_isBlank_of_isDigit hdigit) (Token.spelling_numeral hw)

theorem Grammar.Derivation.exists_level (e : Derivation .unary) {k : Nat} (hk : k ≤ levels) :
    ∃ d : Derivation (.level k), d.yield = e.yield ∧ d.value = e.value := by
  induction hk using Nat.decreasingInduction with
  | self => exact ⟨.closest e, by simp, by simp⟩
  | of_succ k hk ih =>
    obtain ⟨d, hyield, hvalue⟩ := ih
    exact ⟨.level hk d .noOperation, by simpa using hyield, by simpa using hvalue⟩

/-- An operand behind operators that have no other one is an expression by itself. -/
theorem Grammar.Derivation.exists_ternary (e : Derivation .unary) :
    ∃ d : Derivation .ternary, d.yield = e.yield ∧ d.value = e.value := by
  obtain ⟨d, hyield, hvalue⟩ := e.exists_level (Nat.zero_le levels)
  exact ⟨.plain (.coalesced d .noAlternative), by simpa using hyield, by simpa using hvalue⟩

theorem parse_numeral (hw : IsNumeral w) :
    Expr.parse (String.ofList w) = .ok (.literal (.ofNumeral (ofDigits w))) := by
  refine parse_eq_ok_iff.mpr ⟨.single (.literal (literal_numeral hw)), ?_, by simp⟩
  simpa using splits_numeral hw

theorem parse_negated_numeral (hw : IsNumeral w) :
    Expr.parse (String.ofList ('-' :: w)) =
      .ok (.unary .negate (.literal (.ofNumeral (ofDigits w)))) := by
  obtain ⟨d, hyield, hvalue⟩ := Derivation.exists_ternary
    (.prefixed .negate (.unprefixed (.accesses (.literal (literal_numeral hw)) .noAccess)))
  refine parse_eq_ok_iff.mpr ⟨d, ?_, by simpa using hvalue⟩
  have hsplits := splits_mark (m := .minus) (c := '-') (by decide) rfl (splits_numeral hw)
  simpa [hyield] using hsplits

/-! ### The negation of a numeral -/

namespace Value

theorem ofNumeral_natAbs {n : Int64} (hn : 0 ≤ n.toInt) : ofNumeral n.toInt.natAbs = .int n := by
  have hsmall : n.toInt.natAbs < 2 ^ 63 := by
    have := n.toInt_lt
    omega
  have hword : Int64.ofNat n.toInt.natAbs = n := by
    rw [← Int64.ofInt_eq_ofNat, Int.natAbs_of_nonneg hn, Int64.ofInt_toInt]
  rw [ofNumeral, if_pos hsmall, hword]

theorem negate_ofNumeral_natAbs {n : Int64} (hn : n.toInt < 0) (hleast : n ≠ Int64.minValue) :
    (ofNumeral n.toInt.natAbs).unary .negate = .ok (.int n) := by
  have hlow := n.le_toInt
  have hne : n.toInt ≠ -2 ^ 63 := fun h => hleast (Int64.toInt_inj.mp h)
  have hsmall : n.toInt.natAbs < 2 ^ 63 := by omega
  have hint : (Int64.ofNat n.toInt.natAbs).toInt = -n.toInt := by
    rw [← Int64.ofInt_eq_ofNat, Int64.toInt_ofInt_of_le (by omega) (by omega)]
    omega
  rw [ofNumeral, if_pos hsmall, unary, hint, Int.neg_neg, ofInt, word?,
    if_pos (fitsWord_toInt n), Int64.ofInt_toInt]

/-- The magnitude of the least word is read as a binary64 number, which is too large for its
negation to be turned into a word. -/
theorem negate_ofNumeral_least :
    (ofNumeral Int64.minValue.toInt.natAbs).unary .negate =
      .ok (.float (Float.ofInt Int64.minValue.toInt)) := by
  have hread : ofNumeral (2 ^ 63) = .float (Float.ofNat (2 ^ 63)) := by
    have hround : roundDecimal (2 ^ 63) 0 = Float.ofNat (2 ^ 63) := by decide +kernel
    rw [ofNumeral, if_neg (Nat.lt_irrefl _), hround]
  have hnumber : (Float.ofNat (2 ^ 63)).isNaN = false := by decide
  have hlarge : ¬ (isIntegral (-Float.ofNat (2 ^ 63)) && (-Float.ofNat (2 ^ 63)).abs < 9e15) := by
    decide
  calc (ofNumeral (2 ^ 63)).unary .negate
    _ = .ok (ofFloat (-(Value.float (Float.ofNat (2 ^ 63))).toFloat)) := by rw [hread]; rfl
    _ = .ok (ofFloat (-Float.ofNat (2 ^ 63))) := by rw [toFloat_float, hnumber]; rfl
    _ = .ok (.float (-Float.ofNat (2 ^ 63))) := by rw [ofFloat, if_neg hlarge]

end Value

/-! ### Integers -/

theorem direct_digits (n : Nat) (scope : Scope) :
    direct (String.ofList (digits n)) scope = .ok (.ofNumeral n) := by
  rw [direct, parse_numeral (isNumeral_digits n), ofDigits_digits]
  rfl

theorem direct_negated_digits (n : Nat) (scope : Scope) :
    direct (String.ofList ('-' :: digits n)) scope = (Value.ofNumeral n).unary .negate := by
  rw [direct, parse_negated_numeral (isNumeral_digits n), ofDigits_digits]
  rfl

/-- The text of an integer, as an expression, is that integer, but for the least word. The text of
that one is a binary64 number with the same value. -/
theorem Value.direct_text_int (n : Int64) (scope : Scope) :
    direct (Value.int n).text scope =
      .ok (if n = Int64.minValue then .float (Float.ofInt n.toInt) else .int n) := by
  change direct (String.ofList (integerText n.toInt)) scope = _
  rw [integerText]
  by_cases hn : n.toInt < 0
  · rw [if_pos hn, direct_negated_digits]
    split
    case isTrue hleast => rw [hleast, Value.negate_ofNumeral_least]
    case isFalse hleast => exact Value.negate_ofNumeral_natAbs hn hleast
  · have hleast : n ≠ Int64.minValue := by
      rintro rfl
      exact hn (by decide)
    rw [if_neg hn, direct_digits, Value.ofNumeral_natAbs (Int.not_lt.mp hn), if_neg hleast]

/-- The least word is not what its text is read as. -/
theorem Value.direct_text_int_least :
    (Value.int Int64.minValue).text = "-9223372036854775808" ∧
      ∀ scope, direct "-9223372036854775808" scope ≠ .ok (.int Int64.minValue) := by
  have htext :
      String.ofList ('-' :: digits Int64.minValue.toInt.natAbs) = "-9223372036854775808" := by
    rw [← String.ofList_toList (s := "-9223372036854775808")]
    simp [digits, digitChar]
  refine ⟨htext, fun scope h => ?_⟩
  rw [← htext, direct_negated_digits, Value.negate_ofNumeral_least] at h
  cases h

end RowTemplate
