import RowTemplate.Proofs.Expr.Spelling
import RowTemplate.Proofs.Number.Truncation
import RowTemplate.Proofs.Template.Strict

/-! # The integers of texts and numbers

A decimal text and a finite number have an integer, and coercion gives it as
long as it is a word. Beyond the range of words it gives the limit on the same
side, and only a text so large that no finite number is near has no integer.
-/

namespace RowTemplate

open Number

namespace Number

/-- The text is a decimal integer after at most one sign. -/
inductive IsDecimal : List Char → Int → Prop
  | plain {w : List Char} : IsNumeral w → IsDecimal w (ofDigits w)
  | plus {w : List Char} : IsNumeral w → IsDecimal ('+' :: w) (ofDigits w)
  | minus {w : List Char} : IsNumeral w → IsDecimal ('-' :: w) (-ofDigits w)

theorem IsDecimal.readInteger?_eq {w : List Char} {z : Int} (h : IsDecimal w z) :
    readInteger? w = some z := by
  cases h with
  | plain hw => exact Token.readInteger?_numeral hw
  | plus hw => exact congrArg (Option.map Int.ofNat) (Token.readNatural?_numeral hw)
  | minus hw => exact congrArg (Option.map (-Int.ofNat ·)) (Token.readNatural?_numeral hw)

end Number

namespace Value

/-- The value has an integer: it is a decimal text between blanks, or a finite number. -/
inductive HasInteger : Value → Int → Prop
  | text {s : String} {z : Int} : IsDecimal (Text.trim s.toList) z → HasInteger (.string s) z
  | number {x : Float} {q : ℚ} : rational? x = some q → HasInteger (.float x) (integerPart q)

variable {v : Value} {z : Int}

theorem natAbs_lt_of_fitsWord (h : FitsWord z) : z.natAbs < overflowThreshold := by
  have hlimit : 2 ^ 64 ≤ overflowThreshold := by decide +kernel
  rw [fitsWord_iff] at h
  omega

theorem toInt?_text {s : String} (h : IsDecimal (Text.trim s.toList) z) :
    (Value.string s).toInt? =
      if z.natAbs < overflowThreshold then some (nearestWord z) else none := by
  have hread := h.readInteger?_eq
  have hword : readWord? (Text.trim s.toList) = word? z := by
    rw [readWord?, hread, Option.bind_some]
  rw [toInt?]
  simp only [hword]
  by_cases hfits : FitsWord z
  · rw [word?, if_pos hfits, if_pos (natAbs_lt_of_fitsWord hfits), nearestWord_of_fitsWord hfits]
  · have hlarge : 2 ^ 53 ≤ z.natAbs := by
      rw [fitsWord_iff] at hfits
      omega
    obtain ⟨x, hx, hrounded⟩ := readFloat?_of_readInteger? hread hlarge
    have hfinite : x.isFinite = true ↔ z.natAbs < overflowThreshold := hrounded.isFinite_iff
    rw [word?, if_neg hfits]
    simp only [hx, hfinite]
    split_ifs with h
    · rw [hrounded.toNearestWord (hfinite.mpr h) hfits]
    · rfl

theorem toInt?_number {x : Float} (h : truncate? x = some z) :
    (Value.float x).toInt? = some (nearestWord z) := by
  obtain ⟨hfinite, hword⟩ := toNearestWord_of_truncate? h
  rw [toInt?, if_pos hfinite, hword]

theorem toInt?_of_hasInteger (h : v.HasInteger z) :
    v.toInt? = if z.natAbs < overflowThreshold then some (nearestWord z) else none := by
  cases h with
  | text h => exact toInt?_text h
  | @number x q h =>
    have htruncate : truncate? x = some (integerPart q) := by rw [truncate?_eq, h, Option.map_some]
    rw [toInt?_number htruncate, if_pos (natAbs_lt_of_truncate? htruncate)]

end Value

/-- What stands for the integer of a value that has none. -/
def IntFallback.outcome : IntFallback → String → Value → Except ExpandError Int64
  | .zero, _, _ => .ok 0
  | .error, text, v => .error (.notInteger text v.text)

theorem Session.integer_of_none {v : Value} (h : v.toInt? = none) (fallback : IntFallback)
    (text : String) : integer fallback text v = fallback.outcome text v := by
  cases fallback <;> simp [integer, h, IntFallback.outcome]

/-- Coercion gives the integer of a value where it is a word, and the limit on the same side where
it is not. It gives nothing, so that the choice for values that are no integers decides, only
where no finite number is near. -/
theorem Value.toInt?_clamps {v : Value} {z : Int} (h : v.HasInteger z) :
    ((∃ n, v.toInt? = some n ∧ n.toInt = z) ↔ FitsWord z) ∧
      (z.natAbs < overflowThreshold → ∃ n, v.toInt? = some n ∧ n.toInt = clampToWord z ∧
        ∀ text (ctx : Context), ((Session.evaluate text).runIn ctx).1 = .ok v →
          ((Session.asInt text).runIn ctx).1 = .ok n) ∧
      (overflowThreshold ≤ z.natAbs → v.toInt? = none ∧
        ∀ text (ctx : Context), ((Session.evaluate text).runIn ctx).1 = .ok v →
          ((Session.asInt text).runIn ctx).1 = ctx.fallback.outcome text v) := by
  have hint := toInt?_of_hasInteger h
  refine ⟨⟨?_, ?_⟩, ?_, ?_⟩
  · rintro ⟨n, hn, rfl⟩
    exact fitsWord_toInt n
  · intro hfits
    rw [if_pos (natAbs_lt_of_fitsWord hfits)] at hint
    exact ⟨nearestWord z, hint, (toInt_nearestWord z).trans (clampToWord_eq_iff.mpr hfits)⟩
  · intro hsmall
    rw [if_pos hsmall] at hint
    refine ⟨nearestWord z, hint, toInt_nearestWord z, fun text ctx heval => ?_⟩
    rw [Session.runIn_asInt, heval]
    simp only [Session.integer, hint]
  · intro hlarge
    rw [if_neg (Nat.not_lt_of_le hlarge)] at hint
    refine ⟨hint, fun text ctx heval => ?_⟩
    rw [Session.runIn_asInt, heval]
    exact Session.integer_of_none hint ctx.fallback text

/-- A numeral just below the least word, between blanks. -/
theorem Value.toInt?_clamps_below :
    let text := "\t-9223372036854775809 "
    (Value.string text).HasInteger (-9223372036854775809) ∧
      (Value.string text).toInt? = some Int64.minValue := by
  intro text
  have htrim : Text.trim text.toList = '-' :: "9223372036854775809".toList := by decide
  have hvalue : (-9223372036854775809 : Int) = -ofDigits "9223372036854775809".toList := by
    decide
  have hnumeral : IsNumeral "9223372036854775809".toList :=
    ⟨by decide, List.all_eq_true.mp (by decide)⟩
  have hinteger : (Value.string text).HasInteger (-9223372036854775809) := by
    refine .text ?_
    rw [htrim, hvalue]
    exact .minus hnumeral
  obtain ⟨n, hn, hclamp, -⟩ := (Value.toInt?_clamps hinteger).2.1 (by decide +kernel)
  have hleast : n = Int64.minValue := Int64.toInt_inj.mp (hclamp.trans (by decide))
  exact ⟨hinteger, hleast ▸ hn⟩

/-- The text of the least integer above the words gives another integer, also to a context that
refuses values that are no integers. -/
theorem Session.asInt_above :
    let ctx := (Context.ofSettings {} ⟨2024, 6, 1, 9, 15, 0, 0, 7200⟩).withFallback .error
    (Value.string "9223372036854775808").HasInteger 9223372036854775808 ∧
      ¬ FitsWord 9223372036854775808 ∧
      (Value.string "9223372036854775808").toInt? = some 9223372036854775807 ∧
      ((asInt "'9223372036854775808'").runIn ctx).1.toOption = some 9223372036854775807 := by
  have hvalue : (9223372036854775808 : Int) = ofDigits "9223372036854775808".toList := by
    decide
  have htrim : Text.trim "9223372036854775808".toList = "9223372036854775808".toList := by
    decide
  have hnumeral : IsNumeral "9223372036854775808".toList :=
    ⟨by decide, List.all_eq_true.mp (by decide)⟩
  refine ⟨?_, by decide, by decide +kernel, by decide +kernel⟩
  refine .text ?_
  rw [htrim, hvalue]
  exact .plain hnumeral

end RowTemplate
