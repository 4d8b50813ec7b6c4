import Mathlib
import RowTemplate.Number.Digits

/-! # Characters of numerals

A natural number is written with digits only, an integer with a sign in front
of them. Reading the digits gives the number back.
-/

namespace RowTemplate.Number

open Text (isDigit)

theorem isDigit_of_mem_digits {n : Nat} {c : Char} (h : c ∈ digits n) :
    isDigit c = true := by
  have hdigit {d : Nat} (hd : d < 10) : isDigit (digitChar d) = true := by
    interval_cases d <;> rfl
  fun_induction digits n with
  | case1 n hn =>
    obtain rfl := List.mem_singleton.mp h
    exact hdigit hn
  | case2 n hn ih =>
    rcases List.mem_append.mp h with h | h
    · exact ih h
    · obtain rfl := List.mem_singleton.mp h
      exact hdigit (Nat.mod_lt _ (by decide))

theorem isDigit_of_mem_padded {width n : Nat} {c : Char} (h : c ∈ padded width n) :
    isDigit c = true := by
  rcases List.mem_append.mp h with h | h
  · obtain ⟨-, rfl⟩ := List.mem_replicate.mp h
    rfl
  · exact isDigit_of_mem_digits h

theorem of_mem_integerText {z : Int} {c : Char} (h : c ∈ integerText z) :
    c = '-' ∨ isDigit c = true := by
  unfold integerText at h
  split at h
  · exact (List.mem_cons.mp h).imp_right isDigit_of_mem_digits
  · exact .inr (isDigit_of_mem_digits h)

theorem digits_ne_nil (n : Nat) : digits n ≠ [] := by
  unfold digits
  split <;> simp

theorem ofDigits_concat (s : List Char) (c : Char) :
    ofDigits (s ++ [c]) = 10 * ofDigits s + digitValue c :=
  List.foldl_append

/-- The digits of a number denote it. -/
theorem ofDigits_digits (n : Nat) : ofDigits (digits n) = n := by
  have hdigit {d : Nat} (hd : d < 10) : digitValue (digitChar d) = d := by
    interval_cases d <;> rfl
  fun_induction digits n with
  | case1 n hn =>
    have hsingle := ofDigits_concat [] (digitChar n)
    rw [List.nil_append, hdigit hn] at hsingle
    exact hsingle.trans (Nat.zero_add n)
  | case2 n hn ih =>
    rw [ofDigits_concat, ih, hdigit (Nat.mod_lt n (by decide))]
    exact Nat.div_add_mod n 10

end RowTemplate.Number
