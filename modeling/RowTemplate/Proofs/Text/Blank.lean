import Mathlib.Data.List.Basic
import RowTemplate.Text.Blank

/-! # Blanks at the ends of a text

A text that neither begins nor ends with a blank is left as it is when it is
trimmed, and trimming takes away characters at the ends only.
-/

namespace RowTemplate.Text

variable {c : Char} {s : List Char}

theorem exists_range_of_holdsAt {ranges : Ranges} {n : Nat} (h : ranges.holdsAt n = true) :
    ∃ r ∈ ranges, r.1 ≤ n ∧ n ≤ r.2 := by
  induction ranges with
  | nil => cases h
  | cons r rest ih =>
    obtain ⟨low, high⟩ := r
    unfold Ranges.holdsAt at h
    split at h
    · cases h
    case isFalse hlow =>
      rcases Bool.or_eq_true_iff.mp h with hhigh | hrest
      · exact ⟨(low, high), List.mem_cons_self, Nat.le_of_not_lt hlow, of_decide_eq_true hhigh⟩
      · obtain ⟨r, hr, hn⟩ := ih hrest
        exact ⟨r, List.mem_cons_of_mem _ hr, hn⟩

/-- A property of characters that blanks lack. -/
theorem not_isBlank_of {p : Char → Bool}
    (hblank : ∀ r ∈ blankRanges, ∀ n ∈ List.range' r.1 (r.2 + 1 - r.1), p (Char.ofNat n) = false)
    (h : p c = true) : isBlank c = false := by
  by_contra hc
  obtain ⟨r, hr, hlow, hhigh⟩ := exists_range_of_holdsAt (Bool.not_eq_false _ ▸ hc)
  have hn : c.toNat ∈ List.range' r.1 (r.2 + 1 - r.1) := by
    rw [List.mem_range'_1]
    omega
  rw [← Char.ofNat_toNat c, hblank r hr c.toNat hn] at h
  cases h

/-- No blank at either end. -/
def IsTrimmed (s : List Char) : Prop :=
  (∀ c ∈ s.head?, isBlank c = false) ∧ ∀ c ∈ s.getLast?, isBlank c = false

theorem trimLeft_of_head? (h : ∀ c ∈ s.head?, isBlank c = false) : trimLeft s = s := by
  cases s with
  | nil => rfl
  | cons c s => exact List.dropWhile_cons_of_neg (by simp [h c rfl])

theorem trimRight_of_getLast? (h : ∀ c ∈ s.getLast?, isBlank c = false) : trimRight s = s := by
  induction s with
  | nil => rfl
  | cons c s ih =>
    cases s with
    | nil => simp [trimRight, h c rfl]
    | cons d s =>
      rw [List.getLast?_cons_cons] at h
      rw [trimRight, ih h]

theorem IsTrimmed.trim_eq (h : IsTrimmed s) : trim s = s := by
  rw [trim, trimLeft_of_head? h.1, trimRight_of_getLast? h.2]

theorem exists_blanks_trimRight (s : List Char) :
    ∃ blanks, s = trimRight s ++ blanks ∧ ∀ c ∈ blanks, isBlank c = true := by
  induction s with
  | nil => exact ⟨[], rfl, List.forall_mem_nil _⟩
  | cons c s ih =>
    obtain ⟨blanks, hs, hblanks⟩ := ih
    rw [trimRight]
    split
    case h_1 hnil =>
      obtain rfl : s = blanks := by rwa [hnil] at hs
      split
      case isTrue hc => exact ⟨c :: s, rfl, List.forall_mem_cons.mpr ⟨hc, hblanks⟩⟩
      case isFalse => exact ⟨s, rfl, hblanks⟩
    case h_2 => exact ⟨blanks, congrArg (c :: ·) hs, hblanks⟩

theorem trimRight_append (s t : List Char) :
    trimRight (s ++ t) = if trimRight t = [] then trimRight s else s ++ trimRight t := by
  induction s with
  | nil => split <;> simp_all [trimRight]
  | cons c s ih =>
    rw [List.cons_append, trimRight, ih]
    by_cases ht : trimRight t = []
    · rw [if_pos ht, if_pos ht, trimRight]
    · have hne : s ++ trimRight t ≠ [] := fun hnil => ht (List.append_eq_nil_iff.mp hnil).2
      rw [if_neg ht, if_neg ht]
      split
      · exact absurd ‹_› hne
      · rfl

theorem trimRight_blanks (h : ∀ c ∈ s, isBlank c = true) : trimRight s = [] := by
  induction s with
  | nil => rfl
  | cons c s ih =>
    obtain ⟨hc, hs⟩ := List.forall_mem_cons.mp h
    simp [trimRight, ih hs, hc]

theorem trimRight_isPrefix (s : List Char) : trimRight s <+: s := by
  obtain ⟨blanks, hs, -⟩ := exists_blanks_trimRight s
  exact ⟨blanks, hs.symm⟩

end RowTemplate.Text
