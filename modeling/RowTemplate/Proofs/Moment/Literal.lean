import Mathlib
import RowTemplate.Proofs.Moment.Reading
import RowTemplate.Proofs.Number.Digits

/-! # Characters that stand for themselves

A backslash is no letter and no quote, so a date pattern copies it, between
quotes or not, and no field writes one. A moment in the form of a pattern has
the backslashes of the pattern.
-/

namespace RowTemplate.Moment

open Number (padded)

/-! ### The texts of fields -/

/-- A text without a backslash. -/
def IsUnescaped (s : List Char) : Prop := ∀ c ∈ s, c ≠ '\\'

namespace IsUnescaped

variable {s t : List Char} {c : Char}

theorem nil : IsUnescaped [] := List.forall_mem_nil _

theorem cons (hc : c ≠ '\\') (hs : IsUnescaped s) : IsUnescaped (c :: s) :=
  List.forall_mem_cons.mpr ⟨hc, hs⟩

theorem append (hs : IsUnescaped s) (ht : IsUnescaped t) : IsUnescaped (s ++ t) :=
  List.forall_mem_append.mpr ⟨hs, ht⟩

theorem take (hs : IsUnescaped s) (n : Nat) : IsUnescaped (s.take n) :=
  fun c hc => hs c (List.mem_of_mem_take hc)

theorem of_all (h : s.all (· ≠ '\\') = true) : IsUnescaped s := by
  simpa [IsUnescaped] using h

theorem padded (width n : Nat) : IsUnescaped (padded width n) := by
  rintro c hc rfl
  exact absurd (Number.isDigit_of_mem_padded hc) (by decide)

theorem offsetSign (t : Moment) : t.offsetSign ≠ '\\' := by
  unfold Moment.offsetSign
  split <;> decide

theorem signedText (width : Nat) (z : Int) : IsUnescaped (signedText width z) := by
  refine append ?_ (padded width z.natAbs)
  split
  · exact cons (by decide) nil
  · exact nil

theorem offsetText (t : Moment) (count : Nat) : IsUnescaped (offsetText t count) := by
  unfold Moment.offsetText
  dsimp only
  split
  · exact cons (offsetSign t) (padded _ _)
  · split
    · exact cons (offsetSign t) (append (padded _ _) (padded _ _))
    · exact cons (offsetSign t) (append (padded _ _) (cons (by decide) (padded _ _)))

theorem nameText {name : String} (h : IsUnescaped name.toList) (count : Nat) :
    IsUnescaped (nameText name count) := by
  unfold Moment.nameText
  split
  · exact h.take 3
  · split
    · exact h
    · exact h.take 1

theorem monthName (month : Nat) : IsUnescaped (monthName month).toList := by
  unfold Moment.monthName
  split <;> exact of_all rfl

theorem weekdayName (day : Nat) : IsUnescaped (weekdayName day).toList := by
  unfold Moment.weekdayName
  split <;> exact of_all rfl

theorem nanoText (nano count : Nat) : IsUnescaped (nanoText nano count) := by
  refine append ((padded _ _).take _) fun c hc => ?_
  obtain ⟨-, rfl⟩ := List.mem_replicate.mp hc
  decide

theorem zoneText (t : Moment) : IsUnescaped t.zoneText :=
  cons (offsetSign t) (append (padded _ _) (cons (by decide) (padded _ _)))

end IsUnescaped

theorem isUnescaped_fieldText (t : Moment) (f : Field) (count : Nat) :
    IsUnescaped (fieldText t f count) := by
  unfold fieldText
  split
  case h_1 =>
    split
    · exact .padded _ _
    · exact .signedText _ _
  case h_2 =>
    split
    · exact .padded _ _
    · exact .nameText (.monthName _) _
  case h_12 => split <;> exact .cons (by decide) (.cons (by decide) .nil)
  case h_11 => exact .nanoText _ _
  case h_13 => exact .nameText (.weekdayName _) _
  case h_14 =>
    split
    · exact .offsetText _ _
    · split
      · refine .cons (by decide) (.cons (by decide) (.cons (by decide) ?_))
        split
        · exact .nil
        · exact .offsetText _ _
      · split
        · exact .cons (by decide) .nil
        · exact .offsetText _ _
  case h_15 =>
    split
    · exact .cons (by decide) .nil
    · exact .offsetText _ _
  case h_16 => exact .offsetText _ _
  case h_17 => exact .zoneText _
  all_goals exact .padded _ _

/-! ### Literal characters -/

/-- The characters that the pieces of a pattern copy. -/
def copied (pieces : List Piece) : List Char :=
  pieces.filterMap fun
    | .literal c => some c
    | .field _ _ => none

theorem copied_addField (f : Field) (follows : Bool) (pieces : List Piece) :
    copied (addField f follows pieces) = copied pieces := by
  unfold addField
  split
  · split <;> rfl
  · rfl

theorem ne_backslash_of_isLetter {c : Char} (h : Text.isLetter c = true) : c ≠ '\\' := by
  rintro rfl
  exact absurd h (by decide)

/-- What a function reads of a text copies the backslashes of the text. -/
def CopiesBackslashes (read : List Char → Except PatternFault (List Piece)) (s : List Char) :
    Prop :=
  ∀ pieces, read s = .ok pieces → (copied pieces).count '\\' = s.count '\\'

namespace CopiesBackslashes

variable {read next : List Char → Except PatternFault (List Piece)} {c : Char} {s w : List Char}

theorem literal (h : CopiesBackslashes next s)
    (heq : read w = (next s).map (.literal c :: ·)) (hw : w.count '\\' = (c :: s).count '\\') :
    CopiesBackslashes read w := by
  intro pieces hread
  obtain ⟨rest, hrest, rfl⟩ := exists_of_map_eq_ok (heq.symm.trans hread)
  have hcopied : copied (.literal c :: rest) = c :: copied rest := rfl
  rw [hcopied, hw, List.count_cons, List.count_cons, h rest hrest]

theorem skip (h : CopiesBackslashes next s) (heq : read w = next s)
    (hw : w.count '\\' = s.count '\\') : CopiesBackslashes read w := by
  intro pieces hread
  rw [hw, h pieces (heq.symm.trans hread)]

end CopiesBackslashes

/-- A pattern is read so that its backslashes are copied, from inside a quotation on as well. -/
theorem copiesBackslashes (s : List Char) :
    CopiesBackslashes readPattern s ∧ CopiesBackslashes readQuoted s := by
  have hquote (s : List Char) : ('\'' :: s).count '\\' = s.count '\\' :=
    List.count_cons_of_ne (by decide)
  have h := readPattern.mutual_induct (CopiesBackslashes readPattern) (CopiesBackslashes readQuoted)
    ?empty ?doubled ?opening ?unknown ?field ?literal ?unended ?quotedDoubled ?closing ?quoted
  · exact ⟨h.1 s, h.2 s⟩
  case empty =>
    rintro pieces ⟨⟩
    rfl
  case doubled => exact fun s ih => ih.literal (by rw [readPattern]) (hquote _)
  case opening => exact fun s hs ih => ih.skip (by rw [readPattern]; exact hs) (hquote s)
  case unknown =>
    intro c s _ _ hletter hnone pieces hread
    rw [readPattern_letter hletter, hnone] at hread
    cases hread
  case field =>
    intro c s _ _ hletter f hf ih pieces hread
    rw [readPattern_letter hletter, hf] at hread
    obtain ⟨rest, hrest, rfl⟩ := exists_of_map_eq_ok hread
    rw [copied_addField, ih rest hrest, List.count_cons_of_ne (ne_backslash_of_isLetter hletter)]
  case literal =>
    exact fun c s _ hc hletter ih => ih.literal (readPattern_literal hc hletter s) rfl
  case unended => rintro pieces ⟨⟩
  case quotedDoubled => exact fun s ih => ih.literal (by rw [readQuoted]) (hquote _)
  case closing => exact fun s hs ih => ih.skip (by rw [readQuoted]; exact hs) (hquote s)
  case quoted => exact fun c s _ hc ih => ih.literal (readQuoted_literal hc s) rfl

theorem count_flatMap_pieceText (t : Moment) (pieces : List Piece) :
    (pieces.flatMap (pieceText t)).count '\\' = (copied pieces).count '\\' := by
  induction pieces with
  | nil => rfl
  | cons piece pieces ih =>
    rw [List.flatMap_cons, List.count_append, ih]
    cases piece with
    | literal c =>
      have hcons : copied (.literal c :: pieces) = [c] ++ copied pieces := rfl
      rw [hcons, List.count_append]
      rfl
    | field f count =>
      have hnone : '\\' ∉ fieldText t f count := fun h => isUnescaped_fieldText t f count _ h rfl
      rw [pieceText, List.count_eq_zero_of_not_mem hnone, Nat.zero_add]
      rfl

/-- A moment in the form of a pattern has the backslashes of the pattern. -/
theorem count_format {t : Moment} {pattern s : List Char} (h : t.format pattern = .ok s) :
    s.count '\\' = pattern.count '\\' := by
  unfold format at h
  cases hread : readPattern pattern with
  | error fault =>
    rw [hread] at h
    cases h
  | ok pieces =>
    rw [hread] at h
    cases h
    rw [count_flatMap_pieceText, (copiesBackslashes pattern).1 pieces hread]

end RowTemplate.Moment
