import Mathlib
import RowTemplate.Proofs.Moment.Reading

/-! # Texts between quotes

A text stands in a date pattern between quotes, with each of its own quotes
doubled, and is copied as it is. A quote at its beginning makes three quotes in
a row, and the first two of them are read as a quote before a quotation opens.
That comes to the same, unless the text has nothing but quotes: then no
quotation opens at all, and one quote too many is copied.
-/

namespace RowTemplate.Moment

variable {t : Moment} {s pattern : List Char}

/-- The text with each of its quotes doubled. -/
def doubled : List Char → List Char
  | [] => []
  | c :: s => if c = '\'' then '\'' :: '\'' :: doubled s else c :: doubled s

/-- The text between quotes. -/
def inQuotes (s : List Char) : List Char := '\'' :: doubled s ++ ['\'']

/-- What is copied of a text between quotes. -/
def copiedOf (s : List Char) : List Char := if ∀ c ∈ s, c = '\'' then '\'' :: s else s

theorem readQuoted_doubled (s : List Char) :
    readQuoted (doubled s ++ ['\'']) = .ok (s.map .literal) := by
  induction s with
  | nil => rfl
  | cons c s ih =>
    rw [doubled]
    split_ifs with hc
    · rw [List.cons_append, List.cons_append, readQuoted, ih, hc]
      rfl
    · rw [List.cons_append, readQuoted_literal hc, ih]
      rfl

/-- Two quotes in front of a quotation are one quote more. -/
theorem inQuotes_quote (s : List Char) : inQuotes ('\'' :: s) = '\'' :: '\'' :: inQuotes s := by
  rw [inQuotes, doubled, if_pos rfl, inQuotes]
  rfl

theorem copiedOf_quote (s : List Char) : copiedOf ('\'' :: s) = '\'' :: copiedOf s := by
  have hall : (∀ c ∈ '\'' :: s, c = '\'') ↔ ∀ c ∈ s, c = '\'' := by simp
  rw [copiedOf, copiedOf, apply_ite ('\'' :: ·)]
  exact if_congr hall rfl rfl

theorem copiedOf_of_ne {c : Char} (hc : c ≠ '\'') (s : List Char) : copiedOf (c :: s) = c :: s :=
  if_neg fun h => hc (h c List.mem_cons_self)

theorem readPattern_inQuotes (s : List Char) :
    readPattern (inQuotes s) = .ok ((copiedOf s).map .literal) := by
  induction s with
  | nil =>
    rw [copiedOf, if_pos (List.forall_mem_nil _)]
    rfl
  | cons c s ih =>
    by_cases hc : c = '\''
    · subst hc
      rw [inQuotes_quote, readPattern, ih, copiedOf_quote, List.map_cons]
      rfl
    · have hhead : (doubled (c :: s) ++ ['\'']).head? ≠ some '\'' := by
        rw [doubled, if_neg hc]
        exact fun h => hc (Option.some.inj h)
      rw [inQuotes, List.cons_append, readPattern_quote hhead, readQuoted_doubled,
        copiedOf_of_ne hc]

theorem format_of_literals (h : readPattern pattern = .ok (s.map .literal)) :
    t.format pattern = .ok s := by
  have hcopy : (s.map Piece.literal).flatMap (pieceText t) = s := by
    rw [List.flatMap_map]
    exact List.flatMap_singleton' s
  rw [format, h]
  exact congrArg Except.ok hcopy

/-- A text between quotes is a pattern whatever the text is. It is copied as it is if it has a
character that is no quote; a text of quotes, or an empty one, is copied with one quote more. -/
theorem format_inQuotes (t : Moment) (s : List Char) :
    t.format (inQuotes s) = .ok (if ∀ c ∈ s, c = '\'' then '\'' :: s else s) :=
  format_of_literals (readPattern_inQuotes s)

/-- A single quote between quotes is copied as two. -/
theorem format_inQuotes_quote :
    let t : Moment := ⟨2024, 3, 5, 14, 7, 9, 123456789, 3600⟩
    ['\''] ≠ [] ∧ inQuotes ['\''] = "''''".toList ∧ t.format (inQuotes ['\'']) = .ok "''".toList ∧
      t.format (inQuotes ['\'']) ≠ .ok ['\''] := by
  decide

end RowTemplate.Moment
