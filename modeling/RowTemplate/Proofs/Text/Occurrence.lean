import Mathlib
import RowTemplate.Proofs.Span.Bytes
import RowTemplate.Text.Search

/-! # Occurrences in texts

A text is cut at the least position where another one begins. The parts between
the occurrences of a separator hold none of it, and with the separator between
them they are the whole text again. In the UTF-8 form of texts an occurrence
begins at the first byte of a character, so that the bytes and the characters
before the first one belong together.
-/

namespace RowTemplate.Text

variable {needle s before after part rest : List Char} {c : Char} {k b : Nat}

/-- The positions of a text at which another one begins. -/
def occurrences {α : Type} (needle s : List α) : Set Nat := {k | needle <+: s.drop k}

theorem mem_occurrences {α : Type} {needle s : List α} :
    k ∈ occurrences needle s ↔ needle <+: s.drop k := Iff.rfl

theorem zero_mem_occurrences : 0 ∈ occurrences needle s ↔ needle.isPrefixOf s = true := by
  rw [mem_occurrences, List.drop_zero, List.isPrefixOf_iff_prefix]

theorem isLeast_occurrences_nil (s : List Char) : IsLeast (occurrences [] s) 0 :=
  ⟨List.nil_prefix, fun _ _ => Nat.zero_le _⟩

/-! ### Cutting -/

theorem isLeast_of_cut? (h : cut? needle s = some (before, after)) :
    IsLeast (occurrences needle s) before.length := by
  induction s generalizing before with
  | nil =>
    unfold cut? at h
    split at h
    case isTrue hneedle =>
      cases h
      subst hneedle
      exact isLeast_occurrences_nil []
    case isFalse => cases h
  | cons c s ih =>
    unfold cut? at h
    split at h
    case isTrue hfirst =>
      cases h
      exact ⟨List.isPrefixOf_iff_prefix.mp hfirst, fun _ _ => Nat.zero_le _⟩
    case isFalse hfirst =>
      split at h
      case h_1 before' _ hcut =>
        cases h
        obtain ⟨hmem, hleast⟩ := ih hcut
        refine ⟨hmem, fun k hk => ?_⟩
        cases k with
        | zero => exact absurd (List.isPrefixOf_iff_prefix.mpr hk) hfirst
        | succ k => exact Nat.succ_le_succ (hleast hk)
      case h_2 => cases h

theorem not_mem_of_cut?_eq_none (h : cut? needle s = none) (k : Nat) :
    k ∉ occurrences needle s := by
  induction s generalizing k with
  | nil =>
    intro hk
    have hneedle : needle = [] := List.prefix_nil.mp (List.drop_nil ▸ hk)
    rw [cut?, if_pos hneedle] at h
    cases h
  | cons c s ih =>
    unfold cut? at h
    split at h
    case isTrue => cases h
    case isFalse hfirst =>
      split at h
      case h_1 => cases h
      case h_2 hcut =>
        cases k with
        | zero => exact fun hk => hfirst (List.isPrefixOf_iff_prefix.mpr hk)
        | succ k => exact ih hcut k

theorem mem_occurrences_of_infix (h : needle <:+: s) : ∃ k, k ∈ occurrences needle s := by
  obtain ⟨x, y, rfl⟩ := h
  refine ⟨x.length, y, ?_⟩
  rw [List.append_assoc, List.drop_left]

/-- What stands before the first occurrence of a text that is not empty holds none. -/
theorem not_infix_before (hneedle : needle ≠ []) (h : cut? needle s = some (before, after)) :
    ¬ needle <:+: before := by
  rintro ⟨x, y, rfl⟩
  have hs := eq_of_cut? h
  have hx : x.length ∈ occurrences needle s := by
    refine ⟨y ++ needle ++ after, ?_⟩
    rw [hs]
    simp only [List.append_assoc, List.drop_left]
  have hle := (isLeast_of_cut? h).2 hx
  have hpos := List.length_pos_iff.mpr hneedle
  simp only [List.length_append] at hle
  omega

/-! ### Parts -/

theorem splitOn_ne_nil (c : Char) (rest s : List Char) : splitOn c rest s ≠ [] := by
  unfold splitOn
  split <;> exact List.cons_ne_nil _ _

theorem splitOn_of_cut?_eq_some (h : cut? (c :: rest) s = some (before, after)) :
    splitOn c rest s = before :: splitOn c rest after := by
  rw [splitOn]
  split
  case h_1 hcut =>
    cases h.symm.trans hcut
    rfl
  case h_2 hcut => cases h.symm.trans hcut

theorem splitOn_of_cut?_eq_none (h : cut? (c :: rest) s = none) : splitOn c rest s = [s] := by
  rw [splitOn]
  split
  case h_1 hcut => cases h.symm.trans hcut
  case h_2 => rfl

theorem intercalate_splitOn (c : Char) (rest s : List Char) :
    (c :: rest).intercalate (splitOn c rest s) = s := by
  fun_induction splitOn c rest s with
  | case1 s before after hcut _ ih =>
    rw [List.intercalate_cons_of_ne_nil (splitOn_ne_nil c rest after), ih, ← eq_of_cut? hcut]
  | case2 s _ => exact List.intercalate_singleton

theorem not_infix_of_mem_splitOn (h : part ∈ splitOn c rest s) : ¬ c :: rest <:+: part := by
  fun_induction splitOn c rest s with
  | case1 s before after hcut _ ih =>
    rcases List.mem_cons.mp h with rfl | h
    · exact not_infix_before (List.cons_ne_nil c rest) hcut
    · exact ih h
  | case2 s hcut =>
    obtain rfl := List.mem_singleton.mp h
    intro hinfix
    obtain ⟨k, hk⟩ := mem_occurrences_of_infix hinfix
    exact not_mem_of_cut?_eq_none hcut k hk

theorem intercalate_split (separator s : List Char) :
    separator.intercalate (split separator s) = s := by
  cases separator with
  | cons c rest => exact intercalate_splitOn c rest s
  | nil =>
    induction s with
    | nil => rfl
    | cons c s ih =>
      rw [split, List.map_cons]
      by_cases hs : s = []
      · subst hs
        rfl
      · rw [List.intercalate_cons_of_ne_nil (by simpa using hs)]
        exact congrArg (c :: ·) ih

/-! ### Bytes -/

/-- The first byte of a character is told from its other ones. -/
theorem exists_byte_isUTF8FirstByte_iff (s : List Char) (hb : b < c.utf8Size) :
    ∃ x, (utf8 (c :: s))[b]? = some x ∧ (x.IsUTF8FirstByte ↔ b = 0) := by
  have hlt : b < (String.utf8EncodeChar c).length := by rwa [String.length_utf8EncodeChar]
  refine ⟨(String.utf8EncodeChar c)[b], ?_, UInt8.isUTF8FirstByte_getElem_utf8EncodeChar⟩
  rw [utf8_cons, List.getElem?_append_left hlt, List.getElem?_eq_getElem hlt]

/-- The bytes of a text begin at the first byte of a character. -/
theorem exists_utf8_prefix (hneedle : needle ≠ []) (h : b ∈ occurrences (utf8 needle) (utf8 s)) :
    ∃ before after, s = before ++ after ∧ byteWidth before = b ∧ utf8 needle <+: utf8 after := by
  obtain ⟨d, more, rfl⟩ := List.exists_cons_of_ne_nil hneedle
  obtain ⟨x, hx, hfirst⟩ := exists_byte_isUTF8FirstByte_iff more d.utf8Size_pos
  have hbyte : (utf8 s)[b]? = some x := by
    obtain ⟨hlt, hx⟩ := List.getElem?_eq_some_iff.mp hx
    have hget := List.prefix_iff_getElem?.mp h 0 hlt
    rwa [List.getElem?_drop, Nat.add_zero, hx] at hget
  induction s generalizing b with
  | nil => cases hbyte
  | cons c s ih =>
    rcases Nat.lt_or_ge b c.utf8Size with hb | hb
    -- The first byte of the text that begins here is not found behind the first one of `c`.
    · obtain ⟨y, hy, hzero⟩ := exists_byte_isUTF8FirstByte_iff s hb
      obtain rfl : x = y := Option.some.inj (hbyte.symm.trans hy)
      obtain rfl : b = 0 := hzero.mp (hfirst.mpr rfl)
      exact ⟨[], c :: s, rfl, rfl, h⟩
    · have hlen : (String.utf8EncodeChar c).length = c.utf8Size := String.length_utf8EncodeChar c
      have hdrop : (utf8 (c :: s)).drop b = (utf8 s).drop (b - c.utf8Size) := by
        rw [utf8_cons, List.drop_append, List.drop_eq_nil_of_le (hlen ▸ hb), hlen, List.nil_append]
      have hmem : b - c.utf8Size ∈ occurrences (utf8 (d :: more)) (utf8 s) := by
        rwa [mem_occurrences, ← hdrop]
      have hbyte' : (utf8 s)[b - c.utf8Size]? = some x := by
        rwa [utf8_cons, List.getElem?_append_right (hlen ▸ hb), hlen] at hbyte
      obtain ⟨before, after, rfl, hwidth, hprefix⟩ := ih hmem hbyte'
      refine ⟨c :: before, after, rfl, ?_, hprefix⟩
      rw [byteWidth, hwidth]
      omega

/-- No bytes of a character are the first ones of another character. -/
theorem prefix_of_utf8_prefix (h : utf8 needle <+: utf8 s) : needle <+: s := by
  induction needle generalizing s with
  | nil => exact List.nil_prefix
  | cons c needle ih =>
    obtain ⟨tail, htail⟩ := h
    cases s with
    | nil =>
      have hlen := congrArg List.length htail
      have hpos := c.utf8Size_pos
      simp only [List.length_append, length_utf8, byteWidth] at hlen
      omega
    | cons d s =>
      rw [utf8_cons, utf8_cons, List.append_assoc] at htail
      have hdecode := congrArg (fun bytes => bytes.toByteArray.utf8DecodeChar? 0) htail
      simp only [List.toByteArray_append, ByteArray.utf8DecodeChar?_utf8EncodeChar_append,
        Option.some.injEq] at hdecode
      subst hdecode
      exact List.cons_prefix_cons.mpr ⟨rfl, ih ⟨tail, List.append_cancel_left htail⟩⟩

theorem mem_occurrences_utf8_iff (hneedle : needle ≠ []) :
    b ∈ occurrences (utf8 needle) (utf8 s) ↔
      ∃ k ∈ occurrences needle s, k ≤ s.length ∧ byteWidth (s.take k) = b := by
  constructor
  · intro h
    obtain ⟨before, after, rfl, hwidth, hprefix⟩ := exists_utf8_prefix hneedle h
    refine ⟨before.length, ?_, by simp, by rwa [List.take_left]⟩
    rw [mem_occurrences, List.drop_left]
    exact prefix_of_utf8_prefix hprefix
  · rintro ⟨k, ⟨tail, htail⟩, -, rfl⟩
    refine ⟨utf8 tail, ?_⟩
    rw [← utf8_append, htail, ← length_utf8]
    conv_rhs => rw [← List.take_append_drop k s, utf8_append, List.take_append_drop]
    rw [List.drop_left]

/-- The bytes before the first occurrence are those of the characters before it. -/
theorem isLeast_occurrences_utf8 (h : IsLeast (occurrences needle s) k) (hk : k ≤ s.length) :
    IsLeast (occurrences (utf8 needle) (utf8 s)) (byteWidth (s.take k)) := by
  by_cases hneedle : needle = []
  · subst hneedle
    obtain rfl : k = 0 := h.unique (isLeast_occurrences_nil s)
    exact ⟨List.nil_prefix, fun _ _ => Nat.zero_le _⟩
  · refine ⟨(mem_occurrences_utf8_iff hneedle).mpr ⟨k, h.1, hk, rfl⟩, fun b hb => ?_⟩
    obtain ⟨j, hj, -, rfl⟩ := (mem_occurrences_utf8_iff hneedle).mp hb
    obtain ⟨between, hbetween⟩ := List.take_prefix_take_left (l := s) (h.2 hj)
    rw [← hbetween, byteWidth_append]
    exact Nat.le_add_right _ _

end RowTemplate.Text
