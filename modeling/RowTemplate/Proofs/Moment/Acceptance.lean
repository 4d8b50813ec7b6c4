import RowTemplate.Proofs.Moment.Reading
import RowTemplate.Proofs.Number.Truncation

/-! # Accepted patterns

Every quote of a date pattern opens a quotation or closes one. Two in a row,
which are read as a quote, may be counted in the same way: the second takes back
what the first has done. So the number of quotes in front of a place tells
whether it lies inside a quotation, and a pattern is accepted just if it does
not end inside of one and all letters outside stand for fields. The moment and
the lengths of the fields do not matter.
-/

namespace RowTemplate.Moment

open Number (padded)
open Text (isLetter)

variable {n : Nat} {c : Char} {s : List Char}

/-- The letters that stand for fields. -/
def fieldLetters : List Char := "yuMLdDHkhKmsSaEZXxzVO".toList

/-- A text that stands behind `n` quotes of a pattern ends outside of quotations, and its letters
outside of them stand for fields. -/
@[mk_iff]
structure IsReadable (n : Nat) (s : List Char) : Prop where
  closed : Even (n + s.count '\'')
  letters : ∀ before c behind, s = before ++ c :: behind → Even (n + before.count '\'') →
    isLetter c = true → c ∈ fieldLetters

theorem isReadable_nil_iff : IsReadable n [] ↔ Even n := by
  refine ⟨fun h => h.closed, fun h => ⟨h, fun before c behind hs => ?_⟩⟩
  cases before <;> cases hs

theorem isReadable_cons_iff :
    IsReadable n (c :: s) ↔
      (Even n → isLetter c = true → c ∈ fieldLetters) ∧
        IsReadable (n + if c = '\'' then 1 else 0) s := by
  have hcount (s : List Char) :
      n + (c :: s).count '\'' = n + (if c = '\'' then 1 else 0) + s.count '\'' := by
    rw [List.count_cons, beq_eq_decide, Nat.add_assoc, Nat.add_comm (s.count '\'')]
    simp
  constructor
  · intro h
    refine ⟨h.letters [] c s rfl, hcount s ▸ h.closed, fun before d behind hs => ?_⟩
    have hletters := h.letters (c :: before) d behind (by rw [hs, List.cons_append])
    rwa [hcount] at hletters
  · rintro ⟨hc, h⟩
    refine ⟨hcount s ▸ h.closed, fun before d behind hs => ?_⟩
    cases before with
    | nil =>
      cases hs
      exact hc
    | cons e before =>
      obtain ⟨rfl, hrest⟩ := List.cons.inj hs
      rw [hcount]
      exact h.letters before d behind hrest

theorem isReadable_quote_iff : IsReadable n ('\'' :: s) ↔ IsReadable (n + 1) s := by
  rw [isReadable_cons_iff, if_pos rfl]
  exact and_iff_right fun _ h => absurd h (by decide)

theorem isReadable_cons_iff_of_ne (hc : c ≠ '\'') :
    IsReadable n (c :: s) ↔
      (Even n → isLetter c = true → c ∈ fieldLetters) ∧ IsReadable n s := by
  rw [isReadable_cons_iff, if_neg hc, Nat.add_zero]

/-- Of the number of quotes in front only the parity counts. -/
theorem IsReadable.of_even_iff {m : Nat} (hmn : Even n ↔ Even m) (h : IsReadable n s) :
    IsReadable m s where
  closed := by
    rw [Nat.even_add, ← hmn, ← Nat.even_add]
    exact h.closed
  letters := by
    intro before c behind hs hbefore
    rw [Nat.even_add, ← hmn, ← Nat.even_add] at hbefore
    exact h.letters before c behind hs hbefore

theorem isReadable_add_two_iff : IsReadable (n + 2) s ↔ IsReadable n s := by
  have heven : Even (n + 2) ↔ Even n := by
    rw [Nat.even_add]
    exact iff_true_right even_two
  exact ⟨.of_even_iff heven, .of_even_iff heven.symm⟩

theorem mem_fieldLetters_iff : c ∈ fieldLetters ↔ Field.ofLetter? c ≠ none := by
  constructor
  · have hall : fieldLetters.all (fun c => (Field.ofLetter? c).isSome) = true := by decide
    intro h
    exact Option.isSome_iff_ne_none.mp (List.all_eq_true.mp hall c h)
  · intro h
    unfold Field.ofLetter? at h
    split at h
    all_goals first | decide | exact absurd rfl h

theorem exists_map_eq_ok_iff {α β ε : Type} {r : Except ε α} {f : α → β} :
    (∃ y, r.map f = .ok y) ↔ ∃ x, r = .ok x := by
  cases r with
  | error fault => simp [Except.map]
  | ok x => simp [Except.map]

/-- Outside of quotations and inside of one a text is read just if it is readable. -/
theorem read_iff (s : List Char) :
    ((∃ pieces, readPattern s = .ok pieces) ↔ IsReadable 0 s) ∧
      ((∃ pieces, readQuoted s = .ok pieces) ↔ IsReadable 1 s) := by
  have h := readPattern.mutual_induct
    (fun s => (∃ pieces, readPattern s = .ok pieces) ↔ IsReadable 0 s)
    (fun s => (∃ pieces, readQuoted s = .ok pieces) ↔ IsReadable 1 s)
    ?empty ?doubled ?opening ?unknown ?field ?literal ?unended ?quotedDoubled ?closing ?quoted
  · exact ⟨h.1 s, h.2 s⟩
  case empty => exact iff_of_true ⟨[], rfl⟩ (isReadable_nil_iff.mpr Even.zero)
  case doubled =>
    intro s ih
    rw [readPattern, exists_map_eq_ok_iff, ih, isReadable_quote_iff, isReadable_quote_iff]
    exact isReadable_add_two_iff.symm
  case opening =>
    intro s hs ih
    rw [readPattern, ih, isReadable_quote_iff]
    exact hs
  case unknown =>
    intro c s _ _ hletter hnone
    rw [readPattern_letter hletter, hnone]
    refine iff_of_false (by rintro ⟨pieces, ⟨⟩⟩) fun h => ?_
    exact mem_fieldLetters_iff.mp (h.letters [] c s rfl Even.zero hletter) hnone
  case field =>
    intro c s _ hc hletter f hf ih
    rw [readPattern_letter hletter, hf]
    refine exists_map_eq_ok_iff.trans (ih.trans ?_)
    have hmem : c ∈ fieldLetters :=
      mem_fieldLetters_iff.mpr fun hnone => Option.some_ne_none f (hf.symm.trans hnone)
    rw [isReadable_cons_iff_of_ne hc]
    exact (and_iff_right fun _ _ => hmem).symm
  case literal =>
    intro c s _ hc hletter ih
    rw [readPattern_literal hc hletter, exists_map_eq_ok_iff, ih, isReadable_cons_iff_of_ne hc]
    exact (and_iff_right fun _ h => absurd h hletter).symm
  case unended =>
    refine iff_of_false (by rintro ⟨pieces, ⟨⟩⟩) fun h => ?_
    exact absurd (isReadable_nil_iff.mp h) Nat.not_even_one
  case quotedDoubled =>
    intro s ih
    rw [readQuoted, exists_map_eq_ok_iff, ih, isReadable_quote_iff, isReadable_quote_iff]
    exact isReadable_add_two_iff.symm
  case closing =>
    intro s hs ih
    rw [readQuoted, ih, isReadable_quote_iff]
    · exact isReadable_add_two_iff.symm
    · exact hs
  case quoted =>
    intro c s _ hc ih
    rw [readQuoted_literal hc, exists_map_eq_ok_iff, ih, isReadable_cons_iff_of_ne hc]
    exact (and_iff_right fun h => absurd h Nat.not_even_one).symm

/-! ### Lengths of fields -/

theorem length_padded (width n : Nat) :
    (padded width n).length = max width (Number.digits n).length := by
  rw [padded, List.length_append, List.length_replicate]
  omega

/-- A fraction of a second has as many digits as the run has letters. -/
theorem length_nanoText (nano count : Nat) : (nanoText nano count).length = count := by
  have hdigits : (Number.digits (nano % 1000000000)).length ≤ 9 :=
    Number.length_digits_le (by decide) (Nat.mod_lt _ (by decide))
  rw [nanoText, List.length_append, List.length_take, length_padded, List.length_replicate]
  omega

theorem length_nameText {name : String} (hname : name.toList ≠ []) {count : Nat}
    (hcount : 4 < count) : (nameText name count).length = 1 := by
  have hpos := List.length_pos_of_ne_nil hname
  rw [nameText, if_neg (by omega), if_neg (by omega), List.length_take]
  omega

theorem monthName_ne_nil (month : Nat) : (monthName month).toList ≠ [] := by
  unfold monthName
  split <;> decide

theorem weekdayName_ne_nil (day : Nat) : (weekdayName day).toList ≠ [] := by
  unfold weekdayName
  split <;> decide

/-! ### Formatting -/

/-- A pattern is accepted at every moment or at none. It is accepted just if its quotes are even in
number and every letter with an even number of quotes in front stands for a field, in runs of any
length: what a field cuts out of the digits of a fraction or of a name is always there. -/
theorem format_accepts_iff (pattern : List Char) (t t' : Moment) :
    ((∃ s, t.format pattern = .ok s) ↔ ∃ s, t'.format pattern = .ok s) ∧
      ((∃ s, t.format pattern = .ok s) ↔
        Even (pattern.count '\'') ∧
          ∀ before c behind, pattern = before ++ c :: behind → Even (before.count '\'') →
            isLetter c = true → c ∈ fieldLetters) ∧
      ∀ count, (fieldText t .fraction count).length = count ∧
        (4 < count → (fieldText t .month count).length = 1 ∧
          (fieldText t .weekday count).length = 1) := by
  have haccepts (t : Moment) : (∃ s, t.format pattern = .ok s) ↔ IsReadable 0 pattern :=
    exists_map_eq_ok_iff.trans (read_iff pattern).1
  refine ⟨(haccepts t).trans (haccepts t').symm, ?_, fun count => ?_⟩
  · rw [haccepts, isReadable_iff]
    simp only [Nat.zero_add]
  · refine ⟨length_nanoText t.nano count, fun hcount => ⟨?_, ?_⟩⟩
    · rw [fieldText, if_neg (by omega)]
      exact length_nameText (monthName_ne_nil t.month) hcount
    · exact length_nameText (weekdayName_ne_nil t.weekday) hcount

end RowTemplate.Moment
