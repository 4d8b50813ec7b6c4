import RowTemplate.Proofs.Row.Isolation
import RowTemplate.Proofs.Row.Records

/-! # Lines of rows

The line in the result of a row is counted from the rows before it. It is the
line on which the record of the row begins if every line break before it ends a
record; blank lines and the line breaks inside quotes are not counted.
-/

namespace RowTemplate.Csv

open Progress (start step isLineEnd)

variable {bytes before : List UInt8}

/-- The number of line breaks in a text: line feeds, carriage returns, or both together. -/
def lineBreaks : List UInt8 → Nat
  | [] => 0
  | 13 :: 10 :: s => lineBreaks s + 1
  | b :: s => if isLineEnd b then lineBreaks s + 1 else lineBreaks s

/-- Where the reader stands at each line break of a text. -/
def breakPlaces (p : Progress) : List UInt8 → List Place
  | [] => []
  | 13 :: 10 :: s => p.place :: breakPlaces ((p.step 13).step 10) s
  | b :: s =>
    if isLineEnd b then p.place :: breakPlaces (p.step b) s else breakPlaces (p.step b) s

theorem length_breakPlaces (p : Progress) (s : List UInt8) :
    (breakPlaces p s).length = lineBreaks s := by
  fun_induction breakPlaces p s with
  | case1 => rfl
  | case2 p s ih => rw [lineBreaks, List.length_cons, ih]
  | case3 p b s hpair hend ih => rw [lineBreaks.eq_3 b s hpair, if_pos hend, List.length_cons, ih]
  | case4 p b s hpair hend ih => rw [lineBreaks.eq_3 b s hpair, if_neg hend, ih]

/-! ### Line breaks that end records -/

namespace Progress

variable {p : Progress} {b : UInt8}

/-- A byte ends a record if it ends a line, outside of quotes and behind something. -/
theorem length_records_step (p : Progress) (b : UInt8) :
    (p.step b).records.length =
      p.records.length + if isLineEnd b = true ∧ p.place.endsRecord = true then 1 else 0 := by
  have hdoes := p.does_step b
  generalize p.step b = p' at hdoes ⊢
  cases hdoes with
  | blank hplace => simp [hplace, Place.endsRecord]
  | endRecord hplace hend => simp [hplace, hend, Progress.endRecord]
  | inQuotes hplace _ _ hrecords => simp [hplace, hrecords, Place.endsRecord]
  | goOn hend _ hrecords => simp [hend, hrecords]

/-- The second byte of a line break ends no further record. -/
theorem endsRecord_step (h : isLineEnd b = true) : (p.step b).place.endsRecord = false := by
  have hdoes := p.does_step b
  generalize p.step b = p' at hdoes ⊢
  cases hdoes with
  | blank hplace => rw [hplace]; rfl
  | endRecord => rfl
  | inQuotes _ _ hplace => rw [hplace]; rfl
  | goOn hend => simp [hend] at h

end Progress

/-- A run reads as many records as it meets line breaks that end one. -/
theorem length_records_foldl (p : Progress) (s : List UInt8) :
    (s.foldl step p).records.length =
      p.records.length + (breakPlaces p s).countP Place.endsRecord := by
  fun_induction breakPlaces p s with
  | case1 => rfl
  | case2 p s ih =>
    have hreturn : isLineEnd 13 = true := rfl
    rw [List.foldl_cons, List.foldl_cons, ih, Progress.length_records_step,
      Progress.length_records_step, Progress.endsRecord_step hreturn, List.countP_cons]
    simp only [hreturn, true_and, Bool.false_eq_true, and_false, if_false]
    omega
  | case3 p b s _ hend ih =>
    rw [List.foldl_cons, ih, Progress.length_records_step, List.countP_cons]
    simp only [hend, true_and]
    omega
  | case4 p b s _ hend ih =>
    rw [List.foldl_cons, ih, Progress.length_records_step, if_neg fun h => hend h.1, Nat.add_zero]

/-- A line break ends a record or a blank line, or stands inside quotes. -/
theorem length_places (places : List Place) :
    places.length = places.countP Place.endsRecord + places.count .betweenRecords +
      places.count .quoted := by
  induction places with
  | nil => rfl
  | cons place places ih =>
    rw [List.length_cons, ih, List.countP_cons, List.count_cons, List.count_cons]
    cases place <;> simp +arith [Place.endsRecord]

/-- The line on which a record begins. -/
theorem StartsBehind.lineBreaks_eq {j : Nat} (h : StartsBehind bytes j before) :
    lineBreaks before = j + (breakPlaces start before).count .betweenRecords +
      (breakPlaces start before).count .quoted := by
  have hrecords := length_records_foldl start before
  rw [h.count] at hrecords
  rw [← length_breakPlaces start before, length_places, hrecords]
  simp [start]

/-! ### Results -/

/-- The result of a row names the line on which its record begins exactly if every line break before
the record ends another one: it leaves out the blank lines before the record and the line breaks
inside quotes. A report of a failure names the same line. -/
theorem line_of_row {rows : List Row} {template : Json} {ctx : Context} {i : Nat} {r : RowResult}
    (hrows : rows? bytes = some rows)
    (hr : (expandRows template rows ctx).1[i]? = some r) :
    ∃ head fields before,
      ((records bytes)[0]?.bind fun record => record.mapM fieldText?) = some head ∧
      ((records bytes)[i + 1]?.bind fun record => record.mapM fieldText?) = some fields ∧
      r.row = .cells (cells head fields) ∧
      (∀ before', StartsBehind (withoutMark bytes) (i + 1) before' ↔ before' = before) ∧
      (((withoutMark bytes).drop before.length).foldl step start).finish =
        (records bytes).drop (i + 1) ∧
      lineBreaks before + 1 = r.line + (breakPlaces start before).count .betweenRecords +
        (breakPlaces start before).count .quoted ∧
      (r.line = lineBreaks before + 1 ↔
        ∀ place ∈ breakPlaces start before, place.endsRecord = true) ∧
      ∀ report, r.failure? = some report →
        ∃ entries, report = .object entries ∧ entries.lookup "line" = some (.ofNat r.line) := by
  rw [expandRows, expandRowsFrom_fst (.refl ctx), List.getElem?_mapIdx] at hr
  obtain ⟨row, hrow, rfl⟩ := Option.map_eq_some_iff.mp hr
  obtain ⟨head, fields, hhead, hfields, rfl⟩ := exists_texts_of_rows? hrows hrow
  have hlt : i + 1 < ((withoutMark bytes).foldl step start).finish.length := by
    obtain ⟨record, hrecord, -⟩ := Option.bind_eq_some_iff.mp hfields
    exact (List.getElem?_eq_some_iff.mp hrecord).1
  obtain ⟨before, hstarts, hunique⟩ := existsUnique_startsBehind hlt
  have hline : Row.lineNumber (.cells (cells head fields)) (0 + i) = i + 2 := by
    rw [Nat.zero_add, Row.lineNumber]
  refine ⟨head, fields, before, hhead, hfields, rfl, fun before' => ⟨hunique before', ?_⟩,
    hstarts.finish_drop, ?_, ?_, ?_⟩
  · rintro rfl
    exact hstarts
  · simp only [hline, hstarts.lineBreaks_eq]
    omega
  · have hrecords : i + 1 = 0 + (breakPlaces start before).countP Place.endsRecord :=
      hstarts.count ▸ length_records_foldl start before
    simp only [hline, ← length_breakPlaces start before, ← List.countP_eq_length]
    omega
  · intro report hreport
    unfold RowResult.failure? at hreport
    split at hreport
    case h_1 => cases hreport
    case h_2 => exact ⟨_, (Option.some.inj hreport).symm, rfl⟩

/-- A row behind a blank line and a field on two lines. -/
theorem line_of_row_after_quotes :
    let bytes := "a\n\n\"x\ny\"\nz\n".toUTF8.data.toList
    let rows := [Row.cells [("a", some "x\ny")], Row.cells [("a", some "z")]]
    let ctx := Context.ofSettings {} ⟨2024, 6, 1, 9, 15, 0, 0, 7200⟩
    let r : RowResult := ⟨3, .cells [("a", some "z")], .ok (some .null)⟩
    rows? bytes = some rows ∧ (expandRows .null rows ctx).1[1]? = some r ∧
      ∃ before, (∀ before', StartsBehind (withoutMark bytes) 2 before' ↔ before' = before) ∧
        (r.line = lineBreaks before + 1 ↔
          ∀ place ∈ breakPlaces start before, place.endsRecord = true) := by
  intro bytes rows ctx r
  have hrows : rows? bytes = some rows := by cbv
  have hr : (expandRows .null rows ctx).1[1]? = some r := rfl
  obtain ⟨-, -, before, -, -, -, hunique, -, -, hline, -⟩ := line_of_row hrows hr
  exact ⟨hrows, hr, before, hunique, hline⟩

/-- A blank line in front of a row, and line breaks inside quotes, make the row stand below the line
that its result names. -/
theorem line_of_row_behind :
    let ctx := Context.ofSettings {} ⟨2024, 6, 1, 9, 15, 0, 0, 7200⟩
    let blank := "a\n\n1\n".toUTF8.data.toList
    let quoted := "a\n\"x\ny\"\nz\n".toUTF8.data.toList
    (∃ rows r, rows? blank = some rows ∧ (expandRows .null rows ctx).1[0]? = some r ∧ r.line = 2 ∧
        ∃ before, StartsBehind (withoutMark blank) 1 before ∧ lineBreaks before + 1 = 3) ∧
      ∃ rows r, rows? quoted = some rows ∧ (expandRows .null rows ctx).1[1]? = some r ∧
        r.line = 3 ∧
        ∃ before, StartsBehind (withoutMark quoted) 2 before ∧ lineBreaks before + 1 = 4 := by
  intro ctx blank quoted
  constructor
  · have hrows : rows? blank = some [.cells [("a", some "1")]] := by cbv
    refine ⟨_, _, hrows, rfl, rfl, "a\n\n".toUTF8.data.toList, ⟨?_, ?_, ?_⟩, ?_⟩
    · exact ⟨49, [10], by decide, rfl⟩
    · decide
    · decide
    · decide
  · have hrows : rows? quoted = some [.cells [("a", some "x\ny")], .cells [("a", some "z")]] := by
      cbv
    refine ⟨_, _, hrows, rfl, rfl, "a\n\"x\ny\"\n".toUTF8.data.toList, ⟨?_, ?_, ?_⟩, ?_⟩
    · exact ⟨122, [10], by decide, rfl⟩
    · decide
    · decide
    · decide

end RowTemplate.Csv
