import RowTemplate.Proofs.Context.Reserved
import RowTemplate.Proofs.Fields
import RowTemplate.Proofs.Row.Records

/-! # What a row reports and what it binds

A row of a table binds the fields that its record has, and reports a cell for
every name of the head, null where the record is too short. Where a name stands
in the head more than once the last field counts for the bindings, and the last
cell for the report. The two agree unless a name that has a field stands in the
head again behind the end of the record.
-/

namespace RowTemplate

variable {name : String} {fields : List (String × Json)}

/-- The fields of an object that are texts. -/
def textFields : List (String × Json) → List (String × String)
  | [] => []
  | (name, .string s) :: rest => (name, s) :: textFields rest
  | _ :: rest => textFields rest

theorem textFields_null (name : String) (rest : List (String × Json)) :
    textFields ((name, .null) :: rest) = textFields rest := rfl

theorem textFields_map_string (fields : List (String × String)) :
    textFields (fields.map fun p => (p.1, .string p.2)) = fields := by
  induction fields with
  | nil => rfl
  | cons p fields ih => rw [List.map_cons, textFields, ih]

theorem mem_map_fst_of_textFields {p : String × String} (h : p ∈ textFields fields) :
    p.1 ∈ fields.map Prod.fst := by
  fun_induction textFields fields with
  | case1 => cases h
  | case2 name s rest ih =>
    rcases List.mem_cons.mp h with rfl | h
    · exact List.mem_cons_self
    · exact List.mem_cons_of_mem name (ih h)
  | case3 p' rest _ ih => exact List.mem_cons_of_mem p'.1 (ih h)

theorem filter_textFields_of_not_mem (h : name ∉ fields.map Prod.fst) :
    (textFields fields).filter (·.1 ≠ name) = textFields fields := by
  refine List.filter_eq_self.mpr fun p hp => decide_eq_true fun heq => h ?_
  exact heq ▸ mem_map_fst_of_textFields hp

/-- Setting a field to null takes it from the texts. -/
theorem textFields_putField_null (h : Distinct fields) (name : String) :
    textFields (putField name .null fields) = (textFields fields).filter (·.1 ≠ name) := by
  fun_induction textFields fields with
  | case1 => rfl
  | case2 other s rest ih =>
    obtain ⟨hother, hrest⟩ := List.nodup_cons.mp h
    by_cases hn : name = other
    · subst hn
      rw [putField, if_pos rfl, textFields_null, List.filter_cons_of_neg (by simp),
        filter_textFields_of_not_mem hother]
    · rw [putField, if_neg hn, textFields, ih hrest,
        List.filter_cons_of_pos (by simpa using Ne.symm hn)]
  | case3 p rest hp ih =>
    obtain ⟨hother, hrest⟩ := List.nodup_cons.mp h
    by_cases hn : name = p.1
    · subst hn
      rw [putField, if_pos rfl, textFields_null, filter_textFields_of_not_mem hother]
    · rw [putField, if_neg hn, textFields.eq_3 _ _ hp, ih hrest]

theorem textFields_putFields_null (h : Distinct fields) (names : List String) :
    textFields (putFields fields (names.map (·, .null))) =
      (textFields fields).filter (·.1 ∉ names) := by
  induction names generalizing fields with
  | nil => simp [putFields]
  | cons name names ih =>
    have hrest := ih (h.putField name .null)
    rw [textFields_putField_null h, List.filter_filter] at hrest
    refine hrest.trans (List.filter_congr fun p _ => ?_)
    simp [Bool.and_comm]

/-! ### The cells of a record -/

namespace Csv

variable {head texts : List String}

/-- The fields of a record under their names, in the order of the head; the last field of a name
counts. -/
def named (head fields : List String) : List (String × String) :=
  putFields [] (head.zip fields)

theorem cells_eq (head fields : List String) :
    cells head fields = (head.zip fields).map (fun p => (p.1, some p.2)) ++
      (head.drop fields.length).map (·, none) := by
  fun_induction cells head fields with
  | case1 => simp
  | case2 name names ih => simp [ih]
  | case3 name names field fields ih => simp [ih]

theorem map_fst_zip (head fields : List String) :
    (head.zip fields).map Prod.fst = head.take fields.length := by
  fun_induction cells head fields with
  | case1 => simp
  | case2 => simp
  | case3 name names field fields ih => simp [ih]

theorem distinct_named (head fields : List String) : Distinct (named head fields) := by
  have hnil : Distinct ([] : List (String × String)) := List.nodup_nil
  exact hnil.putFields (head.zip fields)

theorem lookup_named (head fields : List String) (name : String) :
    (named head fields).lookup name = (head.zip fields).reverse.lookup name := by
  rw [named, lookup_putFields, List.lookup_nil, Option.or_none]

theorem mem_map_fst_named {head fields : List String} :
    name ∈ (named head fields).map Prod.fst ↔ name ∈ head.take fields.length := by
  rw [named, mem_map_fst_putFields, map_fst_zip]
  simp

theorem present_cells (head fields : List String) :
    Row.present (cells head fields) = head.zip fields := by
  fun_induction cells head fields with
  | case1 => simp [Row.present]
  | case2 name names ih => simpa [Row.present] using ih
  | case3 name names field fields ih => simpa [Row.present] using ih

/-- The fields of the report of a record: what it says under each name, and null under the names
behind its end. -/
def reported (head fields : List String) : List (String × Json) :=
  putFields ((named head fields).map fun p => (p.1, .string p.2))
    ((head.drop fields.length).map (·, .null))

theorem toJson_cells (head fields : List String) :
    (Row.cells (cells head fields)).toJson = .object (reported head fields) := by
  have hnamed := putFields_map Json.string [] (head.zip fields)
  rw [Row.toJson, cells_eq, List.map_append, putFields_append, List.map_map, List.map_map,
    reported, named, ← hnamed]
  rfl

theorem textFields_reported (head fields : List String) :
    textFields (reported head fields) =
      (named head fields).filter (·.1 ∉ head.drop fields.length) := by
  rw [reported, textFields_putFields_null ((distinct_named head fields).map _),
    textFields_map_string]

theorem lookup_map_mk {names : List String} (h : name ∈ names) (j : Json) :
    (names.map (·, j)).lookup name = some j := by
  induction names with
  | nil => cases h
  | cons other names ih =>
    by_cases heq : name = other
    · simp [heq]
    · rw [List.map_cons, lookup_cons_of_ne heq]
      exact ih ((List.mem_cons.mp h).resolve_left heq)

theorem lookup_reported {head fields : List String} (h : name ∈ head.drop fields.length) :
    (reported head fields).lookup name = some .null := by
  rw [reported, lookup_putFields, ← List.map_reverse, lookup_map_mk (List.mem_reverse.mpr h),
    Option.some_or]

end Csv

namespace Bindings

open Csv (cells named)

theorem columns_defineAll {b : Bindings} {base : List (String × Value)}
    (h : b.columns = base.map Prod.fst) (entries : List (String × Value)) :
    (b.defineAll entries).columns = (putFields base entries).map Prod.fst := by
  induction entries generalizing b base with
  | nil => exact h
  | cons p entries ih =>
    have hnext : (b.define p.1 p.2).columns = (putField p.1 p.2 base).map Prod.fst := by
      rw [columns_define, h, map_fst_putField]
      split
      · rw [List.append_nil]
      · rfl
    exact ih hnext

theorem columns_loadRow_cells (b : Bindings) (head texts : List String) :
    (b.loadRow (.cells (cells head texts))).columns = (named head texts).map Prod.fst := by
  have hreset : (b.reset true).columns = ([] : List (String × Value)).map Prod.fst := rfl
  have hcolumns := columns_defineAll hreset
    ((head.zip texts).map fun p => (p.1, Value.string p.2))
  have hnamed := putFields_map Value.string [] (head.zip texts)
  rw [loadRow, Csv.present_cells]
  refine hcolumns.trans ?_
  rw [← List.map_nil, hnamed, List.map_map]
  rfl

theorem exists_column_loadRow_cells (b : Bindings) (head texts : List String) :
    ∃ column, (b.loadRow (.cells (cells head texts))).get? "column" = some (.object column) ∧
      ∀ name, column.lookup name = ((named head texts).lookup name).map Value.string := by
  let entries := (head.zip texts).map fun p => (p.1, Value.string p.2)
  refine ⟨(Table.ofList entries).entries, ?_, fun name => ?_⟩
  · rw [loadRow, Csv.present_cells, get?_set, if_pos rfl]
    rfl
  · refine (find?_ofList entries name).trans ?_
    rw [← List.map_reverse, lookup_map, Csv.lookup_named]

end Bindings

/-- No field is left out of the report if none of their names stands in the head again behind the
end of the record. -/
theorem Csv.filter_named_eq_iff {head texts : List String} :
    (Csv.named head texts).filter (·.1 ∉ head.drop texts.length) = Csv.named head texts ↔
      ∀ name ∈ head.take texts.length, name ∉ head.drop texts.length := by
  rw [List.filter_eq_self]
  constructor
  · intro h name hname
    obtain ⟨p, hp, rfl⟩ := List.mem_map.mp (Csv.mem_map_fst_named.mpr hname)
    exact of_decide_eq_true (h p hp)
  · intro h p hp
    exact decide_eq_true (h p.1 (Csv.mem_map_fst_named.mp (List.mem_map_of_mem hp)))

/-- The report of a row agrees with the bindings: the texts of the report are what `column` binds,
and their names are the columns in order. -/
def Row.ReportAgrees (row : Row) (b : Bindings) : Prop :=
  ∃ snapshot column, row.toJson = .object snapshot ∧ b.get? "column" = some (.object column) ∧
    (∀ name, column.lookup name = ((textFields snapshot).lookup name).map Value.string) ∧
    b.columns = (textFields snapshot).map Prod.fst

namespace Csv

/-- A row that is read from a table binds what its record says under each name of the head, the last
field of a name counting; the report of the row says the same but for the names that stand in the
head again behind the end of the record, under which it says null. So the two agree exactly if no
name that has a field is one of these. -/
theorem report_of_row {bytes : List UInt8} {rows : List Row} {i : Nat} {row : Row}
    (hrows : rows? bytes = some rows) (hrow : rows[i]? = some row) :
    ∃ head texts,
      ((records bytes)[0]?.bind fun record => record.mapM fieldText?) = some head ∧
      ((records bytes)[i + 1]?.bind fun record => record.mapM fieldText?) = some texts ∧
      row = .cells (cells head texts) ∧
      (∀ name, (named head texts).lookup name = (head.zip texts).reverse.lookup name) ∧
      (∃ snapshot, row.toJson = .object snapshot ∧
        (∀ name ∈ head.drop texts.length, snapshot.lookup name = some .null) ∧
        textFields snapshot = (named head texts).filter (·.1 ∉ head.drop texts.length)) ∧
      ∀ ctx : Context,
        (∃ column, (ctx.loadRow row).bindings.get? "column" = some (.object column) ∧
          ∀ name, column.lookup name = ((named head texts).lookup name).map Value.string) ∧
        (ctx.loadRow row).bindings.columns = (named head texts).map Prod.fst ∧
        (row.ReportAgrees (ctx.loadRow row).bindings ↔
          ∀ name ∈ head.take texts.length, name ∉ head.drop texts.length) := by
  obtain ⟨head, texts, hhead, htexts, rfl⟩ := exists_texts_of_rows? hrows hrow
  have hreport := toJson_cells head texts
  have hlisted := textFields_reported head texts
  refine ⟨head, texts, hhead, htexts, rfl, lookup_named head texts,
    ⟨_, hreport, fun name hname => lookup_reported hname, hlisted⟩, fun ctx => ?_⟩
  obtain ⟨column, hcolumn, hlookup⟩ := ctx.bindings.exists_column_loadRow_cells head texts
  have hcolumns := ctx.bindings.columns_loadRow_cells head texts
  refine ⟨⟨column, hcolumn, hlookup⟩, hcolumns, ?_⟩
  rw [← filter_named_eq_iff]
  constructor
  · rintro ⟨snapshot, _, hsnapshot, -, -, hnames⟩
    obtain rfl := Json.object.inj (hreport.symm.trans hsnapshot)
    have hsame := hcolumns.symm.trans hnames
    rw [hlisted] at hsame
    -- A part of a list that has as many members is the whole of it.
    refine List.filter_sublist.eq_of_length ?_
    simpa using (congrArg List.length hsame).symm
  · intro hall
    refine ⟨_, column, hreport, hcolumn, fun name => ?_, ?_⟩
    · rw [hlisted, hall, hlookup]
    · rw [hlisted, hall]
      exact hcolumns

/-- A record with fewer fields than the head has names. -/
theorem report_of_row_short :
    let bytes := "a,b,c\n1,2\n".toUTF8.data.toList
    let row := Row.cells [("a", some "1"), ("b", some "2"), ("c", none)]
    let ctx := Context.ofSettings {} ⟨2024, 6, 1, 9, 15, 0, 0, 7200⟩
    rows? bytes = some [row] ∧ [row][0]? = some row ∧
      row.ReportAgrees (ctx.loadRow row).bindings := by
  intro bytes row ctx
  have hrows : rows? bytes = some [row] := by cbv
  have hrow : [row][0]? = some row := rfl
  obtain ⟨head, texts, hhead, htexts, -, -, -, hloaded⟩ := report_of_row hrows hrow
  have hhead' : ((records bytes)[0]?.bind fun record => record.mapM fieldText?) =
      some ["a", "b", "c"] := by cbv
  have htexts' : ((records bytes)[1]?.bind fun record => record.mapM fieldText?) =
      some ["1", "2"] := by cbv
  obtain rfl := Option.some.inj (hhead.symm.trans hhead')
  obtain rfl := Option.some.inj (htexts.symm.trans htexts')
  exact ⟨hrows, hrow, (hloaded ctx).2.2.mpr (by decide)⟩

/-- A name that stands in the head twice, above a record with one field: the field is bound, and the
report says null. -/
theorem report_of_row_repeated :
    let bytes := "a,a\n1\n".toUTF8.data.toList
    let row := Row.cells [("a", some "1"), ("a", none)]
    let ctx := Context.ofSettings {} ⟨2024, 6, 1, 9, 15, 0, 0, 7200⟩
    rows? bytes = some [row] ∧ row.toJson = .object [("a", .null)] ∧
      (ctx.loadRow row).bindings.get? "column" = some (.object [("a", .string "1")]) ∧
      (ctx.loadRow row).bindings.columns = ["a"] ∧
      ¬ row.ReportAgrees (ctx.loadRow row).bindings := by
  intro bytes row ctx
  have hrows : rows? bytes = some [row] := by cbv
  have hreport : row.toJson = .object [("a", .null)] := rfl
  have hcolumns : (ctx.loadRow row).bindings.columns = ["a"] := rfl
  refine ⟨hrows, hreport, rfl, hcolumns, ?_⟩
  rintro ⟨snapshot, _, hsnapshot, -, -, hnames⟩
  obtain rfl := Json.object.inj (hreport.symm.trans hsnapshot)
  rw [hcolumns] at hnames
  cases hnames

end Csv

end RowTemplate
