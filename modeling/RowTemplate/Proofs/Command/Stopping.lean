import RowTemplate.Command.Run
import RowTemplate.Proofs.Row.Isolation

/-! # Runs that stop

A run that does not keep going takes up the rows one after the other until one
fails. What it leaves behind is the report of the rows up to there, and so the
beginning of what a run over all rows leaves behind, with the same status.
-/

namespace RowTemplate

namespace RowResult

/-- The line for a row that came to a document. -/
def outputLine? (r : RowResult) : Option String :=
  match r.outcome with
  | .ok (some v) => some v.text
  | .ok none => none
  | .error _ => none

/-- The line that tells of a failed row. -/
def failureText (line : Nat) (row : Row) (e : ExpandError) : String :=
  Json.text (.object [("line", .ofNat line), ("row", row.toJson), ("error", .string e.message)])

/-- The line that tells of the row if it failed. -/
def failureLine? (r : RowResult) : Option String :=
  match r.outcome with
  | .ok _ => none
  | .error e => some (failureText r.line r.row e)

theorem map_text_expanded? (r : RowResult) : r.expanded?.map Json.text = r.outputLine? := by
  obtain ⟨line, row, e | _ | v⟩ := r <;> rfl

theorem map_text_failure? (r : RowResult) : r.failure?.map Json.text = r.failureLine? := by
  obtain ⟨line, row, e | node⟩ := r <;> rfl

theorem failureLine?_of_isSuccess {r : RowResult} (h : r.isSuccess = true) :
    r.failureLine? = none := by
  obtain ⟨line, row, e | node⟩ := r
  · cases h
  · rfl

end RowResult

/-- The results of rows from a position of the input on, up to and with the first row that fails.
The rows behind it are left alone. -/
def expandUntilFailure (template : Json) (index : Nat) : List Row → Context → List RowResult
  | [], _ => []
  | row :: rest, ctx =>
    match expandRow template row ctx with
    | (.ok node, ctx) =>
      ⟨row.lineNumber index, row, .ok node⟩ :: expandUntilFailure template (index + 1) rest ctx
    | (.error e, _) => [⟨row.lineNumber index, row, .error e⟩]

namespace Command

open RowResult (outputLine? failureLine? failureText)

variable {results before behind : List RowResult}

/-! ### Up to the first failure -/

theorem upToFailure_of_isSuccess (h : ∀ r ∈ results, r.isSuccess = true) :
    upToFailure results = results := by
  induction results with
  | nil => rfl
  | cons r rest ih =>
    obtain ⟨hr, hrest⟩ := List.forall_mem_cons.mp h
    rw [upToFailure, if_pos hr, ih hrest]

theorem upToFailure_append (h : ∀ r ∈ before, r.isSuccess = true) (line : Nat) (row : Row)
    (e : ExpandError) (behind : List RowResult) :
    upToFailure (before ++ ⟨line, row, .error e⟩ :: behind) =
      before ++ [⟨line, row, .error e⟩] := by
  induction before with
  | nil => rfl
  | cons r rest ih =>
    obtain ⟨hr, hrest⟩ := List.forall_mem_cons.mp h
    rw [List.cons_append, upToFailure, if_pos hr, ih hrest, List.cons_append]

theorem upToFailure_isPrefix (results : List RowResult) : upToFailure results <+: results := by
  induction results with
  | nil => exact List.prefix_rfl
  | cons r rest ih =>
    rw [upToFailure]
    split
    · exact (List.prefix_cons_inj r).mpr ih
    · exact (List.prefix_cons_inj r).mpr (List.nil_prefix)

theorem all_upToFailure (results : List RowResult) :
    (upToFailure results).all (·.isSuccess) = results.all (·.isSuccess) := by
  induction results with
  | nil => rfl
  | cons r rest ih =>
    rw [upToFailure]
    cases hr : r.isSuccess <;> simp [hr, ih]

/-- Expanding until a row fails gives the results of all rows up to the first failure. -/
theorem expandUntilFailure_eq (template : Json) (index : Nat) (rows : List Row) (ctx : Context) :
    expandUntilFailure template index rows ctx =
      upToFailure (expandRowsFrom template index rows ctx).1 := by
  induction rows generalizing index ctx with
  | nil => rfl
  | cons row rest ih =>
    rw [expandUntilFailure, expandRowsFrom]
    rcases expandRow template row ctx with ⟨e | node, ctx'⟩
    · rfl
    · simp only [upToFailure, RowResult.isSuccess, if_true, ih]

/-! ### Reports -/

namespace Report

theorem output_ofResults (results : List RowResult) :
    (ofResults results).output = results.filterMap outputLine? :=
  List.filterMap_congr fun r _ => r.map_text_expanded?

theorem failures_ofResults (results : List RowResult) :
    (ofResults results).failures = results.filterMap failureLine? :=
  List.filterMap_congr fun r _ => r.map_text_failure?

theorem status_ofResults (results : List RowResult) :
    (ofResults results).status = if ∀ r ∈ results, r.isSuccess = true then 0 else 1 := by
  simp [ofResults]

end Report

variable {files : Files} {now : Moment} {o : Options} {going stopping : List String}
variable {settings : Settings} {template : Json} {rows : List Row}

theorem run_of_load {args : List String} (hargs : Request.ofArguments? args = some (.run o))
    (hsettings : loadSettings files o = .ok settings)
    (htemplate : loadTemplate files o = .ok template) (hrows : loadRows files o = .ok rows) :
    run files now args =
      let results := (expandRows template rows (.ofSettings settings now)).1
      .ofResults (if o.keepGoing then results else upToFailure results) := by
  have hresults : results files now o =
      let results := (expandRows template rows (.ofSettings settings now)).1
      .ok (if o.keepGoing then results else upToFailure results) := by
    unfold results
    rw [hsettings, htemplate, hrows]
    rfl
  simp only [run, hargs, hresults]

/-- A run that keeps going writes the documents of all rows and tells of all that failed; its
status is zero if none did and one otherwise. A run with the same options that does not keep going
expands the rows until one fails: it writes the documents of the rows before the first failed one,
tells of that one only, and ends with the same status. What it writes is the beginning of what the
other one writes. -/
theorem run_stops_at_failure
    (hgoing : Request.ofArguments? going = some (.run { o with keepGoing := true }))
    (hstopping : Request.ofArguments? stopping = some (.run { o with keepGoing := false }))
    (hsettings : loadSettings files o = .ok settings)
    (htemplate : loadTemplate files o = .ok template) (hrows : loadRows files o = .ok rows) :
    let ctx := Context.ofSettings settings now
    let results : List RowResult := rows.mapIdx fun i row =>
      ⟨row.lineNumber i, row, (expandRow template row ctx).1⟩
    let all := run files now going
    let part := run files now stopping
    (all.output = results.filterMap outputLine? ∧ all.failures = results.filterMap failureLine? ∧
        all.status = if ∀ r ∈ results, r.isSuccess = true then 0 else 1) ∧
      part = .ofResults (expandUntilFailure template 0 rows ctx) ∧
      ((∀ r ∈ results, r.isSuccess = true) → part = all) ∧
      (∀ before line row e behind, results = before ++ ⟨line, row, .error e⟩ :: behind →
        (∀ r ∈ before, r.isSuccess = true) →
        part.output = before.filterMap outputLine? ∧ part.failures = [failureText line row e]) ∧
      part.status = all.status ∧ part.output <+: all.output := by
  intro ctx results all part
  have hrun : (expandRows template rows ctx).1 = results := by
    simpa [expandRows] using expandRowsFrom_fst (.refl ctx) template rows 0
  have hall : all = .ofResults results := hrun ▸ run_of_load hgoing hsettings htemplate hrows
  have hpart : part = .ofResults (upToFailure results) :=
    hrun ▸ run_of_load hstopping hsettings htemplate hrows
  have hloop : expandUntilFailure template 0 rows ctx = upToFailure results := by
    rw [expandUntilFailure_eq, ← hrun, expandRows]
  refine ⟨⟨?_, ?_, ?_⟩, hloop ▸ hpart, fun hsuccess => ?_, ?_, ?_, ?_⟩
  · rw [hall, Report.output_ofResults]
  · rw [hall, Report.failures_ofResults]
  · rw [hall, Report.status_ofResults]
  · rw [hpart, upToFailure_of_isSuccess hsuccess, hall]
  · intro before line row e behind hsplit hbefore
    have hnone : before.filterMap failureLine? = [] :=
      List.filterMap_eq_nil_iff.mpr fun r hr => RowResult.failureLine?_of_isSuccess (hbefore r hr)
    rw [hpart, hsplit, upToFailure_append hbefore, Report.output_ofResults,
      Report.failures_ofResults, List.filterMap_append, List.filterMap_append, hnone]
    exact ⟨List.append_nil _, rfl⟩
  · simp only [hpart, hall, Report.ofResults, all_upToFailure]
  · rw [hpart, hall, Report.output_ofResults, Report.output_ofResults]
    exact (upToFailure_isPrefix results).filterMap outputLine?

/-- Of four rows the second one comes to nothing and the third one fails. -/
theorem run_stops_at_failure_third :
    let template :=
      "[\"$\x7bx\x7d\", \x7b\"$\x7bif:x == 2\x7d\": \x7b\"$\x7berror two\x7d\": \"\"\x7d\x7d]"
    let rows := "[\x7b\"x\": 1\x7d, \x7b\"x\": null\x7d, \x7b\"x\": 2\x7d, \x7b\"x\": 3\x7d]"
    let files : Files := fun path =>
      if path = "t.json" then some template.toUTF8.toList
      else if path = "r.json" then some rows.toUTF8.toList
      else none
    let now : Moment := ⟨2024, 6, 1, 9, 15, 0, 0, 7200⟩
    let going := ["-t", "t.json", "--json", "r.json"]
    let stopping := going ++ ["--keep-going=false"]
    let all := run files now going
    let part := run files now stopping
    all.output = ["[1]", "[3]"] ∧ part.output = ["[1]"] ∧
      part.status = all.status ∧ part.output <+: all.output := by
  intro template rows files now going stopping all part
  let o : Options := ⟨"t.json", .objects "r.json", none, false, true⟩
  have hgoing : Request.ofArguments? going = some (.run { o with keepGoing := true }) := by
    decide +kernel
  have hstopping : Request.ofArguments? stopping = some (.run { o with keepGoing := false }) := by
    decide +kernel
  have hload {α : Type} (r : Except LoadError α) (h : r.isOk = true) : ∃ a, r = .ok a := by
    cases r with
    | error e => cases h
    | ok a => exact ⟨a, rfl⟩
  obtain ⟨_, hsettings⟩ := hload (loadSettings files o) (by decide)
  obtain ⟨_, htemplate⟩ := hload (loadTemplate files o) (by decide +kernel)
  obtain ⟨_, hrows⟩ := hload (loadRows files o) (by decide +kernel)
  have hbeginning : part.status = all.status ∧ part.output <+: all.output := by
    obtain ⟨-, -, -, -, h⟩ := run_stops_at_failure hgoing hstopping hsettings htemplate hrows
    exact h
  exact ⟨by decide +kernel, by decide +kernel, hbeginning⟩

end Command

end RowTemplate
