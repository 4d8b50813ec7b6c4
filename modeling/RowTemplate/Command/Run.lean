import RowTemplate.Command.Arguments
import RowTemplate.Row.Batch
import RowTemplate.Row.Source
import RowTemplate.Settings.Reader
import RowTemplate.Yaml.Reader

/-! # Runs

A run reads settings, template and rows in this order, expands the template for
every row and reports what was written and which rows failed.
-/

namespace RowTemplate.Command

/-- The contents of the files that can be read. -/
abbrev Files := String → Option (List UInt8)

/-- Why a run does not come to the first row. -/
inductive LoadError
  | readSettings (path : String)
  | parseSettings (path : String)
  | readTemplate (path : String)
  | parseTemplate (path : String)
  | openTable (path : String)
  | readTable (path : String)
  | readObjects (path : String)
  | parseObjects (path : String)
deriving DecidableEq

/-- The wording of a fault. -/
def LoadError.message : LoadError → String
  | .readSettings path => "Failed to read config file: " ++ path
  | .parseSettings path => "Failed to parse config file: " ++ path
  | .readTemplate path => "Failed to read template: " ++ path
  | .parseTemplate path => "Failed to parse template: " ++ path
  | .openTable path => "Failed to open CSV file: " ++ path
  | .readTable path => "Failed to read CSV rows: " ++ path
  | .readObjects path => "Failed to read JSON file: " ++ path
  | .parseObjects path => "Failed to parse JSON rows: " ++ path

/-- The text of a file. -/
def Files.text? (files : Files) (path : String) : Option String := do
  String.fromUTF8? ⟨(← files path).toArray⟩

/-- A value that must be there. -/
def require {α : Type} (e : LoadError) : Option α → Except LoadError α
  | some a => .ok a
  | none => .error e

/-- The settings of a run. -/
def loadSettings (files : Files) (o : Options) : Except LoadError Settings := do
  let settings ← match o.settings with
    | none => pure {}
    | some path =>
      let text ← require (.readSettings path) (files.text? path)
      require (.parseSettings path) (Settings.read? text)
  return if o.strictInt then { settings with fallback := .error } else settings

/-- The template of a run. -/
def loadTemplate (files : Files) (o : Options) : Except LoadError Json := do
  let text ← require (.readTemplate o.template) (files.text? o.template)
  require (.parseTemplate o.template) (Yaml.read? text)

/-- The rows of a run. -/
def loadRows (files : Files) (o : Options) : Except LoadError (List Row) :=
  match o.rows with
  | .table path => do
    let bytes ← require (.openTable path) (files path)
    (readTable bytes).mapError fun _ => .readTable path
  | .objects path => do
    let text ← require (.readObjects path) (files.text? path)
    (readObjects text).mapError fun _ => .parseObjects path

/-- The results up to and with the first failure. -/
def upToFailure : List RowResult → List RowResult
  | [] => []
  | r :: rest => if r.isSuccess then r :: upToFailure rest else [r]

/-- The results of a run. -/
def results (files : Files) (now : Moment) (o : Options) :
    Except LoadError (List RowResult) := do
  let settings ← loadSettings files o
  let template ← loadTemplate files o
  let rows ← loadRows files o
  let (results, _) := expandRows template rows (.ofSettings settings now)
  return if o.keepGoing then results else upToFailure results

/-- What a run leaves behind: the exit status, the lines written, the reports of failed rows, and
what kept it from the rows. -/
structure Report where
  status : UInt8
  output : List String
  failures : List String := []
  error : Option LoadError := none

/-- The report of results. -/
def Report.ofResults (results : List RowResult) : Report where
  status := if results.all (·.isSuccess) then 0 else 1
  output := results.filterMap fun r => r.expanded?.map Json.text
  failures := results.filterMap fun r => r.failure?.map Json.text

/-- What the program says about itself. -/
def versionLine : String := "batch-template 0.3.0"

/-- The summary of the options. -/
def helpLines : List String :=
  ["Expand a JSON/YAML template for every row of a CSV or JSON file",
   "",
   "Usage: batch-template [OPTIONS] --template <TEMPLATE> <--csv <CSV>|--json <JSON>>",
   "",
   "Options:",
   "  -t, --template <TEMPLATE>      Template file (YAML or JSON)",
   "      --csv <CSV>                CSV input with a header line",
   "      --json <JSON>              JSON input: an array of objects or a single object",
   "  -c, --config <CONFIG>          Expander configuration (TOML)",
   "      --strict-int               Fail rows whose `:int` values are not numbers " ++
     "instead of using 0",
   "      --keep-going <KEEP_GOING>  Continue with the next row after a failure " ++
     "[default: true] [possible values: true, false]",
   "  -v, --verbose...               Increase log verbosity (-v info, -vv debug, -vvv trace)",
   "  -h, --help                     Print help",
   "  -V, --version                  Print version"]

/-- The report of a command line. -/
def run (files : Files) (now : Moment) (args : List String) : Report :=
  match Request.ofArguments? args with
  | none => { status := 2, output := [] }
  | some .help => { status := 0, output := helpLines }
  | some .version => { status := 0, output := [versionLine] }
  | some (.run o) =>
    match results files now o with
    | .ok results => .ofResults results
    | .error e => { status := 2, output := [], error := some e }

/-- The files that a command line may need. -/
def paths (args : List String) : List String :=
  match Request.ofArguments? args with
  | some (.run o) =>
    let rows := match o.rows with
      | .table path => path
      | .objects path => path
    o.settings.toList ++ [o.template, rows]
  | _ => []

end RowTemplate.Command
