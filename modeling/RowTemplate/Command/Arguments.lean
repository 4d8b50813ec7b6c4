/-! # Arguments

The options of the command line. An option has a long name and sometimes a
letter; its value follows it, or stands behind it after `=`, or directly behind
the letter. Letters without values can be written together. Only `-v` can be
repeated, and a value that stands alone begins with no dash.
-/

namespace RowTemplate.Command

/-- The file that holds the rows. -/
inductive RowFile
  | table (path : String)
  | objects (path : String)
deriving DecidableEq

/-- What a run is asked to do. -/
structure Options where
  template : String
  rows : RowFile
  settings : Option String
  strictInt : Bool
  keepGoing : Bool
deriving DecidableEq

/-- What a command line asks for. -/
inductive Request
  | run (options : Options)
  | help
  | version
deriving DecidableEq

/-- An option with a value. -/
inductive Setting
  | template
  | csv
  | json
  | config
  | keepGoing
deriving DecidableEq

/-- An option without a value. -/
inductive Switch
  | strictInt
  | verbose
  | help
  | version
deriving DecidableEq

/-- An option. -/
inductive Flag
  | setting (s : Setting)
  | switch (s : Switch)
deriving DecidableEq

/-- The option of a long name. -/
def Flag.ofName? : String → Option Flag
  | "template" => some (.setting .template)
  | "csv" => some (.setting .csv)
  | "json" => some (.setting .json)
  | "config" => some (.setting .config)
  | "keep-going" => some (.setting .keepGoing)
  | "strict-int" => some (.switch .strictInt)
  | "verbose" => some (.switch .verbose)
  | "help" => some (.switch .help)
  | "version" => some (.switch .version)
  | _ => none

/-- The option of a letter. -/
def Flag.ofLetter? : Char → Option Flag
  | 't' => some (.setting .template)
  | 'c' => some (.setting .config)
  | 'v' => some (.switch .verbose)
  | 'h' => some (.switch .help)
  | 'V' => some (.switch .version)
  | _ => none

/-- The options that have been given. -/
structure Given where
  template : Option String := none
  csv : Option String := none
  json : Option String := none
  config : Option String := none
  keepGoing : Option Bool := none
  strictInt : Bool := false

namespace Given

/-- A path that is not empty, for an option that has none yet. -/
def path? (old : Option String) (value : String) : Option (Option String) :=
  if old.isSome ∨ value = "" then none else some (some value)

/-- A truth value, for an option that has none yet. -/
def truth? (old : Option Bool) (value : String) : Option (Option Bool) :=
  if old.isSome then none
  else
    match value with
    | "true" => some (some true)
    | "false" => some (some false)
    | _ => none

/-- The options with one value more. -/
def set? (g : Given) (s : Setting) (value : String) : Option Given :=
  match s with
  | .template => (path? g.template value).map fun v => { g with template := v }
  | .csv => (path? g.csv value).map fun v => { g with csv := v }
  | .json => (path? g.json value).map fun v => { g with json := v }
  | .config => (path? g.config value).map fun v => { g with config := v }
  | .keepGoing => (truth? g.keepGoing value).map fun v => { g with keepGoing := v }

/-- The options of a run: a template and one file of rows are required. -/
def options? (g : Given) : Option Options := do
  let template ← g.template
  let rows ← match g.csv, g.json with
    | some path, none => some (RowFile.table path)
    | none, some path => some (RowFile.objects path)
    | _, _ => none
  return { template, rows, settings := g.config, strictInt := g.strictInt,
           keepGoing := g.keepGoing.getD true }

end Given

/-- How far a command line has been read. Behind `--` no option follows. -/
inductive Progress
  | given (g : Given)
  | waiting (g : Given) (s : Setting)
  | closed (g : Given)
  | answered (r : Request)

namespace Progress

/-- A switch. -/
def switch? (g : Given) : Switch → Option Progress
  | .strictInt => if g.strictInt then none else some (.given { g with strictInt := true })
  | .verbose => some (.given g)
  | .help => some (.answered .help)
  | .version => some (.answered .version)

/-- An option with a long name, and the value behind `=` if there is one. -/
def long? (g : Given) (name : String) (value : Option String) : Option Progress := do
  match ← Flag.ofName? name, value with
  | .setting s, some value => (g.set? s value).map .given
  | .setting s, none => return .waiting g s
  | .switch _, some _ => none
  | .switch s, none => switch? g s

/-- Options given by their letters. -/
def letters? (g : Given) : List Char → Option Progress
  | [] => some (.given g)
  | c :: rest => do
    match ← Flag.ofLetter? c, rest with
    | .setting s, [] => return .waiting g s
    | .setting s, '=' :: value => (g.set? s (String.ofList value)).map .given
    | .setting s, value => (g.set? s (String.ofList value)).map .given
    | .switch s, rest =>
      match ← switch? g s with
      | .given g => letters? g rest
      | progress => return progress

/-- One argument more. -/
def step? (progress : Progress) (arg : String) : Option Progress :=
  match progress, arg.toList with
  | .answered r, _ => some (.answered r)
  | .closed _, _ => none
  | .waiting _ _, '-' :: _ :: _ => none
  | .waiting g s, _ => (g.set? s arg).map .given
  | .given g, ['-', '-'] => some (.closed g)
  | .given g, '-' :: '-' :: s =>
    let value := match s.dropWhile (· ≠ '=') with
      | [] => none
      | _ :: value => some (String.ofList value)
    long? g (String.ofList (s.takeWhile (· ≠ '='))) value
  | .given g, '-' :: c :: s => letters? g (c :: s)
  | .given _, _ => none

/-- What the arguments ask for when there are no more. -/
def request? : Progress → Option Request
  | .given g => g.options?.map .run
  | .closed g => g.options?.map .run
  | .waiting _ _ => none
  | .answered r => some r

end Progress

/-- What a command line asks for, if it is well formed. -/
def Request.ofArguments? (args : List String) : Option Request := do
  (← args.foldlM Progress.step? (.given {})).request?

end RowTemplate.Command
