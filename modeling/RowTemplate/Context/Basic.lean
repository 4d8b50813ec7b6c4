import RowTemplate.Context.Bindings
import RowTemplate.Context.Coercion
import RowTemplate.Settings.Basic
import RowTemplate.Template.Error
import RowTemplate.Template.Span

/-! # Contexts

Bindings together with an evaluator of expression texts. A context answers the
names of bound texts and calls of `date` with a quoted pattern by itself and
takes a failed lookup for null. A session is a computation in a context; a
failure keeps the context that it has come to.
-/

namespace RowTemplate

/-- Something that evaluates expression texts: the built-in language, which remembers what it has
read, or any other function. -/
inductive Evaluator
  | language (cache : ParseCache)
  | plugged (answer : String → Bindings → Except EvalError Value)

/-- The value of an expression text, and the evaluator afterwards. -/
def Evaluator.answer (evaluator : Evaluator) (text : String) (b : Bindings) :
    Except EvalError Value × Evaluator :=
  match evaluator with
  | .language cache =>
    let (result, cache) := cache.evaluate text b.scope
    (result, .language cache)
  | .plugged f => (f text b, .plugged f)

/-- Bindings, an evaluator, and the choice for values that are no integers. -/
structure Context where
  bindings : Bindings
  evaluator : Evaluator
  fallback : IntFallback

/-- A computation in a context. -/
abbrev Session (ε : Type) := ExceptT ε (StateM Context)

/-- The type that a suffix asks for. -/
inductive NodeType
  | int
  | boolean
  | array
  | string
deriving DecidableEq

namespace NodeType

/-- The word of a suffix. -/
def word : NodeType → List Char
  | .int => "int".toList
  | .boolean => "boolean".toList
  | .array => "array".toList
  | .string => "string".toList

/-- The types that a suffix can ask for. -/
def all : List NodeType := [.int, .boolean, .array, .string]

/-- What stands before the suffix of a type at the end of a text without blanks behind it. -/
def beforeSuffix? (t : NodeType) (s : List Char) : Option (List Char) :=
  let suffix := ':' :: t.word
  if suffix.isSuffixOf s then some (Text.trimRight (s.take (s.length - suffix.length))) else none

end NodeType

/-- An expression text without its type suffix, and the type. -/
def splitSuffix (text : String) : String × Option NodeType :=
  let s := Text.trimRight text.toList
  match NodeType.all.findSome? fun t => (t.beforeSuffix? s).map fun e => (e, t) with
  | some (e, t) => (String.ofList e, some t)
  | none => (text, none)

/-- The pattern of a call of `date` with one quoted pattern, for a kind of quote. -/
def datePatternIn? (quote : Char) (s : List Char) : Option (List Char) := do
  let opening := "date(".toList ++ [quote]
  guard (opening.isPrefixOf s)
  let s := s.drop opening.length
  guard (s.dropWhile (· ≠ quote) = [quote, ')'])
  return s.takeWhile (· ≠ quote)

/-- The pattern of a call of `date` with one quoted pattern. -/
def datePattern? (s : List Char) : Option (List Char) :=
  (datePatternIn? '\'' s).or (datePatternIn? '"' s)

namespace Context

/-- A context before the first row. -/
def ofSettings (settings : Settings) (now : Moment) : Context :=
  let now := settings.timestamp.getD now
  let start := (Bindings.empty now).reserve "now" (.string now.timestamp)
  { bindings := settings.reserved.entries.foldl (fun b p => b.reserve p.1 (.string p.2)) start
    evaluator := .language .empty
    fallback := settings.fallback }

/-- The context with other bindings. -/
def mapBindings (ctx : Context) (f : Bindings → Bindings) : Context :=
  { ctx with bindings := f ctx.bindings }

/-- The answer to a name of a bound text or to a call of `date`; a pattern that is refused is
left to the evaluator. -/
def lookup? (ctx : Context) (text : String) : Option Value :=
  match ctx.bindings.get? text with
  | some (.string s) => some (.string s)
  | _ =>
    match (datePattern? text.toList).map ctx.bindings.now.format with
    | some (.ok s) => some (.string (String.ofList s))
    | _ => none

end Context

namespace Session

variable {ε : Type}

/-- Changes the bindings. -/
def update (f : Bindings → Bindings) : Session ε Unit :=
  modify (·.mapBindings f)

/-- The value of an expression text; a failed lookup gives null. -/
def evaluate (text : String) : Session EvalError Value := do
  let ctx ← get
  match ctx.lookup? text with
  | some v => return v
  | none =>
    let (result, evaluator) := ctx.evaluator.answer text ctx.bindings
    set { ctx with evaluator }
    match result with
    | .ok v => return v
    | .error e => if e.isLookupFailure then return .null else throw e

/-- Names the expression in whose evaluation a fault occurred. -/
def during {α : Type} (text : String) (m : Session EvalError α) : Session ExpandError α :=
  ExceptT.adapt (.evaluation text) m

/-- The truth of an expression. -/
def isTrue (text : String) : Session EvalError Bool :=
  return (← evaluate text).toBool

/-- The non-empty texts of an expression's value. -/
def asTexts? (text : String) : Session EvalError (Option (List String)) :=
  return (← evaluate text).toTexts?

/-- The text of an expression's value. -/
def asText (text : String) : Session EvalError String :=
  return (← evaluate text).toText

/-- The node of an expression's value. -/
def asNode? (text : String) : Session EvalError (Option Json) :=
  return (← evaluate text).toNode?

/-- The integer of an expression's value, or what the context puts in its place. -/
def asInt (text : String) : Session ExpandError Int64 := do
  let v ← during text (evaluate text)
  match v.toInt? with
  | some n => return n
  | none =>
    match (← get).fallback with
    | .zero => return 0
    | .error => throw (.notInteger text v.text)

/-- Binds a name for all rows to the value of an expression. -/
def reserveEvaluated (name text : String) : Session EvalError Unit := do
  let v ← evaluate text
  update (·.reserve name v)

/-- The node of an expression in the type that its suffix asks for. -/
def typedNode? (text : String) : Session ExpandError (Option Json) :=
  match splitSuffix text with
  | (e, some .int) => return some (.ofWord (← asInt e))
  | (e, some .boolean) => return some (.bool (← during e (isTrue e)))
  | (e, some .array) =>
    return (← during e (asTexts? e)).map fun texts => .array (texts.map .string)
  | (e, some .string) => return some (.string (← during e (asText e)))
  | (e, none) => during e (asNode? e)

/-- The text with the value of every span in its place. -/
def interpolate (s : List Char) : Session ExpandError (List Char) :=
  replaceSpans
    (fun body => do
      let e := String.ofList body
      return (← during e (asText e)).toList)
    s

/-- The node of a text of the template: a single span has a type of its own, and any other text
is interpolated. -/
def expandText? (text : String) : Session ExpandError (Option Json) :=
  match singleton? text.toList with
  | some body => typedNode? (String.ofList body)
  | none => return some (.string (String.ofList (← interpolate text.toList)))

end Session

end RowTemplate
