import RowTemplate.Context.Basic
import RowTemplate.Pattern.Match
import RowTemplate.Template.Chain

/-! # Expanding templates

A template is a document. Its texts and plain keys are expanded; entries of
arrays and fields of objects that are directives loop, choose, define or fail.
The entries of a scope are expanded in order, so that what one defines later
ones see. What expands to nothing is left out, and a scope from which all is
left out is itself nothing.
-/

namespace RowTemplate.Template

open Session (during)

/-- The text of an expanded node; nothing and null are empty. -/
def nodeText : Option Json → String
  | none => ""
  | some .null => ""
  | some (.string s) => s
  | some j => j.text

/-- What an expanded body adds to an array: the items of an array, or any other node itself. -/
def splice : Option Json → List Json
  | none => []
  | some (.array items) => items
  | some j => [j]

/-- What an expanded body adds to an object: the fields of an object, and nothing else will do. -/
def spliceFields (key : String) : Option Json → Except ExpandError (List (String × Json))
  | none => .ok []
  | some (.object fields) => .ok fields
  | some _ => .error (.notNested key)

/-- The array of expanded items, or nothing. -/
def arrayNode : List Json → Option Json
  | [] => none
  | items => some (.array items)

/-- The object that results from setting fields one after the other, or nothing. -/
def objectNode (fields : List (String × Json)) : Option Json :=
  match putFields [] fields with
  | [] => none
  | fields => some (.object fields)

/-- The truth of a condition. -/
def condition (e : String) : Session ExpandError Bool := during e (Session.isTrue e)

/-- The values that a loop runs over, fixed before its first round. -/
def loopValues : LoopSource → Session ExpandError (List String)
  | .expression e => return (← during e (Session.asTexts? e)).getD []
  | .columns pattern => do
    match Pattern.ColumnPattern.ofText? pattern with
    | none => throw (.columnPattern pattern)
    | some p => return (← get).bindings.columns.filterMap p.value?

/-- Runs a body once for every value of a variable and gathers what the rounds yield. -/
def rounds {α : Type} (var : String) (body : Session ExpandError (List α)) :
    List String → Session ExpandError (List α)
  | [] => return []
  | value :: rest => do
    Session.update (·.define var (.string value))
    let xs ← body
    let ys ← rounds var body rest
    return xs ++ ys

/-- Binds a variable to the text of its expanded body. -/
def bindVar (name : String) (body : Session ExpandError (Option Json)) :
    Session ExpandError Unit := do
  let text := nodeText (← body)
  Session.update (·.define name (.string text))

/-- Fails with the text of the expanded body, or where that is empty with the text of the key. -/
def raise {α : Type} (text : Option String) (body : Session ExpandError (Option Json)) :
    Session ExpandError α := do
  let message := nodeText (← body)
  match text with
  | some t => throw (.user (if message = "" then t else message))
  | none => throw (.user message)

mutual

/-- The expansion of a node. -/
def expand : Json → Session ExpandError (Option Json)
  | .string s => Session.expandText? s
  | .array items => return arrayNode (← expandItems .closed items)
  | .object fields => return objectNode (← expandFields .closed fields)
  | .null => return some .null
  | .bool b => return some (.bool b)
  | .number n => return some (.number n)

/-- The items that entries of an array expand to, behind a chain of conditions. -/
def expandItems (chain : Chain) : List Json → Session ExpandError (List Json)
  | [] => return []
  | .object [(key, body)] :: rest => do
    match Directive.ofKey? key with
    | some (.loop var source) =>
      let values ← loopValues source
      let xs ← rounds var (splice <$> expand body) values
      let ys ← expandItems chain rest
      return xs ++ ys
    | some (.branch branch) =>
      let (taken, chain) ← chain.step branch condition
      let xs ← if taken then splice <$> expand body else pure []
      let ys ← expandItems chain rest
      return xs ++ ys
    | some (.var name) =>
      bindVar name (expand body)
      expandItems chain rest
    | some (.error text) => raise text (expand body)
    | none =>
      let node ← expand (.object [(key, body)])
      let ys ← expandItems chain rest
      return node.toList ++ ys
  | item :: rest => do
    let node ← expand item
    let ys ← expandItems chain rest
    return node.toList ++ ys

/-- The fields that the fields of an object set in turn, behind a chain of conditions. -/
def expandFields (chain : Chain) :
    List (String × Json) → Session ExpandError (List (String × Json))
  | [] => return []
  | (key, body) :: rest => do
    match Directive.ofKey? key with
    | some (.branch branch) =>
      let (taken, chain) ← chain.step branch condition
      let xs ← if taken then spliceFields key (← expand body) else pure []
      let ys ← expandFields chain rest
      return xs ++ ys
    | some (.loop var source) =>
      let values ← loopValues source
      let xs ← rounds var (do spliceFields key (← expand body)) values
      let ys ← expandFields chain rest
      return xs ++ ys
    | some (.var name) =>
      bindVar name (expand body)
      expandFields chain rest
    | some (.error text) => raise text (expand body)
    | none =>
      let name := nodeText (← Session.expandText? key)
      let node ← expand body
      let ys ← expandFields chain rest
      return node.toList.map (name, ·) ++ ys

end

end RowTemplate.Template
