import RowTemplate.Yaml.Scalar
import RowTemplate.Yaml.Token

/-! # Reading YAML

    document = beginDocument? node? endDocument*
    node     = scalar | openSequence entry' closeBlock | openMapping field' closeBlock
             | openList (item ("," item)')? closeList | openFields (field ("," field)')? closeFields
    entry    = "-" node?
    field    = key (node | entry entry')?

What is not written is null. A repeated field keeps its first place and takes
the last value. At most 128 collections are open at a time.
-/

namespace RowTemplate.Yaml

/-- Something read, and the tokens behind it, fewer than `n`. -/
abbrev Reading (α : Type) (n : Nat) := Option { p : α × List Token // p.2.length < n }

/-- The fields in the order of their first places, each with its last value. -/
def objectOf (fields : List (String × Json)) : Json := .object (putFields [] fields)

/-- An empty node stands in front of these tokens. -/
def isAbsent : List Token → Bool
  | [] => true
  | .entry :: _ => true
  | .key _ :: _ => true
  | .closeBlock :: _ => true
  | .comma :: _ => true
  | .closeList :: _ => true
  | .closeFields :: _ => true
  | .endDocument :: _ => true
  | _ => false

mutual

/-- A node with at most `depth` collections in each other. -/
def node? (depth : Nat) (ts : List Token) : Reading Json ts.length :=
  match depth, ts with
  | _, .plain s :: ts => (resolve? s).map fun j => ⟨(j, ts), by simp⟩
  | _, .quoted s :: ts => some ⟨(.string (String.ofList s), ts), by simp⟩
  | depth + 1, .openSequence :: ts => do
    let ⟨(items, rest), h⟩ ← entries? depth ts
    match rest, h with
    | .closeBlock :: rest, h => return ⟨(.array items, rest), by simp at *; omega⟩
    | _, _ => none
  | depth + 1, .openMapping :: ts => do
    let ⟨(fields, rest), h⟩ ← blockFields? depth ts
    return ⟨(objectOf fields, rest), by simp at *; omega⟩
  | depth + 1, .openList :: ts => do
    let ⟨(items, rest), h⟩ ← items? depth ts
    return ⟨(.array items, rest), by simp at *; omega⟩
  | depth + 1, .openFields :: ts => do
    let ⟨(fields, rest), h⟩ ← flowFields? depth ts
    return ⟨(objectOf fields, rest), by simp at *; omega⟩
  | _, _ => none
termination_by 8 * ts.length
decreasing_by all_goals (simp at *; try omega)

/-- A node, or null where there is none. -/
def nodeOrNull? (depth : Nat) (ts : List Token) : Reading Json (ts.length + 1) :=
  if isAbsent ts then some ⟨(.null, ts), by simp⟩
  else do
    let ⟨(j, rest), h⟩ ← node? depth ts
    return ⟨(j, rest), by simp at *; omega⟩
termination_by 8 * ts.length + 1
decreasing_by all_goals (simp at *; try omega)

/-- The entries of a block sequence, as many as there are. -/
def entries? (depth : Nat) (ts : List Token) : Reading (List Json) (ts.length + 1) :=
  match ts with
  | .entry :: ts => do
    let ⟨(j, rest), h⟩ ← nodeOrNull? depth ts
    let ⟨(items, rest), h'⟩ ← entries? depth rest
    return ⟨(j :: items, rest), by simp at *; omega⟩
  | ts => some ⟨([], ts), by simp⟩
termination_by 8 * ts.length + 2
decreasing_by all_goals (simp at *; try omega)

/-- The value of a field of a block mapping, which may be a sequence that is not indented. -/
def fieldValue? (depth : Nat) (ts : List Token) : Reading Json (ts.length + 1) :=
  match depth, ts with
  | 0, .entry :: _ => none
  | depth + 1, .entry :: ts => do
    let ⟨(items, rest), h⟩ ← entries? depth (.entry :: ts)
    return ⟨(.array items, rest), by simp at *; omega⟩
  | depth, ts => nodeOrNull? depth ts
termination_by 8 * ts.length + 3
decreasing_by all_goals (simp at *; try omega)

/-- The fields of a block mapping up to and with its end. -/
def blockFields? (depth : Nat) (ts : List Token) :
    Reading (List (String × Json)) ts.length :=
  match ts with
  | .closeBlock :: rest => some ⟨([], rest), by simp⟩
  | .key name :: ts => do
    let ⟨(j, rest), h⟩ ← fieldValue? depth ts
    let ⟨(fields, rest), h'⟩ ← blockFields? depth rest
    return ⟨((String.ofList name, j) :: fields, rest), by simp at *; omega⟩
  | _ => none
termination_by 8 * ts.length + 4
decreasing_by all_goals (simp at *; try omega)

/-- An item of a flow collection: a node, or an object with a single field. -/
def item? (depth : Nat) (ts : List Token) : Reading Json ts.length :=
  match depth, ts with
  | 0, .key _ :: _ => none
  | depth + 1, .key name :: ts => do
    let ⟨(j, rest), h⟩ ← nodeOrNull? depth ts
    return ⟨(.object [(String.ofList name, j)], rest), by simp at *; omega⟩
  | depth, ts => node? depth ts
termination_by 8 * ts.length + 1
decreasing_by all_goals (simp at *; try omega)

/-- The items of a flow collection up to and with its closing bracket. -/
def items? (depth : Nat) (ts : List Token) : Reading (List Json) ts.length :=
  match ts with
  | .closeList :: rest => some ⟨([], rest), by simp⟩
  | ts => do
    let ⟨(j, rest), h⟩ ← item? depth ts
    match rest, h with
    | .closeList :: rest, h => return ⟨([j], rest), by simp at *; omega⟩
    | .comma :: rest, h => do
      let ⟨(items, rest), h'⟩ ← items? depth rest
      return ⟨(j :: items, rest), by simp at *; omega⟩
    | _, _ => none
termination_by 8 * ts.length + 2
decreasing_by all_goals (simp at *; try omega)

/-- A field of a flow collection; a scalar alone is a name for null. -/
def flowField? (depth : Nat) (ts : List Token) : Reading (String × Json) ts.length :=
  match ts with
  | .key name :: ts => do
    let ⟨(j, rest), h⟩ ← nodeOrNull? depth ts
    return ⟨((String.ofList name, j), rest), by simp at *; omega⟩
  | .plain name :: ts => some ⟨((String.ofList name, .null), ts), by simp⟩
  | .quoted name :: ts => some ⟨((String.ofList name, .null), ts), by simp⟩
  | _ => none
termination_by 8 * ts.length + 1
decreasing_by all_goals (simp at *; try omega)

/-- The fields of a flow collection up to and with its closing brace. -/
def flowFields? (depth : Nat) (ts : List Token) : Reading (List (String × Json)) ts.length :=
  match ts with
  | .closeFields :: rest => some ⟨([], rest), by simp⟩
  | ts => do
    let ⟨(field, rest), h⟩ ← flowField? depth ts
    match rest, h with
    | .closeFields :: rest, h => return ⟨([field], rest), by simp at *; omega⟩
    | .comma :: rest, h => do
      let ⟨(fields, rest), h'⟩ ← flowFields? depth rest
      return ⟨(field :: fields, rest), by simp at *; omega⟩
    | _, _ => none
termination_by 8 * ts.length + 2
decreasing_by all_goals (simp at *; try omega)

end

/-- The largest number of collections in each other. -/
def deepest : Nat := 128

/-- The node of a document and the tokens behind it. After its opening mark, and in a text without
tokens, it may be absent. -/
def root? : List Token → Option (Json × List Token)
  | [] => some (.null, [])
  | .beginDocument :: ts => (nodeOrNull? deepest ts).map (·.val)
  | ts => (node? deepest ts).map (·.val)

/-- The document that tokens form. -/
def document? (ts : List Token) : Option Json := do
  let (j, rest) ← root? ts
  if rest.all (· = .endDocument) then some j else none

/-- The document that a text denotes, if it denotes a single one. -/
def read? (text : String) : Option Json := (tokens? text.toList).bind document?

end RowTemplate.Yaml
