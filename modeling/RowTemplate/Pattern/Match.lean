import RowTemplate.Pattern.Reader

/-! # Matching patterns

A pattern becomes a program of small steps, in which a branch prefers its first
way. The search tries the ways in order of preference and visits each step at
each place of the text once, so that it ends and finds the preferred match.
-/

namespace RowTemplate.Pattern

/-- A step of a program, with the steps that may follow it. -/
inductive Node
  | char (set : CharSet) (next : Nat)
  | look (holds : Look) (next : Nat)
  | branch (preferred other : Nat)
  | mark (slot : Nat) (next : Nat)
  | done

/-- The steps of a program, and the one to begin with. -/
structure Program where
  entry : Nat
  nodes : Array Node

namespace Program

/-- Puts a step in front. -/
def push (p : Program) (node : Node) : Program := ⟨p.nodes.size, p.nodes.push node⟩

/-- A branch between two steps; the first one is preferred if it is greedy. -/
def choice (greedy : Bool) (more out : Nat) : Node :=
  if greedy then .branch more out else .branch out more

/-- Puts a loop in front whose body is made by `body`; the loop is entered at its branch. -/
def loop (p : Program) (greedy : Bool) (body : Program → Program) : Program × Nat :=
  let q := body (p.push .done)
  let here := p.nodes.size
  (⟨here, q.nodes.setIfInBounds here (choice greedy q.entry p.entry)⟩, q.entry)

/-- Puts an option in front. -/
def option (greedy : Bool) (out : Nat) (body : Program → Program) (p : Program) : Program :=
  let q := body p
  q.push (choice greedy q.entry out)

/-- Puts a pattern in front of a program. -/
def prepend : Regex → Program → Program
  | .empty, p => p
  | .char set, p => p.push (.char set p.entry)
  | .look holds, p => p.push (.look holds p.entry)
  | .seq r s, p => prepend r (prepend s p)
  | .alt r s, p =>
    let q := prepend s p
    let q' := prepend r ⟨p.entry, q.nodes⟩
    q'.push (.branch q'.entry q.entry)
  | .capture index r, p =>
    let q := prepend r (p.push (.mark (2 * index + 1) p.entry))
    q.push (.mark (2 * index) q.entry)
  | .repeated r least none greedy, p =>
    let (q, body) := p.loop greedy (prepend r)
    if least = 0 then
      if r.canBeEmpty then q.push (choice greedy body p.entry) else q
    else Nat.repeat (prepend r) (least - 1) ⟨body, q.nodes⟩
  | .repeated r least (some most) greedy, p =>
    Nat.repeat (prepend r) least
      (Nat.repeat (option greedy p.entry (prepend r)) (most - least) p)

/-- The program of a pattern. -/
def ofRegex (r : Regex) : Program := prepend r ⟨0, #[.done]⟩

/-- A way not yet followed: a step, a place, and the places that have been marked, last first. -/
structure Thread where
  step : Nat
  place : Nat
  marks : List (Nat × Nat)

/-- The ways that follow a step. -/
def follow (p : Program) (text : Array Char) (t : Thread) : List Thread :=
  match p.nodes[t.step]? with
  | some (.char set next) =>
    match text[t.place]? with
    | some c => if set c then [⟨next, t.place + 1, t.marks⟩] else []
    | none => []
  | some (.look holds next) =>
    let before := if t.place = 0 then none else text[t.place - 1]?
    if holds before text[t.place]? then [{ t with step := next }] else []
  | some (.branch a b) => [{ t with step := a }, { t with step := b }]
  | some (.mark slot next) => [⟨next, t.place, (slot, t.place) :: t.marks⟩]
  | _ => []

/-- The step ends the program. -/
def isDone (p : Program) (step : Nat) : Bool :=
  match p.nodes[step]? with
  | some .done => true
  | _ => false

/-- Follows ways until one ends; `fuel` bounds their number. -/
def search (p : Program) (text : Array Char) :
    Nat → List Thread → Array Bool → Option (List (Nat × Nat)) × Array Bool
  | 0, _, visited => (none, visited)
  | _ + 1, [], visited => (none, visited)
  | fuel + 1, t :: waiting, visited =>
    let cell := t.step * (text.size + 1) + t.place
    if visited.getD cell true then search p text fuel waiting visited
    else if p.isDone t.step then (some t.marks, visited)
    else search p text fuel (p.follow text t ++ waiting) (visited.setIfInBounds cell true)

/-- The marks of the first match that begins at one of the places. -/
def searchFrom (p : Program) (text : Array Char) :
    List Nat → Array Bool → Option (List (Nat × Nat))
  | [], _ => none
  | place :: places, visited =>
    match p.search text (2 * visited.size + 1) [⟨p.entry, place, []⟩] visited with
    | (some marks, _) => some marks
    | (none, visited) => searchFrom p text places visited

/-- The marks of the first match in a text. -/
def marks? (p : Program) (text : Array Char) : Option (List (Nat × Nat)) :=
  p.searchFrom text (List.range (text.size + 1))
    (Array.replicate (p.nodes.size * (text.size + 1)) false)

end Program

/-- A pattern for column names, ready for use. -/
structure ColumnPattern where
  program : Program
  hasCapture : Bool

/-- The pattern of a text, which is to match whole names. -/
def ColumnPattern.ofText? (pattern : String) : Option ColumnPattern :=
  (read? ("^(?:".toList ++ pattern.toList ++ ")$".toList)).map fun r =>
    ⟨.ofRegex r, r.hasCapture⟩

/-- What a loop takes from a column name: nothing if the name does not match, the first capture
if there is one in the pattern, and else the name. -/
def ColumnPattern.value? (p : ColumnPattern) (name : String) : Option String :=
  let text := name.toList.toArray
  (p.program.marks? text).map fun marks =>
    if p.hasCapture then
      match marks.lookup 2, marks.lookup 3 with
      | some start, some stop => String.ofList (text.extract start stop).toList
      | _, _ => ""
    else name

end RowTemplate.Pattern
