import RowTemplate.Number.Hexadecimal

/-! # Tokens of YAML

The text splits into scalars, marks of flow collections, and marks of block
collections, which begin where a line is indented further than the collection
around it and end where one is indented less. A key is a scalar on one line
with a colon behind it. Scalars that go on over several lines are folded.

Anchors, tags, directives, block scalars and keys with a question mark are not
part of the notation read here.
-/

namespace RowTemplate.Yaml

open Number (hexChar?)

/-- A token of YAML. -/
inductive Token
  | beginDocument
  | endDocument
  | openSequence
  | openMapping
  | closeBlock
  | entry
  | key (name : List Char)
  | plain (s : List Char)
  | quoted (s : List Char)
  | openList
  | closeList
  | openFields
  | closeFields
  | comma
deriving DecidableEq

/-- The character may stand in a document. -/
def isAllowed (c : Char) : Bool :=
  c = '\t' || c = '\n' || c = '\r' || (' ' ≤ c && c ≤ '~') || c = '\u0085' ||
    ('\u00A0' ≤ c && c ≤ '\uFFFD') || 0x10000 ≤ c.toNat

/-- Line ends of one form; only the separators of Unicode are kept apart. -/
def unifyBreaks : List Char → List Char
  | [] => []
  | '\r' :: '\n' :: s => '\n' :: unifyBreaks s
  | '\r' :: s => '\n' :: unifyBreaks s
  | '\u0085' :: s => '\n' :: unifyBreaks s
  | c :: s => c :: unifyBreaks s

/-- A space or a tab. -/
def isBlank (c : Char) : Bool := c = ' ' || c = '\t'

/-- A line end. -/
def isBreak (c : Char) : Bool := c = '\n' || c = '\u2028' || c = '\u2029'

/-- A blank or a line end. -/
def isGap (c : Char) : Bool := isBlank c || isBreak c

/-- A gap or the end of the text comes next. -/
def beginsGap (s : List Char) : Bool := s.head?.all isGap

/-- A mark of a flow collection. -/
def isFlowMark (c : Char) : Bool :=
  c = ',' || c = '[' || c = ']' || c = '{' || c = '}'

/-- The column behind a text that begins at a column. -/
def columnBehind (column : Nat) (s : List Char) : Nat :=
  s.foldl (fun column c => if isBreak c then 0 else column + 1) column

/-- The text begins with three times the character and a gap: a mark between documents. -/
def isRule (c : Char) (s : List Char) : Bool :=
  [c, c, c].isPrefixOf s && beginsGap (s.drop 3)

/-- A mark between documents stands at the column. -/
def isMarker (column : Nat) (s : List Char) : Bool :=
  column = 0 && (isRule '-' s || isRule '.' s)

/-- What a gap inside a scalar means: blanks stay, one line end is a space, and of several the
first is dropped. -/
def foldGap (gap : List Char) : List Char :=
  match gap.filter isBreak with
  | [] => gap
  | ['\n'] => [' ']
  | '\n' :: breaks => breaks
  | breaks => breaks

/-- The place of the next token: the columns of the open block collections, the innermost first,
the number of open flow collections, and whether a key may begin. -/
structure Place where
  columns : List Nat
  flow : Nat
  keyAllowed : Bool

/-- The beginning of a text. -/
def Place.start : Place := ⟨[], 0, true⟩

/-- The smallest column at which a scalar goes on in a further line. -/
def Place.indent (p : Place) : Nat := (p.columns.head?.map (· + 1)).getD 0

/-- Inside a flow collection. -/
def Place.inFlow (p : Place) : Bool := 0 < p.flow

/-- The number of characters of a plain scalar up to the next gap or to its end. Inside a flow
collection no mark may follow its colon. -/
def wordLength? (inFlow : Bool) : List Char → Option Nat
  | [] => some 0
  | c :: s =>
    if isGap c then some 0
    else if inFlow ∧ c = ':' ∧ s.head?.any (fun d => isFlowMark d || d = '?') then none
    else if (c = ':' ∧ beginsGap s) ∨ (inFlow ∧ isFlowMark c) then some 0
    else (wordLength? inFlow s).map (· + 1)

/-- A tab stands in a gap before a column at the beginning of a line. -/
def tabBefore (indent : Nat) : (column : Nat) → (lineStart : Bool) → List Char → Bool
  | _, _, [] => false
  | column, lineStart, c :: gap =>
    if isBreak c then tabBefore indent 0 true gap
    else (lineStart && c = '\t' && column < indent) || tabBefore indent (column + 1) lineStart gap

/-- The text of a plain scalar from a column on, and the number of its characters with the gap
behind it. -/
def plain? (p : Place) (column : Nat) : List Char → Option (List Char × Nat)
  | [] => some ([], 0)
  | c :: s => do
    if isMarker column (c :: s) ∨ c = '#' then return ([], 0)
    let n ← wordLength? p.inFlow (c :: s)
    if n = 0 then return ([], 0)
    let word := (c :: s).take n
    let rest := s.drop (n - 1)
    let gap := rest.takeWhile isGap
    if gap = [] then return (word, n)
    if tabBefore p.indent (column + n) false gap then none
    let next := columnBehind (column + n) gap
    if ¬ p.inFlow ∧ next < p.indent then return (word, n + gap.length)
    let (text, m) ← plain? p next (rest.drop gap.length)
    if text = [] then return (word, n + gap.length + m)
    return (word ++ foldGap gap ++ text, n + gap.length + m)
termination_by s => s.length
decreasing_by simp only [List.length_drop, List.length_cons]; omega

/-- The text of a single-quoted scalar from a column on, and the number of characters up to and
with the closing quote; two quotes are one. -/
def singleQuoted? (column : Nat) : List Char → Option (List Char × Nat)
  | [] => none
  | c :: s =>
    if isMarker column (c :: s) then none
    else if isGap c then
      let gap := s.takeWhile isGap
      let next := columnBehind column (c :: gap)
      (singleQuoted? next (s.drop gap.length)).map fun (t, n) =>
        (foldGap (c :: gap) ++ t, gap.length + 1 + n)
    else if c = '\'' then
      match s with
      | '\'' :: s => (singleQuoted? (column + 2) s).map fun (t, n) => ('\'' :: t, n + 2)
      | _ => some ([], 1)
    else (singleQuoted? (column + 1) s).map fun (t, n) => (c :: t, n + 1)
termination_by s => s.length
decreasing_by all_goals (simp only [List.length_drop, List.length_cons]; omega)

/-- The character of an escape with one letter. -/
def escapeValue? : Char → Option Char
  | '0' => some '\x00'
  | 'a' => some '\x07'
  | 'b' => some '\x08'
  | 't' => some '\t'
  | '\t' => some '\t'
  | 'n' => some '\n'
  | 'v' => some '\x0b'
  | 'f' => some '\x0c'
  | 'r' => some '\r'
  | 'e' => some '\x1b'
  | ' ' => some ' '
  | '"' => some '"'
  | '/' => some '/'
  | '\\' => some '\\'
  | 'N' => some '\u0085'
  | '_' => some '\u00A0'
  | 'L' => some '\u2028'
  | 'P' => some '\u2029'
  | _ => none

/-- The number of hexadecimal digits behind the letter of an escape. -/
def escapeWidth : Char → Nat
  | 'x' => 2
  | 'u' => 4
  | 'U' => 8
  | _ => 0

/-- The character of an escape with a letter, and the number of characters behind the letter that
belong to it; a surrogate is no character. -/
def escape? (c : Char) (s : List Char) : Option (Char × Nat) :=
  let width := escapeWidth c
  if width = 0 then (escapeValue? c).map (·, 0)
  else do
    guard (width ≤ s.length)
    return (← hexChar? (s.take width), width)

/-- The text of a double-quoted scalar from a column on, and the number of characters up to and
with the closing quote. A backslash before a line end joins the lines. -/
def doubleQuoted? (column : Nat) : List Char → Option (List Char × Nat)
  | [] => none
  | c :: s =>
    if isMarker column (c :: s) then none
    else if isGap c then
      let gap := s.takeWhile isGap
      let next := columnBehind column (c :: gap)
      (doubleQuoted? next (s.drop gap.length)).map fun (t, n) =>
        (foldGap (c :: gap) ++ t, gap.length + 1 + n)
    else if c = '"' then some ([], 1)
    else if c = '\\' then
      match s with
      | [] => none
      | d :: s =>
        if isBreak d then
          let gap := s.takeWhile isGap
          (doubleQuoted? (columnBehind 0 gap) (s.drop gap.length)).map fun (t, n) =>
            (gap.filter isBreak ++ t, gap.length + 2 + n)
        else
          (escape? d s).bind fun (e, width) =>
            (doubleQuoted? (column + 2 + width) (s.drop width)).map fun (t, n) =>
              (e :: t, width + 2 + n)
    else (doubleQuoted? (column + 1) s).map fun (t, n) => (c :: t, n + 1)
termination_by s => s.length
decreasing_by all_goals (simp only [List.length_drop, List.length_cons]; omega)

/-- A token of a scalar, and the number of further characters that belong to it. -/
def scalar? (p : Place) (column : Nat) (c : Char) (s : List Char) : Option (Token × Nat) :=
  if c = '\'' then (singleQuoted? (column + 1) s).map fun (t, n) => (.quoted t, n)
  else if c = '"' then (doubleQuoted? (column + 1) s).map fun (t, n) => (.quoted t, n)
  else
    let opens :=
      if c = '-' then !s.head?.all isBlank
      else if c = '?' ∨ c = ':' then !p.inFlow && !beginsGap s
      else !isFlowMark c && c ∉ "#&*!|>%@\u0060\t".toList
    if opens then (plain? p column (c :: s)).map fun (t, n) => (.plain t, n - 1) else none

/-- The text of a token of a scalar. -/
def Token.text : Token → List Char
  | .plain s => s
  | .quoted s => s
  | _ => []

/-- The number of characters behind a scalar up to and with the colon that makes it a key. -/
def colonBehind? (p : Place) (s : List Char) : Option Nat :=
  match s.dropWhile isBlank with
  | ':' :: rest =>
    if p.inFlow ∨ beginsGap rest then some ((s.takeWhile isBlank).length + 1) else none
  | _ => none

/-- The longest key, counted in characters up to its colon. -/
def longestKey : Nat := 1024

/-- Enters a block collection unless it is open already. -/
def Place.enter (p : Place) (column : Nat) (opening : Token) : List Token × Place :=
  if ¬ p.inFlow ∧ p.columns.head?.all (· < column) then
    ([opening], { p with columns := column :: p.columns })
  else ([], p)

/-- A scalar at this place must be a key, for no other token may begin a line of a mapping. -/
def Place.wantsKey (p : Place) (column : Nat) : Bool :=
  p.keyAllowed && !p.inFlow && p.columns.head? = some column

/-- What a token amounts to: the tokens themselves, the number of further characters that belong
to them, and the place behind them. -/
abbrev Step := Option (List Token × Nat × Place)

/-- A scalar or a key. -/
def scalarStep (p : Place) (column : Nat) (c : Char) (s : List Char) : Step := do
  let (token, n) ← scalar? p column c s
  let spans := (s.take n).any isBreak
  let colon := if p.keyAllowed ∧ ¬ spans then colonBehind? p (s.drop n) else none
  match colon with
  | some m =>
    guard (n + m ≤ longestKey)
    let (opening, p) := p.enter column .openMapping
    return (opening ++ [.key token.text], n + m, { p with keyAllowed := false })
  | none =>
    guard (¬ p.wantsKey column)
    let behind := (s.take n).reverse.takeWhile isGap
    return ([token], n, { p with keyAllowed := behind.any isBreak })

/-- The token that begins with `c`. -/
def step? (p : Place) (column : Nat) (c : Char) (s : List Char) : Step :=
  if isMarker column (c :: s) then
    if p.inFlow then none
    else
      let mark := if c = '-' then .beginDocument else .endDocument
      some (p.columns.map (fun _ => .closeBlock) ++ [mark], 2, ⟨[], 0, false⟩)
  else if c = '-' ∧ beginsGap s then
    if p.inFlow ∨ ¬ p.keyAllowed then none
    else
      let (opening, p) := p.enter column .openSequence
      some (opening ++ [.entry], 0, { p with keyAllowed := true })
  else if c = '[' ∨ c = '{' then
    if p.wantsKey column then none
    else
      let mark := if c = '[' then .openList else .openFields
      some ([mark], 0, { p with flow := p.flow + 1, keyAllowed := true })
  else if p.inFlow ∧ (c = ']' ∨ c = '}') then
    let mark := if c = ']' then .closeList else .closeFields
    some ([mark], 0, { p with flow := p.flow - 1, keyAllowed := false })
  else if p.inFlow ∧ c = ',' then some ([.comma], 0, { p with keyAllowed := true })
  else scalarStep p column c s

/-- Leaves the block collections that are indented further than a column. -/
def Place.leave (p : Place) (column : Nat) : List Token × Place :=
  if p.inFlow then ([], p)
  else
    let left := p.columns.takeWhile (column < ·)
    (left.map fun _ => .closeBlock, { p with columns := p.columns.drop left.length })

/-- The tokens of a text from a place on. -/
def tokensFrom? (p : Place) (column : Nat) : List Char → Option (List Token)
  | [] => some (p.columns.map fun _ => .closeBlock)
  | c :: s =>
    if c = ' ' ∨ (c = '\t' ∧ (p.inFlow ∨ ¬ p.keyAllowed)) then tokensFrom? p (column + 1) s
    else if c = '#' then tokensFrom? p column (s.drop (s.takeWhile (!isBreak ·)).length)
    else if isBreak c then
      tokensFrom? { p with keyAllowed := p.keyAllowed || !p.inFlow } 0 s
    else do
      let (closing, p) := p.leave column
      let (tokens, n, p) ← step? p column c s
      let more ← tokensFrom? p (columnBehind column (c :: s.take n)) (s.drop n)
      return closing ++ tokens ++ more
termination_by s => s.length
decreasing_by all_goals (simp only [List.length_drop, List.length_cons]; omega)

/-- The tokens of a text; a mark of byte order at its beginning is left out. -/
def tokens? (s : List Char) : Option (List Token) :=
  let s := match s with
    | '\uFEFF' :: s => s
    | s => s
  if s.all isAllowed then tokensFrom? .start 0 (unifyBreaks s) else none

end RowTemplate.Yaml
