import RowTemplate.Expr.Token

/-! # Spans

A span is `$`, an opening brace, a body and a closing brace. The body ends at
the first closing brace that neither closes an inner brace nor stands between
quotes; between quotes a backslash takes the next character with it. A text
whose first opening has no end holds no further span.
-/

namespace RowTemplate

/-- Where in a body a character stands: inside so many inner braces, possibly between quotes. -/
inductive Place
  | code (depth : Nat)
  | quoted (quote : Char) (depth : Nat)
deriving DecidableEq

/-- The character opens and closes a quotation. -/
def isQuote (c : Char) : Bool := c = '\'' || c = '"'

/-- The place behind a character of code. -/
def Place.behindCode (depth : Nat) (c : Char) : Place :=
  if c = '{' then .code (depth + 1)
  else if c = '}' then .code (depth - 1)
  else if isQuote c then .quoted c depth
  else .code depth

/-- The place behind a character between quotes. -/
def Place.behindQuoted (quote : Char) (depth : Nat) (c : Char) : Place :=
  if c = quote then .code depth else .quoted quote depth

/-- The rest of a body from a place on, and the text behind its closing brace. -/
def spanBody? : Place → List Char → Option (List Char × List Char)
  | _, [] => none
  | .code depth, c :: s =>
    if c = '}' ∧ depth = 0 then some ([], s)
    else (spanBody? (.behindCode depth c) s).map fun (body, rest) => (c :: body, rest)
  | .quoted quote depth, '\\' :: c :: s =>
    (spanBody? (.quoted quote depth) s).map fun (body, rest) => ('\\' :: c :: body, rest)
  | .quoted quote depth, c :: s =>
    (spanBody? (.behindQuoted quote depth c) s).map fun (body, rest) => (c :: body, rest)

/-- The first span of a text with what stands before and after it. -/
structure SpanSplit where
  before : List Char
  body : List Char
  after : List Char

/-- The first span of a text. -/
def firstSpan? : List Char → Option SpanSplit
  | '$' :: '{' :: s => (spanBody? (.code 0) s).map fun (body, after) => ⟨[], body, after⟩
  | c :: s => (firstSpan? s).map fun split => { split with before := c :: split.before }
  | [] => none

/-- A body with its delimiters. -/
def spanText (body : List Char) : List Char := '$' :: '{' :: body ++ ['}']

theorem spanBody?_eq {place : Place} {s body rest : List Char}
    (h : spanBody? place s = some (body, rest)) : s = body ++ '}' :: rest := by
  fun_induction spanBody? place s generalizing body with
  | case1 => simp at h
  | case2 depth c s hc => simp_all
  | case3 depth c s hc ih =>
    obtain ⟨⟨b, r⟩, hb, heq⟩ := Option.map_eq_some_iff.mp h
    obtain ⟨rfl, rfl⟩ := Prod.mk.inj heq
    simp [ih hb]
  | case4 quote depth c s ih =>
    obtain ⟨⟨b, r⟩, hb, heq⟩ := Option.map_eq_some_iff.mp h
    obtain ⟨rfl, rfl⟩ := Prod.mk.inj heq
    simp [ih hb]
  | case5 quote depth c s _ ih =>
    obtain ⟨⟨b, r⟩, hb, heq⟩ := Option.map_eq_some_iff.mp h
    obtain ⟨rfl, rfl⟩ := Prod.mk.inj heq
    simp [ih hb]

theorem firstSpan?_eq {s : List Char} {split : SpanSplit} (h : firstSpan? s = some split) :
    s = split.before ++ spanText split.body ++ split.after := by
  fun_induction firstSpan? s generalizing split with
  | case1 s =>
    obtain ⟨⟨b, r⟩, hb, rfl⟩ := Option.map_eq_some_iff.mp h
    simp [spanText, spanBody?_eq hb]
  | case2 c s _ ih =>
    obtain ⟨inner, hi, rfl⟩ := Option.map_eq_some_iff.mp h
    simp [← ih hi]
  | case3 => simp at h

/-- A part of a text: plain characters, or a span given by its body. -/
inductive Segment
  | plain (s : List Char)
  | span (body : List Char)

/-- The parts of a text in order. -/
def segments (s : List Char) : List Segment :=
  match h : firstSpan? s with
  | some split =>
    have : split.after.length < s.length := by
      have := congrArg List.length (firstSpan?_eq h)
      simp only [spanText, List.length_append, List.length_cons] at this
      omega
    .plain split.before :: .span split.body :: segments split.after
  | none => [.plain s]
termination_by s.length

/-- The text with every span replaced, from left to right. -/
def replaceSpans {m : Type → Type} [Monad m] (replace : List Char → m (List Char))
    (s : List Char) : m (List Char) := do
  let parts ← (segments s).mapM fun
    | .plain t => pure t
    | .span body => replace body
  return parts.flatten

/-- The body of a text that is one span and nothing else. -/
def singleton? (s : List Char) : Option (List Char) :=
  match firstSpan? s with
  | some ⟨[], body, []⟩ => some body
  | _ => none

/-- The text holds a span. -/
def hasSpan (s : List Char) : Bool := (firstSpan? s).isSome

/-- A span with its place in bytes; `isWhole` says that it is all of the text. -/
structure Span where
  start : Nat
  stop : Nat
  body : List Char
  isWhole : Bool

/-- A walk over the spans of a text: the text not yet copied, of which `gap` stands before the
current span and `rest` behind it, with their places in bytes. -/
structure Scanner where
  unread : List Char
  gap : List Char
  rest : List Char
  mark : Nat
  stop : Nat

namespace Scanner

/-- A walk that has not begun. -/
def start (s : List Char) : Scanner := ⟨s, [], s, 0, 0⟩

/-- Goes on to the next span. -/
def find (w : Scanner) : Option Span × Scanner :=
  match firstSpan? w.rest with
  | some split =>
    let first := w.stop + byteWidth split.before
    let stop := first + byteWidth (spanText split.body)
    (some ⟨first, stop, split.body, first = 0 && split.after.isEmpty⟩,
      ⟨w.rest, split.before, split.after, w.stop, stop⟩)
  | none => (none, ⟨w.rest, [], w.rest, w.stop, w.stop⟩)

/-- Copies the text before the current span, then puts a text in the place of the span. -/
def replace (w : Scanner) (out new : List Char) : List Char := out ++ w.gap ++ new

/-- Copies what is left of the text. -/
def tail (w : Scanner) (out : List Char) : List Char := out ++ w.unread

theorem length_rest_find {w w' : Scanner} {span : Span} (h : w.find = (some span, w')) :
    w'.rest.length < w.rest.length := by
  unfold find at h
  split at h
  case h_1 split hs =>
    obtain ⟨-, rfl⟩ := Prod.mk.inj h
    have := congrArg List.length (firstSpan?_eq hs)
    simp only [spanText, List.length_append, List.length_cons] at this
    simp only
    omega
  case h_2 => simp at h

/-- The spans that are still to come. -/
def spans (w : Scanner) : List Span :=
  match h : w.find with
  | (some span, w') =>
    have := length_rest_find h
    span :: spans w'
  | (none, _) => []
termination_by w.rest.length

end Scanner

/-- The spans of a text. -/
def spans (s : List Char) : List Span := (Scanner.start s).spans

end RowTemplate
