import RowTemplate.Expr.Eval

/-! # Remembered expressions

The same texts are evaluated row after row, so the expression that a text is
gets read once. Every remembered entry is the expression of its own text; texts
that are no expressions are not remembered.
-/

namespace RowTemplate

/-- Texts with the expressions that they are. -/
structure ParseCache where
  parses : Table Expr
  sound : ∀ text e, parses.find? text = some e → Expr.parse text = .ok e

namespace ParseCache

/-- Nothing is remembered yet. -/
def empty : ParseCache := ⟨.empty, by simp⟩

/-- The number of texts remembered. -/
def size (cache : ParseCache) : Nat := cache.parses.size

/-- Remembers the expression of a text. -/
def add (cache : ParseCache) (text : String) (e : Expr) (h : Expr.parse text = .ok e) :
    ParseCache where
  parses := cache.parses.insert text e
  sound := by
    intro other e' he
    rw [Table.find?_insert] at he
    split at he
    · simp_all
    · exact cache.sound _ _ he

/-- The expression of a text, remembered from now on. -/
def parse (cache : ParseCache) (text : String) : Except SyntaxError Expr × ParseCache :=
  match cache.parses.find? text with
  | some e => (.ok e, cache)
  | none =>
    match h : Expr.parse text with
    | .ok e => (.ok e, cache.add text e h)
    | .error e => (.error e, cache)

/-- The value of a text, whose expression is remembered from now on. -/
def evaluate (cache : ParseCache) (text : String) (scope : Scope) :
    Except EvalError Value × ParseCache :=
  match cache.parse text with
  | (.ok e, cache) => (e.eval scope, cache)
  | (.error e, cache) => (.error (.syntaxError e), cache)

end ParseCache

end RowTemplate
