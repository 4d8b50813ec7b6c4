import RowTemplate.Expr.Syntax
import RowTemplate.Expr.Token

/-! # Reading expressions

    ternary  = coalesce ("?" ternary ":" ternary)?
    coalesce = or ("??" or)*
    or, and, equality, order, sum, product: left-associative levels
    unary    = ("!" | "-") unary | accesses
    accesses = operand ("." name arguments? | "[" ternary "]")*
    operand  = "(" ternary ")" | literal | "this" | name arguments? | array | object

Each function takes the tokens that are left and returns those behind what it
read, with the proof that there are fewer.
-/

namespace RowTemplate.Grammar

open Number (integerText)

/-- Something read, and the tokens behind it, fewer than `n`. -/
abbrev Reading (α : Type) (n : Nat) :=
  Except SyntaxError { p : α × List Lexeme // p.2.length < n }

/-- The error for the first of the tokens that are left. A faulty token has its own. -/
def refuse (ending : Ending) (problem : Option Token → SyntaxProblem) :
    List Lexeme → SyntaxError
  | ⟨token, stop⟩ :: _ => ⟨stop, problem (some token), ""⟩
  | [] =>
    match ending with
    | .finished stop => ⟨stop, problem none, ""⟩
    | .fault e => e

/-- A given mark. -/
def expect (ending : Ending) (m : Mark) (ts : List Lexeme) : Reading Unit ts.length :=
  match ts with
  | ⟨.mark m', stop⟩ :: rest =>
    if m' = m then .ok ⟨((), rest), by simp⟩
    else .error (refuse ending (.missing m) (⟨.mark m', stop⟩ :: rest))
  | ts => .error (refuse ending (.missing m) ts)

/-- The number of levels of operators with two operands. -/
def levels : Nat := 6

/-- What an operator of a level makes of its operands. -/
def join? : Nat → Mark → Option (Expr → Expr → Expr)
  | 0, .or => some (.logical .or)
  | 1, .and => some (.logical .and)
  | 2, .eq => some (.binary (.equality .eq))
  | 2, .ne => some (.binary (.equality .ne))
  | 2, .strictEq => some (.binary (.equality .strictEq))
  | 2, .strictNe => some (.binary (.equality .strictNe))
  | 3, .lt => some (.binary (.order .lt))
  | 3, .le => some (.binary (.order .le))
  | 3, .gt => some (.binary (.order .gt))
  | 3, .ge => some (.binary (.order .ge))
  | 4, .plus => some (.binary (.arith .add))
  | 4, .minus => some (.binary (.arith .sub))
  | 5, .star => some (.binary (.arith .mul))
  | 5, .slash => some (.binary (.arith .div))
  | 5, .percent => some (.binary (.arith .rem))
  | _, _ => none

/-- What an operator with one operand makes of it. -/
def unaryOp? : Mark → Option UnaryOp
  | .not => some .not
  | .minus => some .negate
  | _ => none

/-- The value of a literal token. -/
def literal? : Token → Option Value
  | .int n => some (.int n)
  | .float x => some (.float x)
  | .string s => some (.string s)
  | .bool b => some (.bool b)
  | .null => some .null
  | _ => none

/-- The name that a token is as a key of an object. -/
def key? : Token → Option String
  | .name n => some n
  | .string s => some s
  | .int n => some (String.ofList (integerText n.toInt))
  | _ => none

mutual

/-- A conditional expression or a plain one. -/
def ternary (ending : Ending) (ts : List Lexeme) : Reading Expr ts.length := do
  let ⟨(condition, rest), h⟩ ← coalesced ending ts
  match rest, h with
  | ⟨.mark .question, _⟩ :: rest, h => do
    let ⟨(yes, rest₁), h₁⟩ ← ternary ending rest
    let ⟨((), rest₂), h₂⟩ ← expect ending .colon rest₁
    let ⟨(no, rest₃), h₃⟩ ← ternary ending rest₂
    return ⟨(.ternary condition yes no, rest₃), by simp at *; omega⟩
  | rest, h => return ⟨(condition, rest), h⟩
termination_by 32 * ts.length + 15
decreasing_by all_goals (simp at *; try omega)

/-- Alternatives for null, the first of which is not wrapped when it is alone. -/
def coalesced (ending : Ending) (ts : List Lexeme) : Reading Expr ts.length := do
  let ⟨(first, rest), h⟩ ← binary ending 0 ts
  let ⟨(more, rest), h'⟩ ← alternatives ending rest
  match more with
  | [] => return ⟨(first, rest), by simp at *; omega⟩
  | more => return ⟨(.coalesce (first :: more), rest), by simp at *; omega⟩
termination_by 32 * ts.length + 14
decreasing_by all_goals (simp [levels] at *; try omega)

/-- Further alternatives, each after its operator. -/
def alternatives (ending : Ending) (ts : List Lexeme) : Reading (List Expr) (ts.length + 1) :=
  match ts with
  | ⟨.mark .doubleQuestion, _⟩ :: ts => do
    let ⟨(e, rest), h⟩ ← binary ending 0 ts
    let ⟨(more, rest), h'⟩ ← alternatives ending rest
    return ⟨(e :: more, rest), by simp at *; omega⟩
  | ts => return ⟨([], ts), by simp⟩
termination_by 32 * ts.length + 16
decreasing_by all_goals (simp [levels] at *; try omega)

/-- An expression with operators of a level and of the levels that bind closer. -/
def binary (ending : Ending) (level : Nat) (ts : List Lexeme) : Reading Expr ts.length :=
  if level < levels then do
    let ⟨(left, rest), h⟩ ← binary ending (level + 1) ts
    let ⟨(e, rest), h'⟩ ← operations ending level left rest
    return ⟨(e, rest), by simp at *; omega⟩
  else unary ending ts
termination_by 32 * ts.length + 7 + (levels - level)
decreasing_by all_goals (simp [levels] at *; try omega)

/-- Further operands of a level, to the left of which stands `left`. -/
def operations (ending : Ending) (level : Nat) (left : Expr) (ts : List Lexeme) :
    Reading Expr (ts.length + 1) :=
  match ts with
  | ⟨.mark m, stop⟩ :: ts =>
    match join? level m with
    | some join => do
      let ⟨(right, rest), h⟩ ← binary ending (level + 1) ts
      let ⟨(e, rest), h'⟩ ← operations ending level (join left right) rest
      return ⟨(e, rest), by simp at *; omega⟩
    | none => return ⟨(left, ⟨.mark m, stop⟩ :: ts), by simp⟩
  | ts => return ⟨(left, ts), by simp⟩
termination_by 32 * ts.length + 16
decreasing_by all_goals (simp [levels] at *; try omega)

/-- An operand with the operators in front of it. -/
def unary (ending : Ending) (ts : List Lexeme) : Reading Expr ts.length :=
  match ts with
  | ⟨.mark m, stop⟩ :: ts =>
    match unaryOp? m with
    | some op => do
      let ⟨(operand, rest), h⟩ ← unary ending ts
      return ⟨(.unary op operand, rest), by simp at *; omega⟩
    | none => accesses ending (⟨.mark m, stop⟩ :: ts)
  | ts => accesses ending ts
termination_by 32 * ts.length + 6
decreasing_by all_goals (simp at *; try omega)

/-- An operand with the accesses and calls behind it. -/
def accesses (ending : Ending) (ts : List Lexeme) : Reading Expr ts.length := do
  let ⟨(e, rest), h⟩ ← operand ending ts
  let ⟨(e, rest), h'⟩ ← access ending e rest
  return ⟨(e, rest), by simp at *; omega⟩
termination_by 32 * ts.length + 5
decreasing_by all_goals (simp at *; try omega)

/-- Further accesses to the value of `e`. -/
def access (ending : Ending) (e : Expr) (ts : List Lexeme) : Reading Expr (ts.length + 1) :=
  match ts with
  | ⟨.mark .dot, _⟩ :: ⟨.name n, _⟩ :: ⟨.mark .openParen, _⟩ :: ts => do
    let ⟨(args, rest), h⟩ ← items ending .closeParen ts
    let ⟨(e, rest), h'⟩ ← access ending (.method e n args) rest
    return ⟨(e, rest), by simp at *; omega⟩
  | ⟨.mark .dot, _⟩ :: ⟨.name n, _⟩ :: ts => do
    let ⟨(e, rest), h⟩ ← access ending (.member e (.literal (.string n))) ts
    return ⟨(e, rest), by simp at *; omega⟩
  | ⟨.mark .dot, _⟩ :: ts => .error (refuse ending .notProperty ts)
  | ⟨.mark .openBracket, _⟩ :: ts => do
    let ⟨(property, rest), h⟩ ← ternary ending ts
    let ⟨((), rest), h'⟩ ← expect ending .closeBracket rest
    let ⟨(e, rest), h''⟩ ← access ending (.member e property) rest
    return ⟨(e, rest), by simp at *; omega⟩
  | ts => return ⟨(e, ts), by simp⟩
termination_by 32 * ts.length + 16
decreasing_by all_goals (simp at *; try omega)

/-- An expression that no operator belongs to. -/
def operand (ending : Ending) (ts : List Lexeme) : Reading Expr ts.length :=
  match ts with
  | ⟨.mark .openParen, _⟩ :: ts => do
    let ⟨(e, rest), h⟩ ← ternary ending ts
    let ⟨((), rest), h'⟩ ← expect ending .closeParen rest
    return ⟨(e, rest), by simp at *; omega⟩
  | ⟨.mark .openBracket, _⟩ :: ts => do
    let ⟨(es, rest), h⟩ ← items ending .closeBracket ts
    return ⟨(.array es, rest), by simp at *; omega⟩
  | ⟨.mark .openBrace, _⟩ :: ts => do
    let ⟨(fs, rest), h⟩ ← fields ending ts
    return ⟨(.object fs, rest), by simp at *; omega⟩
  | ⟨.name n, _⟩ :: ⟨.mark .openParen, _⟩ :: ts => do
    let ⟨(args, rest), h⟩ ← items ending .closeParen ts
    return ⟨(.call n args, rest), by simp at *; omega⟩
  | ⟨.name n, _⟩ :: ts => return ⟨(.name n, ts), by simp⟩
  | ⟨.everything, _⟩ :: ts => return ⟨(.everything, ts), by simp⟩
  | ⟨token, stop⟩ :: ts =>
    match literal? token with
    | some v => return ⟨(.literal v, ts), by simp⟩
    | none => .error (refuse ending .notOperand (⟨token, stop⟩ :: ts))
  | [] => .error (refuse ending .notOperand [])
termination_by 32 * ts.length + 4
decreasing_by all_goals (simp at *; try omega)

/-- Expressions with commas between them, up to and with a closing mark. -/
def items (ending : Ending) (close : Mark) (ts : List Lexeme) : Reading (List Expr) ts.length :=
  match expect ending close ts with
  | .ok ⟨((), rest), h⟩ => .ok ⟨([], rest), h⟩
  | .error _ => do
    let ⟨(e, rest), h⟩ ← ternary ending ts
    match rest, h with
    | ⟨.mark .comma, _⟩ :: rest, h => do
      let ⟨(es, rest), h'⟩ ← items ending close rest
      return ⟨(e :: es, rest), by simp at *; omega⟩
    | rest, h => do
      let ⟨((), rest), h'⟩ ← expect ending close rest
      return ⟨([e], rest), by simp at *; omega⟩
termination_by 32 * ts.length + 17
decreasing_by all_goals (simp at *; try omega)

/-- Fields with commas between them, up to and with the closing brace. -/
def fields (ending : Ending) (ts : List Lexeme) : Reading (List (String × Expr)) ts.length :=
  match ts with
  | ⟨.mark .closeBrace, _⟩ :: rest => .ok ⟨([], rest), by simp⟩
  | [] => .error (refuse ending .notKey [])
  | ⟨token, stop⟩ :: ts =>
    match key? token with
    | none => .error (refuse ending .notKey (⟨token, stop⟩ :: ts))
    | some key => do
      let ⟨((), rest), h⟩ ← expect ending .colon ts
      let ⟨(e, rest), h'⟩ ← ternary ending rest
      match rest, h' with
      | ⟨.mark .comma, _⟩ :: rest, h' => do
        let ⟨(fs, rest), h''⟩ ← fields ending rest
        return ⟨((key, e) :: fs, rest), by simp at *; omega⟩
      | rest, h' => do
        let ⟨((), rest), h''⟩ ← expect ending .closeBrace rest
        return ⟨([(key, e)], rest), by simp at *; omega⟩
termination_by 32 * ts.length + 17
decreasing_by all_goals (simp at *; try omega)

end

end RowTemplate.Grammar

namespace RowTemplate

/-- The expression that a text is. -/
def Expr.parse (text : String) : Except SyntaxError Expr := do
  let ⟨lexemes, ending⟩ := lex text
  let ⟨(e, rest), _⟩ ← Grammar.ternary ending lexemes
  match rest, ending with
  | [], .finished _ => return e
  | rest, ending => .error (Grammar.refuse ending .trailing rest)

end RowTemplate
