import RowTemplate.Expr.Grammar

/-! # Derivations of expressions

    ternary  = coalesced ("?" ternary ":" ternary)?
    coalesced = or ("??" or)*
    or       = and ("||" and)*
    and      = equality ("&&" equality)*
    equality = order (("==" | "!=" | "===" | "!==") order)*
    order    = sum (("<" | "<=" | ">" | ">=") sum)*
    sum      = product (("+" | "-") product)*
    product  = unary (("*" | "/" | "%") unary)*
    unary    = ("!" | "-") unary | accesses
    accesses = operand ("." name arguments? | "[" ternary "]")*
    operand  = "(" ternary ")" | literal | "this" | name arguments? | array | object

Arguments, items of arrays and fields of objects stand between commas, and a
comma may stand behind the last one. A derivation yields tokens and denotes an
expression; what a repetition adds to the operand before it is a function.
-/

namespace RowTemplate.Grammar

/-- An operator of a level and what it makes of its operands. -/
inductive Joins : Nat → Mark → (Expr → Expr → Expr) → Prop
  | or : Joins 0 .or (.logical .or)
  | and : Joins 1 .and (.logical .and)
  | eq : Joins 2 .eq (.binary (.equality .eq))
  | ne : Joins 2 .ne (.binary (.equality .ne))
  | strictEq : Joins 2 .strictEq (.binary (.equality .strictEq))
  | strictNe : Joins 2 .strictNe (.binary (.equality .strictNe))
  | lt : Joins 3 .lt (.binary (.order .lt))
  | le : Joins 3 .le (.binary (.order .le))
  | gt : Joins 3 .gt (.binary (.order .gt))
  | ge : Joins 3 .ge (.binary (.order .ge))
  | add : Joins 4 .plus (.binary (.arith .add))
  | sub : Joins 4 .minus (.binary (.arith .sub))
  | mul : Joins 5 .star (.binary (.arith .mul))
  | div : Joins 5 .slash (.binary (.arith .div))
  | rem : Joins 5 .percent (.binary (.arith .rem))

/-- An operator with one operand. -/
inductive Prefixes : Mark → UnaryOp → Prop
  | not : Prefixes .not .not
  | negate : Prefixes .minus .negate

/-- A literal token and its value. -/
inductive Literal : Token → Value → Prop
  | int (n : Int64) : Literal (.int n) (.int n)
  | float (x : Float) : Literal (.float x) (.float x)
  | string (s : String) : Literal (.string s) (.string s)
  | bool (b : Bool) : Literal (.bool b) (.bool b)
  | null : Literal .null .null

/-- A key of an object and the name that it is. -/
inductive Key : Token → String → Prop
  | name (n : String) : Key (.name n) n
  | string (s : String) : Key (.string s) s
  | int (n : Int64) : Key (.int n) (String.ofList (Number.integerText n.toInt))

theorem joins_iff {k : Nat} {m : Mark} {join : Expr → Expr → Expr} :
    Joins k m join ↔ join? k m = some join := by
  constructor
  · intro h
    cases h <;> rfl
  · intro h
    unfold join? at h
    split at h
    all_goals
      cases h
      try constructor

theorem prefixes_iff {m : Mark} {op : UnaryOp} : Prefixes m op ↔ unaryOp? m = some op := by
  constructor
  · intro h
    cases h <;> rfl
  · intro h
    unfold unaryOp? at h
    split at h
    all_goals
      cases h
      try constructor

theorem literal_iff {t : Token} {v : Value} : Literal t v ↔ literal? t = some v := by
  constructor
  · intro h
    cases h <;> rfl
  · intro h
    unfold literal? at h
    split at h
    all_goals
      cases h
      try constructor

theorem key_iff {t : Token} {key : String} : Key t key ↔ key? t = some key := by
  constructor
  · intro h
    cases h <;> rfl
  · intro h
    unfold key? at h
    split at h
    all_goals
      cases h
      try constructor

/-- The brackets around a list of expressions. -/
inductive Bracket
  | round
  | square

/-- The mark behind the last expression of a list. -/
def Bracket.close : Bracket → Mark
  | .round => .closeParen
  | .square => .closeBracket

/-- A symbol of the grammar. The levels from `or` to `product` are numbered from 0, and behind
the last of them comes `unary`. -/
inductive Symbol
  | ternary
  | coalesced
  | alternatives
  | level (k : Nat)
  | operations (k : Nat)
  | unary
  | accesses
  | access
  | operand
  | items (bracket : Bracket)
  | fields

/-- What a derivation denotes. -/
abbrev Symbol.Value : Symbol → Type
  | .ternary => Expr
  | .coalesced => Expr
  | .alternatives => List Expr
  | .level _ => Expr
  | .operations _ => Expr → Expr
  | .unary => Expr
  | .accesses => Expr
  | .access => Expr → Expr
  | .operand => Expr
  | .items _ => List Expr
  | .fields => List (String × Expr)

/-- A derivation from a symbol. -/
inductive Derivation : Symbol → Type
  | plain (e : Derivation .coalesced) : Derivation .ternary
  | conditional (condition : Derivation .coalesced) (yes no : Derivation .ternary) :
    Derivation .ternary
  | coalesced (e : Derivation (.level 0)) (more : Derivation .alternatives) :
    Derivation .coalesced
  | noAlternative : Derivation .alternatives
  | alternative (e : Derivation (.level 0)) (more : Derivation .alternatives) :
    Derivation .alternatives
  | level {k : Nat} (h : k < levels) (left : Derivation (.level (k + 1)))
    (more : Derivation (.operations k)) : Derivation (.level k)
  | closest (e : Derivation .unary) : Derivation (.level levels)
  | noOperation {k : Nat} : Derivation (.operations k)
  | operation {k : Nat} {m : Mark} {join : Expr → Expr → Expr} (h : Joins k m join)
    (right : Derivation (.level (k + 1))) (more : Derivation (.operations k)) :
    Derivation (.operations k)
  | prefixed {m : Mark} {op : UnaryOp} (h : Prefixes m op) (e : Derivation .unary) :
    Derivation .unary
  | unprefixed (e : Derivation .accesses) : Derivation .unary
  | accesses (e : Derivation .operand) (more : Derivation .access) : Derivation .accesses
  | noAccess : Derivation .access
  | member (n : String) (more : Derivation .access) : Derivation .access
  | method (n : String) (args : Derivation (.items .round)) (more : Derivation .access) :
    Derivation .access
  | element (property : Derivation .ternary) (more : Derivation .access) : Derivation .access
  | grouped (e : Derivation .ternary) : Derivation .operand
  | literal {t : Token} {v : Value} (h : Literal t v) : Derivation .operand
  | everything : Derivation .operand
  | name (n : String) : Derivation .operand
  | call (n : String) (args : Derivation (.items .round)) : Derivation .operand
  | array (es : Derivation (.items .square)) : Derivation .operand
  | object (fs : Derivation .fields) : Derivation .operand
  | noItem {bracket : Bracket} : Derivation (.items bracket)
  | lastItem {bracket : Bracket} (e : Derivation .ternary) : Derivation (.items bracket)
  | item {bracket : Bracket} (e : Derivation .ternary) (more : Derivation (.items bracket)) :
    Derivation (.items bracket)
  | noField : Derivation .fields
  | lastField {t : Token} {key : String} (h : Key t key) (e : Derivation .ternary) :
    Derivation .fields
  | field {t : Token} {key : String} (h : Key t key) (e : Derivation .ternary)
    (more : Derivation .fields) : Derivation .fields

namespace Derivation

/-- The tokens of a derivation. -/
@[simp]
def yield {sym : Symbol} : Derivation sym → List Token
  | plain e => e.yield
  | conditional condition yes no =>
    condition.yield ++ (.mark .question :: yes.yield ++ .mark .colon :: no.yield)
  | coalesced e more => e.yield ++ more.yield
  | noAlternative => []
  | alternative e more => .mark .doubleQuestion :: e.yield ++ more.yield
  | level _ left more => left.yield ++ more.yield
  | closest e => e.yield
  | noOperation => []
  | @operation _ m _ _ right more => .mark m :: right.yield ++ more.yield
  | @prefixed m _ _ e => .mark m :: e.yield
  | unprefixed e => e.yield
  | accesses e more => e.yield ++ more.yield
  | noAccess => []
  | member n more => .mark .dot :: .name n :: more.yield
  | method n args more =>
    .mark .dot :: .name n :: .mark .openParen :: args.yield ++ more.yield
  | element property more =>
    .mark .openBracket :: property.yield ++ .mark .closeBracket :: more.yield
  | grouped e => .mark .openParen :: e.yield ++ [.mark .closeParen]
  | @literal t _ _ => [t]
  | everything => [.everything]
  | name n => [.name n]
  | call n args => .name n :: .mark .openParen :: args.yield
  | array es => .mark .openBracket :: es.yield
  | object fs => .mark .openBrace :: fs.yield
  | @noItem bracket => [.mark bracket.close]
  | @lastItem bracket e => e.yield ++ [.mark bracket.close]
  | item e more => e.yield ++ .mark .comma :: more.yield
  | noField => [.mark .closeBrace]
  | @lastField t _ _ e => t :: .mark .colon :: e.yield ++ [.mark .closeBrace]
  | @field t _ _ e more => t :: .mark .colon :: e.yield ++ .mark .comma :: more.yield

/-- The expression of a derivation, or what it adds to one. A single alternative stands alone,
and operators of one level group to the left. -/
@[simp]
def value {sym : Symbol} : Derivation sym → sym.Value
  | plain e => e.value
  | conditional condition yes no => .ternary condition.value yes.value no.value
  | coalesced e more =>
    match more.value with
    | [] => e.value
    | es => .coalesce (e.value :: es)
  | noAlternative => []
  | alternative e more => e.value :: more.value
  | level _ left more => more.value left.value
  | closest e => e.value
  | noOperation => id
  | @operation _ _ join _ right more => fun left => more.value (join left right.value)
  | @prefixed _ op _ e => .unary op e.value
  | unprefixed e => e.value
  | accesses e more => more.value e.value
  | noAccess => id
  | member n more => fun e => more.value (.member e (.literal (.string n)))
  | method n args more => fun e => more.value (.method e n args.value)
  | element property more => fun e => more.value (.member e property.value)
  | grouped e => e.value
  | @literal _ v _ => .literal v
  | everything => .everything
  | name n => .name n
  | call n args => .call n args.value
  | array es => .array es.value
  | object fs => .object fs.value
  | noItem => []
  | lastItem e => [e.value]
  | item e more => e.value :: more.value
  | noField => []
  | @lastField _ key _ e => [(key, e.value)]
  | @field _ key _ e more => (key, e.value) :: more.value

end Derivation

end RowTemplate.Grammar
