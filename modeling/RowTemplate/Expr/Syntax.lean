import RowTemplate.Expr.Value

/-! # Expressions

The syntax trees of the expression language, and the names that occur free in
one.
-/

namespace RowTemplate

/-- An operator with one operand. -/
inductive UnaryOp
  | not
  | negate
deriving DecidableEq

/-- An arithmetic operator. -/
inductive ArithOp
  | add
  | sub
  | mul
  | div
  | rem
deriving DecidableEq

/-- An equality operator. -/
inductive EqualityOp
  | eq
  | ne
  | strictEq
  | strictNe
deriving DecidableEq

/-- A comparison of order. -/
inductive OrderOp
  | lt
  | le
  | gt
  | ge
deriving DecidableEq

/-- An operator that evaluates both of its operands. -/
inductive BinaryOp
  | arith (op : ArithOp)
  | equality (op : EqualityOp)
  | order (op : OrderOp)
deriving DecidableEq

/-- An operator that yields one of its operands and evaluates the second only if needed. -/
inductive LogicalOp
  | and
  | or
deriving DecidableEq

/-- An expression. -/
inductive Expr
  | literal (v : Value)
  | name (n : String)
  | everything
  | array (items : List Expr)
  | object (fields : List (String × Expr))
  | member (object property : Expr)
  | call (function : String) (args : List Expr)
  | method (object : Expr) (name : String) (args : List Expr)
  | unary (op : UnaryOp) (operand : Expr)
  | binary (op : BinaryOp) (left right : Expr)
  | logical (op : LogicalOp) (left right : Expr)
  | ternary (condition yes no : Expr)
  | coalesce (items : List Expr)
deriving Inhabited

namespace Expr

mutual

/-- The names that an expression refers to, in the order of its text. -/
def identifiers : Expr → List String
  | .literal _ => []
  | .name n => [n]
  | .everything => []
  | .array items => itemIdentifiers items
  | .object fields => fieldIdentifiers fields
  | .member o p => identifiers o ++ identifiers p
  | .call _ args => itemIdentifiers args
  | .method o _ args => identifiers o ++ itemIdentifiers args
  | .unary _ operand => identifiers operand
  | .binary _ left right => identifiers left ++ identifiers right
  | .logical _ left right => identifiers left ++ identifiers right
  | .ternary condition yes no => identifiers condition ++ identifiers yes ++ identifiers no
  | .coalesce items => itemIdentifiers items

/-- The names that several expressions refer to. -/
def itemIdentifiers : List Expr → List String
  | [] => []
  | e :: rest => identifiers e ++ itemIdentifiers rest

/-- The names that the fields of an object refer to. -/
def fieldIdentifiers : List (String × Expr) → List String
  | [] => []
  | (_, e) :: rest => identifiers e ++ fieldIdentifiers rest

end

end Expr

/-- The sign of an operator. -/
def UnaryOp.sign : UnaryOp → String
  | .not => "!"
  | .negate => "-"

/-- The sign of an operator. -/
def BinaryOp.sign : BinaryOp → String
  | .arith .add => "+"
  | .arith .sub => "-"
  | .arith .mul => "*"
  | .arith .div => "/"
  | .arith .rem => "%"
  | .equality .eq => "=="
  | .equality .ne => "!="
  | .equality .strictEq => "==="
  | .equality .strictNe => "!=="
  | .order .lt => "<"
  | .order .le => "<="
  | .order .gt => ">"
  | .order .ge => ">="

/-- The sign of an operator. -/
def LogicalOp.sign : LogicalOp → String
  | .and => "&&"
  | .or => "||"

end RowTemplate
