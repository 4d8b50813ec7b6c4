import RowTemplate.Template.Directive
import RowTemplate.Template.Error

/-! # Chains of conditions

The branches of one array or object form chains: an `if` begins one, at most
one branch of a chain is taken, and an `else` closes it. A condition is tested
only when the outcome depends on it.
-/

namespace RowTemplate

/-- The state of the chain of conditions at one place of a scope. -/
inductive Chain
  | closed
  | opened (satisfied : Bool)
deriving DecidableEq

/-- Whether a branch is taken, and the state of the chain behind it. -/
def Chain.step {m : Type → Type} [Monad m] [MonadExceptOf ExpandError m] (chain : Chain)
    (branch : Branch) (test : String → m Bool) : m (Bool × Chain) :=
  match branch, chain with
  | .ifTrue e, _ => do
    let taken ← test e
    return (taken, .opened taken)
  | .elseIf _, .closed => throw .orphanElseIf
  | .elseIf _, .opened true => return (false, .opened true)
  | .elseIf e, .opened false => do
    let taken ← test e
    return (taken, .opened taken)
  | .otherwise, .closed => throw .orphanElse
  | .otherwise, .opened satisfied => return (!satisfied, .closed)

end RowTemplate
