import Mathlib
import RowTemplate.Expr.Eval
import RowTemplate.Proofs.Number.Word

/-! # Exact arithmetic

Arithmetic on integers is carried out as over the unbounded integers, operand by
operand from left to right, up to the first operation that cannot be: one that
divides by zero, one whose result is no word, or the remainder of a division
whose quotient is none. What comes out is the exact result or the fault of that
operation.
-/

namespace RowTemplate

open Number

/-- An operation on integers, with the operands that it is carried out on. -/
inductive ArithStep
  | negate (a : Int)
  | combine (op : ArithOp) (a b : Int)
deriving DecidableEq

namespace ArithStep

/-- The result over the unbounded integers: a quotient is rounded toward zero, and a remainder has
the sign of the dividend. -/
def result : ArithStep → Int
  | negate a => -a
  | combine .add a b => a + b
  | combine .sub a b => a - b
  | combine .mul a b => a * b
  | combine .div a b => a.tdiv b
  | combine .rem a b => a.tmod b

/-- What the operation divides by. -/
def divisor? : ArithStep → Option Int
  | combine .div _ b => some b
  | combine .rem _ b => some b
  | _ => none

/-- The operation cannot be carried out on words. The remainder of the least word by `-1` is a word,
but the quotient that goes with it is none. -/
def IsFaulty (step : ArithStep) : Prop :=
  step.divisor? = some 0 ∨ ¬ FitsWord step.result ∨ step = combine .rem (-2 ^ 63) (-1)

instance : DecidablePred IsFaulty := fun _ => inferInstanceAs (Decidable (_ ∨ _))

/-- The fault of an operation that cannot be carried out. -/
def fault (step : ArithStep) : EvalError :=
  if step.divisor? = some 0 then .divisionByZero else .overflow

/-- A division by another number than zero leaves no remainder. -/
def IsExact : ArithStep → Prop
  | combine .div a b => b = 0 ∨ b ∣ a
  | _ => True

/-- Every division among some operations leaves no remainder, up to the first operation that cannot
be carried out. -/
def ReachesExact : List ArithStep → Prop
  | [] => True
  | step :: rest => step.IsExact ∧ (step.IsFaulty ∨ ReachesExact rest)

/-- What the operation comes to on words. -/
def perform (step : ArithStep) : Except EvalError Value :=
  if step.IsFaulty then .error step.fault else .ok (.int (Int64.ofInt step.result))

variable {step : ArithStep}

theorem message_fault (step : ArithStep) :
    step.fault.message =
      if step.divisor? = some 0 then "division by zero" else "integer overflow" := by
  unfold fault
  split <;> rfl

theorem ofInt_eq_perform (step : ArithStep) (hdivisor : step.divisor? ≠ some 0)
    (hrem : step ≠ combine .rem (-2 ^ 63) (-1)) : Value.ofInt step.result = step.perform := by
  rw [Value.ofInt, word?]
  by_cases hfits : FitsWord step.result
  · have hsound : ¬ step.IsFaulty := by
      rintro (h | h | h)
      · exact hdivisor h
      · exact h hfits
      · exact hrem h
    rw [perform, if_neg hsound, if_pos hfits]
  · have hfaulty : step.IsFaulty := .inr (.inl hfits)
    rw [perform, if_pos hfaulty, fault, if_neg hdivisor, if_neg hfits]

theorem unary_negate_int (n : Int64) :
    Value.unary .negate (.int n) = (negate n.toInt).perform :=
  ofInt_eq_perform (.negate n.toInt) (by simp [divisor?]) (by simp)

theorem perform_of_divisor?_zero (h : step.divisor? = some 0) :
    step.perform = .error .divisionByZero := by
  rw [perform, if_pos (.inl h), fault, if_pos h]

theorem arith_int (op : ArithOp) (m n : Int64) (h : (combine op m.toInt n.toInt).IsExact) :
    Value.arith op (.int m) (.int n) = (combine op m.toInt n.toInt).perform := by
  have hm := fitsWord_toInt m
  have harith : Value.arith op (.int m) (.int n) = Value.intArith op m n :=
    if_neg (by simp [Value.isTextLike])
  rw [harith]
  cases op with
  | add => exact ofInt_eq_perform (combine .add _ _) (by simp [divisor?]) (by simp)
  | sub => exact ofInt_eq_perform (combine .sub _ _) (by simp [divisor?]) (by simp)
  | mul => exact ofInt_eq_perform (combine .mul _ _) (by simp [divisor?]) (by simp)
  | div =>
    by_cases hn : n.toInt = 0
    · rw [perform_of_divisor?_zero (by simp [divisor?, hn]), Value.intArith]
      simp [hn]
    · have hmod : m.toInt.tmod n.toInt = 0 := Int.tmod_eq_zero_of_dvd (h.resolve_left hn)
      rw [← ofInt_eq_perform _ (by simpa [divisor?] using hn) (by simp), Value.intArith]
      simp [hn, hmod, result]
  | rem =>
    by_cases hn : n.toInt = 0
    · rw [perform_of_divisor?_zero (by simp [divisor?, hn]), Value.intArith]
      simp [hn]
    · by_cases hquot : FitsWord (m.toInt.tdiv n.toInt)
      · have hne := (fitsWord_tdiv_iff hm).mp hquot
        rw [← ofInt_eq_perform _ (by simpa [divisor?] using hn) (by simpa using hne), Value.intArith]
        simp [hn, hquot, result]
      · obtain ⟨hleast, hone⟩ := not_not.mp fun h => hquot ((fitsWord_tdiv_iff hm).mpr h)
        rw [Value.intArith]
        simp only [if_neg hn, if_neg hquot]
        rw [hleast, hone]
        rfl

theorem ReachesExact.append_iff {before after : List ArithStep} :
    ReachesExact (before ++ after) ↔
      ReachesExact before ∧ ((∃ step ∈ before, step.IsFaulty) ∨ ReachesExact after) := by
  induction before with
  | nil => simp [ReachesExact]
  | cons step before ih =>
    have hfaulty : (∃ s ∈ step :: before, s.IsFaulty) ↔
        step.IsFaulty ∨ ∃ s ∈ before, s.IsFaulty := by simp
    rw [List.cons_append, ReachesExact, ReachesExact, ih, hfaulty]
    constructor
    · rintro ⟨hstep, hfaulty | ⟨hbefore, hafter⟩⟩
      · exact ⟨⟨hstep, .inl hfaulty⟩, .inl (.inl hfaulty)⟩
      · exact ⟨⟨hstep, .inr hbefore⟩, hafter.imp_left .inr⟩
    · rintro ⟨⟨hstep, hfaulty | hbefore⟩, hafter⟩
      · exact ⟨hstep, .inl hfaulty⟩
      · rcases hafter with (hfaulty | hfaulty) | hafter
        · exact ⟨hstep, .inl hfaulty⟩
        · exact ⟨hstep, .inr ⟨hbefore, .inl hfaulty⟩⟩
        · exact ⟨hstep, .inr ⟨hbefore, .inr hafter⟩⟩

/-- What some operations come to that lead to the integer `z`: the first of them that cannot be
carried out fails, and behind it none is. -/
inductive Outcome (z : Int) : List ArithStep → Except EvalError Value → Prop
  | done {steps : List ArithStep} {n : Int64} : (∀ step ∈ steps, ¬ step.IsFaulty) → n.toInt = z →
    Outcome z steps (.ok (.int n))
  | failed {before : List ArithStep} {step : ArithStep} (after : List ArithStep) :
    (∀ step ∈ before, ¬ step.IsFaulty) → step.IsFaulty →
    Outcome z (before ++ step :: after) (.error step.fault)

namespace Outcome

variable {z : Int} {steps more : List ArithStep} {r : Except EvalError Value}

theorem perform (step : ArithStep) : Outcome step.result [step] step.perform := by
  unfold ArithStep.perform
  split
  case isTrue hfaulty => exact .failed [] (List.forall_mem_nil _) hfaulty
  case isFalse hsound =>
    have hfits : FitsWord step.result := by
      by_contra h
      exact hsound (.inr (.inl h))
    refine .done (by simpa using hsound) ?_
    exact Int64.toInt_ofInt_of_le hfits.1 (Int.lt_add_one_of_le hfits.2)

theorem bind {f : Value → Except EvalError Value} (h : Outcome a steps r)
    (hf : ∀ n : Int64, n.toInt = a → (∀ step ∈ steps, ¬ step.IsFaulty) →
      Outcome z more (f (.int n))) :
    Outcome z (steps ++ more) (r >>= f) := by
  cases h with
  | @done _ n hsteps hn =>
    have hrest := hf n hn hsteps
    change Outcome z (steps ++ more) (f (.int n))
    generalize f (.int n) = r at hrest
    cases hrest with
    | done hmore hz => exact .done (List.forall_mem_append.mpr ⟨hsteps, hmore⟩) hz
    | failed after hbefore hfaulty =>
      rw [← List.append_assoc]
      exact .failed after (List.forall_mem_append.mpr ⟨hsteps, hbefore⟩) hfaulty
  | failed after hbefore hfaulty =>
    rw [List.append_assoc, List.cons_append]
    exact .failed (after ++ more) hbefore hfaulty

theorem find? (h : Outcome z steps r) :
    match steps.find? (·.IsFaulty) with
    | none => ∃ n, r = .ok (.int n) ∧ n.toInt = z
    | some step => r = .error step.fault := by
  cases h with
  | @done _ n hsteps hz =>
    have hnone : steps.find? (·.IsFaulty) = none :=
      List.find?_eq_none.mpr fun step hstep => by simpa using hsteps step hstep
    rw [hnone]
    exact ⟨n, rfl, hz⟩
  | @failed before step after hbefore hfaulty =>
    have hsome : (before ++ step :: after).find? (·.IsFaulty) = some step :=
      List.find?_eq_some_iff_append.mpr
        ⟨by simpa using hfaulty, before, after, rfl, by simpa using hbefore⟩
    rw [hsome]

end Outcome

end ArithStep

namespace Expr

open ArithStep (Outcome ReachesExact)

variable {scope : Scope} {e : Expr}

/-- Arithmetic on integers: integer literals and names of integers, negated and combined. -/
inductive IsArithmetic (scope : Scope) : Expr → Prop
  | literal (n : Int64) : IsArithmetic scope (.literal (.int n))
  | name {x : String} {n : Int64} : scope.lookup x = some (.int n) → IsArithmetic scope (.name x)
  | negate {e : Expr} : IsArithmetic scope e → IsArithmetic scope (.unary .negate e)
  | combine {left right : Expr} (op : ArithOp) : IsArithmetic scope left →
    IsArithmetic scope right → IsArithmetic scope (.binary (.arith op) left right)

/-- The value of arithmetic on integers over the unbounded integers. -/
def exactValue (scope : Scope) : Expr → Int
  | .literal (.int n) => n.toInt
  | .name x =>
    match scope.lookup x with
    | some (.int n) => n.toInt
    | _ => 0
  | .unary .negate e => (ArithStep.negate (exactValue scope e)).result
  | .binary (.arith op) left right =>
    (ArithStep.combine op (exactValue scope left) (exactValue scope right)).result
  | _ => 0

/-- The operations of arithmetic on integers in the order in which they are carried out, each on the
exact values of its operands. -/
def steps (scope : Scope) : Expr → List ArithStep
  | .unary .negate e => steps scope e ++ [.negate (exactValue scope e)]
  | .binary (.arith op) left right =>
    steps scope left ++
      (steps scope right ++ [.combine op (exactValue scope left) (exactValue scope right)])
  | _ => []

theorem IsArithmetic.outcome (h : e.IsArithmetic scope) (hexact : ReachesExact (e.steps scope)) :
    Outcome (e.exactValue scope) (e.steps scope) (e.eval scope) := by
  induction h with
  | literal n => exact .done (List.forall_mem_nil _) rfl
  | @name x n hx =>
    have hvalue : n.toInt = exactValue scope (.name x) := by rw [exactValue, hx]
    rw [eval, hx]
    exact .done (List.forall_mem_nil _) hvalue
  | @negate e _ ih =>
    rw [steps, ArithStep.ReachesExact.append_iff] at hexact
    rw [steps, eval]
    refine (ih hexact.1).bind fun n hn _ => ?_
    rw [ArithStep.unary_negate_int, hn]
    exact .perform _
  | @combine left right op _ _ ihl ihr =>
    simp only [steps, ArithStep.ReachesExact.append_iff] at hexact
    rw [steps, eval]
    refine (ihl hexact.1).bind fun m hm hleft => ?_
    have hleft : ¬ ∃ step ∈ left.steps scope, step.IsFaulty := by simpa using hleft
    obtain ⟨hright, hlast⟩ := hexact.2.resolve_left hleft
    refine (ihr hright).bind fun n hn hright => ?_
    have hright : ¬ ∃ step ∈ right.steps scope, step.IsFaulty := by simpa using hright
    obtain ⟨hlast, -⟩ := hlast.resolve_left hright
    rw [← hm, ← hn] at hlast
    rw [Value.binary, ArithStep.arith_int op m n hlast, exactValue, ← hm, ← hn]
    exact .perform _

/-- Arithmetic on integers has the value that it has over the unbounded integers, as long as the
divisions that it comes to leave no remainder; or the fault of the first of its operations that
cannot be carried out. -/
theorem eval_arithmetic (h : e.IsArithmetic scope) (hexact : ReachesExact (e.steps scope)) :
    match (e.steps scope).find? (·.IsFaulty) with
    | none => ∃ n, e.eval scope = .ok (.int n) ∧ n.toInt = e.exactValue scope
    | some step => e.eval scope = .error step.fault ∧
      step.fault.message =
        if step.divisor? = some 0 then "division by zero" else "integer overflow" := by
  have houtcome := (h.outcome hexact).find?
  split at houtcome
  case h_1 => exact houtcome
  case h_2 step _ => exact ⟨houtcome, step.message_fault⟩

/-- `x % -1 + 1 / 0` for the least word: the remainder fails in front of the quotient. And
`-7 % 2 + 6 / -3`, in which a remainder is negative. -/
theorem eval_arithmetic_least :
    let scope : Scope :=
      ⟨fun x => if x = "x" then some (.int Int64.minValue) else none, .null,
        ⟨2024, 6, 1, 9, 15, 0, 0, 7200⟩⟩
    let negated (n : Int64) : Expr := .unary .negate (.literal (.int n))
    let least : Expr := .binary (.arith .add)
      (.binary (.arith .rem) (.name "x") (negated 1))
      (.binary (.arith .div) (.literal (.int 1)) (.literal (.int 0)))
    let small : Expr := .binary (.arith .add)
      (.binary (.arith .rem) (negated 7) (.literal (.int 2)))
      (.binary (.arith .div) (.literal (.int 6)) (negated 3))
    (least.IsArithmetic scope ∧ ReachesExact (least.steps scope) ∧
      least.eval scope = .error .overflow) ∧
      small.IsArithmetic scope ∧ ReachesExact (small.steps scope) ∧
        ∃ n, small.eval scope = .ok (.int n) ∧ n.toInt = -3 := by
  intro scope negated least small
  have hleast : least.IsArithmetic scope :=
    .combine .add (.combine .rem (.name rfl) (.negate (.literal 1)))
      (.combine .div (.literal 1) (.literal 0))
  have hsmall : small.IsArithmetic scope :=
    .combine .add (.combine .rem (.negate (.literal 7)) (.literal 2))
      (.combine .div (.literal 6) (.negate (.literal 3)))
  have hleastExact : ReachesExact (least.steps scope) :=
    ⟨trivial, .inr ⟨trivial, .inl (by decide)⟩⟩
  have hsmallExact : ReachesExact (small.steps scope) :=
    ⟨trivial, .inr ⟨trivial, .inr ⟨trivial, .inr ⟨.inr (by decide), .inr ⟨trivial, .inr trivial⟩⟩⟩⟩⟩
  exact ⟨⟨hleast, hleastExact, (eval_arithmetic hleast hleastExact).1⟩, hsmall, hsmallExact,
    eval_arithmetic hsmall hsmallExact⟩

end Expr

end RowTemplate
