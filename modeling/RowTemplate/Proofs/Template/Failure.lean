import RowTemplate.Proofs.Template.Steps

/-! # Failures of an expansion

An expansion fails by a directive, by a fault in one of its expression texts, or
by a value that is no integer. The fault is never a failed lookup: whatever is
not there counts as null, wherever in the template the text stands and whoever
evaluates it.
-/

namespace RowTemplate

namespace EvalError

/-- The kinds of faults, as the first word of their wording tells them apart. -/
inductive Kind
  | reference
  | type
  | grammar
  | runtime
deriving DecidableEq

/-- The kind of a fault. -/
def kind : EvalError → Kind
  | .undefined _ => .reference
  | .nullAccess _ => .type
  | .notFunction _ => .type
  | .noMethod .. => .type
  | .syntaxError _ => .grammar
  | .missingPattern => .runtime
  | .datePattern .. => .runtime
  | .divisionByZero => .runtime
  | .overflow => .runtime

theorem isLookupFailure_eq_false_iff (e : EvalError) :
    e.isLookupFailure = false ↔ e.kind = .grammar ∨ e.kind = .runtime := by
  cases e <;> simp [isLookupFailure, kind]

end EvalError

/-- The failures that can come of a session that evaluates some texts. -/
inductive ExpandError.Arises (texts : List String) : ExpandError → Prop
  | direct {e : ExpandError} : e.IsDirect → Arises texts e
  | evaluation {text : String} {cause : EvalError} : text ∈ texts →
    cause.isLookupFailure = false → Arises texts (.evaluation text cause)
  | notInteger {text : String} (value : String) : text ∈ texts →
    Arises texts (.notInteger text value)

namespace Session

variable {ctx ctx' : Context} {text : String}

theorem not_isLookupFailure_of_settle {result : Except EvalError Value} {cause : EvalError}
    (h : settle result = .error cause) : cause.isLookupFailure = false := by
  cases result with
  | ok v => cases h
  | error e =>
    unfold settle at h
    cases he : e.isLookupFailure <;> simp only [he] at h
    · obtain rfl : e = cause := by simpa using h
      exact he
    · cases h

theorem not_isLookupFailure_of_evaluate {cause : EvalError}
    (h : (evaluate text).runIn ctx = (.error cause, ctx')) : cause.isLookupFailure = false := by
  rw [runIn_evaluate] at h
  split at h
  · cases h
  · exact not_isLookupFailure_of_settle (Prod.mk.inj h).1

/-- Evaluating a text fails in its own name. -/
theorem error_of_during_evaluate {e : ExpandError}
    (h : (during text (evaluate text)).runIn ctx = (.error e, ctx')) :
    ∃ cause : EvalError, e = .evaluation text cause ∧ cause.isLookupFailure = false := by
  rw [runIn_during] at h
  rcases hr : (evaluate text).runIn ctx with ⟨cause | v, ctx₁⟩ <;> rw [hr] at h
  · obtain ⟨he, -⟩ := Prod.mk.inj h
    exact ⟨cause, (Except.error.inj he).symm, not_isLookupFailure_of_evaluate hr⟩
  · cases h

theorem error_of_asInt {e : ExpandError} (h : (asInt text).runIn ctx = (.error e, ctx')) :
    (∃ cause : EvalError, e = .evaluation text cause ∧ cause.isLookupFailure = false) ∨
      ∃ value, e = .notInteger text value := by
  rw [asInt] at h
  rcases hr : (during text (evaluate text)).runIn ctx with ⟨e' | v, ctx₁⟩
  · rw [runIn_bind_error hr] at h
    obtain rfl := Except.error.inj (Prod.mk.inj h).1
    exact .inl (error_of_during_evaluate hr)
  · rw [runIn_bind_ok hr] at h
    cases hv : v.toInt? with
    | some n => simp [hv] at h
    | none =>
      simp only [hv, runIn_bind, runIn_get] at h
      cases hf : ctx₁.fallback with
      | zero => simp [hf] at h
      | error =>
        simp only [hf, runIn_throw, Prod.mk.injEq, Except.error.injEq] at h
        exact .inr ⟨v.text, h.1.symm⟩

end Session

namespace Template

/-- What a session fails with that is put together from the steps of an expansion. -/
theorem Steps.arises {ts ns : List String} {α : Type} {m : Session ExpandError α}
    (h : Steps ts ns m) {ctx ctx' : Context} {e : ExpandError}
    (he : m.runIn ctx = (.error e, ctx')) : e.Arises ts := by
  induction h generalizing ctx ctx' with
  | pure a => cases he
  | @bind _ _ m f _ _ ihm ihf =>
    rcases hr : m.runIn ctx with ⟨e' | a, ctx₁⟩
    · rw [Session.runIn_bind_error hr] at he
      obtain rfl := Except.error.inj (Prod.mk.inj he).1
      exact ihm hr
    · rw [Session.runIn_bind_ok hr] at he
      exact ihf a he
  | fail hdirect =>
    obtain rfl := Except.error.inj (Prod.mk.inj he).1
    exact .direct hdirect
  | evaluate ht =>
    obtain ⟨cause, rfl, hcause⟩ := Session.error_of_during_evaluate he
    exact .evaluation ht hcause
  | integer ht =>
    obtain ⟨cause, rfl, hcause⟩ | ⟨value, rfl⟩ := Session.error_of_asInt he
    · exact .evaluation ht hcause
    · exact .notInteger value ht
  | columns => cases he
  | define => cases he

/-- A reference to what is not there never ends an expansion: where an evaluation does, its text
stands in the template, and it is no expression or its computation goes wrong. -/
theorem expand_evaluation_kind (template : Json) (ctx : Context) {text : String}
    {cause : EvalError}
    (h : ((expand template).runIn ctx).1 = .error (.evaluation text cause)) :
    text ∈ texts template ∧ (cause.kind = .grammar ∨ cause.kind = .runtime) := by
  cases (steps template).arises (Prod.ext h rfl) with
  | direct hdirect => exact hdirect.elim
  | evaluation ht hcause => exact ⟨ht, cause.isLookupFailure_eq_false_iff.mp hcause⟩

/-- Missing names in a text, a key, a condition and a typed span, a missing function in a loop,
and then a division by zero in the body of a variable. -/
theorem expand_evaluation_kind_division :
    let template : Json := .object
      [("a", .string "$\x7bmissing\x7d and $\x7bmissing.deeper\x7d"),
        ("$\x7bmissing\x7d", .string "$\x7bmissing.deeper:int\x7d"),
        ("$\x7bif:missing.deeper\x7d", .string "$\x7b1 +\x7d"),
        ("$\x7bfor i:missing(1)\x7d", .null),
        ("$\x7bvar v\x7d", .array [.string "$\x7bmissing:array\x7d", .string "$\x7b1 / 0\x7d"])]
    let ctx := Context.ofSettings {} ⟨2024, 6, 1, 9, 15, 0, 0, 7200⟩
    ((expand template).runIn ctx).1 = .error (.evaluation "1 / 0" .divisionByZero) ∧
      "1 / 0" ∈ texts template ∧
      (EvalError.divisionByZero.kind = .grammar ∨ EvalError.divisionByZero.kind = .runtime) := by
  intro template ctx
  have h : ((expand template).runIn ctx).1 = .error (.evaluation "1 / 0" .divisionByZero) := by
    have hb : (match ((expand template).runIn ctx).1 with
      | .error (.evaluation text .divisionByZero) => decide (text = "1 / 0")
      | _ => false) = true := by decide +kernel
    split at hb
    · simp_all
    · cases hb
  exact ⟨h, expand_evaluation_kind template ctx h⟩

end Template

end RowTemplate
