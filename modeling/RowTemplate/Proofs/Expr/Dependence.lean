import RowTemplate.Proofs.Context.Alike
import RowTemplate.Proofs.Context.Lookup

/-! # What an expression depends on

An expression that does not ask for all bindings sees the moment and the values
of the names that occur in it. A call of a function that there is none of looks
its name up as well, but only to choose between two lookup failures, and a
context takes both for null.
-/

namespace RowTemplate

/-- Two scopes with the same moment, in which some names have the same values. -/
structure Scope.AgreesOn (names : List String) (scope scope' : Scope) : Prop where
  lookup : ∀ name ∈ names, scope.lookup name = scope'.lookup name
  now : scope.now = scope'.now

/-- Two outcomes of an evaluation that are the same, or failures of lookups both. -/
inductive Coincide {α : Type} : Except EvalError α → Except EvalError α → Prop
  | same (r : Except EvalError α) : Coincide r r
  | lookup {e e' : EvalError} : e.isLookupFailure = true → e'.isLookupFailure = true →
    Coincide (.error e) (.error e')

variable {scope scope' : Scope} {names : List String}

namespace Scope

theorem agreesOn_append {others : List String} :
    scope.AgreesOn (names ++ others) scope' ↔
      scope.AgreesOn names scope' ∧ scope.AgreesOn others scope' := by
  constructor
  · rintro ⟨hlookup, hnow⟩
    obtain ⟨hl, hr⟩ := List.forall_mem_append.mp hlookup
    exact ⟨⟨hl, hnow⟩, ⟨hr, hnow⟩⟩
  · rintro ⟨hl, hr⟩
    exact ⟨List.forall_mem_append.mpr ⟨hl.lookup, hr.lookup⟩, hl.now⟩

/-- A call depends on the moment, and otherwise only in which lookup it fails by. -/
theorem call_coincide (hnow : scope.now = scope'.now) (function : String) (args : List Value) :
    Coincide (scope.call function args) (scope'.call function args) := by
  have hdate : scope.date = scope'.date := by
    funext pattern
    rw [date, date, hnow]
  unfold call
  dsimp only
  split
  case h_1 =>
    rw [hdate]
    exact .same _
  case h_2 => exact .same _
  case h_3 => exact .same _
  case h_4 => exact .same _
  case h_5 => split <;> split <;> exact .lookup rfl rfl

end Scope

namespace Coincide

variable {α β : Type}

theorem bind {r r' : Except EvalError α} {f g : α → Except EvalError β} (h : Coincide r r')
    (hf : ∀ a, Coincide (f a) (g a)) : Coincide (r >>= f) (r' >>= g) := by
  cases h with
  | lookup he he' => exact .lookup he he'
  | same =>
    cases r with
    | error e => exact .same _
    | ok a => exact hf a

theorem bind_pure {r r' : Except EvalError α} (h : Coincide r r') (f : α → β) :
    Coincide (do return f (← r)) (do return f (← r')) :=
  h.bind fun a => .same (pure (f a))

/-- What a context makes of outcomes that coincide is the same. -/
theorem settle_eq {r r' : Except EvalError Value} (h : Coincide r r') :
    Session.settle r = Session.settle r' := by
  cases h with
  | same => rfl
  | lookup he he' => rw [Session.settle, Session.settle, if_pos he, if_pos he']

end Coincide

namespace Expr

mutual

/-- The expression asks for all bindings somewhere. -/
@[simp]
def asksEverything : Expr → Bool
  | .literal _ => false
  | .name _ => false
  | .everything => true
  | .array items => itemsAskEverything items
  | .object fields => fieldsAskEverything fields
  | .member o p => asksEverything o || asksEverything p
  | .call _ args => itemsAskEverything args
  | .method o _ args => asksEverything o || itemsAskEverything args
  | .unary _ operand => asksEverything operand
  | .binary _ left right => asksEverything left || asksEverything right
  | .logical _ left right => asksEverything left || asksEverything right
  | .ternary condition yes no =>
    asksEverything condition || (asksEverything yes || asksEverything no)
  | .coalesce items => itemsAskEverything items

/-- One of the expressions asks for all bindings. -/
@[simp]
def itemsAskEverything : List Expr → Bool
  | [] => false
  | e :: rest => asksEverything e || itemsAskEverything rest

/-- One of the fields asks for all bindings. -/
@[simp]
def fieldsAskEverything : List (String × Expr) → Bool
  | [] => false
  | (_, e) :: rest => asksEverything e || fieldsAskEverything rest

end

mutual

/-- In scopes that agree on the names of an expression its evaluations coincide. -/
theorem eval_coincide (e : Expr) (hthis : e.asksEverything = false)
    (h : scope.AgreesOn e.identifiers scope') : Coincide (e.eval scope) (e.eval scope') := by
  match e with
  | .literal v => exact .same _
  | .name n =>
    have hn : scope.lookup n = scope'.lookup n := h.lookup n (by simp [identifiers])
    rw [eval, eval, hn]
    exact .same _
  | .everything => simp at hthis
  | .array items =>
    rw [eval, eval]
    exact (evalItems_coincide items hthis h).bind_pure Value.array
  | .object fields =>
    rw [eval, eval]
    exact (evalFields_coincide fields hthis h).bind_pure Value.ofFields
  | .member o p =>
    simp only [asksEverything, Bool.or_eq_false_iff] at hthis
    obtain ⟨ho, hp⟩ := Scope.agreesOn_append.mp h
    rw [eval, eval]
    exact (eval_coincide o hthis.1 ho).bind fun v =>
      (eval_coincide p hthis.2 hp).bind fun w => .same (v.member w)
  | .call function args =>
    rw [eval, eval]
    exact (evalItems_coincide args hthis h).bind fun vs => Scope.call_coincide h.now function vs
  | .method o m args =>
    simp only [asksEverything, Bool.or_eq_false_iff] at hthis
    obtain ⟨ho, hargs⟩ := Scope.agreesOn_append.mp h
    rw [eval, eval]
    exact (eval_coincide o hthis.1 ho).bind fun v =>
      (evalItems_coincide args hthis.2 hargs).bind fun vs => .same (v.callMethod m vs)
  | .unary op operand =>
    rw [eval, eval]
    exact (eval_coincide operand hthis h).bind fun v => .same (v.unary op)
  | .binary op left right =>
    simp only [asksEverything, Bool.or_eq_false_iff] at hthis
    obtain ⟨hl, hr⟩ := Scope.agreesOn_append.mp h
    rw [eval, eval]
    exact (eval_coincide left hthis.1 hl).bind fun v =>
      (eval_coincide right hthis.2 hr).bind fun w => .same (v.binary op w)
  | .logical op left right =>
    simp only [asksEverything, Bool.or_eq_false_iff] at hthis
    obtain ⟨hl, hr⟩ := Scope.agreesOn_append.mp h
    rw [eval, eval]
    refine (eval_coincide left hthis.1 hl).bind fun v => ?_
    split
    · exact .same _
    · exact eval_coincide right hthis.2 hr
  | .ternary condition yes no =>
    simp only [asksEverything, Bool.or_eq_false_iff] at hthis
    obtain ⟨hbranch, hn⟩ := Scope.agreesOn_append.mp h
    obtain ⟨hc, hy⟩ := Scope.agreesOn_append.mp hbranch
    rw [eval, eval]
    refine (eval_coincide condition hthis.1 hc).bind fun v => ?_
    split
    · exact eval_coincide yes hthis.2.1 hy
    · exact eval_coincide no hthis.2.2 hn
  | .coalesce items =>
    rw [eval, eval]
    exact evalAlternatives_coincide items hthis h

theorem evalItems_coincide (items : List Expr) (hthis : itemsAskEverything items = false)
    (h : scope.AgreesOn (itemIdentifiers items) scope') :
    Coincide (evalItems scope items) (evalItems scope' items) := by
  match items with
  | [] => exact .same _
  | e :: rest =>
    simp only [itemsAskEverything, Bool.or_eq_false_iff] at hthis
    obtain ⟨he, hrest⟩ := Scope.agreesOn_append.mp h
    rw [evalItems, evalItems]
    exact (eval_coincide e hthis.1 he).bind fun v =>
      (evalItems_coincide rest hthis.2 hrest).bind_pure (v :: ·)

theorem evalFields_coincide (fields : List (String × Expr))
    (hthis : fieldsAskEverything fields = false)
    (h : scope.AgreesOn (fieldIdentifiers fields) scope') :
    Coincide (evalFields scope fields) (evalFields scope' fields) := by
  match fields with
  | [] => exact .same _
  | (key, e) :: rest =>
    simp only [fieldsAskEverything, Bool.or_eq_false_iff] at hthis
    obtain ⟨he, hrest⟩ := Scope.agreesOn_append.mp h
    rw [evalFields, evalFields]
    exact (eval_coincide e hthis.1 he).bind fun v =>
      (evalFields_coincide rest hthis.2 hrest).bind_pure ((key, v) :: ·)

/-- An alternative that fails by different lookups is passed over in both scopes. -/
theorem evalAlternatives_coincide (items : List Expr) (hthis : itemsAskEverything items = false)
    (h : scope.AgreesOn (itemIdentifiers items) scope') :
    Coincide (evalAlternatives scope items) (evalAlternatives scope' items) := by
  match items with
  | [] => exact .same _
  | e :: rest =>
    simp only [itemsAskEverything, Bool.or_eq_false_iff] at hthis
    obtain ⟨he, hrest⟩ := Scope.agreesOn_append.mp h
    have ih := evalAlternatives_coincide rest hthis.2 hrest
    have hfirst := eval_coincide e hthis.1 he
    rw [evalAlternatives, evalAlternatives]
    generalize e.eval scope = r at hfirst
    generalize e.eval scope' = r' at hfirst
    cases hfirst with
    | lookup hf hf' =>
      simp only [hf, hf', if_true]
      exact ih
    | same =>
      split
      · exact ih
      · exact .same _
      · split
        · exact ih
        · exact .same _

end

end Expr

/-! ### Expression texts in contexts -/

variable {ctx ctx' : Context} {text : String}

theorem Context.lookup?_congr (hnow : ctx.bindings.now = ctx'.bindings.now)
    (htext : ∀ s, ctx.bindings.get? text = some (.string s) ↔
      ctx'.bindings.get? text = some (.string s)) : ctx.lookup? text = ctx'.lookup? text := by
  by_cases h : ∃ s, ctx.bindings.get? text = some (.string s)
  · obtain ⟨s, hs⟩ := h
    rw [lookup?_of_text hs, lookup?_of_text ((htext s).mp hs)]
  · have hnone := not_exists.mp h
    have hnone' : ∀ s, ctx'.bindings.get? text ≠ some (.string s) :=
      fun s hs => hnone s ((htext s).mpr hs)
    refine Option.ext fun v => ?_
    rw [lookup?_eq_some_iff hnone, lookup?_eq_some_iff hnone', hnow]

/-- The evaluation of an expression that does not ask for all bindings depends on the moment and on
the names that occur in it: in scopes that agree on those it has the same outcome, or fails by a
lookup in both. So has its text in two contexts, with the failures of lookups taken for null, unless
the text as a whole is the name of a bound text in one of them. -/
theorem Expr.depends_on_identifiers (e : Expr) (hthis : e.asksEverything = false) :
    (∀ scope scope' : Scope, scope.AgreesOn e.identifiers scope' →
      Coincide (e.eval scope) (e.eval scope')) ∧
    ∀ (text : String) (ctx ctx' : Context) (cache cache' : ParseCache),
      Expr.parse text = .ok e →
      ctx.evaluator = .language cache → ctx'.evaluator = .language cache' →
      ctx.bindings.scope.AgreesOn e.identifiers ctx'.bindings.scope →
      (∀ s, ctx.bindings.get? text = some (.string s) ↔
        ctx'.bindings.get? text = some (.string s)) →
      ((Session.evaluate text).runIn ctx).1 = ((Session.evaluate text).runIn ctx').1 := by
  refine ⟨fun scope scope' => eval_coincide e hthis, ?_⟩
  intro text ctx ctx' cache cache' hparse hctx hctx' hagree htext
  rw [Session.runIn_evaluate_language hctx, Session.runIn_evaluate_language hctx',
    Context.lookup?_congr hagree.now htext]
  cases ctx'.lookup? text with
  | some v => rfl
  | none =>
    simp only [ParseCache.direct, hparse]
    exact (eval_coincide e hthis hagree).settle_eq

/-- A call of a name that is bound in one of the contexts only fails in different ways. -/
theorem Expr.depends_on_identifiers_call :
    let ctx : Context := (Context.ofSettings {} ⟨2024, 6, 1, 9, 15, 0, 0, 7200⟩).mapBindings
      (·.set "a" (.int 1))
    let ctx' := ctx.mapBindings (·.set "f" .null)
    let text := "b ?? f(a)"
    let e : Expr := .coalesce [.name "b", .call "f" [.name "a"]]
    e.asksEverything = false ∧ Expr.parse text = .ok e ∧
      ctx.bindings.scope.AgreesOn e.identifiers ctx'.bindings.scope ∧
      Coincide (e.eval ctx.bindings.scope) (e.eval ctx'.bindings.scope) ∧
      ((Session.evaluate text).runIn ctx).1 = ((Session.evaluate text).runIn ctx').1 := by
  intro ctx ctx' text e
  have hparse : Expr.parse text = .ok e := by cbv
  have hagree : ctx.bindings.scope.AgreesOn e.identifiers ctx'.bindings.scope :=
    ⟨List.forall_mem_cons.mpr ⟨rfl, List.forall_mem_singleton.mpr rfl⟩, rfl⟩
  have htext : ctx.bindings.get? text = none ∧ ctx'.bindings.get? text = none := ⟨rfl, rfl⟩
  have h := Expr.depends_on_identifiers e rfl
  exact ⟨rfl, hparse, hagree, h.1 _ _ hagree,
    h.2 text ctx ctx' .empty .empty hparse rfl rfl hagree (by simp [htext])⟩

/-- A text that is bound under the whole text of an expression is its value, although no name in the
expression is bound. -/
theorem Session.evaluate_carrier_client :
    let ctx := Context.ofSettings {} ⟨2024, 6, 1, 9, 15, 0, 0, 7200⟩
    let ctx' := ctx.mapBindings (·.set "Carrier/Client" (.string "ACME"))
    let text := "Carrier/Client"
    let e : Expr := .binary (.arith .div) (.name "Carrier") (.name "Client")
    e.asksEverything = false ∧ Expr.parse text = .ok e ∧
      ctx.bindings.scope.AgreesOn e.identifiers ctx'.bindings.scope ∧
      ((evaluate text).runIn ctx).1 = .ok .null ∧
      ((evaluate text).runIn ctx').1 = .ok (.string "ACME") := by
  intro ctx ctx' text e
  have hparse : Expr.parse text = .ok e := by cbv
  have hagree : ctx.bindings.scope.AgreesOn e.identifiers ctx'.bindings.scope :=
    ⟨List.forall_mem_cons.mpr ⟨rfl, List.forall_mem_singleton.mpr rfl⟩, rfl⟩
  have hctx : ctx.evaluator = .language .empty := rfl
  have hlookup : ctx.lookup? text = none := Option.isNone_iff_eq_none.mp (by decide)
  refine ⟨rfl, hparse, hagree, ?_, ?_⟩
  · rw [runIn_evaluate_language hctx, hlookup, ParseCache.direct, hparse]
    rfl
  · rw [runIn_evaluate, Context.lookup?_of_text rfl]

end RowTemplate
