import RowTemplate.Context.Basic

/-! # Running sessions

The outcome of a session in a context and the context it comes to, step by
step: what follows a failure does not run, and a failure keeps the context.
-/

namespace RowTemplate.Session

variable {ε α β : Type}

/-- The outcome of a session that begins in a context, and the context that it comes to. -/
def runIn (m : Session ε α) (ctx : Context) : Except ε α × Context := m.run.run ctx

@[simp] theorem runIn_pure (a : α) (ctx : Context) :
    (pure a : Session ε α).runIn ctx = (.ok a, ctx) := rfl

@[simp] theorem runIn_throw (e : ε) (ctx : Context) :
    (throw e : Session ε α).runIn ctx = (.error e, ctx) := rfl

@[simp] theorem runIn_get (ctx : Context) :
    (get : Session ε Context).runIn ctx = (.ok ctx, ctx) := rfl

@[simp] theorem runIn_update (f : Bindings → Bindings) (ctx : Context) :
    (update f : Session ε Unit).runIn ctx = (.ok (), ctx.mapBindings f) := rfl

theorem runIn_bind (m : Session ε α) (f : α → Session ε β) (ctx : Context) :
    (m >>= f).runIn ctx =
      match m.runIn ctx with
      | (.ok a, ctx) => (f a).runIn ctx
      | (.error e, ctx) => (.error e, ctx) := by
  simp only [runIn, ExceptT.run_bind, StateT.run_bind]
  simp only [Bind.bind]
  rcases StateT.run m.run ctx with ⟨_ | _, _⟩ <;> rfl

theorem runIn_bind_ok {m : Session ε α} {f : α → Session ε β} {ctx ctx' : Context} {a : α}
    (h : m.runIn ctx = (.ok a, ctx')) : (m >>= f).runIn ctx = (f a).runIn ctx' := by
  rw [runIn_bind, h]

theorem runIn_bind_error {m : Session ε α} {f : α → Session ε β} {ctx ctx' : Context} {e : ε}
    (h : m.runIn ctx = (.error e, ctx')) : (m >>= f).runIn ctx = (.error e, ctx') := by
  rw [runIn_bind, h]

/-- Of two sessions in turn that do not fail, neither does. -/
theorem exists_runIn_of_bind {m : Session ε α} {f : α → Session ε β} {ctx ctx' : Context} {b : β}
    (h : (m >>= f).runIn ctx = (.ok b, ctx')) :
    ∃ a ctx₁, m.runIn ctx = (.ok a, ctx₁) ∧ (f a).runIn ctx₁ = (.ok b, ctx') := by
  rcases hr : m.runIn ctx with ⟨e | a, ctx₁⟩
  · rw [runIn_bind_error hr] at h
    cases h
  · rw [runIn_bind_ok hr] at h
    exact ⟨a, ctx₁, rfl, h⟩

theorem runIn_map (f : α → β) (m : Session ε α) (ctx : Context) :
    (f <$> m).runIn ctx = ((m.runIn ctx).1.map f, (m.runIn ctx).2) := by
  rw [map_eq_pure_bind, runIn_bind]
  rcases m.runIn ctx with ⟨_ | _, _⟩ <;> rfl

theorem runIn_during (text : String) (m : Session EvalError α) (ctx : Context) :
    (during text m).runIn ctx =
      ((m.runIn ctx).1.mapError (.evaluation text), (m.runIn ctx).2) := by
  simp only [during, runIn, ExceptT.run_adapt, StateT.run_map]
  rfl

/-- What an evaluation makes of the answer to its text: a failed lookup gives null. -/
def settle : Except EvalError Value → Except EvalError Value
  | .ok v => .ok v
  | .error e => if e.isLookupFailure then .ok .null else .error e

theorem runIn_evaluate (text : String) (ctx : Context) :
    (evaluate text).runIn ctx =
      match ctx.lookup? text with
      | some v => (.ok v, ctx)
      | none =>
        let (result, evaluator) := ctx.evaluator.answer text ctx.bindings
        (settle result, { ctx with evaluator }) := by
  rw [evaluate, runIn_bind, runIn_get]
  simp only
  cases ctx.lookup? text with
  | some v => rfl
  | none =>
    simp only
    rcases ctx.evaluator.answer text ctx.bindings with ⟨e | v, evaluator⟩
    · simp only [settle, runIn, ExceptT.run_bind]
      split <;> rfl
    · rfl

theorem ok_of_toOption {r : Except ε α} {a : α} (h : r.toOption = some a) : r = .ok a := by
  cases r with
  | error e => cases h
  | ok b => exact congrArg Except.ok (Option.some.inj h)

theorem during_map (text : String) (f : α → β) (m : Session EvalError α) :
    during text (f <$> m) = f <$> during text m := by
  apply ExceptT.ext
  simp only [during, ExceptT.run_adapt, ExceptT.run_map, Functor.map_map]
  congr 1
  funext result
  cases result <;> rfl

theorem during_evaluate (text : String) (f : Value → α) :
    during text (do return f (← evaluate text)) = f <$> during text (evaluate text) := by
  rw [← during_map, map_eq_pure_bind]

/-- Whatever the session yields has a property, in every context. -/
def Yields (P : α → Prop) (m : Session ε α) : Prop :=
  ∀ ctx a ctx', m.runIn ctx = (.ok a, ctx') → P a

namespace Yields

variable {P : α → Prop} {Q : β → Prop} {m : Session ε α} {f : α → Session ε β}

theorem pure {a : α} (h : P a) : (pure a : Session ε α).Yields P := by
  rintro ctx _ _ ⟨⟩
  exact h

theorem some {a : α} (h : P a) :
    (Pure.pure (Option.some a) : Session ε (Option α)).Yields (∀ x ∈ ·, P x) :=
  pure (by simpa using h)

theorem fail (e : ε) : (throw e : Session ε α).Yields P := by
  rintro ctx _ _ ⟨⟩

theorem bind (hm : m.Yields P) (hf : ∀ a, P a → (f a).Yields Q) : (m >>= f).Yields Q := by
  intro ctx b ctx' h
  obtain ⟨a, ctx₁, hr, h⟩ := exists_runIn_of_bind h
  exact hf a (hm ctx a ctx₁ hr) ctx₁ b ctx' h

theorem of_bind (hf : ∀ a, (f a).Yields Q) : (m >>= f).Yields Q :=
  bind (P := fun _ => True) (fun _ _ _ _ => trivial) fun a _ => hf a

theorem map (hm : m.Yields P) {g : α → β} (hg : ∀ a, P a → Q (g a)) : (g <$> m).Yields Q := by
  rw [map_eq_pure_bind]
  exact hm.bind fun a ha => pure (hg a ha)

/-- What a text is turned into when it is evaluated has what all values give. -/
theorem evaluated (text : String) {g : Value → α} (hg : ∀ v, P (g v)) :
    (during text (do return g (← evaluate text))).Yields P := by
  rw [during_evaluate, map_eq_pure_bind]
  exact of_bind fun v => pure (hg v)

end Yields

end RowTemplate.Session
