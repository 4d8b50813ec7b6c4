import RowTemplate.Proofs.Expr.ParseCache
import RowTemplate.Proofs.Template.Steps

/-! # Contexts that are alike

Contexts are alike if a row that is loaded into them finds the same. They agree
on some texts if they have the same bindings at the moment and these texts get
the same answers. Every step of an expansion leaves a context that is alike,
and in contexts that agree on the texts it evaluates it has the same outcome.
-/

namespace RowTemplate

/-- Two evaluators with the same answers: two of the built-in language, whatever each has read,
or the same function. -/
inductive Evaluator.Alike : Evaluator → Evaluator → Prop
  | language (cache cache' : ParseCache) : Alike (.language cache) (.language cache')
  | plugged (answer : String → Bindings → Except EvalError Value) :
    Alike (.plugged answer) (.plugged answer)

/-- Two evaluators that answer some texts in the same way, whatever is bound. -/
def Evaluator.AgreesOn (texts : List String) (e e' : Evaluator) : Prop :=
  ∀ text ∈ texts, ∀ b, (e.answer text b).1 = (e'.answer text b).1

/-- Two contexts from which a row cannot tell where it is: they may differ in ordinary bindings,
in columns and in what the built-in language has read. -/
structure Context.Alike (ctx ctx' : Context) : Prop where
  reserved : ∀ name, ctx.bindings.reserved.find? name = ctx'.bindings.reserved.find? name
  now : ctx.bindings.now = ctx'.bindings.now
  fallback : ctx.fallback = ctx'.fallback
  evaluator : ctx.evaluator.Alike ctx'.evaluator

/-- Two contexts with the same bindings, in which some texts get the same answers. -/
structure Context.AgreesOn (texts : List String) (ctx ctx' : Context) : Prop where
  bindings : ctx.bindings = ctx'.bindings
  fallback : ctx.fallback = ctx'.fallback
  evaluator : ctx.evaluator.AgreesOn texts ctx'.evaluator

namespace Evaluator

theorem Alike.refl (evaluator : Evaluator) : evaluator.Alike evaluator := by
  cases evaluator with
  | language cache => exact .language cache cache
  | plugged answer => exact .plugged answer

theorem Alike.symm {e₁ e₂ : Evaluator} (h : e₁.Alike e₂) : e₂.Alike e₁ := by
  cases h with
  | language cache cache' => exact .language cache' cache
  | plugged answer => exact .plugged answer

theorem Alike.trans {e₁ e₂ e₃ : Evaluator} (h : e₁.Alike e₂) (h' : e₂.Alike e₃) :
    e₁.Alike e₃ := by
  cases h with
  | language => cases h'; exact .language ..
  | plugged => exact h'

theorem Alike.exists_language {cache : ParseCache} {e : Evaluator}
    (h : (Evaluator.language cache).Alike e) : ∃ cache', e = .language cache' := by
  cases h with
  | language _ cache' => exact ⟨cache', rfl⟩

theorem alike_answer (evaluator : Evaluator) (text : String) (b : Bindings) :
    evaluator.Alike (evaluator.answer text b).2 := by
  cases evaluator with
  | language cache => exact .language ..
  | plugged answer => exact .plugged answer

theorem Alike.answer_fst {e e' : Evaluator} (h : e.Alike e') (text : String) (b : Bindings) :
    (e.answer text b).1 = (e'.answer text b).1 := by
  cases h with
  | language cache cache' =>
    simp only [Evaluator.answer, ParseCache.evaluate_fst]
  | plugged => rfl

theorem Alike.agreesOn {e e' : Evaluator} (h : e.Alike e') (texts : List String) :
    e.AgreesOn texts e' :=
  fun text _ b => h.answer_fst text b

/-- Evaluators that agree still do when both have answered something. -/
theorem AgreesOn.answer_snd {texts : List String} {e e' : Evaluator} (h : e.AgreesOn texts e')
    (text : String) (b : Bindings) :
    (e.answer text b).2.AgreesOn texts (e'.answer text b).2 := by
  intro other hother c
  have hl := (e.alike_answer text b).answer_fst other c
  have hr := (e'.alike_answer text b).answer_fst other c
  rw [← hl, ← hr, h other hother c]

end Evaluator

namespace Context

variable {ctx ctx' : Context} {ts : List String}

theorem Alike.refl (ctx : Context) : ctx.Alike ctx := ⟨fun _ => rfl, rfl, rfl, .refl _⟩

theorem Alike.symm (h : ctx.Alike ctx') : ctx'.Alike ctx where
  reserved name := (h.reserved name).symm
  now := h.now.symm
  fallback := h.fallback.symm
  evaluator := h.evaluator.symm

theorem Alike.trans {ctx₁ ctx₂ ctx₃ : Context} (h : ctx₁.Alike ctx₂) (h' : ctx₂.Alike ctx₃) :
    ctx₁.Alike ctx₃ where
  reserved name := (h.reserved name).trans (h'.reserved name)
  now := h.now.trans h'.now
  fallback := h.fallback.trans h'.fallback
  evaluator := h.evaluator.trans h'.evaluator

theorem Alike.mapBindings (h : ctx.Alike ctx') {f : Bindings → Bindings}
    (hr : ∀ b, (f b).reserved = b.reserved) (hn : ∀ b, (f b).now = b.now) :
    ctx.Alike (ctx'.mapBindings f) where
  reserved name := by rw [h.reserved name, Context.mapBindings, hr]
  now := by rw [h.now, Context.mapBindings, hn]
  fallback := h.fallback
  evaluator := h.evaluator

theorem AgreesOn.mapBindings (h : ctx.AgreesOn ts ctx') (f : Bindings → Bindings) :
    (ctx.mapBindings f).AgreesOn ts (ctx'.mapBindings f) where
  bindings := congrArg f h.bindings
  fallback := h.fallback
  evaluator := h.evaluator

theorem AgreesOn.lookup?_eq (h : ctx.AgreesOn ts ctx') (text : String) :
    ctx.lookup? text = ctx'.lookup? text := by
  simp only [lookup?, h.bindings]

end Context

namespace Bindings

theorem reserved_define (b : Bindings) (name : String) (v : Value) :
    (b.define name v).reserved = b.reserved := by
  unfold define addColumn
  split <;> rfl

theorem now_define (b : Bindings) (name : String) (v : Value) :
    (b.define name v).now = b.now := by
  unfold define addColumn
  split <;> rfl

end Bindings

namespace Session

variable {α β : Type} {ts : List String}

/-- The session leaves a context that is alike, whether it fails or not. -/
def Restrained {ε : Type} (m : Session ε α) : Prop := ∀ ctx : Context, ctx.Alike (m.runIn ctx).2

/-- The session has the same outcome in contexts that agree on some texts, and they still agree
afterwards. -/
def Uniform {ε : Type} (ts : List String) (m : Session ε α) : Prop :=
  ∀ ctx ctx' : Context, ctx.AgreesOn ts ctx' →
    (m.runIn ctx).1 = (m.runIn ctx').1 ∧ (m.runIn ctx).2.AgreesOn ts (m.runIn ctx').2

/-- Sessions that agree in their outcomes and in what they leave still do with the same session
behind them. -/
theorem Uniform.agree_bind {ε : Type} {m m' : Session ε α} {f : α → Session ε β}
    {ctx ctx' : Context} (hf : ∀ a, Uniform ts (f a))
    (hout : (m.runIn ctx).1 = (m'.runIn ctx').1)
    (hctx : (m.runIn ctx).2.AgreesOn ts (m'.runIn ctx').2) :
    ((m >>= f).runIn ctx).1 = ((m' >>= f).runIn ctx').1 ∧
      ((m >>= f).runIn ctx).2.AgreesOn ts ((m' >>= f).runIn ctx').2 := by
  rcases hr : m.runIn ctx with ⟨r, ctx₁⟩
  rcases hr' : m'.runIn ctx' with ⟨r', ctx₁'⟩
  rw [hr, hr'] at hout hctx
  obtain rfl : r = r' := hout
  cases r with
  | error e =>
    rw [runIn_bind_error hr, runIn_bind_error hr']
    exact ⟨rfl, hctx⟩
  | ok a =>
    rw [runIn_bind_ok hr, runIn_bind_ok hr']
    exact hf a ctx₁ ctx₁' hctx

theorem Uniform.bind {ε : Type} {m : Session ε α} {f : α → Session ε β} (hm : Uniform ts m)
    (hf : ∀ a, Uniform ts (f a)) : Uniform ts (m >>= f) := by
  intro ctx ctx' h
  obtain ⟨hout, hctx⟩ := hm ctx ctx' h
  exact Uniform.agree_bind hf hout hctx

theorem Uniform.during {m : Session EvalError α} (hm : Uniform ts m) (text : String) :
    Uniform ts (during text m) := by
  intro ctx ctx' h
  obtain ⟨hout, hctx⟩ := hm ctx ctx' h
  simp only [runIn_during, hout]
  exact ⟨trivial, hctx⟩

/-- An evaluation leaves nothing behind but what the evaluator has read. -/
theorem runIn_evaluate_snd (text : String) (ctx : Context) :
    ∃ evaluator, ctx.evaluator.Alike evaluator ∧
      ((evaluate text).runIn ctx).2 = { ctx with evaluator } := by
  rw [runIn_evaluate]
  cases ctx.lookup? text with
  | some v => exact ⟨ctx.evaluator, .refl _, rfl⟩
  | none => exact ⟨_, ctx.evaluator.alike_answer text ctx.bindings, rfl⟩

/-- The built-in language gives the value of a text that the context does not answer by itself. -/
theorem runIn_evaluate_language {ctx : Context} {cache : ParseCache}
    (hctx : ctx.evaluator = .language cache) (text : String) :
    ((evaluate text).runIn ctx).1 =
      match ctx.lookup? text with
      | some v => .ok v
      | none => settle (ParseCache.direct text ctx.bindings.scope) := by
  rw [runIn_evaluate]
  cases ctx.lookup? text with
  | some v => rfl
  | none =>
    have hanswer : (ctx.evaluator.answer text ctx.bindings).1 =
        ParseCache.direct text ctx.bindings.scope := by
      rw [hctx]
      exact cache.evaluate_fst text ctx.bindings.scope
    exact congrArg settle hanswer

theorem runIn_asInt_snd (text : String) (ctx : Context) :
    ((asInt text).runIn ctx).2 = ((evaluate text).runIn ctx).2 := by
  have hduring := runIn_during text (evaluate text) ctx
  rcases hrun : (evaluate text).runIn ctx with ⟨_ | v, ctx'⟩ <;> rw [hrun] at hduring
  · rw [asInt, runIn_bind_error hduring]
  · rw [asInt, runIn_bind_ok hduring]
    rcases v.toInt? with _ | n
    · cases hf : ctx'.fallback <;> simp only [runIn_bind, runIn_get, hf] <;> rfl
    · rfl

theorem uniform_evaluate {text : String} (ht : text ∈ ts) : Uniform ts (evaluate text) := by
  intro ctx ctx' h
  rw [runIn_evaluate, runIn_evaluate, h.lookup?_eq]
  cases ctx'.lookup? text with
  | some v => exact ⟨rfl, h⟩
  | none =>
    refine ⟨?_, h.bindings, h.fallback, ?_⟩
    · simp only [h.bindings, h.evaluator text ht]
    · simp only [h.bindings]
      exact h.evaluator.answer_snd text ctx'.bindings

theorem uniform_asInt {text : String} (ht : text ∈ ts) : Uniform ts (asInt text) := by
  refine ((uniform_evaluate ht).during text).bind fun v ctx ctx' h => ?_
  rcases v.toInt? with _ | n
  · cases hf : ctx'.fallback <;> simp only [runIn_bind, runIn_get, h.fallback, hf] <;>
      exact ⟨rfl, h⟩
  · exact ⟨rfl, h⟩

end Session

namespace Template.Steps

open Session (Restrained Uniform)

variable {ts ns : List String} {α : Type} {m : Session ExpandError α}

/-- What an evaluation and the definition of a name keep, and what is kept from step to step, every
expansion keeps, whether it fails or not. -/
theorem keeps {R : Context → Context → Prop} (hrefl : ∀ ctx, R ctx ctx)
    (htrans : ∀ {ctx₁ ctx₂ ctx₃}, R ctx₁ ctx₂ → R ctx₂ ctx₃ → R ctx₁ ctx₃)
    (hread : ∀ ctx evaluator, ctx.evaluator.Alike evaluator → R ctx { ctx with evaluator })
    (hdefine : ∀ ctx, ∀ name ∈ ns, ∀ s, R ctx (ctx.mapBindings (·.define name (.string s))))
    (h : Steps ts ns m) (ctx : Context) : R ctx (m.runIn ctx).2 := by
  have heval : ∀ text ctx, R ctx ((Session.evaluate text).runIn ctx).2 := by
    intro text ctx
    obtain ⟨evaluator, halike, heq⟩ := Session.runIn_evaluate_snd text ctx
    rw [heq]
    exact hread ctx evaluator halike
  induction h generalizing ctx with
  | pure a => exact hrefl ctx
  | @bind _ _ m f _ _ ihm ihf =>
    have hm := ihm ctx
    rcases hr : m.runIn ctx with ⟨e | a, ctx'⟩ <;> rw [hr] at hm
    · rw [Session.runIn_bind_error hr]
      exact hm
    · rw [Session.runIn_bind_ok hr]
      exact htrans hm (ihf a ctx')
  | fail _ => exact hrefl ctx
  | evaluate _ =>
    rw [Session.runIn_during]
    exact heval _ ctx
  | integer _ =>
    rw [Session.runIn_asInt_snd]
    exact heval _ ctx
  | columns => exact hrefl ctx
  | define s hname => exact hdefine ctx _ hname s

theorem restrained (h : Steps ts ns m) : Restrained m :=
  h.keeps .refl .trans (fun _ _ halike => ⟨fun _ => rfl, rfl, rfl, halike⟩)
    fun ctx name _ s => (Context.Alike.refl ctx).mapBindings
      (fun b => b.reserved_define name (.string s)) (fun b => b.now_define name (.string s))

theorem uniform (h : Steps ts ns m) : Uniform ts m := by
  induction h with
  | pure a => exact fun ctx ctx' h => ⟨rfl, h⟩
  | bind _ _ ihm ihf => exact ihm.bind ihf
  | fail _ => exact fun ctx ctx' h => ⟨rfl, h⟩
  | evaluate ht => exact (Session.uniform_evaluate ht).during _
  | integer ht => exact Session.uniform_asInt ht
  | columns =>
    intro ctx ctx' h
    exact ⟨congrArg (fun b : Bindings => Except.ok b.columns) h.bindings, h⟩
  | @define name s _ => exact fun ctx ctx' h => ⟨rfl, h.mapBindings (·.define name (.string s))⟩

end Template.Steps

end RowTemplate
