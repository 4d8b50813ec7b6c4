import Mathlib.Data.List.Forall2
import RowTemplate.Command.Run
import RowTemplate.Proofs.Row.Isolation
import RowTemplate.Proofs.Template.Failure

/-! # Strict integers

The choice for values that are no integers is looked at where such a value
turns up, and nowhere else. A strict expansion therefore runs like a lenient
one until it refuses a value, and a refusal ends it wherever it comes up.
-/

namespace RowTemplate

/-- The context with another choice for values that are no integers. -/
def Context.withFallback (ctx : Context) (fallback : IntFallback) : Context :=
  { ctx with fallback }

/-- What a strict run comes to, beside what a lenient one does: it has refused a value, or it has
the same outcome in a context that differs in the choice only. -/
inductive Parallel {α : Type} :
    Except ExpandError α × Context → Except ExpandError α × Context → Prop
  | refused (text value : String) (ctx : Context) (lenient : Except ExpandError α × Context) :
    Parallel (.error (.notInteger text value), ctx) lenient
  | same (outcome : Except ExpandError α) (ctx : Context) :
    Parallel (outcome, ctx.withFallback .error) (outcome, ctx.withFallback .zero)

/-- The first result is that of the same row as the second one, and tells of a refused value or of
the same outcome. -/
def RowResult.Stricter (strict lenient : RowResult) : Prop :=
  strict.line = lenient.line ∧ strict.row = lenient.row ∧
    ((∃ text value, strict.outcome = .error (.notInteger text value)) ∨
      strict.outcome = lenient.outcome)

theorem Parallel.refused_or_same {α : Type}
    {strict lenient : Except ExpandError α × Context}
    (h : Parallel strict lenient) :
    (∃ text value, strict.1 = .error (.notInteger text value)) ∨
      strict.1 = lenient.1 ∧ strict.2.bindings = lenient.2.bindings := by
  cases h with
  | refused text value => exact .inl ⟨text, value, rfl⟩
  | same => exact .inr ⟨rfl, rfl⟩

namespace Session

variable {α β : Type} {m : Session ExpandError α} {f : α → Session ExpandError β}
variable {text : String} {ctx : Context}

theorem runIn_evaluate_withFallback (text : String) (ctx : Context) (fallback : IntFallback) :
    (evaluate text).runIn (ctx.withFallback fallback) =
      (((evaluate text).runIn ctx).1, ((evaluate text).runIn ctx).2.withFallback fallback) := by
  have hlookup : (ctx.withFallback fallback).lookup? text = ctx.lookup? text := rfl
  rw [runIn_evaluate, runIn_evaluate, hlookup]
  cases ctx.lookup? text <;> rfl

/-- The integer of the value of a text, or what a choice puts in its place. -/
def integer (fallback : IntFallback) (text : String) (v : Value) : Except ExpandError Int64 :=
  match v.toInt?, fallback with
  | some n, _ => .ok n
  | none, .zero => .ok 0
  | none, .error => .error (.notInteger text v.text)

theorem runIn_asInt (text : String) (ctx : Context) :
    (asInt text).runIn ctx =
      (match ((evaluate text).runIn ctx).1 with
        | .error e => .error (.evaluation text e)
        | .ok v => integer ctx.fallback text v,
        ((evaluate text).runIn ctx).2) := by
  have hduring := runIn_during text (evaluate text) ctx
  obtain ⟨evaluator, -, hctx⟩ := runIn_evaluate_snd text ctx
  rcases hrun : (evaluate text).runIn ctx with ⟨e | v, ctx'⟩ <;> rw [hrun] at hduring hctx
  · rw [asInt, runIn_bind_error hduring]
  · obtain rfl : ctx' = { ctx with evaluator } := hctx
    rw [asInt, runIn_bind_ok hduring]
    rcases hv : v.toInt? with _ | n
    · simp only [runIn_bind, runIn_get, integer, hv]
      cases ctx.fallback <;> rfl
    · simp only [integer, hv, runIn_pure]

/-- A session that can tell a strict context from a lenient one by refusing a value only. -/
def OnlyRefuses (m : Session ExpandError α) : Prop :=
  ∀ ctx : Context, Parallel (m.runIn (ctx.withFallback .error)) (m.runIn (ctx.withFallback .zero))

theorem OnlyRefuses.bind (hm : m.OnlyRefuses) (hf : ∀ a, (f a).OnlyRefuses) :
    (m >>= f).OnlyRefuses := by
  intro ctx
  have h := hm ctx
  generalize hstrict : m.runIn (ctx.withFallback .error) = strict at h
  generalize hlenient : m.runIn (ctx.withFallback .zero) = lenient at h
  cases h with
  | refused text value ctx' =>
    rw [runIn_bind_error hstrict]
    exact .refused text value ctx' _
  | same outcome ctx' =>
    cases outcome with
    | error e =>
      rw [runIn_bind_error hstrict, runIn_bind_error hlenient]
      exact .same _ ctx'
    | ok a =>
      rw [runIn_bind_ok hstrict, runIn_bind_ok hlenient]
      exact hf a ctx'

theorem onlyRefuses_asInt (text : String) : (asInt text).OnlyRefuses := by
  intro ctx
  rw [runIn_asInt, runIn_asInt, runIn_evaluate_withFallback, runIn_evaluate_withFallback]
  rcases (evaluate text).runIn ctx with ⟨e | v, ctx'⟩
  · exact .same _ ctx'
  · change Parallel (integer .error text v, ctx'.withFallback .error)
      (integer .zero text v, ctx'.withFallback .zero)
    unfold integer
    cases v.toInt? with
    | none => exact .refused text v.text _ _
    | some n => exact .same (.ok n) ctx'

end Session

namespace Template

variable {ts ns : List String} {α : Type} {m : Session ExpandError α}

theorem Steps.onlyRefuses (h : Steps ts ns m) : m.OnlyRefuses := by
  induction h with
  | pure a => exact fun ctx => Parallel.same (.ok a) ctx
  | bind _ _ ihm ihf => exact ihm.bind ihf
  | @fail _ e _ => exact fun ctx => Parallel.same (.error e) ctx
  | @evaluate text _ =>
    intro ctx
    rw [Session.runIn_during, Session.runIn_during, Session.runIn_evaluate_withFallback,
      Session.runIn_evaluate_withFallback]
    exact .same _ _
  | integer _ => exact Session.onlyRefuses_asInt _
  | columns => exact fun ctx => Parallel.same (.ok ctx.bindings.columns) ctx
  | @define name s _ =>
    exact fun ctx => Parallel.same (.ok ()) (ctx.mapBindings (·.define name (.string s)))

/-- A lenient context refuses no value. -/
theorem Steps.not_refused (h : Steps ts ns m) {ctx : Context} (hctx : ctx.fallback = .zero)
    (text value : String) : (m.runIn ctx).1 ≠ .error (.notInteger text value) := by
  induction h generalizing ctx with
  | pure a => exact nofun
  | @bind _ _ m f hm _ ihm ihf =>
    have hfallback := (hm.restrained ctx).fallback
    have hm := ihm hctx
    rcases hr : m.runIn ctx with ⟨e | a, ctx'⟩ <;> rw [hr] at hm hfallback
    · rw [Session.runIn_bind_error hr]
      exact fun heq => hm (congrArg Except.error (Except.error.inj heq))
    · rw [Session.runIn_bind_ok hr]
      exact ihf a (hfallback.symm.trans hctx)
  | fail hdirect =>
    rintro ⟨⟩
    exact hdirect
  | @evaluate other _ =>
    rw [Session.runIn_during]
    rcases ((Session.evaluate other).runIn ctx).1 with e | v <;> exact nofun
  | @integer other _ =>
    rw [Session.runIn_asInt, hctx]
    rcases ((Session.evaluate other).runIn ctx).1 with e | v
    · exact nofun
    · simp only [Session.integer]
      cases v.toInt? <;> exact nofun
  | columns => exact nofun
  | define s _ => exact nofun

/-! ### Rows -/

theorem expandRow_parallel (template : Json) (row : Row) (ctx : Context) :
    Parallel (expandRow template row (ctx.withFallback .error))
      (expandRow template row (ctx.withFallback .zero)) :=
  (steps template).onlyRefuses (ctx.loadRow row)

theorem expandRows_stricter (template : Json) (rows : List Row) (ctx : Context) :
    List.Forall₂ RowResult.Stricter (expandRows template rows (ctx.withFallback .error)).1
      (expandRows template rows (ctx.withFallback .zero)).1 := by
  rw [expandRows, expandRows, expandRowsFrom_fst (.refl _), expandRowsFrom_fst (.refl _),
    List.mapIdx_eq_zipIdx_map, List.mapIdx_eq_zipIdx_map, List.forall₂_map_left_iff,
    List.forall₂_map_right_iff]
  refine List.forall₂_same.mpr fun p _ => ⟨rfl, rfl, ?_⟩
  exact (expandRow_parallel template p.1 ctx).refused_or_same.imp_right And.left

end Template

/-! ### Runs -/

namespace RowResult

theorem Stricter.refl (r : RowResult) : r.Stricter r := ⟨rfl, rfl, .inr rfl⟩

theorem Stricter.isSuccess {strict lenient : RowResult} (h : strict.Stricter lenient)
    (hs : strict.isSuccess = true) : lenient.isSuccess = true := by
  obtain ⟨-, -, ⟨text, value, hrefused⟩ | hsame⟩ := h
  · simp [RowResult.isSuccess, hrefused] at hs
  · rwa [RowResult.isSuccess, ← hsame]

end RowResult

namespace Command

/-- What a strict run comes to, beside what a lenient one does: nothing was read, or the results
are stricter. A run that ends at its first failure may have come to fewer rows. -/
inductive StricterRun (keepGoing : Bool) :
    Except LoadError (List RowResult) → Except LoadError (List RowResult) → Prop
  | unread (e : LoadError) : StricterRun keepGoing (.error e) (.error e)
  | expanded {strict reached lenient : List RowResult} : reached <+: lenient →
    (keepGoing = true → reached = lenient) → List.Forall₂ RowResult.Stricter strict reached →
    StricterRun keepGoing (.ok strict) (.ok lenient)

theorem upToFailure_stricter {strict lenient : List RowResult}
    (h : List.Forall₂ RowResult.Stricter strict lenient) :
    ∃ reached, reached <+: upToFailure lenient ∧
      List.Forall₂ RowResult.Stricter (upToFailure strict) reached := by
  induction h with
  | nil => exact ⟨[], List.prefix_rfl, .nil⟩
  | @cons s l strict lenient hsl _ ih =>
    obtain ⟨reached, hprefix, hreached⟩ := ih
    rw [upToFailure, upToFailure]
    cases hs : s.isSuccess with
    | true =>
      rw [if_pos (hsl.isSuccess hs)]
      exact ⟨l :: reached, (List.prefix_cons_inj l).mpr hprefix, .cons hsl hreached⟩
    | false =>
      refine ⟨[l], ?_, .cons hsl .nil⟩
      split
      · exact (List.prefix_cons_inj l).mpr (List.nil_prefix)
      · exact List.prefix_rfl

theorem ofSettings_stricter (template : Json) (rows : List Row) (settings : Settings)
    (now : Moment) :
    List.Forall₂ RowResult.Stricter
      (expandRows template rows (.ofSettings { settings with fallback := .error } now)).1
      (expandRows template rows (.ofSettings settings now)).1 := by
  cases hf : settings.fallback with
  | error =>
    have hsame : { settings with fallback := .error } = settings := by rw [← hf]
    rw [hsame]
    exact List.forall₂_same.mpr fun r _ => .refl r
  | zero =>
    have h := Template.expandRows_stricter template rows (.ofSettings settings now)
    have hlenient : (Context.ofSettings settings now).withFallback .zero =
        .ofSettings settings now := by
      rw [← hf]
      rfl
    rw [hlenient] at h
    exact h

theorem loadSettings_strictInt (files : Files) (o : Options) :
    loadSettings files { o with strictInt := true } =
      (loadSettings files { o with strictInt := false }).map
        fun settings => { settings with fallback := .error } := by
  unfold loadSettings
  cases o.settings with
  | none => rfl
  | some path =>
    dsimp only
    cases files.text? path with
    | none => rfl
    | some text =>
      dsimp only [require, bind, Except.bind]
      cases Settings.read? text <;> rfl

theorem results_stricter (files : Files) (now : Moment) (o : Options) :
    StricterRun o.keepGoing (results files now { o with strictInt := true })
      (results files now { o with strictInt := false }) := by
  have htemplate : loadTemplate files { o with strictInt := true } =
      loadTemplate files { o with strictInt := false } := rfl
  have hrows : loadRows files { o with strictInt := true } =
      loadRows files { o with strictInt := false } := rfl
  rw [results, results, loadSettings_strictInt, htemplate, hrows]
  rcases loadSettings files { o with strictInt := false } with e | settings
  · exact .unread e
  rcases loadTemplate files { o with strictInt := false } with e | template
  · exact .unread e
  rcases loadRows files { o with strictInt := false } with e | rows
  · exact .unread e
  have h := ofSettings_stricter template rows settings now
  cases hk : o.keepGoing with
  | true => exact .expanded List.prefix_rfl (fun _ => rfl) h
  | false =>
    obtain ⟨reached, hprefix, hreached⟩ := upToFailure_stricter h
    exact .expanded hprefix nofun hreached

end Command

/-- Where values that are no integers are refused, an expansion comes to a refusal, or to what it
comes to where they count as zero, with the same bindings; where they count as zero none is
refused. So it is for each row of a batch, and for each row that a run comes to when it is asked to
be strict. -/
theorem Template.expand_strict_integers (template : Json) (ctx : Context) :
    let strict := (expand template).runIn (ctx.withFallback .error)
    let lenient := (expand template).runIn (ctx.withFallback .zero)
    ((∃ text value, strict.1 = .error (.notInteger text value)) ∨
        strict.1 = lenient.1 ∧ strict.2.bindings = lenient.2.bindings) ∧
      (∀ text value, lenient.1 ≠ .error (.notInteger text value)) ∧
      (∀ rows, List.Forall₂ RowResult.Stricter
        (expandRows template rows (ctx.withFallback .error)).1
        (expandRows template rows (ctx.withFallback .zero)).1) ∧
      ∀ files now (o : Command.Options), Command.StricterRun o.keepGoing
        (Command.results files now { o with strictInt := true })
        (Command.results files now { o with strictInt := false }) := by
  intro strict lenient
  have hparallel : Parallel strict lenient := (steps template).onlyRefuses ctx
  refine ⟨hparallel.refused_or_same, fun text value => ?_, fun rows => ?_, fun files now o => ?_⟩
  · exact (steps template).not_refused rfl text value
  · exact expandRows_stricter template rows ctx
  · exact Command.results_stricter files now o

/-- A value is refused in the body of a variable, inside a loop and a branch. -/
example :
    let template : Json := .array
      [.object [("$\x7bfor i:['1', 'x']\x7d", .array
        [.object [("$\x7bif:true\x7d", .array
          [.object [("$\x7bvar n\x7d", .string "$\x7bi:int\x7d")], .string "$\x7bn\x7d"])]])]]
    let ctx := Context.ofSettings {} ⟨2024, 6, 1, 9, 15, 0, 0, 7200⟩
    let report (fallback : IntFallback) : String :=
      match ((Template.expand template).runIn (ctx.withFallback fallback)).1 with
      | .ok node => ((node.map Json.text).getD "")
      | .error e => e.message
    report .error = "cannot convert \"x\" to an integer (from \"i\")" ∧
      report .zero = "[\"1\",\"0\"]" := by
  decide +kernel

end RowTemplate
