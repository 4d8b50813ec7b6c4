import RowTemplate.Proofs.Context.Alike
import RowTemplate.Proofs.Span.Rebuild

/-! # Interpolation

A text put together from literals without an opening and from expressions in
spans is taken apart into just these. Its expansion evaluates the expressions in
order, up to the first that fails, and puts the texts of their values between
the literals. What is put in is not searched for spans.
-/

namespace RowTemplate

variable {first literal e : String} {rest pieces : List (String × String)}

/-- A literal, and behind it texts, each with the literal that follows it. -/
def weave (first : String) : List (String × String) → String
  | [] => first
  | (text, literal) :: rest => first ++ text ++ weave literal rest

/-- A literal, and behind it expressions in spans, each with the literal that follows it. -/
def interpolated (first : String) (pieces : List (String × String)) : String :=
  weave first (pieces.map fun piece => ("$\x7b" ++ piece.1 ++ "\x7d", piece.2))

/-- The text opens no span. -/
def HasNoOpening (s : String) : Prop := ¬ ['$', '{'] <:+: s.toList

instance (s : String) : Decidable (HasNoOpening s) := inferInstanceAs (Decidable (¬ _))

theorem toList_interpolated_cons :
    (interpolated first ((e, literal) :: rest)).toList =
      first.toList ++ spanText e.toList ++ (interpolated literal rest).toList := by
  simp [interpolated, weave, spanText]

theorem firstSpan?_interpolated (hfirst : HasNoOpening first) (he : Balanced e.toList) :
    firstSpan? (interpolated first ((e, literal) :: rest)).toList =
      some ⟨first.toList, e.toList, (interpolated literal rest).toList⟩ := by
  have hsplit : (interpolated first ((e, literal) :: rest)).toList =
      first.toList ++ '$' :: '{' :: (e.toList ++ '}' :: (interpolated literal rest).toList) := by
    simp [toList_interpolated_cons, spanText]
  rw [firstSpan?_eq_some_iff, hsplit]
  exact ⟨.of_literal hfirst _, he⟩

theorem singleton?_interpolated (hfirst : HasNoOpening first)
    (hbalanced : ∀ piece ∈ pieces, Balanced piece.1.toList)
    (hmixed : ∀ e, first = "" → pieces ≠ [(e, "")]) :
    singleton? (interpolated first pieces).toList = none := by
  cases pieces with
  | nil => rw [interpolated, List.map_nil, weave, singleton?, firstSpan?_of_literal hfirst]
  | cons piece rest =>
    obtain ⟨e, literal⟩ := piece
    rw [singleton?, firstSpan?_interpolated hfirst (hbalanced (e, literal) List.mem_cons_self)]
    split
    case h_2 => rfl
    case h_1 body heq =>
      obtain ⟨hempty, -, hafter⟩ := SpanSplit.mk.inj (Option.some.inj heq)
      cases rest with
      | nil =>
        obtain rfl : literal = "" := String.toList_eq_nil_iff.mp hafter
        exact absurd rfl (hmixed e (String.toList_eq_nil_iff.mp hempty))
      | cons piece rest =>
        rw [toList_interpolated_cons] at hafter
        simp [spanText] at hafter

/-- The parts of the text are the literals and the expressions that it was put together from. -/
theorem bodies_interpolated (hfirst : HasNoOpening first)
    (hpieces : ∀ piece ∈ pieces, Balanced piece.1.toList ∧ HasNoOpening piece.2) :
    bodies (segments (interpolated first pieces).toList) =
      pieces.map fun piece => piece.1.toList := by
  induction pieces generalizing first with
  | nil =>
    rw [interpolated, List.map_nil, weave, segments_of_none (firstSpan?_of_literal hfirst)]
    rfl
  | cons piece rest ih =>
    obtain ⟨⟨he, hliteral⟩, hrest⟩ := List.forall_mem_cons.mp hpieces
    rw [segments_of_some (firstSpan?_interpolated hfirst he), bodies, bodies, ih hliteral hrest,
      List.map_cons]

theorem fill_interpolated (hfirst : HasNoOpening first)
    (hpieces : ∀ piece ∈ pieces, Balanced piece.1.toList ∧ HasNoOpening piece.2)
    {texts : List String} (hlen : texts.length = pieces.length) :
    fill (segments (interpolated first pieces).toList) (texts.map String.toList) =
      (weave first (texts.zip (pieces.map Prod.snd))).toList := by
  induction pieces generalizing first texts with
  | nil =>
    rw [List.eq_nil_of_length_eq_zero hlen, interpolated, List.map_nil, weave,
      segments_of_none (firstSpan?_of_literal hfirst)]
    simp [fill, weave]
  | cons piece rest ih =>
    obtain ⟨⟨he, hliteral⟩, hrest⟩ := List.forall_mem_cons.mp hpieces
    obtain ⟨text, texts, rfl⟩ := List.exists_cons_of_length_eq_add_one hlen
    rw [segments_of_some (firstSpan?_interpolated hfirst he), List.map_cons, fill, fill,
      ih hliteral hrest (Nat.succ.inj hlen), List.map_cons, List.zip_cons_cons, weave]
    simp

theorem mapM_map_comp {m : Type → Type} [Monad m] [LawfulMonad m] {α β γ : Type} (f : α → m β)
    (g : β → γ) (as : List α) :
    as.mapM (fun a => g <$> f a) = List.map g <$> as.mapM f := by
  induction as with
  | nil => simp
  | cons a as ih => simp [List.mapM_cons, ih, Functor.map_map]

namespace Session

/-- The text of an expression's value; a fault names the expression. -/
def expressionText (e : String) : Session ExpandError String := during e (asText e)

theorem interpolate_eq (s : List Char) (es : List String)
    (hes : bodies (segments s) = es.map String.toList) :
    interpolate s =
      (fun texts => fill (segments s) (texts.map String.toList)) <$> es.mapM expressionText := by
  have hreplace : (fun body => do
        let e := String.ofList body
        return (← during e (asText e)).toList : List Char → Session ExpandError (List Char)) ∘
      String.toList = fun e => String.toList <$> expressionText e := by
    funext e
    simp only [Function.comp_apply, String.ofList_toList, map_eq_pure_bind, expressionText]
  rw [interpolate, replaceSpans_eq, hes, List.mapM_map, hreplace, mapM_map_comp, Functor.map_map]

theorem runIn_evaluate_again (e text : String) (ctx : Context) :
    ((evaluate text).runIn ((evaluate e).runIn ctx).2).1 = ((evaluate text).runIn ctx).1 := by
  obtain ⟨evaluator, halike, hctx⟩ := runIn_evaluate_snd e ctx
  have hagrees : ctx.AgreesOn [text] { ctx with evaluator } := ⟨rfl, rfl, halike.agreesOn _⟩
  rw [hctx]
  exact (uniform_evaluate List.mem_cons_self _ _ hagrees).1.symm

end Session

open Session (evaluate expressionText)

variable {ctx ctx' : Context} {es : List String}

/-- The text of an expression's value in a context; a fault names the expression. -/
def Context.textOf (ctx : Context) (e : String) : Except ExpandError String :=
  (((evaluate e).runIn ctx).1.map Value.toText).mapError (.evaluation e)

theorem Session.runIn_expressionText (e : String) (ctx : Context) :
    (expressionText e).runIn ctx = (ctx.textOf e, ((evaluate e).runIn ctx).2) := by
  rw [expressionText, runIn_during, asText, ← map_eq_pure_bind, runIn_map, Context.textOf]

theorem Context.textOf_again (e : String) (ctx : Context) :
    ((evaluate e).runIn ctx).2.textOf = ctx.textOf := by
  funext text
  rw [textOf, textOf, Session.runIn_evaluate_again]

/-- Evaluations one after the other come to what each comes to in the first context. -/
theorem Calls.eq_mapM_textOf {outcome : Except ExpandError (List String)}
    (h : Calls expressionText es ctx outcome ctx') : outcome = es.mapM ctx.textOf := by
  induction h with
  | done => rfl
  | @failed e es error ctx ctx' hrun =>
    obtain ⟨htext, -⟩ := Prod.mk.inj ((Session.runIn_expressionText e ctx).symm.trans hrun)
    rw [List.mapM_cons, htext]
    rfl
  | @returned e es text outcome ctx ctx' _ hrun _ ih =>
    obtain ⟨htext, rfl⟩ := Prod.mk.inj ((Session.runIn_expressionText e ctx).symm.trans hrun)
    rw [List.mapM_cons, htext, ih, Context.textOf_again]
    cases es.mapM ctx.textOf <;> rfl

/-- What some expressions come to in a context: the texts of all their values, or the fault of the
first without a value. -/
def Context.ComesTo (ctx : Context) (es : List String) : Except ExpandError (List String) → Prop
  | .ok texts =>
    List.Forall₂ (fun e text => ∃ v, ((evaluate e).runIn ctx).1 = .ok v ∧ v.toText = text) es texts
  | .error error => ∃ before e after fault, es = before ++ e :: after ∧
    (∀ e' ∈ before, ∃ v, ((evaluate e').runIn ctx).1 = .ok v) ∧
    ((evaluate e).runIn ctx).1 = .error fault ∧ error = .evaluation e fault

theorem Context.comesTo_mapM (ctx : Context) (es : List String) :
    ctx.ComesTo es (es.mapM ctx.textOf) := by
  induction es with
  | nil => exact .nil
  | cons e es ih =>
    cases hv : ((evaluate e).runIn ctx).1 with
    | error fault =>
      have htext : ctx.textOf e = .error (.evaluation e fault) := by rw [textOf, hv]; rfl
      rw [List.mapM_cons, htext]
      exact ⟨[], e, es, fault, rfl, List.forall_mem_nil _, hv, rfl⟩
    | ok v =>
      have htext : ctx.textOf e = .ok v.toText := by rw [textOf, hv]; rfl
      rw [List.mapM_cons, htext]
      cases hes : es.mapM ctx.textOf with
      | ok texts =>
        rw [hes] at ih
        exact .cons ⟨v, hv, rfl⟩ ih
      | error error =>
        rw [hes] at ih
        obtain ⟨before, e', after, fault, rfl, hbefore, hfault, rfl⟩ := ih
        exact ⟨e :: before, e', after, fault, rfl,
          List.forall_mem_cons.mpr ⟨⟨v, hv⟩, hbefore⟩, hfault, rfl⟩

/-- The text put together from literals and expressions, unless it is a single span, is expanded by
evaluating the expressions in order. If one of them fails, no later one is evaluated, and the fault
names it. Otherwise the texts of the values stand between the literals, whatever they are. -/
theorem Session.expandText?_interpolated (hfirst : HasNoOpening first)
    (hpieces : ∀ piece ∈ pieces, Balanced piece.1.toList ∧ HasNoOpening piece.2)
    (hmixed : ∀ e, first = "" → pieces ≠ [(e, "")]) (ctx : Context) :
    let es := pieces.map Prod.fst
    let outcome := es.mapM ctx.textOf
    ctx.ComesTo es outcome ∧
      ∃ ctx', Calls expressionText es ctx outcome ctx' ∧
        (expandText? (interpolated first pieces)).runIn ctx =
          (outcome.map fun texts =>
            some (.string (weave first (texts.zip (pieces.map Prod.snd)))), ctx') := by
  intro es outcome
  have hcalls : Calls expressionText es ctx ((es.mapM expressionText).runIn ctx).1
      ((es.mapM expressionText).runIn ctx).2 := calls_mapM ..
  have houtcome : ((es.mapM expressionText).runIn ctx).1 = outcome := hcalls.eq_mapM_textOf
  rw [houtcome] at hcalls
  refine ⟨ctx.comesTo_mapM es, _, hcalls, ?_⟩
  have hes : bodies (segments (interpolated first pieces).toList) = es.map String.toList := by
    rw [bodies_interpolated hfirst hpieces, List.map_map]
    rfl
  have hexpand : expandText? (interpolated first pieces) =
      (fun texts => some (.string (String.ofList
        (fill (segments (interpolated first pieces).toList) (texts.map String.toList))))) <$>
        es.mapM expressionText := by
    rw [expandText?, singleton?_interpolated hfirst (fun piece h => (hpieces piece h).1) hmixed]
    simp only [interpolate_eq _ _ hes, ← map_eq_pure_bind, Functor.map_map]
  rw [hexpand, runIn_map, houtcome]
  cases hok : outcome with
  | error error => rfl
  | ok texts =>
    have hlen : texts.length = pieces.length := by
      rw [hcalls.length_eq hok, List.length_map]
    simp only [Except.map, fill_interpolated hfirst hpieces hlen, String.ofList_toList]

/-- A value that looks like a span is copied; behind a fault nothing is evaluated. -/
theorem Session.expandText?_interpolated_dollar :
    let ctx := (Context.ofSettings {} ⟨2024, 6, 1, 9, 15, 0, 0, 7200⟩).mapBindings fun b =>
      (b.set "a" (.string "$\x7bb\x7d")).set "b" (.string "'")
    let pieces := [("a", "\x7b$"), ("b", "\x7d")]
    let faulty := [("a", "\x7b$"), ("1/0", "\x7d"), ("b", "")]
    HasNoOpening "it's $" ∧
      (∀ piece ∈ pieces, Balanced piece.1.toList ∧ HasNoOpening piece.2) ∧
      (∀ piece ∈ faulty, Balanced piece.1.toList ∧ HasNoOpening piece.2) ∧
      ((expandText? "it's $$\x7ba\x7d\x7b$$\x7bb\x7d\x7d").runIn ctx).1 =
        .ok (some (.string "it's $$\x7bb\x7d\x7b$'\x7d")) ∧
      ((expandText? "it's $$\x7ba\x7d\x7b$$\x7b1/0\x7d\x7d$\x7bb\x7d").runIn ctx).1 =
        .error (.evaluation "1/0" .divisionByZero) := by
  intro ctx pieces faulty
  have hfirst : HasNoOpening "it's $" := by decide
  have hplain (s : String) (h : s.toList.all isPlain = true) : Balanced s.toList :=
    .of_plain (List.all_eq_true.mp h)
  have hpieces : ∀ piece ∈ pieces, Balanced piece.1.toList ∧ HasNoOpening piece.2 := by
    simp only [pieces, List.forall_mem_cons]
    exact ⟨⟨hplain _ rfl, by decide⟩, ⟨hplain _ rfl, by decide⟩, List.forall_mem_nil _⟩
  have hfaulty : ∀ piece ∈ faulty, Balanced piece.1.toList ∧ HasNoOpening piece.2 := by
    simp only [faulty, List.forall_mem_cons]
    exact ⟨⟨hplain _ rfl, by decide⟩, ⟨hplain _ rfl, by decide⟩, ⟨hplain _ rfl, by decide⟩,
      List.forall_mem_nil _⟩
  have ha : ctx.textOf "a" = .ok "$\x7bb\x7d" := rfl
  have hb : ctx.textOf "b" = .ok "'" := rfl
  have hzero : ctx.textOf "1/0" = .error (.evaluation "1/0" .divisionByZero) := by
    have hparse : Expr.parse "1/0" =
      .ok (.binary (.arith .div) (.literal (.int 1)) (.literal (.int 0))) := by cbv
    have hctx : ctx.evaluator = .language .empty := rfl
    have hlookup : ctx.lookup? "1/0" = none := Option.isNone_iff_eq_none.mp (by decide)
    rw [Context.textOf, runIn_evaluate_language hctx, hlookup, ParseCache.direct, hparse]
    rfl
  obtain ⟨-, _, -, hrun⟩ := expandText?_interpolated hfirst hpieces (by simp) ctx
  obtain ⟨-, _, -, hrun'⟩ := expandText?_interpolated hfirst hfaulty (by simp) ctx
  refine ⟨hfirst, hpieces, hfaulty, (congrArg Prod.fst hrun).trans ?_,
    (congrArg Prod.fst hrun').trans ?_⟩
  · simp only [pieces, List.map_cons, List.map_nil, List.mapM_cons, List.mapM_nil, ha, hb]
    rfl
  · simp only [faulty, List.map_cons, List.map_nil, List.mapM_cons, List.mapM_nil, ha, hzero]
    rfl

end RowTemplate
