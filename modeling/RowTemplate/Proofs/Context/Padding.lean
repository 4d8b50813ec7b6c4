import RowTemplate.Proofs.Context.Lookup
import RowTemplate.Proofs.Directive.Key
import RowTemplate.Proofs.Expr.Padding
import RowTemplate.Proofs.Row.Copied
import RowTemplate.Proofs.Template.Strict

/-! # Blanks around the expressions of a template

The language does not see the blanks around a text, but a context looks for the
text as it is written among the names that it binds. The blanks therefore make a
difference for a bound name that is no identifier, which is no expression of the
language or another one, and for nothing else that is found by its name.
-/

namespace RowTemplate

variable {ctx : Context} {cache : ParseCache} {text e : String} {v : Value}
variable {blanks s : List Char} {ty : NodeType}

/-- The text is a name that an expression can have. -/
structure IsIdentifier (text : String) : Prop where
  word : IsWord text.toList
  free : ∀ t, (text, t) ∉ keywords

/-- The context answers the text by itself as it is written: it is the name of a bound text that is
no identifier, or a call of `date` with a backslash. -/
structure Context.TakesVerbatim (ctx : Context) (text : String) : Prop where
  answers : (ctx.lookup? text).isSome
  notName : ¬ IsIdentifier text
  written : (∃ s, ctx.bindings.get? text = some (.string s)) ∨ '\\' ∈ text.toList

/-! ### What an evaluation gives -/

namespace Context

/-- What the context answers by itself is what the language gives, unless it takes the text as it is
written. -/
theorem settle_direct_of_lookup? (hplain : ¬ ctx.TakesVerbatim text)
    (h : ctx.lookup? text = some v) :
    Session.settle (ParseCache.direct text ctx.bindings.scope) = .ok v := by
  by_cases hname : IsIdentifier text
  · have hdate : datePattern? text.toList = none :=
      datePattern?_eq_none (hname.word.not_mem (by decide))
    obtain ⟨s, hs⟩ : ∃ s, ctx.bindings.get? text = some (.string s) := by
      by_contra hunbound
      obtain ⟨p, _, hp, _⟩ := (lookup?_eq_some_iff (not_exists.mp hunbound)).mp h
      rw [hdate] at hp
      cases hp
    rw [lookup?_of_text hs] at h
    obtain rfl := Option.some.inj h
    rw [ParseCache.direct, parse_name hname.word hname.free]
    simp [Expr.eval, Bindings.scope, hs, Session.settle]
  · have hunbound : ∀ s, ctx.bindings.get? text ≠ some (.string s) := fun s hs =>
      hplain ⟨Option.isSome_of_eq_some h, hname, .inl ⟨s, hs⟩⟩
    have hbackslash : '\\' ∉ text.toList := fun hmem =>
      hplain ⟨Option.isSome_of_eq_some h, hname, .inr hmem⟩
    obtain ⟨p, s, hp, hs, rfl⟩ := (lookup?_eq_some_iff hunbound).mp h
    obtain ⟨quote, hq, htext, hquote⟩ := exists_dateCall_of_datePattern? hp
    have hmem : '\\' ∉ p := fun hmem => hbackslash (by simp [htext, dateCall, hmem])
    have hdirect : ParseCache.direct text ctx.bindings.scope = .ok (.string (String.ofList s)) := by
      refine (direct_dateCall_iff hq hquote htext ctx.bindings.scope).mpr ⟨?_, ?_⟩
      · exact quotation_of_not_mem hquote hmem
      · rw [unescaped_of_not_mem hmem]
        exact hs
    rw [hdirect]
    rfl

theorem not_takesVerbatim_of_lookup? (h : ctx.lookup? text = none) : ¬ ctx.TakesVerbatim text :=
  fun htext => absurd htext.answers (by simp [h])

end Context

namespace Session

theorem runIn_evaluate_of_not_takesVerbatim (hctx : ctx.evaluator = .language cache)
    (hplain : ¬ ctx.TakesVerbatim text) :
    ((evaluate text).runIn ctx).1 = settle (ParseCache.direct text ctx.bindings.scope) := by
  rw [runIn_evaluate_language hctx]
  cases h : ctx.lookup? text with
  | none => rfl
  | some v => exact (Context.settle_direct_of_lookup? hplain h).symm

end Session

theorem SameUpToFault.settle {r r' : Except EvalError Value}
    (h : SameUpToFault EvalError.SameKind r r') :
    SameUpToFault EvalError.SameKind (Session.settle r) (Session.settle r') := by
  cases h with
  | ok v => exact .ok v
  | error h =>
    cases h with
    | same fault =>
      unfold Session.settle
      split
      · exact .ok _
      · split
        · exact .ok _
        · exact .error (.same _)
    | syntaxErrors error error' => exact .error (.syntaxErrors error error')

/-- With the built-in language an evaluation gives the same with blanks around the text, if the
context takes neither text as it is written. -/
theorem Padded.evaluate (h : Padded text e) (hctx : ctx.evaluator = .language cache)
    (htext : ¬ ctx.TakesVerbatim text) (he : ¬ ctx.TakesVerbatim e) :
    SameUpToFault EvalError.SameKind ((Session.evaluate text).runIn ctx).1
      ((Session.evaluate e).runIn ctx).1 := by
  rw [Session.runIn_evaluate_of_not_takesVerbatim hctx htext,
    Session.runIn_evaluate_of_not_takesVerbatim hctx he]
  exact (h.direct ctx.bindings.scope).settle

/-! ### Type suffixes -/

/-- A suffix that begins with a colon does not reach into blanks in front of a text. -/
theorem isSuffixOf_append (h : ∀ c ∈ blanks, Text.isBlank c = true) (w s : List Char) :
    (':' :: w).isSuffixOf (blanks ++ s) = (':' :: w).isSuffixOf s := by
  rw [Bool.eq_iff_iff, List.isSuffixOf_iff_suffix, List.isSuffixOf_iff_suffix]
  constructor
  · intro hlong
    rcases List.suffix_or_suffix_of_suffix hlong (List.suffix_append blanks s) with
      hwithin | ⟨front, hfront⟩
    · exact hwithin
    cases front with
    | nil => exact hfront ▸ List.suffix_rfl
    | cons c front =>
      -- The colon would be one of the blanks.
      obtain ⟨before, hbefore⟩ := hlong
      rw [← hfront, ← List.append_assoc] at hbefore
      have hmem : c ∈ blanks := List.append_cancel_right hbefore ▸ by simp
      obtain rfl : c = ':' := (List.cons.inj hfront).1
      exact absurd (h ':' hmem) (by decide)
  · exact fun hshort => hshort.trans (List.suffix_append blanks s)

/-- Blanks in front of a text stay in front of what stands before its suffix, if anything does. -/
theorem NodeType.beforeSuffix?_append (h : ∀ c ∈ blanks, Text.isBlank c = true) (ty : NodeType)
    (s : List Char) :
    ty.beforeSuffix? (blanks ++ s) =
      (ty.beforeSuffix? s).map fun body => if body = [] then [] else blanks ++ body := by
  unfold beforeSuffix?
  dsimp only
  rw [isSuffixOf_append h]
  by_cases hs : (':' :: ty.word).isSuffixOf s = true
  · have hlen : (':' :: ty.word).length ≤ s.length :=
      (List.isSuffixOf_iff_suffix.mp hs).length_le
    have htake : (blanks ++ s).take ((blanks ++ s).length - (':' :: ty.word).length) =
        blanks ++ s.take (s.length - (':' :: ty.word).length) := by
      rw [List.length_append, Nat.add_sub_assoc hlen, List.take_length_add_append]
    rw [if_pos hs, if_pos hs, htake, Text.trimRight_append, Text.trimRight_blanks h]
    rfl
  · rw [if_neg hs, if_neg hs]
    rfl

/-- Without the blanks behind it a text has only blanks in front of it. -/
theorem Padded.exists_trimRight_eq (h : Padded text e) :
    ∃ blanks, (∀ c ∈ blanks, Text.isBlank c = true) ∧
      Text.trimRight text.toList = blanks ++ Text.trimRight e.toList := by
  obtain ⟨before, after, hbefore, hafter, htext⟩ := h
  rw [htext, Text.trimRight_append, Text.trimRight_append, Text.trimRight_blanks hafter, if_pos rfl]
  split
  case isTrue hnil =>
    refine ⟨[], List.forall_mem_nil _, ?_⟩
    rw [hnil, Text.trimRight_blanks hbefore, List.append_nil]
  case isFalse => exact ⟨before, hbefore, rfl⟩

/-- Blanks around a text are around what stands before its suffix. -/
theorem Padded.splitSuffix (h : Padded text e) :
    Padded (splitSuffix text).1 (splitSuffix e).1 ∧ (splitSuffix text).2 = (splitSuffix e).2 := by
  obtain ⟨blanks, hblanks, htrim⟩ := h.exists_trimRight_eq
  have hfind : (NodeType.all.findSome? fun t =>
        (t.beforeSuffix? (Text.trimRight text.toList)).map fun body => (body, t)) =
      (NodeType.all.findSome? fun t =>
        (t.beforeSuffix? (Text.trimRight e.toList)).map fun body => (body, t)).map fun p =>
          (if p.1 = [] then [] else blanks ++ p.1, p.2) := by
    rw [List.map_findSome?]
    congr 1
    funext t
    rw [htrim, NodeType.beforeSuffix?_append hblanks, Function.comp_apply, Option.map_map,
      Option.map_map]
    rfl
  unfold RowTemplate.splitSuffix
  simp only [hfind]
  cases NodeType.all.findSome? fun t =>
      (t.beforeSuffix? (Text.trimRight e.toList)).map fun body => (body, t) with
  | none => exact ⟨h, rfl⟩
  | some p =>
    refine ⟨?_, rfl⟩
    by_cases hp : p.1 = []
    · exact ⟨[], [], List.forall_mem_nil _, List.forall_mem_nil _, by simp [hp]⟩
    · exact ⟨blanks, [], hblanks, List.forall_mem_nil _, by simp [hp]⟩

/-! ### Spans and conditions -/

/-- Failures of the same kind: the same failure, or one with another text of the expression. -/
inductive ExpandError.SameKind : ExpandError → ExpandError → Prop
  | same (failure : ExpandError) : SameKind failure failure
  | evaluation (text text' : String) {fault fault' : EvalError} : fault.SameKind fault' →
    SameKind (.evaluation text fault) (.evaluation text' fault')
  | notInteger (text text' value : String) :
    SameKind (.notInteger text value) (.notInteger text' value)

namespace Session

/-- What is made of the results of two sessions is the same if the results are. -/
theorem sameUpToFault_return {ε α β : Type} {R : ε → ε → Prop} {m m' : Session ε α}
    (h : SameUpToFault R (m.runIn ctx).1 (m'.runIn ctx).1) (f : α → β) :
    SameUpToFault R ((do return f (← m)).runIn ctx).1 ((do return f (← m')).runIn ctx).1 := by
  rw [← map_eq_pure_bind, ← map_eq_pure_bind, runIn_map, runIn_map]
  exact h.map f

theorem sameKind_during
    (h : SameUpToFault EvalError.SameKind ((evaluate text).runIn ctx).1 ((evaluate e).runIn ctx).1)
    {α : Type} (f : Value → α) :
    SameUpToFault ExpandError.SameKind
      ((during text (do return f (← evaluate text))).runIn ctx).1
      ((during e (do return f (← evaluate e))).runIn ctx).1 := by
  have hmap := sameUpToFault_return h f
  rw [runIn_during, runIn_during]
  generalize ((do return f (← evaluate text)).runIn ctx).1 = r at hmap
  generalize ((do return f (← evaluate e)).runIn ctx).1 = r' at hmap
  cases hmap with
  | ok a => exact .ok a
  | error hfault => exact .error (.evaluation text e hfault)

theorem sameKind_asInt
    (h : SameUpToFault EvalError.SameKind ((evaluate text).runIn ctx).1
      ((evaluate e).runIn ctx).1) :
    SameUpToFault ExpandError.SameKind ((asInt text).runIn ctx).1 ((asInt e).runIn ctx).1 := by
  rw [runIn_asInt, runIn_asInt]
  generalize ((evaluate text).runIn ctx).1 = r at h
  generalize ((evaluate e).runIn ctx).1 = r' at h
  cases h with
  | error hfault => exact .error (.evaluation text e hfault)
  | ok v =>
    simp only [integer]
    split
    · exact .ok _
    · exact .ok _
    · exact .error (.notInteger text e v.text)

theorem sameKind_typedNode? (hty : (splitSuffix text).2 = (splitSuffix e).2)
    (h : SameUpToFault EvalError.SameKind
      ((evaluate (splitSuffix text).1).runIn ctx).1 ((evaluate (splitSuffix e).1).runIn ctx).1) :
    SameUpToFault ExpandError.SameKind ((typedNode? text).runIn ctx).1
      ((typedNode? e).runIn ctx).1 := by
  unfold typedNode?
  generalize splitSuffix text = p at *
  generalize splitSuffix e = q at *
  obtain ⟨body, ty⟩ := p
  obtain ⟨body', ty'⟩ := q
  obtain rfl : ty = ty' := hty
  cases ty with
  | none => exact sameKind_during h _
  | some ty =>
    cases ty with
    | int => exact sameUpToFault_return (sameKind_asInt h) _
    | boolean => exact sameUpToFault_return (sameKind_during h _) _
    | array => exact sameUpToFault_return (sameKind_during h _) _
    | string => exact sameUpToFault_return (sameKind_during h _) _

end Session

theorem Padded.balanced (h : Padded text e) (he : Balanced e.toList) : Balanced text.toList := by
  have plain {blanks : List Char} (hblanks : ∀ c ∈ blanks, Text.isBlank c = true) :
      Balanced blanks := by
    refine .of_plain fun c hc => ?_
    exact isPlain_of (hblanks c hc) (by decide) (by decide) (by decide) (by decide)
  obtain ⟨before, after, hbefore, hafter, htext⟩ := h
  rw [htext]
  exact (plain hbefore).append (he.append (plain hafter))

/-- With the built-in language, blanks around a text change neither its value nor the kind of its
fault, nor the truth of a condition, unless the context takes one of the two texts as it is written:
as the name of a bound text that is no identifier, or as a call of `date` with a backslash. A key is
an `if` with such a condition with the blanks and without them, and a span of the text leaves the
same node. -/
theorem Context.evaluate_padded (hctx : ctx.evaluator = .language cache) (h : Padded text e) :
    (¬ ctx.TakesVerbatim text → ¬ ctx.TakesVerbatim e →
      SameUpToFault EvalError.SameKind ((Session.evaluate text).runIn ctx).1
          ((Session.evaluate e).runIn ctx).1 ∧
        SameUpToFault ExpandError.SameKind ((Template.condition text).runIn ctx).1
          ((Template.condition e).runIn ctx).1) ∧
      (Balanced e.toList →
        Directive.ofKey? ("$\x7bif:" ++ text ++ "\x7d") = some (.branch (.ifTrue text)) ∧
          Directive.ofKey? ("$\x7bif:" ++ e ++ "\x7d") = some (.branch (.ifTrue e)) ∧
          (¬ ctx.TakesVerbatim (splitSuffix text).1 → ¬ ctx.TakesVerbatim (splitSuffix e).1 →
            SameUpToFault ExpandError.SameKind
              ((Template.expand (.string ("$\x7b" ++ text ++ "\x7d"))).runIn ctx).1
              ((Template.expand (.string ("$\x7b" ++ e ++ "\x7d"))).runIn ctx).1)) := by
  constructor
  · intro htext he
    have heval := h.evaluate hctx htext he
    exact ⟨heval, Session.sameKind_during heval _⟩
  · intro hbalanced
    have key {t : String} (ht : Balanced t.toList) :
        Directive.ofKey? ("$\x7bif:" ++ t ++ "\x7d") = some (.branch (.ifTrue t)) := by
      have hkey : Directive.key (.branch (.ifTrue t)) = "$\x7bif:" ++ t ++ "\x7d" := by
        apply String.toList_injective
        simp [Directive.key, Directive.text]
      rw [← hkey]
      exact Directive.IsWritable.ofKey?_key ht
    refine ⟨key (h.balanced hbalanced), key hbalanced, fun htext he => ?_⟩
    obtain ⟨hsplit, hty⟩ := h.splitSuffix
    rw [Template.expand_span (h.balanced hbalanced), Template.expand_span hbalanced]
    exact Session.sameKind_typedNode? hty (hsplit.evaluate hctx htext he)

/-- A bound name between a line break and a tabulator, with a type behind it. -/
theorem Context.evaluate_padded_typed :
    let ctx := (Context.ofSettings {} ⟨2024, 6, 1, 9, 15, 0, 0, 7200⟩).mapBindings
      (·.set "total" (.string "12"))
    let text := "\n total:int\t"
    let e := "total:int"
    ctx.evaluator = .language .empty ∧ Padded text e ∧
      ¬ ctx.TakesVerbatim text ∧ ¬ ctx.TakesVerbatim e ∧ Balanced e.toList ∧
      ¬ ctx.TakesVerbatim (splitSuffix text).1 ∧ ¬ ctx.TakesVerbatim (splitSuffix e).1 ∧
      SameUpToFault EvalError.SameKind ((Session.evaluate text).runIn ctx).1
        ((Session.evaluate e).runIn ctx).1 ∧
      SameUpToFault ExpandError.SameKind
        ((Template.expand (.string ("$\x7b" ++ text ++ "\x7d"))).runIn ctx).1
        ((Template.expand (.string ("$\x7b" ++ e ++ "\x7d"))).runIn ctx).1 := by
  intro ctx text e
  have hctx : ctx.evaluator = .language .empty := rfl
  have hpadded : Padded text e :=
    ⟨"\n ".toList, "\t".toList, List.all_eq_true.mp (by decide),
      List.all_eq_true.mp (by decide), by decide⟩
  have hbalanced : Balanced e.toList := .of_plain (List.all_eq_true.mp (by decide))
  have unanswered {t : String} (ht : (ctx.lookup? t).isNone = true) : ¬ ctx.TakesVerbatim t :=
    Context.not_takesVerbatim_of_lookup? (Option.isNone_iff_eq_none.mp ht)
  have htext : ¬ ctx.TakesVerbatim text := unanswered (by decide)
  have he : ¬ ctx.TakesVerbatim e := unanswered (by decide)
  have hbody : (splitSuffix text).1 = "\n total" := by decide
  have htextBody : ¬ ctx.TakesVerbatim (splitSuffix text).1 :=
    unanswered (by rw [hbody]; decide)
  have hname : (splitSuffix e).1 = "total" := by decide
  have hident : IsIdentifier "total" :=
    ⟨.mk (by decide) (List.all_eq_true.mp (by decide)), fun t => by
      simp [keywords]⟩
  have heBody : ¬ ctx.TakesVerbatim (splitSuffix e).1 := fun h => h.notName (hname ▸ hident)
  obtain ⟨heval, hspan⟩ := Context.evaluate_padded hctx hpadded
  exact ⟨hctx, hpadded, htext, he, hbalanced, htextBody, heBody, (heval htext he).1,
    (hspan hbalanced).2.2 htextBody heBody⟩

/-- A blank in front of a bound name that is no identifier leaves a text that is no expression, and
one in front of a call of `date` lets its backslashes escape. An evaluator that is plugged in is
given the blanks. -/
theorem Session.evaluate_blank_before_name :
    let start := Context.ofSettings {} ⟨2024, 6, 1, 9, 15, 0, 0, 7200⟩
    let ctx := start.mapBindings (·.set "TP#" (.string "7"))
    let plugged : Context := { start with evaluator := .plugged fun text _ => .ok (.string text) }
    ((evaluate "TP#").runIn ctx).1 = .ok (.string "7") ∧
      ((evaluate " TP#").runIn ctx).1 =
        .error (.syntaxError ⟨3, .strayCharacter '#', "#"⟩) ∧
      ((evaluate "date('yyyy\\MM')").runIn ctx).1 = .ok (.string "2024\\06") ∧
      ((evaluate " date('yyyy\\MM')").runIn ctx).1 = .ok (.string "202406") ∧
      ((evaluate "x").runIn plugged).1 = .ok (.string "x") ∧
      ((evaluate " x").runIn plugged).1 = .ok (.string " x") := by
  intro start ctx plugged
  have hctx : ctx.evaluator = .language .empty := rfl
  have unanswered {text : String} (h : (ctx.lookup? text).isNone = true) :
      ((evaluate text).runIn ctx).1 = settle (ParseCache.direct text ctx.bindings.scope) := by
    rw [runIn_evaluate_language hctx, Option.isNone_iff_eq_none.mp h]
  have answered {text : String} {v : Value} (h : ctx.lookup? text = some v) :
      ((evaluate text).runIn ctx).1 = .ok v := by
    rw [runIn_evaluate, h]
  refine ⟨answered (Context.lookup?_of_text rfl), ?_, ?_, ?_, rfl, rfl⟩
  · have hparse : Expr.parse " TP#" = .error ⟨3, .strayCharacter '#', "#"⟩ := by cbv
    rw [unanswered (by decide), ParseCache.direct, hparse]
    rfl
  · have hnone : ctx.bindings.get? "date('yyyy\\MM')" = none := rfl
    exact answered ((Context.lookup?_eq_some_iff (by simp [hnone])).mpr
      ⟨"yyyy\\MM".toList, "2024\\06".toList, by decide +kernel, by decide +kernel, rfl⟩)
  · have hparse : Expr.parse " date('yyyy\\MM')" =
        .ok (.call "date" [.literal (.string "yyyyMM")]) := by cbv
    have hdate : ctx.bindings.scope.date "yyyyMM" = .ok (.string "202406") :=
      (@date_eq_ok_iff "202406".toList _ "yyyyMM".toList).mpr (by decide +kernel)
    rw [unanswered (by decide), ParseCache.direct, hparse]
    dsimp only
    rw [eval_dateCall, hdate]
    rfl

end RowTemplate
