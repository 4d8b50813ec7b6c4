import RowTemplate.Proofs.Context.Alike
import RowTemplate.Proofs.Expr.Ending

/-! # Type suffixes

A type suffix is read off the end of a text before the text is read as an
expression. An expression is therefore cut only if it ends with a colon and the
word of a type directly behind it, which only a condition does; what is left of
it is no expression.
-/

namespace RowTemplate

variable {text body : String} {ty : NodeType}

/-- The word of a suffix as a name. -/
def NodeType.name (ty : NodeType) : String := String.ofList ty.word

namespace NodeType

theorem toList_name (ty : NodeType) : ty.name.toList = ty.word := String.toList_ofList

theorem isWord_name (ty : NodeType) : IsWord ty.name.toList := by
  rw [toList_name]
  cases ty <;> exact .mk (by decide) (List.all_eq_true.mp (by decide))

theorem name_not_keyword (ty : NodeType) (t : Token) : (ty.name, t) ∉ keywords := by
  intro hmem
  have hname : ty.name ∈ keywords.map Prod.fst := List.mem_map_of_mem hmem
  revert hname
  cases ty <;> decide

/-- The text is `body`, a colon and the word of the type, with blanks in front of the colon and
behind the word. -/
def Suffixes (ty : NodeType) (body text : String) : Prop :=
  ∃ blanks blanks' : List Char, (∀ c ∈ blanks, Text.isBlank c = true) ∧
    (∀ c ∈ blanks', Text.isBlank c = true) ∧
    text.toList = body.toList ++ (blanks ++ ':' :: (ty.name.toList ++ blanks'))

end NodeType

theorem NodeType.exists_blanks_of_beforeSuffix? {s before : List Char}
    (h : ty.beforeSuffix? s = some before) :
    ∃ blanks, s = before ++ (blanks ++ ':' :: ty.word) ∧ ∀ c ∈ blanks, Text.isBlank c = true := by
  unfold beforeSuffix? at h
  simp only at h
  split at h
  case isFalse => cases h
  case isTrue hsuffix =>
    obtain ⟨whole, rfl⟩ := List.isSuffixOf_iff_suffix.mp hsuffix
    obtain ⟨blanks, hwhole, hblanks⟩ := Text.exists_blanks_trimRight whole
    rw [List.length_append, Nat.add_sub_cancel, List.take_left] at h
    cases h
    exact ⟨blanks, by rw [← List.append_assoc, ← hwhole], hblanks⟩

theorem splitSuffix_eq (text : String) :
    splitSuffix text = (text, none) ∨ ∃ body ty, splitSuffix text = (body, some ty) := by
  unfold splitSuffix
  simp only
  split
  · exact .inr ⟨_, _, rfl⟩
  · exact .inl rfl

theorem suffixes_of_splitSuffix (h : splitSuffix text = (body, some ty)) :
    ty.Suffixes body text := by
  unfold splitSuffix at h
  simp only at h
  split at h
  case h_2 => cases h
  case h_1 before t hfind =>
    cases h
    obtain ⟨t, -, ht⟩ := List.exists_of_findSome?_eq_some hfind
    obtain ⟨before', hbefore, heq⟩ := Option.map_eq_some_iff.mp ht
    cases heq
    obtain ⟨blanks', htext, hblanks'⟩ := Text.exists_blanks_trimRight text.toList
    obtain ⟨blanks, hwhole, hblanks⟩ := ty.exists_blanks_of_beforeSuffix? hbefore
    refine ⟨blanks, blanks', hblanks, hblanks', ?_⟩
    rw [htext, hwhole, ty.toList_name, String.toList_ofList]
    simp

namespace Session

variable {ctx : Context} {cache : ParseCache}

theorem runIn_evaluate_of_refused {error : SyntaxError} (hctx : ctx.evaluator = .language cache)
    (hlookup : ctx.lookup? body = none) (h : Expr.parse body = .error error) :
    ((evaluate body).runIn ctx).1 = .error (.syntaxError error) := by
  rw [runIn_evaluate_language hctx, hlookup, ParseCache.direct, h]
  rfl

theorem runIn_bind_of_error {ε α β : Type} {m : Session ε α} {f : α → Session ε β} {e : ε}
    (h : (m.runIn ctx).1 = .error e) : ((m >>= f).runIn ctx).1 = .error e := by
  rcases hm : m.runIn ctx with ⟨result, ctx'⟩
  rw [hm] at h
  obtain rfl : result = .error e := h
  rw [runIn_bind_error hm]

theorem runIn_during_of_error {α : Type} {m : Session EvalError α} {fault : EvalError}
    (h : (m.runIn ctx).1 = .error fault) (text : String) :
    ((during text m).runIn ctx).1 = .error (.evaluation text fault) := by
  rw [runIn_during, h]
  rfl

/-- A fault in what a suffix is cut from is the fault of the span, whatever the type. -/
theorem runIn_typedNode?_of_error {fault : EvalError} (h : splitSuffix text = (body, some ty))
    (heval : ((evaluate body).runIn ctx).1 = .error fault) :
    ((typedNode? text).runIn ctx).1 = .error (.evaluation body fault) := by
  unfold typedNode?
  rw [h]
  cases ty with
  | int => exact runIn_bind_of_error (runIn_bind_of_error (runIn_during_of_error heval body))
  | boolean => exact runIn_bind_of_error (runIn_during_of_error (runIn_bind_of_error heval) body)
  | array => exact runIn_bind_of_error (runIn_during_of_error (runIn_bind_of_error heval) body)
  | string => exact runIn_bind_of_error (runIn_during_of_error (runIn_bind_of_error heval) body)

end Session

/-- A type suffix is cut from an expression only if its last alternative is the word of the type,
directly behind the colon, and then the span of the text is refused. Any other expression is
evaluated as it is. -/
theorem splitSuffix_of_parse {e : Expr} (h : Expr.parse text = .ok e) :
    ((∀ ty : NodeType, ¬ e.EndsInElse ty.name) → splitSuffix text = (text, none) ∧
        Session.typedNode? text = Session.during text (Session.asNode? text)) ∧
      ∀ body ty, splitSuffix text = (body, some ty) →
        e.EndsInElse ty.name ∧ ty.Suffixes body text ∧
          ∃ error, Expr.parse body = .error error ∧
            ∀ (ctx : Context) cache, ctx.evaluator = .language cache → ctx.lookup? body = none →
              ((Session.typedNode? text).runIn ctx).1 =
                .error (.evaluation body (.syntaxError error)) := by
  have hcut {body ty} (hsplit : splitSuffix text = (body, some ty)) :
      e.EndsInElse ty.name ∧ ∃ error, Expr.parse body = .error error := by
    obtain ⟨blanks, blanks', hblanks, hblanks', htext⟩ := suffixes_of_splitSuffix hsplit
    have hends := endsInElse_of_parse ty.isWord_name ty.name_not_keyword hblanks hblanks' htext h
    rwa [String.ofList_toList] at hends
  constructor
  · intro hends
    have hsplit : splitSuffix text = (text, none) := by
      rcases splitSuffix_eq text with hnone | ⟨body, ty, hsome⟩
      · exact hnone
      · exact absurd (hcut hsome).1 (hends ty)
    refine ⟨hsplit, ?_⟩
    rw [Session.typedNode?, hsplit]
  · intro body ty hsplit
    obtain ⟨hends, error, herror⟩ := hcut hsplit
    refine ⟨hends, suffixes_of_splitSuffix hsplit, error, herror, fun ctx cache hctx hlookup => ?_⟩
    exact Session.runIn_typedNode?_of_error hsplit
      (Session.runIn_evaluate_of_refused hctx hlookup herror)

/-- A condition inside a condition, left with the word of a type. -/
theorem splitSuffix_of_parse_nested :
    let text := "a ? 1 : b ? 2 :string "
    let e : Expr := .ternary (.name "a") (.literal (.int 1))
      (.ternary (.name "b") (.literal (.int 2)) (.name "string"))
    Expr.parse text = .ok e ∧ splitSuffix text = ("a ? 1 : b ? 2", some .string) ∧
      e.EndsInElse "string" ∧ ∃ error, Expr.parse "a ? 1 : b ? 2" = .error error := by
  intro text e
  have hparse : Expr.parse text = .ok e := by cbv
  have hsplit : splitSuffix text = ("a ? 1 : b ? 2", some .string) := by decide
  obtain ⟨hends, -, error, herror, -⟩ := (splitSuffix_of_parse hparse).2 _ _ hsplit
  exact ⟨hparse, hsplit, hends, error, herror⟩

/-- The alternative of a condition taken for a type. -/
theorem splitSuffix_cuts_alternative :
    Expr.parse "true ? 1 :int" =
        .ok (.ternary (.literal (.bool true)) (.literal (.int 1)) (.name "int")) ∧
      splitSuffix "true ? 1 :int" = ("true ? 1", some .int) :=
  ⟨by cbv, by decide⟩

end RowTemplate
