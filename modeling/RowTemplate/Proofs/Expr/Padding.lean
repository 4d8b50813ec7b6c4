import RowTemplate.Proofs.Expr.Ending
import RowTemplate.Proofs.Expr.ParseCache

/-! # Blanks around an expression

Blanks around a text belong to none of its tokens. With them the text is the
expression that it is without them, or no expression either.
-/

namespace RowTemplate

variable {text e : String} {c : Char} {w s blanks : List Char} {t : Token} {ts : List Token}

/-- The text is `e` with blanks in front of it and behind it. -/
def Padded (text e : String) : Prop :=
  ∃ before after : List Char, (∀ c ∈ before, Text.isBlank c = true) ∧
    (∀ c ∈ after, Text.isBlank c = true) ∧ text.toList = before ++ (e.toList ++ after)

/-- No token goes on into the blanks behind a text. -/
theorem Longest.append_blanks (hblanks : ∀ c ∈ blanks, Text.isBlank c = true)
    (h : Longest (c :: w ++ s) (c :: w) t) : Longest (c :: w ++ (s ++ blanks)) (c :: w) t where
  spells := h.spells
  starts := List.prefix_append _ _
  longest u t' hu hpre := by
    rw [← List.append_assoc] at hpre
    rcases List.prefix_or_prefix_of_prefix hpre (List.prefix_append (c :: w ++ s) blanks) with
      hwithin | ⟨v, rfl⟩
    · exact h.longest u t' hu hwithin
    cases v with
    | nil =>
      rw [List.append_nil] at hu ⊢
      exact h.longest _ t' hu List.prefix_rfl
    | cons d v =>
      have hv : ∀ a ∈ d :: v, Text.isBlank a = true := fun a ha =>
        hblanks a (((List.prefix_append_right_inj _).mp hpre).subset ha)
      have hword : Spelling (c :: (w ++ s ++ d :: v)) t' := hu
      have hd : d ∈ w ++ s ++ d :: v := List.mem_append_right _ List.mem_cons_self
      have hend : endsWord d = true := endsWord_of_isBlank (hv d List.mem_cons_self)
      -- A word with a blank in it ends with a quote, and this one ends with a blank.
      obtain ⟨quote, hlast, hq⟩ := hword.getLast?_eq_quote hd hend
      have hmem : quote ∈ d :: v := by
        rw [← List.cons_append, List.getLast?_append] at hlast
        exact List.mem_of_getLast? (by simpa using hlast)
      rw [not_isQuote_of_isBlank (hv quote hmem)] at hq
      exact absurd hq Bool.false_ne_true

theorem splits_append_blanks_iff (hblanks : ∀ c ∈ blanks, Text.isBlank c = true) :
    Splits (s ++ blanks) ts ↔ Splits s ts := by
  constructor
  · intro h
    have hhead : ∀ c ∈ blanks.head?, endsWord c = true := fun c hc =>
      endsWord_of_isBlank (hblanks c (List.mem_of_head? hc))
    have hquote : ∀ c ∈ blanks, isQuote c = false := fun c hc =>
      not_isQuote_of_isBlank (hblanks c hc)
    obtain ⟨us, vs, rfl, hus, hvs⟩ := h.cut hhead hquote
    rw [← List.append_nil blanks, splits_blanks_append_iff hblanks, Splits.nil_iff] at hvs
    rwa [hvs, List.append_nil]
  · intro h
    induction h with
    | done =>
      rw [List.nil_append, ← List.append_nil blanks, splits_blanks_append_iff hblanks]
      exact .done
    | blank hc _ ih => exact .blank hc ih
    | token hc hlong _ ih =>
      rw [List.append_assoc]
      exact .token hc (hlong.append_blanks hblanks) ih

theorem Padded.splits_iff (h : Padded text e) : Splits text.toList ts ↔ Splits e.toList ts := by
  obtain ⟨before, after, hbefore, hafter, htext⟩ := h
  rw [htext, splits_blanks_append_iff hbefore, splits_append_blanks_iff hafter]

theorem Padded.parse_iff (h : Padded text e) {x : Expr} :
    Expr.parse text = .ok x ↔ Expr.parse e = .ok x := by
  simp only [parse_eq_ok_iff, h.splits_iff]

/-! ### Outcomes -/

/-- Faults of the same kind: the same fault, or two syntax errors. -/
inductive EvalError.SameKind : EvalError → EvalError → Prop
  | same (fault : EvalError) : SameKind fault fault
  | syntaxErrors (e e' : SyntaxError) : SameKind (.syntaxError e) (.syntaxError e')

/-- The same result, or two faults of which a relation holds. -/
inductive SameUpToFault {ε α : Type} (R : ε → ε → Prop) : Except ε α → Except ε α → Prop
  | ok (a : α) : SameUpToFault R (.ok a) (.ok a)
  | error {fault fault' : ε} : R fault fault' → SameUpToFault R (.error fault) (.error fault')

theorem SameUpToFault.map {ε α β : Type} {R : ε → ε → Prop} {r r' : Except ε α}
    (h : SameUpToFault R r r') (f : α → β) : SameUpToFault R (r.map f) (r'.map f) := by
  cases h with
  | ok a => exact .ok (f a)
  | error h => exact .error h

/-- A text has the value that it has without the blanks around it, or fails in the same way. -/
theorem Padded.direct (h : Padded text e) (scope : Scope) :
    SameUpToFault EvalError.SameKind (ParseCache.direct text scope)
      (ParseCache.direct e scope) := by
  cases he : Expr.parse e with
  | ok x =>
    rw [ParseCache.direct, ParseCache.direct, h.parse_iff.mpr he, he]
    dsimp only
    cases x.eval scope with
    | ok v => exact .ok v
    | error fault => exact .error (.same fault)
  | error error =>
    cases ht : Expr.parse text with
    | ok x =>
      rw [h.parse_iff.mp ht] at he
      cases he
    | error error' =>
      rw [ParseCache.direct, ParseCache.direct, ht, he]
      exact .error (.syntaxErrors error' error)

end RowTemplate
