import Mathlib
import RowTemplate.Proofs.Expr.Acceptance
import RowTemplate.Proofs.Expr.ParseCache

/-! # Texts as literals

Any text can be written between quotes of either kind: its backslashes and its
quotes of that kind are escaped, and what the literal denotes is the text. A
list of texts is then an expression with the same value in every scope.
-/

namespace RowTemplate

open Grammar

variable {quote : Char} {s w rest : List Char} {ts : List Token}

/-! ### Quotations -/

/-- The text with a backslash in front of backslashes and of quotes of one kind. -/
def escapedIn (quote : Char) : List Char → List Char
  | [] => []
  | c :: s =>
    if c = quote ∨ c = '\\' then '\\' :: c :: escapedIn quote s else c :: escapedIn quote s

theorem quotation_escapedIn (quote : Char) (s : List Char) :
    Quotation quote (escapedIn quote s) := by
  induction s with
  | nil => exact .nil
  | cons c s ih =>
    rw [escapedIn]
    split_ifs with h
    · exact .escaped ih
    · exact .plain (fun hc => h (.inl hc)) (fun hc => h (.inr hc)) ih

theorem unescape_quote (hq : isQuote quote = true) : Token.unescape quote = quote := by
  obtain rfl | rfl : quote = '\'' ∨ quote = '"' := by simpa [isQuote] using hq
  all_goals rfl

theorem unescaped_escapedIn (hq : isQuote quote = true) (s : List Char) :
    unescaped (escapedIn quote s) = s := by
  induction s with
  | nil => rfl
  | cons c s ih =>
    rw [escapedIn]
    split_ifs with h
    · -- A backslash makes a control character of some letters and of zero, but of no character
      -- that it has been put in front of.
      have hc : Token.unescape c = c := by
        rcases h with rfl | rfl
        · exact unescape_quote hq
        · rfl
      rw [unescaped, hc, ih]
    · rw [unescaped_cons (fun hc => h (.inr hc)), ih]

/-- A quotation is one token, whatever follows it. -/
theorem splits_quotation_append (hq : isQuote quote = true) (hw : Quotation quote w) :
    Splits (quote :: w ++ quote :: rest) ts ↔
      ∃ us, ts = .string (String.ofList (unescaped w)) :: us ∧ Splits rest us := by
  have hfirst : Token.first quote (w ++ quote :: rest) =
      .ok (.string (String.ofList (unescaped w)), w.length + 1) := by
    rw [Token.first_quote hq, Token.stringBody?_quotation hq hw]
  rw [List.cons_append, Splits.cons_iff (not_isBlank_of_isQuote hq) hfirst]
  simp

/-- The derivation of a literal. -/
def Grammar.Derivation.text (s : String) : Derivation .ternary :=
  single (.literal (.string s))

@[simp] theorem Grammar.Derivation.yield_text (s : String) : (text s).yield = [.string s] := by
  simp [text]

@[simp] theorem Grammar.Derivation.value_text (s : String) :
    (text s).value = .literal (.string s) := by
  simp [text]

/-- A quotation is the literal of what its inside denotes. -/
theorem parse_quotation (hq : isQuote quote = true) (hw : Quotation quote w) :
    Expr.parse (String.ofList (quote :: w ++ [quote])) =
      .ok (.literal (.string (String.ofList (unescaped w)))) := by
  refine parse_eq_ok_iff.mpr ⟨.text (String.ofList (unescaped w)), ?_, by simp⟩
  have hsplits := (splits_quotation_append hq hw).mpr ⟨[], rfl, .done⟩
  simpa using hsplits

/-- Every string can be written between quotes of either kind, and is read back as it was. -/
theorem Expr.parse_escapedIn (hq : isQuote quote = true) (s : String) :
    Expr.parse (String.ofList (quote :: escapedIn quote s.toList ++ [quote])) =
      .ok (.literal (.string s)) := by
  have hparse := parse_quotation hq (quotation_escapedIn quote s.toList)
  rwa [unescaped_escapedIn hq, String.ofList_toList] at hparse

/-- A backslash in front of a letter, quotes of both kinds, a line break and other characters that
stand for themselves. -/
theorem Expr.parse_escapedIn_double :
    isQuote '"' = true ∧
      Expr.parse "\"\\\\n \\\"it's\\\"\n\x00é\"" =
        .ok (.literal (.string "\\n \"it's\"\n\x00é")) := by
  have htext : String.ofList ('"' :: escapedIn '"' "\\n \"it's\"\n\x00é".toList ++ ['"']) =
      "\"\\\\n \\\"it's\\\"\n\x00é\"" := by decide
  have hq : isQuote '"' = true := rfl
  refine ⟨hq, ?_⟩
  rw [← htext]
  exact Expr.parse_escapedIn hq _

/-! ### Literals -/

/-- The text with a backslash in front of quotes and backslashes. -/
def escaped : List Char → List Char
  | [] => []
  | c :: s => if c = '\'' ∨ c = '\\' then '\\' :: c :: escaped s else c :: escaped s

/-- The literal of a text. -/
def literalText (text : String) : List Char := '\'' :: escaped text.toList ++ ['\'']

/-- The list of the literals of some texts. -/
def listText (texts : List String) : String :=
  String.ofList ('[' :: [','].intercalate (texts.map literalText) ++ [']'])

theorem escaped_eq_escapedIn (s : List Char) : escaped s = escapedIn '\'' s := by
  induction s with
  | nil => rfl
  | cons c s ih => rw [escaped, escapedIn, ih]

/-- A literal is one token, whatever follows it. -/
theorem splits_literalText_append (text : String) :
    Splits (literalText text ++ rest) ts ↔ ∃ us, ts = .string text :: us ∧ Splits rest us := by
  have htext : literalText text ++ rest =
      '\'' :: escapedIn '\'' text.toList ++ '\'' :: rest := by
    simp [literalText, escaped_eq_escapedIn]
  rw [htext, splits_quotation_append rfl (quotation_escapedIn _ _), unescaped_escapedIn rfl,
    String.ofList_toList]

/-! ### Lists -/

namespace Grammar.Derivation

/-- The derivation of the items of a list of literals. -/
def textItems : List String → Derivation (.items .square)
  | [] => .noItem
  | [s] => .lastItem (text s)
  | s :: s' :: rest => .item (text s) (textItems (s' :: rest))

theorem value_textItems (texts : List String) :
    (textItems texts).value = texts.map fun s => .literal (.string s) := by
  fun_induction textItems texts with
  | case1 => rfl
  | case2 s => simp
  | case3 s s' rest ih => simpa using ih

end Grammar.Derivation

theorem splits_mark {c : Char} {m : Mark} (hc : Text.isBlank c = false)
    (hfirst : Token.first c s = .ok (.mark m, 0)) (h : Splits s ts) :
    Splits (c :: s) (.mark m :: ts) :=
  (Splits.cons_iff hc hfirst).mpr ⟨ts, rfl, h⟩

theorem splits_textItems (texts : List String) :
    Splits ([','].intercalate (texts.map literalText) ++ [']'])
      (Derivation.textItems texts).yield := by
  have hclose : Splits [']'] [.mark .closeBracket] := splits_mark (by decide) rfl .done
  fun_induction Derivation.textItems texts with
  | case1 => exact hclose
  | case2 s =>
    have hsplits := (splits_literalText_append s).mpr ⟨_, rfl, hclose⟩
    simpa [List.intercalate, Bracket.close] using hsplits
  | case3 s s' rest ih =>
    have hcomma := splits_mark (m := .comma) (c := ',') (by decide) rfl ih
    have hsplits := (splits_literalText_append s).mpr ⟨_, rfl, hcomma⟩
    simpa [List.intercalate] using hsplits

theorem parse_listText (texts : List String) :
    Expr.parse (listText texts) = .ok (.array (texts.map fun s => .literal (.string s))) := by
  refine parse_eq_ok_iff.mpr ⟨.single (.array (.textItems texts)), ?_, ?_⟩
  · have hopen := splits_mark (m := .openBracket) (c := '[') (by decide) rfl
      (splits_textItems texts)
    simpa [listText] using hopen
  · simp [Derivation.value_textItems]

theorem evalItems_texts (scope : Scope) (texts : List String) :
    Expr.evalItems scope (texts.map fun s => .literal (.string s)) =
      .ok (texts.map Value.string) := by
  induction texts with
  | nil => rfl
  | cons s texts ih =>
    rw [List.map_cons, Expr.evalItems, ih]
    rfl

/-- A list of literals has the texts as its items in every scope. -/
theorem direct_listText (texts : List String) (scope : Scope) :
    ParseCache.direct (listText texts) scope = .ok (.array (texts.map .string)) := by
  rw [ParseCache.direct, parse_listText]
  simp only [Expr.eval, evalItems_texts]
  rfl

end RowTemplate
