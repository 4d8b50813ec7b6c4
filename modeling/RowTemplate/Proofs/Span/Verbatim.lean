import Mathlib
import RowTemplate.Proofs.Expr.Acceptance
import RowTemplate.Proofs.Span.Walk

/-! # Expressions in spans

The braces of an expression come in pairs, and its quotations end where those of
a span do. An expression is therefore balanced, and between delimiters it is one
span.
-/

namespace RowTemplate

open Grammar

variable {depth : Nat} {c : Char} {w s : List Char} {t : Token} {ts us : List Token}

/-- The character is neither a brace nor a quote. -/
def isPlain (c : Char) : Bool := c ≠ '{' && c ≠ '}' && !isQuote c

theorem Balanced.of_plain (h : ∀ c ∈ w, isPlain c = true) : Balanced w := by
  induction w with
  | nil => exact .nil
  | cons c w ih =>
    obtain ⟨hc, hw⟩ := List.forall_mem_cons.mp h
    simp only [isPlain, Bool.and_eq_true, decide_eq_true_eq, Bool.not_eq_true'] at hc
    exact .plain hc.1.1 hc.1.2 hc.2 (ih hw)

/-- A property of characters that braces and quotes lack. -/
theorem isPlain_of {p : Char → Bool} (h : p c = true) (ho : p '{' = false) (hc : p '}' = false)
    (hs : p '\'' = false) (hd : p '"' = false) : isPlain c = true := by
  have hne (d : Char) (hd : p d = false) : c ≠ d := by
    rintro rfl
    rw [h] at hd
    cases hd
  simp [isPlain, isQuote, hne _ ho, hne _ hc, hne _ hs, hne _ hd]

theorem IsNumeral.isPlain (h : IsNumeral w) : ∀ c ∈ w, isPlain c = true := fun c hc =>
  isPlain_of (h.digits c hc) (by decide) (by decide) (by decide) (by decide)

theorem IsWord.isPlain (h : IsWord w) : ∀ c ∈ w, isPlain c = true := by
  cases h with
  | mk hc hw =>
    refine List.forall_mem_cons.mpr ⟨?_, fun c hc => ?_⟩
    · exact isPlain_of hc (by decide) (by decide) (by decide) (by decide)
    · exact isPlain_of (hw c hc) (by decide) (by decide) (by decide) (by decide)

/-- A word that spells anything but a brace is balanced. -/
theorem Spelling.balanced (h : Spelling w t) (ho : t ≠ .mark .openBrace)
    (hc : t ≠ .mark .closeBrace) : Balanced w := by
  cases h with
  | mark m =>
    refine .of_plain (List.all_eq_true.mp ?_)
    cases m
    all_goals first | exact absurd rfl ho | exact absurd rfl hc | rfl
  | int hw => exact .of_plain hw.isPlain
  | large hw => exact .of_plain hw.isPlain
  | decimal hw hv =>
    refine .of_plain (List.forall_mem_append.mpr ⟨hw.isPlain, ?_⟩)
    exact List.forall_mem_cons.mpr ⟨by decide, hv.isPlain⟩
  | string hq hw => exact .quoted hq hw .nil
  | keyword hk => exact .of_plain (Token.isWord_keyword hk).isPlain
  | name hw => exact .of_plain hw.isPlain

theorem Spelling.eq_sign {m : Mark} (h : Spelling w (.mark m)) : w = m.sign := by
  cases h with
  | mark => rfl
  | keyword hk => simp [keywords] at hk

/-- The braces among the tokens come in pairs, but for closing ones as many as are open. -/
inductive Nested : Nat → List Token → Prop
  | nil : Nested 0 []
  | opening {depth : Nat} {ts : List Token} : Nested (depth + 1) ts →
    Nested depth (.mark .openBrace :: ts)
  | closing {depth : Nat} {ts : List Token} : Nested depth ts →
    Nested (depth + 1) (.mark .closeBrace :: ts)
  | other {depth : Nat} {t : Token} {ts : List Token} : t ≠ .mark .openBrace →
    t ≠ .mark .closeBrace → Nested depth ts → Nested depth (t :: ts)

/-- The braces that are open in front of a symbol and that it closes. -/
def Grammar.Symbol.openBraces : Symbol → Nat
  | .fields => 1
  | _ => 0

theorem Nested.mark {m : Mark} (h : Nested depth ts) (hm : m ≠ .openBrace ∧ m ≠ .closeBrace) :
    Nested depth (.mark m :: ts) :=
  .other (by simpa using hm.1) (by simpa using hm.2) h

theorem Grammar.Bracket.not_brace (bracket : Bracket) :
    bracket.close ≠ .openBrace ∧ bracket.close ≠ .closeBrace := by
  cases bracket <;> simp [close]

theorem Grammar.Joins.not_brace {k : Nat} {m : Mark} {join : Expr → Expr → Expr}
    (h : Joins k m join) : m ≠ .openBrace ∧ m ≠ .closeBrace := by
  cases h <;> simp

theorem Grammar.Prefixes.not_brace {m : Mark} {op : UnaryOp} (h : Prefixes m op) :
    m ≠ .openBrace ∧ m ≠ .closeBrace := by
  cases h <;> simp

/-- A derivation keeps the nesting of the tokens behind it. -/
theorem nested_yield {sym : Symbol} (d : Derivation sym) (h : Nested depth us) :
    Nested (depth + sym.openBraces) (d.yield ++ us) := by
  induction d generalizing depth us with
  | plain _ ihe => exact ihe h
  | conditional _ _ _ ihc ihy ihn =>
    simp only [Derivation.yield, List.append_assoc, List.cons_append]
    exact ihc (.mark (ihy (.mark (ihn h) (by simp))) (by simp))
  | coalesced _ _ ihe ihm =>
    rw [Derivation.yield, List.append_assoc]
    exact ihe (ihm h)
  | noAlternative => exact h
  | alternative _ _ ihe ihm =>
    simp only [Derivation.yield, List.append_assoc, List.cons_append]
    exact .mark (ihe (ihm h)) (by simp)
  | level _ _ _ ihl ihm =>
    rw [Derivation.yield, List.append_assoc]
    exact ihl (ihm h)
  | closest _ ihe => exact ihe h
  | noOperation => exact h
  | operation hj _ _ ihr ihm =>
    simp only [Derivation.yield, List.append_assoc, List.cons_append]
    exact .mark (ihr (ihm h)) hj.not_brace
  | prefixed hp _ ihe => exact .mark (ihe h) hp.not_brace
  | unprefixed _ ihe => exact ihe h
  | accesses _ _ ihe ihm =>
    rw [Derivation.yield, List.append_assoc]
    exact ihe (ihm h)
  | noAccess => exact h
  | member _ _ ihm => exact .mark (.other (by simp) (by simp) (ihm h)) (by simp)
  | method _ _ _ iha ihm =>
    simp only [Derivation.yield, List.append_assoc, List.cons_append]
    exact .mark (.other (by simp) (by simp) (.mark (iha (ihm h)) (by simp))) (by simp)
  | element _ _ ihp ihm =>
    simp only [Derivation.yield, List.append_assoc, List.cons_append]
    exact .mark (ihp (.mark (ihm h) (by simp))) (by simp)
  | grouped _ ihe =>
    simp only [Derivation.yield, List.append_assoc, List.cons_append]
    exact .mark (ihe (.mark h (by simp))) (by simp)
  | literal hl => exact .other (hl.ne_mark _) (hl.ne_mark _) h
  | everything => exact .other (by simp) (by simp) h
  | name => exact .other (by simp) (by simp) h
  | call _ _ iha => exact .other (by simp) (by simp) (.mark (iha h) (by simp))
  | array _ ihe => exact .mark (ihe h) (by simp)
  | object _ ihf => exact .opening (ihf h)
  | @noItem bracket => exact .mark h bracket.not_brace
  | @lastItem bracket _ ihe =>
    rw [Derivation.yield, List.append_assoc]
    exact ihe (.mark h bracket.not_brace)
  | item _ _ ihe ihm =>
    simp only [Derivation.yield, List.append_assoc, List.cons_append]
    exact ihe (.mark (ihm h) (by simp))
  | noField => exact .closing h
  | lastField hk _ ihe =>
    simp only [Derivation.yield, List.append_assoc, List.cons_append]
    exact .other (hk.ne_mark _) (hk.ne_mark _) (.mark (ihe (.closing h)) (by simp))
  | field hk _ _ ihe ihm =>
    simp only [Derivation.yield, List.append_assoc, List.cons_append]
    exact .other (hk.ne_mark _) (hk.ne_mark _) (.mark (ihe (.mark (ihm h) (by simp))) (by simp))

theorem finishes_of_splits (h : Splits s ts) (hts : Nested depth ts) :
    Finishes (.code depth) s := by
  induction h generalizing depth with
  | done =>
    cases hts
    exact .body .nil
  | @blank c s ts hc _ ih =>
    have hplain := isPlain_of hc (by decide) (by decide) (by decide) (by decide)
    exact .prepend (.of_plain (w := [c]) (by simpa using hplain)) (ih hts)
  | @token c w s t ts hc hlong _ ih =>
    cases hts with
    | opening h =>
      have hplace : Finishes (.behindCode depth '{') s := ih h
      rw [hlong.spells.eq_sign]
      exact hplace.behindCode (by simp)
    | @closing depth _ h =>
      have hplace : Finishes (.behindCode (depth + 1) '}') s := ih h
      rw [hlong.spells.eq_sign]
      exact hplace.behindCode (by simp)
    | other ho hc h => exact .prepend (hlong.spells.balanced ho hc) (ih h)

/-- The text of an expression is balanced. -/
theorem balanced_of_parse {text : String} {e : Expr} (h : Expr.parse text = .ok e) :
    Balanced text.toList := by
  obtain ⟨d, hsplits, -⟩ := parse_eq_ok_iff.mp h
  have hnested : Nested 0 (d.yield ++ []) := nested_yield d .nil
  rw [List.append_nil] at hnested
  cases finishes_of_splits hsplits hnested with
  | body hb => exact hb

theorem firstSpan?_spanText {body : List Char} (h : Balanced body) :
    firstSpan? (spanText body) = some ⟨[], body, []⟩ :=
  firstSpan?_eq_some_iff.mpr ⟨.nil _, h⟩

theorem singleton?_spanText {body : List Char} (h : Balanced body) :
    singleton? (spanText body) = some body := by
  rw [singleton?, firstSpan?_spanText h]

theorem Scanner.spans_of_none {w : Scanner} (h : firstSpan? w.rest = none) : w.spans = [] := by
  rw [Scanner.spans]
  split
  case h_1 hfind =>
    rw [find_none h] at hfind
    cases hfind
  case h_2 => rfl

theorem Scanner.spans_of_some {w w' : Scanner} {span : Span} (h : w.find = (some span, w')) :
    w.spans = span :: w'.spans := by
  rw [Scanner.spans]
  split
  case h_1 hfind =>
    rw [h] at hfind
    cases hfind
    rfl
  case h_2 hfind =>
    rw [h] at hfind
    cases hfind

/-- A balanced word between delimiters is one span. -/
theorem spans_spanText {body : List Char} (h : Balanced body) :
    spans (spanText body) = [⟨0, byteWidth (spanText body), body, true⟩] := by
  have hfind := Scanner.find_some (w := Scanner.start (spanText body)) (firstSpan?_spanText h)
  rw [spans, Scanner.spans_of_some hfind, Scanner.spans_of_none rfl]
  simp [Scanner.start, byteWidth]

/-- An expression between delimiters is one span, and its body is the text of the expression. -/
theorem expression_extracted {text : String} {e : Expr} (h : Expr.parse text = .ok e) :
    singleton? ("$\x7b" ++ text ++ "\x7d").toList = some text.toList ∧
      spans ("$\x7b" ++ text ++ "\x7d").toList =
        [⟨0, ("$\x7b" ++ text ++ "\x7d").utf8ByteSize, text.toList, true⟩] := by
  have htext : ("$\x7b" ++ text ++ "\x7d").toList = spanText text.toList := by
    simp [spanText]
  have hbalanced := balanced_of_parse h
  rw [htext]
  constructor
  · rw [singleton?, firstSpan?_spanText hbalanced]
  · rw [spans_spanText hbalanced, ← htext, byteWidth_toList]

/-- Quoted braces, an escaped quote and an inner object. -/
theorem expression_extracted_object :
    let text := "\x7ba: 'it\\'s \x7d\\é', 'b': \x7bc: \"\x7b\"\x7d\x7d.a"
    let e : Expr := .member
      (.object [("a", .literal (.string "it's \x7dé")),
        ("b", .object [("c", .literal (.string "\x7b"))])])
      (.literal (.string "a"))
    Expr.parse text = .ok e ∧
      singleton? ("$\x7b" ++ text ++ "\x7d").toList = some text.toList ∧
      spans ("$\x7b" ++ text ++ "\x7d").toList =
        [⟨0, ("$\x7b" ++ text ++ "\x7d").utf8ByteSize, text.toList, true⟩] := by
  intro text e
  have h : Expr.parse text = .ok e := by cbv
  exact ⟨h, expression_extracted h⟩

end RowTemplate
