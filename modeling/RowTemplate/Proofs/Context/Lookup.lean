import Mathlib
import RowTemplate.Context.Basic
import RowTemplate.Proofs.Expr.Acceptance
import RowTemplate.Proofs.Expr.ParseCache
import RowTemplate.Proofs.Moment.Literal

/-! # Answers without evaluation

A context answers a call of `date` with a quoted pattern by itself, and takes
the pattern as it is written. The language reads the pattern as a string, in
which a backslash takes the next character with it. The two answers are the same
if and only if the call has no backslash.
-/

namespace RowTemplate

open Grammar

variable {ctx : Context} {text : String} {quote : Char} {s p : List Char} {v : Value}

/-! ### Looking up -/

namespace Context

theorem lookup?_of_text {s : String} (h : ctx.bindings.get? text = some (.string s)) :
    ctx.lookup? text = some (.string s) := by
  rw [lookup?, h]

/-- A name that is bound to no text is answered if it is a call of `date` whose pattern is
accepted. -/
theorem lookup?_eq_some_iff (h : ∀ s, ctx.bindings.get? text ≠ some (.string s)) :
    ctx.lookup? text = some v ↔
      ∃ p s, datePattern? text.toList = some p ∧ ctx.bindings.now.format p = .ok s ∧
        v = .string (String.ofList s) := by
  rw [lookup?]
  split
  case h_1 s hs => exact absurd hs (h s)
  case h_2 =>
    cases datePattern? text.toList with
    | none => simp
    | some p => cases hs : ctx.bindings.now.format p <;> simp [hs, eq_comm]

end Context

/-! ### Calls of `date` -/

/-- A call of `date` with a pattern between quotes. -/
def dateCall (quote : Char) (p : List Char) : List Char :=
  'd' :: 'a' :: 't' :: 'e' :: '(' :: quote :: (p ++ [quote, ')'])

theorem eq_dateCall_of_datePatternIn? (h : datePatternIn? quote s = some p) :
    s = dateCall quote p ∧ quote ∉ p := by
  obtain ⟨_, hopening, h⟩ := Option.bind_eq_some_iff.mp h
  obtain ⟨_, hclosing, h⟩ := Option.bind_eq_some_iff.mp h
  obtain ⟨rest, rfl⟩ := List.isPrefixOf_iff_prefix.mp ((Option.guard_eq_some' _).mp hopening)
  have hclosing := (Option.guard_eq_some' _).mp hclosing
  obtain rfl := Option.some.inj h
  rw [List.drop_left] at *
  constructor
  · have hrest := List.takeWhile_append_dropWhile (p := (· ≠ quote)) (l := rest)
    rw [hclosing] at hrest
    conv_lhs => rw [← hrest]
    simp [dateCall]
  · exact fun hmem => by simpa using List.mem_takeWhile_imp hmem

/-- A text that is taken for a call of `date` is one. -/
theorem exists_dateCall_of_datePattern? (h : datePattern? s = some p) :
    ∃ quote, isQuote quote = true ∧ s = dateCall quote p ∧ quote ∉ p := by
  rcases Option.or_eq_some_iff.mp h with hsingle | ⟨-, hdouble⟩
  · exact ⟨'\'', rfl, eq_dateCall_of_datePatternIn? hsingle⟩
  · exact ⟨'"', rfl, eq_dateCall_of_datePatternIn? hdouble⟩

/-- The string that is read behind the first quote of a call ends at the last one. -/
theorem quotation_of_stringBody?_of_not_mem {t : List Char} {n : Nat}
    (hq : isQuote quote = true) (hp : quote ∉ p)
    (h : Token.stringBody? quote (p ++ [quote, ')']) = some (t, n)) :
    Quotation quote p ∧ t = unescaped p ∧ n = p.length + 1 := by
  obtain ⟨w, rest, hsplit, hw, rfl, rfl⟩ := Token.quotation_of_stringBody? h
  have hlast : p = w := by
    rcases List.append_eq_append_iff.mp hsplit with ⟨u, rfl, hu⟩ | ⟨u, rfl, hu⟩
    · cases u with
      | nil => simp
      | cons c u =>
        -- The word would end behind the last quote of the call.
        have hquote : ')' = quote := by
          cases u with
          | nil => exact (List.cons.inj (List.cons.inj hu).2).1
          | cons d u => simp at hu
        subst hquote
        exact absurd hq (by decide)
    · cases u with
      | nil => simp
      | cons c u =>
        obtain ⟨rfl, -⟩ := List.cons.inj hu
        exact absurd (List.mem_append_right w List.mem_cons_self) hp
  subst hlast
  exact ⟨hw, rfl, rfl⟩

theorem first_date (s : List Char) :
    Token.first 'd' ('a' :: 't' :: 'e' :: '(' :: s) = .ok (.name "date", 3) := by
  have hname : ∀ c ∈ ['a', 't', 'e'], Token.continuesName c = true :=
    List.all_eq_true.mp (by decide)
  have hend : ¬ Token.continuesName '(' = true := by decide
  have hword : ('a' :: 't' :: 'e' :: '(' :: s).takeWhile Token.continuesName = ['a', 't', 'e'] := by
    refine (List.takeWhile_append_of_pos hname).trans ?_
    rw [List.takeWhile_cons_of_neg hend, List.append_nil]
  rw [Token.first_word (by decide), hword]
  rfl

/-- A call splits into four tokens if its pattern is the inside of a quotation, and not at all if
it is not. -/
theorem splits_dateCall_iff (hq : isQuote quote = true) (hp : quote ∉ p) {ts : List Token} :
    Splits (dateCall quote p) ts ↔
      Quotation quote p ∧
        ts = [.name "date", .mark .openParen, .string (String.ofList (unescaped p)),
          .mark .closeParen] := by
  have hblank : Text.isBlank quote = false := not_isBlank_of_isQuote hq
  rw [dateCall, Splits.cons_iff (by decide) (first_date _)]
  simp only [List.drop_succ_cons, List.drop_zero]
  cases hbody : Token.stringBody? quote (p ++ [quote, ')']) with
  | none =>
    have hfault : Token.first quote (p ++ [quote, ')']) = .error .unclosedString := by
      rw [Token.first_quote hq, hbody]
    refine iff_of_false ?_ ?_
    · rintro ⟨us, -, hsplits⟩
      rw [Splits.cons_iff (t := .mark .openParen) (n := 0) (by decide) rfl] at hsplits
      obtain ⟨vs, -, hsplits⟩ := hsplits
      exact Splits.not_of_fault hblank hfault hsplits
    · rintro ⟨hw, -⟩
      rw [Token.stringBody?_quotation hq hw] at hbody
      cases hbody
  | some read =>
    obtain ⟨hw, ht, hn⟩ := quotation_of_stringBody?_of_not_mem hq hp hbody
    have hstring : Token.first quote (p ++ [quote, ')']) =
        .ok (.string (String.ofList (unescaped p)), p.length + 1) := by
      rw [Token.first_quote hq, hbody, ← ht, ← hn]
    have hdrop : (p ++ [quote, ')']).drop (p.length + 1) = [')'] := by simp
    have hopenBlank : Text.isBlank '(' = false := by decide
    have hcloseBlank : Text.isBlank ')' = false := by decide
    have hopenFirst (s : List Char) : Token.first '(' s = .ok (.mark .openParen, 0) := rfl
    have hcloseFirst (s : List Char) : Token.first ')' s = .ok (.mark .closeParen, 0) := rfl
    simp only [Splits.cons_iff hopenBlank (hopenFirst _), Splits.cons_iff hblank hstring,
      Splits.cons_iff hcloseBlank (hcloseFirst _), Splits.nil_iff, hdrop, List.drop_zero]
    constructor
    · rintro ⟨_, rfl, _, rfl, _, rfl, _, rfl, rfl⟩
      exact ⟨hw, rfl⟩
    · rintro ⟨-, rfl⟩
      exact ⟨_, rfl, _, rfl, _, rfl, _, rfl, rfl⟩

theorem parse_dateCall_iff (hq : isQuote quote = true) (hp : quote ∉ p)
    (htext : text.toList = dateCall quote p) {e : Expr} :
    Expr.parse text = .ok e ↔
      Quotation quote p ∧ e = .call "date" [.literal (.string (String.ofList (unescaped p)))] := by
  obtain ⟨d, hyield, hvalue⟩ : ∃ d : Derivation .ternary,
      d.yield = [.name "date", .mark .openParen, .string (String.ofList (unescaped p)),
        .mark .closeParen] ∧
      d.value = .call "date" [.literal (.string (String.ofList (unescaped p)))] :=
    let pattern := Literal.string (String.ofList (unescaped p))
    ⟨.single (.call "date" (.lastItem (.single (.literal pattern)))), by simp [Bracket.close],
      by simp⟩
  have hsplits_iff : Splits (dateCall quote p) d.yield ↔ _ := splits_dateCall_iff hq hp
  rw [parse_eq_ok_iff, htext]
  constructor
  · rintro ⟨d', hsplits, rfl⟩
    obtain ⟨hw, hyield'⟩ := (splits_dateCall_iff hq hp).mp hsplits
    rw [derivation_unique hsplits (hsplits_iff.mpr ⟨hw, hyield⟩)]
    exact ⟨hw, hvalue⟩
  · rintro ⟨hw, rfl⟩
    exact ⟨d, hsplits_iff.mpr ⟨hw, hyield⟩, hvalue⟩

/-- The value of a call is the moment in the form of the pattern that its literal denotes. -/
theorem eval_dateCall (scope : Scope) (pattern : String) :
    Expr.eval scope (.call "date" [.literal (.string pattern)]) = scope.date pattern := by
  simp only [Expr.eval, Expr.evalItems]
  have htext : (Value.string pattern).text = pattern := by simp [Value.text, Value.chars]
  exact congrArg scope.date htext

theorem date_eq_ok_iff {scope : Scope} {pattern : List Char} :
    scope.date (String.ofList pattern) = .ok (.string (String.ofList s)) ↔
      scope.now.format pattern = .ok s := by
  rw [Scope.date, String.toList_ofList]
  cases scope.now.format pattern <;> simp [String.ofList_inj]

/-- The language reads the pattern of a call as a string literal. -/
theorem direct_dateCall_iff (hq : isQuote quote = true) (hp : quote ∉ p)
    (htext : text.toList = dateCall quote p) (scope : Scope) :
    ParseCache.direct text scope = .ok (.string (String.ofList s)) ↔
      Quotation quote p ∧ scope.now.format (unescaped p) = .ok s := by
  have hparse := @parse_dateCall_iff text quote p hq hp htext
  rw [ParseCache.direct]
  split
  case h_1 e he =>
    obtain ⟨hw, rfl⟩ := hparse.mp he
    rw [eval_dateCall, date_eq_ok_iff, and_iff_right hw]
  case h_2 error herror =>
    refine iff_of_false (fun h => ?_) fun h => ?_
    · cases h
    · obtain ⟨hw, -⟩ := h
      rw [hparse.mpr ⟨hw, rfl⟩] at herror
      cases herror

/-! ### Backslashes -/

theorem quotation_of_not_mem {quote : Char} {w : List Char} (hquote : quote ∉ w)
    (hw : '\\' ∉ w) : Quotation quote w := by
  induction w with
  | nil => exact .nil
  | cons c w ih =>
    simp only [List.mem_cons, not_or] at hquote hw
    exact .plain (Ne.symm hquote.1) (Ne.symm hw.1) (ih hquote.2 hw.2)

theorem unescaped_of_not_mem {w : List Char} (hw : '\\' ∉ w) : unescaped w = w := by
  induction w with
  | nil => rfl
  | cons c w ih =>
    simp only [List.mem_cons, not_or] at hw
    rw [unescaped_cons (Ne.symm hw.1), ih hw.2]

theorem unescape_eq_backslash {c : Char} (h : Token.unescape c = '\\') : c = '\\' := by
  unfold Token.unescape at h
  split at h
  all_goals first | exact h | exact absurd h (by decide)

/-- What a quotation denotes has no more backslashes than its inside, and fewer if there are
any. -/
theorem count_unescaped {quote : Char} {w : List Char} (hw : Quotation quote w) :
    (unescaped w).count '\\' ≤ w.count '\\' ∧
      ('\\' ∈ w → (unescaped w).count '\\' < w.count '\\') := by
  induction hw with
  | nil => simp [unescaped]
  | plain _ hb _ ih =>
    rw [unescaped_cons hb, List.count_cons_of_ne hb, List.count_cons_of_ne hb, List.mem_cons,
      or_iff_right (Ne.symm hb)]
    exact ih
  | @escaped c w _ ih =>
    have hc : [Token.unescape c].count '\\' ≤ [c].count '\\' := by
      by_cases h : Token.unescape c = '\\'
      · rw [unescape_eq_backslash h]
        decide
      · rw [List.count_singleton, if_neg (by simpa using h)]
        exact Nat.zero_le _
    have hfewer : (unescaped ('\\' :: c :: w)).count '\\' < ('\\' :: c :: w).count '\\' := by
      have hsplit (d : Char) (v : List Char) :
          (d :: v).count '\\' = [d].count '\\' + v.count '\\' := by
        rw [← List.count_append, List.singleton_append]
      rw [unescaped, hsplit, List.count_cons_self, hsplit c]
      omega
    exact ⟨hfewer.le, fun _ => hfewer⟩

/-! ### Both answers -/

/-- A text that a context answers as a call of `date` by itself is evaluated to the same if and only
if it has no backslash, whatever the language remembers. -/
theorem Context.evaluate_lookup?_iff (ctx : Context) (text : String) (v : Value)
    (cache : ParseCache) (hunbound : ∀ s, ctx.bindings.get? text ≠ some (.string s))
    (h : ctx.lookup? text = some v) :
    (cache.evaluate text ctx.bindings.scope).1 = .ok v ↔ '\\' ∉ text.toList := by
  obtain ⟨p, s, hp, hs, rfl⟩ := (lookup?_eq_some_iff hunbound).mp h
  obtain ⟨quote, hq, htext, hquote⟩ := exists_dateCall_of_datePattern? hp
  have hbackslash : '\\' ∈ text.toList ↔ '\\' ∈ p := by
    have hne := (ne_backslash_of_isQuote hq).symm
    simp [htext, dateCall, hne]
  rw [ParseCache.evaluate_fst, hbackslash, direct_dateCall_iff hq hquote htext]
  constructor
  · rintro ⟨hw, hs'⟩ hmem
    -- Both answers have the backslashes of their patterns.
    have hcount : p.count '\\' = (unescaped p).count '\\' := by
      rw [← Moment.count_format hs, ← Moment.count_format hs']
    exact absurd hcount ((count_unescaped hw).2 hmem).ne'
  · intro hmem
    refine ⟨quotation_of_not_mem hquote hmem, ?_⟩
    rw [unescaped_of_not_mem hmem]
    exact hs

/-- A pattern between double quotes that has a quotation of its own. -/
theorem Context.evaluate_lookup?_iff_clock :
    let ctx := Context.ofSettings {} ⟨2024, 6, 1, 9, 15, 0, 0, 7200⟩
    let text := "date(\"HH 'o''clock'\")"
    let v := Value.string "09 o'clock"
    (∀ s, ctx.bindings.get? text ≠ some (.string s)) ∧ ctx.lookup? text = some v ∧
      '\\' ∉ text.toList ∧ (ParseCache.empty.evaluate text ctx.bindings.scope).1 = .ok v := by
  intro ctx text v
  have hnone : ctx.bindings.get? text = none := rfl
  have hunbound : ∀ s, ctx.bindings.get? text ≠ some (.string s) := by simp [hnone]
  have hlookup : ctx.lookup? text = some v := (Context.lookup?_eq_some_iff hunbound).mpr
    ⟨"HH 'o''clock'".toList, "09 o'clock".toList, by decide +kernel, by decide +kernel, rfl⟩
  have hplain : '\\' ∉ text.toList := by decide
  exact ⟨hunbound, hlookup, hplain,
    (Context.evaluate_lookup?_iff ctx text v .empty hunbound hlookup).mpr hplain⟩

/-- A context copies a backslash in a pattern, and the language does not. -/
theorem Context.lookup?_escaped_month :
    let ctx := Context.ofSettings {} ⟨2024, 6, 1, 9, 15, 0, 0, 7200⟩
    let text := "date('yyyy\\MM')"
    (∀ s, ctx.bindings.get? text ≠ some (.string s)) ∧
      ctx.lookup? text = some (.string "2024\\06") ∧
      (ParseCache.empty.evaluate text ctx.bindings.scope).1 = .ok (.string "202406") := by
  intro ctx text
  have hnone : ctx.bindings.get? text = none := rfl
  have hunbound : ∀ s, ctx.bindings.get? text ≠ some (.string s) := by simp [hnone]
  have hquote : '\'' ∉ "yyyy\\MM".toList := by decide
  have hbody := @quotation_of_stringBody?_of_not_mem '\'' "yyyy\\MM".toList "yyyyMM".toList 8 rfl
    hquote (by decide)
  refine ⟨hunbound, (Context.lookup?_eq_some_iff hunbound).mpr
    ⟨"yyyy\\MM".toList, "2024\\06".toList, by decide +kernel, by decide +kernel, rfl⟩, ?_⟩
  rw [ParseCache.evaluate_fst]
  exact (@direct_dateCall_iff text '\'' "202406".toList "yyyy\\MM".toList rfl hquote
    (by decide +kernel) ctx.bindings.scope).mpr ⟨hbody.1, by decide +kernel⟩

end RowTemplate
