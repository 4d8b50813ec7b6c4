import Mathlib.Data.List.TakeWhile
import Mathlib.Tactic.IntervalCases
import RowTemplate.Proofs.Span.Balanced

/-! # Spellings of tokens

Which words spell which token: the signs of marks, numerals, quotations,
keywords and names. What is read as a token spells it, and is no shorter than
any other spelling at the front of the text. A word spells one token at most.
-/

namespace RowTemplate

open Number (FitsWord ofDigits readInteger? readNatural? readWord? roundDecimal word?)
open Text (isDigit)

/-- The sign of a mark. -/
def Mark.sign : Mark → List Char
  | .plus => ['+']
  | .minus => ['-']
  | .star => ['*']
  | .slash => ['/']
  | .percent => ['%']
  | .eq => ['=', '=']
  | .strictEq => ['=', '=', '=']
  | .ne => ['!', '=']
  | .strictNe => ['!', '=', '=']
  | .lt => ['<']
  | .le => ['<', '=']
  | .gt => ['>']
  | .ge => ['>', '=']
  | .and => ['&', '&']
  | .or => ['|', '|']
  | .not => ['!']
  | .question => ['?']
  | .doubleQuestion => ['?', '?']
  | .colon => [':']
  | .dot => ['.']
  | .comma => [',']
  | .openParen => ['(']
  | .closeParen => [')']
  | .openBracket => ['[']
  | .closeBracket => [']']
  | .openBrace => ['{']
  | .closeBrace => ['}']

/-- The keywords with the tokens that they are. -/
def keywords : List (String × Token) :=
  [("true", .bool true), ("false", .bool false), ("null", .null), ("undefined", .null),
   ("this", .everything)]

/-- A numeral without a point. -/
structure IsNumeral (w : List Char) : Prop where
  nonempty : w ≠ []
  digits : ∀ c ∈ w, isDigit c = true

/-- A name or a keyword. -/
inductive IsWord : List Char → Prop
  | mk {c : Char} {w : List Char} : Token.beginsName c = true →
    (∀ d ∈ w, Token.continuesName d = true) → IsWord (c :: w)

/-- What the inside of a quotation denotes. -/
def unescaped : List Char → List Char
  | '\\' :: c :: s => Token.unescape c :: unescaped s
  | c :: s => c :: unescaped s
  | [] => []

/-- The word spells the token. -/
inductive Spelling : List Char → Token → Prop
  | mark (m : Mark) : Spelling m.sign (.mark m)
  | int {w : List Char} : IsNumeral w → ofDigits w < 2 ^ 63 →
    Spelling w (.int (Int64.ofNat (ofDigits w)))
  | large {w : List Char} : IsNumeral w → 2 ^ 63 ≤ ofDigits w →
    Spelling w (.float (roundDecimal (ofDigits w) 0))
  | decimal {w v : List Char} : IsNumeral w → IsNumeral v →
    Spelling (w ++ '.' :: v) (.float (roundDecimal (ofDigits (w ++ v)) (-v.length)))
  | string {quote : Char} {w : List Char} : isQuote quote = true → Quotation quote w →
    Spelling (quote :: w ++ [quote]) (.string (String.ofList (unescaped w)))
  | keyword {w : List Char} {t : Token} : (String.ofList w, t) ∈ keywords → Spelling w t
  | name {w : List Char} : IsWord w → (∀ t, (String.ofList w, t) ∉ keywords) →
    Spelling w (.name (String.ofList w))

namespace Token

variable {c : Char} {w s : List Char} {t : Token}

theorem single?_eq_some {m : Mark} (h : single? c = some m) : m.sign = [c] := by
  unfold single? at h
  split at h
  all_goals cases h; try rfl

theorem operator?_eq_some {m : Mark} {n : Nat} (h : operator? c s = some (.ok (m, n))) :
    ∃ w rest, s = w ++ rest ∧ n = w.length ∧ m.sign = c :: w := by
  have htake : m.sign = c :: s.take n ∧ n ≤ s.length := by
    unfold operator? at h
    split at h
    all_goals
      cases h
      try exact ⟨rfl, by simp⟩
  exact ⟨s.take n, s.drop n, by simp, by simp [htake.2], htake.1⟩

theorem isDigit_eq_false_of_beginsName (h : beginsName c = true) : isDigit c = false := by
  refine Bool.eq_false_iff.mpr fun hd => ?_
  simp only [isDigit, Bool.and_eq_true, decide_eq_true_eq] at hd
  have hlow : 48 ≤ c.toNat := UInt32.le_iff_toNat_le.mp hd.1
  have hhigh : c.toNat ≤ 57 := UInt32.le_iff_toNat_le.mp hd.2
  rw [← Char.ofNat_toNat c] at h
  generalize c.toNat = n at *
  interval_cases n <;> exact absurd h (by decide)

/-- The character begins a token that is no mark. -/
def beginsOther (c : Char) : Bool := isQuote c || isDigit c || beginsName c

theorem single?_eq_none (h : beginsOther c = true) : single? c = none := by
  unfold single?
  split
  all_goals first | rfl | exact absurd h (by decide)

theorem operator?_eq_none (h : beginsOther c = true) (s : List Char) : operator? c s = none := by
  unfold operator?
  split
  all_goals first | rfl | exact absurd h (by decide)

theorem first_quote (h : isQuote c = true) (s : List Char) :
    first c s =
      match stringBody? c s with
      | some (t, n) => .ok (.string (String.ofList t), n)
      | none => .error .unclosedString := by
  have hother : beginsOther c = true := by simp [beginsOther, h]
  have hquote : c = '\'' ∨ c = '"' := by simpa [isQuote] using h
  rw [first, single?_eq_none hother, operator?_eq_none hother]
  exact if_pos hquote

theorem first_digit (h : isDigit c = true) (s : List Char) :
    first c s = .ok
      (ofNumeral (c :: s.takeWhile isDigit) (fractionDigits (s.dropWhile isDigit)),
        (s.takeWhile isDigit).length +
          (if fractionDigits (s.dropWhile isDigit) = [] then 0 else 1) +
          (fractionDigits (s.dropWhile isDigit)).length) := by
  have hother : beginsOther c = true := by simp [beginsOther, h]
  have hquote : ¬ (c = '\'' ∨ c = '"') := by
    rintro (rfl | rfl) <;> exact absurd h (by decide)
  rw [first, single?_eq_none hother, operator?_eq_none hother]
  exact (if_neg hquote).trans (if_pos h)

theorem first_word (h : beginsName c = true) (s : List Char) :
    first c s = .ok
      (ofWord (String.ofList (c :: s.takeWhile continuesName)),
        (s.takeWhile continuesName).length) := by
  have hother : beginsOther c = true := by simp [beginsOther, h]
  have hquote : ¬ (c = '\'' ∨ c = '"') := by
    rintro (rfl | rfl) <;> exact absurd h (by decide)
  have hdigit : ¬ isDigit c = true := by simp [isDigit_eq_false_of_beginsName h]
  rw [first, single?_eq_none hother, operator?_eq_none hother]
  exact (if_neg hquote).trans ((if_neg hdigit).trans (if_pos h))

end Token

theorem unescaped_cons {c : Char} (hc : c ≠ '\\') (w : List Char) :
    unescaped (c :: w) = c :: unescaped w := by
  rw [unescaped]
  intro d t hd
  exact absurd hd hc

namespace Token

theorem stringBody?_cons {c quote : Char} (hc : c ≠ '\\') (s : List Char) :
    stringBody? quote (c :: s) =
      if c = quote then some ([], 1)
      else (stringBody? quote s).map fun (t, n) => (c :: t, n + 1) := by
  rw [stringBody?]
  intro d t hd
  exact absurd hd hc

theorem stringBody?_quotation {quote : Char} (hq : isQuote quote = true) {w : List Char}
    (hw : Quotation quote w) (rest : List Char) :
    stringBody? quote (w ++ quote :: rest) = some (unescaped w, w.length + 1) := by
  induction hw with
  | nil => rw [List.nil_append, stringBody?_cons (ne_backslash_of_isQuote hq), if_pos rfl]; rfl
  | plain hc hb _ ih =>
    rw [List.cons_append, stringBody?_cons hb, if_neg hc, ih, unescaped_cons hb]
    rfl
  | escaped _ ih =>
    rw [List.cons_append, List.cons_append, stringBody?, ih]
    rfl

theorem quotation_of_stringBody? {quote : Char} {s t : List Char} {n : Nat}
    (h : stringBody? quote s = some (t, n)) :
    ∃ w rest, s = w ++ quote :: rest ∧ Quotation quote w ∧ t = unescaped w ∧
      n = w.length + 1 := by
  fun_induction stringBody? quote s generalizing t n with
  | case1 => simp at h
  | case2 c s ih =>
    obtain ⟨⟨t', n'⟩, hb, heq⟩ := Option.map_eq_some_iff.mp h
    obtain ⟨rfl, rfl⟩ := Prod.mk.inj heq
    obtain ⟨w, rest, rfl, hw, rfl, rfl⟩ := ih hb
    exact ⟨'\\' :: c :: w, rest, rfl, hw.escaped, rfl, rfl⟩
  | case3 s =>
    obtain ⟨rfl, rfl⟩ := Prod.mk.inj (Option.some.inj h)
    exact ⟨[], s, rfl, .nil, rfl, rfl⟩
  | case4 c s hs hc ih =>
    obtain ⟨⟨t', n'⟩, hb, heq⟩ := Option.map_eq_some_iff.mp h
    obtain ⟨rfl, rfl⟩ := Prod.mk.inj heq
    have hbackslash : c ≠ '\\' := fun hd => by
      cases s with
      | nil => simp [stringBody?] at hb
      | cons d s => exact hs d s hd rfl
    obtain ⟨w, rest, rfl, hw, rfl, rfl⟩ := ih hb
    exact ⟨c :: w, rest, rfl, .plain hc hbackslash hw, (unescaped_cons hbackslash w).symm, rfl⟩

theorem readNatural?_numeral {w : List Char} (hw : IsNumeral w) :
    readNatural? w = some (ofDigits w) :=
  if_pos ⟨hw.nonempty, List.all_eq_true.mpr hw.digits⟩

theorem readInteger?_numeral {w : List Char} (hw : IsNumeral w) :
    readInteger? w = some (Int.ofNat (ofDigits w)) := by
  unfold readInteger?
  split
  case h_1 => exact absurd (hw.digits '-' List.mem_cons_self) (by decide)
  case h_2 => exact absurd (hw.digits '+' List.mem_cons_self) (by decide)
  case h_3 => exact congrArg (Option.map Int.ofNat) (readNatural?_numeral hw)

theorem readWord?_numeral {w : List Char} (hw : IsNumeral w) :
    readWord? w = if ofDigits w < 2 ^ 63 then some (Int64.ofNat (ofDigits w)) else none := by
  have hfits : FitsWord (ofDigits w) ↔ ofDigits w < 2 ^ 63 := by
    rw [FitsWord, Int64.toInt_minValue, Int64.toInt_maxValue]
    omega
  have hword : Int64.ofInt (ofDigits w) = Int64.ofNat (ofDigits w) := Int64.ofInt_eq_ofNat
  rw [readWord?, readInteger?_numeral hw, Option.bind_some, Int.ofNat_eq_natCast, word?, hword]
  exact if_congr hfits rfl rfl

theorem ofNumeral_nil {w : List Char} (hw : IsNumeral w) :
    ofNumeral w [] =
      if ofDigits w < 2 ^ 63 then .int (Int64.ofNat (ofDigits w))
      else .float (roundDecimal (ofDigits w) 0) := by
  rw [ofNumeral, readWord?_numeral hw]
  split <;> simp_all

theorem spelling_numeral {w : List Char} (hw : IsNumeral w) : Spelling w (ofNumeral w []) := by
  rw [ofNumeral_nil hw]
  split
  case isTrue h => exact .int hw h
  case isFalse h => exact .large hw (Nat.le_of_not_lt h)

theorem ofNumeral_fraction {v : List Char} (hv : IsNumeral v) (w : List Char) :
    ofNumeral w v = .float (roundDecimal (ofDigits (w ++ v)) (-v.length)) := by
  rw [ofNumeral]
  exact fun h => hv.nonempty h

theorem isNumeral_fractionDigits {s : List Char} (h : fractionDigits s ≠ []) :
    IsNumeral (fractionDigits s) ∧ ∃ rest, '.' :: fractionDigits s ++ rest = s := by
  unfold fractionDigits at *
  split at h
  case h_1 s =>
    refine ⟨⟨h, fun c hc => ?_⟩, s.dropWhile isDigit, by simp⟩
    exact List.mem_takeWhile_imp hc
  case h_2 => exact absurd rfl h

theorem ofWord_keyword {w : String} (h : (w, t) ∈ keywords) : ofWord w = t := by
  simp only [keywords, List.mem_cons, Prod.mk.injEq, List.not_mem_nil, or_false] at h
  rcases h with ⟨rfl, rfl⟩ | ⟨rfl, rfl⟩ | ⟨rfl, rfl⟩ | ⟨rfl, rfl⟩ | ⟨rfl, rfl⟩
  all_goals rfl

theorem ofWord_name {w : String} (h : ∀ t, (w, t) ∉ keywords) : ofWord w = .name w := by
  have hne {k : String} {t : Token} (hk : (k, t) ∈ keywords) : w ≠ k := by
    rintro rfl
    exact h t hk
  have htrue : w ≠ "true" := hne (t := .bool true) (by simp [keywords])
  have hfalse : w ≠ "false" := hne (t := .bool false) (by simp [keywords])
  have hnull : w ≠ "null" := hne (t := .null) (by simp [keywords])
  have hundefined : w ≠ "undefined" := hne (t := .null) (by simp [keywords])
  have hthis : w ≠ "this" := hne (t := .everything) (by simp [keywords])
  simp only [ofWord, htrue, hfalse, hnull, hundefined, hthis, or_self, if_false]

theorem isWord_keyword {w : List Char} (h : (String.ofList w, t) ∈ keywords) : IsWord w := by
  obtain ⟨k, hk⟩ : ∃ k : String, k = String.ofList w := ⟨_, rfl⟩
  have hw : w = k.toList := by rw [hk, String.toList_ofList]
  rw [← hk] at h
  subst hw
  simp only [keywords, List.mem_cons, Prod.mk.injEq, List.not_mem_nil, or_false] at h
  rcases h with ⟨rfl, -⟩ | ⟨rfl, -⟩ | ⟨rfl, -⟩ | ⟨rfl, -⟩ | ⟨rfl, -⟩
  all_goals exact .mk rfl (List.all_eq_true.mp rfl)

theorem spelling_word {w : List Char} (hw : IsWord w) : Spelling w (ofWord (String.ofList w)) := by
  by_cases h : ∃ t, (String.ofList w, t) ∈ keywords
  · obtain ⟨t, ht⟩ := h
    rw [ofWord_keyword ht]
    exact .keyword ht
  · have hname := not_exists.mp h
    rw [ofWord_name hname]
    exact .name hw hname

theorem spelling_of_first_digit (hc : isDigit c = true) {n : Nat} (h : first c s = .ok (t, n)) :
    ∃ w rest, s = w ++ rest ∧ n = w.length ∧ Spelling (c :: w) t := by
  have hwhole : IsNumeral (c :: s.takeWhile isDigit) :=
    ⟨by simp, fun d hd => (List.mem_cons.mp hd).elim (· ▸ hc) List.mem_takeWhile_imp⟩
  have hsplit := List.takeWhile_append_dropWhile (p := isDigit) (l := s)
  rw [first_digit hc] at h
  cases h
  by_cases hfraction : fractionDigits (s.dropWhile isDigit) = []
  · refine ⟨_, _, hsplit.symm, ?_, ?_⟩
    · simp [hfraction]
    · rw [hfraction]
      exact spelling_numeral hwhole
  · obtain ⟨hnumeral, rest, hrest⟩ := isNumeral_fractionDigits hfraction
    refine ⟨s.takeWhile isDigit ++ '.' :: fractionDigits (s.dropWhile isDigit), rest, ?_, ?_, ?_⟩
    · rw [List.append_assoc, hrest, hsplit]
    · simp only [if_neg hfraction, List.length_append, List.length_cons]
      omega
    · rw [ofNumeral_fraction hnumeral]
      exact .decimal hwhole hnumeral

/-- What is read as a token spells it. -/
theorem spelling_of_first {n : Nat} (h : first c s = .ok (t, n)) :
    ∃ w rest, s = w ++ rest ∧ n = w.length ∧ Spelling (c :: w) t := by
  by_cases hc : beginsOther c = true
  · by_cases hq : isQuote c = true
    · rw [first_quote hq] at h
      split at h
      case h_1 body m hbody =>
        cases h
        obtain ⟨w, rest, rfl, hw, rfl, rfl⟩ := quotation_of_stringBody? hbody
        exact ⟨w ++ [c], rest, by simp, by simp, .string hq hw⟩
      case h_2 => cases h
    · by_cases hd : isDigit c = true
      · exact spelling_of_first_digit hd h
      · have hname : beginsName c = true := by simpa [beginsOther, hq, hd] using hc
        have hword : IsWord (c :: s.takeWhile continuesName) :=
          .mk hname fun d hd => List.mem_takeWhile_imp hd
        rw [first_word hname] at h
        cases h
        exact ⟨_, _, List.takeWhile_append_dropWhile.symm, rfl, spelling_word hword⟩
  · simp only [beginsOther, Bool.or_eq_true, not_or] at hc
    obtain ⟨⟨hq, hd⟩, hname⟩ := hc
    have hquote : ¬ (c = '\'' ∨ c = '"') := by simpa [isQuote] using hq
    unfold first at h
    split at h
    case h_1 m hm =>
      cases h
      exact ⟨[], s, rfl, rfl, single?_eq_some hm ▸ .mark m⟩
    case h_2 =>
      split at h
      case h_1 result hr =>
        cases result with
        | error => cases h
        | ok read =>
          cases h
          obtain ⟨w, rest, hs, hn, hsign⟩ := operator?_eq_some hr
          exact ⟨w, rest, hs, hn, hsign ▸ .mark _⟩
      case h_2 =>
        rw [if_neg hquote, if_neg hd, if_neg hname] at h
        cases h

/-- At the front of a text that goes on with `w` a token is read that is no shorter, and that is
`t` if the text ends there. -/
def ReadsPast (c : Char) (w s : List Char) (t : Token) : Prop :=
  ∃ t' n, first c (w ++ s) = .ok (t', n) ∧ w.length ≤ n ∧ (s = [] → t' = t)

theorem operator?_of_sign {m : Mark} (h : m.sign = c :: w) (hc : single? c = none)
    (s : List Char) :
    ∃ m' n, operator? c (w ++ s) = some (.ok (m', n)) ∧ w.length ≤ n ∧ (s = [] → m' = m) := by
  cases m
  all_goals
    cases h
    first
    | exact absurd hc (by decide)
    | simp only [List.nil_append, List.cons_append]
      unfold operator?
      split
      all_goals grind

theorem readsPast_mark {m : Mark} (h : m.sign = c :: w) (s : List Char) :
    ReadsPast c w s (.mark m) := by
  cases hc : single? c with
  | some m' =>
    obtain ⟨rfl, rfl⟩ : w = [] ∧ m' = m := by
      cases m
      all_goals
        cases h
        cases hc <;> exact ⟨rfl, rfl⟩
    exact ⟨.mark m', 0, by rw [first, hc], Nat.le_refl _, fun _ => rfl⟩
  | none =>
    obtain ⟨m', n, hm, hn, heq⟩ := operator?_of_sign h hc s
    refine ⟨.mark m', n, ?_, hn, fun hs => by rw [heq hs]⟩
    rw [first, hc, hm]
    rfl

theorem readsPast_numeral (hw : IsNumeral (c :: w)) (s : List Char) :
    ReadsPast c w s (ofNumeral (c :: w) []) := by
  have hc := hw.digits c List.mem_cons_self
  have htail : ∀ d ∈ w, isDigit d = true := fun d hd => hw.digits d (List.mem_cons_of_mem c hd)
  refine ⟨_, _, first_digit hc (w ++ s), ?_, ?_⟩
  · rw [List.takeWhile_append_of_pos htail, List.length_append]
    omega
  · rintro rfl
    rw [List.takeWhile_append_of_pos htail, List.dropWhile_append_of_pos htail]
    simp [fractionDigits]

theorem readsPast_decimal (hw : IsNumeral (c :: w)) {v : List Char} (hv : IsNumeral v)
    (s : List Char) : ReadsPast c (w ++ '.' :: v) s (ofNumeral (c :: w) v) := by
  have hc := hw.digits c List.mem_cons_self
  have htail : ∀ d ∈ w, isDigit d = true := fun d hd => hw.digits d (List.mem_cons_of_mem c hd)
  have htake : ((w ++ '.' :: v) ++ s).takeWhile isDigit = w := by
    rw [List.append_assoc, List.takeWhile_append_of_pos htail]
    simp [isDigit]
  have hdrop : ((w ++ '.' :: v) ++ s).dropWhile isDigit = '.' :: (v ++ s) := by
    rw [List.append_assoc, List.dropWhile_append_of_pos htail]
    simp [isDigit]
  have hfraction : fractionDigits ('.' :: (v ++ s)) = v ++ s.takeWhile isDigit :=
    List.takeWhile_append_of_pos hv.digits
  have hne : v ++ s.takeWhile isDigit ≠ [] := fun h => hv.nonempty (List.append_eq_nil_iff.mp h).1
  refine ⟨_, _, first_digit hc _, ?_, ?_⟩
  · rw [htake, hdrop, hfraction, if_neg hne]
    simp only [List.length_append, List.length_cons]
    omega
  · rintro rfl
    rw [htake, hdrop, hfraction]
    simp

theorem readsPast_word (hw : IsWord (c :: w)) (s : List Char) :
    ReadsPast c w s (ofWord (String.ofList (c :: w))) := by
  cases hw with
  | mk hc htail =>
    refine ⟨_, _, first_word hc (w ++ s), ?_, ?_⟩
    · rw [List.takeWhile_append_of_pos htail, List.length_append]
      omega
    · rintro rfl
      rw [List.takeWhile_append_of_pos htail]
      simp

/-- A spelling at the front of a text is no longer than the token that is read there. -/
theorem readsPast_of_spelling (h : Spelling (c :: w) t) (s : List Char) : ReadsPast c w s t := by
  generalize hv : c :: w = v at h
  cases h with
  | mark m => exact readsPast_mark hv.symm s
  | int hw hlt =>
    subst hv
    have hread := readsPast_numeral hw s
    rwa [ofNumeral_nil hw, if_pos hlt] at hread
  | large hw hle =>
    subst hv
    have hread := readsPast_numeral hw s
    rwa [ofNumeral_nil hw, if_neg (Nat.not_lt_of_le hle)] at hread
  | @decimal v u hv' hu =>
    obtain ⟨d, v, rfl⟩ := List.exists_cons_of_ne_nil hv'.nonempty
    obtain ⟨rfl, rfl⟩ := List.cons.inj hv
    rw [← ofNumeral_fraction hu]
    exact readsPast_decimal hv' hu s
  | @string quote v hq hv' =>
    obtain ⟨rfl, rfl⟩ : c = quote ∧ w = v ++ [quote] := List.cons.inj hv
    refine ⟨_, v.length + 1, ?_, by simp, fun _ => rfl⟩
    rw [List.append_assoc, first_quote hq, List.cons_append, stringBody?_quotation hq hv']
  | keyword hk =>
    subst hv
    rw [← ofWord_keyword hk]
    exact readsPast_word (isWord_keyword hk) s
  | name hw hname =>
    subst hv
    rw [← ofWord_name hname]
    exact readsPast_word hw s

end Token

namespace Spelling

variable {c : Char} {w : List Char} {t t' : Token}

theorem ne_nil (h : Spelling w t) : w ≠ [] := by
  cases h with
  | mark m => cases m <;> simp [Mark.sign]
  | int hw => exact hw.nonempty
  | large hw => exact hw.nonempty
  | decimal => simp
  | string => simp
  | keyword hk => cases Token.isWord_keyword hk; simp
  | name hw => cases hw; simp

/-- A word spells one token at most. -/
theorem unique (h : Spelling w t) (h' : Spelling w t') : t = t' := by
  obtain ⟨c, w, rfl⟩ := List.exists_cons_of_ne_nil h.ne_nil
  obtain ⟨u, n, hread, -, hu⟩ := Token.readsPast_of_spelling h []
  obtain ⟨u', n', hread', -, hu'⟩ := Token.readsPast_of_spelling h' []
  rw [hread] at hread'
  cases hread'
  exact (hu rfl).symm.trans (hu' rfl)

end Spelling

end RowTemplate
