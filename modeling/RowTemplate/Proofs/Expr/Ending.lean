import Mathlib
import RowTemplate.Proofs.Expr.Acceptance

/-! # What an expression can end with

The tokens of a text are cut where it has a blank or a colon and no quotation
goes on behind it. The last two tokens of an expression are a colon and a name
only where the name is the alternative that the last condition is left with, and
without these two the tokens are no expression.
-/

namespace RowTemplate

open Grammar

/-! ### Where the tokens of a text are cut -/

section Cut

variable {c d : Char} {body tail s w : List Char} {t : Token} {ts : List Token} {name : String}

/-- The character ends any word that it is not in the quotation of. -/
def endsWord (c : Char) : Bool := Text.isBlank c || c = ':'

theorem not_endsWord_of_isDigit (h : Text.isDigit c = true) : endsWord c = false := by
  have hcolon : c ≠ ':' := by
    rintro rfl
    exact absurd h (by decide)
  simp [endsWord, not_isBlank_of_isDigit h, hcolon]

theorem not_endsWord_of_occursInName (h : occursInName c = true) : endsWord c = false := by
  have hcolon : c ≠ ':' := by
    rintro rfl
    exact absurd h (by decide)
  simp [endsWord, not_isBlank_of_occursInName h, hcolon]

/-- A word with a blank or with a colon behind its first character is a quotation. -/
theorem Spelling.getLast?_eq_quote (h : Spelling (c :: w) t) (hd : d ∈ w)
    (hend : endsWord d = true) :
    ∃ quote, (c :: w).getLast? = some quote ∧ isQuote quote = true := by
  generalize hword : c :: w = word at h
  have hmem : d ∈ word := hword ▸ List.mem_cons_of_mem c hd
  have hword' (hw : IsWord word) : endsWord d = false :=
    not_endsWord_of_occursInName (hw.forall_mem d hmem)
  cases h with
  | mark m =>
    have htail : m.sign.tail.all (!endsWord ·) = true := by cases m <;> rfl
    rw [← hword] at htail
    exact absurd hend (by simpa using List.all_eq_true.mp htail d hd)
  | int hw => exact absurd hend (by simp [not_endsWord_of_isDigit (hw.digits d hmem)])
  | large hw => exact absurd hend (by simp [not_endsWord_of_isDigit (hw.digits d hmem)])
  | decimal hw hv =>
    have hnot : endsWord d = false := by
      rcases List.mem_append.mp hmem with hmem | hmem
      · exact not_endsWord_of_isDigit (hw.digits d hmem)
      · rcases List.mem_cons.mp hmem with rfl | hmem
        · decide
        · exact not_endsWord_of_isDigit (hv.digits d hmem)
    exact absurd hend (by simp [hnot])
  | @string quote v hq hv => exact ⟨quote, List.getLast?_concat, hq⟩
  | keyword hk => exact absurd hend (by simp [hword' (Token.isWord_keyword hk)])
  | name hw => exact absurd hend (by simp [hword' hw])

theorem Longest.of_append {v : List Char} (h : Longest (s ++ v) w t) (hw : w <+: s) :
    Longest s w t where
  spells := h.spells
  starts := hw
  longest u t' hu hus := h.longest u t' hu (hus.trans (List.prefix_append s v))

/-- No word goes on into a tail that begins with a blank or a colon and has no quotes. -/
theorem Longest.append_of_endsWord (hhead : ∀ c ∈ tail.head?, endsWord c = true)
    (hquote : ∀ c ∈ tail, isQuote c = false) (h : Longest (c :: w ++ s) (c :: w) t)
    (htext : body ++ tail = w ++ s) : ∃ rest, body = w ++ rest ∧ s = rest ++ tail := by
  rcases List.append_eq_append_iff.mp htext with ⟨rest, hw, htail⟩ | hwithin
  · cases rest with
    | nil => exact ⟨[], by simp [hw], htail.symm⟩
    | cons e rest =>
      subst htail
      have hend := hhead e rfl
      obtain ⟨quote, hlast, hq⟩ := h.spells.getLast?_eq_quote (d := e) (by simp [hw]) hend
      have hmem : quote ∈ e :: rest := by
        rw [hw, ← List.cons_append, List.getLast?_append] at hlast
        exact List.mem_of_getLast? (by simpa using hlast)
      rw [hquote quote (List.mem_append_left _ hmem)] at hq
      exact absurd hq Bool.false_ne_true
  · exact hwithin

/-- The tokens of a text are cut where such a tail begins. -/
theorem Splits.cut (hhead : ∀ c ∈ tail.head?, endsWord c = true)
    (hquote : ∀ c ∈ tail, isQuote c = false) (h : Splits (body ++ tail) ts) :
    ∃ us vs, ts = us ++ vs ∧ Splits body us ∧ Splits tail vs := by
  generalize htext : body ++ tail = text at h
  induction h generalizing body with
  | done =>
    obtain ⟨rfl, rfl⟩ := List.append_eq_nil_iff.mp htext
    exact ⟨[], [], rfl, .done, .done⟩
  | @blank c s ts hc hs ih =>
    cases body with
    | nil =>
      obtain rfl : tail = c :: s := htext
      exact ⟨[], ts, rfl, .done, .blank hc hs⟩
    | cons d body =>
      obtain ⟨rfl, hbody⟩ := List.cons.inj htext
      obtain ⟨us, vs, rfl, hus, hvs⟩ := ih hbody
      exact ⟨us, vs, rfl, .blank hc hus, hvs⟩
  | @token c w s t ts hc hlong hs ih =>
    cases body with
    | nil =>
      obtain rfl : tail = c :: w ++ s := htext
      exact ⟨[], t :: ts, rfl, .done, .token hc hlong hs⟩
    | cons d body =>
      obtain ⟨rfl, hbody⟩ := List.cons.inj htext
      obtain ⟨rest, rfl, rfl⟩ := hlong.append_of_endsWord hhead hquote hbody
      obtain ⟨us, vs, rfl, hus, hvs⟩ := ih rfl
      have hshort : Longest (d :: w ++ rest) (d :: w) t := by
        refine Longest.of_append (v := tail) ?_ (List.prefix_append _ _)
        rwa [List.append_assoc]
      exact ⟨t :: us, vs, rfl, .token hc hshort hus, hvs⟩

theorem splits_blanks_append_iff {blanks : List Char}
    (h : ∀ c ∈ blanks, Text.isBlank c = true) : Splits (blanks ++ s) ts ↔ Splits s ts := by
  induction blanks with
  | nil => exact Iff.rfl
  | cons c blanks ih =>
    obtain ⟨hc, hblanks⟩ := List.forall_mem_cons.mp h
    rw [List.cons_append, Splits.blank_iff hc, ih hblanks]

theorem not_isQuote_of_isBlank (h : Text.isBlank c = true) : isQuote c = false := by
  by_contra hquote
  rw [not_isBlank_of_isQuote (by simpa using hquote)] at h
  exact Bool.false_ne_true h

theorem not_isQuote_of_occursInName (h : occursInName c = true) : isQuote c = false := by
  refine Bool.eq_false_iff.mpr fun hquote => ?_
  have hc : c = '\'' ∨ c = '"' := by simpa [isQuote] using hquote
  rcases hc with rfl | rfl <;> exact absurd h (by decide)

theorem endsWord_of_isBlank (h : Text.isBlank c = true) : endsWord c = true := by
  simp [endsWord, h]

/-- The tokens of a text that ends with a colon and a name directly behind it. -/
theorem Splits.cut_name {blanks blanks' : List Char} (hname : IsWord name.toList)
    (hkey : ∀ t, (name, t) ∉ keywords) (hblanks : ∀ c ∈ blanks, Text.isBlank c = true)
    (hblanks' : ∀ c ∈ blanks', Text.isBlank c = true)
    (h : Splits (body ++ (blanks ++ ':' :: (name.toList ++ blanks'))) ts) :
    ∃ us, Splits body us ∧ ts = us ++ [.mark .colon, .name name] := by
  have hquote' : ∀ c ∈ blanks', isQuote c = false := fun c hc =>
    not_isQuote_of_isBlank (hblanks' c hc)
  have hquote : ∀ c ∈ blanks ++ ':' :: (name.toList ++ blanks'), isQuote c = false := by
    simp only [List.forall_mem_append, List.forall_mem_cons]
    exact ⟨fun c hc => not_isQuote_of_isBlank (hblanks c hc), rfl,
      fun c hc => not_isQuote_of_occursInName (hname.forall_mem c hc), hquote'⟩
  have hhead : ∀ c ∈ (blanks ++ ':' :: (name.toList ++ blanks')).head?, endsWord c = true := by
    cases blanks with
    | nil =>
      rintro c ⟨⟩
      decide
    | cons d blanks =>
      rintro c ⟨⟩
      exact endsWord_of_isBlank (hblanks _ List.mem_cons_self)
  obtain ⟨us, vs, rfl, hus, hvs⟩ := h.cut hhead hquote
  refine ⟨us, hus, ?_⟩
  have hcolon : Token.first ':' (name.toList ++ blanks') = .ok (.mark .colon, 0) := rfl
  rw [splits_blanks_append_iff hblanks, Splits.cons_iff (by decide) hcolon] at hvs
  obtain ⟨ws, rfl, hws⟩ := hvs
  obtain ⟨us', vs', rfl, hus', hvs'⟩ := Splits.cut
    (fun c hc => endsWord_of_isBlank (hblanks' c (List.mem_of_head? hc))) hquote' hws
  obtain rfl := hus'.unique (splits_name hname hkey)
  obtain rfl : vs' = [] := by
    rwa [← List.append_nil blanks', splits_blanks_append_iff hblanks', Splits.nil_iff] at hvs'
  rfl

end Cut

/-! ### The last tokens of an expression -/

/-- The expression is a condition, and the name is the alternative that its last condition is left
with. -/
inductive Expr.EndsInElse (name : String) : Expr → Prop
  | here (condition yes : Expr) : EndsInElse name (.ternary condition yes (.name name))
  | further (condition yes : Expr) {no : Expr} : EndsInElse name no →
    EndsInElse name (.ternary condition yes no)

namespace Grammar

/-- What is denoted ends in the name, for the symbols where it can. -/
def Symbol.EndsInElse (name : String) : (sym : Symbol) → sym.Value → Prop
  | .ternary, e => Expr.EndsInElse name e
  | _, _ => False

namespace Derivation

variable {sym sym' : Symbol} {name : String} {m : Mark} {t p : Token} {ts us : List Token}

theorem suffix_mark (us : List Token) (h : [t, .name name] <:+ us ++ .mark m :: ts) :
    [t, .name name] <:+ .mark m :: ts := by
  cases ts with
  | nil =>
    obtain ⟨vs, hvs⟩ := h
    have hlast := congrArg List.getLast? hvs
    simp at hlast
  | cons t' ts =>
    exact List.suffix_of_suffix_length_le h (List.suffix_append _ _) (by simp)

theorem not_suffix_closed (us : List Token) : ¬ [t, .name name] <:+ us ++ [.mark m] := fun h => by
  have hlength := (suffix_mark us h).length_le
  simp at hlength

/-- Where a token and the tokens of the derivation behind it end with a colon and the name, the name
is all of the derivation, or it is the alternative of a last condition. -/
def ClosesWith (name : String) (d : Derivation sym) : Prop :=
  ∀ p, [.mark .colon, .name name] <:+ p :: d.yield →
    p = .mark .colon ∧ d.yield = [.name name] ∨ sym.EndsInElse name d.value

/-- Of an expression and what goes on with it, the first is what closes with the name. -/
theorem ClosesWith.append {e : Derivation sym} {more : Derivation sym'}
    (he : e.ClosesWith name) (hmore : more.ClosesWith name)
    (hsym : ∀ v, ¬ sym'.EndsInElse name v)
    (hbegins : more.yield = [] ∨ ∃ m us, more.yield = .mark m :: us)
    (h : [.mark .colon, .name name] <:+ p :: (e.yield ++ more.yield)) :
    p = .mark .colon ∧ e.yield ++ more.yield = [.name name] ∨ sym.EndsInElse name e.value := by
  rcases hbegins with hnil | ⟨m, us, hm⟩
  · rw [hnil, List.append_nil] at h ⊢
    exact he p h
  · rw [hm, ← List.cons_append] at h
    have hsuffix := (suffix_mark _ h).trans (List.suffix_cons (.mark .comma) _)
    rw [← hm] at hsuffix
    rcases hmore _ hsuffix with ⟨hcomma, -⟩ | hv
    · cases hcomma
    · exact absurd hv (hsym _)

/-- Nothing behind a mark other than a colon closes with the name, but for an alternative. -/
theorem ClosesWith.mark {e : Derivation sym} (he : e.ClosesWith name) (us : List Token)
    (hm : m ≠ .colon) (hsym : ∀ v, ¬ sym.EndsInElse name v) :
    ¬ [.mark .colon, .name name] <:+ us ++ .mark m :: e.yield := fun h => by
  rcases he _ (suffix_mark us h) with ⟨hcolon, -⟩ | hv
  · exact hm (Token.mark.inj hcolon)
  · exact hsym _ hv

theorem ClosesWith.mark_append {e : Derivation sym} {more : Derivation sym'}
    (he : e.ClosesWith name) (hmore : more.ClosesWith name) (us : List Token) (hm : m ≠ .colon)
    (hsym : ∀ v, ¬ sym.EndsInElse name v) (hsym' : ∀ v, ¬ sym'.EndsInElse name v)
    (hbegins : more.yield = [] ∨ ∃ m us, more.yield = .mark m :: us) :
    ¬ [.mark .colon, .name name] <:+ us ++ .mark m :: (e.yield ++ more.yield) := fun h => by
  rcases he.append hmore hsym' hbegins (suffix_mark us h) with ⟨hcolon, -⟩ | hv
  · exact hm (Token.mark.inj hcolon)
  · exact hsym _ hv

theorem alternatives_begin (d : Derivation .alternatives) :
    d.yield = [] ∨ ∃ m us, d.yield = .mark m :: us := by
  cases d with
  | noAlternative => exact .inl rfl
  | alternative => exact .inr ⟨_, _, rfl⟩

theorem operations_begin {k : Nat} (d : Derivation (.operations k)) :
    d.yield = [] ∨ ∃ m us, d.yield = .mark m :: us := by
  cases d with
  | noOperation => exact .inl rfl
  | operation => exact .inr ⟨_, _, rfl⟩

theorem access_begin (d : Derivation .access) :
    d.yield = [] ∨ ∃ m us, d.yield = .mark m :: us := by
  cases d with
  | noAccess => exact .inl rfl
  | member => exact .inr ⟨_, _, rfl⟩
  | method => exact .inr ⟨_, _, rfl⟩
  | element => exact .inr ⟨_, _, rfl⟩

theorem eq_of_suffix_pair {x y : Token} (h : [t, .name name] <:+ [x, y]) :
    x = t ∧ y = .name name := by
  obtain ⟨ht, hn⟩ := List.cons.inj (h.eq_of_length rfl)
  exact ⟨ht.symm, (List.cons.inj hn).1.symm⟩

theorem closesWith_name (n : String) : (Derivation.name n).ClosesWith name := by
  intro p h
  obtain ⟨rfl, hn⟩ := eq_of_suffix_pair h
  exact .inl ⟨rfl, congrArg (· :: []) hn⟩

theorem closesWith_of_not {d : Derivation sym}
    (h : ∀ p, ¬ [.mark .colon, .name name] <:+ p :: d.yield) : d.ClosesWith name :=
  fun p hp => absurd hp (h p)

theorem ClosesWith.conditional {c : Derivation .coalesced} {y n : Derivation .ternary}
    (ihn : n.ClosesWith name) : (conditional c y n).ClosesWith name := by
  intro p h
  refine .inr ?_
  have hcut : [.mark .colon, .name name] <:+
      (p :: c.yield ++ .mark .question :: y.yield) ++ .mark .colon :: n.yield := by
    simpa using h
  rcases ihn _ (suffix_mark _ hcut) with ⟨-, hn⟩ | hn
  · have hyield : n.yield ++ [] = (single (.name name)).yield ++ [] := by simpa using hn
    obtain ⟨rfl, -⟩ := n.isUnique (.single (.name name)) hyield (.nil _) (.nil _)
    exact .here c.value y.value
  · exact .further c.value y.value hn

theorem closesWith (d : Derivation sym) (name : String) : d.ClosesWith name := by
  induction d with
  | plain e ihe =>
    intro p h
    exact (ihe p h).imp_right False.elim
  | conditional c y n _ _ ihn => exact ihn.conditional
  | coalesced e more ihe ihm =>
    intro p h
    exact ihe.append ihm (fun _ => id) more.alternatives_begin h
  | noAlternative => exact closesWith_of_not fun p h => absurd h.length_le (by simp)
  | alternative e more ihe ihm =>
    exact closesWith_of_not fun p =>
      ihe.mark_append ihm [p] (by simp) (fun _ => id) (fun _ => id) more.alternatives_begin
  | level _ left more ihl ihm =>
    intro p h
    exact ihl.append ihm (fun _ => id) more.operations_begin h
  | closest e ihe => exact fun p h => ihe p h
  | noOperation => exact closesWith_of_not fun p h => absurd h.length_le (by simp)
  | @operation k m _ hj right more ihr ihm =>
    have hm : m ≠ .colon := by
      rintro rfl
      cases hj
    exact closesWith_of_not fun p =>
      ihr.mark_append ihm [p] hm (fun _ => id) (fun _ => id) more.operations_begin
  | @prefixed m _ hp e ihe =>
    have hm : m ≠ .colon := by
      rintro rfl
      cases hp
    exact closesWith_of_not fun p => ihe.mark [p] hm (fun _ => id)
  | unprefixed e ihe => exact fun p h => ihe p h
  | accesses e more ihe ihm =>
    intro p h
    exact ihe.append ihm (fun _ => id) more.access_begin h
  | noAccess => exact closesWith_of_not fun p h => absurd h.length_le (by simp)
  | member n more ihm =>
    exact closesWith_of_not fun p =>
      (closesWith_name n).mark_append ihm [p] (by simp) (fun _ => id) (fun _ => id)
        more.access_begin
  | method n args more iha ihm =>
    exact closesWith_of_not fun p =>
      iha.mark_append ihm [p, .mark .dot, .name n] (by simp) (fun _ => id) (fun _ => id)
        more.access_begin
  | element property more ihp ihm =>
    exact closesWith_of_not fun p =>
      ihm.mark (p :: .mark .openBracket :: property.yield) (by simp) (fun _ => id)
  | grouped e ihe =>
    exact closesWith_of_not fun p => not_suffix_closed (p :: .mark .openParen :: e.yield)
  | literal hl =>
    refine closesWith_of_not fun p h => ?_
    obtain ⟨-, rfl⟩ := eq_of_suffix_pair h
    cases hl
  | everything =>
    exact closesWith_of_not fun p h => absurd (eq_of_suffix_pair h).2 (by simp)
  | name n => exact closesWith_name n
  | call n args iha =>
    exact closesWith_of_not fun p => iha.mark [p, .name n] (by simp) (fun _ => id)
  | array es ihe => exact closesWith_of_not fun p => ihe.mark [p] (by simp) (fun _ => id)
  | object fs ihf => exact closesWith_of_not fun p => ihf.mark [p] (by simp) (fun _ => id)
  | noItem => exact closesWith_of_not fun p => not_suffix_closed [p]
  | lastItem e ihe => exact closesWith_of_not fun p => not_suffix_closed (p :: e.yield)
  | item e more ihe ihm =>
    exact closesWith_of_not fun p => ihm.mark (p :: e.yield) (by simp) (fun _ => id)
  | noField => exact closesWith_of_not fun p => not_suffix_closed [p]
  | @lastField t _ hk e ihe =>
    exact closesWith_of_not fun p => not_suffix_closed (p :: t :: .mark .colon :: e.yield)
  | @field t _ hk e more ihe ihm =>
    exact closesWith_of_not fun p =>
      ihm.mark (p :: t :: .mark .colon :: e.yield) (by simp) (fun _ => id)

end Derivation

end Grammar

/-- An expression that ends with a colon and a name directly behind it has the name as a last
alternative, and what stands before the colon is no expression. -/
theorem endsInElse_of_parse {name text : String} {body blanks blanks' : List Char} {e : Expr}
    (hname : IsWord name.toList) (hkey : ∀ t, (name, t) ∉ keywords)
    (hblanks : ∀ c ∈ blanks, Text.isBlank c = true)
    (hblanks' : ∀ c ∈ blanks', Text.isBlank c = true)
    (htext : text.toList = body ++ (blanks ++ ':' :: (name.toList ++ blanks')))
    (h : Expr.parse text = .ok e) :
    e.EndsInElse name ∧ ∃ error, Expr.parse (String.ofList body) = .error error := by
  obtain ⟨d, hsplits, rfl⟩ := parse_eq_ok_iff.mp h
  rw [htext] at hsplits
  obtain ⟨us, hus, hyield⟩ := hsplits.cut_name hname hkey hblanks hblanks'
  constructor
  · have hsuffix : [.mark .colon, .name name] <:+ .mark .comma :: d.yield := by
      rw [hyield, ← List.cons_append]
      exact List.suffix_append _ _
    rcases d.closesWith name _ hsuffix with ⟨hcomma, -⟩ | hv
    · cases hcomma
    · exact hv
  · -- Neither of two derivations could go on with a colon, so the tokens would be the same.
    rcases hparse : Expr.parse (String.ofList body) with error | e'
    · exact ⟨error, rfl⟩
    · obtain ⟨d', hsplits', -⟩ := parse_eq_ok_iff.mp hparse
      rw [String.toList_ofList] at hsplits'
      obtain rfl := hus.unique hsplits'
      have htokens : d.yield ++ [] = d'.yield ++ [.mark .colon, .name name] := by simpa using hyield
      have hnil := (d.isUnique d' htokens (.nil _) (.of_none rfl)).2
      cases hnil

end RowTemplate
