import Mathlib.Data.List.Infix
import RowTemplate.Proofs.Directive.Condition
import RowTemplate.Proofs.Span.Verbatim
import RowTemplate.Proofs.Text.Blank

/-! # Keys of directives

A directive can be written as a key, from which it is read again with its
expression, pattern or text as it stands. The forms of a key begin with
different words, so that it does not matter in which order they are tried.
-/

namespace RowTemplate

namespace Directive

open Text (isBlank isWord trimLeft trim IsTrimmed)

variable {c : Char} {s v e p t body : List Char} {d : Directive}

/-! ### Names -/

/-- The name of a variable: an ASCII letter or an underscore, and word characters behind it. -/
def IsVariable (v : List Char) : Prop :=
  ∃ c s, v = c :: s ∧ beginsVariable c = true ∧ ∀ d ∈ s, isWord d = true

/-- A character that the name of a variable may have. -/
def inVariable (c : Char) : Bool := beginsVariable c || isWord c

theorem IsVariable.inVariable (h : IsVariable v) : ∀ c ∈ v, inVariable c = true := by
  obtain ⟨c, s, rfl, hc, hs⟩ := h
  refine List.forall_mem_cons.mpr ⟨by simp [Directive.inVariable, hc], fun d hd => ?_⟩
  simp [Directive.inVariable, hs d hd]

theorem not_isBlank_of_inVariable (h : inVariable c = true) : isBlank c = false :=
  Text.not_isBlank_of (by decide +kernel) h

theorem IsVariable.isPlain (h : IsVariable v) : ∀ c ∈ v, isPlain c = true := fun c hc =>
  isPlain_of (h.inVariable c hc) (by decide) (by decide) (by decide)
    (by decide)

theorem varName?_append (h : IsVariable v) (hs : ∀ c ∈ s.head?, isWord c = false) :
    varName? (v ++ s) = some (v, s) := by
  obtain ⟨c, w, rfl, hc, hw⟩ := h
  have htake : s.takeWhile isWord = [] ∧ s.dropWhile isWord = s := by
    cases s with
    | nil => exact ⟨rfl, rfl⟩
    | cons d s => simp [hs d rfl]
  rw [List.cons_append, varName?, if_pos hc, List.takeWhile_append_of_pos hw,
    List.dropWhile_append_of_pos hw, htake.1, htake.2, List.append_nil]

theorem isVariable_of_varName? (h : varName? s = some (v, t)) : IsVariable v := by
  cases s with
  | nil => cases h
  | cons c s =>
    cases hc : beginsVariable c with
    | false => simp [varName?, hc] at h
    | true =>
      obtain ⟨rfl, -⟩ : c :: s.takeWhile isWord = v ∧ s.dropWhile isWord = t := by
        simpa [varName?, hc] using h
      exact ⟨c, _, rfl, hc, fun d hd => List.mem_takeWhile_imp hd⟩

theorem isVariable_of_named? (h : named? s = some (v, e)) : IsVariable v := by
  obtain ⟨⟨name, t⟩, hname, h⟩ := Option.bind_eq_some_iff.mp h
  obtain ⟨u, -, h⟩ := Option.bind_eq_some_iff.mp h
  obtain ⟨rfl, -⟩ := Prod.mk.inj (Option.some.inj h)
  exact isVariable_of_varName? hname

theorem named?_append (h : IsVariable v) (e : List Char) :
    named? (v ++ ':' :: e) = some (v, e) := by
  have hname : varName? (v ++ ':' :: e) = some (v, ':' :: e) :=
    varName?_append h fun c hc => Option.some.inj hc ▸ by decide
  have hcolon : afterColon? (':' :: e) = some e := rfl
  simp [named?, hname, hcolon]

/-! ### Forms -/

theorem afterBlanks?_space (h : ∀ c ∈ s.head?, isBlank c = false) :
    afterBlanks? (' ' :: s) = some s :=
  congrArg some (Text.trimLeft_of_head? h)

theorem IsVariable.head?_append (h : IsVariable v) (s : List Char) :
    ∀ c ∈ (v ++ s).head?, isBlank c = false := by
  obtain ⟨c, w, rfl, hc, -⟩ := h
  rintro _ ⟨⟩
  exact not_isBlank_of_inVariable (by simp [Directive.inVariable, hc])

/-- The word `column` in front of a colon, or as the beginning of a longer name, is no word of its
own. -/
theorem columnLoop?_append (h : IsVariable v) (e : List Char) :
    columnLoop? (v ++ ':' :: e) = none := by
  cases hword : afterWord? "column".toList (v ++ ':' :: e) with
  | none =>
    rw [columnLoop?, hword]
    rfl
  | some s =>
    have hs : ∃ c u, s = c :: u ∧ isBlank c = false := by
      rcases List.append_eq_append_iff.mp (eq_append_of_afterWord? hword) with
        ⟨u, hcolumn, heq⟩ | ⟨u, rfl, rfl⟩
      · cases u with
        | nil => exact ⟨':', e, heq.symm, by decide⟩
        | cons c u =>
          obtain ⟨rfl, -⟩ := List.cons.inj heq
          have hmem : ':' ∈ "column".toList := hcolumn ▸ by simp
          exact absurd hmem (by decide)
      · cases u with
        | nil => exact ⟨':', e, rfl, by decide⟩
        | cons c u => exact ⟨c, _, rfl, not_isBlank_of_inVariable (h.inVariable c (by simp))⟩
    obtain ⟨c, u, rfl, hc⟩ := hs
    rw [columnLoop?, hword]
    simp [afterBlanks?, hc]

theorem loop?_expression (h : IsVariable v) (e : List Char) :
    loop? ("for ".toList ++ (v ++ ':' :: e)) =
      some (.loop (String.ofList v) (.expression (String.ofList e))) := by
  have hword : afterWord? "for".toList ("for ".toList ++ (v ++ ':' :: e)) =
      some (' ' :: (v ++ ':' :: e)) := rfl
  rw [loop?, hword]
  simp [afterBlanks?_space (h.head?_append _), columnLoop?_append h, named?_append h]

theorem loop?_columns (h : IsVariable v) (hp : IsTrimmed p) :
    loop? ("for column ".toList ++ (v ++ ':' :: p)) =
      some (.loop (String.ofList v) (.columns (String.ofList p))) := by
  have hfor : afterWord? "for".toList ("for column ".toList ++ (v ++ ':' :: p)) =
      some (' ' :: ("column ".toList ++ (v ++ ':' :: p))) := rfl
  have hblanks : afterBlanks? (' ' :: ("column ".toList ++ (v ++ ':' :: p))) =
      some ("column ".toList ++ (v ++ ':' :: p)) := rfl
  have hcolumn : afterWord? "column".toList ("column ".toList ++ (v ++ ':' :: p)) =
      some (' ' :: (v ++ ':' :: p)) := rfl
  have hloop : columnLoop? ("column ".toList ++ (v ++ ':' :: p)) =
      some (.loop (String.ofList v) (.columns (String.ofList p))) := by
    rw [columnLoop?, hcolumn]
    simp [afterBlanks?_space (h.head?_append _), named?_append h, hp.trim_eq]
  rw [loop?, hfor, Option.bind_eq_bind, Option.bind_some, hblanks, Option.bind_eq_bind,
    Option.bind_some, hloop]
  rfl

theorem isVariable_of_columnLoop? {name : String} {source : LoopSource}
    (h : columnLoop? s = some (.loop name source)) : IsVariable name.toList := by
  simp only [columnLoop?, bind, Option.bind_eq_some_iff] at h
  obtain ⟨_, _, _, _, ⟨v, p⟩, hnamed, h⟩ := h
  obtain ⟨rfl, -⟩ := Directive.loop.inj (Option.some.inj h)
  rw [String.toList_ofList]
  exact isVariable_of_named? hnamed

/-- What a loop runs its values through is a variable. -/
theorem isVariable_of_loop? {name : String} {source : LoopSource}
    (h : loop? body = some (.loop name source)) : IsVariable name.toList := by
  simp only [loop?, bind, Option.bind_eq_some_iff] at h
  obtain ⟨_, _, t, _, h⟩ := h
  cases hc : columnLoop? t with
  | some d =>
    simp only [hc] at h
    obtain rfl := Option.some.inj h
    exact isVariable_of_columnLoop? hc
  | none =>
    simp only [hc, Option.bind_eq_some_iff] at h
    obtain ⟨⟨v, e⟩, hnamed, h⟩ := h
    obtain ⟨rfl, -⟩ := Directive.loop.inj (Option.some.inj h)
    rw [String.toList_ofList]
    exact isVariable_of_named? hnamed

theorem branch?_ifTrue (e : List Char) :
    branch? ("if:".toList ++ e) = some (.branch (.ifTrue (String.ofList e))) := rfl

theorem branch?_elseIf (e : List Char) :
    branch? ("else if:".toList ++ e) = some (.branch (.elseIf (String.ofList e))) := rfl

theorem var?_name (h : IsVariable v) :
    var? ("var ".toList ++ v) = some (.var (String.ofList v)) := by
  have hword : afterWord? "var".toList ("var ".toList ++ v) = some (' ' :: v) := rfl
  have hname : varName? v = some (v, []) := by
    simpa using varName?_append h (s := []) nofun
  have hblanks : afterBlanks? (' ' :: v) = some v :=
    afterBlanks?_space (by simpa using h.head?_append [])
  rw [var?, hword]
  simp only [Option.bind_eq_bind, Option.bind_some, hblanks, hname]
  rfl

theorem error?_text (ht : IsTrimmed t) (hne : t ≠ []) :
    error? ("error ".toList ++ t) = some (.error (some (String.ofList t))) := by
  have hword : afterWord? "error".toList ("error ".toList ++ t) = some (' ' :: t) := by
    have hsplit : "error ".toList ++ t = "error".toList ++ ' ' :: t := rfl
    rw [hsplit, afterWord?_append]
  have hblank : isBlank ' ' = true := by decide
  cases t with
  | nil => exact absurd rfl hne
  | cons c t =>
    rw [error?, hword]
    simp [hblank, ht.trim_eq]

/-- The forms of a key, each with the words that it begins with. -/
def openings : List ((List Char → Option Directive) × List String) :=
  [(loop?, ["for"]), (branch?, ["else", "if"]), (var?, ["var"]), (error?, ["error"])]

/-- The forms of a key in the order in which they are tried. -/
def forms : List (List Char → Option Directive) := openings.map Prod.fst

theorem prefix_of_afterWord? {word : List Char} (h : afterWord? word body = some t) :
    word <+: body :=
  ⟨t, (eq_append_of_afterWord? h).symm⟩

theorem prefix_of_bind {α : Type} {word : List Char} {rest : List Char → Option α} {a : α}
    (h : (afterWord? word body).bind rest = some a) : word <+: body := by
  obtain ⟨t, ht, -⟩ := Option.bind_eq_some_iff.mp h
  exact prefix_of_afterWord? ht

theorem prefix_of_isElse (h : isElse body = true) : "else".toList <+: body := by
  unfold isElse at h
  split at h
  · exact prefix_of_afterWord? ‹_›
  · exact prefix_of_afterWord? ‹_›
  · cases h

theorem prefix_of_branch? (h : branch? body = some d) :
    "else".toList <+: body ∨ "if".toList <+: body := by
  unfold branch? at h
  split at h
  case h_1 helse => exact .inl (prefix_of_bind helse)
  case h_2 =>
    split at h
    case h_1 hif => exact .inr (prefix_of_bind hif)
    case h_2 =>
      split at h
      case isTrue helse => exact .inl (prefix_of_isElse helse)
      case isFalse => cases h

theorem exists_word_of_form {f : List Char → Option Directive} {words : List String}
    (hf : (f, words) ∈ openings) (h : f body = some d) : ∃ w ∈ words, w.toList <+: body := by
  simp only [openings, List.mem_cons, List.not_mem_nil, or_false, Prod.mk.injEq] at hf
  rcases hf with ⟨rfl, rfl⟩ | ⟨rfl, rfl⟩ | ⟨rfl, rfl⟩ | ⟨rfl, rfl⟩
  · exact ⟨"for", by simp, prefix_of_bind h⟩
  · simpa using prefix_of_branch? h
  · exact ⟨"var", by simp, prefix_of_bind h⟩
  · exact ⟨"error", by simp, prefix_of_bind h⟩

/-- No word of a form begins with a word of another. -/
theorem openings_pairwise :
    openings.Pairwise fun a b => ∀ w ∈ a.2, ∀ u ∈ b.2,
      ¬ w.toList <+: u.toList ∧ ¬ u.toList <+: w.toList := by
  decide

/-- No body has two forms. -/
theorem forms_pairwise (body : List Char) :
    forms.Pairwise fun f g => f body = none ∨ g body = none := by
  refine List.pairwise_map.mpr (openings_pairwise.imp_of_mem fun {a b} ha hb h => ?_)
  cases hf : a.1 body with
  | none => exact .inl rfl
  | some d =>
    cases hg : b.1 body with
    | none => exact .inr rfl
    | some d' =>
      obtain ⟨w, hw, hwbody⟩ := exists_word_of_form ha hf
      obtain ⟨u, hu, hubody⟩ := exists_word_of_form hb hg
      rcases List.prefix_or_prefix_of_prefix hwbody hubody with hwu | huw
      · exact absurd hwu (h w hw u hu).1
      · exact absurd huw (h w hw u hu).2

theorem findSome?_eq_some_iff {order : List (List Char → Option Directive)}
    (h : order.Pairwise fun f g => f body = none ∨ g body = none) :
    order.findSome? (· body) = some d ↔ ∃ f ∈ order, f body = some d := by
  refine ⟨List.exists_of_findSome?_eq_some, fun hform => ?_⟩
  induction h with
  | nil =>
    obtain ⟨_, hmem, _⟩ := hform
    cases hmem
  | @cons g order hg _ ih =>
    obtain ⟨f, hf, hd⟩ := hform
    rcases List.mem_cons.mp hf with rfl | hf
    · rw [List.findSome?_cons, hd]
    · have hnone : g body = none := (hg f hf).resolve_right (by simp [hd])
      rw [List.findSome?_cons, hnone]
      exact ih ⟨f, hf, hd⟩

theorem findSome?_eq_of_perm {order : List (List Char → Option Directive)}
    (h : order.Perm forms) (body : List Char) :
    order.findSome? (· body) = forms.findSome? (· body) := by
  have horder : order.Pairwise fun f g => f body = none ∨ g body = none :=
    (h.pairwise_iff Or.symm).mpr (forms_pairwise body)
  refine Option.ext fun d => ?_
  rw [findSome?_eq_some_iff horder, findSome?_eq_some_iff (forms_pairwise body)]
  simp only [h.mem_iff]

theorem ofKey?_eq_findSome? (key : String) :
    ofKey? key = (singleton? key.toList).bind fun body => forms.findSome? (· body) := by
  refine congrArg (singleton? key.toList).bind (funext fun body => ?_)
  simp only [forms, openings, List.map_cons, List.map_nil, List.findSome?_cons, List.findSome?_nil]
  cases loop? body <;> cases branch? body <;> cases var? body <;> cases error? body <;> rfl

/-! ### Keys -/

/-- A directive as it stands between the delimiters of a key. -/
def text : Directive → String
  | .loop v (.expression e) => "for " ++ v ++ ":" ++ e
  | .loop v (.columns p) => "for column " ++ v ++ ":" ++ p
  | .branch (.ifTrue e) => "if:" ++ e
  | .branch (.elseIf e) => "else if:" ++ e
  | .branch .otherwise => "else"
  | .var v => "var " ++ v
  | .error none => "error"
  | .error (some t) => "error " ++ t

/-- A key that is the directive. -/
def key (d : Directive) : String := "$\x7b" ++ d.text ++ "\x7d"

/-- What a directive must be made of to stand in a key. -/
def IsWritable : Directive → Prop
  | .loop v (.expression e) => IsVariable v.toList ∧ Balanced e.toList
  | .loop v (.columns p) => IsVariable v.toList ∧ Balanced p.toList ∧ IsTrimmed p.toList
  | .branch (.ifTrue e) => Balanced e.toList
  | .branch (.elseIf e) => Balanced e.toList
  | .branch .otherwise => True
  | .var v => IsVariable v.toList
  | .error none => True
  | .error (some t) => Balanced t.toList ∧ IsTrimmed t.toList ∧ t ≠ ""

theorem IsVariable.balanced (h : IsVariable v) : Balanced v := .of_plain h.isPlain

/-- A directive stands in its key as it is: no brace of it ends the key. -/
theorem IsWritable.balanced (h : d.IsWritable) : Balanced d.text.toList := by
  have plain (s : String) (hs : s.toList.all RowTemplate.isPlain = true) : Balanced s.toList :=
    .of_plain (List.all_eq_true.mp hs)
  cases d with
  | loop v source =>
    cases source with
    | expression e =>
      simp only [text, String.toList_append]
      exact (((plain "for " rfl).append h.1.balanced).append (plain ":" rfl)).append h.2
    | columns p =>
      simp only [text, String.toList_append]
      exact (((plain "for column " rfl).append h.1.balanced).append (plain ":" rfl)).append h.2.1
  | branch b =>
    cases b with
    | ifTrue e =>
      rw [text, String.toList_append]
      exact (plain "if:" rfl).append h
    | elseIf e =>
      rw [text, String.toList_append]
      exact (plain "else if:" rfl).append h
    | otherwise => exact plain "else" rfl
  | var v =>
    rw [text, String.toList_append]
    exact (plain "var " rfl).append h.balanced
  | error t =>
    cases t with
    | none => exact plain "error" rfl
    | some t =>
      rw [text, String.toList_append]
      exact (plain "error " rfl).append h.1

/-- One of the forms reads a directive in its key. -/
theorem IsWritable.exists_form (h : d.IsWritable) : ∃ f ∈ forms, f d.text.toList = some d := by
  cases d with
  | loop v source =>
    refine ⟨loop?, by simp [forms, openings], ?_⟩
    cases source with
    | expression e =>
      have htext : (text (.loop v (.expression e))).toList =
          "for ".toList ++ (v.toList ++ ':' :: e.toList) := by simp [text]
      rw [htext, loop?_expression h.1, String.ofList_toList, String.ofList_toList]
    | columns p =>
      have htext : (text (.loop v (.columns p))).toList =
          "for column ".toList ++ (v.toList ++ ':' :: p.toList) := by simp [text]
      rw [htext, loop?_columns h.1 h.2.2, String.ofList_toList, String.ofList_toList]
  | branch b =>
    refine ⟨branch?, by simp [forms, openings], ?_⟩
    cases b with
    | ifTrue e => rw [text, String.toList_append, branch?_ifTrue, String.ofList_toList]
    | elseIf e => rw [text, String.toList_append, branch?_elseIf, String.ofList_toList]
    | otherwise => rfl
  | var v =>
    refine ⟨var?, by simp [forms, openings], ?_⟩
    rw [text, String.toList_append, var?_name h, String.ofList_toList]
  | error t =>
    refine ⟨error?, by simp [forms, openings], ?_⟩
    cases t with
    | none => rfl
    | some t =>
      have ht : t.toList ≠ [] := by simpa using h.2.2
      rw [text, String.toList_append, error?_text h.2.1 ht, String.ofList_toList]

theorem singleton?_key (h : d.IsWritable) : singleton? d.key.toList = some d.text.toList := by
  have hkey : d.key.toList = spanText d.text.toList := by simp [key, spanText]
  rw [hkey, singleton?_spanText h.balanced]

theorem IsWritable.ofKey?_key (h : d.IsWritable) : ofKey? d.key = some d := by
  rw [ofKey?_eq_findSome?, singleton?_key h, Option.bind_some]
  exact (findSome?_eq_some_iff (forms_pairwise _)).mpr h.exists_form

/-- A directive is read from its key as it was written, no key has two forms, and a key is the same
directive in whatever order the forms are tried. -/
theorem key_read_in_any_order :
    (∀ d : Directive, d.IsWritable → ofKey? d.key = some d) ∧
      (∀ body, forms.Pairwise fun f g => f body = none ∨ g body = none) ∧
      ∀ order : List (List Char → Option Directive), order.Perm forms → ∀ key : String,
        ofKey? key = (singleton? key.toList).bind fun body => order.findSome? (· body) := by
  refine ⟨fun d hd => hd.ofKey?_key, forms_pairwise, fun order horder key => ?_⟩
  simp only [ofKey?_eq_findSome?, findSome?_eq_of_perm horder]

/-- A variable with the name `column`, and an expression with braces, quotes, colons and a line
break that begins with a blank. -/
theorem key_read_in_any_order_column :
    let d : Directive := .loop "column" (.expression " [\x7ba: '\x7d:\\''\x7d,\n\t\"\x7b\"]")
    d.key = "$\x7bfor column: [\x7ba: '\x7d:\\''\x7d,\n\t\"\x7b\"]\x7d" ∧ d.IsWritable ∧
      ofKey? d.key = some d ∧
      (singleton? d.key.toList).bind (fun body => forms.reverse.findSome? (· body)) = some d := by
  intro d
  have hname : IsVariable "column".toList :=
    ⟨'c', "olumn".toList, rfl, by decide, List.all_eq_true.mp (by decide)⟩
  have hspan : spanBody? (.code 0) " [\x7ba: '\x7d:\\''\x7d,\n\t\"\x7b\"]\x7d".toList =
      some (" [\x7ba: '\x7d:\\''\x7d,\n\t\"\x7b\"]".toList, []) := by decide
  have hpayload := (spanBody?_eq_some_iff.mp hspan).2
  have hd : d.IsWritable := ⟨hname, hpayload⟩
  obtain ⟨hread, -, horder⟩ := key_read_in_any_order
  refine ⟨by decide, hd, hread d hd, ?_⟩
  rw [← horder _ (List.reverse_perm forms), hread d hd]

end Directive

end RowTemplate
