import RowTemplate.Proofs.Directive.Key
import RowTemplate.Proofs.Template.Scope

/-! # Keys that begin like an `else if`

Behind the words of an `else if` the first colon opens the condition. Where there
is no colon the key is an `else`, for which the text behind the word does not
count: its body is expanded whenever no branch before it was taken.
-/

namespace RowTemplate.Directive

open Text (isBlank)

variable {key : String} {s e body rest blanks : List Char}

/-- The body begins with `else`, blanks and the word `if`, and `rest` stands behind them. -/
structure BeginsElseIf (body rest : List Char) : Prop where
  begins : ∃ blanks, blanks ≠ [] ∧ (∀ c ∈ blanks, isBlank c = true) ∧
    body = "else".toList ++ (blanks ++ ("if".toList ++ rest))
  endsWord : ∀ c ∈ rest.head?, isBlank c = true ∨ c = ':'

theorem afterBlanks?_append (hne : blanks ≠ []) (hblanks : ∀ c ∈ blanks, isBlank c = true)
    (hs : ∀ c ∈ s.head?, isBlank c = false) : afterBlanks? (blanks ++ s) = some s := by
  cases blanks with
  | nil => exact absurd rfl hne
  | cons b blanks =>
    obtain ⟨hb, hblanks⟩ := List.forall_mem_cons.mp hblanks
    rw [List.cons_append, afterBlanks?, if_pos hb, Text.trimLeft,
      List.dropWhile_append_of_pos hblanks, ← Text.trimLeft, Text.trimLeft_of_head? hs]

/-! ### The first colon -/

/-- Where the word `if` ends, the condition is what stands behind the first colon. -/
theorem condition?_eq (h : ∀ c ∈ s.head?, isBlank c = true ∨ c = ':') :
    condition? s = (s.dropWhile (· ≠ ':')).tail? := by
  cases s with
  | nil => rfl
  | cons c s =>
    by_cases hc : c = ':'
    · subst hc
      rfl
    · have hblank : isBlank c = true := (h c rfl).resolve_right hc
      have hne : ∀ e, c :: s ≠ ':' :: e := fun e heq => hc (List.cons.inj heq).1
      rw [condition?.eq_2 c s fun heq => hc heq, if_pos hblank,
        List.dropWhile_cons_of_pos (by simpa using hc)]
      cases s.dropWhile (· ≠ ':') <;> rfl

theorem condition?_eq_some_iff (h : ∀ c ∈ s.head?, isBlank c = true ∨ c = ':') :
    condition? s = some e ↔ ∃ comment, ':' ∉ comment ∧ s = comment ++ ':' :: e := by
  rw [condition?_eq h]
  constructor
  · intro hdrop
    have hsplit := List.takeWhile_append_dropWhile (p := (· ≠ ':')) (l := s)
    have hhead := List.head?_dropWhile_not (· ≠ ':') s
    cases hs : s.dropWhile (· ≠ ':') with
    | nil =>
      rw [hs] at hdrop
      cases hdrop
    | cons c t =>
      rw [hs] at hdrop hsplit hhead
      obtain rfl : t = e := Option.some.inj hdrop
      obtain rfl : c = ':' := by simpa using hhead
      exact ⟨_, fun hmem => by simpa using List.mem_takeWhile_imp hmem, hsplit.symm⟩
  · rintro ⟨comment, hcomment, rfl⟩
    have hpass : ∀ c ∈ comment, decide (c ≠ ':') = true := fun c hc =>
      decide_eq_true fun heq => hcomment (heq ▸ hc)
    rw [List.dropWhile_append_of_pos hpass, List.dropWhile_cons_of_neg (by simp)]
    rfl

theorem condition?_eq_none_iff (h : ∀ c ∈ s.head?, isBlank c = true ∨ c = ':') :
    condition? s = none ↔ ':' ∉ s := by
  constructor
  · intro hnone hmem
    obtain ⟨comment, e, hs, hcomment⟩ := List.eq_append_cons_of_mem hmem
    rw [(condition?_eq_some_iff h).mpr ⟨comment, hcomment, hs⟩] at hnone
    cases hnone
  · intro hmem
    refine Option.eq_none_iff_forall_ne_some.mpr fun e he => hmem ?_
    obtain ⟨comment, -, rfl⟩ := (condition?_eq_some_iff h).mp he
    simp

/-! ### Reading the key -/

namespace BeginsElseIf

theorem elseIf?_eq (h : BeginsElseIf body rest) : elseIf? body = condition? rest := by
  obtain ⟨blanks, hne, hblanks, rfl⟩ := h.begins
  have hif : ∀ c ∈ ("if".toList ++ rest).head?, isBlank c = false := by
    rintro _ ⟨⟩
    decide
  rw [elseIf?, afterWord?_append, Option.bind_eq_bind, Option.bind_some,
    afterBlanks?_append hne hblanks hif, Option.bind_some, afterWord?_append, Option.bind_some]

theorem isElse (h : BeginsElseIf body rest) : isElse body = true := by
  obtain ⟨blanks, hne, hblanks, rfl⟩ := h.begins
  cases blanks with
  | nil => exact absurd rfl hne
  | cons b blanks =>
    rw [Directive.isElse, afterWord?_append]
    exact hblanks b List.mem_cons_self

/-- The key is an `else if` or an `else`, and never anything else. -/
theorem ofKey?_eq (hkey : singleton? key.toList = some body) (h : BeginsElseIf body rest) :
    ofKey? key = some (.branch
      ((condition? rest).elim .otherwise fun e => .elseIf (String.ofList e))) := by
  have hloop : loop? body = none ∧ afterWord? "if".toList body = none := by
    obtain ⟨blanks, -, -, rfl⟩ := h.begins
    exact ⟨rfl, rfl⟩
  have hbranch : branch? body = some (.branch
      ((condition? rest).elim .otherwise fun e => .elseIf (String.ofList e))) := by
    rw [branch?, h.elseIf?_eq]
    cases condition? rest with
    | some e => rfl
    | none => simp only [hloop.2, h.isElse, Option.bind_none, if_true, Option.elim_none]
  simp [ofKey?, hkey, hloop.1, hbranch]

end BeginsElseIf

/-- A key with the words of an `else if` is one exactly if there is a colon, behind the first of
which its condition stands. Without a colon it is an `else`, and in an array its entry is what it
is with that key, with whatever conditions before it and behind it. -/
theorem ofKey?_of_beginsElseIf (hkey : singleton? key.toList = some body)
    (h : BeginsElseIf body rest) :
    (∀ e : String, ofKey? key = some (.branch (.elseIf e)) ↔
        ∃ comment, ':' ∉ comment ∧ rest = comment ++ ':' :: e.toList) ∧
      (ofKey? key = some (.branch .otherwise) ↔ ':' ∉ rest) ∧
      (':' ∉ rest → ∀ (node : Json) (before after : List Json),
        Template.expand (.array (before ++ .object [(key, node)] :: after)) =
          Template.expand (.array (before ++ .object [("$\x7belse\x7d", node)] :: after))) := by
  have hread := h.ofKey?_eq hkey
  have helse : ofKey? key = some (.branch .otherwise) ↔ ':' ∉ rest := by
    rw [hread, ← condition?_eq_none_iff h.endsWord]
    cases condition? rest <;> simp
  refine ⟨fun e => ?_, helse, fun hcolon node before after => ?_⟩
  · rw [hread, ← condition?_eq_some_iff h.endsWord]
    cases condition? rest with
    | none => simp
    | some t => simp [← String.toList_inj]
  · have hplain : ofKey? "$\x7belse\x7d" = some (.branch .otherwise) := by decide
    have hpart : Template.Part.ofItem (.object [(key, node)]) =
        .ofItem (.object [("$\x7belse\x7d", node)]) := by
      rw [Template.Part.ofItem_of_some (helse.mpr hcolon), Template.Part.ofItem_of_some hplain]
    simp only [Template.expand_array, List.map_append, List.map_cons, hpart]

/-- A condition with a tabulator before it and no colon. -/
theorem ofKey?_of_beginsElseIf_comparison :
    let key := "$\x7belse  if\tx > 1\x7d"
    let rest := "\tx > 1".toList
    singleton? key.toList = some ("else  if".toList ++ rest) ∧
      BeginsElseIf ("else  if".toList ++ rest) rest ∧
      ofKey? key = some (.branch .otherwise) ∧
      Template.expand (.array [.object [(key, .null)]]) =
        Template.expand (.array [.object [("$\x7belse\x7d", .null)]]) := by
  intro key rest
  have hkey : singleton? key.toList = some ("else  if".toList ++ rest) := by decide
  have hbegins : BeginsElseIf ("else  if".toList ++ rest) rest :=
    ⟨⟨"  ".toList, by decide, List.all_eq_true.mp (by decide), rfl⟩, by
      rintro _ ⟨⟩
      exact .inl (by decide)⟩
  have hcolon : ':' ∉ rest := by decide
  obtain ⟨-, helse, harray⟩ := ofKey?_of_beginsElseIf hkey hbegins
  exact ⟨hkey, hbegins, helse.mpr hcolon, harray hcolon .null [] []⟩

/-- Where no condition holds, the body of an `else if` that lacks its colon is expanded, and an
`else` behind it has no chain. Behind `if` a condition without a colon leaves no directive. -/
theorem ofKey?_else_if_without_colon :
    let start := Context.ofSettings {} ⟨2024, 6, 1, 9, 15, 0, 0, 7200⟩
    let ctx : Context := { start with evaluator := .plugged fun _ _ => .ok (.bool false) }
    let entry (key : String) (body : Json) : Json := .object [(key, body)]
    let first := entry "$\x7bif:a\x7d" .null
    let mistyped := entry "$\x7belse if b\x7d" (.bool true)
    ofKey? "$\x7belse if b\x7d" = some (.branch .otherwise) ∧ ofKey? "$\x7bif b\x7d" = none ∧
      ((Template.expand (.array [first, mistyped])).runIn ctx).1 =
        .ok (some (.array [.bool true])) ∧
      ((Template.expand (.array [first, mistyped, entry "$\x7belse\x7d" .null])).runIn ctx).1 =
        .error .orphanElse := by
  intro start ctx entry first mistyped
  refine ⟨by decide, by decide, ?_, ?_⟩
  · cbv
  · cbv

end RowTemplate.Directive
