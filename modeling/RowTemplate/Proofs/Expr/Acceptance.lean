import RowTemplate.Proofs.Expr.Completeness
import RowTemplate.Proofs.Expr.Soundness
import RowTemplate.Proofs.Expr.Splits
import RowTemplate.Proofs.Expr.Unambiguous
import RowTemplate.Proofs.Text.Blank

/-! # Accepted texts

The texts that are expressions are those that split into tokens which the
grammar derives. There is one derivation for each of them, and every other text
is refused.
-/

namespace RowTemplate

open Grammar

/-- A text is an expression when reading leaves none of its tokens, none of which is faulty. -/
theorem parse_eq_ok_iff_gives {text : String} {e : Expr} :
    Expr.parse text = .ok e ↔
      Gives (ternary (lex text).ending (lex text).lexemes) e [] ∧
        ∃ stop, (lex text).ending = .finished stop := by
  unfold Expr.parse
  generalize lex text = lexed
  obtain ⟨lexemes, ending⟩ := lexed
  dsimp only
  cases hread : ternary ending lexemes with
  | error error =>
    refine iff_of_false (fun h => ?_) fun h => h.1.not_error
    cases h
  | ok p =>
    obtain ⟨⟨e', rest⟩, hlt⟩ := p
    rw [ok_bind]
    dsimp only
    constructor
    · intro h
      split at h
      case h_1 stop =>
        cases h
        exact ⟨⟨_, rfl, rfl⟩, stop, rfl⟩
      case h_2 => cases h
    · rintro ⟨⟨_, hgives, hp⟩, stop, rfl⟩
      cases hgives
      obtain ⟨rfl, rfl⟩ := Prod.mk.inj hp
      rfl

/-- A text is read as the value of a derivation of its tokens. -/
theorem parse_eq_ok_iff {text : String} {e : Expr} :
    Expr.parse text = .ok e ↔
      ∃ d : Derivation .ternary, Splits text.toList d.yield ∧ d.value = e := by
  rw [parse_eq_ok_iff_gives]
  constructor
  · rintro ⟨hgives, hending⟩
    obtain ⟨d, hyield, hvalue⟩ := sound _ .ternary _ _ _ hgives
    rw [List.map_nil, List.append_nil] at hyield
    exact ⟨d, (splits_iff 0).mpr ⟨hyield, hending⟩, hvalue⟩
  · rintro ⟨d, hsplits, rfl⟩
    obtain ⟨hyield, hending⟩ := (splits_iff 0).mp hsplits
    obtain ⟨rest, hrest, hgives⟩ := d.isRead (lex text).ending (lex text).lexemes []
      (hyield.trans (List.append_nil _).symm) (.nil _)
    obtain rfl := List.map_eq_nil_iff.mp hrest
    exact ⟨hgives, hending⟩

theorem derivation_unique {s : List Char} {d d' : Derivation .ternary} (h : Splits s d.yield)
    (h' : Splits s d'.yield) : d = d' := by
  have hyield : d.yield ++ [] = d'.yield ++ [] := by rw [h.unique h']
  exact (d.isUnique d' hyield (.nil _) (.nil _)).1

/-- A text is an expression exactly when it splits into tokens that the grammar derives, and it is
read as the value of the derivation. There is one derivation at most; without one the text is
refused. -/
theorem parse_accepts_grammar (text : String) :
    (∀ e, Expr.parse text = .ok e ↔
      ∃ d : Derivation .ternary, Splits text.toList d.yield ∧ d.value = e) ∧
    (∀ d d' : Derivation .ternary, Splits text.toList d.yield → Splits text.toList d'.yield →
      d = d') ∧
    ((∃ error, Expr.parse text = .error error) ↔
      ¬ ∃ d : Derivation .ternary, Splits text.toList d.yield) := by
  refine ⟨fun e => parse_eq_ok_iff, fun d d' => derivation_unique, ?_⟩
  cases hparse : Expr.parse text with
  | error error =>
    refine iff_of_true ⟨error, rfl⟩ ?_
    rintro ⟨d, hsplits⟩
    rw [parse_eq_ok_iff.mpr ⟨d, hsplits, rfl⟩] at hparse
    cases hparse
  | ok e =>
    obtain ⟨d, hsplits, -⟩ := parse_eq_ok_iff.mp hparse
    refine iff_of_false ?_ fun hnone => hnone ⟨d, hsplits⟩
    rintro ⟨error, herror⟩
    cases herror

/-! ### Characters of tokens -/

theorem not_isBlank_of_isQuote {c : Char} (h : isQuote c = true) : Text.isBlank c = false :=
  Text.not_isBlank_of (p := isQuote) (by decide) h

theorem not_isBlank_of_isDigit {c : Char} (h : Text.isDigit c = true) : Text.isBlank c = false :=
  Text.not_isBlank_of (p := Text.isDigit) (by decide) h

/-! ### Names -/

/-- A character that a name may have. -/
def occursInName (c : Char) : Bool := Token.beginsName c || Token.continuesName c

theorem not_isBlank_of_occursInName {c : Char} (h : occursInName c = true) :
    Text.isBlank c = false :=
  Text.not_isBlank_of (p := occursInName) (by decide +kernel) h

theorem IsWord.forall_mem {w : List Char} (h : IsWord w) : ∀ c ∈ w, occursInName c = true := by
  cases h with
  | mk hc hw =>
    refine List.forall_mem_cons.mpr ⟨?_, fun d hd => ?_⟩
    · simp [occursInName, hc]
    · simp [occursInName, hw d hd]

theorem IsWord.not_mem {c : Char} {w : List Char} (h : IsWord w) (hc : ¬ occursInName c = true) :
    c ∉ w :=
  fun hmem => hc (h.forall_mem c hmem)

/-- A name is one token. -/
theorem splits_name {name : String} (h : IsWord name.toList) (hkey : ∀ t, (name, t) ∉ keywords) :
    Splits name.toList [.name name] := by
  have hspells : Spelling name.toList (.name name) := by
    simpa using Spelling.name h (by simpa using hkey)
  generalize name.toList = w at *
  cases h with
  | mk hc hw =>
    have hname := (IsWord.mk hc hw).forall_mem _ List.mem_cons_self
    exact .single (not_isBlank_of_occursInName hname) hspells

/-- An operand by itself, with no operator at any level. -/
def Grammar.Derivation.single (e : Derivation .operand) : Derivation .ternary :=
  let pass {k : Nat} (h : k < levels) (e : Derivation (.level (k + 1))) : Derivation (.level k) :=
    .level h e .noOperation
  .plain <| .coalesced
    (pass (by decide) <| pass (by decide) <| pass (by decide) <| pass (by decide) <|
      pass (by decide) <| pass (by decide) <| .closest <| .unprefixed <| .accesses e .noAccess)
    .noAlternative

@[simp] theorem Grammar.Derivation.yield_single (e : Derivation .operand) :
    (single e).yield = e.yield := by
  simp [single]

@[simp] theorem Grammar.Derivation.value_single (e : Derivation .operand) :
    (single e).value = e.value := by
  simp [single]

theorem parse_name {name : String} (h : IsWord name.toList) (hkey : ∀ t, (name, t) ∉ keywords) :
    Expr.parse name = .ok (.name name) :=
  parse_eq_ok_iff.mpr ⟨.single (.name name), splits_name h hkey, rfl⟩

end RowTemplate
