import Mathlib.Data.Nat.Init
import RowTemplate.Proofs.Expr.Derivation
import RowTemplate.Proofs.Expr.Reading

/-! # What is read is derived

Whatever the function for a symbol reads is derived from the symbol and has the
value of the derivation. The functions call each other on fewer tokens, or on
the same tokens for a symbol that stands lower in the grammar.
-/

namespace RowTemplate.Grammar

/-- The symbol derives the tokens in front of the rest with the value. -/
def Derives (sym : Symbol) (ts : List Lexeme) (v : sym.Value) (rest : List Lexeme) : Prop :=
  ∃ d : Derivation sym, ts.map Lexeme.token = d.yield ++ rest.map Lexeme.token ∧ d.value = v

/-- What the function for a symbol reads from the tokens is derived. -/
def Sound (ending : Ending) : Symbol → List Lexeme → Prop
  | .ternary, ts => ∀ e rest, Gives (ternary ending ts) e rest → Derives .ternary ts e rest
  | .coalesced, ts => ∀ e rest, Gives (coalesced ending ts) e rest → Derives .coalesced ts e rest
  | .alternatives, ts =>
    ∀ es rest, Gives (alternatives ending ts) es rest → Derives .alternatives ts es rest
  | .level k, ts =>
    k ≤ levels → ∀ e rest, Gives (binary ending k ts) e rest → Derives (.level k) ts e rest
  | .operations k, ts =>
    k < levels → ∀ left e rest, Gives (operations ending k left ts) e rest →
      ∃ more, Derives (.operations k) ts more rest ∧ more left = e
  | .unary, ts => ∀ e rest, Gives (unary ending ts) e rest → Derives .unary ts e rest
  | .accesses, ts => ∀ e rest, Gives (accesses ending ts) e rest → Derives .accesses ts e rest
  | .access, ts =>
    ∀ e e' rest, Gives (access ending e ts) e' rest →
      ∃ more, Derives .access ts more rest ∧ more e = e'
  | .operand, ts => ∀ e rest, Gives (operand ending ts) e rest → Derives .operand ts e rest
  | .items bracket, ts =>
    ∀ es rest, Gives (items ending bracket.close ts) es rest → Derives (.items bracket) ts es rest
  | .fields, ts => ∀ fs rest, Gives (fields ending ts) fs rest → Derives .fields ts fs rest

namespace Sound

open RowTemplate.Grammar.Derivation

variable {ending : Ending} {ts : List Lexeme}

theorem ternary (ih : ∀ sym us, us.length < ts.length → Sound ending sym us)
    (hcoalesced : Sound ending .coalesced ts) : Sound ending .ternary ts := by
  intro e rest h
  rw [Grammar.ternary] at h
  obtain ⟨c, rest₀, hc, _, h⟩ := h.of_bind
  obtain ⟨dc, hts, rfl⟩ := hcoalesced _ _ hc
  dsimp only at h
  split at h
  case h_1 stop rest₀ _ =>
    obtain ⟨y, rest₁, hy, hlt₁, h⟩ := h.of_bind
    obtain ⟨_, rest₂, hcolon, hlt₂, h⟩ := h.of_bind
    obtain ⟨n, rest₃, hn, hlt₃, h⟩ := h.of_bind
    obtain ⟨rfl, rfl⟩ := h.of_pure
    have hlt := Nat.lt_of_succ_lt hc.length_lt
    obtain ⟨dy, hys, rfl⟩ := ih .ternary rest₀ hlt _ _ hy
    obtain ⟨dn, hns, rfl⟩ :=
      ih .ternary rest₂ (Nat.lt_trans hlt₂ (Nat.lt_trans hlt₁ hlt)) _ _ hn
    refine ⟨dc.conditional dy dn, ?_, rfl⟩
    rw [hts, List.map_cons, hys, gives_expect hcolon, hns, yield]
    simp
  case h_2 =>
    obtain ⟨rfl, rfl⟩ := h.of_pure
    exact ⟨dc.plain, hts, rfl⟩

theorem coalesced (ih : ∀ sym us, us.length < ts.length → Sound ending sym us)
    (hlevel : Sound ending (.level 0) ts) : Sound ending .coalesced ts := by
  intro e rest h
  rw [Grammar.coalesced] at h
  obtain ⟨first, rest₀, hfirst, hlt, h⟩ := h.of_bind
  obtain ⟨more, rest₁, hmore, hlt₁, h⟩ := h.of_bind
  obtain ⟨df, hts, rfl⟩ := hlevel (Nat.zero_le _) _ _ hfirst
  obtain ⟨dm, hms, rfl⟩ := ih .alternatives rest₀ hlt _ _ hmore
  have hyield : ts.map Lexeme.token = (df.coalesced dm).yield ++ rest₁.map Lexeme.token := by
    rw [hts, hms, yield, List.append_assoc]
  dsimp only at h
  split at h
  case h_1 hnone =>
    obtain ⟨rfl, rfl⟩ := h.of_pure
    refine ⟨df.coalesced dm, hyield, ?_⟩
    rw [value, hnone]
  case h_2 hsome =>
    obtain ⟨rfl, rfl⟩ := h.of_pure
    refine ⟨df.coalesced dm, hyield, ?_⟩
    rw [value]
    split
    case h_1 hnone => exact absurd hnone hsome
    case h_2 => rfl

theorem alternatives (ih : ∀ sym us, us.length < ts.length → Sound ending sym us) :
    Sound ending .alternatives ts := by
  intro es rest h
  rw [alternatives.eq_def] at h
  split at h
  case h_1 stop ts =>
    obtain ⟨e, rest₀, he, hlt, h⟩ := h.of_bind
    obtain ⟨more, rest₁, hmore, hlt₁, h⟩ := h.of_bind
    obtain ⟨rfl, rfl⟩ := h.of_pure
    obtain ⟨de, hes, rfl⟩ := ih (.level 0) ts (Nat.lt_succ_self _) (Nat.zero_le _) _ _ he
    obtain ⟨dm, hms, rfl⟩ := ih .alternatives rest₀ (Nat.lt_succ_of_lt hlt) _ _ hmore
    refine ⟨de.alternative dm, ?_, rfl⟩
    rw [List.map_cons, hes, hms, yield]
    simp
  case h_2 =>
    obtain ⟨rfl, rfl⟩ := h.of_pure
    exact ⟨noAlternative, rfl, rfl⟩

theorem level {k : Nat} (ih : ∀ sym us, us.length < ts.length → Sound ending sym us)
    (hnext : Sound ending (.level (k + 1)) ts) (hk : k < levels) : Sound ending (.level k) ts := by
  intro _ e rest h
  rw [binary, if_pos hk] at h
  obtain ⟨left, rest₀, hleft, hlt, h⟩ := h.of_bind
  obtain ⟨e, rest₁, hmore, hlt₁, h⟩ := h.of_bind
  obtain ⟨rfl, rfl⟩ := h.of_pure
  obtain ⟨dl, hts, rfl⟩ := hnext hk _ _ hleft
  obtain ⟨_, ⟨dm, hms, rfl⟩, rfl⟩ := ih (.operations k) rest₀ hlt hk _ _ _ hmore
  refine ⟨.level hk dl dm, ?_, rfl⟩
  rw [hts, hms, yield, List.append_assoc]

theorem closest (hunary : Sound ending .unary ts) : Sound ending (.level levels) ts := by
  intro _ e rest h
  rw [binary, if_neg (Nat.lt_irrefl _)] at h
  obtain ⟨d, hts, rfl⟩ := hunary _ _ h
  exact ⟨d.closest, hts, rfl⟩

theorem operations {k : Nat} (ih : ∀ sym us, us.length < ts.length → Sound ending sym us) :
    Sound ending (.operations k) ts := by
  intro hk left e rest h
  rw [operations.eq_def] at h
  split at h
  case h_1 m stop ts =>
    split at h
    case h_1 join hj =>
      obtain ⟨right, rest₀, hright, hlt, h⟩ := h.of_bind
      obtain ⟨e, rest₁, hmore, hlt₁, h⟩ := h.of_bind
      obtain ⟨rfl, rfl⟩ := h.of_pure
      obtain ⟨dr, hts, rfl⟩ := ih (.level (k + 1)) ts (Nat.lt_succ_self _) hk _ _ hright
      obtain ⟨_, ⟨dm, hms, rfl⟩, rfl⟩ :=
        ih (.operations k) rest₀ (Nat.lt_succ_of_lt hlt) hk _ _ _ hmore
      refine ⟨_, ⟨.operation (joins_iff.mpr hj) dr dm, ?_, rfl⟩, rfl⟩
      rw [List.map_cons, hts, hms, yield]
      simp
    case h_2 =>
      obtain ⟨rfl, rfl⟩ := h.of_pure
      exact ⟨id, ⟨noOperation, rfl, rfl⟩, rfl⟩
  case h_2 =>
    obtain ⟨rfl, rfl⟩ := h.of_pure
    exact ⟨id, ⟨noOperation, rfl, rfl⟩, rfl⟩

theorem unary (ih : ∀ sym us, us.length < ts.length → Sound ending sym us)
    (haccesses : Sound ending .accesses ts) : Sound ending .unary ts := by
  intro e rest h
  rw [unary.eq_def] at h
  split at h
  case h_1 m stop ts =>
    split at h
    case h_1 op hp =>
      obtain ⟨e, rest₀, he, hlt, h⟩ := h.of_bind
      obtain ⟨rfl, rfl⟩ := h.of_pure
      obtain ⟨de, hts, rfl⟩ := ih .unary ts (Nat.lt_succ_self _) _ _ he
      refine ⟨.prefixed (prefixes_iff.mpr hp) de, ?_, rfl⟩
      rw [List.map_cons, hts, yield]
      rfl
    case h_2 =>
      obtain ⟨d, hts, rfl⟩ := haccesses _ _ h
      exact ⟨d.unprefixed, hts, rfl⟩
  case h_2 =>
    obtain ⟨d, hts, rfl⟩ := haccesses _ _ h
    exact ⟨d.unprefixed, hts, rfl⟩

theorem accesses (ih : ∀ sym us, us.length < ts.length → Sound ending sym us)
    (hoperand : Sound ending .operand ts) : Sound ending .accesses ts := by
  intro e rest h
  rw [Grammar.accesses] at h
  obtain ⟨e, rest₀, he, hlt, h⟩ := h.of_bind
  obtain ⟨e', rest₁, hmore, hlt₁, h⟩ := h.of_bind
  obtain ⟨rfl, rfl⟩ := h.of_pure
  obtain ⟨de, hts, rfl⟩ := hoperand _ _ he
  obtain ⟨_, ⟨dm, hms, rfl⟩, rfl⟩ := ih .access rest₀ hlt _ _ _ hmore
  refine ⟨de.accesses dm, ?_, rfl⟩
  rw [hts, hms, yield, List.append_assoc]

theorem access (ih : ∀ sym us, us.length < ts.length → Sound ending sym us) :
    Sound ending .access ts := by
  intro e e' rest h
  rw [access.eq_def] at h
  split at h
  case h_1 n _ _ ts =>
    obtain ⟨args, rest₀, hargs, _, h⟩ := h.of_bind
    obtain ⟨e'', rest₁, hmore, _, h⟩ := h.of_bind
    obtain ⟨rfl, rfl⟩ := h.of_pure
    have hlt := hargs.length_lt
    simp only [List.length_cons] at ih
    obtain ⟨da, hts, rfl⟩ := ih (.items .round) ts (by omega) _ _ hargs
    obtain ⟨_, ⟨dm, hms, rfl⟩, rfl⟩ := ih .access rest₀ (by omega) _ _ _ hmore
    refine ⟨_, ⟨method n da dm, ?_, rfl⟩, rfl⟩
    simp only [List.map_cons, hts, hms, yield, List.cons_append, List.append_assoc]
  case h_2 n _ ts _ =>
    obtain ⟨e'', rest₁, hmore, _, h⟩ := h.of_bind
    obtain ⟨rfl, rfl⟩ := h.of_pure
    simp only [List.length_cons] at ih
    obtain ⟨_, ⟨dm, hms, rfl⟩, rfl⟩ := ih .access ts (by omega) _ _ _ hmore
    refine ⟨_, ⟨member n dm, ?_, rfl⟩, rfl⟩
    simp only [List.map_cons, hms, yield, List.cons_append]
  case h_3 => exact h.not_error.elim
  case h_4 stop ts =>
    obtain ⟨property, rest₀, hp, _, h⟩ := h.of_bind
    obtain ⟨_, rest₁, hclose, _, h⟩ := h.of_bind
    obtain ⟨e'', rest₂, hmore, _, h⟩ := h.of_bind
    obtain ⟨rfl, rfl⟩ := h.of_pure
    have hlt := hp.length_lt
    have hlt₁ : rest₁.length < rest₀.length := hclose.length_lt
    simp only [List.length_cons] at ih
    obtain ⟨dp, hts, rfl⟩ := ih .ternary ts (by omega) _ _ hp
    obtain ⟨_, ⟨dm, hms, rfl⟩, rfl⟩ := ih .access rest₁ (by omega) _ _ _ hmore
    refine ⟨_, ⟨element dp dm, ?_, rfl⟩, rfl⟩
    rw [List.map_cons, hts, gives_expect hclose, hms, yield]
    simp only [List.cons_append, List.append_assoc]
  case h_5 =>
    obtain ⟨rfl, rfl⟩ := h.of_pure
    exact ⟨id, ⟨noAccess, rfl, rfl⟩, rfl⟩

theorem operand (ih : ∀ sym us, us.length < ts.length → Sound ending sym us) :
    Sound ending .operand ts := by
  intro e rest h
  rw [operand.eq_def] at h
  split at h
  case h_1 stop ts =>
    obtain ⟨e, rest₀, he, _, h⟩ := h.of_bind
    obtain ⟨_, rest₁, hclose, _, h⟩ := h.of_bind
    obtain ⟨rfl, rfl⟩ := h.of_pure
    obtain ⟨de, hts, rfl⟩ := ih .ternary ts (Nat.lt_succ_self _) _ _ he
    refine ⟨de.grouped, ?_, rfl⟩
    rw [List.map_cons, hts, gives_expect hclose, yield]
    simp only [List.cons_append, List.append_assoc, List.nil_append]
  case h_2 stop ts =>
    obtain ⟨es, rest₀, hes, _, h⟩ := h.of_bind
    obtain ⟨rfl, rfl⟩ := h.of_pure
    obtain ⟨de, hts, rfl⟩ := ih (.items .square) ts (Nat.lt_succ_self _) _ _ hes
    refine ⟨de.array, ?_, rfl⟩
    rw [List.map_cons, hts, yield, List.cons_append]
  case h_3 stop ts =>
    obtain ⟨fs, rest₀, hfs, _, h⟩ := h.of_bind
    obtain ⟨rfl, rfl⟩ := h.of_pure
    obtain ⟨df, hts, rfl⟩ := ih .fields ts (Nat.lt_succ_self _) _ _ hfs
    refine ⟨df.object, ?_, rfl⟩
    rw [List.map_cons, hts, yield, List.cons_append]
  case h_4 n _ _ ts =>
    obtain ⟨args, rest₀, hargs, _, h⟩ := h.of_bind
    obtain ⟨rfl, rfl⟩ := h.of_pure
    simp only [List.length_cons] at ih
    obtain ⟨da, hts, rfl⟩ := ih (.items .round) ts (by omega) _ _ hargs
    refine ⟨call n da, ?_, rfl⟩
    simp only [List.map_cons, hts, yield, List.cons_append]
  case h_5 n _ ts _ =>
    obtain ⟨rfl, rfl⟩ := h.of_pure
    exact ⟨.name n, rfl, rfl⟩
  case h_6 =>
    obtain ⟨rfl, rfl⟩ := h.of_pure
    exact ⟨.everything, rfl, rfl⟩
  case h_7 t _ ts _ _ _ _ _ _ =>
    split at h
    case h_1 v hv =>
      obtain ⟨rfl, rfl⟩ := h.of_pure
      exact ⟨.literal (literal_iff.mpr hv), rfl, rfl⟩
    case h_2 => exact h.not_error.elim
  case h_8 => exact h.not_error.elim

theorem items {bracket : Bracket} (ih : ∀ sym us, us.length < ts.length → Sound ending sym us)
    (hternary : Sound ending .ternary ts) : Sound ending (.items bracket) ts := by
  intro es rest h
  rw [Grammar.items] at h
  split at h
  case h_1 rest₀ hlt hread =>
    obtain ⟨rfl, rfl⟩ : [] = es ∧ rest₀ = rest := h.of_pure
    exact ⟨noItem, gives_expect ⟨_, hread, rfl⟩, rfl⟩
  case h_2 =>
    obtain ⟨e, rest₀, he, _, h⟩ := h.of_bind
    obtain ⟨de, hts, rfl⟩ := hternary _ _ he
    dsimp only at h
    split at h
    case h_1 stop rest₀ _ =>
      obtain ⟨es, rest₁, hes, _, h⟩ := h.of_bind
      obtain ⟨rfl, rfl⟩ := h.of_pure
      obtain ⟨dm, hms, rfl⟩ := ih (.items bracket) rest₀ (Nat.lt_of_succ_lt he.length_lt) _ _ hes
      refine ⟨item de dm, ?_, rfl⟩
      rw [hts, List.map_cons, hms, yield, List.append_assoc, List.cons_append]
    case h_2 =>
      obtain ⟨_, rest₁, hclose, _, h⟩ := h.of_bind
      obtain ⟨rfl, rfl⟩ := h.of_pure
      refine ⟨lastItem de, ?_, rfl⟩
      rw [hts, gives_expect hclose, yield, List.append_assoc]
      rfl

theorem fields (ih : ∀ sym us, us.length < ts.length → Sound ending sym us) :
    Sound ending .fields ts := by
  intro fs rest h
  rw [fields.eq_def] at h
  split at h
  case h_1 stop rest₀ =>
    obtain ⟨rfl, rfl⟩ : [] = fs ∧ rest₀ = rest := h.of_pure
    exact ⟨noField, rfl, rfl⟩
  case h_2 => exact h.not_error.elim
  case h_3 t stop ts _ =>
    split at h
    case h_1 => exact h.not_error.elim
    case h_2 key hkey =>
      obtain ⟨_, rest₀, hcolon, _, h⟩ := h.of_bind
      obtain ⟨e, rest₁, he, _, h⟩ := h.of_bind
      have hlt := hcolon.length_lt
      simp only [List.length_cons] at ih
      obtain ⟨de, hes, rfl⟩ := ih .ternary rest₀ (by omega) _ _ he
      dsimp only at h
      split at h
      case h_1 _ rest₁ _ =>
        obtain ⟨fs, rest₂, hfs, _, h⟩ := h.of_bind
        obtain ⟨rfl, rfl⟩ := h.of_pure
        have hlt₁ : rest₁.length + 1 < rest₀.length := he.length_lt
        obtain ⟨dm, hms, rfl⟩ := ih .fields rest₁ (by omega) _ _ hfs
        refine ⟨.field (key_iff.mpr hkey) de dm, ?_, rfl⟩
        rw [List.map_cons, gives_expect hcolon, hes, List.map_cons, hms, yield]
        simp only [List.cons_append, List.append_assoc]
      case h_2 =>
        obtain ⟨_, rest₂, hclose, _, h⟩ := h.of_bind
        obtain ⟨rfl, rfl⟩ := h.of_pure
        refine ⟨.lastField (key_iff.mpr hkey) de, ?_, rfl⟩
        rw [List.map_cons, gives_expect hcolon, hes, gives_expect hclose, yield]
        simp only [List.cons_append, List.append_assoc, List.nil_append]

/-- Of the levels the one that binds closest comes first. -/
theorem levelsBelow (ih : ∀ sym us, us.length < ts.length → Sound ending sym us)
    (hunary : Sound ending .unary ts) (k : Nat) : Sound ending (.level k) ts := by
  intro hk
  induction hk using Nat.decreasingInduction with
  | self => exact closest hunary (Nat.le_refl _)
  | of_succ k hk hnext => exact level ih (fun _ => hnext) hk (Nat.le_of_lt hk)

end Sound

/-- Whatever is read is derived. -/
theorem sound (ending : Ending) (sym : Symbol) (ts : List Lexeme) : Sound ending sym ts := by
  induction hn : ts.length using Nat.strongRecOn generalizing sym ts with
  | _ n ih =>
    subst hn
    have ih (sym : Symbol) (us : List Lexeme) (h : us.length < ts.length) : Sound ending sym us :=
      ih us.length h sym us rfl
    -- On the same tokens a function is sound if those are that it calls first.
    have hoperand := Sound.operand ih
    have haccesses := Sound.accesses ih hoperand
    have hunary := Sound.unary ih haccesses
    have hlevel := Sound.levelsBelow ih hunary
    have hcoalesced := Sound.coalesced ih (hlevel 0)
    have hternary := Sound.ternary ih hcoalesced
    cases sym with
    | ternary => exact hternary
    | coalesced => exact hcoalesced
    | alternatives => exact .alternatives ih
    | level k => exact hlevel k
    | operations k => exact .operations ih
    | unary => exact hunary
    | accesses => exact haccesses
    | access => exact .access ih
    | operand => exact hoperand
    | items bracket => exact .items ih hternary
    | fields => exact .fields ih

end RowTemplate.Grammar
