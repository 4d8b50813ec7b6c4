import RowTemplate.Proofs.Expr.Lookahead
import RowTemplate.Proofs.Expr.Reading

/-! # Derivations are read

Whatever a symbol derives is read by the function for the symbol, with the value
of the derivation, in front of tokens that could not go on with it.
-/

namespace RowTemplate.Grammar

/-- The function for a symbol reads the value from the tokens and leaves the rest. -/
def Reads (ending : Ending) : (sym : Symbol) → List Lexeme → sym.Value → List Lexeme → Prop
  | .ternary, ts, e, rest => Gives (ternary ending ts) e rest
  | .coalesced, ts, e, rest => Gives (coalesced ending ts) e rest
  | .alternatives, ts, es, rest => Gives (alternatives ending ts) es rest
  | .level k, ts, e, rest => Gives (binary ending k ts) e rest
  | .operations k, ts, more, rest => ∀ left, Gives (operations ending k left ts) (more left) rest
  | .unary, ts, e, rest => Gives (unary ending ts) e rest
  | .accesses, ts, e, rest => Gives (accesses ending ts) e rest
  | .access, ts, more, rest => ∀ e, Gives (access ending e ts) (more e) rest
  | .operand, ts, e, rest => Gives (operand ending ts) e rest
  | .items bracket, ts, es, rest => Gives (items ending bracket.close ts) es rest
  | .fields, ts, fs, rest => Gives (fields ending ts) fs rest

/-- The derivation is read from its tokens in front of any that could not go on with it. -/
def Derivation.IsRead {sym : Symbol} (d : Derivation sym) : Prop :=
  ∀ (ending : Ending) (ts : List Lexeme) (us : List Token),
    ts.map Lexeme.token = d.yield ++ us → Stops sym.strength us →
    ∃ rest : List Lexeme, rest.map Lexeme.token = us ∧ Reads ending sym ts d.value rest

variable {k : Nat} {m : Mark} {ts rest : List Lexeme} {t : Token} {us : List Token}

/-- The first of the lexemes has the first of the tokens. -/
theorem exists_lexeme (h : ts.map Lexeme.token = t :: us) :
    ∃ stop rest, ts = ⟨t, stop⟩ :: rest ∧ rest.map Lexeme.token = us := by
  obtain ⟨⟨_, stop⟩, rest, rfl, rfl, hrest⟩ := List.map_eq_cons_iff.mp h
  exact ⟨stop, rest, rfl, hrest⟩

namespace Derivation.IsRead

open RowTemplate.Grammar.Derivation

theorem plain {e : Derivation .coalesced} (ihe : e.IsRead) : e.plain.IsRead := by
  intro ending ts us hts hs
  obtain ⟨rest, rfl, ⟨_, h⟩, he, rfl⟩ := ihe ending ts us hts (hs.mono (by decide))
  refine ⟨rest, rfl, ?_⟩
  rw [Reads, Gives, ternary, he]
  simp only [ok_bind]
  split
  case h_1 => exact absurd rfl (hs.ne_mark rfl (Nat.le_refl _) _)
  case h_2 => exact ⟨_, rfl, rfl⟩

theorem conditional {c : Derivation .coalesced} {y n : Derivation .ternary} (ihc : c.IsRead)
    (ihy : y.IsRead) (ihn : n.IsRead) : (c.conditional y n).IsRead := by
  intro ending ts us hts hs
  simp only [yield, List.append_assoc, List.cons_append] at hts
  obtain ⟨_, hquestion, ⟨_, hc⟩, hreadc, rfl⟩ := ihc ending ts _ hts (.of_some rfl (by decide))
  obtain ⟨_, _, rfl, hyes⟩ := exists_lexeme hquestion
  obtain ⟨_, hcolon, ⟨_, hy⟩, hready, rfl⟩ := ihy ending _ _ hyes (.of_none rfl)
  obtain ⟨_, _, rfl, hno⟩ := exists_lexeme hcolon
  obtain ⟨rest, rfl, ⟨_, hn⟩, hreadn, rfl⟩ := ihn ending _ us hno hs
  refine ⟨rest, rfl, ?_⟩
  rw [Reads, Gives, ternary, hreadc]
  simp only [ok_bind]
  rw [hready]
  simp only [ok_bind, expect_mark]
  rw [hreadn]
  exact ⟨_, rfl, rfl⟩

theorem coalesced {e : Derivation (.level 0)} {more : Derivation .alternatives}
    (ihe : e.IsRead) (ihm : more.IsRead) : (e.coalesced more).IsRead := by
  intro ending ts us hts hs
  simp only [yield, List.append_assoc] at hts
  obtain ⟨_, hmore, ⟨_, he⟩, hreade, rfl⟩ := ihe ending ts _ hts (more.stops_alternatives hs)
  obtain ⟨rest, rfl, ⟨_, hm⟩, hreadm, rfl⟩ := ihm ending _ us hmore hs
  refine ⟨rest, rfl, ?_⟩
  rw [Reads, Gives, Grammar.coalesced, hreade]
  simp only [ok_bind]
  rw [hreadm]
  simp only [ok_bind, value]
  cases more.value with
  | nil => exact ⟨_, rfl, rfl⟩
  | cons => exact ⟨_, rfl, rfl⟩

theorem noAlternative : noAlternative.IsRead := by
  intro ending ts us hts hs
  refine ⟨ts, hts, ?_⟩
  rw [Reads, Gives, alternatives.eq_def]
  split
  case h_1 => exact absurd hts.symm (hs.ne_mark rfl (Nat.le_refl _) _)
  case h_2 => exact ⟨_, rfl, rfl⟩

theorem alternative {e : Derivation (.level 0)} {more : Derivation .alternatives}
    (ihe : e.IsRead) (ihm : more.IsRead) : (e.alternative more).IsRead := by
  intro ending ts us hts hs
  simp only [yield, List.append_assoc, List.cons_append] at hts
  obtain ⟨_, _, rfl, he⟩ := exists_lexeme hts
  obtain ⟨_, hmore, ⟨_, he⟩, hreade, rfl⟩ := ihe ending _ _ he (more.stops_alternatives hs)
  obtain ⟨rest, rfl, ⟨_, hm⟩, hreadm, rfl⟩ := ihm ending _ us hmore hs
  refine ⟨rest, rfl, ?_⟩
  rw [Reads, Gives, alternatives, hreade]
  simp only [ok_bind]
  rw [hreadm]
  exact ⟨_, rfl, rfl⟩

theorem level {hk : k < levels} {left : Derivation (.level (k + 1))}
    {more : Derivation (.operations k)} (ihl : left.IsRead) (ihm : more.IsRead) :
    (level hk left more).IsRead := by
  intro ending ts us hts hs
  simp only [yield, List.append_assoc] at hts
  obtain ⟨_, hmore, ⟨_, hl⟩, hreadl, rfl⟩ := ihl ending ts _ hts (more.stops_operations hs)
  obtain ⟨rest, rfl, hread⟩ := ihm ending _ us hmore hs
  obtain ⟨⟨_, hm⟩, hreadm, rfl⟩ := hread left.value
  refine ⟨rest, rfl, ?_⟩
  rw [Reads, Gives, binary, if_pos hk, hreadl]
  simp only [ok_bind]
  rw [hreadm]
  exact ⟨_, rfl, rfl⟩

theorem closest {e : Derivation .unary} (ihe : e.IsRead) : e.closest.IsRead := by
  intro ending ts us hts hs
  obtain ⟨rest, hrest, hread⟩ := ihe ending ts us hts hs
  refine ⟨rest, hrest, ?_⟩
  rw [Reads, binary, if_neg (Nat.lt_irrefl _)]
  exact hread

theorem noOperation : (noOperation (k := k)).IsRead := by
  intro ending ts us hts hs
  refine ⟨ts, hts, fun left => ?_⟩
  rw [Gives, operations.eq_def]
  split
  case h_1 m p ts' =>
    split
    case h_1 join hj =>
      have hstrength := (joins_iff.mpr hj).strength
      exact absurd hts.symm (hs.ne_mark hstrength (Nat.le_refl _) _)
    case h_2 => exact ⟨_, rfl, rfl⟩
  case h_2 => exact ⟨_, rfl, rfl⟩

theorem operation {join : Expr → Expr → Expr} {hj : Joins k m join}
    {right : Derivation (.level (k + 1))} {more : Derivation (.operations k)}
    (ihr : right.IsRead) (ihm : more.IsRead) : (operation hj right more).IsRead := by
  intro ending ts us hts hs
  simp only [yield, List.append_assoc, List.cons_append] at hts
  obtain ⟨_, _, rfl, hright⟩ := exists_lexeme hts
  obtain ⟨_, hmore, ⟨_, hr⟩, hreadr, rfl⟩ := ihr ending _ _ hright (more.stops_operations hs)
  obtain ⟨rest, rfl, hread⟩ := ihm ending _ us hmore hs
  refine ⟨rest, rfl, fun left => ?_⟩
  obtain ⟨⟨_, hm⟩, hreadm, rfl⟩ := hread (join left right.value)
  rw [Gives, operations]
  split
  case h_1 join' hj' =>
    obtain rfl := hj.unique (joins_iff.mpr hj')
    rw [hreadr]
    simp only [ok_bind]
    rw [hreadm]
    exact ⟨_, rfl, rfl⟩
  case h_2 hj' => rw [joins_iff.mp hj] at hj'; cases hj'

theorem prefixed {op : UnaryOp} {hp : Prefixes m op} {e : Derivation .unary}
    (ihe : e.IsRead) : (prefixed hp e).IsRead := by
  intro ending ts us hts hs
  obtain ⟨_, _, rfl, he⟩ := exists_lexeme hts
  obtain ⟨rest, rfl, ⟨_, he⟩, hreade, rfl⟩ := ihe ending _ us he hs
  refine ⟨rest, rfl, ?_⟩
  rw [Reads, Gives, unary]
  split
  case h_1 op' hp' =>
    obtain rfl := hp.unique (prefixes_iff.mpr hp')
    rw [hreade]
    exact ⟨_, rfl, rfl⟩
  case h_2 hp' => rw [prefixes_iff.mp hp] at hp'; cases hp'

theorem unprefixed {e : Derivation .accesses} (ihe : e.IsRead) : e.unprefixed.IsRead := by
  intro ending ts us hts hs
  obtain ⟨rest, rfl, hread⟩ := ihe ending ts us hts hs
  refine ⟨rest, rfl, ?_⟩
  have hbegins := (e.begins rfl).append (rest.map Lexeme.token)
  rw [Reads, unary.eq_def]
  split
  case h_1 m p ts' =>
    split
    case h_1 op hp => exact absurd hts.symm (hbegins.ne_mark (prefixes_iff.mpr hp).not_operand _)
    case h_2 => exact hread
  case h_2 => exact hread

theorem accesses {e : Derivation .operand} {more : Derivation .access} (ihe : e.IsRead)
    (ihm : more.IsRead) : (e.accesses more).IsRead := by
  intro ending ts us hts hs
  simp only [yield, List.append_assoc] at hts
  obtain ⟨_, hmore, ⟨_, he⟩, hreade, rfl⟩ := ihe ending ts _ hts (more.stops_access hs)
  obtain ⟨rest, rfl, hread⟩ := ihm ending _ us hmore hs
  obtain ⟨⟨_, hm⟩, hreadm, rfl⟩ := hread e.value
  refine ⟨rest, rfl, ?_⟩
  rw [Reads, Gives, Grammar.accesses, hreade]
  simp only [ok_bind]
  rw [hreadm]
  exact ⟨_, rfl, rfl⟩

theorem noAccess : noAccess.IsRead := by
  intro ending ts us hts hs
  refine ⟨ts, hts, fun e => ?_⟩
  rw [Gives, access.eq_def]
  split
  case h_5 => exact ⟨_, rfl, rfl⟩
  all_goals exact absurd hts.symm (hs.ne_mark rfl (Nat.le_refl _) _)

theorem member {n : String} {more : Derivation .access} (ihm : more.IsRead) :
    (member n more).IsRead := by
  intro ending ts us hts hs
  obtain ⟨_, _, rfl, hn⟩ := exists_lexeme hts
  obtain ⟨_, ts, rfl, hmore⟩ := exists_lexeme hn
  obtain ⟨rest, rfl, hread⟩ := ihm ending _ us hmore hs
  refine ⟨rest, rfl, fun e => ?_⟩
  obtain ⟨⟨_, hm⟩, hreadm, rfl⟩ := hread (.member e (.literal (.string n)))
  rw [Gives, access]
  · rw [hreadm]
    exact ⟨_, rfl, rfl⟩
  · rintro p ts' rfl
    exact absurd hmore.symm ((more.stops_access hs).ne_mark rfl (Nat.le_refl _) _)

theorem method {n : String} {args : Derivation (.items .round)} {more : Derivation .access}
    (iha : args.IsRead) (ihm : more.IsRead) : (method n args more).IsRead := by
  intro ending ts us hts hs
  simp only [yield, List.append_assoc, List.cons_append] at hts
  obtain ⟨_, _, rfl, hn⟩ := exists_lexeme hts
  obtain ⟨_, _, rfl, hopen⟩ := exists_lexeme hn
  obtain ⟨_, _, rfl, hargs⟩ := exists_lexeme hopen
  obtain ⟨_, hmore, ⟨_, ha⟩, hreada, rfl⟩ := iha ending _ _ hargs (.ten _)
  obtain ⟨rest, rfl, hread⟩ := ihm ending _ us hmore hs
  refine ⟨rest, rfl, fun e => ?_⟩
  obtain ⟨⟨_, hm⟩, hreadm, rfl⟩ := hread (.method e n args.value)
  rw [Bracket.close] at hreada
  rw [Gives, access, hreada]
  simp only [ok_bind]
  rw [hreadm]
  exact ⟨_, rfl, rfl⟩

theorem element {property : Derivation .ternary} {more : Derivation .access}
    (ihp : property.IsRead) (ihm : more.IsRead) : (element property more).IsRead := by
  intro ending ts us hts hs
  simp only [yield, List.append_assoc, List.cons_append] at hts
  obtain ⟨_, _, rfl, hp⟩ := exists_lexeme hts
  obtain ⟨_, hclose, ⟨_, hp⟩, hreadp, rfl⟩ := ihp ending _ _ hp (.of_none rfl)
  obtain ⟨_, _, rfl, hmore⟩ := exists_lexeme hclose
  obtain ⟨rest, rfl, hread⟩ := ihm ending _ us hmore hs
  refine ⟨rest, rfl, fun e => ?_⟩
  obtain ⟨⟨_, hm⟩, hreadm, rfl⟩ := hread (.member e property.value)
  rw [Gives, access, hreadp]
  simp only [ok_bind, expect_mark]
  rw [hreadm]
  exact ⟨_, rfl, rfl⟩

theorem grouped {e : Derivation .ternary} (ihe : e.IsRead) : e.grouped.IsRead := by
  intro ending ts us hts hs
  simp only [yield, List.append_assoc, List.cons_append, List.nil_append] at hts
  obtain ⟨_, _, rfl, he⟩ := exists_lexeme hts
  obtain ⟨_, hclose, ⟨_, he⟩, hreade, rfl⟩ := ihe ending _ _ he (.of_none rfl)
  obtain ⟨_, rest, rfl, hrest⟩ := exists_lexeme hclose
  refine ⟨rest, hrest, ?_⟩
  rw [Reads, Gives, operand, hreade]
  simp only [ok_bind, expect_mark]
  exact ⟨_, rfl, rfl⟩

theorem literal {v : Value} {hl : Literal t v} : (literal hl).IsRead := by
  intro ending ts us hts hs
  obtain ⟨_, rest, rfl, hrest⟩ := exists_lexeme hts
  refine ⟨rest, hrest, ?_⟩
  rw [Reads, Gives, operand.eq_def]
  cases hl
  all_goals exact ⟨_, rfl, rfl⟩

theorem everything : everything.IsRead := by
  intro ending ts us hts hs
  obtain ⟨_, rest, rfl, hrest⟩ := exists_lexeme hts
  refine ⟨rest, hrest, ?_⟩
  rw [Reads, Gives, operand]
  exact ⟨_, rfl, rfl⟩

theorem name {n : String} : (name n).IsRead := by
  intro ending ts us hts hs
  obtain ⟨_, rest, rfl, rfl⟩ := exists_lexeme hts
  refine ⟨rest, rfl, ?_⟩
  rw [Reads, Gives, operand]
  · exact ⟨_, rfl, rfl⟩
  · rintro p ts' rfl
    exact absurd rfl (hs.ne_mark rfl (Nat.le_refl _) _)

theorem call {n : String} {args : Derivation (.items .round)} (iha : args.IsRead) :
    (call n args).IsRead := by
  intro ending ts us hts hs
  obtain ⟨_, _, rfl, hopen⟩ := exists_lexeme hts
  obtain ⟨_, _, rfl, hargs⟩ := exists_lexeme hopen
  obtain ⟨rest, rfl, ⟨_, ha⟩, hreada, rfl⟩ := iha ending _ us hargs (.ten _)
  refine ⟨rest, rfl, ?_⟩
  rw [Bracket.close] at hreada
  rw [Reads, Gives, operand, hreada]
  exact ⟨_, rfl, rfl⟩

theorem array {es : Derivation (.items .square)} (ihe : es.IsRead) : es.array.IsRead := by
  intro ending ts us hts hs
  obtain ⟨_, _, rfl, hes⟩ := exists_lexeme hts
  obtain ⟨rest, rfl, ⟨_, he⟩, hreade, rfl⟩ := ihe ending _ us hes (.ten _)
  refine ⟨rest, rfl, ?_⟩
  rw [Bracket.close] at hreade
  rw [Reads, Gives, operand, hreade]
  exact ⟨_, rfl, rfl⟩

theorem object {fs : Derivation .fields} (ihf : fs.IsRead) : fs.object.IsRead := by
  intro ending ts us hts hs
  obtain ⟨_, _, rfl, hfs⟩ := exists_lexeme hts
  obtain ⟨rest, rfl, ⟨_, hf⟩, hreadf, rfl⟩ := ihf ending _ us hfs (.ten _)
  refine ⟨rest, rfl, ?_⟩
  rw [Reads, Gives, operand, hreadf]
  exact ⟨_, rfl, rfl⟩

variable {bracket : Bracket}

theorem noItem : (@noItem bracket).IsRead := by
  intro ending ts us hts hs
  obtain ⟨_, rest, rfl, hrest⟩ := exists_lexeme hts
  refine ⟨rest, hrest, ?_⟩
  rw [Reads, Gives, items, expect_mark]
  exact ⟨_, rfl, rfl⟩

theorem lastItem {e : Derivation .ternary} (ihe : e.IsRead) :
    (@lastItem bracket e).IsRead := by
  intro ending ts us hts hs
  simp only [yield, List.append_assoc, List.cons_append, List.nil_append] at hts
  have hne : ∀ us, ts.map Lexeme.token ≠ .mark bracket.close :: us :=
    hts ▸ ((e.begins rfl).append _).ne_mark bracket.not_opening
  obtain ⟨error, hother⟩ := expect_other ending hne
  obtain ⟨_, hclose, ⟨_, he⟩, hreade, rfl⟩ := ihe ending ts _ hts (.of_none bracket.strength)
  obtain ⟨_, rest, rfl, hrest⟩ := exists_lexeme hclose
  refine ⟨rest, hrest, ?_⟩
  rw [Reads, Gives, items, hother]
  simp only [hreade, ok_bind]
  split
  case h_1 heq _ =>
    obtain ⟨hlexeme, -⟩ := List.cons.inj heq
    exact absurd (Token.mark.inj (congrArg Lexeme.token hlexeme)) bracket.ne_comma
  case h_2 =>
    rw [expect_mark]
    exact ⟨_, rfl, rfl⟩

theorem item {e : Derivation .ternary} {more : Derivation (.items bracket)} (ihe : e.IsRead)
    (ihm : more.IsRead) : (item e more).IsRead := by
  intro ending ts us hts hs
  simp only [yield, List.append_assoc, List.cons_append] at hts
  have hne : ∀ us, ts.map Lexeme.token ≠ .mark bracket.close :: us :=
    hts ▸ ((e.begins rfl).append _).ne_mark bracket.not_opening
  obtain ⟨error, hother⟩ := expect_other ending hne
  obtain ⟨_, hcomma, ⟨_, he⟩, hreade, rfl⟩ := ihe ending ts _ hts (.of_none rfl)
  obtain ⟨_, _, rfl, hmore⟩ := exists_lexeme hcomma
  obtain ⟨rest, rfl, ⟨_, hm⟩, hreadm, rfl⟩ := ihm ending _ us hmore hs
  refine ⟨rest, rfl, ?_⟩
  rw [Reads, Gives, items, hother]
  simp only [hreade, ok_bind]
  rw [hreadm]
  exact ⟨_, rfl, rfl⟩

theorem noField : noField.IsRead := by
  intro ending ts us hts hs
  obtain ⟨_, rest, rfl, hrest⟩ := exists_lexeme hts
  refine ⟨rest, hrest, ?_⟩
  rw [Reads, Gives, Grammar.fields]
  exact ⟨_, rfl, rfl⟩

theorem lastField {key : String} {hk : Key t key} {e : Derivation .ternary}
    (ihe : e.IsRead) : (lastField hk e).IsRead := by
  intro ending ts us hts hs
  simp only [yield, List.append_assoc, List.cons_append, List.nil_append] at hts
  obtain ⟨p, _, rfl, hcolon⟩ := exists_lexeme hts
  obtain ⟨_, _, rfl, he⟩ := exists_lexeme hcolon
  obtain ⟨_, hclose, ⟨_, he⟩, hreade, rfl⟩ := ihe ending _ _ he (.of_none rfl)
  obtain ⟨_, rest, rfl, hrest⟩ := exists_lexeme hclose
  refine ⟨rest, hrest, ?_⟩
  rw [Reads, Gives, Grammar.fields]
  · rw [key_iff.mp hk]
    simp only [expect_mark, ok_bind]
    rw [hreade]
    simp only [expect_mark, ok_bind]
    exact ⟨_, rfl, rfl⟩
  · exact hk.ne_mark _

theorem field {key : String} {hk : Key t key} {e : Derivation .ternary}
    {more : Derivation .fields} (ihe : e.IsRead) (ihm : more.IsRead) :
    (field hk e more).IsRead := by
  intro ending ts us hts hs
  simp only [yield, List.append_assoc, List.cons_append] at hts
  obtain ⟨p, _, rfl, hcolon⟩ := exists_lexeme hts
  obtain ⟨_, _, rfl, he⟩ := exists_lexeme hcolon
  obtain ⟨_, hcomma, ⟨_, he⟩, hreade, rfl⟩ := ihe ending _ _ he (.of_none rfl)
  obtain ⟨_, _, rfl, hmore⟩ := exists_lexeme hcomma
  obtain ⟨rest, rfl, ⟨_, hm⟩, hreadm, rfl⟩ := ihm ending _ us hmore hs
  refine ⟨rest, rfl, ?_⟩
  rw [Reads, Gives, Grammar.fields]
  · rw [key_iff.mp hk]
    simp only [expect_mark, ok_bind]
    rw [hreade]
    simp only [ok_bind]
    rw [hreadm]
    exact ⟨_, rfl, rfl⟩
  · exact hk.ne_mark _

end Derivation.IsRead

/-- Whatever a symbol derives is read. -/
theorem Derivation.isRead {sym : Symbol} (d : Derivation sym) : d.IsRead := by
  induction d with
  | plain _ ihe => exact ihe.plain
  | conditional _ _ _ ihc ihy ihn => exact ihc.conditional ihy ihn
  | coalesced _ _ ihe ihm => exact ihe.coalesced ihm
  | noAlternative => exact .noAlternative
  | alternative _ _ ihe ihm => exact ihe.alternative ihm
  | level _ _ _ ihl ihm => exact ihl.level ihm
  | closest _ ihe => exact ihe.closest
  | noOperation => exact .noOperation
  | operation _ _ _ ihr ihm => exact ihr.operation ihm
  | prefixed _ _ ihe => exact ihe.prefixed
  | unprefixed _ ihe => exact ihe.unprefixed
  | accesses _ _ ihe ihm => exact ihe.accesses ihm
  | noAccess => exact .noAccess
  | member _ _ ihm => exact ihm.member
  | method _ _ _ iha ihm => exact iha.method ihm
  | element _ _ ihp ihm => exact ihp.element ihm
  | grouped _ ihe => exact ihe.grouped
  | literal _ => exact .literal
  | everything => exact .everything
  | name => exact .name
  | call _ _ iha => exact iha.call
  | array _ ihe => exact ihe.array
  | object _ ihf => exact ihf.object
  | noItem => exact .noItem
  | lastItem _ ihe => exact ihe.lastItem
  | item _ _ ihe ihm => exact ihe.item ihm
  | noField => exact .noField
  | lastField _ _ ihe => exact ihe.lastField
  | field _ _ _ ihe ihm => exact ihe.field ihm

end RowTemplate.Grammar
