import RowTemplate.Proofs.Expr.Lookahead

/-! # Derivations are unique

A derivation is determined by its tokens, also in front of further tokens that
could not go on with it.
-/

namespace RowTemplate.Grammar

variable {k : Nat} {m : Mark}

namespace Derivation

/-- No other derivation from the symbol yields the same tokens, in front of any tokens that
could not go on with one of the two. -/
def IsUnique {sym : Symbol} (d : Derivation sym) : Prop :=
  ∀ (d' : Derivation sym) {us us' : List Token}, d.yield ++ us = d'.yield ++ us' →
    Stops sym.strength us → Stops sym.strength us' → d = d' ∧ us = us'

namespace IsUnique

theorem plain {e : Derivation .coalesced} (ihe : e.IsUnique) : e.plain.IsUnique := by
  intro d' us us' h hs hs'
  cases d' with
  | plain e' =>
    obtain ⟨rfl, rfl⟩ := ihe e' h (hs.mono (by decide)) (hs'.mono (by decide))
    exact ⟨rfl, rfl⟩
  | conditional c' y' n' =>
    simp only [yield, List.append_assoc, List.cons_append] at h
    obtain ⟨-, rfl⟩ := ihe c' h (hs.mono (by decide)) (.of_some rfl (by decide))
    exact absurd rfl (hs.ne_mark rfl (Nat.le_refl _) _)

theorem conditional {c : Derivation .coalesced} {y n : Derivation .ternary} (ihc : c.IsUnique)
    (ihy : y.IsUnique) (ihn : n.IsUnique) : (c.conditional y n).IsUnique := by
  intro d' us us' h hs hs'
  cases d' with
  | plain e' =>
    simp only [yield, List.append_assoc, List.cons_append] at h
    obtain ⟨-, rfl⟩ := ihc e' h (.of_some rfl (by decide)) (hs'.mono (by decide))
    exact absurd rfl (hs'.ne_mark rfl (Nat.le_refl _) _)
  | conditional c' y' n' =>
    simp only [yield, List.append_assoc, List.cons_append] at h
    obtain ⟨rfl, hyes⟩ := ihc c' h (.of_some rfl (by decide)) (.of_some rfl (by decide))
    obtain ⟨rfl, hno⟩ := ihy y' (List.cons.inj hyes).2 (.of_none rfl) (.of_none rfl)
    obtain ⟨rfl, rfl⟩ := ihn n' (List.cons.inj hno).2 hs hs'
    exact ⟨rfl, rfl⟩

theorem coalesced {e : Derivation (.level 0)} {more : Derivation .alternatives}
    (ihe : e.IsUnique) (ihm : more.IsUnique) : (e.coalesced more).IsUnique := by
  intro d' us us' h hs hs'
  cases d' with
  | coalesced e' more' =>
    simp only [yield, List.append_assoc] at h
    obtain ⟨rfl, hmore⟩ := ihe e' h (more.stops_alternatives hs) (more'.stops_alternatives hs')
    obtain ⟨rfl, rfl⟩ := ihm more' hmore hs hs'
    exact ⟨rfl, rfl⟩

theorem noAlternative : noAlternative.IsUnique := by
  intro d' us us' h hs hs'
  cases d' with
  | noAlternative => exact ⟨rfl, h⟩
  | alternative => exact absurd h (hs.ne_mark rfl (Nat.le_refl _) _)

theorem alternative {e : Derivation (.level 0)} {more : Derivation .alternatives}
    (ihe : e.IsUnique) (ihm : more.IsUnique) : (e.alternative more).IsUnique := by
  intro d' us us' h hs hs'
  cases d' with
  | noAlternative => exact absurd h.symm (hs'.ne_mark rfl (Nat.le_refl _) _)
  | alternative e' more' =>
    simp only [yield, List.append_assoc, List.cons_append] at h
    obtain ⟨rfl, hmore⟩ := ihe e' (List.cons.inj h).2 (more.stops_alternatives hs)
      (more'.stops_alternatives hs')
    obtain ⟨rfl, rfl⟩ := ihm more' hmore hs hs'
    exact ⟨rfl, rfl⟩

theorem level {hk : k < levels} {left : Derivation (.level (k + 1))}
    {more : Derivation (.operations k)} (ihl : left.IsUnique) (ihm : more.IsUnique) :
    (level hk left more).IsUnique := by
  intro d' us us' h hs hs'
  cases d' with
  | level hk' left' more' =>
    simp only [yield, List.append_assoc] at h
    obtain ⟨rfl, hmore⟩ := ihl left' h (more.stops_operations hs) (more'.stops_operations hs')
    obtain ⟨rfl, rfl⟩ := ihm more' hmore hs hs'
    exact ⟨rfl, rfl⟩
  | closest => exact absurd hk (Nat.lt_irrefl _)

theorem closest {e : Derivation .unary} (ihe : e.IsUnique) : e.closest.IsUnique := by
  intro d' us us' h hs hs'
  cases d' with
  | level hk' => exact absurd hk' (Nat.lt_irrefl _)
  | closest e' =>
    obtain ⟨rfl, rfl⟩ := ihe e' h hs hs'
    exact ⟨rfl, rfl⟩

theorem noOperation : (noOperation (k := k)).IsUnique := by
  intro d' us us' h hs hs'
  cases d' with
  | noOperation => exact ⟨rfl, h⟩
  | operation hj => exact absurd h (hs.ne_mark hj.strength (Nat.le_refl _) _)

theorem operation {join : Expr → Expr → Expr} {hj : Joins k m join}
    {right : Derivation (.level (k + 1))} {more : Derivation (.operations k)}
    (ihr : right.IsUnique) (ihm : more.IsUnique) : (operation hj right more).IsUnique := by
  intro d' us us' h hs hs'
  cases d' with
  | noOperation => exact absurd h.symm (hs'.ne_mark hj.strength (Nat.le_refl _) _)
  | operation hj' right' more' =>
    simp only [yield, List.append_assoc, List.cons_append] at h
    obtain ⟨hm, hright⟩ := List.cons.inj h
    cases hm
    obtain rfl := hj.unique hj'
    obtain ⟨rfl, hmore⟩ := ihr right' hright (more.stops_operations hs)
      (more'.stops_operations hs')
    obtain ⟨rfl, rfl⟩ := ihm more' hmore hs hs'
    exact ⟨rfl, rfl⟩

theorem prefixed {op : UnaryOp} {hp : Prefixes m op} {e : Derivation .unary}
    (ihe : e.IsUnique) : (prefixed hp e).IsUnique := by
  intro d' us us' h hs hs'
  cases d' with
  | prefixed hp' e' =>
    obtain ⟨hm, he⟩ := List.cons.inj h
    cases hm
    obtain rfl := hp.unique hp'
    obtain ⟨rfl, rfl⟩ := ihe e' he hs hs'
    exact ⟨rfl, rfl⟩
  | unprefixed e' =>
    exact absurd h.symm (((e'.begins rfl).append _).ne_mark hp.not_operand _)

theorem unprefixed {e : Derivation .accesses} (ihe : e.IsUnique) : e.unprefixed.IsUnique := by
  intro d' us us' h hs hs'
  cases d' with
  | prefixed hp' e' =>
    exact absurd h (((e.begins rfl).append _).ne_mark hp'.not_operand _)
  | unprefixed e' =>
    obtain ⟨rfl, rfl⟩ := ihe e' h hs hs'
    exact ⟨rfl, rfl⟩

theorem accesses {e : Derivation .operand} {more : Derivation .access} (ihe : e.IsUnique)
    (ihm : more.IsUnique) : (e.accesses more).IsUnique := by
  intro d' us us' h hs hs'
  cases d' with
  | accesses e' more' =>
    simp only [yield, List.append_assoc] at h
    obtain ⟨rfl, hmore⟩ := ihe e' h (more.stops_access hs) (more'.stops_access hs')
    obtain ⟨rfl, rfl⟩ := ihm more' hmore hs hs'
    exact ⟨rfl, rfl⟩

theorem noAccess : noAccess.IsUnique := by
  intro d' us us' h hs hs'
  cases d' with
  | noAccess => exact ⟨rfl, h⟩
  | member => exact absurd h (hs.ne_mark rfl (Nat.le_refl _) _)
  | method => exact absurd h (hs.ne_mark rfl (Nat.le_refl _) _)
  | element => exact absurd h (hs.ne_mark rfl (Nat.le_refl _) _)

theorem member {n : String} {more : Derivation .access} (ihm : more.IsUnique) :
    (member n more).IsUnique := by
  intro d' us us' h hs hs'
  cases d' with
  | noAccess => exact absurd h.symm (hs'.ne_mark rfl (Nat.le_refl _) _)
  | member n' more' =>
    obtain ⟨hn, hmore⟩ := List.cons.inj (List.cons.inj h).2
    cases hn
    obtain ⟨rfl, rfl⟩ := ihm more' hmore hs hs'
    exact ⟨rfl, rfl⟩
  | method n' args' more' =>
    exact absurd (List.cons.inj (List.cons.inj h).2).2
      ((more.stops_access hs).ne_mark rfl (Nat.le_refl _) _)
  | element => cases (List.cons.inj h).1

theorem method {n : String} {args : Derivation (.items .round)} {more : Derivation .access}
    (iha : args.IsUnique) (ihm : more.IsUnique) : (method n args more).IsUnique := by
  intro d' us us' h hs hs'
  cases d' with
  | noAccess => exact absurd h.symm (hs'.ne_mark rfl (Nat.le_refl _) _)
  | member n' more' =>
    exact absurd (List.cons.inj (List.cons.inj h).2).2.symm
      ((more'.stops_access hs').ne_mark rfl (Nat.le_refl _) _)
  | method n' args' more' =>
    simp only [yield, List.append_assoc, List.cons_append] at h
    obtain ⟨hn, hargs⟩ := List.cons.inj (List.cons.inj h).2
    cases hn
    obtain ⟨rfl, hmore⟩ := iha args' (List.cons.inj hargs).2 (.ten _) (.ten _)
    obtain ⟨rfl, rfl⟩ := ihm more' hmore hs hs'
    exact ⟨rfl, rfl⟩
  | element => cases (List.cons.inj h).1

theorem element {property : Derivation .ternary} {more : Derivation .access}
    (ihp : property.IsUnique) (ihm : more.IsUnique) : (element property more).IsUnique := by
  intro d' us us' h hs hs'
  cases d' with
  | noAccess => exact absurd h.symm (hs'.ne_mark rfl (Nat.le_refl _) _)
  | member => cases (List.cons.inj h).1
  | method => cases (List.cons.inj h).1
  | element property' more' =>
    simp only [yield, List.append_assoc, List.cons_append] at h
    obtain ⟨rfl, hmore⟩ := ihp property' (List.cons.inj h).2 (.of_none rfl) (.of_none rfl)
    obtain ⟨rfl, rfl⟩ := ihm more' (List.cons.inj hmore).2 hs hs'
    exact ⟨rfl, rfl⟩

theorem grouped {e : Derivation .ternary} (ihe : e.IsUnique) : e.grouped.IsUnique := by
  intro d' us us' h hs hs'
  cases d' with
  | grouped e' =>
    simp only [yield, List.append_assoc, List.cons_append, List.nil_append] at h
    obtain ⟨rfl, hus⟩ := ihe e' (List.cons.inj h).2 (.of_none rfl) (.of_none rfl)
    exact ⟨rfl, (List.cons.inj hus).2⟩
  | literal hl => exact absurd (List.cons.inj h).1.symm (hl.ne_mark _)
  | _ => cases (List.cons.inj h).1

theorem literal {t : Token} {v : Value} {hl : Literal t v} : (literal hl).IsUnique := by
  intro d' us us' h hs hs'
  cases d' with
  | literal hl' =>
    obtain ⟨ht, hus⟩ := List.cons.inj h
    cases ht
    obtain rfl := hl.unique hl'
    exact ⟨rfl, hus⟩
  | _ =>
    cases (List.cons.inj h).1
    cases hl

theorem everything : everything.IsUnique := by
  intro d' us us' h hs hs'
  cases d' with
  | everything => exact ⟨rfl, (List.cons.inj h).2⟩
  | literal hl =>
    cases (List.cons.inj h).1
    cases hl
  | _ => cases (List.cons.inj h).1

theorem name {n : String} : (name n).IsUnique := by
  intro d' us us' h hs hs'
  cases d' with
  | name n' =>
    obtain ⟨hn, hus⟩ := List.cons.inj h
    cases hn
    exact ⟨rfl, hus⟩
  | call n' args' => exact absurd (List.cons.inj h).2 (hs.ne_mark rfl (Nat.le_refl _) _)
  | literal hl =>
    cases (List.cons.inj h).1
    cases hl
  | _ => cases (List.cons.inj h).1

theorem call {n : String} {args : Derivation (.items .round)} (iha : args.IsUnique) :
    (call n args).IsUnique := by
  intro d' us us' h hs hs'
  cases d' with
  | name n' => exact absurd (List.cons.inj h).2.symm (hs'.ne_mark rfl (Nat.le_refl _) _)
  | call n' args' =>
    obtain ⟨hn, hargs⟩ := List.cons.inj h
    cases hn
    obtain ⟨rfl, rfl⟩ := iha args' (List.cons.inj hargs).2 (.ten _) (.ten _)
    exact ⟨rfl, rfl⟩
  | literal hl =>
    cases (List.cons.inj h).1
    cases hl
  | _ => cases (List.cons.inj h).1

theorem array {es : Derivation (.items .square)} (ihe : es.IsUnique) : es.array.IsUnique := by
  intro d' us us' h hs hs'
  cases d' with
  | array es' =>
    obtain ⟨rfl, rfl⟩ := ihe es' (List.cons.inj h).2 (.ten _) (.ten _)
    exact ⟨rfl, rfl⟩
  | literal hl => exact absurd (List.cons.inj h).1.symm (hl.ne_mark _)
  | _ => cases (List.cons.inj h).1

theorem object {fs : Derivation .fields} (ihf : fs.IsUnique) : fs.object.IsUnique := by
  intro d' us us' h hs hs'
  cases d' with
  | object fs' =>
    obtain ⟨rfl, rfl⟩ := ihf fs' (List.cons.inj h).2 (.ten _) (.ten _)
    exact ⟨rfl, rfl⟩
  | literal hl => exact absurd (List.cons.inj h).1.symm (hl.ne_mark _)
  | _ => cases (List.cons.inj h).1

variable {bracket : Bracket}

theorem noItem : (@noItem bracket).IsUnique := by
  intro d' us us' h hs hs'
  cases d' with
  | noItem => exact ⟨rfl, (List.cons.inj h).2⟩
  | lastItem e' =>
    exact absurd h.symm ((((e'.begins rfl).append _).append _).ne_mark bracket.not_opening _)
  | item e' =>
    exact absurd h.symm ((((e'.begins rfl).append _).append _).ne_mark bracket.not_opening _)

theorem lastItem {e : Derivation .ternary} (ihe : e.IsUnique) :
    (@lastItem bracket e).IsUnique := by
  intro d' us us' h hs hs'
  cases d' with
  | noItem =>
    exact absurd h (((e.begins rfl).append _ |>.append _).ne_mark bracket.not_opening _)
  | lastItem e' =>
    simp only [yield, List.append_assoc, List.cons_append, List.nil_append] at h
    obtain ⟨rfl, hus⟩ := ihe e' h (.of_none bracket.strength) (.of_none bracket.strength)
    exact ⟨rfl, (List.cons.inj hus).2⟩
  | item e' more' =>
    simp only [yield, List.append_assoc, List.cons_append, List.nil_append] at h
    obtain ⟨-, hus⟩ := ihe e' h (.of_none bracket.strength) (.of_none rfl)
    exact absurd (Token.mark.inj (List.cons.inj hus).1) bracket.ne_comma

theorem item {e : Derivation .ternary} {more : Derivation (.items bracket)} (ihe : e.IsUnique)
    (ihm : more.IsUnique) : (item e more).IsUnique := by
  intro d' us us' h hs hs'
  cases d' with
  | noItem =>
    exact absurd h (((e.begins rfl).append _ |>.append _).ne_mark bracket.not_opening _)
  | lastItem e' =>
    simp only [yield, List.append_assoc, List.cons_append, List.nil_append] at h
    obtain ⟨-, hus⟩ := ihe e' h (.of_none rfl) (.of_none bracket.strength)
    exact absurd (Token.mark.inj (List.cons.inj hus).1).symm bracket.ne_comma
  | item e' more' =>
    simp only [yield, List.append_assoc, List.cons_append] at h
    obtain ⟨rfl, hmore⟩ := ihe e' h (.of_none rfl) (.of_none rfl)
    obtain ⟨rfl, rfl⟩ := ihm more' (List.cons.inj hmore).2 hs hs'
    exact ⟨rfl, rfl⟩

theorem noField : noField.IsUnique := by
  intro d' us us' h hs hs'
  cases d' with
  | noField => exact ⟨rfl, (List.cons.inj h).2⟩
  | lastField hk => exact absurd (List.cons.inj h).1.symm (hk.ne_mark _)
  | field hk => exact absurd (List.cons.inj h).1.symm (hk.ne_mark _)

theorem lastField {t : Token} {key : String} {hk : Key t key} {e : Derivation .ternary}
    (ihe : e.IsUnique) : (lastField hk e).IsUnique := by
  intro d' us us' h hs hs'
  simp only [yield, List.append_assoc, List.cons_append, List.nil_append] at h
  cases d' with
  | noField => exact absurd (List.cons.inj h).1 (hk.ne_mark _)
  | lastField hk' e' =>
    simp only [yield, List.append_assoc, List.cons_append, List.nil_append] at h
    obtain ⟨ht, he⟩ := List.cons.inj h
    cases ht
    obtain rfl := hk.unique hk'
    obtain ⟨rfl, hus⟩ := ihe e' (List.cons.inj he).2 (.of_none rfl) (.of_none rfl)
    exact ⟨rfl, (List.cons.inj hus).2⟩
  | field hk' e' more' =>
    simp only [yield, List.append_assoc, List.cons_append] at h
    obtain ⟨-, hus⟩ := ihe e' (List.cons.inj (List.cons.inj h).2).2 (.of_none rfl) (.of_none rfl)
    cases (List.cons.inj hus).1

theorem field {t : Token} {key : String} {hk : Key t key} {e : Derivation .ternary}
    {more : Derivation .fields} (ihe : e.IsUnique) (ihm : more.IsUnique) :
    (field hk e more).IsUnique := by
  intro d' us us' h hs hs'
  simp only [yield, List.append_assoc, List.cons_append] at h
  cases d' with
  | noField => exact absurd (List.cons.inj h).1 (hk.ne_mark _)
  | lastField hk' e' =>
    simp only [yield, List.append_assoc, List.cons_append, List.nil_append] at h
    obtain ⟨-, hus⟩ := ihe e' (List.cons.inj (List.cons.inj h).2).2 (.of_none rfl) (.of_none rfl)
    cases (List.cons.inj hus).1
  | field hk' e' more' =>
    simp only [yield, List.append_assoc, List.cons_append] at h
    obtain ⟨ht, he⟩ := List.cons.inj h
    cases ht
    obtain rfl := hk.unique hk'
    obtain ⟨rfl, hmore⟩ := ihe e' (List.cons.inj he).2 (.of_none rfl) (.of_none rfl)
    obtain ⟨rfl, rfl⟩ := ihm more' (List.cons.inj hmore).2 hs hs'
    exact ⟨rfl, rfl⟩

end IsUnique

/-- A derivation is determined by its tokens. -/
theorem isUnique {sym : Symbol} (d : Derivation sym) : d.IsUnique := by
  induction d with
  | plain _ ihe => exact ihe.plain
  | conditional _ _ _ ihc ihy ihn => exact ihc.conditional ihy ihn
  | coalesced _ _ ihe ihm => exact ihe.coalesced ihm
  | noAlternative => exact .noAlternative
  | alternative _ _ ihe ihm => exact ihe.alternative ihm
  | level _ _ _ ihl ihm => exact ihl.level ihm
  | closest _ ihe => exact ihe.closest
  | noOperation => exact .noOperation
  | operation _ _ _ ihr ihm => exact ihr.operation ihm
  | prefixed _ _ ihe => exact ihe.prefixed
  | unprefixed _ ihe => exact ihe.unprefixed
  | accesses _ _ ihe ihm => exact ihe.accesses ihm
  | noAccess => exact .noAccess
  | member _ _ ihm => exact ihm.member
  | method _ _ _ iha ihm => exact iha.method ihm
  | element _ _ ihp ihm => exact ihp.element ihm
  | grouped _ ihe => exact ihe.grouped
  | literal _ => exact .literal
  | everything => exact .everything
  | name => exact .name
  | call _ _ iha => exact iha.call
  | array _ ihe => exact ihe.array
  | object _ ihf => exact ihf.object
  | noItem => exact .noItem
  | lastItem _ ihe => exact ihe.lastItem
  | item _ _ ihe ihm => exact ihe.item ihm
  | noField => exact .noField
  | lastField _ _ ihe => exact ihe.lastField
  | field _ _ _ ihe ihm => exact ihe.field ihm

end Derivation

end RowTemplate.Grammar
