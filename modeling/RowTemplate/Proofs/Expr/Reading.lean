import RowTemplate.Expr.Grammar

/-! # Readings

What a reading gives: a value and the tokens that are left. A reading in steps
gives what its last step gives on the tokens that the others have left.
-/

namespace RowTemplate.Grammar

variable {α β : Type} {n k : Nat} {a a' : α} {b : β} {m : Mark} {ending : Ending}
  {ts rest rest' : List Lexeme}

/-- The reading succeeds with a value and the tokens that are left. -/
def Gives (reading : Reading α n) (a : α) (rest : List Lexeme) : Prop :=
  ∃ p, reading = .ok p ∧ p.1 = (a, rest)

namespace Gives

theorem length_lt {reading : Reading α n} (h : Gives reading a rest) : rest.length < n := by
  obtain ⟨⟨_, hlt⟩, -, rfl⟩ := h
  exact hlt

theorem of_bind {reading : Reading α n} {next : _ → Reading β k}
    (h : Gives (reading >>= next) b rest') :
    ∃ a rest, Gives reading a rest ∧ ∃ hlt, Gives (next ⟨(a, rest), hlt⟩) b rest' := by
  cases reading with
  | error =>
    obtain ⟨_, hread, -⟩ := h
    cases hread
  | ok p =>
    obtain ⟨⟨a, rest⟩, hlt⟩ := p
    exact ⟨a, rest, ⟨_, rfl, rfl⟩, hlt, h⟩

theorem of_pure {hlt : rest.length < n} (h : Gives (pure ⟨(a, rest), hlt⟩) a' rest') :
    a = a' ∧ rest = rest' := by
  obtain ⟨_, hread, hp⟩ := h
  cases hread
  exact Prod.mk.inj hp

theorem not_error {error : SyntaxError} (h : Gives (.error error : Reading α n) a rest) :
    False := by
  obtain ⟨_, hread, -⟩ := h
  cases hread

end Gives

theorem ok_bind {ε : Type} (a : α) (f : α → Except ε β) : (Except.ok a >>= f) = f a := rfl

theorem expect_mark (ending : Ending) (m : Mark) (stop : Nat) (rest : List Lexeme) :
    expect ending m (⟨.mark m, stop⟩ :: rest) = .ok ⟨((), rest), Nat.lt_succ_self _⟩ :=
  if_pos rfl

theorem expect_other (ending : Ending) (h : ∀ us, ts.map Lexeme.token ≠ .mark m :: us) :
    ∃ error, expect ending m ts = .error error := by
  unfold expect
  split
  case h_1 m' p rest =>
    rw [if_neg]
    · exact ⟨_, rfl⟩
    · rintro rfl
      exact h _ rfl
  case h_2 => exact ⟨_, rfl⟩

theorem gives_expect {u : Unit} (h : Gives (expect ending m ts) u rest) :
    ts.map Lexeme.token = .mark m :: rest.map Lexeme.token := by
  obtain ⟨⟨_, hlt⟩, hread, rfl⟩ := h
  unfold expect at hread
  split at hread
  case h_1 m' stop rest' =>
    split at hread
    case isTrue hm =>
      cases hread
      rw [List.map_cons, hm]
    case isFalse => cases hread
  case h_2 => cases hread

end RowTemplate.Grammar
