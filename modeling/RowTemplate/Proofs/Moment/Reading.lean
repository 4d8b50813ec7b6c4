import RowTemplate.Moment.Pattern

/-! # Reading date patterns

What the first character of a pattern is read as: a letter adds to a field, a
quote opens or closes a quotation unless another one follows, and any other
character is a piece of its own, as all but quotes are inside a quotation.
-/

namespace RowTemplate.Moment

open Text (isLetter)

variable {s : List Char} {c : Char}

theorem exists_of_map_eq_ok {f : List Piece → List Piece} {r : Except PatternFault (List Piece)}
    {pieces : List Piece} (h : r.map f = .ok pieces) : ∃ rest, r = .ok rest ∧ f rest = pieces := by
  cases r with
  | error fault => cases h
  | ok rest =>
    cases h
    exact ⟨rest, rfl, rfl⟩

theorem readPattern_cons (hc : c ≠ '\'') (s : List Char) :
    readPattern (c :: s) =
      if isLetter c then
        match Field.ofLetter? c with
        | none => .error (.unsupported c)
        | some f => (readPattern s).map (addField f (s.head? = some c))
      else (readPattern s).map (.literal c :: ·) := by
  have hdoubled (u : List Char) (heq : c = '\'') (_ : s = '\'' :: u) : False := hc heq
  exact readPattern.eq_4 c s hdoubled hc

theorem readPattern_letter (h : isLetter c = true) (s : List Char) :
    readPattern (c :: s) =
      match Field.ofLetter? c with
      | none => .error (.unsupported c)
      | some f => (readPattern s).map (addField f (s.head? = some c)) := by
  have hc : c ≠ '\'' := by
    rintro rfl
    exact absurd h (by decide)
  rw [readPattern_cons hc, if_pos h]

theorem readPattern_literal (hc : c ≠ '\'') (h : ¬ isLetter c = true) (s : List Char) :
    readPattern (c :: s) = (readPattern s).map (.literal c :: ·) := by
  rw [readPattern_cons hc, if_neg h]

theorem readPattern_quote (h : s.head? ≠ some '\'') : readPattern ('\'' :: s) = readQuoted s := by
  rw [readPattern]
  rintro s rfl
  exact h rfl

theorem readQuoted_literal (hc : c ≠ '\'') (s : List Char) :
    readQuoted (c :: s) = (readQuoted s).map (.literal c :: ·) := by
  rw [readQuoted]
  · exact fun _ heq _ => hc heq
  · exact hc

theorem readQuoted_quote (h : s.head? ≠ some '\'') : readQuoted ('\'' :: s) = readPattern s := by
  rw [readQuoted]
  rintro s rfl
  exact h rfl

end RowTemplate.Moment
