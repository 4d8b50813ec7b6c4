import RowTemplate.Proofs.Expr.Spelling

/-! # Splitting into tokens

Reading skips blanks and takes the longest word at the front of the text that
spells a token. A text splits into tokens in one way at most, and the reading of
its tokens comes to its end when there is one.
-/

namespace RowTemplate

/-- The word is the longest at the front of the text `s` that spells a token, and it spells `t`. -/
structure Longest (s w : List Char) (t : Token) : Prop where
  spells : Spelling w t
  starts : w <+: s
  longest : ∀ v t', Spelling v t' → v <+: s → v.length ≤ w.length

/-- Reading takes the longest word that spells a token. -/
theorem first_eq_ok_iff {c : Char} {w s : List Char} {t : Token} :
    Token.first c (w ++ s) = .ok (t, w.length) ↔ Longest (c :: w ++ s) (c :: w) t := by
  constructor
  · intro h
    obtain ⟨v, rest, hsplit, hlen, hv⟩ := Token.spelling_of_first h
    obtain ⟨rfl, rfl⟩ := List.append_inj hsplit hlen
    refine ⟨hv, List.prefix_append _ _, fun u t' hu hpre => ?_⟩
    obtain ⟨d, u, rfl⟩ := List.exists_cons_of_ne_nil hu.ne_nil
    obtain ⟨rest, hrest⟩ := hpre
    obtain ⟨rfl, hs⟩ : d = c ∧ u ++ rest = w ++ s := List.cons.inj hrest
    obtain ⟨t'', n, hread, hle, -⟩ := Token.readsPast_of_spelling hu rest
    rw [hs, h] at hread
    cases hread
    exact Nat.succ_le_succ hle
  · intro h
    obtain ⟨t', n, hread, hle, -⟩ := Token.readsPast_of_spelling h.spells s
    obtain ⟨v, rest, hsplit, rfl, hv⟩ := Token.spelling_of_first hread
    have hlen := h.longest _ _ hv ⟨rest, by rw [List.cons_append, ← hsplit, List.cons_append]⟩
    obtain ⟨rfl, -⟩ := List.append_inj hsplit (Nat.le_antisymm hle (Nat.le_of_succ_le_succ hlen))
    rw [hread, hv.unique h.spells]

/-- The text splits into the tokens: blanks are skipped, and elsewhere the longest word that
spells a token is taken. -/
inductive Splits : List Char → List Token → Prop
  | done : Splits [] []
  | blank {c : Char} {s : List Char} {ts : List Token} : Text.isBlank c = true → Splits s ts →
    Splits (c :: s) ts
  | token {c : Char} {w s : List Char} {t : Token} {ts : List Token} : Text.isBlank c = false →
    Longest (c :: w ++ s) (c :: w) t → Splits s ts → Splits (c :: w ++ s) (t :: ts)

/-- A word that spells a token splits into it. -/
theorem Splits.single {c : Char} {w : List Char} {t : Token} (hc : Text.isBlank c = false)
    (h : Spelling (c :: w) t) : Splits (c :: w) [t] := by
  have hlongest : Longest (c :: w ++ []) (c :: w) t :=
    ⟨h, List.prefix_append _ _, fun v _ _ hv => by simpa using hv.length_le⟩
  simpa using Splits.token hc hlongest .done

/-- The reading of tokens is finished when the text splits, and has read what it splits into. -/
theorem splits_iff (start : Nat) {s : List Char} {ts : List Token} :
    Splits s ts ↔
      (Lexed.from start s).lexemes.map Lexeme.token = ts ∧
        ∃ stop, (Lexed.from start s).ending = .finished stop := by
  constructor
  · intro h
    induction h generalizing start with
    | done => simp [Lexed.from]
    | blank hc _ ih =>
      rw [Lexed.from, if_pos hc]
      exact ih _
    | @token c w s t ts hc hlong _ ih =>
      obtain ⟨htokens, hending⟩ := ih (start + byteWidth (c :: w))
      have hread := first_eq_ok_iff.mpr hlong
      rw [List.cons_append, Lexed.from, if_neg (by simp [hc]), hread]
      simp only [List.take_left, List.drop_left, List.map_cons, htokens, true_and]
      exact hending
  · rintro ⟨htokens, stop, hending⟩
    fun_induction Lexed.from start s generalizing ts with
    | case1 =>
      subst htokens
      exact .done
    | case2 start c s hc ih => exact .blank hc (ih htokens hending)
    | case3 => cases hending
    | case4 start c s hc t n hread stop' rest =>
      rename_i ih
      obtain ⟨w, s, rfl, rfl, -⟩ := Token.spelling_of_first hread
      subst htokens
      have hsplits : Splits ((w ++ s).drop w.length) (rest.lexemes.map Lexeme.token) :=
        ih rfl hending
      rw [List.drop_left] at hsplits
      exact .token (by simpa using hc) (first_eq_ok_iff.mp hread) hsplits

theorem Splits.nil_iff {ts : List Token} : Splits [] ts ↔ ts = [] := by
  rw [splits_iff 0, Lexed.from]
  simp [eq_comm]

theorem Splits.blank_iff {c : Char} {s : List Char} {ts : List Token}
    (hc : Text.isBlank c = true) : Splits (c :: s) ts ↔ Splits s ts := by
  rw [splits_iff 0, Lexed.from, if_pos hc, ← splits_iff]

/-- A text that begins with a token splits if what stands behind the token does. -/
theorem Splits.cons_iff {c : Char} {s : List Char} {t : Token} {n : Nat} {ts : List Token}
    (hc : Text.isBlank c = false) (hfirst : Token.first c s = .ok (t, n)) :
    Splits (c :: s) ts ↔ ∃ us, ts = t :: us ∧ Splits (s.drop n) us := by
  have hrest (us : List Token) : Splits (s.drop n) us ↔ _ :=
    splits_iff (byteWidth (c :: s.take n))
  rw [splits_iff 0, Lexed.from, if_neg (by simp [hc]), hfirst]
  simp only [List.map_cons, hrest, Nat.zero_add]
  constructor
  · rintro ⟨rfl, hending⟩
    exact ⟨_, rfl, rfl, hending⟩
  · rintro ⟨us, rfl, rfl, hending⟩
    exact ⟨rfl, hending⟩

theorem Splits.not_of_fault {c : Char} {s : List Char} {problem : SyntaxProblem} {ts : List Token}
    (hc : Text.isBlank c = false) (hfirst : Token.first c s = .error problem) :
    ¬ Splits (c :: s) ts := by
  rw [splits_iff 0, Lexed.from, if_neg (by simp [hc]), hfirst]
  rintro ⟨-, stop, hending⟩
  cases hending

theorem Splits.unique {s : List Char} {ts ts' : List Token} (h : Splits s ts)
    (h' : Splits s ts') : ts = ts' := by
  obtain ⟨hts, -⟩ := (splits_iff 0).mp h
  obtain ⟨hts', -⟩ := (splits_iff 0).mp h'
  exact hts.symm.trans hts'

end RowTemplate
