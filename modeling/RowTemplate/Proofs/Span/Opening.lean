import RowTemplate.Proofs.Span.Balanced

/-! # First openings

A search for a span looks at the first opening of the text only. It finds the
span that begins there if a balanced word and a closing brace follow, and
otherwise nothing.
-/

namespace RowTemplate

variable {s before behind body after : List Char}

/-- The first opening of a text, given by what stands before and behind it. -/
structure FirstOpening (s before behind : List Char) : Prop where
  split : s = before ++ '$' :: '{' :: behind
  first : ∀ b t, s = b ++ '$' :: '{' :: t → before.length ≤ b.length

namespace FirstOpening

theorem nil (behind : List Char) : FirstOpening ('$' :: '{' :: behind) [] behind :=
  ⟨rfl, fun _ _ _ => Nat.zero_le _⟩

theorem cons {c : Char} (hc : ∀ t, c :: s ≠ '$' :: '{' :: t) (h : FirstOpening s before behind) :
    FirstOpening (c :: s) (c :: before) behind where
  split := by rw [h.split, List.cons_append]
  first b t heq := by
    cases b with
    | nil => exact absurd heq (hc t)
    | cons d b =>
      obtain ⟨-, heq⟩ := List.cons.inj heq
      exact Nat.succ_le_succ (h.first b t heq)

theorem of_cons {c : Char} (h : FirstOpening (c :: s) (c :: before) behind) :
    FirstOpening s before behind where
  split := (List.cons.inj h.split).2
  first b t heq := by
    have := h.first (c :: b) t (by rw [heq, List.cons_append])
    simpa using this

theorem of_literal {literal : List Char} (h : ¬ ['$', '{'] <:+: literal) (behind : List Char) :
    FirstOpening (literal ++ '$' :: '{' :: behind) literal behind := by
  induction literal with
  | nil => exact .nil behind
  | cons c literal ih =>
    refine .cons (fun t heq => ?_) (ih fun hl => h (hl.trans (List.suffix_cons ..).isInfix))
    obtain ⟨rfl, hrest⟩ := List.cons.inj heq
    cases literal with
    | nil => exact absurd (List.cons.inj hrest).1 (by decide)
    | cons d literal =>
      obtain ⟨rfl, -⟩ := List.cons.inj hrest
      exact h ⟨[], literal, rfl⟩

theorem unique {before' behind' : List Char} (h : FirstOpening s before behind)
    (h' : FirstOpening s before' behind') : before = before' ∧ behind = behind' := by
  have hlen : before.length = before'.length :=
    Nat.le_antisymm (h.first _ _ h'.split) (h'.first _ _ h.split)
  obtain ⟨hb, ht⟩ := List.append_inj (h.split.symm.trans h'.split) hlen
  exact ⟨hb, by simpa using ht⟩

end FirstOpening

/-- A search looks behind the first opening. -/
theorem firstSpan?_of_opening (h : FirstOpening s before behind) :
    firstSpan? s =
      (spanBody? (.code 0) behind).map fun (body, after) => ⟨before, body, after⟩ := by
  induction before generalizing s with
  | nil => rw [h.split, List.nil_append, firstSpan?]
  | cons c before ih =>
    have hs := h.split
    rw [List.cons_append] at hs
    subst hs
    have hc : ∀ t, c :: (before ++ '$' :: '{' :: behind) ≠ '$' :: '{' :: t := fun t heq =>
      absurd (h.first [] t heq) (by simp)
    rw [firstSpan?, ih h.of_cons, Option.map_map]
    · rfl
    · intro t h₁ h₂
      exact hc t (by rw [h₁, h₂])

/-- The span that a search finds, said of the text: it stands at the first opening. -/
theorem firstSpan?_eq_some_iff :
    firstSpan? s = some ⟨before, body, after⟩ ↔
      FirstOpening s before (body ++ '}' :: after) ∧ Balanced body := by
  constructor
  · intro h
    fun_induction firstSpan? s generalizing before with
    | case1 s =>
      obtain ⟨⟨b, r⟩, hb, heq⟩ := Option.map_eq_some_iff.mp h
      obtain ⟨rfl, rfl, rfl⟩ := SpanSplit.mk.inj heq
      obtain ⟨rfl, hbal⟩ := spanBody?_eq_some_iff.mp hb
      exact ⟨.nil _, hbal⟩
    | case2 c s hs ih =>
      obtain ⟨⟨b, r, a⟩, hi, heq⟩ := Option.map_eq_some_iff.mp h
      obtain ⟨rfl, rfl, rfl⟩ := SpanSplit.mk.inj heq
      obtain ⟨ho, hbal⟩ := ih hi
      refine ⟨ho.cons fun t ht => ?_, hbal⟩
      obtain ⟨rfl, rfl⟩ := List.cons.inj ht
      exact hs t rfl rfl
    | case3 => simp at h
  · rintro ⟨ho, hb⟩
    rw [firstSpan?_of_opening ho, spanBody?_eq_some_iff.mpr ⟨rfl, hb⟩]
    rfl

theorem firstSpan?_of_literal (h : ¬ ['$', '{'] <:+: s) : firstSpan? s = none := by
  refine Option.eq_none_iff_forall_ne_some.mpr fun split hs => h ?_
  exact ⟨split.before, split.body ++ '}' :: split.after, by simp [firstSpan?_eq hs, spanText]⟩

theorem segments_of_some {split : SpanSplit} (h : firstSpan? s = some split) :
    segments s = .plain split.before :: .span split.body :: segments split.after := by
  rw [segments]
  split
  case h_1 h' =>
    rw [h] at h'
    cases h'
    rfl
  case h_2 h' =>
    rw [h] at h'
    cases h'

theorem segments_of_none (h : firstSpan? s = none) : segments s = [.plain s] := by
  rw [segments]
  split
  case h_1 h' =>
    rw [h] at h'
    cases h'
  case h_2 => rfl

end RowTemplate
