import RowTemplate.Template.Directive

/-! # Conditions in keys

The condition of an `else if` is all that stands behind the opening of its key.
Any other text in its place is the condition of an `else if` too, as long as the
key is still one span.
-/

namespace RowTemplate

variable {s t e body : List Char}

theorem eq_spanText_of_singleton? (h : singleton? s = some body) : s = spanText body := by
  unfold singleton? at h
  split at h
  case h_1 b hspan =>
    obtain rfl := Option.some.inj h
    simpa using firstSpan?_eq hspan
  case h_2 => cases h

namespace Directive

open Text (isBlank)

theorem eq_append_of_afterWord? {word : List Char} (h : afterWord? word s = some t) :
    s = word ++ t := by
  unfold afterWord? at h
  split at h
  case isTrue hword =>
    obtain ⟨rest, rfl⟩ := List.isPrefixOf_iff_prefix.mp hword
    rw [List.drop_left] at h
    rw [Option.some.inj h]
  case isFalse => cases h

theorem afterWord?_append (word t : List Char) : afterWord? word (word ++ t) = some t := by
  have hword : word.isPrefixOf (word ++ t) = true :=
    List.isPrefixOf_iff_prefix.mpr (List.prefix_append word t)
  simp [afterWord?, hword]

theorem dropWhile_takeWhile_append {p : Char → Bool} (s t : List Char) {c : Char}
    (hc : p c = false) : (s.takeWhile p ++ c :: t).dropWhile p = c :: t := by
  have hall : ∀ a ∈ s.takeWhile p, p a = true :=
    fun a ha => List.all_eq_true.mp List.all_takeWhile a ha
  rw [List.dropWhile_append_of_pos hall, List.dropWhile_cons_of_neg (by simp [hc])]

/-- Where the blanks before a text end does not depend on what follows its first character. -/
theorem afterBlanks?_spec (h : afterBlanks? s = some t) :
    ∃ blanks, s = blanks ++ t ∧
      ∀ c u, isBlank c = false → afterBlanks? (blanks ++ c :: u) = some (c :: u) := by
  cases s with
  | nil => cases h
  | cons b s =>
    cases hb : isBlank b with
    | false => simp [afterBlanks?, hb] at h
    | true =>
      have ht : s.dropWhile isBlank = t := by simpa [afterBlanks?, hb, Text.trimLeft] using h
      refine ⟨b :: s.takeWhile isBlank, ?_, fun c u hc => ?_⟩
      · rw [← ht, List.cons_append, List.takeWhile_append_dropWhile]
      · rw [List.cons_append, afterBlanks?, if_pos hb, Text.trimLeft,
          dropWhile_takeWhile_append s u hc]

theorem condition?_spec (h : condition? s = some e) :
    ∃ opening, s = opening ++ e ∧ ∀ e', condition? (opening ++ e') = some e' := by
  unfold condition? at h
  split at h
  case h_1 e₀ =>
    obtain rfl := Option.some.inj h
    exact ⟨[':'], rfl, fun e' => rfl⟩
  case h_2 c s hc =>
    cases hb : isBlank c with
    | false => simp [hb] at h
    | true =>
      cases hdrop : s.dropWhile (· ≠ ':') with
      | nil => simp only [hb, hdrop] at h; cases h
      | cons x e₀ =>
        obtain rfl : e₀ = e := by simpa only [hb, if_true, hdrop, Option.some.injEq] using h
        -- A comment ends at its colon, so that what follows it does not matter.
        have hx : x = ':' := by
          have hhead := List.head?_dropWhile_not (· ≠ ':') s
          rw [hdrop] at hhead
          simpa using hhead
        have hsplit := List.takeWhile_append_dropWhile (p := (· ≠ ':')) (l := s)
        rw [hdrop, hx] at hsplit
        refine ⟨c :: (s.takeWhile (· ≠ ':') ++ [':']), ?_, fun e' => ?_⟩
        · rw [List.cons_append, List.append_assoc, List.singleton_append, hsplit]
        · have hdrop' := dropWhile_takeWhile_append (p := (· ≠ ':')) (c := ':') s e' rfl
          rw [List.cons_append, List.append_assoc, List.singleton_append,
            condition?.eq_2 c _ hc, if_pos hb, hdrop']
  case h_3 => simp at h

/-- The opening of an `else if` takes any text for its condition, and never opens a loop. -/
theorem elseIf?_spec (h : elseIf? body = some e) :
    ∃ opening, body = opening ++ e ∧
      ∀ e', elseIf? (opening ++ e') = some e' ∧ loop? (opening ++ e') = none := by
  unfold elseIf? at h
  obtain ⟨s, hs, hrest⟩ := Option.bind_eq_some_iff.mp h
  obtain ⟨t, ht, hrest⟩ := Option.bind_eq_some_iff.mp hrest
  obtain ⟨u, hu, hcond⟩ := Option.bind_eq_some_iff.mp hrest
  obtain ⟨blanks, rfl, hblanks⟩ := afterBlanks?_spec ht
  obtain ⟨opening, rfl, hopening⟩ := condition?_spec hcond
  have ht := eq_append_of_afterWord? hu
  refine ⟨"else".toList ++ (blanks ++ ("if".toList ++ opening)), ?_, fun e' => ⟨?_, ?_⟩⟩
  · rw [eq_append_of_afterWord? hs, ht]
    simp only [List.append_assoc]
  · have hif : afterBlanks? (blanks ++ ("if".toList ++ (opening ++ e'))) =
        some ("if".toList ++ (opening ++ e')) := hblanks 'i' _ (by decide)
    rw [List.append_assoc, List.append_assoc, List.append_assoc]
    simp only [elseIf?, afterWord?_append, hif, hopening, Option.bind_eq_bind, Option.bind_some]
  · rfl

/-! ### The forms of a key -/

theorem exists_loop_of_columnLoop? {d : Directive} (h : columnLoop? s = some d) :
    ∃ var source, d = .loop var source := by
  simp only [columnLoop?, bind, Option.bind_eq_some_iff] at h
  obtain ⟨_, _, _, _, _, _, h⟩ := h
  exact ⟨_, _, (Option.some.inj h).symm⟩

theorem exists_loop_of_loop? {d : Directive} (h : loop? body = some d) :
    ∃ var source, d = .loop var source := by
  simp only [loop?, bind, Option.bind_eq_some_iff] at h
  obtain ⟨_, _, t, _, h⟩ := h
  cases hc : columnLoop? t with
  | some d' =>
    simp only [hc] at h
    obtain rfl := Option.some.inj h
    exact exists_loop_of_columnLoop? hc
  | none =>
    simp only [hc, Option.bind_eq_some_iff] at h
    obtain ⟨_, _, h⟩ := h
    exact ⟨_, _, (Option.some.inj h).symm⟩

theorem exists_var_of_var? {d : Directive} (h : var? body = some d) : ∃ name, d = .var name := by
  obtain ⟨_, _, h⟩ := Option.bind_eq_some_iff.mp h
  obtain ⟨_, _, h⟩ := Option.bind_eq_some_iff.mp h
  obtain ⟨⟨name, s⟩, _, h⟩ := Option.bind_eq_some_iff.mp h
  obtain ⟨_, _, h⟩ := Option.bind_eq_some_iff.mp h
  exact ⟨_, (Option.some.inj h).symm⟩

theorem exists_error_of_error? {d : Directive} (h : error? body = some d) :
    ∃ text, d = .error text := by
  obtain ⟨t, _, h⟩ := Option.bind_eq_some_iff.mp h
  split at h
  · exact ⟨_, (Option.some.inj h).symm⟩
  · obtain ⟨_, _, h⟩ := Option.bind_eq_some_iff.mp h
    split at h
    · exact ⟨_, (Option.some.inj h).symm⟩
    · exact ⟨_, (Option.some.inj h).symm⟩

theorem elseIf?_of_branch? {e : String} (h : branch? body = some (.branch (.elseIf e))) :
    elseIf? body = some e.toList := by
  unfold branch? at h
  split at h
  case h_1 t ht =>
    obtain rfl : String.ofList t = e := by simpa using h
    rw [ht, String.toList_ofList]
  case h_2 =>
    split at h
    · simp at h
    · split at h <;> simp at h

theorem exists_branch_of_branch? {d : Directive} (h : branch? body = some d) :
    ∃ b, d = .branch b := by
  unfold branch? at h
  split at h
  · exact ⟨_, (Option.some.inj h).symm⟩
  · split at h
    · exact ⟨_, (Option.some.inj h).symm⟩
    · split at h
      · exact ⟨_, (Option.some.inj h).symm⟩
      · cases h

/-- A key that is a directive is one span, whose body has one of the forms. -/
theorem exists_body_of_ofKey? {key : String} {d : Directive} (h : ofKey? key = some d) :
    ∃ body, singleton? key.toList = some body ∧
      (loop? body = some d ∨ branch? body = some d ∨ var? body = some d ∨
        error? body = some d) := by
  obtain ⟨body, hbody, h⟩ := Option.bind_eq_some_iff.mp h
  refine ⟨body, hbody, ?_⟩
  rcases Option.or_eq_some_iff.mp h with h | ⟨-, herror⟩
  · rcases Option.or_eq_some_iff.mp h with h | ⟨-, hvar⟩
    · rcases Option.or_eq_some_iff.mp h with hloop | ⟨-, hbranch⟩
      · exact .inl hloop
      · exact .inr (.inl hbranch)
    · exact .inr (.inr (.inl hvar))
  · exact .inr (.inr (.inr herror))

/-- A key that is an `else if` is one span, whose body is opened like one. -/
theorem elseIf?_of_ofKey? {key e : String} (h : ofKey? key = some (.branch (.elseIf e))) :
    ∃ body, key.toList = spanText body ∧ elseIf? body = some e.toList := by
  obtain ⟨body, hbody, hloop | hbranch | hvar | herror⟩ := exists_body_of_ofKey? h
  · obtain ⟨_, _, hd⟩ := exists_loop_of_loop? hloop
    cases hd
  · exact ⟨body, eq_spanText_of_singleton? hbody, elseIf?_of_branch? hbranch⟩
  · obtain ⟨_, hd⟩ := exists_var_of_var? hvar
    cases hd
  · obtain ⟨_, hd⟩ := exists_error_of_error? herror
    cases hd

/-- A key that is a loop is one span, whose body is that of a loop. -/
theorem loop?_of_ofKey? {key v : String} {source : LoopSource}
    (h : ofKey? key = some (.loop v source)) :
    ∃ body, singleton? key.toList = some body ∧ loop? body = some (.loop v source) := by
  obtain ⟨body, hbody, hloop | hbranch | hvar | herror⟩ := exists_body_of_ofKey? h
  · exact ⟨body, hbody, hloop⟩
  · obtain ⟨_, hd⟩ := exists_branch_of_branch? hbranch
    cases hd
  · obtain ⟨_, hd⟩ := exists_var_of_var? hvar
    cases hd
  · obtain ⟨_, hd⟩ := exists_error_of_error? herror
    cases hd

theorem ofKey?_of_elseIf? {key : String} (hbody : singleton? key.toList = some body)
    (hloop : loop? body = none) (h : elseIf? body = some e) :
    ofKey? key = some (.branch (.elseIf (String.ofList e))) := by
  have hbranch : branch? body = some (.branch (.elseIf (String.ofList e))) := by
    simp only [branch?, h]
  simp [ofKey?, hbody, hloop, hbranch]

/-- A key that is an `else if`, and the same key with another text for its condition that leaves
it one span. -/
def Reworded (key key' : String) : Prop :=
  ∃ opening e e' : String, key = opening ++ e ++ "\x7d" ∧ key' = opening ++ e' ++ "\x7d" ∧
    ofKey? key = some (.branch (.elseIf e)) ∧ (singleton? key'.toList).isSome

theorem Reworded.ofKey?_eq {key key' : String} (h : Reworded key key') :
    (∃ e, ofKey? key = some (.branch (.elseIf e))) ∧
      ∃ e', ofKey? key' = some (.branch (.elseIf e')) := by
  obtain ⟨opening, e, e', rfl, rfl, h, hspan⟩ := h
  refine ⟨⟨e, h⟩, e', ?_⟩
  obtain ⟨body, hkey, helse⟩ := elseIf?_of_ofKey? h
  obtain ⟨start, rfl, hstart⟩ := elseIf?_spec helse
  obtain ⟨body', hbody'⟩ := Option.isSome_iff_exists.mp hspan
  have hopening : opening.toList = '$' :: '{' :: start := by
    have happend : opening.toList ++ (e.toList ++ ['}']) =
        ('$' :: '{' :: start) ++ (e.toList ++ ['}']) := by simpa [spanText] using hkey
    exact List.append_cancel_right happend
  have hbody : body' ++ ['}'] = (start ++ e'.toList) ++ ['}'] := by
    simpa [spanText, hopening] using (eq_spanText_of_singleton? hbody').symm
  obtain rfl := List.append_cancel_right hbody
  rw [ofKey?_of_elseIf? hbody' (hstart e'.toList).2 (hstart e'.toList).1, String.ofList_toList]

end Directive

end RowTemplate
