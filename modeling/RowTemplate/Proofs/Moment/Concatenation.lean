import Mathlib
import RowTemplate.Proofs.Moment.Reading

/-! # Patterns one behind the other

Reading a date pattern looks ahead twice: for the end of a run of letters, and
behind a quote for another one. Neither look goes beyond the end of a pattern
that is accepted, unless what stands behind it begins with the very letter or
quote that the pattern ends with. A moment in the form of two patterns is then
written in the form of the one and of the other.
-/

namespace RowTemplate.Moment

open Text (isLetter)

variable {p q s w : List Char} {c : Char} {pieces more : List Piece}

/-! ### The seam between two texts -/

/-- A text ends with the ASCII letter that another one begins with, or a quote stands at both places.
-/
def Joined (p q : List Char) : Prop :=
  ∃ c, p.getLast? = some c ∧ q.head? = some c ∧ (isLetter c = true ∨ c = '\'')

theorem Joined.of_suffix (hs : s <:+ w) (h : Joined s q) : Joined w q := by
  obtain ⟨c, hc, hq⟩ := h
  obtain ⟨before, rfl⟩ := hs
  exact ⟨c, by rw [List.getLast?_append, hc, Option.some_or], hq⟩

theorem not_joined_nil : ¬ Joined p [] := by
  rintro ⟨c, -, hc, -⟩
  cases hc

theorem not_joined_of_ne (h : p.getLast? ≠ q.head?) : ¬ Joined p q := by
  rintro ⟨c, hp, hq, -⟩
  exact h (hp.trans hq.symm)

/-- In front of a text that does not join, a letter or quote is followed by the same character just
if it was so before. -/
theorem head?_append_eq_some_iff (hpq : ¬ Joined (c :: s) q) (hc : isLetter c = true ∨ c = '\'') :
    (s ++ q).head? = some c ↔ s.head? = some c := by
  cases s with
  | nil =>
    refine iff_of_false (fun hq => hpq ⟨c, rfl, hq, hc⟩) ?_
    rintro ⟨⟩
  | cons d s => rfl

/-! ### Pieces -/

theorem addField_false (f : Field) (pieces : List Piece) :
    addField f false pieces = .field f 1 :: pieces := by
  cases pieces with
  | nil => rfl
  | cons piece pieces => cases piece <;> rfl

theorem addField_append (f : Field) {follows : Bool} (h : follows = true → pieces ≠ []) :
    addField f follows (pieces ++ more) = addField f follows pieces ++ more := by
  cases pieces with
  | nil =>
    obtain rfl : follows = false := Bool.eq_false_iff.mpr fun hfollows => h hfollows rfl
    exact addField_false f more
  | cons piece pieces =>
    cases piece with
    | literal c => rfl
    | field g count => cases follows <;> rfl

theorem addField_ne_nil (f : Field) (follows : Bool) (pieces : List Piece) :
    addField f follows pieces ≠ [] := by
  unfold addField
  split
  · split <;> exact List.cons_ne_nil _ _
  · exact List.cons_ne_nil _ _

/-! ### Reading -/

theorem ne_nil_of_readPattern (hc : isLetter c = true) (hs : s.head? = some c)
    (h : readPattern s = .ok pieces) : pieces ≠ [] := by
  obtain ⟨s, rfl⟩ := List.head?_eq_some_iff.mp hs
  rw [readPattern_letter hc] at h
  split at h
  · cases h
  · obtain ⟨rest, -, rfl⟩ := exists_of_map_eq_ok h
    exact addField_ne_nil _ _ rest

/-- What a function reads of a text is read in front of any other pattern as well, if the two do not
join. -/
def ReadsOn (read : List Char → Except PatternFault (List Piece)) (s : List Char) : Prop :=
  ∀ ⦃q pieces⦄, ¬ Joined s q → read s = .ok pieces →
    read (s ++ q) = (readPattern q).map (pieces ++ ·)

theorem map_map_append (r : Except PatternFault (List Piece)) (f : List Piece → List Piece)
    {before : List Piece} (h : ∀ more, f (before ++ more) = f before ++ more) :
    (r.map (before ++ ·)).map f = r.map (f before ++ ·) := by
  cases r with
  | error fault => rfl
  | ok more => exact congrArg Except.ok (h more)

namespace ReadsOn

variable {read next : List Char → Except PatternFault (List Piece)}

theorem literal (h : ReadsOn next s) (hs : s <:+ w)
    (heq : ∀ q, ¬ Joined w q → read (w ++ q) = (next (s ++ q)).map (.literal c :: ·)) :
    ReadsOn read w := by
  intro q pieces hq hread
  have hread' := heq [] not_joined_nil
  rw [List.append_nil, List.append_nil, hread] at hread'
  obtain ⟨rest, hrest, rfl⟩ := exists_of_map_eq_ok hread'.symm
  rw [heq q hq, h (mt (.of_suffix hs) hq) hrest, map_map_append _ _ fun _ => rfl]

theorem skip (h : ReadsOn next s) (hs : s <:+ w)
    (heq : ∀ q, ¬ Joined w q → read (w ++ q) = next (s ++ q)) : ReadsOn read w := by
  intro q pieces hq hread
  have hread' := heq [] not_joined_nil
  rw [List.append_nil, List.append_nil, hread] at hread'
  rw [heq q hq, h (mt (.of_suffix hs) hq) hread'.symm]

end ReadsOn

theorem readsOn_letter (hc : isLetter c = true) (h : ReadsOn readPattern s) :
    ReadsOn readPattern (c :: s) := by
  intro q pieces hq hread
  rw [readPattern_letter hc] at hread
  rw [List.cons_append, readPattern_letter hc]
  cases hf : Field.ofLetter? c with
  | none =>
    rw [hf] at hread
    cases hread
  | some f =>
    rw [hf] at hread
    obtain ⟨rest, hrest, rfl⟩ := exists_of_map_eq_ok hread
    have hsuffix : s <:+ c :: s := List.suffix_cons c s
    have hhead := head?_append_eq_some_iff hq (.inl hc)
    simp only [hhead, h (mt (.of_suffix hsuffix) hq) hrest]
    refine map_map_append _ _ fun more => addField_append f fun hfollows => ?_
    exact ne_nil_of_readPattern hc (of_decide_eq_true hfollows) hrest

/-- A pattern that is accepted is read in front of any other one that it does not join, from inside a
quotation on as well. -/
theorem readsOn (s : List Char) : ReadsOn readPattern s ∧ ReadsOn readQuoted s := by
  have hquote (s : List Char) : s <:+ '\'' :: '\'' :: s := ⟨['\'', '\''], rfl⟩
  have hhead {s : List Char} (hs : ∀ t, s = '\'' :: t → False) : s.head? ≠ some '\'' := by
    intro h
    obtain ⟨t, ht⟩ := List.head?_eq_some_iff.mp h
    exact hs t ht
  -- Behind a single quote the look ahead fails in front of the other pattern as it did without it.
  have hsingle {s q : List Char} (hs : ∀ t, s = '\'' :: t → False)
      (hq : ¬ Joined ('\'' :: s) q) : (s ++ q).head? ≠ some '\'' :=
    mt (head?_append_eq_some_iff hq (.inr rfl)).mp (hhead hs)
  have h := readPattern.mutual_induct (ReadsOn readPattern) (ReadsOn readQuoted)
    ?empty ?doubled ?opening ?unknown ?field ?literal ?unended ?quotedDoubled ?closing ?quoted
  · exact ⟨h.1 s, h.2 s⟩
  case empty =>
    rintro q pieces - ⟨⟩
    cases h : readPattern q <;> simp [h, Except.map]
  case doubled =>
    refine fun s ih => ih.literal (hquote s) (c := '\'') fun q _ => ?_
    rw [List.cons_append, List.cons_append, readPattern]
  case opening =>
    exact fun s hs ih => ih.skip (List.suffix_cons _ s) fun q hq => readPattern_quote (hsingle hs hq)
  case unknown =>
    intro c s _ _ hletter hnone q pieces _ hread
    rw [readPattern_letter hletter, hnone] at hread
    cases hread
  case field => exact fun c s _ _ hletter f _ ih => readsOn_letter hletter ih
  case literal =>
    exact fun c s _ hc hletter ih => ih.literal (List.suffix_cons c s) fun q _ =>
      readPattern_literal hc hletter (s ++ q)
  case unended => rintro q pieces - ⟨⟩
  case quotedDoubled =>
    refine fun s ih => ih.literal (hquote s) (c := '\'') fun q _ => ?_
    rw [List.cons_append, List.cons_append, readQuoted]
  case closing =>
    exact fun s hs ih => ih.skip (List.suffix_cons _ s) fun q hq => readQuoted_quote (hsingle hs hq)
  case quoted =>
    exact fun c s _ hc ih => ih.literal (List.suffix_cons c s) fun q _ =>
      readQuoted_literal hc (s ++ q)

/-! ### Formatting -/

variable {t : Moment} {text : List Char}

/-- Behind an accepted pattern another one that it does not join is accepted or refused as it is by
itself, and the two forms of a moment stand one behind the other. -/
theorem format_append (h : t.format p = .ok text) (hpq : ¬ Joined p q) :
    t.format (p ++ q) = (t.format q).map (text ++ ·) := by
  obtain ⟨pieces, hpieces, rfl⟩ : ∃ pieces, readPattern p = .ok pieces ∧
      pieces.flatMap (pieceText t) = text := by
    unfold format at h
    cases hread : readPattern p with
    | error fault =>
      rw [hread] at h
      cases h
    | ok pieces =>
      rw [hread] at h
      cases h
      exact ⟨pieces, rfl, rfl⟩
  rw [format, (readsOn p).1 hpq hpieces, format]
  cases readPattern q with
  | error fault => rfl
  | ok more => exact congrArg Except.ok List.flatMap_append

/-- A pattern that ends with a quotation, in front of one with two quotes for one and in front of one
with an unknown letter. -/
theorem format_append_quoted :
    let t : Moment := ⟨2024, 6, 1, 9, 15, 0, 0, 7200⟩
    let p := "yyyyMM'T'".toList
    t.format p = .ok "202406T".toList ∧
      (¬ Joined p "HH''mm".toList ∧
        t.format (p ++ "HH''mm".toList) = .ok "202406T09'15".toList) ∧
      ¬ Joined p "HHq".toList ∧ t.format (p ++ "HHq".toList) = .error (.unsupported 'q') := by
  intro t p
  have hp : t.format p = .ok "202406T".toList := by decide +kernel
  have hclock : ¬ Joined p "HH''mm".toList := not_joined_of_ne (by decide)
  have hunknown : ¬ Joined p "HHq".toList := not_joined_of_ne (by decide)
  refine ⟨hp, ⟨hclock, (format_append hp hclock).trans ?_⟩, hunknown,
    (format_append hp hunknown).trans ?_⟩ <;> decide +kernel

end RowTemplate.Moment
