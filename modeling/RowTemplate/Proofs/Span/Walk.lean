import Mathlib.Order.Monotone.Basic
import RowTemplate.Proofs.Span.Bytes

/-! # Walks over the spans of a text

Every search of a walk goes on behind the span found last. What it returns is
said of the text that is left: the first opening there begins a span exactly
when a balanced word and a closing brace follow. A search that finds nothing
leaves the walk where it was.
-/

namespace RowTemplate

theorem byteWidth_eq_zero_iff {s : List Char} : byteWidth s = 0 ↔ s = [] := by
  cases s with
  | nil => simp [byteWidth]
  | cons c s =>
    have hc := c.utf8Size_pos
    simp only [byteWidth, reduceCtorEq, iff_false]
    omega

/-- The words that stand between the first opening of a text and the end of its span are equal. -/
theorem Balanced.unique {body body' after after' : List Char} (h : Balanced body)
    (h' : Balanced body') (heq : body ++ '}' :: after = body' ++ '}' :: after') :
    body = body' := by
  have hread : spanBody? (.code 0) (body ++ '}' :: after) = some (body, after) :=
    spanBody?_eq_some_iff.mpr ⟨rfl, h⟩
  rw [spanBody?_eq_some_iff.mpr ⟨heq, h'⟩] at hread
  exact (Prod.mk.inj (Option.some.inj hread)).1.symm

/-- The next span of a text of which `seen` was passed and `rest` is left. In `rest` it stands
between `before` and `after`. -/
structure NextSpan (seen rest before after : List Char) (span : Span) : Prop where
  opening : FirstOpening rest before (span.body ++ '}' :: after)
  balanced : Balanced span.body
  start : span.start = byteWidth (seen ++ before)
  stop : span.stop = byteWidth (seen ++ before ++ spanText span.body)
  whole : span.isWhole = true ↔ seen ++ rest = spanText span.body

theorem spanText_eq_iff {seen before body after : List Char} :
    seen ++ (before ++ spanText body ++ after) = spanText body ↔
      seen ++ before = [] ∧ after = [] := by
  constructor
  · intro h
    have hlen := congrArg List.length h
    simp only [List.length_append] at hlen
    refine ⟨List.append_eq_nil_iff.mpr ⟨?_, ?_⟩, ?_⟩
    all_goals
      apply List.eq_nil_of_length_eq_zero
      omega
  · rintro ⟨hseen, rfl⟩
    obtain ⟨rfl, rfl⟩ := List.append_eq_nil_iff.mp hseen
    simp

theorem NextSpan.unique {seen rest before after before' after' : List Char} {span span' : Span}
    (h : NextSpan seen rest before after span) (h' : NextSpan seen rest before' after' span') :
    span = span' := by
  obtain ⟨hbefore, hbehind⟩ := h.opening.unique h'.opening
  have hbody : span.body = span'.body := h.balanced.unique h'.balanced hbehind
  have hwhole : span.isWhole = span'.isWhole := by
    rw [Bool.eq_iff_iff, h.whole, h'.whole, hbody]
  have hstart : span.start = span'.start := by rw [h.start, h'.start, hbefore]
  have hstop : span.stop = span'.stop := by rw [h.stop, h'.stop, hbefore, hbody]
  cases span
  cases span'
  simp_all

theorem isValid_byteWidth {text : String} {s t : List Char} (h : text.toList = s ++ t) :
    String.Pos.Raw.IsValid text ⟨byteWidth s⟩ := by
  refine String.Pos.Raw.isValid_iff_exists_append.mpr ⟨String.ofList s, String.ofList t, ?_, ?_⟩
  · rw [← String.ofList_append, ← h, String.ofList_toList]
  · have hwidth := byteWidth_toList (String.ofList s)
    rw [String.toList_ofList] at hwidth
    rw [hwidth]
    rfl

theorem NextSpan.isValid {text : String} {seen rest before after : List Char} {span : Span}
    (htext : text.toList = seen ++ rest) (h : NextSpan seen rest before after span) :
    String.Pos.Raw.IsValid text ⟨span.start⟩ ∧ String.Pos.Raw.IsValid text ⟨span.stop⟩ := by
  have hsplit : text.toList = seen ++ before ++ spanText span.body ++ after := by
    rw [htext, h.opening.split]
    simp [spanText]
  rw [h.start, h.stop]
  exact ⟨isValid_byteWidth (hsplit.trans (List.append_assoc _ _ _)), isValid_byteWidth hsplit⟩

namespace Scanner

variable {text : String} {seen : List Char} {w : Scanner} {n : Nat} {span : Span}

/-- The walk over a text behind `n` searches. -/
def behind (text : String) : Nat → Scanner
  | 0 => start text.toList
  | n + 1 => (behind text n).find.2

/-- What the search behind `n` others returns. -/
def nth? (text : String) (n : Nat) : Option Span := (behind text n).find.1

/-- The place behind the last span that `n` searches found. -/
def lastStop (text : String) : Nat → Nat
  | 0 => 0
  | n + 1 =>
    match nth? text n with
    | some span => span.stop
    | none => lastStop text n

theorem find_none (h : firstSpan? w.rest = none) :
    w.find = (none, ⟨w.rest, [], w.rest, w.stop, w.stop⟩) := by
  unfold find
  rw [h]

theorem find_some {split : SpanSplit} (h : firstSpan? w.rest = some split) :
    w.find =
      (some ⟨w.stop + byteWidth split.before,
        w.stop + byteWidth split.before + byteWidth (spanText split.body), split.body,
        w.stop + byteWidth split.before = 0 && split.after.isEmpty⟩,
      ⟨w.rest, split.before, split.after, w.stop,
        w.stop + byteWidth split.before + byteWidth (spanText split.body)⟩) := by
  unfold find
  rw [h]

theorem find_fst_eq_none_iff : w.find.1 = none ↔ firstSpan? w.rest = none := by
  cases h : firstSpan? w.rest with
  | none => simp [find_none h]
  | some split => simp [find_some h]

/-- The walk has passed the text `seen`. -/
structure Passed (text : String) (seen : List Char) (w : Scanner) : Prop where
  split : text.toList = seen ++ w.rest
  stop : w.stop = byteWidth seen

theorem nextSpan_of_find (hw : w.stop = byteWidth seen) {split : SpanSplit}
    (h : firstSpan? w.rest = some split) :
    ∃ span, w.find.1 = some span ∧ NextSpan seen w.rest split.before split.after span := by
  obtain ⟨hopening, hbalanced⟩ := firstSpan?_eq_some_iff.mp h
  refine ⟨_, congrArg Prod.fst (find_some h), hopening, hbalanced, ?_, ?_, ?_⟩
  · simp only [byteWidth_append, hw]
  · simp only [byteWidth_append, hw]
  · rw [firstSpan?_eq h, spanText_eq_iff, ← byteWidth_eq_zero_iff, byteWidth_append, hw]
    simp

theorem find_fst_eq_some_iff (hw : w.stop = byteWidth seen) :
    w.find.1 = some span ↔ ∃ before after, NextSpan seen w.rest before after span := by
  constructor
  · intro h
    cases hs : firstSpan? w.rest with
    | none => simp [find_none hs] at h
    | some split =>
      obtain ⟨span', hfind, hnext⟩ := nextSpan_of_find hw hs
      obtain rfl : span = span' := Option.some.inj (h.symm.trans hfind)
      exact ⟨_, _, hnext⟩
  · rintro ⟨before, after, hnext⟩
    have hs := firstSpan?_eq_some_iff.mpr ⟨hnext.opening, hnext.balanced⟩
    obtain ⟨span', hfind, hnext'⟩ := nextSpan_of_find hw hs
    rw [hfind, hnext'.unique hnext]

theorem Passed.drop_bytes (h : Passed text seen w) :
    text.toUTF8.data.toList.drop w.stop = utf8 w.rest := by
  rw [h.stop, ← utf8_toList, h.split, utf8_append, ← length_utf8, List.drop_left]

theorem Passed.find_of_some (h : Passed text seen w) {split : SpanSplit}
    (hs : firstSpan? w.rest = some split) :
    Passed text (seen ++ split.before ++ spanText split.body) w.find.2 := by
  rw [find_some hs]
  refine ⟨?_, ?_⟩
  · rw [h.split, firstSpan?_eq hs]
    simp
  · simp only [byteWidth_append, h.stop]

/-- A search passes the span that it finds, and nothing if it finds none. -/
theorem Passed.find (h : Passed text seen w) : ∃ seen', Passed text seen' w.find.2 := by
  cases hs : firstSpan? w.rest with
  | none =>
    rw [find_none hs]
    exact ⟨seen, h.split, h.stop⟩
  | some split => exact ⟨_, h.find_of_some hs⟩

theorem passed (text : String) (n : Nat) : ∃ seen, Passed text seen (behind text n) := by
  induction n with
  | zero => exact ⟨[], rfl, rfl⟩
  | succ n ih =>
    obtain ⟨seen, h⟩ := ih
    exact h.find

theorem stop_behind (text : String) (n : Nat) : (behind text n).stop = lastStop text n := by
  induction n with
  | zero => rfl
  | succ n ih =>
    rw [behind, lastStop, nth?]
    cases hs : firstSpan? (behind text n).rest with
    | none => rw [find_none hs, ← ih]
    | some split => rw [find_some hs]

theorem lastStop_le (h : nth? text n = some span) :
    lastStop text n ≤ span.start ∧ span.start < span.stop := by
  obtain ⟨seen, hpassed⟩ := passed text n
  obtain ⟨before, after, hnext⟩ := (find_fst_eq_some_iff hpassed.stop).mp h
  have hwidth : 0 < byteWidth (spanText span.body) := by
    refine Nat.pos_of_ne_zero fun h => ?_
    exact absurd (byteWidth_eq_zero_iff.mp h) (by simp [spanText])
  rw [hnext.start, hnext.stop, ← stop_behind, hpassed.stop]
  simp only [byteWidth_append]
  omega

theorem lastStop_mono (text : String) : Monotone (lastStop text) := by
  refine monotone_nat_of_le_succ fun n => ?_
  cases h : nth? text n with
  | none => simp [lastStop, h]
  | some span =>
    obtain ⟨hstart, hstop⟩ := lastStop_le h
    simp only [lastStop, h]
    omega

theorem nth?_none_of_le (h : nth? text n = none) {m : Nat} (hnm : n ≤ m) :
    nth? text m = none := by
  induction hnm with
  | refl => exact h
  | step _ ih =>
    have hs := find_fst_eq_none_iff.mp ih
    rw [nth?, behind, find_none hs, find_fst_eq_none_iff]
    exact hs

theorem nth?_eq_none_iff :
    nth? text n = none ↔
      ∀ before body after, FirstOpening (behind text n).rest before (body ++ '}' :: after) →
        ¬ Balanced body := by
  rw [nth?, find_fst_eq_none_iff]
  constructor
  · intro hs before body after hopening hbalanced
    rw [firstSpan?_eq_some_iff.mpr ⟨hopening, hbalanced⟩] at hs
    exact absurd hs (by simp)
  · intro hnone
    cases hs : firstSpan? (behind text n).rest with
    | none => rfl
    | some split =>
      obtain ⟨hopening, hbalanced⟩ := firstSpan?_eq_some_iff.mp hs
      exact absurd hbalanced (hnone _ _ _ hopening)

theorem nth?_stop_le {m : Nat} {span' : Span} (h : nth? text n = some span)
    (h' : nth? text m = some span') (hnm : n < m) : span.stop ≤ span'.start := by
  have hstop : lastStop text (n + 1) = span.stop := by rw [lastStop, h]
  have hmono := lastStop_mono text (Nat.succ_le_of_lt hnm)
  rw [Nat.succ_eq_add_one, hstop] at hmono
  exact hmono.trans (lastStop_le h').1

/-- A search of the bytes behind the last span finds the places of the next one. -/
theorem nth?_bytes (text : String) (n : Nat) :
    (nth? text n).map (fun span => (span.start, span.stop)) =
      findBytes .text 0 (lastStop text n) (lastStop text n)
        (text.toUTF8.data.toList.drop (lastStop text n)) := by
  obtain ⟨seen, hpassed⟩ := passed text n
  have hbytes : text.toUTF8.data.toList.drop (lastStop text n) = utf8 (behind text n).rest := by
    rw [← stop_behind, hpassed.drop_bytes]
  rw [hbytes, findBytes_utf8, ← stop_behind, nth?]
  cases hs : firstSpan? (behind text n).rest with
  | none => simp [find_none hs]
  | some split => simp [find_some hs, SpanSplit.ends]

/-- Every search looks at the first opening behind the span found last, and returns the span that
begins there if a balanced word and a closing brace follow. There is one such word at most. The
places are those that a search of the bytes finds, on boundaries of characters; spans
follow each other, and nothing is found behind a search that failed. -/
theorem finds_balanced_spans (text : String) (n : Nat) :
    ∃ seen rest, text.toList = seen ++ rest ∧ byteWidth seen = lastStop text n ∧
      (∀ span, nth? text n = some span ↔
        ∃ before after, NextSpan seen rest before after span) ∧
      (nth? text n = none ↔
        ∀ before body after, FirstOpening rest before (body ++ '}' :: after) →
          ¬ Balanced body) ∧
      (∀ before body after body' after', FirstOpening rest before (body ++ '}' :: after) →
        FirstOpening rest before (body' ++ '}' :: after') →
        Balanced body → Balanced body' → body = body') ∧
      (∀ span, nth? text n = some span →
        String.Pos.Raw.IsValid text ⟨span.start⟩ ∧ String.Pos.Raw.IsValid text ⟨span.stop⟩ ∧
        lastStop text n ≤ span.start ∧ span.start < span.stop ∧
        ∀ m span', n < m → nth? text m = some span' → span.stop ≤ span'.start) ∧
      (nth? text n = none → ∀ m, n ≤ m → nth? text m = none) ∧
      (nth? text n).map (fun span => (span.start, span.stop)) =
        findBytes .text 0 (lastStop text n) (lastStop text n)
          (text.toUTF8.data.toList.drop (lastStop text n)) := by
  obtain ⟨seen, hpassed⟩ := passed text n
  have hfind (span : Span) : nth? text n = some span ↔
      ∃ before after, NextSpan seen (behind text n).rest before after span :=
    find_fst_eq_some_iff hpassed.stop
  refine ⟨seen, (behind text n).rest, hpassed.split, ?_, hfind, nth?_eq_none_iff, ?_, ?_,
    fun h m hnm => nth?_none_of_le h hnm, nth?_bytes text n⟩
  · rw [← stop_behind, hpassed.stop]
  · intro before body after body' after' ho ho' hb hb'
    exact hb.unique hb' (ho.unique ho').2
  · intro span h
    obtain ⟨before, after, hnext⟩ := (hfind span).mp h
    obtain ⟨hstart, hstop⟩ := hnext.isValid hpassed.split
    obtain ⟨hlast, hlt⟩ := lastStop_le h
    exact ⟨hstart, hstop, hlast, hlt, fun m span' hnm h' => nth?_stop_le h h' hnm⟩

end Scanner

end RowTemplate
