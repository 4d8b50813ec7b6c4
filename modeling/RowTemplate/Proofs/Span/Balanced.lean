import RowTemplate.Template.Span

/-! # Balanced words

The bodies of spans are the balanced words: braces come in pairs, except in
quotations, where a backslash takes the next character with it. A word that is
balanced is read to its end, and what is read to its end is balanced.
-/

namespace RowTemplate

/-- The inside of a quotation: every quote of its kind stands behind a backslash. -/
inductive Quotation (quote : Char) : List Char → Prop
  | nil : Quotation quote []
  | plain {c : Char} {s : List Char} : c ≠ quote → c ≠ '\\' → Quotation quote s →
    Quotation quote (c :: s)
  | escaped {c : Char} {s : List Char} : Quotation quote s → Quotation quote ('\\' :: c :: s)

/-- A word of plain characters, balanced words in braces and quotations. -/
inductive Balanced : List Char → Prop
  | nil : Balanced []
  | plain {c : Char} {s : List Char} : c ≠ '{' → c ≠ '}' → isQuote c = false → Balanced s →
    Balanced (c :: s)
  | braced {s t : List Char} : Balanced s → Balanced t → Balanced ('{' :: s ++ '}' :: t)
  | quoted {quote : Char} {s t : List Char} : isQuote quote = true → Quotation quote s →
    Balanced t → Balanced (quote :: s ++ quote :: t)

namespace Balanced

theorem append {s t : List Char} (hs : Balanced s) (ht : Balanced t) : Balanced (s ++ t) := by
  induction hs with
  | nil => exact ht
  | plain ho hc hq _ ih => exact .plain ho hc hq ih
  | braced hs _ _ ih => simpa using hs.braced ih
  | quoted hq hs _ ih => simpa using quoted hq hs ih

theorem singleton {c : Char} (ho : c ≠ '{') (hc : c ≠ '}') (hq : isQuote c = false) :
    Balanced [c] := .plain ho hc hq .nil

end Balanced

/-- What can follow a place inside a body up to the end of the body. -/
inductive Finishes : Place → List Char → Prop
  | body {s : List Char} : Balanced s → Finishes (.code 0) s
  | close {depth : Nat} {s t : List Char} : Balanced s → Finishes (.code depth) t →
    Finishes (.code (depth + 1)) (s ++ '}' :: t)
  | unquote {quote : Char} {depth : Nat} {s t : List Char} : Quotation quote s →
    Finishes (.code depth) t → Finishes (.quoted quote depth) (s ++ quote :: t)

namespace Finishes

variable {quote c : Char} {depth : Nat} {s t : List Char}

theorem prepend (hs : Balanced s) (ht : Finishes (.code depth) t) :
    Finishes (.code depth) (s ++ t) := by
  cases ht with
  | body ht => exact .body (hs.append ht)
  | close hu ht => simpa using close (hs.append hu) ht

theorem behindCode (hend : ¬ (c = '}' ∧ depth = 0)) (h : Finishes (.behindCode depth c) s) :
    Finishes (.code depth) (c :: s) := by
  unfold Place.behindCode at h
  split at h
  case isTrue ho =>
    cases h with
    | close hs ht =>
      have hb : Balanced ('{' :: _ ++ '}' :: []) := hs.braced .nil
      subst ho
      simpa using prepend hb ht
  case isFalse ho =>
    split at h
    case isTrue hc =>
      subst hc
      obtain ⟨depth, rfl⟩ := Nat.exists_eq_succ_of_ne_zero fun hd => hend ⟨rfl, hd⟩
      exact close .nil h
    case isFalse hc =>
      split at h
      case isTrue hq =>
        cases h with
        | unquote hs ht => simpa using prepend (.quoted hq hs .nil) ht
      case isFalse hq => exact prepend (.singleton ho hc (by simpa using hq)) h

theorem behindQuoted (hc : c ≠ '\\') (h : Finishes (.behindQuoted quote depth c) s) :
    Finishes (.quoted quote depth) (c :: s) := by
  unfold Place.behindQuoted at h
  split at h
  case isTrue hq =>
    subst hq
    exact unquote .nil h
  case isFalse hq =>
    cases h with
    | unquote hs ht => exact unquote (.plain hq hc hs) ht

theorem escaped (h : Finishes (.quoted quote depth) s) :
    Finishes (.quoted quote depth) ('\\' :: c :: s) := by
  cases h with
  | unquote hs ht => exact unquote (.escaped hs) ht

end Finishes

/-- What is read as the rest of a body finishes it. -/
theorem finishes_of_spanBody? {place : Place} {s body rest : List Char}
    (h : spanBody? place s = some (body, rest)) : Finishes place body := by
  fun_induction spanBody? place s generalizing body with
  | case1 => simp at h
  | case2 depth c s hc =>
    obtain ⟨rfl, -⟩ := Prod.mk.inj (Option.some.inj h)
    obtain ⟨-, rfl⟩ := hc
    exact .body .nil
  | case3 depth c s hc ih =>
    obtain ⟨⟨b, r⟩, hb, heq⟩ := Option.map_eq_some_iff.mp h
    obtain ⟨rfl, rfl⟩ := Prod.mk.inj heq
    exact .behindCode hc (ih hb)
  | case4 quote depth c s ih =>
    obtain ⟨⟨b, r⟩, hb, heq⟩ := Option.map_eq_some_iff.mp h
    obtain ⟨rfl, rfl⟩ := Prod.mk.inj heq
    exact .escaped (ih hb)
  | case5 quote depth c s hs ih =>
    obtain ⟨⟨b, r⟩, hb, heq⟩ := Option.map_eq_some_iff.mp h
    obtain ⟨rfl, rfl⟩ := Prod.mk.inj heq
    -- A backslash at the end of the text would leave nothing to read.
    refine .behindQuoted (fun hc => ?_) (ih hb)
    cases s with
    | nil => simp [spanBody?] at hb
    | cons d s => exact hs d s hc rfl

/-- Puts a word in front of what was read. -/
def readFirst (w : List Char) (read : List Char × List Char) : List Char × List Char :=
  (w ++ read.1, read.2)

theorem map_readFirst_map (v w : List Char) (read : Option (List Char × List Char)) :
    (read.map (readFirst v)).map (readFirst w) = read.map (readFirst (w ++ v)) := by
  cases read <;> simp [readFirst]

theorem spanBody?_code {c : Char} {depth : Nat} (hend : ¬ (c = '}' ∧ depth = 0))
    (s : List Char) :
    spanBody? (.code depth) (c :: s) =
      (spanBody? (.behindCode depth c) s).map (readFirst [c]) := by
  rw [spanBody?, if_neg hend]
  rfl

theorem spanBody?_quoted {c : Char} (hc : c ≠ '\\') (quote : Char) (depth : Nat)
    (s : List Char) :
    spanBody? (.quoted quote depth) (c :: s) =
      (spanBody? (.behindQuoted quote depth c) s).map (readFirst [c]) := by
  rw [spanBody?]
  · rfl
  · intro d t hd
    exact absurd hd hc

theorem spanBody?_escaped (c quote : Char) (depth : Nat) (s : List Char) :
    spanBody? (.quoted quote depth) ('\\' :: c :: s) =
      (spanBody? (.quoted quote depth) s).map (readFirst ['\\', c]) := by
  rw [spanBody?]
  rfl

theorem ne_backslash_of_isQuote {quote : Char} (hq : isQuote quote = true) : quote ≠ '\\' := by
  rintro rfl
  exact absurd hq (by decide)

theorem spanBody?_quotation {quote : Char} {w : List Char} (hq : isQuote quote = true)
    (hw : Quotation quote w) (depth : Nat) (s : List Char) :
    spanBody? (.quoted quote depth) (w ++ quote :: s) =
      (spanBody? (.code depth) s).map (readFirst (w ++ [quote])) := by
  induction hw with
  | nil =>
    rw [List.nil_append, spanBody?_quoted (ne_backslash_of_isQuote hq), Place.behindQuoted,
      if_pos rfl, List.nil_append]
  | plain hc hb _ ih =>
    rw [List.cons_append, spanBody?_quoted hb, Place.behindQuoted, if_neg hc, ih,
      map_readFirst_map]
    rfl
  | escaped _ ih =>
    rw [List.cons_append, List.cons_append, spanBody?_escaped, ih, map_readFirst_map]
    rfl

theorem spanBody?_balanced {w : List Char} (hw : Balanced w) (depth : Nat) (s : List Char) :
    spanBody? (.code depth) (w ++ s) = (spanBody? (.code depth) s).map (readFirst w) := by
  induction hw generalizing depth s with
  | nil =>
    have hid : readFirst [] = id := rfl
    simp [hid]
  | @plain c w ho hc hq _ ih =>
    have hplace : Place.behindCode depth c = .code depth := by
      simp [Place.behindCode, ho, hc, hq]
    rw [List.cons_append, spanBody?_code fun h => hc h.1, hplace, ih, map_readFirst_map]
    rfl
  | @braced u v _ _ ihu ihv =>
    have hopen : Place.behindCode depth '{' = .code (depth + 1) := rfl
    have hclose : Place.behindCode (depth + 1) '}' = .code depth := rfl
    rw [List.append_assoc, List.cons_append, spanBody?_code (by simp), hopen, ihu,
      List.cons_append, spanBody?_code (by simp), hclose, ihv]
    simp only [map_readFirst_map]
    simp
  | @quoted quote u v hq hu _ ih =>
    have hplace : Place.behindCode depth quote = .quoted quote depth := by
      simp only [isQuote, Bool.or_eq_true, decide_eq_true_eq] at hq
      rcases hq with rfl | rfl <;> rfl
    have hend : ¬ (quote = '}' ∧ depth = 0) := by
      rintro ⟨rfl, -⟩
      exact absurd hq (by decide)
    rw [List.append_assoc, List.cons_append, spanBody?_code hend, hplace, List.cons_append,
      spanBody?_quotation hq hu, ih]
    simp only [map_readFirst_map]
    simp

/-- The body of a span is the balanced word in front of a closing brace. -/
theorem spanBody?_eq_some_iff {s body rest : List Char} :
    spanBody? (.code 0) s = some (body, rest) ↔ s = body ++ '}' :: rest ∧ Balanced body := by
  constructor
  · intro h
    cases finishes_of_spanBody? h with
    | body hb => exact ⟨spanBody?_eq h, hb⟩
  · rintro ⟨rfl, hb⟩
    rw [spanBody?_balanced hb]
    simp [spanBody?, readFirst]

end RowTemplate
