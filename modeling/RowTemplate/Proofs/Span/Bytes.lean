import RowTemplate.Proofs.Span.Opening

/-! # Searching bytes

Spans can be searched in the UTF-8 form of a text, one byte at a time, with a
counter of open braces; a backslash between quotes skips a single byte. Bytes
of characters beyond ASCII are none of those that are looked for, so the search
finds the span of the text at the places of its characters.
-/

namespace RowTemplate

/-- Where a search stands: in plain text, behind a dollar sign, in a body, or between quotes. -/
inductive ByteMode
  | text
  | dollar
  | body
  | quoted (quote : UInt8)

/-- The two ends of the first span in the bytes from the place `i` on. The last dollar sign stands
at `start`, and `depth` inner braces are open. -/
def findBytes (mode : ByteMode) (depth start i : Nat) : List UInt8 → Option (Nat × Nat)
  | [] => none
  | b :: bs =>
    match mode with
    | .text =>
      if b = '$'.toUInt8 then findBytes .dollar depth i (i + 1) bs
      else findBytes .text depth start (i + 1) bs
    | .dollar =>
      if b = '{'.toUInt8 then findBytes .body depth start (i + 1) bs
      else if b = '$'.toUInt8 then findBytes .dollar depth i (i + 1) bs
      else findBytes .text depth start (i + 1) bs
    | .body =>
      if b = '{'.toUInt8 then findBytes .body (depth + 1) start (i + 1) bs
      else if b = '}'.toUInt8 then
        if depth = 0 then some (start, i + 1) else findBytes .body (depth - 1) start (i + 1) bs
      else if b = '\''.toUInt8 ∨ b = '"'.toUInt8 then
        findBytes (.quoted b) depth start (i + 1) bs
      else findBytes .body depth start (i + 1) bs
    | .quoted quote =>
      if b = '\\'.toUInt8 then findBytes (.quoted quote) depth start (i + 2) bs.tail
      else if b = quote then findBytes .body depth start (i + 1) bs
      else findBytes (.quoted quote) depth start (i + 1) bs
termination_by bs => bs.length
decreasing_by all_goals (simp only [List.length_cons, List.length_tail]; omega)

/-- The bytes of a text. -/
def utf8 (s : List Char) : List UInt8 := s.flatMap String.utf8EncodeChar

@[simp] theorem utf8_nil : utf8 [] = [] := rfl

@[simp] theorem utf8_cons (c : Char) (s : List Char) :
    utf8 (c :: s) = String.utf8EncodeChar c ++ utf8 s := by
  simp [utf8]

@[simp] theorem utf8_append (s t : List Char) : utf8 (s ++ t) = utf8 s ++ utf8 t := by
  simp [utf8]

theorem byteWidth_append (s t : List Char) : byteWidth (s ++ t) = byteWidth s + byteWidth t := by
  induction s with
  | nil => simp [byteWidth]
  | cons c s ih => rw [List.cons_append, byteWidth, byteWidth, ih, Nat.add_assoc]

@[simp] theorem length_utf8 (s : List Char) : (utf8 s).length = byteWidth s := by
  induction s with
  | nil => rfl
  | cons c s ih => simp [ih, byteWidth]

theorem utf8_toList (text : String) : utf8 text.toList = text.toUTF8.data.toList := by
  have htext : text.toUTF8 = (utf8 text.toList).toByteArray := by
    rw [String.toUTF8_eq_toByteArray, ← String.ofList_toList (s := text),
      String.toByteArray_ofList, String.toList_ofList]
    rfl
  rw [htext]
  simp

theorem byteWidth_toList (text : String) : byteWidth text.toList = text.utf8ByteSize := by
  rw [← length_utf8, utf8_toList]
  rfl

theorem le_or_of_le {x y : UInt8} (h : 128 ≤ y) : 128 ≤ x ||| y := by
  rw [UInt8.le_iff_toNat_le] at h ⊢
  rw [UInt8.toNat_or]
  exact Nat.le_trans h Nat.right_le_or

theorem ne_of_high {b x : UInt8} (hb : 128 ≤ b) (hx : x < 128) : b ≠ x := by
  rintro rfl
  exact UInt8.not_lt.mpr hb hx

/-- A character is one byte below 128, or all of its bytes are above. -/
theorem utf8EncodeChar_cases (c : Char) :
    (c.toNat < 128 ∧ String.utf8EncodeChar c = [c.toUInt8]) ∨
      (128 ≤ c.toNat ∧ ∀ b ∈ String.utf8EncodeChar c, 128 ≤ b) := by
  rcases c.utf8Size_eq with h | h | h | h
  · have hc := UInt32.le_iff_toNat_le.mp (Char.utf8Size_eq_one_iff.mp h)
    exact .inl ⟨Nat.lt_succ_of_le hc, String.utf8EncodeChar_eq_singleton h⟩
  all_goals
    refine .inr ⟨Nat.le_of_not_lt fun hc => ?_, ?_⟩
    · have hone : c.utf8Size = 1 :=
        Char.utf8Size_eq_one_iff.mpr (UInt32.le_iff_toNat_le.mpr (Nat.le_of_lt_succ hc))
      rw [hone] at h
      exact absurd h (by decide)
  · rw [String.utf8EncodeChar_eq_cons_cons h]
    simp [le_or_of_le]
  · rw [String.utf8EncodeChar_eq_cons_cons_cons h]
    simp [le_or_of_le]
  · rw [String.utf8EncodeChar_eq_cons_cons_cons_cons h]
    simp [le_or_of_le]

theorem utf8EncodeChar_ascii {c : Char} (hc : c.toNat < 128) :
    String.utf8EncodeChar c = [c.toUInt8] := by
  rcases utf8EncodeChar_cases c with ⟨-, henc⟩ | ⟨hhigh, -⟩
  · exact henc
  · exact absurd hc (Nat.not_lt_of_le hhigh)

theorem utf8_cons_ascii {c : Char} (hc : c.toNat < 128) (s : List Char) :
    utf8 (c :: s) = c.toUInt8 :: utf8 s := by
  rw [utf8_cons, utf8EncodeChar_ascii hc, List.singleton_append]

theorem utf8Size_ascii {c : Char} (hc : c.toNat < 128) : c.utf8Size = 1 := by
  rw [← String.length_utf8EncodeChar, utf8EncodeChar_ascii hc, List.length_singleton]

theorem toUInt8_eq_iff {c d : Char} (hc : c.toNat < 128) (hd : d.toNat < 128) :
    c.toUInt8 = d.toUInt8 ↔ c = d := by
  have hval (e : Char) (he : e.toNat < 128) : e.toUInt8.toNat = e.toNat :=
    Nat.mod_eq_of_lt (Nat.lt_trans he (by decide))
  constructor
  · intro h
    have h := congrArg UInt8.toNat h
    rw [hval c hc, hval d hd] at h
    exact Char.toNat_inj.mp h
  · rintro rfl
    rfl

theorem toUInt8_lt {c : Char} (hc : c.toNat < 128) : c.toUInt8 < 128 :=
  UInt8.lt_iff_toNat_lt.mpr (Nat.lt_of_le_of_lt (Nat.mod_le _ _) hc)

/-- The first byte of a character tells it from those of ASCII, and the others are above. -/
theorem first_byte (c : Char) :
    ∃ b bs, String.utf8EncodeChar c = b :: bs ∧ c.utf8Size = bs.length + 1 ∧
      (∀ x ∈ bs, 128 ≤ x) ∧ ∀ d : Char, d.toNat < 128 → (b = d.toUInt8 ↔ c = d) := by
  have hlen := String.length_utf8EncodeChar c
  rcases utf8EncodeChar_cases c with ⟨hc, henc⟩ | ⟨hc, henc⟩
  · rw [henc] at hlen
    exact ⟨_, [], henc, hlen.symm, by simp, fun d hd => toUInt8_eq_iff hc hd⟩
  · cases hbs : String.utf8EncodeChar c with
    | nil =>
      rw [hbs] at hlen
      exact absurd hlen (Nat.ne_of_lt c.utf8Size_pos)
    | cons b bs =>
      rw [hbs] at hlen henc
      refine ⟨b, bs, rfl, hlen.symm, fun x hx => henc x (List.mem_cons_of_mem b hx),
        fun d hd => ?_⟩
      refine ⟨fun h => absurd h (ne_of_high (henc b List.mem_cons_self) (toUInt8_lt hd)), ?_⟩
      rintro rfl
      exact absurd hc (Nat.not_le_of_lt hd)

/-- The mode is left on ASCII bytes only. -/
def ByteMode.Steady : ByteMode → Prop
  | .dollar => False
  | .quoted quote => quote < 128
  | _ => True

/-- The mode of a search at a place. -/
def Place.mode : Place → ByteMode
  | .code _ => .body
  | .quoted quote _ => .quoted quote.toUInt8

/-- The number of inner braces that are open at a place. -/
def Place.depth : Place → Nat
  | .code depth => depth
  | .quoted _ depth => depth

/-- The place is in code or between quotes of one of the two kinds. -/
def Place.Proper : Place → Prop
  | .code _ => True
  | .quoted quote _ => isQuote quote = true

variable {mode : ByteMode} {b : UInt8} {depth start i : Nat} {c : Char}

theorem findBytes_high (hmode : mode.Steady) (hb : 128 ≤ b) (bs : List UInt8) :
    findBytes mode depth start i (b :: bs) = findBytes mode depth start (i + 1) bs := by
  have hne (x : Char) (hx : x.toUInt8 < 128) : b ≠ x.toUInt8 := ne_of_high hb hx
  cases mode with
  | text => rw [findBytes, if_neg (hne _ (by decide))]
  | dollar => exact hmode.elim
  | body =>
    rw [findBytes, if_neg (hne _ (by decide)), if_neg (hne _ (by decide)), if_neg]
    rintro (h | h)
    · exact hne _ (by decide) h
    · exact hne _ (by decide) h
  | quoted quote => rw [findBytes, if_neg (hne _ (by decide)), if_neg (ne_of_high hb hmode)]

theorem findBytes_highs (hmode : mode.Steady) {bs : List UInt8} (hbs : ∀ b ∈ bs, 128 ≤ b)
    (rest : List UInt8) :
    findBytes mode depth start i (bs ++ rest) =
      findBytes mode depth start (i + bs.length) rest := by
  induction bs generalizing i with
  | nil => rfl
  | cons b bs ih =>
    rw [List.cons_append, findBytes_high hmode (hbs b List.mem_cons_self),
      ih fun x hx => hbs x (List.mem_cons_of_mem b hx), List.length_cons]
    congr 1
    omega

/-- The character leaves the mode as it is. -/
def ByteMode.Passes : ByteMode → Char → Prop
  | .text, c => c ≠ '$'
  | .dollar, _ => False
  | .body, c => c ≠ '\x7b' ∧ c ≠ '\x7d' ∧ isQuote c = false
  | .quoted b, c => ∃ quote, isQuote quote = true ∧ b = quote.toUInt8 ∧ c ≠ quote ∧ c ≠ '\\'

theorem toNat_of_isQuote {quote : Char} (hq : isQuote quote = true) : quote.toNat < 128 := by
  simp only [isQuote, Bool.or_eq_true, decide_eq_true_eq] at hq
  rcases hq with rfl | rfl <;> decide

theorem ByteMode.Passes.steady (h : mode.Passes c) : mode.Steady := by
  cases mode with
  | text => trivial
  | dollar => exact h
  | body => trivial
  | quoted b =>
    obtain ⟨quote, hq, rfl, -, -⟩ := h
    exact toUInt8_lt (toNat_of_isQuote hq)

theorem findBytes_passes (h : mode.Passes c) (s : List Char) :
    findBytes mode depth start i (utf8 (c :: s)) =
      findBytes mode depth start (i + c.utf8Size) (utf8 s) := by
  obtain ⟨b, bs, henc, hsize, hbs, hfirst⟩ := first_byte c
  have hstep (rest : List UInt8) :
      findBytes mode depth start i (b :: rest) = findBytes mode depth start (i + 1) rest := by
    cases mode with
    | text => rw [findBytes, if_neg (mt (hfirst _ (by decide)).mp h)]
    | dollar => exact h.elim
    | body =>
      obtain ⟨ho, hc, hq⟩ := h
      rw [findBytes, if_neg (mt (hfirst _ (by decide)).mp ho),
        if_neg (mt (hfirst _ (by decide)).mp hc), if_neg]
      rw [hfirst _ (by decide), hfirst _ (by decide)]
      simpa [isQuote] using hq
    | quoted q =>
      obtain ⟨quote, hq, rfl, hc, hb⟩ := h
      rw [findBytes, if_neg (mt (hfirst _ (by decide)).mp hb),
        if_neg (mt (hfirst _ (toNat_of_isQuote hq)).mp hc)]
  rw [utf8_cons, henc, List.cons_append, hstep, findBytes_highs h.steady hbs, hsize]
  congr 1
  omega

theorem findBytes_escaped {quote : UInt8} (hquote : quote < 128) (s : List Char) :
    findBytes (.quoted quote) depth start i (utf8 ('\\' :: c :: s)) =
      findBytes (.quoted quote) depth start (i + 1 + c.utf8Size) (utf8 s) := by
  obtain ⟨b, bs, henc, hsize, hbs, -⟩ := first_byte c
  -- One byte of the escaped character is skipped, and the mode passes over the others.
  have hmode : (ByteMode.quoted quote).Steady := hquote
  rw [utf8_cons_ascii (by decide), utf8_cons, henc, List.cons_append, findBytes, if_pos rfl,
    List.tail_cons, findBytes_highs hmode hbs, hsize]
  congr 1
  omega

/-- Behind a dollar sign only an opening brace makes a difference. -/
theorem findBytes_dollar {s : List Char} (hs : ∀ t, s ≠ '\x7b' :: t) :
    findBytes .dollar depth start i (utf8 s) = findBytes .text depth start i (utf8 s) := by
  cases s with
  | nil => simp [findBytes]
  | cons c s =>
    obtain ⟨b, bs, henc, -, -, hfirst⟩ := first_byte c
    have hb : b ≠ '\x7b'.toUInt8 := by
      rw [ne_eq, hfirst _ (by decide)]
      rintro rfl
      exact hs s rfl
    rw [utf8_cons, henc, List.cons_append, findBytes, findBytes, if_neg hb]

theorem findBytes_behindCode (hend : ¬ (c = '}' ∧ depth = 0)) (s : List Char) :
    findBytes .body depth start i (utf8 (c :: s)) =
      findBytes (Place.behindCode depth c).mode (Place.behindCode depth c).depth start
        (i + c.utf8Size) (utf8 s) := by
  unfold Place.behindCode
  split
  case isTrue ho =>
    subst ho
    rw [utf8_cons_ascii (by decide), findBytes, if_pos rfl]
    rfl
  case isFalse ho =>
    split
    case isTrue hc =>
      subst hc
      rw [utf8_cons_ascii (by decide), findBytes, if_neg (by decide), if_pos rfl,
        if_neg fun hd => hend ⟨rfl, hd⟩]
      rfl
    case isFalse hc =>
      split
      case isTrue hq =>
        have hascii := toNat_of_isQuote hq
        have hquote : c.toUInt8 = '\''.toUInt8 ∨ c.toUInt8 = '"'.toUInt8 := by
          rw [toUInt8_eq_iff hascii (by decide), toUInt8_eq_iff hascii (by decide)]
          simpa [isQuote] using hq
        rw [utf8_cons_ascii hascii, utf8Size_ascii hascii, findBytes,
          if_neg (mt (toUInt8_eq_iff hascii (by decide)).mp ho),
          if_neg (mt (toUInt8_eq_iff hascii (by decide)).mp hc), if_pos hquote]
        rfl
      case isFalse hq =>
        have hpass : ByteMode.body.Passes c := ⟨ho, hc, by simpa using hq⟩
        exact findBytes_passes hpass s

theorem findBytes_behindQuoted {quote : Char} (hq : isQuote quote = true) (hb : c ≠ '\\')
    (s : List Char) :
    findBytes (.quoted quote.toUInt8) depth start i (utf8 (c :: s)) =
      findBytes (Place.behindQuoted quote depth c).mode (Place.behindQuoted quote depth c).depth
        start (i + c.utf8Size) (utf8 s) := by
  unfold Place.behindQuoted
  split
  case isTrue hc =>
    subst hc
    have hascii := toNat_of_isQuote hq
    rw [utf8_cons_ascii hascii, utf8Size_ascii hascii, findBytes,
      if_neg (mt (toUInt8_eq_iff hascii (by decide)).mp hb), if_pos rfl]
    rfl
  case isFalse hc =>
    have hpass : (ByteMode.quoted quote.toUInt8).Passes c := ⟨quote, hq, rfl, hc, hb⟩
    exact findBytes_passes hpass s

theorem Place.Proper.behindCode (depth : Nat) (c : Char) : (Place.behindCode depth c).Proper := by
  unfold Place.behindCode
  split
  · trivial
  · split
    · trivial
    · split
      case isTrue hq => exact hq
      case isFalse => trivial

theorem Place.Proper.behindQuoted {quote : Char} (hq : isQuote quote = true) (depth : Nat)
    (c : Char) : (Place.behindQuoted quote depth c).Proper := by
  unfold Place.behindQuoted
  split
  · trivial
  · exact hq

/-- In a body the bytes are searched as the characters are. -/
theorem findBytes_body {place : Place} (hplace : place.Proper) (s : List Char) :
    findBytes place.mode place.depth start i (utf8 s) =
      (spanBody? place s).map fun read => (start, i + byteWidth read.1 + 1) := by
  have hwidth (w : List Char) (read : Option (List Char × List Char)) (i : Nat) :
      (read.map fun read => (start, i + byteWidth w + byteWidth read.1 + 1)) =
        (read.map (readFirst w)).map fun read => (start, i + byteWidth read.1 + 1) := by
    rw [Option.map_map]
    congr 1
    funext read
    simp only [Function.comp_apply, readFirst, byteWidth_append, Nat.add_assoc]
  fun_induction spanBody? place s generalizing i with
  | case1 => simp [findBytes]
  | case2 depth c s hc =>
    obtain ⟨rfl, rfl⟩ := hc
    rw [utf8_cons_ascii (by decide), Place.mode, Place.depth, findBytes, if_neg (by decide),
      if_pos rfl, if_pos rfl]
    rfl
  | case3 depth c s hc ih =>
    refine (findBytes_behindCode hc s).trans ?_
    exact (ih (.behindCode depth c)).trans (hwidth [c] _ i)
  | case4 quote depth c s ih =>
    have hi : i + 1 + c.utf8Size = i + byteWidth ['\\', c] := Nat.add_assoc i 1 _
    refine (findBytes_escaped (toUInt8_lt (toNat_of_isQuote hplace)) s).trans ?_
    rw [hi]
    exact (ih hplace).trans (hwidth ['\\', c] _ i)
  | case5 quote depth c s hs ih =>
    by_cases hb : c = '\\'
    · cases s with
      | nil =>
        subst hb
        rw [utf8_cons_ascii (by decide), utf8_nil, Place.mode, findBytes, if_pos rfl,
          List.tail_nil, findBytes]
        simp [spanBody?]
      | cons d s => exact (hs d s hb rfl).elim
    · refine (findBytes_behindQuoted hplace hb s).trans ?_
      exact (ih (.behindQuoted hplace depth c)).trans (hwidth [c] _ i)

/-- The places in bytes of the first span of a text that begins at the place `i`. -/
def SpanSplit.ends (split : SpanSplit) (i : Nat) : Nat × Nat :=
  (i + byteWidth split.before, i + byteWidth split.before + byteWidth (spanText split.body))

/-- A search of the bytes of a text finds the first span of its characters. -/
theorem findBytes_utf8 (s : List Char) :
    findBytes .text 0 start i (utf8 s) = (firstSpan? s).map (·.ends i) := by
  fun_induction firstSpan? s generalizing start i with
  | case1 s =>
    have hplace : (Place.code 0).Proper := trivial
    have hbody : findBytes .body 0 i (i + 1 + 1) (utf8 s) =
        (spanBody? (.code 0) s).map fun read => (i, i + 1 + 1 + byteWidth read.1 + 1) :=
      findBytes_body hplace s
    rw [utf8_cons_ascii (by decide), utf8_cons_ascii (by decide), findBytes, if_pos rfl, findBytes,
      if_pos rfl]
    refine hbody.trans ?_
    rw [Option.map_map]
    congr 1
    funext read
    have hopen : '$'.utf8Size + '{'.utf8Size = 2 := rfl
    have hclose : '}'.utf8Size = 1 := rfl
    simp only [Function.comp_apply, SpanSplit.ends, spanText, byteWidth, byteWidth_append,
      List.cons_append, Nat.add_zero, Prod.mk.injEq, true_and]
    omega
  | case2 c s hs ih =>
    have hnext : findBytes .text 0 start i (utf8 (c :: s)) =
        (firstSpan? s).map (·.ends (i + c.utf8Size)) := by
      by_cases hc : c = '$'
      · subst hc
        rw [utf8_cons_ascii (by decide), findBytes, if_pos rfl,
          findBytes_dollar fun t => hs t rfl]
        exact ih
      · have hpass : ByteMode.text.Passes c := hc
        exact (findBytes_passes hpass s).trans ih
    rw [hnext, Option.map_map]
    congr 1
    funext split
    simp only [Function.comp_apply, SpanSplit.ends, byteWidth, Nat.add_assoc]
  | case3 => simp [findBytes]

end RowTemplate
