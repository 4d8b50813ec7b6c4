import Mathlib
import RowTemplate.Expr.Member
import RowTemplate.Proofs.Number.Digits
import RowTemplate.Proofs.Number.Word
import RowTemplate.Proofs.Text.Occurrence

/-! # Methods that search texts

The methods of texts that look for another text all go by its first occurrence:
the least position from which on the properties of the text are the characters
of the other one. Joining the parts that a text is split into gives the text
back, whatever the separator is.
-/

namespace RowTemplate.Value

open Number (FitsWord integerText)
open Text (occurrences)

variable {s needle new : String} {j k : Nat}

/-! ### Splitting and joining -/

theorem map_joinedItem (parts : List String) :
    (parts.map .string).map joinedItem = parts.map String.toList := by
  rw [List.map_map]
  rfl

/-- A text that is split comes back when its parts are joined with the same arguments. Without a
separator the text is its only part, with an empty one its characters are, and no part holds any
other separator. -/
theorem join_split (s : String) (args : List Value) :
    ∃ parts : List String,
      (string s).callMethod "split" args = .ok (.array (parts.map .string)) ∧
      (array (parts.map .string)).callMethod "join" args = .ok (.string s) ∧
      (isAbsent args[0]? = true → parts = [s]) ∧
      (isAbsent args[0]? = false → ∀ part ∈ parts,
        if textArg args 0 = [] then part.toList.length = 1
        else ¬ textArg args 0 <:+: part.toList) := by
  have hmap (parts : List (List Char)) : (parts.map String.ofList).map String.toList = parts := by
    simp [Function.comp_def]
  cases habsent : isAbsent args[0]? with
  | true =>
    refine ⟨[s], ?_, ?_, fun _ => rfl, nofun⟩
    · simp [callMethod, stringMethod, splitText, habsent]
    · simp [callMethod, arrayMethod, join, joinedItem, isNull, chars, habsent]
  | false =>
    refine ⟨(Text.split (textArg args 0) s.toList).map String.ofList, ?_, ?_, nofun, ?_⟩
    · simp [callMethod, stringMethod, splitText, habsent]
    · rw [callMethod, arrayMethod, join, map_joinedItem, hmap, habsent]
      simp [Text.intercalate_split]
    · intro _ part hpart
      obtain ⟨chars, hchars, rfl⟩ := List.mem_map.mp hpart
      rw [String.toList_ofList]
      cases hseparator : textArg args 0 with
      | nil =>
        rw [hseparator] at hchars
        obtain ⟨c, -, rfl⟩ := List.mem_map.mp hchars
        rfl
      | cons c rest =>
        rw [hseparator] at hchars
        rw [if_neg (List.cons_ne_nil c rest)]
        exact Text.not_infix_of_mem_splitOn hchars

/-! ### Properties of texts -/

theorem toInt_ofInt_of_fitsWord (h : FitsWord k) : (Int64.ofInt k).toInt = k := by
  obtain ⟨hlow, hhigh⟩ := Number.fitsWord_iff.mp h
  exact Int64.toInt_ofInt_of_le hlow hhigh

theorem index?_ofCount (h : FitsWord k) : (ofCount k).index? = some k := by
  simp [ofCount, index?, toInt_ofInt_of_fitsWord h]

theorem text_ofCount_ne_length (k : Nat) : (ofCount k).text ≠ "length" := by
  intro h
  have hl : 'l' ∈ integerText (Int64.ofInt k).toInt := by
    have hchars := congrArg String.toList h
    rw [text, String.toList_ofList, ofCount, chars] at hchars
    rw [hchars]
    decide
  rcases Number.of_mem_integerText hl with h | h
  · cases h
  · cases h

theorem member_ofCount (h : FitsWord k) :
    (string s).member (ofCount k) = .ok ((s.toList[k]?.map ofChar).getD .null) := by
  rw [member, if_neg (text_ofCount_ne_length k), index?_ofCount h, Option.bind_some]

theorem member_length (s : String) :
    (string s).member (.string "length") = .ok (ofCount s.toList.length) := by
  rw [member, if_pos]
  exact String.ofList_toList

theorem ofChar_injective : Function.Injective ofChar := by
  intro c d h
  simpa [ofChar] using h

/-- The properties of a text at the positions from `k` on are the characters of another text. -/
def ReadsAt (s needle : String) (k : Nat) : Prop :=
  ∀ (i : Nat) (c : Char), needle.toList[i]? = some c →
    (string s).member (ofCount (k + i)) = .ok (ofChar c)

theorem member_eq_ofChar_iff {c : Char} (h : FitsWord k) :
    (string s).member (ofCount k) = .ok (ofChar c) ↔ s.toList[k]? = some c := by
  rw [member_ofCount h, Except.ok.injEq]
  cases s.toList[k]? with
  | none => simp [ofChar]
  | some d => simp [ofChar_injective.eq_iff]

theorem readsAt_iff (hs : FitsWord s.toList.length) (hk : k ≤ s.toList.length) :
    ReadsAt s needle k ↔ k ∈ occurrences needle.toList s.toList := by
  have hfits {i : Nat} (hi : i ≤ s.toList.length) : FitsWord i := by
    rw [Number.fitsWord_iff] at hs ⊢
    omega
  rw [Text.mem_occurrences, List.prefix_iff_getElem?]
  constructor
  · intro h i hi
    -- Up to the end of the text each position reads a character of it, and there it reads none.
    have hlt : k + i < s.toList.length := by
      by_contra hend
      have hi' : s.toList.length - k < needle.toList.length := by omega
      have hread := h _ _ (List.getElem?_eq_getElem hi')
      rw [Nat.add_sub_cancel' hk, member_eq_ofChar_iff (hfits le_rfl)] at hread
      simp at hread
    have hread := h i _ (List.getElem?_eq_getElem hi)
    rwa [member_eq_ofChar_iff (hfits hlt.le), ← List.getElem?_drop] at hread
  · intro h i c hc
    obtain ⟨hi, rfl⟩ := List.getElem?_eq_some_iff.mp hc
    have hget := h i hi
    rw [List.getElem?_drop] at hget
    obtain ⟨hlt, -⟩ := List.getElem?_eq_some_iff.mp hget
    exact (member_eq_ofChar_iff (hfits hlt.le)).mpr hget

theorem isLeast_readsAt (hs : FitsWord s.toList.length) (hk : k ≤ s.toList.length)
    (h : IsLeast (occurrences needle.toList s.toList) k) :
    IsLeast {j | ReadsAt s needle j} k := by
  refine ⟨(readsAt_iff hs hk).mpr h.1, fun j hj => ?_⟩
  by_contra hlt
  have hjk : j < k := Nat.lt_of_not_ge hlt
  exact hlt (h.2 ((readsAt_iff hs (hjk.le.trans hk)).mp hj))

/-! ### Searching -/

theorem callMethod_includes (s needle : String) :
    (string s).callMethod "includes" [.string needle] =
      .ok (.bool (Text.contains needle.toList s.toList)) := rfl

theorem callMethod_indexOf (s needle : String) :
    (string s).callMethod "indexOf" [.string needle] =
      .ok (ofPosition (Text.indexOf? needle.toList s.toList)) := rfl

theorem callMethod_startsWith (s needle : String) :
    (string s).callMethod "startsWith" [.string needle] =
      .ok (.bool (needle.toList.isPrefixOf s.toList)) := rfl

theorem callMethod_replace (s needle new : String) :
    (string s).callMethod "replace" [.string needle, .string new] =
      .ok (.string (String.ofList (Text.replaceFirst needle.toList new.toList s.toList))) := rfl

theorem callMethod_split (s needle : String) :
    (string s).callMethod "split" [.string needle] =
      .ok (.array ((Text.split needle.toList s.toList).map fun part =>
        .string (String.ofList part))) := rfl

/-- What the methods of a text come to for another text that it does not hold. -/
structure NotFound (s needle new : String) : Prop where
  includes : (string s).callMethod "includes" [.string needle] = .ok (.bool false)
  reads : ∀ k ≤ s.toList.length, ¬ ReadsAt s needle k
  bytes : occurrences (utf8 needle.toList) (utf8 s.toList) = ∅
  indexOf : (string s).callMethod "indexOf" [.string needle] = .ok (.int (-1))
  startsWith : (string s).callMethod "startsWith" [.string needle] = .ok (.bool false)
  replace : (string s).callMethod "replace" [.string needle, .string new] = .ok (.string s)
  split : needle ≠ "" →
    (string s).callMethod "split" [.string needle] = .ok (.array [.string s])

/-- What the methods of a text come to for another text that occurs in it at the position `k` first.
-/
structure FoundAt (s needle new : String) (k : Nat) : Prop where
  includes : (string s).callMethod "includes" [.string needle] = .ok (.bool true)
  reads : IsLeast {j | ReadsAt s needle j} k
  bytes : IsLeast (occurrences (utf8 needle.toList) (utf8 s.toList)) (byteWidth (s.toList.take k))
  indexOf : ∃ n : Int64, n.toInt = k ∧
    (string s).callMethod "indexOf" [.string needle] = .ok (.int n)
  startsWith : (string s).callMethod "startsWith" [.string needle] = .ok (.bool (k = 0))
  replace : (string s).callMethod "replace" [.string needle, .string new] =
    .ok (.string (String.ofList
      (s.toList.take k ++ new.toList ++ s.toList.drop (k + needle.toList.length))))
  split : needle ≠ "" → ∃ (first : String) (rest : List Value),
    (string s).callMethod "split" [.string needle] = .ok (.array (.string first :: rest)) ∧
      first.toList = s.toList.take k ∧ first.toList.length = k

theorem notFound (hs : FitsWord s.toList.length)
    (h : Text.cut? needle.toList s.toList = none) (new : String) : NotFound s needle new where
  includes := by
    rw [callMethod_includes, Text.contains, h]
    rfl
  reads k hk := mt (readsAt_iff hs hk).mp (Text.not_mem_of_cut?_eq_none h k)
  bytes := by
    have hneedle : needle.toList ≠ [] := fun hnil =>
      Text.not_mem_of_cut?_eq_none h 0 (hnil ▸ List.nil_prefix)
    refine Set.eq_empty_of_forall_notMem fun b hb => ?_
    obtain ⟨k, hk, -⟩ := (Text.mem_occurrences_utf8_iff hneedle).mp hb
    exact Text.not_mem_of_cut?_eq_none h k hk
  indexOf := by
    rw [callMethod_indexOf, Text.indexOf?, h]
    rfl
  startsWith := by
    have hzero := mt Text.zero_mem_occurrences.mpr (Text.not_mem_of_cut?_eq_none h 0)
    rw [callMethod_startsWith, Bool.eq_false_iff.mpr hzero]
  replace := by
    rw [callMethod_replace, Text.replaceFirst, h, String.ofList_toList]
  split hneedle := by
    obtain ⟨c, rest, hcons⟩ := List.exists_cons_of_ne_nil (mt String.toList_eq_nil_iff.mp hneedle)
    rw [hcons] at h
    rw [callMethod_split, hcons, Text.split, Text.splitOn_of_cut?_eq_none h, List.map_singleton,
      String.ofList_toList]

theorem foundAt {before after : List Char} (hs : FitsWord s.toList.length)
    (h : Text.cut? needle.toList s.toList = some (before, after)) (new : String) :
    FoundAt s needle new before.length := by
  have hsplit := Text.eq_of_cut? h
  have hleast := Text.isLeast_of_cut? h
  have htake : s.toList.take before.length = before := by
    rw [hsplit, List.append_assoc, List.take_left]
  have hdrop : s.toList.drop (before.length + needle.toList.length) = after := by
    rw [hsplit, ← List.length_append, List.drop_left]
  have hle : before.length ≤ s.toList.length := by
    rw [hsplit]
    simp
  refine ⟨?includes, isLeast_readsAt hs hle hleast, Text.isLeast_occurrences_utf8 hleast hle,
    ?indexOf, ?startsWith, ?replace, ?split⟩
  case includes =>
    rw [callMethod_includes, Text.contains, h]
    rfl
  case indexOf =>
    have hfits : FitsWord before.length := by
      rw [Number.fitsWord_iff] at hs ⊢
      omega
    refine ⟨_, toInt_ofInt_of_fitsWord hfits, ?_⟩
    rw [callMethod_indexOf, Text.indexOf?, h]
    rfl
  case startsWith =>
    have hzero : needle.toList.isPrefixOf s.toList = decide (before.length = 0) := by
      rw [Bool.eq_iff_iff, decide_eq_true_iff, ← Text.zero_mem_occurrences]
      exact ⟨fun h => Nat.le_zero.mp (hleast.2 h), fun h => h ▸ hleast.1⟩
    rw [callMethod_startsWith, hzero]
  case replace =>
    rw [callMethod_replace, Text.replaceFirst, h, htake, hdrop]
  case split =>
    intro hneedle
    obtain ⟨c, rest, hcons⟩ := List.exists_cons_of_ne_nil (mt String.toList_eq_nil_iff.mp hneedle)
    rw [hcons] at h
    refine ⟨String.ofList before,
      (Text.splitOn c rest after).map fun part => .string (String.ofList part), ?_,
      by rw [htake, String.toList_ofList], by rw [String.toList_ofList]⟩
    rw [callMethod_split, hcons, Text.split, Text.splitOn_of_cut?_eq_some h, List.map_cons]

/-- The methods of texts that search agree on one position, the first at which the other text is read,
or on there being none. Positions and the length of a text count the same characters. The length of a
text fits a word, as every text that is held in memory has it. -/
theorem search_methods_agree (hs : FitsWord s.toList.length) (needle new : String) :
    ((string s).member (.string "length") = .ok (ofCount s.toList.length) ∧
      ∀ k : Nat, FitsWord k →
        (string s).member (ofCount k) = .ok ((s.toList[k]?.map ofChar).getD .null)) ∧
      (NotFound s needle new ∨ ∃ k, FoundAt s needle new k) := by
  refine ⟨⟨member_length s, fun k hk => member_ofCount hk⟩, ?_⟩
  cases h : Text.cut? needle.toList s.toList with
  | none => exact .inl (notFound hs h new)
  | some split => exact .inr ⟨split.1.length, foundAt hs h new⟩

/-- A text of three letters that overlaps with itself, behind a character of two bytes. -/
theorem search_methods_agree_overlapping :
    FitsWord "ñanana".toList.length ∧ FoundAt "ñanana" "ana" "€" 1 := by
  have hfits : FitsWord "ñanana".toList.length := by decide
  have hindex : Text.indexOf? "ana".toList "ñanana".toList = some 1 := by decide
  have hindexOf : (string "ñanana").callMethod "indexOf" [.string "ana"] = .ok (.int 1) := by
    rw [callMethod_indexOf, hindex]
    rfl
  refine ⟨hfits, ?_⟩
  obtain ⟨-, hnone | ⟨k, hk⟩⟩ := search_methods_agree hfits "ana" "€"
  · have hone := hindexOf.symm.trans hnone.indexOf
    simp only [Except.ok.injEq, int.injEq] at hone
    exact absurd hone (by decide)
  · obtain ⟨n, hn, hcall⟩ := hk.indexOf
    have hone := hindexOf.symm.trans hcall
    simp only [Except.ok.injEq, int.injEq] at hone
    obtain rfl : k = 1 := by
      rw [← hone] at hn
      exact (Int.ofNat_inj.mp hn).symm
    exact hk

end RowTemplate.Value
