import RowTemplate.Proofs.Expr.Comparison
import RowTemplate.Proofs.Table

/-! # Equality of arrays and objects

Two numbers are equal if the binary64 numbers that they are rounded to are, but
inside arrays and objects they have to be of one kind as well, and integers the
same. So two arrays are equal just if their items are, one by one, and no
integer stands against a binary64 number or another integer; and in the same
way two objects.
-/

namespace RowTemplate.Value

/-! ### Numbers -/

theorem unpack_of_isNaN {x : Float} (h : x.isNaN = true) : x.toModel.unpack = .notANumber := by
  have hnan : x.toModel.unpack.isNaN = true := h
  cases hx : x.toModel.unpack with
  | notANumber => rfl
  | _ =>
    rw [hx] at hnan
    cases hnan

theorem beq_eq_false_of_isNaN {x y : Float} (h : x.isNaN = true ∨ y.isNaN = true) :
    (x == y) = false := by
  have heq : (x == y) = (x.toModel.unpack.compare y.toModel.unpack == some .eq) := rfl
  rw [heq]
  rcases h with h | h
  · rw [unpack_of_isNaN h]
    rfl
  · rw [unpack_of_isNaN h]
    cases x.toModel.unpack <;> rfl

theorem toFloat_float (x : Float) : (float x).toFloat = if x.isNaN then 0 / 0 else x := by
  rw [toFloat, number?]
  split <;> rfl

theorem toFloat_float_beq (x y : Float) : ((float x).toFloat == (float y).toFloat) = (x == y) := by
  have hzero : (0 / 0 : Float).isNaN = true := by decide
  rw [toFloat_float, toFloat_float]
  by_cases hx : x.isNaN = true
  · rw [if_pos hx, beq_eq_false_of_isNaN (.inl hzero), beq_eq_false_of_isNaN (.inl hx)]
  · by_cases hy : y.isNaN = true
    · rw [if_pos hy, beq_eq_false_of_isNaN (.inr hzero), beq_eq_false_of_isNaN (.inr hy)]
    · rw [if_neg hx, if_neg hy]

/-- Two numbers that equality can take for one only by rounding or converting them: an integer and a
binary64 number, or two different integers. -/
inductive Blurred : Value → Value → Prop
  | intFloat (n : Int64) (x : Float) : Blurred (.int n) (.float x)
  | floatInt (x : Float) (n : Int64) : Blurred (.float x) (.int n)
  | ints {m n : Int64} : m ≠ n → Blurred (.int m) (.int n)

/-- The values are equal, and not as blurred numbers. -/
def Matches (v w : Value) : Prop := strictlyEqual v w = true ∧ ¬ Blurred v w

theorem Blurred.isNumber {v w : Value} (h : Blurred v w) :
    v.isNumber = true ∧ w.isNumber = true := by
  cases h <;> exact ⟨rfl, rfl⟩

theorem exists_of_isNumber {v : Value} (h : v.isNumber = true) :
    (∃ n, v = .int n) ∨ ∃ x, v = .float x := by
  cases v with
  | int n => exact .inl ⟨n, rfl⟩
  | float x => exact .inr ⟨x, rfl⟩
  | _ => cases h

theorem strictlyEqual_of_isNumber {v w : Value} (hv : v.isNumber = true) (hw : w.isNumber = true) :
    strictlyEqual v w = (v.toFloat == w.toFloat) :=
  if_pos ⟨hv, hw⟩

theorem strictlyEqual_of_not_isNumber {v w : Value}
    (h : ¬ (v.isNumber = true ∧ w.isNumber = true)) : strictlyEqual v w = same v w :=
  if_neg h

/-- Inside arrays and objects blurred numbers are not the same. -/
theorem same_iff_matches {v w : Value} : same v w = true ↔ Matches v w := by
  by_cases hnumber : v.isNumber = true ∧ w.isNumber = true
  · obtain ⟨hv, hw⟩ := hnumber
    obtain ⟨m, rfl⟩ | ⟨x, rfl⟩ := exists_of_isNumber hv <;>
      obtain ⟨n, rfl⟩ | ⟨y, rfl⟩ := exists_of_isNumber hw
    · rw [Matches, strictlyEqual_int, decide_eq_true_iff, same, beq_iff_eq]
      constructor
      · rintro rfl
        refine ⟨rfl, ?_⟩
        rintro (_ | _ | hne)
        exact hne rfl
      · rintro ⟨-, hblurred⟩
        by_contra hne
        exact hblurred (.ints hne)
    · exact iff_of_false Bool.false_ne_true fun h => h.2 (.intFloat m y)
    · exact iff_of_false Bool.false_ne_true fun h => h.2 (.floatInt x n)
    · have hclear : ¬ Blurred (.float x) (.float y) := by
        intro h
        cases h
      rw [Matches, strictlyEqual_of_isNumber rfl rfl, toFloat_float_beq, same]
      exact (and_iff_left hclear).symm
  · rw [Matches, strictlyEqual_of_not_isNumber hnumber]
    exact (and_iff_left (mt Blurred.isNumber hnumber)).symm

/-! ### Structure -/

/-- The values are built alike: the same scalars, numbers in the relation `R`, and arrays and objects
of values that are built alike, one by one and under the same names. -/
inductive Structural (R : Value → Value → Prop) : Value → Value → Prop
  | null : Structural R .null .null
  | bool (b : Bool) : Structural R (.bool b) (.bool b)
  | number {v w : Value} : v.isNumber = true → w.isNumber = true → R v w → Structural R v w
  | string (s : String) : Structural R (.string s) (.string s)
  | array {xs ys : List Value} : List.Forall₂ (Structural R) xs ys →
    Structural R (.array xs) (.array ys)
  | object {xs ys : List (String × Value)} : xs.map Prod.fst = ys.map Prod.fst →
    List.Forall₂ (Structural R) (xs.map Prod.snd) (ys.map Prod.snd) →
    Structural R (.object xs) (.object ys)

variable {R : Value → Value → Prop} {v w : Value}

theorem Structural.typeName_eq (h : Structural R v w) : v.typeName = w.typeName := by
  have hnumber {v : Value} (h : v.isNumber = true) : v.typeName = "number" := by
    obtain ⟨n, rfl⟩ | ⟨x, rfl⟩ := exists_of_isNumber h <;> rfl
  cases h with
  | number hv hw => rw [hnumber hv, hnumber hw]
  | _ => rfl

theorem structural_iff_of_isNumber (hv : v.isNumber = true) (hw : w.isNumber = true) :
    Structural R v w ↔ R v w := by
  refine ⟨fun h => ?_, .number hv hw⟩
  cases h with
  | number _ _ h => exact h
  | _ => cases hv

theorem structural_array_iff {xs ys : List Value} :
    Structural R (.array xs) (.array ys) ↔ List.Forall₂ (Structural R) xs ys := by
  refine ⟨fun h => ?_, .array⟩
  cases h with
  | array h => exact h
  | number h => cases h

theorem structural_object_iff {xs ys : List (String × Value)} :
    Structural R (.object xs) (.object ys) ↔
      List.Forall₂ (fun p q => p.1 = q.1 ∧ Structural R p.2 q.2) xs ys := by
  rw [forall₂_fields_iff]
  refine ⟨fun h => ?_, fun h => .object h.1 h.2⟩
  cases h with
  | object hnames hvalues => exact ⟨hnames, hvalues⟩
  | number h => cases h

theorem typeName_eq_of_same (h : same v w = true) : v.typeName = w.typeName := by
  unfold same at h
  split at h <;> first | rfl | cases h

theorem same_iff_structural_of_ne (h : v.typeName ≠ w.typeName) :
    same v w = true ↔ Structural R v w :=
  iff_of_false (mt typeName_eq_of_same h) (mt Structural.typeName_eq h)

-- The recursion is that of `same`; values of two types are neither the same nor built alike.
mutual

theorem same_iff_structural (v w : Value) : same v w = true ↔ Structural Matches v w := by
  cases v with
  | null =>
    cases w with
    | null => exact iff_of_true rfl .null
    | _ => exact same_iff_structural_of_ne (by simp [typeName])
  | bool a =>
    cases w with
    | bool b =>
      rw [same, beq_iff_eq]
      refine ⟨fun h => h ▸ .bool a, fun h => ?_⟩
      cases h with
      | bool => rfl
      | number h => cases h
    | _ => exact same_iff_structural_of_ne (by simp [typeName])
  | int m =>
    cases w with
    | int _ | float _ => exact same_iff_matches.trans (structural_iff_of_isNumber rfl rfl).symm
    | _ => exact same_iff_structural_of_ne (by simp [typeName])
  | float x =>
    cases w with
    | int _ | float _ => exact same_iff_matches.trans (structural_iff_of_isNumber rfl rfl).symm
    | _ => exact same_iff_structural_of_ne (by simp [typeName])
  | string s =>
    cases w with
    | string t =>
      rw [same, beq_iff_eq]
      refine ⟨fun h => h ▸ .string s, fun h => ?_⟩
      cases h with
      | string => rfl
      | number h => cases h
    | _ => exact same_iff_structural_of_ne (by simp [typeName])
  | array xs =>
    cases w with
    | array ys => rw [same, sameItems_iff_structural xs ys, structural_array_iff]
    | _ => exact same_iff_structural_of_ne (by simp [typeName])
  | object xs =>
    cases w with
    | object ys => rw [same, sameFields_iff_structural xs ys, structural_object_iff]
    | _ => exact same_iff_structural_of_ne (by simp [typeName])

theorem sameItems_iff_structural (xs ys : List Value) :
    sameItems xs ys = true ↔ List.Forall₂ (Structural Matches) xs ys := by
  cases xs with
  | nil => cases ys <;> simp [sameItems]
  | cons x xs =>
    cases ys with
    | nil => simp [sameItems]
    | cons y ys =>
      rw [sameItems, Bool.and_eq_true, same_iff_structural x y, sameItems_iff_structural xs ys,
        List.forall₂_cons]

theorem sameFields_iff_structural (xs ys : List (String × Value)) :
    sameFields xs ys = true ↔
      List.Forall₂ (fun p q => p.1 = q.1 ∧ Structural Matches p.2 q.2) xs ys := by
  cases xs with
  | nil => cases ys <;> simp [sameFields]
  | cons p xs =>
    cases ys with
    | nil => simp [sameFields]
    | cons q ys =>
      rw [sameFields, Bool.and_eq_true, Bool.and_eq_true, beq_iff_eq,
        same_iff_structural p.2 q.2, sameFields_iff_structural xs ys, List.forall₂_cons]

end

theorem structural_matches_eq : Structural Matches = Matches := by
  ext v w
  exact (same_iff_structural v w).symm.trans same_iff_matches

theorem strictlyEqual_array (xs ys : List Value) :
    strictlyEqual (.array xs) (.array ys) = true ↔ List.Forall₂ Matches xs ys := by
  rw [← structural_matches_eq]
  exact sameItems_iff_structural xs ys

theorem strictlyEqual_object (s t : Table Value) :
    strictlyEqual (.object s.entries) (.object t.entries) = true ↔
      ∀ name, Option.Rel Matches (s.find? name) (t.find? name) := by
  rw [← structural_matches_eq]
  exact (sameFields_iff_structural s.entries t.entries).trans
    ⟨rel_lookup_of_forall₂, s.ascending.forall₂_of_rel_lookup t.ascending⟩

/-- Arrays are equal just if they have the same length and their items match one by one, and objects
if they have the same names with matching values. At every depth numbers have to match: only by
themselves are blurred numbers equal as the binary64 numbers that they are rounded to. -/
theorem strictlyEqual_structural (xs ys : List Value) (s t : Table Value) (v w : Value) :
    (strictlyEqual (.array xs) (.array ys) = true ↔ List.Forall₂ Matches xs ys) ∧
      (strictlyEqual (.object s.entries) (.object t.entries) = true ↔
        ∀ name, Option.Rel Matches (s.find? name) (t.find? name)) ∧
      (strictlyEqual v w = true ↔
        Structural Matches v w ∨ Blurred v w ∧ (v.toFloat == w.toFloat) = true) := by
  refine ⟨strictlyEqual_array xs ys, strictlyEqual_object s t, ?_⟩
  rw [structural_matches_eq]
  by_cases hblurred : Blurred v w
  · obtain ⟨hv, hw⟩ := hblurred.isNumber
    simp [Matches, hblurred, strictlyEqual_of_isNumber hv hw]
  · simp [Matches, hblurred]

/-- The integer one and the number one are equal, and the arrays that hold them are not, nor are the
objects. -/
theorem strictlyEqual_blurred_items :
    let scope := (Bindings.empty ⟨2024, 6, 1, 9, 15, 0, 0, 7200⟩).scope
    let answer (text : String) := (ParseCache.empty.evaluate text scope).1
    answer "1 === 1.0" = .ok (.bool true) ∧ answer "[1] === [1.0]" = .ok (.bool false) ∧
      answer "\x7ba: 1\x7d === \x7ba: 1.0\x7d" = .ok (.bool false) := by
  intro scope answer
  refine ⟨eq_ok_bool_of_same ?_, eq_ok_bool_of_same ?_, eq_ok_bool_of_same ?_⟩ <;>
    decide +kernel

end RowTemplate.Value
