import RowTemplate.Context.Bindings
import RowTemplate.Proofs.Number.Binary64

/-! # Comparisons of integers

Two integers are compared as the binary64 numbers that they are rounded to. So
the answer is that for the integers themselves unless rounding makes two
different ones the same, which it does to none up to `2 ^ 53`.
-/

namespace RowTemplate

open Number

/-- The truth of an equality of two integers. -/
def EqualityOp.holds : EqualityOp → Int → Int → Bool
  | .eq, z, w => z = w
  | .ne, z, w => z ≠ w
  | .strictEq, z, w => z = w
  | .strictNe, z, w => z ≠ w

/-- The truth of a comparison of two integers. -/
def OrderOp.holds : OrderOp → Int → Int → Bool
  | .lt, z, w => z < w
  | .le, z, w => z ≤ w
  | .gt, z, w => w < z
  | .ge, z, w => w ≤ z

theorem findIdx?_congr {α : Type} {p q : α → Bool} {l : List α} (h : ∀ x ∈ l, p x = q x) :
    l.findIdx? p = l.findIdx? q := by
  induction l with
  | nil => rfl
  | cons x l ih =>
    obtain ⟨hx, hl⟩ := List.forall_mem_cons.mp h
    rw [List.findIdx?_cons, List.findIdx?_cons, hx, ih hl]

section Truth

variable {z w z' w' : Int}

theorem EqualityOp.holds_congr (op : EqualityOp) (heq : z = w ↔ z' = w') :
    op.holds z w = op.holds z' w' := by
  cases op <;> simp only [holds, ne_eq, heq]

theorem OrderOp.holds_congr (op : OrderOp) (hlt : z < w ↔ z' < w') (heq : z = w ↔ z' = w') :
    op.holds z w = op.holds z' w' := by
  have hle : z ≤ w ↔ z' ≤ w' := by omega
  have hgt : w < z ↔ w' < z' := by omega
  have hge : w ≤ z ↔ w' ≤ z' := by omega
  cases op <;> simp only [holds, hlt, hle, hgt, hge]

end Truth

namespace Value

theorem eq_ok_bool_of_same {r : Except EvalError Value} {b : Bool}
    (h : r.toOption.map (same (.bool b)) = some true) : r = .ok (.bool b) := by
  cases r with
  | error e => cases h
  | ok v =>
    have hsame : same (.bool b) v = true := Option.some.inj h
    cases v with
    | bool b' =>
      obtain rfl : b = b' := by simpa [same] using hsame
      rfl
    | _ => cases hsame

variable (a b : Int64)

theorem isInteger_toFloat_int : IsInteger (Value.int a).toFloat (nearest a.toInt) := by
  have hle := a.le_toInt
  have hlt := a.toInt_lt
  exact isInteger_ofInt (by omega)

theorem toFloat_int_beq :
    ((Value.int a).toFloat == (Value.int b).toFloat) =
      decide (nearest a.toInt = nearest b.toInt) :=
  (isInteger_toFloat_int a).beq_eq (isInteger_toFloat_int b)

theorem strictlyEqual_int :
    strictlyEqual (.int a) (.int b) = decide (nearest a.toInt = nearest b.toInt) :=
  toFloat_int_beq a b

theorem equality_int (op : EqualityOp) :
    equality op (.int a) (.int b) = op.holds (nearest a.toInt) (nearest b.toInt) := by
  have hloose : looselyEqual (.int a) (.int b) = decide (nearest a.toInt = nearest b.toInt) :=
    toFloat_int_beq a b
  cases op <;>
    simp only [equality, EqualityOp.holds, hloose, strictlyEqual_int, ne_eq, decide_not]

theorem order?_int :
    order? (.int a) (.int b) = some (compare (nearest a.toInt) (nearest b.toInt)) := by
  have hlt := (isInteger_toFloat_int a).lt_iff (isInteger_toFloat_int b)
  have hgt := (isInteger_toFloat_int b).lt_iff (isInteger_toFloat_int a)
  have heq := toFloat_int_beq a b
  simp only [order?, hlt, hgt, heq, decide_eq_true_iff]
  rcases Int.lt_trichotomy (nearest a.toInt) (nearest b.toInt) with h | h | h
  · rw [if_pos h, Int.compare_eq_lt.mpr h]
  · rw [if_neg (by omega), if_pos h, Int.compare_eq_eq.mpr h]
  · rw [if_neg (by omega), if_neg (by omega), if_pos h, Int.compare_eq_gt.mpr h]

theorem comparison_int (op : OrderOp) :
    comparison op (.int a) (.int b) = op.holds (nearest a.toInt) (nearest b.toInt) := by
  simp only [comparison, order?_int]
  rw [Bool.eq_iff_iff]
  cases op <;> simp [OrderOp.holds, Int.compare_eq_lt, Int.compare_eq_gt]

end Value

namespace Expr

variable {scope : Scope} {left right list : Expr} {a b : Int64} {items : List Int64}
variable {z w : Int}

/-- The equalities and comparisons of two expressions have the truth that they have for two
integers. -/
structure ComparesAs (scope : Scope) (left right : Expr) (z w : Int) : Prop where
  equality : ∀ op : EqualityOp,
    (binary (.equality op) left right).eval scope = .ok (.bool (op.holds z w))
  order : ∀ op : OrderOp,
    (binary (.order op) left right).eval scope = .ok (.bool (op.holds z w))

theorem eval_binary {v u : Value} (hleft : left.eval scope = .ok v)
    (hright : right.eval scope = .ok u) (op : BinaryOp) :
    (binary op left right).eval scope = v.binary op u := by
  rw [eval, hleft, hright]
  rfl

theorem eval_method {v u : Value} (hlist : list.eval scope = .ok v)
    (hright : right.eval scope = .ok u) (name : String) :
    (method list name [right]).eval scope = v.callMethod name [u] := by
  rw [eval, hlist, evalItems, hright]
  rfl

theorem comparesAs_nearest (hleft : left.eval scope = .ok (.int a))
    (hright : right.eval scope = .ok (.int b)) :
    ComparesAs scope left right (nearest a.toInt) (nearest b.toInt) where
  equality op := by
    rw [eval_binary hleft hright, ← Value.equality_int]
    rfl
  order op := by
    rw [eval_binary hleft hright, ← Value.comparison_int]
    rfl

/-- One of two integers is less than the other, or they are the same. -/
theorem ComparesAs.existsUnique (h : ComparesAs scope left right z w) :
    ∃! op, op ∈ [BinaryOp.order .lt, .equality .strictEq, .order .gt] ∧
      (binary op left right).eval scope = .ok (.bool true) := by
  have hless : (binary (.order .lt) left right).eval scope = .ok (.bool true) ↔ z < w := by
    simp [h.order, OrderOp.holds]
  have hsame : (binary (.equality .strictEq) left right).eval scope = .ok (.bool true) ↔
      z = w := by
    simp [h.equality, EqualityOp.holds]
  have hmore : (binary (.order .gt) left right).eval scope = .ok (.bool true) ↔ w < z := by
    simp [h.order, OrderOp.holds]
  have honly : ∀ op ∈ [BinaryOp.order .lt, .equality .strictEq, .order .gt],
      (binary op left right).eval scope = .ok (.bool true) →
        op = .order .lt ∧ z < w ∨ op = .equality .strictEq ∧ z = w ∨ op = .order .gt ∧ w < z := by
    simp [hless, hsame, hmore]
  refine existsUnique_of_exists_of_unique ?_ ?_
  · rcases Int.lt_trichotomy z w with hzw | hzw | hzw
    · exact ⟨.order .lt, by simp, hless.mpr hzw⟩
    · exact ⟨.equality .strictEq, by simp, hsame.mpr hzw⟩
    · exact ⟨.order .gt, by simp, hmore.mpr hzw⟩
  · rintro op op' ⟨hop, htrue⟩ ⟨hop', htrue'⟩
    rcases honly op hop htrue with ⟨rfl, h⟩ | ⟨rfl, h⟩ | ⟨rfl, h⟩ <;>
      rcases honly op' hop' htrue' with ⟨rfl, h'⟩ | ⟨rfl, h'⟩ | ⟨rfl, h'⟩ <;>
      first | rfl | omega

theorem ComparesAs.congr (h : ComparesAs scope left right z w) {z' w' : Int}
    (hlt : z < w ↔ z' < w') (heq : z = w ↔ z' = w') : ComparesAs scope left right z' w' where
  equality op := by rw [h.equality, op.holds_congr heq]
  order op := by rw [h.order, op.holds_congr hlt heq]

/-- The answer is that for the integers themselves just if rounding does not make two different
ones the same. -/
theorem comparesAs_iff (hleft : left.eval scope = .ok (.int a))
    (hright : right.eval scope = .ok (.int b)) :
    ComparesAs scope left right a.toInt b.toInt ↔
      (nearest a.toInt = nearest b.toInt → a = b) := by
  have hnearest := comparesAs_nearest hleft hright
  constructor
  · intro h hsame
    have htruth := (h.equality .strictEq).symm.trans (hnearest.equality .strictEq)
    have heq : a.toInt = b.toInt := by simpa [EqualityOp.holds, hsame] using htruth
    exact Int64.toInt_inj.mp heq
  · intro h
    have heq : nearest a.toInt = nearest b.toInt ↔ a.toInt = b.toInt :=
      ⟨fun hsame => congrArg _ (h hsame), fun hsame => congrArg _ hsame⟩
    -- Rounding keeps the order, and here it keeps the integers apart as well.
    have hle : a.toInt ≤ b.toInt → nearest a.toInt ≤ nearest b.toInt := nearest_mono
    have hge : b.toInt ≤ a.toInt → nearest b.toInt ≤ nearest a.toInt := nearest_mono
    exact hnearest.congr (by omega) heq

/-- Integers compare as what they are rounded to. Just one of two is less, or they are the same;
and up to `2 ^ 53`, or as long as rounding leaves them different, this is their own order. -/
theorem int_comparison (hleft : left.eval scope = .ok (.int a))
    (hright : right.eval scope = .ok (.int b))
    (hlist : list.eval scope = .ok (.array (items.map .int))) :
    ComparesAs scope left right (nearest a.toInt) (nearest b.toInt) ∧
      (method list "includes" [right]).eval scope =
        .ok (.bool (items.any fun n => nearest n.toInt = nearest b.toInt)) ∧
      (method list "indexOf" [right]).eval scope =
        .ok (.ofPosition (items.findIdx? fun n => nearest n.toInt = nearest b.toInt)) ∧
      (∃! op, op ∈ [BinaryOp.order .lt, .equality .strictEq, .order .gt] ∧
        (binary op left right).eval scope = .ok (.bool true)) ∧
      (ComparesAs scope left right a.toInt b.toInt ↔
        (nearest a.toInt = nearest b.toInt → a = b)) ∧
      ((∀ n ∈ a :: b :: items, n.toInt.natAbs ≤ 2 ^ 53) →
        ComparesAs scope left right a.toInt b.toInt ∧
          (method list "includes" [right]).eval scope = .ok (.bool (decide (b ∈ items))) ∧
          (method list "indexOf" [right]).eval scope =
            .ok (.ofPosition (items.findIdx? (· = b)))) := by
  have hnearest := comparesAs_nearest hleft hright
  have hincludes : (method list "includes" [right]).eval scope =
      .ok (.bool (items.any fun n => nearest n.toInt = nearest b.toInt)) := by
    rw [eval_method hlist hright]
    simp [Value.callMethod, Value.arrayMethod, List.any_map, Function.comp_def,
      Value.strictlyEqual_int]
  have hindexOf : (method list "indexOf" [right]).eval scope =
      .ok (.ofPosition (items.findIdx? fun n => nearest n.toInt = nearest b.toInt)) := by
    rw [eval_method hlist hright]
    simp [Value.callMethod, Value.arrayMethod, List.findIdx?_map, Function.comp_def,
      Value.strictlyEqual_int]
  refine ⟨hnearest, hincludes, hindexOf, hnearest.existsUnique, comparesAs_iff hleft hright, ?_⟩
  intro hsmall
  have hself : ∀ n ∈ a :: b :: items, nearest n.toInt = n.toInt := fun n hn =>
    nearest_of_natAbs_le (hsmall n hn)
  have ha := hself a (by simp)
  have hb := hself b (by simp)
  have hitems : ∀ n ∈ items, decide (nearest n.toInt = nearest b.toInt) = decide (n = b) := by
    intro n hn
    rw [hself n (by simp [hn]), hb, decide_eq_decide, Int64.toInt_inj]
  have hsought := findIdx?_congr hitems
  have hany : (items.any fun n => nearest n.toInt = nearest b.toInt) = decide (b ∈ items) := by
    rw [← List.findIdx?_isSome, hsought, List.findIdx?_isSome, Bool.eq_iff_iff]
    simp
  rw [ha, hb] at hnearest
  exact ⟨hnearest, hany ▸ hincludes, hsought ▸ hindexOf⟩

/-- The largest integer up to which all have their own number, one that is less, and both in a
list. -/
theorem int_comparison_limit :
    let scope := (Bindings.empty ⟨2024, 6, 1, 9, 15, 0, 0, 7200⟩).scope
    let left := literal (.int 9007199254740992)
    let right := literal (.int 9007199254740991)
    let list := array [left, right]
    ComparesAs scope left right 9007199254740992 9007199254740991 ∧
      (method list "indexOf" [right]).eval scope = .ok (.int 1) := by
  intro scope left right list
  have hleft : left.eval scope = .ok (.int 9007199254740992) := rfl
  have hright : right.eval scope = .ok (.int 9007199254740991) := rfl
  have hlist : list.eval scope =
      .ok (.array ([9007199254740992, 9007199254740991].map .int)) := rfl
  obtain ⟨-, -, -, -, -, hexact⟩ := int_comparison hleft hright hlist
  have hsmall : ∀ n ∈ ([9007199254740992, 9007199254740991, 9007199254740992,
      9007199254740991] : List Int64), n.toInt.natAbs ≤ 2 ^ 53 := by
    intro n hn
    simp only [List.mem_cons, List.not_mem_nil, or_false] at hn
    rcases hn with rfl | rfl | rfl | rfl <;> decide
  obtain ⟨hcompares, -, hindexOf⟩ := hexact hsmall
  exact ⟨hcompares, hindexOf⟩

/-- Two different integers that are rounded to the same number. -/
theorem int_comparison_merged :
    let scope := (Bindings.empty ⟨2024, 6, 1, 9, 15, 0, 0, 7200⟩).scope
    (9007199254740993 : Int64) ≠ 9007199254740992 ∧
      (ParseCache.empty.evaluate "9007199254740993 === 9007199254740992" scope).1 =
        .ok (.bool true) := by
  intro scope
  exact ⟨by decide, Value.eq_ok_bool_of_same (by decide +kernel)⟩

end Expr

end RowTemplate
