import Mathlib.Tactic.Ring

/-! # Rounding to 53 binary digits

An integer of more than 53 binary digits is rounded to the nearest one of which
only the first 53 may be other than zero, and halfway between two of them to the
even one. Rounding keeps the order, but not that two integers differ.
-/

namespace RowTemplate.Number

/-- The quotient rounded to the nearest natural number, halves to the even one. -/
def divNearest (n d : Nat) : Nat :=
  if 2 * (n % d) < d then n / d
  else if d < 2 * (n % d) then n / d + 1
  else n / d + n / d % 2

/-- The number of binary digits behind the first 53. -/
def excess (n : Nat) : Nat := n.log2 - 52

/-- The nearest natural number with no digits but zeros behind the first 53. -/
def nearestNat (n : Nat) : Nat := divNearest n (2 ^ excess n) * 2 ^ excess n

/-- The nearest integer with no digits but zeros behind the first 53. -/
def nearest (z : Int) : Int := z.sign * nearestNat z.natAbs

section Quotient

variable {n m d a c : Nat}

theorem div_le_divNearest (n d : Nat) : n / d ≤ divNearest n d := by
  unfold divNearest
  split_ifs <;> omega

theorem divNearest_le_succ (n d : Nat) : divNearest n d ≤ n / d + 1 := by
  unfold divNearest
  split_ifs <;> omega

@[simp] theorem divNearest_one (n : Nat) : divNearest n 1 = n := by
  simp [divNearest, Nat.mod_one]

theorem divNearest_mul_right (hc : 0 < c) (n d : Nat) :
    divNearest (n * c) (d * c) = divNearest n d := by
  have hlt : 2 * (n % d * c) < d * c ↔ 2 * (n % d) < d := by
    rw [← Nat.mul_assoc, Nat.mul_lt_mul_right hc]
  have hgt : d * c < 2 * (n % d * c) ↔ d < 2 * (n % d) := by
    rw [← Nat.mul_assoc, Nat.mul_lt_mul_right hc]
  simp only [divNearest, Nat.mul_mod_mul_right, Nat.mul_div_mul_right _ _ hc, hlt, hgt]

theorem divNearest_mul_self (hd : 0 < d) (a : Nat) : divNearest (a * d) d = a := by
  simp [divNearest, hd]

theorem divNearest_mono (d : Nat) (h : n ≤ m) : divNearest n d ≤ divNearest m d := by
  rcases Nat.lt_or_eq_of_le (Nat.div_le_div_right (c := d) h) with hlt | heq
  · calc
      divNearest n d ≤ n / d + 1 := divNearest_le_succ n d
      _ ≤ m / d := hlt
      _ ≤ divNearest m d := div_le_divNearest m d
  · -- With the same quotient it is the remainders that are in order.
    have hmod : n % d ≤ m % d := by
      have hn := Nat.div_add_mod n d
      have hm := Nat.div_add_mod m d
      rw [heq] at hn
      omega
    unfold divNearest
    rw [heq]
    split_ifs <;> omega

theorem le_divNearest (hd : 0 < d) (h : a * d ≤ n) : a ≤ divNearest n d := by
  have hle := divNearest_mono d h
  rwa [divNearest_mul_self hd] at hle

theorem divNearest_le (hd : 0 < d) (h : n ≤ a * d) : divNearest n d ≤ a := by
  have hle := divNearest_mono d h
  rwa [divNearest_mul_self hd] at hle

end Quotient

section Natural

variable {n m k : Nat}

theorem nearestNat_of_lt (h : n < 2 ^ 53) : nearestNat n = n := by
  have hexcess : excess n = 0 := by
    rcases Nat.eq_zero_or_pos n with rfl | hpos
    · rfl
    · have hlog := (Nat.log2_lt (Nat.ne_of_gt hpos)).mpr h
      unfold excess
      omega
  rw [nearestNat, hexcess, pow_zero, divNearest_one, mul_one]

theorem log2_mul_two_pow (hn : n ≠ 0) (k : Nat) : (n * 2 ^ k).log2 = n.log2 + k := by
  have hpos := Nat.two_pow_pos k
  refine (Nat.log2_eq_iff (Nat.mul_ne_zero hn (Nat.ne_of_gt hpos))).mpr ⟨?_, ?_⟩
  · rw [pow_add]
    exact Nat.mul_le_mul_right _ (Nat.log2_self_le hn)
  · rw [Nat.add_right_comm, pow_add]
    exact (Nat.mul_lt_mul_right hpos).mpr Nat.lt_log2_self

theorem nearestNat_mul_two_pow (h : 2 ^ 52 ≤ n) (k : Nat) :
    nearestNat (n * 2 ^ k) = nearestNat n * 2 ^ k := by
  have hne : n ≠ 0 := by omega
  have hlog : 52 ≤ n.log2 := (Nat.le_log2 hne).mpr h
  have hexcess : excess (n * 2 ^ k) = excess n + k := by
    unfold excess
    rw [log2_mul_two_pow hne]
    omega
  rw [nearestNat, hexcess, pow_add, divNearest_mul_right (Nat.two_pow_pos k), nearestNat,
    mul_assoc]

theorem two_pow_log2_eq (h : 2 ^ 52 ≤ n) : 2 ^ n.log2 = 2 ^ 52 * 2 ^ excess n := by
  have hlog : 52 ≤ n.log2 := (Nat.le_log2 (by omega)).mpr h
  rw [← pow_add]
  congr 1
  unfold excess
  omega

/-- The rounded quotient has 53 digits, or is the next power of two. -/
theorem divNearest_bounds (h : 2 ^ 52 ≤ n) :
    2 ^ 52 ≤ divNearest n (2 ^ excess n) ∧ divNearest n (2 ^ excess n) ≤ 2 ^ 53 := by
  have hpow := two_pow_log2_eq h
  have hle := Nat.log2_self_le (n := n) (by omega)
  have hlt := Nat.lt_log2_self (n := n)
  constructor
  · exact le_divNearest (Nat.two_pow_pos _) (by omega)
  · refine divNearest_le (Nat.two_pow_pos _) ?_
    rw [pow_succ] at hlt
    omega

theorem nearestNat_bounds (hn : n ≠ 0) :
    2 ^ n.log2 ≤ nearestNat n ∧ nearestNat n ≤ 2 ^ (n.log2 + 1) := by
  rcases Nat.lt_or_ge n (2 ^ 52) with h | h
  · rw [nearestNat_of_lt (by omega)]
    exact ⟨Nat.log2_self_le hn, Nat.le_of_lt Nat.lt_log2_self⟩
  · obtain ⟨hge, hle⟩ := divNearest_bounds h
    rw [pow_succ, two_pow_log2_eq h, nearestNat]
    constructor
    · exact Nat.mul_le_mul_right _ hge
    · calc
        divNearest n (2 ^ excess n) * 2 ^ excess n ≤ 2 ^ 53 * 2 ^ excess n :=
          Nat.mul_le_mul_right _ hle
        _ = 2 ^ 52 * 2 ^ excess n * 2 := by ring

theorem nearestNat_mono (h : n ≤ m) : nearestNat n ≤ nearestNat m := by
  rcases Nat.eq_zero_or_pos n with rfl | hpos
  · exact Nat.zero_le _
  have hn : n ≠ 0 := Nat.ne_of_gt hpos
  have hm : m ≠ 0 := by omega
  have hlog : n.log2 ≤ m.log2 := (Nat.le_log2 hm).mpr ((Nat.log2_self_le hn).trans h)
  rcases Nat.lt_or_eq_of_le hlog with hlt | heq
  · calc
      nearestNat n ≤ 2 ^ (n.log2 + 1) := (nearestNat_bounds hn).2
      _ ≤ 2 ^ m.log2 := Nat.pow_le_pow_right (by decide) hlt
      _ ≤ nearestNat m := (nearestNat_bounds hm).1
  · have hexcess : excess n = excess m := by rw [excess, excess, heq]
    rw [nearestNat, nearestNat, hexcess]
    exact Nat.mul_le_mul_right _ (divNearest_mono _ h)

theorem nearestNat_of_le (h : n ≤ 2 ^ 53) : nearestNat n = n := by
  rcases Nat.lt_or_eq_of_le h with hlt | rfl
  · exact nearestNat_of_lt hlt
  · decide

theorem nearestNat_pos (hn : 0 < n) : 0 < nearestNat n :=
  (Nat.two_pow_pos _).trans_le (nearestNat_bounds (Nat.ne_of_gt hn)).1

end Natural

section Integer

variable {z w : Int}

@[simp] theorem nearest_natCast (n : Nat) : nearest n = nearestNat n := by
  rcases Nat.eq_zero_or_pos n with rfl | hpos
  · rfl
  · rw [nearest, Int.sign_natCast_of_ne_zero (Nat.ne_of_gt hpos), Int.natAbs_natCast, one_mul]

@[simp] theorem nearest_neg (z : Int) : nearest (-z) = -nearest z := by
  rw [nearest, nearest, Int.sign_neg, Int.natAbs_neg, neg_mul]

theorem nearest_mono (h : z ≤ w) : nearest z ≤ nearest w := by
  obtain ⟨n, rfl | rfl⟩ := z.eq_nat_or_neg <;> obtain ⟨m, rfl | rfl⟩ := w.eq_nat_or_neg <;>
    simp only [nearest_natCast, nearest_neg]
  · have hle : n ≤ m := by omega
    exact_mod_cast nearestNat_mono hle
  · obtain ⟨rfl, rfl⟩ : n = 0 ∧ m = 0 := by omega
    decide
  · omega
  · have hle : m ≤ n := by omega
    have hround := nearestNat_mono hle
    omega

theorem nearest_of_natAbs_le (h : z.natAbs ≤ 2 ^ 53) : nearest z = z := by
  rw [nearest, nearestNat_of_le h, Int.sign_mul_natAbs]

end Integer

end RowTemplate.Number
