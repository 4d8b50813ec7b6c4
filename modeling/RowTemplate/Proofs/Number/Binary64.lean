import Mathlib
import RowTemplate.Proofs.Number.Nearest

/-! # Integers as binary64 numbers

The binary64 number of an integer is the integer rounded to 53 binary digits:
the rounding machine of the floating-point model shifts the excess digits out
and decides by what it has shifted out. Two such numbers compare as the rounded
integers do.
-/

namespace RowTemplate.Number

open Float.Model (Format UnpackedFloat totalExponent)
open Float.Model.UnpackedFloat

/-! ### Shifting digits out -/

theorem shiftRight_succ (em : ExtendedMantissa) (k : Nat) :
    em >>> (k + 1) = (em >>> k).shiftRightOne := rfl

theorem mod_two_pow_succ (m k : Nat) :
    m % 2 ^ (k + 1) = m % 2 ^ k + 2 ^ k * (m / 2 ^ k % 2) := by
  rw [pow_succ, Nat.mod_mul]

/-- The round digit is the last one shifted out, and the sticky digit says whether there was
another one before it that is not zero. -/
theorem exact_shiftRight_succ (m k : Nat) :
    (⟨m, false, false⟩ : ExtendedMantissa) >>> (k + 1) =
      ⟨m / 2 ^ (k + 1), m / 2 ^ k % 2 != 0, m % 2 ^ k != 0⟩ := by
  induction k with
  | zero =>
    rw [shiftRight_succ]
    simp [HShiftRight.hShiftRight, Nat.repeat, ExtendedMantissa.shiftRightOne, Nat.mod_one]
  | succ k ih =>
    have hsticky : (m / 2 ^ k % 2 != 0 || m % 2 ^ k != 0) = (m % 2 ^ (k + 1) != 0) := by
      rw [mod_two_pow_succ]
      rcases Nat.mod_two_eq_zero_or_one (m / 2 ^ k) with hround | hround <;> simp [hround]
    rw [shiftRight_succ, ih]
    simp only [ExtendedMantissa.shiftRightOne, hsticky, Nat.div_div_eq_div_mul, ← pow_succ]

theorem mantissa_exact_shiftRight (m k : Nat) :
    ((⟨m, false, false⟩ : ExtendedMantissa) >>> k).mantissa = m / 2 ^ k := by
  cases k with
  | zero => simp [HShiftRight.hShiftRight, Nat.repeat]
  | succ k => rw [exact_shiftRight_succ]

theorem roundedMantissa_exact_shiftRight (m k : Nat) :
    ((⟨m, false, false⟩ : ExtendedMantissa) >>> k).roundedMantissa = divNearest m (2 ^ k) := by
  cases k with
  | zero =>
    rw [pow_zero, divNearest_one]
    rfl
  | succ k =>
    have hlt : m % 2 ^ k < 2 ^ k := Nat.mod_lt _ (Nat.two_pow_pos k)
    rw [exact_shiftRight_succ, divNearest, mod_two_pow_succ]
    generalize m / 2 ^ (k + 1) = q
    rw [pow_succ]
    rcases Nat.mod_two_eq_zero_or_one (m / 2 ^ k) with hround | hround
    · -- What was shifted out is less than a half.
      have hless : 2 * (m % 2 ^ k) < 2 ^ k * 2 := by omega
      rw [hround, mul_zero, add_zero, if_pos hless]
      cases m % 2 ^ k != 0 <;> rfl
    · have hnot : ¬ 2 * (m % 2 ^ k + 2 ^ k) < 2 ^ k * 2 := by omega
      rw [hround, mul_one, if_neg hnot]
      rcases Nat.eq_zero_or_pos (m % 2 ^ k) with hsticky | hsticky
      · rw [hsticky, if_neg (by omega)]
        rfl
      · rw [if_pos (by omega), bne_iff_ne.mpr (Nat.ne_of_gt hsticky)]
        rfl

theorem targetExponent_eq (m : Nat) (e : Int) :
    Format.binary64.targetExponent (totalExponent m e) = max (m.log2 + e - 52) (-1074) := by
  have hmin : Format.binary64.minExponent = -1074 := rfl
  have hbits : Format.binary64.mantissaBits = 53 := rfl
  rw [Format.targetExponent, totalExponent, hmin, hbits]
  omega

theorem shiftToTargetExponent_exact {m : Nat} {e : Int} (hm : 2 ^ 52 ≤ m) (he : -1074 ≤ e) :
    shiftToTargetExponent .binary64 m e .exact =
      ((⟨m, false, false⟩ : ExtendedMantissa) >>> excess m, e + excess m) := by
  have hlog : 52 ≤ m.log2 := (Nat.le_log2 (by omega)).mpr hm
  have htarget : Format.binary64.targetExponent (totalExponent m e) = e + excess m := by
    rw [targetExponent_eq, excess]
    omega
  have hshift : (e + (excess m : Int) - e).toNat = excess m := by omega
  rw [shiftToTargetExponent, htarget, shiftToExponent, hshift]
  rfl

/-- A mantissa of at least 53 digits comes out with 53 of them, and with the value that it is
rounded to. -/
theorem roundWithAccuracy_exact (sign : Sign) {m : Nat} {e : Int} (hm : 2 ^ 52 ≤ m)
    (he : -1074 ≤ e) :
    ∃ (r i : Nat) (hr : 0 < r),
      roundWithAccuracy .binary64 sign m e .exact = .finite sign r (e + i) hr ∧
        2 ^ 52 ≤ r ∧ r < 2 ^ 53 ∧ r * 2 ^ i = nearestNat m := by
  obtain ⟨hge, hle⟩ := divNearest_bounds hm
  have hnearest : nearestNat m = divNearest m (2 ^ excess m) * 2 ^ excess m := rfl
  set q := divNearest m (2 ^ excess m) with hq
  -- The second shift takes back a carry into a 54th digit.
  have hcarry : 2 ^ 52 ≤ q / 2 ^ excess q ∧ q / 2 ^ excess q < 2 ^ 53 ∧
      q / 2 ^ excess q * 2 ^ excess q = q := by
    rcases Nat.lt_or_eq_of_le hle with hlt | heq
    · have hexcess : excess q = 0 := by
        have hlog := (Nat.log2_lt (n := q) (by omega)).mpr hlt
        unfold excess
        omega
      rw [hexcess, pow_zero, Nat.div_one, mul_one]
      exact ⟨hge, hlt, rfl⟩
    · rw [heq]
      decide
  obtain ⟨hrge, hrlt, hmul⟩ := hcarry
  have hpos : 0 < q / 2 ^ excess q := by omega
  refine ⟨q / 2 ^ excess q, excess m + excess q, hpos, ?_, hrge, hrlt, ?_⟩
  · rw [roundWithAccuracy, shiftToTargetExponent_exact hm he]
    have hcarried := shiftToTargetExponent_exact (e := e + excess m) hge (by omega)
    simp only [roundedMantissa_exact_shiftRight, ← hq, hcarried, mantissa_exact_shiftRight]
    rw [dif_neg (Nat.ne_of_gt hpos)]
    congr 1
    push_cast
    ring
  · rw [hnearest, Nat.add_comm, pow_add, ← mul_assoc, hmul]

/-! ### Floats that are integers -/

/-- The unpacked float is an integer, and unless it is zero its mantissa has 53 digits. -/
inductive Denotes : UnpackedFloat → Int → Prop
  | zero (sign : Sign) : Denotes (.zero sign) 0
  | finite {sign : Sign} {r i n : Nat} (hr : 0 < r) : 2 ^ 52 ≤ r → r < 2 ^ 53 → i ≤ 100 →
    r * 2 ^ i = n * 2 ^ 52 → Denotes (.finite sign r (i - 52) hr) (sign.apply n)

theorem two_pow_le_of_scaled {r i n : Nat} (hr : 2 ^ 52 ≤ r) (h : r * 2 ^ i = n * 2 ^ 52) :
    2 ^ i ≤ n := by
  refine Nat.le_of_mul_le_mul_left ?_ (Nat.two_pow_pos 52)
  rw [mul_comm (2 ^ 52) n, ← h]
  exact Nat.mul_le_mul_right _ hr

theorem denotes_roundWithAccuracy (sign : Sign) {m n b : Nat} (hm : 2 ^ 52 ≤ m) (hb : b ≤ 1000)
    (h : nearestNat m = n * 2 ^ b) (hpos : 0 < n) (hn : n < 2 ^ 100) :
    Denotes (roundWithAccuracy .binary64 sign m (-b) .exact) (sign.apply n) := by
  obtain ⟨r, i, hr, heq, hge, hlt, hmul⟩ :=
    roundWithAccuracy_exact (e := -b) sign hm (by omega)
  have hbi : b ≤ i + 52 := by
    by_contra hlarge
    have hcontra : 2 ^ 53 * 2 ^ i ≤ r * 2 ^ i := calc
      2 ^ 53 * 2 ^ i = 2 ^ (53 + i) := (pow_add 2 53 i).symm
      _ ≤ 2 ^ b := Nat.pow_le_pow_right (by decide) (by omega)
      _ ≤ n * 2 ^ b := Nat.le_mul_of_pos_left _ hpos
      _ = r * 2 ^ i := by rw [hmul, h]
    have hle := Nat.le_of_mul_le_mul_right hcontra (Nat.two_pow_pos i)
    omega
  have hval : r * 2 ^ (i + 52 - b) = n * 2 ^ 52 := by
    refine Nat.eq_of_mul_eq_mul_right (Nat.two_pow_pos b) ?_
    calc
      r * 2 ^ (i + 52 - b) * 2 ^ b = r * 2 ^ (i + 52 - b + b) := by rw [pow_add, mul_assoc]
      _ = r * 2 ^ i * 2 ^ 52 := by rw [Nat.sub_add_cancel hbi, pow_add, mul_assoc]
      _ = n * 2 ^ 52 * 2 ^ b := by rw [hmul, h, mul_right_comm]
  have hbound : i + 52 - b ≤ 100 := by
    have hlt' : 2 ^ (i + 52 - b) < 2 ^ 100 := (two_pow_le_of_scaled hge hval).trans_lt hn
    exact Nat.le_of_lt ((Nat.pow_lt_pow_iff_right (by decide)).mp hlt')
  have hexp : (-b + i : Int) = (i + 52 - b : Nat) - 52 := by omega
  rw [heq]
  simp only [hexp]
  exact .finite hr hge hlt hbound hval

theorem unpackSign_packComponents {spec : Format} (sign : Sign)
    (exponent : BitVec spec.exponentBits) (mantissa : BitVec spec.mantissaBitsWithoutImplicit) :
    unpackSign (packComponents spec sign exponent mantissa) = sign.toBitVec := by
  ext i hi
  obtain rfl : i = 0 := by omega
  simp [unpackSign, packComponents, BitVec.getLsbD_append, BitVec.getElem_append]

/-- The first of 53 digits is not stored. -/
theorem toNat_one_append {r : Nat} (hge : 2 ^ 52 ≤ r) (hlt : r < 2 ^ 53) :
    (1#1 ++ BitVec.ofNat 52 r).toNat = r := by
  have hmod : r % 2 ^ 52 < 2 ^ 52 := Nat.mod_lt _ (by decide)
  rw [BitVec.toNat_append, BitVec.toNat_ofNat, BitVec.toNat_ofNat,
    ← Nat.shiftLeft_add_eq_or_of_lt hmod, Nat.shiftLeft_eq]
  omega

theorem pack_finite (sign : Sign) {r i : Nat} (hr : 0 < r) (hge : 2 ^ 52 ≤ r)
    (hlt : r < 2 ^ 53) (hi : i ≤ 1023) :
    pack .binary64 (.finite sign r (i - 52) hr) =
      packComponents .binary64 sign (BitVec.ofNat 11 (i + 1023)) (BitVec.ofNat 52 r) := by
  have hlog : r.log2 = 52 := (Nat.log2_eq_iff (by omega)).mpr ⟨hge, hlt⟩
  have hbiased : ((i : Int) - 52 + Format.binary64.exponentBias + (52 : Nat)).toNat =
      i + 1023 := by
    have hbias : Format.binary64.exponentBias = 1023 := rfl
    rw [hbias]
    omega
  simp only [pack, hbiased]
  rw [if_neg (by omega), if_pos (by rw [hlog]; rfl)]

theorem unpack_pack_finite (sign : Sign) {r i : Nat} (hr : 0 < r) (hge : 2 ^ 52 ≤ r)
    (hlt : r < 2 ^ 53) (hi : i ≤ 1023) :
    unpack .binary64 (pack .binary64 (.finite sign r (i - 52) hr)) =
      .finite sign r (i - 52) hr := by
  rw [pack_finite sign hr hge hlt hi, unpack]
  simp only [unpackExponent_packComponents, unpackMantissa_packComponents,
    unpackSign_packComponents]
  have hexp : (BitVec.ofNat 11 (i + 1023)).toNat = i + 1023 := by
    rw [BitVec.toNat_ofNat]
    exact Nat.mod_eq_of_lt (by omega)
  have hones : BitVec.ofNat 11 (i + 1023) ≠ -1#11 := fun h => by
    have hnat : i + 1023 = 2047 := hexp.symm.trans (congrArg BitVec.toNat h)
    omega
  have hzeros : BitVec.ofNat 11 (i + 1023) ≠ 0#11 := fun h => by
    have hnat : i + 1023 = 0 := hexp.symm.trans (congrArg BitVec.toNat h)
    omega
  have hsign : Sign.ofBitVec sign.toBitVec = sign := by cases sign <;> rfl
  have hbias : ((i + 1023 : Nat) : Int) - (Format.binary64.exponentBias + (52 : Nat)) =
      i - 52 := by
    have hbias : Format.binary64.exponentBias = 1023 := rfl
    rw [hbias]
    omega
  rw [if_neg hones, if_neg hzeros]
  simp only [hexp, hsign, hbias, toNat_one_append hge hlt]

theorem Denotes.unpack_pack {x : UnpackedFloat} {z : Int} (h : Denotes x z) :
    unpack .binary64 (pack .binary64 x) = x := by
  cases h with
  | zero sign => cases sign <;> rfl
  | finite hr hge hlt hi _ => exact unpack_pack_finite _ hr hge hlt (by omega)

/-! ### The order of integers -/

theorem scaled_lt {r s i j : Nat} (hr : r < 2 ^ 53) (hs : 2 ^ 52 ≤ s) (h : i < j) :
    r * 2 ^ i < s * 2 ^ j := calc
  r * 2 ^ i < 2 ^ 53 * 2 ^ i := (Nat.mul_lt_mul_right (Nat.two_pow_pos i)).mpr hr
  _ = 2 ^ 52 * 2 ^ (i + 1) := by ring
  _ ≤ 2 ^ 52 * 2 ^ j := Nat.mul_le_mul_left _ (Nat.pow_le_pow_right (by decide) h)
  _ ≤ s * 2 ^ j := Nat.mul_le_mul_right _ hs

/-- Where mantissas have 53 digits, exponents decide, and mantissas where these are the same. -/
theorem compare_scaled {r s i j n m : Nat} (hr : 2 ^ 52 ≤ r) (hr' : r < 2 ^ 53)
    (hs : 2 ^ 52 ≤ s) (hs' : s < 2 ^ 53) (hn : r * 2 ^ i = n * 2 ^ 52)
    (hm : s * 2 ^ j = m * 2 ^ 52) :
    (compare ((i : Int) - 52) (j - 52)).then (compare r s) = compare (n : Int) m := by
  have hcancel {a b : Nat} (h : a * 2 ^ 52 < b * 2 ^ 52) : (a : Int) < b := by omega
  rcases Nat.lt_trichotomy i j with h | rfl | h
  · have hlt := hcancel (hn ▸ hm ▸ scaled_lt hr' hs h)
    rw [Int.compare_eq_lt.mpr hlt, Int.compare_eq_lt.mpr (by omega)]
    rfl
  · have hpow := Nat.two_pow_pos i
    rw [Int.compare_eq_eq.mpr rfl, Ordering.eq_then]
    rcases Nat.lt_trichotomy r s with h | rfl | h
    · have hlt := hcancel (hn ▸ hm ▸ (Nat.mul_lt_mul_right hpow).mpr h)
      rw [Int.compare_eq_lt.mpr hlt, Nat.compare_eq_lt.mpr h]
    · have heq : (n : Int) = m := by omega
      rw [Int.compare_eq_eq.mpr heq, Nat.compare_eq_eq.mpr rfl]
    · have hlt := hcancel (hn ▸ hm ▸ (Nat.mul_lt_mul_right hpow).mpr h)
      rw [Int.compare_eq_gt.mpr hlt, Nat.compare_eq_gt.mpr h]
  · have hlt := hcancel (hn ▸ hm ▸ scaled_lt hs' hr h)
    rw [Int.compare_eq_gt.mpr hlt, Int.compare_eq_gt.mpr (by omega)]
    rfl

theorem Denotes.neg {x : UnpackedFloat} {z : Int} (h : Denotes x z) : Denotes x.neg (-z) := by
  cases h with
  | zero sign => exact .zero (-sign)
  | @finite sign r i n hr hge hlt hi hval =>
    have happly : -sign.apply n = (-sign).apply n := by
      cases sign with
      | negative => exact neg_neg (n : Int)
      | positive => rfl
    rw [happly]
    exact .finite hr hge hlt hi hval

theorem compare_neg_neg (a b : Int) : compare (-a) (-b) = (compare a b).swap := by
  rcases Int.lt_trichotomy a b with h | rfl | h
  · rw [Int.compare_eq_lt.mpr h, Int.compare_eq_gt.mpr (by omega)]
    rfl
  · rw [Int.compare_eq_eq.mpr rfl, Int.compare_eq_eq.mpr rfl]
    rfl
  · rw [Int.compare_eq_gt.mpr h, Int.compare_eq_lt.mpr (by omega)]
    rfl

theorem Denotes.compare_eq {x y : UnpackedFloat} {z w : Int} (hx : Denotes x z)
    (hy : Denotes y w) : x.compare y = some (compare z w) := by
  have hpos {r i n : Nat} (hr : 2 ^ 52 ≤ r) (h : r * 2 ^ i = n * 2 ^ 52) : (0 : Int) < n := by
    exact_mod_cast (Nat.two_pow_pos i).trans_le (two_pow_le_of_scaled hr h)
  have hless {a b : Int} (h : a < b) : some Ordering.lt = some (compare a b) :=
    congrArg some (Int.compare_eq_lt.mpr h).symm
  have hmore {a b : Int} (h : b < a) : some Ordering.gt = some (compare a b) :=
    congrArg some (Int.compare_eq_gt.mpr h).symm
  cases hx with
  | zero _ =>
    cases hy with
    | zero _ => rfl
    | @finite sign s j m hs hge _ _ hval =>
      have hm := hpos hge hval
      cases sign with
      | negative => exact hmore (Int.neg_neg_of_pos hm)
      | positive => exact hless hm
  | @finite sign r i n hr hge hlt _ hval =>
    have hn := hpos hge hval
    cases hy with
    | zero _ =>
      cases sign with
      | negative => exact hless (Int.neg_neg_of_pos hn)
      | positive => exact hmore hn
    | @finite sign' s j m hs hge' hlt' _ hval' =>
      have hm := hpos hge' hval'
      have hscaled := compare_scaled hge hlt hge' hlt' hval hval'
      cases sign with
      | negative =>
        cases sign' with
        | negative =>
          rw [Sign.apply, Sign.apply, compare_neg_neg, ← hscaled]
          rfl
        | positive => exact hless ((Int.neg_neg_of_pos hn).trans hm)
      | positive =>
        cases sign' with
        | negative => exact hmore ((Int.neg_neg_of_pos hm).trans hn)
        | positive => exact congrArg some hscaled

/-! ### Conversion -/

/-- The binary64 number is an integer. -/
def IsInteger (x : Float) (z : Int) : Prop := Denotes x.toModel.unpack z

theorem Denotes.isInteger {u : UnpackedFloat} {z : Int} (h : Denotes u z) :
    IsInteger (.ofModel (.pack u)) z := by
  have hunpack : Float.Model.unpack (.pack u) = u := h.unpack_pack
  rw [IsInteger, hunpack]
  exact h

theorem Denotes.isFinite {u : UnpackedFloat} {z : Int} (h : Denotes u z) : u.isFinite = true := by
  cases h <;> rfl

theorem IsInteger.isFinite {x : Float} {z : Int} (h : IsInteger x z) : x.isFinite = true :=
  Denotes.isFinite h

/-- The digits that are missing to 53 are filled up with zeros. -/
theorem filled_bounds {n : Nat} (hn : n ≠ 0) (hlog : n.log2 ≤ 52) :
    2 ^ 52 ≤ n * 2 ^ (52 - n.log2) ∧ n * 2 ^ (52 - n.log2) < 2 ^ 53 := by
  constructor
  · calc
      2 ^ 52 = 2 ^ n.log2 * 2 ^ (52 - n.log2) := by rw [← pow_add, Nat.add_sub_cancel' hlog]
      _ ≤ n * 2 ^ (52 - n.log2) := Nat.mul_le_mul_right _ (Nat.log2_self_le hn)
  · calc
      n * 2 ^ (52 - n.log2) < 2 ^ (n.log2 + 1) * 2 ^ (52 - n.log2) :=
        (Nat.mul_lt_mul_right (Nat.two_pow_pos _)).mpr Nat.lt_log2_self
      _ = 2 ^ 53 := by
        rw [← pow_add]
        congr 1
        omega

theorem denotes_normalize {n : Nat} (hn : n < 2 ^ 53) :
    Denotes (UnpackedFloat.normalize .binary64 n 0 .positive) n := by
  rcases Nat.eq_zero_or_pos n with rfl | hpos
  · exact .zero .positive
  have hlog : n.log2 ≤ 52 := by
    have hlt := (Nat.log2_lt (by omega)).mpr hn
    omega
  obtain ⟨hge, hlt⟩ := filled_bounds (Nat.ne_of_gt hpos) hlog
  have hfill : (-Format.binary64.targetExponent (totalExponent n 0)).toNat = 52 - n.log2 := by
    rw [targetExponent_eq]
    omega
  have hround : UnpackedFloat.normalize .binary64 n 0 .positive =
      roundWithAccuracy .binary64 .positive (n * 2 ^ (52 - n.log2)) (-(52 - n.log2 : Nat))
        .exact := by
    have hgt : compare (n : Int) 0 = .gt := Int.compare_eq_gt.mpr (by omega)
    rw [UnpackedFloat.normalize, hgt]
    simp only [UnpackedFloat.round, decreaseExponent, Int.toNat_natCast, zero_sub, hfill,
      Nat.shiftLeft_eq]
  rw [hround]
  exact denotes_roundWithAccuracy .positive hge (by omega) (nearestNat_of_lt hlt) hpos (by omega)

theorem unpack_one : (Float.exactlyRepresentablePowersOfTen[0]).toModel.unpack =
    .finite .positive (2 ^ 52) (-52) (by decide) := rfl

theorem Denotes.mul_one {x : UnpackedFloat} {n : Nat} (h : Denotes x n) (hn : n < 2 ^ 53) :
    Denotes (mul .binary64 x (.finite .positive (2 ^ 52) (-52) (by decide))) n := by
  generalize hz : (n : Int) = z at h ⊢
  cases h with
  | zero sign => exact .zero _
  | @finite sign r i n' hr hge hlt hi hval =>
    have hle := two_pow_le_of_scaled hge hval
    have hpos : 0 < n' := (Nat.two_pow_pos i).trans_le hle
    have hsign : sign = .positive ∧ n = n' := by
      cases sign with
      | negative =>
        rw [Sign.apply] at hz
        omega
      | positive => exact ⟨rfl, Int.ofNat.inj hz⟩
    obtain ⟨rfl, rfl⟩ := hsign
    have hi52 : i ≤ 52 :=
      Nat.le_of_lt_succ ((Nat.pow_lt_pow_iff_right (by decide)).mp (hle.trans_lt hn))
    have hnearest : nearestNat (r * 2 ^ 52) = n * 2 ^ (104 - i) := by
      rw [nearestNat_mul_two_pow hge, nearestNat_of_lt hlt]
      refine Nat.eq_of_mul_eq_mul_right (Nat.two_pow_pos i) ?_
      calc
        r * 2 ^ 52 * 2 ^ i = n * (2 ^ 52 * 2 ^ 52) := by rw [mul_right_comm, hval, mul_assoc]
        _ = n * (2 ^ (104 - i) * 2 ^ i) := by
          rw [← pow_add, ← pow_add, Nat.sub_add_cancel (by omega)]
        _ = n * 2 ^ (104 - i) * 2 ^ i := (mul_assoc ..).symm
    have hexp : (i : Int) - 52 + -52 = -(104 - i : Nat) := by omega
    rw [mul, hexp]
    exact denotes_roundWithAccuracy .positive (by omega) (by omega) hnearest hpos (by omega)

theorem isInteger_toUInt64 {n : Nat} (hn : n < 2 ^ 53) : IsInteger n.toUInt64.toFloat n := by
  have hto : n.toUInt64.toNat = n := by
    rw [Nat.toUInt64_eq, UInt64.toNat_ofNat']
    exact Nat.mod_eq_of_lt (by omega)
  have hfloat : n.toUInt64.toFloat =
      .ofModel (.pack (.normalize .binary64 n.toUInt64.toNat 0 .positive)) := rfl
  rw [hfloat, hto]
  exact (denotes_normalize hn).isInteger

theorem ofScientific_zero {n : Nat} (hn : 0 < n) :
    UnpackedFloat.ofScientific .binary64 n 0 =
      roundWithAccuracy .binary64 .positive (n * 2 ^ 53) (-(53 : Nat)) .exact := by
  have hbits : Format.binary64.mantissaBits = 53 := rfl
  have hlarge : ¬ (0 : Int) < -((2 ^ Format.binary64.exponentBits : Int) + n.log2) := by
    have hpow : (2 ^ Format.binary64.exponentBits : Int) = 2048 := rfl
    omega
  rw [UnpackedFloat.ofScientific, dif_neg (by omega), if_neg (by decide), if_neg hlarge,
    if_pos (by decide), mul]
  simp only [hbits, Nat.shiftLeft_eq, Int.toNat_zero, pow_zero, mul_one, add_zero]
  rfl

/-- A small number goes through its word and a multiplication by one, any other one through its
digits. -/
theorem isInteger_ofNat {n : Nat} (hn : n < 2 ^ 64) : IsInteger (Float.ofNat n) (nearestNat n) := by
  by_cases hsmall : n < 2 ^ 53
  · have hofNat : Float.ofNat n =
        n.toUInt64.toFloat * Float.exactlyRepresentablePowersOfTen[0] :=
      dif_pos ⟨hsmall, by decide⟩
    rw [hofNat, nearestNat_of_lt hsmall]
    refine Denotes.isInteger ?_
    rw [unpack_one]
    exact (isInteger_toUInt64 hsmall).mul_one hsmall
  · have hofNat : Float.ofNat n = .ofModel (.pack (.ofScientific .binary64 n 0)) :=
      dif_neg fun h => hsmall h.1
    have hge : 2 ^ 52 ≤ n * 2 ^ 53 := by omega
    have hnearest : nearestNat (n * 2 ^ 53) = nearestNat n * 2 ^ 53 :=
      nearestNat_mul_two_pow (by omega) 53
    have hbound : nearestNat n < 2 ^ 100 := by
      have hle := nearestNat_mono (m := 2 ^ 64) (Nat.le_of_lt hn)
      have heq : nearestNat (2 ^ 64) = 2 ^ 64 := by decide
      omega
    rw [hofNat, ofScientific_zero (by omega)]
    exact (denotes_roundWithAccuracy .positive hge (by omega) hnearest
      (nearestNat_pos (by omega)) hbound).isInteger

theorem isInteger_ofInt {z : Int} (hz : z.natAbs < 2 ^ 64) :
    IsInteger (Float.ofInt z) (nearest z) := by
  cases z with
  | ofNat n =>
    have hnearest : nearest (Int.ofNat n) = nearestNat n := nearest_natCast n
    rw [hnearest]
    exact isInteger_ofNat hz
  | negSucc n =>
    have hnearest : nearest (Int.negSucc n) = -nearestNat (n + 1) := by
      rw [Int.negSucc_eq, nearest_neg, ← nearest_natCast]
      rfl
    rw [hnearest]
    exact (isInteger_ofNat hz).neg.isInteger

theorem IsInteger.lt_iff {x y : Float} {z w : Int} (hx : IsInteger x z) (hy : IsInteger y w) :
    x < y ↔ z < w := by
  have hlt : x < y ↔ (x.toModel.unpack.compare y.toModel.unpack == some .lt) = true :=
    decide_eq_true_iff
  rw [hlt, hx.compare_eq hy, ← Int.compare_eq_lt]
  exact beq_iff_eq.trans Option.some_inj

theorem IsInteger.beq_eq {x y : Float} {z w : Int} (hx : IsInteger x z) (hy : IsInteger y w) :
    (x == y) = decide (z = w) := by
  have heq : (x == y) = (x.toModel.unpack.compare y.toModel.unpack == some .eq) := rfl
  rw [heq, hx.compare_eq hy, Bool.eq_iff_iff, decide_eq_true_iff, ← Int.compare_eq_eq]
  exact beq_iff_eq.trans Option.some_inj

end RowTemplate.Number
