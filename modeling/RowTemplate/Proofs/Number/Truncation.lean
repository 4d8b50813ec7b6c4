import Mathlib
import RowTemplate.Number.Reading
import RowTemplate.Proofs.Number.Binary64
import RowTemplate.Proofs.Number.Word

/-! # The integer part of a binary64 number

The shape of a number gives its exact value, and truncation drops the fraction
of that value. A numeral of more than 53 binary digits is read as the integer
rounded, up to the magnitude that rounds to infinity; beyond the range of words
the rounded integer has the same nearest word.
-/

namespace RowTemplate.Number

open Float.Model (Format UnpackedFloat)
open Float.Model.UnpackedFloat

/-! ### Shapes -/

/-- The shape that an unpacked number has. -/
def Shape.ofUnpacked : UnpackedFloat → Shape
  | .notANumber => .nan
  | .infinity sign => .infinite (sign == .negative)
  | .zero sign => .finite (sign == .negative) 0 (-1074)
  | .finite sign m e _ => .finite (sign == .negative) m e

theorem toNat_unpackExponent (b : BitVec Format.binary64.numBits) :
    (unpackExponent b).toNat = b.toNat >>> 52 % 2048 := by
  rw [unpackExponent, BitVec.toNat_cast, BitVec.extractLsb_toNat]
  rfl

theorem toNat_unpackMantissa (b : BitVec Format.binary64.numBits) :
    (unpackMantissa b).toNat = b.toNat % 1 <<< 52 := by
  rw [unpackMantissa, BitVec.toNat_cast, BitVec.extractLsb_toNat]
  rfl

theorem ofBitVec_unpackSign (b : BitVec Format.binary64.numBits) :
    (Sign.ofBitVec (unpackSign b) == .negative) = decide (b.toNat >>> 63 = 1) := by
  have hlt : b.toNat < 2 ^ 64 := b.isLt
  have hzero : unpackSign b = 0#1 ↔ b.toNat >>> 63 = 0 := by
    rw [BitVec.toNat_eq, unpackSign, BitVec.toNat_cast, BitVec.extractLsb_toNat,
      Nat.shiftRight_eq_div_pow, Nat.shiftRight_eq_div_pow]
    change b.toNat / 2 ^ 63 % 2 = 0 ↔ _
    omega
  rw [Nat.shiftRight_eq_div_pow] at hzero ⊢
  unfold Sign.ofBitVec
  split
  case isTrue h =>
    rw [hzero.mp h]
    rfl
  case isFalse h =>
    have hone : b.toNat / 2 ^ 63 = 1 := by
      have := mt hzero.mpr h
      omega
    rw [hone]
    rfl

theorem shape_eq (x : Float) : shape x = .ofUnpacked x.toModel.unpack := by
  obtain ⟨b, hb⟩ : ∃ b : BitVec Format.binary64.numBits, b = x.toBits.toBitVec := ⟨_, rfl⟩
  have hbits : x.toModel.unpack = unpack .binary64 b := by rw [hb]; rfl
  have hnat : x.toBits.toNat = b.toNat := by rw [hb]; rfl
  have hones : b.toNat >>> 52 % 2048 = 2047 ↔ unpackExponent b = -1#11 := by
    rw [BitVec.toNat_eq, toNat_unpackExponent]
    rfl
  have hzeros : b.toNat >>> 52 % 2048 = 0 ↔ unpackExponent b = 0#11 := by
    rw [BitVec.toNat_eq, toNat_unpackExponent]
    rfl
  have hempty : b.toNat % 1 <<< 52 = 0 ↔ unpackMantissa b = 0#52 := by
    rw [BitVec.toNat_eq, toNat_unpackMantissa]
    rfl
  have hbias : ((Format.binary64.exponentBias : Nat) : Int) = 1023 := rfl
  rw [hbits, shape, hnat]
  simp only [unpack, ← ofBitVec_unpackSign]
  by_cases hinf : unpackExponent b = -1#11
  · rw [if_pos (hones.mpr hinf), if_pos hinf]
    by_cases hm : unpackMantissa b = 0#52
    · rw [if_pos (hempty.mpr hm), if_pos hm]
      rfl
    · rw [if_neg (mt hempty.mp hm), if_neg hm]
      rfl
  rw [if_neg (mt hones.mp hinf), if_neg hinf]
  by_cases hsmall : unpackExponent b = 0#11
  · have hexp := toNat_unpackExponent b
    rw [hzeros.mpr hsmall] at hexp
    rw [if_pos (hzeros.mpr hsmall), if_pos hsmall]
    by_cases hm : unpackMantissa b = 0#52
    · rw [dif_pos hm, hempty.mpr hm]
      rfl
    · rw [dif_neg hm, Shape.ofUnpacked, toNat_unpackMantissa, hexp, hbias]
      rfl
  · have hlt : b.toNat % 1 <<< 52 < 2 ^ 52 := Nat.mod_lt _ (by decide)
    have hone : (1#1 ++ unpackMantissa b).toNat = 1 <<< 52 + b.toNat % 1 <<< 52 := by
      rw [BitVec.toNat_append, toNat_unpackMantissa]
      exact (Nat.shiftLeft_add_eq_or_of_lt hlt 1).symm
    rw [if_neg (mt hzeros.mp hsmall), if_neg hsmall, Shape.ofUnpacked, toNat_unpackExponent, hbias,
      hone]
    congr 1

theorem isFinite_iff (x : Float) : x.isFinite = true ↔ ∃ s m e, shape x = .finite s m e := by
  have hfinite : x.isFinite = x.toModel.unpack.isFinite := rfl
  rw [shape_eq, hfinite]
  cases x.toModel.unpack <;> simp [UnpackedFloat.isFinite, Shape.ofUnpacked]

/-- A finite number has at most 53 digits, and none of them stands for more than `2 ^ 1023`. -/
theorem shape_bounds {x : Float} {s : Bool} {m : Nat} {e : Int} (h : shape x = .finite s m e) :
    m < 2 ^ 53 ∧ e ≤ 971 := by
  have hfraction : x.toBits.toNat % 1 <<< 52 < 2 ^ 52 := Nat.mod_lt _ (by decide)
  have hfield : x.toBits.toNat >>> 52 % 2048 < 2048 := Nat.mod_lt _ (by decide)
  unfold shape at h
  simp only at h
  split_ifs at h with hones hempty hsmall
  · obtain ⟨-, rfl, rfl⟩ := Shape.finite.inj h
    omega
  · obtain ⟨-, rfl, rfl⟩ := Shape.finite.inj h
    omega

/-! ### The exact value -/

/-- The exact value of a finite number. -/
def rational? (x : Float) : Option ℚ :=
  match shape x with
  | .finite negative m e => some ((if negative then -1 else 1) * (m * 2 ^ e))
  | _ => none

/-- The integer that is left when the fraction is dropped. -/
def integerPart (q : ℚ) : ℤ := if 0 ≤ q then ⌊q⌋ else ⌈q⌉

theorem integerPart_neg (q : ℚ) : integerPart (-q) = -integerPart q := by
  unfold integerPart
  rcases lt_trichotomy q 0 with hq | rfl | hq
  · rw [if_pos (by linarith), if_neg (by linarith), Int.floor_neg]
  · simp
  · rw [if_neg (by linarith), if_pos (le_of_lt hq), Int.ceil_neg]

theorem floor_dyadic (m : Nat) (e : Int) : ⌊(m * 2 ^ e : ℚ)⌋ = scaleDown m e := by
  unfold scaleDown
  split
  case isTrue h =>
    obtain ⟨k, rfl⟩ := Int.eq_ofNat_of_zero_le h
    rw [Int.toNat_natCast, Nat.shiftLeft_eq, zpow_natCast]
    exact_mod_cast Int.floor_natCast (R := ℚ) (m * 2 ^ k)
  case isFalse h =>
    obtain ⟨k, hk⟩ := Int.eq_ofNat_of_zero_le (show 0 ≤ -e by omega)
    obtain rfl : e = -(k : Int) := by omega
    have hfloor := Rat.floor_intCast_div_natCast m (2 ^ k)
    rw [neg_neg, Int.toNat_natCast, Nat.shiftRight_eq_div_pow, zpow_neg, zpow_natCast,
      ← div_eq_mul_inv]
    push_cast at hfloor ⊢
    exact hfloor

theorem truncate?_eq (x : Float) : truncate? x = (rational? x).map integerPart := by
  unfold truncate? rational?
  rcases shape x with ⟨negative, m, e⟩ | _ | _
  · have hpart : integerPart (m * 2 ^ e) = scaleDown m e := by
      rw [integerPart, if_pos (by positivity), floor_dyadic]
    cases negative
    · simp [hpart]
    · simp [integerPart_neg, hpart]
  · rfl
  · rfl

theorem toNearestWord_of_truncate? {x : Float} {z : Int} (h : truncate? x = some z) :
    x.isFinite = true ∧ toNearestWord x = nearestWord z := by
  unfold truncate? at h
  split at h
  case h_1 negative m e hshape =>
    obtain rfl := Option.some.inj h
    exact ⟨(isFinite_iff x).mpr ⟨_, _, _, hshape⟩, by rw [toNearestWord, hshape]⟩
  case h_2 => exact absurd h (by simp)

/-! ### Numerals of many digits -/

/-- The unpacked number is the integer rounded to 53 digits, or infinite where that is too
large. -/
inductive IsRounded : UnpackedFloat → Int → Prop
  | finite {sign : Sign} {r i n : Nat} (hr : 0 < r) : 2 ^ 52 ≤ r → r < 2 ^ 53 → i ≤ 971 →
    r * 2 ^ i = nearestNat n → IsRounded (.finite sign r i hr) (sign.apply n)
  | infinite {sign : Sign} {n : Nat} : 2 ^ 1024 ≤ nearestNat n →
    IsRounded (.infinity sign) (sign.apply n)

theorem unpack_packedInfinity (sign : Sign) :
    unpack .binary64 (packedInfinity .binary64 sign) = .infinity sign := by
  cases sign <;> rfl

theorem pack_overflow (sign : Sign) {r i : Nat} (hr : 0 < r) (hi : 972 ≤ i) :
    pack .binary64 (.finite sign r i hr) = packedInfinity .binary64 sign := by
  have hbias : ((Format.binary64.exponentBias : Nat) : Int) = 1023 := rfl
  have hbits : 2 ^ Format.binary64.exponentBits = 2048 := rfl
  simp only [pack, hbias, hbits]
  exact if_pos (by omega)

theorem two_pow_le_scaled {r i k : Nat} (hr : 2 ^ 52 ≤ r) (hk : k ≤ 52 + i) :
    2 ^ k ≤ r * 2 ^ i := calc
  2 ^ k ≤ 2 ^ (52 + i) := Nat.pow_le_pow_right Nat.two_pos hk
  _ = 2 ^ 52 * 2 ^ i := pow_add 2 52 i
  _ ≤ r * 2 ^ i := Nat.mul_le_mul_right _ hr

theorem isRounded_unpack_pack (sign : Sign) {r i n : Nat} (hr : 0 < r) (hge : 2 ^ 52 ≤ r)
    (hlt : r < 2 ^ 53) (h : r * 2 ^ i = nearestNat n) :
    IsRounded (unpack .binary64 (pack .binary64 (.finite sign r i hr))) (sign.apply n) := by
  rcases Nat.lt_or_ge i 972 with hi | hi
  · have hexp : (i : Int) = (i + 52 : Nat) - 52 := by omega
    have hpack := unpack_pack_finite sign (i := i + 52) hr hge hlt (by omega)
    rw [← hexp] at hpack
    rw [hpack]
    exact .finite hr hge hlt (Nat.le_of_lt_succ hi) h
  · rw [pack_overflow sign hr hi, unpack_packedInfinity]
    exact .infinite (h ▸ two_pow_le_scaled hge (by omega))

theorem IsRounded.neg {u : UnpackedFloat} {z : Int} (h : IsRounded u z) :
    IsRounded (unpack .binary64 (pack .binary64 u.neg)) (-z) := by
  have happly (sign : Sign) (n : Nat) : -sign.apply n = (-sign).apply n := by
    cases sign with
    | negative => exact neg_neg (n : Int)
    | positive => rfl
  cases h with
  | @finite sign r i n hr hge hlt _ hval =>
    rw [happly]
    exact isRounded_unpack_pack (-sign) hr hge hlt hval
  | @infinite sign n hn =>
    rw [happly]
    exact (unpack_packedInfinity (-sign)).symm ▸ .infinite hn

theorem isRounded_ofScientific {n : Nat} (hn : 2 ^ 53 ≤ n) :
    IsRounded (unpack .binary64 (pack .binary64 (.ofScientific .binary64 n 0))) n := by
  obtain ⟨r, i, hr, heq, hge, hlt, hmul⟩ :=
    roundWithAccuracy_exact (m := n * 2 ^ 53) (e := -(53 : Nat)) .positive (by omega) (by omega)
  rw [nearestNat_mul_two_pow (by omega)] at hmul
  have hlarge : 2 ^ 53 ≤ nearestNat n := nearestNat_of_le (Nat.le_refl _) ▸ nearestNat_mono hn
  have hi : 53 ≤ i := by
    by_contra hsmall
    have hcontra : 2 ^ 53 * 2 ^ 53 < 2 ^ 53 * 2 ^ 53 := calc
      2 ^ 53 * 2 ^ 53 ≤ nearestNat n * 2 ^ 53 := Nat.mul_le_mul_right _ hlarge
      _ = r * 2 ^ i := hmul.symm
      _ < 2 ^ 53 * 2 ^ i := (Nat.mul_lt_mul_right (Nat.two_pow_pos i)).mpr hlt
      _ ≤ 2 ^ 53 * 2 ^ 53 :=
        Nat.mul_le_mul_left _ (Nat.pow_le_pow_right (by decide) (by omega))
    exact Nat.lt_irrefl _ hcontra
  obtain ⟨j, rfl⟩ := Nat.exists_eq_add_of_le' hi
  have hexp : (-(53 : Nat) + (j + 53 : Nat) : Int) = j := by omega
  have hval : r * 2 ^ j = nearestNat n := by
    refine Nat.eq_of_mul_eq_mul_right (Nat.two_pow_pos 53) ?_
    rw [← hmul, pow_add, mul_assoc]
  rw [ofScientific_zero (by omega), heq]
  simp only [hexp]
  exact isRounded_unpack_pack .positive hr hge hlt hval

theorem ten_pow_le_of_lt_length {n k : Nat} (hk : k ≠ 0) (h : k < (digits n).length) :
    10 ^ k ≤ n := by
  induction k generalizing n with
  | zero => exact absurd rfl hk
  | succ k ih =>
    unfold digits at h
    split at h
    case isTrue => simp at h
    case isFalse hten =>
      rw [List.length_append, List.length_singleton] at h
      rcases Nat.eq_zero_or_pos k with rfl | hpos
      · omega
      · have hle := ih (n := n / 10) (Nat.ne_of_gt hpos) (by omega)
        rw [pow_succ]
        omega

theorem length_digits_le {n k : Nat} (hk : k ≠ 0) (h : n < 10 ^ k) : (digits n).length ≤ k := by
  by_contra hlong
  exact Nat.not_le_of_lt h (ten_pow_le_of_lt_length hk (Nat.lt_of_not_le hlong))

theorem two_pow_le_of_lt_length {n j k : Nat} (hk : k ≠ 0) (hj : j ≤ 3 * k)
    (h : k < (digits n).length) : 2 ^ j ≤ n := calc
  2 ^ j ≤ 2 ^ (3 * k) := Nat.pow_le_pow_right Nat.two_pos hj
  _ = 8 ^ k := pow_mul 2 3 k
  _ ≤ 10 ^ k := Nat.pow_le_pow_left (by decide) k
  _ ≤ n := ten_pow_le_of_lt_length hk h

theorem isRounded_roundDecimal {n : Nat} (hn : 2 ^ 53 ≤ n) :
    IsRounded (roundDecimal n 0).toModel.unpack n := by
  rcases Nat.lt_or_ge 400 (digits n).length with hlong | hshort
  · have hround : roundDecimal n 0 = 1 / 0 := by
      rw [roundDecimal, if_neg (by omega), if_pos (by omega)]
    have hinf : (1 / 0 : Float).toModel.unpack = .infinity .positive := rfl
    rw [hround, hinf]
    refine @IsRounded.infinite .positive n ?_
    have hpow : 2 ^ 1024 ≤ n := two_pow_le_of_lt_length (by decide) (by decide) hlong
    have hself : nearestNat (2 ^ 1024) = 2 ^ 1024 := by decide +kernel
    exact hself ▸ nearestNat_mono hpow
  · have hround : roundDecimal n 0 = .ofModel (.pack (.ofScientific .binary64 n 0)) := by
      rw [roundDecimal, if_neg (by omega), if_neg (by omega), if_pos (Int.le_refl 0)]
      exact dif_neg fun h => Nat.not_lt_of_le hn h.1
    rw [hround]
    exact isRounded_ofScientific hn

/-- The least magnitude that binary64 rounds to infinity, halfway between its largest number and
the next power of two. -/
def overflowThreshold : Nat := 2 ^ 1024 - 2 ^ 970

theorem nearestNat_lt_iff {n : Nat} : nearestNat n < 2 ^ 1024 ↔ n < overflowThreshold := by
  have hat : nearestNat overflowThreshold = 2 ^ 1024 := by decide +kernel
  have hbelow : nearestNat (overflowThreshold - 1) < 2 ^ 1024 := by decide +kernel
  constructor
  · intro h
    by_contra hlarge
    exact Nat.not_lt_of_le (hat ▸ nearestNat_mono (Nat.le_of_not_lt hlarge)) h
  · intro h
    exact (nearestNat_mono (Nat.le_sub_one_of_lt h)).trans_lt hbelow

theorem scaled_lt_two_pow {r i k : Nat} (hr : r < 2 ^ 53) (hk : 53 + i ≤ k) :
    r * 2 ^ i < 2 ^ k := calc
  r * 2 ^ i < 2 ^ 53 * 2 ^ i := (Nat.mul_lt_mul_right (Nat.two_pow_pos i)).mpr hr
  _ = 2 ^ (53 + i) := (pow_add 2 53 i).symm
  _ ≤ 2 ^ k := Nat.pow_le_pow_right Nat.two_pos hk

theorem scaleDown_le (m : Nat) {e : Int} {k : Nat} (he : e ≤ k) : scaleDown m e ≤ m * 2 ^ k := by
  unfold scaleDown
  split
  case isTrue =>
    rw [Nat.shiftLeft_eq]
    exact Nat.mul_le_mul_left _ (Nat.pow_le_pow_right Nat.two_pos (by omega))
  case isFalse =>
    rw [Nat.shiftRight_eq_div_pow]
    exact (Nat.div_le_self _ _).trans (Nat.le_mul_of_pos_right _ (Nat.two_pow_pos k))

/-- A finite number lies below the magnitude that rounds to infinity. -/
theorem natAbs_lt_of_truncate? {x : Float} {z : Int} (h : truncate? x = some z) :
    z.natAbs < overflowThreshold := by
  unfold truncate? at h
  split at h
  case h_2 => exact absurd h (by simp)
  case h_1 negative m e hshape =>
    obtain ⟨hm, he⟩ := shape_bounds hshape
    have habs : z.natAbs = scaleDown m e := by
      obtain rfl := Option.some.inj h
      cases negative <;> simp
    have hlimit : (2 ^ 53 - 1) * 2 ^ 971 < overflowThreshold := by decide +kernel
    rw [habs]
    calc
      scaleDown m e ≤ m * 2 ^ 971 := scaleDown_le m he
      _ ≤ (2 ^ 53 - 1) * 2 ^ 971 := Nat.mul_le_mul_right _ (Nat.le_sub_one_of_lt hm)
      _ < overflowThreshold := hlimit

theorem natAbs_apply (sign : Sign) (n : Nat) : (sign.apply n).natAbs = n := by
  cases sign with
  | negative => exact Int.natAbs_neg n
  | positive => rfl

theorem IsRounded.isFinite_iff {u : UnpackedFloat} {z : Int} (h : IsRounded u z) :
    u.isFinite = true ↔ z.natAbs < overflowThreshold := by
  rw [← nearestNat_lt_iff]
  cases h with
  | @finite sign r i n hr hge hlt hi hval =>
    have hsmall : nearestNat n < 2 ^ 1024 := hval ▸ scaled_lt_two_pow hlt (by omega)
    rw [natAbs_apply]
    exact iff_of_true rfl hsmall
  | @infinite sign n hn =>
    rw [natAbs_apply]
    exact iff_of_false Bool.false_ne_true (Nat.not_lt_of_le hn)

/-- Rounding does not bring an integer beyond the range of words back into it. -/
theorem nearestWord_nearest {z : Int} (hz : ¬ FitsWord z) :
    nearestWord (nearest z) = nearestWord z := by
  apply Int64.toInt_inj.mp
  rw [toInt_nearestWord, toInt_nearestWord, clampToWord, clampToWord]
  rw [fitsWord_iff] at hz
  rcases Int.lt_or_le z (-2 ^ 63) with hlow | hhigh
  · have hself : nearest (-2 ^ 63) = -2 ^ 63 := by decide
    have hle := nearest_mono (Int.le_of_lt hlow)
    omega
  · have hself : nearest (2 ^ 63) = 2 ^ 63 := by decide
    have hle := nearest_mono (z := 2 ^ 63) (w := z) (by omega)
    omega

theorem IsRounded.toNearestWord {x : Float} {z : Int} (h : IsRounded x.toModel.unpack z)
    (hfin : x.isFinite = true) (hz : ¬ FitsWord z) : toNearestWord x = nearestWord z := by
  have hfinite : x.toModel.unpack.isFinite = true := hfin
  have hshape := shape_eq x
  generalize x.toModel.unpack = u at h hfinite hshape
  rw [← nearestWord_nearest hz]
  cases h with
  | @finite sign r i n hr hge hlt hi hval =>
    have hdown : scaleDown r i = nearestNat n := by
      rw [scaleDown, if_pos (Int.natCast_nonneg i), Int.toNat_natCast, Nat.shiftLeft_eq, hval]
    unfold Number.toNearestWord
    rw [hshape]
    simp only [Shape.ofUnpacked, hdown]
    cases sign with
    | negative =>
      rw [Sign.apply, nearest_neg, nearest_natCast]
      rfl
    | positive =>
      rw [Sign.apply, nearest_natCast]
      rfl
  | infinite => exact absurd hfinite Bool.false_ne_true

theorem lowerAscii_digit {c : Char} {s : List Char} (h : Text.isDigit c = true) :
    lowerAscii (c :: s) = c :: lowerAscii s := by
  have hdigit := (Bool.and_eq_true _ _).mp h
  have hnot : ¬ ('A' ≤ c ∧ c ≤ 'Z') := fun hcapital =>
    absurd (hcapital.1.trans (of_decide_eq_true hdigit.2)) (by decide)
  exact congrArg (· :: lowerAscii s) (if_neg hnot)

theorem readMagnitude?_of_readNatural? {s : List Char} {n : Nat} (h : readNatural? s = some n) :
    readMagnitude? s = some (roundDecimal n 0) := by
  unfold readNatural? at h
  split at h
  case isFalse => exact absurd h (by simp)
  case isTrue hs =>
    obtain ⟨hne, hall⟩ := hs
    obtain rfl := Option.some.inj h
    have hall := List.all_eq_true.mp hall
    obtain ⟨c, s, rfl⟩ := List.exists_cons_of_ne_nil hne
    have hc := hall c List.mem_cons_self
    -- No name of a number begins with a digit.
    have hname {name : String} (hbegin : name.toList.head?.all Text.isDigit = false) :
        lowerAscii (c :: s) ≠ name.toList := by
      rw [lowerAscii_digit hc]
      intro heq
      rw [← heq, List.head?_cons, Option.all_some, hc] at hbegin
      exact absurd hbegin.symm Bool.false_ne_true
    have htake := List.takeWhile_eq_self_iff.mpr hall
    have hdrop := List.dropWhile_eq_nil_iff.mpr hall
    rw [readMagnitude?, if_neg (not_or.mpr ⟨hname rfl, hname rfl⟩), if_neg (hname rfl),
      readUnsigned?]
    simp [htake, hdrop, readExponent?]

theorem readFloat?_of_readInteger? {s : List Char} {z : Int} (h : readInteger? s = some z)
    (hz : 2 ^ 53 ≤ z.natAbs) : ∃ x, readFloat? s = some x ∧ IsRounded x.toModel.unpack z := by
  unfold readInteger? at h
  split at h
  case h_1 s =>
    obtain ⟨n, hn, rfl⟩ := Option.map_eq_some_iff.mp h
    refine ⟨_, congrArg (Option.map (- ·)) (readMagnitude?_of_readNatural? hn), ?_⟩
    exact (isRounded_roundDecimal (by simpa using hz)).neg
  case h_2 s =>
    obtain ⟨n, hn, rfl⟩ := Option.map_eq_some_iff.mp h
    exact ⟨_, readMagnitude?_of_readNatural? hn, isRounded_roundDecimal (by simpa using hz)⟩
  case h_3 hminus hplus =>
    obtain ⟨n, hn, rfl⟩ := Option.map_eq_some_iff.mp h
    refine ⟨roundDecimal n 0, ?_, isRounded_roundDecimal (by simpa using hz)⟩
    unfold readFloat?
    split
    · exact absurd rfl (hminus _)
    · exact absurd rfl (hplus _)
    · exact readMagnitude?_of_readNatural? hn

end RowTemplate.Number
