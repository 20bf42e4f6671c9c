import Mathlib.Algebra.Field.Rat
import Mathlib.Algebra.Order.Field.Power
import Mathlib.Algebra.Order.Ring.Rat
import Mathlib.Tactic.Positivity
import MessageExpr.Proofs.Decimal.Nearest

/-!
# How far the doubles reach

The largest finite double is one unit of its last place below `2 ^ 1024`. An integer that lies less
than half of such a unit above it still has a finite double nearest to it; from there on the nearest
double is an infinity. Inside this range the double stands for the integer of 53 bits nearest to the
integer, and so it equals an integer itself.

## Main definitions

* `Decimal.reach` — the first number whose nearest double is an infinity
* `Decimal.Double.value?` — the number that a double equals

## Main results

* `Decimal.denotes_nearest_of_lt`, `Decimal.toModel_nearest_of_le` — the double nearest to an
  integer inside and outside of the range
* `Decimal.whole?_eq_some_iff` — the whole doubles are those that equal an integer
* `Decimal.whole?_nearest` — which integer the double nearest to an integer equals
-/

namespace MessageExpr.Decimal

open Float.Model (Format UnpackedFloat)
open Float.Model.UnpackedFloat

/-! ## The range -/

/-- The first number whose nearest double is an infinity, halfway between the largest finite double
and `2 ^ 1024`. -/
def reach : Nat := 2 ^ 1024 - 2 ^ 970

private theorem roundedNatural_lt_iff {n : Nat} : roundedNatural n < 2 ^ 1024 ↔ n < reach := by
  have first : roundedNatural reach = 2 ^ 1024 := by decide +kernel
  have last : roundedNatural (reach - 1) < 2 ^ 1024 := by decide +kernel
  constructor
  · intro small
    by_contra large
    have above := roundedNatural_mono (Nat.le_of_not_lt large)
    rw [first] at above
    exact Nat.lt_irrefl _ (Nat.lt_of_lt_of_le small above)
  · intro small
    exact Nat.lt_of_le_of_lt (roundedNatural_mono (Nat.le_sub_one_of_lt small)) last

private theorem mul_two_pow_lt_iff (n m k : Nat) : n * 2 ^ k < 2 ^ (m + k) ↔ n < 2 ^ m := by
  rw [Nat.pow_add, Nat.mul_lt_mul_right (Nat.two_pow_pos k)]

/-- Rounded numbers in the range, in units of a power of two. -/
theorem roundedNatural_mul_pow_lt_iff {n : Nat} (k : Nat) :
    roundedNatural n * 2 ^ k < 2 ^ (1024 + k) ↔ n < reach :=
  (mul_two_pow_lt_iff (roundedNatural n) 1024 k).trans roundedNatural_lt_iff

theorem two_pow_lt_reach : 2 ^ 64 < reach := by decide +kernel

/-! ## Conversion -/

/-- The double of a number in the range stands for the number of 53 bits nearest to it. -/
theorem finite_ofNat_of_lt_reach {n : Nat} (pos : 0 < n) (h : n < reach) :
    Finite .positive (roundedNatural n * 2 ^ 104) (-104) (Float.ofNat n).toModel.unpack := by
  rcases Nat.lt_or_ge n (2 ^ 53) with short | long
  · exact finite_ofNat pos (by omega)
  · have finite := finite_ofScientific long
    have small := (roundedNatural_mul_pow_lt_iff 53).mpr h
    rw [toModel_ofNat_of_le long, finite.unpack_pack_of_lt (k := 53) rfl (by decide) small]
    have scaled := finite.mul_pow 51
    rwa [Nat.mul_assoc, ← Nat.pow_add] at scaled

/-- The double of a number beyond the range is an infinity. -/
theorem toModel_ofNat_of_reach_le {n : Nat} (h : reach ≤ n) :
    (Float.ofNat n).toModel = Float.Model.pack (.infinity .positive) := by
  have long : 2 ^ 53 ≤ n := by
    have := two_pow_lt_reach
    omega
  have large : 2 ^ (1024 + 53) ≤ roundedNatural n * 2 ^ 53 :=
    Nat.le_of_not_lt fun small => Nat.not_lt.mpr h ((roundedNatural_mul_pow_lt_iff 53).mp small)
  rw [toModel_ofNat_of_le long, (finite_ofScientific long).pack_of_le (k := 53) rfl large]

theorem Finite.neg {n : Nat} {unit : Int} {u : UnpackedFloat} (h : Finite .positive n unit u) :
    Finite .negative n unit u.neg := by
  obtain ⟨significand, exponent, positive, rfl, parts⟩ := h
  exact ⟨significand, exponent, positive, rfl, parts⟩

variable {n : Int}

private theorem toModel_nearest_negSucc (n : Nat) : (nearest (.negSucc n)).toModel =
    Float.Model.pack (Float.ofNat (n + 1)).toModel.unpack.neg := rfl

theorem finite_nearest (sign : Sign) {n : Nat} (pos : 0 < n) (h : n < reach) :
    Finite sign (roundedNatural n * 2 ^ 104) (-104) (nearest (sign.apply n)).toModel.unpack := by
  have positive := finite_ofNat_of_lt_reach pos h
  cases sign with
  | positive => exact positive
  | negative =>
    obtain ⟨n, rfl⟩ := Nat.exists_eq_add_one_of_ne_zero (Nat.ne_of_gt pos)
    have small := (roundedNatural_mul_pow_lt_iff 104).mpr h
    change Finite _ _ _ (nearest (.negSucc n)).toModel.unpack
    rw [toModel_nearest_negSucc, positive.neg.unpack_pack_of_lt (k := 104) rfl (by decide) small]
    exact positive.neg

theorem denotes_nearest_of_lt (h : n.natAbs < reach) :
    Denotes (nearest n).toModel.unpack (rounded n) := by
  cases n with
  | ofNat n =>
    rcases Nat.eq_zero_or_pos n with rfl | pos
    · exact .zero
    · exact .finite (finite_nearest .positive pos h)
  | negSucc n => exact .finite (finite_nearest .negative (Nat.succ_pos n) h)

theorem toModel_nearest_of_le (h : reach ≤ n.natAbs) :
    ∃ sign, (nearest n).toModel = Float.Model.pack (.infinity sign) := by
  cases n with
  | ofNat n => exact ⟨.positive, toModel_ofNat_of_reach_le h⟩
  | negSucc n =>
    have infinite : (Float.ofNat (n + 1)).toModel = _ := toModel_ofNat_of_reach_le h
    rw [toModel_nearest_negSucc, infinite]
    exact ⟨.negative, rfl⟩

/-! ## What a double equals -/

/-- The double that an unpacked one is. -/
def Double.ofUnpacked : UnpackedFloat → Double
  | .notANumber => .nan
  | .infinity sign => .infinite (sign == .negative)
  | .zero sign => .finite (sign == .negative) 0 (-1074)
  | .finite sign significand exponent _ => .finite (sign == .negative) significand exponent

@[simp]
theorem Double.ofUnpacked_zero (sign : Sign) :
    ofUnpacked (.zero sign) = .finite (sign == .negative) 0 (-1074) := rfl

@[simp]
theorem Double.ofUnpacked_finite (sign : Sign) (significand : Nat) (exponent : Int)
    (h : 0 < significand) :
    ofUnpacked (.finite sign significand exponent h) =
      .finite (sign == .negative) significand exponent := rfl

/-- The sign bit of a double. -/
theorem ofBitVec_unpackSign_beq (b : BitVec 64) :
    (Sign.ofBitVec (@unpackSign Format.binary64 b) == .negative) =
      (b.toNat >>> 63 == 1) := by
  have bit : (@unpackSign Format.binary64 b).toNat = b.toNat >>> 63 := by
    change (b.extractLsb' 63 1).toNat = _
    rw [BitVec.extractLsb'_toNat, Nat.shiftRight_eq_div_pow]
    omega
  rw [← bit]
  generalize @unpackSign Format.binary64 b = sign
  revert sign
  decide

theorem toNat_unpackExponent (b : BitVec 64) :
    (@unpackExponent Format.binary64 b).toNat = (b.toNat >>> 52) % (1 <<< 11) := by
  exact BitVec.extractLsb'_toNat ..

theorem toNat_unpackMantissa (b : BitVec 64) :
    (@unpackMantissa Format.binary64 b).toNat = b.toNat % (1 <<< 52) := by
  exact BitVec.extractLsb'_toNat ..

/-- The fields of the 64 bits are read as the unpacked double says. -/
theorem Double.ofFloat_eq (x : Float) : ofFloat x = ofUnpacked x.toModel.unpack := by
  have sign := ofBitVec_unpackSign_beq x.toBits.toBitVec
  have exponent := toNat_unpackExponent x.toBits.toBitVec
  have fraction := toNat_unpackMantissa x.toBits.toBitVec
  change ofFloat x = ofUnpacked (unpack Format.binary64 x.toBits.toBitVec)
  have top : @unpackExponent Format.binary64 x.toBits.toBitVec = -1#11 ↔
      (x.toBits.toNat >>> 52) % (1 <<< 11) = 1 <<< 11 - 1 :=
    BitVec.toNat_inj.symm.trans (Eq.congr_left exponent)
  have bottom : @unpackExponent Format.binary64 x.toBits.toBitVec = 0#11 ↔
      (x.toBits.toNat >>> 52) % (1 <<< 11) = 0 :=
    BitVec.toNat_inj.symm.trans (Eq.congr_left exponent)
  have none : @unpackMantissa Format.binary64 x.toBits.toBitVec = 0#52 ↔
      x.toBits.toNat % (1 <<< 52) = 0 :=
    BitVec.toNat_inj.symm.trans (Eq.congr_left fraction)
  have leading : (1#1 ++ @unpackMantissa Format.binary64 x.toBits.toBitVec).toNat =
      1 <<< 52 + x.toBits.toNat % (1 <<< 52) := by
    rw [BitVec.toNat_append, ← Nat.shiftLeft_add_eq_or_of_lt (BitVec.isLt _), fraction]
    rfl
  rw [ofFloat]
  -- Unpacking asks for the same fields in the same order.
  change _ = ofUnpacked (if @unpackExponent Format.binary64 x.toBits.toBitVec = -1#11 then
      if @unpackMantissa Format.binary64 x.toBits.toBitVec = 0#52 then _ else _
    else if @unpackExponent Format.binary64 x.toBits.toBitVec = 0#11 then
      if _ : @unpackMantissa Format.binary64 x.toBits.toBitVec = 0#52 then _ else _
    else _)
  by_cases all : @unpackExponent Format.binary64 x.toBits.toBitVec = -1#11
  · rw [if_pos (top.mp all), if_pos all]
    by_cases zero : @unpackMantissa Format.binary64 x.toBits.toBitVec = 0#52
    · rw [if_pos (none.mp zero), if_pos zero]
      exact congrArg Double.infinite sign.symm
    · rw [if_neg (mt none.mpr zero), if_neg zero]
      rfl
  · rw [if_neg (mt top.mpr all), if_neg all]
    by_cases least : @unpackExponent Format.binary64 x.toBits.toBitVec = 0#11
    · rw [if_pos (bottom.mp least), if_pos least]
      by_cases zero : @unpackMantissa Format.binary64 x.toBits.toBitVec = 0#52
      · rw [dif_pos zero, none.mp zero, ofUnpacked_zero, sign]
        rfl
      · rw [dif_neg zero, ofUnpacked_finite, sign, fraction, least]
        rfl
    · rw [if_neg (mt bottom.mpr least), if_neg least, ofUnpacked_finite, sign, leading, exponent]
      rfl

/-- The number that a double equals. -/
def Double.value? : Double → Option ℚ
  | .finite negative significand exponent =>
    some ((if negative then -(significand : ℚ) else significand) * 2 ^ exponent)
  | _ => none

/-- Shifting a significand gives a whole number exactly when it is one in units of the exponent. -/
theorem magnitude_eq_some_iff (significand : Nat) (exponent : Int) (n : Nat) :
    (if exponent ≥ 0 then some (significand <<< exponent.toNat)
      else if significand % (1 <<< (-exponent).toNat) = 0 then
        some (significand >>> (-exponent).toNat)
      else none) = some n ↔ (significand : ℚ) * 2 ^ exponent = n := by
  rcases le_or_gt 0 exponent with whole | part
  · obtain ⟨k, rfl⟩ := Int.eq_ofNat_of_zero_le whole
    rw [if_pos whole, Option.some_inj, Int.toNat_natCast, Nat.shiftLeft_eq, zpow_natCast]
    exact_mod_cast Iff.rfl
  · obtain ⟨k, rfl⟩ : ∃ k : Nat, exponent = -k := ⟨(-exponent).toNat, by omega⟩
    have unit : (2 : ℚ) ^ k ≠ 0 := by positivity
    rw [if_neg (by omega), neg_neg, Int.toNat_natCast, Nat.one_shiftLeft, Nat.shiftRight_eq_div_pow,
      zpow_neg, zpow_natCast, mul_inv_eq_iff_eq_mul₀ unit]
    have scaled : (significand : ℚ) = n * 2 ^ k ↔ significand = n * 2 ^ k := by
      exact_mod_cast Iff.rfl
    rw [scaled]
    constructor
    · intro h
      split at h
      · next exact' =>
        cases h
        exact (Nat.div_mul_cancel (Nat.dvd_of_mod_eq_zero exact')).symm
      · cases h
    · rintro rfl
      rw [if_pos (Nat.mul_mod_left _ _), Nat.mul_div_cancel _ (Nat.two_pow_pos k)]

/-- The whole doubles are those that equal an integer. -/
theorem whole?_eq_some_iff {x : Float} {n : Int} :
    whole? x = some n ↔ (Double.ofFloat x).value? = some (n : ℚ) := by
  rw [whole?]
  cases Double.ofFloat x with
  | nan => simp [Double.value?]
  | infinite => simp [Double.value?]
  | finite negative significand exponent =>
    have magnitude := magnitude_eq_some_iff significand exponent
    dsimp only
    rw [Option.map_eq_some_iff, Double.value?, Option.some_inj]
    simp only [magnitude]
    have nonneg : (0 : ℚ) ≤ significand * 2 ^ exponent := by positivity
    cases negative with
    | false =>
      simp only [Bool.false_eq_true, if_false]
      constructor
      · rintro ⟨k, value, rfl⟩
        exact value
      · intro value
        rw [value] at nonneg
        obtain ⟨k, rfl⟩ := Int.eq_ofNat_of_zero_le (Int.cast_nonneg_iff.mp nonneg)
        exact ⟨k, value, rfl⟩
    | true =>
      simp only [if_true, neg_mul]
      constructor
      · rintro ⟨k, value, rfl⟩
        rw [value, Int.cast_neg, Int.cast_natCast]
      · intro value
        rw [neg_eq_iff_eq_neg, ← Int.cast_neg] at value
        rw [value] at nonneg
        obtain ⟨k, same⟩ := Int.eq_ofNat_of_zero_le (Int.cast_nonneg_iff.mp nonneg)
        rw [same] at value
        exact ⟨k, value, by omega⟩

/-- The significand of a finite double has 53 bits, and its exponent is one of a finite double. -/
theorem Double.bounds_of_ofFloat {x : Float} {negative : Bool} {significand : Nat} {exponent : Int}
    (h : ofFloat x = .finite negative significand exponent) :
    significand < 2 ^ 53 ∧ exponent ≤ 971 := by
  have fraction : x.toBits.toNat % 2 ^ 52 < 2 ^ 52 := Nat.mod_lt _ (by decide)
  have field : (x.toBits.toNat >>> 52) % 2 ^ 11 < 2 ^ 11 := Nat.mod_lt _ (by decide)
  simp only [ofFloat, Nat.one_shiftLeft] at h
  split at h
  · split at h <;> cases h
  · split at h
    · injection h
      omega
    · injection h
      omega

/-- A finite double is less than what is rounded to an infinity. -/
theorem natAbs_lt_reach_of_value? {x : Float} {n : Int}
    (h : (Double.ofFloat x).value? = some (n : ℚ)) : n.natAbs < reach := by
  cases double : Double.ofFloat x with
  | nan => simp [double, Double.value?] at h
  | infinite => simp [double, Double.value?] at h
  | finite negative significand exponent =>
    obtain ⟨upper, high⟩ := Double.bounds_of_ofFloat double
    rw [double, Double.value?, Option.some_inj] at h
    have magnitude : (n.natAbs : ℚ) = significand * 2 ^ exponent := by
      rw [Nat.cast_natAbs, Int.cast_abs, ← h, abs_mul, abs_zpow]
      congr 1
      cases negative <;> simp
    have largest : (n.natAbs : ℚ) ≤ (2 ^ 53 - 1 : Nat) * 2 ^ 971 := by
      rw [magnitude, ← zpow_natCast]
      exact mul_le_mul (by exact_mod_cast Nat.le_sub_one_of_lt upper)
        (zpow_le_zpow_right₀ one_le_two high) (by positivity) (by positivity)
    have bound : (2 ^ 53 - 1) * 2 ^ 971 < reach := by decide +kernel
    refine Nat.lt_of_le_of_lt ?_ bound
    exact_mod_cast largest

/-- A double that stands for an integer equals it. -/
theorem value?_of_denotes {u : UnpackedFloat} {n : Int} (h : Denotes u n) :
    (Double.ofUnpacked u).value? = some (n : ℚ) := by
  cases h with
  | zero => simp [Double.value?]
  | @finite sign n _ finite =>
    obtain ⟨significand, exponent, positive, rfl, -, -, value⟩ := finite
    have unit : (2 : ℚ) ^ 104 ≠ 0 := by positivity
    have magnitude : (significand : ℚ) * 2 ^ (-104 + exponent : Int) = n := by
      have scaled : (significand : ℚ) * 2 ^ exponent = n * 2 ^ 104 := by exact_mod_cast value
      rw [add_comm, zpow_add₀ two_ne_zero, zpow_natCast, ← mul_assoc, scaled, zpow_neg]
      exact mul_inv_cancel_right₀ unit (n : ℚ)
    rw [Double.ofUnpacked_finite, Double.value?, Option.some_inj]
    cases sign with
    | positive => exact magnitude.trans (Int.cast_natCast n).symm
    | negative =>
      have negated : -(n : ℚ) = ((Sign.negative.apply n : Int) : ℚ) := by simp [Sign.apply]
      exact (neg_mul _ _).trans ((congrArg Neg.neg magnitude).trans negated)

/-- Of the integers the double nearest to an integer equals the one of 53 bits nearest to it, and
beyond the range none. -/
theorem whole?_nearest (n : Int) :
    whole? (nearest n) = if n.natAbs < reach then some (rounded n) else none := by
  split
  · next small =>
    rw [whole?_eq_some_iff, Double.ofFloat_eq]
    exact value?_of_denotes (denotes_nearest_of_lt small)
  · next large =>
    obtain ⟨sign, infinite⟩ := toModel_nearest_of_le (Nat.le_of_not_lt large)
    rw [whole?, Double.ofFloat_eq, infinite]
    cases sign <;> rfl

end MessageExpr.Decimal
