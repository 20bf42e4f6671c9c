import MessageExpr.Proofs.Decimal.Rounded

/-!
# Finite doubles

Rounding the significand of a double shifts its spare bits out and goes to the nearer of its two
neighbours. So the double that is made of a number is the number of 53 bits nearest to it, and when
it is neither too large nor too small it is packed without loss.

## Main definitions

* `Decimal.shifted` — what is left of a significand after some shifts to the right
* `Decimal.Finite` — the magnitude of a finite double in units of a power of two

## Main results

* `Decimal.finite_roundWithAccuracy` — rounding goes to the nearest number of 53 bits
* `Decimal.Finite.unpack_pack_of_lt` — a double that is not too large is unpacked again
* `Decimal.Finite.pack_of_le` — one that is too large becomes an infinity
-/

namespace MessageExpr.Decimal

open Float.Model (Format UnpackedFloat totalExponent)
open Float.Model.UnpackedFloat

/-! ## Shifting and rounding a significand -/

/-- What is left of a significand after some shifts to the right: the whole units, whether the rest
is half a unit or more, and whether it is neither nothing nor half a unit. -/
def shifted (n drop : Nat) : ExtendedMantissa where
  mantissa := n / 2 ^ drop
  roundBit := decide (2 ^ drop ≤ 2 * (n % 2 ^ drop))
  stickyBit := decide (n % 2 ^ drop ≠ 0 ∧ 2 * (n % 2 ^ drop) ≠ 2 ^ drop)

theorem mantissa_shifted (n drop : Nat) : (shifted n drop).mantissa = n / 2 ^ drop := rfl

private theorem shiftRightOne_shifted (n drop : Nat) :
    (shifted n drop).shiftRightOne = shifted n (drop + 1) := by
  have rest : n % 2 ^ drop < 2 ^ drop := Nat.mod_lt _ (Nat.two_pow_pos drop)
  have split : n % 2 ^ (drop + 1) = n % 2 ^ drop + 2 ^ drop * (n / 2 ^ drop % 2) := by
    rw [Nat.pow_succ, Nat.mod_mul]
  have whole : n / 2 ^ drop / 2 = n / 2 ^ (drop + 1) := by
    rw [Nat.div_div_eq_div_mul, ← Nat.pow_succ]
  have unit : 2 ^ (drop + 1) = 2 * 2 ^ drop := by rw [Nat.pow_succ, Nat.mul_comm]
  -- The last of the whole units becomes the half of a unit of twice the size.
  have half : (n / 2 ^ drop % 2 != 0) = decide (2 ^ (drop + 1) ≤ 2 * (n % 2 ^ (drop + 1))) := by
    rcases Nat.mod_two_eq_zero_or_one (n / 2 ^ drop) with last | last
    · rw [split, last, unit, decide_eq_false (by omega)]
      rfl
    · rw [split, last, unit, decide_eq_true (by omega)]
      rfl
  have other : (decide (2 ^ drop ≤ 2 * (n % 2 ^ drop)) ||
        decide (n % 2 ^ drop ≠ 0 ∧ 2 * (n % 2 ^ drop) ≠ 2 ^ drop)) =
      decide (n % 2 ^ (drop + 1) ≠ 0 ∧ 2 * (n % 2 ^ (drop + 1)) ≠ 2 ^ (drop + 1)) := by
    rw [← Bool.decide_or, decide_eq_decide, split, unit]
    rcases Nat.mod_two_eq_zero_or_one (n / 2 ^ drop) with last | last <;> rw [last] <;> omega
  simp only [ExtendedMantissa.shiftRightOne, shifted, whole, half, other]

/-- Several shifts leave what one of their total width does. -/
theorem shiftRight_eq_shifted (n drop : Nat) :
    ExtendedMantissa.ofMantissaAndAccuracy n .exact >>> drop = shifted n drop := by
  change drop.repeat ExtendedMantissa.shiftRightOne _ = _
  induction drop with
  | zero => simp [Nat.repeat, shifted, ExtendedMantissa.ofMantissaAndAccuracy, Nat.mod_one]
  | succ drop ih => rw [Nat.repeat, ih, shiftRightOne_shifted]

/-- Rounding what is left goes to the nearest whole number of units. -/
theorem roundedMantissa_shifted (n drop : Nat) :
    (shifted n drop).roundedMantissa = halfEven n drop := by
  have unit : 0 < 2 ^ drop := Nat.two_pow_pos drop
  simp only [shifted, ExtendedMantissa.roundedMantissa, halfEven]
  by_cases half : 2 ^ drop ≤ 2 * (n % 2 ^ drop) <;>
    by_cases other : n % 2 ^ drop ≠ 0 ∧ 2 * (n % 2 ^ drop) ≠ 2 ^ drop
  · rw [decide_eq_true half, decide_eq_true other, if_neg (by omega), if_neg other.2]
    rfl
  · rw [decide_eq_true half, decide_eq_false other, if_neg (by omega), if_pos (by omega)]
    rfl
  · rw [decide_eq_false half, decide_eq_true other, if_pos (by omega)]
    rfl
  · rw [decide_eq_false half, decide_eq_false other, if_pos (by omega)]
    rfl

theorem mantissaBits_binary64 : Format.binary64.mantissaBits = 53 := rfl

/-- The exponent of a significand that has 53 bits or more. -/
theorem shiftToTargetExponent_eq {n : Nat} {e : Int} (large : 2 ^ 52 ≤ n) (normal : -1074 ≤ e) :
    shiftToTargetExponent Format.binary64 n e .exact =
      (shifted n (spareBits n), e + spareBits n) := by
  have bits : 52 ≤ n.log2 := (Nat.le_log2 (by omega)).mpr large
  have target : Format.binary64.targetExponent (totalExponent n e) = e + spareBits n := by
    simp only [Format.targetExponent, totalExponent, mantissaBits_binary64, Format.minExponent,
      spareBits]
    omega
  have amount : (e + spareBits n - e).toNat = spareBits n := by omega
  rw [shiftToTargetExponent, target, shiftToExponent]
  simp only [amount, shiftRight_eq_shifted]

/-- What is kept of a long number has 53 bits, unless rounding up makes it a power of two. -/
theorem halfEven_spareBits_bounds {n : Nat} (large : 2 ^ 52 ≤ n) :
    2 ^ 52 ≤ halfEven n (spareBits n) ∧ halfEven n (spareBits n) ≤ 2 ^ 53 := by
  rcases Nat.eq_zero_or_pos (spareBits n) with none | some
  · have bits : n.log2 < 53 := by unfold spareBits at none; omega
    have less : n < 2 ^ 53 := (Nat.log2_lt (by omega)).mp bits
    rw [none, halfEven_zero]
    exact ⟨large, Nat.le_of_lt less⟩
  · obtain ⟨lower, upper⟩ := div_spareBits_bounds some
    obtain ⟨below, above⟩ := halfEven_bounds n (spareBits n)
    omega

/-! ## Finite doubles -/

/-- An unpacked double with a full significand and a sign, whose magnitude is `n · 2 ^ unit`. -/
def Finite (sign : Sign) (n : Nat) (unit : Int) (u : UnpackedFloat) : Prop :=
  ∃ (significand exponent : Nat) (h : 0 < significand),
    u = .finite sign significand (unit + exponent) h ∧ 2 ^ 52 ≤ significand ∧
      significand < 2 ^ 53 ∧ significand * 2 ^ exponent = n

private theorem finite_congr {sign sign' : Sign} {significand significand' : Nat}
    {exponent exponent' : Int} {h : 0 < significand} {h' : 0 < significand'} (signs : sign = sign')
    (significands : significand = significand') (exponents : exponent = exponent') :
    UnpackedFloat.finite sign significand exponent h =
      .finite sign' significand' exponent' h' := by
  subst signs significands exponents
  rfl

/-- Rounding shifts, rounds, and shifts again where rounding has carried. -/
theorem roundWithAccuracy_eq {spec : Format} {n : Nat} {e e' e'' : Int} {accuracy : Accuracy}
    {first second : ExtendedMantissa} (sign : Sign)
    (shift : shiftToTargetExponent spec n e accuracy = (first, e'))
    (again : shiftToTargetExponent spec first.roundedMantissa e' .exact = (second, e''))
    (positive : 0 < second.mantissa) :
    roundWithAccuracy spec sign n e accuracy = .finite sign second.mantissa e'' positive := by
  rw [roundWithAccuracy, shift]
  dsimp only
  rw [again]
  exact dif_neg (Nat.ne_of_gt positive)

/-- Rounding up carries into one more bit at most, and the bit shifted out then is zero. -/
theorem div_spareBits_of_le {kept : Nat} (lower : 2 ^ 52 ≤ kept) (upper : kept ≤ 2 ^ 53) :
    2 ^ 52 ≤ kept / 2 ^ spareBits kept ∧ kept / 2 ^ spareBits kept < 2 ^ 53 ∧
      kept / 2 ^ spareBits kept * 2 ^ spareBits kept = kept := by
  rcases Nat.lt_or_eq_of_le upper with less | rfl
  · rw [spareBits_of_lt less, Nat.pow_zero, Nat.div_one, Nat.mul_one]
    exact ⟨lower, less, rfl⟩
  · decide +kernel

/-- Rounding a significand of 53 bits or more gives the number of 53 bits nearest to it. -/
theorem finite_roundWithAccuracy (sign : Sign) (unit : Int) {n : Nat} (large : 2 ^ 52 ≤ n)
    (normal : -1074 ≤ unit) :
    Finite sign (roundedNatural n) unit
      (roundWithAccuracy Format.binary64 sign n unit .exact) := by
  obtain ⟨lower, upper⟩ := halfEven_spareBits_bounds large
  obtain ⟨lower', upper', exact'⟩ := div_spareBits_of_le lower upper
  have again := shiftToTargetExponent_eq lower (e := unit + spareBits n) (by omega)
  have positive : 0 < halfEven n (spareBits n) / 2 ^ spareBits (halfEven n (spareBits n)) :=
    Nat.lt_of_lt_of_le (by decide) lower'
  -- The exponent grows with the bits shifted out, and once more when rounding has carried.
  refine ⟨_, spareBits n + spareBits (halfEven n (spareBits n)), positive, ?_, lower', upper', ?_⟩
  · rw [← roundedMantissa_shifted] at again
    refine (roundWithAccuracy_eq sign (shiftToTargetExponent_eq large normal) again ?_).trans ?_
    · rw [roundedMantissa_shifted]
      exact positive
    · refine finite_congr rfl ?_ ?_
      · rw [mantissa_shifted, roundedMantissa_shifted]
      · rw [roundedMantissa_shifted, Int.natCast_add, Int.add_assoc]
  · rw [Nat.add_comm, Nat.pow_add, ← Nat.mul_assoc, exact', roundedNatural]

/-- A smaller unit goes with a larger number. -/
theorem Finite.mul_pow {sign : Sign} {n : Nat} {unit : Int} {u : UnpackedFloat}
    (h : Finite sign n unit u) (k : Nat) : Finite sign (n * 2 ^ k) (unit - k) u := by
  obtain ⟨significand, exponent, positive, rfl, lower, upper, rfl⟩ := h
  refine ⟨significand, exponent + k, positive, finite_congr rfl rfl (by omega), lower, upper, ?_⟩
  rw [Nat.pow_add, Nat.mul_assoc]

/-- The sign of a packed double is unpacked again. -/
theorem unpackSign_packComponents (sign : Sign) (exponent : BitVec 11) (fraction : BitVec 52) :
    unpackSign (packComponents Format.binary64 sign exponent fraction) = sign.toBitVec := by
  change (sign.toBitVec ++ exponent ++ fraction).extractLsb' 63 1 = sign.toBitVec
  rw [BitVec.extractLsb'_append_eq_of_le (by decide),
    BitVec.extractLsb'_append_eq_of_le (by decide)]
  cases sign <;> rfl

private theorem ofBitVec_toBitVec (sign : Sign) : Sign.ofBitVec sign.toBitVec = sign := by
  cases sign <;> rfl

/-- The leading bit of a full significand is left out and put back. -/
theorem toNat_leading_append {significand : Nat} (lower : 2 ^ 52 ≤ significand)
    (upper : significand < 2 ^ 53) : (1#1 ++ BitVec.ofNat 52 significand).toNat = significand := by
  rw [BitVec.toNat_append, ← Nat.shiftLeft_add_eq_or_of_lt (BitVec.ofNat 52 significand).isLt,
    BitVec.toNat_ofNat, Nat.shiftLeft_eq, BitVec.toNat_ofNat]
  omega

private theorem pack_finite (sign : Sign) {significand : Nat} {exponent : Int}
    (h : 0 < significand) (bits : significand.log2 = 52) (high : exponent ≤ 971) :
    pack Format.binary64 (.finite sign significand exponent h) =
      packComponents Format.binary64 sign (BitVec.ofNat 11 (exponent + 1075).toNat)
        (BitVec.ofNat 52 significand) := by
  have biased : (exponent + (1023 : Nat) + (52 : Nat)).toNat = (exponent + 1075).toNat := by omega
  change (if 2 ^ 11 ≤ (exponent + (1023 : Nat) + (52 : Nat)).toNat + 1 then _
    else if significand.log2 + 1 = 53 then
      packComponents Format.binary64 sign
        (BitVec.ofNat 11 (exponent + (1023 : Nat) + (52 : Nat)).toNat) (BitVec.ofNat 52 significand)
    else _) = _
  rw [biased, if_neg (by omega), if_pos (by rw [bits])]

private theorem unpack_of_ne {b : BitVec 64}
    (notAll : @unpackExponent Format.binary64 b ≠ -1#11)
    (notNone : @unpackExponent Format.binary64 b ≠ 0#11) :
    ∃ h, unpack Format.binary64 b =
      .finite (.ofBitVec (@unpackSign Format.binary64 b))
        (1#1 ++ @unpackMantissa Format.binary64 b).toNat
        ((@unpackExponent Format.binary64 b).toNat - ((1023 : Nat) + (52 : Nat))) h :=
  ⟨_, (if_neg notAll).trans (if_neg notNone)⟩

/-- A full significand with an exponent that has a field of its own is packed without loss. -/
theorem unpack_pack (sign : Sign) {significand : Nat} {exponent : Int} (h : 0 < significand)
    (lower : 2 ^ 52 ≤ significand) (upper : significand < 2 ^ 53) (low : -1074 ≤ exponent)
    (high : exponent ≤ 971) :
    unpack Format.binary64 (pack Format.binary64 (.finite sign significand exponent h)) =
      .finite sign significand exponent h := by
  have bits : significand.log2 = 52 := (Nat.log2_eq_iff (by omega)).mpr ⟨lower, upper⟩
  have field : (BitVec.ofNat 11 (exponent + 1075).toNat).toNat = (exponent + 1075).toNat :=
    Nat.mod_eq_of_lt (by omega)
  have field_ne (b : BitVec 11) (differ : (exponent + 1075).toNat ≠ b.toNat) :
      BitVec.ofNat 11 (exponent + 1075).toNat ≠ b :=
    fun same => differ (field.symm.trans (congrArg BitVec.toNat same))
  -- The field of the exponent is neither the one of an infinity nor the one of a zero.
  have notAll := field_ne (-1#11) (by change _ ≠ 2047; omega)
  have notNone := field_ne 0#11 (by change _ ≠ 0; omega)
  rw [pack_finite sign h bits high]
  obtain ⟨_, unpacked⟩ := unpack_of_ne
    ((unpackExponent_packComponents ..).trans_ne notAll)
    ((unpackExponent_packComponents ..).trans_ne notNone)
  rw [unpacked]
  refine finite_congr ?_ ?_ ?_
  · rw [unpackSign_packComponents, ofBitVec_toBitVec]
  · rw [unpackMantissa_packComponents, toNat_leading_append lower upper]
  · rw [unpackExponent_packComponents, field]
    omega

/-- A double that is not too large is unpacked again. -/
theorem Finite.unpack_pack_of_lt {sign : Sign} {n k : Nat} {unit : Int} {u : UnpackedFloat}
    (h : Finite sign n unit u) (place : unit = -k) (low : k ≤ 1074) (small : n < 2 ^ (1024 + k)) :
    (Float.Model.pack u).unpack = u := by
  obtain ⟨significand, exponent, positive, rfl, lower, upper, rfl⟩ := h
  have less : 2 ^ (52 + exponent) < 2 ^ (1024 + k) := by
    rw [Nat.pow_add]
    exact Nat.lt_of_le_of_lt (Nat.mul_le_mul_right _ lower) small
  have bound := (Nat.pow_lt_pow_iff_right (by decide)).mp less
  exact Decimal.unpack_pack sign positive lower upper (by omega) (by omega)

/-- A double of moderate size is unpacked again. -/
theorem Finite.unpack_pack {sign : Sign} {n : Nat} {unit : Int} {u : UnpackedFloat}
    (h : Finite sign n unit u) (low : -1074 ≤ unit) (high : unit ≤ 0) (small : n < 2 ^ 200) :
    (Float.Model.pack u).unpack = u := by
  refine h.unpack_pack_of_lt (k := (-unit).toNat) (by omega) (by omega) ?_
  exact Nat.lt_of_lt_of_le small (Nat.pow_le_pow_right (by decide) (by omega))

private theorem pack_congr {u w : UnpackedFloat}
    (same : pack Format.binary64 u = pack Format.binary64 w) :
    Float.Model.pack u = Float.Model.pack w := by
  have bits : (Float.Model.pack u).toBits = (Float.Model.pack w).toBits :=
    congrArg UInt64.ofBitVec same
  -- What packs a double carries a proof about its bits, which are all that has to be compared.
  generalize Float.Model.pack u = model at bits ⊢
  generalize Float.Model.pack w = model' at bits ⊢
  cases model
  cases model'
  cases bits
  rfl

/-- A double that is too large is packed as an infinity. -/
theorem Finite.pack_of_le {sign : Sign} {n k : Nat} {unit : Int} {u : UnpackedFloat}
    (h : Finite sign n unit u) (place : unit = -k) (large : 2 ^ (1024 + k) ≤ n) :
    Float.Model.pack u = Float.Model.pack (.infinity sign) := by
  obtain ⟨significand, exponent, positive, rfl, lower, upper, rfl⟩ := h
  have more : 2 ^ (1024 + k) < 2 ^ (53 + exponent) := by
    rw [Nat.pow_add 2 53]
    exact Nat.lt_of_le_of_lt large (Nat.mul_lt_mul_of_pos_right upper (Nat.two_pow_pos exponent))
  have bound := (Nat.pow_lt_pow_iff_right (by decide)).mp more
  have field : 2 ^ Format.binary64.exponentBits ≤ (unit + exponent + Format.binary64.exponentBias +
      Format.binary64.mantissaBitsWithoutImplicit).toNat + 1 := by
    change 2 ^ 11 ≤ (unit + exponent + (1023 : Nat) + (52 : Nat)).toNat + 1
    omega
  exact pack_congr (if_pos field)

/-- A magnitude has one full significand only. -/
theorem Finite.unique {sign : Sign} {n : Nat} {unit : Int} {u w : UnpackedFloat}
    (h : Finite sign n unit u) (h' : Finite sign n unit w) : u = w := by
  obtain ⟨significand, exponent, positive, rfl, lower, upper, value⟩ := h
  obtain ⟨significand', exponent', positive', rfl, lower', upper', value'⟩ := h'
  have bits (m k : Nat) (lower : 2 ^ 52 ≤ m) (upper : m < 2 ^ 53) (value : m * 2 ^ k = n) :
      k + 52 = n.log2 := by
    have log : m.log2 = 52 := (Nat.log2_eq_iff (by omega)).mpr ⟨lower, upper⟩
    rw [← value, log2_mul_pow (by omega), log, Nat.add_comm]
  have first := bits significand exponent lower upper value
  have second := bits significand' exponent' lower' upper' value'
  obtain rfl : exponent = exponent' := by omega
  obtain rfl : significand = significand' :=
    Nat.eq_of_mul_eq_mul_right (Nat.two_pow_pos exponent) (value.trans value'.symm)
  rfl

end MessageExpr.Decimal
