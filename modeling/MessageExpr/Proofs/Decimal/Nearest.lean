import MessageExpr.Decimal.Binary
import MessageExpr.Proofs.Decimal.Finite

/-!
# The doubles nearest to integers

The double nearest to a 64-bit integer stands for the integer of 53 bits nearest to it, and doubles
that stand for integers are ordered like them. So of two integers the doubles are compared as the
rounded integers are.

## Main definitions

* `Decimal.Denotes` — the integer that a double stands for

## Main results

* `Decimal.denotes_nearest` — the double nearest to an integer stands for the integer rounded
* `Decimal.compare_of_denotes` — doubles that stand for integers are ordered like them
* `Decimal.nearest_beq_nearest`, `Decimal.nearest_lt_nearest_iff`,
  `Decimal.nearest_le_nearest_iff` — the comparisons of these doubles
-/

namespace MessageExpr.Decimal

open Float.Model (Format UnpackedFloat totalExponent)
open Float.Model.UnpackedFloat

/-! ## Conversion -/

private theorem mul_finite (spec : Format) (sign sign' : Sign) {n m : Nat} (e e' : Int) (h : 0 < n)
    (h' : 0 < m) :
    mul spec (.finite sign n e h) (.finite sign' m e' h') =
      roundWithAccuracy spec (sign * sign') (n * m) (e + e') .exact := rfl

/-- A long number is converted by rounding the number with 53 zeros behind it. -/
theorem finite_ofScientific {n : Nat} (long : 2 ^ 53 ≤ n) :
    Finite .positive (roundedNatural n * 2 ^ 53) (-53) (ofScientific Format.binary64 n 0) := by
  have unpacked : ofScientific Format.binary64 n 0 =
      roundWithAccuracy Format.binary64 .positive (n * 2 ^ 53) (-53) .exact := by
    have positive : n ≠ 0 := by omega
    rw [ofScientific, dif_neg positive, if_neg (by decide), if_neg, if_pos (by decide)]
    · rw [mul_finite, Nat.shiftLeft_eq, Int.toNat_zero, Nat.pow_zero, Nat.mul_one, Int.add_zero]
      rfl
    · simp only [Int.not_lt]
      omega
  have large : 2 ^ 52 ≤ n * 2 ^ 53 := by omega
  have finite := finite_roundWithAccuracy .positive (-53) large (by decide)
  rwa [roundedNatural_mul_pow (by omega), ← unpacked] at finite

theorem toModel_ofNat_of_le {n : Nat} (long : 2 ^ 53 ≤ n) :
    (Float.ofNat n).toModel = Float.Model.pack (ofScientific Format.binary64 n 0) := by
  change (Float.ofScientific n false 0).toModel = _
  rw [Float.ofScientific, dif_neg (by omega)]
  rfl

/-- The double of a long number. -/
theorem finite_ofNat_of_le {n : Nat} (long : 2 ^ 53 ≤ n) (h : n < 2 ^ 64) :
    Finite .positive (roundedNatural n * 2 ^ 53) (-53) (Float.ofNat n).toModel.unpack := by
  have finite := finite_ofScientific long
  rw [toModel_ofNat_of_le long, finite.unpack_pack (by decide) (by decide)]
  · exact finite
  · exact roundedNatural_mul_pow_lt h (by decide)

/-- A number of 53 bits with zeros behind it, so that it has just as many. -/
theorem padded_bounds {n : Nat} (pos : 0 < n) (short : n < 2 ^ 53) :
    2 ^ 52 ≤ n * 2 ^ (52 - n.log2) ∧ n * 2 ^ (52 - n.log2) < 2 ^ 53 := by
  have bits : n.log2 < 53 := (Nat.log2_lt (by omega)).mpr short
  have lower := Nat.mul_le_mul_right (2 ^ (52 - n.log2)) (Nat.log2_self_le (n := n) (by omega))
  have upper := Nat.mul_lt_mul_of_pos_right (Nat.lt_log2_self (n := n))
    (Nat.two_pow_pos (52 - n.log2))
  rw [← Nat.pow_add, show n.log2 + (52 - n.log2) = 52 by omega] at lower
  rw [← Nat.pow_add, show n.log2 + 1 + (52 - n.log2) = 53 by omega] at upper
  exact ⟨lower, upper⟩

/-- A short number is converted as it is. -/
theorem finite_ofInt_of_lt {n : Nat} (pos : 0 < n) (short : n < 2 ^ 53) :
    Finite .positive (n * 2 ^ (52 - n.log2)) (n.log2 - 52)
      (ofInt Format.binary64 n) := by
  obtain ⟨lower, upper⟩ := padded_bounds pos short
  have bits : n.log2 < 53 := (Nat.log2_lt (by omega)).mpr short
  have target : Format.binary64.targetExponent (totalExponent n 0) = n.log2 - 52 := by
    simp only [Format.targetExponent, totalExponent, mantissaBits_binary64, Format.minExponent]
    omega
  have compared : compare (n : Int) 0 = .gt := Int.compare_eq_gt.mpr (by omega)
  have amount : (0 - ((n.log2 : Int) - 52)).toNat = 52 - n.log2 := by omega
  have rest : (0 : Int) - ((52 - n.log2 : Nat) : Int) = n.log2 - 52 := by omega
  have made : ofInt Format.binary64 n = roundWithAccuracy Format.binary64 .positive
      (n * 2 ^ (52 - n.log2)) (n.log2 - 52) .exact := by
    simp only [ofInt, UnpackedFloat.normalize, UnpackedFloat.round, compared, Int.toNat_natCast,
      target, decreaseExponent, amount, rest, Nat.shiftLeft_eq]
  have finite := finite_roundWithAccuracy .positive ((n.log2 : Int) - 52) lower (by omega)
  rwa [roundedNatural_of_lt upper, ← made] at finite

private theorem unpack_one : (Float.ofBits 0x3FF0000000000000).toModel.unpack =
    .finite .positive (2 ^ 52) (-52) (by decide) := rfl

/-- A short number is converted and multiplied by the power of ten that is one. -/
theorem toModel_ofNat_of_lt {n : Nat} (short : n < 2 ^ 53) :
    (Float.ofNat n).toModel = Float.Model.pack (mul Format.binary64
      (Float.Model.pack (ofInt Format.binary64 n)).unpack
      (Float.ofBits 0x3FF0000000000000).toModel.unpack) := by
  have word : n.toUInt64.toNat = n := Nat.mod_eq_of_lt (by omega)
  change (Float.ofScientific n false 0).toModel = _
  rw [Float.ofScientific, dif_pos ⟨short, by decide⟩]
  change Float.Model.pack (mul Format.binary64
    (Float.Model.pack (ofInt Format.binary64 n.toUInt64.toNat)).unpack _) = _
  rw [word]
  rfl

/-- Multiplying a double of moderate size by one changes nothing. -/
theorem finite_mul_one {n : Nat} {unit : Int} {u : UnpackedFloat} (h : Finite .positive n unit u)
    (normal : -1000 ≤ unit) :
    Finite .positive (n * 2 ^ 52) (unit - 52)
      (mul Format.binary64 u (.finite .positive (2 ^ 52) (-52) (by decide))) := by
  obtain ⟨significand, exponent, positive, rfl, lower, upper, rfl⟩ := h
  have large : 2 ^ 52 ≤ significand * 2 ^ 52 := by omega
  have finite := finite_roundWithAccuracy .positive (unit + exponent + -52) large (by omega)
  rw [roundedNatural_mul_pow lower, roundedNatural_of_lt upper] at finite
  have scaled := finite.mul_pow exponent
  have number : significand * 2 ^ 52 * 2 ^ exponent = significand * 2 ^ exponent * 2 ^ 52 :=
    Nat.mul_right_comm _ _ _
  have place : unit + exponent + -52 - exponent = unit - 52 := by omega
  rwa [number, place] at scaled

/-- The double of a short number. It is made by multiplying the converted number by one, which is
exact, so that nothing is rounded. -/
theorem finite_ofNat_of_lt {n : Nat} (pos : 0 < n) (short : n < 2 ^ 53) :
    Finite .positive (n * 2 ^ 104) (-104) (Float.ofNat n).toModel.unpack := by
  obtain ⟨lower, upper⟩ := padded_bounds pos short
  have bits : n.log2 < 53 := (Nat.log2_lt (by omega)).mpr short
  have converted := finite_ofInt_of_lt pos short
  have finite := finite_mul_one converted (by omega)
  rw [toModel_ofNat_of_lt short, converted.unpack_pack (by omega) (by omega) (by omega),
    unpack_one, finite.unpack_pack (by omega) (by omega) (by omega)]
  have scaled := finite.mul_pow n.log2
  have number : n * 2 ^ (52 - n.log2) * 2 ^ 52 * 2 ^ n.log2 = n * 2 ^ 104 := by
    rw [Nat.mul_assoc, Nat.mul_assoc, ← Nat.pow_add, ← Nat.pow_add]
    congr 2
    omega
  have place : (n.log2 : Int) - 52 - 52 - n.log2 = -104 := by omega
  rwa [number, place] at scaled

/-- The double of a number stands for the number of 53 bits nearest to it. -/
theorem finite_ofNat {n : Nat} (pos : 0 < n) (h : n < 2 ^ 64) :
    Finite .positive (roundedNatural n * 2 ^ 104) (-104) (Float.ofNat n).toModel.unpack := by
  rcases Nat.lt_or_ge n (2 ^ 53) with short | long
  · rw [roundedNatural_of_lt short]
    exact finite_ofNat_of_lt pos short
  · have scaled := (finite_ofNat_of_le long h).mul_pow 51
    rwa [Nat.mul_assoc, ← Nat.pow_add] at scaled

/-! ## Order -/

/-- Of two full significands the one with the larger exponent is larger, and of two with the same
exponent the larger one. -/
theorem compare_scaled {significand significand' : Nat} (lower : 2 ^ 52 ≤ significand)
    (upper : significand < 2 ^ 53) (lower' : 2 ^ 52 ≤ significand')
    (upper' : significand' < 2 ^ 53) (unit : Int) (exponent exponent' : Nat) :
    (compare (unit + exponent) (unit + exponent')).then (compare significand significand') =
      compare (significand * 2 ^ exponent) (significand' * 2 ^ exponent') := by
  -- One more bit in the exponent outweighs whatever the significands are.
  have apart {small large k k' : Nat} (above : small < 2 ^ 53) (below : 2 ^ 52 ≤ large)
      (less : k < k') : small * 2 ^ k < large * 2 ^ k' :=
    calc small * 2 ^ k < 2 ^ 53 * 2 ^ k := Nat.mul_lt_mul_of_pos_right above (Nat.two_pow_pos k)
      _ = 2 ^ 52 * 2 ^ (k + 1) := by rw [← Nat.pow_add, ← Nat.pow_add]; congr 1; omega
      _ ≤ large * 2 ^ k' := Nat.mul_le_mul below (Nat.pow_le_pow_right (by decide) less)
  rcases Nat.lt_trichotomy exponent exponent' with less | rfl | more
  · rw [Int.compare_eq_lt.mpr (by omega), Nat.compare_eq_lt.mpr (apart upper lower' less)]
    rfl
  · rw [Int.compare_eq_eq.mpr rfl]
    have scale := Nat.two_pow_pos exponent
    rcases Nat.lt_trichotomy significand significand' with less | rfl | more
    · rw [Nat.compare_eq_lt.mpr less,
        Nat.compare_eq_lt.mpr (Nat.mul_lt_mul_of_pos_right less scale)]
      rfl
    · rw [Nat.compare_eq_eq.mpr rfl, Nat.compare_eq_eq.mpr rfl]
      rfl
    · rw [Nat.compare_eq_gt.mpr more,
        Nat.compare_eq_gt.mpr (Nat.mul_lt_mul_of_pos_right more scale)]
      rfl
  · rw [Int.compare_eq_gt.mpr (by omega), Nat.compare_eq_gt.mpr (apart upper' lower more)]
    rfl

/-- An unpacked double stands for an integer. The unit of its magnitude is so small that all doubles
nearest to 64-bit integers have the same one. -/
inductive Denotes : UnpackedFloat → Int → Prop where
  | zero {sign} : Denotes (.zero sign) 0
  | finite {sign n u} : Finite sign (n * 2 ^ 104) (-104) u → Denotes u (sign.apply n)

theorem Finite.pos {sign : Sign} {n k : Nat} {unit : Int} {u : UnpackedFloat}
    (h : Finite sign (n * 2 ^ k) unit u) : 0 < n := by
  obtain ⟨significand, exponent, positive, -, -, -, value⟩ := h
  refine Nat.pos_of_ne_zero ?_
  rintro rfl
  rw [Nat.zero_mul] at value
  exact absurd value (Nat.mul_ne_zero (Nat.ne_of_gt positive) (Nat.ne_of_gt (Nat.two_pow_pos _)))

private theorem compare_mul_pow (n m k : Nat) : compare (n * 2 ^ k) (m * 2 ^ k) = compare n m := by
  have scale := Nat.two_pow_pos k
  rcases Nat.lt_trichotomy n m with less | rfl | more
  · rw [Nat.compare_eq_lt.mpr less, Nat.compare_eq_lt.mpr (Nat.mul_lt_mul_of_pos_right less scale)]
  · rw [Nat.compare_eq_eq.mpr rfl, Nat.compare_eq_eq.mpr rfl]
  · rw [Nat.compare_eq_gt.mpr more, Nat.compare_eq_gt.mpr (Nat.mul_lt_mul_of_pos_right more scale)]

/-- Negative integers are in the reverse of the order of their magnitudes. -/
theorem compare_apply (sign : Sign) (n m : Nat) :
    compare (sign.apply n) (sign.apply m) = match sign with
      | .positive => compare n m
      | .negative => (compare n m).swap := by
  rcases Nat.lt_trichotomy n m with less | rfl | more
  · rw [Nat.compare_eq_lt.mpr less]
    cases sign with
    | positive => exact Int.compare_eq_lt.mpr (by simp only [Sign.apply]; omega)
    | negative => exact Int.compare_eq_gt.mpr (by simp only [Sign.apply]; omega)
  · rw [Nat.compare_eq_eq.mpr rfl, Int.compare_eq_eq.mpr rfl]
    cases sign <;> rfl
  · rw [Nat.compare_eq_gt.mpr more]
    cases sign with
    | positive => exact Int.compare_eq_gt.mpr (by simp only [Sign.apply]; omega)
    | negative => exact Int.compare_eq_lt.mpr (by simp only [Sign.apply]; omega)

/-- Of two doubles with one unit the signs are compared, then the magnitudes. -/
theorem compare_of_finite {sign sign' : Sign} {n m : Nat} {u w : UnpackedFloat}
    (h : Finite sign (n * 2 ^ 104) (-104) u) (h' : Finite sign' (m * 2 ^ 104) (-104) w) :
    u.compare w = some (compare (sign.apply n) (sign'.apply m)) := by
  have pos := h.pos
  have pos' := h'.pos
  obtain ⟨significand, exponent, positive, rfl, lower, upper, value⟩ := h
  obtain ⟨significand', exponent', positive', rfl, lower', upper', value'⟩ := h'
  have magnitudes := compare_scaled lower upper lower' upper' (-104) exponent exponent'
  rw [value, value', compare_mul_pow] at magnitudes
  cases sign with
  | positive =>
    cases sign' with
    | positive =>
      rw [compare_apply, ← magnitudes]
      rfl
    | negative =>
      exact congrArg some (Int.compare_eq_gt.mpr (by simp only [Sign.apply]; omega)).symm
  | negative =>
    cases sign' with
    | positive =>
      exact congrArg some (Int.compare_eq_lt.mpr (by simp only [Sign.apply]; omega)).symm
    | negative =>
      rw [compare_apply, ← magnitudes]
      rfl

private theorem compare_zero_of_finite {sign sign' : Sign} {n : Nat} {u : UnpackedFloat}
    (h : Finite sign (n * 2 ^ 104) (-104) u) :
    u.compare (.zero sign') = some (compare (sign.apply n) 0) ∧
      UnpackedFloat.compare (.zero sign') u = some (compare 0 (sign.apply n)) := by
  have pos := h.pos
  obtain ⟨significand, exponent, positive, rfl, -⟩ := h
  cases sign with
  | positive =>
    rw [Int.compare_eq_gt.mpr (by simp only [Sign.apply]; omega),
      Int.compare_eq_lt.mpr (by simp only [Sign.apply]; omega)]
    exact ⟨rfl, rfl⟩
  | negative =>
    rw [Int.compare_eq_lt.mpr (by simp only [Sign.apply]; omega),
      Int.compare_eq_gt.mpr (by simp only [Sign.apply]; omega)]
    exact ⟨rfl, rfl⟩

/-- Doubles that stand for integers are ordered like them. -/
theorem compare_of_denotes {u w : UnpackedFloat} {n m : Int} (h : Denotes u n)
    (h' : Denotes w m) : u.compare w = some (compare n m) := by
  cases h with
  | zero =>
    cases h' with
    | zero => rfl
    | finite finite => exact (compare_zero_of_finite finite).2
  | finite finite =>
    cases h' with
    | zero => exact (compare_zero_of_finite finite).1
    | finite finite' => exact compare_of_finite finite finite'

/-- The double nearest to an integer stands for the integer of 53 bits nearest to it. -/
theorem denotes_nearest {n : Int} (h : n.natAbs < 2 ^ 64) :
    Denotes (nearest n).toModel.unpack (rounded n) := by
  cases n with
  | ofNat n =>
    rcases Nat.eq_zero_or_pos n with rfl | pos
    · exact .zero
    · exact .finite (finite_ofNat pos h)
  | negSucc n =>
    have negative : Finite .negative (roundedNatural (n + 1) * 2 ^ 104) (-104)
        (Float.ofNat (n + 1)).toModel.unpack.neg := by
      obtain ⟨significand, exponent, positive, same, parts⟩ := finite_ofNat (Nat.succ_pos n) h
      rw [same]
      exact ⟨significand, exponent, positive, rfl, parts⟩
    have made : (nearest (.negSucc n)).toModel =
        Float.Model.pack (Float.ofNat (n + 1)).toModel.unpack.neg := rfl
    rw [made, negative.unpack_pack (by decide) (by decide)]
    · exact .finite negative
    · exact roundedNatural_mul_pow_lt h (by decide)

/-! ## Comparisons -/

variable {n m : Int}

theorem compare_nearest (h : n.natAbs < 2 ^ 64) (h' : m.natAbs < 2 ^ 64) :
    (nearest n).toModel.unpack.compare (nearest m).toModel.unpack =
      some (compare (rounded n) (rounded m)) :=
  compare_of_denotes (denotes_nearest h) (denotes_nearest h')

theorem nearest_beq_nearest (h : n.natAbs < 2 ^ 64) (h' : m.natAbs < 2 ^ 64) :
    (nearest n == nearest m) = decide (rounded n = rounded m) := by
  change ((nearest n).toModel.unpack.compare (nearest m).toModel.unpack == some .eq) = _
  rw [compare_nearest h h', Bool.beq_eq_decide_eq, decide_eq_decide, Option.some_inj,
    Int.compare_eq_eq]

theorem nearest_lt_nearest_iff (h : n.natAbs < 2 ^ 64) (h' : m.natAbs < 2 ^ 64) :
    nearest n < nearest m ↔ rounded n < rounded m := by
  have compared : nearest n < nearest m ↔
      (nearest n).toModel.unpack.compare (nearest m).toModel.unpack = some .lt :=
    decide_eq_true_iff.trans beq_iff_eq
  rw [compared, compare_nearest h h', Option.some_inj, Int.compare_eq_lt]

theorem nearest_le_nearest_iff (h : n.natAbs < 2 ^ 64) (h' : m.natAbs < 2 ^ 64) :
    nearest n ≤ nearest m ↔ rounded n ≤ rounded m := by
  have compared : nearest n ≤ nearest m ↔
      ((nearest n).toModel.unpack.compare (nearest m).toModel.unpack).any Ordering.isLE = true :=
    decide_eq_true_iff
  rw [compared, compare_nearest h h', Option.any_some, Int.isLE_compare]

end MessageExpr.Decimal
