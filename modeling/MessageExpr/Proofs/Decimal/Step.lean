import MessageExpr.Proofs.Decimal.Reach

/-!
# Steps between doubles

The unit of the last place of a double grows with its size. From `2 ^ 54` on it is more than two, so
that a step by one away from zero is rounded back to where it started.

## Main results

* `Decimal.Double.ofFloat_injective` — doubles that stand for the same are the same
* `Decimal.nearest_add_one` — a step away from zero does not leave the double of a large integer
* `Decimal.nearest_apply_eq`, `Decimal.rounded_eq_of_nearest_eq` — integers have one double when
  they are rounded to one integer, and only then
* `Decimal.nearest_add_one_eq_iff`, `Decimal.nearest_add_one_eq_iff_le` — so two steps away from
  zero end at one double, and where that is the power of two next to the 64-bit integers
-/

namespace MessageExpr.Decimal

open Float.Model (Format UnpackedFloat totalExponent)
open Float.Model.UnpackedFloat

/-! ## Equal doubles -/

private theorem eq_of_fields_eq {n m : Nat} (inside : n < 2 ^ 64) (inside' : m < 2 ^ 64)
    (sign : (n >>> 63 == 1) = (m >>> 63 == 1))
    (exponent : (n >>> 52) % (1 <<< 11) = (m >>> 52) % (1 <<< 11))
    (fraction : n % (1 <<< 52) = m % (1 <<< 52)) : n = m := by
  rw [Nat.shiftRight_eq_div_pow, Nat.shiftRight_eq_div_pow] at sign exponent
  rw [Bool.eq_iff_iff, beq_iff_eq, beq_iff_eq] at sign
  rw [Nat.one_shiftLeft] at exponent fraction
  omega

private theorem fields_of_infinite {x : Float} {negative : Bool}
    (h : Double.ofFloat x = .infinite negative) :
    (x.toBits.toNat >>> 63 == 1) = negative ∧
      (x.toBits.toNat >>> 52) % (1 <<< 11) = 1 <<< 11 - 1 ∧ x.toBits.toNat % (1 <<< 52) = 0 := by
  rw [Double.ofFloat] at h
  split_ifs at h with top zero least
  cases h
  exact ⟨rfl, top, zero⟩

private theorem fields_of_finite {x : Float} {negative : Bool} {significand : Nat} {exponent : Int}
    (h : Double.ofFloat x = .finite negative significand exponent) :
    (x.toBits.toNat >>> 63 == 1) = negative ∧
      (x.toBits.toNat >>> 52) % (1 <<< 11) =
        (if significand < 1 <<< 52 then 0 else (exponent + 1075).toNat) ∧
      x.toBits.toNat % (1 <<< 52) = significand % (1 <<< 52) := by
  rw [Double.ofFloat] at h
  split_ifs at h with top zero least
  · cases h
    have small : x.toBits.toNat % (1 <<< 52) < 1 <<< 52 := Nat.mod_lt _ (Nat.two_pow_pos 52)
    exact ⟨rfl, by rw [if_pos small, least], (Nat.mod_mod _ _).symm⟩
  · cases h
    refine ⟨rfl, ?_, by rw [Nat.add_mod_left, Nat.mod_mod]⟩
    rw [if_neg (Nat.not_lt.mpr (Nat.le_add_right _ _))]
    omega

/-- All doubles that are no numbers have the same bits. -/
theorem toBits_of_nan {x : Float} (h : Double.ofFloat x = .nan) :
    x.toBits.toBitVec = packedNaN Format.binary64 := by
  rw [Double.ofFloat] at h
  split_ifs at h with top zero
  refine x.toModel.valid.eq_packedNaN ?_ ?_
  · exact BitVec.toNat_inj.mp ((toNat_unpackExponent _).trans top)
  · exact fun none => zero ((toNat_unpackMantissa _).symm.trans (congrArg BitVec.toNat none))

/-- A double is known by what it stands for. -/
theorem Double.ofFloat_injective : Function.Injective Double.ofFloat := by
  intro x y same
  have bits : x.toBits = y.toBits := by
    have eq (sign) (exponent) (fraction) : x.toBits = y.toBits :=
      UInt64.toNat_inj.mp
        (eq_of_fields_eq x.toBits.toNat_lt y.toBits.toNat_lt sign exponent fraction)
    cases form : Double.ofFloat x with
    | nan =>
      have bits' := toBits_of_nan (same ▸ form)
      exact UInt64.toBitVec_inj.mp ((toBits_of_nan form).trans bits'.symm)
    | infinite negative =>
      obtain ⟨sign, exponent, fraction⟩ := fields_of_infinite form
      obtain ⟨sign', exponent', fraction'⟩ := fields_of_infinite (same ▸ form)
      exact eq (sign.trans sign'.symm) (exponent.trans exponent'.symm)
        (fraction.trans fraction'.symm)
    | finite negative significand e =>
      obtain ⟨sign, exponent, fraction⟩ := fields_of_finite form
      obtain ⟨sign', exponent', fraction'⟩ := fields_of_finite (same ▸ form)
      exact eq (sign.trans sign'.symm) (exponent.trans exponent'.symm)
        (fraction.trans fraction'.symm)
  obtain ⟨⟨_, _⟩⟩ := x
  obtain ⟨⟨_, _⟩⟩ := y
  cases bits
  rfl

private theorem eq_of_unpack_eq {x y : Float} (h : x.toModel.unpack = y.toModel.unpack) :
    x = y := by
  refine Double.ofFloat_injective ?_
  rw [Double.ofFloat_eq, Double.ofFloat_eq, h]

/-- Integers of one sign that are rounded to one number have one double. -/
theorem nearest_apply_eq (sign : Sign) {n m : Nat} (pos : 0 < n) (pos' : 0 < m) (h : n < reach)
    (h' : m < reach) (same : roundedNatural n = roundedNatural m) :
    nearest (sign.apply n) = nearest (sign.apply m) := by
  have finite := finite_nearest sign pos h
  rw [same] at finite
  exact eq_of_unpack_eq (finite.unique (finite_nearest sign pos' h'))

/-- Integers with one double are rounded to one integer. -/
theorem rounded_eq_of_nearest_eq {n m : Int} (h : n.natAbs < reach) (h' : m.natAbs < reach)
    (same : nearest n = nearest m) : rounded n = rounded m := by
  have wholes := congrArg whole? same
  rwa [whole?_nearest, whole?_nearest, if_pos h, if_pos h', Option.some_inj] at wholes

/-! ## Sums -/

/-- What is less than half a unit beside a full significand is rounded away. -/
theorem roundedNatural_mul_pow_add {significand k rest : Nat} (lower : 2 ^ 52 ≤ significand)
    (upper : significand < 2 ^ 53) (less : 2 * rest < 2 ^ k) :
    roundedNatural (significand * 2 ^ k + rest) = significand * 2 ^ k := by
  have unit := Nat.two_pow_pos k
  have log : (significand * 2 ^ k + rest).log2 = 52 + k := by
    have pos : 0 < significand * 2 ^ k := Nat.mul_pos (by omega) unit
    refine (Nat.log2_eq_iff (by omega)).mpr ⟨?_, ?_⟩
    · rw [Nat.pow_add]
      exact Nat.le_add_right_of_le (Nat.mul_le_mul_right _ lower)
    · calc significand * 2 ^ k + rest < (significand + 1) * 2 ^ k := by
            rw [Nat.add_mul]
            omega
        _ ≤ 2 ^ 53 * 2 ^ k := Nat.mul_le_mul_right _ upper
        _ = 2 ^ (52 + k + 1) := by
            rw [← Nat.pow_add]
            congr 1
            omega
  have spare : spareBits (significand * 2 ^ k + rest) = k := by
    rw [spareBits, log, Nat.add_sub_cancel_left]
  have whole : (significand * 2 ^ k + rest) / 2 ^ k = significand := by
    rw [Nat.mul_comm, Nat.mul_add_div unit, Nat.div_eq_of_lt (by omega), Nat.add_zero]
  have left : (significand * 2 ^ k + rest) % 2 ^ k = rest := by
    rw [Nat.mul_comm, Nat.mul_add_mod, Nat.mod_eq_of_lt (by omega)]
  rw [roundedNatural, spare, halfEven, whole, left, if_pos less]

private theorem apply_add_apply (sign : Sign) (n m : Nat) :
    sign.apply n + sign.apply m = sign.apply ((n + m : Nat) : Int) := by
  cases sign <;> simp only [Sign.apply] <;> omega

/-- A number with a sign is rounded to the number of 53 bits nearest to it. -/
theorem finite_normalize (sign zero : Sign) {n : Nat} {unit : Int} (large : 2 ^ 52 ≤ n)
    (normal : -1074 ≤ unit) :
    Finite sign (roundedNatural n) unit
      (UnpackedFloat.normalize Format.binary64 (sign.apply n) unit zero) := by
  have bits : 52 ≤ n.log2 := (Nat.le_log2 (by omega)).mpr large
  have amount : (unit - Format.binary64.targetExponent (totalExponent n unit)).toNat = 0 := by
    simp only [Format.targetExponent, totalExponent, mantissaBits_binary64, Format.minExponent]
    omega
  have rounds : UnpackedFloat.round Format.binary64 sign n unit =
      roundWithAccuracy Format.binary64 sign n unit .exact := by
    simp only [UnpackedFloat.round, decreaseExponent, amount, Nat.shiftLeft_zero, Int.natCast_zero,
      Int.sub_zero]
  have made : UnpackedFloat.normalize Format.binary64 (sign.apply n) unit zero =
      UnpackedFloat.round Format.binary64 sign n unit := by
    cases sign with
    | positive =>
      have above : compare (n : Int) 0 = .gt := Int.compare_eq_gt.mpr (by omega)
      simp only [UnpackedFloat.normalize, Sign.apply, above, Int.toNat_natCast]
    | negative =>
      have below : compare (-n : Int) 0 = .lt := Int.compare_eq_lt.mpr (by omega)
      simp only [UnpackedFloat.normalize, Sign.apply, below, Int.neg_neg, Int.toNat_natCast]
  rw [made, rounds]
  exact finite_roundWithAccuracy sign unit large normal

private theorem add_finite (spec : Format) (sign sign' : Sign) {significand significand' : Nat}
    (exponent exponent' : Int) (h : 0 < significand) (h' : 0 < significand') :
    add spec (.finite sign significand exponent h) (.finite sign' significand' exponent' h') =
      UnpackedFloat.normalize spec
        (sign.apply (decreaseExponent significand exponent (min exponent exponent')).1 +
          sign'.apply (decreaseExponent significand' exponent' (min exponent exponent')).1)
        (min exponent exponent') .positive := rfl

/-- Adding one to a large double away from zero changes nothing. -/
theorem add_one_eq_self {sign : Sign} {n : Nat} {u : UnpackedFloat}
    (h : Finite sign (n * 2 ^ 104) (-104) u) (large : 2 ^ 54 ≤ n) :
    add Format.binary64 u (.finite sign (2 ^ 52) (-52) (by decide)) = u := by
  obtain ⟨significand, exponent, positive, rfl, lower, upper, value⟩ := h
  have far : 106 ≤ exponent := by
    have less : 2 ^ (54 + 104) < 2 ^ (53 + exponent) :=
      calc 2 ^ (54 + 104) ≤ n * 2 ^ 104 := by
            rw [Nat.pow_add]
            exact Nat.mul_le_mul_right _ large
        _ = significand * 2 ^ exponent := value.symm
        _ < 2 ^ (53 + exponent) := by
            rw [Nat.pow_add]
            exact Nat.mul_lt_mul_of_pos_right upper (Nat.two_pow_pos exponent)
    have := (Nat.pow_lt_pow_iff_right (by decide)).mp less
    omega
  obtain ⟨k, rfl⟩ : ∃ k, exponent = k + 52 := ⟨exponent - 52, by omega⟩
  -- Both are taken to the exponent of the one that is added.
  have place : (-104 + ((k + 52 : Nat) : Int)) = -52 + k := by omega
  have least : min (-52 + (k : Int)) (-52) = -52 := by omega
  have shift : (-52 + (k : Int) - -52).toNat = k := by omega
  have sum : add Format.binary64 (.finite sign significand (-104 + ((k + 52 : Nat) : Int)) positive)
      (.finite sign (2 ^ 52) (-52) (by decide)) =
      UnpackedFloat.normalize Format.binary64
        (sign.apply ((significand * 2 ^ k + 2 ^ 52 : Nat) : Int)) (-52) .positive := by
    rw [add_finite]
    simp only [place, least, decreaseExponent, shift, Int.sub_self, Int.toNat_zero,
      apply_add_apply, Nat.shiftLeft_eq, Nat.pow_zero, Nat.mul_one]
  have small : 2 * 2 ^ 52 < 2 ^ k := by
    rw [← Nat.pow_succ']
    exact Nat.pow_lt_pow_right (by decide) (by omega)
  have rounded := finite_normalize sign .positive
    (n := significand * 2 ^ k + 2 ^ 52) (by omega) (show (-1074 : Int) ≤ -52 by decide)
  rw [roundedNatural_mul_pow_add lower upper small] at rounded
  rw [sum]
  exact rounded.unique ⟨significand, k, positive, by rw [place], lower, upper, rfl⟩

/-- A step away from zero does not leave the double of a large integer. -/
theorem nearest_add_one (sign : Sign) {n : Nat} (large : 2 ^ 54 ≤ n) (small : n < reach) :
    nearest (sign.apply n) + nearest (sign.apply 1) = nearest (sign.apply n) := by
  have finite := finite_nearest sign (by omega) small
  have one : (nearest (sign.apply 1)).toModel.unpack =
      .finite sign (2 ^ 52) (-52) (by decide) := by
    cases sign <;> rfl
  have above : 2 ^ 54 ≤ roundedNatural n := by
    have kept : roundedNatural (2 ^ 54) = 2 ^ 54 := by decide +kernel
    rw [← kept]
    exact roundedNatural_mono large
  have sum : (nearest (sign.apply n) + nearest (sign.apply 1)).toModel =
      Float.Model.pack (add Format.binary64 (nearest (sign.apply n)).toModel.unpack
        (nearest (sign.apply 1)).toModel.unpack) := rfl
  apply eq_of_unpack_eq
  rw [sum, one, add_one_eq_self finite above]
  have small' := (roundedNatural_mul_pow_lt_iff 104).mpr small
  exact finite.unpack_pack_of_lt (k := 104) rfl (by decide) small'

private theorem rounded_apply (sign : Sign) (n : Nat) :
    rounded (sign.apply n) = sign.apply (roundedNatural n) := by
  cases sign with
  | positive => rfl
  | negative =>
    cases n with
    | zero => decide +kernel
    | succ n => rfl

/-- Steps away from zero from two large integers end at one double exactly when the integers are
rounded to one number. -/
theorem nearest_add_one_eq_iff (sign : Sign) {n m : Nat} (large : 2 ^ 54 ≤ n) (large' : 2 ^ 54 ≤ m)
    (small : n < reach) (small' : m < reach) :
    nearest (sign.apply n) + nearest (sign.apply 1) =
        nearest (sign.apply m) + nearest (sign.apply 1) ↔ roundedNatural n = roundedNatural m := by
  have size (k : Nat) : (sign.apply (k : Int)).natAbs = k := by
    cases sign <;> simp [Sign.apply]
  rw [nearest_add_one sign large small, nearest_add_one sign large' small']
  constructor
  · intro same
    have rounds := rounded_eq_of_nearest_eq (by rwa [size]) (by rwa [size]) same
    rw [rounded_apply, rounded_apply] at rounds
    rw [← size (roundedNatural n), rounds, size]
  · exact nearest_apply_eq sign (by omega) (by omega) small small'

/-- The numbers that are rounded to the first power of two beyond 64 bits and a sign. -/
theorem roundedNatural_eq_two_pow_iff {n : Nat} (h : 2 ^ 63 ≤ n) :
    roundedNatural n = 2 ^ 63 ↔ n ≤ 2 ^ 63 + 1024 := by
  have first : roundedNatural (2 ^ 63) = 2 ^ 63 := by decide +kernel
  have last : roundedNatural (2 ^ 63 + 1024) = 2 ^ 63 := by decide +kernel
  have next : roundedNatural (2 ^ 63 + 1025) = 2 ^ 63 + 2048 := by decide +kernel
  have above := roundedNatural_mono h
  constructor
  · intro same
    by_contra beyond
    have := roundedNatural_mono (show 2 ^ 63 + 1025 ≤ n by omega)
    omega
  · intro le
    have := roundedNatural_mono le
    omega

/-- From a number that is rounded to this power of two, a step away from zero ends where one from a
larger number does only if that one is rounded to it as well. -/
theorem nearest_add_one_eq_iff_le (sign : Sign) {n m : Nat} (start : roundedNatural n = 2 ^ 63)
    (large : 2 ^ 54 ≤ n) (small : n < reach) (large' : 2 ^ 63 ≤ m) (small' : m < reach) :
    nearest (sign.apply n) + nearest (sign.apply 1) =
        nearest (sign.apply m) + nearest (sign.apply 1) ↔ m ≤ 2 ^ 63 + 1024 := by
  rw [nearest_add_one_eq_iff sign large (by omega) small small', start, eq_comm,
    roundedNatural_eq_two_pow_iff large']

end MessageExpr.Decimal
