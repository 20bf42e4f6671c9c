import Mathlib.Algebra.Order.Ring.Int
import Mathlib.Tactic.SplitIfs

/-!
# Integers of 53 bits

A double has room for 53 significant bits. So a longer integer is rounded to one whose bits beyond
the first 53 are zero: to the nearest of them, and where two are equally near to the one whose last
kept bit is zero. Rounding keeps the order of integers, but it takes neighbours to the same integer.

## Main definitions

* `Decimal.halfEven` — a number in units of a power of two, rounded
* `Decimal.rounded` — the integer of 53 bits nearest to an integer

## Main results

* `Decimal.rounded_of_natAbs_le` — integers up to `2 ^ 53` stay as they are
* `Decimal.rounded_mono` — rounding keeps the order
* `Decimal.eq_of_rounded_eq` — no other integer is rounded to one below `2 ^ 53`
-/

namespace MessageExpr.Decimal

/-- How many times the unit `2 ^ drop` is in a number, rounded to the nearest number of times; of
two that are equally near the even one is taken. -/
def halfEven (n drop : Nat) : Nat :=
  let whole := n / 2 ^ drop
  let rest := n % 2 ^ drop
  if 2 * rest < 2 ^ drop then whole
  else if 2 * rest = 2 ^ drop then whole + whole % 2
  else whole + 1

/-- How many bits of a number are beyond the first 53. -/
def spareBits (n : Nat) : Nat := n.log2 - 52

/-- The number of 53 bits nearest to a number. -/
def roundedNatural (n : Nat) : Nat := halfEven n (spareBits n) * 2 ^ spareBits n

/-- The integer of 53 bits nearest to an integer. -/
def rounded : Int → Int
  | .ofNat n => roundedNatural n
  | .negSucc n => -roundedNatural (n + 1)

/-! ## Numbers -/

theorem halfEven_zero (n : Nat) : halfEven n 0 = n := by
  simp [halfEven, Nat.mod_one]

theorem halfEven_bounds (n drop : Nat) :
    n / 2 ^ drop ≤ halfEven n drop ∧ halfEven n drop ≤ n / 2 ^ drop + 1 := by
  simp only [halfEven]
  split_ifs <;> omega

private theorem halfEven_mono {n m : Nat} (h : n ≤ m) (drop : Nat) :
    halfEven n drop ≤ halfEven m drop := by
  have wholes : n / 2 ^ drop ≤ m / 2 ^ drop := Nat.div_le_div_right h
  rcases Nat.lt_or_eq_of_le wholes with less | same
  · have above := (halfEven_bounds n drop).2
    have below := (halfEven_bounds m drop).1
    omega
  · -- The same number of whole units, so the rests are in order.
    have rests : n % 2 ^ drop ≤ m % 2 ^ drop := by
      have split := Nat.div_add_mod n (2 ^ drop)
      have split' := Nat.div_add_mod m (2 ^ drop)
      rw [same] at split
      omega
    simp only [halfEven, same]
    split_ifs <;> omega

/-- The bits of a number that are kept are 53 at most. -/
theorem div_spareBits_bounds {n : Nat} (h : 0 < spareBits n) :
    2 ^ 52 ≤ n / 2 ^ spareBits n ∧ n / 2 ^ spareBits n < 2 ^ 53 := by
  have large : 52 ≤ n.log2 := by unfold spareBits at h; omega
  have nonzero : n ≠ 0 := by
    rintro rfl
    simp at large
  have upper : n < 2 ^ (n.log2 + 1) := Nat.lt_log2_self
  have lower : 2 ^ n.log2 ≤ n := Nat.log2_self_le nonzero
  have split : n.log2 = 52 + spareBits n := by unfold spareBits; omega
  rw [split] at lower
  rw [split, show 52 + spareBits n + 1 = 53 + spareBits n by omega] at upper
  rw [Nat.pow_add] at lower upper
  exact ⟨(Nat.le_div_iff_mul_le (Nat.two_pow_pos _)).mpr lower,
    (Nat.div_lt_iff_lt_mul (Nat.two_pow_pos _)).mpr upper⟩

theorem spareBits_of_lt {n : Nat} (h : n < 2 ^ 53) : spareBits n = 0 := by
  rcases Nat.eq_zero_or_pos n with rfl | pos
  · rfl
  · have := (Nat.log2_lt (Nat.ne_of_gt pos)).mpr h
    unfold spareBits
    omega

theorem roundedNatural_of_lt {n : Nat} (h : n < 2 ^ 53) : roundedNatural n = n := by
  rw [roundedNatural, spareBits_of_lt h, halfEven_zero, Nat.pow_zero, Nat.mul_one]

/-- Rounding does not leave the range between two powers of two. -/
theorem roundedNatural_bounds {n : Nat} (h : n ≠ 0) :
    2 ^ n.log2 ≤ roundedNatural n ∧ roundedNatural n ≤ 2 ^ (n.log2 + 1) := by
  rcases Nat.eq_zero_or_pos (spareBits n) with none | some
  · rw [roundedNatural, none, halfEven_zero, Nat.pow_zero, Nat.mul_one]
    exact ⟨Nat.log2_self_le h, Nat.le_of_lt Nat.lt_log2_self⟩
  · obtain ⟨lower, upper⟩ := div_spareBits_bounds some
    obtain ⟨below, above⟩ := halfEven_bounds n (spareBits n)
    have split : n.log2 = 52 + spareBits n := by unfold spareBits at some ⊢; omega
    rw [split, show 52 + spareBits n + 1 = 53 + spareBits n by omega, Nat.pow_add, Nat.pow_add]
    exact ⟨Nat.mul_le_mul_right _ (by omega), Nat.mul_le_mul_right _ (by omega)⟩

theorem roundedNatural_mono {n m : Nat} (h : n ≤ m) : roundedNatural n ≤ roundedNatural m := by
  rcases Nat.eq_zero_or_pos n with rfl | pos
  · rw [roundedNatural_of_lt (by decide)]
    exact Nat.zero_le _
  have pos' : m ≠ 0 := by omega
  have logs : n.log2 ≤ m.log2 :=
    (Nat.le_log2 pos').mpr (Nat.le_trans (Nat.log2_self_le (by omega)) h)
  rcases Nat.lt_or_eq_of_le logs with less | same
  · -- A power of two lies between the rounded numbers.
    calc roundedNatural n ≤ 2 ^ (n.log2 + 1) := (roundedNatural_bounds (by omega)).2
      _ ≤ 2 ^ m.log2 := Nat.pow_le_pow_right (by decide) less
      _ ≤ roundedNatural m := (roundedNatural_bounds pos').1
  · unfold roundedNatural spareBits
    rw [same]
    exact Nat.mul_le_mul_right _ (halfEven_mono h _)

/-! ## Numbers in units of a power of two -/

theorem log2_mul_pow {n : Nat} (h : n ≠ 0) (k : Nat) : (n * 2 ^ k).log2 = n.log2 + k := by
  have positive : n * 2 ^ k ≠ 0 := Nat.mul_ne_zero h (Nat.ne_of_gt (Nat.two_pow_pos k))
  refine (Nat.log2_eq_iff positive).mpr ⟨?_, ?_⟩
  · rw [Nat.pow_add]
    exact Nat.mul_le_mul_right _ (Nat.log2_self_le h)
  · rw [show n.log2 + k + 1 = n.log2 + 1 + k by omega, Nat.pow_add]
    exact Nat.mul_lt_mul_of_pos_right Nat.lt_log2_self (Nat.two_pow_pos k)

private theorem halfEven_mul_pow (n drop k : Nat) :
    halfEven (n * 2 ^ k) (drop + k) = halfEven n drop := by
  have unit : 0 < 2 ^ k := Nat.two_pow_pos k
  have whole : n * 2 ^ k / 2 ^ (drop + k) = n / 2 ^ drop := by
    rw [Nat.pow_add, Nat.mul_div_mul_right _ _ unit]
  have rest : n * 2 ^ k % 2 ^ (drop + k) = n % 2 ^ drop * 2 ^ k := by
    rw [Nat.pow_add, Nat.mul_mod_mul_right]
  rw [halfEven, halfEven, whole, rest, ← Nat.mul_assoc, Nat.pow_add]
  simp only [Nat.mul_lt_mul_right unit, Nat.mul_left_inj (Nat.ne_of_gt unit)]

/-- More factors two do not change how a number is rounded. -/
theorem roundedNatural_mul_pow {n : Nat} (large : 2 ^ 52 ≤ n) (k : Nat) :
    roundedNatural (n * 2 ^ k) = roundedNatural n * 2 ^ k := by
  have bits : 52 ≤ n.log2 := (Nat.le_log2 (by omega)).mpr large
  have spare : spareBits (n * 2 ^ k) = spareBits n + k := by
    rw [spareBits, log2_mul_pow (by omega), spareBits]
    omega
  rw [roundedNatural, spare, halfEven_mul_pow, Nat.pow_add, ← Nat.mul_assoc, roundedNatural]

/-- Rounded numbers of 64 bits are small also in units of a moderate power of two. -/
theorem roundedNatural_mul_pow_lt {n k : Nat} (h : n < 2 ^ 64) (small : k ≤ 135) :
    roundedNatural n * 2 ^ k < 2 ^ 200 := by
  have bound : roundedNatural n ≤ 2 ^ 64 := by
    rcases Nat.eq_zero_or_pos n with rfl | pos
    · decide
    have bits : n.log2 < 64 := (Nat.log2_lt (by omega)).mpr h
    exact (roundedNatural_bounds (by omega)).2.trans (Nat.pow_le_pow_right (by decide) bits)
  calc roundedNatural n * 2 ^ k ≤ 2 ^ 64 * 2 ^ 135 :=
        Nat.mul_le_mul bound (Nat.pow_le_pow_right (by decide) small)
    _ < 2 ^ 200 := by decide

/-! ## Integers -/

/-- Rounding takes an integer of 53 bits to itself. -/
theorem rounded_of_natAbs_le {n : Int} (h : n.natAbs ≤ 2 ^ 53) : rounded n = n := by
  have keeps (k : Nat) (le : k ≤ 2 ^ 53) : roundedNatural k = k := by
    rcases Nat.lt_or_eq_of_le le with less | rfl
    · exact roundedNatural_of_lt less
    · decide +kernel
  cases n with
  | ofNat n => exact congrArg Int.ofNat (keeps n h)
  | negSucc n =>
    rw [rounded, keeps (n + 1) h]
    rfl

theorem rounded_mono {n m : Int} (h : n ≤ m) : rounded n ≤ rounded m := by
  cases n with
  | ofNat n =>
    cases m with
    | ofNat m => exact Int.ofNat_le.mpr (roundedNatural_mono (Int.ofNat_le.mp h))
    | negSucc m =>
      rw [Int.negSucc_eq, Int.ofNat_eq_natCast] at h
      omega
  | negSucc n =>
    cases m with
    | ofNat m =>
      have below : -(roundedNatural (n + 1) : Int) ≤ 0 := by omega
      exact Int.le_trans below (Int.natCast_nonneg _)
    | negSucc m =>
      have le : m + 1 ≤ n + 1 := by omega
      exact Int.neg_le_neg (Int.ofNat_le.mpr (roundedNatural_mono le))

/-- Rounding takes no other integer to one of 53 bits at most. -/
theorem eq_of_rounded_eq {n m : Int} (small : n.natAbs < 2 ^ 53) (same : rounded n = rounded m) :
    n = m := by
  have kept := rounded_of_natAbs_le (Nat.le_of_lt small)
  rcases Nat.lt_or_ge m.natAbs (2 ^ 53) with small' | large
  · rw [kept, rounded_of_natAbs_le (Nat.le_of_lt small')] at same
    exact same
  -- A longer integer is rounded to one that is just as long.
  · have top : rounded (2 ^ 53) = 2 ^ 53 := rounded_of_natAbs_le (by decide)
    have bottom : rounded (-2 ^ 53) = -2 ^ 53 := rounded_of_natAbs_le (by decide)
    rcases Int.le_total 0 m with positive | negative
    · have above : rounded (2 ^ 53) ≤ rounded m := rounded_mono (by omega)
      omega
    · have below : rounded m ≤ rounded (-2 ^ 53) := rounded_mono (by omega)
      omega

end MessageExpr.Decimal
