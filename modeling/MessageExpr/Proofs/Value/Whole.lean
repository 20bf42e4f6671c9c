import MessageExpr.Expr.Operation
import MessageExpr.Proofs.Decimal.Spelled

/-!
# Values as 64-bit integers

A value may denote a whole number as an integer, as a double that equals it, or as a text of digits.
Read as a 64-bit integer it gives this number whenever the number fits. A number that does not fit
is not turned away: it gives the nearest 64-bit integer instead, unless it is so large that the
double it would pass through is an infinity.

## Main definitions

* `Value.Denotes` — the whole number that a value denotes
* `Value.Agrees` — a number is no other than the one that a value denotes
* `Decimal.Fits` — the numbers of 64 bits

## Main results

* `Value.toInteger?_of_denotes` — what a value that denotes a number gives
* `Value.asInteger_exact_iff` — the values that give no other number than they denote
-/

namespace MessageExpr

namespace Decimal

/-! ## Numbers of 64 bits -/

/-- A number that a 64-bit integer can hold. -/
def Fits (n : Int) : Prop := -2 ^ 63 ≤ n ∧ n < 2 ^ 63

instance : DecidablePred Fits := fun n => inferInstanceAs (Decidable (-2 ^ 63 ≤ n ∧ n < 2 ^ 63))

variable {n : Int}

private theorem fits_iff : Fits n ↔ Int64.minValue.toInt ≤ n ∧ n ≤ Int64.maxValue.toInt := by
  have least : Int64.minValue.toInt = -2 ^ 63 := by decide
  have greatest : Int64.maxValue.toInt = 2 ^ 63 - 1 := by decide
  rw [Fits, least, greatest]
  omega

theorem fits_toInt (n : Int64) : Fits n.toInt := ⟨n.le_toInt, n.toInt_lt⟩

theorem toWord?_of_fits (h : Fits n) : toWord? n = some (Int64.ofInt n) :=
  if_pos (fits_iff.mp h)

theorem toWord?_of_not_fits (h : ¬Fits n) : toWord? n = none :=
  if_neg (mt fits_iff.mpr h)

theorem toInt_ofInt_of_fits (h : Fits n) : (Int64.ofInt n).toInt = n :=
  Int64.toInt_ofInt_of_le h.1 h.2

theorem clampWord_of_fits (h : Fits n) : clampWord n = Int64.ofInt n := by
  rw [← toInt_ofInt_of_fits h, clampWord, Int64.ofIntClamp_toInt, Int64.ofInt_toInt]

theorem clampWord_of_ge (h : 2 ^ 63 - 1 ≤ n) : clampWord n = Int64.maxValue := by
  have greatest : Int64.maxValue.toInt = 2 ^ 63 - 1 := by decide
  have least : Int64.minValue.toInt = -2 ^ 63 := by decide
  rcases Int.lt_or_eq_of_le h with above | rfl
  · rw [clampWord, Int64.ofIntClamp, dif_pos (by omega), dif_neg (by omega)]
  · rw [← greatest, clampWord, Int64.ofIntClamp_toInt]

theorem clampWord_of_le (h : n ≤ -2 ^ 63) : clampWord n = Int64.minValue := by
  have least : Int64.minValue.toInt = -2 ^ 63 := by decide
  rcases Int.lt_or_eq_of_le h with below | rfl
  · rw [clampWord, Int64.ofIntClamp, dif_neg (by omega)]
  · rw [← least, clampWord, Int64.ofIntClamp_toInt]

theorem not_fits_iff : ¬Fits n ↔ 2 ^ 63 ≤ n ∨ n < -2 ^ 63 := by
  unfold Fits
  omega

/-- Rounding does not bring a number that does not fit nearer to those that do. -/
theorem clampWord_rounded (h : ¬Fits n) : clampWord (rounded n) = clampWord n := by
  have top : rounded (2 ^ 63) = 2 ^ 63 := by decide +kernel
  have bottom : rounded (-2 ^ 63) = -2 ^ 63 := by decide +kernel
  rcases not_fits_iff.mp h with large | small
  · have above := rounded_mono large
    rw [clampWord_of_ge (by omega), clampWord_of_ge (by omega)]
  · have below := rounded_mono (Int.le_of_lt small)
    rw [clampWord_of_le (by omega), clampWord_of_le (by omega)]

theorem two_pow_lt_reach_of_fits (h : Fits n) : n.natAbs < reach := by
  have := two_pow_lt_reach
  unfold Fits at h
  omega

end Decimal

namespace Value

open Decimal (Fits reach rounded nearest clampWord)

variable {v : Value} {n : Int}

/-! ## The number that a value denotes -/

/-- The whole number that a value denotes: an integer itself, a double the number that it equals,
and a text the number that its digits spell between white space. -/
def Denotes : Value → Int → Prop
  | integer m, n => m.toInt = n
  | float x, n => (Decimal.Double.ofFloat x).value? = some (n : ℚ)
  | string s, n => Decimal.Spelled (Text.trim s.toList) n
  | _, _ => False

/-- Whether a number is no other than the one that a value denotes. A text in another form than
digits denotes no whole number here, so that it disagrees with none. -/
def Agrees : Value → Int → Prop
  | string s, n => ∀ m, Decimal.Spelled (Text.trim s.toList) m → m = n
  | v, n => v.Denotes n

theorem Agrees.eq_of_denotes {m : Int} (agrees : v.Agrees m) (denotes : v.Denotes n) : m = n := by
  cases v with
  | integer k => exact agrees.symm.trans denotes
  | float x =>
    have same := (show _ = some (m : ℚ) from agrees).symm.trans denotes
    exact Int.cast_inj.mp (Option.some_inj.mp same)
  | string s => exact (agrees n denotes).symm
  | null | boolean | list => exact denotes.elim

/-! ## Reading a value as an integer -/

/-- A value that denotes a number gives the 64-bit integer nearest to it, and none when the number
is beyond the doubles. -/
theorem toInteger?_of_denotes (h : v.Denotes n) :
    v.toInteger? = if n.natAbs < reach then some (clampWord n) else none := by
  cases v with
  | integer m =>
    obtain rfl : m.toInt = n := h
    rw [if_pos (Decimal.two_pow_lt_reach_of_fits (Decimal.fits_toInt m)), clampWord,
      Int64.ofIntClamp_toInt, toInteger?]
  | float x =>
    rw [if_pos (Decimal.natAbs_lt_reach_of_value? h), toInteger?, wholeToInteger?,
      Decimal.whole?_eq_some_iff.mpr h, Option.map_some]
  | string s =>
    have read : Decimal.word? (Text.trim s.toList) = Decimal.toWord? n := by
      rw [Decimal.word?, Decimal.integer?_eq_some_iff.mpr h, Option.bind_some]
    rw [toInteger?]
    by_cases fits : Fits n
    · rw [read, Decimal.toWord?_of_fits fits, if_pos (Decimal.two_pow_lt_reach_of_fits fits),
        Decimal.clampWord_of_fits fits]
    · have nonzero : n ≠ 0 := by
        rintro rfl
        exact fits (by decide)
      rw [read, Decimal.toWord?_of_not_fits fits, Decimal.float?_of_spelled h nonzero]
      dsimp only
      rw [Option.bind_some, wholeToInteger?, Decimal.whole?_nearest]
      split
      · rw [Option.map_some, Decimal.clampWord_rounded fits]
      · rfl
  | null | boolean | list => exact h.elim

private theorem toInt_clampWord_ne (h : ¬Fits n) : (clampWord n).toInt ≠ n := by
  intro same
  exact h (same ▸ Decimal.fits_toInt (clampWord n))

/-- What a value gives is the number that it denotes exactly when the number fits, or is too large
to give anything. -/
theorem toInteger?_agrees_iff : (∀ n, v.toInteger? = some n → v.Agrees n.toInt) ↔
    ∀ n, v.Denotes n → Fits n ∨ reach ≤ n.natAbs := by
  constructor
  · intro agrees n denotes
    by_contra beyond
    obtain ⟨notFits, small⟩ := not_or.mp beyond
    have given := toInteger?_of_denotes denotes
    rw [if_pos (Nat.lt_of_not_le small)] at given
    exact toInt_clampWord_ne notFits ((agrees _ given).eq_of_denotes denotes)
  · intro fits n given
    have exact_of_denotes {m : Int} (denotes : v.Denotes m) : m = n.toInt := by
      rw [toInteger?_of_denotes denotes] at given
      split at given
      · next small =>
        have fit := (fits m denotes).resolve_right (Nat.not_le.mpr small)
        rw [← Option.some_inj.mp given, Decimal.clampWord_of_fits fit,
          Decimal.toInt_ofInt_of_fits fit]
      · cases given
    cases v with
    | integer m => exact congrArg Int64.toInt (Option.some_inj.mp given)
    | float x =>
      obtain ⟨m, whole, -⟩ := Option.map_eq_some_iff.mp given
      have denotes : (float x).Denotes m := Decimal.whole?_eq_some_iff.mp whole
      exact exact_of_denotes denotes ▸ denotes
    | string s => exact fun m spelled => exact_of_denotes spelled
    | null | boolean | list => cases given

/-! ## Conversions -/

private theorem asInteger_eq_ok_iff {n : Int64} : v.asInteger = .ok n ↔ v.toInteger? = some n := by
  rw [asInteger]
  cases v.toInteger? <;> simp

private theorem asInteger_of_none (h : v.toInteger? = none) :
    v.asInteger = .error (.conversion v.shown v.typeName "Long") := by
  rw [asInteger, h]
  rfl

/-- The body as an integer is the integer that it is as the result of an expression. -/
theorem call_bodyAs_integer {s : Surroundings} (body : s.exchange.body = v)
    (given : v.isNull = false) :
    Function.call s (.bodyAs .integer) = v.asInteger.map integer := by
  have reads : v.convert? .integer = v.toInteger?.map integer := by
    cases v with
    | null => cases given
    | boolean | integer | float | string | list => rfl
  rw [Function.call, body, convert, reads, asInteger]
  cases v.toInteger? <;> rfl

/-- A value is converted to a 64-bit integer, as a result and as a body, without a change of its
number exactly when no number that it denotes is one that does not fit and still has a finite
double. A number that fits is always given, and a value that gives no integer is refused as what it
is. -/
theorem asInteger_exact_iff (v : Value) :
    ((∀ n, v.asInteger = .ok n → v.Agrees n.toInt) ↔
      ∀ n, v.Denotes n → Fits n ∨ reach ≤ n.natAbs) ∧
    (∀ n, v.Denotes n → Fits n → v.asInteger = .ok (Int64.ofInt n)) ∧
    (∀ n, v.asInteger = .ok n ↔ v.toInteger? = some n) ∧
    (v.toInteger? = none → v.asInteger = .error (.conversion v.shown v.typeName "Long")) ∧
    (∀ s : Surroundings, s.exchange.body = v → v.isNull = false →
      Function.call s (.bodyAs .integer) = v.asInteger.map integer) := by
  refine ⟨?_, ?_, fun n => asInteger_eq_ok_iff, asInteger_of_none, fun s => call_bodyAs_integer⟩
  · simp only [asInteger_eq_ok_iff]
    exact toInteger?_agrees_iff
  · intro n denotes fits
    rw [asInteger_eq_ok_iff, toInteger?_of_denotes denotes,
      if_pos (Decimal.two_pow_lt_reach_of_fits fits), Decimal.clampWord_of_fits fits]

/-- The first number beyond the 64-bit integers is given as the last one of them. -/
theorem asInteger_beyond :
    (string "9223372036854775808").asInteger = .ok 9223372036854775807 ∧
      ¬(string "9223372036854775808").Agrees (9223372036854775807 : Int64).toInt := by
  have spelled : (string "9223372036854775808").Denotes 9223372036854775808 :=
    Decimal.integer?_eq_some_iff.mp (by decide +kernel)
  refine ⟨asInteger_eq_ok_iff.mpr (by decide +kernel), fun agrees => ?_⟩
  exact absurd (agrees.eq_of_denotes spelled) (by decide)

end Value

end MessageExpr
