import MessageExpr.Proofs.Decimal.Step
import MessageExpr.Proofs.Value.Whole

/-!
# Steps of one

A number goes up or down by exactly one as long as it and its neighbour are 64-bit integers, and by
one as a double elsewhere. For a text of digits beyond the 64-bit integers this does not hold: the
step starts from the nearest 64-bit integer instead. Only a step away from zero from a number that
is rounded to the power of two next to the 64-bit integers ends where it should.

## Main definitions

* `UnaryOperator.stepped` — a number moved by the step of an operator

## Main results

* `UnaryOperator.apply_eq_stepped_iff` — the numbers that are moved by one
-/

namespace MessageExpr

open Decimal (Fits reach nearest roundedNatural)

namespace UnaryOperator

/-- A number moved by the step of an operator: a 64-bit integer if the number and what it is moved
to are, and else the double nearest to it moved by one. -/
def stepped (o : UnaryOperator) (n : Int) : Value :=
  if Fits n ∧ Fits (n + o.step) then .integer (Int64.ofInt (n + o.step))
  else .float (nearest n + nearest o.step)

/-- Whether a number is beyond the 64-bit integers in the direction of an operator, and so near to
them that its double is the power of two next to them. -/
def IsNext : UnaryOperator → Int → Prop
  | increment, n => 2 ^ 63 ≤ n ∧ n ≤ 2 ^ 63 + 1024
  | decrement, n => -(2 ^ 63 + 1024) ≤ n ∧ n < -2 ^ 63

instance (o : UnaryOperator) (n : Int) : Decidable (o.IsNext n) :=
  match o with
  | increment => inferInstanceAs (Decidable (2 ^ 63 ≤ n ∧ n ≤ 2 ^ 63 + 1024))
  | decrement => inferInstanceAs (Decidable (-(2 ^ 63 + 1024) ≤ n ∧ n < -2 ^ 63))

end UnaryOperator

namespace Value

variable {v : Value} {n step : Int}

/-! ## Where a step starts -/

/-- A step starts from the 64-bit integer that a value gives. -/
theorem shift?_of_toInteger? {k : Int64} (number : ∀ x, v ≠ .float x)
    (given : v.toInteger? = some k) (o : UnaryOperator) :
    v.shift? o.step = some (o.stepped k.toInt) := by
  rw [shift?]
  · rw [given, UnaryOperator.stepped]
    dsimp only
    by_cases next : Fits (k.toInt + o.step)
    · rw [Decimal.toWord?_of_fits next, if_pos ⟨Decimal.fits_toInt k, next⟩]
    · rw [Decimal.toWord?_of_not_fits next, if_neg fun both => next both.2, integerToFloat]
  · exact number

private theorem shift?_of_fits (denotes : v.Denotes n) (number : ∀ x, v ≠ .float x) (fits : Fits n)
    (o : UnaryOperator) : v.shift? o.step = some (o.stepped n) := by
  have given : v.toInteger? = some (Int64.ofInt n) := by
    rw [toInteger?_of_denotes denotes, if_pos (Decimal.two_pow_lt_reach_of_fits fits),
      Decimal.clampWord_of_fits fits]
  rw [shift?_of_toInteger? number given, Decimal.toInt_ofInt_of_fits fits]

/-- A number beyond the doubles moves as an infinity. -/
theorem shift?_of_reach_le (denotes : v.Denotes n) (number : ∀ x, v ≠ .float x)
    (large : reach ≤ n.natAbs) (o : UnaryOperator) : v.shift? o.step = some (o.stepped n) := by
  have notFits : ¬Fits n := fun fits =>
    Nat.not_lt.mpr large (Decimal.two_pow_lt_reach_of_fits fits)
  have given : v.toInteger? = none := by
    rw [toInteger?_of_denotes denotes, if_neg (Nat.not_lt.mpr large)]
  have double : v.toFloat? = some (nearest n) := by
    cases v with
    | integer m => exact absurd (denotes ▸ Decimal.fits_toInt m) notFits
    | float x => exact absurd rfl (number x)
    | string s =>
      refine Decimal.float?_of_spelled denotes ?_
      rintro rfl
      exact notFits (by decide)
    | null | boolean | list => exact denotes.elim
  rw [shift?]
  · rw [given, double, UnaryOperator.stepped, if_neg fun both => notFits both.1, Option.map_some]
  · exact number

/-! ## Steps from the ends of the 64-bit integers -/

private theorem stepped_of_not_fits (o : UnaryOperator) (notFits : ¬Fits n) :
    o.stepped n = .float (nearest n + nearest o.step) :=
  if_neg fun both => notFits both.1

private theorem float_inj {x y : Float} : Value.float x = .float y ↔ x = y :=
  ⟨fun same => by injection same, congrArg Value.float⟩

/-- The step from the greatest 64-bit integer is the one from a larger number only next to it. -/
theorem stepped_greatest_eq_iff (o : UnaryOperator) (large : 2 ^ 63 ≤ n)
    (small : n.natAbs < reach) :
    o.stepped (2 ^ 63 - 1) = o.stepped n ↔ o.IsNext n := by
  obtain ⟨m, rfl⟩ := Int.eq_ofNat_of_zero_le (Int.le_trans (by decide) large)
  rw [stepped_of_not_fits o (Decimal.not_fits_iff.mpr (.inl large))]
  cases o with
  | increment =>
    have start : UnaryOperator.increment.stepped (2 ^ 63 - 1) =
        .float (nearest ((2 ^ 63 - 1 : Nat) : Int) + nearest 1) := if_neg (by decide)
    have ends := Decimal.nearest_add_one_eq_iff_le .positive (n := 2 ^ 63 - 1) (m := m)
      (by decide +kernel) (by decide) (by decide +kernel) (by omega) small
    rw [start, float_inj, UnaryOperator.IsNext]
    refine Iff.trans ends ?_
    omega
  | decrement =>
    have start : UnaryOperator.decrement.stepped (2 ^ 63 - 1) =
        .integer (Int64.ofInt (2 ^ 63 - 1 + -1)) := if_pos (by decide)
    rw [start, UnaryOperator.IsNext]
    refine iff_of_false (fun same => by cases same) ?_
    omega

/-- The step from the least 64-bit integer is the one from a smaller number only next to it. -/
theorem stepped_least_eq_iff (o : UnaryOperator) (large : n < -2 ^ 63) (small : n.natAbs < reach) :
    o.stepped (-2 ^ 63) = o.stepped n ↔ o.IsNext n := by
  obtain ⟨m, rfl⟩ : ∃ m : Nat, n = -m := ⟨n.natAbs, by omega⟩
  rw [stepped_of_not_fits o (Decimal.not_fits_iff.mpr (.inr large))]
  cases o with
  | increment =>
    have start : UnaryOperator.increment.stepped (-2 ^ 63) =
        .integer (Int64.ofInt (-2 ^ 63 + 1)) := if_pos (by decide)
    rw [start, UnaryOperator.IsNext]
    refine iff_of_false (fun same => by cases same) ?_
    omega
  | decrement =>
    have start : UnaryOperator.decrement.stepped (-2 ^ 63) =
        .float (nearest (-((2 ^ 63 : Nat) : Int)) + nearest (-1)) := if_neg (by decide)
    have ends := Decimal.nearest_add_one_eq_iff_le .negative (n := 2 ^ 63) (m := m)
      (by decide +kernel) (by decide) (by decide +kernel) (by omega) (by omega)
    rw [start, float_inj, UnaryOperator.IsNext]
    refine Iff.trans ends ?_
    omega

end Value

namespace UnaryOperator

open Value

variable {v : Value} {n : Int}

/-- An operator moves every integer and every text of digits, and it moves the number that it
denotes by one: always inside the 64-bit integers and beyond the doubles, and between them only next
to the 64-bit integers and away from them. -/
theorem apply_eq_stepped_iff (o : UnaryOperator) (denotes : v.Denotes n)
    (number : ∀ x, v ≠ .float x) :
    ∃ w, o.apply v = .ok w ∧
      (w = o.stepped n ↔ Fits n ∨ o.IsNext n ∨ reach ≤ n.natAbs) := by
  have moves {w : Value} (shifted : v.shift? o.step = some w) : o.apply v = .ok w := by
    rw [apply, shifted]
  by_cases fits : Fits n
  · exact ⟨_, moves (shift?_of_fits denotes number fits o), iff_of_true rfl (.inl fits)⟩
  by_cases large : reach ≤ n.natAbs
  · exact ⟨_, moves (shift?_of_reach_le denotes number large o),
      iff_of_true rfl (.inr (.inr large))⟩
  have small := Nat.lt_of_not_le large
  have given := toInteger?_of_denotes denotes
  rw [if_pos small] at given
  refine ⟨_, moves (shift?_of_toInteger? number given o), ?_⟩
  rw [or_iff_right fits, or_iff_left large]
  rcases Decimal.not_fits_iff.mp fits with above | below
  · rw [Decimal.clampWord_of_ge (by omega)]
    exact stepped_greatest_eq_iff o above small
  · rw [Decimal.clampWord_of_le (by omega)]
    exact stepped_least_eq_iff o below small

/-- A text with a sign and leading zeros is moved by one like any other. -/
theorem apply_eq_stepped_iff_zeros :
    ∃ w, decrement.apply (.string " -0009223372036854775808 ") = .ok w ∧
      w = decrement.stepped (-9223372036854775808) := by
  obtain ⟨w, given, same⟩ := apply_eq_stepped_iff decrement (n := -9223372036854775808)
    (v := .string " -0009223372036854775808 ")
    (Decimal.integer?_eq_some_iff.mp (by decide +kernel)) (fun _ => by rintro ⟨⟩)
  exact ⟨w, given, same.mpr (by decide)⟩

/-- A large number is taken down to a 64-bit integer. -/
theorem apply_large :
    decrement.apply (.string "100000000000000000000") = .ok (.integer 9223372036854775806) ∧
      (Value.string "100000000000000000000").Denotes (10 ^ 20) ∧
      decrement.stepped (10 ^ 20) = .float (nearest (10 ^ 20) + nearest (-1)) := by
  refine ⟨?_, Decimal.integer?_eq_some_iff.mp (by decide +kernel), if_neg (by decide)⟩
  have given : (Value.string "100000000000000000000").toInteger? = some 9223372036854775807 := by
    decide +kernel
  rw [apply, shift?_of_toInteger? (fun _ => by rintro ⟨⟩) given]
  exact congrArg Except.ok (if_pos (by decide))

end UnaryOperator

end MessageExpr
