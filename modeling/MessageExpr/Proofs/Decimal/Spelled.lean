import MessageExpr.Proofs.Decimal.ReadBack
import MessageExpr.Proofs.Decimal.Reach

/-!
# Runs of digits

An integer may be spelled with any number of leading zeros and with a plus sign, so it has more
texts than the one it is written with. Each of them is read as the integer, and as the double
nearest to it; of a run of digits that is too long for the doubles this is an infinity.

## Main definitions

* `Decimal.Spelled` — an optional sign before a run of decimal digits, and the integer it denotes

## Main results

* `Decimal.integer?_eq_some_iff` — such texts are read as integers, and no others
* `Decimal.float?_of_spelled` — they are read as the nearest double
-/

namespace MessageExpr.Decimal

/-- A nonempty run of decimal digits. -/
def IsDigits (t : List Char) : Prop := t ≠ [] ∧ ∀ c ∈ t, c.isDigit = true

/-- An optional sign before a run of decimal digits denotes the value of the digits with that
sign. -/
inductive Spelled : List Char → Int → Prop
  | plain {digits} : IsDigits digits → Spelled digits (Nat.ofDigitChars 10 digits 0 : Nat)
  | plus {digits} : IsDigits digits → Spelled ('+' :: digits) (Nat.ofDigitChars 10 digits 0 : Nat)
  | minus {digits} : IsDigits digits →
      Spelled ('-' :: digits) (-(Nat.ofDigitChars 10 digits 0 : Nat))

variable {t digits : List Char}

/-! ## Integers -/

private theorem natural?_eq_some_iff {n : Nat} :
    natural? t = some n ↔ IsDigits t ∧ Nat.ofDigitChars 10 t 0 = n := by
  rw [natural?, IsDigits]
  split
  · next h =>
    rw [Bool.or_eq_true, List.isEmpty_iff, Bool.not_eq_true', List.all_eq_false] at h
    simp only [reduceCtorEq, false_iff]
    rintro ⟨⟨some, all⟩, -⟩
    rcases h with none | ⟨c, mem, other⟩
    · exact some none
    · exact other (all c mem)
  · next h =>
    rw [Bool.or_eq_true, not_or, List.isEmpty_iff, Bool.not_eq_true', Bool.not_eq_false,
      List.all_eq_true] at h
    rw [Option.some_inj, and_iff_right h]

/-- Digits start with no sign. -/
theorem splitSign_of_isDigits (h : IsDigits t) : splitSign t = (false, t) := by
  obtain ⟨-, all⟩ := h
  unfold splitSign
  split
  · exact absurd (all '-' (List.mem_cons_self ..)) (by decide)
  · exact absurd (all '+' (List.mem_cons_self ..)) (by decide)
  · rfl

private theorem integer?_eq_map (t : List Char) : integer? t =
    (natural? (splitSign t).2).map fun n : Nat =>
      if (splitSign t).1 then -(n : Int) else n := by
  rw [integer?]
  cases natural? (splitSign t).2 <;> rfl

theorem integer?_eq_some_iff {n : Int} : integer? t = some n ↔ Spelled t n := by
  rw [integer?_eq_map, Option.map_eq_some_iff]
  constructor
  · rintro ⟨k, read, rfl⟩
    obtain ⟨digits, rfl⟩ := natural?_eq_some_iff.mp read
    revert digits
    unfold splitSign
    split
    · exact fun digits => .minus digits
    · exact fun digits => .plus digits
    · exact fun digits => .plain digits
  · intro spelled
    cases spelled with
    | plain digits =>
      rw [splitSign_of_isDigits digits]
      exact ⟨_, natural?_eq_some_iff.mpr ⟨digits, rfl⟩, rfl⟩
    | plus digits => exact ⟨_, natural?_eq_some_iff.mpr ⟨digits, rfl⟩, rfl⟩
    | minus digits => exact ⟨_, natural?_eq_some_iff.mpr ⟨digits, rfl⟩, rfl⟩

/-! ## Doubles -/

private theorem lt_length_of_pow_le {n k : Nat} (h : 10 ^ k ≤ n) : k < (naturalText n).length := by
  have short : n < 10 ^ (naturalText n).length :=
    (Nat.length_toDigits_le_iff (by decide) Nat.length_toDigits_pos).mp (Nat.le_refl _)
  exact (Nat.pow_lt_pow_iff_right (by decide)).mp (Nat.lt_of_le_of_lt h short)

/-- A whole number in decimal form stands for the double nearest to it, however large it is. -/
theorem toFloat_natural (n : Nat) : Numeral.toFloat ⟨n, 0⟩ = nearest n := by
  rcases Nat.lt_or_ge n (10 ^ 310) with short | long
  · exact toFloat_ofNat short
  · have digits : 310 < (naturalText n).length := lt_length_of_pow_le long
    have beyond : reach ≤ 10 ^ 310 := by decide +kernel
    have made : (nearest n).toModel = infinity.toModel :=
      toModel_ofNat_of_reach_le (Nat.le_trans beyond long)
    rw [Numeral.toFloat]
    dsimp only
    rw [if_neg (by omega), if_pos (by omega)]
    exact congrArg Float.ofModel made.symm

/-- The magnitude of digits as a double. -/
theorem magnitude_of_isDigits (h : IsDigits t) :
    (if String.ofList (Text.asciiLower t) == "inf" ||
          String.ofList (Text.asciiLower t) == "infinity"
      then some infinity
      else if String.ofList (Text.asciiLower t) == "nan" then some notANumber
      else (numeral? t).map Numeral.toFloat) = some (nearest (Nat.ofDigitChars 10 t 0 : Nat)) := by
  obtain ⟨nonempty, all⟩ := h
  rw [asciiLower_digits_ne all (by decide), asciiLower_digits_ne all (by decide),
    asciiLower_digits_ne all (by decide), numeral?_digits nonempty all]
  exact congrArg some (toFloat_natural _)

private theorem nearest_neg {n : Nat} (h : n ≠ 0) : nearest (-n) = -nearest n := by
  obtain ⟨k, rfl⟩ := Nat.exists_eq_add_one_of_ne_zero h
  rfl

/-- A spelled integer is read as the double nearest to it. Zero is left out here, a zero with a
minus sign is a double of its own. -/
theorem float?_of_spelled {n : Int} (h : Spelled t n) (nonzero : n ≠ 0) :
    float? t = some (nearest n) := by
  cases h with
  | plain digits =>
    simp only [float?, splitSign_of_isDigits digits]
    rw [magnitude_of_isDigits digits]
    rfl
  | plus digits =>
    simp only [float?, splitSign]
    rw [magnitude_of_isDigits digits]
    rfl
  | minus digits =>
    simp only [float?, splitSign]
    rw [magnitude_of_isDigits digits, nearest_neg (by omega)]
    rfl

end MessageExpr.Decimal
