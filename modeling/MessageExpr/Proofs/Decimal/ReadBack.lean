import Mathlib.Data.Nat.Digits.Defs
import MessageExpr.Proofs.Decimal.Shown
import MessageExpr.Proofs.Text.Trim

/-!
# Reading integers as doubles

The decimal text of an integer holds digits and minus signs only, so it has no white space to cut
off, and reading it as a double gives the double nearest to the integer.

## Main results

* `Decimal.trim_integerText` — the text of an integer has no white space at its ends
* `Decimal.float?_integerText` — it is read as the double nearest to the integer
-/

namespace MessageExpr.Decimal

variable {c : Char}

/-! ## The characters of a numeral -/

theorem isDigit_or_minus_of_mem {n : Int} (h : c ∈ integerText n) :
    c.isDigit = true ∨ c = '-' := by
  cases n with
  | ofNat n => exact .inl (isDigit_of_mem_naturalText h)
  | negSucc n =>
    rcases List.mem_cons.mp h with rfl | h
    · exact .inr rfl
    · exact .inl (isDigit_of_mem_naturalText h)

theorem not_mem_integerText {n : Int} (digit : c.isDigit = false) (minus : c ≠ '-') :
    c ∉ integerText n := by
  intro mem
  rcases isDigit_or_minus_of_mem mem with h | h
  · rw [digit] at h
    cases h
  · exact minus h

private theorem toNat_of_isDigit (h : c.isDigit = true) : 48 ≤ c.toNat ∧ c.toNat ≤ 57 := by
  rw [Char.isDigit, Bool.and_eq_true, decide_eq_true_iff, decide_eq_true_iff] at h
  exact h

private theorem isBlank_of_isDigit (h : c.isDigit = true) : Unicode.isBlank c = false := by
  obtain ⟨lower, upper⟩ := toNat_of_isDigit h
  rw [Unicode.isBlank, Unicode.blankRanges]
  simp only [Unicode.inRanges]
  rw [if_neg (by omega), if_neg (by omega), if_neg (by omega), if_neg (by omega),
    if_pos (by omega)]

theorem trim_integerText (n : Int) : Text.trim (integerText n) = integerText n := by
  have full : ∀ c ∈ integerText n, Unicode.isBlank c = false := by
    intro c mem
    rcases isDigit_or_minus_of_mem mem with digit | rfl
    · exact isBlank_of_isDigit digit
    · decide
  exact Text.strip_eq_self (fun c first => full c (List.mem_of_head? first))
    (fun c last => full c (List.mem_of_getLast? last))

/-! ## The double of a numeral -/

theorem natural_ne_nil (n : Nat) : naturalText n ≠ [] := Nat.toDigits_ne_nil

theorem numeral?_digits {t : List Char} (nonempty : t ≠ []) (digits : ∀ c ∈ t, c.isDigit = true) :
    numeral? t = some ⟨Nat.ofDigitChars 10 t 0, 0⟩ := by
  have whole : t.takeWhile Char.isDigit = t := List.takeWhile_eq_self_iff.mpr digits
  have rest : t.dropWhile Char.isDigit = [] := List.dropWhile_eq_nil_iff.mpr digits
  have some : t.isEmpty = false := List.isEmpty_eq_false_iff.mpr nonempty
  simp [numeral?, whole, rest, some, exponent?, Numeral.ofParts]

private theorem numeral?_naturalText (n : Nat) : numeral? (naturalText n) = some ⟨n, 0⟩ := by
  have value : Nat.ofDigitChars 10 (naturalText n) 0 = n :=
    Nat.ofDigitChars_toDigits (by decide) (by decide)
  rw [numeral?_digits (natural_ne_nil n) fun _ => isDigit_of_mem_naturalText, value]

/-- An integer in decimal form stands for the double nearest to it. -/
theorem toFloat_ofNat {n : Nat} (h : n < 10 ^ 310) :
    Numeral.toFloat ⟨n, 0⟩ = nearest n := by
  have length : (naturalText n).length ≤ 310 := Nat.toDigits_length 10 n 310 (by decide) h
  rw [Numeral.toFloat]
  dsimp only
  -- The text is too short for what is beyond the doubles on either side.
  rcases Nat.eq_zero_or_pos n with rfl | pos
  · rw [if_pos rfl]
    decide +kernel
  · rw [if_neg (by omega), if_neg (by omega), if_neg (by omega)]
    rfl

/-- Digits are none of the words for what is not finite. -/
theorem asciiLower_digits_ne {word : String} {t : List Char} (digits : ∀ c ∈ t, c.isDigit = true)
    (h : 'n' ∈ word.toList) : (String.ofList (Text.asciiLower t) == word) = false := by
  rw [beq_eq_false_iff_ne]
  rintro rfl
  rw [String.toList_ofList, Text.asciiLower, List.mem_map] at h
  obtain ⟨c, mem, same⟩ := h
  obtain ⟨-, upper⟩ := toNat_of_isDigit (digits c mem)
  have noCapital : ¬(c.val ≥ 'A'.val ∧ c.val ≤ 'Z'.val) := by
    intro capital
    have lower : 65 ≤ c.toNat := capital.1
    omega
  have kept : c.toLower = c := dif_neg noCapital
  rw [kept] at same
  subst same
  revert upper
  decide

private theorem asciiLower_natural_ne {word : String} (n : Nat) (h : 'n' ∈ word.toList) :
    (String.ofList (Text.asciiLower (naturalText n)) == word) = false :=
  asciiLower_digits_ne (fun _ => isDigit_of_mem_naturalText) h

theorem float?_integerText {n : Int} (h : n.natAbs < 10 ^ 310) :
    float? (integerText n) = some (nearest n) := by
  cases n with
  | ofNat n =>
    simp only [float?, integerText, splitSign_naturalText]
    rw [asciiLower_natural_ne n (by decide), asciiLower_natural_ne n (by decide),
      asciiLower_natural_ne n (by decide), numeral?_naturalText]
    exact congrArg some (toFloat_ofNat h)
  | negSucc n =>
    simp only [float?, integerText, splitSign]
    rw [asciiLower_natural_ne _ (by decide), asciiLower_natural_ne _ (by decide),
      asciiLower_natural_ne _ (by decide), numeral?_naturalText]
    exact congrArg (fun x => some (-x)) (toFloat_ofNat h)

end MessageExpr.Decimal
