import MessageExpr.Json.Read
import MessageExpr.Proofs.Decimal.ReadBack

/-!
# Strings and integers of JSON text

A string is written between quotes, with an escape for every character that may not stand there, and
an integer with its decimal digits. Reading takes either off the start of a text again, whatever
follows it: a string ends at its quote, and the digits of an integer at a separator or at the end of
the text.

## Main definitions

* `RawJson.IsBoundary` — what may follow a value in JSON text
* `RawJson.points`, `RawNumber.ofInt` — the code points of a string and the numeral of an integer

## Main results

* `RawJson.units?_flatMap`, `RawJson.number?_integerText` — strings and integers are read as such
* `RawJson.text?_points`, `RawJson.checkNumber?_ofInt` — and they denote what was written
-/

namespace MessageExpr

/-- The numeral of an integer. -/
def RawNumber.ofInt (n : Int) : RawNumber := ⟨decide (n < 0), ⟨n.natAbs, 0⟩, true⟩

namespace RawJson

open Decimal (integerText naturalText isDigit_of_mem_naturalText)

variable {c : Char} {rest after : List Char} {units : List Nat} {n : Nat}

/-! ## Strings -/

/-- The code points of a string. -/
def points (s : String) : List Nat := s.toList.map Char.toNat

private theorem units?_escape (letter : escape? c = some n)
    (tail : units? rest = some (units, after)) :
    units? ('\\' :: c :: rest) = some (n :: units, after) := by
  have other : c ≠ 'u' := by
    rintro rfl
    cases letter
  rw [units?, letter, tail]
  · rfl
  · exact fun _ _ _ _ _ same => absurd same other

private theorem units?_hex {a b c d : Char} (unit : hexUnit? a b c d = some n)
    (tail : units? rest = some (units, after)) :
    units? ('\\' :: 'u' :: a :: b :: c :: d :: rest) = some (n :: units, after) := by
  rw [units?, unit, tail]
  rfl

private theorem units?_plain (printed : 0x20 ≤ c.toNat) (quote : c ≠ '"') (backslash : c ≠ '\\')
    (tail : units? rest = some (units, after)) :
    units? (c :: rest) = some (c.toNat :: units, after) := by
  have plain : (decide (c.toNat < 0x20) || c == '\\') = false := by
    rw [decide_eq_false (Nat.not_lt.mpr printed), Bool.false_or, beq_eq_false_iff_ne]
    exact backslash
  rw [units?, plain, tail]
  · rfl
  · exact quote
  · exact fun _ _ _ _ _ same => absurd same backslash
  · exact fun _ _ same => absurd same backslash

private theorem hexDigit?_digitChar : ∀ n < 16, hexDigit? (Nat.digitChar n) = some n := by decide

/-- Two hexadecimal digits after two zeros. -/
theorem hexUnit?_digitChar (small : n < 0x100) :
    hexUnit? '0' '0' (Nat.digitChar (n / 16)) (Nat.digitChar (n % 16)) = some n := by
  have zero : hexDigit? '0' = some 0 := rfl
  have high := hexDigit?_digitChar (n / 16) (by omega)
  have low := hexDigit?_digitChar (n % 16) (by omega)
  have value : ((0 * 16 + 0) * 16 + n / 16) * 16 + n % 16 = n := by omega
  simp only [hexUnit?, zero, high, low, Option.bind_eq_bind, Option.bind_some, value,
    Option.pure_def]

/-- The letter of a control character stands for it. -/
theorem escape?_controlLetter {l : Char} (letter : Json.controlLetter? c = some l) :
    escape? l = some c.toNat := by
  rw [Json.controlLetter?] at letter
  split_ifs at letter with same same same same same <;>
    (cases letter; rw [beq_iff_eq.mp same]; rfl)

/-- A character is read from its text. -/
theorem units?_charText (c : Char) (tail : units? rest = some (units, after)) :
    units? (Json.charText c ++ rest) = some (c.toNat :: units, after) := by
  rw [Json.charText]
  split_ifs with special control
  · rw [Bool.or_eq_true, beq_iff_eq, beq_iff_eq] at special
    rcases special with rfl | rfl
    · exact units?_escape rfl tail
    · exact units?_escape rfl tail
  · split
    · exact units?_escape (escape?_controlLetter ‹_›) tail
    · exact units?_hex (hexUnit?_digitChar (by omega)) tail
  · rw [Bool.or_eq_true, beq_iff_eq, beq_iff_eq, not_or] at special
    exact units?_plain (Nat.not_lt.mp control) special.1 special.2 tail

/-- A string is read up to its quote. -/
theorem units?_flatMap (s rest : List Char) :
    units? (s.flatMap Json.charText ++ '"' :: rest) = some (s.map Char.toNat, rest) := by
  induction s with
  | nil => rw [List.flatMap_nil, List.nil_append, units?, List.map_nil]
  | cons c s ih =>
    rw [List.flatMap_cons, List.append_assoc, List.map_cons]
    exact units?_charText c ih

/-- No character is half of a pair of surrogates. -/
theorem not_surrogate (c : Char) : isHigh c.toNat = false ∧ isLow c.toNat = false := by
  have valid : c.toNat < 0xd800 ∨ 0xdfff < c.toNat ∧ c.toNat < 0x110000 := c.valid
  simp only [isHigh, isLow, Bool.and_eq_false_iff, decide_eq_false_iff_not]
  omega

private theorem joinPairs_of_not_isHigh (single : ∀ n ∈ units, isHigh n = false) :
    joinPairs units = units := by
  fun_induction joinPairs units with
  | case1 high low rest pair ih =>
    rw [single high List.mem_cons_self, Bool.false_and] at pair
    cases pair
  | case2 high low rest pair ih =>
    rw [ih fun n mem => single n (List.mem_cons_of_mem high mem)]
  | case3 => rfl

theorem joinPairs_points (s : String) : joinPairs (points s) = points s := by
  refine joinPairs_of_not_isHigh fun n mem => ?_
  obtain ⟨c, -, rfl⟩ := List.mem_map.mp mem
  exact (not_surrogate c).1

/-- Code points of a string denote the string. -/
theorem text?_points (s : String) : text? (points s) = some s := by
  have single : ((points s).any fun n => isHigh n || isLow n) = false := by
    rw [List.any_eq_false]
    intro n mem
    obtain ⟨c, -, rfl⟩ := List.mem_map.mp mem
    rw [(not_surrogate c).1, (not_surrogate c).2]
    decide
  have chars : (points s).map Char.ofNat = s.toList := by
    rw [points, List.map_map]
    exact List.map_id'' Char.ofNat_toNat _
  rw [text?, single, chars, String.ofList_toList]
  rfl

/-! ## Integers -/

/-- Whether a text may follow a value: it is empty or goes on with a separator. -/
def IsBoundary (rest : List Char) : Prop := ∀ c ∈ rest.head?, c = ',' ∨ c = ']' ∨ c = '\x7d'

theorem isBoundary_nil : IsBoundary [] := by rintro c ⟨⟩

theorem isBoundary_cons (separator : c = ',' ∨ c = ']' ∨ c = '\x7d') (rest : List Char) :
    IsBoundary (c :: rest) := by
  rintro c ⟨⟩
  exact separator

theorem IsBoundary.not_isDigit (boundary : IsBoundary rest) (first : c ∈ rest.head?) :
    c.isDigit = false := by
  rcases boundary c first with rfl | rfl | rfl <;> decide

private theorem takeWhile_isDigit (digits : ∀ c ∈ after, c.isDigit = true)
    (boundary : IsBoundary rest) :
    (after ++ rest).takeWhile Char.isDigit = after ∧
      (after ++ rest).dropWhile Char.isDigit = rest := by
  rw [List.takeWhile_append_of_pos digits, List.dropWhile_append_of_pos digits]
  cases rest with
  | nil => exact ⟨List.append_nil after, rfl⟩
  | cons c rest =>
    have other := boundary.not_isDigit (rfl : (c :: rest).head? = some c)
    rw [List.takeWhile_cons, List.dropWhile_cons, other]
    exact ⟨List.append_nil after, rfl⟩

/-- Only zero is written with a zero first. -/
theorem head?_naturalText (nonzero : n ≠ 0) : (naturalText n).head? ≠ some '0' := by
  induction n using Nat.strongRecOn with
  | ind n ih =>
    rw [naturalText, Nat.toDigits_eq_if (by decide)]
    split_ifs with small
    · have digits : ∀ n < 10, n ≠ 0 → some (Nat.digitChar n) ≠ some '0' := by decide
      exact digits n small nonzero
    · rw [List.head?_append_of_ne_nil _ Nat.toDigits_ne_nil]
      exact ih (n / 10) (by omega) (by omega)

private theorem wholeDigits?_naturalText (n : Nat) (boundary : IsBoundary rest) :
    wholeDigits? (naturalText n ++ rest) = some (naturalText n, rest) := by
  obtain ⟨digits, after⟩ := takeWhile_isDigit
    (fun c => isDigit_of_mem_naturalText (n := n) (c := c)) boundary
  have nonempty : (naturalText n).isEmpty = false :=
    List.isEmpty_eq_false_iff.mpr (Decimal.natural_ne_nil n)
  by_cases zero : n = 0
  · rw [zero]
    rfl
  · rw [wholeDigits?]
    · rw [digits, after, nonempty]
      rfl
    · intro more same
      refine head?_naturalText zero ?_
      rw [← List.head?_append_of_ne_nil _ (Decimal.natural_ne_nil n), same]
      rfl

private theorem fraction?_of_isBoundary (boundary : IsBoundary rest) :
    fraction? rest = some (none, rest) := by
  rw [fraction?]
  rintro more rfl
  simpa using boundary '.' rfl

private theorem exponent?_of_isBoundary (boundary : IsBoundary rest) :
    exponent? rest = some (none, rest) := by
  cases rest with
  | nil => rfl
  | cons c rest =>
    have other : (c == 'e' || c == 'E') = false := by
      rcases boundary c rfl with rfl | rfl | rfl <;> rfl
    rw [exponent?, other]
    rfl

/-- An integer is read up to a separator. -/
theorem number?_integerText (n : Int) (boundary : IsBoundary rest) :
    number? (integerText n ++ rest) = some (.ofInt n, rest) := by
  have value (n : Nat) : Nat.ofDigitChars 10 (naturalText n) 0 = n :=
    Nat.ofDigitChars_toDigits (by decide) (by decide)
  cases n with
  | ofNat n =>
    have sign : ∀ more, naturalText n ++ rest ≠ '-' :: more := by
      intro more same
      have first : '-' ∈ (naturalText n).head? := by
        rw [← List.head?_append_of_ne_nil _ (Decimal.natural_ne_nil n), same]
        rfl
      have digit := isDigit_of_mem_naturalText (List.mem_of_mem_head? first)
      revert digit
      decide
    rw [integerText, number?]
    · simp [wholeDigits?_naturalText _ boundary, fraction?_of_isBoundary boundary,
        exponent?_of_isBoundary boundary, Decimal.Numeral.ofParts, value, RawNumber.ofInt]
    · exact sign
  | negSucc n =>
    simp [number?, integerText, wholeDigits?_naturalText _ boundary,
      fraction?_of_isBoundary boundary, exponent?_of_isBoundary boundary,
      Decimal.Numeral.ofParts, value, RawNumber.ofInt]

/-- The numeral of a 64-bit integer denotes it. -/
theorem checkNumber?_ofInt (n : Int64) :
    checkNumber? (.ofInt n.toInt) = some (.integer n.toInt) := by
  have low := n.le_toInt
  have high := n.toInt_lt
  have signed : (if n.toInt < 0 then -(n.toInt.natAbs : Int) else n.toInt.natAbs) = n.toInt := by
    split_ifs <;> omega
  have least : Int64.minValue.toInt ≤ n.toInt := by
    rw [show Int64.minValue.toInt = -2 ^ 63 by decide]
    exact low
  have below : n.toInt < UInt64.size := by
    rw [UInt64.size]
    omega
  have nonzero : (decide (n.toInt < 0) && n.toInt == 0) = false := by
    rw [Bool.and_eq_false_iff, decide_eq_false_iff_not, beq_eq_false_iff_ne]
    omega
  simp only [checkNumber?, RawNumber.ofInt, decide_eq_true_eq, signed, least, below, nonzero,
    decide_true, Bool.not_false, Bool.and_true, if_true]

end RawJson

end MessageExpr
