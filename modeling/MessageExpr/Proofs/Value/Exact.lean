import MessageExpr.Proofs.Decimal.Nearest
import MessageExpr.Proofs.Decimal.ReadBack
import MessageExpr.Proofs.Value.Listed

/-!
# Integers next to the texts of integers

An integer is compared with a text by their doubles, and the doubles of two integers are equal when
the integers round to the same 53 bits. So the comparison is the one of the integers exactly when
rounding takes no two of the integers at hand together, as it takes none below `2 ^ 53`.

## Main results

* `Value.equals_integerShown`, `Value.order?_integerShown`, `Value.isIn_intercalate`,
  `Value.inRange?_integerShown` — the comparisons in terms of the rounded integers
* `Value.exact_iff` — when they are the comparisons of the integers themselves
-/

namespace MessageExpr.Value

open Decimal (rounded nearest integerText)

variable {n m low high : Int64} {others : List Int64}

/-! ## The doubles of integers and of their texts -/

theorem natAbs_toInt_lt (n : Int64) : n.toInt.natAbs < 2 ^ 64 := by
  have lower := n.le_toInt
  have upper := n.toInt_lt
  omega

theorem toList_integerShown (n : Int64) : (integerShown n).toList = integerText n.toInt :=
  String.toList_ofList

private theorem float?_integerText_toInt (n : Int64) :
    Decimal.float? (integerText n.toInt) = some (nearest n.toInt) :=
  Decimal.float?_integerText (Nat.lt_trans (natAbs_toInt_lt n) (by decide +kernel))

theorem toFloat?_integerShown (n : Int64) :
    (string (integerShown n)).toFloat? = some (integerToFloat n) := by
  rw [toFloat?, toList_integerShown, Decimal.trim_integerText, float?_integerText_toInt,
    integerToFloat]

/-! ## Equality and order -/

theorem equals_integerShown (n m : Int64) :
    equals (integer n) (string (integerShown m)) = decide (rounded n.toInt = rounded m.toInt) := by
  have numbers : equals (integer n) (string (integerShown m)) =
      sameNumber (integer n) (string (integerShown m)) := by
    simp only [equals]
  rw [numbers, sameNumber, toFloat?_integerShown]
  exact Decimal.nearest_beq_nearest (natAbs_toInt_lt n) (natAbs_toInt_lt m)

private theorem equals_exact_iff :
    equals (integer n) (string (integerShown m)) = decide (n = m) ↔
      (rounded n.toInt = rounded m.toInt → n = m) := by
  rw [equals_integerShown, decide_eq_decide]
  exact ⟨Iff.mp, fun kept => ⟨kept, fun same => by rw [same]⟩⟩

theorem order?_integerShown (n m : Int64) :
    order? (integer n) (string (integerShown m)) =
      some (compare (rounded n.toInt) (rounded m.toInt)) := by
  have bound := natAbs_toInt_lt n
  have bound' := natAbs_toInt_lt m
  have numbers : order? (integer n) (string (integerShown m)) =
      floatOrder? (nearest n.toInt) (nearest m.toInt) := by
    rw [order?]
    · simp only [toFloat?_integerShown]
      rfl
    · intro _ _ _ same
      cases same
  rw [numbers, floatOrder?]
  simp only [Decimal.nearest_lt_nearest_iff bound bound', Decimal.nearest_beq_nearest bound bound',
    Decimal.nearest_lt_nearest_iff bound' bound, decide_eq_true_eq]
  rcases Int.lt_trichotomy (rounded n.toInt) (rounded m.toInt) with less | same | more
  · rw [if_pos less, Int.compare_eq_lt.mpr less]
  · rw [if_neg (by omega), if_pos same, Int.compare_eq_eq.mpr same]
  · rw [if_neg (by omega), if_neg (by omega), if_pos more, Int.compare_eq_gt.mpr more]

/-- Rounding keeps the order of two integers as long as it does not take them together. -/
theorem compare_rounded_iff {a b : Int} :
    compare (rounded a) (rounded b) = compare a b ↔ (rounded a = rounded b → a = b) := by
  rcases Int.lt_trichotomy a b with less | rfl | more
  · have mono := Decimal.rounded_mono (Int.le_of_lt less)
    rw [Int.compare_eq_lt.mpr less, Int.compare_eq_lt]
    omega
  · simp
  · have mono := Decimal.rounded_mono (Int.le_of_lt more)
    rw [Int.compare_eq_gt.mpr more, Int.compare_eq_gt]
    omega

private theorem order?_exact_iff :
    order? (integer n) (string (integerShown m)) = some (compare n.toInt m.toInt) ↔
      (rounded n.toInt = rounded m.toInt → n = m) := by
  rw [order?_integerShown, Option.some_inj, compare_rounded_iff, Int64.toInt_inj]

/-! ## Items of a list -/

private theorem commaParts_integers (nonempty : others ≠ []) :
    commaParts (String.intercalate "," (others.map integerShown)) = others.map integerShown := by
  rw [commaParts_intercalate (by simpa using nonempty), List.map_map]
  · refine List.map_congr_left fun k _ => ?_
    rw [Function.comp_apply, trimmed, toList_integerShown, Decimal.trim_integerText, integerShown]
  · intro part mem
    obtain ⟨k, -, rfl⟩ := List.mem_map.mp mem
    rw [toList_integerShown]
    exact Decimal.not_mem_integerText (by decide) (by decide)

private theorem equals_integer_empty (n : Int64) : equals (integer n) (string "") = false := by
  have numbers : equals (integer n) (string "") = sameNumber (integer n) (string "") := by
    simp only [equals]
  have text : (string "").toFloat? = none := by decide +kernel
  rw [numbers, sameNumber, text]
  rfl

theorem isIn_intercalate (n : Int64) (others : List Int64) :
    isIn (integer n) (string (String.intercalate "," (others.map integerShown))) =
      others.any fun k => decide (rounded n.toInt = rounded k.toInt) := by
  have parts (s : String) : isIn (integer n) (string s) =
      (commaParts s).any fun part => equals (integer n) (string part) := rfl
  rw [parts]
  cases others with
  | nil =>
    -- The empty text has one part, which is no number.
    have one : commaParts "" = [""] := by decide +kernel
    rw [List.map_nil, String.intercalate_nil, one, List.any_cons, equals_integer_empty]
    rfl
  | cons k others =>
    rw [commaParts_integers (List.cons_ne_nil k others), List.any_map]
    simp only [Function.comp_def, equals_integerShown]

private theorem isIn_exact_iff :
    isIn (integer n) (string (String.intercalate "," (others.map integerShown))) =
        decide (n ∈ others) ↔
      ∀ k ∈ others, rounded n.toInt = rounded k.toInt → n ∈ others := by
  rw [isIn_intercalate, Bool.eq_iff_iff, List.any_eq_true, decide_eq_true_iff]
  constructor
  · intro item k mem same
    exact item.mp ⟨k, mem, decide_eq_true same⟩
  · intro kept
    constructor
    · rintro ⟨k, mem, same⟩
      exact kept k mem (of_decide_eq_true same)
    · exact fun mem => ⟨n, mem, decide_eq_true rfl⟩

/-! ## Ranges -/

private theorem splitOnce?_points {first last : List Char} (h : '.' ∉ first) :
    Text.splitOnce? ['.', '.'] (first ++ '.' :: '.' :: last) = some (first, last) := by
  induction first with
  | nil => rfl
  | cons c first ih =>
    rw [List.mem_cons, not_or] at h
    have other : ['.', '.'].isPrefixOf (c :: (first ++ '.' :: '.' :: last)) = false := by
      rw [List.isPrefixOf_cons_cons, beq_false_of_ne h.1, Bool.false_and]
    rw [List.cons_append, Text.splitOnce?, other, ih h.2]
    rfl

private theorem rangeEnds?_integerShown (low high : Int64) :
    rangeEnds? (integerShown low ++ ".." ++ integerShown high) =
      some (nearest low.toInt, nearest high.toInt) := by
  have text : (integerShown low ++ ".." ++ integerShown high).toList =
      integerText low.toInt ++ '.' :: '.' :: integerText high.toInt := by
    rw [String.toList_append, String.toList_append, List.append_assoc, toList_integerShown,
      toList_integerShown]
    rfl
  have noPoint : '.' ∉ integerText low.toInt :=
    Decimal.not_mem_integerText (by decide) (by decide)
  rw [rangeEnds?, text, splitOnce?_points noPoint]
  simp only [Option.bind_eq_bind, Option.bind_some, Decimal.trim_integerText,
    float?_integerText_toInt]
  rfl

theorem inRange?_integerShown (n low high : Int64) :
    inRange? (integer n) (string (integerShown low ++ ".." ++ integerShown high)) =
      some (decide (rounded low.toInt ≤ rounded n.toInt ∧
        rounded n.toInt ≤ rounded high.toInt)) := by
  rw [inRange?, text, shown, rangeEnds?_integerShown, Option.map_some]
  simp only [toFloat?, Option.any_some, integerToFloat, ← Bool.decide_and,
    Decimal.nearest_le_nearest_iff (natAbs_toInt_lt _) (natAbs_toInt_lt _)]

private theorem inRange?_exact_iff :
    inRange? (integer n) (string (integerShown low ++ ".." ++ integerShown high)) =
        some (decide (low ≤ n ∧ n ≤ high)) ↔
      (rounded low.toInt ≤ rounded n.toInt → rounded n.toInt ≤ rounded high.toInt →
        low ≤ n ∧ n ≤ high) := by
  rw [inRange?_integerShown, Option.some_inj, decide_eq_decide]
  constructor
  · exact fun inside lower upper => inside.mp ⟨lower, upper⟩
  · intro kept
    constructor
    · exact fun inside => kept inside.1 inside.2
    · rintro ⟨lower, upper⟩
      exact ⟨Decimal.rounded_mono (Int64.le_iff_toInt_le.mp lower),
        Decimal.rounded_mono (Int64.le_iff_toInt_le.mp upper)⟩

/-! ## Exactness -/

/-- An integer is equal to the text of an integer, stands in its order to it, is one of the integers
in a list and lies in a range of integers as the integers themselves say, exactly when rounding to
53 bits takes it together with none that says otherwise. Below `2 ^ 53` rounding takes it together
with no other integer at all. -/
theorem exact_iff (n m low high : Int64) (others : List Int64) :
    (equals (integer n) (string (integerShown m)) = decide (n = m) ↔
      (rounded n.toInt = rounded m.toInt → n = m)) ∧
    (order? (integer n) (string (integerShown m)) = some (compare n.toInt m.toInt) ↔
      (rounded n.toInt = rounded m.toInt → n = m)) ∧
    (isIn (integer n) (string (String.intercalate "," (others.map integerShown))) =
        decide (n ∈ others) ↔
      ∀ k ∈ others, rounded n.toInt = rounded k.toInt → n ∈ others) ∧
    (inRange? (integer n) (string (integerShown low ++ ".." ++ integerShown high)) =
        some (decide (low ≤ n ∧ n ≤ high)) ↔
      (rounded low.toInt ≤ rounded n.toInt → rounded n.toInt ≤ rounded high.toInt →
        low ≤ n ∧ n ≤ high)) ∧
    (n.toInt.natAbs < 2 ^ 53 → rounded n.toInt = rounded m.toInt → n = m) :=
  ⟨equals_exact_iff, order?_exact_iff, isIn_exact_iff, inRange?_exact_iff,
    fun small same => Int64.toInt_inj.mp (Decimal.eq_of_rounded_eq small same)⟩

/-- The two integers after `2 ^ 53 - 1` are rounded to the same double. -/
theorem equals_neighbour :
    equals (integer 9007199254740993) (string (integerShown 9007199254740992)) = true ∧
      (9007199254740993 : Int64) ≠ 9007199254740992 := by
  decide +kernel

end MessageExpr.Value
