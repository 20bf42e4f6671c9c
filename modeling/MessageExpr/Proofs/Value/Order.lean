import MessageExpr.Proofs.Value.Equality
import MessageExpr.Proofs.Value.Exact

/-!
# The order of values

Two values are compared as integers, as doubles or as texts, whatever both of them have in common.
Each of these orders is reversed when the values change places, and two values stand in no order
only if one of them is null or is read as a double that is no number. Where an integer is concerned,
being equal and standing in equal order are the same, although equality picks the way to compare by
another rule: what is not read as a number has another text than an integer.

## Main definitions

* `Value.Compared` — the ways in which two values are compared

## Main results

* `Value.compared` — the order of two values is found in one of these ways
* `Value.order?_swap`, `Value.order?_eq_none_iff` — the order from either side, and where there is
  none
* `Value.equals_integer_iff` — equality with an integer is a case of the order
* `Value.order_from_either_side` — what this says of the operators
-/

namespace MessageExpr.Value

/-! ## Ways to compare -/

/-- The ways in which two values are compared, with the order that is found. -/
inductive Compared : Value → Value → Option Ordering → Prop where
  | null {v w} : v = null ∨ w = null → Compared v w none
  | integers {n m} : Compared (integer n) (integer m) (some (compare n.toInt m.toInt))
  | floats {v w x y} : (∀ n m, v = integer n → w ≠ integer m) → v.toFloat? = some x →
      w.toFloat? = some y → Compared v w (floatOrder? x y)
  | texts {v w} : v ≠ null → w ≠ null → v.toFloat? = none ∨ w.toFloat? = none →
      Compared v w (some (compare v.text w.text))

variable {v w : Value} {x y : Float} {o : Option Ordering}

private theorem isNull_eq_false_iff : v.isNull = false ↔ v ≠ null := by
  cases v with
  | null => exact iff_of_false nofun (absurd rfl)
  | _ => exact iff_of_true rfl nofun

theorem order?_null_right (v : Value) : v.order? null = none := by
  cases v <;> rfl

private theorem ne_null_of_toFloat? (h : v.toFloat? = some x) : v ≠ null := by
  rintro rfl
  cases h

/-- Two values that are not null are compared as doubles where they can be, unless both are
integers. -/
theorem order?_of_ne_null (left : v ≠ null) (right : w ≠ null)
    (single : ∀ n m, v = integer n → w ≠ integer m) :
    v.order? w = match v.toFloat?, w.toFloat? with
      | some x, some y => floatOrder? x y
      | _, _ => some (compare v.text w.text) := by
  rw [order?, isNull_eq_false_iff.mpr left, isNull_eq_false_iff.mpr right]
  · rfl
  · exact single

/-- The order of two values is found in one of these ways. -/
theorem compared (v w : Value) : Compared v w (v.order? w) := by
  by_cases left : v = null
  · rw [left]
    exact .null (.inl rfl)
  by_cases right : w = null
  · rw [right, order?_null_right]
    exact .null (.inr rfl)
  by_cases single : ∀ n m, v = integer n → w ≠ integer m
  · rw [order?_of_ne_null left right single]
    cases first : v.toFloat? with
    | none => exact .texts left right (.inl first)
    | some x =>
      cases second : w.toFloat? with
      | none => exact .texts left right (.inr second)
      | some y => exact .floats single first second
  · -- Only two integers are compared without their doubles.
    simp only [not_forall, not_not] at single
    obtain ⟨n, m, rfl, rfl⟩ := single
    exact .integers

/-- What is read as no double is no integer. -/
theorem ne_integer_of_toFloat? (texts : v.toFloat? = none ∨ w.toFloat? = none) (n m : Int64)
    (left : v = integer n) : w ≠ integer m := by
  rintro rfl
  subst left
  rcases texts with none | none <;> cases none

/-- There is no other order than the one that is found in one of these ways. -/
theorem Compared.order?_eq (h : Compared v w o) : v.order? w = o := by
  cases h with
  | null none =>
    rcases none with rfl | rfl
    · rfl
    · exact order?_null_right v
  | integers => rfl
  | floats single left right =>
    rw [order?_of_ne_null (ne_null_of_toFloat? left) (ne_null_of_toFloat? right) single, left,
      right]
  | texts left right texts =>
    rw [order?_of_ne_null left right (ne_integer_of_toFloat? texts)]
    rcases texts with none | none
    · rw [none]
    · rw [none]
      cases v.toFloat? <;> rfl

/-! ## The other side -/

/-- In each of these ways the values may change places. -/
theorem Compared.swap (h : Compared v w o) : Compared w v (o.map Ordering.swap) := by
  cases h with
  | null none => exact .null none.symm
  | @integers n m =>
    rw [Option.map_some, Int.compare_swap]
    exact .integers
  | @floats _ _ x y single left right =>
    rw [← floatOrder?_swap]
    exact .floats (fun m n second first => single n m first second) right left
  | texts left right texts =>
    rw [Option.map_some, ← Std.OrientedCmp.eq_swap]
    exact .texts right left texts.symm

/-- Seen from the other side, two values are in the reverse order. -/
theorem order?_swap (v w : Value) : v.order? w = (w.order? v).map Ordering.swap :=
  (compared w v).swap.order?_eq

/-- Two values stand in no order if one of them is null, or if both are read as doubles and one of
the doubles is no number. -/
theorem order?_eq_none_iff :
    v.order? w = none ↔ v = null ∨ w = null ∨
      ∃ x y, v.toFloat? = some x ∧ w.toFloat? = some y ∧ (x.isNaN = true ∨ y.isNaN = true) := by
  generalize found : v.order? w = o
  cases found ▸ compared v w with
  | null none => exact iff_of_true rfl (none.elim .inl (.inr ∘ .inl))
  | @integers n m =>
    -- The doubles of integers are numbers.
    refine iff_of_false nofun ?_
    rintro (⟨⟨⟩⟩ | ⟨⟨⟩⟩ | ⟨x, y, first, second, notNumber⟩)
    cases first
    cases second
    rw [isNaN_integerToFloat, isNaN_integerToFloat] at notNumber
    exact notNumber.elim nofun nofun
  | @floats _ _ x y single left right =>
    rw [floatOrder?_eq_none_iff, left, right]
    constructor
    · exact fun notNumber => .inr (.inr ⟨x, y, rfl, rfl, notNumber⟩)
    · rintro (none | none | ⟨x', y', first, second, notNumber⟩)
      · exact absurd none (ne_null_of_toFloat? left)
      · exact absurd none (ne_null_of_toFloat? right)
      · cases first
        cases second
        exact notNumber
  | texts left right texts =>
    refine iff_of_false nofun ?_
    rintro (none | none | ⟨x, y, first, second, -⟩)
    · exact left none
    · exact right none
    · rw [first, second] at texts
      exact texts.elim nofun nofun

/-! ## Integers -/

/-- What is not read as a double has another text than an integer. -/
theorem text_ne_integerShown (h : w.toFloat? = none) (n : Int64) : w.text ≠ integerShown n := by
  intro same
  -- The text of an integer has neither the letters of the words nor the bracket of a list.
  have plain {c : Char} (digit : c.isDigit = false) (minus : c ≠ '-') : c ∉ w.text.toList := by
    rw [same, toList_integerShown]
    exact Decimal.not_mem_integerText digit minus
  cases w with
  | integer m => cases h
  | float x => cases h
  | string s =>
    have same : s = integerShown n := same
    rw [same, toFloat?_integerShown] at h
    cases h
  | null => exact plain (c := 'n') rfl (by decide) (by decide)
  | boolean b =>
    refine plain (c := 'e') rfl (by decide) ?_
    cases b <;> decide
  | list items =>
    refine plain (c := '[') rfl (by decide) ?_
    rw [text, shown, String.toList_append, String.toList_append]
    exact List.mem_append_left _ (List.mem_append_left _ (by decide))

/-- What is not read as a double does not stand in equal order to an integer. -/
theorem order?_integer_ne_eq (n : Int64) (h : w.toFloat? = none) :
    (integer n).order? w ≠ some .eq := by
  by_cases nothing : w = null
  · rw [nothing, order?_null_right]
    exact nofun
  · rw [(Compared.texts (v := integer n) nofun nothing (.inr h)).order?_eq]
    intro equal
    have same := Std.LawfulEqCmp.eq_of_compare (Option.some_inj.mp equal)
    exact text_ne_integerShown h n same.symm

/-- What is read as a double is the same number as an integer exactly if their doubles are in equal
order. -/
theorem sameNumber_integer_iff (n : Int64) (single : ∀ m, w ≠ integer m) :
    sameNumber (integer n) w = true ↔ (integer n).order? w = some .eq := by
  cases h : w.toFloat? with
  | none =>
    refine iff_of_false ?_ (order?_integer_ne_eq n h)
    rw [sameNumber, h]
    nofun
  | some y =>
    have order := (Compared.floats (v := integer n) (fun _ m _ => single m) rfl h).order?_eq
    rw [order, ← beq_iff_floatOrder?, sameNumber, h]
    rfl

/-- A value is equal to an integer exactly if it stands in equal order to it. -/
theorem equals_integer_iff (n : Int64) (w : Value) :
    (integer n).equals w = true ↔ (integer n).order? w = some .eq := by
  cases w with
  | integer m =>
    rw [Compared.integers.order?_eq, Option.some_inj, Int.compare_eq_eq, Int64.toInt_inj]
    simp only [equals, beq_iff_eq]
  | null =>
    refine iff_of_false ?_ (order?_integer_ne_eq n rfl)
    simp only [equals, Bool.false_eq_true, not_false_eq_true]
  | boolean b =>
    -- Next to a truth value an integer would have to be one, too.
    refine iff_of_false ?_ (order?_integer_ne_eq n rfl)
    simp only [equals, toBool?]
    nofun
  | float | string | list =>
    simp only [equals]
    exact sameNumber_integer_iff n nofun

/-! ## Operators -/

private theorem apply_swap [PatternLibrary] (v w : Value)
    (known known' : Option PatternLibrary.Compiled) :
    BinaryOperator.greater.apply known v w = BinaryOperator.less.apply known' w v ∧
      BinaryOperator.greaterOrEqual.apply known v w =
        BinaryOperator.lessOrEqual.apply known' w v := by
  simp only [BinaryOperator.apply, order?_swap v w]
  cases w.order? v with
  | none => exact ⟨rfl, rfl⟩
  | some o => cases o <;> exact ⟨rfl, rfl⟩

/-- The order of two values is reversed when they change places, and so are the operators that ask
for it. There is none only for null and for what is read as a double that is no number. Where there
is one, it is the one of the three that holds, and not to be less is to be greater or equal. To be
equal to an integer is to stand in equal order to it. -/
theorem order_from_either_side [PatternLibrary] (v w : Value)
    (known known' : Option PatternLibrary.Compiled) :
    v.order? w = (w.order? v).map Ordering.swap ∧
      BinaryOperator.greater.apply known v w = BinaryOperator.less.apply known' w v ∧
      BinaryOperator.greaterOrEqual.apply known v w =
        BinaryOperator.lessOrEqual.apply known' w v ∧
      (v.order? w = none ↔ v = null ∨ w = null ∨
        ∃ x y, v.toFloat? = some x ∧ w.toFloat? = some y ∧ (x.isNaN = true ∨ y.isNaN = true)) ∧
      (∀ o, v.order? w = some o →
        BinaryOperator.less.apply known v w = .ok (o == .lt) ∧
          BinaryOperator.greater.apply known v w = .ok (o == .gt) ∧
          BinaryOperator.greaterOrEqual.apply known v w =
            (BinaryOperator.less.apply known v w).map (!·)) ∧
      ∀ n, BinaryOperator.equal.apply known (integer n) w = .ok true ↔
        (integer n).order? w = some .eq := by
  obtain ⟨strict, weak⟩ := apply_swap v w known known'
  refine ⟨order?_swap v w, strict, weak, order?_eq_none_iff, fun o found => ?_, fun n => ?_⟩
  · simp only [BinaryOperator.apply, found]
    cases o <;> exact ⟨rfl, rfl, rfl⟩
  · rw [← equals_integer_iff, BinaryOperator.apply, Except.ok.injEq]

end MessageExpr.Value
