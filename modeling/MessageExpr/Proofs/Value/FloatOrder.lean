import MessageExpr.Proofs.Decimal.Nearest
import MessageExpr.Value.Compare

/-!
# The order of doubles

Two doubles are compared in one way: unless one of them is no number, exactly one of less, equal
and greater is true of them, and the other way round it is the reverse. Equality is one of the
three, so it is symmetric, and only what is no number differs from itself.

## Main results

* `Value.floatOrder?_swap` — the order of two doubles seen from either side
* `Value.floatOrder?_eq_none_iff` — the doubles that stand in no order
* `Value.float_beq_comm`, `Value.float_beq_self` — equality of doubles
* `Value.isNaN_integerToFloat` — the double of an integer is a number
-/

namespace MessageExpr

namespace Decimal

open Float.Model (UnpackedFloat)
open Float.Model.UnpackedFloat

/-- Compared the other way round, two unpacked doubles are in the reverse order. -/
theorem compare_swap (u w : UnpackedFloat) :
    u.compare w = (w.compare u).map Ordering.swap := by
  cases u with
  | notANumber => cases w <;> rfl
  | infinity sign =>
    cases w with
    | infinity sign' => cases sign <;> cases sign' <;> rfl
    | _ => cases sign <;> rfl
  | zero sign =>
    cases w with
    | infinity sign' | finite sign' => cases sign' <;> rfl
    | _ => rfl
  | finite sign significand exponent =>
    cases w with
    | notANumber => rfl
    | infinity sign' => cases sign' <;> rfl
    | zero => cases sign <;> rfl
    | finite sign' significand' exponent' =>
      -- Signs that differ decide alone, and else the sign says which way magnitudes count.
      have magnitudes : (compare exponent exponent').then (compare significand significand') =
          ((compare exponent' exponent).then (compare significand' significand)).swap := by
        rw [Ordering.swap_then, Int.compare_swap, Nat.compare_swap]
      cases sign with
      | positive =>
        cases sign' with
        | positive => exact congrArg some magnitudes
        | negative => rfl
      | negative =>
        cases sign' with
        | positive => rfl
        | negative => exact congrArg (fun order => some order.swap) magnitudes

private theorem compare_eq_none_iff {u w : UnpackedFloat} :
    u.compare w = none ↔ u.isNaN = true ∨ w.isNaN = true := by
  rcases u with (_ | _) | _ | _ | ⟨_ | _, _, _, _⟩ <;>
    rcases w with (_ | _) | _ | _ | ⟨_ | _, _, _, _⟩ <;>
    first
    | exact iff_of_true rfl (.inl rfl)
    | exact iff_of_true rfl (.inr rfl)
    | exact iff_of_false (Option.some_ne_none _)
        (not_or.mpr ⟨Bool.false_ne_true, Bool.false_ne_true⟩)

private theorem compare_self_of_isNaN_eq_false {u : UnpackedFloat} (h : u.isNaN = false) :
    u.compare u = some .eq := by
  cases u with
  | notANumber => cases h
  | infinity sign => cases sign <;> rfl
  | zero => rfl
  | finite sign significand exponent =>
    have same : (compare exponent exponent).then (compare significand significand) = .eq := by
      rw [Std.compare_self, Std.compare_self]
      rfl
    cases sign with
    | positive => exact congrArg some same
    | negative => exact congrArg (fun order => some order.swap) same

theorem Denotes.isNaN_eq_false {u : UnpackedFloat} {n : Int} (h : Denotes u n) :
    u.isNaN = false := by
  cases h with
  | zero => rfl
  | finite finite =>
    obtain ⟨_, _, _, rfl, -⟩ := finite
    rfl

end Decimal

namespace Value

variable {x y : Float}

private theorem lt_iff_compare : x < y ↔ x.toModel.unpack.compare y.toModel.unpack = some .lt :=
  decide_eq_true_iff.trans beq_iff_eq

private theorem beq_eq_compare :
    (x == y) = (x.toModel.unpack.compare y.toModel.unpack == some .eq) := rfl

/-- The tests one after the other find what the comparison of the unpacked doubles gives. -/
theorem floatOrder?_eq_compare :
    floatOrder? x y = x.toModel.unpack.compare y.toModel.unpack := by
  have turned := Decimal.compare_swap y.toModel.unpack x.toModel.unpack
  rw [floatOrder?]
  simp only [lt_iff_compare, beq_eq_compare, turned]
  cases x.toModel.unpack.compare y.toModel.unpack with
  | none => rfl
  | some o => cases o <;> rfl

/-- Seen from the other side, two doubles are in the reverse order. -/
theorem floatOrder?_swap (x y : Float) :
    floatOrder? x y = (floatOrder? y x).map Ordering.swap := by
  rw [floatOrder?_eq_compare, floatOrder?_eq_compare]
  exact Decimal.compare_swap _ _

/-- Only what is no number stands in no order. -/
theorem floatOrder?_eq_none_iff :
    floatOrder? x y = none ↔ x.isNaN = true ∨ y.isNaN = true := by
  rw [floatOrder?_eq_compare]
  exact Decimal.compare_eq_none_iff

theorem beq_iff_floatOrder? : (x == y) = true ↔ floatOrder? x y = some .eq := by
  rw [floatOrder?_eq_compare, beq_eq_compare]
  exact beq_iff_eq

theorem float_beq_comm (x y : Float) : (x == y) = (y == x) := by
  rw [Bool.eq_iff_iff, beq_iff_floatOrder?, beq_iff_floatOrder?, floatOrder?_swap]
  cases floatOrder? y x with
  | none => rfl
  | some o => cases o <;> decide

/-- A double is equal to itself exactly if it is a number. -/
theorem float_beq_self (x : Float) : (x == x) = !x.isNaN := by
  rw [beq_eq_compare]
  cases h : x.isNaN with
  | false =>
    rw [Decimal.compare_self_of_isNaN_eq_false h]
    rfl
  | true =>
    rw [Decimal.compare_eq_none_iff.mpr (.inl h)]
    rfl

theorem isNaN_integerToFloat (n : Int64) : (integerToFloat n).isNaN = false := by
  have lower := n.le_toInt
  have upper := n.toInt_lt
  exact (Decimal.denotes_nearest (n := n.toInt) (by omega)).isNaN_eq_false

end Value

end MessageExpr
