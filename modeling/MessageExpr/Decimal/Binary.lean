import MessageExpr.Decimal.Integer

/-!
# What a double stands for

A double is not a number, an infinity, or a sign with a whole significand times a power of two.
The third form is exact, so what follows from it needs no floating-point arithmetic.

## Main definitions

* `Double`, `Double.ofFloat` — the three forms, and the one of a double
* `whole?` — the integer that a double equals
-/

namespace MessageExpr.Decimal

/-- What a double stands for. -/
inductive Double where
  | nan
  | infinite (negative : Bool)
  | finite (negative : Bool) (significand : Nat) (exponent : Int)
  deriving DecidableEq, Repr

/-- The value of a double. The fields of its 64 bits are the sign, eleven bits of exponent and
fifty-two bits of significand; the least exponent field has no hidden leading bit. -/
def Double.ofFloat (x : Float) : Double :=
  let bits := x.toBits.toNat
  let negative := bits >>> 63 == 1
  let exponent : Nat := (bits >>> 52) % (1 <<< 11)
  let fraction := bits % (1 <<< 52)
  if exponent = 1 <<< 11 - 1 then
    if fraction = 0 then .infinite negative else .nan
  else if exponent = 0 then .finite negative fraction (-1074)
  else .finite negative (1 <<< 52 + fraction) (exponent - 1075)

/-- The integer that a double equals, if there is one. -/
def whole? (x : Float) : Option Int :=
  match Double.ofFloat x with
  | .finite negative significand exponent =>
    -- A negative exponent leaves a whole number when the significand has enough factors two.
    let magnitude :=
      if exponent ≥ 0 then some (significand <<< exponent.toNat)
      else if significand % (1 <<< (-exponent).toNat) = 0 then
        some (significand >>> (-exponent).toNat)
      else none
    magnitude.map fun n : Nat => if negative then -(n : Int) else n
  | _ => none

/-- The double nearest to an integer. -/
def nearest (n : Int) : Float := Float.ofInt n

end MessageExpr.Decimal
