import MessageExpr.Decimal.Shortest

/-!
# Written forms of doubles

A double is written with its shortest digits, plainly with at least one digit after the point
when its size is moderate and with an exponent otherwise. A `Style` fixes the choices.
-/

namespace MessageExpr.Decimal

/-- The choices of a written form. -/
structure Style where
  /-- The least decimal exponent that is written plainly. -/
  plainFrom : Int
  /-- The least decimal exponent above that is not written plainly. -/
  plainBelow : Int
  /-- Whether a plus sign stands before an exponent that is not negative. -/
  plus : Bool
  /-- Which of two equally near decimals is taken. -/
  tie : Tie
  /-- The text of what is not a number. -/
  nan : String
  /-- The text of the positive infinity. -/
  infinity : String
  /-- The text of the negative infinity. -/
  negativeInfinity : String

/-- Digits around a point. -/
def Digits.plain (d : Digits) : List Char :=
  if d.exponent < 0 then
    '0' :: '.' :: List.replicate (-d.exponent - 1).toNat '0' ++ d.digits
  else
    -- Zeros fill the places between the last digit and the point.
    let width := d.exponent.toNat + 1
    let whole := d.digits.take width
    let after := d.digits.drop width
    whole ++ List.replicate (width - whole.length) '0' ++ '.' ::
      if after.isEmpty then ['0'] else after

/-- Digits with an exponent. -/
def Digits.scientific (plus : Bool) (d : Digits) : List Char :=
  let after := d.digits.drop 1
  d.digits.take 1 ++ (if after.isEmpty then [] else '.' :: after) ++ 'e' ::
    (if plus && d.exponent ≥ 0 then ['+'] else []) ++ integerText d.exponent

/-- The written form of a double. -/
def Style.write (style : Style) (x : Float) : String :=
  match Double.ofFloat x with
  | .nan => style.nan
  | .infinite negative => if negative then style.negativeInfinity else style.infinity
  | .finite negative significand exponent =>
    let d := shortest style.tie significand exponent
    let text :=
      if style.plainFrom ≤ d.exponent ∧ d.exponent < style.plainBelow then d.plain
      else d.scientific style.plus
    String.ofList (if negative then '-' :: text else text)

end MessageExpr.Decimal
