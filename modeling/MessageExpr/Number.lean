import MessageExpr.Decimal.Numeral
import MessageExpr.Decimal.Style

/-!
# Numbers

Numbers are 64-bit integers or doubles.

## Main definitions

* `Number`, `Number.shown` — a number and its text
* `Number.read?` — the number that a literal of the language denotes
-/

namespace MessageExpr

/-- Doubles are written plainly from `10 ^ (-4)` to below `10 ^ 16`. Elsewhere they have an
exponent without a plus sign, and an exact tie between two decimals goes up. -/
def numberStyle : Decimal.Style where
  plainFrom := -4
  plainBelow := 16
  plus := false
  tie := .up
  nan := "NaN"
  infinity := "inf"
  negativeInfinity := "-inf"

/-- The text of a double. -/
def floatShown (x : Float) : String := numberStyle.write x

/-- The text of an integer. -/
def integerShown (n : Int64) : String := String.ofList (Decimal.integerText n.toInt)

/-- The double nearest to an integer. -/
def integerToFloat (n : Int64) : Float := Decimal.nearest n.toInt

/-- A 64-bit integer or a double. -/
inductive Number where
  | integer (n : Int64)
  | float (x : Float)
  deriving DecidableEq

namespace Number

/-- The text of a number. -/
def shown : Number → String
  | integer n => integerShown n
  | float x => floatShown x

/-- The number of a literal: a double when it has a point, else an integer, or the nearest
double when no 64-bit integer equals it. -/
def read? (t : List Char) : Option Number :=
  if t.contains '.' then (Decimal.float? t).map float
  else
    match Decimal.word? t with
    | some n => some (integer n)
    | none => (Decimal.float? t).map float

end Number

end MessageExpr
