import MessageExpr.Text.Basic
import MessageExpr.Decimal.Binary

/-!
# Decimal numerals

A numeral is a run of digits with an optional point and an optional exponent. It denotes the
double nearest to its value; what lies beyond the largest double becomes an infinity.

## Main definitions

* `Numeral`, `Numeral.toFloat` — a decimal in exact form, and the double nearest to it
* `numeral?` — reads a numeral
* `float?` — reads a signed numeral, an infinity, or what is not a number
-/

namespace MessageExpr.Decimal

/-- The decimal `digits · 10 ^ exponent`. -/
structure Numeral where
  digits : Nat
  exponent : Int
  deriving DecidableEq, Repr

/-- The positive infinity. -/
def infinity : Float := 1.0 / 0.0

/-- What is not a number. -/
def notANumber : Float := 0.0 / 0.0

/-- The double nearest to a decimal. No double reaches `10 ^ 310`, and what lies below
`10 ^ (-330)` is nearest to zero. -/
def Numeral.toFloat (n : Numeral) : Float :=
  -- The decision on the size comes first: the power of ten may be too large to compute.
  let size : Int := (naturalText n.digits).length + n.exponent
  if n.digits = 0 then 0.0
  else if size > 310 then infinity
  else if size < -330 then 0.0
  else Float.ofScientific n.digits (n.exponent < 0) n.exponent.natAbs

/-- The exponent after the digits: nothing, or a letter `e` of either case and an integer. -/
def exponent? : List Char → Option Int
  | [] => some 0
  | c :: rest => if c == 'e' || c == 'E' then integer? rest else none

/-- The decimal of the digits before and after a point and an exponent. -/
def Numeral.ofParts (whole after : List Char) (exponent : Int) : Numeral :=
  ⟨Nat.ofDigitChars 10 (whole ++ after) 0, exponent - after.length⟩

/-- Reads a numeral: digits with at most one point, at least one of them, and an exponent. -/
def numeral? (t : List Char) : Option Numeral :=
  let whole := t.takeWhile Char.isDigit
  let rest := t.dropWhile Char.isDigit
  let (after, rest) := match rest with
    | '.' :: more => (more.takeWhile Char.isDigit, more.dropWhile Char.isDigit)
    | _ => ([], rest)
  if whole.isEmpty && after.isEmpty then none
  else (exponent? rest).map (Numeral.ofParts whole after)

/-- Reads a double: after an optional sign a numeral, or in letters of any case `inf`,
`infinity` or `nan`. -/
def float? (t : List Char) : Option Float :=
  let (negative, rest) := splitSign t
  let word := String.ofList (Text.asciiLower rest)
  let magnitude :=
    if word == "inf" || word == "infinity" then some infinity
    else if word == "nan" then some notANumber
    else (numeral? rest).map Numeral.toFloat
  magnitude.map fun x => if negative then -x else x

end MessageExpr.Decimal
