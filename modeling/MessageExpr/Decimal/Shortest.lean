import MessageExpr.Decimal.Binary

/-!
# Shortest decimal digits of a double

A finite double `m · 2 ^ q` is written with the fewest decimal digits that still read back to
it, and among those with the nearest ones. The reals that round to it form an interval whose
ends lie halfway to its neighbours; they belong to it when `m` is even. On the grid of decimals
with `n` digits only the two neighbours of the value need a look: when any point of the grid
lies in the interval, so does one of these.

## Main definitions

* `Interval` — the reals that round to a double
* `Digits` — digits with the decimal exponent of the first one
* `shortest` — the digits of a double
-/

namespace MessageExpr.Decimal

/-- The reals that round to a double, in units of `2 ^ scale`. -/
structure Interval where
  low : Nat
  value : Nat
  high : Nat
  scale : Int
  closed : Bool

/-- The interval of `significand · 2 ^ exponent`. Below a power of two the neighbour is only
half as far away, except at the least exponent. -/
def Interval.of (significand : Nat) (exponent : Int) : Interval where
  low := 4 * significand - if significand = 1 <<< 52 ∧ exponent > -1074 then 1 else 2
  value := 4 * significand
  high := 4 * significand + 2
  scale := exponent - 2
  closed := significand % 2 == 0

/-- A power of a base as a quotient of two whole numbers, at least one of which is one. -/
def ratio (base : Nat) (exponent : Int) : Nat × Nat :=
  (base.pow exponent.toNat, base.pow (-exponent).toNat)

/-- The decimal exponent of the first digit of `n / d`. -/
def leadingExponent (n d : Nat) : Int :=
  -- The numbers of digits determine the exponent up to one.
  let guess : Int := (naturalText n).length - (naturalText d).length
  let (up, down) := ratio 10 guess
  if n * down ≥ d * up then guess else guess - 1

/-- Digits without trailing zeros, with the decimal exponent of the first one. -/
structure Digits where
  digits : List Char
  exponent : Int

/-- The digits of `n · 10 ^ unit`. -/
def Digits.of (n : Nat) (unit : Int) : Digits :=
  let digits := naturalText n
  let kept := (digits.reverse.dropWhile (· == '0')).reverse
  ⟨if kept.isEmpty then ['0'] else kept, unit + digits.length - 1⟩

/-- Which of two equally near decimals is taken. -/
inductive Tie where
  | up
  | even
  deriving DecidableEq, Repr

/-- The neighbour of the value on the grid of multiples of `10 ^ unit` that lies in the
interval, the nearer one if both do. -/
def Interval.onGrid? (i : Interval) (tie : Tie) (unit : Int) : Option Nat :=
  -- Both sides of every comparison are multiplied by the same denominators.
  let (twos, halves) := ratio 2 i.scale
  let (tens, tenths) := ratio 10 unit
  let grid := tens * halves
  let scaled := twos * tenths
  let holds (n : Nat) : Bool :=
    if i.closed then i.low * scaled ≤ n * grid && n * grid ≤ i.high * scaled
    else i.low * scaled < n * grid && n * grid < i.high * scaled
  let below := i.value * scaled / grid
  let above := below + 1
  let toBelow := i.value * scaled - below * grid
  let toAbove := above * grid - i.value * scaled
  match holds below, holds above with
  | false, false => none
  | true, false => some below
  | false, true => some above
  | true, true =>
    if toBelow < toAbove then some below
    else if toAbove < toBelow then some above
    else match tie with
      | .up => some above
      | .even => some (if below % 2 = 0 then below else above)

/-- The shortest digits of `significand · 2 ^ exponent`. Seventeen digits always suffice. -/
def shortest (tie : Tie) (significand : Nat) (exponent : Int) : Digits :=
  if significand = 0 then ⟨['0'], 0⟩
  else
    let i := Interval.of significand exponent
    let (twos, halves) := ratio 2 i.scale
    let first := leadingExponent (i.value * twos) halves
    let found := (List.range 17).findSome? fun more : Nat =>
      (i.onGrid? tie (first - more)).map fun n => Digits.of n (first - more)
    found.getD (Digits.of significand exponent)

end MessageExpr.Decimal
