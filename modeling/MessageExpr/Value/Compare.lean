import MessageExpr.Unicode.Case
import MessageExpr.Value.Basic

/-!
# Comparing values

Values of different types are compared on the numeric or boolean side if one of them is a
number or a truth value, and by their texts otherwise. Null equals null only, and stands in no
order.

## Main definitions

* `Value.equals`, `Value.equalsIgnoringCase` — equality
* `Value.order?` — the order of two values
* `Value.holds`, `Value.isIn` — membership and parts of texts, seen from either side
* `Value.inRange?` — membership in a range of numbers
-/

namespace MessageExpr.Value

/-- Whether both values are numbers in some form and the same number. -/
def sameNumber (v w : Value) : Bool :=
  match v.toFloat?, w.toFloat? with
  | some x, some y => x == y
  | _, _ => false

mutual

/-- Whether two values are equal. -/
def equals : Value → Value → Bool
  | null, null => true
  | null, _ => false
  | _, null => false
  -- Two integers are compared exactly, which doubles would not do beyond 53 bits.
  | integer n, integer m => n == m
  | boolean b, w => w.toBool? == some b
  | v, boolean b => v.toBool? == some b
  | integer n, w => sameNumber (integer n) w
  | float x, w => sameNumber (float x) w
  | v, integer m => sameNumber v (integer m)
  | v, float y => sameNumber v (float y)
  | list items, list others => equalsAll items others
  | v, w => v.text == w.text

/-- Whether two lists of values are equal, item by item. -/
def equalsAll : List Value → List Value → Bool
  | [], [] => true
  | item :: rest, other :: others => equals item other && equalsAll rest others
  | _, _ => false

end

/-- Whether two values are equal up to the case of their texts. -/
def equalsIgnoringCase (v w : Value) : Bool :=
  equals v w || (!v.isNull && !w.isNull && lowercased v.text == lowercased w.text)

/-- The order of two doubles, if none of them is no number. -/
def floatOrder? (x y : Float) : Option Ordering :=
  if x < y then some .lt
  else if x == y then some .eq
  else if y < x then some .gt
  else none

/-- The order of two values: by number if both are numbers in some form, by text otherwise. -/
def order? (v w : Value) : Option Ordering :=
  if v.isNull || w.isNull then none
  else
    match v, w with
    | integer n, integer m => some (compare n.toInt m.toInt)
    | v, w =>
      match v.toFloat?, w.toFloat? with
      | some x, some y => floatOrder? x y
      | _, _ => some (compare v.text w.text)

/-- Whether a list has an item equal to `w`, or a text has the text of `w` as a part. -/
def holds (v : Value) (ignoringCase : Bool) (w : Value) : Bool :=
  if v.isNull || w.isNull then false
  else
    match v with
    | list items =>
      items.any fun item => if ignoringCase then equalsIgnoringCase item w else equals item w
    | v =>
      if ignoringCase then
        Text.contains (lowercased w.text).toList (lowercased v.text).toList
      else Text.contains w.text.toList v.text.toList

/-- The parts of a text between commas, without the white space around them. -/
def commaParts (s : String) : List String :=
  (s.toList.splitOn ',').map fun part => String.ofList (Text.trim part)

/-- Whether a value is equal to an item of a list, or of a text with commas between the items. -/
def isIn (v w : Value) : Bool :=
  if v.isNull then false
  else
    match w with
    | list items => items.any fun item => equals v item
    | null => false
    | w => (commaParts w.text).any fun part => equals v (string part)

/-- The ends of a range that is written with two points between them. -/
def rangeEnds? (s : String) : Option (Float × Float) := do
  let (first, last) ← Text.splitOnce? ['.', '.'] s.toList
  let low ← Decimal.float? (Text.trim first)
  let high ← Decimal.float? (Text.trim last)
  pure (low, high)

/-- Whether a value lies in the range that another one denotes, if it denotes one. -/
def inRange? (v w : Value) : Option Bool :=
  (rangeEnds? w.text).map fun (low, high) => v.toFloat?.any fun x => low ≤ x && x ≤ high

/-- Whether the text of a value starts with the text of another. -/
def startsWith (v w : Value) : Bool :=
  !v.isNull && !w.isNull && w.text.toList.isPrefixOf v.text.toList

/-- Whether the text of a value ends with the text of another. -/
def endsWith (v w : Value) : Bool :=
  !v.isNull && !w.isNull && w.text.toList.isSuffixOf v.text.toList

end MessageExpr.Value
