import MessageExpr.Number
import MessageExpr.Text.Basic

/-!
# Values

Values flow through the evaluation of expressions. Integers and doubles are kept apart: they are
written differently but compare equal.

## Main definitions

* `Value` — the values
* `Value.shown`, `Value.text` — a value in messages and in texts
* `Value.toFloat?`, `Value.toInteger?`, `Value.toBool?` — the views of a value as a number and
  as a truth value
* `Value.isTrue` — the truth of a value as a predicate
-/

namespace MessageExpr

/-- The values. -/
inductive Value where
  | null
  | boolean (b : Bool)
  | integer (n : Int64)
  | float (x : Float)
  | string (s : String)
  | list (items : List Value)
  deriving Inhabited

/-- The value of a number. -/
def Number.toValue : Number → Value
  | integer n => .integer n
  | float x => .float x

/-- The text of a truth value. -/
def boolShown (b : Bool) : String := if b then "true" else "false"

namespace Value

/-- Whether a value is null. -/
def isNull : Value → Bool
  | null => true
  | _ => false

mutual

/-- The text of a value in messages. -/
def shown : Value → String
  | null => "null"
  | boolean b => boolShown b
  | integer n => integerShown n
  | float x => floatShown x
  | string s => s
  | list items => "[" ++ String.intercalate ", " (shownAll items) ++ "]"

/-- The texts of values in messages. -/
def shownAll : List Value → List String
  | [] => []
  | item :: rest => item.shown :: shownAll rest

end

/-- The text of a value in concatenations and comparisons of texts. -/
def text (v : Value) : String := v.shown

/-- The name of the type of a value. -/
def typeName : Value → String
  | null => "null"
  | boolean _ => "Boolean"
  | integer _ => "Long"
  | float _ => "Double"
  | string _ => "String"
  | list _ => "List"

/-- A value as a double. A string is read without the white space around it. -/
def toFloat? : Value → Option Float
  | integer n => some (integerToFloat n)
  | float x => some x
  | string s => Decimal.float? (Text.trim s.toList)
  | _ => none

/-- A whole double as an integer. One beyond the 64-bit integers becomes the nearest of them. -/
def wholeToInteger? (x : Float) : Option Int64 := (Decimal.whole? x).map Decimal.clampWord

/-- A value as an integer. A double has to be whole; a string may denote either. -/
def toInteger? : Value → Option Int64
  | integer n => some n
  | float x => wholeToInteger? x
  | string s =>
    -- A text that denotes an integer keeps all its digits.
    match Decimal.word? (Text.trim s.toList) with
    | some n => some n
    | none => (Decimal.float? (Text.trim s.toList)).bind wholeToInteger?
  | _ => none

/-- Whether a string is a word, apart from white space around it and the case of its letters. -/
def isWord (word s : String) : Bool :=
  Text.sameIgnoringCase (Text.trim s.toList) word.toList

/-- A value as a truth value. -/
def toBool? : Value → Option Bool
  | boolean b => some b
  | string s =>
    if isWord "true" s then some true
    else if isWord "false" s then some false
    else none
  | _ => none

/-- The truth of a value as a predicate. -/
def isTrue : Value → Bool
  | null => false
  | boolean b => b
  | string s => !isWord "false" s
  | list items => !items.isEmpty
  | integer _ => true
  | float _ => true

end Value

end MessageExpr
