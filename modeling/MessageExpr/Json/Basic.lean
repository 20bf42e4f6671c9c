import MessageExpr.Number
import MessageExpr.Table

/-!
# JSON values

JSON text is written compactly, with the fields of an object in the order of their names.

## Main definitions

* `Json` — JSON values
* `Json.text` — their text
-/

namespace MessageExpr

/-- A number of JSON: an integer that fits in 64 bits with or without a sign, or a double. -/
inductive JsonNumber where
  | integer (n : Int)
  | float (x : Float)
  deriving DecidableEq

/-- A JSON value. The fields of an object are in the order of their names. -/
inductive Json where
  | null
  | boolean (b : Bool)
  | number (n : JsonNumber)
  | string (s : String)
  | array (items : List Json)
  | object (fields : List (String × Json))

/-- In JSON text doubles are written plainly from `10 ^ (-5)` to below `10 ^ 16`. Elsewhere they
have an exponent with its sign, and an exact tie between two decimals goes to the even one. What
is not a finite number is null. -/
def jsonStyle : Decimal.Style where
  plainFrom := -5
  plainBelow := 16
  plus := true
  tie := .even
  nan := "null"
  infinity := "null"
  negativeInfinity := "null"

/-- The text of a number. -/
def JsonNumber.text : JsonNumber → String
  | integer n => String.ofList (Decimal.integerText n)
  | float x => jsonStyle.write x

namespace Json

/-- The letter after the backslash for a control character that has one. -/
def controlLetter? (c : Char) : Option Char :=
  if c == '\x08' then some 'b'
  else if c == '\x0c' then some 'f'
  else if c == '\n' then some 'n'
  else if c == '\r' then some 'r'
  else if c == '\t' then some 't'
  else none

/-- A character inside a string. -/
def charText (c : Char) : List Char :=
  if c == '"' || c == '\\' then ['\\', c]
  else if c.toNat < 0x20 then
    match controlLetter? c with
    | some l => ['\\', l]
    | none => ['\\', 'u', '0', '0', Nat.digitChar (c.toNat / 16), Nat.digitChar (c.toNat % 16)]
  else [c]

/-- The text of a string. -/
def stringText (s : String) : String :=
  String.ofList ('"' :: s.toList.flatMap charText ++ ['"'])

mutual

/-- The text of a value. -/
def text : Json → String
  | null => "null"
  | boolean b => if b then "true" else "false"
  | number n => n.text
  | string s => stringText s
  | array items => "[" ++ String.intercalate "," (texts items) ++ "]"
  | object fields => "\x7b" ++ String.intercalate "," (fieldTexts fields) ++ "\x7d"

/-- The texts of the items of an array. -/
def texts : List Json → List String
  | [] => []
  | item :: rest => item.text :: texts rest

/-- The texts of the fields of an object. -/
def fieldTexts : List (String × Json) → List String
  | [] => []
  | (name, value) :: rest => (stringText name ++ ":" ++ value.text) :: fieldTexts rest

end

end Json

end MessageExpr
