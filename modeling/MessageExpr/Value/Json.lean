import MessageExpr.Json.Basic
import MessageExpr.Value.Basic

/-!
# Values as JSON

Every JSON value denotes a value: an integer beyond 64 bits with a sign becomes a double, and an
object becomes its text. Conversely every value is written as JSON; doubles that are not finite
become null.

## Main definitions

* `Value.ofJson` — the value of JSON
* `Value.json` — a value as JSON
-/

namespace MessageExpr.Value

/-- The value of a number. -/
def ofJsonNumber : JsonNumber → Value
  | .integer n =>
    match Decimal.toWord? n with
    | some n => integer n
    | none => float (Decimal.nearest n)
  | .float x => float x

mutual

/-- The value of JSON. -/
def ofJson : Json → Value
  | .null => null
  | .boolean b => boolean b
  | .number n => ofJsonNumber n
  | .string s => string s
  | .array items => list (ofJsonItems items)
  | .object fields => string (Json.object fields).text

/-- The values of the items of an array. -/
def ofJsonItems : List Json → List Value
  | [] => []
  | item :: rest => ofJson item :: ofJsonItems rest

end

mutual

/-- A value as JSON. -/
def json : Value → Json
  | null => .null
  | boolean b => .boolean b
  | integer n => .number (.integer n.toInt)
  | float x => if x.isFinite then .number (.float x) else .null
  | string s => .string s
  | list items => .array (jsonItems items)

/-- Values as the items of an array. -/
def jsonItems : List Value → List Json
  | [] => []
  | item :: rest => item.json :: jsonItems rest

end

end MessageExpr.Value
