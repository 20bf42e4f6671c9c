import MessageExpr.Expr.Basic
import MessageExpr.Value.Compare

/-!
# Operations on values

## Main definitions

* `Value.convert`, `Value.asString`, `Value.asBoolean`, `Value.asInteger`, `Value.asFloat` —
  conversions that fail with the reason
* `Function.call` — the value of a function
* `UnaryOperator.apply`, `BinaryOperator.apply` — the operators on values
-/

namespace MessageExpr

namespace Value

/-- The failure to convert a value to a type. -/
def conversionFailure (v : Value) (name : String) : Failure :=
  .conversion v.shown v.typeName name

/-- A value as a value of a type. -/
def convert (type : ValueType) (v : Value) : Except Failure Value :=
  match v.convert? type with
  | some w => .ok w
  | none => .error (v.conversionFailure type.className)

/-- A value as a string. Null has no text here. -/
def asString (v : Value) : Except Failure String :=
  if v.isNull then .error (v.conversionFailure "String") else .ok v.text

/-- A value as a truth value. -/
def asBoolean (v : Value) : Except Failure Bool :=
  match v.toBool? with
  | some b => .ok b
  | none => .error (v.conversionFailure "Boolean")

/-- A value as an integer. -/
def asInteger (v : Value) : Except Failure Int64 :=
  match v.toInteger? with
  | some n => .ok n
  | none => .error (v.conversionFailure "Long")

/-- A value as a double. -/
def asFloat (v : Value) : Except Failure Float :=
  match v.toFloat? with
  | some x => .ok x
  | none => .error (v.conversionFailure "Double")

/-- A number moved by a whole step. An integer that leaves the 64-bit integers becomes a
double. -/
def shift? (step : Int) (v : Value) : Option Value :=
  match v with
  | float x => some (float (x + Decimal.nearest step))
  | v =>
    match v.toInteger? with
    -- The double is only taken where no 64-bit integer is left.
    | some n =>
      match Decimal.toWord? (n.toInt + step) with
      | some m => some (integer m)
      | none => some (float (integerToFloat n + Decimal.nearest step))
    | none => v.toFloat?.map fun x => float (x + Decimal.nearest step)

end Value

/-- The value of a function. -/
def Function.call (s : Surroundings) : Function → Except Failure Value
  | body => .ok s.exchange.body
  | bodyAs type => s.exchange.body.convert type
  | header name => .ok (s.exchange.header name)
  | property name => .ok (s.exchange.property name)
  | exchangeId => .ok (.string s.exchange.exchangeId)
  | messageId => .ok (.string s.exchange.messageId)
  | null => .ok .null
  | environment name =>
    .ok (match s.environment.lookup name with
      | some text => .string text
      | none => .null)

namespace UnaryOperator

/-- The step of a unary operator. -/
def step : UnaryOperator → Int
  | increment => 1
  | decrement => -1

/-- The name of a unary operator in messages. -/
def operation : UnaryOperator → String
  | increment => "increment"
  | decrement => "decrement"

/-- A unary operator on a value. -/
def apply (o : UnaryOperator) (v : Value) : Except Failure Value :=
  match v.shift? o.step with
  | some w => .ok w
  | none => .error (.notNumeric o.operation v.shown)

end UnaryOperator

namespace BinaryOperator

variable [PatternLibrary]

/-- Whether the text of a value matches a pattern. The pattern is the text of the other value
unless it is known. Null matches nothing, and no pattern is looked at then. -/
def matchesPattern (known : Option PatternLibrary.Compiled) (v w : Value) :
    Except Failure Bool :=
  if v.isNull then .ok false
  else
    match known with
    | some p => .ok (PatternLibrary.isMatch p v.text)
    | none =>
      match PatternLibrary.compileWhole w.text with
      | .ok p => .ok (PatternLibrary.isMatch p v.text)
      | .error flaw => .error (.badPattern w.text flaw)

/-- Whether a value is of the type that another one names. -/
def isOfType (v w : Value) : Except Failure Bool :=
  match ValueType.ofName? w.text with
  | some type => .ok (v.isA type)
  | none => .error (.unknownType w.text)

/-- Whether a value lies in the range that another one denotes. -/
def isInRange (v w : Value) : Except Failure Bool :=
  match v.inRange? w with
  | some b => .ok b
  | none => .error (.badRange w.text)

/-- A binary operator on two values, with the pattern on the right if it is known. -/
def apply (o : BinaryOperator) (known : Option PatternLibrary.Compiled) (v w : Value) :
    Except Failure Bool :=
  match o with
  | equal => .ok (v.equals w)
  | notEqual => .ok !(v.equals w)
  | equalIgnoringCase => .ok (v.equalsIgnoringCase w)
  | notEqualIgnoringCase => .ok !(v.equalsIgnoringCase w)
  | greater => .ok (v.order? w == some .gt)
  | greaterOrEqual => .ok (v.order? w == some .gt || v.order? w == some .eq)
  | less => .ok (v.order? w == some .lt)
  | lessOrEqual => .ok (v.order? w == some .lt || v.order? w == some .eq)
  | contains => .ok (v.holds false w)
  | notContains => .ok !(v.holds false w)
  | containsIgnoringCase => .ok (v.holds true w)
  | notContainsIgnoringCase => .ok !(v.holds true w)
  | regex => matchesPattern known v w
  | notRegex => (matchesPattern known v w).map (!·)
  | isIn => .ok (v.isIn w)
  | notIn => .ok !(v.isIn w)
  | isA => isOfType v w
  | notA => (isOfType v w).map (!·)
  | range => isInRange v w
  | notRange => (isInRange v w).map (!·)
  | startsWith => .ok (v.startsWith w)
  | endsWith => .ok (v.endsWith w)

end BinaryOperator

end MessageExpr
