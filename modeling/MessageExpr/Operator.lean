/-!
# Operators

Unary operators stand after the function they apply to. Binary operators compare two values and
may restrict what stands on their right. Logical operators join predicates.

## Main definitions

* `Parameter` — the kinds of operands
* `UnaryOperator`, `BinaryOperator`, `LogicalOperator` — the operators, with `symbol` for the
  canonical spelling and `ofSpelling?` for reading one
* `BinaryOperator.supported?`, `BinaryOperator.accepts` — what may stand on the right

## Main results

* `BinaryOperator.ofSpelling?_symbol` — a symbol is read as its operator
-/

namespace MessageExpr

/-- The kinds of operands. -/
inductive Parameter where
  /-- Quoted text without functions. -/
  | literal
  /-- Quoted text that may hold functions. -/
  | literalWithFunction
  | function
  | numericValue
  | booleanValue
  | nullValue
  /-- A number after a minus sign. -/
  | minusValue
  deriving DecidableEq, Repr

/-- All kinds of operands. -/
def Parameter.all : List Parameter :=
  [.literal, .literalWithFunction, .function, .numericValue, .booleanValue, .nullValue,
   .minusValue]

/-- The three groups of operators. -/
inductive OperatorGroup where
  | unary
  | binary
  | logical
  deriving DecidableEq, Repr

/-! ## Unary operators -/

/-- The operators on the function before them. -/
inductive UnaryOperator where
  | increment
  | decrement
  deriving DecidableEq, Repr

namespace UnaryOperator

/-- The spelling of the operator. -/
def symbol : UnaryOperator → String
  | increment => "++"
  | decrement => "--"

/-- The operator of a spelling. -/
def ofSpelling? (text : String) : Option UnaryOperator :=
  [increment, decrement].find? (·.symbol == text)

theorem ofSpelling?_symbol (o : UnaryOperator) : ofSpelling? o.symbol = some o := by
  cases o <;> decide

end UnaryOperator

/-! ## Binary operators -/

/-- The comparisons of two values. -/
inductive BinaryOperator where
  | equal
  | equalIgnoringCase
  | greater
  | greaterOrEqual
  | less
  | lessOrEqual
  | notEqual
  | notEqualIgnoringCase
  | contains
  | notContains
  | containsIgnoringCase
  | notContainsIgnoringCase
  | regex
  | notRegex
  | isIn
  | notIn
  | isA
  | notA
  | range
  | notRange
  | startsWith
  | endsWith
  deriving DecidableEq, Repr

namespace BinaryOperator

/-- All binary operators. -/
def all : List BinaryOperator :=
  [equal, equalIgnoringCase, greater, greaterOrEqual, less, lessOrEqual, notEqual,
   notEqualIgnoringCase, contains, notContains, containsIgnoringCase, notContainsIgnoringCase,
   regex, notRegex, isIn, notIn, isA, notA, range, notRange, startsWith, endsWith]

/-- The canonical spelling of the operator. -/
def symbol : BinaryOperator → String
  | equal => "=="
  | equalIgnoringCase => "=~"
  | greater => ">"
  | greaterOrEqual => ">="
  | less => "<"
  | lessOrEqual => "<="
  | notEqual => "!="
  | notEqualIgnoringCase => "!=~"
  | contains => "contains"
  | notContains => "!contains"
  | containsIgnoringCase => "~~"
  | notContainsIgnoringCase => "!~~"
  | regex => "regex"
  | notRegex => "!regex"
  | isIn => "in"
  | notIn => "!in"
  | isA => "is"
  | notA => "!is"
  | range => "range"
  | notRange => "!range"
  | startsWith => "startsWith"
  | endsWith => "endsWith"

/-- The second spelling of the operators that have one. -/
def words? : BinaryOperator → Option String
  | notContains => some "not contains"
  | notRegex => some "not regex"
  | notIn => some "not in"
  | notA => some "not is"
  | notRange => some "not range"
  | startsWith => some "starts with"
  | endsWith => some "ends with"
  | _ => none

/-- The operator of a spelling. -/
def ofSpelling? (text : String) : Option BinaryOperator :=
  all.find? fun o => o.symbol == text || o.words? == some text

theorem ofSpelling?_symbol (o : BinaryOperator) : ofSpelling? o.symbol = some o := by
  cases o <;> decide

/-- The operands that may stand on the right, when the operator restricts them. -/
def supported? : BinaryOperator → Option (List Parameter)
  | regex | notRegex | isIn | notIn | isA | notA | range | notRange =>
    some [.literalWithFunction, .function]
  | _ => none

/-- Whether an operand may stand on the right. Quoted text without functions may stand wherever
quoted text with functions may, and a negative number wherever a number may. -/
def accepts (o : BinaryOperator) (p : Parameter) : Bool :=
  match o.supported? with
  | none => true
  | some kinds =>
    kinds.contains p || (p == .literal && kinds.contains .literalWithFunction) ||
      (p == .minusValue && kinds.contains .numericValue)

end BinaryOperator

/-! ## Logical operators -/

/-- The operators that join predicates. -/
inductive LogicalOperator where
  | and
  | or
  deriving DecidableEq, Repr

namespace LogicalOperator

/-- The spelling of the operator. -/
def symbol : LogicalOperator → String
  | and => "&&"
  | or => "||"

/-- The operator of a spelling. -/
def ofSpelling? (text : String) : Option LogicalOperator :=
  [and, or].find? (·.symbol == text)

theorem ofSpelling?_symbol (o : LogicalOperator) : ofSpelling? o.symbol = some o := by
  cases o <;> decide

end LogicalOperator

end MessageExpr
