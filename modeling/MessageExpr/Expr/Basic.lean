import MessageExpr.Exchange
import MessageExpr.Function
import MessageExpr.Library
import MessageExpr.Operator

/-!
# Expressions

What a text is compiled to, and what can fail when it is evaluated.

## Main definitions

* `Expr`, `Predicate` — compiled expressions and predicates
* `Failure`, `Failure.message` — what can fail, and its wording
* `Surroundings` — what an evaluation depends on
-/

namespace MessageExpr

variable [PatternLibrary]

/-- A compiled expression. -/
inductive Expr where
  | constant (v : Value)
  | function (f : Function)
  /-- The texts of the parts, one after the other. -/
  | joined (parts : List Expr)
  /-- The function whose name is put together from the parts. -/
  | dynamic (parts : List Expr)
  | unary (operator : UnaryOperator) (operand : Expr)
  /-- A comparison, with the pattern on the right if it is known. -/
  | binary (operator : BinaryOperator) (left right : Expr)
      (pattern : Option PatternLibrary.Compiled)
  | logical (operator : LogicalOperator) (left right : Expr)

/-- A compiled predicate: clauses that must all hold. Without clauses it never holds. -/
structure Predicate where
  clauses : List Expr

/-- What can fail when an expression is evaluated. -/
inductive Failure where
  | conversion (value source target : String)
  | badPattern (pattern : String) (flaw : PatternFlaw)
  | badRange (text : String)
  | unknownType (name : String)
  | unknownFunction (name : String)
  | notNumeric (operation value : String)
  deriving DecidableEq, Repr

/-- The wording of a pattern that is no regular expression. -/
def patternMessage (pattern : String) (flaw : PatternFlaw) : String :=
  s!"Invalid regular expression {pattern}: {flaw.message}"

/-- The wording of a failure. -/
def Failure.message : Failure → String
  | conversion value source target =>
    s!"Cannot convert {value} of type {source} to {target}"
  | badPattern pattern flaw => patternMessage pattern flaw
  | badRange text => s!"Invalid range {text}, expected from..to"
  | unknownType name => s!"Unknown type: {name}"
  | unknownFunction name => s!"Unknown function: {name}"
  | notNumeric operation value => s!"Cannot {operation} non-numeric value {value}"

/-- What an evaluation depends on: an exchange and the environment variables. -/
structure Surroundings where
  exchange : Exchange
  environment : List (String × String)

end MessageExpr
