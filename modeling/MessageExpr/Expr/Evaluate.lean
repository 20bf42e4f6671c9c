import MessageExpr.Expr.Operation

/-!
# Evaluation

An expression is evaluated from left to right and fails with the first part that fails. The
right side of a logical operator is only evaluated when the left side leaves the outcome open.

## Main definitions

* `Expr.evaluate` — the value of an expression
* `Predicate.test` — whether a predicate holds
* `Expr.resolved`, `Predicate.resolved` — the names of functions that were put together on the
  way
-/

namespace MessageExpr

variable [PatternLibrary]

/-- What a value adds to a text. Null adds nothing. -/
def Value.piece (v : Value) : String := if v.isNull then "" else v.text

/-- Whether the truth of the left side of a logical operator leaves the outcome open. -/
def LogicalOperator.isOpen : LogicalOperator → Bool → Bool
  | and, left => left
  | or, left => !left

namespace Expr

/-- The value of the function of a name. -/
def callNamed (s : Surroundings) (name : String) : Except Failure Value :=
  match Function.ofName? name with
  | some f => f.call s
  | none => .error (.unknownFunction (trimmed name))

mutual

/-- The value of an expression. -/
def evaluate (s : Surroundings) : Expr → Except Failure Value
  | constant v => .ok v
  | function f => f.call s
  | joined parts => do
    let text ← evaluateText s parts
    pure (.string text)
  | dynamic parts => do
    let name ← evaluateText s parts
    callNamed s name
  | unary operator operand => do
    let v ← evaluate s operand
    operator.apply v
  | binary operator left right pattern => do
    let v ← evaluate s left
    let w ← evaluate s right
    let b ← operator.apply pattern v w
    pure (.boolean b)
  | logical operator left right => do
    let v ← evaluate s left
    -- A failure on the right does not matter when the outcome is settled.
    if operator.isOpen v.isTrue then
      let w ← evaluate s right
      pure (.boolean w.isTrue)
    else pure (.boolean v.isTrue)

/-- The texts of the values of expressions, one after the other. -/
def evaluateText (s : Surroundings) : List Expr → Except Failure String
  | [] => .ok ""
  | part :: rest => do
    let v ← evaluate s part
    let text ← evaluateText s rest
    pure (v.piece ++ text)

end

/-- Whether an evaluation gives a value. -/
def succeeds (s : Surroundings) (e : Expr) : Bool :=
  match evaluate s e with
  | .ok _ => true
  | .error _ => false

mutual

/-- The names of functions that an evaluation puts together and finds, in order. -/
def resolved (s : Surroundings) : Expr → List String
  | constant _ => []
  | function _ => []
  | joined parts => resolvedAll s parts
  | dynamic parts =>
    resolvedAll s parts ++
      match evaluateText s parts with
      | .ok name => if (Function.ofName? name).isSome then [name] else []
      | .error _ => []
  | unary _ operand => resolved s operand
  | binary _ left right _ =>
    resolved s left ++ if succeeds s left then resolved s right else []
  | logical operator left right =>
    resolved s left ++
      match evaluate s left with
      | .ok v => if operator.isOpen v.isTrue then resolved s right else []
      | .error _ => []

/-- The names of functions in expressions that are evaluated one after the other. -/
def resolvedAll (s : Surroundings) : List Expr → List String
  | [] => []
  | part :: rest => resolved s part ++ if succeeds s part then resolvedAll s rest else []

end

end Expr

namespace Predicate

/-- Whether all clauses hold. Nothing after a clause that does not hold is evaluated. -/
def testAll (s : Surroundings) : List Expr → Except Failure Bool
  | [] => .ok true
  | clause :: rest => do
    let v ← clause.evaluate s
    if v.isTrue then testAll s rest else pure false

/-- Whether a predicate holds. -/
def test (s : Surroundings) (p : Predicate) : Except Failure Bool :=
  match p.clauses with
  | [] => .ok false
  | clauses => testAll s clauses

/-- The names of functions that are put together when clauses are tested, in order. -/
def resolvedAll (s : Surroundings) : List Expr → List String
  | [] => []
  | clause :: rest =>
    clause.resolved s ++
      match clause.evaluate s with
      | .ok v => if v.isTrue then resolvedAll s rest else []
      | .error _ => []

/-- The names of functions that are put together when a predicate is tested, in order. -/
def resolved (s : Surroundings) (p : Predicate) : List String := resolvedAll s p.clauses

end Predicate

end MessageExpr
