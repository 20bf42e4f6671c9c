import MessageExpr.Cache
import MessageExpr.Expr.Evaluate
import MessageExpr.Node.Basic

/-!
# Compiling nodes

Linked nodes are compiled to expressions and predicates. A function that does not depend on
other functions becomes an object of its own, which a cache may hand out again. A pattern that
is known is read at once.

## Main definitions

* `Object`, `Workshop` — numbered objects, and the state of making them
* `CompileError` — why nodes cannot be compiled
* `Compile.node` — the expression of a node
* `Compile.expression`, `Compile.predicate` — the objects of a list of nodes
-/

namespace MessageExpr

variable [PatternLibrary]

/-- A compiled object. Its number tells it from all others that were made. -/
structure Object (α : Type) where
  id : Nat
  value : α

/-- The state of compiling: the cache of functions, if there is one, and the number of objects
made so far. -/
structure Workshop where
  functions : Option (Cache (Object Expr))
  made : Nat

/-- Why nodes cannot be compiled. -/
inductive CompileError where
  | problem (p : Problem)
  | badPattern (pattern : String) (flaw : PatternFlaw)
  deriving DecidableEq, Repr

/-- Compiling may fail, but what it stored in the cache before stays there. -/
abbrev CompileM := ExceptT CompileError (StateM Workshop)

namespace Compile

/-- Fails with a fault. -/
def fail {α : Type} (fault : Fault) (index : Nat) : CompileM α :=
  throw (.problem ⟨fault, index⟩)

/-- A new object. -/
def make {α : Type} (value : α) : CompileM (Object α) := do
  let w ← get
  set { w with made := w.made + 1 }
  pure ⟨w.made, value⟩

/-- Looks up a function in the cache. -/
def cached? (key : String) : CompileM (Option (Object Expr)) := do
  let w ← get
  match w.functions with
  | none => pure none
  | some cache =>
    let (found, cache) := cache.get key
    set { w with functions := some cache }
    pure found

/-- Stores a function in the cache. -/
def store (key : String) (object : Object Expr) : CompileM Unit :=
  modify fun w => { w with functions := w.functions.map (·.put key object) }

/-- The object of a function without other functions in it. -/
def function (token : Token) (children : List Node) : CompileM (Object Expr) := do
  let key := trimmed (Node.literalTexts children)
  -- The cache comes first: it may hold an expression under a name that is no function.
  match ← cached? key with
  | some object => pure object
  | none =>
    match Function.ofName? key with
    | none => fail (.unknownFunction key) token.index
    | some f =>
      let object ← make (.function f)
      store key object
      pure object

/-- The pattern that stands on the right of a comparison, if the comparison needs one and it is
known: quoted text without functions. -/
def knownPattern? (operator : BinaryOperator) (right : Node) : Option String :=
  match operator, right with
  | .regex, .block .quote _ _ children | .notRegex, .block .quote _ _ children =>
    if Node.hasFunctions children then none else some (Node.literalTexts children)
  | _, _ => none

/-- Reads the pattern on the right of a comparison, if it is known. -/
def pattern? (operator : BinaryOperator) (right : Node) :
    CompileM (Option PatternLibrary.Compiled) :=
  match knownPattern? operator right with
  | none => pure none
  | some text =>
    match PatternLibrary.compileWhole text with
    | .ok p => pure (some p)
    | .error flaw => throw (.badPattern text flaw)

mutual

/-- The expression of a node. -/
def node : Node → CompileM Expr
  | .literal _ text => pure (.constant (.string text))
  | .block .function _ token children =>
    if Node.hasFunctions children then do
      let parts ← nodes children
      pure (.dynamic parts)
    else do
      let object ← function token children
      pure object.value
  | .block .quote _ _ children =>
    if Node.hasFunctions children then do
      let parts ← nodes children
      pure (.joined parts)
    else pure (.constant (.string (Node.literalTexts children)))
  | .closing _ _ token => fail (.unstarted token) token.index
  | .unary operator token none => fail (.noOperand .unary operator.symbol .left) token.index
  | .unary operator _ (some operand) => do
    let operand ← node operand
    pure (.unary operator operand)
  | .binary operator token none _ =>
    fail (.noOperand .binary operator.symbol .left) token.index
  | .binary operator token (some _) none =>
    fail (.noOperand .binary operator.symbol .right) token.index
  | .binary operator _ (some left) (some right) => do
    let first ← node left
    let second ← node right
    -- A pattern is read last, so that what is wrong on either side is found before it.
    let pattern ← pattern? operator right
    pure (.binary operator first second pattern)
  | .logical operator token none _ =>
    fail (.noOperand .logical operator.symbol .left) token.index
  | .logical operator token (some _) none =>
    fail (.noOperand .logical operator.symbol .right) token.index
  | .logical operator _ (some left) (some right) => do
    let first ← node left
    let second ← node right
    pure (.logical operator first second)
  | .number _ value _ => pure (.constant value.toValue)
  | .boolean token => pure (.constant (.boolean (Node.truth token)))
  | .null _ => pure (.constant .null)

/-- The expressions of nodes. -/
def nodes : List Node → CompileM (List Expr)
  | [] => pure []
  | first :: rest => do
    let e ← node first
    let more ← nodes rest
    pure (e :: more)

end

/-- The object of a single node. A function without other functions in it is an object
already. -/
def single (one : Node) : CompileM (Object Expr) :=
  match one with
  | .block .function _ token children =>
    if Node.hasFunctions children then do
      let e ← node one
      make e
    else function token children
  | _ => do
    let e ← node one
    make e

/-- The object of a template. No nodes give the empty text, one node is taken as it is, and the
texts of more are put together. -/
def expression (l : List Node) : CompileM (Object Expr) :=
  match l with
  | [] => make (.constant (.string ""))
  | [one] => single one
  | l => do
    let parts ← nodes l
    make (.joined parts)

/-- The object of a condition: every node is a clause. -/
def predicate (l : List Node) : CompileM (Object Predicate) := do
  let clauses ← nodes l
  make ⟨clauses⟩

end Compile

end MessageExpr
