import MessageExpr.Function
import MessageExpr.Node.Basic
import MessageExpr.Text.Quoted

/-!
# Generated code

Nodes are written as code in which every function is a call on the exchange or the message and
every comparison is a call of a helper. A node stands for a value or, between logical operators,
for a condition. A function inside quoted text is first written between marks, as if it were
part of the quotes around it, and the marks are taken out of the finished code.

## Main definitions

* `Code.value`, `Code.condition` — the code of a node as a value and as a condition
* `Code.marked`, `Code.strip` — marks around a piece of code, and the code without marks
* `Code.ofExpression`, `Code.ofPredicate` — the code of a list of nodes
-/

namespace MessageExpr.Code

/-- What stands before a marked piece of code. -/
def markStart : String := "\"@@code[["

/-- What stands after a marked piece of code. -/
def markEnd : String := "]]code@@\""

/-- A piece of code between marks. -/
def marked (code : String) : String := markStart ++ code ++ markEnd

/-- Takes the marks out of code. -/
def strip (code : String) : String :=
  String.ofList
    (Text.removeAll markEnd.toList (Text.removeAll markStart.toList code.toList))

/-! ## Functions and operators -/

/-- The code of a function. -/
def ofFunction : Function → String
  | .body => "body"
  | .bodyAs type => s!"bodyAs(message, {type.className}.class)"
  | .header name => s!"header(message, {quoted name})"
  | .property name => s!"exchangeProperty(exchange, {quoted name})"
  | .exchangeId => "exchange.getExchangeId()"
  | .messageId => "message.getMessageId()"
  | .null => "null"
  | .environment name => s!"sysenv({quoted name})"

/-- The code of a function node. The name of the function has to be known. -/
def ofFunctionNode (node : Node) (token : Token) (children : List Node) :
    Except Problem String :=
  if Node.hasFunctions children then .error ⟨.dynamicFunction node.shown, token.index⟩
  else
    let name := Node.literalTexts children
    match Function.ofName? name with
    | some f => .ok (ofFunction f)
    | none => .error ⟨.unknownFunction (trimmed name), token.index⟩

/-- The helper of a unary operator. -/
def unaryHelper : UnaryOperator → String
  | .increment => "increment"
  | .decrement => "decrement"

/-- The helper of a binary operator, after an exclamation mark when its answer is negated. -/
def binaryHelper : BinaryOperator → String
  | .equal => "isEqualTo"
  | .equalIgnoringCase => "isEqualToIgnoreCase"
  | .greater => "isGreaterThan"
  | .greaterOrEqual => "isGreaterThanOrEqualTo"
  | .less => "isLessThan"
  | .lessOrEqual => "isLessThanOrEqualTo"
  | .notEqual => "isNotEqualTo"
  | .notEqualIgnoringCase => "!isEqualToIgnoreCase"
  | .contains => "contains"
  | .notContains => "!contains"
  | .containsIgnoringCase => "containsIgnoreCase"
  | .notContainsIgnoringCase => "!containsIgnoreCase"
  | .regex => "regexp"
  | .notRegex => "!regexp"
  | .isIn => "in"
  | .notIn => "!in"
  | .isA => "is"
  | .notA => "!is"
  | .range => "range"
  | .notRange => "!range"
  | .startsWith => "startsWith"
  | .endsWith => "endsWith"

/-! ## Nodes -/

/-- The code of a node as a condition, from its code as a value. -/
def asCondition : Node → String → String
  | .binary _ _ _ _, code => code
  | .logical _ _ _ _, code => code
  | .boolean _, code => code
  | _, code => s!"isTrue(exchange, {code})"

/-- The code of an operand of a logical operator, from its code as a value. -/
def asOperand : Node → String → String
  | .logical _ _ _ _, code => s!"({code})"
  | node, code => asCondition node code

/-- The empty text in front, unless a literal comes first: it makes what follows a text. -/
def textFirst : List Node → List String
  | .literal _ _ :: _ => []
  | _ => [quoted ""]

/-- Pieces of a text, put together. -/
def plus (pieces : List String) : String := String.intercalate " + " pieces

mutual

/-- The code of a node as a value, where `wrap` is put around functions in quoted text. -/
def value (wrap : String → String) : Node → Except Problem String
  | .literal _ text => .ok (quoted text)
  | .block .function kind token children =>
    ofFunctionNode (.block .function kind token children) token children
  | .block .quote _ _ children =>
    if Node.hasFunctions children then do
      let pieces ← pieces wrap children
      pure (plus (textFirst children ++ pieces))
    else .ok (quoted (Node.literalTexts children))
  | .closing _ _ token => .error ⟨.unstarted token, token.index⟩
  | .unary operator token none =>
    .error ⟨.noOperand .unary operator.symbol .left, token.index⟩
  | .unary operator _ (some operand) => do
    let code ← value wrap operand
    pure s!"{unaryHelper operator}(exchange, {code})"
  | .binary operator token none _ =>
    .error ⟨.noOperand .binary operator.symbol .left, token.index⟩
  | .binary operator token (some _) none =>
    .error ⟨.noOperand .binary operator.symbol .right, token.index⟩
  | .binary operator _ (some left) (some right) => do
    let first ← value wrap left
    let second ← value wrap right
    pure s!"{binaryHelper operator}(exchange, {first}, {second})"
  | .logical operator token none _ =>
    .error ⟨.noOperand .logical operator.symbol .left, token.index⟩
  | .logical operator token (some _) none =>
    .error ⟨.noOperand .logical operator.symbol .right, token.index⟩
  | .logical operator _ (some left) (some right) => do
    let first ← value wrap left
    let second ← value wrap right
    pure s!"{asOperand left first} {operator.symbol} {asOperand right second}"
  | .number _ n _ => .ok n.shown
  | .boolean token => .ok (boolShown (Node.truth token))
  | .null _ => .ok "null"

/-- The pieces of quoted text. Empty literals are left out. -/
def pieces (wrap : String → String) : List Node → Except Problem (List String)
  | [] => .ok []
  | .literal _ text :: rest => do
    let more ← pieces wrap rest
    pure (if text.isEmpty then more else quoted text :: more)
  | child :: rest => do
    let code ← value wrap child
    let more ← pieces wrap rest
    -- Only functions stand between marks; what else a block holds is code as it is.
    pure ((if child.isFunction then wrap code else code) :: more)

end

/-- The code of a node as a condition. -/
def condition (wrap : String → String) (node : Node) : Except Problem String :=
  (value wrap node).map (asCondition node)

/-! ## Lists of nodes -/

/-- The code of a template: its pieces put together. -/
def templateCode (wrap : String → String) (nodes : List Node) : Except Problem String :=
  match nodes with
  | [] => .ok (quoted "")
  | nodes => do
    let pieces ← nodes.mapM (value wrap)
    pure (plus (textFirst nodes ++ pieces))

/-- The code of a row of clauses, which must all hold. -/
def clausesCode (wrap : String → String) (nodes : List Node) : Except Problem String :=
  match nodes with
  | [] => .ok "false"
  | nodes => do
    let clauses ← nodes.mapM (condition wrap)
    pure (String.intercalate " && " clauses)

/-- The code of a template, without marks. -/
def ofExpression (nodes : List Node) : Except Problem String :=
  (templateCode marked nodes).map strip

/-- The code of a condition, without marks. -/
def ofPredicate (nodes : List Node) : Except Problem String :=
  (clausesCode marked nodes).map strip

end MessageExpr.Code
