import MessageExpr.Operator
import MessageExpr.Token.Basic

/-!
# Problems of a text

What can be wrong with a text, and where. A problem is positioned at the index of a character of
the text, or at the number of its characters.

## Main definitions

* `BlockKind` — what a block is opened and closed by
* `Fault`, `Fault.message` — what can be wrong, and its wording
* `Problem`, `Problem.shown` — a fault with its position
-/

namespace MessageExpr

/-- What a block is opened and closed by. -/
inductive BlockKind where
  | function
  | singleQuote
  | doubleQuote
  deriving DecidableEq, Repr

/-- The name of a kind of block in messages. -/
def BlockKind.name : BlockKind → String
  | function => "function"
  | singleQuote => "single quote"
  | doubleQuote => "double quote"

/-- The two places of operands. -/
inductive Side where
  | left
  | right
  deriving DecidableEq, Repr

/-- The name of a place in messages. -/
def Side.name : Side → String
  | left => "left"
  | right => "right"

/-- The name of a group of operators at the start of a message. -/
def OperatorGroup.title : OperatorGroup → String
  | unary => "Unary"
  | binary => "Binary"
  | logical => "Logical"

/-- The name of a group of operators inside a message. -/
def OperatorGroup.name : OperatorGroup → String
  | unary => "unary"
  | binary => "binary"
  | logical => "logical"

/-! ## Faults -/

/-- What can be wrong with a text. -/
inductive Fault where
  /-- A token that nothing may start with. -/
  | unexpected (found : Token)
  /-- Another token than the one that has to follow. -/
  | expected (kind : TokenKind) (found : Token)
  /-- A block that nothing closes. -/
  | unended (kind : BlockKind)
  /-- A closing token that nothing opened. -/
  | unstarted (closing : Token)
  /-- A closing token of another kind than the block it would close. -/
  | crossed (closing : Token) (kind : BlockKind) (start : Nat)
  /-- Something that a block cannot hold. -/
  | misplaced (found : Token) (parent : BlockKind)
  /-- An operator without one of its operands. -/
  | noOperand (group : OperatorGroup) (symbol : String) (side : Side)
  /-- An operator beside something that cannot be its operand. -/
  | badOperand (group : OperatorGroup) (symbol : String) (side : Side) (operand : String)
  /-- An operator before a token that cannot start its operand. -/
  | badStart (group : OperatorGroup) (spelling : String) (found : Token)
  /-- An operator that does not exist. -/
  | unknownOperator (group : OperatorGroup) (found : Token)
  /-- A number that cannot be read. -/
  | badNumber (text : String)
  /-- A function that does not exist. -/
  | unknownFunction (name : String)
  /-- A function whose name is only known when a message is there. -/
  | dynamicFunction (block : String)
  deriving DecidableEq, Repr

namespace Fault

/-- The wording of a fault. -/
def message : Fault → String
  | unexpected found => s!"Unexpected token {found.shown}"
  | expected kind found =>
    if found.isEnd then s!"expected symbol {kind.name} but reached end of line"
    else s!"expected symbol {kind.name} but was {found.shown}"
  | unended .function => "function has no ending token"
  | unended kind => s!"{kind.name} has no ending quote"
  | unstarted closing => s!"{closing.shown} has no matching start token"
  | crossed closing kind start =>
    s!"{closing.shown} does not close {kind.name} started at location {start}"
  | misplaced found parent => s!"{found.shown} is not allowed inside {parent.name}"
  | noOperand group symbol side =>
    s!"{group.title} operator {symbol} has no {side.name} hand side token"
  | badOperand group symbol side operand =>
    s!"{group.title} operator {symbol} does not support {side.name} hand side token {operand}"
  | badStart group spelling found =>
    s!"{group.title} operator {spelling} does not support token {found.shown}"
  | unknownOperator group found => s!"Unknown {group.name} operator {found.shown}"
  | badNumber text => s!"Invalid numeric value {text}"
  | unknownFunction name => s!"Unknown function: {name}"
  | dynamicFunction block => s!"Cannot generate code for dynamic function {block}"

end Fault

/-! ## Positions -/

/-- A fault at a position. -/
structure Problem where
  fault : Fault
  index : Nat
  deriving DecidableEq, Repr

/-- The text of a problem. -/
def Problem.shown (p : Problem) : String :=
  s!"{p.fault.message} at location {p.index}"

end MessageExpr
