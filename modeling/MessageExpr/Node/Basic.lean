import MessageExpr.Number
import MessageExpr.Problem

/-!
# Nodes

A parsed text is a list of nodes. It starts out flat, with one node for each token that has a
meaning and one for each run of literal text. Linking then nests it: blocks take what stands up
to their closing node, and operators take their operands.

## Main definitions

* `Node` — flat and linked nodes in one type, so that each step of linking maps lists of nodes
  to lists of nodes
* `Node.shown` — the text of a node in messages
* `Node.parameter?` — what kind of operand a node is
* `Node.ofUnary`, `Node.ofBinary`, `Node.ofLogical`, `Node.ofNumber` — the flat nodes of tokens
  that need reading
-/

namespace MessageExpr

/-- The two ways in which a block is written. -/
inductive BlockForm where
  | function
  | quote
  deriving DecidableEq, Repr

/-- The way in which a kind of block is written. -/
def BlockKind.form : BlockKind → BlockForm
  | function => .function
  | singleQuote | doubleQuote => .quote

/-- A unit of a parsed text. Form and kind of a block are recorded apart, because nodes may be
put together by hand; linking makes them agree. -/
inductive Node where
  | literal (token : Token) (text : String)
  /-- An opened block and, once linked, what stands up to its closing node. -/
  | block (form : BlockForm) (kind : BlockKind) (token : Token) (children : List Node)
  /-- What closes a block, until it is linked. -/
  | closing (form : BlockForm) (kind : BlockKind) (token : Token)
  | unary (operator : UnaryOperator) (token : Token) (left : Option Node)
  | binary (operator : BinaryOperator) (token : Token) (left right : Option Node)
  | logical (operator : LogicalOperator) (token : Token) (left right : Option Node)
  | number (token : Token) (value : Number) (negative : Bool)
  | boolean (token : Token)
  | null (token : Token)

namespace Node

/-- The token that a node was made from. -/
def token : Node → Token
  | literal token _ => token
  | block _ _ token _ => token
  | closing _ _ token => token
  | unary _ token _ => token
  | binary _ token _ _ => token
  | logical _ token _ _ => token
  | number token _ _ => token
  | boolean token => token
  | null token => token

/-- Whether a node is a function. -/
def isFunction : Node → Bool
  | block .function _ _ _ => true
  | _ => false

/-- Whether a block has functions among its children. -/
def hasFunctions (children : List Node) : Bool := children.any isFunction

/-- The text of a literal. -/
def literalText : Node → String
  | literal _ text => text
  | _ => ""

/-- The text of the literals among the children of a block. -/
def literalTexts (children : List Node) : String :=
  String.join (children.map literalText)

/-- How a block is opened and closed in messages. -/
def blockMarks (token : Token) : BlockKind → String × String
  | .function => (token.text, "\x7d")
  | .singleQuote => ("'", "'")
  | .doubleQuote => ("\"", "\"")

mutual

/-- The text of a node in messages. -/
def shown : Node → String
  | literal _ text => text
  | block _ kind token children =>
    (blockMarks token kind).1 ++ shownAll children ++ (blockMarks token kind).2
  | number _ value _ => value.shown
  | closing _ _ token => token.shown
  | unary _ token _ => token.shown
  | binary _ token _ _ => token.shown
  | logical _ token _ _ => token.shown
  | boolean token => token.shown
  | null token => token.shown

/-- The texts of nodes in messages, one after the other. -/
def shownAll : List Node → String
  | [] => ""
  | node :: rest => node.shown ++ shownAll rest

end

/-- What kind of operand a node is, if it can be one. -/
def parameter? : Node → Option Parameter
  | literal _ _ => some .literal
  | block .function _ _ _ => some .function
  | block .quote _ _ children =>
    some (if hasFunctions children then .literalWithFunction else .literal)
  | unary _ _ _ => some .function
  | number _ _ negative => some (if negative then .minusValue else .numericValue)
  | boolean _ => some .booleanValue
  | null _ => some .nullValue
  | closing _ _ _ | binary _ _ _ _ | logical _ _ _ _ => none

/-- The truth value of a boolean node. -/
def truth (token : Token) : Bool := token.text == "true"

/-- Whether a block can hold a node. -/
def isContent : Node → Bool
  | literal _ _ => true
  | block .function _ _ _ => true
  | _ => false

/-- The flat node of a unary operator. -/
def ofUnary (token : Token) : Except Problem Node :=
  match UnaryOperator.ofSpelling? token.text with
  | some operator => .ok (unary operator token none)
  | none => .error ⟨.unknownOperator .unary token, token.index⟩

/-- The flat node of a binary operator. -/
def ofBinary (token : Token) : Except Problem Node :=
  match BinaryOperator.ofSpelling? token.text with
  | some operator => .ok (binary operator token none none)
  | none => .error ⟨.unknownOperator .binary token, token.index⟩

/-- The flat node of a logical operator. -/
def ofLogical (token : Token) : Except Problem Node :=
  match LogicalOperator.ofSpelling? token.text with
  | some operator => .ok (logical operator token none none)
  | none => .error ⟨.unknownOperator .logical token, token.index⟩

/-- The node of a number, which may stand after a minus sign. -/
def ofNumber (token : Token) (negative : Bool) : Except Problem Node :=
  let text := if negative then "-" ++ token.text else token.text
  match Number.read? text.toList with
  | some value => .ok (number token value negative)
  | none => .error ⟨.badNumber text, token.index⟩

end Node

end MessageExpr
