/-!
# Tokens

A token is a piece of the input with a kind. Its text is what it contributes to literal text:
it differs from the piece of the input only for escape sequences.

## Main definitions

* `TokenKind`, `TokenKind.name` — the kinds and their names in messages
* `Token`, `Token.shown` — a token, and how messages show it
-/

namespace MessageExpr

/-- The kinds of tokens. -/
inductive TokenKind where
  | character
  | whitespace
  | functionStart
  | functionEnd
  | singleQuote
  | doubleQuote
  | unaryOperator
  | binaryOperator
  | logicalOperator
  | minus
  | numericValue
  | booleanValue
  | nullValue
  | endOfLine
  deriving DecidableEq, Repr

namespace TokenKind

/-- The name of a kind in messages. -/
def name : TokenKind → String
  | character => "character"
  | whitespace => "whitespace"
  | functionStart => "function start"
  | functionEnd => "function end"
  | singleQuote => "single quote"
  | doubleQuote => "double quote"
  | unaryOperator => "unary operator"
  | binaryOperator => "binary operator"
  | logicalOperator => "logical operator"
  | minus => "minus"
  | numericValue => "numeric value"
  | booleanValue => "boolean value"
  | nullValue => "null value"
  | endOfLine => "end of line"

/-- Whether tokens of this kind open or close quoted text. -/
def isQuote (kind : TokenKind) : Bool := kind == singleQuote || kind == doubleQuote

end TokenKind

/-- A token of the input. The index and the length count characters of the input. -/
structure Token where
  kind : TokenKind
  text : String
  index : Nat
  length : Nat
  deriving DecidableEq, Repr

namespace Token

/-- The token that stands at the end of every input. -/
def endOfLine (index : Nat) : Token := ⟨.endOfLine, "", index, 0⟩

/-- Whether the token stands at the end of the input. -/
def isEnd (token : Token) : Bool := token.kind == .endOfLine

/-- How messages show a token. -/
def shown (token : Token) : String :=
  if token.isEnd then "end of line" else token.text

end Token

end MessageExpr
