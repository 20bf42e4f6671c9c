import MessageExpr.Value.Convert

/-!
# Functions

The functions that a text can ask for, and how they are written. A header, a property or a
variable is named after a point or a colon; headers and properties also between square
brackets, where quotes around the name are left out.

## Main definitions

* `Function` — the functions
* `Function.ofName?` — the function that the text of a block names
-/

namespace MessageExpr

/-- The functions. -/
inductive Function where
  | body
  | bodyAs (type : ValueType)
  | header (name : String)
  | property (name : String)
  | exchangeId
  | messageId
  | null
  | environment (name : String)
  deriving DecidableEq, Repr

namespace Function

/-- Whether the character is a quote. -/
def isQuote (c : Char) : Bool := c == '\'' || c == '"'

/-- The name between brackets, or after a point or a colon, as it is written. -/
def rawKey? (rest : List Char) : Option (List Char) :=
  match rest with
  -- A bracket that is not closed at the very end names nothing.
  | '[' :: inner => Text.before? ']' inner
  | '.' :: name => some name
  | ':' :: name => some name
  | _ => none

/-- The name of a header or a property, which is not empty. White space around the name and then
quotes around it are left out. -/
def key? (rest : List Char) : Option String :=
  match rawKey? rest with
  | none => none
  | some raw =>
    let key := Text.strip isQuote (Text.trim raw)
    if key.isEmpty then none else some (String.ofList key)

/-- The name after one of some words. -/
def keyAfter? (words : List String) (t : List Char) : Option String :=
  words.findSome? fun word => (Text.after? word.toList t).bind key?

/-- The name of an environment variable, which is not empty. -/
def environmentName? (t : List Char) : Option String :=
  ["env.", "env:", "sysenv."].findSome? fun word =>
    match Text.after? word.toList t with
    | none | some [] => none
    | some name => some (String.ofList name)

/-- The functions without a parameter. -/
def plain? (name : String) : Option Function :=
  if name == "body" || name == "in.body" then some body
  else if name == "exchangeId" then some exchangeId
  else if name == "id" || name == "messageId" then some messageId
  else if name == "null" then some null
  else none

/-- The function of a text without white space around it. -/
def ofTrimmed? (t : List Char) : Option Function :=
  match plain? (String.ofList t) with
  | some function => some function
  | none =>
    match (Text.after? "bodyAs(".toList t).bind (Text.before? ')') with
    | some type => (ValueType.ofName? (String.ofList type)).map bodyAs
    | none =>
      match keyAfter? ["in.headers", "in.header", "headers", "header"] t with
      | some name => some (header name)
      | none =>
        match keyAfter? ["exchangeProperty"] t with
        | some name => some (property name)
        | none => (environmentName? t).map environment

/-- The function that a text names. -/
def ofName? (name : String) : Option Function := ofTrimmed? (Text.trim name.toList)

end Function

end MessageExpr
