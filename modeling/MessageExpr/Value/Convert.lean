import MessageExpr.Value.Basic

/-!
# Types of values and conversions

## Main definitions

* `ValueType` — the types that values can be converted to and tested for
* `ValueType.ofName?`, `ValueType.className` — their names
* `Value.convert?` — conversion
* `Value.isA` — the test of a type
-/

namespace MessageExpr

/-- The types that values can be converted to. -/
inductive ValueType where
  | string
  | integer
  | float
  | boolean
  | list
  deriving DecidableEq, Repr

namespace ValueType

/-- All types. -/
def all : List ValueType := [string, integer, float, boolean, list]

/-- The name of a type in messages and in generated code. -/
def className : ValueType → String
  | string => "String"
  | integer => "Long"
  | float => "Double"
  | boolean => "Boolean"
  | list => "java.util.List"

/-- The short names of a type. -/
def names : ValueType → List String
  | string => ["String", "string"]
  | integer => ["Integer", "Long", "int", "long"]
  | float => ["Double", "Float", "double", "float"]
  | boolean => ["Boolean", "boolean"]
  | list => ["List", "Collection"]

/-- Drops a package name at the start of a type name. -/
def shortName (name : List Char) : List Char :=
  (Text.after? "java.lang.".toList name <|> Text.after? "java.util.".toList name).getD name

/-- The type of a name, which may stand between white space and after a package name. -/
def ofName? (name : String) : Option ValueType :=
  let short := String.ofList (shortName (Text.trim name.toList))
  all.find? fun type => type.names.contains short

end ValueType

namespace Value

/-- A value as a value of a type, if it has a form of that type. Null belongs to every type. -/
def convert? (type : ValueType) (v : Value) : Option Value :=
  match v, type with
  | null, _ => some null
  | v, .string => some (string v.text)
  | v, .integer => v.toInteger?.map integer
  | v, .float => v.toFloat?.map float
  | v, .boolean => v.toBool?.map boolean
  | list items, .list => some (list items)
  | v, .list => some (list [v])

/-- Whether a value is of a type as it stands. -/
def isA (v : Value) (type : ValueType) : Bool :=
  match v, type with
  | string _, .string => true
  | integer _, .integer => true
  | float _, .float => true
  | boolean _, .boolean => true
  | list _, .list => true
  | _, _ => false

end Value

end MessageExpr
