import MessageExpr.Json.Read
import MessageExpr.Text.Basic
import MessageExpr.Value.Json

/-!
# Exchanges

Texts are evaluated against a message in its exchange: the body, the headers, the properties of
the exchange and two identifiers.

## Main definitions

* `Headers` — headers, whose names differ in more than the case of ASCII letters
* `Exchange` — an exchange
* `Exchange.json`, `Exchange.read?` — an exchange as JSON
-/

namespace MessageExpr

/-- The headers of a message. The key of an entry is the name in small ASCII letters; with the
value stands the name as it was given last. -/
structure Headers where
  entries : Table (String × Value)

namespace Headers

/-- No headers. -/
def empty : Headers := ⟨[]⟩

/-- The key of a name. -/
def key (name : String) : String := String.ofList (Text.asciiLower name.toList)

/-- Sets a header. -/
def insert (headers : Headers) (name : String) (value : Value) : Headers :=
  ⟨headers.entries.insert (key name) (name, value)⟩

/-- The value of a header. -/
def get? (headers : Headers) (name : String) : Option Value :=
  (headers.entries.get? (key name)).map (·.2)

/-- The number of headers. -/
def size (headers : Headers) : Nat := headers.entries.length

/-- The headers of a list of names with values, inserted one after the other. -/
def ofEntries (entries : List (String × Value)) : Headers :=
  entries.foldl (fun headers entry => headers.insert entry.1 entry.2) empty

/-- The headers as a table of the names as they were given. -/
def table (headers : Headers) : Table Value :=
  Table.ofEntries (headers.entries.map (·.2))

end Headers

/-- A message in its exchange. -/
structure Exchange where
  exchangeId : String
  messageId : String
  body : Value
  headers : Headers
  properties : Table Value

namespace Exchange

/-- The exchange in which nothing is set. -/
def empty : Exchange := ⟨"", "", .null, .empty, []⟩

/-- An exchange with a body. -/
def ofBody (body : Value) : Exchange := { empty with body := body }

/-- Sets the identifier of the exchange. -/
def withExchangeId (exchange : Exchange) (id : String) : Exchange :=
  { exchange with exchangeId := id }

/-- Sets the identifier of the message. -/
def withMessageId (exchange : Exchange) (id : String) : Exchange :=
  { exchange with messageId := id }

/-- Sets a header. -/
def withHeader (exchange : Exchange) (name : String) (value : Value) : Exchange :=
  { exchange with headers := exchange.headers.insert name value }

/-- Sets a property. -/
def withProperty (exchange : Exchange) (name : String) (value : Value) : Exchange :=
  { exchange with properties := exchange.properties.insert name value }

/-- The value of a header, null when there is none. -/
def header (exchange : Exchange) (name : String) : Value :=
  (exchange.headers.get? name).getD .null

/-- The value of a property, null when there is none. -/
def property (exchange : Exchange) (name : String) : Value :=
  (exchange.properties.get? name).getD .null

/-- Whether nothing is set. -/
def isEmpty (exchange : Exchange) : Bool :=
  exchange.exchangeId == "" && exchange.messageId == "" && exchange.body.isNull &&
    exchange.headers.entries.isEmpty && exchange.properties.isEmpty

/-! ## Exchanges as JSON -/

/-- A table of values as JSON. -/
def tableJson (table : Table Value) : Json :=
  .object (table.map fun entry => (entry.1, entry.2.json))

/-- The exchange as JSON. -/
def json (exchange : Exchange) : Json :=
  .object
    [("body", exchange.body.json), ("exchangeId", .string exchange.exchangeId),
     ("headers", tableJson exchange.headers.table), ("messageId", .string exchange.messageId),
     ("properties", tableJson exchange.properties)]

/-- The fields of an exchange in JSON, in the order in which an array lists them. -/
inductive Field where
  | exchangeId
  | messageId
  | body
  | headers
  | properties
  deriving DecidableEq, Repr

/-- All fields. -/
def Field.all : List Field := [exchangeId, messageId, body, headers, properties]

/-- The name of a field. -/
def Field.name : Field → String
  | exchangeId => "exchangeId"
  | messageId => "messageId"
  | body => "body"
  | headers => "headers"
  | properties => "properties"

/-- The field of a name. -/
def Field.ofName? (name : String) : Option Field := all.find? (·.name == name)

/-- Values with names, in the order of the text. -/
def entries? (depth : Nat) : RawJson → Option (List (String × Value))
  | .object fields =>
    if depth = 0 then none
    else (RawJson.checkFields? (depth - 1) fields).map fun fields =>
      (Table.ofEntries fields).map fun field => (field.1, Value.ofJson field.2)
  | _ => none

/-- A string. -/
def string? : RawJson → Option String
  | .string points => RawJson.text? points
  | _ => none

/-- Sets a field from JSON. -/
def setField? (depth : Nat) (exchange : Exchange) (field : Field) (value : RawJson) :
    Option Exchange :=
  match field with
  | .exchangeId => (string? value).map exchange.withExchangeId
  | .messageId => (string? value).map exchange.withMessageId
  | .body => (value.check? depth).map fun body => { exchange with body := Value.ofJson body }
  | .headers => (entries? depth value).map fun entries =>
    { exchange with headers := Headers.ofEntries entries }
  | .properties => (entries? depth value).map fun entries =>
    { exchange with properties := Table.ofEntries entries }

/-- Sets the fields of an object. A field may be set once; names of no field are left alone. -/
def setFields? (depth : Nat) (exchange : Exchange) (seen : List Field) :
    List (List Nat × RawJson) → Option Exchange
  | [] => some exchange
  | (name, value) :: rest => do
    let name ← RawJson.text? name
    match Field.ofName? name with
    -- The value of an unknown name is well formed already, and nothing else is asked of it.
    | none => setFields? depth exchange seen rest
    | some field =>
      if seen.contains field then none
      else do
        let exchange ← setField? depth exchange field value
        setFields? depth exchange (field :: seen) rest

/-- Sets fields from the items of an array. -/
def setItems? (depth : Nat) (exchange : Exchange) : List Field → List RawJson → Option Exchange
  | _, [] => some exchange
  | [], _ :: _ => none
  | field :: fields, item :: items => do
    let exchange ← setField? depth exchange field item
    setItems? depth exchange fields items

/-- The exchange of well-formed JSON text: an object, or an array of the fields in order. What
is not given is not set. -/
def ofRaw? : RawJson → Option Exchange
  | .object fields => setFields? (Json.maxDepth - 1) empty [] fields
  | .array items => setItems? (Json.maxDepth - 1) empty Field.all items
  | _ => none

/-- The exchange that JSON text denotes. -/
def read? (text : String) : Option Exchange := (RawJson.read? text.toList).bind ofRaw?

end Exchange

end MessageExpr
