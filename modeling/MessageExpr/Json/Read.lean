import MessageExpr.Json.Basic

/-!
# Reading JSON text

JSON text is read in two steps. The first one follows the grammar. The second one refuses what
is well formed but denotes nothing: half of a pair of surrogates, a number beyond the doubles,
and values that are nested too deeply. What nobody asks for only takes the first step.

## Main definitions

* `RawJson`, `RawJson.read?` — well-formed JSON text
* `RawJson.check?` — the JSON value it denotes
* `Json.read?` — both steps
-/

namespace MessageExpr

/-- A numeral of JSON text. -/
structure RawNumber where
  /-- Whether a minus sign stands before it. -/
  negative : Bool
  numeral : Decimal.Numeral
  /-- Whether it has neither a point nor an exponent. -/
  whole : Bool
  deriving DecidableEq, Repr

/-- Well-formed JSON text. A string is given by its code points, where half of a pair of
surrogates may stand alone. -/
inductive RawJson where
  | null
  | boolean (b : Bool)
  | number (n : RawNumber)
  | string (points : List Nat)
  | array (items : List RawJson)
  | object (fields : List (List Nat × RawJson))
  deriving Inhabited

namespace RawJson

/-! ## Strings -/

/-- White space between the parts of JSON text. -/
def isBlank (c : Char) : Bool := c == ' ' || c == '\t' || c == '\n' || c == '\r'

/-- Drops white space. -/
def skipBlank (t : List Char) : List Char := t.dropWhile isBlank

/-- The value of a hexadecimal digit. -/
def hexDigit? (c : Char) : Option Nat :=
  if c.isDigit then some (c.toNat - '0'.toNat)
  else if 'a' ≤ c ∧ c ≤ 'f' then some (c.toNat - 'a'.toNat + 10)
  else if 'A' ≤ c ∧ c ≤ 'F' then some (c.toNat - 'A'.toNat + 10)
  else none

/-- The value of four hexadecimal digits. -/
def hexUnit? (a b c d : Char) : Option Nat := do
  let a ← hexDigit? a
  let b ← hexDigit? b
  let c ← hexDigit? c
  let d ← hexDigit? d
  pure (((a * 16 + b) * 16 + c) * 16 + d)

/-- The code point that a letter after a backslash stands for. -/
def escape? (c : Char) : Option Nat :=
  if c == '"' || c == '\\' || c == '/' then some c.toNat
  else if c == 'b' then some 0x08
  else if c == 'f' then some 0x0c
  else if c == 'n' then some 0x0a
  else if c == 'r' then some 0x0d
  else if c == 't' then some 0x09
  else none

/-- The units of a string up to the quote that ends it, and what follows. Units that come from
hexadecimal digits may be halves of pairs of surrogates. -/
def units? : List Char → Option (List Nat × List Char)
  | [] => none
  | '"' :: rest => some ([], rest)
  | '\\' :: 'u' :: a :: b :: c :: d :: rest => do
    let unit ← hexUnit? a b c d
    let (units, after) ← units? rest
    pure (unit :: units, after)
  | '\\' :: c :: rest => do
    let unit ← escape? c
    let (units, after) ← units? rest
    pure (unit :: units, after)
  | c :: rest =>
    -- A backslash that is last, or before too few digits, is no unit.
    if c.toNat < 0x20 || c == '\\' then none
    else do
      let (units, after) ← units? rest
      pure (c.toNat :: units, after)

/-- Whether a unit is the first half of a pair of surrogates. -/
def isHigh (n : Nat) : Bool := 0xd800 ≤ n && n < 0xdc00

/-- Whether a unit is the second half of a pair of surrogates. -/
def isLow (n : Nat) : Bool := 0xdc00 ≤ n && n < 0xe000

/-- Joins the pairs of surrogates. -/
def joinPairs : List Nat → List Nat
  | high :: low :: rest =>
    if isHigh high && isLow low then
      (0x10000 + (high - 0xd800) * 0x400 + (low - 0xdc00)) :: joinPairs rest
    else high :: joinPairs (low :: rest)
  | units => units

/-! ## Numbers -/

/-- The digits of a whole number, without a zero before others. -/
def wholeDigits? (t : List Char) : Option (List Char × List Char) :=
  match t with
  | '0' :: rest => some (['0'], rest)
  | t =>
    let digits := t.takeWhile Char.isDigit
    if digits.isEmpty then none else some (digits, t.dropWhile Char.isDigit)

/-- The digits after a point, if there is one. -/
def fraction? (t : List Char) : Option (Option (List Char) × List Char) :=
  match t with
  | '.' :: rest =>
    let digits := rest.takeWhile Char.isDigit
    if digits.isEmpty then none else some (some digits, rest.dropWhile Char.isDigit)
  | t => some (none, t)

/-- The exponent after a letter, if there is one. -/
def exponent? (t : List Char) : Option (Option Int × List Char) :=
  match t with
  | c :: rest =>
    if c == 'e' || c == 'E' then
      let (negative, rest) := Decimal.splitSign rest
      let digits := rest.takeWhile Char.isDigit
      let size : Int := Nat.ofDigitChars 10 digits 0
      if digits.isEmpty then none
      else some (some (if negative then -size else size), rest.dropWhile Char.isDigit)
    else some (none, t)
  | [] => some (none, [])

/-- The number at the start of a text, and what follows it. -/
def number? (t : List Char) : Option (RawNumber × List Char) := do
  let (negative, t) := match t with
    | '-' :: rest => (true, rest)
    | t => (false, t)
  let (digits, t) ← wholeDigits? t
  let (after, t) ← fraction? t
  let (exponent, t) ← exponent? t
  let numeral := Decimal.Numeral.ofParts digits (after.getD []) (exponent.getD 0)
  pure (⟨negative, numeral, after.isNone && exponent.isNone⟩, t)

mutual

/-- The value at the start of a text, and what follows it. The first argument bounds the number
of nested and neighbouring values; the length of the text is enough. -/
def value? : Nat → List Char → Option (RawJson × List Char)
  | 0, _ => none
  | bound + 1, t =>
    match skipBlank t with
    | 'n' :: 'u' :: 'l' :: 'l' :: rest => some (null, rest)
    | 't' :: 'r' :: 'u' :: 'e' :: rest => some (boolean true, rest)
    | 'f' :: 'a' :: 'l' :: 's' :: 'e' :: rest => some (boolean false, rest)
    | '"' :: rest => (units? rest).map fun (units, after) => (string (joinPairs units), after)
    | '[' :: rest =>
      match skipBlank rest with
      | ']' :: after => some (array [], after)
      | _ => (items? bound rest).map fun (items, after) => (array items, after)
    | '\x7b' :: rest =>
      match skipBlank rest with
      | '\x7d' :: after => some (object [], after)
      | _ => (fields? bound rest).map fun (fields, after) => (object fields, after)
    | t => (number? t).map fun (n, after) => (number n, after)

/-- The items of an array up to the bracket that ends it, and what follows. -/
def items? : Nat → List Char → Option (List RawJson × List Char)
  | 0, _ => none
  | bound + 1, t => do
    let (item, t) ← value? bound t
    match skipBlank t with
    | ']' :: after => pure ([item], after)
    | ',' :: rest => do
      let (items, after) ← items? bound rest
      pure (item :: items, after)
    | _ => none

/-- The fields of an object up to the brace that ends it, and what follows. -/
def fields? : Nat → List Char → Option (List (List Nat × RawJson) × List Char)
  | 0, _ => none
  | bound + 1, t =>
    match skipBlank t with
    | '"' :: t => do
      let (name, t) ← units? t
      match skipBlank t with
      | ':' :: t => do
        let (value, t) ← value? bound t
        let field := (joinPairs name, value)
        match skipBlank t with
        | '\x7d' :: after => pure ([field], after)
        | ',' :: rest => do
          let (fields, after) ← fields? bound rest
          pure (field :: fields, after)
        | _ => none
      | _ => none
    | _ => none

end

/-! ## What well-formed text denotes -/

/-- The well-formed JSON text of a whole text. -/
def read? (t : List Char) : Option RawJson := do
  let (value, rest) ← value? (t.length + 1) t
  if (skipBlank rest).isEmpty then pure value else none

/-- The characters of code points, when none of them is half of a pair of surrogates. -/
def text? (points : List Nat) : Option String :=
  if points.any fun n => isHigh n || isLow n then none
  else some (String.ofList (points.map Char.ofNat))

/-- The number of a numeral: an integer if it is written as one and fits, else the nearest
double, which has to be finite. Minus zero is a double. -/
def checkNumber? (n : RawNumber) : Option JsonNumber :=
  let digits : Int := n.numeral.digits
  let value := if n.negative then -digits else digits
  -- Integers that need the 64th bit for their size are kept exactly as well.
  if n.whole && Int64.minValue.toInt ≤ value && value < UInt64.size &&
      !(n.negative && value == 0) then
    some (.integer value)
  else
    let size := n.numeral.toFloat
    if size.isFinite then some (.float (if n.negative then -size else size)) else none

mutual

/-- The JSON value of well-formed text that has at most `depth` values inside each other. -/
def check? (depth : Nat) : RawJson → Option Json
  | null => some .null
  | boolean b => some (.boolean b)
  | number n => (checkNumber? n).map .number
  | string points => (text? points).map .string
  | array items => if depth = 0 then none else (checkItems? (depth - 1) items).map .array
  | object fields =>
    if depth = 0 then none
    else (checkFields? (depth - 1) fields).map fun fields => .object (Table.ofEntries fields)

/-- The JSON values of the items of an array. -/
def checkItems? (depth : Nat) : List RawJson → Option (List Json)
  | [] => some []
  | item :: rest => do
    let item ← check? depth item
    let items ← checkItems? depth rest
    pure (item :: items)

/-- The JSON values of the fields of an object, in the order of the text. -/
def checkFields? (depth : Nat) : List (List Nat × RawJson) → Option (List (String × Json))
  | [] => some []
  | (name, value) :: rest => do
    let name ← text? name
    let value ← check? depth value
    let fields ← checkFields? depth rest
    pure ((name, value) :: fields)

end

end RawJson

namespace Json

/-- How many arrays and objects may be nested. -/
def maxDepth : Nat := 127

/-- The JSON value that a text denotes. -/
def read? (t : List Char) : Option Json := (RawJson.read? t).bind (RawJson.check? maxDepth)

end Json

end MessageExpr
