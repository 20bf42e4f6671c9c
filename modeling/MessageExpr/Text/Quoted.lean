/-!
# String literals of generated code

A literal is written between double quotes. Inside, a backslash stands before a backslash, a
quote, and the letters `n`, `t`, `r` that stand for a line feed, a tab and a carriage return;
every other character stands for itself.

## Main definitions

* `letter?`, `unletter?` — what follows the backslash for a character, and the reverse
* `encode`, `quote` — the inside of a literal, and the literal
* `decode?` — reads the literal at the start of a text, and gives what follows it
-/

namespace MessageExpr.Text

/-- What stands after the backslash for a character that may not stand for itself. -/
def letter? : Char → Option Char
  | '\\' => some '\\'
  | '"' => some '"'
  | '\n' => some 'n'
  | '\t' => some 't'
  | '\r' => some 'r'
  | _ => none

/-- The character that a letter after a backslash stands for. -/
def unletter? : Char → Option Char
  | '\\' => some '\\'
  | '"' => some '"'
  | 'n' => some '\n'
  | 't' => some '\t'
  | 'r' => some '\r'
  | _ => none

/-- The inside of a literal. -/
def encode : List Char → List Char
  | [] => []
  | c :: rest =>
    match letter? c with
    | some l => '\\' :: l :: encode rest
    | none => c :: encode rest

/-- Reads the inside of a literal up to the quote that ends it, and gives the text it stands
for with what follows the quote. A line break in the inside is refused. -/
def decodeInside? : List Char → Option (List Char × List Char)
  | [] => none
  | '\\' :: [] => none
  | '\\' :: l :: rest => do
    let c ← unletter? l
    let (text, after) ← decodeInside? rest
    pure (c :: text, after)
  | c :: rest =>
    if c == '"' then some ([], rest)
    else if c == '\n' || c == '\r' then none
    else (decodeInside? rest).map fun (text, after) => (c :: text, after)

/-- Reads the literal at the start of a text, and gives the text it stands for with what
follows the literal. -/
def decode? : List Char → Option (List Char × List Char)
  | '"' :: rest => decodeInside? rest
  | _ => none

end MessageExpr.Text

namespace MessageExpr

/-- The text as a string literal of generated code. -/
def quoted (s : String) : String := String.ofList ('"' :: Text.encode s.toList ++ ['"'])

end MessageExpr
