import MessageExpr.Unicode.Case

/-!
# Texts as lists of characters

The operations on texts that the language needs, on lists of characters: a position is then
an index and a cut is a `take` or a `drop`.

## Main definitions

* `strip`, `trim` — cut characters of a class off both ends
* `contains` — whether a text occurs in another
* `splitOnce?` — the parts before and after the first occurrence of a separator
* `after?`, `before?` — the rest of a text after a given start or before a given last character
* `removeAll` — a text without the occurrences of another, found from left to right
* `sameIgnoringCase` — likeness up to the case of ASCII letters

## Main results

* `contains_iff` — `contains` decides the infix relation
-/

namespace MessageExpr.Text

open MessageExpr.Unicode

/-- Cuts the characters of a class off both ends. -/
def strip (p : Char → Bool) (t : List Char) : List Char :=
  ((t.dropWhile p).reverse.dropWhile p).reverse

/-- Cuts white space off both ends. -/
def trim (t : List Char) : List Char := strip isBlank t

/-- Whether `needle` occurs in the text. -/
def contains (needle : List Char) : List Char → Bool
  | [] => needle.isEmpty
  | c :: rest => needle.isPrefixOf (c :: rest) || contains needle rest

theorem contains_iff {needle t : List Char} : contains needle t = true ↔ needle <:+: t := by
  induction t with
  | nil => simp [contains, List.isEmpty_iff]
  | cons c rest ih =>
    rw [contains, Bool.or_eq_true, ih, List.isPrefixOf_iff_prefix, List.infix_cons_iff]

/-- The parts before and after the first occurrence of a separator. -/
def splitOnce? (separator : List Char) : List Char → Option (List Char × List Char)
  | [] => if separator.isEmpty then some ([], []) else none
  | c :: rest =>
    if separator.isPrefixOf (c :: rest) then some ([], (c :: rest).drop separator.length)
    else (splitOnce? separator rest).map fun (before, after) => (c :: before, after)

/-! ## Replacing -/

/-- Drops `skip` characters and every later occurrence of `piece`, found from left to right. -/
def removeAfter (piece : List Char) : Nat → List Char → List Char
  | _, [] => []
  | skip + 1, _ :: rest => removeAfter piece skip rest
  | 0, c :: rest =>
    if piece.isPrefixOf (c :: rest) then removeAfter piece (piece.length - 1) rest
    else c :: removeAfter piece 0 rest

/-- The text without the occurrences of a nonempty piece, found from left to right. -/
def removeAll (piece t : List Char) : List Char := removeAfter piece 0 t

/-- What follows a text at the start of another one. -/
def after? (start t : List Char) : Option (List Char) :=
  if start.isPrefixOf t then some (t.drop start.length) else none

/-- What stands before a character at the end of a text. -/
def before? (last : Char) (t : List Char) : Option (List Char) :=
  if t.getLast? = some last then some t.dropLast else none

/-! ## Case -/

/-- The text with its ASCII capitals made small. -/
def asciiLower (t : List Char) : List Char := t.map Char.toLower

/-- Whether two texts differ at most in the case of ASCII letters. -/
def sameIgnoringCase (s t : List Char) : Bool := asciiLower s == asciiLower t

end MessageExpr.Text

namespace MessageExpr

/-- Cuts white space off both ends of a string. -/
def trimmed (s : String) : String := String.ofList (Text.trim s.toList)

/-- The lowercase form of a string. -/
def lowercased (s : String) : String := String.ofList (Unicode.lowercase s.toList)

end MessageExpr
