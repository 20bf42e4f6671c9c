import MessageExpr.Unicode.CaseRow
import MessageExpr.Unicode.Category

/-!
# Lower case and case folding

Lowercase texts and the case-insensitive likeness of single characters.

## Main definitions

* `lowercase` — the full lowercase mapping of a text
* `foldClass` — the characters that differ from a character in case only

## Implementation notes

One letter maps to two characters: the capital I with a dot. One letter maps by context: the
Greek capital sigma becomes the final small sigma at the end of a word, that is, when a cased
letter stands before it and none after it, characters that case contexts ignore left out.
-/

namespace MessageExpr.Unicode

/-- Whether the first character that case contexts do not ignore is cased. -/
def meetsCased : List Char → Bool
  | [] => false
  | c :: rest => if isCaseIgnorable c then meetsCased rest else isCased c

/-- The lowercase form of one character between the characters before it, nearest first, and
those after it. -/
def lowerChar (before : List Char) (c : Char) (after : List Char) : List Char :=
  -- Most texts are ASCII, for which no table is searched.
  if c.toNat < 0x80 then [c.toLower]
  else if c == 'Σ' then
    if meetsCased before && !meetsCased after then ['ς'] else ['σ']
  else if c == 'İ' then ['i', '\u0307']
  else [Char.ofNat (mapCase lowerRows c.toNat)]

/-- Lowercases what follows the characters `before`, which are listed nearest first. -/
def lowercaseAfter (before : List Char) : List Char → List Char
  | [] => []
  | c :: rest => lowerChar before c rest ++ lowercaseAfter (c :: before) rest

/-- The lowercase form of a text. -/
def lowercase (text : List Char) : List Char := lowercaseAfter [] text

/-- The code points that differ from `n` in case only, `n` included. -/
def foldClass (n : Nat) : List Nat :=
  let folded := mapCase foldRows n
  folded :: unmapCase foldRows folded

end MessageExpr.Unicode
