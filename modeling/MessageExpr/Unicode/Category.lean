import MessageExpr.Unicode.Letter
import MessageExpr.Unicode.Mark
import MessageExpr.Unicode.Symbol
import MessageExpr.Unicode.Other

/-!
# General categories and derived properties

Every assigned character has one general category. The other properties used here are
derived from it in the way the Unicode standard derives them.

## Main definitions

* `Category`, `Category.contains` — the general categories and their characters
* `isAlphabetic`, `isNumeric`, `isAlphanumeric` — letters and numbers in the wide sense
* `isBlank` — white space
* `isWordChar` — what may stand inside a word of running text
* `isCased`, `isCaseIgnorable` — the context classes of case mappings
* `isPrintable`, `isGraphemeExtend` — what may be shown as it is
-/

namespace MessageExpr.Unicode

/-- The general categories. -/
inductive Category where
  | uppercaseLetter | lowercaseLetter | titlecaseLetter | modifierLetter | otherLetter
  | nonspacingMark | spacingMark | enclosingMark
  | decimalNumber | letterNumber | otherNumber
  | connectorPunctuation | dashPunctuation | openPunctuation | closePunctuation
  | initialPunctuation | finalPunctuation | otherPunctuation
  | mathSymbol | currencySymbol | modifierSymbol | otherSymbol
  | spaceSeparator | lineSeparator | paragraphSeparator
  | control | format | privateUse
  deriving DecidableEq, Repr

namespace Category

/-- All general categories that have characters. -/
def all : List Category :=
  [uppercaseLetter, lowercaseLetter, titlecaseLetter, modifierLetter, otherLetter,
   nonspacingMark, spacingMark, enclosingMark, decimalNumber, letterNumber, otherNumber,
   connectorPunctuation, dashPunctuation, openPunctuation, closePunctuation,
   initialPunctuation, finalPunctuation, otherPunctuation, mathSymbol, currencySymbol,
   modifierSymbol, otherSymbol, spaceSeparator, lineSeparator, paragraphSeparator,
   control, format, privateUse]

/-- The ranges of a category outside the runs of alternating case. -/
def ranges : Category → List Range
  | uppercaseLetter => Table.uppercaseLetters
  | lowercaseLetter => Table.lowercaseLetters
  | titlecaseLetter => Table.titlecaseLetters
  | modifierLetter => Table.modifierLetters
  | otherLetter => Table.otherLetters
  | nonspacingMark => Table.nonspacingMarks
  | spacingMark => Table.spacingMarks
  | enclosingMark => Table.enclosingMarks
  | decimalNumber => Table.decimalNumbers
  | letterNumber => Table.letterNumbers
  | otherNumber => Table.otherNumbers
  | connectorPunctuation => Table.connectorPunctuation
  | dashPunctuation => Table.dashPunctuation
  | openPunctuation => Table.openPunctuation
  | closePunctuation => Table.closePunctuation
  | initialPunctuation => Table.initialPunctuation
  | finalPunctuation => Table.finalPunctuation
  | otherPunctuation => Table.otherPunctuation
  | mathSymbol => Table.mathSymbols
  | currencySymbol => Table.currencySymbols
  | modifierSymbol => Table.modifierSymbols
  | otherSymbol => Table.otherSymbols
  | spaceSeparator => Table.spaceSeparators
  | lineSeparator => Table.lineSeparators
  | paragraphSeparator => Table.paragraphSeparators
  | control => Table.controls
  | format => Table.formats
  | privateUse => Table.privateUse

/-- The offset of a code point in the run of alternating case that holds it. -/
def alternatingOffset? (n : Nat) : Option Nat :=
  (Table.alternatingCase.find? fun r => r.1 ≤ n && n ≤ r.2).map fun r => n - r.1

/-- Whether the character belongs to the category. -/
def contains (category : Category) (c : Char) : Bool :=
  match category with
  | uppercaseLetter =>
    inRanges Table.uppercaseLetters c.toNat || (alternatingOffset? c.toNat).any (· % 2 == 0)
  | lowercaseLetter =>
    inRanges Table.lowercaseLetters c.toNat || (alternatingOffset? c.toNat).any (· % 2 == 1)
  | other => inRanges other.ranges c.toNat

end Category

open Category

/-! ## Derived properties -/

/-- Whether the character belongs to one of the categories. -/
def inCategories (categories : List Category) (c : Char) : Bool :=
  categories.any (·.contains c)

/-- The letter categories. -/
def letterCategories : List Category :=
  [lowercaseLetter, uppercaseLetter, otherLetter, modifierLetter, titlecaseLetter]

/-- Letters of every kind, and what behaves like one. -/
def isAlphabetic (c : Char) : Bool :=
  if c.toNat < 0x80 then c.isAlpha
  else inCategories (letterNumber :: letterCategories) c || inRanges Table.otherAlphabetic c.toNat

/-- Digits and other numbers of every kind. -/
def isNumeric (c : Char) : Bool :=
  if c.toNat < 0x80 then c.isDigit
  else inCategories [decimalNumber, letterNumber, otherNumber] c

/-- Letters and numbers. -/
def isAlphanumeric (c : Char) : Bool :=
  isAlphabetic c || isNumeric c

/-- White space. -/
def blankRanges : List Range :=
  [(0x09, 0x0D), (0x20, 0x20), (0x85, 0x85), (0xA0, 0xA0), (0x1680, 0x1680),
   (0x2000, 0x200A), (0x2028, 0x2029), (0x202F, 0x202F), (0x205F, 0x205F), (0x3000, 0x3000)]

/-- Whether the character is white space. -/
def isBlank (c : Char) : Bool := inRanges blankRanges c.toNat

/-- What belongs to words of running text: letters, marks, digits, connectors and the two
joiners. -/
def isWordChar (c : Char) : Bool :=
  isAlphabetic c ||
    inCategories [decimalNumber, connectorPunctuation, nonspacingMark, spacingMark,
      enclosingMark] c ||
    c == '\u200c' || c == '\u200d'

/-- Small letters and what is used like one. -/
def isLowercase (c : Char) : Bool :=
  lowercaseLetter.contains c || inRanges Table.otherLowercase c.toNat

/-- Capital letters and what is used like one. -/
def isUppercase (c : Char) : Bool :=
  uppercaseLetter.contains c || inRanges Table.otherUppercase c.toNat

/-- Characters that have a case. -/
def isCased (c : Char) : Bool :=
  isLowercase c || isUppercase c || titlecaseLetter.contains c

/-- Characters that are passed over when the context of a cased character is looked at. -/
def isCaseIgnorable (c : Char) : Bool :=
  inCategories [nonspacingMark, enclosingMark, format, modifierLetter, modifierSymbol] c ||
    inRanges Table.midWord c.toNat

/-- Characters that combine with the one before them. -/
def isGraphemeExtend (c : Char) : Bool :=
  inCategories [nonspacingMark, enclosingMark] c || inRanges Table.otherGraphemeExtend c.toNat

/-- The categories whose characters can be seen. -/
def visibleCategories : List Category :=
  Category.all.filter fun category => category ∉
    [spaceSeparator, lineSeparator, paragraphSeparator, control, format, privateUse]

/-- Characters that can be shown as they are: the plain space and all that can be seen. -/
def isPrintable (c : Char) : Bool :=
  c == ' ' || inCategories visibleCategories c

end MessageExpr.Unicode
