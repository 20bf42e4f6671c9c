import MessageExpr.Pattern.Property

/-!
# Named sets of characters

## Main definitions

* `CharSet.ofAsciiName?` — the classes that stand between colons inside brackets
* `CharSet.ofPropertyName?`, `CharSet.ofPropertyValue?` — the classes of Unicode properties, by
  name or by property and value
-/

namespace MessageExpr.CharSet

open Unicode (Category Script Version)
open Unicode.Category

/-- The digits. -/
def digits : CharSet := categories [decimalNumber]

/-- The ASCII digits. -/
def asciiDigits : CharSet := ranges [(0x30, 0x39)]

/-- ASCII white space. -/
def asciiBlanks : CharSet := ranges [(0x09, 0x0d), (0x20, 0x20)]

/-- What belongs to words in ASCII. -/
def asciiWord : CharSet := ranges [(0x30, 0x39), (0x41, 0x5a), (0x5f, 0x5f), (0x61, 0x7a)]

/-- The ASCII classes by name. -/
def asciiNames : List (String × List Unicode.Range) :=
  [("alnum", [(0x30, 0x39), (0x41, 0x5a), (0x61, 0x7a)]),
   ("alpha", [(0x41, 0x5a), (0x61, 0x7a)]),
   ("ascii", [(0x00, 0x7f)]),
   ("blank", [(0x09, 0x09), (0x20, 0x20)]),
   ("cntrl", [(0x00, 0x1f), (0x7f, 0x7f)]),
   ("digit", [(0x30, 0x39)]),
   ("graph", [(0x21, 0x7e)]),
   ("lower", [(0x61, 0x7a)]),
   ("print", [(0x20, 0x7e)]),
   ("punct", [(0x21, 0x2f), (0x3a, 0x40), (0x5b, 0x60), (0x7b, 0x7e)]),
   ("space", [(0x09, 0x0d), (0x20, 0x20)]),
   ("upper", [(0x41, 0x5a)]),
   ("word", [(0x30, 0x39), (0x41, 0x5a), (0x5f, 0x5f), (0x61, 0x7a)]),
   ("xdigit", [(0x30, 0x39), (0x41, 0x46), (0x61, 0x66)])]

/-- The ASCII class of a name. -/
def ofAsciiName? (name : String) : Option CharSet := (asciiNames.lookup name).map ranges

/-- The general categories by their names, without spaces, hyphens and capitals. -/
def categoryNames : List (List String × List Category) :=
  [(["l", "letter"],
    [uppercaseLetter, lowercaseLetter, titlecaseLetter, modifierLetter, otherLetter]),
   (["lc", "casedletter"], [uppercaseLetter, lowercaseLetter, titlecaseLetter]),
   (["lu", "uppercaseletter"], [uppercaseLetter]),
   (["ll", "lowercaseletter"], [lowercaseLetter]),
   (["lt", "titlecaseletter"], [titlecaseLetter]),
   (["lm", "modifierletter"], [modifierLetter]),
   (["lo", "otherletter"], [otherLetter]),
   (["m", "mark", "combiningmark"], [nonspacingMark, spacingMark, enclosingMark]),
   (["mn", "nonspacingmark"], [nonspacingMark]),
   (["mc", "spacingmark"], [spacingMark]),
   (["me", "enclosingmark"], [enclosingMark]),
   (["n", "number"], [decimalNumber, letterNumber, otherNumber]),
   (["nd", "decimalnumber", "digit"], [decimalNumber]),
   (["nl", "letternumber"], [letterNumber]),
   (["no", "othernumber"], [otherNumber]),
   (["p", "punctuation", "punct"],
    [connectorPunctuation, dashPunctuation, openPunctuation, closePunctuation,
     initialPunctuation, finalPunctuation, otherPunctuation]),
   (["pc", "connectorpunctuation"], [connectorPunctuation]),
   (["pd", "dashpunctuation"], [dashPunctuation]),
   (["ps", "openpunctuation"], [openPunctuation]),
   (["pe", "closepunctuation"], [closePunctuation]),
   (["pi", "initialpunctuation"], [initialPunctuation]),
   (["pf", "finalpunctuation"], [finalPunctuation]),
   (["po", "otherpunctuation"], [otherPunctuation]),
   (["s", "symbol"], [mathSymbol, currencySymbol, modifierSymbol, otherSymbol]),
   (["sm", "mathsymbol"], [mathSymbol]),
   (["sc", "currencysymbol"], [currencySymbol]),
   (["sk", "modifiersymbol"], [modifierSymbol]),
   (["so", "othersymbol"], [otherSymbol]),
   (["z", "separator"], [spaceSeparator, lineSeparator, paragraphSeparator]),
   (["zs", "spaceseparator"], [spaceSeparator]),
   (["zl", "lineseparator"], [lineSeparator]),
   (["zp", "paragraphseparator"], [paragraphSeparator]),
   (["cc", "control", "cntrl"], [control]),
   (["cf", "format"], [format]),
   (["co", "privateuse"], [privateUse]),
   (["assigned"], Category.all)]

/-- The class of a general category. No character is a surrogate, and there is no class of them. -/
def ofCategoryName? (name : String) : Option CharSet :=
  if name == "any" then some all
  else if name == "ascii" then some (ranges [(0x00, 0x7f)])
  else if name == "cn" || name == "unassigned" then some unassigned
  else if name == "c" || name == "other" then
    some (union (categories [control, format, privateUse]) unassigned)
  else (categoryNames.find? fun entry => entry.1.contains name).map fun entry =>
    categories entry.2

/-- The class of a name in a list of classes. -/
def ofNames? (classes : List (List String × CharSet)) (name : String) : Option CharSet :=
  (classes.find? fun entry => entry.1.contains name).map (·.2)

/-- The class of a script. -/
def ofScriptName? (name : String) : Option CharSet := (Script.ofName? name).map ofScript

/-- A name without spaces, hyphens, underscores and capitals. -/
def bareName (name : List Char) : List Char :=
  (name.filter fun c => c.toNat < 0x80 && c != ' ' && c != '-' && c != '_').map Char.toLower

/-- A bare name without the word `is` at its start. The name `isc` stays as it is, since it is the
name of another property than the category `c`. -/
def plainName : List Char → String
  | i :: s :: rest =>
    if i.toLower == 'i' && s.toLower == 's' then
      let bare := bareName rest
      String.ofList (if bare == ['c'] then ['i', 's', 'c'] else bare)
    else String.ofList (bareName (i :: s :: rest))
  | name => String.ofList (bareName name)

/-- The class of a property name: a property that characters have or lack, a general category or
a script. -/
def ofPropertyName? (name : List Char) : Option CharSet :=
  let name := plainName name
  ofNames? propertyNames name <|> ofCategoryName? name <|> ofScriptName? name

/-- The class of the characters whose property has a value. -/
def ofPropertyValue? (property value : List Char) : Option CharSet :=
  let value := plainName value
  match plainName property with
  | "gc" | "generalcategory" => ofCategoryName? value
  | "sc" | "script" => ofScriptName? value
  | "scx" | "scriptextensions" => (Script.ofName? value).map ofShared
  | "age" => upTo? value Version.all
  | "gcb" | "graphemeclusterbreak" => ofNames? clusterBreaks value
  | "wb" | "wordbreak" => ofNames? wordBreaks value
  | "sb" | "sentencebreak" => ofNames? sentenceBreaks value
  | _ => none

end MessageExpr.CharSet
