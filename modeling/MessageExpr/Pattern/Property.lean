import MessageExpr.Pattern.Basic
import MessageExpr.Unicode.Property
import MessageExpr.Unicode.Script
import MessageExpr.Unicode.Version

/-!
# Classes of Unicode properties

The classes of the properties of characters. A property that follows from others is derived from
them in the way the Unicode standard derives it.

## Main definitions

* `CharSet.propertyNames` — the properties that characters have or lack
* `CharSet.clusterBreaks`, `CharSet.wordBreaks`, `CharSet.sentenceBreaks` — the values of the
  properties for breaks in texts
* `CharSet.ofScript`, `CharSet.ofShared` — the characters of a script, and those used with it
* `CharSet.upTo?` — the characters of a version of Unicode
-/

namespace MessageExpr.CharSet

open Unicode (Category Script Version)
open Unicode.Category

/-- The characters of several sets. -/
def unions (sets : List CharSet) : CharSet := sets.foldr union empty

/-- White space. -/
def blanks : CharSet := ranges Unicode.blankRanges

/-- The characters that are not assigned. -/
def unassigned : CharSet := complement (categories Category.all)

/-- The capital digraphs, which are neither uppercase nor lowercase. -/
def titlecase : CharSet := categories [titlecaseLetter]

/-- The Hangul syllables without a final consonant. -/
def openSyllables : CharSet :=
  ranges ((List.range 399).map fun i => (0xAC00 + 28 * i, 0xAC00 + 28 * i))

/-- The Hangul syllables with a final consonant. -/
def closedSyllables : CharSet := difference (ranges [(0xAC00, 0xD7A3)]) openSyllables

/-! ## Scripts and versions -/

/-- The characters of a script. -/
def ofScript (script : Script) : CharSet := ranges script.ranges

/-- The characters of the scripts with some names. -/
def ofScripts (names : List String) : CharSet :=
  unions (names.map fun name => ((Script.ofName? name).map ofScript).getD empty)

/-- The characters that are used with a script. -/
def ofShared (script : Script) : CharSet :=
  let own := difference (ofScript script) (unions (Script.shared.map fun row => ranges row.2))
  let rows := Script.shared.filter fun row => row.1.any script.names.contains
  union own (unions (rows.map fun row => ranges row.2))

/-- The characters that were assigned up to a version, the versions being listed oldest first. -/
def upTo? (name : String) : List Version → Option CharSet
  | [] => none
  | version :: later =>
    if version.names.contains name then some (ranges version.ranges)
    else (upTo? name later).map (union (ranges version.ranges))

/-! ## Case -/

/-- What has a case. -/
def cased : CharSet := unions [lowercase, uppercase, titlecase]

/-- What lowercasing changes. -/
def changedInLower : CharSet :=
  difference (union uppercase titlecase) (ranges Unicode.Table.unpairedCapitals)

/-- What uppercasing changes. -/
def changedInUpper : CharSet :=
  union
    (difference (categories [lowercaseLetter, titlecaseLetter])
      (ranges Unicode.Table.unpairedSmalls))
    (ranges Unicode.Table.pairedSmalls)

/-- What titlecasing changes. -/
def changedInTitle : CharSet :=
  union (difference changedInUpper (ranges Unicode.Table.titlecaseFixed))
    (ranges Unicode.Table.titlecaseMoved)

/-- What case folding changes. -/
def changedInFold : CharSet :=
  union (difference changedInLower (ranges Unicode.Table.foldedFixed))
    (ranges Unicode.Table.foldedMoved)

/-! ## Identifiers -/

/-- What is kept for the syntax of patterns. -/
def patternSyntax : CharSet :=
  union (ranges Unicode.Table.patternSyntax) (ranges Unicode.Table.patternBlanks)

/-- What identifiers start with. -/
def idStart : CharSet :=
  difference
    (union (categories (letterNumber :: Unicode.letterCategories))
      (ranges Unicode.Table.otherIdStarts))
    patternSyntax

/-- What identifiers go on with. -/
def idContinue : CharSet :=
  difference
    (unions
      [idStart, categories [nonspacingMark, spacingMark, decimalNumber, connectorPunctuation],
       ranges Unicode.Table.otherIdContinues])
    patternSyntax

/-! ## Clusters -/

/-- What combines with the character before it. -/
def graphemeExtend : CharSet :=
  union (categories [nonspacingMark, enclosingMark]) (ranges Unicode.Table.otherGraphemeExtend)

/-- What may stand on its own. -/
def graphemeBase : CharSet :=
  complement
    (unions
      [categories [control, format, privateUse, lineSeparator, paragraphSeparator], unassigned,
       graphemeExtend])

/-- The modifiers of emoji. -/
def emojiModifiers : CharSet := ranges [(0x1F3FB, 0x1F3FF)]

/-- The letters in pairs of which flags are shown. -/
def regionalIndicators : CharSet := ranges [(0x1F1E6, 0x1F1FF)]

/-- The characters that join others or keep them apart. -/
def joiners : CharSet := ranges [(0x200C, 0x200D)]

/-- The properties that characters have or lack, by name. -/
def propertyNames : List (List String × CharSet) :=
  [(["ahex", "asciihexdigit"], ranges [(0x30, 0x39), (0x41, 0x46), (0x61, 0x66)]),
   (["alpha", "alphabetic"], alphabetic),
   (["bidic", "bidicontrol"], ranges Unicode.Table.bidiControls),
   (["bidim", "bidimirrored"], ranges Unicode.Table.mirrored),
   (["cased"], cased),
   (["ci", "caseignorable"],
    union (categories [nonspacingMark, enclosingMark, format, modifierLetter, modifierSymbol])
      (ranges Unicode.Table.midWord)),
   (["cwcf", "changeswhencasefolded"], changedInFold),
   (["cwcm", "changeswhencasemapped"],
    unions [changedInLower, changedInUpper, changedInTitle]),
   (["cwl", "changeswhenlowercased"], changedInLower),
   (["cwt", "changeswhentitlecased"], changedInTitle),
   (["cwu", "changeswhenuppercased"], changedInUpper),
   (["dash"], union (categories [dashPunctuation]) (ranges Unicode.Table.otherDashes)),
   (["dep", "deprecated"], ranges Unicode.Table.deprecated),
   (["di", "defaultignorablecodepoint"], ranges Unicode.Table.defaultIgnorables),
   (["dia", "diacritic"], ranges Unicode.Table.diacritics),
   (["ebase", "emojimodifierbase"], ranges Unicode.Table.emojiModifierBases),
   (["ecomp", "emojicomponent"], ranges Unicode.Table.emojiComponents),
   (["emod", "emojimodifier"], emojiModifiers),
   (["emoji"], ranges Unicode.Table.emoji),
   (["epres", "emojipresentation"], ranges Unicode.Table.emojiPresentation),
   (["ext", "extender"], ranges Unicode.Table.extenders),
   (["extpict", "extendedpictographic"], ranges Unicode.Table.extendedPictographic),
   (["grbase", "graphemebase"], graphemeBase),
   (["grext", "graphemeextend"], graphemeExtend),
   (["grlink", "graphemelink"], ranges Unicode.Table.viramas),
   (["hex", "hexdigit"], ranges Unicode.Table.hexDigits),
   (["idc", "idcontinue"], idContinue),
   (["ideo", "ideographic"], ranges Unicode.Table.ideographs),
   (["ids", "idstart"], idStart),
   (["idsb", "idsbinaryoperator"], ranges [(0x2FF0, 0x2FF1), (0x2FF4, 0x2FFB)]),
   (["idst", "idstrinaryoperator"], ranges [(0x2FF2, 0x2FF3)]),
   (["joinc", "joincontrol"], joiners),
   (["loe", "logicalorderexception"], ranges Unicode.Table.visualOrder),
   (["lower", "lowercase"], lowercase),
   (["math"], union (categories [mathSymbol]) (ranges Unicode.Table.otherMath)),
   (["nchar", "noncharactercodepoint"], ranges Unicode.Table.noncharacters),
   (["oalpha", "otheralphabetic"], ranges Unicode.Table.otherAlphabetic),
   (["odi", "otherdefaultignorablecodepoint"], ranges Unicode.Table.otherDefaultIgnorables),
   (["ogrext", "othergraphemeextend"], ranges Unicode.Table.otherGraphemeExtend),
   (["oidc", "otheridcontinue"], ranges Unicode.Table.otherIdContinues),
   (["oids", "otheridstart"], ranges Unicode.Table.otherIdStarts),
   (["olower", "otherlowercase"], ranges Unicode.Table.otherLowercase),
   (["omath", "othermath"], ranges Unicode.Table.otherMath),
   (["oupper", "otheruppercase"], ranges Unicode.Table.otherUppercase),
   (["patsyn", "patternsyntax"], ranges Unicode.Table.patternSyntax),
   (["patws", "patternwhitespace"], ranges Unicode.Table.patternBlanks),
   (["pcm", "prependedconcatenationmark"], ranges Unicode.Table.prependedMarks),
   (["qmark", "quotationmark"], ranges Unicode.Table.quotationMarks),
   (["radical"], ranges Unicode.Table.radicals),
   (["ri", "regionalindicator"], regionalIndicators),
   (["sd", "softdotted"], ranges Unicode.Table.softDotted),
   (["sterm", "sentenceterminal"], ranges Unicode.Table.sentenceEnds),
   (["term", "terminalpunctuation"], ranges Unicode.Table.phraseEnds),
   (["uideo", "unifiedideograph"], ranges Unicode.Table.unifiedIdeographs),
   (["upper", "uppercase"], uppercase),
   (["vs", "variationselector"], ranges Unicode.Table.variationSelectors),
   (["wspace", "whitespace", "space"], blanks),
   (["xidc", "xidcontinue"], difference idContinue (ranges Unicode.Table.notXidContinues)),
   (["xids", "xidstart"], difference idStart (ranges Unicode.Table.notXidStarts))]

/-! ## Breaks -/

/-- The places of characters in the clusters of characters that are read as one. -/
def clusterBreaks : List (List String × CharSet) :=
  [(["cn", "control"],
    difference
      (union (categories [lineSeparator, paragraphSeparator, control, format])
        (intersection unassigned (ranges Unicode.Table.defaultIgnorables)))
      (unions
        [graphemeExtend, ranges Unicode.Table.prependedMarks, joiners,
         ranges [(0x0A, 0x0A), (0x0D, 0x0D)]])),
   (["cr"], single '\r'),
   (["ex", "extend"], union graphemeExtend emojiModifiers),
   (["l"], ranges [(0x1100, 0x115F), (0xA960, 0xA97C)]),
   (["lf"], single '\n'),
   (["lv"], openSyllables),
   (["lvt"], closedSyllables),
   (["pp", "prepend"],
    union (ranges Unicode.Table.prependedMarks) (ranges Unicode.Table.otherPrepends)),
   (["ri", "regionalindicator"], regionalIndicators),
   (["sm", "spacingmark"],
    union
      (difference (categories [spacingMark])
        (union graphemeExtend (ranges Unicode.Table.notSpacingMarks)))
      (ranges Unicode.Table.otherSpacingMarks)),
   (["t"], ranges [(0x11A8, 0x11FF), (0xD7CB, 0xD7FB)]),
   (["v"], ranges [(0x1160, 0x11A7), (0xD7B0, 0xD7C6)]),
   (["zwj"], single '\u200d')]

/-- What continues the word before it. -/
def wordExtend : CharSet := unions [graphemeExtend, categories [spacingMark], emojiModifiers]

/-- The Hebrew letters. -/
def hebrewLetters : CharSet := intersection (ofScripts ["hebr"]) (categories [otherLetter])

/-- The Katakana and what words contain like them. -/
def katakana : CharSet := union (ofScripts ["kana"]) (ranges Unicode.Table.otherKatakana)

/-- The scripts without spaces between words. -/
def unspacedScripts : List String :=
  ["thai", "laoo", "khmr", "mymr", "tale", "talu", "lana", "tavt", "ahom"]

/-- The places of characters in words. -/
def wordBreaks : List (List String × CharSet) :=
  [(["cr"], single '\r'),
   (["dq", "doublequote"], single '\x22'),
   (["ex", "extendnumlet"], ranges Unicode.Table.wordConnectors),
   (["extend"], wordExtend),
   (["fo", "format"],
    difference (categories [format])
      (union joiners (ranges [(0x200B, 0x200B), (0xE0020, 0xE007F)]))),
   (["hl", "hebrewletter"], hebrewLetters),
   (["ka", "katakana"], katakana),
   (["le", "aletter"],
    union
      (difference alphabetic
        (unions
          [ranges Unicode.Table.ideographs, ofScripts ("hira" :: unspacedScripts), katakana,
           hebrewLetters, wordExtend]))
      (ranges Unicode.Table.otherWordLetters)),
   (["lf"], single '\n'),
   (["mb", "midnumlet"], ranges Unicode.Table.midBoth),
   (["ml", "midletter"], ranges Unicode.Table.midLetters),
   (["mn", "midnum"], ranges Unicode.Table.midNumbers),
   (["nl", "newline"], ranges [(0x0B, 0x0C), (0x85, 0x85), (0x2028, 0x2029)]),
   (["nu", "numeric"], union (categories [decimalNumber]) (single '\u066b')),
   (["ri", "regionalindicator"], regionalIndicators),
   (["sq", "singlequote"], single '\x27'),
   (["wsegspace"], ranges Unicode.Table.wordBlanks),
   (["zwj"], single '\u200d')]

/-- What continues the sentence before it and is passed over. -/
def sentenceExtend : CharSet := unions [graphemeExtend, categories [spacingMark], joiners]

/-- The small letters at which sentences do not start. -/
def sentenceLower : CharSet :=
  difference lowercase (union graphemeExtend (ranges Unicode.Table.caselessGeorgian))

/-- The capital letters at which sentences start. -/
def sentenceUpper : CharSet :=
  difference (union uppercase titlecase) (ranges Unicode.Table.caselessGeorgianCapitals)

/-- The places of characters in sentences. -/
def sentenceBreaks : List (List String × CharSet) :=
  [(["at", "aterm"], ranges Unicode.Table.stops),
   (["cl", "close"],
    union (categories [openPunctuation, closePunctuation, initialPunctuation, finalPunctuation])
      (ranges Unicode.Table.otherBrackets)),
   (["cr"], single '\r'),
   (["ex", "extend"], sentenceExtend),
   (["fo", "format"],
    difference (categories [format]) (union joiners (ranges [(0xE0020, 0xE007F)]))),
   (["le", "oletter"],
    union
      (difference alphabetic (unions [sentenceLower, sentenceUpper, sentenceExtend]))
      (single '\u05f3')),
   (["lf"], single '\n'),
   (["lo", "lower"], sentenceLower),
   (["nu", "numeric"], union (categories [decimalNumber]) (ranges [(0x66B, 0x66C)])),
   (["sc", "scontinue"], ranges Unicode.Table.sentenceParts),
   (["se", "sep"], ranges [(0x85, 0x85), (0x2028, 0x2029)]),
   (["sp"],
    difference blanks
      (ranges [(0x0A, 0x0A), (0x0D, 0x0D), (0x85, 0x85), (0x2028, 0x2029)])),
   (["st", "sterm"], difference (ranges Unicode.Table.sentenceEnds) (ranges Unicode.Table.stops)),
   (["up", "upper"], sentenceUpper)]

end MessageExpr.CharSet
