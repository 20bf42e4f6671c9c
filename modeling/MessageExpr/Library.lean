/-!
# Libraries of regular expressions

Texts are compared with patterns by a library of regular expressions. All that is used of it are
the compilation of a pattern and the search in a text. A search succeeds wherever the pattern
matches a part of the text, so a pattern that is to match whole texts is put between marks for
their start and end before it is compiled.

## Main definitions

* `PatternFlaw` — why a library refuses a pattern
* `PatternLibrary` — what is used of a library
* `PatternLibrary.anchored`, `PatternLibrary.compileWhole` — patterns for whole texts
-/

namespace MessageExpr

/-- Why a library refuses a pattern. -/
inductive PatternFlaw where
  /-- The pattern is no regular expression. The library says why. -/
  | malformed (report : String)
  /-- The pattern takes more bytes than are allowed once it is compiled. -/
  | tooLarge (limit : Nat)
  deriving DecidableEq, Repr

/-- The wording of a flaw. -/
def PatternFlaw.message : PatternFlaw → String
  | malformed report => report
  | tooLarge limit => s!"Compiled regex exceeds size limit of {limit} bytes."

/-- A library of regular expressions. -/
class PatternLibrary where
  /-- The compiled patterns. -/
  Compiled : Type
  /-- Compiles a pattern, or says why it cannot be compiled. -/
  compile : String → Except PatternFlaw Compiled
  /-- Whether a pattern matches some part of a text. -/
  isMatch : Compiled → String → Bool

namespace PatternLibrary

/-- A pattern between marks for the start and the end of the text. -/
def anchored (pattern : String) : String := "^(?:" ++ pattern ++ ")$"

/-- Compiles a pattern that is to match whole texts. -/
def compileWhole [PatternLibrary] (pattern : String) : Except PatternFlaw Compiled :=
  compile (anchored pattern)

end PatternLibrary

end MessageExpr
