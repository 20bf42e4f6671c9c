import MessageExpr.Unicode.Case

/-!
# Patterns

A pattern is a regular expression over characters, with assertions about the place between two
characters. Groups leave no trace, since only the question whether a text matches is asked.

## Main definitions

* `CharSet`, `CharSet.contains` — sets of characters
* `Assertion`, `Assertion.holds` — what can be asserted about a place
* `Pattern` — patterns
* `Pattern.states` — an estimate of the size of an automaton for a pattern
-/

namespace MessageExpr

/-- A set of characters. -/
inductive CharSet where
  | ranges (l : List Unicode.Range)
  | categories (l : List Unicode.Category)
  | alphabetic
  | lowercase
  | uppercase
  | word
  | complement (s : CharSet)
  | union (s t : CharSet)
  | intersection (s t : CharSet)
  | difference (s t : CharSet)
  | symmetricDifference (s t : CharSet)
  /-- The characters that differ from one of the set in case only. -/
  | folded (s : CharSet)
  /-- The same for the ASCII letters alone. -/
  | foldedAscii (s : CharSet)
  deriving DecidableEq, Repr

namespace CharSet

/-- The set without characters. -/
def empty : CharSet := ranges []

/-- The set of all characters. -/
def all : CharSet := complement empty

/-- The set of one character. -/
def single (c : Char) : CharSet := ranges [(c.toNat, c.toNat)]

/-- An ASCII letter in the other case, any other character as it is. -/
def swapCase (c : Char) : Char := if c.isUpper then c.toLower else c.toUpper

/-- Whether a character belongs to a set. -/
def contains : CharSet → Char → Bool
  | ranges l, c => Unicode.inRanges l c.toNat
  | categories l, c => Unicode.inCategories l c
  | alphabetic, c => Unicode.isAlphabetic c
  | lowercase, c => Unicode.isLowercase c
  | uppercase, c => Unicode.isUppercase c
  | word, c => Unicode.isWordChar c
  | complement s, c => !s.contains c
  | union s t, c => s.contains c || t.contains c
  | intersection s t, c => s.contains c && t.contains c
  | difference s t, c => s.contains c && !t.contains c
  | symmetricDifference s t, c => s.contains c != t.contains c
  | folded s, c =>
    s.contains c || (Unicode.foldClass c.toNat).any fun n => s.contains (Char.ofNat n)
  | foldedAscii s, c => s.contains c || s.contains (swapCase c)

/-- The number of states that reading one character of the set takes, roughly. A character beyond
ASCII is read in several steps, and a class takes one or two states for each of its ranges. -/
def states : CharSet → Nat
  | ranges l =>
    let wide := l.countP (0x80 ≤ ·.2)
    (l.map fun r => (Char.ofNat r.2).utf8Size).foldl max (max 1 wide)
  | categories l => (l.map fun category => 2 * category.ranges.length).foldl (· + ·) 1
  | alphabetic | lowercase | uppercase | word => 1450
  -- What a small class leaves out still has characters of every length.
  | complement s => s.states + 10
  | folded s => s.states + 4
  | foldedAscii s => s.states
  | union s t | intersection s t | difference s t | symmetricDifference s t =>
    max s.states t.states

end CharSet

/-- What can be asserted about a place between two characters. -/
inductive Assertion where
  | textStart
  | textEnd
  /-- The start of a line; a carriage return may end lines too. -/
  | lineStart (returns : Bool)
  /-- The end of a line; a carriage return may end lines too. -/
  | lineEnd (returns : Bool)
  | wordBoundary (unicode : Bool)
  | notWordBoundary (unicode : Bool)
  | wordStart (unicode : Bool)
  | wordEnd (unicode : Bool)
  /-- No word goes on before the place. -/
  | wordStartHalf (unicode : Bool)
  /-- No word goes on after the place. -/
  | wordEndHalf (unicode : Bool)
  deriving DecidableEq, Repr

namespace Assertion

/-- Whether a character belongs to a word, of the whole repertoire or of ASCII alone. -/
def inWord (unicode : Bool) (c : Char) : Bool :=
  if unicode then Unicode.isWordChar c else c.isAlphanum || c == '_'

/-- Whether an assertion holds between two characters, or at an end of the text. -/
def holds (a : Assertion) (before after : Option Char) : Bool :=
  match a with
  | textStart => before.isNone
  | textEnd => after.isNone
  | lineStart false => before.isNone || before == some '\n'
  | lineStart true =>
    before.isNone || before == some '\n' || (before == some '\r' && after != some '\n')
  | lineEnd false => after.isNone || after == some '\n'
  | lineEnd true =>
    after.isNone || after == some '\r' || (after == some '\n' && before != some '\r')
  | wordBoundary unicode => before.any (inWord unicode) != after.any (inWord unicode)
  | notWordBoundary unicode => before.any (inWord unicode) == after.any (inWord unicode)
  | wordStart unicode => !before.any (inWord unicode) && after.any (inWord unicode)
  | wordEnd unicode => before.any (inWord unicode) && !after.any (inWord unicode)
  | wordStartHalf unicode => !before.any (inWord unicode)
  | wordEndHalf unicode => !after.any (inWord unicode)

end Assertion

/-- A regular expression. -/
inductive Pattern where
  | empty
  | one (s : CharSet)
  | assertion (a : Assertion)
  | concat (p q : Pattern)
  | either (p q : Pattern)
  /-- At least `least` times, and at most `most` times if that is given. -/
  | repeated (p : Pattern) (least : Nat) (most : Option Nat)
  deriving DecidableEq, Repr

namespace Pattern

/-- The number of states of an automaton for a pattern, with repetitions written out. -/
def states : Pattern → Nat
  | empty => 1
  | one s => s.states
  | assertion _ => 1
  | concat p q => p.states + q.states
  | either p q => p.states + q.states + 1
  | repeated p least none => max least 1 * p.states + 1
  | repeated p least (some most) => least * p.states + (most - least) * (p.states + 1)

end Pattern

end MessageExpr
