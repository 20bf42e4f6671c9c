import MessageExpr.Library
import MessageExpr.Pattern.Match
import MessageExpr.Pattern.Scan

/-!
# Reading patterns

Patterns are read as regular expressions with classes of characters, groups, assertions and
repetitions, but without looking ahead or behind and without references to groups. A class may
contain classes and combine them by set operations.

## Main definitions

* `Reader.bracket` — a class between brackets
* `Reader.body` — a whole pattern or the inside of a group
* `Pattern.read?` — reads a pattern
* `Pattern.library` — these patterns as a library of regular expressions
-/

namespace MessageExpr.Pattern

/-- A pattern with the depth to which its parts are nested. -/
structure Part where
  pattern : Pattern
  depth : Nat
  /-- Whether a repetition may follow; none may follow a switch of flags. -/
  repeatable : Bool

/-- A class with the depth to which its parts are nested. -/
structure Group where
  set : CharSet
  depth : Nat

/-- The set operations inside brackets. -/
inductive SetOperation where
  | intersection
  | difference
  | symmetricDifference
  deriving DecidableEq, Repr

/-- Combines two sets. -/
def SetOperation.apply : SetOperation → CharSet → CharSet → CharSet
  | intersection => .intersection
  | difference => .difference
  | symmetricDifference => .symmetricDifference

/-- The items of a class together. -/
def unionOf : List Group → Group
  | [] => ⟨.empty, 0⟩
  | [item] => item
  | items => ⟨items.foldr (fun item s => .union item.set s) .empty,
      1 + (items.map (·.depth)).foldl max 0⟩

/-- What is read of a class: the left side of an operation, if there is one, and the items that
follow, latest first. -/
structure Opened where
  /-- Whether the class is meant to hold what it does not name. -/
  negated : Bool
  pending : Option (SetOperation × Group)
  items : List Group

/-- The next character after the current one, white space and the start of a comment left out
when the pattern is spread. -/
def afterSpace (spread : Bool) (rest : List Char) : Option Char :=
  if spread then
    match (rest.drop 1).dropWhile Unicode.isBlank with
    | '#' :: more => (more.dropWhile Unicode.isBlank).head?
    | more => more.head?
  else rest[1]?

namespace Reader

/-! ## Classes between brackets -/

/-- A character as an item of a class. Without the flag for Unicode only ASCII is allowed. -/
def classChar (c : Char) : Reader Char := do
  require ((← has .unicode) || c.toNat < 0x80)
  pure c

/-- One item of a class. -/
def classAtom : Reader Atom := do
  let c ← look
  if c == '\\' then escape
  else
    drop 1
    pure (.literal c false)

/-- The character of an item that starts or ends a range. -/
def endOfRange : Atom → Reader Char
  | .literal c _ => classChar c
  | _ => failure

/-- One item of a class, or a range between two. -/
def classItem : Reader Group := do
  let first ← classAtom
  skipSpace
  let c ← look
  let s ← get
  let next := afterSpace (s.flags.contains .spread) s.rest
  if c != '-' || next == some ']' || next == some '-' then
    match first with
    | .literal c _ =>
      let c ← classChar c
      pure ⟨.single c, 0⟩
    | .set s => pure ⟨s, 0⟩
    | .assertion _ => failure
  else
    bump
    let low ← endOfRange first
    let last ← classAtom
    let high ← endOfRange last
    require (low.toNat ≤ high.toNat)
    pure ⟨.ranges [(low.toNat, high.toNat)], 0⟩

/-- The class between colons at the start of a text, whether it is negated, and what follows. -/
def namedClass? (t : List Char) : Option (CharSet × Bool × List Char) := do
  let t ← Text.after? ['[', ':'] t
  let (negated, t) := match t with
    | '^' :: rest => (true, rest)
    | _ => (false, t)
  let (name, rest) ← Text.splitOnce? [':'] t
  let s ← CharSet.ofAsciiName? (String.ofList name)
  let rest ← Text.after? [']'] rest
  pure (s, negated, rest)

/-- Reads up to `bound` hyphens at the start of a class. -/
def hyphens : Nat → Reader (List Group)
  | 0 => pure []
  | bound + 1 => do
    if (← look) == '-' then
      bump
      let more ← hyphens bound
      pure (⟨.single '-', 0⟩ :: more)
    else pure []

/-- Opens a class. A bracket or hyphens at its start stand for themselves. -/
def openClass : Reader Opened := do
  bump
  let negated := (← look) == '^'
  if negated then bump
  let s ← get
  let items ← hyphens s.rest.length
  if items.isEmpty && (← look) == ']' then
    bump
    pure ⟨negated, none, [⟨.single ']', 0⟩]⟩
  else pure ⟨negated, none, items⟩

/-- Applies the operation that waits for its right side. -/
def settle (opened : Opened) : Reader Group := do
  let right := unionOf opened.items
  match opened.pending with
  | none => pure right
  | some (operation, left) => do
    let s := operation.apply (← fold left.set) (← fold right.set)
    pure ⟨s, 1 + max left.depth right.depth⟩

/-- The class of what was read between two brackets. -/
def closeClass (opened : Opened) : Reader Group := do
  let inside ← settle opened
  let s ← fold inside.set
  let s ← complementIf opened.negated s
  pure ⟨s, inside.depth + 1⟩

/-- The operation that stands here, if one does. -/
def operation? (t : List Char) : Option SetOperation :=
  match t with
  | '&' :: '&' :: _ => some .intersection
  | '-' :: '-' :: _ => some .difference
  | '~' :: '~' :: _ => some .symmetricDifference
  | _ => none

/-- Reads a class up to after the bracket that closes it. The bound on the number of items is
the length of the pattern. -/
def classRest : Nat → Opened → Reader Group
  | 0, _ => failure
  | bound + 1, opened => do
    skipSpace
    let s ← get
    match s.rest with
    | [] => failure
    | ']' :: _ => do
      drop 1
      closeClass opened
    | '[' :: _ =>
      match namedClass? s.rest with
      | some (named, negated, rest) => do
        set { s with rest := rest }
        let named ← complementIf negated (← fold named)
        classRest bound { opened with items := ⟨named, 0⟩ :: opened.items }
      | none => do
        let inner ← openClass
        let inner ← classRest bound inner
        classRest bound { opened with items := inner :: opened.items }
    | t =>
      match operation? t with
      | some operation => do
        drop 2
        let left ← settle opened
        classRest bound { opened with pending := some (operation, left), items := [] }
      | none => do
        let item ← classItem
        classRest bound { opened with items := item :: opened.items }

/-- A class between brackets. -/
def bracket : Reader Part := do
  let s ← get
  let opened ← openClass
  let group ← classRest s.rest.length opened
  pure ⟨.one group.set, group.depth, true⟩

/-! ## Parts outside brackets -/

/-- A character that stands for itself. -/
def literal (c : Char) : Reader Pattern := do
  let s ← fold (.single c)
  pure (.one s)

/-- Any character but those that end lines, unless they are meant too. -/
def anyChar : Reader Pattern := do
  require (← has .unicode)
  if ← has .dotAll then pure (.one .all)
  else if ← has .returns then
    pure (.one (.complement (.ranges [(0x0a, 0x0a), (0x0d, 0x0d)])))
  else pure (.one (.complement (.single '\n')))

/-- The assertion of the start of the text or of a line. -/
def startMark : Reader Assertion := do
  if ← has .lines then
    let returns ← has .returns
    pure (.lineStart returns)
  else pure .textStart

/-- The assertion of the end of the text or of a line. -/
def endMark : Reader Assertion := do
  if ← has .lines then
    let returns ← has .returns
    pure (.lineEnd returns)
  else pure .textEnd

/-- A single part. -/
def single : Reader Part := do
  let c ← look
  let pattern ← match c with
    | '\\' => do
      match ← escape with
      | .literal c byte =>
        require (!byte || c.toNat < 0x80 || (← has .unicode))
        literal c
      | .set s => pure (.one s)
      | .assertion a => pure (.assertion a)
    | '.' => do
      drop 1
      anyChar
    | '^' => do
      drop 1
      let a ← startMark
      pure (.assertion a)
    | '$' => do
      drop 1
      let a ← endMark
      pure (.assertion a)
    | c => do
      drop 1
      literal c
  pure ⟨pattern, 0, true⟩

/-- Parts in a row. -/
def row : List Part → Part
  | [] => ⟨.empty, 0, true⟩
  | [part] => part
  | parts => ⟨parts.foldr (fun part p => .concat part.pattern p) .empty,
      1 + (parts.map (·.depth)).foldl max 0, true⟩

/-- Parts of which one is meant. -/
def choice (first : Part) (more : List Part) : Part :=
  match more with
  | [] => first
  | more => ⟨more.foldl (fun p part => .either p part.pattern) first.pattern,
      1 + (more.map (·.depth)).foldl max first.depth, true⟩

/-- The bounds of the repetition that stands here. Whether few or many repetitions are tried
first makes no difference. -/
def repetition (mark : Char) : Reader (Nat × Option Nat) := do
  let result ← match mark with
    | '?' => do
      drop 1
      pure (0, some 1)
    | '*' => do
      drop 1
      pure (0, none)
    | '+' => do
      drop 1
      pure (1, none)
    | _ => bounds
  if (← peek) == some '?' then drop 1
  pure result

/-- Reads a pattern or the inside of a group, up to the end or to a closing parenthesis, where
`branches` are the finished alternatives and `parts` the parts of the current one, both latest
first. The bound on the number of parts is the length of the pattern. -/
def body : Nat → List Part → List Part → Reader Part
  | 0, _, _ => failure
  | bound + 1, branches, parts => do
    skipSpace
    match ← peek with
    | none | some ')' =>
      match (row parts.reverse :: branches).reverse with
      | [] => failure
      | first :: more => pure (choice first more)
    | some '|' => do
      drop 1
      body bound (row parts.reverse :: branches) []
    | some '(' => do
      let before ← get
      if ← groupStart then
        let inner ← body bound [] []
        require ((← peek) == some ')')
        -- What was switched inside the group ends with it.
        modify fun s => { s with rest := s.rest.drop 1, flags := before.flags }
        body bound branches (⟨inner.pattern, inner.depth + 1, true⟩ :: parts)
      else body bound branches (⟨.empty, 0, false⟩ :: parts)
    | some '[' => do
      let part ← bracket
      body bound branches (part :: parts)
    | some c =>
      if c == '?' || c == '*' || c == '+' || c == '\x7b' then
        match parts with
        | [] => failure
        | part :: parts => do
          require part.repeatable
          let (least, most) ← repetition c
          let pattern := .repeated part.pattern least most
          body bound branches (⟨pattern, part.depth + 1, true⟩ :: parts)
      else do
        let part ← single
        body bound branches (part :: parts)

end Reader

/-! ## Whole patterns -/

/-- How deeply the parts of a pattern may be nested. -/
def maxDepth : Nat := 250

/-- Reads a pattern. -/
def read? (t : List Char) : Option Pattern := do
  let (part, s) ← (Reader.body (t.length + 1) [] []).run ⟨t, [.unicode], []⟩
  if s.rest.isEmpty && part.depth ≤ maxDepth then pure part.pattern else none

/-- How many bytes the automaton of a pattern may take. -/
def maxSize : Nat := 10485760

/-- How many bytes a state of an automaton takes. -/
def stateSize : Nat := 32

/-- The report on a text that is no pattern. It does not go into the reasons. -/
def report (text : String) : String := "regex parse error:\n    " ++ text

/-- Reads a pattern that may not be too large. -/
def build (text : String) : Except PatternFlaw Pattern :=
  match read? text.toList with
  | none => .error (.malformed (report text))
  | some p => if p.states * stateSize > maxSize then .error (.tooLarge maxSize) else .ok p

/-- Whether a pattern matches some part of a text. -/
def isMatch (p : Pattern) (text : String) : Bool := p.occursIn text.toList

/-- The patterns as a library of regular expressions. -/
instance library : PatternLibrary where
  Compiled := Pattern
  compile := build
  isMatch := isMatch

end MessageExpr.Pattern
