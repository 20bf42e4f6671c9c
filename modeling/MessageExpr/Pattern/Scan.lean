import MessageExpr.Pattern.Named
import MessageExpr.Text.Basic

/-!
# Reading the parts of a pattern

The characters of a pattern are read one after the other under flags, which groups can change.
With the flag for spread patterns, white space and comments between the parts are skipped.

## Main definitions

* `Flag`, `Scan`, `Reader` — the state of a reader
* `Reader.escape` — what stands after a backslash
* `Reader.bounds` — the bounds of a repetition between braces
* `Reader.groupStart` — what stands at the start of a group
-/

namespace MessageExpr.Pattern

/-- What can be switched on and off inside a pattern. -/
inductive Flag where
  | ignoreCase
  | lines
  | dotAll
  | swapGreed
  | unicode
  | returns
  | spread
  deriving DecidableEq, Repr

/-- The flag of a letter. -/
def Flag.ofLetter? (c : Char) : Option Flag :=
  [('i', ignoreCase), ('m', lines), ('s', dotAll), ('U', swapGreed), ('u', unicode),
   ('R', returns), ('x', spread)].lookup c

/-- The state of a reader: the characters left, the flags that are on, and the names of the
groups so far. -/
structure Scan where
  rest : List Char
  flags : List Flag
  names : List (List Char)

/-- Reads a part of a pattern, or refuses it. -/
abbrev Reader := StateT Scan Option

/-- What a single part of a pattern stands for. -/
inductive Atom where
  /-- A character. One that is written by two hexadecimal digits may be meant as a byte. -/
  | literal (c : Char) (byte : Bool)
  | set (s : CharSet)
  | assertion (a : Assertion)

/-- Drops white space and comments, which go from a number sign to the end of the line. -/
def skipSpread (comment : Bool) : List Char → List Char
  | [] => []
  | c :: rest =>
    if comment then skipSpread (c != '\n') rest
    else if Unicode.isBlank c then skipSpread false rest
    else if c == '#' then skipSpread true rest
    else c :: rest

namespace Reader

/-- Whether a flag is on. -/
def has (flag : Flag) : Reader Bool := do
  let s ← get
  pure (s.flags.contains flag)

/-- The next character, if there is one. -/
def peek : Reader (Option Char) := do
  let s ← get
  pure s.rest.head?

/-- The next character. -/
def look : Reader Char := do
  match ← peek with
  | some c => pure c
  | none => failure

/-- Drops characters. -/
def drop (count : Nat) : Reader Unit :=
  modify fun s => { s with rest := s.rest.drop count }

/-- Skips white space and comments, when the pattern is spread. -/
def skipSpace : Reader Unit :=
  modify fun s =>
    if s.flags.contains .spread then { s with rest := skipSpread false s.rest } else s

/-- Moves to the next part. -/
def bump : Reader Unit := do
  drop 1
  skipSpace

/-- Drops a word, if it stands here. -/
def take (word : String) : Reader Bool := do
  let s ← get
  match Text.after? word.toList s.rest with
  | some rest =>
    set { s with rest := rest }
    pure true
  | none => pure false

/-- Fails unless a condition holds. -/
def require (condition : Bool) : Reader Unit :=
  if condition then pure () else failure

/-- Reads up to `bound` parts of one character of a class. -/
def spanUpTo (p : Char → Bool) : Nat → Reader (List Char)
  | 0 => pure []
  | bound + 1 => do
    match ← peek with
    | some c =>
      if p c then do
        bump
        let more ← spanUpTo p bound
        pure (c :: more)
      else pure []
    | none => pure []

/-- Reads the parts of one character of a class. -/
def span (p : Char → Bool) : Reader (List Char) := do
  let s ← get
  spanUpTo p s.rest.length

/-- A decimal number of 32 bits. White space may surround it. -/
def decimal : Reader Nat := do
  modify fun s => { s with rest := s.rest.dropWhile Unicode.isBlank }
  let digits ← span Char.isDigit
  modify fun s => { s with rest := s.rest.dropWhile Unicode.isBlank }
  let n := Nat.ofDigitChars 10 digits 0
  require (!digits.isEmpty && n < UInt32.size)
  pure n

/-! ## Escapes -/

/-- The value of a hexadecimal digit. -/
def hexValue? (c : Char) : Option Nat :=
  if c.isDigit then some (c.toNat - '0'.toNat)
  else if 'a' ≤ c ∧ c ≤ 'f' then some (c.toNat - 'a'.toNat + 10)
  else if 'A' ≤ c ∧ c ≤ 'F' then some (c.toNat - 'A'.toNat + 10)
  else none

/-- The character of hexadecimal digits. -/
def hexChar (digits : List Char) : Reader Char := do
  let values ← digits.mapM fun c => (hexValue? c : Option Nat)
  let n := values.foldl (fun n d => n * 16 + d) 0
  require (!digits.isEmpty && n.isValidChar)
  pure (Char.ofNat n)

/-- Reads a number of hexadecimal digits. -/
def hexDigits : Nat → Reader (List Char)
  | 0 => pure []
  | count + 1 => do
    let c ← look
    bump
    let more ← hexDigits count
    pure (c :: more)

/-- A character by its code point, after the letter that says how many digits there are. The
digits may also stand between braces. -/
def hexEscape (letter : Char) : Reader Atom := do
  bump
  if (← look) == '\x7b' then
    bump
    let digits ← span (· != '\x7d')
    let _ ← look
    bump
    let c ← hexChar digits
    pure (.literal c false)
  else
    let digits ← hexDigits (if letter == 'x' then 2 else if letter == 'u' then 4 else 8)
    let c ← hexChar digits
    pure (.literal c (letter == 'x'))

/-- The class with its cases, when cases are ignored. -/
def fold (s : CharSet) : Reader CharSet := do
  if ← has .ignoreCase then
    if ← has .unicode then pure (.folded s) else pure (.foldedAscii s)
  else pure s

/-- The complement of a class, or the class. Bytes have no complement. -/
def complementIf (negated : Bool) (s : CharSet) : Reader CharSet := do
  if negated then
    require (← has .unicode)
    pure (.complement s)
  else pure s

/-- The class of a property between braces: a name, or a property with its value. -/
def propertySet (name : List Char) : Reader (CharSet × Bool) :=
  match Text.splitOnce? ['!', '='] name with
  | some (property, value) => do
    let s ← (CharSet.ofPropertyValue? property value : Option CharSet)
    pure (s, true)
  | none =>
    match Text.splitOnce? [':'] name <|> Text.splitOnce? ['='] name with
    | some (property, value) => do
      let s ← (CharSet.ofPropertyValue? property value : Option CharSet)
      pure (s, false)
    | none => do
      let s ← (CharSet.ofPropertyName? name : Option CharSet)
      pure (s, false)

/-- The class of a property, after its letter. -/
def propertyEscape (negated : Bool) : Reader Atom := do
  require (← has .unicode)
  bump
  let c ← look
  if c == '\x7b' then
    bump
    let name ← span (· != '\x7d')
    let _ ← look
    drop 1
    let (s, unequal) ← propertySet name
    let s ← complementIf (negated != unequal) (← fold s)
    pure (.set s)
  else
    drop 1
    let s ← (CharSet.ofCategoryName? (CharSet.plainName [c]) : Option CharSet)
    let s ← complementIf negated (← fold s)
    pure (.set s)

/-- The class of a letter. -/
def letterSet (letter : Char) : Reader CharSet := do
  let unicode ← has .unicode
  let s := match letter.toLower with
    | 'd' => if unicode then CharSet.digits else CharSet.asciiDigits
    | 's' => if unicode then CharSet.blanks else CharSet.asciiBlanks
    | _ => if unicode then CharSet.word else CharSet.asciiWord
  complementIf letter.isUpper s

/-! ## Assertions -/

/-- What stands between braces after the letter of a word boundary, if it is a kind of boundary
and no repetition. -/
def boundaryKind (unicode : Bool) : Reader Assertion := do
  let s ← get
  if s.rest.head? != some '\x7b' then pure (.wordBoundary unicode)
  else do
    bump
    -- Anything but a letter after the brace starts the bounds of a repetition.
    if !(← look).isAlpha && (← look) != '-' then
      set s
      pure (.wordBoundary unicode)
    else do
      let name ← span fun c => c.isAlpha || c == '-'
      require ((← look) == '\x7d')
      drop 1
      let name := String.ofList name
      if name == "start" then pure (.wordStart unicode)
      else if name == "end" then pure (.wordEnd unicode)
      else if name == "start-half" then pure (.wordStartHalf unicode)
      else if name == "end-half" then pure (.wordEndHalf unicode)
      else failure

/-- Characters with a meaning of their own. -/
def metaCharacters : List Char :=
  ['\\', '.', '+', '*', '?', '(', ')', '|', '[', ']', '\x7b', '\x7d', '^', '$', '#', '&', '-', '~']

/-- Whether a character stands for itself after a backslash. -/
def isEscapable (c : Char) : Bool :=
  metaCharacters.contains c ||
    (c.toNat < 0x80 && !c.isAlphanum && c != '<' && c != '>')

/-- The characters that letters after a backslash stand for. -/
def controlLetters : List (Char × Char) :=
  [('a', '\x07'), ('f', '\x0c'), ('t', '\t'), ('n', '\n'), ('r', '\r'), ('v', '\x0b')]

/-- What stands after a backslash. -/
def escape : Reader Atom := do
  drop 1
  let c ← look
  if c == 'x' || c == 'u' || c == 'U' then hexEscape c
  else if c == 'p' || c == 'P' then propertyEscape (c == 'P')
  else do
    drop 1
    if ['d', 's', 'w', 'D', 'S', 'W'].contains c then
      let s ← letterSet c
      pure (.set s)
    else if isEscapable c then pure (.literal c false)
    else
      match controlLetters.lookup c with
      | some control => pure (.literal control false)
      | none =>
        let unicode ← has .unicode
        match c with
        | 'A' => pure (.assertion .textStart)
        | 'z' => pure (.assertion .textEnd)
        | 'b' => do
          let a ← boundaryKind unicode
          pure (.assertion a)
        | 'B' => pure (.assertion (.notWordBoundary unicode))
        | '<' => pure (.assertion (.wordStart unicode))
        | '>' => pure (.assertion (.wordEnd unicode))
        | _ => failure

/-! ## Repetitions and groups -/

/-- The bounds of a repetition, from the opening brace to after the closing one. -/
def bounds : Reader (Nat × Option Nat) := do
  bump
  let least ← decimal
  let most ← do
    if (← look) == ',' then
      bump
      if (← look) == '\x7d' then pure none
      else do
        let most ← decimal
        pure (some most)
    else pure (some least)
  require ((← look) == '\x7d')
  bump
  require (most.all (least ≤ ·))
  pure (least, most)

/-- Whether a character may stand in the name of a group. -/
def isNameChar (first : Bool) (c : Char) : Bool :=
  if first then c == '_' || Unicode.isAlphabetic c
  else c == '_' || c == '.' || c == '[' || c == ']' || Unicode.isAlphanumeric c

/-- Whether a text may be the name of a group. -/
def isName : List Char → Bool
  | [] => false
  | c :: rest => isNameChar true c && rest.all (isNameChar false)

/-- The name of a group, up to after the bracket that ends it. Each name is given once. -/
def groupName : Reader Unit := do
  let s ← get
  let name := s.rest.takeWhile (· != '>')
  require (isName name && !s.names.contains name && name.length < s.rest.length)
  set { s with rest := s.rest.drop (name.length + 1), names := name :: s.names }

/-- The changes of flags: letters to switch on, and after a minus sign letters to switch off.
No letter stands twice. -/
def flagChanges? (on : Bool) (seen : List Flag) : List Char → Option (List (Flag × Bool))
  | [] => some []
  | '-' :: rest => if on && !rest.isEmpty then flagChanges? false seen rest else none
  | c :: rest => do
    let flag ← Flag.ofLetter? c
    if seen.contains flag then none
    else do
      let more ← flagChanges? on (flag :: seen) rest
      pure ((flag, on) :: more)

/-- Switches flags. -/
def switch (flags : List Flag) : List (Flag × Bool) → List Flag
  | [] => flags
  | (flag, on) :: rest =>
    let others := flags.filter (· != flag)
    switch (if on then flag :: others else others) rest

/-- Reads the start of a group. Answers whether there is a group: flags may also be switched for
the rest of the group around. Nothing looks ahead or behind. -/
def groupStart : Reader Bool := do
  bump
  let s ← get
  require (["?=", "?!", "?<=", "?<!"].all fun word => !word.toList.isPrefixOf s.rest)
  -- The second spelling is only looked for where the first one does not stand.
  let named ← do
    if ← take "?P<" then pure true else take "?<"
  if named then
    groupName
    pure true
  else if ← take "?" then
    let s ← get
    let letters := s.rest.takeWhile fun c => c != ':' && c != ')'
    let changes ← (flagChanges? true [] letters : Option (List (Flag × Bool)))
    drop letters.length
    let last ← look
    drop 1
    require (last == ':' || !letters.isEmpty)
    modify fun s => { s with flags := switch s.flags changes }
    pure (last == ':')
  else pure true

end Reader

end MessageExpr.Pattern
