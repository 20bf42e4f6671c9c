import MessageExpr.Unicode.Category
import MessageExpr.Token.Basic

/-!
# Reading tokens

A token can be read at any index of a text, and a filter can restrict the kinds that may be
recognised; an empty filter allows every kind. A number is looked for first, then an escape
sequence, then the spellings in the order of the list. Anything else is a single character, so
reading never fails.

## Main definitions

* `Spelling`, `spellings` — the fixed spellings of tokens
* `Token.read` — the token at the start of a text
* `Token.readAt` — the token at an index of a text
* `tokenize` — all tokens of a text

## Main results

* `Token.length_pos_of_read` — only the end of the text gives an empty token
-/

namespace MessageExpr

/-! ## Spellings -/

/-- A fixed spelling of a kind of token. -/
structure Spelling where
  kind : TokenKind
  text : List Char
  deriving DecidableEq, Repr

/-- The spellings, in the order in which they are tried. -/
def spellings : List Spelling :=
  -- Where one spelling starts another, the longer one stands first.
  [⟨.whitespace, [' ']⟩, ⟨.whitespace, ['\t']⟩, ⟨.whitespace, ['\n']⟩, ⟨.whitespace, ['\r']⟩,
   ⟨.functionStart, ['$', '\x7b']⟩,
   ⟨.functionStart, ['$', 's', 'i', 'm', 'p', 'l', 'e', '\x7b']⟩,
   ⟨.functionEnd, ['\x7d']⟩, ⟨.singleQuote, ['\'']⟩, ⟨.doubleQuote, ['"']⟩,
   ⟨.booleanValue, "true".toList⟩, ⟨.booleanValue, "false".toList⟩,
   ⟨.nullValue, "null".toList⟩,
   ⟨.unaryOperator, "++".toList⟩, ⟨.unaryOperator, "--".toList⟩,
   ⟨.logicalOperator, "&&".toList⟩, ⟨.logicalOperator, "||".toList⟩,
   ⟨.binaryOperator, "==".toList⟩, ⟨.binaryOperator, "=~".toList⟩,
   ⟨.binaryOperator, ">=".toList⟩, ⟨.binaryOperator, "<=".toList⟩,
   ⟨.binaryOperator, ">".toList⟩, ⟨.binaryOperator, "<".toList⟩,
   ⟨.binaryOperator, "!=~".toList⟩, ⟨.binaryOperator, "!=".toList⟩,
   ⟨.binaryOperator, "not is".toList⟩, ⟨.binaryOperator, "!is".toList⟩,
   ⟨.binaryOperator, "is".toList⟩,
   ⟨.binaryOperator, "not contains".toList⟩, ⟨.binaryOperator, "!contains".toList⟩,
   ⟨.binaryOperator, "contains".toList⟩,
   ⟨.binaryOperator, "!~~".toList⟩, ⟨.binaryOperator, "~~".toList⟩,
   ⟨.binaryOperator, "not regex".toList⟩, ⟨.binaryOperator, "!regex".toList⟩,
   ⟨.binaryOperator, "regex".toList⟩,
   ⟨.binaryOperator, "not in".toList⟩, ⟨.binaryOperator, "!in".toList⟩,
   ⟨.binaryOperator, "in".toList⟩,
   ⟨.binaryOperator, "not range".toList⟩, ⟨.binaryOperator, "!range".toList⟩,
   ⟨.binaryOperator, "range".toList⟩,
   ⟨.binaryOperator, "starts with".toList⟩, ⟨.binaryOperator, "startsWith".toList⟩,
   ⟨.binaryOperator, "ends with".toList⟩, ⟨.binaryOperator, "endsWith".toList⟩,
   ⟨.minus, ['-']⟩]

/-- Whether a filter allows a kind. -/
def allows (filter : List TokenKind) (kind : TokenKind) : Bool :=
  filter.isEmpty || filter.contains kind

/-- Whether the character belongs to a word. -/
def isWordPart (c : Char) : Bool := Unicode.isAlphanumeric c || c == '_'

/-- Whether the neighbours allow the spelling between them: a minus sign stands directly
before a digit, and a spelling that starts or ends with a letter is a whole word there. -/
def Spelling.fits (s : Spelling) (before after : Option Char) : Bool :=
  if s.kind = .minus then after.any Char.isDigit
  else
    !(s.text.head?.any Char.isAlpha && before.any isWordPart) &&
      !(s.text.getLast?.any Char.isAlpha && after.any isWordPart)

/-- Whether the spelling stands at the start of a text. -/
def Spelling.startsAt (s : Spelling) (before : Option Char) (t : List Char) : Bool :=
  s.text.isPrefixOf t && s.fits before (t.drop s.text.length).head?

/-- The first spelling of an allowed kind at the start of a text. -/
def spelling? (filter : List TokenKind) (before : Option Char) (t : List Char) :
    Option Spelling :=
  spellings.find? fun s => allows filter s.kind && s.startsAt before t

/-! ## Numbers and escape sequences -/

/-- The number at the start of a text: digits, and a point with more digits. -/
def number? (t : List Char) : Option (List Char) :=
  let whole := t.takeWhile Char.isDigit
  if whole.isEmpty then none
  else
    -- A point without a digit after it is not part of the number.
    match t.dropWhile Char.isDigit with
    | '.' :: c :: rest =>
      if c.isDigit then some (whole ++ '.' :: (c :: rest).takeWhile Char.isDigit)
      else some whole
    | _ => some whole

/-- The character that a letter after a backslash stands for. -/
def escapeLetter? : Char → Option Char
  | 'n' => some '\n'
  | 't' => some '\t'
  | 'r' => some '\r'
  | '$' => some '$'
  | '\x7b' => some '\x7b'
  | '\x7d' => some '\x7d'
  | '\'' => some '\''
  | '"' => some '"'
  | '\\' => some '\\'
  | _ => none

/-- The character that the escape sequence at the start of a text stands for. -/
def escape? : List Char → Option Char
  | '\\' :: c :: _ => escapeLetter? c
  | _ => none

/-! ## One token -/

namespace Token

/-- The token at the start of a text, where `before` is the character before the text. -/
def read (escapes : Bool) (filter : List TokenKind) (before : Option Char) (index : Nat) :
    List Char → Token
  | [] => endOfLine index
  | c :: rest =>
    match if allows filter .numericValue then number? (c :: rest) else none with
    | some digits => ⟨.numericValue, String.ofList digits, index, digits.length⟩
    | none =>
      match if escapes then escape? (c :: rest) else none with
      | some e => ⟨.character, String.ofList [e], index, 2⟩
      | none =>
        match spelling? filter before (c :: rest) with
        | some s => ⟨s.kind, String.ofList s.text, index, s.text.length⟩
        | none => ⟨.character, String.ofList [c], index, 1⟩

/-- The token at an index of a text. -/
def readAt (escapes : Bool) (filter : List TokenKind) (t : List Char) (index : Nat) : Token :=
  read escapes filter (if index = 0 then none else t[index - 1]?) index (t.drop index)

theorem mem_spellings_of_spelling? {filter : List TokenKind} {before : Option Char}
    {t : List Char} {s : Spelling} (h : spelling? filter before t = some s) : s ∈ spellings :=
  List.mem_of_find?_eq_some h

theorem length_pos_of_mem_spellings :
    ∀ s ∈ spellings, 0 < s.text.length ∧ s.kind ≠ .endOfLine := by
  decide

theorem length_pos_of_number? {t digits : List Char} (h : number? t = some digits) :
    0 < digits.length := by
  simp only [number?] at h
  cases hw : t.takeWhile Char.isDigit with
  | nil => simp [hw] at h
  | cons d more =>
    simp only [hw, List.isEmpty_cons, Bool.false_eq_true, if_false] at h
    split at h
    · split at h <;> (cases h; simp)
    · cases h; simp

/-- Only the end of the text gives an empty token, and only it is read as the end. -/
theorem length_pos_of_read {escapes : Bool} {filter : List TokenKind} {before : Option Char}
    {index : Nat} {t : List Char} (h : t ≠ []) :
    0 < (read escapes filter before index t).length ∧
      (read escapes filter before index t).isEnd = false := by
  cases t with
  | nil => exact absurd rfl h
  | cons c rest =>
    simp only [read]
    split
    · rename_i digits hd
      split at hd
      · exact ⟨length_pos_of_number? hd, rfl⟩
      · cases hd
    · split
      · exact ⟨Nat.succ_pos 1, rfl⟩
      · split
        · rename_i s hs
          have := length_pos_of_mem_spellings s (mem_spellings_of_spelling? hs)
          exact ⟨this.1, by simp [isEnd, this.2]⟩
        · exact ⟨Nat.succ_pos 0, rfl⟩

theorem length_pos_of_readAt (escapes : Bool) (filter : List TokenKind) {t : List Char}
    {index : Nat} (h : index < t.length) :
    0 < (readAt escapes filter t index).length ∧
      (readAt escapes filter t index).isEnd = false :=
  length_pos_of_read (by simpa using h)

theorem readAt_of_length_le {escapes : Bool} {filter : List TokenKind} {t : List Char}
    {index : Nat} (h : t.length ≤ index) :
    readAt escapes filter t index = endOfLine index := by
  rw [readAt, List.drop_of_length_le h, read]

end Token

/-! ## All tokens -/

/-- The tokens of a text from an index on, the end included. -/
def tokensFrom (escapes : Bool) (t : List Char) (index : Nat) : List Token :=
  if h : index < t.length then
    have := Token.length_pos_of_readAt escapes [] h
    let token := Token.readAt escapes [] t index
    token :: tokensFrom escapes t (index + token.length)
  else [Token.endOfLine index]
termination_by t.length - index

/-- The tokens of a text, the end included. -/
def tokenize (escapes : Bool) (text : String) : List Token :=
  tokensFrom escapes text.toList 0

end MessageExpr
