import MessageExpr.Problem
import MessageExpr.Token.Scan

/-!
# Cursors

A cursor moves over a text token by token and records what it passes. Each move may restrict
the kinds of tokens that are recognised, so what is recorded depends on the way taken.

## Main definitions

* `Cursor`, `Cursor.start` — a cursor, and the one at the start of a text
* `Cursor.next`, `Cursor.nextOf` — the next token, of any kind or of some kinds only
* `Cursor.expect`, `Cursor.expectRun` — checks on the current token
* `Cursor.skipFunction?` — passes over a function with the functions inside it
* `Cursor.todo` — what is left to do, for recursion

## Main results

* `Cursor.todo_nextOf_lt` — before the end every move leaves less to do
-/

namespace MessageExpr

/-- A cursor over a text. -/
structure Cursor where
  text : List Char
  /-- Whether a backslash escapes the character after it. -/
  escapes : Bool
  /-- The tokens passed so far. -/
  tokens : Array Token
  /-- The current token, once one has been read. -/
  current : Option Token
  /-- Where the current token was read. -/
  previousIndex : Nat
  /-- Where the next token will be read. -/
  index : Nat

/-! ## Moves and checks -/

namespace Cursor

/-- The cursor at the start of a text. -/
def start (escapes : Bool) (text : String) : Cursor :=
  ⟨text.toList, escapes, #[], none, 0, 0⟩

/-- Takes the cursor back to the start of its text. -/
def clear (c : Cursor) : Cursor :=
  { c with tokens := #[], current := none, previousIndex := 0, index := 0 }

/-- Reads the next token, of the kinds of a filter only. -/
def nextOf (c : Cursor) (filter : List TokenKind) : Cursor :=
  let token := Token.readAt c.escapes filter c.text c.index
  { c with
    tokens := if token.isEnd then c.tokens else c.tokens.push token
    current := some token
    previousIndex := c.index
    index := c.index + token.length }

/-- Reads the next token of any kind. -/
def next (c : Cursor) : Cursor := c.nextOf []

/-- Whether the current token is of a kind. Before the first token every kind is at hand. -/
def accepts (c : Cursor) (kind : TokenKind) : Bool := c.current.all (·.kind == kind)

/-- Whether the end of the text has been read. -/
def atEnd (c : Cursor) : Bool := c.current.any Token.isEnd

/-- The current token, or the end of the text before the first one. -/
def token (c : Cursor) : Token := c.current.getD (Token.endOfLine 0)

/-- Fails unless the current token is of a kind. -/
def expect (c : Cursor) (kind : TokenKind) : Except Problem Unit :=
  match c.current with
  | none => .ok ()
  | some token =>
    if token.kind == kind && !token.isEnd then .ok ()
    else .error ⟨.expected kind token, c.previousIndex⟩

/-! ## What is left to do -/

/-- What is left to do: the characters that are not read yet, and the end. -/
def todo (c : Cursor) : Nat :=
  (c.text.length - c.index) + if c.atEnd then 0 else 1

/-- Whether `d` can be reached from `c` by reading on. -/
inductive Before : Cursor → Cursor → Prop where
  | refl (c : Cursor) : Before c c
  | nextOf {c d : Cursor} (h : Before c d) (filter : List TokenKind) : Before c (d.nextOf filter)

theorem Before.trans {a b c : Cursor} (h : Before a b) (h' : Before b c) : Before a c := by
  induction h' with
  | refl => exact h
  | nextOf _ filter ih => exact ih.nextOf filter

theorem Before.text_eq {c d : Cursor} (h : Before c d) : d.text = c.text := by
  induction h with
  | refl => rfl
  | nextOf _ _ ih => exact ih

theorem Before.escapes_eq {c d : Cursor} (h : Before c d) : d.escapes = c.escapes := by
  induction h with
  | refl => rfl
  | nextOf _ _ ih => exact ih

theorem Before.index_le {c d : Cursor} (h : Before c d) : c.index ≤ d.index := by
  induction h with
  | refl => exact Nat.le_refl _
  | nextOf _ _ ih => exact Nat.le_trans ih (Nat.le_add_right _ _)

theorem before_nextOf (c : Cursor) (filter : List TokenKind) : Before c (c.nextOf filter) :=
  (Before.refl c).nextOf filter

theorem before_next (c : Cursor) : Before c c.next := before_nextOf c []

/-- After a move only the characters after the old index are left. -/
theorem todo_nextOf_le (c : Cursor) (filter : List TokenKind) :
    (c.nextOf filter).todo ≤ c.text.length - c.index := by
  rcases Nat.lt_or_ge c.index c.text.length with h | h
  · have := Token.length_pos_of_readAt c.escapes filter h
    simp only [todo, nextOf, atEnd, Option.any_some, this.2, Bool.false_eq_true, if_false]
    omega
  · simp [todo, nextOf, atEnd, Token.readAt_of_length_le h, Token.endOfLine, Token.isEnd]

/-- Before the end every move leaves less to do. -/
theorem todo_nextOf_lt {c : Cursor} (h : c.atEnd = false) (filter : List TokenKind) :
    (c.nextOf filter).todo < c.todo := by
  have := c.todo_nextOf_le filter
  simp only [todo, h, Bool.false_eq_true, if_false] at this ⊢
  omega

/-- A move after others leaves less to do than before them. -/
theorem todo_nextOf_lt_of_before {c d : Cursor} (h : c.atEnd = false) (before : Before c d)
    (filter : List TokenKind) : (d.nextOf filter).todo < c.todo := by
  have le := d.todo_nextOf_le filter
  have ge := before.index_le
  rw [before.text_eq] at le
  simp only [todo, h, Bool.false_eq_true, if_false] at le ⊢
  omega

/-! ## Passing over several tokens -/

/-- Reads on while the current token is of a kind. -/
def skipRun (kind : TokenKind) (c : Cursor) : Cursor :=
  if h : c.atEnd then c
  else if c.current.any (·.kind == kind) then
    have := todo_nextOf_lt (c := c) (by simpa using h) []
    skipRun kind c.next
  else c
termination_by c.todo

/-- Fails unless the current token is of a kind, and passes over the run of such tokens. -/
def expectRun (c : Cursor) (kind : TokenKind) : Except Problem Cursor := do
  c.expect kind
  pure (c.skipRun kind)

/-- Reads on to the end of the function that the cursor is in, where `depth` counts the
functions that were opened inside it. -/
def skipTo (depth : Nat) (c : Cursor) : Cursor :=
  if h : c.atEnd then c
  else
    have := todo_nextOf_lt (c := c) (by simpa using h) []
    -- The end of an inner function leads back to the one around it.
    if c.accepts .functionEnd then
      match depth with
      | 0 => c
      | inner + 1 => skipTo inner c.next
    else if c.accepts .functionStart then skipTo (depth + 1) c.next
    else skipTo depth c.next
termination_by c.todo

/-- Passes over the function that starts at the cursor, up to the token that ends it, or to the
end of the text when none does. -/
def skipFunction? (c : Cursor) : Option Cursor :=
  if c.accepts .functionStart then some (c.next.skipTo 0) else none

theorem before_skipRun (kind : TokenKind) (c : Cursor) : Before c (c.skipRun kind) := by
  fun_induction skipRun kind c with
  | case1 => exact Before.refl _
  | case2 c _ _ _ ih => exact c.before_next.trans ih
  | case3 => exact Before.refl _

theorem before_skipTo (depth : Nat) (c : Cursor) : Before c (c.skipTo depth) := by
  fun_induction skipTo depth c with
  | case1 => exact Before.refl _
  | case2 => exact Before.refl _
  | case3 c _ _ _ _ ih => exact c.before_next.trans ih
  | case4 _ c _ _ _ _ ih => exact c.before_next.trans ih
  | case5 _ c _ _ _ _ ih => exact c.before_next.trans ih

theorem before_of_skipFunction? {c d : Cursor} (h : c.skipFunction? = some d) :
    Before c d := by
  unfold skipFunction? at h
  split at h
  · cases h
    exact c.before_next.trans (before_skipTo 0 _)
  · cases h

theorem before_of_expectRun {c d : Cursor} {kind : TokenKind}
    (h : c.expectRun kind = .ok d) : Before c d := by
  cases he : c.expect kind with
  | error p => simp [expectRun, he, bind, Except.bind] at h
  | ok u =>
    simp only [expectRun, he, bind, Except.bind, pure, Except.pure, Except.ok.injEq] at h
    exact h ▸ before_skipRun kind c

end Cursor

end MessageExpr
