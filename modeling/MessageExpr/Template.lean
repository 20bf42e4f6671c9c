import MessageExpr.Cursor
import MessageExpr.Node.Flat
import MessageExpr.Node.Link

/-!
# Templates

A template is text with embedded functions:

    template := ( function unary? | text )*
    function := start ( function | any )* end
    unary    := ( "++" | "--" ) whitespace?

Outside functions every token is text, spellings of operators and quotes included. Only a unary
operator directly after a function has a meaning.

## Main definitions

* `Template.tokens` — the tokens of a template
* `Template.pieces` — what each token becomes
* `Template.parse` — the linked nodes of a template
-/

namespace MessageExpr.Template

/-- A unary operator after a function is followed by white space or the end of the text. -/
def afterFunction (c : Cursor) : Except Problem Cursor :=
  if c.atEnd || !c.accepts .unaryOperator then .ok c
  else if c.next.atEnd then .ok c.next
  else do
    c.next.expect .whitespace
    pure c.next

theorem before_of_afterFunction {c d : Cursor} (h : afterFunction c = .ok d) :
    d = c ∨ c.atEnd = false ∧ d = c.next := by
  unfold afterFunction at h
  split at h
  · cases h
    exact .inl rfl
  · rename_i hc
    have open_ : c.atEnd = false := by
      cases hv : c.atEnd <;> simp_all
    split at h
    · cases h
      exact .inr ⟨open_, rfl⟩
    · cases he : c.next.expect .whitespace <;>
        simp only [he, bind, Except.bind, pure, Except.pure] at h <;> cases h
      exact .inr ⟨open_, rfl⟩

/-- After a function and what follows it, less is left to do. -/
theorem todo_lt_of_afterFunction {c d e : Cursor} (open_ : c.atEnd = false)
    (skipped : c.skipFunction? = some d) (after : afterFunction d.next = .ok e) :
    e.todo < c.todo := by
  have less := Cursor.todo_nextOf_lt_of_before open_ (Cursor.before_of_skipFunction? skipped) []
  rcases before_of_afterFunction after with rfl | ⟨more, rfl⟩
  · exact less
  · exact Nat.lt_trans (Cursor.todo_nextOf_lt more []) less

/-- Moves the cursor to the end of the text. -/
def run (c : Cursor) : Except Problem Cursor :=
  if atEnd : c.atEnd then .ok c
  else
    match skipped : c.skipFunction? with
    | some d =>
      match after : afterFunction d.next with
      | .error problem => .error problem
      | .ok e =>
        have := todo_lt_of_afterFunction (by simpa using atEnd) skipped after
        run e
    | none =>
      have := Cursor.todo_nextOf_lt (c := c) (by simpa using atEnd) []
      run c.next
termination_by c.todo

/-- The tokens of a template. -/
def tokens (escapes : Bool) (text : String) : Except Problem (List Token) := do
  let c ← run (Cursor.start escapes text).next
  pure c.tokens.toList

/-- What the tokens of a template become, where `opened` lists the places of the open functions,
innermost first, and `closed` says whether the token before them closed a function. -/
def pieces (opened : List Nat) (closed : Bool) : List Token → Except Problem (List Piece)
  | [] =>
    match opened with
    | [] => .ok []
    | index :: _ => .error ⟨.unended .function, index⟩
  | token :: rest =>
    if token.kind == .functionStart then do
      let more ← pieces (token.index :: opened) false rest
      pure (.node (.block .function .function token []) :: more)
    -- What closes no function is text.
    else if token.kind == .functionEnd && !opened.isEmpty then do
      let more ← pieces opened.tail true rest
      pure (.node (.closing .function .function token) :: more)
    else if token.kind == .unaryOperator && opened.isEmpty && closed then do
      let node ← Node.ofUnary token
      let more ← pieces opened false rest
      pure (.node node :: more)
    else do
      let more ← pieces opened false rest
      pure (.text token :: more)

/-- The linked nodes of a template. -/
def parse (escapes : Bool) (text : String) : Except Problem (List Node) := do
  let tokens ← tokens escapes text
  let pieces ← pieces [] false tokens
  let nodes ← linkBlocks (Piece.gather pieces)
  linkUnary nodes

end MessageExpr.Template
